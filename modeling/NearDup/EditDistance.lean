/-! The least cost of turning one sequence into another by insertions, deletions and
replacements. The table of all distances between heads of the two sequences is filled row by row,
and only the last row is kept. -/

namespace NearDup

/-- What one insertion, one deletion and one replacement cost. -/
structure EditCosts where
  insert : Nat
  delete : Nat
  replace : Nat
deriving DecidableEq, Repr

namespace EditCosts

variable {α β : Type}

def unit : EditCosts := ⟨1, 1, 1⟩

/-- The costs of the way back, where what was inserted is deleted. -/
def flip (costs : EditCosts) : EditCosts :=
  ⟨costs.delete, costs.insert, costs.replace⟩

/-- The distances from the empty sequence to the heads of a sequence of `n` elements. -/
def firstRow (costs : EditCosts) (n : Nat) : List Nat :=
  (List.range (n + 1)).map (· * costs.insert)

/-- The cells of a row to the right of `left`, whose neighbours above are `diagonal` and then
`row`. `same` tells which columns match the element of this row. -/
def cellsFrom (costs : EditCosts) (same : β → Bool) :
    (columns : List β) → (diagonal left : Nat) → (row : List Nat) → List Nat
  | y :: columns, diagonal, left, above :: row =>
    let replaced := if same y then diagonal else diagonal + costs.replace
    let cell := min (min (above + costs.delete) (left + costs.insert)) replaced
    cell :: cellsFrom costs same columns above cell row
  | _, _, _, _ => []

/-- The row below `row`, for one more element in front of the columns. -/
def nextRow (costs : EditCosts) (same : β → Bool) (columns : List β) : List Nat → List Nat
  | [] => []
  | first :: row =>
    let left := first + costs.delete
    left :: cellsFrom costs same columns first left row

/-- The row after all of `rows`: the distances from `rows` to the heads of `columns`. -/
def lastRow (costs : EditCosts) (eq : α → β → Bool) (rows : List α) (columns : List β) : List Nat :=
  rows.foldl (fun row x => nextRow costs (eq x) columns row) (firstRow costs columns.length)

/-- The last cell of the table with `rows` down its side and `columns` along its top. -/
def tableDistance (costs : EditCosts) (eq : α → β → Bool) (rows : List α) (columns : List β) :
    Nat :=
  (lastRow costs eq rows columns).getLastD 0

/-- The cost of turning `a` into `b`, where `eq` tells which elements need no replacement. The
shorter sequence goes along the top of the table. -/
def distanceBy (costs : EditCosts) (eq : α → β → Bool) (a : List α) (b : List β) : Nat :=
  match a, b with
  | [], [] => 0
  | [], b => costs.insert * b.length
  | a, [] => costs.delete * a.length
  | a, b =>
    if b.length > a.length then costs.flip.tableDistance (fun y x => eq x y) b a
    else costs.tableDistance eq a b

/-- The cost of turning `a` into `b`, where equal elements need no replacement. -/
def distance [BEq α] (costs : EditCosts) (a b : List α) : Nat :=
  costs.distanceBy (· == ·) a b

/-- How near `a` and `b` are, from zero to one: one at distance zero, and otherwise one less the
distance per element of the longer sequence. -/
def similarityBy (costs : EditCosts) (eq : α → β → Bool) (a : List α) (b : List β) : Float :=
  match costs.distanceBy eq a b with
  | 0 => 1.0
  | d =>
    let nearness := 1.0 - Float.ofNat d / Float.ofNat (max a.length b.length)
    if nearness < 0.0 then 0.0 else nearness

/-- `similarityBy` with plain equality. -/
def similarity [BEq α] (costs : EditCosts) (a b : List α) : Float :=
  costs.similarityBy (· == ·) a b

end EditCosts

end NearDup
