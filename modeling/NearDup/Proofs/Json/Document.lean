import NearDup.Json.Document
import NearDup.Proofs.Json.Layout
import NearDup.Proofs.Text.Utf8

/-! Values in all the ways in which they can be written, and read back. Main statement: a text in which
a value is written has that value for its tree, whatever space there is between its tokens and whatever
numbers and strings are in it; the text that values are rendered as is one of these. -/

namespace NearDup.Json

open Text (Symbol)

/-! ### Trees and their tokens -/

mutual

/-- The tokens of a value, in their order. -/
def Node.tokens : Node → List Token
  | .null => [.null]
  | .boolean b => [.boolean b]
  | .number n => [.number n]
  | .string raw => [.string raw]
  | .array items _ => .openArray :: tokensOfItems items ++ [.closeArray]
  | .object members _ => .openObject :: tokensOfMembers members ++ [.closeObject]
  | .broken rest fault => [.broken rest fault]

def tokensOfItems : List Node → List Token
  | [] => []
  | [item] => item.tokens
  | item :: items => item.tokens ++ .comma :: tokensOfItems items

def tokensOfMembers : List (RawString × Node) → List Token
  | [] => []
  | [(name, value)] => .string name :: .colon :: value.tokens
  | (name, value) :: members =>
    .string name :: .colon :: value.tokens ++ .comma :: tokensOfMembers members

end

/-- Whether a value has no flaw, on the outside or in any value that it holds. -/
inductive Node.IsWhole : Node → Prop
  | null : IsWhole .null
  | boolean (b) : IsWhole (.boolean b)
  | number (n) : IsWhole (.number n)
  | string (raw) : IsWhole (.string raw)
  | array {items} (h : ∀ item ∈ items, item.IsWhole) : IsWhole (.array items .proper)
  | object {members} (h : ∀ member ∈ members, member.2.IsWhole) : IsWhole (.object members .proper)

/-- Whether a value is what symbols hold: its tokens, each in one of its spellings and with any space
around it. -/
structure Node.WrittenIn (node : Node) (symbols : List Symbol) : Prop where
  whole : node.IsWhole
  spaced : Spaced node.tokens symbols

/-! ### Texts as tokens -/

theorem apart_append_cons {token : Token} {before after : List Token}
    (htoken : token.isNumber = false) (hbefore : Apart before) (hafter : Apart after) :
    Apart (before ++ token :: after) := by
  have hcons : Apart (token :: after) := by
    refine List.isChain_cons.mpr ⟨fun _ _ hnumber => ?_, hafter⟩
    rw [htoken] at hnumber
    cases hnumber
  refine List.isChain_append.mpr ⟨hbefore, hcons, fun _ _ next hnext _ => ?_⟩
  obtain rfl := Option.some.inj hnext
  exact htoken

theorem apart_bracketed {left right : Token} {tokens : List Token} (hleft : left.isNumber = false)
    (hright : right.isNumber = false) (h : Apart tokens) : Apart (left :: tokens ++ [right]) :=
  apart_append_cons hright (apart_append_cons hleft .nil h) .nil

theorem apart_tokensOfItems {items : List Node} (h : ∀ item ∈ items, Apart item.tokens) :
    Apart (tokensOfItems items) := by
  match items with
  | [] => exact .nil
  | [item] => exact h item List.mem_cons_self
  | item :: next :: items =>
    obtain ⟨hitem, hitems⟩ := List.forall_mem_cons.mp h
    exact apart_append_cons rfl hitem (apart_tokensOfItems hitems)

theorem apart_tokensOfMembers {members : List (RawString × Node)}
    (h : ∀ member ∈ members, Apart member.2.tokens) : Apart (tokensOfMembers members) := by
  have hnamed (name : RawString) {tokens : List Token} (h : Apart tokens) :
      Apart (.string name :: .colon :: tokens) :=
    apart_append_cons rfl .nil (apart_append_cons rfl .nil h)
  match members with
  | [] => exact .nil
  | [(name, value)] => exact hnamed name (h _ List.mem_cons_self)
  | (name, value) :: next :: members =>
    obtain ⟨hvalue, hmembers⟩ := List.forall_mem_cons.mp h
    exact apart_append_cons rfl (hnamed name hvalue) (apart_tokensOfMembers hmembers)

/-- In a value, no two numbers stand side by side. -/
theorem Node.IsWhole.apart {node : Node} (h : node.IsWhole) : Apart node.tokens := by
  induction h with
  | null | boolean _ | number _ | string _ => exact .singleton _
  | array _ ih => exact apart_bracketed rfl rfl (apart_tokensOfItems ih)
  | object _ ih => exact apart_bracketed rfl rfl (apart_tokensOfMembers ih)

/-! ### Tokens as trees -/

theorem Node.IsWhole.exists_cons {node : Node} (h : node.IsWhole) :
    ∃ token tokens, node.tokens = token :: tokens ∧ token ≠ .closeArray := by
  cases h <;> exact ⟨_, _, rfl, by simp⟩

theorem exists_cons_tokensOfItems {items : List Node} (hne : items ≠ [])
    (h : ∀ item ∈ items, item.IsWhole) :
    ∃ token tokens, tokensOfItems items = token :: tokens ∧ token ≠ .closeArray := by
  match items with
  | [] => exact absurd rfl hne
  | [item] => exact (h item List.mem_cons_self).exists_cons
  | item :: next :: items =>
    obtain ⟨token, tokens, hitem, hne⟩ := (h item List.mem_cons_self).exists_cons
    exact ⟨token, _, congrArg (· ++ Token.comma :: tokensOfItems (next :: items)) hitem, hne⟩

theorem exists_cons_tokensOfMembers {members : List (RawString × Node)} (hne : members ≠ []) :
    ∃ name tokens, tokensOfMembers members = .string name :: tokens := by
  match members with
  | [] => exact absurd rfl hne
  | [(name, value)] => exact ⟨_, _, rfl⟩
  | (name, value) :: next :: members => exact ⟨_, _, rfl⟩

theorem parseValue_openArray (fuel : Nat) {token : Token} (tokens : List Token)
    (h : token ≠ .closeArray) :
    parseValue (fuel + 1) (.openArray :: token :: tokens) =
      (.array (parseItems fuel (token :: tokens)).1 (parseItems fuel (token :: tokens)).2.1,
        (parseItems fuel (token :: tokens)).2.2) := by
  simp only [parseValue]
  split
  · rename_i heq
    exact absurd (List.cons.inj heq).1 h
  · rename_i heq
    cases heq
  · rfl

theorem parseValue_openObject (fuel : Nat) (name : RawString) (tokens : List Token) :
    parseValue (fuel + 1) (.openObject :: .string name :: tokens) =
      (.object (parseMembers fuel (.string name :: tokens)).1
          (parseMembers fuel (.string name :: tokens)).2.1,
        (parseMembers fuel (.string name :: tokens)).2.2) := rfl

/-- Whether a value is read off its tokens, whatever follows them, if the calls may go deep enough. -/
def Node.Parses (node : Node) : Prop :=
  ∀ fuel rest, 2 * node.tokens.length ≤ fuel + 2 →
    parseValue (fuel + 1) (node.tokens ++ rest) = (node, rest)

theorem parseItems_tokensOfItems {items : List Node} (hne : items ≠ [])
    (hwhole : ∀ item ∈ items, item.IsWhole) (h : ∀ item ∈ items, item.Parses) {fuel : Nat}
    (hfuel : 2 * (tokensOfItems items).length ≤ fuel) (rest : List Token) :
    parseItems fuel (tokensOfItems items ++ .closeArray :: rest) = (items, .proper, rest) := by
  obtain ⟨fuel, rfl⟩ : ∃ fuel', fuel = fuel' + 2 := by
    obtain ⟨token, tokens, htokens, -⟩ := exists_cons_tokensOfItems hne hwhole
    rw [htokens, List.length_cons] at hfuel
    exact Nat.exists_eq_add_of_le' (by omega)
  match items with
  | [] => exact absurd rfl hne
  | [item] =>
    simp only [tokensOfItems] at hfuel ⊢
    simp only [parseItems, h item List.mem_cons_self _ _ hfuel]
  | item :: next :: items =>
    simp only [tokensOfItems, List.length_append, List.length_cons] at hfuel
    obtain ⟨hitem, hitems⟩ := List.forall_mem_cons.mp h
    have hrest := parseItems_tokensOfItems (List.cons_ne_nil next items)
      (List.forall_mem_cons.mp hwhole).2 hitems (by omega : _ ≤ fuel + 1) rest
    rw [tokensOfItems, List.append_assoc, List.cons_append, parseItems, hitem fuel _ (by omega)]
    · simp only [hrest]
    · exact List.cons_ne_nil next items

theorem parseMembers_tokensOfMembers {members : List (RawString × Node)} (hne : members ≠ [])
    (h : ∀ member ∈ members, member.2.Parses) {fuel : Nat}
    (hfuel : 2 * (tokensOfMembers members).length ≤ fuel) (rest : List Token) :
    parseMembers fuel (tokensOfMembers members ++ .closeObject :: rest) =
      (members, .proper, rest) := by
  obtain ⟨fuel, rfl⟩ : ∃ fuel', fuel = fuel' + 2 := by
    obtain ⟨name, tokens, htokens⟩ := exists_cons_tokensOfMembers hne
    rw [htokens, List.length_cons] at hfuel
    exact Nat.exists_eq_add_of_le' (by omega)
  match members with
  | [] => exact absurd rfl hne
  | [(name, value)] =>
    have hvalue : value.Parses := h _ List.mem_cons_self
    simp only [tokensOfMembers, List.length_cons] at hfuel
    simp only [tokensOfMembers, List.cons_append, parseMembers, hvalue fuel _ (by omega)]
  | (name, value) :: next :: members =>
    simp only [tokensOfMembers, List.length_append, List.length_cons] at hfuel
    obtain ⟨hvalue, hmembers⟩ : value.Parses ∧ ∀ member ∈ next :: members, member.2.Parses :=
      List.forall_mem_cons.mp h
    have hrest := parseMembers_tokensOfMembers (List.cons_ne_nil next members) hmembers
      (by omega : _ ≤ fuel + 1) rest
    simp only [tokensOfMembers, List.append_assoc, List.cons_append, parseMembers,
      hvalue fuel _ (by omega), hrest]

/-- A value without flaw is read off its tokens. -/
theorem Node.IsWhole.parses {node : Node} (h : node.IsWhole) : node.Parses := by
  induction h with
  | null | boolean _ | number _ | string _ => exact fun _ _ _ => rfl
  | @array items h ih =>
    intro fuel rest hfuel
    match items with
    | [] => rfl
    | item :: items =>
      simp only [tokens, List.length_cons, List.length_append] at hfuel
      have hitems := parseItems_tokensOfItems (List.cons_ne_nil item items) h ih
        (by omega : _ ≤ fuel) rest
      -- An array is empty if its second token closes it, so that of the first item has to be seen.
      obtain ⟨token, tail, htokens, hne⟩ :=
        exists_cons_tokensOfItems (List.cons_ne_nil item items) h
      simp only [tokens, htokens, List.cons_append, List.append_assoc, List.nil_append] at hitems ⊢
      rw [parseValue_openArray fuel _ hne, hitems]
  | @object members h ih =>
    intro fuel rest hfuel
    match members with
    | [] => rfl
    | member :: members =>
      simp only [tokens, List.length_cons, List.length_append] at hfuel
      have hmembers := parseMembers_tokensOfMembers (List.cons_ne_nil member members) ih
        (by omega : _ ≤ fuel) rest
      obtain ⟨name, tail, htokens⟩ := exists_cons_tokensOfMembers (List.cons_ne_nil member members)
      simp only [tokens, htokens, List.cons_append, List.append_assoc, List.nil_append] at hmembers ⊢
      rw [parseValue_openObject, hmembers]

/-- The symbols in which a value is written have that value for their tree, and end with it. -/
theorem Node.WrittenIn.ofSymbols {node : Node} {symbols : List Symbol} (h : node.WrittenIn symbols) :
    Document.ofSymbols symbols = ⟨node, true⟩ := by
  have hparse := h.whole.parses (2 * node.tokens.length + 1) [] (by omega)
  rw [List.append_nil] at hparse
  rw [Document.ofSymbols, h.spaced.tokens_eq h.whole.apart, Document.ofTokens, hparse]
  rfl

/-- The bytes of a text in which a value is written have that value for their tree. -/
theorem Node.WrittenIn.ofBytes {node : Node} {text : String}
    (h : node.WrittenIn (Text.toSymbols text)) :
    Document.ofBytes (Text.encode text) = ⟨node, true⟩ := by
  rw [Document.ofBytes, Text.symbols_encode, h.ofSymbols]

/-! ### Rendered values -/

mutual

/-- The tree of a value as it is written. -/
def nodeOf : Json → Node
  | .null => .null
  | .boolean b => .boolean b
  | .number n => .number (.ofNat n)
  | .string text => .string (rawOf text)
  | .array items => .array (nodesOf items) .proper
  | .object members => .object (membersOf members) .proper

def nodesOf : List Json → List Node
  | [] => []
  | item :: items => nodeOf item :: nodesOf items

def membersOf : List (String × Json) → List (RawString × Node)
  | [] => []
  | (name, value) :: members => (rawOf name, nodeOf value) :: membersOf members

end

mutual

theorem isWhole_nodeOf (value : Json) : (nodeOf value).IsWhole := by
  match value with
  | .null => exact .null
  | .boolean b => exact .boolean b
  | .number n => exact .number _
  | .string text => exact .string _
  | .array items => exact .array (isWhole_nodesOf items)
  | .object members => exact .object (isWhole_membersOf members)

theorem isWhole_nodesOf (items : List Json) : ∀ item ∈ nodesOf items, item.IsWhole := by
  match items with
  | [] => exact fun _ h => nomatch h
  | item :: items => exact List.forall_mem_cons.mpr ⟨isWhole_nodeOf item, isWhole_nodesOf items⟩

theorem isWhole_membersOf (members : List (String × Json)) :
    ∀ member ∈ membersOf members, member.2.IsWhole := by
  match members with
  | [] => exact fun _ h => nomatch h
  | (name, value) :: members =>
    exact List.forall_mem_cons.mpr ⟨isWhole_nodeOf value, isWhole_membersOf members⟩

end

theorem written_renderString (text : String) :
    (Token.string (rawOf text)).Written ((renderString text).map .char) := by
  have hstring := Token.Written.string (spells_rawOf text).enclosed
  rwa [show Symbol.char '"' :: rawOf text ++ [.char '"'] = (renderString text).map .char by
    simp [renderString, rawOf]] at hstring

theorem spaced_bracketed {left right : Char} {opening closing : Token} {tokens : List Token}
    {inner : List Char} (hleft : opening.Written [.char left]) (hright : closing.Written [.char right])
    (h : Spaced tokens (inner.map .char)) :
    Spaced (opening :: tokens ++ [closing]) ((left :: inner ++ [right]).map .char) := by
  rw [List.map_append]
  exact (Spaced.token hleft h).append (.singleton hright)

theorem spaced_separated {tokens tokens' : List Token} {first others : List Char}
    (h : Spaced tokens (first.map .char)) (h' : Spaced tokens' (others.map .char)) :
    Spaced (tokens ++ .comma :: tokens') ((first ++ ',' :: others).map .char) := by
  rw [List.map_append]
  exact h.append (.token .comma h')

theorem spaced_named (name : String) {tokens : List Token} {chars : List Char}
    (h : Spaced tokens (chars.map .char)) :
    Spaced (.string (rawOf name) :: .colon :: tokens)
      ((renderString name ++ ':' :: chars).map .char) := by
  rw [List.map_append]
  exact .token (written_renderString name) (.token .colon h)

mutual

/-- The text of a value is one of its layouts, without any space. -/
theorem spaced_renderChars (value : Json) :
    Spaced (nodeOf value).tokens ((renderChars value).map .char) := by
  match value with
  | .null => exact .singleton .null
  | .boolean true => exact .singleton .trueWord
  | .boolean false => exact .singleton .falseWord
  | .number n => exact .singleton (.number (NumberText.written_ofNat n))
  | .string text => exact .singleton (written_renderString text)
  | .array items => exact spaced_bracketed .openArray .closeArray (spaced_renderItems items)
  | .object members => exact spaced_bracketed .openObject .closeObject (spaced_renderMembers members)

theorem spaced_renderItems (items : List Json) :
    Spaced (tokensOfItems (nodesOf items)) ((renderItems items).map .char) := by
  match items with
  | [] => exact .nil
  | [item] => exact spaced_renderChars item
  | item :: next :: items =>
    exact spaced_separated (spaced_renderChars item) (spaced_renderItems (next :: items))

theorem spaced_renderMembers (members : List (String × Json)) :
    Spaced (tokensOfMembers (membersOf members)) ((renderMembers members).map .char) := by
  match members with
  | [] => exact .nil
  | [(name, value)] => exact spaced_named name (spaced_renderChars value)
  | (name, value) :: next :: members =>
    exact spaced_separated (spaced_named name (spaced_renderChars value))
      (spaced_renderMembers (next :: members))

end

/-- A value is written in the text that it is rendered as. -/
theorem writtenIn_render (value : Json) : (nodeOf value).WrittenIn (Text.toSymbols value.render) := by
  refine ⟨isWhole_nodeOf value, ?_⟩
  rw [render, Text.toSymbols, String.toList_ofList]
  exact spaced_renderChars value

/-- The text of a value has that value for its tree, and ends with it. -/
theorem ofText_render (value : Json) : Document.ofText value.render = ⟨nodeOf value, true⟩ :=
  (writtenIn_render value).ofSymbols

/-- The bytes of the text of a value have that value for their tree. -/
theorem ofBytes_encode_render (value : Json) :
    Document.ofBytes (Text.encode value.render) = ⟨nodeOf value, true⟩ :=
  (writtenIn_render value).ofBytes

end NearDup.Json
