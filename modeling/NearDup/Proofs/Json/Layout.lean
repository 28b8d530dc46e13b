import Mathlib.Data.List.Chain
import NearDup.Proofs.Json.Scan

/-! Tokens in all the ways in which they can be laid out in a text, each in one of its spellings and with
space around it. Main statement: tokens are taken off every such text, if no two of them that stand
side by side are numbers. -/

namespace NearDup.Json

open Text (Symbol)

/-- The ways in which a token is written. -/
inductive Token.Written : Token → List Symbol → Prop
  | openArray : Written .openArray [.char '[']
  | closeArray : Written .closeArray [.char ']']
  | openObject : Written .openObject [.char '\x7b']
  | closeObject : Written .closeObject [.char '\x7d']
  | comma : Written .comma [.char ',']
  | colon : Written .colon [.char ':']
  | null : Written .null (['n', 'u', 'l', 'l'].map .char)
  | trueWord : Written (.boolean true) (['t', 'r', 'u', 'e'].map .char)
  | falseWord : Written (.boolean false) (['f', 'a', 'l', 's', 'e'].map .char)
  | number {n cs} (h : n.Written cs) : Written (.number n) (cs.map .char)
  | string {raw} (h : Enclosed raw) : Written (.string raw) (.char '"' :: raw ++ [.char '"'])

/-- The ways in which tokens are written one after another, with any space before, between and after
them. -/
inductive Spaced : List Token → List Symbol → Prop
  | nil : Spaced [] []
  | space {c tokens symbols} (hc : c ∈ [' ', '\n', '\t', '\r']) (h : Spaced tokens symbols) :
      Spaced tokens (.char c :: symbols)
  | token {token tokens written symbols} (htoken : token.Written written)
      (h : Spaced tokens symbols) : Spaced (token :: tokens) (written ++ symbols)

def Token.isNumber : Token → Bool
  | .number _ => true
  | _ => false

/-- Whether no two numbers stand side by side. -/
def Apart (tokens : List Token) : Prop :=
  tokens.IsChain fun token next => token.isNumber = true → next.isNumber = false

/-! ### One token -/

theorem tokenAt_of_number {c : Char} (h : c = '-' ∨ c.isDigit = true) {rest rest' : List Symbol}
    {n : NumberText} (hscan : NumberText.scan (.char c :: rest) = .ok (n, rest')) :
    tokenAt c rest = (.number n, rest') := by
  unfold tokenAt
  split
  any_goals simp at h
  simp [h, hscan]

theorem isSpace_of_number {c : Char} (h : c = '-' ∨ c.isDigit = true) : isSpace c = false := by
  rw [Bool.eq_false_iff]
  intro hspace
  simp only [isSpace, Bool.or_eq_true, decide_eq_true_eq] at hspace
  rcases hspace with ((rfl | rfl) | rfl) | rfl <;> simp at h

/-- A token is taken off a text that starts with it. After a number comes nothing that goes on with
it. -/
theorem Token.Written.tokenAt {token : Token} {written : List Symbol} (h : token.Written written) :
    ∃ c tail, written = .char c :: tail ∧ isSpace c = false ∧
      ∀ rest, (token.isNumber = true → NumberText.Ends rest) →
        tokenAt c (tail ++ rest) = (token, rest) := by
  cases h with
  | number h =>
    obtain ⟨c, tail, rfl, hc⟩ := h.exists_cons
    exact ⟨c, _, rfl, isSpace_of_number hc, fun rest hrest =>
      tokenAt_of_number hc (h.scan (hrest rfl))⟩
  | string h =>
    refine ⟨'"', _, rfl, rfl, fun rest _ => ?_⟩
    simp [Json.tokenAt, h.scanString]
  | _ => exact ⟨_, _, rfl, rfl, fun _ _ => rfl⟩

/-- A token that is no number cannot go on with a number before it. -/
theorem Token.Written.ends {token : Token} {written : List Symbol} (h : token.Written written)
    (hnumber : token.isNumber = false) (rest : List Symbol) :
    NumberText.Ends (written ++ rest) := by
  cases h with
  | number _ => cases hnumber
  | _ => exact NumberText.ends_cons (by decide) (by decide) _

/-! ### Whole texts -/

namespace Spaced

variable {tokens tokens' : List Token} {symbols symbols' : List Symbol}

theorem append (h : Spaced tokens symbols) (h' : Spaced tokens' symbols') :
    Spaced (tokens ++ tokens') (symbols ++ symbols') := by
  induction h with
  | nil => exact h'
  | space hc _ ih => exact .space hc ih
  | token htoken _ ih =>
    rw [List.append_assoc]
    exact .token htoken ih

theorem singleton {token : Token} {written : List Symbol} (h : token.Written written) :
    Spaced [token] written := by
  have hspaced := Spaced.token h .nil
  rwa [List.append_nil] at hspaced

theorem ends (h : Spaced tokens symbols) (hhead : ∀ token ∈ tokens.head?, token.isNumber = false) :
    NumberText.Ends symbols := by
  cases h with
  | nil => exact NumberText.ends_nil
  | space hc _ =>
    simp only [List.mem_cons, List.not_mem_nil, or_false] at hc
    rcases hc with rfl | rfl | rfl | rfl <;>
      exact NumberText.ends_cons (by decide) (by decide) _
  | token htoken _ => exact htoken.ends (hhead _ rfl) _

/-- Tokens are taken off every text that they are laid out in. -/
theorem tokensUpTo (h : Spaced tokens symbols) (hapart : Apart tokens) {limit : Nat}
    (hlimit : symbols.length ≤ limit) : tokensUpTo limit symbols = tokens := by
  induction h generalizing limit with
  | nil => cases limit <;> rfl
  | @space c tokens symbols hc _ ih =>
    obtain ⟨limit, rfl⟩ := Nat.exists_eq_add_of_le' (Nat.lt_of_lt_of_le (Nat.succ_pos _) hlimit)
    have hspace : isSpace c = true := by simpa [isSpace, or_assoc] using hc
    rw [Json.tokensUpTo, if_pos hspace]
    exact ih hapart (Nat.le_of_succ_le_succ hlimit)
  | token htoken h ih =>
    obtain ⟨c, tail, rfl, hspace, htokenAt⟩ := htoken.tokenAt
    simp only [List.cons_append, List.length_cons, List.length_append] at hlimit
    obtain ⟨limit, rfl⟩ := Nat.exists_eq_add_of_le' (Nat.lt_of_lt_of_le (Nat.succ_pos _) hlimit)
    have hends := fun hnumber => h.ends fun next hnext => hapart.rel_head? hnext hnumber
    simp only [List.cons_append, Json.tokensUpTo, hspace, htokenAt _ hends, Bool.false_eq_true,
      if_false]
    rw [ih hapart.tail (by omega)]

/-- A text is the tokens that are laid out in it. -/
theorem tokens_eq (h : Spaced tokens symbols) (hapart : Apart tokens) : Json.tokens symbols = tokens :=
  h.tokensUpTo hapart (Nat.le_refl _)

end Spaced

end NearDup.Json
