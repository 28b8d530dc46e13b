import NearDup.Text.Utf8

/-! Texts as bytes, and read back. Main statement: the bytes of a text are read as its characters,
with no stray byte among them. -/

namespace NearDup

namespace Text

/-! ### One character -/

theorem toNat_ofNat {n : Nat} (h : n < 0x100) : (UInt8.ofNat n).toNat = n := by
  rw [UInt8.toNat_ofNat']
  exact Nat.mod_eq_of_lt h

theorem continuation?_ofNat {n : Nat} (h : n < 0x40) :
    continuation? (UInt8.ofNat (n + 0x80)) = some n := by
  have hn := toNat_ofNat (show n + 0x80 < 0x100 by omega)
  have hrange : (0x80 : UInt8) ≤ UInt8.ofNat (n + 0x80) ∧ UInt8.ofNat (n + 0x80) < 0xC0 := by
    rw [UInt8.le_iff_toNat_le, UInt8.lt_iff_toNat_lt, hn]
    exact ⟨Nat.le_add_left _ _, Nat.add_lt_add_right h _⟩
  rw [continuation?, if_pos hrange, hn, Nat.add_sub_cancel]

theorem scalar?_toNat {least : Nat} {c : Char} (h : least ≤ c.toNat) :
    scalar? least c.toNat = some c := by
  rw [scalar?, if_pos ⟨h, c.valid⟩, Char.ofNat_toNat]

variable {c : Char} {lead b b' b'' : UInt8} {n x y z : Nat}

theorem charAt?_of_one (rest : Bytes) (hlead : lead.toNat = c.toNat) (hc : c.toNat < 0x80) :
    charAt? lead rest = some (c, rest) := by
  unfold charAt?
  simp only [hlead, if_pos hc, Char.ofNat_toNat]

theorem charAt?_of_two (rest : Bytes) (hlead : lead.toNat = n + 0xC0) (hn : n < 0x20)
    (hb : continuation? b = some x) (hc : c.toNat = n * 0x40 + x) (hleast : 0x80 ≤ c.toNat) :
    charAt? lead (b :: rest) = some (c, rest) := by
  have hsmall : ¬ n + 0xC0 < 0x80 := by omega
  have hrange : 0xC0 ≤ n + 0xC0 ∧ n + 0xC0 < 0xE0 := by omega
  unfold charAt?
  simp only [hlead, if_neg hsmall, if_pos hrange, hb, Nat.add_sub_cancel, Option.bind_eq_bind,
    Option.bind_some, ← hc, scalar?_toNat hleast]
  rfl

theorem charAt?_of_three (rest : Bytes) (hlead : lead.toNat = n + 0xE0) (hn : n < 0x10)
    (hb : continuation? b = some x) (hb' : continuation? b' = some y)
    (hc : c.toNat = (n * 0x40 + x) * 0x40 + y) (hleast : 0x800 ≤ c.toNat) :
    charAt? lead (b :: b' :: rest) = some (c, rest) := by
  have hsmall : ¬ n + 0xE0 < 0x80 := by omega
  have htwo : ¬ (0xC0 ≤ n + 0xE0 ∧ n + 0xE0 < 0xE0) := by omega
  have hrange : 0xE0 ≤ n + 0xE0 ∧ n + 0xE0 < 0xF0 := by omega
  unfold charAt?
  simp only [hlead, if_neg hsmall, if_neg htwo, if_pos hrange, hb, hb', Nat.add_sub_cancel,
    Option.bind_eq_bind, Option.bind_some, ← hc, scalar?_toNat hleast]
  rfl

theorem charAt?_of_four (rest : Bytes) (hlead : lead.toNat = n + 0xF0) (hn : n < 0x08)
    (hb : continuation? b = some x) (hb' : continuation? b' = some y)
    (hb'' : continuation? b'' = some z)
    (hc : c.toNat = ((n * 0x40 + x) * 0x40 + y) * 0x40 + z) (hleast : 0x10000 ≤ c.toNat) :
    charAt? lead (b :: b' :: b'' :: rest) = some (c, rest) := by
  have hsmall : ¬ n + 0xF0 < 0x80 := by omega
  have htwo : ¬ (0xC0 ≤ n + 0xF0 ∧ n + 0xF0 < 0xE0) := by omega
  have hthree : ¬ (0xE0 ≤ n + 0xF0 ∧ n + 0xF0 < 0xF0) := by omega
  have hrange : 0xF0 ≤ n + 0xF0 ∧ n + 0xF0 < 0xF8 := by omega
  unfold charAt?
  simp only [hlead, if_neg hsmall, if_neg htwo, if_neg hthree, if_pos hrange, hb, hb', hb'',
    Nat.add_sub_cancel, Option.bind_eq_bind, Option.bind_some, ← hc, scalar?_toNat hleast]
  rfl

/-- The bytes of a character are read as that character, whatever follows them. -/
theorem charAt?_utf8EncodeChar (c : Char) (rest : Bytes) : ∃ lead tail,
    String.utf8EncodeChar c = lead :: tail ∧ charAt? lead (tail ++ rest) = some (c, rest) := by
  have hvalid : c.toNat < 0x110000 := by
    rcases c.valid with h | ⟨-, h⟩ <;> change c.toNat < _ at h <;> omega
  have hsix (n : Nat) : n % 64 < 0x40 := Nat.mod_lt n (by decide)
  have hval : c.val.toNat = c.toNat := rfl
  unfold String.utf8EncodeChar
  simp only [hval]
  split
  · exact ⟨_, _, rfl, charAt?_of_one rest (toNat_ofNat (by omega)) (by omega)⟩
  · split
    · exact ⟨_, _, rfl, charAt?_of_two rest (toNat_ofNat (by omega)) (Nat.mod_lt _ (by decide))
        (continuation?_ofNat (hsix _)) (by omega) (by omega)⟩
    · split
      · exact ⟨_, _, rfl, charAt?_of_three rest (toNat_ofNat (by omega)) (Nat.mod_lt _ (by decide))
          (continuation?_ofNat (hsix _)) (continuation?_ofNat (hsix _)) (by omega) (by omega)⟩
      · exact ⟨_, _, rfl, charAt?_of_four rest (toNat_ofNat (by omega)) (Nat.mod_lt _ (by decide))
          (continuation?_ofNat (hsix _)) (continuation?_ofNat (hsix _))
          (continuation?_ofNat (hsix _)) (by omega) (by omega)⟩

/-! ### Whole texts -/

theorem symbols_cons_of_charAt? {rest rest' : Bytes} (h : charAt? lead rest = some (c, rest')) :
    symbols (lead :: rest) = .char c :: symbols rest' := by
  rw [symbols]
  split <;> rename_i h' <;> rw [h] at h'
  · obtain ⟨rfl, rfl⟩ := Prod.mk.inj (Option.some.inj h')
    rfl
  · cases h'

theorem symbols_flatMap_utf8EncodeChar (cs : List Char) :
    symbols (cs.flatMap String.utf8EncodeChar) = cs.map .char := by
  induction cs with
  | nil => rw [List.flatMap_nil, symbols, List.map_nil]
  | cons c cs ih =>
    obtain ⟨lead, tail, hbytes, hchar⟩ :=
      charAt?_utf8EncodeChar c (cs.flatMap String.utf8EncodeChar)
    rw [List.flatMap_cons, hbytes, List.cons_append, symbols_cons_of_charAt? hchar, ih,
      List.map_cons]

/-- The bytes of a text are read as its characters. -/
theorem symbols_encode (text : String) : symbols (encode text) = toSymbols text :=
  symbols_flatMap_utf8EncodeChar text.toList

end Text

end NearDup
