import QuerySwarm.Text.Utf8

/-!
# Characters and their bytes

A character of ASCII is one byte, and no byte of another character is one of ASCII
(`of_mem_encodeChar`). A step of the decoder that gives a character has taken its bytes and nothing
else (`encodeChar_of_decodeStep`), so a text has no other well-formed bytes than its own.
-/

namespace QuerySwarm

namespace Utf8

/-! ### The bytes of a character -/

@[simp] theorem encode_nil : encode [] = [] := rfl

@[simp] theorem encode_append (a b : List Char) : encode (a ++ b) = encode a ++ encode b :=
  List.flatMap_append

theorem encode_cons (c : Char) (cs : List Char) : encode (c :: cs) = encodeChar c ++ encode cs := rfl

/-- A character of ASCII is one byte. -/
theorem encodeChar_of_lt {c : Char} (h : c.toNat < 0x80) : encodeChar c = [.ofNat c.toNat] := by
  unfold encodeChar
  exact if_pos h

/-- The bytes of a character of ASCII are the character, and those of any other are no ASCII. -/
theorem of_mem_encodeChar {c : Char} {b : UInt8} (h : b ∈ encodeChar c) :
    (c.toNat < 128 ∧ b.toNat = c.toNat) ∨ (128 ≤ c.toNat ∧ 128 ≤ b.toNat) := by
  have hr := char_range c
  by_cases hascii : c.toNat < 128
  · rw [encodeChar_of_lt hascii, List.mem_singleton] at h
    subst h
    exact .inl ⟨hascii, toNat_ofNat_byte _ (by omega)⟩
  · refine .inr ⟨Nat.le_of_not_lt hascii, ?_⟩
    unfold encodeChar at h
    simp only [if_neg hascii] at h
    split at h
    · simp only [List.mem_cons, List.not_mem_nil, or_false] at h
      rcases h with rfl | rfl <;> rw [toNat_ofNat_byte _ (by omega)] <;> omega
    · split at h
      · simp only [List.mem_cons, List.not_mem_nil, or_false] at h
        rcases h with rfl | rfl | rfl <;> rw [toNat_ofNat_byte _ (by omega)] <;> omega
      · simp only [List.mem_cons, List.not_mem_nil, or_false] at h
        rcases h with rfl | rfl | rfl | rfl <;> rw [toNat_ofNat_byte _ (by omega)] <;> omega

/-! ### A step over a character -/

theorem toNat_charOfNat {n : Nat} (h : n < 0xD800 ∨ (0xDFFF < n ∧ n < 0x110000)) :
    (Char.ofNat n).toNat = n := by
  have valid : n.isValidChar := h
  rw [Char.ofNat, dif_pos valid]
  rfl

section Lengths

variable {b b1 b2 b3 : UInt8}

theorem encodeChar_two (hb : 0xC2 ≤ b.toNat ∧ b.toNat < 0xE0)
    (hb1 : 0x80 ≤ b1.toNat ∧ b1.toNat ≤ 0xBF) :
    encodeChar (Char.ofNat (b.toNat % 0x20 * 0x40 + b1.toNat % 0x40)) = [b, b1] := by
  unfold encodeChar
  generalize hv : b.toNat % 0x20 * 0x40 + b1.toNat % 0x40 = v
  have h0 : 0xC0 + v / 0x40 = b.toNat := by omega
  have h1 : 0x80 + v % 0x40 = b1.toNat := by omega
  simp only [toNat_charOfNat (n := v) (by omega), h0, h1, UInt8.ofNat_toNat]
  rw [if_neg (by omega), if_pos (by omega)]

theorem encodeChar_three (hb : 0xE0 ≤ b.toNat ∧ b.toNat < 0xF0)
    (hb1 : 0x80 ≤ b1.toNat ∧ b1.toNat ≤ 0xBF) (hb2 : 0x80 ≤ b2.toNat ∧ b2.toNat < 0xC0)
    (low : b.toNat = 0xE0 → 0xA0 ≤ b1.toNat) (high : b.toNat = 0xED → b1.toNat ≤ 0x9F) :
    encodeChar (Char.ofNat (b.toNat % 0x10 * 0x1000 + b1.toNat % 0x40 * 0x40 + b2.toNat % 0x40)) =
      [b, b1, b2] := by
  unfold encodeChar
  generalize hv : b.toNat % 0x10 * 0x1000 + b1.toNat % 0x40 * 0x40 + b2.toNat % 0x40 = v
  have h0 : 0xE0 + v / 0x1000 = b.toNat := by omega
  have h1 : 0x80 + v / 0x40 % 0x40 = b1.toNat := by omega
  have h2 : 0x80 + v % 0x40 = b2.toNat := by omega
  simp only [toNat_charOfNat (n := v) (by omega), h0, h1, h2, UInt8.ofNat_toNat]
  rw [if_neg (by omega), if_neg (by omega), if_pos (by omega)]

theorem encodeChar_four (hb : 0xF0 ≤ b.toNat ∧ b.toNat ≤ 0xF4)
    (hb1 : 0x80 ≤ b1.toNat ∧ b1.toNat ≤ 0xBF) (hb2 : 0x80 ≤ b2.toNat ∧ b2.toNat < 0xC0)
    (hb3 : 0x80 ≤ b3.toNat ∧ b3.toNat < 0xC0)
    (low : b.toNat = 0xF0 → 0x90 ≤ b1.toNat) (high : b.toNat = 0xF4 → b1.toNat ≤ 0x8F) :
    encodeChar (Char.ofNat (b.toNat % 0x08 * 0x40000 + b1.toNat % 0x40 * 0x1000 +
      b2.toNat % 0x40 * 0x40 + b3.toNat % 0x40)) = [b, b1, b2, b3] := by
  unfold encodeChar
  generalize hv : b.toNat % 0x08 * 0x40000 + b1.toNat % 0x40 * 0x1000 + b2.toNat % 0x40 * 0x40 +
    b3.toNat % 0x40 = v
  have h0 : 0xF0 + v / 0x40000 = b.toNat := by omega
  have h1 : 0x80 + v / 0x1000 % 0x40 = b1.toNat := by omega
  have h2 : 0x80 + v / 0x40 % 0x40 = b2.toNat := by omega
  have h3 : 0x80 + v % 0x40 = b3.toNat := by omega
  simp only [toNat_charOfNat (n := v) (by omega), h0, h1, h2, h3, UInt8.ofNat_toNat]
  rw [if_neg (by omega), if_neg (by omega), if_neg (by omega)]

end Lengths

/-- What the first byte of a sequence says of its length and of the second byte. -/
theorem of_lead?_eq_some {n count low high : Nat} (h : lead? n = some (count, low, high)) :
    (count = 1 ∧ 0xC2 ≤ n ∧ n < 0xE0 ∧ low = 0x80 ∧ high = 0xBF) ∨
    (count = 2 ∧ 0xE0 ≤ n ∧ n < 0xF0 ∧ 0x80 ≤ low ∧ high ≤ 0xBF ∧ (n = 0xE0 → low = 0xA0) ∧
      (n = 0xED → high = 0x9F)) ∨
    (count = 3 ∧ 0xF0 ≤ n ∧ n ≤ 0xF4 ∧ 0x80 ≤ low ∧ high ≤ 0xBF ∧ (n = 0xF0 → low = 0x90) ∧
      (n = 0xF4 → high = 0x8F)) := by
  unfold lead? at h
  repeat' split at h
  all_goals cases h
  all_goals omega

/-- A step over a character has taken its bytes. -/
theorem encodeChar_of_decodeStep {b : UInt8} {rest rest' : Bytes} {char : Char}
    (h : decodeStep b rest = (some char, rest')) : b :: rest = encodeChar char ++ rest' := by
  unfold decodeStep at h
  dsimp only at h
  split at h
  · next hascii =>
    cases h
    have hchar : (Char.ofNat b.toNat).toNat = b.toNat := toNat_charOfNat (by omega)
    rw [encodeChar_of_lt (by omega), hchar, UInt8.ofNat_toNat]
    rfl
  · split at h
    · cases h
    · next low high b1 rest1 hlead =>
      have hb := of_lead?_eq_some hlead
      split at h
      · next hb1 =>
        cases h
        rw [encodeChar_two (by omega) (by omega)]
        rfl
      · cases h
    · next low high b1 rest1 hlead =>
      have hb := of_lead?_eq_some hlead
      split at h
      · next hb1 =>
        split at h
        · next b2 rest2 =>
          split at h
          · next hb2 =>
            cases h
            have hb2 := of_decide_eq_true hb2
            rw [encodeChar_three (by omega) (by omega) hb2 (by omega) (by omega)]
            rfl
          · cases h
        · cases h
      · cases h
    · next count low high b1 rest1 hone htwo hlead =>
      have hb := of_lead?_eq_some hlead
      have hcount : count ≠ 1 ∧ count ≠ 2 := ⟨hone, htwo⟩
      split at h
      · next hb1 =>
        split at h
        · next b2 rest2 =>
          split at h
          · next hb2 =>
            split at h
            · next b3 rest3 =>
              split at h
              · next hb3 =>
                cases h
                have hb2 := of_decide_eq_true hb2
                have hb3 := of_decide_eq_true hb3
                rw [encodeChar_four (by omega) (by omega) hb2 hb3 (by omega) (by omega)]
                rfl
              · cases h
            · cases h
          · cases h
        · cases h
      · cases h
    · cases h

end Utf8

end QuerySwarm
