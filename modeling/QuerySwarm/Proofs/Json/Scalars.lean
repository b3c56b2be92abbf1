import QuerySwarm.Json.Printer
import QuerySwarm.Json.Reader
import QuerySwarm.Proofs.Text.Utf8

/-!
# Scalars are read back

The text of a string or of a whole number is read back as what it was written from, whatever follows
it; only a number must not be followed by what could be part of one.

* `word_ok`: the letters of a word.
* `stringBody_escaped`: every character of a string is read back, whether it was escaped or not.
* `number_digits`: the digits of a number that fits in 64 bits.
-/

namespace QuerySwarm

namespace Json

open Cursor

/-! ### Words -/

theorem word_ok (w : Bytes) {c : Cursor} {rest : Bytes} (h : c.rest = w ++ rest) :
    ∃ c', word w c = .ok c' ∧ c'.rest = rest := by
  induction w generalizing c with
  | nil => exact ⟨c, rfl, h⟩
  | cons b w ih =>
    unfold word
    rw [h]
    simp only [List.cons_append, if_true]
    exact ih (after_rest _ _ _)

/-! ### Strings -/

section Strings

variable {done : List Char} {c : Cursor} {rest : Bytes}

/-- No byte of a character that is not escaped is a quote, a backslash or a control. -/
theorem plain_bytes {char : Char} (quote : char ≠ '"') (backslash : char ≠ '\\')
    (control : 0x20 ≤ char.toNat) {b : UInt8} (hb : b ∈ Utf8.encodeChar char) :
    b ≠ 0x22 ∧ b ≠ 0x5C ∧ 0x20 ≤ b.toNat := by
  have hbyte := Utf8.of_mem_encodeChar hb
  have hne : ∀ other : Char, other.toNat < 0x80 → char ≠ other → b ≠ .ofNat other.toNat := by
    rintro other hother hne rfl
    rw [Utf8.toNat_ofNat_byte _ (by omega)] at hbyte
    rcases hbyte with ⟨-, heq⟩ | ⟨-, hge⟩
    · exact hne (Char.toNat_inj.1 heq.symm)
    · omega
  exact ⟨hne '"' (by decide) quote, hne '\\' (by decide) backslash, by omega⟩

/-- An escape stands for one character. -/
theorem stringFrom_escape {char : Char} {tail : Bytes} {c' : Cursor} (h : c.rest = 0x5C :: tail)
    (hescape : escape (c.after 0x5C tail) = .ok (char, c')) (hle : c'.rest.length ≤ tail.length) :
    stringFrom done none c = stringFrom (char :: done) none c' := by
  rw [stringFrom]
  split
  · next hnil =>
    rw [h] at hnil
    cases hnil
  · next b rest' hcons =>
    rw [h] at hcons
    cases hcons
    have hlt : c'.rest.length < c.rest.length := by
      rw [h]
      exact Nat.lt_succ_of_le hle
    rw [if_neg (by decide), if_pos rfl]
    simp only [hescape, hlt, if_true]

/-- A character that is not escaped stands for itself. -/
theorem stringFrom_plain {char : Char} (hquote : char ≠ '"') (hslash : char ≠ '\\')
    (hcontrol : 0x20 ≤ char.toNat) (h : c.rest = Utf8.encodeChar char ++ rest) :
    ∃ c', stringFrom done none c = stringFrom (char :: done) none c' ∧ c'.rest = rest := by
  obtain ⟨b, bs, hbytes, hstep⟩ := Utf8.decodeStep_encodeChar char rest
  obtain ⟨hquote', hslash', hcontrol'⟩ := plain_bytes hquote hslash hcontrol
    (show b ∈ Utf8.encodeChar char by rw [hbytes]; exact List.mem_cons_self)
  rw [hbytes, List.cons_append] at h
  refine ⟨⟨rest, c.line, c.column + (Utf8.encodeChar char).length⟩, ?_, rfl⟩
  rw [stringFrom]
  split
  · next hnil =>
    rw [h] at hnil
    cases hnil
  · next b' rest' hcons =>
    rw [h] at hcons
    cases hcons
    rw [if_neg hquote', if_neg hslash', if_neg (by omega)]
    simp only [hstep]
    rw [if_pos]
    rw [h, List.length_cons, List.length_append]
    omega

theorem escape_short {b : UInt8} {char : Char} (h : c.rest = b :: rest) (hb : b ≠ 0x75)
    (hchar : shortEscape? b = some char) : escape c = .ok (char, c.after b rest) := by
  unfold escape
  rw [h]
  simp only [if_neg hb, hchar]

/-- A short escape is read back. -/
theorem stringFrom_short {b : UInt8} {char : Char} (h : c.rest = 0x5C :: b :: rest) (hb : b ≠ 0x75)
    (hchar : shortEscape? b = some char) :
    ∃ c', stringFrom done none c = stringFrom (char :: done) none c' ∧ c'.rest = rest := by
  refine ⟨_, stringFrom_escape h (escape_short (after_rest _ _ _) hb hchar) ?_, after_rest _ _ _⟩
  rw [after_rest]
  exact Nat.le_succ _

theorem hexValue?_hexDigit : ∀ n < 16, hexValue? (.ofNat (hexDigit n).toNat) = some n := by
  decide

theorem hexDigit_toNat_lt : ∀ n < 16, (hexDigit n).toNat < 0x80 := by
  decide

/-- An escape by number is read back. -/
theorem stringFrom_control {char : Char} (hcontrol : char.toNat < 0x20)
    (h : c.rest = Utf8.encode ['\\', 'u', '0', '0', hexDigit (char.toNat / 16),
      hexDigit (char.toNat % 16)] ++ rest) :
    ∃ c', stringFrom done none c = stringFrom (char :: done) none c' ∧ c'.rest = rest := by
  have hhigh := hexDigit_toNat_lt (char.toNat / 16) (by omega)
  have hlow := hexDigit_toNat_lt (char.toNat % 16) (by omega)
  let high : UInt8 := .ofNat (hexDigit (char.toNat / 16)).toNat
  let low : UInt8 := .ofNat (hexDigit (char.toNat % 16)).toNat
  have hbytes : c.rest = 0x5C :: 0x75 :: 0x30 :: 0x30 :: high :: low :: rest := by
    rw [h]
    simp only [Utf8.encode_cons, Utf8.encodeChar_of_lt hhigh, Utf8.encodeChar_of_lt hlow]
    rfl
  let c₁ := c.after 0x5C (0x75 :: 0x30 :: 0x30 :: high :: low :: rest)
  let c₂ := c₁.after 0x75 (0x30 :: 0x30 :: high :: low :: rest)
  have hc₁ : c₁.rest = 0x75 :: 0x30 :: 0x30 :: high :: low :: rest := after_rest _ _ _
  have hc₂ : c₂.rest = 0x30 :: 0x30 :: high :: low :: rest := after_rest _ _ _
  have hrest : (c₂.drop 4).rest = rest := by
    rw [drop_rest, hc₂]
    rfl
  have hhex : hexEscape c₂ = .ok (char.toNat, c₂.drop 4) := by
    have hzero : hexValue? 0x30 = some 0 := by decide
    have hvalue : ((0 * 16 + 0) * 16 + char.toNat / 16) * 16 + char.toNat % 16 = char.toNat := by
      omega
    unfold hexEscape
    rw [hc₂]
    simp only [hzero, high, low, hexValue?_hexDigit _ (show char.toNat / 16 < 16 by omega),
      hexValue?_hexDigit _ (show char.toNat % 16 < 16 by omega), hvalue]
  have hescape : escape c₁ = .ok (char, c₂.drop 4) := by
    unfold escape
    rw [hc₁]
    show unicodeEscape c₂ = _
    unfold unicodeEscape
    rw [hhex]
    simp only
    rw [if_neg (by omega), if_pos (by omega), Char.ofNat_toNat]
  refine ⟨_, stringFrom_escape hbytes hescape ?_, hrest⟩
  rw [hrest]
  simp only [List.length_cons]
  omega

/-- Every character is read back, whether it was escaped or not. -/
theorem stringFrom_escapedChar {char : Char} (done : List Char)
    (h : c.rest = Utf8.encode (escapedChar char) ++ rest) :
    ∃ c', stringFrom done none c = stringFrom (char :: done) none c' ∧ c'.rest = rest := by
  have hnat : ∀ n, char.toNat = n → char = Char.ofNat n := by
    rintro n rfl
    exact (Char.ofNat_toNat char).symm
  unfold escapedChar at h
  split at h
  · next hchar =>
    subst hchar
    exact stringFrom_short (b := 0x22) h (by decide) rfl
  · next hquote =>
    split at h
    · next hchar =>
      subst hchar
      exact stringFrom_short (b := 0x5C) h (by decide) rfl
    · next hslash =>
      split at h
      · next hchar =>
        obtain rfl := hnat _ hchar
        exact stringFrom_short (b := 0x62) h (by decide) rfl
      · split at h
        · next hchar =>
          obtain rfl := hnat _ hchar
          exact stringFrom_short (b := 0x66) h (by decide) rfl
        · split at h
          · next hchar =>
            subst hchar
            exact stringFrom_short (b := 0x6E) h (by decide) rfl
          · split at h
            · next hchar =>
              subst hchar
              exact stringFrom_short (b := 0x72) h (by decide) rfl
            · split at h
              · next hchar =>
                subst hchar
                exact stringFrom_short (b := 0x74) h (by decide) rfl
              · split at h
                · next hcontrol => exact stringFrom_control hcontrol h
                · next hcontrol =>
                  rw [Utf8.encode_cons, Utf8.encode_nil, List.append_nil] at h
                  exact stringFrom_plain hquote hslash (by omega) h

/-- What stands between the quotes of a string is read back. -/
theorem stringBody_escaped (s : String)
    (h : c.rest = Utf8.encode (s.toList.flatMap escapedChar) ++ 0x22 :: rest) :
    ∃ c', stringBody c = .ok (s, c') ∧ c'.rest = rest := by
  suffices hfrom : ∀ (cs done : List Char) (c : Cursor),
      c.rest = Utf8.encode (cs.flatMap escapedChar) ++ 0x22 :: rest →
      ∃ c', stringFrom done none c = .ok (String.ofList (done.reverse ++ cs), c') ∧
        c'.rest = rest by
    obtain ⟨c', hc', hrest⟩ := hfrom s.toList [] c h
    exact ⟨c', by simpa [stringBody] using hc', hrest⟩
  intro cs
  induction cs with
  | nil =>
    intro done c h
    refine ⟨c.after 0x22 rest, ?_, after_rest _ _ _⟩
    rw [stringFrom]
    split
    · next hnil =>
      rw [h] at hnil
      cases hnil
    · next b rest' hcons =>
      rw [h] at hcons
      cases hcons
      rw [if_pos rfl, List.append_nil]
  | cons char cs ih =>
    intro done c h
    rw [List.flatMap_cons, Utf8.encode_append, List.append_assoc] at h
    obtain ⟨c₁, hstep, hc₁⟩ := stringFrom_escapedChar done h
    obtain ⟨c₂, hc₂, hrest⟩ := ih (char :: done) c₁ hc₁
    refine ⟨c₂, ?_, hrest⟩
    rw [hstep, hc₂, List.reverse_cons, List.append_assoc]
    rfl

end Strings

/-! ### Whole numbers -/

/-- What follows cannot be part of a number. -/
def Ends (rest : Bytes) : Prop :=
  ∀ b tail, rest = b :: tail → isDigit b = false ∧ b ≠ 0x2E ∧ b ≠ 0x65 ∧ b ≠ 0x45

theorem ends_nil : Ends [] := by
  rintro b tail ⟨⟩

theorem ends_cons {b : UInt8} {tail : Bytes} (hdigit : isDigit b = false)
    (h : b ≠ 0x2E ∧ b ≠ 0x65 ∧ b ≠ 0x45) : Ends (b :: tail) := by
  rintro _ _ ⟨⟩
  exact ⟨hdigit, h⟩

section Numbers

variable {c : Cursor} {rest : Bytes}

theorem ne_of_isDigit_eq_false {b other : UInt8} (h : isDigit b = true)
    (hother : isDigit other = false) : b ≠ other := by
  rintro rfl
  rw [h] at hother
  cases hother

theorem isBlank_of_isDigit {b : UInt8} (h : isDigit b = true) : isBlank b = false := by
  have hne : ∀ other, isDigit other = false → b ≠ other := fun _ => ne_of_isDigit_eq_false h
  simp [isBlank, hne 0x20 (by decide), hne 0x09 (by decide), hne 0x0A (by decide),
    hne 0x0D (by decide)]

theorem isDigit_char {char : Char} (h : char.isDigit = true) :
    Utf8.encodeChar char = [.ofNat char.toNat] ∧ (UInt8.ofNat char.toNat).toNat = char.toNat ∧
      isDigit (.ofNat char.toNat) = true ∧
      digitOf (.ofNat char.toNat) = char.toNat - '0'.toNat := by
  have hrange : 48 ≤ char.toNat ∧ char.toNat ≤ 57 := by
    simpa [Char.isDigit, UInt32.le_iff_toNat_le] using h
  have hnat : (UInt8.ofNat char.toNat).toNat = char.toNat := Utf8.toNat_ofNat_byte _ (by omega)
  refine ⟨Utf8.encodeChar_of_lt (by omega), hnat, ?_, ?_⟩
  · simp only [isDigit, hnat, decide_eq_true_eq]
    omega
  · rw [digitOf, hnat]
    rfl

theorem encode_digits {cs : List Char} (h : ∀ char ∈ cs, char.isDigit = true) :
    (∀ b ∈ Utf8.encode cs, isDigit b = true) ∧
      (Utf8.encode cs).map digitOf = cs.map fun char => char.toNat - '0'.toNat := by
  induction cs with
  | nil => exact ⟨by rintro b ⟨⟩, rfl⟩
  | cons char cs ih =>
    obtain ⟨hbyte, -, hdigit, hvalue⟩ := isDigit_char (h char List.mem_cons_self)
    obtain ⟨hall, hmap⟩ := ih fun other hother => h other (List.mem_cons_of_mem _ hother)
    rw [Utf8.encode_cons, hbyte, List.singleton_append]
    refine ⟨fun b hb => ?_, ?_⟩
    · rcases List.mem_cons.1 hb with rfl | hb
      · exact hdigit
      · exact hall b hb
    · rw [List.map_cons, List.map_cons, hvalue, hmap]

/-- Digits are taken up to what is no digit. -/
theorem digits_append {ds : Bytes} (hds : ∀ b ∈ ds, isDigit b = true)
    (stop : ∀ b tail, rest = b :: tail → isDigit b = false) (h : c.rest = ds ++ rest) :
    (digits c).1 = ds.map digitOf ∧ (digits c).2.rest = rest := by
  have hhead : rest.takeWhile isDigit = [] ∧ rest.dropWhile isDigit = rest := by
    cases rest with
    | nil => exact ⟨rfl, rfl⟩
    | cons b tail =>
      have hb := stop b tail rfl
      rw [List.takeWhile_cons, List.dropWhile_cons, hb]
      exact ⟨rfl, rfl⟩
  unfold digits
  simp only [h]
  rw [List.takeWhile_append_of_pos hds, List.dropWhile_append_of_pos hds, hhead.1, hhead.2,
    List.append_nil]
  exact ⟨rfl, rfl⟩

/-- A number does not begin with a zero, but for zero. -/
theorem exists_digitsOf_cons {n : Nat} (h : n ≠ 0) :
    ∃ char cs, digitsOf n = char :: cs ∧ char ≠ '0' := by
  induction n using Nat.strongRecOn with
  | ind n ih =>
    unfold digitsOf
    rw [Nat.toDigits_eq_if (by decide)]
    split
    · next hlt =>
      refine ⟨_, _, rfl, ?_⟩
      have hall : ∀ m < 10, m ≠ 0 → Nat.digitChar m ≠ '0' := by decide
      exact hall n hlt h
    · next hge =>
      obtain ⟨char, cs, heq, hne⟩ := ih (n / 10) (by omega) (by omega)
      refine ⟨char, cs ++ [Nat.digitChar (n % 10)], ?_, hne⟩
      rw [← List.cons_append, ← heq]
      rfl

/-- Digits are taken into a number that fits in 64 bits. -/
theorem accumulate_digits (cs : List Char) (m : Nat) (h : Nat.ofDigitChars 10 cs m ≤ maxNat64) :
    accumulate m (cs.map fun char => char.toNat - '0'.toNat) = (Nat.ofDigitChars 10 cs m, []) := by
  have grows : ∀ (cs : List Char) (m : Nat), m ≤ Nat.ofDigitChars 10 cs m := by
    intro cs
    induction cs with
    | nil => exact fun m => Nat.le_refl _
    | cons char cs ih =>
      intro m
      rw [Nat.ofDigitChars_cons]
      exact Nat.le_trans (by omega) (ih _)
  induction cs generalizing m with
  | nil => rfl
  | cons char cs ih =>
    rw [Nat.ofDigitChars_cons] at h ⊢
    have hle := Nat.le_trans (grows cs _) h
    rw [List.map_cons, accumulate, Nat.mul_comm m 10, if_neg (Nat.not_lt_of_le hle)]
    exact ih _ h

theorem wholePart_digits (n : Nat) (ends : Ends rest)
    (h : c.rest = Utf8.encode (digitsOf n) ++ rest) (atEnd : Cause) :
    ∃ c', wholePart atEnd c =
        .ok ((digitsOf n).map fun char => char.toNat - '0'.toNat, c') ∧ c'.rest = rest := by
  have hall : ∀ char ∈ digitsOf n, char.isDigit = true := fun char hchar =>
    Nat.isDigit_of_mem_toDigits (by decide) (by decide) hchar
  obtain ⟨hdigits, hmap⟩ := encode_digits hall
  by_cases hn : n = 0
  · subst hn
    have hzero : c.rest = 0x30 :: rest := h
    refine ⟨c.after 0x30 rest, ?_, after_rest _ _ _⟩
    unfold wholePart
    rw [hzero]
    simp only [if_true]
    cases rest with
    | nil => rfl
    | cons d tail =>
      simp only [(ends d tail rfl).1, Bool.false_eq_true, if_false]
      rfl
  · obtain ⟨char, cs, heq, hne⟩ := exists_digitsOf_cons hn
    obtain ⟨hbyte, hnat, hdigit, -⟩ :=
      isDigit_char (hall char (by rw [heq]; exact List.mem_cons_self))
    have hbytes : c.rest = .ofNat char.toNat :: (Utf8.encode cs ++ rest) := by
      rw [h, heq, Utf8.encode_cons, hbyte]
      rfl
    have hnonzero : UInt8.ofNat char.toNat ≠ 0x30 := by
      intro hzero
      rw [hzero] at hnat
      exact hne (Char.toNat_inj.1 hnat.symm)
    obtain ⟨hvalues, hrest⟩ := digits_append hdigits (fun b tail hb => (ends b tail hb).1) h
    refine ⟨(digits c).2, ?_, hrest⟩
    unfold wholePart
    rw [hbytes]
    simp only [if_neg hnonzero, hdigit, if_true]
    rw [← hmap, ← hvalues]

/-- The digits of a number that fits in 64 bits are read back. -/
theorem number_digits {n : Nat} (hn : n ≤ maxNat64) (negative : Bool) (ends : Ends rest)
    (h : c.rest = Utf8.encode (digitsOf n) ++ rest) :
    ∃ c', number negative c = .ok (integerValue negative n, c') ∧ c'.rest = rest := by
  obtain ⟨c', hwhole, hrest⟩ := wholePart_digits n ends h .eofInValue
  have hfraction : fractionPart .eofInValue c' = .ok (none, c') := by
    unfold fractionPart
    rw [hrest]
    cases rest with
    | nil => rfl
    | cons b tail => simp only [if_neg (ends b tail rfl).2.1]
  have hexponent : exponentPart .eofInValue c' = .ok (none, c') := by
    have hnot : ∀ b tail, rest = b :: tail → ¬(b = 0x65 ∨ b = 0x45) := fun b tail heq =>
      not_or.2 (ends b tail heq).2.2
    unfold exponentPart
    rw [hrest]
    cases rest with
    | nil => rfl
    | cons b tail => simp only [if_neg (hnot b tail rfl)]
  have hvalue : Nat.ofDigitChars 10 (digitsOf n) 0 = n :=
    Nat.ofDigitChars_toDigits (by decide) (by decide)
  have haccumulate := accumulate_digits (digitsOf n) 0 (by rw [hvalue]; exact hn)
  rw [hvalue] at haccumulate
  refine ⟨c', ?_, hrest⟩
  unfold number numeral
  rw [hwhole]
  simp only [bind, Except.bind, pure, Except.pure, hfraction, hexponent, Numeral.value, haccumulate]
  simp

end Numbers

end Json

end QuerySwarm
