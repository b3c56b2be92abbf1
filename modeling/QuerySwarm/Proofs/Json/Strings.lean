import QuerySwarm.Proofs.Json.Lexemes

/-!
# The strings of JSON text

What stands between the quotes of a string that is read is a row of characters, each as it is or
escaped (`Characters`). A string that nobody wants is only looked at for its quotes, backslashes and
controls, so that it need not be well-formed text and a surrogate may stand alone (`Skimmed`). Every
string of the first kind is one of the second (`Characters.skimmed`).

* `characters_of_stringBody`, `stringBody_complete`: the strings that are read.
* `skimmed_of_skipString`, `skipString_complete`: the strings that are skipped.
-/

namespace QuerySwarm.Json

open Cursor

/-! ### Escapes -/

/-- The four digits of an escape by number. -/
def HexDigits (n : Nat) : Rule := fun before after =>
  ∃ b1 b2 b3 b4 h1 h2 h3 h4, before = b1 :: b2 :: b3 :: b4 :: after ∧
    (hexValue? b1 = some h1 ∧ hexValue? b2 = some h2 ∧ hexValue? b3 = some h3 ∧
      hexValue? b4 = some h4) ∧ n = ((h1 * 16 + h2) * 16 + h3) * 16 + h4

/-- An escape of a character, after the backslash: by a letter, by the number of a scalar value, or
by the numbers of two surrogates. -/
inductive Escape : Char → Rule
  | short {b : UInt8} {char : Char} {after : Bytes} (h : shortEscape? b = some char) :
    Escape char (b :: after) after
  | scalar {n : Nat} {mid after : Bytes} (digits : HexDigits n mid after)
      (scalar : n < 0xD800 ∨ 0xDFFF < n) : Escape (Char.ofNat n) (0x75 :: mid) after
  | surrogates {n m : Nat} {mid mid' after : Bytes} (digits : HexDigits n mid (0x5C :: 0x75 :: mid'))
      (digits' : HexDigits m mid' after) (high : 0xD800 ≤ n ∧ n ≤ 0xDBFF)
      (low : 0xDC00 ≤ m ∧ m ≤ 0xDFFF) :
    Escape (Char.ofNat (0x10000 + (n - 0xD800) * 0x400 + (m - 0xDC00))) (0x75 :: mid) after

theorem hexDigits_of_hexEscape {c c' : Cursor} {n : Nat} (h : hexEscape c = .ok (n, c')) :
    HexDigits n c.rest c'.rest := by
  unfold hexEscape at h
  split at h
  · next b1 b2 b3 b4 tail hrest =>
    dsimp only at h
    split at h
    · next h1 h2 h3 h4 heq1 heq2 heq3 heq4 =>
      cases h
      refine ⟨b1, b2, b3, b4, h1, h2, h3, h4, ?_, ⟨heq1, heq2, heq3, heq4⟩, rfl⟩
      rw [drop_rest, hrest]
      rfl
    · cases h
  · cases h

theorem hexEscape_complete {c : Cursor} {n : Nat} {after : Bytes} (h : HexDigits n c.rest after) :
    ∃ c', hexEscape c = .ok (n, c') ∧ c'.rest = after := by
  obtain ⟨b1, b2, b3, b4, h1, h2, h3, h4, hrest, ⟨heq1, heq2, heq3, heq4⟩, rfl⟩ := h
  refine ⟨c.drop 4, ?_, ?_⟩
  · unfold hexEscape
    rw [hrest]
    simp only [heq1, heq2, heq3, heq4]
  · rw [drop_rest, hrest]
    rfl

theorem HexDigits.length {n : Nat} {before after : Bytes} (h : HexDigits n before after) :
    before.length = after.length + 4 := by
  obtain ⟨b1, b2, b3, b4, h1, h2, h3, h4, rfl, -⟩ := h
  rfl

theorem rest_of_surrogateByte {b : UInt8} {c c' : Cursor} (h : surrogateByte b c = .ok c') :
    c.rest = b :: c'.rest := by
  unfold surrogateByte at h
  split at h
  · cases h
  · next b' rest hrest =>
    split at h
    · next hb =>
      cases h
      rw [hrest, after_rest, hb]
    · cases h

theorem surrogateByte_complete {b : UInt8} {c : Cursor} {after : Bytes} (h : c.rest = b :: after) :
    ∃ c', surrogateByte b c = .ok c' ∧ c'.rest = after := by
  refine ⟨c.after b after, ?_, after_rest _ _ _⟩
  unfold surrogateByte
  rw [h]
  simp only [if_true]

theorem escape_of_unicodeEscape {c c' : Cursor} {char : Char}
    (h : unicodeEscape c = .ok (char, c')) : Escape char (0x75 :: c.rest) c'.rest := by
  unfold unicodeEscape at h
  split at h
  · cases h
  · next n c₁ hn =>
    have hdigits := hexDigits_of_hexEscape hn
    split at h
    · cases h
    · next hlow =>
      split at h
      · next hscalar =>
        cases h
        have hvalue : n < 0xD800 ∨ 0xDFFF < n := by omega
        exact .scalar hdigits hvalue
      · next hhigh =>
        split at h
        · cases h
        · next c₂ hc₂ =>
          split at h
          · cases h
          · next c₃ hc₃ =>
            split at h
            · cases h
            · next m c₄ hm =>
              split at h
              · cases h
              · next hrange =>
                obtain ⟨rfl, rfl⟩ := Prod.mk.inj (Except.ok.inj h)
                rw [rest_of_surrogateByte hc₂, rest_of_surrogateByte hc₃] at hdigits
                exact .surrogates hdigits (hexDigits_of_hexEscape hm) (by omega) (by omega)

theorem escape_of_escape {c c' : Cursor} {char : Char} (h : escape c = .ok (char, c')) :
    Escape char c.rest c'.rest := by
  unfold escape at h
  split at h
  · cases h
  · next b rest hrest =>
    dsimp only at h
    split at h
    · next hb =>
      have hescape := escape_of_unicodeEscape h
      rw [after_rest] at hescape
      rwa [hrest, hb]
    · split at h
      · next char hchar =>
        cases h
        rw [after_rest, hrest]
        exact .short hchar
      · cases h

theorem escape_complete {c : Cursor} {char : Char} {after : Bytes} (h : Escape char c.rest after) :
    ∃ c', escape c = .ok (char, c') ∧ c'.rest = after := by
  generalize hrest : c.rest = before at h
  cases h with
  | @short b _ _ hb =>
    refine ⟨c.after b after, ?_, after_rest _ _ _⟩
    have hne : b ≠ 0x75 := by
      rintro rfl
      cases hb
    unfold escape
    rw [hrest]
    simp only [if_neg hne, hb]
  | @scalar n mid _ digits hscalar =>
    rw [← after_rest c 0x75 mid] at digits
    obtain ⟨c', hhex, hafter⟩ := hexEscape_complete digits
    refine ⟨c', ?_, hafter⟩
    unfold escape
    rw [hrest]
    simp only [if_true]
    unfold unicodeEscape
    rw [hhex]
    simp only
    rw [if_neg (by omega), if_pos (by omega)]
  | @surrogates n m mid mid' _ digits digits' high low =>
    rw [← after_rest c 0x75 mid] at digits
    obtain ⟨c₁, hn, hc₁⟩ := hexEscape_complete digits
    obtain ⟨c₂, hbackslash, hc₂⟩ := surrogateByte_complete hc₁
    obtain ⟨c₃, hletter, rfl⟩ := surrogateByte_complete hc₂
    obtain ⟨c₄, hm, hafter⟩ := hexEscape_complete digits'
    refine ⟨c₄, ?_, hafter⟩
    unfold escape
    rw [hrest]
    simp only [if_true]
    unfold unicodeEscape
    rw [hn]
    simp only
    rw [if_neg (by omega), if_neg (by omega), hbackslash]
    simp only [hletter, hm]
    rw [if_neg (by omega)]

theorem Escape.length_lt {char : Char} {before after : Bytes} (h : Escape char before after) :
    after.length < before.length := by
  cases h with
  | short h => exact Nat.lt_succ_self _
  | scalar digits _ =>
    rw [List.length_cons, digits.length]
    omega
  | surrogates digits digits' _ _ =>
    rw [List.length_cons, digits.length, List.length_cons, List.length_cons, digits'.length]
    omega

/-! ### Characters -/

/-- The characters of a string up to its closing quote, each as it is or escaped. -/
inductive Characters : List Char → Rule
  | close (after : Bytes) : Characters [] (0x22 :: after) after
  | plain {char : Char} {chars : List Char} {mid after : Bytes} (quote : char ≠ '"')
      (backslash : char ≠ '\\') (control : 0x20 ≤ char.toNat) (rest : Characters chars mid after) :
    Characters (char :: chars) (Utf8.encodeChar char ++ mid) after
  | escaped {char : Char} {chars : List Char} {mid mid' after : Bytes} (escape : Escape char mid mid')
      (rest : Characters chars mid' after) : Characters (char :: chars) (0x5C :: mid) after

/-- What is read of a string are its characters, and none of its bytes was ill-formed. -/
theorem characters_of_stringFrom {done : List Char} {illFormed : Option Failure} {c c' : Cursor}
    {s : String} (h : stringFrom done illFormed c = .ok (s, c')) :
    illFormed = none ∧
      ∃ chars, s = String.ofList (done.reverse ++ chars) ∧ Characters chars c.rest c'.rest := by
  fun_induction stringFrom done illFormed c with
  | case1 | case2 | case4 | case6 | case7 | case9 => cases h
  | case3 done c rest hrest next =>
    obtain ⟨rfl, rfl⟩ := Prod.mk.inj (Except.ok.inj h)
    refine ⟨rfl, [], by rw [List.append_nil], ?_⟩
    rw [hrest, after_rest]
    exact .close rest
  | case5 done illFormed c rest char c₁ hlt hrest next hne hescape ih =>
    obtain ⟨hill, chars, hs, hchars⟩ := ih h
    have hescape := escape_of_escape hescape
    rw [after_rest] at hescape
    refine ⟨hill, char :: chars, ?_, ?_⟩
    · rw [hs, List.reverse_cons, List.append_assoc]
      rfl
    · rw [hrest]
      exact .escaped hescape hchars
  | case8 done illFormed c b rest hrest hquote hbackslash hcontrol char rest' hstep hlt ih =>
    obtain ⟨hill, chars, hs, hchars⟩ := ih h
    have hbytes := Utf8.encodeChar_of_decodeStep hstep
    -- the byte that was looked at is one of the character, so what it is not the character is not
    have hb : b ∈ Utf8.encodeChar char := by
      obtain ⟨b', bs, hencode, -⟩ := Utf8.decodeStep_encodeChar char rest'
      rw [hencode] at hbytes ⊢
      cases hbytes
      exact List.mem_cons_self
    refine ⟨hill, char :: chars, ?_, ?_⟩
    · rw [hs, List.reverse_cons, List.append_assoc]
      rfl
    · rw [hrest, hbytes]
      refine .plain ?_ ?_ ?_ hchars
      · rintro rfl
        exact hquote (List.mem_singleton.1 hb)
      · rintro rfl
        exact hbackslash (List.mem_singleton.1 hb)
      · rcases Utf8.of_mem_encodeChar hb with ⟨-, heq⟩ | ⟨hge, -⟩ <;> omega
  | case10 done illFormed c b rest hrest next hquote hbackslash hcontrol rest' hstep ih =>
    have hnone := (ih h).1
    cases illFormed <;> cases hnone

/-- The characters of a string are read. -/
theorem stringFrom_complete {chars : List Char} {before after : Bytes}
    (h : Characters chars before after) (done : List Char) {c : Cursor} (hc : c.rest = before) :
    ∃ c', stringFrom done none c = .ok (String.ofList (done.reverse ++ chars), c') ∧
      c'.rest = after := by
  induction h generalizing done c with
  | close after =>
    refine ⟨c.after 0x22 after, ?_, after_rest _ _ _⟩
    rw [stringFrom]
    split
    · next hnil =>
      rw [hc] at hnil
      cases hnil
    · next b rest hcons =>
      rw [hc] at hcons
      cases hcons
      rw [if_pos rfl, List.append_nil]
  | @plain char chars mid after quote backslash control rest ih =>
    obtain ⟨c₁, hstep, hc₁⟩ := stringFrom_plain quote backslash control hc
    obtain ⟨c', hread, hafter⟩ := ih (char :: done) hc₁
    refine ⟨c', ?_, hafter⟩
    rw [hstep, hread, List.reverse_cons, List.append_assoc]
    rfl
  | @escaped char chars mid mid' after hescape rest ih =>
    rw [← after_rest c 0x5C mid] at hescape
    obtain ⟨c₁, hread₁, hc₁⟩ := escape_complete hescape
    have hlt := hescape.length_lt
    rw [after_rest] at hlt
    obtain ⟨c', hread, hafter⟩ := ih (char :: done) hc₁
    refine ⟨c', ?_, hafter⟩
    rw [stringFrom_escape hc hread₁ (by rw [hc₁]; exact Nat.le_of_lt hlt), hread,
      List.reverse_cons, List.append_assoc]
    rfl

theorem characters_of_stringBody {c c' : Cursor} {s : String} (h : stringBody c = .ok (s, c')) :
    Characters s.toList c.rest c'.rest := by
  obtain ⟨-, chars, rfl, hchars⟩ := characters_of_stringFrom h
  rwa [List.reverse_nil, List.nil_append, String.toList_ofList]

theorem stringBody_complete {c : Cursor} {s : String} {after : Bytes}
    (h : Characters s.toList c.rest after) :
    ∃ c', stringBody c = .ok (s, c') ∧ c'.rest = after := by
  obtain ⟨c', hread, hafter⟩ := stringFrom_complete h [] rfl
  refine ⟨c', ?_, hafter⟩
  rw [List.reverse_nil, List.nil_append, String.ofList_toList] at hread
  exact hread

theorem Characters.length_lt {chars : List Char} {before after : Bytes}
    (h : Characters chars before after) : after.length < before.length := by
  induction h with
  | close after => exact Nat.lt_succ_self _
  | plain _ _ _ _ ih =>
    rw [List.length_append]
    omega
  | escaped hescape _ ih =>
    have hlt := hescape.length_lt
    rw [List.length_cons]
    omega

/-- A string is read in one way only. -/
theorem Characters.unique {s s' : String} {before after after' : Bytes}
    (h : Characters s.toList before after) (h' : Characters s'.toList before after') :
    s = s' ∧ after = after' := by
  obtain ⟨c, hread, hc⟩ := stringBody_complete (c := .start before) h
  obtain ⟨c', hread', hc'⟩ := stringBody_complete (c := .start before) h'
  rw [hread'] at hread
  obtain ⟨rfl, rfl⟩ := Prod.mk.inj (Except.ok.inj hread)
  exact ⟨rfl, hc.symm.trans hc'⟩

/-! ### Strings that nobody wants -/

/-- A string up to its closing quote, by its quotes and backslashes alone. -/
inductive Skimmed : Rule
  | close (after : Bytes) : Skimmed (0x22 :: after) after
  | byte {b : UInt8} {mid after : Bytes} (quote : b ≠ 0x22) (backslash : b ≠ 0x5C)
      (control : 0x20 ≤ b.toNat) (rest : Skimmed mid after) : Skimmed (b :: mid) after
  | short {b : UInt8} {mid after : Bytes} (known : (shortEscape? b).isSome = true)
      (rest : Skimmed mid after) : Skimmed (0x5C :: b :: mid) after
  | number {n : Nat} {mid mid' after : Bytes} (digits : HexDigits n mid mid')
      (rest : Skimmed mid' after) : Skimmed (0x5C :: 0x75 :: mid) after

theorem skimmed_of_skipString {c c' : Cursor} (h : skipString c = .ok c') :
    Skimmed c.rest c'.rest := by
  fun_induction skipString c with
  | case1 | case3 | case4 | case6 | case8 | case9 => cases h
  | case2 c rest hrest next =>
    obtain rfl := Except.ok.inj h
    rw [hrest, after_rest]
    exact .close rest
  | case5 c rest n c₁ hlt hne hrest hrest' next next' hhex ih =>
    have hdigits := hexDigits_of_hexEscape hhex
    rw [after_rest] at hdigits
    rw [hrest]
    exact .number hdigits (ih h)
  | case7 c e rest hne hknown hne' hrest hrest' next next' ih =>
    have hskimmed := ih h
    rw [after_rest] at hskimmed
    rw [hrest]
    exact .short hknown hskimmed
  | case10 c b rest hrest next hquote hbackslash hcontrol ih =>
    have hskimmed := ih h
    rw [after_rest] at hskimmed
    rw [hrest]
    exact .byte hquote hbackslash (Nat.le_of_not_lt hcontrol) hskimmed

theorem skipString_complete {before after : Bytes} (h : Skimmed before after) {c : Cursor}
    (hc : c.rest = before) : ∃ c', skipString c = .ok c' ∧ c'.rest = after := by
  induction h generalizing c with
  | close after =>
    refine ⟨c.after 0x22 after, ?_, after_rest _ _ _⟩
    rw [skipString]
    split
    · next hnil =>
      rw [hc] at hnil
      cases hnil
    · next b rest hcons =>
      rw [hc] at hcons
      cases hcons
      rw [if_pos rfl]
  | @byte b mid after quote backslash control rest ih =>
    obtain ⟨c', hskip, hafter⟩ := ih (after_rest c b mid)
    refine ⟨c', ?_, hafter⟩
    rw [skipString]
    split
    · next hnil =>
      rw [hc] at hnil
      cases hnil
    · next b' rest' hcons =>
      rw [hc] at hcons
      cases hcons
      rw [if_neg quote, if_neg backslash, if_neg (Nat.not_lt_of_le control)]
      exact hskip
  | @short e mid after known rest ih =>
    obtain ⟨c', hskip, hafter⟩ := ih (after_rest (c.after 0x5C (e :: mid)) e mid)
    refine ⟨c', ?_, hafter⟩
    have hne : e ≠ 0x75 := by
      rintro rfl
      cases known
    rw [skipString]
    split
    · next hnil =>
      rw [hc] at hnil
      cases hnil
    · next b' rest' hcons =>
      rw [hc] at hcons
      cases hcons
      rw [if_neg (by decide), if_pos rfl]
      simp only [if_neg hne, known, if_true]
      exact hskip
  | @number n mid mid' after digits rest ih =>
    have hlength := digits.length
    rw [← after_rest (c.after 0x5C (0x75 :: mid)) 0x75 mid] at digits
    obtain ⟨c₁, hhex, hc₁⟩ := hexEscape_complete digits
    obtain ⟨c', hskip, hafter⟩ := ih hc₁
    refine ⟨c', ?_, hafter⟩
    rw [skipString]
    split
    · next hnil =>
      rw [hc] at hnil
      cases hnil
    · next b' rest' hcons =>
      rw [hc] at hcons
      cases hcons
      rw [if_neg (by decide), if_pos rfl]
      simp only [if_true, hhex]
      rw [if_pos]
      · exact hskip
      · rw [hc, hc₁, List.length_cons, List.length_cons]
        omega

theorem Skimmed.length_lt {before after : Bytes} (h : Skimmed before after) :
    after.length < before.length := by
  induction h with
  | close after => exact Nat.lt_succ_self _
  | byte _ _ _ _ ih => exact Nat.lt_succ_of_lt ih
  | short _ _ ih => exact Nat.lt_succ_of_lt (Nat.lt_succ_of_lt ih)
  | number digits _ ih =>
    have hlength := digits.length
    rw [List.length_cons, List.length_cons]
    omega

theorem Skimmed.append {bytes mid after : Bytes}
    (plain : ∀ b ∈ bytes, b ≠ 0x22 ∧ b ≠ 0x5C ∧ 0x20 ≤ b.toNat) (rest : Skimmed mid after) :
    Skimmed (bytes ++ mid) after := by
  induction bytes with
  | nil => exact rest
  | cons b bytes ih =>
    obtain ⟨quote, backslash, control⟩ := plain b List.mem_cons_self
    exact .byte quote backslash control (ih fun other hother =>
      plain other (List.mem_cons_of_mem _ hother))

/-- A string that is read can also be skipped. -/
theorem Characters.skimmed {chars : List Char} {before after : Bytes}
    (h : Characters chars before after) : Skimmed before after := by
  induction h with
  | close after => exact .close after
  | plain quote backslash control _ ih =>
    exact .append (fun b hb => plain_bytes quote backslash control hb) ih
  | escaped hescape _ ih =>
    cases hescape with
    | short hknown => exact .short (by rw [hknown]; rfl) ih
    | scalar digits _ => exact .number digits ih
    | surrogates digits digits' _ _ => exact .number digits (.number digits' ih)

end QuerySwarm.Json
