import Mathlib.Data.List.TakeWhile
import QuerySwarm.Proofs.Json.Scalars

/-!
# The blanks, words and numbers of JSON text

A rule relates the text before a piece of JSON to the text after it. The rules here are those of
blanks (`Blanks`) and of numbers as they are written (`Numeral.Written`); what stops a number is what
`Ends` says, since its digits are taken as far as they go.

* `unsigned_of_numeral`, `numeral_complete`: the reader of numbers goes by their rule.
* `rest_of_word`: a word that is read was ahead.
-/

namespace QuerySwarm.Json

open Cursor

/-- What a piece of text may be: the text from its beginning on, and the text after it. -/
abbrev Rule := Bytes → Bytes → Prop

inductive Blanks : Rule
  | none (text : Bytes) : Blanks text text
  | more {b : UInt8} {before after : Bytes} (blank : isBlank b = true) (rest : Blanks before after) :
    Blanks (b :: before) after

/-- What is ahead is no digit. -/
def NoDigit (after : Bytes) : Prop := ∀ b tail, after = b :: tail → isDigit b = false

theorem Blanks.dropWhile {before after : Bytes} (h : Blanks before after) :
    before.dropWhile isBlank = after.dropWhile isBlank := by
  induction h with
  | none text => rfl
  | more blank rest ih => rw [List.dropWhile_cons_of_pos blank, ih]

theorem blanks_dropWhile (bytes : Bytes) : Blanks bytes (bytes.dropWhile isBlank) := by
  induction bytes with
  | nil => exact .none _
  | cons b rest ih =>
    cases hb : isBlank b with
    | true =>
      rw [List.dropWhile_cons_of_pos hb]
      exact .more hb ih
    | false =>
      rw [List.dropWhile_cons_of_neg (by rw [hb]; decide)]
      exact .none _

theorem blanks_skipBlanks (c : Cursor) : Blanks c.rest c.skipBlanks.rest := by
  rw [skipBlanks_rest]
  exact blanks_dropWhile _

theorem Blanks.skipBlanks_eq {c : Cursor} {b : UInt8} {tail : Bytes} (h : Blanks c.rest (b :: tail))
    (hb : isBlank b = false) : c.skipBlanks.rest = b :: tail := by
  rw [skipBlanks_rest, h.dropWhile, List.dropWhile_cons_of_neg (by rw [hb]; decide)]

theorem Blanks.trans {before mid after : Bytes} (h : Blanks before mid) (h' : Blanks mid after) :
    Blanks before after := by
  induction h with
  | none => exact h'
  | more blank _ ih => exact .more blank (ih h')

theorem Blanks.length_le {before after : Bytes} (h : Blanks before after) :
    after.length ≤ before.length := by
  induction h with
  | none text => exact Nat.le_refl _
  | more _ _ ih => exact Nat.le_succ_of_le ih

theorem Blanks.ends {before after : Bytes} (h : Blanks before after) (ends : Ends after) :
    Ends before := by
  cases h with
  | none => exact ends
  | more blank rest =>
    simp only [isBlank, Bool.or_eq_true, beq_iff_eq] at blank
    obtain ((rfl | rfl) | rfl) | rfl := blank <;> exact ends_cons (by decide) (by decide)

/-! ### Words -/

theorem rest_of_word {w : Bytes} {c c' : Cursor} (h : word w c = .ok c') :
    c.rest = w ++ c'.rest := by
  induction w generalizing c with
  | nil =>
    cases h
    rfl
  | cons b w ih =>
    unfold word at h
    split at h
    · cases h
    · next b' rest hrest =>
      split at h
      · next heq =>
        subst heq
        rw [hrest, List.cons_append, ← ih h, after_rest]
      · cases h

/-! ### Numbers -/

def Digits (ds : List Nat) : Rule := fun before after =>
  ∃ bytes : Bytes, (∀ b ∈ bytes, isDigit b = true) ∧ before = bytes ++ after ∧
    ds = bytes.map digitOf

def Whole (ds : List Nat) : Rule := fun before after =>
  Digits ds before after ∧ (ds = [0] ∨ ∃ d rest, ds = d :: rest ∧ d ≠ 0)

def Fraction : Option (List Nat) → Rule
  | none => fun before after => before = after
  | some ds => fun before after => ∃ mid, before = 0x2E :: mid ∧ ds ≠ [] ∧ Digits ds mid after

def ExponentSign (negative : Bool) : Rule := fun before after =>
  if negative then before = 0x2D :: after else before = 0x2B :: after ∨ before = after

def Exponent : Option (Bool × List Nat) → Rule
  | none => fun before after => before = after
  | some (negative, ds) => fun before after => ∃ b signed mid, before = b :: signed ∧
      (b = 0x65 ∨ b = 0x45) ∧ ExponentSign negative signed mid ∧ ds ≠ [] ∧ Digits ds mid after

def Numeral.Unsigned (n : Numeral) : Rule := fun before after =>
  ∃ fraction exponent, Whole n.whole before fraction ∧ Fraction n.fraction fraction exponent ∧
    Exponent n.exponent exponent after

def Numeral.Written (n : Numeral) : Rule := fun before after =>
  if n.negative then ∃ mid, before = 0x2D :: mid ∧ n.Unsigned mid after
  else n.Unsigned before after

theorem Digits.exists_first {ds : List Nat} (hne : ds ≠ []) {before after : Bytes}
    (h : Digits ds before after) : ∃ b tail, before = b :: tail ∧ isDigit b = true := by
  obtain ⟨bytes, hall, rfl, rfl⟩ := h
  cases bytes with
  | nil => exact absurd rfl hne
  | cons b bytes => exact ⟨b, _, rfl, hall b List.mem_cons_self⟩

theorem digits_sound (c : Cursor) : Digits (digits c).1 c.rest (digits c).2.rest :=
  ⟨c.rest.takeWhile isDigit, fun _ hb => List.mem_takeWhile_imp hb,
    (List.takeWhile_append_dropWhile).symm, rfl⟩

theorem digits_complete {c : Cursor} {ds : List Nat} {after : Bytes} (h : Digits ds c.rest after)
    (stop : NoDigit after) : (digits c).1 = ds ∧ (digits c).2.rest = after := by
  obtain ⟨bytes, hdigits, hrest, rfl⟩ := h
  exact digits_append hdigits stop hrest

theorem whole_of_wholePart {atEnd : Cause} {c c' : Cursor} {ds : List Nat}
    (h : wholePart atEnd c = .ok (ds, c')) : Whole ds c.rest c'.rest := by
  unfold wholePart at h
  split at h
  · cases h
  · next b rest hrest =>
    have hzero : Whole [0] (0x30 :: rest) rest :=
      ⟨⟨[0x30], List.forall_mem_singleton.2 rfl, rfl, rfl⟩, .inl rfl⟩
    split at h
    · next hb =>
      subst hb
      rw [hrest]
      split at h
      · split at h
        · cases h
        · cases h
          rw [after_rest]
          exact hzero
      · cases h
        rw [after_rest]
        exact hzero
    · next hb =>
      split at h
      · next hdigit =>
        cases h
        refine ⟨digits_sound c, .inr ⟨digitOf b, ((rest.takeWhile isDigit).map digitOf), ?_, ?_⟩⟩
        · show (c.rest.takeWhile isDigit).map digitOf = _
          rw [hrest, List.takeWhile_cons_of_pos hdigit, List.map_cons]
        · intro hvalue
          simp only [isDigit, decide_eq_true_eq] at hdigit
          refine hb (UInt8.toNat_inj.1 ?_)
          unfold digitOf at hvalue
          show b.toNat = 0x30
          omega
      · cases h

theorem wholePart_complete {c : Cursor} {ds : List Nat} {after : Bytes}
    (h : Whole ds c.rest after) (stop : NoDigit after) (atEnd : Cause) :
    ∃ c', wholePart atEnd c = .ok (ds, c') ∧ c'.rest = after := by
  obtain ⟨hdigits, hfirst⟩ := h
  obtain ⟨bytes, hall, hrest, hmap⟩ := id hdigits
  rcases hfirst with rfl | ⟨d, ds', rfl, hd⟩
  · -- a zero alone
    obtain ⟨b, rfl⟩ : ∃ b, bytes = [b] := by
      refine List.length_eq_one_iff.1 ?_
      rw [← List.length_map (f := digitOf), ← hmap]
      rfl
    have hb : b = 0x30 := by
      have hdigit := hall b List.mem_cons_self
      have hvalue : 0 = digitOf b := List.cons.inj hmap |>.1
      simp only [isDigit, decide_eq_true_eq] at hdigit
      unfold digitOf at hvalue
      refine UInt8.toNat_inj.1 ?_
      show b.toNat = 0x30
      omega
    subst hb
    refine ⟨c.after 0x30 after, ?_, after_rest _ _ _⟩
    unfold wholePart
    rw [hrest]
    simp only [List.singleton_append, if_true]
    cases after with
    | nil => rfl
    | cons b tail =>
      simp only [stop b tail rfl, Bool.false_eq_true, if_false]
  · obtain ⟨hds, hafter⟩ := digits_complete hdigits stop
    cases bytes with
    | nil => cases hmap
    | cons b bytes =>
      have hdigit := hall b List.mem_cons_self
      have hne : b ≠ 0x30 := by
        rintro rfl
        exact hd (List.cons.inj hmap).1
      refine ⟨(digits c).2, ?_, hafter⟩
      unfold wholePart
      rw [hrest]
      simp only [List.cons_append, if_neg hne, hdigit, if_true]
      rw [← hds]

theorem fraction_of_fractionPart {atEnd : Cause} {c c' : Cursor} {ds : Option (List Nat)}
    (h : fractionPart atEnd c = .ok (ds, c')) : Fraction ds c.rest c'.rest := by
  unfold fractionPart at h
  split at h
  · cases h
    rfl
  · next b rest hrest =>
    split at h
    · next hb =>
      subst hb
      dsimp only at h
      split at h
      · cases h
      · next hne =>
        cases h
        refine ⟨rest, hrest, fun heq => hne (by rw [heq]; rfl), ?_⟩
        have hdigits := digits_sound (c.after 0x2E rest)
        rwa [after_rest] at hdigits
    · cases h
      rfl

theorem fractionPart_complete {c : Cursor} {ds : Option (List Nat)} {after : Bytes}
    (h : Fraction ds c.rest after) (stop : NoDigit after)
    (point : ∀ tail, after ≠ 0x2E :: tail) (atEnd : Cause) :
    ∃ c', fractionPart atEnd c = .ok (ds, c') ∧ c'.rest = after := by
  cases ds with
  | none =>
    refine ⟨c, ?_, h⟩
    unfold fractionPart
    rw [show c.rest = after from h]
    cases after with
    | nil => rfl
    | cons b tail =>
      have hb : b ≠ 0x2E := fun heq => point tail (by rw [heq])
      simp only [if_neg hb]
  | some ds =>
    obtain ⟨mid, hrest, hne, hdigits⟩ := h
    rw [← after_rest c 0x2E mid] at hdigits
    obtain ⟨hds, hafter⟩ := digits_complete hdigits stop
    refine ⟨(digits (c.after 0x2E mid)).2, ?_, hafter⟩
    unfold fractionPart
    rw [hrest]
    simp only [if_true, hds, List.isEmpty_eq_false_iff.2 hne, Bool.false_eq_true, if_false]

theorem exponentSign_sound (c : Cursor) :
    ExponentSign (exponentSign c).1 c.rest (exponentSign c).2.rest := by
  unfold exponentSign
  split
  · next b rest hrest =>
    split
    · next hb =>
      subst hb
      show c.rest = 0x2D :: (c.after _ _).rest
      rw [after_rest, hrest]
    · split
      · next hb =>
        subst hb
        refine .inl ?_
        show c.rest = 0x2B :: (c.after _ _).rest
        rw [after_rest, hrest]
      · exact .inr rfl
  · exact .inr rfl

theorem exponentSign_complete {c : Cursor} {negative : Bool} {d : UInt8} {tail : Bytes}
    (h : ExponentSign negative c.rest (d :: tail)) (hd : isDigit d = true) :
    (exponentSign c).1 = negative ∧ (exponentSign c).2.rest = d :: tail := by
  unfold exponentSign
  cases negative with
  | true =>
    rw [show c.rest = 0x2D :: d :: tail from h]
    exact ⟨rfl, after_rest _ _ _⟩
  | false =>
    rcases h with h | h
    · rw [h]
      exact ⟨rfl, after_rest _ _ _⟩
    · rw [h]
      have hminus : d ≠ 0x2D := by
        rintro rfl
        cases hd
      have hplus : d ≠ 0x2B := by
        rintro rfl
        cases hd
      simp only [if_neg hminus, if_neg hplus]
      exact ⟨trivial, h⟩

theorem exponent_of_exponentPart {atEnd : Cause} {c c' : Cursor} {e : Option (Bool × List Nat)}
    (h : exponentPart atEnd c = .ok (e, c')) : Exponent e c.rest c'.rest := by
  unfold exponentPart at h
  split at h
  · cases h
    rfl
  · next b rest hrest =>
    split at h
    · next hb =>
      have hsign := exponentSign_sound (c.after b rest)
      rw [after_rest] at hsign
      dsimp only at h
      split at h
      · cases h
      · next d tail hd =>
        split at h
        · next hdigit =>
          cases h
          refine ⟨b, rest, _, hrest, hb, hsign, ?_, digits_sound _⟩
          show ((exponentSign (c.after b rest)).2.rest.takeWhile isDigit).map digitOf ≠ []
          rw [hd, List.takeWhile_cons_of_pos hdigit]
          exact List.cons_ne_nil _ _
        · cases h
    · cases h
      rfl

theorem exponentPart_complete {c : Cursor} {e : Option (Bool × List Nat)} {after : Bytes}
    (h : Exponent e c.rest after) (ends : Ends after) (atEnd : Cause) :
    ∃ c', exponentPart atEnd c = .ok (e, c') ∧ c'.rest = after := by
  cases e with
  | none =>
    refine ⟨c, ?_, h⟩
    unfold exponentPart
    rw [show c.rest = after from h]
    cases after with
    | nil => rfl
    | cons b tail =>
      obtain ⟨-, -, he, hE⟩ := ends b tail rfl
      simp only [he, hE, or_self, if_false]
  | some e =>
    obtain ⟨negative, ds⟩ := e
    obtain ⟨b, signed, mid, hrest, hb, hsign, hne, hdigits⟩ := h
    obtain ⟨d, tail, rfl, hd⟩ := hdigits.exists_first hne
    rw [← after_rest c b signed] at hsign
    obtain ⟨hnegative, hmid⟩ := exponentSign_complete hsign hd
    rw [← hmid] at hdigits
    obtain ⟨hds, hafter⟩ := digits_complete hdigits fun b tail heq => (ends b tail heq).1
    refine ⟨(digits (exponentSign (c.after b signed)).2).2, ?_, hafter⟩
    unfold exponentPart
    rw [hrest]
    simp only [if_pos hb, hmid, hd, if_true, hds, hnegative]

theorem unsigned_of_numeral {atEnd : Cause} {negative : Bool} {c c' : Cursor} {n : Numeral}
    (h : numeral atEnd negative c = .ok (n, c')) :
    n.negative = negative ∧ n.Unsigned c.rest c'.rest := by
  simp only [numeral, bind, Except.bind, pure, Except.pure] at h
  split at h
  · cases h
  · next whole hwhole =>
    split at h
    · cases h
    · next fraction hfraction =>
      split at h
      · cases h
      · next exponent hexponent =>
        cases h
        exact ⟨rfl, _, _, whole_of_wholePart hwhole, fraction_of_fractionPart hfraction,
          exponent_of_exponentPart hexponent⟩

theorem numeral_complete {c : Cursor} {n : Numeral} {after : Bytes}
    (h : n.Unsigned c.rest after) (ends : Ends after) (atEnd : Cause) :
    ∃ c', numeral atEnd n.negative c = .ok (n, c') ∧ c'.rest = after := by
  obtain ⟨fraction, exponent, hwhole, hfraction, hexponent⟩ := h
  have hexp : NoDigit exponent ∧ ∀ tail, exponent ≠ 0x2E :: tail := by
    cases hn : n.exponent with
    | none =>
      rw [hn] at hexponent
      obtain rfl : exponent = after := hexponent
      exact ⟨fun b tail heq => (ends b tail heq).1, fun tail heq => (ends _ tail heq).2.1 rfl⟩
    | some e =>
      rw [hn] at hexponent
      obtain ⟨b, signed, mid, rfl, hb, -⟩ := hexponent
      refine ⟨fun b' tail heq => ?_, fun tail heq => ?_⟩
      · cases heq
        rcases hb with rfl | rfl <;> decide
      · cases heq
        revert hb
        decide
  have hfrac : NoDigit fraction := by
    cases hn : n.fraction with
    | none =>
      rw [hn] at hfraction
      obtain rfl : fraction = exponent := hfraction
      exact hexp.1
    | some ds =>
      rw [hn] at hfraction
      obtain ⟨mid, rfl, -⟩ := hfraction
      intro b tail heq
      cases heq
      decide
  obtain ⟨c₁, hc₁, rfl⟩ := wholePart_complete hwhole hfrac atEnd
  obtain ⟨c₂, hc₂, rfl⟩ := fractionPart_complete hfraction hexp.1 hexp.2 atEnd
  obtain ⟨c₃, hc₃, hrest⟩ := exponentPart_complete hexponent ends atEnd
  refine ⟨c₃, ?_, hrest⟩
  simp only [numeral, bind, Except.bind, pure, Except.pure, hc₁, hc₂, hc₃]

theorem Numeral.Unsigned.exists_first {n : Numeral} {before after : Bytes}
    (h : n.Unsigned before after) : ∃ b tail, before = b :: tail ∧ isDigit b = true := by
  obtain ⟨fraction, exponent, ⟨hdigits, hfirst⟩, -⟩ := h
  refine hdigits.exists_first ?_
  rcases hfirst with heq | ⟨d, ds, heq, -⟩ <;> rw [heq] <;> exact List.cons_ne_nil _ _

theorem Digits.length_le {ds : List Nat} {before after : Bytes} (h : Digits ds before after) :
    after.length + ds.length = before.length := by
  obtain ⟨bytes, -, rfl, rfl⟩ := h
  rw [List.length_append, List.length_map, Nat.add_comm]

theorem Numeral.Unsigned.length_lt {n : Numeral} {before after : Bytes}
    (h : n.Unsigned before after) : after.length < before.length := by
  obtain ⟨fraction, exponent, ⟨hwhole, hfirst⟩, hfraction, hexponent⟩ := h
  have hwhole := hwhole.length_le
  have hne : 0 < n.whole.length := by
    rcases hfirst with heq | ⟨d, ds, heq, -⟩ <;> rw [heq] <;> exact Nat.succ_pos _
  have hle : exponent.length ≤ fraction.length := by
    cases hn : n.fraction with
    | none =>
      rw [hn] at hfraction
      exact Nat.le_of_eq (congrArg List.length hfraction.symm)
    | some ds =>
      rw [hn] at hfraction
      obtain ⟨mid, rfl, -, hdigits⟩ := hfraction
      have hdigits := hdigits.length_le
      rw [List.length_cons]
      omega
  have hle' : after.length ≤ exponent.length := by
    cases hn : n.exponent with
    | none =>
      rw [hn] at hexponent
      exact Nat.le_of_eq (congrArg List.length hexponent.symm)
    | some e =>
      rw [hn] at hexponent
      obtain ⟨b, signed, mid, rfl, -, hsign, -, hdigits⟩ := hexponent
      have hdigits := hdigits.length_le
      have hsigned : mid.length ≤ signed.length := by
        unfold ExponentSign at hsign
        split at hsign
        · rw [hsign, List.length_cons]
          exact Nat.le_succ _
        · rcases hsign with rfl | rfl
          · exact Nat.le_succ _
          · exact Nat.le_refl _
      rw [List.length_cons]
      omega
  omega

theorem Numeral.Written.length_lt {n : Numeral} {before after : Bytes}
    (h : n.Written before after) : after.length < before.length := by
  unfold Numeral.Written at h
  split at h
  · obtain ⟨mid, rfl, hunsigned⟩ := h
    exact Nat.lt_succ_of_lt hunsigned.length_lt
  · exact h.length_lt

/-- Where nothing that follows can be part of it, a number is read in one way only. -/
theorem Numeral.Written.unique {n n' : Numeral} {before after after' : Bytes}
    (h : n.Written before after) (h' : n'.Written before after') (ends : Ends after)
    (ends' : Ends after') : n = n' ∧ after = after' := by
  have hunsigned : ∀ {text : Bytes}, n.negative = n'.negative → n.Unsigned text after →
      n'.Unsigned text after' → n = n' ∧ after = after' := by
    intro text hsign hn hn'
    obtain ⟨c, hread, hc⟩ := numeral_complete (c := .start text) hn ends .eofInValue
    obtain ⟨c', hread', hc'⟩ := numeral_complete (c := .start text) hn' ends' .eofInValue
    rw [hsign, hread'] at hread
    obtain ⟨rfl, rfl⟩ := Prod.mk.inj (Except.ok.inj hread)
    exact ⟨rfl, hc.symm.trans hc'⟩
  -- a sign cannot be taken for a digit
  have hdigit : ∀ {m : Numeral} {text stop : Bytes}, ¬m.Unsigned (0x2D :: text) stop := by
    intro m text stop hm
    obtain ⟨b, tail, heq, hb⟩ := hm.exists_first
    cases heq
    cases hb
  unfold Numeral.Written at h h'
  split at h
  · next hneg =>
    obtain ⟨mid, rfl, hn⟩ := h
    split at h'
    · next hneg' =>
      obtain ⟨mid', heq, hn'⟩ := h'
      cases heq
      exact hunsigned (hneg.trans hneg'.symm) hn hn'
    · exact (hdigit h').elim
  · next hneg =>
    split at h'
    · obtain ⟨mid', rfl, -⟩ := h'
      exact (hdigit h).elim
    · next hneg' =>
      exact hunsigned (by rw [Bool.eq_false_iff.2 hneg, Bool.eq_false_iff.2 hneg']) h h'

/-- The number that a numeral denotes, unless it is too large. -/
def Numeral.number? (n : Numeral) : Option Number :=
  match n.value with
  | .number value => some value
  | _ => none

theorem unsigned_of_number {negative : Bool} {c c' : Cursor} {value : Number}
    (h : number negative c = .ok (value, c')) :
    ∃ n : Numeral, n.negative = negative ∧ n.number? = some value ∧ n.Unsigned c.rest c'.rest := by
  simp only [number, bind, Except.bind, pure, Except.pure] at h
  split at h
  · cases h
  · next found hnumeral =>
    obtain ⟨n, c₁⟩ := found
    obtain ⟨hsign, hunsigned⟩ := unsigned_of_numeral hnumeral
    dsimp only at h
    split at h
    · next hvalue =>
      cases h
      exact ⟨n, hsign, by rw [Numeral.number?, hvalue], hunsigned⟩
    · cases h
    · cases h

theorem number_complete {c : Cursor} {n : Numeral} {value : Number} {after : Bytes}
    (h : n.Unsigned c.rest after) (hvalue : n.number? = some value) (ends : Ends after) :
    ∃ c', number n.negative c = .ok (value, c') ∧ c'.rest = after := by
  obtain ⟨c', hnumeral, hafter⟩ := numeral_complete h ends .eofInValue
  refine ⟨c', ?_, hafter⟩
  unfold Numeral.number? at hvalue
  split at hvalue
  · next v hv =>
    cases hvalue
    simp only [number, bind, Except.bind, pure, Except.pure, hnumeral, hv]
  · cases hvalue

end QuerySwarm.Json
