import QuerySwarm.Proofs.Binary64.Order
import QuerySwarm.Proofs.Binary64.Shortest
import QuerySwarm.Proofs.Json.Lexemes

/-!
# The numbers of JSON text

A numeral stands for a rational number, exactly. Read, it is an integer of 64 bits with that value, or
a double, which is always finite.

* `rational_of_integer`: an integer that is read is the number that was written.
* `isFinite_of_double`: a double that is read is finite.
-/

namespace QuerySwarm.Json

/-! ### Digits -/

def digitValues (cs : List Char) : List Nat := cs.map fun char => char.toNat - '0'.toNat

/-- The number that digits stand for. -/
def decimal (ds : List Nat) : Nat := ds.foldl (fun n d => n * 10 + d) 0

theorem foldl_decimal (n : Nat) (ds : List Nat) :
    ds.foldl (fun n d => n * 10 + d) n = n * 10 ^ ds.length + decimal ds := by
  induction ds generalizing n with
  | nil => exact (Nat.mul_one n).symm
  | cons d ds ih =>
    unfold decimal
    rw [List.foldl_cons, List.foldl_cons, ih, ih (0 * 10 + d), List.length_cons]
    ring

/-- One digit more is taken. -/
theorem decimal_next (n d : Nat) (ds : List Nat) :
    n * 10 ^ (d :: ds).length + decimal (d :: ds) = (n * 10 + d) * 10 ^ ds.length + decimal ds :=
  (foldl_decimal n (d :: ds)).symm.trans (foldl_decimal (n * 10 + d) ds)

theorem decimal_cons (d : Nat) (ds : List Nat) :
    decimal (d :: ds) = d * 10 ^ ds.length + decimal ds := by
  have hnext := decimal_next 0 d ds
  rwa [Nat.zero_mul, Nat.zero_add, Nat.zero_mul, Nat.zero_add] at hnext

theorem decimal_append (ds ds' : List Nat) :
    decimal (ds ++ ds') = decimal ds * 10 ^ ds'.length + decimal ds' := by
  rw [decimal, List.foldl_append, foldl_decimal]
  rfl

theorem decimal_zeros (k : Nat) : decimal (List.replicate k 0) = 0 := by
  induction k with
  | zero => rfl
  | succ k ih => exact ih

theorem decimal_digitValues (cs : List Char) :
    decimal (digitValues cs) = Nat.ofDigitChars 10 cs 0 := by
  unfold decimal digitValues Nat.ofDigitChars
  rw [List.foldl_map]
  congr 1
  funext n char
  rw [Nat.mul_comm]

theorem decimal_digitsOf (n : Nat) : decimal (digitValues (digitsOf n)) = n :=
  (decimal_digitValues _).trans (Nat.ofDigitChars_toDigits (by decide) (by decide))

/-! ### The number that a numeral stands for -/

namespace Numeral

def sign (negative : Bool) : ℚ := if negative then -1 else 1

/-- The power of ten that the digits of a numeral are scaled by. -/
def power (n : Numeral) : ℤ :=
  match n.exponent with
  | none => 0
  | some (negative, ds) => if negative then -(decimal ds : ℤ) else decimal ds

/-- The number that a numeral stands for. -/
def rational (n : Numeral) : ℚ :=
  sign n.negative * decimal (n.whole ++ n.fraction.getD []) *
    10 ^ (n.power - (n.fraction.getD []).length)

end Numeral

/-! ### Numbers that are read -/

/-- The digits that are taken, and what is left. -/
theorem accumulate_spec {n v : Nat} {ds left : List Nat} (h : accumulate n ds = (v, left)) :
    ∃ taken, ds = taken ++ left ∧ v = n * 10 ^ taken.length + decimal taken := by
  induction ds generalizing n with
  | nil =>
    cases h
    exact ⟨[], rfl, (Nat.mul_one _).symm⟩
  | cons d ds ih =>
    unfold accumulate at h
    split at h
    · cases h
      exact ⟨[], rfl, (Nat.mul_one _).symm⟩
    · obtain ⟨taken, rfl, rfl⟩ := ih h
      exact ⟨d :: taken, rfl, (decimal_next n d taken).symm⟩

/-- What is taken fits in 64 bits, and with the next digit it would not. -/
theorem accumulate_le {n v : Nat} {ds left : List Nat} (hn : n ≤ maxNat64)
    (h : accumulate n ds = (v, left)) :
    v ≤ maxNat64 ∧ ∀ d rest, left = d :: rest → maxNat64 < v * 10 + d := by
  induction ds generalizing n with
  | nil =>
    cases h
    exact ⟨hn, by rintro d rest ⟨⟩⟩
  | cons d ds ih =>
    unfold accumulate at h
    split at h
    · next hover =>
      cases h
      refine ⟨hn, ?_⟩
      rintro _ _ ⟨⟩
      exact hover
    · next hfits => exact ih (Nat.not_lt.1 hfits) h

theorem integerValue_eq_integer {negative : Bool} {n : Nat} {i : Int}
    (h : integerValue negative n = .integer i) : (i : ℚ) = Numeral.sign negative * n := by
  unfold integerValue at h
  unfold Numeral.sign
  split at h
  · next hneg =>
    split at h
    · cases h
    · cases h
      rw [if_pos hneg]
      push_cast
      ring
  · next hneg =>
    cases h
    rw [if_neg hneg]
    push_cast
    ring

/-- How a number is read: as the integer of whole digits that fit in 64 bits, as a double that is
scaled, or as zero, if the exponent of a zero or a negative exponent is too large. -/
theorem number?_cases {n : Numeral} {value : Number} (h : n.number? = some value) :
    ∃ front left significand rest, accumulate 0 n.whole = (front, left) ∧
      accumulate front (n.fraction.getD []) = (significand, rest) ∧
      ((n.exponent = none ∧ n.fraction = none ∧ left = [] ∧ value = integerValue n.negative front) ∨
        (∃ exponent fuel y, scale? (Binary64.ofNat significand) exponent fuel = some y ∧
          value = .double (signed n.negative y)) ∨
        value = .double (signed n.negative (.zero false))) := by
  unfold Numeral.number? Numeral.value at h
  cases hwhole : accumulate 0 n.whole with
  | mk front left =>
    cases hfraction : accumulate front (n.fraction.getD []) with
    | mk significand rest =>
      refine ⟨front, left, significand, rest, rfl, hfraction, ?_⟩
      simp only [hwhole, hfraction] at h
      split at h
      · next value' hvalue =>
        cases h
        split at hvalue
        · next hexponent =>
          split at hvalue
          · next hplain =>
            rw [Bool.and_eq_true, Option.isNone_iff_eq_none, List.isEmpty_iff] at hplain
            cases hvalue
            exact .inl ⟨hexponent, hplain.1, hplain.2, rfl⟩
          · split at hvalue
            · next y hy =>
              cases hvalue
              exact .inr (.inl ⟨_, _, y, hy, rfl⟩)
            · cases hvalue
        · split at hvalue
          · split at hvalue
            · cases hvalue
            · cases hvalue
              exact .inr (.inr rfl)
          · split at hvalue
            · next y hy =>
              cases hvalue
              exact .inr (.inl ⟨_, _, y, hy, rfl⟩)
            · cases hvalue
      · cases h

/-- An integer that is read is the number that was written. -/
theorem rational_of_integer {n : Numeral} {i : Int} (h : n.number? = some (.integer i)) :
    n.rational = i := by
  obtain ⟨front, left, significand, rest, hwhole, -, ⟨hexponent, hfraction, rfl, hvalue⟩ |
    ⟨_, _, _, -, hvalue⟩ | hvalue⟩ := number?_cases h
  · obtain ⟨taken, htaken, rfl⟩ := accumulate_spec hwhole
    rw [integerValue_eq_integer hvalue.symm, Numeral.rational, Numeral.power, hexponent, hfraction,
      htaken]
    simp
  · cases hvalue
  · cases hvalue

/-! ### Doubles that are read -/

section Doubles

open Binary64

variable {x y : Binary64}

theorem isFinite_neg (x : Binary64) : (-x).isFinite = x.isFinite := by
  cases x <;> rfl

theorem isFinite_signed (negative : Bool) (x : Binary64) :
    (signed negative x).isFinite = x.isFinite := by
  cases negative
  · rfl
  · exact isFinite_neg x

theorem exists_two_pow_mul_unitsPerOne (k : Nat) :
    ∃ m, 2 ^ k * unitsPerOne = 2 ^ m ∧ m = k + 1074 := by
  refine ⟨_, ?_, rfl⟩
  rw [Nat.pow_add, unitsPerOne_eq]

/-- A rounded count of units is a finite double unless it is too large. -/
theorem round_eq_finite (negative : Bool) {n d : Nat} (h : roundUnits n d < Nat.pow 2 2098) :
    (Binary64.round negative n d).isFinite = true ∧
      (Binary64.round negative n d).magnitude = roundUnits n d := by
  have hshape : Representable (roundUnits n d) := by
    obtain ⟨m, hm, heq⟩ := exists_roundUnits_eq n d
    refine ⟨h, ?_⟩
    rw [heq]
    exact mul_two_pow_mod m _ hm
  unfold Binary64.round ofUnits
  rw [dif_pos hshape]
  exact ⟨rfl, rfl⟩

/-- The powers of ten that a number is scaled by are finite doubles, and but for the first not below
two. -/
theorem power_isFinite {k : Nat} (hk : k ≤ 308) : (ofDecimal false 1 k).isFinite = true ∧
    (ofDecimal false 1 k).magnitude = roundUnits (10 ^ k * unitsPerOne) 1 ∧
    (k = 0 ∨ 2 * unitsPerOne ≤ (ofDecimal false 1 k).magnitude) := by
  have hround : ofDecimal false 1 k = Binary64.round false (10 ^ k * unitsPerOne) 1 := by
    have hdigits : (digitsOf 1).length = 1 := rfl
    unfold ofDecimal
    simp only [hdigits]
    rw [if_neg (by decide), if_neg (by omega), if_neg (by omega)]
    show ofRatio false (1 * 10 ^ k) 1 = _
    rw [Nat.one_mul]
    rfl
  have hlast : roundUnits (10 ^ 308 * unitsPerOne) 1 < Nat.pow 2 2098 := by decide +kernel
  have hmono : ∀ j, k ≤ j → 10 ^ k * unitsPerOne ≤ 10 ^ j * unitsPerOne := fun j hj =>
    Nat.mul_le_mul_right _ (Nat.pow_le_pow_right (by decide) hj)
  obtain ⟨hfinite, hmagnitude⟩ :=
    round_eq_finite false (Nat.lt_of_le_of_lt (roundUnits_mono 1 (hmono 308 hk)) hlast)
  rw [hround, hmagnitude]
  refine ⟨hfinite, rfl, ?_⟩
  rcases Nat.eq_zero_or_pos k with rfl | hpos
  · exact .inl rfl
  · right
    have hten : 2 ^ 1 ≤ 10 ^ k := Nat.le_trans (by decide) (Nat.pow_le_pow_right (by decide) hpos)
    obtain ⟨m, htwo, -⟩ := exists_two_pow_mul_unitsPerOne 1
    calc 2 * unitsPerOne = 2 ^ 1 * unitsPerOne := by rw [Nat.pow_one]
      _ = 2 ^ m := htwo
      _ ≤ roundUnits (10 ^ k * unitsPerOne) 1 := two_pow_le_roundUnits (by
        rw [Nat.div_one, ← htwo]
        exact Nat.mul_le_mul_right _ hten)

theorem round_isFinite (negative : Bool) {n d k : Nat} (h : n / d < 2 ^ k) (hk : k < 2098) :
    (Binary64.round negative n d).isFinite = true ∧
      (Binary64.round negative n d).magnitude = roundUnits n d ∧ roundUnits n d ≤ 2 ^ k := by
  obtain ⟨representable, heq, hle⟩ := exists_round_eq_finite negative h hk
  rw [heq]
  exact ⟨rfl, rfl, hle⟩

theorem ofNat_isFinite {n : Nat} (h : n ≤ maxNat64) :
    (ofNat n).isFinite = true ∧ (ofNat n).magnitude = roundUnits (n * unitsPerOne) 1 ∧
      ∃ k, k < 2098 ∧ (ofNat n).magnitude ≤ 2 ^ k := by
  have hmax : maxNat64 < 2 ^ 64 := by decide
  obtain ⟨k, heq, hk⟩ := exists_two_pow_mul_unitsPerOne 64
  have hquotient : n * unitsPerOne / 1 < 2 ^ k := by
    rw [Nat.div_one, ← heq]
    exact Nat.mul_lt_mul_of_pos_right (Nat.lt_of_le_of_lt h hmax) unitsPerOne_pos
  obtain ⟨hfinite, hmagnitude, hbound⟩ := round_isFinite false hquotient (by omega)
  exact ⟨hfinite, hmagnitude, k, by omega, hmagnitude.trans_le hbound⟩

/-- A product of finite doubles is finite or infinite. -/
theorem isFinite_mul (hx : x.isFinite = true) (hy : y.isFinite = true)
    (h : (x * y).isInfinite = false) : (x * y).isFinite = true := by
  cases x <;> cases hx
  cases y <;> cases hy
  next n units _ m units' _ =>
    change (mul _ _).isInfinite = false at h
    change (mul _ _).isFinite = true
    simp only [mul, Binary64.round, ofUnits] at h ⊢
    split at h
    · next hshape =>
      rw [dif_pos hshape]
      rfl
    · cases h

/-- A finite double that is divided by a number not below two stays finite, and gets no larger. -/
theorem isFinite_div {k : Nat} (hx : x.isFinite = true) (bound : x.magnitude ≤ 2 ^ k)
    (hk : k < 2098) (hy : y.isFinite = true) (hlow : 2 * unitsPerOne ≤ y.magnitude) :
    (x / y).isFinite = true ∧ (x / y).magnitude ≤ 2 ^ k := by
  cases x <;> cases hx
  cases y <;> cases hy
  next n units _ m units' _ =>
    have hone := unitsPerOne_pos
    change units ≤ 2 ^ k at bound
    change 2 * unitsPerOne ≤ units' at hlow
    have hquotient : units * unitsPerOne / units' < 2 ^ k := by
      rw [Nat.div_lt_iff_lt_mul (by omega)]
      calc units * unitsPerOne ≤ 2 ^ k * unitsPerOne := Nat.mul_le_mul_right _ bound
        _ < 2 ^ k * (2 * unitsPerOne) := Nat.mul_lt_mul_of_pos_left (by omega) (Nat.two_pow_pos k)
        _ ≤ 2 ^ k * units' := Nat.mul_le_mul_left _ hlow
    change (div _ _).isFinite = true ∧ (div _ _).magnitude ≤ _
    simp only [div]
    rw [if_neg (by omega)]
    obtain ⟨hfinite, hmagnitude, hle⟩ := round_isFinite (n != m) hquotient hk
    exact ⟨hfinite, hmagnitude.trans_le hle⟩

theorem isFinite_of_scale? {exponent : Int} {fuel k : Nat} (hx : x.isFinite = true)
    (bound : x.magnitude ≤ 2 ^ k) (hk : k < 2098) (h : scale? x exponent fuel = some y) :
    y.isFinite = true := by
  -- on the fuel: the number gets no larger as it is divided, so it keeps its bound
  induction fuel generalizing x exponent with
  | zero =>
    cases h
    exact hx
  | succ fuel ih =>
    unfold scale? at h
    dsimp only at h
    split at h
    · next hsmall =>
      obtain ⟨hpower, -, hlow⟩ := power_isFinite hsmall
      split at h
      · split at h
        · cases h
        · next hfinite =>
          cases h
          exact isFinite_mul hx hpower (Bool.eq_false_iff.2 hfinite)
      · next hnegative =>
        cases h
        exact (isFinite_div hx bound hk hpower (hlow.resolve_left (by omega))).1
    · split at h
      · cases h
        exact hx
      · split at h
        · cases h
        · obtain ⟨hpower, -, hlow⟩ := power_isFinite (Nat.le_refl 308)
          obtain ⟨hquotient, hbound⟩ :=
            isFinite_div hx bound hk hpower (hlow.resolve_left (by decide))
          exact ih hquotient hbound h

theorem isFinite_of_integerValue {negative : Bool} {n : Nat} (hn : n ≤ maxNat64)
    (h : integerValue negative n = .double x) : x.isFinite = true := by
  unfold integerValue at h
  split at h
  · split at h
    · rw [Number.double.injEq] at h
      rw [← h, isFinite_neg]
      exact (ofNat_isFinite hn).1
    · cases h
  · cases h

/-- A double that is read is finite. -/
theorem isFinite_of_double {n : Numeral} (h : n.number? = some (.double x)) : x.isFinite = true := by
  obtain ⟨front, left, significand, rest, hwhole, hfraction, ⟨-, -, -, hvalue⟩ |
    ⟨exponent, fuel, y, hscale, hvalue⟩ | hvalue⟩ := number?_cases h
  · exact isFinite_of_integerValue (accumulate_le (Nat.zero_le _) hwhole).1 hvalue.symm
  · have hle := (accumulate_le (accumulate_le (Nat.zero_le _) hwhole).1 hfraction).1
    obtain ⟨hfinite, -, k, hk, hbound⟩ := ofNat_isFinite hle
    cases hvalue
    rw [isFinite_signed]
    exact isFinite_of_scale? hfinite hbound hk hscale
  · cases hvalue
    rw [isFinite_signed]
    rfl

end Doubles

end QuerySwarm.Json
