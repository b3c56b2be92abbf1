import QuerySwarm.Binary64.Decimal
import QuerySwarm.Proofs.Binary64.Range
import Mathlib.Algebra.Order.Ring.Rat
import Mathlib.Algebra.Order.Field.Basic
import Mathlib.Tactic.FieldSimp
import Mathlib.Tactic.Ring

/-!
# The shortest digits stand for the double

The grids are tried from coarse to fine, and the last of them is so fine that a point of it lies
between a double and the end of the reals that round to it. So the search does not run out, and what
it finds rounds to the double (`shortest_covers`).
-/

namespace QuerySwarm.Binary64

/-- The number that a decimal stands for. -/
def Decimal.rational (d : Decimal) : ℚ := d.coefficient * 10 ^ d.exponent

theorem Decimal.rational_trimmed (fuel : Nat) (d : Decimal) :
    (d.trimmed fuel).rational = d.rational := by
  induction fuel generalizing d with
  | zero => rfl
  | succ fuel ih =>
    unfold Decimal.trimmed
    split
    · next hzero =>
      have hten : d.coefficient = d.coefficient / 10 * 10 := by omega
      rw [ih]
      unfold Decimal.rational
      rw [hten, Nat.mul_div_cancel _ (by decide), zpow_add_one₀ (by norm_num)]
      push_cast
      ring
    · rfl

/-! ### One grid -/

namespace Interval

variable {i : Interval} {tie : Tie} {step denominator candidate : Nat}

theorem bounds_of_contains (h : i.contains candidate step denominator = true) :
    i.low * denominator ≤ candidate * step ∧ candidate * step ≤ i.high * denominator := by
  unfold contains at h
  dsimp only at h
  split at h <;> simp only [Bool.and_eq_true, decide_eq_true_eq] at h <;> omega

theorem contains_of_between (low : i.low * denominator < candidate * step)
    (high : candidate * step < i.high * denominator) :
    i.contains candidate step denominator = true := by
  unfold contains
  dsimp only
  split <;> simp only [Bool.and_eq_true, decide_eq_true_eq] <;> omega

theorem contains_of_nearest? (h : i.nearest? tie step denominator = some candidate) :
    i.contains candidate step denominator = true := by
  unfold nearest? at h
  dsimp only at h
  generalize i.centre * denominator / step = below at h
  split at h
  · cases h
  · next hbelow _ =>
    cases h
    exact hbelow
  · next _ habove =>
    cases h
    exact habove
  · next hbelow habove =>
    split at h
    · cases h
      exact hbelow
    · split at h
      · cases h
        exact habove
      · cases tie with
        | up =>
          cases h
          exact habove
        | even =>
          dsimp only at h
          split at h <;> cases h
          · exact hbelow
          · exact habove

/-- A grid that is finer than the upper half of the interval has a point in it. -/
theorem exists_nearest? (hstep : 0 < step) (low : i.low ≤ i.centre)
    (fine : i.centre * denominator + step < i.high * denominator) (tie : Tie) :
    ∃ candidate, i.nearest? tie step denominator = some candidate := by
  have habove : i.contains (i.centre * denominator / step + 1) step denominator = true := by
    have hlow := Nat.mul_le_mul_right denominator low
    have hdiv := Nat.div_add_mod (i.centre * denominator) step
    have hmod := Nat.mod_lt (i.centre * denominator) hstep
    have hnext : (i.centre * denominator / step + 1) * step =
        step * (i.centre * denominator / step) + step := by ring
    refine contains_of_between ?_ ?_ <;> rw [hnext] <;> omega
  unfold nearest?
  simp only [habove]
  cases i.contains (i.centre * denominator / step) step denominator with
  | false => exact ⟨_, rfl⟩
  | true =>
    dsimp only
    split
    · exact ⟨_, rfl⟩
    · split
      · exact ⟨_, rfl⟩
      · cases tie <;> exact ⟨_, rfl⟩

end Interval

theorem grid_pos (exponent : Int) : 0 < (grid exponent).1 ∧ 0 < (grid exponent).2 := by
  have hunits := unitsPerOne_pos
  cases exponent with
  | ofNat e => exact ⟨Nat.mul_pos (by omega) (Nat.pow_pos (by decide)), Nat.one_pos⟩
  | negSucc e => exact ⟨by show 0 < 4 * unitsPerOne; omega, Nat.pow_pos (by decide)⟩

/-- A grid has the multiples of its power of ten. -/
theorem grid_eq (exponent : Int) :
    ((grid exponent).1 : ℚ) = 10 ^ exponent * (4 * unitsPerOne) * (grid exponent).2 := by
  cases exponent with
  | ofNat e =>
    show ((4 * unitsPerOne * 10 ^ e : Nat) : ℚ) = 10 ^ (e : ℤ) * (4 * unitsPerOne) * (1 : Nat)
    push_cast
    rw [zpow_natCast]
    ring
  | negSucc e =>
    show ((4 * unitsPerOne : Nat) : ℚ) = 10 ^ Int.negSucc e * (4 * unitsPerOne) * (10 ^ (e + 1) : Nat)
    generalize unitsPerOne = one
    rw [zpow_negSucc]
    push_cast
    field_simp

/-! ### The search -/

/-- Whether a decimal is not beyond the ends of an interval. -/
def Interval.Has (i : Interval) (d : Decimal) : Prop :=
  i.low ≤ d.rational * (4 * unitsPerOne) ∧ d.rational * (4 * unitsPerOne) ≤ i.high

/-- Whether a decimal rounds to the double that an interval is about: the ends may not. -/
def Interval.Covers (i : Interval) (d : Decimal) : Prop :=
  if i.closed then i.Has d
  else i.low < d.rational * (4 * unitsPerOne) ∧ d.rational * (4 * unitsPerOne) < i.high

theorem Interval.Covers.has {i : Interval} {d : Decimal} (h : i.Covers d) : i.Has d := by
  unfold Covers at h
  split at h
  · exact h
  · exact ⟨h.1.le, h.2.le⟩

theorem Interval.Has.coefficient_ne_zero {i : Interval} {d : Decimal} (low : 0 < i.low)
    (h : i.Has d) : d.coefficient ≠ 0 := by
  intro hzero
  have hlow := h.1
  rw [Decimal.rational, hzero, Nat.cast_zero, zero_mul, zero_mul, Nat.cast_nonpos] at hlow
  exact low.ne' hlow

theorem Interval.contains_grid_iff {i : Interval} {d : Decimal} :
    i.contains d.coefficient (grid d.exponent).1 (grid d.exponent).2 = true ↔ i.Covers d := by
  have hpos : (0 : ℚ) < (grid d.exponent).2 := by exact_mod_cast (grid_pos d.exponent).2
  have heq : ((d.coefficient * (grid d.exponent).1 : Nat) : ℚ) =
      d.rational * (4 * unitsPerOne) * (grid d.exponent).2 := by
    rw [Nat.cast_mul, grid_eq, Decimal.rational]
    ring
  unfold contains Covers Has
  dsimp only
  split <;> simp only [Bool.and_eq_true, decide_eq_true_eq]
  · rw [← Nat.cast_le (α := ℚ), ← Nat.cast_le (α := ℚ), heq, Nat.cast_mul, Nat.cast_mul,
      mul_le_mul_iff_of_pos_right hpos, mul_le_mul_iff_of_pos_right hpos]
  · rw [← Nat.cast_lt (α := ℚ), ← Nat.cast_lt (α := ℚ), heq, Nat.cast_mul, Nat.cast_mul,
      mul_lt_mul_iff_of_pos_right hpos, mul_lt_mul_iff_of_pos_right hpos]

/-- If one of the grids has a point in the interval, a point in the interval is found. -/
theorem covers_search {i : Interval} {tie : Tie} (low : 0 < i.low) {fuel : Nat} {exponent : Int}
    {later : Nat} (hlater : later < fuel) {coefficient : Nat}
    (hit : i.nearest? tie (grid (exponent - later)).1 (grid (exponent - later)).2 = some coefficient) :
    i.Covers (search i tie fuel exponent) := by
  have ne_zero : ∀ {exponent : Int} {c : Nat},
      i.nearest? tie (grid exponent).1 (grid exponent).2 = some c → c ≠ 0 := by
    rintro exponent c h rfl
    obtain ⟨hlow, -⟩ := Interval.bounds_of_contains (Interval.contains_of_nearest? h)
    have hpos := Nat.mul_pos low (grid_pos exponent).2
    omega
  -- on the fuel, with the grid that is hit one step nearer each time
  induction fuel generalizing exponent later with
  | zero => cases hlater
  | succ fuel ih =>
    unfold search
    cases hfirst : i.nearest? tie (grid exponent).1 (grid exponent).2 with
    | some c =>
      dsimp only
      rw [if_neg (ne_zero hfirst), Interval.Covers, Interval.Has, Decimal.rational_trimmed]
      exact Interval.contains_grid_iff.1 (Interval.contains_of_nearest? hfirst)
    | none =>
      cases later with
      | zero =>
        rw [Nat.cast_zero, Int.sub_zero, hfirst] at hit
        cases hit
      | succ later =>
        refine ih (Nat.lt_of_succ_lt_succ hlater) ?_
        rwa [show exponent - 1 - later = exponent - (later + 1 : Nat) by push_cast; ring]

/-- The last of the grids is finer than half the distance to the next double. -/
theorem fine_of_lt : ∀ k : Nat, k < 2098 →
    (grid (((k : Int) - 1074) * 30103 / 100000 + 2 - 23)).1 <
      2 * Nat.pow 2 (k - 52) * (grid (((k : Int) - 1074) * 30103 / 100000 + 2 - 23)).2 := by
  decide +kernel

/-- The distance to the next double is not greater than the double. -/
theorem two_pow_step_le {units : Nat} (hpos : 0 < units) : Nat.pow 2 (units.log2 - 52) ≤ units :=
  Nat.le_trans (Nat.pow_le_pow_right (by decide) (Nat.sub_le _ _)) (Nat.log2_self_le hpos.ne')

theorem interval_bounds {units : Nat} (hpos : 0 < units) :
    0 < (interval units).low ∧ (interval units).low ≤ (interval units).centre ∧
      (interval units).high = (interval units).centre + 2 * Nat.pow 2 (units.log2 - 52) := by
  have hulp := two_pow_step_le hpos
  unfold interval
  dsimp only
  split <;> omega

/-- The shortest decimal of a double rounds to it. -/
theorem shortest_covers (tie : Tie) {units : Nat} (hpos : 0 < units) (h : Representable units) :
    (interval units).Covers (shortest tie units) := by
  have hlog : ∀ k, units < Nat.pow 2 k → units.log2 < k := fun _ => (Nat.log2_lt hpos.ne').2
  have hfine := fine_of_lt units.log2 (hlog 2098 h.1)
  obtain ⟨hlow, hcentre, hhigh⟩ := interval_bounds hpos
  obtain ⟨coefficient, hit⟩ := Interval.exists_nearest? (i := interval units)
    (grid_pos (decimalExponentBound units - (23 : Nat))).1 hcentre
    (by rw [hhigh, Nat.add_mul]; exact Nat.add_lt_add_left hfine _) tie
  exact covers_search hlow (show 23 < 24 by decide) hit

theorem shortest_spec (tie : Tie) {units : Nat} (hpos : 0 < units) (h : Representable units) :
    (interval units).Has (shortest tie units) :=
  (shortest_covers tie hpos h).has

theorem coefficient_shortest_ne_zero (tie : Tie) {units : Nat} (hpos : 0 < units)
    (h : Representable units) : (shortest tie units).coefficient ≠ 0 :=
  (shortest_spec tie hpos h).coefficient_ne_zero (interval_bounds hpos).1

end QuerySwarm.Binary64
