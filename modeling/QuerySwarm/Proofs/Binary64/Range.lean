import QuerySwarm.Binary64.Basic
import Mathlib.Tactic.Ring

/-!
# The range of a rounded number

A rounded count of units is a multiple of a power of two by at most `2^53`, so it has the shape of a
double whatever was rounded; only its size can put it out of range. And rounding never leads beyond
a power of two that the exact quotient is below, which is how the size is bounded.

Main statements: a quotient below a power of two in range rounds to a finite double (`representable_roundUnits`),
and a power of two that bounds the quotient bounds the result (`roundUnits_le_two_pow`). Hence a
difference of numbers in order is finite (`Binary64.exists_sub_eq_finite`).
-/

namespace QuerySwarm

/-! ### The shape -/

theorem le_roundHalfEven (a b : Nat) : a / b ≤ roundHalfEven a b := by
  unfold roundHalfEven
  split <;> omega

theorem roundHalfEven_le_succ (a b : Nat) : roundHalfEven a b ≤ a / b + 1 := by
  unfold roundHalfEven
  split <;> omega

/-- Without its low bits a number has at most 53. -/
theorem div_two_pow_log2_lt (q : Nat) : q / 2 ^ (q.log2 - 52) < 2 ^ 53 := by
  rw [Nat.div_lt_iff_lt_mul (Nat.two_pow_pos _), ← Nat.pow_add]
  refine Nat.lt_of_lt_of_le Nat.lt_log2_self ?_
  exact Nat.pow_le_pow_right (by decide) (by omega)

/-- Rounding gives at most `2^53` steps, and the size of a step is that of the quotient. -/
theorem exists_roundUnits_eq (n d : Nat) :
    ∃ m ≤ 2 ^ 53, roundUnits n d = m * 2 ^ ((n / d).log2 - 52) := by
  refine ⟨roundHalfEven n (d * 2 ^ ((n / d).log2 - 52)), ?_, rfl⟩
  have hround := roundHalfEven_le_succ n (d * 2 ^ ((n / d).log2 - 52))
  have hfloor := div_two_pow_log2_lt (n / d)
  rw [Nat.div_div_eq_div_mul] at hfloor
  omega

/-- So many steps of a power of two have the shape of a double. -/
theorem mul_two_pow_mod (m s : Nat) (hm : m ≤ 2 ^ 53) :
    m * 2 ^ s % 2 ^ ((m * 2 ^ s).log2 - 52) = 0 := by
  apply Nat.mod_eq_zero_of_dvd
  rcases Nat.lt_or_eq_of_le hm with hlt | rfl
  · -- below `2^53` steps no more bits are dropped than the steps leave open
    rcases Nat.eq_zero_or_pos m with rfl | hpos
    · simp
    · have hne : m * 2 ^ s ≠ 0 := Nat.mul_ne_zero (by omega) (Nat.two_pow_pos s).ne'
      have hbound : m * 2 ^ s < 2 ^ (53 + s) := by
        rw [Nat.pow_add]
        exact Nat.mul_lt_mul_of_pos_right hlt (Nat.two_pow_pos s)
      have hlog := (Nat.log2_lt hne).2 hbound
      exact dvd_mul_of_dvd_right (pow_dvd_pow 2 (by omega)) m
  · rw [← Nat.pow_add, Nat.log2_two_pow]
    exact pow_dvd_pow 2 (by omega)

/-! ### The size -/

theorem roundUnits_le_two_pow {n d k : Nat} (h : n / d < 2 ^ k) : roundUnits n d ≤ 2 ^ k := by
  obtain ⟨m, hm, heq⟩ := exists_roundUnits_eq n d
  rcases Nat.lt_or_ge 52 (n / d).log2 with hlarge | hsmall
  · have hne : n / d ≠ 0 := by
      intro hzero
      simp [hzero] at hlarge
    have hlog := (Nat.log2_lt hne).2 h
    rw [heq]
    calc m * 2 ^ ((n / d).log2 - 52)
        ≤ 2 ^ 53 * 2 ^ ((n / d).log2 - 52) := Nat.mul_le_mul_right _ hm
      _ = 2 ^ (53 + ((n / d).log2 - 52)) := (Nat.pow_add 2 _ _).symm
      _ ≤ 2 ^ k := Nat.pow_le_pow_right (by decide) (by omega)
  · -- a step of one unit: the result is the quotient or the number after it
    have hstep : (n / d).log2 - 52 = 0 := by omega
    have hround := roundHalfEven_le_succ n d
    have hunits : roundUnits n d = roundHalfEven n d := by simp [roundUnits, hstep]
    omega

/-- A quotient that is not too large rounds to a finite double. -/
theorem representable_roundUnits {n d k : Nat} (h : n / d < 2 ^ k) (hk : k < 2098) :
    Representable (roundUnits n d) := by
  constructor
  · refine Nat.lt_of_le_of_lt (roundUnits_le_two_pow h) ?_
    exact Nat.pow_lt_pow_right (by decide) hk
  · obtain ⟨m, hm, heq⟩ := exists_roundUnits_eq n d
    rw [heq]
    exact mul_two_pow_mod m _ hm

theorem unitsPerOne_eq : unitsPerOne = 2 ^ 1074 := rfl

theorem unitsPerOne_pos : 0 < unitsPerOne := by
  rw [unitsPerOne_eq]
  exact Nat.two_pow_pos _

namespace Binary64

/-- Rounding what is not too large gives a finite double, and bounds it. -/
theorem exists_round_eq_finite (negative : Bool) {n d k : Nat} (h : n / d < 2 ^ k) (hk : k < 2098) :
    ∃ representable,
      round negative n d = .finite negative (roundUnits n d) representable ∧
        roundUnits n d ≤ 2 ^ k := by
  have hshape := representable_roundUnits h hk
  refine ⟨hshape, ?_, roundUnits_le_two_pow h⟩
  simp [round, ofUnits, hshape]

/-! ### Differences and quotients -/

theorem zero_eq : (0 : Binary64) = .finite false 0 representable_zero := by decide +kernel

theorem signedUnits_le (n : Bool) (x : Nat) : signedUnits n x ≤ x := by
  unfold signedUnits
  split <;> omega

theorem signedUnits_not (n : Bool) (x : Nat) : signedUnits (!n) x = -signedUnits n x := by
  cases n <;> simp [signedUnits]

/-- What is left of a number when a smaller one that is not negative is taken from it is finite, and
not out of its reach. -/
theorem exists_sub_eq_finite {n m : Bool} {x y k : Nat} {hx : Representable x}
    {hy : Representable y} (horder : signedUnits m y < signedUnits n x)
    (hlow : 0 ≤ signedUnits m y) (hhigh : x < 2 ^ k) (hk : k < 2098) :
    ∃ units representable,
      finite n x hx - finite m y hy = .finite false units representable ∧ units ≤ 2 ^ k := by
  have hreach := signedUnits_le n x
  have hsmall : (signedUnits n x + -signedUnits m y).natAbs / 1 < 2 ^ k := by omega
  obtain ⟨representable, heq, hle⟩ := exists_round_eq_finite false hsmall hk
  refine ⟨_, representable, ?_, hle⟩
  change add (finite n x hx) (finite (!m) y hy) = _
  simp only [add, signedUnits_not]
  rw [if_neg (by omega), decide_eq_false (by omega)]
  exact heq

/-- A finite number divided by a number that is at least a half is finite. -/
theorem exists_div_eq_finite {x y k : Nat} (hx : Representable x) (hy : Representable y)
    (hhigh : x ≤ 2 ^ k) (hlow : unitsPerOne ≤ 2 * y) (hk : k + 2 < 2098) :
    ∃ units representable,
      finite false x hx / finite false y hy = .finite false units representable := by
  have hone := unitsPerOne_pos
  have hquotient : x * unitsPerOne / y < 2 ^ (k + 2) := by
    rw [Nat.div_lt_iff_lt_mul (by omega)]
    calc x * unitsPerOne ≤ 2 ^ k * (2 * y) := Nat.mul_le_mul hhigh hlow
      _ < 2 ^ k * (4 * y) := Nat.mul_lt_mul_of_pos_left (by omega) (Nat.two_pow_pos k)
      _ = 2 ^ (k + 2) * y := by ring
  obtain ⟨representable, heq, -⟩ := exists_round_eq_finite false hquotient hk
  refine ⟨_, representable, ?_⟩
  change div (finite false x hx) (finite false y hy) = _
  simp only [div]
  rw [if_neg (by omega)]
  exact heq

end Binary64

end QuerySwarm
