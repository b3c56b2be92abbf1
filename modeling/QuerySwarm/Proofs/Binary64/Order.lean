import QuerySwarm.Proofs.Binary64.Range

/-!
# Rounding keeps the order

Of two quotients by the same number, the greater one does not round to less (`roundUnits_mono`), and
rounding adds at most one part in `2^52` to a quotient that is not tiny (`roundUnits_mul_le`) and
takes no more away (`le_roundUnits_mul`). What is left to be said of a double then is said of its
units alone. A double that bounds a quotient bounds what it is rounded to (`roundUnits_le`,
`le_roundUnits`).
-/

namespace QuerySwarm

/-! ### One denominator -/

theorem roundHalfEven_mono {a b : Nat} (d : Nat) (h : a ≤ b) :
    roundHalfEven a d ≤ roundHalfEven b d := by
  rcases Nat.lt_or_eq_of_le (Nat.div_le_div_right (c := d) h) with hlt | heq
  · calc roundHalfEven a d ≤ a / d + 1 := roundHalfEven_le_succ a d
      _ ≤ b / d := hlt
      _ ≤ roundHalfEven b d := le_roundHalfEven b d
  · -- the quotients are the same, so the remainders decide
    have ha := Nat.div_add_mod a d
    have hb := Nat.div_add_mod b d
    rw [← heq] at hb
    have hmod : a % d ≤ b % d := by omega
    unfold roundHalfEven
    rw [← heq]
    split <;> split <;> omega

/-- A step of rounding does not exceed one part in `2^52` of what is rounded, unless it is one
unit. -/
theorem two_pow_shift_le (q : Nat) (h : 2 ^ 52 ≤ q) : 2 ^ (q.log2 - 52) * 2 ^ 52 ≤ q := by
  have hne : q ≠ 0 := by
    have := Nat.two_pow_pos 52
    omega
  have hlog : 52 ≤ q.log2 := (Nat.le_log2 hne).2 h
  rw [← Nat.pow_add, Nat.sub_add_cancel hlog]
  exact Nat.log2_self_le hne

theorem two_pow_le_roundUnits {n d k : Nat} (h : 2 ^ k ≤ n / d) : 2 ^ k ≤ roundUnits n d := by
  have hne : n / d ≠ 0 := by
    have := Nat.two_pow_pos k
    omega
  have hk : k ≤ (n / d).log2 := (Nat.le_log2 hne).2 h
  have hstep : 2 ^ ((n / d).log2 - 52) ∣ 2 ^ (n / d).log2 := Nat.pow_dvd_pow 2 (Nat.sub_le _ _)
  obtain ⟨q, hq⟩ := hstep
  have hfloor : q ≤ n / (d * 2 ^ ((n / d).log2 - 52)) := by
    rw [← Nat.div_div_eq_div_mul, Nat.le_div_iff_mul_le (Nat.two_pow_pos _), Nat.mul_comm, ← hq]
    exact Nat.log2_self_le hne
  calc 2 ^ k ≤ 2 ^ (n / d).log2 := Nat.pow_le_pow_right (by decide) hk
    _ = q * 2 ^ ((n / d).log2 - 52) := by rw [Nat.mul_comm, ← hq]
    _ ≤ roundHalfEven n (d * 2 ^ ((n / d).log2 - 52)) * 2 ^ ((n / d).log2 - 52) :=
      Nat.mul_le_mul_right _ (Nat.le_trans hfloor (le_roundHalfEven _ _))

theorem roundUnits_mono {a b : Nat} (d : Nat) (h : a ≤ b) : roundUnits a d ≤ roundUnits b d := by
  have hquotient : a / d ≤ b / d := Nat.div_le_div_right h
  rcases Nat.eq_zero_or_pos (a / d) with hzero | hpos
  · -- a quotient below one is rounded in steps of one unit, and so is anything below `2^53`
    have hstep : roundUnits a d = roundHalfEven a d := by simp [roundUnits, hzero]
    rcases Nat.eq_zero_or_pos ((b / d).log2 - 52) with hb | hb
    · have hstep' : roundUnits b d = roundHalfEven b d := by simp [roundUnits, hb]
      rw [hstep, hstep']
      exact roundHalfEven_mono d h
    · have hne : b / d ≠ 0 := by
        intro hz
        simp [hz] at hb
      have hone := two_pow_le_roundUnits (n := b) (d := d) (Nat.log2_self_le hne)
      have hle := roundHalfEven_le_succ a d
      have hpow := Nat.one_le_two_pow (n := (b / d).log2)
      omega
  · have hlog : (a / d).log2 ≤ (b / d).log2 :=
      (Nat.le_log2 (by omega)).2 (Nat.le_trans (Nat.log2_self_le (by omega)) hquotient)
    rcases Nat.lt_or_eq_of_le hlog with hlt | heq
    · calc roundUnits a d ≤ 2 ^ ((a / d).log2 + 1) := roundUnits_le_two_pow Nat.lt_log2_self
        _ ≤ 2 ^ (b / d).log2 := Nat.pow_le_pow_right (by decide) hlt
        _ ≤ roundUnits b d := two_pow_le_roundUnits (Nat.log2_self_le (by omega))
    · unfold roundUnits
      rw [heq]
      exact Nat.mul_le_mul_right _ (roundHalfEven_mono _ h)

/-! ### How far rounding leads -/

/-- Rounding leads at most half a step away, and a step is at most one part in `2^52`. -/
theorem exists_step {n d : Nat} (h : 2 ^ 52 ≤ n / d) :
    ∃ step, step * 2 ^ 52 ≤ n ∧ 2 * (roundUnits n d * d) ≤ 2 * n + step ∧
      2 * n ≤ 2 * (roundUnits n d * d) + step := by
  have hd : 0 < d := by
    rcases Nat.eq_zero_or_pos d with rfl | hpos
    · simp at h
    · exact hpos
  have hshift := two_pow_shift_le (n / d) h
  have hspos : 0 < 2 ^ ((n / d).log2 - 52) := Nat.two_pow_pos _
  have heq : roundUnits n d * d =
      roundHalfEven n (d * 2 ^ ((n / d).log2 - 52)) * (d * 2 ^ ((n / d).log2 - 52)) := by
    show roundHalfEven n (d * 2 ^ ((n / d).log2 - 52)) * 2 ^ ((n / d).log2 - 52) * d = _
    ring
  generalize 2 ^ ((n / d).log2 - 52) = s at hshift hspos heq
  refine ⟨d * s, ?_, ?_⟩
  · calc d * s * 2 ^ 52 = d * (s * 2 ^ 52) := Nat.mul_assoc _ _ _
      _ ≤ d * (n / d) := Nat.mul_le_mul_left d hshift
      _ ≤ n := Nat.mul_div_le n d
  · rw [heq]
    exact roundHalfEven_spec n (d * s) (Nat.mul_pos hd hspos)

theorem roundUnits_mul_le {n d : Nat} (h : 2 ^ 52 ≤ n / d) :
    roundUnits n d * d * 2 ^ 52 ≤ n * (2 ^ 52 + 1) := by
  obtain ⟨step, hstep, hhigh, -⟩ := exists_step h
  calc roundUnits n d * d * 2 ^ 52 ≤ (n + step) * 2 ^ 52 := Nat.mul_le_mul_right _ (by omega)
    _ = n * 2 ^ 52 + step * 2 ^ 52 := Nat.add_mul _ _ _
    _ ≤ n * 2 ^ 52 + n := Nat.add_le_add_left hstep _
    _ = n * (2 ^ 52 + 1) := (Nat.mul_succ _ _).symm

theorem le_roundUnits_mul {n d : Nat} (h : 2 ^ 52 ≤ n / d) :
    n * (2 ^ 52 - 1) ≤ roundUnits n d * d * 2 ^ 52 := by
  obtain ⟨step, hstep, -, hlow⟩ := exists_step h
  calc n * (2 ^ 52 - 1) = n * 2 ^ 52 - n := Nat.mul_sub_one _ _
    _ ≤ n * 2 ^ 52 - step * 2 ^ 52 := Nat.sub_le_sub_left hstep _
    _ = (n - step) * 2 ^ 52 := (Nat.sub_mul _ _ _).symm
    _ ≤ roundUnits n d * d * 2 ^ 52 := Nat.mul_le_mul_right _ (by omega)

/-! ### Bounds that are doubles -/

theorem roundHalfEven_mul_mul (a b : Nat) {c : Nat} (hc : 0 < c) :
    roundHalfEven (a * c) (b * c) = roundHalfEven a b := by
  have hlt : 2 * (a % b * c) < b * c ↔ 2 * (a % b) < b := by
    rw [← Nat.mul_assoc]
    exact Nat.mul_lt_mul_right hc
  have heq : 2 * (a % b * c) = b * c ↔ 2 * (a % b) = b := by
    rw [← Nat.mul_assoc]
    exact Nat.mul_left_inj hc.ne'
  unfold roundHalfEven
  rw [Nat.mul_div_mul_right a b hc, Nat.mul_mod_mul_right]
  simp only [hlt, heq]

theorem roundUnits_mul_mul (n d : Nat) {c : Nat} (hc : 0 < c) :
    roundUnits (n * c) (d * c) = roundUnits n d := by
  unfold roundUnits
  rw [Nat.mul_div_mul_right n d hc]
  dsimp only
  rw [Nat.mul_right_comm, roundHalfEven_mul_mul _ _ hc]

/-- A double is its own rounding, over whatever denominator it is written. -/
theorem roundUnits_mul_self {u d : Nat} (hu : Representable u) (hd : 0 < d) :
    roundUnits (u * d) d = u := by
  have hone := roundUnits_mul_mul u 1 hd
  rwa [Nat.one_mul, roundUnits_of_representable hu] at hone

section

variable {n d u : Nat} (hu : Representable u)
include hu

/-- What rounds to no more than a double rounds to a finite one. -/
theorem representable_of_roundUnits_le (h : roundUnits n d ≤ u) : Representable (roundUnits n d) := by
  refine ⟨Nat.lt_of_le_of_lt h hu.1, ?_⟩
  obtain ⟨m, hm, heq⟩ := exists_roundUnits_eq n d
  rw [heq]
  exact mul_two_pow_mod m _ hm

variable (hd : 0 < d)
include hd

theorem roundUnits_le (h : n ≤ u * d) : roundUnits n d ≤ u :=
  Nat.le_trans (roundUnits_mono d h) (Nat.le_of_eq (roundUnits_mul_self hu hd))

theorem le_roundUnits (h : u * d ≤ n) : u ≤ roundUnits n d :=
  Nat.le_trans (Nat.le_of_eq (roundUnits_mul_self hu hd).symm) (roundUnits_mono d h)

theorem representable_roundUnits_of_le (h : n ≤ u * d) : Representable (roundUnits n d) :=
  representable_of_roundUnits_le hu (roundUnits_le hu hd h)

end

/-- The count of units below a double is one of a double. -/
theorem Binary64.representable_belowUnits {u : Nat} (hu : Representable u) :
    Representable (belowUnits u) := by
  have hle : belowUnits u ≤ u := Nat.le_trans (Nat.div_mul_le_self _ _) (Nat.sub_le _ _)
  exact ⟨Nat.lt_of_le_of_lt hle hu.1,
    mul_two_pow_mod _ _ (Nat.le_of_lt (div_two_pow_log2_lt (u - 1)))⟩

end QuerySwarm
