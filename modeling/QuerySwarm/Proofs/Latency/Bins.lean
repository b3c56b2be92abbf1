import Mathlib.Algebra.GroupWithZero.Nat
import QuerySwarm.Latency.Histogram

/-!
# Bins and their order

A bin is known by its first value: every value in it has the same bits open (`binWidth_binStart`), so
that it leads to the same bin again (`binStart_binStart`, `binEnd_binStart`). Bins follow each other
as their values do (`binStart_mono`, `binEnd_mono`), and both ends of a bin are within a thousandth of
any value in it (`le_binStart_add`, `binEnd_le`).
-/

namespace QuerySwarm

namespace Latency

variable {v w : Nat}

/-! ### The bin of the first value -/

theorem two_pow_log2_le_binStart (h : v ≠ 0) : 2 ^ v.log2 ≤ binStart v := by
  rcases Nat.lt_or_ge v 2048 with hsmall | hlarge
  · rw [binStart_of_lt hsmall]
    exact Nat.log2_self_le h
  · have hlog : 11 ≤ v.log2 := (Nat.le_log2 h).2 hlarge
    have hpow : 2 ^ 10 * binWidth v = 2 ^ v.log2 := by
      show 2 ^ 10 * 2 ^ (v.log2 - 10) = 2 ^ v.log2
      rw [← Nat.pow_add]
      congr 1
      omega
    -- the bits above the open ones are at least the leading bit
    have hquotient : 2 ^ 10 ≤ v / binWidth v := by
      rw [Nat.le_div_iff_mul_le (binWidth_pos v), hpow]
      exact Nat.log2_self_le h
    calc 2 ^ v.log2 = 2 ^ 10 * binWidth v := hpow.symm
      _ ≤ v / binWidth v * binWidth v := Nat.mul_le_mul_right _ hquotient

theorem log2_binStart (v : Nat) : (binStart v).log2 = v.log2 := by
  rcases Nat.eq_zero_or_pos v with rfl | hpos
  · rfl
  · have hv : v ≠ 0 := by omega
    have hlow := two_pow_log2_le_binStart hv
    have hne : binStart v ≠ 0 := by
      have := Nat.two_pow_pos v.log2
      omega
    apply Nat.le_antisymm
    · have hlt : binStart v < 2 ^ (v.log2 + 1) :=
        Nat.lt_of_le_of_lt (binStart_le v) Nat.lt_log2_self
      exact Nat.le_of_lt_succ ((Nat.log2_lt hne).2 hlt)
    · exact (Nat.le_log2 hne).2 hlow

@[simp] theorem binWidth_binStart (v : Nat) : binWidth (binStart v) = binWidth v := by
  simp [binWidth, openBits, log2_binStart]

@[simp] theorem binStart_binStart (v : Nat) : binStart (binStart v) = binStart v := by
  show binStart v / binWidth (binStart v) * binWidth (binStart v) = binStart v
  rw [binWidth_binStart]
  show v / binWidth v * binWidth v / binWidth v * binWidth v = binStart v
  rw [Nat.mul_div_cancel _ (binWidth_pos v)]
  rfl

@[simp] theorem binEnd_binStart (v : Nat) : binEnd (binStart v) = binEnd v := by
  simp [binEnd]

/-! ### The order of bins -/

/-- The first value after a bin is not beyond the next power of two. -/
theorem binStart_add_binWidth_le (v : Nat) : binStart v + binWidth v ≤ 2 ^ (v.log2 + 1) := by
  have hdvd : binWidth v ∣ 2 ^ (v.log2 + 1) := by
    apply Nat.pow_dvd_pow
    show v.log2 - 10 ≤ v.log2 + 1
    omega
  obtain ⟨q, hq⟩ := hdvd
  have hlt : binStart v < 2 ^ (v.log2 + 1) := Nat.lt_of_le_of_lt (binStart_le v) Nat.lt_log2_self
  have hquotient : v / binWidth v < q := by
    have hlt' : v / binWidth v * binWidth v < q * binWidth v := by
      rw [Nat.mul_comm q, ← hq]
      exact hlt
    exact Nat.lt_of_mul_lt_mul_right hlt'
  calc binStart v + binWidth v = (v / binWidth v + 1) * binWidth v := by
        rw [Nat.add_one_mul]
        rfl
    _ ≤ q * binWidth v := Nat.mul_le_mul_right _ hquotient
    _ = 2 ^ (v.log2 + 1) := by rw [hq, Nat.mul_comm]

/-- Of two values in order, both are in one bin, or the bin of the first ends before the other. -/
theorem binStart_eq_or_add_le (h : v ≤ w) :
    (binStart v = binStart w ∧ binWidth v = binWidth w) ∨
      binStart v + binWidth v ≤ binStart w := by
  rcases Nat.eq_zero_or_pos v with rfl | hpos
  · rcases Nat.eq_zero_or_pos w with rfl | hw
    · exact .inl ⟨rfl, rfl⟩
    · right
      have hle := two_pow_log2_le_binStart (v := w) (by omega)
      have hone := Nat.one_le_two_pow (n := w.log2)
      show 0 / 1 * 1 + 1 ≤ binStart w
      omega
  have hlog : v.log2 ≤ w.log2 :=
    (Nat.le_log2 (by omega)).2 (Nat.le_trans (Nat.log2_self_le (by omega)) h)
  rcases Nat.lt_or_eq_of_le hlog with hlt | heq
  · right
    calc binStart v + binWidth v ≤ 2 ^ (v.log2 + 1) := binStart_add_binWidth_le v
      _ ≤ 2 ^ w.log2 := Nat.pow_le_pow_right (by decide) hlt
      _ ≤ binStart w := two_pow_log2_le_binStart (by omega)
  · have hwidth : binWidth v = binWidth w := by simp [binWidth, openBits, heq]
    have hquotient : v / binWidth v ≤ w / binWidth v := Nat.div_le_div_right h
    rcases Nat.lt_or_eq_of_le hquotient with hless | hsame
    · right
      calc binStart v + binWidth v = (v / binWidth v + 1) * binWidth v := by
            rw [Nat.add_one_mul]
            rfl
        _ ≤ w / binWidth v * binWidth v := Nat.mul_le_mul_right _ hless
        _ = binStart w := by rw [hwidth]; rfl
    · left
      refine ⟨?_, hwidth⟩
      show v / binWidth v * binWidth v = w / binWidth w * binWidth w
      rw [hsame, hwidth]

theorem binStart_mono (h : v ≤ w) : binStart v ≤ binStart w := by
  rcases binStart_eq_or_add_le h with ⟨heq, -⟩ | hle
  · exact Nat.le_of_eq heq
  · omega

theorem binEnd_mono (h : v ≤ w) : binEnd v ≤ binEnd w := by
  have htop : binStart v + binWidth v ≤ binStart w + binWidth w := by
    rcases binStart_eq_or_add_le h with ⟨hstart, hwidth⟩ | hle
    · omega
    · omega
  unfold binEnd
  omega

/-! ### How far the ends of a bin are -/

/-- The values of a bin differ by less than a thousandth of any of them. -/
theorem binWidth_le (v : Nat) : binWidth v ≤ v / 1024 + 1 := by
  rcases Nat.lt_or_ge v 2048 with hsmall | hlarge
  · rw [binWidth_of_lt hsmall]
    omega
  · have := binWidth_mul_le hlarge
    omega

theorem le_binStart_add (v : Nat) : v ≤ binStart v + v / 1024 := by
  have hlt := lt_binStart_add_binWidth v
  have hwidth := binWidth_le v
  omega

theorem le_binEnd (h : v < greatest) : v ≤ binEnd v := by
  have hlt := lt_binStart_add_binWidth v
  unfold binEnd
  omega

theorem binEnd_le (v : Nat) : binEnd v ≤ v + v / 1024 := by
  have hle := binStart_le v
  have hwidth := binWidth_le v
  unfold binEnd
  omega

theorem binEnd_of_lt (h : v < 2048) : binEnd v = v := by
  have hgreatest : 2048 < greatest := by decide
  unfold binEnd
  rw [binStart_of_lt h, binWidth_of_lt h]
  omega

end Latency

end QuerySwarm
