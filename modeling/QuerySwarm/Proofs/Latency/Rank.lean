import QuerySwarm.Latency.Statistics
import QuerySwarm.Proofs.Binary64.Order

/-!
# Ranks

The rank of a percentile among `n` latencies is a product of doubles, rounded twice and then rounded
up. It is a rank whatever `n` is: at least one and at most `n` (`Histogram.one_le_rank`,
`Histogram.rank_le`), and a greater part has a greater rank (`Histogram.rank_mono`). As long as `n` is
below `2^44` the rounding does not show, and the rank is the exact one (`Histogram.rank_percent`).
-/

namespace QuerySwarm

namespace Binary64

/-- So many hundredths. -/
def percent (a : Nat) : Binary64 := .ofRatio false a 100

/-- The units of so many hundredths. -/
def percentUnits (a : Nat) : Nat := roundUnits (a * unitsPerOne) 100

/-- The units of a natural number. -/
def natUnits (n : Nat) : Nat := roundUnits (n * unitsPerOne) 1

/-! ### Rounding up -/

theorem ceil_round (a d : Nat) (h : Representable (roundUnits a d)) :
    (round false a d).ceil = (roundUnits a d + (unitsPerOne - 1)) / unitsPerOne := by
  simp [round, ofUnits, h, ceil]

/-- Rounding up stays below a whole number that bounds the units. -/
theorem ceil_le_of_units_le {u m : Nat} (h : u ≤ m * unitsPerOne) :
    (u + (unitsPerOne - 1)) / unitsPerOne ≤ m := by
  have hone := unitsPerOne_pos
  rw [← Nat.lt_succ_iff, Nat.div_lt_iff_lt_mul hone, Nat.succ_mul]
  omega

theorem lt_ceil_of_lt_units {u m : Nat} (h : m * unitsPerOne < u) :
    m < (u + (unitsPerOne - 1)) / unitsPerOne := by
  have hone := unitsPerOne_pos
  show m + 1 ≤ _
  rw [Nat.le_div_iff_mul_le hone, Nat.succ_mul]
  omega

/-! ### A part of a natural number -/

theorem ofNat_eq (n : Nat) : ofNat n = ofUnits false (natUnits n) := rfl

theorem part_mul_ofNat {p n : Nat} (hp : Representable p) (hn : Representable (natUnits n)) :
    .finite false p hp * ofNat n = round false (p * natUnits n) unitsPerOne := by
  simp only [ofNat_eq, ofUnits, hn, dite_true]
  change mul (.finite false p hp) (.finite false (natUnits n) hn) = _
  simp only [mul, bne_self_eq_false]

/-- Where a natural number is out of range, so is any part of it, and nothing can be rounded up. -/
theorem ceil_part_mul_ofNat_of_not_representable {p n : Nat} (hp : Representable p)
    (hn : ¬ Representable (natUnits n)) : (.finite false p hp * ofNat n : Binary64).ceil = 0 := by
  simp only [ofNat_eq, ofUnits, hn, dite_false]
  change (mul (.finite false p hp) (.infinity false)).ceil = 0
  simp only [mul]
  split <;> rfl

theorem roundUnits_mul_left {x d : Nat} (hd : 0 < d) : roundUnits (d * x) d = roundUnits x 1 := by
  have hround : ∀ s, roundHalfEven (d * x) (d * s) = roundHalfEven x s := by
    intro s
    have hiff : ∀ a b, d * a < d * b ↔ a < b := fun a b => Nat.mul_lt_mul_left hd
    simp only [roundHalfEven, Nat.mul_div_mul_left _ _ hd, Nat.mul_mod_mul_left,
      Nat.mul_left_comm 2 d, hiff, Nat.mul_right_inj hd.ne']
  unfold roundUnits
  simp only [Nat.mul_div_cancel_left _ hd, Nat.div_one, hround, Nat.one_mul]

/-- A part of a double that is not more than the whole is in range. -/
theorem representable_part {p x : Nat} (hp : p ≤ unitsPerOne) (hx : Representable x) :
    Representable (roundUnits (p * x) unitsPerOne) := by
  constructor
  · have hmono := roundUnits_mono unitsPerOne (Nat.mul_le_mul_right x hp)
    rw [roundUnits_mul_left unitsPerOne_pos, roundUnits_of_representable hx] at hmono
    exact Nat.lt_of_le_of_lt hmono hx.1
  · obtain ⟨m, hm, heq⟩ := exists_roundUnits_eq (p * x) unitsPerOne
    rw [heq]
    exact mul_two_pow_mod m _ hm

end Binary64

namespace Histogram

open Binary64

variable {p q n : Nat} {hp : Representable p} {hq : Representable q}

theorem one_le_rank (part : Binary64) (n : Nat) : 1 ≤ rank part n := Nat.le_max_left _ _

/-- The units of the product that a rank is rounded up from. -/
def shareUnits (p n : Nat) : Nat := roundUnits (p * natUnits n) unitsPerOne

theorem rank_eq (hle : p ≤ unitsPerOne) (hn : Representable (natUnits n)) :
    rank (.finite false p hp) n = max 1 ((shareUnits p n + (unitsPerOne - 1)) / unitsPerOne) := by
  unfold rank
  rw [part_mul_ofNat hp hn, ceil_round _ _ (representable_part hle hn)]
  rfl

theorem rank_of_not_representable (hn : ¬ Representable (natUnits n)) :
    rank (.finite false p hp) n = 1 := by
  unfold rank
  rw [ceil_part_mul_ofNat_of_not_representable hp hn]
  rfl

/-- A greater part has a greater rank. -/
theorem rank_mono (hpq : p ≤ q) (hle : q ≤ unitsPerOne) :
    rank (.finite false p hp) n ≤ rank (.finite false q hq) n := by
  by_cases hn : Representable (natUnits n)
  · rw [rank_eq (Nat.le_trans hpq hle) hn, rank_eq hle hn]
    have hshare : shareUnits p n ≤ shareUnits q n :=
      roundUnits_mono _ (Nat.mul_le_mul_right _ hpq)
    have hceil := Nat.div_le_div_right (c := unitsPerOne)
      (Nat.add_le_add_right hshare (unitsPerOne - 1))
    omega
  · rw [rank_of_not_representable hn, rank_of_not_representable hn]

/-! ### A rank is not beyond the last -/

/-- Rounding a natural number to a double leads neither far up nor far down. -/
theorem natUnits_bounds (hn : 0 < n) : n * unitsPerOne * (2 ^ 52 - 1) ≤ natUnits n * 2 ^ 52 ∧
    natUnits n * 2 ^ 52 ≤ n * unitsPerOne * (2 ^ 52 + 1) := by
  have hlarge : 2 ^ 52 ≤ n * unitsPerOne / 1 := by
    rw [Nat.div_one]
    calc 2 ^ 52 ≤ 1 * unitsPerOne := by decide +kernel
      _ ≤ n * unitsPerOne := Nat.mul_le_mul_right _ hn
  have hlow := le_roundUnits_mul hlarge
  have hhigh := roundUnits_mul_le hlarge
  rw [Nat.mul_one] at hlow hhigh
  exact ⟨hlow, hhigh⟩

theorem unitsPerOne_le_two_mul_natUnits (hn : 0 < n) : unitsPerOne ≤ 2 * natUnits n := by
  have hlow := (natUnits_bounds hn).1
  have hhalf : unitsPerOne * 2 ^ 52 ≤ 2 * natUnits n * 2 ^ 52 := by
    calc unitsPerOne * 2 ^ 52 ≤ unitsPerOne * (2 * (2 ^ 52 - 1)) :=
          Nat.mul_le_mul_left _ (by decide)
      _ = 2 * (1 * unitsPerOne * (2 ^ 52 - 1)) := by ring
      _ ≤ 2 * (n * unitsPerOne * (2 ^ 52 - 1)) :=
        Nat.mul_le_mul_left 2 (Nat.mul_le_mul_right _ (Nat.mul_le_mul_right _ hn))
      _ ≤ 2 * (natUnits n * 2 ^ 52) := Nat.mul_le_mul_left 2 hlow
      _ = 2 * natUnits n * 2 ^ 52 := (Nat.mul_assoc _ _ _).symm
  exact Nat.le_of_mul_le_mul_right hhalf (by decide)

/-- A part that is less than the whole by more than two roundings can add takes less than the
whole. -/
theorem shareUnits_le (hhalf : unitsPerOne ≤ 2 * p)
    (hwhole : p * (2 ^ 52 + 1) ^ 2 ≤ unitsPerOne * 2 ^ 104) (hn : 0 < n) :
    shareUnits p n ≤ n * unitsPerOne := by
  have hone := unitsPerOne_pos
  have hlarge : 2 ^ 52 ≤ p * natUnits n / unitsPerOne := by
    rw [Nat.le_div_iff_mul_le hone]
    have hproduct := Nat.mul_le_mul hhalf (unitsPerOne_le_two_mul_natUnits hn)
    have hsquare : 2 ^ 52 * 4 * unitsPerOne ≤ unitsPerOne * unitsPerOne :=
      Nat.mul_le_mul_right _ (by decide +kernel)
    have hfour : 4 * (2 ^ 52 * unitsPerOne) ≤ 4 * (p * natUnits n) := by
      calc 4 * (2 ^ 52 * unitsPerOne) = 2 ^ 52 * 4 * unitsPerOne := by ring
        _ ≤ unitsPerOne * unitsPerOne := hsquare
        _ ≤ 2 * p * (2 * natUnits n) := hproduct
        _ = 4 * (p * natUnits n) := by ring
    exact Nat.le_of_mul_le_mul_left hfour (by decide)
  have hround := roundUnits_mul_le hlarge
  have hbound : shareUnits p n * (unitsPerOne * 2 ^ 104) ≤
      n * unitsPerOne * (unitsPerOne * 2 ^ 104) := by
    calc shareUnits p n * (unitsPerOne * 2 ^ 104)
        = shareUnits p n * unitsPerOne * 2 ^ 52 * 2 ^ 52 := by ring
      _ ≤ p * natUnits n * (2 ^ 52 + 1) * 2 ^ 52 := Nat.mul_le_mul_right _ hround
      _ = p * (2 ^ 52 + 1) * (natUnits n * 2 ^ 52) := by ring
      _ ≤ p * (2 ^ 52 + 1) * (n * unitsPerOne * (2 ^ 52 + 1)) :=
        Nat.mul_le_mul_left _ (natUnits_bounds hn).2
      _ = n * unitsPerOne * (p * (2 ^ 52 + 1) ^ 2) := by ring
      _ ≤ n * unitsPerOne * (unitsPerOne * 2 ^ 104) := Nat.mul_le_mul_left _ hwhole
  exact Nat.le_of_mul_le_mul_right hbound (Nat.mul_pos hone (by decide))

theorem rank_le (hhalf : unitsPerOne ≤ 2 * p)
    (hwhole : p * (2 ^ 52 + 1) ^ 2 ≤ unitsPerOne * 2 ^ 104) (hn : 0 < n) :
    rank (.finite false p hp) n ≤ n := by
  have hle : p ≤ unitsPerOne := by
    have hgrow : p * 2 ^ 104 ≤ unitsPerOne * 2 ^ 104 :=
      Nat.le_trans (Nat.mul_le_mul_left p (by decide)) hwhole
    exact Nat.le_of_mul_le_mul_right hgrow (by decide)
  by_cases hrange : Representable (natUnits n)
  · rw [rank_eq hle hrange]
    exact Nat.max_le.2 ⟨hn, ceil_le_of_units_le (shareUnits_le hhalf hwhole hn)⟩
  · rw [rank_of_not_representable hrange]
    exact hn

/-! ### The exact rank -/

/-- Natural numbers up to `2^53` are doubles. -/
theorem representable_mul_unitsPerOne (h : n ≤ 2 ^ 53) : Representable (n * unitsPerOne) := by
  have hshape : ∀ s x, x = n * 2 ^ s → x % Nat.pow 2 (x.log2 - 52) = 0 := by
    rintro s x rfl
    exact mul_two_pow_mod n s h
  refine ⟨?_, hshape 1074 _ (by rw [unitsPerOne_eq])⟩
  calc n * unitsPerOne ≤ 2 ^ 53 * unitsPerOne := Nat.mul_le_mul_right _ h
    _ < Nat.pow 2 2098 := by decide +kernel

theorem natUnits_of_le (h : n ≤ 2 ^ 53) : natUnits n = n * unitsPerOne :=
  roundUnits_of_representable (representable_mul_unitsPerOne h)

/-- The rank of so many hundredths, rounded once. -/
def exactRank (a n : Nat) : Nat := max 1 ((a * n + 99) / 100)

theorem shareUnits_eq (h : n ≤ 2 ^ 53) : shareUnits p n = roundUnits (p * n) 1 := by
  have hproduct : p * (n * unitsPerOne) = unitsPerOne * (p * n) := by ring
  rw [shareUnits, natUnits_of_le h, hproduct, roundUnits_mul_left unitsPerOne_pos]

/-- Hundredths that were rounded down do not take more than they should. -/
theorem roundUnits_mul_le_of_down {a m : Nat} (hdown : p * 100 ≤ a * unitsPerOne)
    (hm : a * n ≤ 100 * m) (hsmall : m ≤ 2 ^ 53) : roundUnits (p * n) 1 ≤ m * unitsPerOne := by
  have hhundred : 100 * (p * n) ≤ 100 * (m * unitsPerOne) := by
    calc 100 * (p * n) = p * 100 * n := by ring
      _ ≤ a * unitsPerOne * n := Nat.mul_le_mul_right n hdown
      _ = a * n * unitsPerOne := by ring
      _ ≤ 100 * m * unitsPerOne := Nat.mul_le_mul_right _ hm
      _ = 100 * (m * unitsPerOne) := by ring
  have hunits : p * n ≤ m * unitsPerOne := Nat.le_of_mul_le_mul_left hhundred (by decide)
  calc roundUnits (p * n) 1 ≤ roundUnits (m * unitsPerOne) 1 := roundUnits_mono 1 hunits
    _ = m * unitsPerOne := natUnits_of_le hsmall

/-- Two roundings take away less than a hundredth. -/
theorem lt_roundUnits_mul_of_near {a m : Nat}
    (hnear : a * unitsPerOne * (2 ^ 52 - 1) ≤ p * 100 * 2 ^ 52) (hlarge : 2 ^ 52 ≤ p) (hn : 0 < n)
    (hfew : a * n ≤ 100 * 2 ^ 44) (hm : 100 * m < a * n) :
    m * unitsPerOne < roundUnits (p * n) 1 := by
  have hround := le_roundUnits_mul (n := p * n) (d := 1) (by
    rw [Nat.div_one]
    exact Nat.le_trans hlarge (Nat.le_mul_of_pos_right p hn))
  rw [Nat.mul_one] at hround
  refine Nat.lt_of_not_le fun hsmall => ?_
  have htotal : a * n * (2 ^ 52 - 1) ^ 2 * unitsPerOne ≤ 100 * m * 2 ^ 104 * unitsPerOne := by
    calc a * n * (2 ^ 52 - 1) ^ 2 * unitsPerOne
        = a * unitsPerOne * (2 ^ 52 - 1) * (n * (2 ^ 52 - 1)) := by ring
      _ ≤ p * 100 * 2 ^ 52 * (n * (2 ^ 52 - 1)) := Nat.mul_le_mul_right _ hnear
      _ = 100 * 2 ^ 52 * (p * n * (2 ^ 52 - 1)) := by ring
      _ ≤ 100 * 2 ^ 52 * (roundUnits (p * n) 1 * 2 ^ 52) := Nat.mul_le_mul_left _ hround
      _ ≤ 100 * 2 ^ 52 * (m * unitsPerOne * 2 ^ 52) :=
        Nat.mul_le_mul_left _ (Nat.mul_le_mul_right _ hsmall)
      _ = 100 * m * 2 ^ 104 * unitsPerOne := by ring
  have hcancel := Nat.le_of_mul_le_mul_right htotal unitsPerOne_pos
  generalize a * n = t at hcancel hm hfew
  norm_num at hcancel hfew
  omega

/-- Where hundredths are rounded down to a double, and not by much, and there are not too many
latencies, a rank is exact. -/
theorem rank_percent {a : Nat} (hdown : p * 100 ≤ a * unitsPerOne)
    (hnear : a * unitsPerOne * (2 ^ 52 - 1) ≤ p * 100 * 2 ^ 52) (hlarge : 2 ^ 52 ≤ p)
    (hpos : 0 < a) (hpart : a ≤ 100) (hn : 0 < n) (hfew : n < 2 ^ 44) :
    rank (.finite false p hp) n = exactRank a n := by
  have hle : p ≤ unitsPerOne := by
    have := Nat.mul_le_mul_right unitsPerOne hpart
    omega
  have hrange : Representable (natUnits n) := by
    rw [natUnits_of_le (by omega)]
    exact representable_mul_unitsPerOne (by omega)
  rw [rank_eq hle hrange, exactRank, shareUnits_eq (by omega)]
  refine congrArg (max 1) ?_
  have hproduct : a * n ≤ 100 * 2 ^ 44 := Nat.mul_le_mul hpart (Nat.le_of_lt hfew)
  have hsome : 0 < a * n := Nat.mul_pos hpos hn
  apply Nat.le_antisymm
  · exact ceil_le_of_units_le (roundUnits_mul_le_of_down hdown (by omega) (by omega))
  · have hlast := lt_ceil_of_lt_units
      (lt_roundUnits_mul_of_near (m := (a * n + 99) / 100 - 1) hnear hlarge hn hproduct (by omega))
    omega

end Histogram

end QuerySwarm
