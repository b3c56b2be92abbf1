import QuerySwarm.Proofs.Binary64.Order
import QuerySwarm.Proofs.Binary64.Shortest
import Mathlib.Data.List.TakeWhile

/-!
# Reading the text of a double back

The decimal that is written for a double is one of the reals that round to it: half a step away
from it at most, or a quarter below a power of two, where the steps get narrower. Reading rounds
once. So it leads back to the double, however the decimal is spelled, and the whole question is
where the search for the decimal ends (`shortest_covers`).

* `roundUnits_of_contains`: what is in the interval of a double is rounded to it.
* `exists_readUnsigned?_positive`: reading positional text keeps the value.
* `read?_text`: the text of a double that is a number is read as the double.
-/

namespace QuerySwarm

/-! ### Rounding to a given number -/

/-- A quotient at most half from a whole number is rounded to it, unless it is a tie and the number
is odd. -/
theorem roundHalfEven_eq {a b k : Nat} (hb : 0 < b) (low : 2 * (k * b) ≤ 2 * a + b)
    (high : 2 * a ≤ 2 * (k * b) + b)
    (tie : k % 2 = 0 ∨ 2 * (k * b) < 2 * a + b ∧ 2 * a < 2 * (k * b) + b) :
    roundHalfEven a b = k := by
  have hdiv : a / b * b + a % b = a := Nat.div_add_mod' a b
  have hmod : a % b < b := Nat.mod_lt a hb
  have hle : a / b ≤ k := by
    by_contra hlt
    have hnext : (k + 1) * b ≤ a / b * b := Nat.mul_le_mul_right b (by omega)
    rw [Nat.add_mul] at hnext
    omega
  have hge : k ≤ a / b + 1 := by
    by_contra hlt
    have hnext : (a / b + 2) * b ≤ k * b := Nat.mul_le_mul_right b (by omega)
    rw [Nat.add_mul] at hnext
    omega
  unfold roundHalfEven
  rcases Nat.lt_or_eq_of_le hle with hlt | heq
  · -- the whole number is above the quotient
    have hk : k = a / b + 1 := by omega
    rw [hk, Nat.add_mul] at low high tie
    rw [if_neg (by omega), hk]
  · rw [heq] at hdiv ⊢
    rw [if_pos (by omega)]

theorem log2_sub_eq {q k : Nat} (high : q < 2 ^ (k + 1)) (low : 52 < k → 2 ^ k ≤ q) :
    q.log2 - 52 = k - 52 := by
  rcases Nat.eq_zero_or_pos q with rfl | hpos
  · rcases Nat.lt_or_ge 52 k with hk | hk
    · exact absurd (low hk) (Nat.not_le_of_lt (Nat.two_pow_pos k))
    · rw [Nat.log2_zero]
      omega
  · have hlt : q.log2 < k + 1 := (Nat.log2_lt hpos.ne').2 high
    rcases Nat.lt_or_ge 52 k with hk | hk
    · have hle : k ≤ q.log2 := (Nat.le_log2 hpos.ne').2 (low hk)
      omega
    · omega

/-- Rounding to a number of steps, where it is known how many bits are dropped. -/
theorem roundUnits_eq {n d k l ulp : Nat} (hulp : 2 ^ (l - 52) = ulp) (hd : 0 < d)
    (small : n < 2 ^ (l + 1) * d) (large : 52 < l → 2 ^ l * d ≤ n)
    (low : 2 * (k * ulp * d) ≤ 2 * n + ulp * d) (high : 2 * n ≤ 2 * (k * ulp * d) + ulp * d)
    (tie : k % 2 = 0 ∨ 2 * (k * ulp * d) < 2 * n + ulp * d ∧ 2 * n < 2 * (k * ulp * d) + ulp * d) :
    roundUnits n d = k * ulp := by
  have hshift : (n / d).log2 - 52 = l - 52 :=
    log2_sub_eq ((Nat.div_lt_iff_lt_mul hd).2 small)
      fun hl => (Nat.le_div_iff_mul_le hd).2 (large hl)
  have hpos : 0 < ulp := hulp ▸ Nat.two_pow_pos _
  have hsteps : k * (d * ulp) = k * ulp * d := by ring
  show roundHalfEven n (d * 2 ^ ((n / d).log2 - 52)) * 2 ^ ((n / d).log2 - 52) = k * ulp
  rw [hshift, hulp]
  congr 1
  refine roundHalfEven_eq (Nat.mul_pos hd hpos) ?_ ?_ ?_ <;> rwa [hsteps, Nat.mul_comm d]

namespace Binary64

theorem Interval.closed_or_of_contains {i : Interval} {candidate step denominator : Nat}
    (h : i.contains candidate step denominator = true) :
    i.closed = true ∨
      i.low * denominator < candidate * step ∧ candidate * step < i.high * denominator := by
  unfold Interval.contains at h
  cases hclosed : i.closed with
  | true => exact .inl rfl
  | false =>
    simp only [hclosed, Bool.false_eq_true, if_false, Bool.and_eq_true, decide_eq_true_eq] at h
    exact .inr h

/-- The count of units that follows a double does not exceed the next power of two. -/
theorem mul_succ_le_two_pow {k l : Nat} (h : k * 2 ^ (l - 52) < 2 ^ (l + 1)) :
    (k + 1) * 2 ^ (l - 52) ≤ 2 ^ (l + 1) := by
  have hpow : 2 ^ (l + 1) = 2 ^ (l + 1 - (l - 52)) * 2 ^ (l - 52) := by
    rw [← Nat.pow_add, Nat.sub_add_cancel (by omega)]
  rw [hpow] at h ⊢
  exact Nat.mul_le_mul_right _ (Nat.lt_of_mul_lt_mul_right h)

/-- A double that is greater than a power of two is so by a step at least. -/
theorem two_pow_add_le {k l : Nat} (hl : 52 < l) (h : 2 ^ l < k * 2 ^ (l - 52)) :
    2 ^ l + 2 ^ (l - 52) ≤ k * 2 ^ (l - 52) := by
  have hpow : 2 ^ l = 2 ^ 52 * 2 ^ (l - 52) := by
    rw [← Nat.pow_add, Nat.add_sub_cancel' (by omega)]
  rw [hpow] at h ⊢
  rw [← Nat.succ_mul]
  exact Nat.mul_le_mul_right _ (Nat.lt_of_mul_lt_mul_right h)

/-- Just below a power of two the steps are half as wide, and an even number of them leads to it. -/
theorem roundUnits_below_two_pow {l den point : Nat} (hl : 52 < l) (hden : 0 < den)
    (low : 4 * (2 ^ l * den) ≤ point + 2 ^ (l - 52) * den) (high : point < 4 * (2 ^ l * den)) :
    roundUnits point (4 * den) = 2 ^ l := by
  obtain ⟨s, rfl⟩ : ∃ s, l = s + 53 := ⟨l - 53, by omega⟩
  have hone : 2 ^ (s + 53) = 2 ^ 53 * 2 ^ s := by rw [Nat.pow_add, Nat.mul_comm]
  have hhalf : 2 ^ (s + 52) = 2 ^ 52 * 2 ^ s := by rw [Nat.pow_add, Nat.mul_comm]
  have hulp : 2 ^ (s + 53 - 52) = 2 * 2 ^ s := by
    rw [show s + 53 - 52 = s + 1 by omega, Nat.pow_succ, Nat.mul_comm]
  have hstep : 0 < 2 ^ s * den := Nat.mul_pos (Nat.two_pow_pos s) hden
  rw [hone, hulp, Nat.mul_assoc, Nat.mul_assoc] at low
  rw [hone, Nat.mul_assoc] at high
  rw [hone]
  have hquarter : ∀ m : Nat, m * 2 ^ s * (4 * den) = 4 * (m * (2 ^ s * den)) := fun m => by ring
  have hulp' : 2 ^ s * (4 * den) = 4 * (2 ^ s * den) := by ring
  refine roundUnits_eq (l := s + 52) rfl (by omega) ?_ (fun _ => ?_) ?_ ?_ (.inl (by decide)) <;>
    simp only [hone, hhalf, hquarter, hulp'] <;> omega

/-- An interval reaches below a power of two only if it is that of the power. -/
theorem eq_two_pow_of_below {units k l den point : Nat} (hl : 52 < l)
    (hk : units = k * 2 ^ (l - 52)) (hleast : 2 ^ l ≤ units)
    (hlow : 4 * (units * den) - 2 * (2 ^ (l - 52) * den) ≤ point)
    (hpoint : point < 4 * (2 ^ l * den)) : units = 2 ^ l := by
  by_contra hne
  have hmore := two_pow_add_le hl (hk ▸ Nat.lt_of_le_of_ne hleast (Ne.symm hne))
  have hscaled := Nat.mul_le_mul_right den (hk ▸ hmore)
  rw [Nat.add_mul] at hscaled
  omega

/-- What is among the reals that round to a double is rounded to it. -/
theorem roundUnits_of_contains {units candidate step den : Nat} (hpos : 0 < units)
    (h : Representable units) (hden : 0 < den)
    (hcontains : (interval units).contains candidate step den = true) :
    roundUnits (candidate * step) (4 * den) = units := by
  obtain ⟨hlow, hhigh⟩ := Interval.bounds_of_contains hcontains
  have htie := Interval.closed_or_of_contains hcontains
  have hleast : 2 ^ units.log2 ≤ units := Nat.log2_self_le hpos.ne'
  have hmost : units < 2 ^ (units.log2 + 1) := Nat.lt_log2_self
  obtain ⟨k, hk⟩ : ∃ k, units = k * 2 ^ (units.log2 - 52) :=
    ⟨_, (Nat.div_mul_cancel (Nat.dvd_of_mod_eq_zero h.2)).symm⟩
  have hpow : ∀ n, Nat.pow 2 n = 2 ^ n := fun _ => rfl
  generalize candidate * step = point at hlow hhigh htie ⊢
  unfold interval at hlow hhigh htie
  simp only [hpow, decide_eq_true_eq, beq_iff_eq, Nat.sub_mul, Nat.add_mul, Nat.mul_assoc]
    at hlow hhigh htie
  generalize units.log2 = l at *
  have hnext := mul_succ_le_two_pow (hk ▸ hmost)
  by_cases hbelow : 52 < l ∧ point < 4 * (2 ^ l * den)
  · -- the double is a power of two, and the steps below it are half as wide
    obtain ⟨hl, hpoint⟩ := hbelow
    have hunits : units = 2 ^ l := by
      by_cases heq : units = 2 ^ l
      · exact heq
      · rw [if_neg fun hboth => heq hboth.2, Nat.mul_assoc] at hlow
        exact eq_two_pow_of_below hl hk hleast hlow hpoint
    rw [if_pos ⟨by omega, hunits⟩, hunits] at hlow
    rw [hunits]
    exact roundUnits_below_two_pow hl hden (by omega) hpoint
  · have hulp : 0 < 2 ^ (l - 52) := Nat.two_pow_pos _
    have hstep : 0 < 2 ^ (l - 52) * den := Nat.mul_pos hulp hden
    have hquotient : units / 2 ^ (l - 52) = k := by rw [hk, Nat.mul_div_cancel _ hulp]
    have hbound := Nat.mul_le_mul_right den hnext
    have hreach : (if 0 < l - 52 ∧ units = 2 ^ l then 2 ^ (l - 52) else 2 * 2 ^ (l - 52)) * den ≤
        2 * (2 ^ (l - 52) * den) := by
      split
      · omega
      · rw [Nat.mul_assoc]
    have hscaled : ∀ m : Nat, m * (4 * den) = 4 * (m * den) := fun m => by ring
    rw [Nat.add_mul, Nat.one_mul, ← hk, Nat.add_mul] at hbound
    rw [hquotient] at htie
    rw [hk]
    refine roundUnits_eq rfl (by omega) ?_ ?_ ?_ ?_ ?_ <;> simp only [← hk, hscaled] <;> omega

/-! ### The size of a decimal -/

namespace Decimal

variable {d : Decimal}

theorem rational_lt (d : Decimal) :
    d.rational < 10 ^ ((digitsOf d.coefficient).length + d.exponent) := by
  have hlt : d.coefficient < 10 ^ (digitsOf d.coefficient).length :=
    (Nat.length_toDigits_le_iff (by decide) Nat.length_toDigits_pos).1 (Nat.le_refl _)
  rw [zpow_add₀ (by norm_num), zpow_natCast]
  exact mul_lt_mul_of_pos_right (by exact_mod_cast hlt) (zpow_pos (by norm_num) _)

theorem le_rational (h : d.coefficient ≠ 0) :
    10 ^ ((digitsOf d.coefficient).length + d.exponent - 1) ≤ d.rational := by
  have hle : 10 ^ ((digitsOf d.coefficient).length - 1) ≤ d.coefficient := by
    rcases Nat.eq_zero_or_pos ((digitsOf d.coefficient).length - 1) with hzero | hpos
    · rw [hzero, Nat.pow_zero]
      exact Nat.pos_of_ne_zero h
    · refine Nat.le_of_not_lt fun hlt => ?_
      have hshort : (digitsOf d.coefficient).length ≤ (digitsOf d.coefficient).length - 1 :=
        (Nat.length_toDigits_le_iff (by decide) hpos).2 hlt
      omega
  have hlength : 0 < (digitsOf d.coefficient).length := Nat.length_toDigits_pos
  have hexponent : ((digitsOf d.coefficient).length : ℤ) + d.exponent - 1 =
      ((digitsOf d.coefficient).length - 1 : Nat) + d.exponent := by omega
  rw [hexponent, zpow_add₀ (by norm_num), zpow_natCast]
  exact mul_le_mul_of_nonneg_right (by exact_mod_cast hle) (zpow_nonneg (by norm_num) _)

end Decimal

/-! ### Reading a decimal -/

theorem ofDecimal_eq_round (negative : Bool) {d : Decimal} (h : d.coefficient ≠ 0)
    (small : (digitsOf d.coefficient).length + d.exponent ≤ 400)
    (large : -400 ≤ (digitsOf d.coefficient).length + d.exponent) :
    ofDecimal negative d.coefficient d.exponent =
      round negative (d.coefficient * (grid d.exponent).1) (4 * (grid d.exponent).2) := by
  obtain ⟨c, e⟩ := d
  unfold ofDecimal
  dsimp only at h small large ⊢
  rw [if_neg h, if_neg (by omega), if_neg (by omega)]
  cases e with
  | ofNat e =>
    have hstep : c * (4 * unitsPerOne * Nat.pow 10 e) = c * Nat.pow 10 e * unitsPerOne * 4 := by ring
    show ofUnits negative (roundUnits (c * Nat.pow 10 e * unitsPerOne) 1) =
      ofUnits negative (roundUnits (c * (4 * unitsPerOne * Nat.pow 10 e)) (4 * 1))
    rw [hstep, Nat.mul_comm 4 1, roundUnits_mul_mul _ _ (by decide)]
  | negSucc e =>
    have hstep : c * (4 * unitsPerOne) = c * unitsPerOne * 4 := by ring
    show ofUnits negative (roundUnits (c * unitsPerOne) (Nat.pow 10 (e + 1))) =
      ofUnits negative (roundUnits (c * (4 * unitsPerOne)) (4 * Nat.pow 10 (e + 1)))
    rw [hstep, Nat.mul_comm 4 (Nat.pow 10 _), roundUnits_mul_mul _ _ (by decide)]

/-- The doubles are far from the exponents at which reading gives up. -/
theorem interval_range {units : Nat} (hpos : 0 < units) (h : Representable units) :
    4 * unitsPerOne < (interval units).low * 10 ^ 400 ∧
      (interval units).high < 10 ^ 400 * (4 * unitsPerOne) := by
  obtain ⟨hlow, -, hhigh⟩ := interval_bounds hpos
  have hsmall : 4 * unitsPerOne < 10 ^ 400 := by decide +kernel
  have hlarge : 6 * Nat.pow 2 2098 < 10 ^ 400 * (4 * unitsPerOne) := by decide +kernel
  have hulp := two_pow_step_le hpos
  have hcentre : (interval units).centre = 4 * units := rfl
  have hunits := h.1
  constructor
  · exact Nat.lt_of_lt_of_le hsmall (Nat.le_mul_of_pos_left _ hlow)
  · rw [hhigh, hcentre]
    omega

theorem le_of_zpow_le {q : ℚ} {m : ℤ} {n high one : Nat} (hq : 10 ^ (m - 1) ≤ q)
    (hhigh : q * one ≤ high) (h : high < 10 ^ n * one) : m ≤ n := by
  by_contra hlt
  have hpow : ((10 ^ n : Nat) : ℚ) ≤ q := by
    rw [Nat.cast_pow, Nat.cast_ofNat, ← zpow_natCast]
    exact (zpow_le_zpow_right₀ (by norm_num) (by omega)).trans hq
  have hscaled : ((10 ^ n * one : Nat) : ℚ) ≤ high := by
    rw [Nat.cast_mul]
    exact (mul_le_mul_of_nonneg_right hpow (Nat.cast_nonneg one)).trans hhigh
  exact absurd (Nat.cast_le.1 hscaled) (Nat.not_le_of_lt h)

theorem neg_le_of_lt_zpow {q : ℚ} {m : ℤ} {n low one : Nat} (hq : q < 10 ^ m)
    (hlow : low ≤ q * one) (h : one < low * 10 ^ n) : -n ≤ m := by
  by_contra hlt
  have hpow : q * (10 ^ n : Nat) ≤ 1 := by
    rw [Nat.cast_pow, Nat.cast_ofNat, ← zpow_natCast]
    calc q * 10 ^ (n : ℤ) ≤ 10 ^ m * 10 ^ (n : ℤ) :=
          mul_le_mul_of_nonneg_right hq.le (zpow_nonneg (by norm_num) _)
      _ = 10 ^ (m + n) := (zpow_add₀ (by norm_num) _ _).symm
      _ ≤ 1 := zpow_le_one_of_nonpos₀ (by norm_num) (by omega)
  have hscaled : ((low * 10 ^ n : Nat) : ℚ) ≤ one := by
    rw [Nat.cast_mul]
    calc (low : ℚ) * (10 ^ n : Nat) ≤ q * one * (10 ^ n : Nat) :=
          mul_le_mul_of_nonneg_right hlow (Nat.cast_nonneg _)
      _ = q * (10 ^ n : Nat) * one := mul_right_comm _ _ _
      _ ≤ 1 * one := mul_le_mul_of_nonneg_right hpow (Nat.cast_nonneg _)
      _ = one := one_mul _
  exact absurd (Nat.cast_le.1 hscaled) (Nat.not_le_of_lt h)

theorem magnitude_of_has {units : Nat} (hpos : 0 < units) (h : Representable units) {d : Decimal}
    (hne : d.coefficient ≠ 0) (hhas : (interval units).Has d) :
    (digitsOf d.coefficient).length + d.exponent ≤ 400 ∧
      -400 ≤ (digitsOf d.coefficient).length + d.exponent := by
  obtain ⟨hlow, hhigh⟩ := hhas
  obtain ⟨hsmall, hlarge⟩ := interval_range hpos h
  have hcast : (4 * unitsPerOne : ℚ) = (4 * unitsPerOne : Nat) := by
    rw [Nat.cast_mul, Nat.cast_ofNat]
  rw [hcast] at hlow hhigh
  have hupper := le_of_zpow_le (n := 400) (Decimal.le_rational hne) hhigh hlarge
  have hlower := neg_le_of_lt_zpow (n := 400) (Decimal.rational_lt d) hlow hsmall
  omega

/-- A decimal among the reals that round to a double is read as the double. -/
theorem ofDecimal_of_covers (negative : Bool) {units : Nat} (hpos : 0 < units)
    (h : Representable units) {d : Decimal} (hcovers : (interval units).Covers d) :
    ofDecimal negative d.coefficient d.exponent = .finite negative units h := by
  have hne := hcovers.has.coefficient_ne_zero (interval_bounds hpos).1
  obtain ⟨small, large⟩ := magnitude_of_has hpos h hne hcovers.has
  rw [ofDecimal_eq_round negative hne small large, round,
    roundUnits_of_contains hpos h (grid_pos _).2 (Interval.contains_grid_iff.2 hcovers), ofUnits,
    dif_pos h]

/-! ### Digits -/

theorem digitsValue_eq (start : Nat) (ds : List Char) :
    digitsValue start ds = Nat.ofDigitChars 10 ds start := by
  unfold digitsValue Nat.ofDigitChars
  congr 1
  funext n c
  rw [Nat.mul_comm]

theorem digitsValue_append (start : Nat) (ds ds' : List Char) :
    digitsValue start (ds ++ ds') = digitsValue (digitsValue start ds) ds' :=
  List.foldl_append

theorem digitsValue_digitsOf (n : Nat) : digitsValue 0 (digitsOf n) = n :=
  (digitsValue_eq _ _).trans (Nat.ofDigitChars_toDigits (by decide) (by decide))

theorem digitsValue_zeros (start k : Nat) :
    digitsValue start (List.replicate k '0') = start * 10 ^ k := by
  rw [digitsValue_eq, Nat.ofDigitChars_replicate_zero, Nat.mul_comm]

theorem isDigit_of_mem_digitsOf {n : Nat} {c : Char} (h : c ∈ digitsOf n) : c.isDigit = true :=
  Nat.isDigit_of_mem_toDigits (by decide) (by decide) h

theorem isDigit_of_mem_zeros {k : Nat} {c : Char} (h : c ∈ List.replicate k '0') :
    c.isDigit = true := by
  rw [List.eq_of_mem_replicate h]
  decide

/-! ### Positional text -/

section

variable {whole fraction : List Char} (negative : Bool)

theorem readUnsigned?_whole (hwhole : ∀ c ∈ whole, c.isDigit = true) (hne : whole ≠ []) :
    readUnsigned? negative whole = some (ofDecimal negative (digitsValue 0 whole) 0) := by
  unfold readUnsigned?
  simp only [List.takeWhile_eq_self_iff.2 hwhole, List.dropWhile_eq_nil_iff.2 hwhole,
    List.isEmpty_eq_false_iff.2 hne, Bool.false_and, Bool.false_eq_true, if_false]
  rfl

theorem readUnsigned?_point (hwhole : ∀ c ∈ whole, c.isDigit = true) (hne : whole ≠ [])
    (hfraction : ∀ c ∈ fraction, c.isDigit = true) :
    readUnsigned? negative (whole ++ '.' :: fraction) =
      some (ofDecimal negative (digitsValue 0 (whole ++ fraction)) (-(fraction.length : Int))) := by
  have htake : (whole ++ '.' :: fraction).takeWhile Char.isDigit = whole := by
    rw [List.takeWhile_append_of_pos hwhole, List.takeWhile_cons_of_neg (by decide), List.append_nil]
  have hdrop : (whole ++ '.' :: fraction).dropWhile Char.isDigit = '.' :: fraction := by
    rw [List.dropWhile_append_of_pos hwhole, List.dropWhile_cons_of_neg (by decide)]
  unfold readUnsigned?
  simp only [htake, hdrop, List.takeWhile_eq_self_iff.2 hfraction,
    List.dropWhile_eq_nil_iff.2 hfraction, List.isEmpty_eq_false_iff.2 hne, Bool.false_and,
    Bool.false_eq_true, if_false, digitsValue_append]

end

/-- Reading the positional text of a decimal takes a decimal of the same value. -/
theorem exists_readUnsigned?_positive (d : Decimal) (negative : Bool) : ∃ d' : Decimal,
    d'.rational = d.rational ∧ readUnsigned? negative (plainLayout.positive d) =
      some (ofDecimal negative d'.coefficient d'.exponent) := by
  have hdigits : ∀ c ∈ digitsOf d.coefficient, c.isDigit = true := fun _ => isDigit_of_mem_digitsOf
  have hne : digitsOf d.coefficient ≠ [] := Nat.toDigits_ne_nil
  have hvalue := digitsValue_digitsOf d.coefficient
  show ∃ d' : Decimal, d'.rational = d.rational ∧
    readUnsigned? negative (positional (digitsOf d.coefficient)
      ((digitsOf d.coefficient).length + d.exponent) []) = _
  generalize digitsOf d.coefficient = ds at *
  have hlength : 0 < ds.length := List.length_pos_of_ne_nil hne
  unfold positional
  split
  · next hpoint =>
    -- all digits are behind the point, after zeros
    generalize hk : (-(ds.length + d.exponent)).toNat = k
    have hfraction : ∀ c ∈ List.replicate k '0' ++ ds, c.isDigit = true :=
      List.forall_mem_append.2 ⟨fun _ => isDigit_of_mem_zeros, hdigits⟩
    have hwhole : ∀ c ∈ ['0'], c.isDigit = true := List.forall_mem_singleton.2 rfl
    have hread := readUnsigned?_point negative hwhole (List.cons_ne_nil _ _) hfraction
    have hzero : digitsValue 0 ['0'] = 0 := rfl
    have hexponent : -((List.replicate k '0' ++ ds).length : Int) = d.exponent := by
      rw [List.length_append, List.length_replicate]
      omega
    rw [digitsValue_append, digitsValue_append, digitsValue_zeros, hzero, Nat.zero_mul, hvalue,
      hexponent] at hread
    exact ⟨d, rfl, hread⟩
  · split
    · next hpoint hwhole =>
      -- no digit is behind the point
      generalize hk : (ds.length + d.exponent).toNat - ds.length = k
      have hall : ∀ c ∈ ds ++ List.replicate k '0' ++ [], c.isDigit = true := by
        rw [List.append_nil]
        exact List.forall_mem_append.2 ⟨hdigits, fun _ => isDigit_of_mem_zeros⟩
      have hread := readUnsigned?_whole negative hall (by simp [hne])
      have hexponent : d.exponent = (k : ℤ) := by omega
      refine ⟨⟨d.coefficient * 10 ^ k, 0⟩, ?_, ?_⟩
      · rw [Decimal.rational, Decimal.rational, hexponent, zpow_natCast, zpow_zero, mul_one]
        exact_mod_cast rfl
      · rw [hread, List.append_nil, digitsValue_append, hvalue, digitsValue_zeros]
    · next hpoint hwhole =>
      -- the point is among the digits
      generalize hk : (ds.length + d.exponent).toNat = k at hwhole ⊢
      have htake : ∀ c ∈ ds.take k, c.isDigit = true := fun c hc =>
        hdigits c (List.mem_of_mem_take hc)
      have hdrop : ∀ c ∈ ds.drop k, c.isDigit = true := fun c hc =>
        hdigits c (List.mem_of_mem_drop hc)
      have hfirst : ds.take k ≠ [] :=
        List.ne_nil_of_length_pos (by rw [List.length_take]; omega)
      have hread := readUnsigned?_point negative htake hfirst hdrop
      have hexponent : -((ds.drop k).length : Int) = d.exponent := by
        rw [List.length_drop]
        omega
      rw [List.take_append_drop, hvalue, hexponent] at hread
      exact ⟨d, rfl, hread⟩

/-! ### The text of a double -/

theorem toLower_of_isDigit {c : Char} (h : c.isDigit = true) : c.toLower = c := by
  simp only [Char.isDigit, Bool.and_eq_true, decide_eq_true_eq] at h
  have hupper : ¬ (c.val ≥ 65 ∧ c.val ≤ 90) := fun hboth =>
    absurd (UInt32.le_trans hboth.1 h.2) (by decide)
  exact dif_neg hupper

/-- What is read as a decimal is read with a sign in front of it. -/
theorem read?_digits (negative : Bool) {c : Char} {cs : List Char} {x : Binary64}
    (hc : c.isDigit = true) (h : readUnsigned? negative (c :: cs) = some x) :
    read? (String.ofList ((if negative then ['-'] else []) ++ c :: cs)) = .ok x := by
  have hne : ∀ c' : Char, c'.isDigit = false → c ≠ c' := by
    rintro c' hc' rfl
    rw [hc] at hc'
    cases hc'
  have hsign : splitSign ((if negative then ['-'] else []) ++ c :: cs) = (negative, c :: cs) := by
    cases negative with
    | true => rfl
    | false =>
      unfold splitSign
      split
      · next heq => exact absurd (List.cons.inj heq).1 (hne '-' rfl)
      · next heq => exact absurd (List.cons.inj heq).1 (hne '+' rfl)
      · rfl
  have hempty : ((if negative then ['-'] else []) ++ c :: cs).isEmpty = false := by
    cases negative <;> rfl
  have hword : ∀ (c' : Char) (word : List Char), c'.isDigit = false →
      (c :: cs).map Char.toLower ≠ c' :: word := fun c' word hc' heq => by
    rw [List.map_cons, toLower_of_isDigit hc] at heq
    exact hne c' hc' (List.cons.inj heq).1
  unfold read?
  simp only [String.toList_ofList, hsign, hempty, Bool.false_eq_true, if_false, h,
    hword 'n' _ (by decide), hword 'i' _ (by decide), or_self]

theorem exists_positive_eq_cons (d : Decimal) :
    ∃ c cs, plainLayout.positive d = c :: cs ∧ c.isDigit = true := by
  have hdigits : ∀ c ∈ digitsOf d.coefficient, c.isDigit = true := fun _ => isDigit_of_mem_digitsOf
  show ∃ c cs, positional (digitsOf d.coefficient)
    ((digitsOf d.coefficient).length + d.exponent) [] = c :: cs ∧ c.isDigit = true
  obtain ⟨c, ds, hds⟩ := List.exists_cons_of_ne_nil (l := digitsOf d.coefficient) Nat.toDigits_ne_nil
  rw [hds] at hdigits ⊢
  have hc : c.isDigit = true := hdigits c List.mem_cons_self
  unfold positional
  split
  · exact ⟨'0', _, rfl, rfl⟩
  · split
    · exact ⟨c, _, rfl, hc⟩
    · next hpoint _ =>
      obtain ⟨k, hk⟩ : ∃ k, ((c :: ds).length + d.exponent).toNat = k + 1 :=
        ⟨((c :: ds).length + d.exponent).toNat - 1, by omega⟩
      rw [hk]
      exact ⟨c, _, rfl, hc⟩

theorem text_finite (negative : Bool) {units : Nat} (representable : Representable units) :
    (Binary64.finite negative units representable).text =
      String.ofList ((if negative then ['-'] else []) ++
        if units = 0 then ['0'] else plainLayout.positive (shortest plainLayout.tie units)) := rfl

/-- The text of a double that is a number is read as the double. -/
theorem read?_text {x : Binary64} (h : x ≠ .nan) : read? x.text = .ok x := by
  cases x with
  | nan => exact absurd rfl h
  | infinity negative => cases negative <;> decide
  | finite negative units representable =>
    rw [text_finite]
    by_cases hzero : units = 0
    · rw [if_pos hzero]
      have hread : readUnsigned? negative ['0'] = some (zero negative) := by
        rw [readUnsigned?_whole negative (List.forall_mem_singleton.2 rfl) (List.cons_ne_nil _ _)]
        rfl
      have heq : zero negative = .finite negative units representable := by
        rw [zero, Binary64.finite.injEq]
        exact ⟨rfl, hzero.symm⟩
      exact read?_digits negative rfl (heq ▸ hread)
    · rw [if_neg hzero]
      have hpos : 0 < units := Nat.pos_of_ne_zero hzero
      obtain ⟨d, hrational, hread⟩ :=
        exists_readUnsigned?_positive (shortest plainLayout.tie units) negative
      have hcovers := shortest_covers plainLayout.tie hpos representable
      rw [Interval.Covers, Interval.Has, ← hrational] at hcovers
      rw [ofDecimal_of_covers negative hpos representable hcovers] at hread
      obtain ⟨c, cs, heq, hc⟩ := exists_positive_eq_cons (shortest plainLayout.tie units)
      rw [heq] at hread ⊢
      exact read?_digits negative hc hread

end Binary64

end QuerySwarm
