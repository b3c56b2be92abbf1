import QuerySwarm.Proofs.Binary64.Order
import QuerySwarm.Proofs.Setup.Rules
import QuerySwarm.Proofs.ThinkTime.Draw
import Mathlib.Logic.Function.Iterate

/-!
# Waits stay between their bounds

The exact scale takes the largest fraction to the upper bound, but the scale, the product and the sum
are each rounded, and the three of them together can lead beyond it. So the scale is taken down until
the largest fraction fits. From there on rounding, which keeps the order, sees to the rest: no
fraction leads farther than the largest one, none leads below the lower bound, and the conversion to
nanoseconds keeps the order as well.

* `ThinkTime.Settles`: the loop that takes the scale down, as the row of scales it goes through.
* `ThinkTime.exists_settles`: the loop ends, since the scale zero fits.
* `ThinkTime.sample_between`: a wait that is drawn between checked bounds lies between their spans.
-/

namespace QuerySwarm

namespace Binary64

theorem signedUnits_of_nonneg {n : Bool} {x : Nat} (h : 0 ≤ signedUnits n x) : signedUnits n x = x := by
  cases n with
  | false => rfl
  | true =>
    simp only [signedUnits, if_true] at h ⊢
    omega

/-- The sum of two numbers that are not negative is one rounding of their units. A zero of either sign
adds nothing. -/
theorem add_of_nonneg {n : Bool} {x y : Nat} (hx : Representable x) (hy : Representable y)
    (h : 0 ≤ signedUnits n y) :
    finite false x hx + finite n y hy = round false (x + y) 1 := by
  change add (finite false x hx) (finite n y hy) = _
  have hsum : signedUnits false x + signedUnits n y = ((x + y : Nat) : Int) := by
    rw [signedUnits_of_nonneg h, Int.natCast_add]
    rfl
  simp only [add, hsum]
  split
  · next hzero =>
    have hnone : x + y = 0 := by exact_mod_cast hzero
    rw [hnone, Bool.false_and]
    decide +kernel
  · rw [decide_eq_false (by omega), Int.natAbs_natCast]

theorem mul_finite {x y : Nat} (hx : Representable x) (hy : Representable y) :
    finite false x hx * finite false y hy = round false (x * y) unitsPerOne := by
  change mul (finite false x hx) (finite false y hy) = _
  simp only [mul, bne_self_eq_false]

theorem mul_comm_finite {x y : Nat} (hx : Representable x) (hy : Representable y) :
    finite false x hx * finite false y hy = finite false y hy * finite false x hx := by
  rw [mul_finite, mul_finite, Nat.mul_comm]

/-- What is rounded is not above a number exactly if it rounds to a double whose units are not. -/
theorem lt_round_eq_false_iff {n : Bool} {x k : Nat} {hx : Representable x}
    (h : 0 ≤ signedUnits n x) :
    (finite n x hx).lt (round false k 1) = false ↔
      Representable (roundUnits k 1) ∧ roundUnits k 1 ≤ x := by
  unfold round ofUnits
  split
  · next hk =>
    have hlt : (finite n x hx).lt (finite false (roundUnits k 1) hk) = false ↔
        ¬ signedUnits n x < signedUnits false (roundUnits k 1) := decide_eq_false_iff_not
    rw [hlt, signedUnits_of_nonneg h]
    simp only [hk, signedUnits, true_and]
    rw [if_neg Bool.false_ne_true, Int.not_lt, Int.ofNat_le]
  · next hk =>
    simp [lt, hk]

theorem round_eq_finite (negative : Bool) {n d : Nat} (h : Representable (roundUnits n d)) :
    round negative n d = .finite negative (roundUnits n d) h := by
  simp only [round, ofUnits, h, dif_pos]

theorem towardsZero_finite {n : Bool} {x : Nat} (hx : Representable x) :
    (finite n x hx).towardsZero = finite n (belowUnits x) (representable_belowUnits hx) := by
  simp only [towardsZero, ofUnits, representable_belowUnits hx, dif_pos]

end Binary64

theorem representable_unitsPerOne : Representable unitsPerOne := by decide +kernel

namespace ThinkTime

open Binary64

/-! ### Fractions -/

/-- The units of a fraction of `2 ^ 52`. -/
def fractionUnits (n : Nat) : Nat := roundUnits (n * unitsPerOne) (Nat.pow 2 52)

/-- The units of the largest fraction. -/
def lastUnits : Nat := fractionUnits (Nat.pow 2 52 - 1)

theorem fractionUnits_mono {n k : Nat} (h : n ≤ k) : fractionUnits n ≤ fractionUnits k :=
  roundUnits_mono _ (Nat.mul_le_mul_right _ h)

theorem two_pow_pos : 0 < Nat.pow 2 52 := Nat.two_pow_pos 52

theorem mul_unitsPerOne_le {n : Nat} (h : n ≤ Nat.pow 2 52 - 1) :
    n * unitsPerOne ≤ unitsPerOne * Nat.pow 2 52 := by
  rw [Nat.mul_comm unitsPerOne]
  exact Nat.mul_le_mul_right _ (Nat.le_trans h (Nat.sub_le _ _))

theorem fractionUnits_le {n : Nat} (h : n ≤ Nat.pow 2 52 - 1) : fractionUnits n ≤ unitsPerOne :=
  roundUnits_le representable_unitsPerOne two_pow_pos (mul_unitsPerOne_le h)

theorem exists_ofRatio_eq {n : Nat} (h : n ≤ Nat.pow 2 52 - 1) : ∃ representable,
    ofRatio false n (Nat.pow 2 52) = .finite false (fractionUnits n) representable := by
  have hshape := representable_roundUnits_of_le representable_unitsPerOne two_pow_pos
    (mul_unitsPerOne_le h)
  exact ⟨hshape, round_eq_finite false hshape⟩

/-- The high bits of a word are no more than the largest fraction has. -/
theorem highBits_le (word : UInt64) : word.toNat / Nat.pow 2 12 ≤ Nat.pow 2 52 - 1 := by
  have hquotient : word.toNat / Nat.pow 2 12 < Nat.pow 2 52 := by
    rw [Nat.div_lt_iff_lt_mul (Nat.two_pow_pos 12)]
    exact word.toNat_lt
  exact Nat.le_sub_one_of_lt hquotient

/-- Where a fraction leads that is stretched by a scale, from a lower bound, in units. -/
def reachUnits (fraction scale low : Nat) : Nat :=
  roundUnits (roundUnits (fraction * scale) unitsPerOne + low) 1

theorem reachUnits_mono {f g : Nat} (h : f ≤ g) (scale low : Nat) :
    reachUnits f scale low ≤ reachUnits g scale low :=
  roundUnits_mono 1 (Nat.add_le_add_right (roundUnits_mono _ (Nat.mul_le_mul_right _ h)) _)

theorem le_reachUnits {low : Nat} (hlow : Representable low) (f scale : Nat) :
    low ≤ reachUnits f scale low := by
  refine le_roundUnits hlow Nat.one_pos ?_
  rw [Nat.mul_one]
  exact Nat.le_add_left _ _

/-- Stretching and adding, as two roundings of units. -/
theorem stretched_eq {n : Bool} {f s y : Nat} {hf : Representable f} {hs : Representable s}
    {hy : Representable y} (hone : f ≤ unitsPerOne) (hlow : 0 ≤ signedUnits n y) :
    Binary64.finite false f hf * .finite false s hs + .finite n y hy =
      round false (roundUnits (f * s) unitsPerOne + y) 1 := by
  have hproduct : f * s ≤ s * unitsPerOne := by
    rw [Nat.mul_comm s]
    exact Nat.mul_le_mul_right _ hone
  have hshape := representable_roundUnits_of_le hs unitsPerOne_pos hproduct
  rw [mul_finite, round_eq_finite false hshape, add_of_nonneg _ _ hlow]

/-! ### The loop -/

/-- A scale fits if the largest fraction does not lead beyond the upper bound. -/
def Fits (t : ThinkTime) (scale : Binary64) : Prop :=
  t.max.lt (scale * lastFraction + t.min) = false

/-- The loop that takes a scale down ends after so many steps: with the first scale that fits. No step
is taken from zero. -/
structure Settles (t : ThinkTime) (scale : Binary64) (steps : Nat) : Prop where
  fits : t.Fits (towardsZero^[steps] scale)
  before : ∀ k < steps, ¬ t.Fits (towardsZero^[k] scale) ∧ 0 < (towardsZero^[k] scale).magnitude
  result : t.fitScale scale = towardsZero^[steps] scale

theorem Settles.succ {t : ThinkTime} {scale : Binary64} {steps : Nat} (misfit : ¬ t.Fits scale)
    (hpos : 0 < scale.magnitude) (h : t.Settles scale.towardsZero steps) :
    t.Settles scale (steps + 1) where
  fits := h.fits
  before := by
    intro k hk
    cases k with
    | zero => exact ⟨misfit, hpos⟩
    | succ k => exact h.before k (Nat.lt_of_succ_lt_succ hk)
  result := by
    rw [fitScale, dif_neg hpos.ne', if_pos (eq_true_of_ne_false misfit), h.result]
    rfl

/-! ### Scales that fit -/

section Fit

variable {m n : Bool} {low high : Nat} {hlow : Representable low} {hhigh : Representable high}
  (hm : 0 ≤ signedUnits m low) (hn : 0 ≤ signedUnits n high)
include hm hn

theorem fits_finite_iff {s : Nat} (hs : Representable s) :
    Fits ⟨.finite m low hlow, .finite n high hhigh⟩ (.finite false s hs) ↔
      Representable (reachUnits lastUnits s low) ∧ reachUnits lastUnits s low ≤ high := by
  obtain ⟨representable, hlast⟩ := exists_ofRatio_eq (Nat.le_refl (Nat.pow 2 52 - 1))
  rw [Fits, lastFraction, hlast, mul_comm_finite]
  dsimp only
  rw [stretched_eq (fractionUnits_le (Nat.le_refl _)) hm, lt_round_eq_false_iff hn]
  rfl

/-- What is drawn with a scale that fits is a number of seconds between the bounds. -/
theorem exists_stretched {s : Nat} (hs : Representable s)
    (fits : Fits ⟨.finite m low hlow, .finite n high hhigh⟩ (.finite false s hs)) (word : UInt64) :
    ∃ units representable, fraction word * .finite false s hs + .finite m low hlow =
      .finite false units representable ∧ low ≤ units ∧ units ≤ high := by
  have hbits := highBits_le word
  obtain ⟨representable, hfraction⟩ := exists_ofRatio_eq hbits
  obtain ⟨hreach, hbound⟩ := (fits_finite_iff hm hn hs).1 fits
  have hmono : reachUnits (fractionUnits (word.toNat / Nat.pow 2 12)) s low ≤
      reachUnits lastUnits s low := reachUnits_mono (fractionUnits_mono hbits) s low
  have hshape := representable_of_roundUnits_le hreach hmono
  refine ⟨_, hshape, ?_, le_reachUnits hlow _ s, Nat.le_trans hmono hbound⟩
  rw [fraction, hfraction, stretched_eq (fractionUnits_le hbits) hm]
  exact round_eq_finite false hshape

variable (hle : low ≤ high)
include hle

/-- The scale zero fits, since it leads nowhere from the lower bound. -/
theorem fits_zero (hzero : Representable 0) :
    Fits ⟨.finite m low hlow, .finite n high hhigh⟩ (.finite false 0 hzero) := by
  have hstay : reachUnits lastUnits 0 low = low := by
    have hnone : roundUnits 0 unitsPerOne = 0 :=
      Nat.le_zero.1 (roundUnits_le hzero unitsPerOne_pos (Nat.zero_le _))
    rw [reachUnits, Nat.mul_zero, hnone, Nat.zero_add, roundUnits_of_representable hlow]
  rw [fits_finite_iff hm hn, hstay]
  exact ⟨hlow, hle⟩

variable (hlow hhigh) in
/-- The loop ends, whatever the scale is that it starts from. -/
theorem exists_settles (s : Nat) (hs : Representable s) :
    ∃ steps scale representable,
      Settles ⟨.finite m low hlow, .finite n high hhigh⟩ (.finite false s hs) steps ∧
        towardsZero^[steps] (.finite false s hs) = .finite false scale representable := by
  -- on the units of the scale, which each step makes fewer
  induction s using Nat.strongRecOn with
  | ind s ih =>
    by_cases fits : Fits ⟨.finite m low hlow, .finite n high hhigh⟩ (.finite false s hs)
    · refine ⟨0, s, hs, ⟨fits, fun k hk => absurd hk (Nat.not_lt_zero k), ?_⟩, rfl⟩
      rw [fitScale]
      split
      · rfl
      · rw [if_neg (ne_true_of_eq_false fits)]
        rfl
    · have hpos : 0 < s := by
        refine Nat.pos_of_ne_zero ?_
        rintro rfl
        exact fits (fits_zero hm hn hle hs)
      obtain ⟨steps, scale, representable, settles, hscale⟩ :=
        ih _ (belowUnits_lt hpos) (representable_belowUnits hs)
      rw [← towardsZero_finite hs] at settles hscale
      exact ⟨steps + 1, scale, representable, settles.succ fits hpos, hscale⟩

end Fit

/-- What is drawn between bounds in order is a number of seconds between them. -/
theorem exists_draw_between {m n : Bool} {low high : Nat} (hlow : Representable low)
    {hhigh : Representable high} (hm : 0 ≤ signedUnits m low)
    (horder : signedUnits m low ≤ signedUnits n high)
    (hspan : (Duration.ofSeconds? (.finite n high hhigh)).isSome = true) (source : WordSource) :
    ∃ k units representable,
      draw ⟨.finite m low hlow, .finite n high hhigh⟩ source =
        .ok (.finite k units representable,
          if Binary64.le (.finite n high hhigh) (.finite m low hlow) then source
          else source.next.2) ∧
      0 ≤ signedUnits k units ∧ low ≤ units ∧ units ≤ high ∧
      (Binary64.le (.finite n high hhigh) (.finite m low hlow) = false → ∃ steps,
        Settles ⟨.finite m low hlow, .finite n high hhigh⟩
          ((.finite n high hhigh - .finite m low hlow) / lastFraction) steps) := by
  have hn : 0 ≤ signedUnits n high := Int.le_trans hm horder
  have hle : low ≤ high := by
    rwa [signedUnits_of_nonneg hm, signedUnits_of_nonneg hn, Int.ofNat_le] at horder
  cases hroom : Binary64.le (.finite n high hhigh) (.finite m low hlow) with
  | true =>
    exact ⟨m, low, hlow, draw_of_le hroom source, hm, Nat.le_refl _, hle, fun h => by cases h⟩
  | false =>
    have hlt : signedUnits m low < signedUnits n high := by simpa [Binary64.le] using hroom
    obtain ⟨exact, hexact, hscale⟩ := exists_scale_eq hlow hm hlt hspan
    obtain ⟨steps, s, hs, settles, hs_eq⟩ :=
      exists_settles hlow hhigh hm hn hle exact hexact
    have hfits := settles.fits
    rw [hs_eq] at hfits
    obtain ⟨units, representable, hdrawn, hge, hbound⟩ :=
      exists_stretched hm hn hs hfits source.next.1
    refine ⟨false, units, representable, ?_, Int.natCast_nonneg _, hge, hbound, fun _ => ?_⟩
    · have hfinite : (!Binary64.isFinite (.finite false exact hexact)) = false := rfl
      rw [draw, if_neg (ne_true_of_eq_false hroom), if_neg (by simpa [Binary64.le] using horder)]
      dsimp only
      rw [hscale, hfinite, if_neg Bool.false_ne_true, settles.result, hs_eq, hdrawn]
      rfl
    · rw [hscale]
      exact ⟨steps, settles⟩

end ThinkTime

/-! ### Waits -/

namespace Duration

/-- The span that is nearest to a number of seconds, which is given in units. -/
def nearest (units : Nat) : Duration :=
  ⟨roundHalfEven (units * nanosecondsPerSecond) unitsPerOne⟩

theorem nanoseconds_nearest (units : Nat) :
    (nearest units).nanoseconds =
      roundHalfEven (units * nanosecondsPerSecond) unitsPerOne := by
  simp only [nearest]

theorem nearest_mono {x y : Nat} (h : x ≤ y) :
    (nearest x).nanoseconds ≤ (nearest y).nanoseconds := by
  rw [nanoseconds_nearest, nanoseconds_nearest]
  exact roundHalfEven_mono unitsPerOne (Nat.mul_le_mul_right nanosecondsPerSecond h)

theorem ofSeconds?_of_nonneg {n : Bool} {x : Nat} {hx : Representable x}
    (h : 0 ≤ Binary64.signedUnits n x) :
    ofSeconds? (.finite n x hx) = if limit ≤ (nearest x).nanoseconds then none else some (nearest x) := by
  have hunsigned : ofSeconds? (.finite n x hx) = ofSeconds? (.finite false x hx) := by
    cases n with
    | false => rfl
    | true =>
      -- only a zero is not negative, and no sign is looked at there
      obtain rfl : x = 0 := by
        simp only [Binary64.signedUnits, if_true] at h
        omega
      simp only [ofSeconds?, bne_self_eq_false, Bool.and_false]
  rw [hunsigned, ofSeconds?_finite, ← nanoseconds_nearest]

/-- Of two numbers of seconds that are not negative, the smaller one is a span if the greater one is, and
its span is not longer. -/
theorem exists_ofSeconds?_of_le {m n : Bool} {x y : Nat} (hx : Representable x)
    {hy : Representable y} (hm : 0 ≤ Binary64.signedUnits m x) (hn : 0 ≤ Binary64.signedUnits n y)
    (hle : x ≤ y) {longer : Duration} (hlonger : ofSeconds? (.finite n y hy) = some longer) :
    ∃ d, ofSeconds? (.finite m x hx) = some d ∧ d.nanoseconds ≤ longer.nanoseconds := by
  rw [ofSeconds?_of_nonneg hn] at hlonger
  split at hlonger
  · cases hlonger
  · next hrange =>
    obtain rfl := Option.some.inj hlonger
    refine ⟨nearest x, ?_, nearest_mono hle⟩
    rw [ofSeconds?_of_nonneg hm, if_neg fun h => hrange (Nat.le_trans h (nearest_mono hle))]

end Duration

namespace ThinkTime

/-- A wait that is drawn between checked bounds, whatever the words are.

The draw does not fail, and takes no word if the bounds leave no room, else one. The number of seconds
that is drawn is a span, which is not shorter than that of the lower bound and not longer than that of the
upper one; so the longest span of all is not drawn, unless it is the upper bound. And where there is
room, the loop that takes the scale down comes to an end. -/
theorem sample_between {min max : Binary64} {t : ThinkTime} (h : ofBounds min max = .ok t)
    (source : WordSource) :
    ∃ shortest longest wait seconds,
      Duration.ofSeconds? min = some shortest ∧ Duration.ofSeconds? max = some longest ∧
      t.draw source = .ok (seconds, if max.le min then source else source.next.2) ∧
      Duration.ofSeconds? seconds = some wait ∧
      t.sample source = .ok (wait, if max.le min then source else source.next.2) ∧
      shortest.nanoseconds ≤ wait.nanoseconds ∧ wait.nanoseconds ≤ longest.nanoseconds ∧
      (longest.nanoseconds < Duration.longest.nanoseconds → wait ≠ .longest) ∧
      (max.le min = false → ∃ steps, t.Settles ((max - min) / lastFraction) steps) := by
  obtain ⟨rfl, ⟨hmin, hmax⟩, hnonneg, hordered, longest, hlongest⟩ := ofBounds_eq_ok_iff.1 h
  cases max with
  | nan => cases hmax
  | infinity negative => cases hmax
  | finite n x hx =>
    cases min with
    | nan => cases hmin
    | infinity negative => cases hmin
    | finite m y hy =>
      have hm : 0 ≤ Binary64.signedUnits m y := by
        simpa [Binary64.zero_eq, Binary64.le, Binary64.signedUnits] using hnonneg
      have hle : Binary64.signedUnits m y ≤ Binary64.signedUnits n x := by
        simpa [Binary64.le] using hordered
      obtain ⟨k, units, representable, hdraw, hk, hge, hbound, hsettles⟩ :=
        exists_draw_between hy hm hle (Option.isSome_of_eq_some hlongest) source
      -- the spans are in the order of the numbers
      obtain ⟨wait, hwait, hlong⟩ := Duration.exists_ofSeconds?_of_le representable hk
        (Int.le_trans hm hle) hbound hlongest
      obtain ⟨shortest, hshortest, hshort⟩ :=
        Duration.exists_ofSeconds?_of_le hy hm hk hge hwait
      refine ⟨shortest, longest, wait, _, hshortest, hlongest, hdraw, hwait, ?_, hshort, hlong, ?_,
        hsettles⟩
      · rw [sample, hdraw]
        dsimp only [Except.map]
        rw [hwait, Option.getD_some]
      · rintro hless rfl
        exact Nat.lt_irrefl _ (Nat.lt_of_le_of_lt hlong hless)

/-- From three tenths of a second to nine: the exact scale would lead beyond the upper bound. -/
def tenths : ThinkTime := ⟨.ofRatio false 3 10, .ofRatio false 9 10⟩

theorem sample_between_tenths :
    ofBounds tenths.min tenths.max = .ok tenths ∧
    (∃ steps, 0 < steps ∧ tenths.Settles ((tenths.max - tenths.min) / lastFraction) steps) ∧
    ∃ wait, tenths.sample (.ofWords [0xFFFFFFFFFFFFFFFF, 7]) = .ok (wait, ⟨[7], 1⟩) ∧
      300000000 ≤ wait.nanoseconds ∧ wait.nanoseconds ≤ 900000000 := by
  have hshort : Duration.ofSeconds? tenths.min = some ⟨300000000⟩ := by decide +kernel
  have hlong : Duration.ofSeconds? tenths.max = some ⟨900000000⟩ := by decide +kernel
  have hroom : tenths.max.le tenths.min = false := by decide +kernel
  have heta : ∀ t : ThinkTime, t = ⟨t.min, t.max⟩ := fun _ => rfl
  have hbounds : ofBounds tenths.min tenths.max = .ok tenths := ofBounds_eq_ok_iff.2
    ⟨heta tenths, by decide +kernel, by decide +kernel, by decide +kernel, _, hlong⟩
  obtain ⟨shortest, longest, wait, -, hshortest, hlongest, -, -, hsample, hge, hle, -, hsettles⟩ :=
    sample_between hbounds (.ofWords [0xFFFFFFFFFFFFFFFF, 7])
  rw [hshort, Option.some.injEq] at hshortest
  rw [hlong, Option.some.injEq] at hlongest
  rw [hroom] at hsample
  subst hshortest hlongest
  obtain ⟨steps, settles⟩ := hsettles hroom
  refine ⟨hbounds, ⟨steps, Nat.pos_of_ne_zero ?_, settles⟩, wait, hsample, hge, hle⟩
  rintro rfl
  -- the exact scale does not fit
  have hbeyond : tenths.max.lt ((tenths.max - tenths.min) / lastFraction * lastFraction +
      tenths.min) = true := by decide +kernel
  have hfits := settles.fits
  rw [Fits, Function.iterate_zero_apply, hbeyond] at hfits
  cases hfits

end ThinkTime

end QuerySwarm
