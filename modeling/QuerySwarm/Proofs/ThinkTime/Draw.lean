import QuerySwarm.Proofs.Binary64.Range
import QuerySwarm.ThinkTime

/-!
# Drawing a wait

Bounds that pass the check can always be drawn from. What could go wrong is that the bounds are out
of order, or that their distance, stretched to the whole range of fractions, is no finite double;
the check keeps the bounds in order and below `2^64` seconds, which is far from the greatest double.

Main statement: whatever the words are, a wait can be drawn from checked bounds
(`ThinkTime.exists_sample_of_check`).
-/

namespace QuerySwarm

/-- A number of seconds that is a span is less than `2^64`. -/
theorem Duration.units_lt_of_isSome_ofSeconds? {negative : Bool} {units : Nat}
    {h : Representable units}
    (hspan : (Duration.ofSeconds? (.finite negative units h)).isSome = true) :
    units < 2 ^ 64 * unitsPerOne := by
  simp only [Duration.ofSeconds?] at hspan
  split at hspan
  · cases hspan
  · next hrange =>
    simp only [Bool.or_eq_true, decide_eq_true_eq, not_or, Nat.not_le] at hrange
    have hnanos := Nat.lt_of_le_of_lt (le_roundHalfEven _ _) hrange.2
    rw [Nat.div_lt_iff_lt_mul unitsPerOne_pos] at hnanos
    have hlimit : limit * unitsPerOne = 2 ^ 64 * unitsPerOne * nanosecondsPerSecond := by
      simp only [limit, Nat.pow_eq]
      ring
    rw [hlimit] at hnanos
    exact Nat.lt_of_mul_lt_mul_right hnanos

namespace ThinkTime

theorem exists_lastFraction_eq :
    ∃ units representable,
      lastFraction = .finite false units representable ∧ unitsPerOne ≤ 2 * units := by
  refine ⟨(Nat.pow 2 52 - 1) * Nat.pow 2 1022, ?_, ?_, ?_⟩
  · decide +kernel
  · decide +kernel
  · decide +kernel

/-- The exact scale of bounds that leave room is a finite number. -/
theorem exists_scale_eq {m n : Bool} {y x : Nat} (hy : Representable y) {hx : Representable x}
    (nonneg : 0 ≤ Binary64.signedUnits m y)
    (room : Binary64.signedUnits m y < Binary64.signedUnits n x)
    (hspan : (Duration.ofSeconds? (.finite n x hx)).isSome = true) :
    ∃ units representable,
      (.finite n x hx - .finite m y hy) / lastFraction = .finite false units representable := by
  have hreach := Duration.units_lt_of_isSome_ofSeconds? hspan
  rw [unitsPerOne_eq, ← pow_add] at hreach
  obtain ⟨distance, hdistance, hsub, hsmall⟩ :=
    Binary64.exists_sub_eq_finite room nonneg hreach (by decide)
  obtain ⟨last, hlast, hfraction, hhalf⟩ := exists_lastFraction_eq
  obtain ⟨scale, hscale, hdiv⟩ :=
    Binary64.exists_div_eq_finite hdistance hlast hsmall hhalf (by decide)
  exact ⟨scale, hscale, by rw [hsub, hfraction, hdiv]⟩

/-- A wait can be drawn from checked bounds, whatever the words are. -/
theorem exists_draw_of_check {t : ThinkTime} (h : t.check = .ok ()) (source : WordSource) :
    ∃ drawn, t.draw source = .ok drawn := by
  obtain ⟨low, high⟩ := t
  obtain ⟨hbounds, horder, hspan⟩ := (check_eq_ok_iff _).1 h
  simp only [hasBounds, Bool.and_eq_true] at hbounds
  obtain ⟨⟨hlow, hhigh⟩, hsign⟩ := hbounds
  cases high with
  | nan => cases hhigh
  | infinity negative => cases hhigh
  | finite n x hx =>
    cases low with
    | nan => cases hlow
    | infinity negative => cases hlow
    | finite m y hy =>
      have hlow : 0 ≤ Binary64.signedUnits m y := by
        simpa [Binary64.zero_eq, Binary64.lt, Binary64.signedUnits] using hsign
      have hle : Binary64.signedUnits m y ≤ Binary64.signedUnits n x := by
        simpa [Binary64.lt] using horder
      unfold draw
      split
      · exact ⟨_, rfl⟩
      · next hroom =>
        have hlt : Binary64.signedUnits m y < Binary64.signedUnits n x := by
          simpa [Binary64.le] using hroom
        obtain ⟨scale, hscale, heq⟩ := exists_scale_eq hy hlow hlt hspan
        rw [if_neg (by simpa [Binary64.le] using hle)]
        dsimp only
        rw [heq]
        exact ⟨_, rfl⟩

theorem exists_sample_of_check {t : ThinkTime} (h : t.check = .ok ()) (source : WordSource) :
    ∃ wait rest, t.sample source = .ok (wait, rest) := by
  obtain ⟨drawn, hdrawn⟩ := exists_draw_of_check h source
  exact ⟨_, _, by rw [sample, hdrawn]; rfl⟩

end ThinkTime

end QuerySwarm
