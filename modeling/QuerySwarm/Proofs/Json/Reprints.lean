import QuerySwarm.Proofs.Json.Range

/-!
# What is printed can be read again

A number that was read is printed as another numeral, and a double may be printed as a decimal that is
larger than it. So it has to be shown that this numeral can be read, too. An integer has 64 bits, and
most doubles are printed below the bound of the numbers that can always be read; only the few largest
doubles are not, and they are read one by one.

* `exists_number?_numeral`: a number that was read can be read again once it has been printed.
* `Tree.exists_means_ofJson`: so can a whole value, and it is nested no deeper.
-/

namespace QuerySwarm.Json

open Binary64

/-! ### Numerals -/

namespace Numeral

/-- A number in range that has a whole part other than zero is scaled by a small power only. -/
theorem isInRange_of_magnitude {n : Numeral} (magnitude : |n.rational| ≤ readableLimit)
    (leading : n.power ≤ 0 ∨ 0 < decimal n.whole) : n.IsInRange := by
  refine ⟨magnitude, ?_⟩
  rcases leading with hpower | hwhole
  · exact Int.lt_of_le_of_lt hpower (by decide)
  · refine Int.lt_of_lt_of_le (Int.lt_of_not_ge fun hlarge => ?_) (show 309 ≤ _ by decide)
    have hlimit : readableLimit < 10 ^ 309 := by decide +kernel
    have hdigits : 10 ^ (n.fraction.getD []).length ≤ decimal (n.whole ++ n.fraction.getD []) := by
      rw [decimal_append]
      exact Nat.le_trans (Nat.le_mul_of_pos_left _ hwhole) (Nat.le_add_right _ _)
    rw [abs_rational] at magnitude
    have hten : (10 : ℚ) ^ (309 : ℤ) ≤ readableLimit := by
      calc (10 : ℚ) ^ (309 : ℤ) ≤ 10 ^ n.power := zpow_le_zpow_right₀ (by norm_num) hlarge
        _ = 10 ^ (n.fraction.getD []).length * 10 ^ (n.power - (n.fraction.getD []).length) := by
          rw [← zpow_natCast, ← zpow_add₀ (by norm_num), add_sub_cancel]
        _ ≤ decimal (n.whole ++ n.fraction.getD []) *
            10 ^ (n.power - (n.fraction.getD []).length) := by
          refine mul_le_mul_of_nonneg_right ?_ (zpow_nonneg (by norm_num) _)
          exact_mod_cast hdigits
        _ ≤ readableLimit := magnitude
    refine absurd hten (not_le.2 ?_)
    exact_mod_cast hlimit

end Numeral

namespace Spelling

/-- A decimal is spelled without an exponent, or begins with a digit other than zero. -/
theorem leading_ofDecimal {d : Decimal} (h : d.coefficient ≠ 0) (negative : Bool) :
    ((ofDecimal d).numeral negative).power ≤ 0 ∨
      0 < decimal ((ofDecimal d).numeral negative).whole := by
  unfold ofDecimal
  dsimp only
  split
  · left
    unfold ofPoint
    split
    · exact Int.le_refl 0
    · split <;> exact Int.le_refl 0
  · right
    obtain ⟨char, rest, heq, hne⟩ := exists_digitsOf_cons h
    have hdigit : char.isDigit = true :=
      areDigits_digitsOf d.coefficient char (by rw [heq]; exact List.mem_cons_self)
    rw [heq]
    show 0 < decimal [char.toNat - '0'.toNat]
    rw [decimal_cons, List.length_nil, Nat.pow_zero, Nat.mul_one]
    exact Nat.lt_of_lt_of_le (digitValue_pos hdigit hne) (Nat.le_add_right _ _)

end Spelling

/-! ### Doubles -/

section Doubles

variable {units : Nat}

/-- The step from one of the largest doubles to the next. -/
@[irreducible] def largestStep : Nat := Nat.pow 2 2045

theorem two_pow_eq_largestStep {e : Nat} (he : e = 2045) : Nat.pow 2 e = largestStep := by
  rw [he]
  decide +kernel

theorem two_pow_le_largestStep {e : Nat} (he : e ≤ 2045) : Nat.pow 2 e ≤ largestStep := by
  obtain ⟨last, hlast⟩ : ∃ last, last = 2045 := ⟨_, rfl⟩
  rw [← two_pow_eq_largestStep hlast]
  exact Nat.pow_le_pow_right (by decide) (by omega)

/-- A double is one of the eleven largest, or below them. -/
theorem largest_cases (h : Representable units) :
    units < (2 ^ 53 - 11) * largestStep ∨ ∃ k < 11, units = (2 ^ 53 - 1 - k) * largestStep := by
  rcases Nat.lt_or_ge units ((2 ^ 53 - 11) * largestStep) with hlt | hge
  · exact .inl hlt
  · obtain ⟨range, shape⟩ := h
    have hlow : Nat.pow 2 2097 ≤ (2 ^ 53 - 11) * largestStep := by decide +kernel
    have htop : Nat.pow 2 2098 = 2 ^ 53 * largestStep := by decide +kernel
    have hpos : 0 < largestStep := by decide +kernel
    have hne : units ≠ 0 := fun hzero => by
      rw [hzero] at hge
      exact absurd (Nat.mul_pos (by decide) hpos) (Nat.not_lt.2 hge)
    -- the steps between these doubles are all of one size
    have hle_log : ∀ k, Nat.pow 2 k ≤ units → k ≤ units.log2 := fun _ => (Nat.le_log2 hne).2
    have hlog_lt : ∀ k, units < Nat.pow 2 k → units.log2 < k := fun _ => (Nat.log2_lt hne).2
    have hleast := hle_log 2097 (Nat.le_trans hlow hge)
    have hmost := hlog_lt 2098 range
    rw [two_pow_eq_largestStep (show units.log2 - 52 = 2045 by omega)] at shape
    obtain ⟨m, rfl⟩ := Nat.dvd_of_mod_eq_zero shape
    rw [htop, Nat.mul_comm] at range
    rw [Nat.mul_comm largestStep] at hge ⊢
    have hm := Nat.lt_of_mul_lt_mul_right range
    have hm' := Nat.le_of_mul_le_mul_right hge hpos
    refine .inr ⟨2 ^ 53 - 1 - m, by omega, ?_⟩
    rw [show 2 ^ 53 - 1 - (2 ^ 53 - 1 - m) = m by omega]

/-- The largest doubles can be read from their text. -/
theorem isSome_number?_of_largest : ∀ k < 11, ∀ negative : Bool,
    ((Spelling.ofDecimal (shortest .even ((2 ^ 53 - 1 - k) * largestStep))).numeral
      negative).number?.isSome = true := by
  decide +kernel

/-- The others are printed as numbers in range. -/
theorem rational_shortest_le (hpos : 0 < units) (h : Representable units)
    (small : units < (2 ^ 53 - 11) * largestStep) (tie : Tie) :
    (shortest tie units).rational ≤ readableLimit := by
  have hlimit : 4 * ((2 ^ 53 - 11) * largestStep) + 2 * largestStep ≤
      readableLimit * (4 * unitsPerOne) := by decide +kernel
  have hone : (0 : ℚ) < 4 * unitsPerOne := by exact_mod_cast Nat.mul_pos (by decide) unitsPerOne_pos
  obtain ⟨-, hhigh⟩ := shortest_spec tie hpos h
  obtain ⟨-, -, heq⟩ := interval_bounds hpos
  have hlog : ∀ e, units < Nat.pow 2 e → units.log2 < e := fun _ => (Nat.log2_lt hpos.ne').2
  have hlast := hlog 2098 h.1
  have hstep : Nat.pow 2 (units.log2 - 52) ≤ largestStep := two_pow_le_largestStep (by omega)
  have hcentre : (interval units).centre = 4 * units := rfl
  have hend : (interval units).high ≤ readableLimit * (4 * unitsPerOne) := by
    rw [heq, hcentre]
    omega
  refine le_of_mul_le_mul_right (hhigh.trans ?_) hone
  exact_mod_cast hend

end Doubles

/-! ### Numbers -/

namespace Number

theorem numeral_of_ne_zero {negative : Bool} {units : Nat} {representable : Representable units}
    (h : units ≠ 0) : (Number.double (.finite negative units representable)).numeral =
      (Spelling.ofDecimal (shortest .even units)).numeral negative := by
  show Spelling.numeral negative (if units = 0 then _ else _) = _
  rw [if_neg h]

theorem leading_numeral {number : Number} (h : number.IsFinite) :
    number.numeral.power ≤ 0 ∨ 0 < decimal number.numeral.whole := by
  cases number with
  | integer i => exact .inl (Int.le_refl 0)
  | double x =>
    cases x <;> cases h
    next negative units representable =>
      rcases Nat.eq_zero_or_pos units with rfl | hpos
      · exact .inl (Int.le_refl 0)
      · rw [numeral_of_ne_zero hpos.ne']
        exact Spelling.leading_ofDecimal
          (coefficient_shortest_ne_zero _ hpos representable) negative

theorem exists_number?_of_magnitude {number : Number} (h : number.IsFinite)
    (magnitude : |number.rational| ≤ readableLimit) :
    ∃ again, number.numeral.number? = some again := by
  refine Numeral.exists_number?_of_range (numeral_written h []).lt_ten ?_
  refine Numeral.isInRange_of_magnitude ?_ (leading_numeral h)
  rwa [rational_numeral h]

theorem exists_number?_of_integer {i : Int} (h : i.natAbs ≤ maxNat64) :
    ∃ again, (Number.integer i).numeral.number? = some again := by
  refine exists_number?_of_magnitude trivial ?_
  have hlimit : maxNat64 ≤ readableLimit := by decide +kernel
  show |(i : ℚ)| ≤ readableLimit
  rw [← Int.cast_abs, Int.abs_eq_natAbs]
  exact_mod_cast h.trans hlimit

theorem exists_number?_of_double {x : Binary64} (h : x.isFinite = true) :
    ∃ again, (Number.double x).numeral.number? = some again := by
  cases x <;> cases h
  next negative units representable =>
    rcases Nat.eq_zero_or_pos units with rfl | hpos
    · refine exists_number?_of_magnitude rfl ?_
      show |Numeral.sign negative * 0| ≤ (readableLimit : ℚ)
      rw [mul_zero, abs_zero]
      exact Nat.cast_nonneg _
    · rcases largest_cases representable with hsmall | ⟨k, hk, heq⟩
      · refine exists_number?_of_magnitude rfl ?_
        have hnonneg : 0 ≤ (shortest .even units).rational :=
          mul_nonneg (Nat.cast_nonneg _) (zpow_nonneg (by norm_num) _)
        show |Numeral.sign negative * if units = 0 then 0 else (shortest .even units).rational| ≤
          (readableLimit : ℚ)
        rw [if_neg hpos.ne', abs_mul, Numeral.abs_sign, one_mul, abs_of_nonneg hnonneg]
        exact rational_shortest_le hpos representable hsmall .even
      · rw [numeral_of_ne_zero hpos.ne', heq]
        exact Option.isSome_iff_exists.1 (isSome_number?_of_largest k hk negative)

end Number

theorem natAbs_le_of_integer {n : Numeral} {i : Int} (h : n.number? = some (.integer i)) :
    i.natAbs ≤ maxNat64 := by
  obtain ⟨front, left, significand, rest, hwhole, -, ⟨-, -, -, hvalue⟩ | ⟨_, _, _, -, hvalue⟩ |
    hvalue⟩ := number?_cases h
  · have hle := (accumulate_le (Nat.zero_le _) hwhole).1
    unfold integerValue at hvalue
    split at hvalue
    · split at hvalue
      · cases hvalue
      · cases hvalue
        rwa [Int.natAbs_neg, Int.natAbs_natCast]
    · cases hvalue
      rwa [Int.natAbs_natCast]
  · cases hvalue
  · cases hvalue

/-- A number that was read can be read again once it has been printed. -/
theorem exists_number?_numeral {n : Numeral} {number : Number} (h : n.number? = some number) :
    ∃ again, number.numeral.number? = some again := by
  cases number with
  | integer i => exact Number.exists_number?_of_integer (natAbs_le_of_integer h)
  | double x => exact Number.exists_number?_of_double (isFinite_of_double h)

/-! ### Values -/

namespace Tree

/-- What is printed of a value that was read can be read again. -/
theorem exists_means_ofJson {t : Tree} {x : Json} {depth : Nat} (h : t.Means depth x) :
    ∃ again, (ofJson x).Means depth again := by
  induction t generalizing depth x with
  | number n =>
    obtain ⟨number, hnumber, rfl⟩ := Option.map_eq_some_iff.1 h.2
    obtain ⟨again, hagain⟩ := exists_number?_numeral hnumber
    rw [ofJson_toJson hnumber]
    exact ⟨again.toJson, Nat.zero_le _, Option.map_eq_some_iff.2 ⟨again, hagain, rfl⟩⟩
  | array elements ih =>
    cases depth with
    | zero => exact absurd h.1 (Nat.not_succ_le_zero _)
    | succ depth =>
      obtain ⟨xs, hxs, rfl⟩ := means_array_iff.1 h
      have hall : ∀ x ∈ xs, ∃ again, (ofJson x).Means depth again := fun x hx => by
        obtain ⟨t, ht, hmeans⟩ := exists_of_forall₂_left hxs.flip hx
        exact ih t ht hmeans
      obtain ⟨again, hagain⟩ := exists_forall₂ hall
      rw [ofJson, ofElements_eq_map]
      exact ⟨_, means_array_iff.2 ⟨again, List.forall₂_map_left_iff.2 hagain, rfl⟩⟩
  | object members ih =>
    cases depth with
    | zero => exact absurd h.1 (Nat.not_succ_le_zero _)
    | succ depth =>
      obtain ⟨entries, hentries, rfl⟩ := means_object_iff.1 h
      have hall : ∀ e ∈ Members.ofList entries, ∃ e' : String × Json,
          e.1 = e'.1 ∧ (ofJson e.2).Means depth e'.2 := fun e he => by
        obtain ⟨m, hm, -, hmeans⟩ :=
          exists_of_forall₂_left hentries.flip (Members.mem_of_mem_ofList he)
        obtain ⟨again, hagain⟩ := ih m hm hmeans
        exact ⟨(e.1, again), rfl, hagain⟩
      obtain ⟨again, hagain⟩ := exists_forall₂ hall
      show ∃ y, (Tree.object (ofMembers (Members.ofList entries))).Means _ y
      rw [ofMembers_eq_map]
      exact ⟨_, means_object_iff.2 ⟨again, List.forall₂_map_left_iff.2 hagain, rfl⟩⟩
  | _ =>
    have hvalue := h.2
    cases hvalue
    exact ⟨_, h⟩

end Tree

end QuerySwarm.Json
