import QuerySwarm.Proofs.Json.Restates

/-!
# The range of the numbers that can be read

The conversion of a numeral rounds the first of its digits to a double, rounds a power of ten, and
rounds their product. Each of these steps may lead up by one part in `2^52`, and the digits that are
dropped by as much. So a numeral can be read if it is below the largest double by four such parts
(`Numeral.exists_number?_of_range`); of the numerals between, some can and some cannot.

Main statement: a document can be read if it is not nested too deep and has numbers in this range only
(`isReadable_of_range`).
-/

namespace QuerySwarm.Json

open Binary64

/-- A bound of the numbers that can always be read. -/
def readableLimit : Nat := 1797693134862314 * Nat.pow 10 293

/-! ### The digits that are taken -/

theorem decimal_lt {ds : List Nat} (h : ∀ d ∈ ds, d < 10) : decimal ds < 10 ^ ds.length := by
  induction ds with
  | nil => exact Nat.one_pos
  | cons d ds ih =>
    obtain ⟨hd, hds⟩ := List.forall_mem_cons.1 h
    have hrest := ih hds
    rw [decimal_cons, List.length_cons, Nat.pow_succ']
    calc d * 10 ^ ds.length + decimal ds < d * 10 ^ ds.length + 10 ^ ds.length :=
          Nat.add_lt_add_left hrest _
      _ = (d + 1) * 10 ^ ds.length := (Nat.succ_mul _ _).symm
      _ ≤ 10 * 10 ^ ds.length := Nat.mul_le_mul_right _ hd

/-- The digits that are taken stand for hardly more than all digits. They may be more, since the digits
of the fraction are taken also where some of the whole part are dropped. -/
theorem significand_le {whole fraction left rest : List Nat} {front significand : Nat}
    (digits : ∀ d ∈ whole ++ fraction, d < 10) (hwhole : accumulate 0 whole = (front, left))
    (hfraction : accumulate front fraction = (significand, rest)) :
    significand * 10 ^ (left.length + rest.length) * 2 ^ 52 ≤
      decimal (whole ++ fraction) * (2 ^ 52 + 1) := by
  obtain ⟨taken, rfl, hfront⟩ := accumulate_spec hwhole
  obtain ⟨taken', rfl, rfl⟩ := accumulate_spec hfraction
  rw [Nat.zero_mul, Nat.zero_add] at hfront
  obtain ⟨-, hmore⟩ := accumulate_le (Nat.zero_le _) hwhole
  have hlow : front * 10 ^ left.length * 10 ^ (taken'.length + rest.length) ≤
      decimal (taken ++ left ++ (taken' ++ rest)) := by
    rw [decimal_append, decimal_append, ← hfront, List.length_append]
    calc front * 10 ^ left.length * 10 ^ (taken'.length + rest.length)
        ≤ (front * 10 ^ left.length + decimal left) * 10 ^ (taken'.length + rest.length) :=
          Nat.mul_le_mul_right _ (Nat.le_add_right _ _)
      _ ≤ _ := Nat.le_add_right _ _
  cases left with
  | nil =>
    -- all digits are taken up to a point
    have hexact : (front * 10 ^ taken'.length + decimal taken') * 10 ^ rest.length ≤
        decimal (taken ++ [] ++ (taken' ++ rest)) := by
      rw [decimal_append, decimal_append, decimal_append, ← hfront, List.length_append, Nat.pow_add]
      have hnil : decimal [] = 0 := rfl
      rw [hnil, List.length_nil, Nat.pow_zero, Nat.mul_one, Nat.add_zero, Nat.add_mul, Nat.mul_assoc]
      omega
    rw [List.length_nil, Nat.zero_add]
    exact Nat.mul_le_mul hexact (Nat.le_succ _)
  | cons d left =>
    have hd : d < 10 := digits d (by simp)
    have hfront52 : 2 ^ 52 ≤ front := by
      have hover := hmore d left rfl
      have hmax : 10 * 2 ^ 52 + 9 ≤ maxNat64 := by decide
      omega
    have htaken : decimal taken' < 10 ^ taken'.length :=
      decimal_lt fun d hd => digits d (by simp [hd])
    calc (front * 10 ^ taken'.length + decimal taken') *
          10 ^ ((d :: left).length + rest.length) * 2 ^ 52
        ≤ ((front + 1) * 10 ^ taken'.length) * 10 ^ ((d :: left).length + rest.length) * 2 ^ 52 := by
          rw [Nat.succ_mul]
          exact Nat.mul_le_mul_right _ (Nat.mul_le_mul_right _ (Nat.add_le_add_left htaken.le _))
      _ = (front + 1) * 2 ^ 52 * (10 ^ (d :: left).length * 10 ^ (taken'.length + rest.length)) := by
          rw [Nat.pow_add, Nat.pow_add]
          ring
      _ ≤ front * (2 ^ 52 + 1) * (10 ^ (d :: left).length * 10 ^ (taken'.length + rest.length)) :=
          Nat.mul_le_mul_right _ (by omega)
      _ = front * 10 ^ (d :: left).length * 10 ^ (taken'.length + rest.length) * (2 ^ 52 + 1) := by
          ring
      _ ≤ _ := Nat.mul_le_mul_right _ hlow

/-! ### The product -/

theorem roundUnits_zero (d : Nat) : roundUnits 0 d = 0 := by
  have hzero : ∀ b, roundHalfEven 0 b = 0 := fun b => by
    unfold roundHalfEven
    rw [Nat.zero_mod, Nat.zero_div]
    rcases Nat.eq_zero_or_pos b with rfl | hpos
    · rfl
    · rw [if_pos (.inl hpos)]
  show roundHalfEven 0 _ * _ = 0
  rw [hzero, Nat.zero_mul]

theorem two_pow_le_unitsPerOne : 2 ^ 52 ≤ unitsPerOne := by decide +kernel

theorem unitsPerOne_le_roundUnits {m : Nat} (hm : 0 < m) :
    unitsPerOne ≤ roundUnits (m * unitsPerOne) 1 := by
  obtain ⟨e, he⟩ : ∃ e, unitsPerOne = 2 ^ e := ⟨1074, unitsPerOne_eq⟩
  calc unitsPerOne = 2 ^ e := he
    _ ≤ roundUnits (m * unitsPerOne) 1 := two_pow_le_roundUnits (by
      rw [Nat.div_one, ← he]
      exact Nat.le_mul_of_pos_left _ hm)

/-- A whole number is rounded up by one part in `2^52` at most. -/
theorem roundUnits_ofNat_le {m : Nat} (hm : 0 < m) :
    roundUnits (m * unitsPerOne) 1 * 2 ^ 52 ≤ m * unitsPerOne * (2 ^ 52 + 1) := by
  have hlarge : 2 ^ 52 ≤ m * unitsPerOne / 1 := by
    rw [Nat.div_one]
    exact Nat.le_trans two_pow_le_unitsPerOne (Nat.le_mul_of_pos_left _ hm)
  have hle := roundUnits_mul_le hlarge
  rwa [Nat.mul_one] at hle

/-- The product of a number and a power of ten, both rounded, is not too large. -/
theorem roundUnits_product_lt {n k : Nat}
    (bound : n * 10 ^ k * 2 ^ 52 ≤ readableLimit * (2 ^ 52 + 1)) :
    roundUnits (roundUnits (n * unitsPerOne) 1 * roundUnits (10 ^ k * unitsPerOne) 1) unitsPerOne <
      Nat.pow 2 2098 := by
  have hlimit : readableLimit * (2 ^ 52 + 1) ^ 4 * unitsPerOne < Nat.pow 2 2098 * (2 ^ 52) ^ 4 := by
    decide +kernel
  have hone := unitsPerOne_pos
  rcases Nat.eq_zero_or_pos n with rfl | hn
  · have hpos : ∀ e, 0 < Nat.pow 2 e := Nat.two_pow_pos
    rw [Nat.zero_mul, roundUnits_zero, Nat.zero_mul, roundUnits_zero]
    exact hpos 2098
  · have hk : 0 < 10 ^ k := Nat.pow_pos (by decide)
    have hx := roundUnits_ofNat_le hn
    have hy := roundUnits_ofNat_le hk
    have hquotient : 2 ^ 52 ≤ roundUnits (n * unitsPerOne) 1 * roundUnits (10 ^ k * unitsPerOne) 1 /
        unitsPerOne := by
      rw [Nat.le_div_iff_mul_le hone]
      exact Nat.mul_le_mul (Nat.le_trans two_pow_le_unitsPerOne (unitsPerOne_le_roundUnits hn))
        (unitsPerOne_le_roundUnits hk)
    have hz := roundUnits_mul_le hquotient
    generalize roundUnits (n * unitsPerOne) 1 = x, roundUnits (10 ^ k * unitsPerOne) 1 = y
      at hx hy hz ⊢
    generalize roundUnits (x * y) unitsPerOne = z at hz ⊢
    generalize Nat.pow 2 2098 = limit at hlimit ⊢
    generalize unitsPerOne = one at *
    generalize 2 ^ 52 = whole at *
    -- four parts in whole: the digits that were dropped, and the three roundings
    refine Nat.lt_of_mul_lt_mul_right (a := whole ^ 4 * one) ?_
    calc z * (whole ^ 4 * one) = z * one * whole * whole ^ 3 := by ring
      _ ≤ x * y * (whole + 1) * whole ^ 3 := Nat.mul_le_mul_right _ hz
      _ = x * whole * (y * whole) * ((whole + 1) * whole) := by ring
      _ ≤ n * one * (whole + 1) * (10 ^ k * one * (whole + 1)) * ((whole + 1) * whole) :=
          Nat.mul_le_mul_right _ (Nat.mul_le_mul hx hy)
      _ = n * 10 ^ k * whole * (one * one * (whole + 1) ^ 3) := by ring
      _ ≤ readableLimit * (whole + 1) * (one * one * (whole + 1) ^ 3) := Nat.mul_le_mul_right _ bound
      _ = readableLimit * (whole + 1) ^ 4 * one * one := by ring
      _ < limit * whole ^ 4 * one := Nat.mul_lt_mul_of_pos_right hlimit hone
      _ = limit * (whole ^ 4 * one) := by ring

/-! ### The conversion -/

theorem isInfinite_mul {x y : Binary64} (hx : x.isFinite = true) (hy : y.isFinite = true)
    (h : roundUnits (x.magnitude * y.magnitude) unitsPerOne < Nat.pow 2 2098) :
    (x * y).isInfinite = false := by
  cases x <;> cases hx
  cases y <;> cases hy
  next n units _ m units' _ =>
    change (mul _ _).isInfinite = false
    simp only [mul]
    have hfinite := (round_eq_finite (n != m) h).1
    change (Binary64.round (n != m) (units * units') unitsPerOne).isFinite = true at hfinite
    cases hround : Binary64.round (n != m) (units * units') unitsPerOne with
    | finite => rfl
    | _ =>
      rw [hround] at hfinite
      cases hfinite

/-- A number that is scaled down is never too large. -/
theorem scale?_of_neg (x : Binary64) {exponent : Int} (h : exponent < 0) (fuel : Nat) :
    ∃ y, scale? x exponent fuel = some y := by
  induction fuel generalizing x exponent with
  | zero => exact ⟨x, rfl⟩
  | succ fuel ih =>
    unfold scale?
    dsimp only
    split
    · rw [if_neg (by omega)]
      exact ⟨_, rfl⟩
    · split
      · exact ⟨_, rfl⟩
      · rw [if_neg (by omega)]
        exact ih _ (by omega)

theorem scale?_ofNat {n : Nat} (hn : n ≤ maxNat64) {exponent : Int}
    (bound : (n : ℚ) * 10 ^ exponent * 2 ^ 52 ≤ readableLimit * (2 ^ 52 + 1)) (fuel : Nat) :
    ∃ y, scale? (ofNat n) exponent fuel = some y := by
  rcases lt_or_ge exponent 0 with hneg | hnonneg
  · exact scale?_of_neg _ hneg fuel
  · obtain ⟨k, rfl⟩ := Int.eq_ofNat_of_zero_le hnonneg
    have hbound : n * 10 ^ k * 2 ^ 52 ≤ readableLimit * (2 ^ 52 + 1) := by
      rw [zpow_natCast] at bound
      exact_mod_cast bound
    cases fuel with
    | zero => exact ⟨_, rfl⟩
    | succ fuel =>
      unfold scale?
      dsimp only
      split
      · next hsmall =>
        obtain ⟨hx, hxunits, -⟩ := ofNat_isFinite hn
        obtain ⟨hy, hyunits, -⟩ := power_isFinite hsmall
        have hproduct := roundUnits_product_lt hbound
        rw [← hxunits, ← Int.natAbs_natCast k, ← hyunits] at hproduct
        rw [isInfinite_mul hx hy hproduct]
        exact ⟨_, rfl⟩
      · next hlarge =>
        -- only zero is in range with so large a power of ten
        rw [Int.natAbs_natCast, Nat.not_le] at hlarge
        have hzero : n = 0 := by
          by_contra hne
          have hlimit : readableLimit * (2 ^ 52 + 1) < 10 ^ 309 * 2 ^ 52 := by decide +kernel
          have hpower : ∀ j, j ≤ k → 10 ^ j * 2 ^ 52 ≤ n * 10 ^ k * 2 ^ 52 := fun j hj =>
            Nat.mul_le_mul_right _ (Nat.le_trans (Nat.pow_le_pow_right (by decide) hj)
              (Nat.le_mul_of_pos_left _ (Nat.pos_of_ne_zero hne)))
          exact absurd (Nat.lt_of_lt_of_le hlimit (hpower 309 hlarge)) (Nat.not_lt.2 hbound)
        have hisZero : (ofNat 0).isZero = true := by decide +kernel
        rw [hzero, hisZero]
        exact ⟨_, rfl⟩

/-! ### Numerals in range -/

theorem exponentValue_eq {n e : Nat} {ds : List Nat} (h : exponentValue n ds = (e, none)) :
    e = n * 10 ^ ds.length + decimal ds := by
  induction ds generalizing n with
  | nil =>
    cases h
    exact (Nat.mul_one e).symm
  | cons d ds ih =>
    unfold exponentValue at h
    split at h
    · cases h
    · rw [ih h, decimal_next]

theorem exponentValue_of_lt {n : Nat} {ds : List Nat}
    (h : n * 10 ^ ds.length + decimal ds < Nat.pow 2 31) : ∃ e, exponentValue n ds = (e, none) := by
  induction ds generalizing n with
  | nil => exact ⟨n, rfl⟩
  | cons d ds ih =>
    rw [decimal_next] at h
    have hle : n * 10 + d ≤ (n * 10 + d) * 10 ^ ds.length :=
      Nat.le_mul_of_pos_right _ (Nat.pow_pos (by decide))
    unfold exponentValue
    rw [if_neg (by omega)]
    exact ih h

namespace Numeral

/-- A numeral in range: not above the bound, and with an exponent that 31 bits hold. -/
structure IsInRange (n : Numeral) : Prop where
  magnitude : |n.rational| ≤ readableLimit
  exponent : n.power < Nat.pow 2 31

theorem abs_sign (negative : Bool) : |sign negative| = 1 := by
  cases negative <;> simp [sign]

theorem abs_rational (n : Numeral) : |n.rational| =
    decimal (n.whole ++ n.fraction.getD []) * 10 ^ (n.power - (n.fraction.getD []).length) := by
  have hpower : (0 : ℚ) ≤ 10 ^ (n.power - (n.fraction.getD []).length) := zpow_nonneg (by norm_num) _
  rw [rational, abs_mul, abs_mul, abs_sign, one_mul, Nat.abs_cast, abs_of_nonneg hpower]

/-- The digits that are taken of a numeral in range, scaled, are in range. -/
theorem scaled_le {n : Numeral} (digits : ∀ d ∈ n.whole ++ n.fraction.getD [], d < 10)
    (h : n.IsInRange) {front significand : Nat} {left rest : List Nat}
    (hwhole : accumulate 0 n.whole = (front, left))
    (hfraction : accumulate front (n.fraction.getD []) = (significand, rest)) :
    (significand : ℚ) * 10 ^ ((left.length : ℤ) - ((n.fraction.getD []).length - rest.length : Nat) +
      n.power) * 2 ^ 52 ≤ readableLimit * (2 ^ 52 + 1) := by
  have hle := h.magnitude
  rw [abs_rational] at hle
  obtain ⟨taken, htaken, -⟩ := accumulate_spec hfraction
  have hexponent : (left.length : ℤ) - ((n.fraction.getD []).length - rest.length : Nat) + n.power =
      (left.length + rest.length : Nat) + (n.power - (n.fraction.getD []).length) := by
    have hlength : (n.fraction.getD []).length = taken.length + rest.length := by
      rw [htaken, List.length_append]
    omega
  have htop := significand_le digits hwhole hfraction
  generalize n.power - ((n.fraction.getD []).length : ℤ) = e at *
  generalize decimal (n.whole ++ n.fraction.getD []) = whole at *
  have hcast : (significand : ℚ) * 10 ^ (left.length + rest.length) * 2 ^ 52 ≤
      whole * (2 ^ 52 + 1) := by
    exact_mod_cast htop
  have hpower : (0 : ℚ) ≤ 10 ^ e := zpow_nonneg (by norm_num) e
  rw [hexponent, zpow_add₀ (by norm_num), zpow_natCast]
  calc (significand : ℚ) * (10 ^ (left.length + rest.length) * 10 ^ e) * 2 ^ 52
      = significand * 10 ^ (left.length + rest.length) * 2 ^ 52 * 10 ^ e := by ring
    _ ≤ (whole : ℚ) * (2 ^ 52 + 1) * 10 ^ e := mul_le_mul_of_nonneg_right hcast hpower
    _ = whole * 10 ^ e * (2 ^ 52 + 1) := by ring
    _ ≤ readableLimit * (2 ^ 52 + 1) := mul_le_mul_of_nonneg_right hle (by norm_num)

/-- A numeral in range can be read. -/
theorem exists_number?_of_range {n : Numeral} (digits : ∀ d ∈ n.whole ++ n.fraction.getD [], d < 10)
    (h : n.IsInRange) : ∃ value, n.number? = some value := by
  suffices hvalue : ∃ value, n.value = .number value by
    obtain ⟨value, hvalue⟩ := hvalue
    exact ⟨value, by rw [number?, hvalue]⟩
  unfold value
  cases hwhole : accumulate 0 n.whole with
  | mk front left =>
    cases hfraction : accumulate front (n.fraction.getD []) with
    | mk significand rest =>
      have hsignificand :=
        (accumulate_le (accumulate_le (Nat.zero_le _) hwhole).1 hfraction).1
      have hbound := scaled_le digits h hwhole hfraction
      have hscale := scale?_ofNat hsignificand hbound
      have hpower := h.exponent
      unfold power at hscale hpower
      simp only [hfraction]
      split
      · next hnone =>
        rw [hnone] at hscale
        simp only [add_zero] at hscale
        split
        · exact ⟨_, rfl⟩
        · obtain ⟨y, hy⟩ := hscale _
          rw [hy]
          exact ⟨_, rfl⟩
      · next negative ds hsome =>
        rw [hsome] at hscale hpower
        dsimp only at hscale hpower
        split
        · next unread hunread =>
          cases negative with
          | true =>
            rw [if_neg (by simp)]
            exact ⟨_, rfl⟩
          | false =>
            have hfits : 0 * 10 ^ ds.length + decimal ds < Nat.pow 2 31 := by
              rw [Nat.zero_mul, Nat.zero_add]
              rw [if_neg Bool.false_ne_true] at hpower
              exact_mod_cast hpower
            obtain ⟨e, heq⟩ := exponentValue_of_lt hfits
            rw [heq] at hunread
            cases hunread
        · next e heq =>
          rw [exponentValue_eq heq, Nat.zero_mul, Nat.zero_add]
          obtain ⟨y, hy⟩ := hscale _
          rw [hy]
          exact ⟨_, rfl⟩

end Numeral

/-! ### Documents -/

theorem Digits.lt_ten {ds : List Nat} {before after : Bytes} (h : Digits ds before after) :
    ∀ d ∈ ds, d < 10 := by
  obtain ⟨bytes, hdigits, -, rfl⟩ := h
  intro d hd
  obtain ⟨b, hb, rfl⟩ := List.mem_map.1 hd
  have hrange := of_decide_eq_true (hdigits b hb)
  unfold digitOf
  omega

theorem Numeral.Written.lt_ten {n : Numeral} {before after : Bytes} (h : n.Written before after) :
    ∀ d ∈ n.whole ++ n.fraction.getD [], d < 10 := by
  obtain ⟨start, fraction, exponent, hwhole, hfraction, -⟩ : ∃ start, n.Unsigned start after := by
    unfold Numeral.Written at h
    split at h
    · obtain ⟨mid, -, hunsigned⟩ := h
      exact ⟨mid, hunsigned⟩
    · exact ⟨before, h⟩
  intro d hd
  rcases List.mem_append.1 hd with hd | hd
  · exact hwhole.1.lt_ten d hd
  · cases hn : n.fraction with
    | none =>
      rw [hn] at hd
      cases hd
    | some ds =>
      rw [hn] at hd hfraction
      obtain ⟨mid, -, -, hdigits⟩ := hfraction
      exact hdigits.lt_ten d hd

/-- Every numeral of a tree is written where the tree is. -/
theorem Written.exists_numeral {spells : String → Rule} {t : Tree} {before after : Bytes}
    (h : Written spells t before after) {n : Numeral} (hn : n ∈ t.numerals) :
    ∃ start stop, n.Written start stop := by
  induction t generalizing before after with
  | number n' =>
    obtain rfl := List.mem_singleton.1 hn
    exact ⟨before, after, h⟩
  | array elements ih =>
    obtain ⟨t, ht, hn⟩ := Tree.mem_numeralsOfElements_iff.1 hn
    obtain ⟨mid, -, hlisted⟩ := h
    rw [elementRules_eq_map] at hlisted
    obtain ⟨start, stop, hwritten⟩ := hlisted.exists_item (List.mem_map_of_mem ht)
    exact ih t ht hwritten hn
  | object members ih =>
    obtain ⟨m, hm, hn⟩ := Tree.mem_numeralsOfMembers_iff.1 hn
    obtain ⟨mid, -, hlisted⟩ := h
    rw [memberRules_eq_map] at hlisted
    obtain ⟨_, stop, _, _, start, -, -, -, hwritten⟩ := hlisted.exists_item (List.mem_map_of_mem hm)
    exact ih m hm hwritten hn
  | _ => cases hn

/-- A document with numbers in range, not nested too deep, can be read. -/
theorem isReadable_of_range {t : Tree} {text : Bytes} (document : IsDocument t text)
    (nesting : t.nesting ≤ maxDepth) (h : ∀ n ∈ t.numerals, n.IsInRange) : t.IsReadable := by
  obtain ⟨start, stop, -, hwritten, -⟩ := document
  obtain ⟨x, hx⟩ := Tree.exists_value? fun n hn => by
    obtain ⟨start, stop, hnumeral⟩ := hwritten.exists_numeral hn
    exact Numeral.exists_number?_of_range hnumeral.lt_ten (h n hn)
  exact ⟨x, nesting, hx⟩

end QuerySwarm.Json
