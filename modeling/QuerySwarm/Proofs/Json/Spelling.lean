import QuerySwarm.Proofs.Json.Numbers

/-!
# How numbers are written

A number that is written is spelled by the characters of its whole part, its fraction and its exponent
(`Spelling`). An integer is spelled by its digits, and a double by its shortest decimal, with the
point among the digits or with an exponent.

* `Spelling.written`: what is spelled well is a numeral.
* `Spelling.rational_ofDecimal`: the layouts of a decimal do not change the number it stands for.
* `Number.numeral_written`, `Number.rational_numeral`: which numeral a number is written as.
-/

namespace QuerySwarm.Json

/-- The parts of a number without its sign, by their characters. -/
structure Spelling where
  whole : List Char
  fraction : Option (List Char)
  /-- Whether the exponent is negative, and its digits. -/
  exponent : Option (Bool × List Char)

namespace Spelling

def fractionText : Option (List Char) → List Char
  | none => []
  | some ds => '.' :: ds

def exponentText : Option (Bool × List Char) → List Char
  | none => []
  | some (negative, ds) => 'e' :: (if negative then '-' else '+') :: ds

def text (s : Spelling) : List Char :=
  s.whole ++ fractionText s.fraction ++ exponentText s.exponent

def numeral (negative : Bool) (s : Spelling) : Numeral :=
  ⟨negative, digitValues s.whole, s.fraction.map digitValues,
    s.exponent.map fun e => (e.1, digitValues e.2)⟩

/-! ### Spelled well -/

def AreDigits (ds : List Char) : Prop := ∀ char ∈ ds, char.isDigit = true

/-- A whole part does not begin with a zero, but for zero. -/
structure IsWellFormed (s : Spelling) : Prop where
  whole : AreDigits s.whole
  leading : s.whole = ['0'] ∨ ∃ char rest, s.whole = char :: rest ∧ char ≠ '0'
  fraction : ∀ ds ∈ s.fraction, ds ≠ [] ∧ AreDigits ds
  exponent : ∀ e ∈ s.exponent, e.2 ≠ [] ∧ AreDigits e.2

theorem digits_digitValues {ds : List Char} (h : AreDigits ds) (after : Bytes) :
    Digits (digitValues ds) (Utf8.encode ds ++ after) after := by
  obtain ⟨hall, hvalues⟩ := encode_digits h
  exact ⟨Utf8.encode ds, hall, rfl, hvalues.symm⟩

/-- A digit other than zero stands for more than zero. -/
theorem digitValue_pos {char : Char} (hdigit : char.isDigit = true) (hne : char ≠ '0') :
    0 < char.toNat - '0'.toNat := by
  have hlow : '0'.toNat ≤ char.toNat := by
    simp only [Char.isDigit, Bool.and_eq_true, decide_eq_true_eq, ge_iff_le,
      UInt32.le_iff_toNat_le] at hdigit
    exact hdigit.1
  have hchar : char.toNat ≠ '0'.toNat := mt Char.toNat_inj.1 hne
  omega

theorem digitValues_ne_nil {ds : List Char} (h : ds ≠ []) : digitValues ds ≠ [] :=
  mt List.map_eq_nil_iff.1 h

variable {s : Spelling}

theorem IsWellFormed.whole_written (h : s.IsWellFormed) (after : Bytes) :
    Whole (digitValues s.whole) (Utf8.encode s.whole ++ after) after := by
  refine ⟨digits_digitValues h.whole after, ?_⟩
  rcases h.leading with hzero | ⟨char, rest, heq, hne⟩
  · left
    rw [hzero]
    rfl
  · right
    have hdigit := h.whole char (by rw [heq]; exact List.mem_cons_self)
    exact ⟨char.toNat - '0'.toNat, digitValues rest, by rw [heq]; rfl,
      (digitValue_pos hdigit hne).ne'⟩

theorem IsWellFormed.fraction_written (h : s.IsWellFormed) (after : Bytes) :
    Fraction (s.fraction.map digitValues) (Utf8.encode (fractionText s.fraction) ++ after) after := by
  cases hfraction : s.fraction with
  | none => rfl
  | some ds =>
    obtain ⟨hne, hdigits⟩ := h.fraction ds hfraction
    exact ⟨_, rfl, digitValues_ne_nil hne, digits_digitValues hdigits after⟩

theorem IsWellFormed.exponent_written (h : s.IsWellFormed) (after : Bytes) :
    Exponent (s.exponent.map fun e => (e.1, digitValues e.2))
      (Utf8.encode (exponentText s.exponent) ++ after) after := by
  cases hexponent : s.exponent with
  | none => rfl
  | some e =>
    obtain ⟨negative, ds⟩ := e
    obtain ⟨hne, hdigits⟩ := h.exponent _ hexponent
    have hsign : ExponentSign negative
        (Utf8.encode ((if negative then '-' else '+') :: ds) ++ after) (Utf8.encode ds ++ after) := by
      cases negative
      · exact .inl rfl
      · rfl
    exact ⟨_, _, _, rfl, .inl rfl, hsign, digitValues_ne_nil hne, digits_digitValues hdigits after⟩

/-- What is spelled well is a numeral. -/
theorem IsWellFormed.written (h : s.IsWellFormed) (negative : Bool) (after : Bytes) :
    (s.numeral negative).Written
      (Utf8.encode ((if negative then ['-'] else []) ++ s.text) ++ after) after := by
  have hunsigned : (s.numeral negative).Unsigned (Utf8.encode s.text ++ after) after := by
    unfold text
    rw [Utf8.encode_append, Utf8.encode_append, List.append_assoc, List.append_assoc]
    exact ⟨_, _, h.whole_written _, h.fraction_written _, h.exponent_written after⟩
  cases negative
  · exact hunsigned
  · exact ⟨_, rfl, hunsigned⟩

/-! ### Integers -/

theorem areDigits_digitsOf (n : Nat) : AreDigits (digitsOf n) := fun _ h =>
  Nat.isDigit_of_mem_toDigits (by decide) (by decide) h

/-- A number is spelled without a zero at its head, but for zero. -/
theorem leading_digitsOf (n : Nat) :
    digitsOf n = ['0'] ∨ ∃ char rest, digitsOf n = char :: rest ∧ char ≠ '0' := by
  by_cases hzero : n = 0
  · left
    rw [hzero]
    rfl
  · exact .inr (exists_digitsOf_cons hzero)

def ofNat (n : Nat) : Spelling := ⟨digitsOf n, none, none⟩

theorem ofNat_isWellFormed (n : Nat) : (ofNat n).IsWellFormed where
  whole := areDigits_digitsOf n
  leading := leading_digitsOf n
  fraction := by rintro ds ⟨⟩
  exponent := by rintro e ⟨⟩

theorem rational_ofNat (negative : Bool) (n : Nat) :
    ((ofNat n).numeral negative).rational = Numeral.sign negative * n := by
  have hvalue : decimal (digitValues (digitsOf n) ++ []) = n := by
    rw [List.append_nil, decimal_digitsOf]
  show Numeral.sign negative * decimal (digitValues (digitsOf n) ++ []) * 10 ^ ((0 : ℤ) - 0) = _
  rw [hvalue, sub_zero, zpow_zero, mul_one]

/-! ### Decimals -/

section Layouts

variable {ds : List Char}

/-- The digits with the point at a place among them, before them or after them. -/
def ofPoint (ds : List Char) (point : Int) : Spelling :=
  if point ≤ 0 then ⟨['0'], some (List.replicate (-point).toNat '0' ++ ds), none⟩
  else if ds.length ≤ point.toNat then
    ⟨ds ++ List.replicate (point.toNat - ds.length) '0', some ['0'], none⟩
  else ⟨ds.take point.toNat, some (ds.drop point.toNat), none⟩

/-- The digits with the point after the first of them, and an exponent. -/
def ofExponent (ds : List Char) (exponent : Int) : Spelling :=
  ⟨ds.take 1, if ds.drop 1 = [] then none else some (ds.drop 1),
    some (decide (exponent < 0), digitsOf exponent.natAbs)⟩

theorem text_ofPoint (ds : List Char) (point : Int) :
    (ofPoint ds point).text = Binary64.positional ds point ['.', '0'] := by
  unfold ofPoint Binary64.positional
  split
  · simp [text, fractionText, exponentText]
  · split
    · simp [text, fractionText, exponentText]
    · simp [text, fractionText, exponentText]

theorem text_ofExponent (hne : ds ≠ []) (exponent : Int) :
    (ofExponent ds exponent).text = Binary64.scientific ds exponent ['+'] := by
  obtain ⟨d, rest, rfl⟩ := List.exists_cons_of_ne_nil hne
  unfold ofExponent Binary64.scientific
  cases rest with
  | nil => by_cases hneg : exponent < 0 <;> simp [text, fractionText, exponentText, hneg]
  | cons d' rest => by_cases hneg : exponent < 0 <;> simp [text, fractionText, exponentText, hneg]

theorem areDigits_append {ds ds' : List Char} (h : AreDigits ds) (h' : AreDigits ds') :
    AreDigits (ds ++ ds') :=
  List.forall_mem_append.2 ⟨h, h'⟩

theorem areDigits_zeros (k : Nat) : AreDigits (List.replicate k '0') := fun char h => by
  rw [List.eq_of_mem_replicate h]
  rfl

/-- What begins with another digit than zero does so however much of it is taken, or put after it. -/
theorem leading_of_take {char : Char} {rest : List Char} (hchar : char ≠ '0') {k : Nat} (hk : 0 < k)
    (more : List Char) :
    ∃ char' rest', ((char :: rest).take k ++ more) = char' :: rest' ∧ char' ≠ '0' := by
  obtain ⟨k, rfl⟩ := Nat.exists_eq_add_of_lt hk
  exact ⟨char, _, rfl, hchar⟩

theorem ofPoint_isWellFormed (hdigits : AreDigits ds)
    (hleading : ∃ char rest, ds = char :: rest ∧ char ≠ '0') (point : Int) :
    (ofPoint ds point).IsWellFormed := by
  obtain ⟨char, rest, rfl, hchar⟩ := hleading
  have hzero : AreDigits ['0'] := by
    intro c hc
    rw [List.mem_singleton.1 hc]
    rfl
  unfold ofPoint
  split
  · refine ⟨hzero, .inl rfl, ?_, by rintro e ⟨⟩⟩
    rintro _ ⟨⟩
    exact ⟨by simp, areDigits_append (areDigits_zeros _) hdigits⟩
  · next hpoint =>
    split
    · refine ⟨areDigits_append hdigits (areDigits_zeros _), .inr ⟨char, _, rfl, hchar⟩, ?_,
        by rintro e ⟨⟩⟩
      rintro _ ⟨⟩
      exact ⟨by decide, hzero⟩
    · next hlength =>
      refine ⟨fun c hc => hdigits c (List.mem_of_mem_take hc), ?_, ?_, by rintro e ⟨⟩⟩
      · rw [← List.append_nil ((char :: rest).take point.toNat)]
        exact .inr (leading_of_take hchar (by omega) [])
      · rintro _ ⟨⟩
        refine ⟨?_, fun c hc => hdigits c (List.mem_of_mem_drop hc)⟩
        rw [ne_eq, List.drop_eq_nil_iff]
        exact hlength

theorem ofExponent_isWellFormed (hdigits : AreDigits ds)
    (hleading : ∃ char rest, ds = char :: rest ∧ char ≠ '0') (exponent : Int) :
    (ofExponent ds exponent).IsWellFormed := by
  obtain ⟨char, rest, rfl, hchar⟩ := hleading
  refine ⟨fun c hc => hdigits c (List.mem_of_mem_take hc), .inr ⟨char, [], rfl, hchar⟩, ?_, ?_⟩
  · intro ds hds
    unfold ofExponent at hds
    dsimp only at hds
    split at hds
    · cases hds
    · next hne =>
      cases hds
      exact ⟨hne, fun c hc => hdigits c (List.mem_of_mem_drop hc)⟩
  · rintro _ ⟨⟩
    exact ⟨Nat.toDigits_ne_nil, areDigits_digitsOf _⟩

/-! ### What a layout stands for -/

theorem digitValues_append (ds ds' : List Char) :
    digitValues (ds ++ ds') = digitValues ds ++ digitValues ds' := List.map_append

theorem digitValues_zeros (k : Nat) : digitValues (List.replicate k '0') = List.replicate k 0 :=
  List.map_replicate

theorem decimal_append_zeros (ds : List Char) (k : Nat) :
    decimal (digitValues (ds ++ List.replicate k '0')) = decimal (digitValues ds) * 10 ^ k := by
  rw [digitValues_append, digitValues_zeros, decimal_append, decimal_zeros, List.length_replicate,
    Nat.add_zero]

theorem decimal_zeros_append (k : Nat) (ds : List Char) :
    decimal (digitValues (List.replicate k '0' ++ ds)) = decimal (digitValues ds) := by
  rw [digitValues_append, digitValues_zeros, decimal_append, decimal_zeros, Nat.zero_mul,
    Nat.zero_add]

/-- The point moves over the digits of the fraction. -/
theorem rational_numeral (negative : Bool) (s : Spelling) :
    (s.numeral negative).rational =
      Numeral.sign negative * decimal (digitValues (s.whole ++ s.fraction.getD [])) *
        10 ^ ((s.numeral negative).power - (s.fraction.getD []).length) := by
  obtain ⟨whole, fraction, exponent⟩ := s
  rw [digitValues_append]
  cases fraction with
  | none => rfl
  | some ds =>
    have hlength : (digitValues ds).length = ds.length := List.length_map _
    unfold Numeral.rational numeral
    simp only [Option.map_some, Option.getD_some, hlength]

theorem rational_ofPoint (negative : Bool) (ds : List Char) (point : Int) :
    ((ofPoint ds point).numeral negative).rational =
      Numeral.sign negative * decimal (digitValues ds) * 10 ^ (point - ds.length) := by
  rw [rational_numeral]
  unfold ofPoint
  -- the point is before the digits, behind them, or among them
  split
  · next hpoint =>
    have hdigits : ['0'] ++ (List.replicate (-point).toNat '0' ++ ds) =
        List.replicate ((-point).toNat + 1) '0' ++ ds := rfl
    have hpower : (0 : ℤ) - (List.replicate (-point).toNat '0' ++ ds).length = point - ds.length := by
      rw [List.length_append, List.length_replicate]
      omega
    show _ * (decimal (digitValues (['0'] ++ (List.replicate (-point).toNat '0' ++ ds))) : ℚ) *
      10 ^ ((0 : ℤ) - (List.replicate (-point).toNat '0' ++ ds).length) = _
    rw [hdigits, decimal_zeros_append, hpower]
  · next hpoint =>
    split
    · next hlength =>
      obtain ⟨k, hk⟩ := Nat.exists_eq_add_of_le hlength
      have hdigits : ds ++ List.replicate (point.toNat - ds.length) '0' ++ ['0'] =
          ds ++ List.replicate (k + 1) '0' := by
        rw [List.append_assoc, List.replicate_succ', show point.toNat - ds.length = k by omega]
      have hpower : point - ds.length = k := by omega
      show _ * (decimal (digitValues
        (ds ++ List.replicate (point.toNat - ds.length) '0' ++ ['0'])) : ℚ) * 10 ^ ((0 : ℤ) - 1) = _
      rw [hdigits, decimal_append_zeros, hpower, zpow_natCast]
      push_cast
      ring
    · next hlength =>
      have hpower : (0 : ℤ) - (ds.drop point.toNat).length = point - ds.length := by
        rw [List.length_drop]
        omega
      show _ * (decimal (digitValues (ds.take point.toNat ++ ds.drop point.toNat)) : ℚ) *
        10 ^ ((0 : ℤ) - (ds.drop point.toNat).length) = _
      rw [List.take_append_drop, hpower]

theorem rational_ofExponent (negative : Bool) (ds : List Char) (exponent : Int) :
    ((ofExponent ds exponent).numeral negative).rational =
      Numeral.sign negative * decimal (digitValues ds) * 10 ^ (exponent - (ds.length - 1 : Nat)) := by
  have hfraction : (ofExponent ds exponent).fraction.getD [] = ds.drop 1 := by
    unfold ofExponent
    split
    · next hnil => exact hnil.symm
    · rfl
  have hpower : ((ofExponent ds exponent).numeral negative).power = exponent := by
    show (if decide (exponent < 0) then -(decimal (digitValues (digitsOf exponent.natAbs)) : ℤ)
      else decimal (digitValues (digitsOf exponent.natAbs))) = exponent
    rw [decimal_digitsOf]
    split
    · next hneg =>
      have hneg := of_decide_eq_true hneg
      omega
    · next hneg =>
      have hneg := of_decide_eq_false (Bool.eq_false_iff.2 hneg)
      omega
  rw [rational_numeral, hfraction, hpower, List.length_drop]
  show _ * (decimal (digitValues (ds.take 1 ++ ds.drop 1)) : ℚ) * _ = _
  rw [List.take_append_drop]

end Layouts

/-- The spelling of a positive decimal: positional for decimal exponents from -5 to 15. -/
def ofDecimal (d : Binary64.Decimal) : Spelling :=
  let ds := digitsOf d.coefficient
  let point := (ds.length : Int) + d.exponent
  if -5 ≤ point - 1 ∧ point - 1 ≤ 15 then ofPoint ds point else ofExponent ds (point - 1)

theorem text_ofDecimal (d : Binary64.Decimal) :
    (ofDecimal d).text = Binary64.jsonLayout.positive d := by
  unfold ofDecimal Binary64.Layout.positive Binary64.jsonLayout
  dsimp only
  split
  · exact text_ofPoint _ _
  · exact text_ofExponent Nat.toDigits_ne_nil _

theorem ofDecimal_isWellFormed {d : Binary64.Decimal} (h : d.coefficient ≠ 0) :
    (ofDecimal d).IsWellFormed := by
  unfold ofDecimal
  dsimp only
  split
  · exact ofPoint_isWellFormed (areDigits_digitsOf _) (exists_digitsOf_cons h) _
  · exact ofExponent_isWellFormed (areDigits_digitsOf _) (exists_digitsOf_cons h) _

/-- How a decimal is laid out does not change the number that it stands for. -/
theorem rational_ofDecimal (negative : Bool) (d : Binary64.Decimal) :
    ((ofDecimal d).numeral negative).rational = Numeral.sign negative * d.rational := by
  have hpos : 0 < (digitsOf d.coefficient).length :=
    List.length_pos_of_ne_nil Nat.toDigits_ne_nil
  unfold ofDecimal Binary64.Decimal.rational
  dsimp only
  split
  · rw [rational_ofPoint, decimal_digitsOf, add_sub_cancel_left, mul_assoc]
  · have hpower : ((digitsOf d.coefficient).length : ℤ) + d.exponent - 1 -
        ((digitsOf d.coefficient).length - 1 : Nat) = d.exponent := by omega
    rw [rational_ofExponent, decimal_digitsOf, hpower, mul_assoc]

end Spelling

/-! ### Numbers -/

/-- The number that is printed for a double: its shortest decimal. -/
def printed : Binary64 → ℚ
  | .finite negative units _ =>
    Numeral.sign negative * if units = 0 then 0 else (Binary64.shortest .even units).rational
  | _ => 0

namespace Number

/-- Whether a number can be printed. -/
def IsFinite : Number → Prop
  | .integer _ => True
  | .double x => x.isFinite = true

def text : Number → List Char
  | .integer i => (intText i).toList
  | .double x => Binary64.jsonLayout.write x

/-- The numeral that a number is printed as. -/
def numeral : Number → Numeral
  | .integer i => (Spelling.ofNat i.natAbs).numeral (decide (i < 0))
  | .double (.finite negative units _) =>
    (if units = 0 then ⟨['0'], some ['0'], none⟩
      else Spelling.ofDecimal (Binary64.shortest .even units)).numeral negative
  | .double _ => (Spelling.ofNat 0).numeral false

/-- The number that is printed. -/
def rational : Number → ℚ
  | .integer i => i
  | .double x => printed x

theorem decide_ofNat_lt_zero (n : Nat) : decide (Int.ofNat n < 0) = false :=
  decide_eq_false (Int.not_lt.2 (Int.natCast_nonneg n))

theorem decide_negSucc_lt_zero (n : Nat) : decide (Int.negSucc n < 0) = true :=
  decide_eq_true (Int.negSucc_lt_zero n)

theorem rational_numeral {number : Number} (h : number.IsFinite) :
    number.numeral.rational = number.rational := by
  cases number with
  | integer i =>
    show ((Spelling.ofNat i.natAbs).numeral (decide (i < 0))).rational = i
    rw [Spelling.rational_ofNat]
    cases i with
    | ofNat n =>
      rw [decide_ofNat_lt_zero]
      show (1 : ℚ) * (n : ℚ) = ((n : ℤ) : ℚ)
      rw [one_mul, Int.cast_natCast]
    | negSucc n =>
      rw [decide_negSucc_lt_zero]
      show (-1 : ℚ) * ((n + 1 : Nat) : ℚ) = (Int.negSucc n : ℚ)
      rw [Int.cast_negSucc, neg_one_mul]
  | double x =>
    cases x <;> cases h
    next negative units _ =>
      show (Spelling.numeral negative (if units = 0 then ⟨['0'], some ['0'], none⟩
        else .ofDecimal (Binary64.shortest .even units))).rational = Numeral.sign negative * _
      split
      · have hzero : decimal (digitValues ['0'] ++ digitValues ['0']) = 0 := rfl
        rw [Spelling.rational_numeral]
        show Numeral.sign negative * (decimal (digitValues ['0'] ++ digitValues ['0']) : ℚ) * _ = _
        rw [hzero, Nat.cast_zero, mul_zero, zero_mul]
      · exact Spelling.rational_ofDecimal _ _

/-- The text of a number is one of its numeral. -/
theorem numeral_written {number : Number} (h : number.IsFinite) (after : Bytes) :
    number.numeral.Written (Utf8.encode number.text ++ after) after := by
  cases number with
  | integer i =>
    have htext : (intText i).toList =
        (if decide (i < 0) then ['-'] else []) ++ (Spelling.ofNat i.natAbs).text := by
      unfold Spelling.ofNat Spelling.text Spelling.fractionText Spelling.exponentText
      rw [List.append_nil, List.append_nil]
      cases i with
      | ofNat n =>
        rw [decide_ofNat_lt_zero]
        exact String.toList_ofList
      | negSucc n =>
        rw [decide_negSucc_lt_zero]
        show ("-" ++ String.ofList (digitsOf (n + 1))).toList = '-' :: digitsOf (n + 1)
        rw [String.toList_append]
        exact congrArg (['-'] ++ ·) String.toList_ofList
    show ((Spelling.ofNat i.natAbs).numeral (decide (i < 0))).Written
      (Utf8.encode (intText i).toList ++ after) after
    rw [htext]
    exact (Spelling.ofNat_isWellFormed _).written _ _
  | double x =>
    cases x <;> cases h
    next negative units representable =>
      show (Spelling.numeral negative (if units = 0 then ⟨['0'], some ['0'], none⟩
        else .ofDecimal (Binary64.shortest .even units))).Written
          (Utf8.encode ((if negative then ['-'] else []) ++ if units = 0 then ['0', '.', '0']
            else Binary64.jsonLayout.positive (Binary64.shortest .even units)) ++ after) after
      split
      · refine Spelling.IsWellFormed.written (s := ⟨['0'], some ['0'], none⟩)
          ⟨?_, .inl rfl, ?_, ?_⟩ _ _
        · exact Spelling.areDigits_zeros 1
        · rintro _ ⟨⟩
          exact ⟨by decide, Spelling.areDigits_zeros 1⟩
        · rintro e ⟨⟩
      · next hunits =>
        rw [← Spelling.text_ofDecimal]
        exact (Spelling.ofDecimal_isWellFormed (Binary64.coefficient_shortest_ne_zero _
          (Nat.pos_of_ne_zero hunits) representable)).written _ _

end Number

end QuerySwarm.Json
