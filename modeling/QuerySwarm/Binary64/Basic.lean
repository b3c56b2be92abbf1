/-!
# Double-precision numbers

A double is not a number, an infinity, or a signed whole number of *units* of `2^-1074`, the
least positive double. Every finite double is such a multiple, so comparison, sum, product and
quotient are exact operations on `Nat`, followed by one rounding to the nearest double, a tie
going to the even neighbour.

Main statements: rounding leaves a representable count of units alone
(`roundUnits_of_representable`), and the quotient it takes is the nearest one
(`roundHalfEven_spec`).
-/

namespace QuerySwarm

def unitsPerOne : Nat := Nat.pow 2 1074

/-- A count of units that is a finite double: below `2^1024`, and with at most 53 significant
bits. -/
def Representable (units : Nat) : Prop :=
  units < Nat.pow 2 2098 ∧ units % Nat.pow 2 (units.log2 - 52) = 0

instance (units : Nat) : Decidable (Representable units) :=
  inferInstanceAs (Decidable (_ ∧ _))

theorem representable_zero : Representable 0 := by
  have pos : ∀ n : Nat, 0 < Nat.pow 2 n := Nat.two_pow_pos
  exact ⟨pos _, Nat.zero_mod _⟩

/-- A double-precision number. -/
inductive Binary64 where
  | nan
  | infinity (negative : Bool)
  | finite (negative : Bool) (units : Nat) (representable : Representable units)
  deriving DecidableEq

/-! ### Rounding -/

/-- The whole number nearest to `a / b`; of two equally near ones, the even one. -/
def roundHalfEven (a b : Nat) : Nat :=
  if 2 * (a % b) < b ∨ (2 * (a % b) = b ∧ a / b % 2 = 0) then a / b else a / b + 1

/-- The nearest multiple with 53 significant bits of `numerator / denominator` units. -/
def roundUnits (numerator denominator : Nat) : Nat :=
  let shift := (numerator / denominator).log2 - 52
  roundHalfEven numerator (denominator * Nat.pow 2 shift) * Nat.pow 2 shift

namespace Binary64

/-- The double with this sign and count of units; a count out of range gives an infinity. -/
def ofUnits (negative : Bool) (units : Nat) : Binary64 :=
  if h : Representable units then .finite negative units h else .infinity negative

/-- The double nearest to `numerator / denominator` units. -/
def round (negative : Bool) (numerator denominator : Nat) : Binary64 :=
  ofUnits negative (roundUnits numerator denominator)

/-- The double nearest to the rational number `numerator / denominator`. -/
def ofRatio (negative : Bool) (numerator denominator : Nat) : Binary64 :=
  round negative (numerator * unitsPerOne) denominator

def ofNat (n : Nat) : Binary64 := ofRatio false n 1

instance (n : Nat) : OfNat Binary64 n := ⟨ofNat n⟩

def zero (negative : Bool) : Binary64 := .finite negative 0 representable_zero

/-! ### Signs and classes -/

/-- Whether the number is neither an infinity nor not a number. -/
def isFinite : Binary64 → Bool
  | .finite .. => true
  | _ => false

def isInfinite : Binary64 → Bool
  | .infinity _ => true
  | _ => false

/-- Whether the number is a zero of either sign. -/
def isZero : Binary64 → Bool
  | .finite _ units _ => units == 0
  | _ => false

def neg : Binary64 → Binary64
  | .nan => .nan
  | .infinity negative => .infinity !negative
  | .finite negative units h => .finite (!negative) units h

instance : Neg Binary64 := ⟨neg⟩

/-- The signed count of units of a finite number. -/
def signedUnits (negative : Bool) (units : Nat) : Int :=
  if negative then -(units : Int) else units

/-! ### Comparison

Nothing compares with a number that is not one, and the two zeros are equal. -/

def lt : Binary64 → Binary64 → Bool
  | .nan, _ => false
  | _, .nan => false
  | .infinity n, .infinity m => n && !m
  | .infinity n, .finite .. => n
  | .finite .., .infinity m => !m
  | .finite n x _, .finite m y _ => decide (signedUnits n x < signedUnits m y)

def le : Binary64 → Binary64 → Bool
  | .nan, _ => false
  | _, .nan => false
  | .infinity n, .infinity m => n || !m
  | .infinity n, .finite .. => n
  | .finite .., .infinity m => !m
  | .finite n x _, .finite m y _ => decide (signedUnits n x ≤ signedUnits m y)

/-! ### Arithmetic -/

/-- The sum, rounded. An exact zero is positive unless both numbers are negative. -/
def add : Binary64 → Binary64 → Binary64
  | .nan, _ => .nan
  | _, .nan => .nan
  | .infinity n, .infinity m => if n = m then .infinity n else .nan
  | .infinity n, .finite .. => .infinity n
  | .finite .., .infinity m => .infinity m
  | .finite n x _, .finite m y _ =>
    let sum := signedUnits n x + signedUnits m y
    if sum = 0 then zero (n && m) else round (decide (sum < 0)) sum.natAbs 1

instance : Add Binary64 := ⟨add⟩

def sub (x y : Binary64) : Binary64 := x + (-y)

instance : Sub Binary64 := ⟨sub⟩

def mul : Binary64 → Binary64 → Binary64
  | .nan, _ => .nan
  | _, .nan => .nan
  | .infinity n, .infinity m => .infinity (n != m)
  | .infinity n, .finite m y _ => if y = 0 then .nan else .infinity (n != m)
  | .finite n x _, .infinity m => if x = 0 then .nan else .infinity (n != m)
  | .finite n x _, .finite m y _ => round (n != m) (x * y) unitsPerOne

instance : Mul Binary64 := ⟨mul⟩

def div : Binary64 → Binary64 → Binary64
  | .nan, _ => .nan
  | _, .nan => .nan
  | .infinity _, .infinity _ => .nan
  | .infinity n, .finite m _ _ => .infinity (n != m)
  | .finite n _ _, .infinity m => zero (n != m)
  | .finite n x _, .finite m y _ =>
    if y = 0 then (if x = 0 then .nan else .infinity (n != m))
    else round (n != m) (x * unitsPerOne) y

instance : Div Binary64 := ⟨div⟩

/-- The least natural number that is not below the number; zero if there is none. -/
def ceil : Binary64 → Nat
  | .finite false units _ => (units + (unitsPerOne - 1)) / unitsPerOne
  | _ => 0

/-! ### Neighbours -/

/-- The greatest count of units with 53 significant bits that is below `units`; nothing is below
zero. -/
def belowUnits (units : Nat) : Nat :=
  let below := units - 1
  let shift := below.log2 - 52
  below / Nat.pow 2 shift * Nat.pow 2 shift

theorem belowUnits_lt {units : Nat} (h : 0 < units) : belowUnits units < units := by
  have hle : belowUnits units ≤ units - 1 := Nat.div_mul_le_self _ _
  omega

/-- The next double towards zero; a zero stays where it is. -/
def towardsZero : Binary64 → Binary64
  | .finite negative units _ => ofUnits negative (belowUnits units)
  | .infinity negative => ofUnits negative ((Nat.pow 2 53 - 1) * Nat.pow 2 2045)
  | .nan => .nan

/-- The distance of a finite number from zero, in units; zero for what has none. -/
def magnitude : Binary64 → Nat
  | .finite _ units _ => units
  | _ => 0

/-- A step towards zero from a number that has a distance from it makes the distance smaller. -/
theorem magnitude_towardsZero_lt {x : Binary64} (h : 0 < x.magnitude) :
    x.towardsZero.magnitude < x.magnitude := by
  cases x with
  | nan => simp [magnitude] at h
  | infinity negative => simp [magnitude] at h
  | finite negative units representable =>
    have hlt : belowUnits units < units := belowUnits_lt h
    simp only [towardsZero, ofUnits]
    split
    · exact hlt
    · simp only [magnitude] at h ⊢
      exact h

end Binary64

/-! ### Laws of rounding -/

/-- The rounded quotient is within half of the exact one, and a tie goes to the even side. -/
theorem roundHalfEven_spec (a b : Nat) (hb : 0 < b) :
    2 * (roundHalfEven a b * b) ≤ 2 * a + b ∧ 2 * a ≤ 2 * (roundHalfEven a b * b) + b := by
  have hdiv : b * (a / b) + a % b = a := Nat.div_add_mod a b
  have hmod : a % b < b := Nat.mod_lt a hb
  have hcomm : a / b * b = b * (a / b) := Nat.mul_comm _ _
  unfold roundHalfEven
  split
  · omega
  · rw [Nat.add_mul]
    omega

theorem roundHalfEven_mul (q b : Nat) (hb : 0 < b) : roundHalfEven (q * b) b = q := by
  simp [roundHalfEven, Nat.mul_div_cancel q hb, hb]

/-- A representable count of units is its own rounding. -/
theorem roundUnits_of_representable {units : Nat} (h : Representable units) :
    roundUnits units 1 = units := by
  have hdvd : Nat.pow 2 (units.log2 - 52) ∣ units := Nat.dvd_of_mod_eq_zero h.2
  obtain ⟨q, hq⟩ := hdvd
  have hpos : 0 < Nat.pow 2 (units.log2 - 52) := Nat.two_pow_pos _
  unfold roundUnits
  simp only [Nat.div_one, Nat.one_mul]
  have hcomm : units = q * Nat.pow 2 (units.log2 - 52) := by rw [Nat.mul_comm]; exact hq
  generalize hs : Nat.pow 2 (units.log2 - 52) = s at *
  rw [hcomm, roundHalfEven_mul q s hpos]

end QuerySwarm
