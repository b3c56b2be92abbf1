import QuerySwarm.Binary64.Basic

/-!
# Decimal text of doubles

`shortest` gives the fewest decimal digits that read back as the same double, and of those the
nearest; `Layout` records say how a format writes them. `fixed` rounds the exact value to a
number of places, and `Binary64.read?` reads a decimal text.

Main statement: reading rounds the exact value of the text once (`ofDecimal`), so that there is
no second error to account for.
-/

namespace QuerySwarm

def digitsOf (n : Nat) : List Char := Nat.toDigits 10 n

def natText (n : Nat) : String := String.ofList (digitsOf n)

theorem natText_injective {m n : Nat} (h : natText m = natText n) : m = n := by
  have digits : digitsOf m = digitsOf n := String.ofList_injective h
  have read : ∀ k : Nat, Nat.ofDigitChars 10 (digitsOf k) 0 = k :=
    fun _ => Nat.ofDigitChars_toDigits (by decide) (by decide)
  rw [← read m, ← read n, digits]

def intText : Int → String
  | .ofNat n => natText n
  | .negSucc n => "-" ++ natText (n + 1)

namespace Binary64

/-! ### The shortest digits -/

/-- A positive decimal `coefficient * 10 ^ exponent`. -/
structure Decimal where
  coefficient : Nat
  exponent : Int
  deriving DecidableEq, Repr

/-- Of two equally near shortest decimals, the one a format takes. -/
inductive Tie where
  | up
  | even
  deriving DecidableEq, Repr

/-- The reals that round to a positive double, in quarter units: the double itself, the ends, and
whether the ends belong to them. -/
structure Interval where
  centre : Nat
  low : Nat
  high : Nat
  closed : Bool

/-- The reals that round to a positive count of units. Below a power of two the spacing is half
of what it is above. -/
def interval (units : Nat) : Interval :=
  let shift := units.log2 - 52
  let ulp := Nat.pow 2 shift
  let narrow := decide (0 < shift ∧ units = Nat.pow 2 units.log2)
  { centre := 4 * units
    low := 4 * units - (if narrow then ulp else 2 * ulp)
    high := 4 * units + 2 * ulp
    closed := units / ulp % 2 == 0 }

/-- Whether `candidate * step` lies in the interval, both in quarter units over a denominator. -/
def Interval.contains (i : Interval) (candidate step denominator : Nat) : Bool :=
  let point := candidate * step
  if i.closed then
    decide (i.low * denominator ≤ point) && decide (point ≤ i.high * denominator)
  else
    decide (i.low * denominator < point) && decide (point < i.high * denominator)

/-- The better of the two grid points around the centre, where one of them reads back. -/
def Interval.nearest? (i : Interval) (tie : Tie) (step denominator : Nat) : Option Nat :=
  let below := i.centre * denominator / step
  let toBelow := i.centre * denominator - below * step
  let toAbove := (below + 1) * step - i.centre * denominator
  match i.contains below step denominator, i.contains (below + 1) step denominator with
  | false, false => none
  | true, false => some below
  | false, true => some (below + 1)
  | true, true =>
    if toBelow < toAbove then some below
    else if toAbove < toBelow then some (below + 1)
    else match tie with
      | .up => some (below + 1)
      | .even => some (if below % 2 = 0 then below else below + 1)

/-- The grid of multiples of `10 ^ exponent`, in quarter units: a step and a denominator. -/
def grid (exponent : Int) : Nat × Nat :=
  match exponent with
  | .ofNat e => (4 * unitsPerOne * Nat.pow 10 e, 1)
  | .negSucc e => (4 * unitsPerOne, Nat.pow 10 (e + 1))

/-- Drop the zeros at the end of a coefficient; `fuel` bounds their number. -/
def Decimal.trimmed (fuel : Nat) (d : Decimal) : Decimal :=
  match fuel with
  | 0 => d
  | fuel + 1 =>
    if d.coefficient % 10 = 0 then
      Decimal.trimmed fuel ⟨d.coefficient / 10, d.exponent + 1⟩
    else d

/-- Search the grids from coarse to fine, `fuel` of them, for a point that reads back. -/
def search (i : Interval) (tie : Tie) : (fuel : Nat) → (exponent : Int) → Decimal
  | 0, exponent => ⟨0, exponent⟩
  | fuel + 1, exponent =>
    match i.nearest? tie (grid exponent).1 (grid exponent).2 with
    | some coefficient =>
      if coefficient = 0 then search i tie fuel (exponent - 1)
      else Decimal.trimmed 400 ⟨coefficient, exponent⟩
    | none => search i tie fuel (exponent - 1)

/-- An upper bound of the decimal exponent of a count of units. -/
def decimalExponentBound (units : Nat) : Int :=
  ((units.log2 : Int) - 1074) * 30103 / 100000 + 2

/-- The fewest digits that read back as this positive count of units. The grids are tried from
one place above the leading digit down; seventeen digits always suffice. -/
def shortest (tie : Tie) (units : Nat) : Decimal :=
  search (interval units) tie 24 (decimalExponentBound units)

/-! ### Layouts -/

/-- Positional text of the digits `ds`, whose value is `0.ds * 10 ^ point`. -/
def positional (ds : List Char) (point : Int) (wholeMark : List Char) : List Char :=
  if point ≤ 0 then
    '0' :: '.' :: (List.replicate (-point).toNat '0' ++ ds)
  else if ds.length ≤ point.toNat then
    ds ++ List.replicate (point.toNat - ds.length) '0' ++ wholeMark
  else
    ds.take point.toNat ++ '.' :: ds.drop point.toNat

/-- Exponent text of the digits `ds`, whose value is `d.ds * 10 ^ exponent`. -/
def scientific (ds : List Char) (exponent : Int) (plus : List Char) : List Char :=
  let power := if exponent < 0 then '-' :: digitsOf exponent.natAbs
    else plus ++ digitsOf exponent.natAbs
  match ds with
  | [] => []
  | [d] => d :: 'e' :: power
  | d :: ds => d :: '.' :: (ds ++ 'e' :: power)

/-- How a format writes doubles. -/
structure Layout where
  /-- Which of two equally near decimals is taken. -/
  tie : Tie
  /-- What follows the digits of a whole number. -/
  wholeMark : List Char
  /-- The decimal exponents that are written positionally; `none` for all. -/
  positionalRange : Option (Int × Int)
  /-- The sign of a positive exponent. -/
  plus : List Char
  nanText : List Char
  infinityText : List Char
  negativeInfinityText : List Char

/-- Messages and answers write every digit out and never use an exponent; a whole number has no
point. -/
def plainLayout : Layout where
  tie := .up
  wholeMark := []
  positionalRange := none
  plus := []
  nanText := ['N', 'a', 'N']
  infinityText := ['i', 'n', 'f']
  negativeInfinityText := ['-', 'i', 'n', 'f']

/-- JSON text has a point or an exponent in every double, positional text for decimal exponents
from -5 to 15, and `null` for what is not a finite number. -/
def jsonLayout : Layout where
  tie := .even
  wholeMark := ['.', '0']
  positionalRange := some (-5, 15)
  plus := ['+']
  nanText := ['n', 'u', 'l', 'l']
  infinityText := ['n', 'u', 'l', 'l']
  negativeInfinityText := ['n', 'u', 'l', 'l']

/-- The text of a positive decimal in a layout. -/
def Layout.positive (l : Layout) (d : Decimal) : List Char :=
  let ds := digitsOf d.coefficient
  let point := (ds.length : Int) + d.exponent
  match l.positionalRange with
  | none => positional ds point l.wholeMark
  | some (low, high) =>
    if low ≤ point - 1 ∧ point - 1 ≤ high then positional ds point l.wholeMark
    else scientific ds (point - 1) l.plus

def Layout.write (l : Layout) : Binary64 → List Char
  | .nan => l.nanText
  | .infinity false => l.infinityText
  | .infinity true => l.negativeInfinityText
  | .finite negative units _ =>
    (if negative then ['-'] else []) ++
      (if units = 0 then '0' :: l.wholeMark else l.positive (shortest l.tie units))

/-- The plain text of a double, as messages show it. -/
def text (x : Binary64) : String := String.ofList (plainLayout.write x)

def jsonText (x : Binary64) : String := String.ofList (jsonLayout.write x)

/-! ### Fixed places -/

/-- The exact value rounded to `places` decimal places, a tie going to the even digit. -/
def fixed (places : Nat) : Binary64 → String
  | .nan => "NaN"
  | .infinity false => "inf"
  | .infinity true => "-inf"
  | .finite negative units _ =>
    let scaled := roundHalfEven (units * Nat.pow 10 places) unitsPerOne
    let ds := digitsOf (scaled % Nat.pow 10 places)
    let fraction := List.replicate (places - ds.length) '0' ++ ds
    let whole := natText (scaled / Nat.pow 10 places)
    (if negative then "-" else "") ++ whole ++
      (if places = 0 then "" else "." ++ String.ofList fraction)

/-! ### Reading -/

/-- The double nearest to `coefficient * 10 ^ exponent`. Exponents far out of range are settled
without building the power. -/
def ofDecimal (negative : Bool) (coefficient : Nat) (exponent : Int) : Binary64 :=
  let magnitude := (digitsOf coefficient).length + exponent
  if coefficient = 0 then zero negative
  else if 400 < magnitude then .infinity negative
  else if magnitude < -400 then zero negative
  else match exponent with
    | .ofNat e => ofRatio negative (coefficient * Nat.pow 10 e) 1
    | .negSucc e => ofRatio negative coefficient (Nat.pow 10 (e + 1))

/-- The value of a list of digits, continuing from `start`. -/
def digitsValue (start : Nat) (ds : List Char) : Nat :=
  ds.foldl (fun n d => n * 10 + (d.toNat - '0'.toNat)) start

/-- Why a text is not a double. -/
inductive ReadError where
  | empty
  | invalid
  deriving DecidableEq, Repr

def ReadError.message : ReadError → String
  | .empty => "cannot parse float from empty string"
  | .invalid => "invalid float literal"

/-- Split off a leading sign; the flag says that it was a minus. -/
def splitSign : List Char → Bool × List Char
  | '-' :: cs => (true, cs)
  | '+' :: cs => (false, cs)
  | cs => (false, cs)

/-- The exponent after its `e`: an optional sign and at least one digit, and nothing more. -/
def readExponent? (cs : List Char) : Option Int :=
  let (negative, ds) := splitSign cs
  if ds.isEmpty || !ds.all Char.isDigit then none
  else
    let value : Int := digitsValue 0 ds
    some (if negative then -value else value)

/-- An unsigned decimal: digits with at most one point, at least one digit in all, and an
optional exponent. -/
def readUnsigned? (negative : Bool) (cs : List Char) : Option Binary64 :=
  let whole := cs.takeWhile Char.isDigit
  let rest := cs.dropWhile Char.isDigit
  let (fraction, rest) := match rest with
    | '.' :: rest => (rest.takeWhile Char.isDigit, rest.dropWhile Char.isDigit)
    | rest => ([], rest)
  if whole.isEmpty && fraction.isEmpty then none
  else
    let coefficient := digitsValue (digitsValue 0 whole) fraction
    match rest with
    | [] => some (ofDecimal negative coefficient (-(fraction.length : Int)))
    | e :: rest =>
      if e = 'e' ∨ e = 'E' then
        (readExponent? rest).map fun exponent =>
          ofDecimal negative coefficient (exponent - fraction.length)
      else none

/-- Read a double: an optional sign, then a decimal, or `inf`, `infinity` or `nan` in any case. -/
def read? (s : String) : Except ReadError Binary64 :=
  let cs := s.toList
  let (negative, rest) := splitSign cs
  let lower := rest.map Char.toLower
  if cs.isEmpty then .error .empty
  else if lower = ['n', 'a', 'n'] then .ok .nan
  else if lower = ['i', 'n', 'f'] ∨ lower = ['i', 'n', 'f', 'i', 'n', 'i', 't', 'y'] then
    .ok (.infinity negative)
  else match readUnsigned? negative rest with
    | some x => .ok x
    | none => .error .invalid

end Binary64

end QuerySwarm
