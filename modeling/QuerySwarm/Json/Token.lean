import QuerySwarm.Json.Cursor
import QuerySwarm.Json.Value

/-!
# The scalars of JSON text

Readers for the three words, for strings and for numbers. A reader that is in the middle of a
scalar when the text ends or goes wrong reports the place it has got to.

A number is first cut into its digits (`numeral`) and then valued (`Numeral.value`). Its value is
an integer where it is written as one and fits in 64 bits. Any other number is a double, found from
the first digits that fit in 64 bits by one multiplication or division by a power of ten; each of
the two steps rounds.

Main statement: the digits ahead are taken whole (`digits_rest`).
-/

namespace QuerySwarm.Json

open Cursor

/-! ### Words -/

def word : Bytes → Cursor → Except Failure Cursor
  | [], c => .ok c
  | w :: ws, c =>
    match c.rest with
    | [] => .error (c.fail .eofInValue)
    | b :: rest =>
      if b = w then word ws (c.after b rest)
      else .error ((c.after b rest).fail .expectedLiteral)

/-! ### Strings -/

def hexValue? (b : UInt8) : Option Nat :=
  let n := b.toNat
  if 0x30 ≤ n ∧ n ≤ 0x39 then some (n - 0x30)
  else if 0x41 ≤ n ∧ n ≤ 0x46 then some (n - 0x41 + 10)
  else if 0x61 ≤ n ∧ n ≤ 0x66 then some (n - 0x61 + 10)
  else none

def hexEscape (c : Cursor) : Read Nat :=
  match c.rest with
  | b1 :: b2 :: b3 :: b4 :: _ =>
    let c := c.drop 4
    match hexValue? b1, hexValue? b2, hexValue? b3, hexValue? b4 with
    | some h1, some h2, some h3, some h4 => .ok (((h1 * 16 + h2) * 16 + h3) * 16 + h4, c)
    | _, _, _, _ => .error (c.fail .invalidEscape)
  | rest => .error ((c.drop rest.length).fail .eofInString)

/-- Expect one byte inside an escape that a surrogate has begun. -/
def surrogateByte (b : UInt8) (c : Cursor) : Except Failure Cursor :=
  match c.rest with
  | [] => .error (c.fail .eofInString)
  | b' :: rest =>
    if b' = b then .ok (c.after b' rest)
    else .error ((c.after b' rest).fail .unexpectedEndOfEscape)

/-- An escape by number, after its `u`: a scalar value, or a pair of surrogates. -/
def unicodeEscape (c : Cursor) : Read Char :=
  match hexEscape c with
  | .error e => .error e
  | .ok (n, c) =>
    if 0xDC00 ≤ n ∧ n ≤ 0xDFFF then .error (c.fail .loneSurrogate)
    else if n < 0xD800 ∨ 0xDBFF < n then .ok (Char.ofNat n, c)
    else match surrogateByte 0x5C c with
      | .error e => .error e
      | .ok c => match surrogateByte 0x75 c with
        | .error e => .error e
        | .ok c => match hexEscape c with
          | .error e => .error e
          | .ok (m, c) =>
            if m < 0xDC00 ∨ 0xDFFF < m then .error (c.fail .loneSurrogate)
            else .ok (Char.ofNat (0x10000 + (n - 0xD800) * 0x400 + (m - 0xDC00)), c)

def shortEscape? (b : UInt8) : Option Char :=
  if b = 0x22 then some '"'
  else if b = 0x5C then some '\\'
  else if b = 0x2F then some '/'
  else if b = 0x62 then some (Char.ofNat 0x08)
  else if b = 0x66 then some (Char.ofNat 0x0C)
  else if b = 0x6E then some '\n'
  else if b = 0x72 then some '\r'
  else if b = 0x74 then some '\t'
  else none

def escape (c : Cursor) : Read Char :=
  match c.rest with
  | [] => .error (c.fail .eofInString)
  | b :: rest =>
    let c := c.after b rest
    if b = 0x75 then unicodeEscape c
    else match shortEscape? b with
      | some char => .ok (char, c)
      | none => .error (c.fail .invalidEscape)

/-- A string from after its opening quote, with the characters before in reverse. The place of the
first ill-formed byte is kept, since it counts only once the string has been closed. -/
def stringFrom (done : List Char) (illFormed : Option Failure) (c : Cursor) : Read String :=
  match _hr : c.rest with
  | [] => .error (c.fail .eofInString)
  | b :: rest =>
    let next := c.after b rest
    if b = 0x22 then
      match illFormed with
      | some failure => .error failure
      | none => .ok (String.ofList done.reverse, next)
    else if b = 0x5C then
      match escape next with
      | .error e => .error e
      | .ok (char, c') =>
        if c'.rest.length < c.rest.length then stringFrom (char :: done) illFormed c'
        else .error (c'.fail .eofInString)
    else if b.toNat < 0x20 then .error (next.fail .controlCharacter)
    else match Utf8.decodeStep b rest with
      | (some char, rest') =>
        if rest'.length < c.rest.length then
          stringFrom (char :: done) illFormed
            ⟨rest', c.line, c.column + (Utf8.encodeChar char).length⟩
        else .error (next.fail .eofInString)
      | (none, _) =>
        stringFrom done (illFormed <|> some (next.fail .invalidUtf8)) next
termination_by c.rest.length
decreasing_by
  all_goals simp_all

def stringBody (c : Cursor) : Read String := stringFrom [] none c

/-! ### Numbers -/

def isDigit (b : UInt8) : Bool := decide (0x30 ≤ b.toNat ∧ b.toNat ≤ 0x39)

def digitOf (b : UInt8) : Nat := b.toNat - 0x30

def digits (c : Cursor) : List Nat × Cursor :=
  let ds := c.rest.takeWhile isDigit
  (ds.map digitOf, ⟨c.rest.dropWhile isDigit, c.line, c.column + ds.length⟩)

theorem digits_rest (c : Cursor) :
    ∀ b rest, (digits c).2.rest = b :: rest → isDigit b = false := by
  intro b rest h
  simp only [digits] at h
  generalize c.rest = bytes at h
  induction bytes with
  | nil => simp at h
  | cons a bytes ih =>
    rw [List.dropWhile_cons] at h
    split at h
    · exact ih h
    · next ha =>
      cases h
      simpa using ha

/-- A number as it is written. -/
structure Numeral where
  negative : Bool
  whole : List Nat
  fraction : Option (List Nat)
  /-- Whether the exponent is negative, and its digits. -/
  exponent : Option (Bool × List Nat)
  deriving DecidableEq

/-- The whole part of a number: a zero alone, or digits that begin with another one. `atEnd` is
the cause to report where the text ends too early. -/
def wholePart (atEnd : Cause) (c : Cursor) : Read (List Nat) :=
  match c.rest with
  | [] => .error (c.fail atEnd)
  | b :: rest =>
    if b = 0x30 then
      let c := c.after b rest
      match rest with
      | d :: _ => if isDigit d then .error (c.failAhead .invalidNumber) else .ok ([0], c)
      | [] => .ok ([0], c)
    else if isDigit b then .ok (digits c)
    else .error ((c.after b rest).fail .invalidNumber)

/-- The fraction of a number, if a point is ahead. -/
def fractionPart (atEnd : Cause) (c : Cursor) : Read (Option (List Nat)) :=
  match c.rest with
  | [] => .ok (none, c)
  | b :: rest =>
    if b = 0x2E then
      let (ds, c') := digits (c.after b rest)
      if ds.isEmpty then
        .error (c'.failAhead (if c'.rest.isEmpty then atEnd else .invalidNumber))
      else .ok (some ds, c')
    else .ok (none, c)

/-- The sign of an exponent, if one is ahead. -/
def exponentSign (c : Cursor) : Bool × Cursor :=
  match c.rest with
  | b :: rest =>
    if b = 0x2D then (true, c.after b rest)
    else if b = 0x2B then (false, c.after b rest)
    else (false, c)
  | [] => (false, c)

/-- The exponent of a number, if one is ahead. -/
def exponentPart (atEnd : Cause) (c : Cursor) : Read (Option (Bool × List Nat)) :=
  match c.rest with
  | [] => .ok (none, c)
  | b :: rest =>
    if b = 0x65 ∨ b = 0x45 then
      let (negative, c') := exponentSign (c.after b rest)
      match c'.rest with
      | [] => .error (c'.fail atEnd)
      | d :: _ =>
        if isDigit d then
          let (ds, c'') := digits c'
          .ok (some (negative, ds), c'')
        else .error (c'.failAhead .invalidNumber)
    else .ok (none, c)

/-- A number from after its minus sign, if it has one. -/
def numeral (atEnd : Cause) (negative : Bool) (c : Cursor) : Except Failure (Numeral × Cursor) := do
  let (whole, c) ← wholePart atEnd c
  let (fraction, c) ← fractionPart atEnd c
  let (exponent, c) ← exponentPart atEnd c
  return (⟨negative, whole, fraction, exponent⟩, c)

/-! ### The value of a number -/

def maxNat64 : Nat := Nat.pow 2 64 - 1

/-- Take digits into a number as long as it fits in 64 bits; the second part is what is left. -/
def accumulate (n : Nat) : List Nat → Nat × List Nat
  | [] => (n, [])
  | d :: ds => if maxNat64 < n * 10 + d then (n, d :: ds) else accumulate (n * 10 + d) ds

/-- The exponent of a numeral, up to the first prefix of its digits that 31 bits cannot hold; the
second part is the digits after that prefix, if there is one. -/
def exponentValue (n : Nat) : List Nat → Nat × Option (List Nat)
  | [] => (n, none)
  | d :: ds => if Nat.pow 2 31 - 1 < n * 10 + d then (n, some ds) else exponentValue (n * 10 + d) ds

/-- Scale a double by a power of ten, in one step where a double can hold that power; `none` if
the result is too large. -/
def scale? (x : Binary64) (exponent : Int) : (fuel : Nat) → Option Binary64
  | 0 => some x
  | fuel + 1 =>
    if exponent.natAbs ≤ 308 then
      let power := Binary64.ofDecimal false 1 exponent.natAbs
      if 0 ≤ exponent then
        let y := x * power
        if y.isInfinite then none else some y
      else some (x / power)
    else if x.isZero then some x
    else if 0 ≤ exponent then none
    else scale? (x / Binary64.ofDecimal false 1 308) (exponent + 308) fuel

/-- A number is an exact integer or a double. -/
inductive Number where
  | integer (value : Int)
  | double (value : Binary64)
  deriving DecidableEq

def Number.toJson : Number → Json
  | .integer value => .integer value
  | .double value => .double value

def Number.found : Number → Found
  | .integer value => .integer value
  | .double value => .double value

/-- The integer of whole digits that fit in 64 bits. A negative one has to fit with its sign, and
a negative zero is a double. -/
def integerValue (negative : Bool) (n : Nat) : Number :=
  if negative then
    if n = 0 ∨ Nat.pow 2 63 < n then .double (-(Binary64.ofNat n)) else .integer (-(n : Int))
  else .integer n

def signed (negative : Bool) (x : Binary64) : Binary64 := if negative then -x else x

/-- What a numeral denotes; `none` if it is too large. -/
inductive NumeralValue where
  | number (value : Number)
  | tooLarge
  /-- Too large by its exponent alone, which is settled before the digits that are given. -/
  | exponentTooLarge (unread : Nat)

def Numeral.value (n : Numeral) : NumeralValue :=
  let (wholeValue, wholeLeft) := accumulate 0 n.whole
  let (significand, fractionLeft) := accumulate wholeValue (n.fraction.getD [])
  let taken : Nat := (n.fraction.getD []).length - fractionLeft.length
  let start : Int := (wholeLeft.length : Int) - taken
  let scaled (exponent : Int) : NumeralValue :=
    match scale? (Binary64.ofNat significand) exponent (exponent.natAbs / 308 + 1) with
    | some x => .number (.double (signed n.negative x))
    | none => .tooLarge
  match n.exponent with
  | none =>
    if n.fraction.isNone && wholeLeft.isEmpty then .number (integerValue n.negative wholeValue)
    else scaled start
  | some (negativeExponent, ds) =>
    match exponentValue 0 ds with
    | (_, some unread) =>
      if significand ≠ 0 ∧ !negativeExponent then .exponentTooLarge unread.length
      else .number (.double (signed n.negative (.zero false)))
    | (e, none) => scaled (start + (if negativeExponent then -(e : Int) else e))

/-- Read a number from after its minus sign, if it has one. -/
def number (negative : Bool) (c : Cursor) : Except Failure (Number × Cursor) := do
  let (numeral, c) ← numeral .eofInValue negative c
  match numeral.value with
  | .number value => return (value, c)
  | .tooLarge => throw (c.fail .numberOutOfRange)
  | .exponentTooLarge unread => throw (Failure.mk .numberOutOfRange c.line (c.column - unread))

end QuerySwarm.Json
