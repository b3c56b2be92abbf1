import QuerySwarm.Binary64.Decimal
import QuerySwarm.Scenario

/-!
# Values of options

How the value of an option is read from its text. A whole number may have a plus sign and is read
digit by digit, so that the first digit that is none, or that leads out of range, is what is
reported.

Main statement: a whole number is read back from its own digits (`CommandLine.wholeFrom_digits`).
-/

namespace QuerySwarm.CommandLine

/-- Why a value is refused. -/
inductive ValueFault where
  | missing
  | unlisted
  | malformed (reason : String)
  deriving DecidableEq, Repr

/-- The first whole number that is out of range. -/
def wholeLimit : Nat := Nat.pow 2 64

/-- Why a text is no whole number. -/
inductive WholeFault where
  | empty
  | notDigit
  | tooLarge
  deriving DecidableEq, Repr

/-- The wording for a text that is no whole number. -/
def WholeFault.message : WholeFault → String
  | .empty => "cannot parse integer from empty string"
  | .notDigit => "invalid digit found in string"
  | .tooLarge => "number too large to fit in target type"

/-- The whole number that continues `value` with these digits. -/
def wholeFrom (value : Nat) : List Char → Except WholeFault Nat
  | [] => .ok value
  | c :: cs =>
    if !c.isDigit then .error .notDigit
    else if wholeLimit ≤ value * 10 + (c.toNat - '0'.toNat) then .error .tooLarge
    else wholeFrom (value * 10 + (c.toNat - '0'.toNat)) cs

def readWhole (text : String) : Except WholeFault Nat :=
  match text.toList with
  | [] => .error .empty
  | ['+'] => .error .notDigit
  | '+' :: digits => wholeFrom 0 digits
  | digits => wholeFrom 0 digits

/-- The value that digits have after `value`. -/
def digitsAfter (value : Nat) (digits : List Char) : Nat :=
  digits.foldl (fun n c => n * 10 + (c.toNat - '0'.toNat)) value

theorem le_digitsAfter (value : Nat) (digits : List Char) :
    value ≤ digitsAfter value digits := by
  induction digits generalizing value with
  | nil => exact Nat.le_refl _
  | cons c cs ih => exact Nat.le_trans (by omega) (ih (value * 10 + (c.toNat - '0'.toNat)))

/-- Digits whose value is in range are read to that value. -/
theorem wholeFrom_digits {digits : List Char} (h : ∀ c ∈ digits, c.isDigit = true) {value : Nat}
    (hlt : digitsAfter value digits < wholeLimit) :
    wholeFrom value digits = .ok (digitsAfter value digits) := by
  induction digits generalizing value with
  | nil => rfl
  | cons c cs ih =>
    have hle := le_digitsAfter (value * 10 + (c.toNat - '0'.toNat)) cs
    have hlt' : digitsAfter (value * 10 + (c.toNat - '0'.toNat)) cs < wholeLimit := hlt
    have hc : c.isDigit = true := h c (by simp)
    have hrange : ¬ wholeLimit ≤ value * 10 + (c.toNat - '0'.toNat) := by omega
    rw [wholeFrom, hc]
    simp only [Bool.not_true, Bool.false_eq_true, if_false, hrange]
    exact ih (fun d hd => h d (by simp [hd])) hlt'

/-! ### Readers -/

def anyText (text : String) : Except ValueFault String := .ok text

def pathText (text : String) : Except ValueFault String :=
  if text.isEmpty then .error .missing else .ok text

def whole (text : String) : Except ValueFault Nat :=
  (readWhole text).mapError fun fault => .malformed fault.message

def number (text : String) : Except ValueFault Binary64 :=
  (Binary64.read? text).mapError fun fault => .malformed fault.message

def scenarioWord (text : String) : Except ValueFault Scenario :=
  match Scenario.ofWord? text with
  | some s => .ok s
  | none => .error (if text.isEmpty then .missing else .unlisted)

/-- Names between commas; each of them may be empty. -/
def names (text : String) : List String := (text.toList.splitOn ',').map String.ofList

end QuerySwarm.CommandLine
