import QuerySwarm.Text.Utf8

/-!
# Punycode

A label of any characters is written in ASCII: first its ASCII characters, then, after a hyphen,
the places and code points of the others, each as the distance from the one before, in digits of a
varying base.

Main statements: the thresholds of digits stay between 1 and 26 (`threshold_bounds`), so that
writing a distance ends, and a digit is read back (`digitValue?_digit`).
-/

namespace QuerySwarm.Url.Punycode

/-- The character of a digit: letters, then numerals. -/
def digit (d : Nat) : Char :=
  if d < 26 then Char.ofNat (0x61 + d) else Char.ofNat (0x30 + (d - 26))

def digitValue? (c : Char) : Option Nat :=
  let n := c.toNat
  if 0x61 ≤ n ∧ n ≤ 0x7A then some (n - 0x61)
  else if 0x41 ≤ n ∧ n ≤ 0x5A then some (n - 0x41)
  else if 0x30 ≤ n ∧ n ≤ 0x39 then some (n - 0x30 + 26)
  else none

theorem digitValue?_digit {d : Nat} (h : d < 36) : digitValue? (digit d) = some d := by
  have all : ∀ e ∈ List.range 36, digitValue? (digit e) = some e := by decide
  exact all d (List.mem_range.2 h)

/-- The threshold of the digit at position `k`. -/
def threshold (k bias : Nat) : Nat := min 26 (max 1 (k - bias))

theorem threshold_bounds (k bias : Nat) : 1 ≤ threshold k bias ∧ threshold k bias ≤ 26 := by
  unfold threshold
  omega

/-- Bring a distance below 456 by dividing by 35; the positions passed are added to `k`. -/
def shrink (delta k : Nat) : Nat × Nat :=
  if 455 < delta then shrink (delta / 35) (k + 36) else (delta, k)
termination_by delta
decreasing_by exact Nat.div_lt_self (by omega) (by omega)

/-- The bias after a distance, when `count` characters have been placed. -/
def adapt (delta count : Nat) (first : Bool) : Nat :=
  let halved := if first then delta / 700 else delta / 2
  let (delta, k) := shrink (halved + halved / count) 0
  k + 36 * delta / (delta + 38)

/-! ### Writing -/

/-- The digits of a distance from position `k` on. -/
def writeDistance (bias k q : Nat) : List Char :=
  let t := threshold k bias
  if q < t then [digit q]
  else digit (t + (q - t) % (36 - t)) :: writeDistance bias (k + 36) ((q - t) / (36 - t))
termination_by q
decreasing_by
  have hb := threshold_bounds k bias
  have hle := Nat.div_le_self (q - threshold k bias) (36 - threshold k bias)
  omega

/-- What has been written: the text, the distance so far, the bias and the characters placed. -/
structure Progress where
  text : List Char
  delta : Nat
  bias : Nat
  placed : Nat

/-- Pass one character on the way through the label for the code point `m`. -/
def pass (basic m : Nat) (p : Progress) (c : Char) : Progress :=
  if c.toNat < m then { p with delta := p.delta + 1 }
  else if c.toNat = m then
    { text := p.text ++ writeDistance p.bias 36 p.delta
      delta := 0
      bias := adapt p.delta (p.placed + 1) (p.placed == basic)
      placed := p.placed + 1 }
  else p

/-- Place the code points `ms`, in rising order and all at least `n`. -/
def writeFrom (label : List Char) (basic : Nat) (n : Nat) (p : Progress) : List Nat → Progress
  | [] => p
  | m :: ms =>
    let p := { p with delta := p.delta + (m - n) * (p.placed + 1) }
    let p := label.foldl (pass basic m) p
    writeFrom label basic (m + 1) { p with delta := p.delta + 1 } ms

/-- Put a number into a rising list, if it is not there. -/
def insertRising (n : Nat) : List Nat → List Nat
  | [] => [n]
  | m :: ms => if n < m then n :: m :: ms else if n = m then m :: ms else m :: insertRising n ms

/-- The code points beyond ASCII of a label, in rising order. -/
def extended (label : List Char) : List Nat :=
  ((label.map Char.toNat).filter (fun n => 0x80 ≤ n)).foldr insertRising []

def encode (label : List Char) : List Char :=
  let basic := label.filter (fun c => c.toNat < 0x80)
  let start := if basic.isEmpty then [] else basic ++ ['-']
  (writeFrom label basic.length 0x80 ⟨start, 0, 72, basic.length⟩ (extended label)).text

/-! ### Reading -/

/-- The distance that is written from position `k` on, and what follows it. -/
def readDistance? (bias k weight value : Nat) : List Char → Option (Nat × List Char)
  | [] => none
  | c :: cs =>
    match digitValue? c with
    | none => none
    | some d =>
      let value := value + d * weight
      let t := threshold k bias
      if d < t then some (value, cs) else readDistance? bias (k + 36) (weight * (36 - t)) value cs

theorem readDistance?_length {cs : List Char} :
    ∀ {bias k weight value n rest}, readDistance? bias k weight value cs = some (n, rest) →
      rest.length < cs.length := by
  induction cs with
  | nil =>
    intro _ _ _ _ _ _ h
    cases h
  | cons c cs ih =>
    intro bias k weight value n rest h
    unfold readDistance? at h
    split at h
    · cases h
    · simp only at h
      split at h
      · cases h
        simp
      · have := ih h
        simp only [List.length_cons]
        omega

/-- Read distances and put characters into a label, of which `n` is the last code point and `i` the
place after the last one put in. -/
def readFrom? (label : List Char) (n i bias : Nat) (cs : List Char) : Option (List Char) :=
  match cs with
  | [] => some label
  | c :: cs' =>
    match h : readDistance? bias 36 1 0 (c :: cs') with
    | none => none
    | some (delta, rest) =>
      let count := label.length + 1
      let place := i + delta
      let n := n + place / count
      if n.isValidChar then
        readFrom? (label.take (place % count) ++ Char.ofNat n :: label.drop (place % count)) n
          (place % count + 1) (adapt delta count (i == 0)) rest
      else none
termination_by cs.length
decreasing_by exact readDistance?_length h

/-- The label of an ASCII form. The last hyphen ends the ASCII characters, of which there is at
least one. -/
def decode? (cs : List Char) : Option (List Char) :=
  let extendedPart := (cs.reverse.takeWhile (· != '-')).reverse
  let basic := cs.take (cs.length - extendedPart.length - 1)
  if !basic.all (fun c => c.toNat < 0x80) then none
  else if basic.isEmpty && extendedPart.length != cs.length then none
  else readFrom? basic 0x80 0 72 extendedPart

end QuerySwarm.Url.Punycode
