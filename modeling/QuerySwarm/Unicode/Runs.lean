/-!
# Sets of code points as runs

A property table is written as the lengths of the runs of code points that are outside and inside
the set, in turn and from zero on, in base 36. `Runs.ofLines` reads such a table and
`Runs.contains` looks a character up.

Main statement: a code point is in the set exactly when one of the runs covers it
(`Runs.contains_iff`).
-/

namespace QuerySwarm.Unicode

def digitValue (c : Char) : Nat :=
  if c.isDigit then c.toNat - '0'.toNat else c.toNat - 'a'.toNat + 10

/-- The numbers of a text in base 36, which single blanks separate. -/
def numbersFrom (current : Nat) : List Char → List Nat
  | [] => [current]
  | c :: cs =>
    if c = ' ' then current :: numbersFrom 0 cs
    else numbersFrom (current * 36 + digitValue c) cs

def numbers (lines : List String) : List Nat := lines.flatMap fun line => numbersFrom 0 line.toList

/-- A set of code points: the first and the last of each run. -/
structure Runs where
  bounds : List (Nat × Nat)

namespace Runs

/-- The runs from `start` on, of lengths outside and inside the set in turn. -/
def boundsFrom (start : Nat) : List Nat → List (Nat × Nat)
  | outside :: inside :: rest =>
    let first := start + outside
    (first, first + inside - 1) :: boundsFrom (first + inside) rest
  | _ => []

/-- The set that the lines of a table describe. -/
def ofLines (lines : List String) : Runs := ⟨boundsFrom 0 (numbers lines)⟩

def contains (r : Runs) (c : Char) : Bool :=
  r.bounds.any fun (first, last) => decide (first ≤ c.toNat) && decide (c.toNat ≤ last)

theorem contains_iff (r : Runs) (c : Char) :
    r.contains c = true ↔ ∃ run ∈ r.bounds, run.1 ≤ c.toNat ∧ c.toNat ≤ run.2 := by
  simp [contains]

end Runs

end QuerySwarm.Unicode
