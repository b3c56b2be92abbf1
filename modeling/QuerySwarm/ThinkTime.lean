import QuerySwarm.Setup.Error
import QuerySwarm.WordSource

/-!
# Think time

Before each task a user waits for a time drawn evenly between two bounds, in seconds. The bounds of
a run are checked once; drawing from bounds that were not checked can fail.

A draw takes the high 52 bits of one word as a fraction, stretches it by a scale and adds the lower
bound. The scale is the greatest one, from the exact quotient downwards, that keeps the largest
fraction at or below the upper bound.

Main statements: what passes the check has finite bounds in order (`ThinkTime.check_eq_ok_iff`), and
bounds that leave no room take no word (`ThinkTime.draw_of_le`).
-/

namespace QuerySwarm

/-- The bounds of a wait, in seconds. -/
structure ThinkTime where
  min : Binary64
  max : Binary64
  deriving DecidableEq

namespace ThinkTime

/-! ### Checking -/

/-- Whether both bounds are finite and the lower one is not negative. -/
def hasBounds (t : ThinkTime) : Bool :=
  t.min.isFinite && t.max.isFinite && !t.min.lt 0

def check (t : ThinkTime) : Except SetupError Unit :=
  if !t.hasBounds then .error (.thinkTimeBounds t.min t.max)
  else if t.max.lt t.min then .error (.thinkTimeOrder t.min t.max)
  else if (Duration.ofSeconds? t.max).isNone then .error (.thinkTimeTooLong t.max)
  else .ok ()

def ofBounds (min max : Binary64) : Except SetupError ThinkTime :=
  match (ThinkTime.mk min max).check with
  | .ok () => .ok ⟨min, max⟩
  | .error e => .error e

theorem check_eq_ok_iff (t : ThinkTime) :
    t.check = .ok () ↔
      t.hasBounds = true ∧ t.max.lt t.min = false ∧ (Duration.ofSeconds? t.max).isSome = true := by
  unfold check
  cases h₁ : t.hasBounds
  · simp
  · cases h₂ : t.max.lt t.min
    · cases h₃ : Duration.ofSeconds? t.max <;> simp
    · simp

/-! ### Drawing -/

/-- Why nothing can be drawn. -/
inductive Fault where
  | emptyRange
  | rangeOverflow
  deriving DecidableEq, Repr

def Fault.message : Fault → String
  | .emptyRange => "cannot sample empty range"
  | .rangeOverflow => "Uniform::new_inclusive: range overflow"

/-- The fraction that a word stands for: its high 52 bits. -/
def fraction (word : UInt64) : Binary64 := .ofRatio false (word.toNat / Nat.pow 2 12) (Nat.pow 2 52)

/-- The largest fraction that a word can stand for. -/
def lastFraction : Binary64 := .ofRatio false (Nat.pow 2 52 - 1) (Nat.pow 2 52)

/-- Take the scale down until the largest fraction does not lead beyond the upper bound. -/
def fitScale (t : ThinkTime) (scale : Binary64) : Binary64 :=
  if _ : scale.magnitude = 0 then scale
  else if t.max.lt (scale * lastFraction + t.min) then t.fitScale scale.towardsZero
  else scale
termination_by scale.magnitude
decreasing_by exact Binary64.magnitude_towardsZero_lt (Nat.pos_of_ne_zero ‹_›)

/-- Draw a number of seconds. Bounds that leave no room give the lower one. -/
def draw (t : ThinkTime) (source : WordSource) : Except Fault (Binary64 × WordSource) :=
  if t.max.le t.min then .ok (t.min, source)
  else if !t.min.le t.max then .error .emptyRange
  else
    let scale := (t.max - t.min) / lastFraction
    if !scale.isFinite then .error .rangeOverflow
    else .ok (fraction source.next.1 * t.fitScale scale + t.min, source.next.2)

/-- Draw one wait; a number of seconds that is no span gives the longest one. -/
def sample (t : ThinkTime) (source : WordSource) : Except Fault (Duration × WordSource) :=
  (t.draw source).map fun drawn => ((Duration.ofSeconds? drawn.1).getD .longest, drawn.2)

theorem draw_of_le {t : ThinkTime} (h : t.max.le t.min = true) (source : WordSource) :
    t.draw source = .ok (t.min, source) := by
  simp [draw, h]

end ThinkTime

end QuerySwarm
