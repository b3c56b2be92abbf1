import QuerySwarm.Binary64.Basic

/-!
# Spans of time

A duration is a whole number of nanoseconds. One that is read from a double number of seconds is
rounded to the nearest nanosecond and has fewer than `2^64` seconds; a clock can be moved forward
only as far as its own range reaches.

Main statements: `ofSeconds?` refuses exactly the negative numbers, the infinities, what is not a
number and what rounds beyond the range (`ofSeconds?_finite`), and what a clock can add never
decreases with the span (`Clock.canAdd_of_le`).
-/

namespace QuerySwarm

/-- A span of time in nanoseconds. -/
structure Duration where
  nanoseconds : Nat
  deriving DecidableEq, Repr

def nanosecondsPerSecond : Nat := 1000000000

namespace Duration

def ofParts (seconds nanoseconds : Nat) : Duration :=
  ⟨seconds * nanosecondsPerSecond + nanoseconds⟩

def ofSeconds (seconds : Nat) : Duration := ofParts seconds 0

def ofMilliseconds (milliseconds : Nat) : Duration := ⟨milliseconds * 1000000⟩

def seconds (d : Duration) : Nat := d.nanoseconds / nanosecondsPerSecond

/-- The nanoseconds of a span beyond its whole seconds. -/
def subsecond (d : Duration) : Nat := d.nanoseconds % nanosecondsPerSecond

def milliseconds (d : Duration) : Nat := d.nanoseconds / 1000000

def zero : Duration := ⟨0⟩

/-- The first span that is too long to be stored: `2^64` seconds. -/
def limit : Nat := Nat.pow 2 64 * nanosecondsPerSecond

def longest : Duration := ⟨limit - 1⟩

instance : Add Duration := ⟨fun d e => ⟨d.nanoseconds + e.nanoseconds⟩⟩

def times (d : Duration) (n : Nat) : Duration := ⟨n * d.nanoseconds⟩

def max (d e : Duration) : Duration := ⟨Nat.max d.nanoseconds e.nanoseconds⟩

/-- The span of a number of seconds, rounded to the nearest nanosecond, a tie going to the even
one. -/
def ofSeconds? : Binary64 → Option Duration
  | .finite negative units _ =>
    let nanoseconds := roundHalfEven (units * nanosecondsPerSecond) unitsPerOne
    if (negative && units != 0) || decide (limit ≤ nanoseconds) then none else some ⟨nanoseconds⟩
  | _ => none

/-- The number of seconds in a span, as a double. -/
def toSeconds (d : Duration) : Binary64 := .ofRatio false d.nanoseconds nanosecondsPerSecond

theorem ofSeconds?_finite (units : Nat) (h : Representable units) :
    ofSeconds? (.finite false units h) =
      if limit ≤ roundHalfEven (units * nanosecondsPerSecond) unitsPerOne then none
      else some ⟨roundHalfEven (units * nanosecondsPerSecond) unitsPerOne⟩ := by
  simp [ofSeconds?]

end Duration

/-! ### The clock -/

/-- A monotonic clock: the time it shows. It counts seconds in 63 bits. -/
structure Clock where
  now : Duration
  deriving DecidableEq, Repr

namespace Clock

/-- The first instant out of the clock's range. -/
def range : Duration := .ofSeconds (Nat.pow 2 63)

/-- Whether the instant `d` from now is in the clock's range. -/
def canAdd (c : Clock) (d : Duration) : Bool :=
  decide (c.now.nanoseconds + d.nanoseconds < range.nanoseconds)

theorem canAdd_of_le (c : Clock) {d e : Duration} (h : d.nanoseconds ≤ e.nanoseconds)
    (he : c.canAdd e = true) : c.canAdd d = true := by
  simp only [canAdd, decide_eq_true_eq] at *
  omega

end Clock

end QuerySwarm
