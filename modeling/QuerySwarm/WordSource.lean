/-!
# Words of randomness

A source of randomness is the list of 64-bit words that it has yet to give; one that has run out
gives zeros. It counts what was taken from it, so that it shows which choices are made without it.

A choice among `n` things multiplies a word by `n`: the high half of the product is the choice, and
the word counts only if the low half is in a zone that every choice reaches equally often. A word
that does not count is passed over.

Main statements: every word taken is counted (`WordSource.used_next`), and a choice is one of the
`n` things (`WordSource.below_lt`).
-/

namespace QuerySwarm

/-- A source of 64-bit words. -/
structure WordSource where
  words : List UInt64
  used : Nat
  deriving DecidableEq, Repr

namespace WordSource

/-- The source that gives these words first, and then zeros. -/
def ofWords (words : List UInt64) : WordSource := ⟨words, 0⟩

/-- The next word, and the source without it. -/
def next (s : WordSource) : UInt64 × WordSource := (s.words.headD 0, ⟨s.words.tail, s.used + 1⟩)

theorem used_next (s : WordSource) : s.next.2.used = s.used + 1 := rfl

/-! ### Even choices -/

def wordCount : Nat := Nat.pow 2 64

/-- The greatest low half that counts in a choice among `n` things: `n`, moved up to fill 64 bits,
less one. -/
def zone (n : Nat) : Nat := n * Nat.pow 2 (63 - n.log2) - 1

/-- The choice among `n` things that a word stands for, if the word counts. -/
def choice? (n : Nat) (word : UInt64) : Option Nat :=
  if word.toNat * n % wordCount ≤ zone n then some (word.toNat * n / wordCount) else none

/-- Choose with the first of these words that counts, or with a zero after them. -/
def belowFrom (n used : Nat) : List UInt64 → Nat × WordSource
  | [] => (0, ⟨[], used + 1⟩)
  | word :: rest =>
    match choice? n word with
    | some i => (i, ⟨rest, used + 1⟩)
    | none => belowFrom n (used + 1) rest

def below (n : Nat) (s : WordSource) : Nat × WordSource := belowFrom n s.used s.words

theorem choice?_lt {n i : Nat} {word : UInt64} (h : choice? n word = some i) (hn : 0 < n) :
    i < n := by
  unfold choice? at h
  split at h
  · cases h
    have hword : word.toNat < wordCount := word.toNat_lt
    rw [Nat.div_lt_iff_lt_mul (by decide), Nat.mul_comm n]
    exact Nat.mul_lt_mul_of_pos_right hword hn
  · cases h

theorem belowFrom_lt {n : Nat} (hn : 0 < n) (used : Nat) (words : List UInt64) :
    (belowFrom n used words).1 < n := by
  induction words generalizing used with
  | nil => exact hn
  | cons word rest ih =>
    unfold belowFrom
    split
    · next i h => exact choice?_lt h hn
    · exact ih _

/-- A choice among `n` things is one of them. -/
theorem below_lt {n : Nat} (hn : 0 < n) (s : WordSource) : (below n s).1 < n :=
  belowFrom_lt hn s.used s.words

end WordSource

end QuerySwarm
