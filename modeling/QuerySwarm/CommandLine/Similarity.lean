/-!
# Similar words

How alike two words are, for a hint after a misspelt one. Characters match if they are equal and not
farther apart than half the longer word; a matched character that is out of order counts for half.

Main statement: a hint is one of the candidates (`Similarity.mem_of_mem_similar`).
-/

namespace QuerySwarm.Similarity

/-- How far apart two characters of words of these lengths may match. -/
def reach (m n : Nat) : Nat := max m n / 2 - 1

/-- The first place in reach of place `i` that holds `c` and is not taken. -/
def place? (word : List Char) (taken : List Nat) (i far : Nat) (c : Char) : Option Nat :=
  (List.range word.length).find? fun j =>
    decide (i ≤ j + far) && decide (j ≤ i + far) && (word[j]? == some c) && !taken.contains j

/-- The characters of a word that match, in its order, and the places they match. -/
def matched (word other : List Char) : List Char × List Nat :=
  word.zipIdx.foldl (fun found entry =>
    match place? other found.2 entry.2 (reach word.length other.length) entry.1 with
    | some j => (found.1 ++ [entry.1], found.2 ++ [j])
    | none => found) ([], [])

/-- The characters at these places, in the order of the word. -/
def atPlaces (word : List Char) (places : List Nat) : List Char :=
  (word.zipIdx.filter fun entry => places.contains entry.2).map Prod.fst

/-- The number of places where two lists differ. -/
def differences (a b : List Char) : Nat := ((a.zip b).filter fun pair => pair.1 != pair.2).length

/-- A similarity as a fraction: its numerator and its denominator. -/
structure Score where
  numerator : Nat
  denominator : Nat
  deriving DecidableEq, Repr

/-- Whether the first fraction is below the second. -/
def Score.lt (x y : Score) : Bool :=
  decide (x.numerator * y.denominator < y.numerator * x.denominator)

/-- How alike two words are: the mean of the matched parts of both words and of the part of the
matches that is in order. -/
def score (a b : String) : Score :=
  let word := a.toList
  let other := b.toList
  let found := matched word other
  let m := found.1.length
  let inOrder := m - differences found.1 (atPlaces other found.2) / 2
  if m = 0 then ⟨if word.isEmpty && other.isEmpty then 1 else 0, 1⟩
  else ⟨m * m * other.length + m * m * word.length + inOrder * word.length * other.length,
    3 * m * word.length * other.length⟩

/-- The similarity that a hint has to be above. -/
def threshold : Score := ⟨7, 10⟩

/-- Put a candidate in its place: the candidates rise, and a later one follows its equals. -/
def insert (entry : Score × String) : List (Score × String) → List (Score × String)
  | [] => [entry]
  | head :: rest => if entry.1.lt head.1 then entry :: head :: rest else head :: insert entry rest

/-- The candidates that are like a word, the most similar one last. -/
def similar (word : String) (candidates : List String) : List String :=
  let scored := candidates.map fun candidate => (score word candidate, candidate)
  let close := scored.filter fun entry => threshold.lt entry.1
  (close.foldl (fun sorted entry => insert entry sorted) []).map Prod.snd

def closest? (word : String) (candidates : List String) : Option String :=
  (similar word candidates).getLast?

theorem mem_of_mem_similar {word hint : String} {candidates : List String}
    (h : hint ∈ similar word candidates) : hint ∈ candidates := by
  have hinsert : ∀ (entry x : Score × String) (l : List (Score × String)),
      x ∈ insert entry l → x = entry ∨ x ∈ l := by
    intro entry x l
    induction l with
    | nil => simp [insert]
    | cons head rest ih =>
      unfold insert
      split
      · simp
      · intro hx
        rcases List.mem_cons.mp hx with hx | hx
        · simp [hx]
        · rcases ih hx with hx | hx
          · simp [hx]
          · simp [hx]
  have hfold : ∀ (close sorted : List (Score × String)) (x : Score × String),
      x ∈ close.foldl (fun sorted entry => insert entry sorted) sorted → x ∈ sorted ∨ x ∈ close := by
    intro close
    induction close with
    | nil => intro sorted x hx; exact Or.inl hx
    | cons head rest ih =>
      intro sorted x hx
      rcases ih (insert head sorted) x hx with hx | hx
      · rcases hinsert head x sorted hx with hx | hx
        · simp [hx]
        · simp [hx]
      · simp [hx]
  obtain ⟨entry, hentry, rfl⟩ := List.mem_map.mp h
  rcases hfold _ _ _ hentry with hnil | hclose
  · cases hnil
  · obtain ⟨candidate, hmem, rfl⟩ := List.mem_map.mp (List.mem_filter.mp hclose).1
    exact hmem

end QuerySwarm.Similarity
