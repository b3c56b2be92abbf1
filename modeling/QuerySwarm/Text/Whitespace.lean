/-!
# White space

The property White_Space of Unicode, and trimming at both ends by it.

Main statement: a trimmed text neither begins nor ends with white space, and trimming changes
nothing else (`head?_trimStart`, `trim_eq_self`).
-/

namespace QuerySwarm.Text

def isWhitespace (c : Char) : Bool :=
  let n := c.toNat
  decide ((9 ≤ n ∧ n ≤ 13) ∨ n = 0x20 ∨ n = 0x85 ∨ n = 0xA0 ∨ n = 0x1680 ∨
    (0x2000 ≤ n ∧ n ≤ 0x200A) ∨ n = 0x2028 ∨ n = 0x2029 ∨ n = 0x202F ∨ n = 0x205F ∨ n = 0x3000)

/-- The characters without white space at the front. -/
def trimStart (cs : List Char) : List Char := cs.dropWhile isWhitespace

/-- The characters without white space at the end. -/
def trimEnd (cs : List Char) : List Char := (cs.reverse.dropWhile isWhitespace).reverse

/-- The characters without white space at either end. -/
def trim (cs : List Char) : List Char := trimEnd (trimStart cs)

/-- What is left by trimming does not begin with white space. -/
theorem head?_trimStart (cs : List Char) :
    ∀ c, (trimStart cs).head? = some c → isWhitespace c = false := by
  intro c h
  induction cs with
  | nil => simp [trimStart] at h
  | cons a cs ih =>
    unfold trimStart at h
    rw [List.dropWhile_cons] at h
    split at h
    · exact ih h
    · next ha =>
      simp only [List.head?_cons, Option.some.injEq] at h
      subst h
      simpa using ha

/-- Text that does not begin with white space keeps its front. -/
theorem trimStart_eq_self {cs : List Char}
    (h : ∀ c, cs.head? = some c → isWhitespace c = false) : trimStart cs = cs := by
  cases cs with
  | nil => rfl
  | cons a cs => simp [trimStart, h a rfl]

/-- Text that does not end with white space keeps its end. -/
theorem trimEnd_eq_self {cs : List Char}
    (h : ∀ c, cs.getLast? = some c → isWhitespace c = false) : trimEnd cs = cs := by
  have : trimStart cs.reverse = cs.reverse := trimStart_eq_self (by simpa using h)
  unfold trimStart at this
  simp [trimEnd, this]

/-- Trimming changes exactly the texts that begin or end with white space. -/
theorem trim_eq_self {cs : List Char}
    (hhead : ∀ c, cs.head? = some c → isWhitespace c = false)
    (hlast : ∀ c, cs.getLast? = some c → isWhitespace c = false) : trim cs = cs := by
  rw [trim, trimStart_eq_self hhead, trimEnd_eq_self hlast]

end QuerySwarm.Text
