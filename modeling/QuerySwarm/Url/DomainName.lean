import QuerySwarm.Url.Punycode
import QuerySwarm.Unicode.Mapping
import QuerySwarm.Unicode.Joining
import QuerySwarm.Unicode.Direction
import QuerySwarm.Unicode.Mark

/-!
# Domain names in ASCII

A domain name is mapped character by character and composed, and then cut into labels. A label with
characters beyond ASCII is checked and written in Punycode; a label that is in Punycode already has
to decode to one that passes the same checks.

Main statement: a name that has an ASCII form has one without forbidden characters
(`toAscii?_allowed`).
-/

namespace QuerySwarm.Url.DomainName

/-- The characters of ASCII that no host may have. -/
def isForbidden (c : Char) : Bool :=
  decide (c.toNat ≤ 0x20) || c.toNat == 0x7F || c == '%' || c == '#' || c == '/' || c == ':' ||
    c == '<' || c == '>' || c == '?' || c == '@' || c == '[' || c == '\\' || c == ']' ||
    c == '^' || c == '|'

def isAscii (c : Char) : Bool := decide (c.toNat < 0x80)

/-- Map every character of a name; `none` if one is refused. -/
def mapAll? : List Char → Option (List Char)
  | [] => some []
  | c :: cs =>
    match Unicode.mapped? c, mapAll? cs with
    | some ms, some rest => some (ms ++ rest)
    | _, _ => none

def punycodeMark : List Char := ['x', 'n', '-', '-']

/-- The rest of a label after the mark of Punycode. -/
def afterMark? : List Char → Option (List Char)
  | 'x' :: 'n' :: '-' :: '-' :: rest => some rest
  | _ => none

def maxPunycodeLength : Nat := 2000

/-- The longest label that is written in Punycode. -/
def maxLabelLength : Nat := 1000

/-- Whether the characters of a label may stand where they are. -/
def isValidLabel (label : List Char) : Bool :=
  !Unicode.beginsWithMark label && Unicode.joinersInPlace label

/-- A label that has been checked: its characters and its ASCII form. -/
structure Label where
  characters : List Char
  ascii : List Char

def label? (cs : List Char) : Option Label :=
  match afterMark? cs with
  | some rest =>
    if maxPunycodeLength < rest.length then none
    else match Punycode.decode? rest with
      | none => none
      | some decoded =>
        if decoded.all isAscii || decoded.contains '.' || !decoded.all Unicode.isKept ||
            Unicode.composed decoded != decoded || !isValidLabel decoded then none
        else some ⟨decoded, cs⟩
  | none =>
    if cs.all isAscii then some ⟨cs, cs⟩
    else if !isValidLabel cs || decide (maxLabelLength < cs.length) then none
    else some ⟨cs, punycodeMark ++ Punycode.encode cs⟩

def dotted : List (List Char) → List Char
  | [] => []
  | [l] => l
  | l :: ls => l ++ '.' :: dotted ls

def toAscii? (cs : List Char) : Option (List Char) :=
  match mapAll? cs with
  | none => none
  | some mapped =>
    let mapped := if mapped.all isAscii then mapped else Unicode.composed mapped
    match (mapped.splitOn '.').mapM label? with
    | none => none
    | some labels =>
      let bidirectional := labels.any fun l => Unicode.isBidirectional l.characters
      let ascii := dotted (labels.map Label.ascii)
      if (bidirectional && !labels.all fun l => Unicode.keepsDirection l.characters) ||
          ascii.any isForbidden then none
      else some ascii

/-- No character of an ASCII form is forbidden. -/
theorem toAscii?_allowed {cs ascii : List Char} (h : toAscii? cs = some ascii) :
    ∀ c ∈ ascii, isForbidden c = false := by
  unfold toAscii? at h
  split at h
  · cases h
  · simp only at h
    split at h
    · cases h
    · split at h
      · cases h
      · next hc =>
        cases h
        simp only [Bool.or_eq_true, not_or, Bool.not_eq_true, List.any_eq_false] at hc
        exact fun c hm => by simpa using hc.2 c hm

end QuerySwarm.Url.DomainName
