import QuerySwarm.Json.Value

/-!
# Writing JSON

The compact text has no blanks; the pretty text puts every element and every member on a line of
its own, two spaces deeper than its parent, and leaves empty arrays and objects on one line.

Main statement: a string's text has no quote, no backslash and no control of its own
(`escapedChar_of_plain`).
-/

namespace QuerySwarm.Json

/-! ### Strings -/

def hexDigit (n : Nat) : Char := Nat.digitChar n

/-- A character between the quotes of a string. -/
def escapedChar (c : Char) : List Char :=
  if c = '"' then ['\\', '"']
  else if c = '\\' then ['\\', '\\']
  else if c.toNat = 0x08 then ['\\', 'b']
  else if c.toNat = 0x0C then ['\\', 'f']
  else if c = '\n' then ['\\', 'n']
  else if c = '\r' then ['\\', 'r']
  else if c = '\t' then ['\\', 't']
  else if c.toNat < 0x20 then
    ['\\', 'u', '0', '0', hexDigit (c.toNat / 16), hexDigit (c.toNat % 16)]
  else [c]

def stringText (s : String) : List Char :=
  '"' :: (s.toList.flatMap escapedChar ++ ['"'])

theorem escapedChar_of_plain {c : Char} (hq : c ≠ '"') (hb : c ≠ '\\') (hc : 0x20 ≤ c.toNat) :
    escapedChar c = [c] := by
  have control : ∀ d : Char, d.toNat < 0x20 → c ≠ d := by
    rintro d hd rfl
    omega
  unfold escapedChar
  rw [if_neg hq, if_neg hb, if_neg (by omega), if_neg (by omega),
    if_neg (control '\n' (by decide)), if_neg (control '\r' (by decide)),
    if_neg (control '\t' (by decide)), if_neg (by omega)]

def separated : List (List Char) → List Char
  | [] => []
  | [t] => t
  | t :: ts => t ++ ',' :: separated ts

def openBrace : Char := '\x7b'

def closeBrace : Char := '\x7d'

/-! ### Compact text -/

mutual

def compact : Json → List Char
  | .null => ['n', 'u', 'l', 'l']
  | .boolean true => ['t', 'r', 'u', 'e']
  | .boolean false => ['f', 'a', 'l', 's', 'e']
  | .integer value => (intText value).toList
  | .double value => Binary64.jsonLayout.write value
  | .string value => stringText value
  | .array elements => '[' :: (separated (compactElements elements) ++ [']'])
  | .object members => openBrace :: (separated (compactMembers members) ++ [closeBrace])

/-- The compact texts of the elements of an array. -/
def compactElements : List Json → List (List Char)
  | [] => []
  | e :: es => compact e :: compactElements es

/-- The compact texts of the members of an object. -/
def compactMembers : List (String × Json) → List (List Char)
  | [] => []
  | (key, value) :: ms => (stringText key ++ ':' :: compact value) :: compactMembers ms

end

/-! ### Pretty text -/

def newline (depth : Nat) : List Char := '\n' :: List.replicate (2 * depth) ' '

/-- The body of an array or object at a depth: its parts on lines one deeper. -/
def block (opening closing : Char) (depth : Nat) (parts : List (List Char)) : List Char :=
  if parts.isEmpty then [opening, closing]
  else opening :: (separated (parts.map (newline (depth + 1) ++ ·)) ++ newline depth ++ [closing])

mutual

/-- The pretty text of a value whose first line is at a depth. -/
def prettyAt (depth : Nat) : Json → List Char
  | .array elements => block '[' ']' depth (prettyElements (depth + 1) elements)
  | .object members => block openBrace closeBrace depth (prettyMembers (depth + 1) members)
  | .null => ['n', 'u', 'l', 'l']
  | .boolean true => ['t', 'r', 'u', 'e']
  | .boolean false => ['f', 'a', 'l', 's', 'e']
  | .integer value => (intText value).toList
  | .double value => Binary64.jsonLayout.write value
  | .string value => stringText value

/-- The pretty texts of the elements of an array. -/
def prettyElements (depth : Nat) : List Json → List (List Char)
  | [] => []
  | e :: es => prettyAt depth e :: prettyElements depth es

/-- The pretty texts of the members of an object. -/
def prettyMembers (depth : Nat) : List (String × Json) → List (List Char)
  | [] => []
  | (key, value) :: ms =>
    (stringText key ++ ':' :: ' ' :: prettyAt depth value) :: prettyMembers depth ms

end

def compactText (value : Json) : String := String.ofList (compact value)

def prettyText (value : Json) : String := String.ofList (prettyAt 0 value)

end QuerySwarm.Json
