import QuerySwarm.Text.Utf8
import QuerySwarm.Text.Quoted

/-!
# A place in a JSON text, and what can be wrong there

A cursor is what is left of a text with its line and its column, which count bytes: the column is
the number of bytes since the last line feed. A failure names its cause and its place.

Main statement: moving on by one byte shortens what is left (`Cursor.next_length`).
-/

namespace QuerySwarm.Json

/-! ### Causes -/

/-- What a decoder found where it expected something else. -/
inductive Found where
  | null
  | boolean (value : Bool)
  | integer (value : Int)
  | double (value : Binary64)
  | string (value : String)
  | sequence
  | map
  deriving DecidableEq

/-- What is wrong with a text. The last six causes arise from a decoder that wants a certain kind
of value, the others from the text alone. -/
inductive Cause where
  | eofInValue
  | eofInString
  | eofInList
  | eofInObject
  | expectedValue
  | expectedLiteral
  | expectedColon
  | expectedListEnd
  | expectedObjectEnd
  | keyNotString
  | keyNotFinite
  | trailingComma
  | trailingCharacters
  | invalidNumber
  | numberOutOfRange
  | invalidEscape
  | loneSurrogate
  | unexpectedEndOfEscape
  | controlCharacter
  | invalidUtf8
  | tooDeep
  | invalidType (found : Found) (expected : String)
  | invalidValue (found : Found) (expected : String)
  | invalidLength (length : Nat) (expected : String)
  | missingField (name : String)
  | duplicateField (name : String)
  deriving DecidableEq

def Found.message : Found → String
  | .null => "null"
  | .boolean true => "boolean `true`"
  | .boolean false => "boolean `false`"
  | .integer value => "integer `" ++ intText value ++ "`"
  | .double value => "floating point `" ++ value.jsonText ++ "`"
  | .string value => "string " ++ Text.quoted value
  | .sequence => "sequence"
  | .map => "map"

def Cause.message : Cause → String
  | .eofInValue => "EOF while parsing a value"
  | .eofInString => "EOF while parsing a string"
  | .eofInList => "EOF while parsing a list"
  | .eofInObject => "EOF while parsing an object"
  | .expectedValue => "expected value"
  | .expectedLiteral => "expected ident"
  | .expectedColon => "expected `:`"
  | .expectedListEnd => "expected `,` or `]`"
  | .expectedObjectEnd => "expected `,` or `\x7d`"
  | .keyNotString => "key must be a string"
  | .keyNotFinite => "float key must be finite"
  | .trailingComma => "trailing comma"
  | .trailingCharacters => "trailing characters"
  | .invalidNumber => "invalid number"
  | .numberOutOfRange => "number out of range"
  | .invalidEscape => "invalid escape"
  | .loneSurrogate => "lone leading surrogate in hex escape"
  | .unexpectedEndOfEscape => "unexpected end of hex escape"
  | .controlCharacter => "control character (\\u0000-\\u001F) found while parsing a string"
  | .invalidUtf8 => "invalid unicode code point"
  | .tooDeep => "recursion limit exceeded"
  | .invalidType found expected => "invalid type: " ++ found.message ++ ", expected " ++ expected
  | .invalidValue found expected => "invalid value: " ++ found.message ++ ", expected " ++ expected
  | .invalidLength length expected =>
    "invalid length " ++ natText length ++ ", expected " ++ expected
  | .missingField name => "missing field `" ++ name ++ "`"
  | .duplicateField name => "duplicate field `" ++ name ++ "`"

/-- A cause with its place. -/
structure Failure where
  cause : Cause
  line : Nat
  column : Nat
  deriving DecidableEq

def Failure.message (f : Failure) : String :=
  f.cause.message ++ " at line " ++ natText f.line ++ " column " ++ natText f.column

/-! ### Cursors -/

/-- What is left of a text, and where that begins. -/
structure Cursor where
  rest : Bytes
  line : Nat
  column : Nat

namespace Cursor

def start (text : Bytes) : Cursor := ⟨text, 1, 0⟩

/-- The place after the byte `b`, when `rest` follows it. -/
def after (c : Cursor) (b : UInt8) (rest : Bytes) : Cursor :=
  if b = 0x0A then ⟨rest, c.line + 1, 0⟩ else ⟨rest, c.line, c.column + 1⟩

/-- The place after one byte; at the end there is nowhere to go. -/
def next (c : Cursor) : Cursor :=
  match c.rest with
  | [] => c
  | b :: rest => c.after b rest

def drop : Nat → Cursor → Cursor
  | 0, c => c
  | n + 1, c => drop n c.next

def fail (c : Cursor) (cause : Cause) : Failure := ⟨cause, c.line, c.column⟩

/-- A failure at the byte ahead, which counts as read. -/
def failAhead (c : Cursor) (cause : Cause) : Failure := c.next.fail cause

@[simp] theorem after_rest (c : Cursor) (b : UInt8) (rest : Bytes) :
    (c.after b rest).rest = rest := by
  unfold after
  split <;> rfl

theorem next_length (c : Cursor) : c.next.rest.length = c.rest.length - 1 := by
  unfold next
  split <;> simp_all

theorem drop_rest (n : Nat) (c : Cursor) : (c.drop n).rest = c.rest.drop n := by
  induction n generalizing c with
  | zero => rfl
  | succ n ih =>
    rw [drop, ih]
    unfold next
    split <;> simp_all

theorem drop_length (n : Nat) (c : Cursor) : (c.drop n).rest.length = c.rest.length - n := by
  simp [drop_rest]

/-- The blanks of JSON: space, tab, line feed and carriage return. -/
def isBlank (b : UInt8) : Bool := b == 0x20 || b == 0x09 || b == 0x0A || b == 0x0D

/-- Move `rest` from a line and a column past its leading blanks. -/
def skipBlanksFrom (line column : Nat) : Bytes → Cursor
  | [] => ⟨[], line, column⟩
  | b :: rest =>
    if b = 0x0A then skipBlanksFrom (line + 1) 0 rest
    else if isBlank b then skipBlanksFrom line (column + 1) rest
    else ⟨b :: rest, line, column⟩

/-- The place of the next byte that is no blank. -/
def skipBlanks (c : Cursor) : Cursor := skipBlanksFrom c.line c.column c.rest

theorem skipBlanksFrom_rest (bytes : Bytes) :
    ∀ line column, (skipBlanksFrom line column bytes).rest = bytes.dropWhile isBlank := by
  induction bytes with
  | nil => intro _ _; rfl
  | cons b rest ih =>
    intro line column
    unfold skipBlanksFrom
    split
    · next h => subst h; rw [ih]; rfl
    · split
      · next h => rw [ih, List.dropWhile_cons, if_pos h]
      · next h => rw [List.dropWhile_cons, if_neg h]

theorem skipBlanks_rest (c : Cursor) : c.skipBlanks.rest = c.rest.dropWhile isBlank :=
  skipBlanksFrom_rest _ _ _

end Cursor

/-- What reading gives: a value and the place after it, or a failure. -/
abbrev Read (α : Type) := Except Failure (α × Cursor)

end QuerySwarm.Json
