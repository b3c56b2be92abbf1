import QuerySwarm.Text.Utf8

/-!
# Environment variables

An environment is a list of entries, each of which is a name, an equals sign and a value. A lookup
takes the first entry that starts with the name and an equals sign; a value that is not text cannot
be used as one.

Main statement: a variable that was set first is found (`Environment.value?_set`).
-/

namespace QuerySwarm

/-- The entries of an environment. -/
structure Environment where
  entries : List Bytes
  deriving DecidableEq

namespace Environment

def empty : Environment := ⟨[]⟩

/-- The bytes that the entry of a variable starts with. -/
def label (name : String) : Bytes := bytesOf name ++ [0x3D]

/-- The environment with one more variable, found before the others. -/
def set (env : Environment) (name : String) (value : Bytes) : Environment :=
  ⟨(label name ++ value) :: env.entries⟩

def ofList (bindings : List (String × Bytes)) : Environment :=
  bindings.foldr (fun entry env => env.set entry.1 entry.2) empty

/-- What follows a label in an entry that starts with it. -/
def after? : Bytes → Bytes → Option Bytes
  | [], entry => some entry
  | b :: bs, c :: entry => if b = c then after? bs entry else none
  | _ :: _, [] => none

/-- Whether a variable can have a name: it is not empty and has no NUL in it. -/
def isLegalName (name : String) : Bool := !name.isEmpty && !name.toList.contains '\x00'

def value? (env : Environment) (name : String) : Option Bytes :=
  if isLegalName name then env.entries.findSome? (after? (label name)) else none

def text? (env : Environment) (name : String) : Option String := (env.value? name).bind textOf?

theorem after?_append (bytes rest : Bytes) : after? bytes (bytes ++ rest) = some rest := by
  induction bytes with
  | nil => rfl
  | cons b bs ih => simp [after?, ih]

/-- A variable that was set is found with its value. -/
theorem value?_set (env : Environment) {name : String} (value : Bytes)
    (h : isLegalName name = true) :
    (env.set name value).value? name = some value := by
  simp [value?, h, set, after?_append]

end Environment

end QuerySwarm
