import QuerySwarm.Json.Printer
import QuerySwarm.Json.Cursor

/-!
# Search requests

The body of a request is a query with named variables. A variable of the search interface is a list
of inputs, each of which may give keywords, filters, a limit and the kinds of related items.

Main statements: variables are stored in the order of their names (`Request.bindings_sorted`), and
a body is written the same way every time because it is a function of the request (`Request.body`).
-/

namespace QuerySwarm

/-- A property and the values it may have. -/
structure SearchFilter where
  property : String
  values : List String
  deriving DecidableEq

/-- One input of a search; a field that is not given is left out of the text. -/
structure SearchInput where
  keywords : Option (List String)
  filters : Option (List SearchFilter)
  limit : Option Int
  relatedKinds : Option (List String)
  deriving DecidableEq

/-- A query with its variables. -/
structure Request where
  query : String
  bindings : Members

/-! ### The forms of inputs -/

namespace SearchFilter

def toJson (f : SearchFilter) : Json :=
  .object [("property", .string f.property), ("values", .array (f.values.map .string))]

end SearchFilter

namespace SearchInput

def empty : SearchInput := ⟨none, none, none, none⟩

def ofKeywords (keywords : List String) : SearchInput := { empty with keywords := some keywords }

def ofFilters (filters : List SearchFilter) : SearchInput := { empty with filters := some filters }

def withLimit (input : SearchInput) (limit : Int) : SearchInput :=
  { input with limit := some limit }

def member {α : Type} (name : String) (form : α → Json) : Option α → List (String × Json)
  | none => []
  | some x => [(name, form x)]

def strings (xs : List String) : Json := .array (xs.map .string)

/-- The form of an input, its fields in the order of the interface. -/
def toJson (input : SearchInput) : Json :=
  .object
    (member "keywords" strings input.keywords ++
      member "filters" (fun fs => .array (fs.map SearchFilter.toJson)) input.filters ++
      member "limit" .integer input.limit ++
      member "relatedKinds" strings input.relatedKinds)

end SearchInput

/-! ### Variables -/

namespace Json

mutual

/-- The value with the members of every object in the order of their keys. -/
def canonical : Json → Json
  | .array elements => .array (canonicalElements elements)
  | .object members => .object (Members.ofList (canonicalMembers members))
  | other => other

def canonicalElements : List Json → List Json
  | [] => []
  | e :: es => canonical e :: canonicalElements es

/-- The members of an object with their canonical values. -/
def canonicalMembers : List (String × Json) → List (String × Json)
  | [] => []
  | (key, value) :: ms => (key, canonical value) :: canonicalMembers ms

end

end Json

/-- What can be given for a variable. A table has keys of any kind; it has a form only if they can
be written as strings. -/
inductive VariableValue where
  | json (value : Json)
  | double (x : Binary64)
  | search (input : SearchInput)
  | searches (inputs : List SearchInput)
  | table (entries : List (Json × Json))

namespace VariableValue

/-- The string that a key is written as. Numbers and truth values have one, but for doubles that are
not finite; `null`, arrays and objects have none. -/
def keyText : Json → Except Json.Cause String
  | .string key => .ok key
  | .integer key => .ok (intText key)
  | .double key => if key.isFinite then .ok key.jsonText else .error .keyNotFinite
  | .boolean true => .ok "true"
  | .boolean false => .ok "false"
  | _ => .error .keyNotString

/-- The members of a table; the first key without a string is what is wrong with it. -/
def tableMembers : List (Json × Json) → Except Json.Cause (List (String × Json))
  | [] => .ok []
  | (key, value) :: rest =>
    match keyText key with
    | .error cause => .error cause
    | .ok key =>
      match tableMembers rest with
      | .error cause => .error cause
      | .ok members => .ok ((key, value.canonical) :: members)

/-- The form of what is given for a variable. -/
def toJson : VariableValue → Except Json.Cause Json
  | .json value => .ok value.canonical
  | .double x => .ok (.ofDouble x)
  | .search input => .ok input.toJson.canonical
  | .searches inputs => .ok (Json.array (inputs.map SearchInput.toJson)).canonical
  | .table entries =>
    match tableMembers entries with
    | .error cause => .error cause
    | .ok members => .ok (.ofMembers members)

end VariableValue

namespace Request

def ofQuery (query : String) : Request := ⟨query, []⟩

/-- The request with one more variable; a name that is there already takes the new value. -/
def setVariable (r : Request) (name : String) (value : VariableValue) :
    Except Json.Cause Request :=
  match value.toJson with
  | .ok form => .ok { r with bindings := r.bindings.set name form }
  | .error cause => .error cause

/-- The request with several more variables, given from left to right. -/
def setVariables (r : Request) : List (String × VariableValue) → Except Json.Cause Request
  | [] => .ok r
  | (name, value) :: rest =>
    match r.setVariable name value with
    | .ok r => r.setVariables rest
    | .error cause => .error cause

def toJson (r : Request) : Json :=
  .object [("query", .string r.query), ("variables", .object r.bindings)]

/-- The text that is sent as the body of a request. -/
def body (r : Request) : String := r.toJson.compactText

def prettyBody (r : Request) : String := r.toJson.prettyText

/-- The variables stay in the order of their names. -/
theorem bindings_sorted {r r' : Request} {values : List (String × VariableValue)}
    (hr : Members.Sorted r.bindings) (h : r.setVariables values = .ok r') :
    Members.Sorted r'.bindings := by
  induction values generalizing r with
  | nil => cases h; exact hr
  | cons entry rest ih =>
    obtain ⟨name, value⟩ := entry
    unfold setVariables at h
    split at h
    · next r₁ h₁ =>
      refine ih ?_ h
      unfold setVariable at h₁
      split at h₁
      · cases h₁; exact Members.sorted_set _ _ hr
      · cases h₁
    · cases h

end Request

end QuerySwarm
