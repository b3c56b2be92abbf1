import QuerySwarm.Request.Basic
import QuerySwarm.Json.Reader

/-!
# Reading search requests

A request, an input and a filter are records: objects with named fields, of which unknown ones are
passed over and repeated ones refused, or arrays that give the fields by position. A request needs
its query and a filter both its fields; all else may be left out.

Main statement: a filter by name is accepted only with both fields (`SearchFilter.finish_ok_iff`).
-/

namespace QuerySwarm

open Json

abbrev Slot (α : Type) := Option α

def fillSlot {σ α : Type} (slot : Slot α) (reader : Cursor → Read α) (store : α → σ) :
    FieldAction σ :=
  match slot with
  | some _ => .duplicate
  | none => .read fun c => (reader c).map fun (x, c) => (store x, c)

/-! ### Filters -/

namespace SearchFilter

/-- The fields of a filter that have been read. -/
structure Fields where
  property : Slot String
  values : Slot (List String)

def field (depth : Nat) (s : Fields) (key : String) : FieldAction Fields :=
  if key = "property" then fillSlot s.property text fun x => { s with property := some x }
  else if key = "values" then
    fillSlot s.values (list (fun _ => text) depth) fun x => { s with values := some x }
  else .unknown

/-- The filter that has been read, or the first field that is missing. -/
def finish (s : Fields) : Except Cause SearchFilter :=
  match s.property, s.values with
  | none, _ => .error (.missingField "property")
  | _, none => .error (.missingField "values")
  | some property, some values => .ok ⟨property, values⟩

/-- A filter is complete exactly when both fields have been read. -/
theorem finish_ok_iff (s : Fields) (f : SearchFilter) :
    finish s = .ok f ↔ s.property = some f.property ∧ s.values = some f.values := by
  obtain ⟨property, values⟩ := s
  obtain ⟨p, vs⟩ := f
  cases property <;> cases values <;> simp [finish]

/-- The inside of a filter that is an object. -/
def byName (depth : Nat) (c : Cursor) : Except Stop (SearchFilter × Cursor) :=
  match fieldsFrom (field depth) true ⟨none, none⟩ c with
  | .error e => .error e
  | .ok (s, c) =>
    match finish s with
    | .ok f => .ok (f, c)
    | .error cause => .error (.whole cause c)

/-- What is expected of an array that stands for a filter. -/
def arrayForm : String := "struct SearchFilter with 2 elements"

def byPosition (depth : Nat) (c : Cursor) : Except Stop (SearchFilter × Cursor) :=
  match nextItem true text c with
  | .error e => .error e
  | .ok (none, c) => .error (.whole (.invalidLength 0 arrayForm) c)
  | .ok (some property, c) =>
    match nextItem false (list (fun _ => text) depth) c with
    | .error e => .error e
    | .ok (none, c) => .error (.whole (.invalidLength 1 arrayForm) c)
    | .ok (some values, c) => .ok (⟨property, values⟩, c)

def read : Nat → Cursor → Read SearchFilter := record "SearchFilter" byPosition byName

end SearchFilter

/-! ### Inputs -/

namespace SearchInput

/-- The fields of an input that have been read. A field may be given as `null`. -/
structure Fields where
  keywords : Slot (Option (List String))
  filters : Slot (Option (List SearchFilter))
  limit : Slot (Option Int)
  relatedKinds : Slot (Option (List String))

/-- The strings of a field that may be `null`. -/
def readStrings (depth : Nat) : Cursor → Read (Option (List String)) :=
  optional (list (fun _ => text) depth)

/-- The filters of a field that may be `null`. -/
def readFilters (depth : Nat) : Cursor → Read (Option (List SearchFilter)) :=
  optional (list SearchFilter.read depth)

def field (depth : Nat) (s : Fields) (key : String) : FieldAction Fields :=
  if key = "keywords" then
    fillSlot s.keywords (readStrings depth) fun x => { s with keywords := some x }
  else if key = "filters" then
    fillSlot s.filters (readFilters depth) fun x => { s with filters := some x }
  else if key = "limit" then
    fillSlot s.limit (optional integer64) fun x => { s with limit := some x }
  else if key = "relatedKinds" then
    fillSlot s.relatedKinds (readStrings depth) fun x => { s with relatedKinds := some x }
  else .unknown

/-- The input that has been read; a field that was left out is absent. -/
def finish (s : Fields) : SearchInput :=
  ⟨s.keywords.join, s.filters.join, s.limit.join, s.relatedKinds.join⟩

/-- The inside of an input that is an object. -/
def byName (depth : Nat) (c : Cursor) : Except Stop (SearchInput × Cursor) :=
  match fieldsFrom (field depth) true ⟨none, none, none, none⟩ c with
  | .error e => .error e
  | .ok (s, c) => .ok (finish s, c)

/-- The inside of an input that is an array. An array may end before any of the fields. -/
def byPosition (depth : Nat) (c : Cursor) : Except Stop (SearchInput × Cursor) := do
  let (keywords, c) ← nextItem true (readStrings depth) c
  let (filters, c) ← nextItem false (readFilters depth) c
  let (limit, c) ← nextItem false (optional integer64) c
  let (relatedKinds, c) ← nextItem false (readStrings depth) c
  return (finish ⟨keywords, filters, limit, relatedKinds⟩, c)

def read : Nat → Cursor → Read SearchInput := record "SearchInput" byPosition byName

end SearchInput

/-! ### Requests -/

namespace Request

/-- The fields of a request that have been read. -/
structure Fields where
  query : Slot String
  bindings : Slot Members

def field (depth : Nat) (s : Fields) (key : String) : FieldAction Fields :=
  if key = "query" then fillSlot s.query text fun x => { s with query := some x }
  else if key = "variables" then
    fillSlot s.bindings (map depth) fun x => { s with bindings := some x }
  else .unknown

def finish (s : Fields) : Except Cause Request :=
  match s.query with
  | none => .error (.missingField "query")
  | some query => .ok ⟨query, s.bindings.getD []⟩

/-- The inside of a request that is an object. -/
def byName (depth : Nat) (c : Cursor) : Except Stop (Request × Cursor) :=
  match fieldsFrom (field depth) true ⟨none, none⟩ c with
  | .error e => .error e
  | .ok (s, c) =>
    match finish s with
    | .ok r => .ok (r, c)
    | .error cause => .error (.whole cause c)

/-- What is expected of an array that stands for a request. -/
def arrayForm : String := "struct GraphqlRequest with 2 elements"

/-- The inside of a request that is an array. -/
def byPosition (depth : Nat) (c : Cursor) : Except Stop (Request × Cursor) :=
  match nextItem true text c with
  | .error e => .error e
  | .ok (none, c) => .error (.whole (.invalidLength 0 arrayForm) c)
  | .ok (some query, c) =>
    match nextItem false (map depth) c with
    | .error e => .error e
    | .ok (bindings, c) => .ok (⟨query, bindings.getD []⟩, c)

def read : Nat → Cursor → Read Request := record "GraphqlRequest" byPosition byName

def parse (bytes : Bytes) : Except Failure Request := document read bytes

end Request

def SearchFilter.parse (bytes : Bytes) : Except Failure SearchFilter :=
  document SearchFilter.read bytes

def SearchInput.parse (bytes : Bytes) : Except Failure SearchInput :=
  document SearchInput.read bytes

end QuerySwarm
