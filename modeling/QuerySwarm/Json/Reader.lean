import QuerySwarm.Json.Token

/-!
# Reading JSON

`value` reads any value, nested to a limited depth; `skip` reads past a value that nobody wants,
which has no limit and whose strings need not be well-formed text. `list`, `text`, `integer64`,
`optional` and `record` read values of one kind, and say what they found instead.

A record is an object or, in the order of its fields, an array. What is wrong with a record as a
whole is reported where its closing bracket has been tried.

Main statement: reading a document ends at its last byte or fails there (`document_ok`).
-/

namespace QuerySwarm.Json

open Cursor

theorem skipBlanks_length_le (c : Cursor) : c.skipBlanks.rest.length ≤ c.rest.length := by
  rw [skipBlanks_rest]
  exact (List.dropWhile_sublist _).length_le

/-! ### Brackets, commas and colons -/

/-- Whether an array has another element; the cursor is then at it, else at the bracket. -/
def nextElement (first : Bool) (c : Cursor) : Read Bool :=
  let c := c.skipBlanks
  match c.rest with
  | [] => .error (c.fail .eofInList)
  | b :: rest =>
    if b = 0x5D then .ok (false, c)
    else if first then .ok (true, c)
    else if b = 0x2C then
      let c := (c.after b rest).skipBlanks
      match c.rest with
      | [] => .error (c.fail .eofInValue)
      | b :: _ => if b = 0x5D then .error (c.failAhead .trailingComma) else .ok (true, c)
    else .error (c.failAhead .expectedListEnd)

/-- Whether an object has another member; the cursor is then at the quote of its key, else at the
brace. -/
def nextKey (first : Bool) (c : Cursor) : Read Bool :=
  let c := c.skipBlanks
  match c.rest with
  | [] => .error (c.fail .eofInObject)
  | b :: rest =>
    if b = 0x7D then .ok (false, c)
    else if first then
      if b = 0x22 then .ok (true, c) else .error (c.failAhead .keyNotString)
    else if b = 0x2C then
      let c := (c.after b rest).skipBlanks
      match c.rest with
      | [] => .error (c.fail .eofInValue)
      | b :: _ =>
        if b = 0x22 then .ok (true, c)
        else if b = 0x7D then .error (c.failAhead .trailingComma)
        else .error (c.failAhead .keyNotString)
    else .error (c.failAhead .expectedObjectEnd)

def colon (c : Cursor) : Except Failure Cursor :=
  let c := c.skipBlanks
  match c.rest with
  | [] => .error (c.fail .eofInObject)
  | b :: rest => if b = 0x3A then .ok (c.after b rest) else .error (c.failAhead .expectedColon)

def closeList (c : Cursor) : Except Failure Cursor :=
  let c := c.skipBlanks
  match c.rest with
  | [] => .error (c.fail .eofInList)
  | b :: rest =>
    if b = 0x5D then .ok (c.after b rest)
    else if b = 0x2C then
      let c := (c.after b rest).skipBlanks
      match c.rest with
      | b :: _ => .error (c.failAhead (if b = 0x5D then .trailingComma else .trailingCharacters))
      | [] => .error (c.fail .trailingCharacters)
    else .error (c.failAhead .trailingCharacters)

def closeObject (c : Cursor) : Except Failure Cursor :=
  let c := c.skipBlanks
  match c.rest with
  | [] => .error (c.fail .eofInObject)
  | b :: rest =>
    if b = 0x7D then .ok (c.after b rest)
    else .error (c.failAhead (if b = 0x2C then .trailingComma else .trailingCharacters))

def placeOfListEnd (c : Cursor) : Cursor :=
  let c := c.skipBlanks
  match c.rest with
  | [] => c
  | b :: rest =>
    if b = 0x5D then c.after b rest
    else if b = 0x2C then (c.after b rest).skipBlanks
    else c

def placeOfObjectEnd (c : Cursor) : Cursor :=
  let c := c.skipBlanks
  match c.rest with
  | [] => c
  | b :: rest => if b = 0x7D then c.after b rest else c

/-! ### Lists and objects -/

/-- The elements of an array up to its closing bracket, with those before in reverse. -/
def elementsFrom {α : Type} (item : Cursor → Read α) (first : Bool) (done : List α) (c : Cursor) :
    Read (List α) :=
  match nextElement first c with
  | .error f => .error f
  | .ok (false, c1) => .ok (done.reverse, c1)
  | .ok (true, c1) =>
    match item c1 with
    | .error f => .error f
    | .ok (x, c2) =>
      if c2.rest.length < c.rest.length then elementsFrom item false (x :: done) c2
      else .error (c2.fail .eofInValue)
termination_by c.rest.length

/-- The elements of an array from after its opening bracket. -/
def elements {α : Type} (item : Cursor → Read α) (c : Cursor) : Read (List α) :=
  match elementsFrom item true [] c with
  | .error f => .error f
  | .ok (xs, c) =>
    match closeList c with
    | .error f => .error f
    | .ok c => .ok (xs, c)

/-- The members of an object up to its closing brace. -/
def membersFrom (item : Cursor → Read Json) (first : Bool) (done : Members) (c : Cursor) :
    Read Members :=
  match nextKey first c with
  | .error f => .error f
  | .ok (false, c1) => .ok (done, c1)
  | .ok (true, c1) =>
    match stringBody c1.next with
    | .error f => .error f
    | .ok (key, c2) =>
      match colon c2 with
      | .error f => .error f
      | .ok c3 =>
        match item c3 with
        | .error f => .error f
        | .ok (x, c4) =>
          if c4.rest.length < c.rest.length then membersFrom item false (done.set key x) c4
          else .error (c4.fail .eofInValue)
termination_by c.rest.length

/-- The members of an object from after its opening brace. -/
def membersBody (item : Cursor → Read Json) (c : Cursor) : Read Members :=
  match membersFrom item true [] c with
  | .error f => .error f
  | .ok (ms, c) =>
    match closeObject c with
    | .error f => .error f
    | .ok c => .ok (ms, c)

/-! ### Any value -/

def wordValue {α : Type} (x : α) (w : Bytes) (c : Cursor) : Read α :=
  match word w c with
  | .error f => .error f
  | .ok c => .ok (x, c)

/-- The rest of `null` after its first letter. -/
def nullRest : Bytes := [0x75, 0x6C, 0x6C]

/-- The rest of `true` after its first letter. -/
def trueRest : Bytes := [0x72, 0x75, 0x65]

/-- The rest of `false` after its first letter. -/
def falseRest : Bytes := [0x61, 0x6C, 0x73, 0x65]

/-- A scalar, or what `array` and `object` read from after an opening bracket. -/
def valueWith (array object : Cursor → Read Json) (c : Cursor) : Read Json :=
  let c := c.skipBlanks
  match c.rest with
  | [] => .error (c.fail .eofInValue)
  | b :: rest =>
    let next := c.after b rest
    if b = 0x6E then wordValue .null nullRest next
    else if b = 0x74 then wordValue (.boolean true) trueRest next
    else if b = 0x66 then wordValue (.boolean false) falseRest next
    else if b = 0x2D then (number true next).map fun (n, c) => (n.toJson, c)
    else if isDigit b then (number false c).map fun (n, c) => (n.toJson, c)
    else if b = 0x22 then (stringBody next).map fun (s, c) => (.string s, c)
    else if b = 0x5B then array c
    else if b = 0x7B then object c
    else .error (c.failAhead .expectedValue)

/-- A value that is nested at most `depth` levels deep. -/
def value : (depth : Nat) → Cursor → Read Json
  | 0 => valueWith (fun c => .error (c.failAhead .tooDeep)) (fun c => .error (c.failAhead .tooDeep))
  | depth + 1 =>
    valueWith
      (fun c => (elements (value depth) c.next).map fun (xs, c) => (.array xs, c))
      (fun c => (membersBody (value depth) c.next).map fun (ms, c) => (.object ms, c))

/-- The number of levels that a text may be nested. -/
def maxDepth : Nat := 127

/-! ### Values that nobody wants -/

/-- The kinds of brackets. -/
inductive Bracket where
  | list
  | object
  deriving DecidableEq

def Bracket.closing : Bracket → UInt8
  | .list => 0x5D
  | .object => 0x7D

/-- What is wrong when the text ends inside a bracket. -/
def Bracket.eof : Bracket → Cause
  | .list => .eofInList
  | .object => .eofInObject

/-- What is wrong when neither a comma nor the closing byte follows an item. -/
def Bracket.expectedEnd : Bracket → Cause
  | .list => .expectedListEnd
  | .object => .expectedObjectEnd

/-- Skip a string from after its opening quote. -/
def skipString (c : Cursor) : Except Failure Cursor :=
  match _hr : c.rest with
  | [] => .error (c.fail .eofInString)
  | b :: rest =>
    let next := c.after b rest
    if b = 0x22 then .ok next
    else if b = 0x5C then
      match _hn : rest with
      | [] => .error (next.fail .eofInString)
      | e :: rest' =>
        let next' := next.after e rest'
        if e = 0x75 then
          match hexEscape next' with
          | .error f => .error f
          | .ok (_, c') =>
            if c'.rest.length < c.rest.length then skipString c' else .error (c'.fail .eofInString)
        else if (shortEscape? e).isSome then skipString next'
        else .error (next'.fail .invalidEscape)
    else if b.toNat < 0x20 then .error (c.fail .controlCharacter)
    else skipString next
termination_by c.rest.length
decreasing_by
  · assumption
  · rw [Cursor.after_rest, _hr, List.length_cons, List.length_cons]
    omega
  · rw [Cursor.after_rest, _hr]
    exact Nat.lt_succ_self _

/-- Skip a scalar; `none` before an opening bracket. -/
def skipScalar (c : Cursor) : Except Failure (Option Cursor) :=
  match c.rest with
  | [] => .error (c.fail .eofInValue)
  | b :: rest =>
    let next := c.after b rest
    if b = 0x6E then (word nullRest next).map some
    else if b = 0x74 then (word trueRest next).map some
    else if b = 0x66 then (word falseRest next).map some
    else if b = 0x2D then (numeral .invalidNumber true next).map fun (_, c) => some c
    else if isDigit b then (numeral .invalidNumber false c).map fun (_, c) => some c
    else if b = 0x22 then (skipString next).map some
    else if b = 0x5B ∨ b = 0x7B then .ok none
    else .error (c.failAhead .expectedValue)

def skipKey (c : Cursor) : Except Failure Cursor :=
  let c := c.skipBlanks
  match c.rest with
  | [] => .error (c.fail .eofInObject)
  | b :: rest =>
    if b = 0x22 then
      match skipString (c.after b rest) with
      | .error f => .error f
      | .ok c => colon c
    else .error (c.failAhead .keyNotString)

mutual

/-- Skip a value inside the brackets that are open, and go on to the end of the outermost. -/
def skipValue (opened : List Bracket) (c : Cursor) : Except Failure Cursor :=
  let c1 := c.skipBlanks
  match skipScalar c1 with
  | .error f => .error f
  | .ok (some c2) =>
    if c2.rest.length < c.rest.length then skipAfter opened true c2
    else .error (c2.fail .eofInValue)
  | .ok none =>
    match c1.rest with
    | [] => .error (c1.fail .eofInValue)
    | b :: rest =>
      if rest.length < c.rest.length then
        skipAfter ((if b = 0x5B then .list else .object) :: opened) false (c1.after b rest)
      else .error (c1.fail .eofInValue)
termination_by (c.rest.length, 0)
decreasing_by
  all_goals simp_all [Prod.lex_def]

/-- Go on after an item, or at the start of a bracket if no comma may come. -/
def skipAfter (opened : List Bracket) (comma : Bool) (c : Cursor) : Except Failure Cursor :=
  match opened with
  | [] => .ok c
  | bracket :: outer =>
    let c1 := c.skipBlanks
    match c1.rest with
    | [] => .error (c1.fail bracket.eof)
    | b :: rest =>
      if comma && b == 0x2C then
        if rest.length < c.rest.length then
          skipItem bracket outer (c1.after b rest)
        else .error (c1.fail .eofInValue)
      else if b = bracket.closing then
        if rest.length < c.rest.length then
          skipAfter outer true (c1.after b rest)
        else .error (c1.fail .eofInValue)
      else if comma then .error (c1.failAhead bracket.expectedEnd)
      else skipItem bracket outer c1
termination_by (c.rest.length, 2)
decreasing_by
  · simp_all [Prod.lex_def]
  · simp_all [Prod.lex_def]
  · have hle := skipBlanks_length_le c
    simp only [Prod.lex_def]
    omega

def skipItem (bracket : Bracket) (outer : List Bracket) (c : Cursor) : Except Failure Cursor :=
  match bracket with
  | .list => skipValue (.list :: outer) c
  | .object =>
    match skipKey c with
    | .error f => .error f
    | .ok c1 =>
      if c1.rest.length ≤ c.rest.length then skipValue (.object :: outer) c1
      else .error (c1.fail .eofInValue)
termination_by (c.rest.length, 1)
decreasing_by
  · exact .right _ Nat.zero_lt_one
  · simp only [Prod.lex_def]
    omega

end

def skip (c : Cursor) : Except Failure Cursor := skipValue [] c

/-! ### Values of one kind -/

/-- The failure of a decoder that wants another kind of value than the one ahead. A scalar counts
as read. -/
def mismatch (expected : String) (c : Cursor) : Failure :=
  let failWith (found : Found) (c : Cursor) : Failure := c.fail (.invalidType found expected)
  let ofWord (found : Found) (w : Bytes) (c : Cursor) : Failure :=
    match word w c with
    | .error f => f
    | .ok c => failWith found c
  match c.rest with
  | [] => c.fail .expectedValue
  | b :: rest =>
    let next := c.after b rest
    if b = 0x6E then ofWord .null nullRest next
    else if b = 0x74 then ofWord (.boolean true) trueRest next
    else if b = 0x66 then ofWord (.boolean false) falseRest next
    else if b = 0x2D then
      match number true next with
      | .error f => f
      | .ok (n, c) => failWith n.found c
    else if isDigit b then
      match number false c with
      | .error f => f
      | .ok (n, c) => failWith n.found c
    else if b = 0x22 then
      match stringBody next with
      | .error f => f
      | .ok (s, c) => failWith (.string s) c
    else if b = 0x5B then failWith .sequence c
    else if b = 0x7B then failWith .map c
    else c.failAhead .expectedValue

def text (c : Cursor) : Read String :=
  let c := c.skipBlanks
  match c.rest with
  | [] => .error (c.fail .eofInValue)
  | b :: rest => if b = 0x22 then stringBody (c.after b rest) else .error (mismatch "a string" c)

/-- An array of items, which may be nested `depth` levels deep with it. -/
def list {α : Type} (item : Nat → Cursor → Read α) (depth : Nat) (c : Cursor) : Read (List α) :=
  let c := c.skipBlanks
  match c.rest with
  | [] => .error (c.fail .eofInValue)
  | b :: rest =>
    if b = 0x5B then
      match depth with
      | 0 => .error (c.failAhead .tooDeep)
      | depth + 1 => elements (item depth) (c.after b rest)
    else .error (mismatch "a sequence" c)

def map (depth : Nat) (c : Cursor) : Read Members :=
  let c := c.skipBlanks
  match c.rest with
  | [] => .error (c.fail .eofInValue)
  | b :: rest =>
    if b = 0x7B then
      match depth with
      | 0 => .error (c.failAhead .tooDeep)
      | depth + 1 => membersBody (value depth) (c.after b rest)
    else .error (mismatch "a map" c)

/-- Whether a number fits in 64 bits with its sign. -/
def fitsInt64 (i : Int) : Bool := decide (-(Nat.pow 2 63 : Int) ≤ i ∧ i < Nat.pow 2 63)

def integer64 (c : Cursor) : Read Int :=
  let c := c.skipBlanks
  let check : Number × Cursor → Read Int
    | (.integer i, c) =>
      if fitsInt64 i then .ok (i, c) else .error (c.fail (.invalidValue (.integer i) "i64"))
    | (.double x, c) => .error (c.fail (.invalidType (.double x) "i64"))
  match c.rest with
  | [] => .error (c.fail .eofInValue)
  | b :: rest =>
    if b = 0x2D then (number true (c.after b rest)).bind check
    else if isDigit b then (number false c).bind check
    else .error (mismatch "i64" c)

def optional {α : Type} (item : Cursor → Read α) (c : Cursor) : Read (Option α) :=
  let c := c.skipBlanks
  match c.rest with
  | b :: rest =>
    if b = 0x6E then wordValue none nullRest (c.after b rest)
    else (item c).map fun (x, c) => (some x, c)
  | [] => (item c).map fun (x, c) => (some x, c)

/-! ### Records -/

/-- Why the inside of a record could not be read: a failure with its place, or something wrong
with the record as a whole, known when the cursor was at `c`. -/
inductive Stop where
  | failed (failure : Failure)
  | whole (cause : Cause) (c : Cursor)

/-- What a record does with a key: it reads the value into its state, has had the key before, or
does not know it. -/
inductive FieldAction (σ : Type) where
  | read (reader : Cursor → Read σ)
  | duplicate
  | unknown

def inside {α : Type} (r : Except Failure α) : Except Stop α := r.mapError .failed

/-- The fields of a record that is an object, up to its closing brace. -/
def fieldsFrom {σ : Type} (field : σ → String → FieldAction σ) (first : Bool) (state : σ)
    (c : Cursor) : Except Stop (σ × Cursor) :=
  match nextKey first c with
  | .error f => .error (.failed f)
  | .ok (false, c1) => .ok (state, c1)
  | .ok (true, c1) =>
    match stringBody c1.next with
    | .error f => .error (.failed f)
    | .ok (key, c2) =>
      let readValue : Read σ :=
        match field state key with
        | .read reader => (colon c2).bind reader
        | _ => (colon c2).bind fun c => (skip c).map fun c => (state, c)
      match field state key with
      | .duplicate => .error (.whole (.duplicateField key) c2)
      | _ =>
        match readValue with
        | .error f => .error (.failed f)
        | .ok (state', c3) =>
          if c3.rest.length < c.rest.length then fieldsFrom field false state' c3
          else .error (.failed (c3.fail .eofInValue))
termination_by c.rest.length

/-- The next item of a record that is an array. -/
def nextItem {α : Type} (first : Bool) (item : Cursor → Read α) (c : Cursor) :
    Except Stop (Option α × Cursor) :=
  match nextElement first c with
  | .error f => .error (.failed f)
  | .ok (false, c) => .ok (none, c)
  | .ok (true, c) =>
    match item c with
    | .error f => .error (.failed f)
    | .ok (x, c) => .ok (some x, c)

/-- A record of a type. `byPosition` and `byName` read its inside, from after the opening bracket
up to the closing one. -/
def record {α : Type} (typeName : String) (byPosition byName : Nat → Cursor → Except Stop (α × Cursor))
    (depth : Nat) (c : Cursor) : Read α :=
  let c := c.skipBlanks
  match c.rest with
  | [] => .error (c.fail .eofInValue)
  | b :: rest =>
    let next := c.after b rest
    if b = 0x5B then
      match depth with
      | 0 => .error (c.failAhead .tooDeep)
      | depth + 1 =>
        match byPosition depth next with
        | .error (.failed f) => .error f
        | .error (.whole cause c) => .error ((placeOfListEnd c).fail cause)
        | .ok (x, c) => (closeList c).map fun c => (x, c)
    else if b = 0x7B then
      match depth with
      | 0 => .error (c.failAhead .tooDeep)
      | depth + 1 =>
        match byName depth next with
        | .error (.failed f) => .error f
        | .error (.whole cause c) => .error ((placeOfObjectEnd c).fail cause)
        | .ok (x, c) => (closeObject c).map fun c => (x, c)
    else .error (mismatch ("struct " ++ typeName) c)

/-! ### Documents -/

/-- A whole text: one value with nothing but blanks after it. -/
def document {α : Type} (reader : Nat → Cursor → Read α) (bytes : Bytes) : Except Failure α :=
  match reader maxDepth (.start bytes) with
  | .error f => .error f
  | .ok (x, c) =>
    let c := c.skipBlanks
    if c.rest.isEmpty then .ok x else .error (c.failAhead .trailingCharacters)

def parse (bytes : Bytes) : Except Failure Json := document value bytes

/-- A document is what its reader reads, up to blanks. -/
theorem document_ok {α : Type} {reader : Nat → Cursor → Read α} {bytes : Bytes} {x : α}
    (h : document reader bytes = .ok x) :
    ∃ c, reader maxDepth (.start bytes) = .ok (x, c) ∧ c.rest.dropWhile isBlank = [] := by
  unfold document at h
  split at h
  · cases h
  · next y c hr =>
    simp only at h
    split at h
    · next hc =>
      cases h
      exact ⟨c, hr, by simpa [skipBlanks_rest] using hc⟩
    · cases h

end QuerySwarm.Json
