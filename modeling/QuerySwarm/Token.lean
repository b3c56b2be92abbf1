import QuerySwarm.Environment
import QuerySwarm.Setup.Error
import QuerySwarm.Text.Whitespace

/-!
# Bearer tokens

The credential of a run is a text that is not blank, without the blanks at its ends. It comes from a
file or from an environment variable, is resolved once, and is never shown: all that is shown of it
is its length.

Main statements: a text gives a token exactly if it is not blank (`BearerToken.ofText?_isSome_iff`),
and tokens of one length are shown alike (`BearerToken.redacted_eq_of_length_eq`).
-/

namespace QuerySwarm

/-- A credential: not empty, and without blanks at its ends. -/
structure BearerToken where
  text : String
  not_empty : text.toList ≠ []
  deriving DecidableEq

namespace BearerToken

/-- The token in a text; there is none in a blank one. -/
def ofText? (raw : String) : Option BearerToken :=
  if h : Text.trim raw.toList = [] then none
  else some ⟨String.ofList (Text.trim raw.toList), by simpa using h⟩

/-- The value of the header that carries the token. -/
def header (t : BearerToken) : String := "Bearer " ++ t.text

def byteCount (t : BearerToken) : Nat := (bytesOf t.text).length

def redacted (t : BearerToken) : String :=
  "BearerToken(<" ++ natText t.byteCount ++ " chars>)"

theorem ofText?_isSome_iff (raw : String) :
    (ofText? raw).isSome = true ↔ Text.trim raw.toList ≠ [] := by
  unfold ofText?
  split <;> simp_all

/-- A token holds the text without the blanks at its ends. -/
theorem text_of_ofText? {raw : String} {t : BearerToken} (h : ofText? raw = some t) :
    t.text = String.ofList (Text.trim raw.toList) := by
  unfold ofText? at h
  split at h
  · cases h
  · cases h
    rfl

theorem redacted_eq_of_length_eq {t u : BearerToken} (h : t.byteCount = u.byteCount) :
    t.redacted = u.redacted := by
  simp [redacted, h]

end BearerToken

/-! ### Where a token comes from -/

/-- The source of a token. -/
inductive TokenSource where
  | environment (variableName : String)
  | file (path : String)
  deriving DecidableEq, Repr

namespace TokenSource

def describe : TokenSource → String
  | .environment name => "env:" ++ name
  | .file path => "file:" ++ path

/-- The token of a variable, by any way of looking variables up. -/
def lookup (name : String) (value? : String → Option String) : Except SetupError BearerToken :=
  match (value? name).bind BearerToken.ofText? with
  | some token => .ok token
  | none => .error (.missingToken name)

def read (path : String) (files : Files) : Except SetupError BearerToken :=
  match files.readText path with
  | .error e => .error (.tokenFile path e)
  | .ok raw =>
    match BearerToken.ofText? raw with
    | some token => .ok token
    | none => .error (.emptyTokenFile path)

def resolve (source : TokenSource) (env : Environment) (files : Files) :
    Except SetupError BearerToken :=
  match source with
  | .environment name => lookup name env.text?
  | .file path => read path files

end TokenSource

end QuerySwarm
