import QuerySwarm.Scenario
import QuerySwarm.Task.Basic
import QuerySwarm.Token

/-!
# What the command line asks for

The options of a run with the values that they have where they are not given, and the options of the
command that shows a payload.
-/

namespace QuerySwarm

/-- The options of a run. What is `none` is left to the profile or left out. A path is a text here,
so that one which is not UTF-8 is left out. -/
structure RunOptions where
  host : String
  profile : String
  users : Option Nat
  spawnRate : Option Binary64
  minWait : Option Binary64
  maxWait : Option Binary64
  duration : Nat
  scenario : Scenario
  only : List String
  templateFile : String
  tokenVariable : String
  tokenFile : Option String
  tagOperations : Bool
  debugResponses : Bool
  validateResponses : Bool
  requestTimeout : Nat
  reportInterval : Nat
  reportPath : Option String
  verbose : Bool
  deriving DecidableEq

namespace RunOptions

def defaultHost : String := "https://localhost:4010"

/-- The variable that gives the host where no option does. -/
def hostVariable : String := "SEARCH_API_HOST"

/-- The variable that holds the token where none is named. -/
def defaultTokenVariable : String := "API_TOKEN"

def default : RunOptions where
  host := defaultHost
  profile := "standard"
  users := none
  spawnRate := none
  minWait := none
  maxWait := none
  duration := 60
  scenario := .catalog
  only := []
  templateFile := Task.defaultTemplateFile
  tokenVariable := defaultTokenVariable
  tokenFile := none
  tagOperations := false
  debugResponses := false
  validateResponses := false
  requestTimeout := 60
  reportInterval := 5
  reportPath := none
  verbose := false

/-- Where the token comes from: a file, if one is given, or else a variable. -/
def tokenSource (o : RunOptions) : TokenSource :=
  match o.tokenFile with
  | some path => .file path
  | none => .environment o.tokenVariable

end RunOptions

/-- The options of the command that shows a payload. The path is a text, as in the options of a run.
-/
structure PayloadOptions where
  operation : String
  templateFile : String
  pretty : Bool
  deriving DecidableEq, Repr

/-- The options of showing the payload of an operation, where no more is given. -/
def PayloadOptions.default : PayloadOptions := ⟨"", Task.defaultTemplateFile, false⟩

/-- What the command line asks for. -/
inductive Command where
  | run (options : RunOptions)
  | tasks
  | payload (options : PayloadOptions)
  deriving DecidableEq

end QuerySwarm
