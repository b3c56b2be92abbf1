import QuerySwarm.CommandLine.Form
import QuerySwarm.CommandLine.Similarity

/-!
# Why a command line is refused

A command line that asks for help or for the version is answered with a text; any other that cannot
be followed has a cause, hints, and a line that says how the command is used.
-/

namespace QuerySwarm.CommandLine

/-- Why a command line is not followed. -/
inductive Cause where
  | help (text : String)
  | missingCommand (help : String)
  | version (text : String)
  | unknownArgument (argument : String)
  | unknownCommand (word : String)
  | missingValue (label : String) (choices : List String)
  | unlistedValue (value label : String) (choices : List String)
  | malformedValue (value label reason : String)
  | repeated (label : String)
  | unneededValue (value label : String)
  | missingOperand (name : String)
  | notText
  deriving DecidableEq, Repr

def choiceLine (choices : List String) : String :=
  if choices.isEmpty then "" else "\n  [possible values: " ++ ", ".intercalate choices ++ "]"

/-- The wording of a cause; the whole text, where the cause is one. -/
def Cause.message : Cause → String
  | .help text => text
  | .missingCommand text => text
  | .version text => text
  | .unknownArgument argument => "error: unexpected argument '" ++ argument ++ "' found"
  | .unknownCommand word => "error: unrecognized subcommand '" ++ word ++ "'"
  | .missingValue label choices =>
    "error: a value is required for '" ++ label ++ "' but none was supplied" ++ choiceLine choices
  | .unlistedValue value label choices =>
    "error: invalid value '" ++ value ++ "' for '" ++ label ++ "'" ++ choiceLine choices
  | .malformedValue value label reason =>
    "error: invalid value '" ++ value ++ "' for '" ++ label ++ "': " ++ reason
  | .repeated label => "error: the argument '" ++ label ++ "' cannot be used multiple times"
  | .unneededValue value label =>
    "error: unexpected value '" ++ value ++ "' for '" ++ label ++ "' found; no more were expected"
  | .missingOperand name =>
    "error: the following required arguments were not provided:\n  <" ++ name ++ ">"
  | .notText => "error: invalid UTF-8 was detected in one or more arguments"

/-- Whether what is answered is a text that was asked for. -/
def Cause.isAnswer : Cause → Bool
  | .help _ => true
  | .version _ => true
  | _ => false

/-- A refusal: its cause, the hints, and how the command is used. -/
structure Refusal where
  cause : Cause
  hints : List String
  usage? : Option String
  deriving DecidableEq, Repr

namespace Refusal

def ofCause (cause : Cause) : Refusal := ⟨cause, [], none⟩

def text (r : Refusal) : String :=
  match r.cause with
  | .help text => text
  | .missingCommand text => text
  | .version text => text
  | cause =>
    cause.message ++
      (if r.hints.isEmpty then ""
       else "\n" ++ String.join (r.hints.map fun hint => "\n  tip: " ++ hint)) ++
      (match r.usage? with
       | some usage => "\n\n" ++ usage
       | none => "") ++
      "\n\nFor more information, try '--help'.\n"

end Refusal

/-- The hint at one similar thing or at several. -/
def similarHint (kind : String) : List String → List String
  | [] => []
  | [one] => ["a similar " ++ kind ++ " exists: '" ++ one ++ "'"]
  | several =>
    ["some similar " ++ kind ++ "s exist: " ++
      ", ".intercalate (several.map fun word => "'" ++ word ++ "'")]

end QuerySwarm.CommandLine
