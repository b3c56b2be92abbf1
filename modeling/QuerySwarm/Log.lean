import QuerySwarm.Text.Quoted

/-!
# Log

What a run reports while it goes: events in order, each with a level, the part of the program that
it comes from, a message and named fields. An event is written on one line.
-/

namespace QuerySwarm

/-- How much an event matters. -/
inductive LogLevel where
  | debug
  | info
  | warn
  | error
  deriving DecidableEq, Repr

def LogLevel.name : LogLevel → String
  | .debug => "DEBUG"
  | .info => "INFO"
  | .warn => "WARN"
  | .error => "ERROR"

/-- The value of a field: words are quoted when a line is written, a name or a number is not. -/
inductive FieldValue where
  | quotedText (text : String)
  | bare (text : String)
  deriving DecidableEq

def FieldValue.text : FieldValue → String
  | .quotedText text => text
  | .bare text => text

/-- The part of the program that an event comes from. -/
inductive LogSource where
  | profiles
  | runner
  | user
  | client
  | program
  deriving DecidableEq, Repr

def LogSource.name : LogSource → String
  | .profiles => "search_load_test::config::load_profiles"
  | .runner => "search_load_test::runner"
  | .user => "search_load_test::user"
  | .client => "search_load_test::client"
  | .program => "search_load_test"

/-- One event. -/
structure LogEvent where
  level : LogLevel
  source : LogSource
  message : String
  fields : List (String × FieldValue) := []
  deriving DecidableEq

abbrev Log := List LogEvent

namespace LogEvent

def plain (level : LogLevel) (source : LogSource) (message : String) : LogEvent :=
  ⟨level, source, message, []⟩

def fieldText (field : String × FieldValue) : String :=
  match field.2 with
  | .quotedText text => field.1 ++ "=" ++ Text.quoted text
  | .bare text => field.1 ++ "=" ++ text

/-- What is written of an event after the time and the level. -/
def body (e : LogEvent) : String :=
  " ".intercalate ((e.source.name ++ ": " ++ e.message) :: e.fields.map fieldText)

/-- An event as it is written, but for the time. -/
def line (e : LogEvent) : String := e.level.name ++ " " ++ e.body

/-- Whether an event is shown; the least of them only on request. -/
def isShown (verbose : Bool) (e : LogEvent) : Bool := verbose || e.level != .debug

end LogEvent

/-- What a program shows as it goes: an event, or a text as it is. -/
inductive Output where
  | event (event : LogEvent)
  | text (text : String)
  deriving DecidableEq

def Output.isShown (verbose : Bool) : Output → Bool
  | .event e => e.isShown verbose
  | .text _ => true

/-- What is written, but for the times of the events. -/
def Output.written : Output → String
  | .event e => e.line ++ "\n"
  | .text s => s

end QuerySwarm
