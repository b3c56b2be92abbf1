import QuerySwarm.Files
import QuerySwarm.Request.Reader

/-!
# Tasks

A task is a named unit of work: one request. Its payload is fixed, or is read from a template file
each time it is needed, so that an edit of the file shows at once.

Main statements: a template task sends what the file parses to at that moment
(`Task.payload_template_of_read`), and a fixed task never looks at the files
(`Task.payload_fixed_eq`).
-/

namespace QuerySwarm

/-- Why a task has no payload. -/
inductive PayloadError where
  | unreadable (path : String) (error : FileError)
  | malformed (path : String) (failure : Json.Failure)
  | notEncoded (cause : Json.Cause)

namespace PayloadError

/-- The wording of what is behind an error, where something is. -/
def reason? : PayloadError → Option String
  | unreadable _ error => some error.message
  | malformed _ failure => some failure.message
  | notEncoded cause => some cause.message

def message : PayloadError → String
  | unreadable path error => "failed to read query template " ++ path ++ ": " ++ error.message
  | malformed path failure => "failed to parse query template " ++ path ++ ": " ++ failure.message
  | notEncoded cause => "failed to encode variables: " ++ cause.message

end PayloadError

/-- A named unit of work. -/
inductive Task where
  | fixed (name query : String) (bindings : List (String × VariableValue))
  | template (path : String)

namespace Task

def templateName : String := "searchTemplate"

/-- The template file that is read where none is named. -/
def defaultTemplateFile : String := "search-query-template.json"

/-- The name under which the samples of a task are counted. -/
def name : Task → String
  | .fixed name _ _ => name
  | .template _ => templateName

def readTemplate (path : String) (files : Files) : Except PayloadError Request :=
  match files.read path with
  | .error e => .error (.unreadable path e)
  | .ok content =>
    match Request.parse content with
    | .error failure => .error (.malformed path failure)
    | .ok request => .ok request

def payload (files : Files) : Task → Except PayloadError Request
  | .fixed _ query bindings =>
    match (Request.ofQuery query).setVariables bindings with
    | .error cause => .error (.notEncoded cause)
    | .ok request => .ok request
  | .template path => readTemplate path files

theorem payload_template_of_read {files : Files} {path : String} {content : Bytes}
    {request : Request} (hread : files.read path = .ok content)
    (hparse : Request.parse content = .ok request) :
    (Task.template path).payload files = .ok request := by
  simp [payload, readTemplate, hread, hparse]

theorem payload_fixed_eq (files files' : Files) (name query : String)
    (bindings : List (String × VariableValue)) :
    (Task.fixed name query bindings).payload files =
      (Task.fixed name query bindings).payload files' := rfl

end Task

end QuerySwarm
