/-!
# Scenarios

A scenario says which tasks the users of a run may pick.
-/

namespace QuerySwarm

/-- Every built-in task, the task of the template file, or both. -/
inductive Scenario where
  | catalog
  | template
  | mixed
  deriving DecidableEq, Repr

namespace Scenario

/-- All scenarios, in the order they are listed in. -/
def all : List Scenario := [.catalog, .template, .mixed]

def word : Scenario → String
  | .catalog => "catalog"
  | .template => "template"
  | .mixed => "mixed"

def name : Scenario → String
  | .catalog => "Catalog"
  | .template => "Template"
  | .mixed => "Mixed"

def ofWord? (word : String) : Option Scenario := all.find? fun s => s.word = word

theorem ofWord?_word (s : Scenario) : ofWord? s.word = some s := by
  cases s <;> decide

end Scenario

end QuerySwarm
