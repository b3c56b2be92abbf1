import QuerySwarm.Setup.Error
import QuerySwarm.Task.Set

/-!
# The built-in tasks

Seven searches with fixed payloads. They have different names, none of which is the name of a
template task, and each of them has a payload.

Main statements: the names differ (`TaskSet.catalog_names_nodup`), and every built-in task has a
payload (`TaskSet.payload_isOk_of_mem_catalog`).
-/

namespace QuerySwarm

namespace Task

/-- A search whose only variable is a list of inputs. -/
def ofInputs (name query : String) (inputs : List SearchInput) : Task :=
  .fixed name query [("input", .searches inputs)]

/-- An input with a filter for one value of one property. -/
def whereIs (property value : String) : SearchInput := .ofFilters [⟨property, [value]⟩]

def byKeyword : Task :=
  .ofInputs "searchByKeyword"
    "query searchByKeyword($input: [SearchInput]) \x7b search(input: $input) \x7b items \x7d \x7d"
    [(SearchInput.ofKeywords ["openshift"]).withLimit 1000]

def byFilter : Task :=
  .ofInputs "searchByFilter"
    "query searchByFilter($input: [SearchInput]) \x7b search(input: $input) \x7b items \x7d \x7d"
    [(whereIs "namespace" "default").withLimit 1000]

def count : Task :=
  .ofInputs "searchCount"
    "query searchCount($input: [SearchInput]) \x7b search(input: $input) \x7b count \x7d \x7d"
    [whereIs "kind" "Pod", whereIs "kind" "Deployment"]

def complete : Task :=
  .fixed "searchComplete"
    "query searchComplete($property: String!, $query: SearchInput, $limit: Int) \x7b searchComplete(property: $property, query: $query, limit: $limit) \x7d"
    [("property", .json (.string "name")), ("limit", .json (.integer 1000))]

def relatedCount : Task :=
  .ofInputs "searchRelatedCount"
    "query searchRelatedCount($input: [SearchInput]) \x7b search(input: $input) \x7b related \x7b kind count \x7d \x7d \x7d"
    [(whereIs "name" "search-api").withLimit 1000]

/-- What is related to the items of one kind. -/
def relatedItems : Task :=
  .ofInputs "searchRelatedItems"
    "query searchRelatedItems($input: [SearchInput]) \x7b search(input: $input) \x7b related \x7b kind items \x7d \x7d \x7d"
    [(whereIs "kind" "Deployment").withLimit 100]

def schema : Task := .fixed "searchSchema" "query searchSchema \x7b searchSchema \x7d" []

end Task

namespace TaskSet

def catalog : TaskSet :=
  ⟨[.byKeyword, .byFilter, .count, .complete, .relatedCount, .relatedItems, .schema]⟩

theorem catalog_names_nodup : catalog.names.Nodup := by decide

/-- The name of a template task is not a built-in one. -/
theorem templateName_not_mem_catalog : Task.templateName ∉ catalog.names := by decide

theorem payload_isOk_of_mem_catalog {task : Task} (h : task ∈ catalog.tasks) (files : Files) :
    (task.payload files).isOk = true := by
  simp only [catalog, List.mem_cons, List.not_mem_nil, or_false] at h
  rcases h with rfl | rfl | rfl | rfl | rfl | rfl | rfl <;> rfl

/-! ### Scenarios -/

def ofScenario (templateFile : String) : Scenario → TaskSet
  | .catalog => catalog
  | .template => empty.add (.template templateFile)
  | .mixed => catalog.add (.template templateFile)

/-- The tasks of these names, in this order; a name that has none is given back. -/
def restrict (set : TaskSet) : List String → Except String TaskSet
  | [] => .ok empty
  | name :: names =>
    match set.get? name with
    | none => .error name
    | some task => (restrict set names).map fun rest => ⟨task :: rest.tasks⟩

/-- The tasks of a scenario, restricted to these names if there are any. -/
def select (scenario : Scenario) (templateFile : String) (only : List String) :
    Except SetupError TaskSet :=
  let full := ofScenario templateFile scenario
  if only.isEmpty then .ok full
  else (full.restrict only).mapError fun name => .unknownTask name scenario full.names

theorem select_singleton (scenario : Scenario) (path name : String) :
    select scenario path [name] =
      match (ofScenario path scenario).get? name with
      | some task => .ok ⟨[task]⟩
      | none => .error (.unknownTask name scenario (ofScenario path scenario).names) := by
  unfold select
  dsimp only
  rw [if_neg (by simp), restrict]
  cases (ofScenario path scenario).get? name <;> rfl

/-- A restricted set has the names it was restricted to. -/
theorem names_of_restrict {set restricted : TaskSet} {names : List String}
    (h : set.restrict names = .ok restricted) : restricted.names = names := by
  induction names generalizing restricted with
  | nil =>
    cases h
    rfl
  | cons name rest ih =>
    unfold restrict at h
    split at h
    · cases h
    · next task hget =>
      cases hrest : set.restrict rest with
      | error e =>
        rw [hrest] at h
        cases h
      | ok found =>
        rw [hrest] at h
        cases h
        simp [TaskSet.names, name_of_get? hget, ← ih hrest]

end TaskSet

end QuerySwarm
