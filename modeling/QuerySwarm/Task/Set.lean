import QuerySwarm.Task.Basic
import QuerySwarm.Text.Quoted
import QuerySwarm.WordSource

/-!
# Task sets

The tasks that a user picks from, in the order they were added. A name may be there twice; looking
it up finds the first.

Main statements: a choice is a member of the set (`TaskSet.mem_of_choose`), and a look-up finds a
task of that name (`TaskSet.name_of_get?`).
-/

namespace QuerySwarm

/-- The tasks that a user picks from. -/
structure TaskSet where
  tasks : List Task

namespace TaskSet

def empty : TaskSet := ⟨[]⟩

def add (set : TaskSet) (task : Task) : TaskSet := ⟨set.tasks ++ [task]⟩

def size (set : TaskSet) : Nat := set.tasks.length

def isEmpty (set : TaskSet) : Bool := set.tasks.isEmpty

def names (set : TaskSet) : List String := set.tasks.map Task.name

def get? (set : TaskSet) (name : String) : Option Task :=
  set.tasks.find? fun task => task.name = name

/-- Pick a task, each as likely as the others; an empty set takes no word. -/
def choose (set : TaskSet) (source : WordSource) : Option Task × WordSource :=
  if set.tasks.isEmpty then (none, source)
  else (set.tasks[(source.below set.size).1]?, (source.below set.size).2)

/-- The set as a text: the quoted names of its tasks. -/
def describe (set : TaskSet) : String :=
  "TaskSet \x7b tasks: [" ++ ", ".intercalate (set.names.map Text.quoted) ++ "] \x7d"

theorem names_add (set : TaskSet) (task : Task) :
    (set.add task).names = set.names ++ [task.name] := by
  simp [names, add]

theorem mem_of_choose {set : TaskSet} {source : WordSource} {task : Task}
    (h : (set.choose source).1 = some task) : task ∈ set.tasks := by
  unfold choose at h
  split at h
  · cases h
  · exact List.mem_of_getElem? h

/-- Something is picked from a set that has tasks. -/
theorem isSome_choose {set : TaskSet} (h : set.tasks ≠ []) (source : WordSource) :
    ((set.choose source).1).isSome = true := by
  have hpos : 0 < set.size := List.length_pos_iff.mpr h
  have hlt : (source.below set.size).1 < set.tasks.length := WordSource.below_lt hpos source
  simp [choose, h, hlt]

/-- What is found under a name has that name. -/
theorem name_of_get? {set : TaskSet} {name : String} {task : Task}
    (h : set.get? name = some task) : task.name = name := by
  simpa using List.find?_some h

theorem get?_eq_none_iff {set : TaskSet} {name : String} :
    set.get? name = none ↔ name ∉ set.names := by
  simp [get?, names]

theorem get?_add (set : TaskSet) (task : Task) (name : String) :
    (set.add task).get? name =
      (set.get? name).or (if task.name = name then some task else none) := by
  unfold get? add
  rw [List.find?_append, List.find?_singleton]
  simp only [decide_eq_true_eq]

end TaskSet

end QuerySwarm
