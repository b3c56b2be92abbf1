import QuerySwarm.Log
import QuerySwarm.ThinkTime

/-!
# Load profiles

A profile is the default shape of a run: how many users, how many of them start each second, and how
long they think.

Main statement: every profile passes the check of think times
(`LoadProfile.check_thinkTime_of_mem_known`).
-/

namespace QuerySwarm

/-- A default shape of a run. -/
structure LoadProfile where
  users : Nat
  spawnRate : Binary64
  thinkTime : ThinkTime
  deriving DecidableEq

namespace LoadProfile

/-- One user, for a look at the connection and the credential. -/
def smoke : LoadProfile := ⟨1, 1, ⟨1, 2⟩⟩

def standard : LoadProfile := ⟨10, 2, ⟨1, 10⟩⟩

def stress : LoadProfile := ⟨200, 20, ⟨.ofRatio false 1 2, 2⟩⟩

def known : List (String × LoadProfile) :=
  [("smoke", smoke), ("standard", standard), ("stress", stress)]

/-- What is reported when a name is not known. -/
def unknownEvent (name : String) : LogEvent :=
  .plain .warn .profiles ("Unknown profile '" ++ name ++ "', using 'standard' profile")

/-- The profile of a name; the standard one, with a warning, if the name is not known. -/
def named (name : String) : LoadProfile × Log :=
  match known.lookup name with
  | some profile => (profile, [])
  | none => (standard, [unknownEvent name])

theorem check_thinkTime_of_mem_known {entry : String × LoadProfile} (h : entry ∈ known) :
    entry.2.thinkTime.check.isOk = true := by
  simp only [known, List.mem_cons, List.not_mem_nil, or_false] at h
  rcases h with rfl | rfl | rfl <;> decide +kernel

end LoadProfile

end QuerySwarm
