import QuerySwarm.Client

/-!
# Users

The users of a run are numbered from zero, and their numbers are their names. A user carries the
token, and takes samples: each is counted when it is started and recorded when it is over.

Main statements: no two users share a name (`User.name_injective`), and a sample is counted under
the name of its task, whatever comes of it (`User.started_execute`).
-/

namespace QuerySwarm

/-- A user of a run. -/
structure User where
  number : Nat
  token : BearerToken
  deriving DecidableEq

/-- A sample that is over: what came of it, the tally with it, what was reported, and all that was
delivered so far. -/
structure Sampled where
  result : Except SampleError Nat
  tally : Tally
  log : Log
  delivered : List HttpRequest

namespace User

def nameOf (number : Nat) : String := "user" ++ natText number

def name (u : User) : String := nameOf u.number

def startEvent (number : Nat) : LogEvent :=
  .plain .info .user ("Starting user [" ++ nameOf number ++ "]")

/-- What is reported when a sample of a user failed. -/
def failureEvent (number : Nat) (operation : String) (error : SampleError) : LogEvent :=
  .plain .error .runner
    ("User " ++ nameOf number ++ " failed " ++ operation ++ ": " ++ error.message)

/-- Take one sample of a task, and record it as one that took so long. -/
def execute (u : User) (c : Client) (net : Network) (files : Files) (task : Task)
    (milliseconds : Nat) (t : Tally) (delivered : List HttpRequest) : Sampled :=
  let performed := c.perform net u.token files task delivered
  { result := performed.1.result
    tally := performed.1.record task.name milliseconds (t.requestStarted task.name)
    log := performed.1.events u.name task.name milliseconds
    delivered := performed.2 }

/-- A sample is counted as started, whatever comes of it. -/
theorem started_execute (u : User) (c : Client) (net : Network) (files : Files) (task : Task)
    (milliseconds : Nat) (t : Tally) (delivered : List HttpRequest) :
    (u.execute c net files task milliseconds t delivered).tally.counters.requests.started =
      t.counters.requests.started + 1 := by
  unfold execute Outcome.record
  dsimp only
  split <;> rfl

theorem name_injective {m n : Nat} (h : nameOf m = nameOf n) : m = n := by
  unfold nameOf at h
  exact natText_injective (String.append_right_inj "user" |>.1 h)

end User

end QuerySwarm
