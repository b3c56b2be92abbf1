import QuerySwarm.Latency.Statistics

/-!
# The tally of a run

A run counts its users, its requests and, under the name of each task, the requests and failures of
that task, and it records how long requests took, over all and for each task.

Counters, overall latencies and latencies for each task are kept apart: each write changes one of the
three at once, and what a finished request writes is three writes in a row. A reader sees the counters
of one moment and the latencies of later ones.

Main statements: a request that is started is counted as one in flight
(`Tally.write_started_inFlight`), and no write to the counters changes a latency
(`Tally.latencies_of_counter`).
-/

namespace QuerySwarm

/-- How many requests were started, went well, failed, and are not finished. -/
structure RequestCounts where
  started : Nat
  succeeded : Nat
  failed : Nat
  inFlight : Nat
  deriving DecidableEq, Repr

namespace RequestCounts

def none : RequestCounts := ⟨0, 0, 0, 0⟩

def start (c : RequestCounts) : RequestCounts :=
  { c with started := c.started + 1, inFlight := c.inFlight + 1 }

def succeed (c : RequestCounts) : RequestCounts :=
  { c with succeeded := c.succeeded + 1, inFlight := c.inFlight - 1 }

def fail (c : RequestCounts) : RequestCounts :=
  { c with failed := c.failed + 1, inFlight := c.inFlight - 1 }

def finished (c : RequestCounts) : Nat := c.succeeded + c.failed

end RequestCounts

/-- How many users were started, and how many of them have not stopped. -/
structure UserCounts where
  spawned : Nat
  active : Nat
  deriving DecidableEq, Repr

/-- The requests of one task, and how many of them failed. -/
structure OperationCounts where
  requests : Nat
  failures : Nat
  deriving DecidableEq, Repr

def OperationCounts.none : OperationCounts := ⟨0, 0⟩

/-- The load of the machine that the run is on. -/
structure SystemFigures where
  cpuUsage : Binary64
  memoryUsed : Nat
  memoryTotal : Nat
  deriving DecidableEq

/-- The figures before the machine was looked at. -/
def SystemFigures.none : SystemFigures := ⟨0, 0, 0⟩

/-- The counters of a run, as they are at one moment. -/
structure Counters where
  requests : RequestCounts
  users : UserCounts
  operations : SortedMap String OperationCounts
  system : SystemFigures
  deriving DecidableEq

def Counters.none : Counters := ⟨.none, ⟨0, 0⟩, .empty, .none⟩

/-- The counters and the latencies of a run. -/
structure Tally where
  counters : Counters
  latency : Histogram
  operationLatency : SortedMap String Histogram
  deriving DecidableEq

namespace Tally

def empty : Tally := ⟨.none, .empty, .empty⟩

/-! ### Writes -/

/-- What is written at once. -/
inductive Write where
  | userSpawned
  | userStopped
  | requestStarted (operation : String)
  | requestSucceeded
  | requestFailed (operation : String)
  | latency (milliseconds : Nat)
  | operationLatency (operation : String) (milliseconds : Nat)
  | system (figures : SystemFigures)
  deriving DecidableEq

def countRequest (c : Option OperationCounts) : OperationCounts :=
  let counts := c.getD .none
  { counts with requests := counts.requests + 1 }

def countFailure (c : Option OperationCounts) : OperationCounts :=
  let counts := c.getD .none
  { counts with failures := counts.failures + 1 }

def writeCounters (c : Counters) : Write → Counters
  | .userSpawned => { c with users := ⟨c.users.spawned + 1, c.users.active + 1⟩ }
  | .userStopped => { c with users := ⟨c.users.spawned, c.users.active - 1⟩ }
  | .requestStarted operation =>
    { c with
      requests := c.requests.start
      operations := c.operations.update operation countRequest }
  | .requestSucceeded => { c with requests := c.requests.succeed }
  | .requestFailed operation =>
    { c with
      requests := c.requests.fail
      operations := c.operations.update operation countFailure }
  | .system figures => { c with system := figures }
  | .latency _ => c
  | .operationLatency .. => c

def write (t : Tally) : Write → Tally
  | .latency milliseconds => { t with latency := t.latency.record milliseconds }
  | .operationLatency operation milliseconds =>
    { t with operationLatency :=
        t.operationLatency.update operation fun h => (h.getD .empty).record milliseconds }
  | other => { t with counters := writeCounters t.counters other }

def writeAll (t : Tally) (writes : List Write) : Tally := writes.foldl write t

def successWrites (operation : String) (milliseconds : Nat) : List Write :=
  [.requestSucceeded, .latency milliseconds, .operationLatency operation milliseconds]

def failureWrites (operation : String) (milliseconds : Nat) : List Write :=
  [.requestFailed operation, .latency milliseconds, .operationLatency operation milliseconds]

/-! ### What happens in a run -/

def userSpawned (t : Tally) : Tally := t.write .userSpawned

def userStopped (t : Tally) : Tally := t.write .userStopped

def requestStarted (t : Tally) (operation : String) : Tally := t.write (.requestStarted operation)

def requestSucceeded (t : Tally) (operation : String) (milliseconds : Nat) : Tally :=
  t.writeAll (successWrites operation milliseconds)

def requestFailed (t : Tally) (operation : String) (milliseconds : Nat) : Tally :=
  t.writeAll (failureWrites operation milliseconds)

/-! ### What is read -/

def statistics (t : Tally) : Latency.Statistics := .ofHistogram t.latency

/-- The statistics of each task's latencies, in the order of the names. -/
def operationStatistics (t : Tally) : List (String × Latency.Statistics) :=
  (t.operationLatency.mapValues .ofHistogram).entries

/-- A request that is started is one in flight. -/
theorem write_started_inFlight (t : Tally) (operation : String) :
    (t.requestStarted operation).counters.requests.inFlight =
      t.counters.requests.inFlight + 1 := rfl

/-- No write to the counters changes a latency. -/
theorem latencies_of_counter (t : Tally) {w : Write}
    (h : ∀ milliseconds, w ≠ .latency milliseconds)
    (h' : ∀ operation milliseconds, w ≠ .operationLatency operation milliseconds) :
    (t.write w).latency = t.latency ∧ (t.write w).operationLatency = t.operationLatency := by
  cases w with
  | latency milliseconds => exact absurd rfl (h milliseconds)
  | operationLatency operation milliseconds => exact absurd rfl (h' operation milliseconds)
  | _ => exact ⟨rfl, rfl⟩

end Tally

end QuerySwarm
