import QuerySwarm.Proofs.Sums
import QuerySwarm.Tally

/-!
# What writes add up to

Each write to a tally adds one or nothing to each of its figures, whatever the tally is: the kinds
of writes are told apart here, and one lemma for each figure says which kind moves it. Only the
requests in flight are counted down.
-/

namespace QuerySwarm

namespace Tally

/-! ### Kinds of writes -/

namespace Write

def spawns : Write → Bool
  | .userSpawned => true
  | _ => false

def stops : Write → Bool
  | .userStopped => true
  | _ => false

def starts : Write → Bool
  | .requestStarted _ => true
  | _ => false

def ends : Write → Bool
  | .requestSucceeded => true
  | .requestFailed _ => true
  | _ => false

def succeeds : Write → Bool
  | .requestSucceeded => true
  | _ => false

def fails : Write → Bool
  | .requestFailed _ => true
  | _ => false

def records : Write → Bool
  | .latency _ => true
  | _ => false

/-- It records a latency under the name of a task. -/
def files : Write → Bool
  | .operationLatency .. => true
  | _ => false

/-- It counts a request of this task that is started. -/
def startsIn (operation : String) : Write → Bool
  | .requestStarted name => name = operation
  | _ => false

/-- It counts a request of this task that failed. -/
def failsIn (operation : String) : Write → Bool
  | .requestFailed name => name = operation
  | _ => false

def filesIn (operation : String) : Write → Bool
  | .operationLatency name _ => name = operation
  | _ => false

end Write

/-! ### Figures -/

def requestsOf (t : Tally) (operation : String) : Nat :=
  ((t.counters.operations.get? operation).getD .none).requests

def failuresOf (t : Tally) (operation : String) : Nat :=
  ((t.counters.operations.get? operation).getD .none).failures

/-- The latencies that were recorded for a task. -/
def recordedOf (t : Tally) (operation : String) : Nat :=
  ((t.operationLatency.get? operation).getD .empty).total

def operationRequests (t : Tally) : Nat := t.counters.operations.total OperationCounts.requests

def operationFailures (t : Tally) : Nat := t.counters.operations.total OperationCounts.failures

/-- The latencies that were recorded for all tasks. -/
def operationRecorded (t : Tally) : Nat := t.operationLatency.total Histogram.total

section Writes

variable (t : Tally) (w : Write) (operation : String)

theorem spawned_write : (t.write w).counters.users.spawned =
    t.counters.users.spawned + w.spawns.toNat := by
  cases w <;> rfl

theorem active_write : (t.write w).counters.users.active =
    t.counters.users.active + w.spawns.toNat - w.stops.toNat := by
  cases w <;> rfl

theorem started_write : (t.write w).counters.requests.started =
    t.counters.requests.started + w.starts.toNat := by
  cases w <;> rfl

theorem succeeded_write : (t.write w).counters.requests.succeeded =
    t.counters.requests.succeeded + w.succeeds.toNat := by
  cases w <;> rfl

theorem failed_write : (t.write w).counters.requests.failed =
    t.counters.requests.failed + w.fails.toNat := by
  cases w <;> rfl

theorem finished_write : (t.write w).counters.requests.finished =
    t.counters.requests.finished + w.ends.toNat := by
  have hends : w.ends.toNat = w.succeeds.toNat + w.fails.toNat := by cases w <;> rfl
  simp only [RequestCounts.finished]
  rw [succeeded_write, failed_write, hends]
  omega

theorem inFlight_write : (t.write w).counters.requests.inFlight =
    t.counters.requests.inFlight + w.starts.toNat - w.ends.toNat := by
  cases w <;> rfl

theorem recorded_write : (t.write w).latency.total = t.latency.total + w.records.toNat := by
  cases w <;> rfl

end Writes

/-! ### The figures of the tasks -/

theorem adds_requests_countRequest :
    SortedMap.Adds OperationCounts.requests .none countRequest 1 := fun _ => rfl

theorem adds_requests_countFailure :
    SortedMap.Adds OperationCounts.requests .none countFailure 0 := fun _ => rfl

theorem adds_failures_countRequest :
    SortedMap.Adds OperationCounts.failures .none countRequest 0 := fun _ => rfl

theorem adds_failures_countFailure :
    SortedMap.Adds OperationCounts.failures .none countFailure 1 := fun _ => rfl

theorem adds_total_record (milliseconds : Nat) :
    SortedMap.Adds Histogram.total .empty (fun h => (h.getD .empty).record milliseconds) 1 :=
  fun _ => rfl

section Operations

variable (t : Tally) (w : Write) (operation : String)

theorem requestsOf_write : (t.write w).requestsOf operation =
    t.requestsOf operation + (w.startsIn operation).toNat := by
  cases w with
  | requestStarted name =>
    refine (adds_requests_countRequest.measure_get?_update _ name operation).trans ?_
    by_cases h : name = operation <;> simp [h, requestsOf, Write.startsIn]
  | requestFailed name =>
    refine (adds_requests_countFailure.measure_get?_update _ name operation).trans ?_
    rw [ite_self]
    rfl
  | _ => rfl

theorem failuresOf_write : (t.write w).failuresOf operation =
    t.failuresOf operation + (w.failsIn operation).toNat := by
  cases w with
  | requestStarted name =>
    refine (adds_failures_countRequest.measure_get?_update _ name operation).trans ?_
    rw [ite_self]
    rfl
  | requestFailed name =>
    refine (adds_failures_countFailure.measure_get?_update _ name operation).trans ?_
    by_cases h : name = operation <;> simp [h, failuresOf, Write.failsIn]
  | _ => rfl

theorem recordedOf_write : (t.write w).recordedOf operation =
    t.recordedOf operation + (w.filesIn operation).toNat := by
  cases w with
  | operationLatency name milliseconds =>
    refine ((adds_total_record milliseconds).measure_get?_update _ name operation).trans ?_
    by_cases h : name = operation <;> simp [h, recordedOf, Write.filesIn]
  | _ => rfl

theorem operationRequests_write :
    (t.write w).operationRequests = t.operationRequests + w.starts.toNat := by
  cases w with
  | requestStarted name => exact adds_requests_countRequest.total_update rfl _ name
  | requestFailed name => exact adds_requests_countFailure.total_update rfl _ name
  | _ => rfl

theorem operationFailures_write :
    (t.write w).operationFailures = t.operationFailures + w.fails.toNat := by
  cases w with
  | requestStarted name => exact adds_failures_countRequest.total_update rfl _ name
  | requestFailed name => exact adds_failures_countFailure.total_update rfl _ name
  | _ => rfl

theorem operationRecorded_write :
    (t.write w).operationRecorded = t.operationRecorded + w.files.toNat := by
  cases w with
  | operationLatency name milliseconds =>
    exact (adds_total_record milliseconds).total_update rfl _ name
  | _ => rfl

end Operations

/-! ### Writes in a row -/

/-- What each write adds to a figure, all of them add to it. -/
theorem figure_writeAll (figure : Tally → Nat) (kind : Write → Bool)
    (h : ∀ t w, figure (t.write w) = figure t + (kind w).toNat) (t : Tally) (writes : List Write) :
    figure (t.writeAll writes) = figure t + writes.countP kind := by
  induction writes generalizing t with
  | nil => rfl
  | cons w rest ih =>
    show figure ((t.write w).writeAll rest) = _
    rw [ih, h, List.countP_cons, Nat.add_assoc]
    cases kind w
    · simp
    · simp [Nat.add_comm]

end Tally

end QuerySwarm
