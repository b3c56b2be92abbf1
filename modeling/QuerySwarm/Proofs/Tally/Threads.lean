import QuerySwarm.Proofs.Tally.Writes

/-!
# Threads that share a tally

Threads send requests and count them in one tally. Counting a request that is started is one write,
but a request that is finished is three writes, one after the other, and other threads write in
between. What the figures of the tally say of each other at every moment therefore depends on where
the threads are.

* **Turns** (`Stage.Turn`): what a thread writes next. What a turn adds to the tally it takes from
  the stage of its thread (`Stage.Turn.flight`, `Stage.Turn.passes` and their like).
* **The invariant** (`Pool.Tallied`): a figure and the threads that are still to write it make
  another figure. A turn keeps it (`Pool.tallied_of_step`).
* `Pool.figures_of_trace` says what follows for the figures alone.
-/

namespace QuerySwarm

open Tally (Write)

/-! ### Threads -/

/-- Where a thread is with its request: there is none, it is on its way, or it is finished and the
latencies are still to be recorded, or only the one under the name of the task. -/
inductive Stage where
  | idle
  | underway (operation : String)
  | recording (operation : String) (milliseconds : Nat)
  | filing (operation : String) (milliseconds : Nat)

namespace Stage

def isUnderway : Stage → Bool
  | .underway _ => true
  | _ => false

def isRecording : Stage → Bool
  | .recording .. => true
  | _ => false

def isFiling : Stage → Bool
  | .filing .. => true
  | _ => false

def isIn (operation : String) : Stage → Bool
  | .idle => false
  | .underway name => name = operation
  | .recording name _ => name = operation
  | .filing name _ => name = operation

/-- The request is of this task, and it is finished. -/
def isFinishingIn (operation : String) : Stage → Bool
  | .recording name _ => name = operation
  | .filing name _ => name = operation
  | _ => false

/-- The thread is between the first and the last write of a finished request. -/
def isFinishing (s : Stage) : Bool := s.isRecording || s.isFiling

/-- What a thread writes next, and where that leaves it. -/
inductive Turn : Stage → Write → Stage → Prop
  | begin (operation : String) : Turn .idle (.requestStarted operation) (.underway operation)
  | succeed (operation : String) (milliseconds : Nat) :
      Turn (.underway operation) .requestSucceeded (.recording operation milliseconds)
  | fail (operation : String) (milliseconds : Nat) :
      Turn (.underway operation) (.requestFailed operation) (.recording operation milliseconds)
  | record (operation : String) (milliseconds : Nat) :
      Turn (.recording operation milliseconds) (.latency milliseconds)
        (.filing operation milliseconds)
  | file (operation : String) (milliseconds : Nat) :
      Turn (.filing operation milliseconds) (.operationLatency operation milliseconds) .idle

namespace Turn

variable {old new : Stage} {w : Write}

/-- A request that is started is on its way, and one that is finished is not. -/
theorem flight (turn : Turn old w new) :
    w.starts.toNat + old.isUnderway.toNat = w.ends.toNat + new.isUnderway.toNat := by
  cases turn <;> rfl

/-- A request that is finished is recorded later. -/
theorem passes (turn : Turn old w new) :
    w.ends.toNat + old.isRecording.toNat = w.records.toNat + new.isRecording.toNat := by
  cases turn <;> rfl

/-- A latency that is recorded is filed under the name of the task later. -/
theorem follows (turn : Turn old w new) :
    w.records.toNat + old.isFiling.toNat = w.files.toNat + new.isFiling.toNat := by
  cases turn <;> rfl

/-- A request of a task that is started is filed under its name in the end. -/
theorem belongs (turn : Turn old w new) (operation : String) :
    (w.startsIn operation).toNat + (old.isIn operation).toNat =
      (w.filesIn operation).toNat + (new.isIn operation).toNat := by
  cases turn <;> simp [Write.startsIn, Write.filesIn, isIn]

/-- A request of a task that failed is filed under its name later. -/
theorem files_of_fails (turn : Turn old w new) (operation : String) :
    (w.failsIn operation).toNat + (old.isFinishingIn operation).toNat ≤
      (w.filesIn operation).toNat + (new.isFinishingIn operation).toNat := by
  cases turn <;> simp [Write.failsIn, Write.filesIn, isFinishingIn]

end Turn

/-- A request that is finished is one of its task. -/
theorem isIn_of_isFinishingIn {s : Stage} {operation : String}
    (h : s.isFinishingIn operation = true) : s.isIn operation = true := by
  cases s with
  | idle => cases h
  | underway name => cases h
  | recording name milliseconds => exact h
  | filing name milliseconds => exact h

end Stage

/-! ### A tally that is shared -/

/-- A tally and the threads that write to it. -/
structure Pool where
  tally : Tally
  threads : List Stage

namespace Pool

/-- So many threads before anything happened. -/
def idle (n : Nat) : Pool := ⟨.empty, List.replicate n .idle⟩

def requests (p : Pool) : RequestCounts := p.tally.counters.requests

def isAside : Write → Bool
  | .userSpawned => true
  | .userStopped => true
  | .system _ => true
  | _ => false

/-- One write, by any of the threads or by somebody who does not send requests. -/
inductive Step : Pool → Write → Pool → Prop
  | turn {p : Pool} {k : Nat} {old new : Stage} {w : Write} (place : p.threads[k]? = some old)
      (turn : Stage.Turn old w new) : Step p w ⟨p.tally.write w, p.threads.set k new⟩
  | aside (p : Pool) {w : Write} (h : isAside w = true) : Step p w ⟨p.tally.write w, p.threads⟩

/-- Any writes in a row. -/
inductive Trace (p : Pool) : List Write → Pool → Prop
  | start : Trace p [] p
  | next {writes : List Write} {w : Write} {q r : Pool} (before : Trace p writes q)
      (step : Step q w r) : Trace p (writes ++ [w]) r

/-! ### The invariant -/

/-- Each figure is what the next one will be when the threads have written what they are still to
write. -/
structure Tallied (p : Pool) : Prop where
  started : p.requests.started = p.requests.finished + p.requests.inFlight
  inFlight : p.requests.inFlight = p.threads.countP Stage.isUnderway
  requests : p.tally.operationRequests = p.requests.started
  failures : p.tally.operationFailures = p.requests.failed
  finished : p.requests.finished = p.tally.latency.total + p.threads.countP Stage.isRecording
  recorded : p.tally.latency.total = p.tally.operationRecorded + p.threads.countP Stage.isFiling
  requestsOf : ∀ operation, p.tally.requestsOf operation =
    p.tally.recordedOf operation + p.threads.countP (Stage.isIn operation)
  failuresOf : ∀ operation, p.tally.failuresOf operation ≤
    p.tally.recordedOf operation + p.threads.countP (Stage.isFinishingIn operation)
  filled : ∀ operation h, p.tally.operationLatency.get? operation = some h → 0 < h.total

theorem tallied_idle (n : Nat) : Tallied (idle n) := by
  have hcount : ∀ q : Stage → Bool, q .idle = false → (List.replicate n .idle).countP q = 0 := by
    intro q hq
    rw [List.countP_replicate, hq]
    rfl
  constructor
  · rfl
  · exact (hcount Stage.isUnderway rfl).symm
  · rfl
  · rfl
  · show 0 = 0 + (List.replicate n Stage.idle).countP Stage.isRecording
    rw [hcount Stage.isRecording rfl]
  · show 0 = 0 + (List.replicate n Stage.idle).countP Stage.isFiling
    rw [hcount Stage.isFiling rfl]
  · intro operation
    show 0 = 0 + (List.replicate n Stage.idle).countP (Stage.isIn operation)
    rw [hcount (Stage.isIn operation) rfl]
  · intro operation
    exact Nat.zero_le _
  · intro operation h hh
    cases hh

/-- No write empties a histogram, and one that is new holds a latency. -/
theorem filled_write {t : Tally}
    (h : ∀ operation h, t.operationLatency.get? operation = some h → 0 < h.total) (w : Write)
    (operation : String) {new : Histogram}
    (hnew : (t.write w).operationLatency.get? operation = some new) : 0 < new.total := by
  cases w with
  | operationLatency name milliseconds =>
    simp only [Tally.write] at hnew
    by_cases hname : operation = name
    · subst hname
      rw [SortedMap.get?_update] at hnew
      cases hnew
      exact Nat.succ_pos _
    · rw [SortedMap.get?_update_ne _ _ hname] at hnew
      exact h operation new hnew
  | _ => exact h operation new hnew

theorem Tallied.turn {p : Pool} (h : Tallied p) {k : Nat} {old new : Stage} {w : Write}
    (hold : p.threads[k]? = some old) (turn : Stage.Turn old w new) :
    Tallied ⟨p.tally.write w, p.threads.set k new⟩ := by
  have hflight := turn.flight
  have hunderway := countP_set_add (p := Stage.isUnderway) hold new
  have hinFlight := h.inFlight
  -- a thread that finishes a request is one of those that have one on its way
  have hpos : old.isUnderway.toNat ≤ p.threads.countP Stage.isUnderway := by
    cases hu : old.isUnderway with
    | false => exact Nat.zero_le _
    | true => exact countP_pos_of_getElem? hold hu
  -- each figure moves by a kind of write, and the threads that are to write it move against it
  constructor
  · have hstarted := h.started
    simp only [Pool.requests] at hstarted hinFlight ⊢
    rw [Tally.started_write, Tally.finished_write, Tally.inFlight_write]
    omega
  · simp only [Pool.requests] at hinFlight ⊢
    rw [Tally.inFlight_write]
    omega
  · have hrequests := h.requests
    simp only [Pool.requests] at hrequests ⊢
    rw [Tally.operationRequests_write, Tally.started_write, hrequests]
  · have hfailures := h.failures
    simp only [Pool.requests] at hfailures ⊢
    rw [Tally.operationFailures_write, Tally.failed_write, hfailures]
  · have hfinished := h.finished
    have hpasses := turn.passes
    have hrecording := countP_set_add (p := Stage.isRecording) hold new
    simp only [Pool.requests] at hfinished ⊢
    rw [Tally.finished_write, Tally.recorded_write]
    omega
  · have hrecorded := h.recorded
    have hfollows := turn.follows
    have hfiling := countP_set_add (p := Stage.isFiling) hold new
    dsimp only
    rw [Tally.recorded_write, Tally.operationRecorded_write]
    omega
  · intro operation
    have hrequests := h.requestsOf operation
    have hbelongs := turn.belongs operation
    have hin := countP_set_add (p := Stage.isIn operation) hold new
    dsimp only
    rw [Tally.requestsOf_write, Tally.recordedOf_write]
    omega
  · intro operation
    have hfailures := h.failuresOf operation
    have hfiles := turn.files_of_fails operation
    have hin := countP_set_add (p := Stage.isFinishingIn operation) hold new
    dsimp only
    rw [Tally.failuresOf_write, Tally.recordedOf_write]
    omega
  · intro operation new hnew
    exact filled_write h.filled w operation hnew

/-- A write that is not about requests keeps the invariant. -/
theorem Tallied.aside {p : Pool} (h : Tallied p) {w : Write} (aside : isAside w = true) :
    Tallied ⟨p.tally.write w, p.threads⟩ := by
  cases w with
  | userSpawned | userStopped | system =>
    exact ⟨h.1, h.2, h.3, h.4, h.5, h.6, h.7, h.8, h.9⟩
  | _ => cases aside

theorem tallied_of_step {p q : Pool} {w : Write} (step : Step p w q) (h : Tallied p) :
    Tallied q := by
  cases step with
  | turn hold turn => exact h.turn hold turn
  | aside aside => exact h.aside aside

theorem tallied_of_trace {p q : Pool} {writes : List Write} (trace : Trace p writes q)
    (h : Tallied p) : Tallied q := by
  induction trace with
  | start => exact h
  | next _ step ih => exact tallied_of_step step ih

/-! ### What follows for the figures -/

section Figures

variable {p : Pool}

theorem Tallied.failuresOf_le (h : Tallied p) (operation : String) :
    p.tally.failuresOf operation ≤ p.tally.requestsOf operation := by
  have hfailures := h.failuresOf operation
  have hrequests := h.requestsOf operation
  have hcount : p.threads.countP (Stage.isFinishingIn operation) ≤
      p.threads.countP (Stage.isIn operation) :=
    List.countP_mono_left fun s _ => Stage.isIn_of_isFinishingIn
  omega

theorem Tallied.recordedOf_le (h : Tallied p) (operation : String) :
    p.tally.recordedOf operation ≤ p.tally.requestsOf operation := by
  rw [h.requestsOf operation]
  exact Nat.le_add_right _ _

theorem Tallied.exists_counts (h : Tallied p) {operation : String} {latencies : Histogram}
    (hlatencies : p.tally.operationLatency.get? operation = some latencies) :
    ∃ counts, p.tally.counters.operations.get? operation = some counts ∧
      latencies.total ≤ counts.requests := by
  have hpos := h.filled operation latencies hlatencies
  have hle := h.recordedOf_le operation
  simp only [Tally.recordedOf, Tally.requestsOf, hlatencies, Option.getD_some] at hle
  cases hcounts : p.tally.counters.operations.get? operation with
  | none =>
    rw [hcounts] at hle
    exact absurd hpos (Nat.not_lt.2 hle)
  | some counts =>
    rw [hcounts] at hle
    exact ⟨counts, rfl, hle⟩

/-- When no thread is in the middle of finishing a request, everything is recorded. -/
theorem Tallied.settled (h : Tallied p) (settled : ∀ s ∈ p.threads, s.isFinishing = false) :
    p.tally.operationRecorded = p.tally.latency.total ∧
      p.tally.latency.total = p.requests.finished := by
  have hrecording : p.threads.countP Stage.isRecording = 0 := by
    rw [List.countP_eq_zero]
    intro s hs hrecording
    have hsettled := settled s hs
    rw [Stage.isFinishing, hrecording] at hsettled
    cases hsettled
  have hfiling : p.threads.countP Stage.isFiling = 0 := by
    rw [List.countP_eq_zero]
    intro s hs hfiling
    have hsettled := settled s hs
    rw [Stage.isFinishing, hfiling, Bool.or_true] at hsettled
    cases hsettled
  have hrecorded := h.recorded
  have hfinished := h.finished
  omega

/-- A request that can be finished is in flight. -/
theorem Tallied.inFlight_pos (h : Tallied p) {q : Pool} {w : Write} (step : Step p w q)
    (ends : w.ends = true) : 0 < p.requests.inFlight := by
  rw [h.inFlight]
  cases step with
  | turn hold turn =>
    apply countP_pos_of_getElem? hold
    have hflight := turn.flight
    cases turn with
    | succeed => rfl
    | fail => rfl
    | _ => cases ends
  | aside aside =>
    cases w with
    | requestSucceeded => cases aside
    | requestFailed operation => cases aside
    | _ => cases ends

end Figures

/-- At every moment, wherever the threads are: the requests that were started are those that went
well, those that failed and those in flight, and none of these is counted down below zero; the tasks
share the requests and the failures; a task has no more failures and no more latencies than requests;
and no latency is recorded before its request is counted as finished, nor under the name of a task
before it is recorded among all. When no thread is in the middle of finishing a request nothing is
missing. -/
theorem figures_of_trace {n : Nat} {writes : List Write} {p : Pool}
    (trace : Trace (idle n) writes p) :
    p.requests.started = p.requests.succeeded + p.requests.failed + p.requests.inFlight ∧
    p.tally.operationRequests = p.requests.started ∧
    p.tally.operationFailures = p.requests.failed ∧
    (∀ operation, p.tally.failuresOf operation ≤ p.tally.requestsOf operation ∧
      p.tally.recordedOf operation ≤ p.tally.requestsOf operation) ∧
    (∀ operation latencies, p.tally.operationLatency.get? operation = some latencies →
      ∃ counts, p.tally.counters.operations.get? operation = some counts ∧
        latencies.total ≤ counts.requests) ∧
    p.tally.operationRecorded ≤ p.tally.latency.total ∧
    p.tally.latency.total ≤ p.requests.succeeded + p.requests.failed ∧
    ((∀ s ∈ p.threads, s.isFinishing = false) →
      p.tally.operationRecorded = p.tally.latency.total ∧
      p.tally.latency.total = p.requests.succeeded + p.requests.failed) ∧
    (∀ w q, Step p w q → w.ends = true → 0 < p.requests.inFlight) := by
  have h := tallied_of_trace trace (tallied_idle n)
  refine ⟨h.started, h.requests, h.failures, fun operation => ?_, fun operation latencies => ?_, ?_,
    ?_, h.settled, fun w q => h.inFlight_pos⟩
  · exact ⟨h.failuresOf_le operation, h.recordedOf_le operation⟩
  · exact h.exists_counts
  · rw [h.recorded]
    exact Nat.le_add_right _ _
  · have hfinished := h.finished
    simp only [RequestCounts.finished] at hfinished
    omega

/-- Two threads, of which one has counted its request as failed while the latency is not recorded
and the other one has its request on the way. -/
theorem figures_of_failed_and_underway :
    ∃ p, Trace (idle 2) [.requestStarted "a", .requestStarted "b", .requestFailed "a"] p ∧
      p.requests = ⟨2, 0, 1, 1⟩ ∧ p.tally.operationFailures = p.requests.failed ∧
      p.tally.latency.total < p.requests.failed ∧
      (∀ w q, Step p w q → w.ends = true → 0 < p.requests.inFlight) := by
  have trace : Trace (idle 2) [.requestStarted "a", .requestStarted "b", .requestFailed "a"] _ :=
    .next (.next (.next .start (.turn (k := 0) rfl (.begin "a")))
      (.turn (k := 1) rfl (.begin "b"))) (.turn (k := 0) rfl (.fail "a" 7))
  have figures := figures_of_trace trace
  exact ⟨_, trace, rfl, figures.2.2.1, by decide +kernel, figures.2.2.2.2.2.2.2.2⟩

end Pool

end QuerySwarm
