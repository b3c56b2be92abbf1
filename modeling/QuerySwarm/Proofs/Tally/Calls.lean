import QuerySwarm.Proofs.Latency.Parts
import QuerySwarm.Proofs.Tally.Latencies
import QuerySwarm.Proofs.Text.Order

/-!
# Calls and the latencies of their tasks

A call that finishes a request records its latency twice, over all and under the name of its task. The
two records are kept apart, and written one after the other; but once the calls have returned, the
latencies of the tasks are a division of all latencies (`Tally.parts_of_perm`), whatever the order in
which the writes came.

* `Tally.Follows`: a tally that calls have written to.
* `Tally.statistics_join`: the statistics over all agree with those of the tasks.
-/

namespace QuerySwarm

/-- Entries are grouped by their keys. -/
theorem perm_flatMap_filter {κ α : Type} [DecidableEq κ] {keys : List κ} (nodup : keys.Nodup)
    (entries : List (κ × α)) :
    (keys.flatMap fun key => entries.filter (·.1 = key)).Perm (entries.filter (·.1 ∈ keys)) := by
  induction keys with
  | nil => simp
  | cons key rest ih =>
    obtain ⟨hkey, hrest⟩ := List.nodup_cons.1 nodup
    have hfirst : entries.filter (·.1 = key) =
        (entries.filter (·.1 ∈ key :: rest)).filter (·.1 = key) := by
      rw [List.filter_filter]
      refine List.filter_congr fun e _ => ?_
      by_cases he : e.1 = key <;> simp [he]
    have hothers : entries.filter (·.1 ∈ rest) =
        (entries.filter (·.1 ∈ key :: rest)).filter fun e => !decide (e.1 = key) := by
      rw [List.filter_filter]
      refine List.filter_congr fun e _ => ?_
      by_cases he : e.1 = key <;> simp [he, hkey]
    rw [List.flatMap_cons]
    refine ((ih hrest).append_left _).trans ?_
    rw [hfirst, hothers]
    exact List.filter_append_perm _ _

namespace Tally

open Latency

/-! ### Calls -/

/-- A call on a tally. -/
inductive Call where
  | userSpawned
  | userStopped
  | requestStarted (operation : String)
  | requestSucceeded (operation : String) (milliseconds : Nat)
  | requestFailed (operation : String) (milliseconds : Nat)
  | system (figures : SystemFigures)

namespace Call

def apply (t : Tally) : Call → Tally
  | .userSpawned => t.userSpawned
  | .userStopped => t.userStopped
  | .requestStarted operation => t.requestStarted operation
  | .requestSucceeded operation milliseconds => t.requestSucceeded operation milliseconds
  | .requestFailed operation milliseconds => t.requestFailed operation milliseconds
  | .system figures => t.write (.system figures)

def writes : Call → List Write
  | .userSpawned => [.userSpawned]
  | .userStopped => [.userStopped]
  | .requestStarted operation => [.requestStarted operation]
  | .requestSucceeded operation milliseconds => successWrites operation milliseconds
  | .requestFailed operation milliseconds => failureWrites operation milliseconds
  | .system figures => [.system figures]

/-- The task of a request that is finished, and how long it took. -/
def finished? : Call → Option (String × Nat)
  | .requestSucceeded operation milliseconds => some (operation, milliseconds)
  | .requestFailed operation milliseconds => some (operation, milliseconds)
  | _ => none

theorem apply_eq_writeAll (t : Tally) (c : Call) : c.apply t = t.writeAll c.writes := by
  cases c <;> rfl

end Call

/-- The requests that are finished, each with its task and how long it took. -/
def finished (calls : List Call) : List (String × Nat) := calls.filterMap Call.finished?

/-- A tally that calls have written to. What a call writes may have come in between what other calls
wrote, but nothing is still to be written. -/
def Follows (calls : List Call) (t : Tally) : Prop :=
  ∃ writes, writes.Perm (calls.flatMap Call.writes) ∧ t = empty.writeAll writes

theorem foldl_apply (calls : List Call) (t : Tally) :
    calls.foldl Call.apply t = t.writeAll (calls.flatMap Call.writes) := by
  induction calls generalizing t with
  | nil => rfl
  | cons c rest ih =>
    rw [List.foldl_cons, ih, Call.apply_eq_writeAll, List.flatMap_cons, writeAll, writeAll, writeAll,
      List.foldl_append]

/-- Calls that come one after the other. -/
theorem follows_foldl (calls : List Call) : Follows calls (calls.foldl Call.apply empty) :=
  ⟨_, .refl _, foldl_apply calls empty⟩

/-! ### Latencies with the names of their tasks -/

/-- The latency that a write records under the name of a task, with the name. -/
def Write.filed? : Write → Option (String × Nat)
  | .operationLatency operation milliseconds => some (operation, milliseconds)
  | _ => none

theorem samplesIn_eq_filter (operation : String) (writes : List Write) :
    samplesIn operation writes =
      ((writes.filterMap Write.filed?).filter (·.1 = operation)).map Prod.snd := by
  unfold samplesIn
  rw [List.filter_filterMap, List.map_filterMap]
  congr 1
  funext w
  cases w with
  | operationLatency name milliseconds =>
    by_cases hname : name = operation <;> simp [Write.sampleIn?, Write.filed?, hname]
  | _ => rfl

theorem samples_flatMap (calls : List Call) :
    samples (calls.flatMap Call.writes) = (finished calls).map Prod.snd := by
  induction calls with
  | nil => rfl
  | cons c rest ih =>
    rw [List.flatMap_cons, samples, List.filterMap_append, ← samples, ← samples, ih]
    cases c <;> rfl

theorem filed_flatMap (calls : List Call) :
    (calls.flatMap Call.writes).filterMap Write.filed? = finished calls := by
  induction calls with
  | nil => rfl
  | cons c rest ih =>
    rw [List.flatMap_cons, List.filterMap_append, ih]
    cases c <;> rfl

/-! ### The tasks divide the latencies -/

theorem sorted_operationStatistics (t : Tally) :
    (t.operationStatistics.map Prod.fst).Pairwise (· < ·) :=
  (t.operationLatency.mapValues _).sorted

section Writes

variable {calls : List Call} {writes : List Write}
  (perm : writes.Perm (calls.flatMap Call.writes))
include perm

theorem samples_perm : (samples writes).Perm ((finished calls).map Prod.snd) := by
  rw [← samples_flatMap]
  exact perm.filterMap _

theorem filed_perm : (writes.filterMap Write.filed?).Perm (finished calls) := by
  rw [← filed_flatMap]
  exact perm.filterMap _

/-- The names that are listed are those of the tasks with a finished request. -/
theorem samplesIn_ne_nil_iff (operation : String) :
    samplesIn operation writes ≠ [] ↔ ∃ milliseconds, (operation, milliseconds) ∈ finished calls := by
  rw [samplesIn_eq_filter, ne_eq, List.map_eq_nil_iff, List.filter_eq_nil_iff]
  simp only [(filed_perm perm).mem_iff, decide_eq_true_eq, not_forall, not_not]
  constructor
  · rintro ⟨e, he, rfl⟩
    exact ⟨e.2, he⟩
  · rintro ⟨milliseconds, he⟩
    exact ⟨_, he, rfl⟩

/-- Once all is written, the latencies of the tasks that are listed are all latencies. -/
theorem parts_of_perm : Parts (samples writes)
    ((empty.writeAll writes).operationStatistics.map fun e => samplesIn e.1 writes) where
  perm := by
    let names := (empty.writeAll writes).operationStatistics.map Prod.fst
    have hnodup : names.Nodup :=
      (sorted_operationStatistics _).imp fun hlt => Std.ne_of_lt hlt
    have hcovered : ∀ e ∈ writes.filterMap Write.filed?, decide (e.1 ∈ names) = true := by
      intro e he
      have hne := (samplesIn_ne_nil_iff perm e.1).2 ⟨e.2, (filed_perm perm).mem_iff.1 he⟩
      have hlisted := (mem_operationStatistics_iff writes e.1 _).2 ⟨hne, rfl⟩
      exact decide_eq_true (List.mem_map_of_mem (f := Prod.fst) hlisted)
    have hgroups : ((empty.writeAll writes).operationStatistics.map
        fun e => samplesIn e.1 writes).flatten =
        (names.flatMap fun name =>
          (writes.filterMap Write.filed?).filter (·.1 = name)).map Prod.snd := by
      simp only [samplesIn_eq_filter, List.map_flatMap, names, List.flatMap_map]
      rfl
    have hgrouped := perm_flatMap_filter hnodup (writes.filterMap Write.filed?)
    rw [List.filter_eq_self.2 hcovered] at hgrouped
    rw [hgroups]
    exact ((hgrouped.trans (filed_perm perm)).map _).trans (samples_perm perm).symm
  nonempty := by
    intro part hpart
    obtain ⟨e, he, rfl⟩ := List.mem_map.1 hpart
    exact ((mem_operationStatistics_iff writes e.1 e.2).1 he).1

end Writes

/-- Once calls have returned, the statistics over all agree with those of the tasks. The tasks that
are listed are those of which a request is finished, in the order of the bytes of their names. -/
theorem statistics_join {calls : List Call} {t : Tally} (follows : Follows calls t)
    (hsome : finished calls ≠ []) (hfew : (finished calls).length < 2 ^ 40)
    (hrange : ∀ e ∈ finished calls, e.2 ≤ Latency.greatest) :
    (t.operationStatistics.map fun e => bytesOf e.1).Pairwise (· < ·) ∧
    (∀ operation, (∃ s, (operation, s) ∈ t.operationStatistics) ↔
      ∃ milliseconds, (operation, milliseconds) ∈ finished calls) ∧
    (∀ e ∈ t.operationStatistics, 1 ≤ e.2.count) ∧
    t.statistics.count = (finished calls).length ∧
    t.statistics.Joins (t.operationStatistics.map Prod.snd) := by
  obtain ⟨writes, perm, rfl⟩ := follows
  have hsamples := samples_perm perm
  have hlength : (samples writes).length = (finished calls).length := by
    rw [hsamples.length_eq, List.length_map]
  have hall : (empty.writeAll writes).latency = .ofList (samples writes) :=
    latency_writeAll empty writes
  have hstatistics : ∀ e ∈ (empty.writeAll writes).operationStatistics,
      samplesIn e.1 writes ≠ [] ∧ e.2 = .ofHistogram (.ofList (samplesIn e.1 writes)) := fun e =>
    (mem_operationStatistics_iff writes e.1 e.2).1
  refine ⟨?_, fun operation => ?_, fun e he => ?_, ?_, ?_⟩
  · have hsorted := sorted_operationStatistics (empty.writeAll writes)
    rw [List.pairwise_map] at hsorted ⊢
    exact hsorted.imp bytesOf_lt_bytesOf
  · rw [← samplesIn_ne_nil_iff perm]
    constructor
    · rintro ⟨s, hs⟩
      exact (hstatistics _ hs).1
    · exact fun hne => ⟨_, (mem_operationStatistics_iff writes operation _).2 ⟨hne, rfl⟩⟩
  · obtain ⟨hne, heq⟩ := hstatistics e he
    rw [heq, Statistics.count_ofHistogram, Histogram.total_ofList]
    exact List.length_pos_iff.2 hne
  · rw [statistics, hall, Statistics.count_ofHistogram, Histogram.total_ofList, hlength]
  · have hparts : (empty.writeAll writes).operationStatistics.map Prod.snd =
        ((empty.writeAll writes).operationStatistics.map fun e => samplesIn e.1 writes).map
          fun part => Statistics.ofHistogram (.ofList part) := by
      rw [List.map_map]
      exact List.map_congr_left fun e he => (hstatistics e he).2
    rw [statistics, hall, hparts]
    refine (parts_of_perm perm).joins ?_ (by omega) fun v hv => ?_
    · rw [← List.length_pos_iff, hlength]
      exact List.length_pos_iff.2 hsome
    · obtain ⟨e, he, rfl⟩ := List.mem_map.1 (hsamples.mem_iff.1 hv)
      exact hrange e he

/-- Requests of two tasks, two of which were never started; one took no time, and one as long as there
is a number for. -/
def fourCalls : List Call :=
  [.requestStarted "é", .requestSucceeded "é" 3000, .userSpawned, .requestFailed "z" 0,
    .requestStarted "z", .requestSucceeded "é" (2 ^ 64 - 1), .requestFailed "z" 3000]

theorem statistics_join_fourCalls :
    let t := fourCalls.foldl Call.apply empty
    (t.operationStatistics.map fun e => bytesOf e.1).Pairwise (· < ·) ∧
      (∀ e ∈ t.operationStatistics, 1 ≤ e.2.count) ∧ t.statistics.count = 4 ∧
      t.statistics.Joins (t.operationStatistics.map Prod.snd) := by
  obtain ⟨hsorted, -, hcount, htotal, hjoins⟩ :=
    statistics_join (follows_foldl fourCalls) (by decide) (by decide) (by decide)
  exact ⟨hsorted, hcount, htotal, hjoins⟩

end Tally

end QuerySwarm
