import QuerySwarm.Proofs.Latency.Percentiles
import QuerySwarm.Proofs.Tally.Orders

/-!
# What a tally says of latencies

Whatever was written to a tally, its latencies are those that were recorded, over all and under the
name of each task (`Tally.latency_writeAll`, `Tally.get?_writeAll`); so the statistics that are read
from it describe them (`Tally.statistics_describe_samples`). A task is listed exactly if something was
recorded under its name.
-/

namespace QuerySwarm

/-- The entries of a map are what is found under its keys. -/
theorem SortedMap.mem_entries_iff {κ α : Type} [LT κ] [LE κ] [Std.LawfulOrderLT κ]
    [Std.IsLinearOrder κ] [DecidableEq κ] (m : SortedMap κ α) (key : κ) (v : α) :
    (key, v) ∈ m.entries ↔ m.get? key = some v := by
  obtain ⟨entries, sorted⟩ := m
  show (key, v) ∈ entries ↔ find? key entries = some v
  induction entries with
  | nil => simp [find?]
  | cons e rest ih =>
    obtain ⟨k, w⟩ := e
    have ih := ih (List.pairwise_cons.1 sorted).2
    by_cases hkey : key = k
    · subst hkey
      have hnot : (key, v) ∉ rest := fun hmem =>
        Std.lt_irrefl (head_lt_of_mem sorted (List.mem_map_of_mem hmem))
      simp [find?, hnot, eq_comm]
    · simp [find?, hkey, ih]

namespace Tally

open Latency

/-- The latency that a write records over all. -/
def Write.sample? : Write → Option Nat
  | .latency milliseconds => some milliseconds
  | _ => none

/-- The latency that a write records under the name of a task. -/
def Write.sampleIn? (operation : String) : Write → Option Nat
  | .operationLatency name milliseconds => if name = operation then some milliseconds else none
  | _ => none

/-- The latencies that writes record over all. -/
def samples (writes : List Write) : List Nat := writes.filterMap Write.sample?

/-- The latencies that writes record under the name of a task. -/
def samplesIn (operation : String) (writes : List Write) : List Nat :=
  writes.filterMap (Write.sampleIn? operation)

section Writes

variable (t : Tally) (writes : List Write) (operation : String)

theorem latency_writeAll :
    (t.writeAll writes).latency = (samples writes).foldl Histogram.record t.latency := by
  rw [part_writeAll latency recordIn latency_write, samples, List.foldl_filterMap]
  congr 1
  funext latencies w
  cases w <;> rfl

theorem latencyOf_writeAll : (t.writeAll writes).latencyOf operation =
    (samplesIn operation writes).foldl Histogram.record (t.latencyOf operation) := by
  rw [part_writeAll (fun t => t.latencyOf operation) (fileUnder operation)
    (latencyOf_write operation), samplesIn, List.foldl_filterMap]
  congr 1
  funext latencies w
  cases w with
  | operationLatency name milliseconds =>
    by_cases hname : name = operation <;> simp [fileUnder, Write.sampleIn?, hname]
  | _ => rfl

/-- There are latencies under a name if there were any, or if one is recorded. -/
theorem isSome_get?_writeAll : ((t.writeAll writes).operationLatency.get? operation).isSome =
    ((t.operationLatency.get? operation).isSome || !(samplesIn operation writes).isEmpty) := by
  induction writes generalizing t with
  | nil => simp [samplesIn, writeAll]
  | cons w rest ih =>
    show ((t.write w).writeAll rest |>.operationLatency.get? operation).isSome = _
    rw [ih, operationLatency_write]
    cases w with
    | operationLatency name milliseconds =>
      by_cases hname : name = operation
      · subst hname
        simp [fileIn, samplesIn, Write.sampleIn?, SortedMap.get?_update]
      · simp [fileIn, samplesIn, Write.sampleIn?, hname,
          SortedMap.get?_update_ne _ _ (Ne.symm hname)]
    | _ => rfl

end Writes

/-- What is found under a name after some writes. -/
theorem get?_writeAll (writes : List Write) (operation : String) :
    (empty.writeAll writes).operationLatency.get? operation =
      if samplesIn operation writes = [] then none
      else some (.ofList (samplesIn operation writes)) := by
  have hsome := isSome_get?_writeAll empty writes operation
  have hnone : empty.operationLatency.get? operation = none := rfl
  have hof := latencyOf_writeAll empty writes operation
  rw [latencyOf] at hof
  rw [hnone, Option.isSome_none, Bool.false_or] at hsome
  cases hfound : (empty.writeAll writes).operationLatency.get? operation with
  | none =>
    rw [hfound] at hsome
    rw [if_pos (by simpa using hsome)]
  | some latencies =>
    rw [hfound] at hsome hof
    rw [if_neg (by simpa using hsome)]
    exact congrArg some hof

/-- The statistics of a task are those of what is found under its name. -/
theorem mem_operationStatistics (t : Tally) (operation : String) (s : Latency.Statistics) :
    (operation, s) ∈ t.operationStatistics ↔
      ∃ latencies, t.operationLatency.get? operation = some latencies ∧
        s = .ofHistogram latencies := by
  simp only [operationStatistics, SortedMap.mapValues, List.mem_map, Prod.mk.injEq]
  constructor
  · rintro ⟨⟨name, latencies⟩, hmem, rfl, rfl⟩
    exact ⟨latencies, (SortedMap.mem_entries_iff _ _ _).1 hmem, rfl⟩
  · rintro ⟨latencies, hget, rfl⟩
    exact ⟨⟨operation, latencies⟩, (SortedMap.mem_entries_iff _ _ _).2 hget, rfl, rfl⟩

theorem mem_operationStatistics_iff (writes : List Write) (operation : String)
    (s : Latency.Statistics) : (operation, s) ∈ (empty.writeAll writes).operationStatistics ↔
      samplesIn operation writes ≠ [] ∧ s = .ofHistogram (.ofList (samplesIn operation writes)) := by
  rw [mem_operationStatistics, get?_writeAll]
  split <;> simp_all

/-- Statistics that are read from a tally, over all or for a task, describe the latencies that were
recorded; and the ranks of their percentiles are exact as long as there are not too many. -/
theorem statistics_describe_samples (writes : List Write) :
    (samples writes ≠ [] → (∀ v ∈ samples writes, v < Latency.greatest) →
      (empty.writeAll writes).statistics.Describes (samples writes)) ∧
    (∀ operation, samplesIn operation writes ≠ [] →
      (∀ v ∈ samplesIn operation writes, v < Latency.greatest) →
      ∃ s, (operation, s) ∈ (empty.writeAll writes).operationStatistics ∧
        s.Describes (samplesIn operation writes)) ∧
    (∀ operation s, (operation, s) ∈ (empty.writeAll writes).operationStatistics →
      samplesIn operation writes ≠ [] ∧
        ((∀ v ∈ samplesIn operation writes, v < Latency.greatest) →
          s.Describes (samplesIn operation writes))) ∧
    ∀ n, 0 < n → n < 2 ^ 44 →
      Histogram.rank Statistics.half n = Histogram.exactRank 50 n ∧
      Histogram.rank Statistics.ninetyFive n = Histogram.exactRank 95 n ∧
      Histogram.rank Statistics.ninetyNine n = Histogram.exactRank 99 n := by
  have hall : (empty.writeAll writes).latency = .ofList (samples writes) :=
    latency_writeAll empty writes
  refine ⟨fun hne hrange => ?_, fun operation hne hrange => ?_, fun operation s hmem => ?_,
    fun n hn hfew => Statistics.rank_eq_exactRank hn hfew⟩
  · rw [statistics, hall]
    exact Statistics.describes_ofList hne hrange
  · exact ⟨_, (mem_operationStatistics_iff writes operation _).2 ⟨hne, rfl⟩,
      Statistics.describes_ofList hne hrange⟩
  · obtain ⟨hne, rfl⟩ := (mem_operationStatistics_iff writes operation s).1 hmem
    exact ⟨hne, Statistics.describes_ofList hne⟩

/-- Three requests of two tasks: one took no time, and one as long as can be told. -/
def threeSamples : List Write :=
  successWrites "count" 3000 ++ failureWrites "filter" 0 ++ successWrites "count" (2 ^ 64 - 2)

theorem statistics_of_threeSamples :
    (empty.writeAll threeSamples).statistics.Describes [3000, 0, 2 ^ 64 - 2] ∧
      (∃ s, ("count", s) ∈ (empty.writeAll threeSamples).operationStatistics ∧
        s.Describes [3000, 2 ^ 64 - 2]) ∧
      (empty.writeAll threeSamples).statistics.p50 = 3001 := by
  obtain ⟨hall, htask, -, -⟩ := statistics_describe_samples threeSamples
  refine ⟨hall (by decide) (by decide), htask "count" (by decide) (by decide), by decide +kernel⟩

end Tally

end QuerySwarm
