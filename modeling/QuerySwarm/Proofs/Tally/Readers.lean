import QuerySwarm.Proofs.Tally.Latencies
import QuerySwarm.Proofs.Tally.Threads
import QuerySwarm.Report.Console
import QuerySwarm.Report.Summary

/-!
# Readers of a shared tally

A report is made of the counters of one moment and of latencies that are read later, while threads
go on to write. A thread counts a request before it records how long the request took, so that it is
the reader who can be overtaken: between the two reads a request may be started and finished, and
the report has its latency without having counted it.

* `Tally.mem_rows_iff`: what a row of a report says, in the summary as on the console.
* `Pool.rows_of_reader`: how much a row can be short of requests.
* `Pool.not_isCovered_of_overtaken`: that it can be.
-/

namespace QuerySwarm

open Tally (Write)

/-! ### Rows -/

namespace OperationSummary

/-- A row with no more latencies than requests, and no more failures; and with a request at all. -/
structure IsCovered (row : OperationSummary) : Prop where
  requests : max 1 row.latency.count ≤ row.requests
  failures : row.failures ≤ row.requests

/-- The line of the table on the console. -/
def line (row : OperationSummary) : String :=
  Report.tableLine (Report.left 22 row.operation ::
    [row.requests, row.failures, row.latency.p50, row.latency.p95, row.latency.p99,
      row.latency.max].map (Report.column 8))

end OperationSummary

namespace Tally

/-- What a report says of each task that has latencies. -/
def rows (t : Tally) : List OperationSummary :=
  t.operationStatistics.map (Summary.operationOf t.counters.operations)

theorem operations_ofTally_eq_rows (t : Tally) (settings : Settings) (timestamp : String)
    (elapsed : Duration) : (Summary.ofTally t settings timestamp elapsed).operations = t.rows := rfl

theorem operationOf_eq (t : Tally) (entry : String × Latency.Statistics) :
    Summary.operationOf t.counters.operations entry =
      ⟨entry.1, t.requestsOf entry.1, t.failuresOf entry.1, entry.2⟩ := by
  unfold Summary.operationOf requestsOf failuresOf
  cases t.counters.operations.get? entry.1 <;> rfl

theorem tableRow_eq_line (t : Tally) (entry : String × Latency.Statistics) :
    Report.tableRow t.counters entry = (Summary.operationOf t.counters.operations entry).line := by
  rw [operationOf_eq]
  rfl

/-- The table on the console has the rows of the summary. -/
theorem table_eq_rows (t : Tally) :
    Report.table t.counters t.operationStatistics =
      Report.tableHead :: t.rows.map OperationSummary.line := by
  rw [Report.table, rows, List.map_map]
  exact congrArg _ (List.map_congr_left fun entry _ => tableRow_eq_line t entry)

theorem mem_rows_iff (t : Tally) (row : OperationSummary) :
    row ∈ t.rows ↔ ∃ latencies, t.operationLatency.get? row.operation = some latencies ∧
      row.latency = .ofHistogram latencies ∧ row.requests = t.requestsOf row.operation ∧
      row.failures = t.failuresOf row.operation := by
  simp only [rows, List.mem_map, operationOf_eq, Prod.exists, mem_operationStatistics]
  constructor
  · rintro ⟨operation, s, ⟨latencies, hget, rfl⟩, rfl⟩
    exact ⟨latencies, hget, rfl, rfl, rfl⟩
  · rintro ⟨latencies, hget, hlatency, hrequests, hfailures⟩
    refine ⟨row.operation, row.latency, ⟨latencies, hget, hlatency⟩, ?_⟩
    rw [← hrequests, ← hfailures]

end Tally

namespace Pool

/-! ### What is read -/

/-- What a reader has who read the counters when the threads were at `p`, and the latencies of the
tasks when they were at `q`. The latencies over all are read before these or after them. -/
def seen (p q : Pool) (latency : Histogram) : Tally :=
  ⟨p.tally.counters, latency, q.tally.operationLatency⟩

theorem tally_of_trace {p q : Pool} {writes : List Write} (trace : Trace p writes q) :
    q.tally = p.tally.writeAll writes := by
  induction trace with
  | start => rfl
  | next _ step ih =>
    rw [Tally.writeAll, List.foldl_append]
    show _ = (p.tally.writeAll _).write _
    rw [← ih]
    cases step <;> rfl

/-- The requests of a task that have been counted later are those counted before and those started
meanwhile. -/
theorem requestsOf_of_trace {p q : Pool} {writes : List Write} (trace : Trace p writes q)
    (operation : String) :
    q.tally.requestsOf operation =
      p.tally.requestsOf operation + writes.countP (Write.startsIn operation) := by
  rw [tally_of_trace trace]
  exact Tally.figure_writeAll (fun t => t.requestsOf operation) (Write.startsIn operation)
    (fun t w => t.requestsOf_write w operation) p.tally writes

section Reader

variable {n : Nat} {earlier meanwhile : List Write} {p q : Pool}
  (before : Trace (idle n) earlier p) (latency : Histogram)
include before

theorem failures_le_of_mem_rows {row : OperationSummary} (hrow : row ∈ (seen p q latency).rows) :
    row.failures ≤ row.requests := by
  obtain ⟨-, -, -, hrequests, hfailures⟩ := (Tally.mem_rows_iff _ row).1 hrow
  rw [hrequests, hfailures]
  exact (tallied_of_trace before (tallied_idle n)).failuresOf_le row.operation

variable (during : Trace p meanwhile q)
include during

/-- A row has latencies, and the requests that it lacks for them were started between the reads. -/
theorem count_of_mem_rows {row : OperationSummary} (hrow : row ∈ (seen p q latency).rows) :
    0 < row.latency.count ∧
      row.latency.count ≤ row.requests + meanwhile.countP (Write.startsIn row.operation) := by
  obtain ⟨latencies, hget, hlatency, hrequests, -⟩ := (Tally.mem_rows_iff _ row).1 hrow
  have h := tallied_of_trace during (tallied_of_trace before (tallied_idle n))
  have hseen : row.requests = p.tally.requestsOf row.operation := hrequests
  rw [hlatency, Latency.Statistics.count_ofHistogram, hseen, ← requestsOf_of_trace during]
  refine ⟨h.filled row.operation latencies hget, ?_⟩
  obtain ⟨counts, hcounts, hle⟩ := h.exists_counts hget
  rw [Tally.requestsOf, hcounts]
  exact hle

/-- A reader who is overtaken by requests sees a row of a report with fewer requests than latencies,
or with none. But all that is missing was started between the reads of the counters and of the
latencies; a row is never without latencies, and never has more failures than requests; and where no
request of a task was started between the reads there are requests for all of its latencies. The
rows of the summary and those of the table on the console are the same. -/
theorem rows_of_reader :
    (∀ settings timestamp elapsed,
      (Summary.ofTally (seen p q latency) settings timestamp elapsed).operations =
        (seen p q latency).rows) ∧
    Report.table (seen p q latency).counters (seen p q latency).operationStatistics =
      Report.tableHead :: (seen p q latency).rows.map OperationSummary.line ∧
    ∀ row ∈ (seen p q latency).rows,
      row.failures ≤ row.requests ∧ 1 ≤ row.latency.count ∧
      max 1 row.latency.count ≤
        row.requests + meanwhile.countP (Write.startsIn row.operation) ∧
      ((∀ w ∈ meanwhile, w.startsIn row.operation = false) → row.IsCovered) := by
  refine ⟨Tally.operations_ofTally_eq_rows _, Tally.table_eq_rows _, fun row hrow => ?_⟩
  have hfailures := failures_le_of_mem_rows before latency hrow
  obtain ⟨hpos, hcount⟩ := count_of_mem_rows before latency during hrow
  refine ⟨hfailures, hpos, by omega, fun hnone => ⟨?_, hfailures⟩⟩
  have hzero : meanwhile.countP (Write.startsIn row.operation) = 0 := by
    rw [List.countP_eq_zero]
    intro w hw hstarts
    rw [hnone w hw] at hstarts
    cases hstarts
  omega

end Reader

/-- What two threads write while a reader, who has read the counters, has not read the latencies:
the first request was started before, the second one is started and finished meanwhile. -/
def overtaking : List Write :=
  Write.requestStarted "b" :: Tally.successWrites "a" 7 ++ Tally.failureWrites "b" 9

/-- The first request is counted and the second one is not, but both latencies are there. -/
theorem rows_of_overtaken :
    ∃ p q, Trace (idle 2) [.requestStarted "a"] p ∧ Trace p overtaking q ∧
      (∃ row ∈ (seen p q .empty).rows, row.operation = "a" ∧ row.IsCovered) ∧
      ∃ row ∈ (seen p q .empty).rows, row.operation = "b" ∧ row.requests = 0 ∧
        max 1 row.latency.count ≤
          row.requests + overtaking.countP (Write.startsIn row.operation) := by
  let p : Pool := ⟨Tally.empty.requestStarted "a", [.underway "a", .idle]⟩
  let q : Pool := ⟨p.tally.writeAll overtaking, [.idle, .idle]⟩
  have before : Trace (idle 2) [.requestStarted "a"] p :=
    .next .start (.turn (k := 0) rfl (.begin "a"))
  have during : Trace p overtaking q :=
    .next (.next (.next (.next (.next (.next (.next .start
      (.turn (k := 1) rfl (.begin "b")))
      (.turn (k := 0) rfl (.succeed "a" 7))) (.turn (k := 0) rfl (.record "a" 7)))
      (.turn (k := 0) rfl (.file "a" 7)))
      (.turn (k := 1) rfl (.fail "b" 9))) (.turn (k := 1) rfl (.record "b" 9)))
      (.turn (k := 1) rfl (.file "b" 9))
  obtain ⟨-, -, hrows⟩ := rows_of_reader before .empty during
  have hfirst : ⟨"a", 1, 0, .ofHistogram (.record .empty 7)⟩ ∈ (seen p q .empty).rows :=
    (Tally.mem_rows_iff _ _).2 ⟨_, rfl, rfl, rfl, rfl⟩
  have hsecond : ⟨"b", 0, 0, .ofHistogram (.record .empty 9)⟩ ∈ (seen p q .empty).rows :=
    (Tally.mem_rows_iff _ _).2 ⟨_, rfl, rfl, rfl, rfl⟩
  -- no request of the first task was started meanwhile
  have hcovered := (hrows _ hfirst).2.2.2 (by decide)
  exact ⟨p, q, before, during, ⟨_, hfirst, rfl, hcovered⟩, _, hsecond, rfl, rfl,
    (hrows _ hsecond).2.2.1⟩

/-- It is not so that a reader never sees latencies without their requests. -/
theorem not_isCovered_of_overtaken :
    ¬ ∀ {n : Nat} {earlier meanwhile : List Write} {p q : Pool} (latency : Histogram),
      Trace (idle n) earlier p → Trace p meanwhile q →
        ∀ row ∈ (seen p q latency).rows, row.IsCovered := by
  intro covered
  have during : Trace (idle 1) (.requestStarted "a" :: Tally.successWrites "a" 7) _ :=
    .next (.next (.next (.next .start (.turn (k := 0) rfl (.begin "a")))
      (.turn (k := 0) rfl (.succeed "a" 7))) (.turn (k := 0) rfl (.record "a" 7)))
      (.turn (k := 0) rfl (.file "a" 7))
  have hrow := covered .empty .start during ⟨"a", 0, 0, .ofHistogram (.record .empty 7)⟩ (by
    rw [Tally.mem_rows_iff]
    exact ⟨_, rfl, rfl, rfl, rfl⟩)
  exact absurd hrow.requests (by decide)

end Pool

end QuerySwarm
