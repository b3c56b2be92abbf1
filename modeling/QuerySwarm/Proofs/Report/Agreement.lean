import QuerySwarm.Proofs.Endpoint
import QuerySwarm.Proofs.Tally.Calls
import QuerySwarm.Proofs.Tally.Readers

/-!
# Two reports of one tally

What is shown on the console at the end of a run and what is written to its summary are put together
on two ways: each of them goes through the latencies of the tasks, looks the counters of each task up,
and has a number of its own for a task that was never started. They have the same to tell, for the
report on the console can be set from the summary, line by line.

The lines are given here as they stand on the console, apart from the program that puts them
together.

* `Summary.consoleText`: the report on the console, as the summary has it.
* `Tally.exists_row_iff`: which tasks have a row.
* `Summary.heading_infix_iff`: where the console has the sections of the latencies and of the tasks.
* `Tally.reports_agree`: the report on the console is the one set from the summary.
-/

namespace QuerySwarm

/-! ### The lines of the console -/

/-- A text in a column, flush right. -/
def flushRight (width : Nat) (text : List Char) : String := String.ofList (text.leftpad width ' ')

/-- A number in a column. -/
def numeral (width n : Nat) : String := flushRight width (Nat.toDigits 10 n)

def doubleRule : String := String.ofList (List.replicate 64 '═')

/-- The row of a task: its name in the first column, which gets wider for a longer one, then the
requests and the failures, and the percentiles and the greatest of the latencies. -/
def OperationSummary.consoleRow (row : OperationSummary) : String :=
  "   " ++ String.ofList (row.operation.toList.rightpad 22 ' ') ++ " " ++ numeral 8 row.requests ++
    " " ++ numeral 8 row.failures ++ " " ++ numeral 8 row.latency.p50 ++
    " " ++ numeral 8 row.latency.p95 ++ " " ++ numeral 8 row.latency.p99 ++
    " " ++ numeral 8 row.latency.max

namespace Summary

/-- The lines above the latencies. -/
def headLines (s : Summary) (elapsed : Duration) : List String :=
  ["",
    "╔" ++ doubleRule ++ "╗",
    "║                    FINAL TEST REPORT                           ║",
    "╚" ++ doubleRule ++ "╝",
    "",
    "👥 USERS",
    "   Spawned:              " ++ numeral 10 s.users.spawned,
    "",
    "📊 REQUESTS",
    "   Total Sent:           " ++ numeral 10 s.requests.started,
    "   Total Succeeded:      " ++ numeral 10 s.requests.succeeded,
    "   Total Failed:         " ++ numeral 10 s.requests.failed,
    "   Throughput:           " ++
      flushRight 10 ((Report.throughput s.requests elapsed).fixed 2).toList ++ " requests/sec"] ++
  if s.requests.started = 0 then []
  else ["   Success Rate:         " ++
    flushRight 10 ((Report.successRate s.requests).fixed 2).toList ++ "%"]

/-- The lines of the latencies and of the tasks. -/
def latencyLines (s : Summary) : List String :=
  ["",
    "📈 LATENCY",
    "   Min:                  " ++ numeral 10 s.latency.min ++ " ms",
    "   P50 (Median):         " ++ numeral 10 s.latency.p50 ++ " ms",
    "   P95:                  " ++ numeral 10 s.latency.p95 ++ " ms",
    "   P99:                  " ++ numeral 10 s.latency.p99 ++ " ms",
    "   Max:                  " ++ numeral 10 s.latency.max ++ " ms",
    "   Mean:                 " ++ flushRight 10 (s.latency.mean.fixed 2).toList ++ " ms",
    "",
    "🔎 PER OPERATION (ms)",
    "   Operation                  Reqs    Fails      P50      P95      P99      Max"] ++
  s.operations.map OperationSummary.consoleRow

/-- The lines under the latencies. -/
def footLines (elapsed : Duration) : List String :=
  ["",
    "⏱️  Test Duration: " ++ elapsed.toSeconds.fixed 2 ++ " seconds",
    doubleRule,
    ""]

/-- The report on the console after a time, set from a summary alone. What it says of latencies is
left out if there is neither a task nor a latency. -/
def consoleText (s : Summary) (elapsed : Duration) : String :=
  String.join ((s.headLines elapsed ++
    (if s.operations = [] ∧ s.latency.count = 0 then [] else s.latencyLines) ++
    footLines elapsed).map (· ++ "\n"))

end Summary

/-! ### What the program writes -/

namespace Report

theorem right_eq (width : Nat) (text : String) :
    right width text = flushRight width text.toList := by
  rw [right, flushRight, List.leftpad, String.ofList_append, String.ofList_toList,
    String.length_toList]

theorem left_eq (width : Nat) (text : String) :
    left width text = String.ofList (text.toList.rightpad width ' ') := by
  rw [left, List.rightpad, String.ofList_append, String.ofList_toList, String.length_toList]

theorem right_natText (width n : Nat) : right width (natText n) = numeral width n := by
  rw [right_eq, natText, String.toList_ofList]
  rfl

/-- A line of the report, from the label as it stands there. -/
theorem item_eq {label labelled : String} (h : "   " ++ left 22 (label ++ ":") = labelled)
    (number unit : String) :
    item label number unit = labelled ++ flushRight 10 number.toList ++ unit := by
  rw [item, h, right_eq]

theorem item_natText {label labelled : String} (h : "   " ++ left 22 (label ++ ":") = labelled)
    (n : Nat) (unit : String) :
    item label (natText n) unit = labelled ++ numeral 10 n ++ unit := by
  rw [item, h, right_natText]

end Report

theorem OperationSummary.line_eq (row : OperationSummary) : row.line = row.consoleRow := by
  unfold line consoleRow Report.tableLine
  simp only [List.map_cons, List.map_nil, Report.column, Report.right_natText, Report.left_eq]
  simp only [String.intercalate_cons_cons, String.intercalate_singleton, String.append_assoc]

namespace Summary

variable (s : Summary) (elapsed : Duration)

theorem headLines_eq {c : Counters} (husers : c.users = s.users)
    (hrequests : c.requests = s.requests) :
    "" :: Report.banner "                    FINAL TEST REPORT                           " ++
      Report.requestSection c elapsed = s.headLines elapsed := by
  have htitle : "║" ++ "                    FINAL TEST REPORT                           " ++ "║" =
    "║                    FINAL TEST REPORT                           ║" := rfl
  have hspawned : "   " ++ Report.left 22 ("Spawned" ++ ":") = "   Spawned:              " := rfl
  have hsent : "   " ++ Report.left 22 ("Total Sent" ++ ":") = "   Total Sent:           " := rfl
  have hsucceeded : "   " ++ Report.left 22 ("Total Succeeded" ++ ":") =
    "   Total Succeeded:      " := rfl
  have hfailed : "   " ++ Report.left 22 ("Total Failed" ++ ":") = "   Total Failed:         " := rfl
  have hthroughput : "   " ++ Report.left 22 ("Throughput" ++ ":") =
    "   Throughput:           " := rfl
  have hrate : "   " ++ Report.left 22 ("Success Rate" ++ ":") = "   Success Rate:         " := rfl
  rw [Report.banner, htitle, Report.requestSection, husers, hrequests, Report.item_natText hspawned,
    Report.item_natText hsent, Report.item_natText hsucceeded, Report.item_natText hfailed,
    Report.item_eq hthroughput, Report.item_eq hrate]
  simp only [String.append_empty]
  rfl

theorem latencySection_eq_latencyLines {c : Counters} {statistics : Latency.Statistics}
    {operations : List (String × Latency.Statistics)} (hstatistics : statistics = s.latency)
    (hcount : statistics.count ≠ 0)
    (htable : Report.table c operations =
      Report.tableHead :: s.operations.map OperationSummary.line) :
    Report.latencySection c statistics operations = s.latencyLines := by
  have hmin : "   " ++ Report.left 22 ("Min" ++ ":") = "   Min:                  " := rfl
  have hp50 : "   " ++ Report.left 22 ("P50 (Median)" ++ ":") = "   P50 (Median):         " := rfl
  have hp95 : "   " ++ Report.left 22 ("P95" ++ ":") = "   P95:                  " := rfl
  have hp99 : "   " ++ Report.left 22 ("P99" ++ ":") = "   P99:                  " := rfl
  have hmax : "   " ++ Report.left 22 ("Max" ++ ":") = "   Max:                  " := rfl
  have hmean : "   " ++ Report.left 22 ("Mean" ++ ":") = "   Mean:                 " := rfl
  have hhead : Report.tableHead =
    "   Operation                  Reqs    Fails      P50      P95      P99      Max" := by
    decide +kernel
  rw [Report.latencySection, if_neg hcount, htable, hhead, hstatistics, Report.item_natText hmin,
    Report.item_natText hp50, Report.item_natText hp95, Report.item_natText hp99,
    Report.item_natText hmax, Report.item_eq hmean, latencyLines,
    List.map_congr_left fun row _ => OperationSummary.line_eq row]
  rfl

/-- The report of the program is the one that a summary gives, if the summary has the same numbers.
-/
theorem final_eq_consoleText {c : Counters} {statistics : Latency.Statistics}
    {operations : List (String × Latency.Statistics)} (husers : c.users = s.users)
    (hrequests : c.requests = s.requests) (hstatistics : statistics = s.latency)
    (htable : Report.table c operations =
      Report.tableHead :: s.operations.map OperationSummary.line)
    (hnone : s.operations = [] ↔ s.latency.count = 0) :
    Report.final c elapsed statistics operations = s.consoleText elapsed := by
  have hlatency : Report.latencySection c statistics operations =
      if s.operations = [] ∧ s.latency.count = 0 then [] else s.latencyLines := by
    by_cases hcount : statistics.count = 0
    · have hzero : s.latency.count = 0 := hstatistics ▸ hcount
      rw [if_pos ⟨hnone.2 hzero, hzero⟩, Report.latencySection, if_pos hcount]
    · rw [if_neg fun h => hcount (hstatistics ▸ h.2),
        latencySection_eq_latencyLines s hstatistics hcount htable]
  rw [Report.final, headLines_eq s elapsed husers hrequests, hlatency]
  rfl

end Summary

/-! ### Where the sections stand -/

/-- A text without the signs that the headings of the latencies begin with. -/
def IsUnmarked (text : String) : Prop := ∀ c ∈ text.toList, c ≠ '📈' ∧ c ≠ '🔎'

namespace IsUnmarked

instance decidable (text : String) : Decidable (IsUnmarked text) :=
  List.decidableBAll (fun c => c ≠ '📈' ∧ c ≠ '🔎') text.toList

theorem append {first second : String} (h : IsUnmarked first) (h' : IsUnmarked second) :
    IsUnmarked (first ++ second) := by
  intro c hc
  rw [String.toList_append, List.mem_append] at hc
  exact hc.elim (h c) (h' c)

theorem of_digits {text : List Char} (h : ∀ c ∈ text, c.isDigit = true) :
    IsUnmarked (String.ofList text) := by
  intro c hc
  rw [String.toList_ofList] at hc
  constructor <;> rintro rfl <;> exact absurd (h _ hc) (by decide)

theorem of_number (n : Nat) : IsUnmarked (String.ofList (Nat.toDigits 10 n)) :=
  of_digits fun _ hc => Nat.isDigit_of_mem_toDigits (by decide) (by decide) hc

theorem doubleRule : IsUnmarked doubleRule := by
  intro c hc
  unfold QuerySwarm.doubleRule at hc
  rw [String.toList_ofList] at hc
  rw [List.eq_of_mem_replicate hc]
  decide

theorem fixed (places : Nat) (x : Binary64) : IsUnmarked (x.fixed places) := by
  unfold Binary64.fixed
  split
  · decide +kernel
  · decide +kernel
  · decide +kernel
  · refine append (append ?_ (of_number _)) ?_
    · split <;> decide +kernel
    · split
      · exact fun c hc => by cases hc
      · refine append (by decide +kernel) ?_
        rw [String.ofList_append]
        refine append (of_digits fun c hc => ?_) (of_number _)
        rw [List.eq_of_mem_replicate hc]
        decide

theorem flushRight (width : Nat) {text : String} (h : IsUnmarked text) :
    IsUnmarked (flushRight width text.toList) := by
  intro c hc
  rw [QuerySwarm.flushRight, String.toList_ofList, List.leftpad, List.mem_append] at hc
  rcases hc with hc | hc
  · rw [List.eq_of_mem_replicate hc]
    decide
  · exact h c hc

theorem numeral (width n : Nat) : IsUnmarked (numeral width n) := by
  have h := flushRight width (of_number n)
  rwa [String.toList_ofList] at h

end IsUnmarked

namespace Summary

variable (s : Summary) (elapsed : Duration)

theorem isUnmarked_headLines : ∀ line ∈ s.headLines elapsed, IsUnmarked line := by
  have hlabels : ∀ label ∈ ["",
      "╔", "╗", "║                    FINAL TEST REPORT                           ║", "╚", "╝",
      "👥 USERS", "   Spawned:              ", "📊 REQUESTS", "   Total Sent:           ",
      "   Total Succeeded:      ", "   Total Failed:         ", "   Throughput:           ",
      " requests/sec", "   Success Rate:         ", "%"], IsUnmarked label := by
    decide +kernel
  simp only [List.forall_mem_cons] at hlabels
  obtain ⟨hblank, htop, htop', htitle, hbottom, hbottom', husers, hspawned, hrequests, hsent,
    hsucceeded, hfailed, hthroughput, hunit, hrate, hpercent, -⟩ := hlabels
  have hnumeral := IsUnmarked.numeral 10
  have hrule := IsUnmarked.doubleRule
  simp only [headLines, List.forall_mem_append, List.forall_mem_cons]
  refine ⟨⟨hblank, (htop.append hrule).append htop', htitle, (hbottom.append hrule).append hbottom',
    hblank, husers, hspawned.append (hnumeral _), hblank, hrequests, hsent.append (hnumeral _),
    hsucceeded.append (hnumeral _), hfailed.append (hnumeral _),
    (hthroughput.append (.flushRight 10 (.fixed 2 _))).append hunit, List.forall_mem_nil _⟩, ?_⟩
  split
  · exact List.forall_mem_nil _
  · exact List.forall_mem_singleton.2 ((hrate.append (.flushRight 10 (.fixed 2 _))).append hpercent)

theorem isUnmarked_footLines : ∀ line ∈ footLines elapsed, IsUnmarked line := by
  have hlabels : ∀ label ∈ ["", "⏱️  Test Duration: ", " seconds"], IsUnmarked label := by
    decide +kernel
  simp only [List.forall_mem_cons] at hlabels
  obtain ⟨hblank, hduration, hunit, -⟩ := hlabels
  simp only [footLines, List.forall_mem_cons]
  exact ⟨hblank, (hduration.append (.fixed 2 _)).append hunit, .doubleRule, hblank,
    List.forall_mem_nil _⟩

theorem infix_lines {line : String} {lines : List String} (h : line ∈ lines) :
    line.toList <:+: (String.join (lines.map (· ++ "\n"))).toList := by
  rw [String.toList_join, List.flatMap_def]
  have hmem : line ++ "\n" ∈ lines.map (· ++ "\n") := List.mem_map_of_mem h
  have hline := List.infix_of_mem_flatten (List.mem_map_of_mem (f := String.toList) hmem)
  rw [String.toList_append] at hline
  exact (List.prefix_append _ _).isInfix.trans hline

/-- The headings of the latencies and of the tasks stand on the console exactly if there is a task
or a latency. -/
theorem heading_infix_iff {heading : String}
    (h : heading ∈ ["📈 LATENCY", "🔎 PER OPERATION (ms)"]) :
    heading.toList <:+: (s.consoleText elapsed).toList ↔
      ¬(s.operations = [] ∧ s.latency.count = 0) := by
  have hmarked : ¬IsUnmarked heading := by
    revert heading
    decide +kernel
  unfold consoleText
  constructor
  · rintro hinfix hnone
    rw [if_pos hnone, List.append_nil] at hinfix
    refine hmarked fun c hc => ?_
    have hmem := hinfix.subset hc
    rw [String.toList_join, List.mem_flatMap] at hmem
    obtain ⟨_, hended, hc⟩ := hmem
    obtain ⟨line, hline, rfl⟩ := List.mem_map.1 hended
    have hunmarked : IsUnmarked line :=
      (List.mem_append.1 hline).elim (isUnmarked_headLines s elapsed line)
        (isUnmarked_footLines elapsed line)
    exact hunmarked.append (by decide +kernel) c hc
  · intro hsome
    rw [if_neg hsome]
    refine infix_lines (List.mem_append_left _ (List.mem_append_right _ ?_))
    rcases List.mem_pair.1 h with rfl | rfl
    · simp [latencyLines]
    · simp [latencyLines]

end Summary

namespace Tally

theorem operation_rows (t : Tally) :
    t.rows.map OperationSummary.operation = t.operationStatistics.map Prod.fst := by
  rw [rows, List.map_map]
  exact List.map_congr_left fun entry _ => Summary.operationOf_operation _ entry

/-! ### Rows of a tally that calls have written to -/

section Follows

variable {calls : List Call} {t : Tally} (follows : Follows calls t)
include follows

theorem count_statistics : t.statistics.count = (finished calls).length := by
  obtain ⟨writes, perm, rfl⟩ := follows
  have hall : (empty.writeAll writes).latency = .ofList (samples writes) :=
    latency_writeAll empty writes
  rw [statistics, hall, Latency.Statistics.count_ofHistogram, Histogram.total_ofList,
    (samples_perm perm).length_eq, List.length_map]

/-- A task has a row if one of its requests is finished, whether any was started or not. -/
theorem exists_row_iff (operation : String) :
    (∃ row ∈ t.rows, row.operation = operation) ↔
      ∃ milliseconds, (operation, milliseconds) ∈ finished calls := by
  have hlisted : (∃ row ∈ t.rows, row.operation = operation) ↔
      ∃ s, (operation, s) ∈ t.operationStatistics := by
    rw [← List.mem_map, operation_rows, List.mem_map]
    simp
  obtain ⟨writes, perm, rfl⟩ := follows
  rw [hlisted, ← samplesIn_ne_nil_iff perm]
  simp only [mem_operationStatistics_iff, exists_and_left, exists_eq, and_true]

/-- There are rows exactly if there are latencies. -/
theorem rows_eq_nil_iff : t.rows = [] ↔ t.statistics.count = 0 := by
  rw [count_statistics follows, List.length_eq_zero_iff, List.eq_nil_iff_forall_not_mem,
    List.eq_nil_iff_forall_not_mem]
  constructor
  · intro hrows e he
    obtain ⟨row, hrow, -⟩ := (exists_row_iff follows e.1).2 ⟨e.2, he⟩
    exact hrows row hrow
  · intro hfinished row hrow
    obtain ⟨milliseconds, he⟩ := (exists_row_iff follows row.operation).1 ⟨row, hrow, rfl⟩
    exact hfinished _ he

/-- The counters of a row are those of the calls; where there are none for its task, they are zero. -/
theorem counts_of_mem_rows {row : OperationSummary} (hrow : row ∈ t.rows) :
    row.requests = (calls.flatMap Call.writes).countP (Write.startsIn row.operation) ∧
      row.failures = (calls.flatMap Call.writes).countP (Write.failsIn row.operation) := by
  obtain ⟨-, -, -, hrequests, hfailures⟩ := (mem_rows_iff t row).1 hrow
  obtain ⟨writes, perm, rfl⟩ := follows
  rw [hrequests, hfailures, ← perm.countP_eq, ← perm.countP_eq,
    figure_writeAll (fun t => t.requestsOf row.operation) (Write.startsIn row.operation)
      (fun t w => t.requestsOf_write w row.operation),
    figure_writeAll (fun t => t.failuresOf row.operation) (Write.failsIn row.operation)
      (fun t w => t.failuresOf_write w row.operation)]
  exact ⟨Nat.zero_add _, Nat.zero_add _⟩

end Follows

/-- The two reports of a tally after any calls, whether they are in order or not: finished requests may
never have been started, and started ones never be finished.

The summary lists the tasks of which a request succeeded or failed, each once, in the order of the
bytes of their names, with the requests that were started and those that failed. The report on the
console, at whatever time it is shown, is set from the summary: it has a row for each task that the
summary lists, in this order and with the same numbers, and the headings of the latencies and of the
tasks are left out exactly if the summary lists no task and no latency. -/
theorem reports_agree {calls : List Call} {t : Tally} (follows : Follows calls t)
    (settings : Settings) (timestamp : String) (elapsed shown : Duration) :
    let summary := Summary.ofTally t settings timestamp elapsed
    (summary.operations.map fun row => bytesOf row.operation).Pairwise (· < ·) ∧
    (∀ operation, (∃ row ∈ summary.operations, row.operation = operation) ↔
      ∃ milliseconds, (operation, milliseconds) ∈ finished calls) ∧
    (∀ row ∈ summary.operations,
      row.requests = (calls.flatMap Call.writes).countP (Write.startsIn row.operation) ∧
      row.failures = (calls.flatMap Call.writes).countP (Write.failsIn row.operation)) ∧
    t.finalReport shown = summary.consoleText shown ∧
    ∀ heading ∈ ["📈 LATENCY", "🔎 PER OPERATION (ms)"],
      heading.toList <:+: (t.finalReport shown).toList ↔
        ¬(summary.operations = [] ∧ summary.latency.count = 0) := by
  intro summary
  have hconsole : t.finalReport shown = summary.consoleText shown :=
    summary.final_eq_consoleText shown rfl rfl rfl (table_eq_rows t) (rows_eq_nil_iff follows)
  refine ⟨?_, exists_row_iff follows, fun row => counts_of_mem_rows follows, hconsole,
    fun heading hheading => ?_⟩
  · have hsorted := sorted_operationStatistics t
    rw [← operation_rows, List.pairwise_map] at hsorted
    show (t.rows.map fun row => bytesOf row.operation).Pairwise (· < ·)
    rw [List.pairwise_map]
    exact hsorted.imp bytesOf_lt_bytesOf
  · rw [hconsole]
    exact summary.heading_infix_iff shown hheading

/-- One request of a task was started, and two of them failed. -/
theorem reports_agree_fourCalls :
    let t := fourCalls.foldl Call.apply empty
    Follows fourCalls t ∧
      (∃ row ∈ t.rows, row.operation = "z" ∧ row.requests = 1 ∧ row.failures = 2) ∧
      t.finalReport .zero = (Summary.ofTally t localSettings "" .zero).consoleText .zero ∧
      "🔎 PER OPERATION (ms)".toList <:+: (t.finalReport .zero).toList := by
  have follows := follows_foldl fourCalls
  obtain ⟨-, hlisted, hcounts, hconsole, hheadings⟩ :=
    reports_agree follows localSettings "" .zero .zero
  obtain ⟨row, hrow, hname⟩ := (hlisted "z").2 ⟨0, by decide⟩
  obtain ⟨hrequests, hfailures⟩ := hcounts row hrow
  rw [hname] at hrequests hfailures
  refine ⟨follows, ⟨row, hrow, hname, hrequests, hfailures⟩, hconsole, ?_⟩
  refine (hheadings _ (List.mem_cons_of_mem _ List.mem_cons_self)).2 fun hnone => ?_
  rw [hnone.1] at hrow
  cases hrow

end Tally

end QuerySwarm
