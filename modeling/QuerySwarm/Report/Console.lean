import QuerySwarm.Duration
import QuerySwarm.Tally

/-!
# The report on the console

What is shown of a tally: while a run goes, a screen that is drawn anew each time, and at its end a
report. Both give the counters of one moment, the statistics of all latencies and, in a table, those
of each task. What there are no numbers for is left out.

Main statement: the table has a row for each task that has latencies (`Report.length_table`).
-/

namespace QuerySwarm.Report

/-! ### Columns -/

def right (width : Nat) (text : String) : String :=
  String.ofList (List.replicate (width - text.length) ' ') ++ text

def left (width : Nat) (text : String) : String :=
  text ++ String.ofList (List.replicate (width - text.length) ' ')

def column (width : Nat) (n : Nat) : String := right width (natText n)

def decimals (width : Nat) (x : Binary64) : String := right width (x.fixed 2)

def twoDigits (n : Nat) : String := if n < 10 then "0" ++ natText n else natText n

/-- A line that is repeated from one character. -/
def rule (c : Char) (width : Nat) : String := String.ofList (List.replicate width c)

def lines (ls : List String) : String := String.join (ls.map fun l => l ++ "\n")

/-! ### Rates -/

/-- The part of the finished requests that went well, in percent. -/
def successRate (c : RequestCounts) : Binary64 :=
  if c.finished = 0 then 0
  else .ofNat c.succeeded / .ofNat c.finished * .ofNat 100

def throughput (c : RequestCounts) (elapsed : Duration) : Binary64 :=
  if elapsed.toSeconds.le 0 then 0 else .ofNat c.finished / elapsed.toSeconds

/-! ### The table of the tasks -/

def tableLine (cells : List String) : String := "   " ++ " ".intercalate cells

def tableHead : String :=
  tableLine (left 22 "Operation" ::
    ["Reqs", "Fails", "P50", "P95", "P99", "Max"].map (right 8))

def tableRow (counters : Counters) (entry : String × Latency.Statistics) : String :=
  let counts := (counters.operations.get? entry.1).getD .none
  tableLine (left 22 entry.1 ::
    [counts.requests, counts.failures, entry.2.p50, entry.2.p95, entry.2.p99, entry.2.max].map
      (column 8))

/-- The table of the tasks that have latencies. -/
def table (counters : Counters) (operations : List (String × Latency.Statistics)) : List String :=
  tableHead :: operations.map (tableRow counters)

theorem length_table (counters : Counters) (operations : List (String × Latency.Statistics)) :
    (table counters operations).length = operations.length + 1 := by
  simp [table]

/-! ### The screen -/

def boxTop (title : String) : String :=
  "┌─ " ++ title ++ " " ++ rule '─' (58 - title.length) ++ "┐"

def boxBottom : String := "└" ++ rule '─' 61 ++ "┘"

/-- The line under which a report opens, and the lines around its title. -/
def banner (title : String) : List String :=
  ["╔" ++ rule '═' 64 ++ "╗", "║" ++ title ++ "║", "╚" ++ rule '═' 64 ++ "╝"]

/-- The sequence that clears a screen and goes to its top. -/
def clearScreen : String := "\x1b[2J\x1b[1;1H"

def clockText (d : Duration) : String :=
  twoDigits (d.seconds / 3600) ++ ":" ++ twoDigits (d.seconds % 3600 / 60) ++ ":" ++
    twoDigits (d.seconds % 60)

/-- The box of the requests, with the line about users above it. -/
def requestBox (c : Counters) (elapsed : Duration) : List String :=
  ["", "⏱️  Elapsed Time: " ++ clockText elapsed ++ "    Users: " ++ natText c.users.active ++
      " active / " ++ natText c.users.spawned ++ " spawned",
    "", boxTop "REQUESTS",
    "│  Sent:         " ++ column 8 c.requests.started ++ "    In-Flight:  " ++
      column 8 c.requests.inFlight ++ "              │",
    "│  Succeeded:    " ++ column 8 c.requests.succeeded ++ "    Failed:     " ++
      column 8 c.requests.failed ++ "              │"] ++
  (if c.requests.started = 0 then []
   else ["│  Success Rate: " ++ decimals 7 (successRate c.requests) ++ "%    Throughput: " ++
      decimals 7 (throughput c.requests elapsed) ++ "/sec        │"]) ++
  [boxBottom]

/-- The box of the latencies, with the table under it. -/
def latencyBox (c : Counters) (s : Latency.Statistics)
    (operations : List (String × Latency.Statistics)) : List String :=
  if s.count = 0 then []
  else
    ["", boxTop "LATENCY (ms)",
      "│  Min: " ++ column 6 s.min ++ "  P50: " ++ column 6 s.p50 ++ "  P95: " ++ column 6 s.p95 ++
        "  P99: " ++ column 6 s.p99 ++ "  Max: " ++ column 6 s.max ++ "│",
      boxBottom, ""] ++ table c operations

def systemBox (f : SystemFigures) : List String :=
  ["", boxTop "SYSTEM",
    "│  CPU Usage:    " ++ right 6 (f.cpuUsage.fixed 1) ++ "%    Memory: " ++
      column 6 f.memoryUsed ++ " / " ++ column 6 f.memoryTotal ++ " MB       │",
    boxBottom]

def live (c : Counters) (elapsed : Duration) (s : Latency.Statistics)
    (operations : List (String × Latency.Statistics)) : String :=
  clearScreen ++ lines (banner "             Search API Load Test - Live Metrics               " ++
    requestBox c elapsed ++ latencyBox c s operations ++ systemBox c.system ++
    ["", "  [Press Ctrl+C to stop test]"])

/-! ### The report at the end -/

/-- A line of the report: what a number is, the number, and its unit. -/
def item (label number unit : String) : String := "   " ++ left 22 (label ++ ":") ++ right 10 number ++ unit

def requestSection (c : Counters) (elapsed : Duration) : List String :=
  ["", "👥 USERS", item "Spawned" (natText c.users.spawned) "",
    "", "📊 REQUESTS", item "Total Sent" (natText c.requests.started) "",
    item "Total Succeeded" (natText c.requests.succeeded) "",
    item "Total Failed" (natText c.requests.failed) "",
    item "Throughput" ((throughput c.requests elapsed).fixed 2) " requests/sec"] ++
  (if c.requests.started = 0 then []
   else [item "Success Rate" ((successRate c.requests).fixed 2) "%"])

def latencySection (c : Counters) (s : Latency.Statistics)
    (operations : List (String × Latency.Statistics)) : List String :=
  if s.count = 0 then []
  else
    ["", "📈 LATENCY", item "Min" (natText s.min) " ms", item "P50 (Median)" (natText s.p50) " ms",
      item "P95" (natText s.p95) " ms", item "P99" (natText s.p99) " ms",
      item "Max" (natText s.max) " ms", item "Mean" (s.mean.fixed 2) " ms",
      "", "🔎 PER OPERATION (ms)"] ++ table c operations

def final (c : Counters) (elapsed : Duration) (s : Latency.Statistics)
    (operations : List (String × Latency.Statistics)) : String :=
  lines ("" :: banner "                    FINAL TEST REPORT                           " ++
    requestSection c elapsed ++ latencySection c s operations ++
    ["", "⏱️  Test Duration: " ++ elapsed.toSeconds.fixed 2 ++ " seconds", rule '═' 64, ""])

end QuerySwarm.Report

namespace QuerySwarm.Tally

def liveReport (t : Tally) (elapsed : Duration) : String :=
  Report.live t.counters elapsed t.statistics t.operationStatistics

def finalReport (t : Tally) (elapsed : Duration) : String :=
  Report.final t.counters elapsed t.statistics t.operationStatistics

end QuerySwarm.Tally
