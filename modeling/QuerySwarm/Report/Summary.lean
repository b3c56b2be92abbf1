import QuerySwarm.Files
import QuerySwarm.Json.Printer
import QuerySwarm.Settings
import QuerySwarm.Tally

/-!
# The summary of a run

A summary gives the settings and the numbers of a run as JSON, for other programs. It can be written
to a file, for which directories are made.

Main statement: a summary lists exactly the tasks that have latencies
(`Summary.operations_ofTally`).
-/

namespace QuerySwarm

/-- The numbers of one task. -/
structure OperationSummary where
  operation : String
  requests : Nat
  failures : Nat
  latency : Latency.Statistics
  deriving DecidableEq

/-- The settings and the numbers of a run. -/
structure Summary where
  timestamp : String
  settings : Settings
  elapsed : Duration
  users : UserCounts
  requests : RequestCounts
  latency : Latency.Statistics
  operations : List OperationSummary

namespace Summary

/-- The numbers of a task with latencies; a task that was never started has no requests. -/
def operationOf (operations : SortedMap String OperationCounts)
    (entry : String × Latency.Statistics) : OperationSummary :=
  match operations.get? entry.1 with
  | some counts => ⟨entry.1, counts.requests, counts.failures, entry.2⟩
  | none => ⟨entry.1, 0, 0, entry.2⟩

def ofTally (t : Tally) (settings : Settings) (timestamp : String) (elapsed : Duration) :
    Summary where
  timestamp := timestamp
  settings := settings
  elapsed := elapsed
  users := t.counters.users
  requests := t.counters.requests
  latency := t.statistics
  operations := t.operationStatistics.map (operationOf t.counters.operations)

theorem operationOf_operation (operations : SortedMap String OperationCounts)
    (entry : String × Latency.Statistics) : (operationOf operations entry).operation = entry.1 := by
  unfold operationOf
  split <;> rfl

/-- A summary lists the tasks that have latencies, in order. -/
theorem operations_ofTally (t : Tally) (settings : Settings) (timestamp : String)
    (elapsed : Duration) :
    (ofTally t settings timestamp elapsed).operations.map OperationSummary.operation =
      t.operationLatency.keys := by
  simp [ofTally, Tally.operationStatistics, SortedMap.mapValues, SortedMap.keys, keysOf,
    operationOf_operation, Function.comp_def]

/-! ### The form in JSON -/

def statisticsJson (s : Latency.Statistics) : Json :=
  .object [("min", .natural s.min), ("p50", .natural s.p50), ("p95", .natural s.p95),
    ("p99", .natural s.p99), ("max", .natural s.max), ("mean", .ofDouble s.mean),
    ("count", .natural s.count)]

def operationJson (o : OperationSummary) : Json :=
  .object [("operation", .string o.operation), ("requests", .natural o.requests),
    ("failures", .natural o.failures), ("latency", statisticsJson o.latency)]

def settingsJson (s : Settings) : Json :=
  .object [("users", .natural s.users), ("spawn_rate", .ofDouble s.spawnRate),
    ("think_time", .object [("min", .ofDouble s.thinkTime.min), ("max", .ofDouble s.thinkTime.max)]),
    ("tag_operations", .boolean s.tagOperations),
    ("validate_responses", .boolean s.validateResponses)]

def toJson (s : Summary) : Json :=
  .object [("timestamp", .string s.timestamp), ("host", .string s.settings.host.text),
    ("config", settingsJson s.settings), ("duration_secs", .ofDouble s.elapsed.toSeconds),
    ("users", .object [("spawned", .natural s.users.spawned), ("active", .natural s.users.active)]),
    ("requests", .object [("started", .natural s.requests.started),
      ("succeeded", .natural s.requests.succeeded), ("failed", .natural s.requests.failed),
      ("in_flight", .natural s.requests.inFlight)]),
    ("latency", statisticsJson s.latency),
    ("operations", .array (s.operations.map operationJson))]

def text (s : Summary) : String := s.toJson.prettyText

/-! ### Writing to a file -/

/-- Why a summary was not written. -/
inductive WriteError where
  | directory (path : String) (error : FileError)
  | file (path : String) (error : FileError)
  deriving DecidableEq, Repr

def WriteError.message : WriteError → String
  | .directory path _ => "Failed to create report dir " ++ path
  | .file path _ => "Failed to write report " ++ path

def WriteError.reason : WriteError → String
  | .directory _ error => error.message
  | .file _ error => error.message

/-- Make the directory that a file is in, if its path names one. -/
def makeParent (files : Files) (path : String) : Except WriteError Files :=
  match Files.parent? path with
  | none => .ok files
  | some parent =>
    if parent.isEmpty then .ok files
    else (files.makeAll parent).mapError (.directory parent)

def save (s : Summary) (path : String) (files : Files) : Except WriteError Files :=
  match makeParent files path with
  | .error e => .error e
  | .ok files => (files.write path (bytesOf s.text)).mapError (.file path)

end Summary

end QuerySwarm
