import QuerySwarm.CommandLine.Commands
import QuerySwarm.Report.Summary
import QuerySwarm.Run

/-!
# The program

The program reads its command line and does one of three things: it lists the tasks, it shows the
payload of one, or it runs a load test. What it finds around it is a value, and so is what it leaves
behind: an exit code, what it showed, what it complained about, and files.

Main statements: what is shown as a payload is what the task sends (`Program.output_of_showPayload`),
a refused command line changes no file (`Program.files_of_refused`), and a load test that cannot be
prepared starts nobody (`Program.code_of_setup_error`).
-/

namespace QuerySwarm

/-- What a program finds around it. The clock is the one of the start; it is read once, for
everything that is prepared and for the deadline of a run. -/
structure Surroundings where
  environment : Environment
  files : Files
  clock : Clock
  conditions : LoadTest → Conditions (List HttpRequest)

/-- What a program leaves behind. -/
structure Ending where
  code : Nat
  output : List Output
  complaint : String
  files : Files

namespace Program

def complaint (message : String) (reason? : Option String) : String :=
  "Error: " ++ message ++
    (match reason? with
     | some reason => "\n\nCaused by:\n    " ++ reason
     | none => "") ++ "\n"

def failed (files : Files) (output : List Output) (message : String) (reason? : Option String) :
    Ending :=
  ⟨1, output, complaint message reason?, files⟩

/-! ### Answers to a command line -/

/-- Answer a command line that is not followed: a text that was asked for is shown, any other is a
complaint. -/
def refuse (files : Files) (r : CommandLine.Refusal) : Ending :=
  if r.cause.isAnswer then ⟨0, [.text r.text], "", files⟩ else ⟨2, [], r.text, files⟩

def taskList : String :=
  Report.lines ("Available tasks:" :: TaskSet.catalog.names.map (fun name => "  " ++ name) ++
    ["  " ++ Task.templateName ++ "  (reads --template-file)"])

/-! ### Showing a payload -/

def chosenTask? (o : PayloadOptions) : Option Task :=
  if o.operation = Task.templateName then some (.template o.templateFile)
  else TaskSet.catalog.get? o.operation

/-- What is said of an operation that there is none of. -/
def unknownOperation (operation : String) : String :=
  "Unknown operation '" ++ operation ++ "'; run \x60" ++ programName ++ " tasks\x60 to list them"

def payloadText (o : PayloadOptions) (payload : Request) : String :=
  if o.pretty then payload.prettyBody else payload.body

def showPayload (o : PayloadOptions) (files : Files) : Ending :=
  match chosenTask? o with
  | none => failed files [] (unknownOperation o.operation) none
  | some task =>
    match task.payload files with
    | .error e => failed files [] e.message e.reason?
    | .ok payload => ⟨0, [.text (payloadText o payload ++ "\n")], "", files⟩

/-- What is shown as a payload is what the task sends. -/
theorem output_of_showPayload {o : PayloadOptions} {files : Files} {task : Task} {payload : Request}
    (hpretty : o.pretty = false) (htask : chosenTask? o = some task)
    (hpayload : task.payload files = .ok payload) :
    (showPayload o files).output = [.text (payload.body ++ "\n")] := by
  simp [showPayload, htask, hpayload, payloadText, hpretty]

/-! ### Running a load test -/

/-- What is shown of a load test that cannot be prepared. -/
def setupText (e : SetupError) : String := "CONFIGURATION ERROR: " ++ e.message ++ "\n"

/-- What is shown when a summary was written. -/
def summaryEvent (path : String) : LogEvent := .plain .info .program ("JSON report: " ++ path)

def doneEvent : LogEvent := .plain .info .program "Load test complete"

/-- End a run: report on it, and write a summary where one is asked for. -/
def conclude (settings : Settings) (tally : Tally) (elapsed : Duration) (timestamp : String)
    (files : Files) (shown : List Output) : Ending :=
  let reported := shown ++ [.text (tally.finalReport elapsed)]
  match settings.reportPath with
  | none => ⟨0, reported ++ [.event doneEvent], "", files⟩
  | some path =>
    match (Summary.ofTally tally settings timestamp elapsed).save path files with
    | .error e => failed files reported e.message (some e.reason)
    | .ok files => ⟨0, reported ++ [.event (summaryEvent path), .event doneEvent], "", files⟩

def breakOff (fault : RunFault) (files : Files) (shown : List Output) : Ending :=
  if fault.isCrash then ⟨101, shown, fault.message ++ "\n", files⟩
  else failed files shown fault.message none

/-- Run a load test that was prepared, in so many steps at most. -/
def perform (s : Surroundings) (timestamp : String) (limit : Nat) (test : LoadTest)
    (shown : List Output) : Ending :=
  let conditions := s.conditions test
  let ran := test.run s.clock conditions [] limit
  match ran.result with
  | .error fault => breakOff fault s.files (shown ++ ran.output)
  | .ok ended =>
    conclude test.settings ended.swarm.tally (conditions.stopwatch ended.swarm.now) timestamp
      s.files (shown ++ ran.output)

def runTest (s : Surroundings) (timestamp : String) (limit : Nat) (o : RunOptions) : Ending :=
  let prepared := LoadTest.prepare s.clock o s.environment s.files
  let shown := prepared.2.map Output.event
  match prepared.1 with
  | .error e => ⟨1, shown ++ [.text (setupText e)], "", s.files⟩
  | .ok test => perform s timestamp limit test shown

def filtered (verbose : Bool) (e : Ending) : Ending :=
  { e with output := e.output.filter (Output.isShown verbose) }

/-- A load test that cannot be prepared ends the program with a code of its own, and starts
nobody. -/
theorem code_of_setup_error {s : Surroundings} {o : RunOptions} {e : SetupError}
    (h : (LoadTest.prepare s.clock o s.environment s.files).1 = .error e) (timestamp : String)
    (limit : Nat) :
    (runTest s timestamp limit o).code = 1 ∧ (runTest s timestamp limit o).files = s.files := by
  simp [runTest, h]

/-! ### The whole program -/

def showTasks (files : Files) : Ending := ⟨0, [.text taskList], "", files⟩

/-- Do what the command line asks for; a run takes so many steps at most. -/
def run (s : Surroundings) (timestamp : String) (limit : Nat) (arguments : List String) : Ending :=
  match Command.read s.environment arguments with
  | .error r => refuse s.files r
  | .ok .tasks => showTasks s.files
  | .ok (.payload o) => showPayload o s.files
  | .ok (.run o) => filtered o.verbose (runTest s timestamp limit o)

theorem files_of_refused {s : Surroundings} {arguments : List String} {r : CommandLine.Refusal}
    (h : Command.read s.environment arguments = .error r) (timestamp : String) (limit : Nat) :
    (run s timestamp limit arguments).files = s.files := by
  simp only [run, h, refuse]
  split <;> rfl

end Program

end QuerySwarm
