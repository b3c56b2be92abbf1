import QuerySwarm.Calendar
import QuerySwarm.Program
import QuerySwarm.Transport
import Std.Async.Signal
import Std.Time.DateTime.Timestamp

/-!
# The command line

What surrounds the program is looked up, the program does its work, and what it leaves behind is
shown and written. A run is paced: each of its steps waits for its time, and is shown when it comes.
The requests of a run are sent while it goes on; what has landed is put into the run before the next
step is taken, and so is an interruption.
-/

namespace QuerySwarm.Console

open Std.Async

/-! ### Looking around -/

def wallTime : IO Duration := do
  let now ← Std.Time.Timestamp.now
  return ⟨now.toNanosecondsSinceUnixEpoch.toInt.toNat⟩

def steadyTime : IO Duration := return ⟨← IO.monoNanosNow⟩

def variableEntry (name : String) : IO (List (String × Bytes)) := do
  match ← IO.getEnv name with
  | some value => return [(name, bytesOf value)]
  | none => return []

def directoriesTo (location : Location) : List (Location × Entry) :=
  (List.range location.length).map fun n => (location.take (n + 1), .directory)

/-- The directory that the program was started in, and no files. -/
def noFiles : IO Files := do
  let here := Files.parts (← IO.currentDir).toString
  let location := here.filter (fun part => part ≠ "")
  return ⟨directoriesTo location, location⟩

/-- Files with one more, and the directories that it is in. -/
def withFile (files : Files) (path : String) (content : Bytes) : Files :=
  let made := match Files.parent? path with
    | some parent => (files.makeAll parent).toOption.getD files
    | none => files
  (made.write path content).toOption.getD files

def withoutFile (files : Files) (path : String) : Files :=
  match files.locate path with
  | .ok location => files.remove location
  | .error _ => files

def look (files : Files) (path : String) : IO Files := do
  try
    let content ← IO.FS.readBinFile path
    return withFile files path content.toList
  catch e =>
    match e with
    | .inappropriateType .. => return (files.makeAll path).toOption.getD files
    | _ => return withoutFile files path

def pathsOf : Command → List String
  | .run o => o.tokenFile.toList ++ [o.templateFile]
  | .payload o => [o.templateFile]
  | .tasks => []

def variablesOf : Command → List String
  | .run o => [o.tokenVariable]
  | _ => []

def randomWords (n : Nat) : IO (List UInt64) := do
  (List.range n).mapM fun _ => do
    let bytes ← IO.getRandomBytes 8
    return bytes.toList.foldl (fun word byte => word <<< 8 ||| byte.toUInt64) 0

/-! ### Showing -/

def levelColumn (level : LogLevel) : String :=
  String.ofList (List.replicate (5 - level.name.length) ' ') ++ level.name

/-- Show something; an event is shown with the time. -/
def display (verbose : Bool) (o : Output) : IO Unit := do
  if o.isShown verbose then
    match o with
    | .event e =>
      IO.println (Calendar.text 6 "Z" (← wallTime) ++ " " ++ levelColumn e.level ++ " " ++ e.body)
    | .text s => IO.print s
    (← IO.getStdout).flush

def displayAll (verbose : Bool) (output : List Output) : IO Unit := output.forM (display verbose)

def displayLog (verbose : Bool) (log : Log) : IO Unit := displayAll verbose (log.map .event)

/-! ### The machine -/

def numbersIn (line : String) : List Nat := (line.splitOn " ").filterMap String.toNat?

/-- How long the processors were busy and how long they were there, in ticks. -/
structure Ticks where
  busy : Nat
  total : Nat

def ticks : IO Ticks := do
  try
    let text ← IO.FS.readFile "/proc/stat"
    let counts := numbersIn ((text.splitOn "\n").headD "")
    let total := (counts.take 8).foldl Nat.add 0
    let idle := ((counts.drop 3).take 2).foldl Nat.add 0
    return ⟨total - idle, total⟩
  catch _ => return ⟨0, 0⟩

/-- The kilobytes that a table of memory has for a name. -/
def kilobytes (table : List String) (name : String) : Nat :=
  ((table.find? fun line => line.startsWith (name ++ ":")).bind
    fun line => (numbersIn line).head?).getD 0

/-- What the machine is busy with, since so many ticks. -/
def figuresSince (before : Ticks) : IO SystemFigures := do
  try
    let now ← ticks
    let table := (← IO.FS.readFile "/proc/meminfo").splitOn "\n"
    let total := kilobytes table "MemTotal"
    let elapsed := now.total - before.total
    let busy := 100 * (now.busy - before.busy)
    return {
      cpuUsage := if elapsed = 0 then 0 else .ofRatio false busy elapsed
      memoryUsed := (total - kilobytes table "MemAvailable") / 1024
      memoryTotal := total / 1024 }
  catch _ => return .none

/-! ### Pacing a run -/

/-- The words that a user is kept supplied with. -/
def supply : Nat := 64

/-- Give new words to the users that have few left. -/
def resupply {α : Type} (s : Swarm α) : IO (Swarm α) := do
  let members ← s.members.mapM fun m => do
    if (m.source.words.drop 8).isEmpty then
      return { m with source := { m.source with words := m.source.words ++ (← randomWords supply) } }
    else return m
  return { s with members := members }

/-- A request on its way: who sent it, and what comes of it and when. -/
structure Job where
  member : Nat
  sample : AsyncTask (Outcome × Duration)

/-- A run that is paced. -/
structure Pace where
  course : Course Unit
  files : Files
  verbose : Bool
  began : Duration
  ticks : Ticks
  interruption : AsyncTask Int

def Pace.elapsed (p : Pace) (time : Duration) : Duration :=
  ⟨time.nanoseconds - p.began.nanoseconds⟩

/-- The number of requests that one sample can take. -/
def requestLimit : Nat := Network.redirectLimit + 1

def launch (test : LoadTest) (files : Files) (k : Nat) (task : Task) : IO Job := do
  let work : Async (Outcome × Duration) := do
    let outcome ← Transport.sample test.client test.token files task requestLimit []
    return (outcome, ← steadyTime)
  return ⟨k, ← work.asTask⟩

def showNew (verbose : Bool) (t : Timeline Unit) : IO (Timeline Unit) := do
  displayAll verbose t.swarm.output.reverse
  return { t with swarm := { t.swarm with output := [] } }

def landAll (p : Pace) (jobs : List Job) (t : Timeline Unit) : IO (List Job × Timeline Unit) := do
  jobs.foldrM (fun job (waiting, t) => do
    if ← IO.hasFinished job.sample then
      match job.sample.get with
      | .ok (outcome, time) =>
        let landing := (p.elapsed time).max t.swarm.now
        return (waiting, t.land job.member landing outcome)
      | .error _ => return (waiting, t)
    else return (job :: waiting, t)) ([], t)

/-- Tell the swarm to stop if somebody interrupts the run. -/
def heed (p : Pace) (t : Timeline Unit) : IO (Timeline Unit) := do
  if ← IO.hasFinished p.interruption then
    showNew p.verbose (t.interrupt ((p.elapsed (← steadyTime)).max t.swarm.now))
  else return t

/-- Files as they are now, where a task reads one. -/
def reread (files : Files) (test : LoadTest) : IO Files :=
  test.tasks.tasks.foldlM (fun files task =>
    match task with
    | .template path => look files path
    | _ => return files) files

def act (p : Pace) (jobs : List Job) (t : Timeline Unit) (entry : Duration × Timer) :
    IO (List Job × Timeline Unit) := do
  let test := p.course.test
  let fresh ← randomWords supply
  let files ← reread p.files test
  let figures ← if entry.2 = .report then figuresSince p.ticks else pure .none
  let conditions := Conditions.awaiting test files (fun _ => .ofWords fresh) (fun _ => figures)
  let supplied := { t with swarm := ← resupply t.swarm }
  let later := supplied.step { p.course with conditions := conditions } entry
  let later ← showNew p.verbose later
  match entry.2 with
  | .member k =>
    let others := jobs.filter fun job => job.member ≠ k
    match t.swarm.phase? k, later.swarm.phase? k with
    | some (.thinking ..), some (.executing task _) =>
      return ((← launch test files k task) :: others, later)
    | _, _ => return (others, later)
  | _ => return (jobs, later)

/-- Wait for so long at most; not for long if something may come from outside. -/
def rest (jobs : List Job) (remaining : Duration) : IO Unit := do
  let longest := if jobs.isEmpty then 50 else 1
  IO.sleep (UInt32.ofNat (Nat.min longest (remaining.milliseconds + 1)))

/-- Let a run go its way, each step at its time. -/
partial def pace (p : Pace) (jobs : List Job) (t : Timeline Unit) : IO (Timeline Unit) := do
  let (jobs, landed) ← landAll p jobs t
  let t ← heed p landed
  match t.next? p.course with
  | none => return t
  | some entry =>
    let now := p.elapsed (← steadyTime)
    if now.nanoseconds < entry.1.nanoseconds then
      rest jobs ⟨entry.1.nanoseconds - now.nanoseconds⟩
      pace p jobs t
    else
      let (jobs, t) ← act p jobs t entry
      pace p jobs t

/-- Prepare a load test and run it, showing what happens. -/
def runTest (environment : Environment) (files : Files) (o : RunOptions) : IO Ending := do
  let clock : Clock := ⟨← steadyTime⟩
  let prepared := LoadTest.prepare clock o environment files
  displayLog o.verbose prepared.2
  match prepared.1 with
  | .error e => return ⟨1, [.text (Program.setupText e)], "", files⟩
  | .ok test =>
    displayLog o.verbose test.opening
    match test.course clock (.awaiting test files (fun _ => .ofWords []) (fun _ => .none)) with
    | .error fault => return Program.breakOff fault files []
    | .ok course =>
      let interrupts ← Signal.Waiter.mk .sigint true
      let interruption ← interrupts.wait
      let p : Pace := ⟨course, files, o.verbose, ← steadyTime, ← ticks, interruption⟩
      let ended ← pace p [] (Timeline.initial test ())
      interrupts.stop
      displayLog o.verbose (LoadTest.closing ended.swarm)
      let timestamp := Calendar.text 9 "+00:00" (← wallTime)
      return Program.conclude test.settings ended.swarm.tally ended.swarm.now timestamp files []

/-! ### Leaving -/

/-- Write the summary of a run where it was asked for. -/
def writeSummary (path : String) (e : Ending) : IO Ending := do
  match e.files.readText path with
  | .error _ => return e
  | .ok text =>
    try
      match Files.parent? path with
      | some parent => if parent ≠ "" then IO.FS.createDirAll parent
      | none => pure ()
      IO.FS.writeFile path text
      return e
    catch error =>
      return { e with
        code := 1
        complaint := Program.complaint ("Failed to write report " ++ path) (some (toString error)) }

def leave (verbose : Bool) (e : Ending) : IO UInt32 := do
  displayAll verbose e.output
  IO.eprint e.complaint
  return UInt32.ofNat e.code

def follow (environment : List (String × Bytes)) (command : Command) : IO UInt32 := do
  let more ← (variablesOf command).mapM variableEntry
  let files ← (pathsOf command).foldlM look (← noFiles)
  match command with
  | .run o =>
    let ending ← runTest (.ofList (environment ++ more.flatten)) files o
    match o.reportPath with
    | some path => leave o.verbose (← writeSummary path ending)
    | none => leave o.verbose ending
  | .payload o => leave true (Program.showPayload o files)
  | .tasks => leave true (Program.showTasks files)

end QuerySwarm.Console

open QuerySwarm in
def main (arguments : List String) : IO UInt32 := do
  let environment ← Console.variableEntry RunOptions.hostVariable
  match Command.read (.ofList environment) arguments with
  | .error r => Console.leave true (Program.refuse (← Console.noFiles) r)
  | .ok command => Console.follow environment command
