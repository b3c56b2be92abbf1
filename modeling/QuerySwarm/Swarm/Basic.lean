import QuerySwarm.LoadTest
import QuerySwarm.User

/-!
# A swarm of users

A swarm is the users that were started so far. Each of them thinks, then takes a sample, and goes on
like this until the swarm is told to stop: whoever thinks then leaves, and whoever has a request on
its way leaves when it is over. Nobody is started after that.

Here is what can happen to a swarm, one action at a time and with no say about when; the time is
part of the state only because a user that starts to think decides when to wake up. An action is
what one party does without waiting for anything, so that any other action may come before or after
it. Which job stands for a request on its way is left open.

A user looks twice whether the swarm was told to stop: it can be told while it waits
(`Action.heed`), and it asks when its wait is over (`Swarm.wake`).

Main statements: a start adds a member and nothing else does (`Swarm.size_spawn`,
`Swarm.size_finish`), and a member that stops is counted once (`Swarm.active_settle_stopped`).
-/

namespace QuerySwarm

/-- What a user is doing. It was started, but has not moved yet; it waits before its next sample; it
has a request on its way; or it is over. A user whose wait cannot be drawn crashes. -/
inductive Phase (α : Type) where
  | starting
  | thinking (task : Task) (wake : Duration)
  | executing (task : Task) (job : α)
  | stopped
  | crashed (fault : ThinkTime.Fault)

namespace Phase

variable {α : Type}

def isOver : Phase α → Bool
  | stopped => true
  | crashed _ => true
  | _ => false

end Phase

/-- Why a swarm is told to stop. -/
inductive StopCause where
  | elapsed
  | interrupted
  deriving DecidableEq, Repr

def StopCause.event : StopCause → LogEvent
  | elapsed => .plain .info .runner "Load test duration completed"
  | interrupted => .plain .warn .runner "Interrupted, stopping users"

/-- A user in a swarm: its number, the words that its choices are made with, and what it is doing. -/
structure Member (α : Type) where
  number : Nat
  source : WordSource
  phase : Phase α

/-- The users that were started, with what was counted and shown so far, the newest first. The
numbers below `nextNumber` are given out. -/
structure Swarm (α : Type) where
  now : Duration
  nextNumber : Nat
  members : List (Member α)
  tally : Tally
  isStopping : Bool
  output : List Output

namespace Member

variable {α : Type}

/-- A user that picks its next task and thinks about it. -/
def thinking (test : LoadTest) (now : Duration) (number : Nat) (source : WordSource) : Member α :=
  match test.tasks.choose source with
  | (none, source) => ⟨number, source, .stopped⟩
  | (some task, source) =>
    match test.settings.thinkTime.sample source with
    | .error fault => ⟨number, source, .crashed fault⟩
    | .ok (wait, source) => ⟨number, source, .thinking task (now + wait)⟩

def countStop (m : Member α) (t : Tally) : Tally :=
  match m.phase with
  | .stopped => t.userStopped
  | _ => t

end Member

namespace Swarm

variable {α : Type}

def empty : Swarm α := ⟨.zero, 0, [], .empty, false, []⟩

def size (s : Swarm α) : Nat := s.members.length

def phase? (s : Swarm α) (k : Nat) : Option (Phase α) := s.members[k]?.map Member.phase

/-- Whether everybody left after the swarm was told to stop. -/
def isDone (s : Swarm α) : Bool := s.isStopping && s.members.all fun m => m.phase.isOver

def report (s : Swarm α) (log : Log) : Swarm α :=
  { s with output := (log.map Output.event).reverse ++ s.output }

/-- Put a member in a place, and count it if it has stopped. -/
def settle (s : Swarm α) (k : Nat) (m : Member α) : Swarm α :=
  { s with members := s.members.set k m, tally := m.countStop s.tally }

/-! ### Actions -/

/-- What is shown when the last user was started. -/
def fullEvent (users : Nat) : LogEvent :=
  .plain .info .runner ("All " ++ natText users ++ " users spawned")

/-- What is shown when a user is started, the last one among so many. -/
def spawnEvents (users number size : Nat) : Log :=
  User.startEvent number :: (if size = users then [fullEvent users] else [])

def spawn (s : Swarm α) (test : LoadTest) (source : WordSource) : Swarm α :=
  { s.report (spawnEvents test.settings.users s.nextNumber (s.size + 1)) with
    nextNumber := s.nextNumber + 1
    members := s.members ++ [⟨s.nextNumber, source, .starting⟩]
    tally := s.tally.userSpawned }

/-- A member that was started picks its first task. -/
def enter (s : Swarm α) (test : LoadTest) (k : Nat) : Swarm α :=
  match s.members[k]? with
  | some ⟨number, source, .starting⟩ =>
    s.settle k (Member.thinking test s.now number source)
  | _ => s

/-- A member that was thinking starts a sample. -/
def start (s : Swarm α) (k : Nat) (job : α) : Swarm α :=
  match s.members[k]? with
  | some ⟨number, source, .thinking task _⟩ =>
    { s with
      members := s.members.set k ⟨number, source, .executing task job⟩
      tally := s.tally.requestStarted task.name }
  | _ => s

def sampleEvents (number : Nat) (operation : String) (o : Outcome) (milliseconds : Nat) : Log :=
  o.events (User.nameOf number) operation milliseconds ++
    (match o.result with
     | .ok _ => []
     | .error e => [User.failureEvent number operation e])

/-- The sample of a member is over, after so long, and it picks its next task. -/
def finish (s : Swarm α) (test : LoadTest) (k : Nat) (o : Outcome) (took : Duration) : Swarm α :=
  match s.members[k]? with
  | some ⟨number, source, .executing task _⟩ =>
    let recorded : Swarm α :=
      { s with tally := o.record task.name took.milliseconds s.tally }
    (recorded.report (sampleEvents number task.name o took.milliseconds)).settle k
      (Member.thinking test s.now number source)
  | _ => s

def halt (s : Swarm α) (k : Nat) : Swarm α :=
  match s.members[k]? with
  | some ⟨number, source, .thinking _ _⟩ => s.settle k ⟨number, source, .stopped⟩
  | _ => s

/-- The wait of a member is over: it leaves if the swarm was told to stop, and starts a sample if
not. A sample of which nothing is sent is over before anybody else moves. -/
def wake (s : Swarm α) (test : LoadTest) (k : Nat) (job : α) (over? : Option (Outcome × Duration)) :
    Swarm α :=
  if s.isStopping then s.halt k
  else
    match over? with
    | none => s.start k job
    | some (o, took) => (s.start k job).finish test k o took

/-- The screen is drawn, with fresh figures of the machine. -/
def draw (s : Swarm α) (figures : SystemFigures) (screen : Tally → String) : Swarm α :=
  let tally := s.tally.write (.system figures)
  { s with tally := tally, output := .text (screen tally) :: s.output }

/-- What is shown when the swarm is told to stop. -/
def stopEvents (cause : StopCause) (spawned : Nat) : Log :=
  [cause.event,
    .plain .info .runner
      ("Waiting for " ++ natText spawned ++ " users to finish in-flight requests...")]

def signal (s : Swarm α) (cause : StopCause) : Swarm α :=
  { s.report (stopEvents cause s.size) with isStopping := true }

/-! ### Facts about the actions -/

@[simp] theorem size_report (s : Swarm α) (log : Log) : (s.report log).size = s.size := rfl

@[simp] theorem size_settle (s : Swarm α) (k : Nat) (m : Member α) :
    (s.settle k m).size = s.size := by
  simp [settle, size]

@[simp] theorem size_spawn (test : LoadTest) (s : Swarm α) (source : WordSource) :
    (s.spawn test source).size = s.size + 1 := by
  simp [spawn, size]

@[simp] theorem size_enter (test : LoadTest) (s : Swarm α) (k : Nat) :
    (s.enter test k).size = s.size := by
  unfold enter
  split
  · exact size_settle _ _ _
  · rfl

@[simp] theorem size_start (s : Swarm α) (k : Nat) (job : α) : (s.start k job).size = s.size := by
  unfold start
  split <;> simp [size]

@[simp] theorem size_finish (test : LoadTest) (s : Swarm α) (k : Nat) (o : Outcome)
    (took : Duration) : (s.finish test k o took).size = s.size := by
  unfold finish
  split
  · exact size_settle _ _ _
  · rfl

@[simp] theorem size_halt (s : Swarm α) (k : Nat) : (s.halt k).size = s.size := by
  unfold halt
  split
  · exact size_settle _ _ _
  · rfl

@[simp] theorem size_wake (test : LoadTest) (s : Swarm α) (k : Nat) (job : α)
    (over? : Option (Outcome × Duration)) : (s.wake test k job over?).size = s.size := by
  unfold wake
  split
  · exact size_halt s k
  · split <;> simp

@[simp] theorem size_signal (s : Swarm α) (cause : StopCause) : (s.signal cause).size = s.size := rfl

@[simp] theorem isStopping_spawn (test : LoadTest) (s : Swarm α) (source : WordSource) :
    (s.spawn test source).isStopping = s.isStopping := rfl

@[simp] theorem isStopping_enter (test : LoadTest) (s : Swarm α) (k : Nat) :
    (s.enter test k).isStopping = s.isStopping := by
  unfold enter
  split <;> rfl

@[simp] theorem isStopping_start (s : Swarm α) (k : Nat) (job : α) :
    (s.start k job).isStopping = s.isStopping := by
  unfold start
  split <;> rfl

@[simp] theorem isStopping_finish (test : LoadTest) (s : Swarm α) (k : Nat) (o : Outcome)
    (took : Duration) : (s.finish test k o took).isStopping = s.isStopping := by
  unfold finish
  split <;> rfl

@[simp] theorem isStopping_halt (s : Swarm α) (k : Nat) : (s.halt k).isStopping = s.isStopping := by
  unfold halt
  split <;> rfl

@[simp] theorem isStopping_wake (test : LoadTest) (s : Swarm α) (k : Nat) (job : α)
    (over? : Option (Outcome × Duration)) :
    (s.wake test k job over?).isStopping = s.isStopping := by
  unfold wake
  split
  · exact isStopping_halt s k
  · split <;> simp

@[simp] theorem isStopping_signal (s : Swarm α) (cause : StopCause) :
    (s.signal cause).isStopping = true := rfl

theorem active_settle_stopped (s : Swarm α) (k number : Nat) (source : WordSource) :
    (s.settle k ⟨number, source, .stopped⟩).tally.counters.users.active =
      s.tally.counters.users.active - 1 := rfl

end Swarm

/-! ### Steps -/

/-- What somebody does without waiting: the clock, the reporter, whoever starts users and tells them
to stop, or a member. A wait that is over carries what came of the sample if nothing is sent. -/
inductive Action (α : Type) where
  | elapse (time : Duration)
  | draw (figures : SystemFigures) (screen : Tally → String)
  | spawn (source : WordSource)
  | signal (cause : StopCause)
  | enter (k : Nat)
  | wake (k : Nat) (job : α) (over? : Option (Outcome × Duration))
  | heed (k : Nat)
  | finish (k : Nat) (o : Outcome) (took : Duration)

def Action.member? {α : Type} : Action α → Option Nat
  | .enter k => some k
  | .wake k .. => some k
  | .heed k => some k
  | .finish k .. => some k
  | _ => none

namespace Swarm

variable {α : Type}

/-- What can happen next, at any time and in any order. -/
inductive Step (test : LoadTest) : Swarm α → Action α → Swarm α → Prop
  | elapse (s : Swarm α) (time : Duration) : Step test s (.elapse time) { s with now := time }
  | draw (s : Swarm α) (figures : SystemFigures) (screen : Tally → String) :
      Step test s (.draw figures screen) (s.draw figures screen)
  | spawn {s : Swarm α} (source : WordSource) (going : s.isStopping = false)
      (room : s.size < test.settings.users) : Step test s (.spawn source) (s.spawn test source)
  | signal {s : Swarm α} (cause : StopCause) (going : s.isStopping = false) :
      Step test s (.signal cause) (s.signal cause)
  | enter {s : Swarm α} {k : Nat} (starting : s.phase? k = some .starting) :
      Step test s (.enter k) (s.enter test k)
  | wake {s : Swarm α} {k : Nat} {task : Task} {time : Duration} (job : α)
      (over? : Option (Outcome × Duration)) (unsent : ∀ ended ∈ over?, ended.1.isUnsent = true)
      (thinking : s.phase? k = some (.thinking task time)) :
      Step test s (.wake k job over?) (s.wake test k job over?)
  | heed {s : Swarm α} {k : Nat} {task : Task} {time : Duration} (stopping : s.isStopping = true)
      (thinking : s.phase? k = some (.thinking task time)) : Step test s (.heed k) (s.halt k)
  | finish {s : Swarm α} {k : Nat} {task : Task} {job : α} (o : Outcome) (took : Duration)
      (executing : s.phase? k = some (.executing task job)) (sent : o.isUnsent = false) :
      Step test s (.finish k o took) (s.finish test k o took)

/-- What actions in a row can lead to. -/
inductive Trace (test : LoadTest) (s : Swarm α) : List (Action α) → Swarm α → Prop
  | start : Trace test s [] s
  | next {actions : List (Action α)} {action : Action α} {t u : Swarm α}
      (before : Trace test s actions t) (step : Step test t action u) :
      Trace test s (actions ++ [action]) u

end Swarm

end QuerySwarm
