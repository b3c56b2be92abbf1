import QuerySwarm.Swarm.Timeline

/-!
# A run

A run of a load test shows what it is about to do, lets a swarm go its way until everybody has left,
and shows that it is over. It has room for as many users as fit into memory that can be addressed,
and a deadline that its clock can reach. What comes of requests is settled by its conditions: they go over
a network that is a value (`Conditions.ofNetwork`), or they are waited for (`Conditions.awaiting`).

Main statements: a run that ends has counted everybody out of its swarm (`LoadTest.isDone_of_run`),
and what is shown first does not depend on how the run goes (`LoadTest.opening_prefix_run`).
-/

namespace QuerySwarm

/-- Why a run breaks off. -/
inductive RunFault where
  | settings (error : SetupError)
  | deadline (duration : Duration)
  | tooManyUsers
  | endless

namespace RunFault

def message : RunFault → String
  | settings error => error.message
  | deadline duration => "Run duration " ++ natText duration.seconds ++ "s overflows the clock"
  | tooManyUsers => "capacity overflow"
  | endless => "the run does not end"

/-- Whether a fault breaks the whole program off. -/
def isCrash : RunFault → Bool
  | tooManyUsers => true
  | endless => true
  | _ => false

end RunFault

/-- A run: what it ended in, and all that it showed, in order. -/
structure Ran (ω : Type) where
  result : Except RunFault (Timeline ω)
  output : List Output

namespace LoadTest

variable {ω : Type}

def opening (test : LoadTest) : Log :=
  [.plain .info .runner "Starting search load test",
    .plain .info .runner ("  Endpoint: " ++ test.client.endpoint.text),
    .plain .info .runner ("  Users: " ++ natText test.settings.users ++ " (spawn rate " ++
      test.settings.spawnRate.text ++ "/sec)"),
    .plain .info .runner ("  Think-time: " ++ test.settings.thinkTime.min.text ++ "s - " ++
      test.settings.thinkTime.max.text ++ "s"),
    .plain .info .runner ("  Tasks: " ++ ", ".intercalate test.tasks.names)]

def crashEvents {α : Type} (members : List (Member α)) : Log :=
  members.zipIdx.filterMap fun entry =>
    match entry.1.phase with
    | .crashed fault =>
      some (.plain .error .runner
        ("User task " ++ natText entry.2 ++ " panicked: " ++ fault.message))
    | _ => none

def closing {α : Type} (s : Swarm α) : Log :=
  crashEvents s.members ++ [.plain .info .runner "All users stopped"]

/-- The bytes that are set aside for each user. -/
def bytesPerUser : Nat := 8

/-- The number of bytes that can be addressed. -/
def addressable : Nat := Nat.pow 2 63

/-- What stays the same through a run, if it can begin. -/
def course (test : LoadTest) (clock : Clock) (conditions : Conditions ω) :
    Except RunFault (Course ω) :=
  match test.settings.spawnInterval clock with
  | .error e => .error (.settings e)
  | .ok interval =>
    if !clock.canAdd test.settings.duration then .error (.deadline test.settings.duration)
    else if addressable ≤ test.settings.users * bytesPerUser then .error .tooManyUsers
    else .ok ⟨test, interval, conditions⟩

/-- Run a load test, in so many steps at most. -/
def run (test : LoadTest) (clock : Clock) (conditions : Conditions ω) (world : ω) (limit : Nat) :
    Ran ω :=
  let opened := test.opening.map Output.event
  match test.course clock conditions with
  | .error fault => ⟨.error fault, opened⟩
  | .ok c =>
    match (Timeline.initial test world).run c limit with
    | none => ⟨.error .endless, opened⟩
    | some ended =>
      ⟨.ok ended, opened ++ ended.swarm.output.reverse ++ (closing ended.swarm).map Output.event⟩

/-- A run that ends has counted everybody out. -/
theorem isDone_of_run {test : LoadTest} {clock : Clock} {conditions : Conditions ω} {world : ω}
    {limit : Nat} {ended : Timeline ω}
    (h : (test.run clock conditions world limit).result = .ok ended) :
    ended.swarm.isDone = true := by
  unfold run at h
  dsimp only at h
  split at h
  · cases h
  · split at h
    · cases h
    · next hrun =>
      cases h
      exact Timeline.isDone_of_run hrun

/-- What is shown first does not depend on how a run goes. -/
theorem opening_prefix_run (test : LoadTest) (clock : Clock) (conditions : Conditions ω) (world : ω)
    (limit : Nat) :
    test.opening.map Output.event <+: (test.run clock conditions world limit).output := by
  unfold run
  dsimp only
  split
  · exact List.prefix_refl _
  · split
    · exact List.prefix_refl _
    · rw [List.append_assoc]
      exact List.prefix_append _ _

end LoadTest

namespace Conditions

variable {ω : Type}

/-- Requests go over a network, and each takes so long after those that were delivered before it. -/
def ofNetwork (test : LoadTest) (net : Network) (files : Files)
    (delay : List HttpRequest → Duration) (words : Nat → WordSource)
    (stopwatch : Duration → Duration) (machine : Duration → SystemFigures) :
    Conditions (List HttpRequest) where
  words := words
  perform delivered _ task :=
    let performed := test.client.perform net test.token files task delivered
    (⟨.zero, delay delivered, performed.1⟩, performed.2)
  stopwatch := stopwatch
  machine := machine

/-- Requests are waited for: one that was sent fails when its time is up, unless it lands before. -/
def awaiting (test : LoadTest) (files : Files) (words : Nat → WordSource)
    (machine : Duration → SystemFigures) : Conditions ω where
  words := words
  perform world _ task :=
    let performed := test.client.perform (.recalled []) test.token files task []
    let took := if performed.2.isEmpty then .zero else test.settings.requestTimeout
    (⟨.zero, took, performed.1⟩, world)
  stopwatch := id
  machine := machine

end Conditions

end QuerySwarm
