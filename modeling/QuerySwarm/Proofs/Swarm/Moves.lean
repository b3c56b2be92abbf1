import QuerySwarm.Proofs.Swarm.Timeline

/-!
# What a move can do

When a timer fires, one of a few things happens: users are told to stop, the screen is drawn, a user
is started, or a user goes from one phase to the next. Here each of them is told once, with all that
it depends on and all that it changes about who is where and what is due; whatever is said about
runs later is said of these.

* `Member.thinking_eq`: how long a user thinks is settled by its words alone.
* `Timeline.Moved` lists what can happen, and `Timeline.moved_of_isDue` says that there is nothing
  else.
-/

namespace QuerySwarm

/-! ### Waits

A user picks a task and draws its wait, again and again, from the words that it was started with. -/

namespace LoadTest

/-- How long a user thinks that picks its next task with these words. -/
def waitFrom (test : LoadTest) (source : WordSource) : Duration :=
  match test.settings.thinkTime.sample (test.tasks.choose source).2 with
  | .ok (wait, _) => wait
  | .error _ => .zero

/-- The words that are left when a user has picked a task and drawn its wait. -/
def restFrom (test : LoadTest) (source : WordSource) : WordSource :=
  match test.settings.thinkTime.sample (test.tasks.choose source).2 with
  | .ok (_, rest) => rest
  | .error _ => source

/-- The words that are left after so many waits. -/
def sourceAfter (test : LoadTest) (source : WordSource) : Nat → WordSource
  | 0 => source
  | n + 1 => test.restFrom (test.sourceAfter source n)

def waitAt (test : LoadTest) (source : WordSource) (n : Nat) : Duration :=
  test.waitFrom (test.sourceAfter source n)

end LoadTest

variable {test : LoadTest}

theorem Member.thinking_eq {α : Type} (sound : test.IsSound) (now : Duration) (number : Nat)
    (source : WordSource) :
    ∃ task, (Member.thinking test now number source : Member α) =
      ⟨number, test.restFrom source, .thinking task (now + test.waitFrom source)⟩ := by
  have hchosen := TaskSet.isSome_choose sound.tasks source
  unfold Member.thinking LoadTest.waitFrom LoadTest.restFrom
  cases hchoice : test.tasks.choose source with
  | mk task? left =>
    cases task? with
    | none =>
      rw [hchoice] at hchosen
      cases hchosen
    | some task =>
      obtain ⟨wait, rest, hsample⟩ := ThinkTime.exists_sample_of_check sound.thinkTime left
      dsimp only
      rw [hsample]
      exact ⟨task, rfl⟩

namespace Swarm

variable {α : Type} {s : Swarm α} {k number : Nat} {source : WordSource}

theorem enter_eq_thinking (sound : test.IsSound)
    (h : s.members[k]? = some ⟨number, source, .starting⟩) :
    ∃ task, s.enter test k =
      { s with
        members := s.members.set k
          ⟨number, test.restFrom source, .thinking task (s.now + test.waitFrom source)⟩ } := by
  obtain ⟨task, hnext⟩ := Member.thinking_eq (α := α) sound s.now number source
  refine ⟨task, ?_⟩
  simp only [enter, h, hnext]
  rfl

theorem finish_eq_thinking (sound : test.IsSound) {task : Task} {job : α}
    (h : s.members[k]? = some ⟨number, source, .executing task job⟩) (o : Outcome)
    (took : Duration) :
    ∃ next, s.finish test k o took =
      { s with
        members := s.members.set k
          ⟨number, test.restFrom source, .thinking next (s.now + test.waitFrom source)⟩
        tally := o.record task.name took.milliseconds s.tally
        output := ((sampleEvents number task.name o took.milliseconds).map Output.event).reverse ++
          s.output } := by
  obtain ⟨next, hnext⟩ := Member.thinking_eq (α := α) sound s.now number source
  refine ⟨next, ?_⟩
  simp only [finish, h, hnext]
  rfl

end Swarm

namespace Timeline

variable {ω : Type} {c : Course ω}

/-! ### What is due -/

/-- The same run when its time has come. -/
def elapse (t : Timeline ω) (time : Duration) : Timeline ω :=
  { t with swarm := { t.swarm with now := time } }

/-- A timer is due at a time. -/
inductive IsDue (c : Course ω) (t : Timeline ω) (time : Duration) : Timer → Prop
  | deadline (going : t.swarm.isStopping = false) (isTime : time = c.test.settings.duration) :
      IsDue c t time .deadline
  | member {k : Nat} {m : Member Flight} (place : t.swarm.members[k]? = some m)
      (isTime : m.due? t.swarm.isStopping t.swarm.now = some time) : IsDue c t time (.member k)
  | spawn (going : t.swarm.isStopping = false) (room : t.swarm.size < c.test.settings.users)
      (isTime : time = c.interval.times t.swarm.size) : IsDue c t time .spawn
  | report (isTime : t.nextReport = some time) : IsDue c t time .report

theorem isDue_of_mem_due {t : Timeline ω} {entry : Duration × Timer} (h : entry ∈ t.due c) :
    IsDue c t entry.1 entry.2 := by
  simp only [due, List.mem_append] at h
  rcases h with ((h | h) | h) | h
  · unfold deadlineDue at h
    split at h
    · cases h
    · next going =>
      obtain rfl := List.mem_singleton.1 h
      rw [Bool.not_eq_true] at going
      exact .deadline going rfl
  · obtain ⟨⟨m, k⟩, hplace, hentry⟩ := List.mem_filterMap.1 h
    rw [List.mk_mem_zipIdx_iff_getElem?] at hplace
    obtain ⟨time, htime, rfl⟩ := Option.map_eq_some_iff.1 hentry
    exact .member hplace htime
  · unfold spawnDue at h
    split at h
    · next hroom =>
      obtain rfl := List.mem_singleton.1 h
      simp only [Bool.and_eq_true, Bool.not_eq_true', decide_eq_true_eq] at hroom
      exact .spawn hroom.1 hroom.2 rfl
    · cases h
  · obtain ⟨time, htime, rfl⟩ := List.mem_map.1 h
    exact .report (Option.mem_toList.1 htime)

theorem IsDue.mem_due {t : Timeline ω} {time : Duration} {timer : Timer}
    (h : IsDue c t time timer) : (time, timer) ∈ t.due c := by
  cases h with
  | deadline going isTime => simp [due, deadlineDue, going, isTime]
  | @member k m place isTime =>
    have hmember : (time, Timer.member k) ∈ t.membersDue := by
      refine List.mem_filterMap.2 ⟨(m, k), ?_, ?_⟩
      · rw [List.mk_mem_zipIdx_iff_getElem?]
        exact place
      · rw [isTime]
        rfl
    simp [due, hmember]
  | spawn going room isTime => simp [due, spawnDue, going, room, isTime]
  | report isTime => simp [due, reportDue, isTime]

/-- A member that is due is due when its time has come. -/
theorem due?_of_due? {m : Member Flight} {isStopping : Bool} {now time : Duration}
    (h : m.due? isStopping now = some time) : m.due? isStopping time = some time := by
  obtain ⟨number, source, phase⟩ := m
  cases phase with
  | starting => rfl
  | thinking task wake =>
    cases isStopping with
    | true => rfl
    | false => exact h
  | executing task flight => exact h
  | stopped => cases h
  | crashed fault => cases h

/-- What is due at a time is due still when that time has come. -/
theorem IsDue.elapse {t : Timeline ω} {time : Duration} {timer : Timer}
    (h : IsDue c t time timer) : IsDue c (t.elapse time) time timer := by
  cases h with
  | deadline going isTime => exact .deadline going isTime
  | member place isTime => exact .member place (due?_of_due? isTime)
  | spawn going room isTime => exact .spawn going room isTime
  | report isTime => exact .report isTime

/-! ### What happens -/

/-- What is to be told of a move: a user was started, or the sample of one was started that takes so
long, or is over. -/
inductive Happening where
  | spawned
  | departed (k : Nat) (took : Duration)
  | landed (k : Nat)
  deriving DecidableEq, Repr

namespace Happening

def isDeparture : Happening → Bool
  | .departed .. => true
  | _ => false

def isLanding : Happening → Bool
  | .landed _ => true
  | _ => false

end Happening

/-- What happens when a timer fires. A sample of which nothing is sent takes no time. -/
def happenings (c : Course ω) (t : Timeline ω) : Timer → List Happening
  | .spawn => [.spawned]
  | .member k =>
    match t.swarm.phase? k with
    | some (.thinking task _) =>
      if t.swarm.isStopping then []
      else
        let flight := (c.conditions.perform t.world k task).1
        if flight.outcome.isUnsent then [.departed k .zero, .landed k]
        else [.departed k flight.took]
    | some (.executing ..) => [.landed k]
    | _ => []
  | _ => []

/-- A member is put in the place of another, and nothing else that is due changes. -/
structure Replaces (t u : Timeline ω) (k : Nat) (m : Member Flight) : Prop where
  members : u.swarm.members = t.swarm.members.set k m
  isStopping : u.swarm.isStopping = t.swarm.isStopping
  nextReport : u.nextReport = t.nextReport

theorem Replaces.size_eq {t u : Timeline ω} {k : Nat} {m : Member Flight} (h : Replaces t u k m) :
    u.swarm.size = t.swarm.size := by
  rw [Swarm.size, h.members, List.length_set, Swarm.size]

/-- What can happen now, with what is told of it. -/
inductive Moved (c : Course ω) (t : Timeline ω) : List Happening → Timeline ω → Prop
  | signal {u : Timeline ω} (going : t.swarm.isStopping = false)
      (isNow : t.swarm.now = c.test.settings.duration)
      (members : u.swarm.members = t.swarm.members) (isStopping : u.swarm.isStopping = true)
      (nextReport : u.nextReport = t.nextReport) : Moved c t [] u
  | report {u : Timeline ω} (isNow : t.nextReport = some t.swarm.now)
      (members : u.swarm.members = t.swarm.members)
      (isStopping : u.swarm.isStopping = t.swarm.isStopping)
      (nextReport : u.nextReport =
        some (t.swarm.now + .ofSeconds c.test.settings.reportInterval)) : Moved c t [] u
  | spawn {u : Timeline ω} (going : t.swarm.isStopping = false)
      (room : t.swarm.size < c.test.settings.users)
      (isNow : t.swarm.now = c.interval.times t.swarm.size) (number : Nat)
      (members : u.swarm.members =
        t.swarm.members ++ [⟨number, c.conditions.words t.swarm.size, .starting⟩])
      (isStopping : u.swarm.isStopping = t.swarm.isStopping)
      (nextReport : u.nextReport = t.nextReport) : Moved c t [.spawned] u
  | enter {u : Timeline ω} {k number : Nat} {source : WordSource} {task : Task}
      (place : t.swarm.members[k]? = some ⟨number, source, .starting⟩)
      (replaces : Replaces t u k
        ⟨number, c.test.restFrom source,
          .thinking task (t.swarm.now + c.test.waitFrom source)⟩) : Moved c t [] u
  | depart {u : Timeline ω} {k number : Nat} {source : WordSource} {task : Task}
      {flight : Flight}
      (place : t.swarm.members[k]? = some ⟨number, source, .thinking task t.swarm.now⟩)
      (going : t.swarm.isStopping = false)
      (landing : flight.landing = t.swarm.now + flight.took)
      (replaces : Replaces t u k ⟨number, source, .executing task flight⟩) :
      Moved c t [.departed k flight.took] u
  | skip {u : Timeline ω} {k number : Nat} {source : WordSource} {task next : Task}
      (place : t.swarm.members[k]? = some ⟨number, source, .thinking task t.swarm.now⟩)
      (going : t.swarm.isStopping = false)
      (replaces : Replaces t u k
        ⟨number, c.test.restFrom source,
          .thinking next (t.swarm.now + c.test.waitFrom source)⟩) :
      Moved c t [.departed k .zero, .landed k] u
  | land {u : Timeline ω} {k number : Nat} {source : WordSource} {task next : Task}
      {flight : Flight}
      (place : t.swarm.members[k]? = some ⟨number, source, .executing task flight⟩)
      (isNow : flight.landing = t.swarm.now)
      (replaces : Replaces t u k
        ⟨number, c.test.restFrom source,
          .thinking next (t.swarm.now + c.test.waitFrom source)⟩) : Moved c t [.landed k] u
  | leave {u : Timeline ω} {k number : Nat} {source : WordSource} {task : Task} {wake : Duration}
      (place : t.swarm.members[k]? = some ⟨number, source, .thinking task wake⟩)
      (stopping : t.swarm.isStopping = true)
      (replaces : Replaces t u k ⟨number, source, .stopped⟩) : Moved c t [] u

/-- The counters follow what is told, and no time passes. -/
structure Counted (t u : Timeline ω) (told : List Happening) : Prop where
  now : u.swarm.now = t.swarm.now
  started : u.swarm.requests.started = t.swarm.requests.started + told.countP Happening.isDeparture
  finished : u.swarm.requests.finished = t.swarm.requests.finished + told.countP Happening.isLanding

theorem Counted.same {t u : Timeline ω} {told : List Happening}
    (hnow : u.swarm.now = t.swarm.now) (h : u.swarm.requests = t.swarm.requests)
    (hdepart : told.countP Happening.isDeparture = 0)
    (hland : told.countP Happening.isLanding = 0) : Counted t u told := by
  constructor
  · exact hnow
  · rw [h, hdepart, Nat.add_zero]
  · rw [h, hland, Nat.add_zero]

/-! ### There is nothing else -/

section Cases

variable {t : Timeline ω} {k number : Nat} {source : WordSource} {task : Task}

theorem phase?_of_place {p : Phase Flight} (place : t.swarm.members[k]? = some ⟨number, source, p⟩) :
    t.swarm.phase? k = some p := by
  rw [Swarm.phase?, place]
  rfl

theorem moved_starting (sound : c.test.IsSound)
    (place : t.swarm.members[k]? = some ⟨number, source, .starting⟩) :
    Moved c t (happenings c t (.member k)) (t.fire c (.member k)) ∧
      Counted t (t.fire c (.member k)) (happenings c t (.member k)) := by
  have hphase := phase?_of_place place
  obtain ⟨task, heq⟩ := Swarm.enter_eq_thinking sound place
  simp only [happenings, fire, advance, hphase, heq]
  exact ⟨.enter place ⟨rfl, rfl, rfl⟩, .same rfl rfl rfl rfl⟩

theorem moved_executing (sound : c.test.IsSound) {flight : Flight}
    (place : t.swarm.members[k]? = some ⟨number, source, .executing task flight⟩)
    (isNow : flight.landing = t.swarm.now) :
    Moved c t (happenings c t (.member k)) (t.fire c (.member k)) ∧
      Counted t (t.fire c (.member k)) (happenings c t (.member k)) := by
  have hphase := phase?_of_place place
  obtain ⟨next, heq⟩ := Swarm.finish_eq_thinking sound place flight.outcome flight.took
  simp only [happenings, fire, advance, hphase, heq]
  refine ⟨.land place isNow ⟨rfl, rfl, rfl⟩, rfl, ?_, ?_⟩
  · simp only [Swarm.requests, Outcome.requests_record]
    split <;> rfl
  · exact (flight.outcome.finished_record task.name flight.took.milliseconds t.swarm.tally).1

theorem moved_thinking_of_stopping {wake : Duration}
    (place : t.swarm.members[k]? = some ⟨number, source, .thinking task wake⟩)
    (stopping : t.swarm.isStopping = true) :
    Moved c t (happenings c t (.member k)) (t.fire c (.member k)) ∧
      Counted t (t.fire c (.member k)) (happenings c t (.member k)) := by
  have hphase := phase?_of_place place
  simp only [happenings, fire, advance, hphase, stopping, if_true, Swarm.halt_eq place]
  exact ⟨.leave place stopping ⟨rfl, stopping.symm, rfl⟩, .same rfl rfl rfl rfl⟩

/-- A wait that is over comes to a request on its way, or to a sample that is over at once. -/
theorem moved_thinking_of_going (sound : c.test.IsSound)
    (place : t.swarm.members[k]? = some ⟨number, source, .thinking task t.swarm.now⟩)
    (going : t.swarm.isStopping = false) :
    Moved c t (happenings c t (.member k)) (t.fire c (.member k)) ∧
      Counted t (t.fire c (.member k)) (happenings c t (.member k)) := by
  have hphase := phase?_of_place place
  let flight : Flight :=
    { (c.conditions.perform t.world k task).1 with
      landing := t.swarm.now + (c.conditions.perform t.world k task).1.took }
  have hlanding : flight.landing = t.swarm.now + flight.took := rfl
  have hstarted := Swarm.start_eq place flight
  have hfire : (t.fire c (.member k)).swarm = t.swarm.wake c.test k flight
      (if flight.outcome.isUnsent then some (flight.outcome, flight.took) else none) := by
    simp only [fire, advance, hphase, going, Bool.false_eq_true, if_false, wake, flight]
  have htold : happenings c t (.member k) =
      if flight.outcome.isUnsent then [.departed k .zero, .landed k]
      else [.departed k flight.took] := by
    simp only [happenings, hphase, going, Bool.false_eq_true, if_false, flight]
  have hreport : (t.fire c (.member k)).nextReport = t.nextReport := by
    simp only [fire, advance, hphase, going, Bool.false_eq_true, if_false, wake]
  rw [Swarm.wake_eq, going, if_neg (by decide)] at hfire
  rw [htold]
  cases hunsent : flight.outcome.isUnsent with
  | false =>
    rw [hunsent, if_neg (by decide), Option.elim_none, hstarted] at hfire
    refine ⟨.depart place going hlanding ⟨?_, ?_, hreport⟩, ?_, ?_, ?_⟩ <;> rw [hfire] <;> rfl
  | true =>
    -- the sample is started and over at once, so the same place is taken twice
    have hexecuting : (t.swarm.start k flight).members[k]? =
        some ⟨number, source, .executing task flight⟩ := by
      rw [hstarted]
      exact List.getElem?_set_self (Swarm.lt_size_of_phase? hphase)
    obtain ⟨next, heq⟩ :=
      Swarm.finish_eq_thinking sound hexecuting flight.outcome flight.took
    rw [hunsent, if_pos rfl, Option.elim_some, heq, hstarted] at hfire
    have hrecord := flight.outcome.finished_record task.name flight.took.milliseconds
      (t.swarm.tally.requestStarted task.name)
    have hmembers : (t.fire c (.member k)).swarm.members = t.swarm.members.set k
        ⟨number, c.test.restFrom source,
          .thinking next (t.swarm.now + c.test.waitFrom source)⟩ := by
      rw [hfire]
      exact List.set_set ..
    refine ⟨.skip place going ⟨hmembers, ?_, hreport⟩, ?_, ?_, ?_⟩
    · rw [hfire]
    · rw [hfire]
    · rw [hfire]
      simp only [Swarm.requests, Outcome.requests_record]
      split <;> rfl
    · rw [hfire]
      exact hrecord.1

/-- Whatever fires, one of these things happens, and it is counted. -/
theorem moved_of_isDue (sound : c.test.IsSound) {timer : Timer}
    (isDue : IsDue c t t.swarm.now timer) :
    Moved c t (happenings c t timer) (t.fire c timer) ∧
      Counted t (t.fire c timer) (happenings c t timer) := by
  cases isDue with
  | deadline going isNow => exact ⟨.signal going isNow rfl rfl rfl, .same rfl rfl rfl rfl⟩
  | spawn going room isNow => exact ⟨.spawn going room isNow _ rfl rfl rfl, .same rfl rfl rfl rfl⟩
  | report isNow => exact ⟨.report isNow rfl rfl rfl, .same rfl rfl rfl rfl⟩
  | @member k m place isNow =>
    obtain ⟨number, source, phase⟩ := m
    cases phase with
    | starting => exact moved_starting sound place
    | thinking task wake =>
      cases stopping : t.swarm.isStopping with
      | true => exact moved_thinking_of_stopping place stopping
      | false =>
        rw [stopping] at isNow
        obtain rfl : wake = t.swarm.now := by simpa [Member.due?] using isNow
        exact moved_thinking_of_going sound place stopping
    | executing task flight => exact moved_executing sound place (by simpa [Member.due?] using isNow)
    | stopped => cases isNow
    | crashed fault => cases isNow

end Cases

end Timeline

end QuerySwarm
