import QuerySwarm.Proofs.Endpoint
import QuerySwarm.Proofs.Sums
import QuerySwarm.Proofs.Swarm.Actions

/-!
# Accounting of a swarm

Whatever happens to a swarm and in whatever order, its counters say what its members are doing: as
many users are active as have not stopped, and as many requests are in flight as members have one on
their way. Nobody stops before the swarm is told to, and nobody sends anything after it.

* **Balance** (`Swarm.Balanced`) ties the counters to the members. Each action of a member is one
  replacement of it (`Swarm.Balanced.replace`), so every step keeps the balance
  (`Swarm.balanced_of_step`).
* **The end** (`Swarm.winds_of_trace`): a member that thinks when the swarm is told to stop does one
  more thing, which is to leave; one that has a request on its way finishes it and then leaves.
* Both are put together in `Swarm.accounting_of_trace`.
-/

namespace QuerySwarm

namespace Swarm

variable {α : Type} {test : LoadTest}

/-! ### Balance -/

/-- The counters say what the members are doing, and the numbers were given out in order. -/
structure Balanced (test : LoadTest) (s : Swarm α) : Prop where
  spawned : s.users.spawned = s.size
  room : s.size ≤ test.settings.users
  active : s.users.active = s.members.countP fun m => !m.phase.isOver
  inFlight : s.requests.inFlight = s.members.countP fun m => m.phase.isExecuting
  started : s.requests.started = s.requests.finished + s.requests.inFlight
  intact : ∀ m ∈ s.members, m.phase.isCrashed = false
  present : s.isStopping = false → ∀ m ∈ s.members, m.phase.isOver = false
  nextNumber : s.nextNumber = s.size
  numbers : s.members.map Member.number = List.range s.size

theorem balanced_empty (test : LoadTest) : Balanced test (empty : Swarm α) where
  spawned := rfl
  room := Nat.zero_le _
  active := rfl
  inFlight := rfl
  started := rfl
  intact := by simp [empty]
  present := by simp [empty]
  nextNumber := rfl
  numbers := rfl

/-- A member may take the place of another of its number if the counters follow it. -/
theorem Balanced.replace {s t : Swarm α} {k : Nat} {old new : Member α} (h : Balanced test s)
    (hk : s.members[k]? = some old) (hmembers : t.members = s.members.set k new)
    (hnumber : new.number = old.number) (hnext : t.nextNumber = s.nextNumber)
    (hstopping : t.isStopping = s.isStopping)
    (hspawned : t.users.spawned = s.users.spawned)
    (hactive : t.users.active + (!old.phase.isOver).toNat =
      s.users.active + (!new.phase.isOver).toNat)
    (hflight : t.requests.inFlight + old.phase.isExecuting.toNat =
      s.requests.inFlight + new.phase.isExecuting.toNat)
    (hstarted : t.requests.started = t.requests.finished + t.requests.inFlight)
    (hintact : new.phase.isCrashed = false)
    (hpresent : s.isStopping = false → new.phase.isOver = false) : Balanced test t := by
  have hsize : t.size = s.size := by simp [size, hmembers]
  have hold : ∀ m ∈ t.members, m ∈ s.members ∨ m = new := by
    rw [hmembers]
    exact fun m hm => List.mem_or_eq_of_mem_set hm
  constructor
  · rw [hspawned, h.spawned, hsize]
  · rw [hsize]
    exact h.room
  · have hcount := countP_set_add (p := fun m => !m.phase.isOver) hk new
    rw [hmembers]
    have := h.active
    omega
  · have hcount := countP_set_add (p := fun m => m.phase.isExecuting) hk new
    rw [hmembers]
    have := h.inFlight
    omega
  · exact hstarted
  · intro m hm
    rcases hold m hm with hm | rfl
    · exact h.intact m hm
    · exact hintact
  · intro hgoing m hm
    rw [hstopping] at hgoing
    rcases hold m hm with hm | rfl
    · exact h.present hgoing m hm
    · exact hpresent hgoing
  · rw [hnext, h.nextNumber, hsize]
  · obtain ⟨hlt, rfl⟩ := List.getElem?_eq_some_iff.1 hk
    have hsame : (s.members.map Member.number).set k s.members[k].number =
        s.members.map Member.number := by
      rw [← List.map_set, List.set_getElem_self]
    rw [hmembers, hsize, ← h.numbers, List.map_set, hnumber, hsame]

/-- A swarm in which only the time, the figures of the machine, what was shown or the signal changed
is balanced as before. -/
theorem Balanced.unmoved {s t : Swarm α} (h : Balanced test s) (hmembers : t.members = s.members)
    (hnext : t.nextNumber = s.nextNumber) (husers : t.users = s.users)
    (hrequests : t.requests = s.requests)
    (hstopping : t.isStopping = false → s.isStopping = false) : Balanced test t := by
  have hsize : t.size = s.size := by rw [size, hmembers, size]
  constructor
  · rw [husers, hsize, h.spawned]
  · rw [hsize]
    exact h.room
  · rw [husers, hmembers, h.active]
  · rw [hrequests, hmembers, h.inFlight]
  · rw [hrequests, h.started]
  · rw [hmembers]
    exact h.intact
  · rw [hmembers]
    exact fun hgoing => h.present (hstopping hgoing)
  · rw [hnext, hsize, h.nextNumber]
  · rw [hmembers, hsize, h.numbers]

section Actions

variable {s : Swarm α} {k : Nat}

theorem Balanced.spawn (h : Balanced test s) (source : WordSource) (going : s.isStopping = false)
    (room : s.size < test.settings.users) : Balanced test (s.spawn test source) where
  spawned := by
    rw [size_spawn, ← h.spawned]
    rfl
  room := by
    rw [size_spawn]
    exact room
  active := by
    have hactive := h.active
    simp only [Swarm.spawn, List.countP_append]
    change s.users.active + 1 = _
    rw [hactive]
    rfl
  inFlight := by
    simp only [Swarm.spawn, List.countP_append]
    exact h.inFlight
  started := h.started
  intact := by
    simp only [Swarm.spawn, List.mem_append, List.mem_singleton]
    rintro m (hm | rfl)
    · exact h.intact m hm
    · rfl
  present := by
    simp only [Swarm.spawn, List.mem_append, List.mem_singleton]
    rintro - m (hm | rfl)
    · exact h.present going m hm
    · rfl
  nextNumber := by
    rw [size_spawn, ← h.nextNumber]
    rfl
  numbers := by
    rw [size_spawn, List.range_succ, ← h.numbers, ← h.nextNumber]
    simp [Swarm.spawn]

theorem Balanced.enter (sound : test.IsSound) (h : Balanced test s)
    (starting : s.phase? k = some .starting) : Balanced test (s.enter test k) := by
  obtain ⟨number, source, hm⟩ := exists_of_phase? starting
  obtain ⟨rest, task, wake, heq⟩ := enter_eq sound hm
  rw [heq]
  exact h.replace hm rfl rfl rfl rfl rfl rfl rfl h.started rfl fun _ => rfl

theorem Balanced.start (h : Balanced test s) {task : Task} {wake : Duration}
    (thinking : s.phase? k = some (.thinking task wake)) (job : α) :
    Balanced test (s.start k job) := by
  obtain ⟨number, source, hm⟩ := exists_of_phase? thinking
  rw [start_eq hm]
  refine h.replace hm rfl rfl rfl rfl rfl rfl rfl ?_ rfl fun _ => rfl
  have hstarted := h.started
  change s.requests.started + 1 = s.requests.finished + (s.requests.inFlight + 1)
  omega

theorem Balanced.finish (sound : test.IsSound) (h : Balanced test s) {task : Task} {job : α}
    (executing : s.phase? k = some (.executing task job)) (o : Outcome) (took : Duration) :
    Balanced test (s.finish test k o took) := by
  obtain ⟨number, source, hm⟩ := exists_of_phase? executing
  obtain ⟨rest, next, wake, heq⟩ := finish_eq sound hm o took
  -- a request of this member is in flight, so one can be taken out
  have hpos : 0 < s.requests.inFlight := by
    rw [h.inFlight]
    exact List.countP_pos_iff.2 ⟨_, List.mem_of_getElem? hm, rfl⟩
  have hstarted := h.started
  have hfinished := o.finished_record task.name took.milliseconds s.tally
  have hkept : (o.record task.name took.milliseconds s.tally).counters.requests.started =
      s.requests.started := by
    rw [Outcome.requests_record]
    split <;> rfl
  simp only [requests] at hpos hstarted hkept
  rw [heq]
  refine h.replace hm rfl rfl rfl rfl ?_ ?_ ?_ ?_ rfl fun _ => rfl
  · simp [users]
  · simp [users, Phase.isOver]
  · simp only [requests, Phase.isExecuting, Bool.toNat_true, Bool.toNat_false]
    omega
  · simp only [requests]
    omega

theorem Balanced.halt (h : Balanced test s) (stopping : s.isStopping = true) {task : Task}
    {wake : Duration} (thinking : s.phase? k = some (.thinking task wake)) :
    Balanced test (s.halt k) := by
  obtain ⟨number, source, hm⟩ := exists_of_phase? thinking
  -- this member is active, so one can be counted out
  have hpos : 0 < s.users.active := by
    rw [h.active]
    exact List.countP_pos_iff.2 ⟨_, List.mem_of_getElem? hm, rfl⟩
  rw [halt_eq hm]
  refine h.replace hm rfl rfl rfl rfl rfl ?_ rfl h.started rfl ?_
  · change s.users.active - 1 + 1 = s.users.active + 0
    omega
  · intro going
    rw [stopping] at going
    cases going

end Actions

theorem balanced_of_step (sound : test.IsSound) {s t : Swarm α} {a : Action α}
    (step : Step test s a t) (h : Balanced test s) : Balanced test t := by
  cases step with
  | elapse => exact h.unmoved rfl rfl rfl rfl id
  | draw => exact h.unmoved rfl rfl rfl rfl id
  | spawn source going room => exact h.spawn source going room
  | signal cause going => exact h.unmoved rfl rfl rfl rfl fun _ => going
  | enter starting => exact h.enter sound starting
  | @wake k task time job over? unsent thinking =>
    rw [wake_eq]
    cases hstop : s.isStopping with
    | true => exact h.halt hstop thinking
    | false =>
      have hstarted := h.start thinking job
      cases over? with
      | none => exact hstarted
      | some ended =>
        obtain ⟨number, source, hm⟩ := exists_of_phase? thinking
        have hexecuting : (s.start k job).phase? k = some (.executing task job) :=
          phase?_of_set_self (lt_size_of_phase? thinking) (by rw [start_eq hm])
        exact hstarted.finish sound hexecuting ended.1 ended.2
  | heed stopping thinking => exact h.halt stopping thinking
  | finish o took executing sent => exact h.finish sound executing o took

theorem balanced_of_trace (sound : test.IsSound) {s t : Swarm α} {actions : List (Action α)}
    (trace : Trace test s actions t) (h : Balanced test s) : Balanced test t := by
  induction trace with
  | start => exact h
  | next _ step ih => exact balanced_of_step sound step ih

/-! ### The end

From the moment that the swarm is told to stop, what a member does is a short list. -/

def ownActions (k : Nat) (actions : List (Action α)) : List (Action α) :=
  actions.filter fun a => a.member? = some k

theorem ownActions_append_of_own {k : Nat} {a : Action α} (own : a.member? = some k)
    (actions : List (Action α)) :
    ownActions k (actions ++ [a]) = ownActions k actions ++ [a] := by
  simp [ownActions, own]

theorem ownActions_append_of_other {k : Nat} {a : Action α} (other : a.member? ≠ some k)
    (actions : List (Action α)) : ownActions k (actions ++ [a]) = ownActions k actions := by
  simp [ownActions, other]

/-- What a member that was in a phase when the swarm was told to stop has done since then, and the
phase that this has led it to. -/
inductive Winds (k : Nat) : Phase α → List (Action α) → Phase α → Prop
  | unmoved (p : Phase α) : Winds k p [] p
  | entered {task : Task} {wake : Duration} : Winds k .starting [.enter k] (.thinking task wake)
  | left {task : Task} {wake : Duration} {a : Action α} : Winds k (.thinking task wake) [a] .stopped
  | enteredAndLeft {a : Action α} : Winds k .starting [.enter k, a] .stopped
  | finished {task next : Task} {job : α} {o : Outcome} {took wake : Duration} :
      Winds k (.executing task job) [.finish k o took] (.thinking next wake)
  | finishedAndLeft {task : Task} {job : α} {o : Outcome} {took : Duration} {a : Action α} :
      Winds k (.executing task job) [.finish k o took, a] .stopped

/-- One more turn after the swarm was told to stop. -/
theorem Winds.next {k : Nat} {p q r : Phase α} {actions : List (Action α)} {a : Action α}
    (h : Winds k p actions q) (turn : Turn k true q a r) : Winds k p (actions ++ [a]) r := by
  cases turn with
  | enter =>
    cases h
    exact .entered
  | leave =>
    cases h with
    | unmoved => exact .left
    | entered => exact .enteredAndLeft
    | finished => exact .finishedAndLeft
  | heed =>
    cases h with
    | unmoved => exact .left
    | entered => exact .enteredAndLeft
    | finished => exact .finishedAndLeft
  | finish =>
    cases h
    exact .finished

/-- No request is started by a step after the swarm was told to stop. -/
theorem started_of_step (sound : test.IsSound) {s t : Swarm α} {a : Action α}
    (step : Step test s a t) (stopping : s.isStopping = true) :
    t.requests.started = s.requests.started := by
  cases step with
  | elapse => rfl
  | draw => rfl
  | spawn source going room =>
    rw [stopping] at going
    cases going
  | signal => rfl
  | enter starting =>
    obtain ⟨number, source, hm⟩ := exists_of_phase? starting
    obtain ⟨rest, task, wake, heq⟩ := enter_eq sound hm
    rw [heq]
    rfl
  | wake job over? unsent thinking =>
    obtain ⟨number, source, hm⟩ := exists_of_phase? thinking
    rw [wake_eq, if_pos stopping, halt_eq hm]
    rfl
  | heed _ thinking =>
    obtain ⟨number, source, hm⟩ := exists_of_phase? thinking
    rw [halt_eq hm]
    rfl
  | finish o took executing sent =>
    obtain ⟨number, source, hm⟩ := exists_of_phase? executing
    obtain ⟨rest, next, wake, heq⟩ := finish_eq sound hm o took
    rw [heq]
    simp only [requests, Outcome.requests_record]
    split <;> rfl

/-- After the swarm was told to stop no request is started, and a member winds up. -/
theorem winds_of_trace (sound : test.IsSound) {s t : Swarm α} {actions : List (Action α)}
    (stopping : s.isStopping = true) (trace : Trace test s actions t) :
    t.isStopping = true ∧ t.requests.started = s.requests.started ∧
      ∀ k p, s.phase? k = some p →
        ∃ q, t.phase? k = some q ∧ Winds k p (ownActions k actions) q := by
  induction trace with
  | start => exact ⟨stopping, rfl, fun k p hp => ⟨p, hp, .unmoved p⟩⟩
  | @next actions a t u before step ih =>
    obtain ⟨hstopping, hstarted, hphases⟩ := ih
    refine ⟨isStopping_of_step step hstopping, ?_, ?_⟩
    · rw [started_of_step sound step hstopping, hstarted]
    · intro k p hp
      obtain ⟨q, hq, hwinds⟩ := hphases k p hp
      by_cases own : a.member? = some k
      · obtain ⟨q', r, hq', hr, turn⟩ := turn_of_step sound step own
        rw [hq] at hq'
        cases hq'
        rw [hstopping] at turn
        rw [ownActions_append_of_own own]
        exact ⟨r, hr, hwinds.next turn⟩
      · rw [ownActions_append_of_other own]
        refine ⟨q, ?_, hwinds⟩
        rw [phase?_of_step sound step (lt_size_of_phase? hq) own, hq]

/-- Whoever has not left yet after the swarm was told to stop can move on. -/
theorem exists_step_of_stopping (test : LoadTest) {s : Swarm α} (stopping : s.isStopping = true)
    {k : Nat} {p : Phase α} (hp : s.phase? k = some p) (hover : p.isOver = false) :
    ∃ a t, a.member? = some k ∧ Step test s a t := by
  cases p with
  | starting => exact ⟨.enter k, _, rfl, .enter hp⟩
  | thinking task wake => exact ⟨.heed k, _, rfl, .heed stopping hp⟩
  | executing task job =>
    exact ⟨.finish k (.failed (.status 0)) .zero, _, rfl, .finish _ _ hp rfl⟩
  | stopped => cases hover
  | crashed fault => cases hover

/-! ### The whole account -/

/-- When everybody has left, everybody was counted out, and every request is accounted for. -/
theorem Balanced.closed {s : Swarm α} (h : Balanced test s) (done : s.isDone = true) :
    s.users.active = 0 ∧ s.requests.inFlight = 0 ∧
      s.requests.started = s.requests.succeeded + s.requests.failed := by
  simp only [isDone, Bool.and_eq_true, List.all_eq_true] at done
  have hactive : s.users.active = 0 := by
    rw [h.active, List.countP_eq_zero]
    intro m hm
    simp [done.2 m hm]
  have hflight : s.requests.inFlight = 0 := by
    rw [h.inFlight, List.countP_eq_zero]
    intro m hm hexecuting
    have hover := done.2 m hm
    revert hexecuting hover
    cases m.phase <;> simp [Phase.isExecuting, Phase.isOver]
  have hstarted := h.started
  exact ⟨hactive, hflight, by rwa [hflight] at hstarted⟩

/-- Whoever is over when everybody has left has stopped. -/
theorem Balanced.eq_stopped {s : Swarm α} (h : Balanced test s) (done : s.isDone = true) {k : Nat}
    {p : Phase α} (hp : s.phase? k = some p) : p = .stopped := by
  simp only [isDone, Bool.and_eq_true, List.all_eq_true] at done
  obtain ⟨number, source, hm⟩ := exists_of_phase? hp
  have hover := done.2 _ (List.mem_of_getElem? hm)
  have hintact := h.intact _ (List.mem_of_getElem? hm)
  cases p with
  | stopped => rfl
  | crashed fault => cases hintact
  | starting => cases hover
  | thinking task wake => cases hover
  | executing task job => cases hover

/-- The names that were given out are those of the first numbers, each of them once. -/
theorem Balanced.names_eq {s : Swarm α} (h : Balanced test s) :
    s.names = (List.range s.users.spawned).map User.nameOf ∧ s.names.Nodup := by
  have hnames : s.names = (List.range s.users.spawned).map User.nameOf := by
    rw [h.spawned, ← h.numbers, List.map_map]
    rfl
  refine ⟨hnames, ?_⟩
  rw [hnames]
  exact List.pairwise_map.2 (List.nodup_range.imp fun hne heq => hne (User.name_injective heq))

/-- Before a swarm is told to stop, as many users are active as were started, and they are not too
many. After it no request is started: whoever thinks leaves, whoever has a request on its way
finishes it and leaves, and nobody is kept from it. In the end nobody is active, no request is in
flight, and everybody had a name of its own. -/
theorem accounting_of_trace {clock : Clock} {settings : Settings} {tasks : TaskSet}
    {token : BearerToken} (made : LoadTest.make clock settings tasks token = .ok test)
    {actions : List (Action α)} {s : Swarm α} (trace : Trace test .empty actions s) :
    (s.isStopping = false →
      s.users.active = s.users.spawned ∧ s.users.spawned ≤ settings.users) ∧
    (s.isStopping = true →
      ∀ (later : List (Action α)) (t : Swarm α), Trace test s later t →
        t.requests.started = s.requests.started ∧
        ∀ k p, s.phase? k = some p →
          ∃ q, t.phase? k = some q ∧ Winds k p (ownActions k later) q ∧
            (t.isDone = true → q = .stopped) ∧
            (q.isOver = false → ∃ a u, a.member? = some k ∧ Step test t a u)) ∧
    (s.isDone = true →
      s.users.active = 0 ∧ s.requests.inFlight = 0 ∧
      s.requests.started = s.requests.succeeded + s.requests.failed ∧
      s.names = (List.range s.users.spawned).map User.nameOf ∧ s.names.Nodup) := by
  obtain ⟨sound, rfl⟩ := LoadTest.isSound_of_make made
  have balanced := balanced_of_trace sound trace (balanced_empty test)
  refine ⟨fun going => ?_, fun stopping later t after => ?_, fun done => ?_⟩
  · have hactive : s.users.active = s.size := by
      rw [balanced.active, size, List.countP_eq_length]
      intro m hm
      simp [balanced.present going m hm]
    exact ⟨by rw [hactive, balanced.spawned], by rw [balanced.spawned]; exact balanced.room⟩
  · obtain ⟨hstopping, hstarted, hphases⟩ := winds_of_trace sound stopping after
    refine ⟨hstarted, fun k p hp => ?_⟩
    obtain ⟨q, hq, hwinds⟩ := hphases k p hp
    refine ⟨q, hq, hwinds, fun done => ?_, exists_step_of_stopping test hstopping hq⟩
    exact (balanced_of_trace sound after balanced).eq_stopped done hq
  · obtain ⟨hactive, hflight, hstarted⟩ := balanced.closed done
    exact ⟨hactive, hflight, hstarted, balanced.names_eq⟩

theorem exists_make_localSettings :
    ∃ test, LoadTest.make ⟨.zero⟩ localSettings ⟨[.template "query.json"]⟩ ⟨"token", by decide⟩ =
      .ok test := by
  have hok : (LoadTest.make ⟨.zero⟩ localSettings ⟨[.template "query.json"]⟩
      ⟨"token", by decide⟩).isOk = true := by decide +kernel
  exact exists_eq_ok_of_isOk hok

/-- A user that is caught with a request on its way: it starts nothing more, finishes the request,
leaves, and is counted out. -/
theorem accounting_of_caught_user :
    ∃ (test : LoadTest) (s t : Swarm Unit),
      LoadTest.make ⟨.zero⟩ localSettings ⟨[.template "query.json"]⟩ ⟨"token", by decide⟩ =
        .ok test ∧
      Trace test .empty [.spawn (.ofWords [7]), .enter 0, .wake 0 () none, .signal .elapsed] s ∧
      s.isStopping = true ∧
      (∃ task, s.phase? 0 = some (.executing task ())) ∧
      Trace test s [.finish 0 (.failed (.status 500)) .zero, .heed 0] t ∧
      t.isDone = true ∧ t.requests.started = s.requests.started ∧
      t.users.active = 0 ∧ t.requests.started = t.requests.succeeded + t.requests.failed ∧
      t.names = (List.range t.users.spawned).map User.nameOf := by
  obtain ⟨test, made⟩ := exists_make_localSettings
  obtain ⟨sound, hsettings⟩ := LoadTest.isSound_of_make made
  -- one user is started, thinks, and sends a request
  let s₁ := (Swarm.empty : Swarm Unit).spawn test (.ofWords [7])
  let s₂ := s₁.enter test 0
  let s₃ := s₂.wake test 0 () none
  have spawned : Step test .empty (.spawn (.ofWords [7])) s₁ :=
    .spawn _ rfl (by rw [hsettings]; decide)
  have entered : Step test s₁ (.enter 0) s₂ := .enter rfl
  obtain ⟨_, _, _, hthinking, turn⟩ := turn_of_step sound entered rfl
  cases turn
  have woken : Step test s₂ (.wake 0 () none) s₃ := .wake () none (by simp) hthinking
  obtain ⟨_, _, _, hexecuting, turn⟩ := turn_of_step sound woken rfl
  have hgoing : s₂.isStopping = false := by simp [s₂, s₁, Swarm.empty]
  rw [hgoing] at turn
  cases turn
  -- then the swarm is told to stop
  let s₄ := s₃.signal .elapsed
  have signalled : Step test s₃ (.signal .elapsed) s₄ := .signal _ (by simp [s₃, hgoing])
  have caught : Trace test .empty
      [.spawn (.ofWords [7]), .enter 0, .wake 0 () none, .signal .elapsed] s₄ :=
    .next (.next (.next (.next .start spawned) entered) woken) signalled
  -- the request is finished, and the user leaves
  let t₁ := s₄.finish test 0 (.failed (.status 500)) .zero
  let t₂ := t₁.halt 0
  have finished : Step test s₄ (.finish 0 (.failed (.status 500)) .zero) t₁ :=
    .finish _ _ hexecuting rfl
  obtain ⟨_, _, _, hnext, turn⟩ := turn_of_step sound finished rfl
  cases turn
  have hstopping : t₁.isStopping = true := by simp [t₁, s₄]
  have heeded : Step test t₁ (.heed 0) t₂ := .heed hstopping hnext
  obtain ⟨_, _, _, hstopped, turn⟩ := turn_of_step sound heeded rfl
  rw [hstopping] at turn
  cases turn
  have done : t₂.isDone = true := by
    have hsize : t₂.members.length = 1 := by
      change t₂.size = 1
      simp only [t₂, t₁, s₄, s₃, s₂, s₁, size_halt, size_finish, size_signal, size_wake, size_enter,
        size_spawn]
      rfl
    obtain ⟨m, hm⟩ := List.length_eq_one_iff.1 hsize
    simp [phase?, hm] at hstopped
    simp [isDone, t₂, hstopping, hm, hstopped, Phase.isOver]
  have account := accounting_of_trace made caught
  have ending := accounting_of_trace made (.next (.next caught finished) heeded)
  have later := account.2.1 rfl _ t₂ (.next (.next .start finished) heeded)
  obtain ⟨hactive, -, hstarted, hnames, -⟩ := ending.2.2 done
  exact ⟨test, s₄, t₂, made, caught, rfl, ⟨_, hexecuting⟩, .next (.next .start finished) heeded,
    done, later.1, hactive, hstarted, hnames⟩

end Swarm

end QuerySwarm
