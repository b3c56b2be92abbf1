import QuerySwarm.Proofs.Setup.Rules
import QuerySwarm.Proofs.ThinkTime.Draw
import QuerySwarm.Swarm.Basic

/-!
# What an action does to a swarm

A load test that was made has tasks to pick from and a think time that can be drawn, so nobody in
its swarm stops for want of a task or crashes. Each action of a member then comes down to one
equation: a member is put in the place of another, and the tally is written to.

Main statements: a user that goes on always thinks (`Member.exists_thinking_eq`), the equations of
the actions (`Swarm.enter_eq`, `Swarm.start_eq`, `Swarm.finish_eq`, `Swarm.halt_eq`), and a step
leaves everybody alone but the member that acts (`Swarm.phase?_of_step`).
-/

namespace QuerySwarm

/-- There are tasks to pick from, and a wait can be drawn whatever the words are. -/
structure LoadTest.IsSound (test : LoadTest) : Prop where
  tasks : test.tasks.tasks ≠ []
  thinkTime : test.settings.thinkTime.check = .ok ()

/-- A load test is made with the settings that it is given, and only if it is sound. -/
theorem LoadTest.isSound_of_make {clock : Clock} {settings : Settings} {tasks : TaskSet}
    {token : BearerToken} {test : LoadTest} (made : make clock settings tasks token = .ok test) :
    test.IsSound ∧ test.settings = settings := by
  obtain ⟨htasks, inOrder, client, -, rfl⟩ := make_eq_ok_iff.1 made
  have hthink := (ThinkTime.check_eq_ok_iff_isInOrder _).2 inOrder.thinkTime
  exact ⟨⟨List.isEmpty_eq_false_iff.1 htasks, hthink⟩, rfl⟩

variable {α : Type} {test : LoadTest}

/-- A user that goes on picks a task and thinks about it. -/
theorem Member.exists_thinking_eq (sound : test.IsSound) (now : Duration) (number : Nat)
    (source : WordSource) :
    ∃ rest task wake,
      (Member.thinking test now number source : Member α) = ⟨number, rest, .thinking task wake⟩ := by
  have hchosen := TaskSet.isSome_choose sound.tasks source
  unfold Member.thinking
  split
  · next hnone =>
    rw [hnone] at hchosen
    cases hchosen
  · next task left _ =>
    obtain ⟨wait, rest, hsample⟩ := ThinkTime.exists_sample_of_check sound.thinkTime left
    rw [hsample]
    exact ⟨rest, task, _, rfl⟩

namespace Phase

def isExecuting : Phase α → Bool
  | .executing .. => true
  | _ => false

def isCrashed : Phase α → Bool
  | .crashed _ => true
  | _ => false

end Phase

namespace Swarm

def users (s : Swarm α) : UserCounts := s.tally.counters.users

def requests (s : Swarm α) : RequestCounts := s.tally.counters.requests

def names (s : Swarm α) : List String := s.members.map fun m => User.nameOf m.number

theorem exists_of_phase? {s : Swarm α} {k : Nat} {p : Phase α} (h : s.phase? k = some p) :
    ∃ number source, s.members[k]? = some ⟨number, source, p⟩ := by
  obtain ⟨⟨number, source, _⟩, hm, rfl⟩ := Option.map_eq_some_iff.1 h
  exact ⟨number, source, hm⟩

theorem lt_size_of_phase? {s : Swarm α} {k : Nat} {p : Phase α} (h : s.phase? k = some p) :
    k < s.size := by
  obtain ⟨number, source, hm⟩ := exists_of_phase? h
  exact (List.getElem?_eq_some_iff.1 hm).1

/-! ### Equations -/

section Equations

variable {s : Swarm α} {k number : Nat} {source : WordSource}

theorem enter_eq (sound : test.IsSound) (h : s.members[k]? = some ⟨number, source, .starting⟩) :
    ∃ rest task wake,
      s.enter test k =
        { s with members := s.members.set k ⟨number, rest, .thinking task wake⟩ } := by
  obtain ⟨rest, task, wake, hnext⟩ :=
    Member.exists_thinking_eq (α := α) sound s.now number source
  refine ⟨rest, task, wake, ?_⟩
  simp only [enter, h, hnext]
  rfl

theorem start_eq {task : Task} {wake : Duration}
    (h : s.members[k]? = some ⟨number, source, .thinking task wake⟩) (job : α) :
    s.start k job =
      { s with
        members := s.members.set k ⟨number, source, .executing task job⟩
        tally := s.tally.requestStarted task.name } := by
  simp [start, h]

theorem finish_eq (sound : test.IsSound) {task : Task} {job : α}
    (h : s.members[k]? = some ⟨number, source, .executing task job⟩) (o : Outcome)
    (took : Duration) :
    ∃ rest next wake,
      s.finish test k o took =
        { s with
          members := s.members.set k ⟨number, rest, .thinking next wake⟩
          tally := o.record task.name took.milliseconds s.tally
          output := ((sampleEvents number task.name o took.milliseconds).map Output.event).reverse ++
            s.output } := by
  obtain ⟨rest, next, wake, hnext⟩ :=
    Member.exists_thinking_eq (α := α) sound s.now number source
  refine ⟨rest, next, wake, ?_⟩
  simp only [finish, h, hnext]
  rfl

theorem halt_eq {task : Task} {wake : Duration}
    (h : s.members[k]? = some ⟨number, source, .thinking task wake⟩) :
    s.halt k =
      { s with
        members := s.members.set k ⟨number, source, .stopped⟩
        tally := s.tally.userStopped } := by
  simp only [halt, h]
  rfl

/-- A wait that is over comes to leaving, to a request on its way, or to a sample that is over. -/
theorem wake_eq (s : Swarm α) (test : LoadTest) (k : Nat) (job : α)
    (over? : Option (Outcome × Duration)) :
    s.wake test k job over? =
      if s.isStopping then s.halt k
      else over?.elim (s.start k job) fun ended => (s.start k job).finish test k ended.1 ended.2 := by
  unfold wake
  cases over? <;> rfl

end Equations

/-! ### Turns -/

/-- What the action of a member makes of it. The swarm was told to stop or not. -/
inductive Turn (k : Nat) : Bool → Phase α → Action α → Phase α → Prop
  | enter {stopping : Bool} {task : Task} {wake : Duration} :
      Turn k stopping .starting (.enter k) (.thinking task wake)
  | send {task : Task} {wake : Duration} {job : α} :
      Turn k false (.thinking task wake) (.wake k job none) (.executing task job)
  | skip {task next : Task} {wake then_ : Duration} {job : α} {ended : Outcome × Duration} :
      Turn k false (.thinking task wake) (.wake k job (some ended)) (.thinking next then_)
  | leave {task : Task} {wake : Duration} {job : α} {over? : Option (Outcome × Duration)} :
      Turn k true (.thinking task wake) (.wake k job over?) .stopped
  | heed {task : Task} {wake : Duration} :
      Turn k true (.thinking task wake) (.heed k) .stopped
  | finish {stopping : Bool} {task next : Task} {job : α} {wake : Duration} {o : Outcome}
      {took : Duration} :
      Turn k stopping (.executing task job) (.finish k o took) (.thinking next wake)

section Frame

variable {s t : Swarm α} {k other : Nat}

theorem phase?_of_set_self {number : Nat} {source : WordSource} {p : Phase α} (hk : k < s.size)
    (hmembers : t.members = s.members.set k ⟨number, source, p⟩) : t.phase? k = some p := by
  rw [phase?, hmembers, List.getElem?_set_self hk]
  rfl

theorem phase?_of_set_ne {m : Member α} (hne : k ≠ other)
    (hmembers : t.members = s.members.set k m) : t.phase? other = s.phase? other := by
  rw [phase?, hmembers, List.getElem?_set_ne hne]
  rfl

end Frame

/-- A step of a member turns it, and puts nobody else in another place. -/
theorem exists_set_of_step (sound : test.IsSound) {s t : Swarm α} {a : Action α} {k : Nat}
    (step : Step test s a t) (own : a.member? = some k) :
    ∃ p number rest q,
      s.phase? k = some p ∧ t.members = s.members.set k ⟨number, rest, q⟩ ∧
        Turn k s.isStopping p a q := by
  cases step with
  | elapse => cases own
  | draw => cases own
  | spawn => cases own
  | signal => cases own
  | enter starting =>
    cases own
    obtain ⟨number, source, hm⟩ := exists_of_phase? starting
    obtain ⟨rest, task, wake, heq⟩ := enter_eq sound hm
    rw [heq]
    exact ⟨_, number, rest, _, starting, rfl, .enter⟩
  | @wake _ task _ job over? unsent thinking =>
    cases own
    obtain ⟨number, source, hm⟩ := exists_of_phase? thinking
    rw [wake_eq]
    cases hstop : s.isStopping with
    | true =>
      rw [if_pos rfl, halt_eq hm]
      exact ⟨_, number, source, _, thinking, rfl, .leave⟩
    | false =>
      rw [if_neg (by decide)]
      cases over? with
      | none =>
        rw [Option.elim_none, start_eq hm]
        exact ⟨_, number, source, _, thinking, rfl, .send⟩
      | some ended =>
        -- the sample is started and over at once, so the same place is taken twice
        have hstarted : (s.start k job).members[k]? = some ⟨number, source, .executing task job⟩ := by
          rw [start_eq hm]
          exact List.getElem?_set_self (lt_size_of_phase? thinking)
        obtain ⟨rest, next, later, heq⟩ := finish_eq sound hstarted ended.1 ended.2
        rw [Option.elim_some, heq, start_eq hm]
        exact ⟨_, number, rest, _, thinking, List.set_set .., .skip⟩
  | heed stopping thinking =>
    cases own
    obtain ⟨number, source, hm⟩ := exists_of_phase? thinking
    rw [halt_eq hm, stopping]
    exact ⟨_, number, source, _, thinking, rfl, .heed⟩
  | finish o took executing sent =>
    cases own
    obtain ⟨number, source, hm⟩ := exists_of_phase? executing
    obtain ⟨rest, next, wake, heq⟩ := finish_eq sound hm o took
    rw [heq]
    exact ⟨_, number, rest, _, executing, rfl, .finish⟩

theorem turn_of_step (sound : test.IsSound) {s t : Swarm α} {a : Action α} {k : Nat}
    (step : Step test s a t) (own : a.member? = some k) :
    ∃ p q, s.phase? k = some p ∧ t.phase? k = some q ∧ Turn k s.isStopping p a q := by
  obtain ⟨p, number, rest, q, hp, hmembers, turn⟩ := exists_set_of_step sound step own
  exact ⟨p, q, hp, phase?_of_set_self (lt_size_of_phase? hp) hmembers, turn⟩

/-- A step leaves everybody alone but the member that acts. -/
theorem phase?_of_step (sound : test.IsSound) {s t : Swarm α} {a : Action α} {k : Nat}
    (step : Step test s a t) (hk : k < s.size) (other : a.member? ≠ some k) :
    t.phase? k = s.phase? k := by
  cases hown : a.member? with
  | some j =>
    obtain ⟨p, number, rest, q, -, hmembers, -⟩ := exists_set_of_step sound step hown
    refine phase?_of_set_ne ?_ hmembers
    rintro rfl
    exact other hown
  | none =>
    cases step with
    | elapse => rfl
    | draw => rfl
    | signal => rfl
    | spawn source going room =>
      -- whoever is started comes after everybody else
      simp only [phase?, spawn]
      rw [List.getElem?_append_left hk]
    | enter => cases hown
    | wake => cases hown
    | heed => cases hown
    | finish => cases hown

theorem isStopping_of_step {s t : Swarm α} {a : Action α} (step : Step test s a t)
    (stopping : s.isStopping = true) : t.isStopping = true := by
  cases step <;> simp [stopping, draw]

end Swarm

end QuerySwarm
