import QuerySwarm.Proofs.Swarm.Actions
import QuerySwarm.Run

/-!
# Runs in different worlds

A swarm does not see the world that the outcomes of its requests depend on, nor the token that they
are sent with: it sees the outcomes, and how long they take. So where two worlds give the same
outcomes, the same happens in both.

* `Swarm.Picks`: users think only about tasks of their set, so only their outcomes matter.
* `Course.Mirrors`: one world gives what the other gives, step for step.
* `LoadTest.run_mapWorld`: then the runs show the same and end alike.
-/

namespace QuerySwarm

/-! ### Tasks that are picked -/

/-- Everybody thinks about a task of the set. -/
def Swarm.Picks {α : Type} (set : TaskSet) (s : Swarm α) : Prop :=
  ∀ m ∈ s.members, ∀ task wake, m.phase = .thinking task wake → task ∈ set.tasks

namespace Swarm

variable {α : Type} {test : LoadTest} {s : Swarm α} {k : Nat}

theorem mem_of_thinking {now : Duration} {number : Nat} {source : WordSource} {task : Task}
    {wake : Duration}
    (h : (Member.thinking test now number source : Member α).phase = .thinking task wake) :
    task ∈ test.tasks.tasks := by
  unfold Member.thinking at h
  split at h
  · cases h
  · next picked left hchoice =>
    split at h
    · cases h
    · cases h
      exact TaskSet.mem_of_choose (congrArg Prod.fst hchoice)

/-- A member is put in the place of another. -/
theorem Picks.set {t : Swarm α} {set : TaskSet} (h : s.Picks set) (m : Member α)
    (hm : ∀ task wake, m.phase = .thinking task wake → task ∈ set.tasks)
    (members : t.members = s.members.set k m) : t.Picks set := by
  intro m' hm'
  rw [members] at hm'
  rcases List.mem_or_eq_of_mem_set hm' with hold | rfl
  · exact h m' hold
  · exact hm

theorem Picks.enter (h : s.Picks test.tasks) (k : Nat) : (s.enter test k).Picks test.tasks := by
  unfold Swarm.enter
  split
  · exact h.set _ (fun _ _ => mem_of_thinking) rfl
  · exact h

theorem Picks.start {set : TaskSet} (h : s.Picks set) (k : Nat) (job : α) :
    (s.start k job).Picks set := by
  unfold Swarm.start
  split
  · exact h.set _ (by rintro _ _ ⟨⟩) rfl
  · exact h

theorem Picks.finish (h : s.Picks test.tasks) (k : Nat) (o : Outcome) (took : Duration) :
    (s.finish test k o took).Picks test.tasks := by
  unfold Swarm.finish
  split
  · exact h.set _ (fun _ _ => mem_of_thinking) rfl
  · exact h

theorem Picks.halt {set : TaskSet} (h : s.Picks set) (k : Nat) : (s.halt k).Picks set := by
  unfold Swarm.halt
  split
  · exact h.set _ (by rintro _ _ ⟨⟩) rfl
  · exact h

theorem Picks.wake (h : s.Picks test.tasks) (k : Nat) (job : α)
    (over? : Option (Outcome × Duration)) : (s.wake test k job over?).Picks test.tasks := by
  unfold Swarm.wake
  split
  · exact h.halt k
  · split
    · exact h.start k job
    · exact (h.start k job).finish k _ _

theorem Picks.spawn (h : s.Picks test.tasks) (source : WordSource) :
    (s.spawn test source).Picks test.tasks := by
  intro m hm
  rcases List.mem_append.1 hm with hold | hnew
  · exact h m hold
  · obtain rfl := List.mem_singleton.1 hnew
    rintro _ _ ⟨⟩

end Swarm

namespace Timeline

variable {ω ω' : Type} {c : Course ω}

theorem picks_step {t : Timeline ω} (h : t.swarm.Picks c.test.tasks) (entry : Duration × Timer) :
    (t.step c entry).swarm.Picks c.test.tasks := by
  have helapsed : Swarm.Picks c.test.tasks { t.swarm with now := entry.1 } := h
  obtain ⟨time, timer⟩ := entry
  cases timer with
  | deadline => exact h
  | report => exact h
  | spawn => exact helapsed.spawn _
  | member k =>
    show (Timeline.advance c { t with swarm := { t.swarm with now := time } } k).swarm.Picks _
    unfold advance
    split
    · exact helapsed.enter k
    · split
      · exact helapsed.halt k
      · exact helapsed.wake k _ _
    · exact helapsed.finish k _ _
    · exact h

/-! ### Mirrored runs -/

/-- The same run in another world. -/
def mapWorld (f : ω → ω') (t : Timeline ω) : Timeline ω' := ⟨t.swarm, t.nextReport, f t.world⟩

end Timeline

/-- The same load test with another token. -/
def LoadTest.withToken (test : LoadTest) (token : BearerToken) : LoadTest :=
  { test with token := token }

/-- One world gives what the other gives; requests may be sent with another token. -/
structure Course.Mirrors {ω ω' : Type} (f : ω → ω') (c : Course ω) (d : Course ω') : Prop where
  test : ∃ token, d.test = c.test.withToken token
  interval : d.interval = c.interval
  words : d.conditions.words = c.conditions.words
  stopwatch : d.conditions.stopwatch = c.conditions.stopwatch
  machine : d.conditions.machine = c.conditions.machine
  perform : ∀ world k, ∀ task ∈ c.test.tasks.tasks, d.conditions.perform (f world) k task =
    ((c.conditions.perform world k task).1, f (c.conditions.perform world k task).2)

namespace Timeline

variable {ω ω' : Type} {f : ω → ω'} {c : Course ω} {d : Course ω'}

theorem due_mapWorld (mirrors : c.Mirrors f d) (t : Timeline ω) : (t.mapWorld f).due d = t.due c := by
  obtain ⟨token, htest⟩ := mirrors.test
  simp only [due, deadlineDue, spawnDue, htest, mirrors.interval]
  rfl

theorem next?_mapWorld (mirrors : c.Mirrors f d) (t : Timeline ω) :
    (t.mapWorld f).next? d = t.next? c := by
  unfold next?
  rw [due_mapWorld mirrors]
  rfl

/-- A user whose wait is over does the same in both worlds. -/
theorem wake_mapWorld (mirrors : c.Mirrors f d) {t : Timeline ω} (k : Nat) {task : Task}
    (picked : task ∈ c.test.tasks.tasks) :
    (t.mapWorld f).wake d k task = (t.wake c k task).mapWorld f := by
  obtain ⟨token, htest⟩ := mirrors.test
  simp only [wake, mapWorld, mirrors.perform t.world k task picked, htest]
  rfl

theorem advance_mapWorld (mirrors : c.Mirrors f d) {t : Timeline ω}
    (picks : t.swarm.Picks c.test.tasks) (k : Nat) :
    (t.mapWorld f).advance d k = (t.advance c k).mapWorld f := by
  obtain ⟨token, htest⟩ := mirrors.test
  have hsame : (t.mapWorld f).swarm.phase? k = t.swarm.phase? k := rfl
  rw [advance, advance, hsame]
  cases hphase : t.swarm.phase? k with
  | none => rfl
  | some phase =>
    cases phase with
    | starting =>
      simp only [htest]
      rfl
    | thinking task wake =>
      obtain ⟨number, source, hm⟩ := Swarm.exists_of_phase? hphase
      have picked := picks _ (List.mem_of_getElem? hm) task wake rfl
      dsimp only
      rw [wake_mapWorld mirrors k picked]
      show (if t.swarm.isStopping then _ else _) = _
      split <;> rfl
    | executing task flight =>
      simp only [htest]
      rfl
    | stopped => rfl
    | crashed fault => rfl

theorem step_mapWorld (mirrors : c.Mirrors f d) {t : Timeline ω}
    (picks : t.swarm.Picks c.test.tasks) (entry : Duration × Timer) :
    (t.mapWorld f).step d entry = (t.step c entry).mapWorld f := by
  obtain ⟨token, htest⟩ := mirrors.test
  obtain ⟨time, timer⟩ := entry
  cases timer with
  | deadline => rfl
  | member k =>
    exact advance_mapWorld mirrors (t := { t with swarm := { t.swarm with now := time } }) picks k
  | spawn =>
    simp only [step, fire, mapWorld, htest, mirrors.words]
    rfl
  | report =>
    simp only [step, fire, draw, mapWorld, htest, mirrors.stopwatch, mirrors.machine]
    rfl

/-- Step for step the same happens. -/
theorem run_mapWorld (mirrors : c.Mirrors f d) (limit : Nat) {t : Timeline ω}
    (picks : t.swarm.Picks c.test.tasks) :
    run d limit (t.mapWorld f) = (run c limit t).map (mapWorld f) := by
  induction limit generalizing t with
  | zero =>
    unfold run
    rw [next?_mapWorld mirrors]
    cases t.next? c <;> rfl
  | succ limit ih =>
    unfold run
    rw [next?_mapWorld mirrors]
    cases t.next? c with
    | none => rfl
    | some entry =>
      dsimp only
      rw [step_mapWorld mirrors picks]
      exact ih (picks_step picks entry)

/-- Whatever comes first of what is due at once, the same may come first in the other world. -/
theorem reaches_mapWorld (mirrors : c.Mirrors f d) {world : ω} {t : Timeline ω}
    (h : Reaches c world t) : Reaches d (f world) (t.mapWorld f) ∧ t.swarm.Picks c.test.tasks := by
  induction h with
  | start =>
    obtain ⟨token, htest⟩ := mirrors.test
    refine ⟨?_, fun m hm => nomatch hm⟩
    have hinitial : (initial c.test world).mapWorld f = initial d.test (f world) := by
      rw [htest]
      rfl
    rw [hinitial]
    exact .start
  | @next s t _ move ih =>
    obtain ⟨before, picks⟩ := ih
    cases move with
    | fire going entry isDue isFirst =>
      have going' : (s.mapWorld f).swarm.isDone = false := going
      rw [← step_mapWorld mirrors picks]
      rw [← due_mapWorld mirrors] at isDue isFirst
      exact ⟨.next before (.fire going' entry isDue isFirst), picks_step picks entry⟩

end Timeline

namespace LoadTest

variable {ω ω' : Type}

/-- A run shows the same and ends alike in two worlds of which one gives what the other gives. -/
theorem run_mapWorld {test : LoadTest} {f : ω → ω'} {conditions : Conditions ω}
    {conditions' : Conditions ω'} (token : BearerToken)
    (mirrors : ∀ interval, Course.Mirrors f ⟨test, interval, conditions⟩
      ⟨test.withToken token, interval, conditions'⟩)
    (clock : Clock) (world : ω) (limit : Nat) :
    (test.withToken token).run clock conditions' (f world) limit =
      ⟨(test.run clock conditions world limit).result.map (Timeline.mapWorld f),
        (test.run clock conditions world limit).output⟩ := by
  have hcourse : (test.withToken token).course clock conditions' =
      (test.course clock conditions).map fun c =>
        ⟨test.withToken token, c.interval, conditions'⟩ := by
    have hsettings : (test.withToken token).settings = test.settings := rfl
    unfold course
    rw [hsettings]
    cases test.settings.spawnInterval clock with
    | error e => rfl
    | ok interval =>
      dsimp only
      split
      · rfl
      · split <;> rfl
  have hopening : (test.withToken token).opening = test.opening := rfl
  unfold run
  rw [hcourse, hopening]
  cases hc : test.course clock conditions with
  | error fault => rfl
  | ok c =>
    obtain ⟨interval, rfl⟩ : ∃ interval, c = ⟨test, interval, conditions⟩ := by
      unfold course at hc
      split at hc
      · cases hc
      · split at hc
        · cases hc
        · split at hc
          · cases hc
          · cases hc
            exact ⟨_, rfl⟩
    have hrun := Timeline.run_mapWorld (mirrors interval) limit
      (t := .initial test world) (fun m hm => nomatch hm)
    have hinitial : (Timeline.initial test world).mapWorld f =
        Timeline.initial (test.withToken token) (f world) := rfl
    rw [hinitial] at hrun
    simp only [Except.map]
    rw [hrun]
    cases (Timeline.initial test world).run ⟨test, interval, conditions⟩ limit <;> rfl

end LoadTest

end QuerySwarm
