import QuerySwarm.Proofs.Swarm.Accounting
import QuerySwarm.Swarm.Timeline

/-!
# The run is one of the traces

A swarm in time does what the swarm without times may do: each move lets the time come, and then
takes one step or none. So whatever holds of all traces holds of a run
(`Timeline.exists_trace_of_reaches`).
-/

namespace QuerySwarm

namespace Swarm

variable {α : Type} {test : LoadTest}

theorem Trace.append {s t u : Swarm α} {first second : List (Action α)}
    (before : Trace test s first t) (after : Trace test t second u) :
    Trace test s (first ++ second) u := by
  induction after with
  | start =>
    rw [List.append_nil]
    exact before
  | next _ step ih =>
    rw [← List.append_assoc]
    exact .next ih step

/-- A request that is on its way after a step was on its way before, or is sent by the step. -/
theorem executing_of_step (sound : test.IsSound) {s t : Swarm α} {a : Action α}
    (step : Step test s a t) {k : Nat} {task : Task} {job : α}
    (h : t.phase? k = some (.executing task job)) :
    s.phase? k = some (.executing task job) ∨ a = .wake k job none := by
  by_cases own : a.member? = some k
  · obtain ⟨p, q, -, hq, turn⟩ := turn_of_step sound step own
    rw [h] at hq
    cases hq
    generalize s.isStopping = stopping at turn
    cases turn
    exact Or.inr rfl
  · by_cases hk : k < s.size
    · left
      rw [← phase?_of_step sound step hk own]
      exact h
    · -- nobody has this place but whoever is just started
      have hsize := lt_size_of_phase? h
      cases step with
      | spawn source going room =>
        rw [size_spawn] at hsize
        have hlast : k = s.members.length := by
          simp only [size] at hsize hk
          omega
        subst hlast
        simp [phase?, spawn] at h
      | elapse => exact absurd hsize hk
      | draw => exact absurd hsize hk
      | signal => exact absurd hsize hk
      | enter =>
        rw [size_enter] at hsize
        exact absurd hsize hk
      | wake =>
        rw [size_wake] at hsize
        exact absurd hsize hk
      | heed =>
        rw [size_halt] at hsize
        exact absurd hsize hk
      | finish =>
        rw [size_finish] at hsize
        exact absurd hsize hk

end Swarm

namespace Timeline

variable {ω : Type} {c : Course ω}

def AllSent (s : Swarm Flight) : Prop :=
  ∀ k task flight, s.phase? k = some (.executing task flight) → flight.outcome.isUnsent = false

/-- What is fired is a step that may be taken, or nothing. -/
def Fires (test : LoadTest) (s t : Swarm Flight) : Prop :=
  t = s ∨ ∃ a, Swarm.Step test s a t ∧ ∀ k flight, a = .wake k flight none →
    flight.outcome.isUnsent = false

theorem going_of_deadline_due {t : Timeline ω} {time : Duration}
    (h : (time, Timer.deadline) ∈ t.due c) : t.swarm.isStopping = false := by
  cases hstop : t.swarm.isStopping with
  | false => rfl
  | true =>
    simp [due, deadlineDue, membersDue, spawnDue, reportDue, hstop] at h

theorem room_of_spawn_due {t : Timeline ω} {time : Duration} (h : (time, Timer.spawn) ∈ t.due c) :
    t.swarm.isStopping = false ∧ t.swarm.size < c.test.settings.users := by
  simp only [due, deadlineDue, membersDue, spawnDue, reportDue, List.mem_append] at h
  rcases h with ((h | h) | h) | h
  · split at h <;> simp at h
  · simp at h
  · split at h
    · next hroom => simpa using hroom
    · cases h
  · simp at h

theorem fires_wake {t : Timeline ω} {k : Nat} {task : Task} {time : Duration}
    (thinking : t.swarm.phase? k = some (.thinking task time)) :
    Fires c.test t.swarm (t.wake c k task).swarm := by
  right
  let performed := c.conditions.perform t.world k task
  let flight : Flight := { performed.1 with landing := t.swarm.now + performed.1.took }
  have hswarm : (t.wake c k task).swarm = t.swarm.wake c.test k flight
      (if flight.outcome.isUnsent then some (flight.outcome, flight.took) else none) := rfl
  rw [hswarm]
  cases hunsent : flight.outcome.isUnsent with
  | true =>
    refine ⟨_, .wake flight (some (flight.outcome, flight.took)) ?_ thinking, ?_⟩
    · intro ended hended
      cases hended
      exact hunsent
    · intro _ _ heq
      cases heq
  | false =>
    refine ⟨_, .wake flight none ?_ thinking, ?_⟩
    · intro ended hended
      cases hended
    · intro _ _ heq
      cases heq
      exact hunsent

theorem fires_advance {t : Timeline ω} (sent : AllSent t.swarm) (k : Nat) :
    Fires c.test t.swarm (t.advance c k).swarm := by
  unfold advance
  split
  · next starting =>
    exact Or.inr ⟨_, .enter starting, fun _ _ heq => nomatch heq⟩
  · next task time thinking =>
    split
    · next stopping => exact Or.inr ⟨_, .heed stopping thinking, fun _ _ heq => nomatch heq⟩
    · exact fires_wake thinking
  · next task flight executing =>
    exact Or.inr ⟨_, .finish _ _ executing (sent k task flight executing),
      fun _ _ heq => nomatch heq⟩
  · exact Or.inl rfl

/-- What is due takes a step when its time has come. -/
theorem fires_fire {t : Timeline ω} {entry : Duration × Timer} (isDue : entry ∈ t.due c)
    (sent : AllSent t.swarm) :
    Fires c.test { t.swarm with now := entry.1 } (t.step c entry).swarm := by
  obtain ⟨time, timer⟩ := entry
  cases timer with
  | deadline =>
    exact Or.inr ⟨_, .signal .elapsed (going_of_deadline_due isDue), fun _ _ heq => nomatch heq⟩
  | member k =>
    exact fires_advance (t := { t with swarm := { t.swarm with now := time } }) sent k
  | spawn =>
    obtain ⟨going, room⟩ := room_of_spawn_due isDue
    exact Or.inr ⟨_, .spawn _ going room, fun _ _ heq => nomatch heq⟩
  | report =>
    exact Or.inr ⟨.draw (c.conditions.machine time) fun tally =>
      tally.liveReport (c.conditions.stopwatch time), .draw _ _ _, fun _ _ heq => nomatch heq⟩

theorem exists_trace_of_moves (sound : c.test.IsSound) {t u : Timeline ω} (move : Moves c t u)
    (sent : AllSent t.swarm) :
    ∃ actions, Swarm.Trace c.test t.swarm actions u.swarm ∧ AllSent u.swarm := by
  cases move with
  | fire _ entry isDue _ =>
    have elapsed : Swarm.Trace c.test t.swarm [.elapse entry.1] { t.swarm with now := entry.1 } :=
      .next .start (.elapse t.swarm entry.1)
    rcases fires_fire isDue sent with hsame | ⟨a, step, hwake⟩
    · rw [hsame]
      exact ⟨_, elapsed, sent⟩
    · refine ⟨_, .next elapsed step, ?_⟩
      intro k task flight hexecuting
      rcases Swarm.executing_of_step sound step hexecuting with hbefore | hsent
      · exact sent k task flight hbefore
      · exact hwake k flight hsent

/-- Whatever a run comes to, a trace leads there. -/
theorem exists_trace_of_reaches (sound : c.test.IsSound) {world : ω} {t : Timeline ω}
    (h : Reaches c world t) :
    ∃ actions, Swarm.Trace c.test .empty actions t.swarm ∧ AllSent t.swarm := by
  induction h with
  | start =>
    refine ⟨[], .start, ?_⟩
    intro k task flight hexecuting
    cases hexecuting
  | next _ move ih =>
    obtain ⟨first, before, sent⟩ := ih
    obtain ⟨second, after, hsent⟩ := exists_trace_of_moves sound move sent
    exact ⟨first ++ second, before.append after, hsent⟩

end Timeline

end QuerySwarm
