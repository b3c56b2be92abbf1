import Mathlib.Algebra.Group.Action.Defs
import Mathlib.Algebra.Order.BigOperators.Group.Finset
import Mathlib.Order.Lattice.Nat
import QuerySwarm.Proofs.Swarm.OnTime

/-!
# A run comes to its end

Whatever does not start a sample uses something up: a user that has yet to be started, the signal to
stop, a drawing of the screen before the last moment, or what somebody has left to do. So a run takes
only so many steps for each sample that it starts, beyond what there was to use up at the beginning
(`Timeline.Endless.le_started`).

A run that never ends would start samples for ever, and as time is bounded, it would start infinitely
many of them at one instant (`Timeline.Endless.exists_instant`). Where that does not happen, every run
ends (`Timeline.exists_run`), as it does where nobody goes on without waiting
(`Timeline.progresses_of_pos`).
-/

namespace QuerySwarm

/-! ### What is left to do -/

/-- What a user has left to do at least, until it starts a sample. -/
def Phase.rest {α : Type} : Phase α → Nat
  | .starting => 2
  | .thinking .. => 1
  | .executing .. => 2
  | .stopped => 0
  | .crashed _ => 0

namespace Timeline

variable {ω : Type} {c : Course ω} {world : ω} {events : List Event} {told : List Happening}
  {t u : Timeline ω}

/-- What is left until a time, when no more samples are started. -/
def remaining (c : Course ω) (last : Duration) (t : Timeline ω) : Nat :=
  (t.swarm.members.map fun m => m.phase.rest).sum + 3 * (c.test.settings.users - t.swarm.size) +
    (if t.swarm.isStopping then 0 else 1) +
    t.nextReport.elim 0 fun time => last.nanoseconds + 1 - time.nanoseconds

theorem lt_add_ofSeconds (now : Duration) {seconds : Nat} (hseconds : seconds ≠ 0) :
    now.nanoseconds < (now + .ofSeconds seconds).nanoseconds := by
  have hpos : 0 < (Duration.ofSeconds seconds).nanoseconds := by
    simp [Duration.ofSeconds, Duration.ofParts, nanosecondsPerSecond, Nat.pos_of_ne_zero hseconds]
  exact Nat.lt_add_of_pos_right hpos

theorem remaining_replace {k : Nat} {old m : Member Flight} (last : Duration)
    (place : t.swarm.members[k]? = some old) (replaces : Replaces t u k m) :
    remaining c last u + old.phase.rest = remaining c last t + m.phase.rest := by
  have hsize := replaces.size_eq
  have hsum := sum_map_set_add (fun m : Member Flight => m.phase.rest) place m
  simp only [remaining, hsize, replaces.members, replaces.isStopping, replaces.nextReport]
  omega

theorem remaining_lt_of_report {last later : Duration}
    (before : t.swarm.now.nanoseconds ≤ last.nanoseconds)
    (isNow : t.nextReport = some t.swarm.now) (members : u.swarm.members = t.swarm.members)
    (isStopping : u.swarm.isStopping = t.swarm.isStopping) (nextReport : u.nextReport = some later)
    (hlater : t.swarm.now.nanoseconds < later.nanoseconds) :
    remaining c last u + 1 ≤ remaining c last t := by
  simp only [remaining, Swarm.size, members, isStopping, nextReport, isNow, Option.elim_some]
  omega

/-- Every move starts a sample or leaves less to do. -/
theorem remaining_lt_of_moved (onTime : OnTime c events t) {last : Duration}
    (before : t.swarm.now.nanoseconds ≤ last.nanoseconds) (moved : Moved c t told u) :
    remaining c last u + 1 ≤ remaining c last t + 2 * told.countP Happening.isDeparture := by
  cases moved with
  | signal going isNow members isStopping nextReport =>
    have hgoing : (if t.swarm.isStopping then 0 else 1) = 1 := by rw [going]; rfl
    have hstopped : (if u.swarm.isStopping then 0 else 1) = 0 := by rw [isStopping]; rfl
    simp only [remaining, Swarm.size, members, nextReport, hgoing, hstopped]
    omega
  | report isNow members isStopping nextReport =>
    have hlater := lt_add_ofSeconds t.swarm.now (onTime.report _ isNow).2
    exact remaining_lt_of_report before isNow members isStopping nextReport hlater
  | spawn going room isNow number members isStopping nextReport =>
    simp only [remaining, Swarm.size, members, isStopping, nextReport, List.map_append,
      List.sum_append, List.length_append, List.map_singleton, List.sum_singleton,
      List.length_singleton, Phase.rest]
    simp only [Swarm.size] at room
    omega
  | enter place replaces =>
    have hremaining := remaining_replace (c := c) last place replaces
    simp only [Phase.rest] at hremaining
    omega
  | depart place going landing replaces =>
    have hremaining := remaining_replace (c := c) last place replaces
    simp only [Phase.rest] at hremaining
    simp only [List.countP_cons, List.countP_nil, Happening.isDeparture, if_true]
    omega
  | skip place going replaces =>
    have hremaining := remaining_replace (c := c) last place replaces
    simp only [Phase.rest] at hremaining
    simp only [List.countP_cons, List.countP_nil, Happening.isDeparture, if_true,
      Bool.false_eq_true, if_false]
    omega
  | land place isNow replaces =>
    have hremaining := remaining_replace (c := c) last place replaces
    simp only [Phase.rest] at hremaining
    omega
  | leave place stopping replaces =>
    have hremaining := remaining_replace (c := c) last place replaces
    simp only [Phase.rest] at hremaining
    omega

/-- A move starts a sample or leaves less to do. -/
theorem remaining_lt_of_moves (sound : c.test.IsSound) (onTime : OnTime c events t)
    (move : Moves c t u) {last : Duration} (before : u.swarm.now.nanoseconds ≤ last.nanoseconds) :
    remaining c last u + 1 + 2 * t.swarm.requests.started ≤
      remaining c last t + 2 * u.swarm.requests.started := by
  obtain ⟨told, -, elapsed, moved, counted⟩ := onTime.exists_moved sound move
  have hlt := remaining_lt_of_moved elapsed before moved
  have hstarted := counted.started
  -- nobody does anything while time passes
  change u.swarm.requests.started = t.swarm.requests.started + _ at hstarted
  change remaining c last u + 1 ≤ remaining c last t + _ at hlt
  omega

/-! ### The last moment -/

/-- When somebody on the way lands. -/
def landing (m : Member Flight) : Nat :=
  match m.phase with
  | .executing _ flight => flight.landing.nanoseconds
  | _ => 0

/-- The swarm was told to stop, and whoever is on the way lands until a time. -/
structure Within (last : Duration) (t : Timeline ω) : Prop where
  stopping : t.swarm.isStopping = true
  now : t.swarm.now.nanoseconds ≤ last.nanoseconds
  landings : ∀ m ∈ t.swarm.members, landing m ≤ last.nanoseconds

theorem exists_within (stopping : t.swarm.isStopping = true) : ∃ last, Within last t := by
  refine ⟨⟨t.swarm.now.nanoseconds + (t.swarm.members.map landing).sum⟩, stopping,
    Nat.le_add_right _ _, fun m hm => ?_⟩
  exact Nat.le_trans (List.le_sum_of_mem (List.mem_map_of_mem hm)) (Nat.le_add_left _ _)

/-- Nobody starts anything any more, so nobody lands later. -/
theorem Within.moved {last : Duration} (h : Within last t) (moved : Moved c t told u)
    (counted : Counted t u told) : Within last u := by
  have hset : ∀ {k : Nat} {m : Member Flight}, Replaces t u k m → landing m = 0 →
      Within last u := by
    intro k m replaces hzero
    refine ⟨replaces.isStopping.trans h.stopping, ?_, fun m' hm' => ?_⟩
    · rw [counted.now]
      exact h.now
    · rw [replaces.members] at hm'
      rcases List.mem_or_eq_of_mem_set hm' with hold | rfl
      · exact h.landings m' hold
      · rw [hzero]
        exact Nat.zero_le _
  cases moved with
  | signal going | spawn going | depart _ going | skip _ going =>
    rw [h.stopping] at going
    cases going
  | report isNow members isStopping nextReport =>
    refine ⟨isStopping.trans h.stopping, ?_, ?_⟩
    · rw [counted.now]
      exact h.now
    · rw [members]
      exact h.landings
  | enter place replaces => exact hset replaces rfl
  | land place isNow replaces => exact hset replaces rfl
  | leave place stopping replaces => exact hset replaces rfl

theorem Within.moves (sound : c.test.IsSound) {last : Duration} (h : Within last t)
    (move : Moves c t u) : Within last u := by
  cases move with
  | fire going entry isDue isFirst =>
    have hdue := isDue_of_mem_due isDue
    obtain ⟨moved, counted⟩ := moved_of_isDue sound hdue.elapse
    refine Within.moved (t := t.elapse entry.1) ⟨h.stopping, ?_, h.landings⟩ moved counted
    rcases executing_or_due_of_stopping (c := c) h.stopping going with
      ⟨m, hm, hexecuting⟩ | ⟨timer, hnow⟩
    · -- time does not pass beyond who is still on the way
      obtain ⟨k, hk⟩ := List.mem_iff_getElem?.1 hm
      obtain ⟨number, source, phase⟩ := m
      cases phase with
      | executing task flight =>
        have hflight : IsDue c t flight.landing (.member k) := .member hk rfl
        exact Nat.le_trans (isFirst _ hflight.mem_due) (h.landings _ hm)
      | _ => cases hexecuting
    · exact Nat.le_trans (isFirst _ hnow.mem_due) h.now

/-! ### Runs without an end -/

/-- A run that goes on for ever. -/
structure Endless (c : Course ω) (world : ω) (states : Nat → Timeline ω) : Prop where
  start : states 0 = initial c.test world
  moves : ∀ n, Moves c (states n) (states (n + 1))

namespace Endless

variable {states : Nat → Timeline ω}

theorem reaches (h : Endless c world states) (n : Nat) : Reaches c world (states n) := by
  induction n with
  | zero =>
    rw [h.start]
    exact .start
  | succ n ih => exact .next ih (h.moves n)

theorem onTime (sound : c.test.IsSound) (h : Endless c world states) (n : Nat) :
    ∃ events, OnTime c events (states n) := by
  obtain ⟨events, chronicle⟩ := exists_chronicle_of_reaches (h.reaches n)
  exact ⟨events, onTime_of_chronicle sound chronicle⟩

theorem monotone_now (sound : c.test.IsSound) (h : Endless c world states) :
    Monotone fun n => (states n).swarm.now.nanoseconds := by
  refine monotone_nat_of_le_succ fun n => ?_
  obtain ⟨events, onTime⟩ := h.onTime sound n
  obtain ⟨told, hle, -⟩ := onTime.exists_moved sound (h.moves n)
  exact hle

/-- It does not go beyond a last moment: the deadline, or the last landing after it. -/
theorem exists_last (sound : c.test.IsSound) (h : Endless c world states) :
    ∃ last : Duration, ∀ n, (states n).swarm.now.nanoseconds ≤ last.nanoseconds := by
  by_cases hstop : ∃ n, (states n).swarm.isStopping = true
  · obtain ⟨first, hfirst⟩ := hstop
    obtain ⟨last, within⟩ := exists_within hfirst
    have hwithin : ∀ n, Within last (states (first + n)) := by
      intro n
      induction n with
      | zero => exact within
      | succ n ih => exact ih.moves sound (h.moves (first + n))
    exact ⟨last, fun n =>
      Nat.le_trans (h.monotone_now sound (Nat.le_add_left n first)) (hwithin n).now⟩
  · refine ⟨c.test.settings.duration, fun n => ?_⟩
    obtain ⟨events, onTime⟩ := h.onTime sound n
    exact onTime.going (Bool.eq_false_iff.2 fun hstopping => hstop ⟨n, hstopping⟩)

/-- As many steps as it takes, so many samples it has started, but for what there was to use up. -/
theorem le_started (sound : c.test.IsSound) (h : Endless c world states) {last : Duration}
    (hlast : ∀ n, (states n).swarm.now.nanoseconds ≤ last.nanoseconds) (n : Nat) :
    n + remaining c last (states n) ≤
      remaining c last (states 0) + 2 * (states n).swarm.requests.started := by
  induction n with
  | zero => omega
  | succ n ih =>
    obtain ⟨events, onTime⟩ := h.onTime sound n
    have hstep := remaining_lt_of_moves sound onTime (h.moves n) (hlast (n + 1))
    omega

theorem exists_lt_started (sound : c.test.IsSound) (h : Endless c world states) (bound : Nat) :
    ∃ n, bound < (states n).swarm.requests.started := by
  obtain ⟨last, hlast⟩ := h.exists_last sound
  refine ⟨remaining c last (states 0) + 2 * bound + 1, ?_⟩
  have hle := h.le_started sound hlast (remaining c last (states 0) + 2 * bound + 1)
  omega

/-- At last, no time passes any more. -/
theorem exists_final (sound : c.test.IsSound) (h : Endless c world states) :
    ∃ first, ∀ n, first ≤ n → (states n).swarm.now = (states first).swarm.now := by
  obtain ⟨last, hlast⟩ := h.exists_last sound
  let times := Set.range fun n => (states n).swarm.now.nanoseconds
  have hbounded : BddAbove times := ⟨last.nanoseconds, by
    rintro _ ⟨n, rfl⟩
    exact hlast n⟩
  obtain ⟨first, hfirst⟩ : sSup times ∈ times := Nat.sSup_mem ⟨_, 0, rfl⟩ hbounded
  refine ⟨first, fun n hn => congrArg Duration.mk (Nat.le_antisymm ?_ (h.monotone_now sound hn))⟩
  rw [show (states first).swarm.now.nanoseconds = sSup times from hfirst]
  exact le_csSup hbounded ⟨n, rfl⟩

/-- It starts infinitely many samples at one instant. -/
theorem exists_instant (sound : c.test.IsSound) (h : Endless c world states) :
    ∃ time, ∀ bound, ∃ n, bound ≤ n ∧ (states (n + 1)).swarm.now = time ∧
      (states (n + 1)).swarm.requests.started ≠ (states n).swarm.requests.started := by
  obtain ⟨first, hfirst⟩ := h.exists_final sound
  refine ⟨(states first).swarm.now, fun bound => ?_⟩
  by_contra hnone
  -- otherwise nothing would be started from some moment on
  obtain ⟨late, hlate, hbound⟩ : ∃ late, first ≤ late ∧ bound ≤ late :=
    ⟨first + bound, Nat.le_add_right _ _, Nat.le_add_left _ _⟩
  have hsame : ∀ n, (states (late + n)).swarm.requests.started =
      (states late).swarm.requests.started := by
    intro n
    induction n with
    | zero => rfl
    | succ n ih =>
      rw [← ih]
      by_contra hne
      exact hnone ⟨late + n, by omega, hfirst (late + n + 1) (by omega), hne⟩
  obtain ⟨last, hlast⟩ := h.exists_last sound
  have hle := h.le_started sound hlast
    (late + (remaining c last (states 0) + 2 * (states late).swarm.requests.started + 1))
  rw [hsame] at hle
  omega

end Endless

/-- Nobody starts infinitely many samples at one instant. -/
def Progresses (c : Course ω) (world : ω) : Prop :=
  ∀ states, Endless c world states → ∀ time, ∃ bound, ∀ n, bound ≤ n →
    (states (n + 1)).swarm.now = time →
      (states (n + 1)).swarm.requests.started = (states n).swarm.requests.started

theorem not_endless_of_progresses (sound : c.test.IsSound) (progresses : Progresses c world)
    (states : Nat → Timeline ω) : ¬ Endless c world states := by
  intro h
  obtain ⟨time, hagain⟩ := h.exists_instant sound
  obtain ⟨bound, hbound⟩ := progresses states h time
  obtain ⟨n, hle, hnow, hstarted⟩ := hagain bound
  exact hstarted (hbound n hle hnow)

/-! ### Runs that end -/

/-- The next move, if there is one. -/
def onward (c : Course ω) (t : Timeline ω) : Timeline ω := (t.next? c).elim t (t.step c)

/-- A run that has not ended after so many steps can take every one of them. -/
theorem exists_next?_of_run_eq_none {limit : Nat} (h : run c limit t = none) :
    ∀ n ≤ limit, ∃ entry, ((onward c)^[n] t).next? c = some entry := by
  induction limit generalizing t with
  | zero =>
    intro n hn
    obtain rfl := Nat.le_zero.1 hn
    unfold run at h
    split at h
    · cases h
    · next entry hentry => exact ⟨entry, hentry⟩
  | succ limit ih =>
    unfold run at h
    split at h
    · cases h
    · next entry hentry =>
      intro n hn
      cases n with
      | zero => exact ⟨entry, hentry⟩
      | succ n =>
        have honward : onward c t = t.step c entry := by rw [onward, hentry, Option.elim_some]
        rw [Function.iterate_succ_apply, honward]
        exact ih h n (Nat.le_of_succ_le_succ hn)

/-- A run that does not end goes on for ever. -/
theorem endless_of_run_eq_none (h : ∀ limit, run c limit (initial c.test world) = none) :
    Endless c world fun n => (onward c)^[n] (initial c.test world) := by
  refine ⟨rfl, fun n => ?_⟩
  obtain ⟨entry, hentry⟩ := exists_next?_of_run_eq_none (h n) n (Nat.le_refl n)
  have hmoves := moves_of_next? hentry
  rw [Function.iterate_succ_apply', onward, hentry, Option.elim_some]
  exact hmoves

/-- Where no run is without an end, the run ends. -/
theorem exists_run (h : ∀ states, ¬ Endless c world states) :
    ∃ limit ended, run c limit (initial c.test world) = some ended := by
  by_contra hnone
  refine h _ (endless_of_run_eq_none fun limit => ?_)
  cases hended : run c limit (initial c.test world) with
  | none => rfl
  | some ended => exact (hnone ⟨limit, ended, hended⟩).elim

/-! ### Waiting -/

/-- Where everybody waits, nobody goes on for ever. -/
theorem progresses_of_pos (sound : c.test.IsSound)
    (hpos : ∀ k n, 0 < (waitsOf c k n).nanoseconds) : Progresses c world := by
  intro states h
  obtain ⟨n, hn⟩ := h.exists_lt_started sound
    (c.test.settings.users * c.test.settings.duration.nanoseconds)
  obtain ⟨events, onTime⟩ := h.onTime sound n
  have room := (balanced_of_reaches sound (h.reaches n)).room
  have htrips : ∀ k < (states n).swarm.size,
      (tripsOf k events).length ≤ c.test.settings.duration.nanoseconds := by
    intro k hk
    obtain ⟨free, itinerary, -⟩ := onTime.stands k _ (List.getElem?_eq_getElem hk)
    have hlast := (itinerary.le_free (hpos k)).2
    cases htrips : tripsOf k events with
    | nil => exact Nat.zero_le _
    | cons first rest =>
      rw [htrips, Nat.succ_eq_add_one, Nat.zero_add, Nat.mul_one] at hlast
      exact Nat.le_trans (Nat.le_add_left _ _) (hlast (List.cons_ne_nil _ _))
  have hstarted : (states n).swarm.requests.started ≤
      (states n).swarm.size * c.test.settings.duration.nanoseconds := by
    rw [onTime.started, departures_eq_sum fun k hk => (onTime.fresh k hk).1]
    have hsum := Finset.sum_le_card_nsmul (Finset.range (states n).swarm.size)
      (fun k => (tripsOf k events).length) _ fun k hk => htrips k (Finset.mem_range.1 hk)
    rwa [Finset.card_range, smul_eq_mul] at hsum
  have hle := Nat.mul_le_mul_right c.test.settings.duration.nanoseconds room
  omega

end Timeline

end QuerySwarm
