import Mathlib.Algebra.BigOperators.Group.Finset.Piecewise
import QuerySwarm.Proofs.Swarm.Schedule

/-!
# A run is on time

While a run goes on, nothing that is due is left behind and nothing happens before it is due. This is
an invariant of whatever a run can come to (`Timeline.onTime_of_chronicle`): it holds while time
passes up to what is due first (`Timeline.OnTime.elapse`), and it holds when that happens
(`Timeline.OnTime.fire`).

When everybody has left, it says who was started when, which samples each user took and when the run
ended (`Timeline.kept_of_chronicle`).
-/

namespace QuerySwarm

namespace Timeline

variable {ω : Type} {c : Course ω} {events : List Event} {t u : Timeline ω}

/-- Whose sample is told of. -/
def Happening.member? : Happening → Option Nat
  | .spawned => none
  | .departed k _ => some k
  | .landed k => some k

/-! ### The invariant -/

/-- What has happened by now happened in time, and what is due is not due before now. -/
structure OnTime (c : Course ω) (events : List Event) (t : Timeline ω) : Prop where
  going : t.swarm.isStopping = false →
    t.swarm.now.nanoseconds ≤ c.test.settings.duration.nanoseconds
  stopping : t.swarm.isStopping = true →
    c.test.settings.duration.nanoseconds ≤ t.swarm.now.nanoseconds
  spawns : spawnsIn events = (List.range t.swarm.size).map c.interval.times
  prompt : ∀ k < t.swarm.size,
    (c.interval.times k).nanoseconds ≤ c.test.settings.duration.nanoseconds
  waiting : t.swarm.size < c.test.settings.users →
    (if t.swarm.isStopping then c.test.settings.duration else t.swarm.now).nanoseconds ≤
      (c.interval.times t.swarm.size).nanoseconds
  fresh : ∀ k, t.swarm.size ≤ k → tripsOf k events = [] ∧ landingsOf k events = []
  stands : ∀ k m, t.swarm.members[k]? = some m →
    Stands c t.swarm.isStopping t.swarm.now k (tripsOf k events) (landingsOf k events) m
  report : ∀ time, t.nextReport = some time →
    t.swarm.now.nanoseconds ≤ time.nanoseconds ∧ c.test.settings.reportInterval ≠ 0
  started : t.swarm.requests.started = departures events
  finished : t.swarm.requests.finished = landings events
  past : ∀ k time, time ∈ landingsOf k events → time.nanoseconds ≤ t.swarm.now.nanoseconds
  latest : t.swarm.isStopping = true → t.swarm.now = c.test.settings.duration ∨
    (∃ k, t.swarm.now ∈ landingsOf k events) ∨ ∃ m ∈ t.swarm.members, m.phase.isExecuting = true

theorem onTime_initial (c : Course ω) (world : ω) : OnTime c [] (initial c.test world) where
  going _ := Nat.zero_le _
  stopping h := nomatch h
  spawns := rfl
  prompt k hk := absurd hk (Nat.not_lt_zero k)
  waiting _ := Nat.zero_le _
  fresh _ _ := ⟨rfl, rfl⟩
  stands k m place := by cases place
  report time htime := by
    refine ⟨Nat.zero_le _, fun hzero => ?_⟩
    rw [initial, if_pos hzero] at htime
    cases htime
  started := rfl
  finished := rfl
  past k time h := nomatch h
  latest h := nomatch h

/-! ### Time passes -/

/-- Nothing is due before now. -/
theorem OnTime.le_due (h : OnTime c events t) {time : Duration} {timer : Timer}
    (isDue : IsDue c t time timer) : t.swarm.now.nanoseconds ≤ time.nanoseconds := by
  cases isDue with
  | deadline going isTime =>
    subst isTime
    exact h.going going
  | @member k m place isTime => exact (h.stands k m place).le_due isTime
  | spawn going room isTime =>
    subst isTime
    have hwaiting := h.waiting room
    rw [going] at hwaiting
    exact hwaiting
  | report isTime => exact (h.report _ isTime).1

/-- Whoever is not on the way when the swarm was told to stop is due at once, or has left. -/
theorem due?_of_stopping {m : Member Flight} (present : m.phase.isOver = false)
    (idle : m.phase.isExecuting = false) (now : Duration) : m.due? true now = some now := by
  obtain ⟨number, source, phase⟩ := m
  cases phase with
  | starting => rfl
  | thinking task wake => rfl
  | executing task flight => cases idle
  | stopped => cases present
  | crashed fault => cases present

/-- When the swarm was told to stop and somebody has not left, somebody is on the way or is due. -/
theorem executing_or_due_of_stopping (stopping : t.swarm.isStopping = true)
    (going : t.swarm.isDone = false) :
    (∃ m ∈ t.swarm.members, m.phase.isExecuting = true) ∨
      ∃ timer, IsDue c t t.swarm.now timer := by
  rw [Swarm.isDone, stopping, Bool.true_and, List.all_eq_false] at going
  obtain ⟨m, hm, hpresent⟩ := going
  rw [Bool.not_eq_true] at hpresent
  cases hexecuting : m.phase.isExecuting with
  | true => exact .inl ⟨m, hm, hexecuting⟩
  | false =>
    obtain ⟨k, hk, rfl⟩ := List.mem_iff_getElem.1 hm
    refine .inr ⟨.member k, .member (List.getElem?_eq_getElem hk) ?_⟩
    rw [stopping]
    exact due?_of_stopping hpresent hexecuting _

/-- Time passes up to what is due first. -/
theorem OnTime.elapse (h : OnTime c events t) (going : t.swarm.isDone = false) {time : Duration}
    {timer : Timer} (isDue : IsDue c t time timer)
    (isFirst : ∀ other timer, IsDue c t other timer → time.nanoseconds ≤ other.nanoseconds) :
    OnTime c events (t.elapse time) := by
  have hle := h.le_due isDue
  constructor
  case going => exact fun hgoing => isFirst _ _ (.deadline hgoing rfl)
  case stopping => exact fun hstop => Nat.le_trans (h.stopping hstop) hle
  case spawns => exact h.spawns
  case prompt => exact h.prompt
  case waiting =>
    intro room
    have hwaiting := h.waiting room
    change (if t.swarm.isStopping then c.test.settings.duration else time).nanoseconds ≤ _
    cases hstop : t.swarm.isStopping with
    | true =>
      rw [hstop] at hwaiting
      exact hwaiting
    | false => exact isFirst _ _ (.spawn hstop room rfl)
  case fresh => exact h.fresh
  case stands =>
    intro k m place
    exact (h.stands k m place).elapse hle fun other hother =>
      isFirst other (.member k) (.member place hother)
  case report =>
    exact fun other hother => ⟨isFirst other .report (.report hother), (h.report other hother).2⟩
  case started => exact h.started
  case finished => exact h.finished
  case past => exact fun k landing hlanding => Nat.le_trans (h.past k landing hlanding) hle
  case latest =>
    intro (hstop : t.swarm.isStopping = true)
    rcases executing_or_due_of_stopping (c := c) hstop going with hexecuting | ⟨other, hnow⟩
    · exact .inr (.inr hexecuting)
    · -- somebody is due now, so no time passes
      have hsame : time = t.swarm.now :=
        congrArg Duration.mk (Nat.le_antisymm (isFirst _ _ hnow) hle)
      subst hsame
      exact h.latest hstop

/-! ### Something happens -/

section Fire

variable {told : List Happening} {k : Nat}

theorem filterMap_trip?_of_own (own : ∀ h ∈ told, h.member? = some k) {other : Nat}
    (hne : other ≠ k) (time : Duration) : told.filterMap (Happening.trip? other time) = [] := by
  rw [List.filterMap_eq_nil_iff]
  intro h hmem
  have hown := own h hmem
  cases h with
  | spawned => rfl
  | departed j took =>
    cases hown
    exact if_neg (Ne.symm hne)
  | landed j => rfl

theorem count_of_own (own : ∀ h ∈ told, h.member? = some k) {h : Happening}
    (hne : h.member? ≠ some k) : told.count h = 0 :=
  List.count_eq_zero.2 fun hmem => hne (own h hmem)

theorem mem_landingsOf_append_stamped {time landing : Duration}
    (h : landing ∈ landingsOf k (events ++ stamped time told)) :
    landing ∈ landingsOf k events ∨ landing = time := by
  rw [landingsOf_append_stamped, List.mem_append] at h
  exact h.imp_right fun hnew => (List.mem_replicate.1 hnew).2

/-- A member does something that is told, and stands where it is told to. -/
theorem OnTime.replace (h : OnTime c events t) {old m : Member Flight}
    (place : t.swarm.members[k]? = some old) (replaces : Replaces t u k m)
    (counted : Counted t u told) (own : ∀ h ∈ told, h.member? = some k)
    (stands : Stands c t.swarm.isStopping t.swarm.now k
      (tripsOf k events ++ told.filterMap (Happening.trip? k t.swarm.now))
      (landingsOf k events ++ List.replicate (told.count (.landed k)) t.swarm.now) m)
    (hlands : old.phase.isExecuting = true →
      m.phase.isExecuting = true ∨ Happening.landed k ∈ told) :
    OnTime c (events ++ stamped t.swarm.now told) u := by
  have hsize := replaces.size_eq
  have hk : k < t.swarm.size := (List.getElem?_eq_some_iff.1 place).1
  have htrips : ∀ other ≠ k, tripsOf other (events ++ stamped t.swarm.now told) =
      tripsOf other events := by
    intro other hne
    rw [tripsOf_append_stamped, filterMap_trip?_of_own own hne, List.append_nil]
  have hlandings : ∀ other ≠ k, landingsOf other (events ++ stamped t.swarm.now told) =
      landingsOf other events := by
    intro other hne
    rw [landingsOf_append_stamped, count_of_own own (by simpa [Happening.member?] using hne)]
    exact List.append_nil _
  constructor
  case going =>
    rw [replaces.isStopping, counted.now]
    exact h.going
  case stopping =>
    rw [replaces.isStopping, counted.now]
    exact h.stopping
  case spawns =>
    rw [spawnsIn_append_stamped, count_of_own own (by simp [Happening.member?]), hsize, ← h.spawns]
    exact List.append_nil _
  case prompt =>
    rw [hsize]
    exact h.prompt
  case waiting =>
    rw [hsize, replaces.isStopping, counted.now]
    exact h.waiting
  case fresh =>
    intro other hother
    rw [hsize] at hother
    have hne : other ≠ k := by omega
    rw [htrips other hne, hlandings other hne]
    exact h.fresh other hother
  case stands =>
    intro other m' place'
    rw [replaces.members] at place'
    rw [replaces.isStopping, counted.now]
    by_cases hother : other = k
    · subst hother
      rw [List.getElem?_set_self hk] at place'
      cases place'
      rw [tripsOf_append_stamped, landingsOf_append_stamped]
      exact stands
    · rw [List.getElem?_set_ne (Ne.symm hother)] at place'
      rw [htrips other hother, hlandings other hother]
      exact h.stands other m' place'
  case report =>
    rw [replaces.nextReport, counted.now]
    exact h.report
  case started => rw [counted.started, departures_append_stamped, h.started]
  case finished => rw [counted.finished, landings_append_stamped, h.finished]
  case past =>
    intro other landing hlanding
    rw [counted.now]
    rcases mem_landingsOf_append_stamped hlanding with hbefore | rfl
    · exact h.past other landing hbefore
    · exact Nat.le_refl _
  case latest =>
    rw [replaces.isStopping, counted.now, replaces.members]
    intro hstop
    rcases h.latest hstop with hdeadline | ⟨other, hlanding⟩ | ⟨m', hm', hexecuting⟩
    · exact .inl hdeadline
    · refine .inr (.inl ⟨other, ?_⟩)
      rw [landingsOf_append_stamped]
      exact List.mem_append_left _ hlanding
    · -- whoever is on the way is so still, or has just landed
      right
      obtain ⟨other, hother⟩ := List.mem_iff_getElem?.1 hm'
      by_cases heq : other = k
      · subst heq
        rw [place] at hother
        cases hother
        rcases hlands hexecuting with haway | hlanded
        · exact .inr ⟨m, List.mem_iff_getElem?.2 ⟨other, List.getElem?_set_self hk⟩, haway⟩
        · refine .inl ⟨other, ?_⟩
          rw [landingsOf_append_stamped]
          refine List.mem_append_right _ (List.mem_replicate.2 ⟨?_, rfl⟩)
          exact Nat.ne_of_gt (List.count_pos_iff.2 hlanded)
      · refine .inr ⟨m', List.mem_iff_getElem?.2 ⟨other, ?_⟩, hexecuting⟩
        rw [List.getElem?_set_ne (Ne.symm heq)]
        exact hother

/-- The swarm is told to stop, or the screen is drawn: nobody goes anywhere. -/
theorem OnTime.remain (h : OnTime c events t) (members : u.swarm.members = t.swarm.members)
    (counted : Counted t u [])
    (signal : u.swarm.isStopping = t.swarm.isStopping ∨ t.swarm.isStopping = false ∧
      u.swarm.isStopping = true ∧ t.swarm.now = c.test.settings.duration)
    (report : ∀ time, u.nextReport = some time →
      t.swarm.now.nanoseconds ≤ time.nanoseconds ∧ c.test.settings.reportInterval ≠ 0) :
    OnTime c events u := by
  have hsize : u.swarm.size = t.swarm.size := by rw [Swarm.size, members, Swarm.size]
  constructor
  case going =>
    intro hgoing
    rw [counted.now]
    rcases signal with hsame | ⟨-, hstop, -⟩
    · exact h.going (hsame.symm.trans hgoing)
    · rw [hstop] at hgoing
      cases hgoing
  case stopping =>
    intro hstop
    rw [counted.now]
    rcases signal with hsame | ⟨-, -, hnow⟩
    · exact h.stopping (hsame.symm.trans hstop)
    · rw [hnow]
  case spawns =>
    rw [hsize]
    exact h.spawns
  case prompt =>
    rw [hsize]
    exact h.prompt
  case waiting =>
    have hwaiting := h.waiting
    rw [hsize, counted.now]
    rcases signal with hsame | ⟨hgoing, hstop, hnow⟩
    · rw [hsame]
      exact hwaiting
    · rw [hgoing, hnow] at hwaiting
      rw [hstop]
      exact hwaiting
  case fresh =>
    rw [hsize]
    exact h.fresh
  case stands =>
    intro k m place
    rw [members] at place
    have hstands := h.stands k m place
    rw [counted.now]
    rcases signal with hsame | ⟨hgoing, hstop, hnow⟩
    · rw [hsame]
      exact hstands
    · rw [hgoing, hnow] at hstands
      rw [hstop, hnow]
      exact hstands.signal
  case report =>
    rw [counted.now]
    exact report
  case started =>
    rw [counted.started]
    exact h.started
  case finished =>
    rw [counted.finished]
    exact h.finished
  case past =>
    rw [counted.now]
    exact h.past
  case latest =>
    intro hstop
    rw [counted.now, members]
    rcases signal with hsame | ⟨-, -, hnow⟩
    · exact h.latest (hsame.symm.trans hstop)
    · exact .inl hnow

/-- A user is started, and stands at its beginning. -/
theorem OnTime.spawn (h : OnTime c events t) {number : Nat} (going : t.swarm.isStopping = false)
    (isNow : t.swarm.now = c.interval.times t.swarm.size)
    (members : u.swarm.members =
      t.swarm.members ++ [⟨number, c.conditions.words t.swarm.size, .starting⟩])
    (isStopping : u.swarm.isStopping = t.swarm.isStopping) (nextReport : u.nextReport = t.nextReport)
    (counted : Counted t u [.spawned]) :
    OnTime c (events ++ stamped t.swarm.now [.spawned]) u := by
  have hsize : u.swarm.size = t.swarm.size + 1 := by
    rw [Swarm.size, members, List.length_append]
    rfl
  have htrips : ∀ k, tripsOf k (events ++ stamped t.swarm.now [.spawned]) = tripsOf k events := by
    intro k
    rw [tripsOf_append_stamped]
    exact List.append_nil _
  have hlandings : ∀ k, landingsOf k (events ++ stamped t.swarm.now [.spawned]) =
      landingsOf k events := by
    intro k
    rw [landingsOf_append_stamped]
    exact List.append_nil _
  constructor
  case going =>
    rw [isStopping, counted.now]
    exact h.going
  case stopping =>
    rw [isStopping, counted.now]
    exact h.stopping
  case spawns =>
    rw [spawnsIn_append_stamped, h.spawns, hsize, List.range_succ, List.map_append, List.map_singleton,
      ← isNow]
    rfl
  case prompt =>
    intro k hk
    rw [hsize] at hk
    rcases Nat.lt_succ_iff_lt_or_eq.1 hk with hlt | rfl
    · exact h.prompt k hlt
    · rw [← isNow]
      exact h.going going
  case waiting =>
    intro room
    rw [hsize, isStopping, going, counted.now, isNow]
    exact Nat.mul_le_mul_right _ (Nat.le_succ _)
  case fresh =>
    intro k hk
    rw [hsize] at hk
    rw [htrips, hlandings]
    exact h.fresh k (by omega)
  case stands =>
    intro k m place
    rw [members] at place
    rw [isStopping, counted.now, htrips, hlandings]
    rcases Nat.lt_trichotomy k t.swarm.size with hlt | rfl | hgt
    · rw [List.getElem?_append_left hlt] at place
      exact h.stands k m place
    · rw [Swarm.size, List.getElem?_concat_length] at place
      cases place
      obtain ⟨hnone, hnothing⟩ := h.fresh _ (Nat.le_refl t.swarm.size)
      rw [hnone, hnothing]
      exact ⟨_, .home, rfl, rfl, rfl, isNow.symm⟩
    · rw [List.getElem?_eq_none (by rw [List.length_append]; exact hgt)] at place
      cases place
  case report =>
    rw [nextReport, counted.now]
    exact h.report
  case started => rw [counted.started, departures_append_stamped, h.started]
  case finished => rw [counted.finished, landings_append_stamped, h.finished]
  case past =>
    intro k
    rw [hlandings, counted.now]
    exact h.past k
  case latest =>
    rw [isStopping, going]
    rintro ⟨⟩

/-- Whatever happens, it is on time. -/
theorem OnTime.fire (h : OnTime c events t) (moved : Moved c t told u)
    (counted : Counted t u told) : OnTime c (events ++ stamped t.swarm.now told) u := by
  cases moved with
  | signal going isNow members isStopping nextReport =>
    have hremain := h.remain members counted (.inr ⟨going, isStopping, isNow⟩)
      (by rw [nextReport]; exact h.report)
    rw [stamped, List.map_nil, List.append_nil]
    exact hremain
  | report isNow members isStopping nextReport =>
    have hremain := h.remain members counted (.inl isStopping) (by
      intro time htime
      rw [nextReport] at htime
      cases htime
      exact ⟨Nat.le_add_right _ _, (h.report _ isNow).2⟩)
    rw [stamped, List.map_nil, List.append_nil]
    exact hremain
  | spawn going room isNow number members isStopping nextReport =>
    exact h.spawn going isNow members isStopping nextReport counted
  | @enter u k number source task place replaces =>
    refine h.replace place replaces counted (by simp) ?_ (by rintro ⟨⟩)
    have hstands := (h.stands _ _ place).enter task h.stopping
    simpa using hstands
  | depart place going landing replaces =>
    refine h.replace place replaces counted (by simp [Happening.member?]) ?_ (fun _ => .inl rfl)
    have hstands := (h.stands _ _ place).depart _ (h.going going) landing
    simpa using hstands
  | @skip u k number source task next place going replaces =>
    refine h.replace place replaces counted (by simp [Happening.member?]) ?_
      (by rintro ⟨⟩)
    have hstands := (h.stands _ _ place).skip next (h.going going) h.stopping
    simpa [List.filterMap_cons] using hstands
  | @land u k number source task next flight place isNow replaces =>
    refine h.replace place replaces counted (by simp [Happening.member?]) ?_
      (fun _ => .inr (List.mem_singleton_self _))
    have hstands := (h.stands _ _ place).land next h.stopping isNow
    simpa [List.filterMap_cons] using hstands
  | leave place stopping replaces =>
    refine h.replace place replaces counted (by simp) ?_ (by rintro ⟨⟩)
    have hstands := h.stands _ _ place
    rw [stopping] at hstands ⊢
    simpa using hstands.leave

end Fire

/-- A move lets the time come for what is due first, and then that happens. -/
theorem OnTime.exists_moved (sound : c.test.IsSound) (h : OnTime c events t) (move : Moves c t u) :
    ∃ told, t.swarm.now.nanoseconds ≤ u.swarm.now.nanoseconds ∧
      OnTime c events (t.elapse u.swarm.now) ∧ Moved c (t.elapse u.swarm.now) told u ∧
      Counted (t.elapse u.swarm.now) u told := by
  cases move with
  | fire going entry isDue isFirst =>
    have hdue := isDue_of_mem_due isDue
    have elapsed := h.elapse going hdue fun other timer hother => isFirst _ hother.mem_due
    obtain ⟨moved, counted⟩ := moved_of_isDue sound hdue.elapse
    have hnow : (t.step c entry).swarm.now = entry.1 := counted.now
    rw [hnow]
    exact ⟨_, h.le_due hdue, elapsed, moved, counted⟩

/-- Whatever a run comes to, it is on time. -/
theorem onTime_of_chronicle (sound : c.test.IsSound) {world : ω} (h : Chronicle c world events t) :
    OnTime c events t := by
  induction h with
  | start => exact onTime_initial c world
  | @next events t before going entry isDue isFirst ih =>
    have hdue := isDue_of_mem_due isDue
    have elapsed := ih.elapse going hdue fun other timer hother => isFirst _ hother.mem_due
    obtain ⟨moved, counted⟩ := moved_of_isDue sound hdue.elapse
    have hfire := elapsed.fire moved counted
    exact hfire

/-! ### When everybody has left -/

/-- A user has taken the samples of its itinerary, and all of them are over; the next one would not
have been started before the deadline. -/
def Served (c : Course ω) (events : List Event) (k : Nat) : Prop :=
  ∃ free, Itinerary (c.interval.times k) (waitsOf c k) c.test.settings.duration (tripsOf k events)
      free ∧
    landingsOf k events = (tripsOf k events).map Trip.landing ∧
    c.test.settings.duration.nanoseconds ≤
      (free + waitsOf c k (tripsOf k events).length).nanoseconds

/-- The schedule was kept: every user was started at its time unless that is after the deadline, every
one of them was served, all that was started is counted, and nothing happened after the deadline
but landings. -/
structure Kept (c : Course ω) (events : List Event) (t : Timeline ω) : Prop where
  spawns : spawnsIn events = (List.range t.swarm.users.spawned).map c.interval.times
  room : t.swarm.users.spawned ≤ c.test.settings.users
  prompt : ∀ k < t.swarm.users.spawned,
    (c.interval.times k).nanoseconds ≤ c.test.settings.duration.nanoseconds
  everybody : ∀ k < c.test.settings.users,
    (c.interval.times k).nanoseconds < c.test.settings.duration.nanoseconds →
      k < t.swarm.users.spawned
  served : ∀ k < t.swarm.users.spawned, Served c events k
  nobody : ∀ k, t.swarm.users.spawned ≤ k → tripsOf k events = [] ∧ landingsOf k events = []
  started : t.swarm.requests.started =
    ∑ k ∈ Finset.range t.swarm.users.spawned, (tripsOf k events).length
  counted : t.swarm.requests.started = t.swarm.requests.succeeded + t.swarm.requests.failed ∧
    t.swarm.requests.inFlight = 0 ∧ t.swarm.users.active = 0
  deadline : c.test.settings.duration.nanoseconds ≤ t.swarm.now.nanoseconds
  past : ∀ k time, time ∈ landingsOf k events → time.nanoseconds ≤ t.swarm.now.nanoseconds
  latest : t.swarm.now = c.test.settings.duration ∨ ∃ k, t.swarm.now ∈ landingsOf k events

/-- A sample that is told of is the sample of one user. -/
theorem Happening.sum_trip? {n : Nat} (h : Happening) (time : Duration)
    (nobody : ∀ k, n ≤ k → h.trip? k time = none) :
    ∑ k ∈ Finset.range n, (h.trip? k time).toList.length = h.isDeparture.toNat := by
  cases h with
  | departed j took =>
    have hj : j < n := by
      refine Nat.lt_of_not_le fun hle => ?_
      have hnone := nobody j hle
      rw [trip?_departed_self] at hnone
      cases hnone
    have hone : ∀ k, ((departed j took).trip? k time).toList.length = if j = k then 1 else 0 := by
      intro k
      by_cases hk : j = k <;> simp [trip?, hk]
    rw [Finset.sum_congr rfl fun k _ => hone k, Finset.sum_ite_eq, if_pos (Finset.mem_range.2 hj)]
    rfl
  | spawned => exact Finset.sum_eq_zero fun k _ => rfl
  | landed j => exact Finset.sum_eq_zero fun k _ => rfl

/-- What was started is what all the users started. -/
theorem departures_eq_sum {n : Nat} (nobody : ∀ k, n ≤ k → tripsOf k events = []) :
    departures events = ∑ k ∈ Finset.range n, (tripsOf k events).length := by
  induction events with
  | nil => simp [departures, tripsOf]
  | cons e rest ih =>
    have hcons : ∀ k, tripsOf k (e :: rest) = (e.2.trip? k e.1).toList ++ tripsOf k rest := by
      intro k
      rw [tripsOf, List.filterMap_cons, tripsOf]
      cases e.2.trip? k e.1 <;> rfl
    have hnone : ∀ k, n ≤ k → (e.2.trip? k e.1).toList = [] ∧ tripsOf k rest = [] := fun k hk =>
      List.append_eq_nil_iff.1 ((hcons k).symm.trans (nobody k hk))
    have hfirst := e.2.sum_trip? e.1 fun k hk => by simpa using (hnone k hk).1
    calc departures (e :: rest)
        = e.2.isDeparture.toNat + departures rest := by
          cases hdeparture : e.2.isDeparture <;> simp [departures, hdeparture, Nat.add_comm]
      _ = ∑ k ∈ Finset.range n, (e.2.trip? k e.1).toList.length +
            ∑ k ∈ Finset.range n, (tripsOf k rest).length := by
          rw [hfirst, ih fun k hk => (hnone k hk).2]
      _ = ∑ k ∈ Finset.range n, (tripsOf k (e :: rest)).length := by
          rw [← Finset.sum_add_distrib]
          exact Finset.sum_congr rfl fun k _ => by rw [hcons, List.length_append]

theorem idle_of_isOver {m : Member Flight} (gone : m.phase.isOver = true) :
    m.phase.isExecuting = false := by
  obtain ⟨number, source, phase⟩ := m
  cases phase with
  | executing task flight => cases gone
  | _ => rfl

/-- Whoever has left is served. -/
theorem Stands.served {isStopping : Bool} {now : Duration} {k : Nat} {m : Member Flight}
    (h : Stands c isStopping now k (tripsOf k events) (landingsOf k events) m)
    (gone : m.phase.isOver = true) : Served c events k := by
  obtain ⟨number, source, phase⟩ := m
  obtain ⟨free, itinerary, hphase⟩ := h
  cases phase with
  | starting => cases gone
  | thinking task wake => cases gone
  | executing task flight => cases gone
  | stopped => exact ⟨free, itinerary, hphase⟩
  | crashed fault => exact hphase.elim

theorem kept_of_chronicle (sound : c.test.IsSound) {world : ω} (h : Chronicle c world events t)
    (done : t.swarm.isDone = true) : Kept c events t := by
  have onTime := onTime_of_chronicle sound h
  have balanced := balanced_of_reaches sound h.reaches
  obtain ⟨stopping, hover⟩ : t.swarm.isStopping = true ∧
      ∀ m ∈ t.swarm.members, m.phase.isOver = true := by
    simpa [Swarm.isDone] using done
  obtain ⟨hactive, hflight, hstarted⟩ := balanced.closed done
  have hspawned := balanced.spawned
  constructor
  case spawns =>
    rw [hspawned]
    exact onTime.spawns
  case room =>
    rw [hspawned]
    exact balanced.room
  case prompt =>
    rw [hspawned]
    exact onTime.prompt
  case everybody =>
    intro k hk hbefore
    rw [hspawned]
    refine Nat.lt_of_not_le fun hle => ?_
    have hwaiting := onTime.waiting (Nat.lt_of_le_of_lt hle hk)
    rw [stopping, if_pos rfl] at hwaiting
    have hmono : (c.interval.times t.swarm.size).nanoseconds ≤ (c.interval.times k).nanoseconds :=
      Nat.mul_le_mul_right _ hle
    omega
  case served =>
    intro k hk
    rw [hspawned] at hk
    exact (onTime.stands k _ (List.getElem?_eq_getElem hk)).served (hover _ (List.getElem_mem hk))
  case nobody =>
    rw [hspawned]
    exact onTime.fresh
  case started =>
    rw [hspawned, onTime.started]
    exact departures_eq_sum fun k hk => (onTime.fresh k hk).1
  case counted => exact ⟨hstarted, hflight, hactive⟩
  case deadline => exact onTime.stopping stopping
  case past => exact onTime.past
  case latest =>
    rcases onTime.latest stopping with hdeadline | hlanding | ⟨m, hm, hexecuting⟩
    · exact .inl hdeadline
    · exact .inr hlanding
    · rw [idle_of_isOver (hover m hm)] at hexecuting
      cases hexecuting

/-- In a schedule that was kept, the first sample of a user is started when its first wait is over, and
every other one when the next wait after the landing before it is over. -/
theorem Kept.departure_eq (h : Kept c events t) {k n : Nat} {trip : Trip}
    (hk : k < t.swarm.users.spawned) (htrip : (tripsOf k events)[n]? = some trip) :
    trip.departure.nanoseconds ≤ c.test.settings.duration.nanoseconds ∧
      ((c.interval.times k :: landingsOf k events)[n]?).map (fun time => time + waitsOf c k n) =
        some trip.departure := by
  obtain ⟨free, itinerary, hlandings, -⟩ := h.served k hk
  rw [hlandings]
  exact itinerary.departure_eq htrip

end Timeline

end QuerySwarm
