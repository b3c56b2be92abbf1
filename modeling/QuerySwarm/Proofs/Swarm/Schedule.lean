import Mathlib.Data.List.Induction
import QuerySwarm.Proofs.Swarm.Moves

/-!
# The schedule of a run

A run goes by its timers, so everything in it has its time: the `k`-th user is started after `k`
intervals, its first sample is started when its first wait is over, and every other one when the
next wait after the sample before it is over, as long as that is not after the deadline. Only what
falls on the deadline itself may or may not happen.

* `Itinerary`: the samples that a user takes, by their times, as the waits and what the samples take
  determine them.
* `Timeline.Chronicle`: what a run has come to, with all that happened on the way.
* `Timeline.Stands`: where a user is, by the samples that it was told to take. It says so still when
  time passes (`Timeline.Stands.elapse`) and when the user does something (`Timeline.Stands.depart`,
  `Timeline.Stands.land`).
-/

namespace QuerySwarm

/-! ### Itineraries -/

/-- A sample of a user: when it is started, and how long it takes. -/
structure Trip where
  departure : Duration
  took : Duration
  deriving DecidableEq, Repr

def Trip.landing (t : Trip) : Duration := t.departure + t.took

/-- The samples of a user that starts at a time and waits before each of them, and when it is free to
wait again. None is started after the deadline. -/
inductive Itinerary (start : Duration) (wait : Nat → Duration) (deadline : Duration) :
    List Trip → Duration → Prop
  | home : Itinerary start wait deadline [] start
  | trip {trips : List Trip} {free : Duration} (took : Duration)
      (before : Itinerary start wait deadline trips free)
      (inTime : (free + wait trips.length).nanoseconds ≤ deadline.nanoseconds) :
      Itinerary start wait deadline (trips ++ [⟨free + wait trips.length, took⟩])
        (free + wait trips.length + took)

namespace Itinerary

variable {start deadline free : Duration} {wait : Nat → Duration} {trips : List Trip}

/-- A user is free again when its last sample is over. -/
theorem free_eq (h : Itinerary start wait deadline trips free) :
    free = (trips.getLast?.map Trip.landing).getD start := by
  cases h with
  | home => rfl
  | trip took before inTime => simp [Trip.landing]

/-- The first sample is started when the first wait is over, and every other one when the next wait
after the sample before it is over. -/
theorem departure_eq (h : Itinerary start wait deadline trips free) {n : Nat} {trip : Trip}
    (htrip : trips[n]? = some trip) :
    trip.departure.nanoseconds ≤ deadline.nanoseconds ∧
      ((start :: trips.map Trip.landing)[n]?).map (fun time => time + wait n) =
        some trip.departure := by
  induction h with
  | home => cases htrip
  | @trip trips free took before inTime ih =>
    rcases Nat.lt_or_ge n trips.length with hlt | hge
    · rw [List.getElem?_append_left hlt] at htrip
      obtain ⟨hle, heq⟩ := ih htrip
      refine ⟨hle, ?_⟩
      rw [List.map_append, ← List.cons_append, List.getElem?_append_left (by simp; omega)]
      exact heq
    · have hn : n = trips.length := by
        have hlength := (List.getElem?_eq_some_iff.1 htrip).1
        rw [List.length_append, List.length_singleton] at hlength
        omega
      subst hn
      rw [List.getElem?_concat_length] at htrip
      cases htrip
      refine ⟨inTime, ?_⟩
      have hfree := before.free_eq
      rw [List.map_append, ← List.cons_append, List.getElem?_append_left (by simp)]
      cases trips using List.reverseRecOn with
      | nil =>
        rw [hfree]
        rfl
      | append_singleton rest last _ =>
        rw [hfree]
        simp

/-- Whoever waits so long before every sample has waited for all of them, and the last one was started
before the deadline. -/
theorem le_free {least : Nat} (hwait : ∀ n, least ≤ (wait n).nanoseconds)
    (h : Itinerary start wait deadline trips free) :
    start.nanoseconds + trips.length * least ≤ free.nanoseconds ∧
      (trips ≠ [] → start.nanoseconds + trips.length * least ≤ deadline.nanoseconds) := by
  induction h with
  | home =>
    rw [List.length_nil, Nat.zero_mul]
    exact ⟨Nat.le_refl _, fun hne => absurd rfl hne⟩
  | @trip trips free took before inTime ih =>
    have hdeparture : start.nanoseconds + (trips.length + 1) * least ≤
        (free + wait trips.length).nanoseconds := by
      rw [Nat.add_one_mul, ← Nat.add_assoc]
      exact Nat.add_le_add ih.1 (hwait trips.length)
    rw [List.length_append, List.length_singleton]
    exact ⟨Nat.le_trans hdeparture (Nat.le_add_right _ _), fun _ => Nat.le_trans hdeparture inTime⟩

/-- Whoever comes in time takes a sample. -/
theorem ne_nil (h : Itinerary start wait deadline trips free)
    (early : start.nanoseconds + (wait 0).nanoseconds < deadline.nanoseconds)
    (late : deadline.nanoseconds ≤ (free + wait trips.length).nanoseconds) : trips ≠ [] := by
  cases h with
  | home => exact absurd late (Nat.not_le_of_lt early)
  | trip took before inTime => exact List.append_ne_nil_of_right_ne_nil _ (List.cons_ne_nil _ _)

end Itinerary

/-! ### What is told of a run -/

namespace Timeline

variable {ω : Type} {c : Course ω}

/-- Something that happened, with its time. -/
abbrev Event := Duration × Happening

def stamped (time : Duration) (told : List Happening) : List Event := told.map fun h => (time, h)

/-- When users were started. -/
def spawnsIn (events : List Event) : List Duration :=
  events.filterMap fun e => if e.2 = .spawned then some e.1 else none

def Happening.trip? (k : Nat) (time : Duration) : Happening → Option Trip
  | .departed j took => if j = k then some ⟨time, took⟩ else none
  | _ => none

@[simp] theorem Happening.trip?_departed_self (k : Nat) (time took : Duration) :
    (Happening.departed k took).trip? k time = some ⟨time, took⟩ := if_pos rfl

@[simp] theorem Happening.trip?_landed (j k : Nat) (time : Duration) :
    (Happening.landed j).trip? k time = none := rfl

/-- The samples that a user started. -/
def tripsOf (k : Nat) (events : List Event) : List Trip :=
  events.filterMap fun e => e.2.trip? k e.1

/-- When samples of a user were over. -/
def landingsOf (k : Nat) (events : List Event) : List Duration :=
  events.filterMap fun e => if e.2 = .landed k then some e.1 else none

def departures (events : List Event) : Nat := events.countP fun e => e.2.isDeparture

def landings (events : List Event) : Nat := events.countP fun e => e.2.isLanding

/-- What a run can come to, whatever comes first of what is due at once, and what happened. -/
inductive Chronicle (c : Course ω) (world : ω) : List Event → Timeline ω → Prop
  | start : Chronicle c world [] (initial c.test world)
  | next {events : List Event} {t : Timeline ω} (before : Chronicle c world events t)
      (going : t.swarm.isDone = false) (entry : Duration × Timer) (isDue : entry ∈ t.due c)
      (isFirst : ∀ other ∈ t.due c, entry.1.nanoseconds ≤ other.1.nanoseconds) :
      Chronicle c world (events ++ stamped entry.1 (happenings c t entry.2)) (t.step c entry)

theorem exists_chronicle_of_reaches {world : ω} {t : Timeline ω} (h : Reaches c world t) :
    ∃ events, Chronicle c world events t := by
  induction h with
  | start => exact ⟨[], .start⟩
  | next _ move ih =>
    obtain ⟨events, before⟩ := ih
    cases move with
    | fire going entry isDue isFirst => exact ⟨_, .next before going entry isDue isFirst⟩

theorem Chronicle.reaches {world : ω} {events : List Event} {t : Timeline ω}
    (h : Chronicle c world events t) : Reaches c world t := by
  induction h with
  | start => exact .start
  | next _ going entry isDue isFirst ih => exact .next ih (.fire going entry isDue isFirst)

theorem balanced_of_reaches (sound : c.test.IsSound) {world : ω} {t : Timeline ω}
    (h : Reaches c world t) : Swarm.Balanced c.test t.swarm := by
  obtain ⟨actions, trace, -⟩ := exists_trace_of_reaches sound h
  exact Swarm.balanced_of_trace sound trace (Swarm.balanced_empty c.test)

/-! ### Where a user stands -/

/-- The waits of a user, one before each of its samples. -/
def waitsOf (c : Course ω) (k : Nat) (n : Nat) : Duration :=
  c.test.waitAt (c.conditions.words k) n

/-- The words that a user has left after so many waits. -/
def sourceOf (c : Course ω) (k : Nat) (n : Nat) : WordSource :=
  c.test.sourceAfter (c.conditions.words k) n

/-- A user is where its itinerary has led it, and the landings are those of its samples, but for one
that is on its way. What it does next is not due before now, and whoever left was not due before the
deadline. -/
def Stands (c : Course ω) (isStopping : Bool) (now : Duration) (k : Nat) (trips : List Trip)
    (landings : List Duration) (m : Member Flight) : Prop :=
  ∃ free, Itinerary (c.interval.times k) (waitsOf c k) c.test.settings.duration trips free ∧
    match m.phase with
    | .starting =>
      trips = [] ∧ landings = [] ∧ m.source = sourceOf c k 0 ∧ free = now
    | .thinking _ wake =>
      landings = trips.map Trip.landing ∧ m.source = sourceOf c k (trips.length + 1) ∧
        wake = free + waitsOf c k trips.length ∧
        (if isStopping then c.test.settings.duration else now).nanoseconds ≤ wake.nanoseconds
    | .executing _ flight =>
      trips.map Trip.landing = landings ++ [free] ∧ m.source = sourceOf c k trips.length ∧
        flight.landing = free ∧ now.nanoseconds ≤ free.nanoseconds
    | .stopped =>
      landings = trips.map Trip.landing ∧
        c.test.settings.duration.nanoseconds ≤ (free + waitsOf c k trips.length).nanoseconds
    | .crashed _ => False

/-! ### Readings of what is told -/

section Told

variable (events : List Event) (time : Duration) (told : List Happening) (k : Nat)

theorem tripsOf_append_stamped : tripsOf k (events ++ stamped time told) =
    tripsOf k events ++ told.filterMap (Happening.trip? k time) := by
  simp only [tripsOf, stamped, List.filterMap_append, List.filterMap_map, Function.comp_def]

/-- What is picked out of things told at one time is that time, so many times. -/
theorem filterMap_stamped (h : Happening) :
    ((stamped time told).filterMap fun e => if e.2 = h then some e.1 else none) =
      List.replicate (told.count h) time := by
  induction told with
  | nil => rfl
  | cons first rest ih =>
    by_cases heq : first = h
    · subst heq
      rw [List.count_cons_self, List.replicate_succ, ← ih]
      simp [stamped]
    · rw [List.count_cons_of_ne heq, ← ih]
      simp [stamped, heq]

theorem landingsOf_append_stamped : landingsOf k (events ++ stamped time told) =
    landingsOf k events ++ List.replicate (told.count (.landed k)) time := by
  rw [landingsOf, List.filterMap_append, filterMap_stamped]
  rfl

theorem spawnsIn_append_stamped : spawnsIn (events ++ stamped time told) =
    spawnsIn events ++ List.replicate (told.count .spawned) time := by
  rw [spawnsIn, List.filterMap_append, filterMap_stamped]
  rfl

theorem departures_append_stamped : departures (events ++ stamped time told) =
    departures events + told.countP Happening.isDeparture := by
  rw [departures, List.countP_append, stamped, List.countP_map]
  rfl

theorem landings_append_stamped : landings (events ++ stamped time told) =
    landings events + told.countP Happening.isLanding := by
  rw [landings, List.countP_append, stamped, List.countP_map]
  rfl

end Told

namespace Stands

variable {isStopping : Bool} {now : Duration} {k number : Nat} {trips : List Trip}
  {landings : List Duration} {m : Member Flight} {source : WordSource} {task : Task}

/-- What a user does next is not due before now. -/
theorem le_due (h : Stands c isStopping now k trips landings m) {time : Duration}
    (isDue : m.due? isStopping now = some time) : now.nanoseconds ≤ time.nanoseconds := by
  obtain ⟨number, source, phase⟩ := m
  obtain ⟨free, -, hphase⟩ := h
  cases phase with
  | starting =>
    cases isDue
    exact Nat.le_refl _
  | thinking task wake =>
    cases isDue
    cases isStopping with
    | true => exact Nat.le_refl _
    | false => exact hphase.2.2.2
  | executing task flight =>
    cases isDue
    obtain ⟨-, -, rfl, hle⟩ := hphase
    exact hle
  | stopped => cases isDue
  | crashed fault => exact hphase.elim

/-- Time may pass up to what is due. -/
theorem elapse (h : Stands c isStopping now k trips landings m) {time : Duration}
    (hle : now.nanoseconds ≤ time.nanoseconds)
    (isFirst : ∀ other, m.due? isStopping now = some other →
      time.nanoseconds ≤ other.nanoseconds) :
    Stands c isStopping time k trips landings m := by
  obtain ⟨number, source, phase⟩ := m
  obtain ⟨free, itinerary, hphase⟩ := h
  refine ⟨free, itinerary, ?_⟩
  cases phase with
  | starting =>
    obtain ⟨htrips, hlandings, hsource, rfl⟩ := hphase
    have heq : free = time := congrArg Duration.mk (Nat.le_antisymm hle (isFirst _ rfl))
    exact ⟨htrips, hlandings, hsource, heq⟩
  | thinking task wake =>
    obtain ⟨hlandings, hsource, hwake, hbound⟩ := hphase
    refine ⟨hlandings, hsource, hwake, ?_⟩
    cases isStopping with
    | true => exact hbound
    | false => exact isFirst _ rfl
  | executing task flight =>
    obtain ⟨htrips, hsource, rfl, -⟩ := hphase
    exact ⟨htrips, hsource, rfl, isFirst _ rfl⟩
  | stopped => exact hphase
  | crashed fault => exact hphase

/-- The swarm is told to stop at the deadline. -/
theorem signal (h : Stands c false c.test.settings.duration k trips landings m) :
    Stands c true c.test.settings.duration k trips landings m := by
  obtain ⟨number, source, phase⟩ := m
  cases phase <;> exact h

theorem enter (task : Task)
    (sane : isStopping = true → c.test.settings.duration.nanoseconds ≤ now.nanoseconds)
    (h : Stands c isStopping now k trips landings ⟨number, source, .starting⟩) :
    Stands c isStopping now k trips landings
      ⟨number, c.test.restFrom source, .thinking task (now + c.test.waitFrom source)⟩ := by
  obtain ⟨free, itinerary, rfl, rfl, rfl, rfl⟩ := h
  refine ⟨free, itinerary, rfl, rfl, rfl, ?_⟩
  cases isStopping with
  | true => exact Nat.le_trans (sane rfl) (Nat.le_add_right _ _)
  | false => exact Nat.le_add_right _ _

theorem depart (flight : Flight)
    (inTime : now.nanoseconds ≤ c.test.settings.duration.nanoseconds)
    (hlanding : flight.landing = now + flight.took)
    (h : Stands c isStopping now k trips landings ⟨number, source, .thinking task now⟩) :
    Stands c isStopping now k (trips ++ [⟨now, flight.took⟩]) landings
      ⟨number, source, .executing task flight⟩ := by
  obtain ⟨free, itinerary, rfl, hsource, hwake, -⟩ := h
  have trip := Itinerary.trip flight.took itinerary (by rw [← hwake]; exact inTime)
  rw [← hwake] at trip
  refine ⟨_, trip, ?_, ?_, hlanding, Nat.le_add_right _ _⟩
  · rw [List.map_append]
    rfl
  · rw [List.length_append]
    exact hsource

theorem land {flight : Flight} (next : Task)
    (sane : isStopping = true → c.test.settings.duration.nanoseconds ≤ now.nanoseconds)
    (isNow : flight.landing = now)
    (h : Stands c isStopping now k trips landings ⟨number, source, .executing task flight⟩) :
    Stands c isStopping now k trips (landings ++ [now])
      ⟨number, c.test.restFrom source, .thinking next (now + c.test.waitFrom source)⟩ := by
  obtain ⟨free, itinerary, htrips, hsource, hfree, -⟩ := h
  subst hsource
  obtain rfl : free = now := hfree.symm.trans isNow
  refine ⟨free, itinerary, htrips.symm, rfl, rfl, ?_⟩
  cases isStopping with
  | true => exact Nat.le_trans (sane rfl) (Nat.le_add_right _ _)
  | false => exact Nat.le_add_right _ _

/-- A sample that takes no time is started and over at once. -/
theorem skip (next : Task)
    (inTime : now.nanoseconds ≤ c.test.settings.duration.nanoseconds)
    (sane : isStopping = true → c.test.settings.duration.nanoseconds ≤ now.nanoseconds)
    (h : Stands c isStopping now k trips landings ⟨number, source, .thinking task now⟩) :
    Stands c isStopping now k (trips ++ [⟨now, .zero⟩]) (landings ++ [now])
      ⟨number, c.test.restFrom source, .thinking next (now + c.test.waitFrom source)⟩ := by
  let flight : Flight := ⟨now, .zero, .failed (.status 0)⟩
  have away : Stands c isStopping now k (trips ++ [⟨now, .zero⟩]) landings
      ⟨number, source, .executing task flight⟩ := h.depart flight inTime rfl
  exact away.land next sane rfl

theorem leave {wake : Duration}
    (h : Stands c true now k trips landings ⟨number, source, .thinking task wake⟩) :
    Stands c true now k trips landings ⟨number, source, .stopped⟩ := by
  obtain ⟨free, itinerary, hlandings, -, rfl, hle⟩ := h
  exact ⟨free, itinerary, hlandings, hle⟩

end Stands

end Timeline

end QuerySwarm
