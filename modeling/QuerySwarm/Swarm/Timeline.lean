import QuerySwarm.Swarm.Basic
import QuerySwarm.Report.Console

/-!
# A swarm in time

Here every action has its time: the `k`-th user is started after `k` intervals, a user wakes up when
its wait is over, a request lands when it is over, the screen is drawn at every report, and at the
deadline the swarm is told to stop. What is due first happens first. Of what is due at once, the
deadline goes first, then the users by their numbers, then a start, then a report.

What the run cannot know beforehand is a parameter, its conditions: the words that users choose with,
what comes of a request and how long it takes, and what the stopwatch and the machine show.

Times are instants since the start, without an end of the clock: whatever wait is drawn, the instant
at which it is over is taken to be one that the clock has. A timer that is set beyond the clock,
which goes off after some thirty years instead, is left out.

Main statements: what happens next is due, and nothing is due before it (`Timeline.mem_due_of_next?`,
`Timeline.le_of_next?`), a run that ends has ended (`Timeline.isDone_of_run`), and more steps
than it takes change nothing (`Timeline.run_of_le`).
-/

namespace QuerySwarm

/-- A request on its way: when it lands, how long it takes, and what comes of it. -/
structure Flight where
  landing : Duration
  took : Duration
  outcome : Outcome

/-- What a run cannot know beforehand. The world is whatever the outcomes of requests depend on. -/
structure Conditions (ω : Type) where
  words : Nat → WordSource
  perform : ω → Nat → Task → Flight × ω
  stopwatch : Duration → Duration
  machine : Duration → SystemFigures

/-- A run under way. -/
structure Timeline (ω : Type) where
  swarm : Swarm Flight
  nextReport : Option Duration
  world : ω

/-- What can be due. -/
inductive Timer where
  | deadline
  | member (k : Nat)
  | spawn
  | report
  deriving DecidableEq, Repr

/-- What stays the same through a run. -/
structure Course (ω : Type) where
  test : LoadTest
  interval : Duration
  conditions : Conditions ω

/-- A wait that is over, or a request that lands; whoever was just started moves on at once, and so
does whoever thinks when the swarm was told to stop. -/
def Member.due? (isStopping : Bool) (now : Duration) (m : Member Flight) : Option Duration :=
  match m.phase with
  | .starting => some now
  | .thinking _ wake => some (if isStopping then now else wake)
  | .executing _ flight => some flight.landing
  | .stopped => none
  | .crashed _ => none

/-- Of things that are due, the first one that nothing comes before. -/
def earliest? : List (Duration × Timer) → Option (Duration × Timer)
  | [] => none
  | entry :: rest =>
    match earliest? rest with
    | none => some entry
    | some other =>
      if other.1.nanoseconds < entry.1.nanoseconds then some other else some entry

theorem mem_of_earliest? {entries : List (Duration × Timer)} {entry : Duration × Timer}
    (h : earliest? entries = some entry) : entry ∈ entries := by
  induction entries generalizing entry with
  | nil => cases h
  | cons first rest ih =>
    unfold earliest? at h
    split at h
    · cases h
      exact List.mem_cons_self
    · next other hother =>
      split at h
      · cases h
        exact List.mem_cons_of_mem _ (ih hother)
      · cases h
        exact List.mem_cons_self

theorem earliest?_eq_none_iff {entries : List (Duration × Timer)} :
    earliest? entries = none ↔ entries = [] := by
  cases entries with
  | nil => simp [earliest?]
  | cons first rest =>
    unfold earliest?
    split
    · simp
    · split <;> simp

theorem le_of_earliest? {entries : List (Duration × Timer)} {entry : Duration × Timer}
    (h : earliest? entries = some entry) :
    ∀ other ∈ entries, entry.1.nanoseconds ≤ other.1.nanoseconds := by
  induction entries generalizing entry with
  | nil => cases h
  | cons first rest ih =>
    unfold earliest? at h
    split at h
    · next hnone =>
      cases h
      rw [earliest?_eq_none_iff] at hnone
      simp [hnone]
    · next found hfound =>
      have least := ih hfound
      intro other hmem
      split at h
      · next hlt =>
        cases h
        rcases List.mem_cons.1 hmem with rfl | hrest
        · exact Nat.le_of_lt hlt
        · exact least _ hrest
      · next hnot =>
        cases h
        rcases List.mem_cons.1 hmem with rfl | hrest
        · exact Nat.le_refl _
        · exact Nat.le_trans (Nat.le_of_not_lt hnot) (least _ hrest)

namespace Timeline

variable {ω : Type}

/-- Before anything happened. The screen is first drawn after one interval of reports. -/
def initial (test : LoadTest) (world : ω) : Timeline ω where
  swarm := .empty
  nextReport :=
    if test.settings.reportInterval = 0 then none else some (.ofSeconds test.settings.reportInterval)
  world := world

/-! ### What is due -/

/-- When the swarm is told to stop, if it was not yet. -/
def deadlineDue (c : Course ω) (t : Timeline ω) : List (Duration × Timer) :=
  if t.swarm.isStopping then [] else [(c.test.settings.duration, .deadline)]

def membersDue (t : Timeline ω) : List (Duration × Timer) :=
  t.swarm.members.zipIdx.filterMap fun entry =>
    (entry.1.due? t.swarm.isStopping t.swarm.now).map fun time => (time, .member entry.2)

/-- When the next user is started, if one is. -/
def spawnDue (c : Course ω) (t : Timeline ω) : List (Duration × Timer) :=
  if !t.swarm.isStopping && decide (t.swarm.size < c.test.settings.users) then
    [(c.interval.times t.swarm.size, .spawn)]
  else []

def reportDue (t : Timeline ω) : List (Duration × Timer) :=
  t.nextReport.toList.map fun time => (time, .report)

def due (c : Course ω) (t : Timeline ω) : List (Duration × Timer) :=
  t.deadlineDue c ++ t.membersDue ++ t.spawnDue c ++ t.reportDue

/-- What happens next: nothing, when everybody has left. -/
def next? (c : Course ω) (t : Timeline ω) : Option (Duration × Timer) :=
  if t.swarm.isDone then none else earliest? (t.due c)

theorem mem_due_of_next? {c : Course ω} {t : Timeline ω} {entry : Duration × Timer}
    (h : t.next? c = some entry) : entry ∈ t.due c := by
  unfold next? at h
  split at h
  · cases h
  · exact mem_of_earliest? h

theorem le_of_next? {c : Course ω} {t : Timeline ω} {entry : Duration × Timer}
    (h : t.next? c = some entry) :
    ∀ other ∈ t.due c, entry.1.nanoseconds ≤ other.1.nanoseconds := by
  unfold next? at h
  split at h
  · cases h
  · exact le_of_earliest? h

/-! ### What happens -/

/-- A member wakes up and starts a sample; one that has nothing to send is over at once. -/
def wake (c : Course ω) (t : Timeline ω) (k : Nat) (task : Task) : Timeline ω :=
  let performed := c.conditions.perform t.world k task
  let flight := { performed.1 with landing := t.swarm.now + performed.1.took }
  let over? := if flight.outcome.isUnsent then some (flight.outcome, flight.took) else none
  { t with
    swarm := t.swarm.wake c.test k flight over?
    world := performed.2 }

def advance (c : Course ω) (t : Timeline ω) (k : Nat) : Timeline ω :=
  match t.swarm.phase? k with
  | some .starting => { t with swarm := t.swarm.enter c.test k }
  | some (.thinking task _) =>
    if t.swarm.isStopping then { t with swarm := t.swarm.halt k } else t.wake c k task
  | some (.executing _ flight) =>
    { t with swarm := t.swarm.finish c.test k flight.outcome flight.took }
  | _ => t

/-- The screen is drawn, and is due again after an interval. -/
def draw (c : Course ω) (t : Timeline ω) : Timeline ω :=
  let elapsed := c.conditions.stopwatch t.swarm.now
  { t with
    swarm := t.swarm.draw (c.conditions.machine t.swarm.now) fun tally => tally.liveReport elapsed
    nextReport := some (t.swarm.now + .ofSeconds c.test.settings.reportInterval) }

def fire (c : Course ω) (t : Timeline ω) : Timer → Timeline ω
  | .deadline => { t with swarm := t.swarm.signal .elapsed }
  | .member k => t.advance c k
  | .spawn => { t with swarm := t.swarm.spawn c.test (c.conditions.words t.swarm.size) }
  | .report => t.draw c

/-- The time comes, and what was due happens. -/
def step (c : Course ω) (t : Timeline ω) (entry : Duration × Timer) : Timeline ω :=
  fire c { t with swarm := { t.swarm with now := entry.1 } } entry.2

/-- Go on to the end, for so many steps at most. -/
def run (c : Course ω) : Nat → Timeline ω → Option (Timeline ω)
  | limit, t =>
    match t.next? c with
    | none => some t
    | some entry =>
      match limit with
      | 0 => none
      | limit + 1 => run c limit (t.step c entry)

/-- A member for which nothing is due does nothing any more. -/
theorem isOver_of_due?_eq_none {isStopping : Bool} {now : Duration} {m : Member Flight}
    (h : m.due? isStopping now = none) : m.phase.isOver = true := by
  unfold Member.due? at h
  split at h <;> simp_all [Phase.isOver]

/-- Nothing happens any more exactly when everybody has left. -/
theorem next?_eq_none_iff {c : Course ω} {t : Timeline ω} :
    t.next? c = none ↔ t.swarm.isDone = true := by
  unfold next?
  split
  · next hdone => simp [hdone]
  · next hgoing =>
    refine ⟨fun hnone => ?_, fun hdone => absurd hdone hgoing⟩
    have hnil := earliest?_eq_none_iff.1 hnone
    simp only [due, List.append_eq_nil_iff] at hnil
    obtain ⟨⟨⟨hdeadline, hmembers⟩, -⟩, -⟩ := hnil
    have hstop : t.swarm.isStopping = true := by
      by_cases hs : t.swarm.isStopping = true
      · exact hs
      · simp [deadlineDue, hs] at hdeadline
    simp only [Swarm.isDone, hstop, Bool.true_and, List.all_eq_true]
    intro m hm
    obtain ⟨k, hk, rfl⟩ := List.mem_iff_getElem.1 hm
    rw [membersDue, List.filterMap_eq_nil_iff] at hmembers
    have hnone := hmembers (t.swarm.members[k], k) (by
      rw [List.mk_mem_zipIdx_iff_getElem?]
      exact List.getElem?_eq_getElem hk)
    exact isOver_of_due?_eq_none (Option.map_eq_none_iff.1 hnone)

/-- Where a run ends, nothing happens any more. -/
theorem next?_of_run {c : Course ω} {limit : Nat} {t ended : Timeline ω}
    (h : run c limit t = some ended) : ended.next? c = none := by
  induction limit generalizing t with
  | zero =>
    unfold run at h
    split at h
    · next hnone =>
      cases h
      exact hnone
    · cases h
  | succ limit ih =>
    unfold run at h
    split at h
    · next hnone =>
      cases h
      exact hnone
    · exact ih h

theorem isDone_of_run {c : Course ω} {limit : Nat} {t ended : Timeline ω}
    (h : run c limit t = some ended) : ended.swarm.isDone = true :=
  next?_eq_none_iff.1 (next?_of_run h)

/-- More steps than a run takes change nothing. -/
theorem run_of_le {c : Course ω} {limit more : Nat} {t ended : Timeline ω}
    (h : run c limit t = some ended) (hle : limit ≤ more) : run c more t = some ended := by
  induction limit generalizing more t with
  | zero =>
    unfold run at h ⊢
    split at h
    · next hnone => simpa [hnone] using h
    · cases h
  | succ limit ih =>
    unfold run at h ⊢
    split at h
    · next hnone => simpa [hnone] using h
    · next entry hentry =>
      cases more with
      | zero => omega
      | succ more => exact ih h (by omega)

/-! ### From outside

A run that is not left to itself can be interrupted, and a request can land before it is due. -/

/-- The swarm is told to stop before the deadline. -/
def interrupt (t : Timeline ω) (time : Duration) : Timeline ω :=
  if t.swarm.isStopping then t
  else { t with swarm := { t.swarm with now := time }.signal .interrupted }

/-- The request of a member lands at a time of its own, and this came of it. -/
def land (t : Timeline ω) (k : Nat) (landing : Duration) (outcome : Outcome) : Timeline ω :=
  match t.swarm.members[k]? with
  | some ⟨number, source, .executing task flight⟩ =>
    let departure := flight.landing.nanoseconds - flight.took.nanoseconds
    let flight : Flight := ⟨landing, ⟨landing.nanoseconds - departure⟩, outcome⟩
    let members := t.swarm.members.set k ⟨number, source, .executing task flight⟩
    { t with swarm := { t.swarm with members := members } }
  | _ => t

/-! ### Ties

Where several things are due at once, any of them may happen first. The relation leaves that open;
the function above is one way to settle it. -/

/-- Something that is due, and that nothing comes before, happens. -/
inductive Moves (c : Course ω) : Timeline ω → Timeline ω → Prop
  | fire {t : Timeline ω} (going : t.swarm.isDone = false) (entry : Duration × Timer)
      (isDue : entry ∈ t.due c)
      (isFirst : ∀ other ∈ t.due c, entry.1.nanoseconds ≤ other.1.nanoseconds) :
      Moves c t (t.step c entry)

/-- What a run can come to. -/
inductive Reaches (c : Course ω) (world : ω) : Timeline ω → Prop
  | start : Reaches c world (initial c.test world)
  | next {s t : Timeline ω} (before : Reaches c world s) (move : Moves c s t) : Reaches c world t

theorem moves_of_next? {c : Course ω} {t : Timeline ω} {entry : Duration × Timer}
    (h : t.next? c = some entry) : Moves c t (t.step c entry) := by
  have going : t.swarm.isDone = false := by
    unfold next? at h
    split at h
    · cases h
    · next hnot => simpa using hnot
  exact .fire going entry (mem_due_of_next? h) (le_of_next? h)

/-- A run ends in something that it can come to. -/
theorem reaches_of_run {c : Course ω} {world : ω} {limit : Nat} {t ended : Timeline ω}
    (ht : Reaches c world t) (h : run c limit t = some ended) : Reaches c world ended := by
  induction limit generalizing t with
  | zero =>
    unfold run at h
    split at h
    · cases h
      exact ht
    · cases h
  | succ limit ih =>
    unfold run at h
    split at h
    · cases h
      exact ht
    · next entry hentry => exact ih (.next ht (moves_of_next? hentry)) h

end Timeline

end QuerySwarm
