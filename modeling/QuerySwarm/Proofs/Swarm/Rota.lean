import QuerySwarm.Proofs.Swarm.Diary

/-!
# The rota of a run

What a user does depends on its words and on how long its requests take, and on nothing else: the
rota says what that is. A user goes by the rota whatever comes of its requests, so at any time its
notes are those of so many rounds of it (`Timeline.follows_of_noted`).

How far a user gets is settled by the deadline, but for one thing: what is due at the deadline
itself may be done before the swarm is told to stop, or not. A user can be started then, and one
whose waits and requests take no time can begin any number of samples. So what two runs by one rota
note of a user is in any case the same as far as both have got (`Timeline.own_prefix_or_of_noted`),
and when both have ended it is the same altogether if equally much was begun at the deadline
(`Timeline.alike_of_noted`).
-/

namespace QuerySwarm

/-- All that runs have in common of which only the outcomes differ: the test, the time between two
starts, the words of each user and how long its requests take. -/
structure Rota where
  test : LoadTest
  interval : Duration
  words : Nat → WordSource
  lengths : Nat → Nat → Duration

/-- The rota of a course on which requests take so long. -/
def Course.rota {ω : Type} (c : Course ω) (lengths : Nat → Nat → Duration) : Rota :=
  ⟨c.test, c.interval, c.conditions.words, lengths⟩

namespace Rota

variable (r : Rota) (k : Nat)

def deadline : Duration := r.test.settings.duration

def source (n : Nat) : WordSource := r.test.sourceAfter (r.words k) n

def task (n : Nat) : Task := r.test.taskFrom (r.source k n)

def wait (n : Nat) : Duration := r.test.waitFrom (r.source k n)

/-- When a user is free to pick a task for the round: when it is started, and then whenever its
sample is over. -/
def free : Nat → Duration
  | 0 => r.interval.times k
  | n + 1 => free n + r.wait k n + r.lengths k n

def departure (n : Nat) : Duration := r.free k n + r.wait k n

/-! ### What is noted -/

def joined : Note := ⟨r.interval.times k, k, .joined (User.nameOf k)⟩

def picked (n : Nat) : Note := ⟨r.free k n, k, .picked (r.task k n) (r.wait k n)⟩

def started (n : Nat) : Note := ⟨r.departure k n, k, .started (r.task k n)⟩

def ended (n : Nat) : Note := ⟨r.free k (n + 1), k, .ended (r.task k n) (r.lengths k n)⟩

/-- The notes of so many rounds. -/
def rounds : Nat → List Note
  | 0 => [r.joined k]
  | n + 1 => rounds n ++ [r.picked k n, r.started k n, r.ended k n]

theorem prefix_rounds_of_le {m n : Nat} (h : m ≤ n) : r.rounds k m <+: r.rounds k n := by
  induction n with
  | zero =>
    obtain rfl := Nat.le_zero.1 h
    exact List.prefix_refl _
  | succ n ih =>
    rcases Nat.lt_succ_iff_lt_or_eq.1 (Nat.lt_succ_of_le h) with hlt | rfl
    · exact (ih (Nat.le_of_lt_succ hlt)).trans (List.prefix_append _ _)
    · exact List.prefix_refl _

/-- One length is noted for each round. -/
theorem length_rounds (n : Nat) :
    ((r.rounds k n).filterMap fun note => note.deed.took?).length = n := by
  induction n with
  | zero => rfl
  | succ n ih =>
    rw [rounds, List.filterMap_append, List.length_append, ih]
    rfl

/-! ### Where a user is -/

/-- The notes of a user in a phase, with the words that it has left. A sample is started by the
deadline, and who has left would have started the next one no earlier. -/
inductive Stage : List Note → Phase Flight → WordSource → Prop
  | starting : Stage [r.joined k] .starting (r.words k)
  | thinking (n : Nat)
      (early : ∀ i < n, (r.departure k i).nanoseconds ≤ r.deadline.nanoseconds) :
      Stage (r.rounds k n ++ [r.picked k n]) (.thinking (r.task k n) (r.departure k n))
        (r.source k (n + 1))
  | executing (n : Nat) (flight : Flight)
      (early : ∀ i < n + 1, (r.departure k i).nanoseconds ≤ r.deadline.nanoseconds)
      (landing : flight.landing = r.departure k n + flight.took) :
      Stage (r.rounds k n ++ [r.picked k n, r.started k n]) (.executing (r.task k n) flight)
        (r.source k (n + 1))
  | stopped (n : Nat) (source : WordSource)
      (early : ∀ i < n, (r.departure k i).nanoseconds ≤ r.deadline.nanoseconds)
      (late : r.deadline.nanoseconds ≤ (r.departure k n).nanoseconds) :
      Stage (r.rounds k n ++ [r.picked k n]) .stopped source

variable {r : Rota} {k : Nat}

theorem picked_prefix_rounds (r : Rota) (k n : Nat) :
    r.rounds k n ++ [r.picked k n] <+: r.rounds k (n + 1) :=
  ⟨[r.started k n, r.ended k n], by rw [List.append_assoc]; rfl⟩

theorem started_prefix_rounds (r : Rota) (k n : Nat) :
    r.rounds k n ++ [r.picked k n, r.started k n] <+: r.rounds k (n + 1) :=
  ⟨[r.ended k n], by rw [List.append_assoc]; rfl⟩

/-- Whatever a user has noted is the beginning of so many rounds. -/
theorem Stage.exists_prefix_rounds {notes : List Note} {p : Phase Flight} {source : WordSource}
    (h : r.Stage k notes p source) : ∃ n, notes <+: r.rounds k n := by
  cases h with
  | starting => exact ⟨0, List.prefix_refl _⟩
  | thinking n => exact ⟨n + 1, r.picked_prefix_rounds k n⟩
  | executing n => exact ⟨n + 1, r.started_prefix_rounds k n⟩
  | stopped n => exact ⟨n + 1, r.picked_prefix_rounds k n⟩

theorem append_picked_prefix_of_le (r : Rota) (k : Nat) {m n : Nat} (h : m ≤ n) :
    r.rounds k m ++ [r.picked k m] <+: r.rounds k n ++ [r.picked k n] := by
  rcases Nat.lt_or_eq_of_le h with hlt | rfl
  · have hrounds := (r.picked_prefix_rounds k m).trans (r.prefix_rounds_of_le k hlt)
    exact hrounds.trans (List.prefix_append _ _)
  · exact List.prefix_refl _

/-- The beginning of every user is that it is started. -/
theorem Stage.joined_prefix {notes : List Note} {p : Phase Flight} {source : WordSource}
    (h : r.Stage k notes p source) : [r.joined k] <+: notes := by
  have hrounds : ∀ n more, [r.joined k] <+: r.rounds k n ++ more := fun n more =>
    (r.prefix_rounds_of_le k (Nat.zero_le n)).trans (List.prefix_append _ _)
  cases h with
  | starting => exact List.prefix_refl _
  | thinking n => exact hrounds n _
  | executing n => exact hrounds n _
  | stopped n => exact hrounds n _

/-- A user has picked its task for a round at most, or it has started the sample of that round too.
-/
theorem Stage.prefix_or_started {notes : List Note} {p : Phase Flight} {source : WordSource}
    (h : r.Stage k notes p source) (n : Nat) :
    notes <+: r.rounds k n ++ [r.picked k n] ∨
      r.rounds k n ++ [r.picked k n, r.started k n] <+: notes ∧
        (r.departure k n).nanoseconds ≤ r.deadline.nanoseconds := by
  -- whoever has made more rounds than `n` has started the sample of round `n`
  have hmore : ∀ m more, n < m →
      r.rounds k n ++ [r.picked k n, r.started k n] <+: r.rounds k m ++ more := fun m more hlt =>
    ((r.started_prefix_rounds k n).trans (r.prefix_rounds_of_le k hlt)).trans
      (List.prefix_append _ _)
  cases h with
  | starting =>
    exact .inl ((r.prefix_rounds_of_le k (Nat.zero_le n)).trans (List.prefix_append _ _))
  | thinking m early =>
    rcases Nat.lt_or_ge n m with hlt | hle
    · exact .inr ⟨hmore m _ hlt, early n hlt⟩
    · exact .inl (r.append_picked_prefix_of_le k hle)
  | executing m flight early landing =>
    rcases Nat.lt_trichotomy n m with hlt | rfl | hgt
    · exact .inr ⟨hmore m _ hlt, early n (Nat.lt_succ_of_lt hlt)⟩
    · exact .inr ⟨List.prefix_refl _, early n (Nat.lt_succ_self n)⟩
    · have hrounds := (r.started_prefix_rounds k m).trans (r.prefix_rounds_of_le k hgt)
      exact .inl (hrounds.trans (List.prefix_append _ _))
  | stopped m _ early _ =>
    rcases Nat.lt_or_ge n m with hlt | hle
    · exact .inr ⟨hmore m _ hlt, early n hlt⟩
    · exact .inl (r.append_picked_prefix_of_le k hle)

theorem beginsAt_started {n : Nat} {time : Duration} (h : r.departure k n = time) :
    (r.started k n).beginsAt time = true := by
  rw [Note.beginsAt, started, h]
  exact decide_eq_true rfl

/-- A user that is started at a time has begun something then. -/
theorem Stage.countP_beginsAt_pos {notes : List Note} {p : Phase Flight} {source : WordSource}
    (h : r.Stage k notes p source) {time : Duration} (isTime : r.interval.times k = time) :
    0 < notes.countP (Note.beginsAt time) := by
  have hbegins : (r.joined k).beginsAt time = true := by
    rw [Note.beginsAt, joined, isTime]
    exact decide_eq_true rfl
  have hcount := h.joined_prefix.sublist.countP_le (p := Note.beginsAt time)
  rwa [List.countP_singleton, if_pos hbegins] at hcount

/-- Whatever a user has noted is the beginning of what it has noted when it has left, unless it has
begun more at the deadline. -/
theorem Stage.prefix_of_isOver {notes notes' : List Note} {p p' : Phase Flight}
    {source source' : WordSource} (h : r.Stage k notes p source) (h' : r.Stage k notes' p' source')
    (gone : p'.isOver = true)
    (ties : notes.countP (Note.beginsAt r.deadline) ≤ notes'.countP (Note.beginsAt r.deadline)) :
    notes <+: notes' := by
  cases h' with
  | starting => cases gone
  | thinking => cases gone
  | executing => cases gone
  | stopped n _ _ late =>
    rcases h.prefix_or_started n with hprefix | ⟨hstarted, hearly⟩
    · exact hprefix
    · -- the sample of the last round was started at the deadline, and that is one more
      have hdeparture : r.departure k n = r.deadline :=
        congrArg Duration.mk (Nat.le_antisymm hearly late)
      rw [List.append_cons] at hstarted
      have hcount := hstarted.sublist.countP_le (p := Note.beginsAt r.deadline)
      rw [List.countP_append, List.countP_singleton, if_pos (beginsAt_started hdeparture)] at hcount
      omega

/-! ### Turns -/

namespace Stage

variable {notes : List Note} {source : WordSource} {task : Task} {time : Duration}

theorem enter (stage : r.Stage k notes .starting source) (isNow : time = r.interval.times k) :
    r.Stage k
      (notes ++ Note.dated time k [.picked (r.test.taskFrom source) (r.test.waitFrom source)])
      (.thinking (r.test.taskFrom source) (time + r.test.waitFrom source))
      (r.test.restFrom source) := by
  cases stage
  rw [isNow]
  exact .thinking 0 (by rintro i ⟨⟩)

theorem depart {wake : Duration} (stage : r.Stage k notes (.thinking task wake) source)
    (isNow : wake = time) (early : time.nanoseconds ≤ r.deadline.nanoseconds) (flight : Flight)
    (landing : flight.landing = time + flight.took) :
    r.Stage k (notes ++ Note.dated time k [.started task]) (.executing task flight) source := by
  cases stage with
  | thinking n before =>
    subst isNow
    rw [List.append_assoc]
    refine .executing n flight (fun i hi => ?_) landing
    rcases Nat.lt_succ_iff_lt_or_eq.1 hi with hlt | rfl
    · exact before i hlt
    · exact early

/-- The sample is over that took as long as the rota says. -/
theorem land {flight : Flight} (stage : r.Stage k notes (.executing task flight) source)
    (isNow : flight.landing = time)
    (length : r.lengths k (notes.filterMap fun note => note.deed.took?).length = flight.took) :
    r.Stage k
      (notes ++ Note.dated time k [.ended task flight.took,
        .picked (r.test.taskFrom source) (r.test.waitFrom source)])
      (.thinking (r.test.taskFrom source) (time + r.test.waitFrom source))
      (r.test.restFrom source) := by
  cases stage with
  | executing n flight early landing =>
    have hround : ((r.rounds k n ++ [r.picked k n, r.started k n]).filterMap
        fun note => note.deed.took?).length = n := by
      rw [List.filterMap_append, List.length_append, r.length_rounds]
      rfl
    rw [hround] at length
    have hfree : r.free k (n + 1) = time := by
      rw [← isNow, landing, ← length]
      rfl
    have hnotes : r.rounds k n ++ [r.picked k n, r.started k n] ++
        Note.dated time k [.ended (r.task k n) flight.took,
          .picked (r.task k (n + 1)) (r.wait k (n + 1))] =
        r.rounds k (n + 1) ++ [r.picked k (n + 1)] := by
      rw [← hfree, ← length, rounds, List.append_assoc, List.append_assoc]
      rfl
    have hstage := Stage.thinking (r := r) (k := k) (n + 1) early
    rw [← hnotes, departure, hfree] at hstage
    exact hstage

theorem leave {wake : Duration} (stage : r.Stage k notes (.thinking task wake) source)
    (late : r.deadline.nanoseconds ≤ wake.nanoseconds) : r.Stage k notes .stopped source := by
  cases stage with
  | thinking n early => exact .stopped n _ early late

end Stage

end Rota

/-- How long samples take, by the notes about those that are over. -/
def Note.Take (lengths : Nat → Nat → Duration) (notes : List Note) : Prop :=
  ∀ k n, ∀ took ∈ (Note.lengthsOf k notes)[n]?, lengths k n = took

theorem Note.Take.of_append {lengths : Nat → Nat → Duration} {notes more : List Note}
    (h : Take lengths (notes ++ more)) : Take lengths notes := by
  intro k n took htook
  refine h k n took ?_
  rw [lengthsOf_append, List.getElem?_append_left (List.getElem?_eq_some_iff.1 htook).1]
  exact htook

/-- Equally much is begun by each user at a time. For the deadline this says how ties are settled:
who is started then, and how many samples each user begins before the swarm is told to stop. -/
def Note.SameTies (deadline : Duration) (notes notes' : List Note) : Prop :=
  ∀ k, beginnings deadline k notes = beginnings deadline k notes'

/-- What is not sent takes no time: a sample of which no request comes is over when it is started. -/
def Conditions.SkipsAtOnce {ω : Type} (conditions : Conditions ω) : Prop :=
  ∀ world k task, (conditions.perform world k task).1.outcome.isUnsent = true →
    (conditions.perform world k task).1.took = .zero

namespace Timeline

variable {ω : Type} {c : Course ω} {r : Rota} {notes : List Note} {t u : Timeline ω}

/-- Everybody goes by the rota, and the tally has the load that is noted. -/
structure Follows (r : Rota) (notes : List Note) (t : Timeline ω) : Prop where
  fresh : ∀ k, t.swarm.size ≤ k → Note.own k notes = []
  stages : ∀ k m, t.swarm.members[k]? = some m → r.Stage k (Note.own k notes) m.phase m.source
  past : ∀ note ∈ notes, note.time.nanoseconds ≤ t.swarm.now.nanoseconds
  load : t.swarm.tally.load = Note.load notes

theorem follows_initial (r : Rota) (test : LoadTest) (world : ω) :
    Follows r [] (initial test world) where
  fresh _ _ := rfl
  stages k m place := by cases place
  past note h := nomatch h
  load := rfl

theorem Follows.elapse (h : Follows r notes t) {time : Duration}
    (hle : t.swarm.now.nanoseconds ≤ time.nanoseconds) : Follows r notes (t.elapse time) where
  fresh := h.fresh
  stages := h.stages
  past note hnote := Nat.le_trans (h.past note hnote) hle
  load := h.load

/-- The swarm is told to stop, or the screen is drawn: nobody goes anywhere. -/
theorem Follows.remain (h : Follows r notes t) (members : u.swarm.members = t.swarm.members)
    (now : u.swarm.now = t.swarm.now) (load : u.swarm.tally.load = t.swarm.tally.load) :
    Follows r notes u := by
  have hsize : u.swarm.size = t.swarm.size := by rw [Swarm.size, members, Swarm.size]
  constructor
  case fresh =>
    rw [hsize]
    exact h.fresh
  case stages =>
    rw [members]
    exact h.stages
  case past =>
    rw [now]
    exact h.past
  case load => rw [load, h.load]

/-- A user takes its turn, and goes by the rota still. -/
theorem Follows.turn (h : Follows r notes t) {k : Nat} {old m : Member Flight} {deeds : List Deed}
    (place : t.swarm.members[k]? = some old) (turns : Turns c t u k deeds m)
    (stage : r.Stage k (Note.own k notes ++ Note.dated t.swarm.now k deeds) m.phase m.source) :
    Follows r (notes ++ Note.dated t.swarm.now k deeds) u := by
  have hk : k < t.swarm.size := (List.getElem?_eq_some_iff.1 place).1
  have hsize : u.swarm.size = t.swarm.size := by
    rw [Swarm.size, turns.members, List.length_set, Swarm.size]
  have hothers : ∀ other ≠ k,
      Note.own other (notes ++ Note.dated t.swarm.now k deeds) = Note.own other notes := by
    intro other hne
    rw [Note.own_append, Note.own_dated_of_ne hne, List.append_nil]
  constructor
  case fresh =>
    intro other hother
    rw [hsize] at hother
    rw [hothers other (by omega)]
    exact h.fresh other hother
  case stages =>
    intro other m' place'
    rw [turns.members] at place'
    by_cases hother : other = k
    · subst hother
      rw [List.getElem?_set_self hk] at place'
      cases place'
      rw [Note.own_append, Note.own_dated_self]
      exact stage
    · rw [List.getElem?_set_ne (Ne.symm hother)] at place'
      rw [hothers other hother]
      exact h.stages other m' place'
  case past =>
    intro note hnote
    rw [turns.now]
    rcases List.mem_append.1 hnote with hbefore | hnow
    · exact h.past note hbefore
    · rw [Note.time_of_mem_dated hnow]
  case load => rw [turns.load, h.load, Note.load_append_dated]

/-- A user is started. -/
theorem Follows.spawn (h : Follows r notes t)
    (isNow : t.swarm.now = r.interval.times t.swarm.size)
    (number : t.swarm.nextNumber = t.swarm.size)
    (test : LoadTest) :
    Follows r
      (notes ++ Note.dated t.swarm.now t.swarm.size [.joined (User.nameOf t.swarm.nextNumber)])
      { t with swarm := t.swarm.spawn test (r.words t.swarm.size) } := by
  have hothers : ∀ other ≠ t.swarm.size, Note.own other
      (notes ++ Note.dated t.swarm.now t.swarm.size [.joined (User.nameOf t.swarm.nextNumber)]) =
        Note.own other notes := by
    intro other hne
    rw [Note.own_append, Note.own_dated_of_ne hne, List.append_nil]
  constructor
  case fresh =>
    intro k hk
    rw [Swarm.size_spawn] at hk
    rw [hothers k (by omega)]
    exact h.fresh k (by omega)
  case stages =>
    intro k m place
    change (t.swarm.members ++ [_])[k]? = some m at place
    rcases Nat.lt_trichotomy k t.swarm.size with hlt | rfl | hgt
    · rw [List.getElem?_append_left hlt] at place
      rw [hothers k (Nat.ne_of_lt hlt)]
      exact h.stages k m place
    · rw [Swarm.size, List.getElem?_concat_length] at place
      cases place
      rw [Note.own_append, Note.own_dated_self, h.fresh _ (Nat.le_refl _), number, isNow]
      exact .starting
    · rw [List.getElem?_eq_none (by rw [List.length_append]; exact hgt)] at place
      cases place
  case past =>
    intro note hnote
    rcases List.mem_append.1 hnote with hbefore | hnow
    · exact h.past note hbefore
    · rw [Note.time_of_mem_dated hnow]
      exact Nat.le_refl _
  case load =>
    rw [Note.load_append_dated, ← h.load]
    exact Tally.load_write _ _

/-! ### Going by the rota -/

/-- Whoever was just started was started at its time. -/
theorem OnTime.now_of_starting {events : List Event} (h : OnTime c events t) {k number : Nat}
    {source : WordSource} (place : t.swarm.members[k]? = some ⟨number, source, .starting⟩) :
    t.swarm.now = c.interval.times k := by
  obtain ⟨free, itinerary, htrips, -, -, hfree⟩ := h.stands k _ place
  rw [← hfree, itinerary.free_eq, htrips]
  rfl

/-- Whoever still thinks when the swarm was told to stop would not go on before the deadline. -/
theorem OnTime.le_wake {events : List Event} (h : OnTime c events t) {k number : Nat}
    {source : WordSource} {task : Task} {wake : Duration}
    (place : t.swarm.members[k]? = some ⟨number, source, .thinking task wake⟩)
    (stopping : t.swarm.isStopping = true) :
    c.test.settings.duration.nanoseconds ≤ wake.nanoseconds := by
  obtain ⟨free, -, -, -, -, hle⟩ := h.stands k _ place
  rw [stopping, if_pos rfl] at hle
  exact hle

section Members

variable {lengths : Nat → Nat → Duration} {events : List Event} {k : Nat}

/-- The length that is noted next is the one of the round. -/
theorem length_eq {deeds : List Deed} {took : Duration}
    (take : Note.Take lengths (notes ++ Note.dated t.swarm.now k deeds))
    (hdeeds : deeds.filterMap Deed.took? = [took]) :
    lengths k (Note.lengthsOf k notes).length = took := by
  have hnow : Note.lengthsOf k (Note.dated t.swarm.now k deeds) = [took] := by
    rw [Note.lengthsOf_dated, if_pos rfl, hdeeds]
  refine take k _ took ?_
  rw [Note.lengthsOf_append, hnow, List.getElem?_concat_length]
  rfl

/-- Whatever a user does, it goes by the rota. -/
theorem Follows.member (sound : c.test.IsSound) (skips : c.conditions.SkipsAtOnce)
    (h : Follows (c.rota lengths) notes t) (onTime : OnTime c events t)
    (isDue : IsDue c t t.swarm.now (.member k))
    (take : Note.Take lengths (notes ++ t.notes c (.member k))) :
    Follows (c.rota lengths) (notes ++ t.notes c (.member k)) (t.fire c (.member k)) := by
  cases isDue with
  | @member k m place isNow =>
    obtain ⟨number, source, phase⟩ := m
    have stage := h.stages k _ place
    cases phase with
    | starting =>
      have turns := turns_starting (c := c) sound place
      rw [turns.notes]
      exact h.turn place turns (stage.enter (onTime.now_of_starting place))
    | thinking task wake =>
      cases hstop : t.swarm.isStopping with
      | true =>
        have turns := turns_leaving (c := c) place hstop
        rw [turns.notes]
        refine h.turn place turns ?_
        exact (List.append_nil _).symm ▸ stage.leave (onTime.le_wake place hstop)
      | false =>
        rw [hstop] at isNow
        have hnow : wake = t.swarm.now := Option.some.inj isNow
        have away := stage.depart hnow (onTime.going hstop) (flightFrom c t k task) rfl
        by_cases unsent : (flightFrom c t k task).outcome.isUnsent = true
        · have turns := turns_skipping sound place hstop unsent
          rw [turns.notes] at take ⊢
          have hback : (flightFrom c t k task).landing = t.swarm.now :=
            congrArg (t.swarm.now + ·) (skips t.world k task unsent)
          refine h.turn place turns ?_
          -- what is not sent comes back at once, so the round ends when its sample starts
          have home := away.land hback (by
            rw [List.filterMap_append, List.length_append]
            exact length_eq take rfl)
          rw [List.append_assoc] at home
          exact home
        · have turns := turns_sending place hstop unsent
          rw [turns.notes]
          exact h.turn place turns away
    | executing task flight =>
      have turns := turns_executing (c := c) sound place
      rw [turns.notes] at take ⊢
      exact h.turn place turns (stage.land (Option.some.inj isNow) (length_eq take rfl))
    | stopped => cases isNow
    | crashed fault => cases isNow

/-- Whatever happens, everybody goes by the rota. -/
theorem Follows.fire (sound : c.test.IsSound) (skips : c.conditions.SkipsAtOnce)
    (h : Follows (c.rota lengths) notes t) (onTime : OnTime c events t)
    (numbers : t.swarm.nextNumber = t.swarm.size) {timer : Timer}
    (isDue : IsDue c t t.swarm.now timer)
    (take : Note.Take lengths (notes ++ t.notes c timer)) :
    Follows (c.rota lengths) (notes ++ t.notes c timer) (t.fire c timer) := by
  cases timer with
  | deadline =>
    rw [Timeline.notes, List.append_nil]
    exact h.remain rfl rfl rfl
  | report =>
    rw [Timeline.notes, List.append_nil]
    exact h.remain rfl rfl (Tally.load_write _ _)
  | spawn =>
    cases isDue with
    | spawn going room isNow => exact h.spawn isNow numbers c.test
  | member k => exact h.member sound skips onTime isDue take

end Members

/-- Whatever a run comes to, everybody has gone by the rota. -/
theorem follows_of_noted (sound : c.test.IsSound) (skips : c.conditions.SkipsAtOnce)
    {lengths : Nat → Nat → Duration} {world : ω} (h : Noted c world notes t)
    (take : Note.Take lengths notes) : Follows (c.rota lengths) notes t := by
  induction h with
  | start => exact follows_initial _ c.test world
  | @next notes t before going entry isDue isFirst ih =>
    obtain ⟨events, chronicle, -⟩ := exists_chronicle_of_noted before
    have onTime := onTime_of_chronicle sound chronicle
    have balanced := balanced_of_reaches sound chronicle.reaches
    have hdue := isDue_of_mem_due isDue
    have elapsed := onTime.elapse going hdue fun other timer hother => isFirst _ hother.mem_due
    have follows := (ih take.of_append).elapse (onTime.le_due hdue)
    exact follows.fire sound skips elapsed balanced.nextNumber hdue.elapse take

/-! ### Two runs by one rota -/

section Pairs

variable {ω' : Type} {c' : Course ω'} {lengths : Nat → Nat → Duration} {world : ω} {world' : ω'}
  {notes' : List Note} {t' : Timeline ω'}

/-- A run that has ended has started everybody who was to be started before the deadline. -/
theorem lt_size_of_isDone (sound : c.test.IsSound) (h : Noted c world notes t)
    (done : t.swarm.isDone = true) {k : Nat} (room : k < c.test.settings.users)
    (hlt : (c.interval.times k).nanoseconds < c.test.settings.duration.nanoseconds) :
    k < t.swarm.size := by
  obtain ⟨events, chronicle, -⟩ := exists_chronicle_of_noted h
  rw [← (balanced_of_reaches sound chronicle.reaches).spawned]
  exact (kept_of_chronicle sound chronicle done).everybody k room hlt

/-- Whatever a run notes about a user is the beginning of what another run by the same rota has noted
when it has ended, unless more was begun at the deadline. -/
theorem own_prefix_of_noted (sound : c.test.IsSound) (skips : c.conditions.SkipsAtOnce)
    (skips' : c'.conditions.SkipsAtOnce) (same : c'.rota lengths = c.rota lengths)
    (h : Noted c world notes t) (h' : Noted c' world' notes' t')
    (take : Note.Take lengths notes) (take' : Note.Take lengths notes')
    (done : t'.swarm.isDone = true) {k : Nat}
    (ties : Note.beginnings c.test.settings.duration k notes ≤
      Note.beginnings c.test.settings.duration k notes') :
    Note.own k notes <+: Note.own k notes' := by
  have htest : c'.test = c.test := congrArg Rota.test same
  have sound' : c'.test.IsSound := htest ▸ sound
  have follows := follows_of_noted sound skips h take
  have follows' := follows_of_noted sound' skips' h' take'
  rw [same] at follows'
  obtain ⟨events, chronicle, -⟩ := exists_chronicle_of_noted h
  have room := (balanced_of_reaches sound chronicle.reaches).room
  have onTime := onTime_of_chronicle sound chronicle
  by_cases hk : k < t.swarm.size
  · have stage := follows.stages k _ (List.getElem?_eq_getElem hk)
    have hk' : k < t'.swarm.size := by
      rcases Nat.lt_or_ge k t'.swarm.size with hlt | hle
      · exact hlt
      · -- were the user started in the first run alone, it would have begun more at the deadline
        rw [Note.beginnings, Note.beginnings, follows'.fresh k hle, List.countP_nil] at ties
        have hearly : (c.interval.times k).nanoseconds < c.test.settings.duration.nanoseconds :=
          Nat.lt_of_le_of_ne (onTime.prompt k hk) fun htie =>
            Nat.not_le_of_lt (stage.countP_beginsAt_pos (congrArg Duration.mk htie)) ties
        refine lt_size_of_isDone sound' h' done (htest ▸ Nat.lt_of_lt_of_le hk room) ?_
        rwa [htest, show c'.interval = c.interval from congrArg Rota.interval same]
    have hover : t'.swarm.members[k].phase.isOver = true := by
      simp only [Swarm.isDone, Bool.and_eq_true, List.all_eq_true] at done
      exact done.2 _ (List.getElem_mem hk')
    exact stage.prefix_of_isOver (follows'.stages k _ (List.getElem?_eq_getElem hk')) hover ties
  · rw [follows.fresh k (Nat.le_of_not_lt hk)]
    exact List.nil_prefix

theorem Follows.exists_prefix_rounds (h : Follows r notes t) (k : Nat) :
    ∃ n, Note.own k notes <+: r.rounds k n := by
  by_cases hk : k < t.swarm.size
  · exact (h.stages k _ (List.getElem?_eq_getElem hk)).exists_prefix_rounds
  · rw [h.fresh k (Nat.le_of_not_lt hk)]
    exact ⟨0, List.nil_prefix⟩

/-- Of what two runs by the same rota note about a user, one is the beginning of the other, whether
they end or not. -/
theorem own_prefix_or_of_noted (sound : c.test.IsSound) (skips : c.conditions.SkipsAtOnce)
    (skips' : c'.conditions.SkipsAtOnce) (same : c'.rota lengths = c.rota lengths)
    (h : Noted c world notes t) (h' : Noted c' world' notes' t')
    (take : Note.Take lengths notes) (take' : Note.Take lengths notes') (k : Nat) :
    Note.own k notes <+: Note.own k notes' ∨ Note.own k notes' <+: Note.own k notes := by
  have htest : c'.test = c.test := congrArg Rota.test same
  have sound' : c'.test.IsSound := htest ▸ sound
  have follows' := follows_of_noted sound' skips' h' take'
  rw [same] at follows'
  obtain ⟨n, hrounds⟩ := (follows_of_noted sound skips h take).exists_prefix_rounds k
  obtain ⟨n', hrounds'⟩ := follows'.exists_prefix_rounds k
  exact List.prefix_or_prefix_of_prefix
    (hrounds.trans (Rota.prefix_rounds_of_le _ k (Nat.le_max_left n n')))
    (hrounds'.trans (Rota.prefix_rounds_of_le _ k (Nat.le_max_right n n')))

/-- What is the same in two runs that have ended: what everybody did and when, who they are, how many
users and requests were started, and all latencies. -/
structure Alike (notes notes' : List Note) (t : Timeline ω) (t' : Timeline ω') : Prop where
  own : ∀ k, Note.own k notes = Note.own k notes'
  names : t.swarm.names = t'.swarm.names
  users : t.swarm.users = t'.swarm.users
  started : t.swarm.requests.started = t'.swarm.requests.started
  inFlight : t.swarm.requests.inFlight = t'.swarm.requests.inFlight
  requestsOf : ∀ operation, t.swarm.tally.requestsOf operation = t'.swarm.tally.requestsOf operation
  latency : t.swarm.tally.latency = t'.swarm.tally.latency
  operationLatency : t.swarm.tally.operationLatency = t'.swarm.tally.operationLatency
  statistics : t.swarm.tally.statistics = t'.swarm.tally.statistics
  operationStatistics : t.swarm.tally.operationStatistics = t'.swarm.tally.operationStatistics
  now : t.swarm.now = t'.swarm.now

theorem now_le_of_own_eq (sound : c.test.IsSound) (sound' : c'.test.IsSound)
    (hduration : c.test.settings.duration = c'.test.settings.duration)
    (h : Noted c world notes t) (h' : Noted c' world' notes' t')
    (follows' : Follows r notes' t') (done : t.swarm.isDone = true) (done' : t'.swarm.isDone = true)
    (own : ∀ k, Note.own k notes = Note.own k notes') :
    t.swarm.now.nanoseconds ≤ t'.swarm.now.nanoseconds := by
  obtain ⟨events, chronicle, hnoted⟩ := exists_chronicle_of_noted h
  obtain ⟨events', chronicle', -⟩ := exists_chronicle_of_noted h'
  rcases (kept_of_chronicle sound chronicle done).latest with hdeadline | ⟨k, hlanding⟩
  · rw [hdeadline, hduration]
    exact (kept_of_chronicle sound' chronicle' done').deadline
  · obtain ⟨note, hnote, heq⟩ := hnoted k _ hlanding
    rw [← heq]
    exact follows'.past note (Note.mem_of_own_eq own hnote)

theorem alike_of_noted (sound : c.test.IsSound) (skips : c.conditions.SkipsAtOnce)
    (skips' : c'.conditions.SkipsAtOnce) (same : c'.rota lengths = c.rota lengths)
    (h : Noted c world notes t) (h' : Noted c' world' notes' t')
    (take : Note.Take lengths notes) (take' : Note.Take lengths notes')
    (ties : Note.SameTies c.test.settings.duration notes notes')
    (done : t.swarm.isDone = true) (done' : t'.swarm.isDone = true) : Alike notes notes' t t' := by
  have htest : c'.test = c.test := congrArg Rota.test same
  have sound' : c'.test.IsSound := htest ▸ sound
  have hduration : c'.test.settings.duration = c.test.settings.duration := by rw [htest]
  have follows := follows_of_noted sound skips h take
  have follows' := follows_of_noted sound' skips' h' take'
  -- both have ended, so what each notes is the beginning of what the other does
  have own : ∀ k, Note.own k notes = Note.own k notes' := fun k =>
    (own_prefix_of_noted sound skips skips' same h h' take take' done' (ties k).le).eq_of_length_le
      (own_prefix_of_noted sound' skips' skips same.symm h' h take' take done
        (htest ▸ (ties k).ge)).length_le
  have hload : t.swarm.tally.load = t'.swarm.tally.load := by
    rw [follows.load, follows'.load, Note.load_eq_of_own_eq own]
  obtain ⟨events, chronicle, -⟩ := exists_chronicle_of_noted h
  obtain ⟨events', chronicle', -⟩ := exists_chronicle_of_noted h'
  have balanced := balanced_of_reaches sound chronicle.reaches
  have balanced' := balanced_of_reaches sound' chronicle'.reaches
  obtain ⟨-, hflight, hactive⟩ := (kept_of_chronicle sound chronicle done).counted
  obtain ⟨-, hflight', hactive'⟩ := (kept_of_chronicle sound' chronicle' done').counted
  have hspawned : t.swarm.users.spawned = t'.swarm.users.spawned := congrArg Tally.Load.spawned hload
  have hlatency : t.swarm.tally.latency = t'.swarm.tally.latency := congrArg Tally.Load.latency hload
  have hoperations : t.swarm.tally.operationLatency = t'.swarm.tally.operationLatency :=
    congrArg Tally.Load.operationLatency hload
  constructor
  case own => exact own
  case names => rw [balanced.names_eq.1, balanced'.names_eq.1, hspawned]
  case users =>
    calc t.swarm.users = ⟨t.swarm.users.spawned, t.swarm.users.active⟩ := rfl
      _ = ⟨t'.swarm.users.spawned, t'.swarm.users.active⟩ := by rw [hspawned, hactive, hactive']
  case started => exact congrArg Tally.Load.started hload
  case inFlight => rw [hflight, hflight']
  case requestsOf => exact congrFun (congrArg Tally.Load.requests hload)
  case latency => exact hlatency
  case operationLatency => exact hoperations
  case statistics => rw [Tally.statistics, hlatency, Tally.statistics]
  case operationStatistics => rw [Tally.operationStatistics, hoperations, Tally.operationStatistics]
  case now =>
    exact congrArg Duration.mk (Nat.le_antisymm
      (now_le_of_own_eq sound sound' hduration.symm h h' follows' done done' own)
      (now_le_of_own_eq sound' sound hduration h' h follows done' done fun k => (own k).symm))

end Pairs

end Timeline

end QuerySwarm
