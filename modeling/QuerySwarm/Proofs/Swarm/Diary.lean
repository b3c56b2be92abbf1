import QuerySwarm.Proofs.Swarm.Progress
import QuerySwarm.Proofs.Tally.Load

/-!
# The diary of a run

A diary notes what the users of a run do, with the time and the place of the user: that a user was
started, which task it picked and how long it waits for it, and when its sample was started and was
over. It does not note what came of the sample.

* `Timeline.notes`: what is noted when a timer fires, as it is seen in the state before and after.
* `Timeline.diary`: the diary of a run, and `Timeline.Noted`: what a run can come to with its diary,
  in whatever order happens what is due at once.
* `Note.beginnings`: what a user begins at one time. Whether it begins something at the deadline,
  before the swarm is told to stop, is left open where the order is; in a run that puts the deadline
  first nobody does (`Timeline.beginnings_diary`).
* `Timeline.Turns`: a user takes its turn, which adds to the diary and to the load in the tally what
  it does. There is one lemma for each phase.
-/

namespace QuerySwarm

/-! ### Notes -/

/-- What a user does. -/
inductive Deed where
  | joined (name : String)
  | picked (task : Task) (wait : Duration)
  | started (task : Task)
  | ended (task : Task) (took : Duration)

/-- What the user in a place does, and when. -/
structure Note where
  time : Duration
  user : Nat
  deed : Deed

namespace Deed

/-- What is written to the tally for it, but for what came of a sample. -/
def writes : Deed → List Tally.Write
  | .joined _ => [.userSpawned]
  | .picked .. => []
  | .started task => [.requestStarted task.name]
  | .ended task took =>
    [.latency took.milliseconds, .operationLatency task.name took.milliseconds]

/-- Whether a user begins something: to be there, or a sample. -/
def isBeginning : Deed → Bool
  | .joined _ => true
  | .started _ => true
  | _ => false

/-- How long the sample took that is over. -/
def took? : Deed → Option Duration
  | .ended _ took => some took
  | _ => none

end Deed

namespace Note

/-- The notes of one user. -/
def own (k : Nat) (notes : List Note) : List Note := notes.filter fun note => note.user = k

/-- How long the samples of a user took that are over. -/
def lengthsOf (k : Nat) (notes : List Note) : List Duration :=
  (own k notes).filterMap fun note => note.deed.took?

def beginsAt (time : Duration) (note : Note) : Bool :=
  note.deed.isBeginning && decide (note.time = time)

/-- How many things a user begins at a time. -/
def beginnings (time : Duration) (k : Nat) (notes : List Note) : Nat :=
  (own k notes).countP (beginsAt time)

/-- The load that the notes tell of. -/
def load (notes : List Note) : Tally.Load :=
  (notes.flatMap fun note => note.deed.writes).foldl Tally.Load.add .none

theorem own_append (k : Nat) (notes more : List Note) :
    own k (notes ++ more) = own k notes ++ own k more := List.filter_append ..

theorem lengthsOf_append (k : Nat) (notes more : List Note) :
    lengthsOf k (notes ++ more) = lengthsOf k notes ++ lengthsOf k more := by
  rw [lengthsOf, own_append, List.filterMap_append]
  rfl

/-- What a user does at one time. -/
def dated (time : Duration) (k : Nat) (deeds : List Deed) : List Note :=
  deeds.map fun deed => ⟨time, k, deed⟩

theorem time_of_mem_dated {time : Duration} {k : Nat} {deeds : List Deed} {note : Note}
    (h : note ∈ dated time k deeds) : note.time = time := by
  obtain ⟨deed, -, rfl⟩ := List.mem_map.1 h
  rfl

theorem own_dated_self (time : Duration) (k : Nat) (deeds : List Deed) :
    own k (dated time k deeds) = dated time k deeds := by
  refine List.filter_eq_self.2 fun note hnote => ?_
  obtain ⟨deed, -, rfl⟩ := List.mem_map.1 hnote
  exact decide_eq_true rfl

theorem own_dated_of_ne {other k : Nat} (hne : other ≠ k) (time : Duration) (deeds : List Deed) :
    own other (dated time k deeds) = [] := by
  refine List.filter_eq_nil_iff.2 fun note hnote => ?_
  obtain ⟨deed, -, rfl⟩ := List.mem_map.1 hnote
  simpa using Ne.symm hne

theorem lengthsOf_dated (time : Duration) (k other : Nat) (deeds : List Deed) :
    lengthsOf other (dated time k deeds) =
      if other = k then deeds.filterMap Deed.took? else [] := by
  split
  · next heq =>
    rw [heq, lengthsOf, own_dated_self, dated, List.filterMap_map]
    rfl
  · next hne =>
    rw [lengthsOf, own_dated_of_ne hne]
    rfl

theorem load_append_dated (notes : List Note) (time : Duration) (k : Nat) (deeds : List Deed) :
    load (notes ++ dated time k deeds) =
      (deeds.flatMap Deed.writes).foldl Tally.Load.add (load notes) := by
  rw [load, List.flatMap_append, List.foldl_append, dated, List.flatMap_map]
  rfl

/-- Where the notes of each user are the beginning of those in another diary, that has them all. -/
theorem subperm_of_prefix_own {notes notes' : List Note}
    (h : ∀ k, own k notes <+: own k notes') : notes.Subperm notes' := by
  classical
  have hown : ∀ (note : Note) (notes : List Note),
      (own note.user notes).count note = notes.count note :=
    fun note notes => List.count_filter (decide_eq_true rfl)
  refine List.subperm_ext_iff.2 fun note _ => ?_
  rw [← hown note notes, ← hown note notes']
  exact (h note.user).sublist.count_le note

theorem load_eq_of_own_eq {notes notes' : List Note} (h : ∀ k, own k notes = own k notes') :
    load notes = load notes' := by
  have perm : notes.Perm notes' :=
    (subperm_of_prefix_own fun k => h k ▸ List.prefix_refl _).antisymm
      (subperm_of_prefix_own fun k => h k ▸ List.prefix_refl _)
  exact Tally.Load.foldl_add_perm (perm.flatMap_right _) _

theorem mem_of_own_eq {notes notes' : List Note} (h : ∀ k, own k notes = own k notes')
    {note : Note} (hnote : note ∈ notes) : note ∈ notes' := by
  have hown : note ∈ own note.user notes := List.mem_filter.2 ⟨hnote, decide_eq_true rfl⟩
  rw [h] at hown
  exact (List.mem_filter.1 hown).1

/-- A note tells of one request at most that was started. -/
theorem started_load_le (notes : List Note) : (load notes).started ≤ notes.length := by
  rw [load, Tally.Load.started_foldl_add, Tally.Load.none, Nat.zero_add]
  induction notes with
  | nil => exact Nat.le_refl 0
  | cons note rest ih =>
    have hone : note.deed.writes.countP Tally.Write.starts ≤ 1 := by
      cases note.deed <;> simp [Deed.writes, Tally.Write.starts]
    rw [List.flatMap_cons, List.countP_append, List.length_cons, Nat.add_comm]
    exact Nat.add_le_add ih hone

end Note

/-! ### What a user picks -/

/-- The task that a user picks next with these words. -/
def LoadTest.taskFrom (test : LoadTest) (source : WordSource) : Task :=
  (test.tasks.choose source).1.getD (.template Task.defaultTemplateFile)

/-- What a user does next is settled by its words alone. -/
theorem Member.thinking_eq_taskFrom {α : Type} {test : LoadTest} (sound : test.IsSound)
    (now : Duration) (number : Nat) (source : WordSource) :
    (Member.thinking test now number source : Member α) =
      ⟨number, test.restFrom source,
        .thinking (test.taskFrom source) (now + test.waitFrom source)⟩ := by
  obtain ⟨task, heq⟩ := Member.thinking_eq (α := α) sound now number source
  have htask : task = test.taskFrom source := by
    unfold Member.thinking at heq
    unfold LoadTest.taskFrom
    split at heq
    · cases heq
    · next picked left hchoice =>
      rw [hchoice]
      split at heq
      · cases heq
      · exact (Phase.thinking.inj (congrArg Member.phase heq)).1.symm
  rw [heq, htask]

/-- A sample of a member is over, and it picks its next task. -/
theorem Swarm.finish_eq_taskFrom {α : Type} {test : LoadTest} (sound : test.IsSound) (s : Swarm α)
    {k number : Nat} {source : WordSource} {task : Task} {job : α}
    (place : s.members[k]? = some ⟨number, source, .executing task job⟩) (o : Outcome)
    (took : Duration) :
    (s.finish test k o took).members = s.members.set k ⟨number, test.restFrom source,
        .thinking (test.taskFrom source) (s.now + test.waitFrom source)⟩ ∧
      (s.finish test k o took).now = s.now ∧
      (s.finish test k o took).tally.load =
        (Deed.writes (.ended task took)).foldl Tally.Load.add s.tally.load := by
  simp only [finish, place, Member.thinking_eq_taskFrom sound]
  exact ⟨rfl, rfl, o.load_record task.name took.milliseconds s.tally⟩

namespace Timeline

variable {ω : Type} {c : Course ω}

/-! ### What is noted -/

/-- What the member in a place does with its sample when its time has come. -/
def sampleDeeds (c : Course ω) (t : Timeline ω) (k : Nat) : List Deed :=
  match t.swarm.phase? k with
  | some (.thinking task _) =>
    if t.swarm.isStopping then []
    else
      let flight := (c.conditions.perform t.world k task).1
      if flight.outcome.isUnsent then [.started task, .ended task flight.took] else [.started task]
  | some (.executing task flight) => [.ended task flight.took]
  | _ => []

/-- What the member in a place has picked that just begins to think. -/
def pickDeeds (t : Timeline ω) (k : Nat) : List Deed :=
  match t.swarm.phase? k with
  | some (.thinking task wake) => [.picked task ⟨wake.nanoseconds - t.swarm.now.nanoseconds⟩]
  | _ => []

/-- What is noted when a timer fires. -/
def notes (c : Course ω) (t : Timeline ω) : Timer → List Note
  | .spawn =>
    Note.dated t.swarm.now t.swarm.size [.joined (User.nameOf t.swarm.nextNumber)]
  | .member k =>
    Note.dated t.swarm.now k (t.sampleDeeds c k ++ (t.fire c (.member k)).pickDeeds k)
  | .deadline => []
  | .report => []

/-- The diary of a run of so many steps at most. -/
def diary (c : Course ω) : Nat → Timeline ω → List Note
  | 0, _ => []
  | limit + 1, t =>
    match t.next? c with
    | none => []
    | some entry => (t.elapse entry.1).notes c entry.2 ++ diary c limit (t.step c entry)

/-- What a run can come to with its diary. Any of the things that are due first may happen. -/
inductive Noted (c : Course ω) (world : ω) : List Note → Timeline ω → Prop
  | start : Noted c world [] (initial c.test world)
  | next {notes : List Note} {t : Timeline ω} (before : Noted c world notes t)
      (going : t.swarm.isDone = false) (entry : Duration × Timer) (isDue : entry ∈ t.due c)
      (isFirst : ∀ other ∈ t.due c, entry.1.nanoseconds ≤ other.1.nanoseconds) :
      Noted c world (notes ++ (t.elapse entry.1).notes c entry.2) (t.step c entry)

/-- Whatever a run can come to, it comes to with a diary. -/
theorem exists_noted_iff {world : ω} {t : Timeline ω} :
    (∃ notes, Noted c world notes t) ↔ Reaches c world t := by
  constructor
  · rintro ⟨notes, noted⟩
    induction noted with
    | start => exact .start
    | next before going entry isDue isFirst ih => exact .next ih (.fire going entry isDue isFirst)
  · intro reaches
    induction reaches with
    | start => exact ⟨[], .start⟩
    | next before move ih =>
      obtain ⟨notes, noted⟩ := ih
      cases move with
      | fire going entry isDue isFirst => exact ⟨_, .next noted going entry isDue isFirst⟩

theorem noted_diary {world : ω} {notes : List Note} {t : Timeline ω} (h : Noted c world notes t)
    (limit : Nat) : Noted c world (notes ++ t.diary c limit) ((onward c)^[limit] t) := by
  induction limit generalizing notes t with
  | zero =>
    rw [diary, List.append_nil]
    exact h
  | succ limit ih =>
    cases hnext : t.next? c with
    | none =>
      have hfixed : onward c t = t := by rw [onward, hnext, Option.elim_none]
      rw [diary, hnext, Function.iterate_fixed hfixed, List.append_nil]
      exact h
    | some entry =>
      have honward : onward c t = t.step c entry := by rw [onward, hnext, Option.elim_some]
      have going : t.swarm.isDone = false := by
        rw [← Bool.not_eq_true, ← next?_eq_none_iff (c := c), hnext]
        rintro ⟨⟩
      rw [diary, hnext, Function.iterate_succ_apply, honward, ← List.append_assoc]
      exact ih (.next h going entry (mem_due_of_next? hnext) (le_of_next? hnext))

/-- Where a run has ended, so have its moves. -/
theorem onward_of_run {limit : Nat} {t ended : Timeline ω} (h : run c limit t = some ended) :
    (onward c)^[limit] t = ended := by
  induction limit generalizing t with
  | zero =>
    unfold run at h
    split at h <;> cases h
    rfl
  | succ limit ih =>
    unfold run at h
    cases hnext : t.next? c with
    | none =>
      rw [hnext] at h
      cases h
      exact Function.iterate_fixed (by rw [onward, hnext, Option.elim_none]) _
    | some entry =>
      rw [hnext] at h
      rw [Function.iterate_succ_apply, onward, hnext, Option.elim_some]
      exact ih h

theorem exists_note_of_landed {t : Timeline ω} {k : Nat} {timer : Timer} (time : Duration)
    (h : Happening.landed k ∈ happenings c t timer) :
    ∃ note ∈ (t.elapse time).notes c timer, note.time = time := by
  cases timer with
  | member j =>
    suffices hdeed : ∃ deed, deed ∈ (t.elapse time).sampleDeeds c j by
      obtain ⟨deed, hdeed⟩ := hdeed
      exact ⟨⟨time, j, deed⟩, List.mem_map_of_mem (List.mem_append_left _ hdeed), rfl⟩
    have hphase : (t.elapse time).swarm.phase? j = t.swarm.phase? j := rfl
    have hstopping : (t.elapse time).swarm.isStopping = t.swarm.isStopping := rfl
    rcases hp : t.swarm.phase? j with _ | p
    · simp [happenings, hp] at h
    · cases p with
      | thinking task wake =>
        simp only [sampleDeeds, hphase, hstopping, hp]
        by_cases stopping : t.swarm.isStopping = true
        · simp [happenings, hp, stopping] at h
        · rw [if_neg stopping]
          refine ⟨.started task, ?_⟩
          split <;> exact List.mem_cons_self
      | executing task flight =>
        simp only [sampleDeeds, hphase, hp]
        exact ⟨_, List.mem_singleton_self _⟩
      | starting => simp [happenings, hp] at h
      | stopped => simp [happenings, hp] at h
      | crashed => simp [happenings, hp] at h
  | spawn => simp [happenings] at h
  | deadline => cases h
  | report => cases h

/-- The landings of a run are noted. -/
theorem exists_chronicle_of_noted {world : ω} {notes : List Note} {t : Timeline ω}
    (h : Noted c world notes t) :
    ∃ events, Chronicle c world events t ∧
      ∀ k, ∀ time ∈ landingsOf k events, ∃ note ∈ notes, note.time = time := by
  induction h with
  | start => exact ⟨[], .start, fun k time htime => nomatch htime⟩
  | @next notes t _ going entry isDue isFirst ih =>
    obtain ⟨events, before, hnoted⟩ := ih
    refine ⟨_, .next before going entry isDue isFirst, fun k time htime => ?_⟩
    rw [landingsOf_append_stamped, List.mem_append] at htime
    rcases htime with hbefore | hnow
    · obtain ⟨note, hnote, heq⟩ := hnoted k time hbefore
      exact ⟨note, List.mem_append_left _ hnote, heq⟩
    · obtain ⟨hcount, rfl⟩ := List.mem_replicate.1 hnow
      have hlanded := List.count_pos_iff.1 (Nat.pos_of_ne_zero hcount)
      obtain ⟨note, hnote, heq⟩ := exists_note_of_landed entry.1 hlanded
      exact ⟨note, List.mem_append_right _ hnote, heq⟩

/-! ### The deadline first -/

/-- What a run does before the swarm is told to stop, it does before the deadline. -/
theorem lt_duration_of_next? {t : Timeline ω} {entry : Duration × Timer}
    (h : t.next? c = some entry) (going : t.swarm.isStopping = false)
    (hne : entry.2 ≠ .deadline) :
    entry.1.nanoseconds < c.test.settings.duration.nanoseconds := by
  unfold next? at h
  split at h
  · cases h
  · simp only [due, deadlineDue, going, Bool.false_eq_true, if_false, List.cons_append,
      List.nil_append] at h
    unfold earliest? at h
    split at h
    · cases h
      exact absurd rfl hne
    · split at h
      · next hlt =>
        cases h
        exact hlt
      · cases h
        exact absurd rfl hne

theorem going_of_mem_sampleDeeds {t : Timeline ω} {k : Nat} {deed : Deed}
    (h : deed ∈ t.sampleDeeds c k) (begins : deed.isBeginning = true) :
    t.swarm.isStopping = false := by
  unfold sampleDeeds at h
  split at h
  · split at h
    · cases h
    · next going => exact Bool.not_eq_true _ ▸ going
  · cases List.mem_singleton.1 h
    cases begins
  · cases h

theorem isBeginning_of_mem_pickDeeds {t : Timeline ω} {k : Nat} {deed : Deed}
    (h : deed ∈ t.pickDeeds k) : deed.isBeginning = false := by
  unfold pickDeeds at h
  split at h
  · cases List.mem_singleton.1 h
    rfl
  · cases h

/-- Something is begun only while the swarm goes on, and not by the deadline. -/
theorem going_of_beginning {t : Timeline ω} {timer : Timer} {time : Duration}
    (isDue : IsDue c t time timer) {note : Note} (h : note ∈ (t.elapse time).notes c timer)
    (begins : note.deed.isBeginning = true) :
    note.time = time ∧ t.swarm.isStopping = false ∧ timer ≠ .deadline := by
  cases isDue with
  | deadline => cases h
  | report => cases h
  | spawn going room isTime => exact ⟨Note.time_of_mem_dated h, going, by rintro ⟨⟩⟩
  | @member k m place isTime =>
    refine ⟨Note.time_of_mem_dated h, ?_, by rintro ⟨⟩⟩
    obtain ⟨deed, hdeed, rfl⟩ := List.mem_map.1 h
    rcases List.mem_append.1 hdeed with hsample | hpick
    · exact going_of_mem_sampleDeeds (t := t.elapse time) hsample begins
    · rw [isBeginning_of_mem_pickDeeds hpick] at begins
      cases begins

/-- Where the deadline goes before whatever else is due then, all that is begun is begun before. -/
theorem lt_duration_of_mem_diary {limit : Nat} {t : Timeline ω} {note : Note}
    (h : note ∈ t.diary c limit) (begins : note.deed.isBeginning = true) :
    note.time.nanoseconds < c.test.settings.duration.nanoseconds := by
  induction limit generalizing t with
  | zero => cases h
  | succ limit ih =>
    unfold diary at h
    split at h
    · cases h
    · next entry hnext =>
      rcases List.mem_append.1 h with hnow | hlater
      · obtain ⟨htime, going, hne⟩ :=
          going_of_beginning (isDue_of_mem_due (mem_due_of_next? hnext)) hnow begins
        rw [htime]
        exact lt_duration_of_next? hnext going hne
      · exact ih hlater

theorem beginnings_diary (limit : Nat) (t : Timeline ω) (k : Nat) :
    Note.beginnings c.test.settings.duration k (t.diary c limit) = 0 := by
  rw [Note.beginnings, List.countP_eq_zero]
  intro note hnote hbegins
  obtain ⟨begins, htime⟩ := Bool.and_eq_true_iff.1 hbegins
  have hlt := lt_duration_of_mem_diary (List.mem_filter.1 hnote).1 begins
  rw [of_decide_eq_true htime] at hlt
  exact Nat.lt_irrefl _ hlt

/-! ### Turns -/

/-- The member in a place takes its turn: it does this, and is this from now on. -/
structure Turns (c : Course ω) (t u : Timeline ω) (k : Nat) (deeds : List Deed)
    (m : Member Flight) : Prop where
  members : u.swarm.members = t.swarm.members.set k m
  now : u.swarm.now = t.swarm.now
  notes : t.notes c (.member k) = Note.dated t.swarm.now k deeds
  load : u.swarm.tally.load = (deeds.flatMap Deed.writes).foldl Tally.Load.add t.swarm.tally.load

section Turns

variable {t : Timeline ω} {k number : Nat} {source : WordSource}

theorem pickDeeds_thinking {u : Timeline ω} {task : Task} {wait : Duration}
    (hk : k < t.swarm.size)
    (h : u.swarm.members = t.swarm.members.set k
      ⟨number, source, .thinking task (u.swarm.now + wait)⟩) :
    u.pickDeeds k = [.picked task wait] := by
  have hphase := Swarm.phase?_of_set_self hk h
  have hwait : (u.swarm.now + wait).nanoseconds - u.swarm.now.nanoseconds = wait.nanoseconds :=
    Nat.add_sub_cancel_left ..
  simp only [pickDeeds, hphase, hwait]

theorem pickDeeds_of_not_thinking {u : Timeline ω} {p : Phase Flight} (hk : k < t.swarm.size)
    (h : u.swarm.members = t.swarm.members.set k ⟨number, source, p⟩)
    (hp : ∀ task wake, p ≠ .thinking task wake) : u.pickDeeds k = [] := by
  have hphase := Swarm.phase?_of_set_self hk h
  unfold pickDeeds
  split
  · next task wake hthinking =>
    exact absurd (Option.some.inj (hphase.symm.trans hthinking)) (hp task wake)
  · rfl

theorem turns_starting (sound : c.test.IsSound)
    (place : t.swarm.members[k]? = some ⟨number, source, .starting⟩) :
    Turns c t (t.fire c (.member k)) k [.picked (c.test.taskFrom source) (c.test.waitFrom source)]
      ⟨number, c.test.restFrom source,
        .thinking (c.test.taskFrom source) (t.swarm.now + c.test.waitFrom source)⟩ := by
  have hk : k < t.swarm.size := (List.getElem?_eq_some_iff.1 place).1
  have hphase := phase?_of_place place
  have henter : t.swarm.enter c.test k = { t.swarm with
      members := t.swarm.members.set k ⟨number, c.test.restFrom source,
        .thinking (c.test.taskFrom source) (t.swarm.now + c.test.waitFrom source)⟩ } := by
    simp only [Swarm.enter, place, Member.thinking_eq_taskFrom sound]
    rfl
  have hfire : (t.fire c (.member k)).swarm = t.swarm.enter c.test k := by
    simp only [fire, advance, hphase]
  have hmembers : (t.fire c (.member k)).swarm.members =
      t.swarm.members.set k ⟨number, c.test.restFrom source,
        .thinking (c.test.taskFrom source) (t.swarm.now + c.test.waitFrom source)⟩ := by
    rw [hfire, henter]
  have hnow : (t.fire c (.member k)).swarm.now = t.swarm.now := by rw [hfire, henter]
  refine ⟨hmembers, hnow, ?_, ?_⟩
  · rw [notes, sampleDeeds, hphase, pickDeeds_thinking hk (by rw [hnow]; exact hmembers)]
    rfl
  · rw [hfire, henter]
    rfl

/-- A sample that was on its way is over. -/
theorem turns_executing (sound : c.test.IsSound) {task : Task} {flight : Flight}
    (place : t.swarm.members[k]? = some ⟨number, source, .executing task flight⟩) :
    Turns c t (t.fire c (.member k)) k
      [.ended task flight.took, .picked (c.test.taskFrom source) (c.test.waitFrom source)]
      ⟨number, c.test.restFrom source,
        .thinking (c.test.taskFrom source) (t.swarm.now + c.test.waitFrom source)⟩ := by
  have hk : k < t.swarm.size := (List.getElem?_eq_some_iff.1 place).1
  have hphase := phase?_of_place place
  have hfire : (t.fire c (.member k)).swarm =
      t.swarm.finish c.test k flight.outcome flight.took := by
    simp only [fire, advance, hphase]
  obtain ⟨hmembers, hnow, hload⟩ := t.swarm.finish_eq_taskFrom sound place flight.outcome flight.took
  rw [← hfire] at hmembers hnow hload
  refine ⟨hmembers, hnow, ?_, hload⟩
  rw [notes, sampleDeeds, hphase, pickDeeds_thinking hk (by rw [hnow]; exact hmembers)]
  rfl

/-- Whoever thinks leaves when the swarm was told to stop. -/
theorem turns_leaving {task : Task} {wake : Duration}
    (place : t.swarm.members[k]? = some ⟨number, source, .thinking task wake⟩)
    (stopping : t.swarm.isStopping = true) :
    Turns c t (t.fire c (.member k)) k [] ⟨number, source, .stopped⟩ := by
  have hk : k < t.swarm.size := (List.getElem?_eq_some_iff.1 place).1
  have hphase := phase?_of_place place
  have hfire : (t.fire c (.member k)).swarm = { t.swarm with
      members := t.swarm.members.set k ⟨number, source, .stopped⟩
      tally := t.swarm.tally.userStopped } := by
    rw [← Swarm.halt_eq place]
    simp only [fire, advance, hphase, stopping, if_true]
  have hmembers : (t.fire c (.member k)).swarm.members =
      t.swarm.members.set k ⟨number, source, .stopped⟩ := by rw [hfire]
  refine ⟨hmembers, by rw [hfire], ?_, ?_⟩
  · rw [notes, sampleDeeds, hphase, pickDeeds_of_not_thinking hk hmembers (by rintro _ _ ⟨⟩)]
    simp only [stopping, if_true]
    rfl
  · rw [hfire]
    exact Tally.load_write _ _

/-- What the request comes to that is sent now. -/
def flightFrom (c : Course ω) (t : Timeline ω) (k : Nat) (task : Task) : Flight :=
  let flight := (c.conditions.perform t.world k task).1
  { flight with landing := t.swarm.now + flight.took }

/-- A wait is over: a request is sent, or there is nothing to send and the sample is over as well. -/
theorem fire_waking {task : Task} {wake : Duration}
    (place : t.swarm.members[k]? = some ⟨number, source, .thinking task wake⟩)
    (going : t.swarm.isStopping = false) :
    (t.fire c (.member k)).swarm =
      if (flightFrom c t k task).outcome.isUnsent then
        (t.swarm.start k (flightFrom c t k task)).finish c.test k
          (flightFrom c t k task).outcome (flightFrom c t k task).took
      else t.swarm.start k (flightFrom c t k task) := by
  have hphase := phase?_of_place place
  have hfire : (t.fire c (.member k)).swarm = t.swarm.wake c.test k (flightFrom c t k task)
      (if (flightFrom c t k task).outcome.isUnsent then
        some ((flightFrom c t k task).outcome, (flightFrom c t k task).took) else none) := by
    simp only [fire, advance, hphase, going, Bool.false_eq_true, if_false]
    rfl
  rw [hfire, Swarm.wake_eq, going, if_neg (by decide)]
  split <;> rfl

theorem sampleDeeds_waking {task : Task} {wake : Duration}
    (place : t.swarm.members[k]? = some ⟨number, source, .thinking task wake⟩)
    (going : t.swarm.isStopping = false) :
    t.sampleDeeds c k = if (flightFrom c t k task).outcome.isUnsent then
      [.started task, .ended task (flightFrom c t k task).took] else [.started task] := by
  simp only [sampleDeeds, phase?_of_place place, going, Bool.false_eq_true, if_false]
  rfl

/-- Where there is nothing to send, a sample is started and over at once. -/
theorem turns_skipping (sound : c.test.IsSound) {task : Task} {wake : Duration}
    (place : t.swarm.members[k]? = some ⟨number, source, .thinking task wake⟩)
    (going : t.swarm.isStopping = false)
    (unsent : (flightFrom c t k task).outcome.isUnsent = true) :
    Turns c t (t.fire c (.member k)) k
      [.started task, .ended task (flightFrom c t k task).took,
        .picked (c.test.taskFrom source) (c.test.waitFrom source)]
      ⟨number, c.test.restFrom source,
        .thinking (c.test.taskFrom source) (t.swarm.now + c.test.waitFrom source)⟩ := by
  have hk : k < t.swarm.size := (List.getElem?_eq_some_iff.1 place).1
  have hstarted := Swarm.start_eq place (flightFrom c t k task)
  have hfire := fire_waking (c := c) place going
  -- the same place is taken twice
  have hexecuting : (t.swarm.start k (flightFrom c t k task)).members[k]? =
      some ⟨number, source, .executing task (flightFrom c t k task)⟩ := by
    rw [hstarted]
    exact List.getElem?_set_self hk
  obtain ⟨hmembers, hnow, hload⟩ := Swarm.finish_eq_taskFrom sound _ hexecuting
    (flightFrom c t k task).outcome (flightFrom c t k task).took
  rw [if_pos unsent] at hfire
  rw [← hfire, hstarted] at hmembers hnow hload
  dsimp only at hmembers hnow hload
  rw [List.set_set] at hmembers
  refine ⟨hmembers, hnow, ?_, ?_⟩
  · rw [notes, sampleDeeds_waking place going, if_pos unsent,
      pickDeeds_thinking hk (by rw [hnow]; exact hmembers)]
    rfl
  · rw [hload, Tally.requestStarted, Tally.load_write]
    rfl

/-- A request is sent. -/
theorem turns_sending {task : Task} {wake : Duration}
    (place : t.swarm.members[k]? = some ⟨number, source, .thinking task wake⟩)
    (going : t.swarm.isStopping = false)
    (sent : ¬ (flightFrom c t k task).outcome.isUnsent = true) :
    Turns c t (t.fire c (.member k)) k [.started task]
      ⟨number, source, .executing task (flightFrom c t k task)⟩ := by
  have hk : k < t.swarm.size := (List.getElem?_eq_some_iff.1 place).1
  have hfire := fire_waking (c := c) place going
  rw [if_neg sent, Swarm.start_eq place] at hfire
  have hmembers : (t.fire c (.member k)).swarm.members = t.swarm.members.set k
      ⟨number, source, .executing task (flightFrom c t k task)⟩ := by rw [hfire]
  refine ⟨hmembers, by rw [hfire], ?_, ?_⟩
  · rw [notes, sampleDeeds_waking place going, if_neg sent,
      pickDeeds_of_not_thinking hk hmembers (by rintro _ _ ⟨⟩)]
    rfl
  · rw [hfire]
    exact Tally.load_write _ _

end Turns

/-! ### Lengths

Whatever is true of how long requests take, is true of the lengths that are noted. -/

section Lengths

variable {p : Nat → Duration → Prop} {notes : List Note} {t u : Timeline ω}

/-- It is true of the lengths that are noted, and of the requests that are on their way. -/
structure Lasts (p : Nat → Duration → Prop) (notes : List Note) (t : Timeline ω) : Prop where
  noted : ∀ k, ∀ took ∈ Note.lengthsOf k notes, p k took
  away : ∀ k task flight, t.swarm.phase? k = some (.executing task flight) → p k flight.took

theorem Lasts.turn (h : Lasts p notes t) {k : Nat} {deeds : List Deed} {m : Member Flight}
    (hk : k < t.swarm.size) (turns : Turns c t u k deeds m)
    (ended : ∀ took ∈ deeds.filterMap Deed.took?, p k took)
    (away : ∀ task flight, m.phase = .executing task flight → p k flight.took) :
    Lasts p (notes ++ t.notes c (.member k)) u := by
  constructor
  case noted =>
    intro other took htook
    rw [Note.lengthsOf_append, turns.notes, Note.lengthsOf_dated, List.mem_append] at htook
    rcases htook with hbefore | hnow
    · exact h.noted other took hbefore
    · split at hnow
      · next heq =>
        rw [heq]
        exact ended took hnow
      · cases hnow
  case away =>
    intro other task flight hexecuting
    rw [Swarm.phase?, turns.members] at hexecuting
    by_cases hother : other = k
    · subst hother
      rw [List.getElem?_set_self hk] at hexecuting
      exact away task flight (Option.some.inj hexecuting)
    · rw [List.getElem?_set_ne (Ne.symm hother)] at hexecuting
      exact h.away other task flight hexecuting

theorem Lasts.member (sound : c.test.IsSound)
    (hp : ∀ world k task, p k (c.conditions.perform world k task).1.took) (h : Lasts p notes t)
    {k : Nat} (isDue : IsDue c t t.swarm.now (.member k)) :
    Lasts p (notes ++ t.notes c (.member k)) (t.fire c (.member k)) := by
  cases isDue with
  | @member k m place isNow =>
    have hk : k < t.swarm.size := (List.getElem?_eq_some_iff.1 place).1
    obtain ⟨number, source, phase⟩ := m
    cases phase with
    | starting =>
      exact h.turn hk (turns_starting sound place) (by rintro took ⟨⟩) (by rintro task flight ⟨⟩)
    | thinking task wake =>
      cases hstop : t.swarm.isStopping with
      | true =>
        exact h.turn hk (turns_leaving place hstop) (by rintro took ⟨⟩) (by rintro task flight ⟨⟩)
      | false =>
        by_cases unsent : (flightFrom c t k task).outcome.isUnsent = true
        · refine h.turn hk (turns_skipping sound place hstop unsent) (fun took hmem => ?_)
            (by rintro task flight ⟨⟩)
          rw [List.mem_singleton.1 hmem]
          exact hp t.world k task
        · refine h.turn hk (turns_sending place hstop unsent) (by rintro took ⟨⟩) ?_
          rintro _ _ ⟨⟩
          exact hp t.world k task
    | executing task flight =>
      refine h.turn hk (turns_executing sound place) (fun took hmem => ?_)
        (by rintro task flight ⟨⟩)
      rw [List.mem_singleton.1 hmem]
      exact h.away k task flight (phase?_of_place place)
    | stopped => cases isNow
    | crashed fault => cases isNow

theorem Lasts.fire (sound : c.test.IsSound)
    (hp : ∀ world k task, p k (c.conditions.perform world k task).1.took) (h : Lasts p notes t)
    {timer : Timer} (isDue : IsDue c t t.swarm.now timer) :
    Lasts p (notes ++ t.notes c timer) (t.fire c timer) := by
  cases timer with
  | deadline =>
    rw [Timeline.notes, List.append_nil]
    exact ⟨h.noted, h.away⟩
  | report =>
    rw [Timeline.notes, List.append_nil]
    exact ⟨h.noted, h.away⟩
  | member k => exact h.member sound hp isDue
  | spawn =>
    constructor
    case noted =>
      intro other took htook
      rw [Note.lengthsOf_append, Timeline.notes, Note.lengthsOf_dated] at htook
      rcases List.mem_append.1 htook with hbefore | hnow
      · exact h.noted other took hbefore
      · split at hnow <;> cases hnow
    case away =>
      intro other task flight hexecuting
      cases isDue with
      | spawn going room isNow =>
        have step : Swarm.Step c.test t.swarm (.spawn (c.conditions.words t.swarm.size)) _ :=
          .spawn _ going room
        rcases Swarm.executing_of_step sound step hexecuting with hbefore | hsent
        · exact h.away other task flight hbefore
        · cases hsent

/-- Lengths are noted of which that is true, if it is true of whatever requests take. -/
theorem lasts_of_noted (sound : c.test.IsSound)
    (hp : ∀ world k task, p k (c.conditions.perform world k task).1.took) {world : ω}
    (h : Noted c world notes t) : Lasts p notes t := by
  induction h with
  | start => exact ⟨fun k took htook => (nomatch htook), fun k task flight h => (nomatch h)⟩
  | @next notes t before going entry isDue isFirst ih =>
    have elapsed : Lasts p notes (t.elapse entry.1) := ⟨ih.noted, ih.away⟩
    exact elapsed.fire sound hp (isDue_of_mem_due isDue).elapse

end Lengths

end Timeline

end QuerySwarm
