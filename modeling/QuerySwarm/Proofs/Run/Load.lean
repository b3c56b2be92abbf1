import QuerySwarm.Proofs.Run.Timetable
import QuerySwarm.Proofs.Swarm.Rota

/-!
# Failures do not alter the load

Of two runs of a load test in which users choose with the same words and requests take equally long,
one ends if the other does, and then the same was done: by the same users, at the same times, with
the same tasks, waits and requests, and all that is counted but successes and failures is the same.
What comes of requests may differ in any way (`LoadTest.alike_of_make`).

This goes for any order in which things happen that are due at once, with one thing that the order
settles: who is started and which samples are begun at the deadline itself, before the swarm is told
to stop. Two runs have to settle that alike. Where the deadline always goes first nothing is begun
then.
-/

namespace QuerySwarm

/-! ### Lengths of two diaries -/

/-- Wherever both diaries note how long a request of a user took, they note the same. -/
def Note.SameLengths (notes notes' : List Note) : Prop :=
  ∀ k n : Nat, ∀ took ∈ (lengthsOf k notes)[n]?, ∀ took' ∈ (lengthsOf k notes')[n]?, took = took'

/-- Then there are lengths that both of them note. -/
theorem Note.SameLengths.exists_take {notes notes' : List Note} (h : SameLengths notes notes') :
    ∃ lengths, Take lengths notes ∧ Take lengths notes' := by
  refine ⟨fun k n => ((lengthsOf k notes)[n]?.or (lengthsOf k notes')[n]?).getD .zero, ?_, ?_⟩
  · intro k n took htook
    dsimp only
    rw [Option.mem_def.1 htook]
    rfl
  · intro k n took' htook'
    dsimp only
    cases htook : (lengthsOf k notes)[n]? with
    | none => rw [Option.none_or, Option.mem_def.1 htook', Option.getD_some]
    | some took => exact h k n took htook took' htook'

theorem Note.SameLengths.symm {notes notes' : List Note} (h : SameLengths notes notes') :
    SameLengths notes' notes :=
  fun k n took' htook' took htook => (h k n took htook took' htook').symm

namespace LoadTest

variable {clock : Clock} {settings : Settings} {tasks : TaskSet} {token : BearerToken}
  {test : LoadTest} {ω ω' : Type}

/-- The diary of a run of a load test, of so many steps at most. -/
def diary (test : LoadTest) (clock : Clock) (conditions : Conditions ω) (world : ω) (limit : Nat) :
    List Note :=
  match test.course clock conditions with
  | .error _ => []
  | .ok c => (Timeline.initial test world).diary c limit

end LoadTest

namespace Timeline

variable {ω ω' : Type} {c : Course ω} {c' : Course ω'} {world : ω} {world' : ω'}
  {limit limit' : Nat} {ended : Timeline ω} {ended' : Timeline ω'}

theorem noted_of_run (h : run c limit (initial c.test world) = some ended) :
    Noted c world (diary c limit (initial c.test world)) ended := by
  have noted := noted_diary (.start : Noted c world [] _) limit
  rw [onward_of_run h] at noted
  exact noted

/-- Two runs that have ended are alike if users chose with the same words, requests took equally
long, and equally much was begun at the deadline. -/
theorem alike_of_sameLengths (sound : c.test.IsSound) (skips : c.conditions.SkipsAtOnce)
    (skips' : c'.conditions.SkipsAtOnce) (same : ∀ lengths, c'.rota lengths = c.rota lengths)
    {notes notes' : List Note} (noted : Noted c world notes ended)
    (noted' : Noted c' world' notes' ended') (hlengths : Note.SameLengths notes notes')
    (ties : Note.SameTies c.test.settings.duration notes notes')
    (done : ended.swarm.isDone = true) (done' : ended'.swarm.isDone = true) :
    Alike notes notes' ended ended' := by
  obtain ⟨lengths, take, take'⟩ := hlengths.exists_take
  exact alike_of_noted sound skips skips' (same lengths) noted noted' take take' ties done done'

/-- Of what two runs note about a user one is the beginning of the other, if users choose with the
same words and requests take equally long. -/
theorem own_prefix_or_of_sameLengths (sound : c.test.IsSound) (skips : c.conditions.SkipsAtOnce)
    (skips' : c'.conditions.SkipsAtOnce) (same : ∀ lengths, c'.rota lengths = c.rota lengths)
    {notes notes' : List Note} {t : Timeline ω} {t' : Timeline ω'} (noted : Noted c world notes t)
    (noted' : Noted c' world' notes' t') (hlengths : Note.SameLengths notes notes') (k : Nat) :
    Note.own k notes <+: Note.own k notes' ∨ Note.own k notes' <+: Note.own k notes := by
  obtain ⟨lengths, take, take'⟩ := hlengths.exists_take
  exact own_prefix_or_of_noted sound skips skips' (same lengths) noted noted' take take' k

/-- Runs that put the deadline first settle what is due then in the same way. -/
theorem sameTies_diary (c : Course ω) (c' : Course ω') (htest : c'.test = c.test)
    (limit limit' : Nat) (t : Timeline ω) (t' : Timeline ω') :
    Note.SameTies c.test.settings.duration (diary c limit t) (diary c' limit' t') := by
  intro k
  rw [beginnings_diary, ← htest, beginnings_diary]

/-- Where one run ends, so does another in which users choose with the same words and requests take
equally long. -/
theorem exists_run_of_run (sound : c.test.IsSound) (skips : c.conditions.SkipsAtOnce)
    (skips' : c'.conditions.SkipsAtOnce)
    (same : ∀ lengths, c'.rota lengths = c.rota lengths)
    (hlengths : ∀ limit limit', Note.SameLengths (diary c limit (initial c.test world))
      (diary c' limit' (initial c'.test world')))
    (h : run c limit (initial c.test world) = some ended) :
    ∃ limit' ended', run c' limit' (initial c'.test world') = some ended' := by
  have htest : c'.test = c.test := congrArg Rota.test (same fun _ _ => .zero)
  have sound' : c'.test.IsSound := htest ▸ sound
  by_contra hnone
  have endless : Endless c' world' fun n => (onward c')^[n] (initial c'.test world') :=
    endless_of_run_eq_none fun limit' => by
    cases hended : run c' limit' (initial c'.test world') with
    | none => rfl
    | some ended' => exact (hnone ⟨limit', ended', hended⟩).elim
  -- it would start more requests than the other run has notes
  obtain ⟨n, hstarted⟩ :=
    endless.exists_lt_started sound' (diary c limit (initial c.test world)).length
  have noted' := noted_diary (.start : Noted c' world' [] _) n
  rw [List.nil_append] at noted'
  obtain ⟨lengths, take, take'⟩ := (hlengths limit n).exists_take
  have hown : ∀ k, Note.own k (diary c' n (initial c'.test world')) <+:
      Note.own k (diary c limit (initial c.test world)) := fun k =>
    own_prefix_of_noted sound' skips' skips (same lengths).symm noted' (noted_of_run h) take' take
      (isDone_of_run h) (by rw [beginnings_diary]; exact Nat.zero_le _)
  have hload := (follows_of_noted sound' skips' noted' take').load
  have hle := Nat.le_trans (Note.started_load_le _) (Note.subperm_of_prefix_own hown).length_le
  rw [← hload] at hle
  exact absurd hstarted (Nat.not_lt_of_le hle)

end Timeline

namespace LoadTest

variable {clock : Clock} {settings : Settings} {tasks : TaskSet} {token : BearerToken}
  {test : LoadTest}

/-- A run that can begin ends as its swarm does. -/
theorem result_eq_ok_iff {ω : Type} {c : Course ω} {conditions : Conditions ω}
    (h : test.course clock conditions = .ok c) {world : ω} {limit : Nat} {ended : Timeline ω} :
    (test.run clock conditions world limit).result = .ok ended ↔
      (Timeline.initial test world).run c limit = some ended := by
  rw [result_eq_of_course h]
  cases (Timeline.initial test world).run c limit <;> simp

/-- Two runs of a load test, of which users choose with the same words and requests take equally
long, do the same as far as they get, and end alike or not at all: what comes of the requests makes
no difference.

The runs that are meant first put the deadline before whatever else is due then. The last part is
about all states that a run can come to, in whatever order happens what is due at once: what is
noted of a user is the same as far as both runs get, and runs that have ended are alike if equally
much was begun at the deadline itself. -/
theorem alike_of_make (made : make clock settings tasks token = .ok test) {ω ω' : Type}
    (conditions : Conditions ω) (conditions' : Conditions ω') (world : ω) (world' : ω')
    (hwords : conditions.words = conditions'.words) (skips : conditions.SkipsAtOnce)
    (skips' : conditions'.SkipsAtOnce) :
    ((∀ limit limit', Note.SameLengths (test.diary clock conditions world limit)
        (test.diary clock conditions' world' limit')) →
      (∀ limit limit' k,
        Note.own k (test.diary clock conditions world limit) <+:
            Note.own k (test.diary clock conditions' world' limit') ∨
          Note.own k (test.diary clock conditions' world' limit') <+:
            Note.own k (test.diary clock conditions world limit)) ∧
      ((∃ limit ended, (test.run clock conditions world limit).result = .ok ended) ↔
        ∃ limit ended, (test.run clock conditions' world' limit).result = .ok ended) ∧
      ∀ limit ended limit' ended', (test.run clock conditions world limit).result = .ok ended →
        (test.run clock conditions' world' limit').result = .ok ended' →
        Timeline.Alike (test.diary clock conditions world limit)
          (test.diary clock conditions' world' limit') ended ended') ∧
    ∀ c c', test.course clock conditions = .ok c → test.course clock conditions' = .ok c' →
      (∀ t, Timeline.Reaches c world t ↔ ∃ notes, Timeline.Noted c world notes t) ∧
      (∀ t', Timeline.Reaches c' world' t' ↔ ∃ notes', Timeline.Noted c' world' notes' t') ∧
      ∀ notes t notes' t', Timeline.Noted c world notes t → Timeline.Noted c' world' notes' t' →
        Note.SameLengths notes notes' →
        (∀ k, Note.own k notes <+: Note.own k notes' ∨ Note.own k notes' <+: Note.own k notes) ∧
        (Note.SameTies test.settings.duration notes notes' →
          t.swarm.isDone = true → t'.swarm.isDone = true → Timeline.Alike notes notes' t t') := by
  obtain ⟨sound, rfl⟩ := isSound_of_make made
  obtain ⟨interval, hinterval, hcourse⟩ := exists_course_eq made conditions
  obtain ⟨interval', hinterval', hcourse'⟩ := exists_course_eq made conditions'
  obtain rfl : interval = interval' := Except.ok.inj (hinterval.symm.trans hinterval')
  by_cases hroom : test.settings.users < crowd
  · rw [if_pos hroom] at hcourse hcourse'
    -- both begin, and whatever lengths they share they go by one rota
    let c : Course ω := ⟨test, interval, conditions⟩
    let c' : Course ω' := ⟨test, interval, conditions'⟩
    have same : ∀ lengths, c'.rota lengths = c.rota lengths := fun lengths => by
      simp only [Course.rota, c, c', hwords]
    have hdiary : ∀ limit, test.diary clock conditions world limit =
        Timeline.diary c limit (.initial c.test world) := fun limit => by
      unfold diary
      rw [hcourse]
    have hdiary' : ∀ limit, test.diary clock conditions' world' limit =
        Timeline.diary c' limit (.initial c'.test world') := fun limit => by
      unfold diary
      rw [hcourse']
    simp only [hdiary, hdiary', result_eq_ok_iff hcourse, result_eq_ok_iff hcourse']
    refine ⟨fun hlengths => ⟨fun limit limit' k => ?_, ⟨?_, ?_⟩,
      fun limit ended limit' ended' hended hended' => ?_⟩, fun d d' hd hd' => ?_⟩
    · exact Timeline.own_prefix_or_of_sameLengths (c := c) sound skips skips' same
        (Timeline.noted_diary .start limit) (Timeline.noted_diary .start limit')
        (hlengths limit limit') k
    · rintro ⟨limit, ended, hended⟩
      exact Timeline.exists_run_of_run (c := c) sound skips skips' same hlengths hended
    · rintro ⟨limit', ended', hended'⟩
      exact Timeline.exists_run_of_run (c := c') sound skips' skips
        (fun lengths => (same lengths).symm)
        (fun limit' limit => (hlengths limit limit').symm) hended'
    · exact Timeline.alike_of_sameLengths (c := c) sound skips skips' same
        (Timeline.noted_of_run hended) (Timeline.noted_of_run hended') (hlengths limit limit')
        (Timeline.sameTies_diary c c' rfl limit limit' _ _) (Timeline.isDone_of_run hended)
        (Timeline.isDone_of_run hended')
    · obtain rfl : c = d := Except.ok.inj (hcourse.symm.trans hd)
      obtain rfl : c' = d' := Except.ok.inj (hcourse'.symm.trans hd')
      refine ⟨fun t => Timeline.exists_noted_iff.symm, fun t' => Timeline.exists_noted_iff.symm,
        fun notes t notes' t' noted noted' hsame => ⟨fun k => ?_, fun ties done done' => ?_⟩⟩
      · exact Timeline.own_prefix_or_of_sameLengths sound skips skips' same noted noted' hsame k
      · exact Timeline.alike_of_sameLengths sound skips skips' same noted noted' hsame ties done
          done'
  · rw [if_neg hroom] at hcourse hcourse'
    simp only [result_eq_of_course_error hcourse, result_eq_of_course_error hcourse']
    -- neither of them begins
    have hdiary : ∀ limit, test.diary clock conditions world limit = [] := fun limit => by
      unfold diary
      rw [hcourse]
    refine ⟨fun _ => ⟨fun limit limit' k => .inl ?_, ⟨?_, ?_⟩, ?_⟩, ?_⟩
    · rw [hdiary]
      exact List.nil_prefix
    · rintro ⟨limit, ended, ⟨⟩⟩
    · rintro ⟨limit, ended, ⟨⟩⟩
    · rintro limit ended limit' ended' ⟨⟩
    · rintro d d' hd
      cases hcourse.symm.trans hd

/-! ### A success and a failure -/

/-- Every request takes a fifth of a second and comes to this. -/
def steady (outcome : Outcome) : Conditions Unit where
  words _ := .ofWords []
  perform world _ _ := (⟨.zero, .ofMilliseconds 200, outcome⟩, world)
  stopwatch time := time
  machine _ := .none

/-- How many requests went well and how many failed, if a run takes twenty steps at most. -/
def countsOf (test : LoadTest) (conditions : Conditions Unit) : Option (Nat × Nat) :=
  (test.run ⟨.zero⟩ conditions () 20).result.toOption.map fun ended =>
    (ended.swarm.requests.succeeded, ended.swarm.requests.failed)

theorem exists_of_countsOf {conditions : Conditions Unit} {counts : Nat × Nat}
    (h : test.countsOf conditions = some counts) :
    ∃ ended, (test.run ⟨.zero⟩ conditions () 20).result = .ok ended ∧
      (ended.swarm.requests.succeeded, ended.swarm.requests.failed) = counts := by
  unfold countsOf at h
  cases hresult : (test.run ⟨.zero⟩ conditions () 20).result with
  | error fault =>
    rw [hresult] at h
    cases h
  | ok ended =>
    rw [hresult] at h
    exact ⟨ended, rfl, Option.some.inj h⟩

end LoadTest

/-- Whose note it is, when it was taken, and whether something begins with it. -/
def Note.outline (note : Note) : Nat × Duration × Bool :=
  (note.user, note.time, note.deed.isBeginning)

/-- Ties are settled in the same way where the outlines are the same. -/
theorem Note.sameTies_of_outlines {notes notes' : List Note}
    (h : notes.map outline = notes'.map outline) (deadline : Duration) :
    SameTies deadline notes notes' := by
  have hcount : ∀ k notes, beginnings deadline k notes =
      (notes.map outline).countP fun o =>
        (o.2.2 && decide (o.2.1 = deadline)) && decide (o.1 = k) := fun k notes => by
    rw [beginnings, own, List.countP_filter, List.countP_map]
    rfl
  intro k
  rw [hcount, hcount, h]

namespace Timeline

variable {ω : Type} {c : Course ω} {world : ω}

/-- Let timers fire in this order, each of which has to be due when nothing is due before it. What
is noted of it, and what it comes to. -/
def replay (c : Course ω) : List Timer → Timeline ω → Option (List Note × Timeline ω)
  | [], t => some ([], t)
  | timer :: rest, t =>
    if t.swarm.isDone then none
    else
      match (t.due c).find? fun entry => entry.2 = timer &&
        (t.due c).all fun other => entry.1.nanoseconds ≤ other.1.nanoseconds with
      | none => none
      | some entry => (replay c rest (t.step c entry)).map fun replayed =>
          ((t.elapse entry.1).notes c entry.2 ++ replayed.1, replayed.2)

theorem noted_of_replay {timers : List Timer} {notes more : List Note} {t u : Timeline ω}
    (h : Noted c world notes t) (hreplay : replay c timers t = some (more, u)) :
    Noted c world (notes ++ more) u := by
  induction timers generalizing notes more t with
  | nil =>
    cases hreplay
    rw [List.append_nil]
    exact h
  | cons timer rest ih =>
    unfold replay at hreplay
    split at hreplay
    · cases hreplay
    · next going =>
      split at hreplay
      · cases hreplay
      · next entry hentry =>
        obtain ⟨⟨more, u⟩, hrest, hreplayed⟩ := Option.map_eq_some_iff.1 hreplay
        cases hreplayed
        have hfound := List.find?_some hentry
        simp only [Bool.and_eq_true, List.all_eq_true, decide_eq_true_eq] at hfound
        have moved := Noted.next h (Bool.not_eq_true _ ▸ going) entry
          (List.mem_of_find?_eq_some hentry) hfound.2
        rw [← List.append_assoc]
        exact ih moved hrest

end Timeline

namespace LoadTest

variable {clock : Clock} {settings : Settings} {tasks : TaskSet} {token : BearerToken}
  {test : LoadTest}

/-- The settings of a run that ends just when the second user is due and the first one wakes up. -/
def tiedSettings : Settings := { briskSettings with duration := .ofSeconds 1 }

/-- At the deadline the first user sends its request and the second one is started, and then the
swarm is told to stop. -/
def deadlineLast : List Timer :=
  [.spawn, .member 0, .member 0, .spawn, .member 1, .deadline, .member 1, .member 0, .member 0]

/-- The run in which the deadline goes last, if requests come to this. -/
def tied (test : LoadTest) (outcome : Outcome) : Option (List Note × Timeline Unit) :=
  Timeline.replay ⟨test, .ofSeconds 1, steady outcome⟩ deadlineLast (.initial test ())

/-- What comes of a run: whether it ends, how many requests went well and how many failed, how much
the second user began at the deadline, and the outlines of all notes. -/
structure Upshot where
  isDone : Bool
  succeeded : Nat
  failed : Nat
  begun : Nat
  outlines : List (Nat × Duration × Bool)
  deriving DecidableEq

def upshot (notes : List Note) (t : Timeline Unit) : Upshot where
  isDone := t.swarm.isDone
  succeeded := t.swarm.requests.succeeded
  failed := t.swarm.requests.failed
  begun := Note.beginnings tiedSettings.duration 1 notes
  outlines := notes.map Note.outline

/-- What comes of the run in which the deadline goes last. -/
def tiedUpshot (succeeded failed : Nat) : Upshot where
  isDone := true
  succeeded := succeeded
  failed := failed
  begun := 1
  outlines := [(0, .zero, true), (0, .zero, false), (0, .ofSeconds 1, true),
    (1, .ofSeconds 1, true), (1, .ofSeconds 1, false), (0, .ofMilliseconds 1200, false),
    (0, .ofMilliseconds 1200, false)]

theorem exists_of_tied {outcome : Outcome} {u : Upshot}
    (h : ((test.tied outcome).map fun replayed => upshot replayed.1 replayed.2) = some u) :
    ∃ notes ended, test.tied outcome = some (notes, ended) ∧ upshot notes ended = u := by
  obtain ⟨⟨notes, ended⟩, htied, hupshot⟩ := Option.map_eq_some_iff.1 h
  exact ⟨notes, ended, htied, hupshot⟩

theorem noted_of_tied {outcome : Outcome} {notes : List Note} {ended : Timeline Unit}
    (h : test.tied outcome = some (notes, ended)) :
    Timeline.Noted ⟨test, .ofSeconds 1, steady outcome⟩ () notes ended :=
  Timeline.noted_of_replay .start h

/-- Where every request takes equally long, two diaries note the same lengths. -/
theorem sameLengths_of_steady (sound : test.IsSound) {outcome outcome' : Outcome}
    {interval : Duration} {notes notes' : List Note} {t t' : Timeline Unit}
    (noted : Timeline.Noted ⟨test, interval, steady outcome⟩ () notes t)
    (noted' : Timeline.Noted ⟨test, interval, steady outcome'⟩ () notes' t') :
    Note.SameLengths notes notes' := by
  have lasts := Timeline.lasts_of_noted (p := fun _ took => took = .ofMilliseconds 200) sound
    (fun _ _ _ => rfl) noted
  have lasts' := Timeline.lasts_of_noted (p := fun _ took => took = .ofMilliseconds 200) sound
    (fun _ _ _ => rfl) noted'
  intro k n took htook took' htook'
  rw [lasts.noted k took (List.mem_of_getElem? htook),
    lasts'.noted k took' (List.mem_of_getElem? htook')]

theorem sameLengths_diary (made : make clock settings tasks token = .ok test)
    (outcome outcome' : Outcome) (limit limit' : Nat) :
    Note.SameLengths (test.diary clock (steady outcome) () limit)
      (test.diary clock (steady outcome') () limit') := by
  obtain ⟨sound, rfl⟩ := isSound_of_make made
  obtain ⟨interval, hinterval, hcourse⟩ := exists_course_eq made (steady outcome)
  obtain ⟨interval', hinterval', hcourse'⟩ := exists_course_eq made (steady outcome')
  obtain rfl : interval = interval' := Except.ok.inj (hinterval.symm.trans hinterval')
  unfold diary
  rw [hcourse, hcourse']
  by_cases hroom : test.settings.users < crowd
  · rw [if_pos hroom, if_pos hroom]
    exact sameLengths_of_steady sound (Timeline.noted_diary .start limit)
      (Timeline.noted_diary .start limit')
  · rw [if_neg hroom]
    rintro k n took ⟨⟩

theorem course_of_make
    (made : make ⟨.zero⟩ settings ⟨[.template "query.json"]⟩ ⟨"token", by decide⟩ = .ok test)
    (hroom : settings.users < crowd)
    (hinterval : (settings.spawnInterval ⟨.zero⟩).toOption = some (.ofSeconds 1))
    (conditions : Conditions Unit) :
    test.course ⟨.zero⟩ conditions = .ok ⟨test, .ofSeconds 1, conditions⟩ := by
  obtain ⟨-, rfl⟩ := isSound_of_make made
  obtain ⟨interval, hsecond, hcourse⟩ := exists_course_eq made conditions
  rw [hsecond] at hinterval
  obtain rfl : interval = .ofSeconds 1 := Option.some.inj hinterval
  rw [hcourse, if_pos hroom]

/-- One run in which the only request goes well, and one in which it fails: once the deadline goes
first, and once a request is sent and a user is started at the deadline before the swarm is told to
stop. -/
theorem alike_of_success_and_failure :
    (∃ test ended ended', make ⟨.zero⟩ briskSettings ⟨[.template "query.json"]⟩
        ⟨"token", by decide⟩ = .ok test ∧
      (test.run ⟨.zero⟩ (steady ⟨.ok 200, []⟩) () 20).result = .ok ended ∧
      (test.run ⟨.zero⟩ (steady (.failed (.status 500))) () 20).result = .ok ended' ∧
      ended.swarm.requests.succeeded = 1 ∧ ended'.swarm.requests.failed = 1 ∧
      Timeline.Alike (test.diary ⟨.zero⟩ (steady ⟨.ok 200, []⟩) () 20)
        (test.diary ⟨.zero⟩ (steady (.failed (.status 500))) () 20) ended ended') ∧
    ∃ (test : LoadTest) (notes notes' : List Note) (ended ended' : Timeline Unit),
      make ⟨.zero⟩ tiedSettings ⟨[.template "query.json"]⟩ ⟨"token", by decide⟩ = .ok test ∧
      Timeline.Reaches ⟨test, .ofSeconds 1, steady ⟨.ok 200, []⟩⟩ () ended ∧
      Timeline.Reaches ⟨test, .ofSeconds 1, steady (.failed (.status 500))⟩ () ended' ∧
      Note.beginnings test.settings.duration 1 notes = 1 ∧
      ended.swarm.requests.succeeded = 1 ∧ ended'.swarm.requests.failed = 1 ∧
      Timeline.Alike notes notes' ended ended' := by
  have hcounts : ((make ⟨.zero⟩ briskSettings ⟨[.template "query.json"]⟩
      ⟨"token", by decide⟩).toOption.map fun test =>
        (test.countsOf (steady ⟨.ok 200, []⟩), test.countsOf (steady (.failed (.status 500))))) =
      some (some (1, 0), some (0, 1)) := by decide +kernel
  have hupshots : ((make ⟨.zero⟩ tiedSettings ⟨[.template "query.json"]⟩
      ⟨"token", by decide⟩).toOption.map fun test =>
        ((test.tied ⟨.ok 200, []⟩).map fun replayed => upshot replayed.1 replayed.2,
          (test.tied (.failed (.status 500))).map fun replayed => upshot replayed.1 replayed.2)) =
      some (some (tiedUpshot 1 0), some (tiedUpshot 0 1)) := by
    decide +kernel
  constructor
  · cases made : make ⟨.zero⟩ briskSettings ⟨[.template "query.json"]⟩ ⟨"token", by decide⟩ with
    | error e =>
      rw [made] at hcounts
      cases hcounts
    | ok test =>
      rw [made] at hcounts
      obtain ⟨hgood, hbad⟩ := Prod.mk.inj (Option.some.inj hcounts)
      obtain ⟨ended, hended, hsucceeded⟩ := exists_of_countsOf hgood
      obtain ⟨ended', hended', hfailed⟩ := exists_of_countsOf hbad
      have alike := (alike_of_make made (steady ⟨.ok 200, []⟩) (steady (.failed (.status 500)))
        () () rfl (by rintro _ _ _ ⟨⟩) (by rintro _ _ _ ⟨⟩)).1 fun limit limit' =>
          sameLengths_diary made _ _ limit limit'
      exact ⟨test, ended, ended', rfl, hended, hended', congrArg Prod.fst hsucceeded,
        congrArg Prod.snd hfailed, alike.2.2 20 ended 20 ended' hended hended'⟩
  · cases made : make ⟨.zero⟩ tiedSettings ⟨[.template "query.json"]⟩ ⟨"token", by decide⟩ with
    | error e =>
      rw [made] at hupshots
      cases hupshots
    | ok test =>
      rw [made] at hupshots
      obtain ⟨hgood, hbad⟩ := Prod.mk.inj (Option.some.inj hupshots)
      obtain ⟨notes, ended, htied, hupshot⟩ := exists_of_tied hgood
      obtain ⟨notes', ended', htied', hupshot'⟩ := exists_of_tied hbad
      simp only [upshot, tiedUpshot, Upshot.mk.injEq] at hupshot hupshot'
      obtain ⟨done, hsucceeded, -, hbegun, houtlines⟩ := hupshot
      obtain ⟨done', -, hfailed, -, houtlines'⟩ := hupshot'
      obtain ⟨sound, hsettings⟩ := isSound_of_make made
      have hcourse := fun conditions =>
        course_of_make made (by decide) (by decide +kernel) conditions
      have noted := noted_of_tied htied
      have noted' := noted_of_tied htied'
      obtain ⟨hreaches, hreaches', hpairs⟩ := (alike_of_make made (steady ⟨.ok 200, []⟩)
        (steady (.failed (.status 500))) () () rfl (by rintro _ _ _ ⟨⟩) (by rintro _ _ _ ⟨⟩)).2
          _ _ (hcourse _) (hcourse _)
      have ties := Note.sameTies_of_outlines (houtlines.trans houtlines'.symm)
        test.settings.duration
      have alike := (hpairs notes ended notes' ended' noted noted'
        (sameLengths_of_steady sound noted noted')).2 ties done done'
      refine ⟨test, notes, notes', ended, ended', rfl, (hreaches ended).2 ⟨notes, noted⟩,
        (hreaches' ended').2 ⟨notes', noted'⟩, ?_, hsucceeded, hfailed, alike⟩
      rw [hsettings]
      exact hbegun

end LoadTest

end QuerySwarm
