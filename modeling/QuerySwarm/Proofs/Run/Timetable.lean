import QuerySwarm.Proofs.Run.Runnable
import QuerySwarm.Proofs.Swarm.Progress

/-!
# The timetable of a run

The run of a load test with room for its users keeps its schedule: the `k`-th user is started after
`k` intervals if that is before the deadline, the samples of a user follow its waits up to the
deadline, every sample that is started is over and counted in the end, and the run ends at the
deadline or with the last sample after it. What falls on the deadline itself may happen or not.

The main statement is `LoadTest.timetable_of_make`. A run needs no more to come to its end than that
nobody starts infinitely many samples at one instant, as is so where everybody waits.
-/

namespace QuerySwarm

namespace LoadTest

variable {clock : Clock} {settings : Settings} {tasks : TaskSet} {token : BearerToken}
  {test : LoadTest}

/-- Where there is room for its users, a load test runs to its end unless somebody starts infinitely
many samples at one instant, and whatever its run comes to has kept the schedule when everybody has
left. Where there is no room, the run breaks off before anybody is started. -/
theorem timetable_of_make (made : make clock settings tasks token = .ok test) :
    (settings.users < crowd → ∀ (ω : Type) (conditions : Conditions ω) (world : ω),
      ∃ interval, settings.spawnInterval clock = .ok interval ∧
        test.course clock conditions = .ok ⟨test, interval, conditions⟩ ∧
        (Timeline.Progresses ⟨test, interval, conditions⟩ world →
          (∀ states, ¬ Timeline.Endless ⟨test, interval, conditions⟩ world states) ∧
          ∃ limit ended, (test.run clock conditions world limit).result = .ok ended) ∧
        (∀ limit ended, (test.run clock conditions world limit).result = .ok ended →
          ended.swarm.isDone = true ∧
            ∃ events, Timeline.Chronicle ⟨test, interval, conditions⟩ world events ended) ∧
        ∀ events ended, Timeline.Chronicle ⟨test, interval, conditions⟩ world events ended →
          ended.swarm.isDone = true → Timeline.Kept ⟨test, interval, conditions⟩ events ended) ∧
    (crowd ≤ settings.users → ∀ (ω : Type) (conditions : Conditions ω) (world : ω) (limit : Nat),
      (test.run clock conditions world limit).result = .error .tooManyUsers) := by
  obtain ⟨sound, rfl⟩ := isSound_of_make made
  refine ⟨fun hroom ω conditions world => ?_, fun hcrowd ω conditions world limit => ?_⟩
  · obtain ⟨interval, hinterval, hcourse⟩ := exists_course_eq made conditions
    rw [if_pos hroom] at hcourse
    let c : Course ω := ⟨test, interval, conditions⟩
    have hresult := result_eq_of_course hcourse world
    refine ⟨interval, hinterval, hcourse, fun progresses => ?_, fun limit ended hended => ?_,
      fun events ended chronicle done => ?_⟩
    · have hends : ∀ states, ¬ Timeline.Endless c world states :=
        Timeline.not_endless_of_progresses (c := c) sound progresses
      obtain ⟨limit, ended, hrun⟩ := Timeline.exists_run hends
      exact ⟨hends, limit, ended, by rw [hresult, hrun]⟩
    · rw [hresult] at hended
      split at hended
      · cases hended
      · next hrun =>
        cases hended
        exact ⟨Timeline.isDone_of_run hrun,
          Timeline.exists_chronicle_of_reaches (Timeline.reaches_of_run .start hrun)⟩
    · exact Timeline.kept_of_chronicle (c := c) sound chronicle done
  · obtain ⟨interval, -, hcourse⟩ := exists_course_eq made conditions
    rw [if_neg (Nat.not_lt_of_le hcrowd)] at hcourse
    exact result_eq_of_course_error hcourse world limit

/-! ### Two users and a second and a half -/

/-- The settings of a run with two users that always wait for a second. -/
def briskSettings : Settings :=
  { localSettings with users := 2, thinkTime := ⟨1, 1⟩, duration := .ofMilliseconds 1500 }

theorem waitFrom_of_briskSettings (h : test.settings = briskSettings) (source : WordSource) :
    test.waitFrom source = .ofSeconds 1 := by
  have hspan : Duration.ofSeconds? 1 = some (.ofSeconds 1) := by decide +kernel
  have hle : test.settings.thinkTime.max.le test.settings.thinkTime.min = true := by
    rw [h]
    decide +kernel
  have hmin : test.settings.thinkTime.min = 1 := by rw [h]; rfl
  unfold waitFrom ThinkTime.sample
  rw [ThinkTime.draw_of_le hle]
  simp only [Except.map, hmin, hspan, Option.getD_some]

/-- One of them takes a sample after a second, which the other comes too late for. -/
theorem timetable_of_two_users :
    ∃ test, make ⟨.zero⟩ briskSettings ⟨[.template "query.json"]⟩ ⟨"token", by decide⟩ =
        .ok test ∧
      ∀ conditions : Conditions Unit, ∃ limit ended,
        (test.run ⟨.zero⟩ conditions () limit).result = .ok ended ∧
          ended.swarm.users.spawned = 2 ∧ ended.swarm.requests.started = 1 := by
  have hok : (make ⟨.zero⟩ briskSettings ⟨[.template "query.json"]⟩
      ⟨"token", by decide⟩).isOk = true := by decide +kernel
  obtain ⟨test, made⟩ := exists_eq_ok_of_isOk hok
  obtain ⟨sound, hsettings⟩ := isSound_of_make made
  refine ⟨test, made, fun conditions => ?_⟩
  obtain ⟨interval, hinterval, -, hends, hchronicle, hkept⟩ :=
    (timetable_of_make made).1 (by decide) Unit conditions ()
  obtain rfl : interval = .ofSeconds 1 := by
    have hsecond : (briskSettings.spawnInterval ⟨.zero⟩).toOption = some (.ofSeconds 1) := by
      decide +kernel
    rw [hinterval] at hsecond
    exact Option.some.inj hsecond
  let c : Course Unit := ⟨test, .ofSeconds 1, conditions⟩
  have hwaits : ∀ k n, (Timeline.waitsOf c k n).nanoseconds = 1000000000 := by
    intro k n
    rw [Timeline.waitsOf, waitAt, waitFrom_of_briskSettings hsettings]
    rfl
  have hstarts : ∀ k, (c.interval.times k).nanoseconds = k * 1000000000 := by
    intro k
    simp [c, Duration.times, Duration.ofSeconds, Duration.ofParts, nanosecondsPerSecond]
  have hdeadline : test.settings.duration.nanoseconds = 1500000000 := by rw [hsettings]; rfl
  have husers : test.settings.users = 2 := by rw [hsettings]; rfl
  have progresses : Timeline.Progresses c () :=
    Timeline.progresses_of_pos sound fun k n => by rw [hwaits]; decide
  obtain ⟨-, limit, ended, hended⟩ := hends progresses
  obtain ⟨done, events, chronicle⟩ := hchronicle limit ended hended
  have kept : Timeline.Kept c events ended := hkept events ended chronicle done
  have hspawned : ended.swarm.users.spawned = 2 := by
    have hsecond := kept.everybody 1 (by rw [husers]; decide) (by rw [hstarts, hdeadline]; decide)
    have hroom : ended.swarm.users.spawned ≤ test.settings.users := kept.room
    omega
  -- the first user has time for one sample, and the second for none
  have hleast : ∀ k n, 1000000000 ≤ (Timeline.waitsOf c k n).nanoseconds := fun k n =>
    Nat.le_of_eq (hwaits k n).symm
  obtain ⟨_, first, -, late⟩ := kept.served 0 (by omega)
  obtain ⟨_, second, -, -⟩ := kept.served 1 (by omega)
  have hsome := first.ne_nil (by rw [hstarts, hwaits, hdeadline]; decide) late
  have hfirst := (first.le_free (hleast 0)).2 hsome
  have hsecond := (second.le_free (hleast 1)).2
  rw [hstarts, hdeadline] at hfirst hsecond
  have hone : (Timeline.tripsOf 0 events).length = 1 := by
    have hpos := List.length_pos_iff.2 hsome
    omega
  have hnone : Timeline.tripsOf 1 events = [] := by
    by_contra hne
    have hpos := List.length_pos_iff.2 hne
    have hlate := hsecond hne
    omega
  refine ⟨limit, ended, hended, hspawned, ?_⟩
  rw [kept.started, hspawned, Finset.sum_range_succ, Finset.sum_range_one, hone, hnone]
  rfl

end LoadTest

end QuerySwarm
