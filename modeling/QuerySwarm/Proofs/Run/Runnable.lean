import QuerySwarm.Proofs.Swarm.Progress
import QuerySwarm.Run

/-!
# Which load tests can be run

A load test is made only with settings that pass the check, so that its users are started at an
interval that is not zero, its clock reaches the deadline and every wait can be drawn. What the check
leaves out is the number of users: there is room for fewer than `2^60` of them, and the run of a load
test with more breaks off before anybody is started.

* `LoadTest.exists_course_eq`: what a run needs is there, but for the room.
* `LoadTest.isRunnable_iff_of_make`: the load tests that can be run are those with room for all of
  their users.
-/

namespace QuerySwarm

/-- The first number of users that there is no room for. -/
def LoadTest.crowd : Nat := Nat.pow 2 60

/-- Whatever a run does with its settings can be done: users are started at an interval that is not
zero, the clock reaches the deadline, there is room for every user, and every wait can be drawn. -/
structure Settings.IsRunnable (s : Settings) (clock : Clock) : Prop where
  interval : ∃ interval, s.spawnInterval clock = .ok interval ∧ interval ≠ .zero
  deadline : clock.canAdd s.duration = true
  room : s.users * LoadTest.bytesPerUser < LoadTest.addressable
  waits : ∀ source, ∃ wait rest, s.thinkTime.sample source = .ok (wait, rest)

namespace LoadTest

variable {clock : Clock} {settings : Settings} {tasks : TaskSet} {token : BearerToken}
  {test : LoadTest} {ω : Type}

theorem addressable_le_iff (users : Nat) : addressable ≤ users * bytesPerUser ↔ crowd ≤ users := by
  have heq : addressable = crowd * bytesPerUser := by decide
  rw [heq]
  exact Nat.mul_le_mul_right_iff (by decide)

/-- Of what a run needs, only the room can be wanting. -/
theorem exists_course_eq (made : make clock settings tasks token = .ok test)
    (conditions : Conditions ω) :
    ∃ interval, test.settings.spawnInterval clock = .ok interval ∧
      test.course clock conditions =
        if test.settings.users < crowd then .ok ⟨test, interval, conditions⟩
        else .error .tooManyUsers := by
  obtain ⟨-, hcheck⟩ := valid_of_make made
  obtain ⟨-, ⟨interval, hinterval⟩, -, -, hdeadline⟩ := (Settings.check_eq_ok_iff _ _).1 hcheck
  refine ⟨interval, hinterval, ?_⟩
  unfold course
  rw [hinterval, hdeadline]
  by_cases hroom : test.settings.users < crowd
  · rw [if_pos hroom]
    simp [addressable_le_iff, Nat.not_le_of_lt hroom]
  · rw [if_neg hroom]
    simp [addressable_le_iff, Nat.le_of_not_lt hroom]

/-- What a run ends in, if it can begin. -/
theorem result_eq_of_course {c : Course ω} {conditions : Conditions ω}
    (h : test.course clock conditions = .ok c) (world : ω) (limit : Nat) :
    (test.run clock conditions world limit).result =
      match (Timeline.initial test world).run c limit with
      | none => .error .endless
      | some ended => .ok ended := by
  unfold run
  rw [h]
  dsimp only
  cases (Timeline.initial test world).run c limit <;> rfl

theorem result_eq_of_course_error {fault : RunFault} {conditions : Conditions ω}
    (h : test.course clock conditions = .error fault) (world : ω) (limit : Nat) :
    (test.run clock conditions world limit).result = .error fault := by
  unfold run
  rw [h]

/-- A load test that was made can be run exactly if there is room for its users. Then its run comes to
the end, or goes on after as many moves as it may take, and nobody crashes, whatever it comes to.
Otherwise its run breaks off before the first move. -/
theorem isRunnable_iff_of_make (made : make clock settings tasks token = .ok test) :
    (settings.IsRunnable clock ↔ settings.users < crowd) ∧
    (settings.users < crowd → ∀ (ω : Type) (conditions : Conditions ω) (world : ω),
      ∃ c, test.course clock conditions = .ok c ∧
        (∀ limit,
          (∃ ended, (test.run clock conditions world limit).result = .ok ended ∧
            ended.swarm.isDone = true) ∨
          ((test.run clock conditions world limit).result = .error .endless ∧
            ((Timeline.onward c)^[limit] (.initial test world)).swarm.isDone = false)) ∧
        ∀ t, Timeline.Reaches c world t → ∀ m ∈ t.swarm.members, m.phase.isCrashed = false) ∧
    (crowd ≤ settings.users → ∀ (ω : Type) (conditions : Conditions ω) (world : ω) (limit : Nat),
      (test.run clock conditions world limit).result = .error .tooManyUsers) := by
  obtain ⟨sound, rfl⟩ := isSound_of_make made
  obtain ⟨-, hcheck⟩ := valid_of_make made
  obtain ⟨-, ⟨interval, hinterval⟩, hthink, -, hdeadline⟩ :=
    (Settings.check_eq_ok_iff _ _).1 hcheck
  refine ⟨⟨fun runnable => ?_, fun hroom => ?_⟩, fun hroom ω conditions world => ?_,
    fun hcrowd ω conditions world limit => ?_⟩
  · rw [← Nat.not_le, ← addressable_le_iff]
    exact Nat.not_le_of_lt runnable.room
  · constructor
    case interval =>
      have hleast := Settings.millisecond_le_spawnInterval hinterval
      refine ⟨interval, hinterval, ?_⟩
      rintro rfl
      cases hleast
    case deadline => exact hdeadline
    case room =>
      rw [← Nat.not_le, addressable_le_iff]
      exact Nat.not_le_of_lt hroom
    case waits => exact ThinkTime.exists_sample_of_check hthink
  · obtain ⟨interval, -, hcourse⟩ := exists_course_eq made conditions
    rw [if_pos hroom] at hcourse
    refine ⟨_, hcourse, fun limit => ?_, fun t reaches => ?_⟩
    · rw [result_eq_of_course hcourse]
      cases hrun : (Timeline.initial test world).run ⟨test, interval, conditions⟩ limit with
      | some ended => exact .inl ⟨ended, rfl, Timeline.isDone_of_run hrun⟩
      | none =>
        obtain ⟨entry, hnext⟩ := Timeline.exists_next?_of_run_eq_none hrun limit (Nat.le_refl _)
        refine .inr ⟨rfl, Bool.eq_false_iff.2 fun hdone => ?_⟩
        rw [Timeline.next?_eq_none_iff.2 hdone] at hnext
        cases hnext
    · obtain ⟨actions, trace, -⟩ := Timeline.exists_trace_of_reaches sound reaches
      exact (Swarm.balanced_of_trace sound trace (Swarm.balanced_empty test)).intact
  · obtain ⟨interval, -, hcourse⟩ := exists_course_eq made conditions
    rw [if_neg (Nat.not_lt_of_le hcrowd)] at hcourse
    exact result_eq_of_course_error hcourse world limit

/-- The settings of a run with one user more than there is room for. -/
def crowdedSettings : Settings := { localSettings with users := crowd }

/-- A load test is made for more users than there is room for, and its run breaks off. -/
theorem not_isRunnable_of_crowdedSettings :
    ∃ test, make ⟨.zero⟩ crowdedSettings ⟨[.template "query.json"]⟩ ⟨"token", by decide⟩ =
        .ok test ∧
      ¬ crowdedSettings.IsRunnable ⟨.zero⟩ ∧
      ∀ (conditions : Conditions Unit) (limit : Nat),
        (test.run ⟨.zero⟩ conditions () limit).result = .error .tooManyUsers := by
  have hok : (make ⟨.zero⟩ crowdedSettings ⟨[.template "query.json"]⟩
      ⟨"token", by decide⟩).isOk = true := by decide +kernel
  obtain ⟨test, made⟩ := exists_eq_ok_of_isOk hok
  obtain ⟨hrunnable, -, hcrowded⟩ := isRunnable_iff_of_make made
  refine ⟨test, made, fun runnable => ?_, fun conditions limit => ?_⟩
  · exact Nat.lt_irrefl _ (hrunnable.1 runnable)
  · exact hcrowded (Nat.le_refl _) Unit conditions () limit

end LoadTest

end QuerySwarm
