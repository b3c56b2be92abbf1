import QuerySwarm.ThinkTime
import QuerySwarm.Url.Basic

/-!
# Settings of a run

The settings that a run is started with, and the checks that they must pass: whatever becomes a
timer or a deadline has to be one that the clock can reach.

Main statements: settings pass exactly if each check does (`Settings.check_eq_ok_iff`), and users
are never started faster than one each millisecond (`Settings.millisecond_le_spawnInterval`).
-/

namespace QuerySwarm

/-- The settings of a run. -/
structure Settings where
  host : Url
  users : Nat
  spawnRate : Binary64
  thinkTime : ThinkTime
  duration : Duration
  requestTimeout : Duration
  reportInterval : Nat
  reportPath : Option String
  tagOperations : Bool
  debugResponses : Bool
  validateResponses : Bool

namespace Settings

/-- The least time between the starts of two users. -/
def leastSpawnInterval : Duration := .ofMilliseconds 1

/-- The time between the starts of two users, if the rate is a positive number of them. -/
def spawnInterval (s : Settings) (clock : Clock) : Except SetupError Duration :=
  if !(s.spawnRate.isFinite && (0 : Binary64).lt s.spawnRate) then
    .error (.spawnRateNotPositive s.spawnRate)
  else
    match (Duration.ofSeconds? (1 / s.spawnRate)).filter clock.canAdd with
    | some interval => .ok (interval.max leastSpawnInterval)
    | none => .error (.spawnRateTooSmall s.spawnRate)

/-- Check the settings; the first cause in this order is the one reported. -/
def check (s : Settings) (clock : Clock) : Except SetupError Unit :=
  if s.users = 0 then .error .noUsers
  else
    match s.spawnInterval clock with
    | .error e => .error e
    | .ok _ =>
      match s.thinkTime.check with
      | .error e => .error e
      | .ok () =>
        if s.requestTimeout = .zero then .error .noRequestTimeout
        else if !clock.canAdd s.duration then .error (.durationTooLong s.duration)
        else .ok ()

theorem millisecond_le_spawnInterval {s : Settings} {clock : Clock} {interval : Duration}
    (h : s.spawnInterval clock = .ok interval) : 1000000 ≤ interval.nanoseconds := by
  unfold spawnInterval at h
  split at h
  · cases h
  · split at h
    · cases h
      exact Nat.le_max_right _ _
    · cases h

theorem check_eq_ok_iff (s : Settings) (clock : Clock) :
    s.check clock = .ok () ↔
      s.users ≠ 0 ∧ (∃ interval, s.spawnInterval clock = .ok interval) ∧
        s.thinkTime.check = .ok () ∧ s.requestTimeout ≠ .zero ∧ clock.canAdd s.duration = true := by
  unfold check
  by_cases hu : s.users = 0
  · simp [hu]
  · cases hi : s.spawnInterval clock with
    | error e => simp [hu]
    | ok interval =>
      cases ht : s.thinkTime.check with
      | error e => simp [hu]
      | ok u =>
        by_cases hr : s.requestTimeout = .zero
        · simp [hu, hr]
        · cases hd : clock.canAdd s.duration <;> simp [hu, hr]

end Settings

end QuerySwarm
