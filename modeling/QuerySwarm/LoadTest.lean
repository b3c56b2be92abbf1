import QuerySwarm.Client
import QuerySwarm.Setup.Resolve
import QuerySwarm.Task.Catalog

/-!
# A load test

A load test holds all that a run needs: checked settings, the client, the tasks and the token. It
is made from parts, or prepared from the options of the command line; then the token is resolved
first, so that a missing credential is what is reported.

Main statements: a load test has tasks and settings that pass the check (`LoadTest.valid_of_make`),
and nothing but the token decides whether the token is what is reported
(`LoadTest.prepare_of_token_error`).
-/

namespace QuerySwarm

/-- All that a run needs. -/
structure LoadTest where
  settings : Settings
  client : Client
  tasks : TaskSet
  token : BearerToken

namespace LoadTest

def make (clock : Clock) (settings : Settings) (tasks : TaskSet) (token : BearerToken) :
    Except SetupError LoadTest :=
  if tasks.isEmpty then .error .noTasks
  else
    match settings.check clock with
    | .error e => .error e
    | .ok () =>
      match Client.ofSettings settings with
      | .error e => .error e
      | .ok client => .ok ⟨settings, client, tasks, token⟩

/-- What is reported when the token is there. -/
def tokenEvent (source : TokenSource) : LogEvent :=
  .plain .info .runner ("Bearer token loaded from " ++ source.describe)

/-- Choose the tasks that the options ask for, and make the load test. -/
def withTasks (clock : Clock) (o : RunOptions) (token : BearerToken) (settings : Settings) :
    Except SetupError LoadTest :=
  match TaskSet.select o.scenario o.templateFile o.only with
  | .error e => .error e
  | .ok tasks => make clock settings tasks token

/-- Prepare a load test from the options, the environment and the files. Settings are checked when
they are put together, and again when the load test is made: the clock shows `clock` at first and
`later` the second time. Within one check no time goes by. -/
def prepareBetween (clock later : Clock) (o : RunOptions) (env : Environment) (files : Files) :
    Except SetupError LoadTest × Log :=
  match o.tokenSource.resolve env files with
  | .error e => (.error e, [])
  | .ok token =>
    let settings := Settings.ofOptions clock o
    (match settings.1 with
      | .error e => .error e
      | .ok s => withTasks later o token s,
     tokenEvent o.tokenSource :: settings.2)

/-- Prepare a load test by a clock that is read once. It is assumed that the start takes no time:
the instants to which the interval and the duration are added, at both checks of the settings, are
one and the same. -/
def prepare (clock : Clock) (o : RunOptions) (env : Environment) (files : Files) :
    Except SetupError LoadTest × Log :=
  prepareBetween clock clock o env files

theorem valid_of_make {clock : Clock} {settings : Settings} {tasks : TaskSet} {token : BearerToken}
    {test : LoadTest} (h : make clock settings tasks token = .ok test) :
    test.tasks.isEmpty = false ∧ test.settings.check clock = .ok () := by
  unfold make at h
  split at h
  · cases h
  · next hempty =>
    split at h
    · cases h
    · next hcheck =>
      split at h
      · cases h
      · cases h
        exact ⟨by simpa using hempty, hcheck⟩

theorem prepare_of_token_error (clock : Clock) {o : RunOptions} {env : Environment} {files : Files}
    {e : SetupError} (h : o.tokenSource.resolve env files = .error e) :
    prepare clock o env files = (.error e, []) := by
  simp [prepare, prepareBetween, h]

end LoadTest

end QuerySwarm
