import QuerySwarm.Program
import QuerySwarm.Proofs.Client.Secrecy
import QuerySwarm.Proofs.Run.Timetable
import QuerySwarm.Proofs.Swarm.Worlds

/-!
# Nobody can tell two tokens apart

Take two tokens that can be headers, and a network that answers without looking at credentials. Then
whatever is prepared, sampled or run with the one comes to the same with the other: the same results
and errors, the same events, counters and reports. The requests that are delivered are the same but
for the header that the token is in.

* `LoadTest.prepare_withToken`: the token is all that is different about a load test that was prepared.
* `LoadTest.run_withToken`: what a run shows and what it comes to.
* `LoadTest.indistinguishable`: both, and samples one after the other and the whole program, too.
-/

namespace QuerySwarm

/-- All that is shown of a token is the number of its bytes. -/
theorem BearerToken.redacted_eq_iff (t u : BearerToken) :
    t.redacted = u.redacted ↔ (bytesOf t.text).length = (bytesOf u.text).length := by
  refine ⟨fun h => ?_, redacted_eq_of_length_eq⟩
  unfold redacted at h
  rw [String.append_left_inj, String.append_right_inj] at h
  exact natText_injective h

/-- Surroundings in which requests go over a network. -/
def Surroundings.online (environment : Environment) (files : Files) (clock : Clock) (net : Network)
    (delay : List HttpRequest → Duration) (words : Nat → WordSource)
    (stopwatch : Duration → Duration) (machine : Duration → SystemFigures) : Surroundings where
  environment := environment
  files := files
  clock := clock
  conditions test := .ofNetwork test net files delay words stopwatch machine

namespace LoadTest

variable {t u : BearerToken}

/-! ### Preparing -/

theorem make_withToken (clock : Clock) (settings : Settings) (tasks : TaskSet) :
    make clock settings tasks u = (make clock settings tasks t).map fun test => test.withToken u := by
  unfold make
  split
  · rfl
  · cases settings.check clock with
    | error e => rfl
    | ok _ => cases Client.ofSettings settings <;> rfl

/-- What is prepared with two tokens is the same load test, but for the token, or the same error. -/
theorem prepare_withToken {o : RunOptions} {env env' : Environment} {files files' : Files}
    (first : o.tokenSource.resolve env files = .ok t)
    (second : o.tokenSource.resolve env' files' = .ok u) (clock : Clock) :
    prepare clock o env' files' =
      ((prepare clock o env files).1.map fun test => test.withToken u,
        (prepare clock o env files).2) := by
  unfold prepare prepareBetween
  rw [first, second]
  dsimp only
  cases (Settings.ofOptions clock o).1 with
  | error e => rfl
  | ok settings =>
    dsimp only
    unfold withTasks
    cases TaskSet.select o.scenario o.templateFile o.only with
    | error e => rfl
    | ok tasks =>
      dsimp only
      rw [make_withToken (t := t)]

/-- A load test that was prepared has the token that was found. -/
theorem token_of_prepare {o : RunOptions} {env : Environment} {files : Files} {clock : Clock}
    {test : LoadTest} (found : o.tokenSource.resolve env files = .ok t)
    (h : (prepare clock o env files).1 = .ok test) : test.token = t := by
  have hsame := congrArg Prod.fst (prepare_withToken found found clock)
  rw [h] at hsame
  exact congrArg token (Except.ok.inj hsame)

/-! ### Running -/

/-- How long a request takes does not depend on the values of credentials. -/
def IsBlindDelay (delay : List HttpRequest → Duration) : Prop :=
  ∀ d e, d.map HttpRequest.anonymous = e.map HttpRequest.anonymous → delay d = delay e

section Runs

variable {net : Network} {delay : List HttpRequest → Duration} {test : LoadTest}
  {files files' : Files} (legal : isHeaderText t.header = true)
  (legal' : isHeaderText u.header = true) (blind : net.IsBlind) (even : IsBlindDelay delay)

include legal legal' blind even

theorem mirrors_withToken (token : test.token = t)
    (same : ∀ task ∈ test.tasks.tasks, task.payload files' = task.payload files)
    (words : Nat → WordSource) (stopwatch : Duration → Duration)
    (machine : Duration → SystemFigures) (interval : Duration) :
    Course.Mirrors (List.map (HttpRequest.reissued t u))
      ⟨test, interval, .ofNetwork test net files delay words stopwatch machine⟩
      ⟨test.withToken u, interval,
        .ofNetwork (test.withToken u) net files' delay words stopwatch machine⟩ := by
  constructor
  case test => exact ⟨u, rfl⟩
  case interval => rfl
  case words => rfl
  case stopwatch => rfl
  case machine => rfl
  case perform =>
    intro delivered k task picked
    have hperform := Client.perform_reissued legal legal' blind (same task picked) test.client
      delivered
    have hdelay : delay (delivered.map (HttpRequest.reissued t u)) = delay delivered :=
      even _ _ (HttpRequest.map_anonymous_reissued t u delivered)
    simp only [Conditions.ofNetwork, hdelay, token]
    show ((⟨.zero, delay delivered, (test.client.perform net u files' task _).1⟩ : Flight),
      (test.client.perform net u files' task _).2) = _
    rw [hperform]

/-- A run over a network that does not look at credentials shows the same with another token and ends
alike. -/
theorem run_withToken (token : test.token = t)
    (same : ∀ task ∈ test.tasks.tasks, task.payload files' = task.payload files)
    (words : Nat → WordSource) (stopwatch : Duration → Duration)
    (machine : Duration → SystemFigures) (clock : Clock) (limit : Nat) :
    let conditions := Conditions.ofNetwork test net files delay words stopwatch machine
    (test.withToken u).run clock
        (.ofNetwork (test.withToken u) net files' delay words stopwatch machine) [] limit =
      ⟨(test.run clock conditions [] limit).result.map
          (Timeline.mapWorld (List.map (HttpRequest.reissued t u))),
        (test.run clock conditions [] limit).output⟩ :=
  run_mapWorld u
    (mirrors_withToken legal legal' blind even token same words stopwatch machine) clock [] limit

/-- The program does the same, and leaves the same behind, when it finds another token. -/
theorem runTest_withToken {o : RunOptions} {env env' : Environment}
    (first : o.tokenSource.resolve env files = .ok t)
    (second : o.tokenSource.resolve env' files = .ok u) (clock : Clock) (words : Nat → WordSource)
    (stopwatch : Duration → Duration) (machine : Duration → SystemFigures) (timestamp : String)
    (limit : Nat) :
    Program.runTest (.online env' files clock net delay words stopwatch machine) timestamp limit o =
      Program.runTest (.online env files clock net delay words stopwatch machine) timestamp limit
        o := by
  have hprepare := prepare_withToken first second clock
  unfold Program.runTest
  simp only [Surroundings.online, hprepare]
  cases hprepared : (prepare clock o env files).1 with
  | error e => rfl
  | ok test =>
    have same : ∀ task ∈ test.tasks.tasks, task.payload files = task.payload files := fun _ _ => rfl
    have hrun := run_withToken legal legal' blind even (token_of_prepare first hprepared) same words
      stopwatch machine clock limit
    simp only [Except.map, Program.perform, hrun]
    cases (test.run clock (.ofNetwork test net files delay words stopwatch machine) [] limit).result <;>
      rfl

/-- What is found with one token is found with the other.

A load test is prepared with both, the same but for the token, or the same error comes up, and the same
is reported. Samples one after the other have the same results and counters, and the same is reported
of them but for the times that were measured; if those are the same, so are the latencies. A run shows
the same, comes to the same counters, latencies and reports, and ends in the same error if it does, and
that in whatever order happens what is due at once; the program leaves the same output, complaint and
files behind. The requests that are delivered are the same, with the one token in the place of the
other. And of a token by itself nothing is shown but the number of its bytes. -/
theorem indistinguishable :
    (∀ (clock : Clock) (o : RunOptions) (env env' : Environment) (files files' : Files),
      o.tokenSource.resolve env files = .ok t → o.tokenSource.resolve env' files' = .ok u →
      prepare clock o env' files' =
        ((prepare clock o env files).1.map fun test => test.withToken u,
          (prepare clock o env files).2)) ∧
    (∀ (c : Client) (calls calls' : List Call), List.Forall₂ (Call.IsReissued t u) calls calls' →
      (∀ call ∈ calls, call.net.IsBlind) →
      (c.session calls).IsReissued t u (c.session calls') ∧
        (calls'.map Call.milliseconds = calls.map Call.milliseconds →
          (c.session calls').log = (c.session calls).log ∧
            (c.session calls').tally = (c.session calls).tally)) ∧
    (∀ (test : LoadTest) (clock : Clock) (files files' : Files) (words : Nat → WordSource)
        (stopwatch : Duration → Duration) (machine : Duration → SystemFigures) (limit : Nat),
      test.token = t → (∀ task ∈ test.tasks.tasks, task.payload files' = task.payload files) →
      let ran := test.run clock (.ofNetwork test net files delay words stopwatch machine) [] limit
      let ran' := (test.withToken u).run clock
        (.ofNetwork (test.withToken u) net files' delay words stopwatch machine) [] limit
      ran'.output = ran.output ∧ (∀ fault, ran.result = .error fault → ran'.result = .error fault) ∧
        ∀ ended, ran.result = .ok ended → ∃ ended', ran'.result = .ok ended' ∧
          ended'.world = ended.world.map (HttpRequest.reissued t u) ∧
          ended'.swarm.now = ended.swarm.now ∧ ended'.swarm.tally = ended.swarm.tally ∧
          ∀ elapsed timestamp,
            ended'.swarm.tally.finalReport elapsed = ended.swarm.tally.finalReport elapsed ∧
            (Summary.ofTally ended'.swarm.tally (test.withToken u).settings timestamp elapsed).text =
              (Summary.ofTally ended.swarm.tally test.settings timestamp elapsed).text) ∧
    (∀ (test : LoadTest) (interval : Duration) (files files' : Files) (words : Nat → WordSource)
        (stopwatch : Duration → Duration) (machine : Duration → SystemFigures),
      test.token = t → (∀ task ∈ test.tasks.tasks, task.payload files' = task.payload files) →
      ∀ s, Timeline.Reaches
          ⟨test, interval, .ofNetwork test net files delay words stopwatch machine⟩ [] s →
        Timeline.Reaches
          ⟨test.withToken u, interval,
            .ofNetwork (test.withToken u) net files' delay words stopwatch machine⟩ []
          ⟨s.swarm, s.nextReport, s.world.map (HttpRequest.reissued t u)⟩) ∧
    (∀ (o : RunOptions) (env env' : Environment) (files : Files) (clock : Clock)
        (words : Nat → WordSource) (stopwatch : Duration → Duration)
        (machine : Duration → SystemFigures) (timestamp : String) (limit : Nat),
      o.tokenSource.resolve env files = .ok t → o.tokenSource.resolve env' files = .ok u →
      Program.runTest (.online env' files clock net delay words stopwatch machine) timestamp limit
          o =
        Program.runTest (.online env files clock net delay words stopwatch machine) timestamp limit
          o) ∧
    ∀ v w : BearerToken,
      v.redacted = w.redacted ↔ (bytesOf v.text).length = (bytesOf w.text).length := by
  refine ⟨fun clock o env env' files files' first second => prepare_withToken first second clock,
    fun c calls calls' reissued blinds => Client.session_reissued legal legal' reissued blinds c,
    fun test clock files files' words stopwatch machine limit token same => ?_,
    fun test interval files files' words stopwatch machine token same s reaches =>
      (Timeline.reaches_mapWorld
        (mirrors_withToken legal legal' blind even token same words stopwatch machine interval)
        reaches).1,
    fun o env env' files clock words stopwatch machine timestamp limit first second =>
      runTest_withToken legal legal' blind even first second clock words stopwatch machine timestamp
        limit,
    BearerToken.redacted_eq_iff⟩
  intro ran ran'
  have hran : ran' = ⟨ran.result.map (Timeline.mapWorld (List.map (HttpRequest.reissued t u))),
      ran.output⟩ :=
    run_withToken legal legal' blind even token same words stopwatch machine clock limit
  rw [hran]
  refine ⟨rfl, fun fault hfault => ?_, fun ended hended => ?_⟩
  · show ran.result.map _ = _
    rw [hfault]
    rfl
  · refine ⟨ended.mapWorld (List.map (HttpRequest.reissued t u)), ?_, rfl, rfl, rfl,
      fun elapsed timestamp => ⟨rfl, rfl⟩⟩
    show ran.result.map _ = _
    rw [hended]
    rfl

end Runs

/-! ### Two tokens of three letters -/

/-- An environment in which a token is found. -/
def tokenEnvironment (text : String) : Environment :=
  .ofList [(RunOptions.defaultTokenVariable, bytesOf text)]

theorem resolve_default {env : Environment} {files : Files}
    (h : (env.text? RunOptions.defaultTokenVariable).bind BearerToken.ofText? = some t) :
    RunOptions.default.tokenSource.resolve env files = .ok t := by
  show TokenSource.lookup RunOptions.defaultTokenVariable env.text? = .ok t
  unfold TokenSource.lookup
  rw [h]

/-- The server answers both with an error, and neither run shows which token it was. -/
theorem indistinguishable_of_two_tokens :
    ∃ t u : BearerToken, BearerToken.ofText? "abc" = some t ∧
      BearerToken.ofText? "xyz\n" = some u ∧ isHeaderText t.header = true ∧
      isHeaderText u.header = true ∧ Network.failing.IsBlind ∧
      IsBlindDelay (fun _ => .ofSeconds 1) ∧ t.redacted = u.redacted ∧
      (∀ c : Client, (c.session [⟨⟨0, u⟩, .failing, ⟨[], []⟩, .fixed "search" "query" [], 5⟩]).tally =
        (c.session [⟨⟨0, t⟩, .failing, ⟨[], []⟩, .fixed "search" "query" [], 5⟩]).tally) ∧
      ∀ (clock : Clock) (timestamp : String) (limit : Nat),
        Program.runTest
            (.online (tokenEnvironment "xyz\n") ⟨[], []⟩ clock .failing (fun _ => .ofSeconds 1)
              (fun _ => ⟨[], 0⟩) id fun _ => .none) timestamp limit .default =
          Program.runTest
            (.online (tokenEnvironment "abc") ⟨[], []⟩ clock .failing (fun _ => .ofSeconds 1)
              (fun _ => ⟨[], 0⟩) id fun _ => .none) timestamp limit .default := by
  let t : BearerToken := ⟨"abc", by decide⟩
  let u : BearerToken := ⟨"xyz", by decide⟩
  have legal : isHeaderText t.header = true := by decide +kernel
  have legal' : isHeaderText u.header = true := by decide +kernel
  have blind : Network.failing.IsBlind := fun _ _ _ _ _ _ => rfl
  have even : IsBlindDelay (fun _ => .ofSeconds 1) := fun _ _ _ => rfl
  have first : RunOptions.default.tokenSource.resolve (tokenEnvironment "abc") ⟨[], []⟩ = .ok t :=
    resolve_default (by decide +kernel)
  have second : RunOptions.default.tokenSource.resolve (tokenEnvironment "xyz\n") ⟨[], []⟩ =
      .ok u := resolve_default (by decide +kernel)
  obtain ⟨-, hsession, -, -, hprogram, hshown⟩ := indistinguishable legal legal' blind even
  refine ⟨t, u, by decide +kernel, by decide +kernel, legal, legal', blind, even,
    (hshown t u).2 (by decide), fun c => ?_, fun clock timestamp limit => ?_⟩
  · let call : BearerToken → Call := fun token =>
      ⟨⟨0, token⟩, .failing, ⟨[], []⟩, .fixed "search" "query" [], 5⟩
    have reissued : (call t).IsReissued t u (call u) := ⟨rfl, rfl, rfl, rfl, rfl, rfl⟩
    refine ((hsession c [call t] [call u] (.cons reissued .nil) ?_).2 rfl).2
    intro call hcall
    obtain rfl := List.mem_singleton.1 hcall
    exact blind
  · exact hprogram .default _ _ ⟨[], []⟩ clock _ id _ timestamp limit first second

end LoadTest

end QuerySwarm
