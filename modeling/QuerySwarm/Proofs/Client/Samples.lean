import Mathlib.Data.List.Induction
import QuerySwarm.Proofs.Http.Exchange
import QuerySwarm.Proofs.Tally.Writes
import QuerySwarm.User

/-!
# Samples and their account

What comes of a sample is decided by the first thing that goes wrong, and whatever it is, the sample
is counted once under the name of its task.

* **Verdicts** (`Verdict`): one rule for each way in which a sample can end, with all that it depends
  on. A sample ends by one of them (`verdict_execute`).
* **Sessions** (`Session`): samples one after the other on one tally. A figure that the writes of
  some samples move, and those of the others do not, counts these samples
  (`Session.figure_session`).
* `Client.account_of_session` says both of any number of samples.
-/

namespace QuerySwarm

def LogEvent.isResponse (e : LogEvent) : Bool := e.source == .client && e.message == "Response"

def responsesIn (log : Log) : Log := log.filter LogEvent.isResponse

/-- A sample that is asked for: by whom, what is outside and which files there are by then, for which
task, and how long it takes. -/
structure Call where
  user : User
  net : Network
  files : Files
  task : Task
  milliseconds : Nat

namespace Call

/-- Whether the sample is counted under this name. -/
def isIn (operation : String) (call : Call) : Bool := call.task.name = operation

def execute (call : Call) (c : Client) (t : Tally) (delivered : List HttpRequest) : Sampled :=
  call.user.execute c call.net call.files call.task call.milliseconds t delivered

/-- The request of a sample gets to the server. -/
structure Reaches (c : Client) (call : Call) (r : HttpRequest) : Prop where
  request : ∃ payload, call.task.payload call.files = .ok payload ∧
    c.request call.user.token call.task.name payload = .ok r
  scheme : Url.isHttp r.url.scheme = true
  reached : call.net.reaches r.url = true

end Call

/-! ### Ways through a sample -/

namespace Client

variable {c : Client} {net : Network} {token : BearerToken} {files : Files} {task : Task}
  {payload : Request} {delivered after : List HttpRequest}

theorem perform_of_request_error {e : TransportError} (hpayload : task.payload files = .ok payload)
    (hrequest : c.request token task.name payload = .error e) :
    c.perform net token files task delivered = (.failed (.transport e), delivered) := by
  simp only [perform, hpayload, post, hrequest]

theorem perform_of_send_error {r : HttpRequest} {e : TransportError}
    (hpayload : task.payload files = .ok payload)
    (hrequest : c.request token task.name payload = .ok r)
    (hsend : net.send r delivered = ⟨.error e, after⟩) :
    c.perform net token files task delivered = (.failed (.transport e), after) := by
  simp only [perform, hpayload, post, hrequest, hsend]

theorem perform_of_response {r : HttpRequest} {response : HttpResponse}
    (hpayload : task.payload files = .ok payload)
    (hrequest : c.request token task.name payload = .ok r)
    (hsend : net.send r delivered = ⟨.ok response, after⟩) :
    c.perform net token files task delivered = (c.outcome task.name response, after) := by
  simp only [perform, hpayload, post, hrequest, hsend]

end Client

/-! ### Verdicts -/

/-- What comes of a sample, after these requests were delivered: its result, all requests that are
delivered by then, and the responses that are shown. -/
inductive Verdict (c : Client) (call : Call) (before : List HttpRequest) :
    Except SampleError Nat → List HttpRequest → Log → Prop
  /-- There is no payload. -/
  | payload {e : PayloadError} (h : call.task.payload call.files = .error e) :
      Verdict c call before (.error (.payload e)) before []
  /-- The request does not get to the server. -/
  | unsent {payload : Request} (h : call.task.payload call.files = .ok payload)
      (unsent : ∀ r, ¬call.Reaches c r) (e : TransportError) :
      Verdict c call before (.error (.transport e)) before []
  /-- There is no answer. -/
  | unanswered {r : HttpRequest} (sent : call.Reaches c r)
      (h : call.net.answer? before r = none) (e : TransportError) :
      Verdict c call before (.error (.transport e)) (before ++ [r]) []
  /-- The body breaks off, whatever the status is. -/
  | cut {r : HttpRequest} {response : HttpResponse} (sent : call.Reaches c r)
      (answered : call.net.answer? before r = some response) (cut : response.isWhole = false)
      (e : TransportError) : Verdict c call before (.error (.transport e)) (before ++ [r]) []
  /-- The status does not tell of success, whatever the body and the options are. -/
  | status {r : HttpRequest} {response : HttpResponse} (sent : call.Reaches c r)
      (answered : call.net.answer? before r = some response) (whole : response.isWhole = true)
      (status : ¬(200 ≤ response.status ∧ response.status ≤ 299)) :
      Verdict c call before (.error (.status response.status)) (before ++ [r])
        (if c.debugResponses then [Client.responseEvent call.task.name response] else [])
  /-- The body is asked to be good, and is not. -/
  | rejected {r : HttpRequest} {response : HttpResponse} {rejection : Response.Rejection}
      (sent : call.Reaches c r) (answered : call.net.answer? before r = some response)
      (whole : response.isWhole = true) (status : 200 ≤ response.status ∧ response.status ≤ 299)
      (validates : c.validateResponses = true)
      (rejected : Response.judgeBody response.body = .error rejection) :
      Verdict c call before (.error (.rejected rejection)) (before ++ [r])
        (if c.debugResponses then [Client.responseEvent call.task.name response] else [])
  /-- Nothing is wrong. -/
  | success {r : HttpRequest} {response : HttpResponse} (sent : call.Reaches c r)
      (answered : call.net.answer? before r = some response) (whole : response.isWhole = true)
      (status : 200 ≤ response.status ∧ response.status ≤ 299)
      (good : c.validateResponses = true → Response.judgeBody response.body = .ok ()) :
      Verdict c call before (.ok response.status) (before ++ [r])
        (if c.debugResponses then [Client.responseEvent call.task.name response] else [])

theorem responsesIn_events (o : Outcome) (user operation : String) (milliseconds : Nat) :
    responsesIn (o.events user operation milliseconds) = responsesIn o.log := by
  unfold Outcome.events
  cases o.result with
  | ok status =>
    show responsesIn (o.log ++ _) = _
    rw [responsesIn, List.filter_append]
    exact List.append_nil _
  | error e => rfl

theorem responsesIn_outcome (c : Client) (operation : String) (response : HttpResponse) :
    responsesIn (c.outcome operation response).log =
      if c.debugResponses then [Client.responseEvent operation response] else [] := by
  unfold Client.outcome
  cases c.debugResponses <;> rfl

section Verdicts

variable {c : Client} {call : Call} {before : List HttpRequest}

/-- A response that was read is judged by its status first, then by its body. -/
theorem verdict_judge {r : HttpRequest} {response : HttpResponse} (sent : call.Reaches c r)
    (answered : call.net.answer? before r = some response) (whole : response.isWhole = true) :
    Verdict c call before (c.judge response) (before ++ [r])
      (if c.debugResponses then [Client.responseEvent call.task.name response] else []) := by
  by_cases status : 200 ≤ response.status ∧ response.status ≤ 299
  · have hsuccess : response.isSuccess = true := by
      simp only [HttpResponse.isSuccess, decide_eq_true_eq]
      omega
    unfold Client.judge
    rw [hsuccess]
    cases validates : c.validateResponses with
    | false => exact .success sent answered whole status fun h => absurd h (by simp [validates])
    | true =>
      cases judged : Response.judgeBody response.body with
      | error rejection => exact .rejected sent answered whole status validates judged
      | ok _ => exact .success sent answered whole status fun _ => judged
  · have hfailure : response.isSuccess = false := by
      simp only [HttpResponse.isSuccess, decide_eq_false_iff_not]
      omega
    rw [Client.judge_of_status c hfailure]
    exact .status sent answered whole status

/-- What gets to the server is the request that sends the payload. -/
theorem Call.Reaches.request_eq {r : HttpRequest} (h : call.Reaches c r) {payload : Request}
    (hpayload : call.task.payload call.files = .ok payload) :
    c.request call.user.token call.task.name payload = .ok r := by
  obtain ⟨payload', hpayload', hrequest⟩ := h.request
  rw [hpayload] at hpayload'
  cases hpayload'
  exact hrequest

/-- What comes of a request that gets to the server. -/
theorem verdict_sent {payload : Request} {r : HttpRequest} (plain : call.net.IsPlain)
    (hpayload : call.task.payload call.files = .ok payload)
    (hrequest : c.request call.user.token call.task.name payload = .ok r)
    (sent : call.Reaches c r) :
    let performed := c.perform call.net call.user.token call.files call.task before
    Verdict c call before performed.1.result performed.2 (responsesIn performed.1.log) := by
  have hsend := Network.send_of_stays sent.scheme sent.reached (plain before r)
  cases answered : call.net.answer? before r with
  | none =>
    rw [answered] at hsend
    rw [Client.perform_of_send_error hpayload hrequest hsend]
    exact .unanswered sent answered _
  | some response =>
    rw [answered] at hsend
    cases whole : response.isWhole with
    | false =>
      have hcut : Network.readWhole response = .error .bodyCut := by simp [Network.readWhole, whole]
      simp only [hcut] at hsend
      rw [Client.perform_of_send_error hpayload hrequest hsend]
      exact .cut sent answered whole _
    | true =>
      have hread : Network.readWhole response = .ok response := by simp [Network.readWhole, whole]
      simp only [hread] at hsend
      rw [Client.perform_of_response hpayload hrequest hsend]
      show Verdict c call before (c.judge response) (before ++ [r])
        (responsesIn (c.outcome call.task.name response).log)
      rw [responsesIn_outcome]
      exact verdict_judge sent answered whole

theorem verdict_execute (plain : call.net.IsPlain) (t : Tally) :
    Verdict c call before (call.execute c t before).result (call.execute c t before).delivered
      (responsesIn (call.execute c t before).log) := by
  simp only [Call.execute, User.execute, responsesIn_events]
  cases hpayload : call.task.payload call.files with
  | error e =>
    rw [Client.perform_of_payload_error hpayload]
    exact .payload hpayload
  | ok payload =>
    cases hrequest : c.request call.user.token call.task.name payload with
    | error e =>
      -- there is no request to send, so none gets to the server
      rw [Client.perform_of_request_error hpayload hrequest]
      refine .unsent hpayload (fun r reaches => ?_) e
      have hsent := reaches.request_eq hpayload
      rw [hrequest] at hsent
      cases hsent
    | ok r =>
      by_cases sent : Url.isHttp r.url.scheme = true ∧ call.net.reaches r.url = true
      · exact verdict_sent plain hpayload hrequest ⟨⟨payload, hpayload, hrequest⟩, sent.1, sent.2⟩
      · -- there is a request, but no way to the server
        obtain ⟨e, hsend⟩ := Network.exists_send_of_unreached sent before
        rw [Client.perform_of_send_error hpayload hrequest hsend]
        refine .unsent hpayload (fun r' reaches => ?_) e
        have hsent := reaches.request_eq hpayload
        rw [hrequest] at hsent
        cases hsent
        exact sent ⟨reaches.scheme, reaches.reached⟩

end Verdicts

/-! ### Sessions -/

/-- A sample that was taken, and all that was delivered before it. -/
structure Visit where
  call : Call
  before : List HttpRequest
  sampled : Sampled

def Visit.isOk (v : Visit) : Bool := v.sampled.result.isOk

/-- Samples that were taken one after the other, with the tally and all that was delivered. -/
structure Session where
  visits : List Visit
  tally : Tally
  delivered : List HttpRequest

namespace Session

def empty : Session := ⟨[], .empty, []⟩

def next (c : Client) (s : Session) (call : Call) : Session :=
  let sampled := call.execute c s.tally s.delivered
  ⟨s.visits ++ [⟨call, s.delivered, sampled⟩], sampled.tally, sampled.delivered⟩

def requests (s : Session) : RequestCounts := s.tally.counters.requests

end Session

/-- The samples of calls, one after the other. -/
def Client.session (c : Client) (calls : List Call) : Session := calls.foldl (Session.next c) .empty

namespace Session

theorem session_append (c : Client) (calls : List Call) (call : Call) :
    c.session (calls ++ [call]) = (c.session calls).next c call := by
  simp [Client.session]

def writesOf (call : Call) : Bool → List Tally.Write
  | true =>
    .requestStarted call.task.name :: Tally.successWrites call.task.name call.milliseconds
  | false =>
    .requestStarted call.task.name :: Tally.failureWrites call.task.name call.milliseconds

theorem record_requestStarted (call : Call) (o : Outcome) (t : Tally) :
    o.record call.task.name call.milliseconds (t.requestStarted call.task.name) =
      t.writeAll (writesOf call o.isSuccess) := by
  unfold Outcome.record
  cases o.isSuccess <;> rfl

theorem tally_execute (c : Client) (call : Call) (t : Tally) (delivered : List HttpRequest) :
    (call.execute c t delivered).tally =
      t.writeAll (writesOf call (call.execute c t delivered).result.isOk) :=
  record_requestStarted call _ t

/-- A figure counts the visits of some kind, if the writes of each of these move it once and those of
the others do not. -/
theorem figure_session (figure : Tally → Nat) (kind : Tally.Write → Bool) (q : Visit → Bool)
    (adds : ∀ t w, figure (t.write w) = figure t + (kind w).toNat)
    (moves : ∀ v : Visit, (writesOf v.call v.isOk).countP kind = (q v).toNat) (c : Client)
    (calls : List Call) :
    figure (c.session calls).tally = figure .empty + (c.session calls).visits.countP q := by
  induction calls using List.reverseRecOn with
  | nil => rfl
  | append_singleton calls call ih =>
    rw [session_append]
    let sampled := call.execute c (c.session calls).tally (c.session calls).delivered
    let visit : Visit := ⟨call, (c.session calls).delivered, sampled⟩
    show figure sampled.tally = figure .empty + ((c.session calls).visits ++ [visit]).countP q
    have hvisit : (if q visit = true then 1 else 0) = (q visit).toNat := by
      cases q visit <;> rfl
    rw [tally_execute, Tally.figure_writeAll figure kind adds, ih, List.countP_append,
      List.countP_singleton, hvisit, ← moves visit, Nat.add_assoc]
    rfl

/-- After each sample no request is in flight. -/
theorem inFlight_session (c : Client) (calls : List Call) :
    (c.session calls).requests.inFlight = 0 := by
  induction calls using List.reverseRecOn with
  | nil => rfl
  | append_singleton calls call ih =>
    rw [session_append]
    show (call.execute c (c.session calls).tally _).tally.counters.requests.inFlight = 0
    rw [tally_execute]
    generalize (call.execute c _ _).result.isOk = isOk
    cases isOk <;> exact ih

theorem countP_startsIn (v : Visit) (operation : String) :
    (writesOf v.call v.isOk).countP (Tally.Write.startsIn operation) =
      (v.call.isIn operation).toNat := by
  by_cases hname : v.call.task.name = operation <;> cases v.isOk <;>
    simp [writesOf, Tally.successWrites, Tally.failureWrites, Tally.Write.startsIn, Call.isIn, hname]

theorem countP_failsIn (v : Visit) (operation : String) :
    (writesOf v.call v.isOk).countP (Tally.Write.failsIn operation) =
      (v.call.isIn operation && !v.isOk).toNat := by
  by_cases hname : v.call.task.name = operation <;> cases v.isOk <;>
    simp [writesOf, Tally.successWrites, Tally.failureWrites, Tally.Write.failsIn, Call.isIn, hname]

theorem countP_filesIn (v : Visit) (operation : String) :
    (writesOf v.call v.isOk).countP (Tally.Write.filesIn operation) =
      (v.call.isIn operation).toNat := by
  by_cases hname : v.call.task.name = operation <;> cases v.isOk <;>
    simp [writesOf, Tally.successWrites, Tally.failureWrites, Tally.Write.filesIn, Call.isIn, hname]

/-- The visits are those of the calls, in their order. -/
theorem calls_session (c : Client) (calls : List Call) :
    (c.session calls).visits.map Visit.call = calls := by
  induction calls using List.reverseRecOn with
  | nil => rfl
  | append_singleton calls call ih =>
    rw [session_append]
    show ((c.session calls).visits ++ [_]).map Visit.call = calls ++ [call]
    rw [List.map_append, ih]
    rfl

theorem verdict_of_mem {c : Client} {calls : List Call} (plain : ∀ call ∈ calls, call.net.IsPlain) :
    ∀ v ∈ (c.session calls).visits, Verdict c v.call v.before v.sampled.result v.sampled.delivered
      (responsesIn v.sampled.log) := by
  induction calls using List.reverseRecOn with
  | nil =>
    intro v hv
    cases hv
  | append_singleton calls call ih =>
    intro v hv
    rw [session_append] at hv
    rcases List.mem_append.1 hv with hv | hv
    · exact ih (fun call' h => plain call' (List.mem_append_left _ h)) v hv
    · obtain rfl := List.mem_singleton.1 hv
      exact verdict_execute (plain call (List.mem_append_right _ (List.mem_singleton_self call))) _

end Session

/-! ### The account -/

/-- Each sample ends by one of the rules, and in the end the tally holds all of them: they were
started, went well or failed, and none is in flight, and under each name stand the samples of that
name, the failures among them and a latency for each. -/
theorem Client.account_of_session (c : Client) (calls : List Call)
    (plain : ∀ call ∈ calls, call.net.IsPlain) :
    (c.session calls).visits.map Visit.call = calls ∧
    (∀ v ∈ (c.session calls).visits, Verdict c v.call v.before v.sampled.result v.sampled.delivered
      (responsesIn v.sampled.log)) ∧
    (c.session calls).requests.started = calls.length ∧
    (c.session calls).requests.succeeded = (c.session calls).visits.countP Visit.isOk ∧
    (c.session calls).requests.failed = (c.session calls).visits.countP (fun v => !v.isOk) ∧
    (c.session calls).requests.inFlight = 0 ∧
    ∀ operation,
      (c.session calls).tally.requestsOf operation = calls.countP (Call.isIn operation) ∧
      (c.session calls).tally.failuresOf operation =
        (c.session calls).visits.countP (fun v => v.call.isIn operation && !v.isOk) ∧
      (c.session calls).tally.recordedOf operation = calls.countP (Call.isIn operation) := by
  have hcalls := Session.calls_session c calls
  have hin : ∀ operation, calls.countP (Call.isIn operation) =
      (c.session calls).visits.countP (fun v => v.call.isIn operation) := by
    intro operation
    conv_lhs => rw [← hcalls, List.countP_map]
    rfl
  refine ⟨hcalls, Session.verdict_of_mem plain, ?_, ?_, ?_, Session.inFlight_session c calls,
    fun operation => ⟨?_, ?_, ?_⟩⟩
  · have hstarted := Session.figure_session (fun t => t.counters.requests.started) _ (fun _ => true)
      Tally.started_write (fun v => by cases hv : v.isOk <;> rfl) c calls
    have hlength : (c.session calls).visits.length = calls.length := by
      rw [← List.length_map, hcalls]
    rw [List.countP_true, hlength] at hstarted
    exact hstarted.trans (Nat.zero_add _)
  · exact (Session.figure_session (fun t => t.counters.requests.succeeded) _ _ Tally.succeeded_write
      (fun v => by cases hv : v.isOk <;> rfl) c calls).trans (Nat.zero_add _)
  · exact (Session.figure_session (fun t => t.counters.requests.failed) _ _ Tally.failed_write
      (fun v => by cases hv : v.isOk <;> rfl) c calls).trans (Nat.zero_add _)
  · rw [hin]
    exact (Session.figure_session (fun t => t.requestsOf operation) _ _
      (fun t w => Tally.requestsOf_write t w operation)
      (fun v => Session.countP_startsIn v operation) c calls).trans
      (Nat.zero_add _)
  · exact (Session.figure_session (fun t => t.failuresOf operation) _ _
      (fun t w => Tally.failuresOf_write t w operation)
      (fun v => Session.countP_failsIn v operation) c calls).trans
      (Nat.zero_add _)
  · rw [hin]
    exact (Session.figure_session (fun t => t.recordedOf operation) _ _
      (fun t w => Tally.recordedOf_write t w operation)
      (fun v => Session.countP_filesIn v operation) c calls).trans
      (Nat.zero_add _)

/-- A server that answers every request with an error. -/
def Network.failing : Network := ⟨fun _ => true, fun _ _ => some ⟨500, [], [], true⟩⟩

theorem Network.isPlain_failing : Network.failing.IsPlain := by
  rintro delivered r response answered
  cases answered
  rfl

/-- A sample whose template is missing and one that the server refuses: both are counted as failures,
and only the second one sends anything. -/
theorem Client.account_of_two_failures :
    let endpoint : Url := ⟨"http".toList, [], none, some (.domain "localhost".toList), none,
      .rooted ["searchapi".toList, "graphql".toList], none, none⟩
    let c : Client := ⟨endpoint, false, true, false⟩
    let user : User := ⟨0, ⟨"token", by decide⟩⟩
    let calls : List Call := [⟨user, .failing, ⟨[], []⟩, .template "query.json", 3⟩,
      ⟨user, .failing, ⟨[], []⟩, .fixed "search" "query" [], 5⟩]
    (∀ call ∈ calls, call.net.IsPlain) ∧
    (c.session calls).requests.started = 2 ∧ (c.session calls).requests.inFlight = 0 ∧
    (c.session calls).tally.requestsOf "search" = 1 ∧
    (c.session calls).delivered.length = 1 := by
  intro endpoint c user calls
  have plain : ∀ call ∈ calls, call.net.IsPlain := by
    intro call hcall
    simp only [calls, List.mem_cons, List.not_mem_nil, or_false] at hcall
    rcases hcall with rfl | rfl <;> exact Network.isPlain_failing
  obtain ⟨-, -, hstarted, -, -, hflight, hnames⟩ := Client.account_of_session c calls plain
  refine ⟨plain, hstarted, hflight, (hnames "search").1.trans (by decide +kernel), ?_⟩
  decide +kernel

end QuerySwarm
