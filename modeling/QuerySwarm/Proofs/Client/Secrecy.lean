import QuerySwarm.Proofs.Client.Samples

/-!
# What becomes of the credential

The token goes into one header of a request and nowhere else. If another token is put in its place,
a network that does not look at the credential answers as it did, and all that is different is the
value of that header in the requests that are delivered.

* `HttpRequest.reissued`: a request with one token in place of another. It leads where the request led
  (`HttpRequest.next?_reissued`).
* `Network.IsBlind`: networks that do not look at credentials. What they send back is the same
  (`Network.send_reissued`).
* `Client.session_reissued`: samples one after the other, by users with the one token and with the
  other.
-/

namespace QuerySwarm

/-! ### Requests with other headers -/

namespace HttpRequest

/-- The request with other headers in place of its own. -/
def mapHeaders (f : String × String → String × String) (r : HttpRequest) : HttpRequest :=
  { r with headers := r.headers.map f }

section Names

variable {f : String × String → String × String} (names : ∀ h, (f h).1 = h.1)

include names

theorem without_mapHeaders (r : HttpRequest) (name : String) :
    (r.mapHeaders f).without name = (r.without name).mapHeaders f := by
  have hfilter : (r.headers.map f).filter (fun h => h.1 ≠ name) =
      (r.headers.filter fun h => h.1 ≠ name).map f := by
    rw [List.filter_map]
    simp only [Function.comp_def, names]
  show { r with headers := (r.headers.map f).filter fun h => h.1 ≠ name } = _
  rw [hfilter]
  rfl

/-- Where names of headers stay, a request is redirected as before. -/
theorem redirected_mapHeaders (r : HttpRequest) (status : Nat) (url : Url) :
    (r.mapHeaders f).redirected status url = (r.redirected status url).mapHeaders f := by
  have hurl : (r.mapHeaders f).url = r.url := rfl
  unfold redirected
  rw [hurl]
  -- the request keeps its credentials or not, and its body or not
  cases sharesHost r.url url <;> cases isRepeating status
  all_goals simp only [if_true, Bool.false_eq_true, if_false, without_mapHeaders names]
  all_goals rfl

theorem next?_mapHeaders (r : HttpRequest) (response : HttpResponse) :
    (r.mapHeaders f).next? response = (r.next? response).map (mapHeaders f) := by
  unfold next?
  split
  · show (r.nextUrl? response).map ((r.mapHeaders f).redirected response.status) = _
    rw [Option.map_map]
    exact congrArg (fun g => (r.nextUrl? response).map g)
      (funext (redirected_mapHeaders names r response.status))
  · rfl

end Names

/-! ### One token in place of another -/

def anonymousHeader (h : String × String) : String × String :=
  if h.1 = authorizationHeader then (h.1, "") else h

/-- The request without the values of its credentials. -/
def anonymous (r : HttpRequest) : HttpRequest := r.mapHeaders anonymousHeader

def reissuedHeader (t u : BearerToken) (h : String × String) : String × String :=
  if h = (authorizationHeader, t.header) then (authorizationHeader, u.header) else h

/-- The request with the second token in place of the first. -/
def reissued (t u : BearerToken) (r : HttpRequest) : HttpRequest := r.mapHeaders (reissuedHeader t u)

variable (t u : BearerToken)

theorem reissuedHeader_fst (h : String × String) : (reissuedHeader t u h).1 = h.1 := by
  unfold reissuedHeader
  split
  · next heq => rw [heq]
  · rfl

theorem anonymousHeader_reissuedHeader (h : String × String) :
    anonymousHeader (reissuedHeader t u h) = anonymousHeader h := by
  unfold reissuedHeader
  split
  · next heq =>
    rw [heq]
    rfl
  · rfl

/-- Which token a request carries is not seen when the values of its credentials are left out. -/
theorem anonymous_reissued (r : HttpRequest) : (r.reissued t u).anonymous = r.anonymous := by
  show { r with headers := (r.headers.map (reissuedHeader t u)).map anonymousHeader } = _
  rw [List.map_map]
  simp only [Function.comp_def, anonymousHeader_reissuedHeader]
  rfl

theorem map_anonymous_reissued (delivered : List HttpRequest) :
    (delivered.map (reissued t u)).map anonymous = delivered.map anonymous := by
  rw [List.map_map]
  exact List.map_congr_left fun r _ => anonymous_reissued t u r

theorem next?_reissued (r : HttpRequest) (response : HttpResponse) :
    (r.reissued t u).next? response = (r.next? response).map (reissued t u) :=
  next?_mapHeaders (reissuedHeader_fst t u) r response

/-- The credentials of a URL are never those of a token. -/
theorem header_credentials_ne (c : Url.Credentials) : c.header ≠ t.header := by
  intro h
  have hchars := congrArg String.toList h
  simp only [Url.Credentials.header, BearerToken.header, String.toList_append] at hchars
  have hsecond := congrArg (fun cs => cs[1]?) hchars
  simp at hsecond

theorem reissued_ofUrl (method : HttpMethod) (url : Url) (body : Bytes) :
    (ofUrl method url body).reissued t u = ofUrl method url body := by
  unfold ofUrl
  split
  · rfl
  · next credentials _ =>
    have hne : (authorizationHeader, credentials.header) ≠ (authorizationHeader, t.header) :=
      fun h => header_credentials_ne t credentials (Prod.mk.inj h).2
    simp [reissued, mapHeaders, reissuedHeader, hne]

theorem reissued_add (r : HttpRequest) (name value : String) :
    (r.add name value).reissued t u =
      { (r.reissued t u) with
        headers := (r.reissued t u).headers ++ [reissuedHeader t u (name, value)] } := by
  simp [reissued, mapHeaders, add]

end HttpRequest

/-! ### Networks that do not look at credentials -/

namespace Network

/-- What is answered does not depend on the values of credentials. -/
def IsBlind (net : Network) : Prop :=
  ∀ d e r s, d.map HttpRequest.anonymous = e.map HttpRequest.anonymous →
    r.anonymous = s.anonymous → net.answer? d r = net.answer? e s

variable {net : Network} (blind : net.IsBlind) (t u : BearerToken)

include blind

theorem answer?_reissued (delivered : List HttpRequest) (r : HttpRequest) :
    net.answer? (delivered.map (HttpRequest.reissued t u)) (r.reissued t u) =
      net.answer? delivered r :=
  blind _ _ _ _ (HttpRequest.map_anonymous_reissued t u delivered)
    (HttpRequest.anonymous_reissued t u r)

theorem follow_reissued (left : Nat) (r : HttpRequest) (delivered : List HttpRequest) :
    net.follow left (r.reissued t u) (delivered.map (HttpRequest.reissued t u)) =
      ⟨(net.follow left r delivered).result,
        (net.follow left r delivered).delivered.map (HttpRequest.reissued t u)⟩ := by
  have hurl : ∀ r : HttpRequest, (r.reissued t u).url = r.url := fun _ => rfl
  have hsnoc : ∀ (d : List HttpRequest) (r : HttpRequest),
      d.map (HttpRequest.reissued t u) ++ [r.reissued t u] =
        (d ++ [r]).map (HttpRequest.reissued t u) := fun d r => by simp
  induction left generalizing r delivered with
  | zero =>
    unfold follow
    rw [answer?_reissued blind, hurl, hsnoc]
    split
    · rfl
    · cases net.answer? delivered r with
      | none => rfl
      | some response =>
        simp only [HttpRequest.next?_reissued]
        cases r.next? response <;> rfl
  | succ left ih =>
    unfold follow
    rw [answer?_reissued blind, hurl, hsnoc]
    split
    · rfl
    · cases net.answer? delivered r with
      | none => rfl
      | some response =>
        simp only [HttpRequest.next?_reissued]
        cases r.next? response with
        | none => rfl
        | some next =>
          simp only [Option.map_some, hurl]
          split
          · exact ih next (delivered ++ [r])
          · rfl

/-- What is sent back is the same, whichever token it is sent for. -/
theorem send_reissued (r : HttpRequest) (delivered : List HttpRequest) :
    net.send (r.reissued t u) (delivered.map (HttpRequest.reissued t u)) =
      ⟨(net.send r delivered).result,
        (net.send r delivered).delivered.map (HttpRequest.reissued t u)⟩ := by
  unfold send
  show (if Url.isHttp r.url.scheme then _ else _) = _
  split
  · rw [follow_reissued blind]
  · rfl

end Network

/-! ### Samples -/

namespace Client

variable {t u : BearerToken}

/-- Two tokens that can be headers make the same request, but for the token. -/
theorem request_reissued (legal : isHeaderText t.header = true)
    (legal' : isHeaderText u.header = true) (c : Client) (operation : String) (payload : Request) :
    c.request u operation payload =
      (c.request t operation payload).map (HttpRequest.reissued t u) := by
  have hother : (contentTypeHeader, contentType) ≠ (authorizationHeader, t.header) := fun h =>
    absurd (Prod.mk.inj h).1 (by decide)
  unfold request
  rw [legal, legal']
  dsimp only
  split
  · rfl
  · simp only [Bool.not_true, Bool.false_eq_true, if_false, Except.map]
    refine congrArg Except.ok ?_
    rw [HttpRequest.reissued_add, HttpRequest.reissued_add, HttpRequest.reissued_ofUrl]
    simp [HttpRequest.reissuedHeader, hother, HttpRequest.add]

/-- What comes of a sample is the same with another token, and so is what was delivered, but for the
token. -/
theorem perform_reissued {net : Network} {files files' : Files} {task : Task}
    (legal : isHeaderText t.header = true) (legal' : isHeaderText u.header = true)
    (blind : net.IsBlind) (same : task.payload files' = task.payload files) (c : Client)
    (delivered : List HttpRequest) :
    c.perform net u files' task (delivered.map (HttpRequest.reissued t u)) =
      ((c.perform net t files task delivered).1,
        (c.perform net t files task delivered).2.map (HttpRequest.reissued t u)) := by
  unfold perform
  rw [same]
  cases task.payload files with
  | error e => rfl
  | ok payload =>
    show c.post net u task.name payload _ =
      ((c.post net t task.name payload delivered).1,
        (c.post net t task.name payload delivered).2.map (HttpRequest.reissued t u))
    unfold post
    rw [request_reissued legal legal']
    cases c.request t task.name payload with
    | error e => rfl
    | ok r =>
      show (_, (net.send (r.reissued t u) _).delivered) = _
      simp only [Network.send_reissued blind]

end Client

/-! ### Sessions -/

/-- The event without the time that was measured. -/
def LogEvent.untimed (e : LogEvent) : LogEvent :=
  { e with fields := e.fields.filter fun field => field.1 ≠ "duration_ms" }

/-- Two calls of which one is the other with another token. Each may take its own time. -/
structure Call.IsReissued (t u : BearerToken) (call other : Call) : Prop where
  token : call.user.token = t
  token' : other.user.token = u
  number : other.user.number = call.user.number
  net : other.net = call.net
  task : other.task = call.task
  payload : call.task.payload other.files = call.task.payload call.files

namespace Session

def results (s : Session) : List (Except SampleError Nat) := s.visits.map fun v => v.sampled.result

/-- All that was reported, sample after sample. -/
def log (s : Session) : Log := s.visits.flatMap fun v => v.sampled.log

/-- A session that is another one, but for the token and the times that were measured. -/
structure IsReissued (t u : BearerToken) (s other : Session) : Prop where
  results : other.results = s.results
  log : other.log.map LogEvent.untimed = s.log.map LogEvent.untimed
  counters : other.tally.counters = s.tally.counters
  delivered : other.delivered = s.delivered.map (HttpRequest.reissued t u)

end Session

theorem Outcome.untimed_events (o : Outcome) (user operation : String) (m n : Nat) :
    (o.events user operation m).map LogEvent.untimed =
      (o.events user operation n).map LogEvent.untimed := by
  unfold Outcome.events
  cases o.result with
  | error e => rfl
  | ok status =>
    simp only [List.map_append]
    rfl

theorem Outcome.counters_record (o : Outcome) (operation : String) (m n : Nat) {t u : Tally}
    (h : t.counters = u.counters) :
    (o.record operation m t).counters = (o.record operation n u).counters := by
  unfold Outcome.record
  cases o.isSuccess with
  | true =>
    show { t.counters with requests := t.counters.requests.succeed } = _
    rw [h]
    rfl
  | false =>
    show { t.counters with
      requests := t.counters.requests.fail
      operations := t.counters.operations.update operation Tally.countFailure } = _
    rw [h]
    rfl

section Calls

variable {t u : BearerToken} (legal : isHeaderText t.header = true)
  (legal' : isHeaderText u.header = true)

include legal legal'

/-- A sample with another token: what comes of it, what is reported and counted, and what is
delivered. -/
theorem Call.execute_reissued {call other : Call} (h : call.IsReissued t u other)
    (blind : call.net.IsBlind) (c : Client) {tally tally' : Tally}
    (hcounters : tally'.counters = tally.counters) (delivered : List HttpRequest) :
    let first := call.execute c tally delivered
    let second := other.execute c tally' (delivered.map (HttpRequest.reissued t u))
    second.result = first.result ∧
      second.log.map LogEvent.untimed = first.log.map LogEvent.untimed ∧
      second.tally.counters = first.tally.counters ∧
      second.delivered = first.delivered.map (HttpRequest.reissued t u) ∧
      (other.milliseconds = call.milliseconds →
        second.log = first.log ∧ (tally' = tally → second.tally = first.tally)) := by
  have hperform := Client.perform_reissued legal legal' blind h.payload c delivered
  have hname : other.user.name = call.user.name := congrArg User.nameOf h.number
  simp only [Call.execute, User.execute, h.token, h.token', h.net, h.task, hname, hperform]
  refine ⟨trivial, Outcome.untimed_events _ _ _ _ _, ?_, trivial, fun htime => ?_⟩
  · refine Outcome.counters_record _ _ _ _ ?_
    let started := Tally.Write.requestStarted call.task.name
    show Tally.writeCounters tally'.counters started = Tally.writeCounters tally.counters started
    rw [hcounters]
  · rw [htime]
    refine ⟨rfl, ?_⟩
    rintro rfl
    rfl

/-- One more sample. -/
theorem Session.IsReissued.next {call other : Call} {s s' : Session}
    (before : s.IsReissued t u s') (h : call.IsReissued t u other) (blind : call.net.IsBlind)
    (c : Client) : (s.next c call).IsReissued t u (s'.next c other) := by
  obtain ⟨hresult, hlog, hcounters, hdelivered, -⟩ :=
    Call.execute_reissued legal legal' h blind c before.counters s.delivered
  rw [← before.delivered] at hresult hlog hcounters hdelivered
  constructor
  case results =>
    show (s'.visits ++ [_]).map (fun v : Visit => v.sampled.result) =
      (s.visits ++ [_]).map fun v : Visit => v.sampled.result
    rw [List.map_append, List.map_append]
    exact congrArg₂ (· ++ ·) before.results (congrArg (fun r => [r]) hresult)
  case log =>
    simp only [Session.log, Session.next, List.flatMap_append, List.map_append, List.flatMap_cons,
      List.flatMap_nil, List.append_nil]
    exact congrArg₂ (· ++ ·) before.log hlog
  case counters => exact hcounters
  case delivered => exact hdelivered

/-- Whatever samples are taken, one after the other, and by whatever users: with another token each
comes to the same result, reports the same but for the time that was measured, and is counted the
same; what is delivered is the same but for the token. If the samples take the same times, nothing else
is different either. -/
theorem Client.session_reissued {calls calls' : List Call}
    (h : List.Forall₂ (Call.IsReissued t u) calls calls')
    (blind : ∀ call ∈ calls, call.net.IsBlind) (c : Client) :
    (c.session calls).IsReissued t u (c.session calls') ∧
      (calls'.map Call.milliseconds = calls.map Call.milliseconds →
        (c.session calls').log = (c.session calls).log ∧
          (c.session calls').tally = (c.session calls).tally) := by
  have start : Session.empty.IsReissued t u Session.empty := ⟨rfl, rfl, rfl, rfl⟩
  suffices hfold : ∀ s s' : Session, s.IsReissued t u s' →
      (calls.foldl (Session.next c) s).IsReissued t u (calls'.foldl (Session.next c) s') ∧
        (calls'.map Call.milliseconds = calls.map Call.milliseconds → s'.log = s.log →
          s'.tally = s.tally →
          (calls'.foldl (Session.next c) s').log = (calls.foldl (Session.next c) s).log ∧
            (calls'.foldl (Session.next c) s').tally =
              (calls.foldl (Session.next c) s).tally) by
    obtain ⟨hreissued, htimed⟩ := hfold _ _ start
    exact ⟨hreissued, fun htimes => htimed htimes rfl rfl⟩
  induction h with
  | nil => exact fun s s' before => ⟨before, fun _ hlog htally => ⟨hlog, htally⟩⟩
  | @cons call other calls calls' first rest ih =>
    intro s s' before
    have hblind := blind call List.mem_cons_self
    have after := before.next legal legal' first hblind c
    obtain ⟨hreissued, htimed⟩ :=
      ih (fun call hcall => blind call (List.mem_cons_of_mem _ hcall)) _ _ after
    refine ⟨hreissued, fun htimes hlog htally => ?_⟩
    simp only [List.map_cons, List.cons.injEq] at htimes
    obtain ⟨-, -, -, -, hexact⟩ :=
      Call.execute_reissued legal legal' first hblind c before.counters s.delivered
    rw [← before.delivered] at hexact
    obtain ⟨hsamplelog, hsampletally⟩ := hexact htimes.1
    refine htimed htimes.2 ?_ (hsampletally htally)
    simp only [Session.log, Session.next, List.flatMap_append, List.flatMap_cons,
      List.flatMap_nil, List.append_nil]
    exact congrArg₂ (· ++ ·) hlog hsamplelog

end Calls

end QuerySwarm
