import QuerySwarm.Proofs.Client.Samples
import QuerySwarm.Proofs.Endpoint

/-!
# One sample and its requests

A sample is meant to be one request, and to go well only if that request was answered well. This
holds as long as no answer leads to another place: an answer that does is followed, and then more
requests are delivered, and the answer to the last one counts.

* `Client.requests_of_send`: the first request of a sample is the one that carries the payload,
  and there are at most eleven.
* `Client.isSinglePost_iff`: a sample is one request exactly when its answer leads nowhere.
-/

namespace QuerySwarm

/-- A sample that caused no more than the request that carries the payload, and that went well only
if this request itself was answered well. -/
structure IsSinglePost (base : Url) (payload : Request) (call : Call) (before : List HttpRequest)
    (s : Sampled) : Prop where
  delivered : s.delivered = before ∨
    ∃ r, IsPost base payload r ∧ s.delivered = before ++ [r]
  answered : ∀ status, s.result = .ok status → ∃ r response, IsPost base payload r ∧
    s.delivered = before ++ [r] ∧ call.net.answer? before r = some response ∧
    response.isSuccess = true

namespace Client

variable {c : Client} {call : Call} {before : List HttpRequest}

/-- A response that is judged to be good has a status of success. -/
theorem isSuccess_of_judge {response : HttpResponse} {status : Nat}
    (h : c.judge response = .ok status) : response.isSuccess = true := by
  cases hsuccess : response.isSuccess with
  | true => rfl
  | false =>
    rw [judge_of_status c hsuccess] at h
    cases h

theorem eq_of_readWhole {received response : HttpResponse}
    (h : Network.readWhole received = .ok response) : received = response := by
  unfold Network.readWhole at h
  split at h
  · cases h
    rfl
  · cases h

section Sent

variable {payload : Request} {r : HttpRequest}

/-- All that a sample delivers is delivered when its request is sent. -/
theorem delivered_execute (hpayload : call.task.payload call.files = .ok payload)
    (hrequest : c.request call.user.token call.task.name payload = .ok r) (t : Tally)
    (before : List HttpRequest) :
    (call.execute c t before).delivered = (call.net.send r before).delivered := by
  simp only [Call.execute, User.execute]
  cases hsend : call.net.send r before with
  | mk result after =>
    cases result with
    | error e => rw [perform_of_send_error hpayload hrequest hsend]
    | ok response => rw [perform_of_response hpayload hrequest hsend]

/-- A sample that went well had a response of success. -/
theorem exists_response_of_execute (hpayload : call.task.payload call.files = .ok payload)
    (hrequest : c.request call.user.token call.task.name payload = .ok r) {t : Tally} {status : Nat}
    (h : (call.execute c t before).result = .ok status) :
    ∃ response, (call.net.send r before).result = .ok response ∧ response.isSuccess = true := by
  simp only [Call.execute, User.execute] at h
  cases hsend : call.net.send r before with
  | mk result after =>
    cases result with
    | error e =>
      rw [perform_of_send_error hpayload hrequest hsend] at h
      cases h
    | ok response =>
      rw [perform_of_response hpayload hrequest hsend] at h
      exact ⟨response, rfl, isSuccess_of_judge h⟩

/-- What is sent is at most eleven requests, the first of them this one. -/
theorem requests_of_send (net : Network) (r : HttpRequest) (before : List HttpRequest) :
    (net.send r before).delivered = before ∨
      ∃ rest, (net.send r before).delivered = before ++ r :: rest ∧ rest.length ≤ 10 := by
  unfold Network.send
  by_cases http : Url.isHttp r.url.scheme = true
  · rw [if_pos http]
    cases reached : net.reaches r.url with
    | false =>
      rw [Network.follow_of_unreached reached]
      exact Or.inl rfl
    | true => exact Or.inr (net.exists_delivered_follow Network.redirectLimit r before reached)
  · rw [if_neg http]
    exact Or.inl rfl

/-- An answer that leads to another place is not one of success. -/
theorem isSuccess_of_next {response : HttpResponse} {next : HttpRequest}
    (h : r.next? response = some next) : response.isSuccess = false := by
  unfold HttpRequest.next? at h
  split at h
  · next hstatus =>
    simp only [HttpRequest.isRepeating, HttpRequest.isReplacing, Bool.or_eq_true, beq_iff_eq]
      at hstatus
    simp only [HttpResponse.isSuccess, decide_eq_false_iff_not]
    omega
  · cases h

/-- A sample whose answer leads on is more than one request. -/
theorem not_isSinglePost_of_leadsOn {base : Url}
    (hpayload : call.task.payload call.files = .ok payload)
    (hrequest : c.request call.user.token call.task.name payload = .ok r)
    (http : Url.isHttp r.url.scheme = true) (reached : call.net.reaches r.url = true)
    (leads : call.net.LeadsOn r before) (t : Tally) :
    ¬IsSinglePost base payload call before (call.execute c t before) := by
  intro single
  have hsend : (call.net.send r before).delivered =
      (call.net.follow Network.redirectLimit r before).delivered := by
    unfold Network.send
    rw [if_pos http]
  obtain ⟨next, rest, hmore⟩ := Network.exists_delivered_of_leadsOn 9 reached leads
  have hdelivered := delivered_execute hpayload hrequest t before
  rw [hsend] at hdelivered
  -- two requests more than before, while one sample is meant to be one at most
  have hlength : (call.execute c t before).delivered.length = before.length + rest.length + 2 := by
    rw [hdelivered, show Network.redirectLimit = 9 + 1 from rfl, hmore, List.length_append]
    simp only [List.length_cons]
    omega
  rcases single.delivered with hnone | ⟨r', -, hone⟩
  · rw [hnone] at hlength
    omega
  · rw [hone, List.length_append, List.length_singleton] at hlength
    omega

/-- A sample whose answer leads nowhere is one request. -/
theorem isSinglePost_of_not_leadsOn {base : Url}
    (hpayload : call.task.payload call.files = .ok payload)
    (hrequest : c.request call.user.token call.task.name payload = .ok r)
    (post : IsPost base payload r) (http : Url.isHttp r.url.scheme = true)
    (leads : ¬(call.net.reaches r.url = true ∧ call.net.LeadsOn r before)) (t : Tally) :
    IsSinglePost base payload call before (call.execute c t before) := by
  have hdelivered := delivered_execute hpayload hrequest t before
  cases reached : call.net.reaches r.url with
  | false =>
    have hunsent : call.net.send r before = ⟨.error (.undelivered r.url), before⟩ := by
      unfold Network.send
      rw [if_pos http, Network.follow_of_unreached reached]
      rfl
    refine ⟨Or.inl (hdelivered.trans (by rw [hunsent])), fun status hok => ?_⟩
    obtain ⟨response, hresponse, -⟩ := exists_response_of_execute hpayload hrequest hok
    rw [hunsent] at hresponse
    cases hresponse
  | true =>
    obtain ⟨hone, hanswer⟩ := Network.follow_of_not_leadsOn Network.redirectLimit reached
      fun h => leads ⟨reached, h⟩
    have hsend : call.net.send r before =
        ⟨(call.net.follow Network.redirectLimit r before).result.bind Network.readWhole,
          before ++ [r]⟩ := by
      unfold Network.send
      rw [if_pos http, ← hone]
    rw [hsend] at hdelivered
    refine ⟨Or.inr ⟨r, post, hdelivered⟩, fun status hok => ?_⟩
    obtain ⟨response, hresponse, hsuccess⟩ := exists_response_of_execute hpayload hrequest hok
    rw [hsend] at hresponse
    -- what was read is what was answered to this very request
    cases hfollow : (call.net.follow Network.redirectLimit r before).result with
    | error e =>
      rw [hfollow] at hresponse
      cases hresponse
    | ok received =>
      rw [hfollow] at hresponse
      obtain rfl := eq_of_readWhole hresponse
      exact ⟨r, received, post, hdelivered, hanswer received hfollow, hsuccess⟩

end Sent

/-- With a host that is accepted, a token that can be a header and a payload there is one request to
send. It is the first one of the sample, and ten more may follow. The sample is this one request, and
goes well only if this one was answered well, exactly when the server cannot be reached or its answer
does not lead to another place that can be reached; and an answer that does is not one of success. -/
theorem isSinglePost_iff {text : String} {settings : Settings} {payload : Request}
    (parsed : Settings.parseHost text = .ok settings.host) (made : ofSettings settings = .ok c)
    (legal : isHeaderText call.user.token.header = true)
    (hpayload : call.task.payload call.files = .ok payload) (t : Tally)
    (before : List HttpRequest) :
    ∃ r, c.request call.user.token call.task.name payload = .ok r ∧
      IsPost settings.host payload r ∧
      ((call.execute c t before).delivered = before ∨
        ∃ rest, (call.execute c t before).delivered = before ++ r :: rest ∧ rest.length ≤ 10) ∧
      (IsSinglePost settings.host payload call before (call.execute c t before) ↔
        ¬(call.net.reaches r.url = true ∧ call.net.LeadsOn r before)) ∧
      (call.net.LeadsOn r before →
        ∀ response, call.net.answer? before r = some response → response.isSuccess = false) := by
  obtain ⟨r, hrequest, post, http⟩ := exists_request parsed made legal call.task.name payload
  refine ⟨r, hrequest, post, ?_, ⟨fun single leads => ?_, fun leads => ?_⟩, ?_⟩
  · rw [delivered_execute hpayload hrequest t before]
    exact requests_of_send call.net r before
  · exact not_isSinglePost_of_leadsOn hpayload hrequest http leads.1 leads.2 t single
  · exact isSinglePost_of_not_leadsOn hpayload hrequest post http leads t
  · rintro ⟨response, next, answered, hnext, -, -⟩ response' answered'
    rw [answered] at answered'
    cases answered'
    exact isSuccess_of_next hnext

/-- A server that sends whoever asks to a page for logging in, which is there. -/
def loginServer : Network := .recalled
  [some ⟨302, [("location", bytesOf "/login")], [], true⟩, some ⟨200, [], bytesOf "{}", true⟩]

/-- The sample goes well although its request was not answered well, because the page was. -/
theorem not_isSinglePost_of_loginServer :
    ∃ (c : Client) (call : Call) (payload : Request) (r : HttpRequest),
      Settings.parseHost "http://[::1]:4010" = .ok localSettings.host ∧
      ofSettings localSettings = .ok c ∧ isHeaderText call.user.token.header = true ∧
      call.task.payload call.files = .ok payload ∧ call.net = loginServer ∧
      c.request call.user.token call.task.name payload = .ok r ∧
      IsPost localSettings.host payload r ∧
      (call.execute c .empty []).result.toOption = some 200 ∧
      (call.execute c .empty []).delivered.length = 2 ∧
      ¬IsSinglePost localSettings.host payload call [] (call.execute c .empty []) ∧
      call.net.LeadsOn r [] ∧
      ∀ response, call.net.answer? [] r = some response → response.isSuccess = false := by
  let call : Call :=
    ⟨⟨0, ⟨"token", by decide⟩⟩, loginServer, ⟨[], []⟩, .fixed "search" "query" [], 5⟩
  have hpayload : call.task.payload call.files = .ok (Request.ofQuery "query") := rfl
  have legal : isHeaderText call.user.token.header = true := by decide +kernel
  obtain ⟨segments, hpath⟩ : ∃ segments, localSettings.host.path = .rooted segments := ⟨_, rfl⟩
  obtain ⟨c, made, hc⟩ : ∃ c, ofSettings localSettings = .ok c ∧
      (call.execute c .empty []).result.toOption = some 200 ∧
      (call.execute c .empty []).delivered.length = 2 := by
    unfold ofSettings
    rw [Endpoint.ofHost_eq rfl hpath]
    exact ⟨_, rfl, by decide +kernel⟩
  obtain ⟨r, hrequest, post, -, hsingle, hfailed⟩ :=
    isSinglePost_iff parseHost_localSettings made legal hpayload .empty []
  -- two requests were delivered, so the answer to the first one must lead on
  have hmore : ¬IsSinglePost localSettings.host (Request.ofQuery "query") call []
      (call.execute c .empty []) := by
    intro single
    rcases single.delivered with hnone | ⟨r', -, hone⟩
    · rw [hnone] at hc
      cases hc.2
    · rw [hone] at hc
      cases hc.2
  have leads := not_not.1 (mt hsingle.2 hmore)
  exact ⟨c, call, _, r, parseHost_localSettings, made, legal, hpayload, rfl, hrequest, post, hc.1,
    hc.2, hmore, leads.2, hfailed leads.2⟩

end Client

end QuerySwarm
