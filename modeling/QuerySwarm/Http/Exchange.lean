import QuerySwarm.Http.Message

/-!
# Exchanges over a network

A network is what is outside: which hosts can be reached, and how each request is answered, given
all the requests that were delivered before it. A request to a host that cannot be reached is not
delivered.

A response that names another place is followed, ten times at most. After some statuses the request
is sent again as it was, after others it becomes a plain one without a body, and the credential is
kept only for the same host and port.

Main statements: what was delivered stays delivered (`Network.delivered_prefix_follow`), and a
request to a host that cannot be reached is never delivered (`Network.follow_of_unreached`).
-/

namespace QuerySwarm

/-- Why there is no response. -/
inductive TransportError where
  | unsendable (url? : Option Url)
  | undelivered (url : Url)
  | tooManyRedirects (url : Url)
  | bodyCut
  deriving DecidableEq

def TransportError.message : TransportError → String
  | unsendable none => "builder error"
  | unsendable (some url) => "builder error for url (" ++ url.text ++ ")"
  | undelivered url => "error sending request for url (" ++ url.text ++ ")"
  | tooManyRedirects url => "error following redirect for url (" ++ url.text ++ ")"
  | bodyCut => "error decoding response body"

/-- What is outside: the URLs that can be reached, and the answer to a request after those that were
delivered before it. There may be none, or the connection may break before it.

A URL for which there is no request target counts as one that is not reached. There are such URLs: a
host may hold a backtick, a brace or a double quote, with which no target can be written. No request
to them is ever delivered; only the text of the error would be another one. -/
structure Network where
  reaches : Url → Bool
  answer? : List HttpRequest → HttpRequest → Option HttpResponse

/-- What came of sending: a response or an error, and all that was delivered so far. -/
structure Delivery where
  result : Except TransportError HttpResponse
  delivered : List HttpRequest

/-! ### Redirects -/

namespace HttpRequest

/-- Whether a status asks for the request to be sent again as it was. -/
def isRepeating (status : Nat) : Bool := status == 307 || status == 308

/-- Whether a status asks for a plain request without a body. -/
def isReplacing (status : Nat) : Bool := status == 301 || status == 302 || status == 303

def nextUrl? (r : HttpRequest) (response : HttpResponse) : Option Url :=
  match (response.header? locationHeader).bind textOf? with
  | none => none
  | some location => (r.url.resolve location).toOption

/-- The number of the port that a URL leads to. -/
def portOf (u : Url) : Option Nat := u.port.or (Url.defaultPort? u.scheme)

/-- Whether two URLs lead to one host and port. -/
def sharesHost (u v : Url) : Bool := u.host == v.host && portOf u == portOf v

def redirected (r : HttpRequest) (status : Nat) (url : Url) : HttpRequest :=
  let kept := if sharesHost r.url url then r else r.without authorizationHeader
  if isRepeating status then { kept with url := url }
  else { kept.without contentTypeHeader with method := .get, url := url, body := [] }

/-- The request that a response leads to, if it leads anywhere. -/
def next? (r : HttpRequest) (response : HttpResponse) : Option HttpRequest :=
  if isRepeating response.status || isReplacing response.status then
    (r.nextUrl? response).map (r.redirected response.status)
  else none

end HttpRequest

/-! ### Sending -/

namespace Network

/-- The number of times that a response to somewhere else is followed. -/
def redirectLimit : Nat := 10

/-- Send a request, and follow where the responses lead, so many times more. -/
def follow (net : Network) : Nat → HttpRequest → List HttpRequest → Delivery
  | left, r, delivered =>
    if !net.reaches r.url then ⟨.error (.undelivered r.url), delivered⟩
    else
      match net.answer? delivered r with
      | none => ⟨.error (.undelivered r.url), delivered ++ [r]⟩
      | some response =>
        match r.next? response with
        | none => ⟨.ok response, delivered ++ [r]⟩
        | some next =>
          match left with
          | 0 => ⟨.error (.tooManyRedirects r.url), delivered ++ [r]⟩
          | left + 1 =>
            if Url.isHttp next.url.scheme then net.follow left next (delivered ++ [r])
            else ⟨.error (.unsendable (some next.url)), delivered ++ [r]⟩

def readWhole (response : HttpResponse) : Except TransportError HttpResponse :=
  if response.isWhole then .ok response else .error .bodyCut

/-- Send a request and read the response that it ends in. -/
def send (net : Network) (r : HttpRequest) (delivered : List HttpRequest) : Delivery :=
  if Url.isHttp r.url.scheme then
    let d := net.follow redirectLimit r delivered
    ⟨d.result.bind readWhole, d.delivered⟩
  else ⟨.error (.unsendable (some r.url)), delivered⟩

theorem delivered_prefix_follow (net : Network) (left : Nat) (r : HttpRequest)
    (delivered : List HttpRequest) : delivered <+: (net.follow left r delivered).delivered := by
  induction left generalizing r delivered with
  | zero =>
    unfold follow
    split
    · exact List.prefix_refl _
    · split
      · exact List.prefix_append _ _
      · split <;> exact List.prefix_append _ _
  | succ left ih =>
    unfold follow
    split
    · exact List.prefix_refl _
    · split
      · exact List.prefix_append _ _
      · split
        · exact List.prefix_append _ _
        · dsimp only
          split
          · exact (List.prefix_append _ _).trans (ih _ _)
          · exact List.prefix_append _ _

/-- A request to a host that cannot be reached is not delivered. -/
theorem follow_of_unreached {net : Network} {r : HttpRequest} (h : net.reaches r.url = false)
    (left : Nat) (delivered : List HttpRequest) :
    net.follow left r delivered = ⟨.error (.undelivered r.url), delivered⟩ := by
  unfold follow
  simp [h]

/-- A network on which nobody can be reached. -/
def deserted : Network := ⟨fun _ => false, fun _ _ => none⟩

/-- The network on which these answers were given, one after the other. -/
def recalled (answers : List (Option HttpResponse)) : Network :=
  ⟨fun _ => true, fun delivered _ => (answers[delivered.length]?).join⟩

end Network

end QuerySwarm
