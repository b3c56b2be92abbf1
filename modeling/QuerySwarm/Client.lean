import QuerySwarm.Endpoint
import QuerySwarm.Sample
import QuerySwarm.Settings
import QuerySwarm.Token

/-!
# The client

The client sends the payload of a task to the endpoint, with the token, and judges the response.

Main statements: a request that can be sent carries the body as it is shown
(`Client.body_of_request`), a task without a payload sends nothing
(`Client.perform_of_payload_error`), and a status that does not tell of success weighs more than the
body (`Client.judge_of_status`).
-/

namespace QuerySwarm

/-- Whether a text can be the value of a header: apart from tabs it holds no control characters. -/
def isHeaderText (s : String) : Bool :=
  (bytesOf s).all fun b => b == 9 || (decide (32 ≤ b.toNat) && b != 127)

/-- Where requests go, and what is done with the responses. -/
structure Client where
  endpoint : Url
  tagOperations : Bool
  debugResponses : Bool
  validateResponses : Bool

namespace Client

def ofSettings (s : Settings) : Except SetupError Client :=
  match Endpoint.ofHost s.host with
  | .error e => .error e
  | .ok endpoint => .ok ⟨endpoint, s.tagOperations, s.debugResponses, s.validateResponses⟩

def urlFor (c : Client) (operation : String) : Url :=
  Endpoint.urlFor c.endpoint c.tagOperations operation

/-! ### Requests -/

def contentType : String := "application/json"

def request (c : Client) (token : BearerToken) (operation : String) (payload : Request) :
    Except TransportError HttpRequest :=
  let url := c.urlFor operation
  if !url.hasHost then .error (.unsendable (some url))
  else if !isHeaderText token.header then .error (.unsendable none)
  else
    .ok (((HttpRequest.ofUrl .post url (bytesOf payload.body)).add authorizationHeader
      token.header).add contentTypeHeader contentType)

theorem body_of_request {c : Client} {token : BearerToken} {operation : String} {payload : Request}
    {r : HttpRequest} (h : c.request token operation payload = .ok r) :
    r.method = .post ∧ r.body = bytesOf payload.body := by
  unfold request at h
  dsimp only at h
  split at h
  · cases h
  · split at h
    · cases h
    · injection h with h
      subst h
      simp

/-! ### Responses -/

def judge (c : Client) (response : HttpResponse) : Except SampleError Nat :=
  if !response.isSuccess then .error (.status response.status)
  else if !c.validateResponses then .ok response.status
  else
    match Response.judgeBody response.body with
    | .error rejection => .error (.rejected rejection)
    | .ok () => .ok response.status

theorem judge_of_status (c : Client) {response : HttpResponse} (h : response.isSuccess = false) :
    c.judge response = .error (.status response.status) := by
  simp [judge, h]

/-- What is reported of a response, where responses are reported. -/
def responseEvent (operation : String) (response : HttpResponse) : LogEvent where
  level := .info
  source := .client
  message := "Response"
  fields := [("operation", .quotedText operation), ("status", .bare (natText response.status)),
    ("body", .bare (String.ofList (Utf8.decodeLossy response.body)))]

def outcome (c : Client) (operation : String) (response : HttpResponse) : Outcome :=
  ⟨c.judge response, if c.debugResponses then [responseEvent operation response] else []⟩

/-! ### Samples -/

/-- Send a payload; what came of it, and all that was delivered so far. -/
def post (c : Client) (net : Network) (token : BearerToken) (operation : String) (payload : Request)
    (delivered : List HttpRequest) : Outcome × List HttpRequest :=
  match c.request token operation payload with
  | .error e => (.failed (.transport e), delivered)
  | .ok r =>
    let d := net.send r delivered
    (match d.result with
      | .error e => .failed (.transport e)
      | .ok response => c.outcome operation response,
     d.delivered)

def perform (c : Client) (net : Network) (token : BearerToken) (files : Files) (task : Task)
    (delivered : List HttpRequest) : Outcome × List HttpRequest :=
  match task.payload files with
  | .error e => (.failed (.payload e), delivered)
  | .ok payload => c.post net token task.name payload delivered

theorem perform_of_payload_error {files : Files} {task : Task} {e : PayloadError}
    (h : task.payload files = .error e) (c : Client) (net : Network) (token : BearerToken)
    (delivered : List HttpRequest) :
    c.perform net token files task delivered = (.failed (.payload e), delivered) := by
  simp [perform, h]

end Client

end QuerySwarm
