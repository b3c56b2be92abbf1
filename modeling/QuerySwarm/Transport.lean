import QuerySwarm.Client
import QuerySwarm.Http.Wire
import Std.Async.DNS
import Std.Async.TCP

/-!
# The transport

Requests go out over sockets, each over one of its own. Which requests there are is decided
elsewhere: the answers so far are played back, and what is asked for next is sent.

There is no encryption, so a request that wants it gets no answer.
-/

namespace QuerySwarm.Transport

open Std.Async

/-- The name that the host of a URL is looked up by. -/
def hostName (u : Url) : String :=
  match u.host with
  | some (.ipv6 pieces) => String.ofList (Url.Ipv6.text pieces)
  | some host => String.ofList host.chars
  | none => ""

def addresses (u : Url) : Async (List Std.Net.SocketAddress) := do
  let port := UInt16.ofNat ((HttpRequest.portOf u).getD 0)
  let found ← DNS.getAddrInfo (hostName u) ""
  return found.toList.map fun address =>
    match address with
    | .v4 a => .v4 ⟨a, port⟩
    | .v6 a => .v6 ⟨a, port⟩

/-- Connect to the first address where somebody listens. -/
def connect : List Std.Net.SocketAddress → Async (Option TCP.Socket.Client)
  | [] => return none
  | address :: rest => do
    try
      let socket ← TCP.Socket.Client.mk
      socket.connect address
      return some socket
    catch _ => connect rest

/-- The number of bytes that are received at once. -/
def portion : UInt64 := 65536

/-- Receive a response. -/
partial def receive (socket : TCP.Socket.Client) (soFar : Bytes) : Async (Option HttpResponse) := do
  match HttpResponse.read soFar with
  | .whole response _ => return some response
  | .broken => return none
  | .short =>
    match ← socket.recv? portion with
    | some more => receive socket (soFar ++ more.toList)
    | none => return HttpResponse.readClosed? soFar

/-- The scheme whose requests go out as they are. -/
def plainScheme : List Char := ['h', 't', 't', 'p']

def ask (r : HttpRequest) : Async (Option HttpResponse) := do
  if r.url.scheme ≠ plainScheme then return none
  try
    match ← connect (← addresses r.url) with
    | none => return none
    | some socket =>
      socket.send ⟨r.wire.toArray⟩
      let response? ← receive socket []
      try socket.shutdown catch _ => pure ()
      return response?
  catch _ => return none

/-- Take one sample of a task, with so many requests at most; the answers to the first ones are
known. -/
def sample (c : Client) (token : BearerToken) (files : Files) (task : Task) :
    Nat → List (Option HttpResponse) → Async Outcome
  | left, answers => do
    let performed := c.perform (.recalled answers) token files task []
    match left, performed.2[answers.length]? with
    | left + 1, some r => sample c token files task left (answers ++ [← ask r])
    | _, _ => return performed.1

end QuerySwarm.Transport
