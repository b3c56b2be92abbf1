import QuerySwarm.Http.Exchange
import QuerySwarm.Log
import QuerySwarm.Response
import QuerySwarm.Tally
import QuerySwarm.Task.Basic

/-!
# Samples

A sample is one go at a task. It fails if the task has no payload, if there is no response, if the
status of the response does not tell of success, or if its body is rejected; the first of these in
this order is why. Whatever came of it is counted, under the name of the task.

Main statement: recording a sample that was started takes one request out of flight, and counts it
once, as a success or as a failure (`Outcome.finished_record`).
-/

namespace QuerySwarm

/-- Why a sample failed. -/
inductive SampleError where
  | payload (error : PayloadError)
  | transport (error : TransportError)
  | status (code : Nat)
  | rejected (rejection : Response.Rejection)

def SampleError.message : SampleError → String
  | payload error => error.message
  | transport error => "request failed: " ++ error.message
  | status code => "server returned HTTP " ++ natText code
  | rejected rejection => "response rejected: " ++ rejection.message

/-- What came of a sample: the status of a good response or why it failed, and what was reported
on the way. -/
structure Outcome where
  result : Except SampleError Nat
  log : Log

namespace Outcome

/-- A failure of which nothing else was reported. -/
def failed (error : SampleError) : Outcome := ⟨.error error, []⟩

def isSuccess (o : Outcome) : Bool := o.result.isOk

/-- Whether nothing was sent, because there was nothing to send. -/
def isUnsent (o : Outcome) : Bool :=
  match o.result with
  | .error (.payload _) => true
  | _ => false

def record (o : Outcome) (operation : String) (milliseconds : Nat) (t : Tally) : Tally :=
  if o.isSuccess then t.requestSucceeded operation milliseconds
  else t.requestFailed operation milliseconds

/-- What is reported of a sample that went well. -/
def successEvent (user operation : String) (status milliseconds : Nat) : LogEvent where
  level := .debug
  source := .user
  message := "Request ok"
  fields := [("user", .bare user), ("operation", .quotedText operation),
    ("status", .bare (natText status)), ("duration_ms", .bare (natText milliseconds))]

/-- All that is reported of a sample by the time that it is recorded. -/
def events (o : Outcome) (user operation : String) (milliseconds : Nat) : Log :=
  match o.result with
  | .ok status => o.log ++ [successEvent user operation status milliseconds]
  | .error _ => o.log

@[simp] theorem requests_record (o : Outcome) (operation : String) (milliseconds : Nat)
    (t : Tally) :
    (o.record operation milliseconds t).counters.requests =
      if o.isSuccess then t.counters.requests.succeed else t.counters.requests.fail := by
  unfold record
  split <;> rfl

@[simp] theorem users_record (o : Outcome) (operation : String) (milliseconds : Nat) (t : Tally) :
    (o.record operation milliseconds t).counters.users = t.counters.users := by
  unfold record
  split <;> rfl

theorem finished_record (o : Outcome) (operation : String) (milliseconds : Nat) (t : Tally) :
    (o.record operation milliseconds t).counters.requests.finished =
      t.counters.requests.finished + 1 ∧
    (o.record operation milliseconds t).counters.requests.inFlight =
      t.counters.requests.inFlight - 1 := by
  unfold record
  split
  · exact ⟨Nat.add_right_comm _ _ _, rfl⟩
  · exact ⟨rfl, rfl⟩

end Outcome

end QuerySwarm
