import QuerySwarm.Json.Reader

/-!
# Judging a response

A response of the search interface is good if its body is JSON with a `data` member that is not
`null`, and no errors: `errors` may be absent, empty or anything but an array.

Main statement: a value is good exactly when it has data and no errors
(`Response.judge_eq_ok_iff`).
-/

namespace QuerySwarm.Response

/-- Why a body is rejected. -/
inductive Rejection where
  | notJson (failure : Json.Failure)
  | errors (count : Nat) (first : String)
  | noData
  deriving DecidableEq

def Rejection.message : Rejection → String
  | .notJson failure => "body is not JSON: " ++ failure.message
  | .errors count first => natText count ++ " GraphQL error(s), first: " ++ first
  | .noData => "response has no data"

def errors (response : Json) : List Json :=
  ((response.member? "errors").bind Json.elements?).getD []

def hasData (response : Json) : Bool :=
  match response.member? "data" with
  | some data => !data.isNull
  | none => false

def errorMessage (error : Json) : String :=
  ((error.member? "message").bind Json.text?).getD "unknown error"

/-- Judge a response: errors weigh more than data. -/
def judge (response : Json) : Except Rejection Unit :=
  match errors response with
  | first :: rest => .error (.errors (rest.length + 1) (errorMessage first))
  | [] => if hasData response then .ok () else .error .noData

def judgeBody (body : Bytes) : Except Rejection Unit :=
  match Json.parse body with
  | .error failure => .error (.notJson failure)
  | .ok response => judge response

theorem judge_eq_ok_iff (response : Json) :
    judge response = .ok () ↔ errors response = [] ∧ hasData response = true := by
  unfold judge
  cases errors response <;> simp

end QuerySwarm.Response
