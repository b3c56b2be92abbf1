import QuerySwarm.Setup.Error
import QuerySwarm.Url.Parser

/-!
# The endpoint

Requests go to one path under the origin of the host; whatever path, query and fragment the host had
are gone. A request may be tagged with the name of its task, which the server ignores.

Main statements: the endpoint keeps scheme, user, host and port (`Endpoint.ofHost_origin`), and a
request that is not tagged goes to the endpoint itself (`Endpoint.urlFor_of_not_tagged`).
-/

namespace QuerySwarm.Endpoint

def path : String := "/searchapi/graphql"

/-- The name of the query that tags a request. -/
def tag : String := "op"

def ofHost (host : Url) : Except SetupError Url :=
  (host.join path).mapError fun e => .hostNotUrl host.text e

def urlFor (endpoint : Url) (tagged : Bool) (operation : String) : Url :=
  if tagged then endpoint.appendPair tag operation else endpoint

theorem urlFor_of_not_tagged (endpoint : Url) (operation : String) :
    urlFor endpoint false operation = endpoint := rfl

/-- The endpoint keeps the origin of the host and the user in it, and has no query and no fragment. -/
theorem ofHost_origin {host endpoint : Url} (h : ofHost host = .ok endpoint) :
    endpoint.scheme = host.scheme ∧ endpoint.username = host.username ∧
      endpoint.password = host.password ∧ endpoint.host = host.host ∧
      endpoint.port = host.port ∧ endpoint.query = none ∧ endpoint.fragment = none := by
  unfold ofHost at h
  cases hj : host.join path with
  | error e =>
    rw [hj] at h
    cases h
  | ok joined =>
    rw [hj] at h
    cases h
    exact Url.join_parts hj

end QuerySwarm.Endpoint
