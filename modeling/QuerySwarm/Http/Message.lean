import QuerySwarm.Text.Base64
import QuerySwarm.Url.Percent
import QuerySwarm.Url.Resolve

/-!
# HTTP messages

A request goes to a URL, with headers and a body; a response has a status, headers and a body. The
names of headers are kept in small letters.

A user name and a password in a URL are not sent as part of it: they become a header of their own.

Main statements: a header that was added is the last one of its name (`HttpRequest.values_add_self`),
and the others are as they were (`HttpRequest.values_add_of_ne`).
-/

namespace QuerySwarm

/-- What a request asks for. -/
inductive HttpMethod where
  | get
  | post
  deriving DecidableEq, Repr

def HttpMethod.name : HttpMethod → String
  | .get => "GET"
  | .post => "POST"

/-- A request, with the headers that say something about it. -/
structure HttpRequest where
  method : HttpMethod
  url : Url
  headers : List (String × String)
  body : Bytes
  deriving DecidableEq

/-- A response. The connection may break while its body is read. -/
structure HttpResponse where
  status : Nat
  headers : List (String × Bytes)
  body : Bytes
  isWhole : Bool
  deriving DecidableEq

def authorizationHeader : String := "authorization"

def contentTypeHeader : String := "content-type"

def locationHeader : String := "location"

namespace HttpRequest

/-- What the server is asked for: the path and the query. -/
def target (r : HttpRequest) : String :=
  String.ofList (r.url.path.chars ++ Url.marked '?' r.url.query)

/-- The values of the headers of a name, in order. -/
def values (r : HttpRequest) (name : String) : List String :=
  (r.headers.filter fun h => h.1 = name).map Prod.snd

def add (r : HttpRequest) (name value : String) : HttpRequest :=
  { r with headers := r.headers ++ [(name, value)] }

/-- The request without the headers of a name. -/
def without (r : HttpRequest) (name : String) : HttpRequest :=
  { r with headers := r.headers.filter fun h => h.1 ≠ name }

@[simp] theorem method_add (r : HttpRequest) (name value : String) :
    (r.add name value).method = r.method := rfl

@[simp] theorem body_add (r : HttpRequest) (name value : String) :
    (r.add name value).body = r.body := rfl

@[simp] theorem values_add_self (r : HttpRequest) (name value : String) :
    (r.add name value).values name = r.values name ++ [value] := by
  simp [values, add]

@[simp] theorem values_add_of_ne (r : HttpRequest) {name other : String} (value : String)
    (h : other ≠ name) : (r.add other value).values name = r.values name := by
  simp [values, add, h]

@[simp] theorem values_without_self (r : HttpRequest) (name : String) :
    (r.without name).values name = [] := by
  simp [values, without, List.filter_filter]

end HttpRequest

namespace HttpResponse

def header? (r : HttpResponse) (name : String) : Option Bytes :=
  (r.headers.find? fun h => h.1 = name).map Prod.snd

def isSuccess (r : HttpResponse) : Bool := decide (200 ≤ r.status ∧ r.status < 300)

end HttpResponse

/-! ### Credentials in a URL -/

namespace Url

/-- The text that a part of a URL stands for. -/
def decodedText? (part : List Char) : Option (List Char) := Utf8.decode? (decode part)

/-- A user name and a password. -/
structure Credentials where
  name : List Char
  password? : Option (List Char)
  deriving DecidableEq

/-- The user name and the password in a URL, if they are text and not both missing. -/
def credentials? (u : Url) : Option Credentials :=
  match decodedText? u.username with
  | none => none
  | some name =>
    let password := u.password.bind decodedText?
    if name.isEmpty && password.isNone then none else some ⟨name, password⟩

/-- The value of the header that carries credentials. -/
def Credentials.header (c : Credentials) : String :=
  "Basic " ++ String.ofList (Base64.encode (Utf8.encode (c.name ++ ':' :: c.password?.getD [])))

end Url

namespace HttpRequest

/-- A request without headers, but for the credentials in its URL, which are taken out of it. -/
def ofUrl (method : HttpMethod) (url : Url) (body : Bytes) : HttpRequest :=
  match url.credentials? with
  | none => ⟨method, url, [], body⟩
  | some credentials =>
    ⟨method, url.withoutUserinfo, [(authorizationHeader, credentials.header)], body⟩

@[simp] theorem method_ofUrl (method : HttpMethod) (url : Url) (body : Bytes) :
    (ofUrl method url body).method = method := by
  unfold ofUrl
  split <;> rfl

@[simp] theorem body_ofUrl (method : HttpMethod) (url : Url) (body : Bytes) :
    (ofUrl method url body).body = body := by
  unfold ofUrl
  split <;> rfl

end HttpRequest

end QuerySwarm
