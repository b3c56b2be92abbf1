import QuerySwarm.Url.Address
import QuerySwarm.Url.DomainName

/-!
# URLs

A URL is kept in its parts, each of them already escaped as it is written. A path is a list of
segments or, for schemes like `mailto`, one opaque text; only a URL with segments can be the base
of another.

Main statement: the text of a URL begins with its scheme (`Url.chars_scheme`), and its parts are
written in a fixed order with their marks (`Url.text`).
-/

namespace QuerySwarm

namespace Url

/-- A host. A domain may be empty where the scheme does not need one. -/
inductive Host where
  | domain (name : List Char)
  | ipv4 (address : Nat)
  | ipv6 (pieces : List Nat)
  deriving DecidableEq, Repr

def Host.chars : Host → List Char
  | .domain name => name
  | .ipv4 address => Ipv4.text address
  | .ipv6 pieces => '[' :: (Ipv6.text pieces ++ [']'])

/-- A path. -/
inductive Path where
  | rooted (segments : List (List Char))
  | single (text : List Char)
  deriving DecidableEq, Repr

def Path.chars : Path → List Char
  | .rooted segments => segments.flatMap fun s => '/' :: s
  | .single text => text

/-- Why a text is not a URL, or a path cannot be joined onto one. -/
inductive Error where
  | emptyHost
  | idna
  | invalidPort
  | invalidIpv4
  | invalidIpv6
  | invalidDomainCharacter
  | relativeWithoutBase
  | cannotBeABase
  deriving DecidableEq, Repr

def Error.message : Error → String
  | .emptyHost => "empty host"
  | .idna => "invalid international domain name"
  | .invalidPort => "invalid port number"
  | .invalidIpv4 => "invalid IPv4 address"
  | .invalidIpv6 => "invalid IPv6 address"
  | .invalidDomainCharacter => "invalid domain character"
  | .relativeWithoutBase => "relative URL without a base"
  | .cannotBeABase => "relative URL with a cannot-be-a-base base"

end Url

/-- A URL in its parts. -/
structure Url where
  scheme : List Char
  username : List Char
  password : Option (List Char)
  host : Option Url.Host
  port : Option Nat
  path : Url.Path
  query : Option (List Char)
  fragment : Option (List Char)
  deriving DecidableEq, Repr

namespace Url

def userinfoChars (u : Url) : List Char :=
  match u.password with
  | none => if u.username.isEmpty then [] else u.username ++ ['@']
  | some password => u.username ++ ':' :: (password ++ ['@'])

/-- The text from the host's marks to its port. A path that begins like a host is told apart by a
dot. -/
def authorityChars (u : Url) : List Char :=
  match u.host with
  | some host =>
    '/' :: '/' :: (u.userinfoChars ++ host.chars ++
      (match u.port with
        | none => []
        | some port => ':' :: digitsOf port))
  | none =>
    match u.path with
    | .rooted ([] :: _ :: _) => ['/', '.']
    | _ => []

def marked (mark : Char) : Option (List Char) → List Char
  | none => []
  | some part => mark :: part

def chars (u : Url) : List Char :=
  u.scheme ++ ':' :: (u.authorityChars ++ u.path.chars ++ marked '?' u.query ++
    marked '#' u.fragment)

def text (u : Url) : String := String.ofList u.chars

/-- The text of a URL begins with its scheme. -/
theorem chars_scheme (u : Url) : u.scheme <+: u.chars := List.prefix_append _ _

/-- Whether a URL has a host; an empty one is none. -/
def hasHost (u : Url) : Bool :=
  match u.host with
  | none => false
  | some host => host != .domain []

/-- The URL without its user name and password. -/
def withoutUserinfo (u : Url) : Url := { u with username := [], password := none }

/-- The schemes whose URLs always have a host, with the port that is left out. -/
def defaultPort? (scheme : List Char) : Option Nat :=
  if scheme = ['h', 't', 't', 'p'] ∨ scheme = ['w', 's'] then some 80
  else if scheme = ['h', 't', 't', 'p', 's'] ∨ scheme = ['w', 's', 's'] then some 443
  else if scheme = ['f', 't', 'p'] then some 21
  else none

/-- Whether requests can be sent to URLs of a scheme. -/
def isHttp (scheme : List Char) : Bool :=
  scheme == ['h', 't', 't', 'p'] || scheme == ['h', 't', 't', 'p', 's']

def isFile (scheme : List Char) : Bool := scheme == ['f', 'i', 'l', 'e']

/-- Whether a scheme is special: a backslash counts as a slash, and a path always begins with one. -/
def isSpecial (scheme : List Char) : Bool := (defaultPort? scheme).isSome || isFile scheme

end Url

end QuerySwarm
