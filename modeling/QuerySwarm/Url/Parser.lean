import QuerySwarm.Url.Basic

/-!
# Reading URLs

A text is trimmed, tabs and line breaks are dropped wherever they are, and the parts are cut off
from the left: the scheme, the user name and password up to the last `@`, the host, the port, the
path, the query and the fragment. What may not stand in a part is escaped.

Main statements: only a text with a scheme is a URL by itself (`parse_of_no_scheme`), and joining a
rooted path keeps the origin and drops query and fragment (`join_parts`).
-/

namespace QuerySwarm.Url

/-! ### Hosts -/

def parseHost (cs : List Char) : Except Error Host :=
  match cs with
  | '[' :: rest =>
    if cs.getLast? = some ']' then
      match Ipv6.ofChars? rest.dropLast with
      | some pieces => .ok (.ipv6 pieces)
      | none => .error .invalidIpv6
    else .error .invalidIpv6
  | cs =>
    match (Utf8.decode? (decode cs)).bind DomainName.toAscii? with
    | none => .error .idna
    | some [] => .error .emptyHost
    | some name =>
      if Ipv4.endsInNumber name then
        match Ipv4.ofChars? name with
        | some address => .ok (.ipv4 address)
        | none => .error .invalidIpv4
      else .ok (.domain name)

/-- What may not stand in the host of a scheme that is not special. -/
def isForbiddenInOpaque (c : Char) : Bool :=
  c.toNat == 0 || c == '\t' || c == '\n' || c == '\r' || c == ' ' || c == '#' || c == '/' ||
    c == ':' || c == '<' || c == '>' || c == '?' || c == '@' || c == '[' || c == '\\' || c == ']' ||
    c == '^' || c == '|'

/-- The host of a scheme that is not special. -/
def parseOpaqueHost (cs : List Char) : Except Error Host :=
  match cs with
  | '[' :: _ => parseHost cs
  | cs =>
    if cs.any isForbiddenInOpaque then .error .invalidDomainCharacter
    else .ok (.domain (encode isControl cs))

/-- Cut a host from what follows it: the first colon outside of brackets ends it. -/
def cutHost (inBrackets : Bool) : List Char → List Char × List Char
  | [] => ([], [])
  | c :: cs =>
    if c = ':' ∧ !inBrackets then ([], c :: cs)
    else
      let (host, rest) := cutHost (if c = '[' then true else if c = ']' then false else inBrackets) cs
      (c :: host, rest)

/-! ### Ports -/

/-- The port in what follows a host, and what follows the port. The default port of the scheme is
left out. -/
def parsePort (scheme cs : List Char) : Except Error (Option Nat × List Char) :=
  match cs with
  | ':' :: rest =>
    let ds := rest.takeWhile Char.isDigit
    let after := rest.dropWhile Char.isDigit
    let port := Binary64.digitsValue 0 ds
    if 65535 < port then .error .invalidPort
    else if !after.isEmpty && after.head? != some '\\' then .error .invalidPort
    else if ds.isEmpty || defaultPort? scheme == some port then .ok (none, after)
    else .ok (some port, after)
  | cs => .ok (none, cs)

/-! ### Paths -/

/-- Whether a segment means the directory it is in. -/
def isSingleDot (s : List Char) : Bool :=
  s == ['.'] || s.map Char.toLower == ['%', '2', 'e']

/-- Whether a segment means the directory above. -/
def isDoubleDot (s : List Char) : Bool :=
  let s := s.map Char.toLower
  s == ['.', '.'] || s == ['%', '2', 'e', '.'] || s == ['.', '%', '2', 'e'] ||
    s == ['%', '2', 'e', '%', '2', 'e']

def isDrive (s : List Char) : Bool :=
  match s with
  | [c, m] => c.isAlpha && (m == ':' || m == '|')
  | _ => false

/-- Whether a segment names a drive with a colon. -/
def isColonDrive (s : List Char) : Bool := isDrive s && s.getLast? == some ':'

/-- Go up one directory; a drive in a file path stays. -/
def goUp (file : Bool) (segments : List (List Char)) : List (List Char) :=
  match segments with
  | [s] => if file && isColonDrive s then [s] else []
  | ss => ss.dropLast

/-- Put a segment at the end of a path. A drive at the front of a file path gets a colon. -/
def addSegment (file : Bool) (segments : List (List Char)) (s : List Char) : List (List Char) :=
  if file && segments.isEmpty && isDrive s then [s.take 1 ++ [':']] else segments ++ [s]

/-- Resolve the dots among the segments that follow others. -/
def resolveDots (file : Bool) (done : List (List Char)) : List (List Char) → List (List Char)
  | [] => done
  | [s] =>
    if isDoubleDot s then goUp file done ++ [[]]
    else if isSingleDot s then done ++ [[]]
    else addSegment file done s
  | s :: rest =>
    if isDoubleDot s then resolveDots file (goUp file done) rest
    else if isSingleDot s then resolveDots file done rest
    else resolveDots file (addSegment file done s) rest

def isSeparator (special : Bool) (c : Char) : Bool := c == '/' || (special && c == '\\')

/-- The segments of a path after its first slash. -/
def splitSegments (special : Bool) (cs : List Char) : List (List Char) :=
  ((cs.map fun c => if isSeparator special c then '/' else c).splitOn '/').map (encode inPathSet)

/-- Drop empty segments from the front, all but the last segment. -/
def dropEmptyFront : List (List Char) → List (List Char)
  | [] :: s :: rest => dropEmptyFront (s :: rest)
  | ss => ss

/-- The path of a text after its first slash. -/
def parsePath (scheme cs : List Char) : Path :=
  let file := isFile scheme
  let segments := splitSegments (isSpecial scheme) cs
  let segments := if file then dropEmptyFront segments else segments
  .rooted (resolveDots file [] segments)

def dropSeparator (special : Bool) : List Char → List Char
  | [] => []
  | c :: cs => if isSeparator special c then cs else c :: cs

/-! ### What follows a path -/

def beforeQuery (cs : List Char) : List Char := cs.takeWhile fun c => c != '?' && c != '#'

def parseQuery (scheme cs : List Char) : Option (List Char) :=
  match cs.dropWhile fun c => c != '?' && c != '#' with
  | '?' :: rest => some (encode (inQuerySet (isSpecial scheme)) (rest.takeWhile (· != '#')))
  | _ => none

def parseFragment (cs : List Char) : Option (List Char) :=
  match cs.dropWhile (· != '#') with
  | '#' :: rest => some (encode inFragmentSet rest)
  | _ => none

/-! ### Authorities -/

def splitAtSign (cs : List Char) : Option (List Char × List Char) :=
  if cs.contains '@' then
    let after := (cs.reverse.takeWhile (· != '@')).reverse
    some (cs.take (cs.length - after.length - 1), after)
  else none

/-- The user name and the password of a text. An empty password is none. -/
def parseUserinfo (cs : List Char) : List Char × Option (List Char) :=
  let name := encode inUserinfoSet (cs.takeWhile (· != ':'))
  match cs.dropWhile (· != ':') with
  | _ :: p :: password => (name, some (encode inUserinfoSet (p :: password)))
  | _ => (name, none)

def endsAuthority (special : Bool) (c : Char) : Bool := isSeparator special c || c == '?' || c == '#'

/-- The path of what follows an authority. Without a slash it is empty or, for a special scheme, one
empty segment. -/
def pathAfterAuthority (scheme cs : List Char) : Path :=
  let special := isSpecial scheme
  let path := beforeQuery cs
  if path.isEmpty && !special then .rooted []
  else parsePath scheme (dropSeparator special path)

def parseHostOf (scheme cs : List Char) : Except Error Host :=
  if isSpecial scheme then parseHost cs else parseOpaqueHost cs

/-- A URL from its user name and password, its host and port, and what follows them. -/
def parseParts (scheme userinfo hostAndPort rest : List Char) : Except Error Url :=
  let user := parseUserinfo userinfo
  let hostText := (cutHost false hostAndPort).1
  let afterHost := (cutHost false hostAndPort).2
  if isSpecial scheme && hostText.isEmpty then .error .emptyHost
  else
    match parseHostOf scheme hostText with
    | .error e => .error e
    | .ok host =>
      if hostText.isEmpty && !afterHost.isEmpty then .error .emptyHost
      else
        match parsePort scheme afterHost with
        | .error e => .error e
        | .ok (port, afterPort) =>
          if hostText.isEmpty && (!user.1.isEmpty || user.2.isSome) then .error .emptyHost
          else
            .ok { scheme, username := user.1, password := user.2, host := some host, port
                  path := pathAfterAuthority scheme (afterPort ++ rest)
                  query := parseQuery scheme (afterPort ++ rest)
                  fragment := parseFragment (afterPort ++ rest) }

def parseAuthority (scheme cs : List Char) : Except Error Url :=
  let ends := endsAuthority (isSpecial scheme)
  let authority := cs.takeWhile fun c => !ends c
  let rest := cs.dropWhile fun c => !ends c
  if authority = ['@'] ∧ !rest.isEmpty then .error .emptyHost
  else
    match splitAtSign authority with
    | none => parseParts scheme [] authority rest
    | some (userinfo, hostAndPort) => parseParts scheme userinfo hostAndPort rest

/-! ### Files -/

/-- A host of a file URL; the local host is written as an empty one. -/
def parseFileHost (cs : List Char) : Except Error Host :=
  match cs with
  | [] => .ok (.domain [])
  | cs =>
    match parseHost cs with
    | .error e => .error e
    | .ok host => .ok (if host = .domain "localhost".toList then .domain [] else host)

def parseFile (scheme cs : List Char) : Except Error Url :=
  let build (host : Host) (rest : List Char) : Url :=
    { scheme, username := [], password := none, host := some host, port := none
      path := parsePath scheme (dropSeparator true (beforeQuery rest))
      query := parseQuery scheme rest
      fragment := parseFragment rest }
  match cs with
  | a :: b :: rest =>
    if isSeparator true a && isSeparator true b then
      let hostText := rest.takeWhile fun c => !endsAuthority true c
      if isDrive hostText then .ok (build (.domain []) rest)
      else (parseFileHost hostText).map fun host =>
        build host (rest.dropWhile fun c => !endsAuthority true c)
    else .ok (build (.domain []) cs)
  | cs => .ok (build (.domain []) cs)

/-! ### Whole texts -/

/-- Whether a character is trimmed from the ends of a text. -/
def isTrimmed (c : Char) : Bool := decide (c.toNat ≤ 0x20)

/-- A text without the characters that never count. -/
def cleaned (cs : List Char) : List Char :=
  let trimmed := ((cs.dropWhile isTrimmed).reverse.dropWhile isTrimmed).reverse
  trimmed.filter fun c => c != '\t' && c != '\n' && c != '\r'

/-- Whether a character may follow the first letter of a scheme. -/
def isSchemeChar (c : Char) : Bool := c.isAlphanum || c == '+' || c == '-' || c == '.'

/-- The scheme of a text, in small letters, and what follows its colon. -/
def splitScheme (cs : List Char) : Option (List Char × List Char) :=
  match cs with
  | [] => none
  | c :: _ =>
    if c.isAlpha then
      match cs.dropWhile isSchemeChar with
      | ':' :: rest => some ((cs.takeWhile isSchemeChar).map Char.toLower, rest)
      | _ => none
    else none

/-- A URL of a scheme that is not special, from after its colon. -/
def parseOther (scheme cs : List Char) : Except Error Url :=
  let build (path : Path) : Url :=
    { scheme, username := [], password := none, host := none, port := none, path
      query := parseQuery scheme cs
      fragment := parseFragment cs }
  match cs with
  | '/' :: '/' :: rest => parseAuthority scheme rest
  | '/' :: rest => .ok (build (parsePath scheme (beforeQuery rest)))
  | cs => .ok (build (.single (encode isControl (beforeQuery cs))))

def parse (s : String) : Except Error Url :=
  match splitScheme (cleaned s.toList) with
  | none => .error .relativeWithoutBase
  | some (scheme, rest) =>
    if isFile scheme then parseFile scheme rest
    else if isSpecial scheme then parseAuthority scheme (rest.dropWhile (isSeparator true))
    else parseOther scheme rest

theorem parse_of_no_scheme {s : String} (h : splitScheme (cleaned s.toList) = none) :
    parse s = .error .relativeWithoutBase := by
  simp [parse, h]

/-! ### Joining -/

/-- The drive that a file URL keeps when another path is joined to it. -/
def keptDrive (base : Url) : List (List Char) :=
  match base.path with
  | .rooted (s :: _) => if isFile base.scheme && isColonDrive s then [s] else []
  | _ => []

/-- Join a path from the root onto a URL. The path has no query and no fragment. -/
def join (base : Url) (path : String) : Except Error Url :=
  match base.path with
  | .single _ => .error .cannotBeABase
  | .rooted _ =>
    let file := isFile base.scheme
    let special := isSpecial base.scheme
    .ok { base with
      path := .rooted (resolveDots file base.keptDrive
        (splitSegments special (dropSeparator special path.toList)))
      query := none
      fragment := none }

/-- Joining keeps the origin and the user, and drops query and fragment. -/
theorem join_parts {base joined : Url} {path : String} (h : join base path = .ok joined) :
    joined.scheme = base.scheme ∧ joined.username = base.username ∧
      joined.password = base.password ∧ joined.host = base.host ∧ joined.port = base.port ∧
      joined.query = none ∧ joined.fragment = none := by
  unfold join at h
  split at h
  · cases h
  · cases h
    exact ⟨rfl, rfl, rfl, rfl, rfl, rfl, rfl⟩

/-- The URL with one pair as its query, or after the pairs it has. -/
def appendPair (u : Url) (name value : String) : Url :=
  let pair := formPair name value
  { u with query := some (match u.query with
      | none => pair
      | some [] => pair
      | some query => query ++ '&' :: pair) }

end QuerySwarm.Url
