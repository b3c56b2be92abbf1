import QuerySwarm.Url.Parser

/-!
# References

A reference is a text that is read next to a URL, its base: it may be a URL itself, or leave out the
scheme, the host, the directory or the path, which are then those of the base.

Main statement: a text that brings a scheme of its own is read as if there were no base
(`Url.resolve_of_scheme`).
-/

namespace QuerySwarm.Url

def originChars (u : Url) : List Char := u.scheme ++ ':' :: u.authorityChars

/-- The text of the directory that a path names something in. -/
def directoryChars : Path → List Char
  | .rooted segments => (Path.rooted (segments.dropLast ++ [[]])).chars
  | .single _ => []

def beforeReference (base : Url) : List Char → List Char
  | [] => { base with fragment := none }.chars
  | '#' :: _ => { base with fragment := none }.chars
  | '?' :: _ => { base with query := none, fragment := none }.chars
  | _ => base.originChars ++ directoryChars base.path

def resolveRelative (base : Url) (reference : List Char) : Except Error Url :=
  let special := isSpecial base.scheme
  let text (front rest : List Char) : Except Error Url := parse (String.ofList (front ++ rest))
  match base.path, reference with
  | .single _, '#' :: rest => text { base with fragment := none }.chars ('#' :: rest)
  | .single _, _ => .error .cannotBeABase
  | .rooted _, a :: b :: rest =>
    if isSeparator special a && isSeparator special b then
      text (base.scheme ++ [':']) (a :: b :: rest)
    else if isSeparator special a then text base.originChars (a :: b :: rest)
    else text (base.beforeReference (a :: b :: rest)) (a :: b :: rest)
  | .rooted _, [a] =>
    if isSeparator special a then text base.originChars [a] else text (base.beforeReference [a]) [a]
  | .rooted _, [] => text (base.beforeReference []) []

/-- The part of a reference that counts next to a base whose special scheme it repeats without
naming a host. -/
def sameScheme? (base : Url) (reference : List Char) : Option (List Char) :=
  match splitScheme reference with
  | none => none
  | some (scheme, rest) =>
    if isSpecial scheme && scheme == base.scheme && (rest.takeWhile (isSeparator true)).length < 2 then
      some rest
    else none

def resolve (base : Url) (reference : String) : Except Error Url :=
  let cs := cleaned reference.toList
  match base.sameScheme? cs with
  | some rest => base.resolveRelative rest
  | none => if (splitScheme cs).isSome then parse reference else base.resolveRelative cs

/-- A reference with a scheme that the base does not have is read by itself. -/
theorem resolve_of_scheme {base : Url} {reference : String} {scheme rest : List Char}
    (h : splitScheme (cleaned reference.toList) = some (scheme, rest)) (hne : scheme ≠ base.scheme) :
    base.resolve reference = parse reference := by
  simp [resolve, sameScheme?, h, hne]

end QuerySwarm.Url
