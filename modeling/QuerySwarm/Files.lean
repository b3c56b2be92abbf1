import QuerySwarm.Text.Utf8

/-!
# Files

A tree of files as a list of entries under absolute paths, and the rules by which a path leads to
one of them: `.` stays, `..` goes up, every step needs a directory, and a path that ends in a slash
must lead to one.

Main statements: an entry that was put is found (`entryAt?_put`), and putting one leaves the others
alone (`entryAt?_put_ne`).
-/

namespace QuerySwarm

/-- What can be under a path. A sink is always empty and swallows what is written to it. -/
inductive Entry where
  | file (content : Bytes)
  | directory
  | sink
  deriving DecidableEq

/-- Why a file operation failed. -/
inductive FileError where
  | notFound
  | exists
  | notDirectory
  | isDirectory
  | nameTooLong
  | nulInName
  | notText
  deriving DecidableEq, Repr

def FileError.message : FileError → String
  | .notFound => "No such file or directory (os error 2)"
  | .exists => "File exists (os error 17)"
  | .notDirectory => "Not a directory (os error 20)"
  | .isDirectory => "Is a directory (os error 21)"
  | .nameTooLong => "File name too long (os error 36)"
  | .nulInName => "file name contained an unexpected NUL byte"
  | .notText => "stream did not contain valid UTF-8"

abbrev Location := List String

/-- Files, and the directory that relative paths start from. -/
structure Files where
  entries : List (Location × Entry)
  working : Location

namespace Files

/-- What is at a location. The root is always a directory. -/
def entryAt? (files : Files) (location : Location) : Option Entry :=
  if location.isEmpty then some .directory
  else (files.entries.find? (fun e => e.1 = location)).map Prod.snd

def put (files : Files) (location : Location) (entry : Entry) : Files :=
  { files with entries := (location, entry) :: files.entries.filter (fun e => e.1 ≠ location) }

def remove (files : Files) (location : Location) : Files :=
  { files with entries := files.entries.filter (fun e => e.1 ≠ location) }

def parts (path : String) : List String :=
  (path.toList.splitOn '/').map String.ofList

def byteCount (s : String) : Nat := (bytesOf s).length

/-- Go through the parts of a path, each of which needs a directory before it. -/
def walk (files : Files) : Location → List String → Except FileError Location
  | location, [] => .ok location
  | location, part :: rest =>
    match files.entryAt? location with
    | none => .error .notFound
    | some .directory =>
      if part = "" ∨ part = "." then walk files location rest
      else if part = ".." then walk files location.dropLast rest
      else if 255 < byteCount part then .error .nameTooLong
      else walk files (location ++ [part]) rest
    | some _ => .error .notDirectory

/-- What a path has to be before it is looked up at all. -/
def checkPath (path : String) : Except FileError Unit :=
  if path.toList.contains '\x00' then .error .nulInName
  else if path.isEmpty then .error .notFound
  else if 4096 ≤ byteCount path then .error .nameTooLong
  else .ok ()

def origin (files : Files) (path : String) : Location :=
  if path.toList.head? = some '/' then [] else files.working

/-- The location a path leads to, whether or not something is there. -/
def locate (files : Files) (path : String) : Except FileError Location :=
  match checkPath path with
  | .error e => .error e
  | .ok () => files.walk (files.origin path) (parts path)

theorem entryAt?_put (files : Files) {location : Location} (entry : Entry)
    (h : location ≠ []) : (files.put location entry).entryAt? location = some entry := by
  simp [entryAt?, put, h]

/-- Putting an entry leaves the others alone. -/
theorem entryAt?_put_ne (files : Files) {location other : Location} (entry : Entry)
    (h : other ≠ location) : (files.put location entry).entryAt? other = files.entryAt? other := by
  unfold entryAt? put
  split
  · rfl
  · simp only [List.find?_cons, Ne.symm h, decide_false, List.find?_filter]
    congr 2
    funext e
    by_cases he : e.1 = location
    · simp [he, Ne.symm h]
    · simp [he]

/-! ### Reading -/

def read (files : Files) (path : String) : Except FileError Bytes :=
  match files.locate path with
  | .error e => .error e
  | .ok location =>
    match files.entryAt? location with
    | none => .error .notFound
    | some .directory => .error .isDirectory
    | some .sink => .ok []
    | some (.file content) => .ok content

def readText (files : Files) (path : String) : Except FileError String :=
  match files.read path with
  | .error e => .error e
  | .ok content =>
    match textOf? content with
    | some text => .ok text
    | none => .error .notText

def isDirectory (files : Files) (path : String) : Bool :=
  match files.locate path with
  | .error _ => false
  | .ok location => files.entryAt? location == some .directory

/-! ### Writing -/

def endsInSlash (path : String) : Bool := path.toList.getLast? == some '/'

def withoutLastSlash (path : String) : String :=
  String.ofList (path.toList.reverse.dropWhile (· == '/')).reverse

/-- Write a file, in place of what it held. A path that ends in a slash names a directory, whether
or not one is there. -/
def write (files : Files) (path : String) (content : Bytes) : Except FileError Files :=
  match checkPath path with
  | .error e => .error e
  | .ok () =>
    match files.walk (files.origin path) (parts (withoutLastSlash path)) with
    | .error e => .error e
    | .ok location =>
      if endsInSlash path then .error .isDirectory
      else match files.entryAt? location with
        | some .directory => .error .isDirectory
        | some .sink => .ok files
        | some (.file _) | none => .ok (files.put location (.file content))

/-- Make one directory in a directory that is there. -/
def makeDirectory (files : Files) (path : String) : Except FileError Files :=
  match files.locate path with
  | .error e => .error e
  | .ok location =>
    match files.entryAt? location with
    | some _ => .error .exists
    | none => .ok (files.put location .directory)

/-- The parts of a path that name something: no part is empty, and a `.` counts only at the front
of a relative path. -/
def namingParts (path : String) : List String :=
  match parts path with
  | [] => []
  | first :: rest =>
    (if first = "" then [] else [first]) ++ rest.filter (fun p => p ≠ "" ∧ p ≠ ".")

/-- The path of the directory that a path names something in; the root and the empty path name
nothing in a directory. -/
def parent? (path : String) : Option String :=
  let root := if path.toList.head? = some '/' then "/" else ""
  match namingParts path with
  | [] => none
  | names => some (root ++ "/".intercalate names.dropLast)

/-- Make a directory and, where they are missing, those that it is in. `fuel` bounds their
number. -/
def makeDirectories (fuel : Nat) (files : Files) (path : String) : Except FileError Files :=
  match fuel with
  | 0 => .error .notFound
  | fuel + 1 =>
    if path.isEmpty then .ok files
    else match files.makeDirectory path with
      | .ok files => .ok files
      | .error .notFound =>
        match parent? path with
        | none => .error .notFound
        | some parent =>
          match makeDirectories fuel files parent with
          | .error e => .error e
          | .ok files =>
            match files.makeDirectory path with
            | .ok files => .ok files
            | .error e => if files.isDirectory path then .ok files else .error e
      | .error e => if files.isDirectory path then .ok files else .error e

def makeAll (files : Files) (path : String) : Except FileError Files :=
  makeDirectories ((parts path).length + 1) files path

end Files

end QuerySwarm
