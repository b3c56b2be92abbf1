import QuerySwarm.Url.Percent
import QuerySwarm.Binary64.Decimal

/-!
# Numeric host addresses

Addresses of four bytes are written in one to four numbers, each decimal, octal after a zero, or in
base 16 after `0x`; the last number fills all bytes that are left. Addresses of sixteen bytes are
written in eight pieces of base 16, of which one run of zeros may be left out, and the last two
pieces may be an address of four bytes.

Main statement: the pieces that are read are eight (`Ipv6.ofChars?_length`).
-/

namespace QuerySwarm.Url

def valueIn (base : Nat) (ds : List Nat) : Nat := ds.foldl (fun n d => n * base + d) 0

/-- The digits of a text in a base, if it has nothing else. -/
def digitsIn? (base : Nat) (cs : List Char) : Option (List Nat) :=
  cs.mapM fun c => (hexValue? c).bind fun d => if d < base then some d else none

/-! ### Four bytes -/

namespace Ipv4

/-- A number in an address: its value, with a leading zero for octal and `0x` for base 16. -/
def number? (cs : List Char) : Option Nat :=
  match cs with
  | [] => none
  | '0' :: 'x' :: ds => (digitsIn? 16 ds).map (valueIn 16)
  | '0' :: 'X' :: ds => (digitsIn? 16 ds).map (valueIn 16)
  | ['0'] => some 0
  | '0' :: ds => (digitsIn? 8 ds).map (valueIn 8)
  | ds => (digitsIn? 10 ds).map (valueIn 10)

def parts (cs : List Char) : List (List Char) := cs.splitOn '.'

def partsWithoutEnd (cs : List Char) : List (List Char) :=
  let ps := parts cs
  if ps.getLast? = some [] then ps.dropLast else ps

/-- Whether a host has to be an address of four bytes: its last part, or the one before a point at
the end, is a number. -/
def endsInNumber (cs : List Char) : Bool :=
  match (partsWithoutEnd cs).getLast? with
  | none => false
  | some last => (!last.isEmpty && last.all Char.isDigit) || (number? last).isSome

/-- The value of an address. Each number but the last is one byte. -/
def ofChars? (cs : List Char) : Option Nat :=
  let ps := partsWithoutEnd cs
  if 4 < ps.length then none
  else
    match ps.mapM number? with
    | none => none
    | some ns =>
      match ns.getLast? with
      | none => none
      | some last =>
        let front := ns.dropLast
        if front.any (fun n => decide (255 < n)) || decide (Nat.pow 256 (4 - front.length) ≤ last) then none
        else some (valueIn 256 (front ++ List.replicate (4 - front.length) 0) + last)

/-- The text of an address: four decimal numbers. -/
def text (address : Nat) : List Char :=
  digitsOf (address / 16777216 % 256) ++ '.' :: digitsOf (address / 65536 % 256) ++
    '.' :: digitsOf (address / 256 % 256) ++ '.' :: digitsOf (address % 256)

end Ipv4

/-! ### Sixteen bytes -/

namespace Ipv6

/-- Whether a character is a digit in base 16. -/
def isHex (c : Char) : Bool := (hexValue? c).isSome

/-- A piece of one to four digits at the front, with what follows. -/
def piece? (cs : List Char) : Option (Nat × List Char) :=
  let ds := cs.takeWhile isHex
  if ds.isEmpty || decide (4 < ds.length) then none
  else (digitsIn? 16 ds).map fun ns => (valueIn 16 ns, cs.dropWhile isHex)

/-- The two pieces of an address of four bytes at the end: exactly four decimal numbers without
leading zeros. -/
def embedded? (cs : List Char) : Option (List Nat) :=
  let ps := cs.splitOn '.'
  let number? (p : List Char) : Option Nat :=
    if p.isEmpty || !p.all Char.isDigit || (decide (1 < p.length) && p.head? == some '0') then none
    else
      let n := Binary64.digitsValue 0 p
      if 255 < n then none else some n
  match ps.mapM number? with
  | some [a, b, c, d] => some [a * 256 + b, c * 256 + d]
  | _ => none

/-- The pieces from one place on, of which `room` are left. A gap may come once; it is kept as the
number of pieces before it. `fuel` bounds the number of pieces. -/
def piecesFrom (fuel : Nat) (done : List Nat) (gap : Option Nat) (cs : List Char) :
    Option (List Nat × Option Nat) :=
  match fuel with
  | 0 => none
  | fuel + 1 =>
    match cs with
    | [] => some (done, gap)
    | ':' :: rest =>
      if done.length = 8 ∨ gap.isSome then none
      else piecesFrom fuel done (some done.length) rest
    | cs =>
      if done.length = 8 then none
      else if (cs.takeWhile isHex ++ (cs.dropWhile isHex).take 1).getLast? = some '.' then
        if 6 < done.length then none
        else (embedded? cs).map fun two => (done ++ two, gap)
      else match piece? cs with
        | none => none
        | some (n, []) => some (done ++ [n], gap)
        | some (n, ':' :: rest) => if rest.isEmpty then none else piecesFrom fuel (done ++ [n]) gap rest
        | some _ => none

/-- Fill a gap with zeros up to eight pieces. -/
def filled? (pieces : List Nat) (gap : Option Nat) : Option (List Nat) :=
  match gap with
  | none => if pieces.length = 8 then some pieces else none
  | some place =>
    if pieces.length < 8 then
      some (pieces.take place ++ List.replicate (8 - pieces.length) 0 ++ pieces.drop place)
    else none

def ofChars? (cs : List Char) : Option (List Nat) :=
  let start := match cs with
    | ':' :: ':' :: rest => piecesFrom 20 [] (some 0) rest
    | ':' :: _ => none
    | cs => piecesFrom 20 [] none cs
  start.bind fun (pieces, gap) => filled? pieces gap

/-- The length of the run of zeros at the front. -/
def zeros (pieces : List Nat) : Nat := (pieces.takeWhile (· == 0)).length

/-- The first longest run of at least two zeros among the pieces: its place and its length. -/
def longestRun (place : Nat) : List Nat → Option (Nat × Nat)
  | [] => none
  | p :: ps =>
    let here := zeros (p :: ps)
    match longestRun (place + 1) ps with
    | none => if 2 ≤ here then some (place, here) else none
    | some (other, length) => if length ≤ here then some (place, here) else some (other, length)

def joined : List Nat → List Char
  | [] => []
  | [p] => Nat.toDigits 16 p
  | p :: ps => Nat.toDigits 16 p ++ ':' :: joined ps

/-- The text of an address: its first longest run of zeros, if there is one, is left out. -/
def text (pieces : List Nat) : List Char :=
  match longestRun 0 pieces with
  | none => joined pieces
  | some (place, length) =>
    joined (pieces.take place) ++ ':' :: ':' :: joined (pieces.drop (place + length))

theorem filled?_length {pieces : List Nat} {gap : Option Nat} {all : List Nat}
    (h : filled? pieces gap = some all) : all.length = 8 := by
  unfold filled? at h
  split at h
  · split at h
    · next h8 => cases h; exact h8
    · cases h
  · split at h
    · next hlt =>
      cases h
      simp only [List.length_append, List.length_take, List.length_replicate, List.length_drop]
      omega
    · cases h

theorem ofChars?_length {cs : List Char} {pieces : List Nat} (h : ofChars? cs = some pieces) :
    pieces.length = 8 := by
  unfold ofChars? at h
  simp only [Option.bind_eq_some_iff] at h
  obtain ⟨⟨ps, gap⟩, _, h⟩ := h
  exact filled?_length h

end Ipv6

end QuerySwarm.Url
