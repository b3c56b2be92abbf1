import QuerySwarm.Text.Utf8

/-!
# Base 64

Three bytes are written as four digits of six bits each. A last group of one or two bytes is filled
up with zero bits, and with equals signs to four places.

Main statement: what is written has four characters for each group, the last one included
(`Base64.length_encode`).
-/

namespace QuerySwarm.Base64

def digit (n : Nat) : Char :=
  if n < 26 then Char.ofNat (0x41 + n)
  else if n < 52 then Char.ofNat (0x61 + (n - 26))
  else if n < 62 then Char.ofNat (0x30 + (n - 52))
  else if n = 62 then '+'
  else '/'

/-- The first, second, third and fourth digit of a group of three bytes. -/
def group (a b c : Nat) : List Char :=
  [digit (a / 4), digit (a % 4 * 16 + b / 16), digit (b % 16 * 4 + c / 64), digit (c % 64)]

def encode : Bytes → List Char
  | [] => []
  | [a] => (group a.toNat 0 0).take 2 ++ ['=', '=']
  | [a, b] => (group a.toNat b.toNat 0).take 3 ++ ['=']
  | a :: b :: c :: rest => group a.toNat b.toNat c.toNat ++ encode rest

theorem length_encode : ∀ bytes : Bytes, (encode bytes).length = (bytes.length + 2) / 3 * 4
  | [] => rfl
  | [_] => by simp [encode, group]
  | [_, _] => by simp [encode, group]
  | a :: b :: c :: rest => by
    have ih := length_encode rest
    simp only [encode, group, List.length_append, List.length_cons, List.length_nil, ih]
    omega

end QuerySwarm.Base64
