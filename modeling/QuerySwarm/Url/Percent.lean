import QuerySwarm.Text.Utf8

/-!
# Percent encoding

A byte is written as a percent sign and two digits in base 16. `encode` writes the bytes of the
characters in a set this way, and all that are not ASCII; `decode` reads every well-formed escape.
Form encoding keeps letters, digits and four marks, writes a space as a plus sign and every other
byte as an escape.

Main statements: decoding undoes encoding of any byte (`decode_escape`), and form decoding undoes
form encoding of any text (`formDecode?_formEncode`).
-/

namespace QuerySwarm.Url

def hexDigit (n : Nat) : Char :=
  if n < 10 then Char.ofNat (0x30 + n) else Char.ofNat (0x41 + (n - 10))

def hexValue? (c : Char) : Option Nat :=
  let n := c.toNat
  if 0x30 ≤ n ∧ n ≤ 0x39 then some (n - 0x30)
  else if 0x41 ≤ n ∧ n ≤ 0x46 then some (n - 0x41 + 10)
  else if 0x61 ≤ n ∧ n ≤ 0x66 then some (n - 0x61 + 10)
  else none

def escape (b : UInt8) : List Char :=
  ['%', hexDigit (b.toNat / 16), hexDigit (b.toNat % 16)]

/-! ### Sets of characters to escape -/

def isControl (c : Char) : Bool := decide (c.toNat < 0x20) || decide (0x7E < c.toNat)

def inFragmentSet (c : Char) : Bool :=
  isControl c || c == ' ' || c == '"' || c == '<' || c == '>' || c == '\x60'

/-- What is escaped in a query; a special scheme escapes the apostrophe too. -/
def inQuerySet (special : Bool) (c : Char) : Bool :=
  isControl c || c == ' ' || c == '"' || c == '#' || c == '<' || c == '>' || (special && c == '\'')

def inPathSet (c : Char) : Bool :=
  inFragmentSet c || c == '#' || c == '?' || c == '\x7b' || c == '\x7d'

/-- What is escaped in a user name and in a password. -/
def inUserinfoSet (c : Char) : Bool :=
  inPathSet c || c == '/' || c == ':' || c == ';' || c == '=' || c == '@' || c == '[' ||
    c == '\\' || c == ']' || c == '^' || c == '|'

/-- Write a text with the characters of a set as escapes. -/
def encode (set : Char → Bool) (cs : List Char) : List Char :=
  cs.flatMap fun c => if set c then (Utf8.encodeChar c).flatMap escape else [c]

/-! ### Decoding -/

/-- The bytes of a text; every percent sign with two digits stands for one byte. -/
def decode : List Char → Bytes
  | [] => []
  | c :: rest =>
    if c = '%' then
      match rest with
      | h :: l :: rest' =>
        match hexValue? h, hexValue? l with
        | some x, some y => .ofNat (16 * x + y) :: decode rest'
        | _, _ => Utf8.encodeChar c ++ decode (h :: l :: rest')
      | rest' => Utf8.encodeChar c ++ decode rest'
    else Utf8.encodeChar c ++ decode rest
termination_by cs => cs.length
decreasing_by all_goals simp only [List.length_cons]; omega

theorem hexValue?_hexDigit {n : Nat} (h : n < 16) : hexValue? (hexDigit n) = some n := by
  have all : ∀ m ∈ List.range 16, hexValue? (hexDigit m) = some m := by decide
  exact all n (List.mem_range.2 h)

theorem decode_escape (b : UInt8) (rest : List Char) :
    decode (escape b ++ rest) = b :: decode rest := by
  have hb : b.toNat < 256 := b.toNat_lt
  have h1 := hexValue?_hexDigit (show b.toNat / 16 < 16 by omega)
  have h2 := hexValue?_hexDigit (show b.toNat % 16 < 16 by omega)
  rw [escape, List.cons_append, List.cons_append, List.cons_append, List.nil_append, decode]
  simp only [if_pos, h1, h2]
  rw [show 16 * (b.toNat / 16) + b.toNat % 16 = b.toNat by omega, UInt8.ofNat_toNat]

/-! ### Form encoding -/

def isFormPlain (b : UInt8) : Bool :=
  let n := b.toNat
  decide ((0x30 ≤ n ∧ n ≤ 0x39) ∨ (0x41 ≤ n ∧ n ≤ 0x5A) ∨ (0x61 ≤ n ∧ n ≤ 0x7A) ∨
    n = 0x2A ∨ n = 0x2D ∨ n = 0x2E ∨ n = 0x5F)

def formByte (b : UInt8) : List Char :=
  if b = 0x20 then ['+']
  else if isFormPlain b then [Char.ofNat b.toNat]
  else escape b

def formEncode (cs : List Char) : List Char := (Utf8.encode cs).flatMap formByte

/-- The text of a form encoding: plus signs are spaces, then escapes are read. -/
def formDecode? (cs : List Char) : Option (List Char) :=
  Utf8.decode? (decode (cs.map fun c => if c = '+' then ' ' else c))

def formPair (name value : String) : List Char :=
  formEncode name.toList ++ '=' :: formEncode value.toList

/-- The number of the character with a number. -/
theorem toNat_ofNat {n : Nat} (h : n < 0x80) : (Char.ofNat n).toNat = n := by
  have valid : n.isValidChar := Or.inl (by omega)
  rw [Char.ofNat, dif_pos valid]
  rfl

theorem encodeChar_ofNat {n : Nat} (h : n < 0x80) :
    Utf8.encodeChar (Char.ofNat n) = [UInt8.ofNat n] := by
  have hv : (Char.ofNat n).toNat = n := toNat_ofNat h
  simp [Utf8.encodeChar, hv, h]

/-- The form encoding of a byte is decoded to it. -/
theorem decode_formByte (b : UInt8) (rest : List Char) :
    decode ((formByte b).map (fun c => if c = '+' then ' ' else c) ++ rest) = b :: decode rest := by
  have plain : ∀ n : Nat, n < 0x80 → n ≠ 0x25 → ∀ rest : List Char,
      decode (Char.ofNat n :: rest) = UInt8.ofNat n :: decode rest := by
    intro n hn hne rest
    have hc : Char.ofNat n ≠ '%' := by
      intro h
      have := congrArg Char.toNat h
      have hv : (Char.ofNat n).toNat = n := toNat_ofNat hn
      rw [hv] at this
      exact hne this
    rw [decode.eq_def]
    simp only [hc, if_false, encodeChar_ofNat hn]
    rfl
  unfold formByte
  split
  · next h =>
    subst h
    exact plain 0x20 (by decide) (by decide) rest
  split
  · next h =>
    simp only [isFormPlain, decide_eq_true_eq] at h
    have hne : Char.ofNat b.toNat ≠ '+' := by
      intro hc
      have := congrArg Char.toNat hc
      have hv : (Char.ofNat b.toNat).toNat = b.toNat := toNat_ofNat (by omega)
      rw [hv] at this
      change b.toNat = 0x2B at this
      omega
    simp only [List.map_cons, List.map_nil, hne, if_false, List.cons_append, List.nil_append]
    rw [plain b.toNat (by omega) (by omega), UInt8.ofNat_toNat]
  · have hx : ∀ n, n < 16 → hexDigit n ≠ '+' := by
      intro n hn
      have all : ∀ m ∈ List.range 16, hexDigit m ≠ '+' := by decide
      exact all n (List.mem_range.2 hn)
    have hb : b.toNat < 256 := b.toNat_lt
    have hmap : (escape b).map (fun c => if c = '+' then ' ' else c) = escape b := by
      simp [escape, hx (b.toNat / 16) (by omega), hx (b.toNat % 16) (by omega)]
    rw [hmap, decode_escape]

theorem decode_formBytes (bs : Bytes) :
    decode ((bs.flatMap formByte).map fun c => if c = '+' then ' ' else c) = bs := by
  induction bs with
  | nil => unfold decode; rfl
  | cons b bs ih => rw [List.flatMap_cons, List.map_append, decode_formByte, ih]

theorem formDecode?_formEncode (cs : List Char) : formDecode? (formEncode cs) = some cs := by
  rw [formDecode?, formEncode, decode_formBytes, Utf8.decode?_encode]

end QuerySwarm.Url
