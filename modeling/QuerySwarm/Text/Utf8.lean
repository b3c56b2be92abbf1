/-!
# UTF-8

Bytes are `List UInt8`. `decodeStep` takes one scalar value off the front, or the longest
ill-formed piece that no scalar value can begin with; `decode?` accepts well-formed text only, and
`decodeLossy` puts a replacement character for each ill-formed piece.

Main statement: decoding undoes encoding, whatever follows (`decode?_encode`).
-/

namespace QuerySwarm

abbrev Bytes := List UInt8

namespace Utf8

/-! ### Encoding -/

def encodeChar (c : Char) : Bytes :=
  let n := c.toNat
  if n < 0x80 then [.ofNat n]
  else if n < 0x800 then [.ofNat (0xC0 + n / 0x40), .ofNat (0x80 + n % 0x40)]
  else if n < 0x10000 then
    [.ofNat (0xE0 + n / 0x1000), .ofNat (0x80 + n / 0x40 % 0x40), .ofNat (0x80 + n % 0x40)]
  else
    [.ofNat (0xF0 + n / 0x40000), .ofNat (0x80 + n / 0x1000 % 0x40),
      .ofNat (0x80 + n / 0x40 % 0x40), .ofNat (0x80 + n % 0x40)]

def encode (cs : List Char) : Bytes := cs.flatMap encodeChar

/-! ### Decoding -/

/-- The range of the second byte of a sequence that begins with `b`, and the number of bytes
after the first; `none` if no sequence of several bytes begins with `b`. -/
def lead? (b : Nat) : Option (Nat × Nat × Nat) :=
  if b < 0xC2 then none
  else if b < 0xE0 then some (1, 0x80, 0xBF)
  else if b = 0xE0 then some (2, 0xA0, 0xBF)
  else if b = 0xED then some (2, 0x80, 0x9F)
  else if b < 0xF0 then some (2, 0x80, 0xBF)
  else if b = 0xF0 then some (3, 0x90, 0xBF)
  else if b < 0xF4 then some (3, 0x80, 0xBF)
  else if b = 0xF4 then some (3, 0x80, 0x8F)
  else none

def isContinuation (b : Nat) : Bool := decide (0x80 ≤ b ∧ b < 0xC0)

/-- Take one scalar value off the front of `b :: rest`, or the longest piece that is the start of
an ill-formed sequence. -/
def decodeStep (b : UInt8) (rest : Bytes) : Option Char × Bytes :=
  let n := b.toNat
  if n < 0x80 then (some (Char.ofNat n), rest)
  else match lead? n, rest with
    | none, rest => (none, rest)
    | some (1, low, high), b1 :: rest1 =>
      let n1 := b1.toNat
      if low ≤ n1 ∧ n1 ≤ high then (some (Char.ofNat (n % 0x20 * 0x40 + n1 % 0x40)), rest1)
      else (none, rest)
    | some (2, low, high), b1 :: rest1 =>
      let n1 := b1.toNat
      if low ≤ n1 ∧ n1 ≤ high then
        match rest1 with
        | b2 :: rest2 =>
          let n2 := b2.toNat
          if isContinuation n2 then
            (some (Char.ofNat (n % 0x10 * 0x1000 + n1 % 0x40 * 0x40 + n2 % 0x40)), rest2)
          else (none, rest1)
        | [] => (none, rest1)
      else (none, rest)
    | some (_, low, high), b1 :: rest1 =>
      let n1 := b1.toNat
      if low ≤ n1 ∧ n1 ≤ high then
        match rest1 with
        | b2 :: rest2 =>
          let n2 := b2.toNat
          if isContinuation n2 then
            match rest2 with
            | b3 :: rest3 =>
              let n3 := b3.toNat
              if isContinuation n3 then
                (some (Char.ofNat
                  (n % 0x08 * 0x40000 + n1 % 0x40 * 0x1000 + n2 % 0x40 * 0x40 + n3 % 0x40)), rest3)
              else (none, rest2)
            | [] => (none, rest2)
          else (none, rest1)
        | [] => (none, rest1)
      else (none, rest)
    | some _, [] => (none, [])

theorem decodeStep_length_le (b : UInt8) (rest : Bytes) :
    (decodeStep b rest).2.length ≤ rest.length := by
  unfold decodeStep
  simp only
  repeat' split
  all_goals simp_all
  all_goals omega

/-- The pieces of a byte sequence: a scalar value, or `none` for an ill-formed piece. -/
def pieces : Bytes → List (Option Char)
  | [] => []
  | b :: rest => (decodeStep b rest).1 :: pieces (decodeStep b rest).2
termination_by bytes => bytes.length
decreasing_by
  have := decodeStep_length_le b rest
  simp only [List.length_cons]
  omega

def decode? (bytes : Bytes) : Option (List Char) :=
  let ps := pieces bytes
  if ps.all Option.isSome then some (ps.filterMap id) else none

/-- The text of any bytes, with U+FFFD for each ill-formed piece. -/
def decodeLossy (bytes : Bytes) : List Char :=
  (pieces bytes).map (·.getD '\uFFFD')

/-- The number of bytes before the first ill-formed piece. -/
def validLength : List (Option Char) → Nat
  | some c :: ps => (encodeChar c).length + validLength ps
  | _ => 0

/-! ### Decoding undoes encoding -/

theorem toNat_ofNat_byte (n : Nat) (h : n < 256) : (UInt8.ofNat n).toNat = n := by
  simp [Nat.mod_eq_of_lt h]

/-- The scalar values of characters leave out the surrogates. -/
theorem char_range (c : Char) : c.toNat < 0xD800 ∨ (0xDFFF < c.toNat ∧ c.toNat < 0x110000) := by
  have h := c.valid
  simp only [UInt32.isValidChar, Nat.isValidChar] at h
  exact h

/-- A step over the bytes of one character gives the character and what follows it. -/
theorem decodeStep_encodeChar (c : Char) (rest : Bytes) :
    ∃ b bs, encodeChar c = b :: bs ∧ decodeStep b (bs ++ rest) = (some c, rest) := by
  have hr := char_range c
  have hc : Char.ofNat c.toNat = c := Char.ofNat_toNat c
  unfold encodeChar
  generalize hn : c.toNat = n at *
  simp only
  split
  · refine ⟨_, _, rfl, ?_⟩
    have h0 := toNat_ofNat_byte n (by omega)
    simp only [decodeStep, h0, List.nil_append]
    rw [if_pos (by omega), hc]
  split
  · refine ⟨_, _, rfl, ?_⟩
    have h0 := toNat_ofNat_byte (0xC0 + n / 0x40) (by omega)
    have h1 := toNat_ofNat_byte (0x80 + n % 0x40) (by omega)
    have hl : lead? (0xC0 + n / 0x40) = some (1, 0x80, 0xBF) := by
      unfold lead?
      rw [if_neg (by omega), if_pos (by omega)]
    simp only [decodeStep, h0, List.cons_append, List.nil_append, hl, h1]
    rw [if_neg (by omega), if_pos (by omega)]
    rw [show (0xC0 + n / 0x40) % 0x20 * 0x40 + (0x80 + n % 0x40) % 0x40 = n by omega, hc]
  split
  · refine ⟨_, _, rfl, ?_⟩
    have h0 := toNat_ofNat_byte (0xE0 + n / 0x1000) (by omega)
    have h1 := toNat_ofNat_byte (0x80 + n / 0x40 % 0x40) (by omega)
    have h2 := toNat_ofNat_byte (0x80 + n % 0x40) (by omega)
    have hl : ∃ low high, lead? (0xE0 + n / 0x1000) = some (2, low, high) ∧
        low ≤ 0x80 + n / 0x40 % 0x40 ∧ 0x80 + n / 0x40 % 0x40 ≤ high := by
      unfold lead?
      rw [if_neg (by omega), if_neg (by omega)]
      split
      · exact ⟨_, _, rfl, by omega, by omega⟩
      split
      · exact ⟨_, _, rfl, by omega, by omega⟩
      rw [if_pos (by omega)]
      exact ⟨_, _, rfl, by omega, by omega⟩
    obtain ⟨low, high, hl, hlow, hhigh⟩ := hl
    have hcont : isContinuation (0x80 + n % 0x40) = true := by
      simp only [isContinuation, decide_eq_true_eq]; omega
    simp only [decodeStep, h0, List.cons_append, List.nil_append, hl, h1, h2]
    rw [if_neg (by omega), if_pos ⟨hlow, hhigh⟩, if_pos hcont]
    rw [show (0xE0 + n / 0x1000) % 0x10 * 0x1000 + (0x80 + n / 0x40 % 0x40) % 0x40 * 0x40 +
      (0x80 + n % 0x40) % 0x40 = n by omega, hc]
  · refine ⟨_, _, rfl, ?_⟩
    have h0 := toNat_ofNat_byte (0xF0 + n / 0x40000) (by omega)
    have h1 := toNat_ofNat_byte (0x80 + n / 0x1000 % 0x40) (by omega)
    have h2 := toNat_ofNat_byte (0x80 + n / 0x40 % 0x40) (by omega)
    have h3 := toNat_ofNat_byte (0x80 + n % 0x40) (by omega)
    have hl : ∃ low high, lead? (0xF0 + n / 0x40000) = some (3, low, high) ∧
        low ≤ 0x80 + n / 0x1000 % 0x40 ∧ 0x80 + n / 0x1000 % 0x40 ≤ high := by
      unfold lead?
      rw [if_neg (by omega), if_neg (by omega), if_neg (by omega), if_neg (by omega),
        if_neg (by omega)]
      split
      · exact ⟨_, _, rfl, by omega, by omega⟩
      split
      · exact ⟨_, _, rfl, by omega, by omega⟩
      rw [if_pos (by omega)]
      exact ⟨_, _, rfl, by omega, by omega⟩
    obtain ⟨low, high, hl, hlow, hhigh⟩ := hl
    have hcont2 : isContinuation (0x80 + n / 0x40 % 0x40) = true := by
      simp only [isContinuation, decide_eq_true_eq]; omega
    have hcont3 : isContinuation (0x80 + n % 0x40) = true := by
      simp only [isContinuation, decide_eq_true_eq]; omega
    simp only [decodeStep, h0, List.cons_append, List.nil_append, hl, h1, h2, h3]
    rw [if_neg (by omega), if_pos ⟨hlow, hhigh⟩, if_pos hcont2, if_pos hcont3]
    rw [show (0xF0 + n / 0x40000) % 0x08 * 0x40000 + (0x80 + n / 0x1000 % 0x40) % 0x40 * 0x1000 +
      (0x80 + n / 0x40 % 0x40) % 0x40 * 0x40 + (0x80 + n % 0x40) % 0x40 = n by omega, hc]

/-- The pieces of encoded text are its characters. -/
theorem pieces_encode_append (cs : List Char) (rest : Bytes) :
    pieces (encode cs ++ rest) = cs.map some ++ pieces rest := by
  induction cs with
  | nil => rfl
  | cons c cs ih =>
    obtain ⟨b, bs, hb, hstep⟩ := decodeStep_encodeChar c (encode cs ++ rest)
    have hsplit : encode (c :: cs) ++ rest = b :: (bs ++ (encode cs ++ rest)) := by
      simp [encode, hb]
    rw [hsplit, pieces, hstep, ih]
    rfl

theorem decode?_encode (cs : List Char) : decode? (encode cs) = some cs := by
  have h := pieces_encode_append cs []
  have hnil : pieces [] = [] := by unfold pieces; rfl
  rw [List.append_nil, hnil, List.append_nil] at h
  unfold decode?
  simp [h]

end Utf8

def bytesOf (s : String) : Bytes := Utf8.encode s.toList

def textOf? (bytes : Bytes) : Option String := (Utf8.decode? bytes).map String.ofList

theorem textOf?_bytesOf (s : String) : textOf? (bytesOf s) = some s := by
  simp [textOf?, bytesOf, Utf8.decode?_encode]

end QuerySwarm
