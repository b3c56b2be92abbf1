import QuerySwarm.Proofs.Json.Readers

/-!
# Values are read back

A value that can be stored is read back from any layout of it, if it is not nested deeper than it may
be (`reads_layout`). The readers of one kind of value read back what is laid out as one, and a
whole document is read if its one value is (`document_ok_of_reads`).
-/

namespace QuerySwarm.Json

open Cursor

/-! ### Members in order -/

theorem Members.set_append_of_lt {key : String} (x : Json) {members : Members}
    (h : ∀ k ∈ members.keys, k < key) : members.set key x = members ++ [(key, x)] := by
  induction members with
  | nil => rfl
  | cons member rest ih =>
    obtain ⟨k, v⟩ := member
    have hlt : k < key := h k List.mem_cons_self
    have hrest := ih fun other hother => h other (List.mem_cons_of_mem _ hother)
    unfold Members.set
    rw [if_neg (Std.not_lt.2 (Std.le_of_lt hlt)), if_neg (Std.ne_of_lt hlt).symm, hrest]
    rfl

/-- Members that are in order already stay as they are. -/
theorem Members.ofList_of_sorted {members : Members} (sorted : Members.Sorted members) :
    Members.ofList members = members := by
  suffices hall : ∀ done rest : Members, Members.Sorted (done ++ rest) →
      Members.setAll done rest = done ++ rest from hall [] members sorted
  intro done rest
  induction rest generalizing done with
  | nil => exact fun _ => (List.append_nil done).symm
  | cons member rest ih =>
    intro sorted
    obtain ⟨key, x⟩ := member
    have hlt : ∀ k ∈ Members.keys done, k < key := by
      intro k hk
      unfold Members.Sorted Members.keys at sorted
      rw [List.map_append, List.pairwise_append] at sorted
      exact sorted.2.2 k hk key List.mem_cons_self
    have hset := Members.set_append_of_lt x hlt
    show Members.setAll (done.set key x) rest = _
    rw [hset, ih _ (by rw [List.append_assoc]; exact sorted), List.append_assoc]
    rfl

/-! ### Values of one kind -/

section Kinds

variable {style : Style} {depth : Nat}

theorem stringText_bytes (s : String) (rest : Bytes) :
    Utf8.encode (stringText s) ++ rest =
      0x22 :: (Utf8.encode (s.toList.flatMap escapedChar) ++ 0x22 :: rest) := by
  simp only [stringText, Utf8.encode_cons, Utf8.encode_append, List.append_assoc]
  rfl

theorem opens_stringText (s : String) : Opens (stringText s) :=
  ⟨0x22, _, rfl, by decide, by decide⟩

theorem reads_text (s : String) : Reads text (stringText s) s := by
  intro c rest _ hc
  rw [stringText_bytes] at hc
  obtain ⟨c', hbody, hrest⟩ := stringBody_escaped s (after_rest c.skipBlanks 0x22 _)
  refine ⟨c', ?_, hrest⟩
  unfold text
  simp only [hc, if_true]
  exact hbody

/-- The digits of a whole number, after a minus sign or not. -/
theorem intText_bytes (i : Int) :
    (∃ n : Nat, i = n ∧ (intText i).toList = digitsOf n) ∨
      ∃ n : Nat, i = -(n : Int) ∧ n ≠ 0 ∧ (intText i).toList = '-' :: digitsOf n := by
  cases i with
  | ofNat n => exact .inl ⟨n, rfl, String.toList_ofList⟩
  | negSucc n =>
    refine .inr ⟨n + 1, Int.negSucc_eq n, Nat.succ_ne_zero n, ?_⟩
    show ("-" ++ String.ofList (digitsOf (n + 1))).toList = _
    rw [String.toList_append]
    exact congrArg (['-'] ++ ·) String.toList_ofList

theorem digitsOf_bytes (n : Nat) :
    ∃ b tail, Utf8.encode (digitsOf n) = b :: tail ∧ isDigit b = true := by
  have hall : ∀ char ∈ digitsOf n, char.isDigit = true := fun char hchar =>
    Nat.isDigit_of_mem_toDigits (by decide) (by decide) hchar
  have hbytes := (encode_digits hall).1
  cases hdigits : digitsOf n with
  | nil => exact absurd hdigits Nat.toDigits_ne_nil
  | cons char cs =>
    obtain ⟨hbyte, -, hdigit, -⟩ :=
      isDigit_char (hall char (by rw [hdigits]; exact List.mem_cons_self))
    exact ⟨.ofNat char.toNat, Utf8.encode cs, by rw [Utf8.encode_cons, hbyte]; rfl, hdigit⟩

/-- What is known of a byte that is a digit. -/
theorem ne_of_isDigit {b : UInt8} (h : isDigit b = true) :
    isBlank b = false ∧ b ≠ 0x5D ∧ b ≠ 0x6E ∧ b ≠ 0x74 ∧ b ≠ 0x66 ∧ b ≠ 0x2D := by
  have hne : ∀ other : UInt8, isDigit other = false → b ≠ other := fun _ => ne_of_isDigit_eq_false h
  exact ⟨isBlank_of_isDigit h, hne _ (by decide), hne _ (by decide), hne _ (by decide),
    hne _ (by decide), hne _ (by decide)⟩

/-- A whole number begins with a digit or a minus sign. -/
theorem intText_head (i : Int) :
    ∃ b tail, Utf8.encode (intText i).toList = b :: tail ∧ isBlank b = false ∧ b ≠ 0x5D ∧
      b ≠ 0x6E := by
  rcases intText_bytes i with ⟨n, -, htext⟩ | ⟨n, -, -, htext⟩ <;> rw [htext]
  · obtain ⟨b, tail, hbytes, hdigit⟩ := digitsOf_bytes n
    obtain ⟨hblank, hclose, hnull, -⟩ := ne_of_isDigit hdigit
    exact ⟨b, tail, hbytes, hblank, hclose, hnull⟩
  · exact ⟨0x2D, _, rfl, by decide, by decide, by decide⟩

theorem opens_intText (i : Int) : Opens (intText i).toList := by
  obtain ⟨b, tail, hbytes, hblank, hclose, -⟩ := intText_head i
  exact ⟨b, tail, hbytes, hblank, hclose⟩

/-- A whole number that fits in 64 bits is read with its sign. -/
theorem number_intText {i : Int} (hrange : -(Nat.pow 2 63 : Int) ≤ i ∧ i < Nat.pow 2 64)
    {c : Cursor} {rest : Bytes} (ends : Ends rest)
    (hc : c.rest = Utf8.encode (intText i).toList ++ rest) :
    (∃ b tail c', c.rest = b :: tail ∧ isDigit b = true ∧ number false c = .ok (.integer i, c') ∧
      c'.rest = rest) ∨
    ∃ tail c', c.rest = 0x2D :: tail ∧ number true (c.after 0x2D tail) = .ok (.integer i, c') ∧
      c'.rest = rest := by
  have hmax : maxNat64 + 1 = Nat.pow 2 64 := by decide
  have hhalf : Nat.pow 2 63 ≤ maxNat64 := by decide
  rcases intText_bytes i with ⟨n, rfl, htext⟩ | ⟨n, rfl, hn, htext⟩ <;> rw [htext] at hc
  · left
    obtain ⟨b, tail, hbytes, hdigit⟩ := digitsOf_bytes n
    obtain ⟨c', hnumber, hrest⟩ := number_digits (n := n) (by omega) false ends hc
    exact ⟨b, tail ++ rest, c', by rw [hc, hbytes]; rfl, hdigit, hnumber, hrest⟩
  · right
    let tail := Utf8.encode (digitsOf n) ++ rest
    obtain ⟨c', hnumber, hrest⟩ :=
      number_digits (n := n) (by omega) true ends (after_rest c 0x2D tail)
    refine ⟨tail, c', hc, ?_, hrest⟩
    rw [hnumber, integerValue, if_pos rfl, if_neg]
    omega

theorem reads_integer64 {i : Int} (fits : fitsInt64 i = true) :
    Reads integer64 (intText i).toList i := by
  intro c rest ends hc
  have hrange : -(Nat.pow 2 63 : Int) ≤ i ∧ i < Nat.pow 2 64 := by
    have hle : (Nat.pow 2 63 : Int) ≤ Nat.pow 2 64 := by decide
    simp only [fitsInt64, decide_eq_true_eq] at fits
    omega
  rcases number_intText hrange ends hc with ⟨b, tail, c', hb, hdigit, hnumber, hrest⟩ |
    ⟨tail, c', hb, hnumber, hrest⟩
  · refine ⟨c', ?_, hrest⟩
    unfold integer64
    simp only [hb, if_neg (ne_of_isDigit hdigit).2.2.2.2.2, hdigit, if_true, hnumber, Except.bind,
      fits]
  · refine ⟨c', ?_, hrest⟩
    unfold integer64
    simp only [hb, if_true, hnumber, Except.bind, fits]

/-- What may be `null` and is not. -/
theorem reads_optional {α : Type} {reader : Cursor → Read α} {text : List Char} {x : α} {b : UInt8}
    {tail : Bytes} (htext : Utf8.encode text = b :: tail) (hnull : b ≠ 0x6E)
    (hblank : isBlank b = false) (h : Reads reader text x) :
    Reads (optional reader) text (some x) := by
  intro c rest ends hc
  have hbytes : c.skipBlanks.rest = b :: (tail ++ rest) := by rw [hc, htext]; rfl
  obtain ⟨c', hread, hrest⟩ := h c.skipBlanks rest ends
    (by rw [skipBlanks_of_visible hblank hbytes, htext]; rfl)
  refine ⟨c', ?_, hrest⟩
  unfold optional
  simp only [hbytes, if_neg hnull, hread]
  rfl

/-! ### Lists, objects and records -/

theorem elements_layout {α : Type} {item : Cursor → Read α} (form : α → Json) {xs : List α}
    (h : ∀ x ∈ xs, Opens (layout style (depth + 1) (form x)) ∧
      Reads item (layout style (depth + 1) (form x)) x) {c : Cursor} {rest : Bytes}
    (hc : c.rest = Utf8.encode (spread style depth
      (layoutElements style (depth + 1) (xs.map form)) ++ [']']) ++ rest) :
    ∃ c', elements item c = .ok (xs, c') ∧ c'.rest = rest := by
  let parts := xs.map fun x => (layout style (depth + 1) (form x), x)
  have hfst : layoutElements style (depth + 1) (xs.map form) = parts.map Prod.fst := by
    rw [layoutElements_eq_map, List.map_map, List.map_map]
    rfl
  have hsnd : parts.map Prod.snd = xs := by
    rw [List.map_map]
    exact List.map_id _
  have hparts : ∀ part ∈ parts, Opens part.1 ∧ Reads item part.1 part.2 := by
    intro part hpart
    obtain ⟨x, hx, rfl⟩ := List.mem_map.1 hpart
    exact h x hx
  rw [hfst] at hc
  rw [← hsnd]
  exact elements_ok hparts hc

theorem membersBody_layout {item : Cursor → Read Json} {members : Members}
    (sorted : Members.Sorted members)
    (h : ∀ member ∈ members, Opens (layout style (depth + 1) member.2) ∧
      Reads item (layout style (depth + 1) member.2) member.2) {c : Cursor} {rest : Bytes}
    (hc : c.rest = Utf8.encode (spread style depth
      (layoutMembers style (depth + 1) members) ++ [closeBrace]) ++ rest) :
    ∃ c', membersBody item c = .ok (members, c') ∧ c'.rest = rest := by
  let parts := members.map fun member => (member.1, layout style (depth + 1) member.2, member.2)
  have htexts : layoutMembers style (depth + 1) members =
      parts.map fun part => memberText style part.1 part.2.1 := by
    rw [layoutMembers_eq_map, List.map_map]
    rfl
  have hmembers : (parts.map fun part => (part.1, part.2.2)) = members := by
    rw [List.map_map]
    exact List.map_id _
  have hparts : ∀ part ∈ parts, Opens part.2.1 ∧ Reads item part.2.1 part.2.2 := by
    intro part hpart
    obtain ⟨member, hmember, rfl⟩ := List.mem_map.1 hpart
    exact h member hmember
  rw [htexts] at hc
  obtain ⟨c', hbody, hrest⟩ := membersBody_ok hparts hc
  rw [hmembers, Members.ofList_of_sorted sorted] at hbody
  exact ⟨c', hbody, hrest⟩

/-- Where each item is read, the list is. -/
theorem reads_list {α : Type} {item : Nat → Cursor → Read α} {form : α → Json} {level : Nat}
    {xs : List α}
    (h : ∀ x ∈ xs, Opens (layout style (depth + 1) (form x)) ∧
      Reads (item level) (layout style (depth + 1) (form x)) x) :
    Reads (list item (level + 1)) (layout style depth (.array (xs.map form))) xs := by
  intro c rest _ hc
  rw [layout] at hc
  have hbytes : c.skipBlanks.rest = 0x5B :: (Utf8.encode (spread style depth
      (layoutElements style (depth + 1) (xs.map form)) ++ [']']) ++ rest) := hc
  obtain ⟨c', helements, hrest⟩ := elements_layout form h (after_rest c.skipBlanks 0x5B _)
  refine ⟨c', ?_, hrest⟩
  unfold list
  simp only [hbytes, if_true]
  exact helements

/-- Where each member is read, the map is. -/
theorem reads_map {level : Nat} {members : Members} (sorted : Members.Sorted members)
    (h : ∀ member ∈ members, Opens (layout style (depth + 1) member.2) ∧
      Reads (value level) (layout style (depth + 1) member.2) member.2) :
    Reads (map (level + 1)) (layout style depth (.object members)) members := by
  intro c rest _ hc
  rw [layout] at hc
  have hbytes : c.skipBlanks.rest = 0x7B :: (Utf8.encode (spread style depth
      (layoutMembers style (depth + 1) members) ++ [closeBrace]) ++ rest) := hc
  obtain ⟨c', hbody, hrest⟩ := membersBody_layout sorted h (after_rest c.skipBlanks 0x7B _)
  refine ⟨c', ?_, hrest⟩
  unfold map
  simp only [hbytes, if_true]
  exact hbody

/-- The texts of members, by their keys. -/
def fieldTexts (style : Style) (depth : Nat) (members : Members) : List (String × List Char) :=
  members.map fun member => (member.1, layout style depth member.2)

theorem fieldTexts_append (members members' : Members) :
    fieldTexts style depth (members ++ members') =
      fieldTexts style depth members ++ fieldTexts style depth members' :=
  List.map_append

/-- Where its fields are read one after the other, a record is. -/
theorem reads_record {α σ : Type} {typeName : String}
    {byPosition byName : Nat → Cursor → Except Stop (α × Cursor)} {level : Nat}
    {field : σ → String → FieldAction σ} {s s' : σ} {x : α} {members : Members}
    (fills : Fills field s (fieldTexts style (depth + 1) members) s')
    (hname : ∀ c c', fieldsFrom field true s c = .ok (s', c') → byName level c = .ok (x, c')) :
    Reads (record typeName byPosition byName (level + 1)) (layout style depth (.object members))
      x := by
  intro c rest _ hc
  have htexts : layoutMembers style (depth + 1) members =
      (fieldTexts style (depth + 1) members).map fun member =>
        memberText style member.1 member.2 := by
    rw [layoutMembers_eq_map, fieldTexts, List.map_map]
    rfl
  let inside := Utf8.encode (spread style depth
    ((fieldTexts style (depth + 1) members).map fun member => memberText style member.1 member.2) ++
      [closeBrace]) ++ rest
  rw [layout, htexts] at hc
  have hbytes : c.skipBlanks.rest = 0x7B :: inside := hc
  obtain ⟨c₁, hfields, hclose⟩ := fieldsFrom_ok fills (after_rest c.skipBlanks 0x7B inside)
  obtain ⟨c', hend, hrest⟩ := closeObject_ok hclose
  have hlist : (0x7B : UInt8) ≠ 0x5B := by decide
  refine ⟨c', ?_, hrest⟩
  unfold record
  simp only [hbytes, if_neg hlist, if_true, hname _ _ hfields, hend]
  rfl

end Kinds

/-! ### Any value -/

section Values

variable {style : Style} {array object : Cursor → Read Json}

theorem exists_wordValue {α : Type} (x : α) (c : Cursor) (first : UInt8) (w rest : Bytes) :
    ∃ c', wordValue x w (c.after first (w ++ rest)) = .ok (x, c') ∧ c'.rest = rest := by
  obtain ⟨c', hword, hrest⟩ := word_ok w (after_rest c first (w ++ rest))
  exact ⟨c', by unfold wordValue; rw [hword], hrest⟩

theorem reads_null : Reads (valueWith array object) ['n', 'u', 'l', 'l'] .null := by
  intro c rest _ hc
  have hbytes : c.skipBlanks.rest = 0x6E :: (nullRest ++ rest) := hc
  obtain ⟨c', hword, hrest⟩ := exists_wordValue Json.null c.skipBlanks _ nullRest rest
  refine ⟨c', ?_, hrest⟩
  unfold valueWith
  simp only [hbytes, if_true]
  exact hword

theorem reads_true : Reads (valueWith array object) ['t', 'r', 'u', 'e'] (.boolean true) := by
  intro c rest _ hc
  have hbytes : c.skipBlanks.rest = 0x74 :: (trueRest ++ rest) := hc
  obtain ⟨c', hword, hrest⟩ := exists_wordValue (Json.boolean true) c.skipBlanks 0x74 trueRest rest
  refine ⟨c', ?_, hrest⟩
  unfold valueWith
  simp only [hbytes]
  simpa using hword

theorem reads_false : Reads (valueWith array object) ['f', 'a', 'l', 's', 'e'] (.boolean false) := by
  intro c rest _ hc
  have hbytes : c.skipBlanks.rest = 0x66 :: (falseRest ++ rest) := hc
  obtain ⟨c', hword, hrest⟩ :=
    exists_wordValue (Json.boolean false) c.skipBlanks 0x66 falseRest rest
  refine ⟨c', ?_, hrest⟩
  unfold valueWith
  simp only [hbytes]
  simpa using hword

theorem reads_integer {i : Int} (hrange : -(Nat.pow 2 63 : Int) ≤ i ∧ i < Nat.pow 2 64) :
    Reads (valueWith array object) (intText i).toList (.integer i) := by
  intro c rest ends hc
  rcases number_intText hrange ends hc with ⟨b, tail, c', hb, hdigit, hnumber, hrest⟩ |
    ⟨tail, c', hb, hnumber, hrest⟩
  · obtain ⟨-, -, hn, ht, hf, hminus⟩ := ne_of_isDigit hdigit
    refine ⟨c', ?_, hrest⟩
    unfold valueWith
    simp only [hb, if_neg hn, if_neg ht, if_neg hf, if_neg hminus, hdigit, if_true, hnumber]
    rfl
  · refine ⟨c', ?_, hrest⟩
    unfold valueWith
    simp only [hb, hnumber]
    rfl

theorem reads_string (s : String) : Reads (valueWith array object) (stringText s) (.string s) := by
  intro c rest _ hc
  rw [stringText_bytes] at hc
  obtain ⟨c', hbody, hrest⟩ := stringBody_escaped s (after_rest c.skipBlanks 0x22 _)
  refine ⟨c', ?_, hrest⟩
  unfold valueWith
  simp only [hc]
  show (stringBody _).map _ = _
  rw [hbody]
  rfl

theorem valueWith_list {c : Cursor} {tail : Bytes} (h : c.skipBlanks.rest = 0x5B :: tail) :
    valueWith array object c = array c.skipBlanks := by
  unfold valueWith
  simp only [h]
  rfl

theorem valueWith_object {c : Cursor} {tail : Bytes} (h : c.skipBlanks.rest = 0x7B :: tail) :
    valueWith array object c = object c.skipBlanks := by
  unfold valueWith
  simp only [h]
  rfl

theorem opens_layout (depth : Nat) {j : Json} (stored : IsStored j) :
    Opens (layout style depth j) := by
  cases j with
  | null => exact ⟨0x6E, _, rfl, by decide, by decide⟩
  | boolean value => cases value <;> exact ⟨_, _, rfl, by decide, by decide⟩
  | integer value => exact opens_intText value
  | double value => exact stored.elim
  | string value => exact opens_stringText value
  | array elements => exact ⟨0x5B, _, rfl, by decide, by decide⟩
  | object members => exact ⟨0x7B, _, rfl, by decide, by decide⟩

theorem next_rest {c : Cursor} {b : UInt8} {tail : Bytes} (h : c.rest = b :: tail) :
    c.next.rest = tail := by
  unfold Cursor.next
  rw [h]
  exact after_rest _ _ _

/-- An array is read one level further out than its elements. -/
theorem reads_array {level depth : Nat} {elements : List Json}
    (h : ∀ e ∈ elements, Opens (layout style (depth + 1) e) ∧
      Reads (value level) (layout style (depth + 1) e) e) :
    Reads (value (level + 1)) (layout style depth (.array elements)) (.array elements) := by
  intro c rest _ hc
  rw [layout] at hc
  have hinside := next_rest hc
  rw [← List.map_id elements] at hinside
  obtain ⟨c', helements, hrest⟩ := elements_layout id h hinside
  refine ⟨c', ?_, hrest⟩
  rw [value, valueWith_list hc]
  simp only [helements]
  rfl

/-- An object is read one level further out than its members. -/
theorem reads_object {level depth : Nat} {members : Members} (sorted : Members.Sorted members)
    (h : ∀ member ∈ members, Opens (layout style (depth + 1) member.2) ∧
      Reads (value level) (layout style (depth + 1) member.2) member.2) :
    Reads (value (level + 1)) (layout style depth (.object members)) (.object members) := by
  intro c rest _ hc
  rw [layout] at hc
  obtain ⟨c', hbody, hrest⟩ := membersBody_layout sorted h (next_rest hc)
  refine ⟨c', ?_, hrest⟩
  rw [value, valueWith_object hc]
  simp only [hbody]
  rfl

end Values

theorem exists_value_eq (level : Nat) :
    ∃ array object, value level = valueWith array object := by
  cases level <;> exact ⟨_, _, rfl⟩

mutual

/-- A value that can be stored is read back from any layout, if it is not nested too deep. -/
theorem reads_layout (style : Style) : ∀ (j : Json) (depth level : Nat), IsStored j →
    nesting j ≤ level → Reads (value level) (layout style depth j) j
  | .null, _, level, _, _ => by
    obtain ⟨array, object, heq⟩ := exists_value_eq level
    rw [heq]
    exact reads_null
  | .boolean true, _, level, _, _ => by
    obtain ⟨array, object, heq⟩ := exists_value_eq level
    rw [heq]
    exact reads_true
  | .boolean false, _, level, _, _ => by
    obtain ⟨array, object, heq⟩ := exists_value_eq level
    rw [heq]
    exact reads_false
  | .integer i, _, level, stored, _ => by
    obtain ⟨array, object, heq⟩ := exists_value_eq level
    rw [heq]
    exact reads_integer stored
  | .double _, _, _, stored, _ => stored.elim
  | .string s, _, level, _, _ => by
    obtain ⟨array, object, heq⟩ := exists_value_eq level
    rw [heq]
    exact reads_string s
  | .array elements, depth, 0, _, hle => absurd hle (Nat.not_succ_le_zero _)
  | .array elements, depth, level + 1, stored, hle =>
    reads_array (reads_layoutElements style elements (depth + 1) level stored
      (Nat.le_of_succ_le_succ hle))
  | .object members, depth, 0, _, hle => absurd hle (Nat.not_succ_le_zero _)
  | .object members, depth, level + 1, stored, hle =>
    reads_object stored.1 (reads_layoutMembers style members (depth + 1) level stored.2
      (Nat.le_of_succ_le_succ hle))

theorem reads_layoutElements (style : Style) : ∀ (es : List Json) (depth level : Nat),
    AreStored es → nestingOfElements es ≤ level →
    ∀ e ∈ es, Opens (layout style depth e) ∧ Reads (value level) (layout style depth e) e
  | [], _, _, _, _ => by rintro e ⟨⟩
  | first :: rest, depth, level, stored, hle => by
    obtain ⟨hfirst, hrest⟩ := Nat.max_le.1 hle
    intro e he
    rcases List.mem_cons.1 he with heq | he
    · rw [heq]
      exact ⟨opens_layout depth stored.1, reads_layout style first depth level stored.1 hfirst⟩
    · exact reads_layoutElements style rest depth level stored.2 hrest e he

theorem reads_layoutMembers (style : Style) : ∀ (ms : List (String × Json)) (depth level : Nat),
    MembersAreStored ms → nestingOfMembers ms ≤ level →
    ∀ member ∈ ms, Opens (layout style depth member.2) ∧
      Reads (value level) (layout style depth member.2) member.2
  | [], _, _, _, _ => by rintro member ⟨⟩
  | (key, first) :: rest, depth, level, stored, hle => by
    obtain ⟨hfirst, hrest⟩ := Nat.max_le.1 hle
    intro member hmember
    rcases List.mem_cons.1 hmember with heq | hmember
    · rw [heq]
      exact ⟨opens_layout depth stored.1, reads_layout style first depth level stored.1 hfirst⟩
    · exact reads_layoutMembers style rest depth level stored.2 hrest member hmember

end

/-! ### Documents -/

/-- A text is a document of what its reader reads it as. -/
theorem document_ok_of_reads {α : Type} {reader : Nat → Cursor → Read α} {text : List Char} {x : α}
    (opens : Opens text) (h : Reads (reader maxDepth) text x) :
    document reader (Utf8.encode text) = .ok x := by
  obtain ⟨b, tail, htext, hb, -⟩ := opens
  have hstart : (Cursor.start (Utf8.encode text)).skipBlanks.rest = Utf8.encode text ++ [] := by
    rw [List.append_nil, htext]
    exact skipBlanks_of_visible hb rfl
  obtain ⟨c, hread, hrest⟩ := h _ [] ends_nil hstart
  have hend : c.skipBlanks.rest = [] := by
    rw [skipBlanks_rest, hrest]
    rfl
  unfold document
  simp only [hread, hend, List.isEmpty_nil, if_true]

end QuerySwarm.Json
