import QuerySwarm.Proofs.Json.Layout
import QuerySwarm.Proofs.Json.Scalars

/-!
# What readers take off a text

A reader reads a text as a value if it takes exactly that text off the front of whatever begins with
it, up to blanks before it. Where the items of a list or the fields of a record are read, so is the
whole, in any style.

* `Reads`: a reader reads a text as a value.
* `elements_ok`: the elements of an array, from those of which each is read.
* `Fills`: the members that a record reads, one after the other (`fieldsFrom_ok`).
* `membersBody_ok`: an object of any members is a record that takes in whatever comes.
-/

namespace QuerySwarm.Json

open Cursor

/-! ### Blanks -/

/-- Blanks are passed over, and nothing more. -/
theorem skipBlanks_of_blanks {gap : List Char} (blank : ∀ c ∈ gap, c = ' ' ∨ c = '\n') {c : Cursor}
    {b : UInt8} {tail : Bytes} (hb : isBlank b = false)
    (h : c.rest = Utf8.encode gap ++ b :: tail) : c.skipBlanks.rest = b :: tail := by
  rw [skipBlanks_rest, h]
  clear h
  induction gap with
  | nil => exact List.dropWhile_cons_of_neg (by rw [hb]; decide)
  | cons char gap ih =>
    have hrest := ih fun other hother => blank other (List.mem_cons_of_mem _ hother)
    rcases blank char List.mem_cons_self with rfl | rfl <;> exact hrest

theorem blank_nil : ∀ c ∈ ([] : List Char), c = ' ' ∨ c = '\n' := by
  rintro c ⟨⟩

theorem skipBlanks_of_visible {c : Cursor} {b : UInt8} {tail : Bytes} (hb : isBlank b = false)
    (h : c.rest = b :: tail) : c.skipBlanks.rest = b :: tail :=
  skipBlanks_of_blanks blank_nil hb h

/-- A text that begins with a byte that is no blank and closes no list. -/
def Opens (text : List Char) : Prop :=
  ∃ b tail, Utf8.encode text = b :: tail ∧ isBlank b = false ∧ b ≠ 0x5D

theorem Opens.append {text : List Char} (h : Opens text) (more : List Char) :
    Opens (text ++ more) := by
  obtain ⟨b, tail, htext, hb⟩ := h
  exact ⟨b, tail ++ Utf8.encode more, by rw [Utf8.encode_append, htext]; rfl, hb⟩

/-- Blanks are passed over up to what begins after them. -/
theorem skipBlanks_of_opens {gap text : List Char} (blank : ∀ c ∈ gap, c = ' ' ∨ c = '\n')
    (opens : Opens text) {c : Cursor} {rest : Bytes}
    (h : c.rest = Utf8.encode (gap ++ text) ++ rest) :
    c.skipBlanks.rest = Utf8.encode text ++ rest ∧
      c.skipBlanks.skipBlanks.rest = Utf8.encode text ++ rest := by
  obtain ⟨b, tail, htext, hb, -⟩ := opens
  rw [Utf8.encode_append, List.append_assoc, htext] at h
  rw [htext]
  have hskip := skipBlanks_of_blanks blank hb h
  exact ⟨hskip, skipBlanks_of_visible hb hskip⟩

/-- A comma is ahead, and after it and the blanks there the text that follows. -/
theorem exists_comma {gap text : List Char} (blank : ∀ c ∈ gap, c = ' ' ∨ c = '\n')
    (opens : Opens text) {c : Cursor} {rest : Bytes}
    (h : c.rest = Utf8.encode (',' :: (gap ++ text)) ++ rest) :
    ∃ tail, c.skipBlanks.rest = 0x2C :: tail ∧
      (c.skipBlanks.after 0x2C tail).skipBlanks.rest = Utf8.encode text ++ rest ∧
      (c.skipBlanks.after 0x2C tail).skipBlanks.skipBlanks.rest = Utf8.encode text ++ rest ∧
      (c.skipBlanks.after 0x2C tail).skipBlanks.rest.length < c.rest.length := by
  have hrest : c.rest = 0x2C :: (Utf8.encode (gap ++ text) ++ rest) := h
  have hcomma := skipBlanks_of_visible (by decide) hrest
  obtain ⟨hahead, hahead'⟩ := skipBlanks_of_opens blank opens
    (after_rest c.skipBlanks 0x2C (Utf8.encode (gap ++ text) ++ rest))
  refine ⟨_, hcomma, hahead, hahead', ?_⟩
  rw [hahead, hrest, Utf8.encode_append]
  simp only [List.length_cons, List.length_append]
  omega

/-! ### Readers -/

/-- The reader takes the text off the front, up to blanks before it, and gives the value. -/
def Reads {α : Type} (reader : Cursor → Read α) (text : List Char) (x : α) : Prop :=
  ∀ (c : Cursor) (rest : Bytes), Ends rest → c.skipBlanks.rest = Utf8.encode text ++ rest →
    ∃ c', reader c = .ok (x, c') ∧ c'.rest = rest

theorem Reads.map {α β : Type} {reader : Cursor → Read α} {text : List Char} {x : α}
    (h : Reads reader text x) (f : α → β) :
    Reads (fun c => (reader c).map fun (x, c) => (f x, c)) text (f x) := by
  intro c rest ends hc
  obtain ⟨c', hread, hrest⟩ := h c rest ends hc
  refine ⟨c', ?_, hrest⟩
  simp only [hread]
  rfl

/-- What stands before a part of a list ends whatever is before it. -/
theorem ends_gap {gap : List Char} (blank : ∀ c ∈ gap, c = ' ' ∨ c = '\n') {b : UInt8}
    {tail : Bytes} (hdigit : isDigit b = false) (h : b ≠ 0x2E ∧ b ≠ 0x65 ∧ b ≠ 0x45) :
    Ends (Utf8.encode gap ++ b :: tail) := by
  cases gap with
  | nil => exact ends_cons hdigit h
  | cons char gap =>
    rcases blank char List.mem_cons_self with rfl | rfl <;>
      exact ends_cons (by decide) (by decide)

section Lists

variable {α : Type} {item : Cursor → Read α} {style : Style} {depth : Nat} {rest : Bytes}

/-! ### Lists -/

theorem nextElement_close {c : Cursor} {tail : Bytes} (h : c.skipBlanks.rest = 0x5D :: tail)
    (first : Bool) : nextElement first c = .ok (false, c.skipBlanks) := by
  unfold nextElement
  simp only [h, if_true]

theorem nextElement_first {c : Cursor} {b : UInt8} {tail : Bytes}
    (h : c.skipBlanks.rest = b :: tail) (hb : b ≠ 0x5D) :
    nextElement true c = .ok (true, c.skipBlanks) := by
  unfold nextElement
  simp only [h, if_neg hb, if_true]

theorem nextElement_comma {c : Cursor} {b : UInt8} {tail tail' : Bytes}
    (h : c.skipBlanks.rest = 0x2C :: tail)
    (hafter : (c.skipBlanks.after 0x2C tail).skipBlanks.rest = b :: tail') (hb : b ≠ 0x5D) :
    nextElement false c = .ok (true, (c.skipBlanks.after 0x2C tail).skipBlanks) := by
  have hcomma : (0x2C : UInt8) ≠ 0x5D := by decide
  unfold nextElement
  simp only [h, if_neg hcomma, Bool.false_eq_true, if_false, if_true, hafter, if_neg hb]

/-- What comes after an element of a list: the others, each after a comma, and the bracket. -/
def others (style : Style) (depth : Nat) (closing : Char) (texts : List (List Char)) : List Char :=
  (texts.flatMap fun text => ',' :: (style.gap (depth + 1) ++ text)) ++
    (style.gap depth ++ [closing])

theorem spread_append (style : Style) (depth : Nat) (closing : Char) (text : List Char)
    (texts : List (List Char)) :
    spread style depth (text :: texts) ++ [closing] =
      style.gap (depth + 1) ++ (text ++ others style depth closing texts) := by
  simp only [spread, others, List.append_assoc]

theorem others_cons (style : Style) (depth : Nat) (closing : Char) (text : List Char)
    (texts : List (List Char)) :
    others style depth closing (text :: texts) =
      ',' :: (style.gap (depth + 1) ++ (text ++ others style depth closing texts)) := by
  simp [others]

theorem encode_closing (gap : List Char) {closing : Char} {b : UInt8}
    (hclosing : Utf8.encodeChar closing = [b]) :
    Utf8.encode (gap ++ [closing]) ++ rest = Utf8.encode gap ++ b :: rest := by
  rw [Utf8.encode_append, Utf8.encode_cons, hclosing, List.append_assoc]
  rfl

theorem ends_others {closing : Char} {b : UInt8} (hclosing : Utf8.encodeChar closing = [b])
    (hdigit : isDigit b = false) (hb : b ≠ 0x2E ∧ b ≠ 0x65 ∧ b ≠ 0x45)
    (texts : List (List Char)) : Ends (Utf8.encode (others style depth closing texts) ++ rest) := by
  cases texts with
  | nil =>
    show Ends (Utf8.encode (style.gap depth ++ [closing]) ++ rest)
    rw [encode_closing _ hclosing]
    exact ends_gap (style.gap_blank depth) hdigit hb
  | cons text texts =>
    rw [others_cons]
    exact ends_cons (by decide) (by decide)

theorem elementsFrom_close {first : Bool} {done : List α} {c : Cursor} {gap : List Char}
    (blank : ∀ c ∈ gap, c = ' ' ∨ c = '\n')
    (h : c.rest = Utf8.encode (gap ++ [']']) ++ rest) :
    ∃ c', elementsFrom item first done c = .ok (done.reverse, c') ∧
      c'.skipBlanks.rest = 0x5D :: rest := by
  rw [encode_closing gap (show Utf8.encodeChar ']' = [0x5D] from rfl)] at h
  have hclose := skipBlanks_of_blanks blank (by decide) h
  refine ⟨c.skipBlanks, ?_, skipBlanks_of_visible (by decide) hclose⟩
  rw [elementsFrom, nextElement_close hclose]

/-- An element that is ahead is read. -/
theorem elementsFrom_step {first : Bool} {c c₁ : Cursor} {text : List Char} {x : α}
    (done : List α) (next : nextElement first c = .ok (true, c₁)) (opens : Opens text)
    (hread : Reads item text x) (ends : Ends rest)
    (h : c₁.skipBlanks.rest = Utf8.encode text ++ rest)
    (hle : c₁.rest.length ≤ c.rest.length) :
    ∃ c₂, elementsFrom item first done c = elementsFrom item false (x :: done) c₂ ∧
      c₂.rest = rest := by
  obtain ⟨c₂, hitem, hc₂⟩ := hread c₁ rest ends h
  -- an element is not empty, so the reader has moved on and need not give up
  have hlt : c₂.rest.length < c.rest.length := by
    obtain ⟨b, tail, htext, -⟩ := opens
    have hlength := congrArg List.length h
    have hskip := skipBlanks_length_le c₁
    rw [htext, List.length_append, List.length_cons] at hlength
    rw [hc₂]
    omega
  refine ⟨c₂, ?_, hc₂⟩
  rw [elementsFrom, next]
  simp only [hitem, hlt, if_true]

theorem elementsFrom_others {parts : List (List Char × α)}
    (h : ∀ part ∈ parts, Opens part.1 ∧ Reads item part.1 part.2) (done : List α) {c : Cursor}
    (hc : c.rest = Utf8.encode (others style depth ']' (parts.map Prod.fst)) ++ rest) :
    ∃ c', elementsFrom item false done c = .ok (done.reverse ++ parts.map Prod.snd, c') ∧
      c'.skipBlanks.rest = 0x5D :: rest := by
  induction parts generalizing done c with
  | nil =>
    rw [List.map_nil, List.append_nil]
    exact elementsFrom_close (style.gap_blank depth) hc
  | cons part parts ih =>
    obtain ⟨opens, hread⟩ := h part List.mem_cons_self
    have hothers := ih fun other hother => h other (List.mem_cons_of_mem _ hother)
    rw [List.map_cons, others_cons] at hc
    obtain ⟨tail, hcomma, hahead, hahead', hlt⟩ :=
      exists_comma (style.gap_blank (depth + 1)) (opens.append _) hc
    obtain ⟨b, rest', htext, -, hb⟩ := opens.append (others style depth ']' (parts.map Prod.fst))
    have next := nextElement_comma hcomma (by rw [hahead, htext]; rfl) hb
    rw [Utf8.encode_append, List.append_assoc] at hahead'
    obtain ⟨c₂, hstep, hc₂⟩ := elementsFrom_step done next opens hread
      (ends_others rfl (by decide) (by decide) _) hahead' (Nat.le_of_lt hlt)
    obtain ⟨c', hc', hrest⟩ := hothers (part.2 :: done) hc₂
    refine ⟨c', ?_, hrest⟩
    rw [hstep, hc', List.reverse_cons, List.append_assoc]
    rfl

theorem closeList_ok {c : Cursor} (h : c.skipBlanks.rest = 0x5D :: rest) :
    ∃ c', closeList c = .ok c' ∧ c'.rest = rest := by
  refine ⟨c.skipBlanks.after 0x5D rest, ?_, after_rest _ _ _⟩
  unfold closeList
  simp only [h, if_true]

/-- Where each element is read, the array is. -/
theorem elements_ok {parts : List (List Char × α)}
    (h : ∀ part ∈ parts, Opens part.1 ∧ Reads item part.1 part.2) {c : Cursor}
    (hc : c.rest = Utf8.encode (spread style depth (parts.map Prod.fst) ++ [']']) ++ rest) :
    ∃ c', elements item c = .ok (parts.map Prod.snd, c') ∧ c'.rest = rest := by
  obtain ⟨c₁, hfrom, hclose⟩ : ∃ c₁, elementsFrom item true [] c = .ok (parts.map Prod.snd, c₁) ∧
      c₁.skipBlanks.rest = 0x5D :: rest := by
    cases parts with
    | nil => exact elementsFrom_close blank_nil hc
    | cons part parts =>
      obtain ⟨opens, hread⟩ := h part List.mem_cons_self
      rw [List.map_cons, spread_append] at hc
      obtain ⟨hahead, hahead'⟩ :=
        skipBlanks_of_opens (style.gap_blank (depth + 1)) (opens.append _) hc
      obtain ⟨b, rest', htext, -, hb⟩ := opens.append (others style depth ']' (parts.map Prod.fst))
      have next := nextElement_first (c := c) (by rw [hahead, htext]; rfl) hb
      rw [Utf8.encode_append, List.append_assoc] at hahead'
      obtain ⟨c₂, hstep, hc₂⟩ := elementsFrom_step [] next opens hread
        (ends_others rfl (by decide) (by decide) _) hahead' (skipBlanks_length_le c)
      rw [hstep]
      exact elementsFrom_others (fun other hother => h other (List.mem_cons_of_mem _ hother)) _ hc₂
  obtain ⟨c', hend, hrest⟩ := closeList_ok hclose
  refine ⟨c', ?_, hrest⟩
  unfold elements
  simp only [hfrom, hend]

end Lists

/-! ### Records -/

theorem nextKey_close {c : Cursor} {tail : Bytes} (h : c.skipBlanks.rest = 0x7D :: tail)
    (first : Bool) : nextKey first c = .ok (false, c.skipBlanks) := by
  unfold nextKey
  simp only [h, if_true]

theorem nextKey_first {c : Cursor} {tail : Bytes} (h : c.skipBlanks.rest = 0x22 :: tail) :
    nextKey true c = .ok (true, c.skipBlanks) := by
  have hquote : (0x22 : UInt8) ≠ 0x7D := by decide
  unfold nextKey
  simp only [h, if_neg hquote, if_true]

theorem nextKey_comma {c : Cursor} {tail tail' : Bytes} (h : c.skipBlanks.rest = 0x2C :: tail)
    (hafter : (c.skipBlanks.after 0x2C tail).skipBlanks.rest = 0x22 :: tail') :
    nextKey false c = .ok (true, (c.skipBlanks.after 0x2C tail).skipBlanks) := by
  have hcomma : (0x2C : UInt8) ≠ 0x7D := by decide
  unfold nextKey
  simp only [h, if_neg hcomma, Bool.false_eq_true, if_false, if_true, hafter]

theorem opens_memberText (style : Style) (key : String) (text : List Char) :
    Opens (memberText style key text) :=
  ⟨0x22, _, rfl, by decide, by decide⟩

/-- A key that is ahead is read, and so is its colon. -/
theorem exists_value {style : Style} {key : String} {text : List Char} (opens : Opens text)
    {c : Cursor} {rest : Bytes} (h : c.rest = Utf8.encode (memberText style key text) ++ rest) :
    ∃ c₁ c₂, stringBody c.next = .ok (key, c₁) ∧ colon c₁ = .ok c₂ ∧
      c₂.skipBlanks.rest = Utf8.encode text ++ rest ∧ rest.length < c.rest.length := by
  let tail := Utf8.encode (':' :: (style.space ++ text)) ++ rest
  have hquote : c.rest = 0x22 :: (Utf8.encode (key.toList.flatMap escapedChar) ++ 0x22 :: tail) := by
    rw [h, memberText, stringText]
    simp only [List.cons_append, List.append_assoc, Utf8.encode_cons, Utf8.encode_append, tail]
    rfl
  have hnext : c.next.rest = Utf8.encode (key.toList.flatMap escapedChar) ++ 0x22 :: tail := by
    unfold Cursor.next
    rw [hquote]
    exact after_rest _ _ _
  obtain ⟨c₁, hkey, hc₁⟩ := stringBody_escaped key hnext
  have hcolon : c₁.skipBlanks.rest = 0x3A :: (Utf8.encode (style.space ++ text) ++ rest) :=
    skipBlanks_of_visible (by decide) hc₁
  refine ⟨c₁, c₁.skipBlanks.after 0x3A _, hkey, ?_,
    (skipBlanks_of_opens style.space_blank opens (after_rest _ _ _)).1, ?_⟩
  · unfold colon
    simp only [hcolon, if_true]
  · rw [hquote]
    simp only [tail, List.length_cons, List.length_append]
    omega

/-- The members that a record reads one after the other, and what it has read by then. -/
inductive Fills {σ : Type} (field : σ → String → FieldAction σ) :
    σ → List (String × List Char) → σ → Prop
  | done (s : σ) : Fills field s [] s
  | next {s s' s'' : σ} {key : String} {text : List Char} {members : List (String × List Char)}
      {reader : Cursor → Read σ} (known : field s key = .read reader) (opens : Opens text)
      (reads : Reads reader text s') (rest : Fills field s' members s'') :
      Fills field s ((key, text) :: members) s''

theorem Fills.append {σ : Type} {field : σ → String → FieldAction σ} {s s' s'' : σ}
    {before after : List (String × List Char)} (h : Fills field s before s')
    (h' : Fills field s' after s'') : Fills field s (before ++ after) s'' := by
  induction h with
  | done s => exact h'
  | next known opens reads _ ih => exact .next known opens reads (ih h')

section Records

variable {σ : Type} {field : σ → String → FieldAction σ} {style : Style} {depth : Nat}
  {rest : Bytes}

theorem fieldsFrom_close {first : Bool} {s : σ} {c : Cursor} {gap : List Char}
    (blank : ∀ c ∈ gap, c = ' ' ∨ c = '\n')
    (h : c.rest = Utf8.encode (gap ++ [closeBrace]) ++ rest) :
    ∃ c', fieldsFrom field first s c = .ok (s, c') ∧ c'.skipBlanks.rest = 0x7D :: rest := by
  rw [encode_closing gap (show Utf8.encodeChar closeBrace = [0x7D] from rfl)] at h
  have hclose := skipBlanks_of_blanks blank (by decide) h
  refine ⟨c.skipBlanks, ?_, skipBlanks_of_visible (by decide) hclose⟩
  rw [fieldsFrom, nextKey_close hclose]

/-- A member that is ahead is read. -/
theorem fieldsFrom_step {first : Bool} {s s' : σ} {c c₁ : Cursor} {key : String}
    {text : List Char} {reader : Cursor → Read σ} (next : nextKey first c = .ok (true, c₁))
    (known : field s key = .read reader) (opens : Opens text) (reads : Reads reader text s')
    (ends : Ends rest) (h : c₁.rest = Utf8.encode (memberText style key text) ++ rest)
    (hle : c₁.rest.length ≤ c.rest.length) :
    ∃ c₂, fieldsFrom field first s c = fieldsFrom field false s' c₂ ∧ c₂.rest = rest := by
  obtain ⟨c₂, c₃, hkey, hcolon, hahead, hlt⟩ := exists_value opens h
  obtain ⟨c₄, hread, hc₄⟩ := reads c₃ rest ends hahead
  have hguard : c₄.rest.length < c.rest.length := by
    rw [hc₄]
    exact Nat.lt_of_lt_of_le hlt hle
  refine ⟨c₄, ?_, hc₄⟩
  rw [fieldsFrom, next]
  simp only [hkey, known, hcolon, Except.bind, hread, hguard, if_true]

theorem fieldsFrom_others {s s' : σ} {members : List (String × List Char)}
    (fills : Fills field s members s') {c : Cursor}
    (hc : c.rest = Utf8.encode (others style depth closeBrace
      (members.map fun member => memberText style member.1 member.2)) ++ rest) :
    ∃ c', fieldsFrom field false s c = .ok (s', c') ∧ c'.skipBlanks.rest = 0x7D :: rest := by
  induction fills generalizing c with
  | done s => exact fieldsFrom_close (style.gap_blank depth) hc
  | @next s s' s'' key text members reader known opens reads _ ih =>
    rw [List.map_cons, others_cons] at hc
    obtain ⟨tail, hcomma, hahead, -, hlt⟩ := exists_comma (style.gap_blank (depth + 1))
      ((opens_memberText style key text).append _) hc
    have next := nextKey_comma hcomma hahead
    rw [Utf8.encode_append, List.append_assoc] at hahead
    obtain ⟨c₂, hstep, hc₂⟩ := fieldsFrom_step next known opens reads
      (ends_others rfl (by decide) (by decide) _) hahead (Nat.le_of_lt hlt)
    rw [hstep]
    exact ih hc₂

/-- Where the fields are read one after the other, they are read from an object. -/
theorem fieldsFrom_ok {s s' : σ} {members : List (String × List Char)}
    (fills : Fills field s members s') {c : Cursor}
    (hc : c.rest = Utf8.encode (spread style depth
      (members.map fun member => memberText style member.1 member.2) ++ [closeBrace]) ++ rest) :
    ∃ c', fieldsFrom field true s c = .ok (s', c') ∧ c'.skipBlanks.rest = 0x7D :: rest := by
  cases fills with
  | done => exact fieldsFrom_close blank_nil hc
  | @next _ s' _ key text members reader known opens reads others =>
    rw [List.map_cons, spread_append] at hc
    obtain ⟨hahead, -⟩ := skipBlanks_of_opens (style.gap_blank (depth + 1))
      ((opens_memberText style key text).append _) hc
    have next := nextKey_first (c := c) hahead
    rw [Utf8.encode_append, List.append_assoc] at hahead
    obtain ⟨c₂, hstep, hc₂⟩ := fieldsFrom_step next known opens reads
      (ends_others rfl (by decide) (by decide) _) hahead (skipBlanks_length_le c)
    rw [hstep]
    exact fieldsFrom_others others hc₂

theorem closeObject_ok {c : Cursor} (h : c.skipBlanks.rest = 0x7D :: rest) :
    ∃ c', closeObject c = .ok c' ∧ c'.rest = rest := by
  refine ⟨c.skipBlanks.after 0x7D rest, ?_, after_rest _ _ _⟩
  unfold closeObject
  simp only [h, if_true]

end Records

/-! ### Objects of any members -/

/-- A record that takes in whatever comes. -/
def takeIn (item : Cursor → Read Json) (members : Members) (key : String) : FieldAction Members :=
  .read fun c => (item c).map fun (x, c) => (members.set key x, c)

/-- The members of an object are read as the fields of that record. -/
theorem fieldsFrom_takeIn (item : Cursor → Read Json) (first : Bool) (members : Members)
    (c : Cursor) :
    fieldsFrom (takeIn item) first members c =
      (membersFrom item first members c).mapError .failed := by
  fun_induction membersFrom item first members c with
  | case1 first done c f hnext => rw [fieldsFrom, hnext]; rfl
  | case2 first done c c₁ hnext => rw [fieldsFrom, hnext]; rfl
  | case3 first done c c₁ hnext f hkey =>
    rw [fieldsFrom, hnext]
    simp only [hkey]
    rfl
  | case4 first done c c₁ hnext key c₂ hkey f hcolon =>
    rw [fieldsFrom, hnext]
    simp only [hkey, hcolon, takeIn, Except.bind]
    rfl
  | case5 first done c c₁ hnext key c₂ hkey c₃ hcolon f hitem =>
    rw [fieldsFrom, hnext]
    simp only [hkey, hcolon, hitem, takeIn, Except.bind, Except.map]
    rfl
  | case6 first done c c₁ hnext key c₂ hkey c₃ hcolon x c₄ hitem hlt ih =>
    rw [fieldsFrom, hnext]
    simp only [hkey, hcolon, hitem, takeIn, Except.bind, Except.map, if_pos hlt]
    exact ih
  | case7 first done c c₁ hnext key c₂ hkey c₃ hcolon x c₄ hitem hlt =>
    rw [fieldsFrom, hnext]
    simp only [hkey, hcolon, hitem, takeIn, Except.bind, Except.map, if_neg hlt]
    rfl

theorem fills_takeIn {item : Cursor → Read Json} {members : List (String × List Char × Json)}
    (h : ∀ member ∈ members, Opens member.2.1 ∧ Reads item member.2.1 member.2.2)
    (done : Members) :
    Fills (takeIn item) done (members.map fun member => (member.1, member.2.1))
      (done.setAll (members.map fun member => (member.1, member.2.2))) := by
  induction members generalizing done with
  | nil => exact .done done
  | cons member members ih =>
    obtain ⟨key, text, x⟩ := member
    obtain ⟨opens, hread⟩ := h _ List.mem_cons_self
    exact .next rfl opens (hread.map fun x => done.set key x)
      (ih (fun other hother => h other (List.mem_cons_of_mem _ hother)) _)

/-- Where each member is read, the object is; if a key comes again, its last member counts. -/
theorem membersBody_ok {item : Cursor → Read Json} {style : Style} {depth : Nat}
    {members : List (String × List Char × Json)}
    (h : ∀ member ∈ members, Opens member.2.1 ∧ Reads item member.2.1 member.2.2) {c : Cursor}
    {rest : Bytes}
    (hc : c.rest = Utf8.encode (spread style depth
      (members.map fun member => memberText style member.1 member.2.1) ++ [closeBrace]) ++ rest) :
    ∃ c', membersBody item c =
        .ok (Members.ofList (members.map fun member => (member.1, member.2.2)), c') ∧
      c'.rest = rest := by
  rw [← Function.comp_def (fun member : String × List Char => memberText style member.1 member.2)
    fun member : String × List Char × Json => (member.1, member.2.1), ← List.map_map] at hc
  obtain ⟨c₁, hfields, hclose⟩ := fieldsFrom_ok (fills_takeIn h []) hc
  have hmembers : membersFrom item true [] c =
      .ok (Members.ofList (members.map fun member => (member.1, member.2.2)), c₁) := by
    rw [fieldsFrom_takeIn] at hfields
    cases hfrom : membersFrom item true [] c with
    | error f =>
      rw [hfrom] at hfields
      cases hfields
    | ok found =>
      rw [hfrom] at hfields
      cases hfields
      rfl
  obtain ⟨c', hend, hrest⟩ := closeObject_ok hclose
  refine ⟨c', ?_, hrest⟩
  unfold membersBody
  simp only [hmembers, hend]

end QuerySwarm.Json
