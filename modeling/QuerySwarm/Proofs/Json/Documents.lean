import QuerySwarm.Proofs.Json.Rules

/-!
# Documents are read by the grammar

The reader of any value follows the grammar, for the trees that are not nested too deep and whose
numbers are not too large. What it gives is the value of the tree: in an object the last of several
members with one key counts.

* `Tree.nesting`, `Tree.value?`: whether a tree can be read, and as what.
* `value_follows`: any value.
* `parse_eq_ok_iff`: which texts are documents that can be read, and as what.
-/

namespace QuerySwarm.Json

open Cursor

/-! ### What a tree means -/

namespace Tree

mutual

/-- The number of levels that a tree is nested. -/
def nesting : Tree → Nat
  | .array elements => nestingOfElements elements + 1
  | .object members => nestingOfMembers members + 1
  | _ => 0

def nestingOfElements : List Tree → Nat
  | [] => 0
  | t :: ts => max (nesting t) (nestingOfElements ts)

def nestingOfMembers : List (String × Tree) → Nat
  | [] => 0
  | (_, t) :: ms => max (nesting t) (nestingOfMembers ms)

end

mutual

/-- The value of a tree, if no number in it is too large. -/
def value? : Tree → Option Json
  | .null => some .null
  | .boolean value => some (.boolean value)
  | .number n => n.number?.map Number.toJson
  | .string s => some (.string s)
  | .array elements => (elementValues? elements).map .array
  | .object members => (memberValues? members).map .ofMembers

def elementValues? : List Tree → Option (List Json)
  | [] => some []
  | t :: ts => (value? t).bind fun x => (elementValues? ts).map (x :: ·)

def memberValues? : List (String × Tree) → Option (List (String × Json))
  | [] => some []
  | (key, t) :: ms => (value? t).bind fun x => (memberValues? ms).map ((key, x) :: ·)

end

theorem nestingOfElements_le_iff {elements : List Tree} {n : Nat} :
    nestingOfElements elements ≤ n ↔ ∀ t ∈ elements, nesting t ≤ n := by
  induction elements with
  | nil => exact iff_of_true (Nat.zero_le n) fun _ ht => absurd ht List.not_mem_nil
  | cons t ts ih => rw [nestingOfElements, Nat.max_le, ih, List.forall_mem_cons]

theorem nestingOfMembers_le_iff {members : List (String × Tree)} {n : Nat} :
    nestingOfMembers members ≤ n ↔ ∀ m ∈ members, nesting m.2 ≤ n := by
  induction members with
  | nil => exact iff_of_true (Nat.zero_le n) fun _ hm => absurd hm List.not_mem_nil
  | cons m ms ih => rw [nestingOfMembers, Nat.max_le, ih, List.forall_mem_cons]

theorem elementValues?_eq_some_iff {elements : List Tree} {xs : List Json} :
    elementValues? elements = some xs ↔ List.Forall₂ (fun t x => value? t = some x) elements xs := by
  induction elements generalizing xs with
  | nil =>
    rw [elementValues?, List.forall₂_nil_left_iff, Option.some_inj]
    exact eq_comm
  | cons t ts ih =>
    rw [elementValues?, List.forall₂_cons_left_iff, Option.bind_eq_some_iff]
    refine exists_congr fun x => ?_
    rw [Option.map_eq_some_iff]
    constructor
    · rintro ⟨hx, ys, hys, rfl⟩
      exact ⟨ys, hx, ih.1 hys, rfl⟩
    · rintro ⟨ys, hx, hys, rfl⟩
      exact ⟨hx, ys, ih.2 hys, rfl⟩

theorem memberValues?_eq_some_iff {members : List (String × Tree)} {entries : List (String × Json)} :
    memberValues? members = some entries ↔
      List.Forall₂ (fun m e => m.1 = e.1 ∧ value? m.2 = some e.2) members entries := by
  induction members generalizing entries with
  | nil =>
    rw [memberValues?, List.forall₂_nil_left_iff, Option.some_inj]
    exact eq_comm
  | cons m ms ih =>
    rw [memberValues?, List.forall₂_cons_left_iff, Option.bind_eq_some_iff]
    constructor
    · rintro ⟨x, hx, hrest⟩
      obtain ⟨es, hes, rfl⟩ := Option.map_eq_some_iff.1 hrest
      exact ⟨(m.1, x), es, ⟨rfl, hx⟩, ih.1 hes, rfl⟩
    · rintro ⟨e, es, ⟨hkey, hx⟩, hes, rfl⟩
      refine ⟨e.2, hx, Option.map_eq_some_iff.2 ⟨es, ih.2 hes, ?_⟩⟩
      rw [hkey]

/-- A tree and its value, kind by kind. -/
inductive Denotes : Tree → Json → Prop
  | null : Denotes .null .null
  | boolean (value : Bool) : Denotes (.boolean value) (.boolean value)
  | integer {n : Numeral} {i : Int} (h : n.number? = some (.integer i)) :
    Denotes (.number n) (.integer i)
  | double {n : Numeral} {x : Binary64} (h : n.number? = some (.double x)) :
    Denotes (.number n) (.double x)
  | string (s : String) : Denotes (.string s) (.string s)
  | array {ts : List Tree} {xs : List Json}
    (h : List.Forall₂ (fun t x => value? t = some x) ts xs) : Denotes (.array ts) (.array xs)
  | object {ms : List (String × Tree)} {entries : List (String × Json)}
    (h : List.Forall₂ (fun m e => m.1 = e.1 ∧ value? m.2 = some e.2) ms entries) :
    Denotes (.object ms) (.object (Members.ofList entries))

theorem denotes_of_value? {t : Tree} {x : Json} (h : t.value? = some x) : Denotes t x := by
  cases t with
  | null =>
    cases h
    exact .null
  | boolean value =>
    cases h
    exact .boolean value
  | number n =>
    obtain ⟨v, hv, rfl⟩ := Option.map_eq_some_iff.1 h
    cases v with
    | integer i => exact .integer hv
    | double y => exact .double hv
  | string s =>
    cases h
    exact .string s
  | array ts =>
    obtain ⟨xs, hxs, rfl⟩ := Option.map_eq_some_iff.1 h
    exact .array (elementValues?_eq_some_iff.1 hxs)
  | object ms =>
    obtain ⟨entries, hentries, rfl⟩ := Option.map_eq_some_iff.1 h
    exact .object (memberValues?_eq_some_iff.1 hentries)

/-- The value of a tree that is nested at most so deep. -/
def Means (depth : Nat) (t : Tree) (x : Json) : Prop := t.nesting ≤ depth ∧ t.value? = some x

theorem means_array_iff {depth : Nat} {elements : List Tree} {x : Json} :
    Means (depth + 1) (.array elements) x ↔
      ∃ xs, List.Forall₂ (Means depth) elements xs ∧ Json.array xs = x := by
  have hlevels : nesting (.array elements) ≤ depth + 1 ↔ ∀ t ∈ elements, nesting t ≤ depth := by
    rw [nesting, Nat.succ_le_succ_iff, nestingOfElements_le_iff]
  unfold Means
  simp only [hlevels, value?, Option.map_eq_some_iff, elementValues?_eq_some_iff,
    List.forall₂_and_left, and_assoc, exists_and_left]

theorem means_object_iff {depth : Nat} {members : List (String × Tree)} {x : Json} :
    Means (depth + 1) (.object members) x ↔
      ∃ entries, List.Forall₂ (fun m e => m.1 = e.1 ∧ Means depth m.2 e.2) members entries ∧
        Json.ofMembers entries = x := by
  have hlevels : nesting (.object members) ≤ depth + 1 ↔ ∀ m ∈ members, nesting m.2 ≤ depth := by
    rw [nesting, Nat.succ_le_succ_iff, nestingOfMembers_le_iff]
  unfold Means
  simp only [hlevels, value?, Option.map_eq_some_iff, memberValues?_eq_some_iff,
    and_left_comm (b := _ ≤ _), List.forall₂_and_left, and_assoc, exists_and_left]

/-- Whether a tree can be read: it is not nested too deep, and no number in it is too large. -/
def IsReadable (t : Tree) : Prop := ∃ x, t.Means maxDepth x

end Tree

/-! ### Any value -/

theorem rest_of_wordValue {α : Type} {x y : α} {w : Bytes} {c c' : Cursor}
    (h : wordValue x w c = .ok (y, c')) : x = y ∧ c.rest = w ++ c'.rest := by
  unfold wordValue at h
  split at h
  · cases h
  · next hword =>
    cases h
    exact ⟨rfl, rest_of_word hword⟩

section Values

variable {array object : Cursor → Read Json} {means : Tree → Json → Prop}

/-- What is read of a value is a scalar, or what stands in brackets. -/
theorem valueWith_sound (scalar : ∀ t x, t.nesting = 0 → t.value? = some x → means t x)
    (list : ∀ {c c' x tail}, c.rest = 0x5B :: tail → array c = .ok (x, c') →
      ∃ t, means t x ∧ Written strictly t c.rest c'.rest)
    (braces : ∀ {c c' x tail}, c.rest = 0x7B :: tail → object c = .ok (x, c') →
      ∃ t, means t x ∧ Written strictly t c.rest c'.rest)
    {c c' : Cursor} {x : Json} (h : valueWith array object c = .ok (x, c')) :
    ∃ t, means t x ∧ Spaced (Written strictly t) c.rest c'.rest := by
  suffices hwritten : ∃ t, means t x ∧ Written strictly t c.skipBlanks.rest c'.rest by
    obtain ⟨t, hmeans, hwritten⟩ := hwritten
    exact ⟨t, hmeans, _, blanks_skipBlanks c, hwritten⟩
  unfold valueWith at h
  dsimp only at h
  split at h
  · cases h
  · next b rest hrest =>
    split at h
    · next hb =>
      obtain ⟨rfl, hword⟩ := rest_of_wordValue h
      rw [after_rest] at hword
      exact ⟨.null, scalar _ _ rfl rfl, by rw [hrest, hb, hword]; rfl⟩
    · split at h
      · next hb =>
        obtain ⟨rfl, hword⟩ := rest_of_wordValue h
        rw [after_rest] at hword
        exact ⟨.boolean true, scalar _ _ rfl rfl, by rw [hrest, hb, hword]; rfl⟩
      · split at h
        · next hb =>
          obtain ⟨rfl, hword⟩ := rest_of_wordValue h
          rw [after_rest] at hword
          exact ⟨.boolean false, scalar _ _ rfl rfl, by rw [hrest, hb, hword]; rfl⟩
        · split at h
          · next hb =>
            obtain ⟨⟨value, c₁⟩, hnumber, heq⟩ := map_eq_ok h
            cases heq
            obtain ⟨n, hsign, hvalue, hunsigned⟩ := unsigned_of_number hnumber
            rw [after_rest] at hunsigned
            refine ⟨.number n, scalar _ _ rfl (by rw [Tree.value?, hvalue]; rfl), ?_⟩
            show n.Written _ _
            rw [Numeral.Written, if_pos hsign, hrest, hb]
            exact ⟨rest, rfl, hunsigned⟩
          · split at h
            · obtain ⟨⟨value, c₁⟩, hnumber, heq⟩ := map_eq_ok h
              cases heq
              obtain ⟨n, hsign, hvalue, hunsigned⟩ := unsigned_of_number hnumber
              refine ⟨.number n, scalar _ _ rfl (by rw [Tree.value?, hvalue]; rfl), ?_⟩
              show n.Written _ _
              rw [Numeral.Written, if_neg (by rw [hsign]; decide)]
              exact hunsigned
            · split at h
              · next hb =>
                obtain ⟨⟨s, c₁⟩, hstring, heq⟩ := map_eq_ok h
                cases heq
                have hcharacters := characters_of_stringBody hstring
                rw [after_rest] at hcharacters
                exact ⟨.string s, scalar _ _ rfl rfl, rest, by rw [hrest, hb], hcharacters⟩
              · split at h
                · next hb => exact list (by rw [hrest, hb]) h
                · split at h
                  · next hb => exact braces (by rw [hrest, hb]) h
                  · cases h

/-- Scalars are read. -/
theorem valueWith_complete {t : Tree} {c : Cursor} {x : Json} {after : Bytes}
    (hvalue : t.value? = some x) (hnesting : t.nesting = 0)
    (h : Spaced (Written strictly t) c.rest after) (ends : Ends after) :
    ∃ c', valueWith array object c = .ok (x, c') ∧ c'.rest = after := by
  obtain ⟨start, hblanks, hwritten⟩ := h
  obtain ⟨b, tail, rfl, hkind⟩ := hwritten.exists_first
  have hrest : c.skipBlanks.rest = b :: tail := by
    obtain ⟨b', tail', heq, hb', -⟩ := hwritten.begun
    cases heq
    exact hblanks.skipBlanks_eq hb'
  unfold valueWith
  simp only [hrest]
  cases t with
  | null =>
    cases hvalue
    cases hwritten
    exact exists_wordValue Json.null c.skipBlanks 0x6E nullRest after
  | boolean value =>
    cases hvalue
    cases value
    · cases hwritten
      exact exists_wordValue (Json.boolean false) c.skipBlanks 0x66 falseRest after
    · cases hwritten
      exact exists_wordValue (Json.boolean true) c.skipBlanks 0x74 trueRest after
  | number n =>
    obtain ⟨v, hv, rfl⟩ := Option.map_eq_some_iff.1 hvalue
    have hnumber : n.Written (b :: tail) after := hwritten
    unfold Numeral.Written at hnumber
    split at hnumber
    · next hsign =>
      obtain ⟨mid, heq, hunsigned⟩ := hnumber
      cases heq
      rw [← after_rest c.skipBlanks 0x2D tail] at hunsigned
      obtain ⟨c', hread, hafter⟩ := number_complete hunsigned hv ends
      rw [hsign] at hread
      refine ⟨c', ?_, hafter⟩
      show (number true _).map _ = _
      rw [hread]
      rfl
    · next hsign =>
      obtain ⟨b', tail', heq, hdigit⟩ := hnumber.exists_first
      cases heq
      have hne : ∀ other, isDigit other = false → b ≠ other := fun _ =>
        ne_of_isDigit_eq_false hdigit
      rw [← hrest] at hnumber
      obtain ⟨c', hread, hafter⟩ := number_complete hnumber hv ends
      rw [Bool.eq_false_iff.2 hsign] at hread
      refine ⟨c', ?_, hafter⟩
      rw [if_neg (hne _ (by decide)), if_neg (hne _ (by decide)), if_neg (hne _ (by decide)),
        if_neg (hne _ (by decide)), if_pos hdigit, hread]
      rfl
  | string s =>
    cases hvalue
    obtain ⟨mid, heq, hs⟩ := hwritten
    cases heq
    rw [← after_rest c.skipBlanks 0x22 tail] at hs
    obtain ⟨c', hread, hafter⟩ := stringBody_complete hs
    refine ⟨c', ?_, hafter⟩
    show (stringBody _).map _ = _
    rw [hread]
    rfl
  | array elements => cases hnesting
  | object members => cases hnesting

end Values

theorem written_shrinks {t : Tree} {start stop : Bytes} (h : Written strictly t start stop) :
    stop.length < start.length :=
  h.length_lt fun _ _ _ => Characters.length_lt

/-- Any value is read by the grammar. -/
theorem value_follows (depth : Nat) :
    Follows (value depth) (fun t => Spaced (Written strictly t)) (Tree.Means depth) := by
  have scalar : ∀ {depth : Nat} (t : Tree) (x : Json), t.nesting = 0 → t.value? = some x →
      t.Means depth x := fun t x hnesting hvalue => ⟨by rw [hnesting]; exact Nat.zero_le _, hvalue⟩
  -- on the levels that are left, of which what stands in brackets takes one
  induction depth with
  | zero =>
    refine ⟨fun h => valueWith_sound scalar (fun _ h => by cases h) (fun _ h => by cases h) h, ?_⟩
    intro c t x after hmeans h ends
    exact valueWith_complete hmeans.2 (Nat.eq_zero_of_le_zero hmeans.1) h ends
  | succ depth ih =>
    have helements := elements_follows ih (fun _ _ _ => Written.begun) fun _ _ _ => written_shrinks
    have hmembers := membersBody_follows ih fun _ _ _ => written_shrinks
    refine ⟨fun h => valueWith_sound scalar ?_ ?_ h, ?_⟩
    · intro c c' x tail hc h
      obtain ⟨⟨xs, c₁⟩, hread, heq⟩ := map_eq_ok h
      cases heq
      obtain ⟨ts, hall, hlisted⟩ := helements.sound hread
      rw [next_rest hc] at hlisted
      refine ⟨.array ts, Tree.means_array_iff.2 ⟨xs, hall, rfl⟩, tail, hc, ?_⟩
      rw [elementRules_eq_map]
      exact hlisted
    · intro c c' x tail hc h
      obtain ⟨⟨ms, c₁⟩, hread, heq⟩ := map_eq_ok h
      cases heq
      obtain ⟨ts, ⟨entries, hall, hentries⟩, hlisted⟩ := hmembers.sound hread
      rw [next_rest hc] at hlisted
      refine ⟨.object ts, Tree.means_object_iff.2 ⟨entries, hall, congrArg _ hentries.symm⟩, tail,
        hc, ?_⟩
      rw [memberRules_eq_map]
      exact hlisted
    · intro c t x after hmeans h ends
      cases t with
      | array elements =>
        obtain ⟨start, hblanks, mid, rfl, hlisted⟩ := h
        obtain ⟨xs, hall, rfl⟩ := Tree.means_array_iff.1 hmeans
        have hrest := hblanks.skipBlanks_eq (show isBlank 0x5B = false by decide)
        rw [elementRules_eq_map, ← next_rest hrest] at hlisted
        obtain ⟨c', hread, hafter⟩ := helements.complete hall hlisted ends
        refine ⟨c', ?_, hafter⟩
        rw [value, valueWith_list hrest, hread]
        rfl
      | object members =>
        obtain ⟨start, hblanks, mid, rfl, hlisted⟩ := h
        obtain ⟨entries, hall, rfl⟩ := Tree.means_object_iff.1 hmeans
        have hrest := hblanks.skipBlanks_eq (show isBlank 0x7B = false by decide)
        rw [memberRules_eq_map, ← next_rest hrest] at hlisted
        obtain ⟨c', hread, hafter⟩ := hmembers.complete ⟨entries, hall, rfl⟩ hlisted ends
        refine ⟨c', ?_, hafter⟩
        rw [value, valueWith_object hrest, hread]
        rfl
      | _ => exact valueWith_complete hmeans.2 rfl h ends

/-! ### Documents -/

/-- Where a reader follows rules, the documents that it reads are what the rules allow, up to
blanks at the end. -/
theorem document_eq_ok_iff {α ι : Type} {reader : Nat → Cursor → Read α} {rule : ι → Rule}
    {means : ι → α → Prop} (h : Follows (reader maxDepth) rule means) {text : Bytes} {x : α} :
    document reader text = .ok x ↔
      ∃ i stop, means i x ∧ rule i text stop ∧ Blanks stop [] := by
  constructor
  · intro hread
    obtain ⟨c, hvalue, hend⟩ := document_ok hread
    obtain ⟨i, hmeans, hrule⟩ := h.sound hvalue
    refine ⟨i, c.rest, hmeans, hrule, ?_⟩
    have hblanks := blanks_dropWhile c.rest
    rwa [hend] at hblanks
  · rintro ⟨i, stop, hmeans, hrule, hblanks⟩
    obtain ⟨c, hread, rfl⟩ := h.complete (c := .start text) hmeans hrule (hblanks.ends ends_nil)
    have hend : c.skipBlanks.rest = [] := by
      rw [skipBlanks_rest, hblanks.dropWhile]
      rfl
    unfold document
    simp only [hread, hend, List.isEmpty_nil, if_true]

/-- A text is read as a value exactly if it is a document of a tree that is not nested too deep and
has no number that is too large, and that is the value of the tree. -/
theorem parse_eq_ok_iff {text : Bytes} {x : Json} :
    parse text = .ok x ↔ ∃ t, IsDocument t text ∧ t.Means maxDepth x := by
  unfold parse
  rw [document_eq_ok_iff (value_follows maxDepth)]
  constructor
  · rintro ⟨t, stop, hmeans, ⟨start, hblanks, hwritten⟩, hend⟩
    exact ⟨t, ⟨start, stop, hblanks, hwritten, hend⟩, hmeans⟩
  · rintro ⟨t, ⟨start, stop, hblanks, hwritten, hend⟩, hmeans⟩
    exact ⟨t, stop, hmeans, ⟨start, hblanks, hwritten⟩, hend⟩

theorem parse_eq_error_iff {text : Bytes} :
    (∃ failure, parse text = .error failure) ↔ ¬∃ t, IsDocument t text ∧ t.IsReadable := by
  constructor
  · rintro ⟨failure, hfail⟩ ⟨t, document, x, hmeans⟩
    rw [parse_eq_ok_iff.2 ⟨t, document, hmeans⟩] at hfail
    cases hfail
  · intro hnone
    cases hparse : parse text with
    | error failure => exact ⟨failure, rfl⟩
    | ok x =>
      obtain ⟨t, document, hmeans⟩ := parse_eq_ok_iff.1 hparse
      exact (hnone ⟨t, document, x, hmeans⟩).elim

end QuerySwarm.Json
