import QuerySwarm.Proofs.Json.Skipping
import QuerySwarm.Request.Reader

/-!
# The format of requests

A request is an object with one member for its query and at most one for its variables, or an array of
the query and, if they are given, the variables. Members of other names are passed over, so that
their values may be such as could not be read (`Form`).

For a document that is not nested too deep, what matters is its tree (`Asks`).

* `parse_eq_ok_iff_form`: which texts are requests, and of what.
* `parse_eq_ok_iff_tree`: which documents are.
-/

namespace QuerySwarm

open Json Cursor

namespace Json

/-! ### Readers of one kind of value -/

theorem text_follows : Follows text (fun s => Spaced (Quoted strictly s)) Eq where
  sound := by
    intro c c' x h
    have hblanks := blanks_skipBlanks c
    unfold text at h
    dsimp only at h
    split at h
    · cases h
    · next b rest hrest =>
      split at h
      · next hb =>
        have hcharacters := characters_of_stringBody h
        rw [after_rest] at hcharacters
        exact ⟨x, rfl, _, hblanks, rest, by rw [hrest, hb], hcharacters⟩
      · cases h
  complete := by
    rintro c s _ after rfl ⟨start, hblanks, mid, rfl, hs⟩ -
    have hrest := hblanks.skipBlanks_eq (show isBlank 0x22 = false by decide)
    rw [← after_rest c.skipBlanks 0x22 mid] at hs
    obtain ⟨c', hread, hafter⟩ := stringBody_complete hs
    refine ⟨c', ?_, hafter⟩
    unfold text
    simp only [hrest, if_true, hread]

/-- The members of a map are those of an object. -/
theorem map_follows (depth : Nat) :
    Follows (map depth) (fun ms => Spaced (Written strictly (.object ms)))
      (fun ms members => (Tree.object ms).Means depth (.object members)) where
  sound := by
    intro c c' members h
    have hblanks := blanks_skipBlanks c
    unfold map at h
    dsimp only at h
    split at h
    · cases h
    · next b rest hrest =>
      split at h
      · next hb =>
        cases depth with
        | zero => cases h
        | succ depth =>
          obtain ⟨ms, ⟨entries, hall, rfl⟩, hlisted⟩ :=
            (membersBody_follows (value_follows depth) fun _ _ _ => written_shrinks).sound h
          rw [after_rest] at hlisted
          refine ⟨ms, Tree.means_object_iff.2 ⟨entries, hall, rfl⟩, _, hblanks, rest,
            by rw [hrest, hb]; rfl, ?_⟩
          rwa [memberRules_eq_map]
      · cases h
  complete := by
    rintro c ms members after hmeans ⟨start, hblanks, mid, rfl, hlisted⟩ ends
    have hrest := hblanks.skipBlanks_eq (show isBlank 0x7B = false by decide)
    cases depth with
    | zero => exact absurd hmeans.1 (Nat.not_succ_le_zero _)
    | succ depth =>
      obtain ⟨entries, hall, heq⟩ := Tree.means_object_iff.1 hmeans
      cases heq
      rw [memberRules_eq_map, ← after_rest c.skipBlanks 0x7B mid] at hlisted
      obtain ⟨c', hread, hafter⟩ :=
        (membersBody_follows (value_follows depth) fun _ _ _ => written_shrinks).complete
          ⟨entries, hall, rfl⟩ hlisted ends
      refine ⟨c', ?_, hafter⟩
      unfold map
      simp only [hrest, Bracket.opening, if_true, hread]

end Json

namespace Request

/-! ### What a request may be -/

/-- A member of a request. -/
inductive Part where
  | query (s : String)
  | bindings (members : List (String × Tree))
  | other (key : String) (value : Tree)

namespace Part

/-- How a member is written: the value of one that is passed over loosely. -/
def rule : Part → Rule
  | query s => Member strictly "query" (Quoted strictly s)
  | bindings ms => Member strictly "variables" (Written strictly (.object ms))
  | other key value => Member strictly key (Written loosely value)

def query? : Part → Option String
  | query s => some s
  | _ => none

def bindings? : Part → Option (List (String × Tree))
  | bindings ms => some ms
  | _ => none

/-- Whether a member that is passed over has a name of its own. -/
def Named : Part → Prop
  | other key _ => key ≠ "query" ∧ key ≠ "variables"
  | _ => True

end Part

/-- The two forms of a request. -/
inductive Form where
  | byName (parts : List Part)
  | byPosition (query : String) (given : Option (List (String × Tree)))

namespace Form

def rule : Form → Rule
  | byName parts => Enclosed .object (parts.map Part.rule)
  | byPosition s given =>
    Enclosed .list (Quoted strictly s :: given.toList.map fun ms => Written strictly (.object ms))

/-- The variables that are given, if they are given. -/
def Binds (given : Option (List (String × Tree))) (bindings : Members) : Prop :=
  match given with
  | none => bindings = []
  | some ms => (Tree.object ms).Means 126 (.object bindings)

/-- The request that a form stands for. -/
def Gives (r : Request) : Form → Prop
  | byName parts => (∀ p ∈ parts, p.Named) ∧ parts.filterMap Part.query? = [r.query] ∧
      ∃ given : Option (List (String × Tree)),
        parts.filterMap Part.bindings? = given.toList ∧ Binds given r.bindings
  | byPosition s given => s = r.query ∧ Binds given r.bindings

end Form

/-! ### Members by their names -/

/-- What is read of a member. -/
def step (depth : Nat) (s : Fields) (p : Part) (s' : Fields) : Prop :=
  match p with
  | .query q => s.query = none ∧ s' = { s with query := some q }
  | .bindings ms => s.bindings = none ∧ ∃ members,
      (Tree.object ms).Means depth (.object members) ∧ s' = { s with bindings := some members }
  | .other key _ => (key ≠ "query" ∧ key ≠ "variables") ∧ s' = s

section Slots

variable {σ α ι : Type} {slot : Slot α} {reader : Cursor → Read α} {store : α → σ}
  {rule : ι → Rule} {means : ι → α → Prop} {c c' : Cursor} {s' : σ}

/-- What is read into a slot goes by the rules of its reader, and the slot was free. -/
theorem fillSlot_sound (h : Follows reader rule means) {reader' : Cursor → Read σ}
    (haction : fillSlot slot reader store = .read reader') (hread : reader' c = .ok (s', c')) :
    slot = none ∧ ∃ i x, means i x ∧ s' = store x ∧ rule i c.rest c'.rest := by
  cases slot with
  | some x => cases haction
  | none =>
    cases haction
    obtain ⟨⟨x, c''⟩, hx, heq⟩ := map_eq_ok hread
    cases heq
    obtain ⟨i, hmeans, hrule⟩ := h.sound hx
    exact ⟨rfl, i, x, hmeans, rfl, hrule⟩

theorem fillSlot_complete (h : Follows reader rule means) (hslot : slot = none) {i : ι} {x : α}
    {after : Bytes} (hmeans : means i x) (hrule : rule i c.rest after) (ends : Ends after) :
    ∃ reader' c', fillSlot slot reader store = .read reader' ∧ reader' c = .ok (store x, c') ∧
      c'.rest = after := by
  obtain ⟨c', hread, hafter⟩ := h.complete hmeans hrule ends
  subst hslot
  exact ⟨_, c', rfl, by rw [hread]; rfl, hafter⟩

theorem fillSlot_ne_unknown : fillSlot slot reader store ≠ .unknown := by
  cases slot <;> rintro ⟨⟩

end Slots

theorem field_follows (depth : Nat) : FieldsFollow (field depth) Part.rule (step depth) where
  sound := by
    intro s s' c c' tail hquote took
    cases took with
    | @wanted key c₁ c₂ _ reader _ hkey haction hcolon hread =>
      unfold field at haction
      split at haction
      · next hname =>
        subst hname
        obtain ⟨hslot, q, _, rfl, rfl, hrule⟩ := fillSlot_sound text_follows haction hread
        exact ⟨.query q, ⟨hslot, rfl⟩, member_sound hquote hkey hcolon hrule⟩
      · split at haction
        · next hname =>
          subst hname
          obtain ⟨hslot, ms, members, hmeans, rfl, hrule⟩ :=
            fillSlot_sound (map_follows depth) haction hread
          exact ⟨.bindings ms, ⟨hslot, members, hmeans, rfl⟩,
            member_sound hquote hkey hcolon hrule⟩
        · cases haction
    | @unwanted key c₁ c₂ _ hkey haction hcolon hskip =>
      unfold field at haction
      split at haction
      · exact (fillSlot_ne_unknown haction).elim
      · next hquery =>
        split at haction
        · exact (fillSlot_ne_unknown haction).elim
        · next hvariables =>
          obtain ⟨t, hrule⟩ := skip_sound hskip
          exact ⟨.other key t, ⟨⟨hquery, hvariables⟩, rfl⟩, member_sound hquote hkey hcolon hrule⟩
  complete := by
    intro s s' p c after hstep hrule ends
    cases p with
    | query q =>
      obtain ⟨hslot, rfl⟩ := hstep
      obtain ⟨c₁, c₂, hkey, hcolon, hvalue⟩ := member_complete hrule
      obtain ⟨reader, c', hslot, hread, hafter⟩ := fillSlot_complete text_follows hslot rfl hvalue ends
      have haction : field depth s "query" = .read reader := by rw [field, if_pos rfl, hslot]
      exact ⟨c', .wanted hkey haction hcolon hread, hafter⟩
    | bindings ms =>
      obtain ⟨hslot, members, hmeans, rfl⟩ := hstep
      obtain ⟨c₁, c₂, hkey, hcolon, hvalue⟩ := member_complete hrule
      obtain ⟨reader, c', hslot, hread, hafter⟩ :=
        fillSlot_complete (map_follows depth) hslot hmeans hvalue ends
      have haction : field depth s "variables" = .read reader := by
        rw [field, if_neg (by decide), if_pos rfl, hslot]
      exact ⟨c', .wanted hkey haction hcolon hread, hafter⟩
    | other key value =>
      obtain ⟨⟨hquery, hvariables⟩, rfl⟩ := hstep
      obtain ⟨c₁, c₂, hkey, hcolon, hvalue⟩ := member_complete hrule
      obtain ⟨c', hskip, hafter⟩ := skip_complete hvalue ends
      refine ⟨c', .unwanted hkey ?_ hcolon hskip, hafter⟩
      rw [field, if_neg hquery, if_neg hvariables]
  quoted := by
    intro p start stop hrule
    cases p <;>
      · obtain ⟨_, _, _, ⟨mid, hquote, -⟩, -⟩ := hrule
        exact ⟨mid, hquote⟩
  shrinks := by
    intro p start stop hrule
    have hkey : ∀ s start stop, strictly s start stop → stop.length < start.length :=
      fun _ _ _ => Characters.length_lt
    cases p with
    | query q =>
      refine hrule.length_lt hkey fun _ _ hvalue => ?_
      exact written_shrinks (t := .string q) hvalue
    | bindings ms => exact hrule.length_lt hkey fun _ _ hvalue => written_shrinks hvalue
    | other key value =>
      exact hrule.length_lt hkey fun _ _ hvalue => hvalue.length_lt skimmed_shrinks

theorem eq_of_toList {α : Type} {x y : Option α} (h : x.toList = y.toList) : x = y := by
  cases x <;> cases y <;> cases h <;> rfl

/-- A slot that has been filled once is not filled again. -/
theorem eq_none_of_toList {α : Type} {x y : Option α} {a : α} {rest : List α}
    (h : x.toList = y.toList ++ a :: rest) : y = none := by
  cases y with
  | none => rfl
  | some b => cases x <;> cases h

/-- The query and the variables are given once at most. -/
theorem takesIn_step_iff {depth : Nat} {s s' : Fields} {parts : List Part} :
    TakesIn (step depth) s parts s' ↔
      (∀ p ∈ parts, p.Named) ∧
        s'.query.toList = s.query.toList ++ parts.filterMap Part.query? ∧
        ∃ new, List.Forall₂ (fun ms members => (Tree.object ms).Means depth (.object members))
            (parts.filterMap Part.bindings?) new ∧
          s'.bindings.toList = s.bindings.toList ++ new := by
  constructor
  · intro h
    induction h with
    | done s =>
      exact ⟨fun _ hp => absurd hp List.not_mem_nil, (List.append_nil _).symm, [], .nil,
        (List.append_nil _).symm⟩
    | @next s s₁ s' p parts hstep _ ih =>
      obtain ⟨hnamed, hquery, new, hall, hbindings⟩ := ih
      cases p with
      | query q =>
        obtain ⟨hslot, rfl⟩ := hstep
        refine ⟨List.forall_mem_cons.2 ⟨trivial, hnamed⟩, ?_, new, hall, hbindings⟩
        rw [hquery, hslot]
        rfl
      | bindings ms =>
        obtain ⟨hslot, members, hmeans, rfl⟩ := hstep
        refine ⟨List.forall_mem_cons.2 ⟨trivial, hnamed⟩, hquery, members :: new,
          .cons hmeans hall, ?_⟩
        rw [hbindings, hslot]
        rfl
      | other key value =>
        obtain ⟨hname, rfl⟩ := hstep
        exact ⟨List.forall_mem_cons.2 ⟨hname, hnamed⟩, hquery, new, hall, hbindings⟩
  · rintro ⟨hnamed, hquery, new, hall, hbindings⟩
    induction parts generalizing s new with
    | nil =>
      cases hall
      rw [List.filterMap_nil, List.append_nil] at hquery
      rw [List.append_nil] at hbindings
      obtain rfl : s' = s := by
        obtain ⟨q, b⟩ := s
        obtain ⟨q', b'⟩ := s'
        rw [Fields.mk.injEq]
        exact ⟨eq_of_toList hquery, eq_of_toList hbindings⟩
      exact .done _
    | cons p parts ih =>
      obtain ⟨hname, hothers⟩ := List.forall_mem_cons.1 hnamed
      cases p with
      | query q =>
        -- what is filled now is not filled yet, as the slot has room for one
        have hslot := eq_none_of_toList hquery
        rw [hslot] at hquery
        exact .next ⟨hslot, rfl⟩ (ih hothers hquery new hall hbindings)
      | bindings ms =>
        cases hall with
        | @cons _ members _ new hmeans hall =>
          have hslot := eq_none_of_toList hbindings
          rw [hslot] at hbindings
          exact .next ⟨hslot, members, hmeans, rfl⟩ (ih hothers hquery new hall hbindings)
      | other key value => exact .next ⟨hname, rfl⟩ (ih hothers hquery new hall hbindings)

theorem finish_eq_ok_iff {s : Fields} {r : Request} :
    finish s = .ok r ↔ s.query = some r.query ∧ s.bindings.getD [] = r.bindings := by
  obtain ⟨query, bindings⟩ := s
  obtain ⟨q, b⟩ := r
  cases query <;> simp [finish]

/-- What has been read of an object is a request if its members give one. -/
theorem gives_byName_iff {parts : List Part} {r : Request} :
    (Form.byName parts).Gives r ↔
      ∃ s, TakesIn (step 126) ⟨none, none⟩ parts s ∧ finish s = .ok r := by
  simp only [takesIn_step_iff, finish_eq_ok_iff]
  constructor
  · rintro ⟨hnamed, hquery, given, hgiven, hbinds⟩
    cases given with
    | none =>
      refine ⟨⟨some r.query, none⟩, ⟨hnamed, hquery.symm, [], ?_, rfl⟩, rfl, hbinds.symm⟩
      rw [hgiven]
      exact .nil
    | some ms =>
      refine ⟨⟨some r.query, some r.bindings⟩, ⟨hnamed, hquery.symm, [r.bindings], ?_, rfl⟩, rfl,
        rfl⟩
      rw [hgiven]
      exact .cons hbinds .nil
  · rintro ⟨⟨query, bindings⟩, ⟨hnamed, hquery, new, hall, hbindings⟩, rfl, hgiven⟩
    refine ⟨hnamed, hquery.symm, ?_⟩
    cases bindings with
    | none =>
      obtain rfl : new = [] := hbindings.symm
      exact ⟨none, List.forall₂_nil_right_iff.1 hall, hgiven.symm⟩
    | some members =>
      obtain rfl : new = [members] := hbindings.symm
      obtain rfl : members = r.bindings := hgiven
      obtain ⟨ms, rest, hmeans, hrest, hparts⟩ := List.forall₂_cons_right_iff.1 hall
      rw [List.forall₂_nil_right_iff.1 hrest] at hparts
      exact ⟨some ms, hparts, hmeans⟩

theorem listed_of_byName {c c' c'' : Cursor} {r : Request} (h : byName 126 c = .ok (r, c'))
    (hclose : closeObject c' = .ok c'') :
    ∃ parts, (Form.byName parts).Gives r ∧
      Listed .object true (parts.map Part.rule) c.rest c''.rest := by
  unfold byName at h
  split at h
  · cases h
  · next s c₃ hfields =>
    split at h
    · next hfinish =>
      cases h
      obtain ⟨parts, after, hall, hend, hlisted⟩ := fieldsFrom_sound (field_follows 126) hfields
      rw [rest_of_closeObject hclose hend]
      exact ⟨parts, gives_byName_iff.2 ⟨s, hall, hfinish⟩, hlisted⟩
    · cases h

theorem byName_complete {c : Cursor} {r : Request} {parts : List Part} {after : Bytes}
    (hgives : (Form.byName parts).Gives r)
    (listed : Listed .object true (parts.map Part.rule) c.rest after) :
    ∃ c' c'', byName 126 c = .ok (r, c') ∧ closeObject c' = .ok c'' ∧ c''.rest = after := by
  obtain ⟨s, hall, hfinish⟩ := gives_byName_iff.1 hgives
  obtain ⟨c', hfields, hend⟩ := fieldsFrom_complete (field_follows 126) hall listed
  obtain ⟨c'', hclose, hafter⟩ :=
    closeObject_ok (skipBlanks_of_visible (show isBlank 0x7D = false by decide) hend)
  refine ⟨c', c'', ?_, hclose, hafter⟩
  unfold byName
  simp only [hfields, hfinish]

/-! ### Requests by position -/

theorem listed_of_byPosition {c c' c'' : Cursor} {r : Request}
    (h : byPosition 126 c = .ok (r, c')) (hclose : closeList c' = .ok c'') :
    ∃ s given, (Form.byPosition s given).Gives r ∧
      Listed .list true
        (Quoted strictly s :: given.toList.map fun ms => Written strictly (.object ms))
        c.rest c''.rest := by
  unfold byPosition nextItem at h
  cases hnext : nextElement true c with
  | error f =>
    rw [hnext] at h
    cases h
  | ok found =>
    obtain ⟨more, c₁⟩ := found
    rw [hnext] at h
    cases more with
    | false => cases h
    | true =>
      dsimp only at h
      cases htext : text c₁ with
      | error f =>
        rw [htext] at h
        cases h
      | ok found =>
        obtain ⟨q, c₂⟩ := found
        rw [htext] at h
        dsimp only at h
        obtain ⟨q, rfl, start, hblanks, hquoted⟩ := text_follows.sound htext
        have hseparated := (separated_of_nextElement hnext).blanks hblanks
        cases hnext' : nextElement false c₂ with
        | error f =>
          rw [hnext'] at h
          cases h
        | ok found =>
          obtain ⟨more, c₃⟩ := found
          rw [hnext'] at h
          cases more with
          | false =>
            cases h
            obtain ⟨after, hrest, hend⟩ := blanks_of_nextElement hnext'
            rw [rest_of_closeList hclose hrest]
            exact ⟨q, none, ⟨rfl, rfl⟩, start, c₂.rest, hseparated, hquoted, hend⟩
          | true =>
            dsimp only at h
            cases hmap : map 126 c₃ with
            | error f =>
              rw [hmap] at h
              cases h
            | ok found =>
              obtain ⟨members, c₄⟩ := found
              rw [hmap] at h
              cases h
              obtain ⟨ms, hmeans, start', hblanks', hobject⟩ := (map_follows 126).sound hmap
              exact ⟨q, some ms, ⟨rfl, hmeans⟩, start, c₂.rest, hseparated, hquoted, start', c'.rest,
                (separated_of_nextElement hnext').blanks hblanks', hobject,
                blanks_of_closeList hclose⟩

theorem byPosition_complete {c : Cursor} {r : Request} {s : String}
    {given : Option (List (String × Tree))} {after : Bytes}
    (hgives : (Form.byPosition s given).Gives r)
    (listed : Listed .list true
      (Quoted strictly s :: given.toList.map fun ms => Written strictly (.object ms))
      c.rest after) :
    ∃ c' c'', byPosition 126 c = .ok (r, c') ∧ closeList c' = .ok c'' ∧ c''.rest = after := by
  obtain ⟨rfl, hbinds⟩ := hgives
  obtain ⟨start, stop, hseparated, hquoted, hrest⟩ := listed
  have hbegun : Begun start := Written.begun (t := .string r.query) hquoted
  obtain ⟨c₁, hnext, rfl⟩ := nextElement_complete hseparated hbegun
  obtain ⟨c₂, htext, rfl⟩ :=
    text_follows.complete rfl ⟨c₁.rest, .none _, hquoted⟩ hrest.ends
  unfold byPosition nextItem
  simp only [hnext, htext]
  cases given with
  | none =>
    have hend := Blanks.skipBlanks_eq hrest (show isBlank 0x5D = false by decide)
    obtain ⟨c'', hclose, hafter⟩ :=
      closeList_ok (skipBlanks_of_visible (show isBlank 0x5D = false by decide) hend)
    refine ⟨c₂.skipBlanks, c'', ?_, hclose, hafter⟩
    simp only [nextElement_close hend]
    obtain ⟨query, bindings⟩ := r
    obtain rfl : bindings = [] := hbinds
    rfl
  | some ms =>
    obtain ⟨start', stop', hseparated', hobject, hend⟩ := hrest
    obtain ⟨c₃, hnext', rfl⟩ := nextElement_complete hseparated' hobject.begun
    obtain ⟨c₄, hmap, rfl⟩ := (map_follows 126).complete hbinds ⟨c₃.rest, .none _, hobject⟩
      (Blanks.ends hend (ends_cons (by decide) (by decide)))
    obtain ⟨c'', hclose, hafter⟩ := closeList_complete hend
    refine ⟨c₄, c'', ?_, hclose, hafter⟩
    simp only [hnext', hmap]
    rfl

/-! ### Requests -/

/-- What is read as a request is in one of the two forms. -/
theorem read_follows : Follows (read maxDepth) (fun form : Form => Spaced form.rule)
    (fun form r => form.Gives r) where
  sound := by
    intro c c' r h
    have hblanks := blanks_skipBlanks c
    have hrecord : record "GraphqlRequest" byPosition byName (126 + 1) c = .ok (r, c') := h
    rcases record_cases hrecord with ⟨rest, c₁, hrest, hinside, hclose⟩ |
      ⟨rest, c₁, hrest, hinside, hclose⟩
    · obtain ⟨s, given, hgives, hlisted⟩ := listed_of_byPosition hinside hclose
      rw [after_rest] at hlisted
      exact ⟨.byPosition s given, hgives, _, hblanks, rest, hrest, hlisted⟩
    · obtain ⟨parts, hgives, hlisted⟩ := listed_of_byName hinside hclose
      rw [after_rest] at hlisted
      exact ⟨.byName parts, hgives, _, hblanks, rest, hrest, hlisted⟩
  complete := by
    rintro c form r after hgives ⟨start, hblanks, hrule⟩ -
    cases form with
    | byPosition s given =>
      obtain ⟨mid, rfl, hlisted⟩ := hrule
      have hrest := hblanks.skipBlanks_eq (show isBlank 0x5B = false by decide)
      rw [← after_rest c.skipBlanks 0x5B mid] at hlisted
      obtain ⟨c₁, c', hread, hclose, hafter⟩ := byPosition_complete hgives hlisted
      exact ⟨c', record_byPosition hrest hread hclose, hafter⟩
    | byName parts =>
      obtain ⟨mid, rfl, hlisted⟩ := hrule
      have hrest := hblanks.skipBlanks_eq (show isBlank 0x7B = false by decide)
      rw [← after_rest c.skipBlanks 0x7B mid] at hlisted
      obtain ⟨c₁, c', hread, hclose, hafter⟩ := byName_complete hgives hlisted
      exact ⟨c', record_byName hrest hread hclose, hafter⟩

/-- The texts that are requests. -/
theorem parse_eq_ok_iff_form {content : Bytes} {r : Request} :
    parse content = .ok r ↔ ∃ (form : Form) (start stop : Bytes), form.Gives r ∧ Blanks content start ∧
      form.rule start stop ∧ Blanks stop [] := by
  unfold parse
  rw [document_eq_ok_iff read_follows]
  constructor
  · rintro ⟨form, stop, hgives, ⟨start, hblanks, hrule⟩, hend⟩
    exact ⟨form, start, stop, hgives, hblanks, hrule, hend⟩
  · rintro ⟨form, start, stop, hgives, hblanks, hrule, hend⟩
    exact ⟨form, stop, hgives, ⟨start, hblanks, hrule⟩, hend⟩

/-- The variables of a request that is read are those that its text gives. -/
theorem binds_of_parse {content : Bytes} {r : Request} (h : parse content = .ok r) :
    ∃ given, Form.Binds given r.bindings := by
  obtain ⟨form, -, -, hgives, -⟩ := parse_eq_ok_iff_form.1 h
  cases form with
  | byName parts => exact hgives.2.2.imp fun _ hgiven => hgiven.2
  | byPosition s given => exact ⟨given, hgives.2⟩

/-! ### Documents that are requests -/

/-- The query of a document and the variables that are given in it, if it is a request: an object in
which both have members of their own, the variables at most one, or an array of them. -/
def Asks (query : String) (given : Option (List (String × Tree))) : Tree → Prop
  | .object members => members.filter (·.1 = "query") = [("query", .string query)] ∧
      members.filter (·.1 = "variables") = given.toList.map fun vs => ("variables", .object vs)
  | .array elements => elements = .string query :: given.toList.map .object
  | _ => False

/-- Whether a part is this member. -/
def Part.Is : Part → String × Tree → Prop
  | query s, m => m = ("query", .string s)
  | bindings vs, m => m = ("variables", .object vs)
  | other key _, m => m.1 = key

theorem Part.agree {p : Part} {m : String × Tree} {start stop stop' : Bytes}
    (h : p.rule start stop) (h' : Member strictly m.1 (Written strictly m.2) start stop')
    (ends : Ends stop) (ends' : Ends stop') : stop = stop' ∧ p.Is m := by
  have strict : ∀ {key : String} {t : Tree}, Member strictly key (Written strictly t) start stop →
      stop = stop' ∧ key = m.1 ∧ t = m.2 := fun hmember =>
    hmember.agree (fun _ _ => Written.begun) (fun _ _ => Written.begun)
      (fun _ _ _ hw hw' hends hends' => (hw.unique hw' hends hends').symm) h' ends ends'
  cases p with
  | query s =>
    obtain ⟨hstop, hkey, hvalue⟩ := strict (t := .string s) h
    exact ⟨hstop, Prod.ext hkey.symm hvalue.symm⟩
  | bindings vs =>
    obtain ⟨hstop, hkey, hvalue⟩ := strict h
    exact ⟨hstop, Prod.ext hkey.symm hvalue.symm⟩
  | other key value =>
    obtain ⟨hstop, hkey, -⟩ := Member.agree (R := True) (fun _ _ => Written.begun)
      (fun _ _ => Written.begun) (fun _ _ _ hw hw' hends hends' =>
        ⟨hw.stop_unique (hw'.mono loosely_of_strictly) hends hends', trivial⟩) h h' ends ends'
    exact ⟨hstop, hkey.symm⟩

theorem Part.begun {p : Part} {start stop : Bytes} (h : p.rule start stop) : Begun start := by
  cases p <;> exact Member.begun h

/-- The members for the query and for the variables are the parts for them. -/
theorem filter_of_parts {parts : List Part} {ms : List (String × Tree)}
    (h : List.Forall₂ Part.Is parts ms) (named : ∀ p ∈ parts, p.Named) :
    ms.filter (·.1 = "query") =
        (parts.filterMap Part.query?).map (fun s => ("query", .string s)) ∧
      ms.filter (·.1 = "variables") =
        (parts.filterMap Part.bindings?).map fun vs => ("variables", .object vs) := by
  induction h with
  | nil => exact ⟨rfl, rfl⟩
  | @cons p m parts ms hp _ ih =>
    obtain ⟨hname, hothers⟩ := List.forall_mem_cons.1 named
    obtain ⟨hquery, hbindings⟩ := ih hothers
    cases p with
    | query s =>
      obtain rfl : m = ("query", .string s) := hp
      rw [List.filter_cons_of_pos (by simp), List.filter_cons_of_neg (by simp), hquery, hbindings]
      exact ⟨rfl, rfl⟩
    | bindings vs =>
      obtain rfl : m = ("variables", .object vs) := hp
      rw [List.filter_cons_of_neg (by simp), List.filter_cons_of_pos (by simp), hquery, hbindings]
      exact ⟨rfl, rfl⟩
    | other key value =>
      obtain rfl : m.1 = key := hp
      rw [List.filter_cons_of_neg (by simpa using hname.1),
        List.filter_cons_of_neg (by simpa using hname.2), hquery, hbindings]
      exact ⟨rfl, rfl⟩

/-- The part that a member of a document is. -/
def partOf (m : String × Tree) : Part :=
  if m.1 = "query" then
    match m.2 with
    | .string s => .query s
    | value => .other m.1 value
  else if m.1 = "variables" then
    match m.2 with
    | .object vs => .bindings vs
    | value => .other m.1 value
  else .other m.1 m.2

theorem partOf_is (m : String × Tree) : (partOf m).Is m := by
  obtain ⟨key, value⟩ := m
  unfold partOf
  split
  · next hkey =>
    obtain rfl : key = "query" := hkey
    cases value <;> rfl
  · split
    · next hkey =>
      obtain rfl : key = "variables" := hkey
      cases value <;> rfl
    · rfl

theorem partOf_rule {m : String × Tree} {start stop : Bytes}
    (h : Member strictly m.1 (Written strictly m.2) start stop) : (partOf m).rule start stop := by
  obtain ⟨key, value⟩ := m
  have hloose : Member strictly key (Written loosely value) start stop :=
    h.mono (fun _ _ _ hs => hs) fun _ _ hvalue => hvalue.mono loosely_of_strictly
  unfold partOf
  split
  · next hkey =>
    obtain rfl : key = "query" := hkey
    cases value with
    | string s => exact h
    | _ => exact hloose
  · split
    · next hkey =>
      obtain rfl : key = "variables" := hkey
      cases value with
      | object vs => exact h
      | _ => exact hloose
    · exact hloose

/-- Where the query is a string and the variables are an object, all other members have names of
their own. -/
theorem partOf_named {ms : List (String × Tree)} {query : String}
    {given : Option (List (String × Tree))}
    (hquery : ms.filter (·.1 = "query") = [("query", .string query)])
    (hbindings : ms.filter (·.1 = "variables") =
      given.toList.map fun vs => ("variables", Tree.object vs)) :
    ∀ p ∈ ms.map partOf, p.Named := by
  rintro p hp
  obtain ⟨m, hm, rfl⟩ := List.mem_map.1 hp
  by_cases hq : m.1 = "query"
  · have hmem : m ∈ ms.filter (·.1 = "query") := List.mem_filter.2 ⟨hm, decide_eq_true hq⟩
    rw [hquery] at hmem
    obtain rfl := List.mem_singleton.1 hmem
    exact trivial
  · by_cases hb : m.1 = "variables"
    · have hmem : m ∈ ms.filter (·.1 = "variables") := List.mem_filter.2 ⟨hm, decide_eq_true hb⟩
      rw [hbindings] at hmem
      obtain ⟨vs, -, rfl⟩ := List.mem_map.1 hmem
      exact trivial
    · unfold partOf
      rw [if_neg hq, if_neg hb]
      exact ⟨hq, hb⟩

theorem Form.begun {form : Form} {start stop : Bytes} (h : form.rule start stop) : Begun start := by
  cases form <;>
    · obtain ⟨mid, rfl, -⟩ := h
      exact ⟨_, mid, rfl, by decide, by decide, by decide⟩

/-- The variables that a document gives, if it gives any, as a request stores them. -/
def Stores (given : Option (List (String × Tree))) (bindings : Members) : Prop :=
  match given with
  | none => bindings = []
  | some vs => (Tree.object vs).value? = some (.object bindings)

theorem Form.Binds.stores {given : Option (List (String × Tree))} {bindings : Members}
    (h : Binds given bindings) : Stores given bindings := by
  cases given with
  | none => exact h
  | some vs => exact h.2

/-- The tree of a document that is read as a request. -/
theorem asks_of_parse {t : Tree} {content : Bytes} (document : IsDocument t content) {r : Request}
    (h : parse content = .ok r) : ∃ given, Asks r.query given t ∧ Stores given r.bindings := by
  obtain ⟨start, stop, hblanks, hwritten, hend⟩ := document
  obtain ⟨form, start', stop', hgives, hblanks', hrule, hend'⟩ := parse_eq_ok_iff_form.1 h
  have ends := hend.ends ends_nil
  have ends' := hend'.ends ends_nil
  -- both ways to read the content begin at its first byte that is no blank
  obtain rfl : start = start' := by
    obtain ⟨b, tail, rfl, hb, -⟩ := hwritten.begun
    obtain ⟨b', tail', rfl, hb', -⟩ := Form.begun hrule
    exact hblanks.unique hblanks' hb hb'
  cases form with
  | byPosition s given =>
    obtain ⟨rfl, hbinds⟩ := hgives
    refine ⟨given, ?_, hbinds.stores⟩
    have harray : Written strictly (.array (.string r.query :: given.toList.map .object))
        start stop' := by
      rw [Written, elementRules_eq_map, List.map_cons, List.map_map]
      exact hrule
    obtain ⟨rfl, -⟩ := hwritten.unique harray ends ends'
    rfl
  | byName parts =>
    obtain ⟨hnamed, hquery, given, hgiven, hbinds⟩ := hgives
    obtain ⟨mid, rfl, hlisted⟩ := hrule
    obtain ⟨b, tail, heq, hkind⟩ := hwritten.exists_first
    cases heq
    cases t with
    | object ms =>
      obtain ⟨mid', heq, hlisted'⟩ := hwritten
      cases heq
      rw [memberRules_eq_map] at hlisted'
      obtain ⟨hall, -⟩ := hlisted.align (R := Part.Is) (fun _ _ _ _ => Part.begun)
        (fun _ _ _ _ => Member.begun) (fun _ _ _ _ _ _ _ => Part.agree) hlisted'
      obtain ⟨hq, hb⟩ := filter_of_parts hall hnamed
      rw [hquery] at hq
      rw [hgiven] at hb
      exact ⟨given, ⟨hq, hb⟩, hbinds.stores⟩
    | _ => cases hkind

/-- A document that is not nested too deep is a request if its tree is one. -/
theorem parse_eq_ok_iff_tree {t : Tree} {content : Bytes} (document : IsDocument t content)
    (hnesting : t.nesting ≤ maxDepth) {r : Request} :
    parse content = .ok r ↔ ∃ given, Asks r.query given t ∧ Stores given r.bindings := by
  refine ⟨asks_of_parse document, ?_⟩
  rw [parse_eq_ok_iff_form]
  obtain ⟨start, stop, hblanks, hwritten, hend⟩ := document
  rintro ⟨given, hasks, hgiven⟩
  cases t with
  | object ms =>
    obtain ⟨hq, hb⟩ := hasks
    obtain ⟨mid, rfl, hlisted⟩ := hwritten
    rw [memberRules_eq_map] at hlisted
    have hall : List.Forall₂ Part.Is (ms.map partOf) ms := by
      rw [List.forall₂_map_left_iff, List.forall₂_same]
      exact fun m _ => partOf_is m
    obtain ⟨hquery, hbindings⟩ := filter_of_parts hall (partOf_named hq hb)
    rw [hq] at hquery
    rw [hb] at hbindings
    have hinside : ∀ {vs}, given = some vs → ("variables", Tree.object vs) ∈ ms := by
      rintro vs rfl
      have hmem : ("variables", Tree.object vs) ∈ ms.filter (·.1 = "variables") := by
        rw [hb]
        exact List.mem_singleton_self _
      exact (List.mem_filter.1 hmem).1
    refine ⟨.byName (ms.map partOf), _, stop, ⟨partOf_named hq hb, ?_, given, ?_, ?_⟩, hblanks,
      ⟨mid, rfl, ?_⟩, hend⟩
    · obtain ⟨q, hparts, hvalue⟩ := List.map_eq_singleton_iff.1 hquery.symm
      cases hvalue
      exact hparts
    · refine (List.map_injective_iff.2 ?_ hbindings).symm
      rintro vs vs' ⟨⟩
      rfl
    · cases given with
      | none => exact hgiven
      | some vs =>
        have hlevels : Tree.nestingOfMembers ms ≤ 126 := Nat.le_of_succ_le_succ hnesting
        exact ⟨Tree.nestingOfMembers_le_iff.1 hlevels _ (hinside rfl), hgiven⟩
    · refine hlisted.mono ?_
      rw [List.forall₂_map_left_iff, List.forall₂_map_right_iff, List.forall₂_map_right_iff,
        List.forall₂_same]
      exact fun m _ _ _ hm => partOf_rule hm
  | array ts =>
    obtain rfl : ts = .string r.query :: given.toList.map .object := hasks
    have hrule : (Form.byPosition r.query given).rule start stop := by
      rw [Written, elementRules_eq_map, List.map_cons, List.map_map] at hwritten
      exact hwritten
    refine ⟨.byPosition r.query given, start, stop, ⟨rfl, ?_⟩, hblanks, hrule, hend⟩
    cases given with
    | none => exact hgiven
    | some vs =>
      have hlevels : Tree.nestingOfElements [.string r.query, .object vs] ≤ 126 :=
        Nat.le_of_succ_le_succ hnesting
      exact ⟨Tree.nestingOfElements_le_iff.1 hlevels _
        (List.mem_cons_of_mem _ (List.mem_singleton_self _)), hgiven⟩
  | _ => exact hasks.elim

end Request

end QuerySwarm
