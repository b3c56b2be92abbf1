import QuerySwarm.Proofs.Json.Grammar
import QuerySwarm.Proofs.Json.RoundTrip

/-!
# Readers that go by rules

A reader follows a family of rules if it reads what one of them allows, and nothing else. Where the
reader of an item follows the rules of items, the reader of a list of them follows the rules of lists.
The fields of a record are taken in one after the other, each of which may change what has been read
so far; an object of any members is such a record.

* `Follows`, `elements_follows`: lists.
* `FieldsFollow`, `fieldsFrom_sound`, `fieldsFrom_complete`: the fields of a record.
* `membersBody_follows`: objects of any members.
* `record_cases`: records by position and by name.
-/

namespace QuerySwarm.Json

open Cursor

/-! ### Readers and rules -/

/-- A rule with blanks before it. -/
def Spaced (rule : Rule) : Rule := fun before after =>
  ∃ start, Blanks before start ∧ rule start after

/-- A reader takes what one of the rules allows, and gives what that rule means. -/
structure Follows {α ι : Type} (reader : Cursor → Read α) (rule : ι → Rule)
    (means : ι → α → Prop) : Prop where
  sound : ∀ {c c' x}, reader c = .ok (x, c') → ∃ i, means i x ∧ rule i c.rest c'.rest
  complete : ∀ {c i x after}, means i x → rule i c.rest after → Ends after →
    ∃ c', reader c = .ok (x, c') ∧ c'.rest = after

theorem map_eq_ok {ε α β : Type} {f : α → β} {r : Except ε α} {y : β} (h : r.map f = .ok y) :
    ∃ x, r = .ok x ∧ f x = y := by
  cases r with
  | error e => cases h
  | ok x => exact ⟨x, rfl, Except.ok.inj h⟩

/-! ### Brackets and commas -/

section Brackets

variable {first : Bool} {c c' : Cursor}

/-- What `nextElement` says is so, and the other way round. -/
theorem blanks_of_nextElement (h : nextElement first c = .ok (false, c')) :
    ∃ after, c'.rest = 0x5D :: after ∧ Blanks c.rest (0x5D :: after) := by
  have hblanks := blanks_skipBlanks c
  unfold nextElement at h
  dsimp only at h
  split at h
  · cases h
  · next b rest hrest =>
    split at h
    · next hb =>
      cases h
      rw [hrest, hb] at hblanks
      exact ⟨rest, by rw [hrest, hb], hblanks⟩
    · split at h
      · cases h
      · split at h
        · split at h
          · cases h
          · split at h <;> cases h
        · cases h

theorem separated_of_nextElement (h : nextElement first c = .ok (true, c')) :
    Separated first c.rest c'.rest := by
  have hblanks := blanks_skipBlanks c
  unfold nextElement at h
  dsimp only at h
  split at h
  · cases h
  · next b rest hrest =>
    split at h
    · cases h
    · split at h
      · next hfirst =>
        cases h
        rw [hfirst]
        exact hblanks
      · next hfirst =>
        rw [Bool.eq_false_iff.2 hfirst]
        split at h
        · next hb =>
          have hnext := blanks_skipBlanks (c.skipBlanks.after b rest)
          rw [after_rest] at hnext
          rw [hrest, hb] at hblanks
          split at h
          · cases h
          · split at h
            · cases h
            · cases h
              exact ⟨rest, hblanks, hnext⟩
        · cases h

theorem nextElement_complete {start : Bytes} (h : Separated first c.rest start)
    (begun : Begun start) : ∃ c', nextElement first c = .ok (true, c') ∧ c'.rest = start := by
  obtain ⟨b, tail, rfl, hb, hclose, -⟩ := begun
  cases first with
  | true =>
    have hrest := Blanks.skipBlanks_eq h hb
    exact ⟨c.skipBlanks, nextElement_first hrest hclose, hrest⟩
  | false =>
    obtain ⟨mid, hcomma, hblanks⟩ := h
    have hrest := hcomma.skipBlanks_eq (by decide)
    rw [← after_rest c.skipBlanks 0x2C mid] at hblanks
    have hnext := hblanks.skipBlanks_eq hb
    exact ⟨_, nextElement_comma hrest hnext hclose, hnext⟩

theorem blanks_of_nextKey (h : nextKey first c = .ok (false, c')) :
    ∃ after, c'.rest = 0x7D :: after ∧ Blanks c.rest (0x7D :: after) := by
  have hblanks := blanks_skipBlanks c
  unfold nextKey at h
  dsimp only at h
  split at h
  · cases h
  · next b rest hrest =>
    split at h
    · next hb =>
      cases h
      rw [hrest, hb] at hblanks
      exact ⟨rest, by rw [hrest, hb], hblanks⟩
    · split at h
      · split at h <;> cases h
      · split at h
        · split at h
          · cases h
          · split at h
            · cases h
            · split at h <;> cases h
        · cases h

theorem separated_of_nextKey (h : nextKey first c = .ok (true, c')) :
    Separated first c.rest c'.rest ∧ ∃ tail, c'.rest = 0x22 :: tail := by
  have hblanks := blanks_skipBlanks c
  unfold nextKey at h
  dsimp only at h
  split at h
  · cases h
  · next b rest hrest =>
    split at h
    · cases h
    · split at h
      · next hfirst =>
        split at h
        · next hb =>
          cases h
          rw [hfirst]
          exact ⟨hblanks, rest, by rw [hrest, hb]⟩
        · cases h
      · next hfirst =>
        rw [Bool.eq_false_iff.2 hfirst]
        split at h
        · next hb =>
          have hnext := blanks_skipBlanks (c.skipBlanks.after b rest)
          rw [after_rest] at hnext
          rw [hrest, hb] at hblanks
          split at h
          · cases h
          · next b' tail htail =>
            split at h
            · next hb' =>
              cases h
              exact ⟨⟨rest, hblanks, hnext⟩, tail, by rw [htail, hb']⟩
            · split at h <;> cases h
        · cases h

theorem nextKey_complete {tail : Bytes} (h : Separated first c.rest (0x22 :: tail)) :
    ∃ c', nextKey first c = .ok (true, c') ∧ c'.rest = 0x22 :: tail := by
  cases first with
  | true =>
    have hrest := Blanks.skipBlanks_eq h (by decide)
    exact ⟨c.skipBlanks, nextKey_first hrest, hrest⟩
  | false =>
    obtain ⟨mid, hcomma, hblanks⟩ := h
    have hrest := hcomma.skipBlanks_eq (by decide)
    rw [← after_rest c.skipBlanks 0x2C mid] at hblanks
    have hnext := hblanks.skipBlanks_eq (by decide)
    exact ⟨_, nextKey_comma hrest hnext, hnext⟩

theorem blanks_of_colon (h : colon c = .ok c') : Blanks c.rest (0x3A :: c'.rest) := by
  have hblanks := blanks_skipBlanks c
  unfold colon at h
  dsimp only at h
  split at h
  · cases h
  · next b rest hrest =>
    split at h
    · next hb =>
      cases h
      rwa [after_rest, ← hb, ← hrest]
    · cases h

theorem colon_complete {after : Bytes} (h : Blanks c.rest (0x3A :: after)) :
    ∃ c', colon c = .ok c' ∧ c'.rest = after := by
  refine ⟨c.skipBlanks.after 0x3A after, ?_, after_rest _ _ _⟩
  unfold colon
  simp only [h.skipBlanks_eq (show isBlank 0x3A = false by decide), if_true]

theorem blanks_of_closeList (h : closeList c = .ok c') : Blanks c.rest (0x5D :: c'.rest) := by
  have hblanks := blanks_skipBlanks c
  unfold closeList at h
  dsimp only at h
  split at h
  · cases h
  · next b rest hrest =>
    split at h
    · next hb =>
      cases h
      rwa [after_rest, ← hb, ← hrest]
    · split at h
      · split at h <;> cases h
      · cases h

theorem closeList_complete {after : Bytes} (h : Blanks c.rest (0x5D :: after)) :
    ∃ c', closeList c = .ok c' ∧ c'.rest = after :=
  closeList_ok (h.skipBlanks_eq (by decide))

theorem rest_of_closeList {after : Bytes} (h : closeList c = .ok c') (hc : c.rest = 0x5D :: after) :
    c'.rest = after := by
  have hblanks := blanks_of_closeList h
  rw [hc] at hblanks
  exact (List.cons.inj (hblanks.unique (.none _) (by decide) (by decide))).2

theorem rest_of_closeObject {after : Bytes} (h : closeObject c = .ok c')
    (hc : c.rest = 0x7D :: after) : c'.rest = after := by
  unfold closeObject at h
  simp only [skipBlanks_of_visible (show isBlank 0x7D = false by decide) hc, if_true] at h
  cases h
  exact after_rest _ _ _

end Brackets

/-! ### Lists -/

section Lists

variable {α ι : Type} {item : Cursor → Read α} {rule : ι → Rule} {means : ι → α → Prop}

theorem elementsFrom_sound (h : Follows item (fun i => Spaced (rule i)) means) {first : Bool}
    {done xs : List α} {c c' : Cursor} (hread : elementsFrom item first done c = .ok (xs, c')) :
    ∃ is ys after, xs = done.reverse ++ ys ∧ List.Forall₂ means is ys ∧ c'.rest = 0x5D :: after ∧
      Listed .list first (is.map rule) c.rest after := by
  fun_induction elementsFrom item first done c with
  | case1 | case3 | case5 => cases hread
  | case2 first done c c₁ hnext =>
    cases hread
    obtain ⟨after, hrest, hblanks⟩ := blanks_of_nextElement hnext
    exact ⟨[], [], after, by rw [List.append_nil], .nil, hrest, hblanks⟩
  | case4 first done c c₁ hnext x c₂ hitem hlt ih =>
    obtain ⟨is, ys, after, hxs, hall, hrest, hlisted⟩ := ih hread
    obtain ⟨i, hmeans, start, hblanks, hrule⟩ := h.sound hitem
    refine ⟨i :: is, x :: ys, after, ?_, .cons hmeans hall, hrest, start, c₂.rest, ?_, hrule,
      hlisted⟩
    · rw [hxs, List.reverse_cons, List.append_assoc]
      rfl
    · exact (separated_of_nextElement hnext).blanks hblanks

/-- Items that are listed one after the other are read one after the other. -/
theorem elementsFrom_complete (h : Follows item (fun i => Spaced (rule i)) means)
    (begun : ∀ i start stop, rule i start stop → Begun start)
    (shrinks : ∀ i start stop, rule i start stop → stop.length < start.length) {first : Bool}
    {is : List ι} {xs : List α} (done : List α) {c : Cursor} {after : Bytes}
    (all : List.Forall₂ means is xs) (listed : Listed .list first (is.map rule) c.rest after) :
    ∃ c', elementsFrom item first done c = .ok (done.reverse ++ xs, c') ∧
      c'.rest = 0x5D :: after := by
  induction all generalizing first done c with
  | nil =>
    have hclose := Blanks.skipBlanks_eq listed (show isBlank 0x5D = false by decide)
    refine ⟨c.skipBlanks, ?_, hclose⟩
    rw [elementsFrom, nextElement_close hclose, List.append_nil]
  | @cons i x is xs hmeans _ ih =>
    obtain ⟨start, stop, hseparated, hrule, hrest⟩ := listed
    obtain ⟨c₁, hnext, hc₁⟩ := nextElement_complete hseparated (begun i start stop hrule)
    have hspaced : Spaced (rule i) c₁.rest stop := ⟨start, hc₁ ▸ Blanks.none _, hrule⟩
    obtain ⟨c₂, hitem, rfl⟩ := h.complete hmeans hspaced hrest.ends
    have hlt : c₂.rest.length < c.rest.length :=
      Nat.lt_of_lt_of_le (shrinks i start _ hrule) hseparated.length_le
    obtain ⟨c', hfrom, hafter⟩ := ih (x :: done) hrest
    refine ⟨c', ?_, hafter⟩
    rw [elementsFrom, hnext]
    simp only [hitem, if_pos hlt, hfrom, List.reverse_cons, List.append_assoc]
    rfl

/-- Where items follow their rules, the elements of an array do. -/
theorem elements_follows (h : Follows item (fun i => Spaced (rule i)) means)
    (begun : ∀ i start stop, rule i start stop → Begun start)
    (shrinks : ∀ i start stop, rule i start stop → stop.length < start.length) :
    Follows (elements item) (fun is => Listed .list true (is.map rule))
      (List.Forall₂ means) where
  sound := by
    intro c c' xs hread
    unfold elements at hread
    split at hread
    · cases hread
    · next ys c₁ hfrom =>
      split at hread
      · cases hread
      · next c₂ hclose =>
        cases hread
        obtain ⟨is, zs, after, rfl, hall, hrest, hlisted⟩ := elementsFrom_sound h hfrom
        rw [rest_of_closeList hclose hrest]
        exact ⟨is, hall, hlisted⟩
  complete := by
    intro c is xs after hall hlisted _
    obtain ⟨c₁, hfrom, hc₁⟩ := elementsFrom_complete h begun shrinks [] hall hlisted
    obtain ⟨c', hclose, hafter⟩ := closeList_ok
      (skipBlanks_of_visible (show isBlank 0x5D = false by decide) hc₁)
    refine ⟨c', ?_, hafter⟩
    unfold elements
    simp only [hfrom, hclose]
    rfl

end Lists

/-! ### Records -/

section Records

variable {σ τ : Type}

/-- A record has taken in the member that begins at the cursor. -/
inductive Took (field : σ → String → FieldAction σ) (s : σ) (c : Cursor) : σ → Cursor → Prop
  | wanted {key : String} {c₁ c₂ c' : Cursor} {reader : Cursor → Read σ} {s' : σ}
      (name : stringBody c.next = .ok (key, c₁)) (known : field s key = .read reader)
      (sign : colon c₁ = .ok c₂) (reads : reader c₂ = .ok (s', c')) : Took field s c s' c'
  | unwanted {key : String} {c₁ c₂ c' : Cursor} (name : stringBody c.next = .ok (key, c₁))
      (unknown : field s key = .unknown) (sign : colon c₁ = .ok c₂) (skips : skip c₂ = .ok c') :
      Took field s c s c'

/-- The members that a record takes in one after the other. -/
inductive TakesIn (step : σ → τ → σ → Prop) : σ → List τ → σ → Prop
  | done (s : σ) : TakesIn step s [] s
  | next {s s' s'' : σ} {t : τ} {ts : List τ} (first : step s t s') (rest : TakesIn step s' ts s'') :
      TakesIn step s (t :: ts) s''

/-- The members of a record go by their rules, each with what it changes. -/
structure FieldsFollow (field : σ → String → FieldAction σ) (rule : τ → Rule)
    (step : σ → τ → σ → Prop) : Prop where
  sound : ∀ {s s' c c' tail}, c.rest = 0x22 :: tail → Took field s c s' c' →
    ∃ t, step s t s' ∧ rule t c.rest c'.rest
  complete : ∀ {s s' t c after}, step s t s' → rule t c.rest after → Ends after →
    ∃ c', Took field s c s' c' ∧ c'.rest = after
  quoted : ∀ {t start stop}, rule t start stop → ∃ tail, start = 0x22 :: tail
  shrinks : ∀ {t start stop}, rule t start stop → stop.length < start.length

variable {field : σ → String → FieldAction σ} {rule : τ → Rule} {step : σ → τ → σ → Prop}
  {first : Bool} {s s' : σ} {c c' : Cursor}

/-- How the fields of an object are read: either it ends, or a member is taken in and the others
are read. -/
theorem fieldsFrom_cases (h : fieldsFrom field first s c = .ok (s', c')) :
    (nextKey first c = .ok (false, c') ∧ s' = s) ∨
      ∃ c₁ s₁ c₂, nextKey first c = .ok (true, c₁) ∧ Took field s c₁ s₁ c₂ ∧
        c₂.rest.length < c.rest.length ∧ fieldsFrom field false s₁ c₂ = .ok (s', c') := by
  rw [fieldsFrom] at h
  split at h
  · cases h
  · next c₁ hnext =>
    cases h
    exact .inl ⟨hnext, rfl⟩
  · next c₁ hnext =>
    refine .inr ?_
    split at h
    · cases h
    · next key c₂ hkey =>
      dsimp only at h
      cases haction : field s key with
      | duplicate =>
        rw [haction] at h
        cases h
      | read reader =>
        rw [haction] at h
        dsimp only at h
        cases hcolon : colon c₂ with
        | error f =>
          rw [hcolon] at h
          cases h
        | ok c₃ =>
          rw [hcolon] at h
          simp only [Except.bind] at h
          split at h
          · cases h
          · next s₁ c₄ hread =>
            split at h
            · next hlt => exact ⟨c₁, s₁, c₄, hnext, .wanted hkey haction hcolon hread, hlt, h⟩
            · cases h
      | unknown =>
        rw [haction] at h
        dsimp only at h
        cases hcolon : colon c₂ with
        | error f =>
          rw [hcolon] at h
          cases h
        | ok c₃ =>
          rw [hcolon] at h
          simp only [Except.bind] at h
          cases hskip : skip c₃ with
          | error f =>
            rw [hskip] at h
            cases h
          | ok c₄ =>
            rw [hskip] at h
            simp only [Except.map] at h
            split at h
            · next hlt => exact ⟨c₁, s, c₄, hnext, .unwanted hkey haction hcolon hskip, hlt, h⟩
            · cases h

/-- Once a member has been taken in, the others are read. -/
theorem fieldsFrom_more {c₁ c₂ : Cursor} {s₁ : σ} (hnext : nextKey first c = .ok (true, c₁))
    (took : Took field s c₁ s₁ c₂) (hlt : c₂.rest.length < c.rest.length) :
    fieldsFrom field first s c = fieldsFrom field false s₁ c₂ := by
  rw [fieldsFrom, hnext]
  cases took with
  | wanted hkey haction hcolon hread =>
    simp only [hkey, haction, hcolon, hread, Except.bind, if_pos hlt]
  | unwanted hkey haction hcolon hskip =>
    simp only [hkey, haction, hcolon, hskip, Except.bind, Except.map, if_pos hlt]

theorem fieldsFrom_sound (h : FieldsFollow field rule step)
    (hread : fieldsFrom field first s c = .ok (s', c')) :
    ∃ ts after, TakesIn step s ts s' ∧ c'.rest = 0x7D :: after ∧
      Listed .object first (ts.map rule) c.rest after := by
  -- on the bytes that are left, since the fields go on only with fewer of them
  induction hn : c.rest.length using Nat.strongRecOn generalizing first s c with
  | ind n ih =>
    subst hn
    rcases fieldsFrom_cases hread with ⟨hnext, rfl⟩ | ⟨c₁, s₁, c₂, hnext, took, hlt, hrest⟩
    · obtain ⟨after, hc', hblanks⟩ := blanks_of_nextKey hnext
      exact ⟨[], after, .done s', hc', hblanks⟩
    · obtain ⟨hseparated, tail, hc₁⟩ := separated_of_nextKey hnext
      obtain ⟨t, hstep, hrule⟩ := h.sound hc₁ took
      obtain ⟨ts, after, hall, hc', hlisted⟩ := ih _ hlt hrest rfl
      exact ⟨t :: ts, after, .next hstep hall, hc', _, _, hseparated, hrule, hlisted⟩

theorem fieldsFrom_complete (h : FieldsFollow field rule step) {ts : List τ} {after : Bytes}
    (all : TakesIn step s ts s') (listed : Listed .object first (ts.map rule) c.rest after) :
    ∃ c', fieldsFrom field first s c = .ok (s', c') ∧ c'.rest = 0x7D :: after := by
  induction all generalizing first c with
  | done s =>
    have hclose := Blanks.skipBlanks_eq listed (show isBlank 0x7D = false by decide)
    refine ⟨c.skipBlanks, ?_, hclose⟩
    rw [fieldsFrom, nextKey_close hclose]
  | next hstep _ ih =>
    obtain ⟨start, stop, hseparated, hrule, hrest⟩ := listed
    obtain ⟨tail, rfl⟩ := h.quoted hrule
    obtain ⟨c₁, hnext, hc₁⟩ := nextKey_complete hseparated
    have hlt := Nat.lt_of_lt_of_le (h.shrinks hrule) hseparated.length_le
    rw [← hc₁] at hrule
    obtain ⟨c₂, took, rfl⟩ := h.complete hstep hrule hrest.ends
    rw [fieldsFrom_more hnext took hlt]
    exact ih hrest

end Records

/-! ### Members -/

section Members

variable {c c₁ c₂ : Cursor} {key : String} {value : Rule} {after : Bytes}

theorem member_sound {tail : Bytes} (hquote : c.rest = 0x22 :: tail)
    (hkey : stringBody c.next = .ok (key, c₁)) (hcolon : colon c₁ = .ok c₂)
    (hvalue : Spaced value c₂.rest after) : Member strictly key value c.rest after := by
  have hcharacters := characters_of_stringBody hkey
  rw [next_rest hquote] at hcharacters
  obtain ⟨start, hblanks, hstart⟩ := hvalue
  exact ⟨c₁.rest, c₂.rest, start, ⟨tail, hquote, hcharacters⟩, blanks_of_colon hcolon, hblanks, hstart⟩

theorem member_complete (h : Member strictly key value c.rest after) :
    ∃ c₁ c₂, stringBody c.next = .ok (key, c₁) ∧ colon c₁ = .ok c₂ ∧
      Spaced value c₂.rest after := by
  obtain ⟨stop, next, start, ⟨mid, hquote, hkey⟩, hcolon, hblanks, hvalue⟩ := h
  rw [← next_rest hquote] at hkey
  obtain ⟨c₁, hread, rfl⟩ := stringBody_complete hkey
  obtain ⟨c₂, hsign, rfl⟩ := colon_complete hcolon
  exact ⟨c₁, c₂, hread, hsign, start, hblanks, hvalue⟩

end Members

section Objects

variable {ι : Type} {item : Cursor → Read Json} {rule : ι → Rule} {means : ι → Json → Prop}

/-- A member is taken in as what its value means. -/
theorem takeIn_follows (h : Follows item (fun i => Spaced (rule i)) means)
    (shrinks : ∀ i start stop, rule i start stop → stop.length < start.length) :
    FieldsFollow (takeIn item) (fun m : String × ι => Member strictly m.1 (rule m.2))
      (fun s m s' => ∃ x, means m.2 x ∧ s' = Members.set m.1 x s) where
  sound hquote took := by
    cases took with
    | wanted hkey haction hcolon hread =>
      cases haction
      obtain ⟨⟨x, c'⟩, hitem, heq⟩ := map_eq_ok hread
      cases heq
      obtain ⟨i, hmeans, hrule⟩ := h.sound hitem
      exact ⟨(_, i), ⟨x, hmeans, rfl⟩, member_sound hquote hkey hcolon hrule⟩
    | unwanted _ haction => cases haction
  complete hstep hrule ends := by
    obtain ⟨x, hmeans, rfl⟩ := hstep
    obtain ⟨c₁, c₂, hkey, hcolon, hvalue⟩ := member_complete hrule
    obtain ⟨c', hitem, hafter⟩ := h.complete hmeans hvalue ends
    exact ⟨c', .wanted hkey rfl hcolon (by rw [hitem]; rfl), hafter⟩
  quoted hrule := by
    obtain ⟨stop, next, start, ⟨mid, hquote, -⟩, -⟩ := hrule
    exact ⟨mid, hquote⟩
  shrinks hrule := hrule.length_lt (fun _ _ _ => Characters.length_lt) (shrinks _)

/-- The members that are taken in are set one after the other. -/
theorem takesIn_iff {ms : List (String × ι)} {s s' : Members} :
    TakesIn (fun s m s' => ∃ x, means m.2 x ∧ s' = Members.set m.1 x s) s ms s' ↔
      ∃ entries, List.Forall₂ (fun m e => m.1 = e.1 ∧ means m.2 e.2) ms entries ∧
        s' = s.setAll entries := by
  constructor
  · intro h
    induction h with
    | done s => exact ⟨[], .nil, rfl⟩
    | @next s _ s'' m ms hstep _ ih =>
      obtain ⟨x, hmeans, rfl⟩ := hstep
      obtain ⟨entries, hall, rfl⟩ := ih
      exact ⟨(m.1, x) :: entries, .cons ⟨rfl, hmeans⟩ hall, rfl⟩
  · rintro ⟨entries, hall, rfl⟩
    induction hall generalizing s with
    | nil => exact .done s
    | @cons m e ms entries hfirst _ ih =>
      exact .next ⟨e.2, hfirst.2, rfl⟩ (by rw [hfirst.1]; exact ih)

/-- Where items follow their rules, the members of an object do; of several members with one key
the last counts. -/
theorem membersBody_follows (h : Follows item (fun i => Spaced (rule i)) means)
    (shrinks : ∀ i start stop, rule i start stop → stop.length < start.length) :
    Follows (membersBody item)
      (fun ms => Listed .object true (ms.map fun m : String × ι => Member strictly m.1 (rule m.2)))
      (fun ms members => ∃ entries,
        List.Forall₂ (fun m e => m.1 = e.1 ∧ means m.2 e.2) ms entries ∧
          members = Members.ofList entries) where
  sound := by
    intro c c' members hread
    unfold membersBody at hread
    split at hread
    · cases hread
    · next ms c₁ hfrom =>
      split at hread
      · cases hread
      · next c₂ hclose =>
        cases hread
        have hfields := fieldsFrom_takeIn item true [] c
        rw [hfrom] at hfields
        obtain ⟨ts, after, hall, hrest, hlisted⟩ :=
          fieldsFrom_sound (takeIn_follows h shrinks) hfields
        rw [rest_of_closeObject hclose hrest]
        exact ⟨ts, takesIn_iff.1 hall, hlisted⟩
  complete := by
    intro c ms members after hmeans hlisted _
    obtain ⟨c₁, hfields, hc₁⟩ :=
      fieldsFrom_complete (takeIn_follows h shrinks) (takesIn_iff.2 hmeans) hlisted
    obtain ⟨c', hclose, hafter⟩ := closeObject_ok
      (skipBlanks_of_visible (show isBlank 0x7D = false by decide) hc₁)
    refine ⟨c', ?_, hafter⟩
    rw [fieldsFrom_takeIn] at hfields
    unfold membersBody
    cases hfrom : membersFrom item true [] c with
    | error f =>
      rw [hfrom] at hfields
      cases hfields
    | ok found =>
      rw [hfrom] at hfields
      cases hfields
      simp only [hclose]

end Objects

/-! ### Records -/

section Records

variable {α : Type} {typeName : String} {byPosition byName : Nat → Cursor → Except Stop (α × Cursor)}
  {depth : Nat} {c c' : Cursor} {x : α}

/-- A record is read by position from an array, and by name from an object. -/
theorem record_cases (h : record typeName byPosition byName (depth + 1) c = .ok (x, c')) :
    (∃ rest c₁, c.skipBlanks.rest = 0x5B :: rest ∧
      byPosition depth (c.skipBlanks.after 0x5B rest) = .ok (x, c₁) ∧ closeList c₁ = .ok c') ∨
    ∃ rest c₁, c.skipBlanks.rest = 0x7B :: rest ∧
      byName depth (c.skipBlanks.after 0x7B rest) = .ok (x, c₁) ∧ closeObject c₁ = .ok c' := by
  unfold record at h
  dsimp only at h
  split at h
  · cases h
  · next b rest hrest =>
    split at h
    · next hb =>
      subst hb
      split at h
      · cases h
      · cases h
      · next y c₁ hinside =>
        obtain ⟨c₂, hclose, heq⟩ := map_eq_ok h
        cases heq
        exact .inl ⟨rest, c₁, hrest, hinside, hclose⟩
    · split at h
      · next hb =>
        subst hb
        split at h
        · cases h
        · cases h
        · next y c₁ hinside =>
          obtain ⟨c₂, hclose, heq⟩ := map_eq_ok h
          cases heq
          exact .inr ⟨rest, c₁, hrest, hinside, hclose⟩
      · cases h

theorem record_byPosition {rest : Bytes} {c₁ : Cursor} (hrest : c.skipBlanks.rest = 0x5B :: rest)
    (hinside : byPosition depth (c.skipBlanks.after 0x5B rest) = .ok (x, c₁))
    (hclose : closeList c₁ = .ok c') :
    record typeName byPosition byName (depth + 1) c = .ok (x, c') := by
  unfold record
  simp only [hrest, if_true, hinside, hclose]
  rfl

theorem record_byName {rest : Bytes} {c₁ : Cursor} (hrest : c.skipBlanks.rest = 0x7B :: rest)
    (hinside : byName depth (c.skipBlanks.after 0x7B rest) = .ok (x, c₁))
    (hclose : closeObject c₁ = .ok c') :
    record typeName byPosition byName (depth + 1) c = .ok (x, c') := by
  have hlist : (0x7B : UInt8) ≠ 0x5B := by decide
  unfold record
  simp only [hrest, if_neg hlist, if_true, hinside, hclose]
  rfl

end Records

end QuerySwarm.Json
