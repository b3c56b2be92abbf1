import QuerySwarm.Proofs.Json.Documents

/-!
# Values that are skipped

A value that nobody wants is skipped by its brackets, kept on a stack, so it may be nested as deep as
it likes; its numbers may be of any size and its strings need not be well-formed. What is skipped is
what is written loosely by the grammar, and nothing else.

* `Closes`: what closes the brackets that are open.
* `skip_sound`, `skip_complete`: the values that are skipped.
-/

namespace QuerySwarm.Json

open Cursor

/-! ### Scalars -/

section Scalars

variable {c c' : Cursor}

theorem written_of_skipScalar (h : skipScalar c = .ok (some c')) :
    ∃ t, Written loosely t c.rest c'.rest := by
  unfold skipScalar at h
  split at h
  · cases h
  · next b rest hrest =>
    dsimp only at h
    split at h
    · next hb =>
      obtain ⟨c₁, hword, heq⟩ := map_eq_ok h
      cases heq
      have hword := rest_of_word hword
      rw [after_rest] at hword
      exact ⟨.null, by rw [hrest, hb, hword]; rfl⟩
    · split at h
      · next hb =>
        obtain ⟨c₁, hword, heq⟩ := map_eq_ok h
        cases heq
        have hword := rest_of_word hword
        rw [after_rest] at hword
        exact ⟨.boolean true, by rw [hrest, hb, hword]; rfl⟩
      · split at h
        · next hb =>
          obtain ⟨c₁, hword, heq⟩ := map_eq_ok h
          cases heq
          have hword := rest_of_word hword
          rw [after_rest] at hword
          exact ⟨.boolean false, by rw [hrest, hb, hword]; rfl⟩
        · split at h
          · next hb =>
            obtain ⟨⟨n, c₁⟩, hnumeral, heq⟩ := map_eq_ok h
            cases heq
            obtain ⟨hsign, hunsigned⟩ := unsigned_of_numeral hnumeral
            rw [after_rest] at hunsigned
            refine ⟨.number n, ?_⟩
            show n.Written _ _
            rw [Numeral.Written, if_pos hsign, hrest, hb]
            exact ⟨rest, rfl, hunsigned⟩
          · split at h
            · obtain ⟨⟨n, c₁⟩, hnumeral, heq⟩ := map_eq_ok h
              cases heq
              obtain ⟨hsign, hunsigned⟩ := unsigned_of_numeral hnumeral
              refine ⟨.number n, ?_⟩
              show n.Written _ _
              rw [Numeral.Written, if_neg (by rw [hsign]; decide)]
              exact hunsigned
            · split at h
              · next hb =>
                obtain ⟨c₁, hstring, heq⟩ := map_eq_ok h
                cases heq
                have hskimmed := skimmed_of_skipString hstring
                rw [after_rest] at hskimmed
                exact ⟨.string "", rest, by rw [hrest, hb], hskimmed⟩
              · split at h <;> cases h

theorem opening_of_skipScalar (h : skipScalar c = .ok none) :
    ∃ bracket rest, c.rest = Bracket.opening bracket :: rest := by
  unfold skipScalar at h
  split at h
  · cases h
  · next b rest hrest =>
    by_cases hb : b = 0x5B ∨ b = 0x7B
    · rcases hb with rfl | rfl
      · exact ⟨.list, rest, hrest⟩
      · exact ⟨.object, rest, hrest⟩
    · simp only [if_neg hb] at h
      repeat' split at h
      all_goals first
        | cases h
        | (obtain ⟨_, -, heq⟩ := map_eq_ok h; cases heq)

theorem skipScalar_opening {bracket : Bracket} {rest : Bytes}
    (h : c.rest = bracket.opening :: rest) : skipScalar c = .ok none := by
  unfold skipScalar
  rw [h]
  cases bracket <;> rfl

/-- Scalars are skipped. -/
theorem skipScalar_complete {t : Tree} {after : Bytes} (hnesting : t.nesting = 0)
    (h : Written loosely t c.rest after) (ends : Ends after) :
    ∃ c', skipScalar c = .ok (some c') ∧ c'.rest = after := by
  unfold skipScalar
  cases t with
  | null =>
    obtain ⟨c', hword, hafter⟩ := word_ok nullRest (after_rest c 0x6E (nullRest ++ after))
    rw [show c.rest = 0x6E :: (nullRest ++ after) from h]
    refine ⟨c', ?_, hafter⟩
    exact congrArg (Except.map some) hword
  | boolean value =>
    cases value
    · obtain ⟨c', hword, hafter⟩ := word_ok falseRest (after_rest c 0x66 (falseRest ++ after))
      rw [show c.rest = 0x66 :: (falseRest ++ after) from h]
      refine ⟨c', ?_, hafter⟩
      exact congrArg (Except.map some) hword
    · obtain ⟨c', hword, hafter⟩ := word_ok trueRest (after_rest c 0x74 (trueRest ++ after))
      rw [show c.rest = 0x74 :: (trueRest ++ after) from h]
      refine ⟨c', ?_, hafter⟩
      exact congrArg (Except.map some) hword
  | number n =>
    have hnumber : n.Written c.rest after := h
    unfold Numeral.Written at hnumber
    split at hnumber
    · next hsign =>
      obtain ⟨mid, hrest, hunsigned⟩ := hnumber
      rw [← after_rest c 0x2D mid] at hunsigned
      obtain ⟨c', hread, hafter⟩ := numeral_complete hunsigned ends .invalidNumber
      rw [hsign] at hread
      rw [hrest]
      refine ⟨c', ?_, hafter⟩
      show (numeral _ true _).map _ = _
      rw [hread]
      rfl
    · next hsign =>
      obtain ⟨b, tail, hrest, hdigit⟩ := hnumber.exists_first
      have hne : ∀ other, isDigit other = false → b ≠ other := fun _ =>
        ne_of_isDigit_eq_false hdigit
      obtain ⟨c', hread, hafter⟩ := numeral_complete hnumber ends .invalidNumber
      rw [Bool.eq_false_iff.2 hsign] at hread
      rw [hrest]
      refine ⟨c', ?_, hafter⟩
      simp only [if_neg (hne 0x6E (by decide)), if_neg (hne 0x74 (by decide)),
        if_neg (hne 0x66 (by decide)), if_neg (hne 0x2D (by decide)), if_pos hdigit, hread]
      rfl
  | string s =>
    obtain ⟨mid, hrest, hs⟩ := h
    obtain ⟨c', hskip, hafter⟩ := skipString_complete hs (after_rest c 0x22 mid)
    rw [hrest]
    refine ⟨c', ?_, hafter⟩
    show (skipString _).map some = _
    rw [hskip]
    rfl
  | array elements => cases hnesting
  | object members => cases hnesting

end Scalars

/-! ### What stands in brackets -/

/-- The rules of the items in a bracket. -/
def IsItem : Bracket → Rule → Prop
  | .list, item => ∃ t, item = Written loosely t
  | .object, item => ∃ key t, item = Member loosely key (Written loosely t)

theorem IsItem.begun {bracket : Bracket} {item : Rule} (h : IsItem bracket item) {before after : Bytes}
    (hitem : item before after) : Begun before := by
  cases bracket with
  | list =>
    obtain ⟨t, rfl⟩ := h
    exact Written.begun hitem
  | object =>
    obtain ⟨key, t, rfl⟩ := h
    exact Member.begun hitem

theorem skimmed_shrinks (s : String) (before after : Bytes) (h : loosely s before after) :
    after.length < before.length :=
  Skimmed.length_lt h

theorem IsItem.length_lt {bracket : Bracket} {item : Rule} (h : IsItem bracket item)
    {before after : Bytes} (hitem : item before after) : after.length < before.length := by
  cases bracket with
  | list =>
    obtain ⟨t, rfl⟩ := h
    exact Written.length_lt skimmed_shrinks hitem
  | object =>
    obtain ⟨key, t, rfl⟩ := h
    exact hitem.length_lt skimmed_shrinks fun _ _ hvalue => hvalue.length_lt skimmed_shrinks

/-- Items in brackets are a value. -/
theorem exists_written {bracket : Bracket} {items : List Rule}
    (h : ∀ item ∈ items, IsItem bracket item) :
    ∃ t, ∀ before after, Enclosed bracket items before after → Written loosely t before after := by
  cases bracket with
  | list =>
    suffices hts : ∃ ts, items = elementRules loosely ts by
      obtain ⟨ts, rfl⟩ := hts
      exact ⟨.array ts, fun _ _ h => h⟩
    induction items with
    | nil => exact ⟨[], rfl⟩
    | cons item items ih =>
      obtain ⟨t, rfl⟩ := h item List.mem_cons_self
      obtain ⟨ts, rfl⟩ := ih fun other hother => h other (List.mem_cons_of_mem _ hother)
      exact ⟨t :: ts, rfl⟩
  | object =>
    suffices hms : ∃ ms, items = memberRules loosely ms by
      obtain ⟨ms, rfl⟩ := hms
      exact ⟨.object ms, fun _ _ h => h⟩
    induction items with
    | nil => exact ⟨[], rfl⟩
    | cons item items ih =>
      obtain ⟨key, t, rfl⟩ := h item List.mem_cons_self
      obtain ⟨ms, rfl⟩ := ih fun other hother => h other (List.mem_cons_of_mem _ hother)
      exact ⟨(key, t) :: ms, rfl⟩

/-- What closes the brackets that are open, the innermost first. -/
def Closes : List Bracket → (comma : Bool) → Rule
  | [], _ => fun before after => before = after
  | bracket :: outer, comma => fun before after => ∃ items mid,
      (∀ item ∈ items, IsItem bracket item) ∧ Listed bracket (!comma) items before mid ∧
        Closes outer true mid after

theorem skimmed_of_skipKey {c c' : Cursor} (h : skipKey c = .ok c') :
    ∃ stop next, Spaced (Quoted loosely "") c.rest stop ∧ Blanks stop (0x3A :: next) ∧
      c'.rest = next := by
  have hblanks := blanks_skipBlanks c
  unfold skipKey at h
  dsimp only at h
  split at h
  · cases h
  · next b rest hrest =>
    split at h
    · next hb =>
      split at h
      · cases h
      · next c₁ hskip =>
        have hskimmed := skimmed_of_skipString hskip
        rw [after_rest] at hskimmed
        exact ⟨c₁.rest, _, ⟨_, hblanks, rest, by rw [hrest, hb], hskimmed⟩, blanks_of_colon h, rfl⟩
    · cases h

/-! ### One step -/

section Steps

variable {opened outer : List Bracket} {bracket : Bracket} {comma : Bool} {c c' : Cursor}

theorem length_lt_of_skipBlanks {b : UInt8} {rest : Bytes} (h : c.skipBlanks.rest = b :: rest) :
    rest.length < c.rest.length := by
  have hle := skipBlanks_length_le c
  rw [h, List.length_cons] at hle
  exact hle

/-- A value that is skipped is a scalar, or a bracket is opened. -/
theorem skipValue_cases (h : skipValue opened c = .ok c') :
    (∃ c₁, skipScalar c.skipBlanks = .ok (some c₁) ∧ c₁.rest.length < c.rest.length ∧
        skipAfter opened true c₁ = .ok c') ∨
      ∃ bracket rest, c.skipBlanks.rest = Bracket.opening bracket :: rest ∧
        skipAfter (bracket :: opened) false (c.skipBlanks.after bracket.opening rest) = .ok c' := by
  rw [skipValue] at h
  split at h
  · cases h
  · next c₁ hscalar =>
    split at h
    · next hlt => exact .inl ⟨c₁, hscalar, hlt, h⟩
    · cases h
  · next hscalar =>
    obtain ⟨bracket, rest, hrest⟩ := opening_of_skipScalar hscalar
    simp only [hrest, if_pos (length_lt_of_skipBlanks hrest)] at h
    refine .inr ⟨bracket, rest, hrest, ?_⟩
    cases bracket <;> exact h

theorem skipValue_scalar {c₁ : Cursor} (h : skipScalar c.skipBlanks = .ok (some c₁))
    (hlt : c₁.rest.length < c.rest.length) :
    skipValue opened c = skipAfter opened true c₁ := by
  rw [skipValue]
  simp only [h, if_pos hlt]

theorem skipValue_opening {rest : Bytes} (h : c.skipBlanks.rest = bracket.opening :: rest) :
    skipValue opened c =
      skipAfter (bracket :: opened) false (c.skipBlanks.after bracket.opening rest) := by
  rw [skipValue]
  simp only [skipScalar_opening h, h, if_pos (length_lt_of_skipBlanks h)]
  cases bracket <;> rfl

/-- Inside a bracket there is a comma and an item, or the bracket closes, or there is the first
item. -/
theorem skipAfter_cases (h : skipAfter (bracket :: outer) comma c = .ok c') :
    (comma = true ∧ ∃ rest, c.skipBlanks.rest = 0x2C :: rest ∧
        skipItem bracket outer (c.skipBlanks.after 0x2C rest) = .ok c') ∨
      (∃ rest, c.skipBlanks.rest = bracket.closing :: rest ∧
        skipAfter outer true (c.skipBlanks.after bracket.closing rest) = .ok c') ∨
      comma = false ∧ skipItem bracket outer c.skipBlanks = .ok c' := by
  rw [skipAfter] at h
  split at h
  · cases h
  · next b rest hrest =>
    rw [if_pos (length_lt_of_skipBlanks hrest)] at h
    split at h
    · next hb =>
      obtain ⟨hcomma, hb⟩ := Bool.and_eq_true_iff.1 hb
      obtain rfl := eq_of_beq hb
      exact .inl ⟨hcomma, rest, hrest, h⟩
    · split at h
      · next hb =>
        subst hb
        rw [if_pos (length_lt_of_skipBlanks hrest)] at h
        exact .inr (.inl ⟨rest, hrest, h⟩)
      · split at h
        · cases h
        · next hcomma => exact .inr (.inr ⟨Bool.eq_false_iff.2 hcomma, h⟩)

theorem skipAfter_comma {rest : Bytes} (h : c.skipBlanks.rest = 0x2C :: rest) :
    skipAfter (bracket :: outer) true c =
      skipItem bracket outer (c.skipBlanks.after 0x2C rest) := by
  rw [skipAfter]
  simp only [h, if_pos (length_lt_of_skipBlanks h)]
  rfl

theorem skipAfter_closing {rest : Bytes} (h : c.skipBlanks.rest = bracket.closing :: rest) :
    skipAfter (bracket :: outer) comma c =
      skipAfter outer true (c.skipBlanks.after bracket.closing rest) := by
  have hcomma : (comma && bracket.closing == 0x2C) = false := by
    cases comma <;> cases bracket <;> rfl
  rw [skipAfter]
  simp only [h, hcomma, if_pos (length_lt_of_skipBlanks h), if_true]
  rfl

theorem skipAfter_first (begun : Begun c.skipBlanks.rest) :
    skipAfter (bracket :: outer) false c = skipItem bracket outer c.skipBlanks := by
  obtain ⟨b, rest, hrest, -⟩ := id begun
  have hne : b ≠ bracket.closing := by
    rintro rfl
    exact begun.ne_closing bracket hrest
  rw [skipAfter]
  simp only [hrest, if_neg hne]
  rfl

theorem skipItem_cases (h : skipItem bracket outer c = .ok c') :
    (bracket = .list ∧ skipValue (bracket :: outer) c = .ok c') ∨
      ∃ c₁, bracket = .object ∧ skipKey c = .ok c₁ ∧ c₁.rest.length ≤ c.rest.length ∧
        skipValue (bracket :: outer) c₁ = .ok c' := by
  rw [skipItem.eq_def] at h
  cases bracket with
  | list => exact .inl ⟨rfl, h⟩
  | object =>
    dsimp only at h
    split at h
    · cases h
    · next c₁ hkey =>
      split at h
      · next hle => exact .inr ⟨c₁, rfl, hkey, hle, h⟩
      · cases h

end Steps

/-! ### What is skipped -/

/-- What is skipped is a value, and what closes the brackets that were open. -/
theorem skip_sound_all (n : Nat) :
    (∀ {opened c c'}, c.rest.length ≤ n → skipValue opened c = .ok c' → ∃ t mid,
      Spaced (Written loosely t) c.rest mid ∧ Closes opened true mid c'.rest) ∧
    ∀ {opened comma c c'}, c.rest.length ≤ n → skipAfter opened comma c = .ok c' →
      Closes opened comma c.rest c'.rest := by
  -- on the bytes that are left, since a value in brackets is not skipped by a call of its own: what
  -- comes after it is skipped by the same call
  induction n using Nat.strongRecOn with
  | ind n ih =>
    have hvalue : ∀ {opened c c'}, c.rest.length ≤ n → skipValue opened c = .ok c' → ∃ t mid,
        Spaced (Written loosely t) c.rest mid ∧ Closes opened true mid c'.rest := by
      intro opened c c' hle h
      rcases skipValue_cases h with ⟨c₁, hscalar, hlt, hafter⟩ | ⟨bracket, rest, hrest, hafter⟩
      · obtain ⟨t, hwritten⟩ := written_of_skipScalar hscalar
        exact ⟨t, c₁.rest, ⟨_, blanks_skipBlanks c, hwritten⟩,
          (ih _ (by omega)).2 (Nat.le_refl _) hafter⟩
      · have hlt := length_lt_of_skipBlanks hrest
        obtain ⟨items, mid, hitems, hlisted, hcloses⟩ :=
          (ih rest.length (by omega)).2 (Nat.le_of_eq (by rw [after_rest])) hafter
        rw [after_rest] at hlisted
        obtain ⟨t, ht⟩ := exists_written hitems
        exact ⟨t, mid, ⟨_, blanks_skipBlanks c, ht _ _ ⟨rest, hrest, hlisted⟩⟩, hcloses⟩
    have hitem : ∀ {bracket outer c c'}, c.rest.length ≤ n → skipItem bracket outer c = .ok c' →
        ∃ item mid, IsItem bracket item ∧ Spaced item c.rest mid ∧
          Closes (bracket :: outer) true mid c'.rest := by
      intro bracket outer c c' hle h
      rcases skipItem_cases h with ⟨rfl, h⟩ | ⟨c₁, rfl, hkey, hle', h⟩
      · obtain ⟨t, mid, hspaced, hcloses⟩ := hvalue hle h
        exact ⟨_, mid, ⟨t, rfl⟩, hspaced, hcloses⟩
      · obtain ⟨t, mid, ⟨start, hblanks, hwritten⟩, hcloses⟩ := hvalue (by omega) h
        obtain ⟨stop, next, ⟨quote, hblanks', hquoted⟩, hcolon, rfl⟩ := skimmed_of_skipKey hkey
        exact ⟨_, mid, ⟨"", t, rfl⟩, ⟨quote, hblanks', stop, _, start, hquoted, hcolon, hblanks,
          hwritten⟩, hcloses⟩
    refine ⟨hvalue, ?_⟩
    intro opened comma c c' hle h
    have hblanks := blanks_skipBlanks c
    cases opened with
    | nil =>
      rw [skipAfter] at h
      cases h
      rfl
    | cons bracket outer =>
      rcases skipAfter_cases h with ⟨rfl, rest, hrest, h⟩ | ⟨rest, hrest, h⟩ | ⟨rfl, hfirst⟩
      · have hlt := length_lt_of_skipBlanks hrest
        obtain ⟨item, stop, hone, ⟨start, hblanks', hstart⟩, items, mid, hitems, hlisted, hcloses⟩ :=
          hitem (by rw [after_rest]; omega) h
        rw [after_rest] at hblanks'
        rw [hrest] at hblanks
        exact ⟨item :: items, mid, List.forall_mem_cons.2 ⟨hone, hitems⟩,
          ⟨start, stop, ⟨rest, hblanks, hblanks'⟩, hstart, hlisted⟩, hcloses⟩
      · have hlt := length_lt_of_skipBlanks hrest
        have hcloses := (ih rest.length (by omega)).2 (Nat.le_of_eq (by rw [after_rest])) h
        rw [after_rest] at hcloses
        rw [hrest] at hblanks
        exact ⟨[], rest, fun _ hmem => absurd hmem List.not_mem_nil, hblanks, hcloses⟩
      · have hle' := skipBlanks_length_le c
        obtain ⟨item, stop, hone, ⟨start, hblanks', hstart⟩, items, mid, hitems, hlisted, hcloses⟩ :=
          hitem (by omega) hfirst
        exact ⟨item :: items, mid, List.forall_mem_cons.2 ⟨hone, hitems⟩,
          ⟨start, stop, hblanks.trans hblanks', hstart, hlisted⟩, hcloses⟩

theorem skip_sound {c c' : Cursor} (h : skip c = .ok c') :
    ∃ t, Spaced (Written loosely t) c.rest c'.rest := by
  obtain ⟨t, mid, hspaced, rfl⟩ := (skip_sound_all _).1 (Nat.le_refl _) h
  exact ⟨t, hspaced⟩

theorem skipKey_complete {c : Cursor} {key : String} {value : Rule} {start after : Bytes}
    (blanks : Blanks c.rest start) (h : Member loosely key value start after) :
    ∃ c', skipKey c = .ok c' ∧ c'.rest.length ≤ c.rest.length ∧ Spaced value c'.rest after := by
  obtain ⟨stop, next, first, ⟨mid, rfl, hkey⟩, hcolon, hblanks, hvalue⟩ := h
  have hrest := blanks.skipBlanks_eq (show isBlank 0x22 = false by decide)
  obtain ⟨c₁, hskip, rfl⟩ := skipString_complete hkey (after_rest c.skipBlanks 0x22 mid)
  obtain ⟨c₂, hsign, rfl⟩ := colon_complete hcolon
  have hmid := length_lt_of_skipBlanks hrest
  have hstop := Skimmed.length_lt hkey
  have hnext := hcolon.length_le
  rw [List.length_cons] at hnext
  refine ⟨c₂, ?_, by omega, first, hblanks, hvalue⟩
  unfold skipKey
  simp only [hrest, if_true, hskip, hsign]

/-- What stands in a bracket is skipped item by item. -/
theorem skipAfter_complete {bracket : Bracket} {items : List Rule}
    (hitems : ∀ item ∈ items, (∀ start stop, item start stop → Begun start) ∧
      ∀ outer {c start stop}, Blanks c.rest start → item start stop → Ends stop →
        ∃ c', skipItem bracket outer c = skipAfter (bracket :: outer) true c' ∧ c'.rest = stop)
    (outer : List Bracket) (comma : Bool) {c : Cursor} {after : Bytes}
    (listed : Listed bracket (!comma) items c.rest after) :
    ∃ c', skipAfter (bracket :: outer) comma c = skipAfter outer true c' ∧ c'.rest = after := by
  induction items generalizing comma c with
  | nil =>
    have hrest := Blanks.skipBlanks_eq listed bracket.isBlank_closing
    exact ⟨_, skipAfter_closing hrest, after_rest _ _ _⟩
  | cons item items ih =>
    obtain ⟨start, stop, hseparated, hitem, hlisted⟩ := listed
    obtain ⟨begun, hskip⟩ := hitems item List.mem_cons_self
    have hbegun := begun start stop hitem
    obtain ⟨b, tail, rfl, hb, -⟩ := id hbegun
    have hmore := fun {c₁ : Cursor} (hc₁ : c₁.rest = stop) =>
      ih (fun other hother => hitems other (List.mem_cons_of_mem _ hother)) true
        (hc₁ ▸ hlisted)
    cases comma with
    | true =>
      obtain ⟨mid, hcomma, hblanks⟩ := hseparated
      have hrest := hcomma.skipBlanks_eq (show isBlank 0x2C = false by decide)
      rw [← after_rest c.skipBlanks 0x2C mid] at hblanks
      obtain ⟨c₁, hstep, hc₁⟩ := hskip outer hblanks hitem hlisted.ends
      rw [skipAfter_comma hrest, hstep]
      exact hmore hc₁
    | false =>
      have hrest := Blanks.skipBlanks_eq hseparated hb
      obtain ⟨c₁, hstep, hc₁⟩ :=
        hskip outer (c := c.skipBlanks) (hrest ▸ Blanks.none _) hitem hlisted.ends
      rw [skipAfter_first (hrest ▸ hbegun), hstep]
      exact hmore hc₁

/-- A value is skipped, whatever brackets are open. -/
theorem skipValue_complete {t : Tree} (opened : List Bracket) {c : Cursor} {after : Bytes}
    (h : Spaced (Written loosely t) c.rest after) (ends : Ends after) :
    ∃ c', skipValue opened c = skipAfter opened true c' ∧ c'.rest = after := by
  have scalar : ∀ {t : Tree} {opened : List Bracket} {c : Cursor} {after : Bytes}, t.nesting = 0 →
      Spaced (Written loosely t) c.rest after → Ends after →
      ∃ c', skipValue opened c = skipAfter opened true c' ∧ c'.rest = after := by
    rintro t opened c after hnesting ⟨start, hblanks, hwritten⟩ ends
    obtain ⟨b, tail, rfl, hb, -⟩ := hwritten.begun
    have hrest := hblanks.skipBlanks_eq hb
    have hlt := hwritten.length_lt skimmed_shrinks
    rw [← hrest] at hwritten
    obtain ⟨c', hscalar, rfl⟩ := skipScalar_complete hnesting hwritten ends
    have hle := hblanks.length_le
    exact ⟨c', skipValue_scalar hscalar (by omega), rfl⟩
  have enclosed : ∀ {bracket : Bracket} {items : List Rule} {opened : List Bracket} {c : Cursor}
      {after : Bytes}, (∀ item ∈ items, (∀ start stop, item start stop → Begun start) ∧
        ∀ outer {c start stop}, Blanks c.rest start → item start stop → Ends stop →
          ∃ c', skipItem bracket outer c = skipAfter (bracket :: outer) true c' ∧ c'.rest = stop) →
      Spaced (Enclosed bracket items) c.rest after →
      ∃ c', skipValue opened c = skipAfter opened true c' ∧ c'.rest = after := by
    rintro bracket items opened c after hitems ⟨start, hblanks, mid, rfl, hlisted⟩
    have hrest := hblanks.skipBlanks_eq (show isBlank bracket.opening = false by cases bracket <;> rfl)
    rw [skipValue_opening hrest]
    rw [← after_rest c.skipBlanks bracket.opening mid] at hlisted
    exact skipAfter_complete hitems opened false hlisted
  -- on the tree, for any open brackets: there is one more of them around what is in it
  induction t generalizing opened c after with
  | array elements ih =>
    refine enclosed ?_ h
    intro item hitem
    rw [elementRules_eq_map] at hitem
    obtain ⟨t, ht, rfl⟩ := List.mem_map.1 hitem
    refine ⟨fun _ _ => Written.begun, fun outer c start stop hblanks hwritten hends => ?_⟩
    obtain ⟨c', hskip, hafter⟩ := ih t ht (.list :: outer) ⟨start, hblanks, hwritten⟩ hends
    exact ⟨c', by rw [skipItem.eq_def]; exact hskip, hafter⟩
  | object members ih =>
    refine enclosed ?_ h
    intro item hitem
    rw [memberRules_eq_map] at hitem
    obtain ⟨m, hm, rfl⟩ := List.mem_map.1 hitem
    refine ⟨fun _ _ => Member.begun, fun outer c start stop hblanks hmember hends => ?_⟩
    obtain ⟨c₁, hkey, hle, hvalue⟩ := skipKey_complete hblanks hmember
    obtain ⟨c', hskip, hafter⟩ := ih m hm (.object :: outer) hvalue hends
    refine ⟨c', ?_, hafter⟩
    rw [skipItem.eq_def]
    simp only [hkey, if_pos hle, hskip]
  | _ => exact scalar rfl h ends

theorem skip_complete {t : Tree} {c : Cursor} {after : Bytes}
    (h : Spaced (Written loosely t) c.rest after) (ends : Ends after) :
    ∃ c', skip c = .ok c' ∧ c'.rest = after := by
  obtain ⟨c', hskip, hafter⟩ := skipValue_complete [] h ends
  refine ⟨c', ?_, hafter⟩
  unfold skip
  rw [hskip, skipAfter]

/-- However it is read, a value that is written loosely ends at the same place. -/
theorem Written.stop_unique {t t' : Tree} {before after after' : Bytes}
    (h : Written loosely t before after) (h' : Written loosely t' before after') (ends : Ends after)
    (ends' : Ends after') : after = after' := by
  obtain ⟨c, hskip, hc⟩ := skip_complete (c := .start before) ⟨before, .none _, h⟩ ends
  obtain ⟨c', hskip', hc'⟩ := skip_complete (c := .start before) ⟨before, .none _, h'⟩ ends'
  rw [hskip] at hskip'
  cases hskip'
  exact hc.symm.trans hc'

end QuerySwarm.Json
