import QuerySwarm.Proofs.Json.Reorders
import QuerySwarm.Proofs.Json.Texts

/-!
# What reading and printing does to a tree

A tree that is read and printed again has its members in the order of their keys, and its numbers as
they are printed (`reorders_of_value?`). Whether it still says the same is decided by its numbers
(`restates_respell_iff`): along the path to a number of the one tree there is the number that takes
its place in the other.

* `Tree.Restates`: trees that differ in the order of members, and in how the same number is written.
* `Tree.numberAt?`: the number at a path, which is the same in both.
-/

namespace QuerySwarm.Json

/-- The numeral that is printed for what a numeral is read as. -/
def Numeral.reprinted (n : Numeral) : Numeral :=
  match n.number? with
  | some number => number.numeral
  | none => n

theorem isFinite_of_number? {n : Numeral} {number : Number} (h : n.number? = some number) :
    number.IsFinite := by
  cases number with
  | integer i => trivial
  | double x => exact isFinite_of_double h

theorem Numeral.rational_reprinted {n : Numeral} {number : Number} (h : n.number? = some number) :
    n.reprinted.rational = number.rational := by
  unfold reprinted
  rw [h]
  exact Number.rational_numeral (isFinite_of_number? h)

namespace Tree

/-! ### The numbers of a tree -/

mutual

/-- The tree with other numerals. -/
def respell (f : Numeral → Numeral) : Tree → Tree
  | .number n => .number (f n)
  | .array elements => .array (respellElements f elements)
  | .object members => .object (respellMembers f members)
  | other => other

def respellElements (f : Numeral → Numeral) : List Tree → List Tree
  | [] => []
  | t :: ts => respell f t :: respellElements f ts

def respellMembers (f : Numeral → Numeral) : List (String × Tree) → List (String × Tree)
  | [] => []
  | (key, t) :: ms => (key, respell f t) :: respellMembers f ms

end

mutual

/-- The numerals of a tree. -/
def numerals : Tree → List Numeral
  | .number n => [n]
  | .array elements => numeralsOfElements elements
  | .object members => numeralsOfMembers members
  | _ => []

def numeralsOfElements : List Tree → List Numeral
  | [] => []
  | t :: ts => numerals t ++ numeralsOfElements ts

def numeralsOfMembers : List (String × Tree) → List Numeral
  | [] => []
  | (_, t) :: ms => numerals t ++ numeralsOfMembers ms

end

mutual

/-- Whether the members of every object have different keys. -/
def HasDistinctKeys : Tree → Prop
  | .array elements => ElementsHaveDistinctKeys elements
  | .object members => (members.map Prod.fst).Nodup ∧ MembersHaveDistinctKeys members
  | _ => True

def ElementsHaveDistinctKeys : List Tree → Prop
  | [] => True
  | t :: ts => HasDistinctKeys t ∧ ElementsHaveDistinctKeys ts

def MembersHaveDistinctKeys : List (String × Tree) → Prop
  | [] => True
  | (_, t) :: ms => HasDistinctKeys t ∧ MembersHaveDistinctKeys ms

end

section Lists

variable {f : Numeral → Numeral} {elements : List Tree} {members : List (String × Tree)}

theorem respellElements_eq_map : respellElements f elements = elements.map (respell f) := by
  induction elements with
  | nil => rfl
  | cons t ts ih => rw [respellElements, ih, List.map_cons]

theorem respellMembers_eq_map :
    respellMembers f members = members.map fun m => (m.1, respell f m.2) := by
  induction members with
  | nil => rfl
  | cons m ms ih => rw [respellMembers, ih, List.map_cons]

theorem mem_numeralsOfElements_iff {n : Numeral} :
    n ∈ numeralsOfElements elements ↔ ∃ t ∈ elements, n ∈ numerals t := by
  induction elements with
  | nil => simp [numeralsOfElements]
  | cons t ts ih =>
    simp only [numeralsOfElements, List.mem_append, ih, List.mem_cons, exists_eq_or_imp]

theorem mem_numeralsOfMembers_iff {n : Numeral} :
    n ∈ numeralsOfMembers members ↔ ∃ m ∈ members, n ∈ numerals m.2 := by
  induction members with
  | nil => simp [numeralsOfMembers]
  | cons m ms ih =>
    simp only [numeralsOfMembers, List.mem_append, ih, List.mem_cons, exists_eq_or_imp]

theorem elementsHaveDistinctKeys_iff :
    ElementsHaveDistinctKeys elements ↔ ∀ t ∈ elements, HasDistinctKeys t := by
  induction elements with
  | nil => exact iff_of_true trivial fun _ ht => absurd ht List.not_mem_nil
  | cons t ts ih => rw [ElementsHaveDistinctKeys, ih, List.forall_mem_cons]

theorem membersHaveDistinctKeys_iff :
    MembersHaveDistinctKeys members ↔ ∀ m ∈ members, HasDistinctKeys m.2 := by
  induction members with
  | nil => exact iff_of_true trivial fun _ hm => absurd hm List.not_mem_nil
  | cons m ms ih => rw [MembersHaveDistinctKeys, ih, List.forall_mem_cons]

end Lists

theorem exists_of_forall₂_left {α β : Type} {R : α → β → Prop} {xs : List α} {ys : List β}
    (h : List.Forall₂ R xs ys) {x : α} (hx : x ∈ xs) : ∃ y ∈ ys, R x y := by
  induction h with
  | nil => cases hx
  | cons hfirst _ ih =>
    rcases List.mem_cons.1 hx with rfl | hmem
    · exact ⟨_, List.mem_cons_self, hfirst⟩
    · obtain ⟨y, hy, hR⟩ := ih hmem
      exact ⟨y, List.mem_cons_of_mem _ hy, hR⟩

theorem exists_forall₂ {α β : Type} {R : α → β → Prop} {xs : List α} (h : ∀ x ∈ xs, ∃ y, R x y) :
    ∃ ys, List.Forall₂ R xs ys := by
  induction xs with
  | nil => exact ⟨[], .nil⟩
  | cons x xs ih =>
    obtain ⟨⟨y, hy⟩, hrest⟩ := List.forall_mem_cons.1 h
    obtain ⟨ys, hys⟩ := ih hrest
    exact ⟨y :: ys, .cons hy hys⟩

/-! ### Reading and printing -/

theorem ofJson_toJson {n : Numeral} {number : Number} (h : n.number? = some number) :
    ofJson number.toJson = .number number.numeral := by
  cases number with
  | integer i => rfl
  | double x => exact if_pos (isFinite_of_double h)

/-- A tree that is read and printed again: the members go in the order of their keys, and numbers are
written as they are printed. -/
theorem reorders_of_value? {t : Tree} {x : Json} (h : t.value? = some x)
    (distinct : t.HasDistinctKeys) : (t.respell Numeral.reprinted).Reorders (ofJson x) := by
  induction t generalizing x with
  | null =>
    cases h
    exact .refl _
  | boolean value =>
    cases h
    exact .refl _
  | string s =>
    cases h
    exact .refl _
  | number n =>
    obtain ⟨number, hnumber, rfl⟩ := Option.map_eq_some_iff.1 h
    have hreprinted : respell Numeral.reprinted (.number n) = .number number.numeral := by
      rw [respell, Numeral.reprinted, hnumber]
    rw [hreprinted, ofJson_toJson hnumber]
    exact .refl _
  | array elements ih =>
    obtain ⟨xs, hxs, rfl⟩ := Option.map_eq_some_iff.1 h
    rw [elementValues?_eq_some_iff] at hxs
    rw [respell, respellElements_eq_map, ofJson, ofElements_eq_map]
    refine array_of_forall₂ .refl .trans .element ?_
    rw [List.forall₂_map_left_iff, List.forall₂_map_right_iff]
    have hdistinct := elementsHaveDistinctKeys_iff.1 distinct
    have hread : ∀ t ∈ elements, ∀ x, t.value? = some x →
        (t.respell Numeral.reprinted).Reorders (ofJson x) := fun t ht _ hx =>
      ih t ht hx (hdistinct t ht)
    exact ((List.forall₂_and_left _ _).2 ⟨hread, hxs⟩).imp fun _ x ⟨hall, hx⟩ => hall x hx
  | object members ih =>
    obtain ⟨entries, hentries, rfl⟩ := Option.map_eq_some_iff.1 h
    rw [memberValues?_eq_some_iff] at hentries
    have hdistinct := membersHaveDistinctKeys_iff.1 distinct.2
    have hread : ∀ m ∈ members, ∀ x, m.2.value? = some x →
        (m.2.respell Numeral.reprinted).Reorders (ofJson x) := fun m hm _ hx =>
      ih m hm hx (hdistinct m hm)
    have hmembers : Reorders (respell Numeral.reprinted (.object members))
        (.object (entries.map fun e => (e.1, ofJson e.2))) := by
      rw [respell, respellMembers_eq_map]
      refine object_of_forall₂ .refl .trans .member ?_
      rw [List.forall₂_map_left_iff, List.forall₂_map_right_iff]
      exact ((List.forall₂_and_left _ _).2 ⟨hread, hentries⟩).imp fun _ e ⟨hall, hkey, hx⟩ =>
        ⟨hkey, hall e.2 hx⟩
    have hkeys : members.map Prod.fst = entries.map Prod.fst := by
      rw [← List.forall₂_eq_eq_eq, List.forall₂_map_left_iff, List.forall₂_map_right_iff]
      exact hentries.imp fun _ _ he => he.1
    have hnodup : (entries.map Prod.fst).Nodup := hkeys ▸ distinct.1
    have hsorted := ((Members.ofList_perm hnodup).map fun e => (e.1, ofJson e.2)).symm
    refine hmembers.trans ?_
    show Reorders _ (.object (ofMembers (Members.ofList entries)))
    rw [ofMembers_eq_map]
    refine .of_perm hsorted ?_
    rw [List.map_map]
    exact hnodup

/-- Where a tree can be read, so can its numerals. -/
theorem exists_number? {t : Tree} {x : Json} (h : t.value? = some x) {n : Numeral}
    (hn : n ∈ t.numerals) : ∃ number, n.number? = some number := by
  induction t generalizing x with
  | number n' =>
    obtain rfl := List.mem_singleton.1 hn
    obtain ⟨number, hnumber, -⟩ := Option.map_eq_some_iff.1 h
    exact ⟨number, hnumber⟩
  | array elements ih =>
    obtain ⟨t, ht, hn⟩ := mem_numeralsOfElements_iff.1 hn
    obtain ⟨xs, hxs, -⟩ := Option.map_eq_some_iff.1 h
    obtain ⟨x, -, hx⟩ := exists_of_forall₂_left (elementValues?_eq_some_iff.1 hxs) ht
    exact ih t ht hx hn
  | object members ih =>
    obtain ⟨m, hm, hn⟩ := mem_numeralsOfMembers_iff.1 hn
    obtain ⟨entries, hentries, -⟩ := Option.map_eq_some_iff.1 h
    obtain ⟨e, -, -, hx⟩ := exists_of_forall₂_left (memberValues?_eq_some_iff.1 hentries) hm
    exact ih m hm hx hn
  | _ => cases hn

/-- Where the numerals of a tree can be read, so can the tree. -/
theorem exists_value? {t : Tree} (h : ∀ n ∈ t.numerals, ∃ number, n.number? = some number) :
    ∃ x, t.value? = some x := by
  induction t with
  | number n =>
    obtain ⟨number, hnumber⟩ := h n (List.mem_singleton_self n)
    exact ⟨number.toJson, Option.map_eq_some_iff.2 ⟨number, hnumber, rfl⟩⟩
  | array elements ih =>
    have hall : ∀ t ∈ elements, ∃ x, t.value? = some x := fun t ht =>
      ih t ht fun n hn => h n (mem_numeralsOfElements_iff.2 ⟨t, ht, hn⟩)
    obtain ⟨xs, hxs⟩ := exists_forall₂ hall
    exact ⟨.array xs, Option.map_eq_some_iff.2 ⟨xs, elementValues?_eq_some_iff.2 hxs, rfl⟩⟩
  | object members ih =>
    have hall : ∀ m ∈ members, ∃ e : String × Json, m.1 = e.1 ∧ m.2.value? = some e.2 := fun m hm => by
      obtain ⟨x, hx⟩ := ih m hm fun n hn => h n (mem_numeralsOfMembers_iff.2 ⟨m, hm, hn⟩)
      exact ⟨(m.1, x), rfl, hx⟩
    obtain ⟨entries, hentries⟩ := exists_forall₂ hall
    exact ⟨_, Option.map_eq_some_iff.2 ⟨entries, memberValues?_eq_some_iff.2 hentries, rfl⟩⟩
  | _ => exact ⟨_, rfl⟩

/-! ### What a tree says -/

/-- Trees that differ in the order of members with different keys, and in how numbers are written. -/
inductive Restates : Tree → Tree → Prop
  | reorder {t t' : Tree} (h : Reorders t t') : Restates t t'
  | trans {t t' t'' : Tree} (h : Restates t t') (h' : Restates t' t'') : Restates t t''
  | number {n n' : Numeral} (h : n.rational = n'.rational) : Restates (.number n) (.number n')
  | element {t t' : Tree} (h : Restates t t') (before after : List Tree) :
    Restates (.array (before ++ t :: after)) (.array (before ++ t' :: after))
  | member {t t' : Tree} (h : Restates t t') (key : String) (before after : List (String × Tree)) :
    Restates (.object (before ++ (key, t) :: after)) (.object (before ++ (key, t') :: after))

theorem Restates.refl (t : Tree) : Restates t t := .reorder (.refl t)

theorem restates_respell {f : Numeral → Numeral} {t : Tree}
    (h : ∀ n ∈ t.numerals, (f n).rational = n.rational) : t.Restates (t.respell f) := by
  induction t with
  | number n => exact .number (h n (List.mem_singleton_self n)).symm
  | array elements ih =>
    rw [respell, respellElements_eq_map]
    refine array_of_forall₂ .refl .trans .element ?_
    rw [List.forall₂_map_right_iff, List.forall₂_same]
    exact fun t ht => ih t ht fun n hn => h n (mem_numeralsOfElements_iff.2 ⟨t, ht, hn⟩)
  | object members ih =>
    rw [respell, respellMembers_eq_map]
    refine object_of_forall₂ .refl .trans .member ?_
    rw [List.forall₂_map_right_iff, List.forall₂_same]
    exact fun m hm => ⟨rfl, ih m hm fun n hn => h n (mem_numeralsOfMembers_iff.2 ⟨m, hm, hn⟩)⟩
  | _ => exact .refl _

/-! ### Paths -/

/-- A step from a tree to one in it. -/
inductive Step where
  | element (i : Nat)
  | member (key : String)

/-- The number that stands at a path. -/
def numberAt? : List Step → Tree → Option ℚ
  | [], .number n => some n.rational
  | .element i :: path, .array elements => elements[i]?.bind (numberAt? path)
  | .member key :: path, .object members => (Members.last? key members).bind (numberAt? path)
  | _, _ => none

theorem numberAt?_element {t t' : Tree} (h : ∀ path, numberAt? path t = numberAt? path t')
    (before after : List Tree) (path : List Step) :
    numberAt? path (.array (before ++ t :: after)) =
      numberAt? path (.array (before ++ t' :: after)) := by
  match path with
  | [] => rfl
  | .member key :: path => rfl
  | .element i :: path =>
    rw [numberAt?, numberAt?]
    rcases Nat.lt_trichotomy i before.length with hlt | heq | hgt
    · rw [List.getElem?_append_left hlt, List.getElem?_append_left hlt]
    · rw [heq, List.getElem?_append_right (Nat.le_refl _), List.getElem?_append_right (Nat.le_refl _),
        Nat.sub_self]
      exact h path
    · obtain ⟨k, rfl⟩ := Nat.exists_eq_add_of_lt hgt
      rw [List.getElem?_append_right (by omega), List.getElem?_append_right (by omega),
        show before.length + k + 1 - before.length = k + 1 by omega]
      rfl

theorem numberAt?_member {t t' : Tree} (h : ∀ path, numberAt? path t = numberAt? path t')
    (key : String) (before after : List (String × Tree)) (path : List Step) :
    numberAt? path (.object (before ++ (key, t) :: after)) =
      numberAt? path (.object (before ++ (key, t') :: after)) := by
  match path with
  | [] => rfl
  | .element i :: path => rfl
  | .member k :: path =>
    rw [numberAt?, numberAt?, Members.last?_append, Members.last?_append, Members.last?, Members.last?]
    cases Members.last? k after with
    | some other => rfl
    | none =>
      by_cases hk : k = key
      · rw [if_pos hk, if_pos hk]
        exact h path
      · rw [if_neg hk, if_neg hk]

theorem Reorders.numberAt?_eq {t t' : Tree} (h : Reorders t t') (path : List Step) :
    numberAt? path t = numberAt? path t' := by
  induction h generalizing path with
  | refl t => rfl
  | trans _ _ ih ih' => exact (ih path).trans (ih' path)
  | swap hne value value' before after =>
    match path with
    | [] => rfl
    | .element i :: path => rfl
    | .member k :: path =>
      rw [numberAt?, numberAt?, Members.last?_swap hne]
  | element _ before after ih => exact numberAt?_element ih before after path
  | member _ key before after ih => exact numberAt?_member ih key before after path

/-- The numbers stand where they stood. -/
theorem Restates.numberAt?_eq {t t' : Tree} (h : Restates t t') (path : List Step) :
    numberAt? path t = numberAt? path t' := by
  induction h generalizing path with
  | reorder h => exact h.numberAt?_eq path
  | trans _ _ ih ih' => exact (ih path).trans (ih' path)
  | number h =>
    cases path with
    | nil => exact congrArg some h
    | cons step path => cases step <;> rfl
  | element _ before after ih => exact numberAt?_element ih before after path
  | member _ key before after ih => exact numberAt?_member ih key before after path

/-- There is a path to every number, and after the tree is respelled it leads to what the number is
written as. -/
theorem exists_path {t : Tree} (distinct : t.HasDistinctKeys) {n : Numeral} (hn : n ∈ t.numerals) :
    ∃ path, numberAt? path t = some n.rational ∧
      ∀ f, numberAt? path (t.respell f) = some (f n).rational := by
  induction t with
  | number n' =>
    obtain rfl := List.mem_singleton.1 hn
    exact ⟨[], rfl, fun _ => rfl⟩
  | array elements ih =>
    obtain ⟨t, ht, hn⟩ := mem_numeralsOfElements_iff.1 hn
    obtain ⟨path, hpath, hrespelled⟩ := ih t ht (elementsHaveDistinctKeys_iff.1 distinct t ht) hn
    obtain ⟨i, hi⟩ := List.mem_iff_getElem?.1 ht
    refine ⟨.element i :: path, ?_, fun f => ?_⟩
    · rw [numberAt?, hi]
      exact hpath
    · rw [respell, respellElements_eq_map, numberAt?, List.getElem?_map, hi]
      exact hrespelled f
  | object members ih =>
    obtain ⟨m, hm, hn⟩ := mem_numeralsOfMembers_iff.1 hn
    obtain ⟨path, hpath, hrespelled⟩ := ih m hm (membersHaveDistinctKeys_iff.1 distinct.2 m hm) hn
    -- a path leads to the last member with its key, so here all keys have to be different
    refine ⟨.member m.1 :: path, ?_, fun f => ?_⟩
    · rw [numberAt?, Members.last?_of_mem distinct.1 hm]
      exact hpath
    · have hrespell : Members.last? m.1 (members.map fun m => (m.1, respell f m.2)) =
          some (respell f m.2) := by
        have hmem : (m.1, respell f m.2) ∈ members.map fun m => (m.1, respell f m.2) :=
          List.mem_map_of_mem hm
        refine Members.last?_of_mem ?_ hmem
        rw [List.map_map]
        exact distinct.1
      rw [respell, respellMembers_eq_map, numberAt?, hrespell]
      exact hrespelled f
  | _ => cases hn

/-- What is said after a tree has been respelled is the same exactly if each number is. -/
theorem restates_respell_iff {f : Numeral → Numeral} {t t' : Tree} (distinct : t.HasDistinctKeys)
    (h : (t.respell f).Reorders t') :
    t.Restates t' ↔ ∀ n ∈ t.numerals, (f n).rational = n.rational := by
  constructor
  · intro hsame n hn
    obtain ⟨path, hpath, hrespelled⟩ := exists_path distinct hn
    have hnumber := (hsame.numberAt?_eq path).symm.trans hpath
    rw [← h.numberAt?_eq path, hrespelled f] at hnumber
    exact Option.some.inj hnumber
  · exact fun hkept => (restates_respell hkept).trans (.reorder h)

end Tree

end QuerySwarm.Json
