import Mathlib.Data.List.Nodup
import QuerySwarm.Proofs.Json.Documents
import QuerySwarm.Proofs.Json.Members

/-!
# The order of members

Trees that differ in the order of members with different keys, at any level, have the same value
(`Reorders.value?_eq`) and are nested as deep. Members with different keys may be put in any order
(`Reorders.of_perm`), in particular in the order of their keys, as values have them
(`Members.ofList_perm`).
-/

namespace QuerySwarm

/-! ### Members with different keys -/

namespace Members

theorem set_perm {key : String} {members : Members} (h : key ∉ members.keys) (x : Json) :
    (set key x members).Perm ((key, x) :: members) := by
  induction members with
  | nil => exact .refl _
  | cons member rest ih =>
    obtain ⟨k, v⟩ := member
    obtain ⟨hne, hrest⟩ := List.ne_and_not_mem_of_not_mem_cons h
    unfold set
    split
    · exact .refl _
    · exact ((ih hrest).cons (k, v)).trans (.swap _ _ _)

/-- Where all keys are different, all entries are kept. -/
theorem ofList_perm {entries : Members} (h : entries.keys.Nodup) : (ofList entries).Perm entries := by
  suffices hall : ∀ done rest : Members, (done ++ rest).keys.Nodup →
      (setAll done rest).Perm (done ++ rest) from hall [] entries h
  intro done rest
  induction rest generalizing done with
  | nil => exact fun _ => .of_eq (List.append_nil done).symm
  | cons entry rest ih =>
    intro nodup
    obtain ⟨key, x⟩ := entry
    have hkey : key ∉ keys done := by
      unfold keys at nodup ⊢
      rw [List.map_append, List.map_cons, List.nodup_middle, List.nodup_cons] at nodup
      exact fun hmem => nodup.1 (List.mem_append_left _ hmem)
    have hperm : (set key x done ++ rest).Perm (done ++ (key, x) :: rest) :=
      ((set_perm hkey x).append_right rest).trans List.perm_middle.symm
    exact (ih _ ((hperm.map Prod.fst).nodup_iff.2 nodup)).trans hperm

end Members

namespace Json.Tree

/-- Trees that differ in the order of members with different keys, at any level. -/
inductive Reorders : Tree → Tree → Prop
  | refl (t : Tree) : Reorders t t
  | trans {t t' t'' : Tree} (h : Reorders t t') (h' : Reorders t' t'') : Reorders t t''
  | swap {key key' : String} (hne : key ≠ key') (value value' : Tree)
    (before after : List (String × Tree)) :
    Reorders (.object (before ++ (key, value) :: (key', value') :: after))
      (.object (before ++ (key', value') :: (key, value) :: after))
  | element {t t' : Tree} (h : Reorders t t') (before after : List Tree) :
    Reorders (.array (before ++ t :: after)) (.array (before ++ t' :: after))
  | member {t t' : Tree} (h : Reorders t t') (key : String) (before after : List (String × Tree)) :
    Reorders (.object (before ++ (key, t) :: after)) (.object (before ++ (key, t') :: after))

theorem elementValues?_congr {ts ts' : List Tree} (h : ts.map value? = ts'.map value?) :
    elementValues? ts = elementValues? ts' := by
  induction ts generalizing ts' with
  | nil =>
    rw [List.map_nil, eq_comm, List.map_eq_nil_iff] at h
    rw [h]
  | cons t ts ih =>
    cases ts' with
    | nil => cases h
    | cons t' ts' =>
      obtain ⟨hfirst, hrest⟩ := List.cons.inj h
      rw [elementValues?, elementValues?, hfirst, ih hrest]

theorem memberValues?_append (ms ms' : List (String × Tree)) :
    memberValues? (ms ++ ms') =
      (memberValues? ms).bind fun entries => (memberValues? ms').map (entries ++ ·) := by
  induction ms with
  | nil =>
    rw [List.nil_append]
    exact Option.map_id'.symm
  | cons m ms ih =>
    rw [List.cons_append, memberValues?, memberValues?, ih]
    cases value? m.2 <;> cases memberValues? ms <;> cases memberValues? ms' <;> rfl

/-- The order of members with different keys is not seen in a value. -/
theorem Reorders.value?_eq {t t' : Tree} (h : Reorders t t') : t.value? = t'.value? := by
  induction h with
  | refl t => rfl
  | trans _ _ ih ih' => exact ih.trans ih'
  | swap hne value value' before after =>
    rw [value?, value?, memberValues?_append, memberValues?_append]
    simp only [memberValues?]
    cases memberValues? before <;> cases value? value <;> cases value? value' <;>
      cases memberValues? after
    all_goals try rfl
    exact congrArg (fun members => some (Json.object members)) (Members.ofList_swap hne _ _ _ _)
  | element _ before after ih =>
    rw [value?, value?, elementValues?_congr]
    rw [List.map_append, List.map_append, List.map_cons, List.map_cons, ih]
  | member _ key before after ih =>
    rw [value?, value?, memberValues?_append, memberValues?_append, memberValues?, memberValues?, ih]

theorem Reorders.nesting_eq {t t' : Tree} (h : Reorders t t') : t.nesting = t'.nesting := by
  induction h with
  | refl t => rfl
  | trans _ _ ih ih' => exact ih.trans ih'
  | swap hne value value' before after =>
    refine congrArg (· + 1) (eq_of_forall_ge_iff fun n => ?_)
    simp only [nestingOfMembers_le_iff, List.forall_mem_append, List.forall_mem_cons]
    tauto
  | element _ before after ih =>
    refine congrArg (· + 1) (eq_of_forall_ge_iff fun n => ?_)
    simp only [nestingOfElements_le_iff, List.forall_mem_append, List.forall_mem_cons, ih]
  | member _ key before after ih =>
    refine congrArg (· + 1) (eq_of_forall_ge_iff fun n => ?_)
    simp only [nestingOfMembers_le_iff, List.forall_mem_append, List.forall_mem_cons, ih]

/-! ### Lists of trees -/

section Lists

variable {R : Tree → Tree → Prop}

/-- Where trees may be replaced one at a time, the elements of an array may be replaced together. -/
theorem array_of_forall₂ (refl : ∀ t, R t t) (trans : ∀ {t t' t''}, R t t' → R t' t'' → R t t'')
    (element : ∀ {t t'}, R t t' → ∀ before after : List Tree,
      R (.array (before ++ t :: after)) (.array (before ++ t' :: after)))
    {elements elements' : List Tree} (h : List.Forall₂ R elements elements') :
    R (.array elements) (.array elements') := by
  suffices hall : ∀ before : List Tree,
      R (.array (before ++ elements)) (.array (before ++ elements')) from
    hall []
  induction h with
  | nil => exact fun _ => refl _
  | @cons t t' ts ts' hfirst _ ih =>
    intro before
    -- what has been replaced stands before what has not
    have hrest := ih (before ++ [t'])
    rw [List.append_assoc, List.append_assoc] at hrest
    exact trans (element hfirst before ts) hrest

/-- The members of an object may be replaced together, as elements may. -/
theorem object_of_forall₂ (refl : ∀ t, R t t) (trans : ∀ {t t' t''}, R t t' → R t' t'' → R t t'')
    (member : ∀ {t t'}, R t t' → ∀ (key : String) (before after : List (String × Tree)),
      R (.object (before ++ (key, t) :: after)) (.object (before ++ (key, t') :: after)))
    {members members' : List (String × Tree)}
    (h : List.Forall₂ (fun m m' => m.1 = m'.1 ∧ R m.2 m'.2) members members') :
    R (.object members) (.object members') := by
  suffices hall : ∀ before : List (String × Tree),
      R (.object (before ++ members)) (.object (before ++ members')) from hall []
  induction h with
  | nil => exact fun _ => refl _
  | @cons m m' ms ms' hfirst _ ih =>
    obtain ⟨key, t⟩ := m
    obtain ⟨key', t'⟩ := m'
    obtain ⟨rfl, hvalue⟩ := hfirst
    intro before
    have hrest := ih (before ++ [(key, t')])
    rw [List.append_assoc, List.append_assoc] at hrest
    exact trans (member hvalue key before ms) hrest

end Lists

/-- Members with different keys may be put in any order. -/
theorem Reorders.of_perm {members members' : List (String × Tree)} (h : members.Perm members')
    (nodup : (members.map Prod.fst).Nodup) : Reorders (.object members) (.object members') := by
  suffices hall : ∀ before : List (String × Tree),
      Reorders (.object (before ++ members)) (.object (before ++ members')) from hall []
  induction h with
  | nil => exact fun _ => .refl _
  | cons m _ ih =>
    intro before
    have hrest := ih (List.nodup_cons.1 nodup).2 (before ++ [m])
    rwa [List.append_assoc, List.append_assoc] at hrest
  | swap m m' ms =>
    intro before
    have hne : m.1 ≠ m'.1 := fun heq => (List.nodup_cons.1 nodup).1 (by
      rw [List.map_cons, heq]
      exact List.mem_cons_self)
    exact .swap hne.symm m'.2 m.2 before ms
  | trans hfirst _ ih ih' =>
    exact fun before => (ih nodup before).trans
      (ih' ((hfirst.map Prod.fst).nodup_iff.1 nodup) before)

end Json.Tree

end QuerySwarm
