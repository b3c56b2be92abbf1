import QuerySwarm.Proofs.Json.Restates
import QuerySwarm.Proofs.Text.Order

/-!
# Keys in the order of their bytes

A tree has rising keys if in each of its objects every key is less, byte by byte, than the next
(`Tree.HasRisingKeys`). An object of members that are listed in any order is printed with rising keys
(`hasRisingKeys_ofList`), and so is what was read from a text (`hasRisingKeys_of_value?`).
-/

namespace QuerySwarm.Json.Tree

/-! ### The objects in a tree -/

mutual

/-- The members of every object in a tree, the outermost first. -/
def objects : Tree → List (List (String × Tree))
  | .array elements => objectsOfElements elements
  | .object members => members :: objectsOfMembers members
  | _ => []

def objectsOfElements : List Tree → List (List (String × Tree))
  | [] => []
  | t :: ts => objects t ++ objectsOfElements ts

def objectsOfMembers : List (String × Tree) → List (List (String × Tree))
  | [] => []
  | (_, t) :: ms => objects t ++ objectsOfMembers ms

end

/-- Whether the keys of every object rise in the order of their bytes. -/
def HasRisingKeys (t : Tree) : Prop :=
  ∀ members ∈ t.objects, (members.map fun m => bytesOf m.1).Pairwise (· < ·)

section Objects

variable {t : Tree} {elements : List Tree} {members : List (String × Tree)}

theorem mem_objectsOfElements_iff :
    members ∈ objectsOfElements elements ↔ ∃ t ∈ elements, members ∈ objects t := by
  induction elements with
  | nil => simp [objectsOfElements]
  | cons t ts ih =>
    simp only [objectsOfElements, List.mem_append, ih, List.mem_cons, exists_eq_or_imp]

theorem mem_objectsOfMembers_iff {ms : List (String × Tree)} :
    members ∈ objectsOfMembers ms ↔ ∃ m ∈ ms, members ∈ objects m.2 := by
  induction ms with
  | nil => simp [objectsOfMembers]
  | cons m ms ih =>
    simp only [objectsOfMembers, List.mem_append, ih, List.mem_cons, exists_eq_or_imp]

theorem hasRisingKeys_of_objects_eq_nil (h : t.objects = []) : t.HasRisingKeys := by
  intro members hmem
  rw [h] at hmem
  cases hmem

theorem hasRisingKeys_array_iff :
    (Tree.array elements).HasRisingKeys ↔ ∀ t ∈ elements, t.HasRisingKeys := by
  constructor
  · exact fun h t ht members hmem => h members (mem_objectsOfElements_iff.2 ⟨t, ht, hmem⟩)
  · intro h members hmem
    obtain ⟨t, ht, hmem⟩ := mem_objectsOfElements_iff.1 hmem
    exact h t ht members hmem

theorem hasRisingKeys_object_iff :
    (Tree.object members).HasRisingKeys ↔
      (members.map fun m => bytesOf m.1).Pairwise (· < ·) ∧ ∀ m ∈ members, m.2.HasRisingKeys := by
  constructor
  · intro h
    refine ⟨h members List.mem_cons_self, fun m hm members' hmem => h members' ?_⟩
    exact List.mem_cons_of_mem _ (mem_objectsOfMembers_iff.2 ⟨m, hm, hmem⟩)
  · rintro ⟨hkeys, h⟩ members' hmem
    rcases List.mem_cons.1 hmem with rfl | hmem
    · exact hkeys
    · obtain ⟨m, hm, hmem⟩ := mem_objectsOfMembers_iff.1 hmem
      exact h m hm members' hmem

end Objects

/-! ### Printed values -/

/-- The keys of printed members rise if the members are in order. -/
theorem hasRisingKeys_ofMembers_iff {members : Members} :
    (Tree.object (ofMembers members)).HasRisingKeys ↔
      Members.Sorted members ∧ ∀ m ∈ members, (ofJson m.2).HasRisingKeys := by
  have hkeys : Members.Sorted members ↔
      (members.map fun m => bytesOf m.1).Pairwise (· < ·) := by
    unfold Members.Sorted Members.keys
    simp only [List.pairwise_map, bytesOf_lt_iff]
  rw [ofMembers_eq_map, hasRisingKeys_object_iff, List.map_map, List.forall_mem_map, hkeys]
  rfl

theorem hasRisingKeys_nil : (Tree.object (ofMembers [])).HasRisingKeys :=
  hasRisingKeys_ofMembers_iff.2 ⟨List.Pairwise.nil, fun _ hm => absurd hm List.not_mem_nil⟩

theorem hasRisingKeys_ofElements_iff {elements : List Json} :
    (ofJson (.array elements)).HasRisingKeys ↔ ∀ e ∈ elements, (ofJson e).HasRisingKeys := by
  show (Tree.array (ofElements elements)).HasRisingKeys ↔ _
  rw [ofElements_eq_map, hasRisingKeys_array_iff, List.forall_mem_map]

/-- Whatever the order in which members are listed, an object has them in order. -/
theorem hasRisingKeys_ofList {entries : Members} (h : ∀ e ∈ entries, (ofJson e.2).HasRisingKeys) :
    (ofJson (.ofMembers entries)).HasRisingKeys :=
  hasRisingKeys_ofMembers_iff.2
    ⟨Members.sorted_ofList entries, fun m hm => h m (Members.mem_of_mem_ofList hm)⟩

theorem hasRisingKeys_ofDouble (x : Binary64) : (ofJson (.double x)).HasRisingKeys := by
  refine hasRisingKeys_of_objects_eq_nil ?_
  rw [ofJson]
  split <;> rfl

/-! ### Values that are read -/

/-- What is read is in order, whatever the order of the text. -/
theorem hasRisingKeys_of_value? {t : Tree} {x : Json} (h : t.value? = some x) :
    (ofJson x).HasRisingKeys := by
  induction t generalizing x with
  | null =>
    cases h
    exact hasRisingKeys_of_objects_eq_nil rfl
  | boolean value =>
    cases h
    exact hasRisingKeys_of_objects_eq_nil rfl
  | string s =>
    cases h
    exact hasRisingKeys_of_objects_eq_nil rfl
  | number n =>
    obtain ⟨number, -, rfl⟩ := Option.map_eq_some_iff.1 h
    cases number with
    | integer i => exact hasRisingKeys_of_objects_eq_nil rfl
    | double y => exact hasRisingKeys_ofDouble y
  | array elements ih =>
    obtain ⟨xs, hxs, rfl⟩ := Option.map_eq_some_iff.1 h
    refine hasRisingKeys_ofElements_iff.2 fun x hx => ?_
    obtain ⟨t, ht, hvalue⟩ := exists_of_forall₂_left (elementValues?_eq_some_iff.1 hxs).flip hx
    exact ih t ht hvalue
  | object members ih =>
    obtain ⟨entries, hentries, rfl⟩ := Option.map_eq_some_iff.1 h
    refine hasRisingKeys_ofList fun e he => ?_
    obtain ⟨m, hm, -, hvalue⟩ :=
      exists_of_forall₂_left (memberValues?_eq_some_iff.1 hentries).flip he
    exact ih m hm hvalue

end QuerySwarm.Json.Tree
