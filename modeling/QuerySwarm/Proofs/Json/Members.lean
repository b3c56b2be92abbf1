import Mathlib.Data.List.Forall2
import QuerySwarm.Json.Value

/-!
# Members by their keys

Members that are set one after the other are found under their keys, the last of several with one
key (`Members.get?_ofList`). Members in order are the same if the same is found in them
(`Members.Sorted.ext`), so members with different keys may be set in any order (`Members.set_comm`).
-/

namespace QuerySwarm.Members

/-! ### The last member with a key -/

/-- The last of the entries with a key. -/
def last? {α : Type} (key : String) : List (String × α) → Option α
  | [] => none
  | (k, x) :: rest => (last? key rest).or (if key = k then some x else none)

section Last

variable {α β : Type} {key : String}

theorem last?_append (entries entries' : List (String × α)) :
    last? key (entries ++ entries') = (last? key entries').or (last? key entries) := by
  induction entries with
  | nil => exact Option.or_none.symm
  | cons entry entries ih => rw [List.cons_append, last?, last?, ih, Option.or_assoc]

/-- An entry with another key is not looked at. -/
theorem last?_insert {k : String} (hne : key ≠ k) (before after : List (String × α)) (x : α) :
    last? key (before ++ (k, x) :: after) = last? key (before ++ after) := by
  rw [last?_append, last?_append, last?, if_neg hne, Option.or_none]

/-- Two entries with different keys may trade places. -/
theorem last?_swap {k k' : String} (hne : k ≠ k') (x x' : α) (before after : List (String × α)) :
    last? key (before ++ (k, x) :: (k', x') :: after) =
      last? key (before ++ (k', x') :: (k, x) :: after) := by
  simp only [last?_append, last?]
  by_cases hk : key = k
  · rw [if_neg (hk.trans_ne hne), Option.or_none, Option.or_none]
  · rw [if_neg hk, Option.or_none, Option.or_none]

theorem last?_eq_none {entries : List (String × α)} (h : key ∉ entries.map Prod.fst) :
    last? key entries = none := by
  induction entries with
  | nil => rfl
  | cons entry rest ih =>
    obtain ⟨hne, hrest⟩ := List.ne_and_not_mem_of_not_mem_cons h
    rw [last?, ih hrest, if_neg hne]
    rfl

/-- Where all keys are different, every entry is the last with its key. -/
theorem last?_of_mem {entries : List (String × α)} (nodup : (entries.map Prod.fst).Nodup)
    {entry : String × α} (h : entry ∈ entries) : last? entry.1 entries = some entry.2 := by
  induction entries with
  | nil => cases h
  | cons first rest ih =>
    obtain ⟨hfirst, hrest⟩ := List.nodup_cons.1 nodup
    rcases List.mem_cons.1 h with rfl | hmem
    · rw [last?, last?_eq_none hfirst, if_pos rfl]
      rfl
    · rw [last?, ih hrest hmem]
      rfl

/-- Where entries correspond one to one, so do the last with a key. -/
theorem last?_rel {R : α → β → Prop} {entries : List (String × α)} {entries' : List (String × β)}
    (h : List.Forall₂ (fun e e' => e.1 = e'.1 ∧ R e.2 e'.2) entries entries') :
    Option.Rel R (last? key entries) (last? key entries') := by
  induction h with
  | nil => exact .none
  | @cons e e' es es' hfirst _ ih =>
    obtain ⟨hkey, hR⟩ := hfirst
    rw [last?, last?, ← hkey]
    generalize last? key es = a, last? key es' = b at ih ⊢
    cases ih with
    | some hsome => exact .some hsome
    | none =>
      by_cases heq : key = e.1
      · rw [if_pos heq, if_pos heq]
        exact .some hR
      · rw [if_neg heq, if_neg heq]
        exact .none

end Last

theorem get?_setAll (key : String) (members entries : Members) :
    get? key (setAll members entries) = (last? key entries).or (get? key members) := by
  induction entries generalizing members with
  | nil => rfl
  | cons entry entries ih =>
    show get? key (setAll (set entry.1 entry.2 members) entries) = _
    rw [ih, last?, Option.or_assoc]
    congr 1
    by_cases h : key = entry.1
    · rw [if_pos h, h, get?_set]
      rfl
    · rw [if_neg h, get?_set_ne _ h]
      rfl

theorem get?_ofList (key : String) (entries : Members) :
    get? key (ofList entries) = last? key entries := by
  unfold ofList
  rw [get?_setAll]
  exact Option.or_none

/-! ### Members in order -/

theorem sorted_setAll {members : Members} (sorted : Sorted members) (entries : Members) :
    Sorted (setAll members entries) := by
  induction entries generalizing members with
  | nil => exact sorted
  | cons entry entries ih => exact ih (sorted_set entry.1 entry.2 sorted)

theorem sorted_ofList (entries : Members) : Sorted (ofList entries) := by
  have hnil : Sorted [] := List.Pairwise.nil
  exact sorted_setAll hnil entries

/-- A member is the one that was set, or was there before. -/
theorem mem_of_mem_set {key : String} {x : Json} {members : Members} {m : String × Json}
    (h : m ∈ set key x members) : m = (key, x) ∨ m ∈ members := by
  induction members with
  | nil => exact .inl (List.mem_singleton.1 h)
  | cons member rest ih =>
    unfold set at h
    split at h
    · exact List.mem_cons.1 h
    · split at h
      · exact (List.mem_cons.1 h).imp_right (List.mem_cons_of_mem _)
      · rcases List.mem_cons.1 h with rfl | hrest
        · exact .inr List.mem_cons_self
        · exact (ih hrest).imp_right (List.mem_cons_of_mem _)

theorem mem_of_mem_setAll {members entries : Members} {m : String × Json}
    (h : m ∈ setAll members entries) : m ∈ entries ∨ m ∈ members := by
  induction entries generalizing members with
  | nil => exact .inr h
  | cons entry entries ih =>
    have hall : m ∈ setAll (set entry.1 entry.2 members) entries := h
    rcases ih hall with hentries | hset
    · exact .inl (List.mem_cons_of_mem _ hentries)
    · exact (mem_of_mem_set hset).imp_left fun heq => List.mem_cons.2 (.inl heq)

theorem mem_of_mem_ofList {entries : Members} {m : String × Json} (h : m ∈ ofList entries) :
    m ∈ entries :=
  (mem_of_mem_setAll h).resolve_right List.not_mem_nil

theorem get?_eq_none_of_lt {key : String} {members : Members} (h : ∀ k ∈ members.keys, key < k) :
    get? key members = none := by
  induction members with
  | nil => rfl
  | cons member rest ih =>
    have hlt := h member.1 List.mem_cons_self
    rw [get?, if_neg (Std.ne_of_lt hlt), ih fun k hk => h k (List.mem_cons_of_mem _ hk)]

/-- Members in order are the same if the same is found in them. -/
theorem Sorted.ext {members members' : Members} (sorted : Sorted members)
    (sorted' : Sorted members') (h : ∀ key, get? key members = get? key members') :
    members = members' := by
  induction members generalizing members' with
  | nil =>
    cases members' with
    | nil => rfl
    | cons member' rest' =>
      have hnone := h member'.1
      rw [get?, get?, if_pos rfl] at hnone
      cases hnone
  | cons member rest ih =>
    obtain ⟨key, x⟩ := member
    cases members' with
    | nil =>
      have hnone := h key
      rw [get?, get?, if_pos rfl] at hnone
      cases hnone
    | cons member' rest' =>
      obtain ⟨key', x'⟩ := member'
      obtain ⟨hlt, hrest⟩ := List.pairwise_cons.1 sorted
      obtain ⟨hlt', hrest'⟩ := List.pairwise_cons.1 sorted'
      -- the least key of each is found in the other
      have hkey : key = key' := by
        rcases Std.lt_trichotomy key key' with hless | heq | hless
        · have hfound := h key
          rw [get?, if_pos rfl, get?, if_neg (Std.ne_of_lt hless),
            get?_eq_none_of_lt fun k hk => Std.lt_trans hless (hlt' k hk)] at hfound
          cases hfound
        · exact heq
        · have hfound := h key'
          rw [get?, if_neg (Std.ne_of_lt hless), get?, if_pos rfl,
            get?_eq_none_of_lt fun k hk => Std.lt_trans hless (hlt k hk)] at hfound
          cases hfound
      subst hkey
      have hvalue := h key
      rw [get?, get?, if_pos rfl, if_pos rfl] at hvalue
      obtain rfl := Option.some.inj hvalue
      refine congrArg _ (ih hrest hrest' fun k => ?_)
      by_cases hk : k = key
      · rw [hk, get?_eq_none_of_lt hlt, get?_eq_none_of_lt hlt']
      · have hfound := h k
        rwa [get?, get?, if_neg hk, if_neg hk] at hfound

/-- Members with different keys may be set in any order. -/
theorem set_comm {key key' : String} (hne : key ≠ key') (x x' : Json) {members : Members}
    (sorted : Sorted members) :
    set key x (set key' x' members) = set key' x' (set key x members) := by
  refine (sorted_set _ _ (sorted_set _ _ sorted)).ext (sorted_set _ _ (sorted_set _ _ sorted))
    fun k => ?_
  by_cases h : k = key
  · rw [h, get?_set, get?_set_ne _ hne, get?_set]
  · by_cases h' : k = key'
    · rw [h', get?_set_ne _ hne.symm, get?_set, get?_set]
    · rw [get?_set_ne _ h, get?_set_ne _ h', get?_set_ne _ h', get?_set_ne _ h]

/-- Two entries with different keys may trade places. -/
theorem ofList_swap {key key' : String} (hne : key ≠ key') (x x' : Json) (before after : Members) :
    ofList (before ++ (key, x) :: (key', x') :: after) =
      ofList (before ++ (key', x') :: (key, x) :: after) := by
  have hset := set_comm hne x x' (sorted_ofList before)
  have hall : ∀ rest : Members,
      ofList (before ++ rest) = setAll (ofList before) rest := fun rest => List.foldl_append
  rw [hall, hall]
  show setAll (set key' x' (set key x (ofList before))) after =
    setAll (set key x (set key' x' (ofList before))) after
  rw [hset]

end QuerySwarm.Members
