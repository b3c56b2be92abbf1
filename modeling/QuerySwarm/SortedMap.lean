/-!
# Sorted maps

A map is the list of its entries in the strict order of their keys, so that two maps with the same
entries are the same map. The one way to change it is to update the value under a key.

Main statements: an update gives the new value under its key (`SortedMap.get?_update`), leaves every
other key alone (`SortedMap.get?_update_ne`), and maps that give the same values are equal
(`SortedMap.ext_get?`).
-/

namespace QuerySwarm

def keysOf {κ α : Type} (entries : List (κ × α)) : List κ := entries.map Prod.fst

/-- Entries whose keys strictly rise. -/
structure SortedMap (κ α : Type) [LT κ] where
  entries : List (κ × α)
  sorted : (keysOf entries).Pairwise (· < ·)

namespace SortedMap

/-! ### Entries -/

section Entries

variable {κ α : Type} [DecidableEq κ]

/-- The value under a key in a list of entries. -/
def find? (key : κ) : List (κ × α) → Option α
  | [] => none
  | (k, v) :: rest => if key = k then some v else find? key rest

theorem find?_eq_none_of_not_mem {key : κ} {entries : List (κ × α)} (h : key ∉ keysOf entries) :
    find? key entries = none := by
  induction entries with
  | nil => rfl
  | cons e rest ih =>
    simp only [keysOf, List.map_cons, List.mem_cons, not_or] at h
    simp [find?, h.1, ih h.2]

theorem mem_keysOf_of_find? {key : κ} {v : α} {entries : List (κ × α)}
    (h : find? key entries = some v) : key ∈ keysOf entries := by
  induction entries with
  | nil => simp [find?] at h
  | cons e rest ih =>
    obtain ⟨k, w⟩ := e
    unfold find? at h
    split at h
    · next hk => simp [keysOf, hk]
    · simp only [keysOf, List.map_cons, List.mem_cons]
      exact Or.inr (ih h)

end Entries

theorem head_lt_of_mem {κ α : Type} [LT κ] {k k' : κ} {v : α} {rest : List (κ × α)}
    (h : (keysOf ((k, v) :: rest)).Pairwise (· < ·)) (hm : k' ∈ keysOf rest) : k < k' := by
  simp only [keysOf, List.map_cons, List.pairwise_cons] at h
  exact h.1 k' hm

section Maps

variable {κ α β : Type} [LT κ]

instance [DecidableEq κ] [DecidableEq α] : DecidableEq (SortedMap κ α) := fun m n =>
  if h : m.entries = n.entries then .isTrue (by cases m; cases n; simp_all)
  else .isFalse fun heq => h (by rw [heq])

def empty : SortedMap κ α := ⟨[], List.Pairwise.nil⟩

def keys (m : SortedMap κ α) : List κ := keysOf m.entries

def values (m : SortedMap κ α) : List α := m.entries.map Prod.snd

def isEmpty (m : SortedMap κ α) : Bool := m.entries.isEmpty

def get? [DecidableEq κ] (m : SortedMap κ α) (key : κ) : Option α := find? key m.entries

def mapValues (m : SortedMap κ α) (f : α → β) : SortedMap κ β :=
  ⟨m.entries.map fun e => (e.1, f e.2), by
    have h : keysOf (m.entries.map fun e => (e.1, f e.2)) = keysOf m.entries := by
      simp [keysOf, Function.comp_def]
    rw [h]
    exact m.sorted⟩

end Maps

/-! ### Updates -/

section Updates

variable {κ α : Type} [LT κ] [DecidableEq κ] [DecidableLT κ]

/-- Entries with the value under a key changed, or put in its place if there was none. -/
def updateEntries (key : κ) (f : Option α → α) : List (κ × α) → List (κ × α)
  | [] => [(key, f none)]
  | (k, v) :: rest =>
    if key < k then (key, f none) :: (k, v) :: rest
    else if key = k then (k, f (some v)) :: rest
    else (k, v) :: updateEntries key f rest

theorem mem_keysOf_updateEntries (key k : κ) (f : Option α → α) (entries : List (κ × α)) :
    k ∈ keysOf (updateEntries key f entries) ↔ k = key ∨ k ∈ keysOf entries := by
  induction entries with
  | nil => simp [updateEntries, keysOf]
  | cons e rest ih =>
    unfold updateEntries
    split
    · simp [keysOf]
    · split
      · next h => simp [keysOf, h]
      · simp only [keysOf, List.map_cons, List.mem_cons] at ih ⊢
        rw [ih]
        constructor <;> intro h <;> rcases h with h | h | h <;> simp [h]

theorem find?_updateEntries_ne {key other : κ} (f : Option α → α) (entries : List (κ × α))
    (hne : other ≠ key) : find? other (updateEntries key f entries) = find? other entries := by
  induction entries with
  | nil => simp [updateEntries, find?, hne]
  | cons e rest ih =>
    obtain ⟨k, v⟩ := e
    unfold updateEntries
    split
    · simp [find?, hne]
    · split
      · next hk =>
        subst hk
        simp [find?, hne]
      · simp [find?, ih]

end Updates

section Ordered

variable {κ α : Type} [LT κ] [LE κ] [Std.LawfulOrderLT κ] [Std.IsLinearOrder κ]

theorem not_mem_of_lt {key k : κ} {v : α} {rest : List (κ × α)}
    (h : (keysOf ((k, v) :: rest)).Pairwise (· < ·)) (hk : key < k) :
    key ∉ keysOf ((k, v) :: rest) := by
  simp only [keysOf, List.map_cons, List.pairwise_cons, List.mem_cons, not_or] at h ⊢
  refine ⟨?_, fun hm => ?_⟩
  · rintro rfl
    exact Std.lt_irrefl hk
  · exact Std.lt_irrefl (Std.lt_trans hk (h.1 key hm))

variable [DecidableEq κ]

/-! ### Equality -/

theorem entries_eq_of_find? {a b : List (κ × α)} (ha : (keysOf a).Pairwise (· < ·))
    (hb : (keysOf b).Pairwise (· < ·)) (h : ∀ key, find? key a = find? key b) : a = b := by
  induction a generalizing b with
  | nil =>
    cases b with
    | nil => rfl
    | cons e rest =>
      have := h e.1
      simp [find?] at this
  | cons e rest ih =>
    obtain ⟨k, v⟩ := e
    cases b with
    | nil =>
      have := h k
      simp [find?] at this
    | cons e' rest' =>
      obtain ⟨k', v'⟩ := e'
      have hkk : k = k' := by
        have h₁ : find? k ((k', v') :: rest') = some v := by rw [← h k]; simp [find?]
        have h₂ : find? k' ((k, v) :: rest) = some v' := by rw [h k']; simp [find?]
        have m₁ := mem_keysOf_of_find? h₁
        have m₂ := mem_keysOf_of_find? h₂
        simp only [keysOf, List.map_cons, List.mem_cons] at m₁ m₂
        rcases m₁ with rfl | m₁
        · rfl
        · rcases m₂ with rfl | m₂
          · rfl
          · exact absurd (Std.lt_trans (head_lt_of_mem ha m₂) (head_lt_of_mem hb m₁))
              Std.lt_irrefl
      subst hkk
      have hv : v = v' := by
        have := h k
        simpa [find?] using this
      subst hv
      have hrest : rest = rest' := by
        have ha' : (keysOf rest).Pairwise (· < ·) := by
          simp only [keysOf, List.map_cons, List.pairwise_cons] at ha
          exact ha.2
        have hb' : (keysOf rest').Pairwise (· < ·) := by
          simp only [keysOf, List.map_cons, List.pairwise_cons] at hb
          exact hb.2
        refine ih ha' hb' fun key => ?_
        by_cases hk : key = k
        · subst hk
          rw [find?_eq_none_of_not_mem fun hm => Std.lt_irrefl (head_lt_of_mem ha hm),
            find?_eq_none_of_not_mem fun hm => Std.lt_irrefl (head_lt_of_mem hb hm)]
        · have := h key
          simpa [find?, hk] using this
      rw [hrest]

/-- Maps that give the same values are equal. -/
theorem ext_get? {m n : SortedMap κ α} (h : ∀ key, m.get? key = n.get? key) : m = n := by
  obtain ⟨a, ha⟩ := m
  obtain ⟨b, hb⟩ := n
  have : a = b := entries_eq_of_find? ha hb h
  subst this
  rfl

variable [DecidableLT κ]

theorem sorted_updateEntries (key : κ) (f : Option α → α) {entries : List (κ × α)}
    (h : (keysOf entries).Pairwise (· < ·)) :
    (keysOf (updateEntries key f entries)).Pairwise (· < ·) := by
  induction entries with
  | nil => simp [updateEntries, keysOf]
  | cons e rest ih =>
    obtain ⟨k, v⟩ := e
    simp only [keysOf, List.map_cons, List.pairwise_cons] at h
    unfold updateEntries
    split
    · next hk =>
      simp only [keysOf, List.map_cons, List.pairwise_cons, List.mem_cons]
      refine ⟨?_, h⟩
      rintro k' (rfl | hk')
      · exact hk
      · exact Std.lt_trans hk (h.1 k' hk')
    · split
      · simp only [keysOf, List.map_cons, List.pairwise_cons]
        exact h
      · next hk hne =>
        have ih := ih h.2
        simp only [keysOf, List.map_cons, List.pairwise_cons] at ih ⊢
        refine ⟨?_, ih⟩
        intro k' hk'
        rcases (mem_keysOf_updateEntries key k' f rest).1 hk' with rfl | hk''
        · exact Std.lt_of_le_of_ne (Std.not_lt.1 hk) (Ne.symm hne)
        · exact h.1 k' hk''

/-- The map with the value under a key changed. -/
def update (m : SortedMap κ α) (key : κ) (f : Option α → α) : SortedMap κ α :=
  ⟨updateEntries key f m.entries, sorted_updateEntries key f m.sorted⟩

/-! ### What an update does to look-ups -/

theorem find?_updateEntries (key : κ) (f : Option α → α) {entries : List (κ × α)}
    (h : (keysOf entries).Pairwise (· < ·)) :
    find? key (updateEntries key f entries) = some (f (find? key entries)) := by
  induction entries with
  | nil => simp [updateEntries, find?]
  | cons e rest ih =>
    obtain ⟨k, v⟩ := e
    unfold updateEntries
    split
    · next hk =>
      rw [find?_eq_none_of_not_mem (not_mem_of_lt h hk)]
      simp [find?]
    · split
      · next hk => simp [find?, hk]
      · next hne =>
        have hrest : (keysOf rest).Pairwise (· < ·) := by
          simp only [keysOf, List.map_cons, List.pairwise_cons] at h
          exact h.2
        simp [find?, hne, ih hrest]

/-- An update gives the new value under its key. -/
theorem get?_update (m : SortedMap κ α) (key : κ) (f : Option α → α) :
    (m.update key f).get? key = some (f (m.get? key)) :=
  find?_updateEntries key f m.sorted

theorem get?_update_ne (m : SortedMap κ α) {key other : κ} (f : Option α → α)
    (hne : other ≠ key) : (m.update key f).get? other = m.get? other :=
  find?_updateEntries_ne f m.entries hne

end Ordered

end SortedMap

end QuerySwarm
