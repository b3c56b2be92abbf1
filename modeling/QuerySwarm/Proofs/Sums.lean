import Mathlib.Algebra.GroupWithZero.Nat
import QuerySwarm.SortedMap

/-!
# Sums and counts

When one element of a list is replaced, a count or a sum over the list changes by what it says of
the two elements; and when the value under a key is changed, a sum over a map changes by what it says
of the two values. All of it is stated without subtraction, so that it can be added up.
-/

namespace QuerySwarm

theorem countP_set_add {α : Type} {p : α → Bool} {xs : List α} {k : Nat} {old : α}
    (h : xs[k]? = some old) (new : α) :
    (xs.set k new).countP p + (p old).toNat = xs.countP p + (p new).toNat := by
  obtain ⟨hk, rfl⟩ := List.getElem?_eq_some_iff.1 h
  rw [List.countP_set hk]
  cases hold : p xs[k] with
  | false => cases p new <;> simp
  | true =>
    have hpos : 0 < xs.countP p := List.countP_pos_iff.2 ⟨_, List.getElem_mem hk, hold⟩
    cases p new <;> simp only [Bool.toNat_true, Bool.toNat_false, if_true, Bool.false_eq_true,
      if_false] <;> omega

theorem sum_map_set_add {α : Type} (f : α → Nat) {xs : List α} {k : Nat} {old : α}
    (h : xs[k]? = some old) (new : α) :
    ((xs.set k new).map f).sum + f old = (xs.map f).sum + f new := by
  induction xs generalizing k with
  | nil => cases h
  | cons first rest ih =>
    cases k with
    | zero =>
      cases h
      simp only [List.set_cons_zero, List.map_cons, List.sum_cons]
      omega
    | succ k =>
      have hrest := ih h
      simp only [List.set_cons_succ, List.map_cons, List.sum_cons]
      omega

theorem foldl_add_toNat {α : Type} (p : α → Bool) (xs : List α) (n : Nat) :
    xs.foldl (fun n x => n + (p x).toNat) n = n + xs.countP p := by
  induction xs generalizing n with
  | nil => rfl
  | cons x rest ih =>
    rw [List.foldl_cons, ih, List.countP_cons, Nat.add_assoc]
    cases p x <;> simp [Nat.add_comm]

theorem countP_pos_of_getElem? {α : Type} {p : α → Bool} {xs : List α} {k : Nat} {x : α}
    (h : xs[k]? = some x) (hp : p x = true) : 0 < xs.countP p :=
  List.countP_pos_iff.2 ⟨x, List.mem_of_getElem? h, hp⟩

namespace SortedMap

/-! ### Sums over maps -/

section Entries

variable {κ α : Type}

/-- The sum of a measure over the values of entries. -/
def totalOf (measure : α → Nat) : List (κ × α) → Nat
  | [] => 0
  | e :: rest => measure e.2 + totalOf measure rest

@[simp] theorem totalOf_nil (measure : α → Nat) : totalOf measure ([] : List (κ × α)) = 0 := rfl

@[simp] theorem totalOf_cons (measure : α → Nat) (e : κ × α) (rest : List (κ × α)) :
    totalOf measure (e :: rest) = measure e.2 + totalOf measure rest := rfl

/-- The sum of a measure over the values of a map. -/
def total [LT κ] (measure : α → Nat) (m : SortedMap κ α) : Nat := totalOf measure m.entries

end Entries

variable {κ α : Type} [LT κ] [LE κ] [Std.LawfulOrderLT κ] [Std.IsLinearOrder κ] [DecidableEq κ]
  [DecidableLT κ]

theorem totalOf_updateEntries (measure : α → Nat) (key : κ) (f : Option α → α)
    {entries : List (κ × α)} (sorted : (keysOf entries).Pairwise (· < ·)) :
    totalOf measure (updateEntries key f entries) + (find? key entries).elim 0 measure =
      totalOf measure entries + measure (f (find? key entries)) := by
  induction entries with
  | nil =>
    show measure (f none) + 0 + 0 = 0 + measure (f none)
    omega
  | cons e rest ih =>
    obtain ⟨k, v⟩ := e
    have hrest : (keysOf rest).Pairwise (· < ·) := (List.pairwise_cons.1 sorted).2
    unfold updateEntries
    split
    · next hlt =>
      -- the key is less than every other one, so there was nothing under it
      rw [find?_eq_none_of_not_mem (not_mem_of_lt sorted hlt)]
      simp only [totalOf_cons, Option.elim_none]
      omega
    · split
      · next hkey =>
        simp only [find?, if_pos hkey, totalOf_cons, Option.elim_some]
        omega
      · next hne =>
        have ih := ih hrest
        simp only [find?, if_neg hne, totalOf_cons]
        omega

/-- A sum after the value under a key was changed. -/
theorem total_update (measure : α → Nat) (m : SortedMap κ α) (key : κ) (f : Option α → α) :
    (m.update key f).total measure + (m.get? key).elim 0 measure =
      m.total measure + measure (f (m.get? key)) :=
  totalOf_updateEntries measure key f m.sorted

/-! ### Changes that add -/

/-- A change adds so much to a measure of the value, where no value counts as a default one. -/
def Adds (measure : α → Nat) (default : α) (f : Option α → α) (n : Nat) : Prop :=
  ∀ v, measure (f v) = measure (v.getD default) + n

variable {measure : α → Nat} {default : α} {f : Option α → α} {n : Nat}

/-- It adds to the measure of the value under its own key alone. -/
theorem Adds.measure_get?_update (h : Adds measure default f n) (m : SortedMap κ α)
    (key other : κ) : measure (((m.update key f).get? other).getD default) =
      measure ((m.get? other).getD default) + (if key = other then n else 0) := by
  by_cases hkey : key = other
  · subst hkey
    rw [get?_update, Option.getD_some, h, if_pos rfl]
  · rw [get?_update_ne _ _ (Ne.symm hkey), if_neg hkey, Nat.add_zero]

/-- It adds to the sum of the measure over the map. -/
theorem Adds.total_update (h : Adds measure default f n) (hdefault : measure default = 0)
    (m : SortedMap κ α) (key : κ) : (m.update key f).total measure = m.total measure + n := by
  have hsum := SortedMap.total_update measure m key f
  have hold : (m.get? key).elim 0 measure = measure ((m.get? key).getD default) := by
    cases m.get? key with
    | none => exact hdefault.symm
    | some v => rfl
  rw [h, hold] at hsum
  omega

end SortedMap

end QuerySwarm
