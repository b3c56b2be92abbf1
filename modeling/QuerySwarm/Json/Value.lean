import QuerySwarm.Binary64.Decimal

/-!
# JSON values

The members of an object are a list, and are written in its order. Objects that are read or that
`Members.set` builds are in strictly increasing order of their keys, so that the order in which
they were built leaves no trace. Whole numbers are exact, and every other number is a double.

Main statements: setting a member keeps the order (`Members.sorted_set`), a member that was set is
found (`Members.get?_set`), and setting leaves the other members alone (`Members.get?_set_ne`).
-/

namespace QuerySwarm

/-- A JSON value. -/
inductive Json where
  | null
  | boolean (value : Bool)
  | integer (value : Int)
  | double (value : Binary64)
  | string (value : String)
  | array (elements : List Json)
  | object (members : List (String × Json))
  deriving Inhabited

abbrev Members := List (String × Json)

namespace Members

/-- Set a member: a new key is put in its place, and the value of a known key is replaced. -/
def set (key : String) (value : Json) : Members → Members
  | [] => [(key, value)]
  | (k, v) :: rest =>
    if key < k then (key, value) :: (k, v) :: rest
    else if key = k then (key, value) :: rest
    else (k, v) :: set key value rest

def get? (key : String) : Members → Option Json
  | [] => none
  | (k, v) :: rest => if key = k then some v else get? key rest

def keys (members : Members) : List String := members.map Prod.fst

def setAll (members : Members) (new : List (String × Json)) : Members :=
  new.foldl (fun members (key, value) => set key value members) members

/-- The members of a list in which the last of several entries with one key counts. -/
def ofList (entries : List (String × Json)) : Members := setAll [] entries

def Sorted (members : Members) : Prop := members.keys.Pairwise (· < ·)

/-! ### Setting a member -/

theorem mem_keys_set (key k : String) (value : Json) :
    ∀ members : Members, k ∈ (set key value members).keys ↔ k = key ∨ k ∈ members.keys
  | [] => by simp [set, keys]
  | (k', v') :: rest => by
    have ih := mem_keys_set key k value rest
    unfold set
    split
    · simp [keys]
    · split
      · next h => subst h; simp [keys]
      · simp only [keys, List.map_cons, List.mem_cons] at ih ⊢
        rw [ih]
        constructor <;> intro h <;> rcases h with h | h | h <;> simp [h]

theorem sorted_set (key : String) (value : Json) :
    ∀ {members : Members}, Sorted members → Sorted (set key value members)
  | [], _ => by simp [set, Sorted, keys]
  | (k, v) :: rest, h => by
    have hrest : Sorted rest := by
      simp only [Sorted, keys, List.map_cons, List.pairwise_cons] at h ⊢
      exact h.2
    have hlt : ∀ k' ∈ rest.map Prod.fst, k < k' := by
      simp only [Sorted, keys, List.map_cons, List.pairwise_cons] at h
      exact h.1
    unfold set
    split
    · next hk =>
      simp only [Sorted, keys, List.map_cons, List.pairwise_cons, List.mem_cons] at h ⊢
      refine ⟨?_, h⟩
      rintro k' (rfl | hk')
      · exact hk
      · exact String.lt_trans hk (hlt k' hk')
    · split
      · next hk =>
        subst hk
        simpa only [Sorted, keys, List.map_cons] using h
      · next hk hne =>
        have ih := sorted_set key value hrest
        simp only [Sorted, keys, List.map_cons, List.pairwise_cons] at ih ⊢
        refine ⟨?_, ih⟩
        intro k' hk'
        rcases (mem_keys_set key k' value rest).1 hk' with rfl | hk''
        · exact Std.lt_of_le_of_ne (Std.not_lt.1 hk) (Ne.symm hne)
        · exact hlt k' hk''

theorem get?_set (key : String) (value : Json) :
    ∀ members : Members, get? key (set key value members) = some value
  | [] => by simp [set, get?]
  | (k, v) :: rest => by
    have ih := get?_set key value rest
    unfold set
    split
    · simp [get?]
    · split
      · simp [get?]
      · next h => simp [get?, h, ih]

theorem get?_set_ne {key k : String} (value : Json) (hne : k ≠ key) :
    ∀ members : Members, get? k (set key value members) = get? k members
  | [] => by simp [set, get?, hne]
  | (k', v) :: rest => by
    have ih := get?_set_ne value hne rest
    unfold set
    split
    · simp [get?, hne]
    · split
      · next h => subst h; simp [get?, hne]
      · simp [get?, ih]

end Members

/-! ### Looking into a value -/

namespace Json

/-- The value of a member of an object; any other value has no members. -/
def member? (key : String) : Json → Option Json
  | .object members => Members.get? key members
  | _ => none

def elements? : Json → Option (List Json)
  | .array elements => some elements
  | _ => none

def text? : Json → Option String
  | .string value => some value
  | _ => none

def isNull : Json → Bool
  | .null => true
  | _ => false

def natural (n : Nat) : Json := .integer n

/-- A double as a value: what is not a finite number has no number in JSON and becomes `null`. -/
def ofDouble (x : Binary64) : Json := if x.isFinite then .double x else .null

/-- An object of the members that are listed, in the order of their keys. -/
def ofMembers (entries : List (String × Json)) : Json := .object (Members.ofList entries)

end Json

end QuerySwarm
