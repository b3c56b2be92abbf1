import QuerySwarm.Json.Printer

/-!
# Texts of a value

The compact and the pretty text of a value differ in blanks alone. A style says which blanks stand
before a part of an array or an object, before its closing bracket, and after a colon; both texts are
the layout of the value in a style (`compact_eq_layout`, `prettyAt_eq_layout`).

The values that are stored in a request have whole numbers of 64 bits, and members in the order of
their keys (`IsStored`).
-/

namespace QuerySwarm.Json

/-! ### Styles -/

/-- The blanks that a text is set with: those before a part or a bracket at a depth, and those
after a colon. -/
structure Style where
  gap : Nat → List Char
  space : List Char
  gap_blank : ∀ depth, ∀ c ∈ gap depth, c = ' ' ∨ c = '\n'
  space_blank : ∀ c ∈ space, c = ' ' ∨ c = '\n'

def Style.tight : Style where
  gap _ := []
  space := []
  gap_blank _ _ hc := nomatch hc
  space_blank _ hc := nomatch hc

def Style.lined : Style where
  gap := newline
  space := [' ']
  gap_blank depth c hc := by
    rcases List.mem_cons.1 hc with rfl | hc
    · exact .inr rfl
    · exact .inl (List.eq_of_mem_replicate hc)
  space_blank c hc := .inl (List.mem_singleton.1 hc)

/-- The parts of an array or an object at a depth, up to its closing bracket. -/
def spread (style : Style) (depth : Nat) : List (List Char) → List Char
  | [] => []
  | part :: parts =>
    style.gap (depth + 1) ++ part ++
      (parts.flatMap fun part => ',' :: (style.gap (depth + 1) ++ part)) ++ style.gap depth

/-- The text of a member, by that of its value. -/
def memberText (style : Style) (key : String) (text : List Char) : List Char :=
  stringText key ++ ':' :: (style.space ++ text)

mutual

/-- The text of a value at a depth. -/
def layout (style : Style) (depth : Nat) : Json → List Char
  | .array elements =>
    '[' :: (spread style depth (layoutElements style (depth + 1) elements) ++ [']'])
  | .object members =>
    openBrace :: (spread style depth (layoutMembers style (depth + 1) members) ++ [closeBrace])
  | .null => ['n', 'u', 'l', 'l']
  | .boolean true => ['t', 'r', 'u', 'e']
  | .boolean false => ['f', 'a', 'l', 's', 'e']
  | .integer value => (intText value).toList
  | .double value => Binary64.jsonLayout.write value
  | .string value => stringText value

def layoutElements (style : Style) (depth : Nat) : List Json → List (List Char)
  | [] => []
  | e :: es => layout style depth e :: layoutElements style depth es

def layoutMembers (style : Style) (depth : Nat) : List (String × Json) → List (List Char)
  | [] => []
  | (key, value) :: ms => memberText style key (layout style depth value) ::
      layoutMembers style depth ms

end

theorem layoutElements_eq_map (style : Style) (depth : Nat) (elements : List Json) :
    layoutElements style depth elements = elements.map (layout style depth) := by
  induction elements with
  | nil => rfl
  | cons e es ih => rw [layoutElements, ih, List.map_cons]

theorem layoutMembers_eq_map (style : Style) (depth : Nat) (members : List (String × Json)) :
    layoutMembers style depth members =
      members.map fun member => memberText style member.1 (layout style depth member.2) := by
  induction members with
  | nil => rfl
  | cons member ms ih => rw [layoutMembers, ih, List.map_cons]

/-! ### Both texts are layouts -/

theorem separated_cons (text : List Char) (texts : List (List Char)) :
    separated (text :: texts) = text ++ texts.flatMap fun text => ',' :: text := by
  induction texts generalizing text with
  | nil => exact (List.append_nil text).symm
  | cons next texts ih =>
    show text ++ ',' :: separated (next :: texts) = _
    rw [ih, List.flatMap_cons]
    rfl

theorem spread_tight (depth : Nat) (parts : List (List Char)) :
    spread .tight depth parts = separated parts := by
  cases parts with
  | nil => rfl
  | cons part parts =>
    rw [separated_cons]
    exact List.append_nil _

theorem block_eq_spread (opening closing : Char) (depth : Nat) (parts : List (List Char)) :
    block opening closing depth parts = opening :: (spread .lined depth parts ++ [closing]) := by
  cases parts with
  | nil => rfl
  | cons part parts =>
    unfold block spread
    rw [List.map_cons, separated_cons, List.flatMap_map]
    rfl

mutual

theorem compact_eq_layout (depth : Nat) : ∀ j, compact j = layout .tight depth j
  | .null => rfl
  | .boolean true => rfl
  | .boolean false => rfl
  | .integer _ => rfl
  | .double _ => rfl
  | .string _ => rfl
  | .array elements => by
    rw [compact, layout, spread_tight, compactElements_eq_layout (depth + 1) elements]
  | .object members => by
    rw [compact, layout, spread_tight, compactMembers_eq_layout (depth + 1) members]

theorem compactElements_eq_layout (depth : Nat) :
    ∀ es, compactElements es = layoutElements .tight depth es
  | [] => rfl
  | e :: es => by
    rw [compactElements, layoutElements, compact_eq_layout depth e,
      compactElements_eq_layout depth es]

theorem compactMembers_eq_layout (depth : Nat) :
    ∀ ms, compactMembers ms = layoutMembers .tight depth ms
  | [] => rfl
  | (key, value) :: ms => by
    rw [compactMembers, layoutMembers, compact_eq_layout depth value,
      compactMembers_eq_layout depth ms]
    rfl

end

mutual

theorem prettyAt_eq_layout : ∀ (depth : Nat) j, prettyAt depth j = layout .lined depth j
  | _, .null => rfl
  | _, .boolean true => rfl
  | _, .boolean false => rfl
  | _, .integer _ => rfl
  | _, .double _ => rfl
  | _, .string _ => rfl
  | depth, .array elements => by
    rw [prettyAt, layout, block_eq_spread, prettyElements_eq_layout (depth + 1) elements]
  | depth, .object members => by
    rw [prettyAt, layout, block_eq_spread, prettyMembers_eq_layout (depth + 1) members]

theorem prettyElements_eq_layout :
    ∀ (depth : Nat) es, prettyElements depth es = layoutElements .lined depth es
  | _, [] => rfl
  | depth, e :: es => by
    rw [prettyElements, layoutElements, prettyAt_eq_layout depth e,
      prettyElements_eq_layout depth es]

theorem prettyMembers_eq_layout :
    ∀ (depth : Nat) ms, prettyMembers depth ms = layoutMembers .lined depth ms
  | _, [] => rfl
  | depth, (key, value) :: ms => by
    rw [prettyMembers, layoutMembers, prettyAt_eq_layout depth value,
      prettyMembers_eq_layout depth ms]
    rfl

end

/-- Whatever holds of all layouts of a value holds of its compact and of its pretty text. -/
theorem forall_layout {p : List Char → Prop} {j : Json} (h : ∀ style, p (layout style 0 j)) :
    p j.compactText.toList ∧ p j.prettyText.toList := by
  unfold compactText prettyText
  rw [String.toList_ofList, String.toList_ofList, compact_eq_layout 0, prettyAt_eq_layout]
  exact ⟨h .tight, h .lined⟩

/-! ### Values that are stored -/

mutual

/-- Numbers are whole and fit in 64 bits, and members are in the order of their keys. -/
def IsStored : Json → Prop
  | .integer value => -(Nat.pow 2 63 : Int) ≤ value ∧ value < Nat.pow 2 64
  | .double _ => False
  | .array elements => AreStored elements
  | .object members => Members.Sorted members ∧ MembersAreStored members
  | _ => True

def AreStored : List Json → Prop
  | [] => True
  | e :: es => IsStored e ∧ AreStored es

def MembersAreStored : List (String × Json) → Prop
  | [] => True
  | (_, value) :: ms => IsStored value ∧ MembersAreStored ms

end

mutual

/-- The number of levels that the text of a value is nested. -/
def nesting : Json → Nat
  | .array elements => nestingOfElements elements + 1
  | .object members => nestingOfMembers members + 1
  | _ => 0

def nestingOfElements : List Json → Nat
  | [] => 0
  | e :: es => max (nesting e) (nestingOfElements es)

def nestingOfMembers : List (String × Json) → Nat
  | [] => 0
  | (_, value) :: ms => max (nesting value) (nestingOfMembers ms)

end

theorem array_isStored {n : Nat} {es : List Json} (h : ∀ e ∈ es, IsStored e ∧ nesting e ≤ n) :
    IsStored (.array es) ∧ nesting (.array es) ≤ n + 1 := by
  suffices hall : AreStored es ∧ nestingOfElements es ≤ n from
    ⟨hall.1, Nat.succ_le_succ hall.2⟩
  induction es with
  | nil => exact ⟨trivial, Nat.zero_le n⟩
  | cons e es ih =>
    obtain ⟨hstored, hle⟩ := h e List.mem_cons_self
    obtain ⟨hrest, hrestLe⟩ := ih fun other hother => h other (List.mem_cons_of_mem _ hother)
    exact ⟨⟨hstored, hrest⟩, Nat.max_le.2 ⟨hle, hrestLe⟩⟩

theorem object_isStored {n : Nat} {ms : Members} (sorted : Members.Sorted ms)
    (h : ∀ member ∈ ms, IsStored member.2 ∧ nesting member.2 ≤ n) :
    IsStored (.object ms) ∧ nesting (.object ms) ≤ n + 1 := by
  suffices hall : MembersAreStored ms ∧ nestingOfMembers ms ≤ n from
    ⟨⟨sorted, hall.1⟩, Nat.succ_le_succ hall.2⟩
  clear sorted
  induction ms with
  | nil => exact ⟨trivial, Nat.zero_le n⟩
  | cons member ms ih =>
    obtain ⟨hstored, hle⟩ := h member List.mem_cons_self
    obtain ⟨hrest, hrestLe⟩ := ih fun other hother => h other (List.mem_cons_of_mem _ hother)
    exact ⟨⟨hstored, hrest⟩, Nat.max_le.2 ⟨hle, hrestLe⟩⟩

end QuerySwarm.Json
