import QuerySwarm.Proofs.Json.Grammar
import QuerySwarm.Proofs.Json.RoundTrip
import QuerySwarm.Proofs.Json.Spelling

/-!
# Printed values are documents

Whatever the style, the text of a value is a document, of the tree that has the numbers as they are
printed (`Tree.ofJson`, `layout_isDocument`).
-/

namespace QuerySwarm.Json

namespace Tree

mutual

/-- What is printed of a value. A double that is not finite is printed as `null`. -/
def ofJson : Json → Tree
  | .null => .null
  | .boolean value => .boolean value
  | .integer i => .number (Number.integer i).numeral
  | .double x => if x.isFinite then .number (Number.double x).numeral else .null
  | .string s => .string s
  | .array elements => .array (ofElements elements)
  | .object members => .object (ofMembers members)

def ofElements : List Json → List Tree
  | [] => []
  | e :: es => ofJson e :: ofElements es

def ofMembers : List (String × Json) → List (String × Tree)
  | [] => []
  | (key, value) :: ms => (key, ofJson value) :: ofMembers ms

end

theorem ofElements_eq_map (elements : List Json) : ofElements elements = elements.map ofJson := by
  induction elements with
  | nil => rfl
  | cons e es ih => rw [ofElements, ih, List.map_cons]

theorem ofMembers_eq_map (members : List (String × Json)) :
    ofMembers members = members.map fun m => (m.1, ofJson m.2) := by
  induction members with
  | nil => rfl
  | cons m ms ih => rw [ofMembers, ih, List.map_cons]

end Tree

/-! ### The parts of a text -/

/-- A text can stand for an item, whatever comes after it. -/
def Shows (rule : Rule) (text : List Char) : Prop :=
  ∀ after, rule (Utf8.encode text ++ after) after

variable {style : Style} {depth : Nat}

theorem blanks_gap {gap : List Char} (blank : ∀ c ∈ gap, c = ' ' ∨ c = '\n') (after : Bytes) :
    Blanks (Utf8.encode gap ++ after) after := by
  induction gap with
  | nil => exact .none after
  | cons c gap ih =>
    have hrest := ih fun other hother => blank other (List.mem_cons_of_mem _ hother)
    rcases blank c List.mem_cons_self with rfl | rfl <;> exact .more (by decide) hrest

theorem shows_string (s : String) : Shows (Quoted strictly s) (stringText s) := by
  intro after
  rw [stringText_bytes]
  obtain ⟨c, hread, rfl⟩ := stringBody_escaped s
    (c := .start (Utf8.encode (s.toList.flatMap escapedChar) ++ 0x22 :: after)) rfl
  exact ⟨_, rfl, characters_of_stringBody hread⟩

theorem Shows.member {rule : Rule} {text : List Char} (h : Shows rule text) (key : String) :
    Shows (Member strictly key rule) (memberText style key text) := by
  intro after
  unfold memberText
  rw [Utf8.encode_append, List.append_assoc]
  refine ⟨_, _, _, shows_string key _, .none _, ?_, h after⟩
  show Blanks (Utf8.encode (style.space ++ text) ++ after) _
  rw [Utf8.encode_append, List.append_assoc]
  exact blanks_gap style.space_blank _

/-- What comes after a part: the others, each after a comma, and the bracket. -/
theorem listed_others {bracket : Bracket} {closing : Char}
    (hclosing : Utf8.encodeChar closing = [bracket.closing]) {rules : List Rule}
    {texts : List (List Char)} (h : List.Forall₂ Shows rules texts) (after : Bytes) :
    Listed bracket false rules (Utf8.encode (others style depth closing texts) ++ after) after := by
  induction h with
  | nil =>
    show Blanks (Utf8.encode (style.gap depth ++ [closing]) ++ after) _
    rw [encode_closing _ hclosing]
    exact blanks_gap (style.gap_blank depth) _
  | @cons rule text rules texts hfirst _ ih =>
    rw [others_cons, Utf8.encode_cons, Utf8.encode_append, Utf8.encode_append]
    simp only [List.append_assoc]
    exact ⟨_, _, ⟨_, .none _, blanks_gap (style.gap_blank _) _⟩, hfirst _, ih⟩

theorem listed_spread {bracket : Bracket} {closing : Char}
    (hclosing : Utf8.encodeChar closing = [bracket.closing]) {rules : List Rule}
    {texts : List (List Char)} (h : List.Forall₂ Shows rules texts) (after : Bytes) :
    Listed bracket true rules (Utf8.encode (spread style depth texts ++ [closing]) ++ after)
      after := by
  cases h with
  | nil =>
    have hempty : Utf8.encode (spread style depth [] ++ [closing]) ++ after =
        bracket.closing :: after :=
      encode_closing [] hclosing
    rw [hempty]
    exact .none _
  | @cons rule rules text texts hfirst hrest =>
    rw [spread_append, Utf8.encode_append, Utf8.encode_append]
    simp only [List.append_assoc]
    exact ⟨_, _, blanks_gap (style.gap_blank _) _, hfirst _, listed_others hclosing hrest after⟩

theorem shows_number (number : Number) (h : number.IsFinite) :
    Shows number.numeral.Written number.text :=
  Number.numeral_written h

/-! ### Values -/

mutual

theorem shows_layout (style : Style) : ∀ (j : Json) (depth : Nat),
    Shows (Written strictly (Tree.ofJson j)) (layout style depth j)
  | .null, _ => fun _ => rfl
  | .boolean true, _ => fun _ => rfl
  | .boolean false, _ => fun _ => rfl
  | .integer i, _ => shows_number (.integer i) trivial
  | .double x, _ => by
    rw [Tree.ofJson]
    split
    · next hfinite => exact shows_number (.double x) hfinite
    · next hfinite =>
      cases x with
      | finite => exact (hfinite rfl).elim
      | nan => exact fun _ => rfl
      | infinity negative => cases negative <;> exact fun _ => rfl
  | .string s, _ => shows_string s
  | .array elements, depth => fun after =>
    ⟨_, rfl, listed_spread rfl (shows_layoutElements style elements (depth + 1)) after⟩
  | .object members, depth => fun after =>
    ⟨_, rfl, listed_spread rfl (shows_layoutMembers style members (depth + 1)) after⟩

theorem shows_layoutElements (style : Style) : ∀ (es : List Json) (depth : Nat),
    List.Forall₂ Shows (elementRules strictly (Tree.ofElements es)) (layoutElements style depth es)
  | [], _ => .nil
  | e :: es, depth => .cons (shows_layout style e depth) (shows_layoutElements style es depth)

theorem shows_layoutMembers (style : Style) : ∀ (ms : List (String × Json)) (depth : Nat),
    List.Forall₂ Shows (memberRules strictly (Tree.ofMembers ms)) (layoutMembers style depth ms)
  | [], _ => .nil
  | (key, value) :: ms, depth =>
    .cons ((shows_layout style value depth).member key) (shows_layoutMembers style ms depth)

end

/-- The text of a value is a document, whatever gap comes after it. -/
theorem layout_isDocument (style : Style) (j : Json) (gap : List Char)
    (blank : ∀ c ∈ gap, c = ' ' ∨ c = '\n') :
    IsDocument (Tree.ofJson j) (Utf8.encode (layout style 0 j ++ gap)) := by
  have hend := blanks_gap blank []
  rw [List.append_nil] at hend
  rw [Utf8.encode_append]
  exact ⟨_, _, .none _, shows_layout style j 0 _, hend⟩

theorem texts_areDocuments (j : Json) :
    IsDocument (Tree.ofJson j) (bytesOf j.compactText) ∧
      IsDocument (Tree.ofJson j) (bytesOf j.prettyText) :=
  forall_layout (p := fun text => IsDocument (Tree.ofJson j) (Utf8.encode text)) fun style => by
    rw [← List.append_nil (layout style 0 j)]
    exact layout_isDocument style j [] fun _ hc => absurd hc List.not_mem_nil

/-- The texts on lines of their own are documents, too. -/
theorem lines_areDocuments (j : Json) :
    IsDocument (Tree.ofJson j) (bytesOf (j.compactText ++ "\n")) ∧
      IsDocument (Tree.ofJson j) (bytesOf (j.prettyText ++ "\n")) := by
  unfold bytesOf
  rw [String.toList_append, String.toList_append]
  exact forall_layout (p := fun text => IsDocument (Tree.ofJson j) (Utf8.encode (text ++ ['\n'])))
    fun style => layout_isDocument style j ['\n'] fun _ hc => .inr (List.mem_singleton.1 hc)

end QuerySwarm.Json
