import QuerySwarm.Proofs.Json.RoundTrip
import QuerySwarm.Request.Reader

/-!
# Requests are read back

What is written of a filter, an input or a request is read as the same filter, input or request, in
any style (`SearchFilter.reads_toJson`, `SearchInput.reads_toJson`, `Request.reads_toJson`). The
fields of an input are written in one order on their own and in another as the value of a variable;
both are read back.

A list of inputs that is given for a variable is found in the request that is read back, and the value
there still stands for that list (`SearchInput.ofJson?_canonical`).
-/

namespace QuerySwarm

open Json

/-! ### Forms as the value of a variable -/

namespace Json

theorem canonicalElements_eq_map (es : List Json) : canonicalElements es = es.map canonical := by
  induction es with
  | nil => rfl
  | cons e es ih => rw [canonicalElements, ih, List.map_cons]

theorem canonical_array {α : Type} (form : α → Json) (xs : List α) :
    (Json.array (xs.map form)).canonical = .array (xs.map fun x => (form x).canonical) := by
  rw [canonical, canonicalElements_eq_map, List.map_map]
  rfl

theorem canonicalMembers_append (ms ms' : List (String × Json)) :
    canonicalMembers (ms ++ ms') = canonicalMembers ms ++ canonicalMembers ms' := by
  induction ms with
  | nil => rfl
  | cons member ms ih =>
    rw [List.cons_append, canonicalMembers, canonicalMembers, ih, List.cons_append]

end Json

theorem SearchFilter.sorted_members (f : SearchFilter) :
    Members.Sorted [("property", .string f.property), ("values", .array (f.values.map .string))] :=
  List.pairwise_pair.2 (show "property" < "values" by decide)

theorem SearchFilter.canonical_toJson (f : SearchFilter) : f.toJson.canonical = f.toJson := by
  have hvalues : (Json.array (f.values.map .string)).canonical = .array (f.values.map .string) :=
    canonical_array _ _
  have hmembers : canonicalMembers
      [("property", .string f.property), ("values", .array (f.values.map .string))] =
        [("property", .string f.property), ("values", .array (f.values.map .string))] := by
    rw [canonicalMembers, canonicalMembers, hvalues]
    rfl
  rw [toJson, canonical, hmembers, Members.ofList_of_sorted f.sorted_members]

namespace SearchInput

theorem canonicalMembers_member {α : Type} {form : α → Json} (name : String)
    (h : ∀ x, (form x).canonical = form x) (given : Option α) :
    canonicalMembers (member name form given) = member name form given := by
  cases given with
  | none => rfl
  | some x =>
    show [(name, (form x).canonical)] = _
    rw [h x]
    rfl

def filtersForm (filters : List SearchFilter) : Json := .array (filters.map SearchFilter.toJson)

/-- The members of an input in the order of their names. -/
def sortedMembers (input : SearchInput) : Members :=
  member "filters" filtersForm input.filters ++ member "keywords" strings input.keywords ++
    member "limit" .integer input.limit ++ member "relatedKinds" strings input.relatedKinds

theorem canonical_toJson (input : SearchInput) :
    input.toJson.canonical = .object input.sortedMembers := by
  have hstrings : ∀ xs, (strings xs).canonical = strings xs := fun xs => canonical_array _ xs
  have hfilters : ∀ fs, (filtersForm fs).canonical = filtersForm fs := by
    intro fs
    refine (canonical_array _ fs).trans ?_
    simp only [SearchFilter.canonical_toJson]
    rfl
  show (Json.object (member "keywords" strings input.keywords ++
    member "filters" filtersForm input.filters ++ member "limit" .integer input.limit ++
    member "relatedKinds" strings input.relatedKinds)).canonical = _
  rw [canonical, canonicalMembers_append, canonicalMembers_append, canonicalMembers_append,
    canonicalMembers_member _ hstrings, canonicalMembers_member _ hfilters,
    canonicalMembers_member _ fun _ => rfl, canonicalMembers_member _ hstrings]
  -- the names alone decide the order
  obtain ⟨_ | keywords, _ | filters, _ | limit, _ | relatedKinds⟩ := input <;> rfl

theorem keys_member_sublist {α : Type} (name : String) (form : α → Json) (given : Option α) :
    (Members.keys (member name form given)).Sublist [name] := by
  cases given with
  | none => exact List.nil_sublist _
  | some x => exact List.Sublist.refl _

theorem sorted_sortedMembers (input : SearchInput) : Members.Sorted input.sortedMembers := by
  have hnames : ["filters", "keywords", "limit", "relatedKinds"].Pairwise (· < ·) := by decide
  refine hnames.sublist ?_
  rw [sortedMembers, Members.keys, List.map_append, List.map_append, List.map_append]
  exact (((keys_member_sublist _ _ _).append (keys_member_sublist _ _ _)).append
    (keys_member_sublist _ _ _)).append (keys_member_sublist _ _ _)

theorem get?_sortedMembers (input : SearchInput) :
    Members.get? "keywords" input.sortedMembers = input.keywords.map strings ∧
      Members.get? "filters" input.sortedMembers = input.filters.map filtersForm ∧
      Members.get? "limit" input.sortedMembers = input.limit.map .integer ∧
      Members.get? "relatedKinds" input.sortedMembers = input.relatedKinds.map strings := by
  obtain ⟨_ | keywords, _ | filters, _ | limit, _ | relatedKinds⟩ := input <;>
    exact ⟨rfl, rfl, rfl, rfl⟩

end SearchInput

/-! ### What is read of a record -/

section Readers

variable {style : Style} {depth level : Nat}

theorem Json.opens_array (elements : List Json) : Opens (layout style depth (.array elements)) := by
  rw [layout]
  exact ⟨0x5B, _, rfl, by decide, by decide⟩

theorem Json.opens_object (members : Members) : Opens (layout style depth (.object members)) := by
  rw [layout]
  exact ⟨0x7B, _, rfl, by decide, by decide⟩

theorem Json.reads_strings (xs : List String) :
    Reads (list (fun _ => text) (level + 1)) (layout style depth (.array (xs.map .string))) xs := by
  refine reads_list fun s _ => ?_
  rw [layout]
  exact ⟨opens_stringText s, reads_text s⟩

/-- A list may stand where `null` may. -/
theorem Json.reads_optional_array {α : Type} {reader : Cursor → Read α} {elements : List Json}
    {x : α} (h : Reads reader (layout style depth (.array elements)) x) :
    Reads (optional reader) (layout style depth (.array elements)) (some x) := by
  rw [layout] at h ⊢
  exact reads_optional rfl (by decide) (by decide) h

theorem Json.reads_optional_integer {i : Int} (fits : fitsInt64 i = true) :
    Reads (optional integer64) (layout style depth (.integer i)) (some i) := by
  obtain ⟨b, tail, hbytes, hblank, -, hnull⟩ := intText_head i
  rw [layout]
  exact reads_optional hbytes hnull hblank (reads_integer64 fits)

namespace SearchFilter

/-- A filter is read back. -/
theorem reads_toJson (f : SearchFilter) :
    Reads (SearchFilter.read (level + 2)) (layout style depth f.toJson) f := by
  have hproperty : Fills (SearchFilter.field (level + 1)) ⟨none, none⟩
      (fieldTexts style (depth + 1) [("property", .string f.property)]) ⟨some f.property, none⟩ := by
    refine .next (by rfl) (opens_stringText f.property) ?_ (.done _)
    exact (reads_text f.property).map fun x => (⟨some x, none⟩ : Fields)
  have hvalues : Fills (SearchFilter.field (level + 1)) ⟨some f.property, none⟩
      (fieldTexts style (depth + 1) [("values", .array (f.values.map .string))])
      ⟨some f.property, some f.values⟩ := by
    refine .next (by rfl) (opens_array _) ?_ (.done _)
    exact (reads_strings f.values).map fun x => (⟨some f.property, some x⟩ : Fields)
  refine reads_record (hproperty.append hvalues) fun c c' hfields => ?_
  unfold byName
  rw [hfields]
  rfl

end SearchFilter

namespace SearchInput

/-- A field that may be left out is read if it is there. -/
theorem fills_member {α σ : Type} {field : σ → String → FieldAction σ} {name : String}
    {reader : Cursor → Read (Option α)} {form : α → Json} (store : Slot (Option α) → σ)
    (known : field (store none) name =
      .read fun c => (reader c).map fun (x, c) => (store (some x), c)) (given : Option α)
    (h : ∀ x ∈ given, Opens (layout style depth (form x)) ∧
      Reads reader (layout style depth (form x)) (some x)) :
    Fills field (store none) (fieldTexts style depth (member name form given))
      (store (given.map some)) := by
  cases given with
  | none => exact .done _
  | some x =>
    obtain ⟨opens, hread⟩ := h x rfl
    exact .next known opens (hread.map fun x => store (some x)) (.done _)

theorem fills_keywords (given : Option (List String)) (filters : Slot (Option (List SearchFilter)))
    (limit : Slot (Option Int)) (relatedKinds : Slot (Option (List String))) :
    Fills (SearchInput.field (level + 1)) ⟨none, filters, limit, relatedKinds⟩
      (fieldTexts style depth (member "keywords" strings given))
      ⟨given.map some, filters, limit, relatedKinds⟩ :=
  fills_member (fun x => (⟨x, filters, limit, relatedKinds⟩ : Fields)) rfl given fun xs _ =>
    ⟨opens_array _, reads_optional_array (reads_strings xs)⟩

theorem fills_filters (given : Option (List SearchFilter)) (keywords : Slot (Option (List String)))
    (limit : Slot (Option Int)) (relatedKinds : Slot (Option (List String))) :
    Fills (SearchInput.field (level + 3)) ⟨keywords, none, limit, relatedKinds⟩
      (fieldTexts style depth (member "filters" filtersForm given))
      ⟨keywords, given.map some, limit, relatedKinds⟩ :=
  fills_member (fun x => (⟨keywords, x, limit, relatedKinds⟩ : Fields)) rfl given fun _ _ =>
    ⟨opens_array _, reads_optional_array
      (reads_list fun f _ => ⟨opens_object _, f.reads_toJson⟩)⟩

theorem fills_limit {given : Option Int} (fits : ∀ limit ∈ given, fitsInt64 limit = true)
    (keywords : Slot (Option (List String))) (filters : Slot (Option (List SearchFilter)))
    (relatedKinds : Slot (Option (List String))) :
    Fills (SearchInput.field level) ⟨keywords, filters, none, relatedKinds⟩
      (fieldTexts style depth (member "limit" .integer given))
      ⟨keywords, filters, given.map some, relatedKinds⟩ :=
  fills_member (fun x => (⟨keywords, filters, x, relatedKinds⟩ : Fields)) rfl given fun limit h =>
    ⟨by rw [layout]; exact opens_intText limit, reads_optional_integer (fits limit h)⟩

theorem fills_relatedKinds (given : Option (List String)) (keywords : Slot (Option (List String)))
    (filters : Slot (Option (List SearchFilter))) (limit : Slot (Option Int)) :
    Fills (SearchInput.field (level + 1)) ⟨keywords, filters, limit, none⟩
      (fieldTexts style depth (member "relatedKinds" strings given))
      ⟨keywords, filters, limit, given.map some⟩ :=
  fills_member (fun x => (⟨keywords, filters, limit, x⟩ : Fields)) rfl given fun xs _ =>
    ⟨opens_array _, reads_optional_array (reads_strings xs)⟩

theorem byName_ok (input : SearchInput) (c c' : Cursor)
    (h : fieldsFrom (SearchInput.field level) true ⟨none, none, none, none⟩ c =
      .ok (⟨input.keywords.map some, input.filters.map some, input.limit.map some,
        input.relatedKinds.map some⟩, c')) :
    byName level c = .ok (input, c') := by
  unfold byName
  rw [h]
  obtain ⟨_ | keywords, _ | filters, _ | limit, _ | relatedKinds⟩ := input <;> rfl

/-- An input whose limit fits is read back from its own form. -/
theorem reads_toJson {input : SearchInput} (fits : ∀ limit ∈ input.limit, fitsInt64 limit = true) :
    Reads (SearchInput.read (level + 4)) (layout style depth input.toJson) input := by
  refine reads_record ?_ input.byName_ok
  rw [fieldTexts_append, fieldTexts_append, fieldTexts_append]
  exact (((fills_keywords _ _ _ _).append (fills_filters _ _ _ _)).append
    (fills_limit fits _ _ _)).append (fills_relatedKinds _ _ _ _)

/-- It is read back from its form as the value of a variable as well. -/
theorem reads_canonical {input : SearchInput}
    (fits : ∀ limit ∈ input.limit, fitsInt64 limit = true) :
    Reads (SearchInput.read (level + 4)) (layout style depth input.toJson.canonical) input := by
  rw [canonical_toJson]
  refine reads_record ?_ input.byName_ok
  rw [sortedMembers, fieldTexts_append, fieldTexts_append, fieldTexts_append]
  exact (((fills_filters _ _ _ _).append (fills_keywords _ _ _ _)).append
    (fills_limit fits _ _ _)).append (fills_relatedKinds _ _ _ _)

end SearchInput

namespace Request

/-- A request is read back if its variables can be stored and are not nested too deep. -/
theorem reads_toJson {r : Request} (stored : IsStored (.object r.bindings))
    (hle : nesting r.toJson ≤ level) :
    Reads (Request.read level) (layout style depth r.toJson) r := by
  obtain ⟨level, rfl⟩ : ∃ n, level = n + 2 := Nat.exists_eq_add_of_le' (by
    refine Nat.le_trans ?_ hle
    exact Nat.succ_le_succ (Nat.le_trans (Nat.succ_pos _)
      (Nat.le_trans (Nat.le_max_left _ _) (Nat.le_max_right _ _))))
  have hnesting : nestingOfMembers r.bindings ≤ level := by
    have hmembers := (Nat.max_le.1 (Nat.le_of_succ_le_succ hle)).2
    exact Nat.le_of_succ_le_succ (Nat.max_le.1 hmembers).1
  have hquery : Fills (Request.field (level + 1)) ⟨none, none⟩
      (fieldTexts style (depth + 1) [("query", .string r.query)]) ⟨some r.query, none⟩ := by
    refine .next (by rfl) (opens_stringText r.query) ?_ (.done _)
    exact (reads_text r.query).map fun x => (⟨some x, none⟩ : Fields)
  have hbindings : Fills (Request.field (level + 1)) ⟨some r.query, none⟩
      (fieldTexts style (depth + 1) [("variables", .object r.bindings)])
      ⟨some r.query, some r.bindings⟩ := by
    refine .next (by rfl) (opens_object _) ?_ (.done _)
    exact (reads_map stored.1 (reads_layoutMembers style _ _ _ stored.2 hnesting)).map
      fun x => (⟨some r.query, some x⟩ : Fields)
  refine reads_record (hquery.append hbindings) fun c c' hfields => ?_
  unfold byName
  rw [hfields]
  rfl

end Request

end Readers

/-! ### What the value of a variable stands for -/

namespace Json

/-- The list that an array stands for, by what its elements stand for. -/
def list? {α : Type} (item : Json → Option α) (j : Json) : Option (List α) := do
  let elements ← j.elements?
  elements.mapM item

/-- A field that may be left out or `null`. -/
def optional? {α : Type} (item : Json → Option α) : Option Json → Option (Option α)
  | none => some none
  | some .null => some none
  | some j => (item j).map some

def integer64? : Json → Option Int
  | .integer i => if fitsInt64 i then some i else none
  | _ => none

theorem list?_forms {α : Type} {item : Json → Option α} {form : α → Json} {xs : List α}
    (h : ∀ x ∈ xs, item (form x) = some x) : list? item (.array (xs.map form)) = some xs := by
  show (xs.map form).mapM item = some xs
  induction xs with
  | nil => rfl
  | cons x xs ih =>
    have hrest := ih fun other hother => h other (List.mem_cons_of_mem _ hother)
    rw [List.map_cons, List.mapM_cons, h x List.mem_cons_self, hrest]
    rfl

theorem optional?_form {α : Type} {item : Json → Option α} {form : α → Json} {given : Option α}
    (h : ∀ x ∈ given, item (form x) = some x ∧ form x ≠ .null) :
    optional? item (given.map form) = some given := by
  cases given with
  | none => rfl
  | some x =>
    obtain ⟨hitem, hnull⟩ := h x rfl
    show optional? item (some (form x)) = _
    unfold optional?
    split
    · next heq => cases heq
    · next heq => exact absurd (Option.some.inj heq) hnull
    · next heq =>
      cases heq
      rw [hitem]
      rfl

end Json

namespace SearchFilter

def ofFields? (property values : Option Json) : Option SearchFilter := do
  let property ← property.bind text?
  let values ← values.bind (list? text?)
  return ⟨property, values⟩

/-- The filter that a value stands for, its fields by name or by position. -/
def ofJson? : Json → Option SearchFilter
  | .object members => ofFields? (Members.get? "property" members) (Members.get? "values" members)
  | .array elements =>
    if elements.length ≤ 2 then ofFields? elements[0]? elements[1]? else none
  | _ => none

theorem ofJson?_toJson (f : SearchFilter) : ofJson? f.toJson = some f := by
  have hvalues : list? text? (.array (f.values.map .string)) = some f.values :=
    list?_forms fun _ _ => rfl
  show ofFields? (some (.string f.property)) (some (.array (f.values.map .string))) = _
  simp only [ofFields?, Option.bind_some, hvalues, text?]
  rfl

end SearchFilter

namespace SearchInput

def ofFields? (keywords filters limit relatedKinds : Option Json) : Option SearchInput := do
  let keywords ← optional? (list? text?) keywords
  let filters ← optional? (list? SearchFilter.ofJson?) filters
  let limit ← optional? integer64? limit
  let relatedKinds ← optional? (list? text?) relatedKinds
  return ⟨keywords, filters, limit, relatedKinds⟩

/-- The input that a value stands for, its fields by name or by position. -/
def ofJson? : Json → Option SearchInput
  | .object members =>
    ofFields? (Members.get? "keywords" members) (Members.get? "filters" members)
      (Members.get? "limit" members) (Members.get? "relatedKinds" members)
  | .array elements =>
    if elements.length ≤ 4 then
      ofFields? elements[0]? elements[1]? elements[2]? elements[3]?
    else none
  | _ => none

theorem ofJson?_canonical {input : SearchInput}
    (fits : ∀ limit ∈ input.limit, fitsInt64 limit = true) :
    ofJson? input.toJson.canonical = some input := by
  have hstrings : ∀ given : Option (List String),
      optional? (list? text?) (given.map strings) = some given := fun given =>
    optional?_form fun xs _ => ⟨list?_forms fun _ _ => rfl, by rintro ⟨⟩⟩
  have hfilters : optional? (list? SearchFilter.ofJson?) (input.filters.map filtersForm) =
      some input.filters :=
    optional?_form fun fs _ => ⟨list?_forms fun f _ => f.ofJson?_toJson, by rintro ⟨⟩⟩
  have hlimit : optional? integer64? (input.limit.map .integer) = some input.limit :=
    optional?_form fun limit h => ⟨if_pos (fits limit h), by rintro ⟨⟩⟩
  obtain ⟨hk, hf, hl, hr⟩ := input.get?_sortedMembers
  rw [canonical_toJson]
  show ofFields? (Members.get? "keywords" input.sortedMembers)
    (Members.get? "filters" input.sortedMembers) (Members.get? "limit" input.sortedMembers)
    (Members.get? "relatedKinds" input.sortedMembers) = _
  rw [hk, hf, hl, hr]
  simp only [ofFields?, hstrings, hfilters, hlimit]
  rfl

end SearchInput

/-! ### Inputs as the value of a variable -/

namespace SearchInput

theorem strings_isStored (xs : List String) :
    IsStored (strings xs) ∧ nesting (strings xs) ≤ 1 := by
  refine array_isStored fun e he => ?_
  obtain ⟨x, -, rfl⟩ := List.mem_map.1 he
  exact ⟨trivial, Nat.le_refl 0⟩

theorem filtersForm_isStored (filters : List SearchFilter) :
    IsStored (filtersForm filters) ∧ nesting (filtersForm filters) ≤ 3 := by
  refine array_isStored fun e he => ?_
  obtain ⟨f, -, rfl⟩ := List.mem_map.1 he
  exact object_isStored f.sorted_members (List.forall_mem_cons.2
    ⟨⟨trivial, Nat.zero_le 1⟩, List.forall_mem_singleton.2 (strings_isStored f.values)⟩)

theorem member_isStored {α : Type} {n : Nat} {name : String} {form : α → Json} {given : Option α}
    (h : ∀ x ∈ given, IsStored (form x) ∧ nesting (form x) ≤ n) :
    ∀ m ∈ member name form given, IsStored m.2 ∧ nesting m.2 ≤ n := by
  intro m hm
  cases given with
  | none => cases hm
  | some x =>
    rw [List.mem_singleton.1 hm]
    exact h x rfl

theorem canonical_isStored {input : SearchInput}
    (fits : ∀ limit ∈ input.limit, fitsInt64 limit = true) :
    IsStored input.toJson.canonical ∧ nesting input.toJson.canonical ≤ 4 := by
  have hstrings : ∀ xs, IsStored (strings xs) ∧ nesting (strings xs) ≤ 3 := fun xs =>
    ⟨(strings_isStored xs).1, Nat.le_trans (strings_isStored xs).2 (by decide)⟩
  have hlimit : ∀ limit ∈ input.limit,
      IsStored (.integer limit) ∧ nesting (.integer limit) ≤ 3 := by
    intro limit h
    have hrange := of_decide_eq_true (fits limit h)
    have hmax : (Nat.pow 2 63 : Int) ≤ Nat.pow 2 64 := by decide
    exact ⟨⟨hrange.1, Int.lt_of_lt_of_le hrange.2 hmax⟩, Nat.zero_le 3⟩
  rw [canonical_toJson]
  refine object_isStored input.sorted_sortedMembers fun m hm => ?_
  rw [sortedMembers, List.mem_append, List.mem_append, List.mem_append] at hm
  rcases hm with ((hm | hm) | hm) | hm
  · exact member_isStored (fun fs _ => filtersForm_isStored fs) m hm
  · exact member_isStored (fun xs _ => hstrings xs) m hm
  · exact member_isStored hlimit m hm
  · exact member_isStored (fun xs _ => hstrings xs) m hm

end SearchInput

/-! ### Texts -/

/-- What is read back in any style is read back from the compact and from the pretty text. -/
theorem Json.document_ok_of_forall_style {α : Type} {reader : Nat → Cursor → Read α} {j : Json}
    {x : α} (h : ∀ style, Opens (layout style 0 j) ∧ Reads (reader maxDepth) (layout style 0 j) x) :
    document reader (bytesOf j.compactText) = .ok x ∧
      document reader (bytesOf j.prettyText) = .ok x :=
  forall_layout (p := fun text => document reader (Utf8.encode text) = .ok x) fun style =>
    document_ok_of_reads (h style).1 (h style).2

namespace Request

/-- Filters, inputs and requests are read back from both of their texts, and a list of inputs that
is given for a variable is what the variable stands for in the request that is read back. -/
theorem text_round_trip :
    (∀ f : SearchFilter,
      SearchFilter.parse (bytesOf f.toJson.compactText) = .ok f ∧
        SearchFilter.parse (bytesOf f.toJson.prettyText) = .ok f) ∧
    (∀ input : SearchInput, (∀ limit ∈ input.limit, fitsInt64 limit = true) →
      SearchInput.parse (bytesOf input.toJson.compactText) = .ok input ∧
        SearchInput.parse (bytesOf input.toJson.prettyText) = .ok input) ∧
    (∀ r : Request, IsStored (.object r.bindings) → nesting r.toJson ≤ 127 →
      Request.parse (bytesOf r.body) = .ok r ∧ Request.parse (bytesOf r.prettyBody) = .ok r) ∧
    ∀ (query : String) (inputs : List SearchInput),
      (∀ input ∈ inputs, ∀ limit ∈ input.limit, fitsInt64 limit = true) →
      ∃ r form, (ofQuery query).setVariable "input" (.searches inputs) = .ok r ∧
        (Request.parse (bytesOf r.body) = .ok r ∧ Request.parse (bytesOf r.prettyBody) = .ok r) ∧
        Members.get? "input" r.bindings = some form ∧
        list? SearchInput.ofJson? form = some inputs ∧
        document (list SearchInput.read) (bytesOf form.compactText) = .ok inputs ∧
        document (list SearchInput.read) (bytesOf form.prettyText) = .ok inputs := by
  have hrequest : ∀ r : Request, IsStored (.object r.bindings) → nesting r.toJson ≤ 127 →
      Request.parse (bytesOf r.body) = .ok r ∧ Request.parse (bytesOf r.prettyBody) = .ok r :=
    fun r stored hle => document_ok_of_forall_style fun _ =>
      ⟨opens_object _, reads_toJson stored hle⟩
  refine ⟨fun f => document_ok_of_forall_style fun _ => ⟨opens_object _, f.reads_toJson⟩,
    fun input fits => document_ok_of_forall_style fun _ =>
      ⟨opens_object _, SearchInput.reads_toJson fits⟩, hrequest, ?_⟩
  intro query inputs fits
  let form : Json := .array (inputs.map fun input => input.toJson.canonical)
  have hform : (VariableValue.searches inputs).toJson = .ok form :=
    congrArg Except.ok (canonical_array SearchInput.toJson inputs)
  have hset : (ofQuery query).setVariable "input" (.searches inputs) =
      .ok ⟨query, [("input", form)]⟩ := by
    unfold setVariable
    rw [hform]
    rfl
  obtain ⟨hstored, hnesting⟩ : IsStored form ∧ nesting form ≤ 5 := by
    refine array_isStored fun e he => ?_
    obtain ⟨input, hinput, rfl⟩ := List.mem_map.1 he
    exact SearchInput.canonical_isStored (fits input hinput)
  have hlevels : nesting (Request.toJson ⟨query, [("input", form)]⟩) ≤ 127 := by
    show max 0 (max (max (nesting form) 0 + 1) 0) + 1 ≤ 127
    omega
  refine ⟨_, form, hset, hrequest _ ⟨List.pairwise_singleton _ _, hstored, trivial⟩ hlevels, rfl,
    list?_forms fun input hinput => SearchInput.ofJson?_canonical (fits input hinput), ?_⟩
  exact document_ok_of_forall_style fun _ => ⟨opens_array _, reads_list fun input hinput =>
    ⟨by rw [SearchInput.canonical_toJson]; exact opens_object _,
      SearchInput.reads_canonical (fits input hinput)⟩⟩

/-- An input with an empty list, fields that are left out, the least limit there is and strings that
need escapes. -/
def sampleInput : SearchInput :=
  ⟨some [], none, some (-9223372036854775808), some ["Pod", "\"a\\b\"\t\u0001", "κόμβος 🚀"]⟩

/-- A request with the greatest whole number and values inside values. -/
def sampleRequest : Request :=
  ⟨"query q($input: [SearchInput]) \x7b searchSchema \x7d",
    [("deep", .array [.integer 18446744073709551615, .array [], .object [("", .null)]]),
      ("done", .boolean false)]⟩

theorem text_round_trip_of_samples :
    SearchInput.parse (bytesOf sampleInput.toJson.prettyText) = .ok sampleInput ∧
      Request.parse (bytesOf sampleRequest.prettyBody) = .ok sampleRequest ∧
      ∃ r form, (ofQuery sampleRequest.query).setVariable "input"
          (.searches [sampleInput, .empty]) = .ok r ∧
        Request.parse (bytesOf r.body) = .ok r ∧ Members.get? "input" r.bindings = some form ∧
        list? SearchInput.ofJson? form = some [sampleInput, .empty] := by
  obtain ⟨-, hinput, hrequest, hlist⟩ := text_round_trip
  have fits : ∀ limit ∈ sampleInput.limit, fitsInt64 limit = true := by
    rintro limit ⟨⟩
    decide
  have hsorted : Members.Sorted sampleRequest.bindings :=
    List.pairwise_pair.2 (show "deep" < "done" by decide)
  have hstored : IsStored (.object sampleRequest.bindings) :=
    ⟨hsorted, ⟨⟨by decide, by decide⟩, trivial,
      ⟨List.pairwise_singleton _ _, trivial, trivial⟩, trivial⟩, trivial, trivial⟩
  have hinputs : ∀ input ∈ [sampleInput, .empty], ∀ limit ∈ input.limit,
      fitsInt64 limit = true :=
    List.forall_mem_cons.2 ⟨fits, List.forall_mem_singleton.2 (by rintro limit ⟨⟩)⟩
  obtain ⟨r, form, hset, ⟨hbody, -⟩, hget, hform, -⟩ := hlist sampleRequest.query _ hinputs
  exact ⟨(hinput sampleInput fits).2, (hrequest sampleRequest hstored (by decide)).2, r, form, hset,
    hbody, hget, hform⟩

end Request

end QuerySwarm
