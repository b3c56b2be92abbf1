import QuerySwarm.Proofs.Json.RisingKeys
import QuerySwarm.Proofs.Request.Format

/-!
# Bodies are canonical

A request keeps its variables in the order of their names, and so does every object in a variable,
however the variable was given: as a value, as an input, as a table or in a text. So the order in
which variables are given leaves no trace in the body, and neither does a value that was replaced.

* `Request.Made`: the requests that are built or read.
* `Request.Made.hasRisingKeys`: their variables, and all that is in them, are in order.
* `Request.bound_of_setVariables`: what is found under a name once several variables are given.
* `Request.body_canonical`: the body does not depend on how the variables were given.
-/

namespace QuerySwarm

open Json

/-! ### What is stored for a variable -/

namespace Json.Tree

mutual

theorem hasRisingKeys_canonical : ∀ j : Json, (ofJson j.canonical).HasRisingKeys
  | .null => hasRisingKeys_of_objects_eq_nil rfl
  | .boolean _ => hasRisingKeys_of_objects_eq_nil rfl
  | .integer _ => hasRisingKeys_of_objects_eq_nil rfl
  | .double x => hasRisingKeys_ofDouble x
  | .string _ => hasRisingKeys_of_objects_eq_nil rfl
  | .array elements => hasRisingKeys_ofElements_iff.2 (hasRisingKeys_canonicalElements elements)
  | .object members => hasRisingKeys_ofList (hasRisingKeys_canonicalMembers members)

theorem hasRisingKeys_canonicalElements :
    ∀ (es : List Json), ∀ e ∈ canonicalElements es, (ofJson e).HasRisingKeys
  | [] => fun _ he => absurd he List.not_mem_nil
  | e :: es => List.forall_mem_cons.2
    ⟨hasRisingKeys_canonical e, hasRisingKeys_canonicalElements es⟩

theorem hasRisingKeys_canonicalMembers :
    ∀ (ms : List (String × Json)), ∀ m ∈ canonicalMembers ms, (ofJson m.2).HasRisingKeys
  | [] => fun _ hm => absurd hm List.not_mem_nil
  | (_, value) :: ms => List.forall_mem_cons.2
    ⟨hasRisingKeys_canonical value, hasRisingKeys_canonicalMembers ms⟩

end

end Json.Tree

namespace VariableValue

theorem hasRisingKeys_of_tableMembers {entries : List (Json × Json)} {members : Members}
    (h : tableMembers entries = .ok members) : ∀ m ∈ members, (Tree.ofJson m.2).HasRisingKeys := by
  induction entries generalizing members with
  | nil =>
    cases h
    exact fun _ hm => absurd hm List.not_mem_nil
  | cons entry rest ih =>
    unfold tableMembers at h
    split at h
    · cases h
    · split at h
      · cases h
      · next hrest =>
        cases h
        exact List.forall_mem_cons.2 ⟨Tree.hasRisingKeys_canonical entry.2, ih hrest⟩

/-- What is stored for a variable is in order, whatever was given. -/
theorem hasRisingKeys_of_toJson {value : VariableValue} {form : Json} (h : value.toJson = .ok form) :
    (Tree.ofJson form).HasRisingKeys := by
  cases value with
  | json value =>
    cases h
    exact Tree.hasRisingKeys_canonical value
  | double x =>
    cases h
    unfold Json.ofDouble
    split
    · exact Tree.hasRisingKeys_ofDouble x
    · exact Tree.hasRisingKeys_of_objects_eq_nil rfl
  | search input =>
    cases h
    exact Tree.hasRisingKeys_canonical input.toJson
  | searches inputs =>
    cases h
    exact Tree.hasRisingKeys_canonical (.array (inputs.map SearchInput.toJson))
  | table entries =>
    unfold toJson at h
    dsimp only at h
    split at h
    · cases h
    · next members hmembers =>
      cases h
      exact Tree.hasRisingKeys_ofList (hasRisingKeys_of_tableMembers hmembers)

end VariableValue

namespace Request

/-! ### Requests that are made -/

/-- A request that is built or read, with the variables that are given after that. -/
inductive Made : Request → Prop
  | ofQuery (query : String) : Made (ofQuery query)
  | parsed {content : Bytes} {r : Request} (h : parse content = .ok r) : Made r
  | given {r r' : Request} {name : String} {value : VariableValue} (made : Made r)
    (h : r.setVariable name value = .ok r') : Made r'

section Made

variable {r r' : Request} {values : List (String × VariableValue)}

theorem exists_form {name : String} {value : VariableValue} (h : r.setVariable name value = .ok r') :
    ∃ form, value.toJson = .ok form ∧ r' = ⟨r.query, r.bindings.set name form⟩ := by
  unfold setVariable at h
  split at h
  · next form hform =>
    cases h
    exact ⟨form, hform, rfl⟩
  · cases h

theorem setVariables_cons {name : String} {value : VariableValue}
    (h : r.setVariables ((name, value) :: values) = .ok r') :
    ∃ r₁, r.setVariable name value = .ok r₁ ∧ r₁.setVariables values = .ok r' := by
  unfold setVariables at h
  split at h
  · next r₁ h₁ => exact ⟨r₁, h₁, h⟩
  · cases h

theorem Made.setVariables (made : r.Made) (h : r.setVariables values = .ok r') : r'.Made := by
  induction values generalizing r with
  | nil =>
    cases h
    exact made
  | cons entry rest ih =>
    obtain ⟨r₁, h₁, hrest⟩ := setVariables_cons h
    exact ih (.given made h₁) hrest

/-- The variables that a text gives are in order, and so is all that is in them. -/
theorem hasRisingKeys_of_parse {content : Bytes} (h : parse content = .ok r) :
    (Tree.object (Tree.ofMembers r.bindings)).HasRisingKeys := by
  obtain ⟨given, hbinds⟩ := binds_of_parse h
  cases given with
  | none =>
    have hnone : r.bindings = [] := hbinds
    rw [hnone]
    exact Tree.hasRisingKeys_nil
  | some members => exact Tree.hasRisingKeys_of_value? hbinds.2

/-- Whatever way a request is made, its variables and all that is in them are in order. -/
theorem Made.hasRisingKeys (made : r.Made) :
    (Tree.object (Tree.ofMembers r.bindings)).HasRisingKeys := by
  induction made with
  | ofQuery query => exact Tree.hasRisingKeys_nil
  | parsed h => exact hasRisingKeys_of_parse h
  | given _ h ih =>
    obtain ⟨form, hform, rfl⟩ := exists_form h
    obtain ⟨hsorted, hrising⟩ := Tree.hasRisingKeys_ofMembers_iff.1 ih
    refine Tree.hasRisingKeys_ofMembers_iff.2 ⟨Members.sorted_set _ _ hsorted, fun m hm => ?_⟩
    rcases Members.mem_of_mem_set hm with rfl | hmem
    · exact VariableValue.hasRisingKeys_of_toJson hform
    · exact hrising m hmem

/-! ### Several variables -/

theorem query_of_setVariables (h : r.setVariables values = .ok r') : r'.query = r.query := by
  induction values generalizing r with
  | nil =>
    cases h
    rfl
  | cons entry rest ih =>
    obtain ⟨r₁, h₁, hrest⟩ := setVariables_cons h
    obtain ⟨form, -, rfl⟩ := exists_form h₁
    have hquery := ih hrest
    exact hquery

/-- Under a name there is the form of the last value that was given for it, or else what was there. -/
theorem bound_of_setVariables (h : r.setVariables values = .ok r') (name : String) :
    (Members.get? name r'.bindings).map Except.ok =
      ((Members.last? name values).map VariableValue.toJson).or
        ((Members.get? name r.bindings).map Except.ok) := by
  induction values generalizing r with
  | nil =>
    cases h
    rfl
  | cons entry rest ih =>
    obtain ⟨key, value⟩ := entry
    obtain ⟨r₁, h₁, hrest⟩ := setVariables_cons h
    obtain ⟨form, hform, rfl⟩ := exists_form h₁
    rw [ih hrest, Members.last?, Option.map_or, Option.or_assoc]
    congr 1
    by_cases hkey : name = key
    · rw [if_pos hkey, hkey, Members.get?_set, Option.map_some, Option.map_some, hform]
      rfl
    · rw [if_neg hkey, Members.get?_set_ne _ hkey]
      rfl

/-- Two rows of variables that leave the same under each name lead to the same request. -/
theorem setVariables_unique {r₁ r₂ : Request} {values₁ values₂ : List (String × VariableValue)}
    (sorted : Members.Sorted r.bindings) (h₁ : r.setVariables values₁ = .ok r₁)
    (h₂ : r.setVariables values₂ = .ok r₂)
    (same : ∀ name, (Members.last? name values₁).map VariableValue.toJson =
      (Members.last? name values₂).map VariableValue.toJson) :
    r₁ = r₂ := by
  have hbindings : r₁.bindings = r₂.bindings := by
    refine (bindings_sorted sorted h₁).ext (bindings_sorted sorted h₂) fun name => ?_
    have hok : Function.Injective (Except.ok : Json → Except Cause Json) := fun _ _ => Except.ok.inj
    refine Option.map_injective hok ?_
    rw [bound_of_setVariables h₁, bound_of_setVariables h₂, same]
  obtain ⟨query₁, bindings₁⟩ := r₁
  obtain ⟨query₂, bindings₂⟩ := r₂
  rw [Request.mk.injEq]
  exact ⟨(query_of_setVariables h₁).trans (query_of_setVariables h₂).symm, hbindings⟩

/-! ### Bodies -/

/-- What a body says: the query, and the variables as they are stored. -/
def tree (r : Request) : Tree :=
  .object [("query", .string r.query), ("variables", .object (Tree.ofMembers r.bindings))]

theorem bodies_areDocuments (r : Request) :
    IsDocument r.tree (bytesOf r.body) ∧ IsDocument r.tree (bytesOf r.prettyBody) :=
  texts_areDocuments r.toJson

end Made

/-- The body of a request depends only on what the variables are in the end: the order in which they
were given leaves no trace, and neither does a value that was replaced. In what the body says the
keys of the variables rise, byte by byte, and so do the keys of every object in them. -/
theorem body_canonical :
    (∀ {r r₁ r₂ : Request} {values₁ values₂ : List (String × VariableValue)}, r.Made →
      r.setVariables values₁ = .ok r₁ → r.setVariables values₂ = .ok r₂ →
      (∀ name, (Members.last? name values₁).map VariableValue.toJson =
        (Members.last? name values₂).map VariableValue.toJson) →
      bytesOf r₁.body = bytesOf r₂.body ∧ bytesOf r₁.prettyBody = bytesOf r₂.prettyBody) ∧
    (∀ {r r' : Request} {values : List (String × VariableValue)},
      r.setVariables values = .ok r' → r'.query = r.query ∧
      ∀ name, (Members.get? name r'.bindings).map Except.ok =
        ((Members.last? name values).map VariableValue.toJson).or
          ((Members.get? name r.bindings).map Except.ok)) ∧
    (∀ {r : Request}, r.Made →
      (∀ text ∈ [r.body, r.prettyBody], ∀ t, IsDocument t (bytesOf text) ↔
        t = .object [("query", .string r.query),
          ("variables", .object (Tree.ofMembers r.bindings))]) ∧
      (Tree.object (Tree.ofMembers r.bindings)).HasRisingKeys) := by
  refine ⟨fun made h₁ h₂ same => ?_, fun h => ⟨query_of_setVariables h, bound_of_setVariables h⟩,
    fun {r} made => ⟨?_, made.hasRisingKeys⟩⟩
  · have hsorted := (Tree.hasRisingKeys_ofMembers_iff.1 made.hasRisingKeys).1
    obtain rfl := setVariables_unique hsorted h₁ h₂ same
    exact ⟨rfl, rfl⟩
  · have hdocument : ∀ text ∈ [r.body, r.prettyBody], IsDocument r.tree (bytesOf text) :=
      List.forall_mem_cons.2
        ⟨r.bodies_areDocuments.1, List.forall_mem_singleton.2 r.bodies_areDocuments.2⟩
    intro text htext t
    constructor
    · exact fun h => h.unique (hdocument text htext)
    · rintro rfl
      exact hdocument text htext

/-- Variables that are given in one order, the first of them twice. -/
def sampleVariables : List (String × VariableValue) :=
  [("input", .search (.ofKeywords ["pod"])), ("κ", .json (.object [("b", .null), ("a", .integer 1)])),
    ("input", .search ((SearchInput.ofFilters [⟨"kind", ["Pod"]⟩]).withLimit 10))]

/-- The variables that remain, in another order. -/
def otherVariables : List (String × VariableValue) :=
  [("input", .search ((SearchInput.ofFilters [⟨"kind", ["Pod"]⟩]).withLimit 10)),
    ("κ", .json (.object [("a", .integer 1), ("b", .null)]))]

theorem last?_sampleVariables (name : String) :
    (Members.last? name sampleVariables).map VariableValue.toJson =
      (Members.last? name otherVariables).map VariableValue.toJson := by
  by_cases hinput : name = "input"
  · rw [hinput]
    rfl
  · by_cases hkappa : name = "κ"
    · rw [hkappa]
      rfl
    · simp only [sampleVariables, otherVariables, Members.last?, if_neg hinput, if_neg hkappa]
      rfl

theorem body_canonical_of_two_orders :
    ∃ r r' : Request, (ofQuery "query").setVariables sampleVariables = .ok r ∧
      (ofQuery "query").setVariables otherVariables = .ok r' ∧
      (bytesOf r.body = bytesOf r'.body ∧ bytesOf r.prettyBody = bytesOf r'.prettyBody) ∧
      r.query = "query" ∧
      (∀ t, IsDocument t (bytesOf r.body) ↔
        t = .object [("query", .string r.query),
          ("variables", .object (Tree.ofMembers r.bindings))]) ∧
      (Tree.object (Tree.ofMembers r.bindings)).HasRisingKeys := by
  obtain ⟨hsame, hgiven, hrising⟩ := body_canonical
  have made := Made.ofQuery "query"
  obtain ⟨r, hr⟩ : ∃ r, (ofQuery "query").setVariables sampleVariables = .ok r := ⟨_, rfl⟩
  obtain ⟨r', hr'⟩ : ∃ r', (ofQuery "query").setVariables otherVariables = .ok r' := ⟨_, rfl⟩
  obtain ⟨hdocument, hkeys⟩ := hrising (made.setVariables hr)
  exact ⟨r, r', hr, hr', hsame made hr hr' last?_sampleVariables, (hgiven hr).1,
    hdocument r.body List.mem_cons_self, hkeys⟩

end Request

end QuerySwarm
