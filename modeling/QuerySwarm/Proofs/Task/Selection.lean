import QuerySwarm.Proofs.Setup.Preparation
import Mathlib.Data.List.Nodup

/-!
# Selecting tasks by name

The users of a run pick from the tasks of a scenario, or from those of them that are named. No two
tasks of a scenario have one name, so a name stands for one task; and the names are looked up one
after the other, so that a name that is given twice selects its task twice and the first name without
a task is the one that is complained of.

* `TaskSet.restrict_eq_ok_iff`: a restriction holds what is found under each name, in order.
* `TaskSet.select_decided`: which names select tasks, which tasks these are, and what is said of
  names that select none.
-/

namespace QuerySwarm.TaskSet

/-! ### Names -/

theorem names_ofScenario_nodup (path : String) (scenario : Scenario) :
    (ofScenario path scenario).names.Nodup := by
  cases scenario with
  | catalog => exact catalog_names_nodup
  | template => exact List.nodup_singleton _
  | mixed =>
    rw [ofScenario, names_add, ← List.concat_eq_append]
    exact catalog_names_nodup.concat templateName_not_mem_catalog

/-- Where no two tasks have one name, what is found under a name is the only task that has it. -/
theorem get?_eq_some_iff {set : TaskSet} (nodup : set.names.Nodup) {name : String} {task : Task} :
    set.get? name = some task ↔ task ∈ set.tasks ∧ task.name = name := by
  constructor
  · exact fun hget => ⟨List.mem_of_find?_eq_some hget, name_of_get? hget⟩
  · rintro ⟨hmem, rfl⟩
    cases hget : set.get? task.name with
    | none => exact absurd (List.mem_map_of_mem hmem) (get?_eq_none_iff.1 hget)
    | some found =>
      have hfound := List.mem_of_find?_eq_some hget
      exact congrArg some (List.inj_on_of_nodup_map nodup hfound hmem (name_of_get? hget))

/-! ### Restrictions -/

/-- A restriction holds what is found under each of the names, in their order. -/
theorem restrict_eq_ok_iff {set restricted : TaskSet} {names : List String} :
    set.restrict names = .ok restricted ↔ names.map set.get? = restricted.tasks.map some := by
  obtain ⟨tasks⟩ := restricted
  induction names generalizing tasks with
  | nil =>
    rw [restrict, empty, Except.ok.injEq, TaskSet.mk.injEq, List.map_nil, eq_comm, eq_comm (a := [])]
    exact List.map_eq_nil_iff.symm
  | cons name rest ih =>
    unfold restrict
    rw [List.map_cons]
    cases hget : set.get? name with
    | none => cases tasks <;> simp
    | some task =>
      dsimp only
      cases tasks with
      | nil => cases set.restrict rest <;> simp [Except.map]
      | cons first others =>
        rw [List.map_cons, List.cons.injEq, Option.some.injEq, ← ih]
        cases set.restrict rest with
        | error e => simp [Except.map]
        | ok found => cases found; simp [Except.map]

/-- What is selected from a whole set by names: each name in its place, with the task of the whole set
that has it. Where there are no names, it is all of the set. -/
structure Selects (whole : TaskSet) (only : List String) (selected : TaskSet) : Prop where
  names : selected.names = if only = [] then whole.names else only
  tasks : ∀ task ∈ selected.tasks, task ∈ whole.tasks
  payloads : ∀ task ∈ selected.tasks, ∀ other ∈ whole.tasks, other.name = task.name →
    ∀ files, task.payload files = other.payload files
  nonempty : selected.tasks ≠ []

theorem selects_of_select {scenario : Scenario} {path : String} {only : List String}
    {selected : TaskSet} (h : select scenario path only = .ok selected) :
    Selects (ofScenario path scenario) only selected := by
  have nodup := names_ofScenario_nodup path scenario
  have hnonempty : selected.tasks ≠ [] := List.isEmpty_eq_false_iff.1 (isEmpty_of_select h)
  have hpayloads : (∀ task ∈ selected.tasks, task ∈ (ofScenario path scenario).tasks) →
      ∀ task ∈ selected.tasks, ∀ other ∈ (ofScenario path scenario).tasks,
        other.name = task.name → ∀ files, task.payload files = other.payload files := by
    intro hmem task htask other hother hname files
    rw [List.inj_on_of_nodup_map nodup hother (hmem task htask) hname]
  unfold select at h
  dsimp only at h
  split at h
  · next honly =>
    obtain rfl := List.isEmpty_iff.1 honly
    cases h
    exact ⟨(if_pos rfl).symm, fun _ => id, hpayloads fun _ => id, hnonempty⟩
  · next honly =>
    cases hrestrict : (ofScenario path scenario).restrict only with
    | error name =>
      rw [hrestrict] at h
      cases h
    | ok restricted =>
      rw [hrestrict] at h
      cases h
      have hmem : ∀ task ∈ selected.tasks, task ∈ (ofScenario path scenario).tasks := by
        intro task htask
        have hfound : some task ∈ only.map (ofScenario path scenario).get? := by
          rw [restrict_eq_ok_iff.1 hrestrict]
          exact List.mem_map_of_mem htask
        obtain ⟨name, -, hget⟩ := List.mem_map.1 hfound
        exact ((get?_eq_some_iff nodup).1 hget).1
      refine ⟨?_, hmem, hpayloads hmem, hnonempty⟩
      rw [if_neg (mt List.isEmpty_iff.2 honly)]
      exact names_of_restrict hrestrict

/-- What is said of names that select nothing. -/
theorem select_eq_error_iff {scenario : Scenario} {path : String} {only : List String}
    {e : SetupError} :
    select scenario path only = .error e ↔ ∃ known name rest, only = known ++ name :: rest ∧
      (∀ n ∈ known, n ∈ (ofScenario path scenario).names) ∧
      name ∉ (ofScenario path scenario).names ∧
      e = .unknownTask name scenario (ofScenario path scenario).names := by
  have hselect := SetupCheck.objection?_select
    { RunOptions.default with scenario := scenario, templateFile := path, only := only }
  rw [← SetupCheck.objection?_eq_some_iff, hselect]
  unfold SetupCheck.selection
  simp only [Option.map_eq_some_iff, List.find?_eq_some_iff_append, decide_eq_true_eq,
    Bool.not_eq_true', decide_eq_false_iff_not, Decidable.not_not]
  constructor
  · rintro ⟨name, ⟨hname, known, rest, honly, hknown⟩, rfl⟩
    exact ⟨known, name, rest, honly, hknown, hname, rfl⟩
  · rintro ⟨known, name, rest, honly, hknown, hname, rfl⟩
    exact ⟨name, ⟨hname, known, rest, honly, hknown⟩, rfl⟩

/-- Names select tasks exactly if the scenario has a task of each. Then the tasks that are selected have
just these names, in this order and as often, or all names of the scenario where none is given; each
has the payload of the scenario's task of its name; there is at least one; and whatever a user picks
from them has one of the names. Else the first name without a task is complained of, with the names
that there are. -/
theorem select_decided (scenario : Scenario) (path : String) (only : List String) :
    ((∃ selected, select scenario path only = .ok selected) ↔
      ∀ name ∈ only, name ∈ (ofScenario path scenario).names) ∧
    (∀ selected, select scenario path only = .ok selected →
      Selects (ofScenario path scenario) only selected ∧
      ∀ source, ∃ task, (selected.choose source).1 = some task ∧ (only ≠ [] → task.name ∈ only)) ∧
    ∀ e, select scenario path only = .error e → ∃ known name rest, only = known ++ name :: rest ∧
      (∀ n ∈ known, n ∈ (ofScenario path scenario).names) ∧
      name ∉ (ofScenario path scenario).names ∧
      e = .unknownTask name scenario (ofScenario path scenario).names ∧
      e.message = "unknown task '" ++ name ++ "' for scenario " ++ scenario.name ++
        "; available: " ++ ", ".intercalate (ofScenario path scenario).names := by
  refine ⟨?_, fun selected hselect => ?_, fun e hselect => ?_⟩
  · constructor
    · rintro ⟨selected, hselect⟩ name hname
      have h := selects_of_select hselect
      have hnames := h.names
      rw [if_neg (List.ne_nil_of_mem hname)] at hnames
      rw [← hnames] at hname
      obtain ⟨task, htask, rfl⟩ := List.mem_map.1 hname
      exact List.mem_map_of_mem (h.tasks task htask)
    · intro hknown
      cases hselect : select scenario path only with
      | ok selected => exact ⟨selected, rfl⟩
      | error e =>
        obtain ⟨known, name, rest, rfl, -, hname, -⟩ := select_eq_error_iff.1 hselect
        exact absurd (hknown name (by simp)) hname
  · have h := selects_of_select hselect
    refine ⟨h, fun source => ?_⟩
    obtain ⟨task, htask⟩ := Option.isSome_iff_exists.1 (isSome_choose h.nonempty source)
    refine ⟨task, htask, fun honly => ?_⟩
    have hnames := h.names
    rw [if_neg honly] at hnames
    rw [← hnames]
    exact List.mem_map_of_mem (mem_of_choose htask)
  · obtain ⟨known, name, rest, honly, hknown, hname, rfl⟩ := select_eq_error_iff.1 hselect
    exact ⟨known, name, rest, honly, hknown, hname, rfl, rfl⟩

/-- One name is given twice, and the template task first; of two names without a task, the first is
complained of. -/
theorem select_of_countTwice :
    (∃ selected, select .mixed "t.json" ["searchTemplate", "searchCount", "searchCount"] =
      .ok selected ∧ selected.names = ["searchTemplate", "searchCount", "searchCount"] ∧
      ∀ source, ∃ task, (selected.choose source).1 = some task ∧
        task.name ∈ ["searchTemplate", "searchCount", "searchCount"]) ∧
    ∃ e, select .template "t.json" ["searchTemplate", "searchCount", "other"] = .error e ∧
      e.message =
        "unknown task 'searchCount' for scenario Template; available: searchTemplate" := by
  obtain ⟨hsome, hselected, -⟩ :=
    select_decided .mixed "t.json" ["searchTemplate", "searchCount", "searchCount"]
  obtain ⟨-, -, herror⟩ :=
    select_decided .template "t.json" ["searchTemplate", "searchCount", "other"]
  obtain ⟨selected, hselect⟩ := hsome.2 (by decide)
  obtain ⟨h, hchoose⟩ := hselected selected hselect
  refine ⟨⟨selected, hselect, h.names, fun source => ?_⟩, ?_⟩
  · obtain ⟨task, htask, hname⟩ := hchoose source
    exact ⟨task, htask, hname (by decide)⟩
  · obtain ⟨_, name, _, -, -, -, heq, hmessage⟩ := herror _ rfl
    cases heq
    exact ⟨_, rfl, hmessage.trans (by decide +kernel)⟩

end QuerySwarm.TaskSet
