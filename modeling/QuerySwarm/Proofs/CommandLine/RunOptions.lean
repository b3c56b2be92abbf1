import QuerySwarm.CommandLine.Commands
import QuerySwarm.Proofs.CommandLine.Words

/-!
# The options of a run, written and read

Each option of a run goes into a field of its own, so that it makes no difference which of them is
read first: copying one field of a record commutes with copying another (`RunOptions.copy_comm`).
What has been read after some words is the record that starts with the defaults and has got the
fields of the options among these words. The option that lists tasks is the only one that adds to
what is there, and only its words have an order that counts.

Main statement: options are read back from the words that give them, in any order of the options
(`RunOptions.words_read_back`).
-/

namespace QuerySwarm.RunOptions

open CommandLine

/-! ### Options and their words -/

/-- The options of a run, but for the one that lists tasks. -/
inductive Slot where
  | host
  | profile
  | users
  | spawnRate
  | minWait
  | maxWait
  | duration
  | scenario
  | templateFile
  | tokenVariable
  | tokenFile
  | tagOperations
  | debugResponses
  | validateResponses
  | requestTimeout
  | reportInterval
  | reportPath
  | verbose
  deriving DecidableEq

namespace Slot

def all : List Slot :=
  [host, profile, users, spawnRate, minWait, maxWait, duration, scenario, templateFile,
    tokenVariable, tokenFile, tagOperations, debugResponses, validateResponses, requestTimeout,
    reportInterval, reportPath, verbose]

def form : Slot → OptionForm RunOptions
  | host => hostForm
  | profile => profileForm
  | users => usersForm
  | spawnRate => spawnRateForm
  | minWait => minWaitForm
  | maxWait => maxWaitForm
  | duration => durationForm
  | scenario => scenarioForm
  | templateFile => templateFileForm
  | tokenVariable => tokenVariableForm
  | tokenFile => tokenFileForm
  | tagOperations => tagOperationsForm
  | debugResponses => debugResponsesForm
  | validateResponses => validateResponsesForm
  | requestTimeout => requestTimeoutForm
  | reportInterval => reportIntervalForm
  | reportPath => reportPathForm
  | verbose => verboseForm

theorem nodup_all : all.Nodup := by decide

theorem mem_all (s : Slot) : s ∈ all := by cases s <;> decide

theorem form_mem (s : Slot) : s.form ∈ RunOptions.form.options := by
  cases s <;> simp only [form, RunOptions.form, List.mem_cons, true_or, or_true]

theorem long?_long (s : Slot) : RunOptions.form.long? s.form.long = some s.form :=
  CommandForm.long?_of_mem long_nodup s.form_mem

theorem equals_not_mem_long (s : Slot) : '=' ∉ s.form.long.toList := by cases s <;> decide

theorem long_ne_empty (s : Slot) : s.form.long ≠ "" := by cases s <;> decide

theorem long_injective {s t : Slot} (h : s.form.long = t.form.long) : s = t := by
  revert h
  cases s <;> cases t <;> decide

theorem long_ne_only (s : Slot) : s.form.long ≠ onlyForm.long := by cases s <;> decide

end Slot

/-- The word that gives an option what it is in a record; what is `none` or `false` is left out. -/
def word? (o : RunOptions) : Slot → Option String
  | .host => some (assigned "host" o.host)
  | .profile => some (assigned "profile" o.profile)
  | .users => o.users.map fun users => assigned "users" (natText users)
  | .spawnRate => o.spawnRate.map fun rate => assigned "spawn-rate" rate.text
  | .minWait => o.minWait.map fun wait => assigned "min-wait" wait.text
  | .maxWait => o.maxWait.map fun wait => assigned "max-wait" wait.text
  | .duration => some (assigned "duration" (natText o.duration))
  | .scenario => some (assigned "scenario" o.scenario.word)
  | .templateFile => some (assigned "template-file" o.templateFile)
  | .tokenVariable => some (assigned "token-env" o.tokenVariable)
  | .tokenFile => o.tokenFile.map fun path => assigned "token-file" path
  | .tagOperations => if o.tagOperations then some (bare "tag-operations") else none
  | .debugResponses => if o.debugResponses then some (bare "debug-responses") else none
  | .validateResponses => if o.validateResponses then some (bare "validate-responses") else none
  | .requestTimeout => some (assigned "request-timeout" (natText o.requestTimeout))
  | .reportInterval => some (assigned "report-interval" (natText o.reportInterval))
  | .reportPath => o.reportPath.map fun path => assigned "report-json" path
  | .verbose => if o.verbose then some (bare "verbose") else none

/-- A part of a command line: an option, or some of the tasks that the run is restricted to. -/
inductive Part where
  | option (slot : Slot)
  | tasks (names : List String)

namespace Part

def slot? : Part → Option Slot
  | option slot => some slot
  | tasks _ => none

def names? : Part → Option (List String)
  | option _ => none
  | tasks names => some names

end Part

/-- The words of a command line that consists of these parts. -/
def words (o : RunOptions) (parts : List Part) : List String :=
  parts.filterMap fun
    | .option slot => o.word? slot
    | .tasks names => some (assigned "only" (",".intercalate names))

/-- Whether parts are these options, in any order, and the tasks of a record: these in their own
order, in groups of any size, among the options wherever they like. -/
structure Arranges (o : RunOptions) (slots : List Slot) (parts : List Part) : Prop where
  options : (parts.filterMap Part.slot?).Perm slots
  tasks : (parts.filterMap Part.names?).flatten = o.only
  groups : ∀ names ∈ parts.filterMap Part.names?, names ≠ []

/-- Whether words can give what a record holds. -/
structure IsExpressible (o : RunOptions) : Prop where
  users : ∀ users ∈ o.users, users < wholeLimit
  spawnRate : ∀ rate ∈ o.spawnRate, rate ≠ .nan
  minWait : ∀ wait ∈ o.minWait, wait ≠ .nan
  maxWait : ∀ wait ∈ o.maxWait, wait ≠ .nan
  duration : o.duration < wholeLimit
  only : ∀ name ∈ o.only, ',' ∉ name.toList
  templateFile : o.templateFile ≠ ""
  tokenFile : ∀ path ∈ o.tokenFile, path ≠ ""
  requestTimeout : o.requestTimeout < wholeLimit
  reportInterval : o.reportInterval < wholeLimit
  reportPath : ∀ path ∈ o.reportPath, path ≠ ""

/-! ### Fields -/

/-- A record with one field of another. -/
def copy (o : RunOptions) (record : RunOptions) : Slot → RunOptions
  | .host => { record with host := o.host }
  | .profile => { record with profile := o.profile }
  | .users => { record with users := o.users }
  | .spawnRate => { record with spawnRate := o.spawnRate }
  | .minWait => { record with minWait := o.minWait }
  | .maxWait => { record with maxWait := o.maxWait }
  | .duration => { record with duration := o.duration }
  | .scenario => { record with scenario := o.scenario }
  | .templateFile => { record with templateFile := o.templateFile }
  | .tokenVariable => { record with tokenVariable := o.tokenVariable }
  | .tokenFile => { record with tokenFile := o.tokenFile }
  | .tagOperations => { record with tagOperations := o.tagOperations }
  | .debugResponses => { record with debugResponses := o.debugResponses }
  | .validateResponses => { record with validateResponses := o.validateResponses }
  | .requestTimeout => { record with requestTimeout := o.requestTimeout }
  | .reportInterval => { record with reportInterval := o.reportInterval }
  | .reportPath => { record with reportPath := o.reportPath }
  | .verbose => { record with verbose := o.verbose }

theorem copy_comm (o record : RunOptions) (s t : Slot) :
    o.copy (o.copy record s) t = o.copy (o.copy record t) s := by
  cases s <;> cases t <;> rfl

theorem copy_only (o record : RunOptions) (names : List String) (s : Slot) :
    o.copy { record with only := names } s = { o.copy record s with only := names } := by
  cases s <;> rfl

/-- What is left out has its default. -/
theorem copy_default {o : RunOptions} {s : Slot} (h : o.word? s = none) :
    o.copy default s = default := by
  cases s <;>
    simp only [word?, Option.map_eq_none_iff, reduceCtorEq, ite_eq_right_iff, imp_false,
      Bool.not_eq_true] at h <;>
    simp only [copy, h] <;> rfl

/-! ### One word -/

section

variable {o : RunOptions} {r : Reading RunOptions} {s : Slot}
variable (hwaiting : r.waiting = none) (htrailing : r.trailing = false)
variable (hnew : s.form.long ∉ r.given)
include hwaiting htrailing hnew

theorem step_value (env : Environment) {α : Type} {parse : String → Except ValueFault α}
    {store : α → RunOptions → RunOptions} {text : String} {a : α}
    (hintake : s.form.intake = .value false fun text record => (parse text).map (store · record))
    (hparse : parse text = .ok a) (hstore : store a r.record = o.copy r.record s) :
    Reading.step form env r (assigned s.form.long text) =
      .ok { r with record := o.copy r.record s, given := r.given ++ [s.form.long] } := by
  refine Reading.step_assigned hwaiting htrailing s.equals_not_mem_long s.long?_long env hintake
    (fun hmem => absurd hmem hnew) ?_
  rw [hparse, ← hstore]
  rfl

/-- Any text is taken as it is. -/
theorem step_text (env : Environment) {store : String → RunOptions → RunOptions} {text : String}
    (hintake : s.form.intake = .value false fun text record => (anyText text).map (store · record))
    (hstore : store text r.record = o.copy r.record s) :
    Reading.step form env r (assigned s.form.long text) =
      .ok { r with record := o.copy r.record s, given := r.given ++ [s.form.long] } :=
  step_value hwaiting htrailing hnew env hintake rfl hstore

theorem step_bare (env : Environment) {store : RunOptions → RunOptions}
    (hintake : s.form.intake = .flag store) (hstore : store r.record = o.copy r.record s) :
    Reading.step form env r (bare s.form.long) =
      .ok { r with record := o.copy r.record s, given := r.given ++ [s.form.long] } := by
  rw [Reading.step_flag hwaiting htrailing s.equals_not_mem_long s.long?_long env hintake
    s.long_ne_empty hnew, hstore]

/-- The word of an option copies its field. -/
theorem step_word (env : Environment) (h : o.IsExpressible) {word : String}
    (hword : o.word? s = some word) :
    Reading.step form env r word =
      .ok { r with record := o.copy r.record s, given := r.given ++ [s.form.long] } := by
  cases s with
  | host =>
    cases hword
    exact step_text hwaiting htrailing hnew env rfl rfl
  | profile =>
    cases hword
    exact step_text hwaiting htrailing hnew env rfl rfl
  | users =>
    obtain ⟨users, heq, rfl⟩ := Option.map_eq_some_iff.1 hword
    exact step_value hwaiting htrailing hnew env rfl (whole_natText (h.users users heq))
      (by rw [copy, heq])
  | spawnRate =>
    obtain ⟨rate, heq, rfl⟩ := Option.map_eq_some_iff.1 hword
    exact step_value hwaiting htrailing hnew env rfl (number_text (h.spawnRate rate heq))
      (by rw [copy, heq])
  | minWait =>
    obtain ⟨wait, heq, rfl⟩ := Option.map_eq_some_iff.1 hword
    exact step_value hwaiting htrailing hnew env rfl (number_text (h.minWait wait heq))
      (by rw [copy, heq])
  | maxWait =>
    obtain ⟨wait, heq, rfl⟩ := Option.map_eq_some_iff.1 hword
    exact step_value hwaiting htrailing hnew env rfl (number_text (h.maxWait wait heq))
      (by rw [copy, heq])
  | duration =>
    cases hword
    exact step_value hwaiting htrailing hnew env rfl (whole_natText h.duration) rfl
  | scenario =>
    cases hword
    exact step_value hwaiting htrailing hnew env rfl (scenarioWord_word o.scenario) rfl
  | templateFile =>
    cases hword
    exact step_value hwaiting htrailing hnew env rfl (pathText_eq_ok h.templateFile) rfl
  | tokenVariable =>
    cases hword
    exact step_text hwaiting htrailing hnew env rfl rfl
  | tokenFile =>
    obtain ⟨path, heq, rfl⟩ := Option.map_eq_some_iff.1 hword
    exact step_value hwaiting htrailing hnew env rfl (pathText_eq_ok (h.tokenFile path heq))
      (by rw [copy, heq])
  | tagOperations =>
    obtain ⟨hset, ⟨⟩⟩ := Option.ite_none_right_eq_some.1 hword
    exact step_bare hwaiting htrailing hnew env rfl (by rw [copy, hset])
  | debugResponses =>
    obtain ⟨hset, ⟨⟩⟩ := Option.ite_none_right_eq_some.1 hword
    exact step_bare hwaiting htrailing hnew env rfl (by rw [copy, hset])
  | validateResponses =>
    obtain ⟨hset, ⟨⟩⟩ := Option.ite_none_right_eq_some.1 hword
    exact step_bare hwaiting htrailing hnew env rfl (by rw [copy, hset])
  | requestTimeout =>
    cases hword
    exact step_value hwaiting htrailing hnew env rfl (whole_natText h.requestTimeout) rfl
  | reportInterval =>
    cases hword
    exact step_value hwaiting htrailing hnew env rfl (whole_natText h.reportInterval) rfl
  | reportPath =>
    obtain ⟨path, heq, rfl⟩ := Option.map_eq_some_iff.1 hword
    exact step_value hwaiting htrailing hnew env rfl (pathText_eq_ok (h.reportPath path heq))
      (by rw [copy, heq])
  | verbose =>
    obtain ⟨hset, ⟨⟩⟩ := Option.ite_none_right_eq_some.1 hword
    exact step_bare hwaiting htrailing hnew env rfl (by rw [copy, hset])

end

/-- A word with tasks adds them, and may be given again. -/
theorem step_tasks (env : Environment) {r : Reading RunOptions} (hwaiting : r.waiting = none)
    (htrailing : r.trailing = false) {tasks : List String} (hne : tasks ≠ [])
    (hcomma : ∀ name ∈ tasks, ',' ∉ name.toList) :
    Reading.step form env r (assigned "only" (",".intercalate tasks)) =
      .ok { r with
        record := { r.record with only := r.record.only ++ tasks }
        given := r.given ++ ["only"] } := by
  refine Reading.step_assigned (o := onlyForm) hwaiting htrailing (by decide)
    (CommandForm.long?_of_mem long_nodup ?_) env rfl (fun _ => rfl) ?_
  · simp only [form, List.mem_cons, true_or, or_true]
  · rw [names_intercalate hne hcomma]

/-! ### All words -/

/-- How far the reading of a record has come: the fields of some options are read, and some
tasks. -/
structure Progress (o : RunOptions) (done : List Slot) (tasks : List String)
    (r : Reading RunOptions) : Prop where
  record : r.record = { done.foldl o.copy default with only := tasks }
  waiting : r.waiting = none
  trailing : r.trailing = false
  given : ∀ s : Slot, s.form.long ∈ r.given ↔ s ∈ done ∧ (o.word? s).isSome = true

section

variable {o : RunOptions} {done : List Slot} {tasks : List String} {r : Reading RunOptions}

theorem Progress.start (o : RunOptions) : Progress o [] [] (Reading.start default) where
  record := rfl
  waiting := rfl
  trailing := rfl
  given _ := ⟨fun h => absurd h List.not_mem_nil, fun h => absurd h.1 List.not_mem_nil⟩

theorem foldl_copy_perm (record : RunOptions) {slots slots' : List Slot} (h : slots.Perm slots') :
    slots.foldl o.copy record = slots'.foldl o.copy record :=
  h.foldl_eq' (fun s _ t _ record => copy_comm o record s t) record

/-- What is left out makes no difference. -/
theorem foldl_copy_of_none {s : Slot} (h : o.word? s = none) :
    (done ++ [s]).foldl o.copy default = done.foldl o.copy default := by
  rw [foldl_copy_perm default (List.perm_append_singleton s done), List.foldl_cons, copy_default h]

theorem Progress.skip (h : Progress o done tasks r) {s : Slot} (hnone : o.word? s = none) :
    Progress o (done ++ [s]) tasks r where
  record := by rw [h.record, foldl_copy_of_none hnone]
  waiting := h.waiting
  trailing := h.trailing
  given t := by
    rw [h.given t, List.mem_append, List.mem_singleton]
    constructor
    · exact fun ht => ⟨.inl ht.1, ht.2⟩
    · rintro ⟨hmem | rfl, hsome⟩
      · exact ⟨hmem, hsome⟩
      · rw [hnone] at hsome
        cases hsome

theorem Progress.take (h : Progress o done tasks r) {s : Slot} {word : String}
    (hword : o.word? s = some word) :
    Progress o (done ++ [s]) tasks
      { r with record := o.copy r.record s, given := r.given ++ [s.form.long] } where
  record := by
    rw [h.record, copy_only, List.foldl_append]
    rfl
  waiting := h.waiting
  trailing := h.trailing
  given t := by
    rw [List.mem_append, List.mem_append, List.mem_singleton, List.mem_singleton, h.given t]
    constructor
    · rintro (⟨hmem, hsome⟩ | hlong)
      · exact ⟨.inl hmem, hsome⟩
      · obtain rfl := Slot.long_injective hlong
        exact ⟨.inr rfl, Option.isSome_of_eq_some hword⟩
    · rintro ⟨hmem | rfl, hsome⟩
      · exact .inl ⟨hmem, hsome⟩
      · exact .inr rfl

theorem Progress.extend (h : Progress o done tasks r) (more : List String) :
    Progress o done (tasks ++ more)
      { r with
        record := { r.record with only := r.record.only ++ more }
        given := r.given ++ ["only"] } where
  record := by rw [h.record]
  waiting := h.waiting
  trailing := h.trailing
  given t := by
    rw [List.mem_append, List.mem_singleton, h.given t]
    exact or_iff_left t.long_ne_only

/-- Words are read part by part. -/
theorem exists_steps (env : Environment) (hexpr : o.IsExpressible) {parts : List Part}
    (hnodup : (done ++ parts.filterMap Part.slot?).Nodup)
    (hgroups : ∀ names ∈ parts.filterMap Part.names?,
      names ≠ [] ∧ ∀ name ∈ names, ',' ∉ name.toList)
    (h : Progress o done tasks r) :
    ∃ r', Reading.steps form env r (o.words parts) = .ok r' ∧
      Progress o (done ++ parts.filterMap Part.slot?)
        (tasks ++ (parts.filterMap Part.names?).flatten) r' := by
  -- on the parts, with what has been read kept as progress
  induction parts generalizing done tasks r with
  | nil =>
    refine ⟨r, rfl, ?_⟩
    rw [List.filterMap_nil, List.filterMap_nil, List.flatten_nil, List.append_nil, List.append_nil]
    exact h
  | cons part parts ih =>
    cases part with
    | option s =>
      have hslots : (Part.option s :: parts).filterMap Part.slot? =
          s :: parts.filterMap Part.slot? := rfl
      have hnew : s ∉ done := by
        rw [hslots, List.nodup_append] at hnodup
        exact fun hmem => hnodup.2.2 s hmem s List.mem_cons_self rfl
      rw [hslots, List.append_cons] at hnodup ⊢
      cases hword : o.word? s with
      | none =>
        have hwords : o.words (.option s :: parts) = o.words parts := List.filterMap_cons_none hword
        rw [hwords]
        exact ih hnodup hgroups (h.skip hword)
      | some word =>
        have hwords : o.words (.option s :: parts) = word :: o.words parts :=
          List.filterMap_cons_some hword
        have hfresh : s.form.long ∉ r.given := fun hmem => hnew ((h.given s).1 hmem).1
        rw [hwords, Reading.steps_cons (step_word h.waiting h.trailing hfresh env hexpr hword)]
        exact ih hnodup hgroups (h.take hword)
    | tasks more =>
      obtain ⟨⟨hne, hcomma⟩, hrest⟩ := List.forall_mem_cons.1 hgroups
      have hwords : o.words (.tasks more :: parts) =
          assigned "only" (",".intercalate more) :: o.words parts := rfl
      have htasks : tasks ++ ((Part.tasks more :: parts).filterMap Part.names?).flatten =
          tasks ++ more ++ (parts.filterMap Part.names?).flatten :=
        (List.append_assoc _ _ _).symm
      rw [hwords, htasks, Reading.steps_cons (step_tasks env h.waiting h.trailing hne hcomma)]
      exact ih hnodup hrest (h.extend more)

/-- Where all options are read but for the host, nothing else is left at its default. -/
theorem foldl_copy_erase (o : RunOptions) :
    (Slot.all.erase .host).foldl o.copy default = { o with host := defaultHost, only := [] } := by
  have herase : Slot.all.erase .host = Slot.all.tail := by decide
  rw [herase]
  simp only [Slot.all, List.tail_cons, List.foldl_cons, List.foldl_nil, copy, default]

theorem foldl_copy_all (o : RunOptions) :
    Slot.all.foldl o.copy default = { o with only := [] } := by
  simp only [Slot.all, List.foldl_cons, List.foldl_nil, copy, default]

end

/-! ### The end of a line -/

section

variable {env : Environment} {r : Reading RunOptions}

theorem fallBack_of_given (h : "host" ∈ r.given) :
    Reading.fallBack form env r hostForm = .ok r := by
  have hgiven : r.given.contains hostForm.long = true := List.contains_iff_mem.2 h
  unfold Reading.fallBack
  split
  · rfl
  · rw [if_pos hgiven]

theorem fallBack_of_unset (h : env.value? hostVariable = none) :
    Reading.fallBack form env r hostForm = .ok r := by
  have hvalue : hostForm.fallback?.bind env.value? = none := h
  rw [Reading.fallBack, hvalue]

theorem fallBack_of_set (hnew : "host" ∉ r.given) {bytes : Bytes}
    (h : env.value? hostVariable = some bytes) :
    Reading.fallBack form env r hostForm =
      match textOf? bytes with
      | none => .error ⟨.notText, [], some form.usage⟩
      | some host => .ok { r with record := { r.record with host := host } } := by
  have hvalue : hostForm.fallback?.bind env.value? = some bytes := h
  have hgiven : ¬ r.given.contains hostForm.long = true := fun hmem =>
    hnew (List.contains_iff_mem.1 hmem)
  rw [Reading.fallBack, hvalue]
  dsimp only
  rw [if_neg hgiven]
  cases textOf? bytes with
  | none => rfl
  | some host =>
    have hstored : Reading.storeValue form r hostForm host =
        .ok { r with record := { r.record with host := host }, given := r.given ++ ["host"] } :=
      Reading.storeValue_eq_ok rfl (fun hmem => absurd hmem hnew) rfl
    dsimp only
    rw [hstored]
    rfl

theorem finish_eq (hwaiting : r.waiting = none) :
    Reading.finish form env r = (Reading.fallBack form env r hostForm).map Reading.record :=
  Reading.finish_of_sole env rfl (by decide) rfl hwaiting

end

/-! ### The whole line -/

section

variable {o : RunOptions} {parts : List Part}

theorem Progress.perm {r : Reading RunOptions} {done done' : List Slot} {tasks : List String}
    (h : Progress o done tasks r) (hperm : done.Perm done') : Progress o done' tasks r where
  record := by rw [h.record, foldl_copy_perm default hperm]
  waiting := h.waiting
  trailing := h.trailing
  given s := by rw [h.given s, hperm.mem_iff]

/-- A line is read up to its end. -/
theorem exists_progress (env : Environment) (hexpr : o.IsExpressible) {slots : List Slot}
    (hnodup : slots.Nodup) (h : o.Arranges slots parts) :
    ∃ r, Progress o slots o.only r ∧ Command.read env ("run" :: o.words parts) =
      ((Reading.fallBack form env r hostForm).map Reading.record).map Command.run := by
  have hgroups : ∀ names ∈ parts.filterMap Part.names?,
      names ≠ [] ∧ ∀ name ∈ names, ',' ∉ name.toList := fun names hnames =>
    ⟨h.groups names hnames, fun name hname => hexpr.only name (by
      rw [← h.tasks]
      exact List.mem_flatten_of_mem hnames hname)⟩
  have hslots : ([] ++ parts.filterMap Part.slot?).Nodup := h.options.nodup_iff.2 hnodup
  obtain ⟨r, hsteps, hprogress⟩ := exists_steps env hexpr hslots hgroups (Progress.start o)
  rw [List.nil_append, List.nil_append, h.tasks] at hprogress
  refine ⟨r, hprogress.perm h.options, ?_⟩
  rw [Command.read_run, RunOptions.read, Reading.read_of_steps hsteps, finish_eq hprogress.waiting]

end

/-- Options are read back from the words that give them, whatever the order of the options and
whatever the variables. Without a host among the words, the host is what the variable for it holds,
which is refused if it is not text, or the default if there is no such variable. -/
theorem words_read_back (env : Environment) {o : RunOptions} (h : o.IsExpressible) :
    (∀ parts, o.Arranges Slot.all parts →
      Command.read env ("run" :: o.words parts) = .ok (.run o)) ∧
    ∀ parts, o.Arranges (Slot.all.erase .host) parts →
      (env.value? hostVariable = none → Command.read env ("run" :: o.words parts) =
        .ok (.run { o with host := defaultHost })) ∧
      ∀ bytes, env.value? hostVariable = some bytes →
        (∀ host, textOf? bytes = some host → Command.read env ("run" :: o.words parts) =
          .ok (.run { o with host := host })) ∧
        (textOf? bytes = none → Command.read env ("run" :: o.words parts) =
          .error ⟨.notText, [], some form.usage⟩) := by
  constructor
  · intro parts hparts
    obtain ⟨r, hprogress, hread⟩ := exists_progress env h Slot.nodup_all hparts
    have hgiven : "host" ∈ r.given := (hprogress.given .host).2 ⟨Slot.mem_all .host, rfl⟩
    rw [hread, fallBack_of_given hgiven]
    show Except.ok (Command.run r.record) = _
    rw [hprogress.record, foldl_copy_all]
  · intro parts hparts
    obtain ⟨r, hprogress, hread⟩ := exists_progress env h (Slot.nodup_all.erase _) hparts
    have hnew : "host" ∉ r.given := fun hmem =>
      Slot.nodup_all.not_mem_erase ((hprogress.given .host).1 hmem).1
    have hrecord : r.record = { o with host := defaultHost } := by
      rw [hprogress.record, foldl_copy_erase]
    refine ⟨fun hunset => ?_, fun bytes hset => ⟨fun host htext => ?_, fun htext => ?_⟩⟩
    · rw [hread, fallBack_of_unset hunset, ← hrecord]
      rfl
    · rw [hread, fallBack_of_set hnew hset, htext]
      show Except.ok (Command.run { r.record with host := host }) = _
      rw [hrecord]
    · rw [hread, fallBack_of_set hnew hset, htext]
      rfl

/-- Options with a host that looks like another option, and with two tasks. -/
def twoTasks : RunOptions :=
  { default with
    host := "--users=7"
    users := some 20
    spawnRate := some (.ofRatio false 1 10)
    only := ["searchByFilter", "searchCount"]
    tagOperations := true }

/-- Both tasks are given by words of their own, before and after the words of other options. -/
def twoTasks.parts (slots : List Slot) : List Part :=
  .tasks ["searchByFilter"] :: (slots.reverse.map Part.option ++ [.tasks ["searchCount"]])

theorem words_read_back_twoTasks :
    Command.read (.ofList [(hostVariable, [0xFF])])
        ["run", "--only=searchByFilter", "--report-interval=5", "--request-timeout=60",
          "--tag-operations", "--token-env=API_TOKEN",
          "--template-file=" ++ Task.defaultTemplateFile, "--scenario=catalog", "--duration=60",
          "--spawn-rate=0.1", "--users=20", "--profile=standard", "--host=--users=7",
          "--only=searchCount"] = .ok (.run twoTasks) ∧
      Command.read (.ofList [(hostVariable, bytesOf "http://a")])
        ["run", "--only=searchByFilter", "--report-interval=5", "--request-timeout=60",
          "--tag-operations", "--token-env=API_TOKEN",
          "--template-file=" ++ Task.defaultTemplateFile, "--scenario=catalog", "--duration=60",
          "--spawn-rate=0.1", "--users=20", "--profile=standard", "--only=searchCount"] =
        .ok (.run { twoTasks with host := "http://a" }) := by
  have hexpr : twoTasks.IsExpressible := by
    constructor <;> decide +kernel
  have hall : twoTasks.Arranges Slot.all (twoTasks.parts Slot.all) :=
    ⟨by decide, by decide, by decide⟩
  have hhostless : twoTasks.Arranges (Slot.all.erase .host)
      (twoTasks.parts (Slot.all.erase .host)) := ⟨by decide, by decide, by decide⟩
  have hset : (Environment.ofList [(hostVariable, bytesOf "http://a")]).value? hostVariable =
      some (bytesOf "http://a") := by decide +kernel
  have htext : textOf? (bytesOf "http://a") = some "http://a" := by decide +kernel
  have hread := (words_read_back (.ofList [(hostVariable, [0xFF])]) hexpr).1 _ hall
  have hfallen := (((words_read_back _ hexpr).2 _ hhostless).2 _ hset).1 _ htext
  refine ⟨Eq.trans ?_ hread, Eq.trans ?_ hfallen⟩
  · exact congrArg (fun words => Command.read _ ("run" :: words)) (by decide +kernel)
  · exact congrArg (fun words => Command.read _ ("run" :: words)) (by decide +kernel)

end QuerySwarm.RunOptions
