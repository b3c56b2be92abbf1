import QuerySwarm.Program
import QuerySwarm.Proofs.Client.Legality
import QuerySwarm.Proofs.CommandLine.Words
import QuerySwarm.Proofs.Json.Reprints
import QuerySwarm.Proofs.Request.Canonical
import QuerySwarm.Proofs.Task.Template

/-!
# The payload that is shown

The payload of an operation can be shown without a run. The operation is then looked up in another way
than a run looks it up: a run takes the name out of the set of all tasks, while here it is compared with
the name of the template task before the catalog is searched. Since no task of the catalog has that
name, both find the same task, and what is shown is what the task sends.

* `Request.exists_parse_of_isReadable`: the texts of a request are read as one request.
* `Program.chosenTask?_eq_get?`: both ways to look an operation up find the same task.
* `PayloadOptions.read_words`: the words that ask for a payload.
* `Program.showPayload_eq_sent`: what is shown is what is sent.
-/

namespace QuerySwarm

open Json CommandLine

/-! ### Requests that are read again -/

namespace Request

/-- Whether the variables can be read again once they are printed. -/
def IsReadable (r : Request) : Prop :=
  ∃ bindings, (Tree.ofJson (.object r.bindings)).Means 126 (.object bindings)

/-- All documents of a request that can be read again are read as the same request. -/
theorem exists_parse_of_isReadable {r : Request} (h : r.IsReadable) : ∃ bindings, ∀ content,
    IsDocument r.tree content → parse content = .ok ⟨r.query, bindings⟩ := by
  obtain ⟨bindings, hnesting, hvalue⟩ := h
  refine ⟨bindings, fun content document => ?_⟩
  have hdepth : r.tree.nesting ≤ maxDepth := by
    refine Nat.succ_le_succ (Tree.nestingOfMembers_le_iff.2 ?_)
    exact List.forall_mem_cons.2 ⟨Nat.zero_le _, List.forall_mem_singleton.2 hnesting⟩
  exact (parse_eq_ok_iff_tree document hdepth).2
    ⟨some (Tree.ofMembers r.bindings), ⟨rfl, rfl⟩, hvalue⟩

/-- What was read can be read again. -/
theorem isReadable_of_parse {content : Bytes} {r : Request} (h : parse content = .ok r) :
    r.IsReadable := by
  obtain ⟨given, hbinds⟩ := binds_of_parse h
  cases given with
  | none =>
    have hnone : r.bindings = [] := hbinds
    rw [IsReadable, hnone]
    exact ⟨[], by decide, rfl⟩
  | some members =>
    obtain ⟨again, hagain⟩ := Tree.exists_means_ofJson hbinds
    obtain ⟨entries, -, rfl⟩ := Option.map_eq_some_iff.1 hagain.2
    exact ⟨_, hagain⟩

theorem isReadable_of_isSome {r : Request}
    (hnesting : (Tree.ofJson (.object r.bindings)).nesting ≤ 126)
    (hvalue : (Tree.ofJson (.object r.bindings)).value?.isSome = true) : r.IsReadable := by
  obtain ⟨again, hagain⟩ := Option.isSome_iff_exists.1 hvalue
  obtain ⟨entries, -, rfl⟩ := Option.map_eq_some_iff.1 hagain
  exact ⟨_, hnesting, hagain⟩

end Request

/-! ### Payloads -/

namespace Task

variable {files : Files} {payload : Request}

theorem isReadable_of_mem_catalog {task : Task} (h : task ∈ TaskSet.catalog.tasks)
    (hpayload : task.payload files = .ok payload) : payload.IsReadable := by
  simp only [TaskSet.catalog, List.mem_cons, List.not_mem_nil, or_false] at h
  rcases h with rfl | rfl | rfl | rfl | rfl | rfl | rfl <;>
    · cases hpayload
      exact Request.isReadable_of_isSome (by decide +kernel) (by decide +kernel)

theorem isReadable_of_template {path : String}
    (hpayload : (template path).payload files = .ok payload) : payload.IsReadable := by
  cases hread : files.read path with
  | error e =>
    rw [Task.payload, readTemplate, hread] at hpayload
    cases hpayload
  | ok content =>
    rw [payload_of_read hread, loaded_eq_ok_iff] at hpayload
    exact Request.isReadable_of_parse hpayload

end Task

/-! ### Looking an operation up -/

namespace Program

/-- What a run of all tasks that is restricted to an operation sends. -/
structure Sends (operation path : String) (files : Files) (task : Task) (payload : Request) : Prop where
  selected : TaskSet.select .mixed path [operation] = .ok ⟨[task]⟩
  payload : task.payload files = .ok payload

/-- The name of the template task is not found in the catalog, so it makes no difference which of
them is looked at first. -/
theorem chosenTask?_eq_get? (o : PayloadOptions) :
    chosenTask? o = (TaskSet.ofScenario o.templateFile .mixed).get? o.operation := by
  unfold chosenTask?
  show _ = (TaskSet.catalog.add (.template o.templateFile)).get? o.operation
  rw [TaskSet.get?_add]
  split
  · next hname =>
    rw [hname, TaskSet.get?_eq_none_iff.2 TaskSet.templateName_not_mem_catalog, Option.none_or]
    exact (if_pos rfl).symm
  · next hname =>
    have hother : (Task.template o.templateFile).name ≠ o.operation := Ne.symm hname
    rw [if_neg hother, Option.or_none]

end Program

/-! ### The words of the command -/

namespace PayloadOptions

/-- The words that ask for a payload, with the path attached and the operation at the end. -/
def words (o : PayloadOptions) : List String :=
  "payload" :: ((if o.pretty then ["--pretty"] else []) ++
    ["--template-file=" ++ o.templateFile, "--", o.operation])

theorem step_path (env : Environment) (record : PayloadOptions) {given : List String} {path : String}
    (hgiven : "template-file" ∉ given) (hpath : path ≠ "") :
    Reading.step form env ⟨record, given, none, false, false⟩ ("--template-file=" ++ path) =
      .ok ⟨{ record with templateFile := path }, given ++ ["template-file"], none, false, false⟩ := by
  have hword : "--template-file=" ++ path = assigned "template-file" path := rfl
  have hread : (pathText path).map (fun path => { record with templateFile := path }) =
      .ok { record with templateFile := path } := by
    rw [pathText_eq_ok hpath]
    rfl
  rw [hword]
  exact Reading.step_assigned (o := form.options.head (by decide)) rfl rfl (by decide) rfl env rfl
    (fun hmem => absurd hmem hgiven) hread

/-- Any operation and any path but an empty one can be asked for. -/
theorem read_words (env : Environment) {o : PayloadOptions} (hpath : o.templateFile ≠ "") :
    Command.read env o.words = .ok (.payload o) := by
  obtain ⟨operation, path, pretty⟩ := o
  have hsteps : ∀ {record : PayloadOptions} {given : List String}, "template-file" ∉ given →
      Reading.steps form env ⟨record, given, none, false, false⟩
          ["--template-file=" ++ path, "--", operation] =
        .ok ⟨⟨operation, path, record.pretty⟩, given ++ ["template-file"], none, true, true⟩ :=
    fun hgiven => by
      rw [Reading.steps_cons (step_path env _ hgiven hpath)]
      rfl
  cases pretty with
  | false =>
    show (Reading.read form env default ["--template-file=" ++ path, "--", operation]).map
      Command.payload = _
    rw [Reading.read_of_steps (hsteps List.not_mem_nil)]
    rfl
  | true =>
    have hpretty : Reading.step form env (.start default) "--pretty" =
        .ok ⟨{ default with pretty := true }, ["pretty"], none, false, false⟩ := rfl
    show (Reading.read form env default ["--pretty", "--template-file=" ++ path, "--", operation]).map
      Command.payload = _
    rw [Reading.read_of_steps ((Reading.steps_cons hpretty _).trans (hsteps (by decide)))]
    rfl

end PayloadOptions

/-! ### What is shown -/

namespace Program

variable {o : PayloadOptions} {files : Files} {task : Task} {payload : Request}

theorem select_eq_ok_iff :
    TaskSet.select .mixed o.templateFile [o.operation] = .ok ⟨[task]⟩ ↔
      chosenTask? o = some task := by
  rw [TaskSet.select_singleton, chosenTask?_eq_get?]
  cases (TaskSet.ofScenario o.templateFile .mixed).get? o.operation with
  | none => exact iff_of_false (by rintro ⟨⟩) (by rintro ⟨⟩)
  | some found => simp only [Except.ok.injEq, TaskSet.mk.injEq, List.cons.injEq, and_true,
      Option.some.injEq]

theorem showPayload_of_sends (h : Sends o.operation o.templateFile files task payload) :
    showPayload o files = ⟨0, [.text (payloadText o payload ++ "\n")], "", files⟩ := by
  unfold showPayload
  simp only [select_eq_ok_iff.1 h.selected, h.payload]

/-- Where nothing would be sent, nothing is shown. -/
theorem showPayload_cases (o : PayloadOptions) (files : Files) :
    (∃ task payload, Sends o.operation o.templateFile files task payload) ∨
      ∃ message reason?, showPayload o files = failed files [] message reason? := by
  unfold showPayload
  cases hchosen : chosenTask? o with
  | none => exact .inr ⟨_, _, rfl⟩
  | some task =>
    dsimp only
    cases hpayload : task.payload files with
    | error e => exact .inr ⟨_, _, rfl⟩
    | ok payload => exact .inl ⟨task, payload, select_eq_ok_iff.2 hchosen, hpayload⟩

theorem isReadable_of_sends (h : Sends o.operation o.templateFile files task payload) :
    payload.IsReadable := by
  have hfound := (chosenTask?_eq_get? o).symm.trans (select_eq_ok_iff.1 h.selected)
  rcases List.mem_append.1 (List.mem_of_find?_eq_some hfound) with hcatalog | htemplate
  · exact Task.isReadable_of_mem_catalog hcatalog h.payload
  · obtain rfl := List.mem_singleton.1 htemplate
    exact Task.isReadable_of_template h.payload

/-- What is shown as the payload of an operation, whatever its name, the path of the template file and
the files are.

The words of the command lead there, if the path is not empty. Something is shown, and the program
ends with code 0, exactly if a run of all tasks that is restricted to the operation finds a task with a
payload; else the program complains and ends with code 1. The compact text is the payload's body on a
line of its own, and a sample of the task posts just this body; the pretty text is read as the same
request as the compact one. -/
theorem showPayload_eq_sent (operation path : String) (files : Files) :
    (path ≠ "" → ∀ (pretty : Bool) (s : Surroundings) (timestamp : String) (limit : Nat),
      run s timestamp limit (PayloadOptions.words ⟨operation, path, pretty⟩) =
        showPayload ⟨operation, path, pretty⟩ s.files) ∧
    (∀ pretty, ((showPayload ⟨operation, path, pretty⟩ files).code = 0 ↔
        ∃ task payload, Sends operation path files task payload) ∧
      ((showPayload ⟨operation, path, pretty⟩ files).code = 0 ∨ ∃ message reason?,
        showPayload ⟨operation, path, pretty⟩ files = failed files [] message reason?)) ∧
    ∀ {task payload}, Sends operation path files task payload →
      showPayload ⟨operation, path, false⟩ files = ⟨0, [.text (payload.body ++ "\n")], "", files⟩ ∧
      showPayload ⟨operation, path, true⟩ files =
        ⟨0, [.text (payload.prettyBody ++ "\n")], "", files⟩ ∧
      (∃ r : Request, r.query = payload.query ∧
        Request.parse (bytesOf (payload.body ++ "\n")) = .ok r ∧
        Request.parse (bytesOf (payload.prettyBody ++ "\n")) = .ok r) ∧
      ∀ {c : Client} {call : Call} {settings : Settings} {text : String},
        call.task = task → call.files = files → isHeaderText call.user.token.header = true →
        Settings.parseHost text = .ok settings.host → Client.ofSettings settings = .ok c →
        (∀ url, call.net.reaches url = true) → ∀ t before, ∃ r rest,
          (call.execute c t before).delivered = before ++ r :: rest ∧ r.method = .post ∧
            r.body = bytesOf payload.body := by
  refine ⟨fun hpath pretty s timestamp limit => ?_, fun pretty => ?_, fun {task payload} sends => ?_⟩
  · unfold run
    rw [PayloadOptions.read_words s.environment (o := ⟨operation, path, pretty⟩) hpath]
  · rcases showPayload_cases ⟨operation, path, pretty⟩ files with hsends | ⟨message, reason?, hfailed⟩
    · obtain ⟨task, payload, sends⟩ := hsends
      have hcode : (showPayload ⟨operation, path, pretty⟩ files).code = 0 := by
        rw [showPayload_of_sends sends]
      exact ⟨iff_of_true hcode ⟨task, payload, sends⟩, .inl hcode⟩
    · refine ⟨⟨fun hcode => ?_, fun ⟨task, payload, sends⟩ => ?_⟩, .inr ⟨message, reason?, hfailed⟩⟩
      · rw [hfailed] at hcode
        cases hcode
      · rw [showPayload_of_sends (o := ⟨operation, path, pretty⟩) sends]
  · obtain ⟨bindings, hparse⟩ :=
      Request.exists_parse_of_isReadable (isReadable_of_sends (o := ⟨operation, path, false⟩) sends)
    obtain ⟨hcompact, hpretty⟩ := lines_areDocuments payload.toJson
    refine ⟨showPayload_of_sends sends, showPayload_of_sends sends,
      ⟨⟨payload.query, bindings⟩, rfl, hparse _ hcompact, hparse _ hpretty⟩, ?_⟩
    intro c call settings text htask hfiles legal parsed made reached t before
    have hpayload : call.task.payload call.files = .ok payload := by
      rw [htask, hfiles]
      exact sends.payload
    obtain ⟨r, rest, post, hdelivered⟩ :=
      Client.isSent_of_isHeaderText parsed made legal hpayload reached t before
    exact ⟨r, rest, hdelivered, post.method, post.body⟩

/-- A template with its variables before its query. -/
def sampleTemplate : Files :=
  ⟨[(["template"], .file (bytesOf
    "\x7b\"variables\":\x7b\"n\":[1.50],\"a\":null\x7d,\"query\":\"q\"\x7d"))], []⟩

/-- What is sent of that template. -/
def sampleBody : String :=
  "\x7b\"query\":\"q\",\"variables\":\x7b\"a\":null,\"n\":[1.5]\x7d\x7d"

theorem showPayload_of_sampleTemplate :
    (∀ (s : Surroundings) (timestamp : String) (limit : Nat),
      run s timestamp limit ["payload", "--template-file=/template", "--", "searchTemplate"] =
        showPayload ⟨"searchTemplate", "/template", false⟩ s.files) ∧
    (showPayload ⟨"searchOther", "/template", false⟩ sampleTemplate).code ≠ 0 ∧
    ∃ payload c, Sends "searchTemplate" "/template" sampleTemplate (.template "/template") payload ∧
      Settings.parseHost "http://[::1]:4010" = .ok localSettings.host ∧
      Client.ofSettings localSettings = .ok c ∧
      showPayload ⟨"searchTemplate", "/template", false⟩ sampleTemplate =
        ⟨0, [.text (sampleBody ++ "\n")], "", sampleTemplate⟩ ∧
      (∃ r : Request, r.query = payload.query ∧
        Request.parse (bytesOf (payload.body ++ "\n")) = .ok r ∧
        Request.parse (bytesOf (payload.prettyBody ++ "\n")) = .ok r) ∧
      ∃ r rest, (Call.execute ⟨⟨0, ⟨"token", by decide⟩⟩, .failing, sampleTemplate,
          .template "/template", 5⟩ c .empty []).delivered = r :: rest ∧ r.method = .post ∧
        r.body = bytesOf sampleBody := by
  obtain ⟨payload, hpayload, hbody⟩ : ∃ payload,
      (Task.template "/template").payload sampleTemplate = .ok payload ∧
        payload.body = sampleBody := by
    have hread : (((Task.template "/template").payload sampleTemplate).toOption.map Request.body) =
        some sampleBody := by decide +kernel
    obtain ⟨payload, hsome, hbody⟩ := Option.map_eq_some_iff.1 hread
    exact ⟨payload, eq_ok_of_toOption hsome, hbody⟩
  obtain ⟨c, made⟩ := Client.exists_ofSettings parseHost_localSettings
  have sends : Sends "searchTemplate" "/template" sampleTemplate (.template "/template") payload :=
    ⟨rfl, hpayload⟩
  obtain ⟨hwords, -, hshown⟩ := showPayload_eq_sent "searchTemplate" "/template" sampleTemplate
  obtain ⟨hcompact, -, hagain, hsent⟩ := hshown sends
  obtain ⟨-, hother, -⟩ := showPayload_eq_sent "searchOther" "/template" sampleTemplate
  rw [← hbody]
  refine ⟨hwords (by decide) false, ?_, payload, c, sends, parseHost_localSettings, made, hcompact,
    hagain, hsent rfl rfl (by decide +kernel) parseHost_localSettings made (fun _ => rfl) .empty []⟩
  rw [ne_eq, (hother false).1]
  rintro ⟨task, payload, unknown⟩
  cases unknown.selected

end Program

end QuerySwarm
