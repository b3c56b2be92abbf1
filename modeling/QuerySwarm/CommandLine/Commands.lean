import QuerySwarm.CommandLine.Options
import QuerySwarm.CommandLine.Reader

/-!
# The commands

The commands of the program and their options, and reading a whole command line: which command it
names, what is given to that command, or which text it asks for.

Main statements: no two options of a run have one name (`RunOptions.long_nodup`), and a line that
starts with `run` is read as the options after it (`Command.read_run`).
-/

namespace QuerySwarm

open CommandLine

def programName : String := "search-load-test"

def programVersion : String := "0.1.0"

/-! ### Options of a run -/

namespace RunOptions

/-- The option for the host, which falls back on a variable. -/
def hostForm : OptionForm RunOptions :=
  { OptionForm.value "host" "Base URL of the search API (the GraphQL path is appended)" anyText
      (fun host o => { o with host := host }) with
    preset? := some defaultHost
    fallback? := some hostVariable }

def profileForm : OptionForm RunOptions :=
  (OptionForm.value "profile"
    "Load profile supplying default users, spawn rate and think-time: smoke, standard, stress"
    anyText (fun profile o => { o with profile := profile })).withPreset default.profile

def usersForm : OptionForm RunOptions :=
  (OptionForm.value "users" "Number of simulated users (overrides the profile)" whole
    (fun users o => { o with users := some users })).withShort 'u'

/-- The option for the users started each second. -/
def spawnRateForm : OptionForm RunOptions :=
  .value "spawn-rate" "Users started per second (overrides the profile)" number
    (fun rate o => { o with spawnRate := some rate })

def minWaitForm : OptionForm RunOptions :=
  .value "min-wait" "Minimum think-time between tasks, in seconds (overrides the profile)" number
    (fun wait o => { o with minWait := some wait })

def maxWaitForm : OptionForm RunOptions :=
  .value "max-wait" "Maximum think-time between tasks, in seconds (overrides the profile)" number
    (fun wait o => { o with maxWait := some wait })

def durationForm : OptionForm RunOptions :=
  (OptionForm.value "duration" "Test duration in seconds" whole
    (fun seconds o => { o with duration := seconds })).withPreset (natText default.duration)

def scenarioForm : OptionForm RunOptions :=
  { OptionForm.value "scenario" "Which task set the users pick from" scenarioWord
      (fun scenario o => { o with scenario := scenario }) with
    preset? := some default.scenario.word
    choices :=
      [(Scenario.catalog.word, "Every built-in search task, fixed payloads"),
       (Scenario.template.word, "Only the payload read from the template file"),
       (Scenario.mixed.word, "Built-in tasks plus the template task")] }

/-- The option that restricts the tasks; giving it again adds to it. -/
def onlyForm : OptionForm RunOptions where
  long := "only"
  short? := none
  about := "Restrict the task set to these operation names (comma-separated)"
  intake := .value true (fun text o => .ok { o with only := o.only ++ names text })
  preset? := none
  fallback? := none
  choices := []

def templateFileForm : OptionForm RunOptions :=
  (OptionForm.value "template-file"
    "JSON file with `query` and `variables`, used by the template task" pathText
    (fun path o => { o with templateFile := path })).withPreset default.templateFile

/-- The option for the variable that holds the token. -/
def tokenVariableForm : OptionForm RunOptions :=
  (OptionForm.value "token-env" "Environment variable holding the bearer token" anyText
    (fun name o => { o with tokenVariable := name })).withPreset default.tokenVariable

/-- The option for the file that holds the token. -/
def tokenFileForm : OptionForm RunOptions :=
  .value "token-file" "Read the bearer token from this file instead of the environment" pathText
    (fun path o => { o with tokenFile := some path })

def tagOperationsForm : OptionForm RunOptions :=
  .flag "tag-operations" "Append `?op=<operationName>` to each request URL"
    (fun o => { o with tagOperations := true })

def debugResponsesForm : OptionForm RunOptions :=
  .flag "debug-responses" "Log the raw response body of every request"
    (fun o => { o with debugResponses := true })

def validateResponsesForm : OptionForm RunOptions :=
  .flag "validate-responses" "Count 2xx responses with GraphQL errors (or no data) as failures"
    (fun o => { o with validateResponses := true })

/-- The option for the time that a request may take. -/
def requestTimeoutForm : OptionForm RunOptions :=
  (OptionForm.value "request-timeout" "Per-request timeout in seconds" whole
    (fun seconds o => { o with requestTimeout := seconds })).withPreset
      (natText default.requestTimeout)

/-- The option for the time between two reports. -/
def reportIntervalForm : OptionForm RunOptions :=
  (OptionForm.value "report-interval"
    "Metrics reporting interval in seconds (0 disables live reporting)" whole
    (fun seconds o => { o with reportInterval := seconds })).withPreset
      (natText default.reportInterval)

/-- The option for the file that the report goes to. -/
def reportPathForm : OptionForm RunOptions :=
  .value "report-json" "Write a JSON summary to this path when the run ends" pathText
    (fun path o => { o with reportPath := some path })

def verboseForm : OptionForm RunOptions :=
  (OptionForm.flag "verbose" "Enable verbose logging" (fun o => { o with verbose := true })).withShort
    'v'

def form : CommandForm RunOptions where
  name := programName ++ " run"
  about := "Run simulated users against the search API (runs until --duration or Ctrl+C)"
  operand? := none
  options :=
    [hostForm, profileForm, usersForm, spawnRateForm, minWaitForm, maxWaitForm, durationForm,
      scenarioForm, onlyForm, templateFileForm, tokenVariableForm, tokenFileForm, tagOperationsForm,
      debugResponsesForm, validateResponsesForm, requestTimeoutForm, reportIntervalForm,
      reportPathForm, verboseForm]

def read (env : Environment) (words : List String) : Except Refusal RunOptions :=
  Reading.read form env default words

theorem long_nodup : (form.options.map OptionForm.long).Nodup := by decide

end RunOptions

/-! ### Options of showing a payload -/

namespace PayloadOptions

def form : CommandForm PayloadOptions where
  name := programName ++ " payload"
  about := "Print the JSON body a task would send"
  operand? := some
    ⟨"OPERATION", "Operation name, e.g. searchByFilter (see `tasks`)",
      fun word o => { o with operation := word }⟩
  options :=
    [(OptionForm.value "template-file" "Template file, used when the operation is searchTemplate"
        pathText (fun path o => { o with templateFile := path })).withPreset default.templateFile,
      .flag "pretty" "Pretty-print the JSON" (fun o => { o with pretty := true })]

def read (env : Environment) (words : List String) : Except Refusal PayloadOptions :=
  Reading.read form env default words

end PayloadOptions

/-! ### The command line -/

namespace Command

/-- The command that lists the tasks; it takes nothing. -/
def tasksForm : CommandForm Unit := ⟨programName ++ " tasks", "List the built-in search tasks", none, []⟩

/-- What the command that shows help tells about itself. -/
def helpAbout : String := "Print this message or the help of the given subcommand(s)"

/-- The commands and what they tell about themselves. -/
def listed : List (String × String) :=
  [("run", RunOptions.form.about), ("tasks", tasksForm.about), ("payload", PayloadOptions.form.about),
    ("help", helpAbout)]

def names : List String := listed.map Prod.fst

/-- How the program is used, with these options. -/
def usageWith (labels : List String) : String :=
  "Usage: " ++ programName ++ String.join (labels.map fun l => " " ++ l) ++ " <COMMAND>"

def help : String :=
  textOfLines (["Load testing tool for the search GraphQL API", "", usageWith [], "", "Commands:"] ++
    (listed.map fun c => "  " ++ padded 7 c.1 ++ "  " ++ c.2) ++
    ["", "Options:", "  -h, --help     Print help", "  -V, --version  Print version"])

def versionText : String := programName ++ " " ++ programVersion ++ "\n"

/-- The help text of the command that shows help. -/
def helpOfHelp : String :=
  textOfLines [helpAbout, "", "Usage: " ++ programName ++ " help [COMMAND]...", "", "Arguments:",
    "  [COMMAND]...  Print help for the subcommand(s)"]

/-- The refusal of a word that names no command. -/
def refuseCommand (word usage : String) (candidates : List String) : Refusal :=
  ⟨.unknownCommand word, similarHint "subcommand" (Similarity.similar word candidates), some usage⟩

def showHelp (env : Environment) : List String → Refusal
  | [] => .ofCause (.help help)
  | "run" :: rest => ofForm RunOptions.form rest
  | "tasks" :: rest => ofForm tasksForm rest
  | "payload" :: rest => ofForm PayloadOptions.form rest
  | "help" :: [] => .ofCause (.help helpOfHelp)
  | "help" :: word :: _ =>
    ⟨.unknownCommand word, [], some ("Usage: " ++ programName ++ " help [COMMAND]...")⟩
  | word :: _ => ⟨.unknownCommand word, [], some (usageWith [])⟩
where
  /-- The help of a command; it has no commands of its own. -/
  ofForm {σ : Type} (f : CommandForm σ) : List String → Refusal
    | [] => .ofCause (.help (f.help env true))
    | word :: _ => ⟨.unknownCommand word, [], some f.usage⟩

/-- The long names of the options of each command. -/
def optionNames : List (String × List String) :=
  [("run", RunOptions.form.options.map OptionForm.long ++ ["help"]), ("tasks", ["help"]),
    ("payload", PayloadOptions.form.options.map OptionForm.long ++ ["help"])]

/-- The option of a command named later that is like an unknown one; the command named first
wins. -/
def laterOption? (name : String) (rest : List String) : Option String :=
  rest.findSome? fun word =>
    (optionNames.lookup word).bind fun options =>
      (Similarity.closest? name options).map fun close => "'" ++ word ++ " --" ++ close ++ "' exists"

/-- The refusal of an option before the command. -/
def refuseLong (name : String) (rest : List String) : Refusal :=
  match Similarity.closest? name ["help", "version"] with
  | some close =>
    ⟨.unknownArgument ("--" ++ name), similarHint "argument" ["--" ++ close],
      some (usageWith ["--" ++ close])⟩
  | none => ⟨.unknownArgument ("--" ++ name), (laterOption? name rest).toList, some (usageWith [])⟩

/-- The refusal of a value for an option before the command. -/
def refuseUnneeded (label value : String) : Refusal :=
  ⟨.unneededValue value label, [], some (usageWith [label])⟩

/-- Answer a word that starts with two dashes. -/
def answerLong (word : List Char) (rest : List String) : Refusal :=
  let name := String.ofList (Reading.splitValue word).1
  match (Reading.splitValue word).2.map String.ofList with
  | none =>
    if name = "help" then .ofCause (.help help)
    else if name = "version" then .ofCause (.version versionText)
    else refuseLong name rest
  | some value =>
    if name = "help" ∨ name = "version" then refuseUnneeded ("--" ++ name) value
    else refuseLong name rest

/-- Answer a cluster of short names, which is not empty. -/
def answerShort (c : Char) : Refusal :=
  if c = 'h' then .ofCause (.help help)
  else if c = 'V' then .ofCause (.version versionText)
  else ⟨.unknownArgument ("-" ++ String.ofList [c]), [], some (usageWith [])⟩

/-- Answer the first word after `--`: no command is looked for there. -/
def answerTrailing (word : String) : Refusal :=
  if names.contains word then
    ⟨.unknownArgument word,
      ["subcommand '" ++ word ++ "' exists; to use it, remove the '--' before it"],
      some (usageWith [])⟩
  else refuseCommand word (usageWith []) names

def read (env : Environment) : List String → Except Refusal Command
  | [] => .error (.ofCause (.missingCommand help))
  | "run" :: words => (RunOptions.read env words).map .run
  | "tasks" :: words => (Reading.read tasksForm env () words).map fun _ => .tasks
  | "payload" :: words => (PayloadOptions.read env words).map .payload
  | "help" :: words => .error (showHelp env words)
  | word :: words =>
    match word.toList with
    | ['-', '-'] =>
      match words with
      | [] => .error (.ofCause (.missingCommand help))
      | next :: _ => .error (answerTrailing next)
    | '-' :: '-' :: rest => .error (answerLong rest words)
    | '-' :: c :: _ => .error (answerShort c)
    | _ => .error (refuseCommand word (usageWith []) names)

theorem read_run (env : Environment) (words : List String) :
    read env ("run" :: words) = (RunOptions.read env words).map .run := rfl

end Command

end QuerySwarm
