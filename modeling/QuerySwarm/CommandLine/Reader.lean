import QuerySwarm.CommandLine.Error
import QuerySwarm.CommandLine.Help

/-!
# Reading the words of a command

The words of a command are taken one by one. A word may be an option with its value attached, an
option whose value is the next word, a cluster of short names, or the operand; after a word `--` only
operands follow. An option that waits for its value is settled when the next argument is understood,
so that a word which is not understood at all is what is reported first.

Main statement: a word with a long name and an attached value is stored at once
(`Reading.stepLong_attached`).
-/

namespace QuerySwarm.CommandLine

variable {σ : Type}

/-- What has been read so far. -/
structure Reading (σ : Type) where
  record : σ
  given : List String
  waiting : Option (OptionForm σ × Option String)
  hasOperand : Bool
  trailing : Bool

namespace Reading

def start (record : σ) : Reading σ := ⟨record, [], none, false, false⟩

def refuseValue (o : OptionForm σ) (value : String) : ValueFault → Refusal
  | .missing => .ofCause (.missingValue o.label (o.choices.map Prod.fst))
  | .unlisted =>
    ⟨.unlistedValue value o.label (o.choices.map Prod.fst),
      similarHint "value" (Similarity.closest? value (o.choices.map Prod.fst)).toList, none⟩
  | .malformed reason => .ofCause (.malformedValue value o.label reason)

/-- The refusal of an option that was given before. -/
def refuseRepeated (f : CommandForm σ) (o : OptionForm σ) : Refusal :=
  ⟨.repeated o.label, [], some f.usage⟩

def storeValue (f : CommandForm σ) (r : Reading σ) (o : OptionForm σ) (value : String) :
    Except Refusal (Reading σ) :=
  match o.intake with
  | .flag store => .ok { r with record := store r.record, given := r.given ++ [o.long] }
  | .value repeatable store =>
    if !repeatable && r.given.contains o.long then .error (refuseRepeated f o)
    else
      match store value r.record with
      | .error fault => .error (refuseValue o value fault)
      | .ok record => .ok { r with record := record, given := r.given ++ [o.long] }

/-- Take the option that waits, if there is one; it must have got its value. -/
def settle (f : CommandForm σ) (r : Reading σ) : Except Refusal (Reading σ) :=
  match r.waiting with
  | none => .ok r
  | some (o, none) => .error (.ofCause (.missingValue o.label (o.choices.map Prod.fst)))
  | some (o, some value) => storeValue f { r with waiting := none } o value

def storeFlag (f : CommandForm σ) (r : Reading σ) (o : OptionForm σ) (store : σ → σ) :
    Except Refusal (Reading σ) :=
  match settle f r with
  | .error e => .error e
  | .ok r =>
    if r.given.contains o.long then .error (refuseRepeated f o)
    else .ok { r with record := store r.record, given := r.given ++ [o.long] }

def showHelp (f : CommandForm σ) (env : Environment) (full : Bool) (r : Reading σ) :
    Except Refusal (Reading σ) :=
  match settle f r with
  | .error e => .error e
  | .ok _ => .error (.ofCause (.help (f.help env full)))

def storeAttached (f : CommandForm σ) (r : Reading σ) (o : OptionForm σ) (value : String) :
    Except Refusal (Reading σ) :=
  match settle f r with
  | .error e => .error e
  | .ok r => storeValue f r o value

def await (f : CommandForm σ) (r : Reading σ) (o : OptionForm σ) : Except Refusal (Reading σ) :=
  match settle f r with
  | .error e => .error e
  | .ok r => .ok { r with waiting := some (o, none) }

/-- The labels of the options that were given, in the order they were first given in. -/
def givenLabels (f : CommandForm σ) (r : Reading σ) : List String :=
  (r.given.eraseDups.filterMap f.long?).map OptionForm.label

/-- Labels with one more at the end, unless it is among them. -/
def withLabel (labels : List String) (label : String) : List String :=
  if labels.contains label then labels else labels ++ [label]

/-- The hint that a word can be given as an operand. -/
def operandHint (f : CommandForm σ) (r : Reading σ) (word : String) : List String :=
  if f.operand?.isSome && !r.trailing && word.toList.head? == some '-' && word != "-" then
    ["to pass '" ++ word ++ "' as a value, use '-- " ++ word ++ "'"]
  else []

/-- The refusal of a word that is not understood. -/
def refuseWord (f : CommandForm σ) (r : Reading σ) (word : String) : Refusal :=
  ⟨.unknownArgument word, operandHint f r word, some f.usage⟩

/-- The refusal of a long name that no option has. -/
def refuseLong (f : CommandForm σ) (r : Reading σ) (name : String) : Refusal :=
  let names := f.options.map OptionForm.long ++ ["help"]
  match Similarity.closest? name names with
  | some close =>
    let label := match f.long? close with
      | some o => o.label
      | none => "--" ++ close
    ⟨.unknownArgument ("--" ++ name), similarHint "argument" ["--" ++ close],
      some (f.usageWith (withLabel (givenLabels f r) label))⟩
  | none =>
    ⟨.unknownArgument ("--" ++ name), operandHint f r ("--" ++ name),
      some (f.usageWith (givenLabels f r))⟩

/-- The refusal of a value for an option that takes none. -/
def refuseUnneeded (f : CommandForm σ) (r : Reading σ) (label value : String) : Refusal :=
  ⟨.unneededValue value label, [],
    some (f.usageWith (withLabel (givenLabels f r) label))⟩

def splitValue : List Char → List Char × Option (List Char)
  | [] => ([], none)
  | '=' :: rest => ([], some rest)
  | c :: rest => (c :: (splitValue rest).1, (splitValue rest).2)

def stepLong (f : CommandForm σ) (env : Environment) (r : Reading σ) (word : List Char) :
    Except Refusal (Reading σ) :=
  let name := String.ofList (splitValue word).1
  let attached := (splitValue word).2.map String.ofList
  match f.long? name, attached with
  | some o, some value =>
    match o.intake with
    | .flag _ => .error (refuseUnneeded f r o.label value)
    | .value .. => storeAttached f r o value
  | some o, none =>
    match o.intake with
    | .flag store => storeFlag f r o store
    | .value .. => await f r o
  | none, none => if name = "help" then showHelp f env true r else .error (refuseLong f r name)
  | none, some value =>
    if name = "help" then .error (refuseUnneeded f r "--help" value)
    else .error (refuseLong f r name)

/-- Take the short names of a word; what follows one that takes a value is its value. -/
def stepShort (f : CommandForm σ) (env : Environment) (r : Reading σ) :
    List Char → Except Refusal (Reading σ)
  | [] => .ok r
  | c :: rest =>
    match f.short? c with
    | none =>
      if c = 'h' then showHelp f env false r
      else .error (refuseWord f r ("-" ++ String.ofList [c]))
    | some o =>
      match o.intake with
      | .flag store =>
        match storeFlag f r o store with
        | .error e => .error e
        | .ok r => stepShort f env r rest
      | .value .. =>
        match rest with
        | [] => await f r o
        | '=' :: value => storeAttached f r o (String.ofList value)
        | value => storeAttached f r o (String.ofList value)

def stepPlain (f : CommandForm σ) (r : Reading σ) (word : String) : Except Refusal (Reading σ) :=
  match r.trailing, r.waiting with
  | false, some (o, none) => .ok { r with waiting := some (o, some word) }
  | _, _ =>
    match f.operand?, r.hasOperand with
    | some operand, false =>
      match settle f r with
      | .error e => .error e
      | .ok r => .ok { r with record := operand.store word r.record, hasOperand := true }
    | _, _ => .error (refuseWord f r word)

def step (f : CommandForm σ) (env : Environment) (r : Reading σ) (word : String) :
    Except Refusal (Reading σ) :=
  if r.trailing then stepPlain f r word
  else
    match word.toList with
    | ['-', '-'] => .ok { r with trailing := true }
    | '-' :: '-' :: rest => stepLong f env r rest
    | ['-'] => stepPlain f r word
    | '-' :: rest => stepShort f env r rest
    | _ => stepPlain f r word

def steps (f : CommandForm σ) (env : Environment) (r : Reading σ) :
    List String → Except Refusal (Reading σ)
  | [] => .ok r
  | word :: words =>
    match step f env r word with
    | .error e => .error e
    | .ok r => steps f env r words

/-- Take an option from its variable, if it was not given and the variable is there. -/
def fallBack (f : CommandForm σ) (env : Environment) (r : Reading σ) (o : OptionForm σ) :
    Except Refusal (Reading σ) :=
  match o.fallback?.bind env.value? with
  | none => .ok r
  | some bytes =>
    if r.given.contains o.long then .ok r
    else
      match textOf? bytes with
      | none => .error ⟨.notText, [], some f.usage⟩
      | some value => (storeValue f r o value).map fun stored => { stored with given := r.given }

/-- Take every option that falls back on a variable. -/
def fallBacks (f : CommandForm σ) (env : Environment) (r : Reading σ) :
    List (OptionForm σ) → Except Refusal (Reading σ)
  | [] => .ok r
  | o :: os =>
    match fallBack f env r o with
    | .error e => .error e
    | .ok r => fallBacks f env r os

/-- Finish: settle what waits, fall back on variables, and see that the operand is there. -/
def finish (f : CommandForm σ) (env : Environment) (r : Reading σ) : Except Refusal σ :=
  match settle f r with
  | .error e => .error e
  | .ok r =>
    match fallBacks f env r f.options with
    | .error e => .error e
    | .ok r =>
      match f.operand?, r.hasOperand with
      | some operand, false =>
        .error ⟨.missingOperand operand.name, [], some (f.usageRequired (givenLabels f r))⟩
      | _, _ => .ok r.record

/-- Read the words of a command into a record. -/
def read (f : CommandForm σ) (env : Environment) (record : σ) (words : List String) :
    Except Refusal σ :=
  match steps f env (start record) words with
  | .error e => .error e
  | .ok r => finish f env r

/-! ### One word after the other -/

section Steps

variable {f : CommandForm σ} {env : Environment} {r r' : Reading σ}

theorem steps_cons {word : String} (h : step f env r word = .ok r') (words : List String) :
    steps f env r (word :: words) = steps f env r' words := by
  rw [steps, h]

theorem read_of_steps {record : σ} {words : List String}
    (h : steps f env (start record) words = .ok r) : read f env record words = finish f env r := by
  rw [read, h]

/-- A value is stored that is well formed, if the option was not given before or may be given
again. -/
theorem storeValue_eq_ok {o : OptionForm σ} {value : String} {repeatable : Bool}
    {store : String → σ → Except ValueFault σ} {record : σ}
    (hintake : o.intake = .value repeatable store) (hnew : o.long ∈ r.given → repeatable = true)
    (hstore : store value r.record = .ok record) :
    storeValue f r o value = .ok { r with record := record, given := r.given ++ [o.long] } := by
  have hgiven : (!repeatable && r.given.contains o.long) = false := by
    cases repeatable with
    | true => rfl
    | false =>
      rw [Bool.not_false, Bool.true_and, ← Bool.not_eq_true, List.contains_iff_mem]
      exact fun hmem => Bool.noConfusion (hnew hmem)
  unfold storeValue
  simp only [hintake, hgiven, hstore, Bool.false_eq_true, if_false]

end Steps

/-! ### Attached values -/

theorem splitValue_append {name value : List Char} (h : '=' ∉ name) :
    splitValue (name ++ '=' :: value) = (name, some value) := by
  induction name with
  | nil => rfl
  | cons c cs ih =>
    have hc : c ≠ '=' := fun hc => h (by simp [hc])
    have hcs : '=' ∉ cs := fun hm => h (by simp [hm])
    rw [List.cons_append, splitValue]
    · rw [ih hcs]
    · exact fun hm => hc hm

/-- A long name with an attached value is stored at once. -/
theorem stepLong_attached {f : CommandForm σ} {o : OptionForm σ} {r : Reading σ} {name : List Char}
    {repeatable : Bool} {store : String → σ → Except ValueFault σ} (env : Environment)
    (value : List Char) (hname : '=' ∉ name) (hfound : f.long? (String.ofList name) = some o)
    (hintake : o.intake = .value repeatable store) (hwaiting : r.waiting = none) :
    stepLong f env r (name ++ '=' :: value) = storeValue f r o (String.ofList value) := by
  simp [stepLong, splitValue_append hname, hfound, hintake, storeAttached, settle, hwaiting]

end Reading

end QuerySwarm.CommandLine
