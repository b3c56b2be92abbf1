import QuerySwarm.CommandLine.Value

/-!
# The form of a command line

A command has options and at most one operand. Each of them says what it is called, what is told
about it, and how what is given for it goes into the record that the command fills in.
-/

namespace QuerySwarm.CommandLine

/-- What an option takes, and where it goes in a record. -/
inductive Intake (σ : Type) where
  | flag (store : σ → σ)
  | value (repeatable : Bool) (store : String → σ → Except ValueFault σ)

/-- An option of a command. -/
structure OptionForm (σ : Type) where
  long : String
  short? : Option Char
  about : String
  intake : Intake σ
  preset? : Option String
  fallback? : Option String
  choices : List (String × String)

/-- The argument that a command needs besides its options. -/
structure Operand (σ : Type) where
  name : String
  about : String
  store : String → σ → σ

/-- A command: how it is called, what it does and what it takes. -/
structure CommandForm (σ : Type) where
  name : String
  about : String
  operand? : Option (Operand σ)
  options : List (OptionForm σ)

namespace OptionForm

variable {σ : Type}

def flag (long about : String) (store : σ → σ) : OptionForm σ :=
  ⟨long, none, about, .flag store, none, none, []⟩

/-- An option that takes a value and is given at most once. -/
def value {α : Type} (long about : String) (read : String → Except ValueFault α)
    (store : α → σ → σ) : OptionForm σ :=
  ⟨long, none, about, .value false (fun text s => (read text).map fun a => store a s), none, none, []⟩

def withShort (o : OptionForm σ) (short : Char) : OptionForm σ := { o with short? := some short }

/-- The option with the value that it has where it is not given. -/
def withPreset (o : OptionForm σ) (preset : String) : OptionForm σ := { o with preset? := some preset }

def takesValue (o : OptionForm σ) : Bool :=
  match o.intake with
  | .flag _ => false
  | .value .. => true

/-- The name of an option's value: the name of the option in capitals. -/
def valueName (o : OptionForm σ) : String :=
  String.ofList (o.long.toList.map fun c => if c = '-' then '_' else c.toUpper)

/-- An option as it is written: its name, and its value if it takes one. -/
def label (o : OptionForm σ) : String :=
  "--" ++ o.long ++ (if o.takesValue then " <" ++ o.valueName ++ ">" else "")

end OptionForm

namespace CommandForm

variable {σ : Type}

def long? (f : CommandForm σ) (name : String) : Option (OptionForm σ) :=
  f.options.find? fun o => o.long = name

def short? (f : CommandForm σ) (name : Char) : Option (OptionForm σ) :=
  f.options.find? fun o => o.short? = some name

def operandLabel (f : CommandForm σ) : String :=
  match f.operand? with
  | some operand => " <" ++ operand.name ++ ">"
  | none => ""

/-- The line that says how a command is used. -/
def usage (f : CommandForm σ) : String :=
  "Usage: " ++ f.name ++ (if f.options.isEmpty then "" else " [OPTIONS]") ++ f.operandLabel

/-- The line that says how a command is used with these options. -/
def usageWith (f : CommandForm σ) (labels : List String) : String :=
  if labels.isEmpty then f.usage
  else "Usage: " ++ f.name ++ String.join (labels.map fun l => " " ++ l) ++ f.operandLabel

/-- The line that names what a command needs, with these options. -/
def usageRequired (f : CommandForm σ) (labels : List String) : String :=
  "Usage: " ++ f.name ++ String.join (labels.map fun l => " " ++ l) ++ f.operandLabel

end CommandForm

end QuerySwarm.CommandLine
