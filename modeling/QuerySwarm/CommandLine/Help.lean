import QuerySwarm.CommandLine.Form
import QuerySwarm.Environment

/-!
# Help texts

What a command tells about itself. A summary puts each description beside its label, or below it if
the widest label takes more than 40 of 100 columns and some description would not fit beside it. The
full text, which exists where choices have descriptions, always puts them below, with an empty line
between two options.
-/

namespace QuerySwarm.CommandLine

/-- The width of a line that a summary is laid out for. -/
def lineWidth : Nat := 100

/-- A text with blanks after it, up to a width. -/
def padded (width : Nat) (text : String) : String :=
  text ++ String.ofList (List.replicate (width - text.length) ' ')

/-- The blanks before a description that stands below its label. -/
def belowIndent : String := "          "

/-- An entry of a help text: what stands before a label, the label, the description, the choices
with their descriptions, and the remarks. -/
structure HelpEntry where
  short : String
  label : String
  about : String
  choices : List (String × String)
  remarks : List String

namespace HelpEntry

def choiceRemark (e : HelpEntry) : List String :=
  if e.choices.isEmpty then []
  else ["[possible values: " ++ ", ".intercalate (e.choices.map Prod.fst) ++ "]"]

def summary (e : HelpEntry) : String := " ".intercalate (e.about :: (e.remarks ++ e.choiceRemark))

def choiceLines (e : HelpEntry) : List String :=
  let width := (e.choices.map fun c => c.1.length).foldl max 0 + 1
  e.choices.map fun c => belowIndent ++ "- " ++ padded width (c.1 ++ ":") ++ " " ++ c.2

def lines (e : HelpEntry) : List String :=
  (belowIndent ++ e.about) ::
    ((if e.choices.isEmpty then []
      else "" :: (belowIndent ++ "Possible values:") :: e.choiceLines) ++
     (if e.remarks.isEmpty then []
      else belowIndent :: e.remarks.map fun remark => belowIndent ++ remark))

end HelpEntry

/-- The entry of the option that asks for help. -/
def helpEntry (about : String) : HelpEntry := ⟨"  -h, ", "--help", about, [], []⟩

/-- The remark on the variable that an option falls back on. -/
def variableRemark (env : Environment) (name : String) : String :=
  let value := match env.value? name with
    | some bytes => String.ofList (Utf8.decodeLossy bytes)
    | none => ""
  "[env: " ++ name ++ "=" ++ value ++ "]"

namespace OptionForm

variable {σ : Type}

def entry (o : OptionForm σ) (env : Environment) : HelpEntry where
  short := match o.short? with
    | some c => "  -" ++ String.ofList [c] ++ ", "
    | none => "      "
  label := o.label
  about := o.about
  choices := o.choices
  remarks :=
    (match o.fallback? with
      | some name => [variableRemark env name]
      | none => []) ++
    (match o.preset? with
      | some preset => ["[default: " ++ preset ++ "]"]
      | none => [])

end OptionForm

/-- Whether some description does not fit beside the widest label. -/
def needsBelow (entries : List HelpEntry) : Bool :=
  let taken := (entries.map fun e => e.label.length).foldl max 0 + 8
  decide (taken ≤ lineWidth) && decide (4 * lineWidth < 10 * taken) &&
    entries.any fun e => decide (lineWidth - taken < e.summary.length)

def summaryLines (entries : List HelpEntry) : List String :=
  if needsBelow entries then
    entries.flatMap fun e => [e.short ++ e.label, belowIndent ++ e.summary]
  else
    let width := (entries.map fun e => e.label.length).foldl max 0
    entries.map fun e => e.short ++ padded width e.label ++ "  " ++ e.summary

def fullLines : List HelpEntry → List String
  | [] => []
  | [e] => (e.short ++ e.label) :: e.lines
  | e :: es => ((e.short ++ e.label) :: e.lines) ++ "" :: fullLines es

def textOfLines (lines : List String) : String := String.join (lines.map fun l => l ++ "\n")

namespace CommandForm

variable {σ : Type}

/-- Whether there is more to tell than a summary does. -/
def hasMore (f : CommandForm σ) : Bool := f.options.any fun o => !o.choices.isEmpty

def operandLines (f : CommandForm σ) : List String :=
  match f.operand? with
  | some operand => ["Arguments:", "  <" ++ operand.name ++ ">  " ++ operand.about, ""]
  | none => []

/-- The help text of a command, in full or as a summary. -/
def help (f : CommandForm σ) (env : Environment) (full : Bool) : String :=
  let entries := f.options.map fun o => o.entry env
  let last := helpEntry (if !f.hasMore then "Print help"
    else if full then "Print help (see a summary with '-h')"
    else "Print help (see more with '--help')")
  let listed := entries ++ [last]
  textOfLines ([f.about, "", f.usage, ""] ++ f.operandLines ++ ["Options:"] ++
    (if full && f.hasMore then fullLines listed else summaryLines listed))

end CommandForm

end QuerySwarm.CommandLine
