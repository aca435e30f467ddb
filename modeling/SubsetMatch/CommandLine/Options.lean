/-!
# Command-line options (§10.11)

What a command line asks for. A long option stands behind two dashes and a short one behind one
dash, which short switches may share. The value of a setting stands behind an equals sign, right
behind a short option, or in the next argument, where it may not look like an option. Nothing may
be given twice, and behind two bare dashes every argument is an operand. The result holds what the
program calls `Args`; its `verbose` is left out, as it has a say only in what is logged.

Results:
* `read_operands`: two arguments without dashes are the needle and the haystack.
-/

namespace SubsetMatch.CommandLine

/-- The form of the output. -/
inductive Format
  | text
  | json
deriving DecidableEq, Repr

/-- The form with a name. -/
def Format.ofName? : String → Option Format
  | "text" => some .text
  | "json" => some .json
  | _ => none

/-- A check that is asked for. -/
structure Options where
  needle : String
  haystack : String
  config : Option String
  format : Format
  showDiff : Bool
deriving DecidableEq, Repr

/-- An option without a value. -/
inductive Switch
  | diff
  | verbose
  | help
  | version
deriving DecidableEq, Repr

/-- An option with a value. -/
inductive Setting
  | config
  | output
deriving DecidableEq, Repr

/-- An option. -/
inductive Name
  | switch (s : Switch)
  | setting (s : Setting)
deriving DecidableEq, Repr

/-- The option with a long name. -/
def Name.ofLong? : String → Option Name
  | "diff" => some (.switch .diff)
  | "verbose" => some (.switch .verbose)
  | "help" => some (.switch .help)
  | "version" => some (.switch .version)
  | "config" => some (.setting .config)
  | "output" => some (.setting .output)
  | _ => none

/-- The option with a short name. -/
def Name.ofShort? : Char → Option Name
  | 'd' => some (.switch .diff)
  | 'v' => some (.switch .verbose)
  | 'h' => some (.switch .help)
  | 'V' => some (.switch .version)
  | 'c' => some (.setting .config)
  | 'o' => some (.setting .output)
  | _ => none

/-- Why no check is made. -/
inductive Stop
  | misuse
  | help
  | version
deriving DecidableEq, Repr

/-- What the arguments read so far ask for. -/
structure Draft where
  operands : List String
  config : Option String
  format : Option Format
  showDiff : Bool
  verbose : Bool
deriving DecidableEq, Repr

namespace Draft

/-- Before any argument. -/
def empty : Draft :=
  ⟨[], none, none, false, false⟩

/-- One more operand; there is room for two. -/
def addOperand (d : Draft) (operand : String) : Except Stop Draft :=
  if d.operands.length < 2 then .ok { d with operands := d.operands ++ [operand] }
  else .error .misuse

/-- A switch turned on. -/
def turnOn (d : Draft) : Switch → Except Stop Draft
  | .diff => if d.showDiff then .error .misuse else .ok { d with showDiff := true }
  | .verbose => if d.verbose then .error .misuse else .ok { d with verbose := true }
  | .help => .error .help
  | .version => .error .version

/-- A setting given its value. -/
def assign (d : Draft) (s : Setting) (value : String) : Except Stop Draft :=
  match s with
  | .config =>
    if d.config.isSome || value.isEmpty then .error .misuse
    else .ok { d with config := some value }
  | .output =>
    match d.format, Format.ofName? value with
    | none, some format => .ok { d with format := some format }
    | _, _ => .error .misuse

end Draft

/-- A draft, and the setting that waits for its value, if one does. -/
abbrev Step := Except Stop (Draft × Option Setting)

/-- A draft that waits for nothing. -/
def settled : Except Stop Draft → Step
  | .ok d => .ok (d, none)
  | .error e => .error e

/-- Short options that share a dash. -/
def readShort (d : Draft) : List Char → Step
  | [] => .ok (d, none)
  | c :: cs =>
    match Name.ofShort? c with
    | none => .error .misuse
    | some (.switch s) =>
      match d.turnOn s with
      | .error e => .error e
      | .ok d => readShort d cs
    | some (.setting s) =>
      match cs with
      | [] => .ok (d, some s)
      | '=' :: value => settled (d.assign s (String.ofList value))
      | value => settled (d.assign s (String.ofList value))

/-- A long option without its dashes. -/
def readLong (d : Draft) (cs : List Char) : Step :=
  let name := cs.takeWhile (· != '=')
  match Name.ofLong? (String.ofList name), cs.drop name.length with
  | some (.switch s), [] => settled (d.turnOn s)
  | some (.setting s), [] => .ok (d, some s)
  | some (.setting s), _ :: value => settled (d.assign s (String.ofList value))
  | _, _ => .error .misuse

/-- An argument that is no value. A dash on its own is an operand. -/
def readArgument (d : Draft) (arg : String) : Step :=
  match arg.toList with
  | '-' :: '-' :: name => readLong d name
  | '-' :: c :: cs => readShort d (c :: cs)
  | _ => settled (d.addOperand arg)

/-- Whether an argument looks like an option. -/
def isOption (arg : String) : Bool :=
  match arg.toList with
  | '-' :: _ :: _ => true
  | _ => false

/-- Operands behind two bare dashes. -/
def readOperands (d : Draft) : List String → Except Stop Draft
  | [] => .ok d
  | arg :: args =>
    match d.addOperand arg with
    | .error e => .error e
    | .ok d => readOperands d args

/-- Arguments in order; a setting may wait for its value. -/
def readArguments (waiting : Option Setting) (d : Draft) : List String → Except Stop Draft
  | [] => if waiting.isSome then .error .misuse else .ok d
  | arg :: args =>
    match waiting with
    | some s =>
      if isOption arg then .error .misuse
      else
        match d.assign s arg with
        | .error e => .error e
        | .ok d => readArguments none d args
    | none =>
      if arg == "--" then readOperands d args
      else
        match readArgument d arg with
        | .error e => .error e
        | .ok (d, waiting) => readArguments waiting d args

/-- A draft without gaps. The surroundings may name a configuration for when no argument does. -/
def Draft.finish (d : Draft) (config : Option String) : Except Stop Options :=
  match d.operands, d.config.or config with
  | [needle, haystack], config =>
    if config == some "" then .error .misuse
    else .ok ⟨needle, haystack, config, d.format.getD .text, d.showDiff⟩
  | _, _ => .error .misuse

/-- What a command line asks for. -/
def read (config : Option String) (args : List String) : Except Stop Options :=
  match readArguments none .empty args with
  | .error e => .error e
  | .ok d => d.finish config

theorem readArgument_operand {d : Draft} {arg : String} (h : arg.toList.head? ≠ some '-') :
    readArgument d arg = settled (d.addOperand arg) := by
  unfold readArgument
  split
  · simp_all
  · simp_all
  · rfl

/-- Two arguments without dashes are the needle and the haystack. -/
theorem read_operands {needle haystack : String} (hn : needle.toList.head? ≠ some '-')
    (hh : haystack.toList.head? ≠ some '-') :
    read none [needle, haystack] = .ok ⟨needle, haystack, none, .text, false⟩ := by
  have hn' : (needle == "--") = false := by
    refine beq_eq_false_iff_ne.2 fun h => hn ?_
    rw [h]
    rfl
  have hh' : (haystack == "--") = false := by
    refine beq_eq_false_iff_ne.2 fun h => hh ?_
    rw [h]
    rfl
  simp [read, readArguments, hn', hh', readArgument_operand hn, readArgument_operand hh,
    Draft.addOperand, Draft.empty, settled, Draft.finish]

end SubsetMatch.CommandLine
