import SubsetMatch.CommandLine.Check
import SubsetMatch.Standard
import Std.Time.DateTime.Timestamp

/-!
# The command line

The texts that a command line names are read, the check is made on them, and its outcome is
printed.
-/

namespace SubsetMatch.CommandLine

/-- Bytes as text. -/
def decodeBytes (bytes : ByteArray) : Except ReadError String :=
  match String.fromUTF8? bytes with
  | some text => .ok text
  | none => .error .encoding

/-- What can be read from a file. -/
def readFile (name : String) : IO (Except ReadError String) := do
  try
    return decodeBytes (← IO.FS.readBinFile name)
  catch
    | .noFileOrDirectory .. => return .error .missing
    | .inappropriateType _ 20 _ => return .error .notDirectory
    | .inappropriateType _ 21 _ => return .error .isDirectory
    | e => return .error (.other (toString e))

/-- What can be read from the standard input, if an operand stands for it. -/
def readInput (operands : List String) : IO (Except ReadError String) := do
  if operands.contains inputOperand then
    return decodeBytes (← (← IO.getStdin).readBinToEnd)
  else return .ok ""

/-- The surroundings of a check, as far as it looks at them. -/
def surroundings (o : Options) : IO Surroundings := do
  let operands := [o.needle, o.haystack]
  let input ← readInput operands
  let names := o.config.toList ++ operands.filter (· != inputOperand)
  let texts ← names.mapM fun name => return (name, ← readFile name)
  return ⟨fun name => (texts.lookup name).getD (.error .missing), input⟩

/-- Surroundings without any text. -/
def bareSurroundings : Surroundings :=
  ⟨fun _ => .error .missing, .ok ""⟩

/-- The time in seconds since 1970. -/
def currentSeconds : IO Nat :=
  return (← Std.Time.Timestamp.now).toSecondsSinceUnixEpoch.val.toNat

/-- A command line carried out; the result is its status. -/
def execute (args : List String) : IO UInt32 := do
  let config ← IO.getEnv "NEEDLE_CONFIG"
  let s ← match read config args with
    | .ok o => surroundings o
    | .error _ => pure bareSurroundings
  let outcome := run (.standard (← currentSeconds)) s config args
  IO.print outcome.output
  IO.eprint outcome.errors
  return outcome.status.toUInt32

end SubsetMatch.CommandLine

def main (args : List String) : IO UInt32 :=
  SubsetMatch.CommandLine.execute args
