import SubsetMatch.Decimal.Numeral
import SubsetMatch.Json.Render
import SubsetMatch.Matcher.Error
import SubsetMatch.Text.Blank

/-!
# Bounds of numbers (§10.6)

A number, or a string that spells one, lies strictly above or below a bound. Integers are compared
exactly; as soon as one side is no integer, both are compared as doubles. This is `NumericBound`
with its two directions. The program's `parse` and `from_value` are `ofText?` and `ofValue?`.

Results:
* `ofNumber_integer`: an integer of a document is never taken for a double.
* `less_irrefl`: no operand is less than itself.
-/

namespace SubsetMatch

open Decimal

/-- A number taken from a document or from an argument. -/
inductive Operand
  | integer (n : Int)
  | real (x : Binary64)
deriving DecidableEq, Repr

namespace Operand

/-- The number that a text spells, blanks around it aside: an integer of 128 bits or any finite
number. -/
def ofText? (cs : List Char) : Option Operand :=
  let cs := Text.trim cs
  match readInt128? cs with
  | some n => some (.integer n)
  | none => (readBinary64? cs).map .real

/-- A number as an operand: an integer if it fits a word of 64 bits, signed or unsigned, else a
double. -/
def ofNumber (n : Number) : Operand :=
  match n.toSigned? with
  | some i => .integer i
  | none =>
    match n.toUnsigned? with
    | some i => .integer i
    | none => .real n.toBinary64

/-- The number of a document. -/
def ofValue? : Value → Option Operand
  | .number n => some (ofNumber n)
  | .string s => ofText? s.toList
  | _ => none

/-- The double nearest to an operand. -/
def toBinary64 : Operand → Binary64
  | integer n => .ofInt n
  | real x => x

/-- The order of two operands. -/
def less : Operand → Operand → Bool
  | integer a, integer b => a < b
  | a, b => a.toBinary64.less b.toBinary64

/-- An integer stays one, whatever word it fits. -/
@[simp] theorem ofNumber_integer (n : Int) : ofNumber (.integer n) = .integer n := by
  unfold ofNumber
  split
  · rename_i i h
    rw [(Number.toSigned?_eq_some_iff.mp h).2]
  · rename_i hsigned
    rcases Number.fits_word n with h | ⟨i, rfl, h⟩
    · rw [h] at hsigned
      cases hsigned
    · rw [h]

theorem less_irrefl (a : Operand) : a.less a = false := by
  cases a <;> simp [less]

end Operand

namespace Direction

/-- Whether a number lies on the wanted side of a bound. -/
def holds (direction : Direction) (value bound : Operand) : Bool :=
  match direction with
  | greater => bound.less value
  | less => value.less bound

/-- A value against a bound that an argument spelt. -/
def check (direction : Direction) (raw : String) (bound : Operand) (actual : Value) : Verdict :=
  match Operand.ofValue? actual with
  | none => .error (.notNumeric actual.plain)
  | some value =>
    if direction.holds value bound then .ok ()
    else .error (.outOfBound direction actual.plain raw)

/-- The assertion that a number lies strictly on one side of a bound. -/
def evaluate (direction : Direction) (matcher : String) (args : List String) (actual : Value) :
    Verdict :=
  match oneArgument matcher args with
  | .error e => .error e
  | .ok arg =>
    let raw := Text.trimmed arg
    match Operand.ofText? raw.toList with
    | none => .error (.boundArgument matcher raw)
    | some bound => direction.check raw bound actual

end Direction

end SubsetMatch
