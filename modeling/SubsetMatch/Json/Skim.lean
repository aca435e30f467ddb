import SubsetMatch.Json.Read

/-!
# Skimming documents

A value that nobody asks for is passed over without being read. It must be written like a value, but
what it would stand for does not matter: a number may be too great, an escape may be half a pair of
surrogates, and lists and objects may nest as deep as they like. What is passed over is kept as it
is written, so that the parts that are asked for can still be read.
-/

namespace SubsetMatch.Json

open Decimal

/-- What a skimmer returns: the text behind what it passed over, if that is well formed. -/
abbrev Skimmer := List Char → Option (List Char)

/-! ## Strings and numbers -/

/-- The escapes of a single letter. -/
def isEscapeLetter (c : Char) : Bool :=
  ['"', '\\', '/', 'b', 'f', 'n', 'r', 't'].contains c

/-- The text behind the closing quote. -/
def skimString : Skimmer
  | [] => none
  | '"' :: rest => some rest
  | '\\' :: 'u' :: a :: b :: c :: d :: rest =>
    if (hexValues? [a, b, c, d]).isSome then skimString rest else none
  | '\\' :: c :: rest => if isEscapeLetter c then skimString rest else none
  | c :: rest => if c.val < 32 then none else skimString rest

/-- The text behind some digits, at least one. -/
def skimDigits : Skimmer
  | [] => none
  | c :: rest => if c.isDigit then some (rest.dropWhile Char.isDigit) else none

/-- The text behind an exponent, if there is one. -/
def skimExponent : Skimmer
  | [] => some []
  | c :: rest => if isExponentMark c then skimDigits (splitSign rest).2 else some (c :: rest)

/-- The text behind a fraction and an exponent, if there are any. -/
def skimFraction : Skimmer
  | '.' :: rest => (skimDigits rest).bind skimExponent
  | cs => skimExponent cs

/-- The text behind a number without its sign. -/
def skimUnsigned : Skimmer
  | '0' :: rest => if rest.head?.any Char.isDigit then none else skimFraction rest
  | cs => (skimDigits cs).bind skimFraction

/-- The text behind a number. -/
def skimNumber : Skimmer
  | '-' :: rest => skimUnsigned rest
  | cs => skimUnsigned cs

/-! ## Values -/

/-- What is passed over, as it is written, and the text behind it. -/
def taken (one : Skimmer) (cs : List Char) : Option (List Char × List Char) :=
  (one cs).map fun rest => (cs.take (cs.length - rest.length), rest)

/-- A member as it is written: its key without the opening quote, and its value. -/
def skimMember (one : Skimmer) (cs : List Char) :
    Option ((List Char × List Char) × List Char) :=
  match skip cs with
  | '"' :: body =>
    match taken skimString body with
    | none => none
    | some (key, rest) =>
      match skip rest with
      | ':' :: rest => (taken one rest).map fun (value, rest) => ((key, value), rest)
      | _ => none
  | _ => none

/-- Entries up to a closing sign, at least one, with commas between them. -/
def skimEntries {α : Type} (close : Char) (one : List Char → Option (α × List Char)) :
    Nat → List Char → Option (List α × List Char)
  | 0, _ => none
  | fuel + 1, cs =>
    match one cs with
    | none => none
    | some (entry, rest) =>
      match skip rest with
      | [] => none
      | c :: rest =>
        if c == close then some ([entry], rest)
        else if c == ',' then
          (skimEntries close one fuel rest).map fun (entries, rest) => (entry :: entries, rest)
        else none

/-- The entries behind an opening sign. -/
def skimAll {α : Type} (close : Char) (one : List Char → Option (α × List Char)) (cs : List Char) :
    Option (List α × List Char) :=
  match skip cs with
  | [] => none
  | c :: rest => if c == close then some ([], rest) else skimEntries close one cs.length (c :: rest)

/-- The text behind a value whose elements are passed over by `inner`. -/
def skimWith (inner : Skimmer) (cs : List Char) : Option (List Char) :=
  match skip cs with
  | [] => none
  | c :: rest =>
    match c with
    | 'n' => "ull".toList.isPrefixOf? rest
    | 't' => "rue".toList.isPrefixOf? rest
    | 'f' => "alse".toList.isPrefixOf? rest
    | '"' => skimString rest
    | '[' => (skimAll ']' (taken inner) rest).map Prod.snd
    | '{' => (skimAll '}' (skimMember inner) rest).map Prod.snd
    | _ => skimNumber (c :: rest)

/-- The text behind a value of so many levels. -/
def skimLevels : Nat → Skimmer
  | 0 => fun _ => none
  | levels + 1 => skimWith (skimLevels levels)

/-- The text behind a value. It has no more levels than characters. -/
def skim (cs : List Char) : Option (List Char) :=
  skimLevels cs.length cs

end SubsetMatch.Json
