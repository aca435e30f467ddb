import SubsetMatch.Decimal.Power
import SubsetMatch.Text.Utf8

/-!
# Base64 for tokens

The URL-safe alphabet without padding. Reading is strict: a foreign symbol, padding, an impossible
length and bits left over in the last symbol are all refused.

Results:
* `length_le_of_decode`: reading never yields more bytes than there were symbols.
-/

namespace SubsetMatch.Base64Url

open Decimal Text

/-- The symbol of six bits. -/
def symbol (n : Nat) : Char :=
  if n < 26 then Char.ofNat ('A'.toNat + n)
  else if n < 52 then Char.ofNat ('a'.toNat + (n - 26))
  else if n < 62 then Char.ofNat ('0'.toNat + (n - 52))
  else if n == 62 then '-'
  else '_'

/-- The six bits of a symbol. -/
def sextet? (c : Char) : Option Nat :=
  if 'A' ≤ c && c ≤ 'Z' then some (c.toNat - 'A'.toNat)
  else if 'a' ≤ c && c ≤ 'z' then some (c.toNat - 'a'.toNat + 26)
  else if '0' ≤ c && c ≤ '9' then some (c.toNat - '0'.toNat + 52)
  else if c == '-' then some 62
  else if c == '_' then some 63
  else none

/-- Bytes as symbols; one or two bytes at the end take two or three. -/
def encode : List UInt8 → List Char
  | a :: b :: c :: rest =>
    let n := (a.toNat * 256 + b.toNat) * 256 + c.toNat
    symbol (n / twoTo 18) :: symbol (n / twoTo 12 % 64) :: symbol (n / twoTo 6 % 64) :: symbol (n % 64) ::
      encode rest
  | [a, b] =>
    let n := (a.toNat * 256 + b.toNat) * 4
    [symbol (n / twoTo 12), symbol (n / twoTo 6 % 64), symbol (n % 64)]
  | [a] =>
    let n := a.toNat * 16
    [symbol (n / twoTo 6), symbol (n % 64)]
  | [] => []

/-- Why a text is not the writing of any bytes. -/
inductive Error
  | invalidSymbol (byte offset : Nat)
  | invalidLastSymbol (byte offset : Nat)
  | invalidLength (length : Nat)
  | invalidPadding
deriving DecidableEq, Repr

/-- The wording of an error. -/
def Error.message : Error → String
  | invalidSymbol byte offset => s!"Invalid symbol {byte}, offset {offset}."
  | invalidLastSymbol byte offset => s!"Invalid last symbol {byte}, offset {offset}."
  | invalidLength length => s!"Invalid input length: {length}"
  | invalidPadding => "Invalid padding"

/-- The first byte of a character. -/
def firstByte (c : Char) : Nat :=
  ((String.utf8EncodeChar c).head?.map UInt8.toNat).getD 0

/-- The last byte of a character. -/
def lastByte (c : Char) : Nat :=
  ((String.utf8EncodeChar c).getLast?.map UInt8.toNat).getD 0

/-- The sextets of symbols, the first of which stands at an offset. -/
def sextets (offset : Nat) : List Char → Except Error (List Nat)
  | [] => .ok []
  | c :: cs =>
    match sextet? c with
    | none => .error (.invalidSymbol (firstByte c) offset)
    | some n =>
      match sextets (offset + 1) cs with
      | .error e => .error e
      | .ok ns => .ok (n :: ns)

/-- The symbols of the last group and the offset of its first padding sign. -/
structure Tail where
  sextets : List Nat
  symbols : List Char
  padding : Option Nat

/-- The last group, which starts at an offset. Padding may stand from the third place on and
nothing may follow it. -/
def readTail (offset : Nat) (t : Tail) (place : Nat) : List Char → Except Error Tail
  | [] => .ok t
  | c :: cs =>
    if c == '=' then
      if place < 2 then .error (.invalidSymbol '='.toNat (offset + place))
      else readTail offset { t with padding := some (t.padding.getD (offset + place)) } (place + 1) cs
    else
      match t.padding with
      | some first => .error (.invalidSymbol '='.toNat first)
      | none =>
        match sextet? c with
        | none => .error (.invalidSymbol (firstByte c) (offset + place))
        | some n =>
          readTail offset { t with sextets := t.sextets ++ [n], symbols := t.symbols ++ [c] }
            (place + 1) cs

/-- Whether the last sextet of a short group has bits that belong to no byte. -/
def hasLeftover : List Nat → Bool
  | [_, b] => b % 16 != 0
  | [_, _, c] => c % 4 != 0
  | _ => false

/-- The checks on a whole last group that starts at an offset. -/
def checkTail (offset : Nat) (t : Tail) : Except Error (List Nat) :=
  if t.sextets.length < 2 then .error (.invalidLength (offset + t.sextets.length))
  else if t.padding.isSome then .error .invalidPadding
  else if hasLeftover t.sextets then
    .error (.invalidLastSymbol ((t.symbols.getLast?.map lastByte).getD 0)
      (offset + t.sextets.length - 1))
  else .ok t.sextets

/-- The bytes of sextets, four sextets for three bytes. -/
def toBytes : List Nat → List UInt8
  | a :: b :: c :: d :: rest =>
    let n := ((a * 64 + b) * 64 + c) * 64 + d
    UInt8.ofNat (n / twoTo 16) :: UInt8.ofNat (n / twoTo 8 % 256) :: UInt8.ofNat (n % 256) :: toBytes rest
  | [a, b, c] =>
    let n := ((a * 64 + b) * 64 + c) / 4
    [UInt8.ofNat (n / 256), UInt8.ofNat (n % 256)]
  | [a, b] => [UInt8.ofNat ((a * 64 + b) / 16)]
  | _ => []

/-- Whether a single symbol behind whole groups is foreign. -/
def foreignEnd? (cs : List Char) : Option Error :=
  match cs.getLast? with
  | some c =>
    if Utf8.width cs % 4 == 1 && c != '=' && (sextet? c).isNone then
      some (.invalidSymbol (lastByte c) (Utf8.width cs - 1))
    else none
  | none => none

/-- The offset of the last group, whole or not. -/
def tailOffset (width : Nat) : Nat :=
  if width % 4 == 0 then width - 4 else width - width % 4

/-- The bytes that a text writes. -/
def decode (cs : List Char) : Except Error (List UInt8) :=
  if cs.isEmpty then .ok []
  else
    match foreignEnd? cs with
    | some e => .error e
    | none =>
      let offset := tailOffset (Utf8.width cs)
      match sextets 0 (cs.take offset) with
      | .error e => .error e
      | .ok front =>
        match readTail offset ⟨[], [], none⟩ 0 (cs.drop offset) with
        | .error e => .error e
        | .ok t =>
          match checkTail offset t with
          | .error e => .error e
          | .ok back => .ok (toBytes (front ++ back))

theorem length_toBytes_le (ns : List Nat) : (toBytes ns).length ≤ ns.length := by
  fun_induction toBytes ns with
  | case1 a b c d rest n ih =>
    simp only [List.length_cons]
    omega
  | case2 => simp
  | case3 => simp
  | case4 => simp

theorem length_sextets {offset : Nat} {cs : List Char} {ns : List Nat}
    (h : sextets offset cs = .ok ns) : ns.length = cs.length := by
  induction cs generalizing offset ns with
  | nil =>
    simp only [sextets, Except.ok.injEq] at h
    subst h
    rfl
  | cons c cs ih =>
    rw [sextets] at h
    split at h
    · simp at h
    · split at h
      · simp at h
      · rename_i hs
        simp only [Except.ok.injEq] at h
        subst h
        simp [ih hs]

theorem length_readTail {offset place : Nat} {t t' : Tail} {cs : List Char}
    (h : readTail offset t place cs = .ok t') :
    t'.sextets.length ≤ t.sextets.length + cs.length := by
  induction cs generalizing t place with
  | nil =>
    simp only [readTail, Except.ok.injEq] at h
    subst h
    simp
  | cons c cs ih =>
    rw [readTail] at h
    split at h
    · split at h
      · simp at h
      · have := ih h
        simp only [List.length_cons] at *
        omega
    · split at h
      · simp at h
      · split at h
        · simp at h
        · have := ih h
          simp only [List.length_append, List.length_cons, List.length_nil] at *
          omega

theorem checkTail_eq_ok {offset : Nat} {t : Tail} {ns : List Nat}
    (h : checkTail offset t = .ok ns) : ns = t.sextets := by
  unfold checkTail at h
  repeat' split at h
  all_goals simp only [Except.ok.injEq, reduceCtorEq] at h
  exact h.symm

/-- Reading never yields more bytes than there were symbols. -/
theorem length_le_of_decode {cs : List Char} {bytes : List UInt8} (h : decode cs = .ok bytes) :
    bytes.length ≤ cs.length := by
  unfold decode at h
  split at h
  · simp only [Except.ok.injEq] at h
    subst h
    simp
  · split at h
    · simp at h
    · simp only at h
      generalize tailOffset (Utf8.width cs) = offset at h
      split at h
      · simp at h
      · rename_i front hf
        split at h
        · simp at h
        · rename_i t ht
          split at h
          · simp at h
          · rename_i back hb
            simp only [Except.ok.injEq] at h
            subst h
            have h1 := length_sextets hf
            have h2 := length_readTail ht
            have h3 := length_toBytes_le (front ++ back)
            rw [checkTail_eq_ok hb] at h3
            simp only [List.length_append, List.length_take, List.length_drop, List.length_nil] at *
            rw [checkTail_eq_ok hb]
            omega

end SubsetMatch.Base64Url
