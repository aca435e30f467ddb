import SubsetMatch.Decimal.Binary64
import SubsetMatch.Entries

/-!
# Documents (§10.2)

A document is null, a boolean, a number, a string, a list or an object. Numbers remember whether
they were written as integers; objects keep the order of their members. The program's
`numbers_equal` and `scalars_equal` are `Number.same` and `sameScalar`, its `type_name` is the name
of a `kind`.

Results:
* `same_integer`: integers are the same iff they are equal, in whatever words they are compared.
* `sameNumber_refl`, `sameNumber_comm`: equality across representations is reflexive and symmetric.
* `textLength_le_of_mem_items`, `textLength_le_of_get?`: no element or member holds more text than
  the whole.
* `textLength_settle_le`: dropping overwritten members never adds text.
-/

namespace SubsetMatch

open Decimal

/-- A number of a document. -/
inductive Number
  | integer (n : Int)
  | double (x : Binary64)
deriving DecidableEq, Repr

namespace Number

/-- The double nearest to a number. -/
def toBinary64 : Number → Binary64
  | integer n => .ofInt n
  | double x => x

/-- The least integer that is too great for a signed word of 64 bits, `2 ^ 63`. -/
def signedLimit : Int := 0x8000000000000000

/-- The number as a signed word of 64 bits. No integer of a document is too small for one. -/
def toSigned? : Number → Option Int
  | integer n => if n < signedLimit then some n else none
  | double _ => none

/-- The number as an unsigned word of 64 bits. No integer of a document is too great for one. -/
def toUnsigned? : Number → Option Nat
  | integer n => n.toNat?
  | double _ => none

/-- Kept as a double. -/
def isDouble : Number → Bool
  | integer _ => false
  | double _ => true

/-- Equality irrespective of representation: of words of one kind if both numbers fit one, else of
the nearest doubles if one number is a double. A negative integer and one that needs an unsigned
word differ. -/
def same (a b : Number) : Bool :=
  match a.toSigned?, b.toSigned? with
  | some x, some y => x == y
  | _, _ =>
    match a.toUnsigned?, b.toUnsigned? with
    | some x, some y => x == y
    | _, _ => (a.isDouble || b.isDouble) && a.toBinary64.same b.toBinary64

theorem toSigned?_eq_some_iff {a n : Int} :
    (integer a).toSigned? = some n ↔ a < signedLimit ∧ a = n := by
  simp [toSigned?]

theorem toUnsigned?_eq_some_iff {a : Int} {n : Nat} : (integer a).toUnsigned? = some n ↔ a = n :=
  Int.mem_toNat?

/-- An integer fits a word of one of the two kinds. -/
theorem fits_word (a : Int) :
    (integer a).toSigned? = some a ∨ ∃ n : Nat, a = n ∧ (integer a).toUnsigned? = some n := by
  by_cases h : a < signedLimit
  · exact .inl (toSigned?_eq_some_iff.mpr ⟨h, rfl⟩)
  · have hle : 0 ≤ a := Int.le_trans (by decide : 0 ≤ signedLimit) (Int.not_lt.mp h)
    obtain ⟨n, rfl⟩ := Int.eq_ofNat_of_zero_le hle
    exact .inr ⟨n, rfl, rfl⟩

/-- Integers are the same iff they are equal, whatever words they are compared in. -/
@[simp] theorem same_integer (a b : Int) : (integer a).same (integer b) = (a == b) := by
  unfold same
  split
  · rename_i x y hx hy
    obtain ⟨-, rfl⟩ := toSigned?_eq_some_iff.mp hx
    obtain ⟨-, rfl⟩ := toSigned?_eq_some_iff.mp hy
    rfl
  · rename_i hsigned
    split
    · rename_i m n hm hn
      rw [toUnsigned?_eq_some_iff.mp hm, toUnsigned?_eq_some_iff.mp hn, Bool.eq_iff_iff,
        beq_iff_eq, beq_iff_eq]
      exact Int.ofNat_inj.symm
    · rename_i hunsigned
      -- an integer shares a word with itself
      have hne : a ≠ b := by
        rintro rfl
        rcases fits_word a with h | ⟨n, -, h⟩
        · exact hsigned a a h h
        · exact hunsigned n n h h
      simp [isDouble, hne]

theorem same_of_double {a b : Number} (h : a.isDouble = true ∨ b.isDouble = true) :
    a.same b = a.toBinary64.same b.toBinary64 := by
  cases a <;> cases b <;> simp_all [same, toSigned?, toUnsigned?, isDouble]

@[simp] theorem sameNumber_refl (a : Number) : a.same a = true := by
  cases a with
  | integer n => simp
  | double x => simp [same_of_double, isDouble]

theorem sameNumber_comm (a b : Number) : a.same b = b.same a := by
  cases a with
  | integer m =>
    cases b with
    | integer n =>
      rw [same_integer, same_integer]
      exact BEq.comm
    | double y =>
      rw [same_of_double (.inr rfl), same_of_double (.inl rfl)]
      exact Binary64.same_comm _ _
  | double x =>
    rw [same_of_double (.inl rfl), same_of_double (.inr rfl)]
    exact Binary64.same_comm _ _

end Number

/-- A document. -/
inductive Value
  | null
  | bool (b : Bool)
  | number (n : Number)
  | string (s : String)
  | array (items : List Value)
  | object (members : List (String × Value))
deriving Repr, BEq, Inhabited

/-- The members of an object. -/
abbrev Members := List (String × Value)

/-- The kinds of documents that a type assertion tells apart. -/
inductive Kind
  | null
  | boolean
  | integer
  | double
  | string
  | array
  | object
deriving DecidableEq, Repr

/-- The name of a kind: `type_name` of its documents. -/
def Kind.name : Kind → String
  | null => "null"
  | boolean => "boolean"
  | integer => "integer"
  | double => "double"
  | string => "string"
  | array => "array"
  | object => "object"

namespace Value

/-- The kind of a document. -/
def kind : Value → Kind
  | null => .null
  | bool _ => .boolean
  | number (.integer _) => .integer
  | number (.double _) => .double
  | string _ => .string
  | array _ => .array
  | object _ => .object

/-- Booleans, numbers and strings (`is_scalar`). -/
def isScalar : Value → Bool
  | bool _ | number _ | string _ => true
  | _ => false

/-- Equality of leaves (`scalars_equal`). Lists and objects are never the same here; they are
walked. -/
def sameScalar : Value → Value → Bool
  | null, null => true
  | bool a, bool b => a == b
  | number a, number b => a.same b
  | string a, string b => a == b
  | _, _ => false

/-- The member stored under a key. -/
def get? (members : Members) (key : String) : Option Value :=
  Entries.find? key members

mutual
/-- The number of characters in all strings of a document, keys left out. -/
def textLength : Value → Nat
  | null | bool _ | number _ => 0
  | string s => s.length
  | array items => textLengthItems items
  | object members => textLengthMembers members

/-- The number of characters in all strings of some documents. -/
def textLengthItems : List Value → Nat
  | [] => 0
  | v :: items => v.textLength + textLengthItems items

/-- The number of characters in all strings of some members. -/
def textLengthMembers : List (String × Value) → Nat
  | [] => 0
  | (_, v) :: members => v.textLength + textLengthMembers members
end

mutual
/-- The size of a document: its nodes and the characters of its strings. -/
def size : Value → Nat
  | null | bool _ | number _ => 1
  | string s => s.length + 1
  | array items => sizeItems items + 1
  | object members => sizeMembers members + 1

/-- The size of some documents. -/
def sizeItems : List Value → Nat
  | [] => 0
  | v :: items => v.size + sizeItems items + 1

/-- The size of some members. -/
def sizeMembers : List (String × Value) → Nat
  | [] => 0
  | (_, v) :: members => v.size + sizeMembers members + 1
end

/-- A member written again replaces the earlier one in its place; a new one comes last. -/
def putMember (key : String) (value : Value) : Members → Members
  | [] => [(key, value)]
  | (k, v) :: members =>
    if k == key then (key, value) :: members else (k, v) :: putMember key value members

mutual
/-- The document with every member once: the last value under a key, at the key's first place. -/
def settle : Value → Value
  | null => null
  | bool b => bool b
  | number n => number n
  | string s => string s
  | array items => array (settleItems items)
  | object members => object (collect [] members)

/-- Every document settled. -/
def settleItems : List Value → List Value
  | [] => []
  | v :: items => v.settle :: settleItems items

/-- The members put, in order, behind those already collected. -/
def collect (done : Members) : List (String × Value) → Members
  | [] => done
  | (k, v) :: members => collect (putMember k v.settle done) members
end

@[simp] theorem sameScalar_string (a b : String) : (string a).sameScalar (string b) = (a == b) := rfl

theorem textLength_le_of_mem_items {v : Value} {items : List Value} (h : v ∈ items) :
    v.textLength ≤ textLengthItems items := by
  induction items with
  | nil => simp at h
  | cons w items ih =>
    rw [textLengthItems]
    rcases List.mem_cons.1 h with rfl | h
    · omega
    · have := ih h
      omega

theorem textLength_le_of_get? {v : Value} {key : String} {members : Members}
    (h : get? members key = some v) : v.textLength ≤ textLengthMembers members := by
  induction members with
  | nil => simp [get?] at h
  | cons m members ih =>
    obtain ⟨k, w⟩ := m
    rw [textLengthMembers]
    rw [get?, Entries.find?_cons] at h
    split at h
    · simp only [Option.some.injEq] at h
      subst h
      omega
    · have := ih h
      omega

theorem textLength_putMember_le (key : String) (v : Value) (members : Members) :
    textLengthMembers (putMember key v members) ≤ v.textLength + textLengthMembers members := by
  induction members with
  | nil => simp [putMember, textLengthMembers]
  | cons m members ih =>
    obtain ⟨k, w⟩ := m
    rw [putMember]
    split
    · simp only [textLengthMembers]
      omega
    · simp only [textLengthMembers]
      omega

mutual
theorem textLength_settle_le (v : Value) : v.settle.textLength ≤ v.textLength := by
  cases v with
  | array items =>
    rw [settle, textLength, textLength]
    exact textLength_settleItems_le items
  | object members =>
    rw [settle, textLength, textLength]
    simpa [textLengthMembers] using textLength_collect_le [] members
  | _ => simp [settle]

theorem textLength_settleItems_le (items : List Value) :
    textLengthItems (settleItems items) ≤ textLengthItems items := by
  cases items with
  | nil => simp [settleItems]
  | cons v items =>
    have := textLength_settle_le v
    have := textLength_settleItems_le items
    simp only [settleItems, textLengthItems]
    omega

theorem textLength_collect_le (done : Members) (members : List (String × Value)) :
    textLengthMembers (collect done members) ≤
      textLengthMembers done + textLengthMembers members := by
  cases members with
  | nil => simp [collect, textLengthMembers]
  | cons m members =>
    obtain ⟨k, v⟩ := m
    have := textLength_settle_le v
    have := textLength_putMember_le k v.settle done
    have := textLength_collect_le (putMember k v.settle done) members
    simp only [collect, textLengthMembers]
    omega
end

end Value

end SubsetMatch
