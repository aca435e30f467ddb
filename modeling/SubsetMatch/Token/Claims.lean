import SubsetMatch.Token.Header

/-!
# Claims of tokens (§10.7)

The claims are the members of an object. The registered ones may be written only once. A token is
expired when its `exp` lies more than a minute in the past, and immature when its `nbf` lies more
than a minute in the future; only non-negative numbers count as times. No claim is required, and
the audience is not looked at (`validation`).

Results:
* `isExpired_of_absent`: without `exp` no token expires.
-/

namespace SubsetMatch.Token

open Decimal

/-- The minute by which clocks may differ. -/
def leeway : Nat := 60

/-- The time that a claim stands for: a non-negative number below 2^64, rounded to a second. -/
def time? : Value → Option Nat
  | .number (.integer n) => if 0 ≤ n then some n.toNat else none
  | .number (.double x) =>
    if !(x.less (.zero false)) && x.less (.ofInt (twoTo 64)) then some x.roundHalfUp else none
  | _ => none

/-- A list or object. -/
def isContainer : Value → Bool
  | .array _ | .object _ => true
  | _ => false

/-- A list or object that holds something. -/
def isFilled : Value → Bool
  | .array items => !items.isEmpty
  | .object members => !members.isEmpty
  | _ => false

/-- Whether the registered claims are written once and are of readable shapes: a time is no filled
list or object, a subject none at all. -/
def areReadable (members : Members) : Bool :=
  optional "exp" (fun v => !isFilled v) members && optional "nbf" (fun v => !isFilled v) members &&
    optional "sub" (fun v => !isContainer v) members && optional "iss" (fun _ => true) members &&
    optional "aud" (fun _ => true) members

/-- The time under a name. -/
def timeOf? (name : String) (members : Members) : Option Nat :=
  (Value.get? members name).bind time?

/-- Whether a token is past its `exp` at a time. -/
def isExpired (now : Nat) (members : Members) : Bool :=
  (timeOf? "exp" members).any fun t => t + leeway < now

/-- Whether a token is before its `nbf` at a time. -/
def isImmature (now : Nat) (members : Members) : Bool :=
  (timeOf? "nbf" members).any fun t => now + leeway < t

theorem isExpired_of_absent {now : Nat} {members : Members}
    (h : Value.get? members "exp" = none) : isExpired now members = false := by
  simp [isExpired, timeOf?, h]

end SubsetMatch.Token
