import SubsetMatch.Hash.Hmac
import SubsetMatch.Matcher.Basic
import SubsetMatch.Pattern.Engine

/-!
# The standard primitives

The pattern engine of this library, and signatures that are keyed digests of the SHA-2 family, at a
given time.
-/

namespace SubsetMatch.Primitives

/-- The keyed digest of an algorithm. -/
def digest : Token.Mac := fun a key message =>
  Hash.hmac a.variant key message

/-- The primitives of this library at a time, in seconds since 1970. -/
def standard (now : Nat) : Primitives where
  engine := Pattern.engine
  signs := Token.recompute digest
  now := now

end SubsetMatch.Primitives
