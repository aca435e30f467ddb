import SubsetMatch.Hash.Sha2

/-!
# Keyed digests

HMAC over a member of the SHA-2 family.
-/

namespace SubsetMatch.Hash

/-- A key as one block: digested when it is longer than that, then filled with zeros. -/
def blockKey (v : Variant) (key : List UInt8) : List UInt8 :=
  let key := if v.blockBytes < key.length then v.digest key else key
  key ++ List.replicate (v.blockBytes - key.length) 0

/-- The keyed digest of a message. -/
def hmac (v : Variant) (key message : List UInt8) : List UInt8 :=
  let key := blockKey v key
  v.digest (key.map (· ^^^ 0x5C) ++ v.digest (key.map (· ^^^ 0x36) ++ message))

end SubsetMatch.Hash
