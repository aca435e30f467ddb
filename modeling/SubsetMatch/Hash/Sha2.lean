import SubsetMatch.Decimal.Power

/-!
# The SHA-2 family

SHA-256, SHA-384 and SHA-512 over bytes. The three differ in the width of a word, the number of
rounds, the rotations, the initial state and the length of the digest. All constants are the
leading bits of the fractional parts of square and cube roots of primes, so those of the narrow
words are the upper halves of those of the wide ones.
-/

namespace SubsetMatch.Hash

open Decimal

/-- A member of the family. The six triples are rotations; the last entry of the two schedule
triples is a shift. -/
structure Variant where
  wordBytes : Nat
  bigSigma0 : Nat × Nat × Nat
  bigSigma1 : Nat × Nat × Nat
  smallSigma0 : Nat × Nat × Nat
  smallSigma1 : Nat × Nat × Nat
  initial : List Nat
  constants : List Nat
  digestBytes : Nat

/-- The fractional parts of the cube roots of the first eighty primes, 64 bits each. -/
def cubeRoots : List Nat := [
  0x428a2f98d728ae22, 0x7137449123ef65cd, 0xb5c0fbcfec4d3b2f, 0xe9b5dba58189dbbc,
  0x3956c25bf348b538, 0x59f111f1b605d019, 0x923f82a4af194f9b, 0xab1c5ed5da6d8118,
  0xd807aa98a3030242, 0x12835b0145706fbe, 0x243185be4ee4b28c, 0x550c7dc3d5ffb4e2,
  0x72be5d74f27b896f, 0x80deb1fe3b1696b1, 0x9bdc06a725c71235, 0xc19bf174cf692694,
  0xe49b69c19ef14ad2, 0xefbe4786384f25e3, 0x0fc19dc68b8cd5b5, 0x240ca1cc77ac9c65,
  0x2de92c6f592b0275, 0x4a7484aa6ea6e483, 0x5cb0a9dcbd41fbd4, 0x76f988da831153b5,
  0x983e5152ee66dfab, 0xa831c66d2db43210, 0xb00327c898fb213f, 0xbf597fc7beef0ee4,
  0xc6e00bf33da88fc2, 0xd5a79147930aa725, 0x06ca6351e003826f, 0x142929670a0e6e70,
  0x27b70a8546d22ffc, 0x2e1b21385c26c926, 0x4d2c6dfc5ac42aed, 0x53380d139d95b3df,
  0x650a73548baf63de, 0x766a0abb3c77b2a8, 0x81c2c92e47edaee6, 0x92722c851482353b,
  0xa2bfe8a14cf10364, 0xa81a664bbc423001, 0xc24b8b70d0f89791, 0xc76c51a30654be30,
  0xd192e819d6ef5218, 0xd69906245565a910, 0xf40e35855771202a, 0x106aa07032bbd1b8,
  0x19a4c116b8d2d0c8, 0x1e376c085141ab53, 0x2748774cdf8eeb99, 0x34b0bcb5e19b48a8,
  0x391c0cb3c5c95a63, 0x4ed8aa4ae3418acb, 0x5b9cca4f7763e373, 0x682e6ff3d6b2b8a3,
  0x748f82ee5defb2fc, 0x78a5636f43172f60, 0x84c87814a1f0ab72, 0x8cc702081a6439ec,
  0x90befffa23631e28, 0xa4506cebde82bde9, 0xbef9a3f7b2c67915, 0xc67178f2e372532b,
  0xca273eceea26619c, 0xd186b8c721c0c207, 0xeada7dd6cde0eb1e, 0xf57d4f7fee6ed178,
  0x06f067aa72176fba, 0x0a637dc5a2c898a6, 0x113f9804bef90dae, 0x1b710b35131c471b,
  0x28db77f523047d84, 0x32caab7b40c72493, 0x3c9ebe0a15c9bebc, 0x431d67c49c100d4c,
  0x4cc5d4becb3e42b6, 0x597f299cfc657e2a, 0x5fcb6fab3ad6faec, 0x6c44198c4a475817]

/-- The fractional parts of the square roots of the first eight primes, 64 bits each. -/
def squareRoots : List Nat := [
  0x6a09e667f3bcc908, 0xbb67ae8584caa73b, 0x3c6ef372fe94f82b, 0xa54ff53a5f1d36f1,
  0x510e527fade682d1, 0x9b05688c2b3e6c1f, 0x1f83d9abfb41bd6b, 0x5be0cd19137e2179]

/-- The fractional parts of the square roots of the next eight primes, 64 bits each. -/
def laterSquareRoots : List Nat := [
  0xcbbb9d5dc1059ed8, 0x629a292a367cd507, 0x9159015a3070dd17, 0x152fecd8f70e5939,
  0x67332667ffc00b31, 0x8eb44a8768581511, 0xdb0c2e0d64f98fa7, 0x47b5481dbefa4fa4]

/-- Words of 32 bits, 64 rounds. -/
def sha256 : Variant where
  wordBytes := 4
  bigSigma0 := (2, 13, 22)
  bigSigma1 := (6, 11, 25)
  smallSigma0 := (7, 18, 3)
  smallSigma1 := (17, 19, 10)
  initial := squareRoots.map (· >>> 32)
  constants := (cubeRoots.take 64).map (· >>> 32)
  digestBytes := 32

/-- Words of 64 bits, 80 rounds. -/
def sha512 : Variant where
  wordBytes := 8
  bigSigma0 := (28, 34, 39)
  bigSigma1 := (14, 18, 41)
  smallSigma0 := (1, 8, 7)
  smallSigma1 := (19, 61, 6)
  initial := squareRoots
  constants := cubeRoots
  digestBytes := 64

/-- Like SHA-512 from another state, and cut to 48 bytes. -/
def sha384 : Variant :=
  { sha512 with initial := laterSquareRoots, digestBytes := 48 }

namespace Variant

variable (v : Variant)

/-- The number of bits of a word. -/
def wordBits : Nat :=
  8 * v.wordBytes

/-- The number of bytes of a block: sixteen words. -/
def blockBytes : Nat :=
  16 * v.wordBytes

/-- A number cut to a word. -/
def wrap (n : Nat) : Nat :=
  n % twoTo v.wordBits

/-- A word rotated to the right. -/
def rotate (x n : Nat) : Nat :=
  (x >>> n) ||| v.wrap (x <<< (v.wordBits - n))

/-- Three rotations combined. -/
def bigSigma (r : Nat × Nat × Nat) (x : Nat) : Nat :=
  v.rotate x r.1 ^^^ v.rotate x r.2.1 ^^^ v.rotate x r.2.2

/-- Two rotations and a shift combined. -/
def smallSigma (r : Nat × Nat × Nat) (x : Nat) : Nat :=
  v.rotate x r.1 ^^^ v.rotate x r.2.1 ^^^ (x >>> r.2.2)

/-- The next word of the schedule behind sixteen. -/
def nextWord (window : List Nat) : Nat :=
  v.wrap (v.smallSigma v.smallSigma1 (window.getD 14 0) + window.getD 9 0 +
    v.smallSigma v.smallSigma0 (window.getD 1 0) + window.getD 0 0)

/-- The eight words of the state. -/
structure State where
  a : Nat
  b : Nat
  c : Nat
  d : Nat
  e : Nat
  f : Nat
  g : Nat
  h : Nat

/-- The state of eight words. -/
def State.ofList (ws : List Nat) : State :=
  ⟨ws.getD 0 0, ws.getD 1 0, ws.getD 2 0, ws.getD 3 0, ws.getD 4 0, ws.getD 5 0, ws.getD 6 0,
    ws.getD 7 0⟩

/-- The words of a state. -/
def State.toList (s : State) : List Nat :=
  [s.a, s.b, s.c, s.d, s.e, s.f, s.g, s.h]

/-- One round with a constant and a word of the schedule. -/
def round (s : State) (constant word : Nat) : State :=
  let choose := (s.e &&& s.f) ^^^ ((twoTo v.wordBits - 1 - s.e) &&& s.g)
  let majority := (s.a &&& s.b) ^^^ (s.a &&& s.c) ^^^ (s.b &&& s.c)
  let t1 := s.h + v.bigSigma v.bigSigma1 s.e + choose + constant + word
  let t2 := v.bigSigma v.bigSigma0 s.a + majority
  ⟨v.wrap (t1 + t2), s.a, s.b, s.c, v.wrap (s.d + t1), s.e, s.f, s.g⟩

/-- The rounds of a block, one constant each. -/
def mixRounds : List Nat → List Nat → State → State
  | [], _, s => s
  | constant :: constants, window, s =>
    mixRounds constants (window.drop 1 ++ [v.nextWord window]) (v.round s constant (window.getD 0 0))

/-- The number that bytes spell, most significant first. -/
def ofBytes (bytes : List UInt8) : Nat :=
  bytes.foldl (fun n b => 256 * n + b.toNat) 0

/-- A number in so many bytes, most significant first. -/
def toBytes : Nat → Nat → List UInt8
  | 0, _ => []
  | n + 1, x => toBytes n (x / 256) ++ [UInt8.ofNat (x % 256)]

/-- The first so many words of a text. -/
def words : Nat → List UInt8 → List Nat
  | 0, _ => []
  | n + 1, bytes => ofBytes (bytes.take v.wordBytes) :: words n (bytes.drop v.wordBytes)

/-- The state after one more block. -/
def block (s : State) (bytes : List UInt8) : State :=
  let mixed := v.mixRounds v.constants (v.words 16 bytes) s
  State.ofList (List.zipWith (fun x y => v.wrap (x + y)) s.toList mixed.toList)

/-- The state after so many blocks. -/
def blocks : Nat → List UInt8 → State → State
  | 0, _, s => s
  | n + 1, bytes, s => blocks n (bytes.drop v.blockBytes) (v.block s (bytes.take v.blockBytes))

/-- A message followed by a set bit, zeros and its length in bits, up to a whole block. -/
def pad (message : List UInt8) : List UInt8 :=
  let used := message.length + 1 + 2 * v.wordBytes
  let zeros := (v.blockBytes - used % v.blockBytes) % v.blockBytes
  message ++ 0x80 :: List.replicate zeros 0 ++ toBytes (2 * v.wordBytes) (8 * message.length)

/-- The digest of a message. -/
def digest (message : List UInt8) : List UInt8 :=
  let padded := v.pad message
  let s := v.blocks (padded.length / v.blockBytes) padded (State.ofList v.initial)
  (s.toList.flatMap (toBytes v.wordBytes)).take v.digestBytes

end Variant

end SubsetMatch.Hash
