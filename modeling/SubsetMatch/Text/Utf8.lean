/-!
# UTF-8

Byte widths of characters, positions inside a text counted in bytes, and the decoding of bytes.

Results:
* `length_le_of_decode`: decoding never yields more characters than there were bytes.
* `fromByte_append`: skipping exactly the bytes of a first part leaves the second part.
-/

namespace SubsetMatch.Text.Utf8

/-- The number of bytes of a text. -/
def width : List Char → Nat
  | [] => 0
  | c :: cs => c.utf8Size + width cs

@[simp] theorem width_nil : width [] = 0 := rfl

@[simp] theorem width_cons (c : Char) (cs : List Char) :
    width (c :: cs) = c.utf8Size + width cs := rfl

theorem width_append (a b : List Char) : width (a ++ b) = width a + width b := by
  induction a with
  | nil => simp
  | cons c cs ih =>
    simp only [List.cons_append, width_cons, ih]
    omega

/-- The text from a byte position on; `none` if the position falls inside a character or past
the end. -/
def fromByte : Nat → List Char → Option (List Char)
  | 0, cs => some cs
  | _ + 1, [] => none
  | n + 1, c :: cs => if c.utf8Size ≤ n + 1 then fromByte (n + 1 - c.utf8Size) cs else none

@[simp] theorem fromByte_zero (cs : List Char) : fromByte 0 cs = some cs := by
  cases cs <;> rfl

theorem fromByte_append (a b : List Char) : fromByte (width a) (a ++ b) = some b := by
  induction a with
  | nil => simp
  | cons c r ih =>
    have hpos : 0 < c.utf8Size := c.utf8Size_pos
    obtain ⟨n, hn⟩ : ∃ n, c.utf8Size + width r = n + 1 := ⟨c.utf8Size + width r - 1, by omega⟩
    rw [width_cons, List.cons_append, hn, fromByte, if_pos (by omega),
      show n + 1 - c.utf8Size = width r by omega, ih]

/-- The bytes of a text. -/
def encode (s : String) : List UInt8 :=
  s.toUTF8.toList

/-- A continuation byte carries six bits. -/
def isTail (b : UInt8) : Bool :=
  0x80 ≤ b && b ≤ 0xBF

/-- The character with a code point assembled from its leading bits and its tails. -/
def assemble (lead : Nat) (tails : List UInt8) : Char :=
  Char.ofNat (tails.foldl (fun n b => n * 64 + (b.toNat - 0x80)) lead)

/-- The first character and the remaining bytes: the shortest form only, no surrogates, nothing
above U+10FFFF. -/
def decodeOne : List UInt8 → Option (Char × List UInt8)
  | [] => none
  | a :: rest =>
    if a ≤ 0x7F then some (assemble a.toNat [], rest)
    else if 0xC2 ≤ a && a ≤ 0xDF then
      match rest with
      | b :: rest => if isTail b then some (assemble (a.toNat - 0xC0) [b], rest) else none
      | _ => none
    else if 0xE0 ≤ a && a ≤ 0xEF then
      match rest with
      | b :: c :: rest =>
        if isTail b && isTail c && (a != 0xE0 || 0xA0 ≤ b) && (a != 0xED || b ≤ 0x9F) then
          some (assemble (a.toNat - 0xE0) [b, c], rest)
        else none
      | _ => none
    else if 0xF0 ≤ a && a ≤ 0xF4 then
      match rest with
      | b :: c :: d :: rest =>
        if isTail b && isTail c && isTail d && (a != 0xF0 || 0x90 ≤ b) && (a != 0xF4 || b ≤ 0x8F) then
          some (assemble (a.toNat - 0xF0) [b, c, d], rest)
        else none
      | _ => none
    else none

theorem length_lt_of_decodeOne {bytes rest : List UInt8} {c : Char}
    (h : decodeOne bytes = some (c, rest)) : rest.length < bytes.length := by
  unfold decodeOne at h
  repeat' split at h
  all_goals first
    | (simp at h; done)
    | (simp only [Option.some.injEq, Prod.mk.injEq] at h
       obtain ⟨_, rfl⟩ := h
       simp only [List.length_cons]
       omega)

/-- The characters of well-formed UTF-8. -/
def decode (bytes : List UInt8) : Option (List Char) :=
  if bytes.isEmpty then some []
  else
    match _h : decodeOne bytes with
    | none => none
    | some (c, rest) => (decode rest).map (c :: ·)
termination_by bytes.length
decreasing_by exact length_lt_of_decodeOne _h

theorem length_le_of_decode {bytes : List UInt8} {cs : List Char} (h : decode bytes = some cs) :
    cs.length ≤ bytes.length := by
  fun_induction decode bytes generalizing cs with
  | case1 => simp_all
  | case2 => simp at h
  | case3 bytes _ c rest hc ih =>
    obtain ⟨ds, hds, rfl⟩ := Option.map_eq_some_iff.1 h
    have := ih hds
    have := length_lt_of_decodeOne hc
    simp only [List.length_cons]
    omega

end SubsetMatch.Text.Utf8
