import SubsetMatch.Text.Utf8

/-!
# UTF-8 reads back

A character is written as a lead byte and up to three continuation bytes, six bits in each. The
reader takes a lead apart by its range, so there is one lemma for each number of bytes: first what
the reader makes of bytes in range (`decodeOne_one` to `decodeOne_four`), then that the bytes of a
code point are in range and assemble to it.

Results:
* `width_toList`: the bytes of a string are counted by its characters.
* `decodeOne_char`: the bytes of a character read back, whatever follows them.
* `decode_encode`: the bytes of a text read back.
-/

namespace SubsetMatch.Text.Utf8

open String (utf8EncodeChar)

/-! ## The bytes of a text -/

theorem toList_loop (bytes : ByteArray) (i : Nat) (done : List UInt8) :
    ByteArray.toList.loop bytes i done = done.reverse ++ bytes.data.toList.drop i := by
  fun_induction ByteArray.toList.loop bytes i done with
  | case1 i done hlt ih =>
    have hi : i < bytes.data.toList.length := hlt
    have hget : bytes.get! i = bytes.data.toList[i] := getElem!_pos bytes.data i hlt
    rw [ih, List.drop_eq_getElem_cons hi, List.reverse_cons, List.append_assoc, hget]
    rfl
  | case2 i done hge =>
    have hi : bytes.data.toList.length ≤ i := Nat.le_of_not_lt hge
    rw [List.drop_eq_nil_of_le hi, List.append_nil]

/-- The bytes of a text are those of its characters. -/
theorem encode_eq (s : String) : encode s = s.toList.flatMap utf8EncodeChar := by
  have hs : s.toUTF8 = (s.toList.flatMap utf8EncodeChar).toByteArray := by
    conv =>
      lhs
      rw [← String.ofList_toList (s := s)]
    rfl
  rw [encode, ByteArray.toList, toList_loop, hs, List.toList_data_toByteArray]
  rfl

/-- The number of bytes of a string is that of its characters. -/
theorem width_toList (s : String) : width s.toList = s.utf8ByteSize := by
  have hlist : ∀ cs : List Char, width cs = (String.ofList cs).utf8ByteSize := by
    intro cs
    induction cs with
    | nil => rfl
    | cons c cs ih => simp [ih]
  rw [hlist, String.ofList_toList]

/-! ## Leads and continuations -/

theorem toNat_byte {n : Nat} (h : n < 256) : (UInt8.ofNat n).toNat = n :=
  UInt8.toNat_ofNat_of_lt' h

section Leads

variable {a b c d : UInt8} (rest : List UInt8)

theorem decodeOne_one (h : a.toNat ≤ 0x7F) :
    decodeOne (a :: rest) = some (assemble a.toNat [], rest) := by
  have ha : a ≤ 0x7F := UInt8.le_iff_toNat_le.mpr h
  simp [decodeOne, ha]

theorem decodeOne_two (h1 : 0xC2 ≤ a.toNat) (h2 : a.toNat ≤ 0xDF) (hb : isTail b) :
    decodeOne (a :: b :: rest) = some (assemble (a.toNat - 0xC0) [b], rest) := by
  have hone : ¬ a.toNat ≤ 0x7F := by omega
  simp [decodeOne, UInt8.le_iff_toNat_le, hone, h1, h2, hb]

theorem decodeOne_three (h1 : 0xE0 ≤ a.toNat) (h2 : a.toNat ≤ 0xEF) (hb : isTail b) (hc : isTail c)
    (hshort : a.toNat = 0xE0 → 0xA0 ≤ b.toNat) (hsurrogate : a.toNat = 0xED → b.toNat ≤ 0x9F) :
    decodeOne (a :: b :: c :: rest) = some (assemble (a.toNat - 0xE0) [b, c], rest) := by
  have hone : ¬ a.toNat ≤ 0x7F := by omega
  have htwo : ¬ a.toNat ≤ 0xDF := by omega
  have hb1 : a.toNat ≠ 0xE0 ∨ 0xA0 ≤ b.toNat := Decidable.not_or_of_imp hshort
  have hb2 : a.toNat ≠ 0xED ∨ b.toNat ≤ 0x9F := Decidable.not_or_of_imp hsurrogate
  simp [decodeOne, UInt8.le_iff_toNat_le, ← UInt8.toNat_inj, hone, htwo, h1, h2, hb, hc, hb1, hb2]

theorem decodeOne_four (h1 : 0xF0 ≤ a.toNat) (h2 : a.toNat ≤ 0xF4) (hb : isTail b) (hc : isTail c)
    (hd : isTail d) (hshort : a.toNat = 0xF0 → 0x90 ≤ b.toNat)
    (hlast : a.toNat = 0xF4 → b.toNat ≤ 0x8F) :
    decodeOne (a :: b :: c :: d :: rest) = some (assemble (a.toNat - 0xF0) [b, c, d], rest) := by
  have hone : ¬ a.toNat ≤ 0x7F := by omega
  have htwo : ¬ a.toNat ≤ 0xDF := by omega
  have hthree : ¬ a.toNat ≤ 0xEF := by omega
  have hb1 : a.toNat ≠ 0xF0 ∨ 0x90 ≤ b.toNat := Decidable.not_or_of_imp hshort
  have hb2 : a.toNat ≠ 0xF4 ∨ b.toNat ≤ 0x8F := Decidable.not_or_of_imp hlast
  simp [decodeOne, UInt8.le_iff_toNat_le, ← UInt8.toNat_inj, hone, htwo, hthree, h1, h2, hb, hc, hd,
    hb1, hb2]

end Leads

/-! ## The bytes of a code point -/

/-- The continuation byte that carries the last six bits of a number. -/
def tailOf (n : Nat) : UInt8 :=
  UInt8.ofNat (n % 64 + 128)

theorem toNat_tailOf (n : Nat) : (tailOf n).toNat = n % 64 + 0x80 :=
  toNat_byte (by omega)

theorem isTail_tailOf (n : Nat) : isTail (tailOf n) = true := by
  have h : n % 64 + 0x80 ≤ 191 := by omega
  simp only [isTail, UInt8.le_iff_toNat_le, toNat_tailOf, Bool.and_eq_true, decide_eq_true_eq]
  exact ⟨Nat.le_add_left .., h⟩

/-- What is assembled from a lead and the last six bits of some numbers. -/
theorem assemble_tails {lead v : Nat} {bits : List Nat}
    (h : bits.foldl (fun n b => n * 64 + b % 64) lead = v) :
    assemble lead (bits.map tailOf) = Char.ofNat v := by
  simp only [assemble, List.foldl_map, toNat_tailOf, Nat.add_sub_cancel, h]

section Points

variable {v : Nat} (rest : List UInt8)

theorem decodeOne_upTo7F (h : v ≤ 0x7F) :
    decodeOne (UInt8.ofNat v :: rest) = some (Char.ofNat v, rest) := by
  have hlead : (UInt8.ofNat v).toNat = v := toNat_byte (by omega)
  have hchar : assemble v ([].map tailOf) = Char.ofNat v := assemble_tails rfl
  rw [decodeOne_one _ (by omega), hlead, ← hchar, List.map_nil]

theorem decodeOne_upTo7FF (h1 : 0x7F < v) (h2 : v ≤ 0x7FF) :
    decodeOne (UInt8.ofNat (v / 64 % 32 + 0xC0) :: tailOf v :: rest) =
      some (Char.ofNat v, rest) := by
  have hlead : (UInt8.ofNat (v / 64 % 32 + 0xC0)).toNat = v / 64 + 0xC0 := by
    rw [toNat_byte (by omega)]
    omega
  have hchar : assemble (v / 64) ([v].map tailOf) = Char.ofNat v :=
    assemble_tails (Nat.div_add_mod' v 64)
  rw [decodeOne_two _ (by omega) (by omega) (isTail_tailOf _), hlead, Nat.add_sub_cancel, ← hchar,
    List.map_singleton]

theorem decodeOne_upToFFFF (h1 : 0x7FF < v) (h2 : v ≤ 0xFFFF) (h : v < 0xD800 ∨ 0xDFFF < v) :
    decodeOne (UInt8.ofNat (v / 4096 % 16 + 0xE0) :: tailOf (v / 64) :: tailOf v :: rest) =
      some (Char.ofNat v, rest) := by
  have hlead : (UInt8.ofNat (v / 4096 % 16 + 0xE0)).toNat = v / 4096 + 0xE0 := by
    rw [toNat_byte (by omega)]
    omega
  have hchar : assemble (v / 4096) ([v / 64, v].map tailOf) = Char.ofNat v :=
    assemble_tails (by simp only [List.foldl_cons, List.foldl_nil]; omega)
  have htail := toNat_tailOf (v / 64)
  rw [decodeOne_three _ (by omega) (by omega) (isTail_tailOf _) (isTail_tailOf _)
    (by omega) (by omega), hlead, Nat.add_sub_cancel, ← hchar]
  rfl

theorem decodeOne_upTo10FFFF (h1 : 0xFFFF < v) (h2 : v < 0x110000) :
    decodeOne (UInt8.ofNat (v / 262144 % 8 + 0xF0) :: tailOf (v / 4096) :: tailOf (v / 64) ::
      tailOf v :: rest) = some (Char.ofNat v, rest) := by
  have hlead : (UInt8.ofNat (v / 262144 % 8 + 0xF0)).toNat = v / 262144 + 0xF0 := by
    rw [toNat_byte (by omega)]
    omega
  have hchar : assemble (v / 262144) ([v / 4096, v / 64, v].map tailOf) = Char.ofNat v :=
    assemble_tails (by simp only [List.foldl_cons, List.foldl_nil]; omega)
  have htail := toNat_tailOf (v / 4096)
  rw [decodeOne_four _ (by omega) (by omega) (isTail_tailOf _) (isTail_tailOf _) (isTail_tailOf _)
    (by omega) (by omega), hlead, Nat.add_sub_cancel, ← hchar]
  rfl

end Points

/-- **The bytes of a character read back**, whatever follows them. -/
theorem decodeOne_char (c : Char) (rest : List UInt8) :
    decodeOne (utf8EncodeChar c ++ rest) = some (c, rest) := by
  have hvalid : c.toNat < 0xD800 ∨ 0xDFFF < c.toNat ∧ c.toNat < 0x110000 := c.valid
  have hval : c.val.toNat = c.toNat := rfl
  conv =>
    rhs
    rw [← Char.ofNat_toNat c]
  simp only [utf8EncodeChar, hval]
  generalize c.toNat = v at hvalid
  split
  · exact decodeOne_upTo7F rest (v := v) (by omega)
  split
  · exact decodeOne_upTo7FF rest (v := v) (by omega) (by omega)
  split
  · exact decodeOne_upToFFFF rest (v := v) (by omega) (by omega) (by omega)
  · exact decodeOne_upTo10FFFF rest (v := v) (by omega) (by omega)

theorem decode_chars (cs : List Char) : decode (cs.flatMap utf8EncodeChar) = some cs := by
  induction cs with
  | nil => simp [decode]
  | cons c cs ih =>
    have hne : (utf8EncodeChar c ++ cs.flatMap utf8EncodeChar).isEmpty = false := by
      simp [String.utf8EncodeChar_ne_nil]
    rw [List.flatMap_cons, decode, hne]
    simp only [Bool.false_eq_true, if_false]
    split
    · rename_i h
      rw [decodeOne_char] at h
      cases h
    · rename_i h
      rw [decodeOne_char] at h
      cases h
      rw [ih]
      rfl

/-- **The bytes of a text read back.** -/
theorem decode_encode (s : String) : decode (encode s) = some s.toList := by
  rw [encode_eq, decode_chars]

end SubsetMatch.Text.Utf8
