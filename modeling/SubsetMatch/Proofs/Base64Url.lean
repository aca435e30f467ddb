import SubsetMatch.Base64Url

/-!
# Base64 reads back

Bytes are written as the symbols of their sextets (`encode_eq`), and symbols are read as theirs
(`decode_symbols`): all but the last group at once, the last one with care for bits that belong to
no byte. Written bytes leave none.

Results:
* `decode_encode`, `encode_injective`: written bytes read back, so no two texts of bytes are written
  alike.
* `dot_not_mem_encode`: no dot is written.
-/

namespace SubsetMatch.Base64Url

open Decimal Text

/-! ## Symbols -/

/-- What holds of the symbols of all sextets, one by one. -/
theorem symbol_facts : ∀ n < 64, sextet? (symbol n) = some n ∧ (symbol n).utf8Size = 1 ∧
    symbol n ≠ '=' ∧ symbol n ≠ '.' := by
  decide +kernel

/-- The sextets that bytes are written with. -/
def sextetsOf : List UInt8 → List Nat
  | a :: b :: c :: rest =>
    let n := (a.toNat * 256 + b.toNat) * 256 + c.toNat
    n / twoTo 18 :: n / twoTo 12 % 64 :: n / twoTo 6 % 64 :: n % 64 :: sextetsOf rest
  | [a, b] =>
    let n := (a.toNat * 256 + b.toNat) * 4
    [n / twoTo 12, n / twoTo 6 % 64, n % 64]
  | [a] =>
    let n := a.toNat * 16
    [n / twoTo 6, n % 64]
  | [] => []

theorem encode_eq (bytes : List UInt8) : encode bytes = (sextetsOf bytes).map symbol := by
  fun_induction sextetsOf bytes with
  | case1 a b c rest n ih =>
    rw [encode, ih]
    rfl
  | case2 a b n => rfl
  | case3 a n => rfl
  | case4 => rfl

theorem twoTo_values : twoTo 6 = 64 ∧ twoTo 8 = 256 ∧ twoTo 12 = 4096 ∧ twoTo 16 = 65536 ∧
    twoTo 18 = 262144 :=
  ⟨rfl, rfl, rfl, rfl, rfl⟩

theorem sextetsOf_lt (bytes : List UInt8) : ∀ n ∈ sextetsOf bytes, n < 64 := by
  obtain ⟨h6, -, h12, -, h18⟩ := twoTo_values
  fun_induction sextetsOf bytes with
  | case1 a b c rest n ih =>
    have ha := a.toNat_lt
    have hb := b.toNat_lt
    have hc := c.toNat_lt
    have hn : n = (a.toNat * 256 + b.toNat) * 256 + c.toNat := rfl
    simp only [List.forall_mem_cons, h6, h12, h18]
    exact ⟨by omega, by omega, by omega, by omega, ih⟩
  | case2 a b n =>
    have ha := a.toNat_lt
    have hb := b.toNat_lt
    have hn : n = (a.toNat * 256 + b.toNat) * 4 := rfl
    simp only [List.forall_mem_cons, h6, h12]
    exact ⟨by omega, by omega, by omega, by simp⟩
  | case3 a n =>
    have ha := a.toNat_lt
    have hn : n = a.toNat * 16 := rfl
    simp only [List.forall_mem_cons, h6]
    exact ⟨by omega, by omega, by simp⟩
  | case4 => simp

/-! ## Whole and broken groups -/

theorem ofNat_eq {a : UInt8} {n : Nat} (h : n = a.toNat) : UInt8.ofNat n = a := by
  rw [h, UInt8.ofNat_toNat]

theorem toBytes_four {w x y z : Nat} {a b c : UInt8}
    (h : ((w * 64 + x) * 64 + y) * 64 + z = (a.toNat * 256 + b.toNat) * 256 + c.toNat)
    (rest : List Nat) : toBytes (w :: x :: y :: z :: rest) = a :: b :: c :: toBytes rest := by
  obtain ⟨-, h8, -, h16, -⟩ := twoTo_values
  have hb := b.toNat_lt
  have hc := c.toNat_lt
  simp only [toBytes, h8, h16, h]
  rw [ofNat_eq (a := a) (by omega), ofNat_eq (a := b) (by omega), ofNat_eq (a := c) (by omega)]

theorem toBytes_three {x y z : Nat} {a b : UInt8}
    (h : (x * 64 + y) * 64 + z = (a.toNat * 256 + b.toNat) * 4) : toBytes [x, y, z] = [a, b] := by
  have hb := b.toNat_lt
  simp only [toBytes, h]
  rw [ofNat_eq (a := a) (by omega), ofNat_eq (a := b) (by omega)]

theorem toBytes_two {y z : Nat} {a : UInt8} (h : y * 64 + z = a.toNat * 16) :
    toBytes [y, z] = [a] := by
  simp only [toBytes, h]
  rw [ofNat_eq (a := a) (by omega)]

/-- The sextets of bytes yield the bytes. -/
theorem toBytes_sextetsOf (bytes : List UInt8) : toBytes (sextetsOf bytes) = bytes := by
  obtain ⟨h6, -, h12, -, h18⟩ := twoTo_values
  fun_induction sextetsOf bytes with
  | case1 a b c rest n ih =>
    have hn : n = (a.toNat * 256 + b.toNat) * 256 + c.toNat := rfl
    rw [toBytes_four (a := a) (b := b) (c := c) (by rw [h6, h12, h18]; omega), ih]
  | case2 a b n =>
    have hn : n = (a.toNat * 256 + b.toNat) * 4 := rfl
    exact toBytes_three (by rw [h6, h12]; omega)
  | case3 a n =>
    have hn : n = a.toNat * 16 := rfl
    exact toBytes_two (by rw [h6]; omega)
  | case4 => rfl

/-! ## Reading symbols -/

theorem sextets_symbols (offset : Nat) {ns : List Nat} (h : ∀ n ∈ ns, n < 64) :
    sextets offset (ns.map symbol) = .ok ns := by
  induction ns generalizing offset with
  | nil => rfl
  | cons n ns ih =>
    obtain ⟨hn, hns⟩ := List.forall_mem_cons.mp h
    rw [List.map_cons, sextets, (symbol_facts n hn).1]
    simp only [ih (offset + 1) hns]

theorem readTail_symbols (offset place : Nat) (before : List Nat) (text : List Char)
    {ns : List Nat} (h : ∀ n ∈ ns, n < 64) :
    readTail offset ⟨before, text, none⟩ place (ns.map symbol) =
      .ok ⟨before ++ ns, text ++ ns.map symbol, none⟩ := by
  induction ns generalizing before text place with
  | nil => simp [readTail]
  | cons n ns ih =>
    obtain ⟨hn, hns⟩ := List.forall_mem_cons.mp h
    obtain ⟨hsextet, -, hpadding, -⟩ := symbol_facts n hn
    rw [List.map_cons, readTail, if_neg (by simpa using hpadding)]
    simp only [hsextet]
    rw [ih (place + 1) (before ++ [n]) (text ++ [symbol n]) hns]
    simp only [List.append_assoc, List.singleton_append]

theorem width_symbols {ns : List Nat} (h : ∀ n ∈ ns, n < 64) :
    Utf8.width (ns.map symbol) = ns.length := by
  induction ns with
  | nil => rfl
  | cons n ns ih =>
    obtain ⟨hn, hns⟩ := List.forall_mem_cons.mp h
    rw [List.map_cons, Utf8.width_cons, (symbol_facts n hn).2.1, ih hns, List.length_cons]
    omega

theorem foreignEnd?_symbols {ns : List Nat} (h : ∀ n ∈ ns, n < 64) :
    foreignEnd? (ns.map symbol) = none := by
  unfold foreignEnd?
  split
  · rename_i c hc
    rw [List.getLast?_map, Option.map_eq_some_iff] at hc
    obtain ⟨n, hn, rfl⟩ := hc
    rw [(symbol_facts n (h n (List.mem_of_getLast? hn))).1]
    simp
  · rfl

/-- The last group has two symbols at least. -/
theorem two_le_of_tailOffset {n : Nat} (h : n % 4 ≠ 1) (hn : n ≠ 0) : 2 ≤ n - tailOffset n := by
  unfold tailOffset
  by_cases h4 : n % 4 = 0
  · rw [if_pos (beq_iff_eq.mpr h4)]
    omega
  · rw [if_neg (by simpa using h4)]
    omega

/-- Symbols are read as their sextets, if the last group is whole or has no bits left over. -/
theorem decode_symbols {ns : List Nat} (hlt : ∀ n ∈ ns, n < 64) (hlength : ns.length % 4 ≠ 1)
    (hleft : hasLeftover (ns.drop (tailOffset ns.length)) = false) :
    decode (ns.map symbol) = .ok (toBytes ns) := by
  by_cases hnil : ns = []
  · subst hnil
    rfl
  have hfront : ∀ n ∈ ns.take (tailOffset ns.length), n < 64 :=
    fun n hn => hlt n (List.mem_of_mem_take hn)
  have hback : ∀ n ∈ ns.drop (tailOffset ns.length), n < 64 :=
    fun n hn => hlt n (List.mem_of_mem_drop hn)
  have htwo : ¬ (ns.drop (tailOffset ns.length)).length < 2 := by
    rw [List.length_drop]
    exact Nat.not_lt.mpr (two_le_of_tailOffset hlength (by simpa using hnil))
  have hempty : (ns.map symbol).isEmpty = false := by simpa using hnil
  unfold decode
  rw [hempty, foreignEnd?_symbols hlt, width_symbols hlt]
  simp only [Bool.false_eq_true, if_false]
  rw [← List.map_take, sextets_symbols 0 hfront, ← List.map_drop]
  simp only [readTail_symbols (tailOffset ns.length) 0 [] [] hback, List.nil_append]
  simp only [checkTail, if_neg htwo, hleft]
  simp

/-! ## Written bytes -/

/-- The last group of written bytes is never a single symbol. -/
theorem length_sextetsOf (bytes : List UInt8) : (sextetsOf bytes).length % 4 ≠ 1 := by
  fun_induction sextetsOf bytes with
  | case1 a b c rest n ih =>
    simp only [List.length_cons]
    omega
  | case2 a b n => simp
  | case3 a n => simp
  | case4 => simp

theorem tailOffset_add_four {n : Nat} (h : n ≠ 0) : tailOffset (n + 4) = tailOffset n + 4 := by
  unfold tailOffset
  rw [Nat.add_mod_right]
  by_cases h4 : n % 4 = 0
  · rw [if_pos (beq_iff_eq.mpr h4), if_pos (beq_iff_eq.mpr h4)]
    omega
  · rw [if_neg (by simpa using h4), if_neg (by simpa using h4)]
    omega

/-- The last group of written bytes has no bits left over: the groups before it do not count. -/
theorem hasLeftover_sextetsOf (bytes : List UInt8) :
    hasLeftover ((sextetsOf bytes).drop (tailOffset (sextetsOf bytes).length)) = false := by
  fun_induction sextetsOf bytes with
  | case1 a b c rest n ih =>
    by_cases hnil : sextetsOf rest = []
    · rw [hnil]
      simp [tailOffset, hasLeftover]
    · have hpos : (sextetsOf rest).length ≠ 0 := by simpa using hnil
      simp only [List.length_cons]
      rw [tailOffset_add_four hpos]
      exact ih
  | case2 a b n =>
    have hn : n % 64 % 4 = 0 := by omega
    show (n % 64 % 4 != 0) = false
    rw [hn]
    rfl
  | case3 a n =>
    have hn : n % 64 % 16 = 0 := by omega
    show (n % 64 % 16 != 0) = false
    rw [hn]
    rfl
  | case4 => rfl

/-- **Written bytes read back.** -/
theorem decode_encode (bytes : List UInt8) : decode (encode bytes) = .ok bytes := by
  rw [encode_eq, decode_symbols (sextetsOf_lt bytes) (length_sextetsOf bytes)
    (hasLeftover_sextetsOf bytes), toBytes_sextetsOf]

/-- Different bytes are written differently. -/
theorem encode_injective {a b : List UInt8} (h : encode a = encode b) : a = b := by
  have hdecode := decode_encode a
  rw [h, decode_encode] at hdecode
  exact (Except.ok.inj hdecode).symm

/-- No dot is written, so dots can join what is. -/
theorem dot_not_mem_encode (bytes : List UInt8) : '.' ∉ encode bytes := by
  rw [encode_eq, List.mem_map]
  rintro ⟨n, hn, hdot⟩
  exact (symbol_facts n (sextetsOf_lt bytes n hn)).2.2.2 hdot

end SubsetMatch.Base64Url
