/-!
# Blank characters and trimming

The characters of Unicode's `White_Space` property, and removal of them at both ends of a text.

Results:
* `isBlank_of_isWhitespace`: every character the core library calls whitespace is blank.
* `trim_eq_nil_iff`: a text trims to nothing exactly when all of it is blank.
* `trim_of_ends`: a text that neither starts nor ends with a blank is left alone.
* `trim_padded`: blanks put around a text make no difference to its trimming.
-/

namespace SubsetMatch.Text

/-- Unicode `White_Space`. -/
def isBlank (c : Char) : Bool :=
  (9 ≤ c.val && c.val ≤ 13) || c.val == 0x20 || c.val == 0x85 || c.val == 0xA0 || c.val == 0x1680 ||
    (0x2000 ≤ c.val && c.val ≤ 0x200A) || c.val == 0x2028 || c.val == 0x2029 || c.val == 0x202F ||
    c.val == 0x205F || c.val == 0x3000

theorem isBlank_of_isWhitespace {c : Char} (h : c.isWhitespace) : isBlank c := by
  simp only [Char.isWhitespace, Bool.or_eq_true, decide_eq_true_eq] at h
  rcases h with ((rfl | rfl) | rfl) | rfl <;> decide

/-- Blanks removed from the end. -/
def trimEnd (cs : List Char) : List Char :=
  (cs.reverse.dropWhile isBlank).reverse

/-- Blanks removed from both ends. -/
def trim (cs : List Char) : List Char :=
  trimEnd (cs.dropWhile isBlank)

/-- Blanks removed from both ends of a string. -/
def trimmed (s : String) : String :=
  String.ofList (trim s.toList)

/-- Nothing but blanks. -/
def allBlank (cs : List Char) : Bool :=
  cs.all isBlank

theorem dropWhile_isBlank_eq_nil_iff {cs : List Char} :
    cs.dropWhile isBlank = [] ↔ allBlank cs := by
  induction cs with
  | nil => simp [allBlank]
  | cons c r ih => by_cases h : isBlank c <;> simp_all [allBlank]

theorem trimEnd_eq_nil_iff {cs : List Char} : trimEnd cs = [] ↔ allBlank cs := by
  rw [trimEnd, List.reverse_eq_nil_iff, dropWhile_isBlank_eq_nil_iff]
  simp [allBlank]

theorem trim_eq_nil_iff {cs : List Char} : trim cs = [] ↔ allBlank cs := by
  rw [trim, trimEnd_eq_nil_iff]
  induction cs with
  | nil => simp
  | cons c r ih =>
    by_cases h : isBlank c
    · simpa [allBlank, h] using ih
    · simp [allBlank, h]

theorem trimEnd_of_end {cs : List Char} {c : Char} (h : isBlank c = false) :
    trimEnd (cs ++ [c]) = cs ++ [c] := by
  simp [trimEnd, h]

/-- A text whose first and last characters are not blank is its own trimming. -/
theorem trim_of_ends {cs : List Char} (hfirst : ∀ c, cs.head? = some c → isBlank c = false)
    (hlast : ∀ c, cs.getLast? = some c → isBlank c = false) : trim cs = cs := by
  cases cs with
  | nil => rfl
  | cons c r =>
    have hc : isBlank c = false := hfirst c rfl
    have hne : c :: r ≠ [] := by simp
    rw [trim, List.dropWhile_cons, hc]
    simp only [Bool.false_eq_true, if_false]
    rw [← List.dropLast_concat_getLast hne]
    exact trimEnd_of_end (hlast _ (List.getLast?_eq_some_getLast hne))

/-- Blanks put around a text make no difference to its trimming. -/
theorem trim_padded {before after : List Char} (hbefore : allBlank before) (hafter : allBlank after)
    (cs : List Char) : trim (before ++ (cs ++ after)) = trim cs := by
  have hfront : (before ++ (cs ++ after)).dropWhile isBlank = (cs ++ after).dropWhile isBlank :=
    List.dropWhile_append_of_pos (List.all_eq_true.mp hbefore)
  rw [trim, trim, hfront, List.dropWhile_append]
  split
  · rename_i hcs
    rw [List.isEmpty_iff.mp hcs, dropWhile_isBlank_eq_nil_iff.mpr hafter]
  · have hback : ∀ c ∈ after.reverse, isBlank c = true := fun c hc =>
      List.all_eq_true.mp hafter c (List.mem_reverse.mp hc)
    rw [trimEnd, trimEnd, List.reverse_append, List.dropWhile_append_of_pos hback]

end SubsetMatch.Text
