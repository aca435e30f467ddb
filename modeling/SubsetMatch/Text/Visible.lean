import SubsetMatch.Unicode.Property

/-!
# Visible text

A string between double quotes in which every character shows: what leaves no mark of its own is
written as an escape.

Results:
* `visibleChar_ne_nil`: no character is lost.
-/

namespace SubsetMatch.Text

open Unicode

/-- The characters that leave no mark of their own; the blank is none of them. -/
def invisible : CharSet :=
  ((categories ["Cc", "Cf", "Cs", "Co", "Cn", "Zl", "Zp", "Zs"]).union graphemeExtend).diff
    (.single ' ')

/-- A character as it is shown. -/
def visibleChar (c : Char) : List Char :=
  if c == '\x00' then ['\\', '0']
  else if c == '\t' then ['\\', 't']
  else if c == '\r' then ['\\', 'r']
  else if c == '\n' then ['\\', 'n']
  else if c == '"' then ['\\', '"']
  else if c == '\\' then ['\\', '\\']
  else if invisible.has c then
    ['\\', 'u', '\x7b'] ++ Nat.toDigits 16 c.toNat ++ ['\x7d']
  else [c]

/-- A string as it is shown. -/
def visible (s : String) : List Char :=
  '"' :: (s.toList.flatMap visibleChar ++ ['"'])

theorem visibleChar_ne_nil (c : Char) : visibleChar c ≠ [] := by
  unfold visibleChar
  repeat' split
  all_goals simp

end SubsetMatch.Text
