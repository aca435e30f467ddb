/-!
# Sets of characters

A set of code points is kept as the increasing list of the points at which membership changes,
starting outside: `[97, 123]` are the letters from `a` to `z`. Every operation on sets is one sweep
over both lists.

Results:
* `contains_combine`: a combination holds of a character as its parts do.
* `contains_compl`: the complement of a set holds of the other characters.
* `contains_range`: a range holds of the characters between its ends.
-/

namespace SubsetMatch.Unicode

/-- A set of code points, given by those at which membership changes. -/
structure CharSet where
  changes : List Nat
deriving DecidableEq, Repr

namespace CharSet

/-- Membership at a point, if it is `inside` before the first change. -/
def stateAt (inside : Bool) : List Nat → Nat → Bool
  | [], _ => inside
  | x :: xs, n => if n < x then inside else stateAt (!inside) xs n

/-- Whether a code point is in a set. -/
def contains (s : CharSet) (n : Nat) : Bool :=
  stateAt false s.changes n

/-- Whether a character is in a set. -/
def has (s : CharSet) (c : Char) : Bool :=
  s.contains c.toNat

/-- The set without members. -/
def empty : CharSet :=
  ⟨[]⟩

/-- The first number that is no code point. -/
def limit : Nat := 0x110000

/-- All code points. -/
def all : CharSet :=
  ⟨[0, limit]⟩

/-- The code points from the first to the last. -/
def range (first last : Nat) : CharSet :=
  if first ≤ last then ⟨[first, last + 1]⟩ else empty

/-- A single character. -/
def single (c : Char) : CharSet :=
  range c.toNat c.toNat

/-- A change at a point, if the state there is another one than before. -/
def changeIf (before after : Bool) (point : Nat) (rest : List Nat) : List Nat :=
  if before == after then rest else point :: rest

/-- The changes of a combination of two sets whose states are `x` and `y` so far. -/
def sweep (f : Bool → Bool → Bool) (x y : Bool) : List Nat → List Nat → List Nat
  | [], [] => []
  | a :: as, [] => changeIf (f x y) (f (!x) y) a (sweep f (!x) y as [])
  | [], b :: bs => changeIf (f x y) (f x !y) b (sweep f x (!y) [] bs)
  | a :: as, b :: bs =>
    if a < b then changeIf (f x y) (f (!x) y) a (sweep f (!x) y as (b :: bs))
    else if b < a then changeIf (f x y) (f x !y) b (sweep f x (!y) (a :: as) bs)
    else changeIf (f x y) (f (!x) !y) a (sweep f (!x) (!y) as bs)
termination_by as bs => as.length + bs.length

/-- The set of the points at which the combined membership holds. -/
def combine (f : Bool → Bool → Bool) (s t : CharSet) : CharSet :=
  ⟨sweep f false false s.changes t.changes⟩

/-- The points of either set. -/
def union (s t : CharSet) : CharSet :=
  combine or s t

/-- The points of both sets. -/
def inter (s t : CharSet) : CharSet :=
  combine and s t

/-- The points of the first set that the second lacks. -/
def diff (s t : CharSet) : CharSet :=
  combine (fun x y => x && !y) s t

/-- The points of exactly one set. -/
def symmDiff (s t : CharSet) : CharSet :=
  combine xor s t

/-- The code points outside of a set. -/
def compl (s : CharSet) : CharSet :=
  all.diff s

/-- The points of any of the sets. -/
def unions (ss : List CharSet) : CharSet :=
  ss.foldr union empty

theorem stateAt_of_lt {x : Bool} {as : List Nat} {n : Nat} (h : ∀ a ∈ as, n < a) :
    stateAt x as n = x := by
  cases as with
  | nil => rfl
  | cons a as => rw [stateAt, if_pos (h a (List.mem_cons_self ..))]

theorem stateAt_changeIf (x z : Bool) (a n : Nat) (rest : List Nat) :
    stateAt x (changeIf x z a rest) n =
      if n < a then (if x = z then stateAt z rest n else x) else stateAt z rest n := by
  cases x <;> cases z <;> simp [changeIf, stateAt]

theorem stateAt_sweep {f : Bool → Bool → Bool} {x y : Bool} {as bs : List Nat} {n : Nat}
    (ha : as.Pairwise (· < ·)) (hb : bs.Pairwise (· < ·)) :
    stateAt (f x y) (sweep f x y as bs) n = f (stateAt x as n) (stateAt y bs n) := by
  fun_induction sweep f x y as bs with
  | case1 => rfl
  | case2 x y a as ih =>
    obtain ⟨h1, h2⟩ := List.pairwise_cons.1 ha
    rw [stateAt_changeIf, ih h2 hb]
    by_cases hn : n < a
    · have h0 : stateAt (!x) as n = !x := stateAt_of_lt fun c hc => Nat.lt_trans hn (h1 c hc)
      rw [h0]
      by_cases he : f x y = f (!x) y <;> simp [hn, he, stateAt]
    · simp [hn, stateAt]
  | case3 x y b bs ih =>
    obtain ⟨h1, h2⟩ := List.pairwise_cons.1 hb
    rw [stateAt_changeIf, ih ha h2]
    by_cases hn : n < b
    · have h0 : stateAt (!y) bs n = !y := stateAt_of_lt fun c hc => Nat.lt_trans hn (h1 c hc)
      rw [h0]
      by_cases he : f x y = f x !y <;> simp [hn, he, stateAt]
    · simp [hn, stateAt]
  | case4 x y a as b bs hab ih =>
    obtain ⟨h1, h2⟩ := List.pairwise_cons.1 ha
    rw [stateAt_changeIf, ih h2 hb]
    by_cases hn : n < a
    · have h0 : stateAt (!x) as n = !x := stateAt_of_lt fun c hc => Nat.lt_trans hn (h1 c hc)
      have hnb : n < b := Nat.lt_trans hn hab
      rw [h0]
      by_cases he : f x y = f (!x) y <;> simp [hn, hnb, he, stateAt]
    · simp [hn, stateAt]
  | case5 x y a as b bs hab hba ih =>
    obtain ⟨h1, h2⟩ := List.pairwise_cons.1 hb
    rw [stateAt_changeIf, ih ha h2]
    by_cases hn : n < b
    · have h0 : stateAt (!y) bs n = !y := stateAt_of_lt fun c hc => Nat.lt_trans hn (h1 c hc)
      have hna : n < a := Nat.lt_trans hn hba
      rw [h0]
      by_cases he : f x y = f x !y <;> simp [hn, hna, he, stateAt]
    · simp [hn, stateAt]
  | case6 x y a as b bs hab hba ih =>
    obtain ⟨h1, h2⟩ := List.pairwise_cons.1 ha
    obtain ⟨h3, h4⟩ := List.pairwise_cons.1 hb
    have heq : a = b := by omega
    subst heq
    rw [stateAt_changeIf, ih h2 h4]
    by_cases hn : n < a
    · have h0 : stateAt (!x) as n = !x := stateAt_of_lt fun c hc => Nat.lt_trans hn (h1 c hc)
      have h5 : stateAt (!y) bs n = !y := stateAt_of_lt fun c hc => Nat.lt_trans hn (h3 c hc)
      rw [h0, h5]
      by_cases he : f x y = f (!x) !y <;> simp [hn, he, stateAt]
    · simp [hn, stateAt]

/-- A combination holds of a point as its parts do. -/
theorem contains_combine {f : Bool → Bool → Bool} (hf : f false false = false) {s t : CharSet}
    (hs : s.changes.Pairwise (· < ·)) (ht : t.changes.Pairwise (· < ·)) (n : Nat) :
    (combine f s t).contains n = f (s.contains n) (t.contains n) := by
  have h := stateAt_sweep (f := f) (x := false) (y := false) (n := n) hs ht
  rw [hf] at h
  exact h

theorem contains_range (first last n : Nat) :
    (range first last).contains n = (decide (first ≤ n) && decide (n ≤ last)) := by
  unfold range
  split
  · by_cases h1 : n < first
    · have : ¬first ≤ n := by omega
      simp [contains, stateAt, h1, this]
    · by_cases h2 : n < last + 1
      · have h3 : first ≤ n := by omega
        have h4 : n ≤ last := by omega
        simp [contains, stateAt, h1, h2, h3, h4]
      · have h4 : ¬n ≤ last := by omega
        simp [contains, stateAt, h1, h2, h4]
  · by_cases h1 : first ≤ n
    · have : ¬n ≤ last := by omega
      simp [contains, stateAt, empty, this]
    · simp [contains, stateAt, empty, h1]

theorem contains_compl {s : CharSet} (hs : s.changes.Pairwise (· < ·)) {n : Nat}
    (hn : n < limit) : s.compl.contains n = !s.contains n := by
  have hall : all.changes.Pairwise (· < ·) := by decide
  rw [compl, diff, contains_combine rfl hall hs]
  have : all.contains n = true := by simp [all, contains, stateAt, hn]
  simp [this]

end CharSet

end SubsetMatch.Unicode
