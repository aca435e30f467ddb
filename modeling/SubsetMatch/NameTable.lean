import SubsetMatch.Entries

/-!
# Tables of names

A table binds names to values and lists them in the order of their code points, so two tables with
the same bindings are equal whatever was bound or dropped in between. The program keeps its
functions, tokens and compiled patterns in hash maps and sorts names when it lists them, so no order
in which they are stored ever shows.

Results:
* `get?_empty`, `get?_insert`, `get?_erase`: what a look-up finds after each operation.
* `ext_get?`: tables that answer every look-up alike are equal.
-/

namespace SubsetMatch

/-- Bindings in strictly increasing order of names. -/
structure NameTable (α : Type) where
  entries : List (String × α)
  sorted : entries.Pairwise fun a b => a.1 < b.1

namespace NameTable

variable {α : Type}

/-- The table without bindings. -/
def empty : NameTable α :=
  ⟨[], List.Pairwise.nil⟩

/-- A binding put in its place, instead of an earlier one of the same name. -/
def insertEntry (name : String) (a : α) : List (String × α) → List (String × α)
  | [] => [(name, a)]
  | (k, b) :: rest =>
    if name < k then (name, a) :: (k, b) :: rest
    else if k < name then (k, b) :: insertEntry name a rest
    else (name, a) :: rest

theorem name_eq_of_not_lt {a b : String} (h1 : ¬a < b) (h2 : ¬b < a) : a = b :=
  String.le_antisymm (String.not_lt.1 h2) (String.not_lt.1 h1)

theorem mem_insertEntry {name : String} {a : α} {entries : List (String × α)} {e : String × α}
    (h : e ∈ insertEntry name a entries) : e.1 = name ∨ e ∈ entries := by
  induction entries with
  | nil =>
    simp only [insertEntry, List.mem_singleton] at h
    exact .inl (by rw [h])
  | cons x rest ih =>
    obtain ⟨k, b⟩ := x
    rw [insertEntry] at h
    split at h
    · rcases List.mem_cons.1 h with rfl | h
      · exact .inl rfl
      · exact .inr h
    · split at h
      · rcases List.mem_cons.1 h with rfl | h
        · exact .inr (List.mem_cons_self ..)
        · rcases ih h with h | h
          · exact .inl h
          · exact .inr (List.mem_cons_of_mem _ h)
      · rcases List.mem_cons.1 h with rfl | h
        · exact .inl rfl
        · exact .inr (List.mem_cons_of_mem _ h)

theorem insertEntry_sorted {name : String} {a : α} {entries : List (String × α)}
    (h : entries.Pairwise fun a b => a.1 < b.1) :
    (insertEntry name a entries).Pairwise fun a b => a.1 < b.1 := by
  induction entries with
  | nil => simp [insertEntry]
  | cons x rest ih =>
    obtain ⟨k, b⟩ := x
    obtain ⟨hk, hrest⟩ := List.pairwise_cons.1 h
    rw [insertEntry]
    split
    · rename_i hlt
      refine List.pairwise_cons.2 ⟨fun e he => ?_, h⟩
      rcases List.mem_cons.1 he with rfl | he
      · exact hlt
      · exact String.lt_trans hlt (hk e he)
    · split
      · rename_i hlt
        refine List.pairwise_cons.2 ⟨fun e he => ?_, ih hrest⟩
        rcases mem_insertEntry he with he | he
        · rw [he]
          exact hlt
        · exact hk e he
      · rename_i h1 h2
        have heq : name = k := name_eq_of_not_lt h1 h2
        refine List.pairwise_cons.2 ⟨fun e he => ?_, hrest⟩
        show name < e.1
        rw [heq]
        exact hk e he

/-- A name bound, instead of any earlier binding. -/
def insert (t : NameTable α) (name : String) (a : α) : NameTable α :=
  ⟨insertEntry name a t.entries, insertEntry_sorted t.sorted⟩

/-- A name no longer bound. -/
def erase (t : NameTable α) (name : String) : NameTable α :=
  ⟨t.entries.filter fun e => e.1 != name, t.sorted.filter _⟩

/-- What a name is bound to. -/
def get? (t : NameTable α) (name : String) : Option α :=
  Entries.find? name t.entries

/-- Whether a name is bound. -/
def contains (t : NameTable α) (name : String) : Bool :=
  (t.get? name).isSome

/-- The bound names, in order. -/
def names (t : NameTable α) : List String :=
  t.entries.map Prod.fst

/-- The number of bindings. -/
def size (t : NameTable α) : Nat :=
  t.entries.length

/-- Whether no name is bound. -/
def isEmpty (t : NameTable α) : Bool :=
  t.entries.isEmpty

@[simp] theorem get?_empty (name : String) : (empty : NameTable α).get? name = none := rfl

theorem find?_insertEntry (name key : String) (a : α) (entries : List (String × α)) :
    Entries.find? key (insertEntry name a entries) =
      if name = key then some a else Entries.find? key entries := by
  induction entries with
  | nil => rfl
  | cons x rest ih =>
    obtain ⟨k, b⟩ := x
    rw [insertEntry]
    split
    · rfl
    · split
      · rename_i _ hlt
        rw [Entries.find?_cons, Entries.find?_cons, ih]
        by_cases hk : k = key
        · have hne : name ≠ key := fun he => by
            rw [he, hk] at hlt
            exact String.lt_irrefl _ hlt
          simp [hk, hne]
        · simp [hk]
      · rename_i h1 h2
        have heq : name = k := name_eq_of_not_lt h1 h2
        rw [Entries.find?_cons, Entries.find?_cons, ← heq]
        by_cases h : name = key <;> simp [h]

theorem get?_insert (t : NameTable α) (name key : String) (a : α) :
    (t.insert name a).get? key = if name = key then some a else t.get? key :=
  find?_insertEntry name key a t.entries

theorem get?_erase (t : NameTable α) (name key : String) :
    (t.erase name).get? key = if name = key then none else t.get? key := by
  obtain ⟨entries, sorted⟩ := t
  simp only [erase, get?]
  clear sorted
  induction entries with
  | nil => simp
  | cons x rest ih =>
    obtain ⟨k, b⟩ := x
    rw [List.filter_cons, Entries.find?_cons]
    by_cases hk : k = name
    · simp only [hk, bne_self_eq_false, Bool.false_eq_true, if_false, ih]
      by_cases h : name = key <;> simp [h]
    · simp only [bne_iff_ne, ne_eq, hk, not_false_eq_true, if_true, Entries.find?_cons, ih]
      by_cases h : name = key
      · simp [← h, hk]
      · simp [h]

theorem find?_eq_none_of_lt {key : String} {entries : List (String × α)}
    (h : ∀ e ∈ entries, key < e.1) : Entries.find? key entries = none :=
  Entries.find?_eq_none_iff.2 fun e he heq => by
    have := h e he
    rw [heq] at this
    exact String.lt_irrefl _ this

theorem entries_ext {a b : List (String × α)} (ha : a.Pairwise fun x y => x.1 < y.1)
    (hb : b.Pairwise fun x y => x.1 < y.1)
    (h : ∀ key, Entries.find? key a = Entries.find? key b) : a = b := by
  induction a generalizing b with
  | nil =>
    cases b with
    | nil => rfl
    | cons y b =>
      have := h y.1
      simp [Entries.find?] at this
  | cons x a ih =>
    obtain ⟨kx, vx⟩ := x
    obtain ⟨hxa, ha'⟩ := List.pairwise_cons.1 ha
    cases b with
    | nil =>
      have := h kx
      simp [Entries.find?] at this
    | cons y b =>
      obtain ⟨ky, vy⟩ := y
      obtain ⟨hyb, hb'⟩ := List.pairwise_cons.1 hb
      have hkey : kx = ky := by
        refine name_eq_of_not_lt (fun hlt => ?_) fun hlt => ?_
        · have h2 : Entries.find? kx ((ky, vy) :: b) = none :=
            find?_eq_none_of_lt fun e he => by
              rcases List.mem_cons.1 he with rfl | he
              · exact hlt
              · exact String.lt_trans hlt (hyb e he)
          have h1 := h kx
          rw [h2, Entries.find?_cons] at h1
          simp at h1
        · have h2 : Entries.find? ky ((kx, vx) :: a) = none :=
            find?_eq_none_of_lt fun e he => by
              rcases List.mem_cons.1 he with rfl | he
              · exact hlt
              · exact String.lt_trans hlt (hxa e he)
          have h1 := h ky
          rw [h2, Entries.find?_cons] at h1
          simp at h1
      subst hkey
      have hval := h kx
      simp only [Entries.find?_cons, if_true, Option.some.injEq] at hval
      subst hval
      have hrest : ∀ key, Entries.find? key a = Entries.find? key b := fun key => by
        by_cases hk : kx = key
        · rw [← hk, find?_eq_none_of_lt hxa, find?_eq_none_of_lt hyb]
        · simpa [Entries.find?_cons, hk] using h key
      rw [ih ha' hb' hrest]

/-- Tables that answer every look-up alike are equal. -/
theorem ext_get? {s t : NameTable α} (h : ∀ key, s.get? key = t.get? key) : s = t := by
  obtain ⟨a, ha⟩ := s
  obtain ⟨b, hb⟩ := t
  have : a = b := entries_ext ha hb h
  subst this
  rfl

end NameTable

end SubsetMatch
