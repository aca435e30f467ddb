/-!
# Lists of named entries

Results:
* `find?_cons`: a look-up answers with the first entry of that name.
* `mem_of_find?`: what a look-up finds is listed.
* `find?_of_mem`: among different names, what is listed is found.
* `find?_eq_none_iff`: a look-up finds nothing exactly when the name is not listed.
-/

namespace SubsetMatch.Entries

variable {α : Type}

/-- The first value listed under a name. -/
def find? (name : String) : List (String × α) → Option α
  | [] => none
  | (k, a) :: rest => if k = name then some a else find? name rest

@[simp] theorem find?_nil (name : String) : find? name ([] : List (String × α)) = none := rfl

theorem find?_cons (name k : String) (a : α) (rest : List (String × α)) :
    find? name ((k, a) :: rest) = if k = name then some a else find? name rest := rfl

theorem mem_of_find? {name : String} {a : α} {entries : List (String × α)}
    (h : find? name entries = some a) : (name, a) ∈ entries := by
  induction entries with
  | nil => simp at h
  | cons e rest ih =>
    obtain ⟨k, b⟩ := e
    rw [find?_cons] at h
    split at h
    · rename_i hk
      simp only [Option.some.injEq] at h
      rw [hk, h]
      exact List.mem_cons_self ..
    · exact List.mem_cons_of_mem _ (ih h)

theorem find?_of_mem {name : String} {a : α} {entries : List (String × α)}
    (hnames : (entries.map Prod.fst).Nodup) (h : (name, a) ∈ entries) :
    find? name entries = some a := by
  induction entries with
  | nil => simp at h
  | cons e rest ih =>
    obtain ⟨k, b⟩ := e
    obtain ⟨hk, hrest⟩ := List.nodup_cons.1 hnames
    rw [find?_cons]
    rcases List.mem_cons.1 h with heq | h
    · cases heq
      rw [if_pos rfl]
    · have hne : k ≠ name := by
        rintro rfl
        exact hk (List.mem_map.2 ⟨_, h, rfl⟩)
      rw [if_neg hne]
      exact ih hrest h

theorem find?_eq_none_iff {name : String} {entries : List (String × α)} :
    find? name entries = none ↔ ∀ e ∈ entries, e.1 ≠ name := by
  induction entries with
  | nil => simp
  | cons e rest ih =>
    obtain ⟨k, b⟩ := e
    rw [find?_cons]
    by_cases hk : k = name
    · simp [hk]
    · simp [hk, ih]

end SubsetMatch.Entries
