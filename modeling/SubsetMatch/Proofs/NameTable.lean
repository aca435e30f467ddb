import Mathlib.Data.List.Sort
import SubsetMatch.NameTable

/-!
# The names in a table

A table lists its names in order and each once. So names that are bound in one of two tables exactly
if they are in the other are listed alike, and a list of different names that are just the bound
ones has as many as the table.

Results:
* `mem_names_iff`: a name is listed iff a look-up finds it.
* `names_eq_of_mem_iff`: tables that bind the same names list them alike.
* `names_perm`: a list of the bound names, each once, is the list of the table but for the order.
-/

namespace SubsetMatch.NameTable

variable {α β : Type} {t : NameTable α} {name : String}

theorem pairwise_names (t : NameTable α) : t.names.Pairwise (· < ·) :=
  List.pairwise_map.mpr t.sorted

theorem nodup_names (t : NameTable α) : t.names.Nodup :=
  t.pairwise_names.imp fun hlt => String.ne_of_lt hlt

theorem get?_of_mem {a : α} (h : (name, a) ∈ t.entries) : t.get? name = some a :=
  Entries.find?_of_mem t.nodup_names h

/-- A name is listed iff a look-up finds it. -/
theorem mem_names_iff : name ∈ t.names ↔ ∃ a, t.get? name = some a := by
  constructor
  · intro h
    obtain ⟨⟨key, a⟩, hmem, rfl⟩ := List.mem_map.mp h
    exact ⟨a, get?_of_mem hmem⟩
  · rintro ⟨a, h⟩
    exact List.mem_map.mpr ⟨_, Entries.mem_of_find? h, rfl⟩

/-- **Tables that bind the same names list them alike.** -/
theorem names_eq_of_mem_iff {s : NameTable β} (h : ∀ name, name ∈ t.names ↔ name ∈ s.names) :
    t.names = s.names := by
  have hperm : t.names.Perm s.names :=
    (List.perm_ext_iff_of_nodup t.nodup_names s.nodup_names).mpr h
  exact hperm.eq_of_pairwise (fun a b _ _ hab hba => absurd (String.lt_trans hab hba)
    (String.lt_irrefl a)) t.pairwise_names s.pairwise_names

/-- **A list of the bound names**, each once, is the list of the table but for the order. -/
theorem names_perm {names : List String} (hnames : names.Nodup)
    (h : ∀ name, (∃ a, t.get? name = some a) ↔ name ∈ names) : t.names.Perm names :=
  (List.perm_ext_iff_of_nodup t.nodup_names hnames).mpr fun name => mem_names_iff.trans (h name)

theorem length_names (t : NameTable α) : t.names.length = t.size :=
  List.length_map _

end SubsetMatch.NameTable
