import SubsetMatch.Comparator

/-!
# The walk over objects and lists

An object is matched when every member of the needle is found and matched, a list when its elements
are matched one by one. Where the walk fails, some member or element is to blame, and a part of the
haystack that is missing or different is always the haystack's own fault.

Results:
* `members_eq_ok_iff`, `items_eq_ok_iff`: the walk succeeds iff it does at every part.
* `members_eq_error`, `items_eq_error`: a failure is that of one part.
* `members_append`, `items_append`: parts are walked over in order.
* `kind_of_address`, `kind_of_leaf`: looking for a member and comparing leaves give mismatches only.
-/

namespace SubsetMatch

/-! ## Parts of the haystack -/

theorem kind_of_listAt {actual : Members} {base : String} {path : KeyPath} {f : Failure}
    (h : listAt actual base path = .error f) : f.kind = .mismatch := by
  unfold listAt at h
  split at h
  · cases h
    rfl
  · cases h
  · cases h
    rfl

theorem kind_of_addressList {actual : Members} {path : KeyPath} {s : KeySelector} {f : Failure}
    (h : addressList actual path s = .error f) : f.kind = .mismatch := by
  cases s with
  | plain key =>
    cases h
    rfl
  | wholeList base =>
    rw [addressList] at h
    split at h
    · rename_i hl
      cases h
      exact kind_of_listAt hl
    · cases h
  | element base position =>
    rw [addressList] at h
    split at h
    · rename_i hl
      cases h
      exact kind_of_listAt hl
    · split at h
      · cases h
        rfl
      · cases h

/-- A member that is not found is a mismatch. -/
theorem kind_of_address {actual : Members} {key : String} {path : KeyPath} {f : Failure}
    (h : address actual key path = .error f) : f.kind = .mismatch := by
  unfold address at h
  split at h
  · cases h
  · exact kind_of_addressList h

/-- A plain key finds its member or nothing. -/
theorem address_plain {actual : Members} {key : String} {path : KeyPath}
    (hkey : KeySelector.ofKey key = .plain key) :
    address actual key path =
      match Value.get? actual key with
      | some v => .ok ⟨v, path.key key⟩
      | none => .error ⟨path, .missingKey key⟩ := by
  rw [address, hkey]
  rfl

namespace Comparator

variable {E : Primitives} {c : Comparator}

/-- A leaf that differs is a mismatch. -/
theorem kind_of_leaf {needle haystack : Value} {path : KeyPath} {f : Failure}
    (h : leaf needle haystack path = .error f) : f.kind = .mismatch := by
  unfold leaf at h
  split at h
  · cases h
  · cases h
    rfl

/-! ## Members -/

/-- **An object is matched iff every member of the needle is found and matched.** -/
theorem members_eq_ok_iff {expected actual : Members} {path : KeyPath} :
    members E c expected actual path = .ok () ↔
      ∀ m ∈ expected, ∃ t, address actual m.1 path = .ok t ∧
        node E c m.2 t.value t.path = .ok () := by
  induction expected with
  | nil => simp [members_nil]
  | cons m rest ih =>
    obtain ⟨key, needle⟩ := m
    rw [members_cons, List.forall_mem_cons, ← ih]
    cases ha : address actual key path with
    | error f => simp
    | ok t =>
      cases hn : node E c needle t.value t.path with
      | error f => simp [hn]
      | ok u => simp [hn]

/-- A failure below an object is that of a member. -/
theorem members_eq_error {expected actual : Members} {path : KeyPath} {f : Failure}
    (h : members E c expected actual path = .error f) :
    ∃ m ∈ expected, address actual m.1 path = .error f ∨
      ∃ t, address actual m.1 path = .ok t ∧ node E c m.2 t.value t.path = .error f := by
  induction expected with
  | nil => simp [members_nil] at h
  | cons m rest ih =>
    obtain ⟨key, needle⟩ := m
    rw [members_cons] at h
    split at h
    · rename_i ha
      cases h
      exact ⟨_, List.mem_cons_self, .inl ha⟩
    · rename_i t ha
      split at h
      · rename_i hn
        cases h
        exact ⟨_, List.mem_cons_self, .inr ⟨t, ha, hn⟩⟩
      · obtain ⟨m, hm, hf⟩ := ih h
        exact ⟨m, List.mem_cons_of_mem _ hm, hf⟩

/-- The members of one list come before those of the next. -/
theorem members_append (first rest actual : Members) (path : KeyPath) :
    members E c (first ++ rest) actual path =
      match members E c first actual path with
      | .error f => .error f
      | .ok () => members E c rest actual path := by
  induction first with
  | nil => simp [members_nil]
  | cons m first ih =>
    obtain ⟨key, needle⟩ := m
    rw [List.cons_append, members_cons, members_cons, ih]
    cases address actual key path with
    | error f => rfl
    | ok t =>
      simp only
      cases node E c needle t.value t.path with
      | error f => rfl
      | ok u => rfl

/-! ## Elements -/

/-- **Lists are matched iff the elements at the same positions are.** -/
theorem items_eq_ok_iff {expected actual : List Value} {position : Nat} {path : KeyPath} :
    items E c expected actual position path = .ok () ↔
      ∀ i needle haystack, expected[i]? = some needle → actual[i]? = some haystack →
        node E c needle haystack (path.index (position + i)) = .ok () := by
  induction expected generalizing actual position with
  | nil => simp [items]
  | cons needle expected ih =>
    cases actual with
    | nil => simp [items]
    | cons haystack actual =>
      rw [items_cons]
      constructor
      · intro h i n v hn hv
        split at h
        · cases h
        · rename_i u hnode
          cases i with
          | zero =>
            obtain rfl : needle = n := by simpa using hn
            obtain rfl : haystack = v := by simpa using hv
            exact hnode
          | succ i =>
            have hrest := ih.mp h i n v (by simpa using hn) (by simpa using hv)
            rwa [show position + 1 + i = position + (i + 1) by omega] at hrest
      · intro h
        have hfirst := h 0 needle haystack rfl rfl
        rw [Nat.add_zero] at hfirst
        rw [hfirst]
        refine ih.mpr fun i n v hn hv => ?_
        rw [show position + 1 + i = position + (i + 1) by omega]
        exact h (i + 1) n v (by simpa using hn) (by simpa using hv)

/-- A failure below a list is that of an element. -/
theorem items_eq_error {expected actual : List Value} {position : Nat} {path : KeyPath}
    {f : Failure} (h : items E c expected actual position path = .error f) :
    ∃ i needle haystack, expected[i]? = some needle ∧ actual[i]? = some haystack ∧
      node E c needle haystack (path.index (position + i)) = .error f := by
  induction expected generalizing actual position with
  | nil => simp [items] at h
  | cons needle expected ih =>
    cases actual with
    | nil => simp [items] at h
    | cons haystack actual =>
      rw [items_cons] at h
      split at h
      · rename_i hn
        cases h
        exact ⟨0, needle, haystack, rfl, rfl, hn⟩
      · obtain ⟨i, n, v, hn, hv, hf⟩ := ih h
        refine ⟨i + 1, n, v, by simpa using hn, by simpa using hv, ?_⟩
        rwa [show position + (i + 1) = position + 1 + i by omega]

/-- The elements of one list come before those of the next. -/
theorem items_append {first first' : List Value} (hlength : first.length = first'.length)
    (rest rest' : List Value) (position : Nat) (path : KeyPath) :
    items E c (first ++ rest) (first' ++ rest') position path =
      match items E c first first' position path with
      | .error f => .error f
      | .ok () => items E c rest rest' (position + first.length) path := by
  induction first generalizing first' position with
  | nil =>
    obtain rfl : first' = [] := List.length_eq_zero_iff.mp hlength.symm
    simp [items]
  | cons needle first ih =>
    cases first' with
    | nil => simp at hlength
    | cons haystack first' =>
      have hposition : position + (first.length + 1) = position + 1 + first.length := by omega
      rw [List.cons_append, List.cons_append, items_cons, items_cons,
        ih (by simpa using hlength), List.length_cons, hposition]
      cases node E c needle haystack (path.index position) with
      | error f => rfl
      | ok u => rfl

end Comparator

end SubsetMatch
