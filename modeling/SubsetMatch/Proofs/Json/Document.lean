import SubsetMatch.Directive.Scan
import SubsetMatch.Json.Value

/-!
# Parts of documents

A document has parts: itself, and the parts of its elements and members. What is said of a whole
document, of its keys or of its strings, is said of each of its parts, and so it passes down to
elements and members.

Results:
* `inductionOn`: what holds of a document whenever it holds of its elements and members holds of
  every document.
* `KeysOnce`, `keysOnce_settle`: in a document that has been read, no object has a key twice.
* `IsPlain.element`, `IsPlain.member`: the elements and members of a plain document are plain.
-/

namespace SubsetMatch.Value

theorem size_pos (v : Value) : 0 < v.size := by
  cases v <;> simp [size]

theorem size_lt_of_mem_items {v : Value} {items : List Value} (h : v ∈ items) :
    v.size < sizeItems items := by
  induction items with
  | nil => simp at h
  | cons w items ih =>
    rw [sizeItems]
    rcases List.mem_cons.mp h with rfl | h
    · omega
    · have := ih h
      omega

theorem size_lt_of_mem_members {m : String × Value} {members : Members} (h : m ∈ members) :
    m.2.size < sizeMembers members := by
  induction members with
  | nil => simp at h
  | cons n members ih =>
    rw [sizeMembers]
    rcases List.mem_cons.mp h with rfl | h
    · omega
    · have := ih h
      omega

/-- Induction over documents, with a case for each shape. -/
@[elab_as_elim]
theorem inductionOn {motive : Value → Prop} (null : motive null) (bool : ∀ b, motive (bool b))
    (number : ∀ n, motive (number n)) (string : ∀ s, motive (string s))
    (array : ∀ items, (∀ v ∈ items, motive v) → motive (array items))
    (object : ∀ members : Members, (∀ m ∈ members, motive m.2) → motive (object members)) :
    ∀ v, motive v
  | .null => null
  | .bool b => bool b
  | .number n => number n
  | .string s => string s
  | .array items => array items fun v _ => inductionOn null bool number string array object v
  | .object members =>
    object members fun m _ => inductionOn null bool number string array object m.2
termination_by v => v.size
decreasing_by
  · exact Nat.lt_succ_of_lt (size_lt_of_mem_items (by assumption))
  · exact Nat.lt_succ_of_lt (size_lt_of_mem_members (by assumption))

/-! ## Parts -/

mutual
/-- A document and everything in it. -/
def parts : Value → List Value
  | array items => array items :: partsOfItems items
  | object members => object members :: partsOfMembers members
  | v => [v]

/-- Everything in some documents. -/
def partsOfItems : List Value → List Value
  | [] => []
  | v :: items => v.parts ++ partsOfItems items

/-- Everything in some members. -/
def partsOfMembers : List (String × Value) → List Value
  | [] => []
  | (_, v) :: members => v.parts ++ partsOfMembers members
end

variable {v w : Value} {items : List Value} {members : Members}

theorem mem_partsOfItems : w ∈ partsOfItems items ↔ ∃ v ∈ items, w ∈ v.parts := by
  induction items with
  | nil => simp [partsOfItems]
  | cons v items ih => simp [partsOfItems, ih]

theorem mem_partsOfMembers : w ∈ partsOfMembers members ↔ ∃ m ∈ members, w ∈ m.2.parts := by
  induction members with
  | nil => simp [partsOfMembers]
  | cons m members ih =>
    obtain ⟨key, v⟩ := m
    simp only [partsOfMembers, List.mem_append, ih, List.mem_cons, exists_eq_or_imp]

theorem mem_parts_self (v : Value) : v ∈ v.parts := by
  cases v <;> simp [parts]

theorem mem_parts_array :
    w ∈ (array items).parts ↔ w = array items ∨ ∃ v ∈ items, w ∈ v.parts := by
  rw [parts, List.mem_cons, mem_partsOfItems]

theorem mem_parts_object :
    w ∈ (object members).parts ↔ w = object members ∨ ∃ m ∈ members, w ∈ m.2.parts := by
  rw [parts, List.mem_cons, mem_partsOfMembers]

/-! ## Keys and strings -/

/-- The keys of an object itself. -/
def ownKeys : Value → List String
  | object members => members.map Prod.fst
  | _ => []

/-- The keys of all objects in the document. -/
def keys (v : Value) : List String :=
  v.parts.flatMap ownKeys

/-- No object in the document has a key twice. -/
def KeysOnce (v : Value) : Prop :=
  ∀ w ∈ v.parts, w.ownKeys.Nodup

/-- No string in the document starts like a directive. -/
def NoDirectives (v : Value) : Prop :=
  ∀ s, string s ∈ v.parts → Directive.isShaped s = false

/-- A document that is compared as it stands. -/
structure IsPlain (v : Value) : Prop where
  keysOnce : v.KeysOnce
  noDirectives : v.NoDirectives

theorem mem_keys {key : String} : key ∈ v.keys ↔ ∃ w ∈ v.parts, key ∈ w.ownKeys :=
  List.mem_flatMap

theorem mem_keys_of_mem {m : String × Value} (hm : m ∈ members) : m.1 ∈ (object members).keys :=
  mem_keys.mpr ⟨_, mem_parts_self _, List.mem_map_of_mem hm⟩

theorem keys_element_subset (hv : v ∈ items) : v.keys ⊆ (array items).keys := by
  intro key hkey
  obtain ⟨w, hw, hown⟩ := mem_keys.mp hkey
  exact mem_keys.mpr ⟨w, mem_parts_array.mpr (.inr ⟨v, hv, hw⟩), hown⟩

theorem keys_member_subset {m : String × Value} (hm : m ∈ members) :
    m.2.keys ⊆ (object members).keys := by
  intro key hkey
  obtain ⟨w, hw, hown⟩ := mem_keys.mp hkey
  exact mem_keys.mpr ⟨w, mem_parts_object.mpr (.inr ⟨m, hm, hw⟩), hown⟩

theorem keysOnce_array : (array items).KeysOnce ↔ ∀ v ∈ items, v.KeysOnce := by
  simp only [KeysOnce, mem_parts_array, forall_eq_or_imp, ownKeys, List.nodup_nil, true_and,
    forall_exists_index, and_imp]
  exact ⟨fun h v hv w hw => h w v hv hw, fun h w v hv hw => h v hv w hw⟩

theorem keysOnce_object :
    (object members).KeysOnce ↔ (members.map Prod.fst).Nodup ∧ ∀ m ∈ members, m.2.KeysOnce := by
  simp only [KeysOnce, mem_parts_object, forall_eq_or_imp, ownKeys, forall_exists_index, and_imp]
  exact and_congr_right fun _ =>
    ⟨fun h m hm w hw => h w m hm hw, fun h w m hm hw => h m hm w hw⟩

theorem noDirectives_array : (array items).NoDirectives ↔ ∀ v ∈ items, v.NoDirectives := by
  simp only [NoDirectives, mem_parts_array, reduceCtorEq, false_or, forall_exists_index, and_imp]
  exact ⟨fun h v hv s hs => h s v hv hs, fun h s v hv hs => h v hv s hs⟩

theorem noDirectives_object :
    (object members).NoDirectives ↔ ∀ m ∈ members, m.2.NoDirectives := by
  simp only [NoDirectives, mem_parts_object, reduceCtorEq, false_or, forall_exists_index, and_imp]
  exact ⟨fun h m hm s hs => h s m hm hs, fun h s m hm hs => h m hm s hs⟩

/-- A plain string does not start like a directive. -/
theorem IsPlain.string {s : String} (h : (string s).IsPlain) : Directive.isShaped s = false :=
  h.noDirectives s (mem_parts_self _)

/-- **The elements of a plain list are plain.** -/
theorem IsPlain.element (h : (array items).IsPlain) (hv : v ∈ items) : v.IsPlain :=
  ⟨keysOnce_array.mp h.keysOnce v hv, noDirectives_array.mp h.noDirectives v hv⟩

/-- **The members of a plain object are plain.** -/
theorem IsPlain.member (h : (object members).IsPlain) {m : String × Value} (hm : m ∈ members) :
    m.2.IsPlain :=
  ⟨(keysOnce_object.mp h.keysOnce).2 m hm, noDirectives_object.mp h.noDirectives m hm⟩

theorem IsPlain.nodup (h : (object members).IsPlain) : (members.map Prod.fst).Nodup :=
  (keysOnce_object.mp h.keysOnce).1

/-! ## Documents that have been read -/

theorem mem_keys_putMember {key k : String} :
    k ∈ (putMember key v members).map Prod.fst ↔ k = key ∨ k ∈ members.map Prod.fst := by
  induction members with
  | nil => simp [putMember]
  | cons m members ih =>
    obtain ⟨k', w⟩ := m
    rw [putMember]
    by_cases hk : k' = key
    · simp [hk]
    · rw [if_neg (by simpa using hk), List.map_cons, List.map_cons, List.mem_cons, ih,
        List.mem_cons]
      exact or_left_comm

/-- A member put into an object makes no key occur twice. -/
theorem keysOnce_putMember {key : String} (hv : v.KeysOnce) (h : (object members).KeysOnce) :
    (object (putMember key v members)).KeysOnce := by
  rw [keysOnce_object] at h ⊢
  induction members with
  | nil => simpa [putMember] using hv
  | cons m members ih =>
    obtain ⟨k, w⟩ := m
    obtain ⟨hkeys, hall⟩ := h
    obtain ⟨hw, hrest⟩ := List.forall_mem_cons.mp hall
    rw [List.map_cons, List.nodup_cons] at hkeys
    rw [putMember]
    by_cases hk : k = key
    · -- the value is replaced in its place
      rw [if_pos (by simpa using hk)]
      subst hk
      exact ⟨List.nodup_cons.mpr hkeys, List.forall_mem_cons.mpr ⟨hv, hrest⟩⟩
    · rw [if_neg (by simpa using hk)]
      obtain ⟨hkeys', hall'⟩ := ih ⟨hkeys.2, hrest⟩
      refine ⟨List.nodup_cons.mpr ⟨fun hin => ?_, hkeys'⟩, List.forall_mem_cons.mpr ⟨hw, hall'⟩⟩
      exact (mem_keys_putMember.mp hin).elim hk hkeys.1

theorem keysOnce_collect {done : Members} (hdone : (object done).KeysOnce)
    (h : ∀ m ∈ members, m.2.settle.KeysOnce) : (object (collect done members)).KeysOnce := by
  induction members generalizing done with
  | nil => exact hdone
  | cons m members ih =>
    obtain ⟨key, v⟩ := m
    obtain ⟨hv, hrest⟩ := List.forall_mem_cons.mp h
    rw [collect]
    exact ih (keysOnce_putMember hv hdone) hrest

theorem mem_settleItems : w ∈ settleItems items ↔ ∃ v ∈ items, v.settle = w := by
  induction items with
  | nil => simp [settleItems]
  | cons v items ih => simp [settleItems, ih, eq_comm]

/-- **In a document that has been read, no object has a key twice.** -/
theorem keysOnce_settle (v : Value) : v.settle.KeysOnce := by
  induction v using inductionOn with
  | array items ih =>
    rw [settle, keysOnce_array]
    rintro w hw
    obtain ⟨v, hv, rfl⟩ := mem_settleItems.mp hw
    exact ih v hv
  | object members ih =>
    rw [settle]
    exact keysOnce_collect (by simp [keysOnce_object]) ih
  | _ => simp [settle, KeysOnce, parts, ownKeys]

end SubsetMatch.Value
