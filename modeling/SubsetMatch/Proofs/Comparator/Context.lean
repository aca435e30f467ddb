import SubsetMatch.Proofs.Comparator.Outcome
import SubsetMatch.Proofs.Comparator.Place
import SubsetMatch.Standard

/-!
# Comparisons inside documents

A context is a document with a hole. Where the same context stands around a needle and around a
haystack, and is plain itself, everything in it matches: a plain document is matched by itself, and
every key finds its own member, even one that is written like an address into a list. What remains
is the comparison at the hole.

Results:
* `node_self`: a plain document matches itself, whatever is registered.
* `node_fill`: a comparison inside a plain context is the one at the hole, at the place of the hole.
* `context_localises`: a failure inside a context is reported with the path of the hole in front.
-/

namespace SubsetMatch

/-! ## Contexts -/

/-- A document with one hole. -/
inductive Context
  | hole
  | member (before : Members) (key : String) (inner : Context) (after : Members)
  | element (before : List Value) (inner : Context) (after : List Value)

namespace Context

/-- The document with the hole filled. -/
def fill : Context → Value → Value
  | hole, v => v
  | member before key inner after, v => .object (before ++ (key, inner.fill v) :: after)
  | element before inner after, v => .array (before ++ inner.fill v :: after)

/-- The way from the root to the hole. -/
def path : Context → KeyPath
  | hole => .root
  | member _ key inner _ => (KeyPath.root.key key).join inner.path
  | element before inner _ => (KeyPath.root.index before.length).join inner.path

/-- Nothing but what fills the hole is a directive, and no object has a key twice. -/
def IsPlain (k : Context) : Prop :=
  (k.fill .null).IsPlain

end Context

namespace Comparator

variable {E : Primitives} {c : Comparator}

/-! ## Plain documents -/

/-- A literal key finds its own member. -/
theorem address_of_mem {members : Members} (hkeys : (members.map Prod.fst).Nodup)
    {m : String × Value} (hm : m ∈ members) (path : KeyPath) :
    address members m.1 path = .ok ⟨m.2, path.key m.1⟩ := by
  have hget : Value.get? members m.1 = some m.2 := Entries.find?_of_mem hkeys hm
  rw [address, hget]

/-- A leaf equals itself. -/
theorem leaf_self {v : Value} (h : v.sameScalar v = true) (path : KeyPath) :
    leaf v v path = .ok () := by
  rw [leaf, if_pos h]

/-- **A plain document matches itself**, whatever functions are registered. -/
theorem node_self {v : Value} (h : v.IsPlain) (path : KeyPath) : c.node E v v path = .ok () := by
  induction v using Value.inductionOn generalizing path with
  | null =>
    rw [node]
    exact leaf_self rfl path
  | bool b =>
    rw [node]
    exact leaf_self (by simp [Value.sameScalar]) path
  | number n =>
    rw [node]
    exact leaf_self (by simp [Value.sameScalar]) path
  | string s =>
    rw [node_string, Directive.parse_eq_none_iff.mpr h.string]
    exact leaf_self (by simp) path
  | array items ih =>
    refine outcome_array_eq_ok_iff.mpr ⟨items, rfl, rfl, fun i v w hv hw => ?_⟩
    rw [hv] at hw
    cases hw
    have hmem := List.mem_of_getElem? hv
    exact ih v hmem (h.element hmem) _
  | object members ih =>
    refine outcome_object_eq_ok_iff.mpr ⟨members, rfl, fun m hm => ?_⟩
    exact ⟨_, address_of_mem h.nodup hm path, ih m hm (h.member hm) _⟩

/-- Plain members of an object are found and matched there. -/
theorem members_self {part members : Members} (hkeys : (members.map Prod.fst).Nodup)
    (h : ∀ m ∈ part, m ∈ members ∧ m.2.IsPlain) (path : KeyPath) :
    c.members E part members path = .ok () :=
  members_eq_ok_iff.mpr fun m hm =>
    ⟨_, address_of_mem hkeys (h m hm).1 path, node_self (h m hm).2 _⟩

/-- Plain elements match themselves. -/
theorem items_self {items : List Value} (h : ∀ v ∈ items, v.IsPlain) (position : Nat)
    (path : KeyPath) : c.items E items items position path = .ok () := by
  refine items_eq_ok_iff.mpr fun i v w hv hw => ?_
  rw [hv] at hw
  cases hw
  exact node_self (h v (List.mem_of_getElem? hv)) _

/-! ## Plain contexts -/

/-- **A comparison inside a plain context is the one at the hole**: what stands before the hole
matches, and so does what stands behind it. -/
theorem node_fill {k : Context} (hk : k.IsPlain) (needle haystack : Value) (path : KeyPath) :
    c.node E (k.fill needle) (k.fill haystack) path =
      c.node E needle haystack (path.join k.path) := by
  induction k generalizing path with
  | hole => rw [Context.fill, Context.fill, Context.path, KeyPath.join_root]
  | member before key inner after ih =>
    have hplain : (Value.object (before ++ (key, inner.fill .null) :: after)).IsPlain := hk
    have hinner : inner.IsPlain := hplain.member (m := (key, _)) (by simp)
    -- the keys are those of the plain document, whatever fills the hole
    have hkeys : ((before ++ (key, inner.fill haystack) :: after).map Prod.fst).Nodup := by
      simpa using hplain.nodup
    have hbefore : c.members E before (before ++ (key, inner.fill haystack) :: after) path =
        .ok () :=
      members_self hkeys (fun m hm => ⟨by simp [hm], hplain.member (by simp [hm])⟩) path
    have hafter : c.members E after (before ++ (key, inner.fill haystack) :: after) path =
        .ok () :=
      members_self hkeys (fun m hm => ⟨by simp [hm], hplain.member (by simp [hm])⟩) path
    have hfound := address_of_mem hkeys (m := (key, inner.fill haystack)) (by simp) path
    have hpath : path.join ((KeyPath.root.key key).join inner.path) =
        (path.key key).join inner.path := by
      rw [← KeyPath.join_assoc, KeyPath.join_key, KeyPath.join_root]
    rw [Context.fill, Context.fill, Context.path, node_object]
    simp only [members_append, hbefore, members_cons, hfound, hafter, ih hinner, hpath]
    cases c.node E needle haystack ((path.key key).join inner.path) with
    | error f => rfl
    | ok u => rfl
  | element before inner after ih =>
    have hplain : (Value.array (before ++ inner.fill .null :: after)).IsPlain := hk
    have hinner : inner.IsPlain := hplain.element (by simp)
    have hbefore : c.items E before before 0 path = .ok () :=
      items_self (fun v hv => hplain.element (by simp [hv])) 0 path
    have hafter : c.items E after after (before.length + 1) path = .ok () :=
      items_self (fun v hv => hplain.element (by simp [hv])) _ path
    have hpath : path.join ((KeyPath.root.index before.length).join inner.path) =
        (path.index before.length).join inner.path := by
      rw [← KeyPath.join_assoc, KeyPath.join_index, KeyPath.join_root]
    rw [Context.fill, Context.fill, Context.path, node_array]
    simp only [List.length_append, List.length_cons, if_true, items_append rfl, hbefore,
      Nat.zero_add, items_cons, hafter, ih hinner, hpath]
    cases c.node E needle haystack ((path.index before.length).join inner.path) with
    | error f => rfl
    | ok u => rfl

end Comparator

/-- **A failure inside a context is that of the hole**, with the path of the hole in front of its
own. In particular a plain document matches itself, whatever functions are registered. -/
theorem context_localises (E : Primitives) :
    (∀ (c : Comparator) (k : Context) (needle haystack : Value), c.IsBuiltIn → k.IsPlain →
      (c.compare E (k.fill needle) (k.fill haystack) = .ok () ↔
        c.compare E needle haystack = .ok ()) ∧
      ∀ f, c.compare E needle haystack = .error f →
        ∃ g rest, c.compare E (k.fill needle) (k.fill haystack) = .error g ∧ g.kind = f.kind ∧
          f.path.render = "$" ++ rest ∧ g.path.render = k.path.render ++ rest) ∧
    ∀ (c : Comparator) (v : Value), v.IsPlain → c.compare E v v = .ok () := by
  refine ⟨fun c k needle haystack hb hk => ?_, fun c v hv => c.node_self hv .root⟩
  have hcompare : c.compare E (k.fill needle) (k.fill haystack) =
      Outcome.under k.path (c.compare E needle haystack) := by
    have hfill := c.node_fill (E := E) hk needle haystack .root
    rw [KeyPath.root_join, ← k.path.join_root, Comparator.node_join hb] at hfill
    exact hfill
  rw [hcompare]
  cases c.compare E needle haystack with
  | ok u => exact ⟨⟨fun _ => rfl, fun _ => rfl⟩, fun f hf => by cases hf⟩
  | error f =>
    refine ⟨by simp, fun f' hf => ?_⟩
    cases hf
    obtain ⟨rest, hinner, houter⟩ := k.path.render_join f.path
    exact ⟨f.under k.path, rest, rfl, f.kind_under .., hinner, houter⟩

/-- A hole below a key that is written like an address into the list beside it. -/
def addressLikeContext : Context :=
  .member [("a", .array [.string "x"])] "a[0]" (.element [.bool true] .hole []) []

theorem isPlain_addressLikeContext : addressLikeContext.IsPlain := by
  refine ⟨?_, fun s hs => ?_⟩
  · unfold Value.KeysOnce
    decide
  · have hx : s = "x" := by
      simpa [addressLikeContext, Context.fill, Value.parts, Value.partsOfItems,
        Value.partsOfMembers] using hs
    rw [hx]
    decide

/-- The literal key is taken, and the failure is reported below it. -/
theorem context_localises_addressLike :
    let needle : Value := .object [("kind", .string "user")]
    let haystack : Value := .object [("kind", .string "admin")]
    let inside := fun v => addressLikeContext.fill v
    Comparator.withDefaults.IsBuiltIn ∧ addressLikeContext.IsPlain ∧
      (∃ f g, Comparator.withDefaults.compare (.standard 0) needle haystack = .error f ∧
        f.path.render = "$.kind" ∧
        Comparator.withDefaults.compare (.standard 0) (inside needle) (inside haystack) = .error g ∧
        g.kind = f.kind ∧ g.path.render = "$[\"a[0]\"][1].kind") ∧
      Comparator.withDefaults.compare (.standard 0) (inside (.string "@variableType(string)"))
        (inside (.string "user")) = .ok () ∧
      Comparator.empty.compare (.standard 0) (inside .null) (inside .null) = .ok () := by
  intro needle haystack inside
  have hb := Comparator.isBuiltIn_withDefaults
  have hk := isPlain_addressLikeContext
  have hinner : Comparator.withDefaults.compare (.standard 0) needle haystack =
      .error ⟨⟨[.key "kind"]⟩, .value (.string "user") (.string "admin")⟩ := by
    rw [Comparator.compare, Comparator.node_object]
    simp only [Comparator.members_cons, Comparator.node_string]
    rfl
  have htype : Comparator.withDefaults.compare (.standard 0) (.string "@variableType(string)")
      (.string "user") = .ok () := by
    rw [Comparator.compare, Comparator.node_string]
    rfl
  obtain ⟨hlocal, hself⟩ := context_localises (.standard 0)
  obtain ⟨g, rest, hg, hkind, hrest, hpath⟩ := (hlocal _ _ needle haystack hb hk).2 _ hinner
  have hkindpath : rest = ".kind" := by
    have happend : "$" ++ ".kind" = "$" ++ rest := hrest
    exact (String.append_right_inj _).mp happend.symm
  refine ⟨hb, hk, ⟨_, g, hinner, by decide, hg, hkind, ?_⟩,
    (hlocal _ _ _ _ hb hk).1.mpr htype, hself _ _ hk⟩
  rw [hpath, hkindpath]
  decide

end SubsetMatch
