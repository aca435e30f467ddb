import Mathlib.Data.List.Forall2
import SubsetMatch.Proofs.Comparator.Outcome
import SubsetMatch.Proofs.Matcher.Alike

/-!
# Comparisons with the same result

Two comparisons have the same result if both succeed, or if both fail with the same kind at the
same place. The words of their failures may differ, since they show the documents.

A walk takes its result from the first part that fails. So two walks whose parts agree one by one
agree as a whole. At its leaves a needle cannot tell alike values apart.

Results:
* `Outcome.Agrees.ok_iff`: where results agree, both comparisons succeed or neither does.
* `members_agree`, `items_agree`: walks agree if their parts do.
* `leaf_agree`, `string_agree`: leaves and directives have the same result for values that are
  alike.
-/

namespace SubsetMatch

/-- The same result: success, or failures of the same kind at the same place. -/
inductive Outcome.Agrees : Outcome → Outcome → Prop
  | ok : Agrees (.ok ()) (.ok ())
  | error {f g : Failure} (hkind : f.kind = g.kind) (hpath : f.path = g.path) :
    Agrees (.error f) (.error g)

namespace Outcome.Agrees

theorem refl (a : Outcome) : Agrees a a := by
  cases a with
  | error f => exact .error rfl rfl
  | ok u => exact .ok

theorem trans {a b d : Outcome} (hab : Agrees a b) (hbd : Agrees b d) : Agrees a d := by
  cases hab with
  | ok => exact hbd
  | error hkind hpath =>
    cases hbd with
    | error hkind' hpath' => exact .error (hkind.trans hkind') (hpath.trans hpath')

theorem ok_iff {a b : Outcome} (h : Agrees a b) : a = .ok () ↔ b = .ok () := by
  cases h with
  | ok => simp
  | error => simp

/-- Where results agree, the failure of one comparison is matched by one of the other. -/
theorem exists_error {a b : Outcome} (h : Agrees a b) {f : Failure} (ha : a = .error f) :
    ∃ g, b = .error g ∧ g.kind = f.kind ∧ g.path = f.path := by
  cases h with
  | ok => cases ha
  | error hkind hpath =>
    cases ha
    exact ⟨_, rfl, hkind.symm, hpath.symm⟩

/-- One comparison after another agrees with such a sequence if the first and the second do. -/
theorem andThen {a a' b b' : Outcome} : Agrees a a' → Agrees b b' →
    Agrees
      (match a with
        | .error f => .error f
        | .ok () => b)
      (match a' with
        | .error f => .error f
        | .ok () => b') := by
  intro ha hb
  cases ha with
  | ok => exact hb
  | error hkind hpath => exact .error hkind hpath

end Outcome.Agrees

namespace Comparator

variable {E : Primitives} {c : Comparator}

variable (E c) in
/-- What one member of the needle answers. -/
def member (m : String × Value) (actual : Members) (path : KeyPath) : Outcome :=
  match address actual m.1 path with
  | .error f => .error f
  | .ok t => node E c m.2 t.value t.path

/-- The first member that fails decides. -/
theorem members_cons_member (m : String × Value) (rest actual : Members) (path : KeyPath) :
    members E c (m :: rest) actual path =
      match member E c m actual path with
      | .error f => .error f
      | .ok () => members E c rest actual path := by
  obtain ⟨key, needle⟩ := m
  rw [members_cons, member]
  cases address actual key path with
  | error f => rfl
  | ok t => rfl

/-- **Walks over members agree** if the members do. -/
theorem members_agree {expected actual others : Members} {path : KeyPath}
    (h : ∀ m ∈ expected, Outcome.Agrees (member E c m actual path) (member E c m others path)) :
    Outcome.Agrees (members E c expected actual path) (members E c expected others path) := by
  induction expected with
  | nil =>
    rw [members_nil, members_nil]
    exact .ok
  | cons m rest ih =>
    obtain ⟨hfirst, hrest⟩ := List.forall_mem_cons.mp h
    rw [members_cons_member, members_cons_member]
    exact hfirst.andThen (ih hrest)

/-- **Walks over elements agree** if the elements at the same positions do. -/
theorem items_agree {expected actual others : List Value} {R : Value → Value → Prop}
    (hactual : List.Forall₂ R actual others) {position : Nat} {path : KeyPath}
    (h : ∀ needle ∈ expected, ∀ v w i, R v w →
      Outcome.Agrees (node E c needle v (path.index i)) (node E c needle w (path.index i))) :
    Outcome.Agrees (items E c expected actual position path)
      (items E c expected others position path) := by
  induction expected generalizing actual others position with
  | nil =>
    simp only [items]
    exact .ok
  | cons needle expected ih =>
    obtain ⟨hfirst, hrest⟩ := List.forall_mem_cons.mp h
    cases hactual with
    | nil =>
      simp only [items]
      exact .ok
    | cons hvw hactual =>
      rw [items_cons, items_cons]
      exact (hfirst _ _ position hvw).andThen (ih hactual hrest)

/-! ## Values that are alike -/

section Alike

variable {v w : Value}

/-- A leaf has the same result for values that are alike. -/
theorem leaf_agree (h : Alike v w) (needle : Value) (path : KeyPath) :
    Outcome.Agrees (leaf needle v path) (leaf needle w path) := by
  rw [leaf, leaf, h.sameScalar needle]
  split
  · exact .ok
  · exact .error rfl rfl

/-- Directives agree where their verdicts report the same kind of failure, or none. -/
theorem directive_agree (d : Directive) (path : KeyPath) {a b : Verdict} : a.blame = b.blame →
    Outcome.Agrees
      (match a with
        | .error e => .error ⟨path, .assertion d e⟩
        | .ok () => .ok ())
      (match b with
        | .error e => .error ⟨path, .assertion d e⟩
        | .ok () => .ok ()) := by
  intro h
  cases a with
  | ok u =>
    cases b with
    | ok u => exact .ok
    | error e => cases h
  | error e =>
    cases b with
    | ok u => cases h
    | error e' => exact .error (Option.some.inj h) rfl

/-- **A string of the needle**, directive or not, has the same result for values that are alike. -/
theorem string_agree (hb : c.IsBuiltIn) (h : Alike v w) (text : String) (path : KeyPath) :
    Outcome.Agrees (c.node E (.string text) v path) (c.node E (.string text) w path) := by
  cases hparse : Directive.parse text with
  | error e =>
    rw [node_string, node_string, hparse]
    exact .refl _
  | ok r =>
    cases r with
    | none =>
      rw [node_string, node_string, hparse]
      exact leaf_agree h _ path
    | some d =>
      cases hresolve : c.functions.resolve d.name with
      | error e =>
        simp only [node_string, hparse, hresolve]
        exact .refl _
      | ok m =>
        have hblame := Matcher.blame_alike (hb.of_resolve hresolve) h E c.tokens
          ⟨d, path, text.length⟩ fun n h => c.node E n h .root
        rw [show c.node E (.string text) v path = _ from outcome_directive hparse hresolve,
          show c.node E (.string text) w path = _ from outcome_directive hparse hresolve]
        exact directive_agree d path hblame

end Alike

end Comparator

end SubsetMatch
