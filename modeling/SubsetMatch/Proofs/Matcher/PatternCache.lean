import Mathlib.Data.List.Dedup
import SubsetMatch.Proofs.Matcher.Arguments
import SubsetMatch.Proofs.NameTable
import SubsetMatch.Registry

/-!
# What a pattern matcher keeps

A pattern matcher keeps the patterns that it has compiled, under the texts of its arguments. It may
be registered under several names and in several registries, and all of them use what it keeps. The
evaluations that are made one after the other through any of them answer what each would answer
alone, since whatever is kept is what compilation yields. And what is kept in the end are the texts
that compiled, each once, so a text that does not compile is refused again each time.

Results:
* `Answers`: whatever the state, a computation has one answer, as long as an invariant holds.
* `Cache.mem_names_evaluate`: an evaluation keeps the text of its argument, if that compiles.
* `SharedUse.runAll_answers`: evaluations in a row answer what each of them answers alone.
* `SharedUse.size_runAll`: the number of patterns that are kept.
-/

namespace SubsetMatch

/-! ## Computations whose state does not show -/

/-- In every state with an invariant, a computation gives one answer and leaves such a state. -/
def Answers {σ α : Type} (Inv : σ → Prop) (x : StateM σ α) (a : α) : Prop :=
  ∀ s, Inv s → (x.run s).1 = a ∧ Inv (x.run s).2

namespace Answers

variable {σ α β : Type} {Inv : σ → Prop} {x : StateM σ α} {f : α → StateM σ β} {a : α} {b : β}

theorem pure (a : α) : Answers Inv (Pure.pure a) a :=
  fun _ hs => ⟨rfl, hs⟩

theorem bind (hx : Answers Inv x a) (hf : Answers Inv (f a) b) : Answers Inv (x >>= f) b := by
  intro s hs
  obtain ⟨ha, hs'⟩ := hx s hs
  subst ha
  exact hf _ hs'

end Answers

namespace Pattern

variable {engine : Engine} {cache : Cache} {raw name matcher : String} {args : List String}

/-! ## One evaluation -/

/-- The pattern of an evaluation that has one argument, which compiles. -/
def compiledText? (engine : Engine) : List String → Option String
  | [raw] =>
    match compile engine raw with
    | .error _ => none
    | .ok _ => some raw
  | _ => none

theorem compiledText?_singleton :
    compiledText? engine [raw] = some name ↔ raw = name ∧ ∃ p, compile engine raw = .ok p := by
  rw [compiledText?]
  cases compile engine raw with
  | error e => simp
  | ok p => simp

theorem compiledText?_of_oneArgument {e : MatcherError} (h : oneArgument matcher args = .error e) :
    compiledText? engine args = none := by
  unfold compiledText?
  split
  · cases h
  · rfl

namespace Cache

/-- A compilation keeps the text, if it compiles. -/
theorem mem_names_compile : name ∈ (cache.compile engine raw).2.names ↔
    name ∈ cache.names ∨ compiledText? engine [raw] = some name := by
  rw [compiledText?_singleton]
  unfold Cache.compile
  cases hc : cache.get? raw with
  | some p =>
    have hraw : raw ∈ cache.names := NameTable.mem_names_iff.mpr ⟨p, hc⟩
    exact ⟨.inl, fun h => h.elim id fun ⟨hname, _⟩ => hname ▸ hraw⟩
  | none =>
    cases hp : Pattern.compile engine raw with
    | error e => simp
    | ok p =>
      simp only [NameTable.mem_names_iff, NameTable.get?_insert]
      by_cases hname : raw = name
      · simp [hname]
      · simp [hname]

/-- **An evaluation keeps the text of its argument**, if that compiles, and nothing else. -/
theorem mem_names_evaluate (actual : Value) :
    name ∈ (cache.evaluate engine matcher args actual).2.names ↔
      name ∈ cache.names ∨ compiledText? engine args = some name := by
  unfold Cache.evaluate
  cases ha : oneArgument matcher args with
  | error e => simp [compiledText?_of_oneArgument ha]
  | ok raw =>
    obtain rfl := oneArgument_eq_ok_iff.mp ha
    rw [← mem_names_compile]
    simp only
    split
    · rename_i h
      rw [h]
    · rename_i h
      rw [h]

end Cache

end Pattern

/-! ## Evaluations in a row -/

/-- An evaluation of the shared pattern matcher, under a name that a registry binds to it. -/
structure SharedUse where
  registry : Registry
  tokens : TokenTable
  call : Call
  actual : Value
  nested : Nested actual call.reach
  resolves : registry.resolve call.name = .ok .sharedPattern

namespace SharedUse

variable {E : Primitives} {u : SharedUse} {uses : List SharedUse} {cache : Pattern.Cache}
  {name : String}

/-- The evaluation, with the patterns that are kept. -/
def run (E : Primitives) (u : SharedUse) : StateM Pattern.Cache Verdict :=
  fun cache => u.registry.invoke E u.tokens cache u.call u.actual u.nested

/-- The evaluation by a matcher that has kept nothing. -/
def alone (E : Primitives) (u : SharedUse) : Verdict :=
  ((u.run E).run NameTable.empty).1

/-- Evaluations one after the other. -/
def runAll (E : Primitives) : List SharedUse → StateM Pattern.Cache (List Verdict)
  | [] => return []
  | u :: uses => do
    let verdict ← u.run E
    let verdicts ← runAll E uses
    return verdict :: verdicts

/-- The pattern that an evaluation compiles. -/
def compiledText? (E : Primitives) (u : SharedUse) : Option String :=
  Pattern.compiledText? E.engine u.call.args

theorem run_eq :
    (u.run E).run cache = cache.evaluate E.engine u.call.name u.call.args u.actual := by
  change u.registry.invoke E u.tokens cache u.call u.actual u.nested = _
  rw [Registry.invoke, u.resolves]
  rfl

theorem run_answers : Answers (Pattern.Cache.Faithful E.engine) (u.run E) (u.alone E) := by
  intro cache hcache
  have hempty := Pattern.Cache.faithful_empty E.engine
  obtain ⟨halone, -⟩ := hempty.evaluate u.call.name u.call.args u.actual
  obtain ⟨hverdict, hkept⟩ := hcache.evaluate u.call.name u.call.args u.actual
  rw [alone, run_eq, run_eq, halone]
  exact ⟨hverdict, hkept⟩

/-- **Evaluations in a row answer what each of them answers alone.** -/
theorem runAll_answers :
    Answers (Pattern.Cache.Faithful E.engine) (runAll E uses) (uses.map (alone E)) := by
  induction uses with
  | nil => exact .pure []
  | cons u uses ih => exact run_answers.bind (ih.bind (.pure _))

theorem mem_names_runAll : name ∈ ((runAll E uses).run cache).2.names ↔
    name ∈ cache.names ∨ name ∈ uses.filterMap (compiledText? E) := by
  induction uses generalizing cache with
  | nil =>
    have hnone : ((runAll E []).run cache).2 = cache := rfl
    simp [hnone]
  | cons u uses ih =>
    have hstep : ((runAll E (u :: uses)).run cache).2 =
        ((runAll E uses).run ((u.run E).run cache).2).2 := rfl
    rw [hstep, ih, run_eq, Pattern.Cache.mem_names_evaluate, or_assoc]
    refine or_congr_right ?_
    rw [List.mem_filterMap, List.mem_filterMap, List.exists_mem_cons_iff]
    rfl

/-- **As many patterns are kept as texts have compiled.** -/
theorem size_runAll : ((runAll E uses).run NameTable.empty).2.size =
    (uses.filterMap (compiledText? E)).dedup.length := by
  rw [← NameTable.length_names]
  refine (NameTable.names_perm (List.nodup_dedup _) fun name => ?_).length_eq
  rw [← NameTable.mem_names_iff, mem_names_runAll, List.mem_dedup]
  simp [NameTable.names, NameTable.empty]

end SharedUse

end SubsetMatch
