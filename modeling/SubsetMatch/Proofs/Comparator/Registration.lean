import Mathlib.Data.List.Forall2
import Mathlib.Data.Option.Basic
import SubsetMatch.Comparator
import SubsetMatch.Proofs.Token.Registration

/-!
# Registrations are all or nothing

A registration that names its algorithms reads their texts one after the other and may stop at any
of them. It is followed here as it goes on: the table is a state that outlives a refusal, so that
whatever was done to it before would show. Reading a text leaves the table alone
(`run_addAlgorithm`), and so does reading all of them (`run_foldlM_addAlgorithm`); only then the
entry is put in its place.

So a refused registration has done nothing, and one that is carried out has bound its name and no
other. It makes no difference whether the table or its comparator is asked.

Results:
* `Algorithm.ofName?_eq_some_iff`: which texts name an algorithm.
* `TokenTable.run_addWithIn`: a registration followed step by step does what `addWith` answers.
* `Comparator.run_addTokenWithIn`: so does one that a comparator is asked for.
* `registration_all_or_nothing`: when a registration is refused, and what it does to the table.
-/

namespace SubsetMatch

/-! ## Texts that name algorithms -/

/-- A text is the name of an algorithm, blanks around it and the case of its letters aside. -/
def Algorithm.IsNamedBy (a : Algorithm) (text : String) : Prop :=
  String.ofList (upper (Text.trim text.toList)) = a.name

theorem Algorithm.ofName?_eq_some_iff {text : String} {a : Algorithm} :
    ofName? text = some a ↔ a.IsNamedBy text := by
  have hname : a.IsNamedBy text ↔ a.name.toList = upper (Text.trim text.toList) := by
    rw [IsNamedBy, ← String.toList_inj, String.toList_ofList, eq_comm]
  have hinj : ∀ b : Algorithm, b.name.toList = a.name.toList → b = a := by
    intro b
    cases a <;> cases b <;> decide
  rw [hname, ofName?]
  constructor
  · intro h
    simpa using List.find?_some h
  · intro h
    cases hfind : all.find? fun b => b.name.toList == upper (Text.trim text.toList) with
    | none => exact absurd (by simpa using h) (List.find?_eq_none.mp hfind a a.mem_all)
    | some b =>
      have hb : b.name.toList = upper (Text.trim text.toList) := by
        simpa using List.find?_some hfind
      rw [hinj b (hb.trans h.symm)]

/-- Texts that all name algorithms name one each, in order. -/
theorem Algorithm.forall₂_isNamedBy {texts : List String}
    (h : ∀ text ∈ texts, (ofName? text).isSome) :
    List.Forall₂ (fun text a => a.IsNamedBy text) texts (texts.filterMap ofName?) := by
  induction texts with
  | nil => exact .nil
  | cons text texts ih =>
    obtain ⟨a, ha⟩ := Option.isSome_iff_exists.mp (h text List.mem_cons_self)
    rw [List.filterMap_cons_some ha]
    exact .cons (ofName?_eq_some_iff.mp ha) (ih fun other ho => h other (List.mem_cons_of_mem _ ho))

/-- Texts name one list of algorithms at most. -/
theorem Algorithm.map_some_of_forall₂ {texts : List String} {named : List Algorithm}
    (h : List.Forall₂ (fun text a => a.IsNamedBy text) texts named) :
    named.map some = texts.map ofName? := by
  rw [eq_comm, ← List.forall₂_eq_eq_eq, List.forall₂_map_left_iff, List.forall₂_map_right_iff]
  exact h.imp fun _ _ => ofName?_eq_some_iff.mpr

/-! ## A registration step by step -/

namespace TokenTable

/-- Work on a table that may be refused half way; what was done to the table until then stays. -/
abbrev Work (α : Type) := ExceptT MatcherError (StateM TokenTable) α

/-- One more text that names an algorithm. -/
def addAlgorithm (known : List Algorithm) (text : String) : Work (List Algorithm) :=
  match Algorithm.ofName? text with
  | none => throw (.unknownAlgorithm text)
  | some a => return if known.contains a then known else known ++ [a]

/-- A registration for some algorithms. -/
def addWithIn (name : String) (payload : Members) (secret : String) (texts : List String) :
    Work Unit := do
  if texts.isEmpty then throw (.noAlgorithm name)
  let algorithms ← texts.foldlM addAlgorithm []
  modify fun t => t.insert name ⟨⟨secret, algorithms⟩, payload⟩

variable {name secret : String} {payload : Members} {texts : List String}

theorem run_bind {α β : Type} (work : Work α) (next : α → Work β) (t : TokenTable) :
    (work >>= next).run.run t =
      match work.run.run t with
      | (.error e, t') => (.error e, t')
      | (.ok a, t') => (next a).run.run t' := by
  rw [ExceptT.run_bind, StateT.run_bind]
  obtain ⟨verdict, t'⟩ := work.run.run t
  cases verdict with
  | error e => rfl
  | ok a => rfl

/-- Reading a text leaves the table alone. -/
theorem run_addAlgorithm (known : List Algorithm) (text : String) (t : TokenTable) :
    (addAlgorithm known text).run.run t = (parseAlgorithms known [text], t) := by
  unfold addAlgorithm parseAlgorithms
  cases Algorithm.ofName? text with
  | none => rfl
  | some a => rfl

/-- So does reading some texts, wherever it stops. -/
theorem run_foldlM_addAlgorithm (known : List Algorithm) (texts : List String) (t : TokenTable) :
    (texts.foldlM addAlgorithm known).run.run t = (parseAlgorithms known texts, t) := by
  induction texts generalizing known with
  | nil => rfl
  | cons text texts ih =>
    rw [List.foldlM_cons, run_bind, run_addAlgorithm, parseAlgorithms, parseAlgorithms]
    cases Algorithm.ofName? text with
    | none => rfl
    | some a => exact ih _

/-- **A registration followed step by step** leaves the table as it was if it is refused, and has
the table that is answered if it is not. -/
theorem run_addWithIn (t : TokenTable) :
    (addWithIn name payload secret texts).run.run t =
      match t.addWith name payload secret texts with
      | .error e => (.error e, t)
      | .ok t' => (.ok (), t') := by
  unfold addWithIn addWith
  cases texts with
  | nil => rfl
  | cons text texts =>
    simp only [List.isEmpty_cons, Bool.false_eq_true, if_false]
    rw [run_bind, run_foldlM_addAlgorithm]
    cases parseAlgorithms [] (text :: texts) with
    | error e => rfl
    | ok algorithms => rfl

end TokenTable

namespace Comparator

/-- Work on the table of a comparator. -/
def onTokens {α : Type} (work : TokenTable.Work α) : ExceptT MatcherError (StateM Comparator) α :=
  ExceptT.mk fun c =>
    let (verdict, tokens) := work.run.run c.tokens
    (verdict, { c with tokens := tokens })

theorem run_onTokens {α : Type} (work : TokenTable.Work α) (c : Comparator) :
    (onTokens work).run.run c =
      ((work.run.run c.tokens).1, { c with tokens := (work.run.run c.tokens).2 }) :=
  rfl

/-- A registration for some algorithms, asked of a comparator. -/
def addTokenWithIn (name : String) (payload : Members) (secret : String) (texts : List String) :
    ExceptT MatcherError (StateM Comparator) Unit :=
  onTokens (TokenTable.addWithIn name payload secret texts)

variable {name secret : String} {payload : Members} {texts : List String}

theorem run_addTokenWithIn (c : Comparator) :
    (addTokenWithIn name payload secret texts).run.run c =
      match c.addTokenWith name payload secret texts with
      | .error e => (.error e, c)
      | .ok c' => (.ok (), c') := by
  rw [addTokenWithIn, run_onTokens, TokenTable.run_addWithIn, addTokenWith]
  cases c.tokens.addWith name payload secret texts with
  | error e => rfl
  | ok t => rfl

end Comparator

/-! ## All or nothing -/

/-- What a registration for some algorithms does to a table, refused or not. -/
structure AllOrNothing (t : TokenTable) (name : String) (payload : Members) (secret : String)
    (texts : List String) (verdict : Except MatcherError Unit) (t' : TokenTable) : Prop where
  /-- it is refused iff no algorithm is named, or some text names none -/
  refused_iff : (∃ e, verdict = .error e) ↔
    texts = [] ∨ ∃ text ∈ texts, ∀ a : Algorithm, ¬ a.IsNamedBy text
  /-- a refused one has done nothing -/
  unchanged : (∃ e, verdict = .error e) → t' = t
  /-- any other has bound the name to the payload, the secret and the algorithms that are named, each
  once, where it is named first -/
  replaced : verdict = .ok () → ∃ named : List Algorithm,
    List.Forall₂ (fun text a => a.IsNamedBy text) texts named ∧
      t'.get? name = some ⟨⟨secret, named.eraseDups⟩, payload⟩
  /-- no other name is touched -/
  frame : ∀ other, other ≠ name → t'.get? other = t.get? other

variable {name secret : String} {payload : Members} {texts : List String}

/-- A registration is valid iff there are texts and none of them names no algorithm. -/
theorem Registration.valid_iff {texts : List String} :
    Registration.Valid ⟨payload, secret, some texts⟩ ↔
      ¬ (texts = [] ∨ ∃ text ∈ texts, ∀ a : Algorithm, ¬ a.IsNamedBy text) := by
  simp only [Registration.Valid, Option.some.injEq, forall_eq', not_or, not_exists, not_and,
    not_forall, not_not, Option.isSome_iff_exists, Algorithm.ofName?_eq_some_iff, ne_eq]

theorem AllOrNothing.accepted {t t' : TokenTable} {verdict : Except MatcherError Unit}
    (h : AllOrNothing t name payload secret texts verdict t')
    (hvalid : Registration.Valid ⟨payload, secret, some texts⟩) : verdict = .ok () := by
  cases hverdict : verdict with
  | error e => exact absurd (h.refused_iff.mp ⟨e, hverdict⟩) (Registration.valid_iff.mp hvalid)
  | ok => rfl

/-- **On a table**: a valid registration binds its name alone, any other does nothing. -/
theorem allOrNothing_addWithIn (t : TokenTable) :
    AllOrNothing t name payload secret texts
      ((TokenTable.addWithIn name payload secret texts).run.run t).1
      ((TokenTable.addWithIn name payload secret texts).run.run t).2 := by
  rw [TokenTable.run_addWithIn]
  by_cases hvalid : Registration.Valid ⟨payload, secret, some texts⟩
  · have hinsert := TokenTable.addWith_eq_entry hvalid rfl t name
    simp only at hinsert
    rw [hinsert]
    refine ⟨?_, by simp, fun _ => ⟨texts.filterMap Algorithm.ofName?, ?_, ?_⟩, ?_⟩
    · exact iff_of_false (by simp) (Registration.valid_iff.mp hvalid)
    · exact Algorithm.forall₂_isNamedBy (hvalid texts rfl).2
    · rw [NameTable.get?_insert, if_pos rfl]
      rfl
    · intro other hother
      rw [NameTable.get?_insert, if_neg hother.symm]
  · obtain ⟨e, he⟩ : ∃ e, t.addWith name payload secret texts = .error e :=
      TokenTable.register_eq_error hvalid t name
    rw [he]
    refine ⟨?_, fun _ => rfl, nofun, fun _ _ => rfl⟩
    exact iff_of_true ⟨e, rfl⟩ (not_not.mp (mt Registration.valid_iff.mpr hvalid))

/-- **A registration for some algorithms is all or nothing**, asked of the handle on a table and of
a comparator: it is carried out iff every text names an algorithm and there is one; then it binds
its name and no other, and if it is refused everything compares as it did. -/
theorem registration_all_or_nothing (c : Comparator) (name : String) (payload : Members)
    (secret : String) (texts : List String) :
    let handle := (TokenTable.addWithIn name payload secret texts).run.run c.tokens
    let whole := (Comparator.addTokenWithIn name payload secret texts).run.run c
    (c.tokens.addWith name payload secret texts = handle.1.map (fun _ => handle.2) ∧
      c.addTokenWith name payload secret texts = whole.1.map (fun _ => whole.2)) ∧
    AllOrNothing c.tokens name payload secret texts handle.1 handle.2 ∧
    AllOrNothing c.tokens name payload secret texts whole.1 whole.2.tokens ∧
    whole.2.functions = c.functions ∧
    ((∃ e, whole.1 = .error e) → ∀ E needle haystack,
      whole.2.compare E needle haystack = c.compare E needle haystack) := by
  intro handle whole
  have hhandle : AllOrNothing c.tokens name payload secret texts handle.1 handle.2 :=
    allOrNothing_addWithIn c.tokens
  have hwhole : whole = (handle.1, { c with tokens := handle.2 }) :=
    Comparator.run_onTokens _ c
  refine ⟨⟨?_, ?_⟩, hhandle, hhandle, rfl, ?_⟩
  · simp only [handle, TokenTable.run_addWithIn]
    cases c.tokens.addWith name payload secret texts <;> rfl
  · simp only [whole, Comparator.run_addTokenWithIn]
    cases c.addTokenWith name payload secret texts <;> rfl
  · intro hrefused E needle haystack
    rw [hwhole, hhandle.unchanged hrefused]

/-- A name is bound again: not by a list whose last text names nothing, and in full by one that
names an algorithm twice. -/
theorem registration_all_or_nothing_rebound :
    let c := Comparator.withDefaults.addToken "n" [] "old"
    let refused := (Comparator.addTokenWithIn "n" [] "new" ["HS256", " hs512 ", "none"]).run.run c
    let rebound := (Comparator.addTokenWithIn "n" [] "new" [" hs512 ", "HS256", "Hs512"]).run.run c
    ((∃ e, refused.1 = .error e) ∧ refused.2.tokens.get? "n" = some ⟨⟨"old", Algorithm.all⟩, []⟩ ∧
      ∀ E needle haystack, refused.2.compare E needle haystack = c.compare E needle haystack) ∧
    rebound.1 = .ok () ∧
      rebound.2.tokens.get? "n" = some ⟨⟨"new", [.hs512, .hs256]⟩, []⟩ := by
  intro c refused rebound
  obtain ⟨-, -, hrefused, -, hsame⟩ :=
    registration_all_or_nothing c "n" [] "new" ["HS256", " hs512 ", "none"]
  obtain ⟨-, -, hrebound, -, -⟩ :=
    registration_all_or_nothing c "n" [] "new" [" hs512 ", "HS256", "Hs512"]
  have hnone : ∀ a : Algorithm, ¬ a.IsNamedBy "none" := by
    have hfind : Algorithm.ofName? "none" = none := by decide +kernel
    intro a ha
    rw [Algorithm.ofName?_eq_some_iff.mpr ha] at hfind
    cases hfind
  have herror : ∃ e, refused.1 = .error e :=
    hrefused.refused_iff.mpr (.inr ⟨"none", by simp, hnone⟩)
  have hold : refused.2.tokens.get? "n" = some ⟨⟨"old", Algorithm.all⟩, []⟩ := by
    rw [hrefused.unchanged herror]
    rfl
  have hok : rebound.1 = .ok () := by
    refine hrebound.accepted ?_
    rintro texts ⟨⟩
    decide +kernel
  obtain ⟨named, hnamed, hget⟩ := hrebound.replaced hok
  have heq : named = [.hs512, .hs256, .hs512] := by
    refine List.map_injective_iff.mpr (Option.some_injective _) ?_
    rw [Algorithm.map_some_of_forall₂ hnamed]
    decide +kernel
  refine ⟨⟨herror, hold, hsame herror⟩, hok, hget.trans ?_⟩
  rw [heq]
  rfl

end SubsetMatch
