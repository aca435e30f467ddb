import SubsetMatch.Config.FromYaml
import SubsetMatch.Proofs.NameTable
import SubsetMatch.Proofs.Token.Registration

/-!
# What is built from a configuration

A configuration is checked and built by two walks over the same tokens. The check is turned into
conditions on the whole lists first: every token is right on its own, names differ, and only default
functions are left out. Under these conditions no registration is refused and none replaces
another, so each token has its entry in the end. And they do not depend on the order of the lists;
neither does a table in which every look-up is settled by them.

Results:
* `validate_eq_ok_iff`: what the check accepts.
* `registerAll_of_valid`: registering valid tokens binds each name and changes no other.
* `build_of_valid`, `Describes.eq`: a valid configuration builds the comparator it describes, and
  it describes but one.
* `configuration_builds`: what is built, when, and that the order of the lists does not count.
-/

namespace SubsetMatch

open Text

/-! ## Valid configurations -/

/-- A token that is right on its own: its name is not blank, its payload is an object, and if it
names algorithms, there is one and all are known. -/
structure TokenConfig.Valid (t : TokenConfig) : Prop where
  name : allBlank t.name.toList = false
  registration : ∃ payload, t.payload = .object payload ∧
    Registration.Valid ⟨payload, t.secret, t.algorithms⟩

/-- The tokens are right and have different names, and only default functions are left out. -/
structure Config.Valid (c : Config) : Prop where
  tokens : ∀ t ∈ c.tokens, t.Valid
  names : (c.tokens.map TokenConfig.name).Nodup
  functions : ∀ name ∈ c.disabledFunctions, name ∈ Registry.defaultNames

namespace Config

variable {c c' : Config} {r r' : Comparator}

/-- The order of the lists does not count. -/
theorem Valid.perm (h : c.Valid) (ht : c.tokens.Perm c'.tokens)
    (hf : c.disabledFunctions.Perm c'.disabledFunctions) : c'.Valid where
  tokens := fun t hmem => h.tokens t (ht.mem_iff.mpr hmem)
  names := (ht.map _).nodup_iff.mp h.names
  functions := fun name hmem => h.functions name (hf.mem_iff.mpr hmem)

theorem checkAlgorithms_eq_ok_iff {name : String} {texts : List String} :
    checkAlgorithms name texts = .ok () ↔ ∀ text ∈ texts, (Algorithm.ofName? text).isSome := by
  refine ⟨checkAlgorithms_eq_ok, fun h => ?_⟩
  induction texts with
  | nil => rfl
  | cons text texts ih =>
    obtain ⟨a, ha⟩ := Option.isSome_iff_exists.mp (h text (List.mem_cons_self ..))
    rw [checkAlgorithms, ha]
    exact ih fun x hx => h x (List.mem_cons_of_mem _ hx)

/-- A token passes its check iff it is right on its own and its name is new. -/
theorem checkToken_eq_ok_iff {known : List String} {t : TokenConfig} :
    checkToken known t = .ok () ↔ t.name ∉ known ∧ t.Valid := by
  unfold checkToken
  constructor
  · intro h
    split at h
    · cases h
    · rename_i hname
      split at h
      · cases h
      · rename_i hknown
        refine ⟨by simpa using hknown, by simpa using hname, ?_⟩
        split at h
        · rename_i payload hpayload
          refine ⟨payload, hpayload, fun texts htexts => ?_⟩
          split at h
          · rename_i hnone
            rw [hnone] at htexts
            cases htexts
          · cases h
          · rename_i texts' hne hsome
            cases hsome.symm.trans htexts
            exact ⟨fun hnil => hne hnil, checkAlgorithms_eq_ok h⟩
        · cases h
  · rintro ⟨hknown, hname, payload, hpayload, halgorithms⟩
    rw [if_neg (by simpa using hname), if_neg (by simpa using hknown), hpayload]
    cases htexts : t.algorithms with
    | none => rfl
    | some texts =>
      obtain ⟨hne, hall⟩ := halgorithms texts htexts
      obtain ⟨text, rest, rfl⟩ := List.exists_cons_of_ne_nil hne
      exact checkAlgorithms_eq_ok_iff.mpr hall

/-- Tokens pass their checks iff they are right and their names are new and different. -/
theorem checkTokens_eq_ok_iff {known : List String} {ts : List TokenConfig} :
    checkTokens known ts = .ok () ↔
      (∀ t ∈ ts, t.Valid) ∧ (ts.map TokenConfig.name).Nodup ∧ ∀ t ∈ ts, t.name ∉ known := by
  induction ts generalizing known with
  | nil => simp [checkTokens]
  | cons t ts ih =>
    have hfirst : checkTokens known (t :: ts) = .ok () ↔
        checkToken known t = .ok () ∧ checkTokens (t.name :: known) ts = .ok () := by
      rw [checkTokens]
      cases checkToken known t with
      | error e => simp
      | ok u => simp
    rw [hfirst, checkToken_eq_ok_iff, ih, List.forall_mem_cons, List.forall_mem_cons, List.map_cons,
      List.nodup_cons]
    constructor
    · rintro ⟨⟨hknown, ht⟩, hts, hnodup, hnew⟩
      refine ⟨⟨ht, hts⟩, ⟨fun hmem => ?_, hnodup⟩, hknown,
        fun x hx hin => hnew x hx (List.mem_cons_of_mem _ hin)⟩
      obtain ⟨x, hx, heq⟩ := List.mem_map.mp hmem
      exact hnew x hx (heq ▸ List.mem_cons_self ..)
    · rintro ⟨⟨ht, hts⟩, ⟨hfresh, hnodup⟩, hknown, hnew⟩
      refine ⟨⟨hknown, ht⟩, hts, hnodup, fun x hx hin => ?_⟩
      rcases List.mem_cons.mp hin with heq | hin
      · exact hfresh (heq ▸ List.mem_map_of_mem hx)
      · exact hnew x hx hin

theorem checkFunctions_eq_ok_iff {names : List String} :
    checkFunctions names = .ok () ↔ ∀ name ∈ names, name ∈ Registry.defaultNames := by
  induction names with
  | nil => simp [checkFunctions]
  | cons name names ih =>
    rw [checkFunctions, List.forall_mem_cons]
    by_cases hname : name ∈ Registry.defaultNames
    · rw [if_pos (List.contains_iff_mem.mpr hname), ih]
      simp [hname]
    · rw [if_neg (mt List.contains_iff_mem.mp hname)]
      simp [hname]

/-- **The check accepts the valid configurations.** -/
theorem validate_eq_ok_iff : c.validate = .ok () ↔ c.Valid := by
  have hparts : c.validate = .ok () ↔
      checkTokens [] c.tokens = .ok () ∧ checkFunctions c.disabledFunctions = .ok () := by
    rw [validate]
    cases checkTokens [] c.tokens with
    | error e => simp
    | ok u => simp
  rw [hparts, checkTokens_eq_ok_iff, checkFunctions_eq_ok_iff]
  constructor
  · rintro ⟨⟨htokens, hnames, -⟩, hfunctions⟩
    exact ⟨htokens, hnames, hfunctions⟩
  · rintro ⟨htokens, hnames, hfunctions⟩
    exact ⟨⟨htokens, hnames, by simp⟩, hfunctions⟩

/-! ## Building -/

/-- A valid token is registered by its entry, and the functions stay as they are. -/
theorem register_of_valid {t : TokenConfig} (h : t.Valid) (r : Comparator) :
    ∃ payload, t.payload = .object payload ∧ register r t = .ok ⟨r.functions,
      r.tokens.insert t.name (Registration.entry ⟨payload, t.secret, t.algorithms⟩)⟩ := by
  obtain ⟨-, payload, hpayload, hregistration⟩ := h
  refine ⟨payload, hpayload, ?_⟩
  rw [register, hpayload]
  simp only
  split
  · rename_i hnone
    simp only [Comparator.addToken, TokenTable.add, Registration.entry, hnone]
  · rename_i texts htexts
    have hadd := TokenTable.addWith_eq_entry hregistration htexts r.tokens t.name
    simp only [Comparator.addTokenWith, hadd]

/-- **Registering valid tokens of different names** binds each name to the entry of its token and
changes no other name, and no function. -/
theorem registerAll_of_valid {ts : List TokenConfig} (h : ∀ t ∈ ts, t.Valid)
    (hnames : (ts.map TokenConfig.name).Nodup) (r : Comparator) :
    ∃ r', registerAll r ts = .ok r' ∧ r'.functions = r.functions ∧
      (∀ t ∈ ts, ∃ payload, t.payload = .object payload ∧ r'.tokens.get? t.name =
        some (Registration.entry ⟨payload, t.secret, t.algorithms⟩)) ∧
      ∀ name, name ∉ ts.map TokenConfig.name → r'.tokens.get? name = r.tokens.get? name := by
  induction ts generalizing r with
  | nil => exact ⟨r, rfl, rfl, by simp, fun _ _ => rfl⟩
  | cons t ts ih =>
    obtain ⟨hfresh, hnodup⟩ := List.nodup_cons.mp hnames
    obtain ⟨payload, hpayload, hregister⟩ := register_of_valid (h t (List.mem_cons_self ..)) r
    obtain ⟨r', hall, hfunctions, hbound, hframe⟩ :=
      ih (fun x hx => h x (List.mem_cons_of_mem _ hx)) hnodup ⟨r.functions,
        r.tokens.insert t.name (Registration.entry ⟨payload, t.secret, t.algorithms⟩)⟩
    refine ⟨r', ?_, hfunctions, fun x hx => ?_, fun name hname => ?_⟩
    · rw [registerAll, hregister]
      exact hall
    · rcases List.mem_cons.mp hx with rfl | hx
      · refine ⟨payload, hpayload, ?_⟩
        rw [hframe x.name hfresh, NameTable.get?_insert, if_pos rfl]
      · exact hbound x hx
    · obtain ⟨hne, hrest⟩ : name ≠ t.name ∧ name ∉ ts.map TokenConfig.name := by
        simpa only [List.map_cons, List.mem_cons, not_or] using hname
      rw [hframe name hrest, NameTable.get?_insert, if_neg (Ne.symm hne)]

/-- Functions left out one after the other are gone, and nothing else is. -/
theorem removeFunctions (names : List String) (r : Comparator) :
    (names.foldl Comparator.removeFunction r).tokens = r.tokens ∧
      ∀ name, (names.foldl Comparator.removeFunction r).functions.get? name =
        if name ∈ names then none else r.functions.get? name := by
  induction names generalizing r with
  | nil => simp
  | cons first names ih =>
    obtain ⟨htokens, hfunctions⟩ := ih (r.removeFunction first)
    refine ⟨htokens, fun name => ?_⟩
    rw [List.foldl_cons, hfunctions, Comparator.removeFunction, NameTable.get?_erase]
    by_cases hname : name ∈ names
    · simp [hname]
    · by_cases hfirst : first = name
      · simp [hfirst]
      · simp [hname, hfirst, Ne.symm hfirst]

/-- A comparator is what a configuration says: it has the default functions but for those left out,
and for each token the entry of its registration, and nothing else. -/
structure Describes (c : Config) (r : Comparator) : Prop where
  functions : ∀ name, r.functions.get? name =
    if name ∈ c.disabledFunctions then none else Registry.defaults.get? name
  tokens : ∀ t ∈ c.tokens, ∃ payload, t.payload = .object payload ∧
    r.tokens.get? t.name = some (Registration.entry ⟨payload, t.secret, t.algorithms⟩)
  others : ∀ name, name ∉ c.tokens.map TokenConfig.name → r.tokens.get? name = none

theorem Describes.perm (h : c.Describes r) (ht : c.tokens.Perm c'.tokens)
    (hf : c.disabledFunctions.Perm c'.disabledFunctions) : c'.Describes r where
  functions := fun name => by simp only [h.functions name, hf.mem_iff]
  tokens := fun t hmem => h.tokens t (ht.mem_iff.mpr hmem)
  others := fun name hmem => h.others name fun hname => hmem ((ht.map _).mem_iff.mp hname)

/-- **A configuration describes one comparator only**: each look-up is settled. -/
theorem Describes.eq (h : c.Describes r) (h' : c.Describes r') : r = r' := by
  have hfunctions : r.functions = r'.functions :=
    NameTable.ext_get? fun name => by rw [h.functions name, h'.functions name]
  have htokens : r.tokens = r'.tokens := by
    refine NameTable.ext_get? fun name => ?_
    by_cases hname : name ∈ c.tokens.map TokenConfig.name
    · obtain ⟨t, ht, rfl⟩ := List.mem_map.mp hname
      obtain ⟨payload, hpayload, hget⟩ := h.tokens t ht
      obtain ⟨payload', hpayload', hget'⟩ := h'.tokens t ht
      cases hpayload.symm.trans hpayload'
      rw [hget, hget']
    · rw [h.others name hname, h'.others name hname]
  cases r
  cases r'
  cases hfunctions
  cases htokens
  rfl

theorem Describes.names_functions (h : c.Describes r) :
    r.functions.names.Perm (Registry.defaultNames.filter (· ∉ c.disabledFunctions)) := by
  have hdefaults : ∀ name, name ∈ Registry.defaultNames ↔
      ∃ m, Registry.defaults.get? name = some m := by
    have hperm : Registry.defaults.names.Perm Registry.defaultNames := by decide
    intro name
    rw [← hperm.mem_iff, NameTable.mem_names_iff]
  have hnodup : Registry.defaultNames.Nodup := by decide
  refine NameTable.names_perm (hnodup.filter _) fun name => ?_
  rw [h.functions name, List.mem_filter, hdefaults]
  by_cases hname : name ∈ c.disabledFunctions
  · simp [hname]
  · simp [hname]

theorem Describes.names_tokens (h : c.Describes r)
    (hnames : (c.tokens.map TokenConfig.name).Nodup) :
    r.tokens.names.Perm (c.tokens.map TokenConfig.name) := by
  refine NameTable.names_perm hnames fun name => ?_
  constructor
  · rintro ⟨entry, hget⟩
    by_contra hname
    rw [h.others name hname] at hget
    cases hget
  · intro hname
    obtain ⟨t, ht, rfl⟩ := List.mem_map.mp hname
    obtain ⟨payload, -, hget⟩ := h.tokens t ht
    exact ⟨_, hget⟩

/-- **A valid configuration builds the comparator that it describes.** -/
theorem build_of_valid (h : c.Valid) : ∃ r, c.build = .ok r ∧ c.Describes r := by
  obtain ⟨htokens, hfunctions⟩ := removeFunctions c.disabledFunctions Comparator.withDefaults
  obtain ⟨r, hall, hkept, hbound, hframe⟩ := registerAll_of_valid h.tokens h.names
    (c.disabledFunctions.foldl Comparator.removeFunction Comparator.withDefaults)
  refine ⟨r, ?_, fun name => ?_, hbound, fun name hname => ?_⟩
  · rw [build, validate_eq_ok_iff.mpr h]
    exact hall
  · rw [hkept]
    exact hfunctions name
  · rw [hframe name hname, htokens]
    exact NameTable.get?_empty name

/-- A configuration builds a comparator iff it is valid and describes it. -/
theorem build_eq_ok_iff : c.build = .ok r ↔ c.Valid ∧ c.Describes r := by
  constructor
  · intro hbuild
    have hvalid : c.Valid := validate_eq_ok_iff.mp ((build_isOk_iff c).mp ⟨r, hbuild⟩)
    obtain ⟨r', hbuild', hdescribes⟩ := build_of_valid hvalid
    cases hbuild.symm.trans hbuild'
    exact ⟨hvalid, hdescribes⟩
  · rintro ⟨hvalid, hdescribes⟩
    obtain ⟨r', hbuild, hdescribes'⟩ := build_of_valid hvalid
    rw [hbuild, hdescribes'.eq hdescribes]

/-- A text that is loaded gives a valid configuration. -/
theorem valid_of_load {text : List Char} (h : load text = .ok c) : c.Valid := by
  unfold load at h
  split at h
  · cases h
  · split at h
    · cases h
    · rename_i hvalidate
      cases h
      exact validate_eq_ok_iff.mp hvalidate

theorem build_eq_error_iff {e : Fault} : c.build = .error e ↔ c.validate = .error e := by
  cases hvalidate : c.validate with
  | error f =>
    have hbuild : c.build = .error f := by simp only [build, hvalidate]
    rw [hbuild, Except.error.injEq, Except.error.injEq]
  | ok u =>
    obtain ⟨r, hbuild, -⟩ := build_of_valid (validate_eq_ok_iff.mp hvalidate)
    simp [hbuild]

end Config

/-- **A configuration builds iff it is valid, and it builds just what it says.** The faults of
building are those of the check, and what is loaded from a text builds. The functions of the
comparator are the default ones but for those left out, however often they are. Its tokens are those
of the configuration, each with its payload, its secret and its algorithms, which are those named,
each once, or all. And the order of the tokens and of the functions left out changes neither the
check nor the comparator. -/
theorem configuration_builds (c : Config) :
    ((∃ r, c.build = .ok r) ↔ c.validate = .ok ()) ∧
    (∀ e, c.build = .error e ↔ c.validate = .error e) ∧
    (∀ text, Config.load text = .ok c → ∃ r, c.build = .ok r) ∧
    (∀ r, c.build = .ok r →
      r.functions.names.Perm (Registry.defaultNames.filter (· ∉ c.disabledFunctions)) ∧
      (∀ name m, r.functions.get? name = some m → Registry.defaults.get? name = some m) ∧
      r.tokens.names.Perm (c.tokens.map TokenConfig.name) ∧
      ∀ t ∈ c.tokens, ∃ entry, r.tokens.get? t.name = some entry ∧
        t.payload = .object entry.payload ∧ entry.secret = t.secret ∧
        entry.algorithms = match t.algorithms with
          | none => Algorithm.all
          | some texts => (texts.filterMap Algorithm.ofName?).eraseDups) ∧
    ∀ c' : Config, c.tokens.Perm c'.tokens → c.disabledFunctions.Perm c'.disabledFunctions →
      (c.validate = .ok () ↔ c'.validate = .ok ()) ∧ ∀ r, c.build = .ok r ↔ c'.build = .ok r := by
  refine ⟨Config.build_isOk_iff c, fun e => Config.build_eq_error_iff, fun text hload => ?_,
    fun r hbuild => ?_, fun c' ht hf => ⟨?_, fun r => ?_⟩⟩
  · obtain ⟨r, hbuild, -⟩ := Config.build_of_valid (Config.valid_of_load hload)
    exact ⟨r, hbuild⟩
  · obtain ⟨hvalid, hdescribes⟩ := Config.build_eq_ok_iff.mp hbuild
    refine ⟨hdescribes.names_functions, fun name m hm => ?_,
      hdescribes.names_tokens hvalid.names, fun t hmem => ?_⟩
    · rw [hdescribes.functions name] at hm
      split at hm
      · cases hm
      · exact hm
    · obtain ⟨payload, hpayload, hget⟩ := hdescribes.tokens t hmem
      exact ⟨_, hget, hpayload, rfl, rfl⟩
  · rw [Config.validate_eq_ok_iff, Config.validate_eq_ok_iff]
    exact ⟨fun h => h.perm ht hf, fun h => h.perm ht.symm hf.symm⟩
  · rw [Config.build_eq_ok_iff, Config.build_eq_ok_iff]
    exact ⟨fun ⟨h, hr⟩ => ⟨h.perm ht hf, hr.perm ht hf⟩,
      fun ⟨h, hr⟩ => ⟨h.perm ht.symm hf.symm, hr.perm ht.symm hf.symm⟩⟩

/-- Two tokens, one of which names an algorithm twice, and a function that is left out twice. -/
def twoTokens : Config :=
  ⟨[⟨"a", "k", .object [], some ["HS512", "hs256", "hs512"]⟩, ⟨"b", "l", .object [], none⟩],
    ["gt", "lt", "gt"]⟩

/-- They are built, and built alike in another order; and a text is loaded that builds. -/
theorem configuration_builds_twoTokens :
    let c' : Config := ⟨twoTokens.tokens.reverse, ["gt", "gt", "lt"]⟩
    (∃ r, twoTokens.build = .ok r ∧ c'.build = .ok r ∧
      r.functions.names.Perm
        ["arrayLength", "arrayMinLength", "arrayMaxLength", "variableType", "regExp", "jwt"] ∧
      r.tokens.names.Perm ["a", "b"] ∧
      ∃ entry, r.tokens.get? "a" = some entry ∧ entry.secret = "k" ∧
        entry.algorithms = [.hs512, .hs256]) ∧
    ∃ c r, Config.load "disabled_functions: [gt, lt, gt]".toList = .ok c ∧ c.build = .ok r := by
  intro c'
  constructor
  · obtain ⟨hbuilds, -, -, hbuilt, horder⟩ := configuration_builds twoTokens
    obtain ⟨r, hr⟩ := hbuilds.mpr (by rfl)
    obtain ⟨hfunctions, -, htokens, hentries⟩ := hbuilt r hr
    obtain ⟨-, hsame⟩ := horder c' (List.reverse_perm _).symm (by decide)
    obtain ⟨entry, hget, -, hsecret, halgorithms⟩ := hentries _ (List.mem_cons_self ..)
    have hkept : Registry.defaultNames.filter (· ∉ twoTokens.disabledFunctions) =
        ["arrayLength", "arrayMinLength", "arrayMaxLength", "variableType", "regExp", "jwt"] := by
      decide
    have hnamed : ["HS512", "hs256", "hs512"].filterMap Algorithm.ofName? =
        [.hs512, .hs256, .hs512] := by
      decide +kernel
    refine ⟨r, hr, (hsame r).mp hr, hkept ▸ hfunctions, htokens, entry, hget, hsecret, ?_⟩
    rw [halgorithms]
    simp only
    rw [hnamed]
    decide
  · have hloaded : (Config.load "disabled_functions: [gt, lt, gt]".toList).toOption.isSome := by
      decide +kernel
    cases hload : Config.load "disabled_functions: [gt, lt, gt]".toList with
    | error e =>
      rw [hload] at hloaded
      cases hloaded
    | ok c =>
      obtain ⟨-, -, hbuilds, -⟩ := configuration_builds c
      obtain ⟨r, hr⟩ := hbuilds _ hload
      exact ⟨c, r, rfl, hr⟩

end SubsetMatch
