import SubsetMatch.Json.StringText

/-!
# Reading documents

A document text is one value between blanks. Lists and objects nest at most 127 levels deep. A
key may be written more than once: `readTree` keeps every member as written, `read` settles them.
Both sides of `compare_json` and both operands of a command line are read with `read`.

Results:
* `value_frugal`: a value holds no more text than was read for it.
* `textLength_le_of_read`: the strings of a document are never longer than its text.
-/

namespace SubsetMatch.Json

/-- A blank of a document text. -/
def isSpace (c : Char) : Bool :=
  c == ' ' || c == '\n' || c == '\t' || c == '\r'

/-- The text from its first character that is no blank. -/
def skip (cs : List Char) : List Char :=
  cs.dropWhile isSpace

/-- The rest of a word whose first letter has been read. -/
def word (v : Value) : List Char → List Char → Reading Value
  | [], cs => .ok (v, cs)
  | _ :: _, [] => .error ⟨.eofValue, [], 0⟩
  | e :: es, c :: cs => if c == e then word v es cs else .error ⟨.expectedIdent, c :: cs, 1⟩

/-- A reading whose result is changed by a function. -/
def Reading.map {α β : Type} (f : α → β) : Reading α → Reading β
  | .error e => .error e
  | .ok (a, rest) => .ok (f a, rest)

/-- Elements up to the closing bracket, at least one. -/
def elementsFrom (one : List Char → Reading Value) : Nat → List Char → Reading (List Value)
  | 0, cs => .error ⟨.eofList, cs, 1⟩
  | fuel + 1, cs =>
    match one cs with
    | .error f => .error f
    | .ok (v, rest) =>
      match skip rest with
      | [] => .error ⟨.eofList, [], 1⟩
      | ']' :: rest => .ok ([v], rest)
      | ',' :: rest =>
        match skip rest with
        | [] => .error ⟨.eofValue, [], 1⟩
        | ']' :: rest => .error ⟨.trailingComma, ']' :: rest, 1⟩
        | rest => (elementsFrom one fuel rest).map (v :: ·)
      | rest => .error ⟨.expectedListEnd, rest, 1⟩

/-- The elements behind an opening bracket. -/
def elements (one : List Char → Reading Value) (cs : List Char) : Reading (List Value) :=
  match skip cs with
  | [] => .error ⟨.eofList, [], 1⟩
  | ']' :: rest => .ok ([], rest)
  | rest => elementsFrom one rest.length rest

/-- A member: a key in quotes, a colon and a value. -/
def member (one : List Char → Reading Value) (cs : List Char) : Reading (String × Value) :=
  match cs with
  | '"' :: rest =>
    match stringBody rest with
    | .error f => .error f
    | .ok (key, rest) =>
      match skip rest with
      | [] => .error ⟨.eofObject, [], 1⟩
      | ':' :: rest => (one rest).map fun v => (String.ofList key, v)
      | rest => .error ⟨.expectedColon, rest, 1⟩
  | _ => .error ⟨.keyNotString, cs, 1⟩

/-- Members up to the closing brace, at least one. -/
def membersFrom (one : List Char → Reading Value) :
    Nat → List Char → Reading (List (String × Value))
  | 0, cs => .error ⟨.eofObject, cs, 1⟩
  | fuel + 1, cs =>
    match member one cs with
    | .error f => .error f
    | .ok (m, rest) =>
      match skip rest with
      | [] => .error ⟨.eofObject, [], 1⟩
      | '}' :: rest => .ok ([m], rest)
      | ',' :: rest =>
        match skip rest with
        | [] => .error ⟨.eofValue, [], 1⟩
        | '}' :: rest => .error ⟨.trailingComma, '}' :: rest, 1⟩
        | rest => (membersFrom one fuel rest).map (m :: ·)
      | rest => .error ⟨.expectedObjectEnd, rest, 1⟩

/-- The members behind an opening brace. -/
def members (one : List Char → Reading Value) (cs : List Char) : Reading (List (String × Value)) :=
  match skip cs with
  | [] => .error ⟨.eofObject, [], 1⟩
  | '}' :: rest => .ok ([], rest)
  | rest => membersFrom one rest.length rest

/-- A value whose elements are read by `inner`; without it, no list or object may open. -/
def valueWith (inner : Option (List Char → Reading Value)) (cs : List Char) : Reading Value :=
  match skip cs with
  | [] => .error ⟨.eofValue, [], 1⟩
  | c :: rest =>
    match c with
    | 'n' => word .null "ull".toList rest
    | 't' => word (.bool true) "rue".toList rest
    | 'f' => word (.bool false) "alse".toList rest
    | '"' => (stringBody rest).map fun s => .string (String.ofList s)
    | '[' =>
      match inner with
      | none => .error ⟨.recursionLimit, c :: rest, 1⟩
      | some one => (elements one rest).map .array
    | '{' =>
      match inner with
      | none => .error ⟨.recursionLimit, c :: rest, 1⟩
      | some one => (members one rest).map .object
    | _ =>
      if c == '-' || c.isDigit then (number (c :: rest)).map .number
      else .error ⟨.expectedValue, c :: rest, 1⟩

/-- A value with at most so many levels of lists and objects. -/
def value : Nat → List Char → Reading Value
  | 0 => valueWith none
  | levels + 1 => valueWith (some (value levels))

/-- The deepest nesting. -/
def maxLevels : Nat := 127

/-- A whole text as one value, members as written. -/
def readTree (text : List Char) : Except Error Value :=
  match value maxLevels text with
  | .error f => .error (f.within text)
  | .ok (v, rest) =>
    match skip rest with
    | [] => .ok v
    | rest => .error (Fault.within text ⟨.trailingCharacters, rest, 1⟩)

/-- A whole text as one document. -/
def read (text : List Char) : Except Error Value :=
  (readTree text).map Value.settle

/-! ## How much text a value holds -/

theorem skip_length_le (cs : List Char) : (skip cs).length ≤ cs.length := by
  induction cs with
  | nil => simp [skip]
  | cons c cs ih =>
    rw [skip, List.dropWhile_cons]
    split
    · have := ih
      simp only [skip, List.length_cons] at *
      omega
    · simp

theorem map_eq_ok_iff {α β : Type} {f : α → β} {r : Reading α} {b : β} {rest : List Char} :
    r.map f = .ok (b, rest) ↔ ∃ a, r = .ok (a, rest) ∧ f a = b := by
  rcases r with e | ⟨a, rest'⟩
  · simp [Reading.map]
  · simp only [Reading.map, Except.ok.injEq, Prod.mk.injEq]
    constructor
    · rintro ⟨rfl, rfl⟩
      exact ⟨a, ⟨rfl, rfl⟩, rfl⟩
    · rintro ⟨a', ⟨rfl, rfl⟩, rfl⟩
      exact ⟨rfl, rfl⟩

theorem word_shorter {v w : Value} {es cs rest : List Char} (h : word v es cs = .ok (w, rest)) :
    w = v ∧ rest.length ≤ cs.length := by
  induction es generalizing cs with
  | nil =>
    simp only [word, Except.ok.injEq, Prod.mk.injEq] at h
    obtain ⟨rfl, rfl⟩ := h
    simp
  | cons e es ih =>
    cases cs with
    | nil => simp [word] at h
    | cons c cs =>
      rw [word] at h
      split at h
      · have := ih h
        refine ⟨this.1, ?_⟩
        simp only [List.length_cons]
        omega
      · simp at h

/-- A reader whose values hold no more text than it takes. -/
def Frugal (one : List Char → Reading Value) : Prop :=
  ∀ cs v rest, one cs = .ok (v, rest) → v.textLength + rest.length ≤ cs.length

theorem elementsFrom_frugal {one : List Char → Reading Value} (hone : Frugal one) {fuel : Nat}
    {cs rest : List Char} {items : List Value}
    (h : elementsFrom one fuel cs = .ok (items, rest)) :
    Value.textLengthItems items + rest.length ≤ cs.length := by
  induction fuel generalizing cs items with
  | zero => simp [elementsFrom] at h
  | succ fuel ih =>
    rw [elementsFrom] at h
    split at h
    · simp at h
    · rename_i v r hv
      have hle := hone _ _ _ hv
      have hskip := skip_length_le r
      split at h
      · simp at h
      · rename_i r' hr
        simp only [Except.ok.injEq, Prod.mk.injEq] at h
        obtain ⟨rfl, rfl⟩ := h
        rw [hr] at hskip
        simp only [List.length_cons, Value.textLengthItems] at *
        omega
      · rename_i r' hr
        rw [hr] at hskip
        have hskip' := skip_length_le r'
        simp only [List.length_cons] at hskip
        split at h
        · simp at h
        · simp at h
        · obtain ⟨items', hi, rfl⟩ := map_eq_ok_iff.1 h
          have := ih hi
          simp only [Value.textLengthItems]
          omega
      · simp at h

theorem elements_frugal {one : List Char → Reading Value} (hone : Frugal one)
    {cs rest : List Char} {items : List Value} (h : elements one cs = .ok (items, rest)) :
    Value.textLengthItems items + rest.length ≤ cs.length := by
  have hskip := skip_length_le cs
  unfold elements at h
  split at h
  · simp at h
  · rename_i r hr
    simp only [Except.ok.injEq, Prod.mk.injEq] at h
    obtain ⟨rfl, rfl⟩ := h
    rw [hr] at hskip
    simp only [List.length_cons, Value.textLengthItems] at *
    omega
  · have := elementsFrom_frugal hone h
    omega

theorem member_frugal {one : List Char → Reading Value} (hone : Frugal one)
    {cs rest : List Char} {m : String × Value} (h : member one cs = .ok (m, rest)) :
    m.2.textLength + rest.length ≤ cs.length := by
  unfold member at h
  split at h
  · rename_i body
    split at h
    · simp at h
    · rename_i key r hk
      have hkey := stringBody_shorter hk
      have hskip := skip_length_le r
      split at h
      · simp at h
      · rename_i r' hr
        obtain ⟨v, hv, rfl⟩ := map_eq_ok_iff.1 h
        have := hone _ _ _ hv
        rw [hr] at hskip
        simp only [List.length_cons] at *
        omega
      · simp at h
  · simp at h

theorem membersFrom_frugal {one : List Char → Reading Value} (hone : Frugal one) {fuel : Nat}
    {cs rest : List Char} {ms : List (String × Value)}
    (h : membersFrom one fuel cs = .ok (ms, rest)) :
    Value.textLengthMembers ms + rest.length ≤ cs.length := by
  induction fuel generalizing cs ms with
  | zero => simp [membersFrom] at h
  | succ fuel ih =>
    rw [membersFrom] at h
    split at h
    · simp at h
    · rename_i m r hm
      have hle := member_frugal hone hm
      have hskip := skip_length_le r
      split at h
      · simp at h
      · rename_i r' hr
        simp only [Except.ok.injEq, Prod.mk.injEq] at h
        obtain ⟨rfl, rfl⟩ := h
        rw [hr] at hskip
        simp only [List.length_cons, Value.textLengthMembers] at *
        omega
      · rename_i r' hr
        rw [hr] at hskip
        have hskip' := skip_length_le r'
        simp only [List.length_cons] at hskip
        split at h
        · simp at h
        · simp at h
        · obtain ⟨ms', hi, rfl⟩ := map_eq_ok_iff.1 h
          have := ih hi
          simp only [Value.textLengthMembers]
          omega
      · simp at h

theorem members_frugal {one : List Char → Reading Value} (hone : Frugal one)
    {cs rest : List Char} {ms : List (String × Value)} (h : members one cs = .ok (ms, rest)) :
    Value.textLengthMembers ms + rest.length ≤ cs.length := by
  have hskip := skip_length_le cs
  unfold members at h
  split at h
  · simp at h
  · rename_i r hr
    simp only [Except.ok.injEq, Prod.mk.injEq] at h
    obtain ⟨rfl, rfl⟩ := h
    rw [hr] at hskip
    simp only [List.length_cons, Value.textLengthMembers] at *
    omega
  · have := membersFrom_frugal hone h
    omega

theorem valueWith_frugal {inner : Option (List Char → Reading Value)}
    (hinner : ∀ one, inner = some one → Frugal one) : Frugal (valueWith inner) := by
  intro cs v rest h
  have hskip := skip_length_le cs
  unfold valueWith at h
  split at h
  · simp at h
  · rename_i c r hr
    rw [hr] at hskip
    simp only [List.length_cons] at hskip
    split at h
    · obtain ⟨rfl, _⟩ := word_shorter h
      simp only [Value.textLength]
      omega
    · obtain ⟨rfl, _⟩ := word_shorter h
      simp only [Value.textLength]
      omega
    · obtain ⟨rfl, _⟩ := word_shorter h
      simp only [Value.textLength]
      omega
    · obtain ⟨s, hs, rfl⟩ := map_eq_ok_iff.1 h
      have := stringBody_shorter hs
      simp only [Value.textLength, String.length_ofList]
      omega
    · split at h
      · simp at h
      · obtain ⟨items, hi, rfl⟩ := map_eq_ok_iff.1 h
        have := elements_frugal (hinner _ rfl) hi
        simp only [Value.textLength]
        omega
    · split at h
      · simp at h
      · obtain ⟨ms, hm, rfl⟩ := map_eq_ok_iff.1 h
        have := members_frugal (hinner _ rfl) hm
        simp only [Value.textLength]
        omega
    · split at h
      · obtain ⟨n, hn, rfl⟩ := map_eq_ok_iff.1 h
        have := number_rest_le hn
        simp only [Value.textLength, List.length_cons] at *
        omega
      · simp at h

theorem value_frugal (levels : Nat) : Frugal (value levels) := by
  induction levels with
  | zero => exact valueWith_frugal (by simp)
  | succ levels ih =>
    exact valueWith_frugal fun one hone => by
      simp only [Option.some.injEq] at hone
      exact hone ▸ ih

theorem textLength_le_of_readTree {text : List Char} {v : Value} (h : readTree text = .ok v) :
    v.textLength ≤ text.length := by
  unfold readTree at h
  split at h
  · simp at h
  · rename_i w r hw
    have := value_frugal _ _ _ _ hw
    split at h
    · simp only [Except.ok.injEq] at h
      subst h
      omega
    · simp at h

/-- The strings of a document are never longer than its text. -/
theorem textLength_le_of_read {text : List Char} {v : Value} (h : read text = .ok v) :
    v.textLength ≤ text.length := by
  unfold read at h
  cases hr : readTree text with
  | error e => simp [hr, Except.map] at h
  | ok w =>
    simp only [hr, Except.map, Except.ok.injEq] at h
    subst h
    exact Nat.le_trans (Value.textLength_settle_le w) (textLength_le_of_readTree hr)

end SubsetMatch.Json
