import SubsetMatch.Json.NumberText

/-!
# Strings in document texts

The text between two quotes, with its escapes. A code point above U+FFFF may be written as a pair
of surrogates; a surrogate on its own is refused, as is a control character.

Results:
* `escaped_rest_lt`, `stringBody_shorter`: every character of a string takes at least one
  character of its text, and the closing quote one more.
-/

namespace SubsetMatch.Json

open Decimal Text

/-- The value of a run of hexadecimal digits. -/
def hexValues? (cs : List Char) : Option Nat :=
  cs.foldl (fun acc c => acc.bind fun n => (hexValue? c).map (16 * n + ·)) (some 0)

/-- Four hexadecimal digits. Four bytes are looked at, whatever they are. -/
def hexEscape (cs : List Char) : Reading Nat :=
  match cs with
  | a :: b :: c :: d :: rest =>
    match hexValues? [a, b, c, d] with
    | some n => .ok (n, rest)
    | none => .error ⟨.invalidEscape, cs, 4⟩
  | _ => if Utf8.width cs < 4 then .error ⟨.eofString, [], 0⟩ else .error ⟨.invalidEscape, cs, 4⟩

/-- The second half of a pair of surrogates, after a first half worth `high`. -/
def lowSurrogate (high : Nat) (cs : List Char) : Reading Char :=
  match cs with
  | '\\' :: 'u' :: rest =>
    match hexEscape rest with
    | .error f => .error f
    | .ok (low, rest) =>
      if 0xDC00 ≤ low && low ≤ 0xDFFF then
        .ok (Char.ofNat ((high - 0xD800) * 0x400 + (low - 0xDC00) + 0x10000), rest)
      else .error ⟨.loneSurrogate, rest, 0⟩
  | ['\\'] => .error ⟨.eofString, [], 0⟩
  | '\\' :: rest => .error ⟨.endOfHexEscape, rest, 1⟩
  | [] => .error ⟨.eofString, [], 0⟩
  | _ => .error ⟨.endOfHexEscape, cs, 1⟩

/-- The code point behind `\u`. -/
def unicodeEscape (cs : List Char) : Reading Char :=
  match hexEscape cs with
  | .error f => .error f
  | .ok (n, rest) =>
    if 0xDC00 ≤ n && n ≤ 0xDFFF then .error ⟨.loneSurrogate, rest, 0⟩
    else if 0xD800 ≤ n && n ≤ 0xDBFF then lowSurrogate n rest
    else .ok (Char.ofNat n, rest)

/-- The character behind a backslash. -/
def escaped (cs : List Char) : Reading Char :=
  match cs with
  | [] => .error ⟨.eofString, [], 0⟩
  | c :: rest =>
    match c with
    | '"' | '\\' | '/' => .ok (c, rest)
    | 'b' => .ok (Char.ofNat 8, rest)
    | 'f' => .ok (Char.ofNat 12, rest)
    | 'n' => .ok ('\n', rest)
    | 'r' => .ok ('\r', rest)
    | 't' => .ok ('\t', rest)
    | 'u' => unicodeEscape rest
    | _ => .error ⟨.invalidEscape, cs, 1⟩

theorem hexEscape_rest_lt {cs rest : List Char} {n : Nat} (h : hexEscape cs = .ok (n, rest)) :
    rest.length < cs.length := by
  unfold hexEscape at h
  split at h
  · split at h
    · simp only [Except.ok.injEq, Prod.mk.injEq] at h
      obtain ⟨_, rfl⟩ := h
      simp only [List.length_cons]
      omega
    · simp at h
  · split at h <;> simp at h

theorem lowSurrogate_rest_lt {high : Nat} {cs rest : List Char} {c : Char}
    (h : lowSurrogate high cs = .ok (c, rest)) : rest.length < cs.length := by
  unfold lowSurrogate at h
  split at h
  · split at h
    · simp at h
    · rename_i hx
      have := hexEscape_rest_lt hx
      split at h
      · simp only [Except.ok.injEq, Prod.mk.injEq] at h
        obtain ⟨_, rfl⟩ := h
        simp only [List.length_cons]
        omega
      · simp at h
  all_goals simp at h

theorem unicodeEscape_rest_lt {cs rest : List Char} {c : Char}
    (h : unicodeEscape cs = .ok (c, rest)) : rest.length < cs.length := by
  unfold unicodeEscape at h
  split at h
  · simp at h
  · rename_i hx
    have := hexEscape_rest_lt hx
    split at h
    · simp at h
    · split at h
      · have := lowSurrogate_rest_lt h
        omega
      · simp only [Except.ok.injEq, Prod.mk.injEq] at h
        obtain ⟨_, rfl⟩ := h
        omega

theorem escaped_rest_lt {cs rest : List Char} {c : Char} (h : escaped cs = .ok (c, rest)) :
    rest.length < cs.length := by
  unfold escaped at h
  split at h
  · simp at h
  · split at h
    all_goals first
      | (have hlt := unicodeEscape_rest_lt h
         simp only [List.length_cons]
         omega)
      | (simp only [Except.ok.injEq, Prod.mk.injEq] at h
         obtain ⟨_, rfl⟩ := h
         simp)
      | simp at h

/-- The characters up to the closing quote. -/
def stringBody (cs : List Char) : Reading (List Char) :=
  match cs with
  | [] => .error ⟨.eofString, [], 0⟩
  | c :: rest =>
    if c == '"' then .ok ([], rest)
    else if c == '\\' then
      match h : escaped rest with
      | .error f => .error f
      | .ok (e, rest') =>
        have : rest'.length < rest.length := escaped_rest_lt h
        (stringBody rest').map fun (s, rest) => (e :: s, rest)
    else if c.val < 32 then .error ⟨.controlCharacter, cs, 1⟩
    else (stringBody rest).map fun (s, rest) => (c :: s, rest)
termination_by cs.length
decreasing_by all_goals (simp only [List.length_cons]; omega)

theorem stringBody_shorter {cs s rest : List Char} (h : stringBody cs = .ok (s, rest)) :
    s.length + rest.length < cs.length := by
  fun_induction stringBody cs generalizing s with
  | case1 => simp at h
  | case2 c tail hc =>
    simp only [Except.ok.injEq, Prod.mk.injEq] at h
    obtain ⟨rfl, rfl⟩ := h
    simp
  | case3 => simp at h
  | case4 c tail _ _ e tail' he hlt ih =>
    cases hb : stringBody tail' with
    | error f => simp [hb, Except.map] at h
    | ok p =>
      simp only [hb, Except.map, Except.ok.injEq, Prod.mk.injEq] at h
      obtain ⟨rfl, rfl⟩ := h
      have := ih hb
      simp only [List.length_cons]
      omega
  | case5 => simp at h
  | case6 c tail _ _ _ ih =>
    cases hb : stringBody tail with
    | error f => simp [hb, Except.map] at h
    | ok p =>
      simp only [hb, Except.map, Except.ok.injEq, Prod.mk.injEq] at h
      obtain ⟨rfl, rfl⟩ := h
      have := ih hb
      simp only [List.length_cons]
      omega

end SubsetMatch.Json
