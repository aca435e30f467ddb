import SubsetMatch.Yaml.Node

/-!
# Documents from tokens

The grammar of documents over tokens. A text holds one document at most; without any it holds none.
-/

namespace SubsetMatch.Yaml

/-- The names given to anchors so far with their numbers, the last one first, and the prefixes of
tag handles. -/
structure Names where
  anchors : List (List Char × Nat)
  tags : List (List Char × List Char)
deriving DecidableEq, Repr

/-- Tokens still to be read and the names known so far. -/
structure Input where
  tokens : List Token
  names : Names
deriving DecidableEq, Repr

/-- What tokens are read to. -/
abbrev Parse (α : Type) := Except Error (α × Input)

namespace Input

/-- A reason; tokens bear no place. -/
def fail {α : Type} (_ : Input) (r : Reason) : Except Error α :=
  .error ⟨r, .start⟩

/-- The next token. -/
def peek (i : Input) : Option Token :=
  i.tokens.head?

/-- The tokens behind the next one. -/
def skip (i : Input) : Input :=
  { i with tokens := i.tokens.tail }

/-- Whether the next token is one of some. -/
def isAt (i : Input) (ts : List Token) : Bool :=
  (i.peek.map ts.contains).getD true

/-- The number of an anchor that is defined here. A name that was used before keeps the count of
names. -/
def define (i : Input) (name : List Char) : Nat × Input :=
  let known := (i.names.anchors.map Prod.fst).eraseDups.length
  (known, { i with names := { i.names with anchors := (name, known) :: i.names.anchors } })

/-- The number that an alias stands for. -/
def number? (i : Input) (name : List Char) : Option Nat :=
  (i.names.anchors.find? fun e => e.1 == name).map Prod.snd

end Input

/-- The prefixes that need no directive. -/
def defaultTags : List (List Char × List Char) :=
  [(['!'], ['!']), (['!', '!'], "tag:yaml.org,2002:".toList)]

/-- The full name of a tag. -/
def fullTag (i : Input) (handle suffix : List Char) : Except Error String :=
  if handle.isEmpty then .ok (String.ofList suffix)
  else
    match i.names.tags.find? fun e => e.1 == handle with
    | none => i.fail .tagHandle
    | some (_, lead) => .ok (String.ofList (lead ++ suffix))

/-- The tag that comes next, if there is one. -/
def readTagLabel (i : Input) : Parse (Option String) :=
  match i.peek with
  | some (.tag handle suffix) => (fullTag i handle suffix).map fun t => (some t, i.skip)
  | _ => .ok (none, i)

/-- The anchor that comes next, if there is one. -/
def readAnchorLabel (i : Input) : Option Nat × Input :=
  match i.peek with
  | some (.anchor name) =>
    let (n, i) := i.define name
    (some n, i.skip)
  | _ => (none, i)

/-- An anchor and a tag, in either order. -/
def readLabel (i : Input) : Parse Label :=
  let (first, i) := readAnchorLabel i
  match readTagLabel i with
  | .error e => .error e
  | .ok (tag, i) =>
    let (second, i) := if first.isNone && tag.isSome then readAnchorLabel i else (none, i)
    .ok (⟨first.or second, tag⟩, i)

/-- A plain scalar without text, which stands for a missing node. -/
def missing (label : Label) : Node :=
  .scalar label true ""

/-- A missing node without label. -/
def nothing : Node :=
  missing ⟨none, none⟩

/-- The ends of a key or value in blocks. -/
def blockEnds : List Token := [.key, .value, .blockEnd]

/-- The ends of a key or value in mappings in braces. -/
def mappingEnds : List Token := [.value, .flowEntry, .flowMappingEnd]

/-- The ends of a key or value in sequences in brackets. -/
def sequenceEnds : List Token := [.value, .flowEntry, .flowSequenceEnd]

mutual

/-- A node; `block` and `bare` say whether a collection by indentation may begin, and whether a
sequence may begin without being indented. -/
def readNode (block bare : Bool) : Nat → Input → Parse Node
  | 0, i => i.fail .node
  | fuel + 1, i =>
    match i.peek with
    | some (.repeated name) =>
      match i.number? name with
      | none => i.fail .undefinedAnchor
      | some n => .ok (.repeated n, i.skip)
    | _ =>
      match readLabel i with
      | .error e => .error e
      | .ok (label, i) => readContent block bare fuel label i

/-- What stands behind the label of a node. -/
def readContent (block bare : Bool) : Nat → Label → Input → Parse Node
  | 0, _, i => i.fail .node
  | fuel + 1, label, i =>
    match i.peek with
    | some .blockEntry =>
      if bare then (readBareItems fuel i).map fun (items, i) => (.sequence label items, i)
      else if label == ⟨none, none⟩ then i.fail .node
      else .ok (missing label, i)
    | some (.scalar text isPlain) => .ok (.scalar label isPlain (String.ofList text), i.skip)
    | some .flowSequence =>
      (readFlowItems true fuel i.skip).map fun (items, i) => (.sequence label items, i)
    | some .flowMapping =>
      (readFlowEntries true fuel i.skip).map fun (entries, i) => (.mapping label entries, i)
    | some .blockSequence =>
      if block then
        (readBlockItems fuel i.skip).map fun (items, i) => (.sequence label items, i)
      else if label == ⟨none, none⟩ then i.fail .node
      else .ok (missing label, i)
    | some .blockMapping =>
      if block then
        (readBlockEntries fuel i.skip).map fun (entries, i) => (.mapping label entries, i)
      else if label == ⟨none, none⟩ then i.fail .node
      else .ok (missing label, i)
    | _ => if label == ⟨none, none⟩ then i.fail .node else .ok (missing label, i)

/-- A node, or a missing one before some tokens. -/
def readUnless (ends : List Token) (block bare : Bool) : Nat → Input → Parse Node
  | 0, i => i.fail .node
  | fuel + 1, i => if i.isAt ends then .ok (nothing, i) else readNode block bare fuel i

/-- The entries of an indented sequence. -/
def readBlockItems : Nat → Input → Parse (List Node)
  | 0, i => i.fail .sequenceEntry
  | fuel + 1, i =>
    match i.peek with
    | some .blockEntry =>
      match readUnless [.blockEntry, .blockEnd] true false fuel i.skip with
      | .error e => .error e
      | .ok (n, i) => (readBlockItems fuel i).map fun (items, i) => (n :: items, i)
    | some .blockEnd => .ok ([], i.skip)
    | _ => i.fail .sequenceEntry

/-- The entries of a sequence that is not indented. -/
def readBareItems : Nat → Input → Parse (List Node)
  | 0, i => i.fail .sequenceEntry
  | fuel + 1, i =>
    match i.peek with
    | some .blockEntry =>
      match readUnless (.blockEntry :: blockEnds) true false fuel i.skip with
      | .error e => .error e
      | .ok (n, i) => (readBareItems fuel i).map fun (items, i) => (n :: items, i)
    | _ => .ok ([], i)

/-- The entries of a mapping by indentation. -/
def readBlockEntries : Nat → Input → Parse (List (Node × Node))
  | 0, i => i.fail .mappingEntry
  | fuel + 1, i =>
    let withValue (k : Node) (i : Input) : Parse (List (Node × Node)) :=
      match readBlockValue fuel i with
      | .error e => .error e
      | .ok (v, i) => (readBlockEntries fuel i).map fun (entries, i) => ((k, v) :: entries, i)
    match i.peek with
    | some .key =>
      match readUnless blockEnds true true fuel i.skip with
      | .error e => .error e
      | .ok (k, i) => withValue k i
    | some .blockEnd => .ok ([], i.skip)
    | _ => i.fail .mappingEntry

/-- The value behind a key. -/
def readBlockValue : Nat → Input → Parse Node
  | 0, i => i.fail .node
  | fuel + 1, i =>
    match i.peek with
    | some .value => readUnless blockEnds true true fuel i.skip
    | _ => .ok (nothing, i)

/-- The items of a sequence in brackets. -/
def readFlowItems (first : Bool) : Nat → Input → Parse (List Node)
  | 0, i => i.fail .flowSequence
  | fuel + 1, i =>
    if i.peek == some .flowSequenceEnd then .ok ([], i.skip)
    else if !first && i.peek != some .flowEntry then i.fail .flowSequence
    else
      let i := if first then i else i.skip
      match i.peek with
      | some .flowSequenceEnd => .ok ([], i.skip)
      | some .key =>
        match readPair fuel i.skip with
        | .error e => .error e
        | .ok (n, i) => (readFlowItems false fuel i).map fun (items, i) => (n :: items, i)
      | _ =>
        match readNode false false fuel i with
        | .error e => .error e
        | .ok (n, i) => (readFlowItems false fuel i).map fun (items, i) => (n :: items, i)

/-- A single key and value in brackets. A missing key takes the token before its value along. -/
def readPair : Nat → Input → Parse Node
  | 0, i => i.fail .node
  | fuel + 1, i =>
    let withKey := if i.isAt sequenceEnds then .ok (nothing, i.skip) else readNode false false fuel i
    match withKey with
    | .error e => .error e
    | .ok (k, i) =>
      let withValue :=
        if i.peek == some .value then
          readUnless [.flowEntry, .flowSequenceEnd] false false fuel i.skip
        else .ok (nothing, i)
      withValue.map fun (v, i) => (.mapping ⟨none, none⟩ [(k, v)], i)

/-- The entries of a mapping in braces. -/
def readFlowEntries (first : Bool) : Nat → Input → Parse (List (Node × Node))
  | 0, i => i.fail .flowMapping
  | fuel + 1, i =>
    if i.peek == some .flowMappingEnd then .ok ([], i.skip)
    else if !first && i.peek != some .flowEntry then i.fail .flowMapping
    else
      let i := if first then i else i.skip
      let more (k v : Node) (i : Input) : Parse (List (Node × Node)) :=
        (readFlowEntries false fuel i).map fun (entries, i) => ((k, v) :: entries, i)
      match i.peek with
      | some .flowMappingEnd => .ok ([], i.skip)
      | some .key =>
        match readUnless mappingEnds false false fuel i.skip with
        | .error e => .error e
        | .ok (k, i) =>
          if i.peek == some .value then
            match readUnless [.flowEntry, .flowMappingEnd] false false fuel i.skip with
            | .error e => .error e
            | .ok (v, i) => more k v i
          else more k nothing i
      | _ =>
        match readNode false false fuel i with
        | .error e => .error e
        | .ok (k, i) => more k nothing i

end

/-- The directives before a document: at most one version, and no handle twice. -/
def readDirectives (hasVersion : Bool) (own : List (List Char × List Char)) :
    List Token → Except Error (List (List Char × List Char) × List Token)
  | .version :: rest =>
    if hasVersion then .error ⟨.directive, .start⟩ else readDirectives true own rest
  | .tagPrefix handle lead :: rest =>
    if own.any fun e => e.1 == handle then .error ⟨.directive, .start⟩
    else readDirectives hasVersion ((handle, lead) :: own) rest
  | rest => .ok (own, rest)

/-- The tokens behind the ends of documents. -/
def skipEnds (ts : List Token) : List Token :=
  ts.dropWhile (· == .documentEnd)

/-- The start of a document: whether it is marked, and what follows. -/
def readStart (ts : List Token) : Except Error (Bool × Input) :=
  match readDirectives false [] ts with
  | .error e => .error e
  | .ok (own, rest) =>
    let i : Input := ⟨rest, ⟨[], own ++ defaultTags⟩⟩
    match rest with
    | .documentStart :: rest => .ok (true, { i with tokens := rest })
    | _ => if rest.length == ts.length then .ok (false, i) else i.fail .documentStart

/-- The tokens that end a marked document without content. -/
def endsDocument : Option Token → Bool
  | none | some .version | some (.tagPrefix ..) | some .documentStart | some .documentEnd => true
  | _ => false

/-- The root of a document. -/
def readRoot (isMarked : Bool) (i : Input) : Parse Node :=
  if isMarked && endsDocument i.peek then .ok (nothing, i)
  else readNode true false (4 * i.tokens.length + 8) i

/-- The only document of some tokens, if there is one. A document without a mark may only stand
first, and nothing may follow it. -/
def ofTokens (ts : List Token) : Except Error (Option Node) :=
  if ts.isEmpty then .ok none
  else
    match readStart ts with
    | .error e => .error e
    | .ok (isMarked, i) =>
      match readRoot isMarked i with
      | .error e => .error e
      | .ok (n, i) =>
        if (skipEnds i.tokens).isEmpty then .ok (some n) else i.fail .secondDocument

end SubsetMatch.Yaml
