import CodeStyle.Yaml.Token

/-!
# Nodes

What the tokens of a document describe: scalars, sequences and mappings with their anchors and tags,
and aliases of anchors. A missing node is an empty plain scalar. Reading follows the grammar of the
format; at most three steps take no token before one does, so four times the number of tokens bounds
the depth.
-/
namespace CodeStyle.Yaml

/-- What may be said of a node in front of it, with anchors of some type. -/
structure Properties (α : Type) where
  anchor : Option α := none
  tag : Option String := none
deriving DecidableEq, Repr

/-- The properties of a scalar, for which the tag of an exclamation mark alone says nothing. -/
def Properties.ofScalar (p : Properties String) : Properties String :=
  if p.tag == some "!" then { p with tag := none } else p

/-- A node of a document. Anchors are names at first and numbers later. -/
inductive Node (α : Type)
  | reference (anchor : α)
  | scalar (properties : Properties α) (text : String) (isPlain : Bool)
  | sequence (properties : Properties α) (items : List (Node α))
  | mapping (properties : Properties α) (entries : List (Node α × Node α))

namespace Node

/-- What stands for a missing node. -/
def empty : Node String := scalar { } "" true

/-- The addresses that handles of tags stand for. -/
abbrev Handles := List (String × String)

/-- The handles that need no declaration. -/
def defaultHandles : Handles := [("!", "!"), ("!!", "tag:yaml.org,2002:")]

/-- The full form of a tag, if its handle is known. -/
def fullTag? (handles : Handles) (handle suffix : String) : Option String :=
  if handle = "" then some suffix else (handles.lookup handle).map (· ++ suffix)

/-- What follows a list of tokens of a node, with the node. -/
abbrev Reading (α : Type) := Option (α × List Token)

/-- Reads an anchor and a tag in either order. -/
def readProperties? (handles : Handles) : List Token → Reading (Properties String)
  | .anchor a :: .tag h s :: rest =>
    (fullTag? handles h s).map fun t => (⟨some a, some t⟩, rest)
  | .anchor a :: rest => some (⟨some a, none⟩, rest)
  | .tag h s :: .anchor a :: rest =>
    (fullTag? handles h s).map fun t => (⟨some a, some t⟩, rest)
  | .tag h s :: rest => (fullTag? handles h s).map fun t => (⟨none, some t⟩, rest)
  | rest => some ({ }, rest)

/-- Whether the next token is one of some. -/
def startsWithAny (ts : List Token) (tokens : List Token) : Bool := tokens.head?.any ts.contains

/-- Where nodes are read: in block or flow collections, and whether a sequence may stand in the
column of the mapping around it. -/
structure Place where
  isBlock : Bool
  mayNotIndent : Bool

/-- The place of the root and of the entries of block sequences. -/
def Place.block : Place := ⟨true, false⟩

/-- The place of keys and values of block mappings. -/
def Place.inMapping : Place := ⟨true, true⟩

/-- The place of nodes in flow collections. -/
def Place.flow : Place := ⟨false, false⟩

mutual

def read (handles : Handles) : (fuel : Nat) → Place → List Token → Reading (Node String)
  | 0, _, _ => none
  | _ + 1, _, .reference name :: rest => some (reference name, rest)
  | fuel + 1, place, tokens =>
    match readProperties? handles tokens with
    | none => none
    | some (p, tokens) =>
      match tokens, place.isBlock, place.mayNotIndent with
      | .blockEntry :: rest, _, true =>
        (readLevelItems handles fuel (.blockEntry :: rest)).map fun (items, rest) =>
          (sequence p items, rest)
      | .scalar text isPlain :: rest, _, _ => some (scalar p.ofScalar text isPlain, rest)
      | .flowSequenceStart :: rest, _, _ =>
        (readFlowItems handles fuel true rest).map fun (items, rest) => (sequence p items, rest)
      | .flowMappingStart :: rest, _, _ =>
        (readFlowEntries handles fuel true rest).map fun (es, rest) => (mapping p es, rest)
      | .blockSequenceStart :: rest, true, _ =>
        (readItems handles fuel rest).map fun (items, rest) => (sequence p items, rest)
      | .blockMappingStart :: rest, true, _ =>
        (readEntries handles fuel rest).map fun (es, rest) => (mapping p es, rest)
      | tokens, _, _ =>
        if p = { } then none else some (scalar p "" true, tokens)

def readUnless (handles : Handles) : (fuel : Nat) → Place → (ends : List Token) → List Token →
    Reading (Node String)
  | 0, _, _, _ => none
  | fuel + 1, place, ends, tokens =>
    if startsWithAny ends tokens then some (empty, tokens) else read handles fuel place tokens

/-- Reads the entries of a block sequence up to its end. -/
def readItems (handles : Handles) : (fuel : Nat) → List Token → Reading (List (Node String))
  | fuel + 1, .blockEntry :: rest =>
    match readUnless handles fuel .block [.blockEntry, .blockEnd] rest with
    | some (item, rest) =>
      (readItems handles fuel rest).map fun (items, rest) => (item :: items, rest)
    | none => none
  | _, .blockEnd :: rest => some ([], rest)
  | _, _ => none

/-- Reads the entries of a sequence in the column of the mapping around it. -/
def readLevelItems (handles : Handles) : (fuel : Nat) → List Token → Reading (List (Node String))
  | 0, _ => none
  | fuel + 1, .blockEntry :: rest =>
    match readUnless handles fuel .block [.blockEntry, .key, .value, .blockEnd] rest with
    | some (item, rest) =>
      (readLevelItems handles fuel rest).map fun (items, rest) => (item :: items, rest)
    | none => none
  | _ + 1, rest => some ([], rest)

/-- Reads the entries of a block mapping up to its end. -/
def readEntries (handles : Handles) : (fuel : Nat) → List Token →
    Reading (List (Node String × Node String))
  | fuel + 1, .key :: rest =>
    match readUnless handles fuel .inMapping [.key, .value, .blockEnd] rest with
    | some (k, rest) =>
      match readValue handles fuel .inMapping [.key, .value, .blockEnd] rest with
      | some (v, rest) =>
        (readEntries handles fuel rest).map fun (entries, rest) => ((k, v) :: entries, rest)
      | none => none
    | none => none
  | _, .blockEnd :: rest => some ([], rest)
  | _, _ => none

/-- Reads a value, which may be missing with or without its sign. -/
def readValue (handles : Handles) : (fuel : Nat) → Place → (ends : List Token) → List Token →
    Reading (Node String)
  | fuel + 1, place, ends, .value :: rest => readUnless handles fuel place ends rest
  | _, _, _, rest => some (empty, rest)

/-- Reads the items of a flow sequence up to its end. A key and its value among them are a mapping
of their own. -/
def readFlowItems (handles : Handles) : (fuel : Nat) → (isFirst : Bool) → List Token →
    Reading (List (Node String))
  | _, _, .flowSequenceEnd :: rest => some ([], rest)
  | 0, _, _ => none
  | fuel + 1, isFirst, tokens =>
    let tokens? := if isFirst then some tokens else match tokens with
      | .flowEntry :: rest => some rest
      | _ => none
    match tokens? with
    | none => none
    | some (.flowSequenceEnd :: rest) => some ([], rest)
    | some (.key :: rest) =>
      match readFlowPair handles fuel rest with
      | some (item, rest) =>
        (readFlowItems handles fuel false rest).map fun (items, rest) => (item :: items, rest)
      | none => none
    | some tokens =>
      match read handles fuel .flow tokens with
      | some (item, rest) =>
        (readFlowItems handles fuel false rest).map fun (items, rest) => (item :: items, rest)
      | none => none

/-- Reads a key and its value in a flow sequence. A missing key takes the next token with it. -/
def readFlowPair (handles : Handles) : (fuel : Nat) → List Token → Reading (Node String)
  | 0, _ => none
  | fuel + 1, tokens =>
    let key? := if startsWithAny [.value, .flowEntry, .flowSequenceEnd] tokens
      then some (empty, tokens.drop 1) else read handles fuel .flow tokens
    match key? with
    | some (k, rest) =>
      (readValue handles fuel .flow [.flowEntry, .flowSequenceEnd] rest).map fun (v, rest) =>
        (mapping { } [(k, v)], rest)
    | none => none

/-- Reads the entries of a flow mapping up to its end. -/
def readFlowEntries (handles : Handles) : (fuel : Nat) → (isFirst : Bool) → List Token →
    Reading (List (Node String × Node String))
  | _, _, .flowMappingEnd :: rest => some ([], rest)
  | 0, _, _ => none
  | fuel + 1, isFirst, tokens =>
    let tokens? := if isFirst then some tokens else match tokens with
      | .flowEntry :: rest => some rest
      | _ => none
    match tokens? with
    | none => none
    | some (.flowMappingEnd :: rest) => some ([], rest)
    | some tokens =>
      match readFlowEntry handles fuel tokens with
      | some (entry, rest) =>
        (readFlowEntries handles fuel false rest).map fun (es, rest) => (entry :: es, rest)
      | none => none

/-- Reads an entry of a flow mapping. Without the sign of a key there is no value. -/
def readFlowEntry (handles : Handles) : (fuel : Nat) → List Token →
    Reading (Node String × Node String)
  | fuel + 1, .key :: rest =>
    match readUnless handles fuel .flow [.value, .flowEntry, .flowMappingEnd] rest with
    | some (k, rest) =>
      (readValue handles fuel .flow [.flowEntry, .flowMappingEnd] rest).map fun (v, rest) =>
        ((k, v), rest)
    | none => none
  | fuel + 1, tokens => (read handles fuel .flow tokens).map fun (k, rest) => ((k, empty), rest)
  | 0, _ => none

end

/-- Reads directives: the handles that they declare. A version must be one that is known, and
neither a version nor a handle may be declared twice. -/
def readDirectives? : (hasVersion : Bool) → Handles → List Token → Reading Handles
  | hasVersion, handles, .version major minor :: rest =>
    if hasVersion || major != 1 || (minor != 1 && minor != 2) then none
    else readDirectives? true handles rest
  | hasVersion, handles, .tagHandle handle address :: rest =>
    if (handles.lookup handle).isSome then none
    else readDirectives? hasVersion (handles ++ [(handle, address)]) rest
  | _, handles, rest => some (handles, rest)

/-- Reads the only document of a stream: nothing if the stream is empty. -/
def ofTokens? (tokens : List Token) : Option (Option (Node String)) :=
  let fuel := 4 * tokens.length + 4
  let isMark (t : Token) : Bool := t matches
    .version _ _ | .tagHandle _ _ | .documentStart
  let root? : Reading (Node String) :=
    if tokens.head?.any isMark then
      match readDirectives? false [] tokens with
      | some (handles, .documentStart :: rest) =>
        if rest.head?.all fun t => isMark t || t == .documentEnd then some (empty, rest)
        else read (handles ++ defaultHandles) fuel .block rest
      | _ => none
    else read defaultHandles fuel .block tokens
  if tokens.isEmpty then some none
  else match root? with
    | some (root, rest) =>
      if (rest.dropWhile (· == .documentEnd)).isEmpty then some (some root) else none
    | none => none

end Node

end CodeStyle.Yaml
