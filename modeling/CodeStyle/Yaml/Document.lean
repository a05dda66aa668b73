import CodeStyle.Yaml.Lexer
import CodeStyle.Yaml.Node
import CodeStyle.Yaml.Scalar

/-!
# Documents

The value of a document. Aliases stand for the nodes that their anchors name. Anchors are numbered
as they come up: an anchor is given the number of different names in front of it, and of the nodes
with a number the last one is the one that aliases stand for. Too deep a document, too many aliases
for its size and mappings with the same key twice are refused.
-/
namespace CodeStyle.Yaml

/-- The numbers of the names of anchors. -/
abbrev AnchorNumbers := List (String × Nat)

namespace Node

def numberAnchor (numbers : AnchorNumbers) (p : Properties String) :
    AnchorNumbers × Properties Nat :=
  match p.anchor with
  | none => (numbers, ⟨none, p.tag⟩)
  | some name =>
    let n := numbers.length
    ((name, n) :: numbers.filter (·.1 != name), ⟨some n, p.tag⟩)

mutual

/-- Numbers the anchors of a node and of those below it, unless an alias has no anchor in front of
it. -/
def number (numbers : AnchorNumbers) : Node String → Option (AnchorNumbers × Node Nat)
  | reference name => (numbers.lookup name).map fun n => (numbers, reference n)
  | scalar p text isPlain =>
    let (numbers, p) := numberAnchor numbers p
    some (numbers, scalar p text isPlain)
  | sequence p items =>
    let (numbers, p) := numberAnchor numbers p
    (numberAll numbers items).map fun (numbers, items) => (numbers, sequence p items)
  | mapping p entries =>
    let (numbers, p) := numberAnchor numbers p
    (numberEntries numbers entries).map fun (numbers, entries) => (numbers, mapping p entries)

def numberAll (numbers : AnchorNumbers) :
    List (Node String) → Option (AnchorNumbers × List (Node Nat))
  | [] => some (numbers, [])
  | n :: rest =>
    match number numbers n with
    | some (numbers, n) => (numberAll numbers rest).map fun (numbers, ns) => (numbers, n :: ns)
    | none => none

def numberEntries (numbers : AnchorNumbers) :
    List (Node String × Node String) → Option (AnchorNumbers × List (Node Nat × Node Nat))
  | [] => some (numbers, [])
  | (k, v) :: rest =>
    match number numbers k with
    | some (numbers, k) =>
      match number numbers v with
      | some (numbers, v) =>
        (numberEntries numbers rest).map fun (numbers, es) => (numbers, (k, v) :: es)
      | none => none
    | none => none

end

mutual

/-- The anchored nodes with their numbers, in the order of the document. -/
def anchored : Node Nat → List (Nat × Node Nat)
  | reference _ => []
  | scalar p text isPlain => p.anchor.toList.map fun n => (n, scalar p text isPlain)
  | sequence p items => (p.anchor.toList.map fun n => (n, sequence p items)) ++ anchoredAll items
  | mapping p entries =>
    (p.anchor.toList.map fun n => (n, mapping p entries)) ++ anchoredEntries entries

def anchoredAll : List (Node Nat) → List (Nat × Node Nat)
  | [] => []
  | n :: rest => anchored n ++ anchoredAll rest

def anchoredEntries : List (Node Nat × Node Nat) → List (Nat × Node Nat)
  | [] => []
  | (k, v) :: rest => anchored k ++ (anchored v ++ anchoredEntries rest)

end

mutual

/-- The size of a node: one for a scalar or an alias, and two for a collection and its contents. -/
def size : Node Nat → Nat
  | reference _ => 1
  | scalar _ _ _ => 1
  | sequence _ items => sizeAll items + 2
  | mapping _ entries => sizeEntries entries + 2

def sizeAll : List (Node Nat) → Nat
  | [] => 0
  | n :: rest => size n + sizeAll rest

def sizeEntries : List (Node Nat × Node Nat) → Nat
  | [] => 0
  | (k, v) :: rest => size k + size v + sizeEntries rest

end

/-- The most collections that may be nested. -/
def maximumDepth : Nat := 128

/-- How many aliases may be followed for each unit of the size of a document. -/
def aliasesPerSize : Nat := 100

/-- A computation that counts the aliases that it follows and may refuse a document. -/
abbrev Counting := StateT Nat Option

/-- What an anchor's number stands for, and the number of aliases that may be followed. -/
structure Targets where
  node? : Nat → Option (Node Nat)
  limit : Nat

/-- The node that an alias stands for, any other node itself. -/
def target (ts : Targets) : Node Nat → Counting (Node Nat)
  | reference n => fun followed =>
    if ts.limit < followed + 1 then none else (ts.node? n).map fun node => (node, followed + 1)
  | node => pure node

/-- A value under a tag, if the tag is one that makes a difference. -/
def tagWith (tag : Option String) (value : Yaml) : Yaml :=
  match tag.map String.toList with
  | some ['!'] => .tagged "!!" value
  | some ('!' :: _) => .tagged (tag.getD "") value
  | _ => value

def scalarValue? (tag : Option String) (text : String) (isPlain : Bool) : Option Yaml :=
  let untagged? := if isPlain then Scalar.ofPlain? text else some (.string text)
  match tag with
  | none => untagged?
  | some t => if t.startsWith "!" then untagged?.map (tagWith tag) else Scalar.ofTagged? t text

/-- Entries with one more, unless there is one with the same key. -/
def addEntry? (entries : List (Yaml × Yaml)) (key value : Yaml) : Option (List (Yaml × Yaml)) :=
  if entries.any fun e => e.1.same key then none else some (entries ++ [(key, value)])

/-- The entries of a mapping behind those already known. -/
def entriesFrom (value : Node Nat → Counting Yaml) (known : List (Yaml × Yaml)) :
    List (Node Nat × Node Nat) → Counting (List (Yaml × Yaml))
  | [] => pure known
  | (k, v) :: rest => do
    let key ← value k
    let value' ← value v
    match addEntry? known key value' with
    | some known => entriesFrom value known rest
    | none => failure

/-- The value of a node in which at most `depth` collections are nested. -/
def value (ts : Targets) : (depth : Nat) → Node Nat → Counting Yaml
  | depth, n => do
    match ← target ts n with
    | reference _ => failure
    | scalar p text isPlain => liftM (scalarValue? p.tag text isPlain)
    | sequence p items =>
      match depth with
      | 0 => failure
      | depth + 1 => return tagWith p.tag (.sequence (← items.mapM (value ts depth)))
    | mapping p entries =>
      match depth with
      | 0 => failure
      | depth + 1 => return tagWith p.tag (.mapping (← entriesFrom (value ts depth) [] entries))

def rootValue? (root : Node String) : Option Yaml :=
  match root.number [] with
  | none => none
  | some (_, root) =>
    let table := root.anchored.reverse
    let ts : Targets := ⟨fun n => List.lookup n table, aliasesPerSize * root.size⟩
    ((value ts maximumDepth root).run 0).map (·.1)

end Node

/-- Reads the value of a document, if it is well formed. -/
def read? (text : List Char) : Option Yaml :=
  match (tokens? text).bind Node.ofTokens? with
  | none => none
  | some none => some .null
  | some (some root) => root.rootValue?

end CodeStyle.Yaml
