/-!
# Tokens

The pieces of a document that its grammar is made of. The ends of block collections have tokens of
their own, as if they were written with brackets.
-/
namespace CodeStyle.Yaml

/-- A piece of a document. Only plain scalars are read as anything but text. -/
inductive Token
  | version (major minor : Nat)
  | tagHandle (handle address : String)
  | documentStart
  | documentEnd
  | blockSequenceStart
  | blockMappingStart
  | blockEnd
  | flowSequenceStart
  | flowSequenceEnd
  | flowMappingStart
  | flowMappingEnd
  | blockEntry
  | flowEntry
  | key
  | value
  | reference (name : String)
  | anchor (name : String)
  | tag (handle suffix : String)
  | scalar (text : String) (isPlain : Bool)
deriving DecidableEq, Repr

end CodeStyle.Yaml
