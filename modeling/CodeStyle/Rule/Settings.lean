import CodeStyle.Rule.Registry
import CodeStyle.Text.Quoted
import CodeStyle.Yaml.Basic

/-!
# Settings of rules

Every rule can be switched off, and most have one more value that a block of the configuration can
change. What a block does not mention keeps its default. A block must not hold anything else.
-/
namespace CodeStyle

/-- Whether a rule is switched on, and what it demands. -/
structure Settings where
  enabled : Bool := true
  criterion : Criterion
deriving DecidableEq, Repr

/-- Why a block cannot be used for a rule. -/
inductive BlockFault
  | wrongType (found : Yaml) (expected : String)
  | negative (n : Int)
  | unknownField (name : String) (known : List String)
  | duplicateField (name : String)

namespace BlockFault

/-- A piece of a message in backticks. -/
def ticked (s : String) : String := "`" ++ s ++ "`"

/-- A value as messages show it. -/
def describe : Yaml → String
  | .null => "unit value"
  | .bool b => "boolean " ++ ticked (if b then "true" else "false")
  | .int n => "integer " ++ ticked (toString n)
  | .float x => "floating point " ++ ticked x.positionalText
  | .string s => "string " ++ Text.quoted s
  | .sequence _ => "sequence"
  | .mapping _ => "map"
  | .tagged _ value => describe value

def message : BlockFault → String
  | wrongType found expected => "invalid type: " ++ describe found ++ ", expected " ++ expected
  | negative n => "invalid value: integer " ++ ticked (toString n) ++ ", expected usize"
  | unknownField name known => "unknown field " ++ ticked name ++ ", expected " ++
      String.intercalate " or " (known.map ticked)
  | duplicateField name => "duplicate field " ++ ticked name

end BlockFault

namespace Settings

def enabledKey : String := "enabled"

/-- The key of the value of a criterion. -/
def optionKey? (c : Criterion) : Option String := c.option?.map (·.1)

def keys (c : Criterion) : List String := enabledKey :: (optionKey? c).toList

def readBool (value : Yaml) : Except BlockFault Bool :=
  match value.untagged with
  | .bool b => .ok b
  | other => .error (.wrongType other "a boolean")

def readText (value : Yaml) : Except BlockFault String :=
  match value.untagged with
  | .string s => .ok s
  | other => .error (.wrongType other "a string")

def readNumber (value : Yaml) : Except BlockFault Nat :=
  match value.untagged with
  | .int n => if n < 0 then .error (.negative n) else .ok n.toNat
  | other => .error (.wrongType other "usize")

/-- A criterion with the value that a block gives it. -/
def readOption (c : Criterion) (value : Yaml) : Except BlockFault Criterion :=
  match c.option? with
  | some (_, .text _) => (readText value).map c.withText
  | some (_, .number _) => (readNumber value).map c.withNumber
  | none => .ok c

/-- Settings with one field of a block. The fields before it must not have the same key. -/
def readField (s : Settings) (before : List String) (key : String) (value : Yaml) :
    Except BlockFault Settings :=
  if !(keys s.criterion).contains key then .error (.unknownField key (keys s.criterion))
  else if before.contains key then .error (.duplicateField key)
  else if key = enabledKey then (readBool value).map fun b => { s with enabled := b }
  else (readOption s.criterion value).map fun c => { s with criterion := c }

/-- Settings with the fields of a block, in their order. -/
def readFields (s : Settings) (before : List String) :
    List (Yaml × Yaml) → Except BlockFault Settings
  | [] => .ok s
  | (k, v) :: rest =>
    match k.untagged with
    | .string key =>
      match readField s before key v with
      | .ok s => readFields s (key :: before) rest
      | .error fault => .error fault
    | other => .error (.wrongType other "field identifier")

/-- The settings that a block gives to a rule. Nothing is asked of a block that is missing. -/
def ofBlock (entry : RuleEntry) (block : Option Yaml) : Except BlockFault Settings :=
  match (block.getD .null).untagged with
  | .null => .ok { criterion := entry.criterion }
  | .mapping entries => readFields { criterion := entry.criterion } [] entries
  | other =>
    .error (.wrongType other ("struct " ++ RuleName.stem entry.name entry.language ++ "Config"))

end Settings

namespace RuleEntry

/-- The wording for a rule that cannot be built. -/
def invalid (e : RuleEntry) (message : String) : CheckError :=
  .configuration ("Invalid configuration for '" ++ e.key ++ "' (" ++ e.name ++ "): " ++ message)

def checkOf (e : RuleEntry) (s : Settings) : Except CheckError Check := s.criterion.check e.language

/-- An error of the construction of a rule, with the key of the rule. -/
def blame (e : RuleEntry) : CheckError → CheckError
  | .pattern text => e.invalid text
  | .configuration text => e.invalid text
  | other => other

/-- The rule with the settings that a block gives it. -/
def build (e : RuleEntry) (block : Option Yaml) : Except CheckError Rule :=
  match Settings.ofBlock e block with
  | .error fault => .error (e.invalid fault.message)
  | .ok s =>
    match e.checkOf s with
    | .ok check => .ok ⟨e.name, e.language, s.enabled, check⟩
    | .error fault => .error (e.blame fault)

end RuleEntry

end CodeStyle
