import CodeStyle.Disk.Read
import CodeStyle.Rule.Registry
import CodeStyle.Yaml.Document

/-!
# Configuration documents

A document maps the keys of rules to their blocks. A file that cannot be read counts as an empty
document; one that is read has to be a mapping whose keys are texts.

A path to the document that is given wins over one from the environment, and that over the usual
place. A setting of the environment that holds nothing but white space counts as none.
-/
namespace CodeStyle.Config

/-- The usual place of the configuration. -/
def defaultLocation : String := "checker/config.yaml"

/-- The variable of the environment that can hold the place of the configuration. -/
def locationVariable : String := "CHECKER_CONFIG_PATH"

/-- The place of the configuration. -/
def location (given environment : Option String) : String :=
  match given with
  | some path => path
  | none =>
    match environment.map fun setting => String.ofList (Text.trim setting.toList) with
    | some path => if path = "" then defaultLocation else path
    | none => defaultLocation

/-- The blocks of a document in its order, and the file that it was read from. -/
structure Document where
  entries : List (Yaml × Yaml) := []
  source : Option String := none

/-- Why a text is no document. -/
inductive DocumentFault
  | malformed
  | noMapping (found : Yaml)
  | badKey (found : Yaml)

namespace DocumentFault

/-- A value as messages show it. -/
def describe : Yaml → String
  | .null => "null"
  | .bool _ => "a boolean"
  | .int _ => "a number"
  | .float _ => "a number"
  | .string _ => "a string"
  | .sequence _ => "a sequence"
  | .mapping _ => "a mapping"
  | .tagged _ _ => "a tagged value"

/-- The wording of a fault. What is wrong with a text that is not in the data format at all is not
said. -/
def message : DocumentFault → String
  | malformed => "<yaml error>"
  | noMapping found => "expected a mapping of rule keys, found " ++ describe found
  | badKey found => "rule keys must be strings, found " ++ describe found

end DocumentFault

namespace Document

/-- The text that a key is, tags apart. -/
def keyText? (key : Yaml) : Option String :=
  match key.untagged with
  | .string s => some s
  | _ => none

def readEntries (text : List Char) : Except DocumentFault (List (Yaml × Yaml)) :=
  match Yaml.read? text with
  | none => .error .malformed
  | some .null => .ok []
  | some (.mapping entries) =>
    match entries.find? fun e => (keyText? e.1).isNone with
    | some e => .error (.badKey e.1)
    | none => .ok entries
  | some other => .error (.noMapping other)

def read (text : List Char) : Except CheckError Document :=
  match readEntries text with
  | .ok entries => .ok { entries }
  | .error fault => .error (.configuration ("Failed to parse config: " ++ fault.message))

def load (disk : Disk) (path : String) : Except CheckError Document :=
  match disk.read path with
  | .error _ => .ok { }
  | .ok (text, _) =>
    match readEntries text with
    | .ok entries => .ok ⟨entries, some path⟩
    | .error fault => .error (.configuration
        ("Failed to parse config file '" ++ path ++ "': " ++ fault.message))

/-- The block with a key. A key with a tag is not found. -/
def get? (d : Document) (key : String) : Option Yaml :=
  (d.entries.find? fun e => match e.1 with
    | .string s => s == key
    | _ => false).map (·.2)

def keys (d : Document) : List String := d.entries.filterMap fun e => keyText? e.1

def size (d : Document) : Nat := d.entries.length

def unusedKeys (d : Document) (registry : List RuleEntry) : List String :=
  d.keys.filter fun key => !registry.any (·.key == key)

end Document

end CodeStyle.Config
