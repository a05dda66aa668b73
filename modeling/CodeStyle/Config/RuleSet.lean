import CodeStyle.Config.Document
import CodeStyle.Rule.Settings

/-!
# Rule sets

The rules of a run are those of a registry that a document does not switch off. All of them are
built, those switched off as well, and the first that cannot be built decides.
-/
namespace CodeStyle.Config

/-- The rules of a run by language, each part in the order of the registry. -/
structure RuleSet where
  java : List Rule := []
  native : List Rule := []

namespace RuleSet

/-- The rules that are switched on. -/
def ofRules (rules : List Rule) : RuleSet :=
  let active := rules.filter (·.enabled)
  ⟨active.filter (·.language == .java), active.filter (·.language == .native)⟩

def forLanguage (s : RuleSet) : Language → List Rule
  | .java => s.java
  | .native => s.native

def all (s : RuleSet) : List Rule := s.java ++ s.native

def size (s : RuleSet) : Nat := s.java.length + s.native.length

end RuleSet

/-- The rules of a registry with the blocks of a document. -/
def buildAll (d : Document) : List RuleEntry → Except CheckError (List Rule)
  | [] => .ok []
  | e :: rest =>
    match e.build (d.get? e.key) with
    | .ok rule => (buildAll d rest).map (rule :: ·)
    | .error fault => .error fault

/-- The rules of a registry that a document leaves switched on. -/
def resolve (registry : List RuleEntry) (d : Document) : Except CheckError RuleSet :=
  (buildAll d registry).map RuleSet.ofRules

end CodeStyle.Config
