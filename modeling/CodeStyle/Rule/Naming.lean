import CodeStyle.NamePattern
import CodeStyle.Source
import CodeStyle.SyntaxTree.Declarator
import CodeStyle.Violation

/-!
# Names held to patterns

What is named in a source, and where a name that does not follow its pattern is reported: for some
subjects at the declaration, for others at the name itself.
-/
namespace CodeStyle

/-- The subjects whose names can be held to a pattern. -/
inductive NameSubject
  | typeName
  | constant
  | field
  | method
  | package
  | localVariable
  | function
  | nativeVariable
deriving DecidableEq, Repr

/-- A name and the node at which it is reported. -/
structure NameUse where
  place : SyntaxTree
  name : SyntaxTree

namespace NameSubject

def kinds : NameSubject → List String
  | typeName => ["class_declaration", "interface_declaration"]
  | constant => ["field_declaration", "local_variable_declaration"]
  | field => ["field_declaration"]
  | method => ["method_declaration"]
  | package => ["package_declaration"]
  | localVariable => ["local_variable_declaration"]
  | function => ["function_definition"]
  | nativeVariable => ["declaration", "parameter_declaration"]

/-- The names that a node of a fitting kind gives. A parameter has one declarator, a declaration
may have several. -/
def names (subject : NameSubject) (t : SyntaxTree) : List SyntaxTree :=
  match subject with
  | typeName => (t.field? "name").toList
  | constant => if t.isFinal then t.declaredNames else []
  | field => t.declaredNames
  | method => (t.field? "name").toList
  | package => (t.firstChild? ["scoped_identifier", "identifier"]).toList
  | localVariable => t.declaredNames
  | function => t.functionName?.toList
  | nativeVariable =>
    let declarators := t.fields "declarator"
    (if t.kind == "declaration" then declarators else declarators.take 1).filterMap
      (·.declaredVariable?)

/-- Whether a name is reported where it stands and not where its declaration starts. -/
def reportsName : NameSubject → Bool
  | constant => true
  | localVariable => true
  | nativeVariable => true
  | _ => false

/-- The names that a node gives to subjects of a sort. -/
def uses (subject : NameSubject) (t : SyntaxTree) : List NameUse :=
  if subject.kinds.contains t.kind then
    (subject.names t).map fun n => ⟨if subject.reportsName then n else t, n⟩
  else []

def message (subject : NameSubject) (name pattern : String) : String :=
  let unlike (what : String) := what ++ " '" ++ name ++ "' does not follow Pattern: " ++ pattern
  match subject with
  | typeName => unlike "Class name"
  | constant => unlike "Constant name"
  | field => unlike "Class variable"
  | method => unlike "Method name"
  | package => "Package " ++ name ++ " doesn't match the pattern " ++ pattern
  | localVariable => unlike "Variable name"
  | function => "Function " ++ name ++ " does not match pattern " ++ pattern
  | nativeVariable => unlike "Variable"

/-- What a use of a name violates. -/
def judge (subject : NameSubject) (p : NamePattern) (s : Source) (u : NameUse) :
    Option Violation :=
  let name := s.stringOf u.name
  if p.accepts name then none else some ⟨s.path, s.line u.place, subject.message name p.text⟩

def visit (subject : NameSubject) (p : NamePattern) (s : Source) (t : SyntaxTree) :
    List Violation :=
  (subject.uses t).filterMap (subject.judge p s)

end NameSubject

end CodeStyle
