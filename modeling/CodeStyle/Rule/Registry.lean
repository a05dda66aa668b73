import CodeStyle.Rule.Criterion

/-!
# The registry

All rules in the order in which they are listed and run, with the values that hold where a
configuration says nothing.
-/
namespace CodeStyle

/-- A rule as it is registered. -/
structure RuleEntry where
  name : String
  language : Language
  criterion : Criterion
deriving DecidableEq, Repr

namespace RuleEntry

def key (e : RuleEntry) : String := RuleName.key e.name e.language

def java (stem : String) (criterion : Criterion) : RuleEntry :=
  ⟨stem ++ Language.java.ruleSuffix, .java, criterion⟩

def native (stem : String) (criterion : Criterion) : RuleEntry :=
  ⟨stem ++ Language.native.ruleSuffix, .native, criterion⟩

end RuleEntry

namespace Registry

def javaRules : List RuleEntry := [
  .java "ClassName" (.naming .typeName "pattern" "[A-Z][a-zA-Z]*"),
  .java "ConstName" (.naming .constant "pattern" "[A-Z][A-Z_]*"),
  .java "FieldPattern" (.naming .field "pattern" "^[a-z][a-zA-Z0-9]*$"),
  .java "MethodName" (.naming .method "pattern" "[a-z][a-zA-Z]*"),
  .java "PackageName"
    (.naming .package "patternRegex" "^[a-z][a-z0-9]*(\\.[a-z][a-z0-9]*)*$"),
  .java "VariableName" (.naming .localVariable "pattern" "[a-z][a-zA-Z0-9]*"),
  .java "LongParameterList" (.counting .methodParameters "maximumParameters" 11),
  .java "MethodLength" (.counting .statements "maxLength" 50),
  .java "MethodPerClass" (.counting .methods "maximumMethods" 20),
  .java "ForFormat" (.laying .forLoop),
  .java "IfFormat" (.laying .ifElse),
  .java "WhileFormat" (.laying .whileLoop),
  .java "SwitchFormat" (.laying .switchCases),
  .java "TryCatchFormat" (.laying .tryCatch),
  .java "EmptyBlock" (.laying .emptyBlock),
  .java "MaxLines" (.measuring .lines "maxLines" 2000),
  .java "MaxLineLength" (.measuring .lineLength "maxLineLength" 80),
  .java "SpaceIndentation" (.indenting "indentation" 4)]

def nativeRules : List RuleEntry := [
  .native "FunctionName" (.naming .function "pattern" "[a-z][a-zA-Z]*"),
  .native "VariableName" (.naming .nativeVariable "pattern" "^[a-z][a-zA-Z0-9]*$"),
  .native "LongParameterList" (.counting .functionParameters "maximumParameters" 11),
  .native "ForFormat" (.laying .forLoop),
  .native "IfFormat" (.laying .ifElse),
  .native "WhileFormat" (.laying .whileLoop),
  .native "SwitchFormat" (.laying .switchCases),
  .native "MaxLines" (.measuring .lines "maxLines" 2000),
  .native "MaxLineLength" (.measuring .lineLength "maxLineLength" 80),
  .native "SpaceIndentation" (.indenting "indentation" 4)]

def all : List RuleEntry := javaRules ++ nativeRules

end Registry

end CodeStyle
