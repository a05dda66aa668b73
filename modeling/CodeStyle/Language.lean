import CodeStyle.Path
import CodeStyle.Unicode.CaseMapping

/-!
# Languages

The two families of sources that can be checked, told apart by the extensions of their files. The
name of a rule ends in a suffix of its language. Without that suffix and with a small first letter it
is the key of the rule in a configuration.
-/
namespace CodeStyle

inductive Language
  | java
  | native
deriving DecidableEq, Repr

namespace Language

/-- Both languages, in the order in which rules are listed. -/
def all : List Language := [java, native]

def name : Language → String
  | java => "java"
  | native => "native"

/-- The name of a language as a tag of rules. -/
def tag : Language → String
  | java => "Java"
  | native => "Native"

/-- What the names of the rules of a language end in. -/
def ruleSuffix (l : Language) : String := l.tag ++ "Rule"

/-- The language of files with an extension, in any case of letters. -/
def ofExtension? (extension : String) : Option Language :=
  match extension.map Char.toLower with
  | "java" => some java
  | "c" => some native
  | "h" => some native
  | _ => none

def ofPath? (path : String) : Option Language := (Path.extension? path).bind ofExtension?

end Language

namespace RuleName

/-- A name without the suffix of a language. -/
def stem (name : String) (language : Language) : String :=
  if name.endsWith language.ruleSuffix then
    String.ofList (name.toList.take (name.length - language.ruleSuffix.length))
  else name

/-- The key of a rule in a configuration. -/
def key (name : String) (language : Language) : String :=
  match (stem name language).toList with
  | [] => ""
  | c :: rest => String.ofList (Unicode.lowerChar c ++ rest)

end RuleName

end CodeStyle
