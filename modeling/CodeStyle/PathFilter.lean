import CodeStyle.Error
import CodeStyle.Glob
import CodeStyle.Path

/-!
# Path filters

A filter is a list of globs, each of which includes or excludes the paths it matches. The last
glob that matches a path decides; a path that none matches is included. A glob without a separator
is matched against the name of a file, any other against the whole path.

The whole path is matched as a text, so it is taken to be UTF-8. A glob with a separator matches no
other path, and therefore nothing that is said here of all paths is said of those.
-/
namespace CodeStyle

/-- A glob of a filter. A leading exclamation mark makes it include what it matches. -/
structure FilterPattern where
  includes : Bool
  text : String
  items : List GlobItem
deriving DecidableEq, Repr

namespace FilterPattern

def read (pattern : String) : Except CheckError FilterPattern :=
  let (includes, text) := match pattern.toList with
    | '!' :: rest => (true, String.ofList rest)
    | _ => (false, pattern)
  match Glob.read text with
  | .ok items => .ok ⟨includes, text, items⟩
  | .error fault => .error (.pattern ("Invalid pattern '" ++ text ++ "': " ++ fault.message))

def written (p : FilterPattern) : String := if p.includes then "!" ++ p.text else p.text

/-- Whether a pattern matches a path, which is taken to be UTF-8. -/
def accepts (p : FilterPattern) (path : String) : Bool :=
  if p.text.toList.contains '/' then Glob.accepts p.items path.toList
  else match Path.fileName? path with
    | some name => Glob.accepts p.items name.toList
    | none => false

end FilterPattern

/-- Globs in the order of rising precedence. -/
structure PathFilter where
  globs : List FilterPattern := []
deriving DecidableEq, Repr

namespace PathFilter

/-- Adds a pattern that takes precedence over all others. -/
def add (f : PathFilter) (pattern : String) : Except CheckError PathFilter :=
  (FilterPattern.read pattern).map fun p => ⟨f.globs ++ [p]⟩

def addAll (f : PathFilter) : List String → Except CheckError PathFilter
  | [] => .ok f
  | pattern :: rest =>
    match f.add pattern with
    | .ok g => g.addAll rest
    | .error e => .error e

def ofPatterns (patterns : List String) : Except CheckError PathFilter := addAll ⟨[]⟩ patterns

/-- Version control data and the output of builds are left out unless something else is asked
for. -/
def defaultPatterns : List String := ["**/.git/**", "**/target/**", "**/build/**"]

/-- The filter with the default patterns alone. -/
def default : PathFilter :=
  match ofPatterns defaultPatterns with
  | .ok f => f
  | .error _ => ⟨[]⟩

def patterns (f : PathFilter) : List String := f.globs.map FilterPattern.written

def selects (f : PathFilter) (path : String) : Bool :=
  match f.globs.reverse.find? (·.accepts path) with
  | some p => p.includes
  | none => true

end PathFilter

end CodeStyle
