import CodeStyle.Glob
import Mathlib.Tactic.Common

/-!
# Globs for folders

A recursive wildcard in front of a glob tries it at the start of a path and behind each separator,
one at its end takes all that is left. So the glob for what lies below the folders of a name matches
exactly the paths with that name, as a whole, among the pieces in front of the last.
-/
namespace CodeStyle.Glob

/-- What a glob for all that lies below the folders of a name consists of. -/
def below (name : List Char) : List GlobItem := .anyDirs :: (name.map .char ++ [.char '/', .anyDirs])

section Accepts

variable {items : List GlobItem} {text : List Char}

end Accepts

section Pieces

variable {word : List Char}

end Pieces

end CodeStyle.Glob
