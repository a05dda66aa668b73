import CodeStyle.Disk.Basic
import CodeStyle.Language
import CodeStyle.PathFilter

/-!
# Discovery of files

The files to check below a folder are its regular files in a known language, at any depth, that a
filter includes. The filter sees the path from the folder on. Links below the folder are not
followed, and a folder that cannot be listed is passed over with all that is below it. Entries come
in the order of their names, those of a folder where the folder stands.
-/
namespace CodeStyle

namespace Entry

mutual

/-- The regular files at or below an entry at a path that are found by listing folders, by the names
that lead to them from there. -/
def regularFiles (path : String) : Entry → List (List String)
  | folder _ entries => if Disk.isTooLong path then [] else regularFilesIn path entries
  | e => if e.isRegular then [[]] else []

def regularFilesIn (path : String) : List Entry → List (List String)
  | [] => []
  | e :: rest =>
    (regularFiles (Path.join path e.name) e).map (e.name :: ·) ++ regularFilesIn path rest

end

end Entry

namespace Disk

def pathOf (root : String) (names : List String) : String := names.foldl Path.join root

/-- Whether a regular file below a root is to be checked. -/
def isWanted (filter : PathFilter) (root : String) (names : List String) : Bool :=
  (Language.ofPath? (pathOf root names)).isSome &&
    filter.selects (String.intercalate "/" names)

/-- The entry at which discovery starts: a link is followed to a folder but not to a file. -/
def startEntry? (d : Disk) (root : String) : Option Entry :=
  match d.find false root with
  | .ok (.link _ _) =>
    match d.find true root with
    | .ok e => if e.isFolder then some e else none
    | .error _ => none
  | .ok e => some e
  | .error _ => none

def discover (d : Disk) (filter : PathFilter) (root : String) : List String :=
  match d.startEntry? root with
  | some e => ((e.regularFiles root).filter (isWanted filter root)).map (pathOf root)
  | none => []

/-- The files to check for a path. A path that passes for a regular file stands for itself. -/
def filesUnder (d : Disk) (filter : PathFilter) (path : String) : List String :=
  if d.isFile path then [path] else d.discover filter path

end Disk

end CodeStyle
