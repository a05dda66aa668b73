import CodeStyle.Error
import CodeStyle.Path
import CodeStyle.SyntaxTree.Basic
import CodeStyle.Text.Bytes
import CodeStyle.Text.Lines

/-!
# Disks

A disk is a tree of named entries below the working directory. A path is followed piece by piece:
dots stay, double dots go up, symbolic links are replaced by their targets, at most forty of them.
Everything but the last entry has to be a folder, and also the last one if a separator follows it.
An absolute path starts at an entry with the separator as its name. A path of more than 4095 bytes
leads nowhere.

Names and paths are texts: an entry whose name is not UTF-8 cannot be written here.
-/
namespace CodeStyle

/-- What a regular file holds: a text with its tree, or bytes that are no text. -/
inductive Content
  | text (chars : List Char) (tree : SyntaxTree)
  | bytes (raw : List UInt8)

namespace Content

/-- The tree of a text that no grammar has been applied to. -/
def noTree : SyntaxTree := .node { kind := "", start := 0, stop := 0 } []

/-- The content that some bytes make up. -/
def ofBytes (raw : List UInt8) : Content :=
  match Text.decode? raw with
  | some chars => text chars noTree
  | none => bytes raw

/-- The lines of a file, each decoded on its own. -/
def lines : Content → List (Except ReadFault (List Char))
  | text chars _ => (Text.lines chars).map .ok
  | bytes raw => (Text.byteLines raw).map fun line =>
    match Text.decode? line with
    | some chars => .ok chars
    | none => .error .notText

end Content

/-- An entry of a folder. A locked file is a regular file that may not be read. A device passes for a
regular file and cannot be read. A closed folder may be passed on the way to its entries, but it may
not be listed. -/
inductive Entry
  | file (name : String) (content : Content)
  | locked (name : String)
  | device (name : String)
  | link (name target : String)
  | folder (name : String) (entries : List Entry)
  | closed (name : String) (entries : List Entry)

namespace Entry

def name : Entry → String
  | file name _ => name
  | locked name => name
  | device name => name
  | link name _ => name
  | folder name _ => name
  | closed name _ => name

/-- The entries of a folder, none for other entries. -/
def entries : Entry → List Entry
  | folder _ entries => entries
  | closed _ entries => entries
  | _ => []

def isFolder : Entry → Bool
  | folder _ _ => true
  | closed _ _ => true
  | _ => false

def isRegular : Entry → Bool
  | file _ _ => true
  | locked _ => true
  | _ => false

/-- Whether an entry passes for a regular file. -/
def isFile : Entry → Bool
  | file _ _ => true
  | locked _ => true
  | device _ => true
  | _ => false

/-- The entry that names lead to from some entries. -/
def below? (entries : List Entry) : List String → Option Entry
  | [] => some (folder "" entries)
  | name :: rest =>
    match entries.find? (·.name == name) with
    | some e => if rest.isEmpty then some e else below? e.entries rest
    | none => none

end Entry

/-- The entries of the working directory, sorted by name in every folder. -/
structure Disk where
  entries : List Entry := []

namespace Disk

/-- The most links that are followed on one path. -/
def maximumLinks : Nat := 40

/-- Paths have at most 4095 bytes. -/
def isTooLong (path : String) : Bool := 4095 < path.utf8ByteSize

/-- The name of the entry at which absolute paths start. -/
def top : String := "/"

/-- The pieces of a path, the name of the top in front of those of an absolute path. -/
def steps (path : String) : List String :=
  match Path.pieces path with
  | "" :: rest => top :: rest
  | pieces => pieces

/-- Where the steps of a path start, given where a relative path starts. -/
def origin (place : List String) (path : String) : List String :=
  if path.startsWith "/" then [] else place

/-- Follows steps from a place and returns the names that lead to where they end. Places are lists
of names from the innermost out. A last link is followed only if asked for; what is missing is
passed over only if it may be created. -/
def follow (d : Disk) (lastLink create : Bool) :
    (links : Nat) → (place steps : List String) → Except ReadFault (List String)
  | _, place, [] => .ok place.reverse
  | links, place, step :: rest =>
    let isFolder := match Entry.below? d.entries place.reverse with
      | some e => e.isFolder
      | none => create
    if !isFolder then .error .notDirectory
    else if step = "" || step = "." then d.follow lastLink create links place rest
    else if step = ".." then
      match place with
      | [] => .error .missing
      | name :: outer => d.follow lastLink create links (if name = top then place else outer) rest
    else match Entry.below? d.entries (step :: place).reverse with
      | some (.link _ target) =>
        if rest.isEmpty && !lastLink then .ok (step :: place).reverse
        else match links with
          | 0 => .error .linkLoop
          | left + 1 =>
            d.follow lastLink create left (origin place target) (Disk.steps target ++ rest)
      | some _ => d.follow lastLink create links (step :: place) rest
      | none =>
        if create then d.follow lastLink create links (step :: place) rest else .error .missing
termination_by links _ steps => (links, steps.length)

/-- The names that lead to the entry at a path. -/
def route (d : Disk) (lastLink create : Bool) (path : String) : Except ReadFault (List String) :=
  if path = "" then .error .missing
  else if isTooLong path then .error .pathTooLong
  else d.follow lastLink create maximumLinks [] (steps path)

def find (d : Disk) (lastLink : Bool) (path : String) : Except ReadFault Entry :=
  match d.route lastLink false path with
  | .ok names =>
    match Entry.below? d.entries names with
    | some e => .ok e
    | none => .error .missing
  | .error fault => .error fault

/-- Whether a path leads to what passes for a regular file. -/
def isFile (d : Disk) (path : String) : Bool :=
  match d.find true path with
  | .ok e => e.isFile
  | .error _ => false

end Disk

end CodeStyle
