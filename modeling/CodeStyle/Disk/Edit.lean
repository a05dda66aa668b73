import CodeStyle.Disk.Basic

/-!
# Changes to a disk

New entries come with the folders that lead to them. Folders stay sorted by name.
-/
namespace CodeStyle

namespace Entry

/-- Puts an entry in its place among sorted ones, instead of one of the same name. -/
def insert (e : Entry) : List Entry → List Entry
  | [] => [e]
  | f :: rest =>
    if e.name = f.name then e :: rest
    else if e.name < f.name then e :: f :: rest
    else f :: insert e rest

/-- Puts an entry at the end of some names. An entry that is in the way stays. -/
def place (make : String → Entry) : List Entry → List String → List Entry
  | entries, [] => entries
  | entries, [name] => insert (make name) entries
  | entries, name :: rest =>
    match entries.find? (·.name == name) with
    | some (folder _ inner) => insert (folder name (place make inner rest)) entries
    | some _ => entries
    | none => insert (folder name (place make [] rest)) entries

/-- Takes away the entry at the end of some names. -/
def erase : List Entry → List String → List Entry
  | entries, [] => entries
  | entries, [name] => entries.filter (·.name != name)
  | entries, name :: rest =>
    match entries.find? (·.name == name) with
    | some (folder _ inner) => insert (folder name (erase inner rest)) entries
    | _ => entries

end Entry

namespace Disk

def put (d : Disk) (lastLink : Bool) (path : String) (make : String → Entry) : Disk :=
  match d.route lastLink true path with
  | .ok names => ⟨Entry.place make d.entries names⟩
  | .error _ => d

/-- Writes a file, behind a link if there is one. -/
def write (d : Disk) (path : String) (content : Content) : Disk :=
  d.put true path (.file · content)

def makeFolder (d : Disk) (path : String) : Disk :=
  match d.find true path with
  | .ok _ => d
  | .error _ => d.put true path (.folder · [])

def makeLink (d : Disk) (path target : String) : Disk := d.put false path (.link · target)

def makeDevice (d : Disk) (path : String) : Disk := d.put false path .device

def remove (d : Disk) (path : String) : Disk :=
  match d.route false false path with
  | .ok names => ⟨Entry.erase d.entries names⟩
  | .error _ => d

end Disk

end CodeStyle
