import CodeStyle.Disk.Edit
import CodeStyle.JsonValue.Basic
import CodeStyle.SyntaxTree.Outline
import CodeStyle.Text.Quoted

/-!
# Snapshots of disks

A disk as a list of entries in the order in which they are made: files with their text and the
outline of its tree or with their bytes, folders, symbolic links and devices.
-/
namespace CodeStyle.Disk

/-- The bytes that pairs of hexadecimal digits write. -/
def hexBytes : List Char → List UInt8
  | a :: b :: rest => ((Text.hexNumber? [a, b]).getD 0).toUInt8 :: hexBytes rest
  | _ => []

def snapshotContent (v : JsonValue) : Content :=
  match (v.get? "hex").bind (·.asString?) with
  | some digits => .ofBytes (hexBytes digits.toList)
  | none =>
    let text := ((v.get? "text").bind (·.asString?)).getD ""
    let outline := (v.get? "tree").bind (·.asString?)
    .text text.toList ((outline.bind SyntaxTree.Outline.read?).getD Content.noTree)

def addSnapshot (d : Disk) (v : JsonValue) : Disk :=
  match (v.get? "path").bind (·.asString?) with
  | none => d
  | some path =>
    if (v.get? "dir").isSome then d.makeFolder path
    else if (v.get? "unreadable").isSome then d.makeDevice path
    else match (v.get? "symlink").bind (·.asString?) with
      | some target => d.makeLink path target
      | none => d.write path (snapshotContent v)

def ofSnapshot (entries : List JsonValue) : Disk := entries.foldl addSnapshot { }

end CodeStyle.Disk
