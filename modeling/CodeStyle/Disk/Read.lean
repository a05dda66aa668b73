import CodeStyle.Disk.Basic
import CodeStyle.Excerpt
import CodeStyle.Source

/-!
# Reading from a disk

A file is read as a whole, or as a stream of lines that may fail at any of them.
-/
namespace CodeStyle.Disk

def read (d : Disk) (path : String) : Except ReadFault (List Char × SyntaxTree) :=
  match d.find true path with
  | .ok (.file _ (.text chars tree)) => .ok (chars, tree)
  | .ok (.file _ (.bytes _)) => .error .notText
  | .ok (.locked _) => .error .denied
  | .ok (.device _) => .error .deviceFailure
  | .ok (.folder _ _) => .error .isDirectory
  | .ok (.closed _ _) => .error .denied
  | .ok (.link _ _) => .error .linkLoop
  | .error fault => .error fault

def source (d : Disk) (path : String) : Except ReadFault Source :=
  (d.read path).map fun (chars, tree) => ⟨path, chars, tree⟩

/-- Opens a file as a stream of lines. What may be opened but cannot be read fails at its first
line. -/
def lines (d : Disk) (path : String) : Except ReadFault (List Excerpt.Line) :=
  match d.find true path with
  | .ok (.file _ content) => .ok content.lines
  | .ok (.locked _) => .error .denied
  | .ok (.device _) => .ok [.error .deviceFailure]
  | .ok (.folder _ _) => .ok [.error .isDirectory]
  | .ok (.closed _ _) => .error .denied
  | .ok (.link _ _) => .ok [.error .linkLoop]
  | .error fault => .error fault

def excerpt (d : Disk) (path : String) (span : Span) : Except CheckError (List Char) :=
  match d.lines path with
  | .ok lines => Excerpt.ofLines path lines span
  | .error fault => .error (.io fault)

def extract (d : Disk) (path : String) (span : WordSpan) : Except CheckError (List Char) :=
  match d.lines path with
  | .ok lines => Excerpt.ofStream path lines span
  | .error fault => .error (.io fault)

end CodeStyle.Disk
