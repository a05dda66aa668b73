import CodeStyle.Text.Bytes
import CodeStyle.Text.Quoted
import CodeStyle.Yaml.Cursor
import CodeStyle.Yaml.Token

/-!
# Anchors, tags and directives

The names that nodes are given, and the lines in front of a document that declare its version and
the handles of its tags.
-/
namespace CodeStyle.Yaml

/-- Reads the name of an anchor or an alias, from its sign on. -/
def readName? (c : Cursor) : Option (String × Cursor) :=
  let (name, c) := (c.skip 1).takeWhile isNameChar
  let isClosed := c.isClear 0 || c.looksAtAny ['?', ':', ',', ']', '}', '%', '@', '\x60'].contains
  if !name.isEmpty && isClosed then some (String.ofList name, c) else none

namespace Tag

/-- The signs that may occur in the address of a tag, the percent sign apart. -/
def addressSigns : List Char :=
  [';', '/', '?', ':', '@', '&', '=', '+', '$', '.', '!', '~', '*', '\'', '(', ')']

/-- Whether a character may occur in an address. Brackets and commas are allowed only where
something else ends the address. -/
def isAddressChar (isEnclosed : Bool) (c : Char) : Bool :=
  isNameChar c || addressSigns.contains c || (isEnclosed && [',', '[', ']'].contains c)

/-- The number of bytes of the character that a first byte starts. -/
def width? (byte : Nat) : Option Nat :=
  if byte < 0x80 then some 1
  else if 0xc0 ≤ byte ∧ byte < 0xe0 then some 2
  else if 0xe0 ≤ byte ∧ byte < 0xf0 then some 3
  else if 0xf0 ≤ byte ∧ byte < 0xf8 then some 4
  else none

/-- The bytes that a number of percent escapes stand for. -/
def escapedBytes? : (count : Nat) → List Char → Option (List UInt8)
  | 0, _ => some []
  | n + 1, '%' :: rest =>
    match Text.hexPrefix? 2 rest, escapedBytes? n (rest.drop 2) with
    | some b, some bs => some (b.toUInt8 :: bs)
    | _, _ => none
  | _ + 1, _ => none

/-- The character that percent escapes stand for, and the number of the escapes. -/
def escaped? (cs : List Char) : Option (List Char × Nat) :=
  match (Text.hexPrefix? 2 (cs.drop 1)).bind width? with
  | some count => ((escapedBytes? count cs).bind Text.decode?).map fun text => (text, count)
  | none => none

/-- Reads an address behind what has been read of it, in reverse. -/
def readAddress (isEnclosed : Bool) : (fuel : Nat) → (done : List Char) → Cursor →
    Option (List Char × Cursor)
  | 0, _, _ => none
  | fuel + 1, done, c =>
    match c.rest with
    | [] => some (done.reverse, c)
    | x :: rest =>
      if x == '%' then
        match escaped? (x :: rest) with
        | some (text, count) =>
          readAddress isEnclosed fuel (text.reverse ++ done) (c.skip (3 * count))
        | none => none
      else if isAddressChar isEnclosed x then readAddress isEnclosed fuel (x :: done) (c.skip 1)
      else some (done.reverse, c)

def readAddress? (isEnclosed : Bool) (c : Cursor) : Option (String × Cursor) :=
  match readAddress isEnclosed (c.rest.length + 1) [] c with
  | some ([], _) => none
  | some (text, c) => some (String.ofList text, c)
  | none => none

/-- Reads a handle: an exclamation mark, or a name between two of them. A name behind only one is
read as well, and the last component tells so. -/
def readHandle? (c : Cursor) : Option (List Char × Cursor × Bool) :=
  if c.looksAt '!' then
    let (name, c) := (c.skip 1).takeWhile isNameChar
    if c.looksAt '!' then some ('!' :: (name ++ ['!']), c.skip 1, false)
    else some ('!' :: name, c, !name.isEmpty)
  else none

/-- Reads a handle and a suffix, from the exclamation mark on. An address in angle brackets has no
handle, and neither has the mark alone. -/
def readParts? (c : Cursor) : Option (String × String × Cursor) :=
  if c.at? 1 == some '<' then
    match readAddress? true (c.skip 2) with
    | some (address, c) => if c.looksAt '>' then some ("", address, c.skip 1) else none
    | none => none
  else match readHandle? c with
    | none => none
    | some (handle, c, _) =>
      if 1 < handle.length && handle.getLast? == some '!' then
        (readAddress? false c).map fun (suffix, c) => (String.ofList handle, suffix, c)
      else match readAddress false (c.rest.length + 1) [] c with
        | some (more, c) =>
          let suffix := handle.drop 1 ++ more
          if suffix.isEmpty then some ("", "!", c) else some ("!", String.ofList suffix, c)
        | none => none

/-- Reads a tag, which white space has to follow, or a comma inside of flow collections. -/
def read? (inFlow : Bool) (c : Cursor) : Option (Token × Cursor) :=
  match readParts? c with
  | some (handle, suffix, c) =>
    if c.isClear 0 || (inFlow && c.looksAt ',') then some (.tag handle suffix, c) else none
  | none => none

end Tag

namespace Directive

/-- Reads a number of at most nine digits. -/
def readNumber? (c : Cursor) : Option (Nat × Cursor) :=
  let (digits, next) := c.takeWhile Char.isDigit
  if digits.isEmpty || 9 < digits.length then none
  else (String.ofList digits).toNat?.map fun n => (n, next)

def readVersion? (c : Cursor) : Option (Token × Cursor) :=
  match readNumber? (c.skipWhile isBlank) with
  | some (major, c) =>
    if c.looksAt '.' then (readNumber? (c.skip 1)).map fun (minor, c) => (.version major minor, c)
    else none
  | none => none

/-- Reads a handle and the address that it stands for. -/
def readTagHandle? (c : Cursor) : Option (Token × Cursor) :=
  match Tag.readHandle? (c.skipWhile isBlank) with
  | some (handle, c, false) =>
    if c.looksAtAny isBlank then
      match Tag.readAddress? true (c.skipWhile isBlank) with
      | some (address, c) =>
        if c.isClear 0 then some (.tagHandle (String.ofList handle) address, c) else none
      | none => none
    else none
  | _ => none

/-- Reads a directive, from its percent sign to the end of its line. -/
def read? (c : Cursor) : Option (Token × Cursor) :=
  let (name, c) := (c.skip 1).takeWhile isNameChar
  let content := if !c.isClear 0 then none
    else match String.ofList name with
      | "YAML" => readVersion? c
      | "TAG" => readTagHandle? c
      | _ => none
  match content with
  | some (token, c) => c.endLine?.map fun c => (token, c)
  | none => none

end Directive

end CodeStyle.Yaml
