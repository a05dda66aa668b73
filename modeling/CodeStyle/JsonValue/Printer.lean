import CodeStyle.JsonValue.Basic

/-!
# Writing JSON

Values as text, on one line or indented by two spaces. In texts quotes, backslashes and control
characters are escaped, all other characters stand for themselves.
-/
namespace CodeStyle.JsonValue

/-- A character between quotes. -/
def escape (c : Char) : List Char :=
  match c with
  | '"' => ['\\', '"']
  | '\\' => ['\\', '\\']
  | '\x08' => ['\\', 'b']
  | '\x0c' => ['\\', 'f']
  | '\n' => ['\\', 'n']
  | '\r' => ['\\', 'r']
  | '\t' => ['\\', 't']
  | c =>
    if c.toNat < 0x20 then
      let digit (n : Nat) : Char := n.digitChar
      ['\\', 'u', '0', '0', digit (c.toNat / 16), digit (c.toNat % 16)]
    else [c]

/-- A text between quotes. -/
def quote (s : String) : String := String.ofList ('"' :: (s.toList.flatMap escape ++ ['"']))

def boolText (b : Bool) : String := if b then "true" else "false"

mutual

/-- A value on one line without spaces. -/
def compact : JsonValue → String
  | null => "null"
  | bool b => boolText b
  | number digits => digits
  | string s => quote s
  | array items => "[" ++ String.intercalate "," (compactItems items) ++ "]"
  | object fields => "\x7b" ++ String.intercalate "," (compactFields fields) ++ "\x7d"

def compactItems : List JsonValue → List String
  | [] => []
  | v :: rest => compact v :: compactItems rest

/-- The fields of an object on one line. -/
def compactFields : List (String × JsonValue) → List String
  | [] => []
  | (k, v) :: rest => (quote k ++ ":" ++ compact v) :: compactFields rest

end

/-- A line break and the indentation of a level. -/
def newLine (level : Nat) : String := "\n" ++ String.ofList (List.replicate (2 * level) ' ')

/-- Parts on lines of their own between brackets that stand on a level. -/
def bracket (level : Nat) (opening closing : String) (parts : List String) : String :=
  if parts.isEmpty then opening ++ closing
  else opening ++ newLine (level + 1) ++
    String.intercalate ("," ++ newLine (level + 1)) parts ++ newLine level ++ closing

mutual

/-- A value that starts on a level, with every item and every field on a line of its own. -/
def pretty (level : Nat) : JsonValue → String
  | null => "null"
  | bool b => boolText b
  | number digits => digits
  | string s => quote s
  | array items => bracket level "[" "]" (prettyItems (level + 1) items)
  | object fields => bracket level "\x7b" "\x7d" (prettyFields (level + 1) fields)

def prettyItems (level : Nat) : List JsonValue → List String
  | [] => []
  | v :: rest => pretty level v :: prettyItems level rest

def prettyFields (level : Nat) : List (String × JsonValue) → List String
  | [] => []
  | (k, v) :: rest => (quote k ++ ": " ++ pretty level v) :: prettyFields level rest

end

end CodeStyle.JsonValue
