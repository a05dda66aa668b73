import CodeStyle.Unicode.GeneralCategory
import CodeStyle.Unicode.Property

/-!
# Quoted texts

Texts in messages stand between double quotes. Quotes, backslashes and some control characters are
written with a backslash and a letter, other characters that cannot be seen by their number. Formats
that have texts with such numbers read them as hexadecimal digits.
-/
namespace CodeStyle.Text

def hexValue? (c : Char) : Option Nat :=
  if '0' ≤ c ∧ c ≤ '9' then some (c.toNat - '0'.toNat)
  else if 'a' ≤ c ∧ c ≤ 'f' then some (c.toNat - 'a'.toNat + 10)
  else if 'A' ≤ c ∧ c ≤ 'F' then some (c.toNat - 'A'.toNat + 10)
  else none

def hexNumber? (digits : List Char) : Option Nat :=
  (digits.mapM hexValue?).map fun values => values.foldl (fun n d => n * 16 + d) 0

/-- The character with a number; surrogates and numbers beyond the last character have none. -/
def charOf? (n : Nat) : Option Char := if n.isValidChar then some (Char.ofNat n) else none

/-- The number that exactly `count` hexadecimal digits write at the start of a text. -/
def hexPrefix? (count : Nat) (cs : List Char) : Option Nat :=
  let digits := cs.take count
  if digits.length = count then hexNumber? digits else none

/-- The categories of characters that cannot be seen. -/
def invisibleCategories : List String := ["Cc", "Cf", "Cs", "Co", "Cn", "Zl", "Zp", "Zs"]

/-- Whether a character is shown as it is. Marks that extend the character before them are not. -/
def isShown (c : Char) : Bool :=
  c == ' ' || !(Unicode.Property.graphemeExtend.contains c ||
    invisibleCategories.contains (Unicode.GeneralCategory.ofChar c))

/-- A character between quotes. -/
def quoteChar (c : Char) : List Char :=
  match c with
  | '"' => ['\\', '"']
  | '\\' => ['\\', '\\']
  | '\n' => ['\\', 'n']
  | '\r' => ['\\', 'r']
  | '\t' => ['\\', 't']
  | '\x00' => ['\\', '0']
  | c =>
    if isShown c then [c]
    else '\\' :: 'u' :: '{' :: (Nat.toDigits 16 c.toNat ++ ['}'])

def quoted (s : String) : String := String.ofList ('"' :: (s.toList.flatMap quoteChar ++ ['"']))

end CodeStyle.Text
