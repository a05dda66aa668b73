import CodeStyle.Binary64.Shortest

/-!
# YAML values

What a document of the data format says. Mappings keep the order of the document. Two values are
the same regardless of the order in their mappings.
-/
namespace CodeStyle

/-- A value of a document. Tags are written with their exclamation mark. -/
inductive Yaml
  | null
  | bool (b : Bool)
  | int (n : Int)
  | float (x : Binary64)
  | string (s : String)
  | sequence (items : List Yaml)
  | mapping (entries : List (Yaml × Yaml))
  | tagged (tag : String) (value : Yaml)

namespace Yaml

mutual

def same : Yaml → Yaml → Bool
  | null, null => true
  | bool a, bool b => a == b
  | int a, int b => a == b
  | float a, float b => a.same b
  | string a, string b => a == b
  | sequence as, sequence bs => sameItems as bs
  | mapping as, mapping bs => as.length == bs.length && areEntriesIn bs as
  | tagged a v, tagged b w => a == b && same v w
  | _, _ => false

def sameItems : List Yaml → List Yaml → Bool
  | [], [] => true
  | a :: as, b :: bs => same a b && sameItems as bs
  | _, _ => false

/-- Whether every entry of a list, the second, is among others. -/
def areEntriesIn (others : List (Yaml × Yaml)) : List (Yaml × Yaml) → Bool
  | [] => true
  | (k, v) :: rest => others.any (fun e => same k e.1 && same v e.2) && areEntriesIn others rest

end

/-- A value without the tags around it. -/
def untagged : Yaml → Yaml
  | tagged _ value => untagged value
  | value => value

/-- The text of a floating point number in a document: without an exponent where the decimal point
falls among the first sixteen places or the first five zeros, always with a point or an exponent. -/
def floatText : Binary64 → String
  | .nan => ".nan"
  | .infinite negative => if negative then "-.inf" else ".inf"
  | .finite negative mantissa exponent =>
    let text := if mantissa = 0 then "0.0".toList
      else
        let d := Binary64.shortest mantissa exponent
        if -5 < d.point && d.point ≤ 16 then
          let digits := d.positional
          if digits.contains '.' then digits else digits ++ ".0".toList
        else d.scientific
    String.ofList (if negative then '-' :: text else text)

end Yaml

end CodeStyle
