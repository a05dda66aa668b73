/-!
# JSON values

Values of the data format, with numbers as they are written and objects in the order of their
fields, the same key possibly more than once.
-/
namespace CodeStyle

/-- A value of the data format. -/
inductive JsonValue
  | null
  | bool (b : Bool)
  | number (digits : String)
  | string (s : String)
  | array (items : List JsonValue)
  | object (fields : List (String × JsonValue))

namespace JsonValue

/-- A whole number that is not negative. -/
def nat (n : Nat) : JsonValue := number (toString n)

def strings (ss : List String) : JsonValue := array (ss.map string)

/-- The values of a key in an object. -/
def all (key : String) : JsonValue → List JsonValue
  | object fields => fields.filterMap fun (k, v) => if k = key then some v else none
  | _ => []

def get? (key : String) (v : JsonValue) : Option JsonValue := (v.all key).head?

def asString? : JsonValue → Option String
  | string s => some s
  | _ => none

def asArray? : JsonValue → Option (List JsonValue)
  | array items => some items
  | _ => none

/-- The whole number that a value is, written with digits alone. -/
def asNat? : JsonValue → Option Nat
  | number digits => if digits.toList.all Char.isDigit then digits.toNat? else none
  | _ => none

end JsonValue

end CodeStyle
