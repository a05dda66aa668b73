import CodeStyle.Text.Quoted
import CodeStyle.Yaml.Basic

/-!
# Values of scalars

What a plain scalar stands for: nothing, a truth value, a number or its text. Digits behind a
leading zero are text. A number of up to 128 bits that does not fit 64 bits is refused.
-/
namespace CodeStyle.Yaml.Scalar

/-- Whether a text stands for nothing. -/
def isNull (s : String) : Bool := ["null", "Null", "NULL", "~"].contains s

def bool? (s : String) : Option Bool :=
  if ["true", "True", "TRUE"].contains s then some true
  else if ["false", "False", "FALSE"].contains s then some false
  else none

/-- The value of a digit in bases up to sixteen. -/
def digit? (base : Nat) (c : Char) : Option Nat :=
  (Text.hexValue? c).filter (· < base)

/-- The number that digits in a base write. -/
def natural? (base : Nat) (digits : List Char) : Option Nat :=
  if digits.isEmpty then none
  else (digits.mapM (digit? base)).map fun ds => ds.foldl (fun n d => n * base + d) 0

/-- The base that a mark in front of digits announces, and the digits. -/
def based? : List Char → Option (Nat × List Char)
  | '0' :: 'x' :: digits => some (16, digits)
  | '0' :: 'o' :: digits => some (8, digits)
  | '0' :: 'b' :: digits => some (2, digits)
  | _ => none

def withoutSign : List Char → List Char
  | '+' :: rest => rest
  | '-' :: rest => rest
  | cs => cs

/-- Whether a text consists of digits behind a leading zero. -/
def isPadded (cs : List Char) : Bool :=
  match withoutSign cs with
  | '0' :: rest => !rest.isEmpty && rest.all Char.isDigit
  | _ => false

/-- The number that a text writes without a sign or with a plus. -/
def unsigned? (cs : List Char) : Option Nat :=
  let body := if cs.head? == some '+' then cs.drop 1 else cs
  match (based? body).bind fun (base, digits) => natural? base digits with
  | some n => some n
  | none => if isPadded cs then none else natural? 10 body

/-- The number that a text writes with a minus, without the minus. -/
def negated? : List Char → Option Nat
  | '-' :: body =>
    match (based? body).bind fun (base, digits) => natural? base digits with
    | some n => some n
    | none => if isPadded ('-' :: body) then none else natural? 10 body
  | _ => none

/-- What a text says about whole numbers. -/
inductive Whole
  | fits (n : Int)
  | tooWide
  | other
deriving DecidableEq, Repr

/-- How many values a number of 64 bits has. -/
def wordBound : Nat := 0x10000000000000000

/-- The whole number that a text stands for. -/
def whole (cs : List Char) : Whole :=
  match unsigned? cs, negated? cs with
  | some n, _ =>
    if n < wordBound then .fits n
    else if n < wordBound * wordBound then .tooWide else .other
  | none, some n =>
    if 2 * n ≤ wordBound then .fits (-(n : Int))
    else if 2 * n ≤ wordBound * wordBound then .tooWide else .other
  | none, none => .other

/-- Reads an exponent, none or a letter, a sign and digits up to the end. -/
def exponent? : List Char → Option Int
  | [] => some 0
  | e :: rest =>
    if e == 'e' || e == 'E' then
      match rest with
      | '-' :: digits => (natural? 10 digits).map fun n => -(n : Int)
      | '+' :: digits => (natural? 10 digits).map Int.ofNat
      | digits => (natural? 10 digits).map Int.ofNat
    else none

/-- The number that digits with a point and an exponent write. There has to be a digit. -/
def decimal? (cs : List Char) : Option Binary64 :=
  let (isNegative, cs) := match cs with
    | '-' :: rest => (true, rest)
    | '+' :: rest => (false, rest)
    | cs => (false, cs)
  let (before, rest) := cs.span Char.isDigit
  let (after, rest) := match rest with
    | '.' :: rest => rest.span Char.isDigit
    | rest => ([], rest)
  match natural? 10 (before ++ after), exponent? rest with
  | some n, some e => some (Binary64.ofDecimal isNegative n (e - after.length))
  | _, _ => none

/-- The floating point number that a text stands for. -/
def float? (s : String) : Option Binary64 :=
  if [".inf", ".Inf", ".INF", "+.inf", "+.Inf", "+.INF"].contains s then some (.infinite false)
  else if ["-.inf", "-.Inf", "-.INF"].contains s then some (.infinite true)
  else if [".nan", ".NaN", ".NAN"].contains s then some .nan
  else match s.toList with
    | '+' :: '+' :: _ => none
    | '+' :: '-' :: _ => none
    | cs => (decimal? cs).filter (·.isFinite)

/-- What a plain scalar stands for, unless it is refused. -/
def ofPlain? (s : String) : Option Yaml :=
  if s = "" || isNull s then some .null
  else match bool? s with
    | some b => some (.bool b)
    | none =>
      match whole s.toList with
      | .fits n => some (.int n)
      | .tooWide => none
      | .other =>
        match if isPadded s.toList then none else float? s with
        | some x => some (.float x)
        | none => some (.string s)

/-- The start of the tags of the core types. -/
def coreTag (type : String) : String := "tag:yaml.org,2002:" ++ type

/-- What a scalar with a tag for a type stands for, unless it does not have that type. Other tags
make it a text. -/
def ofTagged? (tag s : String) : Option Yaml :=
  if tag = coreTag "bool" then (bool? s).map .bool
  else if tag = coreTag "int" then
    match whole s.toList with
    | .fits n => some (.int n)
    | _ => none
  else if tag = coreTag "float" then (float? s).map .float
  else if tag = coreTag "null" then if isNull s then some .null else none
  else some (.string s)

end CodeStyle.Yaml.Scalar
