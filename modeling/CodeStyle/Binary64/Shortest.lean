import CodeStyle.Binary64.Basic

/-!
# Shortest decimals

The decimal with the fewest digits that is read back as a number, and of those the nearest. For
every number of digits only the two neighbours of the number on the grid of decimals have to be
tried, because the numbers that are read back form an interval.
-/
namespace CodeStyle.Binary64

/-- Digits behind the point, and by how many places the point is moved to the right of them. -/
structure Decimal where
  digits : List Char
  point : Int
deriving DecidableEq, Repr

def decimalSize (n : Nat) : Nat := (Nat.toDigits 10 n).length

/-- The least power of ten above a positive quotient. -/
def decimalPoint (num den : Nat) : Int :=
  if den ≤ num then decimalSize (num / den)
  else 1 - (decimalSize ((den + num - 1) / num - 1) : Int)

/-- The terms of a quotient times a power of ten. -/
def shiftDecimal (num den : Nat) (places : Int) : Nat × Nat :=
  match places with
  | .ofNat n => (num * Nat.pow 10 n, den)
  | .negSucc n => (num, den * Nat.pow 10 (n + 1))

/-- The quotients between which decimals are read back as a number, over a common denominator:
the lower bound, the number, the upper bound and the denominator. -/
def interval (mantissa : Nat) (exponent : Int) : Nat × Nat × Nat × Nat :=
  let (unit, den) := ratio 1 (exponent - 2)
  let below := if mantissa = leastFull && minExponent < exponent then 1 else 2
  ((4 * mantissa - below) * unit, 4 * mantissa * unit, (4 * mantissa + 2) * unit, den)

/-- The decimal with `count` digits that is read back and nearest, if there is one. -/
def withDigits? (mantissa : Nat) (exponent : Int) (point : Int) (count : Nat) : Option Nat :=
  let (low, value, high, den) := interval mantissa exponent
  let places : Int := count - point
  let (num, den') := shiftDecimal value den places
  let (low, _) := shiftDecimal low den places
  let (high, _) := shiftDecimal high den places
  let closed := mantissa % 2 == 0
  let reads (d : Nat) := let x := d * den'
    if closed then low ≤ x && x ≤ high else low < x && x < high
  let floor := num / den'
  let rest := num % den'
  let nearer := if 2 * rest < den' || (2 * rest == den' && floor % 2 == 0) then floor else floor + 1
  let farther := if nearer = floor then floor + 1 else floor
  if reads nearer then some nearer else if reads farther then some farther else none

/-- The first decimal that is read back, from a number of digits on. -/
def search (mantissa : Nat) (exponent : Int) (point : Int) : (fuel count : Nat) → Nat × Nat
  | 0, count => ((withDigits? mantissa exponent point count).getD 0, count)
  | fuel + 1, count =>
    match withDigits? mantissa exponent point count with
    | some d => (d, count)
    | none => search mantissa exponent point fuel (count + 1)

def trimZeros (digits : List Char) : List Char := (digits.reverse.dropWhile (· == '0')).reverse

def shortest (mantissa : Nat) (exponent : Int) : Decimal :=
  let (num, den) := ratio mantissa exponent
  let point := decimalPoint num den
  let (d, count) := search mantissa exponent point 16 1
  let digits := Nat.toDigits 10 d
  ⟨trimZeros digits, point + digits.length - count⟩

/-- A decimal without an exponent; a whole number has no point. -/
def Decimal.positional (d : Decimal) : List Char :=
  match d.point with
  | .ofNat n =>
    if d.digits.length ≤ n then d.digits ++ List.replicate (n - d.digits.length) '0'
    else if n = 0 then "0.".toList ++ d.digits
    else d.digits.take n ++ '.' :: d.digits.drop n
  | .negSucc n => "0.".toList ++ List.replicate (n + 1) '0' ++ d.digits

/-- A decimal with one digit in front of the point and an exponent. -/
def Decimal.scientific (d : Decimal) : List Char :=
  let exponent := 'e' :: (toString (d.point - 1)).toList
  match d.digits with
  | [single] => single :: exponent
  | first :: rest => first :: '.' :: rest ++ exponent
  | [] => '0' :: exponent

/-- A number without an exponent and always with a point. -/
def positionalText : Binary64 → String
  | nan => "NaN"
  | infinite negative => if negative then "-inf" else "inf"
  | finite negative mantissa exponent =>
    let digits := if mantissa = 0 then ['0'] else (shortest mantissa exponent).positional
    let text := if digits.contains '.' then digits else digits ++ ".0".toList
    String.ofList (if negative then '-' :: text else text)

/-- A quotient with one digit behind the point, a half rounded to the even neighbour. -/
def oneDigit (num den : Nat) : String :=
  let tenths := roundEven (10 * num) den
  toString (tenths / 10) ++ "." ++ toString (tenths % 10)

/-- A number that is not negative, with one digit behind the point. -/
def oneDigitText : Binary64 → String
  | nan => "NaN"
  | infinite _ => "inf"
  | finite _ mantissa exponent => let (num, den) := ratio mantissa exponent; oneDigit num den

/-- Milliseconds as seconds. -/
def ofMilliseconds (ms : Nat) : Binary64 :=
  match ofRatio false ms 1 with
  | finite negative mantissa exponent =>
    let (num, den) := ratio mantissa exponent
    ofRatio negative num (den * 1000)
  | x => x

end CodeStyle.Binary64
