/-!
# Binary floating point numbers

Numbers with 53 binary digits and exponents from -1074 to 971, without the use of machine floats.
A quotient is rounded to the nearest number, one in the middle to the neighbour with an even
mantissa.
-/
namespace CodeStyle

/-- A number of the format. A finite one is its mantissa times a power of two; the mantissa has 53
binary digits unless the exponent is the least. -/
inductive Binary64
  | nan
  | infinite (negative : Bool)
  | finite (negative : Bool) (mantissa : Nat) (exponent : Int)
deriving DecidableEq, Repr

namespace Binary64

def minExponent : Int := -1074

def maxExponent : Int := 971

/-- The least mantissa with 53 binary digits. -/
def leastFull : Nat := 1 <<< 52

/-- A quotient rounded to the nearest whole number, a half to the even neighbour. -/
def roundEven (num den : Nat) : Nat :=
  let q := num / den
  let r := num % den
  if 2 * r < den || (2 * r == den && q % 2 == 0) then q else q + 1

/-- The terms of a quotient divided by a power of two. -/
def scale (num den : Nat) (exponent : Int) : Nat × Nat :=
  match exponent with
  | .ofNat e => (num, den <<< e)
  | .negSucc e => (num <<< (e + 1), den)

/-- The exponent with which a positive quotient has a mantissa of 53 binary digits. -/
def exponentOf (num den : Nat) : Int :=
  let e : Int := (num.log2 : Int) - den.log2 - 52
  let (n, d) := scale num den e
  if n / d < leastFull then e - 1 else e

/-- The number nearest to a quotient. -/
def ofRatio (negative : Bool) (num den : Nat) : Binary64 :=
  if num = 0 then finite negative 0 minExponent
  else
    let e := max minExponent (exponentOf num den)
    let (n, d) := scale num den e
    let m := roundEven n d
    let (m, e) := if m = 2 * leastFull then (leastFull, e + 1) else (m, e)
    if maxExponent < e then infinite negative else finite negative m e

/-- The number nearest to a whole number times a power of ten. -/
def ofDecimal (negative : Bool) (digits : Nat) (exponent : Int) : Binary64 :=
  let size : Int := (Nat.toDigits 10 digits).length
  if digits = 0 then finite negative 0 minExponent
  else if 310 < size + exponent then infinite negative
  else if size + exponent < -330 then finite negative 0 minExponent
  else match exponent with
    | .ofNat e => ofRatio negative (digits * Nat.pow 10 e) 1
    | .negSucc e => ofRatio negative digits (Nat.pow 10 (e + 1))

/-- The terms of the quotient that a mantissa and an exponent stand for. -/
def ratio (mantissa : Nat) (exponent : Int) : Nat × Nat :=
  match exponent with
  | .ofNat e => (mantissa <<< e, 1)
  | .negSucc e => (mantissa, 1 <<< (e + 1))

/-- Whether a number is neither infinite nor undefined. -/
def isFinite : Binary64 → Bool
  | finite _ _ _ => true
  | _ => false

/-- Equality of values. Both zeros are equal, and what is undefined equals itself. -/
def same : Binary64 → Binary64 → Bool
  | finite a m e, finite b n f => (m == 0 && n == 0) || (a == b && m == n && e == f)
  | x, y => x == y

end Binary64

end CodeStyle
