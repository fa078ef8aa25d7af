/-
# NativeRecords.Number.Binary64 -- binary floating-point numbers with exact arithmetic

A number of the 64-bit binary format is a signed mantissa times a power of two, an infinity, or
not a number. Everything here is computed on naturals and integers: a result is the exact value,
rounded once to the nearest representable number with a half going to the even mantissa.

The finite values are kept in one form: the mantissa is below `2 ^ 53`, and it is at least `2 ^
52` unless the exponent is the least one, `-1074`. Both zeros have mantissa `0` and the least
exponent.
-/

namespace NativeRecords

/-- The power `2 ^ n`. -/
def twoPow (n : Nat) : Nat := Nat.pow 2 n

/-- The power `10 ^ n`. -/
def tenPow (n : Nat) : Nat := Nat.pow 10 n

/-- A number of the 64-bit binary floating-point format. The finite value stands for
`± mantissa * 2 ^ exponent`. -/
inductive Binary64 where
  | finite (negative : Bool) (mantissa : Nat) (exponent : Int)
  | infinite (negative : Bool)
  | nan
deriving DecidableEq

namespace Binary64

/-! ## Rounding -/

/-- The least exponent; the spacing of the smallest numbers is `2 ^ (-1074)`. -/
def minExponent : Int := -1074

/-- The greatest exponent of a finite number. -/
def maxExponent : Int := 971

/-- The nearest natural to `num / den`; a half goes to the even neighbour. -/
def roundHalfEven (num den : Nat) : Nat :=
  let quotient := num / den
  let doubled := 2 * (num % den)
  if doubled < den then quotient
  else if den < doubled then quotient + 1
  else if quotient % 2 = 0 then quotient
  else quotient + 1

/-- The number with this sign, mantissa and exponent; past the greatest exponent it is infinite.
-/
def pack (negative : Bool) (mantissa : Nat) (exponent : Int) : Binary64 :=
  if maxExponent < exponent then .infinite negative else .finite negative mantissa exponent

/-- The exponent at which `num / den` has a mantissa of exactly 53 bits, or the least exponent
where that one is smaller. The logarithms leave two candidates, told apart by one comparison. -/
def scaleOf (num den : Nat) : Int :=
  let guess : Int := (num.log2 : Int) - (den.log2 : Int) - 52
  let full := den * twoPow guess.toNat * twoPow 52 ≤ num * twoPow (-guess).toNat
  max minExponent (if full then guess else guess - 1)

/-- The number nearest to `± num / den`. -/
def ofRatio (negative : Bool) (num den : Nat) : Binary64 :=
  if num = 0 then .finite negative 0 minExponent
  else
    let exponent := scaleOf num den
    let mantissa := roundHalfEven (num * twoPow (-exponent).toNat) (den * twoPow exponent.toNat)
    if mantissa = twoPow 53 then pack negative (twoPow 52) (exponent + 1)
    else pack negative mantissa exponent

/-- The number nearest to `± digits * 10 ^ exponent`. Every finite number lies between
`10 ^ (-400)` and `10 ^ 400`, so a decimal outside these bounds is settled without the power. -/
def ofDecimal (negative : Bool) (digits : Nat) (exponent : Int) : Binary64 :=
  if digits = 0 then .finite negative 0 minExponent
  else if 400 < exponent then .infinite negative
  else if exponent + (digits.log2 / 3 + 1 : Nat) < -400 then .finite negative 0 minExponent
  else ofRatio negative (digits * tenPow exponent.toNat) (tenPow (-exponent).toNat)

/-! ## Exact values -/

/-- The mantissa with its sign. -/
def signed (negative : Bool) (mantissa : Nat) : Int :=
  if negative then -(mantissa : Int) else (mantissa : Int)

/-- The integer that this number is, if it is one. -/
def toInt? : Binary64 → Option Int
  | .finite negative mantissa exponent =>
    if 0 ≤ exponent then some (signed negative (mantissa * twoPow exponent.toNat))
    else if mantissa % twoPow (-exponent).toNat = 0 then
      some (signed negative (mantissa / twoPow (-exponent).toNat))
    else none
  | .infinite _ => none
  | .nan => none

/-- Whether this number is an integer. Infinities and the not-a-number are none. -/
def isIntegral (x : Binary64) : Bool := x.toInt?.isSome

/-- Whether this number is one of the two zeros. -/
def isZero : Binary64 → Bool
  | .finite _ mantissa _ => mantissa = 0
  | .infinite _ => false
  | .nan => false

/-- The number nearest to `x + 1`. -/
def addOne : Binary64 → Binary64
  | .finite negative mantissa exponent =>
    let unit : Nat := twoPow (-exponent).toNat
    let sum := signed negative (mantissa * twoPow exponent.toNat) + (unit : Int)
    ofRatio (sum < 0) sum.natAbs unit
  | .infinite negative => .infinite negative
  | .nan => .nan

/-- Numeric equality: finite values are compared at the lesser of their exponents, so the two zeros
are equal. Not-a-number equals nothing. -/
def eqv : Binary64 → Binary64 → Bool
  | .finite n m e, .finite n' m' e' =>
    signed n (m * twoPow (e - e').toNat) = signed n' (m' * twoPow (e' - e).toNat)
  | .infinite n, .infinite n' => n = n'
  | _, _ => false

/-- Numeric equality with an integer, exact at any size. -/
def eqvInt (x : Binary64) (n : Int) : Bool := x.toInt? = some n

end Binary64
end NativeRecords
