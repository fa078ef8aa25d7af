/-
# NativeRecords.Number.Notation -- the written form of numbers

Integers are written in decimal. A floating-point number is written with its shortest digits:
positionally, with at least one digit after the point, while the exponent of its leading digit is
from `-4` to `15`, and otherwise with a signed exponent of two digits or more.
-/
import NativeRecords.Number.Shortest

namespace NativeRecords

/-- The decimal digits of a natural. -/
def digitsOf (n : Nat) : List Char := Nat.toDigits 10 n

/-- An integer in decimal, with a minus sign when it is negative. Every integer has such a text:
there is no limit on the number of its digits. -/
def integerText (n : Int) : String :=
  if n < 0 then String.ofList ('-' :: digitsOf n.natAbs) else String.ofList (digitsOf n.natAbs)

namespace Decimal

/-- Digits without the zeros at their end. -/
def trimZeros (digits : List Char) : List Char :=
  (digits.reverse.dropWhile (· = '0')).reverse

/-- `count` zeros. -/
def zeros (count : Nat) : List Char := List.replicate count '0'

/-- Digits with the point after the digit of weight one; `lead` is the exponent of the first. -/
def positional (digits : List Char) (lead : Int) : List Char :=
  if lead < 0 then '0' :: '.' :: zeros ((-lead).toNat - 1) ++ digits
  else
    let whole := lead.toNat + 1
    if digits.length ≤ whole then digits ++ zeros (whole - digits.length) ++ ['.', '0']
    else digits.take whole ++ '.' :: digits.drop whole

/-- Digits with the point after the first, and the exponent of the first. -/
def scientific (digits : List Char) (lead : Int) : List Char :=
  let tail := digits.drop 1
  let power := digitsOf lead.natAbs
  digits.take 1 ++ (if tail.isEmpty then [] else '.' :: tail)
    ++ ['e', if lead < 0 then '-' else '+'] ++ zeros (2 - power.length) ++ power

/-- The written form of a decimal that is not zero. -/
def layout (d : Decimal) : List Char :=
  let digits := digitsOf d.digits
  let lead : Int := (digits.length : Int) - 1 + d.exponent
  if -4 ≤ lead ∧ lead < 16 then positional (trimZeros digits) lead
  else scientific (trimZeros digits) lead

end Decimal

/-- The written form of a floating-point number. -/
def Binary64.text : Binary64 → String
  | .finite negative mantissa exponent =>
    let magnitude :=
      if mantissa = 0 then ['0', '.', '0'] else (Decimal.shortest mantissa exponent).layout
    String.ofList (if negative then '-' :: magnitude else magnitude)
  | .infinite negative => if negative then "-inf" else "inf"
  | .nan => "nan"

end NativeRecords
