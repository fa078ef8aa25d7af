/-
# NativeRecords.Number.Shortest -- the fewest decimal digits that read back

A finite number stands for an interval of reals: all those that round to it. Its shortest decimal
is the one with the fewest digits inside that interval, and of two with equally few the nearer.
The search tries one digit, two digits, and so on, on the two neighbours of the value on each
decimal grid, in exact natural arithmetic. Seventeen digits always suffice.
-/
import NativeRecords.Number.Binary64

namespace NativeRecords

/-- The decimal number `digits * 10 ^ exponent`. -/
structure Decimal where
  digits : Nat
  exponent : Int
deriving DecidableEq

namespace Decimal

/-- Compares `digits * 10 ^ exponent` with `n * 2 ^ j` by cross-multiplication. -/
def compareBinary (d : Decimal) (n : Nat) (j : Int) : Ordering :=
  compare (d.digits * tenPow d.exponent.toNat * twoPow (-j).toNat)
    (n * twoPow j.toNat * tenPow (-d.exponent).toNat)

/-- Whether `d` lies among the reals that round to `mantissa * 2 ^ exponent`. The interval ends
halfway to the neighbours, and the ends belong to it when the mantissa is even. Just above a power
of two the neighbour below is half as far away. -/
def readsBack (d : Decimal) (mantissa : Nat) (exponent : Int) : Bool :=
  let narrow : Bool := mantissa = twoPow 52 && Binary64.minExponent < exponent
  let below := if narrow then 4 * mantissa - 1 else 4 * mantissa - 2
  let above := 4 * mantissa + 2
  let closed := mantissa % 2 = 0
  let low := d.compareBinary below (exponent - 2)
  let high := d.compareBinary above (exponent - 2)
  (low = .gt || (closed && low = .eq)) && (high = .lt || (closed && high = .eq))

/-- The least `k` with `mantissa * 2 ^ exponent < 10 ^ k`, looked for next to its estimate from
the binary logarithm. -/
def magnitude (mantissa : Nat) (exponent : Int) : Int :=
  let estimate : Int := ((mantissa.log2 : Int) + exponent) * 30103 / 100000
  let under (k : Int) : Bool := Decimal.compareBinary ⟨1, k⟩ mantissa exponent = .gt
  if under estimate then estimate
  else if under (estimate + 1) then estimate + 1
  else estimate + 2

/-- The decimal on the grid `10 ^ grid` that reads back as `mantissa * 2 ^ exponent`, if one of
the two neighbours of that value does; of two the nearer, and in the middle the even one. -/
def onGrid? (mantissa : Nat) (exponent grid : Int) : Option Decimal :=
  let num := mantissa * twoPow exponent.toNat * tenPow (-grid).toNat
  let den := twoPow (-exponent).toNat * tenPow grid.toNat
  let floor := num / den
  let lower : Decimal := ⟨floor, grid⟩
  let upper : Decimal := ⟨floor + 1, grid⟩
  match lower.readsBack mantissa exponent, upper.readsBack mantissa exponent with
  | false, false => none
  | true, false => some lower
  | false, true => some upper
  | true, true => some ⟨Binary64.roundHalfEven num den, grid⟩

/-- The shortest decimal for `mantissa * 2 ^ exponent`, a number that is not zero. -/
def shortest (mantissa : Nat) (exponent : Int) : Decimal :=
  let top := magnitude mantissa exponent
  let found := (List.range 17).findSome? fun (n : Nat) =>
    onGrid? mantissa exponent (top - (n + 1))
  found.getD ⟨mantissa * twoPow exponent.toNat * Nat.pow 5 (-exponent).toNat,
    if exponent < 0 then exponent else 0⟩

end Decimal
end NativeRecords
