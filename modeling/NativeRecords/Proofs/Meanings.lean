/-
# NativeRecords.Proofs.Meanings -- what raw values mean

A raw value is a text or a number, and a number is kept as an integer of any size or in floating
point. The numbers of both kinds are measured here by one rational, and the infinities apart from
it (`Meaning`). Two raw values are the same exactly if they have one meaning. So being the same can
be passed on from value to value, and only the not-a-number is not the same as itself.
-/
import Mathlib.Algebra.Order.Ring.Rat
import Mathlib.Data.Nat.Cast.Basic
import NativeRecords.RawValue

namespace NativeRecords

/-! ## Floating-point numbers -/

namespace Binary64

/-- The rational that a finite number stands for. -/
def value? : Binary64 → Option ℚ
  | .finite negative mantissa exponent => some (signed negative mantissa * 2 ^ exponent)
  | .infinite _ => none
  | .nan => none

theorem signed_mul (negative : Bool) (mantissa factor : Nat) :
    signed negative (mantissa * factor) = signed negative mantissa * factor := by
  cases negative <;> simp [signed]

theorem natAbs_signed (negative : Bool) (mantissa : Nat) :
    (signed negative mantissa).natAbs = mantissa := by
  cases negative <;> simp [signed]

theorem twoPow_ne_zero (n : Nat) : ((twoPow n : Nat) : Int) ≠ 0 := by
  have positive : 0 < twoPow n := Nat.two_pow_pos n
  omega

theorem cast_twoPow (n : Nat) : ((twoPow n : Nat) : ℚ) = 2 ^ n := Nat.cast_pow 2 n

/-- An equation with a power of two is one between integers, once the power stands on the side where
its exponent is positive. -/
theorem mul_zpow_eq_iff (significand n exponent : Int) :
    (significand : ℚ) * 2 ^ exponent = n ↔
      significand * twoPow exponent.toNat = n * twoPow (-exponent).toNat := by
  have nonzero : (2 : ℚ) ^ (-exponent).toNat ≠ 0 := pow_ne_zero _ (by decide)
  have power : (2 : ℚ) ^ exponent * 2 ^ (-exponent).toNat = 2 ^ exponent.toNat := by
    rw [← zpow_natCast, ← zpow_natCast, ← zpow_add₀ (by decide)]
    congr 1
    omega
  calc (significand : ℚ) * 2 ^ exponent = n
      ↔ (significand : ℚ) * 2 ^ exponent * 2 ^ (-exponent).toNat = n * 2 ^ (-exponent).toNat :=
        (mul_left_inj' nonzero).symm
    _ ↔ (significand : ℚ) * 2 ^ exponent.toNat = n * 2 ^ (-exponent).toNat := by
        rw [mul_assoc, power]
    _ ↔ significand * twoPow exponent.toNat = n * twoPow (-exponent).toNat := by
        rw [← cast_twoPow, ← cast_twoPow]
        norm_cast

/-- A number is an integer exactly if its value is. -/
theorem toInt?_eq_some_iff {x : Binary64} {n : Int} :
    x.toInt? = some n ↔ x.value? = some (n : ℚ) := by
  cases x with
  | infinite negative => simp [toInt?, value?]
  | nan => simp [toInt?, value?]
  | finite negative mantissa exponent =>
    rw [value?, Option.some_inj, mul_zpow_eq_iff, ← signed_mul, toInt?]
    by_cases whole : 0 ≤ exponent
    · have none : (-exponent).toNat = 0 := by omega
      rw [if_pos whole, Option.some_inj, none]
      simp [twoPow]
    · have none : exponent.toNat = 0 := by omega
      rw [if_neg whole, none]
      have alone : mantissa * twoPow 0 = mantissa := Nat.mul_one mantissa
      rw [alone]
      split
      · rename_i divides
        have parts : mantissa / twoPow (-exponent).toNat * twoPow (-exponent).toNat = mantissa :=
          Nat.div_mul_cancel (Nat.dvd_of_mod_eq_zero divides)
        conv_rhs => rw [← parts, signed_mul]
        rw [Option.some_inj, mul_left_inj' (twoPow_ne_zero _)]
      · rename_i indivisible
        refine iff_of_false (by simp) fun same => indivisible ?_
        rw [← natAbs_signed negative mantissa, same, Int.natAbs_mul, Int.natAbs_natCast]
        exact Nat.mul_mod_left _ _

/-- Finite numbers are equal exactly if they have one value. -/
theorem eqv_finite_iff {negative negative' : Bool} {mantissa mantissa' : Nat}
    {exponent exponent' : Int} :
    eqv (.finite negative mantissa exponent) (.finite negative' mantissa' exponent') = true ↔
      (signed negative mantissa : ℚ) * 2 ^ exponent =
        signed negative' mantissa' * 2 ^ exponent' := by
  -- measured in units of the second number, the first is the second's mantissa
  have unit : (2 : ℚ) ^ exponent' ≠ 0 := zpow_ne_zero _ (by decide)
  rw [eqv, decide_eq_true_eq, signed_mul, signed_mul, ← neg_sub exponent exponent',
    ← mul_zpow_eq_iff, zpow_sub₀ (by decide), ← mul_div_assoc, div_eq_iff unit]

end Binary64

/-! ## Raw values -/

namespace RawValue

/-- The number that a raw value is. -/
def number? : RawValue → Option ℚ
  | .text _ => none
  | .int n => some n
  | .float x => x.value?

/-- What a raw value says, whichever kind of number it is kept as. -/
inductive Meaning where
  | text (s : String)
  | number (value : ℚ)
  | infinite (negative : Bool)
deriving DecidableEq

/-- The meaning of a raw value; not-a-number has none. -/
def meaning? : RawValue → Option Meaning
  | .text s => some (.text s)
  | .int n => some (.number n)
  | .float (.infinite negative) => some (.infinite negative)
  | .float x => x.value?.map .number

theorem meaning?_of_number? {v : RawValue} {value : ℚ} (h : v.number? = some value) :
    v.meaning? = some (.number value) := by
  cases v with
  | text s => cases h
  | int n =>
    obtain rfl : (n : ℚ) = value := Option.some_inj.mp h
    rfl
  | float x =>
    cases x with
    | finite negative mantissa exponent =>
      obtain rfl := Option.some_inj.mp h
      rfl
    | infinite negative => cases h
    | nan => cases h

/-- An integer and a floating-point number are the same exactly if they mean one number. -/
theorem eqvInt_iff {x : Binary64} {n : Int} :
    x.eqvInt n = true ↔ (RawValue.float x).meaning? = some (.number n) := by
  rw [Binary64.eqvInt, decide_eq_true_eq, Binary64.toInt?_eq_some_iff]
  cases x <;> simp [meaning?, Binary64.value?]

/-- Two floating-point numbers are equal exactly if they mean one number or one infinity. -/
theorem eqv_iff {x y : Binary64} : x.eqv y = true ↔ ∃ meaning,
    (RawValue.float x).meaning? = some meaning ∧ (RawValue.float y).meaning? = some meaning := by
  cases x with
  | finite negative mantissa exponent => cases y with
    | finite negative' mantissa' exponent' =>
      rw [Binary64.eqv_finite_iff]
      simp [meaning?, Binary64.value?, eq_comm]
    | infinite negative' => simp [Binary64.eqv, meaning?, Binary64.value?]
    | nan => simp [Binary64.eqv, meaning?, Binary64.value?]
  | infinite negative => cases y <;> simp [Binary64.eqv, meaning?, Binary64.value?, eq_comm]
  | nan => simp [Binary64.eqv, meaning?, Binary64.value?]

/-- Two raw values are the same exactly if they have one meaning. -/
theorem same_iff {v w : RawValue} :
    v.same w = true ↔ ∃ meaning, v.meaning? = some meaning ∧ w.meaning? = some meaning := by
  cases v with
  | text s => cases w with
    | text t => simp [same, meaning?, eq_comm]
    | int n => simp [same, meaning?]
    | float y => cases y <;> simp [same, meaning?, Binary64.value?]
  | int m => cases w with
    | text t => simp [same, meaning?]
    | int n => simp [same, meaning?, eq_comm]
    | float y => simp [same, eqvInt_iff, meaning?]
  | float x => cases w with
    | text t => cases x <;> simp [same, meaning?, Binary64.value?]
    | int n => simp [same, eqvInt_iff, meaning?]
    | float y => exact eqv_iff

/-- Raw values that are one number are the same, whichever kinds they have. -/
theorem same_of_number? {v w : RawValue} {value : ℚ} (hv : v.number? = some value)
    (hw : w.number? = some value) : v.same w = true :=
  same_iff.mpr ⟨_, meaning?_of_number? hv, meaning?_of_number? hw⟩

end RawValue

end NativeRecords
