import Mathlib

/-!
# Number literals as double-precision numbers

The value of a JSON number literal, the double-precision number nearest to it, and
the conversion of such a number to a 64-bit integer.  Naturals below `2 ^ 53` are
kept; larger ones are rounded, but stay integers of that size.

A number of seconds names an instant, which Go counts from the year 1 in 64 bits.
-/

namespace Vc.Float64

open Int

/-! ## Literals -/

/-- The number that a nonempty sequence of digits spells. -/
def natural (digits : List Char) : Option ℕ :=
  if digits ≠ [] ∧ digits.all Char.isDigit then
    some (digits.foldl (fun value digit => 10 * value + (digit.toNat - 48)) 0)
  else none

/-- An integer without fraction and exponent. -/
def integer : List Char → Option ℤ
  | '-' :: digits => (natural digits).map fun value => -value
  | digits => (natural digits).map fun value => value

/-- What follows the decimal point, with the point. -/
def fraction : List Char → Option ℚ
  | [] => some 0
  | _ :: digits => (natural digits).map fun value => value / 10 ^ digits.length

/-- What follows the mantissa, with its letter. -/
def exponent : List Char → Option ℤ
  | [] => some 0
  | _ :: '+' :: digits => (natural digits).map fun value => value
  | _ :: digits => integer digits

/-- The value of a literal without sign. -/
def magnitude (literal : List Char) : Option ℚ := do
  let mantissa := literal.takeWhile fun char => char ≠ 'e' ∧ char ≠ 'E'
  let whole ← natural (mantissa.takeWhile (· ≠ '.'))
  let part ← fraction (mantissa.dropWhile (· ≠ '.'))
  let power ← exponent (literal.dropWhile fun char => char ≠ 'e' ∧ char ≠ 'E')
  return (whole + part) * 10 ^ power

/-- The value of a JSON number literal. -/
def literalValue (literal : String) : Option ℚ :=
  match literal.toList with
  | '-' :: rest => (magnitude rest).map fun value => -value
  | rest => magnitude rest

/-! ## Rounding -/

/-- The nearest integer, the even one of two. -/
def roundEven (x : ℚ) : ℤ :=
  if x - ⌊x⌋ < 1 / 2 then ⌊x⌋
  else if 1 / 2 < x - ⌊x⌋ then ⌊x⌋ + 1
  else ⌊x⌋ + ⌊x⌋ % 2

/-- The exponent of the last of 53 significant bits, at least that of the least subnormal. -/
def scale (x : ℚ) : ℤ :=
  max (log 2 |x| - 52) (-1074)

/-- The double-precision number nearest to a number that is in their range. -/
def nearest (x : ℚ) : ℚ :=
  roundEven (x / 2 ^ scale x) * 2 ^ scale x

/-- The conversion to `int64`, of an integer that it can hold. -/
def toInt64 (x : ℚ) : Option ℤ :=
  if x.den = 1 ∧ -2 ^ 63 ≤ x.num ∧ x.num < 2 ^ 63 then some x.num else none

theorem roundEven_intCast (value : ℤ) : roundEven value = value := by
  simp [roundEven]

theorem floor_le_roundEven (x : ℚ) : ⌊x⌋ ≤ roundEven x := by
  unfold roundEven
  split_ifs <;> omega

theorem scale_natCast (value : ℕ) : scale value = Nat.log 2 value - 52 := by
  rw [scale, Nat.abs_cast, log_natCast]
  exact max_eq_left (by omega)

/-- A natural that 53 bits can hold is kept. -/
theorem nearest_natCast {value : ℕ} (small : value < 2 ^ 53) : nearest value = value := by
  have few : Nat.log 2 value < 53 := Nat.log_lt_of_lt_pow' (by decide) small
  obtain ⟨shift, shifted⟩ : ∃ shift : ℕ, scale value = -shift :=
    ⟨52 - Nat.log 2 value, by rw [scale_natCast]; omega⟩
  have quotient : (value : ℚ) / 2 ^ scale value = ((value * 2 ^ shift : ℤ) : ℚ) := by
    rw [shifted, zpow_neg, div_inv_eq_mul]
    push_cast
    rfl
  rw [nearest, quotient, roundEven_intCast, shifted, zpow_neg]
  push_cast
  exact mul_inv_cancel_right₀ (pow_ne_zero _ two_ne_zero) _

/-- Any larger natural is rounded to an integer that is as large. -/
theorem exists_nearest_natCast {value : ℕ} (large : 2 ^ 53 ≤ value) :
    ∃ rounded : ℕ, nearest value = rounded ∧ 2 ^ 53 ≤ rounded := by
  have many : 53 ≤ Nat.log 2 value := Nat.le_log_of_pow_le (by decide) large
  obtain ⟨shift, shifted⟩ : ∃ shift : ℕ, scale value = (shift + 1 : ℕ) :=
    ⟨Nat.log 2 value - 53, by rw [scale_natCast]; omega⟩
  have bits : Nat.log 2 value = shift + 53 := by
    have := shifted.symm.trans (scale_natCast value)
    omega
  have leading : (2 : ℤ) ^ 52 ≤ roundEven (value / 2 ^ (shift + 1)) := by
    refine le_trans (le_floor.mpr ?_) (floor_le_roundEven _)
    rw [le_div_iff₀ (by positivity)]
    have power : 2 ^ (shift + 53) ≤ value := bits ▸ Nat.pow_log_le_self 2 (by omega)
    calc (((2 : ℤ) ^ 52 : ℤ) : ℚ) * 2 ^ (shift + 1) = ((2 ^ (shift + 53) : ℕ) : ℚ) := by
          rw [Nat.cast_pow, show shift + 53 = 52 + (shift + 1) from by omega, pow_add _ 52]
          rfl
      _ ≤ value := Nat.cast_le.mpr power
  obtain ⟨mantissa, same⟩ := eq_ofNat_of_zero_le (le_trans (by positivity) leading)
  refine ⟨mantissa * 2 ^ (shift + 1), ?_, ?_⟩
  · rw [nearest, shifted, zpow_natCast, same]
    push_cast
    rfl
  · rw [same] at leading
    calc 2 ^ 53 = 2 ^ 52 * 2 ^ 1 := rfl
      _ ≤ mantissa * 2 ^ (shift + 1) := Nat.mul_le_mul (by exact_mod_cast leading)
          (Nat.pow_le_pow_right (by decide) (by omega))

theorem toInt64_natCast (value : ℕ) :
    toInt64 value = if value < 2 ^ 63 then some (value : ℤ) else none := by
  rw [toInt64, Rat.den_natCast, Rat.num_natCast]
  split_ifs <;> first | rfl | omega

/-! ## Instants -/

/-- `int64` of a number: its whole part or, out of range, the least value, as on amd64. -/
def truncated (x : ℚ) : ℤ :=
  let whole := x.num.tdiv x.den
  if -2 ^ 63 ≤ whole ∧ whole < 2 ^ 63 then whole else -2 ^ 63

/-- The seconds from the year 1 to 1970. -/
def epoch : ℤ := 62135596800

/-- `time.Unix(seconds, 0)`, in seconds from 1970; the count from the year 1 wraps. -/
def unix (seconds : ℤ) : ℤ :=
  (seconds + epoch).bmod (2 ^ 64) - epoch

/-- `Time.Add` for an instant in seconds, in nanoseconds; the seconds saturate. -/
def add (seconds duration : ℤ) : ℤ :=
  let sum := seconds + epoch + duration / 1000000000
  let held := if 2 ^ 63 ≤ sum then 2 ^ 63 - 1 else if sum < -2 ^ 63 then 1 - 2 ^ 63 else sum
  (held - epoch) * 1000000000 + duration % 1000000000

variable {seconds : ℤ}

end Vc.Float64
