import Tricord.Library.Delimited
import Mathlib.Algebra.Order.Floor.Semiring
import Mathlib.Data.Rat.Floor

/-!
# Fixed-point decimals

Rationals rendered with a fixed number of digits after the point, rounding half
to even.

Main result:

- Theorem {lit}`free_fixed`: the rendering consists of digits, a point and a
  sign.
-/

namespace Decimal

open Delimited

/-- The nearest natural, the even one of two. -/
def roundHalfEven (x : ℚ) : ℕ :=
  let floor := ⌊x⌋₊
  if x - floor < 1 / 2 then floor
  else if 1 / 2 < x - floor then floor + 1
  else if floor % 2 = 0 then floor
  else floor + 1

/-- A natural number of units of the last digit, with the point put in. -/
def withPoint (digits units : ℕ) : String :=
  if digits = 0 then toString units
  else toString (units / 10 ^ digits) ++ "." ++ padded digits (units % 10 ^ digits)

/-- Render with a fixed number of digits after the point. -/
def fixed (digits : ℕ) (x : ℚ) : String :=
  (if x < 0 then "-" else "") ++ withPoint digits (roundHalfEven (|x| * 10 ^ digits))

/-- The rendering is free of everything but digits, the point and the sign. -/
theorem free_fixed {c : Char} (hc : c.isDigit = false) (hpoint : c ≠ '.') (hsign : c ≠ '-')
    (digits : ℕ) (x : ℚ) : Free c (fixed digits x) := by
  have hminus : Free c (if x < 0 then "-" else "") := by
    split_ifs
    · simpa [Free] using hsign
    · simp [Free]
  refine free_append.mpr ⟨hminus, ?_⟩
  unfold withPoint
  split_ifs
  · exact free_toString hc _
  · refine free_append.mpr ⟨free_append.mpr ⟨free_toString hc _, ?_⟩, free_padded hc _ _⟩
    simpa [Free] using hpoint

/-- A number written with a fixed number of decimals contains a digit. -/
theorem hasDigit_fixed (digits : ℕ) (x : ℚ) : HasDigit (fixed digits x) := by
  refine hasDigit_append.mpr (Or.inr ?_)
  unfold withPoint
  split_ifs
  · exact hasDigit_toString _
  · exact hasDigit_append.mpr (Or.inl (hasDigit_append.mpr (Or.inl (hasDigit_toString _))))

example : fixed 2 (21 / 8) = "2.62" := by decide +kernel

example : fixed 4 (-1 / 2) = "-0.5000" := by decide +kernel

end Decimal
