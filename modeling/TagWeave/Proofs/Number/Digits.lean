import Mathlib.Algebra.Order.Floor.Semifield
import Mathlib.Data.List.Induction
import Mathlib.Data.Rat.Floor
import TagWeave.Number.Decimal

/-!
# The value of digits

The digits of an integer and the digits behind a point, as numbers. A run of digits is worth less
than the power of ten of its length (`valueOfDigits_lt`), and the whole part of a multiple of a
decimal fraction is a quotient of integers (`floor_decimalFraction_mul`).
-/

namespace TagWeave.Number

variable {digits : List Char}

@[simp] theorem valueOfDigits_nil : valueOfDigits [] = 0 := rfl

theorem valueOfDigits_concat {c : Char} :
    valueOfDigits (digits ++ [c]) = valueOfDigits digits * 10 + (c.toNat - 48) := by
  rw [valueOfDigits, List.foldl_append]
  rfl

theorem valueOfDigits_append (digits more : List Char) : valueOfDigits (digits ++ more) =
    valueOfDigits digits * 10 ^ more.length + valueOfDigits more := by
  induction more using List.reverseRecOn with
  | nil => simp
  | append_singleton more c ih =>
    rw [← List.append_assoc, valueOfDigits_concat, valueOfDigits_concat, ih, List.length_append,
      List.length_singleton, Nat.pow_succ]
    ring

theorem valueOfDigits_lt (h : ∀ c ∈ digits, c.isDigit = true) :
    valueOfDigits digits < 10 ^ digits.length := by
  induction digits using List.reverseRecOn with
  | nil => decide
  | append_singleton digits c ih =>
    obtain ⟨hdigits, hc⟩ := List.forall_mem_append.mp h
    have hc : 0x30 ≤ c.toNat ∧ c.toNat ≤ 0x39 :=
      Char.isDigit_iff_toNat.mp (hc c List.mem_cons_self)
    have := ih hdigits
    rw [valueOfDigits_concat, List.length_append, List.length_singleton, Nat.pow_succ]
    omega

/-- The number that digits stand for behind a point. -/
def decimalFraction (digits : List Char) : ℚ := valueOfDigits digits / 10 ^ digits.length

theorem floor_decimalFraction_mul (digits : List Char) (scale : ℕ) :
    ⌊decimalFraction digits * scale⌋₊ = valueOfDigits digits * scale / 10 ^ digits.length := by
  have hquotient : decimalFraction digits * scale =
      ((valueOfDigits digits * scale : ℕ) : ℚ) / ((10 ^ digits.length : ℕ) : ℚ) := by
    rw [decimalFraction, div_mul_eq_mul_div]
    push_cast
    rfl
  rw [hquotient, Nat.floor_div_eq_div]

end TagWeave.Number
