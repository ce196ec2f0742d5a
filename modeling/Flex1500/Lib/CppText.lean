import Mathlib.Algebra.Order.Group.Int
import Flex1500.Lib.CNumber

/-!
# Reading text in C++

The functions of the C++ library that read numbers and words. A string knows
its length, but what reads a number of it stops at a zero byte as the C
library does.
-/

namespace CText

variable {s t rest : CText}

/-- `std::stoi`: the number and what follows it, or nothing where it throws,
which is where there is no digit and where the number fits no `int`. -/
def stoi (s : CText) : Option (ℤ × CText) :=
  let (negative, t) := skipSign (skipSpace s)
  let digits := t.takeWhile isDigit
  let value : ℤ := if negative then -decimal digits else decimal digits
  if digits.isEmpty ∨ value < -2 ^ 31 ∨ 2 ^ 31 ≤ value then none
  else some (value, t.dropWhile isDigit)

/-- Digits are read as they stand. -/
theorem stoi_of_digits {digits : CText} (hne : digits ≠ [])
    (hdigits : ∀ c ∈ digits, isDigit c = true)
    (hrest : isDigit (peek rest) = false) (hsmall : decimal digits < 2 ^ 31) :
    stoi (digits ++ rest) = some ((decimal digits : ℤ), rest) := by
  obtain ⟨c, cs, rfl⟩ := List.exists_cons_of_ne_nil hne
  have hc := of_isDigit (hdigits c (List.mem_cons_self ..))
  have hskip : skipSpace (c :: cs ++ rest) = c :: cs ++ rest := by
    rw [skipSpace, List.cons_append, List.dropWhile_cons,
      if_neg (by simp [hc.1])]
  have hsign : skipSign ([] ++ (c :: cs ++ rest)) = (false, c :: cs ++ rest) :=
    skipSign_of_numeral (Or.inl rfl) (hdigits c (List.mem_cons_self ..))
  rw [List.nil_append] at hsign
  rw [stoi, hskip, hsign]
  dsimp only
  rw [takeWhile_run hdigits hrest, dropWhile_run hdigits hrest, if_neg]
  · rfl
  · simp only [List.isEmpty_cons, Bool.false_eq_true, if_false, false_or, not_or]
    constructor <;> omega

end CText
