import Mathlib.Data.String.Basic

/-!
# The size of a text

How many bytes a text takes that is put together from fixed words and
printed values. A bound is carried by the predicate `String.Within`, whose
rules follow how the text is put together; what is left at the end is a sum
of numbers.

A number is printed in ASCII, one byte for a digit. Of any other text only
the characters may be known, and each takes four bytes at most.
-/

namespace String

/-- A text of at most so many bytes. -/
def Within (s : String) (size : ℕ) : Prop :=
  s.utf8ByteSize ≤ size

instance (s : String) (size : ℕ) : Decidable (s.Within size) :=
  inferInstanceAs (Decidable (_ ≤ _))

variable {s t : String} {m n : ℕ}

/-- A text is within its own size. -/
theorem within_self (s : String) : s.Within s.utf8ByteSize :=
  Nat.le_refl _

theorem Within.mono (hs : s.Within m) (hmn : m ≤ n) : s.Within n :=
  Nat.le_trans hs hmn

/-- Texts one after the other add up. -/
theorem Within.append (hs : s.Within m) (ht : t.Within n) :
    (s ++ t).Within (m + n) := by
  rw [Within, utf8ByteSize_append]
  exact Nat.add_le_add hs ht

/-- A text in ASCII takes a byte for each character. -/
theorem utf8ByteSize_of_ascii {chars : List Char}
    (h : ∀ c ∈ chars, c.utf8Size = 1) :
    (ofList chars).utf8ByteSize = chars.length := by
  rw [utf8ByteSize_ofList]
  induction chars with
  | nil => rfl
  | cons c cs ih =>
    rw [utf8Len_cons, ih fun d hd => h d (List.mem_cons_of_mem c hd),
      h c (List.mem_cons_self ..), List.length_cons]

/-- A text of so many characters. -/
theorem within_of_length (h : s.length ≤ n) : s.Within (4 * n) := by
  have hchars (chars : List Char) : utf8Len chars ≤ 4 * chars.length := by
    induction chars with
    | nil => exact Nat.le_refl 0
    | cons c cs ih =>
      rw [utf8Len_cons, List.length_cons, Nat.mul_add]
      exact Nat.add_le_add ih c.utf8Size_le_four
  have hs := hchars s.toList
  rw [← utf8ByteSize_ofList, ofList_toList, length_toList] at hs
  exact Nat.le_trans hs (Nat.mul_le_mul_left 4 h)

/-- A digit takes one byte. -/
theorem utf8Size_of_isDigit {c : Char} (hc : c.isDigit = true) :
    c.utf8Size = 1 := by
  have hrange : '0'.val ≤ c.val ∧ c.val ≤ '9'.val := by
    simpa [Char.isDigit] using hc
  exact Char.utf8Size_eq_one_iff.mpr (UInt32.le_trans hrange.2 (by decide))

/-- **A natural number**, by the power of ten above it. -/
theorem within_toString (hn : n < 10 ^ m) (hm : 0 < m) :
    (toString n).Within m := by
  have hdigits : (Nat.toDigits 10 n).length ≤ m :=
    (Nat.length_toDigits_le_iff (by decide) hm).mpr hn
  rw [Nat.toString_eq_repr, Nat.repr_eq_ofList_toDigits, Within,
    utf8ByteSize_of_ascii fun c hc => utf8Size_of_isDigit
      (Nat.isDigit_of_mem_toDigits (by decide) (by decide) hc)]
  exact hdigits

/-- **An integer** has a sign at most in front. -/
theorem within_toString_int {z : ℤ} (hz : z.natAbs < 10 ^ m) (hm : 0 < m) :
    (toString z).Within (m + 1) := by
  cases z with
  | ofNat n => exact (within_toString hz hm).mono (Nat.le_succ m)
  | negSucc n =>
    have hsign : ("-" : String).Within 1 := by decide
    show ("-" ++ toString (n + 1)).Within (m + 1)
    exact (hsign.append (within_toString hz hm)).mono
      (Nat.le_of_eq (Nat.add_comm 1 m))

theorem within_uint64 (x : UInt64) : (toString x.toNat).Within 20 :=
  within_toString (Nat.lt_of_lt_of_le x.toNat_lt (by decide)) (by decide)

theorem within_uint32 (x : UInt32) : (toString x.toNat).Within 10 :=
  within_toString (Nat.lt_of_lt_of_le x.toNat_lt (by decide)) (by decide)

theorem within_int32 (x : Int32) : (toString x.toInt).Within 11 := by
  have hlower : -2 ^ 31 ≤ x.toInt := x.le_toInt
  have hupper : x.toInt < 2 ^ 31 := x.toInt_lt
  exact within_toString_int (m := 10) (by omega) (by decide)

end String
