import Mathlib.Data.List.Basic

/-!
# Frames in a stream of bytes

A stream carries frames one behind the other, and whoever looks at it has
seen some number of its bytes. `whole` says which frames have come through
entirely.
-/

namespace Framing

variable {φ α : Type*} (encode : φ → List α)

/-- The frames of which all bytes are among the first `n`. -/
def whole : List φ → ℕ → List φ
  | [], _ => []
  | f :: fs, n =>
    if (encode f).length ≤ n then f :: whole fs (n - (encode f).length) else []

/-- The bytes of the first frame make it one of them. -/
theorem whole_cons (f : φ) (fs : List φ) (n : ℕ) :
    whole encode (f :: fs) ((encode f).length + n) = f :: whole encode fs n := by
  rw [whole, if_pos (Nat.le_add_right _ _), Nat.add_sub_cancel_left]

/-- Fewer bytes make none. -/
theorem whole_of_short {fs : List φ} {n : ℕ}
    (h : ∀ f ∈ fs.head?, n < (encode f).length) : whole encode fs n = [] := by
  cases fs with
  | nil => rfl
  | cons f fs => exact if_neg (Nat.not_le.mpr (h f rfl))

/-- **Those that came through** are the first ones. -/
theorem whole_prefix (fs : List φ) (n : ℕ) : whole encode fs n <+: fs := by
  induction fs generalizing n with
  | nil => exact List.prefix_rfl
  | cons f fs ih =>
    rw [whole]
    split
    · exact (List.prefix_cons_inj f).mpr (ih _)
    · exact List.nil_prefix

/-- All bytes make all frames. -/
@[simp] theorem whole_length (fs : List φ) :
    whole encode fs (fs.flatMap encode).length = fs := by
  induction fs with
  | nil => rfl
  | cons f fs ih =>
    rw [whole, List.flatMap_cons, List.length_append,
      if_pos (Nat.le_add_right _ _), Nat.add_sub_cancel_left, ih]

/-- A frame still under way does not count. -/
theorem whole_append (fs : List φ) (f : φ) {n : ℕ} (h : n < (encode f).length) :
    whole encode (fs ++ [f]) ((fs.flatMap encode).length + n) = fs := by
  induction fs with
  | nil => rw [List.nil_append, whole, if_neg (by simpa using h)]
  | cons g fs ih =>
    rw [List.cons_append, whole, List.flatMap_cons, List.length_append,
      if_pos (by omega), Nat.add_assoc, Nat.add_sub_cancel_left, ih]

end Framing
