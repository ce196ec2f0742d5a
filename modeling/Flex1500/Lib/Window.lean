import Mathlib.Data.Int.Notation
import Mathlib.Data.List.GetD

/-!
# A window over a stream

Whoever reads a stream block by block and looks back a little keeps the last
elements of what came before. `last` is what is kept, and `at` the element of
the whole stream at an index, before its beginning and behind its end a
default. What is kept of what was kept and a block is what is kept of the
stream, so that it does not matter how the stream was cut.
-/

variable {α : Type*}

namespace Window

/-- The last so many elements. -/
def last (n : ℕ) (xs : List α) : List α :=
  xs.drop (xs.length - n)

@[simp] theorem length_last (n : ℕ) (xs : List α) :
    (last n xs).length = min n xs.length := by
  rw [last, List.length_drop]
  omega

/-- The last elements of two lists, the second one first of all. -/
theorem last_append (n : ℕ) (xs ys : List α) :
    last n (xs ++ ys) = last (n - ys.length) xs ++ last n ys := by
  rw [last, List.drop_append, List.length_append, last, last]
  congr 1
  · by_cases h : n ≤ ys.length
    · rw [List.drop_eq_nil_of_le (by omega), List.drop_eq_nil_of_le (by omega)]
    · congr 1
      omega
  · congr 1
    omega

/-- The last of the last. -/
theorem last_last {m n : ℕ} (h : m ≤ n) (xs : List α) :
    last m (last n xs) = last m xs := by
  rw [last, length_last, last, List.drop_drop, last]
  congr 1
  omega

/-- **Keeping goes on**: what was kept stands for all there was. -/
theorem last_last_append (n : ℕ) (xs ys : List α) :
    last n (last n xs ++ ys) = last n (xs ++ ys) := by
  rw [last_append, last_append, last_last (Nat.sub_le _ _)]

/-- The element of a stream at an index. -/
def get (default : α) (xs : List α) (i : ℤ) : α :=
  if i < 0 then default else xs.getD i.toNat default

theorem get_of_nonneg (default : α) {xs : List α} {i : ℤ} (h : 0 ≤ i) :
    get default xs i = xs.getD i.toNat default :=
  if_neg (Int.not_lt.mpr h)

/-- The element is that of the stream where it has one. -/
theorem getElem?_eq_get (default : α) {xs : List α} {i : ℤ} (h : 0 ≤ i)
    (hlt : i < xs.length) : xs[i.toNat]? = some (get default xs i) := by
  have hlt' : i.toNat < xs.length := by omega
  rw [get_of_nonneg default h, List.getD_eq_getElem _ _ hlt',
    List.getElem?_eq_getElem hlt']

/-- What is behind the end does not matter before it. -/
theorem get_append (default : α) {xs : List α} (ys : List α) {i : ℤ}
    (h : i < xs.length) : get default (xs ++ ys) i = get default xs i := by
  unfold get
  split
  · rfl
  · exact List.getD_append _ _ _ _ (by omega)

/-- Behind the first part, the second. -/
theorem get_append_right (default : α) (xs ys : List α) {i : ℤ}
    (h : (xs.length : ℤ) ≤ i) :
    get default (xs ++ ys) i = get default ys (i - xs.length) := by
  rw [get_of_nonneg default (by omega), get_of_nonneg default (by omega),
    List.getD_append_right _ _ _ _ (by omega)]
  congr 1
  omega

/-- **Looking back** into what was kept, from the end of it. -/
theorem get_last (default : α) {n : ℕ} {xs : List α} {i : ℤ} (hnonneg : 0 ≤ i)
    (hkept : (xs.length : ℤ) - n ≤ i) :
    (last n xs).getD (((last n xs).length : ℤ) - (xs.length - i)).toNat default
      = get default xs i := by
  rw [get_of_nonneg default hnonneg, length_last, last, List.getD_eq_getElem?_getD,
    List.getD_eq_getElem?_getD, List.getElem?_drop]
  congr 2
  omega

end Window
