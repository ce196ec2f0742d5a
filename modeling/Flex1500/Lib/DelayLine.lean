import Mathlib.Data.List.Range
import Flex1500.Lib.Ring

/-!
# Delay lines

A ring that is always full keeps the latest values of a stream: each value is
written over the oldest one, and a filter reads backwards from the newest.
`DelayLine.Keeps` says that a ring keeps the values of a stream up to a time,
with a zero for what was before it.
-/

variable {α : Type*}

namespace DelayLine

/-- A value of a stream so many steps back, zero before its beginning. -/
def past (zero : α) (x : ℕ → α) (time back : ℕ) : α :=
  if back ≤ time then x (time - back) else zero

/-- The last `n` values of a stream before a time, the oldest first. -/
def recent (n : ℕ) (zero : α) (x : ℕ → α) (time : ℕ) : List α :=
  (List.range n).map fun j => if n ≤ time + j then x (time + j - n) else zero

variable (n : ℕ) (zero : α) (x : ℕ → α) (time : ℕ)

@[simp] theorem length_recent : (recent n zero x time).length = n := by
  rw [recent, List.length_map, List.length_range]

theorem getElem_recent {j : ℕ} (h : j < (recent n zero x time).length) :
    (recent n zero x time)[j]
      = if n ≤ time + j then x (time + j - n) else zero := by
  simp only [recent, List.getElem_map, List.getElem_range]

/-- Before the beginning there are zeros. -/
theorem recent_zero : recent n zero x 0 = List.replicate n zero := by
  refine List.ext_getElem (by simp) fun j hj _ => ?_
  rw [length_recent] at hj
  rw [getElem_recent, if_neg (by omega), List.getElem_replicate]

/-- **One value more**, and one less at the front. -/
theorem recent_succ (hpos : 0 < n) :
    recent n zero x (time + 1)
      = (recent n zero x time).drop 1 ++ [x time] := by
  refine List.ext_getElem ?_ fun j hj _ => ?_
  · rw [List.length_append, List.length_drop, length_recent, length_recent,
      List.length_singleton]
    omega
  rw [length_recent] at hj
  rw [getElem_recent]
  by_cases hlast : j + 1 = n
  · rw [List.getElem_append_right (by rw [List.length_drop, length_recent]; omega),
      List.getElem_singleton, if_pos (by omega)]
    congr 1
    omega
  · rw [List.getElem_append_left (by rw [List.length_drop, length_recent]; omega),
      List.getElem_drop, getElem_recent, Nat.add_assoc]

variable {n zero x time}

/-- The place in front of another, around the end. -/
def before (n position : ℕ) : ℕ :=
  if position = 0 then n - 1 else position - 1

/-- Going back, one place after the other. -/
theorem before_place {newest k : ℕ} (hnewest : newest < n) (hk : k < n) :
    before n ((newest + n - k) % n) = (newest + n - (k + 1)) % n := by
  unfold before
  by_cases hwrap : k ≤ newest
  · -- not yet past the first cell
    have hplace : (newest + n - k) % n = newest - k := by
      rw [show newest + n - k = newest - k + n by omega, Nat.add_mod_right,
        Nat.mod_eq_of_lt (by omega)]
    rw [hplace]
    split
    · rw [Nat.mod_eq_of_lt (by omega)]
      omega
    · rw [show newest + n - (k + 1) = newest - k - 1 + n by omega,
        Nat.add_mod_right, Nat.mod_eq_of_lt (by omega)]
  · rw [Nat.mod_eq_of_lt (by omega), if_neg (by omega),
      Nat.mod_eq_of_lt (by omega)]
    omega

/-- **A delay line**: a ring full of the latest values, the oldest at the
place to be written next. -/
structure Keeps (zero : α) (x : ℕ → α) (n : ℕ) (cells : List α)
    (index time : ℕ) : Prop where
  length : cells.length = n
  holds : Ring.Holds cells index (recent n zero x time)

namespace Keeps

variable {cells : List α} {index : ℕ}

/-- A line of zeros. -/
theorem init (hpos : 0 < n) : Keeps zero x n (List.replicate n zero) 0 0 where
  length := List.length_replicate
  holds :=
    { start_lt := by rwa [List.length_replicate]
      fits := by rw [length_recent, List.length_replicate]
      found := fun k hk => by
        rw [length_recent] at hk
        rw [List.length_replicate, Nat.zero_add, Nat.mod_eq_of_lt hk,
          List.getElem?_replicate, if_pos hk]
        simp only [recent_zero, List.getElem_replicate] }

/-- The place to be written is that of a cell. -/
theorem index_lt (h : Keeps zero x n cells index time) : index < n :=
  h.length ▸ h.holds.start_lt

/-- **The next value** is written over the oldest one. -/
theorem write (h : Keeps zero x n cells index time) :
    Keeps zero x n (cells.set index (x time)) ((index + 1) % n) (time + 1) where
  length := List.length_set.trans h.length
  holds := by
    have hlt := h.index_lt
    have hpos : 0 < n := Nat.zero_lt_of_lt hlt
    have hrest := h.holds.drop 1
    rw [h.length] at hrest
    have hlength : ((recent n zero x time).drop 1).length = n - 1 := by
      rw [List.length_drop, length_recent]
    have hwritten := hrest.append (by rw [hlength, h.length]; omega) (x time)
    have hplace : ((index + 1) % n + (n - 1)) % n = index := by
      rw [Nat.mod_add_mod, show index + 1 + (n - 1) = index + n by omega,
        Nat.add_mod_right, Nat.mod_eq_of_lt hlt]
    rw [hlength, h.length, hplace, ← recent_succ n zero x time hpos] at hwritten
    exact hwritten

/-- **Reading backwards** from the newest value. -/
theorem read {newest : ℕ}
    (h : Keeps zero x n cells ((newest + 1) % n) (time + 1)) {k : ℕ}
    (hk : k < n) :
    cells[(newest + n - k) % n]? = some (past zero x time k) := by
  have hfound := h.holds.found (n - 1 - k) (by rw [length_recent]; omega)
  rw [h.length, Nat.mod_add_mod,
    show newest + 1 + (n - 1 - k) = newest + n - k by omega,
    getElem_recent] at hfound
  rw [hfound, past]
  congr 1
  by_cases hback : k ≤ time
  · rw [if_pos (by omega), if_pos hback]
    congr 1
    omega
  · rw [if_neg (by omega), if_neg hback]

end Keeps

end DelayLine
