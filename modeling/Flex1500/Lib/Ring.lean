import Mathlib.Data.List.Basic
import Mathlib.Data.Nat.ModEq

/-!
# Rings of cells

An array whose cells are used in a row, from one of them on and around the
end. `Ring.Holds` says what stands in such a row. An element is put behind the
row in the next cell, and given up at its front by starting one cell later;
which cells these are is a matter of remainders, and nothing but the row is
ever spoken of.

Cells are written with `Ring.put`, which fails where there is no such cell.
-/

variable {α : Type*}

namespace Ring

/-- A cell written, if there is one. -/
def put (i : ℕ) (x : α) (cells : List α) : Option (List α) :=
  if i < cells.length then some (cells.set i x) else none

/-- A cell that is there can be written. -/
theorem put_eq {i : ℕ} (x : α) {cells : List α} (h : i < cells.length) :
    put i x cells = some (cells.set i x) :=
  if_pos h

/-- **Places less than a turn apart are different cells.** -/
theorem place_ne {n j k : ℕ} (start : ℕ) (hjk : j < k) (hk : k < n) :
    (start + j) % n ≠ (start + k) % n := by
  intro h
  have hdvd : n ∣ start + k - (start + j) :=
    (Nat.modEq_iff_dvd' (Nat.add_le_add_left hjk.le start)).mp h
  rw [Nat.add_sub_add_left] at hdvd
  have := Nat.le_of_dvd (Nat.sub_pos_of_lt hjk) hdvd
  omega

/-- **What a ring holds**: elements in a row, from a cell on. -/
structure Holds (cells : List α) (start : ℕ) (xs : List α) : Prop where
  start_lt : start < cells.length
  fits : xs.length ≤ cells.length
  found : ∀ k, (h : k < xs.length) →
    cells[(start + k) % cells.length]? = some xs[k]

namespace Holds

variable {cells xs : List α} {start : ℕ} {x : α}

/-- A ring holds nothing, from any of its cells on. -/
theorem nil (h : start < cells.length) : Holds cells start [] where
  start_lt := h
  fits := Nat.zero_le _
  found _ h := absurd h (Nat.not_lt_zero _)

/-- There are cells. -/
theorem pos (h : Holds cells start xs) : 0 < cells.length :=
  Nat.zero_lt_of_lt h.start_lt

/-- The cell behind the row. -/
theorem place_lt (h : Holds cells start xs) (k : ℕ) :
    (start + k) % cells.length < cells.length :=
  Nat.mod_lt _ h.pos

/-- **One element put behind the row**, where there is room. -/
theorem append (h : Holds cells start xs) (hroom : xs.length < cells.length)
    (x : α) :
    Holds (cells.set ((start + xs.length) % cells.length) x) start
      (xs ++ [x]) where
  start_lt := by
    rw [List.length_set]
    exact h.start_lt
  fits := by
    rw [List.length_set, List.length_append, List.length_singleton]
    exact hroom
  found k hk := by
    rw [List.length_append, List.length_singleton] at hk
    rw [List.length_set]
    by_cases hlast : k = xs.length
    · subst hlast
      rw [List.getElem?_set_self (h.place_lt _),
        List.getElem_append_right le_rfl]
      exact congrArg some (List.getElem_singleton _).symm
    · have hlt : k < xs.length := by omega
      rw [List.getElem?_set_ne (place_ne start hlt hroom).symm, h.found k hlt,
        List.getElem_append_left hlt]

/-- The first element stands in the first cell. -/
theorem head (h : Holds cells start (x :: xs)) : cells[start]? = some x := by
  have hfound := h.found 0 (Nat.zero_lt_succ _)
  rwa [Nat.add_zero, Nat.mod_eq_of_lt h.start_lt] at hfound

/-- **Some elements given up** at the front of the row. -/
theorem drop (h : Holds cells start xs) (n : ℕ) :
    Holds cells ((start + n) % cells.length) (xs.drop n) where
  start_lt := h.place_lt n
  fits := (List.length_drop ▸ Nat.sub_le _ _).trans h.fits
  found k hk := by
    rw [List.length_drop] at hk
    rw [Nat.mod_add_mod, Nat.add_assoc, h.found (n + k) (by omega),
      List.getElem_drop]

/-- The first element given up. -/
theorem tail (h : Holds cells start (x :: xs)) :
    Holds cells ((start + 1) % cells.length) xs :=
  h.drop 1

end Holds

end Ring
