import Mathlib.Data.Fin.Basic
import Mathlib.Data.List.Range
import Mathlib.Data.Nat.ModEq
import Mathlib.Logic.Function.Basic

/-!
# Circular buffers

A circular buffer is an array of cells of which `size` in a row, from a read
index on and around the end of the array, are in use. Cells are written
behind the ones in use and read at the read index.

What a buffer is for is a queue of bounded length, and `contents` reads it
as one. The three operations are then what they are on lists: a push appends
as much as there is room for, a pop splits off a prefix, and a clear leaves
nothing.
-/

/-- An array of cells, with the stretch of them that is in use. -/
structure CircularBuffer (α : Type*) where
  capacity : ℕ
  cells : Fin capacity → α
  readIndex : Fin capacity
  size : ℕ
  size_le : size ≤ capacity

namespace CircularBuffer

variable {α : Type*}

/-- The cell `k` places behind the read index. -/
def slot (b : CircularBuffer α) (k : ℕ) : Fin b.capacity :=
  ⟨(b.readIndex + k) % b.capacity, Nat.mod_lt _ b.readIndex.pos⟩

/-- The elements in use, the oldest first. -/
def contents (b : CircularBuffer α) : List α :=
  (List.range b.size).map fun k => b.cells (b.slot k)

/-- How many elements there is room for. -/
def room (b : CircularBuffer α) : ℕ :=
  b.capacity - b.size

/-- Cells written one behind the other, from place `k` on. -/
def store {ι : Type*} [DecidableEq ι] (slot : ℕ → ι) :
    ℕ → List α → (ι → α) → ι → α
  | _, [], cells => cells
  | k, x :: xs, cells => store slot (k + 1) xs (Function.update cells (slot k) x)

/-- The elements appended, as many as there is room for. -/
def push (xs : List α) (b : CircularBuffer α) : CircularBuffer α :=
  { b with
    cells := store b.slot b.size (xs.take b.room) b.cells
    size := b.size + (xs.take b.room).length
    size_le := by
      have := b.size_le
      rw [List.length_take, room]
      omega }

/-- Up to `n` elements read and given up. -/
def pop (n : ℕ) (b : CircularBuffer α) : List α × CircularBuffer α :=
  ((List.range (min n b.size)).map fun k => b.cells (b.slot k),
    { b with
      readIndex := b.slot (min n b.size)
      size := b.size - min n b.size
      size_le := (Nat.sub_le _ _).trans b.size_le })

/-- Nothing in use, from the first cell on. -/
def clear (b : CircularBuffer α) : CircularBuffer α :=
  { b with
    readIndex := ⟨0, b.readIndex.pos⟩
    size := 0
    size_le := Nat.zero_le _ }

variable (b : CircularBuffer α)

@[simp] theorem length_contents : b.contents.length = b.size := by
  rw [contents, List.length_map, List.length_range]

@[simp] theorem capacity_push (xs : List α) :
    (b.push xs).capacity = b.capacity := rfl

@[simp] theorem capacity_pop (n : ℕ) : (b.pop n).2.capacity = b.capacity := rfl

@[simp] theorem capacity_clear : b.clear.capacity = b.capacity := rfl

/-- **Places less than the capacity apart are different cells.** -/
theorem slot_ne {j k : ℕ} (hjk : j < k) (hk : k < b.capacity) :
    b.slot j ≠ b.slot k := by
  intro h
  have hmod : (b.readIndex + j) % b.capacity = (b.readIndex + k) % b.capacity :=
    congrArg Fin.val h
  have hdvd : b.capacity ∣ k - j := by
    have := (Nat.modEq_iff_dvd' (show b.readIndex + j ≤ b.readIndex + k by omega)).mp
      hmod
    rwa [Nat.add_sub_add_left] at this
  have := Nat.le_of_dvd (by omega) hdvd
  omega

/-- The places of a buffer read from further on. -/
theorem slot_slot (n k : ℕ) :
    ((b.pop n).2.slot k : ℕ) = b.slot (min n b.size + k) := by
  rw [slot, slot]
  change ((b.readIndex + min n b.size) % b.capacity + k) % b.capacity = _
  rw [Nat.mod_add_mod, Nat.add_assoc]

section Store

variable {ι : Type*} [DecidableEq ι] {slot : ℕ → ι}

/-- A cell none of the places is keeps what it held. -/
theorem store_of_ne {i : ι} (xs : List α) (k : ℕ) (cells : ι → α)
    (h : ∀ j, k ≤ j → j < k + xs.length → slot j ≠ i) :
    store slot k xs cells i = cells i := by
  induction xs generalizing k cells with
  | nil => rfl
  | cons x xs ih =>
    rw [List.length_cons] at h
    rw [store, ih _ _ fun j hj hj' => h j (by omega) (by omega),
      Function.update_of_ne (h k le_rfl (by omega)).symm]

/-- **What is written is there**, as long as the places are different
cells. -/
theorem store_slot (xs : List α) (k : ℕ) (cells : ι → α)
    (hinj : ∀ i j, k ≤ i → i < j → j < k + xs.length → slot i ≠ slot j)
    {n : ℕ} (hn : n < xs.length) :
    store slot k xs cells (slot (k + n)) = xs[n] := by
  induction xs generalizing k cells n with
  | nil => exact absurd hn (Nat.not_lt_zero _)
  | cons x xs ih =>
    rw [List.length_cons] at hinj hn
    cases n with
    | zero =>
      have hfirst : store slot (k + 1) xs (Function.update cells (slot k) x)
          (slot k) = Function.update cells (slot k) x (slot k) :=
        store_of_ne _ _ _ fun j hj hj' =>
          (hinj k j le_rfl (by omega) (by omega)).symm
      exact hfirst.trans (Function.update_self ..)
    | succ n =>
      have := ih (k + 1) (Function.update cells (slot k) x)
        (fun i j hi hij hj => hinj i j (by omega) hij (by omega))
        (show n < xs.length by omega)
      rw [store, show k + (n + 1) = k + 1 + n by omega, this]
      rfl

end Store

/-- **A push appends** what there is room for. -/
theorem contents_push (xs : List α) :
    (b.push xs).contents = b.contents ++ xs.take b.room := by
  have hle := b.size_le
  have hroom : (xs.take b.room).length ≤ b.capacity - b.size := by
    rw [List.length_take]
    exact min_le_left _ _
  generalize hys : xs.take b.room = ys at hroom
  have hcontents : (b.push xs).contents
      = (List.range (b.size + ys.length)).map
        fun k => store b.slot b.size ys b.cells (b.slot k) := by
    rw [← hys]
    rfl
  rw [hcontents, List.range_add, List.map_append, List.map_map]
  congr 1
  · -- the places in use stand before the ones written
    refine List.map_congr_left fun k hk => ?_
    have hk := List.mem_range.mp hk
    exact store_of_ne _ _ _ fun j hj hj' =>
      (b.slot_ne (show k < j by omega) (by omega)).symm
  · refine List.ext_getElem (by simp) fun n hn hn' => ?_
    rw [List.getElem_map, List.getElem_range, Function.comp_apply]
    exact store_slot ys _ _
      (fun i j _ hij hj => b.slot_ne hij (by omega)) hn'

/-- **A pop takes a prefix.** -/
theorem pop_fst (n : ℕ) : (b.pop n).1 = b.contents.take n := by
  rw [pop, contents, ← List.map_take, List.take_range]

/-- **A pop leaves the rest.** -/
theorem contents_pop (n : ℕ) :
    (b.pop n).2.contents = b.contents.drop n := by
  refine List.ext_getElem ?_ fun k hk hk' => ?_
  · rw [length_contents, List.length_drop, length_contents]
    change b.size - min n b.size = _
    omega
  · rw [List.length_drop, length_contents] at hk'
    have hslot : (b.pop n).2.slot k = b.slot (n + k) := by
      refine Fin.ext ?_
      rw [slot_slot, Nat.min_eq_left (by omega)]
    rw [List.getElem_drop]
    simp only [contents, List.getElem_map, List.getElem_range]
    rw [hslot]
    rfl

@[simp] theorem contents_clear : b.clear.contents = [] := rfl

/-- What is popped and what is left is what there was. -/
theorem pop_append (n : ℕ) :
    (b.pop n).1 ++ (b.pop n).2.contents = b.contents := by
  rw [pop_fst, contents_pop, List.take_append_drop]

end CircularBuffer
