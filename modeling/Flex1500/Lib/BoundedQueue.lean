import Mathlib.Data.List.Basic

/-!
# Bounded queues

A list of bounded length, to which elements are appended as far as there is
room and from whose front they are taken. What a push refuses is counted.
-/

/-- A queue of bounded length. -/
structure BoundedQueue (α : Type*) where
  capacity : ℕ
  items : List α := []
  refused : ℕ := 0
  fits : items.length ≤ capacity

namespace BoundedQueue

variable {α : Type*} (queue : BoundedQueue α)

/-- A queue of nothing. -/
def empty (capacity : ℕ) : BoundedQueue α where
  capacity := capacity
  fits := Nat.zero_le _

/-- How many elements there is room for. -/
def room : ℕ :=
  queue.capacity - queue.items.length

/-- **The longest prefix that fits** is appended, and the rest counted. -/
def push (xs : List α) : BoundedQueue α where
  capacity := queue.capacity
  items := queue.items ++ xs.take queue.room
  refused := queue.refused + (xs.length - queue.room)
  fits := by
    have := queue.fits
    rw [List.length_append, List.length_take, room]
    omega

/-- **The oldest elements** are taken, so many or all there are. -/
def pop (n : ℕ) : List α × BoundedQueue α :=
  (queue.items.take n,
    { queue with
      items := queue.items.drop n
      fits := by
        rw [List.length_drop]
        exact Nat.le_trans (Nat.sub_le _ _) queue.fits })

/-- Nothing is left. -/
def clear : BoundedQueue α :=
  { queue with
    items := []
    fits := Nat.zero_le _ }

end BoundedQueue
