import Flex1500.IqFrame
import Flex1500.Lib.BoundedQueue
import Flex1500.Lib.Ring

/-!
# The ring of samples is a bounded queue

`iq.c` keeps the samples in an array, a read index and a size, and its loops
compute the cell of every sample by a remainder. Here the array is a list of
cells, and a cell that is not there makes the operation fail, so that nothing
is taken for granted about the indices.

Called in any order, the operations never fail, and answer as those of a list
of bounded length do. The ring of the publisher's model, `IqRing`, stands
between the two: it is what the array stands for.
-/

/-! ## The array -/

/-- The fields of `flex1500_iq_ring`. -/
structure IqRingFields where
  samples : List IqSample
  capacity : ℕ
  readIndex : ℕ := 0
  size : ℕ := 0
  dropped : UInt64 := 0
  deriving DecidableEq, Repr

namespace IqRingFields

/-- `flex1500_iq_ring_init`, where there is memory: nothing for a capacity it
refuses. -/
def init (capacity : ℕ) : Option IqRingFields :=
  if capacity = 0 then none
  else some { samples := List.replicate capacity ⟨0, 0⟩, capacity := capacity }

/-- The loop of `flex1500_iq_ring_push`: the cells behind it, for the samples
from an index on. -/
def store (ring : IqRingFields) :
    ℕ → List IqSample → List IqSample → Option (List IqSample)
  | _, [], cells => some cells
  | index, sample :: rest, cells => do
    let writeIndex := (ring.readIndex + ring.size + index) % ring.capacity
    ring.store (index + 1) rest (← Ring.put writeIndex sample cells)

/-- `flex1500_iq_ring_push`: how many samples were accepted. -/
def push (samples : List IqSample) (ring : IqRingFields) :
    Option (ℕ × IqRingFields) := do
  let available := ring.capacity - ring.size
  let accepted := if available < samples.length then available
    else samples.length
  let dropped := if available < samples.length then
      ring.dropped + UInt64.ofNat (samples.length - available)
    else ring.dropped
  let cells ← ring.store 0 (samples.take accepted) ring.samples
  some (accepted,
    { ring with
      samples := cells
      size := ring.size + accepted
      dropped := dropped })

/-- The loop of `flex1500_iq_ring_pop`: so many samples from an index on. -/
def load (ring : IqRingFields) : ℕ → ℕ → Option (List IqSample)
  | 0, _ => some []
  | count + 1, index => do
    let sample ← ring.samples[(ring.readIndex + index) % ring.capacity]?
    some (sample :: (← ring.load count (index + 1)))

/-- `flex1500_iq_ring_pop`: the samples read, as many as it returns. -/
def pop (count : ℕ) (ring : IqRingFields) :
    Option (List IqSample × IqRingFields) := do
  let count := if ring.size < count then ring.size else count
  let samples ← ring.load count 0
  some (samples,
    { ring with
      readIndex := (ring.readIndex + count) % ring.capacity
      size := ring.size - count })

/-- `flex1500_iq_ring_clear`. -/
def clear (ring : IqRingFields) : IqRingFields :=
  { ring with readIndex := 0, size := 0 }

end IqRingFields

/-! ## Calls -/

/-- The calls a ring gets. -/
inductive IqRingCall where
  | push (samples : List IqSample)
  | pop (count : ℕ)
  | clear
  deriving DecidableEq, Repr

/-- What a call returns. -/
inductive IqRingAnswer where
  | accepted (count : ℕ)
  | popped (samples : List IqSample)
  | cleared
  deriving DecidableEq, Repr

/-- A call of the ring. -/
def IqRingFields.call (ring : IqRingFields) :
    IqRingCall → Option (IqRingAnswer × IqRingFields)
  | .push samples => (ring.push samples).map fun r => (.accepted r.1, r.2)
  | .pop count => (ring.pop count).map fun r => (.popped r.1, r.2)
  | .clear => some (.cleared, ring.clear)

/-- Calls one after the other: what each returned, and the ring then. -/
def IqRingFields.run : List IqRingCall → IqRingFields →
    Option (List IqRingAnswer × IqRingFields)
  | [], ring => some ([], ring)
  | call :: calls, ring => do
    let (answer, ring) ← ring.call call
    let (answers, ring) ← run calls ring
    some (answer :: answers, ring)

/-- A call of a queue. -/
def BoundedQueue.call (queue : BoundedQueue IqSample) :
    IqRingCall → IqRingAnswer × BoundedQueue IqSample
  | .push samples =>
    (.accepted (samples.take queue.room).length, queue.push samples)
  | .pop count => (.popped (queue.pop count).1, (queue.pop count).2)
  | .clear => (.cleared, queue.clear)

/-- The same calls of a queue. -/
def BoundedQueue.run : List IqRingCall → BoundedQueue IqSample →
    List IqRingAnswer × BoundedQueue IqSample
  | [], queue => ([], queue)
  | call :: calls, queue =>
    let one := queue.call call
    let rest := run calls one.2
    (one.1 :: rest.1, rest.2)

/-- The capacity of a queue stays. -/
theorem BoundedQueue.capacity_run (calls : List IqRingCall)
    (queue : BoundedQueue IqSample) :
    (queue.run calls).2.capacity = queue.capacity := by
  induction calls generalizing queue with
  | nil => rfl
  | cons call calls ih =>
    show ((queue.call call).2.run calls).2.capacity = queue.capacity
    rw [ih]
    cases call <;> rfl

/-! ## What the array stands for -/

namespace IqRingFields

/-- **The array stands for a ring of samples.** -/
structure Stands (ring : IqRingFields) (iq : IqRing) : Prop where
  holds : Ring.Holds ring.samples ring.readIndex iq.contents
  cells : ring.samples.length = ring.capacity
  capacity : ring.capacity = iq.buffer.capacity
  size : ring.size = iq.contents.length
  dropped : ring.dropped = iq.dropped

variable {ring : IqRingFields} {iq : IqRing}

/-- A new array stands for an empty ring. -/
theorem stands_init {capacity : ℕ} (hpos : 0 < capacity) :
    ∃ ring, init capacity = some ring ∧ ring.Stands (.init capacity hpos) := by
  refine ⟨_, if_neg hpos.ne', ?_⟩
  exact
    { holds := .nil (by rw [List.length_replicate]; exact hpos)
      cells := List.length_replicate
      capacity := rfl
      size := rfl
      dropped := rfl }

/-- The loop of a push puts the samples behind the others, one by one. -/
theorem holds_store (index : ℕ) (samples : List IqSample)
    {waiting cells : List IqSample}
    (hcapacity : cells.length = ring.capacity)
    (hholds : Ring.Holds cells ring.readIndex waiting)
    (hindex : waiting.length = ring.size + index)
    (hroom : waiting.length + samples.length ≤ cells.length) :
    ∃ cells', ring.store index samples cells = some cells'
      ∧ cells'.length = ring.capacity
      ∧ Ring.Holds cells' ring.readIndex (waiting ++ samples) := by
  induction samples generalizing index waiting cells with
  | nil => exact ⟨cells, rfl, hcapacity, (List.append_nil _).symm ▸ hholds⟩
  | cons sample samples ih =>
    rw [List.length_cons] at hroom
    have hnext := hholds.append (by omega) sample
    have hplace := hholds.place_lt waiting.length
    obtain ⟨cells', hstore, hlength, hfound⟩ := ih (index + 1)
      (by rw [List.length_set]; exact hcapacity) hnext
      (by rw [List.length_append, List.length_singleton]; omega)
      (by rw [List.length_append, List.length_singleton, List.length_set]; omega)
    refine ⟨cells', ?_, hlength, ?_⟩
    · rw [store, Nat.add_assoc, ← hindex, ← hcapacity, Ring.put_eq _ hplace]
      exact hstore
    · rwa [List.append_assoc] at hfound

/-- What there is room for. -/
theorem Stands.room (h : ring.Stands iq) :
    ring.capacity - ring.size = iq.buffer.room := by
  rw [h.size, h.capacity, IqRing.contents, CircularBuffer.length_contents]
  rfl

/-- **A push** of the array is one of the ring. -/
theorem Stands.push (h : ring.Stands iq) (samples : List IqSample) :
    ∃ ring', ring.push samples
        = some ((samples.take iq.buffer.room).length, ring')
      ∧ ring'.Stands (iq.push samples) := by
  have haccepted : (if iq.buffer.room < samples.length then iq.buffer.room
      else samples.length) = (samples.take iq.buffer.room).length := by
    rw [List.length_take]
    split <;> omega
  have htake : samples.take (samples.take iq.buffer.room).length
      = samples.take iq.buffer.room := by
    rw [List.length_take, List.take_eq_take_iff]
    omega
  have hroom := h.room
  have hsize := h.size
  have hcells := h.cells
  have hfits := h.holds.fits
  obtain ⟨cells, hstore, hlength, hfound⟩ := holds_store 0
    (samples.take iq.buffer.room) h.cells h.holds h.size.symm (by
      rw [List.length_take]
      omega)
  refine ⟨{ ring with
    samples := cells
    size := ring.size + (samples.take iq.buffer.room).length
    dropped := if iq.buffer.room < samples.length then
        ring.dropped + UInt64.ofNat (samples.length - iq.buffer.room)
      else ring.dropped }, ?_, ?_⟩
  · rw [IqRingFields.push, hroom, haccepted, htake, hstore]
    rfl
  · have hcontents : (iq.push samples).contents
        = iq.contents ++ samples.take iq.buffer.room :=
      CircularBuffer.contents_push _ _
    constructor
    · rw [hcontents]
      exact hfound
    · exact hlength
    · exact h.capacity
    · rw [hcontents, List.length_append]
      exact congrArg (· + _) h.size
    · show (if _ then _ else _) = iq.dropped + _
      rw [← h.dropped]
      split
      · rfl
      · rw [Nat.sub_eq_zero_of_le (by omega)]
        exact (UInt64.add_zero _).symm

/-- The loop of a pop reads the samples in their order. -/
theorem Stands.load (h : ring.Stands iq) (count index : ℕ)
    (hwaiting : index + count ≤ iq.contents.length) :
    IqRingFields.load ring count index
      = some ((iq.contents.drop index).take count) := by
  induction count generalizing index with
  | zero => rfl
  | succ count ih =>
    have hlt : index < iq.contents.length := by omega
    have hfound := h.holds.found index hlt
    rw [h.cells] at hfound
    rw [IqRingFields.load, hfound, List.drop_eq_getElem_cons hlt, List.take_succ_cons]
    show (do some (_ :: (← IqRingFields.load ring count (index + 1)))) = _
    rw [ih (index + 1) (by omega)]
    rfl

/-- **A pop** of the array is one of the ring. -/
theorem Stands.pop (h : ring.Stands iq) (count : ℕ) :
    ∃ ring', ring.pop count = some ((iq.pop count).1, ring')
      ∧ ring'.Stands (iq.pop count).2 := by
  have hcount : (if ring.size < count then ring.size else count)
      = min count iq.contents.length := by
    rw [← h.size]
    split <;> omega
  have hload := h.load (min count iq.contents.length) 0 (by omega)
  have hdrop : iq.contents.drop (min count iq.contents.length)
      = iq.contents.drop count := by
    rw [← List.drop_eq_drop_min]
  refine ⟨{ ring with
    readIndex := (ring.readIndex + min count iq.contents.length)
      % ring.capacity
    size := ring.size - min count iq.contents.length }, ?_, ?_⟩
  · rw [IqRingFields.pop, hcount, hload, List.drop_zero, ← List.take_eq_take_min,
      IqRing.pop_fst]
    rfl
  · constructor
    · rw [IqRing.contents_pop, ← hdrop]
      show Ring.Holds _ ((_ + _) % ring.capacity) _
      rw [← h.cells]
      exact h.holds.drop _
    · exact h.cells
    · exact h.capacity
    · rw [IqRing.contents_pop, List.length_drop]
      show ring.size - _ = _
      rw [h.size]
      omega
    · exact h.dropped

/-- **A clear** of the array is one of the ring. -/
theorem Stands.clear (h : ring.Stands iq) : ring.clear.Stands iq.clear where
  holds := .nil h.holds.pos
  cells := h.cells
  capacity := h.capacity
  size := rfl
  dropped := h.dropped

end IqRingFields

/-! ## What the ring is for -/

/-- **A ring of samples is a queue** of the samples waiting. -/
structure IqRing.Is (iq : IqRing) (queue : BoundedQueue IqSample) : Prop where
  capacity : iq.buffer.capacity = queue.capacity
  contents : iq.contents = queue.items
  dropped : iq.dropped = UInt64.ofNat queue.refused

namespace IqRing.Is

variable {iq : IqRing} {queue : BoundedQueue IqSample}

/-- Both have the same room. -/
theorem room (h : iq.Is queue) : iq.buffer.room = queue.room := by
  rw [CircularBuffer.room, ← iq.buffer.length_contents, h.capacity]
  exact congrArg (queue.capacity - List.length ·) h.contents

theorem push (h : iq.Is queue) (samples : List IqSample) :
    (iq.push samples).Is (queue.push samples) where
  capacity := h.capacity
  contents := by
    show (iq.buffer.push samples).contents = _ ++ _
    rw [CircularBuffer.contents_push, h.room]
    exact congrArg (· ++ _) h.contents
  dropped := by
    show iq.dropped + UInt64.ofNat (samples.length - iq.buffer.room) = _
    rw [h.dropped, h.room, ← UInt64.ofNat_add]
    rfl

theorem pop (h : iq.Is queue) (count : ℕ) :
    (iq.pop count).1 = (queue.pop count).1
      ∧ (iq.pop count).2.Is (queue.pop count).2 := by
  refine ⟨?_, h.capacity, ?_, h.dropped⟩
  · rw [IqRing.pop_fst, h.contents]
    rfl
  · rw [IqRing.contents_pop, h.contents]
    rfl

theorem clear (h : iq.Is queue) : iq.clear.Is queue.clear :=
  ⟨h.capacity, rfl, h.dropped⟩

end IqRing.Is

namespace IqRingFields

variable {ring : IqRingFields} {queue : BoundedQueue IqSample}

/-- **The array refines the queue**, by way of the ring. -/
def Refines (ring : IqRingFields) (queue : BoundedQueue IqSample) : Prop :=
  ∃ iq : IqRing, ring.Stands iq ∧ iq.Is queue

/-- A call answers as that of the queue does. -/
theorem Refines.call (h : ring.Refines queue) (call : IqRingCall) :
    ∃ ring', ring.call call = some ((queue.call call).1, ring')
      ∧ ring'.Refines (queue.call call).2 := by
  obtain ⟨iq, hstands, his⟩ := h
  cases call with
  | push samples =>
    obtain ⟨ring', hpush, hstands'⟩ := hstands.push samples
    refine ⟨ring', ?_, _, hstands', his.push samples⟩
    rw [IqRingFields.call, hpush, his.room]
    rfl
  | pop count =>
    obtain ⟨ring', hpop, hstands'⟩ := hstands.pop count
    obtain ⟨hsame, his'⟩ := his.pop count
    refine ⟨ring', ?_, _, hstands', his'⟩
    rw [IqRingFields.call, hpop, hsame]
    rfl
  | clear => exact ⟨ring.clear, rfl, _, hstands.clear, his.clear⟩

/-- So do calls one after the other. -/
theorem Refines.run (h : ring.Refines queue) (calls : List IqRingCall) :
    ∃ ring', ring.run calls = some ((queue.run calls).1, ring')
      ∧ ring'.Refines (queue.run calls).2 := by
  induction calls generalizing ring queue with
  | nil => exact ⟨ring, rfl, h⟩
  | cons call calls ih =>
    obtain ⟨ring', hcall, h'⟩ := h.call call
    obtain ⟨ring'', hrun, h''⟩ := ih h'
    refine ⟨ring'', ?_, h''⟩
    rw [IqRingFields.run, hcall]
    show (ring'.run calls).bind _ = _
    rw [hrun]
    rfl

/-- **The ring is a bounded queue**: whatever its capacity and whatever is
called, no cell outside the array is read or written, every call answers as
that of a list bounded by the capacity does, and in the end the sizes and the
totals of what was refused are the same, the read index is that of a cell, and
no more is waiting than the capacity. -/
theorem refines_queue {capacity : ℕ} (hpos : 0 < capacity)
    (calls : List IqRingCall) :
    let queue := (BoundedQueue.empty capacity).run calls
    ∃ new ring, init capacity = some new ∧ new.run calls = some (queue.1, ring)
      ∧ ring.capacity = capacity
      ∧ ring.size = queue.2.items.length
      ∧ ring.dropped = UInt64.ofNat queue.2.refused
      ∧ ring.readIndex < capacity ∧ ring.size ≤ capacity := by
  obtain ⟨new, hinit, hnew⟩ := stands_init hpos
  have hstart : new.Refines (BoundedQueue.empty capacity) :=
    ⟨_, hnew, rfl, rfl, rfl⟩
  obtain ⟨ring, hrun, iq, hstands, his⟩ := hstart.run calls
  have hcapacity : ((BoundedQueue.empty capacity).run calls).2.capacity
      = capacity := BoundedQueue.capacity_run _ _
  have hsame : ring.capacity = capacity :=
    hstands.capacity.trans (his.capacity.trans hcapacity)
  have hread := hstands.holds.start_lt
  have hsize := hstands.size
  have hfits := hstands.holds.fits
  rw [hstands.cells, hsame] at hread hfits
  exact ⟨new, ring, hinit, hrun, hsame, hsize.trans (congrArg _ his.contents),
    hstands.dropped.trans his.dropped, hread, hsize ▸ hfits⟩

/-- Three cells: four samples pushed, two taken, one pushed behind the end of
the array, and the rest cleared. -/
theorem refines_queue_three : ∃ new ring, init 3 = some new
    ∧ new.run [.push [⟨1, 0⟩, ⟨2, 0⟩, ⟨3, 0⟩, ⟨4, 0⟩], .pop 2, .push [⟨4, 0⟩],
        .pop 3, .push [⟨5, 0⟩], .clear]
      = some ([.accepted 3, .popped [⟨1, 0⟩, ⟨2, 0⟩], .accepted 1,
        .popped [⟨3, 0⟩, ⟨4, 0⟩], .accepted 1, .cleared], ring)
    ∧ ring.capacity = 3 ∧ ring.size = 0 ∧ ring.dropped = 1
    ∧ ring.readIndex < 3 ∧ ring.size ≤ 3 :=
  refines_queue (show 0 < 3 by decide)
    [.push [⟨1, 0⟩, ⟨2, 0⟩, ⟨3, 0⟩, ⟨4, 0⟩], .pop 2, .push [⟨4, 0⟩], .pop 3,
      .push [⟨5, 0⟩], .clear]

end IqRingFields
