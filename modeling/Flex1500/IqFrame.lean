import Flex1500.Lib.ByteOrder
import Flex1500.Lib.CircularBuffer

/-!
# Samples, their ring and their frames

The receiver turns what the radio sends into complex samples, which wait in
a ring until the publisher takes them. `flex1500_encode_iq_frame` writes the
samples of a frame behind a header of twenty bytes.

A sample is two floats, and here they are the 32 bits they are stored as:
nothing that carries samples from the ring to a client computes with them.
-/

open ByteOrder

/-- A sample (`flex1500_iq_sample`), its two floats by their bits. -/
structure IqSample where
  i : UInt32
  q : UInt32
  deriving DecidableEq, Repr

/-! ## The ring -/

/-- The ring of samples (`flex1500_iq_ring`).

What entered it and what was taken from it are not in the code, and no
function here reads them. What was cleared counts as never entered. -/
structure IqRing where
  buffer : CircularBuffer IqSample
  dropped : UInt64 := 0
  entered : List IqSample := []
  taken : List IqSample := []
  fifo : taken ++ buffer.contents = entered

namespace IqRing

/-- `flex1500_iq_ring_init`, for a capacity it accepts. -/
def init (capacity : ℕ) (h : 0 < capacity) : IqRing where
  buffer :=
    { capacity := capacity
      cells := fun _ => ⟨0, 0⟩
      readIndex := ⟨0, h⟩
      size := 0
      size_le := Nat.zero_le _ }
  fifo := rfl

/-- The samples waiting, the oldest first. -/
def contents (ring : IqRing) : List IqSample :=
  ring.buffer.contents

/-- `flex1500_iq_ring_push`: what does not fit is dropped and counted. -/
def push (samples : List IqSample) (ring : IqRing) : IqRing where
  buffer := ring.buffer.push samples
  dropped :=
    ring.dropped + UInt64.ofNat (samples.length - ring.buffer.room)
  entered := ring.entered ++ samples.take ring.buffer.room
  taken := ring.taken
  fifo := by rw [CircularBuffer.contents_push, ← List.append_assoc, ring.fifo]

/-- `flex1500_iq_ring_pop`. -/
def pop (count : ℕ) (ring : IqRing) : List IqSample × IqRing :=
  ((ring.buffer.pop count).1,
    { ring with
      buffer := (ring.buffer.pop count).2
      taken := ring.taken ++ (ring.buffer.pop count).1
      fifo := by
        rw [List.append_assoc, CircularBuffer.pop_append, ring.fifo] })

/-- `flex1500_iq_ring_clear`. -/
def clear (ring : IqRing) : IqRing :=
  { ring with
    buffer := ring.buffer.clear
    entered := ring.taken
    fifo := by rw [CircularBuffer.contents_clear, List.append_nil] }

@[simp] theorem taken_push (samples : List IqSample) (ring : IqRing) :
    (ring.push samples).taken = ring.taken := rfl

@[simp] theorem taken_pop (count : ℕ) (ring : IqRing) :
    (ring.pop count).2.taken = ring.taken ++ (ring.pop count).1 := rfl

@[simp] theorem taken_clear (ring : IqRing) : ring.clear.taken = ring.taken :=
  rfl

/-- A pop takes the oldest samples. -/
theorem pop_fst (count : ℕ) (ring : IqRing) :
    (ring.pop count).1 = ring.contents.take count :=
  ring.buffer.pop_fst count

/-- A pop leaves the others. -/
theorem contents_pop (count : ℕ) (ring : IqRing) :
    (ring.pop count).2.contents = ring.contents.drop count :=
  ring.buffer.contents_pop count

end IqRing

/-! ## Frames -/

/-- `FLEX1500_IQ_FRAME_HEADER_SIZE`. -/
def iqFrameHeaderSize : ℕ := 20

/-- `FLEX1500_IQ_FRAME_VERSION`. -/
def iqFrameVersion : UInt8 := 1

/-- `FLEX1500_IQ_FORMAT_COMPLEX_F32LE`. -/
def iqFormatComplexF32le : UInt8 := 1

/-- The bytes `F15I`. -/
def iqFrameMark : List UInt8 := [0x46, 0x31, 0x35, 0x49]

/-- The sample rate of every frame. -/
def iqSampleRate : UInt32 := 48000

/-- The bytes of a sample. -/
def IqSample.store (sample : IqSample) : List UInt8 :=
  le32 sample.i ++ le32 sample.q

/-- The header of a frame. -/
def iqFrameHeader (sequence sampleCount : UInt32) : List UInt8 :=
  iqFrameMark ++ [iqFrameVersion, iqFormatComplexF32le]
    ++ be16 (UInt16.ofNat iqFrameHeaderSize) ++ be32 sequence
    ++ be32 iqSampleRate ++ be32 sampleCount

/-- `flex1500_encode_iq_frame`: nothing where the frame does not fit. -/
def encodeIqFrame (sequence : UInt32) (samples : List IqSample)
    (capacity : ℕ) : List UInt8 :=
  if capacity < iqFrameHeaderSize + samples.length * 8 then []
  else
    iqFrameHeader sequence (UInt32.ofNat samples.length)
      ++ samples.flatMap IqSample.store

@[simp] theorem IqSample.length_store (sample : IqSample) :
    sample.store.length = 8 := rfl

@[simp] theorem length_iqFrameHeader (sequence sampleCount : UInt32) :
    (iqFrameHeader sequence sampleCount).length = iqFrameHeaderSize := rfl

/-- Samples take eight bytes each. -/
theorem length_storeSamples (samples : List IqSample) :
    (samples.flatMap IqSample.store).length = samples.length * 8 := by
  induction samples with
  | nil => rfl
  | cons sample samples ih =>
    rw [List.flatMap_cons, List.length_append, ih, IqSample.length_store,
      List.length_cons]
    omega

/-- A frame that fits has its header and its samples. -/
theorem length_encodeIqFrame {sequence : UInt32} {samples : List IqSample}
    {capacity : ℕ} (h : iqFrameHeaderSize + samples.length * 8 ≤ capacity) :
    (encodeIqFrame sequence samples capacity).length
      = iqFrameHeaderSize + samples.length * 8 := by
  rw [encodeIqFrame, if_neg (by omega), List.length_append,
    length_iqFrameHeader, length_storeSamples]

/-- A frame that fits carries its sequence number. -/
theorem ofBe32_encodeIqFrame {sequence : UInt32} {samples : List IqSample}
    {capacity : ℕ} (h : iqFrameHeaderSize + samples.length * 8 ≤ capacity) :
    ofBe32 ((encodeIqFrame sequence samples capacity).drop 8) = sequence := by
  rw [encodeIqFrame, if_neg (by omega)]
  exact ofBe32_be32 sequence _
