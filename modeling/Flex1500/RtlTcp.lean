import Flex1500.IqFrame
import Flex1500.Publisher

/-!
# The `rtl_tcp` resampler

A `rtl_tcp` client is sent one unsigned byte for I and one for Q, at a rate
of its own choice. `flex1500_rtl_tcp_resample_iq` takes a frame as it stands
in the publisher's buffer, checks its header, reads its samples with Q
negated, and puts out as many pairs as fall into the time of the frame.

What is computed in floating point is a parameter, an `RtlKernel`: the value
of the filtered signal at a point in time, and the byte a value becomes,
with the rounding error that is carried over. When a pair is put out, from
which samples, and what is kept for the next frame is not left to it.
-/

open ByteOrder

/-- The floating-point part of the resampler, on floats by their bits.
`interpolate` is given the current block and the one before, the index the
current block starts at, and the place in it as a numerator over the output
rate. -/
structure RtlKernel where
  interpolate : (current history : List UInt32) → (blockStart : UInt64) →
    (phaseNumerator outputRate : ℕ) → UInt32
  encode : (value error : UInt32) → UInt8 × UInt32

/-- A kernel whose every value is zero and becomes the same byte. -/
def RtlKernel.silent : RtlKernel where
  interpolate _ _ _ _ _ := 0
  encode _ error := (128, error)

/-- `FLEX1500_RTL_TCP_INPUT_RATE`. -/
def rtlTcpInputRate : ℕ := 48000

/-- The highest output rate a client may ask for. -/
def rtlTcpMaxRate : ℕ := 3072000

/-- `FLEX1500_RTL_TCP_RESAMPLER_HISTORY`. -/
def rtlTcpResamplerHistory : ℕ := 64

/-- The size of `rtl_pending`. -/
def rtlPendingSize : ℕ := publisherMaxSamples * 2 * 64

/-- The resampler (`flex1500_rtl_tcp_resampler`). -/
structure RtlTcpResampler where
  outputRate : ℕ
  phaseNumerator : ℕ := 0
  inputSamples : UInt64 := 0
  historyI : List UInt32 := []
  historyQ : List UInt32 := []
  errorI : UInt32 := 0
  errorQ : UInt32 := 0
  deriving DecidableEq, Repr

/-- A float by its bits, negated. -/
def negateF32 (bits : UInt32) : UInt32 :=
  bits ^^^ 0x80000000

/-- The sample at the front of a list of bytes. -/
def loadSample (bytes : List UInt8) : IqSample where
  i := ofLe32 bytes
  q := ofLe32 (bytes.drop 4)

/-- The samples of a frame, given their number. -/
def loadSamples (framed : List UInt8) (count : ℕ) : List IqSample :=
  (List.range count).map fun index =>
    loadSample (framed.drop (iqFrameHeaderSize + index * 8))

namespace RtlTcpResampler

/-- `flex1500_rtl_tcp_resampler_reset`. -/
def reset (outputRate : ℕ) : RtlTcpResampler where
  outputRate := outputRate

/-- The samples of a frame, or nothing where the header is not that of a
frame. -/
def parse (framed : List UInt8) : Option (List IqSample) :=
  let count := (ofBe32 (framed.drop 16)).toNat
  if framed.length < iqFrameHeaderSize ∨ framed.take 4 ≠ iqFrameMark
      ∨ framed[4]? ≠ some iqFrameVersion
      ∨ framed[5]? ≠ some iqFormatComplexF32le then none
  else if iqFrameHeaderSize + count * 8 ≠ framed.length
      ∨ publisherMaxSamples < count then none
  else some (loadSamples framed count)

/-- One pair of bytes put out. -/
def emit (kernel : RtlKernel) (currentI currentQ : List UInt32)
    (r : RtlTcpResampler) : List UInt8 × RtlTcpResampler :=
  let i := kernel.encode (kernel.interpolate currentI r.historyI
    r.inputSamples r.phaseNumerator r.outputRate) r.errorI
  let q := kernel.encode (kernel.interpolate currentQ r.historyQ
    r.inputSamples r.phaseNumerator r.outputRate) r.errorQ
  ([i.1, q.1],
    { r with
      phaseNumerator := r.phaseNumerator + rtlTcpInputRate
      errorI := i.2
      errorQ := q.2 })

/-- The loop that puts out pairs up to the end of the block, in so many
turns at most. It gives up where the output has no room. -/
def produce (kernel : RtlKernel) (currentI currentQ : List UInt32)
    (blockSpan capacity : ℕ) :
    ℕ → List UInt8 → RtlTcpResampler → Option (List UInt8) × RtlTcpResampler
  | 0, output, r => (some output, r)
  | turns + 1, output, r =>
    if blockSpan ≤ r.phaseNumerator then (some output, r)
    else if capacity < output.length + 2 then (none, r)
    else
      let emitted := emit kernel currentI currentQ r
      produce kernel currentI currentQ blockSpan capacity turns
        (output ++ emitted.1) emitted.2

/-- The samples kept for the next block: of the current ones as many as are
kept at all, and behind them what there is room for of the older. -/
def keep (history current : List UInt32) : List UInt32 :=
  let kept := min current.length rtlTcpResamplerHistory
  let oldKept := min (rtlTcpResamplerHistory - kept) history.length
  history.drop (history.length - oldKept)
    ++ current.drop (current.length - kept)

/-- `flex1500_rtl_tcp_resample_iq`: nothing where the frame is rejected. -/
def resampleIq (kernel : RtlKernel) (framed : List UInt8) (capacity : ℕ)
    (r : RtlTcpResampler) : List UInt8 × RtlTcpResampler :=
  match (if r.outputRate < rtlTcpInputRate then none else parse framed) with
  | none => ([], r)
  | some samples =>
    let currentI := samples.map (·.i)
    let currentQ := samples.map (negateF32 ·.q)
    let blockSpan := samples.length * r.outputRate
    let produced := produce kernel currentI currentQ blockSpan capacity
      (blockSpan / rtlTcpInputRate + 1) [] r
    match produced.1 with
    | none => ([], produced.2)
    | some output =>
      (output,
        { produced.2 with
          phaseNumerator := produced.2.phaseNumerator - blockSpan
          inputSamples := r.inputSamples + UInt64.ofNat samples.length
          historyI := keep r.historyI currentI
          historyQ := keep r.historyQ currentQ })

/-- The loop puts out no more than there is room for. -/
theorem length_produce {kernel : RtlKernel} {currentI currentQ : List UInt32}
    {blockSpan capacity : ℕ} {turns : ℕ} {output produced : List UInt8}
    {r : RtlTcpResampler} (h : output.length ≤ capacity)
    (hproduced : (produce kernel currentI currentQ blockSpan capacity turns
      output r).1 = some produced) : produced.length ≤ capacity := by
  induction turns generalizing output r with
  | zero =>
    obtain rfl : output = produced := Option.some.inj hproduced
    exact h
  | succ turns ih =>
    unfold produce at hproduced
    split at hproduced
    · obtain rfl : output = produced := Option.some.inj hproduced
      exact h
    split at hproduced
    · simp at hproduced
    · refine ih ?_ hproduced
      rw [List.length_append, emit, List.length_cons, List.length_singleton]
      omega

/-- A frame that was resampled fits its buffer. -/
theorem length_resampleIq (kernel : RtlKernel) (framed : List UInt8)
    (capacity : ℕ) (r : RtlTcpResampler) :
    (resampleIq kernel framed capacity r).1.length ≤ capacity := by
  unfold resampleIq
  split
  · exact Nat.zero_le _
  extract_lets currentI currentQ blockSpan produced
  split
  · exact Nat.zero_le _
  · exact length_produce (Nat.zero_le _) ‹_›

/-- The loop puts out pairs, and keeps the rate. -/
theorem produce_pairs (kernel : RtlKernel) (currentI currentQ : List UInt32)
    (blockSpan capacity turns : ℕ) {output : List UInt8}
    {r : RtlTcpResampler} (h : Even output.length) :
    let produced := produce kernel currentI currentQ blockSpan capacity turns
      output r
    (∀ bytes, produced.1 = some bytes → Even bytes.length)
      ∧ produced.2.outputRate = r.outputRate := by
  induction turns generalizing output r with
  | zero =>
    refine ⟨fun bytes hbytes => ?_, rfl⟩
    obtain rfl : output = bytes := Option.some.inj hbytes
    exact h
  | succ turns ih =>
    unfold produce
    split
    · refine ⟨fun bytes hbytes => ?_, rfl⟩
      obtain rfl : output = bytes := Option.some.inj hbytes
      exact h
    split
    · exact ⟨by simp, rfl⟩
    · refine ih ?_
      rw [List.length_append]
      exact h.add even_two

/-- **A frame becomes pairs of bytes**, at the rate that was set. -/
theorem resampleIq_pairs (kernel : RtlKernel) (framed : List UInt8)
    (capacity : ℕ) (r : RtlTcpResampler) :
    Even (resampleIq kernel framed capacity r).1.length
      ∧ (resampleIq kernel framed capacity r).2.outputRate = r.outputRate := by
  unfold resampleIq
  split
  · exact ⟨⟨0, rfl⟩, rfl⟩
  extract_lets currentI currentQ blockSpan produced
  obtain ⟨heven, hrate⟩ := produce_pairs kernel currentI currentQ blockSpan
    capacity (blockSpan / rtlTcpInputRate + 1) (r := r)
    (show Even ([] : List UInt8).length from ⟨0, rfl⟩)
  split
  · exact ⟨⟨0, rfl⟩, hrate⟩
  · exact ⟨heven _ ‹_›, hrate⟩

/-- Frames resampled one after the other: what becomes of each, and the
resampler then. -/
def resampleAll (kernel : RtlKernel) (frames : List (List UInt8))
    (r : RtlTcpResampler) : List (List UInt8) × RtlTcpResampler :=
  frames.foldl (fun s framed =>
    (s.1 ++ [(s.2.resampleIq kernel framed rtlPendingSize).1],
      (s.2.resampleIq kernel framed rtlPendingSize).2)) ([], r)

/-- One frame more. -/
theorem resampleAll_append (kernel : RtlKernel) (frames : List (List UInt8))
    (framed : List UInt8) (r : RtlTcpResampler) :
    resampleAll kernel (frames ++ [framed]) r
      = ((resampleAll kernel frames r).1
          ++ [((resampleAll kernel frames r).2.resampleIq kernel framed
            rtlPendingSize).1],
        ((resampleAll kernel frames r).2.resampleIq kernel framed
          rtlPendingSize).2) := by
  rw [resampleAll, List.foldl_append]
  rfl

end RtlTcpResampler
