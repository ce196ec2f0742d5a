import Mathlib.Tactic.Linarith
import Flex1500.Lib.FrameReader
import Flex1500.ReceiveStreams

/-!
# The decoders of the stream

Two clients read the frames that the daemon encodes: the companion client's
`IqStream` and the `RxStream` of the Soapy device. Each has a parser of its
own, with its own checks in its own order, over a buffer that the socket
fills piece by piece. `IqStream` waits for ever, `RxStream` gives up after a
time and goes on where it was. The `rtl_tcp` resampler, which is handed
whole frames in memory, is a third.

Both run on little-endian hosts, where four bytes copied into a float are
its bits.
-/

open ByteOrder

/-! ## The companion client -/

/-- What an `IqStream` has received and expects. -/
structure IqStream where
  pending : List UInt8 := []
  expectedSequence : UInt32 := 0
  haveSequence : Bool := false
  deriving DecidableEq, Repr

namespace IqStream

/-- Whether the bytes at the front are not the header of a frame. -/
def invalidHeader (bytes : List UInt8) : Bool :=
  bytes.take 4 != iqFrameMark || bytes[4]? != some 1 || bytes[5]? != some 1
    || bytes[6]? != some 0 || bytes[7]? != some 20
    || ofBe32 (bytes.drop 12) != 48000

/-- The state after bytes were received (`IqStream::receive_until`). -/
def received (s : IqStream) (filled : Filled × List UInt8 × List (Arrival UInt8)) :
    IqStream :=
  { s with pending := filled.2.1 }

/-- `IqStream::read_frame`. -/
def readFrame (arrivals : List (Arrival UInt8)) (s : IqStream) :
    Outcome String (List IqSample) × IqStream × List (Arrival UInt8) :=
  let filled := Arrival.fill 20 arrivals s.pending
  let s := s.received filled
  match filled.1 with
  | .waiting => (.waiting, s, filled.2.2)
  | .timedOut | .failed => (.error "IQ stream disconnected", s, filled.2.2)
  | .enough =>
    if invalidHeader s.pending then
      (.error "invalid F15I stream frame", s, filled.2.2)
    else
      let sequence := ofBe32 (s.pending.drop 8)
      let count := (ofBe32 (s.pending.drop 16)).toNat
      if 65536 < count then
        (.error "oversized F15I stream frame", s, filled.2.2)
      else
        let bytes := 20 + count * 8
        let filled := Arrival.fill bytes filled.2.2 s.pending
        let s := s.received filled
        match filled.1 with
        | .waiting => (.waiting, s, filled.2.2)
        | .timedOut | .failed =>
          (.error "IQ stream disconnected", s, filled.2.2)
        | .enough =>
          if s.haveSequence && sequence != s.expectedSequence then
            (.error "lost F15I stream frame", s, filled.2.2)
          else
            (.done (loadSamples s.pending count),
              { pending := s.pending.drop bytes
                expectedSequence := sequence + 1
                haveSequence := true },
              filled.2.2)

/-- A stream is read call by call. -/
def reader : Reader UInt8 String (List IqSample) IqStream where
  buffer := pending
  call := readFrame

end IqStream

/-! ## The Soapy device -/

/-- What a stream reports beside a timeout. -/
inductive SoapyError where
  | streamError | corruption | overflow
  deriving DecidableEq, Repr

/-- What an `RxStream` has received, the samples it hands out, and what it
expects. -/
structure RxStream where
  input : List UInt8 := []
  samples : List IqSample := []
  sampleOffset : ℕ := 0
  expectedSequence : UInt32 := 0
  haveSequence : Bool := false
  deriving DecidableEq, Repr

namespace RxStream

/-- The state after bytes were received (`receiveBytes`). -/
def received (s : RxStream) (filled : Filled × List UInt8 × List (Arrival UInt8)) :
    RxStream :=
  { s with input := filled.2.1 }

/-- `loadFrame`, with the samples it loads. -/
def loadFrame (arrivals : List (Arrival UInt8)) (s : RxStream) :
    Outcome SoapyError (List IqSample) × RxStream × List (Arrival UInt8) :=
  let filled := Arrival.fill iqFrameHeaderSize arrivals s.input
  let s := s.received filled
  match filled.1 with
  | .waiting => (.waiting, s, filled.2.2)
  | .timedOut => (.timedOut, s, filled.2.2)
  | .failed => (.error .streamError, s, filled.2.2)
  | .enough =>
    let sequence := ofBe32 (s.input.drop 8)
    let rate := ofBe32 (s.input.drop 12)
    let count := (ofBe32 (s.input.drop 16)).toNat
    if s.input.take 4 != iqFrameMark || s.input[4]? != some 1
        || s.input[5]? != some 1 || s.input[6]? != some 0
        || s.input[7]? != some 20 || rate != 48000 || count == 0
        || decide (1048576 < count) then
      (.error .corruption, s, filled.2.2)
    else if s.haveSequence && sequence != s.expectedSequence then
      (.error .overflow, s, filled.2.2)
    else
      let frameSize := iqFrameHeaderSize + count * 8
      let filled := Arrival.fill frameSize filled.2.2 s.input
      let s := s.received filled
      match filled.1 with
      | .waiting => (.waiting, s, filled.2.2)
      | .timedOut => (.timedOut, s, filled.2.2)
      | .failed => (.error .streamError, s, filled.2.2)
      | .enough =>
        let samples := loadSamples s.input count
        (.done samples,
          { input := s.input.drop frameSize
            samples := samples
            sampleOffset := 0
            expectedSequence := sequence + 1
            haveSequence := true },
          filled.2.2)

/-- A stream is read call by call. -/
def reader : Reader UInt8 SoapyError (List IqSample) RxStream where
  buffer := input
  call := loadFrame

end RxStream

/-! ## What is read from a frame -/

/-- The header of a frame is read back, whatever comes behind it. -/
structure ReadsHeader (bytes : List UInt8) (sequence count : UInt32) :
    Prop where
  mark : bytes.take 4 = iqFrameMark
  version : bytes[4]? = some 1
  format : bytes[5]? = some 1
  high : bytes[6]? = some 0
  low : bytes[7]? = some 20
  sequence : ofBe32 (bytes.drop 8) = sequence
  rate : ofBe32 (bytes.drop 12) = 48000
  count : ofBe32 (bytes.drop 16) = count

/-- **A header is read back.** -/
theorem readsHeader (sequence count : UInt32) (more : List UInt8) :
    ReadsHeader (iqFrameHeader sequence count ++ more) sequence count where
  mark := rfl
  version := rfl
  format := rfl
  high := rfl
  low := rfl
  sequence := ofBe32_be32 sequence _
  rate := ofBe32_be32 iqSampleRate _
  count := ofBe32_be32 count _

/-- A sample is read back. -/
theorem loadSample_store (sample : IqSample) (more : List UInt8) :
    loadSample (sample.store ++ more) = sample := by
  have hi : ofLe32 (sample.store ++ more) = sample.i := by
    rw [IqSample.store, List.append_assoc]
    exact ofLe32_le32 _ _
  have hq : ofLe32 ((sample.store ++ more).drop 4) = sample.q :=
    ofLe32_le32 sample.q more
  rw [loadSample, hi, hq]

/-- The samples from one on are at their place. -/
theorem drop_storeSamples (samples : List IqSample) (more : List UInt8)
    {k : ℕ} (hk : k ≤ samples.length) :
    (samples.flatMap IqSample.store ++ more).drop (k * 8)
      = (samples.drop k).flatMap IqSample.store ++ more := by
  induction samples generalizing k with
  | nil =>
    obtain rfl : k = 0 := Nat.le_zero.mp hk
    rfl
  | cons sample samples ih =>
    cases k with
    | zero => rfl
    | succ k =>
      rw [List.flatMap_cons, List.append_assoc, Nat.succ_mul,
        Nat.add_comm (k * 8), ← List.drop_drop,
        List.drop_append_of_le_length (le_of_eq (IqSample.length_store _).symm),
        List.drop_eq_nil_of_le (le_of_eq (IqSample.length_store _)),
        List.nil_append, List.drop_succ_cons]
      exact ih (Nat.le_of_succ_le_succ hk)

/-- **The samples of a frame are read back.** -/
theorem loadSamples_encode (sequence count : UInt32) (samples : List IqSample)
    (more : List UInt8) :
    loadSamples (iqFrameHeader sequence count
        ++ samples.flatMap IqSample.store ++ more) samples.length
      = samples := by
  refine List.ext_getElem (by simp [loadSamples]) fun k hk hk' => ?_
  have hdrop : (iqFrameHeader sequence count
      ++ samples.flatMap IqSample.store ++ more).drop
        (iqFrameHeaderSize + k * 8)
      = (samples.drop k).flatMap IqSample.store ++ more := by
    rw [List.append_assoc, ← List.drop_drop,
      List.drop_append_of_le_length (le_of_eq (length_iqFrameHeader _ _).symm),
      List.drop_eq_nil_of_le (le_of_eq (length_iqFrameHeader _ _)),
      List.nil_append, drop_storeSamples _ _ hk'.le]
  simp only [loadSamples, List.getElem_map, List.getElem_range]
  rw [hdrop, List.drop_eq_getElem_cons hk', List.flatMap_cons,
    List.append_assoc, loadSample_store]

/-! ## Frames that follow each other -/

/-- **Consecutive frames**, as a publisher sends them. -/
structure IqFrame.Consecutive (frames : List IqFrame) : Prop where
  fits : ∀ frame ∈ frames, frame.Fits publisherMaxSamples
  next : frames.IsChain fun frame frame' => frame'.sequence = frame.sequence + 1

/-- What a decoder expects that has seen a frame before, or none. -/
structure IqFrame.Expected (haveSequence : Bool) (sequence : UInt32)
    (frames : List IqFrame) : Prop where
  consecutive : IqFrame.Consecutive frames
  first : haveSequence = true → ∀ frame ∈ frames.head?,
    frame.sequence = sequence

namespace IqFrame

variable {frame : IqFrame} {frames : List IqFrame} {bytes : List UInt8}

/-- A frame that fits is its header and its samples. -/
theorem encode_eq (h : frame.Fits publisherMaxSamples) :
    frame.encode = iqFrameHeader frame.sequence
        (UInt32.ofNat frame.samples.length)
      ++ frame.samples.flatMap IqSample.store := by
  have hle := h.le
  refine if_neg ?_
  rw [publisherBufferSize, iqFrameHeaderSize]
  omega

/-- The frames behind the first. -/
theorem Consecutive.tail (h : Consecutive (frame :: frames)) :
    Consecutive frames :=
  ⟨fun f hf => h.fits f (List.mem_cons_of_mem _ hf), h.next.tail⟩

/-- After a frame the next is expected. -/
theorem Expected.next {haveSequence : Bool} {sequence : UInt32}
    (h : Expected haveSequence sequence (frame :: frames)) :
    Expected true (frame.sequence + 1) frames where
  consecutive := h.consecutive.tail
  first _ next hnext := by
    cases frames with
    | nil => simp at hnext
    | cons other frames =>
      obtain rfl : other = next := by simpa using hnext
      exact (List.isChain_cons_cons.mp h.consecutive.next).1

/-- Enough bytes of frames begin with the header of the first. -/
theorem Consecutive.header (h : Consecutive frames)
    (hpre : bytes <+: frames.flatMap encode)
    (hlength : iqFrameHeaderSize ≤ bytes.length) :
    ∃ frame frames' more, frames = frame :: frames'
      ∧ bytes = iqFrameHeader frame.sequence
        (UInt32.ofNat frame.samples.length) ++ more := by
  cases frames with
  | nil =>
    obtain rfl := List.prefix_nil.mp hpre
    exact absurd hlength (by decide)
  | cons frame frames =>
    have hheader : iqFrameHeader frame.sequence
        (UInt32.ofNat frame.samples.length) <+: bytes := by
      refine List.prefix_of_prefix_length_le ?_ hpre hlength
      rw [List.flatMap_cons, encode_eq (h.fits frame (List.mem_cons_self ..)),
        List.append_assoc]
      exact List.prefix_append _ _
    obtain ⟨more, hmore⟩ := hheader
    exact ⟨frame, frames, more, rfl, hmore.symm⟩

/-- Enough bytes of frames begin with the first. -/
theorem encode_prefix (hpre : bytes <+: (frame :: frames).flatMap encode)
    (hlength : frame.encode.length ≤ bytes.length) :
    ∃ more, bytes = frame.encode ++ more := by
  have hframe : frame.encode <+: bytes := by
    refine List.prefix_of_prefix_length_le ?_ hpre hlength
    rw [List.flatMap_cons]
    exact List.prefix_append _ _
  obtain ⟨more, hmore⟩ := hframe
  exact ⟨more, hmore.symm⟩

/-- The number of samples of a frame is read back. -/
theorem Fits.count (h : frame.Fits publisherMaxSamples) :
    (UInt32.ofNat frame.samples.length).toNat = frame.samples.length := by
  have hle := h.le
  rw [publisherMaxSamples] at hle
  exact UInt32.toNat_ofNat_of_lt' (by
    rw [UInt32.size]
    omega)

/-- The samples of a frame are read back from a buffer it begins. -/
theorem loadSamples_of_encode (h : frame.Fits publisherMaxSamples)
    (more : List UInt8) :
    loadSamples (frame.encode ++ more) frame.samples.length
      = frame.samples := by
  rw [encode_eq h]
  exact loadSamples_encode _ _ _ _

end IqFrame

/-! ## Both decoders decode -/

/-- **The two stages of a decoder** on a buffer: it is filled up to the end
of a header, and then of the frame. -/
structure IqFrame.Stage (frames : List IqFrame) (required : ℕ)
    (arrivals : List (Arrival UInt8)) (buffer : List UInt8)
    (filled : Filled × List UInt8 × List (Arrival UInt8)) : Prop where
  consecutive : IqFrame.Consecutive frames
  bytes : buffer ++ Arrival.bytes arrivals <+: frames.flatMap IqFrame.encode
  fills : Arrival.Fills required arrivals buffer filled
  required : ∀ frame ∈ frames.head?, required ≤ frame.encode.length

namespace IqFrame.Stage

variable {frame : IqFrame} {frames : List IqFrame} {required : ℕ}
  {arrivals : List (Arrival UInt8)} {buffer : List UInt8}
  {filled : Filled × List UInt8 × List (Arrival UInt8)}

/-- The buffer begins the bytes of the frames. -/
theorem prefix_bytes (h : Stage frames required arrivals buffer filled) :
    filled.2.1 <+: frames.flatMap encode := by
  have hall := h.bytes
  rw [← h.fills.bytes] at hall
  exact (List.prefix_append _ _).trans hall

/-- Where it waits, it has everything and no frame yet. -/
theorem waiting (h : Stage frames required arrivals buffer filled)
    (hwaiting : filled.1 = .waiting) :
    filled.2.2 = [] ∧ buffer ++ Arrival.bytes arrivals = filled.2.1
      ∧ ∀ frame ∈ frames.head?, filled.2.1.length < frame.encode.length := by
  obtain ⟨hnone, hshort⟩ := h.fills.waiting hwaiting
  have hall := h.fills.bytes
  rw [hnone, Arrival.bytes, List.append_nil] at hall
  exact ⟨hnone, hall.symm, fun frame hframe =>
    hshort.trans_le (h.required frame hframe)⟩

/-- The stage of the header comes first. -/
theorem header {arrivals : List (Arrival UInt8)} {buffer : List UInt8}
    (hconsecutive : Consecutive frames)
    (hbytes : buffer ++ Arrival.bytes arrivals <+: frames.flatMap encode) :
    Stage frames iqFrameHeaderSize arrivals buffer
      (Arrival.fill iqFrameHeaderSize arrivals buffer) where
  consecutive := hconsecutive
  bytes := hbytes
  fills := Arrival.fills_fill _ _ _
  required frame hframe := by
    rw [length_encode (hconsecutive.fits frame (List.mem_of_mem_head? hframe))
      le_rfl]
    exact Nat.le_add_right _ _

/-- The header of the first frame is read back, and the number of its
samples, which is not much. -/
theorem reads (h : Stage frames iqFrameHeaderSize arrivals buffer filled)
    (henough : filled.1 = .enough) :
    ∃ frame frames', frames = frame :: frames'
      ∧ frame.Fits publisherMaxSamples
      ∧ ReadsHeader filled.2.1 frame.sequence
        (UInt32.ofNat frame.samples.length)
      ∧ (ofBe32 (filled.2.1.drop 16)).toNat = frame.samples.length := by
  obtain ⟨frame, frames', more, rfl, hheader⟩ :=
    h.consecutive.header h.prefix_bytes (h.fills.enough henough)
  have hfits := h.consecutive.fits frame (List.mem_cons_self ..)
  have hreads := readsHeader frame.sequence
    (UInt32.ofNat frame.samples.length) more
  refine ⟨frame, frames', rfl, hfits, hheader ▸ hreads, ?_⟩
  rw [hheader, hreads.count, hfits.count]

/-- The stage of the frame comes second. -/
theorem second {count : ℕ} (h : Stage (frame :: frames) iqFrameHeaderSize
      arrivals buffer filled) (hcount : count = frame.samples.length) :
    Stage (frame :: frames) (iqFrameHeaderSize + count * 8) filled.2.2
      filled.2.1 (Arrival.fill (iqFrameHeaderSize + count * 8) filled.2.2
        filled.2.1) where
  consecutive := h.consecutive
  bytes := by
    rw [h.fills.bytes]
    exact h.bytes
  fills := Arrival.fills_fill _ _ _
  required other hother := by
    obtain rfl : frame = other := by simpa using hother
    rw [length_encode (h.consecutive.fits frame (List.mem_cons_self ..))
      le_rfl, hcount]

/-- The samples of the frame are read back, and its bytes taken out of the
buffer. -/
theorem loads {count : ℕ} (h : Stage (frame :: frames)
      (iqFrameHeaderSize + count * 8) arrivals buffer filled)
    (hcount : count = frame.samples.length) (henough : filled.1 = .enough) :
    loadSamples filled.2.1 count = frame.samples
      ∧ buffer ++ Arrival.bytes arrivals
        = frame.encode ++ (filled.2.1.drop (iqFrameHeaderSize + count * 8)
          ++ Arrival.bytes filled.2.2) := by
  subst hcount
  have hfits := h.consecutive.fits frame (List.mem_cons_self ..)
  have hlength := length_encode hfits le_rfl
  obtain ⟨more, hmore⟩ := encode_prefix h.prefix_bytes
    (hlength ▸ h.fills.enough henough)
  refine ⟨hmore ▸ loadSamples_of_encode hfits more, ?_⟩
  rw [← h.fills.bytes, hmore, ← hlength, List.drop_left, List.append_assoc]

end IqFrame.Stage

/-- A frame in its turn is not taken for a lost one. -/
theorem IqFrame.Expected.not_lost {haveSequence : Bool} {sequence : UInt32}
    {frame : IqFrame} {frames : List IqFrame}
    (h : IqFrame.Expected haveSequence sequence (frame :: frames)) :
    (haveSequence && frame.sequence != sequence) = false := by
  by_cases hhave : haveSequence = true
  · simp [h.first hhave frame rfl]
  · simp [hhave]

namespace IqStream

/-- What a stream expects. -/
def Expects (s : IqStream) (frames : List IqFrame) : Prop :=
  IqFrame.Expected s.haveSequence s.expectedSequence frames

/-- Arrivals at a socket without a time limit. -/
def Good (arrival : Arrival UInt8) : Prop :=
  arrival.Lasts ∧ arrival ≠ .timeout

/-- A header that is read back is valid. -/
theorem invalidHeader_of_reads {bytes : List UInt8} {sequence count : UInt32}
    (h : ReadsHeader bytes sequence count) : invalidHeader bytes = false := by
  simp [invalidHeader, h.mark, h.version, h.format, h.high, h.low, h.rate]

/-- **`IqStream` decodes**: every call returns the samples of the next frame,
or waits. -/
theorem decodes_reader :
    reader.Decodes IqFrame.encode IqFrame.samples Good Expects := by
  intro arrivals s frames hgood hexpects hbytes
  have hheader := IqFrame.Stage.header hexpects.consecutive hbytes
  have hlasts (arrival) (hmem : arrival ∈ arrivals) : arrival.Lasts :=
    (hgood arrival hmem).1
  change Reader.Takes reader _ _ _ arrivals s frames (readFrame arrivals s)
  unfold readFrame
  extract_lets filled s' sequence count bytes filled' s''
  change IqFrame.Stage frames iqFrameHeaderSize arrivals s.pending filled
    at hheader
  split
  · rename_i hwaiting
    obtain ⟨hnone, hall, hshort⟩ := hheader.waiting hwaiting
    rw [hnone]
    exact .waiting hall hexpects hshort
  · rename_i hout
    have hmem := (hheader.fills.timedOut hout).subset (List.mem_cons_self ..)
    exact absurd rfl (hgood _ hmem).2
  · rename_i hfailed
    exact absurd hfailed (hheader.fills.failed hlasts)
  rename_i henough
  obtain ⟨frame, frames, rfl, hfits, hreads, hcount⟩ := hheader.reads henough
  have hle := hfits.le
  have hmax : publisherMaxSamples = 256 := rfl
  have hnumber : sequence = frame.sequence := hreads.sequence
  change count = frame.samples.length at hcount
  have hframe := hheader.second hcount
  change IqFrame.Stage _ bytes filled.2.2 filled.2.1 filled' at hframe
  -- a frame of the publisher passes every check of its header
  have hvalid : invalidHeader s'.pending = false :=
    invalidHeader_of_reads hreads
  rw [hvalid, if_neg Bool.false_ne_true, if_neg (by omega)]
  have hall := hheader.fills.bytes
  split
  · rename_i hwaiting
    obtain ⟨hnone, hall', hshort⟩ := hframe.waiting hwaiting
    rw [hnone]
    exact .waiting (hall.symm.trans hall') hexpects hshort
  · rename_i hout
    have hmem := (hframe.fills.timedOut hout).subset (List.mem_cons_self ..)
    exact absurd rfl (hgood _ (hheader.fills.rest.subset hmem)).2
  · rename_i hfailed
    refine absurd hfailed (hframe.fills.failed fun arrival hmem => ?_)
    exact hlasts arrival (hheader.fills.rest.subset hmem)
  rename_i henough'
  have hfound : (s''.haveSequence && sequence != s''.expectedSequence)
      = false := hnumber ▸ hexpects.not_lost
  rw [hfound, if_neg Bool.false_ne_true]
  obtain ⟨hsamples, htaken⟩ := hframe.loads hcount henough'
  rw [show loadSamples s''.pending count = frame.samples from hsamples,
    hnumber]
  exact .done (hall.symm.trans htaken) hexpects.next
    (hframe.fills.rest.trans hheader.fills.rest)

end IqStream

namespace RxStream

/-- What a stream expects. -/
def Expects (s : RxStream) (frames : List IqFrame) : Prop :=
  IqFrame.Expected s.haveSequence s.expectedSequence frames

/-- **`RxStream` decodes**: every call loads the samples of the next frame,
or waits, or gives up for the time being. -/
theorem decodes_reader :
    reader.Decodes IqFrame.encode IqFrame.samples Arrival.Lasts Expects := by
  intro arrivals s frames hlasts hexpects hbytes
  have hheader := IqFrame.Stage.header hexpects.consecutive hbytes
  change Reader.Takes reader _ _ _ arrivals s frames (loadFrame arrivals s)
  unfold loadFrame
  extract_lets filled s' sequence rate count frameSize filled' s'' samples
  change IqFrame.Stage frames iqFrameHeaderSize arrivals s.input filled
    at hheader
  have hall := hheader.fills.bytes
  split
  · rename_i hwaiting
    obtain ⟨hnone, hall', hshort⟩ := hheader.waiting hwaiting
    rw [hnone]
    exact .waiting hall' hexpects hshort
  · rename_i hout
    exact .timedOut hall.symm hexpects (hheader.fills.timedOut hout)
  · rename_i hfailed
    exact absurd hfailed (hheader.fills.failed hlasts)
  rename_i henough
  obtain ⟨frame, frames, rfl, hfits, hreads, hcount⟩ := hheader.reads henough
  have hpos := hfits.pos
  have hle := hfits.le
  have hmax : publisherMaxSamples = 256 := rfl
  have hnumber : sequence = frame.sequence := hreads.sequence
  change count = frame.samples.length at hcount
  have hframe := hheader.second hcount
  change IqFrame.Stage _ frameSize filled.2.2 filled.2.1 filled' at hframe
  have hvalid : (s'.input.take 4 != iqFrameMark || s'.input[4]? != some 1
      || s'.input[5]? != some 1 || s'.input[6]? != some 0
      || s'.input[7]? != some 20 || rate != 48000 || count == 0
      || decide (1048576 < count)) = false := by
    have hinput : s'.input = filled.2.1 := rfl
    have hrate : rate = 48000 := hreads.rate
    rw [hinput, hreads.mark, hreads.version, hreads.format, hreads.high,
      hreads.low, hrate, decide_eq_false (by omega),
      beq_false_of_ne (show count ≠ 0 by omega)]
    rfl
  have hfound : (s'.haveSequence && sequence != s'.expectedSequence)
      = false := hnumber ▸ hexpects.not_lost
  rw [hvalid, hfound, if_neg Bool.false_ne_true, if_neg Bool.false_ne_true]
  split
  · rename_i hwaiting
    obtain ⟨hnone, hall', hshort⟩ := hframe.waiting hwaiting
    rw [hnone]
    exact .waiting (hall.symm.trans hall') hexpects hshort
  · rename_i hout
    exact .timedOut (hall.symm.trans hframe.fills.bytes.symm) hexpects
      ((hframe.fills.timedOut hout).trans hheader.fills.rest)
  · rename_i hfailed
    refine absurd hfailed (hframe.fills.failed fun arrival hmem => ?_)
    exact hlasts arrival (hheader.fills.rest.subset hmem)
  rename_i henough'
  obtain ⟨hsamples, htaken⟩ := hframe.loads hcount henough'
  rw [show samples = frame.samples from hsamples, hnumber]
  exact .done (hall.symm.trans htaken) hexpects.next
    (hframe.fills.rest.trans hheader.fills.rest)

end RxStream

/-! ## The resampler accepts frames -/

namespace RtlTcpResampler

variable {kernel : RtlKernel} {r : RtlTcpResampler} {frame : IqFrame}

/-- The header and the samples of a frame are those of its encoding. -/
theorem parse_encode (h : frame.Fits publisherMaxSamples) :
    parse frame.encode = some frame.samples := by
  have hle := h.le
  have hmax : publisherMaxSamples = 256 := rfl
  have hlength := IqFrame.length_encode h le_rfl
  have hreads : ReadsHeader frame.encode frame.sequence
      (UInt32.ofNat frame.samples.length) := by
    rw [IqFrame.encode_eq h]
    exact readsHeader _ _ _
  have hsamples := IqFrame.loadSamples_of_encode h []
  rw [List.append_nil] at hsamples
  unfold parse
  extract_lets count
  have hcount : count = frame.samples.length := by
    dsimp only [count]
    rw [hreads.count, h.count]
  rw [if_neg, if_neg, hcount, hsamples]
  · rw [hcount, hlength]
    omega
  · rintro (hno | hno | hno | hno)
    · rw [hlength] at hno
      omega
    · exact hno hreads.mark
    · exact hno hreads.version
    · exact hno hreads.format

/-- **A resampler in step**: its rate is one a client may set, and it is no
further than one input sample ahead. -/
structure Steady (r : RtlTcpResampler) : Prop where
  low : rtlTcpInputRate ≤ r.outputRate
  high : r.outputRate ≤ rtlTcpMaxRate
  phase : r.phaseNumerator < rtlTcpInputRate

/-- A resampler that was reset is in step. -/
theorem steady_reset {rate : ℕ} (hlow : rtlTcpInputRate ≤ rate)
    (hhigh : rate ≤ rtlTcpMaxRate) : (reset rate).Steady :=
  ⟨hlow, hhigh, Nat.zero_lt_succ _⟩

/-- Every pair put out takes the phase one input period further. -/
structure InPhase (start blockSpan : ℕ) (output : List UInt8)
    (r : RtlTcpResampler) : Prop where
  even : Even output.length
  phase : output.length * 24000 + start = r.phaseNumerator
  ahead : r.phaseNumerator < blockSpan + rtlTcpInputRate

/-- **The loop runs to the end of the block**, with room for all its
pairs. -/
theorem produce_inPhase (kernel : RtlKernel) (currentI currentQ : List UInt32)
    {start blockSpan turns : ℕ} {output : List UInt8}
    (h : InPhase start blockSpan output r)
    (hspan : blockSpan ≤ rtlPendingSize * 24000)
    (hturns : blockSpan ≤ r.phaseNumerator + turns * rtlTcpInputRate) :
    let produced := produce kernel currentI currentQ blockSpan rtlPendingSize
      turns output r
    ∃ bytes, produced.1 = some bytes
      ∧ InPhase start blockSpan bytes produced.2
      ∧ blockSpan ≤ produced.2.phaseNumerator := by
  induction turns generalizing output r with
  | zero =>
    rw [Nat.zero_mul, Nat.add_zero] at hturns
    exact ⟨output, rfl, h, hturns⟩
  | succ turns ih =>
    have hinput : rtlTcpInputRate = 48000 := rfl
    have hsize : rtlPendingSize = 32768 := rfl
    obtain ⟨heven, hphase, hahead⟩ := h
    unfold produce
    by_cases hend : blockSpan ≤ r.phaseNumerator
    · rw [if_pos hend]
      exact ⟨output, rfl, ⟨heven, hphase, hahead⟩, hend⟩
    have hroom : ¬ rtlPendingSize < output.length + 2 := by
      obtain ⟨half, hhalf⟩ := heven
      omega
    rw [if_neg hend, if_neg hroom]
    have hemitted : (emit kernel currentI currentQ r).2.phaseNumerator
        = r.phaseNumerator + rtlTcpInputRate := rfl
    have hpair : (output ++ (emit kernel currentI currentQ r).1).length
        = output.length + 2 := by
      rw [List.length_append]
      rfl
    have hmore := Nat.add_one_mul turns rtlTcpInputRate
    have hnext : InPhase start blockSpan
        (output ++ (emit kernel currentI currentQ r).1)
        (emit kernel currentI currentQ r).2 := by
      constructor
      · simpa only [hpair] using heven.add even_two
      · simp only [hpair, hemitted]
        linarith
      · simp only [hemitted]
        omega
    refine ih hnext ?_
    simp only [hemitted]
    omega

/-- What the loop makes of the samples of a frame, with Q negated. -/
def block (kernel : RtlKernel) (samples : List IqSample)
    (r : RtlTcpResampler) : Option (List UInt8) × RtlTcpResampler :=
  produce kernel (samples.map (·.i)) (samples.map (negateF32 ·.q))
    (samples.length * r.outputRate) rtlPendingSize
    (samples.length * r.outputRate / rtlTcpInputRate + 1) [] r

/-- **A frame is accepted**: it is not rejected, and what is put out and
kept is made of its samples, with Q negated. -/
structure Accepts (kernel : RtlKernel) (r : RtlTcpResampler)
    (frame : IqFrame) : Prop where
  accepted : (r.resampleIq kernel frame.encode rtlPendingSize).1 ≠ []
  output : (r.block kernel frame.samples).1
    = some (r.resampleIq kernel frame.encode rtlPendingSize).1
  historyI : (r.resampleIq kernel frame.encode rtlPendingSize).2.historyI
    = keep r.historyI (frame.samples.map (·.i))
  historyQ : (r.resampleIq kernel frame.encode rtlPendingSize).2.historyQ
    = keep r.historyQ (frame.samples.map (negateF32 ·.q))

/-- A resampler in step has room for the pairs of a block, and each of them
takes the phase further. -/
theorem Steady.inPhase (h : r.Steady) (kernel : RtlKernel)
    {samples : List IqSample} (hpos : 1 ≤ samples.length)
    (hle : samples.length ≤ publisherMaxSamples) :
    ∃ bytes, (r.block kernel samples).1 = some bytes
      ∧ InPhase r.phaseNumerator (samples.length * r.outputRate) bytes
        (r.block kernel samples).2
      ∧ samples.length * r.outputRate
        ≤ (r.block kernel samples).2.phaseNumerator := by
  obtain ⟨hlow, hhigh, hphase⟩ := h
  have hinput : rtlTcpInputRate = 48000 := rfl
  have hlong : 1 * rtlTcpInputRate ≤ samples.length * r.outputRate :=
    Nat.mul_le_mul hpos hlow
  have hspan : samples.length * r.outputRate
      ≤ publisherMaxSamples * rtlTcpMaxRate := Nat.mul_le_mul hle hhigh
  have hstart : InPhase r.phaseNumerator (samples.length * r.outputRate) [] r :=
    ⟨⟨0, rfl⟩, by simp, by omega⟩
  have hturns := Nat.div_add_mod (samples.length * r.outputRate)
    rtlTcpInputRate
  have hrest := Nat.mod_lt (samples.length * r.outputRate)
    (show 0 < rtlTcpInputRate by omega)
  have hmore := Nat.add_one_mul
    (samples.length * r.outputRate / rtlTcpInputRate) rtlTcpInputRate
  have hcomm := Nat.mul_comm rtlTcpInputRate
    (samples.length * r.outputRate / rtlTcpInputRate)
  have henough : samples.length * r.outputRate ≤ r.phaseNumerator
      + (samples.length * r.outputRate / rtlTcpInputRate + 1)
        * rtlTcpInputRate := by
    omega
  exact produce_inPhase kernel (samples.map (·.i))
    (samples.map (negateF32 ·.q)) hstart (hspan.trans (by decide)) henough

/-- A resampler in step puts out some pairs of every block, and ends less
than an input period behind it. -/
theorem Steady.block (h : r.Steady) (kernel : RtlKernel)
    {samples : List IqSample}
    (hpos : 1 ≤ samples.length) (hle : samples.length ≤ publisherMaxSamples) :
    ∃ bytes, (r.block kernel samples).1 = some bytes ∧ bytes ≠ []
      ∧ (r.block kernel samples).2.outputRate = r.outputRate
      ∧ samples.length * r.outputRate
        ≤ (r.block kernel samples).2.phaseNumerator
      ∧ (r.block kernel samples).2.phaseNumerator
        < samples.length * r.outputRate + rtlTcpInputRate := by
  obtain ⟨bytes, hbytes, hdone, hend⟩ := h.inPhase kernel hpos hle
  have hlong : 1 * rtlTcpInputRate ≤ samples.length * r.outputRate :=
    Nat.mul_le_mul hpos h.low
  have hphase := h.phase
  have hahead := hdone.ahead
  have hcount := hdone.phase
  refine ⟨bytes, hbytes, fun hnil => ?_,
    (produce_pairs _ _ _ _ _ _ ⟨0, rfl⟩).2, hend, hahead⟩
  rw [hnil, List.length_nil] at hcount
  omega

/-- A frame that is not rejected: what is put out, and what is kept. -/
theorem resampleIq_of_block {bytes : List UInt8}
    (hlow : rtlTcpInputRate ≤ r.outputRate)
    (hfits : frame.Fits publisherMaxSamples)
    (hbytes : (r.block kernel frame.samples).1 = some bytes) :
    r.resampleIq kernel frame.encode rtlPendingSize
      = (bytes,
        { (r.block kernel frame.samples).2 with
          phaseNumerator := (r.block kernel frame.samples).2.phaseNumerator
            - frame.samples.length * r.outputRate
          inputSamples :=
            r.inputSamples + UInt64.ofNat frame.samples.length
          historyI := keep r.historyI (frame.samples.map (·.i))
          historyQ := keep r.historyQ
            (frame.samples.map (negateF32 ·.q)) }) := by
  rw [RtlTcpResampler.block] at hbytes
  rw [resampleIq, if_neg (not_lt.mpr hlow), parse_encode hfits]
  dsimp only
  rw [hbytes]
  rfl

/-- **A resampler in step accepts a frame**, and stays in step. -/
theorem Steady.accepts (h : r.Steady) (hfits : frame.Fits publisherMaxSamples) :
    Accepts kernel r frame
      ∧ (r.resampleIq kernel frame.encode rtlPendingSize).2.Steady := by
  obtain ⟨bytes, hbytes, hsome, hrate, hend, hahead⟩ :=
    h.block kernel hfits.pos hfits.le
  have hphase := Nat.sub_lt_left_of_lt_add hend hahead
  have hall := resampleIq_of_block h.low hfits hbytes
  refine ⟨⟨?_, ?_, ?_, ?_⟩, ?_⟩
  · rw [hall]
    exact hsome
  · rw [hall]
    exact hbytes
  · rw [hall]
  · rw [hall]
  · rw [hall]
    exact ⟨hrate.symm ▸ h.low, hrate.symm ▸ h.high, hphase⟩

/-- Frames resampled one after the other keep a resampler in step. -/
theorem Steady.resampleAll (h : r.Steady) {frames : List IqFrame}
    (hfits : ∀ frame ∈ frames, frame.Fits publisherMaxSamples) :
    (resampleAll kernel (frames.map IqFrame.encode) r).2.Steady := by
  induction frames using List.reverseRecOn with
  | nil => exact h
  | append_singleton frames frame ih =>
    rw [List.map_append, List.map_singleton, resampleAll_append]
    exact (Steady.accepts (ih fun f hf => hfits f (List.mem_append_left _ hf))
      (hfits frame (by simp))).2

end RtlTcpResampler

/-! ## One format -/

/-- **One format**: all three decoders recover the frames from what is
encoded. -/
structure IqFrame.Decoded (kernel : RtlKernel) (frames : List IqFrame) :
    Prop where
  /-- An `IqStream` on a new connection, however the bytes arrive. -/
  client : ∀ n (arrivals : List (Arrival UInt8)) (s : IqStream),
    s.haveSequence = false →
    (∀ arrival ∈ arrivals, IqStream.Good arrival) →
    IqStream.reader.bytes s arrivals <+: frames.flatMap IqFrame.encode →
    ∃ k, Reader.Recovers IqStream.reader IqFrame.encode IqFrame.samples
      (IqStream.reader.bytes s arrivals) frames
      (arrivals.countP (·.isTimeout)) (IqStream.reader.calls n arrivals s) k
  /-- An `RxStream` on a new connection, however often it gives up and goes
  on. -/
  soapy : ∀ n (arrivals : List (Arrival UInt8)) (s : RxStream),
    s.haveSequence = false → (∀ arrival ∈ arrivals, arrival.Lasts) →
    RxStream.reader.bytes s arrivals <+: frames.flatMap IqFrame.encode →
    ∃ k, Reader.Recovers RxStream.reader IqFrame.encode IqFrame.samples
      (RxStream.reader.bytes s arrivals) frames
      (arrivals.countP (·.isTimeout)) (RxStream.reader.calls n arrivals s) k
  /-- A resampler that was reset, frame by frame. -/
  rtlTcp : ∀ rate, rtlTcpInputRate ≤ rate → rate ≤ rtlTcpMaxRate →
    ∀ before frame after, frames = before ++ frame :: after →
    RtlTcpResampler.parse frame.encode = some frame.samples
      ∧ RtlTcpResampler.Accepts kernel
        (RtlTcpResampler.resampleAll kernel (before.map IqFrame.encode)
          (.reset rate)).2 frame

/-- **One wire format, one encoder and three decoders**: whatever the samples
of consecutive frames are, and however their bytes are split on the way,
`IqStream` and `RxStream` return exactly these samples, in order and without
an error, and take exactly the bytes of each frame; and the `rtl_tcp`
resampler accepts every one of them, and reads the same samples with Q
negated. -/
theorem IqFrame.decoded_of_consecutive (kernel : RtlKernel)
    {frames : List IqFrame} (h : IqFrame.Consecutive frames) :
    IqFrame.Decoded kernel frames where
  client n _ s hnew hgood hbytes :=
    IqStream.decodes_reader.recovers n hgood
      (⟨h, fun hhave => by simp [hnew] at hhave⟩ : s.Expects frames) hbytes
  soapy n _ s hnew hlasts hbytes :=
    RxStream.decodes_reader.recovers n hlasts
      (⟨h, fun hhave => by simp [hnew] at hhave⟩ : s.Expects frames) hbytes
  rtlTcp rate hlow hhigh before frame after hframes := by
    have hfits := h.fits frame (by simp [hframes])
    have hbefore (f) (hf : f ∈ before) : f.Fits publisherMaxSamples :=
      h.fits f (by
        rw [hframes]
        exact List.mem_append_left _ hf)
    have hsteady : (RtlTcpResampler.resampleAll kernel
        (before.map IqFrame.encode) (.reset rate)).2.Steady :=
      (RtlTcpResampler.steady_reset hlow hhigh).resampleAll hbefore
    exact ⟨RtlTcpResampler.parse_encode hfits, (hsteady.accepts hfits).1⟩

/-- Two frames whose numbers wrap around. -/
theorem IqFrame.decoded_of_consecutive_wrapped :
    IqFrame.Decoded .silent
      [{ sequence := 0xffffffff, samples := [⟨0x7fc00000, 0x80000000⟩] },
        { sequence := 0, samples := [⟨1, 2⟩, ⟨3, 4⟩] }] :=
  IqFrame.decoded_of_consecutive .silent
    { fits := by
        intro frame hframe
        rcases List.mem_cons.mp hframe with rfl | hframe
        · exact ⟨by decide, by decide⟩
        · obtain rfl := List.mem_singleton.mp hframe
          exact ⟨by decide, by decide⟩
      next := by decide }

/-! ## From the daemon to its clients -/

/-- **What a publisher encodes is consecutive**, from any frame on. -/
theorem IqPublisher.Sound.consecutive {p : IqPublisher} (h : p.Sound)
    (k : ℕ) : IqFrame.Consecutive (p.frames.drop k) where
  fits frame hframe := by
    have hfits := h.fits frame (List.mem_of_mem_drop hframe)
    exact ⟨hfits.pos, hfits.le.trans p.samples_le⟩
  next := by
    rw [List.isChain_iff_getElem]
    intro i hi
    have hlength : k + (i + 1) < p.frames.length := by
      rw [List.length_drop] at hi
      omega
    rw [List.getElem_drop, List.getElem_drop, h.sequences _ hlength,
      h.sequences _ (by omega), ← Nat.add_assoc, UInt32.ofNat_add]
    rfl

/-- **End to end**: whatever happened at the daemon, a client of the stream
that is read with an `IqStream` gets the samples of the publisher's frames,
from the one on that it came at, as far as they were sent to it. -/
theorem Receive.Sound.decoded {r : Receive} (h : r.Sound)
    {i : Fin maxIqClients} {client : IqClient}
    (hlive : r.clients.slots i = some client) (n : ℕ)
    {arrivals : List (Arrival UInt8)} {s : IqStream}
    (hnew : s.haveSequence = false)
    (hgood : ∀ arrival ∈ arrivals, IqStream.Good arrival)
    (hbytes : IqStream.reader.bytes s arrivals = client.received) :
    ∃ k, Reader.Recovers IqStream.reader IqFrame.encode IqFrame.samples
      client.received (r.publisher.frames.drop client.joined)
      (arrivals.countP (·.isTimeout)) (IqStream.reader.calls n arrivals s)
      k := by
  have hreads := (h.live i client hlive).reads h.publisher
  have hexpects : s.Expects (r.publisher.frames.drop client.joined) :=
    ⟨h.publisher.consecutive client.joined, fun hhave => by simp [hnew] at hhave⟩
  rw [← hbytes]
  exact IqStream.decodes_reader.recovers n hgood hexpects
    (hbytes ▸ hreads.received)
