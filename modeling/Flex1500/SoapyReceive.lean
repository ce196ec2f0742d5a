import Flex1500.IqDecoders

/-!
# Reading a Soapy stream

`readStream` hands out the samples of one frame call by call and loads the
next frame where the last is used up. A frame whose sequence number is not
the one that was expected is a lost frame to it: it reports an overflow.

What it reports changes nothing. The bytes of the frame behind the gap stay
at the front of the input and the number it expects stays the old one, so
that the next call finds the same header and reports the same gap. No reader
gets past a gap, and every sample that came before one is delivered.

The floats are those of the host and nothing here computes with them. Frames
are all those a stream takes, up to 1048576 samples, not only those that a
publisher sends.
-/

open ByteOrder

/-! ## Samples handed out -/

/-- What a stream does with floats, and with the phase of the oscillator
that moves the samples to where the receiver listens. -/
structure SoapyFloats (F Φ : Type*) where
  /-- `f32le`, of four bytes taken as a number. -/
  f32 : UInt32 → F
  neg : F → F
  toS16 : F → Int16
  /-- A sample times the oscillator. -/
  rotate : Φ → F × F → F × F
  /-- The phase of the next sample. -/
  advance : Φ → Φ

/-- The formats of a stream. -/
inductive SoapyFormat where
  | cf32 | cs16
  deriving DecidableEq, Repr

/-- What a stream writes for one sample. -/
inductive SoapyElement (F : Type*) where
  | cf32 (re im : F)
  | cs16 (re im : Int16)
  deriving DecidableEq, Repr

/-- How a stream writes: its floats, its format, and whether the receiver
listens away from the center (`rxOffsetHz_ != 0.0`). -/
structure SoapyOutput (F Φ : Type*) where
  floats : SoapyFloats F Φ
  format : SoapyFormat
  offset : Bool

namespace SoapyOutput

variable {F Φ : Type*} (out : SoapyOutput F Φ)

/-- A sample as it is written, and the phase behind it. -/
def element (phase : Φ) (sample : IqSample) : SoapyElement F × Φ :=
  let loaded := (out.floats.f32 sample.i, out.floats.f32 sample.q)
  let mixed := if out.offset then out.floats.rotate phase loaded else loaded
  let next := if out.offset then out.floats.advance phase else phase
  match out.format with
  | .cf32 => (.cf32 mixed.1 (out.floats.neg mixed.2), next)
  | .cs16 =>
    (.cs16 (out.floats.toS16 mixed.1)
      (out.floats.toS16 (out.floats.neg mixed.2)), next)

/-- Samples as they are written, and the phase behind them. -/
def elements : Φ → List IqSample → List (SoapyElement F) × Φ
  | phase, [] => ([], phase)
  | phase, sample :: samples =>
    let written := out.element phase sample
    let rest := elements written.2 samples
    (written.1 :: rest.1, rest.2)

/-- One element for each sample. -/
@[simp] theorem length_elements (phase : Φ) (samples : List IqSample) :
    (out.elements phase samples).1.length = samples.length := by
  induction samples generalizing phase with
  | nil => rfl
  | cons sample samples ih => exact congrArg (· + 1) (ih _)

/-- **Writing goes on**: samples behind others are written from the phase
those left. -/
theorem elements_append (phase : Φ) (samples more : List IqSample) :
    out.elements phase (samples ++ more) =
      ((out.elements phase samples).1
          ++ (out.elements (out.elements phase samples).2 more).1,
        (out.elements (out.elements phase samples).2 more).2) := by
  induction samples generalizing phase with
  | nil => rfl
  | cons sample samples ih =>
    rw [List.cons_append, elements, ih (out.element phase sample).2]
    rfl

end SoapyOutput

/-! ## The stream -/

/-- A stream and the phase of the device it belongs to. -/
structure SoapyReceiver (Φ : Type*) where
  stream : RxStream := {}
  active : Bool := false
  rxPhase : Φ
  deriving DecidableEq, Repr

/-- What a successful call returns: what it wrote, and whether more of the
frame is left (`SOAPY_SDR_MORE_FRAGMENTS`). -/
structure SoapyRead (F : Type*) where
  elements : List (SoapyElement F)
  moreFragments : Bool
  deriving DecidableEq, Repr

namespace SoapyReceiver

variable {F Φ : Type*} (out : SoapyOutput F Φ)

/-- A stream that `activateStream` has just connected: what came with the
header of the reply is its input. -/
def activated (body : List UInt8) (phase : Φ) : SoapyReceiver Φ where
  stream := { input := body }
  active := true
  rxPhase := phase

/-- The part of `readStream` behind the loading of a frame. -/
def hand (numElems : ℕ) (r : SoapyReceiver Φ) :
    SoapyRead F × SoapyReceiver Φ :=
  let waiting := r.stream.samples.drop r.stream.sampleOffset
  let count := min numElems (r.stream.samples.length - r.stream.sampleOffset)
  let written := out.elements r.rxPhase (waiting.take count)
  let offset := r.stream.sampleOffset + count
  ({ elements := written.1
     moreFragments := decide (offset < r.stream.samples.length) },
    { r with
      stream := { r.stream with sampleOffset := offset }
      rxPhase := written.2 })

/-- `readStream`, given a buffer. -/
def readStream (numElems : ℕ) (arrivals : List (Arrival UInt8))
    (r : SoapyReceiver Φ) :
    Outcome SoapyError (SoapyRead F) × SoapyReceiver Φ
      × List (Arrival UInt8) :=
  if !r.active then (.timedOut, r, arrivals)
  else if r.stream.sampleOffset = r.stream.samples.length then
    let loaded := r.stream.loadFrame arrivals
    let r := { r with stream := loaded.2.1 }
    match loaded.1 with
    | .done _ =>
      let handed := hand out numElems r
      (.done handed.1, handed.2, loaded.2.2)
    | .waiting => (.waiting, r, loaded.2.2)
    | .timedOut => (.timedOut, r, loaded.2.2)
    | .error reason => (.error reason, r, loaded.2.2)
  else
    let handed := hand out numElems r
    (.done handed.1, handed.2, arrivals)

/-- Calls one after the other, each for so many elements. -/
def reads : List ℕ → List (Arrival UInt8) → SoapyReceiver Φ →
    List (Outcome SoapyError (SoapyRead F)) × SoapyReceiver Φ
  | [], _, r => ([], r)
  | numElems :: sizes, arrivals, r =>
    let read := readStream out numElems arrivals r
    let rest := reads sizes read.2.2 read.2.1
    (read.1 :: rest.1, rest.2)

end SoapyReceiver

/-- What calls delivered. -/
def Outcome.delivered {F : Type*} :
    List (Outcome SoapyError (SoapyRead F)) → List (SoapyElement F)
  | [] => []
  | .done read :: outcomes => read.elements ++ Outcome.delivered outcomes
  | _ :: outcomes => Outcome.delivered outcomes

/-- Whether a call reported a gap. -/
def Outcome.isOverflow {β : Type*} : Outcome SoapyError β → Bool
  | .error .overflow => true
  | _ => false

/-! ## Streams of frames -/

namespace IqFrame

/-- **A well-formed frame**: as many samples as a stream takes. -/
structure WellFormed (frame : IqFrame) : Prop where
  pos : 1 ≤ frame.samples.length
  le : frame.samples.length ≤ 1048576

/-- The bytes of a well-formed frame. -/
def wire (frame : IqFrame) : List UInt8 :=
  iqFrameHeader frame.sequence (UInt32.ofNat frame.samples.length)
    ++ frame.samples.flatMap IqSample.store

theorem length_wire (frame : IqFrame) :
    frame.wire.length = iqFrameHeaderSize + frame.samples.length * 8 := by
  rw [wire, List.length_append, length_iqFrameHeader, length_storeSamples]

/-- Whether a frame is the one expected, where one is. -/
def Follows (expected : Option UInt32) (frame : IqFrame) : Prop :=
  ∀ sequence ∈ expected, frame.sequence = sequence

instance (expected : Option UInt32) (frame : IqFrame) :
    Decidable (Follows expected frame) :=
  match expected with
  | none => isTrue fun _ h => nomatch h
  | some sequence =>
    decidable_of_iff (frame.sequence = sequence)
      ⟨fun h _ hmem => h.trans (Option.some.inj hmem), fun h => h _ rfl⟩

/-- The gaps of a stream, the one in front of it counted where another frame
was expected. -/
def gapsFrom : Option UInt32 → List IqFrame → ℕ
  | _, [] => 0
  | expected, frame :: frames =>
    (if Follows expected frame then 0 else 1)
      + gapsFrom (some (frame.sequence + 1)) frames

/-- **The gaps of a stream**: the places where a frame has not the number
behind that of the frame before it. -/
def gaps (frames : List IqFrame) : ℕ :=
  gapsFrom none frames

/-- The samples in front of the first gap. -/
def readable : Option UInt32 → List IqFrame → List IqSample
  | _, [] => []
  | expected, frame :: frames =>
    if Follows expected frame then
      frame.samples ++ readable (some (frame.sequence + 1)) frames
    else []

/-- The samples of frames. -/
def allSamples (frames : List IqFrame) : List IqSample :=
  frames.flatMap IqFrame.samples

end IqFrame

/-! ## Loading a frame -/

namespace IqFrame

variable {frame : IqFrame} {frames : List IqFrame} {bytes : List UInt8}

/-- The number of samples of a frame is read back. -/
theorem WellFormed.count (h : frame.WellFormed) :
    (UInt32.ofNat frame.samples.length).toNat = frame.samples.length := by
  have hle := h.le
  exact UInt32.toNat_ofNat_of_lt' (by
    rw [UInt32.size]
    omega)

/-- Enough bytes of frames begin with the header of the first. -/
theorem header_of_prefix (hpre : bytes <+: frames.flatMap wire)
    (hlength : iqFrameHeaderSize ≤ bytes.length) :
    ∃ frame frames' more, frames = frame :: frames'
      ∧ bytes = iqFrameHeader frame.sequence
        (UInt32.ofNat frame.samples.length) ++ more := by
  cases frames with
  | nil =>
    obtain rfl := List.prefix_nil.mp hpre
    exact absurd hlength (by decide)
  | cons frame frames =>
    have hheader : iqFrameHeader frame.sequence
        (UInt32.ofNat frame.samples.length) <+: bytes := by
      refine List.prefix_of_prefix_length_le ?_ hpre hlength
      rw [List.flatMap_cons, wire, List.append_assoc]
      exact List.prefix_append _ _
    obtain ⟨more, hmore⟩ := hheader
    exact ⟨frame, frames, more, rfl, hmore.symm⟩

/-- Enough bytes of frames begin with the first. -/
theorem wire_of_prefix (hpre : bytes <+: (frame :: frames).flatMap wire)
    (hlength : frame.wire.length ≤ bytes.length) :
    ∃ more, bytes = frame.wire ++ more := by
  have hframe : frame.wire <+: bytes := by
    refine List.prefix_of_prefix_length_le ?_ hpre hlength
    rw [List.flatMap_cons]
    exact List.prefix_append _ _
  obtain ⟨more, hmore⟩ := hframe
  exact ⟨more, hmore.symm⟩

end IqFrame

namespace RxStream

variable {s : RxStream} {frames : List IqFrame}
  {arrivals arrivals' : List (Arrival UInt8)}

/-- The sequence number a stream expects, once it has seen a frame. -/
def expected (s : RxStream) : Option UInt32 :=
  if s.haveSequence then some s.expectedSequence else none

/-- **What `loadFrame` does** on the bytes of some frames: it takes the next
one, or reports that it is not the one expected, or has not got it yet. In
all cases but the first only the input is another. -/
inductive Loads (arrivals : List (Arrival UInt8)) (s : RxStream) :
    List IqFrame →
      Outcome SoapyError (List IqSample) × RxStream × List (Arrival UInt8) →
        Prop where
  | loaded {frame : IqFrame} {frames : List IqFrame} {input : List UInt8}
      {arrivals' : List (Arrival UInt8)}
      (follows : frame.Follows s.expected)
      (bytes : s.input ++ Arrival.bytes arrivals
        = frame.wire ++ (input ++ Arrival.bytes arrivals'))
      (rest : arrivals' <:+ arrivals) :
      Loads arrivals s (frame :: frames)
        (.done frame.samples,
          { input := input
            samples := frame.samples
            sampleOffset := 0
            expectedSequence := frame.sequence + 1
            haveSequence := true },
          arrivals')
  | overflow {frame : IqFrame} {frames : List IqFrame} {input : List UInt8}
      {arrivals' : List (Arrival UInt8)}
      (lost : ¬ frame.Follows s.expected)
      (bytes : s.input ++ Arrival.bytes arrivals
        = input ++ Arrival.bytes arrivals')
      (rest : arrivals' <:+ arrivals) :
      Loads arrivals s (frame :: frames)
        (.error .overflow, { s with input := input }, arrivals')
  | timedOut {frames : List IqFrame} {input : List UInt8}
      {arrivals' : List (Arrival UInt8)}
      (bytes : s.input ++ Arrival.bytes arrivals
        = input ++ Arrival.bytes arrivals')
      (rest : .timeout :: arrivals' <:+ arrivals) :
      Loads arrivals s frames (.timedOut, { s with input := input }, arrivals')
  | waiting {frames : List IqFrame} {input : List UInt8}
      (bytes : s.input ++ Arrival.bytes arrivals = input)
      (short : ∀ frame ∈ frames.head?, input.length < frame.wire.length) :
      Loads arrivals s frames (.waiting, { s with input := input }, [])

/-- The check for a lost frame. -/
theorem lost_iff (frame : IqFrame) :
    (s.haveSequence && frame.sequence != s.expectedSequence) = true ↔
      ¬ frame.Follows s.expected := by
  unfold IqFrame.Follows expected
  cases s.haveSequence with
  | false => simp
  | true => simp

/-- **`loadFrame` on well-formed frames**, however their bytes arrive. -/
theorem loads_loadFrame (hwell : ∀ frame ∈ frames, frame.WellFormed)
    (hlasts : ∀ arrival ∈ arrivals, arrival.Lasts)
    (hbytes : s.input ++ Arrival.bytes arrivals
      <+: frames.flatMap IqFrame.wire) :
    Loads arrivals s frames (s.loadFrame arrivals) := by
  have hfills := Arrival.fills_fill iqFrameHeaderSize arrivals s.input
  unfold loadFrame
  extract_lets filled s' sequence rate count frameSize filled' s'' samples
  change Arrival.Fills iqFrameHeaderSize arrivals s.input filled at hfills
  have hinput : filled.2.1 <+: frames.flatMap IqFrame.wire :=
    (List.prefix_append _ _).trans (hfills.bytes ▸ hbytes)
  have hshort (frame : IqFrame) : iqFrameHeaderSize ≤ frame.wire.length := by
    rw [frame.length_wire]
    exact Nat.le_add_right _ _
  -- the header: the bytes end before it, the time is out, or it is there
  split
  · next hwaiting =>
    obtain ⟨hnone, hlength⟩ := hfills.waiting hwaiting
    have hall := hfills.bytes
    rw [hnone, Arrival.bytes, List.append_nil] at hall
    rw [hnone]
    exact .waiting hall.symm fun frame _ => hlength.trans_le (hshort frame)
  · next hout => exact .timedOut hfills.bytes.symm (hfills.timedOut hout)
  · next hfailed => exact absurd hfailed (hfills.failed hlasts)
  next henough =>
  obtain ⟨frame, frames, more, rfl, hheader⟩ :=
    IqFrame.header_of_prefix hinput (hfills.enough henough)
  have hframe := hwell frame (List.mem_cons_self ..)
  have hreads := readsHeader frame.sequence
    (UInt32.ofNat frame.samples.length) more
  rw [← hheader] at hreads
  have hnumber : sequence = frame.sequence := hreads.sequence
  have hcount : count = frame.samples.length := by
    show (ofBe32 (filled.2.1.drop 16)).toNat = _
    rw [hreads.count, hframe.count]
  have hpos := hframe.pos
  have hle := hframe.le
  -- a well-formed frame passes every check of its header
  have hvalid : (s'.input.take 4 != iqFrameMark || s'.input[4]? != some 1
      || s'.input[5]? != some 1 || s'.input[6]? != some 0
      || s'.input[7]? != some 20 || rate != 48000 || count == 0
      || decide (1048576 < count)) = false := by
    have hsame : s'.input = filled.2.1 := rfl
    have hrate : rate = 48000 := hreads.rate
    rw [hsame, hreads.mark, hreads.version, hreads.format, hreads.high,
      hreads.low, hrate, decide_eq_false (by omega),
      beq_false_of_ne (show count ≠ 0 by omega)]
    rfl
  rw [hvalid, if_neg Bool.false_ne_true, hnumber]
  split
  · next hlost =>
    exact .overflow ((lost_iff frame).mp hlost) hfills.bytes.symm hfills.rest
  next hfound =>
  have hfollows : frame.Follows s.expected :=
    not_not.mp fun h => hfound ((lost_iff frame).mpr h)
  have hfills' : Arrival.Fills frameSize filled.2.2 filled.2.1 filled' :=
    Arrival.fills_fill _ _ _
  have hall := hfills'.bytes.trans hfills.bytes
  -- the samples are filled like the header, behind it
  have hsize : frameSize = frame.wire.length := by
    rw [frame.length_wire, ← hcount]
  split
  · next hwaiting =>
    obtain ⟨hnone, hlength⟩ := hfills'.waiting hwaiting
    rw [hnone, Arrival.bytes, List.append_nil] at hall
    rw [hnone]
    refine .waiting hall.symm fun other hother => ?_
    obtain rfl : frame = other := by simpa using hother
    exact hsize ▸ hlength
  · next hout =>
    exact .timedOut hall.symm ((hfills'.timedOut hout).trans hfills.rest)
  · next hfailed =>
    refine absurd hfailed (hfills'.failed fun arrival hmem => ?_)
    exact hlasts arrival (hfills.rest.subset hmem)
  next henough' =>
  have hinput' : filled'.2.1 <+: (frame :: frames).flatMap IqFrame.wire :=
    (List.prefix_append _ _).trans (hall ▸ hbytes)
  obtain ⟨more', hmore⟩ := IqFrame.wire_of_prefix hinput'
    (hsize ▸ hfills'.enough henough')
  have hsamples : samples = frame.samples := by
    show loadSamples filled'.2.1 count = _
    rw [hmore, hcount]
    exact loadSamples_encode _ _ _ _
  rw [hsamples]
  refine .loaded hfollows ?_ (hfills'.rest.trans hfills.rest)
  rw [← hall]
  show filled'.2.1 ++ _ = _ ++ (filled'.2.1.drop frameSize ++ _)
  rw [hmore, hsize, List.drop_left, List.append_assoc]

end RxStream

/-! ## One call -/

namespace IqFrame

variable {expected : Option UInt32} {frame : IqFrame} {frames : List IqFrame}

theorem gapsFrom_cons_eq_zero :
    gapsFrom expected (frame :: frames) = 0 ↔
      frame.Follows expected ∧ gapsFrom (some (frame.sequence + 1)) frames = 0 := by
  rw [gapsFrom, Nat.add_eq_zero_iff, and_congr_left_iff]
  intro _
  by_cases h : frame.Follows expected
  · simp [h]
  · simp [h]

theorem readable_of_follows (h : frame.Follows expected) :
    readable expected (frame :: frames) =
      frame.samples ++ readable (some (frame.sequence + 1)) frames :=
  if_pos h

/-- Without a gap, everything is readable. -/
theorem readable_of_gapsFrom (h : gapsFrom expected frames = 0) :
    readable expected frames = allSamples frames := by
  induction frames generalizing expected with
  | nil => rfl
  | cons frame frames ih =>
    obtain ⟨hfollows, hrest⟩ := gapsFrom_cons_eq_zero.mp h
    rw [readable_of_follows hfollows, ih hrest]
    rfl

/-- **With a gap, something is not.** -/
theorem readable_length_lt (hwell : ∀ frame ∈ frames, frame.WellFormed)
    (h : gapsFrom expected frames ≠ 0) :
    (readable expected frames).length < (allSamples frames).length := by
  induction frames generalizing expected with
  | nil => exact absurd rfl h
  | cons frame frames ih =>
    have hall : (allSamples (frame :: frames)).length =
        frame.samples.length + (allSamples frames).length :=
      List.length_append
    rw [hall]
    by_cases hfollows : frame.Follows expected
    · rw [readable_of_follows hfollows, List.length_append]
      refine Nat.add_lt_add_left (ih (fun f hf =>
        hwell f (List.mem_cons_of_mem _ hf)) fun hzero => h ?_) _
      exact gapsFrom_cons_eq_zero.mpr ⟨hfollows, hzero⟩
    · rw [readable, if_neg hfollows]
      have := (hwell frame (List.mem_cons_self ..)).pos
      exact Nat.lt_add_right _ this

/-- The first frames have no gap where none of them has. -/
theorem gapsFrom_prefix {first : List IqFrame} (hfirst : first <+: frames)
    (h : gapsFrom expected frames = 0) : gapsFrom expected first = 0 := by
  induction frames generalizing expected first with
  | nil =>
    obtain rfl := List.prefix_nil.mp hfirst
    rfl
  | cons frame frames ih =>
    cases first with
    | nil => rfl
    | cons other first =>
      obtain ⟨rfl, hrest⟩ := List.cons_prefix_cons.mp hfirst
      obtain ⟨hfollows, hzero⟩ := gapsFrom_cons_eq_zero.mp h
      exact gapsFrom_cons_eq_zero.mpr ⟨hfollows, ih hrest hzero⟩

end IqFrame

namespace SoapyReceiver

variable {F Φ : Type*} {out : SoapyOutput F Φ} {numElems : ℕ}
  {arrivals : List (Arrival UInt8)} {r : SoapyReceiver Φ}
  {frames : List IqFrame}

/-- The samples that are loaded and not handed out. -/
def held (r : SoapyReceiver Φ) : List IqSample :=
  r.stream.samples.drop r.stream.sampleOffset

/-- **What a stream has ahead of it**: what it holds, and the samples of the
frames that come through whole, as far as it can read them. -/
def ahead (r : SoapyReceiver Φ) (arrivals : List (Arrival UInt8))
    (frames : List IqFrame) : List IqSample :=
  r.held ++ IqFrame.readable r.stream.expected
    (Framing.whole IqFrame.wire frames
      (r.stream.input ++ Arrival.bytes arrivals).length)

/-- A stream that reads frames, as their bytes arrive. -/
structure Ready (r : SoapyReceiver Φ) (arrivals : List (Arrival UInt8))
    (frames : List IqFrame) : Prop where
  active : r.active = true
  offset_le : r.stream.sampleOffset ≤ r.stream.samples.length
  well : ∀ frame ∈ frames, frame.WellFormed
  lasts : ∀ arrival ∈ arrivals, arrival.Lasts
  bytes : r.stream.input ++ Arrival.bytes arrivals
    <+: frames.flatMap IqFrame.wire

/-- What is handed out are the first samples that are held. -/
theorem hand_elements (numElems : ℕ) (r : SoapyReceiver Φ) :
    (hand out numElems r).1.elements =
      (out.elements r.rxPhase (r.held.take numElems)).1 := by
  rw [List.take_eq_take_min, held, List.length_drop]
  rfl

theorem hand_rxPhase (numElems : ℕ) (r : SoapyReceiver Φ) :
    (hand out numElems r).2.rxPhase =
      (out.elements r.rxPhase (r.held.take numElems)).2 := by
  rw [List.take_eq_take_min, held, List.length_drop]
  rfl

/-- The others stay. -/
theorem held_hand (numElems : ℕ) (r : SoapyReceiver Φ) :
    (hand out numElems r).2.held = r.held.drop numElems := by
  show r.stream.samples.drop (_ + min numElems _) = _
  rw [held, List.drop_drop]
  by_cases h : numElems ≤ r.stream.samples.length - r.stream.sampleOffset
  · rw [Nat.min_eq_left h]
  · rw [List.drop_eq_nil_of_le (by omega), List.drop_eq_nil_of_le (by omega)]

/-- **How a call goes**: with so many of the samples ahead it either
succeeds, or nothing came in time, or it waits and there are none, or it
reports a gap. -/
inductive Goes (numElems : ℕ) (arrivals : List (Arrival UInt8))
    (gapless : Prop) (ahead chunk : List IqSample) :
    Outcome SoapyError (SoapyRead F) → List (Arrival UInt8) → Prop where
  | done {read : SoapyRead F} {arrivals' : List (Arrival UInt8)}
      (some : 1 ≤ numElems → chunk ≠ []) (rest : arrivals' <:+ arrivals) :
      Goes numElems arrivals gapless ahead chunk (.done read) arrivals'
  | timedOut {arrivals' : List (Arrival UInt8)}
      (rest : .timeout :: arrivals' <:+ arrivals) :
      Goes numElems arrivals gapless ahead chunk .timedOut arrivals'
  | waiting {arrivals' : List (Arrival UInt8)} (none : ahead = [])
      (rest : arrivals' <:+ arrivals) :
      Goes numElems arrivals gapless ahead chunk .waiting arrivals'
  | overflow {arrivals' : List (Arrival UInt8)} (gap : ¬ gapless)
      (rest : arrivals' <:+ arrivals) :
      Goes numElems arrivals gapless ahead chunk (.error .overflow) arrivals'

/-- **One call**: it delivers the first samples ahead, and leaves the
others. -/
structure Reading (out : SoapyOutput F Φ) (numElems : ℕ)
    (arrivals : List (Arrival UInt8)) (r : SoapyReceiver Φ)
    (frames : List IqFrame) (chunk : List IqSample) (frames' : List IqFrame)
    (read : Outcome SoapyError (SoapyRead F) × SoapyReceiver Φ
      × List (Arrival UInt8)) : Prop where
  ready : read.2.1.Ready read.2.2 frames'
  ahead : r.ahead arrivals frames = chunk ++ read.2.1.ahead read.2.2 frames'
  delivered : Outcome.delivered [read.1] = (out.elements r.rxPhase chunk).1
  phase : read.2.1.rxPhase = (out.elements r.rxPhase chunk).2
  gapless : IqFrame.gapsFrom r.stream.expected frames = 0 →
    IqFrame.gapsFrom read.2.1.stream.expected frames' = 0
  goes : Goes numElems arrivals
    (IqFrame.gapsFrom r.stream.expected frames = 0)
    (r.ahead arrivals frames) chunk read.1 read.2.2

/-- A call that only hands out. -/
theorem reading_hand (out : SoapyOutput F Φ) (numElems : ℕ)
    (h : r.Ready arrivals frames) (hheld : r.held ≠ []) :
    Reading out numElems arrivals r frames (r.held.take numElems) frames
      (.done (hand out numElems r).1, (hand out numElems r).2, arrivals) where
  ready := ⟨h.active, by
    show _ + min numElems _ ≤ r.stream.samples.length
    have := h.offset_le
    omega, h.well, h.lasts, h.bytes⟩
  ahead := by
    show r.held ++ _ = _ ++ ((hand out numElems r).2.held ++ _)
    rw [held_hand, ← List.append_assoc, List.take_append_drop]
    rfl
  delivered := by
    show _ ++ [] = _
    rw [List.append_nil, hand_elements]
  phase := hand_rxPhase _ _
  gapless h := h
  goes := .done (fun hpos hnil => by
    obtain h | h := List.take_eq_nil_iff.mp hnil
    · omega
    · exact hheld h) List.suffix_rfl

/-- A call that only changes the input. -/
theorem ahead_input {input : List UInt8} {arrivals' : List (Arrival UInt8)}
    (hbytes : r.stream.input ++ Arrival.bytes arrivals
      = input ++ Arrival.bytes arrivals') :
    r.ahead arrivals frames =
      ahead { r with stream := { r.stream with input := input } } arrivals'
        frames := by
  rw [ahead, hbytes]
  rfl

theorem Ready.input {input : List UInt8} {arrivals' : List (Arrival UInt8)}
    (h : r.Ready arrivals frames) (hrest : arrivals' <:+ arrivals)
    (hbytes : r.stream.input ++ Arrival.bytes arrivals
      = input ++ Arrival.bytes arrivals') :
    Ready { r with stream := { r.stream with input := input } } arrivals'
      frames :=
  ⟨h.active, h.offset_le, h.well,
    fun arrival hmem => h.lasts arrival (hrest.subset hmem), hbytes ▸ h.bytes⟩

/-- **Every call goes like this.** -/
theorem reading_readStream (out : SoapyOutput F Φ) (numElems : ℕ)
    (h : r.Ready arrivals frames) :
    ∃ chunk frames', Reading out numElems arrivals r frames chunk frames'
      (readStream out numElems arrivals r) := by
  have hactive : (!r.active) = false := by rw [h.active]; rfl
  unfold readStream
  rw [hactive, if_neg Bool.false_ne_true]
  split
  -- samples are still held from the frame before
  case isFalse hheld =>
    have := h.offset_le
    exact ⟨_, _, reading_hand out numElems h fun hnil => by
      have := List.drop_eq_nil_iff.mp hnil
      omega⟩
  next hused =>
  have hheld : r.held = [] := List.drop_eq_nil_of_le hused.ge
  have hloads := RxStream.loads_loadFrame h.well h.lasts h.bytes
  dsimp only
  generalize r.stream.loadFrame arrivals = loaded at hloads ⊢
  cases hloads with
  | @loaded frame frames input arrivals' hfollows hbytes hrest =>
    let loaded : SoapyReceiver Φ := { r with
      stream :=
        { input := input
          samples := frame.samples
          sampleOffset := 0
          expectedSequence := frame.sequence + 1
          haveSequence := true } }
    have hwell := h.well frame (List.mem_cons_self ..)
    have hready : loaded.Ready arrivals' frames :=
      ⟨h.active, Nat.zero_le _,
        fun f hf => h.well f (List.mem_cons_of_mem _ hf),
        fun arrival hmem => h.lasts arrival (hrest.subset hmem), by
          have hall := h.bytes
          rw [hbytes, List.flatMap_cons] at hall
          exact (List.prefix_append_right_inj _).mp hall⟩
    have hahead : r.ahead arrivals (frame :: frames)
        = loaded.ahead arrivals' frames := by
      rw [ahead, hheld, List.nil_append, hbytes, List.length_append,
        Framing.whole_cons, IqFrame.readable_of_follows hfollows]
      rfl
    have hread := reading_hand out numElems hready fun hnil => by
      have hlength : frame.samples.length = 0 := congrArg List.length hnil
      have := hwell.pos
      omega
    refine ⟨_, frames, hread.ready, hahead.trans hread.ahead, hread.delivered,
      hread.phase, fun hzero => ?_, ?_⟩
    · exact hread.gapless (IqFrame.gapsFrom_cons_eq_zero.mp hzero).2
    · cases hread.goes with
      | done hsome hsuffix => exact .done hsome (hsuffix.trans hrest)
  -- the frame stays where it is, so the next call meets the same gap
  | @overflow frame frames input arrivals' hlost hbytes hrest =>
    exact ⟨[], frame :: frames, h.input hrest hbytes, ahead_input hbytes, rfl,
      rfl, id, .overflow (fun hzero =>
        hlost (IqFrame.gapsFrom_cons_eq_zero.mp hzero).1) hrest⟩
  | @timedOut _ input arrivals' hbytes hrest =>
    exact ⟨[], frames, h.input ((List.suffix_cons _ _).trans hrest) hbytes,
      ahead_input hbytes, rfl, rfl, id, .timedOut hrest⟩
  | @waiting _ input hbytes hshort =>
    have hbytes' : r.stream.input ++ Arrival.bytes arrivals
        = input ++ Arrival.bytes [] := by
      rw [hbytes, Arrival.bytes, List.append_nil]
    refine ⟨[], frames, h.input List.nil_suffix hbytes', ahead_input hbytes',
      rfl, rfl, id, .waiting ?_ List.nil_suffix⟩
    rw [ahead, hheld, hbytes, Framing.whole_of_short _ hshort]
    rfl

/-! ## Any number of calls -/

/-- **What calls have delivered** of the samples ahead, where nothing came
in time for so many of them at most. -/
structure Delivered (out : SoapyOutput F Φ) (phase : Φ)
    (ahead : List IqSample) (gapless : Prop) (timeouts : ℕ) (sizes : List ℕ)
    (outcomes : List (Outcome SoapyError (SoapyRead F))) (k : ℕ) : Prop where
  /-- An error is a gap. -/
  sound : ∀ reason, Outcome.error reason ∈ outcomes → reason = .overflow
  /-- The first samples are delivered, in order. -/
  elements : Outcome.delivered outcomes = (out.elements phase (ahead.take k)).1
  le : k ≤ ahead.length
  /-- Where there is no gap, none is reported. -/
  gapless : gapless → outcomes.countP Outcome.isOverflow = 0
  /-- Enough calls deliver all samples. -/
  all : (∀ numElems ∈ sizes, 1 ≤ numElems) →
    k + timeouts + outcomes.countP Outcome.isOverflow < sizes.length →
      k = ahead.length

theorem delivered_cons (o : Outcome SoapyError (SoapyRead F))
    (outcomes : List (Outcome SoapyError (SoapyRead F))) :
    Outcome.delivered (o :: outcomes) =
      Outcome.delivered [o] ++ Outcome.delivered outcomes := by
  cases o with
  | done read =>
    show _ = (read.elements ++ []) ++ _
    rw [List.append_nil]
    rfl
  | waiting => rfl
  | timedOut => rfl
  | error reason => rfl

/-- **Any number of calls** deliver the samples ahead from the first on. -/
theorem delivered_reads (out : SoapyOutput F Φ) (sizes : List ℕ)
    (h : r.Ready arrivals frames) :
    ∃ k, Delivered out r.rxPhase (r.ahead arrivals frames)
      (IqFrame.gapsFrom r.stream.expected frames = 0)
      (arrivals.countP (·.isTimeout)) sizes
      (reads out sizes arrivals r).1 k := by
  induction sizes generalizing arrivals r frames with
  | nil =>
    exact ⟨0, fun _ hmem => absurd hmem List.not_mem_nil, rfl, Nat.zero_le _,
      fun _ => rfl, fun _ hlt => absurd hlt (Nat.not_lt_zero _)⟩
  | cons numElems sizes ih =>
    obtain ⟨chunk, frames', hread⟩ := reading_readStream out numElems h
    unfold reads
    dsimp only
    generalize readStream out numElems arrivals r = read at hread ⊢
    obtain ⟨o, r', arrivals'⟩ := read
    obtain ⟨k, hk⟩ := ih (show r'.Ready arrivals' frames' from hread.ready)
    show ∃ k, Delivered out _ _ _ _ _ (o :: (reads out sizes arrivals' r').1) k
    have hahead : r.ahead arrivals frames
        = chunk ++ r'.ahead arrivals' frames' := hread.ahead
    have hgoes : Goes numElems arrivals _ _ chunk o arrivals' := hread.goes
    have hlength := congrArg List.length hahead
    rw [List.length_append] at hlength
    -- what this call delivers, and then what the others do
    refine ⟨chunk.length + k, ⟨?_, ?_, ?_, ?_, ?_⟩⟩
    · intro reason hmem
      cases List.mem_cons.mp hmem with
      | inl hfirst =>
        subst hfirst
        cases hgoes with
        | overflow => rfl
      | inr hlater => exact hk.sound reason hlater
    · have hphase : r'.rxPhase = (out.elements r.rxPhase chunk).2 := hread.phase
      have hfirst := hread.delivered
      have hlater := hk.elements
      rw [hphase] at hlater
      rw [delivered_cons, hfirst, hlater, hahead, List.take_length_add_append,
        SoapyOutput.elements_append]
    · have := hk.le
      omega
    · intro hzero
      have hlater := hk.gapless (hread.gapless hzero)
      rw [List.countP_cons, hlater]
      cases hgoes with
      | done => rfl
      | timedOut => rfl
      | waiting => rfl
      | overflow hgap => exact absurd hzero hgap
    -- a call without samples used up a timeout, or nothing is ahead
    · intro hpos hmany
      have hfirst := hpos numElems (List.mem_cons_self ..)
      have hall := hk.all fun n hn => hpos n (List.mem_cons_of_mem _ hn)
      rw [List.length_cons] at hmany
      cases hgoes with
      | done hsome hrest =>
        have hle := hrest.sublist.countP_le (p := (·.isTimeout))
        have hchunk := List.length_pos_iff.mpr (hsome hfirst)
        rw [List.countP_cons_of_neg Bool.false_ne_true] at hmany
        have := hall (by omega)
        omega
      | timedOut hrest =>
        have hle := hrest.sublist.countP_le (p := (·.isTimeout))
        rw [List.countP_cons_of_pos rfl] at hle
        rw [List.countP_cons_of_neg Bool.false_ne_true] at hmany
        have := hall (by omega)
        omega
      | waiting hnone =>
        have := hk.le
        rw [hnone] at hlength ⊢
        rw [List.length_nil] at hlength ⊢
        omega
      | overflow _ hrest =>
        have hle := hrest.sublist.countP_le (p := (·.isTimeout))
        rw [List.countP_cons_of_pos rfl] at hmany
        have := hall (by omega)
        omega

/-! ## Streams with gaps -/

/-- What `recv` answers on a connection that stays: some bytes, as many as
the chunk has room for at most, or none in time. -/
def Receivable : Arrival UInt8 → Prop
  | .data bytes => bytes ≠ [] ∧ bytes.length ≤ 8192
  | .failed => False
  | _ => True

theorem Receivable.lasts {arrival : Arrival UInt8} (h : Receivable arrival) :
    arrival.Lasts := by
  cases arrival with
  | data bytes => exact h.1
  | again => exact trivial
  | timeout => exact trivial
  | failed => exact h

/-- **A run that reads well**: calls on a stream whose bytes have arrived so
far report one overflow for each gap at most, and deliver the samples of the
frames received in order, all of them where there are enough calls. -/
structure ReadsWell (out : SoapyOutput F Φ) (phase : Φ)
    (frames : List IqFrame) (body : List UInt8)
    (arrivals : List (Arrival UInt8)) (sizes : List ℕ)
    (received : List IqSample)
    (outcomes : List (Outcome SoapyError (SoapyRead F))) : Prop where
  overflows : outcomes.countP Outcome.isOverflow ≤ IqFrame.gaps frames
  ordered : ∃ k, Outcome.delivered outcomes
    = (out.elements phase (received.take k)).1
  complete : (∀ numElems ∈ sizes, 1 ≤ numElems) →
    received.length + IqFrame.gaps frames + arrivals.countP (·.isTimeout)
      < sizes.length →
    Outcome.delivered outcomes = (out.elements phase received).1

/-- **Every run on a stream reads well**, whatever came with the reply, in
whatever pieces the rest arrives, and however many elements are asked for. -/
def ReadsThrough (out : SoapyOutput F Φ) (phase : Φ) (frames : List IqFrame) :
    Prop :=
  ∀ body arrivals sizes, (∀ arrival ∈ arrivals, Receivable arrival) →
    body ++ Arrival.bytes arrivals <+: frames.flatMap IqFrame.wire →
    ReadsWell out phase frames body arrivals sizes
      (IqFrame.allSamples (Framing.whole IqFrame.wire frames
        (body ++ Arrival.bytes arrivals).length))
      (reads out sizes arrivals (activated body phase)).1

/-- A stream that was just connected is ready. -/
theorem ready_activated {body : List UInt8} (phase : Φ)
    (hwell : ∀ frame ∈ frames, frame.WellFormed)
    (harrivals : ∀ arrival ∈ arrivals, Receivable arrival)
    (hbytes : body ++ Arrival.bytes arrivals
      <+: frames.flatMap IqFrame.wire) :
    (activated body phase).Ready arrivals frames :=
  ⟨rfl, Nat.le_refl _, hwell,
    fun arrival hmem => (harrivals arrival hmem).lasts, hbytes⟩

/-- The bytes of a stream, one by one. -/
theorem bytes_singles (bytes : List UInt8) :
    Arrival.bytes (bytes.map fun byte => .data [byte]) = bytes := by
  induction bytes with
  | nil => rfl
  | cons byte bytes ih => exact congrArg (byte :: ·) ih

/-- **A stream reads through exactly where it has no gap.** -/
theorem readsThrough_iff (out : SoapyOutput F Φ) (phase : Φ)
    (frames : List IqFrame) (hwell : ∀ frame ∈ frames, frame.WellFormed) :
    ReadsThrough out phase frames ↔ IqFrame.gaps frames = 0 := by
  constructor
  · intro hthrough
    by_contra hgap
    -- all bytes arrive one by one, and there are calls enough
    let arrivals : List (Arrival UInt8) :=
      (frames.flatMap IqFrame.wire).map fun byte => .data [byte]
    have harrivals : ∀ arrival ∈ arrivals, Receivable arrival := by
      intro arrival hmem
      obtain ⟨byte, -, rfl⟩ := List.mem_map.mp hmem
      exact ⟨List.cons_ne_nil _ _, show 1 ≤ 8192 by decide⟩
    have hall : [] ++ Arrival.bytes arrivals = frames.flatMap IqFrame.wire :=
      bytes_singles _
    have hbytes : [] ++ Arrival.bytes arrivals
        <+: frames.flatMap IqFrame.wire := hall ▸ List.prefix_rfl
    have hreceived := Framing.whole_length IqFrame.wire frames
    rw [← hall] at hreceived
    have hrun := hthrough [] arrivals (List.replicate
      ((IqFrame.allSamples frames).length + IqFrame.gaps frames
        + arrivals.countP (·.isTimeout) + 1) 1) harrivals hbytes
    rw [hreceived] at hrun
    have hdelivered := hrun.complete
      (fun n hn => (List.eq_of_mem_replicate hn).ge)
      (by rw [List.length_replicate]; exact Nat.lt_succ_self _)
    obtain ⟨k, hk⟩ := delivered_reads out (List.replicate
      ((IqFrame.allSamples frames).length + IqFrame.gaps frames
        + arrivals.countP (·.isTimeout) + 1) 1)
      (ready_activated phase hwell harrivals hbytes)
    have hahead : (activated [] phase).ahead arrivals frames =
        IqFrame.readable none frames :=
      congrArg (IqFrame.readable none) hreceived
    have hsame := congrArg List.length (hdelivered.symm.trans hk.elements)
    rw [SoapyOutput.length_elements, SoapyOutput.length_elements, hahead,
      List.length_take] at hsame
    have hless := IqFrame.readable_length_lt hwell hgap
    omega
  · intro hgapless body arrivals sizes harrivals hbytes
    obtain ⟨k, hk⟩ := delivered_reads out sizes
      (ready_activated phase hwell harrivals hbytes)
    have hahead : (activated body phase).ahead arrivals frames =
        IqFrame.allSamples (Framing.whole IqFrame.wire frames
          (body ++ Arrival.bytes arrivals).length) :=
      IqFrame.readable_of_gapsFrom
        (IqFrame.gapsFrom_prefix (Framing.whole_prefix _ _ _) hgapless)
    rw [hahead] at hk
    have hnone := hk.gapless hgapless
    refine ⟨by omega, ⟨k, hk.elements⟩, fun hpos hmany => ?_⟩
    have hle := hk.le
    have hlast := hk.all hpos (by omega)
    have helements := hk.elements
    rw [hlast, List.take_length] at helements
    exact helements

/-- Floats by their bits, written as they are, at the center. -/
def bitOutput : SoapyOutput UInt32 Unit where
  floats :=
    { f32 := id
      neg := (· ^^^ 0x80000000)
      toS16 := fun _ => 0
      rotate := fun _ sample => sample
      advance := id }
  format := .cf32
  offset := false

/-- Two frames of one sample, one number apart. -/
theorem readsThrough_two :
    ReadsThrough bitOutput () [⟨7, [⟨1, 2⟩]⟩, ⟨8, [⟨3, 4⟩]⟩] := by
  refine (readsThrough_iff bitOutput () _ fun frame hmem => ?_).mpr rfl
  obtain rfl | hmem := List.mem_cons.mp hmem
  · exact ⟨le_rfl, show 1 ≤ 1048576 by omega⟩
  · obtain rfl := List.mem_singleton.mp hmem
    exact ⟨le_rfl, show 1 ≤ 1048576 by omega⟩

/-- **One lost frame, and an overflow for every call from then on**: the
frame behind the gap is never delivered. -/
theorem stuck_behind_gap :
    ¬ ∀ frames, (∀ frame ∈ frames, IqFrame.WellFormed frame) →
      ReadsThrough bitOutput () frames := by
  intro h
  have hwell : ∀ frame ∈ [(⟨7, [⟨1, 2⟩]⟩ : IqFrame), ⟨9, [⟨3, 4⟩]⟩],
      frame.WellFormed := by
    intro frame hmem
    obtain rfl | hmem := List.mem_cons.mp hmem
    · exact ⟨le_rfl, show 1 ≤ 1048576 by omega⟩
    · obtain rfl := List.mem_singleton.mp hmem
      exact ⟨le_rfl, show 1 ≤ 1048576 by omega⟩
  have hrun := (h _ hwell
    (IqFrame.wire ⟨7, [⟨1, 2⟩]⟩ ++ IqFrame.wire ⟨9, [⟨3, 4⟩]⟩) [] [1, 1, 1]
    (fun _ hmem => absurd hmem List.not_mem_nil) List.prefix_rfl).overflows
  revert hrun
  decide +kernel

end SoapyReceiver
