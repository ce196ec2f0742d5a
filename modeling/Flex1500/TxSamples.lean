import Flex1500.Lib.ByteOrder
import Flex1500.Lib.Transducer
import Flex1500.TxDsp

/-!
# The transmit samples

`tx_audio_stream.c` with its samples: two rings of one capacity, one of
microphone values and one of I/Q samples, which share their indices; and what
a frame goes through on its way out, from the gain to the limiter.

What a frame becomes depends on the cell it was in, or on there being none, on
how many frames are left where the transmission fades out, and on what went
out before. That much of the state is `TxVoice`, and the rest is the queue.

Nothing is known of the arithmetic but the order in which the code uses it.
Where a ring is read or written in a cell it does not have, the model fails.
-/

universe u

/-- The operations on `float` and `double` that the rendering uses besides
those of the filters. -/
structure TxFloats (F D : Type u) extends CFloat F where
  abs : F → F
  hypot : F → F → F
  pow : F → F → F
  copysign : F → F → F
  lrint : F → ℤ
  isFinite : F → Bool
  double : CFloat D
  sqrt : D → D
  widen : F → D
  narrow : D → F

/-- Rational numbers in place of floats, with the sum for the hypotenuse, and
roots and powers that change nothing. -/
def TxFloats.rational : TxFloats ℚ ℚ where
  toCFloat := CFloat.rational
  abs x := |x|
  hypot x y := |x| + |y|
  pow x _ := x
  copysign x y := if y < 0 then -|x| else |x|
  lrint x := (x + 1 / 2).floor
  isFinite _ := true
  double := CFloat.rational
  sqrt x := x
  widen x := x
  narrow x := x

/-- `FLEX1500_TX_FULL_DRIVE_PEAK`. -/
def txFullDrivePeak : ℤ := 24890

/-- `FLEX1500_TX_ENVELOPE_FRAMES`. -/
def txEnvelopeFrames : ℕ := 480

/-- `FLEX1500_TX_DEFAULT_LOW_CUT_HZ`. -/
def txDefaultLowCutHz : UInt32 := 300

/-- `FLEX1500_TX_DEFAULT_HIGH_CUT_HZ`. -/
def txDefaultHighCutHz : UInt32 := 3000

/-- What is set once for a transmission, but for the compressor. -/
structure TxVoiceSettings (F : Type*) where
  rawIq : Bool := false
  translateRawIq : Bool := false
  drivePercent : ℕ
  microphoneGain : F
  compressorEnabled : Bool := false

/-- What a frame leaves behind for the next one: filters, phase, fade-in and
meters. `previousOutput` is there where `previous_output_valid` says so. -/
structure TxVoice (F D : Type u) where
  dsp : TxDsp F
  rawIqPhase : F
  fadePosition : ℕ := 0
  postGainSquareSum : D
  postGainFrames : ℕ := 0
  outputSquareSum : D
  previousOutput : Option (TxIq F) := none
  postGainPeak : F
  postGainRms : F
  outputPeak : F
  peakMagnitude : F
  maximumOutputStep : F

/-- A frame as it goes out, and whether it was clipped or limited. -/
structure TxRendered where
  sampleI : Int16
  sampleQ : Int16
  clipped : Bool
  limited : Bool
  deriving DecidableEq, Repr

/-- The bytes of a frame. -/
def TxRendered.bytes (frame : TxRendered) : List UInt8 :=
  ByteOrder.le16 frame.sampleI.toUInt16 ++ ByteOrder.le16 frame.sampleQ.toUInt16

/-- A place of the two rings: a microphone value and an I/Q sample. -/
abbrev TxCell (F : Type*) := F × TxIq F

section

variable {F D : Type u} (ops : TxFloats F D)

/-- `raised_cosine`. -/
def raisedCosine (position : F) : F :=
  if ops.le position (ops.lit 0) then ops.lit 0
  else if ops.le (ops.lit 1) position then ops.lit 1
  else
    ops.sub (ops.lit 0.5)
      (ops.mul (ops.lit 0.5)
        (ops.cos (ops.mul (TxDsp.pi ops.toCFloat) position)))

/-- `clamp_i16`: the sample, and whether it was clipped. -/
def clampI16 (sample : F) : Int16 × Bool :=
  if ops.lt (ops.lit 32767) sample then (Int16.maxValue, true)
  else if ops.lt sample (ops.lit (-32768)) then (Int16.minValue, true)
  else (Int16.ofInt (ops.lrint sample), false)

/-- A sample of 16 bits between minus one and one. -/
def normalizedSample (sample : Int16) : F :=
  ops.div (ops.ofInt sample.toInt) (ops.lit 32768)

/-- The I/Q sample of cleared memory. -/
def zeroIq : TxIq F :=
  ⟨ops.zero, ops.zero⟩

namespace TxVoice

/-- The carrier of AM taken out of a raw sample, and its phase then. -/
def translated (iq : TxIq F) (phase : F) : TxIq F × F :=
  let cosine := ops.cos phase
  let sine := ops.sin phase
  let turn := ops.mul (ops.lit 2) (TxDsp.pi ops.toCFloat)
  let next := ops.add phase
    (ops.div (ops.mul turn (ops.ofInt txAmIfHz)) (ops.lit 48000))
  (⟨ops.add (ops.mul iq.i cosine) (ops.mul iq.q sine),
      ops.sub (ops.mul iq.q cosine) (ops.mul iq.i sine)⟩,
    if ops.le turn next then ops.sub next turn else next)

/-- The meters behind the microphone gain. -/
def gained (microphone : F) (voice : TxVoice F D) : TxVoice F D :=
  let absolute := ops.abs microphone
  let squareSum := ops.double.add voice.postGainSquareSum
    (ops.double.mul (ops.widen microphone) (ops.widen microphone))
  { voice with
    postGainPeak :=
      if ops.lt voice.postGainPeak absolute then absolute
      else voice.postGainPeak
    postGainSquareSum := squareSum
    postGainFrames := voice.postGainFrames + 1
    postGainRms := ops.narrow (ops.sqrt (ops.double.div squareSum
      (ops.double.ofInt (voice.postGainFrames + 1 : ℕ)))) }

/-- `COMPRESSOR_THRESHOLD`. -/
def compressorThreshold : F :=
  ops.lit 0.25

/-- `COMPRESSOR_RATIO`. -/
def compressorRatio : F :=
  ops.lit 3

/-- What the compressor makes of a microphone value. -/
def compressed (settings : TxVoiceSettings F) (microphone : F) : F :=
  let absolute := ops.abs microphone
  if settings.rawIq = false ∧ settings.compressorEnabled = true
      ∧ ops.lt (compressorThreshold ops) absolute = true then
    ops.copysign
      (ops.mul (compressorThreshold ops)
        (ops.pow (ops.div absolute (compressorThreshold ops))
          (ops.div (ops.lit 1) (compressorRatio ops))))
      microphone
  else microphone

/-- The filters one value further. -/
def filtered (microphone : F) (voice : TxVoice F D) :
    Option (TxIq F × TxVoice F D) := do
  let (step, dsp) ← voice.dsp.process ops.toCFloat microphone
  some (step.output, { voice with dsp := dsp })

/-- The I/Q value of a frame from the queue, and of one that was not there. -/
def iqOf (settings : TxVoiceSettings F) :
    Option (TxCell F) → TxVoice F D → Option (TxIq F × TxVoice F D)
  | some (microphone, networkIq), voice =>
    let (iq, voice) :=
      if settings.rawIq && settings.translateRawIq then
        let (iq, phase) := translated ops networkIq voice.rawIqPhase
        (iq, { voice with rawIqPhase := phase })
      else (networkIq, voice)
    let microphone := ops.mul microphone settings.microphoneGain
    let voice := gained ops microphone voice
    if settings.rawIq then some (iq, voice)
    else filtered ops (compressed ops settings microphone) voice
  | none, voice =>
    -- silence, so that the state of the filters decays
    filtered ops (ops.lit 0) voice

/-- `drive_limit`. -/
def driveLimit (settings : TxVoiceSettings F) : F :=
  ops.div (ops.mul (ops.ofInt txFullDrivePeak) (ops.ofInt settings.drivePercent))
    (ops.lit 100)

/-- The envelope of a frame: the fade-in of the transmission, and the
fade-out over the frames that are left. -/
def fade (fadePosition : ℕ) (fadeOut : Option ℕ) : F :=
  let fadeIn :=
    if fadePosition < txEnvelopeFrames then
      raisedCosine ops
        (ops.div (ops.ofInt fadePosition) (ops.ofInt txEnvelopeFrames))
    else ops.lit 1
  match fadeOut with
  | some left =>
    if left < txEnvelopeFrames then
      ops.mul fadeIn (raisedCosine ops
        (ops.div (ops.ofInt left) (ops.ofInt txEnvelopeFrames)))
    else fadeIn
  | none => fadeIn

/-- What the limiter makes of a value, and whether it did anything. -/
def limit (driveLimit : F) (output : TxIq F) : TxIq F × Bool :=
  let requested := ops.hypot output.i output.q
  if ops.lt driveLimit requested && ops.lt (ops.lit 0) requested then
    let gain := ops.div driveLimit requested
    (⟨ops.mul output.i gain, ops.mul output.q gain⟩, true)
  else (output, false)

/-- The meters behind the limiter. -/
def metered (driveLimit : F) (frame : TxRendered) (voice : TxVoice F D) :
    TxVoice F D :=
  let sampleI := ops.ofInt frame.sampleI.toInt
  let sampleQ := ops.ofInt frame.sampleQ.toInt
  let maximumOutputStep :=
    match voice.previousOutput with
    | some previous =>
      let step :=
        ops.hypot (ops.sub sampleI previous.i) (ops.sub sampleQ previous.q)
      if ops.lt voice.maximumOutputStep step then step
      else voice.maximumOutputStep
    | none => voice.maximumOutputStep
  let magnitude := ops.hypot sampleI sampleQ
  let normalized :=
    if ops.lt (ops.lit 0) driveLimit then
      ops.div magnitude (ops.ofInt txFullDrivePeak)
    else ops.lit 0
  { voice with
    maximumOutputStep := maximumOutputStep
    previousOutput := some ⟨sampleI, sampleQ⟩
    outputPeak :=
      if ops.lt voice.outputPeak normalized then normalized
      else voice.outputPeak
    outputSquareSum := ops.double.add voice.outputSquareSum
      (ops.double.mul (ops.widen normalized) (ops.widen normalized))
    peakMagnitude :=
      if ops.lt voice.peakMagnitude magnitude then magnitude
      else voice.peakMagnitude }

/-- A frame from its I/Q value on. -/
def emit (settings : TxVoiceSettings F) (fadeOut : Option ℕ) (iq : TxIq F)
    (voice : TxVoice F D) : TxRendered × TxVoice F D :=
  let limited := driveLimit ops settings
  let envelope := fade ops voice.fadePosition fadeOut
  let voice :=
    { voice with
      fadePosition :=
        if voice.fadePosition < txEnvelopeFrames then voice.fadePosition + 1
        else voice.fadePosition }
  let (output, wasLimited) := limit ops limited
    ⟨ops.mul (ops.mul iq.i limited) envelope,
      ops.mul (ops.mul iq.q limited) envelope⟩
  let (sampleI, clippedI) := clampI16 ops output.i
  let (sampleQ, clippedQ) := clampI16 ops output.q
  let frame := ⟨sampleI, sampleQ, clippedI || clippedQ, wasLimited⟩
  (frame, metered ops limited frame voice)

/-- **One frame**, from the queue or not. -/
def render (settings : TxVoiceSettings F) (fadeOut : Option ℕ)
    (cell : Option (TxCell F)) (voice : TxVoice F D) :
    Option (TxRendered × TxVoice F D) := do
  let (iq, voice) ← iqOf ops settings cell voice
  some (emit ops settings fadeOut iq voice)

end TxVoice

/-- The queue with its samples (`flex1500_tx_audio_stream`). -/
structure TxSampleStream (F D : Type u) where
  settings : TxVoiceSettings F
  voice : TxVoice F D
  microphone : List F
  networkIq : List (TxIq F)
  readIndex : ℕ := 0
  writeIndex : ℕ := 0
  count : ℕ := 0
  inputSquareSum : D
  gracefulStopRequested : Bool := false
  stats : TxAudioStats := {}
  inputPeak : F
  inputRms : F
  outputRms : F

namespace TxSampleStream

/-- `flex1500_tx_audio_stream_init`. -/
def init (mode : TxMode) (drivePercent : ℕ) (microphoneGain : F) :
    Option (TxSampleStream F D) :=
  if drivePercent < txMinDrivePercent ∨ txMaxDrivePercent < drivePercent
      ∨ ops.isFinite microphoneGain = false
      ∨ ops.le microphoneGain (ops.lit 0) = true then none
  else do
    let dsp ← TxDsp.init ops.toCFloat mode txDefaultLowCutHz txDefaultHighCutHz
    some
      { settings :=
          { drivePercent := drivePercent, microphoneGain := microphoneGain }
        voice :=
          { dsp := dsp
            rawIqPhase := ops.zero
            postGainSquareSum := ops.double.zero
            outputSquareSum := ops.double.zero
            postGainPeak := ops.zero
            postGainRms := ops.zero
            outputPeak := ops.zero
            peakMagnitude := ops.zero
            maximumOutputStep := ops.zero }
        microphone := List.replicate txAudioCapacity ops.zero
        networkIq := List.replicate txAudioCapacity (zeroIq ops)
        inputSquareSum := ops.double.zero
        inputPeak := ops.zero
        inputRms := ops.zero
        outputRms := ops.zero }

/-- `flex1500_tx_audio_stream_set_compressor`. -/
def setCompressor (enabled : Bool) (s : TxSampleStream F D) :
    TxSampleStream F D :=
  { s with settings := { s.settings with compressorEnabled := enabled } }

/-- `flex1500_tx_audio_stream_begin_graceful_stop`. -/
def beginGracefulStop (s : TxSampleStream F D) : TxSampleStream F D :=
  if s.settings.rawIq then s else { s with gracefulStopRequested := true }

/-- `flex1500_tx_audio_stream_set_raw_iq`. -/
def setRawIq (enabled : Bool) (s : TxSampleStream F D) : TxSampleStream F D :=
  { s with settings := { s.settings with rawIq := enabled } }

/-- `flex1500_tx_audio_stream_set_raw_iq_translation`. -/
def setRawIqTranslation (enabled : Bool) (s : TxSampleStream F D) :
    TxSampleStream F D :=
  { s with
    settings := { s.settings with translateRawIq := enabled }
    voice := { s.voice with rawIqPhase := ops.lit 0 } }

/-! ## Samples in -/

/-- The sample of two bytes, the least significant first. -/
def sampleOf (low high : UInt8) : Int16 :=
  (low.toUInt16 ||| (high.toUInt16 <<< 8)).toInt16

/-- The whole frames of PCM. -/
def pcmFrames : List UInt8 → List (Int16 × Option Int16)
  | a :: b :: rest => (sampleOf a b, none) :: pcmFrames rest
  | _ => []

/-- The whole frames of I/Q; the second sample is only read in raw mode. -/
def iqFrames (rawIq : Bool) : List UInt8 → List (Int16 × Option Int16)
  | a :: b :: c :: d :: rest =>
    (sampleOf a b, if rawIq then some (sampleOf c d) else none)
      :: iqFrames rawIq rest
  | _ => []

/-- One frame of either loop, and whether it was taken: to `network_iq`
where there is a second sample, else to `microphone`. -/
def pushFrame (frame : Int16 × Option Int16) (s : TxSampleStream F D) :
    Option (ℕ × TxSampleStream F D) :=
  if s.count = txAudioCapacity then
    some (0,
      { s with
        stats :=
          { s.stats with
            droppedMicrophoneFrames := s.stats.droppedMicrophoneFrames + 1 } })
  else do
    let normalized := normalizedSample ops frame.1
    let s ← match frame.2 with
      | some q => do
        let networkIq ← Ring.put s.writeIndex
          ⟨normalized, normalizedSample ops q⟩ s.networkIq
        some { s with networkIq := networkIq }
      | none => do
        let microphone ← Ring.put s.writeIndex normalized s.microphone
        some { s with microphone := microphone }
    let absolute := ops.abs normalized
    some (1,
      { s with
        writeIndex := (s.writeIndex + 1) % txAudioCapacity
        count := s.count + 1
        stats :=
          { s.stats with
            peakQueuedFrames :=
              raisePeak (UInt64.ofNat (s.count + 1)) s.stats.peakQueuedFrames }
        inputPeak := if ops.lt s.inputPeak absolute then absolute
          else s.inputPeak
        inputSquareSum := ops.double.add s.inputSquareSum
          (ops.double.mul (ops.widen normalized) (ops.widen normalized)) })

/-- The frames one after the other: how many were taken. -/
def pushFrames :
    List (Int16 × Option Int16) → TxSampleStream F D →
      Option (ℕ × TxSampleStream F D)
  | [], s => some (0, s)
  | frame :: rest, s => do
    let (taken, s) ← pushFrame ops frame s
    let (accepted, s) ← pushFrames rest s
    some (taken + accepted, s)

/-- What either function does behind its loop. -/
def countedFrames (frames : ℕ) (s : TxSampleStream F D) : TxSampleStream F D :=
  let microphoneFrames := s.stats.microphoneFrames + UInt64.ofNat frames
  { s with
    stats := { s.stats with microphoneFrames := microphoneFrames }
    inputRms :=
      if microphoneFrames ≠ 0 then
        ops.narrow (ops.sqrt (ops.double.div s.inputSquareSum
          (ops.double.ofInt microphoneFrames.toNat)))
      else s.inputRms }

/-- `flex1500_tx_audio_stream_push_pcm16le`. -/
def pushPcm16le (input : List UInt8) (s : TxSampleStream F D) :
    Option (ℕ × TxSampleStream F D) :=
  if s.settings.rawIq || s.gracefulStopRequested then some (0, s)
  else do
    let (accepted, s) ← pushFrames ops (pcmFrames input) s
    some (accepted, countedFrames ops (input.length / 2) s)

/-- `flex1500_tx_audio_stream_push_iq16le`. -/
def pushIq16le (input : List UInt8) (s : TxSampleStream F D) :
    Option (ℕ × TxSampleStream F D) :=
  if s.gracefulStopRequested then some (0, s)
  else do
    let (accepted, s) ← pushFrames ops (iqFrames s.settings.rawIq input) s
    some (accepted, countedFrames ops (input.length / 4) s)

/-! ## Frames out -/

/-- The next cell of the queue, if it holds any. The I/Q ring is only read in
raw mode. -/
def takeCell (s : TxSampleStream F D) :
    Option (Option (TxCell F) × TxSampleStream F D) :=
  if 0 < s.count then do
    let microphone ← s.microphone[s.readIndex]?
    let iq ← if s.settings.rawIq then s.networkIq[s.readIndex]?
      else some (zeroIq ops)
    some (some (microphone, iq),
      { s with
        readIndex := (s.readIndex + 1) % txAudioCapacity
        count := s.count - 1 })
  else
    some (none,
      { s with
        stats :=
          { s.stats with underrunFrames := s.stats.underrunFrames + 1 } })

/-- The frames behind the one being rendered, where it fades out. -/
def fadeOut (s : TxSampleStream F D) : Option ℕ :=
  if s.gracefulStopRequested then some s.count else none

/-- What a frame adds to the counters. -/
def countedRender (frame : TxRendered) (stats : TxAudioStats) : TxAudioStats :=
  { stats with
    limitedFrames := stats.limitedFrames + UInt64.ofNat frame.limited.toNat
    clippedFrames := stats.clippedFrames + UInt64.ofNat frame.clipped.toNat }

/-- One frame of the loop. -/
def renderFrame (s : TxSampleStream F D) :
    Option (TxRendered × TxSampleStream F D) := do
  let (cell, s) ← takeCell ops s
  let (frame, voice) ← s.voice.render ops s.settings s.fadeOut cell
  some (frame, { s with voice := voice, stats := countedRender frame s.stats })

/-- The loop. -/
def renderFrames : ℕ → TxSampleStream F D →
    Option (List TxRendered × TxSampleStream F D)
  | 0, s => some ([], s)
  | frames + 1, s => do
    let (frame, s) ← renderFrame ops s
    let (rest, s) ← renderFrames frames s
    some (frame :: rest, s)

/-- `flex1500_tx_audio_stream_render_iq16le`. -/
def renderIq16le (frames : ℕ) (s : TxSampleStream F D) :
    Option (List UInt8 × TxSampleStream F D) := do
  let (rendered, s) ← renderFrames ops frames s
  let outputFrames := s.stats.outputFrames + UInt64.ofNat frames
  some (rendered.flatMap TxRendered.bytes,
    { s with
      stats := { s.stats with outputFrames := outputFrames }
      outputRms :=
        if outputFrames ≠ 0 then
          ops.narrow (ops.sqrt (ops.double.div s.voice.outputSquareSum
            (ops.double.ofInt outputFrames.toNat)))
        else s.outputRms })

/-- `flex1500_tx_audio_stream_available`. -/
def available (s : TxSampleStream F D) : ℕ :=
  if s.count ≤ txAudioCapacity then txAudioCapacity - s.count else 0

/-- `flex1500_tx_audio_stream_queued`. -/
def queued (s : TxSampleStream F D) : ℕ :=
  s.count

/-! ## Runs -/

/-- The operations on a stream that has been set up. -/
inductive Op where
  | pushPcm16le (input : List UInt8)
  | pushIq16le (input : List UInt8)
  | render (frames : ℕ)
  | setCompressor (enabled : Bool)
  | setRawIq (enabled : Bool)
  | setRawIqTranslation (enabled : Bool)
  | beginGracefulStop
  deriving DecidableEq, Repr

/-- What went through: frames taken, frames given out of the queue, and the
bytes put out. -/
structure Flow where
  accepted : ℕ := 0
  consumed : ℕ := 0
  output : List UInt8 := []
  deriving DecidableEq, Repr

/-- An operation, and what went through. What was consumed is counted as the
transfers count it, by the difference of the queue. -/
def apply : Op → TxSampleStream F D → Option (Flow × TxSampleStream F D)
  | .pushPcm16le input, s =>
    (pushPcm16le ops input s).map fun r => ({ accepted := r.1 }, r.2)
  | .pushIq16le input, s =>
    (pushIq16le ops input s).map fun r => ({ accepted := r.1 }, r.2)
  | .render frames, s =>
    (renderIq16le ops frames s).map fun r =>
      ({ consumed := s.queued - r.2.queued, output := r.1 }, r.2)
  | .setCompressor enabled, s => some ({}, s.setCompressor enabled)
  | .setRawIq enabled, s => some ({}, s.setRawIq enabled)
  | .setRawIqTranslation enabled, s =>
    some ({}, s.setRawIqTranslation ops enabled)
  | .beginGracefulStop, s => some ({}, s.beginGracefulStop)

end TxSampleStream

end
