import Flex1500.TxSession

/-!
# The transmit sample queue

`tx_audio_stream` queues samples for the transmitter and renders them. Who
transmits when only depends on how many frames it holds, so the model keeps
the counts and leaves out the samples and the filters. What the rendering
finds in the samples – clipped and limited frames – is handed to it.
-/

/-- The modulations of the transmitter (`flex1500_tx_mode`). -/
inductive TxMode where
  | usb | lsb | am
  deriving DecidableEq, Repr

/-- `FLEX1500_TX_AUDIO_CAPACITY`, in frames. -/
def txAudioCapacity : ℕ := 65536

/-- The counts of `flex1500_tx_audio_stats`. -/
structure TxAudioStats where
  microphoneFrames : UInt64 := 0
  outputFrames : UInt64 := 0
  droppedMicrophoneFrames : UInt64 := 0
  underrunFrames : UInt64 := 0
  clippedFrames : UInt64 := 0
  limitedFrames : UInt64 := 0
  peakQueuedFrames : UInt64 := 0
  stopRequestedFrames : UInt64 := 0
  gracefulDrainedFrames : UInt64 := 0
  gracefulDiscardedFrames : UInt64 := 0
  gracefulDrainMs : UInt64 := 0
  deriving DecidableEq, Repr

/-- The queue (`flex1500_tx_audio_stream`). The microphone gain is the
number of decibels it is computed from. -/
structure TxAudioStream where
  mode : TxMode := .usb
  drivePercent : ℕ := 0
  microphoneGainDb : ℕ := 0
  compressorEnabled : Bool := false
  rawIq : Bool := false
  translateRawIq : Bool := false
  count : ℕ := 0
  gracefulStopRequested : Bool := false
  stats : TxAudioStats := {}
  deriving DecidableEq, Repr

namespace TxAudioStream

/-- `flex1500_tx_audio_stream_init`. The gain it checks is ten to the power
of a twentieth of the decibels, which is positive and, up to 770 of them,
finite. -/
def init (mode : TxMode) (drivePercent microphoneGainDb : ℕ) :
    Option TxAudioStream :=
  if drivePercent < txMinDrivePercent ∨ txMaxDrivePercent < drivePercent
      ∨ 770 < microphoneGainDb then none
  else
    some
      { mode := mode, drivePercent := drivePercent
        microphoneGainDb := microphoneGainDb }

/-- Frames pushed into the queue, those beyond its capacity dropped: how
many it took. -/
def pushFrames (frames : ℕ) (stream : TxAudioStream) : ℕ × TxAudioStream :=
  let accepted := min frames (txAudioCapacity - stream.count)
  (accepted,
    { stream with
      count := stream.count + accepted
      stats :=
        { stream.stats with
          microphoneFrames :=
            stream.stats.microphoneFrames + UInt64.ofNat frames
          droppedMicrophoneFrames :=
            stream.stats.droppedMicrophoneFrames
              + UInt64.ofNat (frames - accepted)
          peakQueuedFrames :=
            if accepted = 0 then stream.stats.peakQueuedFrames
            else raisePeak (UInt64.ofNat (stream.count + accepted))
              stream.stats.peakQueuedFrames } })

/-- `flex1500_tx_audio_stream_push_pcm16le`. -/
def pushPcm16le (bytes : ℕ) (stream : TxAudioStream) : ℕ × TxAudioStream :=
  if stream.rawIq || stream.gracefulStopRequested then (0, stream)
  else stream.pushFrames (bytes / 2)

/-- `flex1500_tx_audio_stream_push_iq16le`. -/
def pushIq16le (bytes : ℕ) (stream : TxAudioStream) : ℕ × TxAudioStream :=
  if stream.gracefulStopRequested then (0, stream)
  else stream.pushFrames (bytes / 4)

/-- `flex1500_tx_audio_stream_render_iq16le`. -/
def renderIq16le (frames clipped limited : ℕ) (stream : TxAudioStream) :
    TxAudioStream :=
  let rendered := min frames stream.count
  { stream with
    count := stream.count - rendered
    stats :=
      { stream.stats with
        outputFrames := stream.stats.outputFrames + UInt64.ofNat frames
        underrunFrames :=
          stream.stats.underrunFrames + UInt64.ofNat (frames - rendered)
        clippedFrames := stream.stats.clippedFrames + UInt64.ofNat clipped
        limitedFrames := stream.stats.limitedFrames + UInt64.ofNat limited } }

/-- `flex1500_tx_audio_stream_begin_graceful_stop`. -/
def beginGracefulStop (stream : TxAudioStream) : TxAudioStream :=
  if stream.rawIq then stream
  else { stream with gracefulStopRequested := true }

/-- `flex1500_tx_audio_stream_available`. -/
def available (stream : TxAudioStream) : ℕ :=
  txAudioCapacity - stream.count

end TxAudioStream
