import Flex1500.IqFrame
import Flex1500.Lib.Framing

/-!
# The publisher

`flex1500_iq_publisher` takes samples from the ring, encodes them as frames
and offers the bytes to a writer, one frame at a time. The writer may take a
part of what it is offered, so a frame stays pending, with an offset, until
the last of its bytes was taken or the connection is given up.

A writer is a function on an arbitrary context. What it was offered and took
between two disconnects is kept as an `IqSession`, which is not in the code:
no function reads it.
-/

/-- What a pump reports (`flex1500_publish_result`). -/
inductive PublishResult where
  | ok | empty | wouldBlock | disconnected | error
  deriving DecidableEq, Repr

/-- What a writer answers: its result, and how many bytes it took. -/
structure WriterAnswer where
  result : PublishResult
  written : ℕ
  deriving DecidableEq, Repr

/-- A writer (`flex1500_publish_writer`), over the context `ω` it acts on. -/
abbrev PublishWriter (ω : Type) := List UInt8 → ω → WriterAnswer × ω

/-- `FLEX1500_PUBLISHER_MAX_SAMPLES`. -/
def publisherMaxSamples : ℕ := 256

/-- `FLEX1500_PUBLISHER_BUFFER_SIZE`. -/
def publisherBufferSize : ℕ := 20 + publisherMaxSamples * 8

/-- The counters of a publisher (`flex1500_publisher_stats`). -/
structure PublisherStats where
  framesEncoded : UInt64 := 0
  framesSent : UInt64 := 0
  samplesSent : UInt64 := 0
  wouldBlockEvents : UInt64 := 0
  disconnects : UInt64 := 0
  writeErrors : UInt64 := 0
  deriving DecidableEq, Repr

namespace PublisherStats

/-- A write that would have blocked. -/
def blocked (stats : PublisherStats) : PublisherStats :=
  { stats with wouldBlockEvents := stats.wouldBlockEvents + 1 }

/-- A write that found its connection gone. -/
def lost (stats : PublisherStats) : PublisherStats :=
  { stats with disconnects := stats.disconnects + 1 }

/-- A write that failed. -/
def failed (stats : PublisherStats) : PublisherStats :=
  { stats with writeErrors := stats.writeErrors + 1 }

/-- A frame of so many samples written to its end. -/
def delivered (samples : ℕ) (stats : PublisherStats) : PublisherStats :=
  { stats with
    framesSent := stats.framesSent + 1
    samplesSent := stats.samplesSent + UInt64.ofNat samples }

end PublisherStats

/-- A frame, by its sequence number and its samples. -/
structure IqFrame where
  sequence : UInt32
  samples : List IqSample
  deriving DecidableEq, Repr

/-- A frame as it stands in the publisher's buffer. -/
def IqFrame.encode (frame : IqFrame) : List UInt8 :=
  encodeIqFrame frame.sequence frame.samples publisherBufferSize

/-- What was encoded between two disconnects, and what of it the writer
took. -/
structure IqSession where
  frames : List IqFrame := []
  accepted : List UInt8 := []
  deriving DecidableEq, Repr

/-- The frames of a session the writer took to the end. -/
def IqSession.sent (session : IqSession) : List IqFrame :=
  Framing.whole IqFrame.encode session.frames session.accepted.length

/-- The publisher (`flex1500_iq_publisher`), with its sessions so far and the
one going on. -/
structure IqPublisher where
  source : IqRing
  nextSequence : UInt32 := 0
  samplesPerFrame : ℕ
  pending : List UInt8 := []
  pendingOffset : ℕ := 0
  pendingSamples : ℕ := 0
  stats : PublisherStats := {}
  past : List IqSession := []
  session : IqSession := {}
  samples_pos : 0 < samplesPerFrame
  samples_le : samplesPerFrame ≤ publisherMaxSamples

namespace IqPublisher

/-- `flex1500_iq_publisher_init`, over a ring that was initialised. -/
def init (source : IqRing) (samplesPerFrame : ℕ) : Option IqPublisher :=
  if h : samplesPerFrame = 0 ∨ publisherMaxSamples < samplesPerFrame then none
  else
    some
      { source := source
        samplesPerFrame := samplesPerFrame
        samples_pos := by omega
        samples_le := by omega }

/-- The publisher over another state of its ring. -/
def withSource (f : IqRing → IqRing) (p : IqPublisher) : IqPublisher :=
  { p with source := f p.source }

/-- The publisher with its counters changed. -/
def withStats (f : PublisherStats → PublisherStats) (p : IqPublisher) :
    IqPublisher :=
  { p with stats := f p.stats }

/-- The bytes of the pending frame that were not taken yet. -/
def remaining (p : IqPublisher) : List UInt8 :=
  p.pending.drop p.pendingOffset

/-- The publisher with a frame pending that was just encoded. -/
def encoded (p : IqPublisher) (bytes : List UInt8) (frame : IqFrame) :
    IqPublisher :=
  { p with
    pending := bytes
    pendingOffset := 0
    pendingSamples := frame.samples.length
    nextSequence := p.nextSequence + 1
    stats := { p.stats with framesEncoded := p.stats.framesEncoded + 1 }
    session := { p.session with frames := p.session.frames ++ [frame] } }

/-- `prepare_frame`. -/
def prepareFrame (p : IqPublisher) : Bool × IqPublisher :=
  if p.pendingOffset < p.pending.length then (true, p)
  else if p.source.contents.length = 0 then (false, p)
  else
    let popped :=
      p.source.pop (min p.samplesPerFrame p.source.contents.length)
    let bytes := encodeIqFrame p.nextSequence popped.1 publisherBufferSize
    let p := p.withSource fun _ => popped.2
    if bytes = [] then (false, { p with pending := [] })
    else
      (true, p.encoded bytes
        { sequence := p.nextSequence, samples := popped.1 })

/-- The pending frame given up. -/
def dropPending (p : IqPublisher) : IqPublisher :=
  { p with pending := [], pendingOffset := 0, pendingSamples := 0 }

/-- `flex1500_iq_publisher_disconnect`. -/
def disconnect (p : IqPublisher) : IqPublisher :=
  { p.dropPending with past := p.past ++ [p.session], session := {} }

/-- What the writer took, as it answered it. -/
def accepted (bytes : List UInt8) (p : IqPublisher) : IqPublisher :=
  { p with
    session := { p.session with accepted := p.session.accepted ++ bytes } }

/-- The publisher once more of its pending frame was written. -/
def advanced (written : ℕ) (p : IqPublisher) : IqPublisher :=
  let p := { p with pendingOffset := p.pendingOffset + written }
  if p.pendingOffset = p.pending.length then
    (p.withStats (·.delivered p.pendingSamples)).dropPending
  else p

/-- `flex1500_iq_publisher_pump`. -/
def pump {ω : Type} (writer : PublishWriter ω) (p : IqPublisher) (w : ω) :
    PublishResult × IqPublisher × ω :=
  let prepared := p.prepareFrame
  if !prepared.1 then (.empty, prepared.2, w)
  else
    let p := prepared.2
    let answered := writer p.remaining w
    match answered.1.result with
    | .wouldBlock => (.wouldBlock, p.withStats (·.blocked), answered.2)
    | .disconnected =>
      (.disconnected, (p.withStats (·.lost)).disconnect, answered.2)
    | result =>
      let p :=
        if result = .ok then
          p.accepted (p.remaining.take answered.1.written)
        else p
      if result ≠ .ok ∨ answered.1.written = 0
          ∨ p.remaining.length < answered.1.written then
        (.error, p.withStats (·.failed), answered.2)
      else (.ok, p.advanced answered.1.written, answered.2)

end IqPublisher
