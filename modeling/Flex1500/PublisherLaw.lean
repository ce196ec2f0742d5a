import Flex1500.Publisher

/-!
# What a publisher sends

The frames of a publisher carry the samples of its ring in order, under
sequence numbers that count up, and the bytes its writer takes between two
disconnects are those of its frames in order. A frame is only ever lost to a
disconnect, and no disconnect loses more than the frame that was pending.

All of it is one invariant, `IqPublisher.Sound`, which ties the pending
bytes to the session going on. Every operation keeps it.
-/

/-! ## Frames that fit -/

/-- **A fitting frame**: one with as many samples as the publisher's buffer
has room for, and at least one. -/
structure IqFrame.Fits (frame : IqFrame) (samplesPerFrame : ℕ) : Prop where
  pos : 1 ≤ frame.samples.length
  le : frame.samples.length ≤ samplesPerFrame

/-- The publisher's buffer has room for a fitting frame. -/
theorem IqFrame.length_encode {frame : IqFrame} {samplesPerFrame : ℕ}
    (h : frame.Fits samplesPerFrame)
    (hle : samplesPerFrame ≤ publisherMaxSamples) :
    frame.encode.length = iqFrameHeaderSize + frame.samples.length * 8 :=
  length_encodeIqFrame (by
    have := h.le
    rw [publisherBufferSize, iqFrameHeaderSize]
    omega)

/-! ## Sessions -/

namespace IqSession

/-- **A session that is sound**: what the writer took begins the frames, and
goes as far as the last of them at least. -/
structure Sound (session : IqSession) : Prop where
  accepted : session.accepted <+: session.frames.flatMap IqFrame.encode
  discards :
    session.frames.dropLast.flatMap IqFrame.encode <+: session.accepted

/-- A session with nothing under way. -/
theorem sound_of_complete {session : IqSession}
    (h : session.accepted = session.frames.flatMap IqFrame.encode) :
    session.Sound where
  accepted := h ▸ List.prefix_rfl
  discards := by
    rw [h]
    obtain ⟨rest, hrest⟩ := List.dropLast_prefix session.frames
    refine ⟨rest.flatMap IqFrame.encode, ?_⟩
    rw [← List.flatMap_append, hrest]

/-- A session with a frame under way. -/
theorem sound_of_pending {session : IqSession} {frames : List IqFrame}
    {frame : IqFrame} {bytes : List UInt8}
    (hframes : session.frames = frames ++ [frame])
    (haccepted : session.accepted = frames.flatMap IqFrame.encode ++ bytes)
    (hbytes : bytes <+: frame.encode) : session.Sound where
  accepted := by
    rw [haccepted, hframes, List.flatMap_append, List.flatMap_singleton]
    exact (List.prefix_append_right_inj _).mpr hbytes
  discards := by
    rw [haccepted, hframes, List.dropLast_concat]
    exact List.prefix_append _ _

/-- A session with nothing under way sent every frame. -/
theorem sent_of_complete {session : IqSession}
    (h : session.accepted = session.frames.flatMap IqFrame.encode) :
    session.sent = session.frames := by
  rw [sent, h, Framing.whole_length]

/-- A session with a frame under way sent all others. -/
theorem sent_of_pending {session : IqSession} {frames : List IqFrame}
    {frame : IqFrame} {bytes : List UInt8}
    (hframes : session.frames = frames ++ [frame])
    (haccepted : session.accepted = frames.flatMap IqFrame.encode ++ bytes)
    (hbytes : bytes.length < frame.encode.length) :
    session.sent = frames := by
  rw [sent, hframes, haccepted, List.length_append,
    Framing.whole_append _ _ _ hbytes]

end IqSession

namespace IqPublisher

/-- All sessions, the one going on last. -/
def sessions (p : IqPublisher) : List IqSession :=
  p.past ++ [p.session]

/-- All frames encoded, in order. -/
def frames (p : IqPublisher) : List IqFrame :=
  p.sessions.flatMap (·.frames)

/-- All frames the writer took to the end, in order. -/
def sent (p : IqPublisher) : List IqFrame :=
  p.sessions.flatMap IqSession.sent

/-! ## The invariant -/

/-- What is pending is what is left of the last frame of the session. -/
inductive Pending (p : IqPublisher) : Prop where
  /-- Nothing is. -/
  | none (pending : p.pending = []) (offset : p.pendingOffset = 0)
      (accepted : p.session.accepted
        = p.session.frames.flatMap IqFrame.encode)
  /-- The last frame is, from the offset on. -/
  | some (frames : List IqFrame) (frame : IqFrame)
      (session : p.session.frames = frames ++ [frame])
      (pending : p.pending = frame.encode)
      (samples : p.pendingSamples = frame.samples.length)
      (offset : p.pendingOffset < p.pending.length)
      (accepted : p.session.accepted = frames.flatMap IqFrame.encode
        ++ frame.encode.take p.pendingOffset)

/-- **A sound publisher.** -/
structure Sound (p : IqPublisher) : Prop where
  pending : p.Pending
  past : ∀ session ∈ p.past, session.Sound
  next : p.nextSequence = UInt32.ofNat p.frames.length
  sequences : ∀ k (h : k < p.frames.length),
    p.frames[k].sequence = UInt32.ofNat k
  fits : ∀ frame ∈ p.frames, frame.Fits p.samplesPerFrame
  taken : p.frames.flatMap (·.samples) = p.source.taken
  framesEncoded : p.stats.framesEncoded = UInt64.ofNat p.frames.length
  framesSent : p.stats.framesSent = UInt64.ofNat p.sent.length
  samplesSent : p.stats.samplesSent
    = UInt64.ofNat (p.sent.flatMap (·.samples)).length

/-- The session going on is sound. -/
theorem Pending.sound {p : IqPublisher} (h : p.Pending) : p.session.Sound := by
  cases h with
  | none _ _ haccepted => exact IqSession.sound_of_complete haccepted
  | some frames frame hframes _ _ _ haccepted =>
    exact IqSession.sound_of_pending hframes haccepted (List.take_prefix _ _)

variable {p q : IqPublisher}

/-- A publisher that differs in nothing its invariant is about. -/
theorem Sound.congr (h : p.Sound) (hpending : q.Pending)
    (hpast : ∀ session ∈ q.past, session.Sound)
    (hnext : q.nextSequence = p.nextSequence) (hframes : q.frames = p.frames)
    (hlimit : q.samplesPerFrame = p.samplesPerFrame)
    (htaken : q.source.taken = p.source.taken) (hsent : q.sent = p.sent)
    (hencoded : q.stats.framesEncoded = p.stats.framesEncoded)
    (hfs : q.stats.framesSent = p.stats.framesSent)
    (hss : q.stats.samplesSent = p.stats.samplesSent) : q.Sound where
  pending := hpending
  past := hpast
  next := by rw [hnext, hframes, h.next]
  sequences := by rw [hframes]; exact h.sequences
  fits := by rw [hframes, hlimit]; exact h.fits
  taken := by rw [hframes, htaken, h.taken]
  framesEncoded := by rw [hencoded, hframes, h.framesEncoded]
  framesSent := by rw [hfs, hsent, h.framesSent]
  samplesSent := by rw [hss, hsent, h.samplesSent]

/-- The ring may fill up and be cleared. -/
theorem Sound.withSource (h : p.Sound) {f : IqRing → IqRing}
    (hf : (f p.source).taken = p.source.taken) : (p.withSource f).Sound :=
  h.congr (by cases h.pending with
      | none h₁ h₂ h₃ => exact .none h₁ h₂ h₃
      | some fs f h₁ h₂ h₃ h₄ h₅ => exact .some fs f h₁ h₂ h₃ h₄ h₅)
    h.past rfl rfl rfl hf rfl rfl rfl rfl

/-! ## Preparing a frame -/

/-- A frame encoded comes behind the ones before it. -/
theorem frames_encoded (bytes : List UInt8) (frame : IqFrame) :
    (p.encoded bytes frame).frames = p.frames ++ [frame] := by
  simp [frames, sessions, encoded]

/-- With nothing under way, a frame just encoded is sound. -/
theorem Sound.encoded (h : p.Sound) (hnone : p.pending = [])
    {frame : IqFrame} (hseq : frame.sequence = p.nextSequence)
    (hfits : frame.Fits p.samplesPerFrame) {source : IqRing}
    (htaken : source.taken = p.source.taken ++ frame.samples) :
    ((p.withSource fun _ => source).encoded frame.encode frame).Sound := by
  have hlength : 0 < frame.encode.length := by
    rw [IqFrame.length_encode hfits p.samples_le, iqFrameHeaderSize]
    omega
  have haccepted : p.session.accepted
      = p.session.frames.flatMap IqFrame.encode := by
    cases h.pending with
    | none _ _ haccepted => exact haccepted
    | some _ _ _ _ _ hoffset => simp [hnone] at hoffset
  have hframes : ((p.withSource fun _ => source).encoded frame.encode
      frame).frames = p.frames ++ [frame] := frames_encoded _ _
  have hnothing : p.session.accepted
      = p.session.frames.flatMap IqFrame.encode ++ [] := by
    rw [haccepted, List.append_nil]
  have hsent : ((p.withSource fun _ => source).encoded frame.encode frame).sent
      = p.sent := by
    have hnew : IqSession.sent { p.session with
        frames := p.session.frames ++ [frame] } = p.session.frames :=
      IqSession.sent_of_pending rfl hnothing hlength
    simp only [sent, sessions, IqPublisher.encoded, IqPublisher.withSource,
      List.flatMap_append, List.flatMap_singleton]
    rw [hnew, IqSession.sent_of_complete haccepted]
  have hpending : ((p.withSource fun _ => source).encoded frame.encode
      frame).Pending :=
    .some p.session.frames frame rfl rfl rfl hlength
      hnothing
  refine ⟨hpending, h.past, ?_, ?_, ?_, ?_, ?_, ?_, ?_⟩
  · rw [hframes, List.length_append, List.length_singleton, UInt32.ofNat_add]
    exact congrArg (· + 1) h.next
  · intro k hk
    rw [List.getElem_of_eq hframes]
    rw [hframes, List.length_append, List.length_singleton] at hk
    by_cases hlast : k < p.frames.length
    · rw [List.getElem_append_left hlast]
      exact h.sequences k hlast
    · obtain rfl : k = p.frames.length := by omega
      rw [List.getElem_append_right le_rfl]
      simpa [hseq] using h.next
  · intro f hf
    rw [hframes] at hf
    rcases List.mem_append.mp hf with hf | hf
    · exact h.fits f hf
    · rw [List.mem_singleton.mp hf]
      exact hfits
  · rw [hframes, List.flatMap_append, List.flatMap_singleton]
    exact (congrArg (· ++ frame.samples) h.taken).trans htaken.symm
  · rw [hframes, List.length_append, List.length_singleton, UInt64.ofNat_add]
    exact congrArg (· + 1) h.framesEncoded
  · rw [hsent]
    exact h.framesSent
  · rw [hsent]
    exact h.samplesSent

/-- A publisher with bytes to write. -/
def Ready (p : IqPublisher) : Prop :=
  p.pendingOffset < p.pending.length

/-- **Preparing a frame** keeps a publisher sound, and loses no sample: it
finds a frame pending, or an empty ring, or encodes what it popped. -/
theorem Sound.prepareFrame (h : p.Sound) :
    p.prepareFrame.2.Sound ∧ (p.prepareFrame.1 = true → p.prepareFrame.2.Ready)
      ∧ (p.prepareFrame.1 = false →
        p.prepareFrame.2 = p ∧ p.source.contents = []) := by
  unfold IqPublisher.prepareFrame
  split
  · rename_i hready
    exact ⟨h, fun _ => hready, by simp⟩
  rename_i hready
  have hnone : p.pending = [] := by
    cases h.pending with
    | none hpending => exact hpending
    | some _ _ _ _ _ hoffset => exact absurd hoffset hready
  split
  · rename_i hempty
    exact ⟨h, by simp, fun _ => ⟨rfl, List.length_eq_zero_iff.mp hempty⟩⟩
  rename_i hsome
  extract_lets popped bytes p'
  have hlength : popped.1.length
      = min p.samplesPerFrame p.source.contents.length := by
    rw [show popped.1 = _ from IqRing.pop_fst _ _, List.length_take]
    omega
  have hfits : IqFrame.Fits { sequence := p.nextSequence, samples := popped.1 }
      p.samplesPerFrame :=
    ⟨by have := p.samples_pos; change 1 ≤ popped.1.length; omega,
      by change popped.1.length ≤ _; omega⟩
  have hbytes : bytes = IqFrame.encode
      { sequence := p.nextSequence, samples := popped.1 } := rfl
  have hnonempty : bytes ≠ [] := by
    intro hnil
    have := IqFrame.length_encode hfits p.samples_le
    rw [← hbytes, hnil, iqFrameHeaderSize, List.length_nil] at this
    omega
  rw [if_neg hnonempty]
  refine ⟨?_, fun _ => ?_, by simp⟩
  · exact h.encoded hnone rfl hfits rfl
  · exact List.length_pos_of_ne_nil hnonempty

/-! ## Writing -/

/-- What the writer took is no matter of the frames. -/
theorem frames_accepted (bytes : List UInt8) :
    (p.accepted bytes).frames = p.frames := by
  simp [frames, sessions, accepted]

/-- Counters of no interest here may change. -/
theorem Sound.withStats (h : p.Sound) {f : PublisherStats → PublisherStats}
    (hencoded : (f p.stats).framesEncoded = p.stats.framesEncoded)
    (hfs : (f p.stats).framesSent = p.stats.framesSent)
    (hss : (f p.stats).samplesSent = p.stats.samplesSent) :
    (p.withStats f).Sound :=
  h.congr (by cases h.pending with
      | none h₁ h₂ h₃ => exact .none h₁ h₂ h₃
      | some fs f h₁ h₂ h₃ h₄ h₅ => exact .some fs f h₁ h₂ h₃ h₄ h₅)
    h.past rfl rfl rfl rfl rfl hencoded hfs hss

/-- **A disconnect** ends the session, and keeps all that was encoded and
sent. -/
theorem Sound.disconnect (h : p.Sound) : p.disconnect.Sound := by
  have hpast : ∀ session ∈ p.disconnect.past, session.Sound := by
    intro session hs
    rcases List.mem_append.mp hs with hs | hs
    · exact h.past session hs
    · rw [List.mem_singleton.mp hs]
      exact h.pending.sound
  refine h.congr (.none rfl rfl rfl) hpast rfl ?_ rfl rfl ?_ rfl rfl rfl
  · simp [frames, sessions, IqPublisher.disconnect, dropPending]
  · simp [sent, sessions, IqPublisher.disconnect, dropPending, IqSession.sent,
      Framing.whole]

/-- A frame under way, once more of it was taken. -/
theorem Sound.advanced (h : p.Sound) (hready : p.Ready) {written : ℕ}
    (hle : written ≤ p.remaining.length) :
    ((p.accepted (p.remaining.take written)).advanced written).Sound := by
  -- a publisher that is ready has a frame behind those that are sent
  obtain ⟨fs, frame, hframes, hpending, hsamples, hoffset, haccepted⟩ :
      ∃ fs frame, p.session.frames = fs ++ [frame]
        ∧ p.pending = frame.encode
        ∧ p.pendingSamples = frame.samples.length
        ∧ p.pendingOffset < p.pending.length
        ∧ p.session.accepted = fs.flatMap IqFrame.encode
          ++ frame.encode.take p.pendingOffset := by
    cases h.pending with
    | none hnone => exact absurd hready (by simp [Ready, hnone])
    | some fs f h₁ h₂ h₃ h₄ h₅ => exact ⟨fs, f, h₁, h₂, h₃, h₄, h₅⟩
  have hsentfs : p.session.sent = fs :=
    IqSession.sent_of_pending hframes haccepted (by
      rw [List.length_take, ← hpending]
      omega)
  have htaken : p.session.accepted ++ p.remaining.take written
      = fs.flatMap IqFrame.encode
        ++ frame.encode.take (p.pendingOffset + written) := by
    rw [haccepted, remaining, hpending, List.append_assoc, List.take_add]
  have hlength : p.pendingOffset + written ≤ p.pending.length := by
    rw [remaining, List.length_drop] at hle
    omega
  unfold IqPublisher.advanced
  extract_lets q
  have hqframes : q.frames = p.frames :=
    frames_accepted (p := p) (p.remaining.take written)
  split
  · -- the last byte of the frame: it counts as sent
    rename_i hend
    have hend : p.pendingOffset + written = p.pending.length := hend
    have hall : p.session.accepted ++ p.remaining.take written
        = p.session.frames.flatMap IqFrame.encode := by
      rw [htaken, hend, hpending, List.take_length, hframes,
        List.flatMap_append, List.flatMap_singleton]
    have hsent : q.sent = p.sent ++ [frame] := by
      have hnew : q.session.sent = fs ++ [frame] := by
        rw [← hframes]
        exact IqSession.sent_of_complete hall
      simp only [sent, sessions, List.flatMap_append, List.flatMap_singleton]
      rw [hnew, hsentfs, List.append_assoc]
      rfl
    refine ⟨.none rfl rfl hall, h.past, ?_, ?_, ?_, ?_, ?_, ?_, ?_⟩
    · change p.nextSequence = UInt32.ofNat q.frames.length
      rw [hqframes, h.next]
    · change ∀ k (hk : k < q.frames.length), q.frames[k].sequence = _
      rw [hqframes]
      exact h.sequences
    · change ∀ f ∈ q.frames, f.Fits p.samplesPerFrame
      rw [hqframes]
      exact h.fits
    · change q.frames.flatMap (·.samples) = p.source.taken
      rw [hqframes, h.taken]
    · change p.stats.framesEncoded = UInt64.ofNat q.frames.length
      rw [hqframes, h.framesEncoded]
    · change p.stats.framesSent + 1 = UInt64.ofNat q.sent.length
      rw [hsent, List.length_append, List.length_singleton, UInt64.ofNat_add,
        h.framesSent]
      rfl
    · change p.stats.samplesSent + UInt64.ofNat p.pendingSamples
        = UInt64.ofNat (q.sent.flatMap (·.samples)).length
      rw [hsent, List.flatMap_append, List.flatMap_singleton,
        List.length_append, UInt64.ofNat_add, h.samplesSent, hsamples]
  · rename_i hopen
    have hopen : p.pendingOffset + written < p.pending.length :=
      lt_of_le_of_ne hlength hopen
    have hsent : q.sent = p.sent := by
      have hnew : q.session.sent = fs :=
        IqSession.sent_of_pending hframes htaken (by
          rw [List.length_take, ← hpending]
          omega)
      simp only [sent, sessions, List.flatMap_append, List.flatMap_singleton]
      rw [hnew, hsentfs]
      rfl
    exact h.congr (.some fs frame hframes hpending hsamples hopen htaken)
      h.past rfl hqframes rfl rfl hsent rfl rfl rfl

end IqPublisher

/-- **An honest writer**: where it reports success it took some of what it
was offered, and no more than that. -/
def PublishWriter.Honest {ω : Type} (writer : PublishWriter ω) : Prop :=
  ∀ bytes w, bytes ≠ [] → (writer bytes w).1.result = .ok →
    1 ≤ (writer bytes w).1.written
      ∧ (writer bytes w).1.written ≤ bytes.length

namespace IqPublisher

variable {ω : Type} {writer : PublishWriter ω} {p : IqPublisher}

/-- **A pump keeps a publisher sound**, whatever an honest writer
answers. -/
theorem Sound.pump (hw : writer.Honest) (h : p.Sound) (w : ω) :
    (p.pump writer w).2.1.Sound := by
  obtain ⟨hsound, hready, -⟩ := h.prepareFrame
  unfold IqPublisher.pump
  extract_lets prepared q answered
  split
  · exact hsound
  rename_i hprepared
  have hready : q.Ready := hready (by simpa using hprepared)
  have hremaining : q.remaining ≠ [] := fun hnil => by
    have := List.drop_eq_nil_iff.mp hnil
    exact absurd hready (not_lt.mpr this)
  have hhonest := hw q.remaining w hremaining
  split
  · exact hsound.withStats (f := PublisherStats.blocked) rfl rfl rfl
  · exact (hsound.withStats (f := PublisherStats.lost) rfl rfl rfl).disconnect
  rename_i result _ _
  by_cases hok : answered.1.result = .ok
  · obtain ⟨hpos, hle⟩ := hhonest hok
    have hpos : answered.1.written ≠ 0 := Nat.one_le_iff_ne_zero.mp hpos
    have hle : ¬ q.remaining.length < answered.1.written := not_lt.mpr hle
    dsimp only
    rw [if_pos hok, if_neg (by
      rintro (hno | hno | hno)
      · exact hno hok
      · exact hpos hno
      · exact hle hno)]
    exact hsound.advanced hready (not_lt.mp hle)
  · dsimp only
    rw [if_neg hok, if_pos (Or.inl hok)]
    exact hsound.withStats (f := PublisherStats.failed) rfl rfl rfl

/-! ## Runs -/

/-- What happens to a publisher and its ring. -/
inductive Op where
  | push (samples : List IqSample)
  | pump
  | disconnect
  | clear
  deriving DecidableEq, Repr

/-- One thing happening. -/
def perform (writer : PublishWriter ω) :
    IqPublisher × ω → Op → IqPublisher × ω
  | (p, w), .push samples => (p.withSource (·.push samples), w)
  | (p, w), .pump => (p.pump writer w).2
  | (p, w), .disconnect => (p.disconnect, w)
  | (p, w), .clear => (p.withSource (·.clear), w)

/-- A run. -/
def performAll (writer : PublishWriter ω) (ops : List Op)
    (s : IqPublisher × ω) : IqPublisher × ω :=
  ops.foldl (perform writer) s

/-- A publisher that has sent nothing is sound. -/
theorem sound_init {source : IqRing} {samplesPerFrame : ℕ}
    (h : init source samplesPerFrame = some p) (htaken : source.taken = []) :
    p.Sound := by
  unfold init at h
  split at h
  · simp at h
  · obtain rfl := Option.some.inj h
    exact ⟨.none rfl rfl rfl, by simp, rfl, fun k hk => absurd hk (by
      simp [frames, sessions]), by simp [frames, sessions],
      by simp [frames, sessions, htaken], rfl, rfl, rfl⟩

/-- One step keeps a publisher sound. -/
theorem Sound.perform (hw : writer.Honest) {s : IqPublisher × ω}
    (h : s.1.Sound) (op : Op) : (perform writer s op).1.Sound := by
  cases op with
  | push samples => exact h.withSource rfl
  | pump => exact h.pump hw s.2
  | disconnect => exact h.disconnect
  | clear => exact h.withSource rfl

/-- A run keeps a publisher sound. -/
theorem Sound.performAll (hw : writer.Honest) {s : IqPublisher × ω}
    (h : s.1.Sound) (ops : List Op) : (performAll writer ops s).1.Sound := by
  induction ops generalizing s with
  | nil => exact h
  | cons op ops ih => exact ih (h.perform hw op)

/-- **The law of a publisher's stream.** -/
structure StreamLaw (p : IqPublisher) : Prop where
  /-- The frames count up, modulo `2 ^ 32`. -/
  sequences : ∀ k (h : k < p.frames.length),
    p.frames[k].sequence = UInt32.ofNat k
  /-- Each holds one sample at least, and no more than it may. -/
  sizes : ∀ frame ∈ p.frames, 1 ≤ frame.samples.length
    ∧ frame.samples.length ≤ p.samplesPerFrame
  /-- Between them they hold the samples taken from the ring. -/
  samples : p.frames.flatMap (·.samples) = p.source.taken
  /-- Samples are taken in the order they entered, and the others wait. -/
  fifo : p.source.taken ++ p.source.contents = p.source.entered
  /-- Between two disconnects the writer takes the bytes of the frames in
  order. -/
  accepted : ∀ session ∈ p.sessions,
    session.accepted <+: session.frames.flatMap IqFrame.encode
  /-- A disconnect discards one frame at most. -/
  discards : ∀ session ∈ p.sessions,
    session.frames.dropLast.flatMap IqFrame.encode <+: session.accepted
  framesEncoded : p.stats.framesEncoded = UInt64.ofNat p.frames.length
  /-- The counters are those of the frames the writer took to the end. -/
  framesSent : p.stats.framesSent = UInt64.ofNat p.sent.length
  samplesSent : p.stats.samplesSent
    = UInt64.ofNat (p.sent.flatMap (·.samples)).length

/-- A sound publisher obeys the law. -/
theorem Sound.streamLaw (h : p.Sound) : p.StreamLaw where
  sequences := h.sequences
  sizes frame hf := ⟨(h.fits frame hf).pos, (h.fits frame hf).le⟩
  samples := h.taken
  fifo := p.source.fifo
  accepted session hs :=
    (List.mem_append.mp hs).elim (fun hs => (h.past session hs).accepted)
      fun hs => List.mem_singleton.mp hs ▸ h.pending.sound.accepted
  discards session hs :=
    (List.mem_append.mp hs).elim (fun hs => (h.past session hs).discards)
      fun hs => List.mem_singleton.mp hs ▸ h.pending.sound.discards
  framesEncoded := h.framesEncoded
  framesSent := h.framesSent
  samplesSent := h.samplesSent

/-- **What a publisher sends**: whatever an honest writer answers, and in
whatever order samples arrive, frames are pumped and connections end, the
bytes the writer takes between two disconnects are those of consecutive
frames, which hold the samples of the ring in order. -/
theorem streamLaw_performAll {capacity : ℕ} {hcapacity : 0 < capacity}
    {samplesPerFrame : ℕ} (hw : writer.Honest)
    (hinit : init (IqRing.init capacity hcapacity) samplesPerFrame = some p)
    (ops : List Op) (w : ω) : (performAll writer ops (p, w)).1.StreamLaw :=
  ((sound_init hinit rfl : (p, w).1.Sound).performAll hw ops).streamLaw

/-- A writer that takes seven bytes at most. -/
def shortWriter : PublishWriter Unit := fun bytes w =>
  ({ result := .ok, written := min 7 bytes.length }, w)

/-- A frame given up after seven of its bytes, with another begun. -/
theorem streamLaw_performAll_short :
    (performAll shortWriter
      [.push [⟨1, 2⟩, ⟨3, 4⟩, ⟨5, 6⟩], .pump, .disconnect, .pump]
      ((init (IqRing.init 8 (by decide)) 2).get rfl, ())).1.StreamLaw :=
  streamLaw_performAll
    (fun bytes _ hbytes _ => by
      have := List.length_pos_of_ne_nil hbytes
      exact ⟨by simp [shortWriter]; omega, Nat.min_le_right _ _⟩)
    (Option.some_get _).symm _ _

end IqPublisher
