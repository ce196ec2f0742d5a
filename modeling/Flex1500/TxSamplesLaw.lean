import Flex1500.TxSamples

/-!
# What the transmit stream keeps

Over any run of its operations the stream never leaves its arrays, and its
counters add up: what came in was taken or dropped, what was taken went out or
is queued, and what went out was taken from the queue or is counted as
missing. The counts are those of the queue without samples that the
transmitter is followed with.

What goes out does not depend on when it does. As long as nothing is dropped
and nothing is missing, the frames put out are the beginning of what the
filters make of the samples pushed, in whatever pieces these were pushed and
those are rendered.
-/

universe u

variable {F D : Type u}

/-! ## The filters take every value -/

namespace TxDsp

variable (ops : CFloat F)

/-- The arrays have their sizes, and the indices stay within them. -/
structure Sized (dsp : TxDsp F) : Prop where
  bandpass : dsp.bandpass.length = txFirTaps
  hilbert : dsp.hilbert.length = txFirTaps
  audioHistory : dsp.audioHistory.length = txFirTaps
  filteredHistory : dsp.filteredHistory.length = txFirTaps
  audioIndex : dsp.audioIndex < txFirTaps
  filteredIndex : dsp.filteredIndex < txFirTaps

/-- New filters have their sizes. -/
theorem sized_init {mode : TxMode} {lowCutHz highCutHz : UInt32} {dsp : TxDsp F}
    (h : init ops mode lowCutHz highCutHz = some dsp) :
    dsp.Sized ∧ dsp.mode = mode := by
  unfold init at h
  split at h
  · exact absurd h.symm (Option.some_ne_none _)
  obtain rfl := Option.some.inj h
  have hpos : 0 < txFirTaps := by decide
  exact ⟨⟨by simp, by simp, by simp, by simp, hpos, hpos⟩, rfl⟩

/-- The loop of `fir` finds its coefficients and its samples. -/
theorem firFrom_isSome {coefficients history : List F}
    (hcoefficients : coefficients.length = txFirTaps)
    (hhistory : history.length = txFirTaps) (count tap position : ℕ)
    (output : F) (htaps : tap + count ≤ txFirTaps)
    (hposition : position < txFirTaps) :
    ∃ x, firFrom ops coefficients history count tap position output
      = some x := by
  induction count generalizing tap position output with
  | zero => exact ⟨output, rfl⟩
  | succ count ih =>
    have htap : tap < coefficients.length := by omega
    have hsample : position < history.length := by omega
    rw [firFrom, List.getElem?_eq_getElem htap,
      List.getElem?_eq_getElem hsample]
    refine ih (tap + 1) _ _ (by omega) ?_
    split <;> omega

/-- `fir` gives a value. -/
theorem fir_isSome {coefficients history : List F} {newest : ℕ}
    (hcoefficients : coefficients.length = txFirTaps)
    (hhistory : history.length = txFirTaps) (hnewest : newest < txFirTaps) :
    ∃ x, fir ops coefficients history newest = some x :=
  firFrom_isSome ops hcoefficients hhistory _ _ _ _ (by simp) hnewest

/-- **The filters take every value**, and are as large as before. -/
theorem Sized.process {dsp : TxDsp F} (h : dsp.Sized) (microphone : F) :
    ∃ step dsp', process ops microphone dsp = some (step, dsp')
      ∧ dsp'.Sized ∧ dsp'.mode = dsp.mode := by
  have hpos : 0 < txFirTaps := by decide
  obtain ⟨hbandpass, hhilbert, haudio, hfiltered, haudioIndex,
    hfilteredIndex⟩ := h
  rw [TxDsp.process]
  dsimp only
  rw [Ring.put_eq _ (haudio ▸ haudioIndex)]
  dsimp only [Option.bind_eq_bind, Option.bind_some]
  obtain ⟨filtered, hfir⟩ := fir_isSome ops hbandpass
    ((List.length_set ..).trans haudio) haudioIndex
  rw [hfir]
  dsimp only [Option.bind_some]
  rw [Ring.put_eq _ (hfiltered ▸ hfilteredIndex)]
  dsimp only [Option.bind_some]
  rw [List.getElem?_eq_getElem (by
    rw [List.length_set, hfiltered]
    exact Nat.mod_lt _ hpos)]
  dsimp only [Option.bind_some]
  have hsized (lines lines' : List F) (x y z : F)
      (hlines : lines.length = txFirTaps)
      (hlines' : lines'.length = txFirTaps) :
      Sized
        { dsp with
          previousInput := x
          previousHighpass := y
          audioHistory := lines
          audioIndex := (dsp.audioIndex + 1) % txFirTaps
          filteredHistory := lines'
          filteredIndex := (dsp.filteredIndex + 1) % txFirTaps
          carrierPhase := z } :=
    ⟨hbandpass, hhilbert, hlines, hlines', Nat.mod_lt _ hpos,
      Nat.mod_lt _ hpos⟩
  split
  · exact ⟨_, _, rfl, hsized _ _ _ _ _ ((List.length_set ..).trans haudio)
      ((List.length_set ..).trans hfiltered), rfl⟩
  · obtain ⟨quadrature, hfir'⟩ := fir_isSome ops hhilbert
      ((List.length_set ..).trans hfiltered) hfilteredIndex
    rw [hfir']
    exact ⟨_, _, rfl, hsized _ _ _ _ _ ((List.length_set ..).trans haudio)
      ((List.length_set ..).trans hfiltered), rfl⟩

end TxDsp

variable (ops : TxFloats F D)

namespace TxVoice

/-- **A frame is always rendered**, and the filters stay as they are to be. -/
theorem render_isSome (settings : TxVoiceSettings F) (fadeOut : Option ℕ)
    (cell : Option (TxCell F)) {voice : TxVoice F D} (h : voice.dsp.Sized) :
    ∃ frame voice', render ops settings fadeOut cell voice
        = some (frame, voice')
      ∧ voice'.dsp.Sized ∧ voice'.dsp.mode = voice.dsp.mode := by
  have hfiltered (microphone : F) {voice' : TxVoice F D}
      (hdsp : voice'.dsp = voice.dsp) :
      ∃ iq next, filtered ops microphone voice' = some (iq, next)
        ∧ next.dsp.Sized ∧ next.dsp.mode = voice.dsp.mode := by
    obtain ⟨step, dsp', hprocess, hsized, hmode⟩ :=
      h.process ops.toCFloat microphone
    refine ⟨step.output, { voice' with dsp := dsp' }, ?_, hsized, hmode⟩
    rw [filtered, hdsp, hprocess]
    rfl
  have hiq : ∃ iq next, iqOf ops settings cell voice = some (iq, next)
      ∧ next.dsp.Sized ∧ next.dsp.mode = voice.dsp.mode := by
    cases cell with
    | none => exact hfiltered _ rfl
    | some cell =>
      obtain ⟨microphone, networkIq⟩ := cell
      rw [iqOf]
      dsimp only
      by_cases hraw : settings.rawIq = true
      · rw [if_pos hraw]
        split
        · exact ⟨_, _, rfl, h, rfl⟩
        · exact ⟨_, _, rfl, h, rfl⟩
      · rw [if_neg hraw]
        refine hfiltered _ ?_
        split <;> rfl
  obtain ⟨iq, next, hiqOf, hsized, hmode⟩ := hiq
  rw [render, hiqOf]
  exact ⟨_, _, rfl, hsized, hmode⟩

end TxVoice

/-! ## The stream and its counts -/

namespace TxAudioStream

/-- An operation on the queue without samples: how many frames it took, how
many it gave out, and the queue then. What rendering finds in the samples is
handed to it. -/
def applyOp (clipped limited : ℕ) :
    TxSampleStream.Op → TxAudioStream → (ℕ × ℕ) × TxAudioStream
  | .pushPcm16le input, a =>
    (((a.pushPcm16le input.length).1, 0), (a.pushPcm16le input.length).2)
  | .pushIq16le input, a =>
    (((a.pushIq16le input.length).1, 0), (a.pushIq16le input.length).2)
  | .render frames, a =>
    ((0, min frames a.count), a.renderIq16le frames clipped limited)
  | .setCompressor enabled, a =>
    ((0, 0), { a with compressorEnabled := enabled })
  | .setRawIq enabled, a => ((0, 0), { a with rawIq := enabled })
  | .setRawIqTranslation enabled, a =>
    ((0, 0), { a with translateRawIq := enabled })
  | .beginGracefulStop, a => ((0, 0), a.beginGracefulStop)

/-- Operations one after the other, each with the frames clipped and limited:
how many frames were taken and given out in all. -/
def applyOps :
    List (TxSampleStream.Op × ℕ × ℕ) → TxAudioStream → (ℕ × ℕ) × TxAudioStream
  | [], a => ((0, 0), a)
  | (op, clipped, limited) :: rest, a =>
    let one := applyOp clipped limited op a
    let all := applyOps rest one.2
    ((one.1.1 + all.1.1, one.1.2 + all.1.2), all.2)

end TxAudioStream

namespace TxSampleStream

/-- **The counts of a stream**, as the transmitter is followed with them. -/
def counts (microphoneGainDb : ℕ) (s : TxSampleStream F D) : TxAudioStream where
  mode := s.voice.dsp.mode
  drivePercent := s.settings.drivePercent
  microphoneGainDb := microphoneGainDb
  compressorEnabled := s.settings.compressorEnabled
  rawIq := s.settings.rawIq
  translateRawIq := s.settings.translateRawIq
  count := s.count
  gracefulStopRequested := s.gracefulStopRequested
  stats := s.stats

/-- **What a stream is to keep** for no access to leave its array. -/
structure Sound (s : TxSampleStream F D) : Prop where
  microphone : s.microphone.length = txAudioCapacity
  networkIq : s.networkIq.length = txAudioCapacity
  readIndex : s.readIndex < txAudioCapacity
  writeIndex : s.writeIndex = (s.readIndex + s.count) % txAudioCapacity
  count : s.count ≤ txAudioCapacity
  dsp : s.voice.dsp.Sized

/-- There are cells. -/
theorem txAudioCapacity_pos : 0 < txAudioCapacity := by
  decide

/-- The number of frames in the queue is one of 64 bits. -/
theorem toNat_ofNat_count {n : ℕ} (h : n ≤ txAudioCapacity) :
    (UInt64.ofNat n).toNat = n :=
  UInt64.toNat_ofNat_of_lt' (h.trans_lt (by decide))

namespace Sound

variable {s : TxSampleStream F D}

/-- The cell to be written is there. -/
theorem writeIndex_lt (h : s.Sound) : s.writeIndex < txAudioCapacity := by
  rw [h.writeIndex]
  exact Nat.mod_lt _ txAudioCapacity_pos

end Sound

/-- **What a push leaves**: frames taken and frames dropped, the queue that
much longer, and all the rest as it was but the samples. -/
structure Pushed (taken dropped : ℕ) (s s' : TxSampleStream F D) : Prop where
  sound : s'.Sound
  settings : s'.settings = s.settings
  voice : s'.voice = s.voice
  graceful : s'.gracefulStopRequested = s.gracefulStopRequested
  count : s'.count = s.count + taken
  stats : s'.stats =
    { s.stats with
      droppedMicrophoneFrames :=
        s.stats.droppedMicrophoneFrames + UInt64.ofNat dropped
      peakQueuedFrames :=
        if taken = 0 then s.stats.peakQueuedFrames
        else raisePeak (UInt64.ofNat (s.count + taken))
          s.stats.peakQueuedFrames }

/-- Nothing pushed. -/
theorem Pushed.refl {s : TxSampleStream F D} (h : s.Sound) : Pushed 0 0 s s :=
  ⟨h, rfl, rfl, rfl, rfl, by simp⟩

/-- One push behind another. -/
theorem Pushed.trans {s t u : TxSampleStream F D} {taken dropped taken' dropped' : ℕ}
    (h : Pushed taken dropped s t) (h' : Pushed taken' dropped' t u) :
    Pushed (taken + taken') (dropped + dropped') s u where
  sound := h'.sound
  settings := h'.settings.trans h.settings
  voice := h'.voice.trans h.voice
  graceful := h'.graceful.trans h.graceful
  count := by rw [h'.count, h.count, Nat.add_assoc]
  stats := by
    rw [h'.stats, h.stats, h.count]
    simp only [TxAudioStats.mk.injEq, true_and, and_true]
    refine ⟨by rw [UInt64.ofNat_add, UInt64.add_assoc], ?_⟩
    by_cases hzero : taken = 0
    · subst hzero
      simp only [if_true, Nat.zero_add, Nat.add_zero]
    · by_cases hzero' : taken' = 0
      · subst hzero'
        simp only [if_true, Nat.add_zero]
      · rw [if_neg hzero, if_neg hzero', if_neg (by omega),
          raisePeak_raisePeak, Nat.add_assoc]
        have hroom := h'.sound.count
        rw [h'.count, h.count] at hroom
        rw [UInt64.le_iff_toNat_le, toNat_ofNat_count (by omega),
          toNat_ofNat_count (by omega)]
        omega

/-- A frame is put into a full queue or into a free cell. -/
theorem pushFrame_spec {s : TxSampleStream F D} (h : s.Sound)
    (frame : Int16 × Option Int16) :
    ∃ s', pushFrame ops frame s
        = some (if s.count = txAudioCapacity then 0 else 1, s')
      ∧ Pushed (if s.count = txAudioCapacity then 0 else 1)
        (if s.count = txAudioCapacity then 1 else 0) s s' := by
  rw [pushFrame]
  by_cases hfull : s.count = txAudioCapacity
  · simp only [if_pos hfull]
    exact ⟨_, rfl, ⟨⟨h.microphone, h.networkIq, h.readIndex, h.writeIndex,
      h.count, h.dsp⟩, rfl, rfl, rfl, rfl, rfl⟩⟩
  simp only [if_neg hfull]
  have hroom : s.count + 1 ≤ txAudioCapacity := by
    have := h.count
    omega
  have hindex : (s.writeIndex + 1) % txAudioCapacity
      = (s.readIndex + (s.count + 1)) % txAudioCapacity := by
    rw [h.writeIndex, Nat.mod_add_mod, Nat.add_assoc]
  have hpushed (microphone : List F) (networkIq : List (TxIq F))
      (peak : F) (sum : D)
      (hmicrophone : microphone.length = txAudioCapacity)
      (hnetworkIq : networkIq.length = txAudioCapacity) :
      Pushed 1 0 s
        { s with
          microphone := microphone
          networkIq := networkIq
          writeIndex := (s.writeIndex + 1) % txAudioCapacity
          count := s.count + 1
          stats :=
            { s.stats with
              peakQueuedFrames :=
                raisePeak (UInt64.ofNat (s.count + 1))
                  s.stats.peakQueuedFrames }
          inputPeak := peak
          inputSquareSum := sum } :=
    ⟨⟨hmicrophone, hnetworkIq, h.readIndex, hindex, hroom, h.dsp⟩, rfl, rfl,
      rfl, rfl, by simp⟩
  obtain ⟨sample, second⟩ := frame
  cases second with
  | some q =>
    dsimp only
    rw [Ring.put_eq _ (h.networkIq ▸ h.writeIndex_lt)]
    exact ⟨_, rfl, hpushed _ _ _ _ h.microphone
      ((List.length_set ..).trans h.networkIq)⟩
  | none =>
    dsimp only
    rw [Ring.put_eq _ (h.microphone ▸ h.writeIndex_lt)]
    exact ⟨_, rfl, hpushed _ _ _ _ ((List.length_set ..).trans h.microphone)
      h.networkIq⟩

/-- **Frames pushed**: those are taken for which there is room. -/
theorem pushFrames_spec {s : TxSampleStream F D} (h : s.Sound)
    (frames : List (Int16 × Option Int16)) :
    ∃ s', pushFrames ops frames s
        = some (min frames.length (txAudioCapacity - s.count), s')
      ∧ Pushed (min frames.length (txAudioCapacity - s.count))
        (frames.length - min frames.length (txAudioCapacity - s.count)) s s' := by
  induction frames generalizing s with
  | nil =>
    rw [List.length_nil, Nat.zero_min]
    exact ⟨s, rfl, .refl h⟩
  | cons frame rest ih =>
    obtain ⟨t, hpush, hpushed⟩ := pushFrame_spec ops h frame
    obtain ⟨u, hrest, hpushedRest⟩ := ih hpushed.sound
    have hcount := h.count
    have htaken : (if s.count = txAudioCapacity then 0 else 1)
        + min rest.length (txAudioCapacity - t.count)
          = min (rest.length + 1) (txAudioCapacity - s.count) := by
      rw [hpushed.count]
      split <;> omega
    have hdropped : (if s.count = txAudioCapacity then 1 else 0)
        + (rest.length - min rest.length (txAudioCapacity - t.count))
          = rest.length + 1 - min (rest.length + 1)
            (txAudioCapacity - s.count) := by
      rw [hpushed.count]
      split <;> omega
    rw [List.length_cons, ← htaken, htaken, ← hdropped, ← htaken]
    refine ⟨u, ?_, hpushed.trans hpushedRest⟩
    rw [pushFrames, hpush]
    show (pushFrames ops rest t).bind _ = _
    rw [hrest]
    rfl

/-- The frames of PCM bytes. -/
@[simp] theorem length_pcmFrames (input : List UInt8) :
    (pcmFrames input).length = input.length / 2 := by
  fun_induction pcmFrames input with
  | case1 a b rest ih =>
    rw [List.length_cons, ih, List.length_cons, List.length_cons]
    omega
  | case2 input hshort =>
    match input with
    | [] => rfl
    | [a] => simp
    | a :: b :: rest => exact absurd rfl (hshort a b rest)

/-- The frames of I/Q bytes. -/
@[simp] theorem length_iqFrames (rawIq : Bool) (input : List UInt8) :
    (iqFrames rawIq input).length = input.length / 4 := by
  fun_induction iqFrames rawIq input with
  | case1 a b c d rest ih =>
    simp only [List.length_cons, ih]
    omega
  | case2 input hshort =>
    match input with
    | [] => rfl
    | [a] => simp
    | [a, b] => simp
    | [a, b, c] => simp
    | a :: b :: c :: d :: rest => exact absurd rfl (hshort a b c d rest)

/-- The counts of a stream into which frames were pushed. -/
theorem Pushed.counts {s s' : TxSampleStream F D} {frames : ℕ}
    (h : Pushed (min frames (txAudioCapacity - s.count))
      (frames - min frames (txAudioCapacity - s.count)) s s')
    (microphoneGainDb : ℕ) :
    (countedFrames ops frames s').counts microphoneGainDb
      = ((s.counts microphoneGainDb).pushFrames frames).2 := by
  simp only [countedFrames, TxSampleStream.counts, TxAudioStream.pushFrames,
    h.settings, h.voice, h.graceful, h.count, h.stats]
  rfl

/-- What either push does with frames it looks at. -/
theorem pushed_counts {s : TxSampleStream F D} (h : s.Sound)
    {frames : List (Int16 × Option Int16)} (length microphoneGainDb : ℕ)
    (hlength : frames.length = length) :
    ∃ s', (pushFrames ops frames s).map
          (fun r => (r.1, countedFrames ops length r.2))
        = some (((s.counts microphoneGainDb).pushFrames length).1, s')
      ∧ s'.Sound
      ∧ s'.counts microphoneGainDb
        = ((s.counts microphoneGainDb).pushFrames length).2 := by
  subst hlength
  obtain ⟨t, hpush, hpushed⟩ := pushFrames_spec ops h frames
  rw [hpush]
  refine ⟨_, rfl, ?_, hpushed.counts ops microphoneGainDb⟩
  exact ⟨hpushed.sound.microphone, hpushed.sound.networkIq,
    hpushed.sound.readIndex, hpushed.sound.writeIndex, hpushed.sound.count,
    hpushed.sound.dsp⟩

/-! ## Frames out -/

/-- **What a frame leaves**: a cell given out if there was one, or counted as
missing. -/
structure Rendered (frames taken clipped limited : ℕ)
    (s s' : TxSampleStream F D) : Prop where
  sound : s'.Sound
  settings : s'.settings = s.settings
  mode : s'.voice.dsp.mode = s.voice.dsp.mode
  graceful : s'.gracefulStopRequested = s.gracefulStopRequested
  taken_le : taken ≤ frames
  count : s.count = s'.count + taken
  stats : s'.stats =
    { s.stats with
      underrunFrames :=
        s.stats.underrunFrames + UInt64.ofNat (frames - taken)
      clippedFrames := s.stats.clippedFrames + UInt64.ofNat clipped
      limitedFrames := s.stats.limitedFrames + UInt64.ofNat limited }

/-- A frame is taken from the queue, if it holds one. -/
theorem takeCell_spec {s : TxSampleStream F D} (h : s.Sound) :
    ∃ cell s', takeCell ops s = some (cell, s') ∧ s'.voice = s.voice
      ∧ Rendered 1 (min 1 s.count) 0 0 s s' := by
  rw [takeCell]
  by_cases hsome : 0 < s.count
  · have hindex : ((s.readIndex + 1) % txAudioCapacity + (s.count - 1))
        % txAudioCapacity = s.writeIndex := by
      rw [h.writeIndex, Nat.mod_add_mod]
      congr 1
      omega
    have hrendered : Rendered 1 (min 1 s.count) 0 0 s
        { s with
          readIndex := (s.readIndex + 1) % txAudioCapacity
          count := s.count - 1 } :=
      ⟨⟨h.microphone, h.networkIq, Nat.mod_lt _ txAudioCapacity_pos,
          hindex.symm, (Nat.sub_le _ _).trans h.count, h.dsp⟩,
        rfl, rfl, rfl, by omega, by dsimp only; omega, by
          rw [Nat.min_eq_left hsome]
          simp⟩
    rw [if_pos hsome,
      List.getElem?_eq_getElem (h.microphone ▸ h.readIndex)]
    dsimp only [Option.bind_eq_bind, Option.bind_some]
    by_cases hraw : s.settings.rawIq = true
    · rw [if_pos hraw, List.getElem?_eq_getElem (h.networkIq ▸ h.readIndex)]
      exact ⟨_, _, rfl, rfl, hrendered⟩
    · rw [if_neg hraw]
      exact ⟨_, _, rfl, rfl, hrendered⟩
  · have hzero : s.count = 0 := by omega
    rw [if_neg hsome]
    exact ⟨_, _, rfl, rfl, ⟨h.microphone, h.networkIq, h.readIndex,
      h.writeIndex, h.count, h.dsp⟩, rfl, rfl, rfl, by omega,
      by rw [hzero]; rfl, by rw [hzero]; simp⟩

/-- One frame of the loop. -/
theorem renderFrame_spec {s : TxSampleStream F D} (h : s.Sound) :
    ∃ frame s', renderFrame ops s = some (frame, s')
      ∧ Rendered 1 (min 1 s.count) frame.clipped.toNat frame.limited.toNat
        s s' := by
  obtain ⟨cell, t, htake, hvoice, htaken⟩ := takeCell_spec ops h
  obtain ⟨frame, voice, hrender, hsized, hmode⟩ :=
    t.voice.render_isSome ops t.settings t.fadeOut cell htaken.sound.dsp
  refine ⟨frame,
    { t with voice := voice, stats := countedRender frame t.stats }, ?_, ?_⟩
  · rw [renderFrame, htake]
    show (TxVoice.render ops t.settings t.fadeOut cell t.voice).bind _ = _
    rw [hrender]
    rfl
  · exact ⟨⟨htaken.sound.microphone, htaken.sound.networkIq,
        htaken.sound.readIndex, htaken.sound.writeIndex, htaken.sound.count,
        hsized⟩,
      htaken.settings, hmode.trans (hvoice ▸ rfl), htaken.graceful,
      htaken.taken_le, htaken.count, by
        simp [countedRender, htaken.stats]⟩

/-- How many of the frames were clipped. -/
def clippedOf (frames : List TxRendered) : ℕ :=
  frames.countP TxRendered.clipped

/-- How many of the frames were limited. -/
def limitedOf (frames : List TxRendered) : ℕ :=
  frames.countP TxRendered.limited

/-- **Frames rendered**: as many as asked for, and as many of them out of the
queue as it held. -/
theorem renderFrames_spec {s : TxSampleStream F D} (h : s.Sound)
    (frames : ℕ) :
    ∃ out s', renderFrames ops frames s = some (out, s')
      ∧ out.length = frames
      ∧ Rendered frames (min frames s.count) (clippedOf out) (limitedOf out)
        s s' := by
  induction frames generalizing s with
  | zero =>
    exact ⟨[], s, rfl, rfl, h, rfl, rfl, rfl, Nat.min_le_left _ _, by
      rw [Nat.zero_min, Nat.add_zero], by simp [clippedOf, limitedOf]⟩
  | succ frames ih =>
    obtain ⟨frame, t, hframe, hone⟩ := renderFrame_spec ops h
    obtain ⟨out, u, hrest, hlength, hall⟩ := ih hone.sound
    have hcount := hone.count
    have hcount' := hall.count
    refine ⟨frame :: out, u, ?_, congrArg (· + 1) hlength, hall.sound,
      hall.settings.trans hone.settings, hall.mode.trans hone.mode,
      hall.graceful.trans hone.graceful, Nat.min_le_left _ _, by omega, ?_⟩
    · rw [renderFrames, hframe]
      show (renderFrames ops frames t).bind _ = _
      rw [hrest]
      rfl
    · rw [hall.stats, hone.stats]
      simp only [TxAudioStats.mk.injEq, true_and, and_true, clippedOf,
        limitedOf, List.countP_cons]
      have hone : ∀ (b : Bool) (n : ℕ), UInt64.ofNat (n + if b then 1 else 0)
          = UInt64.ofNat b.toNat + UInt64.ofNat n := by
        intro b n
        cases b
        · simp
        · rw [if_pos rfl, UInt64.ofNat_add, UInt64.add_comm]
          rfl
      rw [hone, hone, UInt64.add_assoc, UInt64.add_assoc, UInt64.add_assoc,
        ← UInt64.ofNat_add]
      exact ⟨congrArg (_ + UInt64.ofNat ·) (by omega), rfl, rfl⟩

/-! ## Runs -/

/-- What went through in all. -/
def total : List Flow → Flow
  | [] => {}
  | flow :: rest =>
    { accepted := flow.accepted + (total rest).accepted
      consumed := flow.consumed + (total rest).consumed
      output := flow.output ++ (total rest).output }

/-- The bytes of frames. -/
theorem length_bytes (frames : List TxRendered) :
    (frames.flatMap TxRendered.bytes).length = 4 * frames.length := by
  induction frames with
  | nil => rfl
  | cons frame rest ih =>
    rw [List.flatMap_cons, List.length_append, ih, List.length_cons]
    show 4 + _ = _
    omega

/-- How many frames an operation asks for. -/
def Op.frames : Op → ℕ
  | .render frames => frames
  | _ => 0

/-- **A step of the stream is one of the queue without samples**, with some
frames clipped and some limited, and puts out the frames it is asked for. -/
structure Simulates (microphoneGainDb : ℕ) (op : Op) (flow : Flow)
    (s s' : TxSampleStream F D) : Prop where
  sound : s'.Sound
  output : flow.output.length = 4 * op.frames
  counted : ∃ clipped limited, clipped ≤ op.frames ∧ limited ≤ op.frames
    ∧ ((flow.accepted, flow.consumed), s'.counts microphoneGainDb)
      = TxAudioStream.applyOp clipped limited op (s.counts microphoneGainDb)

variable {s : TxSampleStream F D} (microphoneGainDb : ℕ)

/-- Of PCM bytes. -/
theorem Sound.simulates_pcm (h : s.Sound) (input : List UInt8) :
    ∃ flow s', apply ops (.pushPcm16le input) s = some (flow, s')
      ∧ Simulates microphoneGainDb (.pushPcm16le input) flow s s' := by
  rw [apply, pushPcm16le]
  by_cases hrefused : (s.settings.rawIq || s.gracefulStopRequested) = true
  · rw [if_pos hrefused]
    refine ⟨_, _, rfl, h, rfl, 0, 0, le_rfl, le_rfl, ?_⟩
    rw [TxAudioStream.applyOp, TxAudioStream.pushPcm16le, if_pos]
    exact hrefused
  · obtain ⟨s', hpush, hsound, hcounts⟩ := pushed_counts ops h
      (input.length / 2) microphoneGainDb (length_pcmFrames input)
    obtain ⟨⟨accepted, t⟩, hframes, hmap⟩ := Option.map_eq_some_iff.mp hpush
    obtain ⟨rfl, rfl⟩ := Prod.mk.inj hmap
    rw [if_neg hrefused, hframes]
    refine ⟨_, _, rfl, hsound, rfl, 0, 0, le_rfl, le_rfl, ?_⟩
    rw [TxAudioStream.applyOp, TxAudioStream.pushPcm16le, if_neg]
    · exact congrArg _ hcounts
    · exact hrefused

/-- Of I/Q bytes. -/
theorem Sound.simulates_iq (h : s.Sound) (input : List UInt8) :
    ∃ flow s', apply ops (.pushIq16le input) s = some (flow, s')
      ∧ Simulates microphoneGainDb (.pushIq16le input) flow s s' := by
  rw [apply, pushIq16le]
  by_cases hrefused : s.gracefulStopRequested = true
  · rw [if_pos hrefused]
    refine ⟨_, _, rfl, h, rfl, 0, 0, le_rfl, le_rfl, ?_⟩
    rw [TxAudioStream.applyOp, TxAudioStream.pushIq16le, if_pos]
    exact hrefused
  · obtain ⟨s', hpush, hsound, hcounts⟩ := pushed_counts ops h
      (input.length / 4) microphoneGainDb
      (length_iqFrames s.settings.rawIq input)
    obtain ⟨⟨accepted, t⟩, hframes, hmap⟩ := Option.map_eq_some_iff.mp hpush
    obtain ⟨rfl, rfl⟩ := Prod.mk.inj hmap
    rw [if_neg hrefused, hframes]
    refine ⟨_, _, rfl, hsound, rfl, 0, 0, le_rfl, le_rfl, ?_⟩
    rw [TxAudioStream.applyOp, TxAudioStream.pushIq16le, if_neg]
    · exact congrArg _ hcounts
    · exact hrefused

/-- Of frames rendered. -/
theorem Sound.simulates_render (h : s.Sound) (frames : ℕ) :
    ∃ flow s', apply ops (.render frames) s = some (flow, s')
      ∧ Simulates microphoneGainDb (.render frames) flow s s' := by
  obtain ⟨out, t, hrender, hlength, hrendered⟩ := renderFrames_spec ops h frames
  have hcount := hrendered.count
  have hclipped : clippedOf out ≤ frames := hlength ▸ List.countP_le_length
  have hlimited : limitedOf out ≤ frames := hlength ▸ List.countP_le_length
  rw [apply, renderIq16le, hrender]
  refine ⟨_, _, rfl, ?_, ?_, clippedOf out, limitedOf out, hclipped, hlimited,
    ?_⟩
  · exact ⟨hrendered.sound.microphone, hrendered.sound.networkIq,
      hrendered.sound.readIndex, hrendered.sound.writeIndex,
      hrendered.sound.count, hrendered.sound.dsp⟩
  · show (out.flatMap TxRendered.bytes).length = 4 * frames
    rw [length_bytes, hlength]
  · have hleft : t.count = s.count - min frames s.count := by omega
    have hqueued : s.count - (s.count - min frames s.count)
        = min frames s.count := by omega
    simp only [TxAudioStream.applyOp, TxAudioStream.renderIq16le, counts,
      queued, hrendered.settings, hrendered.mode, hrendered.graceful,
      hrendered.stats, hqueued, hleft]

/-- **The stream refines the queue without samples**, whatever is done to
it, and it never fails. -/
theorem Sound.simulates (h : s.Sound) (op : Op) :
    ∃ flow s', apply ops op s = some (flow, s')
      ∧ Simulates microphoneGainDb op flow s s' := by
  have hset (settings : TxVoiceSettings F) (phase : F) (graceful : Bool) :
      Sound
        { s with
          settings := settings
          voice := { s.voice with rawIqPhase := phase }
          gracefulStopRequested := graceful } :=
    ⟨h.microphone, h.networkIq, h.readIndex, h.writeIndex, h.count,
      ⟨h.dsp.bandpass, h.dsp.hilbert, h.dsp.audioHistory,
        h.dsp.filteredHistory, h.dsp.audioIndex, h.dsp.filteredIndex⟩⟩
  cases op with
  | pushPcm16le input => exact h.simulates_pcm ops microphoneGainDb input
  | pushIq16le input => exact h.simulates_iq ops microphoneGainDb input
  | render frames => exact h.simulates_render ops microphoneGainDb frames
  | setCompressor enabled =>
    exact ⟨_, _, rfl, hset _ _ _, rfl, 0, 0, le_rfl, le_rfl, rfl⟩
  | setRawIq enabled =>
    exact ⟨_, _, rfl, hset _ _ _, rfl, 0, 0, le_rfl, le_rfl, rfl⟩
  | setRawIqTranslation enabled =>
    exact ⟨_, _, rfl, hset _ _ _, rfl, 0, 0, le_rfl, le_rfl, rfl⟩
  | beginGracefulStop =>
    rw [apply, beginGracefulStop]
    by_cases hraw : s.settings.rawIq = true
    · rw [if_pos hraw]
      refine ⟨_, _, rfl, h, rfl, 0, 0, le_rfl, le_rfl, ?_⟩
      rw [TxAudioStream.applyOp, TxAudioStream.beginGracefulStop, if_pos]
      exact hraw
    · rw [if_neg hraw]
      refine ⟨_, _, rfl, hset _ _ _, rfl, 0, 0, le_rfl, le_rfl, ?_⟩
      rw [TxAudioStream.applyOp, TxAudioStream.beginGracefulStop, if_neg]
      · rfl
      · exact hraw

end TxSampleStream

namespace TxAudioStream

/-- **The counters add up**, modulo `2 ^ 64`, with what was taken, what was
given out and what was asked for in all. -/
structure Conserves (accepted consumed frames : ℕ) (a : TxAudioStream) :
    Prop where
  received : a.stats.microphoneFrames
    = UInt64.ofNat accepted + a.stats.droppedMicrophoneFrames
  queued : accepted = consumed + a.count
  rendered : a.stats.outputFrames
    = UInt64.ofNat consumed + a.stats.underrunFrames
  output : a.stats.outputFrames = UInt64.ofNat frames
  clipped : ∃ clipped ≤ frames, a.stats.clippedFrames = UInt64.ofNat clipped
  limited : ∃ limited ≤ frames, a.stats.limitedFrames = UInt64.ofNat limited
  count_le_peak : a.count ≤ a.stats.peakQueuedFrames.toNat
  peak_le : a.stats.peakQueuedFrames.toNat ≤ txAudioCapacity

variable {a : TxAudioStream} {accepted consumed asked : ℕ}

/-- A number in two parts, each counted. -/
theorem ofNat_of_parts {n part rest : ℕ} (h : n = part + rest) :
    UInt64.ofNat n = UInt64.ofNat part + UInt64.ofNat rest := by
  rw [h, UInt64.ofNat_add]

/-- Frames pushed are taken or dropped. -/
theorem Conserves.pushFrames (h : a.Conserves accepted consumed asked)
    (frames : ℕ) :
    (a.pushFrames frames).2.Conserves
      (accepted + (a.pushFrames frames).1) consumed asked := by
  have hqueued := h.queued
  have hcount := h.count_le_peak
  have hpeak := h.peak_le
  have hparts : UInt64.ofNat frames
      = UInt64.ofNat (min frames (txAudioCapacity - a.count))
        + UInt64.ofNat (frames - min frames (txAudioCapacity - a.count)) :=
    ofNat_of_parts (by omega)
  have hsum : (UInt64.ofNat (a.count + min frames (txAudioCapacity - a.count))
      ).toNat = a.count + min frames (txAudioCapacity - a.count) :=
    TxSampleStream.toNat_ofNat_count (by omega)
  refine ⟨?_, ?_, h.rendered, h.output, h.clipped, h.limited, ?_, ?_⟩
  · dsimp only [TxAudioStream.pushFrames]
    rw [h.received, hparts, UInt64.ofNat_add]
    ac_rfl
  · dsimp only [TxAudioStream.pushFrames]
    omega
  · dsimp only [TxAudioStream.pushFrames]
    split
    · omega
    · rw [toNat_raisePeak, hsum]
      exact le_max_right _ _
  · dsimp only [TxAudioStream.pushFrames]
    split
    · exact hpeak
    · rw [toNat_raisePeak, hsum]
      omega

/-- Frames rendered are given out or missing. -/
theorem Conserves.renderIq16le (h : a.Conserves accepted consumed asked)
    {frames clipped limited : ℕ} (hclip : clipped ≤ frames)
    (hlimit : limited ≤ frames) :
    (a.renderIq16le frames clipped limited).Conserves accepted
      (consumed + min frames a.count) (asked + frames) := by
  have hqueued := h.queued
  have hparts : UInt64.ofNat frames = UInt64.ofNat (min frames a.count)
      + UInt64.ofNat (frames - min frames a.count) :=
    ofNat_of_parts (by omega)
  obtain ⟨earlier, hearlier, hclipped⟩ := h.clipped
  obtain ⟨before, hbefore, hlimited⟩ := h.limited
  refine ⟨h.received, ?_, ?_, ?_, ⟨earlier + clipped, by omega, ?_⟩,
    ⟨before + limited, by omega, ?_⟩, (Nat.sub_le _ _).trans h.count_le_peak,
    h.peak_le⟩
  · dsimp only [TxAudioStream.renderIq16le]
    omega
  · dsimp only [TxAudioStream.renderIq16le]
    rw [h.rendered, hparts, UInt64.ofNat_add]
    ac_rfl
  · dsimp only [TxAudioStream.renderIq16le]
    rw [h.output, UInt64.ofNat_add]
  · dsimp only [TxAudioStream.renderIq16le]
    rw [hclipped, UInt64.ofNat_add]
  · dsimp only [TxAudioStream.renderIq16le]
    rw [hlimited, UInt64.ofNat_add]

/-- **No operation unsettles the counters.** -/
theorem Conserves.applyOp (h : a.Conserves accepted consumed asked)
    {op : TxSampleStream.Op} {clipped limited : ℕ} (hclip : clipped ≤ op.frames)
    (hlimit : limited ≤ op.frames) :
    (TxAudioStream.applyOp clipped limited op a).2.Conserves
      (accepted + (TxAudioStream.applyOp clipped limited op a).1.1)
      (consumed + (TxAudioStream.applyOp clipped limited op a).1.2)
      (asked + op.frames) := by
  have hset (compressor raw translate graceful : Bool) :
      Conserves accepted consumed asked
        { a with
          compressorEnabled := compressor
          rawIq := raw
          translateRawIq := translate
          gracefulStopRequested := graceful } :=
    ⟨h.received, h.queued, h.rendered, h.output, h.clipped, h.limited,
      h.count_le_peak, h.peak_le⟩
  cases op with
  | pushPcm16le input =>
    dsimp only [TxAudioStream.applyOp, TxAudioStream.pushPcm16le]
    split
    · exact h
    · exact h.pushFrames _
  | pushIq16le input =>
    dsimp only [TxAudioStream.applyOp, TxAudioStream.pushIq16le]
    split
    · exact h
    · exact h.pushFrames _
  | render frames => exact h.renderIq16le hclip hlimit
  | setCompressor enabled => exact hset _ _ _ _
  | setRawIq enabled => exact hset _ _ _ _
  | setRawIqTranslation enabled => exact hset _ _ _ _
  | beginGracefulStop =>
    dsimp only [TxAudioStream.applyOp, TxAudioStream.beginGracefulStop]
    split
    · exact h
    · exact hset _ _ _ _

/-- No run does. -/
theorem Conserves.applyOps {steps : List (TxSampleStream.Op × ℕ × ℕ)}
    (h : a.Conserves accepted consumed asked)
    (hsteps : ∀ step ∈ steps,
      step.2.1 ≤ step.1.frames ∧ step.2.2 ≤ step.1.frames) :
    (TxAudioStream.applyOps steps a).2.Conserves
      (accepted + (TxAudioStream.applyOps steps a).1.1)
      (consumed + (TxAudioStream.applyOps steps a).1.2)
      (asked + ((steps.map Prod.fst).map TxSampleStream.Op.frames).sum) := by
  induction steps generalizing a accepted consumed asked with
  | nil => exact h
  | cons step rest ih =>
    obtain ⟨hclip, hlimit⟩ := hsteps step (List.mem_cons_self ..)
    have hrest := ih (h.applyOp hclip hlimit) fun step hmem =>
      hsteps step (List.mem_cons_of_mem _ hmem)
    rw [Nat.add_assoc, Nat.add_assoc, Nat.add_assoc] at hrest
    exact hrest

end TxAudioStream

namespace TxSampleStream

/-- A new stream is as it is to be, and nothing went through it. -/
theorem sound_init {mode : TxMode} {drivePercent : ℕ} {microphoneGain : F}
    {s : TxSampleStream F D}
    (h : init ops mode drivePercent microphoneGain = some s)
    (microphoneGainDb : ℕ) :
    s.Sound ∧ (s.counts microphoneGainDb).Conserves 0 0 0
      ∧ s.counts microphoneGainDb
        = { mode := mode, drivePercent := drivePercent
            microphoneGainDb := microphoneGainDb } := by
  unfold init at h
  split at h
  · exact absurd h.symm (Option.some_ne_none _)
  obtain ⟨dsp, hdsp, hs⟩ := Option.bind_eq_some_iff.mp h
  obtain rfl := Option.some.inj hs
  refine ⟨⟨List.length_replicate, List.length_replicate, txAudioCapacity_pos,
    rfl, Nat.zero_le _, (TxDsp.sized_init _ hdsp).1⟩, ?_⟩
  refine ⟨⟨rfl, rfl, rfl, rfl, ⟨0, le_rfl, rfl⟩, ⟨0, le_rfl, rfl⟩, le_rfl,
    Nat.zero_le _⟩, ?_⟩
  simp only [counts, (TxDsp.sized_init _ hdsp).2]

/-- **Runs of the stream refine runs of the queue without samples.** -/
theorem Sound.run_simulates {s : TxSampleStream F D} (h : s.Sound)
    (microphoneGainDb : ℕ) (as : List Op) :
    ∃ flows s' steps, Transducer.run (apply ops) as s = some (flows, s')
      ∧ s'.Sound ∧ steps.map Prod.fst = as
      ∧ (∀ step ∈ steps, step.2.1 ≤ step.1.frames ∧ step.2.2 ≤ step.1.frames)
      ∧ (total flows).output.length = 4 * (as.map Op.frames).sum
      ∧ (((total flows).accepted, (total flows).consumed),
          s'.counts microphoneGainDb)
        = TxAudioStream.applyOps steps (s.counts microphoneGainDb) := by
  induction as generalizing s with
  | nil => exact ⟨[], s, [], rfl, h, rfl, by simp, rfl, rfl⟩
  | cons op as ih =>
    obtain ⟨flow, t, hstep, hsound, houtput, clipped, limited, hclip, hlimit,
      hcounted⟩ := h.simulates ops microphoneGainDb op
    obtain ⟨flows, u, steps, hrun, hsound', hops, hbound, houtputs, hall⟩ :=
      ih hsound
    refine ⟨flow :: flows, u, (op, clipped, limited) :: steps,
      Transducer.run_cons hstep hrun, hsound', congrArg _ hops, ?_, ?_, ?_⟩
    · intro step hmem
      rcases List.mem_cons.mp hmem with rfl | hmem
      · exact ⟨hclip, hlimit⟩
      · exact hbound step hmem
    · rw [total, List.length_append, List.map_cons, List.sum_cons, houtput,
        houtputs, Nat.mul_add]
    · rw [TxAudioStream.applyOps, ← hcounted, ← hall]
      rfl

/-- **The stream accounts for every frame**: whatever is done to a stream that
was set up, in whatever order, no access leaves an array; frames received were
taken or dropped, frames taken were given out or are queued in the cells
between the two indices, frames asked for are put out, four bytes each, and
were given out by the queue or are counted as missing. The counters are of 64
bits: they count modulo `2 ^ 64`, and as long as fewer frames were asked for
no counter of frames exceeds what it counts among. -/
theorem run_accounts {mode : TxMode} {drivePercent : ℕ} {microphoneGain : F}
    {s : TxSampleStream F D}
    (h : init ops mode drivePercent microphoneGain = some s) (as : List Op) :
    ∃ flows s', Transducer.run (apply ops) as s = some (flows, s')
      ∧ s'.stats.microphoneFrames
        = UInt64.ofNat (total flows).accepted + s'.stats.droppedMicrophoneFrames
      ∧ (total flows).accepted = (total flows).consumed + s'.count
      ∧ s'.stats.outputFrames
        = UInt64.ofNat (total flows).consumed + s'.stats.underrunFrames
      ∧ s'.stats.outputFrames = UInt64.ofNat (as.map Op.frames).sum
      ∧ (total flows).output.length = 4 * (as.map Op.frames).sum
      ∧ s'.writeIndex = (s'.readIndex + s'.count) % txAudioCapacity
      ∧ s'.count ≤ s'.stats.peakQueuedFrames.toNat
      ∧ s'.stats.peakQueuedFrames.toNat ≤ txAudioCapacity
      ∧ ((as.map Op.frames).sum < 2 ^ 64 →
        s'.stats.clippedFrames ≤ s'.stats.outputFrames
          ∧ s'.stats.limitedFrames ≤ s'.stats.outputFrames) := by
  obtain ⟨hsound, hconserves, -⟩ := sound_init ops h 0
  obtain ⟨flows, s', steps, hrun, hsound', hops, hsteps, houtput, hall⟩ :=
    hsound.run_simulates ops 0 as
  have hcounts := hconserves.applyOps hsteps
  rw [← hall, hops] at hcounts
  simp only [Nat.zero_add] at hcounts
  refine ⟨flows, s', hrun, hcounts.received, hcounts.queued, hcounts.rendered,
    hcounts.output, houtput, hsound'.writeIndex, hcounts.count_le_peak,
    hcounts.peak_le, fun hfew => ?_⟩
  have hless {n : ℕ} {counter : UInt64} (hle : n ≤ (as.map Op.frames).sum)
      (hcounter : counter = UInt64.ofNat n) :
      counter ≤ s'.stats.outputFrames := by
    have houtputs : s'.stats.outputFrames = _ := hcounts.output
    rw [hcounter, houtputs, UInt64.le_iff_toNat_le,
      UInt64.toNat_ofNat_of_lt' (hle.trans_lt hfew),
      UInt64.toNat_ofNat_of_lt' hfew]
    exact hle
  obtain ⟨clipped, hclip, hclipped⟩ := hcounts.clipped
  obtain ⟨limited, hlimit, hlimited⟩ := hcounts.limited
  exact ⟨hless hclip hclipped, hless hlimit hlimited⟩

/-- A stream in the upper sideband at full drive, with rational numbers. -/
theorem init_rational : ∃ s : TxSampleStream ℚ ℚ,
    init TxFloats.rational .usb 100 1 = some s := by
  have hdsp : TxDsp.init TxFloats.rational.toCFloat .usb txDefaultLowCutHz
      txDefaultHighCutHz = some _ := if_neg (by decide)
  exact ⟨_, (if_neg (by decide)).trans
    ((congrArg (Option.bind · _) hdsp).trans rfl)⟩

/-- Two frames pushed as I/Q and three rendered. -/
theorem run_accounts_three : ∃ (s : TxSampleStream ℚ ℚ) (flows : List Flow)
    (s' : TxSampleStream ℚ ℚ), init TxFloats.rational .usb 100 1 = some s
      ∧ Transducer.run (apply TxFloats.rational)
          [.pushIq16le [1, 0, 2, 0, 3, 0, 4, 0], .render 3] s = some (flows, s')
      ∧ s'.stats.outputFrames = 3 ∧ (total flows).output.length = 12
      ∧ s'.stats.clippedFrames ≤ 3 := by
  obtain ⟨s, hinit⟩ := init_rational
  obtain ⟨flows, s', hrun, -, -, -, houtputs, houtput, -, -, -, hfew⟩ :=
    run_accounts TxFloats.rational hinit
      [.pushIq16le [1, 0, 2, 0, 3, 0, 4, 0], .render 3]
  have hclipped := (hfew (by decide)).1
  rw [houtputs] at hclipped
  exact ⟨s, flows, s', hinit, hrun, houtputs, houtput, hclipped⟩

end TxSampleStream
