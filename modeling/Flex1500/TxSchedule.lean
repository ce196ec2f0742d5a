import Mathlib.Data.List.ReduceOption
import Flex1500.TxSamplesLaw

/-!
# What is put out does not depend on when

The frames put out are what the filters make of the cells that were taken out
of the queue, silence where there was none. As long as nothing is missing and
nothing was dropped, these are the first of the samples pushed: in what pieces
they were pushed and rendered, and through which of the two entrances they
came, is not to be seen in the output.
-/

universe u

variable {F D : Type u} (ops : TxFloats F D)

namespace TxSampleStream

/-- The cell a frame is put in. The ring it is not put in holds zeros. -/
def cellOf (frame : Int16 × Option Int16) : TxCell F :=
  match frame.2 with
  | some q =>
    (ops.zero, ⟨normalizedSample ops frame.1, normalizedSample ops q⟩)
  | none => (normalizedSample ops frame.1, zeroIq ops)

/-- The frames an operation presents to the queue. -/
def Op.presented (rawIq : Bool) : Op → List (Int16 × Option Int16)
  | .pushPcm16le input => if rawIq then [] else pcmFrames input
  | .pushIq16le input => iqFrames rawIq input
  | _ => []

/-- The operations of a transmission: pushing and rendering. -/
def Op.Transmits : Op → Prop
  | .pushPcm16le _ | .pushIq16le _ | .render _ => True
  | _ => False

instance : DecidablePred Op.Transmits
  | .pushPcm16le _ | .pushIq16le _ | .render _ => .isTrue trivial
  | .setCompressor _ | .setRawIq _ | .setRawIqTranslation _
  | .beginGracefulStop => .isFalse id

/-- A stream as a transmission is begun with it. -/
def prepared (compressor rawIq translate : Bool) (s : TxSampleStream F D) :
    TxSampleStream F D :=
  ((s.setCompressor compressor).setRawIq rawIq).setRawIqTranslation ops translate

/-! ## The queue -/

/-- **What the rings hold**: cells in a row, in one of the rings, with zeros
in place of what the other one would give. -/
structure Queues (s : TxSampleStream F D) (cells : List (TxCell F)) : Prop where
  sound : s.Sound
  graceful : s.gracefulStopRequested = false
  count : cells.length = s.count
  pcm : s.settings.rawIq = false →
    Ring.Holds s.microphone s.readIndex (cells.map Prod.fst)
      ∧ ∀ c ∈ cells, c.2 = zeroIq ops
  raw : s.settings.rawIq = true →
    Ring.Holds s.networkIq s.readIndex (cells.map Prod.snd)
      ∧ (∀ c ∈ cells, c.1 = ops.zero)
      ∧ s.microphone = List.replicate txAudioCapacity ops.zero

namespace Queues

variable {ops} {s : TxSampleStream F D} {cells : List (TxCell F)}

/-- **A cell taken** is the first one; from an empty queue there is none. -/
theorem takeCell (h : Queues ops s cells) :
    ∃ s', takeCell ops s = some (cells.head?, s') ∧ Queues ops s' cells.tail
      ∧ s'.settings = s.settings ∧ s'.voice = s.voice := by
  obtain ⟨cell, s', htake, hvoice, hrendered⟩ := takeCell_spec ops h.sound
  have hcount := h.count
  cases cells with
  | nil =>
    have hzero : ¬ 0 < s.count := by
      rw [← hcount]
      exact Nat.lt_irrefl 0
    rw [TxSampleStream.takeCell, if_neg hzero] at htake ⊢
    obtain ⟨rfl, rfl⟩ := Prod.mk.inj (Option.some.inj htake)
    exact ⟨_, rfl, ⟨hrendered.sound, h.graceful, h.count, h.pcm, h.raw⟩, rfl,
      rfl⟩
  | cons c rest =>
    have hsome : 0 < s.count := by
      rw [← hcount]
      exact Nat.zero_lt_succ _
    have hleft : rest.length = s.count - 1 := by
      rw [← hcount]
      rfl
    obtain ⟨x, iq⟩ := c
    rw [TxSampleStream.takeCell, if_pos hsome] at htake ⊢
    cases hraw : s.settings.rawIq with
    | false =>
      obtain ⟨hholds, hzeros⟩ := h.pcm hraw
      obtain rfl : iq = zeroIq ops := hzeros _ (List.mem_cons_self ..)
      have hhead : s.microphone[s.readIndex]? = some x := hholds.head
      have htail := hholds.tail
      rw [h.sound.microphone] at htail
      simp only [hhead, hraw, Option.bind_eq_bind, Option.bind_some,
        Bool.false_eq_true, if_false, Option.some.injEq, Prod.mk.injEq]
        at htake ⊢
      obtain ⟨-, rfl⟩ := htake
      exact ⟨_, ⟨rfl, rfl⟩, ⟨hrendered.sound, h.graceful, hleft,
          fun _ => ⟨htail, fun c hc => hzeros c (List.mem_cons_of_mem _ hc)⟩,
          fun htrue => absurd (hraw.symm.trans htrue) Bool.false_ne_true⟩,
        rfl, rfl⟩
    | true =>
      obtain ⟨hholds, hzeros, hcleared⟩ := h.raw hraw
      obtain rfl : x = ops.zero := hzeros _ (List.mem_cons_self ..)
      have hhead : s.networkIq[s.readIndex]? = some iq := hholds.head
      have hsilent : s.microphone[s.readIndex]? = some ops.zero := by
        rw [hcleared, List.getElem?_replicate, if_pos h.sound.readIndex]
      have htail := hholds.tail
      rw [h.sound.networkIq] at htail
      simp only [hhead, hsilent, hraw, Option.bind_eq_bind, Option.bind_some,
        if_true, Option.some.injEq, Prod.mk.injEq] at htake ⊢
      obtain ⟨-, rfl⟩ := htake
      exact ⟨_, ⟨rfl, rfl⟩, ⟨hrendered.sound, h.graceful, hleft,
          fun hfalse => absurd (hraw.symm.trans hfalse).symm Bool.false_ne_true,
          fun _ => ⟨htail, fun c hc => hzeros c (List.mem_cons_of_mem _ hc),
            hcleared⟩⟩,
        rfl, rfl⟩

/-- **A frame pushed** is put behind the others, or dropped. -/
theorem pushFrame (h : Queues ops s cells) {frame : Int16 × Option Int16}
    (hframe : frame.2.isSome = s.settings.rawIq) :
    ∃ s', pushFrame ops frame s
        = some (if s.count = txAudioCapacity then 0 else 1, s')
      ∧ Queues ops s'
        (if s.count = txAudioCapacity then cells
          else cells ++ [cellOf ops frame])
      ∧ s'.settings = s.settings ∧ s'.voice = s.voice := by
  obtain ⟨s', hpush, hpushed⟩ := pushFrame_spec ops h.sound frame
  have hcount := h.count
  rw [TxSampleStream.pushFrame] at hpush ⊢
  by_cases hfull : s.count = txAudioCapacity
  · simp only [if_pos hfull, Option.some.injEq, Prod.mk.injEq, true_and]
      at hpush hpushed ⊢
    subst hpush
    exact ⟨_, rfl, ⟨hpushed.sound, h.graceful, hcount, h.pcm, h.raw⟩, rfl, rfl⟩
  · have hroom : cells.length < txAudioCapacity := by
      have := h.sound.count
      omega
    have hplace : s.writeIndex
        = (s.readIndex + cells.length) % txAudioCapacity := by
      rw [h.sound.writeIndex, hcount]
    obtain ⟨sample, second⟩ := frame
    simp only [if_neg hfull] at hpush hpushed ⊢
    cases second with
    | none =>
      have hraw : s.settings.rawIq = false := hframe.symm
      obtain ⟨hholds, hzeros⟩ := h.pcm hraw
      have happend := hholds.append
        (by rw [List.length_map, h.sound.microphone]; exact hroom)
        (normalizedSample ops sample)
      rw [List.length_map, h.sound.microphone, ← hplace] at happend
      dsimp only at hpush ⊢
      rw [Ring.put_eq _ (h.sound.microphone ▸ h.sound.writeIndex_lt)]
        at hpush ⊢
      simp only [Option.bind_eq_bind, Option.bind_some, Option.some.injEq,
        Prod.mk.injEq, true_and] at hpush ⊢
      subst hpush
      refine ⟨_, rfl, ⟨hpushed.sound, h.graceful, ?_, fun _ => ⟨?_, ?_⟩,
        fun htrue => absurd (hraw.symm.trans htrue) Bool.false_ne_true⟩,
        rfl, rfl⟩
      · rw [List.length_append, hcount, List.length_singleton]
      · rw [List.map_append]
        exact happend
      · intro c hc
        rcases List.mem_append.mp hc with hc | hc
        · exact hzeros c hc
        · rw [List.mem_singleton.mp hc]
          rfl
    | some q =>
      have hraw : s.settings.rawIq = true := hframe.symm
      obtain ⟨hholds, hzeros, hcleared⟩ := h.raw hraw
      have happend := hholds.append
        (by rw [List.length_map, h.sound.networkIq]; exact hroom)
        ⟨normalizedSample ops sample, normalizedSample ops q⟩
      rw [List.length_map, h.sound.networkIq, ← hplace] at happend
      dsimp only at hpush ⊢
      rw [Ring.put_eq _ (h.sound.networkIq ▸ h.sound.writeIndex_lt)]
        at hpush ⊢
      simp only [Option.bind_eq_bind, Option.bind_some, Option.some.injEq,
        Prod.mk.injEq, true_and] at hpush ⊢
      subst hpush
      refine ⟨_, rfl, ⟨hpushed.sound, h.graceful, ?_,
        fun hfalse => absurd (hraw.symm.trans hfalse).symm Bool.false_ne_true,
        fun _ => ⟨?_, ?_, hcleared⟩⟩, rfl, rfl⟩
      · rw [List.length_append, hcount, List.length_singleton]
      · rw [List.map_append]
        exact happend
      · intro c hc
        rcases List.mem_append.mp hc with hc | hc
        · exact hzeros c hc
        · rw [List.mem_singleton.mp hc]
          rfl

end Queues

/-! ## What has been put out -/

/-- What a frame becomes while the transmission does not end. -/
def voiceStep (settings : TxVoiceSettings F) (cell : Option (TxCell F))
    (voice : TxVoice F D) : Option (TxRendered × TxVoice F D) :=
  voice.render ops settings none cell

/-- What went through, and then more. -/
def Flow.and (done flow : Flow) : Flow where
  accepted := done.accepted + flow.accepted
  consumed := done.consumed + flow.consumed
  output := done.output ++ flow.output

theorem Flow.and_nothing (done : Flow) : done.and {} = done := by
  simp [Flow.and]

theorem Flow.and_assoc (a b c : Flow) : (a.and b).and c = a.and (b.and c) := by
  simp [Flow.and, Nat.add_assoc]

/-- **How far a transmission has come**: what has been put out is what the
filters make of a trace of cells and of silence, of as many frames as were
asked for; its cells are those given out; and they and those in the queue are
the frames presented, if all of these were taken. -/
structure Renders (first : TxSampleStream F D)
    (presented : List (Int16 × Option Int16)) (asked : ℕ) (done : Flow)
    (s : TxSampleStream F D) (cells : List (TxCell F))
    (trace : List (Option (TxCell F))) (rendered : List TxRendered) : Prop where
  queues : Queues ops s cells
  settings : s.settings = first.settings
  voice : Transducer.run (voiceStep ops first.settings) trace first.voice
    = some (rendered, s.voice)
  output : done.output = rendered.flatMap TxRendered.bytes
  asked : trace.length = asked
  consumed : trace.reduceOption.length = done.consumed
  accepted_le : done.accepted ≤ presented.length
  kept : done.accepted = presented.length →
    trace.reduceOption ++ cells = presented.map (cellOf ops)

namespace Renders

variable {ops} {first s : TxSampleStream F D}
  {presented : List (Int16 × Option Int16)} {asked : ℕ} {done : Flow}
  {cells : List (TxCell F)} {trace : List (Option (TxCell F))}
  {rendered : List TxRendered}

/-- A frame pushed. -/
theorem pushFrame
    (h : Renders ops first presented asked done s cells trace rendered)
    {frame : Int16 × Option Int16}
    (hframe : frame.2.isSome = s.settings.rawIq) :
    ∃ taken s' cells', TxSampleStream.pushFrame ops frame s = some (taken, s')
      ∧ Renders ops first (presented ++ [frame]) asked
        (done.and { accepted := taken }) s' cells' trace rendered
      ∧ s'.settings = s.settings := by
  obtain ⟨s', hpush, hqueues, hsettings, hvoice⟩ := h.queues.pushFrame hframe
  have hless := h.accepted_le
  refine ⟨_, s', _, hpush, ⟨hqueues, hsettings.trans h.settings,
    hvoice ▸ h.voice, ?_, h.asked, h.consumed, ?_, ?_⟩, hsettings⟩
  · simpa [Flow.and] using h.output
  · rw [List.length_append, List.length_singleton]
    show done.accepted + (if _ then 0 else 1) ≤ _
    split
    · omega
    · omega
  · intro hall
    rw [List.length_append, List.length_singleton] at hall
    change done.accepted + (if _ then 0 else 1) = _ at hall
    have hroom : ¬ s.count = txAudioCapacity := by
      intro hfull
      rw [if_pos hfull] at hall
      omega
    rw [if_neg hroom] at hall ⊢
    rw [← List.append_assoc, h.kept (by omega), List.map_append]
    rfl

/-- Frames pushed. -/
theorem pushFrames
    (h : Renders ops first presented asked done s cells trace rendered)
    {frames : List (Int16 × Option Int16)}
    (hframes : ∀ frame ∈ frames, frame.2.isSome = s.settings.rawIq) :
    ∃ taken s' cells', TxSampleStream.pushFrames ops frames s = some (taken, s')
      ∧ Renders ops first (presented ++ frames) asked
        (done.and { accepted := taken }) s' cells' trace rendered := by
  induction frames generalizing s cells presented done with
  | nil =>
    rw [List.append_nil]
    exact ⟨0, s, cells, rfl, done.and_nothing.symm ▸ h⟩
  | cons frame rest ih =>
    obtain ⟨taken, t, cells', hpush, hone, hsettings⟩ :=
      h.pushFrame (hframes frame (List.mem_cons_self ..))
    obtain ⟨accepted, u, cells'', hrest, hall⟩ := ih hone fun frame hmem => by
      rw [hsettings]
      exact hframes frame (List.mem_cons_of_mem _ hmem)
    rw [List.append_assoc, List.singleton_append, Flow.and_assoc] at hall
    refine ⟨taken + accepted, u, cells'', ?_, hall⟩
    rw [TxSampleStream.pushFrames, hpush]
    show (TxSampleStream.pushFrames ops rest t).bind _ = _
    rw [hrest]
    rfl

/-- A frame rendered: its cell, or silence, goes into the trace. -/
theorem renderFrame
    (h : Renders ops first presented asked done s cells trace rendered) :
    ∃ frame s', TxSampleStream.renderFrame ops s = some (frame, s')
      ∧ s.count = s'.count + cells.head?.isSome.toNat
      ∧ Renders ops first presented (asked + 1)
        (done.and
          { consumed := cells.head?.isSome.toNat, output := frame.bytes })
        s' cells.tail (trace ++ [cells.head?]) (rendered ++ [frame]) := by
  obtain ⟨t, htake, hqueues, hsettings, hvoice⟩ := h.queues.takeCell
  obtain ⟨frame, voice, hrender, hsized, -⟩ :=
    t.voice.render_isSome ops t.settings none cells.head? hqueues.sound.dsp
  have hfade : t.fadeOut = none := by
    rw [fadeOut, hqueues.graceful]
    rfl
  refine ⟨frame,
    { t with voice := voice, stats := countedRender frame t.stats }, ?_, ?_,
    ⟨⟨⟨hqueues.sound.microphone, hqueues.sound.networkIq,
        hqueues.sound.readIndex, hqueues.sound.writeIndex, hqueues.sound.count,
        hsized⟩, hqueues.graceful, hqueues.count, hqueues.pcm, hqueues.raw⟩,
      hsettings.trans h.settings, ?_, ?_, ?_, ?_, h.accepted_le, ?_⟩⟩
  · rw [TxSampleStream.renderFrame, htake]
    show (TxVoice.render ops t.settings t.fadeOut cells.head? t.voice).bind _
      = _
    rw [hfade, hrender]
    rfl
  · show s.count = t.count + _
    rw [← h.queues.count, ← hqueues.count]
    cases cells <;> rfl
  · refine Transducer.run_append h.voice (Transducer.run_cons (t := voice) ?_ rfl)
    rw [← hvoice, ← h.settings, ← hsettings]
    exact hrender
  · rw [Flow.and, h.output, List.flatMap_append, List.flatMap_singleton]
  · rw [List.length_append, h.asked, List.length_singleton]
  · rw [List.reduceOption_append, List.length_append, h.consumed]
    cases cells <;> rfl
  · intro hall
    rw [← h.kept hall, List.reduceOption_append]
    cases cells with
    | nil => simp
    | cons c rest => simp

/-- Frames rendered. -/
theorem renderFrames
    (h : Renders ops first presented asked done s cells trace rendered)
    (frames : ℕ) :
    ∃ out s' cells' trace' rendered' taken,
      TxSampleStream.renderFrames ops frames s = some (out, s')
        ∧ s.count = s'.count + taken
        ∧ Renders ops first presented (asked + frames)
          (done.and
            { consumed := taken, output := out.flatMap TxRendered.bytes })
          s' cells' trace' rendered' := by
  induction frames generalizing s asked done cells trace rendered with
  | zero =>
    exact ⟨[], s, cells, trace, rendered, 0, rfl, rfl,
      done.and_nothing.symm ▸ h⟩
  | succ frames ih =>
    obtain ⟨frame, t, hframe, hleft, hone⟩ := h.renderFrame
    obtain ⟨out, u, cells', trace', rendered', taken, hrest, hleft', hall⟩ :=
      ih hone
    rw [Flow.and_assoc, Nat.add_assoc, Nat.add_comm 1] at hall
    refine ⟨frame :: out, u, cells', trace', rendered',
      cells.head?.isSome.toNat + taken, ?_, by omega, ?_⟩
    · rw [TxSampleStream.renderFrames, hframe]
      show (TxSampleStream.renderFrames ops frames t).bind _ = _
      rw [hrest]
      rfl
    · rw [List.flatMap_cons]
      exact hall

/-- Either counting behind the loop of a push. -/
theorem counted
    (h : Renders ops first presented asked done s cells trace rendered)
    (frames : ℕ) :
    Renders ops first presented asked done (countedFrames ops frames s) cells
      trace rendered :=
  ⟨⟨⟨h.queues.sound.microphone, h.queues.sound.networkIq,
      h.queues.sound.readIndex, h.queues.sound.writeIndex,
      h.queues.sound.count, h.queues.sound.dsp⟩, h.queues.graceful,
      h.queues.count, h.queues.pcm, h.queues.raw⟩,
    h.settings, h.voice, h.output, h.asked, h.consumed, h.accepted_le, h.kept⟩

/-- PCM has no second sample. -/
theorem of_mem_pcmFrames {input : List UInt8} {frame : Int16 × Option Int16}
    (h : frame ∈ pcmFrames input) : frame.2.isSome = false := by
  fun_induction pcmFrames input with
  | case1 a b rest ih =>
    rcases List.mem_cons.mp h with rfl | h
    · rfl
    · exact ih h
  | case2 => exact absurd h (List.not_mem_nil)

/-- I/Q has one in raw mode. -/
theorem of_mem_iqFrames {rawIq : Bool} {input : List UInt8}
    {frame : Int16 × Option Int16} (h : frame ∈ iqFrames rawIq input) :
    frame.2.isSome = rawIq := by
  fun_induction iqFrames rawIq input with
  | case1 a b c d rest ih =>
    rcases List.mem_cons.mp h with rfl | h
    · cases rawIq <;> rfl
    · exact ih h
  | case2 => exact absurd h (List.not_mem_nil)

/-- **One operation further.** -/
theorem apply
    (h : Renders ops first presented asked done s cells trace rendered)
    {op : Op} (hop : op.Transmits) :
    ∃ flow s' cells' trace' rendered',
      TxSampleStream.apply ops op s = some (flow, s')
        ∧ Renders ops first (presented ++ op.presented first.settings.rawIq)
          (asked + op.frames) (done.and flow) s' cells' trace' rendered' := by
  have hraw : s.settings.rawIq = first.settings.rawIq :=
    congrArg TxVoiceSettings.rawIq h.settings
  cases op with
  | pushPcm16le input =>
    rw [TxSampleStream.apply, pushPcm16le, Op.presented, h.queues.graceful,
      Bool.or_false, hraw]
    split
    · refine ⟨{}, s, cells, trace, rendered, rfl, ?_⟩
      rw [List.append_nil, Flow.and_nothing]
      exact h
    · next hpcm =>
      have hframes : ∀ frame ∈ pcmFrames input,
          frame.2.isSome = s.settings.rawIq := by
        intro frame hmem
        rw [of_mem_pcmFrames hmem, hraw]
        exact (Bool.eq_false_iff.mpr hpcm).symm
      obtain ⟨accepted, t, cells', hpush, hpushed⟩ := h.pushFrames hframes
      rw [hpush]
      exact ⟨_, _, cells', trace, rendered, rfl, hpushed.counted _⟩
  | pushIq16le input =>
    have hframes : ∀ frame ∈ iqFrames s.settings.rawIq input,
        frame.2.isSome = s.settings.rawIq := fun _ hmem => of_mem_iqFrames hmem
    obtain ⟨accepted, t, cells', hpush, hpushed⟩ := h.pushFrames hframes
    rw [TxSampleStream.apply, pushIq16le, if_neg, Op.presented, ← hraw, hpush]
    · exact ⟨_, _, cells', trace, rendered, rfl, hpushed.counted _⟩
    · rw [h.queues.graceful]
      exact Bool.false_ne_true
  | render frames =>
    obtain ⟨out, t, cells', trace', rendered', taken, hrender, hleft, hall⟩ :=
      h.renderFrames frames
    have htaken : s.count - t.count = taken := by omega
    rw [TxSampleStream.apply, renderIq16le, hrender,
      show Op.presented _ (.render frames) = [] from rfl, List.append_nil]
    refine ⟨_, _, cells', trace', rendered', rfl, ?_⟩
    simp only [queued, htaken]
    exact ⟨⟨⟨hall.queues.sound.microphone, hall.queues.sound.networkIq,
        hall.queues.sound.readIndex, hall.queues.sound.writeIndex,
        hall.queues.sound.count, hall.queues.sound.dsp⟩, hall.queues.graceful,
        hall.queues.count, hall.queues.pcm, hall.queues.raw⟩,
      hall.settings, hall.voice, hall.output, hall.asked, hall.consumed,
      hall.accepted_le, hall.kept⟩
  | setCompressor enabled => exact hop.elim
  | setRawIq enabled => exact hop.elim
  | setRawIqTranslation enabled => exact hop.elim
  | beginGracefulStop => exact hop.elim

/-- **A run further.** -/
theorem run
    (h : Renders ops first presented asked done s cells trace rendered)
    {as : List Op} (has : ∀ op ∈ as, op.Transmits) :
    ∃ flows s' cells' trace' rendered',
      Transducer.run (TxSampleStream.apply ops) as s = some (flows, s')
        ∧ Renders ops first
          (presented ++ as.flatMap (Op.presented first.settings.rawIq))
          (asked + (as.map Op.frames).sum) (done.and (total flows)) s' cells'
          trace' rendered' := by
  induction as generalizing s presented asked done cells trace rendered with
  | nil =>
    refine ⟨[], s, cells, trace, rendered, rfl, ?_⟩
    rw [List.flatMap_nil, total, List.append_nil, Flow.and_nothing]
    exact h
  | cons op as ih =>
    obtain ⟨flow, t, cells', trace', rendered', hstep, hone⟩ :=
      h.apply (has op (List.mem_cons_self ..))
    obtain ⟨flows, u, cells'', trace'', rendered'', hrun, hall⟩ :=
      ih hone fun op hmem => has op (List.mem_cons_of_mem _ hmem)
    rw [List.append_assoc, Nat.add_assoc, Flow.and_assoc] at hall
    exact ⟨flow :: flows, u, cells'', trace'', rendered'',
      Transducer.run_cons hstep hrun, hall⟩

/-- A trace without silence is one of the first cells presented. -/
theorem trace_prefix
    (h : Renders ops first presented asked done s cells trace rendered)
    (haccepted : done.accepted = presented.length)
    (hconsumed : done.consumed = asked) :
    trace <+: (presented.map (cellOf ops)).map some := by
  have hcells : ∀ cell ∈ trace, cell.isSome = true := by
    refine List.reduceOption_length_eq_iff.mp ?_
    rw [h.consumed, hconsumed, h.asked]
  have htrace : trace = trace.reduceOption.map some := by
    clear h
    induction trace with
    | nil => rfl
    | cons cell rest ih =>
      obtain ⟨c, rfl⟩ :=
        Option.isSome_iff_exists.mp (hcells cell (List.mem_cons_self ..))
      rw [List.reduceOption_cons_of_some, List.map_cons,
        ← ih fun cell hmem => hcells cell (List.mem_cons_of_mem _ hmem)]
  rw [htrace, ← h.kept haccepted, List.map_append]
  exact List.prefix_append ..

end Renders

/-- A stream that was set up for a transmission is at its beginning. -/
theorem renders_prepared {mode : TxMode} {drivePercent : ℕ}
    {microphoneGain : F} {s : TxSampleStream F D}
    (h : init ops mode drivePercent microphoneGain = some s)
    (compressor rawIq translate : Bool) :
    Renders ops (s.prepared ops compressor rawIq translate) [] 0 {}
      (s.prepared ops compressor rawIq translate) [] [] [] := by
  obtain ⟨hsound, -, hstats⟩ := sound_init ops h 0
  unfold init at h
  split at h
  · exact absurd h.symm (Option.some_ne_none _)
  obtain ⟨dsp, hdsp, hs⟩ := Option.bind_eq_some_iff.mp h
  obtain rfl := Option.some.inj hs
  refine ⟨⟨⟨hsound.microphone, hsound.networkIq, hsound.readIndex,
      hsound.writeIndex, hsound.count, ⟨hsound.dsp.bandpass, hsound.dsp.hilbert,
      hsound.dsp.audioHistory, hsound.dsp.filteredHistory,
      hsound.dsp.audioIndex, hsound.dsp.filteredIndex⟩⟩, rfl, rfl,
      fun _ => ⟨.nil ?_, ?_⟩, fun _ => ⟨.nil ?_, ?_, rfl⟩⟩, rfl, rfl, rfl, rfl,
    rfl, Nat.zero_le _, fun _ => rfl⟩
  · show 0 < (List.replicate txAudioCapacity _).length
    rw [List.length_replicate]
    exact txAudioCapacity_pos
  · exact fun _ h => absurd h List.not_mem_nil
  · show 0 < (List.replicate txAudioCapacity _).length
    rw [List.length_replicate]
    exact txAudioCapacity_pos
  · exact fun _ h => absurd h List.not_mem_nil

/-- **The output does not depend on the schedule**: of two transmissions begun
alike that push the same frames, with nothing dropped and nothing missing – the
queue took every frame that was presented, and gave out one for every frame
that was asked for – one puts out the beginning of what the other does, in
whatever pieces they push and render, and whichever of the two entrances the
frames come through. -/
theorem output_of_schedules {mode : TxMode} {drivePercent : ℕ}
    {microphoneGain : F} {s : TxSampleStream F D}
    (h : init ops mode drivePercent microphoneGain = some s)
    (compressor rawIq translate : Bool) {as bs : List Op}
    (has : ∀ op ∈ as, op.Transmits) (hbs : ∀ op ∈ bs, op.Transmits)
    (hsame : as.flatMap (Op.presented rawIq) = bs.flatMap (Op.presented rawIq))
    {flows flows' : List Flow} {t u : TxSampleStream F D}
    (hrun : Transducer.run (apply ops) as
      (s.prepared ops compressor rawIq translate) = some (flows, t))
    (hrun' : Transducer.run (apply ops) bs
      (s.prepared ops compressor rawIq translate) = some (flows', u))
    (hkept : (total flows).accepted
      = (as.flatMap (Op.presented rawIq)).length)
    (hkept' : (total flows').accepted
      = (bs.flatMap (Op.presented rawIq)).length)
    (hwhole : (total flows).consumed = (as.map Op.frames).sum)
    (hwhole' : (total flows').consumed = (bs.map Op.frames).sum) :
    (total flows).output <+: (total flows').output
      ∨ (total flows').output <+: (total flows).output := by
  have hbegin := renders_prepared ops h compressor rawIq translate
  obtain ⟨_, _, cells, trace, rendered, hdone, hall⟩ := hbegin.run has
  obtain ⟨rfl, rfl⟩ := Prod.mk.inj (Option.some.inj (hrun.symm.trans hdone))
  obtain ⟨_, _, cells', trace', rendered', hdone', hall'⟩ := hbegin.run hbs
  obtain ⟨rfl, rfl⟩ := Prod.mk.inj (Option.some.inj (hrun'.symm.trans hdone'))
  have hnothing (flow : Flow) : Flow.and {} flow = flow := by
    simp [Flow.and]
  rw [hnothing, List.nil_append, Nat.zero_add] at hall hall'
  have htrace := hall.trace_prefix hkept hwhole
  have htrace' := hall'.trace_prefix hkept' hwhole'
  have hsame' : as.flatMap
      (Op.presented (s.prepared ops compressor rawIq translate).settings.rawIq)
        = bs.flatMap (Op.presented
          (s.prepared ops compressor rawIq translate).settings.rawIq) := hsame
  rw [hsame'] at htrace
  rw [hall.output, hall'.output]
  have hbytes {xs ys : List TxRendered} (h : xs <+: ys) :
      xs.flatMap TxRendered.bytes <+: ys.flatMap TxRendered.bytes := by
    obtain ⟨rest, rfl⟩ := h
    rw [List.flatMap_append]
    exact List.prefix_append ..
  rcases List.prefix_or_prefix_of_prefix htrace htrace' with hprefix | hprefix
  · exact .inl (hbytes (Transducer.run_prefix hall.voice hall'.voice hprefix))
  · exact .inr (hbytes (Transducer.run_prefix hall'.voice hall.voice hprefix))

/-- Two frames pushed at once and rendered one by one, and pushed one by one,
as I/Q, and rendered at once. -/
theorem output_of_schedules_two : ∃ (s : TxSampleStream ℚ ℚ)
    (flows flows' : List Flow) (t u : TxSampleStream ℚ ℚ),
    Transducer.run (apply TxFloats.rational)
        [.pushPcm16le [1, 0, 2, 0], .render 1, .render 1] s = some (flows, t)
      ∧ Transducer.run (apply TxFloats.rational)
        [.pushIq16le [1, 0, 3, 0], .pushIq16le [2, 0, 3, 0], .render 2] s
          = some (flows', u)
      ∧ ((total flows).output <+: (total flows').output
        ∨ (total flows').output <+: (total flows).output) := by
  obtain ⟨s, hinit⟩ := init_rational
  obtain ⟨-, -, hcounts⟩ := sound_init TxFloats.rational hinit 0
  have hsound :=
    (renders_prepared TxFloats.rational hinit false false false).queues.sound
  have hprepared : (s.prepared TxFloats.rational false false false).counts 0
      = { s.counts 0 with
          compressorEnabled := false, rawIq := false, translateRawIq := false } :=
    rfl
  rw [hcounts] at hprepared
  obtain ⟨flows, t, steps, hrun, -, hops, -, -, hall⟩ :=
    hsound.run_simulates TxFloats.rational 0
      [.pushPcm16le [1, 0, 2, 0], .render 1, .render 1]
  obtain ⟨flows', u, steps', hrun', -, hops', -, -, hall'⟩ :=
    hsound.run_simulates TxFloats.rational 0
      [.pushIq16le [1, 0, 3, 0], .pushIq16le [2, 0, 3, 0], .render 2]
  rw [hprepared] at hall hall'
  have hflow : ((total flows).accepted, (total flows).consumed) = _ :=
    congrArg (·.1) hall
  have hflow' : ((total flows').accepted, (total flows').consumed) = _ :=
    congrArg (·.1) hall'
  obtain ⟨hkept, hwhole⟩ := Prod.mk.inj hflow
  obtain ⟨hkept', hwhole'⟩ := Prod.mk.inj hflow'
  match steps, hops, steps', hops' with
  | [(_, _), (_, _), (_, _)], rfl, [(_, _), (_, _), (_, _)], rfl =>
    refine ⟨_, flows, flows', t, u, hrun, hrun', ?_⟩
    exact output_of_schedules TxFloats.rational hinit false false false
      (by decide) (by decide) (by rfl) hrun hrun' hkept hkept' hwhole hwhole'

end TxSampleStream
