import Flex1500.UsbKeying

/-!
# Starts

The two starts go through the same steps, with one or two of their own in
between. A step may only add to what is known to have been attempted, and
that is what makes the cleanup of a start that fails complete: whatever was
sent, the flags say so, and the plan follows the flags.
-/

namespace UsbRx

variable {r s s' s₁ s₂ s₃ : UsbRx}

/-! ## The stream's transfers -/

/-- Transfers of the transmit stream are allocated. -/
def StreamAllocated (r : UsbRx) : Prop :=
  ∃ slot, (r.tuneSlots slot).allocated = true

/-- An allocated stream is one that a cleanup stops. -/
theorem StreamAllocated.present (h : r.StreamAllocated) :
    r.txStreamPresent = true := by
  obtain ⟨slot, hslot⟩ := h
  simp only [txStreamPresent, Bool.or_eq_true, decide_eq_true_eq]
  exact Or.inr ⟨slot, Or.inl hslot⟩

/-- The same transfers are allocated. -/
def SameSlots (r r' : UsbRx) : Prop :=
  ∀ slot, (r'.tuneSlots slot).allocated = (r.tuneSlots slot).allocated

theorem SameSlots.trans (h : s₁.SameSlots s₂) (h' : s₂.SameSlots s₃) :
    s₁.SameSlots s₃ :=
  fun slot => (h' slot).trans (h slot)

theorem StreamAllocated.of_sameSlots (h : r.StreamAllocated)
    (hs : r.SameSlots s) : s.StreamAllocated := by
  obtain ⟨slot, hslot⟩ := h
  exact ⟨slot, (hs slot).trans hslot⟩

theorem sameSlots_withTuneSlot (slot : Fin tuneTransferCount)
    (f : TuneSlot → TuneSlot) (hf : ∀ t, (f t).allocated = t.allocated)
    (r : UsbRx) : r.SameSlots (r.withTuneSlot slot f) := by
  intro slot'
  unfold withTuneSlot
  by_cases he : slot' = slot
  · subst he
    simpa using hf _
  · simp [Function.update_of_ne he]

theorem sameSlots_renderTransfer (clipped limited : ℕ) (r : UsbRx) :
    r.SameSlots (r.renderTransfer clipped limited) := by
  intro slot
  unfold renderTransfer
  split <;> rfl

theorem sameSlots_resubmitTune (slot : Fin tuneTransferCount)
    (audioFrames : ℕ) (resubmit : Int) (r : UsbRx) :
    r.SameSlots (r.resubmitTune slot audioFrames resubmit) := by
  have h := sameSlots_withTuneSlot slot
    ({ · with audioFrames := audioFrames }) (fun _ => rfl) r
  unfold resubmitTune
  dsimp only
  split
  · exact h
  · exact h.trans (sameSlots_withTuneSlot slot
      ({ · with submitted := true }) (fun _ => rfl) _)

/-- **Completions free no transfer.** -/
theorem sameSlots_complete (completion : Completion) (r : UsbRx) :
    r.SameSlots (r.complete completion) := by
  cases completion with
  | rx slot status packets resubmit =>
    have hpacket : ∀ (length : ℕ) (r' : UsbRx),
        (r'.processPacket length).tuneSlots = r'.tuneSlots := by
      intro length r'
      unfold processPacket
      split <;> rfl
    have hpackets : ∀ (packets : List ℕ) (r' : UsbRx),
        (packets.foldl (fun r length => processPacket length r) r').tuneSlots
          = r'.tuneSlots := by
      intro packets
      induction packets with
      | nil => exact fun _ => rfl
      | cons length packets ih =>
        exact fun r' => (ih _).trans (hpacket length r')
    have hslots : (r.rxComplete slot status packets resubmit).tuneSlots
        = r.tuneSlots := by
      unfold rxComplete submitSlot withSlot
      cases status <;> dsimp only <;> split_ifs <;>
        first | rfl | exact hpackets _ _
    exact fun slot => congrArg (fun slots => (slots slot).allocated) hslots
  | status status packet resubmit =>
    have hslots : (r.statusComplete status packet resubmit).tuneSlots
        = r.tuneSlots := by
      unfold statusComplete submitStatus
      cases status <;> cases decodePhysicalInputs packet <;> dsimp only <;>
        split_ifs <;> rfl
    exact fun slot => congrArg (fun slots => (slots slot).allocated) hslots
  | tune slot status clipped limited resubmit =>
    have hfirst := sameSlots_withTuneSlot slot
      ({ · with submitted := false, audioFrames := 0 }) (fun _ => rfl) r
    have hend : ∀ r' : UsbRx, r.SameSlots r' → r.SameSlots
        (if r'.tuneStreaming && r'.running then
          (r'.renderTransfer clipped limited).resubmitTune slot
            (r'.microphoneStream.count
              - (r'.renderTransfer clipped limited).microphoneStream.count)
            resubmit
          else r') := fun r' h => by
      split
      · exact (h.trans (sameSlots_renderTransfer _ _ _)).trans
          (sameSlots_resubmitTune _ _ _ _)
      · exact h
    refine hend _ ?_
    cases status <;> exact hfirst

theorem sameSlots_serviceRounds (rounds : List EventRound) (r : UsbRx) :
    r.SameSlots (serviceRounds rounds r).2 := by
  have hround : ∀ (cs : List Completion) (r : UsbRx),
      r.SameSlots (cs.foldl complete r) := by
    intro cs
    induction cs with
    | nil => exact fun _ _ => rfl
    | cons c cs ih => exact fun r => (sameSlots_complete c r).trans (ih _)
  induction rounds generalizing r with
  | nil => exact fun _ => rfl
  | cons round rest ih =>
    have h : r.SameSlots (r.handleEvents round) := hround _ r
    unfold serviceRounds
    dsimp only
    split_ifs
    · exact h
    · exact h
    · exact h.trans (ih _)

/-- A stream that started has its transfers allocated. -/
theorem streamAllocated_submitTuneSlots (slots : List (Fin tuneTransferCount))
    (r : UsbRx) (hr : r.StreamAllocated ∨ slots ≠ [])
    (h : (submitTuneSlots slots r).1 = 0) :
    (submitTuneSlots slots r).2.StreamAllocated := by
  induction slots generalizing r with
  | nil => exact hr.resolve_right fun hne => hne rfl
  | cons slot rest ih =>
    unfold submitTuneSlots at h ⊢
    dsimp only at h ⊢
    split_ifs at h ⊢
    · simp [libusbErrorNoMem] at h
    · exact absurd h (by assumption)
    · exact ih _ (Or.inl ⟨slot, by simp [withTuneSlot]⟩) h

/-! ## What a step adds -/

/-- What events attempted. -/
def commands (events : List UsbEvent) : List RadioCommand :=
  events.filterMap UsbEvent.command?

theorem mem_commands_singleton {command : RadioCommand} {event : UsbEvent} :
    command ∈ commands [event] ↔ event.command? = some command := by
  simp [commands]

/-- **A step only adds**: no flag is taken back, and what the step sent is
accounted for by the flags it leaves. A stream that is there stays, unless
starting it anew fails. -/
structure Advances (s s' : UsbRx) : Prop where
  events : ∃ es, s'.trace = s.trace ++ es ∧ (∀ e ∈ es, e.Inner)
    ∧ (.setTr true ∈ commands es → s'.tuneKeyAttempted = true)
    ∧ (.transitionMute true ∈ commands es →
        s'.tuneTransitionAttempted = true)
    ∧ (s.StreamAllocated ∨ .streamStart true ∈ es →
        s'.StreamAllocated ∨ .streamStart false ∈ es)
    ∧ ((∃ filter, .command (.setPaFilter filter) true ∈ es) →
        s'.paFilter.isSome = true)
    ∧ (s'.KeyKnown → s.KeyKnown ∨ .setTr true ∈ commands es)
  keyAttempted : s.tuneKeyAttempted = true → s'.tuneKeyAttempted = true
  keyed : s.tuneKeyed = true → s'.tuneKeyed = true
  transition : s.tuneTransitionAttempted = true →
    s'.tuneTransitionAttempted = true
  frequency : s.tuneFrequencyAttempted = true →
    s'.tuneFrequencyAttempted = true
  paFilter : s.paFilter.isSome = true → s'.paFilter.isSome = true
  tunePrepared : s'.tunePrepared = s.tunePrepared
  transmitPrepared : s'.transmitPrepared = s.transmitPrepared
  frequencyHz : s'.frequencyHz = s.frequencyHz
  handle : s'.handle = s.handle

namespace Advances

theorem refl (s : UsbRx) : s.Advances s :=
  ⟨⟨[], by simp [commands]⟩, id, id, id, id, id, rfl, rfl, rfl, rfl⟩

theorem trans (h : s₁.Advances s₂) (h' : s₂.Advances s₃) :
    s₁.Advances s₃ := by
  obtain ⟨es, he, hi, hk, hm, hs, hp, hn⟩ := h.events
  obtain ⟨es', he', hi', hk', hm', hs', hp', hn'⟩ := h'.events
  refine ⟨⟨es ++ es', by rw [he', he, List.append_assoc], ?_, ?_, ?_, ?_, ?_,
      ?_⟩,
    h'.keyAttempted ∘ h.keyAttempted, h'.keyed ∘ h.keyed,
    h'.transition ∘ h.transition, h'.frequency ∘ h.frequency,
    h'.paFilter ∘ h.paFilter, h'.tunePrepared.trans h.tunePrepared,
    h'.transmitPrepared.trans h.transmitPrepared,
    h'.frequencyHz.trans h.frequencyHz, h'.handle.trans h.handle⟩
  · exact fun e hmem => (List.mem_append.mp hmem).elim (hi e) (hi' e)
  all_goals simp only [commands, List.filterMap_append, List.mem_append] at *
  · exact fun hmem => hmem.elim (fun hm => h'.keyAttempted (hk hm)) hk'
  · exact fun hmem => hmem.elim (fun hmem => h'.transition (hm hmem)) hm'
  · have hfirst : s₂.StreamAllocated ∨ .streamStart false ∈ es →
        s₃.StreamAllocated ∨ .streamStart false ∈ es
          ∨ .streamStart false ∈ es' := fun hmid =>
      hmid.elim (fun halloc => (hs' (Or.inl halloc)).imp id Or.inr)
        fun hmem => Or.inr (Or.inl hmem)
    rintro (halloc | hmem | hmem)
    · exact hfirst (hs (Or.inl halloc))
    · exact hfirst (hs (Or.inr hmem))
    · exact (hs' (Or.inr hmem)).imp id Or.inr
  · rintro ⟨filter, hmem⟩
    exact hmem.elim (fun hmem => h'.paFilter (hp ⟨filter, hmem⟩))
      fun hmem => hp' ⟨filter, hmem⟩
  · exact fun hknown => (hn' hknown).elim
      (fun hknown => (hn hknown).imp id Or.inl) fun hmem => Or.inr (Or.inr hmem)

/-- What is tracked stays tracked over a step. -/
theorem tracked (h : s.Advances s') (ht : s.Tracked) (hh : s.handle = true) :
    s'.Tracked := by
  obtain ⟨es, he, hi, hk, -⟩ := h.events
  have hview := RadioView.after_inner s.trace hi
  rw [← he] at hview
  refine ⟨fun hkey => ⟨?_, h.handle.trans hh⟩, ?_, ?_⟩
  · by_cases hmem : RadioCommand.setTr true ∈ commands es
    · exact hk hmem
    · have hn : ∀ e ∈ es, e.NotKeying := fun e hmem' hc =>
        hmem (List.mem_filterMap.mpr ⟨e, hmem', hc⟩)
      rw [he] at hkey
      exact h.keyAttempted (ht.key (RadioView.key_after s.trace hn hkey).1).1
  · rw [hview.1, h.transmitPrepared]
    exact ht.prepared
  · rw [hview.2, h.frequencyHz]
    exact ht.frequency

end Advances

/-! ## The steps -/

/-- A step that leaves the transfers alone. -/
theorem stream_kept {es : List UsbEvent} (h : s'.tuneSlots = s.tuneSlots)
    (hno : .streamStart true ∉ es) :
    s.StreamAllocated ∨ .streamStart true ∈ es →
      s'.StreamAllocated ∨ .streamStart false ∈ es := by
  rintro (halloc | hmem)
  · exact Or.inl (halloc.of_sameSlots fun slot => by rw [h])
  · exact absurd hmem hno

/-- A command that needs no flag. -/
theorem advances_send (command : RadioCommand) (s : UsbRx)
    (hk : command ≠ .setTr true) (hm : command ≠ .transitionMute true)
    (hp : ∀ filter, command ≠ .setPaFilter filter) :
    s.Advances (attempt (sendRxCommand command) s).2 := by
  refine ⟨⟨[_], rfl, ?_, ?_, ?_, ?_, ?_, ?_⟩, id, id, id, id, id, rfl, rfl,
    rfl, rfl⟩
  · simp [UsbEvent.Inner]
  · simp [mem_commands_singleton, UsbEvent.command?, hk]
  · simp [mem_commands_singleton, UsbEvent.command?, hm]
  · exact stream_kept rfl (by simp)
  · simp [fun filter => (hp filter).symm]
  · exact Or.inl

theorem advances_selectPaFilter (filter : ℕ) (s : UsbRx) :
    s.Advances (selectPaFilter filter s).2 := by
  unfold selectPaFilter
  dsimp only
  by_cases hok : (attempt (sendRxCommand (.setPaFilter filter)) s).1 = true
  · rw [if_pos hok]
    refine ⟨⟨[_], rfl, ?_, ?_, ?_, ?_, ?_, ?_⟩, id, id, id, id,
      fun _ => rfl, rfl, rfl, rfl, rfl⟩
    · simp [UsbEvent.Inner]
    · simp [mem_commands_singleton, UsbEvent.command?]
    · simp [mem_commands_singleton, UsbEvent.command?]
    · exact stream_kept rfl (by simp)
    · simp
    · exact Or.inl
  · rw [if_neg hok]
    refine ⟨⟨[_], rfl, ?_, ?_, ?_, ?_, ?_, ?_⟩, id, id, id, id, id, rfl,
      rfl, rfl, rfl⟩
    · simp [UsbEvent.Inner]
    · simp [mem_commands_singleton, UsbEvent.command?]
    · simp [mem_commands_singleton, UsbEvent.command?]
    · exact stream_kept rfl (by simp)
    · rintro ⟨f, hmem⟩
      simp only [List.mem_singleton, UsbEvent.command.injEq] at hmem
      exact absurd hmem.2.symm hok
    · exact Or.inl

/-- A call on the stream, which is no command. -/
theorem advances_stream {e : UsbEvent} (h : s.Adds [e] s') (hi : e.Inner)
    (hc : e.command? = none)
    (hs : s.StreamAllocated ∨ e = .streamStart true →
      s'.StreamAllocated ∨ e = .streamStart false) : s.Advances s' := by
  have hflags : s'.toTxFlags = s.toTxFlags := by rw [h.path]
  have hpa : s'.paFilter = s.paFilter := by rw [h.path]
  refine ⟨⟨[e], h.trace, ?_, ?_, ?_, ?_, ?_, ?_⟩, ?_, ?_, ?_, ?_, ?_, ?_,
    by rw [h.path], by rw [h.path], h.handle⟩
  · simpa using hi
  · simp [mem_commands_singleton, hc]
  · simp [mem_commands_singleton, hc]
  · simpa [eq_comm] using hs
  · rintro ⟨filter, hmem⟩
    rw [← List.mem_singleton.mp hmem] at hc
    simp [UsbEvent.command?] at hc
  · exact fun hknown => Or.inl (by rwa [KeyKnown, hflags] at hknown)
  all_goals first | rw [hflags]; exact id | rw [hpa]; exact id | rw [hflags]

theorem advances_startTxStream (microphone : Bool) (s : UsbRx) :
    s.Advances (attempt (startTxStream microphone) s).2 := by
  refine advances_stream (adds_startTxStream microphone s) trivial rfl
    fun _ => ?_
  by_cases hok : (s.startTxStream microphone).1 = 0
  · exact Or.inl (streamAllocated_submitTuneSlots _ _ (Or.inr (by decide)) hok)
  · exact Or.inr (by simp [hok])

theorem advances_serviceTxStream (durationMs : ℕ) (s : UsbRx) :
    s.Advances (attempt (serviceTxStream durationMs) s).2 := by
  refine advances_stream (adds_serviceTxStream durationMs s) trivial rfl
    fun h => Or.inl ?_
  exact (h.resolve_right (by simp)).of_sameSlots (sameSlots_serviceRounds _ _)

theorem advances_passFaultStage (stage : TxFaultStage) (s : UsbRx) :
    s.Advances (passFaultStage stage s).2 :=
  Advances.refl s

theorem advances_captureMicrophone (capture : Bool) (s : UsbRx) :
    s.Advances (captureMicrophone capture s).2 :=
  ⟨⟨[], by simp [captureMicrophone], by simp, by simp [commands],
      by simp [commands], stream_kept rfl (by simp), by simp, Or.inl⟩,
    id, id, id, id, id, rfl, rfl, rfl, rfl⟩

theorem advances_muteTransition (s : UsbRx) :
    s.Advances (muteTransition s).2 := by
  refine ⟨⟨[_], rfl, ?_, ?_, ?_, ?_, ?_, ?_⟩, id, id, fun _ => rfl, id, id,
    rfl, rfl, rfl, rfl⟩
  · simp [UsbEvent.Inner]
  · simp [mem_commands_singleton, UsbEvent.command?]
  · exact fun _ => rfl
  · exact stream_kept rfl (by simp)
  · simp
  · exact Or.inl

theorem advances_tuneTransmitter (word : ℕ) (s : UsbRx) :
    s.Advances (tuneTransmitter word s).2 := by
  refine ⟨⟨[_], rfl, ?_, ?_, ?_, ?_, ?_, ?_⟩, id, id, id, fun _ => rfl, id,
    rfl, rfl, rfl, rfl⟩
  · simp [UsbEvent.Inner]
  · simp [mem_commands_singleton, UsbEvent.command?]
  · simp [mem_commands_singleton, UsbEvent.command?]
  · exact stream_kept rfl (by simp)
  · simp
  · exact Or.inl

theorem advances_keyTransmitter (s : UsbRx) :
    s.Advances (keyTransmitter s).2 := by
  unfold keyTransmitter
  dsimp only
  split
  all_goals
    refine ⟨⟨[_], rfl, ?_, fun _ => rfl, ?_, ?_, ?_, ?_⟩, fun _ => rfl, ?_, id,
      id, id, rfl, rfl, rfl, rfl⟩
    · simp [UsbEvent.Inner]
    · simp [mem_commands_singleton, UsbEvent.command?]
    · exact stream_kept rfl (by simp)
    · simp
    · simp [mem_commands_singleton, UsbEvent.command?]
    · first | exact fun _ => rfl | exact id

/-- The last step, where it fails. -/
theorem advances_unmuteTransition (s : UsbRx)
    (h : (unmuteTransition s).1 = false) :
    s.Advances (unmuteTransition s).2 := by
  have hsend := advances_send (.transitionMute false) s (by simp) (by simp)
    (by simp)
  unfold unmuteTransition at h ⊢
  dsimp only at h ⊢
  rw [if_neg (by simp [h])]
  exact hsend

/-! ## The sequence -/

/-- A step of one start only: it sends nothing. -/
structure Silent (a : Attempt UsbRx) : Prop where
  trace : ∀ s, (a s).2.trace = s.trace
  advances : ∀ s : UsbRx, s.Advances (a s).2

theorem silent_passFaultStage (stage : TxFaultStage) :
    Silent (passFaultStage stage) :=
  ⟨fun _ => rfl, advances_passFaultStage stage⟩

theorem silent_captureMicrophone (capture : Bool) :
    Silent (captureMicrophone capture) :=
  ⟨fun _ => rfl, advances_captureMicrophone capture⟩

/-- **A start**: the filter and the word it needs, the kind of its stream, and
the steps of its own before and after the key, which send nothing. -/
structure Start where
  filter : ℕ
  word : ℕ
  microphone : Bool
  beforeKey : List (Attempt UsbRx)
  afterKey : List (Attempt UsbRx)
  silent_beforeKey : ∀ a ∈ beforeKey, Silent a
  silent_afterKey : ∀ a ∈ afterKey, Silent a

/-- The start of a carrier. -/
def Start.carrier (filter word : ℕ) : Start where
  filter := filter
  word := word
  microphone := false
  beforeKey := [passFaultStage .afterStream]
  afterKey := [passFaultStage .afterKey]
  silent_beforeKey := by simpa using silent_passFaultStage _
  silent_afterKey := by simpa using silent_passFaultStage _

/-- The start of an audio transmission. -/
def Start.audio (filter word : ℕ) (capturePhysical : Bool) : Start where
  filter := filter
  word := word
  microphone := true
  beforeKey := []
  afterKey := [captureMicrophone capturePhysical]
  silent_beforeKey := by simp
  silent_afterKey := by simpa using silent_captureMicrophone _

/-- The steps both starts go through, around the steps of their own. -/
def Start.steps (start : Start) : List (Attempt UsbRx) :=
  ((preparingSteps start.filter start.microphone ++ start.beforeKey
      ++ [muteTransition])
    ++ tuneTransmitter start.word :: keyTransmitter ::
      (start.afterKey ++ [attempt (serviceTxStream 200)])) ++ [unmuteTransition]

theorem tuneCarrierSteps_eq (filter word : ℕ) :
    tuneCarrierSteps filter word = (Start.carrier filter word).steps :=
  rfl

theorem audioTxSteps_eq (filter word : ℕ) (capturePhysical : Bool) :
    audioTxSteps filter word capturePhysical
      = (Start.audio filter word capturePhysical).steps :=
  rfl

/-- What is acknowledged by the time of the key command. -/
def keyingEvents (filter word : ℕ) : List UsbEvent :=
  [.command (.setPaFilter filter) true, .command (.setAmpTx1 true) true,
    .streamStart true, .service 250 true,
    .command (.transitionMute true) true,
    .command (.setRx1FreqTw word) true]

namespace Start

/-- The steps before the key, with what they write. -/
def loggedBefore (start : Start) : Attempt.Logged UsbRx UsbEvent :=
  [(selectPaFilter start.filter,
      fun ok => [.command (.setPaFilter start.filter) ok]),
    (attempt (sendRxCommand (.setAmpTx1 true)),
      fun ok => [.command (.setAmpTx1 true) ok]),
    (attempt (startTxStream start.microphone), fun ok => [.streamStart ok]),
    (attempt (serviceTxStream 250), fun ok => [.service 250 ok])]
  ++ start.beforeKey.map (fun a => (a, fun _ => []))
  ++ [(muteTransition, fun ok => [.command (.transitionMute true) ok]),
    (tuneTransmitter start.word,
      fun ok => [.command (.setRx1FreqTw start.word) ok])]

/-- The steps after the key, with what they write. -/
def loggedAfter (start : Start) : Attempt.Logged UsbRx UsbEvent :=
  start.afterKey.map (fun a => (a, fun _ => []))
  ++ [(attempt (serviceTxStream 200), fun ok => [.service 200 ok]),
    (unmuteTransition, fun ok => [.command (.transitionMute false) ok])]

/-- The key, with what it writes. -/
def loggedKey : Attempt UsbRx × (Bool → List UsbEvent) :=
  (keyTransmitter, fun ok => [.command (.setTr true) ok])

variable (start : Start)

theorem steps_eq :
    start.steps
      = (start.loggedBefore
          ++ loggedKey :: start.loggedAfter).map Prod.fst := by
  simp [steps, loggedBefore, loggedKey, loggedAfter, preparingSteps,
    Function.comp_def]

/-- The steps write what they are said to. -/
theorem logs_steps :
    ∀ t ∈ start.loggedBefore
        ++ loggedKey :: start.loggedAfter,
      Attempt.Logs (fun s : UsbRx => s.trace) t.1 t.2 := by
  have hsilent : ∀ a, Silent a →
      Attempt.Logs (fun s : UsbRx => s.trace) a fun _ => [] := fun a ha s => by
    simpa using ha.trace s
  simp only [loggedBefore, loggedAfter, loggedKey, List.mem_append,
    List.mem_cons, List.mem_map, List.not_mem_nil, or_false]
  rintro t ((((rfl | rfl | rfl | rfl) | ⟨a, ha, rfl⟩) | rfl | rfl) |
    rfl | ⟨a, ha, rfl⟩ | rfl | rfl)
  · intro s; dsimp only [selectPaFilter]; split <;> rfl
  · exact fun s => rfl
  · exact fun s => (adds_startTxStream start.microphone s).trace
  · exact fun s => (adds_serviceTxStream 250 s).trace
  · exact hsilent a (start.silent_beforeKey a ha)
  · exact fun s => rfl
  · exact fun s => rfl
  · intro s; dsimp only [keyTransmitter]; split <;> rfl
  · exact hsilent a (start.silent_afterKey a ha)
  · exact fun s => (adds_serviceTxStream 200 s).trace
  · intro s; dsimp only [unmuteTransition]; split <;> rfl

/-- What the steps before the key write is acknowledged by then. -/
theorem flatMap_loggedBefore :
    start.loggedBefore.flatMap (·.2 true)
      = keyingEvents start.filter start.word := by
  simp [loggedBefore, keyingEvents, List.flatMap_map]

/-- Only the key is keyed with. -/
theorem notKeying_loggedBefore :
    ∀ t ∈ start.loggedBefore, ∀ b, ∀ e ∈ t.2 b,
      e.NotKeying := by
  simp only [loggedBefore, List.mem_append, List.mem_cons, List.mem_map,
    List.not_mem_nil, or_false]
  rintro t (((rfl | rfl | rfl | rfl) | ⟨a, ha, rfl⟩) | rfl | rfl) b e he <;>
    simp_all [UsbEvent.NotKeying, UsbEvent.command?]

theorem notKeying_loggedAfter :
    ∀ t ∈ start.loggedAfter, ∀ b, ∀ e ∈ t.2 b, e.NotKeying := by
  simp only [loggedAfter, List.mem_append, List.mem_cons, List.mem_map,
    List.not_mem_nil, or_false]
  rintro t (⟨a, ha, rfl⟩ | rfl | rfl) b e he <;>
    simp_all [UsbEvent.NotKeying, UsbEvent.command?]

/-- **The interlock**: a key command of a start comes right after everything
it needs was acknowledged. -/
theorem interlock {es : List UsbEvent}
    (he : (Attempt.all start.steps s).2.trace
      = s.trace ++ es) {before after : List UsbEvent} {ok : Bool}
    (hes : es = before ++ .command (.setTr true) ok :: after) :
    before = keyingEvents start.filter start.word := by
  rw [steps_eq] at he
  obtain ⟨b, rest, hsplit, hrest⟩ := Attempt.before_of_mem
    start.logs_steps
    (fun t ht b hmem => start.notKeying_loggedBefore t ht b _ hmem rfl)
    he (show UsbEvent.command (.setTr true) ok ∈ es by simp [hes])
  rw [flatMap_loggedBefore, List.append_assoc] at hsplit
  have hsplit : before ++ .command (.setTr true) ok :: after
      = keyingEvents start.filter start.word ++ .command (.setTr true) b :: rest :=
    hes.symm.trans hsplit
  refine Attempt.split_unique (P := fun e => ¬ e.NotKeying) hsplit
    (by simp [UsbEvent.NotKeying, UsbEvent.command?]) ?_ ?_
  · simp [keyingEvents, UsbEvent.NotKeying, UsbEvent.command?]
  · intro e hmem
    obtain ⟨t, ht, b, hmem⟩ := hrest e hmem
    simpa using start.notKeying_loggedAfter t ht b e hmem

/-- The steps around the start of the stream. -/
theorem logged_split_stream :
    start.loggedBefore ++ loggedKey :: start.loggedAfter
      = start.loggedBefore.take 2
        ++ (attempt (startTxStream start.microphone), fun ok => [.streamStart ok])
          :: (start.loggedBefore.drop 3
            ++ loggedKey :: start.loggedAfter) := by
  simp [loggedBefore]

/-- A stream that is started is not started anew. -/
theorem stream_once {es : List UsbEvent}
    (he : (Attempt.all start.steps s).2.trace
      = s.trace ++ es) (hes : .streamStart true ∈ es) :
    .streamStart false ∉ es := by
  have hlogs := start.logs_steps
  rw [steps_eq, logged_split_stream] at he
  rw [logged_split_stream] at hlogs
  have hfirst : ∀ t ∈ start.loggedBefore.take 2,
      ∀ b started, UsbEvent.streamStart started ∉ t.2 b := by
    simp [loggedBefore]
  have hlater : ∀ t ∈ start.loggedBefore.drop 3
      ++ loggedKey :: start.loggedAfter,
      ∀ b started, UsbEvent.streamStart started ∉ t.2 b := by
    simp only [loggedBefore, loggedAfter, loggedKey, List.mem_append,
      List.mem_cons, List.mem_map, List.not_mem_nil, or_false, List.drop,
      List.cons_append, List.nil_append]
    rintro t (rfl | (⟨a, ha, rfl⟩ | rfl | rfl) |
      rfl | ⟨a, ha, rfl⟩ | rfl | rfl) b started hmem <;> simp at hmem
  obtain ⟨b, rest, hsplit, hrest⟩ := Attempt.before_of_mem hlogs
    (fun t ht b => hfirst t ht b true) he hes
  have hnone : ∀ started, UsbEvent.streamStart started ∈ es →
      started = b := by
    intro started hmem
    rw [hsplit, List.append_assoc, List.mem_append, List.mem_flatMap] at hmem
    rcases hmem with ⟨t, ht, hmem⟩ | hmem
    · exact absurd hmem (hfirst t ht true started)
    rcases List.mem_append.mp hmem with hmem | hmem
    · simpa using hmem
    · obtain ⟨t, ht, b', hmem⟩ := hrest _ hmem
      exact absurd hmem (hlater t ht b' started)
  intro hfalse
  have := (hnone true hes).trans (hnone false hfalse).symm
  simp at this

end Start

end UsbRx
