import Flex1500.UsbTransmit

/-!
# What a call can have sent

Every call of `usb_rx.c` extends the trace, and what it may have sent bounds
what it may have done to the radio. This module says so for each of them:
which events a call adds, and what it leaves of the record of the transmit
path. The completions that arrive during a call leave all of it alone.
-/

namespace UsbEvent

/-- An event of a call, not one of the notes on the receiver itself. -/
def Inner : UsbEvent → Prop
  | .command .. | .streamStart _ | .service .. | .streamStop => True
  | _ => False

/-- An event of a cleanup, which starts no stream. -/
def Closing (event : UsbEvent) : Prop :=
  event.Inner ∧ ∀ started, event ≠ .streamStart started

/-- An event that does not key the transmitter. -/
def NotKeying (event : UsbEvent) : Prop :=
  event.command? ≠ some (.setTr true)

/-- An event that changes nothing of what a trace says. -/
def Quiet (event : UsbEvent) : Prop :=
  event.Inner ∧ ∀ transmit, event.command? ≠ some (.setTr transmit)

theorem Quiet.notKeying {event : UsbEvent} (h : event.Quiet) :
    event.NotKeying :=
  h.2 true

/-- A command that is not a key command is quiet. -/
theorem quiet_command {command : RadioCommand} (acknowledged : Bool)
    (h : ∀ transmit, command ≠ .setTr transmit) :
    (UsbEvent.command command acknowledged).Quiet :=
  ⟨trivial, fun transmit => by simpa [command?] using h transmit⟩

end UsbEvent

namespace RadioView

theorem after_append (trace events : List UsbEvent) :
    after (trace ++ events) = events.foldl step (after trace) :=
  List.foldl_append ..

@[simp] theorem after_concat (trace : List UsbEvent) (event : UsbEvent) :
    after (trace ++ [event]) = (after trace).step event := by
  rw [after_append]
  rfl

/-- The events of calls say nothing of preparation and frequency. -/
theorem step_inner (view : RadioView) {event : UsbEvent} (h : event.Inner) :
    (view.step event).prepared = view.prepared
      ∧ (view.step event).frequencyHz = view.frequencyHz := by
  cases event with
  | command sent _ => cases sent <;> exact ⟨rfl, rfl⟩
  | _ => first | exact ⟨rfl, rfl⟩ | exact h.elim

theorem after_inner (trace : List UsbEvent) {events : List UsbEvent}
    (h : ∀ event ∈ events, event.Inner) :
    (after (trace ++ events)).prepared = (after trace).prepared
      ∧ (after (trace ++ events)).frequencyHz = (after trace).frequencyHz := by
  induction events generalizing trace with
  | nil => simp
  | cons event events ih =>
    have hstep := step_inner (after trace) (h event (List.mem_cons_self ..))
    have := ih (trace ++ [event]) fun e he => h e (List.mem_cons_of_mem _ he)
    rw [List.append_assoc, List.singleton_append, after_concat] at this
    exact ⟨this.1.trans hstep.1, this.2.trans hstep.2⟩

/-- A quiet event changes nothing. -/
theorem step_quiet (view : RadioView) {event : UsbEvent} (h : event.Quiet) :
    view.step event = view := by
  cases event with
  | command sent _ =>
    cases sent with
    | setTr transmit => exact absurd rfl (h.2 transmit)
    | _ => rfl
  | _ => first | rfl | exact h.1.elim

theorem after_quiet (trace : List UsbEvent) {events : List UsbEvent}
    (h : ∀ event ∈ events, event.Quiet) :
    after (trace ++ events) = after trace := by
  induction events generalizing trace with
  | nil => simp
  | cons event events ih =>
    have := ih (trace ++ [event]) fun e he => h e (List.mem_cons_of_mem _ he)
    rw [List.append_assoc, List.singleton_append, after_concat] at this
    rw [this, step_quiet _ (h event (List.mem_cons_self ..))]

/-- An event that does not key leaves the transmitter unkeyed. -/
theorem key_step (view : RadioView) {event : UsbEvent} (h : event.NotKeying)
    (hk : (view.step event).key = some true) :
    view.key = some true ∧ event.command? ≠ some (.setTr false) := by
  cases event with
  | command sent _ =>
    cases sent with
    | setTr transmit => cases transmit <;> simp_all [step, UsbEvent.NotKeying,
        UsbEvent.command?]
    | _ => exact ⟨hk, by simp [UsbEvent.command?]⟩
  | _ => exact ⟨hk, by simp [UsbEvent.command?]⟩

/-- **Unkeying lasts**: after events none of which keys, the transmitter is
keyed only if it was before and none of them unkeyed it. -/
theorem key_after (trace : List UsbEvent) {events : List UsbEvent}
    (h : ∀ event ∈ events, event.NotKeying)
    (hk : (after (trace ++ events)).key = some true) :
    (after trace).key = some true
      ∧ RadioCommand.setTr false ∉ events.filterMap UsbEvent.command? := by
  induction events generalizing trace with
  | nil => exact ⟨by simpa using hk, by simp⟩
  | cons event events ih =>
    have hrest := ih (trace ++ [event])
      (fun e he => h e (List.mem_cons_of_mem _ he)) (by simpa using hk)
    rw [after_concat] at hrest
    have hfirst := key_step (after trace) (h event (List.mem_cons_self ..))
      hrest.1
    refine ⟨hfirst.1, fun hmem => ?_⟩
    rw [List.mem_filterMap] at hmem
    obtain ⟨e, he, hc⟩ := hmem
    rcases List.mem_cons.mp he with rfl | he
    · exact hfirst.2 hc
    · exact hrest.2 (List.mem_filterMap.mpr ⟨e, he, hc⟩)

end RadioView

namespace UsbRx

variable {r r' r₁ r₂ r₃ : UsbRx}

/-! ## Events leave the path alone -/

/-- Nothing of the transmit path changed. -/
structure Undisturbed (r r' : UsbRx) : Prop where
  path : r'.toTxPath = r.toTxPath
  handle : r'.handle = r.handle

namespace Undisturbed

theorem refl (r : UsbRx) : r.Undisturbed r := ⟨rfl, rfl⟩

theorem trans (h : r₁.Undisturbed r₂) (h' : r₂.Undisturbed r₃) :
    r₁.Undisturbed r₃ :=
  ⟨h'.path.trans h.path, h'.handle.trans h.handle⟩

theorem foldl {α : Type} (f : UsbRx → α → UsbRx)
    (h : ∀ (r : UsbRx) a, r.Undisturbed (f r a)) (as : List α) (r : UsbRx) :
    r.Undisturbed (as.foldl f r) := by
  induction as generalizing r with
  | nil => exact refl r
  | cons a as ih => exact (h r a).trans (ih _)

end Undisturbed

theorem undisturbed_ask (r : UsbRx) : r.Undisturbed r.ask.2 := ⟨rfl, rfl⟩

theorem undisturbed_processPacket (length : ℕ) (r : UsbRx) :
    r.Undisturbed (r.processPacket length) := by
  unfold processPacket
  split <;> exact ⟨rfl, rfl⟩

theorem undisturbed_submitSlot (slot : Fin rxTransferCount) (result : Int)
    (r : UsbRx) :
    r.Undisturbed (r.submitSlot slot result) := by
  unfold submitSlot
  split <;> exact ⟨rfl, rfl⟩

theorem undisturbed_submitStatus (result : Int) (r : UsbRx) :
    r.Undisturbed (r.submitStatus result) := by
  unfold submitStatus
  split <;> exact ⟨rfl, rfl⟩

theorem undisturbed_renderTransfer (clipped limited : ℕ) (r : UsbRx) :
    r.Undisturbed (r.renderTransfer clipped limited) := by
  unfold renderTransfer
  split <;> exact ⟨rfl, rfl⟩

theorem undisturbed_resubmitTune (slot : Fin tuneTransferCount)
    (audioFrames : ℕ) (resubmit : Int) (r : UsbRx) :
    r.Undisturbed (r.resubmitTune slot audioFrames resubmit) := by
  unfold resubmitTune
  dsimp only
  split <;> exact ⟨rfl, rfl⟩

/-- **Completions leave the transmit path alone**, whatever they bring. -/
theorem undisturbed_complete (completion : Completion) (r : UsbRx) :
    r.Undisturbed (r.complete completion) := by
  cases completion with
  | rx slot status packets resubmit =>
    have hend : ∀ r' : UsbRx, r.Undisturbed r' → r.Undisturbed
        (if !r'.stopping && r'.running then r'.submitSlot slot resubmit
          else r') := fun r' h => by
      split
      · exact h.trans (undisturbed_submitSlot ..)
      · exact h
    refine hend _ ?_
    cases status with
    | completed =>
      have h := Undisturbed.foldl (fun r length => processPacket length r)
        (fun r length => undisturbed_processPacket length r) packets
      exact ⟨(h _).path, (h _).handle⟩
    | _ => exact ⟨rfl, rfl⟩
  | status status packet resubmit =>
    have hend : ∀ r' : UsbRx, r.Undisturbed r' → r.Undisturbed
        (if !r'.stopping && r'.running then r'.submitStatus resubmit
          else r') := fun r' h => by
      split
      · exact h.trans (undisturbed_submitStatus ..)
      · exact h
    refine hend _ ?_
    cases status with
    | completed => cases decodePhysicalInputs packet <;> exact ⟨rfl, rfl⟩
    | _ => exact ⟨rfl, rfl⟩
  | tune slot status clipped limited resubmit =>
    have hend : ∀ r' : UsbRx, r.Undisturbed r' → r.Undisturbed
        (if r'.tuneStreaming && r'.running then
          (r'.renderTransfer clipped limited).resubmitTune slot
            (r'.microphoneStream.count
              - (r'.renderTransfer clipped limited).microphoneStream.count)
            resubmit
          else r') := fun r' h => by
      split
      · exact (h.trans (undisturbed_renderTransfer ..)).trans
          (undisturbed_resubmitTune ..)
      · exact h
    refine hend _ ?_
    cases status <;> exact ⟨rfl, rfl⟩

theorem undisturbed_handleEvents (round : EventRound) (r : UsbRx) :
    r.Undisturbed (r.handleEvents round) :=
  Undisturbed.foldl _ (fun r c => undisturbed_complete c r) _ r

theorem undisturbed_serviceRounds (rounds : List EventRound) (r : UsbRx) :
    r.Undisturbed (serviceRounds rounds r).2 := by
  induction rounds generalizing r with
  | nil => exact Undisturbed.refl r
  | cons round rest ih =>
    have h := undisturbed_handleEvents round r
    unfold serviceRounds
    dsimp only
    split_ifs
    · exact h
    · exact h
    · exact h.trans (ih _)

theorem undisturbed_drainTune (rounds : List EventRound) (r : UsbRx) :
    r.Undisturbed (drainTune rounds r) := by
  induction rounds generalizing r with
  | nil => exact Undisturbed.refl r
  | cons round rest ih =>
    have h := undisturbed_handleEvents round r
    unfold drainTune
    dsimp only
    split_ifs
    · exact h
    · exact h.trans (ih _)
    · exact Undisturbed.refl r

theorem undisturbed_drainAll (rounds : List EventRound) (r : UsbRx) :
    r.Undisturbed (drainAll rounds r) := by
  induction rounds generalizing r with
  | nil => exact Undisturbed.refl r
  | cons round rest ih =>
    have h := undisturbed_handleEvents round r
    unfold drainAll
    dsimp only
    split_ifs
    · exact h
    · exact h.trans (ih _)
    · exact Undisturbed.refl r

theorem undisturbed_drainGracefully (rounds : List EventRound) (r : UsbRx) :
    r.Undisturbed (drainGracefully rounds r) := by
  induction rounds generalizing r with
  | nil => exact Undisturbed.refl r
  | cons round rest ih =>
    have h := undisturbed_handleEvents round r
    unfold drainGracefully
    dsimp only
    split_ifs
    · exact Undisturbed.refl r
    · exact h
    · exact h
    · exact h.trans (ih _)

theorem undisturbed_releaseTuneStream (r : UsbRx) :
    r.Undisturbed r.releaseTuneStream := by
  have h := undisturbed_drainTune
    { r with tuneStreaming := false }.ask.1.rounds
    { r with tuneStreaming := false }.ask.2
  exact ⟨h.path, h.handle⟩

theorem undisturbed_submitTuneSlots (slots : List (Fin tuneTransferCount))
    (r : UsbRx) :
    r.Undisturbed (submitTuneSlots slots r).2 := by
  induction slots generalizing r with
  | nil => exact Undisturbed.refl r
  | cons slot rest ih =>
    unfold submitTuneSlots
    dsimp only
    split_ifs
    · exact ⟨(undisturbed_releaseTuneStream _).path.trans rfl,
        (undisturbed_releaseTuneStream _).handle.trans rfl⟩
    · exact ⟨(undisturbed_releaseTuneStream _).path.trans rfl,
        (undisturbed_releaseTuneStream _).handle.trans rfl⟩
    · exact ⟨(ih _).path.trans rfl, (ih _).handle.trans rfl⟩

/-! ## The events of each call -/

/-- Nothing changed but for events traced. -/
structure Adds (events : List UsbEvent) (r r' : UsbRx) : Prop where
  path : r'.toTxPath = { r.toTxPath with trace := r.trace ++ events }
  handle : r'.handle = r.handle

theorem Undisturbed.log (h : r.Undisturbed r') (event : UsbEvent) :
    r.Adds [event] (r'.log event) :=
  ⟨by rw [UsbRx.log, h.path], h.handle⟩

theorem Adds.trace {events : List UsbEvent} (h : r.Adds events r') :
    r'.trace = r.trace ++ events := by
  rw [h.path]

theorem adds_sendRxCommand (command : RadioCommand) (r : UsbRx) :
    r.Adds [.command command ((r.sendRxCommand command).1 == 0)]
      (r.sendRxCommand command).2 :=
  (undisturbed_ask r).log _

theorem adds_serviceTxStream (durationMs : ℕ) (r : UsbRx) :
    r.Adds [.service durationMs ((r.serviceTxStream durationMs).1 == 0)]
      (r.serviceTxStream durationMs).2 :=
  ((undisturbed_ask r).trans (undisturbed_serviceRounds _ _)).log _

theorem adds_startTxStream (microphone : Bool) (r : UsbRx) :
    r.Adds [.streamStart ((r.startTxStream microphone).1 == 0)]
      (r.startTxStream microphone).2 := by
  have h := undisturbed_submitTuneSlots (List.finRange tuneTransferCount)
    { r with
      tuneStreaming := true
      microphoneStreaming := microphone
      txAcceptingAudio := microphone }
  have hr : r.Undisturbed _ := ⟨h.path, h.handle⟩
  exact hr.log _

theorem adds_stopTxStream (r : UsbRx) :
    r.Adds [.streamStop] r.stopTxStream :=
  (undisturbed_releaseTuneStream r).log _

/-! ## What a trace keeps track of -/

/-- **The receiver keeps track of the radio**: after any call within an
operation, a transmitter keyed last is one whose keying is known to have
been attempted, and preparation and frequency are those of the trace. -/
structure Tracked (r : UsbRx) : Prop where
  key : (RadioView.after r.trace).key = some true →
    r.tuneKeyAttempted = true ∧ r.handle = true
  prepared : (RadioView.after r.trace).prepared = r.transmitPrepared
  frequency : (RadioView.after r.trace).frequencyHz
    = r.frequencyHz.map Subtype.val

/-- A transmission is under way, by every account. -/
structure Transmitting (r : UsbRx) : Prop where
  tuneActive : r.tuneActive = true
  tuneKeyed : r.tuneKeyed = true
  tuneKeyAttempted : r.tuneKeyAttempted = true
  tuneFrequencyAttempted : r.tuneFrequencyAttempted = true
  handle : r.handle = true

/-- No flag of a transmission is set. -/
def Idle (r : UsbRx) : Prop :=
  r.toTxFlags = {}

/-- Idle is every flag clear. -/
theorem idle_iff :
    r.Idle ↔ r.tunePrepared = false ∧ r.tuneActive = false
      ∧ r.tuneKeyed = false ∧ r.tuneKeyAttempted = false
      ∧ r.tuneTransitionAttempted = false
      ∧ r.tuneFrequencyAttempted = false := by
  rw [Idle, TxFlags.mk.injEq]

/-- What is resting, going by its flags, rests with the same flags. -/
theorem resting_of_flags (hf : r'.toTxFlags = r.toTxFlags)
    (hh : r'.handle = r.handle) (h : r.Idle ∨ r.Transmitting) :
    r'.Idle ∨ r'.Transmitting := by
  refine h.imp (fun hidle => hf.trans hidle) fun ht => ⟨?_, ?_, ?_, ?_, ?_⟩
  · rw [hf]; exact ht.tuneActive
  · rw [hf]; exact ht.tuneKeyed
  · rw [hf]; exact ht.tuneKeyAttempted
  · rw [hf]; exact ht.tuneFrequencyAttempted
  · exact hh.trans ht.handle

/-- **Between operations** the receiver keeps track of the radio, and its
flags are those of a transmission or all clear. -/
structure Sound (r : UsbRx) : Prop extends r.Tracked where
  resting : r.Idle ∨ r.Transmitting

/-- A sound receiver that keyed last is transmitting. -/
theorem Sound.transmitting (h : r.Sound)
    (hk : (RadioView.after r.trace).key = some true) : r.Transmitting := by
  refine h.resting.resolve_left fun hidle => ?_
  have := (h.key hk).1
  simp [show r.toTxFlags = {} from hidle] at this

/-- A new receiver has sent nothing. -/
theorem sound_create (answers : ℕ → UsbAnswer) : (create answers).Sound :=
  ⟨⟨by simp [create, RadioView.after], rfl, rfl⟩, Or.inl rfl⟩

/-- **A call that leaves the radio's state alone**: it sends quiet events
and keeps the record of the key, of preparation and of the frequency. -/
structure Quietly (r r' : UsbRx) : Prop where
  trace : ∃ events, r'.trace = r.trace ++ events
    ∧ ∀ event ∈ events, event.Quiet
  flags : r'.toTxFlags = r.toTxFlags
  transmitPrepared : r'.transmitPrepared = r.transmitPrepared
  frequencyHz : r'.frequencyHz = r.frequencyHz
  handle : r'.handle = r.handle

namespace Quietly

theorem refl (r : UsbRx) : r.Quietly r :=
  ⟨⟨[], by simp, by simp⟩, rfl, rfl, rfl, rfl⟩

theorem of_adds {events : List UsbEvent} (h : r.Adds events r')
    (hq : ∀ event ∈ events, event.Quiet) : r.Quietly r' :=
  ⟨⟨events, h.trace, hq⟩, by rw [h.path], by rw [h.path], by rw [h.path],
    h.handle⟩

theorem of_undisturbed (h : r.Undisturbed r') : r.Quietly r' :=
  ⟨⟨[], by rw [h.path]; simp, by simp⟩, by rw [h.path], by rw [h.path],
    by rw [h.path], h.handle⟩

/-- What a call touches beside the transmit path is no matter. -/
theorem of_same (ht : r'.trace = r.trace) (hf : r'.toTxFlags = r.toTxFlags)
    (hp : r'.transmitPrepared = r.transmitPrepared)
    (hz : r'.frequencyHz = r.frequencyHz) (hh : r'.handle = r.handle) :
    r.Quietly r' :=
  ⟨⟨[], by simp [ht], by simp⟩, hf, hp, hz, hh⟩

/-- What a trace says is what it said before. -/
theorem after (h : r.Quietly r') :
    RadioView.after r'.trace = RadioView.after r.trace := by
  obtain ⟨es, he, hq⟩ := h.trace
  rw [he, RadioView.after_quiet _ hq]

theorem tracked (h : r.Quietly r') (ht : r.Tracked) : r'.Tracked := by
  refine ⟨fun hk => ?_, ?_, ?_⟩
  · rw [h.after] at hk
    rw [h.flags, h.handle]
    exact ht.key hk
  · rw [h.after, h.transmitPrepared]
    exact ht.prepared
  · rw [h.after, h.frequencyHz]
    exact ht.frequency

theorem sound (h : r.Quietly r') (hs : r.Sound) : r'.Sound :=
  ⟨h.tracked hs.toTracked, resting_of_flags h.flags h.handle hs.resting⟩

end Quietly

/-- Sending a command that is not a key command. -/
theorem quietly_sendRxCommand (command : RadioCommand) (r : UsbRx)
    (h : ∀ transmit, command ≠ .setTr transmit) :
    r.Quietly (r.sendRxCommand command).2 :=
  Quietly.of_adds (adds_sendRxCommand command r) (by
    simpa using UsbEvent.quiet_command _ h)

/-- The trace grew by events that do not key. -/
def Grows (r r' : UsbRx) : Prop :=
  ∃ events, r'.trace = r.trace ++ events ∧ ∀ event ∈ events, event.NotKeying

namespace Grows

theorem refl (r : UsbRx) : r.Grows r := ⟨[], by simp, by simp⟩

theorem trans (h : r₁.Grows r₂) (h' : r₂.Grows r₃) : r₁.Grows r₃ := by
  obtain ⟨es, he, hq⟩ := h
  obtain ⟨es', he', hq'⟩ := h'
  exact ⟨es ++ es', by rw [he', he, List.append_assoc], fun e hmem =>
    (List.mem_append.mp hmem).elim (hq e) (hq' e)⟩

end Grows

theorem Quietly.grows (h : r.Quietly r') : r.Grows r' := by
  obtain ⟨es, he, hq⟩ := h.trace
  exact ⟨es, he, fun e hmem => (hq e hmem).notKeying⟩

end UsbRx
