import Flex1500.UsbStart

/-!
# The receiver over whole runs

A start that succeeds leaves a transmission by every account, and one that
fails leaves none. So whatever is called in whatever order, and whatever
the bus answers, the flags of the receiver tell whether the last key command
was the one that keys.
-/

namespace UsbRx

variable {r s : UsbRx} (start : Start)

/-! ## The two ends of a start -/

theorem advances_preparingSteps (filter : ℕ) (microphone : Bool) :
    ∀ a ∈ preparingSteps filter microphone, ∀ s : UsbRx,
      s.Advances (a s).2 := by
  simp only [preparingSteps, List.mem_cons, List.not_mem_nil, or_false]
  rintro a (rfl | rfl | rfl | rfl) s
  · exact advances_selectPaFilter filter s
  · exact advances_send _ s (by simp) (by simp) (by simp)
  · exact advances_startTxStream microphone s
  · exact advances_serviceTxStream 250 s

/-- Every step but the last only adds. -/
theorem advances_startSteps :
    ∀ a ∈ (preparingSteps start.filter start.microphone ++ start.beforeKey
        ++ [muteTransition])
      ++ tuneTransmitter start.word :: keyTransmitter ::
        (start.afterKey ++ [attempt (serviceTxStream 200)]),
      ∀ s : UsbRx, s.Advances (a s).2 := by
  simp only [List.mem_append, List.mem_cons, List.not_mem_nil, or_false]
  rintro a (((ha | ha) | rfl) | rfl | rfl | ha | rfl) s
  · exact advances_preparingSteps _ _ a ha s
  · exact (start.silent_beforeKey a ha).advances s
  · exact advances_muteTransition s
  · exact advances_tuneTransmitter start.word s
  · exact advances_keyTransmitter s
  · exact (start.silent_afterKey a ha).advances s
  · exact advances_serviceTxStream 200 s

/-- A start that fails has only added. -/
theorem advances_of_failed
    (hfail : (Attempt.all start.steps s).1
      = false) :
    s.Advances (Attempt.all start.steps s).2 :=
  Attempt.all_fails (fun t => s.Advances t)
    (fun a ha t ht => ht.trans (advances_startSteps start a ha t))
    (fun t ht hf => ht.trans (advances_unmuteTransition t hf))
    (Advances.refl s) hfail

/-- The last step, where it succeeds, makes the transmission active. -/
theorem transmitting_unmuteTransition (ht : s.Tracked)
    (hk : s.tuneKeyed = true) (hka : s.tuneKeyAttempted = true)
    (hf : s.tuneFrequencyAttempted = true) (hh : s.handle = true)
    (hok : (unmuteTransition s).1 = true) :
    (unmuteTransition s).2.Tracked ∧ (unmuteTransition s).2.Transmitting := by
  have hsend := (quietly_sendRxCommand (.transitionMute false) s
    (by simp)).tracked ht
  unfold unmuteTransition at hok ⊢
  dsimp only at hok ⊢
  rw [if_pos hok]
  exact ⟨⟨hsend.key, hsend.prepared, hsend.frequency⟩, ⟨rfl, hk, hka, hf, hh⟩⟩

/-- A key that is acknowledged is known to be. -/
theorem keyed_keyTransmitter (s : UsbRx) (hok : (keyTransmitter s).1 = true) :
    (keyTransmitter s).2.tuneKeyed = true
      ∧ (keyTransmitter s).2.tuneKeyAttempted = true := by
  unfold keyTransmitter at hok ⊢
  dsimp only at hok ⊢
  rw [if_pos hok]
  exact ⟨rfl, rfl⟩

/-- **A start that succeeds transmits.** -/
theorem started_of_ok (ht : s.Tracked) (hh : s.handle = true)
    (hok : (Attempt.all start.steps s).1
      = true) :
    (Attempt.all start.steps s).2.Tracked
      ∧ (Attempt.all start.steps
          s).2.Transmitting := by
  have hsteps := advances_startSteps start
  rw [Start.steps, Attempt.all_append] at hok ⊢
  split at hok
  swap
  · simp at hok
  rename_i hinit
  rw [if_pos hinit]
  have hadv := Attempt.all_invariant (fun t => s.Advances t)
    (fun a ha t ht => ht.trans (hsteps a ha t)) (Advances.refl s)
  have hfrequency := Attempt.all_gives
    (fun t : UsbRx => t.tuneFrequencyAttempted = true) (fun _ _ => rfl)
    (fun b hb t h => (hsteps b (List.mem_append_right _
      (List.mem_cons_of_mem _ hb)) t).frequency h) hinit
  have hsplit : (preparingSteps start.filter start.microphone
        ++ start.beforeKey ++ [muteTransition])
      ++ tuneTransmitter start.word :: keyTransmitter ::
        (start.afterKey ++ [attempt (serviceTxStream 200)])
      = (preparingSteps start.filter start.microphone ++ start.beforeKey
          ++ [muteTransition, tuneTransmitter start.word])
        ++ keyTransmitter ::
          (start.afterKey ++ [attempt (serviceTxStream 200)]) := by
    simp
  rw [hsplit] at hinit hadv hfrequency hok hsteps ⊢
  have hkeyed := Attempt.all_gives
    (fun t : UsbRx => t.tuneKeyed = true ∧ t.tuneKeyAttempted = true)
    keyed_keyTransmitter
    (fun b hb t h =>
      have hb := hsteps b (List.mem_append_right _
        (List.mem_cons_of_mem _ hb)) t
      ⟨hb.keyed h.1, hb.keyAttempted h.2⟩) hinit
  simp only [Attempt.all] at hok ⊢
  split at hok
  swap
  · simp at hok
  rename_i hlast
  rw [if_pos hlast]
  exact transmitting_unmuteTransition (hadv.tracked ht hh) hkeyed.1 hkeyed.2
    hfrequency (hadv.handle.trans hh) hlast

/-- Where a stop finds a transmission prepared, it stops. -/
theorem stopped_of_prepared (hh : s.handle = true)
    (hp : s.tunePrepared = true) : s.Stopped s.tuneCarrierStop.2 := by
  rcases tuneCarrierStop_cases s with ⟨hno, -⟩ | ⟨hidle, -, -⟩ | h
  · simp [hh] at hno
  · simp [(idle_iff.mp hidle).1] at hp
  · exact h

/-- The receiver that the steps of a start leave, as far as they get. -/
def reached (steps : List (Attempt UsbRx)) (r : UsbRx) : UsbRx :=
  (Attempt.all steps { r with tunePrepared := true }).2

/-- **What a start is**, up to the stop it ends with when it fails: it adds
events that hold to the interlock, and either it transmits or the flags
account for them and it stops. -/
theorem startWith_cases (ht : r.Tracked) (hh : r.handle = true) :
    ∃ es, (r.reached start.steps).trace = r.trace ++ es
      ∧ (∀ before ok after, es = before ++ .command (.setTr true) ok :: after →
          before = keyingEvents start.filter start.word)
      ∧ (.streamStart true ∈ es → .streamStart false ∉ es)
      ∧ (r.reached start.steps).Tracked
      ∧ (((r.reached start.steps).Transmitting
          ∧ r.startWith start.steps = (0, r.reached start.steps))
        ∨ ({ r with tunePrepared := true }.Advances (r.reached start.steps)
          ∧ (r.reached start.steps).Stopped
            (r.reached start.steps).tuneCarrierStop.2
          ∧ r.startWith start.steps
            = (libusbErrorIo, (r.reached start.steps).tuneCarrierStop.2))) := by
  have ht' : { r with tunePrepared := true }.Tracked :=
    ⟨ht.key, ht.prepared, ht.frequency⟩
  unfold startWith reached
  dsimp only
  have hlog := Attempt.all_log _ start.logs_steps
    { r with tunePrepared := true }
  rw [← Start.steps_eq] at hlog
  obtain ⟨es, hes⟩ : ∃ es, (Attempt.all start.steps
      { r with tunePrepared := true }).2.trace = r.trace ++ es := by
    rcases hlog with ⟨-, h⟩ | ⟨_, _, _, -, -, h⟩ <;> exact ⟨_, h⟩
  refine ⟨es, hes, fun before ok after h => start.interlock hes h,
    start.stream_once hes, ?_⟩
  by_cases hok : (Attempt.all start.steps
      { r with tunePrepared := true }).1 = true
  · have h := started_of_ok start ht' hh hok
    exact ⟨h.1, Or.inl ⟨h.2, by rw [if_pos hok]⟩⟩
  · have h := advances_of_failed start (by simpa using hok)
    refine ⟨h.tracked ht' hh, Or.inr ⟨h, ?_, by rw [if_neg hok]⟩⟩
    exact stopped_of_prepared (h.handle.trans hh) h.tunePrepared

/-- A start leaves a sound receiver. -/
theorem sound_startWith (ht : r.Tracked) (hh : r.handle = true) :
    (r.startWith start.steps).2.Sound := by
  obtain ⟨es, -, -, -, hs, ⟨htr, he⟩ | ⟨-, hstop, he⟩⟩ :=
    startWith_cases start ht hh
  · rw [he]
    exact ⟨hs, Or.inr htr⟩
  · rw [he]
    exact hstop.sound hs

/-- The events of one start: where it keys, everything else was
acknowledged. -/
def Keys (filter word : ℕ) (r r' : UsbRx) : Prop :=
  ∃ es, r'.trace = r.trace ++ es ∧ ∀ before ok after,
    es = before ++ .command (.setTr true) ok :: after →
      before = keyingEvents filter word

theorem keys_startWith (ht : r.Tracked) (hh : r.handle = true) :
    Keys start.filter start.word r
      (r.startWith start.steps).2 := by
  obtain ⟨es, hs, hkeys, -, -, ⟨-, he⟩ | ⟨-, hstop, he⟩⟩ :=
    startWith_cases start ht hh
  · rw [he]
    exact ⟨es, hs, hkeys⟩
  · rw [he]
    obtain ⟨es', hs', -, -, -, hn⟩ := hstop.events
    refine ⟨es ++ es', by rw [hs', hs, List.append_assoc], ?_⟩
    intro before ok after hsplit
    -- the cleanup keys nothing, so the key is in the start itself
    rcases Attempt.split_append hsplit with ⟨mid, hes, -⟩ | ⟨mid, -, hes'⟩
    · exact hkeys before ok mid hes
    · exact absurd rfl (hn (.command (.setTr true) ok) (by simp [hes']))

/-! ## A start that fails -/

/-- **A start that failed safely**: what it ends with is the carrier stop of
the receiver its steps left, which undoes whatever was sent, as far as
commands can, and leaves the receiver idle. -/
structure SafelyFailed (steps : List (Attempt UsbRx)) (r r' : UsbRx) :
    Prop where
  stop : r' = (r.reached steps).tuneCarrierStop.2
  /-- The cleanup is what the stop adds to what the steps sent, and it
  attempts what is planned for the receiver they left, in order. Keying is
  followed by muting and unkeying, muting by unmuting, and a stream by its
  stop; the cleanup disables the amplifier, and resets a filter that was
  known. -/
  events : ∃ started cleanup,
    (r.reached steps).trace = r.trace ++ started
    ∧ r'.trace = (r.reached steps).trace ++ cleanup
    ∧ commands cleanup = (r.reached steps).plannedCommands
    ∧ (∀ before after, commands (started ++ cleanup)
          = before ++ .setTr true :: after →
        [.transitionMute true, .setTr false].Sublist after)
    ∧ (∀ before after, commands (started ++ cleanup)
          = before ++ .transitionMute true :: after →
        .transitionMute false ∈ after)
    ∧ (∀ before after, started ++ cleanup
          = before ++ .streamStart true :: after →
        .streamStop ∈ after)
    ∧ .setAmpTx1 false ∈ commands cleanup
    ∧ (r.paFilter.isSome = true
          ∨ (∃ filter, .command (.setPaFilter filter) true ∈ started) →
        .setPaFilter (cleanupPaFilter r.transmitPrepared r.frequencyHz)
          ∈ commands cleanup)
  idle : r'.Idle
  transmitPrepared : r'.transmitPrepared = r.transmitPrepared
  frequencyHz : r'.frequencyHz = r.frequencyHz

/-- The actions that follow the unkeying in a cleanup. -/
def laterActions : List TxCleanupAction :=
  [.restoreRxFrequency, .transitionUnmute, .resetPaFilter, .disableAmplifier,
    .stopStream]

@[simp] theorem commands_append (es es' : List UsbEvent) :
    commands (es ++ es') = commands es ++ commands es' :=
  List.filterMap_append ..

/-- No cleanup keys. -/
theorem key_not_mem_plannedCommands : .setTr true ∉ s.plannedCommands := by
  intro hmem
  obtain ⟨action, -, hmem⟩ := List.mem_flatMap.mp hmem
  cases action <;> simp [cleanupCommands, Frequency.rxTuneRequest,
    buildRxTuneRequest] at hmem

/-- What is planned for a receiver that may be keyed begins with muting and
unkeying it. -/
theorem plannedCommands_of_keyKnown (h : s.KeyKnown) :
    s.plannedCommands = .transitionMute true :: .setTr false ::
      (laterActions.filter (txCleanupPlan s.txPartialState)).flatMap
        (cleanupCommands s.transmitPrepared s.frequencyHz) := by
  have hunkey := unkey_planned_iff.mpr h
  have hmute : txCleanupPlan s.txPartialState .transitionMute = true := hunkey
  simp [plannedCommands, txCleanupOrder, laterActions, List.filter_cons, hmute,
    hunkey, cleanupCommands]

theorem mute_not_mem_later (preserve : Bool) (frequency : Option Frequency)
    (plan : TxCleanupPlan) :
    .transitionMute true ∉ (laterActions.filter plan).flatMap
      (cleanupCommands preserve frequency) := by
  intro hmem
  obtain ⟨action, haction, hmem⟩ := List.mem_flatMap.mp hmem
  have := (List.mem_filter.mp haction).1
  cases action <;> simp [laterActions] at this <;>
    simp [cleanupCommands, Frequency.rxTuneRequest, buildRxTuneRequest] at hmem

/-- A planned action's commands are among those planned. -/
theorem mem_plannedCommands (action : TxCleanupAction) {command : RadioCommand}
    (hplan : txCleanupPlan s.txPartialState action = true)
    (hmem : command ∈ cleanupCommands s.transmitPrepared s.frequencyHz action) :
    command ∈ s.plannedCommands :=
  List.mem_flatMap.mpr
    ⟨action, List.mem_filter.mpr ⟨mem_txCleanupOrder _, hplan⟩, hmem⟩

/-- Muting is planned only with keying. -/
theorem keyKnown_of_mute_mem
    (h : .transitionMute true ∈ s.plannedCommands) : s.KeyKnown := by
  obtain ⟨action, haction, hmem⟩ := List.mem_flatMap.mp h
  have hplan := (List.mem_filter.mp haction).2
  cases action with
  | transitionMute => exact unkey_planned_iff.mp hplan
  | _ => simp [cleanupCommands, Frequency.rxTuneRequest,
      buildRxTuneRequest] at hmem

/-- The flags account for what was sent since the receiver `r`. -/
structure Accounted (r s : UsbRx) (es : List UsbEvent) : Prop where
  key : .setTr true ∈ commands es ↔ s.KeyKnown
  mute : .transitionMute true ∈ commands es →
    s.tuneTransitionAttempted = true
  muted : .setTr true ∈ commands es → .transitionMute true ∈ commands es
  stream : .streamStart true ∈ es → s.txStreamPresent = true
  paFilter : r.paFilter.isSome = true
      ∨ (∃ filter, .command (.setPaFilter filter) true ∈ es) →
    s.paFilter.isSome = true
  transmitPrepared : s.transmitPrepared = r.transmitPrepared
  frequencyHz : s.frequencyHz = r.frequencyHz

/-- A command attempted is an event. -/
theorem exists_event_of_mem_commands {command : RadioCommand}
    {es : List UsbEvent} (h : command ∈ commands es) :
    ∃ ok, .command command ok ∈ es := by
  obtain ⟨e, hmem, he⟩ := List.mem_filterMap.mp h
  cases e with
  | command sent ok =>
    obtain rfl := by simpa [UsbEvent.command?] using he
    exact ⟨ok, hmem⟩
  | _ => simp [UsbEvent.command?] at he

/-- Before the key comes the mute. -/
theorem mute_mem_of_keys {es : List UsbEvent}
    (hkeys : ∀ before ok after, es = before ++ .command (.setTr true) ok :: after →
      before = keyingEvents start.filter start.word)
    (h : .setTr true ∈ commands es) : .transitionMute true ∈ commands es := by
  obtain ⟨ok, hmem⟩ := exists_event_of_mem_commands h
  obtain ⟨before, after, hes⟩ := List.append_of_mem hmem
  rw [hes, hkeys before ok after hes]
  simp [commands, keyingEvents, UsbEvent.command?]

/-- A start that only added, from an idle receiver, is accounted for. -/
theorem accounted_of_advances {es : List UsbEvent} (hi : r.Idle)
    (hadv : { r with tunePrepared := true }.Advances s)
    (hs : s.trace = r.trace ++ es)
    (hkeys : ∀ before ok after, es = before ++ .command (.setTr true) ok :: after →
      before = keyingEvents start.filter start.word)
    (honce : .streamStart true ∈ es → .streamStart false ∉ es) :
    Accounted r s es := by
  obtain ⟨es', hs', -, hkey, hmute, hstream, hfilter, hknown⟩ := hadv.events
  obtain rfl : es = es' := List.append_cancel_left (hs.symm.trans hs')
  have hidle : ¬ { r with tunePrepared := true }.KeyKnown := fun h =>
    not_keyKnown_of_idle hi h
  refine ⟨⟨fun h => Or.inr (Or.inr (hkey h)), fun h => ?_⟩, hmute,
    mute_mem_of_keys start hkeys, fun h => ?_, fun h => ?_, hadv.transmitPrepared,
    hadv.frequencyHz⟩
  · exact (hknown h).resolve_left hidle
  · exact ((hstream (Or.inr h)).resolve_right (honce h)).present
  · exact h.elim hadv.paFilter hfilter

section Cleanup

variable {es cleanup : List UsbEvent} (ha : Accounted r s es)
  (hc : commands cleanup = s.plannedCommands)
include ha hc

/-- **A key is followed by muting and unkeying.** -/
theorem unkeyed_after {before after : List RadioCommand}
    (h : commands (es ++ cleanup) = before ++ .setTr true :: after) :
    [.transitionMute true, .setTr false].Sublist after := by
  rw [commands_append, hc] at h
  rcases Attempt.split_append h with ⟨mid, hes, rfl⟩ | ⟨mid, -, hplan⟩
  · have hknown := ha.key.mp (by rw [hes]; simp)
    refine List.Sublist.trans ?_ (List.sublist_append_right _ _)
    rw [plannedCommands_of_keyKnown hknown]
    simp
  · exact absurd (by rw [hplan]; simp) key_not_mem_plannedCommands

/-- **A mute is followed by an unmute.** -/
theorem unmuted_after {before after : List RadioCommand}
    (h : commands (es ++ cleanup) = before ++ .transitionMute true :: after) :
    .transitionMute false ∈ after := by
  rw [commands_append, hc] at h
  have hunmute : s.tuneTransitionAttempted = true →
      txCleanupPlan s.txPartialState .transitionUnmute = true := fun h => by
    simp [txCleanupPlan, txPartialState, h]
  rcases Attempt.split_append h with ⟨mid, hes, rfl⟩ | ⟨mid, -, hplan⟩
  · refine List.mem_append_right _ (mem_plannedCommands .transitionUnmute
      (hunmute (ha.mute (by rw [hes]; simp))) (by simp [cleanupCommands]))
  · -- the cleanup mutes first of all, and only where the start muted too
    have hknown : s.KeyKnown := keyKnown_of_mute_mem (by rw [hplan]; simp)
    rw [plannedCommands_of_keyKnown hknown] at hplan
    have hmid : mid = [] := Attempt.split_unique
      (P := (· = RadioCommand.transitionMute true)) hplan.symm rfl (by simp)
      (by
        intro command hmem hcommand
        rcases List.mem_cons.mp hmem with rfl | hmem
        · simp at hcommand
        · exact mute_not_mem_later _ _ _ (hcommand ▸ hmem))
    rw [hmid, List.nil_append, List.cons.injEq] at hplan
    rw [← hplan.2]
    refine List.mem_cons_of_mem _ (List.mem_flatMap.mpr
      ⟨.transitionUnmute, List.mem_filter.mpr ⟨by simp [laterActions],
        hunmute (ha.mute (ha.muted (ha.key.mpr hknown)))⟩,
        by simp [cleanupCommands]⟩)

end Cleanup

/-- **A start that fails, fails safely.** -/
theorem safelyFailed_startWith (ht : r.Tracked) (hi : r.Idle)
    (hp : r.transmitPrepared = true) (hh : r.handle = true)
    (hfail : (r.startWith start.steps).1 ≠ 0) :
    SafelyFailed start.steps r (r.startWith start.steps).2 := by
  obtain ⟨es, hs, hkeys, honce, -, ⟨-, he⟩ | ⟨hadv, hstop, he⟩⟩ :=
    startWith_cases start ht hh
  · simp [he] at hfail
  rw [he]
  have ha := accounted_of_advances start hi hadv hs hkeys honce
  obtain ⟨cleanup, hs', hc, hstopped, hclosing, -⟩ := hstop.events
  refine ⟨rfl, ⟨es, cleanup, hs, hs', hc,
    fun before after h => unkeyed_after ha hc h,
    fun before after h => unmuted_after ha hc h, ?_, ?_, ?_⟩, hstop.idle,
    hstop.transmitPrepared.trans ha.transmitPrepared,
    hstop.frequencyHz.trans ha.frequencyHz⟩
  · intro before after h
    rcases Attempt.split_append h with ⟨mid, hes, rfl⟩ | ⟨mid, -, hcleanup⟩
    · exact List.mem_append_right _
        (hstopped (ha.stream (by rw [hes]; simp)))
    · exact absurd rfl ((hclosing (.streamStart true) (by
        rw [hcleanup]; simp)).2 true)
  · rw [commands, hc]
    refine mem_plannedCommands .disableAmplifier ?_
      (by simp [cleanupCommands])
    simp [txCleanupPlan, txPartialState, ha.transmitPrepared, hp]
  · intro hknown
    rw [commands, hc]
    refine mem_plannedCommands .resetPaFilter ?_ ?_
    · simpa [txCleanupPlan, txPartialState] using ha.paFilter hknown
    · simp [cleanupCommands, ha.transmitPrepared, ha.frequencyHz]

end UsbRx
