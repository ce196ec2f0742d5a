import Flex1500.UsbTrace

/-!
# What the cleanups send

The cleanup of a transmission carries out the actions the policy plans for
the flags it finds. This module says which commands that sends, for every
pattern of failures, and with it what a carrier stop, and everything that
contains one, leaves behind.
-/

namespace UsbRx

variable {r r' r₁ r₂ r₃ : UsbRx}

/-- The commands an action of a cleanup attempts. -/
def cleanupCommands (preservePaPreparation : Bool)
    (frequency : Option Frequency) : TxCleanupAction → List RadioCommand
  | .transitionMute => [.transitionMute true]
  | .unkey => [.setTr false]
  | .restoreRxFrequency => (frequency.map (·.rxTuneRequest)).toList
  | .transitionUnmute => [.transitionMute false]
  | .resetPaFilter =>
    [.setPaFilter (cleanupPaFilter preservePaPreparation frequency)]
  | .disableAmplifier => [.setAmpTx1 false]
  | .stopStream => []

/-- **What actions of a cleanup do**, failed or not: their commands are
attempted in order, and of the transmit path nothing changes but the
selected filter. -/
structure CleanedBy (preserve : Bool) (actions : List TxCleanupAction)
    (r r' : UsbRx) : Prop where
  events : ∃ events, r'.trace = r.trace ++ events
    ∧ events.filterMap UsbEvent.command?
      = actions.flatMap (cleanupCommands preserve r.frequencyHz)
    ∧ (.stopStream ∈ actions → .streamStop ∈ events)
    ∧ ∀ event ∈ events, event.Closing
  path : r'.toTxPath
    = { r.toTxPath with trace := r'.trace, paFilter := r'.paFilter }
  handle : r'.handle = r.handle

namespace CleanedBy

variable {preserve : Bool} {as bs : List TxCleanupAction}

theorem nil (preserve : Bool) (r : UsbRx) : CleanedBy preserve [] r r :=
  ⟨⟨[], by simp, rfl, by simp, by simp⟩, rfl, rfl⟩

theorem frequencyHz (h : CleanedBy preserve as r r') :
    r'.frequencyHz = r.frequencyHz := by
  rw [h.path]

theorem transmitPrepared (h : CleanedBy preserve as r r') :
    r'.transmitPrepared = r.transmitPrepared := by
  rw [h.path]

theorem append (h : CleanedBy preserve as r₁ r₂)
    (h' : CleanedBy preserve bs r₂ r₃) :
    CleanedBy preserve (as ++ bs) r₁ r₃ := by
  obtain ⟨es, he, hc, hs, hi⟩ := h.events
  obtain ⟨es', he', hc', hs', hi'⟩ := h'.events
  refine ⟨⟨es ++ es', ?_, ?_, ?_, ?_⟩, ?_, h'.handle.trans h.handle⟩
  · rw [he', he, List.append_assoc]
  · rw [List.filterMap_append, hc, hc', h.frequencyHz, List.flatMap_append]
  · intro hmem
    rcases List.mem_append.mp hmem with hmem | hmem
    · exact List.mem_append_left _ (hs hmem)
    · exact List.mem_append_right _ (hs' hmem)
  · intro e hmem
    exact (List.mem_append.mp hmem).elim (hi e) (hi' e)
  · rw [h'.path, h.path]

/-- A cleanup never keys. -/
theorem notKeying {events : List UsbEvent}
    (hc : events.filterMap UsbEvent.command?
      = as.flatMap (cleanupCommands preserve r.frequencyHz)) :
    ∀ event ∈ events, event.NotKeying := by
  intro event hmem hkey
  have : RadioCommand.setTr true
      ∈ as.flatMap (cleanupCommands preserve r.frequencyHz) :=
    hc ▸ List.mem_filterMap.mpr ⟨event, hmem, hkey⟩
  obtain ⟨action, -, hmem⟩ := List.mem_flatMap.mp this
  cases action <;>
    simp [cleanupCommands, Frequency.rxTuneRequest, buildRxTuneRequest] at hmem

end CleanedBy

/-- A command sent by an action. -/
theorem cleanedBy_send (preserve : Bool) (action : TxCleanupAction)
    {command : RadioCommand} (r : UsbRx) (hs : action ≠ .stopStream)
    (hc : cleanupCommands preserve r.frequencyHz action = [command]) :
    CleanedBy preserve [action] r (r.sendRxCommand command).2 := by
  have h := adds_sendRxCommand command r
  refine ⟨⟨_, h.trace, ?_, ?_, ?_⟩, ?_, h.handle⟩
  · simp [UsbEvent.command?, hc]
  · intro hmem
    exact absurd (List.mem_singleton.mp hmem).symm hs
  · simp [UsbEvent.Closing, UsbEvent.Inner]
  · rw [h.path]

/-- Each action of a cleanup. -/
theorem cleanedBy_action (preserve : Bool) (action : TxCleanupAction)
    (r : UsbRx) :
    CleanedBy preserve [action] r
      (executeUsbCleanupAction preserve action r).2 := by
  cases action with
  | transitionMute => exact cleanedBy_send preserve _ r (by simp) rfl
  | unkey => exact cleanedBy_send preserve _ r (by simp) rfl
  | transitionUnmute => exact cleanedBy_send preserve _ r (by simp) rfl
  | disableAmplifier => exact cleanedBy_send preserve _ r (by simp) rfl
  | restoreRxFrequency =>
    unfold executeUsbCleanupAction
    cases hf : r.frequencyHz with
    | none => exact ⟨⟨[], by simp, by simp [cleanupCommands, hf], by simp,
        by simp⟩, rfl, rfl⟩
    | some frequency =>
      have hsend := cleanedBy_send preserve .restoreRxFrequency r (by simp)
        (by rw [hf]; rfl : _ = [frequency.rxTuneRequest])
      dsimp only
      split
      · -- the service after the command adds an event that is no command
        obtain ⟨es, he, hc, hs, hi⟩ := hsend.events
        have hserve := adds_serviceTxStream 200
          (r.sendRxCommand frequency.rxTuneRequest).2
        refine ⟨⟨es ++ _, by rw [hserve.trace, he, List.append_assoc], ?_,
          by simp, ?_⟩, by rw [hserve.path, hsend.path],
          hserve.handle.trans hsend.handle⟩
        · rw [List.filterMap_append, hc]
          simp [UsbEvent.command?]
        · intro e hmem
          rcases List.mem_append.mp hmem with hmem | hmem
          · exact hi e hmem
          · simp [List.mem_singleton.mp hmem, UsbEvent.Closing, UsbEvent.Inner]
      · exact hsend
  | resetPaFilter =>
    have h : CleanedBy preserve [.resetPaFilter] r _ :=
      cleanedBy_send preserve .resetPaFilter r (by simp) rfl
    refine ⟨h.events, ?_, h.handle⟩
    unfold executeUsbCleanupAction
    dsimp only
    rw [h.path]
  | stopStream =>
    have h := adds_stopTxStream r
    exact ⟨⟨_, h.trace, by simp [UsbEvent.command?, cleanupCommands], by simp,
      by simp [UsbEvent.Closing, UsbEvent.Inner]⟩, by
        rw [executeUsbCleanupAction, h.path],
      h.handle⟩

/-- A run of actions. -/
theorem cleanedBy_run (preserve : Bool) (actions : List TxCleanupAction)
    (r : UsbRx) :
    CleanedBy preserve actions r
      (cleanupRun (executeUsbCleanupAction preserve) actions r).2 := by
  induction actions generalizing r with
  | nil => exact CleanedBy.nil preserve r
  | cons action rest ih =>
    exact (cleanedBy_action preserve action r).append (ih _)

/-- **A cleanup by the policy** attempts what the plan says, in order. -/
theorem cleanedBy_execute (preserve : Bool) (plan : TxCleanupPlan)
    (r : UsbRx) :
    CleanedBy preserve (txCleanupOrder.filter plan) r
      (txExecuteCleanup plan (executeUsbCleanupAction preserve) r).2 := by
  rw [txExecuteCleanup_eq]
  exact cleanedBy_run preserve _ r

/-! ## Calls that never key -/

/-- **A call that does not key**: no event of it does, and it leaves a sound
receiver sound. -/
structure Unkeying (r r' : UsbRx) : Prop where
  grows : r.Grows r'
  sound : r.Sound → r'.Sound

namespace Unkeying

theorem refl (r : UsbRx) : r.Unkeying r := ⟨Grows.refl r, id⟩

theorem trans (h : r₁.Unkeying r₂) (h' : r₂.Unkeying r₃) : r₁.Unkeying r₃ :=
  ⟨h.grows.trans h'.grows, fun hs => h'.sound (h.sound hs)⟩

end Unkeying

theorem Quietly.unkeying (h : r.Quietly r') : r.Unkeying r' :=
  ⟨h.grows, h.sound⟩

/-- The part of the state that the account of the radio is about. -/
def accountedPart (r : UsbRx) :
    List UsbEvent × TxFlags × Bool × Option Frequency × Bool :=
  (r.trace, r.toTxFlags, r.transmitPrepared, r.frequencyHz, r.handle)

/-- What else a call touches is no matter. -/
theorem Unkeying.same (h : r₁.Unkeying r₂)
    (hpart : r₃.accountedPart = r₂.accountedPart) : r₁.Unkeying r₃ := by
  obtain ⟨ht, hf, hp, hz, hh⟩ : r₃.trace = r₂.trace
      ∧ r₃.toTxFlags = r₂.toTxFlags
      ∧ r₃.transmitPrepared = r₂.transmitPrepared
      ∧ r₃.frequencyHz = r₂.frequencyHz ∧ r₃.handle = r₂.handle := by
    simpa only [accountedPart, Prod.mk.injEq] using hpart
  exact h.trans (Quietly.of_same ht hf hp hz hh).unkeying

theorem Unkeying.undisturbed (h : r₁.Unkeying r₂) (h' : r₂.Undisturbed r₃) :
    r₁.Unkeying r₃ :=
  h.trans (Quietly.of_undisturbed h').unkeying

theorem CleanedBy.grows {preserve : Bool} {as : List TxCleanupAction}
    (h : CleanedBy preserve as r r') : r.Grows r' := by
  obtain ⟨es, he, hc, -, -⟩ := h.events
  exact ⟨es, he, notKeying hc⟩

/-- A cleanup that leaves the radio keyed leaves a sound receiver sound. -/
theorem CleanedBy.unkeying {preserve : Bool} {as : List TxCleanupAction}
    (h : CleanedBy preserve as r r') : r.Unkeying r' := by
  refine ⟨h.grows, fun hs => ?_⟩
  obtain ⟨es, he, hc, -, hi⟩ := h.events
  have hview := RadioView.after_inner r.trace fun e he => (hi e he).1
  rw [← he] at hview
  have hflags : r'.toTxFlags = r.toTxFlags := by rw [h.path]
  refine ⟨⟨fun hk => ?_, ?_, ?_⟩, ?_⟩
  · rw [hflags, h.handle]
    exact hs.key (RadioView.key_after r.trace (notKeying hc) (he ▸ hk)).1
  · rw [hview.1, h.transmitPrepared]
    exact hs.prepared
  · rw [hview.2, h.frequencyHz]
    exact hs.frequency
  · exact resting_of_flags hflags h.handle hs.resting

/-! ## The carrier stop -/

/-- The commands of the cleanup planned for a receiver. -/
def plannedCommands (r : UsbRx) : List RadioCommand :=
  (txCleanupOrder.filter (txCleanupPlan r.txPartialState)).flatMap
    (cleanupCommands r.transmitPrepared r.frequencyHz)

/-- **What a carrier stop does**: the commands planned are attempted, the
stream is stopped, and every flag of a transmission is cleared. -/
structure Stopped (r r' : UsbRx) : Prop where
  events : ∃ events, r'.trace = r.trace ++ events
    ∧ events.filterMap UsbEvent.command? = r.plannedCommands
    ∧ (r.txStreamPresent = true → .streamStop ∈ events)
    ∧ (∀ event ∈ events, event.Closing) ∧ ∀ event ∈ events, event.NotKeying
  idle : r'.Idle
  transmitPrepared : r'.transmitPrepared = r.transmitPrepared
  frequencyHz : r'.frequencyHz = r.frequencyHz
  handle : r'.handle = r.handle

/-- **A carrier stop** finds no handle, or nothing to stop, or stops. -/
theorem tuneCarrierStop_cases (r : UsbRx) :
    (r.handle = false ∧ r.tuneCarrierStop = (libusbErrorInvalidParam, r))
    ∨ (r.Idle ∧ r.txStreamPresent = false ∧ r.tuneCarrierStop = (0, r))
    ∨ r.Stopped r.tuneCarrierStop.2 := by
  unfold tuneCarrierStop
  by_cases hh : r.handle = true
  swap
  · exact Or.inl ⟨by simpa using hh, by simp [hh]⟩
  by_cases hidle : (!r.tunePrepared && !r.tuneActive && !r.tuneKeyed
      && !r.tuneKeyAttempted && !r.txStreamPresent
      && !r.tuneTransitionAttempted && !r.tuneFrequencyAttempted) = true
  · refine Or.inr (Or.inl ?_)
    simp only [Bool.and_eq_true, Bool.not_eq_true'] at hidle
    exact ⟨idle_iff.mpr ⟨hidle.1.1.1.1.1.1, hidle.1.1.1.1.1.2,
      hidle.1.1.1.1.2, hidle.1.1.1.2, hidle.1.2, hidle.2⟩, hidle.1.1.2, by
      simp [hh, hidle]⟩
  · right; right
    simp only [hh, Bool.not_true, Bool.false_eq_true, if_false, hidle]
    have hclean := cleanedBy_execute r.transmitPrepared
      (txCleanupPlan r.txPartialState) r
    revert hclean
    generalize (txExecuteCleanup (txCleanupPlan r.txPartialState)
      (executeUsbCleanupAction r.transmitPrepared) r).2 = cleaned
    intro hclean
    obtain ⟨es, he, hc, hs, hi⟩ := hclean.events
    have hunkeyed : r.Stopped cleaned.unkeyed :=
      ⟨⟨es, he, hc, fun hp => hs (List.mem_filter.mpr
          ⟨mem_txCleanupOrder _, hp⟩), hi, CleanedBy.notKeying hc⟩,
        rfl, hclean.transmitPrepared,
        hclean.frequencyHz, hclean.handle⟩
    split
    · have hstop := adds_stopTxStream cleaned.unkeyed
      obtain ⟨es', he', hc', hs', hi', hn'⟩ := hunkeyed.events
      refine ⟨⟨es' ++ [.streamStop], ?_, ?_, by simp, ?_, ?_⟩, ?_, ?_, ?_, ?_⟩
      · rw [hstop.trace, he', List.append_assoc]
      · rw [List.filterMap_append, hc']
        simp [UsbEvent.command?]
      · intro e hmem
        rcases List.mem_append.mp hmem with hmem | hmem
        · exact hi' e hmem
        · simp [List.mem_singleton.mp hmem, UsbEvent.Closing, UsbEvent.Inner]
      · intro e hmem
        rcases List.mem_append.mp hmem with hmem | hmem
        · exact hn' e hmem
        · simp [List.mem_singleton.mp hmem, UsbEvent.NotKeying,
            UsbEvent.command?]
      · rw [Idle, hstop.path]
        rfl
      · rw [hstop.path]; exact hunkeyed.transmitPrepared
      · rw [hstop.path]; exact hunkeyed.frequencyHz
      · exact hstop.handle.trans hunkeyed.handle
    · exact hunkeyed

/-- The receiver is taken for one that may be keyed. -/
def KeyKnown (r : UsbRx) : Prop :=
  r.tuneActive = true ∨ r.tuneKeyed = true ∨ r.tuneKeyAttempted = true

theorem not_keyKnown_of_idle (h : r.Idle) : ¬ r.KeyKnown := by
  obtain ⟨-, ha, hk, hka, -⟩ := idle_iff.mp h
  simp [KeyKnown, ha, hk, hka]

theorem unkey_planned_iff :
    txCleanupPlan r.txPartialState .unkey = true ↔ r.KeyKnown := by
  simp only [txCleanupPlan, txPartialState, Bool.or_eq_true, KeyKnown]
  tauto

/-- Planned commands unkey a receiver that may be keyed. -/
theorem unkey_mem_plannedCommands (h : r.KeyKnown) :
    RadioCommand.setTr false ∈ r.plannedCommands :=
  List.mem_flatMap.mpr ⟨.unkey, List.mem_filter.mpr
    ⟨mem_txCleanupOrder _, unkey_planned_iff.mpr h⟩, List.mem_singleton.mpr rfl⟩

namespace Stopped

theorem grows (h : r.Stopped r') : r.Grows r' := by
  obtain ⟨es, he, -, -, -, hn⟩ := h.events
  exact ⟨es, he, hn⟩

/-- **Stopped is unkeyed**: even where the key command failed, a tracked
receiver that was stopped is sound. -/
theorem sound (h : r.Stopped r') (ht : r.Tracked) : r'.Sound := by
  obtain ⟨es, he, hc, -, hi, hn⟩ := h.events
  have hview := RadioView.after_inner r.trace fun e he => (hi e he).1
  rw [← he] at hview
  have hkey : (RadioView.after r'.trace).key ≠ some true := fun hk => by
    rw [he] at hk
    obtain ⟨hk, hunkeyed⟩ := RadioView.key_after r.trace hn hk
    exact hunkeyed (hc ▸ unkey_mem_plannedCommands
      (Or.inr (Or.inr (ht.key hk).1)))
  refine ⟨⟨fun hk => absurd hk hkey, ?_, ?_⟩, Or.inl h.idle⟩
  · rw [hview.1, h.transmitPrepared]
    exact ht.prepared
  · rw [hview.2, h.frequencyHz]
    exact ht.frequency

end Stopped

theorem unkeying_tuneCarrierStop (r : UsbRx) :
    r.Unkeying r.tuneCarrierStop.2 := by
  rcases tuneCarrierStop_cases r with ⟨-, h⟩ | ⟨-, -, h⟩ | h
  · rw [h]; exact Unkeying.refl r
  · rw [h]; exact Unkeying.refl r
  · exact ⟨h.grows, fun hs => h.sound hs.toTracked⟩

theorem unkeying_microphoneTxStopGraceful (r : UsbRx) :
    r.Unkeying r.microphoneTxStopGraceful.2 := by
  unfold microphoneTxStopGraceful
  split
  · exact Unkeying.refl r
  · refine Unkeying.trans ?_ (unkeying_tuneCarrierStop _)
    refine (Quietly.of_undisturbed ?_).unkeying
    have h := undisturbed_drainGracefully
    exact ⟨(h _ _).path, (h _ _).handle⟩

/-! ## Disabling, and closing -/

/-- What a call attempted. -/
def Attempts (command : RadioCommand) (r r' : UsbRx) : Prop :=
  ∃ events, r'.trace = r.trace ++ events
    ∧ command ∈ events.filterMap UsbEvent.command?

theorem Attempts.trans {command : RadioCommand}
    (h : Attempts command r₁ r₂) (h' : r₂.Grows r₃) :
    Attempts command r₁ r₃ := by
  obtain ⟨es, he, hmem⟩ := h
  obtain ⟨es', he', -⟩ := h'
  exact ⟨es ++ es', by rw [he', he, List.append_assoc], by
    rw [List.filterMap_append]; exact List.mem_append_left _ hmem⟩

/-- A carrier stop tries to unkey a receiver that may be keyed. -/
theorem attempts_tuneCarrierStop (hh : r.handle = true) (h : r.KeyKnown) :
    Attempts (.setTr false) r r.tuneCarrierStop.2 := by
  rcases tuneCarrierStop_cases r with ⟨hno, -⟩ | ⟨hidle, -, -⟩ | hs
  · simp [hh] at hno
  · exact absurd h (not_keyKnown_of_idle hidle)
  · obtain ⟨es, he, hc, -⟩ := hs.events
    exact ⟨es, he, hc ▸ unkey_mem_plannedCommands h⟩

theorem unkeying_preparationCleared (r : UsbRx) :
    r.Unkeying r.preparationCleared := by
  refine ⟨⟨[.unprepared], rfl, by
    simp [UsbEvent.NotKeying, UsbEvent.command?]⟩, fun hs => ?_⟩
  have hview : RadioView.after r.preparationCleared.trace
      = { RadioView.after r.trace with prepared := false } :=
    RadioView.after_concat r.trace .unprepared
  exact ⟨⟨fun hk => hs.key (by rwa [hview] at hk), by rw [hview]; rfl,
    by rw [hview]; exact hs.frequency⟩,
    resting_of_flags (r := r) rfl rfl hs.resting⟩

theorem unkeying_unprepare (r : UsbRx) : r.Unkeying r.unprepare.2 := by
  unfold unprepare
  dsimp only
  split
  · exact Unkeying.refl r
  · exact (cleanedBy_execute false _ r).unkeying.trans
      (unkeying_preparationCleared _)

theorem unkeying_disableTransmitPreparation (r : UsbRx) :
    r.Unkeying r.disableTransmitPreparation.2 := by
  unfold disableTransmitPreparation
  split
  · exact Unkeying.refl r
  · refine Unkeying.trans ?_ (unkeying_unprepare _)
    split
    · exact unkeying_tuneCarrierStop r
    · exact Unkeying.refl r

/-- Disabling the preparation tries to unkey a receiver that may be keyed. -/
theorem attempts_disableTransmitPreparation (hh : r.handle = true)
    (h : r.KeyKnown) :
    Attempts (.setTr false) r r.disableTransmitPreparation.2 := by
  unfold disableTransmitPreparation
  simp only [hh, Bool.not_true, Bool.false_eq_true, if_false,
    unkey_planned_iff.mpr h, Bool.true_or, if_true]
  exact (attempts_tuneCarrierStop hh h).trans (unkeying_unprepare _).grows

theorem unkeying_stopTransmitting (r : UsbRx) :
    r.Unkeying r.stopTransmitting := by
  unfold stopTransmitting
  dsimp only
  split_ifs
  · exact (unkeying_tuneCarrierStop r).trans
      (unkeying_disableTransmitPreparation _)
  · exact unkeying_tuneCarrierStop r
  · exact unkeying_disableTransmitPreparation r
  · exact Unkeying.refl r

/-- Closing tries to unkey a receiver that may be keyed. -/
theorem attempts_stopTransmitting (hh : r.handle = true) (h : r.KeyKnown) :
    Attempts (.setTr false) r r.stopTransmitting := by
  have hplan := unkey_planned_iff.mpr h
  unfold stopTransmitting
  simp only [hplan, Bool.or_true, Bool.true_or, if_true]
  have hstop := attempts_tuneCarrierStop hh h
  split
  · exact hstop.trans (unkeying_disableTransmitPreparation _).grows
  · exact hstop

end UsbRx
