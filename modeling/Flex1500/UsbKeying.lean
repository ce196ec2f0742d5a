import Flex1500.UsbCleanup

/-!
# Keying over USB

Only the two starts key the transmitter, and each does so after a fixed
sequence of steps. What has been acknowledged by then, and what a start
that fails leaves behind, is read off those sequences here. With the calls
that never key, it makes the account the receiver keeps of the radio right
after every operation, whatever fails.
-/

namespace UsbRx

variable {r r' s s' : UsbRx}

/-! ## The calls that do not key -/

theorem unkeying_pump (r : UsbRx) : r.Unkeying r.pump.2 := by
  have h := (Quietly.of_undisturbed ((undisturbed_ask r).trans
    (undisturbed_handleEvents (r.ask.1.rounds.headD {}) r.ask.2))).unkeying
  unfold pump
  dsimp only
  split_ifs
  · exact Unkeying.refl r
  · exact h
  · exact h.same (by rfl)
  · exact h

theorem unkeying_send (command : RadioCommand) (r : UsbRx)
    (h : ∀ transmit, command ≠ .setTr transmit) :
    r.Unkeying (r.sendRxCommand command).2 :=
  (quietly_sendRxCommand command r h).unkeying

theorem unkeying_tunedTo (frequency : Frequency) (r : UsbRx) :
    r.Unkeying (r.tunedTo frequency) := by
  refine ⟨⟨[.tuned frequency.1], rfl, by
    simp [UsbEvent.NotKeying, UsbEvent.command?]⟩, fun hs => ?_⟩
  have hview : RadioView.after (r.tunedTo frequency).trace
      = { RadioView.after r.trace with frequencyHz := some frequency.1 } :=
    RadioView.after_concat r.trace (.tuned frequency.1)
  exact ⟨⟨fun hk => hs.key (by rwa [hview] at hk),
    by rw [hview]; exact hs.prepared, by rw [hview]; rfl⟩,
    resting_of_flags (r := r) rfl rfl hs.resting⟩

theorem rxFilterRequest_not_setTr {frequencyHz filter : ℕ}
    {request : RadioCommand}
    (h : rxFilterRequestForFrequency frequencyHz = some (filter, request))
    (transmit : Bool) : request ≠ .setTr transmit := by
  simp only [rxFilterRequestForFrequency, buildRxFilterRequest,
    Option.bind_eq_some_iff, Option.map_eq_some_iff] at h
  obtain ⟨f, -, c, hc, he⟩ := h
  split at hc
  · simp at hc
  · obtain rfl := by simpa using hc
    simp only [Prod.mk.injEq] at he
    simp [← he.2]

theorem paFilterRequest_eq {frequencyHz filter : ℕ} {request : RadioCommand}
    (h : paFilterRequestForFrequency frequencyHz = some (filter, request)) :
    request = .setPaFilter filter := by
  simp only [paFilterRequestForFrequency, buildPaFilterRequest,
    Option.bind_eq_some_iff, Option.map_eq_some_iff] at h
  obtain ⟨f, -, c, hc, he⟩ := h
  split at hc
  · simp at hc
  · obtain rfl := by simpa using hc
    simp only [Prod.mk.injEq] at he
    rw [← he.1, ← he.2]

theorem unkeying_followPaFilter (frequencyHz : ℕ) (r : UsbRx) :
    r.Unkeying
      (r.followPaFilter (paFilterRequestForFrequency frequencyHz)).2 := by
  unfold followPaFilter
  cases hp : paFilterRequestForFrequency frequencyHz with
  | none => exact Unkeying.refl r
  | some filter =>
    dsimp only
    split
    · exact Unkeying.refl r
    · rw [paFilterRequest_eq hp]
      exact (unkeying_send (.setPaFilter filter.1) r (by simp)).same (by rfl)

theorem unkeying_tune (frequencyHz : ℕ) (r : UsbRx) :
    r.Unkeying (r.tune frequencyHz).2 := by
  unfold tune
  split_ifs with hguard hrange
  · exact Unkeying.refl r
  swap
  · exact Unkeying.refl r
  cases hf : rxFilterRequestForFrequency frequencyHz with
  | none => exact Unkeying.refl r
  | some filter =>
    have htuned : r.Unkeying
        (r.sendRxCommand (Frequency.rxTuneRequest ⟨frequencyHz, hrange⟩)).2 :=
      unkeying_send _ r (by simp [Frequency.rxTuneRequest, buildRxTuneRequest])
    have hfiltered := (htuned.trans
      (unkeying_tunedTo ⟨frequencyHz, hrange⟩ _)).trans
      (unkeying_send _ _ (rxFilterRequest_not_setTr hf))
    dsimp only
    split_ifs
    · exact Unkeying.refl r
    · exact htuned
    · exact hfiltered
    · exact (hfiltered.same (by rfl)).trans
        (unkeying_followPaFilter frequencyHz _)

theorem unkeying_setGain (gainDb : Int) (r : UsbRx) :
    r.Unkeying (r.setGain gainDb).2 := by
  unfold setGain
  split
  · exact Unkeying.refl r
  · cases hg : buildRxGainRequest ((gainDb + 10) / 10).toNat with
    | none => exact Unkeying.refl r
    | some request =>
      have hsend : r.Unkeying (r.sendRxCommand request).2 := by
        refine unkeying_send request r ?_
        unfold buildRxGainRequest at hg
        split at hg
        · simp at hg
        · obtain rfl := by simpa using hg
          simp
      dsimp only
      split
      · exact hsend.same (by rfl)
      · exact hsend

theorem unkeying_preparationDone (r : UsbRx) :
    r.Unkeying r.preparationDone := by
  refine ⟨⟨[.prepared], rfl, by
    simp [UsbEvent.NotKeying, UsbEvent.command?]⟩, fun hs => ?_⟩
  have hview : RadioView.after r.preparationDone.trace
      = { RadioView.after r.trace with prepared := true } :=
    RadioView.after_concat r.trace .prepared
  exact ⟨⟨fun hk => hs.key (by rwa [hview] at hk), by rw [hview]; rfl,
    by rw [hview]; exact hs.frequency⟩,
    resting_of_flags (r := r) rfl rfl hs.resting⟩

theorem unkeying_takeBackPreparation (r : UsbRx) :
    r.Unkeying r.takeBackPreparation := by
  unfold takeBackPreparation
  dsimp only
  split
  · have hfilter := unkeying_send (.setPaFilter 0) r (by simp)
    exact ((hfilter.same (by rfl)).trans
      (unkeying_send (.setAmpTx1 false) _ (by simp))).same (by rfl)
  · exact (unkeying_send (.setAmpTx1 false) r (by simp)).same (by rfl)

theorem unkeying_enableAmplifier (r : UsbRx) :
    r.Unkeying r.enableAmplifier.2 := by
  have hsend := ((Unkeying.refl r).same (by rfl)).trans
    (unkeying_send (.setAmpTx1 true) { r with ampEnableAttempted := true }
      (by simp))
  unfold enableAmplifier
  dsimp only
  split
  · exact hsend.trans (unkeying_takeBackPreparation _)
  · exact hsend.trans (unkeying_preparationDone _)

theorem unkeying_enableTransmitPreparation (r : UsbRx) :
    r.Unkeying r.enableTransmitPreparation.2 := by
  have hantenna := unkeying_send .setTxAnt r (by simp)
  unfold enableTransmitPreparation
  dsimp only
  split
  · exact Unkeying.refl r
  split
  · exact hantenna
  split
  · exact hantenna.trans (unkeying_enableAmplifier _)
  split
  · exact hantenna
  · rename_i filter request hp
    have hsend := hantenna.trans (unkeying_send (.setPaFilter filter) _
      (by simp))
    rw [paFilterRequest_eq hp]
    split
    · exact hsend
    · exact (hsend.same (by rfl)).trans (unkeying_enableAmplifier _)

/-! ## Opening and closing -/

/-- A carrier stop leaves a resting receiver idle. -/
theorem idle_tuneCarrierStop (h : r.Idle ∨ r.Transmitting) :
    r.tuneCarrierStop.2.Idle := by
  rcases tuneCarrierStop_cases r with ⟨hh, he⟩ | ⟨hidle, -, he⟩ | hs
  · rw [he]
    exact h.resolve_right fun ht => by simp [ht.handle] at hh
  · rw [he]
    exact hidle
  · exact hs.idle

theorem flags_unprepare (r : UsbRx) : r.unprepare.2.toTxFlags = r.toTxFlags := by
  unfold unprepare
  dsimp only
  split
  · rfl
  · have h := (cleanedBy_execute false
      (fun action => txCleanupPlan r.txPartialState action
        && (action == .resetPaFilter || action == .disableAmplifier)) r).path
    exact (congrArg TxPath.toTxFlags h : _)

/-- A transmission is one that may be keyed. -/
theorem Transmitting.keyKnown (h : r.Transmitting) : r.KeyKnown :=
  Or.inl h.tuneActive

theorem idle_disableTransmitPreparation (h : r.Idle ∨ r.Transmitting) :
    r.disableTransmitPreparation.2.Idle := by
  have hstop := idle_tuneCarrierStop h
  unfold disableTransmitPreparation
  split
  · rename_i hh
    exact h.resolve_right fun ht => by simp [ht.handle] at hh
  refine (flags_unprepare _).trans ?_
  split
  · exact hstop
  · rename_i hp
    refine h.resolve_right fun ht => hp ?_
    simp [unkey_planned_iff.mpr ht.keyKnown]

/-- **Closing ends every transmission.** -/
theorem idle_stopTransmitting (h : r.Idle ∨ r.Transmitting) :
    r.stopTransmitting.Idle := by
  have hstop := idle_tuneCarrierStop h
  unfold stopTransmitting
  dsimp only
  split_ifs with hp
  · exact idle_disableTransmitPreparation (Or.inl hstop)
  · exact hstop
  · exact idle_disableTransmitPreparation h
  · refine h.resolve_right fun ht => hp ?_
    simp [unkey_planned_iff.mpr ht.keyKnown]

/-- An idle receiver can be closed. -/
theorem sound_closed (hs : r.Sound) (hi : r.Idle) : r.closed.Sound := by
  have hview : RadioView.after r.closed.trace
      = { RadioView.after r.trace with
          prepared := false, frequencyHz := none } :=
    RadioView.after_concat r.trace .closed
  have hkey : (RadioView.after r.trace).key ≠ some true := fun hk =>
    not_keyKnown_of_idle hi (hs.transmitting hk).keyKnown
  refine ⟨⟨fun hk => absurd (by rwa [hview] at hk) hkey, by rw [hview]; rfl,
    by rw [hview]; rfl⟩, Or.inl (idle_iff.mpr ?_)⟩
  obtain ⟨hp, ha, hk, -⟩ := idle_iff.mp hi
  exact ⟨hp, ha, hk, rfl, rfl, rfl⟩

theorem quietly_cancelled (r : UsbRx) : r.Quietly r.cancelled := by
  have h := undisturbed_drainAll
    { r with stopping := true, running := false }.ask.1.rounds
    { r with stopping := true, running := false }.ask.2
  exact Quietly.of_undisturbed ⟨h.path, h.handle⟩

theorem grows_closed (r : UsbRx) : r.Grows r.closed :=
  ⟨[.closed], rfl, by simp [UsbEvent.NotKeying, UsbEvent.command?]⟩

theorem unkeying_stop (r : UsbRx) : r.Unkeying r.stop := by
  have hstopped := unkeying_stopTransmitting r
  have hcancelled := quietly_cancelled r.stopTransmitting
  refine ⟨(hstopped.grows.trans hcancelled.grows).trans (grows_closed _),
    fun hs => ?_⟩
  exact sound_closed (hcancelled.sound (hstopped.sound hs))
    (hcancelled.flags.trans (idle_stopTransmitting hs.resting))

/-- Closing tries to unkey a receiver that may be keyed. -/
theorem attempts_stop (hh : r.handle = true) (h : r.KeyKnown) :
    Attempts (.setTr false) r r.stop :=
  (attempts_stopTransmitting hh h).trans
    ((quietly_cancelled _).grows.trans (grows_closed _))

theorem unkeying_opening (r : UsbRx) : r.Unkeying r.opening := by
  refine ⟨⟨[.opened], rfl, by
    simp [UsbEvent.NotKeying, UsbEvent.command?]⟩, fun hs => ?_⟩
  have hview : RadioView.after r.opening.trace
      = { RadioView.after r.trace with frequencyHz := none } :=
    RadioView.after_concat r.trace .opened
  exact ⟨⟨fun hk => hs.key (by rwa [hview] at hk),
    by rw [hview]; exact hs.prepared, by rw [hview]; rfl⟩,
    resting_of_flags (r := r) rfl rfl hs.resting⟩

theorem unkeying_startSlots (slots : List (Fin rxTransferCount)) (r : UsbRx) :
    r.Unkeying (startSlots slots r).2 := by
  induction slots generalizing r with
  | nil => exact Unkeying.refl r
  | cons slot rest ih =>
    have hasked := (Unkeying.refl r).undisturbed (undisturbed_ask r)
    unfold startSlots
    dsimp only
    split
    · exact (hasked.same (by rfl)).trans (unkeying_stop _)
    split
    · exact ((hasked.same (by rfl)).undisturbed
        (undisturbed_submitSlot ..)).trans (unkeying_stop _)
    · exact ((hasked.same (by rfl)).undisturbed
        (undisturbed_submitSlot ..)).trans (ih _)

theorem unkeying_startClaimed (r : UsbRx) :
    r.Unkeying r.startClaimed.2 := by
  have hsent := unkeying_send .initializeRadio r (by simp)
  have hstatus := (hsent.same (by rfl)).undisturbed
    (undisturbed_ask { (r.sendRxCommand .initializeRadio).2 with running := true })
  unfold startClaimed
  dsimp only
  split
  · exact hsent.trans (unkeying_stop _)
  split
  · exact hstatus.trans (unkeying_stop _)
  split
  · exact ((hstatus.same (by rfl)).undisturbed
      (undisturbed_submitStatus ..)).trans (unkeying_stop _)
  · exact ((hstatus.same (by rfl)).undisturbed
      (undisturbed_submitStatus ..)).trans (unkeying_startSlots _ _)

/-- Getting a handle disturbs nothing. -/
theorem unkeying_handle (r : UsbRx) :
    r.Unkeying { r with handle := true } := by
  refine ⟨⟨[], by simp, by simp⟩, fun hs => ⟨⟨fun hk => ?_, hs.prepared,
    hs.frequency⟩, ?_⟩⟩
  · exact ⟨(hs.key hk).1, rfl⟩
  · exact hs.resting.imp id fun ht =>
      ⟨ht.tuneActive, ht.tuneKeyed, ht.tuneKeyAttempted,
        ht.tuneFrequencyAttempted, rfl⟩

theorem unkeying_start (r : UsbRx) : r.Unkeying r.start.2 := by
  have hlibrary := (unkeying_opening r).undisturbed (undisturbed_ask _)
  have hdevice := (hlibrary.same (by rfl)).undisturbed
    (undisturbed_ask { r.opening.ask.2 with context := true })
  have hdriver := (hdevice.trans (unkeying_handle _)).undisturbed
    (undisturbed_ask _)
  unfold start
  dsimp only
  split
  · exact Unkeying.refl r
  split
  · exact hlibrary.trans (unkeying_stop _)
  split
  · exact hdevice.trans (unkeying_stop _)
  split
  · exact hdriver.trans (unkeying_stop _)
  split
  · exact (hdriver.undisturbed (undisturbed_ask _)).trans (unkeying_stop _)
  · exact ((hdriver.undisturbed (undisturbed_ask _)).same (by rfl)).trans
      (unkeying_startClaimed _)

end UsbRx
