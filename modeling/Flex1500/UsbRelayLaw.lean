import Flex1500.UsbRelays

/-!
# The law of the relays

Call by call, what a receiver sends is permitted when it comes. Most calls are
for a receiver that does not transmit, and leave it so: they switch on a cold
view. The two starts are sequences of steps of which each makes the next one
permitted, and where a step fails the stop that follows is permitted whatever
was keyed. So it holds over any run, and at every moment of it the relays are
matched where the key is down.
-/

namespace UsbRx

variable {r r' r₁ r₂ r₃ s : UsbRx}

/-! ## Calls that end idle -/

/-- **A call that ends idle**, and sent what was permitted. -/
structure Cools (r r' : UsbRx) : Prop where
  permitted : r.Permitted r'
  sound : r'.Sound
  idle : r'.Idle

theorem Cools.trans (h : r₁.Cools r₂) (h' : r₂.Cools r₃) : r₁.Cools r₃ :=
  ⟨h.permitted.trans h'.permitted, h'.sound, h'.idle⟩

/-- One that also keeps what is known of the filters. -/
structure Switches (r r' : UsbRx) : Prop extends r.Cools r' where
  selected : r.Selected → r'.Selected

/-- A call that ends idle where it found the receiver idle. -/
def Coldly (r r' : UsbRx) : Prop :=
  r.Sound → r.Idle → r.Switches r'

/-- A call that ends idle whatever it found. -/
def Ends (r r' : UsbRx) : Prop :=
  r.Sound → r.Switches r'

theorem Coldly.refl (r : UsbRx) : r.Coldly r :=
  fun hs hi => ⟨⟨.refl r, hs, hi⟩, id⟩

theorem Switches.trans (h : r₁.Switches r₂) (h' : r₂.Coldly r₃) :
    r₁.Switches r₃ := by
  have h' := h' h.sound h.idle
  exact ⟨h.toCools.trans h'.toCools, h'.selected ∘ h.selected⟩

theorem Coldly.trans (h : r₁.Coldly r₂) (h' : r₂.Coldly r₃) :
    r₁.Coldly r₃ :=
  fun hs hi => (h hs hi).trans h'

theorem Ends.trans (h : r₁.Ends r₂) (h' : r₂.Coldly r₃) : r₁.Ends r₃ :=
  fun hs => (h hs).trans h'

theorem Ends.coldly (h : r.Ends r') : r.Coldly r' :=
  fun hs _ => h hs

/-- The same path tells the same of the relays. -/
theorem relays_of_path (hpath : r'.toTxPath = r.toTxPath) :
    r'.relays = r.relays :=
  congrArg RelayView.after (congrArg TxPath.trace hpath)

theorem Selected.of_path (h : r.Selected) (hpath : r'.toTxPath = r.toTxPath) :
    r'.Selected := by
  have hview := relays_of_path hpath
  exact h.same ⟨congrArg TxPath.paFilter hpath, by rw [hview], by rw [hview]⟩
    (congrArg TxPath.transmitPrepared hpath)
    (congrArg TxPath.frequencyHz hpath)

/-- What a call touches beside the transmit path is no matter. -/
theorem coldly_of_path (hpath : r'.toTxPath = r.toTxPath)
    (hsound : r.Sound → r'.Sound) : r.Coldly r' :=
  fun hs hi => ⟨⟨.of_trace (congrArg TxPath.trace hpath), hsound hs,
    (congrArg TxPath.toTxFlags hpath).trans hi⟩, fun h => h.of_path hpath⟩

theorem Ends.of_undisturbed (h : r₁.Undisturbed r₂) (h' : r₂.Ends r₃) :
    r₁.Ends r₃ := by
  intro hs
  obtain ⟨⟨hpermitted, hsound, hidle⟩, hselected⟩ :=
    h' ((Quietly.of_undisturbed h).sound hs)
  exact ⟨⟨(Permitted.of_trace (congrArg TxPath.trace h.path)).trans hpermitted,
    hsound, hidle⟩, fun hs => hselected (hs.of_path h.path)⟩

theorem coldly_undisturbed (h : r.Undisturbed r') : r.Coldly r' :=
  coldly_of_path h.path (Quietly.of_undisturbed h).sound

/-- A command that a cold view permits. -/
theorem cools_send {command : RadioCommand}
    (hquiet : ∀ transmit, command ≠ .setTr transmit)
    (hselects : ∀ filter, command = .setPaFilter filter →
      r.relays.Selects filter) (hs : r.Sound) (hi : r.Idle) :
    r.Cools (r.sendRxCommand command).2 := by
  have hadds := adds_sendRxCommand command r
  refine ⟨permitted_event hadds.trace ?_,
    (quietly_sendRxCommand command r hquiet).sound hs, ?_⟩
  · refine RelayView.Idles.permits ⟨fun h => ?_, ?_⟩ (hs.cold hi)
    · exact hquiet true (Option.some.inj h)
    · rintro filter ok he
      exact hselects filter (UsbEvent.command.inj he).1
  · rw [Idle, hadds.path]
    exact hi

/-- A command that is neither a key nor a filter. -/
theorem coldly_send {command : RadioCommand} (r : UsbRx)
    (hquiet : ∀ transmit, command ≠ .setTr transmit)
    (hunfiltered : ∀ ok, (UsbEvent.command command ok).Unfiltered) :
    r.Coldly (r.sendRxCommand command).2 := by
  intro hs hi
  refine ⟨cools_send hquiet ?_ hs hi, fun h => ?_⟩
  · rintro filter rfl
    exact (hunfiltered true).elim
  · exact h.adds (adds_sendRxCommand command r) (by simpa using hunfiltered _)

/-! ## Ending a transmission -/

/-- **A carrier stop ends idle.** -/
theorem ends_tuneCarrierStop (r : UsbRx) : r.Ends r.tuneCarrierStop.2 := by
  intro hs
  refine ⟨⟨permitted_tuneCarrierStop hs.toTracked,
    (unkeying_tuneCarrierStop r).sound hs, idle_tuneCarrierStop hs.resting⟩,
    fun h => ?_⟩
  obtain hsame | hselected := selected_tuneCarrierStop r
  · rw [hsame]
    exact h
  · exact hselected

/-- What is not known to be keyed is idle. -/
theorem Sound.idle_of_not_keyKnown (h : r.Sound) (hno : ¬ r.KeyKnown) :
    r.Idle :=
  h.resting.resolve_right fun ht => hno ht.keyKnown

/-- Without a handle there is no transmission. -/
theorem Sound.idle_of_handle (h : r.Sound) (hh : r.handle = false) :
    r.Idle :=
  h.resting.resolve_right fun ht => absurd ht.handle (by simp [hh])

/-- A graceful stop ends idle too. -/
theorem ends_microphoneTxStopGraceful (r : UsbRx) :
    r.Ends r.microphoneTxStopGraceful.2 := by
  unfold microphoneTxStopGraceful
  split
  · rename_i hh
    exact fun hs => Coldly.refl r hs (hs.idle_of_handle (by simpa using hh))
  · refine Ends.of_undisturbed ?_ (ends_tuneCarrierStop _)
    have h := undisturbed_drainGracefully
    exact ⟨(h _ _).path, (h _ _).handle⟩

theorem permitted_log {event : UsbEvent} (h : r.relays.Permits event) :
    r.Permitted (r.log event) :=
  permitted_event rfl h

/-- The reset of the filter and the amplifier. -/
theorem coldly_unprepare (r : UsbRx) : r.Coldly r.unprepare.2 := by
  intro hs hi
  unfold unprepare
  dsimp only
  split
  · exact Coldly.refl r hs hi
  have hclean := cleanedBy_execute false
    (fun action => txCleanupPlan r.txPartialState action
      && (action == .resetPaFilter || action == .disableAmplifier)) r
  revert hclean
  generalize (txExecuteCleanup _ (executeUsbCleanupAction false) r).2 = cleaned
  intro hclean
  have hcleaned := hclean.unkeying.sound hs
  have hidle : cleaned.Idle := by
    rw [Idle, hclean.path]
    exact hi
  exact ⟨⟨(hclean.permitted hs.toTracked (hs.cold hi)).trans
      (permitted_log (hcleaned.cold hidle)),
    (unkeying_preparationCleared cleaned).sound hcleaned, hidle⟩,
    fun _ => selected_of_none rfl⟩

/-- **Disabling the preparation ends idle.** -/
theorem ends_disableTransmitPreparation (r : UsbRx) :
    r.Ends r.disableTransmitPreparation.2 := by
  unfold disableTransmitPreparation
  split
  · rename_i hh
    exact fun hs => Coldly.refl r hs (hs.idle_of_handle (by simpa using hh))
  refine Ends.trans ?_ (coldly_unprepare _)
  split
  · exact ends_tuneCarrierStop r
  · rename_i hplan
    refine fun hs => Coldly.refl r hs (hs.idle_of_not_keyKnown fun hknown => ?_)
    exact hplan (by simp [unkey_planned_iff.mpr hknown])

theorem ends_stopTransmitting (r : UsbRx) : r.Ends r.stopTransmitting := by
  unfold stopTransmitting
  dsimp only
  split_ifs with hplan
  · exact (ends_tuneCarrierStop r).trans
      (ends_disableTransmitPreparation _).coldly
  · exact ends_tuneCarrierStop r
  · exact ends_disableTransmitPreparation r
  · refine fun hs => Coldly.refl r hs (hs.idle_of_not_keyKnown fun hknown => ?_)
    exact hplan (by simp [unkey_planned_iff.mpr hknown])

/-- **Closing ends idle**, and knows of no filter. -/
theorem ends_stop (r : UsbRx) : r.Ends r.stop := by
  intro hs
  have hcancelled : r.stopTransmitting.Coldly r.stopTransmitting.cancelled := by
    have h := undisturbed_drainAll
    exact coldly_undisturbed ⟨(h _ _).path, (h _ _).handle⟩
  obtain ⟨⟨hpermitted, hsound, hidle⟩, -⟩ :=
    (ends_stopTransmitting r).trans hcancelled hs
  refine ⟨⟨hpermitted.trans (permitted_event rfl (hsound.cold hidle)),
    (unkeying_stop r).sound hs, ?_⟩, fun _ => selected_of_none rfl⟩
  obtain ⟨hprepared, hactive, hkeyed, -⟩ := idle_iff.mp hidle
  exact idle_iff.mpr ⟨hprepared, hactive, hkeyed, rfl, rfl, rfl⟩

/-! ## Opening -/

theorem coldly_opening (r : UsbRx) : r.Coldly r.opening := by
  intro hs hi
  have hview : r.opening.relays
      = Run.after RelayView.step r.relays [.opened] := relays_of_trace rfl
  refine ⟨⟨permitted_event rfl (hs.cold hi), (unkeying_opening r).sound hs, hi⟩,
    fun h => ⟨⟨fun filter hf => ?_, fun _ _ _ _ hrx => ?_⟩, h.unprepared⟩⟩
  · rw [hview]
    exact h.sent filter hf
  · rw [hview] at hrx
    exact nomatch hrx

theorem coldly_startSlots (slots : List (Fin rxTransferCount)) (r : UsbRx) :
    r.Coldly (startSlots slots r).2 := by
  induction slots generalizing r with
  | nil => exact .refl r
  | cons slot rest ih =>
    have hallocated (r : UsbRx) : r.Undisturbed
        (r.ask.2.withSlot slot ({ · with allocated := true })) := ⟨rfl, rfl⟩
    unfold startSlots
    dsimp only
    split
    · exact (coldly_undisturbed (hallocated r)).trans (ends_stop _).coldly
    have hsubmitted := (hallocated r).trans
      (undisturbed_submitSlot slot r.ask.1.result _)
    split
    · exact (coldly_undisturbed hsubmitted).trans (ends_stop _).coldly
    · exact (coldly_undisturbed hsubmitted).trans (ih _)

/-- Beside the transmit path and the handle a call may change what it
likes. -/
theorem Coldly.beside (h : r₁.Coldly r₂) (hpath : r₃.toTxPath = r₂.toTxPath)
    (hhandle : r₃.handle = r₂.handle) : r₁.Coldly r₃ :=
  h.trans (coldly_undisturbed ⟨hpath, hhandle⟩)

theorem coldly_startClaimed (r : UsbRx) : r.Coldly r.startClaimed.2 := by
  have hsent : r.Coldly (r.sendRxCommand .initializeRadio).2 :=
    coldly_send r nofun fun _ => trivial
  have hstatus := (hsent.beside (by rfl) (by rfl)).trans (coldly_undisturbed
    (undisturbed_ask { (r.sendRxCommand .initializeRadio).2 with running := true }))
  unfold startClaimed
  dsimp only
  split
  · exact hsent.trans (ends_stop _).coldly
  split
  · exact hstatus.trans (ends_stop _).coldly
  split
  · exact ((hstatus.beside (by rfl) (by rfl)).trans (coldly_undisturbed
      (undisturbed_submitStatus ..))).trans (ends_stop _).coldly
  · exact ((hstatus.beside (by rfl) (by rfl)).trans (coldly_undisturbed
      (undisturbed_submitStatus ..))).trans (coldly_startSlots _ _)

/-- **Opening ends idle**, where it found the receiver idle. -/
theorem coldly_start (r : UsbRx) : r.Coldly r.start.2 := by
  have hlibrary := (coldly_opening r).trans
    (coldly_undisturbed (undisturbed_ask _))
  have hdevice := (hlibrary.beside (by rfl) (by rfl)).trans (coldly_undisturbed
    (undisturbed_ask { r.opening.ask.2 with context := true }))
  have hhandle (r : UsbRx) : r.Coldly { r with handle := true } :=
    coldly_of_path rfl (unkeying_handle r).sound
  have hdriver := (hdevice.trans (hhandle _)).trans
    (coldly_undisturbed (undisturbed_ask _))
  have hclaim := hdriver.trans (coldly_undisturbed (undisturbed_ask _))
  unfold start
  dsimp only
  split
  · exact .refl r
  split
  · exact hlibrary.trans (ends_stop _).coldly
  split
  · exact hdevice.trans (ends_stop _).coldly
  split
  · exact hdriver.trans (ends_stop _).coldly
  split
  · exact hclaim.trans (ends_stop _).coldly
  · exact (hclaim.beside (by rfl) (by rfl)).trans (coldly_startClaimed _)

/-! ## Tuning and preparing -/

theorem coldly_setGain (gainDb : Int) (r : UsbRx) :
    r.Coldly (r.setGain gainDb).2 := by
  unfold setGain
  split
  · exact .refl r
  cases hg : buildRxGainRequest ((gainDb + 10) / 10).toNat with
  | none => exact .refl r
  | some request =>
    have hsend : r.Coldly (r.sendRxCommand request).2 := by
      unfold buildRxGainRequest at hg
      split at hg
      · exact nomatch hg
      · obtain rfl := Option.some.inj hg
        exact coldly_send r nofun fun _ => trivial
    dsimp only
    split
    · exact hsend.beside rfl rfl
    · exact hsend

/-- Attempting the amplifier is a note on the receiver. -/
theorem cools_attempted (attempted : Bool) (hs : r.Sound) (hi : r.Idle) :
    r.Cools { r with ampEnableAttempted := attempted } :=
  ⟨.of_trace rfl, (Quietly.of_same rfl rfl rfl rfl rfl :
    r.Quietly { r with ampEnableAttempted := attempted }).sound hs, hi⟩

theorem Cools.send (h : r.Cools r') (command : RadioCommand)
    (hquiet : ∀ transmit, command ≠ .setTr transmit)
    (hselects : ∀ filter, command = .setPaFilter filter →
      r'.relays.Selects filter) : r.Cools (r'.sendRxCommand command).2 :=
  h.trans (cools_send hquiet hselects h.sound h.idle)

/-- What else a call touches is no matter to what it sent. -/
theorem Cools.same (h : r₁.Cools r₂)
    (hpart : r₃.accountedPart = r₂.accountedPart) : r₁.Cools r₃ := by
  have htrace : r₃.trace = r₂.trace := congrArg Prod.fst hpart
  have hflags : r₃.toTxFlags = r₂.toTxFlags :=
    congrArg (fun part => part.2.1) hpart
  exact ⟨h.permitted.trans (.of_trace htrace),
    ((Unkeying.refl r₂).same hpart).sound h.sound, hflags.trans h.idle⟩

theorem cools_takeBackPreparation (hs : r.Sound) (hi : r.Idle) :
    r.Cools r.takeBackPreparation := by
  have hrefl : r.Cools r := ⟨.refl r, hs, hi⟩
  unfold takeBackPreparation
  dsimp only
  split
  · have hfilter := hrefl.send (.setPaFilter 0) nofun fun filter hf =>
      Or.inl (RadioCommand.setPaFilter.inj hf).symm
    exact ((hfilter.same (by rfl)).send (.setAmpTx1 false) nofun nofun).same
      (by rfl)
  · exact (hrefl.send (.setAmpTx1 false) nofun nofun).same (by rfl)

/-- A preparation that is taken back knows of no filter. -/
theorem paFilter_takeBackPreparation (r : UsbRx) :
    r.takeBackPreparation.paFilter = none := by
  unfold takeBackPreparation
  dsimp only
  have hadds (r : UsbRx) := congrArg TxPath.paFilter
    (adds_sendRxCommand (.setAmpTx1 false) r).path
  refine (hadds _).trans ?_
  split
  · rfl
  · rename_i hnone
    simpa using hnone

theorem cools_enableAmplifier (hs : r.Sound) (hi : r.Idle) :
    r.Cools r.enableAmplifier.2 := by
  have hsent := (cools_attempted true hs hi).send (.setAmpTx1 true)
    nofun nofun
  unfold enableAmplifier
  dsimp only
  split
  · exact hsent.trans (cools_takeBackPreparation hsent.sound hsent.idle)
  · exact hsent.trans ⟨permitted_event rfl (hsent.sound.cold hsent.idle),
      (unkeying_preparationDone _).sound hsent.sound, hsent.idle⟩

theorem sameFilters_preparationDone (r : UsbRx) :
    r.SameFilters r.preparationDone := by
  have hview : r.preparationDone.relays
      = Run.after RelayView.step r.relays [.prepared] := relays_of_trace rfl
  exact ⟨rfl, (congrArg RelayView.paFilter hview :),
    (congrArg RelayView.rxFilter hview :)⟩

/-- **Enabling the amplifier** completes the preparation, with the filter that
was known, or takes it back. -/
theorem selected_enableAmplifier (h : r.Known) :
    r.enableAmplifier.2.Selected := by
  have hattempted : { r with ampEnableAttempted := true }.Known :=
    h.same ⟨rfl, rfl, rfl⟩ rfl
  have hsent : ({ r with ampEnableAttempted := true }.sendRxCommand
      (.setAmpTx1 true)).2.Known :=
    hattempted.same (sameFilters_send _ fun _ => trivial) rfl
  unfold enableAmplifier
  dsimp only
  split
  · exact selected_of_none (paFilter_takeBackPreparation _)
  · exact ⟨hsent.same (sameFilters_preparationDone _) rfl,
      fun hno => nomatch hno⟩

theorem switches_enableAmplifier (h : r₁.Cools r₂) (hk : r₁.Selected → r₂.Known) :
    r₁.Switches r₂.enableAmplifier.2 :=
  ⟨h.trans (cools_enableAmplifier h.sound h.idle),
    fun hs => selected_enableAmplifier (hk hs)⟩

/-- **Preparing ends idle.** -/
theorem coldly_enableTransmitPreparation (r : UsbRx) :
    r.Coldly r.enableTransmitPreparation.2 := by
  unfold enableTransmitPreparation
  split
  · exact .refl r
  rename_i hguard
  have hunprepared : r.transmitPrepared = false := by
    simp only [Bool.or_eq_true, Bool.not_eq_true', not_or] at hguard
    simpa using hguard.2
  intro hs hi
  have hantenna : r.Switches (r.sendRxCommand .setTxAnt).2 :=
    coldly_send r nofun (fun _ => trivial) hs hi
  have hprepared : (r.sendRxCommand .setTxAnt).2.transmitPrepared = false :=
    hunprepared
  revert hantenna hprepared
  dsimp only
  generalize r.sendRxCommand .setTxAnt = antenna
  intro hantenna hprepared
  split
  · exact hantenna
  cases hf : antenna.2.frequencyHz with
  | none =>
    exact switches_enableAmplifier hantenna.toCools fun h =>
      (hantenna.selected h).toKnown
  | some frequency =>
    dsimp only
    cases hp : paFilterRequestForFrequency frequency.1 with
    | none => exact hantenna
    | some needed =>
      obtain ⟨filter, request⟩ := needed
      obtain rfl := paFilterRequest_eq hp
      have hselected := paFilter_of_request hp
      have hsent := hantenna.toCools.send (.setPaFilter filter) nofun
        fun filter' hf' => Or.inr ⟨frequency.1, by
          rw [frequencyHz_relays, hantenna.sound.frequency, hf]; rfl, by
          rw [hselected, RadioCommand.setPaFilter.inj hf']⟩
      have hview := relays_of_trace
        (adds_sendRxCommand (.setPaFilter filter) antenna.2).trace
      dsimp only
      split
      · refine ⟨hsent, fun h => selected_of_none ?_⟩
        exact (hantenna.selected h).unprepared hprepared
      · refine switches_enableAmplifier (hsent.same (by rfl)) fun _ =>
          ⟨fun filter' hf' => ?_, fun filter' rxFilter frequency' hf' _ hz => ?_⟩
        · obtain rfl := Option.some.inj hf'
          exact ⟨_, congrArg RelayView.paFilter hview⟩
        · obtain rfl := Option.some.inj hf'
          obtain rfl := Option.some.inj (hf.symm.trans hz)
          exact hselected

/-- The frequency is noted. -/
theorem cools_tunedTo (frequency : Frequency) (h : r.Cools r') :
    r.Cools (r'.tunedTo frequency) :=
  ⟨h.permitted.trans (permitted_event rfl (h.sound.cold h.idle)),
    (unkeying_tunedTo frequency r').sound h.sound, h.idle⟩

/-- What the relays tell once the frequency is noted and its receive filter
was commanded. -/
theorem relays_filtered (frequency : Frequency) (filter : ℕ) (r : UsbRx) :
    let sent := (r.tunedTo frequency).sendRxCommand (.setRx1Filter filter)
    sent.2.relays.paFilter = r.relays.paFilter
      ∧ sent.2.relays.rxFilter = some (filter, sent.1 == 0) := by
  intro sent
  have hview := relays_of_trace (adds_sendRxCommand (.setRx1Filter filter)
    (r.tunedTo frequency)).trace
  have htuned : (r.tunedTo frequency).relays
      = Run.after RelayView.step r.relays [.tuned frequency.1] :=
    relays_of_trace rfl
  rw [htuned] at hview
  constructor
  · exact (congrArg RelayView.paFilter hview :)
  · exact (congrArg RelayView.rxFilter hview :)

theorem rxFilterRequest_eq {frequencyHz filter : ℕ} {request : RadioCommand}
    (h : rxFilterRequestForFrequency frequencyHz = some (filter, request)) :
    request = .setRx1Filter filter := by
  obtain ⟨filter', -, h⟩ := Option.bind_eq_some_iff.mp h
  obtain ⟨request', hrequest, h⟩ := Option.map_eq_some_iff.mp h
  obtain ⟨rfl, rfl⟩ := Prod.mk.inj h
  unfold buildRxFilterRequest at hrequest
  split at hrequest
  · exact nomatch hrequest
  · exact (Option.some.inj hrequest).symm

/-- **The PA filter follows** a frequency whose receive filter was
acknowledged. -/
theorem switches_followPaFilter (frequency : Frequency) (h : r.Cools s)
    (hfrequency : s.frequencyHz = some frequency)
    (hunprepared : r.Selected → s.transmitPrepared = false →
      s.paFilter = none) :
    r.Switches
      (s.followPaFilter (paFilterRequestForFrequency frequency.1)).2 := by
  unfold followPaFilter
  cases hp : paFilterRequestForFrequency frequency.1 with
  | none =>
    have : (paFilterRequestForFrequency frequency.1).isSome = true := by
      have hselected : paFilterForFrequency frequency.1
          = some (bandFilter paBands frequency.1) := if_pos frequency.2
      simp [paFilterRequestForFrequency, hselected,
        buildPaFilterRequest_of_paFilter hselected]
    simp [hp] at this
  | some needed =>
    obtain ⟨filter, request⟩ := needed
    obtain rfl := paFilterRequest_eq hp
    have hselected := paFilter_of_request hp
    dsimp only
    split
    · rename_i hprepared
      exact ⟨h, fun hs => selected_of_none
        (hunprepared hs (by simpa using hprepared))⟩
    rename_i hprepared
    have hsent := h.send (.setPaFilter filter) (by simp) fun filter' hf' =>
      Or.inr ⟨frequency.1, by
        rw [frequencyHz_relays, h.sound.frequency, hfrequency]; rfl, by
        rw [hselected, RadioCommand.setPaFilter.inj hf']⟩
    have hview := relays_of_trace
      (adds_sendRxCommand (.setPaFilter filter) s).trace
    refine ⟨hsent.same (by rfl), fun _ => ⟨⟨fun filter' hf' => ?_,
      fun filter' rxFilter frequency' hf' _ hz => ?_⟩, fun hno => ?_⟩⟩
    · dsimp only at hf'
      split at hf'
      · obtain rfl := Option.some.inj hf'
        exact ⟨_, congrArg RelayView.paFilter hview⟩
      · simp at hf'
    · dsimp only at hf'
      obtain rfl := Option.some.inj (hfrequency.symm.trans hz)
      split at hf'
      · obtain rfl := Option.some.inj hf'
        exact hselected
      · simp at hf'
    · exact absurd (show s.transmitPrepared = false from hno)
        (by simpa using hprepared)

/-- **Tuning ends idle**, where it found the receiver idle. -/
theorem coldly_tune (frequencyHz : ℕ) (r : UsbRx) :
    r.Coldly (r.tune frequencyHz).2 := by
  unfold tune
  split
  · exact .refl r
  split
  swap
  · exact .refl r
  rename_i hrange
  cases hf : rxFilterRequestForFrequency frequencyHz with
  | none => exact .refl r
  | some needed =>
    obtain ⟨filter, request⟩ := needed
    obtain rfl := rxFilterRequest_eq hf
    intro hs hi
    have htuned : r.Switches (r.sendRxCommand
        (Frequency.rxTuneRequest ⟨frequencyHz, hrange⟩)).2 :=
      coldly_send r (by simp [Frequency.rxTuneRequest, buildRxTuneRequest])
        (by simp [Frequency.rxTuneRequest, buildRxTuneRequest,
          UsbEvent.Unfiltered]) hs hi
    dsimp only
    split
    · exact Coldly.refl r hs hi
    revert htuned
    generalize r.sendRxCommand
      (Frequency.rxTuneRequest ⟨frequencyHz, hrange⟩) = tuned
    intro htuned
    split
    · exact htuned
    have hfiltered := (cools_tunedTo ⟨frequencyHz, hrange⟩
      htuned.toCools).send (.setRx1Filter filter) (by simp) (by simp)
    obtain ⟨hpa, hrx⟩ := relays_filtered ⟨frequencyHz, hrange⟩ filter tuned.2
    split
    · rename_i hfailed
      refine ⟨hfiltered, fun h => ?_⟩
      have hselected := htuned.selected h
      refine ⟨⟨fun f hpaFilter => ?_, fun _ rx _ _ hreceived => ?_⟩,
        hselected.unprepared⟩
      · rw [hpa]
        exact hselected.sent f hpaFilter
      · rw [hrx] at hreceived
        have := (Prod.mk.inj (Option.some.inj hreceived)).2
        exact absurd (by simpa using this) hfailed
    · exact switches_followPaFilter ⟨frequencyHz, hrange⟩
        (hfiltered.same (by rfl)) rfl fun h => (htuned.selected h).unprepared

/-! ## Starting -/

/-- What a start sends where every step is acknowledged. -/
def startEvents (filter word : ℕ) : List UsbEvent :=
  keyingEvents filter word ++ [.command (.setTr true) true, .service 200 true,
    .command (.transitionMute false) true]

section Start

variable (start : Start) {offsetHz : ℕ}

theorem Start.flatMap_logged :
    (start.loggedBefore ++ Start.loggedKey :: start.loggedAfter).flatMap
        (·.2 true)
      = startEvents start.filter start.word := by
  rw [List.flatMap_append, start.flatMap_loggedBefore, List.flatMap_cons]
  simp [startEvents, Start.loggedKey, Start.loggedAfter, List.flatMap_map]

/-- What a step may send does not depend on how it is answered. -/
theorem Start.each_answer {view : RelayView} :
    ∀ t ∈ start.loggedBefore ++ Start.loggedKey :: start.loggedAfter,
      Run.Each RelayView.step RelayView.Permits view (t.2 true) →
        Run.Each RelayView.step RelayView.Permits view (t.2 false) := by
  simp only [loggedBefore, loggedAfter, loggedKey, List.mem_append,
    List.mem_cons, List.mem_map, List.not_mem_nil, or_false]
  rintro t ((((rfl | rfl | rfl | rfl) | ⟨a, ha, rfl⟩) | rfl | rfl) |
    rfl | ⟨a, ha, rfl⟩ | rfl | rfl)
  all_goals exact id

/-- **Each step makes the next one permitted**, on a frequency that was
checked. -/
theorem each_startEvents {view : RelayView} {frequencyHz filter word : ℕ}
    (hcold : view.Cold) (hprepared : view.prepared = true)
    (hfrequency : view.frequencyHz = some frequencyHz)
    (hfilter : paFilterForFrequency frequencyHz = some filter)
    (hoffset : offsetHz ∈ [0, tuneToneHz, txAmIfHz])
    (hword : usbTuneFrequencyToTuningWord frequencyHz offsetHz = some word) :
    Run.Each RelayView.step RelayView.Permits view
      (startEvents filter word) := by
  have hmatched (view' : RelayView)
      (hview : view'.toRadioView = view.toRadioView)
      (hpa : view'.paFilter = some (filter, true))
      (hamp : view'.amplifier = some (true, true))
      (htw : view'.word = some (word, true)) : view'.Matched := by
    refine ⟨frequencyHz, filter, offsetHz, word, ?_⟩
    refine ⟨?_, ?_, hfilter, hpa, hamp, hoffset, hword, htw⟩
    · rw [hview, hprepared]
    · rw [hview, hfrequency]
  refine ⟨⟨hcold, Or.inr ⟨frequencyHz, hfrequency, hfilter⟩⟩, hcold, hcold,
    trivial, trivial, hcold, ⟨hcold, ?_, rfl⟩, trivial, trivial, trivial⟩
  exact hmatched _ rfl rfl rfl rfl

/-- The steps of a start, as far as they get, send what is permitted. -/
theorem permitted_steps (heach : Run.Each RelayView.step RelayView.Permits
      r.relays (startEvents start.filter start.word)) :
    r.Permitted (Attempt.all start.steps { r with tunePrepared := true }).2 := by
  have hlog := Attempt.all_log _ start.logs_steps
    { r with tunePrepared := true }
  rw [← Start.steps_eq] at hlog
  rw [← start.flatMap_logged] at heach
  obtain ⟨-, htrace⟩ | ⟨done, step, rest, hsplit, -, htrace⟩ := hlog
  · exact ⟨_, htrace, heach⟩
  · have hstep : step ∈ start.loggedBefore
        ++ Start.loggedKey :: start.loggedAfter := by
      rw [hsplit]
      exact List.mem_append_right _ (List.mem_cons_self ..)
    rw [hsplit, List.flatMap_append, List.flatMap_cons, Run.each_append,
      Run.each_append] at heach
    exact ⟨_, htrace, Run.each_append.mpr
      ⟨heach.1, start.each_answer step hstep heach.2.1⟩⟩

/-- **On the air**: prepared, with the key acknowledged, and with the filter
known that was commanded last and acknowledged. -/
structure OnAir (r : UsbRx) : Prop where
  prepared : r.transmitPrepared = true
  key : r.relays.key = some true
  acknowledged : r.relays.keyAcknowledged = true
  filter : ∃ filter, r.paFilter = some filter
    ∧ r.relays.paFilter = some (filter, true)

/-- **A call between operations**: what it sent was permitted, it knows what
it selected, and where it leaves a transmission that is on the air. -/
structure Obeys (r r' : UsbRx) : Prop where
  permitted : r.Permitted r'
  selected : r'.Selected
  onAir : r'.tuneActive = true → r'.OnAir

theorem Switches.obeys (h : r.Switches r') (hselected : r.Selected) :
    r.Obeys r' :=
  ⟨h.permitted, h.selected hselected, fun hactive => by
    simp [(idle_iff.mp h.idle).2.1] at hactive⟩

/-- The steps that leave what is known of the PA filter. -/
def KeepsFilter (a : Attempt UsbRx) : Prop :=
  ∀ s : UsbRx, (a s).2.paFilter = s.paFilter

theorem keepsFilter_adds {call : UsbRx → Int × UsbRx}
    (h : ∀ s : UsbRx, ∃ events, s.Adds events (call s).2) :
    KeepsFilter (attempt call) := by
  intro s
  obtain ⟨events, hadds⟩ := h s
  exact (congrArg TxPath.paFilter hadds.path :)

/-- Every step but the first leaves the filter, where those of the start's own
do. -/
theorem keepsFilter_tail
    (hown : ∀ a ∈ start.beforeKey ++ start.afterKey, KeepsFilter a) :
    ∀ a ∈ start.steps.tail, KeepsFilter a := by
  have hsend (command : RadioCommand) :
      KeepsFilter (attempt (sendRxCommand command)) :=
    keepsFilter_adds fun s => ⟨_, adds_sendRxCommand command s⟩
  have hstream : KeepsFilter (attempt (startTxStream start.microphone)) :=
    keepsFilter_adds fun s => ⟨_, adds_startTxStream _ s⟩
  have hservice (durationMs : ℕ) :
      KeepsFilter (attempt (serviceTxStream durationMs)) :=
    keepsFilter_adds fun s => ⟨_, adds_serviceTxStream durationMs s⟩
  have htail : start.steps.tail
      = [attempt (sendRxCommand (.setAmpTx1 true)),
          attempt (startTxStream start.microphone),
          attempt (serviceTxStream 250)] ++ start.beforeKey
        ++ [muteTransition, tuneTransmitter start.word, keyTransmitter]
        ++ start.afterKey ++ [attempt (serviceTxStream 200),
          unmuteTransition] := by
    simp [Start.steps, preparingSteps]
  rw [htail]
  simp only [List.mem_append, List.mem_cons, List.not_mem_nil, or_false]
  rintro a (((((rfl | rfl | rfl) | ha) | rfl | rfl | rfl) | ha) | rfl | rfl)
  · exact hsend _
  · exact hstream
  · exact hservice 250
  · exact hown a (List.mem_append_left _ ha)
  · exact fun s => rfl
  · exact fun s => rfl
  · intro s
    unfold keyTransmitter
    dsimp only
    split <;> rfl
  · exact hown a (List.mem_append_right _ ha)
  · exact hservice 200
  · intro s
    unfold unmuteTransition
    dsimp only
    split <;> rfl

/-- A filter that was selected is known. -/
theorem selectPaFilter_known (filter : ℕ) (s : UsbRx)
    (hok : (selectPaFilter filter s).1 = true) :
    (selectPaFilter filter s).2.paFilter = some filter := by
  unfold selectPaFilter at hok ⊢
  dsimp only at hok ⊢
  rw [if_pos hok]

/-- A start that succeeds knows the filter it selected. -/
theorem paFilter_of_ok
    (hown : ∀ a ∈ start.beforeKey ++ start.afterKey, KeepsFilter a)
    (hok : (Attempt.all start.steps s).1 = true) :
    (Attempt.all start.steps s).2.paFilter = some start.filter := by
  rw [show start.steps
    = [] ++ selectPaFilter start.filter :: start.steps.tail from rfl] at hok ⊢
  exact Attempt.all_gives (fun t : UsbRx => t.paFilter = some start.filter)
    (selectPaFilter_known start.filter)
    (fun a ha t ht => (keepsFilter_tail start hown a ha t).trans ht) hok

/-- A start that went through to the end is on the air. -/
theorem obeys_of_started {frequencyHz filter word : ℕ}
    (hpermitted : r.Permitted s) (htracked : s.Tracked)
    (hknown : s.paFilter = some filter)
    (hview : s.relays
      = Run.after RelayView.step r.relays (startEvents filter word))
    (hprepared : r.relays.prepared = true)
    (hfrequency : r.relays.frequencyHz = some frequencyHz)
    (hfilter : paFilterForFrequency frequencyHz = some filter) :
    r.Obeys s := by
  have hpa : s.relays.paFilter = some (filter, true) := by rw [hview]; rfl
  have hon : s.OnAir := by
    refine ⟨?_, ?_, ?_, filter, hknown, hpa⟩
    · rw [← htracked.prepared, ← prepared_relays, hview]
      exact hprepared
    all_goals rw [hview]; rfl
  refine ⟨hpermitted, ⟨⟨fun filter' hf => ?_,
    fun filter' rxFilter frequency hf _ hz => ?_⟩, fun hno => ?_⟩,
    fun _ => hon⟩
  · obtain rfl := Option.some.inj (hknown.symm.trans hf)
    exact ⟨true, hpa⟩
  · obtain rfl := Option.some.inj (hknown.symm.trans hf)
    have hsame : s.relays.frequencyHz = some frequency.1 := by
      rw [frequencyHz_relays, htracked.frequency, hz]
      rfl
    rw [hview] at hsame
    rw [← Option.some.inj (hfrequency.symm.trans hsame)]
    exact hfilter
  · exact absurd hon.prepared (by simp [hno])

/-- **Starting obeys**, on a frequency that was checked. -/
theorem obeys_startWith (hs : r.Sound) (hi : r.Idle)
    (hchecked : r.Checked offsetHz start.filter start.word)
    (hoffset : offsetHz ∈ [0, tuneToneHz, txAmIfHz])
    (hown : ∀ a ∈ start.beforeKey ++ start.afterKey, KeepsFilter a) :
    r.Obeys (r.startWith start.steps).2 := by
  obtain ⟨frequency, hf, hfilter, hword⟩ := hchecked.frequency
  have hprepared : r.relays.prepared = true := by
    rw [prepared_relays, hs.prepared, hchecked.transmitPrepared]
  have hfrequency : r.relays.frequencyHz = some frequency.1 := by
    rw [frequencyHz_relays, hs.frequency, hf]
    rfl
  have hsteps := permitted_steps start (each_startEvents (hs.cold hi) hprepared
    hfrequency hfilter hoffset hword)
  have ht : { r with tunePrepared := true }.Tracked :=
    ⟨hs.key, hs.prepared, hs.frequency⟩
  unfold startWith
  dsimp only
  split
  · rename_i hok
    obtain ⟨htracked, htransmitting⟩ :=
      started_of_ok start ht hchecked.handle hok
    have hknown := paFilter_of_ok start hown hok
    have hlog := Attempt.all_log _ start.logs_steps
      { r with tunePrepared := true }
    rw [← Start.steps_eq, hok] at hlog
    obtain ⟨-, htrace⟩ | ⟨done, step, rest, -, hno, -⟩ := hlog
    swap
    · exact absurd hno (by simp)
    rw [start.flatMap_logged] at htrace
    exact obeys_of_started hsteps htracked hknown (relays_of_trace htrace)
      hprepared hfrequency hfilter
  · rename_i hfail
    have hadv := advances_of_failed start (by simpa using hfail)
    have htracked := hadv.tracked ht hchecked.handle
    have hstop := stopped_of_prepared (hadv.handle.trans hchecked.handle)
      hadv.tunePrepared
    obtain hsame | hselected := selected_tuneCarrierStop
      (Attempt.all start.steps { r with tunePrepared := true }).2
    · have hno := (idle_iff.mp hstop.idle).1
      rw [hsame, hadv.tunePrepared] at hno
      exact nomatch hno
    · refine ⟨hsteps.trans (hstop.permitted htracked), hselected,
        fun hactive => ?_⟩
      simp [(idle_iff.mp hstop.idle).2.1] at hactive

end Start

/-! ## Runs -/

/-- **Switched in order**: everything sent was permitted, and a transmission
is on the air. -/
structure Switched (r : UsbRx) : Prop extends r.Sound, r.Selected where
  housed : r.Housed
  rested : r.Rested
  each : Run.Each RelayView.step RelayView.Permits {} r.trace
  onAir : r.tuneActive = true → r.OnAir

/-- What leaves the transmit path alone obeys. -/
theorem Switched.obeys_of_path (h : r.Switched)
    (hpath : r'.toTxPath = r.toTxPath) : r.Obeys r' := by
  refine ⟨.of_trace (congrArg TxPath.trace hpath),
    h.toSelected.of_path hpath, fun hactive => ?_⟩
  obtain ⟨hprepared, hkey, hacknowledged, hfilter⟩ := h.onAir
    ((congrArg (·.tuneActive) hpath).symm.trans hactive)
  have hview := relays_of_path hpath
  refine ⟨(congrArg TxPath.transmitPrepared hpath).trans hprepared, ?_, ?_, ?_⟩
  · rw [hview, hkey]
  · rw [hview, hacknowledged]
  · rw [hview, show r'.paFilter = r.paFilter from
      congrArg TxPath.paFilter hpath]
    exact hfilter

theorem path_pump (r : UsbRx) : r.pump.2.toTxPath = r.toTxPath := by
  have h := (undisturbed_ask r).trans
    (undisturbed_handleEvents (r.ask.1.rounds.headD {}) r.ask.2)
  unfold pump
  dsimp only
  split_ifs
  · rfl
  · exact h.path
  · exact h.path
  · exact h.path

theorem path_networkTxPush (bytes : ℕ) (rawIq : Bool) (r : UsbRx) :
    (r.networkTxPush bytes rawIq).2.toTxPath = r.toTxPath := by
  unfold networkTxPush
  split <;> rfl

/-- A call that a transmission refuses, and that obeys without one. -/
theorem Switched.obeys_of_refused (h : r.Switched)
    (hrefused : r.Transmitting → r' = r) (hcold : r.Coldly r') :
    r.Obeys r' := by
  obtain hidle | ht := h.resting
  · exact (hcold h.toSound hidle).obeys h.toSelected
  · rw [hrefused ht]
    exact h.obeys_of_path rfl

/-- The samples of a start are no matter. -/
theorem obeys_withStream {stream : TxAudioStream}
    (h : { r with microphoneStream := stream }.Obeys r') : r.Obeys r' :=
  ⟨h.permitted, h.selected, h.onAir⟩

theorem keepsFilter_carrier (filter word : ℕ) :
    ∀ a ∈ (Start.carrier filter word).beforeKey
      ++ (Start.carrier filter word).afterKey, KeepsFilter a := by
  simp only [Start.carrier, List.mem_append, List.mem_singleton]
  rintro a (rfl | rfl)
  · exact fun _ => rfl
  · exact fun _ => rfl

theorem keepsFilter_audio (filter word : ℕ) (capturePhysical : Bool) :
    ∀ a ∈ (Start.audio filter word capturePhysical).beforeKey
      ++ (Start.audio filter word capturePhysical).afterKey,
      KeepsFilter a := by
  simp only [Start.audio, List.nil_append, List.mem_singleton]
  rintro a rfl
  exact fun _ => rfl

theorem Switched.obeys_tuneCarrierStart (h : r.Switched) :
    r.Obeys r.tuneCarrierStart.2 := by
  obtain ⟨-, he⟩ | ⟨filter, word, hp, he⟩ := tuneCarrierStart_cases r
  · rw [he]
    exact h.obeys_of_path rfl
  · have hchecked := checked_of_txPolicy hp
    rw [he]
    exact obeys_startWith (.carrier filter word) h.toSound
      (hchecked.idle h.toSound) hchecked (by simp)
      (keepsFilter_carrier filter word)

theorem Switched.obeys_audioTxStart (h : r.Switched) (audio : AudioTx)
    (bytes : ℕ) : r.Obeys (r.audioTxStart audio bytes).2 := by
  obtain ⟨stream, he, -⟩ | ⟨filter, word, stream, hp, he⟩ :=
    audioTxStart_cases audio bytes r
  · rw [he]
    exact h.obeys_of_path rfl
  · have hchecked := checked_of_txPolicy hp
    have hoffset : audio.offsetHz ∈ [0, tuneToneHz, txAmIfHz] := by
      unfold AudioTx.offsetHz
      split <;> simp
    rw [he]
    exact obeys_withStream (obeys_startWith
      (.audio filter word audio.capturePhysical) (h.withStream stream)
      (hchecked.idle h.toSound) ⟨hchecked.handle, hchecked.transmitPrepared,
        hchecked.tuneActive, hchecked.frequency⟩ hoffset
      (keepsFilter_audio filter word audio.capturePhysical))

/-- **Every call obeys.** -/
theorem Switched.obeys (h : r.Switched) (op : UsbOp) :
    r.Obeys (r.apply op).2 := by
  have hends (r' : UsbRx) (hr : r.Ends r') : r.Obeys r' :=
    (hr h.toSound).obeys h.toSelected
  cases op with
  | start =>
    refine h.obeys_of_refused (fun ht => ?_) (coldly_start r)
    simp [apply, UsbRx.start, h.housed.handle ht.handle]
  | stop => exact hends _ (ends_stop r)
  | pump => exact h.obeys_of_path (path_pump r)
  | tune frequencyHz =>
    refine h.obeys_of_refused (fun ht => ?_) (coldly_tune frequencyHz r)
    simp [apply, UsbRx.tune, ht.tuneActive]
  | setGain gainDb =>
    refine h.obeys_of_refused (fun ht => ?_) (coldly_setGain gainDb r)
    simp [apply, UsbRx.setGain, ht.tuneActive]
  | enableTransmitPreparation =>
    refine h.obeys_of_refused (fun ht => ?_)
      (coldly_enableTransmitPreparation r)
    simp [apply, UsbRx.enableTransmitPreparation,
      (h.onAir ht.tuneActive).prepared]
  | disableTransmitPreparation =>
    exact hends _ (ends_disableTransmitPreparation r)
  | tuneCarrierStart => exact h.obeys_tuneCarrierStart
  | tuneCarrierStop => exact hends _ (ends_tuneCarrierStop r)
  | microphoneTxStart => exact h.obeys_audioTxStart _ _
  | networkTxStart => exact h.obeys_audioTxStart _ _
  | networkTxPush bytes rawIq =>
    exact h.obeys_of_path (path_networkTxPush bytes rawIq r)
  | microphoneTxStop => exact hends _ (ends_tuneCarrierStop r)
  | microphoneTxStopGraceful => exact hends _ (ends_microphoneTxStopGraceful r)
  | setTxFaultStage stage => exact h.obeys_of_path rfl

theorem switched_apply (h : r.Switched) (op : UsbOp) :
    (r.apply op).2.Switched := by
  have hkeeping := keeping_apply h.housed h.rested op
  obtain ⟨⟨es, he, hpermitted⟩, hselected, honAir⟩ := h.obeys op
  refine ⟨sound_apply h.toSound op, hselected, hkeeping.housed,
    hkeeping.rested, ?_, honAir⟩
  rw [he]
  exact Run.each_append.mpr ⟨h.each, hpermitted⟩

theorem switched_run (h : r.Switched) (ops : List UsbOp) :
    (r.run ops).Switched := by
  induction ops generalizing r with
  | nil => exact h
  | cons op ops ih => exact ih (switched_apply h op)

theorem switched_create (answers : ℕ → UsbAnswer) :
    (create answers).Switched := by
  have hempty : ∀ t, (create answers).held t = false := fun t => by
    cases t <;> rfl
  exact ⟨sound_create answers, selected_of_none rfl,
    housed_of_empty hempty Bool.noConfusion, Or.inl fun t _ => hempty t,
    trivial, Bool.noConfusion⟩

/-! ## The offset of an emission -/

end UsbRx

/-- How far below its frequency a call that keys is tuned: a carrier by its
tone, an emission that is amplitude modulated or translated by the
intermediate frequency. No other call keys. -/
def UsbOp.emissionOffset? : UsbOp → Option ℕ
  | .tuneCarrierStart => some UsbRx.tuneToneHz
  | .microphoneTxStart mode .. =>
    some (if mode = .am then UsbRx.txAmIfHz else 0)
  | .networkTxStart mode _ _ translateRawIq _ =>
    some (if mode = .am ∨ translateRawIq = true then UsbRx.txAmIfHz else 0)
  | _ => none

namespace UsbRx

/-- **What a call keys on**: where it sends the command that keys, the relays
are matched with that offset. -/
def KeysMatched (offset : Option ℕ) (r r' : UsbRx) : Prop :=
  ∀ es before ok after, r'.trace = r.trace ++ es →
    es = before ++ .command (.setTr true) ok :: after →
    ∃ frequencyHz filter offsetHz word, offset = some offsetHz
      ∧ (RelayView.after (r.trace ++ before)).MatchedAt frequencyHz filter
        offsetHz word

/-- A call that keys nothing. -/
theorem Grows.keysMatched (h : r.Grows r') (offset : Option ℕ) :
    KeysMatched offset r r' := by
  rintro es before ok after he rfl
  obtain ⟨es', he', hnot⟩ := h
  obtain rfl := List.append_cancel_left (he.symm.trans he')
  exact absurd rfl (hnot (.command (.setTr true) ok)
    (List.mem_append_right _ (List.mem_cons_self ..)))

/-- A start keys on what it checked, and on what its steps sent. -/
theorem Keys.keysMatched {offsetHz filter word : ℕ}
    (h : Keys filter word r r') (hs : r.Sound)
    (hchecked : r.Checked offsetHz filter word)
    (hoffset : offsetHz ∈ [0, tuneToneHz, txAmIfHz]) :
    KeysMatched (some offsetHz) r r' := by
  intro es before ok after he hsplit
  obtain ⟨es', he', hkeys⟩ := h
  obtain rfl := List.append_cancel_left (he.symm.trans he')
  obtain ⟨frequency, hf, hfilter, hword⟩ := hchecked.frequency
  obtain rfl := hkeys before ok after hsplit
  refine ⟨frequency.1, filter, offsetHz, word, rfl, ?_⟩
  rw [RelayView.after_append]
  refine ⟨?_, ?_, hfilter, rfl, rfl, hoffset, hword, rfl⟩
  · show r.relays.prepared = true
    rw [prepared_relays, hs.prepared, hchecked.transmitPrepared]
  · show r.relays.frequencyHz = some frequency.1
    rw [frequencyHz_relays, hs.frequency, hf]
    rfl

theorem keysMatched_tuneCarrierStart (hs : r.Sound) :
    KeysMatched (some tuneToneHz) r r.tuneCarrierStart.2 := by
  obtain ⟨-, he⟩ | ⟨filter, word, hp, he⟩ := tuneCarrierStart_cases r
  · rw [he]
    exact (Grows.refl r).keysMatched _
  · have hchecked := checked_of_txPolicy hp
    rw [he]
    exact (keys_startWith (.carrier filter word) hs.toTracked
      hchecked.handle).keysMatched hs hchecked (by simp)

theorem keysMatched_audioTxStart (hs : r.Sound) (audio : AudioTx)
    (bytes : ℕ) :
    KeysMatched (some audio.offsetHz) r (r.audioTxStart audio bytes).2 := by
  obtain ⟨stream, he, -⟩ | ⟨filter, word, stream, hp, he⟩ :=
    audioTxStart_cases audio bytes r
  · rw [he]
    exact Grows.keysMatched ⟨[], by simp, by simp⟩ _
  · have hchecked := checked_of_txPolicy hp
    have hoffset : audio.offsetHz ∈ [0, tuneToneHz, txAmIfHz] := by
      unfold AudioTx.offsetHz
      split <;> simp
    have hkeys := keys_startWith
      (.audio filter word audio.capturePhysical)
      (hs.withStream stream).toTracked hchecked.handle
    rw [he]
    exact Keys.keysMatched hkeys hs hchecked hoffset

/-- **Every call that keys** keys on relays that are matched with the offset
of its emission. -/
theorem keysMatched_apply (hs : r.Sound) (op : UsbOp) :
    KeysMatched op.emissionOffset? r (r.apply op).2 := by
  have hsame {r' : UsbRx} (h : r'.trace = r.trace) :
      KeysMatched op.emissionOffset? r r' :=
    Grows.keysMatched ⟨[], by simp [h], by simp⟩ _
  cases op with
  | start => exact (unkeying_start r).grows.keysMatched _
  | stop => exact (unkeying_stop r).grows.keysMatched _
  | pump => exact (unkeying_pump r).grows.keysMatched _
  | tune frequencyHz => exact (unkeying_tune frequencyHz r).grows.keysMatched _
  | setGain gainDb => exact (unkeying_setGain gainDb r).grows.keysMatched _
  | enableTransmitPreparation =>
    exact (unkeying_enableTransmitPreparation r).grows.keysMatched _
  | disableTransmitPreparation =>
    exact (unkeying_disableTransmitPreparation r).grows.keysMatched _
  | tuneCarrierStart => exact keysMatched_tuneCarrierStart hs
  | tuneCarrierStop => exact (unkeying_tuneCarrierStop r).grows.keysMatched _
  | microphoneTxStart mode drivePercent microphoneGainDb compressorEnabled =>
    have hsame : (UsbOp.microphoneTxStart mode drivePercent microphoneGainDb
        compressorEnabled).emissionOffset?
        = some (AudioTx.offsetHz
          { mode := mode, drivePercent := drivePercent
            microphoneGainDb := microphoneGainDb
            compressorEnabled := compressorEnabled, capturePhysical := true
            rawIq := false, translateRawIq := false }) := by
      simp [UsbOp.emissionOffset?, AudioTx.offsetHz]
    rw [hsame]
    exact keysMatched_audioTxStart hs _ 0
  | networkTxStart mode drivePercent rawIq translateRawIq bytes =>
    exact keysMatched_audioTxStart hs _ bytes
  | networkTxPush bytes rawIq =>
    exact hsame (congrArg TxPath.trace (path_networkTxPush bytes rawIq r))
  | microphoneTxStop => exact (unkeying_tuneCarrierStop r).grows.keysMatched _
  | microphoneTxStopGraceful =>
    exact (unkeying_microphoneTxStopGraceful r).grows.keysMatched _
  | setTxFaultStage stage => exact hsame rfl

/-- **The law of the relays.** -/
structure RelayLaw (answers : ℕ → UsbAnswer) (ops : List UsbOp) : Prop where
  /-- Nothing came that was not permitted. -/
  permitted : ∀ before event rest,
    (run ops (create answers)).trace = before ++ event :: rest →
    (RelayView.after before).Permits event
  /-- At every moment, a key not yet taken back is down on matched relays. -/
  matched : ∀ before rest,
    (run ops (create answers)).trace = before ++ rest →
    (RelayView.after before).key = some true →
    (RelayView.after before).Matched
  /-- They are matched with the offset of the emission that was started. -/
  offset : ∀ earlier op later, ops = earlier ++ op :: later →
    KeysMatched op.emissionOffset? (run earlier (create answers))
      (run (earlier ++ [op]) (create answers))
  /-- A PA filter that is known was commanded last, and is that of the
  frequency where its receive filter was acknowledged. -/
  known : (run ops (create answers)).Known
  /-- What is active was keyed last, and acknowledged. -/
  onAir : (run ops (create answers)).tuneActive = true →
    (run ops (create answers)).OnAir

/-- **Nothing is switched hot**: after any calls in any order, whatever the
radio answers, the law of the relays holds. The key comes down on relays that
are matched with the emission started, and from then to the attempt to unkey
nothing was sent but mutes, samples and the key, so that no filter,
amplifier, antenna or frequency is switched in between. An attempt to unkey
that fails is an attempt: what comes behind it may find the transmitter
keyed. -/
theorem relayLaw_run (answers : ℕ → UsbAnswer) (ops : List UsbOp) :
    RelayLaw answers ops := by
  have h := switched_run (switched_create answers) ops
  refine ⟨Run.each_iff.mp h.each,
    fun _ _ hsplit => RelayView.matched_of_each h.each hsplit,
    fun earlier op _ _ => ?_, h.toKnown, h.onAir⟩
  rw [show run (earlier ++ [op]) (create answers)
    = ((run earlier (create answers)).apply op).2 from List.foldl_append ..]
  exact keysMatched_apply (sound_run (sound_create answers) earlier) op

/-- Behind an attempt to unkey that failed the cleanup of a carrier goes on,
and switches relays though the transmitter may be keyed. -/
example :
    (run (carrierOps ++ [.tuneCarrierStop]) (create refusesUnkey)).trace.drop 19
      = [.command (.setTr false) false,
        .command (.setRx1FreqTw 317648622) true, .service 200 true,
        .command (.transitionMute false) true, .command (.setPaFilter 4) true,
        .command (.setAmpTx1 false) true, .streamStop] := by
  decide +kernel

/-- Without that acknowledgement the filter that is known may be that of the
frequency before: here the command of the receive filter for 7.1 MHz fails. -/
example :
    let r := run (preparingOps ++ [.tune 7100000])
      (create fun call => if call = 20 then { result := -7 } else {})
    r.frequencyHz.map Subtype.val = some 7100000
      ∧ r.paFilter = paFilterForFrequency 14200000
      ∧ r.paFilter ≠ paFilterForFrequency 7100000 := by
  decide +kernel

end UsbRx
