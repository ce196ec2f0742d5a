import Flex1500.DaemonBlocks

/-!
# The keying interlock

Five layers stand between a request and the key command: the API, the
session, the controller, the callback of the daemon and the start sequence of
the receiver. Each checks something, and nothing is checked twice. What the
radio needs in the end is that all of it holds at the moment of the command.

The steps of a start are known to come right before the key, all of them
acknowledged. The daemon logs what it is about to emit where it calls the
start, with the controller and the session as they are then and with all that
was sent before. So every key command in the trace of the receiver can be
traced back to an entry of the log, and everything that has to hold is read
off that entry.
-/

/-! ## What a start has checked -/

/-- **Fit to key**: transmission is prepared, the frequency is known, and the
filter and the tuning word are those for it, that many hertz below. -/
structure RadioView.Fits (view : RadioView)
    (frequencyHz offsetHz filter word : ℕ) : Prop where
  prepared : view.prepared = true
  frequency : view.frequencyHz = some frequencyHz
  filter : paFilterForFrequency frequencyHz = some filter
  word : usbTuneFrequencyToTuningWord frequencyHz offsetHz = some word

namespace UsbRx

variable {r : UsbRx}

/-- What a start checks is so by the trace of a sound receiver. -/
theorem Checked.fits {offsetHz filter word : ℕ}
    (h : r.Checked offsetHz filter word) (hs : r.Sound) :
    ∃ frequency, r.frequencyHz = some frequency
      ∧ (RadioView.after r.trace).Fits frequency.1 offsetHz filter word := by
  obtain ⟨frequency, hf, hfilter, hword⟩ := h.frequency
  refine ⟨frequency, hf, hs.prepared.trans h.transmitPrepared, ?_, hfilter,
    hword⟩
  rw [hs.frequency, hf]
  rfl

/-- A call that keys nothing, or a start that keys on a frequency it found
the radio fit for. -/
def KeysFit (frequencyHz offsetHz : ℕ) (r r' : UsbRx) : Prop :=
  r'.trace = r.trace ∨ ∃ filter word, Keys filter word r r'
    ∧ (RadioView.after r.trace).Fits frequencyHz offsetHz filter word

theorem keysFit_tuneCarrierStart (hs : r.Sound) {frequency : Frequency}
    (hf : r.frequencyHz = some frequency) :
    r.KeysFit frequency.1 tuneToneHz r.tuneCarrierStart.2 := by
  obtain ⟨-, he⟩ | ⟨filter, word, hp, he⟩ := tuneCarrierStart_cases r
  · rw [he]
    exact Or.inl rfl
  · have hchecked := checked_of_txPolicy hp
    obtain ⟨frequency', hf', hfits⟩ := hchecked.fits hs
    obtain rfl : frequency' = frequency :=
      Option.some.inj (hf'.symm.trans hf)
    rw [he]
    exact Or.inr ⟨filter, word,
      keys_startWith (.carrier filter word) hs.toTracked hchecked.handle,
      hfits⟩

theorem keysFit_audioTxStart (hs : r.Sound) (audio : AudioTx) (bytes : ℕ)
    {frequency : Frequency} (hf : r.frequencyHz = some frequency) :
    r.KeysFit frequency.1 audio.offsetHz (r.audioTxStart audio bytes).2 := by
  obtain ⟨stream, he, -⟩ | ⟨filter, word, stream, hp, he⟩ :=
    audioTxStart_cases audio bytes r
  · rw [he]
    exact Or.inl rfl
  · have hchecked := checked_of_txPolicy hp
    obtain ⟨frequency', hf', hfits⟩ := hchecked.fits hs
    obtain rfl : frequency' = frequency :=
      Option.some.inj (hf'.symm.trans hf)
    rw [he]
    exact Or.inr ⟨filter, word,
      keys_startWith (.audio filter word audio.capturePhysical)
        (hs.withStream stream).toTracked hchecked.handle, hfits⟩

end UsbRx

/-! ## The guard of an emission -/

/-- **Ready to transmit**: a session with a stream and its pre-roll, under a
profile that is supported, with at least the pre-roll recorded since the
stream was attached or the last transmission ended. -/
structure NetworkTx.Transmits (session : NetworkTx) : Prop
    extends session.Ready where
  profile : session.profile.valid = true
  recorded : networkTxMinPrebufferFrames ≤ session.recordedFrames

/-- A sound session that is ready to key is ready to transmit. -/
theorem NetworkTx.Sound.transmits {session : NetworkTx} (h : session.Sound)
    (hready : session.Ready) : session.Transmits where
  toReady := hready
  profile := (h.reserved hready.reserved).2
  recorded := by
    have hbuffered := hready.buffered
    rw [h.buffered] at hbuffered
    omega

/-- What an owner may emit: a carrier, the microphone's voice, or what the
profile of its session says. -/
def TxEmission.OfOwner (record : TxEmission) : Prop :=
  match record.owner with
  | .tune => record.emission = .tune
  | .physicalMic => ∃ mode, record.emission = .voice mode
  | .http =>
    record.network.Transmits
      ∧ if record.network.profile.source = .iq then
          ∃ translated, record.emission = .rawIq translated
        else record.emission
          = .voice (DaemonTx.networkMode record.network.profile)
  | _ => False

/-- **The guard of an emission**: the controller was enabled, not at fault
and without an owner, with the switch armed where the microphone asked for
it; and what is about to be emitted is the owner's to emit, and allowed on
its frequency. -/
structure TxEmission.Guarded (record : TxEmission) : Prop where
  controller : ∃ control : TxControl, record.control = control.preparing
    ∧ control.Admits record.owner
  emission : record.OfOwner
  allowed : record.emission.allowed record.frequencyHz = true

namespace DaemonTx

/-- A key command, after what came before it: it belongs to an emission that
was guarded, and everything a start needs was acknowledged between the
two. -/
def KeyGuarded (log : List DaemonNote) (before : List UsbEvent) : Prop :=
  ∃ record filter word, .emission record ∈ log ∧ record.Guarded
    ∧ before = record.trace ++ UsbRx.keyingEvents filter word
    ∧ (RadioView.after record.trace).Fits record.frequencyHz
      record.emission.offsetHz filter word

/-- **Interlocked**: every key command sent was guarded. -/
structure Interlocked (tx : DaemonTx) : Prop where
  sound : tx.receiver.Sound
  guarded : ∀ before ok after,
    tx.receiver.trace = before ++ .command (.setTr true) ok :: after →
    KeyGuarded tx.log before

variable {tx tx' : DaemonTx} {log log' : List DaemonNote}

theorem KeyGuarded.mono {before : List UsbEvent} (h : KeyGuarded log before)
    (hlog : log ⊆ log') : KeyGuarded log' before := by
  obtain ⟨record, filter, word, hmem, h⟩ := h
  exact ⟨record, filter, word, hlog hmem, h⟩

/-- Events that do not key are no matter of the interlock. -/
theorem Interlocked.grows (h : tx.Interlocked) (hlog : tx.log ⊆ tx'.log)
    (hgrows : tx.receiver.Grows tx'.receiver)
    (hsound : tx'.receiver.Sound) : tx'.Interlocked := by
  refine ⟨hsound, fun before ok after htrace => ?_⟩
  obtain ⟨es, hes, hnot⟩ := hgrows
  rw [hes] at htrace
  obtain ⟨mid, hbefore, -⟩ | ⟨mid, -, hafter⟩ := Attempt.split_append htrace
  · exact (h.guarded before ok mid hbefore).mono hlog
  · refine absurd rfl (hnot (.command (.setTr true) ok) ?_)
    rw [hafter]
    exact List.mem_append_right _ (List.mem_cons_self ..)

theorem Interlocked.unkeying (h : tx.Interlocked) (hlog : tx.log ⊆ tx'.log)
    (hunkeying : tx.receiver.Unkeying tx'.receiver) : tx'.Interlocked :=
  h.grows hlog hunkeying.grows (hunkeying.sound h.sound)

/-- The receiver is the same, and the log grew at most. -/
theorem Interlocked.congr (h : tx.Interlocked) (hlog : tx.log ⊆ tx'.log)
    (hreceiver : tx'.receiver = tx.receiver) : tx'.Interlocked :=
  h.unkeying hlog (hreceiver ▸ UsbRx.Unkeying.refl _)

/-- **A start that was logged**, with a guard, keeps the interlock. -/
theorem Interlocked.keys (h : tx.Interlocked) (hlog : tx.log ⊆ tx'.log)
    {record : TxEmission} (hrecord : .emission record ∈ tx'.log)
    (hguarded : record.Guarded) (htrace : record.trace = tx.receiver.trace)
    (hkeys : tx.receiver.KeysFit record.frequencyHz record.emission.offsetHz
      tx'.receiver)
    (hsound : tx'.receiver.Sound) : tx'.Interlocked := by
  obtain hsame | ⟨filter, word, ⟨es, hes, hkeys⟩, hfits⟩ := hkeys
  · exact h.grows hlog ⟨[], by simp [hsame], by simp⟩ hsound
  refine ⟨hsound, fun before ok after hsplit => ?_⟩
  rw [hes] at hsplit
  obtain ⟨mid, hbefore, -⟩ | ⟨mid, hbefore, hafter⟩ :=
    Attempt.split_append hsplit
  · exact (h.guarded before ok mid hbefore).mono hlog
  · refine ⟨record, filter, word, hrecord, hguarded, ?_, ?_⟩
    · rw [hbefore, htrace, hkeys mid ok after hafter]
    · rw [htrace]
      exact hfits

end DaemonTx

/-! ## The callbacks -/

namespace DaemonTx

variable {carriesDc : List UInt8 → Bool} {control : TxControl}
variable {network : NetworkTx} {tx tx' : DaemonTx}

/-- A log that grows by an entry has what it had. -/
theorem log_subset_note (entry : DaemonNote) (tx : DaemonTx) :
    tx.log ⊆ (tx.note entry).log :=
  List.subset_append_left _ _

/-- The entry logged is in the log. -/
theorem mem_note (entry : DaemonNote) (tx : DaemonTx) :
    entry ∈ (tx.note entry).log :=
  List.mem_append_right _ (List.mem_singleton.mpr rfl)

theorem interlocked_startTune (h : tx.Interlocked)
    (hadmits : control.Admits .tune) :
    (tx.startTune control.preparing network).2.Interlocked := by
  unfold startTune
  split
  · exact h
  rename_i frequency hf
  dsimp only
  split
  · exact h.congr (List.Subset.refl _) rfl
  rename_i hallowed
  refine h.keys (log_subset_note _ _) (mem_note _ _)
    ⟨⟨control, rfl, hadmits⟩, rfl, ?_⟩ rfl
    (UsbRx.keysFit_tuneCarrierStart h.sound hf)
    (UsbRx.sound_tuneCarrierStart h.sound)
  show tuneFrequencyAllowed frequency.1 = true
  simpa using hallowed

/-- The mode the microphone is given is one that is allowed. -/
theorem allowed_resolvePhysicalTxMode {api : ApiController}
    {station : StationOwner} {frequencyHz : ℕ} {mode : TxMode}
    {modeName : String}
    (h : resolvePhysicalTxMode api station frequencyHz
      = some (mode, modeName)) :
    (Emission.voice mode).allowed frequencyHz = true := by
  unfold resolvePhysicalTxMode at h
  split at h
  · obtain ⟨upper, hupper, hmode⟩ := Option.map_eq_some_iff.mp h
    unfold defaultSsbUpperSideband at hupper
    dsimp only at hupper
    split at hupper
    · rename_i hallowed
      rw [Option.some.inj hupper] at hallowed
      cases upper with
      | true =>
        obtain ⟨rfl, -⟩ := Prod.mk.inj hmode
        exact hallowed
      | false =>
        obtain ⟨rfl, -⟩ := Prod.mk.inj hmode
        exact hallowed
    · exact nomatch hupper
  · obtain ⟨mode', -, hmode⟩ := Option.bind_eq_some_iff.mp h
    split at hmode
    · rename_i hallowed
      obtain ⟨rfl, -⟩ := Prod.mk.inj (Option.some.inj hmode)
      exact hallowed
    · exact nomatch hmode

/-- The offset of a voice is that of its mode. -/
theorem offsetHz_voice (mode : TxMode) :
    (Emission.voice mode).offsetHz
      = if mode = .am then UsbRx.txAmIfHz else 0 := by
  cases mode <;> rfl

theorem interlocked_startMicrophone (api : ApiController)
    (station : StationOwner) (h : tx.Interlocked)
    (hadmits : control.Admits .physicalMic) :
    (tx.startMicrophone api station control.preparing
      network).2.Interlocked := by
  unfold startMicrophone
  split
  · exact h
  rename_i frequency hf
  dsimp only
  split
  · exact h.congr (List.Subset.refl _) rfl
  rename_i mode modeName hmode
  have hallowed := allowed_resolvePhysicalTxMode hmode
  refine h.keys (log_subset_note _ _) (mem_note _ _)
    ⟨⟨control, rfl, hadmits⟩, ⟨mode, rfl⟩, hallowed⟩ rfl ?_ ?_
  · have hkeys := UsbRx.keysFit_audioTxStart h.sound
      { mode := mode, drivePercent := api.txDrivePercent
        microphoneGainDb := api.txMicrophoneGainDb
        compressorEnabled := api.txCompressorEnabled, capturePhysical := true
        rawIq := false, translateRawIq := false } 0 hf
    rw [show UsbRx.AudioTx.offsetHz _ = (Emission.voice mode).offsetHz by
      rw [offsetHz_voice]; simp [UsbRx.AudioTx.offsetHz]] at hkeys
    exact hkeys
  · exact UsbRx.sound_audioTxStart h.sound _ _

/-- A supported profile of samples has a mode of its own. -/
theorem networkMode_of_iq {profile : NetworkTxProfile}
    (hvalid : profile.valid = true) (hiq : profile.source = .iq) :
    networkMode profile = .usb := by
  unfold NetworkTxProfile.valid at hvalid
  split at hvalid
  · exact Bool.noConfusion hvalid
  rw [hiq] at hvalid
  have hmode : profile.mode = .iqMode := by simpa using hvalid
  unfold networkMode
  rw [hmode]

theorem interlocked_startNetwork (h : tx.Interlocked)
    (hadmits : control.Admits .http) (hsession : network.Transmits) :
    (tx.startNetwork carriesDc control.preparing network).2.Interlocked := by
  unfold startNetwork
  split
  · exact h
  rename_i frequency hfrequency
  rw [hsession.reserved, if_pos rfl] at hfrequency
  extract_lets tx₁ rawIq translate emission tx₂ started tx₃
  split
  · exact h.congr (List.Subset.refl _) rfl
  rename_i hallowed
  have hemission : TxEmission.OfOwner
      { owner := .http, control := control.preparing, network := network
        emission := emission, frequencyHz := frequency.1
        trace := tx.receiver.trace } := by
    refine ⟨hsession, ?_⟩
    dsimp only [emission, networkEmission]
    split
    · exact ⟨_, rfl⟩
    · rfl
  let audio : UsbRx.AudioTx :=
    { mode := networkMode network.profile
      drivePercent := network.profile.drivePercent, microphoneGainDb := 0
      compressorEnabled := false, capturePhysical := false
      rawIq := rawIq, translateRawIq := translate }
  have hoffset : audio.offsetHz = emission.offsetHz := by
    dsimp only [audio, emission, networkEmission, translate, rawIq]
    split
    · rename_i hiq
      simp [UsbRx.AudioTx.offsetHz, Emission.offsetHz, hiq,
        networkMode_of_iq hsession.profile hiq, tx₁]
    · rename_i hiq
      rw [offsetHz_voice]
      simp [UsbRx.AudioTx.offsetHz, hiq]
  have hkeys := UsbRx.keysFit_audioTxStart h.sound audio
    tx.networkPrebuffer.length hfrequency
  rw [hoffset] at hkeys
  have hinterlocked : tx₃.Interlocked :=
    h.keys (List.Subset.trans (log_subset_note _ tx₁) (log_subset_note _ _))
      (log_subset_note _ _ (mem_note _ tx₁))
      ⟨⟨control, rfl, hadmits⟩, hemission, by simpa using hallowed⟩ rfl hkeys
      (UsbRx.sound_audioTxStart h.sound audio _)
  dsimp only
  split
  · exact hinterlocked.congr (List.Subset.refl _) rfl
  · exact hinterlocked

end DaemonTx

/-- **The start callback keeps the interlock**, called by a controller that
admits the owner, and for a session only once it is ready. -/
theorem interlocked_daemonTxOwnerStart {carriesDc : List UInt8 → Bool}
    {owner : TxOwner} {control : TxControl} {k : DaemonContext}
    (h : k.world.radio.Interlocked) (hadmits : control.Admits owner)
    (hsession : owner = .http → k.network.Transmits) :
    (daemonTxOwnerStart carriesDc owner control.preparing
      k).2.world.radio.Interlocked := by
  have hcounted (tx : DaemonTx) (started : Int) :
      ((k.withRadio tx).counted started).world.radio = tx := by
    unfold DaemonContext.counted
    split
    · rfl
    · rfl
  have hnoted : (k.world.radio.note (.start owner)).Interlocked :=
    h.congr (DaemonTx.log_subset_note _ _) rfl
  unfold daemonTxOwnerStart
  dsimp only
  cases owner with
  | tune => exact DaemonTx.interlocked_startTune hnoted hadmits
  | http =>
    dsimp only
    rw [hcounted]
    exact DaemonTx.interlocked_startNetwork hnoted hadmits (hsession rfl)
  | physicalMic =>
    dsimp only
    rw [hcounted]
    exact DaemonTx.interlocked_startMicrophone _ _ hnoted hadmits
  | _ => exact hnoted

/-- The stop callback keys nothing. -/
theorem interlocked_daemonTxOwnerStop {owner : TxOwner} {graceful : Bool}
    (control : TxControl) {k : DaemonContext}
    (h : k.world.radio.Interlocked) :
    (daemonTxOwnerStop owner graceful control
      k).2.world.radio.Interlocked := by
  have hstop : k.world.radio.receiver.Unkeying
      (if graceful then k.world.radio.receiver.microphoneTxStopGraceful
        else k.world.radio.receiver.microphoneTxStop).2 := by
    split
    · exact UsbRx.unkeying_microphoneTxStopGraceful _
    · exact UsbRx.unkeying_tuneCarrierStop _
  cases owner with
  | tune =>
    exact h.unkeying (List.Subset.refl _) (UsbRx.unkeying_tuneCarrierStop _)
  | http => exact h.unkeying (List.Subset.refl _) hstop
  | physicalMic => exact h.unkeying (List.Subset.refl _) hstop
  | _ => exact h

/-! ## Runs -/

/-- Worlds of which the second is interlocked where the first is. -/
def ApiWorld.StaysInterlocked (w w' : ApiWorld DaemonTx) : Prop :=
  w.radio.Interlocked → w'.radio.Interlocked

/-- The loop by itself keys nothing. -/
theorem ApiWorld.loops_staysInterlocked :
    ApiWorld.Loops ApiWorld.StaysInterlocked where
  api _ _ := id
  station _ _ := id
  receiver _ _ hunkeying h := h.unkeying (List.Subset.refl _) hunkeying
  samples _ _ hreceiver hlogs h := by
    obtain ⟨notes, hlog, -⟩ := hlogs
    exact h.congr (hlog ▸ List.subset_append_left _ _) hreceiver
  reading _ _ h := h.congr (DaemonTx.log_subset_note _ _) rfl
  session _ h := h.congr (DaemonTx.log_subset_note _ _) rfl

namespace TxPlane

variable {carriesDc : List UInt8 → Bool} {p q : TxPlane (ApiWorld DaemonTx)}

/-- A request whose guards are met keeps the interlock. -/
theorem interlocked_requested {owner : TxOwner} {nowMs : UInt64}
    (hp : p.Coherent) (h : p.world.radio.Interlocked)
    (hadmits : p.tx.Admits owner)
    (hready : owner = .http → p.network.Ready) :
    (p.requested (daemonCallbacks carriesDc) owner
      nowMs).world.radio.Interlocked := by
  have hstarted : (daemonTxOwnerStart carriesDc owner p.tx.preparing
      p.toTxContext).2.world.radio.Interlocked :=
    interlocked_daemonTxOwnerStart h hadmits fun howner =>
      hp.sound.transmits (hready howner)
  unfold requested
  obtain ⟨hrefused, -⟩ | ⟨-, -, hr⟩ | ⟨-, -, hr⟩ := TxControl.request_cases
    (daemonCallbacks carriesDc) owner nowMs p.tx p.toTxContext
  · exact absurd hadmits hrefused
  · rw [hr]
    exact hstarted
  · rw [hr]
    exact interlocked_daemonTxOwnerStop p.tx.preparing hstarted

/-- **Every move keeps the interlock**: a start has the guards of its
move. -/
theorem interlocked_step {m : TxMove} (hp : p.Coherent)
    (hstep : TxStep (daemonCallbacks carriesDc) ApiWorld.StaysInterlocked m
      p q)
    (h : p.world.radio.Interlocked) : q.world.radio.Interlocked := by
  cases hstep with
  | world hw => exact hw h
  | stop ho =>
    unfold unowned
    rw [TxControl.stopOwner_of_owner _ _ _ ho]
    exact interlocked_daemonTxOwnerStop p.tx.unkeying h
  | @refuse _ owner nowMs ha _ hr _ => exact interlocked_requested hp h ha hr
  | grantTune ha _ _ => exact interlocked_requested hp h ha nofun
  | grantMic ha _ => exact interlocked_requested hp h ha nofun
  | grantNetwork ha hr _ => exact interlocked_requested hp h ha fun _ => hr
  | _ => exact h

/-- So does every path. -/
theorem Reaches.interlocked {P : TxMove → Prop} (hp : p.Coherent)
    (hpath : p.Reaches (daemonCallbacks carriesDc) ApiWorld.StaysInterlocked
      P q)
    (h : p.world.radio.Interlocked) : q.world.radio.Interlocked := by
  obtain ⟨ms, hpath, -⟩ := hpath
  have hboth := hpath.invariant
    (fun p : TxPlane (ApiWorld DaemonTx) =>
      p.Coherent ∧ p.world.radio.Interlocked)
    (fun m _ s t hstep hs => ⟨hs.1.reaches (framed_daemonCallbacks carriesDc)
      (.one (P := fun _ => True) hstep trivial),
        interlocked_step hs.1 hstep hs.2⟩)
    ⟨hp, h⟩
  exact hboth.2

end TxPlane

namespace Daemon

/-- A daemon that has just been opened has keyed nothing. -/
theorem interlocked_boot (config : DaemonConfig) (answers : ℕ → UsbAnswer) :
    (boot config answers).tx.Interlocked := by
  have hcreate := UsbRx.sound_create answers
  have hinitial (receiver : UsbRx) (running : Bool)
      (h : (UsbRx.create answers).Unkeying receiver) :
      (initial config receiver running).tx.Interlocked := by
    have hcreated :
        DaemonTx.Interlocked { receiver := UsbRx.create answers } := by
      refine ⟨hcreate, ?_⟩
      intro before ok after htrace
      exact absurd htrace (by simp [UsbRx.create])
    exact hcreated.unkeying (List.nil_subset _) h
  have hstarted : (UsbRx.create answers).Unkeying
      (UsbRx.create answers).start.2 := UsbRx.unkeying_start _
  unfold boot
  extract_lets started gained prepared
  have hgained : (UsbRx.create answers).Unkeying gained.2 :=
    hstarted.trans (UsbRx.unkeying_setGain 20 _)
  have hprepared : (UsbRx.create answers).Unkeying prepared.2 := by
    dsimp only [prepared]
    split
    · exact hgained.trans (UsbRx.unkeying_enableTransmitPreparation _)
    · exact hgained
  split
  · exact hinitial _ _ (hstarted.trans (UsbRx.unkeying_stop _))
  split
  · exact hinitial _ _ (hgained.trans (UsbRx.unkeying_stop _))
  split
  · exact hinitial _ _ (hprepared.trans (UsbRx.unkeying_stop _))
  · exact hinitial _ _ hprepared

/-- **The keying interlock**: in any run of the daemon, over any
configuration, whatever the radio answers and in whatever order requests,
samples, edges of the switch, `rtl_tcp` commands, expiries, timeouts,
failures and recoveries come, every `SET_TR(1)` in what was sent to the radio
follows an emission that was logged and guarded. Transmission was prepared
then and the frequency known and allowed for the emission, the controller was
enabled, not at fault and without an owner, and a session had its stream, a
supported profile and its pre-roll; and between that and the key the PA
filter of the frequency, the amplifier, the stream with its pre-roll, the
mute and the tuning word for the frequency, less the offset of the emission,
were acknowledged, and nothing else was sent. -/
theorem keying_interlocked (config : DaemonConfig)
    (answers : ℕ → UsbAnswer) (blocks : List (LoopBlock × LoopInput))
    (before : List UsbEvent) (ok : Bool) (after : List UsbEvent)
    (hkeyed : ((boot config answers).after config blocks).tx.receiver.trace
      = before ++ .command (.setTr true) ok :: after) :
    ∃ record filter word,
      .emission record
          ∈ ((boot config answers).after config blocks).tx.log
        ∧ record.Guarded
        ∧ before = record.trace ++ UsbRx.keyingEvents filter word
        ∧ (RadioView.after record.trace).Fits record.frequencyHz
          record.emission.offsetHz filter word := by
  have hboth : (fun d : Daemon => d.plane.Coherent ∧ d.tx.Interlocked)
      ((boot config answers).after config blocks) := after_invariant
    (fun d => d.plane.Coherent ∧ d.tx.Interlocked)
    (fun d block input h => ⟨coherent_perform config block input h.1,
      (perform_path config input ApiWorld.loops_staysInterlocked h.1
        block).interlocked h.1 h.2⟩)
    blocks ⟨coherent_boot config answers, interlocked_boot config answers⟩
  exact hboth.2.guarded before ok after hkeyed

/-- A client takes the station, tunes it and keys a carrier. -/
theorem keying_interlocked_carrier :
    let config : DaemonConfig :=
      { rxTuningEnabled := true, testPageEnabled := true
        transmitEnabled := true, rtlTcpEnabled := true
        tuneLease := 1, txLease := 9, stationLease := 7
        carriesDc := fun _ => false }
    let asks (request : String) : LoopBlock × LoopInput :=
      (.http,
        { stationMs := 0, tuneMs := 0, txMs := 0, networkMs := 0, pttMs := 0
          httpAccepted := true
          httpReceived := .data (CText.ofString
            (request ++ " HTTP/1.1\r\nX-Flex1500-Control-Lease: 7\r\n\r\n"))
          requestMs := 0, dataMs := 0 })
    let blocks :=
      [asks "POST /v1/control/owner", asks "PUT /v1/radio/frequency/14250000",
        asks "PUT /v1/radio/tune/start"]
    ∃ record, .emission record
        ∈ ((boot config fun _ => {}).after config blocks).tx.log
      ∧ record.Guarded := by
  intro config asks blocks
  have hkeyed : .command (.setTr true) true
      ∈ ((boot config fun _ => {}).after config blocks).tx.receiver.trace := by
    decide +kernel
  obtain ⟨before, after, htrace⟩ := List.append_of_mem hkeyed
  obtain ⟨record, -, -, hmem, hguarded, -⟩ :=
    keying_interlocked config (fun _ => {}) blocks before true after htrace
  exact ⟨record, hmem, hguarded⟩

end Daemon
