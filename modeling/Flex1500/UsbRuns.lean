import Flex1500.UsbSafety

/-!
# What the receiver promises its caller

The calls of `usb_rx.c` in any order, with any answers from the bus: the
flags of the receiver account for the last key command in every state
between them, and a start that fails at any step leaves nothing behind.
-/

/-- The calls of a receiver's user that act on the radio. -/
inductive UsbOp where
  | start | stop | pump
  | tune (frequencyHz : ℕ)
  | setGain (gainDb : Int)
  | enableTransmitPreparation | disableTransmitPreparation
  | tuneCarrierStart | tuneCarrierStop
  | microphoneTxStart (mode : TxMode) (drivePercent microphoneGainDb : ℕ)
      (compressorEnabled : Bool)
  | networkTxStart (mode : TxMode) (drivePercent : ℕ)
      (rawIq translateRawIq : Bool) (bytes : ℕ)
  | networkTxPush (bytes : ℕ) (rawIq : Bool)
  | microphoneTxStop | microphoneTxStopGraceful
  | setTxFaultStage (stage : TxFaultStage)
  deriving DecidableEq, Repr

namespace UsbRx

variable {r : UsbRx}

/-- One call: its result and the receiver it leaves. -/
def apply (r : UsbRx) : UsbOp → Int × UsbRx
  | .start => r.start
  | .stop => (0, r.stop)
  | .pump => r.pump
  | .tune frequencyHz => r.tune frequencyHz
  | .setGain gainDb => r.setGain gainDb
  | .enableTransmitPreparation => r.enableTransmitPreparation
  | .disableTransmitPreparation => r.disableTransmitPreparation
  | .tuneCarrierStart => r.tuneCarrierStart
  | .tuneCarrierStop => r.tuneCarrierStop
  | .microphoneTxStart mode drivePercent microphoneGainDb compressorEnabled =>
    r.microphoneTxStart mode drivePercent microphoneGainDb compressorEnabled
  | .networkTxStart mode drivePercent rawIq translateRawIq bytes =>
    r.networkTxStart mode drivePercent rawIq translateRawIq bytes
  | .networkTxPush bytes rawIq =>
    ((r.networkTxPush bytes rawIq).1, (r.networkTxPush bytes rawIq).2)
  | .microphoneTxStop => r.microphoneTxStop
  | .microphoneTxStopGraceful => r.microphoneTxStopGraceful
  | .setTxFaultStage stage => (0, { r with txFaultStage := stage })

/-- Calls one after the other. -/
def run (ops : List UsbOp) (r : UsbRx) : UsbRx :=
  ops.foldl (fun r op => (r.apply op).2) r

/-! ## What a start has checked -/

/-- What the policy of a start checks. -/
structure Checked (offsetHz filter word : ℕ) (r : UsbRx) : Prop where
  handle : r.handle = true
  transmitPrepared : r.transmitPrepared = true
  tuneActive : r.tuneActive = false
  frequency : ∃ frequency, r.frequencyHz = some frequency
    ∧ paFilterForFrequency frequency.1 = some filter
    ∧ usbTuneFrequencyToTuningWord frequency.1 offsetHz = some word

theorem checked_of_txPolicy {offsetHz filter word : ℕ}
    (h : r.txPolicy offsetHz = some (filter, word)) :
    r.Checked offsetHz filter word := by
  unfold txPolicy at h
  split at h
  · simp at h
  rename_i hguard
  simp only [Bool.or_eq_true, Bool.not_eq_true', not_or,
    Bool.not_eq_false] at hguard
  obtain ⟨frequency, hf, h⟩ := Option.bind_eq_some_iff.mp h
  split at h
  · simp at h
  rename_i hactive
  obtain ⟨pa, hpa, h⟩ := Option.bind_eq_some_iff.mp h
  obtain ⟨w, hw, h⟩ := Option.map_eq_some_iff.mp h
  obtain ⟨rfl, rfl⟩ := by simpa using h
  exact ⟨hguard.1.2, hguard.2, by simpa using hactive, frequency, hf, hpa, hw⟩

/-- A sound receiver that passes the policy is idle. -/
theorem Checked.idle {offsetHz filter word : ℕ}
    (h : r.Checked offsetHz filter word) (hs : r.Sound) : r.Idle :=
  hs.resting.resolve_right fun ht => by
    simpa [ht.tuneActive] using h.tuneActive

theorem audioTxPolicy_eq_some {audio : AudioTx} {filter word : ℕ}
    {stream : TxAudioStream}
    (h : r.audioTxPolicy audio = some ((filter, word), stream)) :
    r.txPolicy audio.offsetHz = some (filter, word) := by
  unfold audioTxPolicy at h
  split at h
  · simp at h
  · obtain ⟨needed, hneeded, h⟩ := Option.bind_eq_some_iff.mp h
    obtain ⟨_, -, h⟩ := Option.map_eq_some_iff.mp h
    obtain ⟨rfl, -⟩ := by simpa using h
    exact hneeded

/-- **What a carrier start does**: it is refused without a trace, or it is
the start of a carrier on the frequency it checked. -/
theorem tuneCarrierStart_cases (r : UsbRx) :
    (r.txPolicy tuneToneHz = none
      ∧ r.tuneCarrierStart = (libusbErrorInvalidParam, r))
    ∨ ∃ filter word, r.txPolicy tuneToneHz = some (filter, word)
      ∧ r.tuneCarrierStart
        = r.startWith (Start.carrier filter word).steps := by
  unfold tuneCarrierStart
  cases h : r.txPolicy tuneToneHz with
  | none => exact Or.inl ⟨rfl, rfl⟩
  | some needed =>
    exact Or.inr ⟨needed.1, needed.2, rfl,
      congrArg (r.startWith ·) (tuneCarrierSteps_eq needed.1 needed.2)⟩

/-- **What an audio start does**: it is refused, with its sample queue
perhaps set up, or it is the start of a stream on the frequency it
checked. -/
theorem audioTxStart_cases (audio : AudioTx) (bytes : ℕ) (r : UsbRx) :
    (∃ stream, r.audioTxStart audio bytes
        = (libusbErrorInvalidParam, { r with microphoneStream := stream })
      ∧ ∀ needed stream, r.audioTxPolicy audio = some (needed, stream) →
        (prebuffered audio.rawIq bytes stream).1 = false)
    ∨ ∃ filter word stream, r.txPolicy audio.offsetHz = some (filter, word)
      ∧ r.audioTxStart audio bytes
        = { r with microphoneStream := stream }.startWith
            (Start.audio filter word audio.capturePhysical).steps := by
  unfold audioTxStart
  cases h : r.audioTxPolicy audio with
  | none => exact Or.inl ⟨r.microphoneStream, rfl, by simp⟩
  | some needed =>
    obtain ⟨⟨filter, word⟩, stream⟩ := needed
    dsimp only
    split
    · rename_i hfilled
      refine Or.inl ⟨_, rfl, fun needed stream' he => ?_⟩
      obtain ⟨-, rfl⟩ := by simpa using he
      exact hfilled
    · exact Or.inr ⟨filter, word, _, audioTxPolicy_eq_some h, rfl⟩

/-- Another sample queue is no matter. -/
theorem Sound.withStream (h : r.Sound) (stream : TxAudioStream) :
    { r with microphoneStream := stream }.Sound :=
  (Quietly.of_same rfl rfl rfl rfl rfl :
    r.Quietly { r with microphoneStream := stream }).sound h

theorem sound_tuneCarrierStart (h : r.Sound) :
    r.tuneCarrierStart.2.Sound := by
  rcases tuneCarrierStart_cases r with ⟨-, he⟩ | ⟨filter, word, hp, he⟩
  · rw [he]
    exact h
  · rw [he]
    exact sound_startWith _ h.toTracked (checked_of_txPolicy hp).handle

theorem sound_audioTxStart (h : r.Sound) (audio : AudioTx) (bytes : ℕ) :
    (r.audioTxStart audio bytes).2.Sound := by
  rcases audioTxStart_cases audio bytes r with
    ⟨stream, he, -⟩ | ⟨filter, word, stream, hp, he⟩
  · rw [he]
    exact h.withStream stream
  · rw [he]
    exact sound_startWith _ (h.withStream stream).toTracked
      (checked_of_txPolicy hp).handle

theorem quietly_networkTxPush (bytes : ℕ) (rawIq : Bool) (r : UsbRx) :
    r.Quietly (r.networkTxPush bytes rawIq).2 := by
  unfold networkTxPush
  split
  · exact Quietly.refl r
  · exact Quietly.of_same rfl rfl rfl rfl rfl

/-- **Every call leaves a sound receiver sound.** -/
theorem sound_apply (h : r.Sound) (op : UsbOp) : (r.apply op).2.Sound := by
  cases op with
  | start => exact (unkeying_start r).sound h
  | stop => exact (unkeying_stop r).sound h
  | pump => exact (unkeying_pump r).sound h
  | tune frequencyHz => exact (unkeying_tune frequencyHz r).sound h
  | setGain gainDb => exact (unkeying_setGain gainDb r).sound h
  | enableTransmitPreparation =>
    exact (unkeying_enableTransmitPreparation r).sound h
  | disableTransmitPreparation =>
    exact (unkeying_disableTransmitPreparation r).sound h
  | tuneCarrierStart => exact sound_tuneCarrierStart h
  | tuneCarrierStop => exact (unkeying_tuneCarrierStop r).sound h
  | microphoneTxStart => exact sound_audioTxStart h _ 0
  | networkTxStart => exact sound_audioTxStart h _ _
  | networkTxPush bytes rawIq => exact (quietly_networkTxPush _ _ r).sound h
  | microphoneTxStop => exact (unkeying_tuneCarrierStop r).sound h
  | microphoneTxStopGraceful =>
    exact (unkeying_microphoneTxStopGraceful r).sound h
  | setTxFaultStage stage =>
    exact (Quietly.of_same rfl rfl rfl rfl rfl :
      r.Quietly { r with txFaultStage := stage }).sound h

/-- Every run leaves a sound receiver sound. -/
theorem sound_run (h : r.Sound) (ops : List UsbOp) : (r.run ops).Sound := by
  induction ops generalizing r with
  | nil => exact h
  | cons op ops ih => exact ih (sound_apply h op)

/-! ## The flags of a transmitter that was keyed last -/

/-- What a receiver does while it has to take the radio for keyed: its flags
are set, it neither tunes nor changes the gain, and whatever may end the
transmission tries to unkey. -/
structure HoldsKey (r : UsbRx) : Prop where
  tuneActive : r.tuneActive = true
  tuneKeyed : r.tuneKeyed = true
  tuneKeyAttempted : r.tuneKeyAttempted = true
  tune : ∀ frequencyHz, r.tune frequencyHz = (libusbErrorInvalidParam, r)
  setGain : ∀ gainDb, r.setGain gainDb = (libusbErrorInvalidParam, r)
  tuneCarrierStop : Attempts (.setTr false) r r.tuneCarrierStop.2
  disableTransmitPreparation :
    Attempts (.setTr false) r r.disableTransmitPreparation.2
  stop : Attempts (.setTr false) r r.stop

/-- A transmission holds the key. -/
theorem Transmitting.holdsKey (h : r.Transmitting) : r.HoldsKey where
  tuneActive := h.tuneActive
  tuneKeyed := h.tuneKeyed
  tuneKeyAttempted := h.tuneKeyAttempted
  tune frequencyHz := by simp [UsbRx.tune, h.tuneActive]
  setGain gainDb := by simp [UsbRx.setGain, h.tuneActive]
  tuneCarrierStop := attempts_tuneCarrierStop h.handle h.keyKnown
  disableTransmitPreparation :=
    attempts_disableTransmitPreparation h.handle h.keyKnown
  stop := attempts_stop h.handle h.keyKnown

/-- **The flags account for the key**: after any calls, answered in any way,
a receiver whose last key command was the one that keys holds the key. -/
theorem holdsKey_of_keyed_last (answers : ℕ → UsbAnswer) (ops : List UsbOp)
    (hk : (RadioView.after (run ops (create answers)).trace).key
      = some true) :
    (run ops (create answers)).HoldsKey :=
  ((sound_run (sound_create answers) ops).transmitting hk).holdsKey

/-- Calls that tune to 14.2 MHz and key a carrier. -/
def carrierOps : List UsbOp :=
  [.start, .tune 14200000, .enableTransmitPreparation, .tuneCarrierStart]

/-- The carrier holds the key where every call succeeds. -/
theorem holdsKey_of_keyed_last_carrier :
    (run carrierOps (create fun _ => {})).HoldsKey :=
  holdsKey_of_keyed_last _ _ (by decide +kernel)

/-- A bus whose `SET_TR(0)` after the carrier, its 37th answer, fails. -/
def refusesUnkey (call : ℕ) : UsbAnswer :=
  if call = 36 then { result := -7 } else {}

/-- **A key that may still be down is forgotten** when the command that
releases it fails: the receiver remains logically unkeyed, and does not try
again. -/
theorem failed_unkey_forgotten :
    let r := run (carrierOps ++ [.tuneCarrierStop]) (create refusesUnkey)
    (RadioView.after r.trace).key = some false
      ∧ (RadioView.after r.trace).keyAcknowledged = false
      ∧ r.handle = true ∧ r.running = true
      ∧ (r.tuneActive || r.tuneKeyed || r.tuneKeyAttempted) = false
      ∧ r.tuneCarrierStop.2.trace = r.trace := by
  decide +kernel

/-! ## Starts that fail -/

/-- A carrier start that fails after its checks passed, fails safely. -/
theorem safelyFailed_tuneCarrierStart (hs : r.Sound) {filter word : ℕ}
    (hpolicy : r.txPolicy tuneToneHz = some (filter, word))
    (hfail : r.tuneCarrierStart.1 ≠ 0) :
    SafelyFailed (tuneCarrierSteps filter word) r r.tuneCarrierStart.2 := by
  have hc := checked_of_txPolicy hpolicy
  have he : r.tuneCarrierStart
      = r.startWith (Start.carrier filter word).steps := by
    rw [tuneCarrierStart, hpolicy]
    exact congrArg (r.startWith ·) (tuneCarrierSteps_eq filter word)
  rw [he] at hfail ⊢
  exact safelyFailed_startWith (Start.carrier filter word) hs.toTracked
    (hc.idle hs) hc.transmitPrepared hc.handle hfail

/-- An audio start that fails after its checks passed and its pre-roll was
taken, fails safely. -/
theorem safelyFailed_audioTxStart (hs : r.Sound) {audio : AudioTx}
    {bytes filter word : ℕ} {stream : TxAudioStream}
    (hpolicy : r.audioTxPolicy audio = some ((filter, word), stream))
    (hfilled : (prebuffered audio.rawIq bytes stream).1 = true)
    (hfail : (r.audioTxStart audio bytes).1 ≠ 0) :
    SafelyFailed (audioTxSteps filter word audio.capturePhysical)
      { r with microphoneStream := (prebuffered audio.rawIq bytes stream).2 }
      (r.audioTxStart audio bytes).2 := by
  have hc := checked_of_txPolicy (audioTxPolicy_eq_some hpolicy)
  have hs' := hs.withStream (prebuffered audio.rawIq bytes stream).2
  have he : r.audioTxStart audio bytes
      = { r with
          microphoneStream :=
            (prebuffered audio.rawIq bytes stream).2 }.startWith
          (Start.audio filter word audio.capturePhysical).steps := by
    rw [audioTxStart, hpolicy]
    dsimp only
    rw [if_neg (by simp [hfilled])]
    exact congrArg (startWith · _) (audioTxSteps_eq filter word _)
  rw [he] at hfail ⊢
  exact safelyFailed_startWith (Start.audio filter word audio.capturePhysical)
    hs'.toTracked (hc.idle hs) hc.transmitPrepared hc.handle hfail

/-- **Starts fail safely**: after any calls, answered in any way, a start
that fails once its checks have passed, and its pre-roll, if it has one, was
taken, ends with a carrier stop that undoes what its steps sent. The cleanup
is the executor's, which takes every planned action once and in the fixed
order, whatever the actions answer, and reports the first error. -/
theorem safelyFailed_start (answers : ℕ → UsbAnswer) (ops : List UsbOp) :
    let r := run ops (create answers)
    (∀ filter word, r.txPolicy tuneToneHz = some (filter, word) →
        r.tuneCarrierStart.1 ≠ 0 →
        SafelyFailed (tuneCarrierSteps filter word) r r.tuneCarrierStart.2)
      ∧ (∀ (audio : AudioTx) (bytes filter word : ℕ) (stream : TxAudioStream),
          r.audioTxPolicy audio = some ((filter, word), stream) →
          (prebuffered audio.rawIq bytes stream).1 = true →
          (r.audioTxStart audio bytes).1 ≠ 0 →
          SafelyFailed (audioTxSteps filter word audio.capturePhysical)
            { r with
              microphoneStream := (prebuffered audio.rawIq bytes stream).2 }
            (r.audioTxStart audio bytes).2)
      ∧ txCleanupOrder.Nodup
      ∧ (∀ action, action ∈ txCleanupOrder)
      ∧ ∀ {κ : Type} (plan : TxCleanupPlan)
          (callback : TxCleanupAction → κ → Int × κ) (k : κ),
        txExecuteCleanup plan callback k
          = ((firstError
                (cleanupRun callback (txCleanupOrder.filter plan) k).1,
              txCleanupOrder.filter plan),
            (cleanupRun callback (txCleanupOrder.filter plan) k).2) := by
  have hs := sound_run (sound_create answers) ops
  exact ⟨fun _ _ => safelyFailed_tuneCarrierStart hs,
    fun _ _ _ _ _ => safelyFailed_audioTxStart hs, nodup_txCleanupOrder,
    mem_txCleanupOrder, txExecuteCleanup_eq⟩

/-- Calls that prepare to transmit on 14.2 MHz. -/
def preparingOps : List UsbOp :=
  [.start, .tune 14200000, .enableTransmitPreparation]

/-- A bus whose `SET_TR(1)` for a carrier, its 33rd answer, is short. -/
def shortKey (call : ℕ) : UsbAnswer :=
  if call = 32 then { transferred := 19 } else {}

/-- A key command that is short is one of the failures. -/
theorem safelyFailed_start_shortKey :
    let r := run preparingOps (create shortKey)
    .command (.setTr true) false ∈ r.tuneCarrierStart.2.trace
      ∧ SafelyFailed (tuneCarrierSteps 4 317635201) r r.tuneCarrierStart.2 :=
  ⟨by decide +kernel, (safelyFailed_start shortKey preparingOps).1 _ _
    (by decide +kernel) (by decide +kernel)⟩

/-- A transmission of samples that are not translated. -/
def pcmAudioTx : AudioTx where
  mode := .usb
  drivePercent := 50
  microphoneGainDb := 0
  compressorEnabled := false
  capturePhysical := false
  rawIq := false
  translateRawIq := false

/-- **A pre-roll of one byte is no sample**: the start is refused after the
checks of its policy passed, and before anything was sent, so there is no
amplifier to disable. -/
theorem prebuffer_refused_without_cleanup :
    let r := run preparingOps (create fun _ => {})
    (r.audioTxPolicy pcmAudioTx).isSome = true
      ∧ (r.audioTxStart pcmAudioTx 1).1 = libusbErrorInvalidParam
      ∧ (r.audioTxStart pcmAudioTx 1).2.trace = r.trace := by
  decide +kernel

end UsbRx
