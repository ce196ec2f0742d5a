import Flex1500.UsbRx

/-!
# Transmitting over USB

What `usb_rx.c` does with the transmit path: cleaning up after a
transmission, preparing for one, keying with a carrier or with samples, and
what tuning, opening and closing have to do with it.

A start is a sequence of fallible steps, and both starts of the code go to
the same cleanup when a step fails, so a start is an `Attempt.all` of steps
named after what they do. A call that returns an error and a receiver is a
pair of the two.
-/

namespace UsbRx

/-! ## Cleanup -/

/-- The filter a cleanup selects: the one of the frequency where
preparation is kept, and none otherwise. -/
def cleanupPaFilter (preservePaPreparation : Bool)
    (frequency : Option Frequency) : ℕ :=
  match frequency with
  | some frequency =>
    if preservePaPreparation then (paFilterForFrequency frequency.1).getD 0
    else 0
  | none => 0

/-- `execute_usb_cleanup_action`, for either value of
`preserve_pa_preparation`. -/
def executeUsbCleanupAction (preservePaPreparation : Bool)
    (action : TxCleanupAction) (receiver : UsbRx) : Int × UsbRx :=
  match action with
  | .transitionMute => receiver.sendRxCommand (.transitionMute true)
  | .unkey => receiver.sendRxCommand (.setTr false)
  | .restoreRxFrequency =>
    match receiver.frequencyHz with
    | none => (0, receiver)
    | some frequency =>
      let sent := receiver.sendRxCommand frequency.rxTuneRequest
      if sent.1 = 0 ∧ sent.2.tuneStreaming = true ∧ sent.2.running = true then
        sent.2.serviceTxStream 200
      else sent
  | .transitionUnmute => receiver.sendRxCommand (.transitionMute false)
  | .resetPaFilter =>
    let filter := cleanupPaFilter preservePaPreparation receiver.frequencyHz
    let sent := receiver.sendRxCommand (.setPaFilter filter)
    (sent.1,
      { sent.2 with
        paFilter := if preservePaPreparation then some filter else none })
  | .disableAmplifier => receiver.sendRxCommand (.setAmpTx1 false)
  | .stopStream => (0, receiver.stopTxStream)

/-- A carrier stop clears every flag, whatever the cleanup answered. -/
def unkeyed (receiver : UsbRx) : UsbRx :=
  { receiver with toTxFlags := {} }

/-- `flex1500_usb_rx_tune_carrier_stop`. -/
def tuneCarrierStop (receiver : UsbRx) : Int × UsbRx :=
  if !receiver.handle then (libusbErrorInvalidParam, receiver)
  else if !receiver.tunePrepared && !receiver.tuneActive
      && !receiver.tuneKeyed && !receiver.tuneKeyAttempted
      && !receiver.txStreamPresent && !receiver.tuneTransitionAttempted
      && !receiver.tuneFrequencyAttempted then (0, receiver)
  else
    let cleaned := txExecuteCleanup (txCleanupPlan receiver.txPartialState)
      (executeUsbCleanupAction receiver.transmitPrepared) receiver
    let stopped := cleaned.2.unkeyed
    (cleaned.1.1,
      if stopped.txStreamPresent then stopped.stopTxStream else stopped)

/-- The drain loop of `flex1500_usb_rx_microphone_tx_stop_graceful`, over
the rounds until the time is up. -/
def drainGracefully : List EventRound → UsbRx → UsbRx
  | [], receiver => receiver
  | round :: rest, receiver =>
    if receiver.txPendingFrames = 0 then receiver
    else
      let receiver := receiver.handleEvents round
      if round.result ≠ 0 ∧ round.result ≠ libusbErrorInterrupted then receiver
      else if !receiver.tuneStreaming || !receiver.running then receiver
      else drainGracefully rest receiver

/-- The receiver with other counts of its sample queue. -/
def tallied (f : TxAudioStats → TxAudioStats) (receiver : UsbRx) : UsbRx :=
  { receiver with
    microphoneStream :=
      { receiver.microphoneStream with
        stats := f receiver.microphoneStream.stats } }

/-- `flex1500_usb_rx_microphone_tx_stop_graceful`. -/
def microphoneTxStopGraceful (receiver : UsbRx) : Int × UsbRx :=
  if !receiver.handle then (libusbErrorInvalidParam, receiver)
  else
    let receiver :=
      { receiver with
        txAcceptingAudio := false
        microphoneStream := receiver.microphoneStream.beginGracefulStop }
    let requested := receiver.txPendingFrames
    let asked := (receiver.tallied fun stats =>
      { stats with
        stopRequestedFrames :=
          stats.stopRequestedFrames + UInt64.ofNat requested }).ask
    let receiver := drainGracefully asked.1.rounds asked.2
    let discarded := receiver.txPendingFrames
    (receiver.tallied fun stats =>
      { stats with
        gracefulDrainedFrames :=
          stats.gracefulDrainedFrames + UInt64.ofNat (requested - discarded)
        gracefulDiscardedFrames :=
          stats.gracefulDiscardedFrames + UInt64.ofNat discarded
        gracefulDrainMs :=
          stats.gracefulDrainMs + UInt64.ofNat asked.1.elapsedMs })
      |>.tuneCarrierStop

/-- `flex1500_usb_rx_microphone_tx_stop`. -/
def microphoneTxStop (receiver : UsbRx) : Int × UsbRx :=
  receiver.tuneCarrierStop

/-! ## Transmit preparation -/

/-- The flags disabling clears, whatever its cleanup answered. -/
def preparationCleared (receiver : UsbRx) : UsbRx :=
  { receiver with
    transmitPrepared := false
    ampEnableAttempted := false
    paFilter := none }.log .unprepared

/-- The end of `flex1500_usb_rx_disable_transmit_preparation`, which resets
the PA filter and disables the amplifier. -/
def unprepare (receiver : UsbRx) : Int × UsbRx :=
  let cleanup := txCleanupPlan receiver.txPartialState
  if !cleanup .resetPaFilter && !cleanup .disableAmplifier then (0, receiver)
  else
    let cleaned := txExecuteCleanup
      (fun action =>
        cleanup action
          && (action == .resetPaFilter || action == .disableAmplifier))
      (executeUsbCleanupAction false) receiver
    (cleaned.1.1, cleaned.2.preparationCleared)

/-- `flex1500_usb_rx_disable_transmit_preparation`. -/
def disableTransmitPreparation (receiver : UsbRx) : Int × UsbRx :=
  if !receiver.handle then (libusbErrorInvalidParam, receiver)
  else
    let cleanup := txCleanupPlan receiver.txPartialState
    unprepare
      (if cleanup .unkey || cleanup .restoreRxFrequency || cleanup .stopStream
        then receiver.tuneCarrierStop.2 else receiver)

/-- The receiver with its preparation complete. -/
def preparationDone (receiver : UsbRx) : UsbRx :=
  { receiver with transmitPrepared := true }.log .prepared

/-- What `flex1500_usb_rx_enable_transmit_preparation` takes back when the
amplifier fails. -/
def takeBackPreparation (receiver : UsbRx) : UsbRx :=
  let reset :=
    if receiver.paFilter.isSome then
      { (receiver.sendRxCommand (.setPaFilter 0)).2 with paFilter := none }
    else receiver
  { (reset.sendRxCommand (.setAmpTx1 false)).2 with
    ampEnableAttempted := false }

/-- The end of `flex1500_usb_rx_enable_transmit_preparation`, which enables
the amplifier. -/
def enableAmplifier (receiver : UsbRx) : Int × UsbRx :=
  let sent :=
    { receiver with ampEnableAttempted := true }.sendRxCommand
      (.setAmpTx1 true)
  if sent.1 ≠ 0 then (sent.1, sent.2.takeBackPreparation)
  else (0, sent.2.preparationDone)

/-- `flex1500_usb_rx_enable_transmit_preparation`. -/
def enableTransmitPreparation (receiver : UsbRx) : Int × UsbRx :=
  if !receiver.running || !receiver.handle || receiver.transmitPrepared then
    (libusbErrorInvalidParam, receiver)
  else
    let antenna := receiver.sendRxCommand .setTxAnt
    if antenna.1 ≠ 0 then antenna
    else
      match antenna.2.frequencyHz with
      | none => antenna.2.enableAmplifier
      | some frequency =>
        match paFilterRequestForFrequency frequency.1 with
        | none => (libusbErrorInvalidParam, antenna.2)
        | some (filter, request) =>
          let sent := antenna.2.sendRxCommand request
          if sent.1 ≠ 0 then sent
          else
            { sent.2 with paFilter := some filter }.enableAmplifier

/-! ## Keying -/

/-- A call as a step of a start: what it returns says whether it failed. -/
def attempt (call : UsbRx → Int × UsbRx) : Attempt UsbRx := fun receiver =>
  ((call receiver).1 == 0, (call receiver).2)

/-- The PA filter is selected, and known once that is acknowledged. -/
def selectPaFilter (filter : ℕ) : Attempt UsbRx := fun receiver =>
  let sent := attempt (sendRxCommand (.setPaFilter filter)) receiver
  (sent.1, if sent.1 then { sent.2 with paFilter := some filter } else sent.2)

/-- The transition is muted, which counts as attempted from then on. -/
def muteTransition : Attempt UsbRx := fun receiver =>
  attempt (sendRxCommand (.transitionMute true))
    { receiver with tuneTransitionAttempted := true }

/-- The transmit frequency is tuned, which counts as attempted from then
on. -/
def tuneTransmitter (word : ℕ) : Attempt UsbRx := fun receiver =>
  attempt (sendRxCommand (.setRx1FreqTw word))
    { receiver with tuneFrequencyAttempted := true }

/-- The transmitter is keyed, which counts as attempted from then on and as
done once it is acknowledged. -/
def keyTransmitter : Attempt UsbRx := fun receiver =>
  let sent := attempt (sendRxCommand (.setTr true))
    { receiver with tuneKeyAttempted := true }
  (sent.1, if sent.1 then { sent.2 with tuneKeyed := true } else sent.2)

/-- The transition is over, and the transmission active. -/
def unmuteTransition : Attempt UsbRx := fun receiver =>
  let sent := attempt (sendRxCommand (.transitionMute false)) receiver
  (sent.1,
    if sent.1 then
      { sent.2 with tuneTransitionAttempted := false, tuneActive := true }
    else sent.2)

/-- A fault injected at a stage. -/
def passFaultStage (stage : TxFaultStage) : Attempt UsbRx := fun receiver =>
  (receiver.txFaultStage != stage, receiver)

/-- The microphone is captured, or not. -/
def captureMicrophone (capture : Bool) : Attempt UsbRx := fun receiver =>
  (true, { receiver with microphoneCaptureEnabled := capture })

/-- Steps that end a start once they all succeed, and a cleanup and an error
otherwise. -/
def startWith (steps : List (Attempt UsbRx)) (receiver : UsbRx) :
    Int × UsbRx :=
  let started := Attempt.all steps { receiver with tunePrepared := true }
  if started.1 = true then (0, started.2)
  else (libusbErrorIo, started.2.tuneCarrierStop.2)

/-- `TUNE_TONE_HZ`. -/
def tuneToneHz : ℕ := 600

/-- `FLEX1500_TX_AM_IF_HZ`. -/
def txAmIfHz : ℕ := 11025

/-- The steps both starts begin with: the filter and the amplifier, then the
stream and its pre-roll. -/
def preparingSteps (filter : ℕ) (microphone : Bool) : List (Attempt UsbRx) :=
  [selectPaFilter filter, attempt (sendRxCommand (.setAmpTx1 true)),
    attempt (startTxStream microphone), attempt (serviceTxStream 250)]

/-- The steps of `flex1500_usb_rx_tune_carrier_start`. -/
def tuneCarrierSteps (filter word : ℕ) : List (Attempt UsbRx) :=
  preparingSteps filter false
    ++ [passFaultStage .afterStream, muteTransition, tuneTransmitter word,
      keyTransmitter, passFaultStage .afterKey, attempt (serviceTxStream 200),
      unmuteTransition]

/-- What both starts check first, with the offset of the emission: the
filter and the tuning word it needs. -/
def txPolicy (offsetHz : ℕ) (receiver : UsbRx) : Option (ℕ × ℕ) :=
  if !receiver.running || !receiver.handle || !receiver.transmitPrepared then
    none
  else
    receiver.frequencyHz.bind fun frequency =>
      if receiver.tuneActive then none
      else
        (paFilterForFrequency frequency.1).bind fun filter =>
          (usbTuneFrequencyToTuningWord frequency.1 offsetHz).map (filter, ·)

/-- `flex1500_usb_rx_tune_carrier_start`. -/
def tuneCarrierStart (receiver : UsbRx) : Int × UsbRx :=
  match receiver.txPolicy tuneToneHz with
  | none => (libusbErrorInvalidParam, receiver)
  | some (filter, word) => receiver.startWith (tuneCarrierSteps filter word)

/-- What an audio transmission is started with, but for its samples. -/
structure AudioTx where
  mode : TxMode
  drivePercent : ℕ
  microphoneGainDb : ℕ
  compressorEnabled : Bool
  capturePhysical : Bool
  rawIq : Bool
  translateRawIq : Bool
  deriving DecidableEq, Repr

/-- How far an audio transmission is tuned below its frequency. -/
def AudioTx.offsetHz (audio : AudioTx) : ℕ :=
  if audio.mode = .am ∨ audio.translateRawIq = true then txAmIfHz else 0

/-- The steps of `audio_tx_start`. -/
def audioTxSteps (filter word : ℕ) (capturePhysical : Bool) :
    List (Attempt UsbRx) :=
  preparingSteps filter true
    ++ [muteTransition, tuneTransmitter word, keyTransmitter,
      captureMicrophone capturePhysical, attempt (serviceTxStream 200),
      unmuteTransition]

/-- What `audio_tx_start` checks first: the filter, the tuning word and a
fresh sample queue. -/
def audioTxPolicy (audio : AudioTx) (receiver : UsbRx) :
    Option ((ℕ × ℕ) × TxAudioStream) :=
  if receiver.tuneStreaming then none
  else
    (receiver.txPolicy audio.offsetHz).bind fun needed =>
      (TxAudioStream.init audio.mode audio.drivePercent
          audio.microphoneGainDb).map fun stream =>
        (needed,
          { stream with
            compressorEnabled := audio.compressorEnabled
            rawIq := audio.rawIq
            translateRawIq := audio.translateRawIq })

/-- The sample queue with the pre-roll in it, if it takes it. -/
def prebuffered (rawIq : Bool) (bytes : ℕ) (stream : TxAudioStream) :
    Bool × TxAudioStream :=
  if bytes = 0 then (true, stream)
  else
    let pushed :=
      if rawIq then stream.pushIq16le bytes else stream.pushPcm16le bytes
    (pushed.1 != 0, pushed.2)

/-- `audio_tx_start`, with so many bytes of pre-roll. -/
def audioTxStart (audio : AudioTx) (bytes : ℕ) (receiver : UsbRx) :
    Int × UsbRx :=
  match receiver.audioTxPolicy audio with
  | none => (libusbErrorInvalidParam, receiver)
  | some ((filter, word), stream) =>
    let filled := prebuffered audio.rawIq bytes stream
    let receiver := { receiver with microphoneStream := filled.2 }
    if filled.1 = false then (libusbErrorInvalidParam, receiver)
    else receiver.startWith (audioTxSteps filter word audio.capturePhysical)

/-- `flex1500_usb_rx_microphone_tx_start`. -/
def microphoneTxStart (mode : TxMode) (drivePercent microphoneGainDb : ℕ)
    (compressorEnabled : Bool) (receiver : UsbRx) : Int × UsbRx :=
  receiver.audioTxStart
    { mode := mode, drivePercent := drivePercent
      microphoneGainDb := microphoneGainDb
      compressorEnabled := compressorEnabled, capturePhysical := true
      rawIq := false, translateRawIq := false } 0

/-- `flex1500_usb_rx_network_tx_start`. -/
def networkTxStart (mode : TxMode) (drivePercent : ℕ)
    (rawIq translateRawIq : Bool) (bytes : ℕ) (receiver : UsbRx) :
    Int × UsbRx :=
  receiver.audioTxStart
    { mode := mode, drivePercent := drivePercent, microphoneGainDb := 0
      compressorEnabled := false, capturePhysical := false
      rawIq := rawIq, translateRawIq := translateRawIq } bytes

/-- Whether the network may feed the sample queue. -/
def takesNetwork (rawIq : Bool) (receiver : UsbRx) : Bool :=
  receiver.microphoneStreaming && receiver.txAcceptingAudio
    && !receiver.microphoneCaptureEnabled
    && receiver.microphoneStream.rawIq == rawIq

/-- `flex1500_usb_rx_network_tx_push`. -/
def networkTxPush (bytes : ℕ) (rawIq : Bool) (receiver : UsbRx) :
    ℕ × UsbRx :=
  if !receiver.takesNetwork rawIq then (0, receiver)
  else
    let pushed :=
      if rawIq then receiver.microphoneStream.pushIq16le bytes
      else receiver.microphoneStream.pushPcm16le bytes
    (pushed.1, { receiver with microphoneStream := pushed.2 })

/-- `flex1500_usb_rx_network_tx_available`. -/
def networkTxAvailable (rawIq : Bool) (receiver : UsbRx) : ℕ :=
  if !receiver.takesNetwork rawIq then 0
  else receiver.microphoneStream.available

/-! ## Receiving -/

/-- The receiver tuned to a frequency, its filter still to be selected. -/
def tunedTo (frequency : Frequency) (receiver : UsbRx) : UsbRx :=
  { receiver with
    frequencyHz := some frequency, rxFilter := none }.log (.tuned frequency.1)

/-- The end of `flex1500_usb_rx_tune`: in preparation, the PA filter follows
the frequency. -/
def followPaFilter (paRequest : Option (ℕ × RadioCommand))
    (receiver : UsbRx) : Int × UsbRx :=
  match paRequest with
  | none => (0, receiver)
  | some (paFilter, request) =>
    if !receiver.transmitPrepared then (0, receiver)
    else
      let sent := receiver.sendRxCommand request
      (sent.1,
        { sent.2 with paFilter := if sent.1 = 0 then some paFilter else none })

/-- `flex1500_usb_rx_tune`. -/
def tune (frequencyHz : ℕ) (receiver : UsbRx) : Int × UsbRx :=
  if !receiver.running || !receiver.handle || receiver.tuneActive
      || receiver.tuneKeyed then (libusbErrorInvalidParam, receiver)
  else if h : inRange frequencyHz then
    let frequency : Frequency := ⟨frequencyHz, h⟩
    match rxFilterRequestForFrequency frequencyHz with
    | none => (libusbErrorInvalidParam, receiver)
    | some (filter, filterRequest) =>
      let paRequest := paFilterRequestForFrequency frequencyHz
      if receiver.transmitPrepared && paRequest.isNone then
        (libusbErrorInvalidParam, receiver)
      else
        let tuned := receiver.sendRxCommand frequency.rxTuneRequest
        if tuned.1 ≠ 0 then tuned
        else
          let filtered := (tuned.2.tunedTo frequency).sendRxCommand filterRequest
          if filtered.1 ≠ 0 then filtered
          else
            { filtered.2 with rxFilter := some filter }.followPaFilter paRequest
  else (libusbErrorInvalidParam, receiver)

/-- `flex1500_usb_rx_set_gain`. -/
def setGain (gainDb : Int) (receiver : UsbRx) : Int × UsbRx :=
  if !receiver.running || !receiver.handle || receiver.tuneActive
      || receiver.tuneKeyed || decide (gainDb < -10)
      || decide (30 < gainDb) || decide (gainDb % 10 ≠ 0) then
    (libusbErrorInvalidParam, receiver)
  else
    match buildRxGainRequest ((gainDb + 10) / 10).toNat with
    | none => (libusbErrorInvalidParam, receiver)
    | some request =>
      let sent := receiver.sendRxCommand request
      (sent.1,
        if sent.1 = 0 then { sent.2 with gainDb := some gainDb } else sent.2)

/-! ## Opening and closing -/

/-- The drain loop of `flex1500_usb_rx_stop`. -/
def drainAll : List EventRound → UsbRx → UsbRx
  | [], receiver => receiver
  | round :: rest, receiver =>
    if receiver.context && decide (0 < receiver.activeTransfers) then
      let receiver := receiver.handleEvents round
      if round.result ≠ 0 ∧ round.result ≠ libusbErrorInterrupted then receiver
      else drainAll rest receiver
    else receiver

/-- What `flex1500_usb_rx_stop` clears at its end. -/
def closed (receiver : UsbRx) : UsbRx :=
  { receiver with
    slots := fun _ => {}
    tuneSlots := fun _ => {}
    statusAllocated := false
    interfaceClaimed := false
    handle := false
    context := false
    activeTransfers := 0
    activeTuneTransfers := 0
    stopping := false
    frequencyHz := none
    rxFilter := none
    physicalInputs := none
    transmitPrepared := false
    ampEnableAttempted := false
    paFilter := none
    tuneKeyAttempted := false
    tuneTransitionAttempted := false
    tuneFrequencyAttempted := false
    consecutiveTransferFailures := 0 }.log .closed

/-- The part of `flex1500_usb_rx_stop` that takes the radio out of
transmission. -/
def stopTransmitting (receiver : UsbRx) : UsbRx :=
  let cleanup := txCleanupPlan receiver.txPartialState
  let receiver :=
    if receiver.tunePrepared || cleanup .unkey || cleanup .restoreRxFrequency
        || cleanup .stopStream
    then receiver.tuneCarrierStop.2 else receiver
  if receiver.transmitPrepared || receiver.ampEnableAttempted
      || receiver.paFilter.isSome
  then receiver.disableTransmitPreparation.2 else receiver

/-- The part of `flex1500_usb_rx_stop` that cancels the receive transfers. -/
def cancelled (receiver : UsbRx) : UsbRx :=
  let asked := { receiver with stopping := true, running := false }.ask
  drainAll asked.1.rounds asked.2

/-- `flex1500_usb_rx_stop`. -/
def stop (receiver : UsbRx) : UsbRx :=
  receiver.stopTransmitting.cancelled.closed

/-- The loop of `flex1500_usb_rx_start` that allocates and submits the
receive transfers. -/
def startSlots : List (Fin rxTransferCount) → UsbRx → Int × UsbRx
  | [], receiver => (0, receiver)
  | slot :: rest, receiver =>
    let answer := receiver.ask.1
    let receiver :=
      receiver.ask.2.withSlot slot ({ · with allocated := true })
    if !answer.granted then (libusbErrorNoMem, receiver.stop)
    else
      let receiver := receiver.submitSlot slot answer.result
      if answer.result ≠ 0 then (answer.result, receiver.stop)
      else startSlots rest receiver

/-- The part of `flex1500_usb_rx_start` after the interface is claimed. -/
def startClaimed (receiver : UsbRx) : Int × UsbRx :=
  let initialized := receiver.sendRxCommand .initializeRadio
  if initialized.1 ≠ 0 then (initialized.1, initialized.2.stop)
  else
    let status := { initialized.2 with running := true }.ask
    if !status.1.granted then (libusbErrorNoMem, status.2.stop)
    else
      let submitted := submitStatus status.1.result
        { status.2 with statusAllocated := true }
      if status.1.result ≠ 0 then (status.1.result, submitted.stop)
      else startSlots (List.finRange rxTransferCount) submitted

/-- What `flex1500_usb_rx_start` clears at its beginning. -/
def opening (receiver : UsbRx) : UsbRx :=
  { receiver with
    frequencyHz := none, rxFilter := none, physicalInputs := none
    stopping := false }.log .opened

/-- `flex1500_usb_rx_start`. -/
def start (receiver : UsbRx) : Int × UsbRx :=
  if receiver.running || receiver.context then
    (libusbErrorInvalidParam, receiver)
  else
    let library := receiver.opening.ask
    if library.1.result ≠ 0 then (library.1.result, library.2.stop)
    else
      let device := { library.2 with context := true }.ask
      if !device.1.granted then (libusbErrorNoDevice, device.2.stop)
      else
        let driver := { device.2 with handle := true }.ask
        if driver.1.result ≠ 0 then
          (if driver.1.result = 1 then libusbErrorBusy else driver.1.result,
            driver.2.stop)
        else
          let claim := driver.2.ask
          if claim.1.result ≠ 0 then (claim.1.result, claim.2.stop)
          else startClaimed { claim.2 with interfaceClaimed := true }

end UsbRx
