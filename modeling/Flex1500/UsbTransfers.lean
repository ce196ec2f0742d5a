import Flex1500.UsbRuns
import Flex1500.Lib.Requests

/-!
# The transfers of the receiver

The receiver hands libusb eight transfers for samples to be received, one for
the status of the radio and, while it transmits, eight for samples to be
sent. This module says what every call of `usb_rx.c` does with them, as the
events of asynchronous requests: in front of each function of the receiver
stands the name of the source, and behind it, as `…Transfers`, the events of
the same function, branch for branch. The states in between are the ones the
function itself goes through.

The books are recorded whenever a callback has returned, a transfer has been
submitted, or transfers have been freed. A transfer whose memory was had in
part only counts as allocated, and as not granted. A loop that waits for
transfers is given up – `abandon` – where event handling fails; rounds that
run out are event handling that fails.
-/

/-- A transfer: the one of a slot in `slots` or `tune_slots`, or
`status_transfer`. -/
inductive UsbTransfer where
  | rx (slot : Fin rxTransferCount)
  | status
  | tune (slot : Fin tuneTransferCount)
  deriving DecidableEq, Repr

/-- What counts a transfer: `active_transfers` or `active_tune_transfers`. -/
inductive TransferKind where
  | receive | transmit
  deriving DecidableEq, Repr

open RequestGroups (members group)

instance : RequestGroups UsbTransfer TransferKind where
  group
    | .rx _ | .status => .receive
    | .tune _ => .transmit
  members
    | .receive => (List.finRange rxTransferCount).map .rx ++ [.status]
    | .transmit => (List.finRange tuneTransferCount).map .tune
  nodup_members kind := by cases kind <;> decide
  mem_members {kind transfer} := by
    cases kind <;> cases transfer <;> simp

instance (books : RequestBooks TransferKind) : Decidable books.Balanced :=
  decidable_of_iff (books.active .receive = books.marked .receive
      ∧ books.active .transmit = books.marked .transmit)
    ⟨fun h kind => by cases kind; exacts [h.1, h.2],
      fun h => ⟨h .receive, h .transmit⟩⟩

/-- What happens to a transfer. -/
abbrev TransferEvent := RequestEvent UsbTransfer TransferKind

/-- The transfer that completed. -/
def Completion.transfer : Completion → UsbTransfer
  | .rx slot .. => .rx slot
  | .status .. => .status
  | .tune slot .. => .tune slot

/-- What submitting it again answers. -/
def Completion.resubmit : Completion → Int
  | .rx _ _ _ resubmit | .status _ _ resubmit | .tune _ _ _ _ resubmit =>
    resubmit

namespace UsbRx

/-! ## The books -/

/-- The transfers held: those of allocated slots. -/
def held (receiver : UsbRx) : UsbTransfer → Bool
  | .rx slot => (receiver.slots slot).allocated
  | .status => receiver.statusAllocated
  | .tune slot => (receiver.tuneSlots slot).allocated

/-- The transfers marked as submitted. -/
def marked (receiver : UsbRx) : UsbTransfer → Bool
  | .rx slot => (receiver.slots slot).submitted
  | .status => receiver.statusSubmitted
  | .tune slot => (receiver.tuneSlots slot).submitted

/-- The counters. -/
def active (receiver : UsbRx) : TransferKind → ℕ
  | .receive => receiver.activeTransfers
  | .transmit => receiver.activeTuneTransfers

/-- **The books of the receiver**: `active_transfers` beside the receive
slots marked submitted and one for the status transfer, and
`active_tune_transfers` beside the transmit slots marked submitted. -/
def books (receiver : UsbRx) : RequestBooks TransferKind where
  active := receiver.active
  marked
    | .receive =>
      (List.finRange rxTransferCount).countP
          (fun slot => (receiver.slots slot).submitted)
        + if receiver.statusSubmitted then 1 else 0
    | .transmit =>
      (List.finRange tuneTransferCount).countP
        fun slot => (receiver.tuneSlots slot).submitted

/-- What the receiver keeps of its transfers. -/
def transferTable (receiver : UsbRx) :
    RequestTable UsbTransfer TransferKind where
  held := receiver.held
  marked := receiver.marked
  active := receiver.active

/-! ## Event handling -/

/-- The first lines of a callback: the mark is taken back, and the transfer no
longer counted. -/
def returned (receiver : UsbRx) : Completion → UsbRx
  | .rx slot .. =>
    { receiver.withSlot slot ({ · with submitted := false }) with
      activeTransfers := receiver.activeTransfers - 1 }
  | .status .. =>
    { receiver with
      statusSubmitted := false
      activeTransfers := receiver.activeTransfers - 1 }
  | .tune slot .. =>
    { receiver.withTuneSlot slot
        ({ · with submitted := false, audioFrames := 0 }) with
      activeTuneTransfers := receiver.activeTuneTransfers - 1 }

/-- A callback up to where it would submit its transfer again. -/
def completed (receiver : UsbRx) (completion : Completion) : UsbRx :=
  let receiver := receiver.returned completion
  match completion with
  | .rx _ .completed packets _ =>
    packets.foldl (fun r length => r.processPacket length)
      { receiver with consecutiveTransferFailures := 0 }
  | .rx _ .cancelled .. => receiver
  | .rx _ .noDevice .. | .rx _ .failed .. =>
    let failures := receiver.consecutiveTransferFailures + 1
    { receiver with
      consecutiveTransferFailures := failures
      running := receiver.running && decide (failures < rxTransferCount) }
  | .status .completed packet _ =>
    match decodePhysicalInputs packet with
    | some inputs => { receiver with physicalInputs := some inputs }
    | none => receiver
  | .status .noDevice .. => { receiver with running := false }
  | .status .cancelled .. | .status .failed .. => receiver
  | .tune _ .completed .. | .tune _ .cancelled .. => receiver
  | .tune _ .noDevice .. | .tune _ .failed .. =>
    { receiver with tuneStreaming := false, running := false }

/-- Whether a callback submits its transfer again, once it came that far. -/
def resubmits (receiver : UsbRx) : Completion → Bool
  | .rx .. | .status .. => !receiver.stopping && receiver.running
  | .tune .. => receiver.tuneStreaming && receiver.running

/-- The end of a callback that submits its transfer again. -/
def resubmitted (receiver : UsbRx) : Completion → UsbRx
  | .rx slot _ _ resubmit => receiver.submitSlot slot resubmit
  | .status _ _ resubmit => receiver.submitStatus resubmit
  | .tune slot _ clipped limited resubmit =>
    let rendered := receiver.renderTransfer clipped limited
    rendered.resubmitTune slot
      (receiver.microphoneStream.count - rendered.microphoneStream.count)
      resubmit

/-- A callback is these parts. -/
theorem complete_eq (receiver : UsbRx) (completion : Completion) :
    receiver.complete completion
      = if (receiver.completed completion).resubmits completion then
          (receiver.completed completion).resubmitted completion
        else receiver.completed completion := by
  cases completion with
  | rx slot status => cases status <;> rfl
  | status status => cases status <;> rfl
  | tune slot status => cases status <;> rfl

/-- `rx_complete`, `status_complete` and `tune_complete`. -/
def completeTransfers (receiver : UsbRx) (completion : Completion) :
    List TransferEvent :=
  (if (receiver.completed completion).resubmits completion then
      [.callback completion.transfer,
        .submit completion.transfer (completion.resubmit == 0)]
    else [.callback completion.transfer])
  ++ [.record (receiver.complete completion).books]

/-- The callbacks of a round of event handling. -/
def handleEventsTransfers (round : EventRound) (receiver : UsbRx) :
    List TransferEvent :=
  Run.writes complete completeTransfers receiver round.completions

/-- `flex1500_usb_rx_pump`. -/
def pumpTransfers (receiver : UsbRx) : List TransferEvent :=
  if !receiver.running || !receiver.context then []
  else
    receiver.ask.2.handleEventsTransfers (receiver.ask.1.rounds.headD {})

/-- The loop of `service_usb_for`. -/
def serviceRoundsTransfers : List EventRound → UsbRx → List TransferEvent
  | [], _ => []
  | round :: rest, receiver =>
    let handled := receiver.handleEvents round
    receiver.handleEventsTransfers round ++
      if round.result ≠ 0 ∧ round.result ≠ libusbErrorInterrupted then []
      else if !handled.tuneStreaming || !handled.running then []
      else serviceRoundsTransfers rest handled

/-- `service_usb_for`. -/
def serviceTxStreamTransfers (receiver : UsbRx) : List TransferEvent :=
  serviceRoundsTransfers receiver.ask.1.rounds receiver.ask.2

/-- The condition of a drain loop. -/
def waits (kind : TransferKind) (receiver : UsbRx) : Bool :=
  receiver.context && decide (0 < receiver.active kind)

/-- The drain loops: of `release_tune_stream` for what is transmitted, and of
`flex1500_usb_rx_stop` for what is received. -/
def drainTransfers (kind : TransferKind) :
    List EventRound → UsbRx → List TransferEvent
  | [], receiver => if receiver.waits kind then [.abandon kind] else []
  | round :: rest, receiver =>
    if receiver.waits kind then
      receiver.handleEventsTransfers round ++
        if round.result ≠ 0 ∧ round.result ≠ libusbErrorInterrupted then
          [.abandon kind]
        else drainTransfers kind rest (receiver.handleEvents round)
    else []

/-! ## The transmit stream -/

/-- `release_tune_stream`. -/
def releaseTuneStreamTransfers (receiver : UsbRx) : List TransferEvent :=
  let asked := { receiver with tuneStreaming := false }.ask
  let drained := drainTune asked.1.rounds asked.2
  ((members .transmit).filter receiver.marked).map .cancel
    ++ (drainTransfers .transmit asked.1.rounds asked.2
      ++ ((members .transmit).filter drained.held).map .free
      ++ [.record receiver.releaseTuneStream.books])

/-- The loop of `start_tune_stream`. -/
def submitTuneSlotsTransfers :
    List (Fin tuneTransferCount) → UsbRx → List TransferEvent
  | [], _ => []
  | slot :: rest, receiver =>
    let answer := receiver.ask.1
    let receiver :=
      receiver.ask.2.withTuneSlot slot ({ · with allocated := true })
    if !answer.granted then
      .allocate (.tune slot) false :: receiver.releaseTuneStreamTransfers
    else if answer.result ≠ 0 then
      [.allocate (.tune slot) true, .submit (.tune slot) false]
        ++ receiver.releaseTuneStreamTransfers
    else
      let submitted :=
        { receiver.withTuneSlot slot ({ · with submitted := true }) with
          activeTuneTransfers := receiver.activeTuneTransfers + 1 }
      [.allocate (.tune slot) true, .submit (.tune slot) true]
        ++ .record submitted.books :: submitTuneSlotsTransfers rest submitted

/-- `start_tune_stream`. -/
def startTxStreamTransfers (microphone : Bool) (receiver : UsbRx) :
    List TransferEvent :=
  submitTuneSlotsTransfers (List.finRange tuneTransferCount)
    { receiver with
      tuneStreaming := true
      microphoneStreaming := microphone
      txAcceptingAudio := microphone }

/-! ## Cleanup -/

/-- `execute_usb_cleanup_action`. -/
def executeUsbCleanupActionTransfers (receiver : UsbRx) :
    TxCleanupAction → List TransferEvent
  | .restoreRxFrequency =>
    match receiver.frequencyHz with
    | none => []
    | some frequency =>
      let sent := receiver.sendRxCommand frequency.rxTuneRequest
      if sent.1 = 0 ∧ sent.2.tuneStreaming = true ∧ sent.2.running = true then
        sent.2.serviceTxStreamTransfers
      else []
  | .stopStream => receiver.releaseTuneStreamTransfers
  | .transitionMute | .unkey | .transitionUnmute | .resetPaFilter
  | .disableAmplifier => []

/-- `flex1500_tx_execute_cleanup` with that. -/
def txExecuteCleanupTransfers (plan : TxCleanupPlan)
    (preservePaPreparation : Bool) (receiver : UsbRx) : List TransferEvent :=
  Run.writes
    (fun r action => (executeUsbCleanupAction preservePaPreparation action r).2)
    executeUsbCleanupActionTransfers receiver (txCleanupOrder.filter plan)

/-- `flex1500_usb_rx_tune_carrier_stop`. -/
def tuneCarrierStopTransfers (receiver : UsbRx) : List TransferEvent :=
  if !receiver.handle then []
  else if !receiver.tunePrepared && !receiver.tuneActive
      && !receiver.tuneKeyed && !receiver.tuneKeyAttempted
      && !receiver.txStreamPresent && !receiver.tuneTransitionAttempted
      && !receiver.tuneFrequencyAttempted then []
  else
    let plan := txCleanupPlan receiver.txPartialState
    let stopped := (txExecuteCleanup plan
      (executeUsbCleanupAction receiver.transmitPrepared) receiver).2.unkeyed
    txExecuteCleanupTransfers plan receiver.transmitPrepared receiver
      ++ if stopped.txStreamPresent then stopped.releaseTuneStreamTransfers
        else []

/-- The drain loop of `flex1500_usb_rx_microphone_tx_stop_graceful`. -/
def drainGracefullyTransfers : List EventRound → UsbRx → List TransferEvent
  | [], _ => []
  | round :: rest, receiver =>
    if receiver.txPendingFrames = 0 then []
    else
      let handled := receiver.handleEvents round
      receiver.handleEventsTransfers round ++
        if round.result ≠ 0 ∧ round.result ≠ libusbErrorInterrupted then []
        else if !handled.tuneStreaming || !handled.running then []
        else drainGracefullyTransfers rest handled

/-- `flex1500_usb_rx_microphone_tx_stop_graceful` up to its drain loop. -/
def beginGracefulStop (receiver : UsbRx) : UsbAnswer × UsbRx :=
  let receiver :=
    { receiver with
      txAcceptingAudio := false
      microphoneStream := receiver.microphoneStream.beginGracefulStop }
  (receiver.tallied fun stats =>
    { stats with
      stopRequestedFrames :=
        stats.stopRequestedFrames
          + UInt64.ofNat receiver.txPendingFrames }).ask

/-- And from there up to the carrier stop. -/
def drainedGracefully (receiver : UsbRx) : UsbRx :=
  let requested :=
    { receiver with
      txAcceptingAudio := false
      microphoneStream :=
        receiver.microphoneStream.beginGracefulStop }.txPendingFrames
  let asked := receiver.beginGracefulStop
  let receiver := drainGracefully asked.1.rounds asked.2
  let discarded := receiver.txPendingFrames
  receiver.tallied fun stats =>
    { stats with
      gracefulDrainedFrames :=
        stats.gracefulDrainedFrames + UInt64.ofNat (requested - discarded)
      gracefulDiscardedFrames :=
        stats.gracefulDiscardedFrames + UInt64.ofNat discarded
      gracefulDrainMs :=
        stats.gracefulDrainMs + UInt64.ofNat asked.1.elapsedMs }

/-- The graceful stop is these parts and the carrier stop. -/
theorem microphoneTxStopGraceful_eq (receiver : UsbRx) :
    receiver.microphoneTxStopGraceful
      = if !receiver.handle then (libusbErrorInvalidParam, receiver)
        else receiver.drainedGracefully.tuneCarrierStop := rfl

/-- `flex1500_usb_rx_microphone_tx_stop_graceful`. -/
def microphoneTxStopGracefulTransfers (receiver : UsbRx) :
    List TransferEvent :=
  if !receiver.handle then []
  else
    let asked := receiver.beginGracefulStop
    drainGracefullyTransfers asked.1.rounds asked.2
      ++ receiver.drainedGracefully.tuneCarrierStopTransfers

/-- The end of `flex1500_usb_rx_disable_transmit_preparation`. -/
def unprepareTransfers (receiver : UsbRx) : List TransferEvent :=
  let cleanup := txCleanupPlan receiver.txPartialState
  if !cleanup .resetPaFilter && !cleanup .disableAmplifier then []
  else
    txExecuteCleanupTransfers
      (fun action =>
        cleanup action
          && (action == .resetPaFilter || action == .disableAmplifier))
      false receiver

/-- `flex1500_usb_rx_disable_transmit_preparation`. -/
def disableTransmitPreparationTransfers (receiver : UsbRx) :
    List TransferEvent :=
  if !receiver.handle then []
  else
    let cleanup := txCleanupPlan receiver.txPartialState
    if cleanup .unkey || cleanup .restoreRxFrequency || cleanup .stopStream
    then
      receiver.tuneCarrierStopTransfers
        ++ receiver.tuneCarrierStop.2.unprepareTransfers
    else receiver.unprepareTransfers

/-! ## Keying -/

/-- A step of a start beside what it does with the transfers. -/
abbrev TransferStep := Attempt UsbRx × (UsbRx → List TransferEvent)

/-- The steps of a start of the transmitter, with those from the stream to
the key given: only the stream and its service do anything with the
transfers. -/
def transferSteps (filter : ℕ) (microphone : Bool)
    (keying : List (Attempt UsbRx)) : List TransferStep :=
  (selectPaFilter filter, fun _ => [])
    :: (attempt (sendRxCommand (.setAmpTx1 true)), fun _ => [])
    :: (attempt (startTxStream microphone), startTxStreamTransfers microphone)
    :: (attempt (serviceTxStream 250), serviceTxStreamTransfers)
    :: (keying.map (·, fun _ => [])
      ++ [(attempt (serviceTxStream 200), serviceTxStreamTransfers),
        (unmuteTransition, fun _ => [])])

/-- The steps of `flex1500_usb_rx_tune_carrier_start`. -/
def tuneCarrierTransferSteps (filter word : ℕ) : List TransferStep :=
  transferSteps filter false
    [passFaultStage .afterStream, muteTransition, tuneTransmitter word,
      keyTransmitter, passFaultStage .afterKey]

/-- The steps of `audio_tx_start`. -/
def audioTxTransferSteps (filter word : ℕ) (capturePhysical : Bool) :
    List TransferStep :=
  transferSteps filter true
    [muteTransition, tuneTransmitter word, keyTransmitter,
      captureMicrophone capturePhysical]

/-- The end of both starts: the cleanup where a step fails. -/
def startWithTransfers (steps : List TransferStep) (receiver : UsbRx) :
    List TransferEvent :=
  let prepared := { receiver with tunePrepared := true }
  let started := Attempt.all (steps.map Prod.fst) prepared
  Attempt.writes steps prepared
    ++ if started.1 = true then [] else started.2.tuneCarrierStopTransfers

/-- `flex1500_usb_rx_tune_carrier_start`. -/
def tuneCarrierStartTransfers (receiver : UsbRx) : List TransferEvent :=
  match receiver.txPolicy tuneToneHz with
  | none => []
  | some (filter, word) =>
    receiver.startWithTransfers (tuneCarrierTransferSteps filter word)

/-- `audio_tx_start`. -/
def audioTxStartTransfers (audio : AudioTx) (bytes : ℕ) (receiver : UsbRx) :
    List TransferEvent :=
  match receiver.audioTxPolicy audio with
  | none => []
  | some ((filter, word), stream) =>
    let filled := prebuffered audio.rawIq bytes stream
    if filled.1 = false then []
    else
      { receiver with microphoneStream := filled.2 }.startWithTransfers
        (audioTxTransferSteps filter word audio.capturePhysical)

/-! ## Opening and closing -/

/-- The part of `flex1500_usb_rx_stop` that takes the radio out of
transmission. -/
def stopTransmittingTransfers (receiver : UsbRx) : List TransferEvent :=
  let cleanup := txCleanupPlan receiver.txPartialState
  let stops := receiver.tunePrepared || cleanup .unkey
    || cleanup .restoreRxFrequency || cleanup .stopStream
  let stopped := if stops then receiver.tuneCarrierStop.2 else receiver
  (if stops then receiver.tuneCarrierStopTransfers else [])
    ++ if stopped.transmitPrepared || stopped.ampEnableAttempted
        || stopped.paFilter.isSome
      then stopped.disableTransmitPreparationTransfers else []

/-- The part of `flex1500_usb_rx_stop` that cancels the receive transfers. -/
def cancelledTransfers (receiver : UsbRx) : List TransferEvent :=
  let asked := { receiver with stopping := true, running := false }.ask
  ((members .receive).filter receiver.marked).map .cancel
    ++ drainTransfers .receive asked.1.rounds asked.2

/-- `free_slots`. -/
def freedSlots (receiver : UsbRx) : List UsbTransfer :=
  ((List.finRange rxTransferCount).map UsbTransfer.rx
    ++ (List.finRange tuneTransferCount).map UsbTransfer.tune
    ++ [UsbTransfer.status]).filter receiver.held

/-- `flex1500_usb_rx_stop`. -/
def stopTransfers (receiver : UsbRx) : List TransferEvent :=
  let cancelled := receiver.stopTransmitting.cancelled
  receiver.stopTransmittingTransfers
    ++ (receiver.stopTransmitting.cancelledTransfers
      ++ cancelled.freedSlots.map .free
      ++ [.record cancelled.closed.books])

/-- The loop of `flex1500_usb_rx_start`. -/
def startSlotsTransfers :
    List (Fin rxTransferCount) → UsbRx → List TransferEvent
  | [], _ => []
  | slot :: rest, receiver =>
    let answer := receiver.ask.1
    let receiver :=
      receiver.ask.2.withSlot slot ({ · with allocated := true })
    if !answer.granted then
      .allocate (.rx slot) false :: receiver.stopTransfers
    else
      let submitted := receiver.submitSlot slot answer.result
      [.allocate (.rx slot) true, .submit (.rx slot) (answer.result == 0)]
        ++ .record submitted.books ::
          if answer.result ≠ 0 then submitted.stopTransfers
          else startSlotsTransfers rest submitted

/-- The part of `flex1500_usb_rx_start` after the interface is claimed. -/
def startClaimedTransfers (receiver : UsbRx) : List TransferEvent :=
  let initialized := receiver.sendRxCommand .initializeRadio
  if initialized.1 ≠ 0 then initialized.2.stopTransfers
  else
    let status := { initialized.2 with running := true }.ask
    if !status.1.granted then
      .allocate .status false :: status.2.stopTransfers
    else
      let submitted := submitStatus status.1.result
        { status.2 with statusAllocated := true }
      [.allocate .status true, .submit .status (status.1.result == 0)]
        ++ .record submitted.books ::
          if status.1.result ≠ 0 then submitted.stopTransfers
          else startSlotsTransfers (List.finRange rxTransferCount) submitted

/-- `flex1500_usb_rx_start`. -/
def startTransfers (receiver : UsbRx) : List TransferEvent :=
  if receiver.running || receiver.context then []
  else
    let library := receiver.opening.ask
    if library.1.result ≠ 0 then library.2.stopTransfers
    else
      let device := { library.2 with context := true }.ask
      if !device.1.granted then device.2.stopTransfers
      else
        let driver := { device.2 with handle := true }.ask
        if driver.1.result ≠ 0 then driver.2.stopTransfers
        else
          let claim := driver.2.ask
          if claim.1.result ≠ 0 then claim.2.stopTransfers
          else { claim.2 with interfaceClaimed := true }.startClaimedTransfers

/-! ## Runs -/

/-- One call. -/
def applyTransfers (receiver : UsbRx) : UsbOp → List TransferEvent
  | .start => receiver.startTransfers
  | .stop => receiver.stopTransfers
  | .pump => receiver.pumpTransfers
  | .disableTransmitPreparation =>
    receiver.disableTransmitPreparationTransfers
  | .tuneCarrierStart => receiver.tuneCarrierStartTransfers
  | .tuneCarrierStop | .microphoneTxStop => receiver.tuneCarrierStopTransfers
  | .microphoneTxStart mode drivePercent microphoneGainDb compressorEnabled =>
    receiver.audioTxStartTransfers
      { mode := mode, drivePercent := drivePercent
        microphoneGainDb := microphoneGainDb
        compressorEnabled := compressorEnabled, capturePhysical := true
        rawIq := false, translateRawIq := false } 0
  | .networkTxStart mode drivePercent rawIq translateRawIq bytes =>
    receiver.audioTxStartTransfers
      { mode := mode, drivePercent := drivePercent, microphoneGainDb := 0
        compressorEnabled := false, capturePhysical := false
        rawIq := rawIq, translateRawIq := translateRawIq } bytes
  | .microphoneTxStopGraceful => receiver.microphoneTxStopGracefulTransfers
  | .tune _ | .setGain _ | .enableTransmitPreparation | .networkTxPush ..
  | .setTxFaultStage _ => []

/-- Calls one after the other. -/
def runTransfers (ops : List UsbOp) (receiver : UsbRx) : List TransferEvent :=
  Run.writes (fun r op => (r.apply op).2) applyTransfers receiver ops

end UsbRx
