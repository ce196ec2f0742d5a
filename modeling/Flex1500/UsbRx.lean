import Mathlib.Logic.Function.Basic
import Mathlib.Data.List.FinRange
import Flex1500.TxAudioStream
import Flex1500.TxLifecycle
import Flex1500.Protocol
import Flex1500.Lib.Attempt

/-!
# The receiver

`usb_rx.c` runs the radio over USB: it receives samples and status packets,
sends commands, and streams to the transmitter. Everything it learns from
the outside comes from a call into libusb. The calls take their answers, one
after the other, from a **bus**, which may answer anything: a theorem about
every bus is one about every pattern of failures, short transfers and
completions.

This module has the receiver's state, the callbacks of its transfers and the
calls everything else is made of. A call that handles events may complete any
transfers on the way. The callbacks only ever touch the streams and the
switches, never the record of what the transmit path has been told, so that
record – `TxPath` – is a structure of its own and carries the trace of what
was sent.

Left out are the command index, the error texts, the counters and the ring
the received samples go to, which decide nothing here.
-/

/-! ## What libusb reports -/

/-- `LIBUSB_ERROR_IO`. -/
def libusbErrorIo : Int := -1

/-- `LIBUSB_ERROR_INVALID_PARAM`. -/
def libusbErrorInvalidParam : Int := -2

/-- `LIBUSB_ERROR_NO_DEVICE`. -/
def libusbErrorNoDevice : Int := -4

/-- `LIBUSB_ERROR_BUSY`. -/
def libusbErrorBusy : Int := -6

/-- `LIBUSB_ERROR_INTERRUPTED`. -/
def libusbErrorInterrupted : Int := -10

/-- `LIBUSB_ERROR_NO_MEM`. -/
def libusbErrorNoMem : Int := -11

/-- How a transfer ended, as far as the callbacks tell. -/
inductive TransferStatus where
  | completed | cancelled | noDevice | failed
  deriving DecidableEq, Repr

/-- `RX_TRANSFER_COUNT`. -/
def rxTransferCount : ℕ := 8

/-- `TUNE_TRANSFER_COUNT`. -/
def tuneTransferCount : ℕ := 8

/-- `FLEX1500_COMMAND_PACKET_SIZE`. -/
def commandPacketSize : ℕ := 20

/-- The frames of an audio transfer: `AUDIO_PACKETS_PER_TRANSFER` packets of
`FLEX1500_SAMPLE_PACKET_SIZE` bytes. -/
def audioTransferFrames : ℕ := 10 * 192 / 4

/-- A transfer that completed, and what submitting it again answers. A
receive transfer reports the lengths of the packets that arrived, a status
transfer its packet, and a transmit transfer what rendering its samples
clips and limits. -/
inductive Completion where
  | rx (slot : Fin rxTransferCount) (status : TransferStatus)
      (packets : List ℕ) (resubmit : Int)
  | status (status : TransferStatus) (packet : List UInt8) (resubmit : Int)
  | tune (slot : Fin tuneTransferCount) (status : TransferStatus)
      (clipped limited : ℕ) (resubmit : Int)
  deriving DecidableEq, Repr

/-- One round of event handling: the transfers it completed and what it
returned. -/
structure EventRound where
  completions : List Completion := []
  result : Int := 0
  deriving DecidableEq, Repr

/-- What a call into libusb answers: a result, the bytes transferred,
whether memory or a device was had, and the rounds of event handling, which
end when the time is up. -/
structure UsbAnswer where
  result : Int := 0
  transferred : ℕ := commandPacketSize
  granted : Bool := true
  rounds : List EventRound := []
  elapsedMs : ℕ := 0
  deriving DecidableEq, Repr

/-- The answers to all calls, and how many calls were made. -/
structure UsbBus where
  answers : ℕ → UsbAnswer
  calls : ℕ := 0

/-! ## What was sent -/

/-- An entry of the trace. A command counts when it is attempted. The last
five are not calls: they note where the receiver was opened and closed, that
transmit preparation was completed or undone, and what frequency it took
over. -/
inductive UsbEvent where
  | command (sent : RadioCommand) (acknowledged : Bool)
  | streamStart (started : Bool)
  | service (durationMs : ℕ) (served : Bool)
  | streamStop
  | opened | closed | prepared | unprepared
  | tuned (frequencyHz : ℕ)
  deriving DecidableEq, Repr

/-- The commands among events. -/
def UsbEvent.command? : UsbEvent → Option RadioCommand
  | .command sent _ => some sent
  | _ => none

/-- What a trace says of the radio: the last key command attempted and
whether it was acknowledged, whether transmission is prepared, and the
frequency. -/
structure RadioView where
  key : Option Bool := none
  keyAcknowledged : Bool := false
  prepared : Bool := false
  frequencyHz : Option ℕ := none
  deriving DecidableEq, Repr

/-- What one event changes. -/
def RadioView.step (view : RadioView) : UsbEvent → RadioView
  | .command (.setTr transmit) acknowledged =>
    { view with key := some transmit, keyAcknowledged := acknowledged }
  | .prepared => { view with prepared := true }
  | .unprepared => { view with prepared := false }
  | .tuned frequencyHz => { view with frequencyHz := some frequencyHz }
  | .opened => { view with frequencyHz := none }
  | .closed => { view with prepared := false, frequencyHz := none }
  | _ => view

/-- What a whole trace says. -/
def RadioView.after (trace : List UsbEvent) : RadioView :=
  trace.foldl RadioView.step {}

/-- The flags of a transmission. -/
structure TxFlags where
  tunePrepared : Bool := false
  tuneActive : Bool := false
  tuneKeyed : Bool := false
  tuneKeyAttempted : Bool := false
  tuneTransitionAttempted : Bool := false
  tuneFrequencyAttempted : Bool := false
  deriving DecidableEq, Repr

/-- The transmit path: what has been attempted, prepared and selected, and
the trace of it. -/
structure TxPath extends TxFlags where
  transmitPrepared : Bool := false
  ampEnableAttempted : Bool := false
  paFilter : Option ℕ := none
  frequencyHz : Option Frequency := none
  trace : List UsbEvent := []
  deriving DecidableEq, Repr

/-- Where a fault is injected (`flex1500_tx_fault_stage`). -/
inductive TxFaultStage where
  | none | afterStream | afterKey
  deriving DecidableEq, Repr

/-- A receive transfer (`rx_slot`), allocated with its buffer or not. -/
structure RxSlot where
  allocated : Bool := false
  submitted : Bool := false
  deriving DecidableEq, Repr

/-- A transmit transfer (`tune_slot`). -/
structure TuneSlot where
  allocated : Bool := false
  submitted : Bool := false
  audioFrames : ℕ := 0
  deriving DecidableEq, Repr

/-- The receiver (`flex1500_usb_rx`). A value the code keeps beside a flag
that says whether it is known is an option. -/
structure UsbRx extends TxPath where
  bus : UsbBus
  context : Bool := false
  handle : Bool := false
  interfaceClaimed : Bool := false
  running : Bool := false
  stopping : Bool := false
  slots : Fin rxTransferCount → RxSlot := fun _ => {}
  tuneSlots : Fin tuneTransferCount → TuneSlot := fun _ => {}
  statusAllocated : Bool := false
  statusSubmitted : Bool := false
  physicalInputs : Option PhysicalInputs := none
  activeTransfers : ℕ := 0
  activeTuneTransfers : ℕ := 0
  tuneStreaming : Bool := false
  microphoneStreaming : Bool := false
  microphoneCaptureEnabled : Bool := false
  txAcceptingAudio : Bool := false
  microphoneStream : TxAudioStream := {}
  txFaultStage : TxFaultStage := .none
  rxFilter : Option ℕ := none
  gainDb : Option Int := none
  consecutiveTransferFailures : ℕ := 0

namespace UsbRx

/-- `flex1500_usb_rx_create`. -/
def create (answers : ℕ → UsbAnswer) : UsbRx where
  bus := { answers := answers }

/-- A call into libusb: its answer, and the receiver once it was taken. -/
def ask (receiver : UsbRx) : UsbAnswer × UsbRx :=
  (receiver.bus.answers receiver.bus.calls,
    { receiver with
      bus := { receiver.bus with calls := receiver.bus.calls + 1 } })

/-- The receiver with an event traced. -/
def log (event : UsbEvent) (receiver : UsbRx) : UsbRx :=
  { receiver with trace := receiver.trace ++ [event] }

/-- The receiver with one of its receive transfers changed. -/
def withSlot (slot : Fin rxTransferCount) (f : RxSlot → RxSlot)
    (receiver : UsbRx) : UsbRx :=
  { receiver with
    slots := Function.update receiver.slots slot (f (receiver.slots slot)) }

/-- The receiver with one of its transmit transfers changed. -/
def withTuneSlot (slot : Fin tuneTransferCount) (f : TuneSlot → TuneSlot)
    (receiver : UsbRx) : UsbRx :=
  { receiver with
    tuneSlots :=
      Function.update receiver.tuneSlots slot (f (receiver.tuneSlots slot)) }

/-- `tx_stream_present`. -/
def txStreamPresent (receiver : UsbRx) : Bool :=
  receiver.tuneStreaming || decide (0 < receiver.activeTuneTransfers)
    || decide (∃ slot, (receiver.tuneSlots slot).allocated = true
        ∨ (receiver.tuneSlots slot).submitted = true)

/-- `tx_partial_state`. -/
def txPartialState (receiver : UsbRx) : TxPartialState where
  paSelected := receiver.paFilter.isSome
  ampEnableAttempted := receiver.ampEnableAttempted || receiver.transmitPrepared
  streamStarted := receiver.txStreamPresent
  transitionAttempted := receiver.tuneTransitionAttempted
  frequencyAttempted := receiver.tuneFrequencyAttempted
  keyAttempted :=
    receiver.tuneKeyAttempted || receiver.tuneKeyed || receiver.tuneActive

/-! ## Completions -/

/-- `process_packet`, for a packet of the given length: in transmission it
carries the microphone. -/
def processPacket (length : ℕ) (receiver : UsbRx) : UsbRx :=
  if receiver.microphoneStreaming && receiver.microphoneCaptureEnabled
      && receiver.txAcceptingAudio then
    { receiver with
      microphoneStream := (receiver.microphoneStream.pushIq16le length).2 }
  else receiver

/-- `submit_slot`, on what submitting answered. -/
def submitSlot (slot : Fin rxTransferCount) (result : Int)
    (receiver : UsbRx) : UsbRx :=
  if result ≠ 0 then { receiver with running := false }
  else
    { receiver.withSlot slot ({ · with submitted := true }) with
      activeTransfers := receiver.activeTransfers + 1 }

/-- `rx_complete`. -/
def rxComplete (slot : Fin rxTransferCount) (status : TransferStatus)
    (packets : List ℕ) (resubmit : Int) (receiver : UsbRx) : UsbRx :=
  let receiver :=
    { receiver.withSlot slot ({ · with submitted := false }) with
      activeTransfers := receiver.activeTransfers - 1 }
  let receiver :=
    match status with
    | .completed =>
      packets.foldl (fun r length => r.processPacket length)
        { receiver with consecutiveTransferFailures := 0 }
    | .cancelled => receiver
    | .noDevice | .failed =>
      let failures := receiver.consecutiveTransferFailures + 1
      { receiver with
        consecutiveTransferFailures := failures
        running := receiver.running && decide (failures < rxTransferCount) }
  if !receiver.stopping && receiver.running then
    receiver.submitSlot slot resubmit
  else receiver

/-- `submit_status`, on what submitting answered. -/
def submitStatus (result : Int) (receiver : UsbRx) : UsbRx :=
  if result ≠ 0 then { receiver with running := false }
  else
    { receiver with
      statusSubmitted := true, activeTransfers := receiver.activeTransfers + 1 }

/-- `status_complete`. -/
def statusComplete (status : TransferStatus) (packet : List UInt8)
    (resubmit : Int) (receiver : UsbRx) : UsbRx :=
  let receiver :=
    { receiver with
      statusSubmitted := false
      activeTransfers := receiver.activeTransfers - 1 }
  let receiver :=
    match status with
    | .completed =>
      match decodePhysicalInputs packet with
      | some inputs => { receiver with physicalInputs := some inputs }
      | none => receiver
    | .noDevice => { receiver with running := false }
    | .cancelled | .failed => receiver
  if !receiver.stopping && receiver.running then
    receiver.submitStatus resubmit
  else receiver

/-- What `tune_complete` fills a transfer with. -/
def renderTransfer (clipped limited : ℕ) (receiver : UsbRx) : UsbRx :=
  if receiver.microphoneStreaming then
    { receiver with
      microphoneStream := receiver.microphoneStream.renderIq16le
        audioTransferFrames clipped limited }
  else receiver

/-- What `tune_complete` makes of submitting the transfer again. -/
def resubmitTune (slot : Fin tuneTransferCount) (audioFrames : ℕ)
    (resubmit : Int) (receiver : UsbRx) : UsbRx :=
  let receiver :=
    receiver.withTuneSlot slot ({ · with audioFrames := audioFrames })
  if resubmit ≠ 0 then
    { receiver with tuneStreaming := false, running := false }
  else
    { receiver.withTuneSlot slot ({ · with submitted := true }) with
      activeTuneTransfers := receiver.activeTuneTransfers + 1 }

/-- `tune_complete`. -/
def tuneComplete (slot : Fin tuneTransferCount) (status : TransferStatus)
    (clipped limited : ℕ) (resubmit : Int) (receiver : UsbRx) : UsbRx :=
  let receiver :=
    { receiver.withTuneSlot slot
        ({ · with submitted := false, audioFrames := 0 }) with
      activeTuneTransfers := receiver.activeTuneTransfers - 1 }
  let receiver :=
    match status with
    | .completed | .cancelled => receiver
    | .noDevice | .failed =>
      { receiver with tuneStreaming := false, running := false }
  if receiver.tuneStreaming && receiver.running then
    let rendered := receiver.renderTransfer clipped limited
    rendered.resubmitTune slot
      (receiver.microphoneStream.count - rendered.microphoneStream.count)
      resubmit
  else receiver

/-- The callback of a transfer that completed. -/
def complete (receiver : UsbRx) : Completion → UsbRx
  | .rx slot status packets resubmit =>
    receiver.rxComplete slot status packets resubmit
  | .status status packet resubmit =>
    receiver.statusComplete status packet resubmit
  | .tune slot status clipped limited resubmit =>
    receiver.tuneComplete slot status clipped limited resubmit

/-- The callbacks of a round of event handling. -/
def handleEvents (round : EventRound) (receiver : UsbRx) : UsbRx :=
  round.completions.foldl complete receiver

/-- `flex1500_usb_rx_pump`. -/
def pump (receiver : UsbRx) : Int × UsbRx :=
  if !receiver.running || !receiver.context then
    (libusbErrorInvalidParam, receiver)
  else
    let round := receiver.ask.1.rounds.headD {}
    let receiver := receiver.ask.2.handleEvents round
    if round.result = libusbErrorInterrupted then (0, receiver)
    else if round.result ≠ 0 then
      (round.result, { receiver with running := false })
    else (0, receiver)

/-! ## Commands and the transmit stream -/

/-- `send_rx_command`, which `send_tune_command` is too: an answer that
fails or is short is an error. -/
def sendRxCommand (command : RadioCommand) (receiver : UsbRx) : Int × UsbRx :=
  let answer := receiver.ask.1
  let result :=
    if answer.result ≠ 0 then answer.result
    else if answer.transferred ≠ commandPacketSize then libusbErrorIo
    else 0
  (result, receiver.ask.2.log (.command command (result == 0)))

/-- The loop of `service_usb_for`, over the rounds until the deadline. -/
def serviceRounds : List EventRound → UsbRx → Int × UsbRx
  | [], receiver => (0, receiver)
  | round :: rest, receiver =>
    let receiver := receiver.handleEvents round
    if round.result ≠ 0 ∧ round.result ≠ libusbErrorInterrupted then
      (round.result, receiver)
    else if !receiver.tuneStreaming || !receiver.running then
      (libusbErrorIo, receiver)
    else serviceRounds rest receiver

/-- `service_usb_for`, reached as `flex1500_usb_io_service_tx_stream`. -/
def serviceTxStream (durationMs : ℕ) (receiver : UsbRx) : Int × UsbRx :=
  let served := serviceRounds receiver.ask.1.rounds receiver.ask.2
  (served.1, served.2.log (.service durationMs (served.1 == 0)))

/-- The drain loop of `release_tune_stream`. Rounds that run out are event
handling that fails. -/
def drainTune : List EventRound → UsbRx → UsbRx
  | [], receiver => receiver
  | round :: rest, receiver =>
    if receiver.context && decide (0 < receiver.activeTuneTransfers) then
      let receiver := receiver.handleEvents round
      if round.result ≠ 0 ∧ round.result ≠ libusbErrorInterrupted then receiver
      else drainTune rest receiver
    else receiver

/-- `release_tune_stream`. -/
def releaseTuneStream (receiver : UsbRx) : UsbRx :=
  let asked := { receiver with tuneStreaming := false }.ask
  let receiver := drainTune asked.1.rounds asked.2
  { receiver with
    tuneSlots := fun _ => {}
    activeTuneTransfers := 0
    microphoneStreaming := false
    microphoneCaptureEnabled := false
    txAcceptingAudio := false }

/-- The loop of `start_tune_stream`, over the slots left to submit. -/
def submitTuneSlots : List (Fin tuneTransferCount) → UsbRx → Int × UsbRx
  | [], receiver => (0, receiver)
  | slot :: rest, receiver =>
    let answer := receiver.ask.1
    let receiver :=
      receiver.ask.2.withTuneSlot slot ({ · with allocated := true })
    if !answer.granted then
      (libusbErrorNoMem, receiver.releaseTuneStream)
    else if answer.result ≠ 0 then
      (answer.result, receiver.releaseTuneStream)
    else
      submitTuneSlots rest
        { receiver.withTuneSlot slot ({ · with submitted := true }) with
          activeTuneTransfers := receiver.activeTuneTransfers + 1 }

/-- `start_tune_stream`, reached as `flex1500_usb_io_start_tx_stream`. -/
def startTxStream (microphone : Bool) (receiver : UsbRx) : Int × UsbRx :=
  let started := submitTuneSlots (List.finRange tuneTransferCount)
    { receiver with
      tuneStreaming := true
      microphoneStreaming := microphone
      txAcceptingAudio := microphone }
  (started.1, started.2.log (.streamStart (started.1 == 0)))

/-- `release_tune_stream`, reached as `flex1500_usb_io_stop_tx_stream`. -/
def stopTxStream (receiver : UsbRx) : UsbRx :=
  receiver.releaseTuneStream.log .streamStop

/-- `flex1500_usb_rx_tx_pending_frames`. -/
def txPendingFrames (receiver : UsbRx) : ℕ :=
  if !receiver.microphoneStreaming then 0
  else
    receiver.microphoneStream.count
      + ((List.finRange tuneTransferCount).map fun slot =>
          if (receiver.tuneSlots slot).submitted then
            (receiver.tuneSlots slot).audioFrames
          else 0).sum

end UsbRx
