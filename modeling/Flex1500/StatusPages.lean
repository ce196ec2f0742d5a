import Flex1500.DaemonTx
import Flex1500.Lib.TextSize

/-!
# The pages

`network.c` prints the status of the service and of the radio as JSON, one
member on a line, into buffers of a fixed size, and prints nothing where a
buffer is too small. The dispatcher answers `GET /v1/status` and
`GET /v1/radio` with them, and prints both for either.

A page is a list of members here, each with its name and what its value is
printed from. How wide a value can get depends on its kind only.

How a floating-point number is printed with one decimal is left open.
-/

/-! ## Printing -/

/-- What a value is printed from: a text between quotes or as it is, and the
values of the code's types. -/
inductive StatusValue where
  | quoted (text : String)
  | word (text : String)
  | flag (value : Bool)
  | counter (value : UInt64)
  | uint (value : UInt32)
  | int (value : Int32)
  | uintOrNull (value : Option UInt32)
  | intOrNull (value : Option Int32)
  deriving DecidableEq, Repr

namespace StatusValue

/-- The value as it is printed. -/
def print : StatusValue → String
  | quoted text => "\"" ++ text ++ "\""
  | word text => text
  | flag value => Api.boolText value
  | counter value => toString value.toNat
  | uint value => toString value.toNat
  | int value => toString value.toInt
  | uintOrNull value => (value.map fun n => toString n.toNat).getD "null"
  | intOrNull value => (value.map fun n => toString n.toInt).getD "null"

/-- How many bytes it takes at most. -/
def width : StatusValue → ℕ
  | quoted text => 2 + text.utf8ByteSize
  | word text => text.utf8ByteSize
  | flag _ => 5
  | counter _ => 20
  | uint _ | uintOrNull _ => 10
  | int _ | intOrNull _ => 11

end StatusValue

/-- A member on its line, up to where the line ends. -/
def memberLine (member : String × StatusValue) : String :=
  "  \"" ++ member.1 ++ "\": " ++ member.2.print

/-- The members, one on a line. -/
def membersText : List (String × StatusValue) → String
  | [] => ""
  | [member] => memberLine member ++ "\n"
  | member :: rest => memberLine member ++ ",\n" ++ membersText rest

/-- The page of a list of members. -/
def pageText (members : List (String × StatusValue)) : String :=
  "\x7b\n" ++ membersText members ++ "\x7d\n"

/-- A page as far as its buffer takes it. -/
def printPage (members : List (String × StatusValue)) (capacity : ℕ) :
    Option String :=
  if capacity ≤ (pageText members).utf8ByteSize then none
  else some (pageText members)

/-! ## The status of the service -/

/-- The status (`flex1500_service_status`), its meters being numbers of a
type `φ`. -/
structure ServiceStatus (φ : Type) where
  softwareVersion : Option String
  gitRevision : Option String
  state : String
  radioOpen : Bool
  networkListening : Bool
  sampleRate : UInt32
  frames : UInt64
  sentinelFrames : UInt64
  usbPackets : UInt64
  usbPacketErrors : UInt64
  ringDroppedFrames : UInt64
  networkFramesSent : UInt64
  networkSamplesSent : UInt64
  networkWouldBlockEvents : UInt64
  networkDisconnects : UInt64
  networkWriteErrors : UInt64
  rxTuneOperations : UInt64
  radioCommandErrors : UInt64
  usbTransferStatusErrors : UInt64
  usbTransferTimeouts : UInt64
  usbTransferStalls : UInt64
  usbTransferNoDevice : UInt64
  usbTransferOverflows : UInt64
  usbTransferOtherErrors : UInt64
  usbPacketStatusErrors : UInt64
  usbPacketTimeouts : UInt64
  usbPacketStalls : UInt64
  usbPacketNoDevice : UInt64
  usbPacketOverflows : UInt64
  usbPacketOtherErrors : UInt64
  usbShortPackets : UInt64
  usbZeroLengthPackets : UInt64
  usbOversizedPackets : UInt64
  usbMissingBytes : UInt64
  usbTrailingBytes : UInt64
  usbErrorEvents : UInt64
  physicalStatusPackets : UInt64
  physicalStatusChanges : UInt64
  physicalStatusErrors : UInt64
  usbFirstErrorMs : UInt64
  usbLastErrorMs : UInt64
  firstSentinelFrame : UInt64
  lastSentinelFrame : UInt64
  firstSentinelMs : UInt64
  lastSentinelMs : UInt64
  rxRecoveryAttempts : UInt64
  rxRecoverySuccesses : UInt64
  txStarts : UInt64
  txStops : UInt64
  txUnderruns : UInt64
  txClippedFrames : UInt64
  txLimitedFrames : UInt64
  txDroppedMicrophoneFrames : UInt64
  txQueuedFrames : UInt64
  txQueuedMs : UInt64
  txPeakQueuedFrames : UInt64
  txStopRequestedFrames : UInt64
  txGracefulDrainedFrames : UInt64
  txGracefulDiscardedFrames : UInt64
  txGracefulDrainMs : UInt64
  txAudioMeterValid : Bool
  txInputPeakDbfs : φ
  txInputRmsDbfs : φ
  txPostGainPeakDbfs : φ
  txPostGainRmsDbfs : φ
  txOutputPeakDbfs : φ
  txOutputRmsDbfs : φ
  txRejectedOwnershipRequests : UInt64
  txWatchdogStops : UInt64
  txCleanupFailures : UInt64

/-- What the daemon calls its state: without a radio, when it only prints its
status or serves it, and with one. -/
def serviceStates : List String := ["offline", "offline_serving", "receiving"]

section Status

variable {φ : Type} (oneDecimal : φ → String)

/-- The members `flex1500_build_status_json` prints. -/
def ServiceStatus.members (s : ServiceStatus φ) :
    List (String × StatusValue) :=
  [("service", .quoted "flex1500d"),
    ("software_version", .quoted (s.softwareVersion.getD "unknown")),
    ("git_revision", .quoted (s.gitRevision.getD "unknown")),
    ("api_version", .word "1"),
    ("state", .quoted s.state),
    ("radio_open", .flag s.radioOpen),
    ("network_listening", .flag s.networkListening),
    ("sample_rate", .uint s.sampleRate),
    ("sample_format", .quoted "complex_f32le"),
    ("frames", .counter s.frames),
    ("sentinel_frames", .counter s.sentinelFrames),
    ("usb_packets", .counter s.usbPackets),
    ("usb_packet_errors", .counter s.usbPacketErrors),
    ("ring_dropped_frames", .counter s.ringDroppedFrames),
    ("network_frames_sent", .counter s.networkFramesSent),
    ("network_samples_sent", .counter s.networkSamplesSent),
    ("network_would_block_events", .counter s.networkWouldBlockEvents),
    ("network_disconnects", .counter s.networkDisconnects),
    ("network_write_errors", .counter s.networkWriteErrors),
    ("rx_tune_operations", .counter s.rxTuneOperations),
    ("radio_command_errors", .counter s.radioCommandErrors),
    ("usb_transfer_status_errors", .counter s.usbTransferStatusErrors),
    ("usb_transfer_timeouts", .counter s.usbTransferTimeouts),
    ("usb_transfer_stalls", .counter s.usbTransferStalls),
    ("usb_transfer_no_device", .counter s.usbTransferNoDevice),
    ("usb_transfer_overflows", .counter s.usbTransferOverflows),
    ("usb_transfer_other_errors", .counter s.usbTransferOtherErrors),
    ("usb_packet_status_errors", .counter s.usbPacketStatusErrors),
    ("usb_packet_timeouts", .counter s.usbPacketTimeouts),
    ("usb_packet_stalls", .counter s.usbPacketStalls),
    ("usb_packet_no_device", .counter s.usbPacketNoDevice),
    ("usb_packet_overflows", .counter s.usbPacketOverflows),
    ("usb_packet_other_errors", .counter s.usbPacketOtherErrors),
    ("usb_short_packets", .counter s.usbShortPackets),
    ("usb_zero_length_packets", .counter s.usbZeroLengthPackets),
    ("usb_oversized_packets", .counter s.usbOversizedPackets),
    ("usb_missing_bytes", .counter s.usbMissingBytes),
    ("usb_trailing_bytes", .counter s.usbTrailingBytes),
    ("usb_error_events", .counter s.usbErrorEvents),
    ("physical_status_packets", .counter s.physicalStatusPackets),
    ("physical_status_changes", .counter s.physicalStatusChanges),
    ("physical_status_errors", .counter s.physicalStatusErrors),
    ("usb_first_error_ms", .counter s.usbFirstErrorMs),
    ("usb_last_error_ms", .counter s.usbLastErrorMs),
    ("first_sentinel_frame", .counter s.firstSentinelFrame),
    ("last_sentinel_frame", .counter s.lastSentinelFrame),
    ("first_sentinel_ms", .counter s.firstSentinelMs),
    ("last_sentinel_ms", .counter s.lastSentinelMs),
    ("rx_recovery_attempts", .counter s.rxRecoveryAttempts),
    ("rx_recovery_successes", .counter s.rxRecoverySuccesses),
    ("tx_starts", .counter s.txStarts),
    ("tx_stops", .counter s.txStops),
    ("tx_underruns", .counter s.txUnderruns),
    ("tx_clipped_frames", .counter s.txClippedFrames),
    ("tx_limited_frames", .counter s.txLimitedFrames),
    ("tx_dropped_microphone_frames", .counter s.txDroppedMicrophoneFrames),
    ("tx_queued_frames", .counter s.txQueuedFrames),
    ("tx_queued_ms", .counter s.txQueuedMs),
    ("tx_peak_queued_frames", .counter s.txPeakQueuedFrames),
    ("tx_stop_requested_frames", .counter s.txStopRequestedFrames),
    ("tx_graceful_drained_frames", .counter s.txGracefulDrainedFrames),
    ("tx_graceful_discarded_frames", .counter s.txGracefulDiscardedFrames),
    ("tx_graceful_drain_ms", .counter s.txGracefulDrainMs),
    ("tx_audio_meter_valid", .flag s.txAudioMeterValid),
    ("tx_input_peak_dbfs", .word (oneDecimal s.txInputPeakDbfs)),
    ("tx_input_rms_dbfs", .word (oneDecimal s.txInputRmsDbfs)),
    ("tx_post_gain_peak_dbfs", .word (oneDecimal s.txPostGainPeakDbfs)),
    ("tx_post_gain_rms_dbfs", .word (oneDecimal s.txPostGainRmsDbfs)),
    ("tx_output_peak_dbfs", .word (oneDecimal s.txOutputPeakDbfs)),
    ("tx_output_rms_dbfs", .word (oneDecimal s.txOutputRmsDbfs)),
    ("tx_rejected_ownership_requests", .counter s.txRejectedOwnershipRequests),
    ("tx_watchdog_stops", .counter s.txWatchdogStops),
    ("tx_cleanup_failures", .counter s.txCleanupFailures)]

/-- `flex1500_build_status_json`. -/
def buildStatusJson (status : ServiceStatus φ) (capacity : ℕ) :
    Option String :=
  printPage (status.members oneDecimal) capacity

end Status

/-! ## The status of the radio -/

/-- The radio (`flex1500_radio_info`), all of it. A value the code keeps
beside a flag that says whether it is known is an option, and so is a text
that may be missing. -/
structure RadioRecord where
  model : String
  firmware : String
  usbVendorId : UInt16
  usbProductId : UInt16
  receiveOnly : Bool
  transmitEnabled : Bool
  transmitPrepared : Bool := false
  tuneEnabled : Bool := false
  tuneActive : Bool := false
  txTimeoutSeconds : UInt32 := 0
  txDrivePercent : UInt32 := 0
  txMicrophoneGainDb : UInt32 := 0
  txCompressorEnabled : Bool := false
  txOwner : Option String := none
  txState : Option String := none
  networkTxReserved : Bool := false
  networkTxStreamConnected : Bool := false
  paFilter : Option UInt32 := none
  rxTuningEnabled : Bool := false
  frequencyHz : Option UInt32 := none
  rxFilter : Option UInt32 := none
  rxGainDb : Option Int32 := none
  rxMode : Option String := none
  rxBandwidthHz : UInt32
  rxSquelchDb : Int32 := 0
  physicalInputsKnown : Bool := false
  micPtt : Bool := false
  flexwirePtt : Bool := false
  dash : Bool := false
  dot : Bool := false
  deriving DecidableEq, Repr

/-- A number in four hexadecimal digits. -/
def hexText (value : UInt16) : String :=
  .ofList ([12, 8, 4, 0].map fun shift =>
    Nat.digitChar (value.toNat / 2 ^ shift % 16))

/-- The members `flex1500_build_radio_json` prints. -/
def RadioRecord.members (r : RadioRecord) : List (String × StatusValue) :=
  [("model", .quoted r.model),
    ("firmware", .quoted r.firmware),
    ("usb_vendor_id", .quoted (hexText r.usbVendorId)),
    ("usb_product_id", .quoted (hexText r.usbProductId)),
    ("receive_only", .flag r.receiveOnly),
    ("transmit_enabled", .flag r.transmitEnabled),
    ("transmit_prepared", .flag r.transmitPrepared),
    ("tune_enabled", .flag r.tuneEnabled),
    ("tune_active", .flag r.tuneActive),
    ("tx_timeout_seconds", .uint r.txTimeoutSeconds),
    ("tx_drive_percent", .uint r.txDrivePercent),
    ("tx_microphone_gain_db", .uint r.txMicrophoneGainDb),
    ("tx_compressor_enabled", .flag r.txCompressorEnabled),
    ("tx_owner", .quoted (r.txOwner.getD "none")),
    ("tx_state", .quoted (r.txState.getD "rx")),
    ("network_tx_reserved", .flag r.networkTxReserved),
    ("network_tx_stream_connected", .flag r.networkTxStreamConnected),
    ("pa_filter", .uintOrNull r.paFilter),
    ("rx_tuning_enabled", .flag r.rxTuningEnabled),
    ("frequency_hz", .uintOrNull r.frequencyHz),
    ("rx_filter", .uintOrNull r.rxFilter),
    ("rx_gain_db", .intOrNull r.rxGainDb),
    ("rx_mode", .quoted (r.rxMode.getD "am")),
    ("rx_bandwidth_hz", .uint r.rxBandwidthHz),
    ("rx_squelch_db", .int r.rxSquelchDb),
    ("physical_inputs_known", .flag r.physicalInputsKnown),
    ("mic_ptt", .flag r.micPtt),
    ("flexwire_ptt", .flag r.flexwirePtt),
    ("dash", .flag r.dash),
    ("dot", .flag r.dot)]

/-- `flex1500_build_radio_json`. -/
def buildRadioJson (radio : RadioRecord) (capacity : ℕ) : Option String :=
  printPage radio.members capacity

/-- `RADIO_INFO`. -/
def radioInfo : RadioRecord where
  model := "FLEX-1500"
  firmware := "0.5.3.24"
  usbVendorId := 0x2192
  usbProductId := 0x1502
  receiveOnly := true
  transmitEnabled := false
  rxMode := some "am"
  rxBandwidthHz := 6000

/-- `live_radio_info`. -/
def liveRadioInfo (receiver : UsbRx) (transmitEnabled : Bool) : RadioRecord :=
  { radioInfo with
    receiveOnly := !transmitEnabled
    transmitEnabled := transmitEnabled
    transmitPrepared := receiver.transmitPrepared
    tuneEnabled := transmitEnabled
    tuneActive := receiver.tuneActive
    paFilter := receiver.paFilter.map UInt32.ofNat
    frequencyHz := receiver.frequencyHz.map fun hz => UInt32.ofNat hz.1
    rxFilter := receiver.rxFilter.map UInt32.ofNat
    rxGainDb := receiver.gainDb.map Int32.ofInt
    physicalInputsKnown := receiver.physicalInputs.isSome
    micPtt := receiver.physicalInputs.any (·.micPtt)
    flexwirePtt := receiver.physicalInputs.any (·.flexwirePtt)
    dash := receiver.physicalInputs.any (·.dash)
    dot := receiver.physicalInputs.any (·.dot) }

/-! ## What the dispatcher prints -/

section Pages

variable {ρ φ : Type}

/-- The radio as the dispatcher presents it: what the controller and the
transmitter know in place of what the caller handed over. -/
def RadioRecord.presented (radio : RadioRecord) (p : TxPlane (ApiWorld ρ)) :
    RadioRecord :=
  let api := p.world.api
  let radio :=
    { radio with
      rxTuningEnabled := api.rxTuningEnabled
      rxMode := some api.rxMode
      rxBandwidthHz := UInt32.ofNat api.rxBandwidthHz
      rxSquelchDb := api.rxSquelchDb }
  let radio :=
    if api.tuneAttached then
      { radio with
        txTimeoutSeconds := UInt32.ofNat p.tx.timeoutSeconds
        txOwner := some p.tx.owner.name
        txState := some p.tx.state.name }
    else radio
  let radio :=
    if api.networkAttached then
      { radio with
        networkTxReserved := p.network.reserved
        networkTxStreamConnected := p.network.streamConnected }
    else radio
  { radio with
    txDrivePercent := UInt32.ofNat api.txDrivePercent
    txMicrophoneGainDb := UInt32.ofNat api.txMicrophoneGainDb
    txCompressorEnabled := api.txCompressorEnabled }

/-- The part of the record the dispatcher reads itself. -/
def RadioRecord.info (radio : RadioRecord) : RadioInfo where
  frequencyHz := radio.frequencyHz.map UInt32.toNat

/-- The size of `status_json`. -/
def statusCapacity : ℕ := 4096

/-- The size of `radio_json`. -/
def radioCapacity : ℕ := 1024

/-- The pages the dispatcher prints, for a plane. -/
def apiPages (oneDecimal : φ → String) (status : ServiceStatus φ)
    (radio : RadioRecord) (p : TxPlane (ApiWorld ρ)) : ApiPages where
  status := buildStatusJson oneDecimal status statusCapacity
  radio := buildRadioJson (radio.presented p) radioCapacity

end Pages
