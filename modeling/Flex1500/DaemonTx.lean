import Flex1500.ApiEffect
import Flex1500.UsbRuns

/-!
# The daemon's transmitter

`flex1500d.c` gives the controller its two callbacks. They reach the
receiver, the settings of the API and the network session through one
context, `daemon_tx_context`, which also holds the samples of a session that
has not keyed yet.

The context here carries, beside what the code keeps, a **log** of what
happened that a theorem may want to look back on: which callback was called,
what was about to be emitted in which state, what the switches read, and
which samples went where. No function reads the log.

Whether raw samples are to be translated is a floating-point measure of
them. It decides the offset an emission is tuned with and nothing else, so
it is a parameter: everything here holds for any such measure.
-/

/-! ## Emissions -/

/-- What a transmission emits. -/
inductive Emission where
  | tune
  | voice (mode : TxMode)
  | rawIq (translated : Bool)
  deriving DecidableEq, Repr

namespace Emission

/-- Whether an emission is allowed on a frequency. -/
def allowed (frequencyHz : ℕ) : Emission → Bool
  | .tune => tuneFrequencyAllowed frequencyHz
  | .voice .am => amFrequencyAllowed frequencyHz
  | .voice mode => physicalMicFrequencyAllowed frequencyHz (mode = .usb)
  | .rawIq _ => networkIqFrequencyAllowed frequencyHz

/-- How far below its frequency an emission is tuned. -/
def offsetHz : Emission → ℕ
  | .tune => UsbRx.tuneToneHz
  | .voice .am => UsbRx.txAmIfHz
  | .voice _ => 0
  | .rawIq translated => if translated then UsbRx.txAmIfHz else 0

end Emission

/-- An emission about to be made: for whom, by which controller and for
which session, on which frequency, and what had been sent before. -/
structure TxEmission where
  owner : TxOwner
  control : TxControl
  network : NetworkTx
  emission : Emission
  frequencyHz : ℕ
  trace : List UsbEvent
  deriving DecidableEq, Repr

/-- A sample byte, and the lease it was received under. -/
structure TxByte where
  value : UInt8
  lease : UInt64
  deriving DecidableEq, Repr

/-- An entry of the log. -/
inductive DaemonNote where
  /-- A USB session begins. -/
  | session
  /-- The switches read something new. -/
  | reading (inputs : PhysicalInputs)
  /-- The start callback is called. -/
  | start (owner : TxOwner)
  /-- An emission is about to be made. -/
  | emission (record : TxEmission)
  /-- A stream connection is attached to a session, which takes frames of so
  many bytes. -/
  | attached (connection : ℕ) (lease : UInt64) (frameBytes : ℕ)
  /-- A stream connection brings bytes. -/
  | received (connection : ℕ) (bytes : List UInt8)
  /-- Bytes of a stream connection are passed on. -/
  | delivered (connection : ℕ) (bytes : List UInt8)
  /-- Bytes are handed to the transmitter for the session of a lease. -/
  | handed (lease : UInt64) (bytes : List TxByte)
  /-- Bytes are counted toward the pre-roll of the session of a lease. -/
  | counted (lease : UInt64) (bytes : List TxByte)
  deriving DecidableEq, Repr

/-- The context of the callbacks (`daemon_tx_context`), but for its
pointers. -/
structure DaemonTx where
  receiver : UsbRx
  frequencyHz : ℕ := 0
  mode : String := ""
  drivePercent : ℕ := 0
  microphoneGainDb : ℕ := 0
  compressorEnabled : Bool := false
  networkPrebuffer : List TxByte := []
  networkTail : List TxByte := []
  log : List DaemonNote := []

namespace DaemonTx

/-- The context with an entry logged. -/
def note (entry : DaemonNote) (tx : DaemonTx) : DaemonTx :=
  { tx with log := tx.log ++ [entry] }

/-- The context with another receiver. -/
def withReceiver (tx : DaemonTx) (receiver : UsbRx) : DaemonTx :=
  { tx with receiver := receiver }

/-! ## Starting -/

/-- The size in bytes of `network_prebuffer`. -/
def prebufferBytes : ℕ := 131072

/-- `flex1500_tx_raw_iq_should_translate`, given what its measure says of
samples that are long enough. -/
def rawIqShouldTranslate (carriesDc : List UInt8 → Bool) (input : List UInt8) :
    Bool :=
  if input.length < 1024 * 4 then false else carriesDc input

/-- `resolve_physical_tx_mode`: the mode and its name. -/
def resolvePhysicalTxMode (api : ApiController) (station : StationOwner)
    (frequencyHz : ℕ) : Option (TxMode × String) :=
  if api.stationAttached && station.held && !station.modeAware then
    (defaultSsbUpperSideband frequencyHz).map fun upperSideband =>
      if upperSideband then (.usb, "usb") else (.lsb, "lsb")
  else
    let mode : Option TxMode :=
      if api.rxMode = "usb" then some .usb
      else if api.rxMode = "lsb" then some .lsb
      else if api.rxMode = "am" then some .am
      else none
    mode.bind fun mode =>
      if (Emission.voice mode).allowed frequencyHz then
        some (mode, api.rxMode)
      else none

/-- The mode a session's samples are modulated with. -/
def networkMode (profile : NetworkTxProfile) : TxMode :=
  match profile.mode with
  | .lsb => .lsb
  | .am => .am
  | _ => .usb

/-- What a session emits, from the samples it has. -/
def networkEmission (carriesDc : List UInt8 → Bool)
    (profile : NetworkTxProfile) (prebuffer : List TxByte) : Emission :=
  if profile.source = .iq then
    .rawIq (rawIqShouldTranslate carriesDc (prebuffer.map (·.value)))
  else .voice (networkMode profile)

/-- What is logged of an emission. -/
def emitting (owner : TxOwner) (control : TxControl) (network : NetworkTx)
    (emission : Emission) (frequencyHz : ℕ) (tx : DaemonTx) : DaemonTx :=
  tx.note (.emission
    { owner := owner, control := control, network := network
      emission := emission, frequencyHz := frequencyHz
      trace := tx.receiver.trace })

/-- The part of `daemon_tx_owner_start` for the tune carrier. -/
def startTune (control : TxControl) (network : NetworkTx) (tx : DaemonTx) :
    Int × DaemonTx :=
  match tx.receiver.frequencyHz with
  | none => (-1, tx)
  | some frequency =>
    let tx := { tx with frequencyHz := frequency.1 }
    if !tuneFrequencyAllowed frequency.1 then (-1, tx)
    else
      let tx := tx.emitting .tune control network .tune frequency.1
      let started := tx.receiver.tuneCarrierStart
      (started.1, tx.withReceiver started.2)

/-- The part of `daemon_tx_owner_start` for the network session. -/
def startNetwork (carriesDc : List UInt8 → Bool) (control : TxControl)
    (network : NetworkTx) (tx : DaemonTx) : Int × DaemonTx :=
  match (if network.reserved then tx.receiver.frequencyHz else none) with
  | none => (-1, tx)
  | some frequency =>
    let tx := { tx with frequencyHz := frequency.1 }
    let rawIq := network.profile.source == .iq
    let translate := rawIq && rawIqShouldTranslate carriesDc
      (tx.networkPrebuffer.map (·.value))
    let emission :=
      networkEmission carriesDc network.profile tx.networkPrebuffer
    if !emission.allowed frequency.1 then (-1, tx)
    else
      let tx := (tx.emitting .http control network emission frequency.1).note
        (.handed network.lease tx.networkPrebuffer)
      let started := tx.receiver.networkTxStart (networkMode network.profile)
        network.profile.drivePercent rawIq translate
        tx.networkPrebuffer.length
      let tx := tx.withReceiver started.2
      (started.1, if started.1 = 0 then { tx with networkPrebuffer := [] }
        else tx)

/-- The context with the profile of a microphone transmission frozen. -/
def frozen (api : ApiController) (mode : String) (tx : DaemonTx) :
    DaemonTx :=
  { tx with
    mode := mode
    drivePercent := api.txDrivePercent
    microphoneGainDb := api.txMicrophoneGainDb
    compressorEnabled := api.txCompressorEnabled }

/-- The part of `daemon_tx_owner_start` for the microphone. -/
def startMicrophone (api : ApiController) (station : StationOwner)
    (control : TxControl) (network : NetworkTx) (tx : DaemonTx) :
    Int × DaemonTx :=
  match tx.receiver.frequencyHz with
  | none => (-1, tx)
  | some frequency =>
    let tx := { tx with frequencyHz := frequency.1 }
    match resolvePhysicalTxMode api station frequency.1 with
    | none => (-1, tx)
    | some (mode, modeName) =>
      let tx := (tx.frozen api modeName).emitting .physicalMic control network
        (.voice mode) frequency.1
      let started := tx.receiver.microphoneTxStart mode tx.drivePercent
        tx.microphoneGainDb tx.compressorEnabled
      (started.1, tx.withReceiver started.2)

end DaemonTx

/-! ## The callbacks -/

/-- What the callbacks act on. -/
abbrev DaemonContext := TxContext (ApiWorld DaemonTx)

namespace DaemonContext

/-- The context with the daemon's part of it changed. -/
def withRadio (k : DaemonContext) (tx : DaemonTx) : DaemonContext :=
  { k with world := { k.world with radio := tx } }

/-- The context with the diagnostics changed. -/
def withDiagnostics (k : DaemonContext) (f : TxDiagnostics → TxDiagnostics) :
    DaemonContext :=
  { k with tune := k.tune.tallied (f k.tune.diagnostics) }

/-- A start that succeeded counts. -/
def counted (started : Int) (k : DaemonContext) : DaemonContext :=
  if started = 0 then
    k.withDiagnostics fun d => { d with starts := d.starts + 1 }
  else k

end DaemonContext

/-- `daemon_tx_owner_start`. -/
def daemonTxOwnerStart (carriesDc : List UInt8 → Bool) (owner : TxOwner)
    (control : TxControl) (k : DaemonContext) : Int × DaemonContext :=
  let tx := k.world.radio.note (.start owner)
  match owner with
  | .tune =>
    let started := tx.startTune control k.network
    (started.1, k.withRadio started.2)
  | .http =>
    let started := tx.startNetwork carriesDc control k.network
    (started.1, (k.withRadio started.2).counted started.1)
  | .physicalMic =>
    let started := tx.startMicrophone k.world.api k.world.station control
      k.network
    (started.1, (k.withRadio started.2).counted started.1)
  | _ => (-1, k.withRadio tx)

/-- What `daemon_tx_owner_stop` records of a transmission of samples. -/
def TxDiagnostics.recordStop (stats : TxAudioStats) (d : TxDiagnostics) :
    TxDiagnostics :=
  { d with stops := d.stops + 1 }
    |>.recordUnderrun stats.underrunFrames
    |>.recordAudioQuality stats.clippedFrames stats.limitedFrames
      stats.droppedMicrophoneFrames
    |>.recordGracefulDrain (raisePeak stats.stopRequestedFrames
      stats.peakQueuedFrames) stats.stopRequestedFrames
      stats.gracefulDrainedFrames stats.gracefulDiscardedFrames
      stats.gracefulDrainMs

/-- `daemon_tx_owner_stop`. -/
def daemonTxOwnerStop (owner : TxOwner) (graceful : Bool) (_ : TxControl)
    (k : DaemonContext) : Int × DaemonContext :=
  let tx := k.world.radio
  match owner with
  | .tune =>
    let stopped := tx.receiver.tuneCarrierStop
    (stopped.1, k.withRadio (tx.withReceiver stopped.2))
  | .physicalMic | .http =>
    let stopped :=
      if graceful then tx.receiver.microphoneTxStopGraceful
      else tx.receiver.microphoneTxStop
    (stopped.1, (k.withRadio (tx.withReceiver stopped.2)).withDiagnostics
      (·.recordStop stopped.2.microphoneStream.stats))
  | _ => (-1, k)

/-- The callbacks of the daemon's controller. -/
def daemonCallbacks (carriesDc : List UInt8 → Bool) :
    TxCallbacks DaemonContext where
  start := some (daemonTxOwnerStart carriesDc)
  stop := some daemonTxOwnerStop

/-- `api_tune_rx`. -/
def apiTuneRx (frequencyHz : ℕ) (tx : DaemonTx) : (Int × ℕ) × DaemonTx :=
  let tuned := tx.receiver.tune frequencyHz
  ((if tuned.1 ≠ 0 ∨ tuned.2.rxFilter = none then -1 else 0,
      tuned.2.rxFilter.getD 0),
    tx.withReceiver tuned.2)

/-- `api_set_rx_gain`. -/
def apiSetRxGain (gainDb : Int) (tx : DaemonTx) : Int × DaemonTx :=
  let set := tx.receiver.setGain gainDb
  (if set.1 = 0 then 0 else -1, tx.withReceiver set.2)

/-- The callbacks of the API. -/
def daemonOps : RadioOps DaemonTx where
  tuneRx := some apiTuneRx
  setRxGain := some apiSetRxGain

/-! ## What the callbacks leave alone -/

/-- The callbacks leave both sessions as they find them, and count at
most. -/
theorem framed_daemonCallbacks (carriesDc : List UInt8 → Bool) :
    (daemonCallbacks carriesDc).Framed := by
  have hcounted (k : DaemonContext) (tx : DaemonTx) (started : Int) :
      k.Framed ((k.withRadio tx).counted started) := by
    unfold DaemonContext.counted
    split
    · exact ⟨rfl, _, rfl⟩
    · exact ⟨rfl, k.tune.diagnostics, rfl⟩
  constructor
  · intro owner control k
    cases owner with
    | http => exact hcounted k _ _
    | physicalMic => exact hcounted k _ _
    | _ => exact ⟨rfl, k.tune.diagnostics, rfl⟩
  · intro owner graceful control k
    cases owner with
    | http => exact ⟨rfl, _, rfl⟩
    | physicalMic => exact ⟨rfl, _, rfl⟩
    | _ => exact ⟨rfl, k.tune.diagnostics, rfl⟩
