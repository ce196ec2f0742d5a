import Flex1500.DaemonTx
import Flex1500.IqClients

/-!
# The daemon

The loop of `flex1500d.c`, block by block. Everything an iteration takes
from outside – clock readings, connections, bytes, and whether the process
was asked to stop – is in a `LoopInput`; what the radio answers is on the
receiver's bus. A run is a list of inputs.

Of the clients of the receive stream it is kept which there are. What serves
them samples is left out. Of the `rtl_tcp` client the commands are modelled,
since they tune the radio.
-/

/-- What the daemon is started with, what `initial_tune_lease` draws for its
three counters, and the measure of raw samples. -/
structure DaemonConfig where
  rxTuningEnabled : Bool
  testPageEnabled : Bool
  transmitEnabled : Bool
  rtlTcpEnabled : Bool
  tuneLease : UInt64
  txLease : UInt64
  stationLease : UInt64
  carriesDc : List UInt8 → Bool

/-- What `recv` answers, given room enough. No data is the end of the
connection. -/
inductive Received where
  | data (bytes : List UInt8)
  | wouldBlock
  | failed
  deriving DecidableEq, Repr

/-- What an iteration of the loop takes from outside. -/
structure LoopInput where
  stopRequested : Bool := false
  stationMs : UInt64
  tuneMs : UInt64
  txMs : UInt64
  networkMs : UInt64
  /-- How many attempts at recovery are made before the process is asked to
  stop. -/
  recoveryAttempts : ℕ := 60
  pttMs : UInt64
  httpAccepted : Bool := false
  httpReceived : Received := .wouldBlock
  requestMs : UInt64
  pages : ApiPages := { status := none, radio := none }
  /-- Whether the header that opens a stream was sent. -/
  headerSent : Bool := true
  rtlAccepted : Bool := false
  rtlReceived : Received := .wouldBlock
  /-- Whether writing samples to the `rtl_tcp` client failed. -/
  rtlLost : Bool := false
  /-- The slots of the other clients of the stream for which it failed. -/
  iqLost : List (Fin maxIqClients) := []
  streamReceived : Received := .wouldBlock
  dataMs : UInt64
  deriving DecidableEq, Repr

/-- The stream connection of a session (`tx_client`). Which connection it
is, under which lease it was attached and the size of its session's frames
are not in the code. The descriptor stays noted after it was closed where
the header of the next stream cannot be sent. -/
structure TxClient where
  connection : ℕ
  lease : UInt64
  frameBytes : ℕ
  isOpen : Bool := true
  deriving DecidableEq, Repr

/-- A command of the `rtl_tcp` client (`flex1500_rtl_tcp_command`). -/
structure RtlTcpCommand where
  id : UInt8
  parameter : ℕ
  deriving DecidableEq, Repr

/-- `flex1500_rtl_tcp_parse_byte`, over the bytes pending: the command they
complete, and what is pending then. -/
def rtlTcpParseByte (pending : List UInt8) (byte : UInt8) :
    Option RtlTcpCommand × List UInt8 :=
  let bytes := pending ++ [byte]
  if bytes.length ≠ 5 then (none, bytes)
  else
    (some
      { id := bytes.headD 0
        parameter := bytes.tail.foldl (fun n b => n * 256 + b.toNat) 0 },
      [])

/-- The state of the loop. -/
structure Daemon where
  running : Bool
  plane : TxPlane (ApiWorld DaemonTx)
  txClient : Option TxClient := none
  httpClient : Option (List UInt8) := none
  rtlClient : Bool := false
  rtlPending : List UInt8 := []
  /-- Which slots hold a client of the stream (`iq.fd`). -/
  iqClients : Fin maxIqClients → Bool := fun _ => false
  loggedInputs : Option PhysicalInputs := none
  observedMicrophonePtt : Option Bool := none
  /-- How many stream connections there have been. -/
  connections : ℕ := 0

namespace Daemon

/-- The context of the callbacks, as far as the daemon keeps it. -/
def tx (d : Daemon) : DaemonTx :=
  d.plane.world.radio

/-- The daemon with another plane. -/
def withPlane (d : Daemon) (p : TxPlane (ApiWorld DaemonTx)) : Daemon :=
  { d with plane := p }

/-- The daemon with its context changed. -/
def withTx (f : DaemonTx → DaemonTx) (d : Daemon) : Daemon :=
  d.withPlane (d.plane.withRadio (f d.tx))

/-- The daemon with another receiver. -/
def withReceiver (receiver : UsbRx) (d : Daemon) : Daemon :=
  d.withTx (·.withReceiver receiver)

/-- The daemon with no samples in its pre-roll buffer. -/
def clearPrebuffer (d : Daemon) : Daemon :=
  d.withTx ({ · with networkPrebuffer := [] })

/-- The daemon with no bytes left over. -/
def clearTail (d : Daemon) : Daemon :=
  d.withTx ({ · with networkTail := [] })

/-- The daemon with its stream connection closed. -/
def closeTxClient (d : Daemon) : Daemon :=
  { d with txClient := none }

/-- The daemon with the clients of the receive stream closed, but for the
`rtl_tcp` client. -/
def closeIqClients (d : Daemon) : Daemon :=
  { d with iqClients := fun _ => false }

section Loop

variable (config : DaemonConfig)

/-! ## The ticks at the top -/

/-- The lease of the station. -/
def stationTick (nowMs : UInt64) (d : Daemon) : Daemon :=
  let ticked := d.plane.world.station.tick nowMs
  let p := d.plane.withStation ticked.2
  if ticked.1 = .expired then
    let p := TuneControl.shutdown (daemonCallbacks config.carriesDc) p
    d.withPlane
      (if p.network.reserved then
        (NetworkTx.release (daemonCallbacks config.carriesDc) p.network.lease
          p).2
      else p)
  else d.withPlane p

/-- The lease of the tune carrier. -/
def tuneTick (nowMs : UInt64) (d : Daemon) : Daemon :=
  d.withPlane
    (TuneControl.tick (daemonCallbacks config.carriesDc) nowMs d.plane).2

/-- The maximum-key timer, and the tune carrier brought into line. -/
def txTick (nowMs : UInt64) (d : Daemon) : Daemon :=
  let ticked := TxControl.tick (daemonCallbacks config.carriesDc) nowMs
    d.plane.tx d.plane.toTxContext
  let p := TuneControl.reconcile (ticked.1 = .maxKey) (TxPlane.after ticked.2)
  d.withPlane
    (if ticked.1 = .hardwareError then
      p.withDiagnostics TxDiagnostics.recordCleanupFailure
    else p)

/-- The network session brought into line. -/
def networkReconcile (d : Daemon) : Daemon :=
  let p := NetworkTx.reconcile d.plane
  if d.plane.network.reserved && !p.network.reserved && d.txClient.isSome then
    (d.withPlane p).closeTxClient.clearPrebuffer
  else d.withPlane p

/-- The lease of the network session. -/
def networkTick (nowMs : UInt64) (d : Daemon) : Daemon :=
  let ticked := NetworkTx.tick (daemonCallbacks config.carriesDc) nowMs d.plane
  match ticked.1 with
  | .expired =>
    (d.withPlane
      (ticked.2.withDiagnostics
        TxDiagnostics.recordWatchdogStop)).closeTxClient.clearPrebuffer
  | .hardwareError =>
    d.withPlane
      (ticked.2.withDiagnostics TxDiagnostics.recordCleanupFailure)
  | _ => d.withPlane ticked.2

/-- The block at the top of the loop. -/
def ticks (input : LoopInput) (d : Daemon) : Daemon :=
  d.stationTick config input.stationMs
    |>.tuneTick config input.tuneMs
    |>.txTick config input.txMs
    |>.networkReconcile
    |>.networkTick config input.networkMs

/-! ## Recovery -/

/-- `daemon_tx_shutdown`. -/
def daemonTxShutdown (p : TxPlane (ApiWorld DaemonTx)) :
    TxPlane (ApiWorld DaemonTx) :=
  let q := TuneControl.reconcile false (TxPlane.after
    (TxControl.shutdown (daemonCallbacks config.carriesDc) p.tx
      p.toTxContext))
  if p.tune.active && q.tx.cleanupFailed then
    q.withDiagnostics TxDiagnostics.recordCleanupFailure
  else q

/-- One attempt to open the radio again and bring it to the state it was
in. -/
def reopen (gainDb : Int) (frequency : Option Frequency) (receiver : UsbRx) :
    Bool × UsbRx :=
  let started := receiver.start
  if started.1 ≠ 0 then (false, started.2)
  else
    let gained := started.2.setGain gainDb
    let tuned :=
      match frequency with
      | some frequency =>
        if gained.1 = 0 then gained.2.tune frequency.1 else gained
      | none => gained
    if gained.1 ≠ 0 ∨ tuned.1 ≠ 0 then (false, tuned.2.stop)
    else
      let prepared :=
        if config.transmitEnabled then tuned.2.enableTransmitPreparation
        else (0, tuned.2)
      if prepared.1 ≠ 0 then (false, prepared.2.stop) else (true, prepared.2)

/-- The attempts at recovery. -/
def reopenWithin (gainDb : Int) (frequency : Option Frequency) :
    ℕ → UsbRx → Bool × UsbRx
  | 0, receiver => (false, receiver)
  | attempts + 1, receiver =>
    let reopened := reopen config gainDb frequency receiver
    if reopened.1 then reopened
    else reopenWithin gainDb frequency attempts reopened.2

/-- The end of the loop, and what follows it. -/
def exit (d : Daemon) : Daemon :=
  let d :=
    { d with
      iqClients := fun _ => false
      rtlClient := false
      txClient := none
      httpClient := none }
  let d := d.withPlane (daemonTxShutdown config d.plane)
  let unprepared :=
    if config.transmitEnabled then d.tx.receiver.disableTransmitPreparation
    else (0, d.tx.receiver)
  let d := d.withReceiver unprepared.2
  let d :=
    if unprepared.1 = 0 then d
    else d.withPlane (d.plane.withDiagnostics
      TxDiagnostics.recordCleanupFailure)
  { d.withReceiver d.tx.receiver.stop with running := false }

/-- The daemon once its transmissions and its receiver were stopped for a
recovery. -/
def abandoned (d : Daemon) : Daemon :=
  let p := (NetworkTx.disconnectStream (daemonCallbacks config.carriesDc)
    d.plane).2
  let p := (NetworkTx.release (daemonCallbacks config.carriesDc)
    p.network.lease p).2
  let d := (d.closeIqClients.closeTxClient.withPlane p).clearPrebuffer
  let d := d.withPlane (daemonTxShutdown config d.plane)
  d.withReceiver d.tx.receiver.stop

/-- The branch taken when the receiver fails: the radio is opened again and
the records start anew, or the loop ends. -/
def recover (attempts : ℕ) (d : Daemon) : Daemon :=
  let stopped := d.abandoned config
  let reopened := reopenWithin config (d.tx.receiver.gainDb.getD 20)
    d.tx.receiver.frequencyHz (min 60 attempts) stopped.tx.receiver
  let d := stopped.withReceiver reopened.2
  if reopened.1 then
    { (d.withPlane (d.plane.restarted config.transmitEnabled)).withTx
        (·.note .session) with
      observedMicrophonePtt := none }
  else d.exit config

/-! ## The switches -/

/-- An edge of the microphone's switch. -/
def microphoneEdge (pressed : Bool) (nowMs : UInt64) (d : Daemon) : Daemon :=
  let allowed := d.tx.receiver.frequencyHz.any fun frequency =>
    (DaemonTx.resolvePhysicalTxMode d.plane.world.api d.plane.world.station
      frequency.1).isSome
  if pressed && d.plane.tx.physicalPttArmed && !allowed then
    d.withPlane (d.plane.withDiagnostics TxDiagnostics.reject)
  else
    let switched := TxControl.physicalPtt (daemonCallbacks config.carriesDc)
      pressed nowMs d.plane.tx d.plane.toTxContext
    let p := TuneControl.reconcile false (TxPlane.after switched.2)
    d.withPlane
      (match switched.1 with
        | .busy | .inhibited => p.withDiagnostics TxDiagnostics.reject
        | .hardwareError =>
          p.withDiagnostics TxDiagnostics.recordCleanupFailure
        | _ => p)

/-- The block that reads the switches. -/
def switches (nowMs : UInt64) (d : Daemon) : Daemon :=
  match d.tx.receiver.physicalInputs with
  | none => d
  | some inputs =>
    if d.loggedInputs.any (inputs.equal ·) then d
    else
      let edge := d.observedMicrophonePtt != some inputs.micPtt
      let d := { d with loggedInputs := some inputs }.withTx
        (·.note (.reading inputs))
      let d :=
        if config.transmitEnabled && edge then
          d.microphoneEdge config inputs.micPtt nowMs
        else d
      if edge then { d with observedMicrophonePtt := some inputs.micPtt }
      else d

/-! ## The `rtl_tcp` client -/

/-- A command of the client. The sample rate is no matter here. -/
def rtlCommand (command : RtlTcpCommand) (d : Daemon) : Daemon :=
  if command.id = 1 ∧ config.rxTuningEnabled = true
      ∧ d.plane.tx.owner = .none ∧ d.plane.world.station.held = false then
    d.withTx fun tx => (apiTuneRx command.parameter tx).2
  else d

/-- A byte of the client. -/
def rtlByte (d : Daemon) (byte : UInt8) : Daemon :=
  let parsed := rtlTcpParseByte d.rtlPending byte
  let d := { d with rtlPending := parsed.2 }
  match parsed.1 with
  | some command => d.rtlCommand config command
  | none => d

/-- The blocks of the client: it is accepted, and its commands are
received. -/
def rtl (input : LoopInput) (d : Daemon) : Daemon :=
  let d :=
    if config.rtlTcpEnabled && !d.rtlClient && input.rtlAccepted then
      { d with rtlClient := true, rtlPending := [] }
    else d
  if !d.rtlClient then d
  else
    match input.rtlReceived with
    | .data [] | .failed => { d with rtlClient := false }
    | .data bytes => (bytes.take 256).foldl (rtlByte config) d
    | .wouldBlock => d

/-! ## Requests -/

/-- The size of a request's buffer, without its closing zero. -/
def requestCapacity : ℕ := 16383

/-- The size of the buffer for a response. -/
def responseCapacity : ℕ := 4096

/-- What a request has behind its blank line. -/
def requestBody (buffer : List UInt8) : List UInt8 :=
  match CText.strstr HttpRequest.blankLine (CText.ofBuffer buffer) with
  | none => []
  | some rest =>
    buffer.drop ((CText.ofBuffer buffer).length - rest.length + 4)

/-- The size of the samples' frames, by the session's profile. -/
def frameBytes (network : NetworkTx) : ℕ :=
  if network.profile.source = .iq then 4 else 2

/-- `FLEX1500_API_OPEN_TX_STREAM`. -/
def openTxStream (headerSent : Bool) (d : Daemon) : Daemon :=
  let d := d.clearPrebuffer
  if headerSent then
    { d.withTx (·.note (.attached d.connections d.plane.network.lease
        (frameBytes d.plane.network))) with
      txClient := some
        { connection := d.connections
          lease := d.plane.network.lease
          frameBytes := frameBytes d.plane.network }
      connections := d.connections + 1 }
  else { d with txClient := d.txClient.map ({ · with isOpen := false }) }

/-- `FLEX1500_API_OPEN_IQ_STREAM`: the first slot that is free is taken. -/
def openIqStream (headerSent : Bool) (d : Daemon) : Daemon :=
  match (List.finRange maxIqClients).find? fun i => !d.iqClients i with
  | none => d
  | some slot =>
    if headerSent then
      { d with iqClients := Function.update d.iqClients slot true }
    else d

/-- A stream of samples is no matter of the rest. -/
theorem openIqStream_eq (headerSent : Bool) (d : Daemon) :
    ∃ slots, d.openIqStream headerSent = { d with iqClients := slots } := by
  unfold openIqStream
  split
  · exact ⟨d.iqClients, rfl⟩
  split
  · exact ⟨_, rfl⟩
  · exact ⟨d.iqClients, rfl⟩

@[simp] theorem openIqStream_plane (headerSent : Bool) (d : Daemon) :
    (d.openIqStream headerSent).plane = d.plane := by
  obtain ⟨slots, hslots⟩ := openIqStream_eq headerSent d
  rw [hslots]

/-- Samples kept for the pre-roll, as far as there is room. -/
def prebuffer (bytes : List TxByte) (d : Daemon) : Daemon :=
  d.withTx fun tx =>
    { tx with
      networkPrebuffer := tx.networkPrebuffer
        ++ bytes.take (DaemonTx.prebufferBytes - tx.networkPrebuffer.length) }

/-- Samples handed to the transmitter. -/
def push (bytes : List TxByte) (rawIq : Bool) (d : Daemon) : Daemon :=
  (d.withReceiver (d.tx.receiver.networkTxPush bytes.length rawIq).2).withTx
    (·.note (.handed d.plane.network.lease bytes))

/-- `FLEX1500_API_PUSH_TX_AUDIO`, for a body received under a lease. -/
def pushTxAudio (lease : UInt64) (body : List UInt8) (d : Daemon) : Daemon :=
  let bytes := body.map fun value => { value := value, lease := lease }
  let d := d.withTx (·.note (.counted d.plane.network.lease bytes))
  if bytes = [] then d
  else if !d.plane.network.keyed then d.prebuffer bytes
  else d.push bytes false

/-- A request that is complete. -/
def request (input : LoopInput) (buffer : List UInt8) (d : Daemon) : Daemon :=
  let text := CText.ofBuffer buffer
  let p := d.plane.withApi ({ · with requestNowMs := input.requestMs })
  let answered := Api.dispatch (daemonCallbacks config.carriesDc) daemonOps
    text { frequencyHz := d.tx.receiver.frequencyHz.map (·.1) }
    responseCapacity input.pages p
  let d := d.withPlane answered.2
  let d :=
    if !d.plane.network.reserved && d.txClient.isSome then
      d.closeTxClient.clearPrebuffer.clearTail
    else d
  match answered.1.action with
  | .openIqStream => d.openIqStream input.headerSent
  | .openTxStream => d.openTxStream input.headerSent
  | .pushTxAudio =>
    d.pushTxAudio ((HttpRequest.lease text).getD 0) (requestBody buffer)
  | _ => d

/-- The blocks of the HTTP client: it is accepted, its request is received,
and answered once it is complete. -/
def http (input : LoopInput) (d : Daemon) : Daemon :=
  match d.httpClient <|> (if input.httpAccepted then some [] else none) with
  | none => d
  | some buffer =>
    let bytes :=
      match input.httpReceived with
      | .data bytes => bytes.take (requestCapacity - buffer.length)
      | _ => []
    let disconnected :=
      match input.httpReceived with
      | .data _ => bytes.isEmpty
      | .wouldBlock => false
      | .failed => true
    let buffer := buffer ++ bytes
    let complete := HttpRequest.complete buffer
    let overflow := buffer.length == requestCapacity && !complete
    let d := if complete then d.request config input buffer else d
    { d with
      httpClient :=
        if complete || disconnected || overflow then none else some buffer }

/-! ## The transmit stream -/

/-- The stream's connection is gone. -/
def streamClosed (d : Daemon) : Daemon :=
  ((d.closeTxClient.withPlane (NetworkTx.disconnectStream
    (daemonCallbacks config.carriesDc) d.plane).2).clearPrebuffer).clearTail

/-- Samples passed on: kept while the session is not keyed, and handed to
the transmitter while it is. What was passed on counts toward the
pre-roll. -/
def deliver (connection : ℕ) (chunk : List TxByte) (nowMs : UInt64)
    (d : Daemon) : Daemon :=
  let network := d.plane.network
  let room := DaemonTx.prebufferBytes - d.tx.networkPrebuffer.length
  let bytes := if network.keyed then chunk else chunk.take room
  let recorded := network.recordData network.lease
    (bytes.length / frameBytes network) nowMs
  let d := d.withTx (·.note (.delivered connection (bytes.map (·.value))))
  let d :=
    if network.keyed then d.push bytes (network.profile.source = .iq)
    else d.prebuffer bytes
  let d := d.withPlane (d.plane.withNetwork fun _ => recorded.2)
  if recorded.1 = .ok then
    d.withTx (·.note (.counted network.lease bytes))
  else d

/-- Bytes received: with what was left over they make whole frames, and
what is left over then is kept. -/
def streamData (client : TxClient) (bytes : List UInt8) (nowMs : UInt64)
    (d : Daemon) : Daemon :=
  let data := d.tx.networkTail
    ++ bytes.map fun value => { value := value, lease := client.lease }
  let whole := data.length - data.length % frameBytes d.plane.network
  (d.withTx fun tx =>
    { tx.note (.received client.connection bytes) with
      networkTail := data.drop whole }).deliver
    client.connection (data.take whole) nowMs

/-- How many bytes the stream may bring. -/
def receiveLimit (d : Daemon) : ℕ :=
  let network := d.plane.network
  let availableFrames :=
    if network.keyed then
      d.tx.receiver.networkTxAvailable (network.profile.source = .iq)
    else networkTxMinPrebufferFrames - network.bufferedFrames
  min (availableFrames * frameBytes network - d.tx.networkTail.length)
    (8192 + 4 - d.tx.networkTail.length)

/-- The block that receives the stream. -/
def stream (input : LoopInput) (d : Daemon) : Daemon :=
  match d.txClient with
  | none => d
  | some client =>
    if d.receiveLimit = 0 then d
    else
      match (if client.isOpen then input.streamReceived else .failed) with
      | .data bytes =>
        let bytes := bytes.take d.receiveLimit
        if bytes = [] then d.streamClosed config
        else d.streamData client bytes input.dataMs
      | .wouldBlock => d
      | .failed => d.streamClosed config

/-! ## The loop -/

/-- The block that writes received samples, as far as it loses a client. -/
def publish (input : LoopInput) (d : Daemon) : Daemon :=
  { d with
    rtlClient := d.rtlClient && !input.rtlLost
    iqClients := fun i => d.iqClients i && !input.iqLost.contains i }

/-- The blocks behind the pump. -/
def serve (input : LoopInput) (d : Daemon) : Daemon :=
  d.switches config input.pttMs
    |>.rtl config input
    |>.http config input
    |>.stream config input
    |>.publish input

/-- One pass of the loop. -/
def iterate (input : LoopInput) (d : Daemon) : Daemon :=
  let d := d.ticks config input
  let pumped := d.tx.receiver.pump
  let d := d.withReceiver pumped.2
  if pumped.1 ≠ 0 ∨ pumped.2.running = false then
    d.recover config input.recoveryAttempts
  else d.serve config input

/-- The loop as long as it runs. -/
def step (d : Daemon) (input : LoopInput) : Daemon :=
  if !d.running then d
  else if input.stopRequested then d.exit config
  else d.iterate config input

/-- The daemon at the top of its loop, over a receiver that was opened, or
at its end where it was not. -/
def initial (receiver : UsbRx) (running : Bool) : Daemon where
  running := running
  plane :=
    { tx := TxControl.armPhysicalPtt (.init config.transmitEnabled
        (UInt64.ofNat txTimeoutDefaultSeconds * 1000))
      tune := .init config.transmitEnabled
      network := .init config.transmitEnabled
      world :=
        { api :=
            { ApiController.init config.rxTuningEnabled true
                config.testPageEnabled with
              stationAttached := config.rxTuningEnabled
              tuneAttached := config.transmitEnabled
              networkAttached := config.transmitEnabled
              nextStationLease :=
                if config.rxTuningEnabled then config.stationLease else 1
              nextTuneLease :=
                if config.transmitEnabled then config.tuneLease else 1
              nextTxLease :=
                if config.transmitEnabled then config.txLease else 1 }
          station := .init
          radio := { receiver := receiver, log := [.session] } } }

/-- What `serve_live_rx_at` does before its loop. -/
def boot (answers : ℕ → UsbAnswer) : Daemon :=
  let started := (UsbRx.create answers).start
  if started.1 ≠ 0 then initial config started.2.stop false
  else
    let gained := started.2.setGain 20
    if gained.1 ≠ 0 then initial config gained.2.stop false
    else
      let prepared :=
        if config.transmitEnabled then gained.2.enableTransmitPreparation
        else (0, gained.2)
      if prepared.1 ≠ 0 then initial config prepared.2.stop false
      else initial config prepared.2 true

/-- **A run of the daemon** over the inputs of its loop. -/
def run (answers : ℕ → UsbAnswer) (inputs : List LoopInput) : Daemon :=
  inputs.foldl (step config) (boot config answers)

end Loop

end Daemon
