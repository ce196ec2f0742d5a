import Flex1500.TxControl

/-!
# The two transmit sessions

Beside the controller the daemon keeps two records of who is transmitting
and until when. `tune_control` holds the lease of the tune carrier and the
diagnostics of every transmission; `network_tx` holds the session of a
network client, from its reservation over its pre-roll to its keying.

Both reach the controller, and through it the callbacks, which reach both
records in turn. `TxPlane` puts the three side by side, with a world `ρ`
for whatever else the callbacks act on, and the functions of
`tune_control.c` and `network_tx.c` are functions on it. The pointers
between the records are never null once the daemon has linked them, so the
null checks of the two files have no counterpart here. Null is left to the
dispatcher, which is the one place that does see missing records.
-/

/-! ## Tune -/

/-- `FLEX1500_TUNE_LEASE_MS`. -/
def tuneLeaseMs : UInt64 := 15000

/-- `FLEX1500_TUNE_HARD_LIMIT_MS`. -/
def tuneHardLimitMs : UInt64 := 60000

/-- What a tune operation reports (`flex1500_tune_result`). -/
inductive TuneResult where
  | ok | disabled | busy | invalidLease | expired | hardLimit | hardwareError
  deriving DecidableEq, Repr

/-- `flex1500_tune_result_name`. -/
def TuneResult.name : TuneResult → String
  | .ok => "ok"
  | .disabled => "disabled"
  | .busy => "busy"
  | .invalidLease => "invalid_lease"
  | .expired => "expired"
  | .hardLimit => "hard_limit"
  | .hardwareError => "hardware_error"

/-- The transmit counters (`flex1500_tx_diagnostics`). They are only ever
reported. -/
structure TxDiagnostics where
  starts : UInt64 := 0
  stops : UInt64 := 0
  underruns : UInt64 := 0
  clippedFrames : UInt64 := 0
  limitedFrames : UInt64 := 0
  droppedMicrophoneFrames : UInt64 := 0
  peakQueuedFrames : UInt64 := 0
  stopRequestedFrames : UInt64 := 0
  gracefulDrainedFrames : UInt64 := 0
  gracefulDiscardedFrames : UInt64 := 0
  gracefulDrainMs : UInt64 := 0
  rejectedOwnershipRequests : UInt64 := 0
  watchdogStops : UInt64 := 0
  cleanupFailures : UInt64 := 0
  deriving DecidableEq, Repr

/-- A peak once a value was seen. -/
def raisePeak (value peak : UInt64) : UInt64 :=
  if peak < value then value else peak

/-- A peak that was raised is raised once more. -/
theorem raisePeak_raisePeak {first second : UInt64} (h : first ≤ second)
    (peak : UInt64) :
    raisePeak second (raisePeak first peak) = raisePeak second peak := by
  have hle := UInt64.le_iff_toNat_le.mp h
  unfold raisePeak
  simp only [UInt64.lt_iff_toNat_lt]
  by_cases hfirst : peak.toNat < first.toNat
  · rw [if_pos hfirst, if_pos (Nat.lt_of_lt_of_le hfirst hle)]
    by_cases hsecond : first.toNat < second.toNat
    · exact if_pos hsecond
    · rw [if_neg hsecond]
      exact UInt64.toNat_inj.mp (by omega)
  · rw [if_neg hfirst]

/-- A peak is as high as what was seen. -/
theorem toNat_raisePeak (value peak : UInt64) :
    (raisePeak value peak).toNat = max peak.toNat value.toNat := by
  unfold raisePeak
  simp only [UInt64.lt_iff_toNat_lt]
  split
  · omega
  · omega

namespace TxDiagnostics

/-- A refused request for ownership. -/
def reject (d : TxDiagnostics) : TxDiagnostics :=
  { d with rejectedOwnershipRequests := d.rejectedOwnershipRequests + 1 }

/-- `flex1500_tune_control_record_cleanup_failure`. -/
def recordCleanupFailure (d : TxDiagnostics) : TxDiagnostics :=
  { d with cleanupFailures := d.cleanupFailures + 1 }

/-- A stop on a watchdog's account. -/
def recordWatchdogStop (d : TxDiagnostics) : TxDiagnostics :=
  { d with watchdogStops := d.watchdogStops + 1 }

/-- `flex1500_tune_control_record_underrun`. -/
def recordUnderrun (count : UInt64) (d : TxDiagnostics) : TxDiagnostics :=
  { d with underruns := d.underruns + count }

/-- `flex1500_tune_control_record_audio_quality`. -/
def recordAudioQuality (clipped limited dropped : UInt64) (d : TxDiagnostics) :
    TxDiagnostics :=
  { d with
    clippedFrames := d.clippedFrames + clipped
    limitedFrames := d.limitedFrames + limited
    droppedMicrophoneFrames := d.droppedMicrophoneFrames + dropped }

/-- `flex1500_tune_control_record_graceful_drain`. -/
def recordGracefulDrain
    (peak stopRequested drained discarded drainMs : UInt64) (d : TxDiagnostics) : TxDiagnostics :=
  { d with
    peakQueuedFrames := raisePeak peak d.peakQueuedFrames
    stopRequestedFrames := d.stopRequestedFrames + stopRequested
    gracefulDrainedFrames := d.gracefulDrainedFrames + drained
    gracefulDiscardedFrames := d.gracefulDiscardedFrames + discarded
    gracefulDrainMs := d.gracefulDrainMs + drainMs }

end TxDiagnostics

/-- The tune lease and the diagnostics (`flex1500_tune_control`). -/
structure TuneControl where
  enabled : Bool
  active : Bool := false
  lease : UInt64 := 0
  startedMs : UInt64 := 0
  renewedMs : UInt64 := 0
  diagnostics : TxDiagnostics := {}
  deriving DecidableEq, Repr

namespace TuneControl

/-- `flex1500_tune_control_init`. -/
def init (enabled : Bool) : TuneControl where
  enabled := enabled

/-- The record with its lease given up. -/
def ended (tune : TuneControl) : TuneControl :=
  { tune with active := false, lease := 0, startedMs := 0, renewedMs := 0 }

/-- The record with a lease just granted. -/
def started (tune : TuneControl) (nowMs lease : UInt64) : TuneControl :=
  { tune with
    active := true, lease := lease, startedMs := nowMs, renewedMs := nowMs }

/-- The record with its lease renewed. -/
def renewed (tune : TuneControl) (nowMs : UInt64) : TuneControl :=
  { tune with renewedMs := nowMs }

/-- The record with other diagnostics. -/
def tallied (tune : TuneControl) (d : TxDiagnostics) : TuneControl :=
  { tune with diagnostics := d }

end TuneControl

/-! ## The network session -/

/-- `FLEX1500_NETWORK_TX_LEASE_MS`. -/
def networkTxLeaseMs : UInt64 := 15000

/-- `FLEX1500_NETWORK_TX_MIN_PREBUFFER_FRAMES`. -/
def networkTxMinPrebufferFrames : ℕ := 4096

/-- What a session's samples are (`flex1500_network_tx_source`). -/
inductive NetworkTxSource where
  | audio | iq
  deriving DecidableEq, Repr

/-- How they are to be modulated (`flex1500_network_tx_mode`). -/
inductive NetworkTxMode where
  | usb | lsb | am | iqMode
  deriving DecidableEq, Repr

/-- The profile a session is reserved with, and keeps
(`flex1500_network_tx_profile`). -/
structure NetworkTxProfile where
  mode : NetworkTxMode := .usb
  source : NetworkTxSource := .audio
  drivePercent : ℕ := 0
  sampleRate : ℕ := 0
  deriving DecidableEq, Repr

/-- What a session operation reports (`flex1500_network_tx_result`). -/
inductive NetworkTxResult where
  | ok | disabled | busy | invalid | stale | notReady | hardwareError
  | expired
  deriving DecidableEq, Repr

/-- `flex1500_network_tx_result_name`. -/
def NetworkTxResult.name : NetworkTxResult → String
  | .ok => "ok"
  | .disabled => "disabled"
  | .busy => "busy"
  | .invalid => "invalid"
  | .stale => "stale"
  | .notReady => "not_ready"
  | .hardwareError => "hardware_error"
  | .expired => "expired"

/-- A network session (`flex1500_network_tx`).

`recordedFrames` is not in the code and no function here reads it: it counts
the frames recorded since the stream was attached, or since a transmission
of the session was last stopped. -/
structure NetworkTx where
  enabled : Bool
  reserved : Bool := false
  streamConnected : Bool := false
  keyed : Bool := false
  lease : UInt64 := 0
  renewedMs : UInt64 := 0
  lastDataMs : UInt64 := 0
  bufferedFrames : ℕ := 0
  profile : NetworkTxProfile := {}
  recordedFrames : ℕ := 0
  deriving DecidableEq, Repr

/-- `FLEX1500_TX_MIN_DRIVE_PERCENT`. -/
def txMinDrivePercent : ℕ := 1

/-- `FLEX1500_TX_DEFAULT_DRIVE_PERCENT`. -/
def txDefaultDrivePercent : ℕ := 100

/-- `FLEX1500_TX_MAX_DRIVE_PERCENT`. -/
def txMaxDrivePercent : ℕ := 100

/-- `valid_profile`. -/
def NetworkTxProfile.valid (profile : NetworkTxProfile) : Bool :=
  if profile.drivePercent < txMinDrivePercent ∨
      txMaxDrivePercent < profile.drivePercent ∨ profile.sampleRate ≠ 48000
  then false
  else
    (profile.source = .audio ∧
      (profile.mode = .usb ∨ profile.mode = .lsb ∨ profile.mode = .am)) ∨
    (profile.source = .iq ∧ profile.mode = .iqMode)

namespace NetworkTx

/-- `flex1500_network_tx_init`. -/
def init (enabled : Bool) : NetworkTx where
  enabled := enabled

/-- `owns`. -/
def owns (session : NetworkTx) (lease : UInt64) : Bool :=
  session.reserved && lease != 0 && session.lease == lease

/-- `clear_session`. -/
def cleared (session : NetworkTx) : NetworkTx where
  enabled := session.enabled

/-- The session with a reservation just made. -/
def acquired (session : NetworkTx) (profile : NetworkTxProfile)
    (lease nowMs : UInt64) : NetworkTx :=
  { session with
    reserved := true, lease := lease, renewedMs := nowMs, lastDataMs := nowMs
    profile := profile }

/-- The session with its lease renewed. -/
def renewed (session : NetworkTx) (nowMs : UInt64) : NetworkTx :=
  { session with renewedMs := nowMs }

/-- The session with a stream just attached. -/
def attached (session : NetworkTx) (nowMs : UInt64) : NetworkTx :=
  { session with
    streamConnected := true, bufferedFrames := 0, lastDataMs := nowMs
    recordedFrames := 0 }

/-- The session with frames recorded, the pre-roll filling up to its
bound. -/
def recorded (session : NetworkTx) (frames : ℕ) (nowMs : UInt64) :
    NetworkTx :=
  { session with
    bufferedFrames :=
      if session.bufferedFrames < networkTxMinPrebufferFrames then
        session.bufferedFrames + min frames
          (networkTxMinPrebufferFrames - session.bufferedFrames)
      else session.bufferedFrames
    lastDataMs := nowMs
    recordedFrames := session.recordedFrames + frames }

/-- The session just keyed. -/
def keyedAt (session : NetworkTx) (nowMs : UInt64) : NetworkTx :=
  { session with keyed := true, renewedMs := nowMs }

/-- The session no longer keyed. -/
def unkeyed (session : NetworkTx) : NetworkTx :=
  { session with keyed := false }

/-- The session with its pre-roll spent. -/
def drained (session : NetworkTx) : NetworkTx :=
  { session with bufferedFrames := 0, recordedFrames := 0 }

/-- The session with its stream gone. -/
def detached (session : NetworkTx) : NetworkTx :=
  { session with
    streamConnected := false, bufferedFrames := 0, recordedFrames := 0 }

/-- `flex1500_network_tx_keepalive`. -/
def keepalive (lease nowMs : UInt64) (session : NetworkTx) :
    NetworkTxResult × NetworkTx :=
  if !session.owns lease then (.stale, session)
  else (.ok, session.renewed nowMs)

/-- `flex1500_network_tx_attach_stream`. -/
def attachStream (lease nowMs : UInt64) (session : NetworkTx) :
    NetworkTxResult × NetworkTx :=
  if !session.owns lease then (.stale, session)
  else if session.streamConnected then (.busy, session)
  else (.ok, session.attached nowMs)

/-- `flex1500_network_tx_record_data`. -/
def recordData (lease : UInt64) (frames : ℕ) (nowMs : UInt64)
    (session : NetworkTx) : NetworkTxResult × NetworkTx :=
  if !session.owns lease then (.stale, session)
  else if !session.streamConnected || frames == 0 then (.invalid, session)
  else (.ok, session.recorded frames nowMs)

/-- What owning a session means. -/
theorem owns_iff {session : NetworkTx} {lease : UInt64} :
    session.owns lease = true
      ↔ session.reserved = true ∧ lease ≠ 0 ∧ session.lease = lease := by
  simp [owns, and_assoc]

end NetworkTx

/-! ## The three records together -/

/-- What the callbacks act on: the two sessions, and a world beyond them. -/
structure TxContext (ρ : Type) where
  tune : TuneControl
  network : NetworkTx
  world : ρ

/-- The controller beside the context of its callbacks. -/
structure TxPlane (ρ : Type) extends TxContext ρ where
  tx : TxControl

variable {ρ : Type}

namespace TxPlane

/-- The plane after a controller operation. -/
def after (r : TxControl × TxContext ρ) : TxPlane ρ :=
  { toTxContext := r.2, tx := r.1 }

/-- The plane with the tune record changed. -/
def withTune (p : TxPlane ρ) (f : TuneControl → TuneControl) : TxPlane ρ :=
  { p with tune := f p.tune }

/-- The plane with the network session changed. -/
def withNetwork (p : TxPlane ρ) (f : NetworkTx → NetworkTx) : TxPlane ρ :=
  { p with network := f p.network }

/-- The plane with the diagnostics changed. -/
def withDiagnostics (p : TxPlane ρ) (f : TxDiagnostics → TxDiagnostics) :
    TxPlane ρ :=
  p.withTune (fun t => t.tallied (f t.diagnostics))

/-- The plane with the world changed. -/
def withWorld (p : TxPlane ρ) (w : ρ) : TxPlane ρ :=
  { p with world := w }

section Fields

variable (p : TxPlane ρ) (f : TuneControl → TuneControl)
  (g : NetworkTx → NetworkTx) (d : TxDiagnostics → TxDiagnostics) (w : ρ)

@[simp] theorem withTune_tx : (p.withTune f).tx = p.tx := rfl
@[simp] theorem withTune_tune : (p.withTune f).tune = f p.tune := rfl
@[simp] theorem withTune_network : (p.withTune f).network = p.network := rfl
@[simp] theorem withTune_world : (p.withTune f).world = p.world := rfl
@[simp] theorem withNetwork_tx : (p.withNetwork g).tx = p.tx := rfl
@[simp] theorem withNetwork_tune : (p.withNetwork g).tune = p.tune := rfl
@[simp] theorem withNetwork_network :
    (p.withNetwork g).network = g p.network := rfl
@[simp] theorem withNetwork_world : (p.withNetwork g).world = p.world := rfl
@[simp] theorem withDiagnostics_tx : (p.withDiagnostics d).tx = p.tx := rfl
@[simp] theorem withDiagnostics_tune :
    (p.withDiagnostics d).tune = p.tune.tallied (d p.tune.diagnostics) := rfl
@[simp] theorem withDiagnostics_network :
    (p.withDiagnostics d).network = p.network := rfl
@[simp] theorem withDiagnostics_world :
    (p.withDiagnostics d).world = p.world := rfl
@[simp] theorem withWorld_tx : (p.withWorld w).tx = p.tx := rfl
@[simp] theorem withWorld_tune : (p.withWorld w).tune = p.tune := rfl
@[simp] theorem withWorld_network : (p.withWorld w).network = p.network := rfl
@[simp] theorem withWorld_world : (p.withWorld w).world = w := rfl

end Fields

end TxPlane

variable (cb : TxCallbacks (TxContext ρ))

namespace TuneControl

/-- `stop_active`: the carrier's owner is released and the lease ends, with
the reason reported unless the release failed. -/
def stopActive (reason : TuneResult) (p : TxPlane ρ) :
    TuneResult × TxPlane ρ :=
  if !p.tune.active then (reason, p)
  else
    let r := TxControl.release cb .tune p.tx p.toTxContext
    (if r.1 = .ok then reason else .hardwareError,
      ((TxPlane.after r.2).withDiagnostics (fun d =>
        { d with
          stops := d.stops + 1
          watchdogStops :=
            if reason = .expired ∨ reason = .hardLimit
            then d.watchdogStops + 1 else d.watchdogStops
          cleanupFailures :=
            if r.1 ≠ .ok then d.cleanupFailures + 1
            else d.cleanupFailures })).withTune ended)

/-- `flex1500_tune_control_start`. -/
def start (nowMs lease : UInt64) (p : TxPlane ρ) : TuneResult × TxPlane ρ :=
  if !p.tune.enabled then (.disabled, p)
  else if p.tune.active then (.busy, p.withDiagnostics TxDiagnostics.reject)
  else if lease = 0 then (.invalidLease, p)
  else
    let r := TxControl.request cb .tune nowMs p.tx p.toTxContext
    let q := TxPlane.after r.2
    if r.1 ≠ .ok then
      (if r.1 = .busy then .busy else .hardwareError,
        if q.tx.cleanupFailed then
          q.withDiagnostics TxDiagnostics.recordCleanupFailure
        else q)
    else
      (.ok, (q.withTune (started · nowMs lease)).withDiagnostics
        (fun d => { d with starts := d.starts + 1 }))

/-- `flex1500_tune_control_keepalive`. -/
def keepalive (nowMs lease : UInt64) (p : TxPlane ρ) :
    TuneResult × TxPlane ρ :=
  if !p.tune.enabled then (.disabled, p)
  else if !p.tune.active || lease == 0 || lease != p.tune.lease then
    (.invalidLease, p.withDiagnostics TxDiagnostics.reject)
  else if tuneHardLimitMs ≤ nowMs - p.tune.startedMs then
    stopActive cb .hardLimit p
  else if tuneLeaseMs ≤ nowMs - p.tune.renewedMs then
    stopActive cb .expired p
  else (.ok, p.withTune (renewed · nowMs))

/-- `flex1500_tune_control_stop`. -/
def stop (lease : UInt64) (p : TxPlane ρ) : TuneResult × TxPlane ρ :=
  if !p.tune.enabled then (.disabled, p)
  else if !p.tune.active || lease == 0 || lease != p.tune.lease then
    (.invalidLease, p.withDiagnostics TxDiagnostics.reject)
  else stopActive cb .ok p

/-- `flex1500_tune_control_tick`. -/
def tick (nowMs : UInt64) (p : TxPlane ρ) : TuneResult × TxPlane ρ :=
  if !p.tune.enabled then (.disabled, p)
  else if !p.tune.active then (.ok, p)
  else if tuneHardLimitMs ≤ nowMs - p.tune.startedMs then
    stopActive cb .hardLimit p
  else if tuneLeaseMs ≤ nowMs - p.tune.renewedMs then
    stopActive cb .expired p
  else (.ok, p)

/-- `flex1500_tune_control_reconcile`: a lease whose owner is gone ends. -/
def reconcile (watchdogStop : Bool) (p : TxPlane ρ) : TxPlane ρ :=
  if !p.tune.active || p.tx.owner == .tune then p
  else
    (p.withTune ended).withDiagnostics (fun d =>
      { d with
        stops := d.stops + 1
        watchdogStops :=
          if watchdogStop then d.watchdogStops + 1 else d.watchdogStops })

/-- `flex1500_tune_control_shutdown`. -/
def shutdown (p : TxPlane ρ) : TxPlane ρ :=
  if p.tune.active then (stopActive cb .ok p).2 else p

end TuneControl

namespace NetworkTx

/-- `stop_if_keyed`. -/
def stopIfKeyed (p : TxPlane ρ) : NetworkTxResult × TxPlane ρ :=
  if !p.network.keyed then (.ok, p)
  else
    let r := TxControl.release cb .http p.tx p.toTxContext
    (if r.1 = .ok then .ok else .hardwareError,
      (TxPlane.after r.2).withNetwork unkeyed)

/-- `flex1500_network_tx_acquire`. -/
def acquire (profile : NetworkTxProfile) (lease nowMs : UInt64)
    (p : TxPlane ρ) : NetworkTxResult × TxPlane ρ :=
  if !p.network.enabled || !p.tx.enabled then (.disabled, p)
  else if !profile.valid || lease == 0 then (.invalid, p)
  else if p.network.reserved || p.tx.owner != .none then (.busy, p)
  else (.ok, p.withNetwork (acquired · profile lease nowMs))

/-- `flex1500_network_tx_ptt_start`. -/
def pttStart (lease nowMs : UInt64) (p : TxPlane ρ) :
    NetworkTxResult × TxPlane ρ :=
  if !p.network.owns lease then (.stale, p)
  else if p.network.streamConnected = false ∨
      p.network.bufferedFrames < networkTxMinPrebufferFrames then
    (.notReady, p)
  else if p.network.keyed then (.ok, p)
  else
    let r := TxControl.request cb .http nowMs p.tx p.toTxContext
    if r.1 = .busy then (.busy, TxPlane.after r.2)
    else if r.1 ≠ .ok then (.hardwareError, TxPlane.after r.2)
    else (.ok, (TxPlane.after r.2).withNetwork (keyedAt · nowMs))

/-- `flex1500_network_tx_ptt_stop`. -/
def pttStop (lease : UInt64) (p : TxPlane ρ) : NetworkTxResult × TxPlane ρ :=
  if !p.network.owns lease then (.stale, p)
  else if p.network.keyed then
    let r := TxControl.releaseGraceful cb .http p.tx p.toTxContext
    (if r.1 = .ok then .ok else .hardwareError,
      ((TxPlane.after r.2).withNetwork unkeyed).withNetwork drained)
  else (.ok, p)

/-- `flex1500_network_tx_release`. -/
def release (lease : UInt64) (p : TxPlane ρ) : NetworkTxResult × TxPlane ρ :=
  if !p.network.owns lease then (.stale, p)
  else
    let r := stopIfKeyed cb p
    (r.1, r.2.withNetwork cleared)

/-- `flex1500_network_tx_disconnect_stream`. -/
def disconnectStream (p : TxPlane ρ) : NetworkTxResult × TxPlane ρ :=
  if !p.network.reserved then (.ok, p)
  else
    let r := stopIfKeyed cb p
    (r.1, r.2.withNetwork detached)

/-- `flex1500_network_tx_tick`. -/
def tick (nowMs : UInt64) (p : TxPlane ρ) : NetworkTxResult × TxPlane ρ :=
  if !p.network.reserved then (.ok, p)
  else if nowMs - p.network.renewedMs < networkTxLeaseMs then (.ok, p)
  else
    let r := stopIfKeyed cb p
    (if r.1 ≠ .ok then r.1 else .expired, r.2.withNetwork cleared)

/-- `flex1500_network_tx_reconcile`: a keyed session whose owner is gone is
dropped. -/
def reconcile (p : TxPlane ρ) : TxPlane ρ :=
  if p.network.reserved && p.network.keyed && p.tx.owner != .http then
    p.withNetwork cleared
  else p

end NetworkTx
