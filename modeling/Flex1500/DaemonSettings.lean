import Mathlib.Data.List.Induction
import Flex1500.Daemon

/-!
# Settings stay while somebody transmits

A transmission is made with the settings it was started with, so nothing may
change them under it. No single place in the code sees to that: each route
of the dispatcher that changes a setting asks for an owner first, the
`rtl_tcp` client is asked about in the loop, the gain is refused by the
receiver, and a session keeps its profile since no operation but the one
that reserves it writes one.

The dispatcher is taken over every request, route by route. That it does not
reach the tune callback is said as before: the answer and the state are the
same whatever the callback is.
-/

open CText HttpRequest

/-! ## The settings -/

/-- The settings a transmission is made with. -/
structure TxSettings where
  rxMode : String
  rxBandwidthHz : ℕ
  txDrivePercent : ℕ
  txMicrophoneGainDb : ℕ
  txCompressorEnabled : Bool
  maximumKeyMs : UInt64
  deriving DecidableEq, Repr

section Settings

variable {ρ : Type} {cb : TxCallbacks (TxContext (ApiWorld ρ))}
variable {p q : TxPlane (ApiWorld ρ)}

/-- The settings of a plane. -/
def TxPlane.settings (p : TxPlane (ApiWorld ρ)) : TxSettings where
  rxMode := p.world.api.rxMode
  rxBandwidthHz := p.world.api.rxBandwidthHz
  txDrivePercent := p.world.api.txDrivePercent
  txMicrophoneGainDb := p.world.api.txMicrophoneGainDb
  txCompressorEnabled := p.world.api.txCompressorEnabled
  maximumKeyMs := p.tx.maximumKeyMs

/-- Callbacks that leave the API controller alone. -/
structure TxCallbacks.KeepsApi (cb : TxCallbacks (TxContext (ApiWorld ρ))) :
    Prop where
  start : ∀ owner control (k : TxContext (ApiWorld ρ)),
    (cb.callStart owner control k).2.world.api = k.world.api
  stop : ∀ owner graceful control (k : TxContext (ApiWorld ρ)),
    (cb.callStop owner graceful control k).2.world.api = k.world.api

/-- The settings are those of the API controller and the key limit. -/
theorem TxPlane.settings_congr (hapi : q.world.api = p.world.api)
    (hkey : q.tx.maximumKeyMs = p.tx.maximumKeyMs) :
    q.settings = p.settings := by
  unfold settings
  rw [hapi, hkey]

variable (hcb : cb.KeepsApi)
include hcb

/-- A request for the transmitter changes no setting. -/
theorem TxControl.settings_request (owner : TxOwner) (nowMs : UInt64)
    (p : TxPlane (ApiWorld ρ)) :
    (TxPlane.after (request cb owner nowMs p.tx p.toTxContext).2).settings
      = p.settings := by
  rcases request_cases cb owner nowMs p.tx p.toTxContext with
    ⟨-, result, hr, -⟩ | ⟨-, -, hr⟩ | ⟨-, -, hr⟩
  · rw [hr]
    rfl
  · rw [hr]
    exact TxPlane.settings_congr (hcb.start _ _ _) rfl
  · rw [hr]
    exact TxPlane.settings_congr
      ((hcb.stop _ _ _ _).trans (hcb.start _ _ _)) rfl

/-- Nor does a release. -/
theorem TxControl.settings_releaseWith (graceful : Bool) (owner : TxOwner)
    (p : TxPlane (ApiWorld ρ)) :
    (TxPlane.after
      (releaseWith cb graceful owner p.tx p.toTxContext).2).settings
      = p.settings := by
  rcases releaseWith_cases cb graceful owner p.tx p.toTxContext with
    ⟨-, result, -, hr⟩ | ⟨-, hn, ho, hr⟩
  · rw [hr]
    rfl
  · rw [hr, stopOwner_of_owner cb graceful p.toTxContext (ho ▸ hn)]
    exact TxPlane.settings_congr (hcb.stop _ _ _ _) rfl

namespace TuneControl

theorem settings_stopActive (reason : TuneResult)
    (p : TxPlane (ApiWorld ρ)) :
    (stopActive cb reason p).2.settings = p.settings := by
  unfold stopActive
  split
  · rfl
  · exact TxControl.settings_releaseWith hcb false .tune p

/-- Starting the carrier changes no setting. -/
theorem settings_start (nowMs lease : UInt64) (p : TxPlane (ApiWorld ρ)) :
    (start cb nowMs lease p).2.settings = p.settings := by
  have hrequest := TxControl.settings_request hcb .tune nowMs p
  unfold start
  split
  · rfl
  split
  · rfl
  split
  · rfl
  dsimp only
  split
  · dsimp only
    split
    · exact hrequest
    · exact hrequest
  · exact hrequest

theorem settings_keepalive (nowMs lease : UInt64)
    (p : TxPlane (ApiWorld ρ)) :
    (keepalive cb nowMs lease p).2.settings = p.settings := by
  unfold keepalive
  split
  · rfl
  split
  · rfl
  split
  · exact settings_stopActive hcb _ p
  split
  · exact settings_stopActive hcb _ p
  · rfl

theorem settings_stop (lease : UInt64) (p : TxPlane (ApiWorld ρ)) :
    (stop cb lease p).2.settings = p.settings := by
  unfold stop
  split
  · rfl
  split
  · rfl
  · exact settings_stopActive hcb _ p

end TuneControl

namespace NetworkTx

theorem settings_stopIfKeyed (p : TxPlane (ApiWorld ρ)) :
    (stopIfKeyed cb p).2.settings = p.settings := by
  unfold stopIfKeyed
  split
  · rfl
  · exact TxControl.settings_releaseWith hcb false .http p

/-- Keying a session changes no setting. -/
theorem settings_pttStart (lease nowMs : UInt64)
    (p : TxPlane (ApiWorld ρ)) :
    (pttStart cb lease nowMs p).2.settings = p.settings := by
  have hrequest := TxControl.settings_request hcb .http nowMs p
  unfold pttStart
  split
  · rfl
  split
  · rfl
  split
  · rfl
  dsimp only
  split
  · exact hrequest
  split
  · exact hrequest
  · exact hrequest

theorem settings_pttStop (lease : UInt64) (p : TxPlane (ApiWorld ρ)) :
    (pttStop cb lease p).2.settings = p.settings := by
  unfold pttStop
  split
  · rfl
  split
  · exact TxControl.settings_releaseWith hcb true .http p
  · rfl

theorem settings_release (lease : UInt64) (p : TxPlane (ApiWorld ρ)) :
    (release cb lease p).2.settings = p.settings := by
  unfold release
  split
  · rfl
  · exact settings_stopIfKeyed hcb p

end NetworkTx

end Settings

/-! ## Requests -/

namespace Api

variable {ρ : Type} {cb : TxCallbacks (TxContext (ApiWorld ρ))}
variable {ops : RadioOps ρ} {p : TxPlane (ApiWorld ρ)} {request : CText}
variable {radio : RadioInfo} {capacity : ℕ} {pages : ApiPages}

/-- The station's routes change no setting. -/
theorem settings_ownerRoute :
    (ownerRoute request capacity p).2.settings = p.settings := by
  unfold ownerRoute
  split
  · rfl
  split
  · rfl
  split
  · rfl
  · rfl

section Transmit

variable (hcb : cb.KeepsApi)
include hcb

/-- Nor do the routes of a transmit session. -/
theorem settings_txRoute :
    (txRoute cb request radio capacity p).2.settings = p.settings := by
  have haudio (lease : UInt64) :
      (txAudio request lease p).2.settings = p.settings := by
    unfold txAudio
    split
    · rfl
    split
    · rfl
    · dsimp only
      split
      · split
        · rfl
        · rfl
      · split
        · rfl
        · rfl
  -- the routes in the order they are tried
  have hlease (lease : UInt64) :
      (txLeaseRoute cb request radio lease p).2.settings = p.settings := by
    unfold txLeaseRoute
    dsimp only
    split
    · rfl
    split
    · rfl
    split
    · split
      · exact NetworkTx.settings_pttStart hcb lease _ p
      · rfl
    split
    · exact NetworkTx.settings_pttStop hcb lease p
    split
    · exact NetworkTx.settings_release hcb lease p
    split
    · exact haudio lease
    · rfl
  have hoperation :
      (txOperation cb request radio p).2.settings = p.settings := by
    unfold txOperation
    split
    · unfold txSessionCreate
      dsimp only
      split
      · rfl
      · unfold NetworkTx.acquire
        split
        · rfl
        split
        · rfl
        split
        · rfl
        · rfl
    · split
      · rfl
      · exact hlease _
  unfold txRoute
  split
  · rfl
  dsimp only
  split
  · exact hoperation
  split
  · exact hoperation
  · dsimp only
    split
    · exact hoperation
    · exact hoperation

/-- Nor do the tune routes. -/
theorem settings_tuneRoute :
    (tuneRoute cb request radio capacity p).2.settings = p.settings := by
  unfold tuneRoute
  split
  · rfl
  split
  · unfold tuneStart
    split
    · rfl
    · exact TuneControl.settings_start hcb _ _ _
  split
  · exact TuneControl.settings_keepalive hcb _ _ p
  split
  · exact TuneControl.settings_stop hcb _ p
  · rfl

end Transmit

section Owned

variable (hactive : p.world.api.transmitterActive p.tx = true)
include hactive

/-- The drive and the microphone's gain stay. -/
theorem settingRoute_owned (path : CText) (minimum maximum : ℕ)
    (name : String) (store : ℕ → ApiController → ApiController) :
    (settingRoute request capacity path minimum maximum name store p).2
      = p := by
  unfold settingRoute
  split
  · rfl
  split
  · rfl
  · rfl

/-- The compressor stays. -/
theorem compressorRoute_owned :
    (compressorRoute request capacity p).2 = p := by
  unfold compressorRoute
  dsimp only
  split
  · rfl
  split
  · rfl
  · rfl

/-- The key limit stays. -/
theorem timeoutRoute_owned : (timeoutRoute request capacity p).2 = p := by
  have ho : p.tx.owner ≠ .none := by
    simpa [ApiController.transmitterActive] using
      (Bool.and_eq_true_iff.mp hactive).2
  unfold timeoutRoute
  split
  · rfl
  split
  · rfl
  · rfl

/-- The mode and the bandwidth stay: a request for either is refused, and so
is one for another frequency, before any callback. -/
theorem radioRoute_owned :
    (radioRoute ops request capacity pages p).2.settings = p.settings
      ∧ ∀ tuneRx, radioRoute { ops with tuneRx := tuneRx } request capacity
        pages p = radioRoute ops request capacity pages p := by
  have hlast : (lastRoutes ops request capacity pages p).2.settings
      = p.settings := by
    unfold lastRoutes
    split
    · rfl
    split
    · rfl
    split
    · rfl
    split
    · rfl
    · rfl
  unfold radioRoute
  rw [hactive, Bool.and_true]
  cases hreceive : receiveSetting request with
  | true => exact ⟨rfl, fun _ => rfl⟩
  | false =>
    obtain ⟨⟨hfrequency, hmode⟩, hbandwidth⟩ :
        (parseRxFrequency request = none ∧ parseRxMode request = none)
          ∧ parseRxBandwidth request = none := by
      simpa [receiveSetting] using hreceive
    -- only the squelch, the gain and the pages are left
    simp only [hfrequency, streamRoutes, hmode, hbandwidth,
      Bool.false_eq_true, if_false]
    refine ⟨?_, fun _ => rfl⟩
    split
    · split
      · rfl
      · exact hlast
    · exact hlast

end Owned

/-- **Dispatching a request while somebody transmits** changes no setting,
and comes to the same whatever the tune callback is. -/
theorem dispatch_settings (hcb : cb.KeepsApi)
    (hactive : p.world.api.transmitterActive p.tx = true) :
    (dispatch cb ops request radio capacity pages p).2.settings = p.settings
      ∧ ∀ tuneRx, dispatch cb { ops with tuneRx := tuneRx } request radio
          capacity pages p
        = dispatch cb ops request radio capacity pages p := by
  unfold dispatch
  split
  · exact ⟨settings_ownerRoute, fun _ => rfl⟩
  split
  · exact ⟨rfl, fun _ => rfl⟩
  split
  · exact ⟨settings_txRoute hcb, fun _ => rfl⟩
  split
  · exact ⟨by rw [compressorRoute_owned hactive], fun _ => rfl⟩
  split
  · exact ⟨by rw [driveRoute, settingRoute_owned hactive], fun _ => rfl⟩
  split
  · exact ⟨by rw [micGainRoute, settingRoute_owned hactive], fun _ => rfl⟩
  split
  · exact ⟨by rw [timeoutRoute_owned hactive], fun _ => rfl⟩
  split
  · exact ⟨settings_tuneRoute hcb, fun _ => rfl⟩
  · exact radioRoute_owned hactive

end Api

/-! ## The `rtl_tcp` client and the gain -/

namespace Daemon

variable {config : DaemonConfig} {d : Daemon}

variable (config) in
/-- A command of the client does nothing while somebody transmits. -/
theorem rtlCommand_owned (howned : d.plane.tx.owner ≠ .none)
    (command : RtlTcpCommand) : d.rtlCommand config command = d := by
  rw [rtlCommand, if_neg]
  rintro ⟨-, -, ho, -⟩
  exact howned ho

variable (config) in
/-- Nor do the bytes it sends. -/
theorem rtl_owned (howned : d.plane.tx.owner ≠ .none) (input : LoopInput) :
    (d.rtl config input).plane = d.plane := by
  have hbyte (e : Daemon) (he : e.plane = d.plane) (byte : UInt8) :
      (rtlByte config e byte).plane = d.plane := by
    unfold rtlByte
    dsimp only
    split
    · have howned' : e.plane.tx.owner ≠ .none := by rwa [he]
      rw [rtlCommand_owned config (d := { e with
        rtlPending := (rtlTcpParseByte e.rtlPending byte).2 }) howned']
      exact he
    · exact he
  have hbytes (bytes : List UInt8) (e : Daemon) (he : e.plane = d.plane) :
      (bytes.foldl (rtlByte config) e).plane = d.plane := by
    induction bytes generalizing e with
    | nil => exact he
    | cons byte bytes ih => exact ih _ (hbyte e he byte)
  unfold rtl
  extract_lets e
  have he : e.plane = d.plane := by
    dsimp only [e]
    split
    · rfl
    · rfl
  split
  · exact he
  split
  · exact he
  · exact he
  · exact hbytes _ e he
  · exact he

end Daemon

/-- The receiver refuses another gain while it is keyed, or made ready. -/
theorem UsbRx.setGain_owned {r : UsbRx}
    (h : r.tuneActive = true ∨ r.tuneKeyed = true) (gainDb : Int) :
    r.setGain gainDb = (libusbErrorInvalidParam, r) := by
  rw [setGain, if_pos]
  rcases h with h | h
  · simp [h]
  · simp [h]

/-! ## The profile of a session -/

/-- What is done to a network session: the operations of `network_tx.c`, and
whatever is done to the rest of the plane between two of them. -/
inductive NetworkTxOp (ρ : Type) where
  | init (enabled : Bool)
  | acquire (profile : NetworkTxProfile) (lease nowMs : UInt64)
  | keepalive (lease nowMs : UInt64)
  | attachStream (lease nowMs : UInt64)
  | recordData (lease : UInt64) (frames : ℕ) (nowMs : UInt64)
  | pttStart (lease nowMs : UInt64)
  | pttStop (lease : UInt64)
  | release (lease : UInt64)
  | disconnectStream
  | tick (nowMs : UInt64)
  | reconcile
  | between (tx : TxControl) (tune : TuneControl) (world : ρ)

section Profile

variable {ρ : Type} (cb : TxCallbacks (TxContext ρ)) {p : TxPlane ρ}

/-- What an operation makes of the plane. -/
def NetworkTxOp.apply (p : TxPlane ρ) : NetworkTxOp ρ → TxPlane ρ
  | .init enabled => p.withNetwork fun _ => .init enabled
  | .acquire profile lease nowMs =>
    (NetworkTx.acquire profile lease nowMs p).2
  | .keepalive lease nowMs => p.withNetwork fun s => (s.keepalive lease nowMs).2
  | .attachStream lease nowMs =>
    p.withNetwork fun s => (s.attachStream lease nowMs).2
  | .recordData lease frames nowMs =>
    p.withNetwork fun s => (s.recordData lease frames nowMs).2
  | .pttStart lease nowMs => (NetworkTx.pttStart cb lease nowMs p).2
  | .pttStop lease => (NetworkTx.pttStop cb lease p).2
  | .release lease => (NetworkTx.release cb lease p).2
  | .disconnectStream => (NetworkTx.disconnectStream cb p).2
  | .tick nowMs => (NetworkTx.tick cb nowMs p).2
  | .reconcile => NetworkTx.reconcile p
  | .between tx tune world =>
    { tx := tx, tune := tune, network := p.network, world := world }

/-- Operations one after the other. -/
def NetworkTxOp.applyAll (p : TxPlane ρ) (ops : List (NetworkTxOp ρ)) :
    TxPlane ρ :=
  ops.foldl (NetworkTxOp.apply cb) p

/-- **A session goes on**: it is reserved still, under its lease and with its
profile. -/
structure NetworkTx.GoesOn (session session' : NetworkTx) : Prop where
  reserved : session'.reserved = true
  lease : session'.lease = session.lease
  profile : session'.profile = session.profile

variable {cb} (hcb : cb.Framed)
include hcb

/-- A request for the transmitter is no matter of the session. -/
theorem TxControl.network_request (owner : TxOwner) (nowMs : UInt64)
    (p : TxPlane ρ) :
    (TxPlane.after (request cb owner nowMs p.tx p.toTxContext).2).network
      = p.network := by
  rcases request_cases cb owner nowMs p.tx p.toTxContext with
    ⟨-, result, hr, -⟩ | ⟨-, -, hr⟩ | ⟨-, -, hr⟩
  · rw [hr]
    rfl
  · rw [hr]
    exact (hcb.start _ _ _).network
  · rw [hr]
    exact ((hcb.start _ _ _).trans (hcb.stop _ _ _ _)).network

/-- Nor is a release. -/
theorem TxControl.network_releaseWith (graceful : Bool) (owner : TxOwner)
    (p : TxPlane ρ) :
    (TxPlane.after
      (releaseWith cb graceful owner p.tx p.toTxContext).2).network
      = p.network := by
  rcases releaseWith_cases cb graceful owner p.tx p.toTxContext with
    ⟨-, result, -, hr⟩ | ⟨-, hn, ho, hr⟩
  · rw [hr]
    rfl
  · rw [hr, stopOwner_of_owner cb graceful p.toTxContext (ho ▸ hn)]
    exact (hcb.stop _ _ _ _).network

/-- Stopping a session that may be keyed leaves it reserved as it is. -/
theorem NetworkTx.goesOn_stopIfKeyed (hreserved : p.network.reserved = true) :
    p.network.GoesOn (stopIfKeyed cb p).2.network := by
  have hnetwork := TxControl.network_releaseWith hcb false .http p
  unfold stopIfKeyed
  split
  · exact ⟨hreserved, rfl, rfl⟩
  · dsimp only [TxPlane.withNetwork_network, TxControl.release]
    rw [hnetwork]
    exact ⟨hreserved, rfl, rfl⟩

/-- **One operation**: a reserved session goes on, or is reserved no
longer. -/
theorem NetworkTxOp.goesOn_apply (op : NetworkTxOp ρ)
    (hreserved : p.network.reserved = true) :
    p.network.GoesOn (op.apply cb p).network
      ∨ (op.apply cb p).network.reserved = false := by
  have hsame : p.network.GoesOn p.network := ⟨hreserved, rfl, rfl⟩
  cases op with
  | init enabled => exact Or.inr rfl
  | acquire profile lease nowMs =>
    refine Or.inl ?_
    show p.network.GoesOn (NetworkTx.acquire profile lease nowMs p).2.network
    unfold NetworkTx.acquire
    split
    · exact hsame
    split
    · exact hsame
    -- a session that is reserved keeps the others out
    · rw [if_pos (by simp [hreserved])]
      exact hsame
  | keepalive lease nowMs =>
    refine Or.inl ?_
    show p.network.GoesOn (p.network.keepalive lease nowMs).2
    unfold NetworkTx.keepalive
    split
    · exact hsame
    · exact ⟨hreserved, rfl, rfl⟩
  | attachStream lease nowMs =>
    refine Or.inl ?_
    show p.network.GoesOn (p.network.attachStream lease nowMs).2
    unfold NetworkTx.attachStream
    split
    · exact hsame
    split
    · exact hsame
    · exact ⟨hreserved, rfl, rfl⟩
  | recordData lease frames nowMs =>
    refine Or.inl ?_
    show p.network.GoesOn (p.network.recordData lease frames nowMs).2
    unfold NetworkTx.recordData
    split
    · exact hsame
    split
    · exact hsame
    · exact ⟨hreserved, rfl, rfl⟩
  | pttStart lease nowMs =>
    have hnetwork := TxControl.network_request hcb .http nowMs p
    refine Or.inl ?_
    show p.network.GoesOn (NetworkTx.pttStart cb lease nowMs p).2.network
    unfold NetworkTx.pttStart
    split
    · exact hsame
    split
    · exact hsame
    split
    · exact hsame
    dsimp only
    split
    · exact hnetwork ▸ hsame
    split
    · exact hnetwork ▸ hsame
    · rw [TxPlane.withNetwork_network, hnetwork]
      exact ⟨hreserved, rfl, rfl⟩
  | pttStop lease =>
    have hnetwork := TxControl.network_releaseWith hcb true .http p
    refine Or.inl ?_
    show p.network.GoesOn (NetworkTx.pttStop cb lease p).2.network
    unfold NetworkTx.pttStop
    split
    · exact hsame
    split
    · dsimp only [TxPlane.withNetwork_network, TxControl.releaseGraceful]
      rw [hnetwork]
      exact ⟨hreserved, rfl, rfl⟩
    · exact hsame
  -- what its owner releases is gone, and so is what has expired
  | release lease =>
    show p.network.GoesOn (NetworkTx.release cb lease p).2.network
      ∨ (NetworkTx.release cb lease p).2.network.reserved = false
    unfold NetworkTx.release
    split
    · exact Or.inl hsame
    · exact Or.inr rfl
  | disconnectStream =>
    obtain ⟨hstopped, hlease, hprofile⟩ :=
      NetworkTx.goesOn_stopIfKeyed hcb hreserved
    refine Or.inl ?_
    show p.network.GoesOn (NetworkTx.disconnectStream cb p).2.network
    unfold NetworkTx.disconnectStream
    split
    · exact hsame
    · exact ⟨hstopped, hlease, hprofile⟩
  | tick nowMs =>
    show p.network.GoesOn (NetworkTx.tick cb nowMs p).2.network
      ∨ (NetworkTx.tick cb nowMs p).2.network.reserved = false
    unfold NetworkTx.tick
    split
    · exact Or.inl hsame
    split
    · exact Or.inl hsame
    · exact Or.inr rfl
  | reconcile =>
    show p.network.GoesOn (NetworkTx.reconcile p).network
      ∨ (NetworkTx.reconcile p).network.reserved = false
    unfold NetworkTx.reconcile
    split
    · exact Or.inr rfl
    · exact Or.inl hsame
  | between tx tune world => exact Or.inl hsame

/-- **A session goes on** through any operations, as long as it is
reserved after each of them. -/
theorem NetworkTxOp.goesOn_applyAll (ops : List (NetworkTxOp ρ))
    (hreserved : ∀ done, done <+: ops →
      (applyAll cb p done).network.reserved = true) :
    p.network.GoesOn (applyAll cb p ops).network := by
  induction ops using List.reverseRecOn with
  | nil => exact ⟨hreserved [] List.prefix_rfl, rfl, rfl⟩
  | append_singleton ops op ih =>
    have hbefore := ih fun done hdone =>
      hreserved done (hdone.trans (List.prefix_append ops [op]))
    have hafter := hreserved _ List.prefix_rfl
    have hall : applyAll cb p (ops ++ [op]) = op.apply cb (applyAll cb p ops) := by
      rw [applyAll, applyAll, List.foldl_append]
      rfl
    rw [hall] at hafter ⊢
    obtain ⟨hkept, hlease, hprofile⟩ | hended :=
      op.goesOn_apply hcb hbefore.reserved
    · exact ⟨hkept, hlease.trans hbefore.lease,
        hprofile.trans hbefore.profile⟩
    · rw [hended] at hafter
      exact absurd hafter (by decide)

end Profile

/-! ## The law -/

/-- The callbacks of the daemon read the API controller and leave it
alone. -/
theorem keepsApi_daemonCallbacks (carriesDc : List UInt8 → Bool) :
    (daemonCallbacks carriesDc).KeepsApi := by
  have hcounted (k : DaemonContext) (tx : DaemonTx) (started : Int) :
      ((k.withRadio tx).counted started).world.api = k.world.api := by
    unfold DaemonContext.counted
    split
    · rfl
    · rfl
  constructor
  · intro owner control k
    cases owner with
    | http => exact hcounted k _ _
    | physicalMic => exact hcounted k _ _
    | _ => rfl
  · intro owner graceful control k
    cases owner with
    | http => rfl
    | physicalMic => rfl
    | _ => rfl

/-- **Settings are frozen** while the transmitter is owned, and a session's
profile for as long as it lasts. -/
structure SettingsLaw (config : DaemonConfig) : Prop where
  /-- No request changes a setting, and none reaches the tune callback. -/
  request : ∀ (p : TxPlane (ApiWorld DaemonTx)) (ops : RadioOps DaemonTx)
    request radio capacity pages,
    p.world.api.tuneAttached = true → p.tx.owner ≠ .none →
    (Api.dispatch (daemonCallbacks config.carriesDc) ops request radio
        capacity pages p).2.settings = p.settings
      ∧ ∀ tuneRx, Api.dispatch (daemonCallbacks config.carriesDc)
          { ops with tuneRx := tuneRx } request radio capacity pages p
        = Api.dispatch (daemonCallbacks config.carriesDc) ops request radio
          capacity pages p
  /-- No command of the `rtl_tcp` client does anything. -/
  rtlTcp : ∀ d : Daemon, d.plane.tx.owner ≠ .none →
    (∀ command, d.rtlCommand config command = d)
      ∧ ∀ input, (d.rtl config input).plane = d.plane
  /-- A receiver that is keyed, or ready to be, sends no gain. -/
  gain : ∀ (r : UsbRx) gainDb, r.tuneActive = true ∨ r.tuneKeyed = true →
    r.setGain gainDb = (libusbErrorInvalidParam, r)
  /-- A session keeps its profile until it ends. -/
  profile : ∀ (p : TxPlane (ApiWorld DaemonTx)) ops,
    (∀ done, done <+: ops → (NetworkTxOp.applyAll
      (daemonCallbacks config.carriesDc) p done).network.reserved = true) →
    (NetworkTxOp.applyAll (daemonCallbacks config.carriesDc) p
      ops).network.profile = p.network.profile

/-- **Nothing changes a transmission under way.** -/
theorem settingsLaw (config : DaemonConfig) : SettingsLaw config where
  request p ops request radio capacity pages hattached howned :=
    Api.dispatch_settings (keepsApi_daemonCallbacks config.carriesDc) (by
      rw [ApiController.transmitterActive, hattached]
      simpa using howned)
  rtlTcp d howned :=
    ⟨Daemon.rtlCommand_owned config howned, Daemon.rtl_owned config howned⟩
  gain _ gainDb h := UsbRx.setGain_owned h gainDb
  profile _ ops hreserved :=
    (NetworkTxOp.goesOn_applyAll (framed_daemonCallbacks config.carriesDc) ops
      hreserved).profile

/-- A request for another mode while the microphone transmits. -/
theorem settingsLaw_speaking :
    let config : DaemonConfig :=
      { rxTuningEnabled := true, testPageEnabled := true
        transmitEnabled := true, rtlTcpEnabled := true
        tuneLease := 1, txLease := 1, stationLease := 1
        carriesDc := fun _ => false }
    let d := Daemon.initial config (UsbRx.create fun _ => {}) true
    let p := { d.plane with tx := d.plane.tx.granted .physicalMic 0 }
    (Api.dispatch (daemonCallbacks config.carriesDc) daemonOps
      (ofString "PUT /v1/radio/mode/usb HTTP/1.1\r\n\r\n")
      { frequencyHz := some 14250000 } 4096 { status := none, radio := none }
      p).2.settings = p.settings :=
  ((settingsLaw _).request _ _ _ _ _ _ rfl (by decide)).1
