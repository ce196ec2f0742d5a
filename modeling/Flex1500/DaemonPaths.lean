import Mathlib.Data.List.Induction
import Flex1500.Daemon

/-!
# The loop is a path of moves

Each block of the loop moves the three transmit records along a path of
moves, whose labels say what kind of block it is: the ticks, the recovery
and the end of the loop are passive but for a restart, the switches move for
the microphone at one time, and a request moves for a client at another, or
feeds a session. What holds of the records over a run of the daemon is then
proved move by move.

What the blocks do beside – to settings, samples, the receiver and the log
– are moves of the world. `ApiWorld.Serves` says which a relation on
worlds has to allow; the log entries that matter to one result or another
are asked for where they are made.
-/

/-- An entry about samples. -/
def DaemonNote.OfSamples : DaemonNote → Prop
  | .attached .. | .received .. | .delivered .. | .handed .. | .counted .. =>
    True
  | _ => False

/-- The log grew, by entries of a kind. -/
def DaemonTx.Logs (P : DaemonNote → Prop) (tx tx' : DaemonTx) : Prop :=
  ∃ notes, tx'.log = tx.log ++ notes ∧ ∀ entry ∈ notes, P entry

namespace DaemonTx.Logs

variable {P Q : DaemonNote → Prop} {tx tx₁ tx₂ tx₃ : DaemonTx}

theorem of_eq (h : tx₁.log = tx.log) : tx.Logs P tx₁ :=
  ⟨[], by simp [h], by simp⟩

theorem trans (h : tx₁.Logs P tx₂) (h' : tx₂.Logs P tx₃) :
    tx₁.Logs P tx₃ := by
  obtain ⟨ns, he, hP⟩ := h
  obtain ⟨ns', he', hP'⟩ := h'
  exact ⟨ns ++ ns', by rw [he', he, List.append_assoc], fun n hmem =>
    (List.mem_append.mp hmem).elim (hP n) (hP' n)⟩

theorem note {entry : DaemonNote} (h : P entry) :
    tx.Logs P (tx.note entry) :=
  ⟨[entry], rfl, by simpa using h⟩

end DaemonTx.Logs

/-- What the loop does to the world without a request or an expiry: calls of
the receiver that key nothing, and samples. -/
structure ApiWorld.Tends
    (W : ApiWorld DaemonTx → ApiWorld DaemonTx → Prop) : Prop where
  receiver : ∀ (w : ApiWorld DaemonTx) (receiver : UsbRx),
    w.radio.receiver.Unkeying receiver →
    W w { w with radio := w.radio.withReceiver receiver }
  samples : ∀ (w : ApiWorld DaemonTx) (tx : DaemonTx),
    tx.receiver = w.radio.receiver → w.radio.Logs DaemonNote.OfSamples tx →
    W w { w with radio := tx }

/-- **What the loop does to the world** by itself: settings, the station,
calls of the receiver that key nothing, and samples. -/
structure ApiWorld.Serves
    (W : ApiWorld DaemonTx → ApiWorld DaemonTx → Prop) : Prop
    extends ApiWorld.Tends W where
  api : ∀ (w : ApiWorld DaemonTx) (api : ApiController),
    W w { w with api := api }
  station : ∀ (w : ApiWorld DaemonTx) (station : StationOwner),
    W w { w with station := station }

/-- What the loop does to the world, with all that it logs itself. -/
structure ApiWorld.Loops
    (W : ApiWorld DaemonTx → ApiWorld DaemonTx → Prop) : Prop
    extends ApiWorld.Serves W where
  reading : ∀ (w : ApiWorld DaemonTx) inputs,
    W w { w with radio := w.radio.note (.reading inputs) }
  session : ∀ w : ApiWorld DaemonTx,
    W w { w with radio := w.radio.note .session }

/-- Allowing everything allows the loop. -/
theorem ApiWorld.loops_true : ApiWorld.Loops fun _ _ => True where
  api _ _ := trivial
  station _ _ := trivial
  receiver _ _ _ := trivial
  samples _ _ _ _ := trivial
  reading _ _ := trivial
  session _ := trivial

variable {config : DaemonConfig} {carriesDc : List UInt8 → Bool}
variable {W : ApiWorld DaemonTx → ApiWorld DaemonTx → Prop}

/-- A loop that is allowed its moves is allowed those of the dispatcher. -/
theorem ApiWorld.Serves.allows (hW : ApiWorld.Serves W) :
    ApiWorld.Allows daemonOps W where
  api := hW.api
  station := hW.station
  tuneRx w tuneRx frequencyHz h := by
    obtain rfl : apiTuneRx = tuneRx := by simpa [daemonOps] using h
    exact hW.receiver w _ (UsbRx.unkeying_tune frequencyHz _)
  setRxGain w setRxGain gainDb h := by
    obtain rfl : apiSetRxGain = setRxGain := by simpa [daemonOps] using h
    exact hW.receiver w _ (UsbRx.unkeying_setGain gainDb _)

namespace Daemon

variable {d d' : Daemon} {input : LoopInput} {P : TxMove → Prop}

/-- A daemon's plane reached from another's. -/
abbrev Reaches (carriesDc : List UInt8 → Bool)
    (W : ApiWorld DaemonTx → ApiWorld DaemonTx → Prop) (P : TxMove → Prop)
    (d d' : Daemon) : Prop :=
  d.plane.Reaches (daemonCallbacks carriesDc) W P d'.plane

/-- Coherence is kept by what the daemon does. -/
theorem coherent_of_reaches (hd : d.plane.Coherent)
    (h : d.Reaches carriesDc W P d') : d'.plane.Coherent :=
  hd.reaches (framed_daemonCallbacks carriesDc) h

/-- Moves a client's request may lead to. -/
def Requested (nowMs : UInt64) (owner : TxOwner) (m : TxMove) : Prop :=
  m.At nowMs owner ∨ m.Feeds

/-- Moves of a recovery. -/
def Recovering (m : TxMove) : Prop :=
  m.Passive ∨ m = .restart

/-- Moves of the stream. -/
def Streaming (m : TxMove) : Prop :=
  m.Passive ∨ m.Feeds

theorem passive_requested (nowMs : UInt64) (owner : TxOwner) :
    ∀ m : TxMove, m.Passive → Requested nowMs owner m :=
  fun _ h => Or.inl (h.at nowMs owner)

section Moves

variable (hW : ApiWorld.Tends W)
include hW

/-! ## Moves of the world -/

/-- Samples and notes on them are a move of the world. -/
theorem withTx_path {f : DaemonTx → DaemonTx}
    (hr : (f d.tx).receiver = d.tx.receiver)
    (hl : d.tx.Logs DaemonNote.OfSamples (f d.tx)) :
    d.Reaches carriesDc W TxMove.Passive (d.withTx f) :=
  .one (.world (hW.samples _ _ hr hl)) trivial

/-- A call of the receiver that keys nothing is a move of the world. -/
theorem withReceiver_path {receiver : UsbRx}
    (h : d.tx.receiver.Unkeying receiver) :
    d.Reaches carriesDc W TxMove.Passive (d.withReceiver receiver) :=
  .one (.world (hW.receiver _ _ h)) trivial

theorem clearPrebuffer_path :
    d.Reaches carriesDc W TxMove.Passive d.clearPrebuffer :=
  withTx_path hW rfl (.of_eq rfl)

theorem clearTail_path : d.Reaches carriesDc W TxMove.Passive d.clearTail :=
  withTx_path hW rfl (.of_eq rfl)

/-! ## The ticks -/

variable (hd : d.plane.Coherent)
include hd

variable (config) in
omit hW hd in
theorem stationTick_path (hW : ApiWorld.Serves W)
    (hd : d.plane.Coherent) (nowMs : UInt64) :
    d.Reaches config.carriesDc W TxMove.Passive
      (d.stationTick config nowMs) := by
  have hstation : d.Reaches config.carriesDc W TxMove.Passive
      (d.withPlane (d.plane.withStation
        (d.plane.world.station.tick nowMs).2)) :=
    .one (.world (hW.station _ _)) trivial
  have hcoherent := coherent_of_reaches hd hstation
  have hshutdown : d.Reaches config.carriesDc W TxMove.Passive
      (d.withPlane (TuneControl.shutdown (daemonCallbacks config.carriesDc)
        (d.plane.withStation (d.plane.world.station.tick nowMs).2))) :=
    hstation.trans (TuneControl.shutdown_path hcoherent)
  unfold stationTick
  dsimp only
  split
  · split
    · exact hshutdown.trans (NetworkTx.release_path
        (coherent_of_reaches hd hshutdown) _)
    · exact hshutdown
  · exact hstation

omit hW in
theorem tuneTick_path (nowMs : UInt64) :
    d.Reaches config.carriesDc W TxMove.Passive (d.tuneTick config nowMs) :=
  TuneControl.tick_path hd nowMs

omit hW hd in
theorem txTick_path (nowMs : UInt64) :
    d.Reaches config.carriesDc W TxMove.Passive (d.txTick config nowMs) := by
  unfold txTick
  extract_lets ticked p
  have htick : d.Reaches config.carriesDc W TxMove.Passive (d.withPlane p) :=
    (TxControl.tick_path (p := d.plane) nowMs).trans
      (TuneControl.reconcile_path _)
  split
  · exact htick.trans (.one (.tally _ _) trivial)
  · exact htick

omit hd in
theorem networkReconcile_path :
    d.Reaches carriesDc W TxMove.Passive d.networkReconcile := by
  have hreconcile : d.Reaches carriesDc W TxMove.Passive
      (d.withPlane (NetworkTx.reconcile d.plane)) :=
    NetworkTx.reconcile_path
  unfold networkReconcile
  dsimp only
  split
  · exact hreconcile.trans (clearPrebuffer_path (d := (d.withPlane
      (NetworkTx.reconcile d.plane)).closeTxClient) hW)
  · exact hreconcile

theorem networkTick_path (nowMs : UInt64) :
    d.Reaches config.carriesDc W TxMove.Passive
      (d.networkTick config nowMs) := by
  have htick : d.Reaches config.carriesDc W TxMove.Passive
      (d.withPlane (NetworkTx.tick (daemonCallbacks config.carriesDc) nowMs
        d.plane).2) := NetworkTx.tick_path hd nowMs
  have htally (f : TxDiagnostics → TxDiagnostics) :
      d.Reaches config.carriesDc W TxMove.Passive
        (d.withPlane ((NetworkTx.tick (daemonCallbacks config.carriesDc) nowMs
          d.plane).2.withDiagnostics f)) :=
    htick.trans (.one (.tally _ _) trivial)
  unfold networkTick
  dsimp only
  split
  · exact (htally _).trans (clearPrebuffer_path (d := (d.withPlane
      ((NetworkTx.tick (daemonCallbacks config.carriesDc) nowMs
        d.plane).2.withDiagnostics _)).closeTxClient) hW)
  · exact htally _
  · exact htick

omit hW hd in
/-- **The ticks are passive.** -/
theorem ticks_path (hW : ApiWorld.Serves W) (hd : d.plane.Coherent) :
    d.Reaches config.carriesDc W TxMove.Passive (d.ticks config input) := by
  have h₁ := stationTick_path config hW hd input.stationMs
  have h₂ := h₁.trans (tuneTick_path (coherent_of_reaches hd h₁) input.tuneMs)
  have h₃ := h₂.trans (txTick_path input.txMs)
  have h₄ := h₃.trans (networkReconcile_path hW.toTends)
  exact h₄.trans (networkTick_path hW.toTends (coherent_of_reaches hd h₄)
    input.networkMs)

/-! ## Recovery and the end -/

omit hW hd in
theorem daemonTxShutdown_path {p : TxPlane (ApiWorld DaemonTx)} :
    p.ReachesPassively (daemonCallbacks config.carriesDc) W
      (daemonTxShutdown config p) := by
  have hshutdown : p.ReachesPassively (daemonCallbacks config.carriesDc) W
      (TuneControl.reconcile false (TxPlane.after _)) :=
    (TxControl.shutdown_path (p := p)).trans (TuneControl.reconcile_path _)
  unfold daemonTxShutdown
  dsimp only
  split
  · exact hshutdown.trans (.one (.tally _ _) trivial)
  · exact hshutdown

omit hd in
theorem exit_path :
    d.Reaches config.carriesDc W TxMove.Passive (d.exit config) := by
  unfold exit
  extract_lets e₁ e₂ unprepared e₃ e₄
  have h₂ : d.Reaches config.carriesDc W TxMove.Passive e₂ :=
    daemonTxShutdown_path
  have h₃ : e₂.Reaches config.carriesDc W TxMove.Passive e₃ := by
    refine withReceiver_path hW ?_
    dsimp only [unprepared]
    split
    · exact UsbRx.unkeying_disableTransmitPreparation _
    · exact UsbRx.Unkeying.refl _
  have h₄ : e₃.Reaches config.carriesDc W TxMove.Passive e₄ := by
    dsimp only [e₄]
    split
    · exact .refl _
    · exact .one (.tally _ _) trivial
  exact ((TxPlane.Reaches.trans h₂ h₃).trans h₄).trans
    (withReceiver_path hW (UsbRx.unkeying_stop _))

variable (config) in
theorem abandoned_path :
    d.Reaches config.carriesDc W TxMove.Passive (d.abandoned config) := by
  unfold abandoned
  extract_lets p q e e'
  have hp : d.plane.ReachesPassively (daemonCallbacks config.carriesDc) W p :=
    NetworkTx.disconnectStream_path hd
  have hq : d.plane.ReachesPassively (daemonCallbacks config.carriesDc) W q :=
    hp.trans (NetworkTx.release_path
      (hd.reaches (framed_daemonCallbacks _) hp) _)
  have he : d.Reaches config.carriesDc W TxMove.Passive e :=
    TxPlane.Reaches.trans hq
      (clearPrebuffer_path (d := d.closeTxClient.withPlane q) hW)
  have he' : d.Reaches config.carriesDc W TxMove.Passive e' :=
    TxPlane.Reaches.trans he daemonTxShutdown_path
  exact he'.trans (withReceiver_path hW (UsbRx.unkeying_stop _))

omit hW hd in
/-- Opening the radio again keys nothing. -/
theorem unkeying_reopen (gainDb : Int) (frequency : Option Frequency)
    (receiver : UsbRx) :
    receiver.Unkeying (reopen config gainDb frequency receiver).2 := by
  unfold reopen
  extract_lets started gained tuned prepared
  have hstarted : receiver.Unkeying started.2 := UsbRx.unkeying_start receiver
  split
  · exact hstarted
  have hgained : receiver.Unkeying gained.2 :=
    hstarted.trans (UsbRx.unkeying_setGain gainDb _)
  have htuned : receiver.Unkeying tuned.2 := by
    dsimp only [tuned]
    split
    · split
      · exact hgained.trans (UsbRx.unkeying_tune _ _)
      · exact hgained
    · exact hgained
  split
  · exact htuned.trans (UsbRx.unkeying_stop _)
  have hprepared : receiver.Unkeying prepared.2 := by
    dsimp only [prepared]
    split
    · exact htuned.trans (UsbRx.unkeying_enableTransmitPreparation _)
    · exact htuned
  split
  · exact hprepared.trans (UsbRx.unkeying_stop _)
  · exact hprepared

variable (config) in
omit hW hd in
theorem unkeying_reopenWithin (gainDb : Int) (frequency : Option Frequency)
    (attempts : ℕ) (receiver : UsbRx) :
    receiver.Unkeying
      (reopenWithin config gainDb frequency attempts receiver).2 := by
  induction attempts generalizing receiver with
  | zero => exact UsbRx.Unkeying.refl _
  | succ attempts ih =>
    unfold reopenWithin
    dsimp only
    split
    · exact unkeying_reopen _ _ _
    · exact (unkeying_reopen _ _ _).trans (ih _)

omit hW hd in
/-- After a shutdown nobody owns the transmitter. -/
theorem owner_daemonTxShutdown (p : TxPlane (ApiWorld DaemonTx)) :
    (daemonTxShutdown config p).tx.owner = .none := by
  have hreconcile (q : TxPlane (ApiWorld DaemonTx)) :
      (TuneControl.reconcile false q).tx = q.tx := by
    unfold TuneControl.reconcile
    split <;> rfl
  have hstopped : (TxPlane.after (TxControl.shutdown
      (daemonCallbacks config.carriesDc) p.tx p.toTxContext)).tx.owner
        = .none := by
    unfold TxControl.shutdown
    split
    · rename_i ho
      rw [TxControl.stopOwner_of_owner _ _ _ ho]
      rfl
    · rename_i ho
      simpa [TxPlane.after] using ho
  unfold daemonTxShutdown
  dsimp only
  split
  · rw [TxPlane.withDiagnostics_tx, hreconcile]
    exact hstopped
  · rw [hreconcile]
    exact hstopped

variable (config) in
/-- So does the recovery, up to where the records start anew. -/
theorem reopened_path (attempts : ℕ) :
    d.Reaches config.carriesDc W TxMove.Passive
      ((d.abandoned config).withReceiver
        (reopenWithin config (d.tx.receiver.gainDb.getD 20)
          d.tx.receiver.frequencyHz (min 60 attempts)
          (d.abandoned config).tx.receiver).2) :=
  (abandoned_path config hW hd).trans (withReceiver_path
    (d := d.abandoned config) hW (unkeying_reopenWithin config _ _ _ _))

/-- **A recovery is passive**, but for the restart it may end with. -/
theorem recover_path
    (hsession : ∀ w : ApiWorld DaemonTx,
      W w { w with radio := w.radio.note .session })
    (attempts : ℕ) :
    d.Reaches config.carriesDc W Recovering (d.recover config attempts) := by
  have hreopened := reopened_path config hW hd attempts
  unfold recover
  dsimp only
  split
  · refine (hreopened.mono fun _ h => Or.inl h).trans
      (.trans (.one (.restart ?_) (Or.inr rfl))
        (.one (.world (hsession _)) (Or.inl trivial)))
    exact owner_daemonTxShutdown _
  · exact (hreopened.trans (exit_path hW)).mono fun _ h => Or.inl h

/-! ## The switches -/

omit hW hd in
/-- An edge of the microphone's switch moves for the microphone. -/
theorem microphoneEdge_path (pressed : Bool) (nowMs : UInt64) :
    d.Reaches config.carriesDc W (TxMove.Switched nowMs d.plane.tx.owner)
      (d.microphoneEdge config pressed nowMs) := by
  have hswitched : d.Reaches config.carriesDc W
      (TxMove.Switched nowMs d.plane.tx.owner)
      (d.withPlane (TuneControl.reconcile false (TxPlane.after _))) :=
    (TxControl.physicalPtt_path (p := d.plane) pressed nowMs).trans
      ((TuneControl.reconcile_path false).mono
        fun _ h => h.switched nowMs d.plane.tx.owner)
  unfold microphoneEdge
  dsimp only
  split
  · exact .one (.tally _ _) trivial
  split
  · exact hswitched.trans (.one (.tally _ _) trivial)
  · exact hswitched.trans (.one (.tally _ _) trivial)
  · exact hswitched.trans (.one (.tally _ _) trivial)
  · exact hswitched

omit hW hd in
/-- **The switches move for the microphone.** -/
theorem switches_path
    (hreading : ∀ (w : ApiWorld DaemonTx) inputs,
      W w { w with radio := w.radio.note (.reading inputs) })
    (nowMs : UInt64) :
    d.Reaches config.carriesDc W (TxMove.Switched nowMs d.plane.tx.owner)
      (d.switches config nowMs) := by
  unfold switches
  split
  · exact .refl _
  rename_i inputs _
  split
  · exact .refl _
  have hnote : d.Reaches config.carriesDc W
      (TxMove.Switched nowMs d.plane.tx.owner)
      (d.withTx (·.note (.reading inputs))) :=
    .one (.world (hreading _ _)) trivial
  have hedge : d.Reaches config.carriesDc W
      (TxMove.Switched nowMs d.plane.tx.owner)
      (if config.transmitEnabled
          && d.observedMicrophonePtt != some inputs.micPtt then
        ({ d with loggedInputs := some inputs }.withTx
          (·.note (.reading inputs))).microphoneEdge config inputs.micPtt nowMs
      else { d with loggedInputs := some inputs }.withTx
        (·.note (.reading inputs))) := by
    split
    · exact hnote.trans (microphoneEdge_path
        (d := { d with loggedInputs := some inputs }.withTx
          (·.note (.reading inputs))) inputs.micPtt nowMs)
    · exact hnote
  dsimp only
  split
  · exact hedge
  · exact hedge

/-! ## The clients -/

omit hd in
theorem rtlByte_path (byte : UInt8) :
    d.Reaches carriesDc W TxMove.Passive (rtlByte config d byte) := by
  unfold rtlByte
  dsimp only
  split
  · unfold rtlCommand
    split
    · exact .one (.world (hW.receiver _ _ (UsbRx.unkeying_tune _ _))) trivial
    · exact .refl _
  · exact .refl _

omit hd in
theorem rtlBytes_path (bytes : List UInt8) :
    d.Reaches carriesDc W TxMove.Passive
      (bytes.foldl (rtlByte config) d) := by
  induction bytes generalizing d with
  | nil => exact .refl _
  | cons byte bytes ih => exact (rtlByte_path hW byte).trans ih

variable (config input) in
omit hd in
theorem rtl_path :
    d.Reaches carriesDc W TxMove.Passive (d.rtl config input) := by
  unfold rtl
  extract_lets e
  have he : d.Reaches carriesDc W TxMove.Passive e := by
    dsimp only [e]
    split <;> exact .refl _
  split
  · exact he
  split
  · exact he
  · exact he
  · exact TxPlane.Reaches.trans he (rtlBytes_path hW _)
  · exact he

omit hW hd in
theorem openIqStream_path (headerSent : Bool) :
    d.Reaches carriesDc W TxMove.Passive (d.openIqStream headerSent) := by
  rw [Reaches, openIqStream_plane]
  exact .refl _

omit hd in
theorem openTxStream_path (headerSent : Bool) :
    d.Reaches carriesDc W TxMove.Passive (d.openTxStream headerSent) := by
  have hcleared : d.Reaches carriesDc W TxMove.Passive d.clearPrebuffer :=
    clearPrebuffer_path hW
  unfold openTxStream
  dsimp only
  split
  · exact hcleared.trans (withTx_path hW rfl (.note trivial))
  · exact hcleared

omit hd in
theorem prebuffer_path (bytes : List TxByte) :
    d.Reaches carriesDc W TxMove.Passive (d.prebuffer bytes) :=
  withTx_path hW rfl (.of_eq rfl)

omit hd in
theorem push_path (bytes : List TxByte) (rawIq : Bool) :
    d.Reaches carriesDc W TxMove.Passive (d.push bytes rawIq) := by
  have hpush : d.Reaches carriesDc W TxMove.Passive
      (d.withReceiver (d.tx.receiver.networkTxPush bytes.length rawIq).2) :=
    withReceiver_path hW (UsbRx.quietly_networkTxPush _ _ _).unkeying
  exact hpush.trans (withTx_path hW rfl (.note trivial))

omit hd in
theorem pushTxAudio_path (lease : UInt64) (body : List UInt8) :
    d.Reaches carriesDc W TxMove.Passive (d.pushTxAudio lease body) := by
  have hcounted (bytes : List TxByte) : d.Reaches carriesDc W TxMove.Passive
      (d.withTx (·.note (.counted d.plane.network.lease bytes))) :=
    withTx_path hW rfl (.note trivial)
  unfold pushTxAudio
  dsimp only
  split
  · exact hcounted _
  split
  · exact (hcounted _).trans (prebuffer_path hW _)
  · exact (hcounted _).trans (push_path hW _ _)

variable (config input) in
omit hW hd in
/-- A request's answer moves for a client, or feeds a session. -/
theorem dispatch_path (hW : ApiWorld.Serves W) (hd : d.plane.Coherent)
    (buffer : List UInt8) :
    d.plane.Reaches (daemonCallbacks config.carriesDc) W
      (Requested input.requestMs d.plane.tx.owner)
      (Api.dispatch (daemonCallbacks config.carriesDc) daemonOps
        (CText.ofBuffer buffer)
        { frequencyHz := d.tx.receiver.frequencyHz.map (·.1) }
        responseCapacity input.pages
        (d.plane.withApi ({ · with requestNowMs := input.requestMs }))).2 := by
  have htime : d.plane.Reaches (daemonCallbacks config.carriesDc) W
      (Requested input.requestMs d.plane.tx.owner)
      (d.plane.withApi ({ · with requestNowMs := input.requestMs })) :=
    .one (.world (hW.api _ _)) (Or.inl trivial)
  have hcoherent := hd.reaches (framed_daemonCallbacks _) htime
  refine htime.trans ?_
  rcases Api.dispatch_cases (CText.ofBuffer buffer)
      { frequencyHz := d.tx.receiver.frequencyHz.map (·.1) }
      responseCapacity input.pages hW.allows hcoherent with ⟨-, h⟩ | ⟨_, -, ⟨-, h⟩ | ⟨-, h⟩⟩
  · exact h.mono fun _ hm => Or.inl hm
  · exact h.path.mono fun _ hm => Or.inr hm
  · exact h.path.mono fun _ hm => Or.inr hm

omit hW hd in
theorem request_path (hW : ApiWorld.Serves W) (hd : d.plane.Coherent)
    (buffer : List UInt8) :
    d.Reaches config.carriesDc W (Requested input.requestMs d.plane.tx.owner)
      (d.request config input buffer) := by
  have hpassive {e e' : Daemon}
      (h : e.Reaches config.carriesDc W TxMove.Passive e') :
      e.Reaches config.carriesDc W
        (Requested input.requestMs d.plane.tx.owner) e' :=
    h.mono (passive_requested _ _)
  have hanswered := dispatch_path config input hW hd buffer
  unfold request
  extract_lets text p answered e e'
  have he' : d.Reaches config.carriesDc W
      (Requested input.requestMs d.plane.tx.owner) e' := by
    refine TxPlane.Reaches.trans hanswered ?_
    change e.Reaches config.carriesDc W _ e'
    dsimp only [e']
    split
    · exact hpassive ((clearPrebuffer_path (d := e.closeTxClient)
        hW.toTends).trans (clearTail_path hW.toTends))
    · exact .refl _
  refine TxPlane.Reaches.trans he' ?_
  split
  · exact hpassive (openIqStream_path _)
  · exact hpassive (openTxStream_path hW.toTends _)
  · exact hpassive (pushTxAudio_path hW.toTends _ _)
  · exact .refl _

variable (config input) in
omit hW hd in
/-- **A request moves for a client**, or feeds a session. -/
theorem http_path (hW : ApiWorld.Serves W) (hd : d.plane.Coherent) :
    d.Reaches config.carriesDc W (Requested input.requestMs d.plane.tx.owner)
      (d.http config input) := by
  unfold http
  split
  · exact .refl _
  extract_lets bytes disconnected buffer complete overflow e
  change d.Reaches config.carriesDc W _ e
  dsimp only [e]
  split
  · exact request_path hW hd _
  · exact .refl _

theorem streamClosed_path :
    d.Reaches config.carriesDc W TxMove.Passive (d.streamClosed config) := by
  have hdisconnect : d.Reaches config.carriesDc W TxMove.Passive
      (d.closeTxClient.withPlane (NetworkTx.disconnectStream
        (daemonCallbacks config.carriesDc) d.plane).2) :=
    NetworkTx.disconnectStream_path hd
  exact (hdisconnect.trans (clearPrebuffer_path hW)).trans (clearTail_path hW)

omit hd in
theorem deliver_path (connection : ℕ) (chunk : List TxByte)
    (dataMs : UInt64) :
    d.Reaches carriesDc W Streaming (d.deliver connection chunk dataMs) := by
  have hpassive {e e' : Daemon}
      (h : e.Reaches carriesDc W TxMove.Passive e') :
      e.Reaches carriesDc W Streaming e' :=
    h.mono fun _ hm => Or.inl hm
  unfold deliver
  extract_lets network room bytes recorded e e' e''
  have hnote : d.Reaches carriesDc W TxMove.Passive e :=
    withTx_path hW rfl (.note trivial)
  have he' : d.Reaches carriesDc W TxMove.Passive e'
      ∧ e'.plane.network = network := by
    dsimp only [e']
    split
    · exact ⟨hnote.trans (push_path hW _ _), rfl⟩
    · exact ⟨hnote.trans (prebuffer_path hW _), rfl⟩
  have hrecord : d.Reaches carriesDc W Streaming e'' := by
    refine TxPlane.Reaches.trans (hpassive he'.1) ?_
    have he : e''.plane = e'.plane.withNetwork fun s =>
        (s.recordData network.lease
          (bytes.length / frameBytes network) dataMs).2 := by
      simp only [e'', recorded, withPlane, TxPlane.withNetwork, he'.2]
    rw [he]
    exact (NetworkTx.recordData_path _ _ _).mono fun _ h => Or.inr h
  split
  · exact hrecord.trans (hpassive (withTx_path hW rfl (.note trivial)))
  · exact hrecord

omit hd in
theorem streamData_path (client : TxClient) (bytes : List UInt8)
    (dataMs : UInt64) :
    d.Reaches carriesDc W Streaming (d.streamData client bytes dataMs) := by
  unfold streamData
  extract_lets data whole
  refine TxPlane.Reaches.trans ?_ (deliver_path hW client.connection
    (data.take whole) dataMs)
  refine TxPlane.Reaches.mono (fun _ hm => Or.inl hm) ?_
  have hlog : d.tx.Logs DaemonNote.OfSamples
      { d.tx.note (.received client.connection bytes) with
        networkTail := data.drop whole } :=
    ⟨[.received client.connection bytes], rfl, by
      simp [DaemonNote.OfSamples]⟩
  exact withTx_path hW rfl hlog

variable (config input) in
/-- **The stream feeds a session**, or ends. -/
theorem stream_path :
    d.Reaches config.carriesDc W Streaming (d.stream config input) := by
  have hclosed : d.Reaches config.carriesDc W Streaming
      (d.streamClosed config) :=
    (streamClosed_path hW hd).mono fun _ hm => Or.inl hm
  unfold stream
  split
  · exact .refl _
  split
  · exact .refl _
  split
  · dsimp only
    split
    · exact hclosed
    · exact streamData_path hW _ _ _
  · exact .refl _
  · exact hclosed

end Moves

/-! ## Whole runs -/

section Runs

variable (hW : ApiWorld.Loops W)
include hW

/-- The blocks behind the pump move at the times they read. -/
theorem serve_path (hd : d.plane.Coherent) :
    d.Reaches config.carriesDc W (TxMove.Timed [input.pttMs, input.requestMs])
      (d.serve config input) := by
  have hserves := hW.toServes
  have h₁ : d.Reaches config.carriesDc W
      (TxMove.Timed [input.pttMs, input.requestMs])
      (d.switches config input.pttMs) :=
    (switches_path hW.reading input.pttMs).mono fun m hm t ht => by
      have := hm.timed t ht
      simp_all
  have h₂ := h₁.trans ((rtl_path config input
    (d := d.switches config input.pttMs) hserves.toTends).mono
      fun m hm => hm.timed _)
  have hrequested {owner : TxOwner} (m : TxMove)
      (hm : Requested input.requestMs owner m) :
      m.Timed [input.pttMs, input.requestMs] := by
    rcases hm with hm | hm
    · intro t ht
      have := hm.timed t ht
      simp_all
    · exact hm.timed _
  have hstreaming (m : TxMove) (hm : Streaming m) :
      m.Timed [input.pttMs, input.requestMs] :=
    hm.elim (·.timed _) (·.timed _)
  have h₃ := h₂.trans ((http_path config input
    hserves (coherent_of_reaches hd h₂)).mono hrequested)
  have h₄ := h₃.trans ((stream_path config input
    hserves.toTends (coherent_of_reaches hd h₃)).mono hstreaming)
  exact h₄

/-- One pass of the loop. -/
theorem iterate_path (hd : d.plane.Coherent) :
    d.Reaches config.carriesDc W (TxMove.Timed [input.pttMs, input.requestMs])
      (d.iterate config input) := by
  have hserves := hW.toServes
  unfold iterate
  extract_lets e pumped e'
  have he : d.Reaches config.carriesDc W TxMove.Passive e' :=
    (ticks_path hserves hd).trans
      (withReceiver_path hserves.toTends (UsbRx.unkeying_pump _))
  have he' := coherent_of_reaches hd he
  have htimed := he.mono fun m hm => hm.timed [input.pttMs, input.requestMs]
  split
  · refine TxPlane.Reaches.trans htimed ((recover_path hserves.toTends he' hW.session
      _).mono ?_)
    rintro m (hm | rfl)
    · exact hm.timed _
    · exact TxMove.timed_of_none rfl _
  · exact TxPlane.Reaches.trans htimed (serve_path hW he')

theorem step_path (hd : d.plane.Coherent) :
    d.Reaches config.carriesDc W (TxMove.Timed [input.pttMs, input.requestMs])
      (step config d input) := by
  unfold step
  split
  · exact .refl _
  split
  · exact (exit_path hW.toTends).mono fun m hm => hm.timed _
  · exact iterate_path hW hd

omit hW in
/-- The daemon starts out coherent. -/
theorem coherent_boot (config : DaemonConfig) (answers : ℕ → UsbAnswer) :
    (boot config answers).plane.Coherent := by
  have hinitial (receiver : UsbRx) (running : Bool) :
      (initial config receiver running).plane.Coherent := by
    refine ⟨TxControl.settled_armed _ _, ?_, ?_, ?_, ?_,
      (NetworkTx.Sound.cleared :
        (NetworkTx.init config.transmitEnabled).cleared.Sound)⟩
    all_goals simp [initial, TxControl.owner_armed]
  unfold boot
  extract_lets started gained prepared
  split
  · exact hinitial _ _
  split
  · exact hinitial _ _
  split
  · exact hinitial _ _
  · exact hinitial _ _

/-- **A run is a path of moves**, at the times its iterations read. -/
theorem run_path (config : DaemonConfig) (answers : ℕ → UsbAnswer)
    (inputs : List LoopInput) :
    (boot config answers).Reaches config.carriesDc W
      (TxMove.Timed (inputs.flatMap fun input =>
        [input.pttMs, input.requestMs]))
      (run config answers inputs) := by
  induction inputs using List.reverseRecOn with
  | nil => exact .refl _
  | append_singleton inputs input ih =>
    have hd := coherent_of_reaches (coherent_boot config answers) ih
    rw [run, List.foldl_append, List.flatMap_append]
    refine TxPlane.Reaches.trans (ih.mono fun m hm t ht => ?_)
      ((step_path hW hd).mono fun m hm t ht => ?_)
    · exact List.mem_append_left _ (hm t ht)
    · exact List.mem_append_right _ (by simpa using hm t ht)

end Runs

/-- Every run is coherent. -/
theorem coherent_run (config : DaemonConfig) (answers : ℕ → UsbAnswer)
    (inputs : List LoopInput) : (run config answers inputs).plane.Coherent :=
  coherent_of_reaches (coherent_boot config answers)
    (run_path ApiWorld.loops_true config answers inputs)

end Daemon
