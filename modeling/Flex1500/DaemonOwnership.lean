import Flex1500.DaemonPaths

/-!
# The three records agree

The controller, the tune lease and the network session each keep their own
account of who transmits. Between the blocks of the loop the accounts may
differ: coherence only says that an owner has its session. The reconcile
calls at the top of the loop give the converse, and whatever the ticks in
between and behind them do keeps it, so that right after the block the three
accounts are one.
-/

section Agreement

variable {ρ : Type} {cb : TxCallbacks (TxContext ρ)} {p q : TxPlane ρ}

/-- **The records agree** on who transmits, and the session is as it should
be. -/
structure TxPlane.Agreement (p : TxPlane ρ) : Prop where
  tune : p.tx.owner = .tune ↔ p.tune.active = true
  http : p.tx.owner = .http ↔ p.network.keyed = true
  keyed : p.network.keyed = true →
    p.network.reserved = true ∧ p.network.streamConnected = true
      ∧ p.network.lease ≠ 0
      ∧ p.network.bufferedFrames = networkTxMinPrebufferFrames
  buffered : p.network.bufferedFrames ≤ networkTxMinPrebufferFrames
  vacant : p.network.reserved = false →
    p.network.lease = 0 ∧ p.network.keyed = false
      ∧ p.network.streamConnected = false ∧ p.network.bufferedFrames = 0

/-- In a coherent plane, sessions that have their owner are all there is to
agree on. -/
theorem TxPlane.Coherent.agreement (h : p.Coherent)
    (ht : p.tune.active = true → p.tx.owner = .tune)
    (hk : p.network.keyed = true → p.tx.owner = .http) : p.Agreement where
  tune := ⟨h.tune_active, ht⟩
  http := ⟨h.http_keyed, hk⟩
  keyed hkeyed :=
    have hs := h.sound.keyed hkeyed
    ⟨hs.1, hs.2.1, (h.sound.reserved hs.1).1, hs.2.2⟩
  buffered := h.sound.buffered_le
  vacant := h.sound.vacant

/-- After a reconcile, a tune lease has its owner. -/
theorem TuneControl.owner_of_active_reconcile (watchdogStop : Bool)
    (p : TxPlane ρ)
    (ha : (TuneControl.reconcile watchdogStop p).tune.active = true) :
    (TuneControl.reconcile watchdogStop p).tx.owner = .tune := by
  unfold TuneControl.reconcile at ha ⊢
  split at ha
  · rename_i h
    simp_all
  · exact absurd ha (by simp [TuneControl.tallied, TuneControl.ended])

/-- A reconcile of the session leaves the controller and the tune lease
alone. -/
theorem NetworkTx.reconcile_tx (p : TxPlane ρ) :
    (NetworkTx.reconcile p).tx = p.tx
      ∧ (NetworkTx.reconcile p).tune = p.tune := by
  unfold NetworkTx.reconcile
  split <;> exact ⟨rfl, rfl⟩

/-- After a reconcile, a keyed session has its owner. -/
theorem NetworkTx.owner_of_keyed_reconcile (h : p.Coherent)
    (hk : (NetworkTx.reconcile p).network.keyed = true) :
    (NetworkTx.reconcile p).tx.owner = .http := by
  rw [(NetworkTx.reconcile_tx p).1]
  unfold NetworkTx.reconcile at hk
  split at hk
  · simp [NetworkTx.cleared] at hk
  · rename_i hno
    have hr := (h.sound.keyed hk).1
    simpa [hr, hk] using hno

/-- Stopping a keyed session touches neither the tune lease nor another
owner. -/
theorem NetworkTx.stopIfKeyed_others (hcb : cb.Framed) (h : p.Coherent) :
    (NetworkTx.stopIfKeyed cb p).2.tune.active = p.tune.active
      ∧ (p.tx.owner ≠ .http →
        (NetworkTx.stopIfKeyed cb p).2.tx.owner = p.tx.owner) := by
  unfold NetworkTx.stopIfKeyed
  split
  · exact ⟨rfl, fun _ => rfl⟩
  obtain ⟨-, ⟨-, ho, he⟩ | ⟨-, -, he⟩⟩ := TxControl.releaseWith_path cb
    (fun _ _ => True) h (show TxOwner.http ≠ .none by decide) false
  · have hf := (TxPlane.unowned_spec hcb false (p := p) (by simp [ho])).2
    refine ⟨?_, fun hno => absurd ho hno⟩
    change (TxPlane.after (TxControl.releaseWith cb false .http p.tx
      p.toTxContext).2).tune.active = _
    rw [he]
    exact hf.active
  · refine ⟨?_, fun _ => ?_⟩
    · change (TxPlane.after (TxControl.releaseWith cb false .http p.tx
        p.toTxContext).2).tune.active = _
      rw [he]
    · change (TxPlane.after (TxControl.releaseWith cb false .http p.tx
        p.toTxContext).2).tx.owner = _
      rw [he]

/-- **The session's tick keeps agreement.** -/
theorem NetworkTx.agreement_tick (hcb : cb.Framed) (h : p.Coherent)
    (ha : p.Agreement) (nowMs : UInt64) :
    (NetworkTx.tick cb nowMs p).2.Agreement := by
  have hcoherent := h.reaches hcb
    (show p.ReachesPassively cb (fun _ _ => True) _ from
      NetworkTx.tick_path h nowMs)
  refine hcoherent.agreement ?_ ?_
  all_goals
    unfold NetworkTx.tick
    split
    · first | exact ha.tune.mpr | exact ha.http.mpr
    split
    · first | exact ha.tune.mpr | exact ha.http.mpr
  · obtain ⟨hactive, howner⟩ := NetworkTx.stopIfKeyed_others hcb h
    intro ht
    have hp : p.tx.owner = .tune := ha.tune.mpr (hactive.symm.trans ht)
    exact (howner (by simp [hp])).trans hp
  · intro hk
    simp [NetworkTx.cleared] at hk

end Agreement

namespace Daemon

variable {config : DaemonConfig} {d : Daemon}

variable (config) in
/-- After the maximum-key timer a tune lease has its owner. -/
theorem owner_of_active_txTick (nowMs : UInt64)
    (ha : (d.txTick config nowMs).plane.tune.active = true) :
    (d.txTick config nowMs).plane.tx.owner = .tune := by
  revert ha
  unfold txTick
  extract_lets ticked p
  have hp : p.tune.active = true → p.tx.owner = .tune :=
    TuneControl.owner_of_active_reconcile _ _
  dsimp only [withPlane]
  split
  · exact hp
  · exact hp

/-- The plane a reconcile of the session leaves. -/
theorem networkReconcile_plane (d : Daemon) :
    d.networkReconcile.plane.tx = (NetworkTx.reconcile d.plane).tx
      ∧ d.networkReconcile.plane.tune = (NetworkTx.reconcile d.plane).tune
      ∧ d.networkReconcile.plane.network
        = (NetworkTx.reconcile d.plane).network := by
  unfold networkReconcile
  dsimp only
  split <;> exact ⟨rfl, rfl, rfl⟩

variable (config) in
/-- The plane a tick of the session leaves. -/
theorem networkTick_plane (nowMs : UInt64) (d : Daemon) :
    let p := (NetworkTx.tick (daemonCallbacks config.carriesDc) nowMs
      d.plane).2
    (d.networkTick config nowMs).plane.tx = p.tx
      ∧ (d.networkTick config nowMs).plane.tune.active = p.tune.active
      ∧ (d.networkTick config nowMs).plane.network = p.network := by
  unfold networkTick
  dsimp only
  split <;> exact ⟨rfl, rfl, rfl⟩

/-- **The top of the loop makes the records agree**, whatever came
before. -/
theorem agreement_ticks (hd : d.plane.Coherent) (input : LoopInput) :
    (d.ticks config input).plane.Agreement := by
  have hserves := ApiWorld.loops_true.toServes
  have h₁ := stationTick_path config hserves hd input.stationMs
  have h₂ := h₁.trans (tuneTick_path (coherent_of_reaches hd h₁) input.tuneMs)
  have h₃ := h₂.trans (txTick_path input.txMs)
  have h₄ := h₃.trans (networkReconcile_path hserves.toTends)
  have hcoherent := coherent_of_reaches hd h₃
  have hactive := owner_of_active_txTick config
    (d := (d.stationTick config input.stationMs).tuneTick config input.tuneMs)
    input.txMs
  unfold ticks
  generalize ((d.stationTick config input.stationMs).tuneTick config
    input.tuneMs).txTick config input.txMs = e at *
  obtain ⟨htx, htune, hnetwork⟩ := networkReconcile_plane e
  have hagree : e.networkReconcile.plane.Agreement := by
    refine (coherent_of_reaches hd h₄).agreement ?_ ?_
    · rw [htx, htune, (NetworkTx.reconcile_tx e.plane).1,
        (NetworkTx.reconcile_tx e.plane).2]
      exact hactive
    · rw [htx, hnetwork]
      exact NetworkTx.owner_of_keyed_reconcile hcoherent
  have htick := NetworkTx.agreement_tick
    (framed_daemonCallbacks config.carriesDc) (coherent_of_reaches hd h₄)
    hagree input.networkMs
  obtain ⟨htx', htune', hnetwork'⟩ := networkTick_plane config
    input.networkMs e.networkReconcile
  exact ⟨by rw [htx', htune']; exact htick.tune,
    by rw [htx', hnetwork']; exact htick.http,
    by rw [hnetwork']; exact htick.keyed,
    by rw [hnetwork']; exact htick.buffered,
    by rw [hnetwork']; exact htick.vacant⟩

/-- **The three ownership records agree** at the top of the loop: in any
run, whatever the radio answers and in whatever order requests, edges of the
switch, samples, expiries and recoveries come, right after the block of
ticks and reconcile calls the owner is the tune carrier exactly when its
lease is active and the network session exactly when it is keyed; a keyed
session is reserved under a lease, has its stream and its pre-roll, no
pre-roll exceeds its bound, and a session that is not reserved has
nothing. -/
theorem ownership_agrees (config : DaemonConfig) (answers : ℕ → UsbAnswer)
    (inputs : List LoopInput) (input : LoopInput) :
    ((run config answers inputs).ticks config input).plane.Agreement :=
  agreement_ticks (coherent_run config answers inputs) input

end Daemon
