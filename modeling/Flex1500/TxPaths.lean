import Flex1500.TxMove

/-!
# The operations are paths of moves

One lemma for each function of `tune_control.c` and `network_tx.c`, and for
the functions of `tx_control.c` the daemon calls itself: from a coherent
plane the function takes a path of moves. Where it is handed a time, the
moves are made at that time and grant nothing to whoever owned the
transmitter already; where it is not, they are passive. Attaching a stream
and recording from it are moves of their own.
-/

variable {ρ : Type} {cb : TxCallbacks (TxContext ρ)} {W : ρ → ρ → Prop}
variable {p q : TxPlane ρ}

/-- Moves with a time, as `TxPlane.Reaches` wants them. -/
abbrev TxPlane.ReachesAt (cb : TxCallbacks (TxContext ρ)) (W : ρ → ρ → Prop)
    (nowMs : UInt64) (p q : TxPlane ρ) : Prop :=
  p.Reaches cb W (TxMove.At nowMs p.tx.owner) q

/-- Moves of the microphone's switch. -/
abbrev TxPlane.ReachesSwitched (cb : TxCallbacks (TxContext ρ))
    (W : ρ → ρ → Prop) (nowMs : UInt64) (p q : TxPlane ρ) : Prop :=
  p.Reaches cb W (TxMove.Switched nowMs p.tx.owner) q

/-- Moves that feed a session. -/
abbrev TxPlane.ReachesFeeding (cb : TxCallbacks (TxContext ρ))
    (W : ρ → ρ → Prop) (p q : TxPlane ρ) : Prop :=
  p.Reaches cb W TxMove.Feeds q

/-- Moves without a time. -/
abbrev TxPlane.ReachesPassively (cb : TxCallbacks (TxContext ρ))
    (W : ρ → ρ → Prop) (p q : TxPlane ρ) : Prop :=
  p.Reaches cb W TxMove.Passive q

theorem TxPlane.ReachesPassively.at (h : p.ReachesPassively cb W q)
    (nowMs : UInt64) : p.ReachesAt cb W nowMs q :=
  h.mono fun _ hm => hm.at nowMs p.tx.owner

theorem TxPlane.ReachesPassively.switched (h : p.ReachesPassively cb W q)
    (nowMs : UInt64) : p.ReachesSwitched cb W nowMs q :=
  h.mono fun _ hm => hm.switched nowMs p.tx.owner

/-! ## The controller itself -/

namespace TxControl

variable (cb W) in
/-- A release is a stop, or nothing at all. Where it does nothing the owner
is another. -/
theorem releaseWith_path (h : p.Coherent) {owner : TxOwner}
    (hn : owner ≠ .none) (graceful : Bool) :
    let r := releaseWith cb graceful owner p.tx p.toTxContext
    p.ReachesPassively cb W (TxPlane.after r.2)
      ∧ ((r.1 = .ok ∨ r.1 = .hardwareError) ∧ p.tx.owner = owner
          ∧ TxPlane.after r.2 = p.unowned cb graceful
        ∨ r.1 ≠ .ok ∧ p.tx.owner ≠ owner ∧ TxPlane.after r.2 = p) := by
  intro r
  rcases releaseWith_cases cb graceful owner p.tx p.toTxContext with
    ⟨hno, result, hne, hr⟩ | ⟨_, _, ho, hr⟩
  · have he : TxPlane.after r.2 = p := by rw [show r = _ from hr]; rfl
    have hother : p.tx.owner ≠ owner := by
      rcases hno with hd | hd | hd
      · intro ho
        have := h.enabled (ho ▸ hn)
        simp [hd] at this
      · exact absurd hd hn
      · exact hd
    rw [he]
    exact ⟨.refl p, Or.inr ⟨by rw [show r = _ from hr]; exact hne, hother, rfl⟩⟩
  · have he : TxPlane.after r.2 = p.unowned cb graceful := by
      rw [show r = _ from hr]; rfl
    have hne : p.tx.owner ≠ .none := ho ▸ hn
    rw [he]
    refine ⟨.one (.stop hne) trivial, Or.inl ⟨?_, ho, rfl⟩⟩
    rw [show r = _ from hr, stopOwner_of_owner cb graceful p.toTxContext hne]
    dsimp only
    split <;> simp

/-- Stopping whoever owns the transmitter. -/
theorem stopOwner_path (graceful : Bool) :
    p.ReachesPassively cb W
      (TxPlane.after (stopOwner cb graceful p.tx p.toTxContext).2) := by
  by_cases ho : p.tx.owner = .none
  · rw [stopOwner_of_none cb graceful p.toTxContext ho]
    exact .refl p
  · exact .one (.stop ho) trivial

/-- `flex1500_tx_control_tick` is passive. -/
theorem tick_path (nowMs : UInt64) :
    p.ReachesPassively cb W
      (TxPlane.after (tick cb nowMs p.tx p.toTxContext).2) := by
  rcases tick_cases cb nowMs p.tx p.toTxContext with
    ⟨_, result, _, _, ht⟩ | ⟨_, _, _, ht⟩
  · rw [ht]; exact .refl p
  · rw [ht]; exact stopOwner_path false

/-- `flex1500_tx_control_shutdown` is passive. -/
theorem shutdown_path :
    p.ReachesPassively cb W
      (TxPlane.after (shutdown cb p.tx p.toTxContext)) := by
  unfold shutdown
  split
  · exact stopOwner_path false
  · exact .refl p

/-- `flex1500_tx_control_set_timeout_seconds` is passive. -/
theorem setTimeoutSeconds_path (seconds : ℕ) :
    p.ReachesPassively cb W
      { p with tx := (setTimeoutSeconds seconds p.tx).2 } := by
  unfold setTimeoutSeconds
  split
  · exact .refl p
  · rename_i h
    simp only [not_or, not_not, Nat.not_lt] at h
    exact .one (.setTimeout h.1 h.2.1 h.2.2) trivial

/-- A request for the microphone, wherever it is made from. -/
theorem requestMic_path (nowMs : UInt64) (owner : TxOwner) (hm : owner ≠ .physicalMic) :
    p.Reaches cb W (TxMove.Switched nowMs owner) (TxPlane.after
      (request cb .physicalMic nowMs p.tx p.toTxContext).2) := by
  rcases request_cases cb .physicalMic nowMs p.tx p.toTxContext with
    ⟨_, result, hr, _⟩ | ⟨ha, hok, _⟩ | ⟨ha, hf, _⟩
  · rw [hr]; exact .refl p
  · exact .one (.grantMic ha hok) ⟨rfl, hm.symm, rfl⟩
  · exact .one (.refuse ha (by decide) (by simp) hf) rfl

/-- `flex1500_tx_control_physical_ptt`: the switch is noted, whoever is in
the way is stopped, and the microphone asks for the transmitter. -/
theorem physicalPtt_path (pressed : Bool) (nowMs : UInt64) :
    p.ReachesSwitched cb W nowMs (TxPlane.after
      (physicalPtt cb pressed nowMs p.tx p.toTxContext).2) := by
  have hseen : p.ReachesSwitched cb W nowMs
      { p with tx := p.tx.seen pressed } :=
    .one (.note (quiet_seen p.tx pressed)) trivial
  have hstop (graceful : Bool) : p.ReachesSwitched cb W nowMs (TxPlane.after
      (stopOwner cb graceful (p.tx.seen pressed) p.toTxContext).2) :=
    hseen.trans (stopOwner_path (p := { p with tx := p.tx.seen pressed })
      graceful |>.switched nowMs)
  rcases physicalPtt_cases cb pressed nowMs p.tx p.toTxContext with
    ⟨_, _, result, tx', hq, _, hr⟩ | ⟨_, _, _, _, hr⟩ | ⟨_, _, _, _, _, _, hr⟩
    | ⟨_, _, _, _, hm, _, hr⟩ | ⟨_, _, _, hno, hr⟩
  · rw [hr]; exact .one (.note hq) trivial
  · rw [hr]; exact hstop true
  · rw [hr]; exact hstop false
  · rw [hr]
    exact (hstop false).trans
      (requestMic_path (p := TxPlane.after _) nowMs p.tx.owner hm)
  · rw [hr]
    refine hseen.trans ?_
    rcases hno with hno | hno
    · exact requestMic_path (p := { p with tx := p.tx.seen pressed }) nowMs
        p.tx.owner (by rw [hno]; decide)
    -- whoever speaks already is left to speak on
    · rcases request_cases cb .physicalMic nowMs (p.tx.seen pressed)
        p.toTxContext with ⟨_, result, hr', _⟩ | ⟨ha, _, _⟩ | ⟨ha, _, _⟩
      · rw [hr']; exact .refl _
      · exact absurd (hno.symm.trans ha.2.2.2.2.2) (by decide)
      · exact absurd (hno.symm.trans ha.2.2.2.2.2) (by decide)

end TxControl

/-! ## Tune -/

namespace TuneControl

/-- `stop_active` is passive. -/
theorem stopActive_path (h : p.Coherent) (reason : TuneResult) :
    p.ReachesPassively cb W (stopActive cb reason p).2 := by
  unfold stopActive
  by_cases ha : p.tune.active = true
  swap
  · rw [if_pos (by simpa using ha)]; exact .refl p
  rw [if_neg (by simpa using ha)]
  obtain ⟨hpath, hcase⟩ := TxControl.releaseWith_path cb W h
    (show TxOwner.tune ≠ .none by decide) false
  refine hpath.trans ((TxPlane.Reaches.one (.tally _ _) trivial).trans
    (.one (.endTune ?_) trivial))
  rcases hcase with ⟨_, ho, he⟩ | ⟨_, ho, he⟩
  · have hn : p.tx.owner ≠ .none := by rw [ho]; decide
    rw [TxPlane.withDiagnostics_tx]
    change (TxPlane.after (TxControl.releaseWith cb false .tune p.tx
      p.toTxContext).2).tx.owner ≠ .tune
    rw [he, TxPlane.unowned, TxControl.stopOwner_of_owner cb false _ hn]
    simp [TxPlane.after, TxControl.stopped]
  · rw [TxPlane.withDiagnostics_tx]
    exact (congrArg (·.tx.owner) he).trans_ne ho

/-- `flex1500_tune_control_start` grants the transmitter, or refuses. -/
theorem start_path (h : p.Coherent) (nowMs lease : UInt64) :
    p.ReachesAt cb W nowMs (start cb nowMs lease p).2 := by
  unfold start
  by_cases he : p.tune.enabled = true
  swap
  · rw [if_pos (by simpa using he)]; exact .refl p
  rw [if_neg (by simpa using he)]
  by_cases ha : p.tune.active = true
  · rw [if_pos ha]; exact .one (.tally p _) trivial
  rw [if_neg ha]
  by_cases hl : lease = 0
  · rw [if_pos hl]; exact .refl p
  rw [if_neg hl]
  dsimp only
  rcases TxControl.request_cases cb .tune nowMs p.tx p.toTxContext with
    ⟨_, result, hr, hok⟩ | ⟨hadm, hok, hr⟩ | ⟨hadm, hf, hr⟩
  · have hne : result ≠ .ok := fun hres =>
      ha (h.tune_active (hok hres).2.2)
    rw [hr, if_pos hne]
    change p.ReachesAt cb W nowMs (if p.tx.cleanupFailed = true then
      p.withDiagnostics TxDiagnostics.recordCleanupFailure else p)
    by_cases hc : p.tx.cleanupFailed = true
    · rw [if_pos hc]; exact .one (.tally p _) trivial
    · rw [if_neg hc]; exact .refl p
  · have hn : p.tx.owner ≠ .tune := by rw [hadm.2.2.2.2.2]; decide
    have hgrant : TxStep cb W (.grant .tune nowMs) p
        ((TxPlane.after (TxControl.request cb .tune nowMs p.tx
          p.toTxContext).2).withTune (·.started nowMs lease)) :=
      .grantTune hadm hl hok
    rw [if_neg (by rw [hr]; simp)]
    dsimp only
    exact .trans (.one hgrant ⟨rfl, hn.symm, by decide⟩)
      (.one (.tally _ _) trivial)
  · have hrefuse : TxStep cb W (.refuse .tune) p (TxPlane.after
        (TxControl.request cb .tune nowMs p.tx p.toTxContext).2) :=
      .refuse hadm (by decide) (by simp) hf
    rw [if_pos (by rw [hr]; simp)]
    dsimp only
    have hmic : TxOwner.tune ≠ .physicalMic := by decide
    split
    · exact .trans (.one hrefuse hmic) (.one (.tally _ _) trivial)
    · exact .one hrefuse hmic

/-- `flex1500_tune_control_keepalive` renews a lease that still runs. -/
theorem keepalive_path (h : p.Coherent) (nowMs lease : UInt64) :
    p.ReachesAt cb W nowMs (keepalive cb nowMs lease p).2 := by
  unfold keepalive
  by_cases he : p.tune.enabled = true
  swap
  · rw [if_pos (by simpa using he)]; exact .refl p
  rw [if_neg (by simpa using he)]
  split
  · exact .one (.tally p _) trivial
  rename_i hl
  have ha : p.tune.active = true := by simp_all
  by_cases hh : tuneHardLimitMs ≤ nowMs - p.tune.startedMs
  · rw [if_pos hh]
    exact TxPlane.ReachesPassively.at (stopActive_path h .hardLimit) nowMs
  rw [if_neg hh]
  by_cases hx : tuneLeaseMs ≤ nowMs - p.tune.renewedMs
  · rw [if_pos hx]
    exact TxPlane.ReachesPassively.at (stopActive_path h .expired) nowMs
  rw [if_neg hx]
  exact .one (.renewTune ha (UInt64.not_le.mp hx) (UInt64.not_le.mp hh)) rfl

/-- `flex1500_tune_control_stop` is passive. -/
theorem stop_path (h : p.Coherent) (lease : UInt64) :
    p.ReachesPassively cb W (stop cb lease p).2 := by
  unfold stop
  split
  · exact .refl p
  split
  · exact .one (.tally p _) trivial
  · exact stopActive_path h .ok

/-- `flex1500_tune_control_tick` is passive. -/
theorem tick_path (h : p.Coherent) (nowMs : UInt64) :
    p.ReachesPassively cb W (tick cb nowMs p).2 := by
  unfold tick
  split
  · exact .refl p
  split
  · exact .refl p
  split
  · exact stopActive_path h .hardLimit
  split
  · exact stopActive_path h .expired
  · exact .refl p

/-- `flex1500_tune_control_reconcile` is passive. -/
theorem reconcile_path (watchdogStop : Bool) :
    p.ReachesPassively cb W (reconcile watchdogStop p) := by
  unfold reconcile
  split
  · exact .refl p
  · rename_i hc
    have ho : p.tx.owner ≠ .tune := by simp_all
    exact .trans (.one (.endTune ho) trivial) (.one (.tally _ _) trivial)

/-- `flex1500_tune_control_shutdown` is passive. -/
theorem shutdown_path (h : p.Coherent) :
    p.ReachesPassively cb W (shutdown cb p) := by
  unfold shutdown
  split
  · exact stopActive_path h .ok
  · exact .refl p

end TuneControl

/-! ## The network session -/

namespace NetworkTx

variable (cb W) in
/-- A keyed session is stopped and unkeyed, whoever owns the transmitter,
and the transmitter is no longer its own. -/
theorem stopWith_path (h : p.Coherent) (graceful : Bool) :
    let q := TxPlane.after (TxControl.releaseWith cb graceful .http p.tx
      p.toTxContext).2
    p.ReachesPassively cb W (q.withNetwork unkeyed) ∧ q.tx.owner ≠ .http := by
  intro q
  obtain ⟨hpath, hcase⟩ := TxControl.releaseWith_path cb W h
    (show TxOwner.http ≠ .none by decide) graceful
  have ho : q.tx.owner ≠ .http := by
    rcases hcase with ⟨_, ho, he⟩ | ⟨_, ho, he⟩
    · have hn : p.tx.owner ≠ .none := by rw [ho]; decide
      rw [show q = _ from he, TxPlane.unowned,
        TxControl.stopOwner_of_owner cb graceful _ hn]
      simp [TxPlane.after, TxControl.stopped]
    · rw [show q = _ from he]; exact ho
  exact ⟨hpath.trans (.one (.unkey ho) trivial), ho⟩

variable (cb W) in
/-- `stop_if_keyed` leaves a session that is not keyed, and a transmitter
that is not its own. -/
theorem stopIfKeyed_path (h : p.Coherent) :
    p.ReachesPassively cb W (stopIfKeyed cb p).2
      ∧ (stopIfKeyed cb p).2.tx.owner ≠ .http
      ∧ (stopIfKeyed cb p).2.network.keyed = false := by
  unfold stopIfKeyed
  by_cases hk : p.network.keyed = true
  · rw [if_neg (by simpa using hk)]
    obtain ⟨hpath, ho⟩ := stopWith_path cb W h false
    exact ⟨hpath, ho, rfl⟩
  · rw [if_pos (by simpa using hk)]
    exact ⟨.refl p, fun ho => hk (h.http_keyed ho), by simpa using hk⟩

/-- `flex1500_network_tx_acquire` reserves a free session. -/
theorem acquire_path (profile : NetworkTxProfile) (lease nowMs : UInt64) :
    p.ReachesAt cb W nowMs (acquire profile lease nowMs p).2 := by
  unfold acquire
  split
  · exact .refl p
  split
  · exact .refl p
  split
  · exact .refl p
  · exact .one (.reserve (by simp_all) (by simp_all) (by simp_all)
      (by simp_all)) rfl

/-- `flex1500_network_tx_keepalive` renews a session. -/
theorem keepalive_path (lease nowMs : UInt64) :
    p.ReachesAt cb W nowMs
      (p.withNetwork fun s => (s.keepalive lease nowMs).2) := by
  by_cases ho : p.network.owns lease = true
  · have he : (p.withNetwork fun s => (s.keepalive lease nowMs).2)
        = p.withNetwork (·.renewed nowMs) := by
      simp [TxPlane.withNetwork, keepalive, ho]
    rw [he]
    exact .one (.renewNetwork (owns_iff.mp ho).1) rfl
  · have he : (p.withNetwork fun s => (s.keepalive lease nowMs).2) = p := by
      simp [TxPlane.withNetwork, keepalive, ho]
    rw [he]
    exact .refl p

/-- `flex1500_network_tx_record_data` feeds an attached session. -/
theorem recordData_path (lease : UInt64) (frames : ℕ) (nowMs : UInt64) :
    p.ReachesFeeding cb W
      (p.withNetwork fun s => (s.recordData lease frames nowMs).2) := by
  by_cases hc : p.network.owns lease = true
      ∧ p.network.streamConnected = true ∧ frames ≠ 0
  · have he : (p.withNetwork fun s => (s.recordData lease frames nowMs).2)
        = p.withNetwork (·.recorded frames nowMs) := by
      simp [TxPlane.withNetwork, recordData, hc.1, hc.2.1, hc.2.2]
    rw [he]
    exact .one (.record (owns_iff.mp hc.1).1 hc.2.1) trivial
  · have he : (p.withNetwork fun s => (s.recordData lease frames nowMs).2)
        = p := by
      by_cases ho : p.network.owns lease = true
      · by_cases hs : p.network.streamConnected = true
        · simp_all [TxPlane.withNetwork, recordData]
        · simp [TxPlane.withNetwork, recordData, ho, hs]
      · simp [TxPlane.withNetwork, recordData, ho]
    rw [he]
    exact .refl p

/-- `flex1500_network_tx_ptt_start` keys a session that is ready. -/
theorem pttStart_path (h : p.Coherent) (lease nowMs : UInt64) :
    p.ReachesAt cb W nowMs (pttStart cb lease nowMs p).2 := by
  unfold pttStart
  by_cases ho : p.network.owns lease = true
  swap
  · rw [if_pos (by simpa using ho)]; exact .refl p
  rw [if_neg (by simpa using ho)]
  split
  · exact .refl p
  rename_i hb
  have hready : p.network.Ready :=
    ⟨(owns_iff.mp ho).1, by simp_all, by simp_all⟩
  by_cases hk : p.network.keyed = true
  · rw [if_pos hk]; exact .refl p
  rw [if_neg hk]
  dsimp only
  rcases TxControl.request_cases cb .http nowMs p.tx p.toTxContext with
    ⟨_, result, hr, hok⟩ | ⟨hadm, hok, hr⟩ | ⟨hadm, hf, hr⟩
  · have hne : result ≠ .ok := fun hres => hk (h.http_keyed (hok hres).2.2)
    rw [hr, if_pos hne]
    dsimp only
    split <;> exact .refl p
  · have hn : p.tx.owner ≠ .http := by rw [hadm.2.2.2.2.2]; decide
    have hgrant : TxStep cb W (.grant .http nowMs) p
        ((TxPlane.after (TxControl.request cb .http nowMs p.tx
          p.toTxContext).2).withNetwork (·.keyedAt nowMs)) :=
      .grantNetwork hadm hready hok
    rw [if_neg (by rw [hr]; simp), if_neg (by rw [hr]; simp)]
    exact .one hgrant ⟨rfl, hn.symm, by decide⟩
  · have hrefuse : TxStep cb W (.refuse .http) p (TxPlane.after
        (TxControl.request cb .http nowMs p.tx p.toTxContext).2) :=
      .refuse hadm (by decide) (fun _ => hready) hf
    rw [if_neg (by rw [hr]; simp), if_pos (by rw [hr]; simp)]
    exact .one hrefuse (show TxOwner.http ≠ .physicalMic by decide)

/-- `flex1500_network_tx_ptt_stop` is passive. -/
theorem pttStop_path (h : p.Coherent) (lease : UInt64) :
    p.ReachesPassively cb W (pttStop cb lease p).2 := by
  unfold pttStop
  split
  · exact .refl p
  split
  · obtain ⟨hpath, _⟩ := stopWith_path cb W h true
    exact hpath.trans (.one (.drain rfl) trivial)
  · exact .refl p

/-- `flex1500_network_tx_release` is passive. -/
theorem release_path (h : p.Coherent) (lease : UInt64) :
    p.ReachesPassively cb W (release cb lease p).2 := by
  unfold release
  split
  · exact .refl p
  · obtain ⟨hpath, ho, _⟩ := stopIfKeyed_path cb W h
    exact hpath.trans (.one (.clear ho) trivial)

/-- `flex1500_network_tx_disconnect_stream` is passive. -/
theorem disconnectStream_path (h : p.Coherent) :
    p.ReachesPassively cb W (disconnectStream cb p).2 := by
  unfold disconnectStream
  split
  · exact .refl p
  · obtain ⟨hpath, _, hk⟩ := stopIfKeyed_path cb W h
    exact hpath.trans (.one (.detach hk) trivial)

/-- `flex1500_network_tx_tick` is passive. -/
theorem tick_path (h : p.Coherent) (nowMs : UInt64) :
    p.ReachesPassively cb W (tick cb nowMs p).2 := by
  unfold tick
  split
  · exact .refl p
  split
  · exact .refl p
  · obtain ⟨hpath, ho, _⟩ := stopIfKeyed_path cb W h
    exact hpath.trans (.one (.clear ho) trivial)

/-- `flex1500_network_tx_reconcile` is passive. -/
theorem reconcile_path :
    p.ReachesPassively cb W (reconcile p) := by
  unfold reconcile
  split
  · exact .one (.clear (by simp_all)) trivial
  · exact .refl p

end NetworkTx
