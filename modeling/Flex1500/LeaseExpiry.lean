import Flex1500.DaemonLeases

/-!
# Leases whose time is up

A lease lasts until its period has passed since it was last renewed, and a
tick collects it then. A request may come between the deadline and the tick.
For the tune carrier the renewal looks at the time itself and ends the lease;
for the station and for a session it looks at the lease alone, and a lease
that is dead comes back to life.
-/

variable {ρ : Type}

namespace LeaseKind

/-- The period of a kind of lease. -/
def periodMs : LeaseKind → UInt64
  | .station => stationOwnerLeaseMs
  | .tune => tuneLeaseMs
  | .session => networkTxLeaseMs

/-- When the lease of a kind was last renewed. -/
def renewedMs (kind : LeaseKind) (p : TxPlane (ApiWorld ρ)) : UInt64 :=
  match kind with
  | .station => p.world.station.renewedMs
  | .tune => p.tune.renewedMs
  | .session => p.network.renewedMs

/-- **The keepalive of a kind**: whether it succeeds, and what it leaves. -/
def keepalive (cb : TxCallbacks (TxContext (ApiWorld ρ))) (kind : LeaseKind)
    (lease nowMs : UInt64) (p : TxPlane (ApiWorld ρ)) :
    Bool × TxPlane (ApiWorld ρ) :=
  match kind with
  | .station =>
    ((p.world.station.keepalive lease nowMs).1 = .ok,
      p.withStation (p.world.station.keepalive lease nowMs).2)
  | .tune =>
    ((TuneControl.keepalive cb nowMs lease p).1 = .ok,
      (TuneControl.keepalive cb nowMs lease p).2)
  | .session =>
    ((p.network.keepalive lease nowMs).1 = .ok,
      p.withNetwork fun session => (session.keepalive lease nowMs).2)

/-- The tick of a kind. -/
def tick (cb : TxCallbacks (TxContext (ApiWorld ρ))) (kind : LeaseKind)
    (nowMs : UInt64) (p : TxPlane (ApiWorld ρ)) : TxPlane (ApiWorld ρ) :=
  match kind with
  | .station => p.withStation (p.world.station.tick nowMs).2
  | .tune => (TuneControl.tick cb nowMs p).2
  | .session => (NetworkTx.tick cb nowMs p).2

/-- **Overdue**: the period has passed since the lease was last renewed. -/
def Overdue (kind : LeaseKind) (nowMs : UInt64) (p : TxPlane (ApiWorld ρ)) :
    Prop :=
  kind.periodMs ≤ nowMs - kind.renewedMs p

instance (kind : LeaseKind) (nowMs : UInt64) (p : TxPlane (ApiWorld ρ)) :
    Decidable (kind.Overdue nowMs p) :=
  inferInstanceAs (Decidable (_ ≤ _))

/-- **Not renewed**: the keepalive did not succeed, and unless it ended the
lease it left the time of the renewal where it was. -/
structure NotRenewed (kind : LeaseKind) (p : TxPlane (ApiWorld ρ))
    (r : Bool × TxPlane (ApiWorld ρ)) : Prop where
  refused : r.1 = false
  unmoved : kind.live r.2 = none ∨ kind.renewedMs r.2 = kind.renewedMs p

variable {cb : TxCallbacks (TxContext (ApiWorld ρ))}
variable {p : TxPlane (ApiWorld ρ)} {kind : LeaseKind} {lease nowMs : UInt64}

/-! ## One keepalive -/

/-- A lease that is not in force renews nothing. -/
theorem notRenewed_of_not_live (hdead : lease = 0 ∨ lease ∉ kind.live p) :
    kind.NotRenewed p (kind.keepalive cb lease nowMs p) := by
  cases kind with
  | station =>
    have hforeign : p.world.station.leaseMatches lease = false := by
      rw [Bool.eq_false_iff]
      intro hmatches
      obtain ⟨hheld, hnonzero, hlease⟩ :=
        StationOwner.leaseMatches_iff.mp hmatches
      exact hdead.elim hnonzero
        fun h => h (mem_live_station.mpr ⟨hheld, hlease⟩)
    have hstale : p.world.station.keepalive lease nowMs
        = (.stale, p.world.station) := by
      rw [StationOwner.keepalive, if_pos (by simp [hforeign])]
    refine ⟨?_, Or.inr ?_⟩
    · rw [keepalive, hstale]
      rfl
    · show (p.world.station.keepalive lease nowMs).2.renewedMs = _
      rw [hstale]
      rfl
  | tune =>
    have hforeign : (!p.tune.active || lease == 0 || lease != p.tune.lease)
        = true := by
      by_contra h
      have hboth : (p.tune.active = true ∧ lease ≠ 0)
          ∧ lease = p.tune.lease := by simpa using h
      exact hdead.elim hboth.1.2
        fun h => h (mem_live_tune.mpr ⟨hboth.1.1, hboth.2.symm⟩)
    have hrefused : (TuneControl.keepalive cb nowMs lease p).1 ≠ .ok
        ∧ (TuneControl.keepalive cb nowMs lease p).2.tune.renewedMs
          = p.tune.renewedMs := by
      unfold TuneControl.keepalive
      split
      · exact ⟨fun h => TuneResult.noConfusion h, rfl⟩
      · exact ⟨fun h => TuneResult.noConfusion h, rfl⟩
    exact ⟨decide_eq_false hrefused.1, Or.inr hrefused.2⟩
  | session =>
    have hforeign : p.network.owns lease = false := by
      rw [Bool.eq_false_iff]
      intro howns
      obtain ⟨hreserved, hnonzero, hlease⟩ := NetworkTx.owns_iff.mp howns
      exact hdead.elim hnonzero
        fun h => h (mem_live_session.mpr ⟨hreserved, hlease⟩)
    have hstale : p.network.keepalive lease nowMs = (.stale, p.network) := by
      rw [NetworkTx.keepalive, if_pos (by simp [hforeign])]
    refine ⟨?_, Or.inr ?_⟩
    · rw [keepalive, hstale]
      rfl
    · show (p.network.keepalive lease nowMs).2.renewedMs = _
      rw [hstale]
      rfl

/-- **The carrier's keepalive looks at the time**: overdue, it ends the
lease. -/
theorem notRenewed_tune (hoverdue : tune.Overdue nowMs p) :
    tune.NotRenewed p (tune.keepalive cb lease nowMs p) := by
  have hoverdue : tuneLeaseMs ≤ nowMs - p.tune.renewedMs := hoverdue
  have hstopped (reason : TuneResult) (hreason : reason ≠ .ok)
      (hactive : p.tune.active = true) :
      (TuneControl.stopActive cb reason p).1 ≠ .ok
        ∧ tune.live (TuneControl.stopActive cb reason p).2 = none := by
    refine ⟨?_, ?_⟩
    · unfold TuneControl.stopActive
      rw [if_neg (by simp [hactive])]
      dsimp only
      split
      · exact hreason
      · exact fun h => TuneResult.noConfusion h
    · show (if (TuneControl.stopActive cb reason p).2.tune.active then _
        else none) = none
      rw [TuneControl.inactive_stopActive reason hactive]
      rfl
  have hrefused : (TuneControl.keepalive cb nowMs lease p).1 ≠ .ok
      ∧ (tune.live (TuneControl.keepalive cb nowMs lease p).2 = none
        ∨ (TuneControl.keepalive cb nowMs lease p).2.tune.renewedMs
          = p.tune.renewedMs) := by
    unfold TuneControl.keepalive
    split
    · exact ⟨fun h => TuneResult.noConfusion h, Or.inr rfl⟩
    split
    · exact ⟨fun h => TuneResult.noConfusion h, Or.inr rfl⟩
    rename_i hforeign
    have hactive : p.tune.active = true := by
      by_contra hactive
      exact hforeign (by simp [hactive])
    split
    · have hlimit := hstopped .hardLimit (by decide) hactive
      exact ⟨hlimit.1, Or.inl hlimit.2⟩
    · have hexpired := hstopped .expired (by decide) hactive
      exact ⟨hexpired.1, Or.inl hexpired.2⟩
  exact ⟨decide_eq_false hrefused.1, hrefused.2⟩

/-- **The station's and a session's do not**: a lease in force is renewed
whatever the time. -/
theorem renewed_of_live (hkind : kind ≠ .tune) (hnonzero : lease ≠ 0)
    (hlive : lease ∈ kind.live p) :
    (kind.keepalive cb lease nowMs p).1 = true := by
  cases kind with
  | station =>
    obtain ⟨hheld, hlease⟩ := mem_live_station.mp hlive
    have hmatches := StationOwner.leaseMatches_iff.mpr
      ⟨hheld, hnonzero, hlease⟩
    simp [keepalive, StationOwner.keepalive, hmatches]
  | tune => exact absurd rfl hkind
  | session =>
    obtain ⟨hreserved, hlease⟩ := mem_live_session.mp hlive
    have howns := NetworkTx.owns_iff.mpr ⟨hreserved, hnonzero, hlease⟩
    simp [keepalive, NetworkTx.keepalive, howns]

/-- A tick that finds a lease overdue ends it. -/
theorem live_tick
    (harmed : kind = .tune → p.tune.active = true → p.tune.enabled = true)
    (hoverdue : kind.Overdue nowMs p) :
    kind.live (kind.tick cb nowMs p) = none := by
  cases kind with
  | station =>
    have hlate : ¬ nowMs - p.world.station.renewedMs < stationOwnerLeaseMs :=
      UInt64.not_lt.mpr hoverdue
    show (if (p.world.station.tick nowMs).2.held then _ else none) = none
    unfold StationOwner.tick
    split
    · rename_i hfree
      exact if_neg (by simpa using hfree)
    · rfl
  | tune =>
    have hoverdue : tuneLeaseMs ≤ nowMs - p.tune.renewedMs := hoverdue
    show (if (TuneControl.tick cb nowMs p).2.tune.active then _ else none)
      = none
    unfold TuneControl.tick
    split
    · rename_i hdisabled
      refine if_neg fun hactive => ?_
      rw [harmed rfl hactive] at hdisabled
      exact Bool.false_ne_true hdisabled
    split
    · rename_i hidle
      exact if_neg (by simpa using hidle)
    rename_i hactive
    have hactive : p.tune.active = true := by simpa using hactive
    split
    · rw [TuneControl.inactive_stopActive _ hactive]
      rfl
    · rw [TuneControl.inactive_stopActive _ hactive]
      rfl
  | session =>
    have hlate : ¬ nowMs - p.network.renewedMs < networkTxLeaseMs :=
      UInt64.not_lt.mpr hoverdue
    show (if (NetworkTx.tick cb nowMs p).2.network.reserved then _ else none)
      = none
    unfold NetworkTx.tick
    split
    · rename_i hfree
      exact if_neg (by simpa using hfree)
    · rfl

end LeaseKind

/-! ## The carrier is enabled where it is active -/

/-- Arming the switch enables nothing. -/
theorem TxControl.enabled_armPhysicalPtt (control : TxControl) :
    control.armPhysicalPtt.enabled = control.enabled := by
  unfold armPhysicalPtt
  split
  · rfl
  · rfl

section Armed

variable {σ : Type} {cb : TxCallbacks (TxContext σ)} {W : σ → σ → Prop}
variable {m : TxMove} {p q : TxPlane σ}

/-- **Armed**: the carrier's record is enabled with the transmitter, and it
is active only then. -/
structure TxPlane.TuneArmed (p : TxPlane σ) : Prop where
  agrees : p.tune.enabled = p.tx.enabled
  active : p.tune.active = true → p.tune.enabled = true

/-- What is armed stays so where the flags do. -/
theorem TxPlane.TuneArmed.congr (h : p.TuneArmed)
    (htx : q.tx.enabled = p.tx.enabled)
    (henabled : q.tune.enabled = p.tune.enabled)
    (hactive : q.tune.active = true → p.tune.active = true) :
    q.TuneArmed := by
  refine ⟨?_, fun hq => ?_⟩
  · rw [henabled, htx]
    exact h.agrees
  · rw [henabled]
    exact h.active (hactive hq)

/-- Callbacks that leave the sessions alone keep the carrier armed. -/
theorem TxPlane.TuneArmed.of_framed (h : p.TuneArmed)
    (htx : q.tx.enabled = p.tx.enabled)
    (hframed : p.toTxContext.Framed q.toTxContext) : q.TuneArmed := by
  obtain ⟨-, d, htune⟩ := hframed
  have htune : q.tune = p.tune.tallied d := htune
  refine h.congr htx ?_ ?_
  · rw [htune]
    rfl
  · rw [htune]
    exact id

/-- **Every move keeps** the carrier armed. -/
theorem TxPlane.tuneArmed_step (hcb : cb.Framed) (hstep : TxStep cb W m p q)
    (h : p.TuneArmed) : q.TuneArmed := by
  cases hstep with
  | note hq => exact h.congr hq.enabled rfl id
  | restart _ =>
    refine ⟨?_, fun hactive => (Bool.false_ne_true hactive).elim⟩
    exact (TxControl.enabled_armPhysicalPtt (.init _ _)).symm
  | stop ho =>
    obtain ⟨⟨result, htx⟩, hframed⟩ := unowned_spec hcb _ ho
    exact h.of_framed (by rw [htx]; rfl) hframed
  | refuse ha _ _ hfail =>
    obtain ⟨⟨result, htx⟩, hframed⟩ := refused_spec hcb ha hfail
    exact h.of_framed (by rw [htx]; rfl) hframed
  | grantTune ha _ hok =>
    obtain ⟨htx, hframed⟩ := granted_spec hcb ha hok
    obtain ⟨hagrees, -⟩ := h.of_framed (by rw [htx]; rfl) hframed
    -- the transmitter admits an owner only where it is enabled
    refine ⟨hagrees, fun _ => hagrees.trans ?_⟩
    rw [htx]
    exact ha.1
  | grantMic ha hok =>
    obtain ⟨htx, hframed⟩ := granted_spec hcb ha hok
    exact h.of_framed (by rw [htx]; rfl) hframed
  | grantNetwork ha _ hok =>
    obtain ⟨htx, hframed⟩ := granted_spec hcb ha hok
    exact (h.of_framed (by rw [htx]; rfl) hframed).congr
      rfl rfl id
  | endTune _ =>
    exact h.congr rfl rfl fun hactive => (Bool.false_ne_true hactive).elim
  | _ => exact h.congr rfl rfl id

/-- **So does a path** of moves. -/
theorem TxPlane.Reaches.tuneArmed {P : TxMove → Prop} (hcb : cb.Framed)
    (hpath : p.Reaches cb W P q) (h : p.TuneArmed) : q.TuneArmed := by
  obtain ⟨ms, hpath, -⟩ := hpath
  exact hpath.invariant TxPlane.TuneArmed
    (fun _ _ _ _ hstep => tuneArmed_step hcb hstep) h

end Armed

namespace Daemon

variable {config : DaemonConfig} {answers : ℕ → UsbAnswer}

/-- In every state a run reaches the carrier is armed. -/
theorem tuneArmed_after (config : DaemonConfig) (answers : ℕ → UsbAnswer)
    (blocks : List (LoopBlock × LoopInput)) :
    ((boot config answers).after config blocks).plane.TuneArmed := by
  refine (after_invariant (fun d => d.plane.Coherent ∧ d.plane.TuneArmed)
    (fun d block input h => ⟨coherent_perform config block input h.1, ?_⟩)
    blocks ⟨coherent_boot config answers, ?_⟩).2
  · exact (perform_path config input ApiWorld.loops_true h.1 block).tuneArmed
      (framed_daemonCallbacks config.carriesDc) h.2
  · obtain ⟨receiver, running, hboot⟩ := boot_eq_initial config answers
    rw [hboot]
    refine ⟨?_, fun hactive => (Bool.false_ne_true hactive).elim⟩
    exact (TxControl.enabled_armPhysicalPtt (.init _ _)).symm

end Daemon

/-! ## The law -/

/-- **When a dead lease stays dead**, of a kind, in the state that blocks of
the loop lead to. -/
structure ExpiryLaw (config : DaemonConfig) (answers : ℕ → UsbAnswer)
    (kind : LeaseKind) (blocks : List (LoopBlock × LoopInput))
    (p : TxPlane (ApiWorld DaemonTx)) : Prop where
  /-- An overdue lease is not renewed exactly where it is the carrier's, or
  what is presented is not in force any more. -/
  overdue : ∀ lease nowMs, kind.Overdue nowMs p →
    (kind.NotRenewed p (kind.keepalive (daemonCallbacks config.carriesDc)
        lease nowMs p)
      ↔ kind = .tune ∨ lease = 0 ∨ lease ∉ kind.live p)
  /-- Behind the tick that collects it, it is not renewed. -/
  collected : ∀ lease tickMs nowMs, kind.Overdue tickMs p →
    kind.NotRenewed (kind.tick (daemonCallbacks config.carriesDc) tickMs p)
      (kind.keepalive (daemonCallbacks config.carriesDc) lease nowMs
        (kind.tick (daemonCallbacks config.carriesDc) tickMs p))
  /-- Nor ever after, as long as there are numbers for new leases. -/
  ended : (Daemon.issued config kind blocks
      (Daemon.boot config answers)).length < 2 ^ 64 - 1 →
    ∀ before between rest, before ++ between ++ rest = blocks →
    ∀ lease ∈ kind.live ((Daemon.boot config answers).after config
      before).plane,
    lease ∉ kind.live ((Daemon.boot config answers).after config
      (before ++ between)).plane →
    ∀ nowMs, kind.NotRenewed p
      (kind.keepalive (daemonCallbacks config.carriesDc) lease nowMs p)

/-- **An expired lease** is renewed exactly where it is the station's or a
session's, and no tick has collected it: in every state that blocks of the
loop lead to, in any order, and so in every state of every run. -/
theorem expiryLaw (config : DaemonConfig) (answers : ℕ → UsbAnswer)
    (kind : LeaseKind) (blocks : List (LoopBlock × LoopInput)) :
    ExpiryLaw config answers kind blocks
      ((Daemon.boot config answers).after config blocks).plane where
  overdue lease nowMs hoverdue := by
    constructor
    · intro hnot
      by_contra hcases
      obtain ⟨hkind, hrest⟩ := not_or.mp hcases
      obtain ⟨hnonzero, hlive⟩ := not_or.mp hrest
      refine Bool.false_ne_true (hnot.refused.symm.trans ?_)
      exact LeaseKind.renewed_of_live hkind hnonzero (not_not.mp hlive)
    · rintro (rfl | hdead)
      · exact LeaseKind.notRenewed_tune hoverdue
      · exact LeaseKind.notRenewed_of_not_live hdead
  collected lease tickMs nowMs hoverdue := by
    refine LeaseKind.notRenewed_of_not_live (Or.inr ?_)
    rw [LeaseKind.live_tick (fun _ =>
      (Daemon.tuneArmed_after config answers blocks).active) hoverdue]
    exact Option.not_mem_none lease
  ended hfew before between rest hblocks lease hlive hended nowMs := by
    refine LeaseKind.notRenewed_of_not_live (Or.inr ?_)
    rw [← hblocks] at hfew ⊢
    exact Daemon.not_live_again config answers before between rest hfew
      hlive hended

/-- **A dead lease comes back**: the station is taken at time 0, and its
lease is renewed at 15 s with no tick in between. A session reserved at the
same time is renewed too. -/
theorem renewed_after_expiry :
    let config : DaemonConfig :=
      { rxTuningEnabled := true, testPageEnabled := true
        transmitEnabled := true, rtlTcpEnabled := true
        tuneLease := 1, txLease := 9, stationLease := 7
        carriesDc := fun _ => false }
    let asks (request : String) : LoopBlock × LoopInput := (.http,
      { stationMs := 0, tuneMs := 0, txMs := 0, networkMs := 0, pttMs := 0
        httpAccepted := true
        httpReceived := .data (CText.ofString request)
        requestMs := 0, dataMs := 0 })
    let d := (Daemon.boot config fun _ => {}).after config
      [asks "POST /v1/control/owner HTTP/1.1\r\n\r\n",
        asks ("POST /v1/tx/sessions HTTP/1.1\r\n"
          ++ "X-Flex1500-Control-Lease: 7\r\n"
          ++ "Content-Type: application/json\r\n\r\n"
          ++ "\x7b\"mode\":\"usb\",\"source\":\"audio\","
          ++ "\"drive_percent\":50,\"sample_rate\":48000,"
          ++ "\"sample_format\":\"s16le\",\"channels\":1\x7d")]
    let cb := daemonCallbacks config.carriesDc
    (LeaseKind.station.Overdue 15000 d.plane
        ∧ (LeaseKind.station.keepalive cb 7 15000 d.plane).1 = true)
      ∧ LeaseKind.session.Overdue 15000 d.plane
      ∧ (LeaseKind.session.keepalive cb 9 15000 d.plane).1 = true := by
  decide +kernel
