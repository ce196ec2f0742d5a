import Flex1500.DaemonLeases

/-!
# What a recovery leaves behind

A recovery initialises the records anew, and so it ends whatever stood in
them. Not everything does: the station, the `rtl_tcp` client and the bytes
of a stream that make no whole frame are kept outside, and the branch that
recovers does not name them. The architecture says that a recovery closes
the clients and ends the station's ownership.

So what a recovery is to invalidate it does invalidate, exactly where none
of the three is there when the radio fails.
-/

/-- Whether the code accepts a lease of a kind (`matches`, `owns`, and the
comparison of the carrier's). -/
def LeaseKind.Accepts {ρ : Type} (kind : LeaseKind)
    (p : TxPlane (ApiWorld ρ)) (lease : UInt64) : Prop :=
  match kind with
  | .station => p.world.station.leaseMatches lease = true
  | .tune => (p.tune.active && lease != 0 && lease == p.tune.lease) = true
  | .session => p.network.owns lease = true

instance {ρ : Type} (kind : LeaseKind) (p : TxPlane (ApiWorld ρ))
    (lease : UInt64) : Decidable (kind.Accepts p lease) := by
  cases kind with
  | _ => exact inferInstanceAs (Decidable (_ = true))

/-- The code accepts the lease in force. -/
theorem LeaseKind.accepts_iff {ρ : Type} {kind : LeaseKind}
    {p : TxPlane (ApiWorld ρ)} {lease : UInt64} :
    kind.Accepts p lease ↔ lease ≠ 0 ∧ lease ∈ kind.live p := by
  cases kind with
  | station =>
    show p.world.station.leaseMatches lease = true ↔ _
    rw [StationOwner.leaseMatches_iff, mem_live_station]
    exact and_left_comm
  | tune =>
    show (p.tune.active && lease != 0 && lease == p.tune.lease) = true ↔ _
    rw [mem_live_tune]
    simp only [Bool.and_eq_true, bne_iff_ne, beq_iff_eq]
    rw [and_assoc, and_left_comm, eq_comm (a := lease)]
  | session =>
    show p.network.owns lease = true ↔ _
    rw [NetworkTx.owns_iff, mem_live_session]
    exact and_left_comm

namespace Daemon

variable {config : DaemonConfig} {d : Daemon}

/-! ## What the branch does to the rest -/

/-- The callbacks leave the bytes of a stream that make no whole frame. -/
theorem keeps_networkTail (carriesDc : List UInt8 → Bool) :
    (daemonCallbacks carriesDc).Keeps
      fun w : ApiWorld DaemonTx => w.radio.networkTail := by
  have hcounted (k : DaemonContext) (tx : DaemonTx) (started : Int) :
      ((k.withRadio tx).counted started).world.radio = tx := by
    unfold DaemonContext.counted
    split
    · rfl
    · rfl
  constructor
  · intro owner control k
    show (daemonTxOwnerStart carriesDc owner control k).2.world.radio.networkTail
      = _
    unfold daemonTxOwnerStart
    dsimp only
    cases owner with
    | tune =>
      dsimp only
      unfold DaemonTx.startTune
      split
      · rfl
      split
      · rfl
      · rfl
    | http =>
      dsimp only
      rw [hcounted]
      unfold DaemonTx.startNetwork
      split
      · rfl
      dsimp only
      split
      · rfl
      split
      · rfl
      · rfl
    | physicalMic =>
      dsimp only
      rw [hcounted]
      unfold DaemonTx.startMicrophone
      split
      · rfl
      dsimp only
      split
      · rfl
      · rfl
    | _ => rfl
  · intro owner graceful control k
    cases owner <;> rfl

/-- The stop callback leaves the samples of a session. -/
theorem networkPrebuffer_daemonTxShutdown (p : TxPlane (ApiWorld DaemonTx)) :
    (daemonTxShutdown config p).world.radio.networkPrebuffer
      = p.world.radio.networkPrebuffer := by
  have hreconcile (q : TxPlane (ApiWorld DaemonTx)) :
      (TuneControl.reconcile false q).world = q.world := by
    unfold TuneControl.reconcile
    split
    · rfl
    · rfl
  have hshutdown : (TxPlane.after (TxControl.shutdown
      (daemonCallbacks config.carriesDc) p.tx
      p.toTxContext)).world.radio.networkPrebuffer
        = p.world.radio.networkPrebuffer := by
    unfold TxControl.shutdown
    split
    · rename_i howned
      rw [TxControl.stopOwner_of_owner _ _ _ howned]
      show (daemonTxOwnerStop p.tx.owner false p.tx.unkeying
        p.toTxContext).2.world.radio.networkPrebuffer = _
      cases p.tx.owner <;> rfl
    · rfl
  unfold daemonTxShutdown
  dsimp only
  split
  · rw [TxPlane.withDiagnostics_world, hreconcile]
    exact hshutdown
  · rw [hreconcile]
    exact hshutdown

variable (config) in
/-- **What is abandoned**: the stream's connection and its samples, and the
clients of HTTP that take samples, but nothing of what makes no whole frame,
nor the `rtl_tcp` client. -/
theorem abandoned_rest (hd : d.plane.Coherent) :
    (d.abandoned config).tx.networkPrebuffer = []
      ∧ (d.abandoned config).tx.networkTail = d.tx.networkTail
      ∧ (d.abandoned config).txClient = none
      ∧ (∀ i, (d.abandoned config).iqClients i = false)
      ∧ (d.abandoned config).rtlClient = d.rtlClient := by
  have hkeeps := keeps_networkTail config.carriesDc
  refine ⟨?_, ?_, rfl, fun _ => rfl, rfl⟩
  · unfold abandoned
    extract_lets p q e e'
    exact networkPrebuffer_daemonTxShutdown e.plane
  · unfold abandoned
    extract_lets p q e e'
    have hp : d.plane.ReachesPassively (daemonCallbacks config.carriesDc)
        (fun w w' => w'.radio.networkTail = w.radio.networkTail) p :=
      NetworkTx.disconnectStream_path hd
    have hq : p.ReachesPassively (daemonCallbacks config.carriesDc)
        (fun w w' => w'.radio.networkTail = w.radio.networkTail) q :=
      NetworkTx.release_path (hd.reaches (framed_daemonCallbacks _) hp) _
    have hshutdown : e.plane.ReachesPassively
        (daemonCallbacks config.carriesDc)
        (fun w w' => w'.radio.networkTail = w.radio.networkTail)
        (daemonTxShutdown config e.plane) := daemonTxShutdown_path
    have hpq : q.world.radio.networkTail = d.plane.world.radio.networkTail :=
      (TxPlane.Reaches.world_eq hkeeps hq).trans
        (TxPlane.Reaches.world_eq hkeeps hp)
    exact (TxPlane.Reaches.world_eq hkeeps hshutdown).trans hpq

variable (config) in
/-- A recovery leaves the station as it is. -/
theorem recover_station (hd : d.plane.Coherent) (attempts : ℕ) :
    (d.recover config attempts).plane.world.station
      = d.plane.world.station := by
  have hrecovered : d.Reaches config.carriesDc _ Recovering
      (d.recover config attempts) :=
    recover_path turns_keeping.toTends hd turns_keeping.session attempts
  have hworld := hrecovered.world_eq (keeps_daemonCallbacks config.carriesDc)
  exact (Prod.mk.inj hworld).2

/-! ## The law -/

/-- **What a recovery is to invalidate**: after blocks, in the state it
ends in. A lease is one issued before, unless a lease of that number is
issued anew. -/
structure Invalidated (config : DaemonConfig) (answers : ℕ → UsbAnswer)
    (before : List (LoopBlock × LoopInput)) (e : Daemon) : Prop where
  /-- Nobody owns the transmitter. -/
  owner : e.plane.tx.owner = .none
  tune : e.plane.tune.active = false
  session : e.plane.network.reserved = false
  /-- No connection is open that brings samples. -/
  txClient : e.txClient = none
  /-- Nor is any open that takes them. -/
  iqClients : ∀ i, e.iqClients i = false
  rtlClient : e.rtlClient = false
  /-- No samples are left over. -/
  prebuffer : e.tx.networkPrebuffer = []
  tail : e.tx.networkTail = []
  /-- No lease issued before is accepted ever after, and every request that
  presents one is rejected. -/
  leases : ∀ kind, ∀ lease ∈ issued config kind before (boot config answers),
    ∀ after, lease ∉ issued config kind after e →
    ¬ kind.Accepts (e.after config after).plane lease
      ∧ ∀ input buffer, kind.Presents (CText.ofBuffer buffer) lease →
        Api.Rejected ((e.after config after).asked input)
          ((e.after config after).answered config input buffer)

/-- **Nothing left over**: the station is free, no `rtl_tcp` client is there
and every byte of a stream went into a whole frame. -/
structure NothingLeft (d : Daemon) : Prop where
  station : d.plane.world.station.held = false
  rtlClient : d.rtlClient = false
  tail : d.tx.networkTail = []

/-- A lease issued before a recovery that left none in force is good for
nothing after it. -/
theorem rejected_after {answers : ℕ → UsbAnswer}
    {before : List (LoopBlock × LoopInput)} {e : Daemon}
    (he : e.plane.Coherent) (hattached : e.Attached config)
    {kind : LeaseKind} (hvacant : kind.live e.plane = none) {lease : UInt64}
    (hissued : lease ∈ issued config kind before (boot config answers))
    {after : List (LoopBlock × LoopInput)}
    (hanew : lease ∉ issued config kind after e) :
    ¬ kind.Accepts (e.after config after).plane lease
      ∧ ∀ input buffer, kind.Presents (CText.ofBuffer buffer) lease →
        Api.Rejected ((e.after config after).asked input)
          ((e.after config after).answered config input buffer) := by
  have hdead : lease ∉ kind.live (e.after config after).plane := by
    intro hlive
    obtain hbefore | hdrawn :=
      Tenure.mem_live (issues_path kind he after) hlive
    · have hbefore : lease ∈ kind.live e.plane := hbefore
      rw [hvacant] at hbefore
      exact absurd hbefore (Option.not_mem_none lease)
    · exact hanew hdrawn
  refine ⟨fun haccepts => hdead (LeaseKind.accepts_iff.mp haccepts).2,
    fun input buffer hpresents =>
      rejected_of_not_live (fun hkind => ?_) hdead hpresents⟩
  subst hkind
  have htuning := attached_of_issued (coherent_boot config answers)
    (attached_boot config answers) (List.ne_nil_of_mem hissued)
  have hafter := (after_invariant (fun d => d.plane.Coherent
    ∧ d.Attached config) (fun _ block input h =>
      ⟨coherent_perform config block input h.1,
        attached_perform input h.1 h.2 block⟩) after ⟨he, hattached⟩).2
  exact hafter.station.trans htuning

/-- **A recovery invalidates all prior control exactly where nothing was
left over** when the radio failed. -/
theorem recovery_invalidates_iff (config : DaemonConfig)
    (answers : ℕ → UsbAnswer) (before : List (LoopBlock × LoopInput))
    (attempts : ℕ)
    (hrecovers : ((boot config answers).after config before).Recovers config
      attempts) :
    Invalidated config answers before
        (((boot config answers).after config before).recover config attempts)
      ↔ ((boot config answers).after config before).NothingLeft := by
  have hd := coherent_after config answers before
  have hattached := attached_after config answers before
  have hin (lease : UInt64) (hlive : lease ∈ LeaseKind.station.live
      ((boot config answers).after config before).plane) :
      lease ∈ issued config .station before (boot config answers) :=
    mem_issued_of_live config answers before hlive
  have hissued : ∀ lease ∈ issued config .station before
      (boot config answers), lease ≠ 0 :=
    issued_nonzero (coherent_boot config answers) before
  generalize (boot config answers).after config before = d at *
  obtain ⟨hprebuffer, htail, htx, hiq, hrtl⟩ := abandoned_rest config hd
  have hstation := recover_station config hd attempts
  have he : (d.recover config attempts).plane.Coherent :=
    coherent_of_reaches hd (recover_path ApiWorld.loops_true.toTends hd
      ApiWorld.loops_true.session attempts)
  have heattached : (d.recover config attempts).Attached config :=
    attached_perform
      { stationMs := 0, tuneMs := 0, txMs := 0, networkMs := 0, pttMs := 0
        requestMs := 0, dataMs := 0, recoveryAttempts := attempts }
      hd hattached .recover
  have htail' : (d.recover config attempts).tx.networkTail
      = d.tx.networkTail := by
    rw [recover_eq, if_pos hrecovers]
    exact htail
  have hrtl' : (d.recover config attempts).rtlClient = d.rtlClient := by
    rw [recover_eq, if_pos hrecovers]
    exact hrtl
  constructor
  · intro h
    refine ⟨?_, hrtl' ▸ h.rtlClient, htail' ▸ h.tail⟩
    by_contra hheld
    have hheld : d.plane.world.station.held = true := by simpa using hheld
    -- the station's own lease is one issued before, and it is in force still
    have hlive : d.plane.world.station.lease ∈ LeaseKind.station.live d.plane :=
      LeaseKind.mem_live_station.mpr ⟨hheld, rfl⟩
    refine (h.leases .station _ (hin _ hlive) [] List.not_mem_nil).1 ?_
    rw [LeaseKind.accepts_iff, after_nil, LeaseKind.mem_live_station, hstation]
    exact ⟨hissued _ (hin _ hlive), hheld, rfl⟩
  · rintro ⟨hfree, hclient, hnone⟩
    have hvacant (kind : LeaseKind) :
        kind.live (d.recover config attempts).plane = none := by
      cases kind with
      | station =>
        show (if (d.recover config attempts).plane.world.station.held then _
          else none) = none
        rw [hstation, hfree]
        rfl
      | tune => exact vacant_recover (by decide) hrecovers
      | session => exact vacant_recover (by decide) hrecovers
    refine
      { owner := ?_
        tune := ?_
        session := ?_
        txClient := ?_
        iqClients := ?_
        rtlClient := hrtl'.trans hclient
        prebuffer := ?_
        tail := htail'.trans hnone
        leases := fun kind _ hbefore _ hanew =>
          rejected_after he heattached (hvacant kind) hbefore hanew }
    all_goals rw [recover_eq, if_pos hrecovers]
    · exact TxControl.owner_armed _ _
    · rfl
    · rfl
    · exact htx
    · exact hiq
    · exact hprebuffer

/-! ### A recovery from the middle of a session -/

/-- The 53rd call brings no events but an error. -/
def radioLost : ℕ → UsbAnswer := fun call =>
  if call = 52 then { rounds := [{ result := -4 }] } else {}

/-- A client takes the station, tunes, has the carrier started and stopped,
reserves a session and opens its stream. A client of the received samples
comes, the stream brings its first, and the station is let go. Then the
radio fails. -/
def streamingBlocks : List (LoopBlock × LoopInput) :=
  [asking (CText.ofString "POST /v1/control/owner HTTP/1.1\r\n\r\n"),
    asking (leased (CText.ofString "PUT /v1/radio/frequency/14250000") []),
    asking (leased (CText.ofString "PUT /v1/radio/tune/start") []),
    asking (leased (CText.ofString "PUT /v1/radio/tune/stop/1") []),
    asking reserving,
    asking (leased (CText.ofString "CONNECT /v1/tx/stream") []),
    { asking (leased (CText.ofString "GET /v1/stream/iq") []) with
      streamReceived := .data [1, 0, 2, 0] },
    asking (leased (CText.ofString "DELETE /v1/control/owner") [])].flatMap
      (passing (readingBlocks ++ servingBlocks))
    ++ passing [.stationTick, .tuneTick, .txTick, .networkReconcile,
      .networkTick, .pump] idlePass

/-- The daemon when the radio has failed. -/
def cutOff : Daemon :=
  (boot leasingConfig radioLost).after leasingConfig streamingBlocks

/-- It has a session, its stream with samples, and a client of received
samples, and leases of every kind were issued. -/
theorem cutOff_facts :
    (cutOff.tx.receiver.running = false
        ∧ cutOff.plane.network.owns 9 = true
        ∧ cutOff.txClient.isSome = true
        ∧ cutOff.tx.networkPrebuffer ≠ []
        ∧ ∃ i, cutOff.iqClients i = true)
      ∧ issued leasingConfig .station streamingBlocks
        (boot leasingConfig radioLost) = [7]
      ∧ issued leasingConfig .tune streamingBlocks
        (boot leasingConfig radioLost) = [1]
      ∧ issued leasingConfig .session streamingBlocks
        (boot leasingConfig radioLost) = [9]
      ∧ cutOff.Recovers leasingConfig 60
      ∧ cutOff.plane.world.station.held = false
      ∧ cutOff.rtlClient = false
      ∧ cutOff.tx.networkTail = [] := by
  decide +kernel

/-- The radio fails in the middle of a session, after a carrier and with the
station let go: all of it is invalidated. -/
theorem recovery_invalidates_session :
    (cutOff.tx.receiver.running = false
        ∧ cutOff.plane.network.owns 9 = true
        ∧ cutOff.txClient.isSome = true
        ∧ cutOff.tx.networkPrebuffer ≠ []
        ∧ ∃ i, cutOff.iqClients i = true)
      ∧ (∀ kind, issued leasingConfig kind streamingBlocks
        (boot leasingConfig radioLost) ≠ [])
      ∧ Invalidated leasingConfig radioLost streamingBlocks
        (cutOff.recover leasingConfig 60) := by
  obtain ⟨hbefore, hstation, hcarrier, hsession, hrecovers, hleft⟩ :=
    cutOff_facts
  refine ⟨hbefore, fun kind => ?_, ?_⟩
  · cases kind with
    | station => simp [hstation]
    | tune => simp [hcarrier]
    | session => simp [hsession]
  · exact (recovery_invalidates_iff leasingConfig radioLost streamingBlocks 60
      hrecovers).mpr ⟨hleft.1, hleft.2.1, hleft.2.2⟩

/-- A run of two passes, in the second of which the radio fails. -/
theorem run_recovers (config : DaemonConfig) (answers : ℕ → UsbAnswer)
    (first second : LoopInput) (blocks : List LoopBlock)
    (hpass : passBlocks config second (run config answers [first])
      = blocks ++ [.recover]) :
    run config answers [first, second]
      = ((boot config answers).after config
          ((passBlocks config first (boot config answers)).map (·, first)
            ++ blocks.map (·, second))).recover config
          second.recoveryAttempts := by
  have hfirst : run config answers [first]
      = (boot config answers).after config
        ((passBlocks config first (boot config answers)).map (·, first)) :=
    run_concat config answers [] first
  have hsecond := run_concat config answers [first] second
  rw [hpass, hfirst, ← after_append, List.map_append, ← List.append_assoc,
    after_append] at hsecond
  exact hsecond

/-- **The station survives**: a client takes it, and in the second pass the
radio fails and is opened again. The lease the station was taken with is
accepted still. -/
theorem recovery_keeps_station :
    let config : DaemonConfig :=
      { rxTuningEnabled := true, testPageEnabled := true
        transmitEnabled := false, rtlTcpEnabled := true
        tuneLease := 1, txLease := 1, stationLease := 7
        carriesDc := fun _ => false }
    let answers : ℕ → UsbAnswer := fun n =>
      if n = 16 then { rounds := [{ result := -4 }] } else {}
    let take : LoopInput :=
      { stationMs := 0, tuneMs := 0, txMs := 0, networkMs := 0, pttMs := 0
        httpAccepted := true
        httpReceived := .data (CText.ofString
          "POST /v1/control/owner HTTP/1.1\r\n\r\n")
        requestMs := 0, dataMs := 0 }
    let before :=
      (passBlocks config take (boot config answers)).map (·, take)
        ++ [LoopBlock.stationTick, .tuneTick, .txTick, .networkReconcile,
          .networkTick, .pump].map (·, take)
    run config answers [take, take]
        = ((boot config answers).after config before).recover config 60
      ∧ ((boot config answers).after config before).Recovers config 60
      ∧ ¬ Invalidated config answers before
        (((boot config answers).after config before).recover config 60) := by
  refine ⟨run_recovers _ _ _ _ _ (by decide +kernel), by decide +kernel,
    fun h => ?_⟩
  -- the lease is one issued before the failure, and it is accepted after it
  exact absurd (h.leases .station 7 (by decide +kernel) [] (by decide)).1
    (by decide +kernel)

end Daemon
