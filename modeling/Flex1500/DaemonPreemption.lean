import Flex1500.DaemonLeases
import Flex1500.DaemonOwnership
import Flex1500.TxPreemption

/-!
# A lease that was preempted

When the microphone takes the transmitter from a session, the session is
preempted until the records are next brought into line, and then it is gone.
In between, a request that carries its lease still reaches it: it is renewed,
or told that it transmits, or it is unkeyed and lives on. The end of its
stream unkeys it as well.

Where neither happens, a preempted session never transmits again, and its
lease is good for nothing.
-/

namespace Daemon

variable {config : DaemonConfig} {d : Daemon} {input : LoopInput}
variable {lease : UInt64}

/-! ## What a block does to a preempted session -/

/-- The stream block finds the connection closed. -/
def StreamEnds (input : LoopInput) (d : Daemon) : Prop :=
  ∃ client ∈ d.txClient, d.receiveLimit ≠ 0
    ∧ (client.isOpen = false ∨ input.streamReceived = .failed
      ∨ input.streamReceived = .data [])

/-- **A block that takes a preempted session for a keyed one**: a request
reaches it by its lease, or its stream ends. -/
def Misleads (block : LoopBlock) (input : LoopInput) (d : Daemon) : Prop :=
  match block with
  | .http => ∃ buffer ∈ d.completed input, Api.Misled (CText.ofBuffer buffer)
      { frequencyHz := d.tx.receiver.frequencyHz.map (·.1) } (d.asked input)
  | .stream => (∃ lease, d.plane.Preempted lease) ∧ d.StreamEnds input
  | _ => False

/-- Whether some client, or some request, is such that something holds. -/
instance {α : Type} (o : Option α) (P : α → Prop) [DecidablePred P] :
    Decidable (∃ a ∈ o, P a) :=
  decidable_of_iff (o.any (decide <| P ·) = true) (by simp [Option.any_eq_true])

instance (input : LoopInput) (d : Daemon) : Decidable (d.StreamEnds input) :=
  inferInstanceAs (Decidable (∃ client ∈ d.txClient, _))

instance (block : LoopBlock) (input : LoopInput) (d : Daemon) :
    Decidable (d.Misleads block input) :=
  match block with
  | .http => inferInstanceAs (Decidable (∃ buffer ∈ d.completed input, _))
  | .stream =>
    decidable_of_iff (d.plane.Preempted d.plane.network.lease
        ∧ d.StreamEnds input)
      ⟨fun h => ⟨⟨_, h.1⟩, h.2⟩, fun ⟨⟨_, h⟩, hends⟩ => ⟨h.holds ▸ h, hends⟩⟩
  | .stationTick | .tuneTick | .txTick | .networkReconcile | .networkTick
  | .pump | .recover | .switches | .rtl | .publish | .exit => .isFalse id

/-- Behind the dispatcher a request leaves the records alone. -/
theorem request_records (buffer : List UInt8) :
    (d.request config input buffer).plane.tx
        = (d.answered config input buffer).2.tx
      ∧ (d.request config input buffer).plane.network
        = (d.answered config input buffer).2.network := by
  unfold request
  extract_lets text p answer e e'
  have he : (e'.plane.tx, e'.plane.network)
      = ((d.answered config input buffer).2.tx,
        (d.answered config input buffer).2.network) := by
    dsimp only [e']
    split
    · rfl
    · rfl
  refine Prod.mk.inj (Eq.trans ?_ he)
  split
  · rw [openIqStream_plane]
  · unfold openTxStream
    split
    · rfl
    · rfl
  · unfold pushTxAudio
    extract_lets bytes e''
    split
    · rfl
    split
    · rfl
    · rfl
  · rfl

/-- A request that is not misled leaves a preempted session as it is. -/
theorem preempted_http (hpreempted : d.plane.Preempted lease)
    (hspared : ¬ d.Misleads .http input) :
    (d.http config input).plane.Preempted lease := by
  rw [http_plane]
  split
  · exact hpreempted
  rename_i buffer hcompleted
  have hanswered : (d.answered config input buffer).2.Preempted lease :=
    Api.preempted_dispatch (framed_daemonCallbacks config.carriesDc)
      (hpreempted.bypasses ⟨rfl, rfl, rfl, id⟩)
      fun h => hspared ⟨buffer, hcompleted, h⟩
  have hrecords : (d.request config input buffer).plane.tx
        = (d.answered config input buffer).2.tx
      ∧ (d.request config input buffer).plane.network
        = (d.answered config input buffer).2.network :=
    request_records buffer
  obtain ⟨htx, hnetwork⟩ := hrecords
  exact hanswered.bypasses (.of_network hnetwork fun howner => htx ▸ howner)

/-- What the radio is told, and what is kept for it, bypasses every
session. -/
theorem bypasses_withTx (d : Daemon) (f : DaemonTx → DaemonTx) :
    d.plane.Bypasses (d.withTx f).plane :=
  TxPlane.bypasses_withWorld d.plane _

/-- Samples passed on bypass the session they belong to. -/
theorem bypasses_deliver (connection : ℕ) (chunk : List TxByte)
    (nowMs : UInt64) :
    d.plane.Bypasses (d.deliver connection chunk nowMs).plane := by
  have hflags (frames : ℕ) := NetworkTx.recordData_flags d.plane.network.lease
    frames nowMs d.plane.network
  unfold deliver
  extract_lets network room bytes recorded e e' e''
  have he : e'.plane.tx = d.plane.tx := by
    dsimp only [e']
    split
    · rfl
    · rfl
  obtain ⟨hreserved, hkeyed, hlease⟩ := hflags
    (bytes.length / frameBytes d.plane.network)
  have he'' : d.plane.Bypasses e''.plane :=
    ⟨hreserved, hkeyed, hlease, fun howner => he ▸ howner⟩
  split
  · exact he''.trans (bypasses_withTx e'' _)
  · exact he''

/-- Whole frames received bypass it too. -/
theorem bypasses_streamData (client : TxClient) (bytes : List UInt8)
    (nowMs : UInt64) :
    d.plane.Bypasses (d.streamData client bytes nowMs).plane := by
  unfold streamData
  extract_lets data whole
  generalize htail : (fun tx : DaemonTx =>
    { tx.note (.received client.connection bytes) with
      networkTail := data.drop whole }) = f
  exact (bypasses_withTx d f).trans (bypasses_deliver client.connection _ nowMs)

/-- A stream that goes on bypasses the session. -/
theorem bypasses_stream (hopen : ¬ d.StreamEnds input) :
    d.plane.Bypasses (d.stream config input).plane := by
  unfold stream
  split
  · exact .refl _
  rename_i client hclient
  split
  · exact .refl _
  rename_i hroom
  split
  · rename_i bytes hreceived
    dsimp only
    have hsome : bytes.take d.receiveLimit ≠ [] := by
      intro hnone
      refine hopen ⟨client, hclient, hroom, Or.inr (Or.inr ?_)⟩
      obtain hlimit | hbytes := List.take_eq_nil_iff.mp hnone
      · exact absurd hlimit hroom
      · rw [hbytes] at hreceived
        split at hreceived
        · exact hreceived
        · exact Received.noConfusion hreceived
    rw [if_neg hsome]
    exact bypasses_streamData client _ input.dataMs
  · exact .refl _
  · rename_i hreceived
    refine absurd ⟨client, hclient, hroom, ?_⟩ hopen
    split at hreceived
    · exact Or.inr (Or.inl hreceived)
    · rename_i hclosed
      exact Or.inl (by simpa using hclosed)

variable (config) in
/-- A shutdown bypasses every session. -/
theorem bypasses_daemonTxShutdown (p : TxPlane (ApiWorld DaemonTx)) :
    p.Bypasses (daemonTxShutdown config p) := by
  have hstopped := (TxControl.bypasses_shutdown
    (framed_daemonCallbacks config.carriesDc) p).trans
      (TuneControl.bypasses_reconcile false _)
  unfold daemonTxShutdown
  dsimp only
  split
  · exact hstopped.trans ⟨rfl, rfl, rfl, id⟩
  · exact hstopped

variable (config) in
/-- So does the end of the loop. -/
theorem bypasses_exit (d : Daemon) :
    d.plane.Bypasses (d.exit config).plane := by
  have hreceiver (e : Daemon) (receiver : UsbRx) :
      e.plane.Bypasses (e.withReceiver receiver).plane :=
    TxPlane.bypasses_withWorld e.plane _
  unfold exit
  extract_lets e₁ e₂ unprepared e₃ e₄
  have he : d.plane.Bypasses e₂.plane := bypasses_daemonTxShutdown config _
  have he' : e₃.plane.Bypasses e₄.plane := by
    dsimp only [e₄]
    split
    · exact .refl _
    · exact TxPlane.bypasses_withDiagnostics e₃.plane _
  exact ((he.trans (hreceiver e₂ _)).trans he').trans (hreceiver e₄ _)

variable (config) in
/-- **What is abandoned** has no session. -/
theorem vacant_abandoned (hd : d.plane.Coherent) :
    (d.abandoned config).plane.network.reserved = false := by
  unfold abandoned
  extract_lets p q e e'
  have hp : p.Coherent := hd.reaches (framed_daemonCallbacks config.carriesDc)
    (show d.plane.ReachesPassively (daemonCallbacks config.carriesDc)
      (fun _ _ => True) p from NetworkTx.disconnectStream_path hd)
  have hq : q.network.reserved = false := by
    by_cases hreserved : p.network.reserved = true
    · exact NetworkTx.vacant_release hp hreserved
    · have hsame : q = p := by
        show (NetworkTx.release _ _ p).2 = p
        rw [NetworkTx.release, if_pos]
        simp [NetworkTx.owns, hreserved]
      rw [hsame]
      simpa using hreserved
  have hshutdown := (bypasses_daemonTxShutdown config e.plane).reserved
  show (daemonTxShutdown config e.plane).network.reserved = false
  rw [hshutdown]
  exact hq

/-- A recovery leaves no session. -/
theorem vacant_session_recover (hd : d.plane.Coherent) (attempts : ℕ) :
    (d.recover config attempts).plane.network.reserved = false := by
  rw [recover_eq]
  split
  · rfl
  · have hreceiver (e : Daemon) (receiver : UsbRx) :
        (e.withReceiver receiver).plane.network = e.plane.network := rfl
    rw [(bypasses_exit config _).reserved, reopened, hreceiver]
    exact vacant_abandoned config hd

/-- The expiry of the station leaves a preempted session as it is, or ends
it. -/
theorem preempted_stationTick (hd : d.plane.Coherent)
    (hpreempted : d.plane.Preempted lease) (nowMs : UInt64) :
    (d.stationTick config nowMs).plane.Preempted lease
      ∨ (d.stationTick config nowMs).plane.network.reserved = false := by
  have hcb := framed_daemonCallbacks config.carriesDc
  have hticked := hd.congr (q := d.plane.withStation
    (d.plane.world.station.tick nowMs).2) hd.settled (Or.inl ⟨rfl, rfl⟩) rfl rfl
  have hcoherent := hticked.reaches hcb
    (TuneControl.shutdown_path (W := fun _ _ => True) hticked)
  have hstill : (d.plane.withStation
      (d.plane.world.station.tick nowMs).2).Preempted lease :=
    hpreempted.bypasses ⟨rfl, rfl, rfl, id⟩
  have hshutdown := hstill.bypasses (TuneControl.bypasses_shutdown hcb _)
  unfold stationTick
  dsimp only
  split
  · rw [if_pos hshutdown.reserved]
    exact Or.inr (NetworkTx.vacant_release hcoherent hshutdown.reserved)
  · exact Or.inl (hpreempted.bypasses ⟨rfl, rfl, rfl, id⟩)

/-- The switches bypass every session. -/
theorem bypasses_switches (nowMs : UInt64) :
    d.plane.Bypasses (d.switches config nowMs).plane := by
  have hedge (pressed : Bool) (e : Daemon) :
      e.plane.Bypasses (e.microphoneEdge config pressed nowMs).plane := by
    have hswitched := (TxControl.bypasses_physicalPtt
      (framed_daemonCallbacks config.carriesDc) pressed nowMs e.plane).trans
        (TuneControl.bypasses_reconcile false _)
    unfold microphoneEdge
    extract_lets allowed switched p
    split
    · exact TxPlane.bypasses_withDiagnostics e.plane _
    · dsimp only [withPlane]
      split
      · exact hswitched.trans (TxPlane.bypasses_withDiagnostics _ _)
      · exact hswitched.trans (TxPlane.bypasses_withDiagnostics _ _)
      · exact hswitched.trans (TxPlane.bypasses_withDiagnostics _ _)
      · exact hswitched
  unfold switches
  split
  · exact .refl _
  split
  · exact .refl _
  rename_i inputs _ _
  extract_lets edge e₁ e₂
  have he : d.plane.Bypasses e₂.plane := by
    dsimp only [e₂]
    split
    · exact (bypasses_withTx { d with loggedInputs := some inputs } _).trans
        (hedge _ _)
    · exact bypasses_withTx { d with loggedInputs := some inputs } _
  split
  · exact he
  · exact he

/-- The commands of the `rtl_tcp` client bypass it too. -/
theorem bypasses_rtl : d.plane.Bypasses (d.rtl config input).plane := by
  have hbyte (byte : UInt8) (e : Daemon) :
      e.plane.Bypasses (rtlByte config e byte).plane := by
    unfold rtlByte rtlCommand
    extract_lets parsed e'
    split
    · split
      · exact ⟨rfl, rfl, rfl, id⟩
      · exact .refl _
    · exact .refl _
  have hbytes (bytes : List UInt8) (e : Daemon) :
      e.plane.Bypasses (bytes.foldl (rtlByte config) e).plane := by
    induction bytes generalizing e with
    | nil => exact .refl _
    | cons byte bytes ih => exact (hbyte byte e).trans (ih _)
  unfold rtl
  extract_lets e
  have he : d.plane.Bypasses e.plane := by
    dsimp only [e]
    split
    · exact .refl _
    · exact .refl _
  split
  · exact he
  split
  · exact he
  · exact he
  · exact he.trans (hbytes _ e)
  · exact he

variable (config) in
/-- **A block that is not misled** leaves a preempted session as it is, or
ends it. -/
theorem preempted_perform (hd : d.plane.Coherent)
    (hpreempted : d.plane.Preempted lease) {block : LoopBlock}
    (hspared : ¬ d.Misleads block input) :
    (d.perform config block input).plane.Preempted lease
      ∨ (d.perform config block input).plane.network.reserved = false := by
  have hcb := framed_daemonCallbacks config.carriesDc
  have hbypassed {e : Daemon} (h : d.plane.Bypasses e.plane) :
      e.plane.Preempted lease ∨ e.plane.network.reserved = false :=
    Or.inl (hpreempted.bypasses h)
  cases block with
  | stationTick => exact preempted_stationTick hd hpreempted input.stationMs
  | tuneTick =>
    exact hbypassed (TuneControl.bypasses_tick hcb input.tuneMs d.plane)
  | txTick =>
    have hticked := (TxControl.bypasses_tick hcb input.txMs d.plane).trans
      (TuneControl.bypasses_reconcile ((TxControl.tick
        (daemonCallbacks config.carriesDc) input.txMs d.plane.tx
        d.plane.toTxContext).1 = .maxKey) _)
    refine hbypassed ?_
    show d.plane.Bypasses (d.txTick config input.txMs).plane
    unfold txTick
    extract_lets ticked p
    dsimp only [withPlane]
    split
    · exact hticked.trans (TxPlane.bypasses_withDiagnostics p _)
    · exact hticked
  | networkReconcile =>
    refine Or.inr ?_
    show d.networkReconcile.plane.network.reserved = false
    rw [(networkReconcile_plane d).2.2]
    exact NetworkTx.vacated_reconcile hpreempted
  | networkTick =>
    show (d.networkTick config input.networkMs).plane.Preempted lease
      ∨ (d.networkTick config input.networkMs).plane.network.reserved = false
    obtain ⟨htx, -, hnetwork⟩ :=
      networkTick_plane config input.networkMs d
    have hcases : (NetworkTx.tick (daemonCallbacks config.carriesDc)
          input.networkMs d.plane).2 = d.plane
        ∨ (NetworkTx.tick (daemonCallbacks config.carriesDc)
          input.networkMs d.plane).2.network.reserved = false :=
      NetworkTx.tick_network input.networkMs d.plane
    obtain hsame | hvacant := hcases
    · rw [hsame] at htx hnetwork
      exact Or.inl (hpreempted.bypasses (.of_network hnetwork
        fun howner => htx ▸ howner))
    · exact Or.inr (hnetwork ▸ hvacant)
  | pump => exact hbypassed ⟨rfl, rfl, rfl, id⟩
  | recover => exact Or.inr (vacant_session_recover hd input.recoveryAttempts)
  | switches => exact hbypassed (bypasses_switches input.pttMs)
  | rtl => exact hbypassed bypasses_rtl
  | http => exact Or.inl (preempted_http hpreempted hspared)
  | stream =>
    exact hbypassed (bypasses_stream fun h => hspared ⟨⟨lease, hpreempted⟩, h⟩)
  | publish => exact hbypassed (.refl d.plane)
  | exit => exact hbypassed (bypasses_exit config d)

/-! ## Over blocks -/

/-- **Blocks none of which is misled.** -/
def Spared (config : DaemonConfig) :
    List (LoopBlock × LoopInput) → Daemon → Prop
  | [], _ => True
  | (block, input) :: blocks, d =>
    ¬ d.Misleads block input
      ∧ Spared config blocks (d.perform config block input)

instance decidableSpared (config : DaemonConfig) :
    ∀ (blocks : List (LoopBlock × LoopInput)) (d : Daemon),
      Decidable (Spared config blocks d)
  | [], _ => .isTrue trivial
  | (block, input) :: blocks, d =>
    have := decidableSpared config blocks (d.perform config block input)
    inferInstanceAs (Decidable (¬ d.Misleads block input ∧ _))

theorem spared_append {blocks blocks' : List (LoopBlock × LoopInput)} :
    Spared config (blocks ++ blocks') d
      ↔ Spared config blocks d
        ∧ Spared config blocks' (d.after config blocks) := by
  induction blocks generalizing d with
  | nil => exact ⟨fun h => ⟨trivial, h⟩, And.right⟩
  | cons block blocks ih =>
    show _ ∧ Spared config (blocks ++ blocks') _ ↔ _
    rw [ih, ← and_assoc]
    rfl

/-- A lease that is not in force, and not issued anew, stays out of force. -/
theorem dead_after (hd : d.plane.Coherent)
    (hdead : lease ∉ LeaseKind.session.live d.plane)
    {blocks : List (LoopBlock × LoopInput)}
    (hanew : lease ∉ issued config .session blocks d) :
    lease ∉ LeaseKind.session.live (d.after config blocks).plane := by
  intro hlive
  obtain hbefore | hdrawn :=
    Tenure.mem_live (issues_path .session hd blocks) hlive
  · exact hdead hbefore
  · exact hanew hdrawn

/-- **A preempted session** stays as it is, or is gone for good. -/
theorem preempted_after (hd : d.plane.Coherent)
    (hpreempted : d.plane.Preempted lease)
    {blocks : List (LoopBlock × LoopInput)}
    (hspared : Spared config blocks d)
    (hanew : lease ∉ issued config .session blocks d) :
    (d.after config blocks).plane.Preempted lease
      ∨ lease ∉ LeaseKind.session.live (d.after config blocks).plane := by
  induction blocks generalizing d with
  | nil => exact Or.inl hpreempted
  | cons block blocks ih =>
    obtain ⟨hfirst, hrest⟩ := hspared
    have hnext := coherent_perform config block.1 block.2 hd
    have htail : lease ∉ issued config .session blocks
        (d.perform config block.1 block.2) := by
      intro hmem
      have hsplit : issued config .session (block :: blocks) d
          = issued config .session [block] d
            ++ issued config .session blocks
              (d.perform config block.1 block.2) :=
        issued_append [block] blocks
      exact hanew (hsplit ▸ List.mem_append_right _ hmem)
    obtain hstill | hvacant := preempted_perform config hd hpreempted hfirst
    · exact ih hnext hstill hrest htail
    · refine Or.inr (dead_after hnext (fun hlive => ?_) htail)
      have hreserved := (LeaseKind.mem_live_session.mp hlive).1
      rw [hvacant] at hreserved
      exact Bool.false_ne_true hreserved

/-- The session of a lease is marked as keyed. -/
def KeyedUnder (lease : UInt64) (d : Daemon) : Prop :=
  d.plane.network.keyed = true ∧ d.plane.network.lease = lease

/-- **What preemption comes to** over blocks. -/
structure PreemptionLaw (config : DaemonConfig) (answers : ℕ → UsbAnswer)
    (blocks : List (LoopBlock × LoopInput)) : Prop where
  /-- Physical PTT that takes the transmitter from a keyed session leaves it
  preempted. -/
  taken : ∀ input, ((boot config answers).after config blocks).plane.tx.owner
      = .http →
    (((boot config answers).after config blocks).switches config
      input).plane.tx.owner ≠ .http →
    (((boot config answers).after config blocks).switches config
      input).plane.Preempted
        ((boot config answers).after config blocks).plane.network.lease
  /-- Brought into line, the session is gone. -/
  reconciled : ∀ lease,
    ((boot config answers).after config blocks).plane.Preempted lease →
    lease ∉ LeaseKind.session.live
      ((boot config answers).after config blocks).networkReconcile.plane
  /-- A session preempted before does not transmit. -/
  silent : ∀ before rest, before ++ rest = blocks → ∀ lease,
    ((boot config answers).after config before).plane.Preempted lease →
    lease ∉ issued config .session rest
      ((boot config answers).after config before) →
    ((boot config answers).after config blocks).plane.tx.owner = .http →
    ((boot config answers).after config blocks).plane.network.lease ≠ lease
  /-- Once it is no longer marked as keyed, it never is again. -/
  never : ∀ before between rest, before ++ between ++ rest = blocks →
    ∀ lease, ((boot config answers).after config before).plane.Preempted
      lease →
    lease ∉ issued config .session (between ++ rest)
      ((boot config answers).after config before) →
    ¬ ((boot config answers).after config (before ++ between)).KeyedUnder
      lease →
    ¬ ((boot config answers).after config blocks).KeyedUnder lease
  /-- A request that carries its lease is rejected. -/
  rejected : ∀ before rest, before ++ rest = blocks → ∀ lease,
    ((boot config answers).after config before).plane.Preempted lease →
    lease ∉ issued config .session rest
      ((boot config answers).after config before) →
    ∀ input, ¬ ((boot config answers).after config blocks).Misleads .http
      input →
    ∀ buffer ∈ ((boot config answers).after config blocks).completed input,
    Api.PresentsSession (CText.ofBuffer buffer) lease →
    Api.Rejected (((boot config answers).after config blocks).asked input)
      (((boot config answers).after config blocks).answered config input
        buffer)
  /-- One that gets to a session is told that its lease is stale. -/
  gone : ∀ before rest, before ++ rest = blocks → ∀ lease,
    ((boot config answers).after config before).plane.Preempted lease →
    lease ∉ issued config .session rest
      ((boot config answers).after config before) →
    ∀ input, ¬ ((boot config answers).after config blocks).Misleads .http
      input →
    ∀ buffer ∈ ((boot config answers).after config blocks).completed input,
    Api.PresentsSession (CText.ofBuffer buffer) lease →
    Api.Admitted (CText.ofBuffer buffer)
      { frequencyHz := ((boot config answers).after config
          blocks).tx.receiver.frequencyHz.map (·.1) }
      (((boot config answers).after config blocks).asked input) →
    (((boot config answers).after config blocks).answered config input
        buffer).1
      = errorReply "410 Gone" "tx_stale" responseCapacity
  /-- Brought into line, it is stale to every operation of a session. -/
  stale : ∀ before rest, before ++ rest = blocks → ∀ lease,
    ((boot config answers).after config before).plane.Preempted lease →
    lease ∉ issued config .session rest
      ((boot config answers).after config before) →
    ¬ ((boot config answers).after config blocks).plane.Preempted lease →
    ((boot config answers).after config blocks).plane.network.owns lease
      = false
  /-- A request to key that reports success has the transmitter. -/
  success : ∀ input, ¬ ((boot config answers).after config blocks).Misleads
      .http input →
    ∀ buffer ∈ ((boot config answers).after config blocks).completed input,
    HttpRequest.requestIs "PUT" "/v1/tx/ptt/start" (CText.ofBuffer buffer)
      = true →
    ¬ (((boot config answers).after config blocks).answered config input
      buffer).1.IsError →
    (((boot config answers).after config blocks).answered config input
      buffer).2.tx.owner = .http

/-- **A preempted lease is stale**, over blocks of the loop in any order and
so over every run, as long as no block is misled. -/
theorem preemptionLaw (config : DaemonConfig) (answers : ℕ → UsbAnswer)
    (blocks : List (LoopBlock × LoopInput))
    (hspared : Spared config blocks (boot config answers)) :
    PreemptionLaw config answers blocks := by
  have hstays {before rest : List (LoopBlock × LoopInput)}
      (hsplit : before ++ rest = blocks) {lease : UInt64}
      (hpreempted : ((boot config answers).after config
        before).plane.Preempted lease)
      (hanew : lease ∉ issued config .session rest
        ((boot config answers).after config before)) :
      ((boot config answers).after config blocks).plane.Preempted lease
        ∨ lease ∉ LeaseKind.session.live
          ((boot config answers).after config blocks).plane := by
    subst hsplit
    rw [after_append]
    exact preempted_after (coherent_after config answers before) hpreempted
      (spared_append.mp hspared).2 hanew
  have hsound (blocks : List (LoopBlock × LoopInput)) :=
    (coherent_after config answers blocks).sound
  refine ⟨?_, ?_, ?_, ?_, ?_, ?_, ?_, ?_⟩
  -- the press takes the transmitter, and leaves the session marked as keyed
  · intro input howned hlost
    have hcoherent := coherent_after config answers blocks
    have hkeyed := hcoherent.http_keyed howned
    have hsame : ((boot config answers).after config blocks).plane.Bypasses
        (((boot config answers).after config blocks).switches config
          input).plane := bypasses_switches input
    exact ⟨hsame.reserved.trans (hcoherent.sound.keyed hkeyed).1,
      hsame.keyed.trans hkeyed, hsame.lease, hlost⟩
  · intro lease hpreempted hlive
    have hreserved := (LeaseKind.mem_live_session.mp hlive).1
    rw [(networkReconcile_plane _).2.2,
      NetworkTx.vacated_reconcile hpreempted] at hreserved
    exact Bool.false_ne_true hreserved
  · intro before rest hsplit lease hpreempted hanew howned hlease
    obtain hstill | hdead := hstays hsplit hpreempted hanew
    · exact hstill.owner howned
    · have hkeyed := (coherent_after config answers blocks).http_keyed howned
      exact hdead (LeaseKind.mem_live_session.mpr
        ⟨((hsound blocks).keyed hkeyed).1, hlease⟩)
  · rintro before between rest hsplit lease hpreempted hanew hunmarked
      ⟨hkeyed, hlease⟩
    -- the lease is issued neither between the two nor later
    have hfirst : lease ∉ issued config .session between
        ((boot config answers).after config before) := by
      intro hmem
      rw [issued_append] at hanew
      exact hanew (List.mem_append_left _ hmem)
    have hsecond : lease ∉ issued config .session rest
        ((boot config answers).after config (before ++ between)) := by
      intro hmem
      rw [issued_append, ← after_append] at hanew
      exact hanew (List.mem_append_right _ hmem)
    rw [← hsplit] at hspared
    have hbetween := preempted_after (coherent_after config answers before)
      hpreempted (spared_append.mp (spared_append.mp hspared).1).2 hfirst
    rw [← after_append] at hbetween
    obtain hstill | hdead := hbetween
    · exact hunmarked ⟨hstill.keyed, hstill.holds⟩
    have hafter := dead_after (coherent_after config answers _) hdead hsecond
    rw [← after_append, hsplit] at hafter
    exact hafter (LeaseKind.mem_live_session.mpr
      ⟨((hsound blocks).keyed hkeyed).1, hlease⟩)
  · intro before rest hsplit lease hpreempted hanew input hled buffer
      hcompleted hpresents
    obtain hstill | hdead := hstays hsplit hpreempted hanew
    · refine Api.rejected_of_not_admitted _ _ _ _ _ hpresents
        fun hadmitted => hled ⟨buffer, hcompleted, lease, ?_, hpresents,
          hadmitted⟩
      exact hstill.bypasses ⟨rfl, rfl, rfl, id⟩
    · refine rejected_of_not_live ?_ hdead hpresents
      exact fun h => LeaseKind.noConfusion h
  · intro before rest hsplit lease hpreempted hanew input hled buffer
      hcompleted hpresents hadmitted
    obtain hstill | hdead := hstays hsplit hpreempted hanew
    · refine absurd ⟨buffer, hcompleted, lease, ?_, hpresents, hadmitted⟩ hled
      exact hstill.bypasses ⟨rfl, rfl, rfl, id⟩
    · exact Api.stale_of_admitted _ _ _ _ _
        (LeaseKind.not_owns_of_not_live hdead) hpresents hadmitted
  · intro before rest hsplit lease hpreempted hanew hgone
    obtain hstill | hdead := hstays hsplit hpreempted hanew
    · exact absurd hstill hgone
    exact LeaseKind.not_owns_of_not_live hdead
  · intro input hled buffer hcompleted hroute hanswer
    exact Api.owner_of_start _ _ _ _ _ hroute
      (fun h => hled ⟨buffer, hcompleted, h⟩) hanswer

/-! ### A session that is preempted -/

/-- The 42nd call brings word that the switch of the microphone is
pressed. -/
def switchPressed : ℕ → UsbAnswer := fun call =>
  if call = 41 then { rounds := [{ completions := [.status .completed [0] 0] }] }
  else {}

/-- A client takes the station, tunes, reserves a session, posts samples for
it and keys it. -/
def keyingBlocks : List (LoopBlock × LoopInput) :=
  [asking (CText.ofString "POST /v1/control/owner HTTP/1.1\r\n\r\n"),
    asking (leased (CText.ofString "PUT /v1/radio/frequency/14250000") []),
    asking reserving,
    asking (leased (CText.ofString "POST /v1/tx/audio")
        (CText.ofString "Content-Length: 8192\r\n")
      ++ List.replicate 8192 0),
    asking (leased (CText.ofString "PUT /v1/tx/ptt/start") [])].flatMap
    (passing (readingBlocks ++ servingBlocks))

/-- Then the switch is pressed. -/
def preemptingBlocks : List (LoopBlock × LoopInput) :=
  keyingBlocks ++ passing readingBlocks idlePass

/-- And the next pass brings the records into line. -/
def reconcilingBlocks : List (LoopBlock × LoopInput) :=
  passing (servingBlocks ++ readingBlocks ++ [.rtl]) idlePass

/-- A request that renews the session. -/
def keepingAlive : CText :=
  leased (CText.ofString "PUT /v1/tx/sessions/keepalive") []

/-- The daemon after blocks, with these answers of the radio. -/
def switched (blocks : List (LoopBlock × LoopInput)) : Daemon :=
  (boot leasingConfig switchPressed).after leasingConfig blocks

/-- No block of these is misled, and the request that comes then gets to a
session. -/
theorem preempting_facts :
    (switched keyingBlocks).plane.tx.owner = .http
      ∧ (switched preemptingBlocks).plane.Preempted 9
      ∧ Spared leasingConfig (preemptingBlocks ++ reconcilingBlocks)
        (boot leasingConfig switchPressed)
      ∧ 9 ∉ issued leasingConfig .session reconcilingBlocks
        (switched preemptingBlocks)
      ∧ ¬ (switched (preemptingBlocks ++ reconcilingBlocks)).Misleads .http
        (asking keepingAlive)
      ∧ keepingAlive ∈ (switched (preemptingBlocks
        ++ reconcilingBlocks)).completed (asking keepingAlive)
      ∧ Api.PresentsSession (CText.ofBuffer keepingAlive) 9
      ∧ Api.Admitted (CText.ofBuffer keepingAlive)
        { frequencyHz := (switched (preemptingBlocks
            ++ reconcilingBlocks)).tx.receiver.frequencyHz.map (·.1) }
        ((switched (preemptingBlocks ++ reconcilingBlocks)).asked
          (asking keepingAlive)) := by
  decide +kernel

/-- A session is keyed, the microphone takes the transmitter, and the records
are brought into line: the session's lease is stale. -/
theorem preemptionLaw_taken :
    (switched keyingBlocks).plane.tx.owner = .http
      ∧ (switched preemptingBlocks).plane.Preempted 9
      ∧ PreemptionLaw leasingConfig switchPressed
        (preemptingBlocks ++ reconcilingBlocks)
      ∧ ((switched (preemptingBlocks ++ reconcilingBlocks)).answered
          leasingConfig (asking keepingAlive) keepingAlive).1
        = errorReply "410 Gone" "tx_stale" responseCapacity := by
  obtain ⟨hkeyed, hpreempted, hspared, hanew, hled, hcompleted, hpresents,
    hadmitted⟩ := preempting_facts
  unfold switched at *
  have hlaw := preemptionLaw leasingConfig switchPressed
    (preemptingBlocks ++ reconcilingBlocks) hspared
  exact ⟨hkeyed, hpreempted, hlaw,
    hlaw.gone preemptingBlocks reconcilingBlocks rfl 9 hpreempted hanew
      (asking keepingAlive) hled keepingAlive hcompleted hpresents hadmitted⟩

/-- **A preempted session is told that it transmits**: a session is keyed,
the microphone takes the transmitter, and in the same pass a request to key
the session is answered with success. -/
theorem keyed_after_preemption :
    let config : DaemonConfig :=
      { rxTuningEnabled := true, testPageEnabled := true
        transmitEnabled := true, rtlTcpEnabled := true
        tuneLease := 1, txLease := 9, stationLease := 7
        carriesDc := fun _ => false }
    let answers : ℕ → UsbAnswer := fun n =>
      if n = 41 then
        { rounds := [{ completions := [.status .completed [0] 0] }] }
      else {}
    let asks (request : List UInt8) : LoopInput :=
      { stationMs := 0, tuneMs := 0, txMs := 0, networkMs := 0, pttMs := 0
        httpAccepted := true
        httpReceived := .data request
        requestMs := 0, dataMs := 0 }
    let leases := "X-Flex1500-Control-Lease: 7\r\nX-Flex1500-TX-Lease: 9\r\n"
    let start := CText.ofString
      ("PUT /v1/tx/ptt/start HTTP/1.1\r\n" ++ leases ++ "\r\n")
    let keyed := run config answers
      [asks (CText.ofString "POST /v1/control/owner HTTP/1.1\r\n\r\n"),
        asks (CText.ofString ("PUT /v1/radio/frequency/14250000 HTTP/1.1\r\n"
          ++ leases ++ "\r\n")),
        asks (CText.ofString ("POST /v1/tx/sessions HTTP/1.1\r\n" ++ leases
          ++ "Content-Type: application/json\r\n\r\n"
          ++ "\x7b\"mode\":\"usb\",\"source\":\"audio\","
          ++ "\"drive_percent\":50,\"sample_rate\":48000,"
          ++ "\"sample_format\":\"s16le\",\"channels\":1\x7d")),
        asks (CText.ofString ("POST /v1/tx/audio HTTP/1.1\r\n" ++ leases
          ++ "Content-Length: 8192\r\n\r\n") ++ List.replicate 8192 0),
        asks start]
    let d := keyed.after config
      ([LoopBlock.stationTick, .tuneTick, .txTick, .networkReconcile,
        .networkTick, .pump, .switches, .rtl].map (·, asks start))
    keyed.plane.tx.owner = .http
      ∧ (d.answered config (asks start) start).1
        = Api.txReply start responseCapacity .ok 9 true
      ∧ (d.answered config (asks start) start).2.tx.owner = .physicalMic := by
  decide +kernel

end Daemon
