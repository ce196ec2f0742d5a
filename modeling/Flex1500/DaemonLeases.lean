import Flex1500.DaemonStation

/-!
# No lease is used twice

Every block of the loop is a turn of the three tenures, whatever it does
beside. So a lease that was in force and is so no longer never is again, and
then no request gets anywhere by presenting it.

How a lease ended is no matter for that. That releases, expiries and
recoveries do end it is said beside.
-/

namespace Daemon

variable {config : DaemonConfig} {d : Daemon} {input : LoopInput}
variable {kind : LeaseKind}

/-! ## Blocks are turns -/

/-- Moves of a block that is no request put no lease in force. -/
theorem not_leases_of_not_request {block : LoopBlock} {owner : TxOwner}
    (hrequest : block ≠ .http) {m : TxMove}
    (hm : block.Moves input owner m) : ¬ m.Leases := by
  have hpassive (h : m.Passive) : ¬ m.Leases := h.not_leases
  cases block with
  | recover =>
    obtain h | rfl := hm
    · exact hpassive h
    · exact id
  | switches =>
    have hm : m.Switched input.pttMs owner := hm
    cases m with
    | grant o t =>
      obtain ⟨-, -, rfl⟩ := hm
      exact id
    | reserve lease t => exact hm.elim
    | _ => exact id
  | http => exact absurd rfl hrequest
  | stream =>
    obtain h | h := hm
    · exact hpassive h
    · cases m <;> first | exact id | exact h.elim
  | _ => exact hpassive hm

/-- What a request finds is what the block does. -/
theorem keeps_asked (d : Daemon) : kind.Keeps d.plane (d.asked input) := by
  cases kind with
  | _ => exact ⟨rfl, fun _ h => h⟩

/-- **A request is a turn.** -/
theorem turns_answered (hd : d.plane.Coherent) (buffer : List UInt8) :
    kind.Turns d.plane (d.answered config input buffer).2 :=
  (keeps_asked d).trans_turns
    ((answered_outcome config input buffer d).turns
      (framed_daemonCallbacks config.carriesDc)
      (keeps_daemonCallbacks config.carriesDc) (coherent_asked hd) kind)

/-- Behind the dispatcher a request draws nothing. -/
theorem keeps_request_rest (buffer : List UInt8) :
    kind.Keeps (d.answered config input buffer).2
      (d.request config input buffer).plane := by
  obtain ⟨hapi, hstation⟩ :=
    request_world config input (d := d) buffer
  have hrest := request_rest_path config input
    ApiWorld.loops_true.toTends (d := d) buffer
  have hno : (d.answered config input buffer).2.NoNewLease
      (d.request config input buffer).plane :=
    hrest.noNewLease (framed_daemonCallbacks config.carriesDc)
      fun _ hm => hm.not_leases
  refine hno.keeps ?_ ?_ kind
  · rw [hapi]
    exact .refl _
  · rw [hstation]
    exact fun h => ⟨h, rfl⟩

variable (kind) in
/-- **Every block is a turn** of each kind of lease. -/
theorem turns_perform (hd : d.plane.Coherent) (block : LoopBlock) :
    kind.Turns d.plane (d.perform config block input).plane := by
  by_cases hrequest : block = .http
  · rw [hrequest]
    show kind.Turns d.plane (d.http config input).plane
    rw [http_plane]
    split
    · exact LeaseKind.Keeps.turns (.refl _)
    · exact (turns_answered hd _).trans_keeps (keeps_request_rest _)
  have hpath := perform_path config input ApiWorld.loops_true hd block
  have hno : d.plane.NoNewLease (d.perform config block input).plane :=
    hpath.noNewLease (framed_daemonCallbacks config.carriesDc)
      fun _ hm => not_leases_of_not_request hrequest hm
  by_cases hexpiry : block = .stationTick
  · obtain ⟨hapi, hstation⟩ :=
      stationTick_world config hd input.stationMs
    rw [hexpiry] at hno ⊢
    refine (hno.keeps ?_ ?_ kind).turns
    · show ApiController.SameLeases _
        (d.stationTick config input.stationMs).plane.world.api
      rw [hapi]
      exact .refl _
    · show (d.stationTick config input.stationMs).plane.world.station.held
          = true → _
      intro hheld
      show _ ∧ (d.stationTick config input.stationMs).plane.world.station.lease
        = _
      rw [hstation] at hheld ⊢
      obtain ⟨-, -, hended⟩ | ⟨-, hsame⟩ :=
        StationOwner.tick_cases input.stationMs d.plane.world.station
      · rw [hended] at hheld
        exact absurd hheld (by decide)
      · rw [hsame] at hheld ⊢
        exact ⟨hheld, rfl⟩
  · obtain ⟨hapi, hstation⟩ :=
      turn_world config input hd hexpiry hrequest
    refine (hno.keeps ?_ ?_ kind).turns
    · rw [hapi]
      exact .refl _
    · rw [hstation]
      exact fun h => ⟨h, rfl⟩

/-! ## Leases over blocks -/

section Issued

variable (config kind)

/-- The lease each of the blocks issued, if it did. -/
def issues : List (LoopBlock × LoopInput) → Daemon → List (Option UInt64)
  | [], _ => []
  | (block, input) :: blocks, d =>
    kind.issuedBy d.plane (d.perform config block input).plane
      :: issues blocks (d.perform config block input)

/-- **The leases issued** over blocks, in order. -/
def issued (blocks : List (LoopBlock × LoopInput)) (d : Daemon) :
    List UInt64 :=
  (issues config kind blocks d).reduceOption

end Issued

theorem issued_append (blocks blocks' : List (LoopBlock × LoopInput)) :
    issued config kind (blocks ++ blocks') d
      = issued config kind blocks d
        ++ issued config kind blocks' (d.after config blocks) := by
  induction blocks generalizing d with
  | nil => rfl
  | cons block blocks ih =>
    have ih := ih (d := d.perform config block.1 block.2)
    unfold issued at ih ⊢
    rw [List.cons_append, issues, issues]
    cases kind.issuedBy d.plane (d.perform config block.1 block.2).plane with
    | none => exact ih
    | some lease => exact congrArg (lease :: ·) ih

variable (kind) in
/-- **Blocks are a path** of each tenure. -/
theorem issues_path (hd : d.plane.Coherent)
    (blocks : List (LoopBlock × LoopInput)) :
    LabelledPath kind.tenure.Step (issues config kind blocks d) d.plane
      (d.after config blocks).plane := by
  induction blocks generalizing d with
  | nil => exact .nil _
  | cons block blocks ih =>
    exact .cons (turns_perform kind hd block.1)
      (ih (coherent_perform config block.1 block.2 hd))

/-- At the start no lease is in force. -/
theorem vacant_boot (kind : LeaseKind) (config : DaemonConfig) (answers : ℕ → UsbAnswer) :
    kind.live (boot config answers).plane = none := by
  obtain ⟨receiver, running, hboot⟩ := boot_eq_initial config answers
  rw [hboot]
  cases kind with
  | _ => rfl

/-- A lease in force was issued. -/
theorem mem_issued_of_live (config : DaemonConfig) (answers : ℕ → UsbAnswer)
    (blocks : List (LoopBlock × LoopInput)) {lease : UInt64}
    (hlive : lease ∈ kind.live ((boot config answers).after config
      blocks).plane) :
    lease ∈ issued config kind blocks (boot config answers) := by
  obtain hboot | hissued := Tenure.mem_live
    (issues_path kind (coherent_boot config answers) blocks) hlive
  · have hvacant := vacant_boot kind config answers
    have hboot : lease ∈ kind.live (boot config answers).plane := hboot
    rw [hvacant] at hboot
    exact absurd hboot (Option.not_mem_none lease)
  · exact hissued

/-- No lease that is issued is zero. -/
theorem issued_nonzero (hd : d.plane.Coherent)
    (blocks : List (LoopBlock × LoopInput)) :
    ∀ lease ∈ issued config kind blocks d, lease ≠ 0 := by
  have hdraws : issued config kind blocks d
      = Tenure.draws issueLease (issued config kind blocks d).length
        (kind.next d.plane) :=
    Tenure.reduceOption_eq_draws (issues_path kind hd blocks)
  rw [hdraws]
  exact fun lease => ne_zero_of_mem_draws _ _ lease

/-- **The leases issued are all different**, as long as there are fewer than
there are numbers. -/
theorem issued_nodup (hd : d.plane.Coherent)
    (blocks : List (LoopBlock × LoopInput))
    (hfew : (issued config kind blocks d).length < 2 ^ 64 - 1) :
    (issued config kind blocks d).Nodup := by
  have hdraws : issued config kind blocks d
      = Tenure.draws issueLease (issued config kind blocks d).length
        (kind.next d.plane) :=
    Tenure.reduceOption_eq_draws (issues_path kind hd blocks)
  rw [hdraws]
  exact nodup_draws_issueLease (Nat.le_of_lt hfew) _

/-- **A lease that ended** is not in force again. -/
theorem not_live_again (config : DaemonConfig) (answers : ℕ → UsbAnswer)
    (before between rest : List (LoopBlock × LoopInput))
    (hfew : (issued config kind (before ++ between ++ rest)
      (boot config answers)).length < 2 ^ 64 - 1)
    {lease : UInt64}
    (hlive : lease ∈ kind.live ((boot config answers).after config
      before).plane)
    (hended : lease ∉ kind.live ((boot config answers).after config
      (before ++ between)).plane) :
    lease ∉ kind.live ((boot config answers).after config
      (before ++ between ++ rest)).plane := by
  have hboot := coherent_boot config answers
  have hnodup := issued_nodup hboot _ hfew
  rw [issued_append, issued_append, List.append_assoc] at hnodup
  rw [after_append]
  refine Tenure.not_live_again (T := kind.tenure)
    (vacant_boot kind config answers) (issues_path kind hboot before)
    (issues_path kind (coherent_after config answers (before ++ between)) rest)
    (fun lease hbefore hrest => ?_) hlive hended
  exact (List.nodup_append.mp hnodup).2.2 lease hbefore lease
    (List.mem_append_right _ hrest) rfl

/-! ## What a lease that ended is good for -/

/-- The station is only held where it is attached. -/
theorem attached_of_held (config : DaemonConfig) (answers : ℕ → UsbAnswer)
    (blocks : List (LoopBlock × LoopInput))
    (hheld : ((boot config answers).after config
      blocks).plane.world.station.held = true) :
    ((boot config answers).after config
      blocks).plane.world.api.stationAttached = true := by
  refine (after_invariant (fun d => d.plane.Coherent
    ∧ (d.plane.world.station.held = true →
      d.plane.world.api.stationAttached = true))
    (fun d block input h => ?_) blocks
    ⟨coherent_boot config answers, ?_⟩).2 hheld
  · obtain ⟨hd, hattached⟩ := h
    refine ⟨coherent_perform config block input hd, fun hheld => ?_⟩
    obtain ⟨hapi, hsame | hticked⟩ | ⟨buffer, hapi, hstation⟩ :=
      perform_world config input hd block
    · rw [hapi]
      exact hattached (hsame ▸ hheld)
    · rw [hapi]
      rw [hticked] at hheld
      obtain ⟨-, hbefore, -⟩ | ⟨-, hsame⟩ :=
        StationOwner.tick_cases input.stationMs d.plane.world.station
      · exact hattached hbefore
      · exact hattached (hsame ▸ hheld)
    · obtain ⟨⟨hsame, -⟩, hkept | ⟨hthere, -⟩⟩ :=
        (answered_outcome config input buffer d).station
          (keeps_daemonCallbacks config.carriesDc) (coherent_asked hd)
      · rw [hapi, hsame]
        rw [hstation, hkept] at hheld
        exact hattached hheld
      · rw [hapi, hsame]
        exact hthere
  · obtain ⟨receiver, running, hboot⟩ := boot_eq_initial config answers
    rw [hboot]
    exact fun hheld => (Bool.false_ne_true hheld).elim

/-- A station lease is only issued where the station is attached. -/
theorem attached_of_issued {blocks : List (LoopBlock × LoopInput)}
    (hd : d.plane.Coherent) (hattached : d.Attached config)
    (hissued : issued config .station blocks d ≠ []) :
    config.rxTuningEnabled = true := by
  by_contra hno
  have hno : config.rxTuningEnabled = false := by simpa using hno
  refine hissued ?_
  induction blocks generalizing d with
  | nil => rfl
  | cons block blocks ih =>
    have hunattached := hattached.station.trans hno
    have hnext : LeaseKind.station.next
        (d.perform config block.1 block.2).plane
          = LeaseKind.station.next d.plane := by
      show (d.perform config block.1 block.2).plane.world.api.nextStationLease
        = d.plane.world.api.nextStationLease
      obtain ⟨hapi, -⟩ | ⟨buffer, hapi, -⟩ :=
        perform_world config block.2 hd block.1
      · rw [hapi]
      · rw [hapi]
        exact ((answered_outcome config block.2 buffer d).station
          (keeps_daemonCallbacks config.carriesDc)
          (coherent_asked hd)).1.2.2.2 hunattached
    have hlabel : LeaseKind.station.issuedBy d.plane
        (d.perform config block.1 block.2).plane = none := if_pos hnext
    have hrest := ih (d := d.perform config block.1 block.2)
      (coherent_perform config block.1 block.2 hd)
      (attached_perform block.2 hd hattached block.1)
      (fun h => by
        unfold issued at hissued h
        rw [issues, hlabel, List.reduceOption_cons_of_none] at hissued
        exact hissued h)
    unfold issued at hrest ⊢
    rw [issues, hlabel, List.reduceOption_cons_of_none]
    exact hrest

/-- **A lease that is not in force** lets nobody in: a request that presents
it is answered with an error, and counters are all it changes. -/
theorem rejected_of_not_live {lease : UInt64}
    (hattached : kind = .station →
      d.plane.world.api.stationAttached = true)
    (hdead : lease ∉ kind.live d.plane) {buffer : List UInt8}
    (hpresents : kind.Presents (CText.ofBuffer buffer) lease) :
    Api.Rejected (d.asked input) (d.answered config input buffer) := by
  cases kind with
  | station =>
    refine Api.rejected_station _ _ _ _ _ (hattached rfl) ?_ hpresents
    rw [Bool.eq_false_iff]
    intro hmatches
    obtain ⟨hheld, -, hlease⟩ := StationOwner.leaseMatches_iff.mp hmatches
    exact hdead (LeaseKind.mem_live_station.mpr ⟨hheld, hlease⟩)
  | tune =>
    exact Api.rejected_tune _ _ _ _ _ (fun hactive hlease =>
      hdead (LeaseKind.mem_live_tune.mpr ⟨hactive, hlease⟩)) hpresents
  | session =>
    exact Api.rejected_session _ _ _ _ _
      (LeaseKind.not_owns_of_not_live (p := d.asked input) hdead) hpresents

end Daemon

/-! ## What ends a lease -/

section Endings

variable {ρ : Type} (cb : TxCallbacks (TxContext (ApiWorld ρ)))

/-- **The releases and the expiries** of each kind: an operation that
answers so has ended the lease. -/
inductive LeaseKind.Ends (p : TxPlane (ApiWorld ρ)) :
    LeaseKind → TxPlane (ApiWorld ρ) → Prop where
  | stationReleased (lease : UInt64)
      (h : (p.world.station.release lease).1 = .ok) :
      Ends p .station (p.withStation (p.world.station.release lease).2)
  | stationExpired (nowMs : UInt64)
      (h : (p.world.station.tick nowMs).1 = .expired) :
      Ends p .station (p.withStation (p.world.station.tick nowMs).2)
  | tuneStopped (lease : UInt64)
      (h : (TuneControl.stop cb lease p).1 ≠ .disabled
        ∧ (TuneControl.stop cb lease p).1 ≠ .invalidLease) :
      Ends p .tune (TuneControl.stop cb lease p).2
  | tuneExpired (nowMs : UInt64)
      (h : (TuneControl.tick cb nowMs p).1 ≠ .disabled
        ∧ (TuneControl.tick cb nowMs p).1 ≠ .ok) :
      Ends p .tune (TuneControl.tick cb nowMs p).2
  | sessionReleased (lease : UInt64)
      (h : (NetworkTx.release cb lease p).1 ≠ .stale) :
      Ends p .session (NetworkTx.release cb lease p).2
  | sessionExpired (nowMs : UInt64)
      (h : (NetworkTx.tick cb nowMs p).1 ≠ .ok) :
      Ends p .session (NetworkTx.tick cb nowMs p).2

variable {cb} {p q : TxPlane (ApiWorld ρ)} {kind : LeaseKind}

/-- A carrier that is stopped has no lease. -/
theorem TuneControl.inactive_stopActive (reason : TuneResult)
    (hactive : p.tune.active = true) :
    (stopActive cb reason p).2.tune.active = false := by
  unfold stopActive
  rw [if_neg (by simp [hactive])]
  rfl

/-- **What ends a lease** leaves none in force. -/
theorem LeaseKind.Ends.live (h : kind.Ends cb p q) : kind.live q = none := by
  have hnone {b : Bool} {lease : UInt64} (hb : b = false) :
      (if b then some lease else none) = none := by
    rw [hb]
    rfl
  cases h with
  | stationReleased lease h =>
    refine hnone ?_
    show (p.world.station.release lease).2.held = false
    unfold StationOwner.release at h ⊢
    split at h
    · exact StationOwnerResult.noConfusion h
    · rename_i hmatches
      rw [if_neg hmatches]
      rfl
  | stationExpired nowMs h =>
    refine hnone ?_
    show (p.world.station.tick nowMs).2.held = false
    obtain ⟨-, -, hended⟩ | ⟨hno, -⟩ :=
      StationOwner.tick_cases nowMs p.world.station
    · rw [hended]
      rfl
    · exact absurd h hno
  | tuneStopped lease h =>
    refine hnone ?_
    unfold TuneControl.stop at h ⊢
    split at h
    · exact absurd rfl h.1
    rename_i henabled
    split at h
    · exact absurd rfl h.2
    · rename_i hforeign
      rw [if_neg henabled, if_neg hforeign]
      refine TuneControl.inactive_stopActive .ok ?_
      by_contra hactive
      exact hforeign (by simp [hactive])
  -- by the hard limit of the hold, or by the lease
  | tuneExpired nowMs h =>
    refine hnone ?_
    unfold TuneControl.tick at h ⊢
    split at h
    · exact absurd rfl h.1
    rename_i henabled
    split at h
    · exact absurd rfl h.2
    rename_i hactive
    have hactive' : p.tune.active = true := by simpa using hactive
    rw [if_neg henabled, if_neg hactive]
    split
    · exact TuneControl.inactive_stopActive .hardLimit hactive'
    split
    · exact TuneControl.inactive_stopActive .expired hactive'
    · rename_i hhard hlease
      rw [if_neg hhard, if_neg hlease] at h
      exact absurd rfl h.2
  | sessionReleased lease h =>
    refine hnone ?_
    unfold NetworkTx.release at h ⊢
    split at h
    · exact absurd rfl h
    · rename_i howns
      rw [if_neg howns]
      rfl
  | sessionExpired nowMs h =>
    refine hnone ?_
    unfold NetworkTx.tick at h ⊢
    split at h
    · exact absurd rfl h
    rename_i hreserved
    split at h
    · exact absurd rfl h
    · rename_i hlease
      rw [if_neg hreserved, if_neg hlease]
      rfl

end Endings

namespace Daemon

variable {config : DaemonConfig} {d : Daemon} {kind : LeaseKind}

/-- **A recovery ends** the tune lease and the session. -/
theorem vacant_recover (hkind : kind ≠ .station) {attempts : ℕ}
    (hrecovers : d.Recovers config attempts) :
    kind.live (d.recover config attempts).plane = none := by
  rw [recover_eq, if_pos hrecovers]
  cases kind with
  | station => exact absurd rfl hkind
  | tune => rfl
  | session => rfl

/-! ## The law -/

/-- What is attached is so at any point of a run. -/
theorem attached_after (config : DaemonConfig) (answers : ℕ → UsbAnswer)
    (blocks : List (LoopBlock × LoopInput)) :
    ((boot config answers).after config blocks).Attached config :=
  (after_invariant (fun d => d.plane.Coherent ∧ d.Attached config)
    (fun _ block input h => ⟨coherent_perform config block input h.1,
      attached_perform input h.1 h.2 block⟩) blocks ⟨coherent_boot config answers,
      attached_boot config answers⟩).2

/-- **The law of leases** of a kind, over blocks of the loop in any order. -/
structure LeaseLaw (config : DaemonConfig) (answers : ℕ → UsbAnswer)
    (kind : LeaseKind) (blocks : List (LoopBlock × LoopInput)) : Prop where
  /-- No lease that is issued is zero. -/
  nonzero : ∀ lease ∈ issued config kind blocks (boot config answers),
    lease ≠ 0
  /-- And all are different. -/
  distinct : (issued config kind blocks (boot config answers)).Nodup
  /-- A lease in force was issued. -/
  in_force : ∀ lease ∈ kind.live ((boot config answers).after config
    blocks).plane, lease ∈ issued config kind blocks (boot config answers)
  /-- A release or an expiry leaves no lease in force. -/
  ends : ∀ q, kind.Ends (daemonCallbacks config.carriesDc)
    ((boot config answers).after config blocks).plane q → kind.live q = none
  /-- Nor does a recovery, but for the station's. -/
  recovery : kind ≠ .station → ∀ attempts,
    ((boot config answers).after config blocks).Recovers config attempts →
    kind.live (((boot config answers).after config blocks).recover config
      attempts).plane = none
  /-- A lease that was in force, and then was not, is rejected ever after
  wherever it is presented. -/
  ended : ∀ before between rest, before ++ between ++ rest = blocks →
    ∀ lease ∈ kind.live ((boot config answers).after config before).plane,
    lease ∉ kind.live ((boot config answers).after config
      (before ++ between)).plane →
    ∀ input buffer, kind.Presents (CText.ofBuffer buffer) lease →
    Api.Rejected (((boot config answers).after config blocks).asked input)
      (((boot config answers).after config blocks).answered config input
        buffer)

/-- **Leases are fresh.** Over blocks of the loop in any order, and so over
every run, as long as fewer leases of a kind are issued than there are
numbers for them, no two are the same and none is zero, and one that has
ended is good for nothing ever after. -/
theorem leaseLaw (config : DaemonConfig) (answers : ℕ → UsbAnswer)
    (kind : LeaseKind) (blocks : List (LoopBlock × LoopInput))
    (hfew : (issued config kind blocks (boot config answers)).length
      < 2 ^ 64 - 1) :
    LeaseLaw config answers kind blocks := by
  refine
    { nonzero := issued_nonzero (coherent_boot config answers) blocks
      distinct := issued_nodup (coherent_boot config answers) blocks hfew
      in_force := fun _ => mem_issued_of_live config answers blocks
      ends := fun _ h => h.live
      recovery := fun hkind _ => vacant_recover hkind
      ended := ?_ }
  rintro before between rest rfl lease hlive hended input buffer hpresents
  refine rejected_of_not_live (fun hkind => ?_)
    (not_live_again config answers before between rest hfew hlive hended)
    hpresents
  subst hkind
  have hheld := (LeaseKind.mem_live_station.mp hlive).1
  have hthere := attached_of_held config answers before hheld
  rw [(attached_after config answers before).station] at hthere
  rw [(attached_after config answers (before ++ between ++ rest)).station]
  exact hthere

/-- A client takes the station, lets it go and asks for it again. -/
theorem leaseLaw_station :
    let config : DaemonConfig :=
      { rxTuningEnabled := true, testPageEnabled := true
        transmitEnabled := true, rtlTcpEnabled := true
        tuneLease := 1, txLease := 1, stationLease := 7
        carriesDc := fun _ => false }
    let asks (request : String) : LoopBlock × LoopInput := (.http,
      { stationMs := 0, tuneMs := 0, txMs := 0, networkMs := 0, pttMs := 0
        httpAccepted := true
        httpReceived := .data (CText.ofString request)
        requestMs := 0, dataMs := 0 })
    let blocks :=
      [asks "POST /v1/control/owner HTTP/1.1\r\n\r\n",
        asks ("DELETE /v1/control/owner HTTP/1.1\r\n"
          ++ "X-Flex1500-Control-Lease: 7\r\n\r\n"),
        asks "POST /v1/control/owner HTTP/1.1\r\n\r\n"]
    issued config .station blocks (boot config fun _ => {}) = [7, 8]
      ∧ LeaseLaw config (fun _ => {}) .station blocks :=
  ⟨by decide +kernel, leaseLaw _ _ _ _ (by decide +kernel)⟩

/-! ### Passes that bring requests -/

/-- A daemon whose first leases are 7 for the station and 9 for a session. -/
def leasingConfig : DaemonConfig where
  rxTuningEnabled := true
  testPageEnabled := true
  transmitEnabled := true
  rtlTcpEnabled := true
  tuneLease := 1
  txLease := 9
  stationLease := 7
  carriesDc := fun _ => false

/-- A pass in which nothing comes. -/
def idlePass : LoopInput where
  stationMs := 0
  tuneMs := 0
  txMs := 0
  networkMs := 0
  pttMs := 0
  requestMs := 0
  dataMs := 0

/-- A pass in which a request comes. -/
def asking (request : List UInt8) : LoopInput :=
  { idlePass with httpAccepted := true, httpReceived := .data request }

/-- A request under both leases. -/
def leased (line rest : CText) : CText :=
  line ++ CText.ofString " HTTP/1.1\r\n"
    ++ CText.ofString "X-Flex1500-Control-Lease: 7\r\n"
    ++ CText.ofString "X-Flex1500-TX-Lease: 9\r\n" ++ rest
    ++ CText.ofString "\r\n"

/-- Blocks of one pass. -/
def passing (blocks : List LoopBlock) (input : LoopInput) :
    List (LoopBlock × LoopInput) :=
  blocks.map (·, input)

/-- The blocks of a pass, up to the switches. -/
def readingBlocks : List LoopBlock :=
  [.stationTick, .tuneTick, .txTick, .networkReconcile, .networkTick, .pump,
    .switches]

/-- The blocks behind the switches. -/
def servingBlocks : List LoopBlock := [.rtl, .http, .stream, .publish]

/-- The request for a session. -/
def reserving : CText :=
  leased (CText.ofString "POST /v1/tx/sessions")
      (CText.ofString "Content-Type: application/json\r\n")
    ++ CText.ofString "\x7b\"mode\":\"usb\",\"source\":\"audio\","
    ++ CText.ofString "\"drive_percent\":50,\"sample_rate\":48000,"
    ++ CText.ofString "\"sample_format\":\"s16le\",\"channels\":1\x7d"

end Daemon
