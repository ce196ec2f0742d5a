import Flex1500.ApiLeases

/-!
# A session that lost the transmitter

The microphone takes the transmitter from a session at once, but the
session's record hears of it only when the records are brought into line.
Until then it says that the session is keyed while somebody else transmits,
or nobody: the session is preempted.

Most operations bypass a session: they leave its record as it is, but for
counts and times, and do not grant it the transmitter. Those that do not are
its own, and what they do to a preempted session is either to drop it or to
take the mark off. The second is where the record goes wrong, and it is done
by requests that carry the session's lease and by the end of its stream.
-/

open CText HttpRequest

variable {ρ : Type}

/-- **Preempted**: the session of a lease is marked as keyed, and has no
transmitter. -/
structure TxPlane.Preempted (p : TxPlane ρ) (lease : UInt64) : Prop where
  reserved : p.network.reserved = true
  keyed : p.network.keyed = true
  holds : p.network.lease = lease
  owner : p.tx.owner ≠ .http

instance (p : TxPlane ρ) (lease : UInt64) : Decidable (p.Preempted lease) :=
  decidable_of_iff (p.network.reserved = true ∧ p.network.keyed = true
      ∧ p.network.lease = lease ∧ p.tx.owner ≠ .http)
    ⟨fun h => ⟨h.1, h.2.1, h.2.2.1, h.2.2.2⟩,
      fun h => ⟨h.reserved, h.keyed, h.holds, h.owner⟩⟩

/-- **Bypassed**: the session is the same, and it is not granted the
transmitter. -/
structure TxPlane.Bypasses (p q : TxPlane ρ) : Prop where
  reserved : q.network.reserved = p.network.reserved
  keyed : q.network.keyed = p.network.keyed
  lease : q.network.lease = p.network.lease
  owner : q.tx.owner = .http → p.tx.owner = .http

namespace TxPlane

variable {p q r : TxPlane ρ} {lease : UInt64}

theorem Bypasses.refl (p : TxPlane ρ) : p.Bypasses p :=
  ⟨rfl, rfl, rfl, id⟩

theorem Bypasses.trans (h : p.Bypasses q) (h' : q.Bypasses r) :
    p.Bypasses r :=
  ⟨h'.reserved.trans h.reserved, h'.keyed.trans h.keyed,
    h'.lease.trans h.lease, h.owner ∘ h'.owner⟩

/-- What leaves the record alone bypasses it. -/
theorem Bypasses.of_network (hnetwork : q.network = p.network)
    (howner : q.tx.owner = .http → p.tx.owner = .http) : p.Bypasses q :=
  ⟨congrArg NetworkTx.reserved hnetwork, congrArg NetworkTx.keyed hnetwork,
    congrArg NetworkTx.lease hnetwork, howner⟩

/-- What changes the world alone bypasses every session. -/
theorem bypasses_withWorld (p : TxPlane ρ) (world : ρ) :
    p.Bypasses { p with world := world } :=
  ⟨rfl, rfl, rfl, id⟩

/-- So does a tally. -/
theorem bypasses_withDiagnostics (p : TxPlane ρ)
    (f : TxDiagnostics → TxDiagnostics) : p.Bypasses (p.withDiagnostics f) :=
  ⟨rfl, rfl, rfl, id⟩

/-- A preempted session that is bypassed stays preempted. -/
theorem Preempted.bypasses (h : p.Preempted lease) (hq : p.Bypasses q) :
    q.Preempted lease :=
  ⟨hq.reserved.trans h.reserved, hq.keyed.trans h.keyed,
    hq.lease.trans h.holds, fun howner => h.owner (hq.owner howner)⟩

end TxPlane

/-! ## Operations that bypass a session -/

section Bypassing

variable {cb : TxCallbacks (TxContext ρ)} (hcb : cb.Framed)
variable {p : TxPlane ρ}
include hcb

/-- Stopping whoever transmits. -/
theorem TxPlane.bypasses_unowned (graceful : Bool) (p : TxPlane ρ) :
    p.Bypasses (p.unowned cb graceful) := by
  by_cases howned : p.tx.owner = .none
  · unfold unowned
    rw [TxControl.stopOwner_of_none cb graceful p.toTxContext howned]
    exact .refl p
  · obtain ⟨⟨result, htx⟩, hframed⟩ :=
      TxPlane.unowned_spec hcb graceful howned
    refine .of_network hframed.network fun howner => ?_
    rw [htx] at howner
    exact TxOwner.noConfusion howner

/-- A request of another owner. -/
theorem TxPlane.bypasses_requested {owner : TxOwner} (hother : owner ≠ .http)
    (nowMs : UInt64) (p : TxPlane ρ) :
    p.Bypasses (p.requested cb owner nowMs) := by
  refine .of_network (TxControl.framed_request hcb owner nowMs p).network
    fun howner => ?_
  unfold TxPlane.requested at howner
  obtain ⟨-, result, hr, -⟩ | ⟨-, -, hr⟩ | ⟨-, -, hr⟩ :=
    TxControl.request_cases cb owner nowMs p.tx p.toTxContext
  · rw [hr] at howner
    exact howner
  · rw [hr] at howner
    exact absurd howner hother
  · rw [hr] at howner
    exact howner

/-- A release, by whomever. -/
theorem TxControl.bypasses_releaseWith (graceful : Bool) (owner : TxOwner)
    (p : TxPlane ρ) : p.Bypasses (TxPlane.after
      (releaseWith cb graceful owner p.tx p.toTxContext).2) := by
  obtain ⟨-, result, -, hr⟩ | ⟨-, -, -, hr⟩ :=
    releaseWith_cases cb graceful owner p.tx p.toTxContext
  · rw [hr]
    exact .refl p
  · rw [hr]
    exact TxPlane.bypasses_unowned hcb graceful p

/-- The maximum-key timer. -/
theorem TxControl.bypasses_tick (nowMs : UInt64) (p : TxPlane ρ) :
    p.Bypasses (TxPlane.after (tick cb nowMs p.tx p.toTxContext).2) := by
  obtain ⟨-, result, -, -, hr⟩ | ⟨-, -, -, hr⟩ :=
    tick_cases cb nowMs p.tx p.toTxContext
  · rw [hr]
    exact .refl p
  · rw [hr]
    exact TxPlane.bypasses_unowned hcb false p

theorem TxControl.bypasses_shutdown (p : TxPlane ρ) :
    p.Bypasses (TxPlane.after (shutdown cb p.tx p.toTxContext)) := by
  unfold shutdown
  split
  · exact TxPlane.bypasses_unowned hcb false p
  · exact .refl p

/-- The microphone's switch. -/
theorem TxControl.bypasses_physicalPtt (pressed : Bool) (nowMs : UInt64)
    (p : TxPlane ρ) : p.Bypasses (TxPlane.after
      (physicalPtt cb pressed nowMs p.tx p.toTxContext).2) := by
  have hquiet {control : TxControl} (h : p.tx.Quiet control) :
      p.Bypasses { p with tx := control } :=
    ⟨rfl, rfl, rfl, fun howner => h.owner.symm.trans howner⟩
  have hseen := hquiet (quiet_seen p.tx pressed)
  have hstopped (graceful : Bool) : p.Bypasses
      (TxPlane.unowned cb graceful { p with tx := p.tx.seen pressed }) :=
    hseen.trans (TxPlane.bypasses_unowned hcb graceful _)
  obtain ⟨-, -, result, control, h, -, hr⟩ | ⟨-, -, -, -, hr⟩
    | ⟨-, -, -, -, -, -, hr⟩ | ⟨-, -, -, -, -, -, hr⟩ | ⟨-, -, -, -, hr⟩ :=
    physicalPtt_cases cb pressed nowMs p.tx p.toTxContext
  · rw [hr]
    exact hquiet h
  · rw [hr]
    exact hstopped true
  · rw [hr]
    exact hstopped false
  · rw [hr]
    exact (hstopped false).trans
      (TxPlane.bypasses_requested hcb (by decide) nowMs _)
  · rw [hr]
    exact hseen.trans (TxPlane.bypasses_requested hcb (by decide) nowMs _)

namespace TuneControl

omit hcb in
theorem bypasses_reconcile (watchdogStop : Bool) (p : TxPlane ρ) :
    p.Bypasses (reconcile watchdogStop p) := by
  unfold reconcile
  split
  · exact .refl p
  · exact ⟨rfl, rfl, rfl, id⟩

theorem bypasses_stopActive (reason : TuneResult) (p : TxPlane ρ) :
    p.Bypasses (stopActive cb reason p).2 := by
  unfold stopActive
  split
  · exact .refl p
  · have hreleased := TxControl.bypasses_releaseWith hcb false .tune p
    exact ⟨hreleased.reserved, hreleased.keyed, hreleased.lease,
      hreleased.owner⟩

theorem bypasses_start (nowMs lease : UInt64) (p : TxPlane ρ) :
    p.Bypasses (start cb nowMs lease p).2 := by
  have hrequested : p.Bypasses (p.requested cb .tune nowMs) :=
    TxPlane.bypasses_requested hcb (by decide) nowMs p
  unfold start
  split
  · exact .refl p
  split
  · exact ⟨rfl, rfl, rfl, id⟩
  split
  · exact .refl p
  dsimp only
  split
  · dsimp only
    split
    · exact ⟨hrequested.reserved, hrequested.keyed, hrequested.lease,
        hrequested.owner⟩
    · exact hrequested
  · exact ⟨hrequested.reserved, hrequested.keyed, hrequested.lease,
      hrequested.owner⟩

theorem bypasses_keepalive (nowMs lease : UInt64) (p : TxPlane ρ) :
    p.Bypasses (keepalive cb nowMs lease p).2 := by
  unfold keepalive
  split
  · exact .refl p
  split
  · exact ⟨rfl, rfl, rfl, id⟩
  split
  · exact bypasses_stopActive hcb _ p
  split
  · exact bypasses_stopActive hcb _ p
  · exact ⟨rfl, rfl, rfl, id⟩

theorem bypasses_stop (lease : UInt64) (p : TxPlane ρ) :
    p.Bypasses (stop cb lease p).2 := by
  unfold stop
  split
  · exact .refl p
  split
  · exact ⟨rfl, rfl, rfl, id⟩
  · exact bypasses_stopActive hcb _ p

theorem bypasses_tick (nowMs : UInt64) (p : TxPlane ρ) :
    p.Bypasses (tick cb nowMs p).2 := by
  unfold tick
  split
  · exact .refl p
  split
  · exact .refl p
  split
  · exact bypasses_stopActive hcb _ p
  split
  · exact bypasses_stopActive hcb _ p
  · exact .refl p

theorem bypasses_shutdown (p : TxPlane ρ) :
    p.Bypasses (shutdown cb p) := by
  unfold shutdown
  split
  · exact bypasses_stopActive hcb _ p
  · exact .refl p

end TuneControl

end Bypassing

/-! ## What a session's own operations do -/

namespace NetworkTx

/-- A session that records samples is bypassed. -/
theorem recordData_flags (lease : UInt64) (frames : ℕ) (nowMs : UInt64)
    (session : NetworkTx) :
    (session.recordData lease frames nowMs).2.reserved = session.reserved
      ∧ (session.recordData lease frames nowMs).2.keyed = session.keyed
      ∧ (session.recordData lease frames nowMs).2.lease = session.lease := by
  unfold recordData
  split
  · exact ⟨rfl, rfl, rfl⟩
  split
  · exact ⟨rfl, rfl, rfl⟩
  · exact ⟨rfl, rfl, rfl⟩

variable {cb : TxCallbacks (TxContext ρ)} {p : TxPlane ρ} {lease : UInt64}

/-- **Brought into line**, a preempted session is dropped. -/
theorem vacated_reconcile (h : p.Preempted lease) :
    (reconcile p).network.reserved = false := by
  unfold reconcile
  rw [if_pos]
  · rfl
  · simp [h.reserved, h.keyed, h.owner]

/-- Its own lease's timer leaves a session alone, or drops it. -/
theorem tick_network (nowMs : UInt64) (p : TxPlane ρ) :
    (tick cb nowMs p).2 = p ∨ (tick cb nowMs p).2.network.reserved = false := by
  unfold tick
  split
  · exact Or.inl rfl
  split
  · exact Or.inl rfl
  · exact Or.inr rfl

/-- **A session is keyed with success** exactly where it has the transmitter
then, or is preempted: the mark is all that is looked at. -/
theorem owner_of_pttStart (nowMs : UInt64)
    (hok : (pttStart cb lease nowMs p).1 = .ok) :
    (pttStart cb lease nowMs p).2.tx.owner = .http ↔ ¬ p.Preempted lease := by
  unfold pttStart at hok ⊢
  split at hok
  · exact NetworkTxResult.noConfusion hok
  rename_i howns
  obtain ⟨hreserved, -, hlease⟩ := owns_iff.mp (by simpa using howns)
  rw [if_neg howns]
  split at hok
  · exact NetworkTxResult.noConfusion hok
  rename_i hready
  rw [if_neg hready]
  split at hok
  · rename_i hkeyed
    rw [if_pos hkeyed]
    exact ⟨fun howner h => h.owner howner, fun h => not_not.mp fun howner =>
      h ⟨hreserved, hkeyed, hlease, howner⟩⟩
  rename_i hkeyed
  rw [if_neg hkeyed]
  dsimp only at hok ⊢
  have hfree : ¬ p.Preempted lease := fun h => hkeyed h.keyed
  refine iff_of_true ?_ hfree
  split at hok
  · exact NetworkTxResult.noConfusion hok
  rename_i hbusy
  split at hok
  · exact NetworkTxResult.noConfusion hok
  rename_i hgranted
  rw [if_neg hbusy, if_neg hgranted]
  obtain ⟨-, result, hr, howned⟩ | ⟨-, -, hr⟩ | ⟨-, -, hr⟩ :=
    TxControl.request_cases cb .http nowMs p.tx p.toTxContext
  · rw [hr] at hgranted ⊢
    exact (howned (not_not.mp hgranted)).2.2
  · rw [hr]
    rfl
  · rw [hr] at hgranted
    exact absurd (fun h => TxControlResult.noConfusion h) hgranted

end NetworkTx

/-! ## Requests -/

namespace Api

section Admission

variable (request : CText) (radio : RadioInfo) (p : TxPlane (ApiWorld ρ))

/-- **Whether a request gets to the session** whose lease it carries: its
route is one of the session's, and what the route asks for beside the lease
is given. -/
def SessionRouted : Prop :=
  requestIs "PUT" "/v1/tx/sessions/keepalive" request = true
    ∨ requestIs "CONNECT" "/v1/tx/stream" request = true
    ∨ (requestIs "PUT" "/v1/tx/ptt/start" request = true
      ∧ radio.frequencyHz.any (profileFrequencyAllowed p.network.profile)
        = true)
    ∨ requestIs "PUT" "/v1/tx/ptt/stop" request = true
    ∨ requestIs "DELETE" "/v1/tx/sessions/current" request = true
    ∨ (requestIs "POST" "/v1/tx/audio" request = true
      ∧ (audioBytes request).isSome = true
      ∧ p.network.profile.source = .audio)

/-- **Admitted**: whoever asks has the station, there are sessions to be
had, and the request gets to one. -/
structure Admitted : Prop where
  authorised : Authorised request p
  attached : p.world.api.networkAttached = true
  enabled : p.network.enabled = true
  routed : SessionRouted request radio p

/-- **A request that reaches a preempted session** by its lease. -/
def Misled : Prop :=
  ∃ lease, p.Preempted lease ∧ PresentsSession request lease
    ∧ Admitted request radio p

instance : Decidable (SessionRouted request radio p) :=
  inferInstanceAs (Decidable (_ ∨ _))

instance : Decidable (Admitted request radio p) :=
  decidable_of_iff (p.world.api.stationRequestAuthorized p.world.station
        request = true
      ∧ p.world.api.networkAttached = true ∧ p.network.enabled = true
      ∧ SessionRouted request radio p)
    ⟨fun h => ⟨h.1, h.2.1, h.2.2.1, h.2.2.2⟩,
      fun h => ⟨h.authorised, h.attached, h.enabled, h.routed⟩⟩

/-- The lease a request would reach a preempted session by is the session's
own. -/
instance : Decidable (Misled request radio p) :=
  decidable_of_iff (p.Preempted p.network.lease
      ∧ PresentsSession request p.network.lease ∧ Admitted request radio p)
    ⟨fun h => ⟨_, h.1, h.2.1, h.2.2⟩, fun ⟨_, h, hpresents, hadmitted⟩ =>
      ⟨h.holds ▸ h, h.holds ▸ hpresents, hadmitted⟩⟩

end Admission

variable {cb : TxCallbacks (TxContext (ApiWorld ρ))} {request : CText}
variable {radio : RadioInfo} {p q : TxPlane (ApiWorld ρ)} {lease : UInt64}
variable {ops : RadioOps ρ} {capacity : ℕ} {pages : ApiPages}

/-- What does not get to a session does nothing. -/
theorem txLeaseRoute_of_not_routed (h : ¬ SessionRouted request radio p) :
    txLeaseRoute cb request radio lease p = (.invalid, p) := by
  have haudio (hroute : requestIs "POST" "/v1/tx/audio" request = true) :
      txAudio request lease p = (.invalid, p) := by
    unfold txAudio
    split
    · rfl
    rename_i hbytes
    rw [if_pos]
    intro hsource
    exact h (Or.inr (Or.inr (Or.inr (Or.inr (Or.inr
      ⟨hroute, by rw [hbytes]; rfl, hsource⟩)))))
  unfold txLeaseRoute
  dsimp only
  split
  · rename_i hroute
    exact absurd (Or.inl hroute) h
  split
  · rename_i hroute
    exact absurd (Or.inr (Or.inl hroute)) h
  split
  · rename_i hroute
    split
    · rename_i hallowed
      exact absurd (Or.inr (Or.inr (Or.inl ⟨hroute, hallowed⟩))) h
    · rfl
  split
  · rename_i hroute
    exact absurd (Or.inr (Or.inr (Or.inr (Or.inl hroute)))) h
  split
  · rename_i hroute
    exact absurd (Or.inr (Or.inr (Or.inr (Or.inr (Or.inl hroute))))) h
  split
  · rename_i hroute
    exact haudio hroute
  · rfl

/-- To reserve a session is none of its routes. -/
theorem not_sessionRouted
    (h : requestIs "POST" "/v1/tx/sessions" request = true) :
    ¬ SessionRouted request radio p := by
  have hother (path : CText) (h₁ : (ofString
        ("POST" ++ " " ++ "/v1/tx/sessions" ++ " HTTP/")).isPrefixOf path
          = false)
      (h₂ : path.isPrefixOf (ofString
        ("POST" ++ " " ++ "/v1/tx/sessions" ++ " HTTP/")) = false) :
      hasPrefix path request ≠ true := by
    rw [hasPrefix_eq_false h h₁ h₂]
    exact Bool.false_ne_true
  rintro (hroute | hroute | ⟨hroute, -⟩ | hroute | hroute | ⟨hroute, -⟩)
  · exact hother _ (by decide) (by decide) hroute
  · exact hother _ (by decide) (by decide) hroute
  · exact hother _ (by decide) (by decide) hroute
  · exact hother _ (by decide) (by decide) hroute
  · exact hother _ (by decide) (by decide) hroute
  · exact hother _ (by decide) (by decide) hroute

/-- A transmit request of whoever has the station is the session's. -/
theorem dispatch_of_authorised (hgeneral : txGeneralPath request = true)
    (hauthorised : Authorised request p) :
    dispatch cb ops request radio capacity pages p
      = txRoute cb request radio capacity p := by
  have hpath : stationControlled request = true := by
    simp [stationControlled, hgeneral]
  have hrouted := not_ownerRouted hpath
  rw [ownerRouted] at hrouted
  have hauthorised : p.world.api.stationRequestAuthorized p.world.station
      request = true := hauthorised
  simp only [dispatch, hrouted, hpath, hauthorised, hgeneral, Bool.not_true,
    Bool.and_false, Bool.false_eq_true, if_false, if_true]

/-- The answer to a session's request that was not granted. -/
theorem txRoute_of_refused (hattached : p.world.api.networkAttached = true)
    (henabled : p.network.enabled = true)
    (hno : (txOperation cb request radio p).1.1 ≠ .ok) :
    (txRoute cb request radio capacity p).1.IsError
      ∧ ∃ f, (txRoute cb request radio capacity p).2
        = (txOperation cb request radio p).2.withDiagnostics f := by
  unfold txRoute
  rw [if_neg (by simp [hattached, henabled])]
  dsimp only
  rw [if_neg (fun h => hno h.1), if_neg (fun h => hno h.1)]
  refine ⟨⟨_, _, capacity, if_neg hno⟩, ?_⟩
  dsimp only
  split
  · exact ⟨_, rfl⟩
  · exact ⟨id, rfl⟩

variable (cb ops radio capacity pages) in
/-- **A request that is not admitted is rejected**, whatever its lease. -/
theorem rejected_of_not_admitted (hpresents : PresentsSession request lease)
    (hno : ¬ Admitted request radio p) :
    Rejected p (dispatch cb ops request radio capacity pages p) := by
  obtain ⟨hgeneral, hcreate, hlease⟩ := hpresents
  by_cases hauthorised : p.world.api.stationRequestAuthorized
      p.world.station request = true
  swap
  · exact rejected_of_unauthorised cb radio ops capacity pages
      (by simp [stationControlled, hgeneral]) (by simpa using hauthorised)
  rw [dispatch_of_authorised hgeneral hauthorised]
  by_cases hthere : p.world.api.networkAttached = true
      ∧ p.network.enabled = true
  swap
  · have hnone : txRoute cb request radio capacity p
        = (notFound capacity, p) := by
      unfold txRoute
      rw [if_pos]
      by_contra h
      exact hthere (by simpa using h)
    exact rejected_of_eq hnone
  have hoperation : txOperation cb request radio p
      = ((.invalid, lease), p) := by
    rw [txOperation, if_neg (by simp [hcreate]), hlease]
    dsimp only
    rw [txLeaseRoute_of_not_routed fun hrouted =>
      hno ⟨hauthorised, hthere.1, hthere.2, hrouted⟩]
  have hrefused : (txRoute cb request radio capacity p).1.IsError
      ∧ ∃ f, (txRoute cb request radio capacity p).2
        = (txOperation cb request radio p).2.withDiagnostics f := by
    refine txRoute_of_refused hthere.1 hthere.2 ?_
    rw [hoperation]
    exact fun h => NetworkTxResult.noConfusion h
  rw [hoperation] at hrefused
  exact hrefused

/-- An operation on a session under another lease is stale, once it gets to
the session. -/
theorem txLeaseRoute_stale (hdead : p.network.owns lease = false)
    (hrouted : SessionRouted request radio p) :
    (txLeaseRoute cb request radio lease p).1 = .stale := by
  have hforeign : (!p.network.owns lease) = true := by simp [hdead]
  have haudio (hbytes : (audioBytes request).isSome = true)
      (hsource : p.network.profile.source = .audio) :
      (txAudio request lease p).1 = .stale := by
    unfold txAudio
    obtain ⟨bytes, hbytes⟩ := Option.isSome_iff_exists.mp hbytes
    rw [hbytes]
    dsimp only
    rw [if_neg (fun h => h hsource)]
    by_cases hstream : p.network.streamConnected = true
    · simp [hstream, NetworkTx.recordData, hdead, TxPlane.withNetwork]
    · simp [hstream, NetworkTx.attachStream, hdead, TxPlane.withNetwork]
  -- a request to key is none of those that come behind it
  have hother (hstart : requestIs "PUT" "/v1/tx/ptt/start" request = true)
      {path : CText} (h₁ : (ofString
        ("PUT" ++ " " ++ "/v1/tx/ptt/start" ++ " HTTP/")).isPrefixOf path
          = false)
      (h₂ : path.isPrefixOf (ofString
        ("PUT" ++ " " ++ "/v1/tx/ptt/start" ++ " HTTP/")) = false) :
      hasPrefix path request ≠ true := by
    rw [hasPrefix_eq_false hstart h₁ h₂]
    exact Bool.false_ne_true
  unfold txLeaseRoute
  dsimp only
  split
  · simp [NetworkTx.keepalive, hdead]
  rename_i hkeepalive
  split
  · simp [NetworkTx.attachStream, hdead]
  rename_i hstream
  obtain hrouted | hrouted | ⟨hstart, hallowed⟩ | hrest :=
    hrouted
  · exact absurd hrouted hkeepalive
  · exact absurd hrouted hstream
  · rw [if_pos hstart, if_pos hallowed, NetworkTx.pttStart, if_pos hforeign]
  split
  · rename_i hstart
    obtain hstop | hdelete | ⟨hpost, -⟩ := hrest
    · exact absurd hstop (hother hstart (by decide) (by decide))
    · exact absurd hdelete (hother hstart (by decide) (by decide))
    · exact absurd hpost (hother hstart (by decide) (by decide))
  split
  · rw [NetworkTx.pttStop, if_pos hforeign]
  rename_i hstop
  split
  · rw [NetworkTx.release, if_pos hforeign]
  rename_i hdelete
  obtain hstop' | hdelete' | ⟨hpost, hbytes, hsource⟩ := hrest
  · exact absurd hstop' hstop
  · exact absurd hdelete' hdelete
  · rw [if_pos hpost]
    exact haudio hbytes hsource

variable (cb ops radio capacity pages) in
/-- **A request that is admitted under another lease is stale**, and told
so. -/
theorem stale_of_admitted (hdead : p.network.owns lease = false)
    (hpresents : PresentsSession request lease)
    (hadmitted : Admitted request radio p) :
    (dispatch cb ops request radio capacity pages p).1
      = errorReply "410 Gone" "tx_stale" capacity := by
  obtain ⟨hgeneral, hcreate, hlease⟩ := hpresents
  rw [dispatch_of_authorised hgeneral hadmitted.authorised]
  have hoperation : (txOperation cb request radio p).1 = (.stale, lease) := by
    rw [txOperation, if_neg (by simp [hcreate]), hlease]
    dsimp only
    rw [txLeaseRoute_stale hdead hadmitted.routed]
  unfold txRoute
  rw [if_neg (by simp [hadmitted.attached, hadmitted.enabled])]
  dsimp only
  rw [hoperation, if_neg (by simp), if_neg (by simp), txReply, if_neg (by simp)]
  rfl

variable (cb ops radio capacity pages) in
/-- **Keying reports success** only where the session then has the
transmitter, unless the request was misled. -/
theorem owner_of_start (hroute : requestIs "PUT" "/v1/tx/ptt/start" request
      = true) (hno : ¬ Misled request radio p)
    (hanswer : ¬ (dispatch cb ops request radio capacity pages p).1.IsError) :
    (dispatch cb ops request radio capacity pages p).2.tx.owner = .http := by
  have hother {path : CText} (h₁ : (ofString
        ("PUT" ++ " " ++ "/v1/tx/ptt/start" ++ " HTTP/")).isPrefixOf path
          = false)
      (h₂ : path.isPrefixOf (ofString
        ("PUT" ++ " " ++ "/v1/tx/ptt/start" ++ " HTTP/")) = false) :
      hasPrefix path request = false :=
    hasPrefix_eq_false hroute h₁ h₂
  -- the request is for the sessions, and none of their other routes
  have hgeneral : txGeneralPath request = true := by
    have hput : hasPrefix (ofString "PUT /v1/tx/") request = true := by
      rw [hasPrefix_iff]
      exact List.IsPrefix.trans (by decide) (hasPrefix_iff.mp hroute)
    simp [txGeneralPath, hput]
  have hcreate : requestIs "POST" "/v1/tx/sessions" request = false :=
    hother (by decide) (by decide)
  have hkeepalive : requestIs "PUT" "/v1/tx/sessions/keepalive" request
      = false := hother (by decide) (by decide)
  have hstream : requestIs "CONNECT" "/v1/tx/stream" request = false :=
    hother (by decide) (by decide)
  have haudio : requestIs "POST" "/v1/tx/audio" request = false :=
    hother (by decide) (by decide)
  -- what is not admitted is answered with an error
  by_cases hauthorised : p.world.api.stationRequestAuthorized
      p.world.station request = true
  swap
  · exact absurd (rejected_of_unauthorised cb radio ops capacity pages
      (by simp [stationControlled, hgeneral]) (by simpa using hauthorised)).1
      hanswer
  rw [dispatch_of_authorised hgeneral hauthorised] at hanswer ⊢
  by_cases hthere : p.world.api.networkAttached = true
      ∧ p.network.enabled = true
  swap
  · refine absurd ?_ hanswer
    unfold txRoute
    rw [if_pos]
    · exact ⟨_, _, capacity, rfl⟩
    · by_contra h
      exact hthere (by simpa using h)
  by_cases hok : (txOperation cb request radio p).1.1 = .ok
  swap
  · exact absurd (txRoute_of_refused hthere.1 hthere.2 hok).1 hanswer
  have hplane : (txRoute cb request radio capacity p).2
      = (txOperation cb request radio p).2 := by
    unfold txRoute
    rw [if_neg (by simp [hthere.1, hthere.2])]
    simp [hok, hstream, haudio]
  rw [hplane]
  rw [txOperation, if_neg (by simp [hcreate])] at hok ⊢
  -- the operation succeeded, so the lease was there and owned
  cases hlease : HttpRequest.lease request with
  | none =>
    rw [hlease] at hok
    exact NetworkTxResult.noConfusion hok
  | some lease =>
    rw [hlease] at hok
    dsimp only at hok ⊢
    have hstart : txLeaseRoute cb request radio lease p
        = if radio.frequencyHz.any (profileFrequencyAllowed p.network.profile)
          then NetworkTx.pttStart cb lease p.world.api.requestNowMs p
          else (.invalid, p) := by
      simp [txLeaseRoute, hkeepalive, hstream, hroute]
    rw [hstart] at hok ⊢
    split at hok
    swap
    · exact NetworkTxResult.noConfusion hok
    rename_i hallowed
    rw [if_pos hallowed]
    refine (NetworkTx.owner_of_pttStart _ hok).mpr fun hpreempted => hno ?_
    exact ⟨lease, hpreempted, ⟨hgeneral, hcreate, hlease⟩,
      hauthorised, hthere.1, hthere.2, Or.inr (Or.inr (Or.inl
        ⟨hroute, hallowed⟩))⟩

section Preemption

variable (hcb : cb.Framed)

/-- A session that is there is not reserved once more. -/
theorem bypasses_acquire (profile : NetworkTxProfile) (issued nowMs : UInt64)
    (hreserved : p.network.reserved = true) :
    p.Bypasses (NetworkTx.acquire profile issued nowMs p).2 := by
  unfold NetworkTx.acquire
  split
  · exact .refl p
  split
  · exact .refl p
  split
  · exact .refl p
  · rename_i hfree
    exact absurd hreserved (by
      simp only [Bool.or_eq_true, not_or] at hfree
      exact hfree.1)

include hcb in
/-- **A request that is not misled** leaves a preempted session as it is. -/
theorem preempted_dispatch (hpreempted : p.Preempted lease)
    (hno : ¬ Misled request radio p) :
    (dispatch cb ops request radio capacity pages p).2.Preempted lease := by
  have hbypassed {q : TxPlane (ApiWorld ρ)} (h : p.Bypasses q) :
      q.Preempted lease := hpreempted.bypasses h
  by_cases hpresents : PresentsSession request lease
  · obtain ⟨-, f, hplane⟩ := rejected_of_not_admitted cb radio ops capacity
      pages hpresents fun h => hno ⟨lease, hpreempted, hpresents, h⟩
    rw [hplane]
    exact hbypassed ⟨rfl, rfl, rfl, id⟩
  have houtcome : Outcome cb request radio p
      (dispatch cb ops request radio capacity pages p).2 :=
    dispatch_outcome _ _ _ _ _ _ _
  generalize (dispatch cb ops request radio capacity pages p).2 = q
    at houtcome ⊢
  cases houtcome with
  | untouched h =>
    exact hbypassed (.of_network h.network fun howner => h.tx ▸ howner)
  | acquired modeAware _ _ => exact hbypassed ⟨rfl, rfl, rfl, id⟩
  | renewed _ _ => exact hbypassed ⟨rfl, rfl, rfl, id⟩
  | released _ _ _ => exact hbypassed ⟨rfl, rfl, rfl, id⟩
  | reserved profile f _ =>
    have hsame := bypasses_acquire (p := p.sessionIssued) profile
      (issueLease p.world.api.nextTxLease).1 p.world.api.requestNowMs
      hpreempted.reserved
    exact hbypassed ⟨hsame.reserved, hsame.keyed, hsame.lease, hsame.owner⟩
  | @session presented f _ hgeneral hlease =>
    have hsame : (txLeaseRoute cb request radio presented p).2 = p := by
      by_cases hcreate : requestIs "POST" "/v1/tx/sessions" request = true
      · rw [txLeaseRoute_of_not_routed (not_sessionRouted hcreate)]
      · refine (txLeaseRoute_dead cb request radio ?_).2
        rw [Bool.eq_false_iff]
        intro howns
        obtain ⟨-, -, hown⟩ := NetworkTx.owns_iff.mp howns
        exact hpresents ⟨hgeneral, by simpa using hcreate, by
          rw [hlease, ← hpreempted.holds, hown]⟩
    rw [hsame]
    exact hbypassed ⟨rfl, rfl, rfl, id⟩
  | tuned _ =>
    have hsame := TuneControl.bypasses_start hcb p.world.api.requestNowMs
      (issueLease p.world.api.nextTuneLease).1 p.tuneIssued
    exact hbypassed ⟨hsame.reserved, hsame.keyed, hsame.lease, hsame.owner⟩
  | tuneRenewed presented _ =>
    exact hbypassed (TuneControl.bypasses_keepalive hcb _ presented p)
  | tuneStopped presented _ =>
    exact hbypassed (TuneControl.bypasses_stop hcb presented p)
  | timed seconds _ =>
    refine hbypassed ⟨rfl, rfl, rfl, fun howner => ?_⟩
    have hsame : (p.tx.setTimeoutSeconds seconds).2.owner = p.tx.owner := by
      unfold TxControl.setTimeoutSeconds
      split
      · rfl
      · rfl
    exact hsame ▸ howner

end Preemption

end Api
