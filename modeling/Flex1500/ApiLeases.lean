import Flex1500.ApiOutcome
import Flex1500.DaemonSettings
import Flex1500.Lib.Tenure
import Flex1500.TxMoveLaws

/-!
# Three kinds of leases

The station, the tune carrier and a session each have a lease, drawn from a
counter of the API controller, and each kind is a tenure. Here every outcome
of a request is taken as a step of all three: it draws one lease of one kind
at most, and otherwise puts no lease in force that was not.
-/

variable {ρ : Type}

/-- The kinds of leases. -/
inductive LeaseKind where
  | station | tune | session
  deriving DecidableEq, Repr

namespace LeaseKind

/-- The counter a kind of lease is drawn from. -/
def next (kind : LeaseKind) (p : TxPlane (ApiWorld ρ)) : UInt64 :=
  match kind with
  | .station => p.world.api.nextStationLease
  | .tune => p.world.api.nextTuneLease
  | .session => p.world.api.nextTxLease

/-- The lease in force of a kind. -/
def live (kind : LeaseKind) (p : TxPlane (ApiWorld ρ)) : Option UInt64 :=
  match kind with
  | .station =>
    if p.world.station.held then some p.world.station.lease else none
  | .tune => if p.tune.active then some p.tune.lease else none
  | .session => if p.network.reserved then some p.network.lease else none

/-- The tenure of a kind. -/
def tenure (kind : LeaseKind) :
    Tenure (TxPlane (ApiWorld ρ)) UInt64 UInt64 where
  next := kind.next
  live := kind.live
  draw := issueLease

/-- The lease of a kind that was issued between two planes: the code draws
one where it moves the counter, and only there. -/
def issuedBy (kind : LeaseKind) (p q : TxPlane (ApiWorld ρ)) :
    Option UInt64 :=
  if kind.next q = kind.next p then none
  else some (issueLease (kind.next p)).1

/-- **A turn** of the tenure of a kind. -/
def Turns (kind : LeaseKind) (p q : TxPlane (ApiWorld ρ)) : Prop :=
  kind.tenure.Step (kind.issuedBy p q) p q

/-- A request that presents a lease of a kind. -/
def Presents (kind : LeaseKind) (request : CText) (lease : UInt64) : Prop :=
  match kind with
  | .station => Api.PresentsStation request lease
  | .tune => Api.PresentsTune request lease
  | .session => Api.PresentsSession request lease

end LeaseKind

namespace LeaseKind

variable {p : TxPlane (ApiWorld ρ)} {lease : UInt64}

theorem mem_live_station : lease ∈ station.live p
    ↔ p.world.station.held = true ∧ p.world.station.lease = lease := by
  simp [live]

theorem mem_live_tune : lease ∈ tune.live p
    ↔ p.tune.active = true ∧ p.tune.lease = lease := by
  simp [live]

theorem mem_live_session : lease ∈ session.live p
    ↔ p.network.reserved = true ∧ p.network.lease = lease := by
  simp [live]

/-- A lease that is not in force owns no session. -/
theorem not_owns_of_not_live (h : lease ∉ session.live p) :
    p.network.owns lease = false := by
  rw [Bool.eq_false_iff]
  intro howns
  obtain ⟨hreserved, -, hlease⟩ := NetworkTx.owns_iff.mp howns
  exact h (mem_live_session.mpr ⟨hreserved, hlease⟩)

end LeaseKind

/-- Drawing a lease moves its counter. -/
theorem issueLease_ne (next : UInt64) : (issueLease next).2 ≠ next := by
  unfold issueLease
  split
  · rename_i h
    rw [h]
    decide
  · intro h
    have := congrArg UInt64.toBitVec h
    simp at this

/-- The rank of a lease drawn next, among all there are. -/
theorem toNat_issueLease (next : UInt64) :
    (issueLease (issueLease next).2).1.toNat
        = (issueLease next).1.toNat % (2 ^ 64 - 1) + 1
      ∧ 1 ≤ (issueLease next).1.toNat
      ∧ (issueLease next).1.toNat ≤ 2 ^ 64 - 1 := by
  have hlt := next.toNat_lt
  unfold issueLease
  by_cases h : next = 0
  · rw [if_pos h]
    decide
  have hpos : 0 < next.toNat := by
    rw [Nat.pos_iff_ne_zero]
    exact fun h0 => h (UInt64.toNat_inj.mp h0)
  have hsucc : (next + 1).toNat = (next.toNat + 1) % 2 ^ 64 :=
    UInt64.toNat_add next 1
  rw [if_neg h]
  dsimp only
  refine ⟨?_, by omega, by omega⟩
  by_cases hround : next + 1 = 0
  · rw [if_pos hround]
    rw [hround] at hsucc
    dsimp only
    have h0 : (0 : UInt64).toNat = 0 := rfl
    have h1 : (1 : UInt64).toNat = 1 := rfl
    omega
  · rw [if_neg hround]
    dsimp only
    have hnz : (next + 1).toNat ≠ 0 :=
      fun h0 => hround (UInt64.toNat_inj.mp h0)
    omega

/-- **Fewer leases than there are numbers are all different.** -/
theorem nodup_draws_issueLease {n : ℕ} (hn : n ≤ 2 ^ 64 - 1) (c : UInt64) :
    (Tenure.draws issueLease n c).Nodup :=
  Tenure.nodup_draws (fun c => (toNat_issueLease c).1)
    (fun c => (toNat_issueLease c).2.1) (fun c => (toNat_issueLease c).2.2)
    hn c

/-- A lease that is drawn is none that is zero. -/
theorem ne_zero_of_mem_draws (n : ℕ) (c lease : UInt64)
    (h : lease ∈ Tenure.draws issueLease n c) : lease ≠ 0 := by
  induction n generalizing c with
  | zero => exact absurd h List.not_mem_nil
  | succ n ih =>
    obtain rfl | h := List.mem_cons.mp h
    · intro h0
      have hpos := (toNat_issueLease c).2.1
      rw [h0] at hpos
      exact absurd hpos (by decide)
    · exact ih _ h

namespace LeaseKind

variable {p q r : TxPlane (ApiWorld ρ)} {kind : LeaseKind}

/-- Nothing of a kind is drawn, and nothing put in force. -/
structure Keeps (kind : LeaseKind) (p q : TxPlane (ApiWorld ρ)) : Prop where
  next : kind.next q = kind.next p
  live : ∀ lease ∈ kind.live q, lease ∈ kind.live p

theorem Keeps.refl (p : TxPlane (ApiWorld ρ)) : kind.Keeps p p :=
  ⟨rfl, fun _ h => h⟩

theorem Keeps.trans (h : kind.Keeps p q) (h' : kind.Keeps q r) :
    kind.Keeps p r :=
  ⟨h'.next.trans h.next, fun lease hl => h.live lease (h'.live lease hl)⟩

theorem Keeps.turns (h : kind.Keeps p q) : kind.Turns p q := by
  unfold Turns issuedBy
  rw [if_pos h.next]
  exact .keep h.next h.live

/-- A lease drawn, and put in force or not. -/
theorem turns_of_draw
    (hnext : kind.next q = (issueLease (kind.next p)).2)
    (hlive : ∀ lease ∈ kind.live q,
      lease ∈ kind.live p ∨ lease = (issueLease (kind.next p)).1) :
    kind.Turns p q := by
  unfold Turns issuedBy
  rw [if_neg (hnext ▸ issueLease_ne _)]
  exact .draw hnext hlive

/-- A turn may be followed by what draws nothing. -/
theorem Turns.trans_keeps (h : kind.Turns p q) (h' : kind.Keeps q r) :
    kind.Turns p r := by
  unfold Turns issuedBy at h ⊢
  rw [h'.next]
  exact h.trans_keep h'.next h'.live

/-- What draws nothing may come before a turn that has it to start from. -/
theorem Keeps.trans_turns (h : kind.Keeps p q) (h' : kind.Turns q r) :
    kind.Turns p r := by
  unfold Turns issuedBy at h' ⊢
  rw [h.next] at h'
  generalize hlabel : (if kind.next r = kind.next p then none
    else some (issueLease (kind.next p)).1) = label at h'
  cases h' with
  | keep hnext hlive =>
    exact .keep (hnext.trans h.next) fun lease hl =>
      h.live lease (hlive lease hl)
  | draw hnext hlive =>
    have hsame : kind.tenure.next q = kind.tenure.next p := h.next
    rw [hsame] at hnext hlive ⊢
    exact .draw hnext fun lease hl =>
      (hlive lease hl).imp_left (h.live lease)

end LeaseKind

namespace TxPlane

variable {p q : TxPlane (ApiWorld ρ)}

/-- Where no holder is new and the counters stand, every kind is kept. -/
theorem NoNewLease.keeps (h : p.NoNewLease q)
    (hleases : p.world.api.SameLeases q.world.api)
    (hstation : q.world.station.held = true →
      p.world.station.held = true
        ∧ q.world.station.lease = p.world.station.lease)
    (kind : LeaseKind) : kind.Keeps p q := by
  cases kind with
  | station =>
    refine ⟨hleases.station, fun lease hl => ?_⟩
    obtain ⟨hheld, rfl⟩ := LeaseKind.mem_live_station.mp hl
    obtain ⟨hp, hsame⟩ := hstation hheld
    exact LeaseKind.mem_live_station.mpr ⟨hp, hsame.symm⟩
  | tune =>
    refine ⟨hleases.tune, fun lease hl => ?_⟩
    obtain ⟨hactive, rfl⟩ := LeaseKind.mem_live_tune.mp hl
    obtain ⟨hp, hsame⟩ := h.tune hactive
    exact LeaseKind.mem_live_tune.mpr ⟨hp, hsame.symm⟩
  | session =>
    refine ⟨hleases.session, fun lease hl => ?_⟩
    obtain ⟨hreserved, rfl⟩ := LeaseKind.mem_live_session.mp hl
    obtain ⟨hp, hsame⟩ := h.session hreserved
    exact LeaseKind.mem_live_session.mpr ⟨hp, hsame.symm⟩

end TxPlane

/-! ## What the operations put in force -/

/-- Moves that start nothing put no lease in force. -/
theorem TxMove.Passive.not_leases {m : TxMove} (h : m.Passive) :
    ¬ m.Leases := by
  cases m <;> first | exact id | exact h.elim

section Operations

variable {cb : TxCallbacks (TxContext ρ)} {W : ρ → ρ → Prop}
variable {p q : TxPlane ρ}

/-- Another session is no new one where it has its lease from before. -/
theorem TxPlane.noNewLease_withNetwork {f : NetworkTx → NetworkTx}
    (hreserved : (f p.network).reserved = p.network.reserved)
    (hlease : (f p.network).lease = p.network.lease) :
    p.NoNewLease (p.withNetwork f) :=
  ⟨fun h => ⟨h, rfl⟩, fun h => ⟨hreserved ▸ h, hlease⟩⟩

variable (hcb : cb.Framed)
include hcb

theorem TxPlane.ReachesPassively.noNewLease
    (h : p.ReachesPassively cb W q) : p.NoNewLease q :=
  Reaches.noNewLease hcb h fun _ hm => hm.not_leases

/-- A request for the transmitter frames the sessions. -/
theorem TxControl.framed_request (owner : TxOwner) (nowMs : UInt64)
    (p : TxPlane ρ) :
    p.toTxContext.Framed (TxPlane.after
      (request cb owner nowMs p.tx p.toTxContext).2).toTxContext := by
  obtain ⟨-, result, hr, -⟩ | ⟨-, -, hr⟩ | ⟨-, -, hr⟩ :=
    request_cases cb owner nowMs p.tx p.toTxContext
  · rw [hr]
    exact .refl _
  · rw [hr]
    exact hcb.start _ _ _
  · rw [hr]
    exact (hcb.start _ _ _).trans (hcb.stop _ _ _ _)

/-- Keying a session puts no lease in force. -/
theorem NetworkTx.noNewLease_pttStart (lease nowMs : UInt64)
    (p : TxPlane ρ) : p.NoNewLease (pttStart cb lease nowMs p).2 := by
  have hrequest : p.NoNewLease (TxPlane.after
      (TxControl.request cb .http nowMs p.tx p.toTxContext).2) :=
    .of_framed (TxControl.framed_request hcb .http nowMs p)
  unfold pttStart
  split
  · exact .refl p
  split
  · exact .refl p
  split
  · exact .refl p
  dsimp only
  split
  · exact hrequest
  split
  · exact hrequest
  · dsimp only
    exact hrequest.trans (TxPlane.noNewLease_withNetwork rfl rfl)

/-- Renewing the carrier's lease puts none in force. -/
theorem TuneControl.noNewLease_keepalive (hp : p.Coherent)
    (nowMs lease : UInt64) :
    p.NoNewLease (keepalive cb nowMs lease p).2 := by
  have hstop (reason : TuneResult) :
      p.NoNewLease (stopActive cb reason p).2 :=
    TxPlane.ReachesPassively.noNewLease (W := fun _ _ => True) hcb
      (stopActive_path hp reason)
  unfold keepalive
  split
  · exact .refl p
  split
  · exact ⟨fun h => ⟨h, rfl⟩, fun h => ⟨h, rfl⟩⟩
  split
  · exact hstop _
  split
  · exact hstop _
  · exact ⟨fun h => ⟨h, rfl⟩, fun h => ⟨h, rfl⟩⟩

/-- **Starting the carrier** puts the lease it is handed in force, or
none. -/
theorem TuneControl.tune_start (nowMs lease : UInt64) (p : TxPlane ρ) :
    ((start cb nowMs lease p).2.tune.active = true →
        p.tune.active = true
            ∧ (start cb nowMs lease p).2.tune.lease = p.tune.lease
          ∨ (start cb nowMs lease p).2.tune.lease = lease)
      ∧ (start cb nowMs lease p).2.network = p.network := by
  obtain ⟨hnetwork, d, htune⟩ := TxControl.framed_request hcb .tune nowMs p
  have hkept : (TxPlane.after (TxControl.request cb .tune nowMs p.tx
      p.toTxContext).2).tune.active = true →
      p.tune.active = true ∧ (TxPlane.after (TxControl.request cb .tune nowMs
        p.tx p.toTxContext).2).tune.lease = p.tune.lease := by
    rw [htune]
    exact fun h => ⟨h, rfl⟩
  unfold start
  split
  · exact ⟨fun h => Or.inl ⟨h, rfl⟩, rfl⟩
  split
  · exact ⟨fun h => Or.inl ⟨h, rfl⟩, rfl⟩
  split
  · exact ⟨fun h => Or.inl ⟨h, rfl⟩, rfl⟩
  dsimp only
  split
  · dsimp only
    split
    · exact ⟨fun h => Or.inl (hkept h), hnetwork⟩
    · exact ⟨fun h => Or.inl (hkept h), hnetwork⟩
  · exact ⟨fun _ => Or.inr rfl, hnetwork⟩

end Operations

namespace Api

variable {cb : TxCallbacks (TxContext (ApiWorld ρ))} {request : CText}
variable {radio : RadioInfo} {p q : TxPlane (ApiWorld ρ)}

/-- No operation on a session puts a lease in force. -/
theorem txLeaseRoute_noNewLease (hcb : cb.Framed) (hp : p.Coherent)
    (lease : UInt64) :
    p.NoNewLease (txLeaseRoute cb request radio lease p).2 := by
  have hpassive {q : TxPlane (ApiWorld ρ)}
      (h : p.ReachesPassively cb (fun _ _ => True) q) : p.NoNewLease q :=
    TxPlane.ReachesPassively.noNewLease hcb h
  unfold txLeaseRoute
  dsimp only
  split
  · unfold NetworkTx.keepalive
    dsimp only
    refine TxPlane.noNewLease_withNetwork ?_ ?_
    · split
      · rfl
      · rfl
    · split
      · rfl
      · rfl
  split
  · unfold NetworkTx.attachStream
    dsimp only
    refine TxPlane.noNewLease_withNetwork ?_ ?_
    · split
      · rfl
      split
      · rfl
      · rfl
    · split
      · rfl
      split
      · rfl
      · rfl
  split
  · split
    · exact NetworkTx.noNewLease_pttStart hcb lease _ p
    · exact .refl p
  split
  · exact hpassive (NetworkTx.pttStop_path hp lease)
  split
  · exact hpassive (NetworkTx.release_path hp lease)
  split
  · obtain ⟨-, hsame⟩ | ⟨-, hposts⟩ := txAudio_cases request lease p
    · rw [hsame]
      exact .refl p
    · obtain ⟨bytes, -, hq⟩ := hposts.result
      rw [hq]
      refine TxPlane.noNewLease_withNetwork ?_ ?_
      · unfold posted
        split
        · rfl
        · rfl
      · unfold posted
        split
        · rfl
        · rfl
  · exact .refl p

section Worlds

variable {α : Type} {f : ApiWorld ρ → α} (hkeeps : cb.Keeps f)
include hkeeps

/-- The operations on a session leave the world to the callbacks. -/
theorem txLeaseRoute_world (hp : p.Coherent) (lease : UInt64) :
    f (txLeaseRoute cb request radio lease p).2.world = f p.world := by
  have hpath : p.Reaches cb (fun w w' => f w' = f w)
      (fun _ => True) (txLeaseRoute cb request radio lease p).2 := by
    obtain ⟨-, h⟩ | ⟨-, ⟨-, hopens⟩ | ⟨-, -, hposts⟩⟩ :=
      txLeaseRoute_cases hp lease
    · exact TxPlane.Reaches.mono (fun _ _ => trivial) h
    · exact TxPlane.Reaches.mono (fun _ _ => trivial) hopens.path
    · exact TxPlane.Reaches.mono (fun _ _ => trivial) hposts.path
  exact hpath.world_eq hkeeps

/-- So do those of the carrier. -/
theorem tune_world (hp : p.Coherent) (nowMs lease : UInt64) :
    f (TuneControl.start cb nowMs lease p).2.world = f p.world
      ∧ f (TuneControl.keepalive cb nowMs lease p).2.world = f p.world
      ∧ f (TuneControl.stop cb lease p).2.world = f p.world := by
  have hstop : p.ReachesPassively cb (fun w w' => f w' = f w)
      (TuneControl.stop cb lease p).2 := TuneControl.stop_path hp lease
  exact ⟨(TuneControl.start_path hp nowMs lease).world_eq hkeeps,
    (TuneControl.keepalive_path hp nowMs lease).world_eq hkeeps,
    TxPlane.Reaches.world_eq hkeeps hstop⟩

end Worlds

/-- A lease drawn for the carrier is no matter of coherence. -/
theorem coherent_tuneIssued (hp : p.Coherent) : p.tuneIssued.Coherent :=
  hp.congr hp.settled (Or.inl ⟨rfl, rfl⟩) rfl rfl

end Api

/-! ## What a request puts in force -/

/-- Renewing the station leaves it held as it is. -/
theorem StationOwner.keepalive_held (lease nowMs : UInt64)
    (owner : StationOwner) :
    (owner.keepalive lease nowMs).2.held = owner.held
      ∧ (owner.keepalive lease nowMs).2.lease = owner.lease := by
  unfold keepalive
  split
  · exact ⟨rfl, rfl⟩
  · exact ⟨rfl, rfl⟩

/-- Letting the station go leaves it as it is, or to nobody. -/
theorem StationOwner.release_held (lease : UInt64) (owner : StationOwner) :
    (owner.release lease).2 = owner
      ∨ (owner.release lease).2.held = false := by
  unfold release
  split
  · exact Or.inl rfl
  · exact Or.inr rfl

/-- Taking the station leaves it as it is, or puts the lease in force. -/
theorem StationOwner.acquireWithMode_held (lease nowMs : UInt64)
    (modeAware : Bool) (owner : StationOwner) :
    (owner.acquireWithMode lease nowMs modeAware).2 = owner
      ∨ (owner.acquireWithMode lease nowMs modeAware).2.held = true
        ∧ (owner.acquireWithMode lease nowMs modeAware).2.lease = lease := by
  unfold acquireWithMode
  split
  · exact Or.inl rfl
  split
  · exact Or.inl rfl
  · exact Or.inr ⟨rfl, rfl⟩

/-- Reserving a session leaves it as it is, or puts the lease in force. -/
theorem NetworkTx.acquire_reserved (profile : NetworkTxProfile)
    (lease nowMs : UInt64) (p : TxPlane ρ) :
    (acquire profile lease nowMs p).2 = p
      ∨ (acquire profile lease nowMs p).2
          = p.withNetwork (·.acquired profile lease nowMs) := by
  unfold acquire
  split
  · exact Or.inl rfl
  split
  · exact Or.inl rfl
  split
  · exact Or.inl rfl
  · exact Or.inr rfl

namespace Api

variable {cb : TxCallbacks (TxContext (ApiWorld ρ))} {request : CText}
variable {radio : RadioInfo} {p q : TxPlane (ApiWorld ρ)}

section Outcomes

variable (hcb : cb.Framed)
variable (hkeeps : cb.Keeps fun w : ApiWorld ρ => (w.api, w.station))
variable (hp : p.Coherent)

/-- What puts no lease in force and leaves the API controller and the
station alone is a turn of every kind. -/
theorem turns_of_world {f : TxDiagnostics → TxDiagnostics}
    (hno : p.NoNewLease q)
    (hworld : (q.world.api, q.world.station)
      = (p.world.api, p.world.station)) (kind : LeaseKind) :
    kind.Turns p (q.withDiagnostics f) := by
  obtain ⟨hapi, hstation⟩ := Prod.mk.inj hworld
  have hkeeps : kind.Keeps p q := by
    refine hno.keeps ?_ ?_ kind
    · rw [hapi]
      exact .refl _
    · rw [hstation]
      exact fun h => ⟨h, rfl⟩
  have htally : kind.Keeps q (q.withDiagnostics f) := by
    cases kind with
    | _ => exact ⟨rfl, fun _ h => h⟩
  exact (hkeeps.trans htally).turns

include hcb hkeeps hp in
/-- **Every outcome is a turn** of each kind of lease. -/
theorem Outcome.turns (h : Outcome cb request radio p q) (kind : LeaseKind) :
    kind.Turns p q := by
  cases h with
  | untouched h =>
    obtain ⟨d, htune⟩ := h.tune
    have hno : p.NoNewLease q := by
      refine ⟨fun ha => ?_, fun hr => ?_⟩
      · rw [htune] at ha ⊢
        exact ⟨ha, rfl⟩
      · rw [h.network] at hr ⊢
        exact ⟨hr, rfl⟩
    refine (hno.keeps h.leases ?_ kind).turns
    rw [h.station]
    exact fun hh => ⟨hh, rfl⟩
  -- the one outcome that draws a lease of the station
  | acquired modeAware _ _ =>
    cases kind with
    | station =>
      refine LeaseKind.turns_of_draw rfl fun lease hl => ?_
      obtain ⟨hheld, hlease⟩ := LeaseKind.mem_live_station.mp hl
      obtain hsame | ⟨-, hissued⟩ := StationOwner.acquireWithMode_held
        (issueLease p.world.api.nextStationLease).1 p.world.api.requestNowMs
        modeAware p.world.station
      · exact Or.inl (LeaseKind.mem_live_station.mpr
          ⟨(congrArg StationOwner.held hsame).symm.trans hheld,
            (congrArg StationOwner.lease hsame).symm.trans hlease⟩)
      · exact Or.inr (hlease.symm.trans hissued)
    | tune => exact LeaseKind.Keeps.turns ⟨rfl, fun _ h => h⟩
    | session => exact LeaseKind.Keeps.turns ⟨rfl, fun _ h => h⟩
  | renewed _ _ =>
    obtain ⟨hheld, hlease⟩ := StationOwner.keepalive_held
      (presentedLease request) p.world.api.requestNowMs p.world.station
    exact (TxPlane.NoNewLease.keeps (p := p) (q := p.withStation
      (p.world.station.keepalive (presentedLease request)
        p.world.api.requestNowMs).2)
      ⟨fun h => ⟨h, rfl⟩, fun h => ⟨h, rfl⟩⟩ (.refl _)
      (fun hh => ⟨hheld.symm.trans hh, hlease⟩) kind).turns
  | released _ _ _ =>
    refine (TxPlane.NoNewLease.keeps (p := p) (q := p.withStation
      (p.world.station.release (presentedLease request)).2)
      ⟨fun h => ⟨h, rfl⟩, fun h => ⟨h, rfl⟩⟩ (.refl _)
      (fun hh => ?_) kind).turns
    have hh : (p.world.station.release (presentedLease request)).2.held
        = true := hh
    obtain hsame | hfree :=
      StationOwner.release_held (presentedLease request) p.world.station
    · exact ⟨hsame ▸ hh, congrArg StationOwner.lease hsame⟩
    · rw [hfree] at hh
      exact absurd hh (by decide)
  -- a lease is drawn for the session whether or not it is granted
  | reserved profile f _ =>
    obtain hsame | hacquired := NetworkTx.acquire_reserved profile
      (issueLease p.world.api.nextTxLease).1 p.world.api.requestNowMs
      p.sessionIssued
    · rw [hsame]
      cases kind with
      | session => exact LeaseKind.turns_of_draw rfl fun _ h => Or.inl h
      | _ => exact LeaseKind.Keeps.turns ⟨rfl, fun _ h => h⟩
    · rw [hacquired]
      cases kind with
      | session =>
        refine LeaseKind.turns_of_draw rfl fun lease hl => Or.inr ?_
        exact (LeaseKind.mem_live_session.mp hl).2.symm
      | _ => exact LeaseKind.Keeps.turns ⟨rfl, fun _ h => h⟩
  | session f _ _ _ =>
    exact turns_of_world (txLeaseRoute_noNewLease hcb hp _)
      (txLeaseRoute_world hkeeps hp _) kind
  -- and for the carrier, whether or not it starts
  | tuned _ =>
    obtain ⟨hapi, hstation⟩ := Prod.mk.inj (tune_world hkeeps
      (coherent_tuneIssued hp) p.world.api.requestNowMs
      (issueLease p.world.api.nextTuneLease).1).1
    obtain ⟨htune, hnetwork⟩ := TuneControl.tune_start hcb
      p.world.api.requestNowMs (issueLease p.world.api.nextTuneLease).1
      p.tuneIssued
    cases kind with
    | station =>
      refine LeaseKind.Keeps.turns ⟨by
        rw [LeaseKind.next, hapi]; rfl, fun lease hl => ?_⟩
      rw [LeaseKind.mem_live_station, hstation] at hl
      exact LeaseKind.mem_live_station.mpr hl
    | tune =>
      refine LeaseKind.turns_of_draw (by
        rw [LeaseKind.next, hapi]; rfl) fun lease hl => ?_
      obtain ⟨hactive, rfl⟩ := LeaseKind.mem_live_tune.mp hl
      obtain ⟨hbefore, hsame⟩ | hissued := htune hactive
      · exact Or.inl (LeaseKind.mem_live_tune.mpr ⟨hbefore, hsame.symm⟩)
      · exact Or.inr hissued
    | session =>
      refine LeaseKind.Keeps.turns ⟨by
        rw [LeaseKind.next, hapi]; rfl, fun lease hl => ?_⟩
      rw [LeaseKind.mem_live_session, hnetwork] at hl
      exact LeaseKind.mem_live_session.mpr hl
  | tuneRenewed lease _ =>
    exact turns_of_world (f := id) (TuneControl.noNewLease_keepalive hcb hp
      p.world.api.requestNowMs lease)
      (tune_world hkeeps hp p.world.api.requestNowMs lease).2.1 kind
  | tuneStopped lease _ =>
    have hstop : p.ReachesPassively cb (fun _ _ => True)
        (TuneControl.stop cb lease p).2 := TuneControl.stop_path hp lease
    have hno : p.NoNewLease (TuneControl.stop cb lease p).2 :=
      hstop.noNewLease hcb
    exact turns_of_world (f := id) hno
      (tune_world hkeeps hp p.world.api.requestNowMs lease).2.2 kind
  | timed _ _ =>
    cases kind with
    | _ => exact LeaseKind.Keeps.turns ⟨rfl, fun _ h => h⟩

include hkeeps hp in
/-- **Which records are attached**, and with the operations on the carrier
and on a session the whole station, is no matter of a request. Those on the
station need it attached and leave the transmitter alone, and while somebody
transmits they do not let it go. Where it is not attached, no lease of it is
drawn. -/
theorem Outcome.station (h : Outcome cb request radio p q) :
    (q.world.api.stationAttached = p.world.api.stationAttached
        ∧ q.world.api.tuneAttached = p.world.api.tuneAttached
        ∧ q.world.api.networkAttached = p.world.api.networkAttached
        ∧ (p.world.api.stationAttached = false →
          q.world.api.nextStationLease = p.world.api.nextStationLease))
      ∧ (q.world.station = p.world.station
        ∨ p.world.api.stationAttached = true
          ∧ q.tx = p.tx ∧ q.world.radio = p.world.radio
          ∧ (p.world.api.transmitterActive p.tx = true →
            p.world.station.held = true → q.world.station.held = true)) := by
  have hsame {p' q' : TxPlane (ApiWorld ρ)}
      (hworld : (q'.world.api, q'.world.station)
        = (p'.world.api, p'.world.station)) :
      (q'.world.api.stationAttached = p'.world.api.stationAttached
          ∧ q'.world.api.tuneAttached = p'.world.api.tuneAttached
          ∧ q'.world.api.networkAttached = p'.world.api.networkAttached
          ∧ (p'.world.api.stationAttached = false →
            q'.world.api.nextStationLease = p'.world.api.nextStationLease))
        ∧ q'.world.station = p'.world.station := by
    obtain ⟨hapi, hstation⟩ := Prod.mk.inj hworld
    rw [hapi]
    exact ⟨⟨rfl, rfl, rfl, fun _ => rfl⟩, hstation⟩
  cases h with
  | untouched h =>
    exact ⟨⟨h.leases.stationAttached, h.leases.tuneAttached,
      h.leases.networkAttached, fun _ => h.leases.station⟩,
      Or.inl h.station⟩
  | acquired modeAware _ hattached =>
    refine ⟨⟨rfl, rfl, rfl, fun hno => ?_⟩,
      Or.inr ⟨hattached, rfl, rfl, fun _ hheld => ?_⟩⟩
    · rw [hattached] at hno
      exact absurd hno (by decide)
    show (p.world.station.acquireWithMode _ _ _).2.held = true
    rw [StationOwner.acquireWithMode_of_held hheld]
    exact hheld
  | renewed _ hattached =>
    exact ⟨⟨rfl, rfl, rfl, fun _ => rfl⟩,
      Or.inr ⟨hattached, rfl, rfl, fun _ hheld =>
      (StationOwner.keepalive_held _ _ _).1.trans hheld⟩⟩
  | released _ hattached hidle =>
    refine ⟨⟨rfl, rfl, rfl, fun _ => rfl⟩,
      Or.inr ⟨hattached, rfl, rfl, fun hactive => ?_⟩⟩
    rw [hactive] at hidle
    exact absurd hidle (by decide)
  | reserved profile f _ =>
    obtain hsame | hacquired := NetworkTx.acquire_reserved profile
      (issueLease p.world.api.nextTxLease).1 p.world.api.requestNowMs
      p.sessionIssued
    · rw [hsame]
      exact ⟨⟨rfl, rfl, rfl, fun _ => rfl⟩, Or.inl rfl⟩
    · rw [hacquired]
      exact ⟨⟨rfl, rfl, rfl, fun _ => rfl⟩, Or.inl rfl⟩
  | session f _ _ _ =>
    obtain ⟨hattached, hstation⟩ :=
      hsame (txLeaseRoute_world hkeeps hp _)
    exact ⟨hattached, Or.inl hstation⟩
  | tuned _ =>
    obtain ⟨hattached, hstation⟩ := hsame (tune_world hkeeps
      (coherent_tuneIssued hp) p.world.api.requestNowMs
      (issueLease p.world.api.nextTuneLease).1).1
    exact ⟨hattached, Or.inl hstation⟩
  | tuneRenewed lease _ =>
    obtain ⟨hattached, hstation⟩ :=
      hsame (tune_world hkeeps hp p.world.api.requestNowMs lease).2.1
    exact ⟨hattached, Or.inl hstation⟩
  | tuneStopped lease _ =>
    obtain ⟨hattached, hstation⟩ :=
      hsame (tune_world hkeeps hp p.world.api.requestNowMs lease).2.2
    exact ⟨hattached, Or.inl hstation⟩
  | timed _ _ => exact ⟨⟨rfl, rfl, rfl, fun _ => rfl⟩, Or.inl rfl⟩

end Outcomes

end Api
