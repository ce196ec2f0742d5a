import Flex1500.ApiLeases
import Flex1500.DaemonBlocks

/-!
# The station has the last word

Where the receiver can be tuned there is a station to hold, and the carrier
and a session transmit on its account. Nothing in either record says so. The
dispatcher lets nobody start a transmission without the station and nobody
let the station go during one, and the loop stops what is left when the
station expires; between them no such transmission outlives the station.

That is proved over blocks in any order. Every block but two leaves the
station alone and gives the transmitter to the microphone at most.
-/

namespace Daemon

variable {config : DaemonConfig} {d : Daemon} {input : LoopInput}

/-! ## What is attached -/

/-- **What is attached** stays so: the station where the receiver can be
tuned, and the rest where there is a transmitter. -/
structure Attached (config : DaemonConfig) (d : Daemon) : Prop where
  station : d.plane.world.api.stationAttached = config.rxTuningEnabled
  tune : d.plane.world.api.tuneAttached = config.transmitEnabled
  network : d.plane.world.api.networkAttached = config.transmitEnabled
  enabled : d.plane.tx.enabled = config.transmitEnabled

theorem attached_boot (config : DaemonConfig) (answers : ℕ → UsbAnswer) :
    (boot config answers).Attached config := by
  obtain ⟨receiver, running, hboot⟩ := boot_eq_initial config answers
  rw [hboot]
  refine ⟨rfl, rfl, rfl, ?_⟩
  show (TxControl.armPhysicalPtt _).enabled = _
  unfold TxControl.armPhysicalPtt
  split
  · rfl
  · rfl

variable (input) in
/-- The controller is enabled for good, or never. -/
theorem enabled_perform (hd : d.plane.Coherent)
    (henabled : d.plane.tx.enabled = config.transmitEnabled)
    (block : LoopBlock) :
    (d.perform config block input).plane.tx.enabled
      = config.transmitEnabled := by
  have hcb := framed_daemonCallbacks config.carriesDc
  have htends := ApiWorld.loops_true.toTends
  have hpassive {e e' : Daemon} {P : TxMove → Prop}
      (h : e.Reaches config.carriesDc (fun _ _ => True) P e')
      (hP : ∀ m, P m → m ≠ .restart) :
      e'.plane.tx.enabled = e.plane.tx.enabled := h.enabled hcb hP
  by_cases hrecover : block = .recover
  · rw [hrecover]
    have hreopened := hpassive (reopened_path config htends hd
      input.recoveryAttempts) (fun m hm h => by rw [h] at hm; exact hm)
    show (d.recover config input.recoveryAttempts).plane.tx.enabled = _
    rw [recover_eq]
    split
    · show (TxControl.armPhysicalPtt _).enabled = _
      unfold TxControl.armPhysicalPtt
      split
      · rfl
      · rfl
    · exact ((hpassive (exit_path htends) (fun m hm h => by
        rw [h] at hm; exact hm)).trans hreopened).trans henabled
  · refine (hpassive (perform_path config input ApiWorld.loops_true hd block)
      fun m hm h => ?_).trans henabled
    rw [h] at hm
    cases block with
    | recover => exact hrecover rfl
    | http => exact hm.elim id id
    | stream => exact hm.elim id id
    | _ => exact hm

variable (input) in
/-- **No block attaches a record**, or detaches one. -/
theorem attached_perform (hd : d.plane.Coherent) (h : d.Attached config)
    (block : LoopBlock) :
    (d.perform config block input).Attached config := by
  have henabled := enabled_perform input hd h.enabled block
  obtain ⟨hapi, -⟩ | ⟨buffer, hapi, -⟩ :=
    perform_world config input hd block
  · exact ⟨by rw [hapi, h.station], by rw [hapi, h.tune],
      by rw [hapi, h.network], henabled⟩
  · obtain ⟨⟨hstation, htune, hnetwork, -⟩, -⟩ :=
      (answered_outcome config input buffer d).station
        (keeps_daemonCallbacks config.carriesDc) (coherent_asked hd)
    refine ⟨?_, ?_, ?_, henabled⟩
    · rw [hapi, hstation]
      exact h.station
    · rw [hapi, htune]
      exact h.tune
    · rw [hapi, hnetwork]
      exact h.network

/-! ## Nobody left -/

end Daemon

/-- Owners that transmit on the station's account. -/
def TxOwner.Stationed (owner : TxOwner) : Prop :=
  owner = .tune ∨ owner = .http

theorem TxOwner.Stationed.ne_none {owner : TxOwner} (h : owner.Stationed) :
    owner ≠ .none := by
  obtain rfl | rfl := h
  · decide
  · decide

theorem TxOwner.Stationed.ne_physicalMic {owner : TxOwner}
    (h : owner.Stationed) : owner ≠ .physicalMic := by
  obtain rfl | rfl := h
  · decide
  · decide

section Vacant

variable {ρ : Type} {cb : TxCallbacks (TxContext ρ)} {p : TxPlane ρ}

/-- Without a tune lease and without a session the transmitter is free, or
the microphone's. -/
theorem TxPlane.Coherent.owner_of_vacant (hp : p.Coherent)
    (htune : p.tune.active = false) (hsession : p.network.reserved = false) :
    p.tx.owner = .none ∨ p.tx.owner = .physicalMic := by
  have hkeyed := (hp.sound.vacant hsession).2.1
  cases howner : p.tx.owner with
  | none => exact Or.inl rfl
  | tune =>
    rw [hp.tune_active howner] at htune
    exact absurd htune (by decide)
  | physicalMic => exact Or.inr rfl
  | http =>
    rw [hp.http_keyed howner] at hkeyed
    exact absurd hkeyed (by decide)
  | soapy => exact absurd howner hp.not_soapy

variable (cb) in
/-- A shutdown of the carrier ends its lease. -/
theorem TuneControl.inactive_shutdown (p : TxPlane ρ) :
    (TuneControl.shutdown cb p).tune.active = false := by
  unfold TuneControl.shutdown
  split
  · rename_i hactive
    unfold stopActive
    rw [if_neg (by simp [hactive])]
    rfl
  · rename_i hactive
    exact Bool.eq_false_iff.mpr hactive

/-- A session let go under its own lease is gone. -/
theorem NetworkTx.vacant_release (hp : p.Coherent)
    (hreserved : p.network.reserved = true) :
    (NetworkTx.release cb p.network.lease p).2.network.reserved = false := by
  have howns : p.network.owns p.network.lease = true :=
    NetworkTx.owns_iff.mpr
      ⟨hreserved, (hp.sound.reserved hreserved).1, rfl⟩
  unfold NetworkTx.release
  rw [if_neg (by simp [howns])]
  rfl

end Vacant

/-- A tick of the station ends it or leaves it as it is. -/
theorem StationOwner.tick_cases (nowMs : UInt64) (owner : StationOwner) :
    (owner.tick nowMs).1 = .expired ∧ owner.held = true
        ∧ (owner.tick nowMs).2 = .init
      ∨ (owner.tick nowMs).1 ≠ .expired
        ∧ (owner.tick nowMs).2 = owner := by
  unfold tick
  split
  · exact Or.inr ⟨by simp, rfl⟩
  rename_i hheld
  split
  · exact Or.inr ⟨by simp, rfl⟩
  · exact Or.inl ⟨rfl, by simpa using hheld, rfl⟩

namespace Daemon

variable {config : DaemonConfig} {d : Daemon} {input : LoopInput}

variable (config) in
/-- **An expiry of the station** leaves nobody but the microphone. -/
theorem owner_of_expired (hd : d.plane.Coherent) {nowMs : UInt64}
    (hexpired : (d.plane.world.station.tick nowMs).1 = .expired) :
    (d.stationTick config nowMs).plane.tx.owner = .none
      ∨ (d.stationTick config nowMs).plane.tx.owner = .physicalMic := by
  have hcb := framed_daemonCallbacks config.carriesDc
  have hafter : (d.stationTick config nowMs).plane.Coherent :=
    coherent_of_reaches hd (stationTick_path config
      ApiWorld.loops_true.toServes hd nowMs)
  have hticked := hd.congr (q := d.plane.withStation
    (d.plane.world.station.tick nowMs).2) hd.settled (Or.inl ⟨rfl, rfl⟩) rfl rfl
  have hcoherent := hticked.reaches hcb
    (TuneControl.shutdown_path (W := fun _ _ => True) hticked)
  have hinactive := TuneControl.inactive_shutdown
    (daemonCallbacks config.carriesDc)
    (d.plane.withStation (d.plane.world.station.tick nowMs).2)
  refine hafter.owner_of_vacant ?_ ?_
  · unfold stationTick
    dsimp only
    rw [if_pos hexpired]
    dsimp only [withPlane]
    split
    · refine Bool.eq_false_iff.mpr fun hactive => ?_
      have hbefore := ((TxPlane.ReachesPassively.noNewLease
        (W := fun _ _ => True) hcb
        (NetworkTx.release_path hcoherent _)).tune hactive).1
      rw [hinactive] at hbefore
      exact absurd hbefore (by decide)
    · exact hinactive
  · unfold stationTick
    dsimp only
    rw [if_pos hexpired]
    dsimp only [withPlane]
    split
    · rename_i hreserved
      exact NetworkTx.vacant_release hcoherent hreserved
    · rename_i hreserved
      exact Bool.eq_false_iff.mpr hreserved

/-- So the tick keeps the carrier and a session on a station that is
held. -/
theorem held_stationTick (hd : d.plane.Coherent)
    (hheld : d.plane.tx.owner.Stationed → d.plane.world.station.held = true)
    {nowMs : UInt64}
    (howner : (d.stationTick config nowMs).plane.tx.owner.Stationed) :
    (d.stationTick config nowMs).plane.world.station.held = true := by
  obtain ⟨hexpired, -, -⟩ | ⟨-, hkept⟩ :=
    StationOwner.tick_cases nowMs d.plane.world.station
  · exact (owner_of_expired config hd hexpired).elim
      (fun h => absurd h howner.ne_none)
      (fun h => absurd h howner.ne_physicalMic)
  rw [(stationTick_world config hd nowMs).2, hkept]
  obtain hnone | hsame | ⟨_, hgranted⟩ := (stationTick_path config
    ApiWorld.loops_true.toServes hd nowMs).owner
      (framed_daemonCallbacks config.carriesDc)
  · exact absurd hnone howner.ne_none
  · exact hheld (hsame ▸ howner)
  · exact hgranted.elim

/-! ## Who starts -/

/-- Starts that are called from one state to another. -/
def startsSince (d e : Daemon) : List TxOwner :=
  e.tx.starts.drop d.tx.starts.length

/-- A block that is no request starts the microphone at most. -/
theorem startsSince_of_not_request (hd : d.plane.Coherent)
    {block : LoopBlock} (hrequest : block ≠ .http) {owner : TxOwner}
    (hstart : owner ∈ d.startsSince (d.perform config block input)) :
    owner = .physicalMic := by
  obtain ⟨owners, hstarts, howners⟩ :=
    (perform_path config input ApiWorld.loops_starts hd block).starts
  have hmem : owner ∈ owners := by
    rw [startsSince, tx, tx, hstarts, List.drop_left] at hstart
    exact hstart
  obtain hrefused | ⟨nowMs, hgranted⟩ := howners owner hmem
  · cases block with
    | recover => exact hrefused.elim False.elim (fun h => nomatch h)
    | switches => exact hrefused
    | http => exact absurd rfl hrequest
    | stream => exact hrefused.elim False.elim False.elim
    | _ => exact hrefused.elim
  · cases block with
    | recover => exact hgranted.elim False.elim (fun h => nomatch h)
    | switches => exact hgranted.2.2
    | http => exact absurd rfl hrequest
    | stream => exact hgranted.elim False.elim False.elim
    | _ => exact hgranted.elim

/-- Nor does it make anybody else the owner. -/
theorem owner_of_not_request (hd : d.plane.Coherent)
    {block : LoopBlock} (hrequest : block ≠ .http)
    (hchanged : (d.perform config block input).plane.tx.owner
      ≠ d.plane.tx.owner) :
    ¬ (d.perform config block input).plane.tx.owner.Stationed := by
  obtain hnone | hsame | ⟨nowMs, hgranted⟩ :=
    (perform_path config input ApiWorld.loops_true hd block).owner
      (framed_daemonCallbacks config.carriesDc)
  · exact fun h => h.ne_none hnone
  · exact absurd hsame hchanged
  · have hmic : (d.perform config block input).plane.tx.owner
        = .physicalMic := by
      cases block with
      | recover => exact hgranted.elim False.elim (fun h => nomatch h)
      | switches => exact hgranted.2.2
      | http => exact absurd rfl hrequest
      | stream => exact hgranted.elim False.elim False.elim
      | _ => exact hgranted.elim
    exact fun h => h.ne_physicalMic hmic

/-! ## The law -/

/-- Without authority a request starts nobody, and the owner stays. -/
theorem starts_of_unauthorised (buffer : List UInt8)
    (hno : (d.asked input).world.api.stationRequestAuthorized
      (d.asked input).world.station (CText.ofBuffer buffer) = false) :
    (d.answered config input buffer).2.tx = d.plane.tx
      ∧ (d.answered config input buffer).2.world.radio
        = d.plane.world.radio := by
  obtain ⟨reply, q, hinert, hdispatch⟩ := Api.dispatch_of_unauthorized hno
    { frequencyHz := d.tx.receiver.frequencyHz.map (·.1) } responseCapacity
    input.pages
  unfold answered
  rw [hdispatch]
  exact ⟨hinert.tx, hinert.radio⟩

/-- A request that is let in finds the station held. -/
theorem held_of_authorised (hattached : d.Attached config)
    (htuning : config.rxTuningEnabled = true) {buffer : List UInt8}
    (hauthorised : (d.asked input).world.api.stationRequestAuthorized
      (d.asked input).world.station (CText.ofBuffer buffer) = true) :
    d.plane.world.station.held = true := by
  have hstation : d.plane.world.api.stationAttached = true :=
    hattached.station.trans htuning
  unfold ApiController.stationRequestAuthorized at hauthorised
  by_contra hfree
  have hfree : (d.asked input).world.station.held = false :=
    Bool.eq_false_iff.mpr hfree
  have hthere : (d.asked input).world.api.stationAttached = true := hstation
  rw [hthere, hfree, if_neg (by decide), if_pos (by decide)] at hauthorised
  exact absurd hauthorised (by decide)

variable (config input) in
/-- Behind the dispatcher a request starts nobody, and makes nobody the
owner. -/
theorem request_rest (buffer : List UInt8) :
    (d.request config input buffer).tx.starts
        = (d.answered config input buffer).2.world.radio.starts
      ∧ ((d.request config input buffer).plane.tx.owner = .none
        ∨ (d.request config input buffer).plane.tx.owner
          = (d.answered config input buffer).2.tx.owner) := by
  obtain ⟨owners, hstarts, howners⟩ :=
    (request_rest_path config input
      ApiWorld.loops_starts.toTends (d := d) buffer).starts
  have hnil : owners = [] := by
    refine List.eq_nil_iff_forall_not_mem.mpr fun owner hmem => ?_
    exact (howners owner hmem).elim id (·.elim fun _ h => h)
  rw [hnil, List.append_nil] at hstarts
  obtain hnone | hsame | ⟨nowMs, hgranted⟩ :=
    (request_rest_path config input
      ApiWorld.loops_true.toTends (d := d) buffer).owner
      (framed_daemonCallbacks config.carriesDc)
  · exact ⟨hstarts, Or.inl hnone⟩
  · exact ⟨hstarts, Or.inr hsame⟩
  · exact hgranted.elim

section Law

variable (hd : d.plane.Coherent) (hattached : d.Attached config)
variable (htuning : config.rxTuningEnabled = true)
include hd hattached htuning

variable (input) in
/-- **A request** that starts somebody, or makes somebody the owner, finds
the station held and leaves it alone; and it lets nobody's station go. -/
theorem request_station (buffer : List UInt8) :
    let q := (d.answered config input buffer).2
    (d.plane.world.station.held = true
        ∧ q.world.station = d.plane.world.station)
      ∨ (q.tx = d.plane.tx ∧ q.world.radio = d.plane.world.radio)
        ∧ (d.plane.tx.owner ≠ .none → d.plane.world.station.held = true →
          q.world.station.held = true) := by
  intro q
  obtain ⟨-, hstation⟩ := (answered_outcome config input buffer d).station
    (keeps_daemonCallbacks config.carriesDc) (coherent_asked hd)
  have hactive (howned : d.plane.tx.owner ≠ .none) :
      (d.asked input).world.api.transmitterActive (d.asked input).tx
        = true := by
    have htune : (d.asked input).world.api.tuneAttached = true :=
      hattached.tune.trans
        (hattached.enabled.symm.trans (hd.enabled howned))
    have howned' : (d.asked input).tx.owner ≠ .none := howned
    rw [ApiController.transmitterActive, htune]
    simpa using howned'
  by_cases hauthorised : (d.asked input).world.api.stationRequestAuthorized
      (d.asked input).world.station (CText.ofBuffer buffer) = true
  · have hheld := held_of_authorised hattached htuning hauthorised
    obtain hsame | ⟨-, htx, hradio, hkept⟩ := hstation
    · exact Or.inl ⟨hheld, hsame⟩
    · exact Or.inr ⟨⟨htx, hradio⟩, fun howned => hkept (hactive howned)⟩
  · refine Or.inr ⟨starts_of_unauthorised buffer
      (by simpa using hauthorised), fun howned hheld => ?_⟩
    obtain hsame | ⟨-, -, -, hkept⟩ := hstation
    · exact (congrArg StationOwner.held hsame).trans hheld
    · exact hkept (hactive howned) hheld

/-- **The station is held** while the carrier or a session transmits: what a
block does to either. -/
theorem station_perform (block : LoopBlock)
    (hheld : d.plane.tx.owner.Stationed → d.plane.world.station.held = true) :
    let e := d.perform config block input
    (e.plane.tx.owner.Stationed → e.plane.world.station.held = true)
      ∧ ((∃ owner ∈ d.startsSince e, owner.Stationed)
            ∨ e.plane.tx.owner.Stationed
              ∧ e.plane.tx.owner ≠ d.plane.tx.owner →
          d.plane.world.station.held = true
            ∧ e.plane.world.station = d.plane.world.station) := by
  intro e
  -- nothing but a request starts the carrier or a session
  have hother (hrequest : block ≠ .http) :
      ¬ ((∃ owner ∈ d.startsSince e, owner.Stationed)
        ∨ e.plane.tx.owner.Stationed
          ∧ e.plane.tx.owner ≠ d.plane.tx.owner) := by
    rintro (⟨owner, hstart, howner⟩ | ⟨howner, hchanged⟩)
    · exact howner.ne_physicalMic
        (startsSince_of_not_request hd hrequest hstart)
    · exact owner_of_not_request hd hrequest hchanged howner
  have hstays (hrequest : block ≠ .http) (howner : e.plane.tx.owner.Stationed) :
      e.plane.tx.owner = d.plane.tx.owner := by
    by_contra hchanged
    exact hother hrequest (Or.inr ⟨howner, hchanged⟩)
  -- where the station expires, whoever transmits under it is stopped
  by_cases hexpiry : block = .stationTick
  · refine ⟨fun howner => ?_, fun h => absurd h (hother (by simp [hexpiry]))⟩
    have he : e = d.stationTick config input.stationMs := by
      show d.perform config block input = _
      rw [hexpiry]
      rfl
    rw [he] at howner ⊢
    exact held_stationTick hd hheld howner
  by_cases hrequest : block = .http
  swap
  · refine ⟨fun howner => ?_, fun h => absurd h (hother hrequest)⟩
    rw [(turn_world config input hd hexpiry hrequest).2]
    exact hheld (hstays hrequest howner ▸ howner)
  have hplane : e.plane = (d.http config input).plane := by
    show (d.perform config block input).plane = _
    rw [hrequest]
    rfl
  rw [http_plane] at hplane
  have hquiet (hstarts : e.tx.starts = d.tx.starts)
      (howner : e.plane.tx.owner = .none
        ∨ e.plane.tx.owner = d.plane.tx.owner) :
      ¬ ((∃ owner ∈ d.startsSince e, owner.Stationed)
        ∨ e.plane.tx.owner.Stationed
          ∧ e.plane.tx.owner ≠ d.plane.tx.owner) := by
    rintro (⟨owner, hstart, -⟩ | ⟨hstationed, hchanged⟩)
    · rw [startsSince, hstarts, List.drop_length] at hstart
      exact List.not_mem_nil hstart
    · exact howner.elim hstationed.ne_none hchanged
  -- the request is not complete yet, or it is dispatched
  cases hcompleted : d.completed input with
  | none =>
    rw [hcompleted] at hplane
    have hplane : e.plane = d.plane := hplane
    refine ⟨fun howner => ?_, fun h => absurd h (hquiet ?_ (Or.inr ?_))⟩
    · rw [hplane] at howner ⊢
      exact hheld howner
    · rw [tx, hplane]
      rfl
    · rw [hplane]
  | some buffer =>
    rw [hcompleted] at hplane
    have hplane : e.plane = (d.request config input buffer).plane := hplane
    obtain ⟨hstarts, howner⟩ := request_rest config input (d := d) buffer
    have hstation := (request_world config input (d := d) buffer).2
    rw [tx, ← hplane] at hstarts
    rw [← hplane] at howner hstation
    obtain ⟨hfound, hsame⟩ | ⟨⟨htx, hradio⟩, hkept⟩ :=
      request_station input hd hattached htuning buffer
    · refine ⟨fun _ => ?_, fun _ => ⟨hfound, hstation.trans hsame⟩⟩
      rw [hstation, hsame]
      exact hfound
    rw [htx] at howner
    rw [hradio] at hstarts
    refine ⟨fun hstationed => ?_, fun h => absurd h (hquiet hstarts howner)⟩
    obtain hnone | howner := howner
    · exact absurd hnone hstationed.ne_none
    rw [hstation]
    rw [howner] at hstationed
    exact hkept hstationed.ne_none (hheld hstationed)

/-- **The station is not let go** while anybody transmits. -/
theorem release_refused (howned : d.plane.tx.owner ≠ .none)
    {buffer : List UInt8}
    (hrelease : Api.ownerRelease (CText.ofBuffer buffer) = true) :
    d.answered config input buffer
      = (transmitterActiveReply responseCapacity, d.asked input) := by
  have hacquire := Api.not_ownerAcquire (Or.inr hrelease)
  have hstation : (d.asked input).world.api.stationAttached = true :=
    hattached.station.trans htuning
  have htune : (d.asked input).world.api.tuneAttached = true :=
    hattached.tune.trans (hattached.enabled.symm.trans (hd.enabled howned))
  have hactive : (d.asked input).world.api.transmitterActive
      (d.asked input).tx = true := by
    have howned' : (d.asked input).tx.owner ≠ .none := howned
    rw [ApiController.transmitterActive, htune]
    simpa using howned'
  unfold answered Api.dispatch
  rw [if_pos (by simp [hrelease]), Api.ownerRoute,
    if_neg (by simp [hstation]), if_neg (by simp [hacquire]),
    if_pos (by simp [hrelease, hactive])]

end Law

/-- In every state a run can be in, what is attached is attached, and the
station is held while the carrier or a session transmits. -/
theorem station_after (htuning : config.rxTuningEnabled = true)
    (answers : ℕ → UsbAnswer) (blocks : List (LoopBlock × LoopInput)) :
    let d := (boot config answers).after config blocks
    d.plane.Coherent ∧ d.Attached config
      ∧ (d.plane.tx.owner.Stationed →
        d.plane.world.station.held = true) := by
  have hcoherent := coherent_boot config answers
  have hboot : (boot config answers).plane.tx.owner = .none := by
    obtain ⟨receiver, running, hboot⟩ := boot_eq_initial config answers
    rw [hboot]
    exact TxControl.owner_armed _ _
  refine after_invariant (fun d => d.plane.Coherent ∧ d.Attached config
    ∧ (d.plane.tx.owner.Stationed → d.plane.world.station.held = true))
    (fun d block input h => ?_) blocks
    ⟨hcoherent, attached_boot config answers,
      fun howner => absurd hboot howner.ne_none⟩
  obtain ⟨hd, hattached, hheld⟩ := h
  exact ⟨coherent_perform config block input hd,
    attached_perform input hd hattached block,
    (station_perform hd hattached htuning block hheld).1⟩

/-- **The law of the station**, in one state. -/
structure StationLaw (config : DaemonConfig) (d : Daemon) : Prop where
  /-- Behind the tick the carrier and a session only transmit while the
  station is held. -/
  tick : ∀ nowMs, (d.stationTick config nowMs).plane.tx.owner.Stationed →
    (d.stationTick config nowMs).plane.world.station.held = true
  /-- An expiry leaves nobody but the microphone. -/
  expiry : ∀ nowMs, (d.plane.world.station.tick nowMs).1 = .expired →
    (d.stationTick config nowMs).plane.tx.owner = .none
      ∨ (d.stationTick config nowMs).plane.tx.owner = .physicalMic
  /-- While anybody transmits, the station is not let go. -/
  release : ∀ input buffer,
    Api.ownerRelease (CText.ofBuffer buffer) = true →
    d.plane.tx.owner ≠ .none →
    d.answered config input buffer
      = (transmitterActiveReply responseCapacity, d.asked input)
  /-- Whatever the next block is, it calls a start for the carrier or a
  session, or makes one the owner, only where the station is held, and then
  the station stays as it is. -/
  begins : ∀ block input,
    (∃ owner ∈ d.startsSince (d.perform config block input),
        owner.Stationed)
      ∨ (d.perform config block input).plane.tx.owner.Stationed
        ∧ (d.perform config block input).plane.tx.owner
          ≠ d.plane.tx.owner →
    d.plane.world.station.held = true
      ∧ (d.perform config block input).plane.world.station
        = d.plane.world.station

/-- **The station's authority.** Where the receiver can be tuned, the law of
the station holds after any blocks of the loop in any order, and so at every
point of every run. -/
theorem stationLaw (config : DaemonConfig) (answers : ℕ → UsbAnswer)
    (blocks : List (LoopBlock × LoopInput))
    (htuning : config.rxTuningEnabled = true) :
    StationLaw config ((boot config answers).after config blocks) := by
  obtain ⟨hd, hattached, hheld⟩ := station_after htuning answers blocks
  exact
    { tick := fun _ => held_stationTick hd hheld
      expiry := fun _ => owner_of_expired config hd
      release := fun _ _ hrelease howned =>
        release_refused hd hattached htuning howned hrelease
      begins := fun block _ =>
        (station_perform hd hattached htuning block hheld).2 }

/-- The law after a client took the station. -/
theorem stationLaw_taken :
    let config : DaemonConfig :=
      { rxTuningEnabled := true, testPageEnabled := true
        transmitEnabled := true, rtlTcpEnabled := true
        tuneLease := 1, txLease := 1, stationLease := 1
        carriesDc := fun _ => false }
    let input : LoopInput :=
      { stationMs := 0, tuneMs := 0, txMs := 0, networkMs := 0, pttMs := 0
        httpAccepted := true
        httpReceived := .data (CText.ofString
          "POST /v1/control/owner HTTP/1.1\r\n\r\n")
        requestMs := 0, dataMs := 0 }
    StationLaw config
      ((boot config fun _ => {}).after config [(.http, input)]) :=
  stationLaw _ _ _ rfl

end Daemon
