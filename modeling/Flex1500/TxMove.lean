import Flex1500.Lib.Path
import Flex1500.TxSession

/-!
# Ownership as a machine of its own

Seen from afar, the controller and the two sessions do only a handful of
things: an owner is stopped, a request is granted or refused, a session is
reserved, renewed, attached, fed, unkeyed or dropped, and a session whose
owner is gone is brought back into line. `TxMove` names these moves and
`TxStep` says what each does to the three records, with a guard that says
when it may happen.

The functions of `tx_control.c`, `tune_control.c` and `network_tx.c` are
paths of moves: one lemma for each of them says which. What holds of the
three records over a run is then proved move by move, and a function of the
source that changes costs one lemma.

The callbacks stay arbitrary, but for a frame: they leave the network
session alone, and of the tune record they touch the diagnostics at most.
The world beyond the records may change in between as a relation `W`
allows.
-/

variable {ρ : Type}

/-- A context with nothing changed but diagnostics and world. -/
structure TxContext.Framed (k k' : TxContext ρ) : Prop where
  network : k'.network = k.network
  tune : ∃ d, k'.tune = k.tune.tallied d

/-- **Framed callbacks** leave both sessions as they find them. -/
structure TxCallbacks.Framed (cb : TxCallbacks (TxContext ρ)) : Prop where
  start : ∀ owner control (k : TxContext ρ),
    k.Framed (cb.callStart owner control k).2
  stop : ∀ owner graceful control (k : TxContext ρ),
    k.Framed (cb.callStop owner graceful control k).2

theorem TxContext.Framed.refl (k : TxContext ρ) : k.Framed k :=
  ⟨rfl, k.tune.diagnostics, rfl⟩

theorem TxContext.Framed.trans {k₁ k₂ k₃ : TxContext ρ} (h : k₁.Framed k₂)
    (h' : k₂.Framed k₃) : k₁.Framed k₃ := by
  obtain ⟨hn, d, hd⟩ := h
  obtain ⟨hn', d', hd'⟩ := h'
  exact ⟨hn'.trans hn, d', by rw [hd', hd]; rfl⟩

/-- The moves of the three records, with the times they are made at. -/
inductive TxMove where
  | note | setTimeout | tally | world | restart
  | stop (graceful : Bool)
  | refuse (owner : TxOwner)
  | grant (owner : TxOwner) (nowMs : UInt64)
  | renewTune (nowMs : UInt64)
  | endTune
  | reserve (lease nowMs : UInt64)
  | renewNetwork (nowMs : UInt64)
  | attach | record (frames : ℕ)
  | unkey | drain | detach | clear
  deriving DecidableEq, Repr

/-- **Ready to key**: a session with a stream and its pre-roll. -/
structure NetworkTx.Ready (session : NetworkTx) : Prop where
  reserved : session.reserved = true
  streamConnected : session.streamConnected = true
  buffered : networkTxMinPrebufferFrames ≤ session.bufferedFrames

/-- The plane after a request that admits the owner, granted or not. -/
def TxPlane.requested (cb : TxCallbacks (TxContext ρ)) (owner : TxOwner)
    (nowMs : UInt64) (p : TxPlane ρ) : TxPlane ρ :=
  TxPlane.after (TxControl.request cb owner nowMs p.tx p.toTxContext).2

/-- The plane after its owner was stopped. -/
def TxPlane.unowned (cb : TxCallbacks (TxContext ρ)) (graceful : Bool)
    (p : TxPlane ρ) : TxPlane ρ :=
  TxPlane.after (TxControl.stopOwner cb graceful p.tx p.toTxContext).2

/-- The plane with its records initialised anew: the diagnostics and the
timeout are kept, and physical PTT is armed. -/
def TxPlane.restarted (enabled : Bool) (p : TxPlane ρ) : TxPlane ρ :=
  { p with
    tx := TxControl.armPhysicalPtt
      (.init enabled (UInt64.ofNat p.tx.timeoutSeconds * 1000))
    tune := (TuneControl.init enabled).tallied p.tune.diagnostics
    network := .init enabled }

/-- **What each move does**, and when it may be made. A request that admits
its owner reaches the start callback, so a refusal has the guards of a
grant. -/
inductive TxStep (cb : TxCallbacks (TxContext ρ)) (W : ρ → ρ → Prop) :
    TxMove → TxPlane ρ → TxPlane ρ → Prop where
  | note {p : TxPlane ρ} {tx : TxControl} (h : p.tx.Quiet tx) :
      TxStep cb W .note p { p with tx := tx }
  | setTimeout {p : TxPlane ρ} {seconds : ℕ} (h : p.tx.owner = .none)
      (hmin : txTimeoutMinSeconds ≤ seconds)
      (hmax : seconds ≤ txTimeoutMaxSeconds) :
      TxStep cb W .setTimeout p { p with
        tx := { p.tx with maximumKeyMs := UInt64.ofNat seconds * 1000 } }
  | tally (p : TxPlane ρ) (f : TxDiagnostics → TxDiagnostics) :
      TxStep cb W .tally p (p.withDiagnostics f)
  | world {p : TxPlane ρ} {w : ρ} (h : W p.world w) :
      TxStep cb W .world p (p.withWorld w)
  | restart {p : TxPlane ρ} {enabled : Bool} (h : p.tx.owner = .none) :
      TxStep cb W .restart p (p.restarted enabled)
  | stop {p : TxPlane ρ} {graceful : Bool} (h : p.tx.owner ≠ .none) :
      TxStep cb W (.stop graceful) p (p.unowned cb graceful)
  | refuse {p : TxPlane ρ} {owner : TxOwner} {nowMs : UInt64}
      (h : p.tx.Admits owner) (hs : owner ≠ .soapy)
      (hr : owner = .http → p.network.Ready)
      (hf : (cb.callStart owner p.tx.preparing p.toTxContext).1 ≠ 0) :
      TxStep cb W (.refuse owner) p (p.requested cb owner nowMs)
  | grantTune {p : TxPlane ρ} {lease nowMs : UInt64} (h : p.tx.Admits .tune)
      (hl : lease ≠ 0)
      (hf : (cb.callStart .tune p.tx.preparing p.toTxContext).1 = 0) :
      TxStep cb W (.grant .tune nowMs) p
        ((p.requested cb .tune nowMs).withTune (·.started nowMs lease))
  | grantMic {p : TxPlane ρ} {nowMs : UInt64} (h : p.tx.Admits .physicalMic)
      (hf : (cb.callStart .physicalMic p.tx.preparing p.toTxContext).1 = 0) :
      TxStep cb W (.grant .physicalMic nowMs) p
        (p.requested cb .physicalMic nowMs)
  | grantNetwork {p : TxPlane ρ} {nowMs : UInt64} (h : p.tx.Admits .http)
      (hr : p.network.Ready)
      (hf : (cb.callStart .http p.tx.preparing p.toTxContext).1 = 0) :
      TxStep cb W (.grant .http nowMs) p
        ((p.requested cb .http nowMs).withNetwork (·.keyedAt nowMs))
  | renewTune {p : TxPlane ρ} {nowMs : UInt64} (h : p.tune.active = true)
      (hl : nowMs - p.tune.renewedMs < tuneLeaseMs)
      (hh : nowMs - p.tune.startedMs < tuneHardLimitMs) :
      TxStep cb W (.renewTune nowMs) p (p.withTune (·.renewed nowMs))
  | endTune {p : TxPlane ρ} (h : p.tx.owner ≠ .tune) :
      TxStep cb W .endTune p (p.withTune (·.ended))
  | reserve {p : TxPlane ρ} {profile : NetworkTxProfile}
      {lease nowMs : UInt64} (hr : p.network.reserved = false)
      (ho : p.tx.owner = .none) (hv : profile.valid = true) (hl : lease ≠ 0) :
      TxStep cb W (.reserve lease nowMs) p
        (p.withNetwork (·.acquired profile lease nowMs))
  | renewNetwork {p : TxPlane ρ} {nowMs : UInt64}
      (h : p.network.reserved = true) :
      TxStep cb W (.renewNetwork nowMs) p (p.withNetwork (·.renewed nowMs))
  | attach {p : TxPlane ρ} {nowMs : UInt64} (hr : p.network.reserved = true)
      (hs : p.network.streamConnected = false) :
      TxStep cb W .attach p (p.withNetwork (·.attached nowMs))
  | record {p : TxPlane ρ} {frames : ℕ} {nowMs : UInt64}
      (hr : p.network.reserved = true)
      (hs : p.network.streamConnected = true) :
      TxStep cb W (.record frames) p
        (p.withNetwork (·.recorded frames nowMs))
  | unkey {p : TxPlane ρ} (h : p.tx.owner ≠ .http) :
      TxStep cb W .unkey p (p.withNetwork (·.unkeyed))
  | drain {p : TxPlane ρ} (h : p.network.keyed = false) :
      TxStep cb W .drain p (p.withNetwork (·.drained))
  | detach {p : TxPlane ρ} (h : p.network.keyed = false) :
      TxStep cb W .detach p (p.withNetwork (·.detached))
  | clear {p : TxPlane ρ} (h : p.tx.owner ≠ .http) :
      TxStep cb W .clear p (p.withNetwork (·.cleared))

namespace TxMove

/-- Moves that start nothing and put off no deadline. -/
def Passive : TxMove → Prop
  | .grant .. | .refuse .. | .renewTune .. | .reserve .. | .renewNetwork ..
  | .attach | .record .. | .restart => False
  | _ => True

/-- Moves that feed a session. -/
def Feeds : TxMove → Prop
  | .attach | .record .. => True
  | _ => False

/-- Moves made at the time `nowMs` for a client, none of which grants the
transmitter to `owner`. -/
def At (nowMs : UInt64) (owner : TxOwner) : TxMove → Prop
  | .grant o t => t = nowMs ∧ o ≠ owner ∧ o ≠ .physicalMic
  | .refuse o => o ≠ .physicalMic
  | .renewTune t | .reserve _ t | .renewNetwork t => t = nowMs
  | m => m.Passive

/-- Moves made at the time `nowMs` by the microphone's switch, none of which
grants the transmitter to `owner`. -/
def Switched (nowMs : UInt64) (owner : TxOwner) : TxMove → Prop
  | .grant o t => t = nowMs ∧ o ≠ owner ∧ o = .physicalMic
  | .refuse o => o = .physicalMic
  | m => m.Passive

/-- A passive move is made at any time. -/
theorem Passive.at {m : TxMove} (h : m.Passive) (nowMs : UInt64)
    (owner : TxOwner) : m.At nowMs owner := by
  cases m <;> trivial

/-- A passive move is no matter of the switch. -/
theorem Passive.switched {m : TxMove} (h : m.Passive) (nowMs : UInt64)
    (owner : TxOwner) : m.Switched nowMs owner := by
  cases m <;> trivial

/-- The time of a move that has one. -/
def timeMs? : TxMove → Option UInt64
  | .grant _ nowMs | .renewTune nowMs | .reserve _ nowMs
  | .renewNetwork nowMs => some nowMs
  | _ => none

/-- Moves made at none but the given times. -/
def Timed (times : List UInt64) (m : TxMove) : Prop :=
  ∀ nowMs, m.timeMs? = some nowMs → nowMs ∈ times

/-- Moves with no time are made at any. -/
theorem timed_of_none {m : TxMove} (h : m.timeMs? = none)
    (times : List UInt64) : m.Timed times := by
  simp [Timed, h]

theorem Passive.timed {m : TxMove} (h : m.Passive) (times : List UInt64) :
    m.Timed times :=
  timed_of_none (by cases m <;> first | rfl | exact h.elim) times

theorem Feeds.timed {m : TxMove} (h : m.Feeds) (times : List UInt64) :
    m.Timed times :=
  timed_of_none (by cases m <;> first | rfl | exact h.elim) times

theorem At.timed {m : TxMove} {nowMs : UInt64} {owner : TxOwner}
    (h : m.At nowMs owner) : m.Timed [nowMs] := by
  intro t ht
  cases m with
  | grant o t' =>
    obtain rfl := Option.some.inj ht
    exact List.mem_singleton.mpr h.1
  | renewTune t' =>
    obtain rfl := Option.some.inj ht
    exact List.mem_singleton.mpr h
  | reserve lease t' =>
    obtain rfl := Option.some.inj ht
    exact List.mem_singleton.mpr h
  | renewNetwork t' =>
    obtain rfl := Option.some.inj ht
    exact List.mem_singleton.mpr h
  | _ => exact absurd ht (by simp [timeMs?])

theorem Switched.timed {m : TxMove} {nowMs : UInt64} {owner : TxOwner}
    (h : m.Switched nowMs owner) : m.Timed [nowMs] := by
  cases m with
  | grant o t' =>
    intro t ht
    obtain rfl := Option.some.inj ht
    exact List.mem_singleton.mpr h.1
  | renewTune t' => exact h.elim
  | reserve lease t' => exact h.elim
  | renewNetwork t' => exact h.elim
  | _ => exact timed_of_none rfl _

end TxMove

variable (cb : TxCallbacks (TxContext ρ)) (W : ρ → ρ → Prop)

/-- `q` is reached from `p` by moves of which each satisfies `P`. -/
def TxPlane.Reaches (P : TxMove → Prop) (p q : TxPlane ρ) : Prop :=
  ∃ ms, LabelledPath (TxStep cb W) ms p q ∧ ∀ m ∈ ms, P m

namespace TxPlane.Reaches

variable {cb W} {P Q : TxMove → Prop} {p q r : TxPlane ρ}

theorem refl (p : TxPlane ρ) : p.Reaches cb W P p :=
  ⟨[], LabelledPath.nil p, by simp⟩

theorem one {m : TxMove} (h : TxStep cb W m p q) (hm : P m) :
    p.Reaches cb W P q :=
  ⟨[m], LabelledPath.single h, by simpa using hm⟩

theorem trans (h : p.Reaches cb W P q) (h' : q.Reaches cb W P r) :
    p.Reaches cb W P r := by
  obtain ⟨ms, hp, hm⟩ := h
  obtain ⟨ns, hq, hn⟩ := h'
  exact ⟨ms ++ ns, hp.append hq, fun m hmem =>
    (List.mem_append.mp hmem).elim (hm m) (hn m)⟩

theorem mono (h : ∀ m, P m → Q m) (hp : p.Reaches cb W P q) :
    p.Reaches cb W Q q := by
  obtain ⟨ms, hpath, hm⟩ := hp
  exact ⟨ms, hpath, fun m hmem => h m (hm m hmem)⟩

end TxPlane.Reaches

/-! ## Coherence

What the records say to each other in every state, whatever order things
happen in. The converses – a tune lease has its owner, a keyed session has
its owner – only hold once the reconcile calls have run. -/

/-- **A sound session**: what the fields of a network session say of each
other. -/
structure NetworkTx.Sound (session : NetworkTx) : Prop where
  keyed : session.keyed = true →
    session.reserved = true ∧ session.streamConnected = true
      ∧ session.bufferedFrames = networkTxMinPrebufferFrames
  buffered : session.bufferedFrames
    = min session.recordedFrames networkTxMinPrebufferFrames
  reserved : session.reserved = true →
    session.lease ≠ 0 ∧ session.profile.valid = true
  vacant : session.reserved = false →
    session.lease = 0 ∧ session.keyed = false
      ∧ session.streamConnected = false ∧ session.bufferedFrames = 0

/-- **Coherence** of the three records. -/
structure TxPlane.Coherent (p : TxPlane ρ) : Prop where
  settled : p.tx.Settled
  enabled : p.tx.owner ≠ .none → p.tx.enabled = true
  tune_active : p.tx.owner = .tune → p.tune.active = true
  http_keyed : p.tx.owner = .http → p.network.keyed = true
  not_soapy : p.tx.owner ≠ .soapy
  sound : p.network.Sound

namespace NetworkTx.Sound

variable {session : NetworkTx} (h : session.Sound)
include h

/-- The pre-roll never exceeds its bound. -/
theorem buffered_le : session.bufferedFrames ≤ networkTxMinPrebufferFrames := by
  rw [h.buffered]; exact Nat.min_le_right _ _

/-- A session that owns a lease has it. -/
theorem not_keyed_of_not_stream (hs : session.streamConnected = false) :
    session.keyed = false := by
  by_contra hk
  have := (h.keyed (by simpa using hk)).2.1
  simp_all

omit h in
/-- Any session can be dropped. -/
theorem cleared : session.cleared.Sound := by
  constructor <;> simp [NetworkTx.cleared]

theorem acquired {profile : NetworkTxProfile} {lease : UInt64}
    (hr : session.reserved = false) (hv : profile.valid = true)
    (hl : lease ≠ 0) (nowMs : UInt64) :
    (session.acquired profile lease nowMs).Sound := by
  have hvac := h.vacant hr
  exact ⟨by simp [NetworkTx.acquired, hvac.2.1], h.buffered,
    fun _ => ⟨hl, hv⟩, by simp [NetworkTx.acquired]⟩

theorem renewed (nowMs : UInt64) : (session.renewed nowMs).Sound :=
  ⟨h.keyed, h.buffered, h.reserved, h.vacant⟩

theorem attached (hr : session.reserved = true)
    (hs : session.streamConnected = false) (nowMs : UInt64) :
    (session.attached nowMs).Sound := by
  have hk := h.not_keyed_of_not_stream hs
  exact ⟨by simp [NetworkTx.attached, hk], by simp [NetworkTx.attached],
    h.reserved, by simp [NetworkTx.attached, hr]⟩

theorem recorded (hr : session.reserved = true) (frames : ℕ)
    (nowMs : UInt64) : (session.recorded frames nowMs).Sound := by
  have hb := h.buffered
  refine ⟨fun hk => ?_, ?_, h.reserved, by simp [NetworkTx.recorded, hr]⟩
  · have hkey := h.keyed hk
    exact ⟨hkey.1, hkey.2.1, by simp [NetworkTx.recorded, hkey.2.2]⟩
  · simp only [NetworkTx.recorded]
    split <;> omega

theorem keyedAt (hr : session.Ready) (nowMs : UInt64) :
    (session.keyedAt nowMs).Sound :=
  ⟨fun _ => ⟨hr.reserved, hr.streamConnected,
      Nat.le_antisymm h.buffered_le hr.buffered⟩,
    h.buffered, h.reserved, by simp [NetworkTx.keyedAt, hr.reserved]⟩

theorem unkeyed : session.unkeyed.Sound :=
  ⟨by simp [NetworkTx.unkeyed], h.buffered, h.reserved,
    fun hr => ⟨(h.vacant hr).1, rfl, (h.vacant hr).2.2⟩⟩

theorem drained (hk : session.keyed = false) : session.drained.Sound :=
  ⟨by simp [NetworkTx.drained, hk], by simp [NetworkTx.drained],
    h.reserved, fun hr =>
      ⟨(h.vacant hr).1, hk, (h.vacant hr).2.2.1, rfl⟩⟩

theorem detached (hk : session.keyed = false) : session.detached.Sound :=
  ⟨by simp [NetworkTx.detached, hk], by simp [NetworkTx.detached],
    h.reserved, fun hr => ⟨(h.vacant hr).1, hk, rfl, rfl⟩⟩

end NetworkTx.Sound

/-! ## What a controller operation leaves -/

variable {cb W} {p q : TxPlane ρ}

/-- After a stop the controller has no owner, and the sessions stand. -/
theorem TxPlane.unowned_spec (hcb : cb.Framed) (graceful : Bool)
    (h : p.tx.owner ≠ .none) :
    (∃ result, (p.unowned cb graceful).tx = p.tx.stopped result)
      ∧ p.toTxContext.Framed (p.unowned cb graceful).toTxContext := by
  unfold unowned
  rw [TxControl.stopOwner_of_owner cb graceful p.toTxContext h]
  exact ⟨⟨_, rfl⟩, hcb.stop _ _ _ _⟩

/-- A refused request faults the controller, and the sessions stand. -/
theorem TxPlane.refused_spec (hcb : cb.Framed) {owner : TxOwner}
    {nowMs : UInt64} (h : p.tx.Admits owner)
    (hf : (cb.callStart owner p.tx.preparing p.toTxContext).1 ≠ 0) :
    (∃ result, (p.requested cb owner nowMs).tx = p.tx.refused result)
      ∧ p.toTxContext.Framed (p.requested cb owner nowMs).toTxContext := by
  unfold requested
  rcases TxControl.request_cases cb owner nowMs p.tx p.toTxContext with
    ⟨hna, _⟩ | ⟨_, h0, _⟩ | ⟨_, _, he⟩
  · exact absurd h hna
  · exact absurd h0 hf
  · rw [he]
    exact ⟨⟨_, rfl⟩, (hcb.start _ _ _).trans (hcb.stop _ _ _ _)⟩

/-- A granted request makes the owner, and the sessions stand. -/
theorem TxPlane.granted_spec (hcb : cb.Framed) {owner : TxOwner}
    {nowMs : UInt64} (h : p.tx.Admits owner)
    (hf : (cb.callStart owner p.tx.preparing p.toTxContext).1 = 0) :
    (p.requested cb owner nowMs).tx = p.tx.granted owner nowMs
      ∧ p.toTxContext.Framed (p.requested cb owner nowMs).toTxContext := by
  unfold requested
  rcases TxControl.request_cases cb owner nowMs p.tx p.toTxContext with
    ⟨hna, _⟩ | ⟨_, _, he⟩ | ⟨_, h0, _⟩
  · exact absurd h hna
  · rw [he]
    exact ⟨rfl, hcb.start _ _ _⟩
  · exact absurd hf h0

/-! ## Moves keep coherence -/

/-- A plane whose controller and sessions say the same is as coherent. -/
theorem TxPlane.Coherent.congr (h : p.Coherent) (hs : q.tx.Settled)
    (ho : (q.tx.owner = p.tx.owner ∧ q.tx.enabled = p.tx.enabled)
      ∨ q.tx.owner = .none)
    (ha : q.tune.active = p.tune.active) (hn : q.network = p.network) :
    q.Coherent := by
  refine ⟨hs, fun hq => ?_, fun hq => ?_, fun hq => ?_, fun hq => ?_,
    hn ▸ h.sound⟩
  · rcases ho with ⟨ho, he⟩ | ho
    · exact he.trans (h.enabled (ho ▸ hq))
    · exact absurd ho hq
  · rcases ho with ⟨ho, -⟩ | ho
    · exact ha.trans (h.tune_active (ho.symm.trans hq))
    · simp [ho] at hq
  · rcases ho with ⟨ho, -⟩ | ho
    · exact hn ▸ h.http_keyed (ho.symm.trans hq)
    · simp [ho] at hq
  · rcases ho with ⟨ho, -⟩ | ho
    · exact h.not_soapy (ho.symm.trans hq)
    · simp [ho] at hq

/-- With another session, a plane stays coherent as long as the session
keeps its owner. -/
theorem TxPlane.Coherent.withNetwork (h : p.Coherent)
    {f : NetworkTx → NetworkTx} (hs : (f p.network).Sound)
    (hk : p.tx.owner = .http → (f p.network).keyed = true) :
    (p.withNetwork f).Coherent :=
  ⟨h.settled, h.enabled, h.tune_active, hk, h.not_soapy, hs⟩

/-- With another tune lease, a plane stays coherent as long as the lease
keeps its owner. -/
theorem TxPlane.Coherent.withTune (h : p.Coherent)
    {f : TuneControl → TuneControl}
    (hk : p.tx.owner = .tune → (f p.tune).active = true) :
    (p.withTune f).Coherent :=
  ⟨h.settled, h.enabled, hk, h.http_keyed, h.not_soapy, h.sound⟩

theorem TxContext.Framed.active {k k' : TxContext ρ} (h : k.Framed k') :
    k'.tune.active = k.tune.active := by
  obtain ⟨_, d, hd⟩ := h
  rw [hd]; rfl

/-- Records initialised anew are coherent. -/
theorem TxPlane.coherent_restarted (enabled : Bool) (p : TxPlane ρ) :
    (p.restarted enabled).Coherent := by
  refine ⟨TxControl.settled_armed _ _, ?_, ?_, ?_, ?_,
    (NetworkTx.Sound.cleared : (NetworkTx.init enabled).cleared.Sound)⟩
  all_goals simp [restarted]

/-- **Every move keeps coherence.** -/
theorem TxPlane.Coherent.step (hcb : cb.Framed) {m : TxMove}
    (hstep : TxStep cb W m p q) (h : p.Coherent) : q.Coherent := by
  cases hstep with
  | note hq =>
    exact h.congr (h.settled.quiet hq) (Or.inl ⟨hq.owner, hq.enabled⟩) rfl rfl
  | setTimeout ho _ _ =>
    exact h.congr ⟨h.settled.owner_iff, h.settled.resting⟩
      (Or.inl ⟨rfl, rfl⟩) rfl rfl
  | tally f => exact h.withTune h.tune_active
  | world _ => exact h.congr h.settled (Or.inl ⟨rfl, rfl⟩) rfl rfl
  | restart _ => exact coherent_restarted _ p
  | stop ho =>
    obtain ⟨⟨result, htx⟩, hf⟩ := unowned_spec hcb _ ho
    exact h.congr (htx ▸ TxControl.settled_stopped _ _)
      (Or.inr (by rw [htx]; rfl)) hf.active hf.network
  | refuse ha _ _ hfail =>
    obtain ⟨⟨result, htx⟩, hf⟩ := refused_spec hcb ha hfail
    exact h.congr (htx ▸ TxControl.settled_refused ha.2.2.2.2.2 _)
      (Or.inl (by rw [htx]; exact ⟨rfl, rfl⟩)) hf.active hf.network
  -- the grant marks the carrier as active, and its owner has the transmitter
  | grantTune ha _ hok =>
    obtain ⟨htx, hf⟩ := granted_spec hcb ha hok
    refine ⟨?_, fun _ => ?_, fun _ => rfl, fun ho => ?_, ?_, ?_⟩
    · exact htx ▸ TxControl.settled_granted _ (by decide) _
    · simpa [htx, TxControl.granted] using ha.1
    · simp [htx, TxControl.granted] at ho
    · simp [htx, TxControl.granted]
    · exact hf.network ▸ h.sound
  | grantMic ha hok =>
    obtain ⟨htx, hf⟩ := granted_spec hcb ha hok
    refine ⟨?_, fun _ => ?_, fun ho => ?_, fun ho => ?_, ?_, ?_⟩
    · exact htx ▸ TxControl.settled_granted _ (by decide) _
    · simpa [htx, TxControl.granted] using ha.1
    · simp [htx, TxControl.granted] at ho
    · simp [htx, TxControl.granted] at ho
    · simp [htx, TxControl.granted]
    · exact hf.network ▸ h.sound
  | grantNetwork ha hr hok =>
    obtain ⟨htx, hf⟩ := granted_spec hcb ha hok
    refine ⟨?_, fun _ => ?_, fun ho => ?_, fun _ => rfl, ?_, ?_⟩
    · exact htx ▸ TxControl.settled_granted _ (by decide) _
    · simpa [htx, TxControl.granted] using ha.1
    · simp [htx, TxControl.granted] at ho
    · simp [htx, TxControl.granted]
    · rw [TxPlane.withNetwork_network, hf.network]
      exact h.sound.keyedAt hr _
  | renewTune ha _ _ => exact h.withTune fun _ => ha
  | endTune ho => exact h.withTune fun h' => absurd h' ho
  | reserve hr ho hv hl =>
    exact h.withNetwork (h.sound.acquired hr hv hl _) (by simp [ho])
  | renewNetwork _ => exact h.withNetwork (h.sound.renewed _) h.http_keyed
  | attach hr hs =>
    exact h.withNetwork (h.sound.attached hr hs _) h.http_keyed
  | record hr hs =>
    exact h.withNetwork (h.sound.recorded hr _ _) h.http_keyed
  | unkey ho => exact h.withNetwork h.sound.unkeyed fun h' => absurd h' ho
  | drain hk => exact h.withNetwork (h.sound.drained hk) h.http_keyed
  | detach hk => exact h.withNetwork (h.sound.detached hk) h.http_keyed
  | clear ho => exact h.withNetwork NetworkTx.Sound.cleared fun h' => absurd h' ho

/-- Coherence is kept along every path. -/
theorem TxPlane.Coherent.reaches (hcb : cb.Framed) {P : TxMove → Prop}
    (h : p.Coherent) (hr : p.Reaches cb W P q) : q.Coherent := by
  obtain ⟨ms, hpath, _⟩ := hr
  exact hpath.invariant TxPlane.Coherent (fun _ _ _ _ hs => step hcb hs) h
