import Flex1500.TxMove

/-!
# What paths cannot do

Laws of the ownership machine, each proved move by move and then taken over
paths. A holder does not appear from nowhere: a tune lease is put in
force by a grant and a session's by a reservation. Nor does an owner: whoever
owns the transmitter at the end of a path owned it before, or was granted it
on the way. Whether there is a transmitter at all is a matter of restarts. And
of the world beyond the records, a path changes what its own moves of the world
and the callbacks change, and nothing else.
-/

variable {ρ : Type} {cb : TxCallbacks (TxContext ρ)} {W : ρ → ρ → Prop}
variable {p q r : TxPlane ρ} {m : TxMove} {P : TxMove → Prop}

/-! ## Leases in force -/

/-- **No new lease**: a tune lease in force was in force before, and so was
a session's. -/
structure TxPlane.NoNewLease (p q : TxPlane ρ) : Prop where
  tune : q.tune.active = true →
    p.tune.active = true ∧ q.tune.lease = p.tune.lease
  session : q.network.reserved = true →
    p.network.reserved = true ∧ q.network.lease = p.network.lease

namespace TxPlane.NoNewLease

theorem refl (p : TxPlane ρ) : p.NoNewLease p :=
  ⟨fun h => ⟨h, rfl⟩, fun h => ⟨h, rfl⟩⟩

theorem trans (h : p.NoNewLease q) (h' : q.NoNewLease r) :
    p.NoNewLease r where
  tune ha := by
    obtain ⟨hq, hlease⟩ := h'.tune ha
    exact ⟨(h.tune hq).1, hlease.trans (h.tune hq).2⟩
  session hr := by
    obtain ⟨hq, hlease⟩ := h'.session hr
    exact ⟨(h.session hq).1, hlease.trans (h.session hq).2⟩

/-- Planes with the same records but for counters. -/
theorem of_framed (h : p.toTxContext.Framed q.toTxContext) :
    p.NoNewLease q := by
  obtain ⟨hnetwork, d, htune⟩ := h
  refine ⟨fun ha => ?_, fun hr => ?_⟩
  · rw [htune] at ha ⊢
    exact ⟨ha, rfl⟩
  · rw [hnetwork] at hr ⊢
    exact ⟨hr, rfl⟩

end TxPlane.NoNewLease

/-- Moves that put a lease in force. -/
def TxMove.Leases : TxMove → Prop
  | .grant .tune _ | .reserve .. => True
  | _ => False

/-- A move that puts no lease in force leaves none that was not. -/
theorem TxPlane.noNewLease_step (hcb : cb.Framed)
    (hstep : TxStep cb W m p q) (hm : ¬ m.Leases) : p.NoNewLease q := by
  cases hstep with
  | note _ => exact ⟨fun h => ⟨h, rfl⟩, fun h => ⟨h, rfl⟩⟩
  | setTimeout _ _ _ => exact ⟨fun h => ⟨h, rfl⟩, fun h => ⟨h, rfl⟩⟩
  | tally f => exact ⟨fun h => ⟨h, rfl⟩, fun h => ⟨h, rfl⟩⟩
  | world _ => exact ⟨fun h => ⟨h, rfl⟩, fun h => ⟨h, rfl⟩⟩
  | restart _ =>
    exact ⟨fun h => absurd h (by simp [restarted, TuneControl.tallied,
      TuneControl.init]), fun h => absurd h (by
        simp [restarted, NetworkTx.init])⟩
  | stop ho => exact .of_framed (unowned_spec hcb _ ho).2
  | refuse ha _ _ hfail => exact .of_framed (refused_spec hcb ha hfail).2
  | grantTune _ _ _ => exact absurd trivial hm
  | grantMic ha hok => exact .of_framed (granted_spec hcb ha hok).2
  | @grantNetwork _ nowMs ha _ hok =>
    have hf : p.NoNewLease (p.requested cb .http nowMs) :=
      .of_framed (granted_spec hcb ha hok).2
    exact ⟨hf.tune, hf.session⟩
  | renewTune _ _ _ => exact ⟨fun h => ⟨h, rfl⟩, fun h => ⟨h, rfl⟩⟩
  | endTune _ =>
    exact ⟨fun h => absurd h (by simp [TuneControl.ended]),
      fun h => ⟨h, rfl⟩⟩
  | reserve _ _ _ _ => exact absurd trivial hm
  | renewNetwork _ => exact ⟨fun h => ⟨h, rfl⟩, fun h => ⟨h, rfl⟩⟩
  | attach _ _ => exact ⟨fun h => ⟨h, rfl⟩, fun h => ⟨h, rfl⟩⟩
  | record _ _ => exact ⟨fun h => ⟨h, rfl⟩, fun h => ⟨h, rfl⟩⟩
  | unkey _ => exact ⟨fun h => ⟨h, rfl⟩, fun h => ⟨h, rfl⟩⟩
  | drain _ => exact ⟨fun h => ⟨h, rfl⟩, fun h => ⟨h, rfl⟩⟩
  | detach _ => exact ⟨fun h => ⟨h, rfl⟩, fun h => ⟨h, rfl⟩⟩
  | clear _ =>
    exact ⟨fun h => ⟨h, rfl⟩, fun h => absurd h (by
      simp [NetworkTx.cleared])⟩

/-- **A path that puts no lease in force** leaves none that was not. -/
theorem TxPlane.Reaches.noNewLease (hcb : cb.Framed)
    (h : p.Reaches cb W P q) (hP : ∀ m, P m → ¬ m.Leases) :
    p.NoNewLease q := by
  obtain ⟨ms, hpath, hms⟩ := h
  exact hpath.relate (fun _ => True) NoNewLease .refl
    (fun _ _ _ h h' => h.trans h')
    (fun m hm _ _ hstep _ =>
      ⟨trivial, noNewLease_step hcb hstep (hP m (hms m hm))⟩) trivial

/-! ## Owners -/

/-- A move changes the owner to nobody, or grants it the transmitter. -/
theorem TxPlane.owner_step (hcb : cb.Framed) (hstep : TxStep cb W m p q) :
    q.tx.owner = .none ∨ q.tx.owner = p.tx.owner
      ∨ ∃ nowMs, m = .grant q.tx.owner nowMs := by
  cases hstep with
  | note hq => exact Or.inr (Or.inl hq.owner)
  | restart _ => exact Or.inl (TxControl.owner_armed _ _)
  | stop ho =>
    obtain ⟨⟨result, htx⟩, -⟩ := unowned_spec hcb _ ho
    exact Or.inl (by rw [htx]; rfl)
  | refuse ha _ _ hfail =>
    obtain ⟨⟨result, htx⟩, -⟩ := refused_spec hcb ha hfail
    exact Or.inr (Or.inl (by rw [htx]; rfl))
  | @grantTune _ _ nowMs ha _ hok =>
    exact Or.inr (Or.inr ⟨nowMs, by
      rw [withTune_tx, (granted_spec hcb ha hok).1]; rfl⟩)
  | @grantMic _ nowMs ha hok =>
    exact Or.inr (Or.inr ⟨nowMs, by rw [(granted_spec hcb ha hok).1]; rfl⟩)
  | @grantNetwork _ nowMs ha _ hok =>
    exact Or.inr (Or.inr ⟨nowMs, by
      rw [withNetwork_tx, (granted_spec hcb ha hok).1]; rfl⟩)
  | _ => exact Or.inr (Or.inl rfl)

/-- **Whoever owns the transmitter** at the end of a path owned it at its
beginning, or was granted it on the way. -/
theorem TxPlane.Reaches.owner (hcb : cb.Framed) (h : p.Reaches cb W P q) :
    q.tx.owner = .none ∨ q.tx.owner = p.tx.owner
      ∨ ∃ nowMs, P (.grant q.tx.owner nowMs) := by
  obtain ⟨ms, hpath, hms⟩ := h
  refine hpath.relate (fun _ => True) (fun p q => q.tx.owner = .none
    ∨ q.tx.owner = p.tx.owner ∨ ∃ nowMs, P (.grant q.tx.owner nowMs))
    (fun _ => Or.inr (Or.inl rfl)) (fun p q r hpq hqr => ?_)
    (fun m hm s t hstep _ => ⟨trivial, ?_⟩) trivial
  · rcases hqr with hnone | hsame | hgrant
    · exact Or.inl hnone
    · rw [hsame]
      exact hpq
    · exact Or.inr (Or.inr hgrant)
  · rcases owner_step hcb hstep with hnone | hsame | ⟨nowMs, rfl⟩
    · exact Or.inl hnone
    · exact Or.inr (Or.inl hsame)
    · exact Or.inr (Or.inr ⟨nowMs, hms _ hm⟩)

/-- Only a restart enables the controller, or disables it. -/
theorem TxPlane.enabled_step (hcb : cb.Framed) (hstep : TxStep cb W m p q)
    (hm : m ≠ .restart) : q.tx.enabled = p.tx.enabled := by
  cases hstep with
  | note hq => exact hq.enabled
  | restart _ => exact absurd rfl hm
  | stop ho =>
    obtain ⟨⟨result, htx⟩, -⟩ := unowned_spec hcb _ ho
    rw [htx]
    rfl
  | refuse ha _ _ hfail =>
    obtain ⟨⟨result, htx⟩, -⟩ := refused_spec hcb ha hfail
    rw [htx]
    rfl
  | grantTune ha _ hok =>
    rw [withTune_tx, (granted_spec hcb ha hok).1]
    rfl
  | grantMic ha hok =>
    rw [(granted_spec hcb ha hok).1]
    rfl
  | grantNetwork ha _ hok =>
    rw [withNetwork_tx, (granted_spec hcb ha hok).1]
    rfl
  | _ => rfl

/-- **A path without a restart** leaves the controller enabled, or not. -/
theorem TxPlane.Reaches.enabled (hcb : cb.Framed) (h : p.Reaches cb W P q)
    (hP : ∀ m, P m → m ≠ .restart) : q.tx.enabled = p.tx.enabled := by
  obtain ⟨ms, hpath, hms⟩ := h
  exact hpath.relate (fun _ => True)
    (fun p q : TxPlane ρ => q.tx.enabled = p.tx.enabled) (fun _ => rfl)
    (fun _ _ _ hst htu => htu.trans hst)
    (fun m hm _ _ hstep _ =>
      ⟨trivial, enabled_step hcb hstep (hP m (hms m hm))⟩) trivial

/-! ## The world -/

/-- Callbacks that leave something about the world alone. -/
structure TxCallbacks.Keeps {α : Type} (cb : TxCallbacks (TxContext ρ))
    (f : ρ → α) : Prop where
  start : ∀ owner control (k : TxContext ρ),
    f (cb.callStart owner control k).2.world = f k.world
  stop : ∀ owner graceful control (k : TxContext ρ),
    f (cb.callStop owner graceful control k).2.world = f k.world

section World

variable {α : Type} {f : ρ → α} (hcb : cb.Keeps f)
include hcb

/-- A request leaves alone what the callbacks do. -/
theorem TxPlane.world_requested (owner : TxOwner) (nowMs : UInt64)
    (p : TxPlane ρ) : f (p.requested cb owner nowMs).world = f p.world := by
  unfold requested
  rcases TxControl.request_cases cb owner nowMs p.tx p.toTxContext with
    ⟨-, result, hr, -⟩ | ⟨-, -, hr⟩ | ⟨-, -, hr⟩
  · rw [hr]
    rfl
  · rw [hr]
    exact hcb.start _ _ _
  · rw [hr]
    exact (hcb.stop _ _ _ _).trans (hcb.start _ _ _)

/-- So does a stop. -/
theorem TxPlane.world_unowned (graceful : Bool) (p : TxPlane ρ) :
    f (p.unowned cb graceful).world = f p.world := by
  unfold unowned
  by_cases ho : p.tx.owner = .none
  · rw [TxControl.stopOwner_of_none cb graceful p.toTxContext ho]
    rfl
  · rw [TxControl.stopOwner_of_owner cb graceful p.toTxContext ho]
    exact hcb.stop _ _ _ _

/-- **A path leaves alone** what the callbacks and its moves of the world
do. -/
theorem TxPlane.Reaches.world_eq
    (h : p.Reaches cb (fun w w' => f w' = f w) P q) :
    f q.world = f p.world := by
  obtain ⟨ms, hpath, -⟩ := h
  refine hpath.relate (fun _ => True) (fun p q => f q.world = f p.world)
    (fun _ => rfl) (fun s t u (hst : f t.world = f s.world)
      (htu : f u.world = f t.world) => htu.trans hst)
    (fun m _ s t hstep _ => ⟨trivial, ?_⟩) trivial
  cases hstep with
  | world hw => exact hw
  | stop _ => exact world_unowned hcb _ s
  | refuse _ _ _ _ => exact world_requested hcb _ _ s
  | grantTune _ _ _ => exact world_requested hcb _ _ s
  | grantMic _ _ => exact world_requested hcb _ _ s
  | grantNetwork _ _ _ => exact world_requested hcb _ _ s
  | _ => rfl

end World
