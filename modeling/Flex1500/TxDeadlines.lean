import Flex1500.TxMoveLaws

/-!
# What the times in the records mean

The records keep three kinds of times: when the owner was granted the
transmitter, when the tune lease was renewed, and when the session's was.
Along a path of moves they are the times of the latest moves that the code
would call a start or a renewal. Nothing else moves them: no refused request,
no samples, and no start while the transmitter is held.

Moves that start nothing and put off no deadline leave the times of whatever
is still there.
-/

variable {ρ : Type} {cb : TxCallbacks (TxContext ρ)} {W : ρ → ρ → Prop}
variable {p q r : TxPlane ρ} {m : TxMove} {P : TxMove → Prop}

namespace TxMove

/-- Moves that neither give nor take the transmitter, nor change how long it
may be held. -/
def Continues : TxMove → Prop
  | .grant .. | .refuse .. | .stop _ | .restart | .setTimeout => False
  | _ => True

/-- **Held since** a time: the transmitter was granted then, and the moves
behind the grant neither gave nor took it, nor changed how long it may be
held. -/
def HeldSince (ms : List TxMove) (owner : TxOwner) (nowMs : UInt64) : Prop :=
  ∃ before after, ms = before ++ .grant owner nowMs :: after
    ∧ ∀ m ∈ after, m.Continues

/-- The time of a move that renews the tune lease. -/
def tuneRenewal? : TxMove → Option UInt64
  | .grant .tune nowMs | .renewTune nowMs => some nowMs
  | _ => none

/-- The time of a move that renews the session's lease. -/
def networkRenewal? : TxMove → Option UInt64
  | .grant .http nowMs | .reserve _ nowMs | .renewNetwork nowMs => some nowMs
  | _ => none

/-- The time of the latest move of a kind. -/
def latest (time? : TxMove → Option UInt64) (ms : List TxMove) :
    Option UInt64 :=
  (ms.filterMap time?).getLast?

/-- A move of the kind is the latest. -/
theorem latest_concat_some {time? : TxMove → Option UInt64} {nowMs : UInt64}
    (ms : List TxMove) (h : time? m = some nowMs) :
    latest time? (ms ++ [m]) = some nowMs := by
  rw [latest, List.filterMap_append, List.filterMap_cons_some h,
    List.filterMap_nil, List.getLast?_concat]

/-- Another move is no matter. -/
theorem latest_concat_none {time? : TxMove → Option UInt64}
    (ms : List TxMove) (h : time? m = none) :
    latest time? (ms ++ [m]) = latest time? ms := by
  rw [latest, List.filterMap_append, List.filterMap_cons_none h,
    List.filterMap_nil, List.append_nil]
  rfl

/-- A grant is held from then on. -/
theorem heldSince_grant (ms : List TxMove) (owner : TxOwner) (nowMs : UInt64) :
    HeldSince (ms ++ [.grant owner nowMs]) owner nowMs :=
  ⟨ms, [], rfl, fun _ h => absurd h List.not_mem_nil⟩

/-- And on. -/
theorem HeldSince.concat {ms : List TxMove} {owner : TxOwner} {nowMs : UInt64}
    (h : HeldSince ms owner nowMs) (hm : m.Continues) :
    HeldSince (ms ++ [m]) owner nowMs := by
  obtain ⟨before, after, rfl, hafter⟩ := h
  refine ⟨before, after ++ [m], ?_, fun n hn => ?_⟩
  · rw [List.append_assoc]
    rfl
  · rcases List.mem_append.mp hn with hn | hn
    · exact hafter n hn
    · rwa [List.mem_singleton.mp hn]

end TxMove

/-- **What the times mean**, after the moves so far: the owner has held the
transmitter since then, and the leases were last renewed then. -/
structure TxPlane.Recounts (ms : List TxMove) (p : TxPlane ρ) : Prop where
  held : p.tx.owner ≠ .none →
    TxMove.HeldSince ms p.tx.owner p.tx.startedMs
  tune_started : p.tx.owner = .tune → p.tune.startedMs = p.tx.startedMs
  tune_renewed : p.tune.active = true →
    TxMove.latest TxMove.tuneRenewal? ms = some p.tune.renewedMs
  network_renewed : p.network.reserved = true →
    TxMove.latest TxMove.networkRenewal? ms = some p.network.renewedMs
  enabled : p.tune.enabled = p.tx.enabled
  maximum_ge : 30000 ≤ p.tx.maximumKeyMs
  maximum_le : p.tx.maximumKeyMs ≤ 1800000

namespace TxPlane.Recounts

variable {ms : List TxMove}

/-- What is there of the tune lease after a move that does not renew it. -/
theorem tune_concat (h : p.Recounts ms) (hm : m.tuneRenewal? = none)
    (hactive : q.tune.active = true →
      p.tune.active = true ∧ q.tune.renewedMs = p.tune.renewedMs)
    (ha : q.tune.active = true) :
    TxMove.latest TxMove.tuneRenewal? (ms ++ [m])
      = some q.tune.renewedMs := by
  obtain ⟨hp, hrenewed⟩ := hactive ha
  rw [TxMove.latest_concat_none ms hm, h.tune_renewed hp, hrenewed]

/-- What is there of the session after a move that does not renew it. -/
theorem network_concat (h : p.Recounts ms) (hm : m.networkRenewal? = none)
    (hreserved : q.network.reserved = true →
      p.network.reserved = true ∧ q.network.renewedMs = p.network.renewedMs)
    (hr : q.network.reserved = true) :
    TxMove.latest TxMove.networkRenewal? (ms ++ [m])
      = some q.network.renewedMs := by
  obtain ⟨hp, hrenewed⟩ := hreserved hr
  rw [TxMove.latest_concat_none ms hm, h.network_renewed hp, hrenewed]

/-- A move under which the transmission goes on keeps what it was held
since. -/
theorem held_concat (h : p.Recounts ms) (howner : q.tx.owner = p.tx.owner)
    (hstarted : q.tx.startedMs = p.tx.startedMs) (hm : m.Continues)
    (hq : q.tx.owner ≠ .none) :
    TxMove.HeldSince (ms ++ [m]) q.tx.owner q.tx.startedMs := by
  rw [howner, hstarted]
  rw [howner] at hq
  exact (h.held hq).concat hm

end TxPlane.Recounts

/-- The seconds a timeout is set to, in milliseconds. -/
theorem maximum_of_seconds {seconds : ℕ} (hmin : txTimeoutMinSeconds ≤ seconds)
    (hmax : seconds ≤ txTimeoutMaxSeconds) :
    30000 ≤ UInt64.ofNat seconds * 1000
      ∧ UInt64.ofNat seconds * 1000 ≤ 1800000 := by
  have h30 : 30 ≤ seconds := hmin
  have h1800 : seconds ≤ 1800 := hmax
  have htoNat : (UInt64.ofNat seconds * 1000).toNat = seconds * 1000 := by
    rw [UInt64.toNat_mul, UInt64.toNat_ofNat']
    show seconds % 2 ^ 64 * 1000 % 2 ^ 64 = seconds * 1000
    omega
  constructor <;> rw [UInt64.le_iff_toNat_le, htoNat]
  · show 30000 ≤ seconds * 1000
    omega
  · show seconds * 1000 ≤ 1800000
    omega

/-- A restart sets the timeout to the seconds it was. -/
theorem maximum_restarted {p : TxPlane ρ} (hmin : 30000 ≤ p.tx.maximumKeyMs)
    (hmax : p.tx.maximumKeyMs ≤ 1800000) :
    txTimeoutMinSeconds ≤ p.tx.timeoutSeconds
      ∧ p.tx.timeoutSeconds ≤ txTimeoutMaxSeconds := by
  have h₁ : 30000 ≤ p.tx.maximumKeyMs.toNat := UInt64.le_iff_toNat_le.mp hmin
  have h₂ : p.tx.maximumKeyMs.toNat ≤ 1800000 := UInt64.le_iff_toNat_le.mp hmax
  have hseconds : p.tx.timeoutSeconds = p.tx.maximumKeyMs.toNat / 1000 := by
    rw [TxControl.timeoutSeconds, UInt64.toNat_div]
    show p.tx.maximumKeyMs.toNat / 1000 % 2 ^ 32 = _
    omega
  rw [hseconds]
  show 30 ≤ _ ∧ _ ≤ 1800
  omega

/-- What a frame leaves of the tune record. -/
theorem TxContext.Framed.tune_times {k k' : TxContext ρ} (h : k.Framed k') :
    k'.tune.active = k.tune.active ∧ k'.tune.startedMs = k.tune.startedMs
      ∧ k'.tune.renewedMs = k.tune.renewedMs
      ∧ k'.tune.enabled = k.tune.enabled := by
  obtain ⟨-, d, hd⟩ := h
  rw [hd]
  exact ⟨rfl, rfl, rfl, rfl⟩

/-- **A move under which the transmission goes on** keeps what the times
mean, if it renews nothing. -/
theorem TxPlane.Recounts.continues {ms : List TxMove} (h : p.Recounts ms)
    (htx : p.tx.Quiet q.tx) (hm : m.Continues)
    (htune : m.tuneRenewal? = none) (hnetwork : m.networkRenewal? = none)
    (hstarted : q.tx.owner = .tune → q.tune.startedMs = p.tune.startedMs)
    (hactive : q.tune.active = true →
      p.tune.active = true ∧ q.tune.renewedMs = p.tune.renewedMs)
    (henabled : q.tune.enabled = p.tune.enabled)
    (hreserved : q.network.reserved = true →
      p.network.reserved = true ∧ q.network.renewedMs = p.network.renewedMs) :
    q.Recounts (ms ++ [m]) where
  held := h.held_concat htx.owner htx.startedMs hm
  tune_started ho := by
    rw [hstarted ho, htx.startedMs]
    exact h.tune_started (htx.owner ▸ ho)
  tune_renewed := h.tune_concat htune hactive
  network_renewed := h.network_concat hnetwork hreserved
  enabled := by rw [henabled, htx.enabled, h.enabled]
  maximum_ge := htx.maximumKeyMs ▸ h.maximum_ge
  maximum_le := htx.maximumKeyMs ▸ h.maximum_le

/-- **Every move keeps what the times mean.** -/
theorem TxPlane.Recounts.step (hcb : cb.Framed) {ms : List TxMove}
    (hstep : TxStep cb W m p q) (h : p.Recounts ms) :
    q.Recounts (ms ++ [m]) := by
  -- what the callbacks leave of the carrier and the session
  have hkept {s : TxPlane ρ} (hs : p.toTxContext.Framed s.toTxContext) :
      (s.tune.active = true →
        p.tune.active = true ∧ s.tune.renewedMs = p.tune.renewedMs)
      ∧ (s.network.reserved = true → p.network.reserved = true
        ∧ s.network.renewedMs = p.network.renewedMs)
      ∧ s.tune.enabled = p.tune.enabled := by
    obtain ⟨hactive, -, hrenewed, henabled⟩ := hs.tune_times
    refine ⟨fun ha => ⟨hactive ▸ ha, hrenewed⟩, fun hr => ?_, henabled⟩
    rw [hs.network] at hr ⊢
    exact ⟨hr, rfl⟩
  cases hstep with
  | note hq =>
    exact h.continues hq trivial rfl rfl (fun _ => rfl) (fun ha => ⟨ha, rfl⟩)
      rfl (fun hr => ⟨hr, rfl⟩)
  | setTimeout ho hmin hmax =>
    obtain ⟨hge, hle⟩ := maximum_of_seconds hmin hmax
    exact ⟨fun hq => absurd ho hq, fun hq => absurd (ho.symm.trans hq) (by decide),
      h.tune_concat rfl fun ha => ⟨ha, rfl⟩,
      h.network_concat rfl fun hr => ⟨hr, rfl⟩, h.enabled, hge, hle⟩
  | tally f =>
    exact h.continues .rfl trivial rfl rfl (fun _ => rfl) (fun ha => ⟨ha, rfl⟩)
      rfl (fun hr => ⟨hr, rfl⟩)
  | world _ =>
    exact h.continues .rfl trivial rfl rfl (fun _ => rfl) (fun ha => ⟨ha, rfl⟩)
      rfl (fun hr => ⟨hr, rfl⟩)
  -- nobody holds the new records, and the limit is set from the seconds kept
  | @restart _ enabled ho =>
    obtain ⟨hmin, hmax⟩ := maximum_restarted h.maximum_ge h.maximum_le
    obtain ⟨hge, hle⟩ := maximum_of_seconds hmin hmax
    have hnone : (p.restarted enabled).tx.owner = .none :=
      TxControl.owner_armed _ _
    have hq := TxControl.quiet_armPhysicalPtt
      (.init enabled (UInt64.ofNat p.tx.timeoutSeconds * 1000))
    exact ⟨fun hq => absurd hnone hq,
      fun hq => absurd (hnone.symm.trans hq) (by decide),
      fun ha => absurd ha Bool.false_ne_true,
      fun hr => absurd hr Bool.false_ne_true, hq.enabled.symm,
      hq.maximumKeyMs ▸ hge, hq.maximumKeyMs ▸ hle⟩
  -- the hold is over, so only the leases have times left
  | @stop _ graceful ho =>
    obtain ⟨⟨result, htx⟩, hframed⟩ := unowned_spec hcb graceful ho
    obtain ⟨hactive, hreserved, henabled⟩ := hkept hframed
    have hnone : (p.unowned cb graceful).tx.owner = .none := by
      rw [htx]
      rfl
    exact ⟨fun hq => absurd hnone hq,
      fun hq => absurd (hnone.symm.trans hq) (by decide),
      h.tune_concat rfl hactive, h.network_concat rfl hreserved,
      by rw [henabled, htx, h.enabled]; rfl, htx ▸ h.maximum_ge,
      htx ▸ h.maximum_le⟩
  | @refuse _ owner nowMs ha _ _ hfail =>
    obtain ⟨⟨result, htx⟩, hframed⟩ :
        (∃ result, (p.requested cb owner nowMs).tx = p.tx.refused result)
          ∧ p.toTxContext.Framed (p.requested cb owner nowMs).toTxContext :=
      refused_spec hcb ha hfail
    obtain ⟨hactive, hreserved, henabled⟩ := hkept hframed
    have hnone : (p.requested cb owner nowMs).tx.owner = .none := by
      rw [htx]
      exact ha.2.2.2.2.2
    exact ⟨fun hq => absurd hnone hq,
      fun hq => absurd (hnone.symm.trans hq) (by decide),
      h.tune_concat rfl hactive, h.network_concat rfl hreserved,
      by rw [henabled, htx, h.enabled]; rfl, htx ▸ h.maximum_ge,
      htx ▸ h.maximum_le⟩
  -- a grant begins the hold, and renews the lease it is made under
  | grantTune ha _ hok =>
    obtain ⟨htx, hframed⟩ := granted_spec hcb ha hok
    obtain ⟨-, hreserved, henabled⟩ := hkept hframed
    refine ⟨fun _ => ?_, fun _ => ?_, fun _ => ?_,
      h.network_concat rfl hreserved, ?_, ?_, ?_⟩
    · rw [withTune_tx, htx]
      exact TxMove.heldSince_grant ms _ _
    · rw [withTune_tx, htx]
      rfl
    · exact TxMove.latest_concat_some ms rfl
    · exact henabled.trans (h.enabled.trans (by rw [withTune_tx, htx]; rfl))
    · rw [withTune_tx, htx]
      exact h.maximum_ge
    · rw [withTune_tx, htx]
      exact h.maximum_le
  | grantMic ha hok =>
    obtain ⟨htx, hframed⟩ := granted_spec hcb ha hok
    obtain ⟨hactive, hreserved, henabled⟩ := hkept hframed
    refine ⟨fun _ => ?_, fun ho => ?_, h.tune_concat rfl hactive,
      h.network_concat rfl hreserved, ?_, ?_, ?_⟩
    · rw [htx]
      exact TxMove.heldSince_grant ms _ _
    · rw [htx] at ho
      exact absurd ho (by simp [TxControl.granted])
    · rw [henabled, htx, h.enabled]
      rfl
    · rw [htx]
      exact h.maximum_ge
    · rw [htx]
      exact h.maximum_le
  | grantNetwork ha hr hok =>
    obtain ⟨htx, hframed⟩ := granted_spec hcb ha hok
    obtain ⟨hactive, -, henabled⟩ := hkept hframed
    refine ⟨fun _ => ?_, fun ho => ?_, h.tune_concat rfl hactive, fun _ => ?_,
      ?_, ?_, ?_⟩
    · rw [withNetwork_tx, htx]
      exact TxMove.heldSince_grant ms _ _
    · rw [withNetwork_tx, htx] at ho
      exact absurd ho (by simp [TxControl.granted])
    · exact TxMove.latest_concat_some ms rfl
    · exact henabled.trans (h.enabled.trans (by rw [withNetwork_tx, htx]; rfl))
    · rw [withNetwork_tx, htx]
      exact h.maximum_ge
    · rw [withNetwork_tx, htx]
      exact h.maximum_le
  -- a renewal is the latest of its kind
  | renewTune _ _ _ =>
    exact ⟨h.held_concat rfl rfl trivial, h.tune_started,
      fun _ => TxMove.latest_concat_some ms rfl,
      h.network_concat rfl fun hr => ⟨hr, rfl⟩, h.enabled, h.maximum_ge,
      h.maximum_le⟩
  | endTune ho =>
    exact h.continues .rfl trivial rfl rfl (fun hq => absurd hq ho)
      (fun ha => absurd ha Bool.false_ne_true) rfl (fun hr => ⟨hr, rfl⟩)
  | reserve _ _ _ _ =>
    exact ⟨h.held_concat rfl rfl trivial, h.tune_started,
      h.tune_concat rfl fun ha => ⟨ha, rfl⟩,
      fun _ => TxMove.latest_concat_some ms rfl, h.enabled, h.maximum_ge,
      h.maximum_le⟩
  | renewNetwork _ =>
    exact ⟨h.held_concat rfl rfl trivial, h.tune_started,
      h.tune_concat rfl fun ha => ⟨ha, rfl⟩,
      fun _ => TxMove.latest_concat_some ms rfl, h.enabled, h.maximum_ge,
      h.maximum_le⟩
  | clear _ =>
    exact h.continues .rfl trivial rfl rfl (fun _ => rfl) (fun ha => ⟨ha, rfl⟩)
      rfl (fun hr => absurd hr Bool.false_ne_true)
  | _ =>
    exact h.continues .rfl trivial rfl rfl (fun _ => rfl) (fun ha => ⟨ha, rfl⟩)
      rfl (fun hr => ⟨hr, rfl⟩)

/-- **So does every path.** -/
theorem TxPlane.Recounts.path (hcb : cb.Framed) {ms ns : List TxMove}
    (hpath : LabelledPath (TxStep cb W) ns p q) (h : p.Recounts ms) :
    q.Recounts (ms ++ ns) :=
  hpath.history TxPlane.Recounts (fun _ _ _ _ hs hr => hr.step hcb hs) h

/-! ## Passing time -/

/-- **Nothing is put off**: whoever still owns the transmitter has since, and
the leases still in force were renewed when they were. -/
structure TxPlane.Fades (p q : TxPlane ρ) : Prop where
  owner : q.tx.owner ≠ .none → q.tx.owner = p.tx.owner
    ∧ q.tx.startedMs = p.tx.startedMs ∧ q.tx.maximumKeyMs = p.tx.maximumKeyMs
  tune : q.tune.active = true → p.tune.active = true
    ∧ q.tune.startedMs = p.tune.startedMs ∧ q.tune.renewedMs = p.tune.renewedMs
  network : q.network.reserved = true →
    p.network.reserved = true ∧ q.network.renewedMs = p.network.renewedMs

namespace TxPlane.Fades

theorem refl (p : TxPlane ρ) : p.Fades p :=
  ⟨fun _ => ⟨rfl, rfl, rfl⟩, fun h => ⟨h, rfl, rfl⟩, fun h => ⟨h, rfl⟩⟩

theorem trans (h : p.Fades q) (h' : q.Fades r) : p.Fades r where
  owner ho := by
    obtain ⟨howner, hstarted, hmaximum⟩ := h'.owner ho
    obtain ⟨howner', hstarted', hmaximum'⟩ := h.owner (howner ▸ ho)
    exact ⟨howner.trans howner', hstarted.trans hstarted',
      hmaximum.trans hmaximum'⟩
  tune ha := by
    obtain ⟨hactive, hstarted, hrenewed⟩ := h'.tune ha
    obtain ⟨hactive', hstarted', hrenewed'⟩ := h.tune hactive
    exact ⟨hactive', hstarted.trans hstarted', hrenewed.trans hrenewed'⟩
  network hr := by
    obtain ⟨hreserved, hrenewed⟩ := h'.network hr
    obtain ⟨hreserved', hrenewed'⟩ := h.network hreserved
    exact ⟨hreserved', hrenewed.trans hrenewed'⟩

/-- A passive move puts nothing off. -/
theorem step (hcb : cb.Framed) (hstep : TxStep cb W m p q)
    (hm : m.Passive) : p.Fades q := by
  cases hstep with
  | note hq =>
    exact ⟨fun _ => ⟨hq.owner, hq.startedMs, hq.maximumKeyMs⟩,
      fun h => ⟨h, rfl, rfl⟩, fun h => ⟨h, rfl⟩⟩
  | setTimeout ho _ _ =>
    exact ⟨fun hq => absurd ho hq, fun h => ⟨h, rfl, rfl⟩, fun h => ⟨h, rfl⟩⟩
  | stop ho =>
    obtain ⟨⟨result, htx⟩, hframed⟩ := unowned_spec hcb _ ho
    obtain ⟨hactive, hstarted, hrenewed, -⟩ := hframed.tune_times
    refine ⟨fun hq => absurd (by rw [htx]; rfl) hq,
      fun h => ⟨hactive ▸ h, hstarted, hrenewed⟩, fun h => ?_⟩
    rw [hframed.network] at h ⊢
    exact ⟨h, rfl⟩
  | endTune _ =>
    exact ⟨fun _ => ⟨rfl, rfl, rfl⟩, fun h => absurd h Bool.false_ne_true,
      fun h => ⟨h, rfl⟩⟩
  | clear _ =>
    exact ⟨fun _ => ⟨rfl, rfl, rfl⟩, fun h => ⟨h, rfl, rfl⟩,
      fun h => absurd h Bool.false_ne_true⟩
  | restart _ => exact hm.elim
  | refuse _ _ _ _ => exact hm.elim
  | grantTune _ _ _ => exact hm.elim
  | grantMic _ _ => exact hm.elim
  | grantNetwork _ _ _ => exact hm.elim
  | renewTune _ _ _ => exact hm.elim
  | reserve _ _ _ _ => exact hm.elim
  | renewNetwork _ => exact hm.elim
  | attach _ _ => exact hm.elim
  | record _ _ => exact hm.elim
  | _ =>
    exact ⟨fun _ => ⟨rfl, rfl, rfl⟩, fun h => ⟨h, rfl, rfl⟩, fun h => ⟨h, rfl⟩⟩

end TxPlane.Fades

/-- **Passive moves put nothing off.** -/
theorem TxPlane.Reaches.fades (hcb : cb.Framed)
    (h : p.Reaches cb W TxMove.Passive q) : p.Fades q := by
  obtain ⟨ms, hpath, hms⟩ := h
  exact hpath.relate (fun _ => True) TxPlane.Fades .refl
    (fun _ _ _ h h' => h.trans h')
    (fun m hm _ _ hstep _ => ⟨trivial, .step hcb hstep (hms m hm)⟩) trivial
