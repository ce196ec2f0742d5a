import Flex1500.ApiOutcome

/-!
# Nobody disarms the microphone's switch

The switch is armed when the controller is initialised, and read released
once it may arm itself. After that no operation takes the arming back:
not a stop and not a failed start, not the end of a lease, and no request.
-/

variable {ρ : Type}

/-- **The arming is kept.** -/
def TxPlane.KeepsArming (p q : TxPlane ρ) : Prop :=
  q.tx.physicalPttArmed = p.tx.physicalPttArmed

namespace TxPlane.KeepsArming

variable {p q r : TxPlane ρ}

theorem refl (p : TxPlane ρ) : p.KeepsArming p := rfl

theorem trans (h : p.KeepsArming q) (h' : q.KeepsArming r) :
    p.KeepsArming r :=
  Eq.trans h' h

theorem armed (h : p.KeepsArming q) (hp : p.tx.physicalPttArmed = true) :
    q.tx.physicalPttArmed = true :=
  Eq.trans h hp

end TxPlane.KeepsArming

variable (cb : TxCallbacks (TxContext ρ))

/-! ## The controller -/

namespace TxControl

/-- Stopping whoever transmits. -/
theorem keepsArming_stopOwner (graceful : Bool) (p : TxPlane ρ) :
    p.KeepsArming
      (TxPlane.after (stopOwner cb graceful p.tx p.toTxContext).2) := by
  by_cases howned : p.tx.owner = .none
  · rw [stopOwner_of_none cb graceful p.toTxContext howned]
    exact .refl p
  · rw [stopOwner_of_owner cb graceful p.toTxContext howned]
    rfl

theorem keepsArming_request (owner : TxOwner) (nowMs : UInt64)
    (p : TxPlane ρ) : p.KeepsArming
      (TxPlane.after (request cb owner nowMs p.tx p.toTxContext).2) := by
  obtain ⟨-, result, hr, -⟩ | ⟨-, -, hr⟩ | ⟨-, -, hr⟩ :=
    request_cases cb owner nowMs p.tx p.toTxContext
  · rw [hr]
    exact .refl p
  · rw [hr]
    rfl
  · rw [hr]
    rfl

theorem keepsArming_releaseWith (graceful : Bool) (owner : TxOwner)
    (p : TxPlane ρ) : p.KeepsArming (TxPlane.after
      (releaseWith cb graceful owner p.tx p.toTxContext).2) := by
  obtain ⟨-, result, -, hr⟩ | ⟨-, -, -, hr⟩ :=
    releaseWith_cases cb graceful owner p.tx p.toTxContext
  · rw [hr]
    exact .refl p
  · rw [hr]
    exact keepsArming_stopOwner cb graceful p

theorem keepsArming_tick (nowMs : UInt64) (p : TxPlane ρ) :
    p.KeepsArming (TxPlane.after (tick cb nowMs p.tx p.toTxContext).2) := by
  obtain ⟨-, result, -, -, hr⟩ | ⟨-, -, -, hr⟩ :=
    tick_cases cb nowMs p.tx p.toTxContext
  · rw [hr]
    exact .refl p
  · rw [hr]
    exact keepsArming_stopOwner cb false p

theorem keepsArming_shutdown (p : TxPlane ρ) :
    p.KeepsArming (TxPlane.after (shutdown cb p.tx p.toTxContext)) := by
  unfold shutdown
  split
  · exact keepsArming_stopOwner cb false p
  · exact .refl p

/-- The switch may arm itself, and disarms nothing. -/
theorem armed_physicalPtt (pressed : Bool) (nowMs : UInt64) {p : TxPlane ρ}
    (h : p.tx.physicalPttArmed = true) :
    (TxPlane.after (physicalPtt cb pressed nowMs p.tx
      p.toTxContext).2).tx.physicalPttArmed = true := by
  have hstopped (graceful : Bool) := keepsArming_stopOwner cb graceful
    { p with tx := p.tx.seen pressed }
  unfold physicalPtt
  split
  · exact h
  dsimp only
  split
  · rename_i hunarmed
    have : (p.tx.seen pressed).physicalPttArmed = true := h
    simp [this] at hunarmed
  split
  · split
    · exact (hstopped true).armed h
    · exact h
  split
  · split
    · exact (hstopped false).armed h
    · exact ((hstopped false).trans (keepsArming_request cb .physicalMic nowMs
        (TxPlane.after _))).armed h
  · exact (keepsArming_request cb .physicalMic nowMs
      { p with tx := p.tx.seen pressed }).armed h

end TxControl

/-! ## The sessions -/

namespace TuneControl

theorem keepsArming_reconcile (watchdogStop : Bool) (p : TxPlane ρ) :
    p.KeepsArming (reconcile watchdogStop p) := by
  unfold reconcile
  split
  · exact .refl p
  · exact .refl p

theorem keepsArming_stopActive (reason : TuneResult) (p : TxPlane ρ) :
    p.KeepsArming (stopActive cb reason p).2 := by
  unfold stopActive
  split
  · exact .refl p
  · exact TxControl.keepsArming_releaseWith cb false .tune p

theorem keepsArming_start (nowMs lease : UInt64) (p : TxPlane ρ) :
    p.KeepsArming (start cb nowMs lease p).2 := by
  have hrequested := TxControl.keepsArming_request cb .tune nowMs p
  unfold start
  split
  · exact .refl p
  split
  · exact .refl p
  split
  · exact .refl p
  dsimp only
  split
  · dsimp only
    split
    · exact hrequested
    · exact hrequested
  · exact hrequested

theorem keepsArming_keepalive (nowMs lease : UInt64) (p : TxPlane ρ) :
    p.KeepsArming (keepalive cb nowMs lease p).2 := by
  unfold keepalive
  split
  · exact .refl p
  split
  · exact .refl p
  split
  · exact keepsArming_stopActive cb _ p
  split
  · exact keepsArming_stopActive cb _ p
  · exact .refl p

theorem keepsArming_stop (lease : UInt64) (p : TxPlane ρ) :
    p.KeepsArming (stop cb lease p).2 := by
  unfold stop
  split
  · exact .refl p
  split
  · exact .refl p
  · exact keepsArming_stopActive cb _ p

theorem keepsArming_tick (nowMs : UInt64) (p : TxPlane ρ) :
    p.KeepsArming (tick cb nowMs p).2 := by
  unfold tick
  split
  · exact .refl p
  split
  · exact .refl p
  split
  · exact keepsArming_stopActive cb _ p
  split
  · exact keepsArming_stopActive cb _ p
  · exact .refl p

theorem keepsArming_shutdown (p : TxPlane ρ) :
    p.KeepsArming (shutdown cb p) := by
  unfold shutdown
  split
  · exact keepsArming_stopActive cb _ p
  · exact .refl p

end TuneControl

namespace NetworkTx

theorem keepsArming_reconcile (p : TxPlane ρ) :
    p.KeepsArming (reconcile p) := by
  unfold reconcile
  split
  · exact .refl p
  · exact .refl p

theorem keepsArming_stopIfKeyed (p : TxPlane ρ) :
    p.KeepsArming (stopIfKeyed cb p).2 := by
  unfold stopIfKeyed
  split
  · exact .refl p
  · exact TxControl.keepsArming_releaseWith cb false .http p

theorem keepsArming_acquire (profile : NetworkTxProfile)
    (lease nowMs : UInt64) (p : TxPlane ρ) :
    p.KeepsArming (acquire profile lease nowMs p).2 := by
  unfold acquire
  split
  · exact .refl p
  split
  · exact .refl p
  split
  · exact .refl p
  · exact .refl p

theorem keepsArming_pttStart (lease nowMs : UInt64) (p : TxPlane ρ) :
    p.KeepsArming (pttStart cb lease nowMs p).2 := by
  have hrequested := TxControl.keepsArming_request cb .http nowMs p
  unfold pttStart
  split
  · exact .refl p
  split
  · exact .refl p
  split
  · exact .refl p
  dsimp only
  split
  · exact hrequested
  split
  · exact hrequested
  · exact hrequested

theorem keepsArming_pttStop (lease : UInt64) (p : TxPlane ρ) :
    p.KeepsArming (pttStop cb lease p).2 := by
  unfold pttStop
  split
  · exact .refl p
  split
  · exact TxControl.keepsArming_releaseWith cb true .http p
  · exact .refl p

theorem keepsArming_release (lease : UInt64) (p : TxPlane ρ) :
    p.KeepsArming (release cb lease p).2 := by
  unfold release
  split
  · exact .refl p
  · exact keepsArming_stopIfKeyed cb p

theorem keepsArming_disconnectStream (p : TxPlane ρ) :
    p.KeepsArming (disconnectStream cb p).2 := by
  unfold disconnectStream
  split
  · exact .refl p
  · exact keepsArming_stopIfKeyed cb p

theorem keepsArming_tick (nowMs : UInt64) (p : TxPlane ρ) :
    p.KeepsArming (tick cb nowMs p).2 := by
  unfold tick
  split
  · exact .refl p
  split
  · exact .refl p
  · exact keepsArming_stopIfKeyed cb p

end NetworkTx

/-! ## Requests -/

namespace Api

variable {cb : TxCallbacks (TxContext (ApiWorld ρ))} {request : CText}
variable {radio : RadioInfo} {p q : TxPlane (ApiWorld ρ)}

theorem keepsArming_txLeaseRoute (lease : UInt64) :
    p.KeepsArming (txLeaseRoute cb request radio lease p).2 := by
  unfold txLeaseRoute
  dsimp only
  split
  · exact .refl p
  split
  · exact .refl p
  split
  · split
    · exact NetworkTx.keepsArming_pttStart cb lease _ p
    · exact .refl p
  split
  · exact NetworkTx.keepsArming_pttStop cb lease p
  split
  · exact NetworkTx.keepsArming_release cb lease p
  split
  · unfold txAudio
    split
    · exact .refl p
    split
    · exact .refl p
    extract_lets attached q r
    split
    · exact .refl p
    · exact .refl p
  · exact .refl p

/-- **No request disarms the switch.** -/
theorem Outcome.keepsArming (h : Outcome cb request radio p q) :
    p.KeepsArming q := by
  cases h with
  | untouched h => exact congrArg TxControl.physicalPttArmed h.tx
  | acquired => exact .refl p
  | renewed => exact .refl p
  | released => exact .refl p
  | reserved profile f =>
    exact NetworkTx.keepsArming_acquire profile _ _ p.sessionIssued
  | session f => exact keepsArming_txLeaseRoute (p := p) _
  | tuned => exact TuneControl.keepsArming_start cb _ _ p.tuneIssued
  | tuneRenewed lease => exact TuneControl.keepsArming_keepalive cb _ lease p
  | tuneStopped lease => exact TuneControl.keepsArming_stop cb lease p
  | timed seconds =>
    show (TxControl.setTimeoutSeconds seconds p.tx).2.physicalPttArmed = _
    unfold TxControl.setTimeoutSeconds
    split
    · rfl
    · rfl

end Api
