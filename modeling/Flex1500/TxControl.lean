import Mathlib.Algebra.Ring.Nat
import Mathlib.Data.List.Basic

/-!
# The transmit controller

`tx_control` decides who may hold the transmitter. It owns no hardware: it
is handed a start and a stop callback when it is initialised, and every
transition of the transmitter goes through one of them.

Both callbacks act on a context the controller knows nothing about, so they
are functions on an arbitrary type `κ`, and every operation threads the
context beside the controller. A callback is shown the controller as it
stands at the call. The code reaches it through the context pointer, and no
callback writes it. A null callback is a missing one, and the code treats
calling it as a failure.

Times are the `uint64_t` milliseconds of the code and wrap as they do
there.
-/

/-- Who can hold the transmitter (`flex1500_tx_owner`). -/
inductive TxOwner where
  | none | tune | physicalMic | http | soapy
  deriving DecidableEq, Repr

/-- Where the controller stands (`flex1500_tx_state`). -/
inductive TxState where
  | startupInhibit | rx | preparing | transmitting | unkeying | recovering
  | faulted
  deriving DecidableEq, Repr

/-- What an operation reports (`flex1500_tx_control_result`). -/
inductive TxControlResult where
  | ok | disabled | inhibited | busy | invalidOwner | hardwareError | maxKey
  deriving DecidableEq, Repr

/-- The controller's own record (`flex1500_tx_control`), the callbacks and
their context aside. -/
structure TxControl where
  enabled : Bool
  physicalPttArmed : Bool := false
  physicalPttPressed : Bool := false
  cleanupFailed : Bool := false
  owner : TxOwner := .none
  state : TxState
  startedMs : UInt64 := 0
  maximumKeyMs : UInt64
  deriving DecidableEq, Repr

/-- The callbacks of a controller, over the context `κ` they act on. `none`
is a null pointer. -/
structure TxCallbacks (κ : Type) where
  start : Option (TxOwner → TxControl → κ → Int × κ)
  stop : Option (TxOwner → Bool → TxControl → κ → Int × κ)

/-- `FLEX1500_TX_TIMEOUT_DEFAULT_SECONDS`. -/
def txTimeoutDefaultSeconds : ℕ := 180

/-- `FLEX1500_TX_TIMEOUT_MIN_SECONDS`. -/
def txTimeoutMinSeconds : ℕ := 30

/-- `FLEX1500_TX_TIMEOUT_MAX_SECONDS`. -/
def txTimeoutMaxSeconds : ℕ := 1800

variable {κ : Type}

/-- Calling the start callback, a missing one being a failure. -/
def TxCallbacks.callStart (cb : TxCallbacks κ) (owner : TxOwner)
    (control : TxControl) (k : κ) : Int × κ :=
  match cb.start with
  | some start => start owner control k
  | none => (-1, k)

/-- Calling the stop callback, a missing one being a failure. -/
def TxCallbacks.callStop (cb : TxCallbacks κ) (owner : TxOwner)
    (graceful : Bool) (control : TxControl) (k : κ) : Int × κ :=
  match cb.stop with
  | some stop => stop owner graceful control k
  | none => (-1, k)

/-- `valid_owner`. -/
def TxOwner.valid (owner : TxOwner) : Bool :=
  owner != .none

/-- `flex1500_tx_owner_name`. -/
def TxOwner.name : TxOwner → String
  | .none => "none"
  | .tune => "tune"
  | .physicalMic => "physical_mic"
  | .http => "http"
  | .soapy => "soapy"

/-- `flex1500_tx_state_name`. -/
def TxState.name : TxState → String
  | .startupInhibit => "startup_inhibit"
  | .rx => "rx"
  | .preparing => "preparing"
  | .transmitting => "transmitting"
  | .unkeying => "unkeying"
  | .recovering => "recovering"
  | .faulted => "faulted"

namespace TxControl

/-- `flex1500_tx_control_init`. -/
def init (enabled : Bool) (maximumKeyMs : UInt64) : TxControl where
  enabled := enabled
  state := if enabled then .startupInhibit else .rx
  maximumKeyMs := maximumKeyMs

/-- `stop_owner`: the owner is stopped and given up, whatever the callback
says; a failure faults the controller. -/
def stopOwner (cb : TxCallbacks κ) (graceful : Bool) (control : TxControl)
    (k : κ) : TxControlResult × TxControl × κ :=
  if control.owner = .none then (.ok, control, k)
  else
    let unkeying := { control with state := .unkeying }
    let called := cb.callStop control.owner graceful unkeying k
    (if called.1 = 0 then .ok else .hardwareError,
      { unkeying with
        cleanupFailed := called.1 != 0
        owner := .none
        startedMs := 0
        state := if called.1 = 0 then .rx else .faulted },
      called.2)

/-- The assignments that arm physical PTT, which end the startup
inhibit. -/
def arming (control : TxControl) : TxControl :=
  { control with
    physicalPttArmed := true
    state := if control.state = .startupInhibit then .rx else control.state }

/-- `flex1500_tx_control_arm_physical_ptt`. -/
def armPhysicalPtt (control : TxControl) : TxControl :=
  if !control.enabled || control.owner != .none then control
  else control.arming

/-- `flex1500_tx_control_request`. -/
def request (cb : TxCallbacks κ) (owner : TxOwner) (nowMs : UInt64)
    (control : TxControl) (k : κ) : TxControlResult × TxControl × κ :=
  if !control.enabled then (.disabled, control, k)
  else if !owner.valid then (.invalidOwner, control, k)
  else if owner = .physicalMic ∧ control.physicalPttArmed = false then
    (.inhibited, control, k)
  else if control.state = .faulted ∨ control.state = .recovering then
    (.inhibited, control, k)
  else if control.owner = owner then (.ok, control, k)
  else if control.owner ≠ .none then (.busy, control, k)
  else
    let preparing := { control with cleanupFailed := false, state := .preparing }
    let started := cb.callStart owner preparing k
    if started.1 ≠ 0 then
      let cleaned := cb.callStop owner false preparing started.2
      (.hardwareError,
        { preparing with cleanupFailed := cleaned.1 != 0, state := .faulted },
        cleaned.2)
    else
      (.ok,
        { preparing with
          owner := owner, startedMs := nowMs, state := .transmitting },
        started.2)

/-- The shape `flex1500_tx_control_release` and `_release_graceful` share. -/
def releaseWith (cb : TxCallbacks κ) (graceful : Bool) (owner : TxOwner)
    (control : TxControl) (k : κ) : TxControlResult × TxControl × κ :=
  if !control.enabled then (.disabled, control, k)
  else if !owner.valid then (.invalidOwner, control, k)
  else if control.owner ≠ owner then (.busy, control, k)
  else stopOwner cb graceful control k

/-- `flex1500_tx_control_release`. -/
def release (cb : TxCallbacks κ) (owner : TxOwner) (control : TxControl)
    (k : κ) : TxControlResult × TxControl × κ :=
  releaseWith cb false owner control k

/-- `flex1500_tx_control_release_graceful`. -/
def releaseGraceful (cb : TxCallbacks κ) (owner : TxOwner)
    (control : TxControl) (k : κ) : TxControlResult × TxControl × κ :=
  releaseWith cb true owner control k

/-- The controller with the position of the microphone switch noted. -/
def seen (control : TxControl) (pressed : Bool) : TxControl :=
  { control with physicalPttPressed := pressed }

/-- `flex1500_tx_control_physical_ptt`: a press takes the transmitter from
anybody but the microphone itself, provided the stop succeeds. -/
def physicalPtt (cb : TxCallbacks κ) (pressed : Bool) (nowMs : UInt64)
    (control : TxControl) (k : κ) : TxControlResult × TxControl × κ :=
  if !control.enabled then (.disabled, control, k)
  else
    let seen := control.seen pressed
    if !seen.physicalPttArmed then
      if pressed then (.inhibited, seen, k) else (.ok, seen.arming, k)
    else if !pressed then
      if seen.owner = .physicalMic then stopOwner cb true seen k
      else (.ok, seen, k)
    else if seen.owner ≠ .none ∧ seen.owner ≠ .physicalMic then
      let stopped := stopOwner cb false seen k
      if stopped.1 ≠ .ok then stopped
      else request cb .physicalMic nowMs stopped.2.1 stopped.2.2
    else request cb .physicalMic nowMs seen k

/-- `flex1500_tx_control_tick`. -/
def tick (cb : TxCallbacks κ) (nowMs : UInt64) (control : TxControl)
    (k : κ) : TxControlResult × TxControl × κ :=
  if !control.enabled then (.disabled, control, k)
  else if control.owner = .none ∨ control.state ≠ .transmitting then
    (.ok, control, k)
  else if control.maximumKeyMs ≠ 0 ∧
      control.maximumKeyMs ≤ nowMs - control.startedMs then
    let stopped := stopOwner cb false control k
    (if stopped.1 = .ok then .maxKey else stopped.1, stopped.2)
  else (.ok, control, k)

/-- `flex1500_tx_control_shutdown`. -/
def shutdown (cb : TxCallbacks κ) (control : TxControl) (k : κ) :
    TxControl × κ :=
  if control.owner ≠ .none then (stopOwner cb false control k).2
  else (control, k)

/-- `flex1500_tx_control_set_timeout_seconds`. -/
def setTimeoutSeconds (seconds : ℕ) (control : TxControl) :
    Bool × TxControl :=
  if control.owner ≠ .none ∨ seconds < txTimeoutMinSeconds ∨
      txTimeoutMaxSeconds < seconds then (false, control)
  else
    (true, { control with maximumKeyMs := UInt64.ofNat seconds * 1000 })

/-- `flex1500_tx_control_timeout_seconds`. -/
def timeoutSeconds (control : TxControl) : ℕ :=
  (control.maximumKeyMs / 1000).toNat % 2 ^ 32

/-! ## What an operation can do

The operations are unfolded once, here. Everything later reads the cases
off these lemmas. -/

/-- **Between operations** the controller transmits exactly when it has an
owner, and never rests in one of the states it only passes through. -/
structure Settled (control : TxControl) : Prop where
  /-- An owner is a transmission. -/
  owner_iff : control.owner ≠ .none ↔ control.state = .transmitting
  /-- Preparing, unkeying and recovering are passed through, not rested in. -/
  resting : control.state ≠ .preparing ∧ control.state ≠ .unkeying
    ∧ control.state ≠ .recovering

/-- A freshly initialised controller is settled. -/
theorem settled_init (enabled : Bool) (maximumKeyMs : UInt64) :
    (init enabled maximumKeyMs).Settled := by
  cases enabled <;> exact ⟨by simp [init], by simp [init]⟩

/-- A controller with physical PTT armed from the start is settled. -/
theorem settled_armed (enabled : Bool) (maximumKeyMs : UInt64) :
    (armPhysicalPtt (init enabled maximumKeyMs)).Settled := by
  cases enabled <;>
    exact ⟨by simp [armPhysicalPtt, arming, init],
      by simp [armPhysicalPtt, arming, init]⟩

/-- Arming physical PTT gives the transmitter to nobody. -/
@[simp] theorem owner_armed (enabled : Bool) (maximumKeyMs : UInt64) :
    (armPhysicalPtt (init enabled maximumKeyMs)).owner = .none := by
  cases enabled <;> rfl

@[simp] theorem stopOwner_of_none (cb : TxCallbacks κ) (graceful : Bool)
    {control : TxControl} (k : κ) (h : control.owner = .none) :
    stopOwner cb graceful control k = (.ok, control, k) := by
  rw [stopOwner, if_pos h]

/-- The record `stop_owner` leaves after the callback answered `result`. -/
def stopped (control : TxControl) (result : Int) : TxControl :=
  { control with
    cleanupFailed := result != 0
    owner := .none
    startedMs := 0
    state := if result = 0 then .rx else .faulted }

/-- The record a request leaves when it granted the transmitter. -/
def granted (control : TxControl) (owner : TxOwner) (nowMs : UInt64) :
    TxControl :=
  { control with
    cleanupFailed := false, owner := owner, startedMs := nowMs
    state := .transmitting }

/-- The record a request leaves when the start failed and the cleanup
answered `result`. -/
def refused (control : TxControl) (result : Int) : TxControl :=
  { control with cleanupFailed := result != 0, state := .faulted }

/-- The controller a start callback is shown. -/
def preparing (control : TxControl) : TxControl :=
  { control with cleanupFailed := false, state := .preparing }

/-- The controller a stop callback is shown when an owner is stopped. -/
def unkeying (control : TxControl) : TxControl :=
  { control with state := .unkeying }

/-- With an owner, `stop_owner` calls the stop callback once and gives the
owner up. -/
theorem stopOwner_of_owner (cb : TxCallbacks κ) (graceful : Bool)
    {control : TxControl} (k : κ) (h : control.owner ≠ .none) :
    stopOwner cb graceful control k
      = (if (cb.callStop control.owner graceful control.unkeying k).1 = 0
          then .ok else .hardwareError,
        control.stopped (cb.callStop control.owner graceful control.unkeying k).1,
        (cb.callStop control.owner graceful control.unkeying k).2) := by
  rw [stopOwner, if_neg h]
  rfl

/-- Whether a request reaches the start callback. -/
def Admits (control : TxControl) (owner : TxOwner) : Prop :=
  control.enabled = true ∧ owner ≠ .none
    ∧ (owner = .physicalMic → control.physicalPttArmed = true)
    ∧ control.state ≠ .faulted ∧ control.state ≠ .recovering
    ∧ control.owner = .none

instance (control : TxControl) (owner : TxOwner) :
    Decidable (control.Admits owner) :=
  inferInstanceAs (Decidable (_ ∧ _))

/-- **What a request can do**: nothing, grant the transmitter, or fail to
start and clean up after itself. -/
theorem request_cases (cb : TxCallbacks κ) (owner : TxOwner) (nowMs : UInt64)
    (control : TxControl) (k : κ) :
    (¬ control.Admits owner ∧ ∃ result,
        request cb owner nowMs control k = (result, control, k)
          ∧ (result = .ok →
              control.enabled = true ∧ owner ≠ .none ∧ control.owner = owner))
    ∨ (control.Admits owner ∧ (cb.callStart owner control.preparing k).1 = 0
        ∧ request cb owner nowMs control k
          = (.ok, control.granted owner nowMs,
              (cb.callStart owner control.preparing k).2))
    ∨ (control.Admits owner ∧ (cb.callStart owner control.preparing k).1 ≠ 0
        ∧ request cb owner nowMs control k
          = (.hardwareError,
              control.refused (cb.callStop owner false control.preparing
                (cb.callStart owner control.preparing k).2).1,
              (cb.callStop owner false control.preparing
                (cb.callStart owner control.preparing k).2).2)) := by
  unfold request
  by_cases he : control.enabled = true
  swap
  · exact Or.inl ⟨fun h => he h.1, .disabled, by rw [if_pos (by simpa using he)],
      by simp⟩
  rw [if_neg (by simpa using he)]
  by_cases hv : owner = .none
  · exact Or.inl ⟨fun h => h.2.1 hv, .invalidOwner,
      by rw [if_pos (by simp [hv, TxOwner.valid])], by simp⟩
  rw [if_neg (by simpa [TxOwner.valid] using hv)]
  by_cases ha : owner = .physicalMic ∧ control.physicalPttArmed = false
  · exact Or.inl ⟨fun h => by simpa [ha.2] using h.2.2.1 ha.1, .inhibited,
      by rw [if_pos ha], by simp⟩
  rw [if_neg ha]
  by_cases hs : control.state = .faulted ∨ control.state = .recovering
  · exact Or.inl ⟨fun h => hs.elim h.2.2.2.1 h.2.2.2.2.1, .inhibited,
      by rw [if_pos hs], by simp⟩
  rw [if_neg hs]
  by_cases ho : control.owner = owner
  · exact Or.inl ⟨fun h => hv (ho.symm.trans h.2.2.2.2.2), .ok,
      by rw [if_pos ho], fun _ => ⟨he, hv, ho⟩⟩
  rw [if_neg ho]
  by_cases hn : control.owner = .none
  swap
  · exact Or.inl ⟨fun h => hn h.2.2.2.2.2, .busy, by rw [if_pos hn], by simp⟩
  rw [if_neg (not_not.mpr hn)]
  have hadm : control.Admits owner :=
    ⟨he, hv, fun h => by simpa using fun hf => ha ⟨h, hf⟩,
      fun h => hs (Or.inl h), fun h => hs (Or.inr h), hn⟩
  by_cases hr : (cb.callStart owner control.preparing k).1 = 0
  · exact Or.inr (Or.inl ⟨hadm, hr, if_neg (not_not.mpr hr)⟩)
  · exact Or.inr (Or.inr ⟨hadm, hr, if_pos hr⟩)

/-- A release stops the named owner, or does nothing. -/
theorem releaseWith_cases (cb : TxCallbacks κ) (graceful : Bool)
    (owner : TxOwner) (control : TxControl) (k : κ) :
    ((control.enabled = false ∨ owner = .none ∨ control.owner ≠ owner)
        ∧ ∃ result, result ≠ .ok
          ∧ releaseWith cb graceful owner control k = (result, control, k))
    ∨ (control.enabled = true ∧ owner ≠ .none ∧ control.owner = owner
        ∧ releaseWith cb graceful owner control k
          = stopOwner cb graceful control k) := by
  unfold releaseWith
  by_cases he : control.enabled = true
  swap
  · exact Or.inl ⟨Or.inl (by simpa using he), .disabled, by simp, by simp [he]⟩
  by_cases hv : owner = .none
  · exact Or.inl ⟨Or.inr (Or.inl hv), .invalidOwner, by simp,
      by simp [he, hv, TxOwner.valid]⟩
  have hvalid : owner.valid = true := by simpa [TxOwner.valid] using hv
  by_cases ho : control.owner = owner
  · exact Or.inr ⟨he, hv, ho, by simp [he, hvalid, ho]⟩
  · exact Or.inl ⟨Or.inr (Or.inr ho), .busy, by simp, by simp [he, hvalid, ho]⟩

/-- **A quiet change**: no owner, no fault and no time is touched, at most
the startup inhibit ends. -/
structure Quiet (control control' : TxControl) : Prop where
  owner : control'.owner = control.owner
  startedMs : control'.startedMs = control.startedMs
  maximumKeyMs : control'.maximumKeyMs = control.maximumKeyMs
  enabled : control'.enabled = control.enabled
  state : control'.state = control.state
    ∨ (control.state = .startupInhibit ∧ control'.state = .rx)

theorem Quiet.rfl {control : TxControl} : control.Quiet control :=
  ⟨.refl _, .refl _, .refl _, .refl _, Or.inl (.refl _)⟩

/-- Noting the switch is quiet. -/
theorem quiet_seen (control : TxControl) (pressed : Bool) :
    control.Quiet (control.seen pressed) :=
  ⟨rfl, rfl, rfl, rfl, Or.inl rfl⟩

/-- Arming is quiet. -/
theorem quiet_arming (control : TxControl) : control.Quiet control.arming := by
  refine ⟨rfl, rfl, rfl, rfl, ?_⟩
  by_cases h : control.state = .startupInhibit
  · exact Or.inr ⟨h, if_pos h⟩
  · exact Or.inl (if_neg h)

theorem Quiet.trans {c₁ c₂ c₃ : TxControl} (h : c₁.Quiet c₂)
    (h' : c₂.Quiet c₃) : c₁.Quiet c₃ := by
  refine ⟨h'.owner.trans h.owner, h'.startedMs.trans h.startedMs,
    h'.maximumKeyMs.trans h.maximumKeyMs, h'.enabled.trans h.enabled, ?_⟩
  rcases h.state with h₁ | ⟨h₁, h₂⟩ <;> rcases h'.state with h₃ | ⟨h₃, h₄⟩
  · exact Or.inl (h₃.trans h₁)
  · exact Or.inr ⟨h₁ ▸ h₃, h₄⟩
  · exact Or.inr ⟨h₁, h₃.trans h₂⟩
  · exact Or.inr ⟨h₁, h₄⟩

/-- Arming physical PTT from outside is quiet. -/
theorem quiet_armPhysicalPtt (control : TxControl) :
    control.Quiet control.armPhysicalPtt := by
  unfold armPhysicalPtt
  split
  · exact Quiet.rfl
  · exact quiet_arming control

/-- A quiet change keeps a controller settled. -/
theorem Settled.quiet {control control' : TxControl} (h : control.Settled)
    (hq : control.Quiet control') : control'.Settled := by
  have := h.owner_iff
  have := h.resting
  have := hq.owner
  rcases hq.state with hs | ⟨hs, hs'⟩ <;> constructor <;> simp_all

/-- A controller that was stopped is settled. -/
theorem settled_stopped (control : TxControl) (result : Int) :
    (control.stopped result).Settled := by
  by_cases h : result = 0 <;> exact ⟨by simp [stopped, h], by simp [stopped, h]⟩

/-- A controller that granted a request is settled. -/
theorem settled_granted (control : TxControl) {owner : TxOwner}
    (h : owner ≠ .none) (nowMs : UInt64) :
    (control.granted owner nowMs).Settled := by
  constructor <;> simp [granted, h]

/-- A controller without owner that refused a request is settled. -/
theorem settled_refused {control : TxControl} (h : control.owner = .none)
    (result : Int) : (control.refused result).Settled := by
  constructor <;> simp [refused, h]

/-- **What a physical PTT edge can do**: nothing but note the switch, stop
the microphone, stop another owner and fail at it, or ask for the
microphone – after stopping another owner, or with nobody in the way. -/
theorem physicalPtt_cases (cb : TxCallbacks κ) (pressed : Bool)
    (nowMs : UInt64) (control : TxControl) (k : κ) :
    (¬ (control.enabled = true ∧ control.physicalPttArmed = true
          ∧ pressed = true)
        ∧ (pressed = false → control.enabled = true →
            control.physicalPttArmed = true → control.owner ≠ .physicalMic)
        ∧ ∃ result control', control.Quiet control' ∧ result ≠ .hardwareError
          ∧ physicalPtt cb pressed nowMs control k = (result, control', k))
    ∨ (control.enabled = true ∧ control.physicalPttArmed = true
        ∧ pressed = false ∧ control.owner = .physicalMic
        ∧ physicalPtt cb pressed nowMs control k
          = stopOwner cb true (control.seen pressed) k)
    ∨ (control.enabled = true ∧ control.physicalPttArmed = true
        ∧ pressed = true ∧ control.owner ≠ .none
        ∧ control.owner ≠ .physicalMic
        ∧ (stopOwner cb false (control.seen pressed) k).1 ≠ .ok
        ∧ physicalPtt cb pressed nowMs control k
          = stopOwner cb false (control.seen pressed) k)
    ∨ (control.enabled = true ∧ control.physicalPttArmed = true
        ∧ pressed = true ∧ control.owner ≠ .none
        ∧ control.owner ≠ .physicalMic
        ∧ (stopOwner cb false (control.seen pressed) k).1 = .ok
        ∧ physicalPtt cb pressed nowMs control k
          = request cb .physicalMic nowMs
              (stopOwner cb false (control.seen pressed) k).2.1
              (stopOwner cb false (control.seen pressed) k).2.2)
    ∨ (control.enabled = true ∧ control.physicalPttArmed = true
        ∧ pressed = true
        ∧ (control.owner = .none ∨ control.owner = .physicalMic)
        ∧ physicalPtt cb pressed nowMs control k
          = request cb .physicalMic nowMs (control.seen pressed) k) := by
  unfold physicalPtt
  dsimp only
  rw [show (control.seen pressed).physicalPttArmed = control.physicalPttArmed
      from rfl,
    show (control.seen pressed).owner = control.owner from rfl]
  by_cases he : control.enabled = true
  swap
  · rw [if_pos (by simpa using he)]
    exact Or.inl ⟨fun h => he h.1, fun _ h => absurd h he, .disabled, control,
      Quiet.rfl, by simp, rfl⟩
  rw [if_neg (by simpa using he)]
  by_cases ha : control.physicalPttArmed = true
  swap
  · rw [if_pos (by simpa using ha)]
    refine Or.inl ⟨fun h => ha h.2.1, fun _ _ h => absurd h ha, ?_⟩
    cases pressed with
    | true => exact ⟨.inhibited, _, quiet_seen control true, by simp, rfl⟩
    | false =>
      exact ⟨.ok, _, (quiet_seen control false).trans (quiet_arming _),
        by simp, rfl⟩
  rw [if_neg (by simpa using ha)]
  cases pressed with
  | false =>
    rw [if_pos (by simp)]
    by_cases hm : control.owner = .physicalMic
    · exact Or.inr (Or.inl ⟨he, ha, rfl, hm, by rw [if_pos hm]⟩)
    · exact Or.inl ⟨by simp, fun _ _ _ => hm, .ok, _, quiet_seen control false,
        by simp, by rw [if_neg hm]⟩
  | true =>
    rw [if_neg (by simp)]
    by_cases ho : control.owner ≠ .none ∧ control.owner ≠ .physicalMic
    · rw [if_pos ho]
      by_cases hs : (stopOwner cb false (control.seen true) k).1 = .ok
      · exact Or.inr (Or.inr (Or.inr (Or.inl
          ⟨he, ha, rfl, ho.1, ho.2, hs, if_neg (not_not.mpr hs)⟩)))
      · exact Or.inr (Or.inr (Or.inl ⟨he, ha, rfl, ho.1, ho.2, hs, if_pos hs⟩))
    · refine Or.inr (Or.inr (Or.inr (Or.inr ⟨he, ha, rfl, ?_, if_neg ho⟩)))
      by_cases hn : control.owner = .none
      · exact Or.inl hn
      · exact Or.inr (not_not.mp fun hm => ho ⟨hn, hm⟩)

/-- **What a tick can do**: nothing, or stop the owner whose time is up. -/
theorem tick_cases (cb : TxCallbacks κ) (nowMs : UInt64)
    (control : TxControl) (k : κ) :
    ((control.enabled = true → control.owner ≠ .none →
          control.state = .transmitting → control.maximumKeyMs ≠ 0 →
          nowMs - control.startedMs < control.maximumKeyMs)
        ∧ ∃ result, result ≠ .maxKey ∧ result ≠ .hardwareError
          ∧ tick cb nowMs control k = (result, control, k))
    ∨ (control.enabled = true ∧ control.owner ≠ .none
        ∧ control.maximumKeyMs ≤ nowMs - control.startedMs
        ∧ tick cb nowMs control k
          = (if (stopOwner cb false control k).1 = .ok then .maxKey
              else (stopOwner cb false control k).1,
            (stopOwner cb false control k).2)) := by
  unfold tick
  by_cases he : control.enabled = true
  swap
  · rw [if_pos (by simpa using he)]
    exact Or.inl ⟨fun h => absurd h he, .disabled, by simp, by simp, rfl⟩
  rw [if_neg (by simpa using he)]
  by_cases ho : control.owner = .none ∨ control.state ≠ .transmitting
  · rw [if_pos ho]
    exact Or.inl ⟨fun _ h h' => ho.elim (fun hn => absurd hn h)
      (fun hn => absurd h' hn), .ok, by simp, by simp, rfl⟩
  rw [if_neg ho]
  by_cases hm : control.maximumKeyMs ≠ 0 ∧
      control.maximumKeyMs ≤ nowMs - control.startedMs
  · rw [if_pos hm]
    exact Or.inr ⟨he, fun h => ho (Or.inl h), hm.2, rfl⟩
  · rw [if_neg hm]
    exact Or.inl ⟨fun _ _ _ h => UInt64.not_le.mp fun h' => hm ⟨h, h'⟩, .ok,
      by simp, by simp, rfl⟩

end TxControl
