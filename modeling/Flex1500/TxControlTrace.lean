import Flex1500.Lib.Exclusive
import Flex1500.TxControl

/-!
# The trace of the transmit controller

What the controller does to the radio is the sequence of callbacks it
invokes. This module records that sequence, for callbacks that may answer
anything at every call, and shows that it is a trace of `Exclusive`'s
discipline: uses that are opened and closed by one owner, failed starts
cleaned up at once, and nothing started after a failure.

The refinement is one step lemma for each operation (`Step`): the events an
operation appends take the phase read off the controller before it to the
phase read off the controller after it. `TxControl.phase` is that reading.
-/

/-- One callback invocation: a start with its result, or a stop with the
graceful flag and its result. -/
abbrev TxEvent := Exclusive.Event TxOwner Int (Bool × Int)

namespace TxEvent

/-- A start succeeded when it returned zero. -/
def okStart (result : Int) : Bool := result == 0

/-- A stop succeeded when it returned zero, graceful or not. -/
def okStop (outcome : Bool × Int) : Bool := outcome.2 == 0

/-- Whether a callback returned a failure. -/
abbrev failed (e : TxEvent) : Bool :=
  Exclusive.Event.failed okStart okStop e

end TxEvent

/-- The operations of the controller, each with the arguments its caller
chooses. -/
inductive TxOperation where
  | armPhysicalPtt
  | request (owner : TxOwner) (nowMs : UInt64)
  | release (owner : TxOwner)
  | releaseGraceful (owner : TxOwner)
  | physicalPtt (pressed : Bool) (nowMs : UInt64)
  | tick (nowMs : UInt64)
  | shutdown
  | setTimeoutSeconds (seconds : ℕ)

/-- The owner a request or a release is made for. -/
def TxOperation.subject : TxOperation → Option TxOwner
  | .request owner _ | .release owner | .releaseGraceful owner => some owner
  | .armPhysicalPtt | .physicalPtt _ _ | .tick _ | .shutdown
  | .setTimeoutSeconds _ => none

variable {κ : Type}

/-- Two callbacks, both present, that also write down each invocation and
its result. -/
def TxCallbacks.traced (start : TxOwner → TxControl → κ → Int × κ)
    (stop : TxOwner → Bool → TxControl → κ → Int × κ) :
    TxCallbacks (κ × List TxEvent) where
  start := some (fun owner control k =>
    ((start owner control k.1).1,
      (start owner control k.1).2, k.2 ++ [.start owner (start owner control k.1).1]))
  stop := some (fun owner graceful control k =>
    ((stop owner graceful control k.1).1,
      (stop owner graceful control k.1).2,
      k.2 ++ [.stop owner (graceful, (stop owner graceful control k.1).1)]))

namespace TxControl

/-- Performing one operation. -/
def perform (cb : TxCallbacks κ) (operation : TxOperation)
    (s : TxControl × κ) : TxControl × κ :=
  match operation with
  | .armPhysicalPtt => (s.1.armPhysicalPtt, s.2)
  | .request owner nowMs => (request cb owner nowMs s.1 s.2).2
  | .release owner => (release cb owner s.1 s.2).2
  | .releaseGraceful owner => (releaseGraceful cb owner s.1 s.2).2
  | .physicalPtt pressed nowMs => (physicalPtt cb pressed nowMs s.1 s.2).2
  | .tick nowMs => (tick cb nowMs s.1 s.2).2
  | .shutdown => shutdown cb s.1 s.2
  | .setTimeoutSeconds seconds => ((setTimeoutSeconds seconds s.1).2, s.2)

/-- Performing a sequence of operations, first to last. -/
def performAll (cb : TxCallbacks κ) (operations : List TxOperation)
    (s : TxControl × κ) : TxControl × κ :=
  operations.foldl (fun s operation => perform cb operation s) s

/-- **The controller as a phase of the discipline**: held by its owner, or
else faulted or idle. -/
def phase (control : TxControl) : Exclusive.Phase TxOwner :=
  if control.owner ≠ .none then .held control.owner
  else if control.state = .faulted then .faulted else .idle

/-- The phase of a controller with an owner. -/
theorem phase_of_owner {control : TxControl} (h : control.owner ≠ .none) :
    control.phase = .held control.owner := if_pos h

/-- The phase of a controller without one. -/
theorem phase_of_none {control : TxControl} (h : control.owner = .none) :
    control.phase = if control.state = .faulted then .faulted else .idle :=
  if_neg (not_not.mpr h)

/-- A phase read off a controller is never in the middle of an abort. -/
theorem phase_ne_aborting (control : TxControl) (owner : TxOwner) :
    control.phase ≠ .aborting owner := by
  unfold phase
  split
  · simp
  · split <;> simp

variable (start : TxOwner → TxControl → κ → Int × κ)
variable (stop : TxOwner → Bool → TxControl → κ → Int × κ)

/-- The state of a traced run: the controller, the callbacks' context, and
the trace so far. -/
abbrev TracedState (κ : Type) := TxControl × κ × List TxEvent

/-- **A step of the refinement**: the events appended between two settled
controllers take the phase of the first to the phase of the second. -/
structure Step (s s' : TracedState κ) (events : List TxEvent) : Prop where
  /-- The trace grew by the events. -/
  trace : s'.2.2 = s.2.2 ++ events
  /-- The controller is settled again. -/
  settled : s'.1.Settled
  /-- The automaton accepts the events. -/
  run : s.1.phase.run TxEvent.okStart TxEvent.okStop events = some s'.1.phase
  /-- Enabling is decided at initialisation. -/
  enabled : s'.1.enabled = s.1.enabled

/-- A step that invokes no callback and moves neither owner nor fault. -/
theorem Step.quiet {s : TracedState κ} {control : TxControl}
    (hs : control.Settled) (hp : control.phase = s.1.phase)
    (he : control.enabled = s.1.enabled) :
    Step s (control, s.2) [] :=
  ⟨(List.append_nil _).symm, hs, congrArg some hp.symm, he⟩

/-- Steps compose. -/
theorem Step.trans {s s' s'' : TracedState κ} {es fs : List TxEvent}
    (h : Step s s' es) (h' : Step s' s'' fs) : Step s s'' (es ++ fs) :=
  ⟨by rw [h'.trace, h.trace, List.append_assoc], h'.settled,
    by rw [Exclusive.Phase.run_append_of_eq _ _ h.run, h'.run],
    h'.enabled.trans h.enabled⟩

/-- Stopping the owner is one stop event for it. -/
theorem stopOwner_step (graceful : Bool) {s : TracedState κ}
    (ho : s.1.owner ≠ .none) :
    ∃ result, Step s
        (stopOwner (TxCallbacks.traced start stop) graceful s.1 s.2).2
        [.stop s.1.owner (graceful, result)]
      ∧ ((stopOwner (TxCallbacks.traced start stop) graceful s.1 s.2).1 = .ok
          ↔ result = 0)
      ∧ (stopOwner (TxCallbacks.traced start stop) graceful s.1 s.2).2.1
          = s.1.stopped result := by
  rw [stopOwner_of_owner _ _ _ ho]
  refine ⟨(stop s.1.owner graceful s.1.unkeying s.2.1).1,
    ⟨rfl, settled_stopped _ _, ?_, rfl⟩, ?_, rfl⟩
  · rw [phase_of_owner ho, phase_of_none rfl]
    by_cases hr : (stop s.1.owner graceful s.1.unkeying s.2.1).1 = 0 <;>
      simp [Exclusive.Phase.next, TxEvent.okStop, stopped, hr,
        TxCallbacks.traced, TxCallbacks.callStop]
  · show (if (stop s.1.owner graceful s.1.unkeying s.2.1).1 = 0 then
      TxControlResult.ok else .hardwareError) = .ok ↔ _
    split <;> simp [*]

/-- **What a request appends**: nothing, a start that succeeded, or a start
that failed with its cleanup. All of it is for the owner that asked. -/
theorem request_step (owner : TxOwner) (nowMs : UInt64) {s : TracedState κ}
    (hs : s.1.Settled) :
    ∃ events, Step s
        (request (TxCallbacks.traced start stop) owner nowMs s.1 s.2).2 events
      ∧ (events = [] ∨ events = [.start owner 0]
        ∨ ∃ r r', r ≠ 0 ∧ events = [.start owner r, .stop owner (false, r')]) := by
  rcases request_cases (TxCallbacks.traced start stop) owner nowMs s.1 s.2 with
    ⟨-, result, heq, -⟩ | ⟨ha, hr, heq⟩ | ⟨ha, hr, heq⟩
  · rw [heq]
    exact ⟨[], Step.quiet hs rfl rfl, Or.inl rfl⟩
  · -- admitted, and the start succeeded
    have hphase : s.1.phase = .idle := by
      rw [phase_of_none ha.2.2.2.2.2, if_neg ha.2.2.2.1]
    have hr' : (start owner s.1.preparing s.2.1).1 = 0 := hr
    rw [heq]
    refine ⟨[.start owner 0], ⟨?_, ⟨?_, ?_⟩, ?_, rfl⟩, Or.inr (Or.inl rfl)⟩
    · show s.2.2 ++ [.start owner (start owner s.1.preparing s.2.1).1] = _
      rw [hr']
    · simp [granted, ha.2.1]
    · simp [granted]
    · rw [hphase, phase_of_owner (show (s.1.granted owner nowMs).owner ≠ .none from ha.2.1)]
      rfl
  · -- admitted, the start failed, and the owner was stopped at once
    have hphase : s.1.phase = .idle := by
      rw [phase_of_none ha.2.2.2.2.2, if_neg ha.2.2.2.1]
    have hr' : (start owner s.1.preparing s.2.1).1 ≠ 0 := hr
    rw [heq]
    refine ⟨[.start owner (start owner s.1.preparing s.2.1).1,
        .stop owner (false, (stop owner false s.1.preparing
          (start owner s.1.preparing s.2.1).2).1)],
      ⟨List.append_assoc _ _ _, ⟨?_, ?_⟩, ?_, rfl⟩,
      Or.inr (Or.inr ⟨_, _, hr', rfl⟩)⟩
    · simp [refused, ha.2.2.2.2.2]
    · simp [refused]
    · have hfault : ∀ r, (s.1.refused r).phase = .faulted := fun r => by
        rw [phase_of_none (show (s.1.refused r).owner = .none from ha.2.2.2.2.2)]
        rfl
      rw [hphase, hfault]
      simp [Exclusive.Phase.next, TxEvent.okStart, hr']

/-- **What a release appends**: nothing, or one stop for the owner
named. -/
theorem releaseWith_step (graceful : Bool) (owner : TxOwner)
    {s : TracedState κ} (hs : s.1.Settled) :
    ∃ events, Step s
        (releaseWith (TxCallbacks.traced start stop) graceful owner s.1 s.2).2
        events
      ∧ (events = [] ∨ ∃ r, events = [.stop owner (graceful, r)]) := by
  rcases releaseWith_cases (TxCallbacks.traced start stop) graceful owner s.1 s.2
    with ⟨-, result, -, heq⟩ | ⟨-, hv, ho, heq⟩
  · rw [heq]
    exact ⟨[], Step.quiet hs rfl rfl, Or.inl rfl⟩
  · obtain ⟨r, hstep, -⟩ := stopOwner_step start stop graceful
      (s := s) (ho ▸ hv)
    rw [heq]
    exact ⟨_, hstep, Or.inr ⟨r, by rw [ho]⟩⟩

/-- A quiet change leaves the phase where it was. -/
theorem phase_of_quiet {control control' : TxControl}
    (hq : control.Quiet control') : control'.phase = control.phase := by
  unfold phase
  rw [hq.owner]
  rcases hq.state with hs | ⟨hs, hs'⟩
  · rw [hs]
  · rw [hs, hs']
    rfl

/-- A quiet change is a step that appends nothing. -/
theorem Step.of_quiet {s : TracedState κ} {control : TxControl}
    (hs : s.1.Settled) (hq : s.1.Quiet control) : Step s (control, s.2) [] :=
  Step.quiet (hs.quiet hq) (phase_of_quiet hq) hq.enabled

/-- A new maximum key time is neither an owner nor a fault. -/
theorem setTimeoutSeconds_step (seconds : ℕ) {s : TracedState κ}
    (hs : s.1.Settled) :
    Step s ((setTimeoutSeconds seconds s.1).2, s.2) [] := by
  unfold setTimeoutSeconds
  split
  · exact Step.quiet hs rfl rfl
  · exact Step.quiet ⟨hs.owner_iff, hs.resting⟩ rfl rfl

/-- A tick appends nothing, or one stop for the owner whose time is up. -/
theorem tick_step (nowMs : UInt64) {s : TracedState κ} (hs : s.1.Settled) :
    ∃ events, Step s (tick (TxCallbacks.traced start stop) nowMs s.1 s.2).2
      events := by
  rcases tick_cases (TxCallbacks.traced start stop) nowMs s.1 s.2 with
    ⟨-, result, -, -, heq⟩ | ⟨-, ho, -, heq⟩
  · rw [heq]
    exact ⟨[], Step.quiet hs rfl rfl⟩
  · obtain ⟨r, hstep, -⟩ := stopOwner_step start stop false (s := s) ho
    rw [heq]
    exact ⟨_, hstep⟩

/-- A shutdown appends nothing, or one stop for the owner. -/
theorem shutdown_step {s : TracedState κ} (hs : s.1.Settled) :
    ∃ events, Step s (shutdown (TxCallbacks.traced start stop) s.1 s.2)
      events := by
  unfold shutdown
  split
  · rename_i h
    obtain ⟨r, hstep, -⟩ := stopOwner_step start stop false (s := s) h
    exact ⟨_, hstep⟩
  · exact ⟨[], Step.quiet hs rfl rfl⟩

/-- **What a physical PTT edge appends.** A press that finds another owner
stops that owner first, and asks for the microphone only when the stop
succeeded. -/
theorem physicalPtt_step (pressed : Bool) (nowMs : UInt64)
    {s : TracedState κ} (hs : s.1.Settled) :
    ∃ events, Step s
        (physicalPtt (TxCallbacks.traced start stop) pressed nowMs s.1 s.2).2
        events
      ∧ (s.1.enabled = true → s.1.physicalPttArmed = true → pressed = true →
          s.1.owner ≠ .none → s.1.owner ≠ .physicalMic →
        ∃ r rest, events = .stop s.1.owner (false, r) :: rest
          ∧ (r ≠ 0 → rest = [])
          ∧ (rest = [] ∨ rest = [.start .physicalMic 0]
            ∨ ∃ r₁ r₂, r₁ ≠ 0 ∧ rest
              = [.start .physicalMic r₁, .stop .physicalMic (false, r₂)])) := by
  have hseen : (s.1.seen pressed).Settled := hs.quiet (quiet_seen _ _)
  have hnote : Step s (s.1.seen pressed, s.2) [] :=
    Step.of_quiet hs (quiet_seen _ _)
  rcases physicalPtt_cases (TxCallbacks.traced start stop) pressed nowMs s.1 s.2
    with ⟨hnot, -, result, control', hq, -, heq⟩ | ⟨-, -, hp, ho, heq⟩
      | ⟨-, -, -, ho, ho', hfail, heq⟩ | ⟨-, -, -, ho, ho', hok, heq⟩
      | ⟨-, -, -, hfree, heq⟩
  · rw [heq]
    exact ⟨[], Step.of_quiet hs hq, fun he ha hp => absurd ⟨he, ha, hp⟩ hnot⟩
  · -- a release stops the microphone, and nobody else
    have hno : s.1.owner ≠ .none := by simp [ho]
    obtain ⟨r, hstep, -⟩ := stopOwner_step start stop true
      (s := (s.1.seen pressed, s.2)) hno
    rw [heq]
    exact ⟨_, hnote.trans hstep, fun _ _ h => by simp [hp] at h⟩
  · -- another owner was in the way, and could not be stopped
    obtain ⟨r, hstep, hiff, -⟩ := stopOwner_step start stop false
      (s := (s.1.seen pressed, s.2)) ho
    rw [heq]
    exact ⟨_, hnote.trans hstep,
      fun _ _ _ _ _ => ⟨r, [], rfl, fun _ => rfl, Or.inl rfl⟩⟩
  · -- another owner was stopped first
    obtain ⟨r, hstep, hiff, -⟩ := stopOwner_step start stop false
      (s := (s.1.seen pressed, s.2)) ho
    obtain ⟨events, hreq, hshape⟩ := request_step start stop .physicalMic nowMs
      hstep.settled
    rw [heq]
    exact ⟨_, (hnote.trans hstep).trans hreq, fun _ _ _ _ _ =>
      ⟨r, events, rfl, fun h => absurd (hiff.mp hok) h, hshape⟩⟩
  · obtain ⟨events, hreq, -⟩ := request_step start stop .physicalMic nowMs
      (s := (s.1.seen pressed, s.2)) hseen
    rw [heq]
    exact ⟨_, hnote.trans hreq,
      fun _ _ _ h h' => hfree.elim (absurd · h) (absurd · h')⟩

/-- **Every operation is a step of the refinement.** -/
theorem perform_step (operation : TxOperation) {s : TracedState κ}
    (hs : s.1.Settled) :
    ∃ events, Step s
      (perform (TxCallbacks.traced start stop) operation s) events := by
  cases operation with
  | armPhysicalPtt => exact ⟨[], Step.of_quiet hs (quiet_armPhysicalPtt _)⟩
  | request owner nowMs =>
    obtain ⟨events, h, -⟩ := request_step start stop owner nowMs hs
    exact ⟨events, h⟩
  | release owner =>
    obtain ⟨events, h, -⟩ := releaseWith_step start stop false owner hs
    exact ⟨events, h⟩
  | releaseGraceful owner =>
    obtain ⟨events, h, -⟩ := releaseWith_step start stop true owner hs
    exact ⟨events, h⟩
  | physicalPtt pressed nowMs =>
    obtain ⟨events, h, -⟩ := physicalPtt_step start stop pressed nowMs hs
    exact ⟨events, h⟩
  | tick nowMs => exact tick_step start stop nowMs hs
  | shutdown => exact shutdown_step start stop hs
  | setTimeoutSeconds seconds => exact ⟨[], setTimeoutSeconds_step seconds hs⟩

/-- **Every sequence of operations is a step of the refinement.** -/
theorem performAll_step (operations : List TxOperation) {s : TracedState κ}
    (hs : s.1.Settled) :
    ∃ events, Step s
      (performAll (TxCallbacks.traced start stop) operations s) events := by
  induction operations generalizing s with
  | nil => exact ⟨[], Step.quiet hs rfl rfl⟩
  | cons operation operations ih =>
    obtain ⟨es, h⟩ := perform_step start stop operation hs
    obtain ⟨fs, h'⟩ := ih h.settled
    exact ⟨es ++ fs, h.trans h'⟩

/-- Performing one operation more. -/
theorem performAll_append_singleton (cb : TxCallbacks κ)
    (operations : List TxOperation) (operation : TxOperation)
    (s : TxControl × κ) :
    performAll cb (operations ++ [operation]) s
      = perform cb operation (performAll cb operations s) := by
  rw [performAll, List.foldl_append]
  rfl

/-! ## The discipline of a whole run -/

/-- The start that is still open: the one the owner, if there is one, was
granted with. -/
def openEvents (control : TxControl) : List TxEvent :=
  if control.owner = .none then [] else [.start control.owner 0]

/-- **What the trace of a run looks like**, read at the controller the run
ended in. -/
structure Disciplined (enabled : Bool) (control : TxControl)
    (trace : List TxEvent) : Prop where
  /-- Complete uses and aborted starts, each for one owner, and then the
  start of the owner that holds the transmitter, if any does. -/
  blocks : ∃ blocks : List (Exclusive.Block TxOwner Int (Bool × Int)),
    (∀ b ∈ blocks, b.Sound TxEvent.okStart)
      ∧ trace = blocks.flatMap Exclusive.Block.events ++ control.openEvents
  /-- Holding the transmitter is transmitting. -/
  owner_iff : control.owner ≠ .none ↔ control.state = .transmitting
  /-- A failed start or stop is the last of the starts. -/
  latched : ∀ pre e post, trace = pre ++ e :: post →
    TxEvent.failed e = true → ∀ e' ∈ post, Exclusive.Event.isStart e' = false
  /-- A controller initialised disabled never touches its callbacks. -/
  silent : enabled = false → trace = []

/-- **What one operation appends** to the trace of a controller. -/
structure Appends (operation : TxOperation) (control : TxControl)
    (events : List TxEvent) : Prop where
  /-- A start that fails is cleaned up at once, within the operation. -/
  cleaned : ∀ pre owner r post, events = pre ++ .start owner r :: post →
    r ≠ 0 → ∃ s, post = [.stop owner s]
  /-- A request or a release for one owner stops nobody else. -/
  own : ∀ owner, operation.subject = some owner →
    ∀ e ∈ events, Exclusive.Event.holder e = owner
  /-- A press of the microphone switch over another owner stops that owner
  first, and starts the microphone only if the stop succeeded. -/
  preempts : ∀ nowMs, operation = .physicalPtt true nowMs →
    control.enabled = true → control.physicalPttArmed = true →
    control.owner ≠ .none → control.owner ≠ .physicalMic →
    ∃ r rest, events = .stop control.owner (false, r) :: rest
      ∧ (r ≠ 0 → rest = [])
      ∧ (rest = [] ∨ rest = [.start .physicalMic 0]
        ∨ ∃ r₁ r₂, r₁ ≠ 0 ∧ rest
          = [.start .physicalMic r₁, .stop .physicalMic (false, r₂)])

/-- The phase of a controller opens with its open events. -/
theorem eq_openEvents {control : TxControl} {rest : List TxEvent}
    (h : control.phase.Open TxEvent.okStart rest) :
    rest = control.openEvents := by
  unfold openEvents
  split
  · rename_i ho
    rw [phase_of_none ho] at h
    by_cases hf : control.state = .faulted
    · rw [if_pos hf] at h
      exact h
    · rw [if_neg hf] at h
      exact h
  · rename_i ho
    rw [phase_of_owner ho] at h
    obtain ⟨r, hr, rfl⟩ := h
    rw [show r = 0 by simpa [TxEvent.okStart] using hr]

/-- Disabled, no operation appends anything. -/
theorem perform_of_disabled (cb : TxCallbacks κ) (operation : TxOperation)
    {s : TxControl × κ} (he : s.1.enabled = false) (ho : s.1.owner = .none) :
    (perform cb operation s).2 = s.2 ∧ (perform cb operation s).1.owner = .none
      ∧ (perform cb operation s).1.enabled = false := by
  cases operation with
  | armPhysicalPtt => simp [perform, armPhysicalPtt, he, ho]
  | request owner nowMs => simp [perform, request, he, ho]
  | release owner => simp [perform, release, releaseWith, he, ho]
  | releaseGraceful owner => simp [perform, releaseGraceful, releaseWith, he, ho]
  | physicalPtt pressed nowMs => simp [perform, physicalPtt, he, ho]
  | tick nowMs => simp [perform, tick, he, ho]
  | shutdown => simp [perform, shutdown, he, ho]
  | setTimeoutSeconds seconds =>
    unfold perform setTimeoutSeconds
    dsimp only
    split <;> simp [he, ho]

/-- Disabled, no sequence of operations appends anything. -/
theorem performAll_of_disabled (cb : TxCallbacks κ)
    (operations : List TxOperation) {s : TxControl × κ}
    (he : s.1.enabled = false) (ho : s.1.owner = .none) :
    (performAll cb operations s).2 = s.2 := by
  induction operations generalizing s with
  | nil => rfl
  | cons operation operations ih =>
    obtain ⟨hk, ho', he'⟩ := perform_of_disabled cb operation he ho
    exact (ih he' ho').trans hk

/-- **An operation appends what it may.** -/
theorem perform_appends (operation : TxOperation) {s : TracedState κ}
    (hs : s.1.Settled) :
    ∃ events, Step s
        (perform (TxCallbacks.traced start stop) operation s) events
      ∧ Appends operation s.1 events := by
  have hclean : ∀ {s' : TracedState κ} {events : List TxEvent},
      Step s s' events → ∀ pre owner r post,
        events = pre ++ .start owner r :: post → r ≠ 0 →
          ∃ o, post = [.stop owner o] := by
    rintro s' events h pre owner r post rfl hr
    exact Exclusive.Phase.stop_of_failed_start _ _
      (by simpa [TxEvent.okStart] using hr) (phase_ne_aborting s'.1) h.run
  cases operation with
  | request owner nowMs =>
    obtain ⟨events, h, hshape⟩ := request_step start stop owner nowMs hs
    refine ⟨events, h, hclean h, fun owner' hop e he => ?_, by simp⟩
    rw [← Option.some.inj hop]
    rcases hshape with rfl | rfl | ⟨r, r', -, rfl⟩
    · simp at he
    · rw [List.mem_singleton.mp he]
      rfl
    · rcases List.mem_pair.mp he with rfl | rfl <;> rfl
  | release owner =>
    obtain ⟨events, h, hshape⟩ := releaseWith_step start stop false owner hs
    refine ⟨events, h, hclean h, fun owner' hop e he => ?_, by simp⟩
    rw [← Option.some.inj hop]
    rcases hshape with rfl | ⟨r, rfl⟩
    · simp at he
    · rw [List.mem_singleton.mp he]
      rfl
  | releaseGraceful owner =>
    obtain ⟨events, h, hshape⟩ := releaseWith_step start stop true owner hs
    refine ⟨events, h, hclean h, fun owner' hop e he => ?_, by simp⟩
    rw [← Option.some.inj hop]
    rcases hshape with rfl | ⟨r, rfl⟩
    · simp at he
    · rw [List.mem_singleton.mp he]
      rfl
  | physicalPtt pressed nowMs =>
    obtain ⟨events, h, hshape⟩ := physicalPtt_step start stop pressed nowMs hs
    refine ⟨events, h, hclean h, by simp [TxOperation.subject], ?_⟩
    intro now hop he ha ho ho'
    exact hshape he ha (TxOperation.physicalPtt.inj hop).1 ho ho'
  | armPhysicalPtt =>
    obtain ⟨events, h⟩ := perform_step start stop .armPhysicalPtt hs
    exact ⟨events, h, hclean h, by simp [TxOperation.subject], by simp⟩
  | tick nowMs =>
    obtain ⟨events, h⟩ := perform_step start stop (.tick nowMs) hs
    exact ⟨events, h, hclean h, by simp [TxOperation.subject], by simp⟩
  | shutdown =>
    obtain ⟨events, h⟩ := perform_step start stop .shutdown hs
    exact ⟨events, h, hclean h, by simp [TxOperation.subject], by simp⟩
  | setTimeoutSeconds seconds =>
    obtain ⟨events, h⟩ := perform_step start stop (.setTimeoutSeconds seconds) hs
    exact ⟨events, h, hclean h, by simp [TxOperation.subject], by simp⟩

/-- **The transmit controller keeps its callbacks disciplined.** Whatever
the callbacks answer and whatever operations are performed, in any order,
the trace from initialisation is disciplined, and every further operation
appends to it only what it may. -/
theorem trace_discipline (enabled : Bool) (maximumKeyMs : UInt64) (k : κ)
    (operations : List TxOperation) :
    let s := performAll (TxCallbacks.traced start stop) operations
      (init enabled maximumKeyMs, k, [])
    Disciplined enabled s.1 s.2.2
      ∧ ∀ operation, ∃ events,
          (performAll (TxCallbacks.traced start stop) (operations ++ [operation])
              (init enabled maximumKeyMs, k, [])).2.2 = s.2.2 ++ events
            ∧ Appends operation s.1 events := by
  intro s
  obtain ⟨trace, h⟩ := performAll_step start stop operations
    (s := (init enabled maximumKeyMs, k, [])) (settled_init enabled maximumKeyMs)
  have hinit : (init enabled maximumKeyMs).phase = .idle := by
    rw [phase_of_none rfl]
    cases enabled <;> rfl
  have hrun : (Exclusive.Phase.idle : Exclusive.Phase TxOwner).run
      TxEvent.okStart TxEvent.okStop s.2.2 = some s.1.phase := by
    rw [← hinit, h.trace]
    exact h.run
  refine ⟨⟨?_, h.settled.owner_iff, ?_, ?_⟩, ?_⟩
  · obtain ⟨blocks, rest, hsound, hopen, heq⟩ :=
      Exclusive.Phase.exists_blocks _ _ hrun
    exact ⟨blocks, hsound, by rw [heq, eq_openEvents hopen]⟩
  · intro pre e post heq hf
    rw [heq] at hrun
    exact Exclusive.Phase.not_isStart_of_failed _ _ hf hrun
  · intro he
    have hkeep := performAll_of_disabled (TxCallbacks.traced start stop)
      operations (s := (init enabled maximumKeyMs, k, [])) he rfl
    exact congrArg Prod.snd hkeep
  · intro operation
    obtain ⟨events, hstep, happ⟩ := perform_appends start stop operation h.settled
    exact ⟨events, by rw [performAll_append_singleton]; exact hstep.trace, happ⟩

end TxControl
