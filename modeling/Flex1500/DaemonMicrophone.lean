import Flex1500.DaemonStation
import Flex1500.Lib.Run
import Flex1500.TxArming

/-!
# The microphone follows its switch

The block that reads the switches keeps two memories: the inputs it logged
last, and the position of the microphone's switch it observed last. A status
that equals the first is passed over, a position that equals the second is no
edge, and a recovery forgets the second but not the first. Between the edges
the transmitter is taken from the microphone and given back by timers,
failures and recoveries that read no switch at all.

What the log says of the switch is read off it by a view of its own: the
position read last, and whether the microphone may start, which a new session
and a released switch allow and a start uses up. The daemon's memories are
tied to that view, and the rest follows.
-/

/-! ## The switch, as the log has it -/

/-- What is known of the microphone's switch: where it was read last, and
whether it was released, or a session began, since the microphone
started. -/
structure SwitchView where
  pressed : Bool := false
  rearmed : Bool := false
  deriving DecidableEq, Repr

namespace SwitchView

/-- What an entry of the log adds. -/
def step (view : SwitchView) : DaemonNote → SwitchView
  | .session => { view with rearmed := true }
  | .reading inputs =>
    { pressed := inputs.micPtt, rearmed := view.rearmed || !inputs.micPtt }
  | .start .physicalMic => { view with rearmed := false }
  | _ => view

/-- A start of the microphone wants the switch pressed, and released
before. -/
def Admits (view : SwitchView) (entry : DaemonNote) : Prop :=
  entry = .start .physicalMic → view.pressed = true ∧ view.rearmed = true

end SwitchView

/-- What an entry reads of the switch. -/
def DaemonNote.micPtt? : DaemonNote → Option Bool
  | .reading inputs => some inputs.micPtt
  | _ => none

/-- Where the switch was read last. -/
def lastMicPtt (log : List DaemonNote) : Option Bool :=
  (log.filterMap DaemonNote.micPtt?).getLast?

/-- Entries that allow another start: a session begins, or the switch is read
released. -/
def DaemonNote.Rearms : DaemonNote → Prop
  | .session => True
  | .reading inputs => inputs.micPtt = false
  | _ => False

/-- Entries that are no matter of the switch. -/
def DaemonNote.Unswitched : DaemonNote → Prop
  | .session | .reading _ | .start .physicalMic => False
  | _ => True

/-- The view of a log. -/
def switchView (log : List DaemonNote) : SwitchView :=
  Run.after SwitchView.step {} log

/-- **The microphone follows its switch** in a log: it starts with the switch
pressed, and between two starts the switch was released or a session
began. -/
structure FollowsSwitch (log : List DaemonNote) : Prop where
  pressed : ∀ before after, log = before ++ .start .physicalMic :: after →
    lastMicPtt before = some true
  apart : ∀ before between after,
    log = before ++ .start .physicalMic ::
      (between ++ .start .physicalMic :: after) →
    ∃ entry ∈ between, entry.Rearms

/-- Where the view has the switch is where it was read last. -/
theorem pressed_after (view : SwitchView) (log : List DaemonNote) :
    (Run.after SwitchView.step view log).pressed
      = (lastMicPtt log).getD view.pressed := by
  induction log generalizing view with
  | nil => rfl
  | cons entry log ih =>
    rw [Run.after_cons, ih]
    cases entry with
    | reading inputs =>
      show _ = (List.getLast? (inputs.micPtt
        :: log.filterMap DaemonNote.micPtt?)).getD view.pressed
      rw [List.getLast?_cons, Option.getD_some]
      rfl
    | start owner => cases owner <;> rfl
    | _ => rfl

/-- A view that allows a start did before, or was told to. -/
theorem rearmed_after {view : SwitchView} {log : List DaemonNote}
    (h : (Run.after SwitchView.step view log).rearmed = true) :
    view.rearmed = true ∨ ∃ entry ∈ log, entry.Rearms := by
  induction log generalizing view with
  | nil => exact Or.inl h
  | cons entry log ih =>
    rw [Run.after_cons] at h
    obtain hview | ⟨e, he, hrearms⟩ := ih h
    swap
    · exact Or.inr ⟨e, List.mem_cons_of_mem _ he, hrearms⟩
    cases entry with
    | session => exact Or.inr ⟨_, List.mem_cons_self .., trivial⟩
    | reading inputs =>
      obtain hbefore | hreleased := Bool.or_eq_true_iff.mp hview
      · exact Or.inl hbefore
      · have hreleased : inputs.micPtt = false := by simpa using hreleased
        exact Or.inr ⟨_, List.mem_cons_self .., hreleased⟩
    | start owner =>
      cases owner with
      | physicalMic => exact Bool.noConfusion hview
      | _ => exact Or.inl hview
    | _ => exact Or.inl hview

/-- **A log whose every start is admitted** follows the switch. -/
theorem followsSwitch_of_each {log : List DaemonNote}
    (h : Run.Each SwitchView.step SwitchView.Admits {} log) :
    FollowsSwitch log := by
  refine ⟨fun before after hlog => ?_, fun before between after hlog => ?_⟩
  · rw [hlog, Run.each_append, Run.each_cons] at h
    obtain ⟨hpressed, -⟩ := h.2.1 rfl
    rw [pressed_after] at hpressed
    cases hlast : lastMicPtt before with
    | none => rw [hlast] at hpressed; exact Bool.noConfusion hpressed
    | some pressed => rw [hlast] at hpressed; exact congrArg some hpressed
  · rw [hlog, Run.each_append, Run.each_cons, Run.each_append,
      Run.each_cons] at h
    obtain ⟨-, hrearmed⟩ := h.2.2.2.1 rfl
    exact (rearmed_after hrearmed).resolve_left Bool.false_ne_true

section Grown

variable {log notes : List DaemonNote}

/-- Entries that are no matter of the switch change no view. -/
theorem switchView_append (h : ∀ entry ∈ notes, entry.Unswitched) :
    switchView (log ++ notes) = switchView log := by
  unfold switchView
  rw [Run.after_append]
  generalize Run.after SwitchView.step {} log = view
  induction notes generalizing view with
  | nil => rfl
  | cons entry notes ih =>
    have hstep : SwitchView.step view entry = view := by
      have hentry := h entry (List.mem_cons_self ..)
      cases entry with
      | session => exact hentry.elim
      | reading inputs => exact hentry.elim
      | start owner =>
        cases owner with
        | physicalMic => exact hentry.elim
        | _ => rfl
      | _ => rfl
    rw [Run.after_cons, hstep]
    exact ih (fun e he => h e (List.mem_cons_of_mem _ he)) view

/-- And no start is among them. -/
theorem each_append_unswitched
    (hlog : Run.Each SwitchView.step SwitchView.Admits {} log)
    (h : ∀ entry ∈ notes, entry.Unswitched) :
    Run.Each SwitchView.step SwitchView.Admits {} (log ++ notes) := by
  rw [Run.each_append]
  refine ⟨hlog, Run.each_of_forall fun entry hentry view hstart => ?_⟩
  have hunswitched := h entry hentry
  rw [hstart] at hunswitched
  exact hunswitched.elim

end Grown

/-! ## What the callbacks log -/

/-- Worlds apart by entries that are no matter of the switch. -/
def ApiWorld.Apart (w w' : ApiWorld DaemonTx) : Prop :=
  w.radio.Logs DaemonNote.Unswitched w'.radio

/-- The loop by itself logs nothing of the switch. -/
theorem ApiWorld.serves_apart : ApiWorld.Serves ApiWorld.Apart where
  api _ _ := .of_eq rfl
  station _ _ := .of_eq rfl
  receiver _ _ _ := .of_eq rfl
  samples _ _ _ h := by
    obtain ⟨notes, hlog, hnotes⟩ := h
    refine ⟨notes, hlog, fun entry hentry => ?_⟩
    have hsamples := hnotes entry hentry
    cases entry with
    | session => exact hsamples
    | reading inputs => exact hsamples
    | start owner => exact hsamples.elim
    | _ => trivial

/-- The start callback logs that it is called, and nothing of the switch
behind that. -/
theorem logs_daemonTxOwnerStart (carriesDc : List UInt8 → Bool)
    (owner : TxOwner) (control : TxControl) (k : DaemonContext) :
    (k.world.radio.note (.start owner)).Logs DaemonNote.Unswitched
      (daemonTxOwnerStart carriesDc owner control k).2.world.radio := by
  have hcounted (tx : DaemonTx) (started : Int) :
      ((k.withRadio tx).counted started).world.radio = tx := by
    unfold DaemonContext.counted
    split
    · rfl
    · rfl
  have hemitting {tx : DaemonTx} (control : TxControl) (network : NetworkTx)
      (emission : Emission) (frequencyHz : ℕ) :
      tx.Logs DaemonNote.Unswitched
        (tx.emitting owner control network emission frequencyHz) :=
    .note trivial
  generalize htx : k.world.radio.note (.start owner) = tx at *
  cases owner with
  | tune =>
    show tx.Logs _ (DaemonTx.startTune control k.network
      (k.world.radio.note (.start .tune))).2
    rw [htx]
    -- no frequency, none that is allowed, or the carrier is emitted
    unfold DaemonTx.startTune
    split
    · exact .of_eq rfl
    dsimp only
    split
    · exact .of_eq rfl
    · exact hemitting control k.network .tune _
  | http =>
    unfold daemonTxOwnerStart
    dsimp only
    rw [hcounted, htx]
    -- no session on a frequency, none that is allowed, or the samples are
    -- handed over
    unfold DaemonTx.startNetwork
    split
    · exact .of_eq rfl
    dsimp only
    split
    · exact .of_eq rfl
    split
    · exact (hemitting control k.network _ _).trans (.note trivial)
    · exact (hemitting control k.network _ _).trans (.note trivial)
  | physicalMic =>
    unfold daemonTxOwnerStart
    dsimp only
    rw [hcounted, htx]
    unfold DaemonTx.startMicrophone
    split
    · exact .of_eq rfl
    dsimp only
    split
    · exact .of_eq rfl
    · exact hemitting control k.network _ _
  | none =>
    rw [← htx]
    exact .of_eq rfl
  | soapy =>
    rw [← htx]
    exact .of_eq rfl

/-- The stop callback logs nothing. -/
theorem log_daemonTxOwnerStop (owner : TxOwner) (graceful : Bool)
    (control : TxControl) (k : DaemonContext) :
    (daemonTxOwnerStop owner graceful control k).2.world.radio.log
      = k.world.radio.log := by
  cases owner <;> rfl

namespace TxPlane

variable (carriesDc : List UInt8 → Bool) {p q : TxPlane (ApiWorld DaemonTx)}

/-- A stop logs nothing. -/
theorem log_unowned (graceful : Bool) (p : TxPlane (ApiWorld DaemonTx)) :
    (p.unowned (daemonCallbacks carriesDc) graceful).world.radio.log
      = p.world.radio.log := by
  unfold unowned
  by_cases howned : p.tx.owner = .none
  · rw [TxControl.stopOwner_of_none _ graceful p.toTxContext howned]
    rfl
  · rw [TxControl.stopOwner_of_owner _ graceful p.toTxContext howned]
    exact log_daemonTxOwnerStop p.tx.owner graceful p.tx.unkeying p.toTxContext

/-- What a request logs: nothing, or the start of its owner, and behind that
nothing of the switch. -/
theorem logs_requested (owner : TxOwner) (nowMs : UInt64)
    (p : TxPlane (ApiWorld DaemonTx)) :
    (p.requested (daemonCallbacks carriesDc) owner nowMs).world.radio.log
        = p.world.radio.log
      ∨ (p.world.radio.note (.start owner)).Logs DaemonNote.Unswitched
        (p.requested (daemonCallbacks carriesDc) owner nowMs).world.radio := by
  have hstart := logs_daemonTxOwnerStart carriesDc owner p.tx.preparing
    p.toTxContext
  unfold requested
  obtain ⟨-, result, hr, -⟩ | ⟨-, -, hr⟩ | ⟨-, -, hr⟩ :=
    TxControl.request_cases (daemonCallbacks carriesDc) owner nowMs p.tx
      p.toTxContext
  · rw [hr]
    exact Or.inl rfl
  · rw [hr]
    exact Or.inr hstart
  · rw [hr]
    exact Or.inr (hstart.trans (.of_eq (log_daemonTxOwnerStop owner false
      p.tx.preparing (daemonTxOwnerStart carriesDc owner p.tx.preparing
        p.toTxContext).2)))

/-- So that of anybody but the microphone is no matter of the switch. -/
theorem apart_requested {owner : TxOwner} (howner : owner ≠ .physicalMic)
    (nowMs : UInt64) (p : TxPlane (ApiWorld DaemonTx)) :
    p.world.Apart
      (p.requested (daemonCallbacks carriesDc) owner nowMs).world := by
  obtain hlog | hlogs := logs_requested carriesDc owner nowMs p
  · exact .of_eq hlog
  · have hnote : (DaemonNote.start owner).Unswitched := by
      cases owner with
      | physicalMic => exact absurd rfl howner
      | _ => trivial
    exact (DaemonTx.Logs.note hnote).trans hlogs

variable {carriesDc}

/-- **A move that does not try the microphone** logs nothing of the
switch. -/
theorem apart_step {m : TxMove}
    (hstep : TxStep (daemonCallbacks carriesDc) ApiWorld.Apart m p q)
    (hm : ¬ TxMove.Tries (· = m) .physicalMic) : p.world.Apart q.world := by
  cases hstep with
  | world hw => exact hw
  | stop _ => exact .of_eq (log_unowned carriesDc _ p)
  | @refuse _ owner nowMs ha _ _ _ =>
    refine apart_requested carriesDc (fun howner => hm (Or.inl ?_)) nowMs p
    rw [howner]
  | @grantTune _ _ nowMs ha _ _ =>
    exact apart_requested carriesDc (by decide) nowMs p
  | @grantMic _ nowMs ha _ => exact absurd (Or.inr ⟨nowMs, rfl⟩) hm
  | @grantNetwork _ nowMs ha _ _ =>
    exact apart_requested carriesDc (by decide) nowMs p
  | _ => exact .of_eq rfl

/-- So does a path of such moves. -/
theorem Reaches.apart {P : TxMove → Prop}
    (h : p.Reaches (daemonCallbacks carriesDc) ApiWorld.Apart P q)
    (hP : ¬ TxMove.Tries P .physicalMic) : p.world.Apart q.world := by
  obtain ⟨ms, hpath, hms⟩ := h
  refine hpath.relate (fun _ => True)
    (fun p q : TxPlane (ApiWorld DaemonTx) => p.world.Apart q.world)
    (fun _ => .of_eq rfl) (fun _ _ _ hpq hqr => hpq.trans hqr)
    (fun m hm _ _ hstep _ => ⟨trivial, apart_step hstep fun htries => hP ?_⟩)
    trivial
  obtain hrefuse | ⟨nowMs, hgrant⟩ := htries
  · exact Or.inl (hrefuse ▸ hms m hm)
  · exact Or.inr ⟨nowMs, hgrant ▸ hms m hm⟩

end TxPlane

/-! ## The switch itself -/

namespace TxControl

variable (carriesDc : List UInt8 → Bool)

/-- **What an edge of the switch logs**: nothing, or, where the switch is
pressed, the start of the microphone. -/
theorem logs_physicalPtt (pressed : Bool) (nowMs : UInt64)
    (p : TxPlane (ApiWorld DaemonTx)) :
    let q := TxPlane.after (physicalPtt (daemonCallbacks carriesDc) pressed
      nowMs p.tx p.toTxContext).2
    q.world.radio.log = p.world.radio.log
      ∨ (pressed = true ∧ (p.world.radio.note (.start .physicalMic)).Logs
        DaemonNote.Unswitched q.world.radio) := by
  have hstopped (graceful : Bool) := TxPlane.log_unowned carriesDc graceful
    { p with tx := p.tx.seen pressed }
  intro q
  obtain ⟨-, -, result, control, -, -, hr⟩ | ⟨-, -, -, -, hr⟩
    | ⟨-, -, -, -, -, -, hr⟩ | ⟨-, -, hpressed, -, -, -, hr⟩
    | ⟨-, -, hpressed, -, hr⟩ :=
    physicalPtt_cases (daemonCallbacks carriesDc) pressed nowMs p.tx
      p.toTxContext
  · dsimp only [q]
    rw [hr]
    exact Or.inl rfl
  · dsimp only [q]
    rw [hr]
    exact Or.inl (hstopped true)
  · dsimp only [q]
    rw [hr]
    exact Or.inl (hstopped false)
  · dsimp only [q]
    rw [hr]
    have hrequested := TxPlane.logs_requested carriesDc
      .physicalMic nowMs (TxPlane.unowned (daemonCallbacks carriesDc) false
        { p with tx := p.tx.seen pressed })
    obtain hlog | ⟨notes, hlog, hnotes⟩ := hrequested
    · exact Or.inl (hlog.trans (hstopped false))
    · refine Or.inr ⟨hpressed, notes, hlog.trans ?_, hnotes⟩
      show (_ ++ _) ++ _ = (_ ++ _) ++ _
      rw [hstopped false]
  · dsimp only [q]
    rw [hr]
    obtain hlog | hlogs := TxPlane.logs_requested carriesDc
      .physicalMic nowMs { p with tx := p.tx.seen pressed }
    · exact Or.inl hlog
    · exact Or.inr ⟨hpressed, hlogs⟩

variable {ρ : Type} (cb : TxCallbacks (TxContext ρ))

/-- **A released switch** leaves the microphone without the transmitter, once
the switch is armed. -/
theorem owner_of_released (nowMs : UInt64) {p : TxPlane ρ}
    (hcoherent : p.Coherent)
    (harmed : p.tx.enabled = true → p.tx.physicalPttArmed = true) :
    (TxPlane.after (physicalPtt cb false nowMs p.tx
      p.toTxContext).2).tx.owner ≠ .physicalMic := by
  obtain ⟨-, hother, result, control, hquiet, -, hr⟩ | ⟨-, -, -, hmic, hr⟩
    | ⟨-, -, hpressed, -⟩ | ⟨-, -, hpressed, -⟩ | ⟨-, -, hpressed, -⟩ :=
    physicalPtt_cases cb false nowMs p.tx p.toTxContext
  · rw [hr]
    intro howner
    have hmic : p.tx.owner = .physicalMic := hquiet.owner.symm.trans howner
    have henabled := hcoherent.enabled (by rw [hmic]; decide)
    exact hother rfl henabled (harmed henabled) hmic
  · rw [hr, stopOwner_of_owner cb true p.toTxContext
      (by rw [show (p.tx.seen false).owner = p.tx.owner from rfl, hmic]
          decide)]
    exact TxOwner.noConfusion
  · exact Bool.noConfusion hpressed
  · exact Bool.noConfusion hpressed
  · exact Bool.noConfusion hpressed

end TxControl

/-! ## The daemon's memories -/

namespace Daemon

variable {config : DaemonConfig} {d : Daemon} {input : LoopInput}

/-- What a block that reads no switch and begins no session leaves as it
is. -/
structure Unswitched (d e : Daemon) : Prop where
  apart : d.plane.world.Apart e.plane.world
  logged : e.loggedInputs = d.loggedInputs
  observed : e.observedMicrophonePtt = d.observedMicrophonePtt
  armed : d.plane.KeepsArming e.plane
  enabled : e.plane.tx.enabled = d.plane.tx.enabled
  owner : e.plane.tx.owner = .physicalMic → d.plane.tx.owner = .physicalMic

/-- What has nothing to do with the switch: its arming stays, and so do both
memories of it. -/
structure KeepsSwitch (d e : Daemon) : Prop where
  armed : d.plane.KeepsArming e.plane
  memories : (e.loggedInputs, e.observedMicrophonePtt)
    = (d.loggedInputs, d.observedMicrophonePtt)

theorem KeepsSwitch.refl (d : Daemon) : d.KeepsSwitch d :=
  ⟨rfl, rfl⟩

theorem KeepsSwitch.trans {e f : Daemon} (h : d.KeepsSwitch e)
    (h' : e.KeepsSwitch f) : d.KeepsSwitch f :=
  ⟨h.armed.trans h'.armed, h'.memories.trans h.memories⟩

/-- A path of the records with nothing else changed. -/
theorem Unswitched.of_path {e : Daemon} {P : TxMove → Prop}
    (h : d.Reaches config.carriesDc ApiWorld.Apart P e)
    (htries : ¬ TxMove.Tries P .physicalMic) (hrestart : ¬ P .restart)
    (hkeeps : d.KeepsSwitch e) : d.Unswitched e := by
  have hcb := framed_daemonCallbacks config.carriesDc
  obtain ⟨hlogged, hobserved⟩ := Prod.mk.inj hkeeps.memories
  refine ⟨h.apart htries, hlogged, hobserved, hkeeps.armed,
    h.enabled hcb fun m hm hr => hrestart (hr ▸ hm), fun howner => ?_⟩
  obtain hnone | hsame | ⟨nowMs, hgrant⟩ := h.owner hcb
  · exact absurd (howner.symm.trans hnone) (by decide)
  · exact hsame.symm.trans howner
  · exact absurd (Or.inr ⟨nowMs, howner ▸ hgrant⟩) htries

theorem Unswitched.trans {e f : Daemon} (h : d.Unswitched e)
    (h' : e.Unswitched f) : d.Unswitched f :=
  ⟨h.apart.trans h'.apart, h'.logged.trans h.logged,
    h'.observed.trans h.observed, h.armed.trans h'.armed,
    h'.enabled.trans h.enabled, h.owner ∘ h'.owner⟩

variable (config input)

theorem keepsSwitch_stationTick (nowMs : UInt64) :
    d.KeepsSwitch (d.stationTick config nowMs) := by
  have hshutdown := TuneControl.keepsArming_shutdown
    (daemonCallbacks config.carriesDc)
    (d.plane.withStation (d.plane.world.station.tick nowMs).2)
  unfold stationTick
  extract_lets ticked p q
  split
  · refine ⟨?_, rfl⟩
    dsimp only [withPlane]
    split
    · exact TxPlane.KeepsArming.trans hshutdown
        (NetworkTx.keepsArming_release _ _ _)
    · exact hshutdown
  · exact ⟨rfl, rfl⟩

theorem keepsSwitch_txTick (nowMs : UInt64) :
    d.KeepsSwitch (d.txTick config nowMs) := by
  have hticked := (TxControl.keepsArming_tick
    (daemonCallbacks config.carriesDc) nowMs d.plane)
  unfold txTick
  extract_lets ticked p
  have hp : d.plane.KeepsArming p :=
    TxPlane.KeepsArming.trans hticked (TuneControl.keepsArming_reconcile _ _)
  refine ⟨?_, rfl⟩
  dsimp only [withPlane]
  split
  · exact hp
  · exact hp

omit config input in
theorem keepsSwitch_networkReconcile : d.KeepsSwitch d.networkReconcile := by
  have hp := NetworkTx.keepsArming_reconcile d.plane
  unfold networkReconcile
  extract_lets p
  split
  · exact ⟨hp, rfl⟩
  · exact ⟨hp, rfl⟩

theorem keepsSwitch_networkTick (nowMs : UInt64) :
    d.KeepsSwitch (d.networkTick config nowMs) := by
  have hp := NetworkTx.keepsArming_tick
    (daemonCallbacks config.carriesDc) nowMs d.plane
  unfold networkTick
  extract_lets ticked
  split
  · exact ⟨hp, rfl⟩
  · exact ⟨hp, rfl⟩
  · exact ⟨hp, rfl⟩

theorem keepsSwitch_rtl : d.KeepsSwitch (d.rtl config input) := by
  have hbyte (byte : UInt8) (e : Daemon) :
      e.KeepsSwitch (rtlByte config e byte) := by
    unfold rtlByte
    extract_lets parsed e'
    split
    · unfold rtlCommand
      split
      · exact ⟨rfl, rfl⟩
      · exact ⟨rfl, rfl⟩
    · exact ⟨rfl, rfl⟩
  have hbytes (bytes : List UInt8) (e : Daemon) :
      e.KeepsSwitch (bytes.foldl (rtlByte config) e) := by
    induction bytes generalizing e with
    | nil => exact .refl e
    | cons byte bytes ih => exact (hbyte byte e).trans (ih _)
  unfold rtl
  extract_lets e
  have he : d.KeepsSwitch e := by
    dsimp only [e]
    split
    · exact ⟨rfl, rfl⟩
    · exact .refl d
  split
  · exact he
  split
  · exact he.trans ⟨rfl, rfl⟩
  · exact he.trans ⟨rfl, rfl⟩
  · exact he.trans (hbytes _ e)
  · exact he

omit config input in
theorem keepsSwitch_openIqStream (headerSent : Bool) :
    d.KeepsSwitch (d.openIqStream headerSent) := by
  obtain ⟨slots, hslots⟩ := openIqStream_eq headerSent d
  rw [hslots]
  exact ⟨rfl, rfl⟩

omit config input in
theorem keepsSwitch_openTxStream (headerSent : Bool) :
    d.KeepsSwitch (d.openTxStream headerSent) := by
  unfold openTxStream
  split
  · exact ⟨rfl, rfl⟩
  · exact ⟨rfl, rfl⟩

omit config input in
theorem keepsSwitch_pushTxAudio (lease : UInt64) (body : List UInt8) :
    d.KeepsSwitch (d.pushTxAudio lease body) := by
  unfold pushTxAudio
  extract_lets bytes e
  split
  · exact ⟨rfl, rfl⟩
  split
  · exact ⟨rfl, rfl⟩
  · exact ⟨rfl, rfl⟩

theorem keepsSwitch_request (buffer : List UInt8) :
    d.KeepsSwitch (d.request config input buffer) := by
  have hanswered : d.plane.KeepsArming (d.answered config input buffer).2 :=
    (answered_outcome config input buffer d).keepsArming
  unfold request
  extract_lets text p answer e e'
  have he : d.KeepsSwitch e' := by
    dsimp only [e']
    split
    · exact ⟨hanswered, rfl⟩
    · exact ⟨hanswered, rfl⟩
  split
  · exact he.trans (keepsSwitch_openIqStream _)
  · exact he.trans (keepsSwitch_openTxStream _)
  · exact he.trans (keepsSwitch_pushTxAudio _ _)
  · exact he

theorem keepsSwitch_http : d.KeepsSwitch (d.http config input) := by
  unfold http
  split
  · exact .refl d
  extract_lets bytes disconnected buffer complete overflow e
  have he : d.KeepsSwitch e := by
    dsimp only [e]
    split
    · exact keepsSwitch_request config input _
    · exact .refl d
  exact he.trans ⟨rfl, rfl⟩

omit config input in
theorem keepsSwitch_deliver (connection : ℕ) (chunk : List TxByte)
    (nowMs : UInt64) : d.KeepsSwitch (d.deliver connection chunk nowMs) := by
  unfold deliver
  extract_lets network room bytes recorded e e' e''
  have he : d.KeepsSwitch e'' := by
    dsimp only [e'', e']
    split
    · exact ⟨rfl, rfl⟩
    · exact ⟨rfl, rfl⟩
  split
  · exact he.trans ⟨rfl, rfl⟩
  · exact he

omit config input in
theorem keepsSwitch_streamData (client : TxClient) (bytes : List UInt8)
    (nowMs : UInt64) : d.KeepsSwitch (d.streamData client bytes nowMs) := by
  have hreceived (f : DaemonTx → DaemonTx) : d.KeepsSwitch (d.withTx f) :=
    ⟨rfl, rfl⟩
  unfold streamData
  extract_lets data whole
  generalize htail : (fun tx : DaemonTx =>
    { tx.note (.received client.connection bytes) with
      networkTail := data.drop whole }) = f
  exact (hreceived f).trans (keepsSwitch_deliver client.connection _ nowMs)

theorem keepsSwitch_stream : d.KeepsSwitch (d.stream config input) := by
  have hclosed : d.KeepsSwitch (d.streamClosed config) :=
    ⟨NetworkTx.keepsArming_disconnectStream _ d.plane, rfl⟩
  unfold stream
  split
  · exact .refl d
  rename_i client hclient
  split
  · exact .refl d
  split
  · extract_lets bytes
    split
    · exact hclosed
    · exact keepsSwitch_streamData client _ input.dataMs
  · exact .refl d
  · exact hclosed

omit input in
theorem keepsArming_daemonTxShutdown (p : TxPlane (ApiWorld DaemonTx)) :
    p.KeepsArming (daemonTxShutdown config p) := by
  have hshutdown := (TxControl.keepsArming_shutdown
    (daemonCallbacks config.carriesDc) p).trans
      (TuneControl.keepsArming_reconcile false _)
  unfold daemonTxShutdown
  extract_lets q
  split
  · exact hshutdown
  · exact hshutdown

omit input in
theorem keepsSwitch_exit : d.KeepsSwitch (d.exit config) := by
  have hshutdown := keepsArming_daemonTxShutdown config d.plane
  unfold exit
  extract_lets e₁ e₂ unprepared e₃ e₄
  have he : e₃.KeepsSwitch e₄ := by
    dsimp only [e₄]
    split
    · exact .refl e₃
    · exact ⟨rfl, rfl⟩
  have he' : d.KeepsSwitch e₃ := ⟨hshutdown, rfl⟩
  exact (he'.trans he).trans ⟨rfl, rfl⟩

omit input in
theorem keepsSwitch_abandoned : d.KeepsSwitch (d.abandoned config) := by
  unfold abandoned
  extract_lets p q e e'
  have hq : d.plane.KeepsArming q :=
    (NetworkTx.keepsArming_disconnectStream _ d.plane).trans
      (NetworkTx.keepsArming_release _ _ p)
  have he : d.KeepsSwitch e := ⟨hq, rfl⟩
  have he' : e.KeepsSwitch e' := ⟨keepsArming_daemonTxShutdown config _, rfl⟩
  exact (he.trans he').trans ⟨rfl, rfl⟩

/-- **A block that reads no switch and begins no session** has nothing to do
with it. -/
theorem unswitched_perform (hd : d.plane.Coherent) {block : LoopBlock}
    (hrecover : block ≠ .recover) (hswitches : block ≠ .switches) :
    d.Unswitched (d.perform config block input) := by
  have hserves := ApiWorld.serves_apart
  have htends := hserves.toTends
  have hpassive {e : Daemon}
      (h : d.Reaches config.carriesDc ApiWorld.Apart TxMove.Passive e)
      (hkeeps : d.KeepsSwitch e) : d.Unswitched e :=
    .of_path h (fun htries => htries.elim id fun ⟨_, hgrant⟩ => hgrant) id
      hkeeps
  cases block with
  | stationTick =>
    exact hpassive (stationTick_path config hserves hd _)
      (keepsSwitch_stationTick config _)
  | tuneTick =>
    exact hpassive (tuneTick_path hd _)
      ⟨TuneControl.keepsArming_tick _ _ d.plane, rfl⟩
  | txTick => exact hpassive (txTick_path _) (keepsSwitch_txTick config _)
  | networkReconcile =>
    exact hpassive (networkReconcile_path htends) keepsSwitch_networkReconcile
  | networkTick =>
    exact hpassive (networkTick_path htends hd _)
      (keepsSwitch_networkTick config _)
  | pump =>
    exact hpassive (withReceiver_path htends (UsbRx.unkeying_pump _))
      ⟨rfl, rfl⟩
  | recover => exact absurd rfl hrecover
  | switches => exact absurd rfl hswitches
  | rtl =>
    exact hpassive (rtl_path config input htends)
      (keepsSwitch_rtl config input)
  | http =>
    have hkeeps := keepsSwitch_http (d := d) config input
    refine .of_path (http_path config input hserves hd) ?_
      (fun h => h.elim id id) hkeeps
    rintro ((hrefuse | hrefuse) | ⟨nowMs, hgrant | hgrant⟩)
    · exact hrefuse rfl
    · exact hrefuse
    · exact hgrant.2.2 rfl
    · exact hgrant
  | stream =>
    have hkeeps := keepsSwitch_stream (d := d) config input
    refine .of_path (stream_path config input htends hd) ?_
      (fun h => h.elim id id) hkeeps
    rintro ((hrefuse | hrefuse) | ⟨nowMs, hgrant | hgrant⟩)
    · exact hrefuse
    · exact hrefuse
    · exact hgrant
    · exact hgrant
  | publish => exact ⟨.of_eq rfl, rfl, rfl, rfl, rfl, id⟩
  | exit => exact hpassive (exit_path htends) (keepsSwitch_exit config)

/-! ## The law -/

/-- **In step with the switch**: the log so far follows it, and the daemon's
memory of it is what the log has. Whoever observed the switch pressed has
seen it pressed last; whoever has not may start the microphone. -/
structure InStep (config : DaemonConfig) (d : Daemon) : Prop where
  coherent : d.plane.Coherent
  enabled : d.plane.tx.enabled = config.transmitEnabled
  armed : d.plane.tx.enabled = true → d.plane.tx.physicalPttArmed = true
  each : Run.Each SwitchView.step SwitchView.Admits {} d.tx.log
  logged : ∀ inputs ∈ d.loggedInputs,
    (switchView d.tx.log).pressed = inputs.micPtt
  observed : d.observedMicrophonePtt = some true →
    (switchView d.tx.log).pressed = true
  rearmed : d.observedMicrophonePtt ≠ some true →
    (switchView d.tx.log).rearmed = true
  owner : d.plane.tx.owner = .physicalMic →
    d.observedMicrophonePtt = some true

variable {config} {e : Daemon}

/-- What has nothing to do with the switch leaves everything in step. -/
theorem InStep.unswitched (h : d.InStep config) (hde : d.Unswitched e)
    (he : e.plane.Coherent) : e.InStep config := by
  obtain ⟨notes, hlog, hnotes⟩ := hde.apart
  have hlog : e.tx.log = d.tx.log ++ notes := hlog
  refine ⟨he, hde.enabled.trans h.enabled, fun henabled => ?_, ?_,
    fun inputs hinputs => ?_, fun hobserved => ?_, fun hobserved => ?_,
    fun howner => ?_⟩
  · exact hde.armed.armed (h.armed (hde.enabled.symm.trans henabled))
  · rw [hlog]
    exact each_append_unswitched h.each hnotes
  · rw [hlog, switchView_append hnotes]
    exact h.logged inputs (hde.logged ▸ hinputs)
  · rw [hlog, switchView_append hnotes]
    exact h.observed (hde.observed.symm.trans hobserved)
  · rw [hlog, switchView_append hnotes]
    exact h.rearmed fun hd => hobserved (hde.observed.trans hd)
  · exact hde.observed.trans (h.owner (hde.owner howner))

/-- The daemon starts in step. -/
theorem inStep_boot (config : DaemonConfig) (answers : ℕ → UsbAnswer) :
    (boot config answers).InStep config := by
  have hcoherent := coherent_boot config answers
  obtain ⟨receiver, running, hboot⟩ := boot_eq_initial config answers
  rw [hboot] at hcoherent ⊢
  have hq := TxControl.quiet_armPhysicalPtt (.init config.transmitEnabled
    (UInt64.ofNat txTimeoutDefaultSeconds * 1000))
  refine ⟨hcoherent, hq.enabled, fun henabled => ?_, ⟨nofun, trivial⟩, nofun,
    nofun, fun _ => rfl, fun howner => ?_⟩
  · have htransmit : config.transmitEnabled = true :=
      hq.enabled.symm.trans henabled
    show (TxControl.armPhysicalPtt (.init config.transmitEnabled
      _)).physicalPttArmed = true
    rw [htransmit]
    rfl
  · have hnone : (initial config receiver running).plane.tx.owner = .none :=
      TxControl.owner_armed _ _
    exact absurd (howner.symm.trans hnone) (by decide)

/-- A recovery that succeeds forgets where the switch was observed, and
begins a session. -/
theorem inStep_recover (h : d.InStep config) (attempts : ℕ) :
    (d.recover config attempts).InStep config := by
  have hcoherent : (d.recover config attempts).plane.Coherent :=
    coherent_of_reaches h.coherent (recover_path ApiWorld.loops_true.toTends
      h.coherent (fun _ => trivial) attempts)
  have htends := ApiWorld.serves_apart.toTends
  have hpassive : ¬ TxMove.Tries TxMove.Passive .physicalMic :=
    fun htries => htries.elim id fun ⟨_, hgrant⟩ => hgrant
  have hkeeps : d.KeepsSwitch (d.reopened config attempts) :=
    (keepsSwitch_abandoned config).trans ⟨rfl, rfl⟩
  have hreopened : d.Unswitched (d.reopened config attempts) :=
    .of_path (reopened_path config htends h.coherent attempts) hpassive id
      hkeeps
  rw [recover_eq] at hcoherent ⊢
  split
  · rename_i hrecovers
    rw [if_pos hrecovers] at hcoherent
    obtain ⟨notes, hlog, hnotes⟩ := hreopened.apart
    have hlog : ((d.reopened config attempts).renewed config).tx.log
        = (d.tx.log ++ notes) ++ [.session] := congrArg (· ++ _) hlog
    have hq := TxControl.quiet_armPhysicalPtt (.init config.transmitEnabled
      (UInt64.ofNat (d.reopened config attempts).plane.tx.timeoutSeconds
        * 1000))
    refine ⟨hcoherent, hq.enabled, fun henabled => ?_, ?_,
      fun inputs hinputs => ?_, nofun, fun _ => ?_, fun howner => ?_⟩
    · have htransmit : config.transmitEnabled = true :=
        hq.enabled.symm.trans henabled
      show (TxControl.armPhysicalPtt (.init config.transmitEnabled
        _)).physicalPttArmed = true
      rw [htransmit]
      rfl
    · rw [hlog, Run.each_append]
      exact ⟨each_append_unswitched h.each hnotes, nofun, trivial⟩
    · rw [hlog, switchView, Run.after_append]
      show (switchView (d.tx.log ++ notes)).pressed = _
      rw [switchView_append hnotes]
      exact h.logged inputs (hreopened.logged ▸ hinputs)
    · rw [hlog, switchView, Run.after_append]
      rfl
    · have hnone : ((d.reopened config attempts).renewed
          config).plane.tx.owner = .none := TxControl.owner_armed _ _
      exact absurd (howner.symm.trans hnone) (by decide)
  · rename_i hrecovers
    rw [if_neg hrecovers] at hcoherent
    have hexit := keepsSwitch_exit (d := d.reopened config attempts) config
    exact h.unswitched (hreopened.trans (.of_path (exit_path htends) hpassive
      id hexit)) hcoherent

omit input in
variable (config) in
/-- **What an edge of the switch does**: it starts the microphone at most,
and that only where the switch is pressed; where it is released, the
microphone is left without the transmitter. -/
theorem microphoneEdge_spec (hd : d.plane.Coherent)
    (harmed : d.plane.tx.enabled = true → d.plane.tx.physicalPttArmed = true)
    (pressed : Bool) (nowMs : UInt64) :
    let e := d.microphoneEdge config pressed nowMs
    (e.tx.log = d.tx.log
        ∨ (pressed = true ∧ (d.tx.note (.start .physicalMic)).Logs
          DaemonNote.Unswitched e.tx))
      ∧ (d.plane.tx.physicalPttArmed = true →
        e.plane.tx.physicalPttArmed = true)
      ∧ (pressed = false → e.plane.tx.owner ≠ .physicalMic) := by
  have hlogs := TxControl.logs_physicalPtt config.carriesDc pressed nowMs
    d.plane
  have hstill := TxControl.armed_physicalPtt (daemonCallbacks config.carriesDc)
    pressed nowMs (p := d.plane)
  have hreleased := TxControl.owner_of_released
    (daemonCallbacks config.carriesDc) nowMs hd harmed
  intro e
  dsimp only [e]
  unfold microphoneEdge
  extract_lets allowed switched p
  have hreconcile : p.tx = (TxPlane.after switched.2).tx
      ∧ p.world = (TxPlane.after switched.2).world := by
    dsimp only [p]
    unfold TuneControl.reconcile
    split
    · exact ⟨rfl, rfl⟩
    · exact ⟨rfl, rfl⟩
  split
  · rename_i hrejected
    have hpressed : pressed = true := by
      simp only [Bool.and_eq_true] at hrejected
      exact hrejected.1.1
    exact ⟨Or.inl rfl, id, fun h => absurd (hpressed.symm.trans h) (by decide)⟩
  -- what is recorded of the result is no matter of the switch
  suffices hp : (p.world.radio.log = d.tx.log
        ∨ (pressed = true ∧ (d.tx.note (.start .physicalMic)).Logs
          DaemonNote.Unswitched p.world.radio))
      ∧ (d.plane.tx.physicalPttArmed = true → p.tx.physicalPttArmed = true)
      ∧ (pressed = false → p.tx.owner ≠ .physicalMic) by
    dsimp only [withPlane]
    split
    · exact hp
    · exact hp
    · exact hp
    · exact hp
  rw [hreconcile.1, hreconcile.2]
  refine ⟨hlogs, hstill, fun hpressed => ?_⟩
  dsimp only [switched]
  rw [hpressed]
  exact hreleased

omit input in
/-- **The block that reads the switches keeps step**: an edge is what differs
from where the switch was observed last, and only a press starts the
microphone. -/
theorem inStep_switches (h : d.InStep config) (nowMs : UInt64)
    (hcoherent : (d.switches config nowMs).plane.Coherent)
    (henabled : (d.switches config nowMs).plane.tx.enabled
      = config.transmitEnabled) :
    (d.switches config nowMs).InStep config := by
  revert hcoherent henabled
  unfold switches
  split
  · exact fun _ _ => h
  rename_i inputs _
  split
  · exact fun _ _ => h
  extract_lets edge e₁ e₂
  have heach : Run.Each SwitchView.step SwitchView.Admits {} e₁.tx.log := by
    show Run.Each _ _ _ (d.tx.log ++ [.reading inputs])
    rw [Run.each_append]
    exact ⟨h.each, nofun, trivial⟩
  have hview : switchView e₁.tx.log
      = (switchView d.tx.log).step (.reading inputs) := by
    show switchView (d.tx.log ++ [.reading inputs]) = _
    rw [switchView, Run.after_append]
    rfl
  have hpressed : (switchView e₁.tx.log).pressed = inputs.micPtt := by
    rw [hview]
    rfl
  have hlogged : ∀ read ∈ e₁.loggedInputs,
      (switchView e₁.tx.log).pressed = read.micPtt := by
    intro read hread
    rw [hpressed, Option.some.inj (show some inputs = some read from hread)]
  have hreleased (hr : inputs.micPtt = false) :
      (switchView e₁.tx.log).rearmed = true := by
    rw [hview]
    show (_ || !inputs.micPtt) = true
    rw [hr]
    exact Bool.or_true _
  -- an edge is a level that was not observed before
  by_cases hedge : edge = true
  swap
  · -- the switch is where it was observed
    have hsame : d.observedMicrophonePtt = some inputs.micPtt := by
      simpa [edge] using hedge
    have he : e₂ = e₁ := if_neg (by simp [hedge])
    rw [if_neg hedge, he]
    intro hcoherent henabled
    refine ⟨hcoherent, henabled, h.armed, heach, hlogged, fun hobserved => ?_,
      fun hobserved => ?_, h.owner⟩
    · rw [hpressed]
      exact Option.some.inj (hsame.symm.trans hobserved)
    · refine hreleased (Bool.eq_false_iff.mpr fun hr => hobserved ?_)
      rw [← hr]
      exact hsame
  rw [if_pos hedge]
  have hother : d.observedMicrophonePtt ≠ some inputs.micPtt := by
    simpa [edge] using hedge
  -- without a transmitter the level is observed, and that is all
  by_cases htransmit : config.transmitEnabled = true
  swap
  · have he : e₂ = e₁ := if_neg (by simp [htransmit])
    rw [he]
    intro hcoherent henabled
    refine ⟨hcoherent, henabled, h.armed, heach, hlogged, fun hobserved => ?_,
      fun hobserved => ?_, fun howner => ?_⟩
    · exact hpressed.trans (Option.some.inj hobserved)
    · exact hreleased (Bool.eq_false_iff.mpr fun hr =>
        hobserved (congrArg some hr))
    · have := hcoherent.enabled (by rw [howner]; decide)
      exact absurd (henabled.symm.trans this) htransmit
  have he : e₂ = e₁.microphoneEdge config inputs.micPtt nowMs :=
    if_pos (by simp [htransmit, hedge])
  have hd₁ : e₁.plane.Coherent :=
    h.coherent.congr h.coherent.settled (Or.inl ⟨rfl, rfl⟩) rfl rfl
  obtain ⟨hlogs, hstill, howner⟩ :=
    microphoneEdge_spec config hd₁ h.armed inputs.micPtt nowMs
  rw [← he] at hlogs hstill howner
  have hsame : e₂.loggedInputs = some inputs := by
    rw [he]
    unfold microphoneEdge
    extract_lets allowed switched p
    split
    · rfl
    · rfl
  intro hcoherent henabled
  have harmed (htx : e₂.plane.tx.enabled = true) :
      e₂.plane.tx.physicalPttArmed = true :=
    hstill (h.armed (h.enabled.trans htransmit))
  have howned (hmic : e₂.plane.tx.owner = .physicalMic) :
      some inputs.micPtt = some true :=
    congrArg some (Bool.not_eq_false _ |>.mp fun hr => howner hr hmic)
  -- the edge starts nothing, or it starts the microphone
  obtain hlog | ⟨hdown, notes, hlog, hnotes⟩ := hlogs
  · refine ⟨hcoherent, henabled, harmed, ?_, fun read hread => ?_,
      fun hobserved => ?_, fun hobserved => ?_, howned⟩
    · show Run.Each _ _ _ e₂.tx.log
      rw [hlog]
      exact heach
    · show (switchView e₂.tx.log).pressed = _
      rw [hlog]
      exact hlogged read (hsame.symm.trans hread)
    · show (switchView e₂.tx.log).pressed = true
      rw [hlog]
      exact hpressed.trans (Option.some.inj hobserved)
    · show (switchView e₂.tx.log).rearmed = true
      rw [hlog]
      exact hreleased (Bool.eq_false_iff.mpr fun hr =>
        hobserved (congrArg some hr))
  · -- the microphone starts: the switch was not observed pressed before
    have hrearmed : (switchView e₁.tx.log).rearmed = true := by
      rw [hview]
      show (_ || !inputs.micPtt) = true
      rw [h.rearmed fun hobserved => hother (by rw [hobserved, hdown])]
      rfl
    have hstarted : (e₁.tx.note (.start .physicalMic)).log
        = e₁.tx.log ++ [.start .physicalMic] := rfl
    rw [hstarted] at hlog
    have heach₂ : Run.Each SwitchView.step SwitchView.Admits {}
        (e₁.tx.log ++ [.start .physicalMic]) := by
      rw [Run.each_append]
      exact ⟨heach, fun _ => ⟨hpressed.trans hdown, hrearmed⟩, trivial⟩
    have hview₂ : (switchView e₂.tx.log).pressed = inputs.micPtt := by
      rw [hlog, switchView_append hnotes, switchView, Run.after_append]
      exact hpressed
    refine ⟨hcoherent, henabled, harmed, ?_, fun read hread => ?_,
      fun _ => hview₂.trans hdown,
      fun hobserved => absurd (congrArg some hdown) hobserved, howned⟩
    · show Run.Each _ _ _ e₂.tx.log
      rw [hlog]
      exact each_append_unswitched heach₂ hnotes
    · have hread : e₂.loggedInputs = some read := hread
      rw [hsame] at hread
      show (switchView e₂.tx.log).pressed = _
      rw [hview₂, Option.some.inj hread]

/-- Every block keeps step. -/
theorem inStep_perform (h : d.InStep config) (block : LoopBlock)
    (input : LoopInput) : (d.perform config block input).InStep config := by
  have hcoherent := coherent_perform config block input h.coherent
  have henabled := enabled_perform input h.coherent h.enabled block
  by_cases hrecover : block = .recover
  · rw [hrecover]
    exact inStep_recover h input.recoveryAttempts
  by_cases hswitches : block = .switches
  · rw [hswitches] at hcoherent henabled ⊢
    exact inStep_switches h input.pttMs hcoherent henabled
  · exact h.unswitched
      (unswitched_perform config input h.coherent hrecover hswitches) hcoherent

omit input in
variable (config) in
/-- A block that reads the switches either passes over what it reads, which
it has logged before, or observes it. -/
theorem observed_switches {inputs : PhysicalInputs}
    (hinputs : d.tx.receiver.physicalInputs = some inputs) (nowMs : UInt64) :
    (d.switches config nowMs = d
        ∧ ∃ logged ∈ d.loggedInputs, logged.micPtt = inputs.micPtt)
      ∨ (d.switches config nowMs).observedMicrophonePtt
        = some inputs.micPtt := by
  unfold switches
  split
  · rename_i hnone
    exact absurd (hinputs.symm.trans hnone) nofun
  rename_i read hread
  obtain rfl : inputs = read := Option.some.inj (hinputs.symm.trans hread)
  split
  · rename_i hlogged
    obtain ⟨logged, hmem, hequal⟩ := (Option.any_eq_true _ _).mp hlogged
    exact Or.inl ⟨rfl, logged, hmem,
      (PhysicalInputs.micPtt_of_equal hequal).symm⟩
  extract_lets edge e₁ e₂
  refine Or.inr ?_
  by_cases hedge : edge = true
  · rw [if_pos hedge]
  · rw [if_neg hedge]
    have he : e₂ = e₁ := if_neg (by simp [hedge])
    rw [he]
    show d.observedMicrophonePtt = _
    simpa [edge] using hedge

/-- **The law of the microphone's switch.** -/
structure MicrophoneLaw (config : DaemonConfig) (d : Daemon) : Prop where
  /-- The microphone starts with its switch pressed, and starts again only
  once it was released or a session began. -/
  follows : FollowsSwitch d.tx.log
  /-- While it transmits, the switch was read pressed last. -/
  owner : d.plane.tx.owner = .physicalMic → lastMicPtt d.tx.log = some true
  /-- A block that finds the switch released does not leave it
  transmitting. -/
  released : ∀ inputs nowMs, d.tx.receiver.physicalInputs = some inputs →
    inputs.micPtt = false →
    (d.switches config nowMs).plane.tx.owner ≠ .physicalMic

omit input in
/-- What is in step obeys it. -/
theorem InStep.microphoneLaw (h : d.InStep config) :
    d.MicrophoneLaw config := by
  refine ⟨followsSwitch_of_each h.each, fun howner => ?_,
    fun inputs nowMs hinputs hreleased howner => ?_⟩
  · have hpressed := h.observed (h.owner howner)
    rw [switchView, pressed_after] at hpressed
    cases hlast : lastMicPtt d.tx.log with
    | none => rw [hlast] at hpressed; exact Bool.noConfusion hpressed
    | some pressed => rw [hlast] at hpressed; exact congrArg some hpressed
  · have hcoherent : (d.switches config nowMs).plane.Coherent :=
      coherent_of_reaches h.coherent
        (switches_path (W := fun _ _ => True) (fun _ _ => trivial) nowMs)
    have henabled : (d.switches config nowMs).plane.tx.enabled
        = config.transmitEnabled :=
      ((switches_path (W := fun _ _ => True) (fun _ _ => trivial)
        nowMs).enabled (framed_daemonCallbacks config.carriesDc)
          fun m hm hr => by rw [hr] at hm; exact hm).trans h.enabled
    have hobserved := (inStep_switches h nowMs hcoherent henabled).owner howner
    obtain ⟨hsame, logged, hmem, hmic⟩ | hsame :=
      observed_switches config hinputs nowMs
    · rw [hsame] at hobserved
      exact Bool.noConfusion (hreleased.symm.trans (hmic.symm.trans
        ((h.logged logged hmem).symm.trans (h.observed hobserved))))
    · rw [hsame] at hobserved
      exact Bool.noConfusion (hreleased.symm.trans (Option.some.inj hobserved))

/-- **The microphone follows its switch**: in any run of the daemon, over any
configuration and whatever the radio answers, and in whatever order requests,
samples, statuses, timers, failures, preemptions and recoveries come, the law
of the switch holds behind every block. No release that is read leaves the
microphone transmitting, and a switch that stays pressed does not start it
again within a session, whatever the other inputs do. -/
theorem microphone_follows_switch (config : DaemonConfig)
    (answers : ℕ → UsbAnswer) (blocks : List (LoopBlock × LoopInput)) :
    ((boot config answers).after config blocks).MicrophoneLaw config :=
  (after_invariant (InStep config)
    (fun _ block input h => inStep_perform h block input) blocks
    (inStep_boot config answers)).microphoneLaw

end Daemon
