import Flex1500.ApiOutcome
import Flex1500.DaemonPaths
import Flex1500.TxMoveLaws

/-!
# The loop, block by block

A pass of the loop is a sequence of blocks, and what matters to a client can
happen between any two of them. `Daemon.after` is the daemon after blocks in
any order, each with an input of its own: every state a run is in at any time
is one of these, and so are many more. What holds after blocks in any order
holds whatever the order of the source is, so that the results that follow do
not lean on it.

The rest of the module says what a block can do. All but the expiry of the
station and the requests leave the API controller and the station alone, and
what a request does is done by the dispatcher, whose outcome is known. The
callbacks a block calls are read off the log.
-/

/-! ## Blocks -/

/-- The blocks of the loop. -/
inductive LoopBlock where
  | stationTick | tuneTick | txTick | networkReconcile | networkTick
  | pump | recover | switches | rtl | http | stream | publish | exit
  deriving DecidableEq, Repr

namespace Daemon

variable {config : DaemonConfig} {d : Daemon} {input : LoopInput}

section Perform

variable (config)

/-- What a block does. -/
def perform (block : LoopBlock) (input : LoopInput) (d : Daemon) : Daemon :=
  match block with
  | .stationTick => d.stationTick config input.stationMs
  | .tuneTick => d.tuneTick config input.tuneMs
  | .txTick => d.txTick config input.txMs
  | .networkReconcile => d.networkReconcile
  | .networkTick => d.networkTick config input.networkMs
  | .pump => d.withReceiver d.tx.receiver.pump.2
  | .recover => d.recover config input.recoveryAttempts
  | .switches => d.switches config input.pttMs
  | .rtl => d.rtl config input
  | .http => d.http config input
  | .stream => d.stream config input
  | .publish => d.publish input
  | .exit => d.exit config

/-- The daemon after blocks, one after the other. -/
def after (blocks : List (LoopBlock × LoopInput)) (d : Daemon) : Daemon :=
  blocks.foldl (fun d block => d.perform config block.1 block.2) d

/-- The blocks a pass of the loop goes through. -/
def passBlocks (input : LoopInput) (d : Daemon) : List LoopBlock :=
  if !d.running then []
  else if input.stopRequested then [.exit]
  else
    let d := d.ticks config input
    let pumped := d.tx.receiver.pump
    [.stationTick, .tuneTick, .txTick, .networkReconcile, .networkTick, .pump]
      ++ (if pumped.1 ≠ 0 ∨ pumped.2.running = false then [.recover]
        else [.switches, .rtl, .http, .stream, .publish])

end Perform

@[simp] theorem after_nil (d : Daemon) : d.after config [] = d := rfl

theorem after_append (blocks blocks' : List (LoopBlock × LoopInput)) :
    d.after config (blocks ++ blocks')
      = (d.after config blocks).after config blocks' := by
  rw [after, List.foldl_append]
  rfl

variable (config) in
/-- **A pass is its blocks**, one after the other. -/
theorem step_eq_after (input : LoopInput) (d : Daemon) :
    step config d input
      = d.after config ((passBlocks config input d).map (·, input)) := by
  unfold step passBlocks
  split
  · rfl
  split
  · rfl
  · unfold iterate
    dsimp only
    split
    · rfl
    · rfl

/-- A run's last pass. -/
theorem run_concat (config : DaemonConfig) (answers : ℕ → UsbAnswer)
    (inputs : List LoopInput) (input : LoopInput) :
    run config answers (inputs ++ [input])
      = (run config answers inputs).after config
          ((passBlocks config input (run config answers inputs)).map
            (·, input)) := by
  rw [← step_eq_after, run, List.foldl_append]
  rfl

/-- **A run is a sequence of blocks.** -/
theorem run_eq_after (config : DaemonConfig) (answers : ℕ → UsbAnswer)
    (inputs : List LoopInput) :
    ∃ blocks, run config answers inputs
      = (boot config answers).after config blocks := by
  induction inputs using List.reverseRecOn with
  | nil => exact ⟨[], rfl⟩
  | append_singleton inputs input ih =>
    obtain ⟨blocks, hblocks⟩ := ih
    refine ⟨blocks ++ (passBlocks config input
      (run config answers inputs)).map (·, input), ?_⟩
    rw [run_concat, after_append, ← hblocks]

/-- **The invariant rule** over blocks in any order. -/
theorem after_invariant (I : Daemon → Prop)
    (hstep : ∀ d block input, I d → I (d.perform config block input))
    (blocks : List (LoopBlock × LoopInput)) (h : I d) :
    I (d.after config blocks) := by
  induction blocks generalizing d with
  | nil => exact h
  | cons block blocks ih => exact ih (hstep d block.1 block.2 h)

/-! ## Blocks as paths -/

end Daemon

/-- What the loop does to the world without a request or an expiry, with all
that it logs itself. -/
structure ApiWorld.Turns
    (W : ApiWorld DaemonTx → ApiWorld DaemonTx → Prop) : Prop
    extends ApiWorld.Tends W where
  reading : ∀ (w : ApiWorld DaemonTx) inputs,
    W w { w with radio := w.radio.note (.reading inputs) }
  session : ∀ w : ApiWorld DaemonTx,
    W w { w with radio := w.radio.note .session }

theorem ApiWorld.Loops.turns
    {W : ApiWorld DaemonTx → ApiWorld DaemonTx → Prop}
    (hW : ApiWorld.Loops W) : ApiWorld.Turns W where
  toTends := hW.toTends
  reading := hW.reading
  session := hW.session

/-- The moves a block may make. -/
def LoopBlock.Moves (input : LoopInput) (owner : TxOwner) :
    LoopBlock → TxMove → Prop
  | .recover => Daemon.Recovering
  | .switches => TxMove.Switched input.pttMs owner
  | .http => Daemon.Requested input.requestMs owner
  | .stream => Daemon.Streaming
  | _ => TxMove.Passive

namespace Daemon

variable {config : DaemonConfig} {d : Daemon} {input : LoopInput}
variable {W : ApiWorld DaemonTx → ApiWorld DaemonTx → Prop}

variable (config input) in
/-- **A block that is neither an expiry nor a request** makes its moves. -/
theorem turn_path (hW : ApiWorld.Turns W) (hd : d.plane.Coherent)
    {block : LoopBlock} (hexpiry : block ≠ .stationTick)
    (hrequest : block ≠ .http) :
    d.Reaches config.carriesDc W (block.Moves input d.plane.tx.owner)
      (d.perform config block input) := by
  cases block with
  | stationTick => exact absurd rfl hexpiry
  | tuneTick => exact tuneTick_path hd _
  | txTick => exact txTick_path _
  | networkReconcile => exact networkReconcile_path hW.toTends
  | networkTick => exact networkTick_path hW.toTends hd _
  | pump => exact withReceiver_path hW.toTends (UsbRx.unkeying_pump _)
  | recover => exact recover_path hW.toTends hd hW.session _
  | switches => exact switches_path hW.reading _
  | rtl => exact rtl_path config input hW.toTends
  | http => exact absurd rfl hrequest
  | stream => exact stream_path config input hW.toTends hd
  | publish => exact .refl d.plane
  | exit => exact exit_path hW.toTends

variable (config input) in
/-- **Every block makes its moves.** -/
theorem perform_path (hW : ApiWorld.Loops W) (hd : d.plane.Coherent)
    (block : LoopBlock) :
    d.Reaches config.carriesDc W (block.Moves input d.plane.tx.owner)
      (d.perform config block input) := by
  by_cases hexpiry : block = .stationTick
  · rw [hexpiry]
    exact stationTick_path config hW.toServes hd _
  by_cases hrequest : block = .http
  · rw [hrequest]
    exact http_path config input hW.toServes hd
  · exact turn_path config input hW.turns hd hexpiry hrequest

/-- Every block keeps coherence. -/
theorem coherent_perform (config : DaemonConfig) (block : LoopBlock)
    (input : LoopInput) (hd : d.plane.Coherent) :
    (d.perform config block input).plane.Coherent :=
  coherent_of_reaches hd
    (perform_path config input ApiWorld.loops_true hd block)

/-- The daemon is initialised over whatever receiver it has. -/
theorem boot_eq_initial (config : DaemonConfig) (answers : ℕ → UsbAnswer) :
    ∃ receiver running,
      boot config answers = initial config receiver running := by
  unfold boot
  extract_lets started gained prepared
  split
  · exact ⟨_, _, rfl⟩
  split
  · exact ⟨_, _, rfl⟩
  split
  · exact ⟨_, _, rfl⟩
  · exact ⟨_, _, rfl⟩

/-- Blocks in any order keep coherence. -/
theorem coherent_after (config : DaemonConfig) (answers : ℕ → UsbAnswer)
    (blocks : List (LoopBlock × LoopInput)) :
    ((boot config answers).after config blocks).plane.Coherent :=
  after_invariant (fun d => d.plane.Coherent)
    (fun _ block input => coherent_perform config block input)
    blocks (coherent_boot config answers)

/-! ## What the expiry does -/

/-- The callbacks of the daemon read the API controller and the station and
leave them alone. -/
theorem keeps_daemonCallbacks (carriesDc : List UInt8 → Bool) :
    (daemonCallbacks carriesDc).Keeps
      fun w : ApiWorld DaemonTx => (w.api, w.station) := by
  have hcounted (k : DaemonContext) (tx : DaemonTx) (started : Int) :
      (((k.withRadio tx).counted started).world.api,
        ((k.withRadio tx).counted started).world.station)
        = (k.world.api, k.world.station) := by
    unfold DaemonContext.counted
    split
    · rfl
    · rfl
  constructor
  · intro owner control k
    cases owner with
    | http => exact hcounted k _ _
    | physicalMic => exact hcounted k _ _
    | _ => rfl
  · intro owner graceful control k
    cases owner with
    | http => rfl
    | physicalMic => rfl
    | _ => rfl

/-- Loops that leave the API controller and the station alone. -/
theorem turns_keeping : ApiWorld.Turns
    fun w w' : ApiWorld DaemonTx =>
      (w'.api, w'.station) = (w.api, w.station) where
  receiver _ _ _ := rfl
  samples _ _ _ _ := rfl
  reading _ _ := rfl
  session _ := rfl

variable (config input) in
/-- **A block that is neither an expiry nor a request** leaves the API
controller and the station alone. -/
theorem turn_world (hd : d.plane.Coherent) {block : LoopBlock}
    (hexpiry : block ≠ .stationTick) (hrequest : block ≠ .http) :
    (d.perform config block input).plane.world.api = d.plane.world.api
      ∧ (d.perform config block input).plane.world.station
        = d.plane.world.station := by
  have hpath := turn_path config input turns_keeping hd hexpiry hrequest
  have hworld := hpath.world_eq (keeps_daemonCallbacks config.carriesDc)
  exact Prod.mk.inj hworld

variable (config) in
/-- The station after its tick, with everything the expiry stops stopped. -/
theorem stationTick_world (hd : d.plane.Coherent) (nowMs : UInt64) :
    (d.stationTick config nowMs).plane.world.api = d.plane.world.api
      ∧ (d.stationTick config nowMs).plane.world.station
        = (d.plane.world.station.tick nowMs).2 := by
  have hticked := hd.congr (q := d.plane.withStation
    (d.plane.world.station.tick nowMs).2) hd.settled (Or.inl ⟨rfl, rfl⟩) rfl rfl
  have hkeeps := keeps_daemonCallbacks config.carriesDc
  have hshutdown : TxPlane.ReachesPassively
      (daemonCallbacks config.carriesDc)
      (fun w w' => (w'.api, w'.station) = (w.api, w.station)) _
      (TuneControl.shutdown (daemonCallbacks config.carriesDc) _) :=
    TuneControl.shutdown_path hticked
  unfold stationTick
  dsimp only
  split
  · split
    · have hrelease := TxPlane.Reaches.trans hshutdown (NetworkTx.release_path
        (hticked.reaches (framed_daemonCallbacks _) hshutdown)
        (TuneControl.shutdown (daemonCallbacks config.carriesDc)
          (d.plane.withStation
            (d.plane.world.station.tick nowMs).2)).network.lease)
      exact Prod.mk.inj (hrelease.world_eq hkeeps)
    · exact Prod.mk.inj (TxPlane.Reaches.world_eq hkeeps hshutdown)
  · exact ⟨rfl, rfl⟩

/-! ## What a recovery does -/

/-- Whether a recovery has the radio open again in the end. -/
def Recovers (config : DaemonConfig) (attempts : ℕ) (d : Daemon) : Prop :=
  (reopenWithin config (d.tx.receiver.gainDb.getD 20)
    d.tx.receiver.frequencyHz (min 60 attempts)
    (d.abandoned config).tx.receiver).1 = true

instance (config : DaemonConfig) (attempts : ℕ) (d : Daemon) :
    Decidable (d.Recovers config attempts) :=
  inferInstanceAs (Decidable (_ = true))

/-- The daemon with the radio open again, or not. -/
def reopened (config : DaemonConfig) (attempts : ℕ) (d : Daemon) : Daemon :=
  (d.abandoned config).withReceiver
    (reopenWithin config (d.tx.receiver.gainDb.getD 20)
      d.tx.receiver.frequencyHz (min 60 attempts)
      (d.abandoned config).tx.receiver).2

/-- The daemon at the beginning of a USB session, its records initialised
anew. -/
def renewed (config : DaemonConfig) (d : Daemon) : Daemon :=
  { (d.withPlane (d.plane.restarted config.transmitEnabled)).withTx
      (·.note .session) with
    observedMicrophonePtt := none }

/-- A recovery that has the radio open begins a USB session; one that has
not ends the loop. -/
theorem recover_eq (attempts : ℕ) (d : Daemon) :
    d.recover config attempts
      = if d.Recovers config attempts then
          (d.reopened config attempts).renewed config
        else (d.reopened config attempts).exit config := rfl

/-! ## What a request does -/

section Requests

variable (config input)

/-- The plane a request finds, at its time. -/
def asked (d : Daemon) : TxPlane (ApiWorld DaemonTx) :=
  d.plane.withApi ({ · with requestNowMs := input.requestMs })

/-- What the dispatcher answers to a request. -/
def answered (buffer : List UInt8) (d : Daemon) :
    ApiReply × TxPlane (ApiWorld DaemonTx) :=
  Api.dispatch (daemonCallbacks config.carriesDc) daemonOps
    (CText.ofBuffer buffer)
    { frequencyHz := d.tx.receiver.frequencyHz.map (·.1) }
    responseCapacity input.pages (d.asked input)

/-- The request that the HTTP client's bytes complete, if they do. -/
def completed (d : Daemon) : Option (List UInt8) :=
  (d.httpClient <|> (if input.httpAccepted then some [] else none)).bind
    fun buffer =>
      let bytes :=
        match input.httpReceived with
        | .data bytes => bytes.take (requestCapacity - buffer.length)
        | _ => []
      if HttpRequest.complete (buffer ++ bytes) then some (buffer ++ bytes)
      else none

/-- The block of the client moves the records where a request is complete,
and then as the request does. -/
theorem http_plane (d : Daemon) :
    (d.http config input).plane
      = match d.completed input with
        | none => d.plane
        | some buffer => (d.request config input buffer).plane := by
  unfold http completed
  cases d.httpClient <|> (if input.httpAccepted then some [] else none) with
  | none => rfl
  | some buffer =>
    dsimp only [Option.bind_some]
    generalize input.httpReceived = received
    cases received with
    | _ =>
      dsimp only
      split
      · rfl
      · rfl

/-- What a request comes to in the daemon. -/
theorem answered_outcome (buffer : List UInt8) (d : Daemon) :
    Api.Outcome (daemonCallbacks config.carriesDc) (CText.ofBuffer buffer)
      { frequencyHz := d.tx.receiver.frequencyHz.map (·.1) } (d.asked input)
      (d.answered config input buffer).2 :=
  Api.dispatch_outcome _ _ _ _ _ _ _

variable {config input} in
theorem coherent_asked (hd : d.plane.Coherent) : (d.asked input).Coherent :=
  hd.congr hd.settled (Or.inl ⟨rfl, rfl⟩) rfl rfl

/-- Behind the dispatcher a request moves samples at most. -/
theorem request_rest_path (hW : ApiWorld.Tends W) (buffer : List UInt8) :
    (d.withPlane (d.answered config input buffer).2).Reaches config.carriesDc W
      TxMove.Passive (d.request config input buffer) := by
  unfold request
  extract_lets text p answer e e'
  have he : (d.withPlane (d.answered config input buffer).2).Reaches
      config.carriesDc W TxMove.Passive e' := by
    change e.Reaches config.carriesDc W _ e'
    dsimp only [e']
    split
    · exact (clearPrebuffer_path (d := e.closeTxClient) hW).trans
        (clearTail_path hW)
    · exact .refl _
  refine TxPlane.Reaches.trans he ?_
  split
  · exact openIqStream_path _
  · exact openTxStream_path hW _
  · exact pushTxAudio_path hW _ _
  · exact .refl _

/-- After a request the API controller and the station are as the dispatcher
left them. -/
theorem request_world (buffer : List UInt8) :
    (d.request config input buffer).plane.world.api
        = (d.answered config input buffer).2.world.api
      ∧ (d.request config input buffer).plane.world.station
        = (d.answered config input buffer).2.world.station :=
  Prod.mk.inj ((request_rest_path config input
    turns_keeping.toTends buffer).world_eq
      (keeps_daemonCallbacks config.carriesDc))

/-- **What a block does to the API controller and the station**: nothing, or
the station ticks, or a request is answered. -/
theorem perform_world (hd : d.plane.Coherent) (block : LoopBlock) :
    (d.perform config block input).plane.world.api = d.plane.world.api
        ∧ ((d.perform config block input).plane.world.station
            = d.plane.world.station
          ∨ (d.perform config block input).plane.world.station
            = (d.plane.world.station.tick input.stationMs).2)
      ∨ ∃ buffer, (d.perform config block input).plane.world.api
            = (d.answered config input buffer).2.world.api
          ∧ (d.perform config block input).plane.world.station
            = (d.answered config input buffer).2.world.station := by
  by_cases hexpiry : block = .stationTick
  · rw [hexpiry]
    obtain ⟨hapi, hstation⟩ := stationTick_world config hd input.stationMs
    exact Or.inl ⟨hapi, Or.inr hstation⟩
  by_cases hrequest : block = .http
  swap
  · obtain ⟨hapi, hstation⟩ :=
      turn_world config input hd hexpiry hrequest
    exact Or.inl ⟨hapi, Or.inl hstation⟩
  rw [hrequest]
  show (d.http config input).plane.world.api = _ ∧ _ ∨ _
  have hplane := http_plane config input d
  cases hcompleted : d.completed input with
  | none =>
    rw [hcompleted] at hplane
    exact Or.inl ⟨congrArg (·.world.api) hplane,
      Or.inl (congrArg (·.world.station) hplane)⟩
  | some buffer =>
    rw [hcompleted] at hplane
    obtain ⟨hapi, hstation⟩ :=
      request_world config input (d := d) buffer
    exact Or.inr ⟨buffer, (congrArg (·.world.api) hplane).trans hapi,
      (congrArg (·.world.station) hplane).trans hstation⟩

end Requests

end Daemon

/-! ## Which starts were called -/

/-- The start an entry records. -/
def DaemonNote.started? : DaemonNote → Option TxOwner
  | .start owner => some owner
  | _ => none

/-- The starts that were called, in order. -/
def DaemonTx.starts (tx : DaemonTx) : List TxOwner :=
  tx.log.filterMap DaemonNote.started?

namespace DaemonTx

theorem starts_note (entry : DaemonNote) (tx : DaemonTx) :
    (tx.note entry).starts = tx.starts ++ entry.started?.toList := by
  unfold starts note
  rw [List.filterMap_append]
  cases h : entry.started? with
  | none => simp [h]
  | some owner => simp [h]

/-- Entries about samples record no start. -/
theorem starts_of_logs {tx tx' : DaemonTx}
    (h : tx.Logs DaemonNote.OfSamples tx') : tx'.starts = tx.starts := by
  obtain ⟨notes, hlog, hnotes⟩ := h
  unfold starts
  have hnone : notes.filterMap DaemonNote.started? = [] := by
    rw [List.filterMap_eq_nil_iff]
    intro entry hentry
    have hsamples := hnotes entry hentry
    cases entry with
    | start owner => exact hsamples.elim
    | _ => rfl
  rw [hlog, List.filterMap_append, hnone, List.append_nil]

end DaemonTx

/-- Loops that record no start. -/
theorem ApiWorld.loops_starts : ApiWorld.Loops
    fun w w' : ApiWorld DaemonTx => w'.radio.starts = w.radio.starts where
  api _ _ := rfl
  station _ _ := rfl
  receiver _ _ _ := rfl
  samples _ _ _ h := DaemonTx.starts_of_logs h
  reading w inputs := by
    rw [DaemonTx.starts_note]
    exact List.append_nil _
  session w := by
    rw [DaemonTx.starts_note]
    exact List.append_nil _

/-- The start callback records its owner, and nothing else. -/
theorem starts_daemonTxOwnerStart (carriesDc : List UInt8 → Bool)
    (owner : TxOwner) (control : TxControl) (k : DaemonContext) :
    (daemonTxOwnerStart carriesDc owner control k).2.world.radio.starts
      = k.world.radio.starts ++ [owner] := by
  have hstart : (k.world.radio.note (.start owner)).starts
      = k.world.radio.starts ++ [owner] := DaemonTx.starts_note _ _
  have hcounted (tx : DaemonTx) (started : Int) :
      ((k.withRadio tx).counted started).world.radio = tx := by
    unfold DaemonContext.counted
    split
    · rfl
    · rfl
  have hemitting (control : TxControl) (network : NetworkTx)
      (emission : Emission) (frequencyHz : ℕ) (tx : DaemonTx) :
      (tx.emitting owner control network emission frequencyHz).starts
        = tx.starts := by
    rw [DaemonTx.emitting, DaemonTx.starts_note]
    exact List.append_nil _
  rw [← hstart]
  unfold daemonTxOwnerStart
  dsimp only
  cases owner with
  | tune =>
    dsimp only
    unfold DaemonTx.startTune
    split
    · rfl
    split
    · rfl
    · exact hemitting control k.network .tune _ _
  | http =>
    dsimp only
    rw [hcounted]
    unfold DaemonTx.startNetwork
    split
    · rfl
    dsimp only
    split
    · rfl
    split
    · exact (DaemonTx.starts_note _ _).trans ((List.append_nil _).trans
        (hemitting control k.network _ _ _))
    · exact (DaemonTx.starts_note _ _).trans ((List.append_nil _).trans
        (hemitting control k.network _ _ _))
  | physicalMic =>
    dsimp only
    rw [hcounted]
    unfold DaemonTx.startMicrophone
    split
    · rfl
    dsimp only
    split
    · rfl
    · exact hemitting control k.network _ _ _
  | _ => rfl

/-- The stop callback records nothing. -/
theorem starts_daemonTxOwnerStop (owner : TxOwner) (graceful : Bool)
    (control : TxControl) (k : DaemonContext) :
    (daemonTxOwnerStop owner graceful control k).2.world.radio.starts
      = k.world.radio.starts := by
  cases owner <;> rfl

/-- **A start that is called** is that of a request, granted or refused. -/
theorem TxPlane.starts_requested {carriesDc : List UInt8 → Bool}
    {p : TxPlane (ApiWorld DaemonTx)} {owner : TxOwner} (nowMs : UInt64)
    (h : p.tx.Admits owner) :
    (p.requested (daemonCallbacks carriesDc) owner nowMs).world.radio.starts
      = p.world.radio.starts ++ [owner] := by
  have hstart := starts_daemonTxOwnerStart carriesDc owner p.tx.preparing
    p.toTxContext
  unfold requested
  obtain ⟨hna, -⟩ | ⟨-, -, hr⟩ | ⟨-, -, hr⟩ := TxControl.request_cases
    (daemonCallbacks carriesDc) owner nowMs p.tx p.toTxContext
  · exact absurd h hna
  · rw [hr]
    exact hstart
  · rw [hr]
    exact (starts_daemonTxOwnerStop owner false p.tx.preparing
      (daemonTxOwnerStart carriesDc owner p.tx.preparing p.toTxContext).2).trans
        hstart

/-- A stop calls no start. -/
theorem TxPlane.starts_unowned {carriesDc : List UInt8 → Bool}
    {p : TxPlane (ApiWorld DaemonTx)} (graceful : Bool)
    (h : p.tx.owner ≠ .none) :
    (p.unowned (daemonCallbacks carriesDc) graceful).world.radio.starts
      = p.world.radio.starts := by
  unfold unowned
  rw [TxControl.stopOwner_of_owner _ _ _ h]
  exact starts_daemonTxOwnerStop p.tx.owner graceful p.tx.unkeying
    p.toTxContext

/-- A grant or a refusal of an owner is among the moves. -/
def TxMove.Tries (P : TxMove → Prop) (owner : TxOwner) : Prop :=
  P (.refuse owner) ∨ ∃ nowMs, P (.grant owner nowMs)

/-- A move calls the start of the owner it grants or refuses, and no
other. -/
theorem TxPlane.starts_step {carriesDc : List UInt8 → Bool} {m : TxMove}
    {p q : TxPlane (ApiWorld DaemonTx)}
    (hstep : TxStep (daemonCallbacks carriesDc)
      (fun w w' => w'.radio.starts = w.radio.starts) m p q) :
    q.world.radio.starts = p.world.radio.starts
      ∨ ∃ owner, TxMove.Tries (· = m) owner
        ∧ q.world.radio.starts = p.world.radio.starts ++ [owner] := by
  cases hstep with
  | world hw => exact Or.inl hw
  | stop ho => exact Or.inl (starts_unowned _ ho)
  | @refuse _ owner nowMs ha _ _ _ =>
    exact Or.inr ⟨owner, Or.inl rfl, starts_requested nowMs ha⟩
  | @grantTune _ _ nowMs ha _ _ =>
    exact Or.inr ⟨.tune, Or.inr ⟨nowMs, rfl⟩, starts_requested nowMs ha⟩
  | @grantMic _ nowMs ha _ =>
    exact Or.inr ⟨.physicalMic, Or.inr ⟨nowMs, rfl⟩,
      starts_requested nowMs ha⟩
  | @grantNetwork _ nowMs ha _ _ =>
    exact Or.inr ⟨.http, Or.inr ⟨nowMs, rfl⟩, starts_requested nowMs ha⟩
  | _ => exact Or.inl rfl

/-- **Every start a path calls** is of an owner its moves grant or
refuse. -/
theorem TxPlane.Reaches.starts {carriesDc : List UInt8 → Bool}
    {P : TxMove → Prop} {p q : TxPlane (ApiWorld DaemonTx)}
    (h : p.Reaches (daemonCallbacks carriesDc)
      (fun w w' => w'.radio.starts = w.radio.starts) P q) :
    ∃ owners, q.world.radio.starts = p.world.radio.starts ++ owners
      ∧ ∀ owner ∈ owners, TxMove.Tries P owner := by
  obtain ⟨ms, hpath, hms⟩ := h
  refine hpath.relate (fun _ => True)
    (fun p q : TxPlane (ApiWorld DaemonTx) => ∃ owners,
      q.world.radio.starts = p.world.radio.starts ++ owners
      ∧ ∀ owner ∈ owners, TxMove.Tries P owner)
    (fun p => ⟨[], (List.append_nil _).symm, by simp⟩)
    (fun _ _ _ hpq hqr => ?_) (fun m hm _ _ hstep _ => ⟨trivial, ?_⟩) trivial
  · obtain ⟨owners, hq, ho⟩ := hpq
    obtain ⟨owners', hr, ho'⟩ := hqr
    exact ⟨owners ++ owners', by rw [hr, hq, List.append_assoc],
      fun owner hmem => (List.mem_append.mp hmem).elim (ho owner) (ho' owner)⟩
  · obtain hsame | ⟨owner, htries, hstarts⟩ := starts_step hstep
    · exact ⟨[], by rw [hsame, List.append_nil], by simp⟩
    · refine ⟨[owner], hstarts, fun o ho => ?_⟩
      obtain rfl := List.mem_singleton.mp ho
      obtain hrefuse | ⟨nowMs, hgrant⟩ := htries
      · exact Or.inl (hrefuse ▸ hms m hm)
      · exact Or.inr ⟨nowMs, hgrant ▸ hms m hm⟩
