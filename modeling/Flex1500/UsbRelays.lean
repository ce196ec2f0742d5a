import Flex1500.Lib.Run
import Flex1500.UsbAccounting

/-!
# What is switched, and when

Filters, the amplifier and the antenna are relays, and a relay that is thrown
while the transmitter is keyed burns. The code has no check for that in any
one place: a command is sent where the flags of the receiver allow it, and
the flags follow the key. So the law is one of the trace: a **view** keeps
what was commanded last of each relay, and says of every event whether it may
come now.
-/

/-- What a trace says of the relays, beside the key: what was commanded last,
and whether it was acknowledged. A receive filter counts from the frequency
it was selected for. -/
structure RelayView extends RadioView where
  paFilter : Option (ℕ × Bool) := none
  amplifier : Option (Bool × Bool) := none
  muted : Option (Bool × Bool) := none
  word : Option (ℕ × Bool) := none
  rxFilter : Option (ℕ × Bool) := none
  deriving DecidableEq, Repr

/-- An event that is not about the filters. -/
def UsbEvent.Unfiltered : UsbEvent → Prop
  | .command (.setPaFilter _) _ | .command (.setRx1Filter _) _ => False
  | .tuned _ | .opened | .closed => False
  | _ => True

/-- Only a command is one. -/
theorem UsbEvent.of_command? {event : UsbEvent} {command : RadioCommand}
    (h : event.command? = some command) : ∃ ok, event = .command command ok := by
  cases event with
  | command sent ok => exact ⟨ok, by rw [Option.some.inj h]⟩
  | _ => simp [UsbEvent.command?] at h

namespace RelayView

/-- What one event changes. -/
def step (view : RelayView) (event : UsbEvent) : RelayView :=
  let view := { view with toRadioView := view.toRadioView.step event }
  match event with
  | .command (.setPaFilter filter) ok =>
    { view with paFilter := some (filter, ok) }
  | .command (.setAmpTx1 enabled) ok =>
    { view with amplifier := some (enabled, ok) }
  | .command (.transitionMute muted) ok =>
    { view with muted := some (muted, ok) }
  | .command (.setRx1FreqTw word) ok => { view with word := some (word, ok) }
  | .command (.setRx1Filter filter) ok =>
    { view with rxFilter := some (filter, ok) }
  | .tuned _ | .opened | .closed => { view with rxFilter := none }
  | _ => view

/-- What a whole trace says. -/
def after (trace : List UsbEvent) : RelayView :=
  Run.after step {} trace

/-- **Matched to the frequency**: the transmitter is prepared, the filter and
the word are those of the frequency, that many hertz below, the amplifier is
on, and all of it was acknowledged. -/
structure MatchedAt (view : RelayView)
    (frequencyHz filter offsetHz word : ℕ) : Prop where
  prepared : view.prepared = true
  frequency : view.frequencyHz = some frequencyHz
  selected : paFilterForFrequency frequencyHz = some filter
  paFilter : view.paFilter = some (filter, true)
  amplifier : view.amplifier = some (true, true)
  offset : offsetHz ∈ [0, UsbRx.tuneToneHz, UsbRx.txAmIfHz]
  tuned : usbTuneFrequencyToTuningWord frequencyHz offsetHz = some word
  word : view.word = some (word, true)

/-- Matched to some frequency. -/
def Matched (view : RelayView) : Prop :=
  ∃ frequencyHz filter offsetHz word,
    view.MatchedAt frequencyHz filter offsetHz word

/-- The command that keys is not the last one about the key. One that unkeys
counts as it is attempted: the receiver does not wait for the radio to
acknowledge it, and no trace tells whether it did. -/
def Cold (view : RelayView) : Prop :=
  view.key ≠ some true

/-- A PA filter that may be selected: that of the frequency, or none. -/
def Selects (view : RelayView) (filter : ℕ) : Prop :=
  filter = 0 ∨ ∃ frequencyHz, view.frequencyHz = some frequencyHz
    ∧ paFilterForFrequency frequencyHz = some filter

/-- **What may come now.** The key comes down on relays that are matched, with
the transition muted. From there to the attempt to unkey there is nothing but
mutes, the samples and the key itself. -/
def Permits (view : RelayView) : UsbEvent → Prop
  | .command (.setTr true) _ =>
    view.Cold ∧ view.Matched ∧ view.muted = some (true, true)
  | .command (.setTr false) _ | .command (.transitionMute _) _ => True
  | .command (.setPaFilter filter) _ => view.Cold ∧ view.Selects filter
  | .service .. | .streamStop => True
  | _ => view.Cold

variable {view : RelayView} {event : UsbEvent} {events : List UsbEvent}

/-! ## The view of the key -/

theorem toRadioView_step (view : RelayView) (event : UsbEvent) :
    (view.step event).toRadioView = view.toRadioView.step event := by
  cases event with
  | command sent _ => cases sent <;> rfl
  | _ => rfl

/-- What a trace says of the key is what it says without the relays. -/
theorem toRadioView_run (view : RelayView) (events : List UsbEvent) :
    (Run.after step view events).toRadioView
      = events.foldl RadioView.step view.toRadioView := by
  induction events generalizing view with
  | nil => rfl
  | cons event events ih =>
    rw [Run.after_cons, ih, toRadioView_step]
    rfl

@[simp] theorem toRadioView_after (trace : List UsbEvent) :
    (after trace).toRadioView = RadioView.after trace :=
  toRadioView_run {} trace

theorem after_append (trace events : List UsbEvent) :
    after (trace ++ events) = Run.after step (after trace) events :=
  Run.after_append ..

/-! ## Filters -/

/-- Such events leave both filters as they are. -/
theorem filters_run (view : RelayView) (h : ∀ e ∈ events, e.Unfiltered) :
    (Run.after step view events).paFilter = view.paFilter
      ∧ (Run.after step view events).rxFilter = view.rxFilter := by
  induction events generalizing view with
  | nil => exact ⟨rfl, rfl⟩
  | cons event events ih =>
    have hrest := ih (view.step event)
      fun e he => h e (List.mem_cons_of_mem _ he)
    have hstep : (view.step event).paFilter = view.paFilter
        ∧ (view.step event).rxFilter = view.rxFilter := by
      have hevent := h event (List.mem_cons_self ..)
      cases event with
      | command sent ok =>
        cases sent with
        | setPaFilter | setRx1Filter => exact hevent.elim
        | _ => exact ⟨rfl, rfl⟩
      | tuned | opened | closed => exact hevent.elim
      | _ => exact ⟨rfl, rfl⟩
    exact ⟨hrest.1.trans hstep.1, hrest.2.trans hstep.2⟩

/-! ## While it is cold -/

/-- An event that may come while the view is cold: it does not key, and
selects the filter of the frequency or none. -/
def Idles (view : RelayView) (event : UsbEvent) : Prop :=
  event.NotKeying ∧ ∀ filter ok, event = .command (.setPaFilter filter) ok →
    view.Selects filter

theorem Idles.permits (h : view.Idles event) (hcold : view.Cold) :
    view.Permits event := by
  cases event with
  | command sent ok =>
    cases sent with
    | setTr transmit =>
      cases transmit with
      | true => exact absurd rfl h.1
      | false => exact trivial
    | transitionMute _ => exact trivial
    | setPaFilter filter => exact ⟨hcold, h.2 filter ok rfl⟩
    | _ => exact hcold
  | service | streamStop => exact trivial
  | _ => exact hcold

/-- What does not key leaves the view cold. -/
theorem Cold.step (hcold : view.Cold) (h : event.NotKeying) :
    (view.step event).Cold := by
  intro hkey
  rw [toRadioView_step] at hkey
  exact hcold (RadioView.key_step view.toRadioView h hkey).1

/-- An event of a call leaves the frequency. -/
theorem frequencyHz_step (view : RelayView) (h : event.Inner) :
    (view.step event).frequencyHz = view.frequencyHz := by
  rw [toRadioView_step]
  exact (RadioView.step_inner view.toRadioView h).2

/-- **Cold events are permitted**: they come in any order. -/
theorem each_permits (hcold : view.Cold) (hinner : ∀ e ∈ events, e.Inner)
    (h : ∀ e ∈ events, view.Idles e) :
    Run.Each step Permits view events := by
  induction events generalizing view with
  | nil => exact trivial
  | cons event events ih =>
    have hidle := h event (List.mem_cons_self ..)
    have hfrequency := frequencyHz_step view
      (hinner event (List.mem_cons_self ..))
    refine ⟨hidle.permits hcold, ih (hcold.step hidle.1)
      (fun e he => hinner e (List.mem_cons_of_mem _ he)) fun e he => ?_⟩
    obtain ⟨hkey, hselects⟩ := h e (List.mem_cons_of_mem _ he)
    refine ⟨hkey, fun filter ok hfilter => ?_⟩
    unfold Selects
    rw [hfrequency]
    exact hselects filter ok hfilter

/-! ## While it is keyed -/

/-- An event of a cleanup that is no command changes nothing and may always
come. -/
theorem permits_of_closing (view : RelayView) (hclosing : event.Closing)
    (hcommand : event.command? = none) :
    view.Permits event ∧ view.step event = view := by
  cases event with
  | service | streamStop => exact ⟨trivial, rfl⟩
  | streamStart started => exact absurd rfl (hclosing.2 started)
  | command sent ok => exact nomatch hcommand
  | _ => exact hclosing.1.elim

/-- Events of a cleanup, up to the first command. -/
theorem each_permits_append {quiet rest : List UsbEvent}
    (hclosing : ∀ e ∈ quiet, e.Closing)
    (hquiet : ∀ e ∈ quiet, e.command? = none)
    (h : Run.Each step Permits view rest) :
    Run.Each step Permits view (quiet ++ rest) := by
  induction quiet with
  | nil => exact h
  | cons event quiet ih =>
    obtain ⟨hpermits, hstep⟩ := permits_of_closing view
      (hclosing event (List.mem_cons_self ..))
      (hquiet event (List.mem_cons_self ..))
    refine ⟨hpermits, ?_⟩
    rw [hstep]
    exact ih (fun e he => hclosing e (List.mem_cons_of_mem _ he))
      fun e he => hquiet e (List.mem_cons_of_mem _ he)

/-- The commands of a cleanup that may come while the view is cold. -/
def IdleCommand (view : RelayView) (command : RadioCommand) : Prop :=
  command ≠ .setTr true ∧ ∀ filter, command = .setPaFilter filter →
    view.Selects filter

theorem idles_of_commands {commands : List RadioCommand}
    (hcommands : events.filterMap UsbEvent.command? = commands)
    (h : ∀ command ∈ commands, view.IdleCommand command) :
    ∀ e ∈ events, view.Idles e := by
  intro e he
  refine ⟨fun hkey => ?_, ?_⟩
  · exact (h _ (hcommands ▸ List.mem_filterMap.mpr ⟨e, he, hkey⟩)).1 rfl
  · rintro filter ok rfl
    exact (h _ (hcommands ▸ List.mem_filterMap.mpr ⟨_, he, rfl⟩)).2 filter rfl

/-- **A cleanup that unkeys first** is permitted on any view. -/
theorem each_permits_unkeying {later : List RadioCommand}
    (hclosing : ∀ e ∈ events, e.Closing)
    (hcommands : events.filterMap UsbEvent.command?
      = .transitionMute true :: .setTr false :: later)
    (h : ∀ command ∈ later, view.IdleCommand command) :
    Run.Each step Permits view events := by
  obtain ⟨quiet, mute, rest, rfl, hquiet, hmute, hrest⟩ :=
    List.filterMap_eq_cons_iff.mp hcommands
  obtain ⟨quiet', unkey, rest', rfl, hquiet', hunkey, hrest'⟩ :=
    List.filterMap_eq_cons_iff.mp hrest
  simp only [List.mem_append, List.mem_cons, or_imp, forall_and,
    forall_eq] at hclosing
  obtain ⟨hc, hcmute, hc', hcunkey, hcrest⟩ := hclosing
  obtain ⟨ok, rfl⟩ := UsbEvent.of_command? hmute
  obtain ⟨ok', rfl⟩ := UsbEvent.of_command? hunkey
  refine each_permits_append hc hquiet ⟨trivial, ?_⟩
  refine each_permits_append hc' hquiet' ⟨trivial, ?_⟩
  -- from here on the view is cold, on the same frequency
  refine each_permits ?_ (fun e he => (hcrest e he).1)
    (idles_of_commands hrest' h)
  intro hkey
  simp [toRadioView_step, RadioView.step] at hkey

/-- **The key stays matched**: what may come while the key is down leaves the
relays as they are. -/
theorem matched_step (hmatched : view.key = some true → view.Matched)
    (h : view.Permits event) (hkey : (view.step event).key = some true) :
    (view.step event).Matched := by
  cases event with
  | command sent ok =>
    cases sent with
    | setTr transmit =>
      cases transmit with
      | true =>
        obtain ⟨f, filter, offset, word, hm⟩ := h.2.1
        exact ⟨f, filter, offset, word, ⟨hm.prepared, hm.frequency,
          hm.selected, hm.paFilter, hm.amplifier, hm.offset, hm.tuned,
          hm.word⟩⟩
      | false => simp [toRadioView_step, RadioView.step] at hkey
    | transitionMute muted =>
      obtain ⟨f, filter, offset, word, hm⟩ := hmatched hkey
      exact ⟨f, filter, offset, word, ⟨hm.prepared, hm.frequency,
        hm.selected, hm.paFilter, hm.amplifier, hm.offset, hm.tuned,
        hm.word⟩⟩
    | setPaFilter => exact absurd hkey h.1
    | _ => exact absurd hkey h
  | service | streamStop => exact hmatched hkey
  | _ => exact absurd hkey h

/-- At every moment of a trace of permitted events, a key that is down is
matched. -/
theorem matched_of_each (h : Run.Each step Permits {} events)
    {before rest : List UsbEvent} (hsplit : events = before ++ rest)
    (hkey : (after before).key = some true) : (after before).Matched := by
  have halways : Run.Always step
      (fun view => view.key = some true → view.Matched) {} events :=
    Run.always_of_each (fun _ _ hm hp hk => matched_step hm hp hk)
      (fun hkey => absurd hkey (by decide)) h
  rw [hsplit] at halways
  exact halways.before hkey

end RelayView

namespace UsbRx

variable {r r' r₁ r₂ r₃ : UsbRx}

/-! ## Calls -/

/-- What the trace of a receiver says of the relays. -/
def relays (r : UsbRx) : RelayView :=
  RelayView.after r.trace

/-- Every event of a call was permitted when it came. -/
def Permitted (r r' : UsbRx) : Prop :=
  ∃ es, r'.trace = r.trace ++ es
    ∧ Run.Each RelayView.step RelayView.Permits r.relays es

namespace Permitted

theorem refl (r : UsbRx) : r.Permitted r := ⟨[], by simp, trivial⟩

theorem trans (h : r₁.Permitted r₂) (h' : r₂.Permitted r₃) :
    r₁.Permitted r₃ := by
  obtain ⟨es, he, heach⟩ := h
  obtain ⟨es', he', heach'⟩ := h'
  refine ⟨es ++ es', by rw [he', he, List.append_assoc],
    Run.each_append.mpr ⟨heach, ?_⟩⟩
  rw [relays, he, RelayView.after_append] at heach'
  exact heach'

theorem of_trace (h : r'.trace = r.trace) : r.Permitted r' :=
  ⟨[], by simp [h], trivial⟩

end Permitted

/-- What a longer trace says follows from what it said before. -/
theorem relays_of_trace {es : List UsbEvent}
    (h : r'.trace = r.trace ++ es) :
    r'.relays = Run.after RelayView.step r.relays es := by
  rw [relays, h, RelayView.after_append]
  rfl

@[simp] theorem key_relays (r : UsbRx) :
    r.relays.key = (RadioView.after r.trace).key := by
  rw [relays, RelayView.toRadioView_after]

@[simp] theorem frequencyHz_relays (r : UsbRx) :
    r.relays.frequencyHz = (RadioView.after r.trace).frequencyHz := by
  rw [relays, RelayView.toRadioView_after]

@[simp] theorem prepared_relays (r : UsbRx) :
    r.relays.prepared = (RadioView.after r.trace).prepared := by
  rw [relays, RelayView.toRadioView_after]

/-- A receiver that knows of no key finds the relays cold. -/
theorem Tracked.cold (h : r.Tracked) (hno : ¬ r.KeyKnown) :
    r.relays.Cold := by
  intro hkey
  rw [key_relays] at hkey
  exact hno (Or.inr (Or.inr (h.key hkey).1))

theorem Sound.cold (h : r.Sound) (hidle : r.Idle) : r.relays.Cold :=
  h.toTracked.cold (not_keyKnown_of_idle hidle)

/-- The filter a cleanup selects is that of the frequency, or none. -/
theorem selects_cleanupPaFilter (preserve : Bool) (h : r.Tracked) :
    r.relays.Selects (cleanupPaFilter preserve r.frequencyHz) := by
  unfold cleanupPaFilter
  cases hf : r.frequencyHz with
  | none => exact Or.inl rfl
  | some frequency =>
    cases preserve with
    | false => exact Or.inl rfl
    | true =>
      refine Or.inr ⟨frequency.1, ?_, ?_⟩
      · rw [frequencyHz_relays, h.frequency, hf]
        rfl
      · simp [paFilterForFrequency, frequency.2]

/-- What the actions of a cleanup command, but for the key, may come while
the view is cold. -/
theorem idleCommand_cleanup (preserve : Bool) (h : r.Tracked)
    (actions : List TxCleanupAction) :
    ∀ command ∈ actions.flatMap (cleanupCommands preserve r.frequencyHz),
      r.relays.IdleCommand command := by
  intro command hmem
  obtain ⟨action, -, hmem⟩ := List.mem_flatMap.mp hmem
  cases action with
  | resetPaFilter =>
    rw [List.mem_singleton.mp hmem]
    refine ⟨by simp, fun filter hfilter => ?_⟩
    obtain rfl := RadioCommand.setPaFilter.inj hfilter
    exact selects_cleanupPaFilter preserve h
  | restoreRxFrequency =>
    obtain ⟨frequency, -, rfl⟩ :=
      Option.map_eq_some_iff.mp (Option.mem_toList.mp hmem)
    simp [RelayView.IdleCommand, Frequency.rxTuneRequest, buildRxTuneRequest]
  | stopStream => simp [cleanupCommands] at hmem
  | _ =>
    rw [List.mem_singleton.mp hmem]
    simp [RelayView.IdleCommand]

/-- **A cleanup without the key** is permitted on a cold view. -/
theorem CleanedBy.permitted {preserve : Bool} {as : List TxCleanupAction}
    (h : CleanedBy preserve as r r') (ht : r.Tracked)
    (hcold : r.relays.Cold) : r.Permitted r' := by
  obtain ⟨es, he, hcommands, -, hclosing⟩ := h.events
  exact ⟨es, he, RelayView.each_permits hcold (fun e hmem => (hclosing e hmem).1)
    (RelayView.idles_of_commands hcommands
      (idleCommand_cleanup preserve ht as))⟩

/-- **A carrier stop** is permitted whatever was keyed: a key that may be
down is released before anything is switched. -/
theorem Stopped.permitted (h : r.Stopped r') (ht : r.Tracked) :
    r.Permitted r' := by
  obtain ⟨es, he, hcommands, -, hclosing, -⟩ := h.events
  by_cases hknown : r.KeyKnown
  · rw [plannedCommands_of_keyKnown hknown] at hcommands
    exact ⟨es, he, RelayView.each_permits_unkeying hclosing hcommands
      (idleCommand_cleanup _ ht _)⟩
  · exact ⟨es, he, RelayView.each_permits (ht.cold hknown)
      (fun e hmem => (hclosing e hmem).1)
      (RelayView.idles_of_commands hcommands (idleCommand_cleanup _ ht _))⟩

theorem permitted_tuneCarrierStop (ht : r.Tracked) :
    r.Permitted r.tuneCarrierStop.2 := by
  obtain ⟨-, he⟩ | ⟨-, -, he⟩ | h := tuneCarrierStop_cases r
  · rw [he]
    exact .refl r
  · rw [he]
    exact .refl r
  · exact h.permitted ht

/-- One event that a cold view permits. -/
theorem permitted_event {event : UsbEvent} (htrace : r'.trace = r.trace ++ [event])
    (h : r.relays.Permits event) : r.Permitted r' :=
  ⟨[event], htrace, h, trivial⟩

/-- The filter of a request is that of its frequency. -/
theorem paFilter_of_request {frequencyHz filter : ℕ} {request : RadioCommand}
    (h : paFilterRequestForFrequency frequencyHz = some (filter, request)) :
    paFilterForFrequency frequencyHz = some filter := by
  obtain ⟨filter', hfilter, h⟩ := Option.bind_eq_some_iff.mp h
  obtain ⟨request', -, h⟩ := Option.map_eq_some_iff.mp h
  rw [hfilter, (Prod.mk.inj h).1]

/-! ## What is known of the PA filter -/

/-- **What is known of the PA filter**: one that is known was commanded last,
and where the receive filter was acknowledged for the frequency, it is that of
the frequency. -/
structure Known (r : UsbRx) : Prop where
  sent : ∀ filter, r.paFilter = some filter →
    ∃ ok, r.relays.paFilter = some (filter, ok)
  fits : ∀ filter rxFilter frequency, r.paFilter = some filter →
    r.relays.rxFilter = some (rxFilter, true) →
    r.frequencyHz = some frequency →
    paFilterForFrequency frequency.1 = some filter

/-- Between operations, without preparation none is known. -/
structure Selected (r : UsbRx) : Prop extends r.Known where
  unprepared : r.transmitPrepared = false → r.paFilter = none

/-- Where no filter is known there is nothing to keep. -/
theorem selected_of_none (h : r.paFilter = none) : r.Selected where
  sent _ hf := absurd hf (by simp [h])
  fits _ _ _ hf := absurd hf (by simp [h])
  unprepared _ := h

/-- The receivers tell the same of the filters, and know no other. -/
structure SameFilters (r r' : UsbRx) : Prop where
  paFilter : r'.paFilter = r.paFilter
  sent : r'.relays.paFilter = r.relays.paFilter
  received : r'.relays.rxFilter = r.relays.rxFilter

theorem SameFilters.refl (r : UsbRx) : r.SameFilters r := ⟨rfl, rfl, rfl⟩

theorem SameFilters.trans (h : r₁.SameFilters r₂) (h' : r₂.SameFilters r₃) :
    r₁.SameFilters r₃ :=
  ⟨h'.paFilter.trans h.paFilter, h'.sent.trans h.sent,
    h'.received.trans h.received⟩

/-- Calls that only add events that are not about filters. -/
theorem Adds.sameFilters {events : List UsbEvent} (h : r.Adds events r')
    (hevents : ∀ e ∈ events, e.Unfiltered) : r.SameFilters r' := by
  have hview := RelayView.filters_run r.relays hevents
  rw [← relays_of_trace h.trace] at hview
  exact ⟨by rw [h.path], hview.1, hview.2⟩

/-- A command that selects no filter. -/
theorem sameFilters_send {command : RadioCommand} (r : UsbRx)
    (h : ∀ ok, (UsbEvent.command command ok).Unfiltered) :
    r.SameFilters (r.sendRxCommand command).2 :=
  (adds_sendRxCommand command r).sameFilters (by simpa using h _)

/-- Of the actions of a cleanup only one is about a filter. -/
theorem sameFilters_action (preserve : Bool) {action : TxCleanupAction}
    (h : action ≠ .resetPaFilter) (r : UsbRx) :
    r.SameFilters (executeUsbCleanupAction preserve action r).2 := by
  cases action with
  | resetPaFilter => exact absurd rfl h
  | restoreRxFrequency =>
    unfold executeUsbCleanupAction
    cases hf : r.frequencyHz with
    | none => exact .refl r
    | some frequency =>
      have hsend : r.SameFilters
          (r.sendRxCommand frequency.rxTuneRequest).2 :=
        sameFilters_send r (by
          simp [Frequency.rxTuneRequest, buildRxTuneRequest,
            UsbEvent.Unfiltered])
      dsimp only
      split
      · exact hsend.trans ((adds_serviceTxStream 200 _).sameFilters (by
          simp [UsbEvent.Unfiltered]))
      · exact hsend
  | stopStream =>
    exact (adds_stopTxStream r).sameFilters (by simp [UsbEvent.Unfiltered])
  | _ => exact sameFilters_send r (by simp [UsbEvent.Unfiltered])

/-- A cleanup that resets the PA filter: what it knows, and what it sent. -/
structure Reset (preserve : Bool) (r r' : UsbRx) : Prop where
  paFilter : r'.paFilter
    = if preserve then some (cleanupPaFilter preserve r.frequencyHz) else none
  sent : ∃ ok, r'.relays.paFilter
    = some (cleanupPaFilter preserve r.frequencyHz, ok)
  received : r'.relays.rxFilter = r.relays.rxFilter

theorem reset_action (preserve : Bool) (r : UsbRx) :
    Reset preserve r (executeUsbCleanupAction preserve .resetPaFilter r).2 := by
  have h := adds_sendRxCommand
    (.setPaFilter (cleanupPaFilter preserve r.frequencyHz)) r
  have hview := relays_of_trace h.trace
  exact ⟨rfl, ⟨_, congrArg RelayView.paFilter hview⟩,
    (congrArg RelayView.rxFilter hview :)⟩

/-- A run of actions resets the filter where it is among them, and leaves the
filters alone where it is not. -/
theorem filters_cleanupRun (preserve : Bool) (actions : List TxCleanupAction)
    (r : UsbRx) :
    (.resetPaFilter ∉ actions → r.SameFilters
        (cleanupRun (executeUsbCleanupAction preserve) actions r).2)
      ∧ (.resetPaFilter ∈ actions → Reset preserve r
        (cleanupRun (executeUsbCleanupAction preserve) actions r).2) := by
  induction actions generalizing r with
  | nil => exact ⟨fun _ => .refl r, nofun⟩
  | cons action rest ih =>
    have hfrequency := (cleanedBy_action preserve action r).frequencyHz
    obtain ⟨hsame, hreset⟩ := ih (executeUsbCleanupAction preserve action r).2
    by_cases haction : action = .resetPaFilter
    · refine ⟨fun hno => absurd (haction ▸ List.mem_cons_self ..) hno,
        fun _ => ?_⟩
      subst haction
      by_cases hrest : .resetPaFilter ∈ rest
      · obtain ⟨hpa, hsent, hreceived⟩ := hreset hrest
        rw [hfrequency] at hpa hsent
        exact ⟨hpa, hsent, hreceived.trans (reset_action preserve r).received⟩
      · obtain ⟨hpa, hsent, hreceived⟩ := hsame hrest
        have h := reset_action preserve r
        exact ⟨hpa.trans h.paFilter, h.sent.imp fun _ => hsent.trans,
          hreceived.trans h.received⟩
    · have hfirst := sameFilters_action preserve haction r
      refine ⟨fun hno => hfirst.trans
        (hsame fun hmem => hno (List.mem_cons_of_mem _ hmem)), fun hmem => ?_⟩
      obtain ⟨hpa, hsent, hreceived⟩ := hreset
        ((List.mem_cons.mp hmem).resolve_left (Ne.symm haction))
      rw [hfrequency] at hpa hsent
      exact ⟨hpa, hsent, hreceived.trans hfirst.received⟩

/-- The filter reset is planned where a filter is known. -/
theorem reset_planned_iff :
    .resetPaFilter ∈ txCleanupOrder.filter (txCleanupPlan r.txPartialState)
      ↔ r.paFilter.isSome = true := by
  rw [List.mem_filter]
  exact and_iff_right (mem_txCleanupOrder _)

/-- What a reset knows is so, whatever was known before. -/
theorem Reset.selected (h : Reset r.transmitPrepared r r')
    (hprepared : r'.transmitPrepared = r.transmitPrepared)
    (hfrequency : r'.frequencyHz = r.frequencyHz) : r'.Selected := by
  obtain ⟨hpa, hsent, -⟩ := h
  refine ⟨⟨fun filter hf => ?_,
    fun filter rxFilter frequency hf _ hz => ?_⟩, fun hno => ?_⟩
  · rw [hpa] at hf
    split at hf
    · rw [← Option.some.inj hf]
      exact hsent
    · exact nomatch hf
  · rw [hfrequency] at hz
    rw [hpa] at hf
    split at hf
    · rename_i hpreserve
      rw [hpreserve, hz] at hf
      rw [← Option.some.inj hf]
      simp [cleanupPaFilter, paFilterForFrequency, frequency.2]
    · exact nomatch hf
  · rw [hpa, ← hprepared, hno]
    rfl

/-- What is known stays known where nothing about the filters changed. -/
theorem Known.same (h : r.Known) (hsame : r.SameFilters r')
    (hfrequency : r'.frequencyHz = r.frequencyHz) : r'.Known := by
  refine ⟨?_, ?_⟩
  · rw [hsame.paFilter, hsame.sent]
    exact h.sent
  · rw [hsame.paFilter, hsame.received, hfrequency]
    exact h.fits

theorem Selected.same (h : r.Selected) (hsame : r.SameFilters r')
    (hprepared : r'.transmitPrepared = r.transmitPrepared)
    (hfrequency : r'.frequencyHz = r.frequencyHz) : r'.Selected := by
  refine ⟨h.toKnown.same hsame hfrequency, ?_⟩
  rw [hsame.paFilter, hprepared]
  exact h.unprepared

/-- Calls that only add events that are not about filters keep what is
known. -/
theorem Selected.adds {events : List UsbEvent} (h : r.Selected)
    (hadds : r.Adds events r') (hevents : ∀ e ∈ events, e.Unfiltered) :
    r'.Selected :=
  h.same (hadds.sameFilters hevents) (by rw [hadds.path]) (by rw [hadds.path])

/-- **A carrier stop** that cleans up knows what it selected, whatever the
start before it left. -/
theorem selected_tuneCarrierStop (r : UsbRx) :
    r.tuneCarrierStop.2 = r ∨ r.tuneCarrierStop.2.Selected := by
  unfold tuneCarrierStop
  split
  · exact Or.inl rfl
  split
  · exact Or.inl rfl
  refine Or.inr ?_
  rw [txExecuteCleanup_eq]
  dsimp only
  have hclean := cleanedBy_run r.transmitPrepared
    (txCleanupOrder.filter (txCleanupPlan r.txPartialState)) r
  obtain ⟨hsame, hreset⟩ := filters_cleanupRun r.transmitPrepared
    (txCleanupOrder.filter (txCleanupPlan r.txPartialState)) r
  rw [reset_planned_iff] at hsame hreset
  revert hclean hsame hreset
  generalize (cleanupRun (executeUsbCleanupAction r.transmitPrepared)
    (txCleanupOrder.filter (txCleanupPlan r.txPartialState)) r).2 = cleaned
  intro hclean hsame hreset
  have hcleaned : cleaned.Selected := by
    by_cases hpa : r.paFilter.isSome = true
    · exact (hreset hpa).selected hclean.transmitPrepared hclean.frequencyHz
    · refine selected_of_none ((hsame hpa).paFilter.trans ?_)
      simpa using hpa
  have hunkeyed : cleaned.unkeyed.Selected :=
    hcleaned.same ⟨rfl, rfl, rfl⟩ rfl rfl
  split
  · exact hunkeyed.adds (adds_stopTxStream _) (by simp [UsbEvent.Unfiltered])
  · exact hunkeyed

end UsbRx
