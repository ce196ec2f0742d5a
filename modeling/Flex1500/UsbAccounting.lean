import Flex1500.UsbBooks

/-!
# The account of the transfers

Every call of `usb_rx.c` settles: where libusb calls back what is
outstanding and nothing else, a call frees an outstanding transfer, cancels a
missing one or loses count only after a drain loop was left by an error
while a transfer it waits for was outstanding. So it is of whole runs.

Two facts about what is held carry this. What is held belongs to something
open, so that a receiver without a context has nothing to wait for. And
between two calls the transmit stream is held only while the transmitter is
active, so that a start finds none in its way.
-/

open RequestGroups (members group)
open RequestTable (Keeps Drains Settles Booked)

namespace UsbRx

variable {r r' s : UsbRx} {es fs : List TransferEvent}

/-! ## What is held -/

/-- **What is held belongs to something open**: nothing is held without a
context, a handle is one of a context, and a stream goes through a handle. -/
structure Housed (r : UsbRx) : Prop where
  context : r.context = false → ∀ t, r.held t = false
  handle : r.handle = true → r.context = true
  stream : ∀ t, group t = .transmit → r.held t = true → r.handle = true

/-- No transfer of a stream is held. -/
def Streamless (r : UsbRx) : Prop :=
  ∀ t, group t = .transmit → r.held t = false

/-- What a call within the receiver leaves as it is: the context, the handle,
and without a handle what is held. -/
structure Stays (r r' : UsbRx) : Prop where
  context : r'.context = r.context
  handle : r'.handle = r.handle
  held : r.handle = false → ∀ t, r'.held t = true → r.held t = true

namespace Stays

theorem refl (r : UsbRx) : r.Stays r := ⟨rfl, rfl, fun _ _ => id⟩

theorem trans (h : r.Stays r') (h' : r'.Stays s) : r.Stays s :=
  ⟨h'.context.trans h.context, h'.handle.trans h.handle, fun hno t ht =>
    h.held hno t (h'.held (h.handle.trans hno) t ht)⟩

end Stays

theorem Housed.stays (h : r.Housed) (hs : r.Stays r') : r'.Housed where
  context hcontext t := by
    have hopen : r.context = false := hs.context ▸ hcontext
    have hno : r.handle = false :=
      Bool.eq_false_iff.mpr fun hh => by simp [h.handle hh] at hopen
    exact Bool.eq_false_iff.mpr fun ht => Bool.false_ne_true
      ((h.context hopen t).symm.trans (hs.held hno t ht))
  handle hh := hs.context.trans (h.handle (hs.handle ▸ hh))
  stream t ht hheld := by
    by_contra hh
    rw [hs.handle, Bool.not_eq_true] at hh
    exact Bool.false_ne_true
      (hh.symm.trans (h.stream t ht (hs.held hh t hheld)))

/-- **A stretch of a call**: it settles, where what is held belongs to
something open, and leaves that so. -/
def Accounts (r : UsbRx) (es : List TransferEvent) (r' : UsbRx) : Prop :=
  r.Housed → Settles r.transferTable es r'.transferTable ∧ r.Stays r'

theorem Accounts.append (h : r.Accounts es r') (h' : r'.Accounts fs s) :
    r.Accounts (es ++ fs) s := by
  intro hr
  obtain ⟨hsettles, hstays⟩ := h hr
  obtain ⟨hsettles', hstays'⟩ := h' (hr.stays hstays)
  exact ⟨hsettles.append hsettles', hstays.trans hstays'⟩

theorem Handles.accounts (h : r.Handles es r') : r.Accounts es r' :=
  fun _ => ⟨h.keeps.settles, h.context, h.handle, fun _ t ht => by
    rwa [h.held] at ht⟩

theorem Same.accounts (h : r.Same r') : r.Accounts [] r' :=
  h.handles.accounts

theorem accounts_nil (r : UsbRx) : r.Accounts [] r := (Same.refl r).accounts

theorem Accounts.after (h : r.Accounts es r') (h' : r'.Same s) :
    r.Accounts es s :=
  List.append_nil es ▸ h.append h'.accounts

theorem Same.beforeAccount (h : r.Same r') (h' : r'.Accounts es s) :
    r.Accounts es s :=
  h.accounts.append h'

theorem Same.streamless (h : r.Same r') (hr : r.Streamless) :
    r'.Streamless := fun t ht => by
  rw [show r'.held = r.held from congrArg RequestTable.held h.table]
  exact hr t ht

/-! ## Stopping a transmission -/

theorem accounts_releaseTuneStream (r : UsbRx) :
    r.Accounts r.releaseTuneStreamTransfers r.releaseTuneStream := by
  intro hr
  obtain ⟨hcontext, hhandle⟩ := context_releaseTuneStream r
  refine ⟨settles_releaseTuneStream hr.context, hcontext, hhandle,
    fun _ t ht => ?_⟩
  rw [held_releaseTuneStream, Bool.and_eq_true] at ht
  exact ht.1

theorem streamless_releaseTuneStream (r : UsbRx) :
    r.releaseTuneStream.Streamless := fun t ht => by
  rw [held_releaseTuneStream, decide_eq_false (not_not.mpr ht), Bool.and_false]

theorem accounts_executeUsbCleanupAction (preserve : Bool)
    (action : TxCleanupAction) (r : UsbRx) :
    r.Accounts (r.executeUsbCleanupActionTransfers action)
      (executeUsbCleanupAction preserve action r).2 := by
  cases action with
  | transitionMute => exact Same.accounts ⟨rfl, rfl, rfl⟩
  | unkey => exact Same.accounts ⟨rfl, rfl, rfl⟩
  | transitionUnmute => exact Same.accounts ⟨rfl, rfl, rfl⟩
  | resetPaFilter => exact Same.accounts ⟨rfl, rfl, rfl⟩
  | disableAmplifier => exact Same.accounts ⟨rfl, rfl, rfl⟩
  | stopStream => exact (accounts_releaseTuneStream r).after ⟨rfl, rfl, rfl⟩
  | restoreRxFrequency =>
    unfold executeUsbCleanupActionTransfers executeUsbCleanupAction
    cases r.frequencyHz with
    | none => exact accounts_nil r
    | some frequency =>
      have hsent : r.Same (r.sendRxCommand frequency.rxTuneRequest).2 :=
        ⟨rfl, rfl, rfl⟩
      dsimp only
      split
      · exact (hsent.before (handles_serviceTxStream 200 _)).accounts
      · exact hsent.accounts

/-- A run of a callback over a list of actions leaves what the actions leave
one after the other. -/
theorem cleanupRun_eq_after {κ : Type} (callback : TxCleanupAction → κ → Int × κ)
    (actions : List TxCleanupAction) (k : κ) :
    (cleanupRun callback actions k).2
      = Run.after (fun k action => (callback action k).2) k actions := by
  induction actions generalizing k with
  | nil => rfl
  | cons action rest ih => exact ih _

theorem accounts_txExecuteCleanup (plan : TxCleanupPlan) (preserve : Bool)
    (r : UsbRx) :
    r.Accounts (r.txExecuteCleanupTransfers plan preserve)
      (txExecuteCleanup plan (executeUsbCleanupAction preserve) r).2 := by
  rw [txExecuteCleanup_eq, cleanupRun_eq_after]
  exact Run.writes_relates (I := fun _ => True) Accounts accounts_nil
    Accounts.append
    (fun r action _ =>
      ⟨trivial, accounts_executeUsbCleanupAction preserve action r⟩)
    trivial _

/-- A receiver that has no stream by its own account holds none. -/
theorem streamless_of_txStreamPresent (h : r.txStreamPresent = false) :
    r.Streamless := by
  intro t ht
  cases t with
  | rx slot => cases ht
  | status => cases ht
  | tune slot =>
    rw [txStreamPresent, Bool.or_eq_false_iff, decide_eq_false_iff_not] at h
    exact Bool.eq_false_iff.mpr fun hheld => h.2 ⟨slot, Or.inl hheld⟩

/-- Without a handle there is no stream. -/
theorem Housed.streamless (h : r.Housed) (hno : (!r.handle) = true) :
    r.Streamless := fun t ht =>
  Bool.eq_false_iff.mpr fun hheld =>
    Bool.false_ne_true ((Bool.not_eq_true' _ ▸ hno).symm.trans
      (h.stream t ht hheld))

/-- **The carrier stop** settles. -/
theorem accounts_tuneCarrierStop (r : UsbRx) :
    r.Accounts r.tuneCarrierStopTransfers r.tuneCarrierStop.2 := by
  unfold tuneCarrierStopTransfers tuneCarrierStop
  dsimp only
  split
  · exact accounts_nil r
  split
  · exact accounts_nil r
  · have hcleaned := (accounts_txExecuteCleanup
      (txCleanupPlan r.txPartialState) r.transmitPrepared r).after
      (s := (txExecuteCleanup (txCleanupPlan r.txPartialState)
        (executeUsbCleanupAction r.transmitPrepared) r).2.unkeyed)
      ⟨rfl, rfl, rfl⟩
    refine hcleaned.append ?_
    split
    · exact (accounts_releaseTuneStream _).after ⟨rfl, rfl, rfl⟩
    · exact accounts_nil _

/-- **The carrier stop** leaves no stream. -/
theorem streamless_tuneCarrierStop (h : r.Housed) :
    r.tuneCarrierStop.2.Streamless := by
  unfold tuneCarrierStop
  dsimp only
  split
  · exact h.streamless ‹_›
  split
  · rename_i hidle
    simp only [Bool.and_eq_true, Bool.not_eq_true'] at hidle
    exact streamless_of_txStreamPresent hidle.1.1.2
  · split
    · exact Same.streamless ⟨rfl, rfl, rfl⟩ (streamless_releaseTuneStream _)
    · exact streamless_of_txStreamPresent (Bool.eq_false_iff.mpr ‹_›)

theorem accounts_unprepare (r : UsbRx) :
    r.Accounts r.unprepareTransfers r.unprepare.2 := by
  unfold unprepareTransfers unprepare
  dsimp only
  split
  · exact accounts_nil r
  · exact (accounts_txExecuteCleanup _ false r).after ⟨rfl, rfl, rfl⟩

/-- The two actions that take the preparation back only send a command. -/
theorem same_after_actions {actions : List TxCleanupAction}
    (h : ∀ action ∈ actions,
      action = .resetPaFilter ∨ action = .disableAmplifier) (r : UsbRx) :
    r.Same (Run.after
      (fun r action => (executeUsbCleanupAction false action r).2) r
      actions) := by
  induction actions generalizing r with
  | nil => exact .refl r
  | cons action rest ih =>
    have haction : r.Same (executeUsbCleanupAction false action r).2 := by
      obtain rfl | rfl := h action (List.mem_cons_self ..)
      · exact ⟨rfl, rfl, rfl⟩
      · exact ⟨rfl, rfl, rfl⟩
    exact haction.trans (ih (fun a ha => h a (List.mem_cons_of_mem _ ha)) _)

/-- Taking the preparation back has nothing to do with the transfers. -/
theorem same_unprepare (r : UsbRx) : r.Same r.unprepare.2 := by
  unfold unprepare
  dsimp only
  split
  · exact .refl r
  · rw [txExecuteCleanup_eq, cleanupRun_eq_after]
    refine (same_after_actions (fun action hmem => ?_) r).trans ⟨rfl, rfl, rfl⟩
    have hplan := (List.mem_filter.mp hmem).2
    simpa using (Bool.and_eq_true_iff.mp hplan).2

theorem accounts_disableTransmitPreparation (r : UsbRx) :
    r.Accounts r.disableTransmitPreparationTransfers
      r.disableTransmitPreparation.2 := by
  unfold disableTransmitPreparationTransfers disableTransmitPreparation
  dsimp only
  split
  · exact accounts_nil r
  split
  · exact (accounts_tuneCarrierStop r).append (accounts_unprepare _)
  · exact accounts_unprepare r

/-- Disabling the preparation leaves no stream. -/
theorem streamless_disableTransmitPreparation (h : r.Housed) :
    r.disableTransmitPreparation.2.Streamless := by
  unfold disableTransmitPreparation
  dsimp only
  split
  · exact h.streamless ‹_›
  refine (same_unprepare _).streamless ?_
  split
  · exact streamless_tuneCarrierStop h
  · rename_i hplan
    rw [Bool.or_eq_true, not_or] at hplan
    exact streamless_of_txStreamPresent (Bool.eq_false_iff.mpr hplan.2)

theorem accounts_stopTransmitting (r : UsbRx) :
    r.Accounts r.stopTransmittingTransfers r.stopTransmitting := by
  unfold stopTransmittingTransfers stopTransmitting
  dsimp only
  split
  · refine (accounts_tuneCarrierStop r).append ?_
    split
    · exact accounts_disableTransmitPreparation _
    · exact accounts_nil _
  · refine (accounts_nil r).append ?_
    split
    · exact accounts_disableTransmitPreparation _
    · exact accounts_nil _

/-- The first part of a stop leaves no stream. -/
theorem streamless_stopTransmitting (h : r.Housed) :
    r.stopTransmitting.Streamless := by
  unfold stopTransmitting
  dsimp only
  split
  · split
    · exact streamless_disableTransmitPreparation
        (h.stays (accounts_tuneCarrierStop r h).2)
    · exact streamless_tuneCarrierStop h
  · split
    · exact streamless_disableTransmitPreparation h
    · -- neither part had anything to stop
      rename_i hplan _
      rw [Bool.or_eq_true, not_or] at hplan
      exact streamless_of_txStreamPresent (Bool.eq_false_iff.mpr hplan.2)

theorem handles_drainedGracefully (r : UsbRx) :
    r.Handles (drainGracefullyTransfers r.beginGracefulStop.1.rounds
      r.beginGracefulStop.2) r.drainedGracefully := by
  have hasked : r.Same r.beginGracefulStop.2 := ⟨rfl, rfl, rfl⟩
  exact (hasked.before (handles_drainGracefully _ _)).after ⟨rfl, rfl, rfl⟩

theorem accounts_microphoneTxStopGraceful (r : UsbRx) :
    r.Accounts r.microphoneTxStopGracefulTransfers
      r.microphoneTxStopGraceful.2 := by
  rw [microphoneTxStopGraceful_eq]
  unfold microphoneTxStopGracefulTransfers
  dsimp only
  split
  · exact accounts_nil r
  · exact (handles_drainedGracefully r).accounts.append
      (accounts_tuneCarrierStop _)

/-- Nor does the graceful stop. -/
theorem streamless_microphoneTxStopGraceful (h : r.Housed) :
    r.microphoneTxStopGraceful.2.Streamless := by
  rw [microphoneTxStopGraceful_eq]
  split
  · exact h.streamless ‹_›
  · exact streamless_tuneCarrierStop
      (h.stays ((handles_drainedGracefully r).accounts h).2)

/-! ## Starting a transmission -/

/-- A slot of the stream gets its transfer. -/
theorem table_allocateTuneSlot (slot : Fin tuneTransferCount) (r : UsbRx) :
    (r.withTuneSlot slot ({ · with allocated := true })).transferTable
      = r.transferTable.allocated (.tune slot) :=
  RequestTable.ext (held_withTuneSlot slot ({ · with allocated := true }) r)
    ((marked_withTuneSlot slot ({ · with allocated := true }) r).trans
      (Function.update_eq_self _ _)) rfl

/-- With a handle a stream may be held. -/
theorem stays_of_handle (hh : r.handle = true)
    (hcontext : r'.context = r.context) (hhandle : r'.handle = r.handle) :
    r.Stays r' :=
  ⟨hcontext, hhandle, fun hno => absurd hh (by simp [hno])⟩

/-- The books recorded at any time. -/
theorem accounts_record (r : UsbRx) : r.Accounts [.record r.books] r :=
  fun _ => ⟨books_transferTable r ▸ (RequestTable.keeps_record _).settles,
    Stays.refl r⟩

/-- **The loop that submits a stream** settles, where none of its slots is
held yet. -/
theorem accounts_submitTuneSlots {slots : List (Fin tuneTransferCount)}
    (hnodup : slots.Nodup) (hnew : ∀ slot ∈ slots, r.held (.tune slot) = false)
    (hh : r.handle = true) :
    r.Accounts (submitTuneSlotsTransfers slots r)
      (submitTuneSlots slots r).2 := by
  induction slots generalizing r with
  | nil => exact accounts_nil r
  | cons slot rest ih =>
    obtain ⟨hslot, hrest⟩ := List.nodup_cons.mp hnodup
    have hfresh : r.transferTable.held (.tune slot) = false :=
      hnew slot (List.mem_cons_self ..)
    have htable := table_allocateTuneSlot slot r.ask.2
    have hstays : r.Stays
        (r.ask.2.withTuneSlot slot ({ · with allocated := true })) :=
      stays_of_handle hh rfl rfl
    unfold submitTuneSlotsTransfers submitTuneSlots
    dsimp only
    generalize r.ask.2.withTuneSlot slot ({ · with allocated := true })
      = allocated at htable hstays ⊢
    split
    · -- there is no memory for it
      have hrefused : r.Accounts [.allocate (.tune slot) false] allocated :=
        fun _ => ⟨htable ▸ ((RequestTable.keeps_refused hfresh).hold _).settles, hstays⟩
      exact hrefused.append (accounts_releaseTuneStream allocated)
    split
    · -- libusb refuses it
      have hrefused : r.Accounts
          [.allocate (.tune slot) true, .submit (.tune slot) false] allocated :=
        fun _ => ⟨htable ▸
          (RequestTable.keeps_allocate_submit hfresh false).settles, hstays⟩
      exact hrefused.append (accounts_releaseTuneStream allocated)
    · have hmarked := table_submitTuneSlot slot allocated
      have hh' : allocated.handle = true := hstays.handle.trans hh
      have hmark : allocated.Stays
          { allocated.withTuneSlot slot ({ · with submitted := true }) with
            activeTuneTransfers := allocated.activeTuneTransfers + 1 } :=
        stays_of_handle hh' rfl rfl
      have hstays' := hstays.trans hmark
      generalize { allocated.withTuneSlot slot ({ · with submitted := true })
        with activeTuneTransfers := allocated.activeTuneTransfers + 1 }
        = submitted at hmarked hmark hstays' ⊢
      rw [htable] at hmarked
      have hsubmitted : r.Accounts
          [.allocate (.tune slot) true, .submit (.tune slot) true] submitted :=
        fun _ => ⟨hmarked ▸
          (RequestTable.keeps_allocate_submit hfresh true).settles, hstays'⟩
      refine (hsubmitted.append (accounts_record submitted)).append
        (ih hrest (fun x hx => ?_) (hstays'.handle.trans hh))
      -- the slots left are not the one just allocated
      rw [show submitted.held = _ from congrArg RequestTable.held hmarked]
      have hne : x ≠ slot := ne_of_mem_of_not_mem hx hslot
      exact (Function.update_of_ne (fun he => hne (UsbTransfer.tune.inj he))
        ..).trans (hnew x (List.mem_cons_of_mem _ hx))

/-- **Starting a stream** settles, where none is held yet. -/
theorem accounts_startTxStream (microphone : Bool) (hh : r.handle = true)
    (hr : r.Streamless) :
    r.Accounts (r.startTxStreamTransfers microphone)
      (r.startTxStream microphone).2 := by
  have hsame : r.Same
      { r with
        tuneStreaming := true
        microphoneStreaming := microphone
        txAcceptingAudio := microphone } := ⟨rfl, rfl, rfl⟩
  exact (hsame.beforeAccount (accounts_submitTuneSlots
    (List.nodup_finRange _) (fun slot _ => hr (.tune slot) rfl) hh)).after
    ⟨rfl, rfl, rfl⟩

theorem same_selectPaFilter (filter : ℕ) (r : UsbRx) :
    r.Same (selectPaFilter filter r).2 := by
  unfold selectPaFilter
  dsimp only
  split <;> exact ⟨rfl, rfl, rfl⟩

theorem same_unmuteTransition (r : UsbRx) : r.Same (unmuteTransition r).2 := by
  unfold unmuteTransition
  dsimp only
  split <;> exact ⟨rfl, rfl, rfl⟩

/-- The steps between the stream and the key leave the transfers alone. -/
theorem same_keying {a : Attempt UsbRx}
    (ha : (∃ stage, a = passFaultStage stage) ∨ a = muteTransition
      ∨ (∃ word, a = tuneTransmitter word) ∨ a = keyTransmitter
      ∨ ∃ capture, a = captureMicrophone capture) (r : UsbRx) :
    r.Same (a r).2 := by
  obtain ⟨stage, rfl⟩ | rfl | ⟨word, rfl⟩ | rfl | ⟨capture, rfl⟩ := ha
  · exact .refl r
  · exact ⟨rfl, rfl, rfl⟩
  · exact ⟨rfl, rfl, rfl⟩
  · unfold keyTransmitter
    dsimp only
    split <;> exact ⟨rfl, rfl, rfl⟩
  · exact ⟨rfl, rfl, rfl⟩

/-- **The steps of a start** settle, however far they get. -/
theorem accounts_transferSteps (filter : ℕ) (microphone : Bool)
    {keying : List (Attempt UsbRx)}
    (hkeying : ∀ a ∈ keying, ∀ r : UsbRx, r.Same (a r).2)
    (hh : r.handle = true) (hr : r.Streamless) :
    r.Accounts (Attempt.writes (transferSteps filter microphone keying) r)
      (Attempt.all ((transferSteps filter microphone keying).map Prod.fst)
        r).2 := by
  have hfilter := same_selectPaFilter filter r
  have hamplifier : (selectPaFilter filter r).2.Same
      (attempt (sendRxCommand (.setAmpTx1 true)) (selectPaFilter filter r).2).2 :=
    ⟨rfl, rfl, rfl⟩
  have hprepared := hfilter.trans hamplifier
  refine Attempt.writes_cons Accounts accounts_nil Accounts.append
    hfilter.accounts ?_
  refine Attempt.writes_cons Accounts accounts_nil Accounts.append
    hamplifier.accounts ?_
  refine Attempt.writes_cons Accounts accounts_nil Accounts.append
    (accounts_startTxStream microphone (hprepared.handle.trans hh)
      (hprepared.streamless hr)) ?_
  refine Attempt.writes_relates Accounts accounts_nil Accounts.append ?_ _
  intro step hstep t
  simp only [List.mem_cons, List.mem_append, List.mem_map, List.not_mem_nil,
    or_false] at hstep
  obtain rfl | ⟨a, ha, rfl⟩ | rfl | rfl := hstep
  -- the stream is served before the keying and after it
  · exact (handles_serviceTxStream 250 t).accounts
  · exact (hkeying a ha t).accounts
  · exact (handles_serviceTxStream 200 t).accounts
  · exact (same_unmuteTransition t).accounts

/-- The last step makes the transmission active. -/
theorem tuneActive_of_ok {filter : ℕ} {microphone : Bool}
    {keying : List (Attempt UsbRx)}
    (hok : (Attempt.all ((transferSteps filter microphone keying).map Prod.fst)
      r).1 = true) :
    (Attempt.all ((transferSteps filter microphone keying).map Prod.fst)
      r).2.tuneActive = true := by
  have hsplit : (transferSteps filter microphone keying).map Prod.fst
      = (preparingSteps filter microphone ++ keying
          ++ [attempt (serviceTxStream 200)]) ++ [unmuteTransition] := by
    simp [transferSteps, preparingSteps, Function.comp_def]
  rw [hsplit] at hok ⊢
  refine Attempt.all_gives (fun t : UsbRx => t.tuneActive = true)
    (fun t ht => ?_) (fun b hb => absurd hb List.not_mem_nil) hok
  unfold unmuteTransition at ht ⊢
  dsimp only at ht ⊢
  rw [if_pos ht]

/-- Between two calls a stream is held only while the transmitter is
active. -/
def Rested (r : UsbRx) : Prop :=
  r.Streamless ∨ r.tuneActive = true

/-- **A start** settles, and a stream it leaves is that of an active
transmitter. -/
theorem accounts_startWith (filter : ℕ) (microphone : Bool)
    {keying : List (Attempt UsbRx)}
    (hkeying : ∀ a ∈ keying, ∀ r : UsbRx, r.Same (a r).2)
    (hh : r.handle = true) (hr : r.Streamless) (hhoused : r.Housed) :
    r.Accounts
        (r.startWithTransfers (transferSteps filter microphone keying))
        (r.startWith
          ((transferSteps filter microphone keying).map Prod.fst)).2
      ∧ (r.startWith
          ((transferSteps filter microphone keying).map Prod.fst)).2.Rested := by
  have hprepared : r.Same { r with tunePrepared := true } := ⟨rfl, rfl, rfl⟩
  have hsteps := hprepared.beforeAccount
    (accounts_transferSteps filter microphone hkeying
      (r := { r with tunePrepared := true }) hh hr)
  unfold startWithTransfers startWith
  dsimp only
  split
  · rename_i hok
    exact ⟨hsteps.append (accounts_nil _), Or.inr (tuneActive_of_ok hok)⟩
  · -- a start that fails stops the carrier
    exact ⟨hsteps.append (accounts_tuneCarrierStop _),
      Or.inl (streamless_tuneCarrierStop (hhoused.stays (hsteps hhoused).2))⟩

/-- What a call makes of the receiver between two calls. -/
structure Keeping (r : UsbRx) (es : List TransferEvent) (r' : UsbRx) :
    Prop where
  settles : Settles r.transferTable es r'.transferTable
  housed : r'.Housed
  rested : r'.Rested

theorem Accounts.keeping (h : r.Accounts es r') (hr : r.Housed)
    (hrested : r'.Rested) : r.Keeping es r' :=
  ⟨(h hr).1, hr.stays (h hr).2, hrested⟩

/-- A call that leaves the transfers and the transmission alone. -/
theorem Same.keeping (h : r.Same r') (hactive : r'.tuneActive = r.tuneActive)
    (hr : r.Housed) (hrested : r.Rested) : r.Keeping [] r' :=
  h.accounts.keeping hr (hrested.imp h.streamless hactive.trans)

/-- What passes the policy of a start has no stream. -/
theorem Checked.streamless {offsetHz filter word : ℕ}
    (h : r.Checked offsetHz filter word) (hrested : r.Rested) :
    r.Streamless :=
  hrested.resolve_right fun hactive =>
    Bool.false_ne_true (h.tuneActive.symm.trans hactive)

theorem keeping_tuneCarrierStart (hr : r.Housed) (hrested : r.Rested) :
    r.Keeping r.tuneCarrierStartTransfers r.tuneCarrierStart.2 := by
  unfold tuneCarrierStartTransfers tuneCarrierStart
  cases hpolicy : r.txPolicy tuneToneHz with
  | none => exact (Same.refl r).keeping rfl hr hrested
  | some needed =>
    obtain ⟨filter, word⟩ := needed
    have hchecked := checked_of_txPolicy hpolicy
    have hkeying : ∀ a ∈ [passFaultStage .afterStream, muteTransition,
        tuneTransmitter word, keyTransmitter, passFaultStage .afterKey],
        ∀ r : UsbRx, r.Same (a r).2 := by
      intro a ha
      refine same_keying ?_
      simp only [List.mem_cons, List.not_mem_nil, or_false] at ha
      obtain rfl | rfl | rfl | rfl | rfl := ha <;> simp
    obtain ⟨haccounts, hafter⟩ := accounts_startWith filter false hkeying
      hchecked.handle (hchecked.streamless hrested) hr
    exact haccounts.keeping hr hafter

theorem keeping_audioTxStart (audio : AudioTx) (bytes : ℕ) (hr : r.Housed)
    (hrested : r.Rested) :
    r.Keeping (r.audioTxStartTransfers audio bytes)
      (r.audioTxStart audio bytes).2 := by
  unfold audioTxStartTransfers audioTxStart
  cases hpolicy : r.audioTxPolicy audio with
  | none => exact (Same.refl r).keeping rfl hr hrested
  | some needed =>
    obtain ⟨⟨filter, word⟩, stream⟩ := needed
    have hchecked := checked_of_txPolicy (audioTxPolicy_eq_some hpolicy)
    have hqueue : r.Same
        { r with
          microphoneStream := (prebuffered audio.rawIq bytes stream).2 } :=
      ⟨rfl, rfl, rfl⟩
    dsimp only
    split
    · exact hqueue.keeping rfl hr hrested
    · have hkeying : ∀ a ∈ [muteTransition, tuneTransmitter word,
          keyTransmitter, captureMicrophone audio.capturePhysical],
          ∀ r : UsbRx, r.Same (a r).2 := by
        intro a ha
        refine same_keying ?_
        simp only [List.mem_cons, List.not_mem_nil, or_false] at ha
        obtain rfl | rfl | rfl | rfl := ha <;> simp
      have hhoused := hr.stays (hqueue.accounts hr).2
      obtain ⟨haccounts, hafter⟩ := accounts_startWith filter true hkeying
        (hqueue.handle.trans hchecked.handle)
        (hqueue.streamless (hchecked.streamless hrested)) hhoused
      exact (hqueue.beforeAccount haccounts).keeping hr hafter

/-! ## Closing and opening -/

/-- A receiver that holds nothing. -/
theorem housed_of_empty (h : ∀ t, r.held t = false)
    (hcontext : r.handle = true → r.context = true) : r.Housed :=
  ⟨fun _ => h, hcontext, fun t _ ht =>
    absurd ht (Bool.eq_false_iff.mp (h t))⟩

theorem held_closed (r : UsbRx) (t : UsbTransfer) : r.closed.held t = false := by
  cases t <;> rfl

theorem held_cancelled (r : UsbRx) : r.cancelled.held = r.held := by
  have h := held_drain .receive
    { r with stopping := true, running := false }.ask.1.rounds
    { r with stopping := true, running := false }.ask.2
  exact h.1

/-- Cancelling waits for what is received. -/
theorem drains_cancelled (hclosed : r.context = false → ∀ t, r.held t = false) :
    Drains .receive r.transferTable r.cancelledTransfers
      r.cancelled.transferTable := by
  have hdrain := drains_drain .receive
    { r with stopping := true, running := false }.ask.1.rounds
    (r := { r with stopping := true, running := false }.ask.2) hclosed
  have hcancel := keeps_cancels (members TransferKind.receive) r
  exact hcancel.drains hdrain

/-- What is freed at the end of a stop is what is held. -/
theorem mem_freedSlots {t : UsbTransfer} :
    t ∈ r.freedSlots ↔ r.held t = true := by
  rw [freedSlots, List.mem_filter, and_iff_right]
  cases t <;> simp

/-- **A stop** settles, and leaves nothing held. -/
theorem keeping_stop (hr : r.Housed) : r.Keeping r.stopTransfers r.stop := by
  have hstop := accounts_stopTransmitting r hr
  have hstopped := hr.stays hstop.2
  have hstreamless := streamless_stopTransmitting hr
  refine ⟨hstop.1.append ?_, housed_of_empty (held_closed _) Bool.noConfusion,
    Or.inl fun t _ => held_closed _ t⟩
  show Settles r.stopTransmitting.transferTable _
    r.stopTransmitting.cancelled.closed.transferTable
  generalize r.stopTransmitting = stopped at hstopped hstreamless ⊢
  -- the stream is gone, so what is still held is waited for
  have hreceive (t : UsbTransfer) (ht : stopped.cancelled.held t = true) :
      t ∈ members TransferKind.receive := by
    refine RequestGroups.mem_members.mpr ?_
    by_contra hgroup
    have htransmit : group t = .transmit := by
      cases hkind : group t with
      | receive => exact absurd hkind hgroup
      | transmit => rfl
    rw [held_cancelled, hstreamless t htransmit] at ht
    exact Bool.noConfusion ht
  rw [← books_transferTable]
  refine (drains_cancelled hstopped.context).release
    (fun t ht => hreceive t (mem_freedSlots.mp ht))
    (fun t _ hheld => mem_freedSlots.mpr hheld) fun v hv hunmarked => ?_
  -- closing leaves the mark of the status transfer; here it is not set
  have hnone (t : UsbTransfer) : stopped.cancelled.marked t = false := by
    by_contra hmarked
    rw [Bool.not_eq_false] at hmarked
    exact Bool.false_ne_true ((hunmarked t (hreceive t (hv.held t
      hmarked))).symm.trans hmarked)
  refine hv.empty hnone (fun t => ?_) fun kind => ?_
  · cases t with
    | rx slot => rfl
    | status => exact hnone .status
    | tune slot => rfl
  · cases kind <;> rfl

theorem Keeping.append (h : r.Keeping es r')
    (h' : r'.Keeping fs s) : r.Keeping (es ++ fs) s :=
  ⟨h.settles.append h'.settles, h'.housed, h'.rested⟩

/-- A receive slot gets its transfer. -/
theorem table_allocateSlot (slot : Fin rxTransferCount) (r : UsbRx) :
    (r.withSlot slot ({ · with allocated := true })).transferTable
      = r.transferTable.allocated (.rx slot) :=
  RequestTable.ext (held_withSlot slot ({ · with allocated := true }) r)
    ((marked_withSlot slot ({ · with allocated := true }) r).trans
      (Function.update_eq_self _ _)) rfl

/-- What an open receiver without a stream may come to hold: receive
transfers. -/
theorem keeping_of_open (hsettles : Settles r.transferTable es r'.transferTable)
    (hcontext : r'.context = true) (hstreamless : r'.Streamless) :
    r.Keeping es r' :=
  ⟨hsettles, ⟨fun hno => absurd hcontext (by simp [hno]), fun _ => hcontext,
    fun t ht hheld => absurd hheld (Bool.eq_false_iff.mp (hstreamless t ht))⟩,
    Or.inl hstreamless⟩

theorem Same.keepingOpen (h : r.Same r') (hcontext : r.context = true)
    (hstreamless : r.Streamless) : r.Keeping [] r' :=
  keeping_of_open h.handles.keeps.settles (h.context.trans hcontext)
    (h.streamless hstreamless)

theorem keeping_record (hcontext : r.context = true) (hr : r.Streamless) :
    r.Keeping [.record r.books] r :=
  keeping_of_open (books_transferTable r ▸
    (RequestTable.keeps_record _).settles) hcontext hr

/-- Holding one more receive transfer is holding no stream. -/
theorem streamless_of_held {t : UsbTransfer} (ht : group t = .receive)
    (hheld : r'.held = Function.update r.held t true) (hr : r.Streamless) :
    r'.Streamless := fun x hx => by
  have hne : x ≠ t := fun he => by
    rw [he, ht] at hx
    exact TransferKind.noConfusion hx
  rw [hheld, Function.update_of_ne hne]
  exact hr x hx

/-- **A receive transfer is submitted** once it is allocated, and the books
are recorded, whether libusb accepts it or not. -/
theorem keeping_submitted {t : UsbTransfer} {accepted : Bool}
    (ht : group t = .receive) (hfresh : r.held t = false) (hr : r.Streamless)
    (htable : s.transferTable
      = if accepted = true then (r.transferTable.allocated t).submitted t
        else r.transferTable.allocated t)
    (hcontext : s.context = true) :
    s.held = Function.update r.held t true
      ∧ s.Streamless
      ∧ r.Keeping ([.allocate t true, .submit t accepted] ++ [.record s.books])
          s := by
  have hheld : s.held = Function.update r.held t true := by
    refine (congrArg RequestTable.held htable).trans ?_
    split <;> rfl
  have hstreamless := streamless_of_held ht hheld hr
  have hsettles : Settles r.transferTable
      [.allocate t true, .submit t accepted] s.transferTable :=
    htable ▸ (RequestTable.keeps_allocate_submit hfresh accepted).settles
  exact ⟨hheld, hstreamless, (keeping_of_open hsettles hcontext
    hstreamless).append (keeping_record hcontext hstreamless)⟩

/-- **The loop that submits the receive transfers** settles, where none of
them is held yet. -/
theorem keeping_startSlots {slots : List (Fin rxTransferCount)}
    (hnodup : slots.Nodup) (hnew : ∀ slot ∈ slots, r.held (.rx slot) = false)
    (hcontext : r.context = true) (hr : r.Streamless) :
    r.Keeping (startSlotsTransfers slots r) (startSlots slots r).2 := by
  induction slots generalizing r with
  | nil => exact (Same.refl r).keepingOpen hcontext hr
  | cons slot rest ih =>
    obtain ⟨hslot, hrest⟩ := List.nodup_cons.mp hnodup
    have hfresh : r.transferTable.held (.rx slot) = false :=
      hnew slot (List.mem_cons_self ..)
    have htable := table_allocateSlot slot r.ask.2
    have hopen : (r.ask.2.withSlot slot
        ({ · with allocated := true })).context = true := hcontext
    unfold startSlotsTransfers startSlots
    dsimp only
    generalize r.ask.2.withSlot slot ({ · with allocated := true })
      = allocated at htable hopen ⊢
    have hstreamless : allocated.Streamless :=
      streamless_of_held rfl (congrArg RequestTable.held htable) hr
    split
    · -- there is no memory for it
      have hsettles : Settles r.transferTable [.allocate (.rx slot) false]
          allocated.transferTable :=
        htable ▸ ((RequestTable.keeps_refused hfresh).hold _).settles
      have hrefused : r.Keeping [.allocate (.rx slot) false] allocated :=
        keeping_of_open hsettles hopen hstreamless
      exact hrefused.append (keeping_stop hrefused.housed)
    have hmarked := table_submitSlot slot r.ask.1.result allocated
    have hopen' : (allocated.submitSlot slot r.ask.1.result).context = true := by
      unfold submitSlot
      split <;> exact hopen
    generalize allocated.submitSlot slot r.ask.1.result = submitted
      at hmarked hopen' ⊢
    rw [htable] at hmarked
    obtain ⟨hheld, hstreamless', hsubmitted⟩ := keeping_submitted rfl
      (hnew slot (List.mem_cons_self ..)) hr hmarked hopen'
    split
    · -- libusb refuses it, and the start stops
      exact hsubmitted.append (keeping_stop hsubmitted.housed)
    · refine hsubmitted.append (ih hrest (fun x hx => ?_) hopen' hstreamless')
      -- the slots left are not the one just allocated
      have hne : x ≠ slot := ne_of_mem_of_not_mem hx hslot
      rw [hheld, Function.update_of_ne fun he => hne (UsbTransfer.rx.inj he)]
      exact hnew x (List.mem_cons_of_mem _ hx)

/-- The status transfer is allocated. -/
theorem table_allocateStatus (r : UsbRx) :
    { r with statusAllocated := true }.transferTable
      = r.transferTable.allocated .status :=
  RequestTable.ext (funext fun t => by cases t <;> rfl) rfl rfl

/-- **The start once the interface is claimed** settles, where nothing is
held yet. -/
theorem keeping_startClaimed (hnew : ∀ t, r.held t = false)
    (hcontext : r.context = true) :
    r.Keeping r.startClaimedTransfers r.startClaimed.2 := by
  have hr : r.Streamless := fun t _ => hnew t
  unfold startClaimedTransfers startClaimed
  dsimp only
  split
  · have hsent := Same.keepingOpen
      (⟨rfl, rfl, rfl⟩ : r.Same (r.sendRxCommand .initializeRadio).2) hcontext hr
    exact hsent.append (keeping_stop hsent.housed)
  have hasked : r.Same
      { (r.sendRxCommand .initializeRadio).2 with running := true }.ask.2 :=
    ⟨rfl, rfl, rfl⟩
  generalize { (r.sendRxCommand .initializeRadio).2 with running := true }.ask
    = asked at hasked ⊢
  obtain ⟨answer, opened⟩ := asked
  have hopen := hasked.context.trans hcontext
  have hfresh : r.transferTable.held .status = false := hnew .status
  dsimp only
  split
  · have hrefused : r.Keeping [.allocate .status false] opened :=
      keeping_of_open (hasked.table ▸
        (RequestTable.keeps_refused hfresh).settles) hopen
        (hasked.streamless hr)
    exact hrefused.append (keeping_stop hrefused.housed)
  have hmarked := table_submitStatus answer.result
    { opened with statusAllocated := true }
  rw [table_allocateStatus, hasked.table] at hmarked
  have hopen' : (submitStatus answer.result
      { opened with statusAllocated := true }).context = true := by
    unfold submitStatus
    split <;> exact hopen
  generalize submitStatus answer.result { opened with statusAllocated := true }
    = submitted at hmarked hopen' ⊢
  obtain ⟨hheld, hstreamless, hsubmitted⟩ :=
    keeping_submitted rfl (hnew .status) hr hmarked hopen'
  split
  · exact hsubmitted.append (keeping_stop hsubmitted.housed)
  · refine hsubmitted.append (keeping_startSlots (List.nodup_finRange _)
      (fun slot _ => ?_) hopen' hstreamless)
    rw [hheld]
    exact hnew (.rx slot)

/-- **A start** settles. -/
theorem keeping_start (hr : r.Housed) (hrested : r.Rested) :
    r.Keeping r.startTransfers r.start.2 := by
  unfold startTransfers start
  dsimp only
  split
  · exact (Same.refl r).keeping rfl hr hrested
  rename_i hclosed
  rw [Bool.or_eq_true, not_or, Bool.not_eq_true, Bool.not_eq_true] at hclosed
  have hnew := hr.context hclosed.2
  have hasked : r.Same r.opening.ask.2 := ⟨rfl, rfl, rfl⟩
  split
  · have hlibrary := hasked.keeping rfl hr hrested
    exact hlibrary.append (keeping_stop hlibrary.housed)
  -- with a context it still holds nothing, whatever comes of the handle
  have hempty {t : UsbRx} (htable : t.transferTable = r.transferTable)
      (x : UsbTransfer) : t.held x = false :=
    (congrFun (congrArg RequestTable.held htable) x).trans (hnew x)
  have hopened {t : UsbRx} (htable : t.transferTable = r.transferTable)
      (hcontext : t.context = true) : r.Keeping [] t :=
    keeping_of_open (htable ▸ (RequestTable.keeps_nil _).settles) hcontext
      fun x _ => hempty htable x
  have hstops {t : UsbRx} (htable : t.transferTable = r.transferTable)
      (hcontext : t.context = true) : r.Keeping t.stopTransfers t.stop :=
    (hopened htable hcontext).append
      (keeping_stop (hopened htable hcontext).housed)
  have hclaims {t : UsbRx} (htable : t.transferTable = r.transferTable)
      (hcontext : t.context = true) :
      r.Keeping t.startClaimedTransfers t.startClaimed.2 :=
    (hopened htable hcontext).append
      (keeping_startClaimed (hempty htable) hcontext)
  split
  · exact hstops rfl rfl
  split
  · exact hstops rfl rfl
  split
  · exact hstops rfl rfl
  · exact hclaims rfl rfl

/-! ## Runs -/

/-- What has nothing to do with transfers or with transmitting. -/
def Untouched (r r' : UsbRx) : Prop :=
  r.Same r' ∧ r'.tuneActive = r.tuneActive

theorem Untouched.trans (h : r.Untouched r') (h' : r'.Untouched s) :
    r.Untouched s :=
  ⟨h.1.trans h'.1, h'.2.trans h.2⟩

theorem Untouched.keeping (h : r.Untouched r') (hr : r.Housed)
    (hrested : r.Rested) : r.Keeping [] r' :=
  h.1.keeping h.2 hr hrested

theorem untouched_refl (r : UsbRx) : r.Untouched r := ⟨.refl r, rfl⟩

theorem untouched_followPaFilter (paRequest : Option (ℕ × RadioCommand))
    (r : UsbRx) : r.Untouched (r.followPaFilter paRequest).2 := by
  unfold followPaFilter
  cases paRequest with
  | none => exact untouched_refl r
  | some request =>
    dsimp only
    split <;> exact ⟨⟨rfl, rfl, rfl⟩, rfl⟩

theorem untouched_tune (frequencyHz : ℕ) (r : UsbRx) :
    r.Untouched (r.tune frequencyHz).2 := by
  have hfollow {t : UsbRx} (ht : r.Untouched t) := ht.trans
    (untouched_followPaFilter (paFilterRequestForFrequency frequencyHz) t)
  unfold tune
  split_ifs
  · exact untouched_refl r
  · cases rxFilterRequestForFrequency frequencyHz with
    | none => exact untouched_refl r
    | some filter =>
      dsimp only
      split_ifs
      · exact untouched_refl r
      · exact ⟨⟨rfl, rfl, rfl⟩, rfl⟩
      · exact ⟨⟨rfl, rfl, rfl⟩, rfl⟩
      · exact hfollow ⟨⟨rfl, rfl, rfl⟩, rfl⟩
  · exact untouched_refl r

theorem untouched_setGain (gainDb : Int) (r : UsbRx) :
    r.Untouched (r.setGain gainDb).2 := by
  unfold setGain
  split
  · exact untouched_refl r
  · cases buildRxGainRequest ((gainDb + 10) / 10).toNat with
    | none => exact untouched_refl r
    | some request =>
      dsimp only
      split <;> exact ⟨⟨rfl, rfl, rfl⟩, rfl⟩

theorem untouched_enableAmplifier (r : UsbRx) :
    r.Untouched r.enableAmplifier.2 := by
  unfold enableAmplifier
  dsimp only
  split
  · unfold takeBackPreparation
    dsimp only
    split <;> exact ⟨⟨rfl, rfl, rfl⟩, rfl⟩
  · exact ⟨⟨rfl, rfl, rfl⟩, rfl⟩

theorem untouched_enableTransmitPreparation (r : UsbRx) :
    r.Untouched r.enableTransmitPreparation.2 := by
  have hantenna : r.Untouched (r.sendRxCommand .setTxAnt).2 :=
    ⟨⟨rfl, rfl, rfl⟩, rfl⟩
  have hamplifier {t : UsbRx} (ht : r.Untouched t) :=
    ht.trans (untouched_enableAmplifier t)
  unfold enableTransmitPreparation
  dsimp only
  split
  · exact untouched_refl r
  split
  · exact hantenna
  cases (r.sendRxCommand .setTxAnt).2.frequencyHz with
  | none => exact hamplifier hantenna
  | some frequency =>
    dsimp only
    cases paFilterRequestForFrequency frequency.1 with
    | none => exact hantenna
    | some filter =>
      dsimp only
      split
      · exact ⟨⟨rfl, rfl, rfl⟩, rfl⟩
      · exact hamplifier ⟨⟨rfl, rfl, rfl⟩, rfl⟩

theorem untouched_networkTxPush (bytes : ℕ) (rawIq : Bool) (r : UsbRx) :
    r.Untouched (r.networkTxPush bytes rawIq).2 := by
  unfold networkTxPush
  split <;> exact ⟨⟨rfl, rfl, rfl⟩, rfl⟩

/-- Pumping transmits no more and no less than before. -/
theorem tuneActive_pump (r : UsbRx) : r.pump.2.tuneActive = r.tuneActive := by
  have hpath := (undisturbed_handleEvents (r.ask.1.rounds.headD {}) r.ask.2).path
  have hactive : (r.ask.2.handleEvents
      (r.ask.1.rounds.headD {})).tuneActive = r.tuneActive :=
    congrArg (fun path => path.tuneActive) hpath
  unfold pump
  dsimp only
  split_ifs
  · rfl
  · exact hactive
  · exact hactive
  · exact hactive

/-- **Every call settles**, and keeps what is held where it belongs. -/
theorem keeping_apply (hr : r.Housed) (hrested : r.Rested) (op : UsbOp) :
    r.Keeping (r.applyTransfers op) (r.apply op).2 := by
  cases op with
  | start => exact keeping_start hr hrested
  | stop => exact keeping_stop hr
  | pump =>
    have h := handles_pump r
    refine h.accounts.keeping hr (hrested.imp (fun hs t ht => ?_)
      (tuneActive_pump r).trans)
    exact (congrFun h.held t).trans (hs t ht)
  | tune frequencyHz => exact (untouched_tune frequencyHz r).keeping hr hrested
  | setGain gainDb => exact (untouched_setGain gainDb r).keeping hr hrested
  | enableTransmitPreparation =>
    exact (untouched_enableTransmitPreparation r).keeping hr hrested
  | disableTransmitPreparation =>
    exact (accounts_disableTransmitPreparation r).keeping hr
      (Or.inl (streamless_disableTransmitPreparation hr))
  | tuneCarrierStart => exact keeping_tuneCarrierStart hr hrested
  | tuneCarrierStop =>
    exact (accounts_tuneCarrierStop r).keeping hr
      (Or.inl (streamless_tuneCarrierStop hr))
  | microphoneTxStart => exact keeping_audioTxStart _ _ hr hrested
  | networkTxStart => exact keeping_audioTxStart _ _ hr hrested
  | networkTxPush bytes rawIq =>
    exact (untouched_networkTxPush bytes rawIq r).keeping hr hrested
  | microphoneTxStop =>
    exact (accounts_tuneCarrierStop r).keeping hr
      (Or.inl (streamless_tuneCarrierStop hr))
  | microphoneTxStopGraceful =>
    exact (accounts_microphoneTxStopGraceful r).keeping hr
      (Or.inl (streamless_microphoneTxStopGraceful hr))
  | setTxFaultStage stage =>
    exact Untouched.keeping ⟨⟨rfl, rfl, rfl⟩, rfl⟩ hr hrested

/-- **Every run settles.** -/
theorem keeping_run (hr : r.Housed) (hrested : r.Rested) (ops : List UsbOp) :
    r.Keeping (r.runTransfers ops) (r.run ops) := by
  induction ops generalizing r with
  | nil => exact (untouched_refl r).keeping hr hrested
  | cons op ops ih =>
    have h := keeping_apply hr hrested op
    exact h.append (ih h.housed h.rested)

/-- A run with a lawful libusb: a callback is one of an outstanding
submission. -/
def LawfulRun (answers : ℕ → UsbAnswer) (ops : List UsbOp) : Prop :=
  Run.Each RequestView.step RequestView.Lawful {}
    ((create answers).runTransfers ops)

/-- A run with a sound account: nothing outstanding is freed, nothing missing
is cancelled, and the books agree whenever they are recorded and at the
end. -/
def SoundRun (answers : ℕ → UsbAnswer) (ops : List UsbOp) : Prop :=
  Run.Each RequestView.step RequestView.Sound {}
      ((create answers).runTransfers ops)
    ∧ ((create answers).run ops).books.Balanced

/-- A run in which event handling never fails within a drain loop while a
transfer the loop waits for is outstanding. -/
def DrainedRun (answers : ℕ → UsbAnswer) (ops : List UsbOp) : Prop :=
  Run.Each RequestView.step RequestView.Drained {}
    ((create answers).runTransfers ops)

instance (answers : ℕ → UsbAnswer) (ops : List UsbOp) :
    Decidable (LawfulRun answers ops) :=
  inferInstanceAs (Decidable (Run.Each ..))

instance (answers : ℕ → UsbAnswer) (ops : List UsbOp) :
    Decidable (SoundRun answers ops) :=
  inferInstanceAs (Decidable (Run.Each .. ∧ RequestBooks.Balanced _))

instance (answers : ℕ → UsbAnswer) (ops : List UsbOp) :
    Decidable (DrainedRun answers ops) :=
  inferInstanceAs (Decidable (Run.Each ..))

/-- A receiver just created holds nothing, and nothing is outstanding. -/
theorem booked_create (answers : ℕ → UsbAnswer) :
    Booked {} (create answers).transferTable := by
  have hnone (t : UsbTransfer) : (create answers).marked t = false := by
    cases t <;> rfl
  refine ⟨funext fun t => (hnone t).symm, fun t ht => absurd ht ?_,
    fun t ht => absurd ht ?_, ?_⟩
  · exact Bool.eq_false_iff.mp (hnone t)
  · exact Bool.eq_false_iff.mp (hnone t)
  · rw [books_transferTable]
    intro kind
    cases kind <;> rfl

/-- **The account of the transfers**: with a lawful libusb, the account of a
run is sound exactly if no drain loop was left by an error while a transfer
it waits for was outstanding. -/
theorem soundRun_iff_drainedRun (answers : ℕ → UsbAnswer) (ops : List UsbOp)
    (hlawful : LawfulRun answers ops) :
    SoundRun answers ops ↔ DrainedRun answers ops := by
  have hempty : ∀ t, (create answers).held t = false := fun t => by
    cases t <;> rfl
  have hrun := keeping_run (housed_of_empty hempty Bool.noConfusion)
    (Or.inl fun t _ => hempty t) ops
  obtain ⟨hiff, hbooked⟩ := hrun.settles {} (booked_create answers) hlawful
  -- the books of the last state are those of a settled run
  refine ⟨fun hsound => hiff.mp hsound.1, fun hdrained =>
    ⟨hiff.mpr hdrained, ?_⟩⟩
  rw [← books_transferTable]
  exact (hbooked hdrained).balanced

/-- A carrier that is keyed, pumped once and stopped. -/
def carrierRun : List UsbOp :=
  carrierOps ++ [.pump, .tuneCarrierStop, .stop]

/-- A bus for it. Pumping completes a receive transfer, the status transfer
and a transmit transfer, which is not taken again; the drain loops complete
the others as cancelled. -/
def cancelsAll (call : ℕ) : UsbAnswer :=
  if call = 35 then
    { rounds :=
        [{ completions :=
            [.rx ⟨0, by decide⟩ .completed [] 0, .status .completed [] 0,
              .tune ⟨0, by decide⟩ .completed 0 0 (-1)] }] }
  else if call = 42 then
    { rounds :=
        [{ completions := ((List.finRange tuneTransferCount).drop 1).map
            fun slot => .tune slot .cancelled 0 0 0 }, {}] }
  else if call = 45 then
    { rounds :=
        [{ completions := .status .cancelled [] 0 ::
            (List.finRange rxTransferCount).map
              fun slot => .rx slot .cancelled [] 0 }] }
  else {}

/-- The account of that run is sound. -/
theorem soundRun_carrierRun : SoundRun cancelsAll carrierRun :=
  (soundRun_iff_drainedRun cancelsAll carrierRun (by decide +kernel)).mpr
    (by decide +kernel)

/-- A bus on which event handling fails as a receiver that was started is
stopped, and libusb cannot be initialized after that. -/
def failsDraining (call : ℕ) : UsbAnswer :=
  if call = 14 then { rounds := [{ result := libusbErrorIo }] }
  else if call = 15 then { result := libusbErrorNoMem }
  else {}

/-- **Freed while outstanding**: where event handling fails as the receiver
is stopped, all its transfers are freed with their submissions outstanding.
The status transfer stays marked, though nothing is counted any more, and
the next start that fails cancels it, though it does not exist. -/
theorem freed_while_outstanding :
    LawfulRun failsDraining [.start, .stop, .start]
      ∧ ¬ SoundRun failsDraining [.start, .stop, .start]
      ∧ ¬ ((create failsDraining).run [.start, .stop]).books.Balanced
      ∧ (Run.after RequestView.step {}
          ((create failsDraining).runTransfers [.start, .stop])).present .status
        = false
      ∧ ∃ events, ((create failsDraining).run [.start, .stop]).startTransfers
        = .cancel .status :: events :=
  ⟨by decide +kernel, by decide +kernel, by decide +kernel, by decide +kernel,
    _, rfl⟩

end UsbRx
