import Flex1500.UsbTransfers

/-!
# The books of the receiver

The counters and the flags of the receiver are a table of requests, and what
its callbacks, its drain loops and its transmit stream do with the transfers
are the operations of that table. So the rules of asynchronous requests say
of each of them that the books are kept, or that the stretch settles: that it
is sound exactly if no wait was given up while something was outstanding.
-/

open RequestGroups (members group)
open RequestTable (Keeps Drains Settles Booked)

namespace UsbRx

variable {r r' s : UsbRx}

/-! ## The table -/

/-- The books the receiver records are those of its table. -/
theorem books_transferTable (r : UsbRx) : r.transferTable.books = r.books := by
  refine congrArg (RequestBooks.mk r.active) (funext fun kind => ?_)
  cases kind with
  | receive =>
    show List.countP r.marked ((List.finRange rxTransferCount).map .rx ++ [.status])
      = _
    rw [List.countP_append, List.countP_map, List.countP_singleton]
    rfl
  | transmit =>
    show List.countP r.marked ((List.finRange tuneTransferCount).map .tune) = _
    rw [List.countP_map]
    rfl

theorem held_withSlot (slot : Fin rxTransferCount) (f : RxSlot → RxSlot)
    (r : UsbRx) :
    (r.withSlot slot f).held
      = Function.update r.held (.rx slot) (f (r.slots slot)).allocated := by
  funext t
  cases t with
  | rx x =>
    obtain rfl | hx := eq_or_ne x slot
    · simp [held, withSlot]
    · simp [held, withSlot, hx]
  | status => rfl
  | tune x => rfl

theorem marked_withSlot (slot : Fin rxTransferCount) (f : RxSlot → RxSlot)
    (r : UsbRx) :
    (r.withSlot slot f).marked
      = Function.update r.marked (.rx slot) (f (r.slots slot)).submitted := by
  funext t
  cases t with
  | rx x =>
    obtain rfl | hx := eq_or_ne x slot
    · simp [marked, withSlot]
    · simp [marked, withSlot, hx]
  | status => rfl
  | tune x => rfl

theorem held_withTuneSlot (slot : Fin tuneTransferCount)
    (f : TuneSlot → TuneSlot) (r : UsbRx) :
    (r.withTuneSlot slot f).held
      = Function.update r.held (.tune slot)
          (f (r.tuneSlots slot)).allocated := by
  funext t
  cases t with
  | rx x => rfl
  | status => rfl
  | tune x =>
    obtain rfl | hx := eq_or_ne x slot
    · simp [held, withTuneSlot]
    · simp [held, withTuneSlot, hx]

theorem marked_withTuneSlot (slot : Fin tuneTransferCount)
    (f : TuneSlot → TuneSlot) (r : UsbRx) :
    (r.withTuneSlot slot f).marked
      = Function.update r.marked (.tune slot)
          (f (r.tuneSlots slot)).submitted := by
  funext t
  cases t with
  | rx x => rfl
  | status => rfl
  | tune x =>
    obtain rfl | hx := eq_or_ne x slot
    · simp [marked, withTuneSlot]
    · simp [marked, withTuneSlot, hx]

/-- What the transfers are about: their table, and whether there is a context
and a handle. -/
structure Same (r r' : UsbRx) : Prop where
  table : r'.transferTable = r.transferTable
  context : r'.context = r.context
  handle : r'.handle = r.handle

namespace Same

theorem refl (r : UsbRx) : r.Same r := ⟨rfl, rfl, rfl⟩

theorem trans (h : r.Same r') (h' : r'.Same s) : r.Same s :=
  ⟨h'.table.trans h.table, h'.context.trans h.context,
    h'.handle.trans h.handle⟩

theorem foldl {α : Type} (f : UsbRx → α → UsbRx)
    (h : ∀ (r : UsbRx) a, r.Same (f r a)) (as : List α) (r : UsbRx) :
    r.Same (as.foldl f r) := by
  induction as generalizing r with
  | nil => exact refl r
  | cons a as ih => exact (h r a).trans (ih _)

end Same

theorem same_processPacket (length : ℕ) (r : UsbRx) :
    r.Same (r.processPacket length) := by
  unfold processPacket
  split <;> exact ⟨rfl, rfl, rfl⟩

/-! ## Callbacks -/

/-- A transfer that came back loses its mark. -/
theorem table_returned (c : Completion) (r : UsbRx) :
    (r.returned c).transferTable = r.transferTable.completed c.transfer := by
  cases c with
  | rx slot =>
    refine RequestTable.ext ?_ ?_ (funext fun kind => by cases kind <;> rfl)
    · exact (held_withSlot slot ({ · with submitted := false }) r).trans
        (Function.update_eq_self _ _)
    · exact marked_withSlot slot ({ · with submitted := false }) r
  | status =>
    exact RequestTable.ext rfl (funext fun t => by cases t <;> rfl)
      (funext fun kind => by cases kind <;> rfl)
  | tune slot =>
    refine RequestTable.ext ?_ ?_ (funext fun kind => by cases kind <;> rfl)
    · exact (held_withTuneSlot slot
        ({ · with submitted := false, audioFrames := 0 }) r).trans
          (Function.update_eq_self _ _)
    · exact marked_withTuneSlot slot
        ({ · with submitted := false, audioFrames := 0 }) r

/-- What a callback does next leaves the transfers alone. -/
theorem same_completed (c : Completion) (r : UsbRx) :
    (r.returned c).Same (r.completed c) := by
  cases c with
  | rx slot status packets resubmit =>
    cases status with
    | completed =>
      have hpackets := Same.foldl (fun r length => r.processPacket length)
        (fun r length => same_processPacket length r) packets
        { r.returned (.rx slot .completed packets resubmit) with
          consecutiveTransferFailures := 0 }
      exact ⟨hpackets.table, hpackets.context, hpackets.handle⟩
    | cancelled => exact .refl _
    | noDevice => exact ⟨rfl, rfl, rfl⟩
    | failed => exact ⟨rfl, rfl, rfl⟩
  | status status packet resubmit =>
    cases status with
    | completed =>
      unfold completed
      dsimp only
      split
      · exact ⟨rfl, rfl, rfl⟩
      · exact .refl _
    | cancelled => exact .refl _
    | noDevice => exact ⟨rfl, rfl, rfl⟩
    | failed => exact .refl _
  | tune slot status clipped limited resubmit =>
    cases status with
    | completed => exact .refl _
    | cancelled => exact .refl _
    | noDevice => exact ⟨rfl, rfl, rfl⟩
    | failed => exact ⟨rfl, rfl, rfl⟩

/-- A receive transfer is submitted. -/
theorem table_submitSlot (slot : Fin rxTransferCount) (result : Int)
    (r : UsbRx) :
    (r.submitSlot slot result).transferTable
      = if (result == 0) = true then r.transferTable.submitted (.rx slot)
        else r.transferTable := by
  unfold submitSlot
  by_cases hr : result = 0
  · rw [if_neg (not_not.mpr hr), if_pos (beq_iff_eq.mpr hr)]
    refine RequestTable.ext ?_ ?_ (funext fun kind => by cases kind <;> rfl)
    · exact (held_withSlot slot ({ · with submitted := true }) r).trans
        (Function.update_eq_self _ _)
    · exact marked_withSlot slot ({ · with submitted := true }) r
  · rw [if_pos hr, if_neg (mt beq_iff_eq.mp hr)]
    rfl

/-- The status transfer is submitted. -/
theorem table_submitStatus (result : Int) (r : UsbRx) :
    (r.submitStatus result).transferTable
      = if (result == 0) = true then r.transferTable.submitted .status
        else r.transferTable := by
  unfold submitStatus
  by_cases hr : result = 0
  · rw [if_neg (not_not.mpr hr), if_pos (beq_iff_eq.mpr hr)]
    exact RequestTable.ext rfl (funext fun t => by cases t <;> rfl)
      (funext fun kind => by cases kind <;> rfl)
  · rw [if_pos hr, if_neg (mt beq_iff_eq.mp hr)]
    rfl

/-- A transmit transfer is marked and counted. -/
theorem table_submitTuneSlot (slot : Fin tuneTransferCount) (r : UsbRx) :
    { r.withTuneSlot slot ({ · with submitted := true }) with
      activeTuneTransfers := r.activeTuneTransfers + 1 }.transferTable
      = r.transferTable.submitted (.tune slot) := by
  refine RequestTable.ext ?_ ?_ (funext fun kind => by cases kind <;> rfl)
  · exact (held_withTuneSlot slot ({ · with submitted := true }) r).trans
      (Function.update_eq_self _ _)
  · exact marked_withTuneSlot slot ({ · with submitted := true }) r

/-- A transmit transfer is submitted again. -/
theorem table_resubmitTune (slot : Fin tuneTransferCount) (frames : ℕ)
    (result : Int) (r : UsbRx) :
    (r.resubmitTune slot frames result).transferTable
      = if (result == 0) = true then r.transferTable.submitted (.tune slot)
        else r.transferTable := by
  have hframes :
      (r.withTuneSlot slot ({ · with audioFrames := frames })).transferTable
        = r.transferTable := by
    refine RequestTable.ext ?_ ?_ rfl
    · exact (held_withTuneSlot slot ({ · with audioFrames := frames }) r).trans
        (Function.update_eq_self _ _)
    · exact (marked_withTuneSlot slot ({ · with audioFrames := frames })
        r).trans (Function.update_eq_self _ _)
  unfold resubmitTune
  dsimp only
  by_cases hr : result = 0
  · rw [if_neg (not_not.mpr hr), if_pos (beq_iff_eq.mpr hr), ← hframes]
    exact table_submitTuneSlot slot _
  · rw [if_pos hr, if_neg (mt beq_iff_eq.mp hr)]
    exact hframes

/-- A submission at the end of a callback sets the mark where libusb
accepts. -/
theorem table_resubmitted (c : Completion) (r : UsbRx) :
    (r.resubmitted c).transferTable
      = if (c.resubmit == 0) = true then r.transferTable.submitted c.transfer
        else r.transferTable := by
  cases c with
  | rx slot => exact table_submitSlot slot _ r
  | status => exact table_submitStatus _ r
  | tune slot status clipped limited resubmit =>
    have hrender : (r.renderTransfer clipped limited).transferTable
        = r.transferTable := by
      unfold renderTransfer
      split <;> rfl
    rw [← hrender]
    exact table_resubmitTune slot _ resubmit _

theorem context_resubmitted (c : Completion) (r : UsbRx) :
    (r.resubmitted c).context = r.context
      ∧ (r.resubmitted c).handle = r.handle := by
  cases c with
  | rx slot =>
    unfold resubmitted submitSlot
    dsimp only
    split <;> exact ⟨rfl, rfl⟩
  | status =>
    unfold resubmitted submitStatus
    dsimp only
    split <;> exact ⟨rfl, rfl⟩
  | tune slot =>
    unfold resubmitted resubmitTune renderTransfer
    dsimp only
    split_ifs <;> exact ⟨rfl, rfl⟩

/-- **What handles events only** keeps the books, and holds what it held. -/
structure Handles (r : UsbRx) (es : List TransferEvent) (r' : UsbRx) :
    Prop where
  keeps : Keeps r.transferTable es r'.transferTable
  held : r'.held = r.held
  context : r'.context = r.context
  handle : r'.handle = r.handle

theorem Same.handles (h : r.Same r') : r.Handles [] r' :=
  ⟨h.table ▸ RequestTable.keeps_nil _, congrArg RequestTable.held h.table,
    h.context, h.handle⟩

theorem Handles.append {es fs : List TransferEvent} (h : r.Handles es r')
    (h' : r'.Handles fs s) : r.Handles (es ++ fs) s :=
  ⟨h.keeps.append h'.keeps, h'.held.trans h.held, h'.context.trans h.context,
    h'.handle.trans h.handle⟩

/-- **A callback** keeps the books. -/
theorem handles_complete (c : Completion) (r : UsbRx) :
    r.Handles (r.completeTransfers c) (r.complete c) := by
  have hsame := same_completed c r
  have htable : (r.completed c).transferTable
      = r.transferTable.completed c.transfer :=
    hsame.table.trans (table_returned c r)
  have hreturned : (r.returned c).context = r.context
      ∧ (r.returned c).handle = r.handle := by
    cases c <;> exact ⟨rfl, rfl⟩
  have hagain := context_resubmitted c (r.completed c)
  have hbooks := RequestTable.keeps_record (r.complete c).transferTable
  rw [books_transferTable] at hbooks
  have hmarked := table_resubmitted c (r.completed c)
  rw [htable] at hmarked
  unfold completeTransfers
  rw [complete_eq] at hbooks ⊢
  split
  · -- it is submitted again
    rw [if_pos ‹_›] at hbooks
    refine ⟨Keeps.append ?_ hbooks, ?_, ?_, ?_⟩
    · rw [hmarked]
      exact RequestTable.keeps_resubmit _ _
    · rw [show ((r.completed c).resubmitted c).held = _ from
        congrArg RequestTable.held hmarked]
      split <;> rfl
    · rw [hagain.1, hsame.context, hreturned.1]
    · rw [hagain.2, hsame.handle, hreturned.2]
  · rw [if_neg ‹_›] at hbooks
    refine ⟨Keeps.append ?_ hbooks, ?_, ?_, ?_⟩
    · rw [htable]
      exact RequestTable.keeps_callback _
    · exact congrArg RequestTable.held htable
    · rw [hsame.context, hreturned.1]
    · rw [hsame.handle, hreturned.2]

/-- So does event handling. -/
theorem handles_handleEvents (round : EventRound) (r : UsbRx) :
    r.Handles (r.handleEventsTransfers round) (r.handleEvents round) :=
  Run.writes_relates (I := fun _ => True) Handles (fun r => (Same.refl r).handles)
    Handles.append (fun r c _ => ⟨trivial, handles_complete c r⟩) trivial
    round.completions

theorem same_ask (r : UsbRx) : r.Same r.ask.2 := ⟨rfl, rfl, rfl⟩

theorem Same.before {es : List TransferEvent} (h : r.Same r')
    (h' : r'.Handles es s) : r.Handles es s :=
  h.handles.append h'

theorem Handles.after {es : List TransferEvent} (h : r.Handles es r')
    (h' : r'.Same s) : r.Handles es s :=
  List.append_nil es ▸ h.append h'.handles

theorem handles_pump (r : UsbRx) : r.Handles r.pumpTransfers r.pump.2 := by
  have h := (same_ask r).before
    (handles_handleEvents (r.ask.1.rounds.headD {}) r.ask.2)
  unfold pumpTransfers pump
  dsimp only
  split
  · exact (Same.refl r).handles
  · split_ifs
    · exact h
    · exact h.after ⟨rfl, rfl, rfl⟩
    · exact h

theorem handles_serviceRounds (rounds : List EventRound) (r : UsbRx) :
    r.Handles (serviceRoundsTransfers rounds r)
      (serviceRounds rounds r).2 := by
  induction rounds generalizing r with
  | nil => exact (Same.refl r).handles
  | cons round rest ih =>
    have h := handles_handleEvents round r
    unfold serviceRoundsTransfers serviceRounds
    dsimp only
    split_ifs
    · exact h.append (Same.refl _).handles
    · exact h.append (Same.refl _).handles
    · exact h.append (ih _)

theorem handles_serviceTxStream (durationMs : ℕ) (r : UsbRx) :
    r.Handles r.serviceTxStreamTransfers (r.serviceTxStream durationMs).2 :=
  ((same_ask r).before (handles_serviceRounds r.ask.1.rounds r.ask.2)).after
    ⟨rfl, rfl, rfl⟩

theorem handles_drainGracefully (rounds : List EventRound) (r : UsbRx) :
    r.Handles (drainGracefullyTransfers rounds r)
      (drainGracefully rounds r) := by
  induction rounds generalizing r with
  | nil => exact (Same.refl r).handles
  | cons round rest ih =>
    have h := handles_handleEvents round r
    unfold drainGracefullyTransfers drainGracefully
    dsimp only
    split_ifs
    · exact (Same.refl r).handles
    · exact h.append (Same.refl _).handles
    · exact h.append (Same.refl _).handles
    · exact h.append (ih _)

/-! ## The drain loops -/

/-- The drain loops of `usb_rx.c`, by what they wait for. -/
def drain : TransferKind → List EventRound → UsbRx → UsbRx
  | .receive => drainAll
  | .transmit => drainTune

theorem drain_nil (kind : TransferKind) (r : UsbRx) : drain kind [] r = r := by
  cases kind <;> rfl

theorem drain_cons (kind : TransferKind) (round : EventRound)
    (rest : List EventRound) (r : UsbRx) :
    drain kind (round :: rest) r
      = if r.waits kind then
          if round.result ≠ 0 ∧ round.result ≠ libusbErrorInterrupted then
            r.handleEvents round
          else drain kind rest (r.handleEvents round)
        else r := by
  cases kind <;> rfl

/-- A loop that does not wait has nothing to wait for. -/
theorem drained_of_not_waits {kind : TransferKind}
    (hclosed : r.context = false → ∀ t, r.held t = false)
    (h : r.waits kind = false) :
    Drains kind r.transferTable [] r.transferTable := by
  refine RequestTable.drains_nil fun v hv => ?_
  rw [waits, Bool.and_eq_false_iff, decide_eq_false_iff_not, Nat.pos_iff_ne_zero,
    not_not] at h
  obtain hcontext | hactive := h
  -- without a context nothing is held; without a count nothing is marked
  · exact fun t _ => hv.unmarked (hclosed hcontext t)
  · exact (RequestTable.active_eq_zero_iff hv.balanced).mp hactive

/-- A drain loop holds what it held. -/
theorem held_drain (kind : TransferKind) (rounds : List EventRound)
    (r : UsbRx) :
    (drain kind rounds r).held = r.held
      ∧ (drain kind rounds r).context = r.context
      ∧ (drain kind rounds r).handle = r.handle := by
  induction rounds generalizing r with
  | nil =>
    rw [drain_nil]
    exact ⟨rfl, rfl, rfl⟩
  | cons round rest ih =>
    have h := handles_handleEvents round r
    obtain ⟨hheld, hcontext, hhandle⟩ := ih (r.handleEvents round)
    rw [drain_cons]
    split_ifs
    · exact ⟨h.held, h.context, h.handle⟩
    · exact ⟨hheld.trans h.held, hcontext.trans h.context,
        hhandle.trans h.handle⟩
    · exact ⟨rfl, rfl, rfl⟩

/-- **A drain loop** waits for its transfers. -/
theorem drains_drain (kind : TransferKind) (rounds : List EventRound)
    (hclosed : r.context = false → ∀ t, r.held t = false) :
    Drains kind r.transferTable (drainTransfers kind rounds r)
      (drain kind rounds r).transferTable := by
  induction rounds generalizing r with
  | nil =>
    rw [drain_nil, drainTransfers]
    split
    · -- the rounds have run out while it waits
      exact RequestTable.drains_abandon kind _
    · exact drained_of_not_waits hclosed (Bool.eq_false_iff.mpr ‹_›)
  | cons round rest ih =>
    have h := handles_handleEvents round r
    rw [drain_cons, drainTransfers]
    split_ifs
    · -- event handling fails, and the loop gives up
      exact h.keeps.drains (RequestTable.drains_abandon kind _)
    · refine h.keeps.drains (ih fun hcontext t => ?_)
      rw [h.held]
      exact hclosed (h.context ▸ hcontext) t
    · exact drained_of_not_waits hclosed (Bool.eq_false_iff.mpr ‹_›)

/-- Cancelling the transfers marked. -/
theorem keeps_cancels (l : List UsbTransfer) (r : UsbRx) :
    Keeps r.transferTable ((l.filter r.marked).map .cancel) r.transferTable :=
  RequestTable.keeps_cancel fun _ ht => (List.mem_filter.mp ht).2

/-! ## The transmit stream -/

/-- Releasing the stream clears what is transmitted. -/
theorem table_releaseTuneStream (r : UsbRx) :
    r.releaseTuneStream.transferTable
      = (drain .transmit { r with tuneStreaming := false }.ask.1.rounds
          { r with tuneStreaming := false }.ask.2).transferTable.cleared
            .transmit := by
  refine RequestTable.ext (funext fun t => ?_) (funext fun t => ?_)
    (funext fun kind => ?_)
  · cases t
    · exact (Bool.and_true _).symm
    · exact (Bool.and_true _).symm
    · exact (Bool.and_false _).symm
  · cases t
    · exact (Bool.and_true _).symm
    · exact (Bool.and_true _).symm
    · exact (Bool.and_false _).symm
  · cases kind <;> rfl

/-- **Releasing the stream** settles. -/
theorem settles_releaseTuneStream
    (hclosed : r.context = false → ∀ t, r.held t = false) :
    Settles r.transferTable r.releaseTuneStreamTransfers
      r.releaseTuneStream.transferTable := by
  have hdrain := drains_drain .transmit
    { r with tuneStreaming := false }.ask.1.rounds
    (r := { r with tuneStreaming := false }.ask.2) hclosed
  refine (keeps_cancels (members .transmit) r).settles.append ?_
  rw [← books_transferTable, table_releaseTuneStream]
  -- what is freed is what was waited for and is held
  refine hdrain.release (fun t ht => (List.mem_filter.mp ht).1)
    (fun t ht hheld => List.mem_filter.mpr ⟨ht, hheld⟩) fun v hv hunmarked => ?_
  exact hv.clear hunmarked

/-- Only the receive transfers are held after it. -/
theorem held_releaseTuneStream (r : UsbRx) (t : UsbTransfer) :
    r.releaseTuneStream.held t
      = (r.held t && decide (group t ≠ .transmit)) := by
  rw [show r.releaseTuneStream.held = _ from
    congrArg RequestTable.held (table_releaseTuneStream r)]
  show ((drain .transmit { r with tuneStreaming := false }.ask.1.rounds
    { r with tuneStreaming := false }.ask.2).held t && _) = _
  rw [(held_drain ..).1]
  rfl

theorem context_releaseTuneStream (r : UsbRx) :
    r.releaseTuneStream.context = r.context
      ∧ r.releaseTuneStream.handle = r.handle := by
  have h := held_drain .transmit { r with tuneStreaming := false }.ask.1.rounds
    { r with tuneStreaming := false }.ask.2
  exact ⟨h.2.1, h.2.2⟩

end UsbRx
