import Mathlib.Algebra.BigOperators.Group.List.Basic
import Flex1500.UsbTransmit

/-!
# The graceful drain

Before a transmission ends, what was queued is given time to go out: no more
samples are accepted, and events are handled until nothing is pending or the
time is up. The callbacks go on rendering and submitting meanwhile. Each of
them moves frames from the queue into a transfer at most, so what is pending
never grows, and what was asked for is what went out and what was discarded.
-/

namespace UsbRx

variable {r r' : UsbRx}

/-! ## What is pending -/

/-- The frames a transfer holds while it is submitted. -/
def slotFrames (r : UsbRx) (slot : Fin tuneTransferCount) : ℕ :=
  if (r.tuneSlots slot).submitted then (r.tuneSlots slot).audioFrames else 0

/-- What is pending, transfer by transfer. -/
theorem txPendingFrames_eq (r : UsbRx) :
    r.txPendingFrames = if r.microphoneStreaming then
        r.microphoneStream.count
          + ((List.finRange tuneTransferCount).map r.slotFrames).sum
      else 0 := by
  unfold txPendingFrames
  cases r.microphoneStreaming <;> rfl

/-- **One transfer at a time**: where the others are as they were, what is
pending grows by what the queue and the transfer grow by together. -/
theorem pending_le_of_slot (slot : Fin tuneTransferCount)
    (hstreaming : r'.microphoneStreaming = r.microphoneStreaming)
    (hother : ∀ other, other ≠ slot → r'.tuneSlots other = r.tuneSlots other)
    (hslot : r'.microphoneStream.count + r'.slotFrames slot
      ≤ r.microphoneStream.count + r.slotFrames slot) :
    r'.txPendingFrames ≤ r.txPendingFrames := by
  have hmem := List.mem_finRange slot
  have hrest : (((List.finRange tuneTransferCount).erase slot).map
        r'.slotFrames).sum
      = (((List.finRange tuneTransferCount).erase slot).map
        r.slotFrames).sum := by
    refine congrArg List.sum (List.map_congr_left fun other hmem => ?_)
    have hne := ((List.nodup_finRange _).mem_erase_iff.mp hmem).1
    rw [slotFrames, slotFrames, hother other hne]
  have hbefore := List.sum_map_erase r.slotFrames hmem
  have hafter := List.sum_map_erase r'.slotFrames hmem
  rw [txPendingFrames_eq, txPendingFrames_eq, hstreaming]
  split
  · omega
  · exact Nat.le_refl 0

/-! ## What a drain does -/

/-- The counts of the drains. -/
def drainCounts (stats : TxAudioStats) : UInt64 × UInt64 × UInt64 :=
  (stats.stopRequestedFrames, stats.gracefulDrainedFrames,
    stats.gracefulDiscardedFrames)

theorem drainCounts_eq_iff {stats stats' : TxAudioStats} :
    drainCounts stats' = drainCounts stats
      ↔ stats'.stopRequestedFrames = stats.stopRequestedFrames
        ∧ stats'.gracefulDrainedFrames = stats.gracefulDrainedFrames
        ∧ stats'.gracefulDiscardedFrames
          = stats.gracefulDiscardedFrames := by
  rw [drainCounts, drainCounts, Prod.mk.injEq, Prod.mk.injEq]

/-- **What a drain may do**: no more is pending, no samples are accepted, and
the counts of the drains are as they were. -/
structure Subsides (r r' : UsbRx) : Prop where
  pending : r'.txPendingFrames ≤ r.txPendingFrames
  refuses : r'.txAcceptingAudio = false
  counts : drainCounts r'.microphoneStream.stats
    = drainCounts r.microphoneStream.stats

theorem Subsides.trans {r'' : UsbRx} (h : r.Subsides r')
    (h' : r'.Subsides r'') : r.Subsides r'' where
  pending := h'.pending.trans h.pending
  refuses := h'.refuses
  counts := h'.counts.trans h.counts

/-- Nothing that the queue or the transfers are in was touched. -/
theorem subsides_of_same (h : r.txAcceptingAudio = false)
    (haccepting : r'.txAcceptingAudio = r.txAcceptingAudio)
    (hstreaming : r'.microphoneStreaming = r.microphoneStreaming)
    (hstream : r'.microphoneStream = r.microphoneStream)
    (hslots : r'.tuneSlots = r.tuneSlots) : r.Subsides r' where
  pending := by
    unfold txPendingFrames
    rw [hstreaming, hstream, hslots]
  refuses := haccepting.trans h
  counts := by rw [hstream]

/-- Packets of the microphone are not taken. -/
theorem Subsides.packets (h : r.Subsides r') (packets : List ℕ) :
    r.Subsides (packets.foldl (fun r length => r.processPacket length) r') := by
  induction packets with
  | nil => exact h
  | cons length packets ih =>
    rw [List.foldl_cons, processPacket, if_neg (by simp [h.refuses])]
    exact ih

theorem Subsides.submitSlot (h : r.Subsides r') (slot : Fin rxTransferCount)
    (result : Int) : r.Subsides (r'.submitSlot slot result) := by
  refine h.trans ?_
  unfold UsbRx.submitSlot
  split
  · exact subsides_of_same h.refuses rfl rfl rfl rfl
  · exact subsides_of_same h.refuses rfl rfl rfl rfl

theorem Subsides.submitStatus (h : r.Subsides r') (result : Int) :
    r.Subsides (r'.submitStatus result) := by
  refine h.trans ?_
  unfold UsbRx.submitStatus
  split
  · exact subsides_of_same h.refuses rfl rfl rfl rfl
  · exact subsides_of_same h.refuses rfl rfl rfl rfl

theorem subsides_rxComplete (h : r.txAcceptingAudio = false)
    (slot : Fin rxTransferCount) (status : TransferStatus)
    (packets : List ℕ) (resubmit : Int) :
    r.Subsides (r.rxComplete slot status packets resubmit) := by
  have hsubmit (handled : UsbRx) (hhandled : r.Subsides handled) :
      r.Subsides (if !handled.stopping && handled.running then
        handled.submitSlot slot resubmit else handled) := by
    split
    · exact hhandled.submitSlot slot resubmit
    · exact hhandled
  unfold rxComplete
  refine hsubmit _ ?_
  cases status with
  | completed =>
    refine Subsides.packets ?_ packets
    exact subsides_of_same h rfl rfl rfl rfl
  | cancelled => exact subsides_of_same h rfl rfl rfl rfl
  | noDevice => exact subsides_of_same h rfl rfl rfl rfl
  | failed => exact subsides_of_same h rfl rfl rfl rfl

theorem subsides_statusComplete (h : r.txAcceptingAudio = false)
    (status : TransferStatus) (packet : List UInt8) (resubmit : Int) :
    r.Subsides (r.statusComplete status packet resubmit) := by
  have hsubmit (handled : UsbRx) (hhandled : r.Subsides handled) :
      r.Subsides (if !handled.stopping && handled.running then
        handled.submitStatus resubmit else handled) := by
    split
    · exact hhandled.submitStatus resubmit
    · exact hhandled
  unfold statusComplete
  refine hsubmit _ ?_
  cases status with
  | completed =>
    dsimp only
    split
    · exact subsides_of_same h rfl rfl rfl rfl
    · exact subsides_of_same h rfl rfl rfl rfl
  | cancelled => exact subsides_of_same h rfl rfl rfl rfl
  | noDevice => exact subsides_of_same h rfl rfl rfl rfl
  | failed => exact subsides_of_same h rfl rfl rfl rfl

/-- What rendering a transfer takes out of the queue. -/
theorem renderTransfer_spec (clipped limited : ℕ) (r : UsbRx) :
    (r.renderTransfer clipped limited).microphoneStream.count
        ≤ r.microphoneStream.count
      ∧ (r.renderTransfer clipped limited).microphoneStreaming
        = r.microphoneStreaming
      ∧ (r.renderTransfer clipped limited).tuneSlots = r.tuneSlots
      ∧ (r.renderTransfer clipped limited).txAcceptingAudio
        = r.txAcceptingAudio
      ∧ drainCounts (r.renderTransfer clipped limited).microphoneStream.stats
        = drainCounts r.microphoneStream.stats := by
  unfold renderTransfer
  split
  · refine ⟨Nat.sub_le .., rfl, rfl, rfl, ?_⟩
    simp only [drainCounts, TxAudioStream.renderIq16le]
  · exact ⟨Nat.le_refl _, rfl, rfl, rfl, rfl⟩

/-- **A transfer that completes** takes no more out of the queue than it puts
into the next one. -/
theorem subsides_tuneComplete (h : r.txAcceptingAudio = false)
    (slot : Fin tuneTransferCount) (status : TransferStatus)
    (clipped limited : ℕ) (resubmit : Int) :
    r.Subsides (r.tuneComplete slot status clipped limited resubmit) := by
  -- once collected the transfer holds nothing, and filled it holds what the
  -- queue lost
  have hfilled (e : UsbRx) (haccepting : e.txAcceptingAudio = false)
      (hstreaming : e.microphoneStreaming = r.microphoneStreaming)
      (hstream : e.microphoneStream = r.microphoneStream)
      (hslots : ∀ other, other ≠ slot → e.tuneSlots other = r.tuneSlots other)
      (hempty : (e.tuneSlots slot).submitted = false) :
      r.Subsides (if e.tuneStreaming && e.running then
        (e.renderTransfer clipped limited).resubmitTune slot
          (e.microphoneStream.count
            - (e.renderTransfer clipped limited).microphoneStream.count)
          resubmit
        else e) := by
    obtain ⟨hcount, hkeeps, hsame, hrefuses, hcounts⟩ :=
      renderTransfer_spec clipped limited e
    split
    · unfold resubmitTune
      dsimp only
      split
      · refine ⟨pending_le_of_slot slot (hkeeps.trans hstreaming)
          (fun other hother => ?_) ?_, hrefuses.trans haccepting,
          hcounts.trans (by rw [hstream])⟩
        · simp only [withTuneSlot, Function.update_of_ne hother, hsame]
          exact hslots other hother
        · simp only [slotFrames, withTuneSlot, Function.update_self, hsame,
            hempty, Bool.false_eq_true, if_false]
          rw [← hstream]
          omega
      · refine ⟨pending_le_of_slot slot (hkeeps.trans hstreaming)
          (fun other hother => ?_) ?_, hrefuses.trans haccepting,
          hcounts.trans (by rw [hstream])⟩
        · simp only [withTuneSlot, Function.update_of_ne hother, hsame]
          exact hslots other hother
        · simp only [slotFrames, withTuneSlot, Function.update_self, if_true]
          rw [← hstream]
          omega
    · refine ⟨pending_le_of_slot slot hstreaming hslots ?_, haccepting,
        by rw [hstream]⟩
      simp only [slotFrames, hempty, Bool.false_eq_true, if_false, hstream]
      exact Nat.le_add_right _ _
  unfold tuneComplete
  refine hfilled _ ?_ ?_ ?_ (fun other hother => ?_) ?_
  · cases status <;> exact h
  · cases status <;> rfl
  · cases status <;> rfl
  · cases status <;> exact Function.update_of_ne hother ..
  · cases status <;> simp [withTuneSlot]

/-- **Whatever completes**, a drain goes on. -/
theorem subsides_complete (h : r.txAcceptingAudio = false) (c : Completion) :
    r.Subsides (r.complete c) := by
  cases c with
  | rx slot status packets resubmit =>
    exact subsides_rxComplete h slot status packets resubmit
  | status status packet resubmit =>
    exact subsides_statusComplete h status packet resubmit
  | tune slot status clipped limited resubmit =>
    exact subsides_tuneComplete h slot status clipped limited resubmit

theorem subsides_completions (h : r.txAcceptingAudio = false)
    (completions : List Completion) :
    r.Subsides (completions.foldl complete r) := by
  induction completions generalizing r with
  | nil => exact subsides_of_same h rfl rfl rfl rfl
  | cons c completions ih =>
    have hfirst := subsides_complete h c
    exact hfirst.trans (ih hfirst.refuses)

/-- The drain loop drains. -/
theorem subsides_drainGracefully (h : r.txAcceptingAudio = false)
    (rounds : List EventRound) : r.Subsides (drainGracefully rounds r) := by
  induction rounds generalizing r with
  | nil => exact subsides_of_same h rfl rfl rfl rfl
  | cons round rounds ih =>
    have hround : r.Subsides (r.handleEvents round) :=
      subsides_completions h round.completions
    unfold drainGracefully
    split
    · exact subsides_of_same h rfl rfl rfl rfl
    dsimp only
    split
    · exact hround
    split
    · exact hround
    · exact hround.trans (ih hround.refuses)

/-! ## The accounts of a graceful stop -/

/-- The receiver that a graceful stop begins with. -/
def refusing (r : UsbRx) : UsbRx :=
  { r with
    txAcceptingAudio := false
    microphoneStream := r.microphoneStream.beginGracefulStop }

/-- Refusing samples changes neither what is pending nor what was counted. -/
theorem refusing_spec (r : UsbRx) :
    r.refusing.txPendingFrames = r.txPendingFrames
      ∧ drainCounts r.refusing.microphoneStream.stats
        = drainCounts r.microphoneStream.stats := by
  have hstream : r.microphoneStream.beginGracefulStop.count
        = r.microphoneStream.count
      ∧ r.microphoneStream.beginGracefulStop.stats
        = r.microphoneStream.stats := by
    unfold TxAudioStream.beginGracefulStop
    split <;> exact ⟨rfl, rfl⟩
  refine ⟨?_, ?_⟩
  · unfold txPendingFrames refusing
    dsimp only
    rw [hstream.1]
  · exact congrArg drainCounts hstream.2

/-- **A graceful stop accounts for every frame**: once samples are refused no
callback makes more pending, whatever its status and in whatever order they
come, and none takes more out of the queue than is in it. The stop itself
takes the carrier off a receiver where the frames asked for are those that
went out and those discarded, neither below zero, all added to the counts,
which are of 64 bits. -/
theorem gracefulStop_accounts (r : UsbRx) (h : r.handle = true) :
    (∀ (completions : List Completion) (c : Completion),
        ((completions ++ [c]).foldl complete r.refusing).txPendingFrames
          ≤ (completions.foldl complete r.refusing).txPendingFrames)
      ∧ (∀ (e : UsbRx) (clipped limited : ℕ),
        (e.renderTransfer clipped limited).microphoneStream.count
          ≤ e.microphoneStream.count)
      ∧ ∃ (drained : UsbRx) (requested discarded : ℕ),
        r.microphoneTxStopGraceful = drained.tuneCarrierStop
          ∧ requested = r.txPendingFrames
          ∧ discarded = drained.txPendingFrames
          ∧ discarded ≤ requested
          ∧ drained.microphoneStream.stats.stopRequestedFrames
            = r.microphoneStream.stats.stopRequestedFrames
              + UInt64.ofNat requested
          ∧ drained.microphoneStream.stats.gracefulDrainedFrames
            = r.microphoneStream.stats.gracefulDrainedFrames
              + UInt64.ofNat (requested - discarded)
          ∧ drained.microphoneStream.stats.gracefulDiscardedFrames
            = r.microphoneStream.stats.gracefulDiscardedFrames
              + UInt64.ofNat discarded := by
  obtain ⟨hpending, hcounts⟩ := refusing_spec r
  refine ⟨?_, fun e clipped limited => (renderTransfer_spec clipped limited
    e).1, ?_⟩
  · intro completions c
    have hbefore :=
      (subsides_completions (r := r.refusing) rfl completions).refuses
    rw [List.foldl_append]
    exact (subsides_complete hbefore c).pending
  · -- the loop starts from the receiver with the frames asked for counted
    let asked := (r.refusing.tallied fun stats =>
      { stats with
        stopRequestedFrames := stats.stopRequestedFrames
          + UInt64.ofNat r.refusing.txPendingFrames }).ask
    have hsubsides : asked.2.Subsides (drainGracefully asked.1.rounds asked.2) :=
      subsides_drainGracefully rfl asked.1.rounds
    have hless := hsubsides.pending
    obtain ⟨hasked, hdrained, hdiscarded⟩ :=
      drainCounts_eq_iff.mp hsubsides.counts
    obtain ⟨hrequested, hwent, hdropped⟩ := drainCounts_eq_iff.mp hcounts
    let discarded := (drainGracefully asked.1.rounds asked.2).txPendingFrames
    have hstop : r.microphoneTxStopGraceful
        = ((drainGracefully asked.1.rounds asked.2).tallied fun stats =>
          { stats with
            gracefulDrainedFrames := stats.gracefulDrainedFrames
              + UInt64.ofNat (r.refusing.txPendingFrames - discarded)
            gracefulDiscardedFrames := stats.gracefulDiscardedFrames
              + UInt64.ofNat discarded
            gracefulDrainMs := stats.gracefulDrainMs
              + UInt64.ofNat asked.1.elapsedMs }).tuneCarrierStop := by
      rw [microphoneTxStopGraceful, if_neg (by simp [h])]
      rfl
    refine ⟨_, r.refusing.txPendingFrames, discarded, hstop, hpending, rfl,
      hless, ?_, ?_, ?_⟩
    · exact hasked.trans (congrArg (· + _) hrequested)
    · exact congrArg (· + _) (hdrained.trans hwent)
    · exact congrArg (· + _) (hdiscarded.trans hdropped)

/-- Four thousand frames are queued when the stop comes. -/
theorem gracefulStop_accounts_queued :
    let r : UsbRx :=
      { UsbRx.create (fun _ => {}) with
        handle := true
        microphoneStreaming := true
        microphoneStream := { count := 4000 } }
    ∃ (drained : UsbRx) (discarded : ℕ),
      r.microphoneTxStopGraceful = drained.tuneCarrierStop
        ∧ discarded ≤ 4000
        ∧ drained.microphoneStream.stats.stopRequestedFrames = 4000
        ∧ drained.microphoneStream.stats.gracefulDrainedFrames
          = UInt64.ofNat (4000 - discarded) := by
  intro r
  have hpending : r.txPendingFrames = 4000 := by decide
  obtain ⟨drained, requested, discarded, hstop, hrequested, -, hless, hcounted,
    hdrained, -⟩ := (gracefulStop_accounts r rfl).2.2
  rw [hrequested, hpending] at hless hcounted hdrained
  exact ⟨drained, discarded, hstop, hless, hcounted.trans (UInt64.zero_add _),
    hdrained.trans (UInt64.zero_add _)⟩

end UsbRx
