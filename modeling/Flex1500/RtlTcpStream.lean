import Flex1500.Lib.Run
import Flex1500.ReceiveIsolation

/-!
# What the `rtl_tcp` client reads

The `rtl_tcp` client is sent every frame resampled, from a buffer of its
own. A flag says that it has all of the pending frame, which others may not
have yet. Flag, buffer and offset have to agree with the publisher through
every retry: then each frame that is pumped while the client is there is
resampled once, its bytes go out in order, and the client is closed only by
its own socket.

They do not agree through everything that may happen. A client that has its
frame while another lags is offered no bytes at the next pump, and is closed
for that; a rate that is set between the two bytes of a pair parts them; and
a recovery that gives up a frame the client has not all of lets it miss the
next. The stream goes on unbroken exactly short of these.
-/

namespace RtlClient

variable {kernel : RtlKernel} {framed : List UInt8}
  {before encoded : List (List UInt8)} {rtl : RtlClient}

/-- What the frames since the rate was set become at that rate. -/
def outputs (kernel : RtlKernel) (rtl : RtlClient) :
    List (List UInt8) × RtlTcpResampler :=
  RtlTcpResampler.resampleAll kernel rtl.due
    (.reset rtl.resampler.outputRate)

/-- **The bytes add up**: those sent and those pending are the frames
resampled, and come in pairs. -/
structure Adds (kernel : RtlKernel) (rtl : RtlClient) : Prop where
  resampler : rtl.resampler = (rtl.outputs kernel).2
  bytes : rtl.sinceReset ++ rtl.remaining = (rtl.outputs kernel).1.flatten
  even : Even (rtl.total.length + rtl.remaining.length)

/-- **Pending**: the client has bytes of the pending frame left. -/
structure HasPending (kernel : RtlKernel) (rtl : RtlClient)
    (framed : List UInt8) : Prop where
  offset : rtl.pendingOffset < rtl.pending.length
  due : rtl.due.getLast? = some framed
  output : (rtl.outputs kernel).1.getLast? = some rtl.pending
  incomplete : rtl.sourceComplete = false

/-- **A sound client**, where the publisher has a frame pending, or none,
and has encoded so many. -/
structure Sound (kernel : RtlKernel) (rtl : RtlClient) (framed : List UInt8)
    (encoded : List (List UInt8)) : Prop extends rtl.Adds kernel where
  due : rtl.due <:+ encoded
  pending : rtl.pending ≠ [] → framed ≠ [] ∧ rtl.HasPending kernel framed
  complete : framed ≠ [] → rtl.due.getLast? = some framed →
    rtl.pending = [] → rtl.sourceComplete = true

/-- **Closed for a reason**: a frame was rejected, or bytes could not be
sent. -/
def WellClosed (rtl : RtlClient) : Prop :=
  ∀ reason ∈ rtl.closings,
    reason = .rejected ∨ ∃ n, 0 < n ∧ reason = .sendFailed n

/-- With nothing pending nothing remains. -/
theorem remaining_of_pending (h : rtl.pending = []) : rtl.remaining = [] := by
  rw [remaining, h, List.drop_nil]

/-! ## Loading a frame -/

/-- The client with a frame resampled for it. -/
def loaded (framed : List UInt8) (resampled : List UInt8 × RtlTcpResampler)
    (rtl : RtlClient) : RtlClient :=
  { rtl with
    resampler := resampled.2
    pending := resampled.1
    pendingOffset := 0
    due := rtl.due ++ [framed] }

/-- What becomes of a client that is offered a new frame. -/
theorem refill_new (kernel : RtlKernel) (hflag : rtl.sourceComplete = false)
    (hnew : rtl.due.getLast? ≠ some framed) (hnone : rtl.pending = []) :
    let resampled := rtl.resampler.resampleIq kernel framed rtlPendingSize
    (rtl.offered framed).refill kernel framed
      = if resampled.1 = [] then
          (rtl.loaded framed resampled).closed .rejected
        else rtl.loaded framed resampled := by
  intro resampled
  have hoffered : rtl.offered framed
      = { rtl with due := rtl.due ++ [framed] } := if_neg hnew
  rw [hoffered]
  exact if_pos (by simp [hflag, hnone])

/-- **A frame the client was not offered yet** is resampled. -/
theorem Adds.load (h : rtl.Adds kernel) (hne : framed ≠ [])
    (hflag : rtl.sourceComplete = false) (hdue : rtl.due <:+ before)
    (hnew : rtl.due.getLast? ≠ some framed) (hnone : rtl.pending = []) :
    let loaded := (rtl.offered framed).refill kernel framed
    (loaded.isOpen = true → loaded.Sound kernel framed (before ++ [framed])
        ∧ loaded.pending ≠ [])
      ∧ (loaded.closings = rtl.closings
        ∨ loaded.closings = rtl.closings ++ [.rejected]) := by
  obtain ⟨hpairs, hrate⟩ := RtlTcpResampler.resampleIq_pairs kernel framed
    rtlPendingSize rtl.resampler
  have hrefill := refill_new kernel hflag hnew hnone
  -- one frame more, resampled by the state the others left
  have hall : RtlTcpResampler.resampleAll kernel (rtl.due ++ [framed])
      (.reset rtl.resampler.outputRate)
      = ((rtl.outputs kernel).1
          ++ [(rtl.resampler.resampleIq kernel framed rtlPendingSize).1],
        (rtl.resampler.resampleIq kernel framed rtlPendingSize).2) := by
    rw [RtlTcpResampler.resampleAll_append]
    change ((rtl.outputs kernel).1
      ++ [((rtl.outputs kernel).2.resampleIq kernel framed rtlPendingSize).1],
      ((rtl.outputs kernel).2.resampleIq kernel framed rtlPendingSize).2) = _
    rw [← h.resampler]
  have hbytes := h.bytes
  have heven := h.even
  rw [remaining_of_pending hnone] at hbytes heven
  revert hrefill
  generalize rtl.resampler.resampleIq kernel framed rtlPendingSize = resampled
    at *
  intro hrefill
  dsimp only at hrefill
  rw [hrefill]
  by_cases hempty : resampled.1 = []
  · rw [if_pos hempty]
    exact ⟨fun hopen => absurd hopen (by simp [closed]), Or.inr rfl⟩
  rw [if_neg hempty]
  have houtputs : (rtl.loaded framed resampled).outputs kernel
      = ((rtl.outputs kernel).1 ++ [resampled.1], resampled.2) := by
    rw [outputs, loaded, hrate, hall]
  refine ⟨fun _ => ⟨⟨⟨?_, ?_, ?_⟩, ?_, fun _ => ⟨hne, ?_, ?_, ?_, hflag⟩,
    fun _ _ hnil => absurd hnil hempty⟩, hempty⟩, Or.inl rfl⟩
  · rw [houtputs]
    rfl
  · rw [houtputs, List.flatten_append, ← hbytes]
    simp [remaining, loaded]
  · simpa [remaining, loaded] using heven.add hpairs
  · obtain ⟨rest, hrest⟩ := hdue
    exact ⟨rest, by rw [loaded, ← hrest, List.append_assoc]⟩
  · exact List.length_pos_of_ne_nil hempty
  · rw [loaded, List.getLast?_append]
    rfl
  · rw [houtputs, List.getLast?_append]
    rfl

/-! ## Sending -/

/-- **Ready for a frame**: the client has bytes of it pending, or was not
offered it yet. -/
inductive Ready (kernel : RtlKernel) (rtl : RtlClient) (framed : List UInt8)
    (before : List (List UInt8)) : Prop where
  | pending (sound : rtl.Sound kernel framed (before ++ [framed]))
      (pending : rtl.pending ≠ [])
  | new (adds : rtl.Adds kernel) (flag : rtl.sourceComplete = false)
      (due : rtl.due <:+ before) (new : rtl.due.getLast? ≠ some framed)
      (pending : rtl.pending = [])

/-- A client that is ready has the frame loaded then, or is closed. -/
theorem Ready.load (h : rtl.Ready kernel framed before) (hne : framed ≠ []) :
    let loaded := (rtl.offered framed).refill kernel framed
    (loaded.isOpen = true → loaded.Sound kernel framed (before ++ [framed])
        ∧ loaded.pending ≠ [])
      ∧ (loaded.closings = rtl.closings
        ∨ loaded.closings = rtl.closings ++ [.rejected]) := by
  cases h with
  | new hadds hflag hdue hnew hnone => exact hadds.load hne hflag hdue hnew hnone
  | pending hsound hpending =>
    have hoffered : rtl.offered framed = rtl :=
      if_pos (hsound.pending hpending).2.due
    have hrefill : rtl.refill kernel framed = rtl := if_neg (by
      rw [List.isEmpty_eq_false_iff.mpr hpending, Bool.and_false]
      exact Bool.false_ne_true)
    intro loaded
    have hloaded : loaded = rtl := by
      dsimp only [loaded]
      rw [hoffered, hrefill]
    rw [hloaded]
    exact ⟨fun _ => ⟨hsound, hpending⟩, Or.inl rfl⟩

/-- Bytes of the pending frame go out. -/
theorem Sound.sent (h : rtl.Sound kernel framed encoded)
    (hpending : rtl.pending ≠ []) {n : ℕ} (hn : n ≤ rtl.remaining.length) :
    (rtl.sent n).Sound kernel framed encoded
      ∧ (rtl.pending.length ≤ rtl.pendingOffset + n →
        (rtl.sent n).pending = []) := by
  obtain ⟨hne, hp⟩ := h.pending hpending
  have hbytes := h.bytes
  have heven := h.even
  unfold RtlClient.sent
  extract_lets rtl'
  have hremaining : rtl'.remaining = rtl.remaining.drop n := by
    rw [remaining, remaining, List.drop_drop]
  split
  · rename_i hless
    have hless : rtl.pendingOffset + n < rtl.pending.length := hless
    refine ⟨⟨⟨h.resampler, ?_, ?_⟩, h.due, fun _ => ⟨hne, hless, hp.due,
      hp.output, hp.incomplete⟩, h.complete⟩, fun hall => by omega⟩
    · change rtl.sinceReset ++ rtl.remaining.take n ++ rtl'.remaining = _
      rw [hremaining, List.append_assoc, List.take_append_drop]
      exact hbytes
    · change Even ((rtl.total ++ rtl.remaining.take n).length
        + rtl'.remaining.length)
      rw [hremaining, List.length_append, List.length_take, List.length_drop,
        Nat.min_eq_left hn]
      convert heven using 1
      omega
  · rename_i hall
    have hall : ¬ rtl.pendingOffset + n < rtl.pending.length := hall
    have htake : rtl.remaining.take n = rtl.remaining := by
      refine List.take_of_length_le ?_
      rw [remaining, List.length_drop]
      omega
    refine ⟨⟨⟨h.resampler, ?_, ?_⟩, h.due, fun hno => absurd rfl hno,
      fun _ _ _ => rfl⟩, fun _ => rfl⟩
    · change rtl.sinceReset ++ rtl.remaining.take n ++ [] = _
      rw [htake, List.append_nil]
      exact hbytes
    · change Even ((rtl.total ++ rtl.remaining.take n).length + 0)
      rw [htake, List.length_append]
      exact heven

/-- Another reason to be closed. -/
theorem WellClosed.append {rtl' : RtlClient} {reason : RtlClosing}
    (h : rtl.WellClosed)
    (hclosings : rtl'.closings = rtl.closings ++ [reason])
    (hreason : reason = .rejected ∨ ∃ n, 0 < n ∧ reason = .sendFailed n) :
    rtl'.WellClosed := by
  intro other hother
  rw [hclosings] at hother
  rcases List.mem_append.mp hother with hother | hother
  · exact h other hother
  · exact List.mem_singleton.mp hother ▸ hreason

/-- No other reason to be closed. -/
theorem WellClosed.congr {rtl' : RtlClient} (h : rtl.WellClosed)
    (hclosings : rtl'.closings = rtl.closings) : rtl'.WellClosed := by
  rw [WellClosed, hclosings]
  exact h

/-- **A call of the writer** finds a client that is ready, and leaves it
sound: where it reports nothing to wait for, the client has all of the
frame. -/
theorem Ready.serve (h : rtl.Ready kernel framed before) (hne : framed ≠ [])
    (hclosed : rtl.WellClosed) (answer : SendAnswer) :
    ((rtl.serve kernel framed answer).2.isOpen = true →
        (rtl.serve kernel framed answer).2.Sound kernel framed
            (before ++ [framed])
          ∧ ((rtl.serve kernel framed answer).1.incomplete = false →
            (rtl.serve kernel framed answer).2.pending = []))
      ∧ (rtl.serve kernel framed answer).2.WellClosed := by
  obtain ⟨hloaded, hclosings⟩ := h.load hne
  have hwell : ((rtl.offered framed).refill kernel framed).WellClosed := by
    rcases hclosings with hsame | hrejected
    · exact hclosed.congr hsame
    · exact hclosed.append hrejected (Or.inl rfl)
  unfold RtlClient.serve
  split
  · rename_i hno
    have hno : rtl.isOpen = false := by simpa using hno
    exact ⟨fun hopen => absurd (hno.symm.trans hopen) (by simp), hclosed⟩
  extract_lets rtl'
  split
  · rename_i hno
    have hno : rtl'.isOpen = false := by simpa using hno
    exact ⟨fun hopen => absurd (hno.symm.trans hopen) (by simp), hwell⟩
  rename_i hopen
  obtain ⟨hsound, hpending⟩ := hloaded (by simpa using hopen)
  split
  · exact ⟨fun _ => ⟨hsound, by simp⟩, hwell⟩
  · rename_i n hanswer
    have hn := SendAnswer.le_of_offered hanswer
    obtain ⟨hsent, hall⟩ := hsound.sent hpending hn
    refine ⟨fun _ => ⟨hsent, fun hdone => hall ?_⟩, hwell.congr ?_⟩
    · simpa using hdone
    · unfold RtlClient.sent
      dsimp only
      split
      · rfl
      · rfl
  · refine ⟨fun hopen => absurd (show false = true from hopen) (by simp),
      hwell.append rfl (Or.inr ⟨_, ?_, rfl⟩)⟩
    have := (hsound.pending hpending).2.offset
    rw [remaining, List.length_drop]
    exact Nat.sub_pos_of_lt this

/-- A reason to close a client is not forgotten when it is served. -/
theorem mem_closings_serve {answer : SendAnswer} {reason : RtlClosing}
    (h : reason ∈ rtl.closings) :
    reason ∈ (rtl.serve kernel framed answer).2.closings := by
  have hoffered : (rtl.offered framed).closings = rtl.closings := by
    unfold offered
    split
    · rfl
    · rfl
  have hrefill : reason
      ∈ ((rtl.offered framed).refill kernel framed).closings := by
    unfold refill
    dsimp only
    split
    · split
      · exact List.mem_append_left _ (hoffered ▸ h)
      · exact hoffered ▸ h
    · exact hoffered ▸ h
  unfold serve
  split
  · exact h
  extract_lets rtl'
  split
  · exact hrefill
  split
  · exact hrefill
  · unfold RtlClient.sent
    dsimp only
    split
    · exact hrefill
    · exact hrefill
  · exact List.mem_append_left _ hrefill

/-- A client that has all of the frame, and nothing pending, is offered no
bytes, and that is taken for the end of its connection. -/
theorem mem_closings_of_complete {answer : SendAnswer}
    (hopen : rtl.isOpen = true) (hflag : rtl.sourceComplete = true)
    (hnone : rtl.pending = []) :
    .sendFailed 0 ∈ (rtl.serve kernel framed answer).2.closings := by
  have hoffered : (rtl.offered framed).isOpen = true
      ∧ (rtl.offered framed).sourceComplete = true
      ∧ (rtl.offered framed).remaining = [] := by
    unfold offered
    split
    · exact ⟨hopen, hflag, remaining_of_pending hnone⟩
    · exact ⟨hopen, hflag, remaining_of_pending hnone⟩
  have hrefill : (rtl.offered framed).refill kernel framed
      = rtl.offered framed := if_neg (by simp [hoffered.2.1])
  have hanswer : answer.offered 0 = .sent 0 := by
    cases answer with
    | sent n => rw [SendAnswer.offered, Nat.min_zero]
    | wouldBlock => rfl
    | failed => rfl
  unfold serve
  simp only [hopen, hrefill, hoffered.1, hoffered.2.2, List.length_nil, hanswer]
  exact List.mem_append_right _ (List.mem_singleton_self _)

/-! ## The frames it was offered -/

/-- **The client follows** what was encoded: it was offered everything from
the first frame noted on, and nothing where none was noted. -/
def Follows (rtl : RtlClient) (encoded : List (List UInt8)) : Prop :=
  (rtl.first = none ∧ rtl.due = [])
    ∨ ∃ first < encoded.length,
      rtl.first = some first ∧ rtl.due = encoded.drop first

/-- **The client awaits a frame**: once it is offered that one, it follows. -/
def Awaits (rtl : RtlClient) (framed : List UInt8)
    (before : List (List UInt8)) : Prop :=
  ∃ first ≤ before.length, rtl.first = some first
    ∧ (rtl.offered framed).due = (before ++ [framed]).drop first

/-- A client that has one noted already has no other noted. -/
theorem noted_of_some {first : ℕ} (h : rtl.first = some first)
    (frame : Option ℕ) : rtl.noted frame = rtl := by
  rw [noted, h]
  exact congrArg (fun first => { rtl with first := first }) h.symm

/-- With no frame to note, a client is as it was. -/
theorem noted_none (rtl : RtlClient) : rtl.noted none = rtl := by
  cases hfirst : rtl.first with
  | none =>
    rw [noted, hfirst]
    exact congrArg (fun first => { rtl with first := first }) hfirst.symm
  | some first => exact noted_of_some hfirst none

/-- A client that follows the frames before awaits one that differs from the
last of them. -/
theorem Follows.awaits_new (h : rtl.Follows before)
    (hdiffer : before.getLast? ≠ some framed) :
    (rtl.noted (some before.length)).Awaits framed before := by
  have hoffered (rtl : RtlClient) (hlast : rtl.due.getLast? ≠ some framed) :
      (rtl.offered framed).due = rtl.due ++ [framed] := by
    rw [offered, if_neg hlast]
  rcases h with ⟨hfirst, hdue⟩ | ⟨first, hless, hfirst, hdue⟩
  · refine ⟨before.length, le_rfl, by rw [noted, hfirst]; rfl, ?_⟩
    rw [hoffered _ (by simp [noted, hdue]), List.drop_left]
    exact congrArg (· ++ [framed]) hdue
  · rw [noted_of_some hfirst]
    refine ⟨first, hless.le, hfirst, ?_⟩
    have hlast : rtl.due.getLast? ≠ some framed := by
      rw [hdue, List.getLast?_drop, if_neg (by omega)]
      exact hdiffer
    rw [hoffered rtl hlast, hdue, List.drop_append_of_le_length hless.le]

/-- A client that follows the frames up to the pending one awaits it once
more. -/
theorem Follows.awaits_again (h : rtl.Follows (before ++ [framed])) :
    (rtl.noted (some before.length)).Awaits framed before := by
  rcases h with ⟨hfirst, hdue⟩ | ⟨first, hless, hfirst, hdue⟩
  · refine ⟨before.length, le_rfl, by rw [noted, hfirst]; rfl, ?_⟩
    rw [offered, if_neg (by simp [noted, hdue]), List.drop_left]
    exact congrArg (· ++ [framed]) hdue
  · rw [noted_of_some hfirst]
    have hle : first ≤ before.length := by
      rw [List.length_append, List.length_singleton] at hless
      omega
    refine ⟨first, hle, hfirst, ?_⟩
    rw [offered, if_pos, hdue]
    rw [hdue, List.drop_append_of_le_length hle, List.getLast?_append]
    rfl

/-- What a call of the writer leaves as it is offered. -/
theorem due_serve (kernel : RtlKernel) (framed : List UInt8)
    (answer : SendAnswer) (hopen : rtl.isOpen = true) :
    (rtl.serve kernel framed answer).2.due = (rtl.offered framed).due
      ∧ (rtl.serve kernel framed answer).2.first = rtl.first := by
  have hoffered : (rtl.offered framed).first = rtl.first := by
    unfold offered
    split
    · rfl
    · rfl
  have hrefill : ((rtl.offered framed).refill kernel framed).due
        = (rtl.offered framed).due
      ∧ ((rtl.offered framed).refill kernel framed).first = rtl.first := by
    rw [← hoffered]
    unfold refill
    dsimp only
    split
    · split
      · exact ⟨rfl, rfl⟩
      · exact ⟨rfl, rfl⟩
    · exact ⟨rfl, rfl⟩
  unfold serve
  rw [hopen]
  extract_lets rtl'
  simp only [Bool.not_true, Bool.false_eq_true, if_false]
  split
  · exact hrefill
  split
  · exact hrefill
  · unfold RtlClient.sent
    dsimp only
    split
    · exact hrefill
    · exact hrefill
  · exact hrefill

/-- **A call of the writer** leaves a client that awaits a frame following. -/
theorem Awaits.serve (h : rtl.Awaits framed before) (kernel : RtlKernel)
    (answer : SendAnswer) (hopen : rtl.isOpen = true) :
    (rtl.serve kernel framed answer).2.Follows (before ++ [framed])
      ∧ (rtl.serve kernel framed answer).2.first ≠ none := by
  obtain ⟨first, hle, hfirst, hdue⟩ := h
  obtain ⟨hserved, hsame⟩ := due_serve kernel framed answer hopen
  rw [hfirst] at hsame
  refine ⟨Or.inr ⟨first, ?_, hsame, hserved.trans hdue⟩, by simp [hsame]⟩
  rw [List.length_append, List.length_singleton]
  omega

end RtlClient

/-! ## The publisher's frames -/

namespace IqPublisher

variable {p : IqPublisher}

/-- **No two frames in a row are the same**, since their numbers differ. -/
theorem Sound.encode_ne (h : p.Sound) {frames : List IqFrame} {frame : IqFrame}
    (hframes : p.frames = frames ++ [frame]) :
    (frames.map IqFrame.encode).getLast? ≠ some frame.encode := by
  intro hlast
  rw [List.getLast?_map] at hlast
  obtain ⟨other, hother, hsame⟩ := Option.map_eq_some_iff.mp hlast
  obtain ⟨earlier, rfl⟩ := List.getLast?_eq_some_iff.mp hother
  have hsequence (f : IqFrame) (hf : f ∈ p.frames) :
      ByteOrder.ofBe32 (f.encode.drop 8) = f.sequence := by
    have hle := (h.fits f hf).le
    have hmax := p.samples_le
    refine ofBe32_encodeIqFrame ?_
    rw [publisherBufferSize, iqFrameHeaderSize]
    omega
  have hequal : other.sequence = frame.sequence := by
    rw [← hsequence other (by simp [hframes]),
      ← hsequence frame (by simp [hframes]), hsame]
  have hfirst := h.sequences earlier.length (by simp [hframes])
  have hsecond := h.sequences (earlier.length + 1) (by simp [hframes])
  have hnumbers : UInt32.ofNat earlier.length
      = UInt32.ofNat (earlier.length + 1) := by
    rw [← hfirst, ← hsecond]
    simpa [hframes] using hequal
  rw [UInt32.ofNat_add] at hnumbers
  grind

/-- A frame that is prepared is the last encoded, and differs from the one
before. -/
theorem Sound.prepared (h : p.Sound) (hoffset : p.pendingOffset = 0)
    (hready : p.prepareFrame.1 = true) :
    p.prepareFrame.2.pendingOffset = 0
      ∧ p.prepareFrame.2.pending ≠ []
      ∧ p.prepareFrame.2.frames.map IqFrame.encode
        = p.prepareFrame.2.finished.map IqFrame.encode
          ++ [p.prepareFrame.2.pending]
      ∧ (p.prepareFrame.2.finished.map IqFrame.encode).getLast?
        ≠ some p.prepareFrame.2.pending
      ∧ (p.prepareFrame.2 = p ∨ p.pending = []
        ∧ p.prepareFrame.2.finished = p.frames) := by
  rcases h.prepareFrame_cases hoffset with
    hidle | ⟨-, hzero, hfinished, hne, hsame⟩
  · rw [hidle] at hready
    exact absurd hready (by simp)
  have hsound := h.prepareFrame.1
  rcases hsound.frames_eq with ⟨hnone, -⟩ | ⟨frame, hpending, -, hframes⟩
  · exact absurd hnone hne
  refine ⟨hzero, hne, ?_, ?_, ?_⟩
  · rw [hframes, List.map_append, hpending]
    rfl
  · rw [hpending]
    exact hsound.encode_ne hframes
  · refine hsame.imp id fun hnone => ⟨hnone, ?_⟩
    rw [hfinished, finished_of_none hnone]

end IqPublisher

/-! ## The client and the publisher -/

namespace Receive

variable {kernel : RtlKernel} {answers : FanoutAnswers} {r : Receive}

/-- **The `rtl_tcp` side agrees with the publisher**, while there is a
client. -/
structure RtlAgrees (kernel : RtlKernel) (r : Receive) : Prop where
  closed : r.clients.rtl.WellClosed
  sound : r.clients.rtl.isOpen = true →
    r.clients.rtl.Sound kernel r.publisher.pending
      (r.publisher.frames.map IqFrame.encode)

/-- A client whose flag is clear is ready for what is prepared. -/
theorem RtlAgrees.ready (h : r.RtlAgrees kernel) (hr : r.Sound)
    (hopen : r.clients.rtl.isOpen = true)
    (hflag : r.clients.rtl.sourceComplete = false)
    (hready : r.publisher.prepareFrame.1 = true) :
    r.clients.rtl.Ready kernel r.publisher.prepareFrame.2.pending
      (r.publisher.prepareFrame.2.finished.map IqFrame.encode) := by
  have hsound := h.sound hopen
  obtain ⟨-, hne, hencoded, hdiffer, hsame⟩ :=
    hr.publisher.prepared hr.offset hready
  revert hne hencoded hdiffer hsame
  generalize r.publisher.prepareFrame.2 = q
  intro hne hencoded hdiffer hsame
  -- the frame was pending before, or is new
  rcases hsame with rfl | ⟨hnone, hfinished⟩
  · by_cases hpending : r.clients.rtl.pending = []
    · have hlast : r.clients.rtl.due.getLast? ≠ some r.publisher.pending :=
        fun hlast => by
          have := hsound.complete hne hlast hpending
          rw [hflag] at this
          exact absurd this (by simp)
      have hdue : r.clients.rtl.due = [] := by
        obtain ⟨rest, hrest⟩ := hsound.due
        by_contra hdue
        refine hlast ?_
        rw [← List.getLast?_append_of_ne_nil rest hdue, hrest, hencoded,
          List.getLast?_append]
        rfl
      exact .new hsound.toAdds hflag (hdue ▸ List.nil_suffix) hlast hpending
    · exact .pending (hencoded ▸ hsound) hpending
  · have hpending : r.clients.rtl.pending = [] := by
      by_contra hpending
      exact (hsound.pending hpending).1 hnone
    have hdue := hsound.due
    rw [← hfinished] at hdue
    refine .new hsound.toAdds hflag hdue (fun hlast => hdiffer ?_) hpending
    obtain ⟨rest, hrest⟩ := hdue
    have hsome : r.clients.rtl.due ≠ [] := fun hnil => by
      rw [hnil] at hlast
      exact absurd hlast (by simp)
    rw [← hrest, List.getLast?_append_of_ne_nil rest hsome, hlast]

/-- **A pump keeps the two in agreement**, where the client has not all of
the frame already. After a frame that went out it has all of it, and the
flag is clear. -/
theorem RtlAgrees.pump (h : r.RtlAgrees kernel) (answers : FanoutAnswers)
    (hr : r.Sound)
    (hflag : r.clients.rtl.isOpen = true → r.publisher.prepareFrame.1 = true →
      r.clients.rtl.sourceComplete = false) :
    (r.pump kernel answers).2.RtlAgrees kernel
      ∧ ((r.pump kernel answers).1 = .ok →
        (r.pump kernel answers).2.clients.rtl.sourceComplete = false) := by
  rcases pump_cases kernel answers hr.publisher hr.offset with
    ⟨-, hidle⟩ | ⟨hready, hpump⟩
  · rw [hidle]
    exact ⟨h, by simp⟩
  obtain ⟨hzero, hne, hencoded, -, -⟩ :=
    hr.publisher.prepared hr.offset hready
  -- the writer finds a client that is ready, or none
  have hserved : ((r.clients.rtl.serve kernel
        r.publisher.prepareFrame.2.pending answers.rtl).2.isOpen = true →
      (r.clients.rtl.serve kernel r.publisher.prepareFrame.2.pending
          answers.rtl).2.Sound kernel r.publisher.prepareFrame.2.pending
          (r.publisher.prepareFrame.2.frames.map IqFrame.encode)
        ∧ ((r.clients.rtl.serve kernel r.publisher.prepareFrame.2.pending
            answers.rtl).1.incomplete = false →
          (r.clients.rtl.serve kernel r.publisher.prepareFrame.2.pending
            answers.rtl).2.pending = []))
      ∧ (r.clients.rtl.serve kernel r.publisher.prepareFrame.2.pending
          answers.rtl).2.WellClosed := by
    by_cases hopen : r.clients.rtl.isOpen = true
    · rw [hencoded]
      exact (h.ready hr hopen (hflag hopen hready) hready).serve hne h.closed
        answers.rtl
    · have hsame : r.clients.rtl.serve kernel
          r.publisher.prepareFrame.2.pending answers.rtl
          = ({}, r.clients.rtl) := if_pos (by simpa using hopen)
      rw [hsame]
      exact ⟨fun hopen' => absurd hopen' hopen, h.closed⟩
  revert hpump hne hserved
  generalize r.publisher.prepareFrame.2 = q at *
  intro hpump hne hserved
  obtain ⟨hsound, hclosed⟩ := hserved
  -- nobody is left, somebody lags behind, or the frame is over
  rcases hpump with ⟨hpump, hrtl, -⟩ | ⟨hpump, -⟩ | ⟨hpump, hrtl, -⟩
  · rw [hpump]
    refine ⟨⟨hclosed, fun hopen => ?_⟩, by simp⟩
    have hgone := RtlClient.isOpen_serve hrtl
    exact absurd (hgone.symm.trans hopen) (by simp)
  · rw [hpump]
    exact ⟨⟨hclosed, fun hopen => (hsound hopen).1⟩, by simp⟩
  · rw [hpump]
    refine ⟨⟨hclosed, fun hopen => ?_⟩, fun _ => rfl⟩
    obtain ⟨hserved, hall⟩ := hsound hopen
    obtain ⟨hnone, -, -, hframes⟩ := IqPublisher.advanced_whole hzero
    have hpending := hall hrtl
    change RtlClient.Sound kernel _ ((q.accepted q.pending).advanced
      q.pending.length).pending (((q.accepted q.pending).advanced
      q.pending.length).frames.map IqFrame.encode)
    rw [hnone, hframes]
    exact ⟨⟨hserved.resampler, hserved.bytes, hserved.even⟩, hserved.due,
      fun hno => absurd hpending hno, fun hno => absurd rfl hno⟩

/-- The block that publishes keeps the two in agreement. -/
theorem RtlAgrees.publishFrom (h : r.RtlAgrees kernel) (hr : r.Sound)
    (hflag : r.clients.rtl.isOpen = true → r.publisher.prepareFrame.1 = true →
      r.clients.rtl.sourceComplete = false)
    (answers : ℕ → FanoutAnswers) (turns turn : ℕ) :
    (publishFrom kernel answers turns turn r).RtlAgrees kernel := by
  induction turns generalizing r turn with
  | zero => exact h
  | succ turns ih =>
    obtain ⟨hpump, hclear⟩ := h.pump (answers turn) hr hflag
    unfold Receive.publishFrom
    dsimp only
    split
    · rename_i hok
      exact ih hpump hr.pump (fun _ _ => hclear hok) _
    · exact hpump

/-! ## The frames pumped for the client -/

/-- **The `rtl_tcp` client follows** what the publisher encoded, while there
is one. -/
def RtlFollows (r : Receive) : Prop :=
  r.clients.rtl.isOpen = true →
    r.clients.rtl.Follows (r.publisher.frames.map IqFrame.encode)

/-- **The `rtl_tcp` client awaits** what is pumped next. -/
def RtlAwaits (r : Receive) : Prop :=
  r.clients.rtl.isOpen = true → r.publisher.prepareFrame.1 = true →
    r.clients.rtl.Awaits r.publisher.prepareFrame.2.pending
      (r.publisher.prepareFrame.2.finished.map IqFrame.encode)

/-- Once the frame that is pumped next is noted, a client that follows awaits
it. -/
theorem RtlFollows.awaits (h : r.RtlFollows) (hr : r.Sound) :
    r.noted.RtlAwaits := by
  intro hopen hready
  have hfollows := h hopen
  have hready : r.publisher.prepareFrame.1 = true := hready
  obtain ⟨-, -, hencoded, hdiffer, hsame⟩ :=
    hr.publisher.prepared hr.offset hready
  change (r.clients.rtl.noted r.nextFrame).Awaits
    r.publisher.prepareFrame.2.pending
    (r.publisher.prepareFrame.2.finished.map IqFrame.encode)
  rw [nextFrame, if_pos hready, ← List.length_map IqFrame.encode]
  rcases hsame with hsame | ⟨-, hfinished⟩
  · refine RtlClient.Follows.awaits_again ?_
    rw [← hencoded, hsame]
    exact hfollows
  · refine RtlClient.Follows.awaits_new ?_ hdiffer
    rw [hfinished]
    exact hfollows

/-- A pump leaves a client following that awaited the frame. -/
theorem RtlAwaits.pump (h : r.RtlAwaits) (kernel : RtlKernel) (hr : r.Sound)
    (answers : FanoutAnswers) (hready : r.publisher.prepareFrame.1 = true) :
    (r.pump kernel answers).2.RtlFollows
      ∧ ((r.pump kernel answers).2.clients.rtl.isOpen = true →
        (r.pump kernel answers).2.clients.rtl.first ≠ none) := by
  rcases pump_cases kernel answers hr.publisher hr.offset with
    ⟨hidle, -⟩ | ⟨-, hpump⟩
  · rw [hready] at hidle
    exact absurd hidle (by simp)
  obtain ⟨hzero, hne, hencoded, -, -⟩ :=
    hr.publisher.prepared hr.offset hready
  have hserved (hopen : (r.clients.rtl.serve kernel
        r.publisher.prepareFrame.2.pending answers.rtl).2.isOpen = true) :
      (r.clients.rtl.serve kernel r.publisher.prepareFrame.2.pending
          answers.rtl).2.Follows
          (r.publisher.prepareFrame.2.frames.map IqFrame.encode)
        ∧ (r.clients.rtl.serve kernel r.publisher.prepareFrame.2.pending
          answers.rtl).2.first ≠ none := by
    have hopen' : r.clients.rtl.isOpen = true :=
      RtlClient.isOpen_of_serve hopen
    rw [hencoded]
    exact (h hopen' hready).serve kernel answers.rtl hopen'
  revert hpump hserved
  generalize r.publisher.prepareFrame.2 = q at *
  intro hpump hserved
  rcases hpump with ⟨hpump, hrtl, -⟩ | ⟨hpump, -⟩ | ⟨hpump, -, -⟩
  · have hgone := RtlClient.isOpen_serve hrtl
    rw [hpump]
    exact ⟨fun hopen => absurd (hgone.symm.trans hopen) (by simp),
      fun hopen => absurd (hgone.symm.trans hopen) (by simp)⟩
  · rw [hpump]
    exact ⟨fun hopen => (hserved hopen).1, fun hopen => (hserved hopen).2⟩
  · rw [hpump]
    refine ⟨fun hopen => ?_, fun hopen => (hserved hopen).2⟩
    obtain ⟨-, -, -, hframes⟩ := IqPublisher.advanced_whole hzero
    change RtlClient.Follows _ (((q.accepted q.pending).advanced
      q.pending.length).frames.map IqFrame.encode)
    rw [hframes]
    exact (hserved hopen).1

/-- A turn of the block leaves the client following, and after a frame that
went out it awaits the next. -/
theorem RtlAwaits.turn (h : r.RtlAwaits) (kernel : RtlKernel) (hr : r.Sound)
    (hidle : r.publisher.prepareFrame.1 = false → r.RtlFollows)
    (answers : FanoutAnswers) :
    (r.pump kernel answers).2.RtlFollows
      ∧ ((r.pump kernel answers).1 = .ok →
        (r.pump kernel answers).2.RtlAwaits) := by
  cases hready : r.publisher.prepareFrame.1 with
  | false =>
    rcases pump_cases kernel answers hr.publisher hr.offset with
      ⟨-, hpump⟩ | ⟨hready', -⟩
    · rw [hpump]
      exact ⟨hidle hready, by simp⟩
    · exact absurd (hready.symm.trans hready') (by simp)
  | true =>
    obtain ⟨hfollows, hfirst⟩ := h.pump kernel hr answers hready
    refine ⟨hfollows, fun _ hopen hready => ?_⟩
    -- it was offered a frame, so that nothing is noted any more
    obtain ⟨first, hsome⟩ := Option.ne_none_iff_exists'.mp (hfirst hopen)
    have hawaits := hfollows.awaits hr.pump hopen hready
    rwa [← RtlClient.noted_of_some hsome]

/-- The turns of the block that publishes leave the client following. -/
theorem RtlAwaits.publishFrom (h : r.RtlAwaits) (hr : r.Sound)
    (hidle : r.publisher.prepareFrame.1 = false → r.RtlFollows)
    (answers : ℕ → FanoutAnswers) (turns turn : ℕ) :
    (publishFrom kernel answers (turns + 1) turn r).RtlFollows := by
  induction turns generalizing r turn with
  | zero =>
    have hturn := (h.turn kernel hr hidle (answers turn)).1
    rw [Receive.publishFrom]
    split
    · exact hturn
    · exact hturn
  | succ turns ih =>
    obtain ⟨hturn, hnext⟩ :=
      h.turn kernel hr hidle (answers turn)
    rw [Receive.publishFrom]
    split
    · rename_i hok
      exact ih (hnext hok) hr.pump (fun _ => hturn) _
    · exact hturn

/-- **Every step leaves the client following.** -/
theorem RtlFollows.step (h : r.RtlFollows) (hr : r.Sound)
    (event : ReceiveEvent) : (r.step kernel event).RtlFollows := by
  cases event with
  | samples samples => exact h
  | cleared => exact h
  | openIqStream headerSent =>
    have hrtl : (r.openIqStream headerSent).clients.rtl = r.clients.rtl :=
      rtl_openIqStream headerSent r
    intro hopen
    change (r.openIqStream headerSent).clients.rtl.isOpen = true at hopen
    rw [hrtl] at hopen
    have hconnected : r.clients.connected = true := by
      simp [IqClients.connected, hopen]
    change (r.openIqStream headerSent).clients.rtl.Follows
      ((r.openIqStream headerSent).publisher.frames.map IqFrame.encode)
    rw [hrtl, publisher_openIqStream hconnected]
    exact h hopen
  | acceptRtl headerSent =>
    unfold Receive.step Receive.acceptRtl
    dsimp only
    split
    · exact fun _ => Or.inl ⟨rfl, rfl⟩
    · exact h
  | setSampleRate rate =>
    unfold Receive.step
    dsimp only
    split
    · intro hopen
      change (r.clients.rtl.setSampleRate rate).Follows _
      unfold RtlClient.setSampleRate
      split
      · exact Or.inl ⟨rfl, rfl⟩
      · rename_i hrtl _
        exact h hrtl
    · exact h
  | rtlDisconnected =>
    unfold Receive.step
    dsimp only
    split
    · exact fun hopen => absurd (show false = true from hopen) (by simp)
    · exact h
  | abandoned =>
    intro hopen
    change r.clients.rtl.Follows
      (r.publisher.disconnect.frames.map IqFrame.encode)
    rw [IqPublisher.frames_disconnect]
    exact h hopen
  | publish answers =>
    change (r.publish kernel answers).RtlFollows
    unfold Receive.publish
    split
    · exact h
    · refine (h.awaits hr).publishFrom hr.noted (fun hready => ?_) _ _ _
      have hready : r.publisher.prepareFrame.1 = false := hready
      change r.clients.rtl.isOpen = true →
        (r.clients.rtl.noted r.nextFrame).Follows _
      rw [nextFrame, if_neg (by simp [hready]), RtlClient.noted_none]
      exact h

/-! ## Bytes and frames -/

/-- **What must not meet the `rtl_tcp` client**: a pump with a frame to
write while it has all of the pending one, another rate between the bytes of
a pair, and a recovery while it has bytes pending. -/
def Spares (r : Receive) : ReceiveEvent → Prop
  | .publish _ => r.clients.rtl.isOpen = true →
      r.clients.rtl.sourceComplete = true →
      r.publisher.pending = [] ∧ r.publisher.source.contents = []
  | .setSampleRate rate => r.clients.rtl.isOpen = true →
      rtlTcpInputRate ≤ rate → rate ≤ rtlTcpMaxRate →
      Even r.clients.rtl.remaining.length
  | .abandoned => r.clients.rtl.isOpen = true → r.clients.rtl.pending = []
  | _ => True

/-- The client is sound for another state of the publisher with the same
frames, where nothing is pending before the client, or the same is. -/
theorem RtlAgrees.withPublisher (h : r.RtlAgrees kernel)
    {f : IqPublisher → IqPublisher}
    (hpending : (f r.publisher).pending = r.publisher.pending)
    (hframes : (f r.publisher).frames = r.publisher.frames) :
    (r.withPublisher f).RtlAgrees kernel where
  closed := h.closed
  sound hopen := by
    change r.clients.rtl.Sound kernel (f r.publisher).pending
      ((f r.publisher).frames.map IqFrame.encode)
    rw [hpending, hframes]
    exact h.sound hopen

/-- What is noted is no matter of the bytes. -/
theorem RtlAgrees.noted (h : r.RtlAgrees kernel) (frame : Option ℕ) :
    (r.withClients (·.withRtl (·.noted frame))).RtlAgrees kernel := by
  refine ⟨h.closed, fun hopen => ?_⟩
  have hsound := h.sound hopen
  exact ⟨⟨hsound.resampler, hsound.bytes, hsound.even⟩, hsound.due,
    fun hpending => have ⟨hne, hp⟩ := hsound.pending hpending
      ⟨hne, hp.offset, hp.due, hp.output, hp.incomplete⟩, hsound.complete⟩

/-- A client that was just accepted, or whose rate was just set, has nothing
to agree on. -/
theorem sound_reset {rtl : RtlClient} {framed : List UInt8}
    {encoded : List (List UInt8)} (rate : ℕ) (total : List UInt8)
    (flag isOpen : Bool) (heven : Even total.length) :
    ({ rtl.reset rate with
        isOpen := isOpen
        sourceComplete := flag
        total := total } : RtlClient).Sound kernel framed encoded where
  resampler := rfl
  bytes := rfl
  even := heven
  due := List.nil_suffix
  pending hno := absurd rfl hno
  complete _ hlast := absurd hlast (by simp [RtlClient.reset])

/-- Where nothing waits, no frame is prepared. -/
theorem prepareFrame_of_nothing (hpending : r.publisher.pending = [])
    (hcontents : r.publisher.source.contents = []) :
    r.publisher.prepareFrame = (false, r.publisher) := by
  rw [IqPublisher.prepareFrame, if_neg (by simp [hpending]),
    if_pos (by simp [hcontents])]

/-- **One step keeps the two in agreement**, as long as it spares the
client. -/
theorem RtlAgrees.step (h : r.RtlAgrees kernel) (hr : r.Sound)
    {event : ReceiveEvent} (hspares : r.Spares event) :
    (r.step kernel event).RtlAgrees kernel := by
  cases event with
  | samples samples => exact h.withPublisher rfl rfl
  | cleared => exact h.withPublisher rfl rfl
  | openIqStream headerSent =>
    by_cases hopen : r.clients.rtl.isOpen = true
    · -- somebody is connected, so that the stream goes on
      have hconnected : r.clients.connected = true := by
        simp [IqClients.connected, hopen]
      have hrtl : (r.openIqStream headerSent).clients.rtl = r.clients.rtl :=
        rtl_openIqStream headerSent r
      refine ⟨hrtl ▸ h.closed, fun _ => ?_⟩
      change ((r.openIqStream headerSent).clients.rtl).Sound kernel
        (r.openIqStream headerSent).publisher.pending
        ((r.openIqStream headerSent).publisher.frames.map IqFrame.encode)
      rw [hrtl, publisher_openIqStream hconnected]
      exact h.sound hopen
    · have hrtl : (r.openIqStream headerSent).clients.rtl = r.clients.rtl :=
        rtl_openIqStream headerSent r
      refine ⟨hrtl ▸ h.closed, fun hopen' => absurd ?_ hopen⟩
      exact (congrArg (·.isOpen) hrtl).symm.trans hopen'
  | acceptRtl headerSent =>
    unfold Receive.step Receive.acceptRtl
    dsimp only
    split
    · have hrtl : r.freshIfFirst.clients.rtl = r.clients.rtl :=
        congrArg (·.rtl) (clients_freshIfFirst r)
      refine ⟨?_, fun _ => sound_reset rtlTcpInputRate [] _ true ⟨0, rfl⟩⟩
      change r.freshIfFirst.clients.rtl.WellClosed
      rw [hrtl]
      exact h.closed
    · exact h
  | setSampleRate rate =>
    unfold Receive.step
    dsimp only
    split
    · rename_i hopen
      -- the bytes so far are pairs, so that the new rate begins with one
      have hset : (r.clients.rtl.setSampleRate rate).WellClosed
          ∧ (r.clients.rtl.setSampleRate rate).Sound kernel
            r.publisher.pending (r.publisher.frames.map IqFrame.encode) := by
        unfold RtlClient.setSampleRate
        split
        · rename_i hrate
          have heven := (h.sound hopen).even
          have hpairs := hspares hopen hrate.1 hrate.2
          exact ⟨h.closed, sound_reset rate r.clients.rtl.total false
            r.clients.rtl.isOpen ((Nat.even_add.mp heven).mpr hpairs)⟩
        · exact ⟨h.closed, h.sound hopen⟩
      exact ⟨hset.1, fun _ => hset.2⟩
    · exact h
  | rtlDisconnected =>
    unfold Receive.step
    dsimp only
    split
    · exact ⟨h.closed, fun hopen =>
        absurd (show false = true from hopen) (by simp)⟩
    · exact h
  | abandoned =>
    refine ⟨h.closed, fun hopen => ?_⟩
    have hopen : r.clients.rtl.isOpen = true := hopen
    have hsound := h.sound hopen
    have hnone := hspares hopen
    change r.clients.rtl.Sound kernel []
      (r.publisher.disconnect.frames.map IqFrame.encode)
    rw [IqPublisher.frames_disconnect]
    exact ⟨hsound.toAdds, hsound.due, fun hno => absurd hnone hno,
      fun hno => absurd rfl hno⟩
  | publish answers =>
    change (r.publish kernel answers).RtlAgrees kernel
    unfold Receive.publish
    split
    · exact h
    · refine (h.noted _).publishFrom hr.noted (fun hopen hready => ?_) _ _ _
      by_contra hflag
      have hflag : ¬ r.clients.rtl.sourceComplete = false := hflag
      obtain ⟨hpending, hcontents⟩ := hspares hopen (by simpa using hflag)
      have hready : r.publisher.prepareFrame.1 = true := hready
      rw [prepareFrame_of_nothing hpending hcontents] at hready
      exact absurd hready (by simp)

/-- The frames pumped since the `rtl_tcp` client came or its rate was set: the
publisher's, from the first one noted on. -/
def rtlFrames (r : Receive) : List IqFrame :=
  match r.clients.rtl.first with
  | none => []
  | some first => r.publisher.frames.drop first

/-- What those become at the client's rate, frame by frame. -/
def rtlOutputs (kernel : RtlKernel) (r : Receive) : List (List UInt8) :=
  (RtlTcpResampler.resampleAll kernel (r.rtlFrames.map IqFrame.encode)
    (.reset r.clients.rtl.resampler.outputRate)).1

/-- A recovery leaves those frames. -/
theorem rtlFrames_abandoned (r : Receive) :
    r.abandoned.rtlFrames = r.rtlFrames := by
  change (match r.clients.rtl.first with
    | none => []
    | some first => r.publisher.disconnect.frames.drop first) = _
  rw [IqPublisher.frames_disconnect]
  rfl

/-- **The law of the `rtl_tcp` client.** -/
structure RtlLaw (kernel : RtlKernel) (r : Receive) : Prop where
  /-- The writer closes it when a frame is rejected, or a send of some bytes
  fails. -/
  closed : ∀ reason ∈ r.clients.rtl.closings,
    reason = .rejected ∨ ∃ n, 0 < n ∧ reason = .sendFailed n
  /-- It was sent what every frame pumped since the rate was set becomes at
  that rate, once and in order, but for what is pending. -/
  sent : r.clients.rtl.isOpen = true →
    r.clients.rtl.sinceReset ++ r.clients.rtl.remaining
      = (r.rtlOutputs kernel).flatten
  /-- What is pending is of the last of them, which is pending at the
  publisher too. -/
  pending : r.clients.rtl.isOpen = true → r.clients.rtl.pending ≠ [] →
    r.rtlFrames.getLast?.map IqFrame.encode = some r.publisher.pending
      ∧ (r.rtlOutputs kernel).getLast? = some r.clients.rtl.pending
  /-- With no frame pending at the publisher it has all of them. -/
  whole : r.clients.rtl.isOpen = true → r.publisher.pending = [] →
    r.clients.rtl.sinceReset = (r.rtlOutputs kernel).flatten
  /-- All its bytes, with those pending, are pairs. -/
  even : r.clients.rtl.isOpen = true →
    Even (r.clients.rtl.total.length + r.clients.rtl.remaining.length)

/-- What a client that follows was offered are those frames. -/
theorem RtlFollows.due_eq (h : r.RtlFollows)
    (hopen : r.clients.rtl.isOpen = true) :
    r.clients.rtl.due = r.rtlFrames.map IqFrame.encode := by
  unfold rtlFrames
  rcases h hopen with ⟨hfirst, hdue⟩ | ⟨first, -, hfirst, hdue⟩
  · rw [hfirst, hdue]
    rfl
  · rw [hfirst, hdue]
    exact List.map_drop.symm

/-- What agrees and follows obeys the law. -/
theorem RtlAgrees.rtlLaw (h : r.RtlAgrees kernel) (hfollows : r.RtlFollows) :
    r.RtlLaw kernel := by
  have houtputs (hopen : r.clients.rtl.isOpen = true) :
      (r.clients.rtl.outputs kernel).1 = r.rtlOutputs kernel := by
    rw [RtlClient.outputs, hfollows.due_eq hopen]
    rfl
  refine ⟨h.closed, fun hopen => ?_, fun hopen hpending => ?_,
    fun hopen hnone => ?_, fun hopen => (h.sound hopen).even⟩
  · rw [← houtputs hopen]
    exact (h.sound hopen).bytes
  · have hp := ((h.sound hopen).pending hpending).2
    rw [← houtputs hopen, ← List.getLast?_map, ← hfollows.due_eq hopen]
    exact ⟨hp.due, hp.output⟩
  · have hpending : r.clients.rtl.pending = [] := by
      by_contra hpending
      exact ((h.sound hopen).pending hpending).1 hnone
    have hbytes := (h.sound hopen).bytes
    rw [RtlClient.remaining_of_pending hpending, List.append_nil] at hbytes
    rw [← houtputs hopen]
    exact hbytes

/-! ## Steps that do not spare the client -/

/-- Where no frame is prepared, nothing waits. -/
theorem nothing_of_idle (hr : r.Sound)
    (hidle : r.publisher.prepareFrame.1 = false) :
    r.publisher.pending = [] ∧ r.publisher.source.contents = [] := by
  obtain ⟨-, -, hcontents⟩ := hr.publisher.prepareFrame
  refine ⟨?_, (hcontents hidle).2⟩
  by_contra hpending
  have hready : r.publisher.prepareFrame = (true, r.publisher) :=
    if_pos (hr.offset ▸ List.length_pos_of_ne_nil hpending)
  rw [hready] at hidle
  exact Bool.false_ne_true hidle.symm

/-- What is pumped to a client is served to it. -/
theorem closings_pump (kernel : RtlKernel) (answers : FanoutAnswers)
    (hr : r.Sound) (hready : r.publisher.prepareFrame.1 = true) :
    (r.pump kernel answers).2.clients.rtl.closings
      = (r.clients.rtl.serve kernel r.publisher.prepareFrame.2.pending
          answers.rtl).2.closings := by
  rcases pump_cases kernel answers hr.publisher hr.offset with
    ⟨hidle, -⟩ | ⟨-, ⟨hpump, -⟩ | ⟨hpump, -⟩ | ⟨hpump, -⟩⟩
  · exact absurd (hidle.symm.trans hready) (by simp)
  · rw [hpump]
    rfl
  · rw [hpump]
    rfl
  · rw [hpump]
    rfl

/-- A reason to close the client is not forgotten. -/
theorem mem_closings_publishFrom (hr : r.Sound) {reason : RtlClosing}
    (h : reason ∈ r.clients.rtl.closings) (answers : ℕ → FanoutAnswers)
    (turns turn : ℕ) :
    reason ∈ (publishFrom kernel answers turns turn r).clients.rtl.closings := by
  induction turns generalizing r turn with
  | zero => exact h
  | succ turns ih =>
    have hturn : reason
        ∈ (r.pump kernel (answers turn)).2.clients.rtl.closings := by
      cases hready : r.publisher.prepareFrame.1 with
      | false =>
        rcases pump_cases kernel (answers turn) hr.publisher hr.offset with
          ⟨-, hpump⟩ | ⟨hready', -⟩
        · rw [hpump]
          exact h
        · exact absurd (hready.symm.trans hready') (by simp)
      | true =>
        rw [closings_pump kernel (answers turn) hr hready]
        exact RtlClient.mem_closings_serve h
    rw [Receive.publishFrom]
    split
    · exact ih hr.pump hturn _
    · exact hturn

/-- **A client that has all of the pending frame** is closed for nothing at
the next pump. -/
theorem closed_publish (h : r.RtlAgrees kernel) (hr : r.Sound)
    (hopen : r.clients.rtl.isOpen = true)
    (hflag : r.clients.rtl.sourceComplete = true)
    (hready : r.publisher.prepareFrame.1 = true)
    (answers : ℕ → FanoutAnswers) :
    .sendFailed 0 ∈ (r.publish kernel answers).clients.rtl.closings := by
  have hpending : r.clients.rtl.pending = [] := by
    by_contra hpending
    have hflag' := ((h.sound hopen).pending hpending).2.incomplete
    exact Bool.false_ne_true (hflag'.symm.trans hflag)
  have hturn : .sendFailed 0
      ∈ (r.noted.pump kernel (answers 0)).2.clients.rtl.closings := by
    rw [closings_pump kernel (answers 0) hr.noted hready]
    exact RtlClient.mem_closings_of_complete hopen hflag hpending
  rw [Receive.publish, if_neg (by simp [IqClients.connected, hopen]),
    Receive.publishFrom]
  split
  · exact mem_closings_publishFrom hr.noted.pump hturn answers _ _
  · exact hturn

/-- **A step that keeps the law spares the client.** A pump that does not
closes it for nothing, a rate that does not leaves an odd number of bytes
behind, and a recovery that does not leaves bytes of a frame that is over. -/
theorem RtlAgrees.spares (h : r.RtlAgrees kernel) (hr : r.Sound)
    (hfollows : r.RtlFollows) {event : ReceiveEvent}
    (hlaw : (r.step kernel event).RtlLaw kernel) : r.Spares event := by
  cases event with
  | publish answers =>
    intro hopen hflag
    cases hready : r.publisher.prepareFrame.1 with
    | false => exact nothing_of_idle hr hready
    | true =>
      have hclosed : RtlClosing.sendFailed 0
          ∈ (r.step kernel (.publish answers)).clients.rtl.closings :=
        closed_publish h hr hopen hflag hready answers
      obtain hreason | ⟨n, hpos, hreason⟩ := hlaw.closed _ hclosed
      · exact RtlClosing.noConfusion hreason
      · rw [RtlClosing.sendFailed.injEq] at hreason
        omega
  | setSampleRate rate =>
    intro hopen hlow hhigh
    have hset : r.step kernel (.setSampleRate rate)
        = r.withClients (·.withRtl fun rtl =>
          { rtl.reset rate with sourceComplete := false }) := by
      rw [Receive.step, if_pos hopen]
      exact congrArg (fun rtl : RtlClient => r.withClients
        (·.withRtl fun _ => rtl)) (if_pos ⟨hlow, hhigh⟩)
    rw [hset] at hlaw
    -- nothing is pending any more, so that what was sent came in pairs
    have htotal : Even r.clients.rtl.total.length := hlaw.even hopen
    exact (Nat.even_add.mp (h.sound hopen).even).mp htotal
  | abandoned =>
    intro hopen
    by_contra hpending
    have hsound := h.sound hopen
    have houtputs : (r.step kernel .abandoned).rtlOutputs kernel
        = (r.clients.rtl.outputs kernel).1 := by
      rw [RtlClient.outputs, hfollows.due_eq hopen]
      change (RtlTcpResampler.resampleAll kernel
        ((r.abandoned).rtlFrames.map IqFrame.encode) _).1 = _
      rw [rtlFrames_abandoned]
      rfl
    have hwhole : r.clients.rtl.sinceReset = _ := hlaw.whole hopen rfl
    rw [houtputs, ← hsound.bytes, List.self_eq_append_right] at hwhole
    have hless := (hsound.pending hpending).2.offset
    have hlength := congrArg List.length hwhole
    rw [RtlClient.remaining, List.length_drop, List.length_nil] at hlength
    omega
  | _ => exact trivial

/-- **The `rtl_tcp` client's stream is unbroken**, in every state of a run,
exactly where every step spares the client, whatever the sockets answer and
in whatever order clients come and go, rates are set, frames are pumped and
the radio fails. -/
theorem rtlLaw_always_iff (kernel : RtlKernel) {capacity : ℕ}
    {hcapacity : 0 < capacity} {samplesPerFrame : ℕ} {p : IqPublisher}
    (hinit : IqPublisher.init (IqRing.init capacity hcapacity) samplesPerFrame
      = some p) (events : List ReceiveEvent) :
    Run.Always (step kernel) (RtlLaw kernel) { publisher := p } events
      ↔ Run.Each (step kernel) Spares { publisher := p } events := by
  refine Run.always_law_iff_each
    (I := fun r : Receive => r.RtlAgrees kernel ∧ r.Sound ∧ r.RtlFollows)
    (fun _ h => h.1.rtlLaw h.2.2)
    (fun _ event h hspares => ⟨h.1.step h.2.1 hspares, h.2.1.step event,
      h.2.2.step h.2.1 event⟩)
    (fun _ _ h => h.1.spares h.2.1 h.2.2)
    ⟨⟨?_, fun hopen => ?_⟩, sound_init hinit, fun hopen => ?_⟩ events
  · rintro _ ⟨⟩
  · exact absurd (show false = true from hopen) (by simp)
  · exact absurd (show false = true from hopen) (by simp)

/-- Two frames for a client whose socket takes three bytes at a time. -/
theorem rtlLaw_always_slow :
    let p := (IqPublisher.init (IqRing.init 8 (by decide)) 2).get rfl
    let taken : ℕ → FanoutAnswers :=
      fun _ => { rtl := .sent 3, http := fun _ => .failed }
    let events : List ReceiveEvent :=
      [.acceptRtl true, .samples [⟨1, 2⟩, ⟨3, 4⟩, ⟨5, 6⟩], .publish taken,
        .publish taken]
    (run .silent { publisher := p } events).clients.rtl.sinceReset.length = 6
      ∧ Run.Always (step .silent) (RtlLaw .silent) { publisher := p }
        events := by
  intro p taken events
  refine ⟨by decide +kernel,
    (rtlLaw_always_iff .silent (Option.some_get _).symm events).mpr
      ⟨trivial, trivial, fun _ hflag => ?_, fun _ hflag => ?_, trivial⟩⟩
  · exact absurd hflag (by decide +kernel)
  · exact absurd hflag (by decide +kernel)

/-- **A client is closed for nothing.** It has all of the frame that a
client of HTTP lags behind with, is offered no bytes at the next pump, and
is closed as if its send had failed. -/
theorem closed_for_nothing : ¬ ∀ events : List ReceiveEvent,
    ∀ reason ∈ (fresh.run .silent events).clients.rtl.closings,
      reason = .rejected ∨ ∃ n, 0 < n ∧ reason = .sendFailed n := by
  intro h
  obtain hno | ⟨n, hpos, hno⟩ := h
    [.acceptRtl true, .openIqStream true, .samples [⟨1, 2⟩, ⟨3, 4⟩],
      .publish fun _ =>
        { rtl := .sent rtlPendingSize, http := fun _ => .wouldBlock },
      .publish fun _ =>
        { rtl := .sent rtlPendingSize, http := fun _ => .sent rtlPendingSize }]
    (.sendFailed 0) (by decide +kernel)
  · exact absurd hno (by simp)
  · rw [RtlClosing.sendFailed.injEq] at hno
    omega

end Receive
