import Flex1500.IqClients
import Flex1500.PublisherLaw

/-!
# Every client reads whole frames

The clients of the stream share one pending frame, and each has its own
offset into it. What a client has received is the frames that were over
since it came, and of the pending frame as much as its offset says
(`IqClient.At`). The publisher's own offset never moves, since the writer
takes a frame whole or not at all: a frame that has to wait for one client
is offered again, and the other clients know from their offsets that they
have it.

A frame that is given up would be a gap in a client's stream. None is given
up while an HTTP client is there.
-/

/-! ## The pending frame -/

namespace IqPublisher

variable {p : IqPublisher}

/-- With nothing pending, all frames are over. -/
theorem finished_of_none (h : p.pending = []) : p.finished = p.frames :=
  if_pos h

/-- With a frame pending, the others are over. -/
theorem finished_of_some {frames : List IqFrame} {frame : IqFrame}
    (h : p.pending ≠ []) (hframes : p.frames = frames ++ [frame]) :
    p.finished = frames := by
  rw [finished, if_neg h]
  change p.frames.dropLast = frames
  rw [hframes, List.dropLast_concat]

/-- **The pending frame is the last one**, or there is none. -/
theorem Sound.frames_eq (h : p.Sound) :
    (p.pending = [] ∧ p.frames = p.finished)
      ∨ ∃ frame, p.pending = frame.encode ∧ p.pending ≠ []
        ∧ p.frames = p.finished ++ [frame] := by
  cases h.pending with
  | none hpending => exact Or.inl ⟨hpending, (finished_of_none hpending).symm⟩
  | some frames frame hframes hpending _ hoffset =>
    have hne : p.pending ≠ [] := fun hnil => by
      rw [hnil] at hoffset
      exact absurd hoffset (Nat.not_lt_zero _)
    have hall : p.frames = (p.past.flatMap (·.frames) ++ frames) ++ [frame] := by
      rw [IqPublisher.frames, sessions, List.flatMap_append,
        List.flatMap_singleton, hframes, List.append_assoc]
    exact Or.inr ⟨frame, hpending, hne, by rw [finished_of_some hne hall, hall]⟩

/-- A sound publisher that has written nothing of its pending frame offers
all of it. -/
theorem remaining_of_offset (h : p.pendingOffset = 0) :
    p.remaining = p.pending := by
  rw [remaining, h, List.drop_zero]

/-- What the writer took so far is no matter of what is left. -/
theorem remaining_accepted (bytes : List UInt8) :
    (p.accepted bytes).remaining = p.remaining :=
  rfl

/-- **What preparing a frame does**: nothing, or it makes a frame pending
where there was none. -/
theorem Sound.prepareFrame_cases (h : p.Sound) (hoffset : p.pendingOffset = 0) :
    p.prepareFrame = (false, p)
      ∨ p.prepareFrame.1 = true ∧ p.prepareFrame.2.pendingOffset = 0
        ∧ p.prepareFrame.2.finished = p.finished
        ∧ p.prepareFrame.2.pending ≠ []
        ∧ (p.prepareFrame.2 = p ∨ p.pending = []) := by
  obtain ⟨hsound, hready, hidle⟩ := h.prepareFrame
  cases hprepared : p.prepareFrame.1 with
  | false =>
    exact Or.inl (Prod.ext hprepared (hidle hprepared).1)
  | true =>
    have hne : p.prepareFrame.2.pending ≠ [] := fun hnil => by
      have := hready hprepared
      rw [Ready, hnil] at this
      exact absurd this (Nat.not_lt_zero _)
    refine Or.inr ⟨rfl, ?_, ?_, hne, ?_⟩
    all_goals
      revert hprepared hne
      unfold IqPublisher.prepareFrame
      split
      · intros
        first | exact hoffset | rfl | exact Or.inl rfl
      rename_i hnot
      have hnone : p.pending = [] := by
        rw [hoffset] at hnot
        exact List.length_eq_zero_iff.mp (by omega)
      split
      · intro hno
        simp at hno
      extract_lets popped bytes p'
      split
      · intro hno
        simp at hno
      intro _ hne
    · rfl
    · rw [finished_of_some hne (frames_encoded _ _), finished_of_none hnone]
      rfl
    · exact Or.inr hnone

end IqPublisher

/-! ## The clients -/

/-- No more is sent than was offered. -/
theorem SendAnswer.le_of_offered {answer : SendAnswer} {count n : ℕ}
    (h : answer.offered count = .sent n) : n ≤ count := by
  cases answer with
  | sent m =>
    rw [offered, SendAnswer.sent.injEq] at h
    exact h ▸ Nat.min_le_right m count
  | wouldBlock =>
    by_cases hcount : count = 0 <;> simp_all [offered]
  | failed =>
    by_cases hcount : count = 0 <;> simp_all [offered]

namespace IqClient

/-- **Where a client stands**: it has the frames that were over since it
came, and the pending one up to its offset. -/
structure At (client : IqClient) (p : IqPublisher) : Prop where
  joined : client.joined ≤ p.finished.length
  offset : client.pendingOffset ≤ p.pending.length
  received : client.received
    = (p.finished.drop client.joined).flatMap IqFrame.encode
      ++ p.pending.take client.pendingOffset

/-- **What a client reads**: a beginning of the frames from the one on that
was pending when it came, or was the next. -/
structure Reads (client : IqClient) (frames : List IqFrame) : Prop where
  joined : client.joined ≤ frames.length
  received : client.received
    <+: (frames.drop client.joined).flatMap IqFrame.encode

variable {client : IqClient} {p q : IqPublisher}

/-- A client reads on as frames come in. -/
theorem Reads.append {frames : List IqFrame} (h : client.Reads frames)
    (more : List IqFrame) : client.Reads (frames ++ more) where
  joined := by
    have := h.joined
    rw [List.length_append]
    omega
  received := by
    rw [List.drop_append_of_le_length h.joined, List.flatMap_append]
    exact h.received.trans (List.prefix_append _ _)

/-- A client at the publisher's frame reads its frames. -/
theorem At.reads (h : client.At p) (hp : p.Sound) : client.Reads p.frames := by
  have hjoined := h.joined
  rcases hp.frames_eq with ⟨hpending, hframes⟩ | ⟨frame, hpending, -, hframes⟩
  · rw [hframes]
    have hreceived := h.received
    rw [hpending, List.take_nil, List.append_nil] at hreceived
    exact ⟨hjoined, hreceived ▸ List.prefix_rfl⟩
  · rw [hframes]
    refine ⟨by rw [List.length_append]; omega, ?_⟩
    rw [h.received, hpending, List.drop_append_of_le_length hjoined,
      List.flatMap_append, List.flatMap_singleton]
    exact (List.prefix_append_right_inj _).mpr (List.take_prefix _ _)

/-- Publishers with the same frames over and the same pending are the same
to a client. -/
theorem At.congr (h : client.At p) (hfinished : q.finished = p.finished)
    (hpending : q.pending = p.pending) : client.At q :=
  ⟨hfinished ▸ h.joined, hpending ▸ h.offset, by
    rw [h.received, hfinished, hpending]⟩

/-- A client with nothing pending before it, once a frame is. -/
theorem At.of_none (h : client.At p) (hnone : p.pending = [])
    (hfinished : q.finished = p.finished) : client.At q := by
  have hoffset : client.pendingOffset = 0 := by
    have := h.offset
    rw [hnone, List.length_nil] at this
    omega
  refine ⟨hfinished ▸ h.joined, by omega, ?_⟩
  rw [h.received, hfinished, hoffset, List.take_zero, List.take_zero]

/-- **A call of the writer moves a client on** in the frame, or finds it
gone. Where the client has not to wait it has all of the frame. -/
theorem At.serve (h : client.At p) (answer : SendAnswer) :
    (∀ client', (client.serve p.pending answer).2 = some client' →
      client'.At p
        ∧ (client.serve p.pending answer).1.any = true
        ∧ ((client.serve p.pending answer).1.incomplete = false →
          client'.pendingOffset = p.pending.length)) := by
  intro client'
  unfold IqClient.serve
  split
  · rename_i hall
    rintro ⟨⟩
    exact ⟨h, rfl, fun _ => hall⟩
  split
  · rintro ⟨⟩
    exact ⟨h, rfl, by simp⟩
  · rename_i n hanswer
    have hn := SendAnswer.le_of_offered hanswer
    rintro ⟨⟩
    have hle : client.pendingOffset + (n + 1) ≤ p.pending.length := by omega
    refine ⟨⟨h.joined, hle, ?_⟩, rfl, fun hdone => ?_⟩
    · have hsplit : p.pending.take (client.pendingOffset + (n + 1))
          = p.pending.take client.pendingOffset
            ++ (p.pending.drop client.pendingOffset).take (n + 1) :=
        List.take_add
      change client.received ++ _ = (p.finished.drop client.joined).flatMap _
        ++ p.pending.take (client.pendingOffset + (n + 1))
      rw [h.received, hsplit, List.append_assoc]
    · have hdone : ¬ client.pendingOffset + (n + 1) < p.pending.length := by
        simpa using hdone
      exact Nat.le_antisymm hle (not_lt.mp hdone)
  · simp

/-- A client that has all of the frame, once the frame is over. -/
theorem At.rewound (h : client.At p) (hp : p.Sound)
    (hall : client.pendingOffset = p.pending.length)
    (hfinished : q.finished = p.frames) : client.rewound.At q := by
  have hlength : p.finished.length ≤ p.frames.length := by
    rcases hp.frames_eq with ⟨-, hframes⟩ | ⟨frame, -, -, hframes⟩ <;>
      simp [hframes]
  refine ⟨by rw [hfinished]; exact h.joined.trans hlength, Nat.zero_le _, ?_⟩
  change client.received = (q.finished.drop client.joined).flatMap _
    ++ q.pending.take 0
  rw [h.received, hall, List.take_length, hfinished, List.take_zero,
    List.append_nil]
  rcases hp.frames_eq with ⟨hpending, hframes⟩ | ⟨frame, hpending, -, hframes⟩
  · rw [hpending, hframes, List.append_nil]
  · rw [hpending, hframes, List.drop_append_of_le_length h.joined,
      List.flatMap_append, List.flatMap_singleton]

end IqClient

namespace IqClients

/-- The clients once a frame was offered to each of them. -/
def served (kernel : RtlKernel) (answers : FanoutAnswers)
    (framed : List UInt8) (clients : IqClients) : IqClients :=
  (clients.withSlots fun i => (clients.servedSlots framed answers i).2).withRtl
    fun _ => (clients.rtl.serve kernel framed answers.rtl).2

variable (kernel : RtlKernel) (answers : FanoutAnswers) (framed : List UInt8)
  (clients : IqClients)

/-- **What the writer reports**: that there is no client, that one has to
wait, or that all have the frame. -/
theorem write_cases :
    (write kernel answers framed clients
        = ({ result := .disconnected, written := 0 },
          clients.served kernel answers framed)
      ∧ (clients.rtl.serve kernel framed answers.rtl).1.any = false
      ∧ ∀ i, (clients.servedSlots framed answers i).1.any = false)
    ∨ (write kernel answers framed clients
        = ({ result := .wouldBlock, written := 0 },
          clients.served kernel answers framed)
      ∧ ((clients.rtl.serve kernel framed answers.rtl).1.incomplete = true
        ∨ ∃ i, (clients.servedSlots framed answers i).1.incomplete = true))
    ∨ (write kernel answers framed clients
        = ({ result := .ok, written := framed.length },
          (clients.served kernel answers framed).frameDone)
      ∧ (clients.rtl.serve kernel framed answers.rtl).1.incomplete = false
      ∧ ∀ i, (clients.servedSlots framed answers i).1.incomplete = false) := by
  unfold write
  extract_lets rtl served any incomplete clients'
  by_cases hany : any = true
  · by_cases hincomplete : incomplete = true
    · refine Or.inr (Or.inl ⟨by simp [hany, hincomplete]; rfl, ?_⟩)
      simpa [incomplete, rtl, served] using hincomplete
    · refine Or.inr (Or.inr ⟨by simp [hany, hincomplete]; rfl, ?_⟩)
      simpa [incomplete, rtl, served] using hincomplete
  · refine Or.inl ⟨by simp [hany]; rfl, ?_⟩
    simpa [any, rtl, served] using hany

end IqClients

/-! ## A pump -/

namespace IqPublisher

variable {p : IqPublisher}

/-- A frame that was written whole is not pending any more. -/
theorem advanced_whole (hoffset : p.pendingOffset = 0) :
    let q := (p.accepted p.pending).advanced p.pending.length
    q.pending = [] ∧ q.pendingOffset = 0 ∧ q.source = p.source
      ∧ q.frames = p.frames := by
  intro q
  have hend : p.pendingOffset + p.pending.length = p.pending.length := by
    rw [hoffset, Nat.zero_add]
  have hq : q = _ := if_pos hend
  rw [hq]
  exact ⟨rfl, rfl, rfl, frames_accepted (p := p) _⟩

/-- A frame that was written whole is over. -/
theorem finished_advanced (hoffset : p.pendingOffset = 0) :
    let q := (p.accepted p.pending).advanced p.pending.length
    q.pendingOffset = 0 ∧ q.finished = p.frames ∧ q.frames = p.frames := by
  obtain ⟨hpending, hzero, -, hframes⟩ := advanced_whole hoffset
  exact ⟨hzero, (finished_of_none hpending).trans hframes, hframes⟩

/-- A disconnect keeps what was encoded. -/
theorem frames_disconnect (p : IqPublisher) : p.disconnect.frames = p.frames := by
  simp [frames, sessions, disconnect, dropPending]

/-- Preparing a frame puts it behind those before. -/
theorem Sound.frames_prepareFrame (h : p.Sound) (hoffset : p.pendingOffset = 0) :
    ∃ more, p.prepareFrame.2.frames = p.frames ++ more := by
  rcases h.prepareFrame_cases hoffset with hidle | ⟨-, -, hfinished, -, hsame⟩
  · exact ⟨[], by rw [hidle, List.append_nil]⟩
  rcases hsame with hsame | hnone
  · exact ⟨[], by rw [hsame, List.append_nil]⟩
  rw [finished_of_none hnone] at hfinished
  rcases h.prepareFrame.1.frames_eq with ⟨-, hframes⟩ | ⟨frame, -, -, hframes⟩
  · exact ⟨[], by rw [hframes, hfinished, List.append_nil]⟩
  · exact ⟨[frame], by rw [hframes, hfinished]⟩

end IqPublisher

namespace Receive

variable {kernel : RtlKernel} {answers : FanoutAnswers} {r : Receive}

/-- **What a pump does**: nothing where there is no frame; else the frame is
given up since no client is left, or waits, or is over. -/
theorem pump_cases (kernel : RtlKernel) (answers : FanoutAnswers)
    (h : r.publisher.Sound) (hoffset : r.publisher.pendingOffset = 0) :
    (r.publisher.prepareFrame.1 = false
      ∧ r.pump kernel answers = (.empty, r))
    ∨ r.publisher.prepareFrame.1 = true
      ∧ (let q := r.publisher.prepareFrame.2
        let served := r.clients.served kernel answers q.pending
        (r.pump kernel answers = (.disconnected,
            { publisher := (q.withStats (·.lost)).disconnect.disconnect
              clients := served })
          ∧ (r.clients.rtl.serve kernel q.pending answers.rtl).1.any = false
          ∧ ∀ i, (r.clients.servedSlots q.pending answers i).1.any = false)
        ∨ (r.pump kernel answers = (.wouldBlock,
            { publisher := q.withStats (·.blocked), clients := served })
          ∧ ((r.clients.rtl.serve kernel q.pending answers.rtl).1.incomplete
              = true
            ∨ ∃ i, (r.clients.servedSlots q.pending answers i).1.incomplete
              = true))
        ∨ (r.pump kernel answers = (.ok,
            { publisher := (q.accepted q.pending).advanced q.pending.length
              clients := served.frameDone })
          ∧ (r.clients.rtl.serve kernel q.pending answers.rtl).1.incomplete
              = false
          ∧ ∀ i, (r.clients.servedSlots q.pending answers i).1.incomplete
              = false)) := by
  rcases h.prepareFrame_cases hoffset with hidle | ⟨hready, hzero, -, hne, -⟩
  · refine Or.inl ⟨by rw [hidle], ?_⟩
    unfold Receive.pump IqPublisher.pump
    simp [hidle]
  right
  refine ⟨hready, ?_⟩
  have hremaining : r.publisher.prepareFrame.2.remaining
      = r.publisher.prepareFrame.2.pending :=
    IqPublisher.remaining_of_offset hzero
  unfold Receive.pump IqPublisher.pump
  generalize r.publisher.prepareFrame = prepared at *
  have hpos : prepared.2.pending.length ≠ 0 :=
    fun h => hne (List.length_eq_zero_iff.mp h)
  rcases IqClients.write_cases kernel answers prepared.2.pending r.clients with
    ⟨hwrite, hany⟩ | ⟨hwrite, hincomplete⟩ | ⟨hwrite, hincomplete⟩
  · exact Or.inl ⟨by simp [hready, hremaining, hwrite], hany⟩
  · exact Or.inr (Or.inl ⟨by simp [hready, hremaining, hwrite], hincomplete⟩)
  · refine Or.inr (Or.inr ⟨?_, hincomplete⟩)
    simp [hready, hremaining, hwrite, hpos,
      IqPublisher.remaining_accepted]

/-! ## The invariant -/

/-- **A sound receive stream**: the writer takes frames whole, and all
clients stand where the publisher is. -/
structure Sound (r : Receive) : Prop where
  publisher : r.publisher.Sound
  offset : r.publisher.pendingOffset = 0
  live : ∀ i client, r.clients.slots i = some client → client.At r.publisher
  departed : ∀ client ∈ r.clients.departed, client.Reads r.publisher.frames

/-- Clients that go are noted, and the others stay. -/
theorem departed_withSlots {clients : IqClients}
    {slots : Fin maxIqClients → Option IqClient} {client : IqClient}
    (h : client ∈ (clients.withSlots slots).departed) :
    client ∈ clients.departed ∨ ∃ i, clients.slots i = some client := by
  obtain h | h := List.mem_append.mp h
  · exact Or.inl h
  obtain ⟨i, -, hi⟩ := List.mem_filterMap.mp h
  split at hi
  · exact Or.inr ⟨i, hi⟩
  · exact absurd hi (by simp)

/-- A client that was served was there before. -/
theorem at_served (kernel : RtlKernel) (answers : FanoutAnswers)
    {clients : IqClients} {p : IqPublisher}
    (hlive : ∀ i client, clients.slots i = some client → client.At p)
    {i : Fin maxIqClients} {client : IqClient}
    (h : (clients.served kernel answers p.pending).slots i = some client) :
    client.At p
      ∧ (clients.servedSlots p.pending answers i).1.any = true
      ∧ ((clients.servedSlots p.pending answers i).1.incomplete = false →
        client.pendingOffset = p.pending.length) := by
  change (clients.servedSlots p.pending answers i).2 = some client at h
  unfold IqClients.servedSlots at h ⊢
  cases hslot : clients.slots i with
  | none => simp [hslot] at h
  | some before =>
    rw [hslot] at h
    exact (hlive i before hslot).serve _ client h

/-- A stream whose publisher changed in nothing its clients see. -/
theorem Sound.congr (h : r.Sound) {f : IqPublisher → IqPublisher}
    (hpublisher : (f r.publisher).Sound)
    (hoffset : (f r.publisher).pendingOffset = r.publisher.pendingOffset)
    (hfinished : (f r.publisher).finished = r.publisher.finished)
    (hpending : (f r.publisher).pending = r.publisher.pending)
    (hframes : (f r.publisher).frames = r.publisher.frames) :
    (r.withPublisher f).Sound where
  publisher := hpublisher
  offset := hoffset.trans h.offset
  live i client hi := (h.live i client hi).congr hfinished hpending
  departed client hc := hframes ▸ h.departed client hc

/-- A stream whose `rtl_tcp` side changed. -/
theorem Sound.withRtl (h : r.Sound) (f : RtlClient → RtlClient) :
    (r.withClients (·.withRtl f)).Sound :=
  ⟨h.publisher, h.offset, h.live, h.departed⟩

theorem Sound.noted (h : r.Sound) : r.noted.Sound :=
  h.withRtl _

/-- With no client there, a stream may begin afresh. -/
theorem Sound.beginFreshReceiveStream (h : r.Sound)
    (hnone : ∀ i, r.clients.slots i = none) :
    r.beginFreshReceiveStream.Sound where
  publisher := (h.publisher.withSource (f := (·.clear)) rfl).disconnect
  offset := rfl
  live i client hi := by simp [Receive.beginFreshReceiveStream,
    Receive.withPublisher, hnone i] at hi
  departed client hc := by
    have hframes : r.beginFreshReceiveStream.publisher.frames
        = r.publisher.frames := IqPublisher.frames_disconnect _
    exact hframes ▸ h.departed client hc

/-- The first client finds a fresh stream. -/
theorem Sound.freshIfFirst (h : r.Sound) : r.freshIfFirst.Sound := by
  unfold Receive.freshIfFirst
  split
  · exact h
  · rename_i hno
    refine h.beginFreshReceiveStream fun i => ?_
    have hno : r.clients.rtl.isOpen = false ∧ ∀ i, r.clients.slots i = none := by
      simpa [IqClients.connected] using hno
    exact hno.2 i

/-- A client that comes has nothing yet, and stands at the frame pending. -/
theorem at_joined {p : IqPublisher} (connection : ℕ) :
    IqClient.At { connection := connection, joined := p.finished.length } p :=
  ⟨le_rfl, Nat.zero_le _, by simp⟩

/-- **A client comes.** -/
theorem Sound.openIqStream (h : r.Sound) (headerSent : Bool) :
    (r.openIqStream headerSent).Sound := by
  have hcounted : (r.withClients fun clients =>
      { clients with arrivals := clients.arrivals + 1 }).Sound :=
    ⟨h.publisher, h.offset, h.live, h.departed⟩
  unfold Receive.openIqStream
  extract_lets counted fresh
  split
  · exact hcounted
  rename_i slot _
  split
  · have hfresh : fresh.Sound := hcounted.freshIfFirst
    refine ⟨hfresh.publisher, hfresh.offset, fun i client hi => ?_,
      hfresh.departed⟩
    by_cases his : i = slot
    · subst his
      obtain rfl : { connection := r.clients.arrivals
                     joined := fresh.publisher.finished.length } = client := by
        simpa [Receive.withClients] using hi
      exact at_joined _
    · refine hfresh.live i client ?_
      simpa [Receive.withClients, his] using hi
  · exact hcounted

/-- The HTTP clients are closed, and the frame is given up. -/
theorem Sound.abandoned (h : r.Sound) : r.abandoned.Sound where
  publisher := h.publisher.disconnect
  offset := rfl
  live i client hi := by
    simp [Receive.abandoned, Receive.withPublisher, Receive.withClients,
      IqClients.withSlots] at hi
  departed client hc := by
    change client.Reads r.publisher.disconnect.frames
    rw [IqPublisher.frames_disconnect]
    obtain hc | ⟨i, hi⟩ := departed_withSlots hc
    · exact h.departed client hc
    · exact (h.live i client hi).reads h.publisher

/-- **A pump keeps a stream sound.** Where the frame is over every client
has all of it; where it is given up there is none. -/
theorem Sound.pump (h : r.Sound) : (r.pump kernel answers).2.Sound := by
  rcases pump_cases kernel answers h.publisher h.offset with
    ⟨-, hidle⟩ | ⟨hready, hpump⟩
  · rw [hidle]
    exact h
  obtain ⟨hsound, hframe, -⟩ := h.publisher.prepareFrame
  obtain ⟨more, hmore⟩ := h.publisher.frames_prepareFrame h.offset
  -- a frame that was pending already stays, or a new one is at its start
  have hprepared : r.publisher.prepareFrame.2.pendingOffset = 0
      ∧ ∀ i client, r.clients.slots i = some client →
        client.At r.publisher.prepareFrame.2 := by
    rcases h.publisher.prepareFrame_cases h.offset with
      hidle | ⟨-, hzero, hfinished, -, hsame⟩
    · rw [hidle]
      exact ⟨h.offset, h.live⟩
    · refine ⟨hzero, fun i client hi => ?_⟩
      rcases hsame with hsame | hnone
      · rw [hsame]
        exact h.live i client hi
      · exact (h.live i client hi).of_none hnone hfinished
  have hready := hframe hready
  revert hpump
  generalize r.publisher.prepareFrame.2 = q at *
  intro hpump
  obtain ⟨hzero, hlive⟩ := hprepared
  have hdeparted : ∀ client ∈ (r.clients.served kernel answers
      q.pending).departed, client.Reads q.frames := by
    intro client hc
    obtain hc | ⟨i, hi⟩ := departed_withSlots hc
    · exact hmore ▸ (h.departed client hc).append more
    · exact (hlive i client hi).reads hsound
  have hserved {i : Fin maxIqClients} {client : IqClient} :=
    @at_served kernel answers _ _ hlive i client
  -- nobody is left, somebody lags behind, or the frame is over
  rcases hpump with ⟨hpump, -, hany⟩ | ⟨hpump, -⟩ | ⟨hpump, -, hdone⟩
  · rw [hpump]
    have hlost := hsound.withStats (f := PublisherStats.lost) rfl rfl rfl
    have hframes : (q.withStats (·.lost)).disconnect.disconnect.frames
        = q.frames :=
      (IqPublisher.frames_disconnect _).trans
        (IqPublisher.frames_disconnect (q.withStats (·.lost)))
    refine ⟨hlost.disconnect.disconnect, rfl, fun i client hi => ?_,
      fun client hc => ?_⟩
    · obtain ⟨-, hsome, -⟩ := hserved hi
      rw [hany i] at hsome
      exact absurd hsome (by simp)
    · exact hframes ▸ hdeparted client hc
  · rw [hpump]
    exact ⟨hsound.withStats (f := PublisherStats.blocked) rfl rfl rfl, hzero,
      fun i client hi => (hserved hi).1.congr rfl rfl, hdeparted⟩
  · rw [hpump]
    have hremaining : q.remaining = q.pending :=
      IqPublisher.remaining_of_offset hzero
    have hadvanced : ((q.accepted q.pending).advanced
        q.pending.length).Sound := by
      have hlength : q.pending.length ≤ q.remaining.length :=
        le_of_eq (congrArg List.length hremaining.symm)
      have hwritten := hsound.advanced hready hlength
      rwa [hremaining, List.take_length] at hwritten
    obtain ⟨hoffset, hfinished, hframes⟩ := IqPublisher.finished_advanced hzero
    refine ⟨hadvanced, hoffset, fun i client hi => ?_, fun client hc => ?_⟩
    · obtain ⟨before, hbefore, rfl⟩ := Option.map_eq_some_iff.mp hi
      obtain ⟨hat, -, hall⟩ := hserved hbefore
      exact hat.rewound hsound (hall (hdone i)) hfinished
    · exact hframes ▸ hdeparted client hc

/-- The turns of a block that publishes keep a stream sound. -/
theorem Sound.publishFrom (h : r.Sound) (answers : ℕ → FanoutAnswers)
    (turns turn : ℕ) : (publishFrom kernel answers turns turn r).Sound := by
  induction turns generalizing r turn with
  | zero => exact h
  | succ turns ih =>
    unfold Receive.publishFrom
    dsimp only
    split
    · exact ih h.pump (turn + 1)
    · exact h.pump

/-- The block that publishes keeps a stream sound. -/
theorem Sound.publish (h : r.Sound) (answers : ℕ → FanoutAnswers) :
    (r.publish kernel answers).Sound := by
  unfold Receive.publish
  split
  · exact h
  · exact h.noted.publishFrom answers _ _

/-! ## Runs -/

/-- Whatever happens, a stream stays sound. -/
theorem Sound.step (h : r.Sound) (event : ReceiveEvent) :
    (r.step kernel event).Sound := by
  cases event with
  | samples samples => exact h.congr (h.publisher.withSource rfl) rfl rfl rfl rfl
  | cleared => exact h.congr (h.publisher.withSource rfl) rfl rfl rfl rfl
  | openIqStream headerSent => exact h.openIqStream headerSent
  | acceptRtl headerSent =>
    unfold Receive.step Receive.acceptRtl
    dsimp only
    split
    · exact h.freshIfFirst.withRtl _
    · exact h
  | setSampleRate rate =>
    unfold Receive.step
    dsimp only
    split
    · exact h.withRtl _
    · exact h
  | rtlDisconnected =>
    unfold Receive.step
    dsimp only
    split
    · exact h.withRtl _
    · exact h
  | abandoned => exact h.abandoned
  | publish answers => exact h.publish answers

/-- A run keeps a stream sound. -/
theorem Sound.run (h : r.Sound) (events : List ReceiveEvent) :
    (r.run kernel events).Sound := by
  induction events generalizing r with
  | nil => exact h
  | cons event events ih => exact ih (h.step event)

/-- **What an opening makes**: it leaves the clients there are, and one that
comes joins at the frames that are over, with nothing received. -/
theorem openIqStream_slots (headerSent : Bool) {i : Fin maxIqClients}
    {client : IqClient}
    (hi : (r.openIqStream headerSent).clients.slots i = some client) :
    r.clients.slots i = some client
      ∨ client.joined = (r.openIqStream headerSent).publisher.finished.length
        ∧ client.received = [] := by
  revert hi
  unfold Receive.openIqStream
  extract_lets counted fresh
  intro hi
  have hslots : fresh.clients.slots = r.clients.slots := by
    dsimp only [fresh, freshIfFirst]
    split
    · rfl
    · rfl
  split at hi
  · exact Or.inl hi
  rename_i slot _
  split at hi
  · rename_i hsent
    rw [if_pos hsent]
    by_cases hslot : i = slot
    · subst hslot
      obtain rfl : { connection := r.clients.arrivals
                     joined := fresh.publisher.finished.length } = client := by
        simpa [Receive.withClients] using hi
      exact Or.inr ⟨rfl, rfl⟩
    · refine Or.inl (hslots ▸ ?_)
      simpa [Receive.withClients, hslot] using hi
  · exact Or.inl hi

/-- **The law of the fan-out.** -/
structure FanoutLaw (r : Receive) : Prop where
  /-- The frames count up, modulo `2 ^ 32`. -/
  sequences : ∀ k (h : k < r.publisher.frames.length),
    r.publisher.frames[k].sequence = UInt32.ofNat k
  /-- A client that comes is one to read from the frame that is pending then,
  or is the next. -/
  joins : ∀ headerSent i client,
    (r.openIqStream headerSent).clients.slots i = some client →
      r.clients.slots i = some client
        ∨ client.joined = (r.openIqStream headerSent).publisher.finished.length
          ∧ client.received = []
  /-- The clients have all the frames that were over since, and the pending
  one up to their offsets. -/
  stands : ∀ i client, r.clients.slots i = some client →
    client.At r.publisher
  /-- So they read the frames whole and in order, each from the one it came
  at. -/
  live : ∀ i client, r.clients.slots i = some client →
    client.Reads r.publisher.frames
  /-- So did those that have gone. -/
  departed : ∀ client ∈ r.clients.departed, client.Reads r.publisher.frames

/-- A sound stream obeys the law. -/
theorem Sound.fanoutLaw (h : r.Sound) : r.FanoutLaw where
  sequences := h.publisher.sequences
  joins headerSent _ _ := openIqStream_slots headerSent
  stands := h.live
  live i client hi := (h.live i client hi).reads h.publisher
  departed := h.departed

/-- A stream nothing happened to is sound. -/
theorem sound_init {capacity : ℕ} {hcapacity : 0 < capacity}
    {samplesPerFrame : ℕ} {p : IqPublisher}
    (hinit : IqPublisher.init (IqRing.init capacity hcapacity) samplesPerFrame
      = some p) : ({ publisher := p } : Receive).Sound where
  publisher := IqPublisher.sound_init hinit rfl
  offset := by
    unfold IqPublisher.init at hinit
    split at hinit
    · simp at hinit
    · exact Option.some.inj hinit ▸ rfl
  live i client hi := by simp at hi
  departed client hc := by simp at hc

/-- **Every client reads whole frames**: whatever its socket and those of the
others answer, and in whatever order clients come and go, frames are pumped
and the radio fails, what an HTTP client receives begins the frames from the
one on that was pending when it came, or was the next. -/
theorem fanoutLaw_run (kernel : RtlKernel) {capacity : ℕ}
    {hcapacity : 0 < capacity} {samplesPerFrame : ℕ} {p : IqPublisher}
    (hinit : IqPublisher.init (IqRing.init capacity hcapacity) samplesPerFrame
      = some p) (events : List ReceiveEvent) :
    (run kernel { publisher := p } events).FanoutLaw :=
  ((sound_init hinit).run events).fanoutLaw

/-- A client that comes while another has not all of a frame. -/
theorem fanoutLaw_run_joining :
    (run .silent
      { publisher :=
          (IqPublisher.init (IqRing.init 8 (by decide)) 2).get rfl }
      [.openIqStream true, .samples [⟨1, 2⟩, ⟨3, 4⟩, ⟨5, 6⟩],
        .publish fun _ => { rtl := .failed, http := fun _ => .sent 7 },
        .openIqStream true,
        .publish fun turn =>
          { rtl := .failed
            http := fun connection =>
              if connection = turn then .failed else .sent 64 }]).FanoutLaw :=
  fanoutLaw_run .silent (Option.some_get _).symm _

end Receive
