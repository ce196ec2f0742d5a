import Flex1500.ReceiveStreams

/-!
# What clients notice of each other

The clients of the stream share one pending frame, one ring and one result
of the writer, so a client whose socket is full holds up the others: nothing
more is sent to anybody until it has taken the frame. Two runs that differ
in what other sockets answer are then no longer the same to a client.

They are as long as no socket makes the writer wait: every send takes all
it is offered, or fails. The publisher is then pumped until the ring is
empty, a client that fails is gone, and the rest have every frame.
-/

namespace SendAnswer

/-- A send that takes all it is offered, which is never more than the
buffer of the `rtl_tcp` client holds. -/
def Accepts (answer : SendAnswer) : Prop :=
  ∀ count ≤ rtlPendingSize, answer.offered count = .sent count

/-- A send that takes nothing and has not to wait. -/
def Fails (answer : SendAnswer) : Prop :=
  ∀ count, answer.offered count = .failed ∨ answer.offered count = .sent 0

/-- **A send that makes nobody wait.** -/
def Whole (answer : SendAnswer) : Prop :=
  answer.Accepts ∨ answer.Fails

/-- Room for the most there is to offer is room for everything. -/
theorem accepts_sent : (sent rtlPendingSize).Accepts := fun count hcount => by
  rw [offered, Nat.min_eq_right hcount]

/-- A failure takes nothing. -/
theorem fails_failed : failed.Fails := fun count => by
  by_cases hcount : count = 0 <;> simp [offered, hcount]

/-- What such a send answers. -/
theorem Whole.offered_cases {answer : SendAnswer} (h : answer.Whole)
    {count : ℕ} (hcount : count ≤ rtlPendingSize) :
    answer.offered count = .sent count ∨ answer.offered count = .failed
      ∨ answer.offered count = .sent 0 :=
  h.elim (fun h => Or.inl (h count hcount)) fun h => Or.inr (h count)

end SendAnswer

/-! ## One client -/

/-- A client with room for its bytes. -/
def RtlClient.Bounded (rtl : RtlClient) : Prop :=
  rtl.pending.length ≤ rtlPendingSize

namespace RtlClient

variable {kernel : RtlKernel} {framed : List UInt8} {answer : SendAnswer}
  {rtl : RtlClient}

/-- The resampled frame fits its buffer. -/
theorem Bounded.refill (h : rtl.Bounded) :
    (rtl.refill kernel framed).Bounded := by
  have hresampled : (rtl.resampler.resampleIq kernel framed
      rtlPendingSize).1.length ≤ rtlPendingSize :=
    RtlTcpResampler.length_resampleIq _ _ _ _
  unfold RtlClient.refill
  split
  · dsimp only
    split
    · exact hresampled
    · exact hresampled
  · exact h

/-- Noting a frame changes nothing else. -/
theorem Bounded.offered (h : rtl.Bounded) : (rtl.offered framed).Bounded := by
  unfold RtlClient.offered
  split
  · exact h
  · exact h

/-- A client that was served has room for its bytes. -/
theorem Bounded.serve (h : rtl.Bounded) :
    (rtl.serve kernel framed answer).2.Bounded := by
  have hrefilled : ((rtl.offered framed).refill kernel framed).Bounded :=
    h.offered.refill
  unfold RtlClient.serve
  split
  · exact h
  extract_lets rtl'
  split
  · exact hrefilled
  split
  · exact hrefilled
  · rename_i n _
    change (rtl'.sent (n + 1)).Bounded
    unfold RtlClient.sent
    dsimp only
    split
    · exact hrefilled
    · exact Nat.zero_le _
  · exact Nat.zero_le _

/-- A client that makes nobody wait is not waited for. -/
theorem incomplete_serve (h : rtl.Bounded)
    (hanswer : rtl.isOpen = true → answer.Whole) :
    (rtl.serve kernel framed answer).1.incomplete = false := by
  have hrefilled : ((rtl.offered framed).refill kernel framed).Bounded :=
    h.offered.refill
  unfold RtlClient.serve
  split
  · rfl
  rename_i hopen
  replace hanswer := hanswer (by simpa using hopen)
  extract_lets rtl'
  split
  · rfl
  have hlength : rtl'.remaining.length ≤ rtlPendingSize := by
    rw [remaining, List.length_drop]
    exact (Nat.sub_le _ _).trans hrefilled
  obtain hall | hfailed | hnone := hanswer.offered_cases hlength
  · rw [hall]
    cases hcount : rtl'.remaining.length with
    | zero => rfl
    | succ n =>
      rw [remaining, List.length_drop] at hcount
      simp only [decide_eq_false_iff_not]
      omega
  · rw [hfailed]
  · rw [hnone]

/-- A client that is there after it was served was there before. -/
theorem isOpen_of_serve
    (h : (rtl.serve kernel framed answer).2.isOpen = true) :
    rtl.isOpen = true := by
  by_contra hclosed
  rw [RtlClient.serve, if_pos (by simpa using hclosed)] at h
  exact hclosed h

/-- Where the writer finds no client, there is none left. -/
theorem isOpen_serve (h : (rtl.serve kernel framed answer).1.any = false) :
    (rtl.serve kernel framed answer).2.isOpen = false := by
  revert h
  unfold RtlClient.serve
  split
  · intro _
    simpa using ‹(!rtl.isOpen) = true›
  extract_lets rtl'
  split
  · intro _
    simpa using ‹(!rtl'.isOpen) = true›
  split
  · simp
  · simp
  · intro _
    rfl

end RtlClient

namespace IqClient

variable {framed : List UInt8} {answer answer' : SendAnswer}
  {client : IqClient}

/-- What a client is that was sent the rest of a frame. -/
theorem serve_accepts (hlength : framed.length ≤ rtlPendingSize)
    (hanswer : answer.Accepts) :
    client.serve framed answer = client.serve framed (.sent rtlPendingSize) := by
  have hcount : framed.length - client.pendingOffset ≤ rtlPendingSize :=
    (Nat.sub_le _ _).trans hlength
  unfold IqClient.serve
  rw [hanswer _ hcount, SendAnswer.accepts_sent _ hcount]

/-- A client that makes nobody wait is not waited for. -/
theorem incomplete_serve (hlength : framed.length ≤ rtlPendingSize)
    (hanswer : answer.Whole) : (client.serve framed answer).1.incomplete = false := by
  have hcount : framed.length - client.pendingOffset ≤ rtlPendingSize :=
    (Nat.sub_le _ _).trans hlength
  unfold IqClient.serve
  split
  · rfl
  obtain hall | hfailed | hnone := hanswer.offered_cases hcount
  · rw [hall]
    cases hrest : framed.length - client.pendingOffset with
    | zero => rfl
    | succ n =>
      simp only [decide_eq_false_iff_not]
      omega
  · rw [hfailed]
  · rw [hnone]

/-- Where the writer finds no client, there is none left. -/
theorem serve_none (h : (client.serve framed answer).1.any = false) :
    (client.serve framed answer).2 = none := by
  revert h
  unfold IqClient.serve
  split
  · simp
  split
  · simp
  · simp
  · intro _
    rfl

/-- A client keeps its connection. -/
theorem connection_serve {client' : IqClient}
    (h : (client.serve framed answer).2 = some client') :
    client'.connection = client.connection := by
  revert h
  unfold IqClient.serve
  split
  · rintro ⟨⟩
    rfl
  split
  · rintro ⟨⟩
    rfl
  · rintro ⟨⟩
    rfl
  · rintro ⟨⟩

end IqClient

/-! ## One connection -/

namespace IqClients

/-- The client of a connection, while it is there. -/
def Live (clients : IqClients) (connection : ℕ) (client : IqClient) : Prop :=
  client.connection = connection ∧ ∃ i, clients.slots i = some client

/-- The client of a connection, once it is gone. -/
def Gone (clients : IqClients) (connection : ℕ) (client : IqClient) : Prop :=
  client.connection = connection ∧ client ∈ clients.departed

/-- **Two states a connection cannot tell apart**, but for the publisher. -/
structure SameTo (c : ℕ) (clients clients' : IqClients) : Prop where
  live : ∀ client, clients.Live c client ↔ clients'.Live c client
  gone : ∀ client, clients.Gone c client ↔ clients'.Gone c client

instance (clients : IqClients) (c : ℕ) (client : IqClient) :
    Decidable (clients.Live c client) :=
  inferInstanceAs (Decidable (_ ∧ ∃ i, clients.slots i = some client))

instance (clients : IqClients) (c : ℕ) (client : IqClient) :
    Decidable (clients.Gone c client) :=
  inferInstanceAs (Decidable (_ ∧ _ ∈ _))

theorem SameTo.refl (c : ℕ) (clients : IqClients) : clients.SameTo c clients :=
  ⟨fun _ => Iff.rfl, fun _ => Iff.rfl⟩

/-- The `rtl_tcp` side is no matter of a connection. -/
theorem SameTo.withRtl {c : ℕ} {clients clients' : IqClients}
    (h : clients.SameTo c clients') (f f' : RtlClient → RtlClient) :
    (clients.withRtl f).SameTo c (clients'.withRtl f') :=
  ⟨h.live, h.gone⟩

theorem SameTo.symm {c : ℕ} {clients clients' : IqClients}
    (h : clients.SameTo c clients') : clients'.SameTo c clients :=
  ⟨fun client => (h.live client).symm, fun client => (h.gone client).symm⟩

theorem SameTo.trans {c : ℕ} {clients₁ clients₂ clients₃ : IqClients}
    (h : clients₁.SameTo c clients₂) (h' : clients₂.SameTo c clients₃) :
    clients₁.SameTo c clients₃ :=
  ⟨fun client => (h.live client).trans (h'.live client),
    fun client => (h.gone client).trans (h'.gone client)⟩

variable {kernel : RtlKernel} {answers answers' : FanoutAnswers}
  {framed : List UInt8} {clients clients' : IqClients} {c : ℕ}

/-- The clients that go when slots change. -/
theorem gone_withSlots {slots : Fin maxIqClients → Option IqClient}
    {client : IqClient} :
    (clients.withSlots slots).Gone c client ↔ clients.Gone c client
      ∨ client.connection = c
        ∧ ∃ i, slots i = none ∧ clients.slots i = some client := by
  have hmem : client ∈ (clients.withSlots slots).departed
      ↔ client ∈ clients.departed
        ∨ ∃ i, slots i = none ∧ clients.slots i = some client := by
    rw [withSlots, List.mem_append, List.mem_filterMap]
    refine or_congr_right ⟨?_, ?_⟩
    · rintro ⟨i, -, hi⟩
      split at hi
      · exact ⟨i, by simpa using ‹(slots i).isNone = true›, hi⟩
      · exact absurd hi (by simp)
    · rintro ⟨i, hnone, hi⟩
      exact ⟨i, List.mem_finRange i, by rw [if_pos (by simp [hnone]), hi]⟩
  rw [Gone, Gone, hmem]
  tauto

/-- The client of a connection, after everybody was served. -/
theorem live_served {client' : IqClient} :
    (clients.served kernel answers framed).Live c client'
      ↔ ∃ client, clients.Live c client
        ∧ (client.serve framed (answers.http c)).2 = some client' := by
  have hslot (i : Fin maxIqClients) :
      (clients.served kernel answers framed).slots i
        = (clients.servedSlots framed answers i).2 := rfl
  constructor
  · rintro ⟨hc, i, hi⟩
    rw [hslot, servedSlots] at hi
    cases hbefore : clients.slots i with
    | none => simp [hbefore] at hi
    | some client =>
      rw [hbefore] at hi
      have hconnection := IqClient.connection_serve hi
      rw [hc] at hconnection
      exact ⟨client, ⟨hconnection.symm, i, hbefore⟩, by rwa [hconnection]⟩
  · rintro ⟨client, ⟨rfl, i, hi⟩, hserved⟩
    refine ⟨IqClient.connection_serve hserved, i, ?_⟩
    rw [hslot, servedSlots, hi]
    exact hserved

/-- The client of a connection that goes as everybody is served. -/
theorem gone_served {client : IqClient} :
    (clients.served kernel answers framed).Gone c client
      ↔ clients.Gone c client ∨ clients.Live c client
        ∧ (client.serve framed (answers.http c)).2 = none := by
  have hgone : (clients.served kernel answers framed).Gone c client
      ↔ (clients.withSlots fun i =>
        (clients.servedSlots framed answers i).2).Gone c client := Iff.rfl
  rw [hgone, gone_withSlots]
  refine or_congr_right ⟨?_, ?_⟩
  · rintro ⟨rfl, i, hnone, hi⟩
    rw [servedSlots, hi] at hnone
    exact ⟨⟨rfl, i, hi⟩, hnone⟩
  · rintro ⟨⟨rfl, i, hi⟩, hnone⟩
    refine ⟨rfl, i, ?_, hi⟩
    rw [servedSlots, hi]
    exact hnone

/-- **Serving everybody** is the same to a connection, as long as its own
socket answers the same. -/
theorem SameTo.served (h : clients.SameTo c clients')
    (hanswers : ∀ client, clients.Live c client →
      client.serve framed (answers.http c)
        = client.serve framed (answers'.http c)) :
    (clients.served kernel answers framed).SameTo c
      (clients'.served kernel answers' framed) where
  live client' := by
    rw [live_served, live_served]
    refine exists_congr fun client => ?_
    rw [← h.live client]
    exact and_congr_right fun hlive => by rw [hanswers client hlive]
  gone client := by
    rw [gone_served, gone_served, ← h.gone client, ← h.live client]
    exact or_congr_right (and_congr_right fun hlive => by
      rw [hanswers client hlive])

/-- The client of a connection, at the end of a frame. -/
theorem live_frameDone {client' : IqClient} :
    clients.frameDone.Live c client'
      ↔ ∃ client, clients.Live c client ∧ client.rewound = client' := by
  constructor
  · rintro ⟨rfl, i, hi⟩
    obtain ⟨client, hslot, rfl⟩ := Option.map_eq_some_iff.mp hi
    exact ⟨client, ⟨rfl, i, hslot⟩, rfl⟩
  · rintro ⟨client, ⟨rfl, i, hi⟩, rfl⟩
    exact ⟨rfl, i, Option.map_eq_some_iff.mpr ⟨client, hi, rfl⟩⟩

/-- The end of a frame is the same to a connection. -/
theorem SameTo.frameDone (h : clients.SameTo c clients') :
    clients.frameDone.SameTo c clients'.frameDone where
  live client' := by
    rw [live_frameDone, live_frameDone]
    exact exists_congr fun client => by rw [h.live client]
  gone client := h.gone client

/-- The end of a frame is no matter of a connection without a client. -/
theorem sameTo_frameDone_absent (habsent : ∀ client, ¬ clients.Live c client) :
    clients.SameTo c clients.frameDone where
  live client := by
    refine ⟨fun hlive => absurd hlive (habsent client), fun hlive => ?_⟩
    obtain ⟨before, hbefore, -⟩ := live_frameDone.mp hlive
    exact absurd hbefore (habsent before)
  gone _ := Iff.rfl

/-- **Nobody came**: who is there now was there before. -/
structure Outlasts (clients clients' : IqClients) : Prop where
  rtl : clients'.rtl.isOpen = true → clients.rtl.isOpen = true
  live : ∀ c client', clients'.Live c client' → ∃ client, clients.Live c client

/-- Nobody comes as everybody is served. -/
theorem outlasts_served (kernel : RtlKernel) (answers : FanoutAnswers)
    (framed : List UInt8) (clients : IqClients) :
    clients.Outlasts (clients.served kernel answers framed) where
  rtl hopen := RtlClient.isOpen_of_serve hopen
  live _ _ hlive := (live_served.mp hlive).imp fun _ h => h.1

/-- Nobody comes at the end of a frame. -/
theorem Outlasts.frameDone (h : clients.Outlasts clients') :
    clients.Outlasts clients'.frameDone where
  rtl := h.rtl
  live c _ hlive :=
    let ⟨before, hbefore, _⟩ := live_frameDone.mp hlive
    h.live c before hbefore

/-- Where nobody is connected, no connection has a client. -/
theorem not_live_of_not_connected (h : clients.connected = false)
    (client : IqClient) : ¬ clients.Live c client := by
  rintro ⟨-, i, hi⟩
  have hslots : clients.rtl.isOpen = false ∧ ∀ i, clients.slots i = none := by
    simpa [connected] using h
  rw [hslots.2 i] at hi
  exact absurd hi (by simp)

end IqClients

/-- **Answers of which none makes the writer wait**: the socket of everybody
who is there takes all it is offered, or fails. -/
structure FanoutAnswers.Whole (answers : FanoutAnswers) (clients : IqClients) :
    Prop where
  rtl : clients.rtl.isOpen = true → answers.rtl.Whole
  http : ∀ c client, clients.Live c client → (answers.http c).Whole

/-- They make nobody wait where nobody came. -/
theorem FanoutAnswers.Whole.outlasts {answers : FanoutAnswers}
    {clients clients' : IqClients} (h : answers.Whole clients)
    (houtlasts : clients.Outlasts clients') : answers.Whole clients' where
  rtl hopen := h.rtl (houtlasts.rtl hopen)
  http c client' hlive :=
    let ⟨client, hclient⟩ := houtlasts.live c client' hlive
    h.http c client hclient

/-! ## Events of two runs -/

/-- What happens in two runs is the same, but for what other connections'
sockets answer. -/
inductive ReceiveEvent.SameBut (c : ℕ) :
    ReceiveEvent → ReceiveEvent → Prop where
  | same (event : ReceiveEvent) : SameBut c event event
  | publish {a a' : ℕ → FanoutAnswers}
      (h : ∀ turn, (a turn).http c = (a' turn).http c) :
      SameBut c (.publish a) (.publish a')

/-- A connection's socket accepts all it is offered. -/
def ReceiveEvent.Accepts (c : ℕ) (event : ReceiveEvent) : Prop :=
  ∀ answers, event = .publish answers →
    ∀ turn, ((answers turn).http c).Accepts

/-- No socket of these clients makes the writer wait. -/
def ReceiveEvent.Whole (event : ReceiveEvent) (clients : IqClients) : Prop :=
  ∀ answers, event = .publish answers → ∀ turn, (answers turn).Whole clients

/-! ## One pump -/

/-- The pending frame is no more than there is room for. -/
theorem IqPublisher.Sound.length_pending {p : IqPublisher} (h : p.Sound) :
    p.pending.length ≤ rtlPendingSize := by
  rcases h.frames_eq with ⟨hnone, -⟩ | ⟨frame, hpending, -, hframes⟩
  · rw [hnone]
    exact Nat.zero_le _
  · have hfits := h.fits frame (by simp [hframes])
    have hle := hfits.le
    have hmax := p.samples_le
    rw [hpending, IqFrame.length_encode hfits hmax, iqFrameHeaderSize,
      rtlPendingSize]
    rw [publisherMaxSamples] at *
    omega

namespace Receive

variable {kernel : RtlKernel} {answers answers' : FanoutAnswers}
  {r r' : Receive} {c : ℕ}

/-- **A pump that nobody holds up** finds no frame, or no client, or brings
the frame to its end. -/
theorem pump_whole (kernel : RtlKernel) (h : r.Sound)
    (hbounded : r.clients.rtl.Bounded) (hwhole : answers.Whole r.clients) :
    let q := r.publisher.prepareFrame.2
    let served := r.clients.served kernel answers q.pending
    (r.publisher.prepareFrame.1 = false
      ∧ r.pump kernel answers = (.empty, r))
    ∨ r.publisher.prepareFrame.1 = true
      ∧ (((r.pump kernel answers).1 = .disconnected
          ∧ (r.pump kernel answers).2.clients = served
          ∧ served.connected = false)
        ∨ r.pump kernel answers = (.ok,
          { publisher := (q.accepted q.pending).advanced q.pending.length
            clients := served.frameDone })) := by
  intro q served
  have hlength := h.publisher.prepareFrame.1.length_pending
  rcases pump_cases kernel answers h.publisher h.offset with
    hidle | ⟨hready, hpump⟩
  · exact Or.inl hidle
  refine Or.inr ⟨hready, ?_⟩
  rcases hpump with ⟨hpump, hrtl, hany⟩ | ⟨-, hrtl | ⟨i, hi⟩⟩ | ⟨hpump, -⟩
  · refine Or.inl ⟨by rw [hpump], by rw [hpump], ?_⟩
    have hslots (i : Fin maxIqClients) : served.slots i = none := by
      change (r.clients.servedSlots q.pending answers i).2 = none
      have hi := hany i
      rw [IqClients.servedSlots] at hi ⊢
      cases hslot : r.clients.slots i with
      | none => rfl
      | some client =>
        rw [hslot] at hi
        exact IqClient.serve_none hi
    have hclosed : served.rtl.isOpen = false := RtlClient.isOpen_serve hrtl
    simp [IqClients.connected, hclosed, hslots]
  · rw [RtlClient.incomplete_serve hbounded hwhole.rtl] at hrtl
    exact absurd hrtl (by simp)
  · rw [IqClients.servedSlots] at hi
    cases hslot : r.clients.slots i with
    | none => simp [hslot] at hi
    | some client =>
      rw [hslot] at hi
      have hdone : (client.serve q.pending
          (answers.http client.connection)).1.incomplete = false :=
        IqClient.incomplete_serve hlength
          (hwhole.http _ client ⟨rfl, i, hslot⟩)
      rw [hi] at hdone
      exact absurd hdone (by simp)
  · exact Or.inr hpump

/-- A pump keeps the bytes of the `rtl_tcp` client within bounds. -/
theorem bounded_pump (h : r.Sound) (hbounded : r.clients.rtl.Bounded) :
    (r.pump kernel answers).2.clients.rtl.Bounded := by
  rcases pump_cases kernel answers h.publisher h.offset with
    ⟨-, hidle⟩ | ⟨-, ⟨hpump, -⟩ | ⟨hpump, -⟩ | ⟨hpump, -⟩⟩
  · rw [hidle]
    exact hbounded
  · rw [hpump]
    exact hbounded.serve
  · rw [hpump]
    exact hbounded.serve
  · rw [hpump]
    exact hbounded.serve

/-- Nobody comes in a pump. -/
theorem outlasts_pump (kernel : RtlKernel) (answers : FanoutAnswers)
    (h : r.Sound) : r.clients.Outlasts (r.pump kernel answers).2.clients := by
  have hserved := IqClients.outlasts_served kernel answers
    r.publisher.prepareFrame.2.pending r.clients
  rcases pump_cases kernel answers h.publisher h.offset with
    ⟨-, hidle⟩ | ⟨-, ⟨hpump, -⟩ | ⟨hpump, -⟩ | ⟨hpump, -⟩⟩
  · rw [hidle]
    exact ⟨id, fun _ client hlive => ⟨client, hlive⟩⟩
  · rw [hpump]
    exact hserved
  · rw [hpump]
    exact hserved
  · rw [hpump]
    exact hserved.frameDone

/-- A connection with no client is no matter of a pump. -/
theorem sameTo_pump_absent (kernel : RtlKernel) (answers : FanoutAnswers)
    (h : r.Sound)
    (habsent : ∀ client, ¬ r.clients.Live c client) :
    r.clients.SameTo c (r.pump kernel answers).2.clients := by
  have hserved (framed : List UInt8) :
      r.clients.SameTo c (r.clients.served kernel answers framed) := by
    refine ⟨fun client => ?_, fun client => ?_⟩
    · rw [IqClients.live_served]
      exact ⟨fun hlive => absurd hlive (habsent client),
        fun ⟨before, hlive, _⟩ => absurd hlive (habsent before)⟩
    · rw [IqClients.gone_served]
      exact ⟨Or.inl, fun hgone => hgone.elim id fun hlive =>
        absurd hlive.1 (habsent client)⟩
  rcases pump_cases kernel answers h.publisher h.offset with
    ⟨-, hidle⟩ | ⟨-, ⟨hpump, -⟩ | ⟨hpump, -⟩ | ⟨hpump, -⟩⟩
  · rw [hidle]
    exact .refl c _
  · rw [hpump]
    exact hserved _
  · rw [hpump]
    exact hserved _
  · rw [hpump]
    have hdone := hserved r.publisher.prepareFrame.2.pending
    exact hdone.trans (IqClients.sameTo_frameDone_absent fun client hlive =>
      habsent client ((hdone.live client).mpr hlive))

/-- A connection with no client is no matter of the block that
publishes. -/
theorem sameTo_publishFrom_absent (h : r.Sound)
    (habsent : ∀ client, ¬ r.clients.Live c client)
    (answers : ℕ → FanoutAnswers) (turns turn : ℕ) :
    r.clients.SameTo c
      (publishFrom kernel answers turns turn r).clients := by
  induction turns generalizing r turn with
  | zero => exact .refl c _
  | succ turns ih =>
    have hpump := sameTo_pump_absent kernel (answers turn) h habsent
    unfold publishFrom
    dsimp only
    split
    · exact hpump.trans (ih h.pump
        (fun client hlive => habsent client ((hpump.live client).mpr hlive)) _)
    · exact hpump

/-- Where one run has lost its last client, the other may publish on. -/
theorem sameTo_publishFrom_ended {clients : IqClients} (h : r.Sound)
    (hsame : clients.SameTo c r.clients) (hended : clients.connected = false)
    (answers : ℕ → FanoutAnswers) (turns turn : ℕ) :
    clients.SameTo c (publishFrom kernel answers turns turn r).clients :=
  hsame.trans (sameTo_publishFrom_absent h (fun client hlive =>
    IqClients.not_live_of_not_connected hended client ((hsame.live client).mpr hlive))
    answers turns turn)

/-- **The block that publishes is the same to a connection** whose own
socket accepts everything, where no socket makes the writer wait. The
publishers stay the same as long as both runs have a client. -/
theorem sameTo_publishFrom (kernel : RtlKernel)
    {a a' : ℕ → FanoutAnswers} (h : r.Sound) (h' : r'.Sound)
    (hbounded : r.clients.rtl.Bounded)
    (hbounded' : r'.clients.rtl.Bounded)
    (hpublisher : r.publisher = r'.publisher)
    (hsame : r.clients.SameTo c r'.clients)
    (hwhole : ∀ turn, (a turn).Whole r.clients)
    (hwhole' : ∀ turn, (a' turn).Whole r'.clients)
    (haccepts : (∃ client, r.clients.Live c client) →
      ∀ turn, ((a turn).http c).Accepts ∧ ((a' turn).http c).Accepts)
    (turns turn : ℕ) :
    let s := publishFrom kernel a turns turn r
    let s' := publishFrom kernel a' turns turn r'
    s.clients.SameTo c s'.clients
      ∧ (s.clients.connected = true → s'.clients.connected = true →
        s.publisher = s'.publisher) := by
  induction turns generalizing r r' turn with
  | zero => exact ⟨hsame, fun _ _ => hpublisher⟩
  | succ turns ih =>
    have hlength := h.publisher.prepareFrame.1.length_pending
    have hpump := pump_whole kernel h hbounded (hwhole turn)
    have hpump' := pump_whole kernel h' hbounded' (hwhole' turn)
    rw [← hpublisher] at hpump'
    have hnext : (r.pump kernel (a turn)).2.Sound := h.pump
    have hnext' : (r'.pump kernel (a' turn)).2.Sound := h'.pump
    have hb : (r.pump kernel (a turn)).2.clients.rtl.Bounded :=
      bounded_pump h hbounded
    have hb' : (r'.pump kernel (a' turn)).2.clients.rtl.Bounded :=
      bounded_pump h' hbounded'
    have hstayed := outlasts_pump kernel (a turn) h
    have hstayed' := outlasts_pump kernel (a' turn) h'
    have hserved : (r.clients.served kernel (a turn)
          r.publisher.prepareFrame.2.pending).SameTo c
        (r'.clients.served kernel (a' turn)
          r.publisher.prepareFrame.2.pending) :=
      hsame.served fun client hlive =>
        (IqClient.serve_accepts hlength (haccepts ⟨client, hlive⟩ turn).1).trans
          (IqClient.serve_accepts hlength (haccepts ⟨client, hlive⟩ turn).2).symm
    revert hpump hpump' hserved
    generalize r.publisher.prepareFrame = prepared at *
    intro hpump hpump' hserved
    unfold publishFrom
    dsimp only
    -- both runs find the same frame, so neither is idle alone
    rcases hpump with ⟨hno, hidle⟩ | ⟨hready, ⟨hgone, hclients, hended⟩ | hok⟩
    · rcases hpump' with ⟨-, hidle'⟩ | ⟨hready, -⟩
      · rw [hidle, hidle']
        exact ⟨hsame, fun _ _ => hpublisher⟩
      · exact absurd (hno.symm.trans hready) (by simp)
    all_goals
      rcases hpump' with ⟨hno, -⟩ | ⟨-, ⟨hgone', hclients', hended'⟩ | hok'⟩
      · exact absurd (hno.symm.trans hready) (by simp)
    · -- both have lost their last client
      rw [if_neg (by simp [hgone]), if_neg (by simp [hgone']), hclients,
        hclients']
      exact ⟨hserved, fun hopen => absurd hopen (by simp [hended])⟩
    · rw [if_neg (by simp [hgone]), if_pos (by rw [hok']), hclients]
      rw [hok'] at hnext' ⊢
      refine ⟨?_, fun hopen => absurd hopen (by simp [hended])⟩
      have habsent (client) (hlive : (r'.clients.served kernel (a' turn)
          prepared.2.pending).Live c client) : False :=
        IqClients.not_live_of_not_connected hended client
          ((hserved.live client).mpr hlive)
      exact sameTo_publishFrom_ended hnext'
        (hserved.trans (IqClients.sameTo_frameDone_absent habsent)) hended _ _ _
    · rw [if_pos (by rw [hok]), if_neg (by simp [hgone']), hclients']
      rw [hok] at hnext ⊢
      refine ⟨?_, fun _ hopen => absurd hopen (by simp [hended'])⟩
      have habsent (client) (hlive : (r.clients.served kernel (a turn)
          prepared.2.pending).Live c client) : False :=
        IqClients.not_live_of_not_connected hended' client
          ((hserved.live client).mp hlive)
      exact (sameTo_publishFrom_ended hnext
        (hserved.symm.trans (IqClients.sameTo_frameDone_absent habsent))
        hended' _ _ _).symm
    · rw [if_pos (by rw [hok]), if_pos (by rw [hok'])]
      refine ih hnext hnext' hb hb' ?_ ?_
        (fun next => (hwhole next).outlasts hstayed)
        (fun next => (hwhole' next).outlasts hstayed')
        (fun hlive => haccepts (hlive.elim (hstayed.live c))) _
      · rw [hok, hok']
      · rw [hok, hok']
        exact hserved.frameDone

/-! ## One event in two runs -/

/-- **Two states that are alike to a connection**: its client is the same,
and as long as it is there or may come, so is the publisher. -/
structure Alike (c : ℕ) (r r' : Receive) : Prop where
  arrivals : r.clients.arrivals = r'.clients.arrivals
  clients : r.clients.SameTo c r'.clients
  publisher : (c < r.clients.arrivals → ∃ client, r.clients.Live c client) →
    r.clients.connected = true → r'.clients.connected = true →
    r.publisher = r'.publisher

/-- A client that is there is connected. -/
theorem connected_of_live {clients : IqClients} {client : IqClient}
    (h : clients.Live c client) : clients.connected = true := by
  by_contra hno
  exact IqClients.not_live_of_not_connected (by simpa using hno) client h

/-- **The two runs have a client each** while the connection has one or has
not come. -/
theorem Alike.publisher_eq (h : Alike c r r')
    (hbusy : r.clients.arrivals ≤ c →
      r.clients.connected = true ∧ r'.clients.connected = true)
    (hhere : c < r.clients.arrivals → ∃ client, r.clients.Live c client) :
    r.clients.connected = true ∧ r'.clients.connected = true
      ∧ r.publisher = r'.publisher := by
  by_cases hc : c < r.clients.arrivals
  · obtain ⟨client, hlive⟩ := hhere hc
    have hconnected := connected_of_live hlive
    have hconnected' := connected_of_live ((h.clients.live client).mp hlive)
    exact ⟨hconnected, hconnected', h.publisher hhere hconnected hconnected'⟩
  · obtain ⟨hconnected, hconnected'⟩ := hbusy (not_lt.mp hc)
    exact ⟨hconnected, hconnected', h.publisher hhere hconnected hconnected'⟩

/-- The block that publishes counts no connection. -/
theorem arrivals_publishFrom (h : r.Sound) (answers : ℕ → FanoutAnswers)
    (turns turn : ℕ) :
    (publishFrom kernel answers turns turn r).clients.arrivals
      = r.clients.arrivals := by
  induction turns generalizing r turn with
  | zero => rfl
  | succ turns ih =>
    have hpump : (r.pump kernel (answers turn)).2.clients.arrivals
        = r.clients.arrivals := by
      rcases pump_cases kernel (answers turn) h.publisher h.offset with
        ⟨-, hidle⟩ | ⟨-, ⟨hpump, -⟩ | ⟨hpump, -⟩ | ⟨hpump, -⟩⟩
      · rw [hidle]
      · rw [hpump]
        rfl
      · rw [hpump]
        rfl
      · rw [hpump]
        rfl
    unfold publishFrom
    dsimp only
    split
    · exact (ih h.pump _).trans hpump
    · exact hpump

/-- A stream goes on for a client that is not the first. -/
theorem freshIfFirst_of_connected (h : r.clients.connected = true) :
    r.freshIfFirst = r :=
  if_pos h

/-- A fresh stream is no matter of the clients. -/
theorem clients_freshIfFirst (r : Receive) :
    r.freshIfFirst.clients = r.clients := by
  unfold Receive.freshIfFirst
  split
  · rfl
  · rfl

/-- The client of a connection once a request for the stream was
answered. -/
theorem live_openIqStream {headerSent : Bool} {client : IqClient}
    (hconnected : r.clients.connected = true ∨ r.clients.arrivals ≠ c) :
    (r.openIqStream headerSent).clients.Live c client
      ↔ r.clients.Live c client
        ∨ headerSent = true ∧ (∃ i, r.clients.slots i = none)
          ∧ r.clients.arrivals = c
          ∧ client = { connection := c
                       joined := r.publisher.finished.length } := by
  unfold Receive.openIqStream
  extract_lets counted fresh
  have hclients : fresh.clients = counted.clients := clients_freshIfFirst _
  have hjoined (hc : r.clients.arrivals = c) :
      fresh.publisher = r.publisher := by
    have hopen : counted.clients.connected = true :=
      hconnected.resolve_right (not_not.mpr hc)
    have hfresh : fresh = counted := freshIfFirst_of_connected hopen
    rw [hfresh]
    rfl
  split
  · rename_i hfull
    refine ⟨Or.inl, fun hlive => hlive.elim id ?_⟩
    rintro ⟨-, ⟨i, hi⟩, -⟩
    have := List.find?_eq_none.mp hfull i (List.mem_finRange i)
    simp [hi] at this
  rename_i slot hslot
  have hfree : r.clients.slots slot = none := by
    simpa using List.find?_some hslot
  split
  · rename_i hsent
    constructor
    · rintro ⟨hc, i, hi⟩
      by_cases his : i = slot
      · subst his
        obtain rfl : { connection := r.clients.arrivals
                       joined := fresh.publisher.finished.length } = client := by
          simpa [withClients] using hi
        exact Or.inr ⟨hsent, ⟨i, hfree⟩, hc, by rw [hjoined hc, ← hc]⟩
      · refine Or.inl ⟨hc, i, ?_⟩
        simpa [withClients, hclients, his, counted] using hi
    · rintro (⟨hc, i, hi⟩ | ⟨-, -, hc, rfl⟩)
      · refine ⟨hc, i, ?_⟩
        have his : i ≠ slot := fun his => by simp [his, hfree] at hi
        simpa [withClients, hclients, his, counted] using hi
      · refine ⟨rfl, slot, ?_⟩
        simp [withClients, hjoined hc, hc]
  · rename_i hsent
    exact ⟨Or.inl, fun hlive => hlive.elim id fun hnew => absurd hnew.1 hsent⟩

/-- A request for the stream counts. -/
theorem openIqStream_clients (headerSent : Bool) (r : Receive) :
    (r.openIqStream headerSent).clients.arrivals = r.clients.arrivals + 1
      ∧ (r.openIqStream headerSent).clients.departed = r.clients.departed := by
  unfold Receive.openIqStream
  extract_lets counted fresh
  have hclients : fresh.clients = counted.clients := clients_freshIfFirst _
  split
  · exact ⟨rfl, rfl⟩
  split
  · exact ⟨congrArg (·.arrivals) hclients, congrArg (·.departed) hclients⟩
  · exact ⟨rfl, rfl⟩

/-- A request for the stream is no matter of the `rtl_tcp` side. -/
theorem rtl_openIqStream (headerSent : Bool) (r : Receive) :
    (r.openIqStream headerSent).clients.rtl = r.clients.rtl := by
  unfold Receive.openIqStream
  extract_lets counted fresh
  split
  · rfl
  split
  · exact congrArg (·.rtl) (clients_freshIfFirst counted)
  · rfl

/-- A request for the stream leaves the publisher of others alone. -/
theorem publisher_openIqStream {headerSent : Bool}
    (h : r.clients.connected = true) :
    (r.openIqStream headerSent).publisher = r.publisher := by
  unfold Receive.openIqStream
  extract_lets counted fresh
  have hfresh : fresh = counted := freshIfFirst_of_connected h
  split
  · rfl
  split
  · change fresh.publisher = r.publisher
    rw [hfresh]
    rfl
  · rfl

/-- The bytes of the `rtl_tcp` client stay within bounds as frames go
out. -/
theorem bounded_publishFrom (h : r.Sound) (hbounded : r.clients.rtl.Bounded)
    (answers : ℕ → FanoutAnswers) (turns turn : ℕ) :
    (publishFrom kernel answers turns turn r).clients.rtl.Bounded := by
  induction turns generalizing r turn with
  | zero => exact hbounded
  | succ turns ih =>
    unfold publishFrom
    dsimp only
    split
    · exact ih h.pump (bounded_pump h hbounded) _
    · exact bounded_pump h hbounded

/-- Whatever happens, they stay within bounds. -/
theorem bounded_step (h : r.Sound) (hbounded : r.clients.rtl.Bounded)
    (event : ReceiveEvent) : (r.step kernel event).clients.rtl.Bounded := by
  unfold Receive.step
  split
  · exact hbounded
  · exact hbounded
  · rw [RtlClient.Bounded, rtl_openIqStream]
    exact hbounded
  · unfold Receive.acceptRtl
    split
    · exact Nat.zero_le _
    · exact hbounded
  · split
    · change (RtlClient.setSampleRate _ r.clients.rtl).Bounded
      unfold RtlClient.setSampleRate
      split
      · exact Nat.zero_le _
      · exact hbounded
    · exact hbounded
  · split
    · exact Nat.zero_le _
    · exact hbounded
  · exact hbounded
  · unfold Receive.publish
    split
    · exact hbounded
    · exact bounded_publishFrom h.noted hbounded _ _ _

/-- Over a run they stay within bounds. -/
theorem bounded_run (h : r.Sound) (hbounded : r.clients.rtl.Bounded)
    (events : List ReceiveEvent) : (r.run kernel events).clients.rtl.Bounded := by
  induction events generalizing r with
  | nil => exact hbounded
  | cons event events ih =>
    exact ih (h.step event) (bounded_step h hbounded event)

/-- **Undisturbed**: the two runs go on alike, the connection's own socket
accepts everything while the connection has a client, no client's makes the
writer wait, and until the connection has come both runs have a client, and a
slot for it or neither. -/
structure Undisturbed (c : ℕ) (r r' : Receive) (event event' : ReceiveEvent) :
    Prop where
  same : event.SameBut c event'
  accepts : (∃ client, r.clients.Live c client) → event.Accepts c
  whole : event.Whole r.clients
  whole' : event'.Whole r'.clients
  busy : r.clients.arrivals ≤ c →
    r.clients.connected = true ∧ r'.clients.connected = true
  room : r.clients.arrivals = c →
    ((∃ i, r.clients.slots i = none) ↔ ∃ i, r'.clients.slots i = none)

/-- The publisher of a run whose slots stay as they are. -/
theorem Alike.of_slots {s s' : Receive} (h : Alike c r r')
    (hbusy : r.clients.arrivals ≤ c →
      r.clients.connected = true ∧ r'.clients.connected = true)
    (harrivals : s.clients.arrivals = r.clients.arrivals)
    (harrivals' : s'.clients.arrivals = r'.clients.arrivals)
    (hclients : r.clients.SameTo c s.clients)
    (hclients' : r'.clients.SameTo c s'.clients)
    (hpublisher : r.clients.connected = true → r'.clients.connected = true →
      r.publisher = r'.publisher → s.publisher = s'.publisher) :
    Alike c s s' where
  arrivals := by rw [harrivals, harrivals', h.arrivals]
  clients := (hclients.symm.trans h.clients).trans hclients'
  publisher hhere _ _ := by
    obtain ⟨hconnected, hconnected', hequal⟩ := h.publisher_eq hbusy fun hc =>
      (hhere (harrivals ▸ hc)).imp fun client hlive =>
        (hclients.live client).mpr hlive
    exact hpublisher hconnected hconnected' hequal

/-- Clients whose slots and departures are the same are the same to every
connection. -/
theorem sameTo_of_eq {clients clients' : IqClients}
    (hslots : clients'.slots = clients.slots)
    (hdeparted : clients'.departed = clients.departed) :
    clients.SameTo c clients' where
  live _ := by rw [IqClients.Live, IqClients.Live, hslots]
  gone _ := by rw [IqClients.Gone, IqClients.Gone, hdeparted]

/-- A request for the stream in both runs. -/
theorem Alike.openIqStream (h : Alike c r r') (headerSent : Bool)
    (hbusy : r.clients.arrivals ≤ c →
      r.clients.connected = true ∧ r'.clients.connected = true)
    (hroom : r.clients.arrivals = c →
      ((∃ i, r.clients.slots i = none) ↔ ∃ i, r'.clients.slots i = none)) :
    Alike c (r.openIqStream headerSent) (r'.openIqStream headerSent) := by
  obtain ⟨harrivals, hdeparted⟩ := openIqStream_clients headerSent r
  obtain ⟨harrivals', hdeparted'⟩ := openIqStream_clients headerSent r'
  have hsome : r.clients.connected = true ∨ r.clients.arrivals ≠ c := by
    by_cases hc : r.clients.arrivals = c
    · exact Or.inl (hbusy hc.le).1
    · exact Or.inr hc
  have hsome' : r'.clients.connected = true ∨ r'.clients.arrivals ≠ c := by
    rw [← h.arrivals]
    by_cases hc : r.clients.arrivals = c
    · exact Or.inl (hbusy hc.le).2
    · exact Or.inr hc
  have hfinished (hc : r.clients.arrivals = c) :
      r.publisher = r'.publisher :=
    (h.publisher_eq hbusy fun hlt => absurd hc (by omega)).2.2
  refine ⟨by rw [harrivals, harrivals', h.arrivals], ⟨fun client => ?_,
    fun client => ?_⟩, fun hhere _ _ => ?_⟩
  · rw [live_openIqStream hsome, live_openIqStream hsome', h.clients.live,
      ← h.arrivals]
    refine or_congr_right (and_congr_right fun _ => ?_)
    constructor
    · rintro ⟨hfree, hc, rfl⟩
      exact ⟨(hroom hc).mp hfree, hc, by rw [hfinished hc]⟩
    · rintro ⟨hfree, hc, rfl⟩
      exact ⟨(hroom hc).mpr hfree, hc, by rw [hfinished hc]⟩
  · have hgone := h.clients.gone client
    rw [IqClients.Gone, IqClients.Gone] at hgone ⊢
    rwa [hdeparted, hdeparted']
  · have hbefore : c < r.clients.arrivals →
        ∃ client, r.clients.Live c client := fun hc => by
      obtain ⟨client, hlive⟩ := hhere (by omega)
      rw [live_openIqStream hsome] at hlive
      rcases hlive with hlive | ⟨-, -, hnew, -⟩
      · exact ⟨client, hlive⟩
      · omega
    obtain ⟨hconnected, hconnected', hequal⟩ := h.publisher_eq hbusy hbefore
    rw [publisher_openIqStream hconnected, publisher_openIqStream hconnected',
      hequal]

/-- A `rtl_tcp` client comes, or does not, in either run. -/
theorem Alike.acceptRtl (h : Alike c r r') (headerSent : Bool)
    (hbusy : r.clients.arrivals ≤ c →
      r.clients.connected = true ∧ r'.clients.connected = true) :
    Alike c (r.acceptRtl headerSent) (r'.acceptRtl headerSent) := by
  have hclients (r : Receive) :
      (r.acceptRtl headerSent).clients.arrivals = r.clients.arrivals
        ∧ r.clients.SameTo c (r.acceptRtl headerSent).clients := by
    have hfresh := clients_freshIfFirst r
    unfold Receive.acceptRtl
    split
    · exact ⟨congrArg (·.arrivals) hfresh, sameTo_of_eq
        (congrArg (·.slots) hfresh) (congrArg (·.departed) hfresh)⟩
    · exact ⟨rfl, .refl c _⟩
  have hpublisher (r : Receive) (hconnected : r.clients.connected = true) :
      (r.acceptRtl headerSent).publisher = r.publisher := by
    unfold Receive.acceptRtl
    split
    · change r.freshIfFirst.publisher = r.publisher
      rw [freshIfFirst_of_connected hconnected]
    · rfl
  exact h.of_slots hbusy (hclients r).1 (hclients r').1 (hclients r).2
    (hclients r').2 fun hconnected hconnected' hequal => by
      rw [hpublisher r hconnected, hpublisher r' hconnected', hequal]

/-- The `rtl_tcp` side changes, where there is a client, in either run. -/
theorem Alike.ifRtl (h : Alike c r r') (f : RtlClient → RtlClient)
    (hbusy : r.clients.arrivals ≤ c →
      r.clients.connected = true ∧ r'.clients.connected = true) :
    Alike c
      (if r.clients.rtl.isOpen then r.withClients (·.withRtl f) else r)
      (if r'.clients.rtl.isOpen then r'.withClients (·.withRtl f) else r')
    := by
  have hsame (r : Receive) :
      let s := if r.clients.rtl.isOpen then r.withClients (·.withRtl f) else r
      s.clients.arrivals = r.clients.arrivals ∧ s.publisher = r.publisher
        ∧ r.clients.SameTo c s.clients := by
    dsimp only
    split
    · exact ⟨rfl, rfl, sameTo_of_eq rfl rfl⟩
    · exact ⟨rfl, rfl, .refl c _⟩
  obtain ⟨harrivals, hpublisher, hclients⟩ := hsame r
  obtain ⟨harrivals', hpublisher', hclients'⟩ := hsame r'
  exact h.of_slots hbusy harrivals harrivals' hclients hclients'
    fun _ _ hequal => by rw [hpublisher, hpublisher', hequal]

/-- The radio fails in both runs. -/
theorem Alike.abandoned (h : Alike c r r')
    (hbusy : r.clients.arrivals ≤ c →
      r.clients.connected = true ∧ r'.clients.connected = true) :
    Alike c r.abandoned r'.abandoned := by
  have hlive (r : Receive) (client : IqClient) :
      ¬ r.abandoned.clients.Live c client := by
    rintro ⟨-, i, hi⟩
    exact absurd (show (none : Option IqClient) = some client from hi)
      (by simp)
  have hgone (r : Receive) (client : IqClient) :
      r.abandoned.clients.Gone c client
        ↔ r.clients.Gone c client ∨ r.clients.Live c client := by
    refine IqClients.gone_withSlots.trans (or_congr_right ?_)
    exact and_congr_right fun _ => exists_congr fun i => by simp
  refine ⟨h.arrivals, ⟨fun client => ?_, fun client => ?_⟩,
    fun hhere _ _ => ?_⟩
  · exact iff_of_false (hlive r client) (hlive r' client)
  · rw [hgone, hgone, h.clients.gone, h.clients.live]
  · obtain ⟨-, -, hequal⟩ := h.publisher_eq hbusy fun hc => by
      obtain ⟨client, hclient⟩ := hhere hc
      exact absurd hclient (hlive r client)
    exact congrArg IqPublisher.disconnect hequal

/-- Nobody comes as a frame is noted. -/
theorem outlasts_noted : r.clients.Outlasts r.noted.clients where
  rtl := id
  live _ client hlive := ⟨client, hlive⟩

/-- The block that publishes, in both runs. -/
theorem Alike.publish (h : Alike c r r') {a a' : ℕ → FanoutAnswers}
    (hr : r.Sound) (hr' : r'.Sound) (hbounded : r.clients.rtl.Bounded)
    (hbounded' : r'.clients.rtl.Bounded)
    (hbusy : r.clients.arrivals ≤ c →
      r.clients.connected = true ∧ r'.clients.connected = true)
    (hwhole : ∀ turn, (a turn).Whole r.clients)
    (hwhole' : ∀ turn, (a' turn).Whole r'.clients)
    (haccepts : (∃ client, r.clients.Live c client) →
      ∀ turn, ((a turn).http c).Accepts ∧ ((a' turn).http c).Accepts) :
    Alike c (r.publish kernel a) (r'.publish kernel a') := by
  have harrivals (r : Receive) (hr : r.Sound) (a : ℕ → FanoutAnswers) :
      (r.publish kernel a).clients.arrivals = r.clients.arrivals := by
    unfold Receive.publish
    split
    · rfl
    · exact arrivals_publishFrom hr.noted a _ _
  have hall := (harrivals r hr a).trans
    (h.arrivals.trans (harrivals r' hr' a').symm)
  by_cases hhere : c < r.clients.arrivals → ∃ client, r.clients.Live c client
  · obtain ⟨hconnected, hconnected', hequal⟩ := h.publisher_eq hbusy hhere
    obtain ⟨hclients, hpublisher⟩ := sameTo_publishFrom kernel hr.noted
      hr'.noted hbounded hbounded' hequal (h.clients.withRtl _ _)
      (fun turn => (hwhole turn).outlasts outlasts_noted)
      (fun turn => (hwhole' turn).outlasts outlasts_noted) haccepts
      (r.publisher.source.contents.length + 2) 0
    rw [Receive.publish, Receive.publish] at *
    simp only [hconnected, hconnected', Bool.not_true, Bool.false_eq_true,
      if_false] at hall ⊢
    rw [hequal] at *
    exact ⟨hall, hclients, fun _ => hpublisher⟩
  · -- the connection has come and gone, and what goes on is no matter of it
    obtain ⟨hc, habsent⟩ : c < r.clients.arrivals
        ∧ ∀ client, ¬ r.clients.Live c client := by
      push Not at hhere
      exact hhere
    have hpublish (r : Receive) (hr : r.Sound) (a : ℕ → FanoutAnswers)
        (habsent : ∀ client, ¬ r.clients.Live c client) :
        r.clients.SameTo c (r.publish kernel a).clients := by
      unfold Receive.publish
      split
      · exact .refl c _
      · have hnoted : r.clients.SameTo c r.noted.clients :=
          (IqClients.SameTo.refl c r.clients).withRtl id _
        exact hnoted.trans (sameTo_publishFrom_absent hr.noted habsent a _ _)
    have hleft := hpublish r hr a habsent
    have hright := hpublish r' hr' a' fun client hlive =>
      habsent client ((h.clients.live client).mpr hlive)
    refine ⟨hall, (hleft.symm.trans h.clients).trans hright,
      fun hhere _ _ => ?_⟩
    obtain ⟨client, hlive⟩ := hhere (by rwa [harrivals r hr a])
    exact absurd ((hleft.live client).mpr hlive) (habsent client)

/-- A state is alike to itself. -/
theorem Alike.refl (c : ℕ) (r : Receive) : Alike c r r :=
  ⟨rfl, .refl c _, fun _ _ _ => rfl⟩

/-- **One step** of two undisturbed runs. -/
theorem Alike.step {event event' : ReceiveEvent} (h : Alike c r r')
    (hr : r.Sound) (hr' : r'.Sound) (hbounded : r.clients.rtl.Bounded)
    (hbounded' : r'.clients.rtl.Bounded)
    (hu : Undisturbed c r r' event event') :
    Alike c (r.step kernel event) (r'.step kernel event') := by
  obtain ⟨hsame, haccepts, hwhole, hwhole', hbusy, hroom⟩ := hu
  cases hsame with
  | publish hown =>
    refine h.publish hr hr' hbounded hbounded' hbusy (hwhole _ rfl)
      (hwhole' _ rfl) fun hlive turn => ?_
    rw [← hown turn]
    exact ⟨haccepts hlive _ rfl turn, haccepts hlive _ rfl turn⟩
  | same =>
    cases event with
    | samples samples =>
      exact h.of_slots hbusy rfl rfl (.refl c _) (.refl c _)
        fun _ _ hequal => congrArg (·.withSource (·.push samples)) hequal
    | cleared =>
      exact h.of_slots hbusy rfl rfl (.refl c _) (.refl c _)
        fun _ _ hequal => congrArg (·.withSource (·.clear)) hequal
    | openIqStream headerSent => exact h.openIqStream headerSent hbusy hroom
    | acceptRtl headerSent => exact h.acceptRtl headerSent hbusy
    | setSampleRate rate => exact h.ifRtl (·.setSampleRate rate) hbusy
    | rtlDisconnected => exact h.ifRtl (·.disconnected) hbusy
    | abandoned => exact h.abandoned hbusy
    | publish answers =>
      exact h.publish hr hr' hbounded hbounded' hbusy (hwhole _ rfl)
        (hwhole' _ rfl) fun hlive turn =>
          ⟨haccepts hlive _ rfl turn, haccepts hlive _ rfl turn⟩

/-! ## Delivery -/

/-- **Delivered**: where there is a client, no frame waits, and each has
read all there was since it came. -/
def Delivered (r : Receive) : Prop :=
  r.clients.connected = true →
    r.publisher.source.contents = [] ∧ r.publisher.pending = []
      ∧ ∀ i client, r.clients.slots i = some client →
        client.received
          = (r.publisher.frames.drop client.joined).flatMap IqFrame.encode

/-- How many frames there are at most to send. -/
def waiting (r : Receive) : ℕ :=
  r.publisher.source.contents.length
    + if r.publisher.pending = [] then 0 else 1

/-- With nothing waiting, everything is delivered. -/
theorem Sound.delivered (h : r.Sound)
    (hcontents : r.publisher.source.contents = [])
    (hpending : r.publisher.pending = []) : r.Delivered := fun _ => by
  refine ⟨hcontents, hpending, fun i client hi => ?_⟩
  rw [(h.live i client hi).received, hpending, List.take_nil, List.append_nil,
    IqPublisher.finished_of_none hpending]

/-- **Preparing a frame** takes one that is pending, or samples; where it
does neither nothing waits. -/
theorem prepareFrame_waiting (h : r.Sound) :
    (r.publisher.prepareFrame.1 = false → r.publisher.source.contents = []
        ∧ r.publisher.pending = [])
      ∧ (r.publisher.prepareFrame.1 = true →
        r.publisher.prepareFrame.2.source.contents.length < r.waiting) := by
  have hoffset := h.offset
  have hpos := r.publisher.samples_pos
  have hready (hne : r.publisher.pending ≠ []) :
      r.publisher.prepareFrame = (true, r.publisher) :=
    if_pos (by rw [hoffset]; exact List.length_pos_of_ne_nil hne)
  by_cases hnone : r.publisher.pending = []
  · refine ⟨fun hno => ⟨(h.publisher.prepareFrame.2.2 hno).2, hnone⟩, ?_⟩
    unfold waiting IqPublisher.prepareFrame
    rw [if_neg (by simp [hnone]), if_pos hnone]
    split
    · simp
    extract_lets popped bytes p'
    have hpopped : popped.2.contents.length
        < r.publisher.source.contents.length := by
      rw [show popped.2.contents = _ from IqRing.contents_pop _ _,
        List.length_drop]
      omega
    split
    · simp
    · exact fun _ => hpopped
  · rw [hready hnone]
    refine ⟨by simp, fun _ => ?_⟩
    rw [waiting, if_neg hnone]
    exact Nat.lt_succ_self _

/-- **The block that publishes delivers everything**, where no socket makes
the writer wait. -/
theorem delivered_publishFrom {a : ℕ → FanoutAnswers} (h : r.Sound)
    (hbounded : r.clients.rtl.Bounded)
    (hwhole : ∀ turn, (a turn).Whole r.clients)
    (turns turn : ℕ) (hturns : r.waiting < turns) :
    (publishFrom kernel a turns turn r).Delivered := by
  induction turns generalizing r turn with
  | zero => omega
  | succ turns ih =>
    obtain ⟨hidle, hless⟩ := prepareFrame_waiting h
    have hnext : (r.pump kernel (a turn)).2.Sound := h.pump
    have hb : (r.pump kernel (a turn)).2.clients.rtl.Bounded :=
      bounded_pump h hbounded
    have hprepared := h.publisher.prepareFrame_cases h.offset
    unfold publishFrom
    dsimp only
    rcases pump_whole kernel h hbounded (hwhole turn) with
      ⟨hno, hpump⟩ | ⟨hready, ⟨hgone, hclients, hended⟩ | hok⟩
    · obtain ⟨hcontents, hpending⟩ := hidle hno
      rw [hpump]
      exact h.delivered hcontents hpending
    · rw [if_neg (by simp [hgone])]
      intro hopen
      rw [hclients, hended] at hopen
      exact absurd hopen (by simp)
    · rw [if_pos (by rw [hok])]
      refine ih hnext hb (fun next => (hwhole next).outlasts
        (outlasts_pump kernel (a turn) h)) _ ?_
      have hzero : r.publisher.prepareFrame.2.pendingOffset = 0 := by
        rcases hprepared with hsame | ⟨-, hzero, -⟩
        · simp [hsame] at hready
        · exact hzero
      obtain ⟨hpending, -, hsource, -⟩ := IqPublisher.advanced_whole hzero
      have hwaiting := hless hready
      rw [hok]
      rw [waiting, hpending, if_pos rfl, hsource]
      omega

/-- The block as it is run has turns enough. -/
theorem delivered_publish {a : ℕ → FanoutAnswers} (h : r.Sound)
    (hbounded : r.clients.rtl.Bounded)
    (hwhole : ∀ turn, (a turn).Whole r.clients) :
    (r.publish kernel a).Delivered := by
  unfold Receive.publish
  split
  · rename_i hno
    intro hopen
    simp [hopen] at hno
  · refine delivered_publishFrom h.noted hbounded
      (fun turn => (hwhole turn).outlasts outlasts_noted) _ _ ?_
    change r.waiting < _
    rw [waiting]
    split <;> omega

/-! ## Two runs -/

/-- **Undisturbed runs**: every step of the two is. -/
def UndisturbedRuns (kernel : RtlKernel) (c : ℕ) :
    Receive → Receive → List (ReceiveEvent × ReceiveEvent) → Prop
  | _, _, [] => True
  | r, r', (event, event') :: events =>
    Undisturbed c r r' event event'
      ∧ UndisturbedRuns kernel c (r.step kernel event) (r'.step kernel event')
        events

/-- A connection has a client, or had. -/
def Has (r : Receive) (connection : ℕ) (client : IqClient) : Prop :=
  r.clients.Live connection client ∨ r.clients.Gone connection client

instance (r : Receive) (c : ℕ) (client : IqClient) :
    Decidable (r.Has c client) :=
  inferInstanceAs (Decidable (_ ∨ _))

/-- Undisturbed runs stay alike. -/
theorem Alike.run {events : List (ReceiveEvent × ReceiveEvent)}
    (h : Alike c r r') (hr : r.Sound) (hr' : r'.Sound)
    (hbounded : r.clients.rtl.Bounded) (hbounded' : r'.clients.rtl.Bounded)
    (hu : UndisturbedRuns kernel c r r' events) :
    Alike c (r.run kernel (events.map (·.1)))
      (r'.run kernel (events.map (·.2))) := by
  induction events generalizing r r' with
  | nil => exact h
  | cons pair events ih =>
    obtain ⟨hstep, hrest⟩ := hu
    exact ih (h.step hr hr' hbounded hbounded' hstep) (hr.step pair.1)
      (hr'.step pair.2) (bounded_step hr hbounded _)
      (bounded_step hr' hbounded' _) hrest

/-- What is undisturbed up to a step is so at the step. -/
theorem UndisturbedRuns.last {events : List (ReceiveEvent × ReceiveEvent)}
    {event event' : ReceiveEvent}
    (hu : UndisturbedRuns kernel c r r' (events ++ [(event, event')])) :
    Undisturbed c (r.run kernel (events.map (·.1)))
      (r'.run kernel (events.map (·.2))) event event' := by
  induction events generalizing r r' with
  | nil => exact hu.1
  | cons pair events ih => exact ih hu.2

/-- **Clients notice nothing of each other** while none holds up the writer:
take two runs from a state that was reached, with the same samples and the
same clients coming, in which the sockets of the others who are there answer
what they like but never make the writer wait. A client whose socket accepts everything, and comes
while both runs have a client, receives the same in both. Whenever frames
were published nobody who is left lacks any of them, so that a client which
takes nothing more is gone, and the others are served. -/
theorem same_of_undisturbed (kernel : RtlKernel) {capacity : ℕ}
    {hcapacity : 0 < capacity} {samplesPerFrame : ℕ} {p : IqPublisher}
    (hinit : IqPublisher.init (IqRing.init capacity hcapacity) samplesPerFrame
      = some p) (before : List ReceiveEvent) (c : ℕ)
    (events : List (ReceiveEvent × ReceiveEvent))
    (hu : UndisturbedRuns kernel c (run kernel { publisher := p } before)
      (run kernel { publisher := p } before) events) :
    let r := run kernel { publisher := p } before
    (∀ client, (r.run kernel (events.map (·.1))).Has c client
        ↔ (r.run kernel (events.map (·.2))).Has c client)
      ∧ ∀ events' a a',
        events = events' ++ [(.publish a, .publish a')] →
        (r.run kernel (events.map (·.1))).Delivered
          ∧ (r.run kernel (events.map (·.2))).Delivered := by
  intro r
  have hsound : r.Sound := (sound_init hinit).run before
  have hbounded : r.clients.rtl.Bounded :=
    bounded_run (sound_init hinit) (Nat.zero_le _) before
  constructor
  · have halike := (Alike.refl c r).run hsound hsound hbounded hbounded hu
    exact fun client => or_congr (halike.clients.live client)
      (halike.clients.gone client)
  · rintro events' a a' rfl
    have hlast := hu.last
    have hdelivered (events : List ReceiveEvent) (a : ℕ → FanoutAnswers)
        (hwhole : (ReceiveEvent.publish a).Whole
          (r.run kernel events).clients) :
        (r.run kernel (events ++ [.publish a])).Delivered := by
      rw [Receive.run, List.foldl_append]
      exact delivered_publish (hsound.run events)
        (bounded_run hsound hbounded events) (hwhole a rfl)
    rw [List.map_append, List.map_append]
    exact ⟨hdelivered _ a hlast.whole, hdelivered _ a' hlast.whole'⟩

/-- A receive stream nothing happened to. -/
def fresh : Receive :=
  { publisher := (IqPublisher.init (IqRing.init 8 (by decide)) 2).get rfl }

/-- Two clients of the stream. -/
def twoClients : Receive :=
  run .silent
    { publisher := (IqPublisher.init (IqRing.init 8 (by decide)) 2).get rfl }
    [.openIqStream true, .openIqStream true]

/-- Sockets of which the first accepts everything. -/
def firstAccepts (others : SendAnswer) : ℕ → FanoutAnswers := fun _ =>
  { rtl := others
    http := fun connection =>
      if connection = 0 then .sent rtlPendingSize else others }

/-- Two sockets accept everything, or one of them fails. -/
theorem same_of_undisturbed_failing :
    (∀ client,
      (twoClients.run .silent [.samples [⟨1, 2⟩, ⟨3, 4⟩, ⟨5, 6⟩],
        .publish (firstAccepts (.sent rtlPendingSize))]).Has 0 client
      ↔ (twoClients.run .silent [.samples [⟨1, 2⟩, ⟨3, 4⟩, ⟨5, 6⟩],
        .publish (firstAccepts .failed)]).Has 0 client)
      ∧ ∀ events' a a',
        [(ReceiveEvent.samples [⟨1, 2⟩, ⟨3, 4⟩, ⟨5, 6⟩],
            ReceiveEvent.samples [⟨1, 2⟩, ⟨3, 4⟩, ⟨5, 6⟩]),
          (.publish (firstAccepts (.sent rtlPendingSize)),
            .publish (firstAccepts .failed))]
          = events' ++ [(.publish a, .publish a')] →
        (twoClients.run .silent [.samples [⟨1, 2⟩, ⟨3, 4⟩, ⟨5, 6⟩],
          .publish (firstAccepts (.sent rtlPendingSize))]).Delivered
        ∧ (twoClients.run .silent [.samples [⟨1, 2⟩, ⟨3, 4⟩, ⟨5, 6⟩],
          .publish (firstAccepts .failed)]).Delivered := by
  have hwhole (others : SendAnswer) (h : others.Whole) (turn : ℕ)
      (clients : IqClients) : (firstAccepts others turn).Whole clients := by
    refine ⟨fun _ => h, fun connection _ _ => ?_⟩
    unfold firstAccepts
    dsimp only
    split
    · exact Or.inl SendAnswer.accepts_sent
    · exact h
  refine same_of_undisturbed .silent (Option.some_get _).symm
    [.openIqStream true, .openIqStream true] 0
    [(.samples [⟨1, 2⟩, ⟨3, 4⟩, ⟨5, 6⟩], .samples [⟨1, 2⟩, ⟨3, 4⟩, ⟨5, 6⟩]),
      (.publish (firstAccepts (.sent rtlPendingSize)),
        .publish (firstAccepts .failed))] ⟨?_, ?_, trivial⟩
  · exact ⟨.same _, by rintro - _ ⟨⟩, by rintro _ ⟨⟩, by rintro _ ⟨⟩,
      fun hc => absurd hc (by decide +kernel),
      fun hc => absurd hc (by decide +kernel)⟩
  · refine ⟨.publish fun _ => rfl, ?_, ?_, ?_,
      fun hc => absurd hc (by decide +kernel),
      fun hc => absurd hc (by decide +kernel)⟩
    · rintro - _ ⟨⟩ _
      exact SendAnswer.accepts_sent
    · rintro _ ⟨⟩ turn
      exact hwhole _ (Or.inl SendAnswer.accepts_sent) turn _
    · rintro _ ⟨⟩ turn
      exact hwhole _ (Or.inr SendAnswer.fails_failed) turn _

/-- **A socket that is full holds up the others.** The second client takes
nothing, or everything: the first, which accepts all it is offered, has one
frame in one run and both in the other. -/
theorem stalled_by_other : ¬ ∀ events : List (ReceiveEvent × ReceiveEvent),
    (∀ pair ∈ events, pair.1.SameBut 0 pair.2
      ∧ pair.1.Accepts 0 ∧ pair.2.Accepts 0) →
    ∀ client, (twoClients.run .silent (events.map (·.1))).Has 0 client
      ↔ (twoClients.run .silent (events.map (·.2))).Has 0 client := by
  intro h
  have hsame := h
    [(.samples [⟨1, 2⟩, ⟨3, 4⟩, ⟨5, 6⟩], .samples [⟨1, 2⟩, ⟨3, 4⟩, ⟨5, 6⟩]),
      (.publish (firstAccepts .wouldBlock),
        .publish (firstAccepts (.sent rtlPendingSize)))]
    (by
      rintro pair hpair
      rcases List.mem_cons.mp hpair with rfl | hpair
      · exact ⟨.same _, by rintro _ ⟨⟩, by rintro _ ⟨⟩⟩
      · obtain rfl := List.mem_singleton.mp hpair
        refine ⟨.publish fun _ => rfl, ?_, ?_⟩
        · rintro _ ⟨⟩ _
          exact SendAnswer.accepts_sent
        · rintro _ ⟨⟩ _
          exact SendAnswer.accepts_sent)
    { connection := 0
      joined := 0
      pendingOffset := 36
      received := encodeIqFrame 0 [⟨1, 2⟩, ⟨3, 4⟩] 2068 }
  exact absurd hsame (by decide +kernel)

end Receive
