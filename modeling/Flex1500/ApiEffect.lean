import Flex1500.Api
import Flex1500.TxPaths

/-!
# What a request can do

Two facts about the dispatcher, each taken over all its routes.

The first is that it moves the three transmit records only along paths of
moves: whatever is asked of it, `dispatch_cases` puts the answer in terms of
`TxMove`, at the time of the request, or says how the request fed the
session.

The second is about authority. With a station owner attached, a request
that does not present the lease the station is held under moves none of
them, changes no setting that matters to the radio, and reaches no callback
at all: the answer and the state it leaves are the same for every choice of
callbacks, and the radio is the radio it was.
-/

open CText HttpRequest

variable {ρ : Type} {cb : TxCallbacks (TxContext (ApiWorld ρ))}
variable {ops : RadioOps ρ} {W : ApiWorld ρ → ApiWorld ρ → Prop}
variable {p : TxPlane (ApiWorld ρ)} {request : CText} {radio : RadioInfo}
variable {capacity : ℕ} {pages : ApiPages}

/-- **What a dispatch does to the world** by itself: settings, the station,
and the radio through the two callbacks. -/
structure ApiWorld.Allows (ops : RadioOps ρ)
    (W : ApiWorld ρ → ApiWorld ρ → Prop) : Prop where
  api : ∀ (w : ApiWorld ρ) (api : ApiController), W w { w with api := api }
  station : ∀ (w : ApiWorld ρ) (station : StationOwner),
    W w { w with station := station }
  tuneRx : ∀ (w : ApiWorld ρ) tuneRx frequencyHz, ops.tuneRx = some tuneRx →
    W w { w with radio := (tuneRx frequencyHz w.radio).2 }
  setRxGain : ∀ (w : ApiWorld ρ) setRxGain gainDb,
    ops.setRxGain = some setRxGain →
    W w { w with radio := (setRxGain gainDb w.radio).2 }

/-- An answer that hands its caller no session to feed. -/
def ApiReply.Plain (reply : ApiReply) : Prop :=
  reply.action ≠ .openTxStream ∧ reply.action ≠ .pushTxAudio

namespace Api

/-! ## Routes as paths -/

section Paths

variable (hW : ApiWorld.Allows ops W)

include hW in
/-- Changing a setting is a move of the world. -/
theorem withApi_path (f : ApiController → ApiController) (nowMs : UInt64) :
    p.ReachesAt cb W nowMs (p.withApi f) :=
  .one (.world (hW.api _ _)) trivial

/-- A stream opened: the session had none, and has one now. -/
structure Opens (lease : UInt64) (p q : TxPlane (ApiWorld ρ)) : Prop where
  owns : p.network.owns lease = true
  streamConnected : p.network.streamConnected = false
  result : q = p.withNetwork (·.attached p.world.api.requestNowMs)

/-- A session with samples posted: it is attached to if it has no stream,
and the samples are recorded. -/
def posted (bytes : ℕ) (nowMs : UInt64) (session : NetworkTx) : NetworkTx :=
  (if session.streamConnected then session
    else session.attached nowMs).recorded (bytes / 2) nowMs

/-- Samples posted to a session. -/
structure Posts (request : CText) (lease : UInt64)
    (p q : TxPlane (ApiWorld ρ)) : Prop where
  owns : p.network.owns lease = true
  source : p.network.profile.source = .audio
  result : ∃ bytes, audioBytes request = some bytes
    ∧ q = p.withNetwork (posted bytes p.world.api.requestNowMs)

/-- Opening a stream is a move. -/
theorem Opens.path {lease : UInt64} {q : TxPlane (ApiWorld ρ)}
    (h : Opens lease p q) : p.ReachesFeeding cb W q := by
  rw [h.result]
  exact .one (.attach (NetworkTx.owns_iff.mp h.owns).1 h.streamConnected)
    trivial

/-- Posting samples is a path of moves. -/
theorem Posts.path {lease : UInt64} {q : TxPlane (ApiWorld ρ)}
    (h : Posts request lease p q) : p.ReachesFeeding cb W q := by
  obtain ⟨bytes, _, hq⟩ := h.result
  have hr := (NetworkTx.owns_iff.mp h.owns).1
  rw [hq]
  by_cases hs : p.network.streamConnected = true
  · have he : p.withNetwork (posted bytes p.world.api.requestNowMs)
        = p.withNetwork
            (·.recorded (bytes / 2) p.world.api.requestNowMs) := by
      simp [posted, hs, TxPlane.withNetwork]
    rw [he]
    exact .one (.record hr hs) trivial
  · have he : p.withNetwork (posted bytes p.world.api.requestNowMs)
        = (p.withNetwork (·.attached p.world.api.requestNowMs)).withNetwork
            (·.recorded (bytes / 2) p.world.api.requestNowMs) := by
      simp [posted, hs, TxPlane.withNetwork]
    rw [he]
    exact .trans (.one (.attach hr (by simpa using hs)) trivial)
      (.one (.record hr rfl) trivial)

/-- The length a post declares is that of samples. -/
theorem audioBytes_bounds {bytes : ℕ} (h : audioBytes request = some bytes) :
    0 < bytes ∧ bytes ≤ 9600 ∧ bytes % 2 = 0 := by
  unfold audioBytes at h
  obtain ⟨_, _, h⟩ := Option.bind_eq_some_iff.mp h
  obtain ⟨_, _, h⟩ := Option.bind_eq_some_iff.mp h
  obtain ⟨value, _, h⟩ := Option.bind_eq_some_iff.mp h
  split at h
  · rename_i hb
    obtain rfl := by simpa using h
    exact hb
  · simp at h

/-- Owning a session is no matter of its stream. -/
theorem owns_attached (session : NetworkTx) (lease nowMs : UInt64) :
    (session.attached nowMs).owns lease = session.owns lease := rfl

variable (request) in
/-- **Posting samples** feeds the session, or does nothing. -/
theorem txAudio_cases (lease : UInt64) (p : TxPlane (ApiWorld ρ)) :
    ((txAudio request lease p).1 ≠ .ok ∧ (txAudio request lease p).2 = p)
    ∨ (txAudio request lease p).1 = .ok
      ∧ Posts request lease p (txAudio request lease p).2 := by
  unfold txAudio
  split
  · exact Or.inl ⟨by simp, rfl⟩
  rename_i bytes hbytes
  have hframes : bytes / 2 ≠ 0 := by
    have := audioBytes_bounds hbytes
    omega
  split
  · exact Or.inl ⟨by simp, rfl⟩
  rename_i hsource
  have hsource : p.network.profile.source = .audio := by simpa using hsource
  by_cases ho : p.network.owns lease = true
  · -- the session attaches if it has to, and then takes the samples
    refine Or.inr ?_
    by_cases hs : p.network.streamConnected = true
    · simp only [hs, Bool.not_true, Bool.false_eq_true, if_false, if_true,
        TxPlane.withNetwork_network, NetworkTx.recordData, ho, hframes,
        Bool.false_or, beq_iff_eq]
      exact ⟨trivial, ho, hsource, bytes, hbytes, by
        simp [posted, hs, TxPlane.withNetwork]⟩
    · simp only [hs, Bool.not_false, if_true, NetworkTx.attachStream, ho,
        Bool.not_true, Bool.false_eq_true, if_false,
        TxPlane.withNetwork_network, NetworkTx.recordData, owns_attached]
      have hattached : (p.network.attached
          p.world.api.requestNowMs).streamConnected = true := rfl
      simp only [hattached, Bool.not_true, Bool.false_or, beq_iff_eq, hframes,
        if_false]
      exact ⟨trivial, ho, hsource, bytes, hbytes, by
        simp [posted, hs, TxPlane.withNetwork]⟩
  · refine Or.inl ?_
    by_cases hs : p.network.streamConnected = true
    · simp [hs, NetworkTx.recordData, ho, TxPlane.withNetwork]
    · simp [hs, NetworkTx.attachStream, ho, TxPlane.withNetwork]

variable (hp : p.Coherent)

include hp in
/-- The routes that carry a transmit lease: what they do, unless they feed
the session. -/
theorem txLeaseRoute_cases (lease : UInt64) :
    let r := txLeaseRoute cb request radio lease p
    ((r.1 = .ok → requestIs "CONNECT" "/v1/tx/stream" request = false
          ∧ requestIs "POST" "/v1/tx/audio" request = false)
        ∧ p.ReachesAt cb W p.world.api.requestNowMs r.2)
      ∨ r.1 = .ok ∧ (requestIs "CONNECT" "/v1/tx/stream" request = true
          ∧ Opens lease p r.2
        ∨ requestIs "CONNECT" "/v1/tx/stream" request = false
          ∧ requestIs "POST" "/v1/tx/audio" request = true
          ∧ Posts request lease p r.2) := by
  have hother {method path : String}
      (hr : requestIs method path request = true)
      (hc : (ofString (method ++ " " ++ path ++ " HTTP/")).isPrefixOf
          (ofString "CONNECT /v1/tx/stream HTTP/") = false
        ∧ (ofString "CONNECT /v1/tx/stream HTTP/").isPrefixOf
          (ofString (method ++ " " ++ path ++ " HTTP/")) = false)
      (ha : (ofString (method ++ " " ++ path ++ " HTTP/")).isPrefixOf
          (ofString "POST /v1/tx/audio HTTP/") = false
        ∧ (ofString "POST /v1/tx/audio HTTP/").isPrefixOf
          (ofString (method ++ " " ++ path ++ " HTTP/")) = false) :
      requestIs "CONNECT" "/v1/tx/stream" request = false
        ∧ requestIs "POST" "/v1/tx/audio" request = false :=
    ⟨hasPrefix_eq_false hr hc.1 hc.2, hasPrefix_eq_false hr ha.1 ha.2⟩
  intro r
  have he : r = txLeaseRoute cb request radio lease p := rfl
  unfold txLeaseRoute at he
  dsimp only at he
  split at he
  · rename_i hr
    rw [he]
    exact Or.inl ⟨fun _ => hother hr (by decide) (by decide),
      NetworkTx.keepalive_path lease _⟩
  split at he
  · rename_i hr
    by_cases hopen : p.network.owns lease = true
        ∧ p.network.streamConnected = false
    · refine Or.inr ⟨by rw [he]; simp [NetworkTx.attachStream, hopen.1,
        hopen.2], Or.inl ⟨hr, hopen.1, hopen.2, ?_⟩⟩
      rw [he]
      simp [NetworkTx.attachStream, hopen.1, hopen.2, TxPlane.withNetwork]
    · refine Or.inl ⟨fun hok => absurd ?_ hopen, ?_⟩
      · rw [he] at hok
        simp only [NetworkTx.attachStream] at hok
        split at hok
        · simp at hok
        split at hok
        · simp at hok
        · simp_all
      · have hsame : r.2 = p := by
          rw [he]
          simp only [NetworkTx.attachStream, TxPlane.withNetwork]
          split
          · rfl
          split
          · rfl
          · simp_all
        rw [hsame]
        exact .refl p
  rename_i hconnect
  have hconnect : requestIs "CONNECT" "/v1/tx/stream" request = false := by
    simpa using hconnect
  split at he
  · rename_i hr
    refine Or.inl ⟨fun _ => hother hr (by decide) (by decide), ?_⟩
    split at he
    · rw [he]
      exact NetworkTx.pttStart_path hp lease _
    · rw [he]
      exact .refl p
  split at he
  · rename_i hr
    rw [he]
    exact Or.inl ⟨fun _ => hother hr (by decide) (by decide),
      TxPlane.ReachesPassively.at (NetworkTx.pttStop_path hp lease) _⟩
  split at he
  · rename_i hr
    rw [he]
    exact Or.inl ⟨fun _ => hother hr (by decide) (by decide),
      TxPlane.ReachesPassively.at (NetworkTx.release_path hp lease) _⟩
  split at he
  · rename_i hr
    rcases txAudio_cases request lease p with ⟨hno, hsame⟩ | ⟨hok, hposts⟩
    · rw [he, hsame]
      exact Or.inl ⟨fun h => absurd h hno, .refl p⟩
    · rw [he]
      exact Or.inr ⟨hok, Or.inr ⟨hconnect, hr, hposts⟩⟩
  · rw [he]
    exact Or.inl ⟨by simp, .refl p⟩

variable (cb request radio) in
include hW hp in
/-- The operations of a transmit session: what they do, unless they feed
it. -/
theorem txOperation_cases :
    let r := txOperation cb request radio p
    ((r.1.1 = .ok → requestIs "CONNECT" "/v1/tx/stream" request = false
          ∧ requestIs "POST" "/v1/tx/audio" request = false)
        ∧ p.ReachesAt cb W p.world.api.requestNowMs r.2)
      ∨ r.1.1 = .ok ∧ ∃ l, HttpRequest.lease request = some l
        ∧ (requestIs "CONNECT" "/v1/tx/stream" request = true
            ∧ Opens l p r.2
          ∨ requestIs "CONNECT" "/v1/tx/stream" request = false
            ∧ requestIs "POST" "/v1/tx/audio" request = true
            ∧ Posts request l p r.2) := by
  unfold txOperation
  split
  · rename_i hr
    refine Or.inl ⟨fun _ => ⟨hasPrefix_eq_false hr (by decide) (by decide),
      hasPrefix_eq_false hr (by decide) (by decide)⟩, ?_⟩
    unfold txSessionCreate
    dsimp only
    split
    · exact .refl p
    · exact (withApi_path hW _ _).trans (NetworkTx.acquire_path
        (p := p.withApi _) _ _ _)
  · split
    · exact Or.inl ⟨by simp, .refl p⟩
    · rename_i l hl
      rcases txLeaseRoute_cases hp l with h | ⟨hok, h⟩
      · exact Or.inl h
      · exact Or.inr ⟨hok, l, hl, h⟩

variable (cb request radio capacity) in
include hW hp in
/-- The routes of a transmit session: what they do, unless they feed it. -/
theorem txRoute_cases :
    let r := txRoute cb request radio capacity p
    (r.1.action = .response
        ∧ p.ReachesAt cb W p.world.api.requestNowMs r.2)
      ∨ ∃ l, HttpRequest.lease request = some l
        ∧ (r.1.action = .openTxStream ∧ Opens l p r.2
          ∨ r.1.action = .pushTxAudio ∧ Posts request l p r.2) := by
  unfold txRoute
  split
  · exact Or.inl ⟨rfl, .refl p⟩
  dsimp only
  rcases txOperation_cases cb request radio hW hp with
    ⟨hno, hpath⟩ | ⟨hok, l, hl, ⟨hr, hopens⟩ | ⟨hno, hr, hposts⟩⟩
  · rw [if_neg (fun h => by simpa [h.2] using (hno h.1).1),
      if_neg (fun h => by simpa [h.2] using (hno h.1).2)]
    refine Or.inl ⟨?_, ?_⟩
    · dsimp only
      unfold txReply
      split
      · split <;> rfl
      · rfl
    dsimp only
    split
    · exact hpath.trans (.one (.tally _ _) trivial)
    · exact hpath
  · rw [if_pos ⟨hok, hr⟩]
    exact Or.inr ⟨l, hl, Or.inl ⟨rfl, hopens⟩⟩
  · rw [if_neg (fun h => by simp [hno] at h), if_pos ⟨hok, hr⟩]
    exact Or.inr ⟨l, hl, Or.inr ⟨rfl, hposts⟩⟩

include hW hp in
/-- The tune routes. -/
theorem tuneRoute_path :
    p.ReachesAt cb W p.world.api.requestNowMs
      (tuneRoute cb request radio capacity p).2 := by
  unfold tuneRoute
  split
  · exact .refl p
  split
  · unfold tuneStart
    split
    · exact .one (.tally p _) trivial
    · have hq : (p.withApi fun api => { api with nextTuneLease :=
          (issueLease p.world.api.nextTuneLease).2 }).Coherent :=
        hp.congr hp.settled (Or.inl ⟨rfl, rfl⟩) rfl rfl
      exact (withApi_path hW _ _).trans (TuneControl.start_path hq _ _)
  split
  · exact TuneControl.keepalive_path hp _ _
  split
  · exact TxPlane.ReachesPassively.at (TuneControl.stop_path hp _) _
  · exact .refl p

include hW in
/-- The station routes. -/
theorem ownerRoute_path (nowMs : UInt64) :
    p.ReachesAt cb W nowMs (ownerRoute request capacity p).2 := by
  unfold ownerRoute
  split
  · exact .refl p
  split
  · exact (withApi_path hW _ _).trans
      (.one (.world (hW.station _ _)) trivial)
  split
  · exact .refl p
  · exact .one (.world (hW.station _ _)) trivial

include hW in
/-- The settings of the transmitter. -/
theorem settingRoute_path (path : CText) (minimum maximum : ℕ) (name : String)
    (store : ℕ → ApiController → ApiController) (nowMs : UInt64) :
    p.ReachesAt cb W nowMs
      (settingRoute request capacity path minimum maximum name store p).2 := by
  unfold settingRoute
  split
  · exact .refl p
  split
  · exact .refl p
  split
  · exact .refl p
  · exact .one (.world (hW.api _ _)) trivial

include hW in
/-- The compressor. -/
theorem compressorRoute_path (nowMs : UInt64) :
    p.ReachesAt cb W nowMs (compressorRoute request capacity p).2 := by
  unfold compressorRoute
  dsimp only
  split
  · exact .refl p
  split
  · exact .refl p
  split
  · exact .refl p
  · exact .one (.world (hW.api _ _)) trivial

/-- The key timeout. -/
theorem timeoutRoute_path (nowMs : UInt64) :
    p.ReachesAt cb W nowMs (timeoutRoute request capacity p).2 := by
  unfold timeoutRoute
  split
  · exact .refl p
  split
  · exact .refl p
  split
  · exact .refl p
  · exact TxPlane.ReachesPassively.at
      (TxControl.setTimeoutSeconds_path _) nowMs

include hW in
/-- The last routes. -/
theorem lastRoutes_path (nowMs : UInt64) :
    p.ReachesAt cb W nowMs (lastRoutes ops request capacity pages p).2 := by
  unfold lastRoutes
  split
  · rename_i hset _
    exact .one (.world (hW.setRxGain _ _ _ hset)) trivial
  · split
    · exact .refl p
    split
    · exact .refl p
    split
    · exact .refl p
    · exact .refl p

include hW in
/-- The receiver. -/
theorem radioRoute_path (nowMs : UInt64) :
    p.ReachesAt cb W nowMs (radioRoute ops request capacity pages p).2 := by
  unfold radioRoute
  split
  · exact .refl p
  split
  · rename_i htune _
    unfold frequencyRoute
    split
    · exact .refl p
    · exact .one (.world (hW.tuneRx _ _ _ htune)) trivial
  · unfold streamRoutes
    split
    · split
      · exact .one (.world (hW.api _ _)) trivial
      split
      · exact .one (.world (hW.api _ _)) trivial
      split
      · exact .one (.world (hW.api _ _)) trivial
      · exact lastRoutes_path hW nowMs
    · exact lastRoutes_path hW nowMs

/-- An answer in JSON is plain. -/
theorem plain_of_response {reply : ApiReply} (h : reply.action = .response) :
    reply.Plain := by
  simp [ApiReply.Plain, h]

/-- The answer of a station route is plain. -/
theorem ownerReply_plain (result : StationOwnerResult) (lease : UInt64)
    (station : StationOwner) :
    (ownerReply request capacity result lease station).Plain := by
  refine plain_of_response ?_
  unfold ownerReply
  split
  · rfl
  split <;> rfl

theorem ownerRoute_plain : (ownerRoute request capacity p).1.Plain := by
  unfold ownerRoute
  split
  · exact plain_of_response rfl
  split
  · exact ownerReply_plain _ _ _
  split
  · exact plain_of_response rfl
  · exact ownerReply_plain _ _ _

theorem compressorRoute_plain :
    (compressorRoute request capacity p).1.Plain := by
  refine plain_of_response ?_
  unfold compressorRoute
  dsimp only
  split
  · rfl
  split
  · rfl
  split <;> rfl

theorem settingRoute_plain (path : CText) (minimum maximum : ℕ)
    (name : String) (store : ℕ → ApiController → ApiController) :
    (settingRoute request capacity path minimum maximum name store p).1.Plain
    := by
  refine plain_of_response ?_
  unfold settingRoute
  split
  · rfl
  split
  · rfl
  split <;> rfl

theorem timeoutRoute_plain : (timeoutRoute request capacity p).1.Plain := by
  refine plain_of_response ?_
  unfold timeoutRoute
  split
  · rfl
  split
  · rfl
  split
  · rfl
  · dsimp only
    split <;> rfl

/-- The answer of a tune operation is plain. -/
theorem tuneReply_plain (text : String) (result : TuneResult) :
    (tuneReply text capacity result).Plain := by
  refine plain_of_response ?_
  unfold tuneReply
  split <;> rfl

theorem tuneRoute_plain :
    (tuneRoute cb request radio capacity p).1.Plain := by
  unfold tuneRoute
  split
  · exact plain_of_response rfl
  split
  · unfold tuneStart
    split
    · exact plain_of_response rfl
    · exact tuneReply_plain _ _
  split
  · exact tuneReply_plain _ _
  split
  · exact tuneReply_plain _ _
  · exact plain_of_response rfl

theorem lastRoutes_plain :
    (lastRoutes ops request capacity pages p).1.Plain := by
  unfold lastRoutes
  split
  · refine plain_of_response ?_
    unfold gainRoute
    dsimp only
    split <;> rfl
  split
  · exact plain_of_response rfl
  split
  · simp [ApiReply.Plain]
  split
  · simp [ApiReply.Plain]
  · refine plain_of_response ?_
    unfold pageReply
    split
    · split
      · rfl
      split
      · rfl
      split <;> rfl
    · rfl

theorem radioRoute_plain :
    (radioRoute ops request capacity pages p).1.Plain := by
  unfold radioRoute
  split
  · exact plain_of_response rfl
  split
  · unfold frequencyRoute
    split
    · exact plain_of_response rfl
    · dsimp only
      split <;> simp [ApiReply.Plain]
  · unfold streamRoutes
    split
    · split
      · exact plain_of_response rfl
      split
      · exact plain_of_response rfl
      split
      · exact plain_of_response rfl
      · exact lastRoutes_plain
    · exact lastRoutes_plain

variable (request radio capacity pages) in
include hW hp in
/-- **Every request is a path of moves** at its own time, unless it feeds
the session: then its action says so, and the session its lease owns is
attached to or takes the samples. -/
theorem dispatch_cases :
    let r := dispatch cb ops request radio capacity pages p
    (r.1.Plain ∧ p.ReachesAt cb W p.world.api.requestNowMs r.2)
      ∨ ∃ l, HttpRequest.lease request = some l
        ∧ (r.1.action = .openTxStream ∧ Opens l p r.2
          ∨ r.1.action = .pushTxAudio ∧ Posts request l p r.2) := by
  unfold dispatch
  split
  · exact Or.inl ⟨ownerRoute_plain, ownerRoute_path hW _⟩
  split
  · exact Or.inl ⟨plain_of_response rfl, .refl p⟩
  split
  · rcases txRoute_cases cb request radio capacity hW hp with h | h
    · exact Or.inl ⟨plain_of_response h.1, h.2⟩
    · exact Or.inr h
  split
  · exact Or.inl ⟨compressorRoute_plain, compressorRoute_path hW _⟩
  split
  · exact Or.inl ⟨settingRoute_plain _ _ _ _ _,
      settingRoute_path hW _ _ _ _ _ _⟩
  split
  · exact Or.inl ⟨settingRoute_plain _ _ _ _ _,
      settingRoute_path hW _ _ _ _ _ _⟩
  split
  · exact Or.inl ⟨timeoutRoute_plain, timeoutRoute_path _⟩
  split
  · exact Or.inl ⟨tuneRoute_plain, tuneRoute_path hW hp⟩
  · exact Or.inl ⟨radioRoute_plain, radioRoute_path hW _⟩

end Paths

/-! ## Requests without authority -/

/-- **Inert**: the transmitter, both sessions, the radio and every setting
of the radio are as they were. -/
structure Inert (p q : TxPlane (ApiWorld ρ)) : Prop where
  tx : q.tx = p.tx
  tune : q.tune = p.tune
  network : q.network = p.network
  radio : q.world.radio = p.world.radio
  rxMode : q.world.api.rxMode = p.world.api.rxMode
  rxBandwidth : q.world.api.rxBandwidthHz = p.world.api.rxBandwidthHz
  txDrive : q.world.api.txDrivePercent = p.world.api.txDrivePercent
  txMicrophoneGain :
    q.world.api.txMicrophoneGainDb = p.world.api.txMicrophoneGainDb
  txCompressor :
    q.world.api.txCompressorEnabled = p.world.api.txCompressorEnabled

theorem Inert.refl (p : TxPlane (ApiWorld ρ)) : Inert p p :=
  ⟨rfl, rfl, rfl, rfl, rfl, rfl, rfl, rfl, rfl⟩

/-- A request without authority presents no lease that matches. -/
theorem leaseMatches_presentedLease {api : ApiController}
    {station : StationOwner} (ha : api.stationAttached = true)
    (h : api.stationRequestAuthorized station request = false) :
    station.leaseMatches (presentedLease request) = false := by
  unfold ApiController.stationRequestAuthorized at h
  rw [if_neg (by simpa using ha)] at h
  by_cases hh : station.held = true
  swap
  · simp [StationOwner.leaseMatches, hh]
  rw [if_neg (by simpa using hh)] at h
  unfold controlLease at h
  unfold presentedLease
  cases hv : header "X-Flex1500-Control-Lease" request with
  | none => simp [StationOwner.leaseMatches]
  | some value =>
    cases hn : strtoull value with
    | none => simp [StationOwner.leaseMatches, strtoullValue, hn]
    | some r => simpa [hv, strtoullValue, hn] using h

/-- **A request has no authority** where it presents another lease than the
station is held under, or none, or nobody holds the station. -/
theorem unauthorized_iff {api : ApiController} {station : StationOwner}
    (ha : api.stationAttached = true) :
    api.stationRequestAuthorized station request = false
      ↔ (station.held = true → station.lease ≠ 0 →
        controlLease request ≠ some station.lease) := by
  unfold ApiController.stationRequestAuthorized
  rw [if_neg (by simpa using ha)]
  cases hheld : station.held with
  | false => simp
  | true =>
    rw [if_neg (by simp)]
    cases hlease : controlLease request with
    | none => simp
    | some lease =>
      rw [Bool.eq_false_iff, ne_eq, StationOwner.leaseMatches_iff, hheld]
      grind

/-- The station routes are inert whoever asks. -/
theorem ownerRoute_inert : Inert p (ownerRoute request capacity p).2 := by
  unfold ownerRoute
  split
  · exact .refl p
  split
  · exact ⟨rfl, rfl, rfl, rfl, rfl, rfl, rfl, rfl, rfl⟩
  split
  · exact .refl p
  · exact ⟨rfl, rfl, rfl, rfl, rfl, rfl, rfl, rfl, rfl⟩

/-- A radio without callbacks. -/
def noOps : RadioOps ρ where
  tuneRx := none
  setRxGain := none

/-- Outside the station's paths nothing is parsed but a squelch. -/
theorem parse_of_uncontrolled (h : stationControlled request = false) :
    parseRxFrequency request = none ∧ parseRxMode request = none
      ∧ parseRxGain request = none ∧ parseRxBandwidth request = none := by
  simp only [stationControlled, Bool.or_eq_false_iff] at h
  obtain ⟨⟨⟨⟨⟨⟨⟨⟨⟨_, _⟩, hf⟩, hm⟩, hg⟩, hb⟩, _⟩, _⟩, _⟩, _⟩ := h
  refine ⟨?_, ?_, ?_, ?_⟩ <;>
    refine Option.eq_none_iff_forall_ne_some.mpr fun v hv => ?_
  · exact Bool.false_ne_true (hf.symm.trans (hasPrefix_of_parseRxFrequency hv))
  · exact Bool.false_ne_true (hm.symm.trans (hasPrefix_of_parseRxMode hv))
  · exact Bool.false_ne_true (hg.symm.trans (hasPrefix_of_parseRxGain hv))
  · exact Bool.false_ne_true (hb.symm.trans (hasPrefix_of_parseRxBandwidth hv))

/-- **What is left without the station**: outside the station's paths the
receiver's routes reach no callback. -/
theorem radioRoute_uncontrolled (h : stationControlled request = false)
    (ops : RadioOps ρ) (capacity : ℕ) (pages : ApiPages)
    (p : TxPlane (ApiWorld ρ)) :
    radioRoute ops request capacity pages p
      = radioRoute noOps request capacity pages p := by
  obtain ⟨hfreq, _, hgain, _⟩ := parse_of_uncontrolled h
  simp only [radioRoute, streamRoutes, lastRoutes, hfreq, hgain]

/-- And they set the squelch at most. -/
theorem radioRoute_inert (h : stationControlled request = false)
    (capacity : ℕ) (pages : ApiPages) :
    Inert p (radioRoute noOps request capacity pages p).2 := by
  obtain ⟨hfreq, hmode, hgain, hband⟩ := parse_of_uncontrolled h
  have hlast : (lastRoutes noOps request capacity pages p).2 = p := by
    simp only [lastRoutes, hgain]
    split
    · rfl
    split
    · rfl
    split <;> rfl
  unfold radioRoute
  split
  · exact .refl p
  simp only [hfreq, streamRoutes, hmode, hband]
  split
  · split
    · exact ⟨rfl, rfl, rfl, rfl, rfl, rfl, rfl, rfl, rfl⟩
    · rw [hlast]; exact .refl p
  · rw [hlast]; exact .refl p

/-- Without authority a request is answered by a station route, by a
refusal, or by the routes that need no station. -/
theorem dispatch_of_unauthorized
    (h : p.world.api.stationRequestAuthorized p.world.station request = false)
    (radio : RadioInfo) (capacity : ℕ) (pages : ApiPages) :
    ∃ reply q, Inert p q
      ∧ ∀ (cb : TxCallbacks (TxContext (ApiWorld ρ))) (ops : RadioOps ρ),
        dispatch cb ops request radio capacity pages p = (reply, q) := by
  by_cases ho : (ownerAcquire request || ownerKeepalive request
      || ownerRelease request) = true
  · exact ⟨(ownerRoute request capacity p).1, _, ownerRoute_inert,
      fun cb ops => by rw [dispatch, if_pos ho]⟩
  by_cases hc : stationControlled request = true
  · refine ⟨errorReply "409 Conflict" "station_owned" capacity, p, .refl p,
      fun cb ops => ?_⟩
    rw [dispatch, if_neg ho, if_pos (by simp [hc, h])]
  have hc : stationControlled request = false := by simpa using hc
  refine ⟨(radioRoute noOps request capacity pages p).1, _,
    radioRoute_inert hc capacity pages, fun cb ops => ?_⟩
  rw [dispatch, if_neg ho, if_neg (by simp [hc])]
  have hradio := radioRoute_uncontrolled hc ops capacity pages p
  simp only [stationControlled, Bool.or_eq_false_iff] at hc
  obtain ⟨⟨⟨⟨⟨⟨⟨⟨⟨hx, ht⟩, _⟩, _⟩, _⟩, _⟩, hd⟩, hm⟩, hto⟩, hco⟩ := hc
  simpa [hx, ht, hd, hm, hto, hco] using hradio

/-- A renewal or a release is not an acquisition. -/
theorem not_ownerAcquire
    (h : ownerKeepalive request = true ∨ ownerRelease request = true) :
    ownerAcquire request = false := by
  rcases h with h | h
  · exact hasPrefix_eq_false h (by decide) (by decide)
  · exact hasPrefix_eq_false h (by decide) (by decide)

/-- A renewal or a release under another lease leaves the station as it
is. -/
theorem dispatch_station_of_foreign
    (h : ownerKeepalive request = true ∨ ownerRelease request = true)
    (hm : p.world.station.leaseMatches (presentedLease request) = false)
    (cb : TxCallbacks (TxContext (ApiWorld ρ))) (ops : RadioOps ρ)
    (radio : RadioInfo) (capacity : ℕ) (pages : ApiPages) :
    (dispatch cb ops request radio capacity pages p).2.world.station
      = p.world.station := by
  have ha := not_ownerAcquire h
  rw [dispatch, if_pos (by rcases h with h | h <;> simp [h])]
  unfold ownerRoute
  split
  · rfl
  rw [if_neg (by simp [ha])]
  split
  · rfl
  dsimp only
  split
  · exact StationOwner.keepalive_of_not_leaseMatches hm _
  · exact StationOwner.release_of_not_leaseMatches hm

/-- Acquiring a held station leaves it as it is. -/
theorem dispatch_station_of_held (h : ownerAcquire request = true)
    (hh : p.world.station.held = true)
    (cb : TxCallbacks (TxContext (ApiWorld ρ))) (ops : RadioOps ρ)
    (radio : RadioInfo) (capacity : ℕ) (pages : ApiPages) :
    (dispatch cb ops request radio capacity pages p).2.world.station
      = p.world.station := by
  rw [dispatch, if_pos (by simp [h]), ownerRoute]
  by_cases ha : p.world.api.stationAttached = true
  · rw [if_neg (by simpa using ha), if_pos h]
    exact StationOwner.acquireWithMode_of_held hh _ _ _
  · rw [if_pos (by simpa using ha)]

/-- **Requests without authority are inert.** With a station owner
attached, a request whose control lease, as the dispatcher looks it up and
parses it, is missing or is not the lease the station is held under leaves
the controller with its timeout, both sessions, the radio and the settings
as they are, and comes to the same answer and the same state whatever the
callbacks are, so it invokes none of them. A renewal or a release under
another lease leaves the station as it is, and so does an acquisition while
the station is held. No lease is zero. -/
theorem unauthorized_request_inert (request : CText) (radio : RadioInfo)
    (capacity : ℕ) (pages : ApiPages) (p : TxPlane (ApiWorld ρ))
    (hattached : p.world.api.stationAttached = true) :
    ((p.world.station.held = true → p.world.station.lease ≠ 0 →
        controlLease request ≠ some p.world.station.lease) →
      (∃ reply q, Inert p q
        ∧ ∀ (cb : TxCallbacks (TxContext (ApiWorld ρ))) (ops : RadioOps ρ),
          dispatch cb ops request radio capacity pages p = (reply, q))
      ∧ (p.world.station.held = true → p.world.station.lease ≠ 0 →
        presentedLease request ≠ p.world.station.lease))
    ∧ (ownerKeepalive request = true ∨ ownerRelease request = true →
        (p.world.station.held = true → p.world.station.lease ≠ 0 →
          presentedLease request ≠ p.world.station.lease) →
        ∀ (cb : TxCallbacks (TxContext (ApiWorld ρ))) (ops : RadioOps ρ),
          (dispatch cb ops request radio capacity pages p).2.world.station
            = p.world.station)
    ∧ (ownerAcquire request = true → p.world.station.held = true →
        ∀ (cb : TxCallbacks (TxContext (ApiWorld ρ))) (ops : RadioOps ρ),
          (dispatch cb ops request radio capacity pages p).2.world.station
            = p.world.station) := by
  have hforeign : p.world.station.leaseMatches (presentedLease request) = false
      ↔ (p.world.station.held = true → p.world.station.lease ≠ 0 →
        presentedLease request ≠ p.world.station.lease) := by
    rw [Bool.eq_false_iff, ne_eq, StationOwner.leaseMatches_iff]
    grind
  refine ⟨fun hother => ?_, fun hroute hother cb ops => ?_,
    fun hacquire hheld cb ops => ?_⟩
  · have hno := (unauthorized_iff hattached).mpr hother
    exact ⟨dispatch_of_unauthorized hno radio capacity pages,
      hforeign.mp (leaseMatches_presentedLease hattached hno)⟩
  · exact dispatch_station_of_foreign hroute (hforeign.mpr hother) cb ops radio
      capacity pages
  · exact dispatch_station_of_held hacquire hheld cb ops radio capacity pages

/-- A plane whose station is held under lease 7. -/
def heldPlane : TxPlane (ApiWorld Unit) where
  tune := .init true
  network := .init true
  world :=
    { api := { ApiController.init true true true with
        tuneAttached := true, networkAttached := true, stationAttached := true }
      station := { held := true, modeAware := true, lease := 7 }
      radio := () }
  tx := .init true 180000

/-- The renewal of a stranger. -/
def strangerKeepalive : CText :=
  ofString ("PUT /v1/control/owner/keepalive HTTP/1.1\r\n"
    ++ "X-Flex1500-Control-Lease: 8\r\n\r\n")

/-- A stranger asking for the station. -/
def strangerAcquire : CText :=
  ofString "POST /v1/control/owner HTTP/1.1\r\n\r\n"

/-- A stranger starting a carrier, who presents a lease that is not the
station's. -/
def strangerTune : CText :=
  ofString ("PUT /v1/radio/tune/start HTTP/1.1\r\n"
    ++ "X-Flex1500-Control-Lease: 8\r\n\r\n")

/-- A stranger setting the mode, who presents none. -/
def strangerMode : CText :=
  ofString "PUT /v1/radio/mode/am HTTP/1.1\r\n\r\n"

/-- A stranger neither starts a carrier nor sets the mode, and neither renews
the lease nor takes the station. -/
theorem unauthorized_request_inert_stranger :
    (∀ request ∈ [strangerTune, strangerMode],
      stationControlled request = true
        ∧ ∃ reply q, Inert heldPlane q
          ∧ ∀ (cb : TxCallbacks (TxContext (ApiWorld Unit)))
            (ops : RadioOps Unit), dispatch cb ops request
              { frequencyHz := some 14250000 } 4096
              { status := none, radio := none } heldPlane = (reply, q))
    ∧ (dispatch { start := none, stop := none } noOps strangerKeepalive
        { frequencyHz := none } 4096 { status := none, radio := none }
        heldPlane).2.world.station = heldPlane.world.station
    ∧ (dispatch { start := none, stop := none } noOps strangerAcquire
        { frequencyHz := none } 4096 { status := none, radio := none }
        heldPlane).2.world.station = heldPlane.world.station := by
  have hpresented : ∀ request ∈ [strangerTune, strangerMode],
      stationControlled request = true ∧ controlLease request ≠ some 7 := by
    decide +kernel
  refine ⟨fun request hrequest => ?_, ?_, ?_⟩
  · obtain ⟨hroute, hlease⟩ := hpresented request hrequest
    exact ⟨hroute, ((unauthorized_request_inert request _ _ _ heldPlane rfl).1
      fun _ _ => hlease).1⟩
  · exact (unauthorized_request_inert strangerKeepalive _ _ _ heldPlane rfl).2.1
      (by decide +kernel) (fun _ _ => by decide +kernel) _ _
  · exact (unauthorized_request_inert strangerAcquire _ _ _ heldPlane rfl).2.2
      (by decide +kernel) rfl _ _

end Api
