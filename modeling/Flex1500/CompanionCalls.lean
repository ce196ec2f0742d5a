import Flex1500.CompanionWire
import Flex1500.ResponseSize
import Flex1500.TxProfile

/-!
# The companion's calls

What the companion asks of the daemon, as calls that have nothing to do with
text: a station or a session is taken, renewed and let go, a setting is made.
`serve` says what each of them does to the daemon and what it is told; that
the requests and responses in between are text then makes no difference.
-/

open CText HttpRequest Api
open String (within_self within_uint64)

/-! ## Calls -/

/-- A call of the companion, with the leases it presents. -/
inductive CompanionCall where
  | acquire
  | keepalive (lease : UInt64)
  | release (lease : UInt64)
  | setFrequency (frequencyHz : UInt64) (lease : UInt64)
  | setMode (mode : String) (lease : UInt64)
  | setBandwidth (bandwidthHz : ℕ) (lease : UInt64)
  | createSession (mode : NetworkTxMode) (lease : UInt64)
  | pttStart (lease txLease : UInt64)
  | pttStop (lease txLease : UInt64)
  | sessionKeepalive (lease txLease : UInt64)
  | sessionRelease (lease txLease : UInt64)
  deriving Repr

/-- The profile the companion asks for. -/
def companionProfile (mode : NetworkTxMode) : NetworkTxProfile where
  mode := mode
  source := .audio
  drivePercent := 100
  sampleRate := 48000

namespace CompanionCall

/-- The text of the profile. -/
def profileText (mode : NetworkTxMode) : CText :=
  ofString "\x7b\"mode\":\"" ++ mode.word
    ++ ofString "\",\"drive_percent\":100,\"source\":\"audio\","
    ++ ofString "\"sample_format\":\"s16le\",\"sample_rate\":48000,"
    ++ ofString "\"channels\":1\x7d"

/-- The request that makes a call. -/
def http : CompanionCall → HttpCall
  | acquire => { method := .post, path := ofString "/v1/control/owner" }
  | keepalive lease =>
    { method := .put, path := ofString "/v1/control/owner/keepalive"
      leases := .station lease }
  | release lease =>
    { method := .delete, path := ofString "/v1/control/owner"
      leases := .station lease }
  | setFrequency frequencyHz lease =>
    { method := .put
      path := ofString "/v1/radio/frequency/"
        ++ ofString (toString frequencyHz.toNat)
      leases := .station lease }
  | setMode mode lease =>
    { method := .put, path := ofString "/v1/radio/mode/" ++ ofString mode
      leases := .station lease }
  | setBandwidth bandwidthHz lease =>
    { method := .put
      path := ofString "/v1/radio/bandwidth/"
        ++ ofString (toString bandwidthHz)
      leases := .station lease }
  | createSession mode lease =>
    { method := .post, path := ofString "/v1/tx/sessions"
      leases := .station lease, body := profileText mode }
  | pttStart lease txLease =>
    { method := .put, path := ofString "/v1/tx/ptt/start"
      leases := .session lease txLease }
  | pttStop lease txLease =>
    { method := .put, path := ofString "/v1/tx/ptt/stop"
      leases := .session lease txLease }
  | sessionKeepalive lease txLease =>
    { method := .put, path := ofString "/v1/tx/sessions/keepalive"
      leases := .session lease txLease }
  | sessionRelease lease txLease =>
    { method := .delete, path := ofString "/v1/tx/sessions/current"
      leases := .session lease txLease }

/-- A mode of the receiver, where one is set, and of a voice, where a session
is made for one. -/
def Valid : CompanionCall → Prop
  | setMode mode _ => mode ∈ rxModes
  | createSession mode _ => mode ≠ .iqMode
  | _ => True

end CompanionCall

/-! ## Answers -/

/-- What a call is told: a status and a text. -/
structure Answer where
  status : ℕ
  body : String
  deriving DecidableEq, Repr

/-- The answer as it is read. -/
def Answer.reply (answer : Answer) : HttpReply where
  status := answer.status
  body := ofString answer.body

/-- A refusal. -/
def Answer.error (status : ℕ) (name : String) : Answer where
  status := status
  body := errorBody name

namespace CompanionCall

section Serve

variable {ρ : Type}
variable (cb : TxCallbacks (TxContext (ApiWorld ρ))) (ops : RadioOps ρ)
variable (radio : RadioInfo)

/-- A call that is for whoever has the station. -/
def forStation (lease : UInt64)
    (f : TxPlane (ApiWorld ρ) → Answer × TxPlane (ApiWorld ρ))
    (p : TxPlane (ApiWorld ρ)) : Answer × TxPlane (ApiWorld ρ) :=
  if p.world.api.stationAttached = true
      ∧ p.world.station.leaseMatches lease = false then
    (.error 409 "station_owned", p)
  else f p

/-- What a station operation is told. -/
def stationAnswer (status : ℕ) (owner : Bool) (lease : UInt64)
    (modeAware : Bool) : StationOwnerResult → Answer
  | .ok =>
    { status := status
      body := "\x7b\"owner\":" ++ boolText owner ++ ",\"lease\":"
        ++ toString lease.toNat ++ ",\"mode_aware\":" ++ boolText modeAware
        ++ "\x7d\n" }
  | .busy => .error 409 "owner_busy"
  | _ => .error 410 "owner_stale"

/-- What a session operation is told. -/
def sessionAnswer (keyed : Bool) (result : NetworkTxResult) : Answer :=
  match result with
  | .ok =>
    { status := 200
      body := "\x7b\"state\":\""
        ++ (if keyed then "transmitting" else "reserved") ++ "\"\x7d\n" }
  | .disabled => .error 404 "tx_disabled"
  | .busy => .error 409 "tx_busy"
  | .notReady => .error 409 "tx_not_ready"
  | .stale => .error 410 "tx_stale"
  | .hardwareError => .error 500 "tx_hardware_error"
  | .invalid => .error 422 "tx_invalid"
  | .expired => .error 400 "tx_expired"

/-- A refusal for the transmitter's sake is counted. -/
def counted (result : NetworkTxResult) (p : TxPlane (ApiWorld ρ)) :
    TxPlane (ApiWorld ρ) :=
  if result = .busy ∨ result = .stale then
    p.withDiagnostics TxDiagnostics.reject
  else p

/-- A call about transmit sessions, where there are any. -/
def forSessions
    (f : TxPlane (ApiWorld ρ) → Answer × TxPlane (ApiWorld ρ))
    (p : TxPlane (ApiWorld ρ)) : Answer × TxPlane (ApiWorld ρ) :=
  if p.world.api.networkAttached = true ∧ p.network.enabled = true then f p
  else (.error 404 "not found", p)

/-- A call about one session. -/
def forSession (txLease : UInt64)
    (f : TxPlane (ApiWorld ρ) → NetworkTxResult × TxPlane (ApiWorld ρ)) :
    TxPlane (ApiWorld ρ) → Answer × TxPlane (ApiWorld ρ) :=
  forSessions fun p =>
    let r := if txLease = 0 then (.invalid, p) else f p
    (sessionAnswer r.2.network.keyed r.1, counted r.1 r.2)

/-- A session is asked for. Its lease is issued whether or not it is
granted. -/
def createServed (mode : NetworkTxMode) (p : TxPlane (ApiWorld ρ)) :
    Answer × TxPlane (ApiWorld ρ) :=
  let issued := issueLease p.world.api.nextTxLease
  let r := NetworkTx.acquire (companionProfile mode) issued.1
    p.world.api.requestNowMs
    (p.withApi fun api => { api with nextTxLease := issued.2 })
  (if r.1 = .ok then
      { status := 201
        body := "\x7b\"lease\":" ++ toString issued.1.toNat
          ++ ",\"state\":\"reserved\",\"lease_timeout_ms\":15000\x7d\n" }
    else sessionAnswer r.2.network.keyed r.1,
    counted r.1 r.2)

/-- The station is asked for. Its lease is issued whether or not it is
granted. -/
def acquireServed (p : TxPlane (ApiWorld ρ)) : Answer × TxPlane (ApiWorld ρ) :=
  let issued := issueLease p.world.api.nextStationLease
  let r := p.world.station.acquireWithMode issued.1 p.world.api.requestNowMs
    true
  (stationAnswer 201 true issued.1 r.2.modeAware r.1,
    (p.withApi fun api =>
      { api with nextStationLease := issued.2 }).withStation r.2)

/-- A receive setting, which waits while somebody transmits. -/
def forReceiver
    (f : TxPlane (ApiWorld ρ) → Answer × TxPlane (ApiWorld ρ))
    (p : TxPlane (ApiWorld ρ)) : Answer × TxPlane (ApiWorld ρ) :=
  if p.world.api.transmitterActive p.tx then
    (.error 409 "transmitter_active", p)
  else f p

/-- The receiver is tuned. -/
def tuneServed (frequencyHz : ℕ) (p : TxPlane (ApiWorld ρ)) :
    Answer × TxPlane (ApiWorld ρ) :=
  match ops.tuneRx, p.world.api.rxTuningEnabled with
  | some tuneRx, true =>
    if (rxFilterForFrequency frequencyHz).isNone then
      (.error 400 "RX tune failed", p)
    else
      let r := tuneRx frequencyHz p.world.radio
      (if r.1.1 = 0 then
          { status := 200
            body := "\x7b\"frequency_hz\":" ++ toString frequencyHz
              ++ ",\"rx_filter\":" ++ toString r.1.2 ++ "\x7d\n" }
        else .error 500 "RX tune failed",
        p.withRadio r.2)
  | _, _ => (.error 404 "not found", p)

/-- **What a call does**, and what it is told. -/
def serve : CompanionCall → TxPlane (ApiWorld ρ) →
    Answer × TxPlane (ApiWorld ρ)
  | acquire, p =>
    if p.world.api.stationAttached then acquireServed p
    else (.error 404 "not found", p)
  | keepalive lease, p =>
    if p.world.api.stationAttached then
      let r := p.world.station.keepalive lease p.world.api.requestNowMs
      (stationAnswer 200 true lease r.2.modeAware r.1, p.withStation r.2)
    else (.error 404 "not found", p)
  | release lease, p =>
    if p.world.api.stationAttached = false then (.error 404 "not found", p)
    else if p.world.api.transmitterActive p.tx then
      (.error 409 "transmitter_active", p)
    else
      let r := p.world.station.release lease
      (stationAnswer 200 false lease true r.1, p.withStation r.2)
  | setFrequency frequencyHz lease, p =>
    forStation lease (fun p =>
      if 2 ^ 32 ≤ frequencyHz.toNat then (.error 404 "not found", p)
      else forReceiver (tuneServed ops frequencyHz.toNat) p) p
  | setMode mode lease, p =>
    forStation lease (forReceiver fun p =>
      if p.world.api.iqStreamActive then
        ({ status := 200
           body := "\x7b\"rx_mode\":\"" ++ mode ++ "\",\"rx_bandwidth_hz\":"
            ++ toString (modeBandwidth mode) ++ "\x7d\n" },
          p.withApi fun api =>
            { api with rxMode := mode, rxBandwidthHz := modeBandwidth mode })
      else (.error 404 "not found", p)) p
  | setBandwidth bandwidthHz lease, p =>
    forStation lease (fun p =>
      if 100 ≤ bandwidthHz ∧ bandwidthHz ≤ 20000 then
        forReceiver (fun p =>
          if p.world.api.iqStreamActive then
            ({ status := 200
               body := "\x7b\"rx_bandwidth_hz\":" ++ toString bandwidthHz
                ++ "\x7d\n" },
              p.withApi fun api => { api with rxBandwidthHz := bandwidthHz })
          else (.error 404 "not found", p)) p
      else (.error 404 "not found", p)) p
  | createSession mode lease, p =>
    forStation lease (forSessions (createServed mode)) p
  | pttStart lease txLease, p =>
    forStation lease (forSession txLease fun p =>
      if radio.frequencyHz.any (profileFrequencyAllowed p.network.profile) then
        NetworkTx.pttStart cb txLease p.world.api.requestNowMs p
      else (.invalid, p)) p
  | pttStop lease txLease, p =>
    forStation lease (forSession txLease (NetworkTx.pttStop cb txLease)) p
  | sessionKeepalive lease txLease, p =>
    forStation lease (forSession txLease fun p =>
      let r := p.network.keepalive txLease p.world.api.requestNowMs
      (r.1, p.withNetwork fun _ => r.2)) p
  | sessionRelease lease txLease, p =>
    forStation lease (forSession txLease (NetworkTx.release cb txLease)) p

end Serve

end CompanionCall

/-! ## What is told -/

/-- A response says an answer: that is what is read of it. -/
def ApiReply.Says (reply : ApiReply) (answer : Answer) : Prop :=
  HttpReply.ofResponse (ofString reply.response) = some answer.reply

/-- What is read is the response alone. -/
theorem ApiReply.Says.congr {reply reply' : ApiReply} {answer : Answer}
    (h : reply.Says answer) (hresponse : reply'.response = reply.response) :
    reply'.Says answer := by
  rw [ApiReply.Says, hresponse]
  exact h

/-- The status lines of the responses. -/
def statusLines : List (ℕ × String) :=
  [(200, "200 OK"), (201, "201 Created"), (400, "400 Bad Request"),
    (404, "404 Not Found"), (409, "409 Conflict"), (410, "410 Gone"),
    (422, "422 Unprocessable Content"), (500, "500 Internal Server Error")]

theorem statusLine_eq {entry : ℕ × String} (h : entry ∈ statusLines) :
    ofString entry.2
        = ofString (toString entry.1) ++ 32 :: (ofString entry.2).drop 4
      ∧ (ofString (toString entry.1)).length = 3 ∧ entry.1 < 1000
      ∧ ((ofString entry.2).drop 4).all
        (fun c => c != 0 && c != 10 && c != 13) = true
      ∧ entry.2.utf8ByteSize ≤ 25 := by
  simp only [statusLines, List.mem_cons, List.not_mem_nil, or_false] at h
  obtain rfl | rfl | rfl | rfl | rfl | rfl | rfl | rfl := h
  all_goals decide

/-- **A response says what was put into it.** -/
theorem says_response {reply : ApiReply} {status : ℕ} {line body : String}
    (h : (status, line) ∈ statusLines) (hbody : body.Within 3900)
    (hreply : reply.response = httpResponse line body Daemon.responseCapacity) :
    reply.Says { status := status, body := body } := by
  obtain ⟨hline, hthree, hsmall, hplain, hsize⟩ := statusLine_eq h
  rw [ApiReply.Says, hreply]
  refine ofResponse_httpResponse hline hthree hsmall (fun c hc => ?_)
    (httpResponse_ne_empty hsize hbody)
  simpa [and_assoc] using List.all_eq_true.mp hplain c hc

theorem says_error {status : ℕ} {line name : String}
    (h : (status, line) ∈ statusLines) (hname : name.Within 100) :
    (errorReply line name Daemon.responseCapacity).Says
      (.error status name) :=
  says_response h ((((within_self "\x7b\"error\":\"").append hname).append
    (within_self "\"\x7d\n")).mono (by decide)) rfl

theorem says_notFound :
    (notFound Daemon.responseCapacity).Says (.error 404 "not found") :=
  says_error (by decide) (by decide)

theorem says_transmitterActive :
    (transmitterActiveReply Daemon.responseCapacity).Says
      (.error 409 "transmitter_active") :=
  says_error (by decide) (by decide)

/-! ## Where a call goes -/

section Routes

variable {p q text : CText}

/-- The text begins with what its beginning begins with. -/
theorem hasPrefix_of_known (hq : hasPrefix q text = true)
    (h : p.isPrefixOf q = true) : hasPrefix p text = true :=
  hasPrefix_iff.mpr ((List.isPrefixOf_iff_prefix.mp h).trans
    (hasPrefix_iff.mp hq))

/-- And with nothing else. -/
theorem not_hasPrefix_of_known (hq : hasPrefix q text = true)
    (h : (p.isPrefixOf q || q.isPrefixOf p) = false) :
    hasPrefix p text = false := by
  obtain ⟨hpq, hqp⟩ := Bool.or_eq_false_iff.mp h
  exact hasPrefix_eq_false hq hqp hpq

/-- What a request begins with, whatever it presents. -/
theorem hasPrefix_requestText_of (method : HttpMethod) (path : CText)
    {host : CText} {call : HttpCall} (hmethod : call.method = method)
    (hpath : call.path = path)
    (h : q.isPrefixOf (ofString method.text ++ ofString " " ++ path
      ++ ofString " HTTP/1.1") = true) :
    hasPrefix q (call.requestText host) = true := by
  refine hasPrefix_of_known (HttpCall.hasPrefix_requestText host call) ?_
  rwa [HttpCall.requestLine, hmethod, hpath]

end Routes

namespace CompanionCall

section Dispatch

variable {ρ : Type} (cb : TxCallbacks (TxContext (ApiWorld ρ)))
variable (ops : RadioOps ρ) (radio : RadioInfo) (pages : ApiPages)
variable {host : CText} {request : CText} {lease : UInt64}
variable {p : TxPlane (ApiWorld ρ)}

/-- A reply tells what a call is told, and leaves what the call leaves. -/
def Tells (r : ApiReply × TxPlane (ApiWorld ρ))
    (served : Answer × TxPlane (ApiWorld ρ)) : Prop :=
  r.1.Says served.1 ∧ r.2 = served.2

/-- **A call is made**: what is dispatched does what the call does, and its
response says what the call is told. -/
def Made (host : CText) (call : CompanionCall) (p : TxPlane (ApiWorld ρ)) :
    Prop :=
  Tells (dispatch cb ops (call.http.requestText host) radio
    Daemon.responseCapacity pages p) (call.serve cb ops radio p)

/-! ### The station -/

/-- What the answer of a station route says. -/
theorem ownerReply_told (request : CText) (result : StationOwnerResult)
    (lease : UInt64) (station : StationOwner) :
    (ownerReply request Daemon.responseCapacity result lease station).Says
      (stationAnswer (if ownerAcquire request then 201 else 200)
        (!ownerRelease request) lease
        (ownerRelease request || station.modeAware) result) := by
  have hbody (owner modeAware : Bool) : ("\x7b\"owner\":" ++ boolText owner
      ++ ",\"lease\":" ++ toString lease.toNat ++ ",\"mode_aware\":"
      ++ boolText modeAware ++ "\x7d\n").Within 3900 :=
    (((((((within_self "\x7b\"owner\":").append (within_boolText _)).append
      (within_self ",\"lease\":")).append (within_uint64 lease)).append
      (within_self ",\"mode_aware\":")).append (within_boolText _)).append
      (within_self "\x7d\n")).mono (by decide)
  unfold ownerReply
  cases result with
  | ok =>
    rw [if_pos rfl]
    cases hacquire : ownerAcquire request with
    | true => exact says_response (by decide) (hbody _ _) rfl
    | false => exact says_response (by decide) (hbody _ _) rfl
  | busy => exact says_error (by decide) (by decide)
  | _ => exact says_error (by decide) (by decide)

/-- A request of the station's own routes goes there. -/
theorem dispatch_owner (h : (ownerAcquire request || ownerKeepalive request
      || ownerRelease request) = true) :
    dispatch cb ops request radio Daemon.responseCapacity pages p
      = ownerRoute request Daemon.responseCapacity p := by
  rw [dispatch, if_pos h]

theorem acquire_made (h : acquire.http.Sendable host) :
    Made cb ops radio pages host acquire p := by
  have hq : hasPrefix (ofString "POST /v1/control/owner HTTP/1.1")
      (acquire.http.requestText host) = true :=
    HttpCall.hasPrefix_requestText host acquire.http
  have hacquire : ownerAcquire (acquire.http.requestText host) = true :=
    hasPrefix_of_known hq (by decide)
  have hrelease : ownerRelease (acquire.http.requestText host) = false :=
    not_hasPrefix_of_known hq (by decide)
  have hmode : header "X-Flex1500-Mode-Aware"
      (acquire.http.requestText host) = none := by
    rw [HttpCall.requestText_eq]
    refine HttpCall.header_absent
      (fun l hl => HttpCall.headerLine_of_mem_lines h hl) (by decide)
      (fun l hl => ?_) _
    exact HttpCall.named_of_front (by decide) (by simpa [HttpCall.lines,
      http, LeaseHeaders.entries] using hl)
  have htold := ownerReply_told (acquire.http.requestText host)
    (p.world.station.acquireWithMode (issueLease
      p.world.api.nextStationLease).1 p.world.api.requestNowMs true).1
    (issueLease p.world.api.nextStationLease).1
    (p.world.station.acquireWithMode (issueLease
      p.world.api.nextStationLease).1 p.world.api.requestNowMs true).2
  rw [hacquire, hrelease] at htold
  unfold Made
  rw [dispatch_owner _ _ _ _ (by simp [hacquire]), ownerRoute, serve]
  cases p.world.api.stationAttached with
  | false => exact ⟨says_notFound, rfl⟩
  | true =>
    simp only [Bool.not_true, Bool.false_eq_true, if_false, hacquire, if_true,
      hmode]
    exact ⟨htold, rfl⟩

theorem keepalive_made (h : (keepalive lease).http.Sendable host) :
    Made cb ops radio pages host (keepalive lease) p := by
  have hq : hasPrefix (ofString "PUT /v1/control/owner/keepalive HTTP/1.1")
      ((keepalive lease).http.requestText host) = true :=
    hasPrefix_requestText_of .put (ofString "/v1/control/owner/keepalive")
      rfl rfl (by decide)
  have hlease : presentedLease ((keepalive lease).http.requestText host)
      = lease := HttpCall.presentedLease_requestText h
  unfold Made
  generalize (keepalive lease).http.requestText host = request at hq hlease ⊢
  have hacquire : ownerAcquire request = false :=
    not_hasPrefix_of_known hq (by decide)
  have hkeepalive : ownerKeepalive request = true :=
    hasPrefix_of_known hq (by decide)
  have hrelease : ownerRelease request = false :=
    not_hasPrefix_of_known hq (by decide)
  have htold := ownerReply_told request
    (p.world.station.keepalive lease p.world.api.requestNowMs).1 lease
    (p.world.station.keepalive lease p.world.api.requestNowMs).2
  rw [hacquire, hrelease] at htold
  rw [dispatch_owner _ _ _ _ (by simp [hkeepalive]), ownerRoute, serve]
  cases p.world.api.stationAttached with
  | false => exact ⟨says_notFound, rfl⟩
  | true =>
    simp only [Bool.not_true, Bool.false_eq_true, if_false, hacquire, hrelease,
      Bool.false_and, hkeepalive, if_true, hlease]
    exact ⟨htold, rfl⟩

theorem release_made (h : (release lease).http.Sendable host) :
    Made cb ops radio pages host (release lease) p := by
  have hq : hasPrefix (ofString "DELETE /v1/control/owner HTTP/1.1")
      ((release lease).http.requestText host) = true :=
    hasPrefix_requestText_of .delete (ofString "/v1/control/owner") rfl rfl
      (by decide)
  have hlease : presentedLease ((release lease).http.requestText host)
      = lease := HttpCall.presentedLease_requestText h
  unfold Made
  generalize (release lease).http.requestText host = request at hq hlease ⊢
  have hacquire : ownerAcquire request = false :=
    not_hasPrefix_of_known hq (by decide)
  have hkeepalive : ownerKeepalive request = false :=
    not_hasPrefix_of_known hq (by decide)
  have hrelease : ownerRelease request = true :=
    hasPrefix_of_known hq (by decide)
  have htold := ownerReply_told request (p.world.station.release lease).1 lease
    (p.world.station.release lease).2
  rw [hacquire, hrelease] at htold
  rw [dispatch_owner _ _ _ _ (by simp [hrelease]), ownerRoute, serve]
  cases p.world.api.stationAttached with
  | false => exact ⟨says_notFound, rfl⟩
  | true =>
    simp only [Bool.not_true, Bool.false_eq_true, if_false, hacquire, hrelease,
      Bool.true_and, hkeepalive, hlease, Bool.true_eq_false]
    split
    · exact ⟨says_transmitterActive, rfl⟩
    · exact ⟨htold, rfl⟩

/-! ### What is for whoever has the station -/

/-- The check of the station's lease. -/
theorem authorized_eq (hlease : controlLease request = some lease)
    (api : ApiController) (station : StationOwner) :
    (!api.stationRequestAuthorized station request)
      = (api.stationAttached && !station.leaseMatches lease) := by
  unfold ApiController.stationRequestAuthorized
  rw [hlease]
  cases api.stationAttached with
  | false => rfl
  | true =>
    cases hheld : station.held with
    | true => simp
    | false => simp [StationOwner.leaseMatches, hheld]

variable {rest : ApiReply × TxPlane (ApiWorld ρ)}
variable {f : TxPlane (ApiWorld ρ) → Answer × TxPlane (ApiWorld ρ)}

/-- **What is for whoever has the station** is refused to others. -/
theorem tells_forStation (h : Tells rest (f p)) :
    Tells (if p.world.api.stationAttached
          && !p.world.station.leaseMatches lease then
        (errorReply "409 Conflict" "station_owned" Daemon.responseCapacity, p)
      else rest) (forStation lease f p) := by
  unfold forStation
  by_cases howned : p.world.api.stationAttached = true
      ∧ p.world.station.leaseMatches lease = false
  · rw [if_pos howned, if_pos (by simp [howned])]
    exact ⟨says_error (by decide) (by decide), rfl⟩
  · rw [if_neg howned, if_neg (by simpa using howned)]
    exact h

/-- The beginnings of the station's own requests. -/
def ownLines : List String :=
  ["POST /v1/control/owner HTTP/", "PUT /v1/control/owner/keepalive HTTP/",
    "DELETE /v1/control/owner HTTP/"]

/-- A request that is none of the station's own. -/
def OffStation (request : CText) : Prop :=
  (ownerAcquire request || ownerKeepalive request || ownerRelease request)
    = false

theorem offStation_of_begins
    (h : ∀ own ∈ ownLines, hasPrefix (ofString own) request = false) :
    OffStation request := by
  have hacquire : ownerAcquire request = false := h _ (by decide)
  have hkeepalive : ownerKeepalive request = false := h _ (by decide)
  have hrelease : ownerRelease request = false := h _ (by decide)
  simp [OffStation, hacquire, hkeepalive, hrelease]

/-- A text that begins otherwise is none of them. -/
theorem offStation_of_known {q : CText} (hq : hasPrefix q request = true)
    (h : ownLines.all (fun own => !((ofString own).isPrefixOf q
      || q.isPrefixOf (ofString own))) = true) : OffStation request :=
  offStation_of_begins fun own hown => not_hasPrefix_of_known hq (by
    simpa using List.all_eq_true.mp h own hown)

/-! ### Sessions -/

/-- A request about sessions goes to their routes, once the station allows
it. -/
theorem dispatch_session (hoff : OffStation request)
    (hgeneral : txGeneralPath request = true)
    (hlease : controlLease request = some lease) :
    dispatch cb ops request radio Daemon.responseCapacity pages p
      = if p.world.api.stationAttached
            && !p.world.station.leaseMatches lease then
          (errorReply "409 Conflict" "station_owned" Daemon.responseCapacity,
            p)
        else txRoute cb request radio Daemon.responseCapacity p := by
  have hcontrolled : stationControlled request = true := by
    simp [stationControlled, hgeneral]
  rw [dispatch, if_neg (by rw [hoff]; exact Bool.false_ne_true), hcontrolled,
    Bool.true_and, authorized_eq hlease, if_pos hgeneral]

/-- The requests about sessions that are answered in a way of their own. -/
def Plain (request : CText) : Prop :=
  requestIs "CONNECT" "/v1/tx/stream" request = false
    ∧ requestIs "POST" "/v1/tx/audio" request = false

theorem within_state (keyed : Bool) :
    ("\x7b\"state\":\"" ++ (if keyed then "transmitting" else "reserved")
      ++ "\"\x7d\n").Within 3900 := by
  have hstate : (if keyed then "transmitting" else "reserved").Within 12 := by
    cases keyed <;> decide
  exact (((within_self "\x7b\"state\":\"").append hstate).append
    (within_self "\"\x7d\n")).mono (by decide)

/-- What the answer of a session says. -/
theorem txReply_told (result : NetworkTxResult) (keyed : Bool)
    (h : result = .ok → requestIs "POST" "/v1/tx/sessions" request = false) :
    (txReply request Daemon.responseCapacity result lease keyed).Says
      (sessionAnswer keyed result) := by
  unfold txReply
  cases result with
  | ok =>
    rw [if_pos rfl, h rfl]
    exact says_response (by decide) (within_state keyed) rfl
  | _ => exact says_error (by decide) (by decide)

/-- The routes of the sessions, but for the stream and the samples. -/
theorem txRoute_plain (hplain : Plain request) :
    txRoute cb request radio Daemon.responseCapacity p
      = if p.world.api.networkAttached = true ∧ p.network.enabled = true then
          let r := txOperation cb request radio p
          (txReply request Daemon.responseCapacity r.1.1 r.1.2
              r.2.network.keyed,
            counted r.1.1 r.2)
        else (notFound Daemon.responseCapacity, p) := by
  rw [txRoute]
  by_cases hattached : p.world.api.networkAttached = true
      ∧ p.network.enabled = true
  · rw [if_pos hattached, if_neg (by simp [hattached])]
    dsimp only
    rw [if_neg (by simp [hplain.1]), if_neg (by simp [hplain.2])]
    rfl
  · rw [if_neg hattached, if_pos]
    simpa [← Bool.not_eq_true, imp_iff_not_or] using hattached

/-- **A call about one session** is answered by what is done for it. -/
theorem tells_forSession {txLease : UInt64}
    {operation : TxPlane (ApiWorld ρ) → NetworkTxResult × TxPlane (ApiWorld ρ)}
    (hplain : Plain request)
    (hcreate : requestIs "POST" "/v1/tx/sessions" request = false)
    (hlease : HttpRequest.lease request = (some txLease).filter (· != 0))
    (hroute : ∀ p, txLeaseRoute cb request radio txLease p = operation p) :
    Tells (txRoute cb request radio Daemon.responseCapacity p)
      (forSession txLease operation p) := by
  rw [txRoute_plain cb radio hplain, forSession, forSessions]
  split
  · rw [txOperation, if_neg (by simp [hcreate]), hlease]
    by_cases hzero : txLease = 0
    · rw [if_pos hzero, hzero]
      exact ⟨txReply_told _ _ fun _ => hcreate, rfl⟩
    · rw [if_neg hzero, Option.filter_some_pos (by simpa using hzero)]
      dsimp only
      rw [hroute]
      exact ⟨txReply_told _ _ fun _ => hcreate, rfl⟩
  · exact ⟨says_notFound, rfl⟩

/-- The first line of a request. -/
def firstLine (method : HttpMethod) (path : String) : CText :=
  ofString method.text ++ ofString " " ++ ofString path ++ ofString " HTTP/1.1"

/-- The requests about one session. -/
def sessionLines : List (HttpMethod × String) :=
  [(.put, "/v1/tx/ptt/start"), (.put, "/v1/tx/ptt/stop"),
    (.put, "/v1/tx/sessions/keepalive"), (.delete, "/v1/tx/sessions/current")]

/-- The beginnings of the requests that are none of them. -/
def otherLines : List String :=
  ownLines ++ ["CONNECT /v1/tx/stream HTTP/", "POST /v1/tx/audio HTTP/",
    "POST /v1/tx/sessions HTTP/"]

theorem off_of_sessionLine {line : HttpMethod × String}
    (hline : line ∈ sessionLines)
    (hq : hasPrefix (firstLine line.1 line.2) request = true) :
    (∀ own ∈ otherLines, hasPrefix (ofString own) request = false)
      ∧ txGeneralPath request = true := by
  have hall : sessionLines.all (fun line => otherLines.all fun own =>
      !((ofString own).isPrefixOf (firstLine line.1 line.2)
        || (firstLine line.1 line.2).isPrefixOf (ofString own))) = true := by
    decide
  refine ⟨fun own hown => not_hasPrefix_of_known hq ?_, ?_⟩
  · simpa using List.all_eq_true.mp (List.all_eq_true.mp hall line hline) own
      hown
  · have hbegins : sessionLines.all (fun line =>
        ((ofString "PUT /v1/tx/").isPrefixOf (firstLine line.1 line.2)
          || (ofString "DELETE /v1/tx/").isPrefixOf (firstLine line.1 line.2)))
        = true := by
      decide
    obtain hbegins | hbegins :=
      Bool.or_eq_true_iff.mp (List.all_eq_true.mp hbegins line hline)
    · simp [txGeneralPath, hasPrefix_of_known hq hbegins]
    · simp [txGeneralPath, hasPrefix_of_known hq hbegins]

/-- **A call about one session is made.** -/
theorem session_made {txLease : UInt64} {call : CompanionCall}
    {operation : TxPlane (ApiWorld ρ) → NetworkTxResult × TxPlane (ApiWorld ρ)}
    {line : HttpMethod × String} (hline : line ∈ sessionLines)
    (hhttp : call.http = { method := line.1, path := ofString line.2,
                           leases := .session lease txLease })
    (h : call.http.Sendable host)
    (hroute : ∀ request, hasPrefix (firstLine line.1 line.2) request = true →
      ∀ p, txLeaseRoute cb request radio txLease p = operation p)
    (hserve : call.serve cb ops radio p
      = forStation lease (forSession txLease operation) p) :
    Made cb ops radio pages host call p := by
  have hfirst : call.http.requestLine = firstLine line.1 line.2 := by
    rw [hhttp]
    rfl
  have hq := hfirst ▸ HttpCall.hasPrefix_requestText host call.http
  have hcontrol : controlLease (call.http.requestText host) = some lease := by
    rw [HttpCall.controlLease_requestText h, hhttp]
    rfl
  have hlease : HttpRequest.lease (call.http.requestText host)
      = (some txLease).filter (· != 0) := by
    rw [HttpCall.lease_requestText h, hhttp]
    rfl
  obtain ⟨hoff, hgeneral⟩ := off_of_sessionLine hline hq
  unfold Made
  rw [dispatch_session _ _ _ _ (offStation_of_begins fun own hown =>
    hoff own (List.mem_append_left _ hown)) hgeneral hcontrol, hserve]
  refine tells_forStation (tells_forSession cb radio ⟨hoff _ (by decide),
    hoff _ (by decide)⟩ (hoff _ (by decide)) hlease (hroute _ hq))

theorem sessionKeepalive_made {txLease : UInt64}
    (h : (sessionKeepalive lease txLease).http.Sendable host) :
    Made cb ops radio pages host (sessionKeepalive lease txLease) p := by
  refine session_made cb ops radio pages
    (show (.put, "/v1/tx/sessions/keepalive") ∈ sessionLines by decide) rfl h
    (fun request hq p => ?_) rfl
  have hkeepalive : requestIs "PUT" "/v1/tx/sessions/keepalive" request
      = true := hasPrefix_of_known hq (by decide)
  rw [txLeaseRoute, if_pos hkeepalive]
  rfl

theorem pttStart_made {txLease : UInt64}
    (h : (pttStart lease txLease).http.Sendable host) :
    Made cb ops radio pages host (pttStart lease txLease) p := by
  refine session_made cb ops radio pages
    (show (.put, "/v1/tx/ptt/start") ∈ sessionLines by decide) rfl h
    (fun request hq p => ?_) rfl
  have hkeepalive : requestIs "PUT" "/v1/tx/sessions/keepalive" request
      = false := not_hasPrefix_of_known hq (by decide)
  have hconnect : requestIs "CONNECT" "/v1/tx/stream" request = false :=
    not_hasPrefix_of_known hq (by decide)
  have hstart : requestIs "PUT" "/v1/tx/ptt/start" request = true :=
    hasPrefix_of_known hq (by decide)
  simp only [txLeaseRoute, hkeepalive, hconnect, hstart, Bool.false_eq_true,
    if_false, if_true]

theorem pttStop_made {txLease : UInt64}
    (h : (pttStop lease txLease).http.Sendable host) :
    Made cb ops radio pages host (pttStop lease txLease) p := by
  refine session_made cb ops radio pages
    (show (.put, "/v1/tx/ptt/stop") ∈ sessionLines by decide) rfl h
    (fun request hq p => ?_) rfl
  have hkeepalive : requestIs "PUT" "/v1/tx/sessions/keepalive" request
      = false := not_hasPrefix_of_known hq (by decide)
  have hconnect : requestIs "CONNECT" "/v1/tx/stream" request = false :=
    not_hasPrefix_of_known hq (by decide)
  have hstart : requestIs "PUT" "/v1/tx/ptt/start" request = false :=
    not_hasPrefix_of_known hq (by decide)
  have hstop : requestIs "PUT" "/v1/tx/ptt/stop" request = true :=
    hasPrefix_of_known hq (by decide)
  simp only [txLeaseRoute, hkeepalive, hconnect, hstart, hstop,
    Bool.false_eq_true, if_false, if_true]

theorem sessionRelease_made {txLease : UInt64}
    (h : (sessionRelease lease txLease).http.Sendable host) :
    Made cb ops radio pages host (sessionRelease lease txLease) p := by
  refine session_made cb ops radio pages
    (show (.delete, "/v1/tx/sessions/current") ∈ sessionLines by decide) rfl h
    (fun request hq p => ?_) rfl
  have hoff : requestIs "PUT" "/v1/tx/sessions/keepalive" request = false
      ∧ requestIs "CONNECT" "/v1/tx/stream" request = false
      ∧ requestIs "PUT" "/v1/tx/ptt/start" request = false
      ∧ requestIs "PUT" "/v1/tx/ptt/stop" request = false :=
    ⟨not_hasPrefix_of_known hq (by decide),
      not_hasPrefix_of_known hq (by decide),
      not_hasPrefix_of_known hq (by decide),
      not_hasPrefix_of_known hq (by decide)⟩
  have hrelease : requestIs "DELETE" "/v1/tx/sessions/current" request = true :=
    hasPrefix_of_known hq (by decide)
  simp only [txLeaseRoute, hoff, hrelease, Bool.false_eq_true, if_false,
    if_true]

/-! ### A new session -/

/-- The profile is read as it was asked for. -/
theorem parseTxProfile_of_body {mode : NetworkTxMode}
    (hbody : HttpRequest.body request = some (profileText mode)) :
    parseTxProfile request = some (companionProfile mode) := by
  rw [parseTxProfile, hbody]
  cases mode <;> rfl

/-- The type of a body is read as it was sent. -/
theorem header_type {call : HttpCall} (h : call.Sendable host)
    (hbody : call.body ≠ []) : ∃ rest,
    header "Content-Type" (call.requestText host)
      = some (ofString "application/json" ++ rest) := by
  have hlines : call.lines host = (HttpCall.frontLines host call
      ++ call.leases.entries.map HttpCall.leaseLine
      ++ [lengthName ++ 32 :: ofString (toString call.body.length)])
        ++ (ofString "Content-Type"
          ++ (58 :: 32 :: ofString "application/json")) :: [] := by
    have htype : ofString "Content-Type: application/json"
        = ofString "Content-Type" ++ (58 :: 32 :: ofString "application/json") :=
      rfl
    rw [HttpCall.lines, if_neg hbody, htype]
    simp
  have hplain (l : CText) (hl : l ∈ call.lines host) : HeaderLine l :=
    HttpCall.headerLine_of_mem_lines h hl
  have hcount := length_le_headerText (call.lines host)
  have hname : 13 ∉ ofString "Content-Type" := by decide
  rw [HttpCall.requestText_eq]
  rw [hlines] at hplain hcount ⊢
  refine ⟨_, headerFrom_of_lines hname (fun l hl => ⟨hplain l
    (List.mem_append_left _ hl), ?_⟩) (hplain _ (by simp)) rfl (by decide) ?_⟩
  · obtain hl | hl := List.mem_append.mp hl
    · obtain hl | hl := List.mem_append.mp hl
      · exact HttpCall.named_of_front (by decide) hl
      · obtain ⟨entry, hentry, rfl⟩ := List.mem_map.mp hl
        have hapart : apart (ofString "Content-Type") (ofString entry.1)
            = true := by
          obtain hname | hname := HttpCall.name_of_entry hentry
          all_goals
            rw [hname]
            decide
        exact named_of_apart hapart _
    · rw [List.mem_singleton.mp hl]
      exact named_of_apart (by decide) _
  · simp only [List.length_append, List.length_singleton] at hcount ⊢
    omega

theorem within_reserved (lease : UInt64) :
    ("\x7b\"lease\":" ++ toString lease.toNat
      ++ ",\"state\":\"reserved\",\"lease_timeout_ms\":15000\x7d\n").Within
        3900 :=
  (((within_self "\x7b\"lease\":").append (within_uint64 lease)).append
    (within_self ",\"state\":\"reserved\",\"lease_timeout_ms\":15000\x7d\n")).mono
    (by decide)

/-- What the answer to a new session says. -/
theorem txReply_says_created
    (h : requestIs "POST" "/v1/tx/sessions" request = true) (keyed : Bool) :
    (txReply request Daemon.responseCapacity .ok lease keyed).Says
      { status := 201
        body := "\x7b\"lease\":" ++ toString lease.toNat
          ++ ",\"state\":\"reserved\",\"lease_timeout_ms\":15000\x7d\n" } := by
  unfold txReply
  rw [if_pos rfl, if_pos h]
  exact says_response (by decide) (within_reserved lease) rfl

theorem createSession_made {mode : NetworkTxMode}
    (h : (createSession mode lease).http.Sendable host) :
    Made cb ops radio pages host (createSession mode lease) p := by
  have hq : hasPrefix (firstLine .post "/v1/tx/sessions")
      ((createSession mode lease).http.requestText host) = true :=
    HttpCall.hasPrefix_requestText host (createSession mode lease).http
  have hcontrol : controlLease ((createSession mode lease).http.requestText
      host) = some lease := HttpCall.controlLease_requestText h
  have hprofile := parseTxProfile_of_body (HttpCall.body_requestText h)
  have hbody : profileText mode ≠ [] := by cases mode <;> decide
  obtain ⟨rest, htype⟩ := header_type h hbody
  unfold Made
  generalize (createSession mode lease).http.requestText host = request
    at hq hcontrol hprofile htype ⊢
  have hoff : OffStation request := offStation_of_known hq (by decide)
  have hgeneral : txGeneralPath request = true := by
    have hpost : hasPrefix (ofString "POST /v1/tx/") request = true :=
      hasPrefix_of_known hq (by decide)
    simp [txGeneralPath, hpost]
  have hcreate : requestIs "POST" "/v1/tx/sessions" request = true :=
    hasPrefix_of_known hq (by decide)
  have hplain : Plain request := ⟨not_hasPrefix_of_known hq (by decide),
    not_hasPrefix_of_known hq (by decide)⟩
  have hjson : (header "Content-Type" request).any
      (hasPrefixIgnoringCase (ofString "application/json")) = true := by
    rw [htype]
    simp [hasPrefixIgnoringCase, List.isPrefixOf_iff_prefix]
  rw [dispatch_session _ _ _ _ hoff hgeneral hcontrol]
  refine tells_forStation ?_
  rw [txRoute_plain cb radio hplain, forSessions]
  split
  · rw [txOperation, if_pos hcreate, txSessionCreate]
    dsimp only
    rw [if_pos hjson, hprofile]
    refine ⟨?_, rfl⟩
    dsimp only [createServed]
    split
    next hok =>
      rw [hok]
      exact txReply_says_created hcreate _
    next hok => exact txReply_told _ _ fun h => absurd h hok
  · exact ⟨says_notFound, rfl⟩

/-! ### The receiver -/

/-- The paths of the receive settings the companion makes. -/
def receiverPaths : List CText :=
  [frequencyPrefix, modePrefix, bandwidthPrefix]

/-- The beginnings of the requests that are for others. -/
def beforeReceiver : List CText :=
  ownLines.map ofString
    ++ ["POST /v1/tx/", "PUT /v1/tx/", "CONNECT /v1/tx/",
      "DELETE /v1/tx/"].map ofString
    ++ [txCompressorPath, txDrivePath, txMicGainPath, txTimeoutPath, tunePath]

/-- What is read behind a path is nothing where another path stands. -/
theorem afterPrefix_off {q path : CText} (hq : hasPrefix q request = true)
    (h : (path.isPrefixOf q || q.isPrefixOf path) = false) :
    afterPrefix path request = none := by
  rw [afterPrefix, scanLiteral, not_hasPrefix_of_known hq h,
    if_neg Bool.false_ne_true]

/-- A receive setting goes to the receiver's routes, once the station allows
it. -/
theorem dispatch_receiver {path : CText} (hpath : path ∈ receiverPaths)
    (hbegins : hasPrefix path request = true)
    (hlease : controlLease request = some lease) :
    dispatch cb ops request radio Daemon.responseCapacity pages p
      = if p.world.api.stationAttached
            && !p.world.station.leaseMatches lease then
          (errorReply "409 Conflict" "station_owned" Daemon.responseCapacity,
            p)
        else radioRoute ops request Daemon.responseCapacity pages p := by
  have hall : receiverPaths.all (fun path => beforeReceiver.all fun other =>
      !(other.isPrefixOf path || path.isPrefixOf other)) = true := by decide
  have hoff (other : CText) (hother : other ∈ beforeReceiver) :
      hasPrefix other request = false :=
    not_hasPrefix_of_known hbegins (by
      simpa using List.all_eq_true.mp (List.all_eq_true.mp hall path hpath)
        other hother)
  have hown : OffStation request := offStation_of_begins fun own hown =>
    hoff _ (List.mem_append_left _ (List.mem_append_left _
      (List.mem_map_of_mem hown)))
  have hgeneral : txGeneralPath request = false := by
    simp only [txGeneralPath, Bool.or_eq_false_iff]
    exact ⟨⟨⟨hoff _ (by decide), hoff _ (by decide)⟩, hoff _ (by decide)⟩,
      hoff _ (by decide)⟩
  have hcontrolled : stationControlled request = true := by
    simp only [receiverPaths, List.mem_cons, List.not_mem_nil, or_false]
      at hpath
    obtain rfl | rfl | rfl := hpath
    all_goals simp [stationControlled, hbegins]
  rw [dispatch, if_neg (by rw [hown]; exact Bool.false_ne_true), hcontrolled,
    Bool.true_and, authorized_eq hlease, hgeneral, if_neg Bool.false_ne_true,
    hoff txCompressorPath (by decide), if_neg Bool.false_ne_true,
    hoff txDrivePath (by decide), if_neg Bool.false_ne_true,
    hoff txMicGainPath (by decide), if_neg Bool.false_ne_true,
    hoff txTimeoutPath (by decide), if_neg Bool.false_ne_true,
    hoff tunePath (by decide), if_neg Bool.false_ne_true]

/-- Where a value follows a path, the value is read up to a blank. -/
theorem afterPrefix_requestText (path : CText) {value : CText} {call : HttpCall}
    (hput : call.method = .put) (hpath : call.path = path ++ value) :
    ∃ tail, afterPrefix (ofString "PUT " ++ path) (call.requestText host)
      = some (value ++ 32 :: tail) := by
  have hversion : ofString " HTTP/1.1" = 32 :: ofString "HTTP/1.1" := rfl
  have hmethod : ofString HttpMethod.put.text ++ ofString " "
      = ofString "PUT " := rfl
  obtain ⟨rest, hrest⟩ := hasPrefix_iff.mp
    (HttpCall.hasPrefix_requestText host call)
  refine ⟨ofString "HTTP/1.1" ++ rest, ?_⟩
  rw [← hrest, HttpCall.requestLine, hput, hpath, hmethod, hversion,
    ← List.append_assoc (ofString "PUT "), List.append_assoc _ value,
    List.append_assoc _ _ rest, List.append_assoc value, List.cons_append,
    afterPrefix, scanLiteral, if_pos (hasPrefix_iff.mpr
      (List.prefix_append _ _)), List.drop_left]

/-- A printed number in a path. -/
theorem pathNumber_toString (n : ℕ) (tail : CText) :
    pathNumber (ofString (toString n) ++ 32 :: tail)
      = if 2 ^ 32 ≤ n then none else some n := by
  have hdigits (c : UInt8) (hc : c ∈ ofString (toString n)) :
      isDigit c = true := isDigit_of_mem_toString hc
  have hstop : isDigit (peek (32 :: tail)) = false := rfl
  have hne := toString_ne_nil n
  rw [pathNumber, takeWhile_run hdigits hstop, dropWhile_run hdigits hstop,
    decimal_toString]
  by_cases hbig : 2 ^ 32 ≤ n
  · rw [if_pos hbig, if_pos (Or.inr (Or.inl hbig))]
  · rw [if_neg hbig, if_neg]
    rintro (hempty | hlarge | hblank)
    · exact hne (List.isEmpty_iff.mp hempty)
    · exact hbig hlarge
    · exact hblank rfl

/-- A receive setting that no stream takes is not found. -/
theorem lastRoutes_silent (hgain : parseRxGain request = none)
    (hpath : receivePath request = true) :
    lastRoutes ops request Daemon.responseCapacity pages p
      = (notFound Daemon.responseCapacity, p) := by
  rw [lastRoutes, hgain, if_pos hpath]

/-- What stands behind each of the paths. -/
theorem parsed_off {path : CText} (hpath : path ∈ receiverPaths)
    (hbegins : hasPrefix path request = true) :
    (path ≠ frequencyPrefix → parseRxFrequency request = none)
      ∧ (path ≠ modePrefix → parseRxMode request = none)
      ∧ (path ≠ bandwidthPrefix → parseRxBandwidth request = none)
      ∧ parseRxSquelch request = none ∧ parseRxGain request = none
      ∧ receivePath request = true := by
  have hall : ([frequencyPrefix, modePrefix, bandwidthPrefix, squelchPrefix,
      gainPrefix].all fun other => receiverPaths.all fun path =>
        path == other || !(other.isPrefixOf path || path.isPrefixOf other))
        = true := by decide
  have hoff {other : CText} (hother : other ∈ [frequencyPrefix, modePrefix,
      bandwidthPrefix, squelchPrefix, gainPrefix]) (hne : path ≠ other) :
      afterPrefix other request = none :=
    afterPrefix_off hbegins (by
      simpa [hne] using List.all_eq_true.mp
        (List.all_eq_true.mp hall other hother) path hpath)
  have hsquelch : path ≠ squelchPrefix := fun h =>
    absurd (h ▸ hpath) (by decide)
  have hgain : path ≠ gainPrefix := fun h => absurd (h ▸ hpath) (by decide)
  refine ⟨fun hne => ?_, fun hne => ?_, fun hne => ?_, ?_, ?_, ?_⟩
  · rw [parseRxFrequency, hoff (by decide) hne]
    rfl
  · rw [parseRxMode, hoff (by decide) hne]
    rfl
  · rw [parseRxBandwidth, hoff (by decide) hne]
    rfl
  · rw [parseRxSquelch, hoff (by decide) hsquelch]
    rfl
  · rw [parseRxGain, hoff (by decide) hgain]
    rfl
  · simp only [receiverPaths, List.mem_cons, List.not_mem_nil, or_false]
      at hpath
    obtain rfl | rfl | rfl := hpath
    all_goals simp [receivePath, hbegins]

/-- **A receive setting waits** while somebody transmits. -/
theorem tells_forReceiver {f : TxPlane (ApiWorld ρ) →
      Answer × TxPlane (ApiWorld ρ)}
    (hset : receiveSetting request = true)
    (h : p.world.api.transmitterActive p.tx = false →
      Tells (radioRoute ops request Daemon.responseCapacity pages p) (f p)) :
    Tells (radioRoute ops request Daemon.responseCapacity pages p)
      (forReceiver f p) := by
  unfold forReceiver
  cases hactive : p.world.api.transmitterActive p.tx with
  | false => exact h hactive
  | true =>
    rw [radioRoute, if_pos (by simp [hset, hactive]), if_pos rfl]
    exact ⟨says_transmitterActive, rfl⟩

theorem within_tuned {frequencyHz rxFilter : ℕ}
    (hfrequency : frequencyHz < 2 ^ 32) (hfilter : rxFilter < 2 ^ 32) :
    ("\x7b\"frequency_hz\":" ++ toString frequencyHz ++ ",\"rx_filter\":"
      ++ toString rxFilter ++ "\x7d\n").Within 3900 := by
  have hbound (n : ℕ) (hn : n < 2 ^ 32) : (toString n).Within 10 :=
    String.within_toString (Nat.lt_of_lt_of_le hn (by decide)) (by decide)
  exact (((((within_self "\x7b\"frequency_hz\":").append
    (hbound _ hfrequency)).append (within_self ",\"rx_filter\":")).append
    (hbound _ hfilter)).append (within_self "\x7d\n")).mono (by decide)

/-- **Tuning tells the filter**, where it is done. -/
theorem tells_tune {tuneRx : ℕ → ρ → (Int × ℕ) × ρ} {frequencyHz : ℕ}
    (hops : ops.Reports) (htune : ops.tuneRx = some tuneRx)
    (henabled : p.world.api.rxTuningEnabled = true)
    (hsmall : frequencyHz < 2 ^ 32) :
    Tells (frequencyRoute Daemon.responseCapacity tuneRx frequencyHz p)
      (tuneServed ops frequencyHz p) := by
  have hfailed : (errorReply "500 Internal Server Error" "RX tune failed"
      Daemon.responseCapacity).Says (.error 500 "RX tune failed") :=
    says_error (by decide) (by decide)
  unfold frequencyRoute tuneServed
  rw [htune, henabled]
  dsimp only
  split
  · exact ⟨says_error (by decide) (by decide), rfl⟩
  · refine ⟨?_, rfl⟩
    dsimp only
    split
    next hok =>
      have hfilter := hops tuneRx htune frequencyHz p.world.radio hok
      exact says_response (by decide) (within_tuned hsmall hfilter) rfl
    next =>
      refine hfailed.congr ?_
      dsimp only

theorem setFrequency_made {frequencyHz : UInt64} (hops : ops.Reports)
    (h : (setFrequency frequencyHz lease).http.Sendable host) :
    Made cb ops radio pages host (setFrequency frequencyHz lease) p := by
  have hpath : frequencyPrefix ∈ receiverPaths := by decide
  have hcontrol : controlLease
      ((setFrequency frequencyHz lease).http.requestText host) = some lease :=
    HttpCall.controlLease_requestText h
  obtain ⟨tail, hafter⟩ : ∃ tail, afterPrefix frequencyPrefix
      ((setFrequency frequencyHz lease).http.requestText host)
        = some (ofString (toString frequencyHz.toNat) ++ 32 :: tail) :=
    afterPrefix_requestText (ofString "/v1/radio/frequency/") rfl rfl
  unfold Made
  generalize (setFrequency frequencyHz lease).http.requestText host = request
    at hcontrol hafter ⊢
  have hbegins := hasPrefix_of_afterPrefix hafter
  have hread : parseRxFrequency request
      = if 2 ^ 32 ≤ frequencyHz.toNat then none else some frequencyHz.toNat := by
    rw [parseRxFrequency, hafter]
    exact pathNumber_toString _ _
  obtain ⟨-, hmode, hbandwidth, hsquelch, hgain, hreceive⟩ :=
    parsed_off hpath hbegins
  replace hmode := hmode (by decide)
  replace hbandwidth := hbandwidth (by decide)
  have hstreams : streamRoutes ops request Daemon.responseCapacity pages p
      = (notFound Daemon.responseCapacity, p) := by
    unfold streamRoutes
    rw [hmode, hbandwidth, hsquelch,
      lastRoutes_silent ops pages hgain hreceive]
    exact ite_self _
  have hnotFound : Tells (notFound Daemon.responseCapacity, p)
      (Answer.error 404 "not found", p) := ⟨says_notFound, rfl⟩
  rw [dispatch_receiver cb ops radio pages hpath hbegins hcontrol]
  refine tells_forStation ?_
  by_cases hbig : 2 ^ 32 ≤ frequencyHz.toNat
  · rw [if_pos hbig] at hread ⊢
    rw [radioRoute, if_neg (by simp [receiveSetting, hread, hmode, hbandwidth]),
      hread, hstreams]
    exact hnotFound
  · rw [if_neg hbig] at hread ⊢
    refine tells_forReceiver ops pages (by simp [receiveSetting, hread])
      fun hactive => ?_
    rw [radioRoute, if_neg (by simp [hactive]), hread, hstreams]
    cases htune : ops.tuneRx with
    | none =>
      rw [tuneServed, htune]
      exact hnotFound
    | some tuneRx =>
      cases henabled : p.world.api.rxTuningEnabled with
      | false =>
        rw [tuneServed, htune, henabled]
        exact hnotFound
      | true =>
        exact tells_tune ops hops htune henabled (Nat.lt_of_not_le hbig)

/-! ### The mode and the bandwidth -/

/-- A mode in a path. -/
theorem parseRxMode_of_path {mode : String} (hmode : mode ∈ rxModes)
    {tail : CText} (h : afterPrefix modePrefix request
      = some (ofString mode ++ 32 :: tail)) :
    parseRxMode request = some mode := by
  rw [parseRxMode, h]
  simp only [rxModes, List.mem_cons, List.not_mem_nil, or_false] at hmode
  obtain rfl | rfl | rfl | rfl | rfl := hmode
  all_goals rfl

theorem within_mode {mode : String} (hmode : mode ∈ rxModes) :
    ("\x7b\"rx_mode\":\"" ++ mode ++ "\",\"rx_bandwidth_hz\":"
      ++ toString (modeBandwidth mode) ++ "\x7d\n").Within 3900 := by
  have hbandwidth : modeBandwidth mode < 10 ^ 5 := by
    unfold modeBandwidth
    repeat' split
    all_goals decide
  exact (((((within_self "\x7b\"rx_mode\":\"").append
    (within_rxMode hmode)).append (within_self "\",\"rx_bandwidth_hz\":")).append
    (String.within_toString hbandwidth (by decide))).append
    (within_self "\x7d\n")).mono (by decide)

theorem setMode_made {mode : String} (hmode : mode ∈ rxModes)
    (h : (setMode mode lease).http.Sendable host) :
    Made cb ops radio pages host (setMode mode lease) p := by
  have hpath : modePrefix ∈ receiverPaths := by decide
  have hcontrol : controlLease ((setMode mode lease).http.requestText host)
      = some lease := HttpCall.controlLease_requestText h
  obtain ⟨tail, hafter⟩ : ∃ tail, afterPrefix modePrefix
      ((setMode mode lease).http.requestText host)
        = some (ofString mode ++ 32 :: tail) :=
    afterPrefix_requestText (ofString "/v1/radio/mode/") rfl rfl
  unfold Made
  generalize (setMode mode lease).http.requestText host = request
    at hcontrol hafter ⊢
  have hbegins := hasPrefix_of_afterPrefix hafter
  have hread := parseRxMode_of_path hmode hafter
  obtain ⟨hfrequency, -, -, -, hgain, hreceive⟩ := parsed_off hpath hbegins
  replace hfrequency := hfrequency (by decide)
  rw [dispatch_receiver cb ops radio pages hpath hbegins hcontrol]
  refine tells_forStation (tells_forReceiver ops pages
    (by simp [receiveSetting, hread]) fun hactive => ?_)
  rw [radioRoute, if_neg (by simp [hactive]), hfrequency]
  dsimp only
  unfold streamRoutes
  rw [hread, lastRoutes_silent ops pages hgain hreceive]
  split
  · exact ⟨says_response (by decide) (within_mode hmode) rfl, rfl⟩
  · exact ⟨says_notFound, rfl⟩

theorem setBandwidth_made {bandwidthHz : ℕ}
    (h : (setBandwidth bandwidthHz lease).http.Sendable host) :
    Made cb ops radio pages host (setBandwidth bandwidthHz lease) p := by
  have hpath : bandwidthPrefix ∈ receiverPaths := by decide
  have hcontrol : controlLease
      ((setBandwidth bandwidthHz lease).http.requestText host) = some lease :=
    HttpCall.controlLease_requestText h
  obtain ⟨tail, hafter⟩ : ∃ tail, afterPrefix bandwidthPrefix
      ((setBandwidth bandwidthHz lease).http.requestText host)
        = some (ofString (toString bandwidthHz) ++ 32 :: tail) :=
    afterPrefix_requestText (ofString "/v1/radio/bandwidth/") rfl rfl
  unfold Made
  generalize (setBandwidth bandwidthHz lease).http.requestText host = request
    at hcontrol hafter ⊢
  have hbegins := hasPrefix_of_afterPrefix hafter
  have hread : parseRxBandwidth request
      = if 100 ≤ bandwidthHz ∧ bandwidthHz ≤ 20000 then some bandwidthHz
        else none := by
    rw [parseRxBandwidth, hafter]
    simp only [Option.bind_eq_bind, Option.bind_some, pathNumber_toString]
    by_cases hbig : 2 ^ 32 ≤ bandwidthHz
    · rw [if_pos hbig, if_neg (by omega)]
      rfl
    · rw [if_neg hbig, Option.bind_some]
  obtain ⟨hfrequency, hmode, -, hsquelch, hgain, hreceive⟩ :=
    parsed_off hpath hbegins
  replace hfrequency := hfrequency (by decide)
  replace hmode := hmode (by decide)
  rw [dispatch_receiver cb ops radio pages hpath hbegins hcontrol]
  refine tells_forStation ?_
  have hlast := lastRoutes_silent (p := p) ops pages hgain hreceive
  by_cases hrange : 100 ≤ bandwidthHz ∧ bandwidthHz ≤ 20000
  · rw [if_pos hrange] at hread ⊢
    refine tells_forReceiver ops pages (by simp [receiveSetting, hread])
      fun hactive => ?_
    rw [radioRoute, if_neg (by simp [hactive]), hfrequency]
    dsimp only
    unfold streamRoutes
    rw [hmode, hread, hlast]
    split
    · have hsize : (toString bandwidthHz).Within 5 :=
        String.within_toString (by omega) (by decide)
      exact ⟨says_response (by decide) ((((within_self
        "\x7b\"rx_bandwidth_hz\":").append hsize).append
        (within_self "\x7d\n")).mono (by decide)) rfl, rfl⟩
    · exact ⟨says_notFound, rfl⟩
  · rw [if_neg hrange] at hread ⊢
    rw [radioRoute, if_neg (by simp [receiveSetting, hread, hmode, hfrequency]),
      hfrequency]
    dsimp only
    unfold streamRoutes
    rw [hmode, hread, hsquelch, hlast]
    dsimp only
    rw [ite_self]
    exact ⟨says_notFound, rfl⟩

/-! ### Any call -/

/-- Bytes that a line may hold. -/
def LineText (text : CText) : Prop :=
  ∀ c ∈ text, c ≠ 0 ∧ c ≠ 10 ∧ c ≠ 13

theorem lineText_of_all {text : CText}
    (h : text.all (fun c => c != 0 && c != 10 && c != 13) = true) :
    LineText text := fun c hc => by
  simpa [and_assoc] using List.all_eq_true.mp h c hc

theorem lineText_toString (n : ℕ) : LineText (ofString (toString n)) := by
  intro c hc
  have hdigit := isDigit_of_mem_toString hc
  refine ⟨?_, ?_, ?_⟩
  all_goals
    rintro rfl
    exact absurd hdigit (by decide)

theorem LineText.append {text rest : CText} (h : LineText text)
    (hrest : LineText rest) : LineText (text ++ rest) := fun c hc =>
  (List.mem_append.mp hc).elim (h c) (hrest c)

/-- The path of a call is one a line may hold. -/
theorem lineText_path {call : CompanionCall} (hvalid : call.Valid) :
    LineText call.http.path := by
  have hliteral (path : String) (h : (ofString path).all
      (fun c => c != 0 && c != 10 && c != 13) = true) :
      LineText (ofString path) := lineText_of_all h
  cases call with
  | acquire => exact hliteral "/v1/control/owner" (by decide)
  | keepalive => exact hliteral "/v1/control/owner/keepalive" (by decide)
  | release => exact hliteral "/v1/control/owner" (by decide)
  | setFrequency frequencyHz =>
    exact (hliteral "/v1/radio/frequency/" (by decide)).append
      (lineText_toString _)
  | setMode mode =>
    have hmodes : rxModes.all (fun mode => (ofString mode).all
        fun c => c != 0 && c != 10 && c != 13) = true := by decide
    exact (hliteral "/v1/radio/mode/" (by decide)).append
      (lineText_of_all (List.all_eq_true.mp hmodes mode hvalid))
  | setBandwidth bandwidthHz =>
    exact (hliteral "/v1/radio/bandwidth/" (by decide)).append
      (lineText_toString _)
  | createSession => exact hliteral "/v1/tx/sessions" (by decide)
  | pttStart => exact hliteral "/v1/tx/ptt/start" (by decide)
  | pttStop => exact hliteral "/v1/tx/ptt/stop" (by decide)
  | sessionKeepalive => exact hliteral "/v1/tx/sessions/keepalive" (by decide)
  | sessionRelease => exact hliteral "/v1/tx/sessions/current" (by decide)

/-- The body of a call is the profile of a new session, or empty. -/
theorem body_of_call (call : CompanionCall) :
    0 ∉ call.http.body ∧ call.http.body.length ≤ 65536 := by
  have hprofile (mode : NetworkTxMode) : 0 ∉ profileText mode
      ∧ (profileText mode).length ≤ 65536 := by
    cases mode <;> decide
  cases call with
  | createSession mode => exact hprofile mode
  | _ => exact ⟨List.not_mem_nil, Nat.zero_le _⟩

/-- **A call can be sent** to a host that can be named. -/
theorem sendable {call : CompanionCall} (hhost : LineText host)
    (hvalid : call.Valid) : call.http.Sendable host :=
  ⟨hhost, lineText_path hvalid, (body_of_call call).1, (body_of_call call).2⟩

/-- **Every call is made**: as text, it does what it does as a call, and the
text of the answer says what it is told. -/
theorem call_made (hhost : LineText host) (hops : ops.Reports)
    {call : CompanionCall} (hvalid : call.Valid) :
    Made cb ops radio pages host call p := by
  have h := sendable hhost hvalid
  cases call with
  | acquire => exact acquire_made cb ops radio pages h
  | keepalive => exact keepalive_made cb ops radio pages h
  | release => exact release_made cb ops radio pages h
  | setFrequency => exact setFrequency_made cb ops radio pages hops h
  | setMode => exact setMode_made cb ops radio pages hvalid h
  | setBandwidth => exact setBandwidth_made cb ops radio pages h
  | createSession => exact createSession_made cb ops radio pages h
  | pttStart => exact pttStart_made cb ops radio pages h
  | pttStop => exact pttStop_made cb ops radio pages h
  | sessionKeepalive => exact sessionKeepalive_made cb ops radio pages h
  | sessionRelease => exact sessionRelease_made cb ops radio pages h

end Dispatch

end CompanionCall

/-- A daemon that is up, whose station the companion has under lease 5. -/
def CompanionCall.stationPlane : TxPlane (ApiWorld DaemonTx) :=
  let config : DaemonConfig :=
    { rxTuningEnabled := true, testPageEnabled := true
      transmitEnabled := true, rtlTcpEnabled := true
      tuneLease := 1, txLease := 9, stationLease := 6
      carriesDc := fun _ => false }
  (Daemon.boot config fun _ => {}).plane.withStation
    { held := true, modeAware := true, lease := 5 }

/-- The companion tunes a daemon, and is told the filter. -/
theorem CompanionCall.call_made_tuning :
    let call : CompanionCall := .setFrequency 7100000 5
    let answered := call.serve (daemonCallbacks fun _ => false) daemonOps
      { frequencyHz := none } CompanionCall.stationPlane
    CompanionCall.Made (daemonCallbacks fun _ => false) daemonOps
        { frequencyHz := none } { status := none, radio := none }
        (ofString "radio.local:8080") call CompanionCall.stationPlane
      ∧ answered.1
        = { status := 200
            body := "\x7b\"frequency_hz\":7100000,\"rx_filter\":6\x7d\n" }
      ∧ answered.2.world.radio.receiver.frequencyHz.map (·.1) = some 7100000 := by
  intro call answered
  have hhost : CompanionCall.LineText (ofString "radio.local:8080") :=
    CompanionCall.lineText_of_all (by decide)
  exact ⟨CompanionCall.call_made _ _ _ _ hhost reports_daemonOps trivial,
    by decide +kernel⟩

/-! ## The stream -/

namespace CompanionCall

section Stream

variable {ρ : Type} (cb : TxCallbacks (TxContext (ApiWorld ρ)))
variable (ops : RadioOps ρ) (radio : RadioInfo) (pages : ApiPages)

/-- The routes of the sessions, for a request for a stream. -/
theorem txRoute_stream {request : CText} {txLease : UInt64}
    (p : TxPlane (ApiWorld ρ))
    (hq : hasPrefix (firstLine .connect "/v1/tx/stream") request = true)
    (hlease : HttpRequest.lease request
      = if txLease = 0 then none else some txLease) :
    (txRoute cb request radio Daemon.responseCapacity p).1.action
        = .openTxStream
      ↔ p.world.api.networkAttached = true ∧ p.network.enabled = true
        ∧ txLease ≠ 0
        ∧ (p.network.attachStream txLease p.world.api.requestNowMs).1 = .ok := by
  have hconnect : requestIs "CONNECT" "/v1/tx/stream" request = true :=
    hasPrefix_of_known hq (by decide)
  have hcreate : requestIs "POST" "/v1/tx/sessions" request = false :=
    not_hasPrefix_of_known hq (by decide)
  have haudio : requestIs "POST" "/v1/tx/audio" request = false :=
    not_hasPrefix_of_known hq (by decide)
  have hkeepalive : requestIs "PUT" "/v1/tx/sessions/keepalive" request
      = false := not_hasPrefix_of_known hq (by decide)
  have hoperation : (txOperation cb request radio p).1.1
      = if txLease = 0 then .invalid
        else (p.network.attachStream txLease p.world.api.requestNowMs).1 := by
    rw [txOperation, if_neg (by simp [hcreate]), hlease]
    by_cases hzero : txLease = 0
    · rw [if_pos hzero, if_pos hzero]
    · rw [if_neg hzero, if_neg hzero]
      dsimp only
      rw [txLeaseRoute, if_neg (by simp [hkeepalive]), if_pos hconnect]
  have hreply (result : NetworkTxResult) (lease : UInt64) (keyed : Bool) :
      (txReply request Daemon.responseCapacity result lease keyed).action
        = .response := by
    unfold txReply
    split
    · rw [hcreate]
      rfl
    · rfl
  rw [txRoute]
  by_cases hattached : p.world.api.networkAttached = true
      ∧ p.network.enabled = true
  · rw [if_neg (by simp [hattached])]
    dsimp only
    rw [hoperation, hconnect, haudio]
    by_cases hzero : txLease = 0
    · simp [hzero, hreply]
    · by_cases hok : (p.network.attachStream txLease
          p.world.api.requestNowMs).1 = .ok
      · simp [hzero, hok, hattached]
      · simp [hzero, hok, hreply]
  · rw [if_pos (by simpa [← Bool.not_eq_true, imp_iff_not_or] using hattached)]
    exact iff_of_false (by simp [notFound, errorReply, jsonReply])
      fun h => hattached ⟨h.1, h.2.1⟩

/-- **A stream is opened for its session alone**: what the companion sends
to have one is complete with its last byte and not before, and opens a stream
exactly where whoever sends it has the station and the session that waits for
its stream. -/
theorem stream_opens {host : CText} (hhost : LineText host)
    (lease txLease : UInt64) (p : TxPlane (ApiWorld ρ)) :
    let text := HttpCall.streamText host lease txLease
    (∀ heard, heard <+: text → (complete heard = true ↔ heard = text))
      ∧ ((dispatch cb ops text radio Daemon.responseCapacity pages
          p).1.action = .openTxStream
        ↔ (p.world.api.stationAttached = true →
            p.world.station.leaseMatches lease = true)
          ∧ p.world.api.networkAttached = true ∧ p.network.enabled = true
          ∧ txLease ≠ 0
          ∧ (p.network.attachStream txLease p.world.api.requestNowMs).1
            = .ok) := by
  intro text
  have hwhole := HttpCall.whole_streamText lease txLease hhost
  refine ⟨fun heard => hwhole.complete_iff, ?_⟩
  obtain ⟨hcontrol, hlease⟩ := HttpCall.leases_streamText lease txLease hhost
  have hq : hasPrefix (firstLine .connect "/v1/tx/stream") text = true := by
    have hbegins : ofString "CONNECT /v1/tx/stream HTTP/1.1\r\nHost: "
        = firstLine .connect "/v1/tx/stream" ++ ofString "\r\nHost: " := by
      decide
    refine hasPrefix_iff.mpr ?_
    simp only [text, HttpCall.streamText, hbegins, List.append_assoc]
    exact List.prefix_append _ _
  have hoff : OffStation text := offStation_of_known hq (by decide)
  have hgeneral : txGeneralPath text = true := by
    have hconnect : hasPrefix (ofString "CONNECT /v1/tx/") text = true :=
      hasPrefix_of_known hq (by decide)
    simp [txGeneralPath, hconnect]
  rw [dispatch_session cb ops radio pages hoff hgeneral hcontrol]
  by_cases howned : p.world.api.stationAttached = true
      ∧ p.world.station.leaseMatches lease = false
  · rw [if_pos (by simp [howned])]
    refine iff_of_false (by simp [errorReply, jsonReply]) fun h => ?_
    exact absurd (h.1 howned.1) (by simp [howned.2])
  · rw [if_neg (by simpa using howned), txRoute_stream cb radio p hq hlease]
    exact (and_iff_right (by simpa using howned)).symm

/-- The companion makes a session, and its stream is opened. -/
theorem stream_opens_reserved :
    let cb := daemonCallbacks fun _ => false
    let p := ((createSession .usb 5).serve cb daemonOps { frequencyHz := none }
      stationPlane).2
    let text := HttpCall.streamText (ofString "radio") 5 9
    (∀ heard, heard <+: text → (complete heard = true ↔ heard = text))
      ∧ (dispatch cb daemonOps text { frequencyHz := none }
          Daemon.responseCapacity { status := none, radio := none }
          p).1.action = .openTxStream := by
  intro cb p text
  have hhost : LineText (ofString "radio") := lineText_of_all (by decide)
  obtain ⟨hcomplete, hopens⟩ := stream_opens cb daemonOps
    { frequencyHz := none } { status := none, radio := none } hhost 5 9 p
  have hsession : (p.world.api.stationAttached = true →
        p.world.station.leaseMatches 5 = true)
      ∧ p.world.api.networkAttached = true ∧ p.network.enabled = true
      ∧ (9 : UInt64) ≠ 0
      ∧ (p.network.attachStream 9 p.world.api.requestNowMs).1 = .ok := by
    decide +kernel
  exact ⟨hcomplete, hopens.mpr hsession⟩

end Stream

end CompanionCall

/-! ## The lease that is kept -/

/-- A number that is read in JSON. -/
theorem jsonUnsigned_number (front rest : CText) (name : String) {n : ℕ}
    (hn : n < 2 ^ 64) (hrest : isDigit (peek rest) = false)
    (hkey : strstr (ofString ("\"" ++ name ++ "\"")) (front
        ++ (ofString ("\"" ++ name ++ "\"")
          ++ 58 :: (ofString (toString n) ++ rest)))
      = some (ofString ("\"" ++ name ++ "\"")
          ++ 58 :: (ofString (toString n) ++ rest))) :
    jsonUnsigned (front ++ (ofString ("\"" ++ name ++ "\"")
      ++ 58 :: (ofString (toString n) ++ rest))) name
        = .ok (some (UInt64.ofNat n)) := by
  have hdigits (c : UInt8) (hc : c ∈ ofString (toString n)) :
      isDigit c = true := isDigit_of_mem_toString hc
  obtain ⟨c, cs, hcons⟩ := List.exists_cons_of_ne_nil (toString_ne_nil n)
  have hfirst : isDigit c = true :=
    hdigits c (hcons ▸ List.mem_cons_self ..)
  have hskip : skipSpace (ofString (toString n) ++ rest)
      = ofString (toString n) ++ rest := by
    rw [skipSpace, hcons, List.cons_append, List.dropWhile_cons,
      if_neg (by simp [(of_isDigit hfirst).1])]
  have hpeek : isDigit (peek (ofString (toString n) ++ rest)) = true := by
    rw [hcons]
    exact hfirst
  have hcolon (tail : CText) : strstr [58] (58 :: tail) = some (58 :: tail) := by
    rw [strstr, if_pos (by simp [List.isPrefixOf])]
  rw [jsonUnsigned]
  dsimp only
  rw [hkey, Option.bind_some, List.drop_left, hcolon]
  dsimp only
  rw [List.drop_one, List.tail_cons, hskip, hpeek,
    if_neg (by simp), takeWhile_run hdigits hrest, decimal_toString,
    if_neg (Nat.not_le.mpr hn)]

/-- The lease in the answer of a station operation. -/
theorem jsonUnsigned_station (lease : UInt64) (modeAware : Bool) :
    jsonUnsigned (ofString ("\x7b\"owner\":" ++ boolText true ++ ",\"lease\":"
        ++ toString lease.toNat ++ ",\"mode_aware\":" ++ boolText modeAware
        ++ "\x7d\n")) "lease" = .ok (some lease) := by
  have hread := jsonUnsigned_number (ofString "\x7b\"owner\":true,")
    (ofString ",\"mode_aware\":" ++ (ofString (boolText modeAware)
      ++ ofString "\x7d\n")) "lease" lease.toNat_lt rfl rfl
  rw [UInt64.ofNat_toNat] at hread
  have hfront (tail : CText) : ofString "\x7b\"owner\":"
      ++ (ofString (boolText true) ++ (ofString ",\"lease\":" ++ tail))
      = ofString "\x7b\"owner\":true,"
        ++ (ofString ("\"" ++ "lease" ++ "\"") ++ 58 :: tail) := rfl
  rw [← hread, ← hfront]
  simp only [ofString_append, List.append_assoc]

namespace CompanionCall

/-- **The lease that is kept is the lease that was given**: a companion that
has none asks for the station, and comes out with a lease exactly where the
daemon gave it the station, one that the daemon accepts from then on. Where
it comes out without one, the station is as it was. -/
theorem acquire_agrees {ρ : Type} (cb : TxCallbacks (TxContext (ApiWorld ρ)))
    (ops : RadioOps ρ) (radio : RadioInfo) (pages : ApiPages) {host : CText}
    (hhost : LineText host) (p : TxPlane (ApiWorld ρ)) {s : BridgeSession}
    (hs : s.lease = none) :
    let r := dispatch cb ops (acquire.http.requestText host) radio
      Daemon.responseCapacity pages p
    let s' := (s.acquire (HttpReply.ofResponse (ofString r.1.response))).2
    (s'.lease = none ∧ r.2.world.station = p.world.station)
      ∨ ∃ lease, s'.lease = some lease ∧ p.world.station.held = false
        ∧ r.2.world.station.leaseMatches lease = true := by
  intro r s'
  obtain ⟨htold, hleft⟩ := acquire_made (p := p) cb ops radio pages
    (sendable hhost (trivial : acquire.Valid))
  have hreply : HttpReply.ofResponse (ofString r.1.response)
      = some (acquire.serve cb ops radio p).1.reply := htold
  have hrefused (status : ℕ) (name : String)
      (hstatus : status = 409 ∨ status = 404) :
      (s.acquire (some (Answer.error status name).reply)).2.lease = none := by
    rw [BridgeSession.acquire]
    obtain rfl | rfl := hstatus
    · exact hs
    · exact hs
  dsimp only [s']
  rw [hreply, show r.2 = (acquire.serve cb ops radio p).2 from hleft, serve]
  by_cases hattached : p.world.api.stationAttached = true
  · rw [if_pos hattached, acquireServed]
    have hissued : (issueLease p.world.api.nextStationLease).1 ≠ 0 := by
      unfold issueLease
      split
      · decide
      · assumption
    generalize issueLease p.world.api.nextStationLease = issued at hissued ⊢
    dsimp only
    rw [StationOwner.acquireWithMode, if_neg hissued]
    cases hheld : p.world.station.held with
    | true =>
      rw [if_pos rfl]
      exact Or.inl ⟨hrefused 409 "owner_busy" (Or.inl rfl), rfl⟩
    | false =>
      rw [if_neg Bool.false_ne_true]
      refine Or.inr ⟨issued.1, ?_, rfl, ?_⟩
      · have hread := jsonUnsigned_station issued.1 true
        rw [stationAnswer, Answer.reply, BridgeSession.acquire]
        dsimp only
        rw [if_pos rfl, hread]
        dsimp only
        rw [if_neg (by simp [hissued])]
      · exact StationOwner.leaseMatches_iff.mpr ⟨rfl, hissued, rfl⟩
  · rw [if_neg hattached]
    exact Or.inl ⟨hrefused 404 "not found" (Or.inr rfl), rfl⟩

/-- A companion comes to a station that is free. -/
theorem acquire_agrees_free :
    let p := openPlane.withApi ({ · with stationAttached := true })
    let r := dispatch { start := none, stop := none } noOps
      (acquire.http.requestText (ofString "radio")) { frequencyHz := none }
      Daemon.responseCapacity { status := none, radio := none } p
    let s' := (({} : BridgeSession).acquire
      (HttpReply.ofResponse (ofString r.1.response))).2
    (s'.lease = none ∧ r.2.world.station = p.world.station)
      ∨ ∃ lease, s'.lease = some lease ∧ p.world.station.held = false
        ∧ r.2.world.station.leaseMatches lease = true := by
  intro p
  have hhost : LineText (ofString "radio") := lineText_of_all (by decide)
  exact acquire_agrees _ _ _ _ hhost p rfl

end CompanionCall
