import Flex1500.ApiEffect

/-!
# What a request comes to

Most requests have nothing to do with a lease. Of the others each comes down
to one operation on one record: the station lease is taken, renewed or let
go, a session is reserved or one of the operations on it is made, the carrier
is started, renewed or stopped. `Outcome` says so, once for all routes, with
what the dispatcher has made sure of before it gets there – above all that
whoever asks has the station.

The second half is about leases that are not in force. A request that
presents one, whatever it asks for, is answered with an error, and counters
are all it changes.
-/

open CText HttpRequest

variable {ρ : Type}

/-! ## Outcomes -/

/-- The leases to be issued next are the same, and so are the records
attached. -/
structure ApiController.SameLeases (api api' : ApiController) : Prop where
  station : api'.nextStationLease = api.nextStationLease
  tune : api'.nextTuneLease = api.nextTuneLease
  session : api'.nextTxLease = api.nextTxLease
  stationAttached : api'.stationAttached = api.stationAttached
  tuneAttached : api'.tuneAttached = api.tuneAttached
  networkAttached : api'.networkAttached = api.networkAttached

theorem ApiController.SameLeases.refl (api : ApiController) :
    api.SameLeases api :=
  ⟨rfl, rfl, rfl, rfl, rfl, rfl⟩

/-- **Untouched**: no record of the transmitter changes but for its
counters, and no lease. -/
structure TxPlane.Untouched (p q : TxPlane (ApiWorld ρ)) : Prop where
  tx : q.tx = p.tx
  tune : ∃ d, q.tune = p.tune.tallied d
  network : q.network = p.network
  station : q.world.station = p.world.station
  leases : p.world.api.SameLeases q.world.api

theorem TxPlane.Untouched.refl (p : TxPlane (ApiWorld ρ)) : p.Untouched p :=
  ⟨rfl, ⟨p.tune.diagnostics, rfl⟩, rfl, rfl, .refl _⟩

/-- An answer that is an error. -/
def ApiReply.IsError (reply : ApiReply) : Prop :=
  ∃ statusLine name capacity, reply = errorReply statusLine name capacity

/-- The plane once a station lease was issued. -/
def TxPlane.stationIssued (p : TxPlane (ApiWorld ρ)) : TxPlane (ApiWorld ρ) :=
  p.withApi fun api => { api with
    nextStationLease := (issueLease p.world.api.nextStationLease).2 }

/-- The plane once a tune lease was issued. -/
def TxPlane.tuneIssued (p : TxPlane (ApiWorld ρ)) : TxPlane (ApiWorld ρ) :=
  p.withApi fun api => { api with
    nextTuneLease := (issueLease p.world.api.nextTuneLease).2 }

/-- The plane once a session's lease was issued. -/
def TxPlane.sessionIssued (p : TxPlane (ApiWorld ρ)) : TxPlane (ApiWorld ρ) :=
  p.withApi fun api => { api with
    nextTxLease := (issueLease p.world.api.nextTxLease).2 }

namespace Api

/-- Whether a request is one of the station's own. -/
def ownerRouted (request : CText) : Bool :=
  ownerAcquire request || ownerKeepalive request || ownerRelease request

variable (cb : TxCallbacks (TxContext (ApiWorld ρ))) (request : CText)
variable (radio : RadioInfo) (p : TxPlane (ApiWorld ρ))

/-- Whoever asks has the station, where there is one to have. -/
def Authorised : Prop :=
  p.world.api.stationRequestAuthorized p.world.station request = true

/-- **What a request comes to.** The time of every operation is that of the
request. -/
inductive Outcome : TxPlane (ApiWorld ρ) → Prop where
  | untouched {q : TxPlane (ApiWorld ρ)} (h : p.Untouched q) : Outcome q
  | acquired (modeAware : Bool) (hroute : ownerAcquire request = true)
      (hattached : p.world.api.stationAttached = true) :
      Outcome (p.stationIssued.withStation (p.world.station.acquireWithMode
        (issueLease p.world.api.nextStationLease).1 p.world.api.requestNowMs
        modeAware).2)
  | renewed (hroute : ownerKeepalive request = true)
      (hattached : p.world.api.stationAttached = true) :
      Outcome (p.withStation (p.world.station.keepalive
        (presentedLease request) p.world.api.requestNowMs).2)
  | released (hroute : ownerRelease request = true)
      (hattached : p.world.api.stationAttached = true)
      (hidle : p.world.api.transmitterActive p.tx = false) :
      Outcome (p.withStation
        (p.world.station.release (presentedLease request)).2)
  | reserved (profile : NetworkTxProfile) (f : TxDiagnostics → TxDiagnostics)
      (hauthorised : Authorised request p) :
      Outcome ((NetworkTx.acquire profile
        (issueLease p.world.api.nextTxLease).1 p.world.api.requestNowMs
        p.sessionIssued).2.withDiagnostics f)
  | session {lease : UInt64} (f : TxDiagnostics → TxDiagnostics)
      (hauthorised : Authorised request p)
      (hpath : txGeneralPath request = true)
      (hlease : HttpRequest.lease request = some lease) :
      Outcome ((txLeaseRoute cb request radio lease p).2.withDiagnostics f)
  | tuned (hauthorised : Authorised request p) :
      Outcome (TuneControl.start cb p.world.api.requestNowMs
        (issueLease p.world.api.nextTuneLease).1 p.tuneIssued).2
  | tuneRenewed (lease : UInt64) (hauthorised : Authorised request p) :
      Outcome (TuneControl.keepalive cb p.world.api.requestNowMs lease p).2
  | tuneStopped (lease : UInt64) (hauthorised : Authorised request p) :
      Outcome (TuneControl.stop cb lease p).2
  | timed (seconds : ℕ) (hnone : p.tx.owner = .none) :
      Outcome { p with tx := (TxControl.setTimeoutSeconds seconds p.tx).2 }

variable {cb request radio p} {ops : RadioOps ρ} {capacity : ℕ}
variable {pages : ApiPages}

/-- The station's routes. -/
theorem ownerRoute_outcome (hrouted : ownerRouted request = true) :
    Outcome cb request radio p (ownerRoute request capacity p).2 := by
  unfold ownerRoute
  split
  · exact .untouched (.refl p)
  rename_i hattached
  have hattached : p.world.api.stationAttached = true := by
    simpa using hattached
  split
  · rename_i hacquire
    exact .acquired _ hacquire hattached
  rename_i hacquire
  split
  · exact .untouched (.refl p)
  rename_i hidle
  dsimp only
  split
  · rename_i hkeepalive
    exact .renewed hkeepalive hattached
  · rename_i hkeepalive
    have hrelease : ownerRelease request = true := by
      simpa [ownerRouted, hacquire, hkeepalive] using hrouted
    exact .released hrelease hattached (by simpa [hrelease] using hidle)

/-- The routes of a transmit session. -/
theorem txRoute_outcome (hauthorised : Authorised request p)
    (hpath : txGeneralPath request = true) :
    Outcome cb request radio p (txRoute cb request radio capacity p).2 := by
  have hoperation (f : TxDiagnostics → TxDiagnostics) :
      Outcome cb request radio p
        ((txOperation cb request radio p).2.withDiagnostics f) := by
    unfold txOperation
    split
    · unfold txSessionCreate
      dsimp only
      split
      · exact .untouched ⟨rfl, ⟨_, rfl⟩, rfl, rfl, .refl _⟩
      · exact .reserved _ f hauthorised
    · split
      · exact .untouched ⟨rfl, ⟨_, rfl⟩, rfl, rfl, .refl _⟩
      · rename_i hlease
        exact .session f hauthorised hpath hlease
  unfold txRoute
  split
  · exact .untouched (.refl p)
  dsimp only
  split
  · exact hoperation id
  split
  · exact hoperation id
  · dsimp only
    split
    · exact hoperation _
    · exact hoperation id

/-- The tune routes. -/
theorem tuneRoute_outcome (hauthorised : Authorised request p) :
    Outcome cb request radio p (tuneRoute cb request radio capacity p).2 := by
  unfold tuneRoute
  split
  · exact .untouched (.refl p)
  split
  · unfold tuneStart
    split
    · exact .untouched ⟨rfl, ⟨_, rfl⟩, rfl, rfl, .refl _⟩
    · exact .tuned hauthorised
  split
  · exact .tuneRenewed _ hauthorised
  split
  · exact .tuneStopped _ hauthorised
  · exact .untouched (.refl p)

/-- The settings. -/
theorem settingRoute_outcome (path : CText) (minimum maximum : ℕ)
    (name : String) {store : ℕ → ApiController → ApiController}
    (hstore : ∀ value (api : ApiController),
      api.SameLeases (store value api)) :
    Outcome cb request radio p
      (settingRoute request capacity path minimum maximum name store p).2 := by
  unfold settingRoute
  split
  · exact .untouched (.refl p)
  split
  · exact .untouched (.refl p)
  split
  · exact .untouched (.refl p)
  · exact .untouched ⟨rfl, ⟨p.tune.diagnostics, rfl⟩, rfl, rfl,
      hstore _ _⟩

theorem compressorRoute_outcome :
    Outcome cb request radio p (compressorRoute request capacity p).2 := by
  unfold compressorRoute
  dsimp only
  split
  · exact .untouched (.refl p)
  split
  · exact .untouched (.refl p)
  split
  · exact .untouched (.refl p)
  · exact .untouched ⟨rfl, ⟨p.tune.diagnostics, rfl⟩, rfl, rfl,
      ⟨rfl, rfl, rfl, rfl, rfl, rfl⟩⟩

/-- The key limit is only set while nobody transmits. -/
theorem timeoutRoute_outcome :
    Outcome cb request radio p (timeoutRoute request capacity p).2 := by
  unfold timeoutRoute
  split
  · exact .untouched (.refl p)
  split
  · exact .untouched (.refl p)
  split
  · exact .untouched (.refl p)
  · rename_i hnone
    exact .timed _ (by simpa using hnone)

/-- The receiver's routes touch no record of the transmitter. -/
theorem radioRoute_untouched :
    p.Untouched (radioRoute ops request capacity pages p).2 := by
  have hset (api : ApiController) (hsame : p.world.api.SameLeases api) :
      p.Untouched (p.withWorld { p.world with api := api }) :=
    ⟨rfl, ⟨p.tune.diagnostics, rfl⟩, rfl, rfl, hsame⟩
  have hlast : p.Untouched (lastRoutes ops request capacity pages p).2 := by
    unfold lastRoutes
    split
    · exact ⟨rfl, ⟨p.tune.diagnostics, rfl⟩, rfl, rfl, .refl _⟩
    split
    · exact .refl p
    split
    · exact .refl p
    split
    · exact .refl p
    · exact .refl p
  unfold radioRoute
  split
  · exact .refl p
  split
  · unfold frequencyRoute
    split
    · exact .refl p
    · exact ⟨rfl, ⟨p.tune.diagnostics, rfl⟩, rfl, rfl, .refl _⟩
  · unfold streamRoutes
    split
    · split
      · exact hset _ ⟨rfl, rfl, rfl, rfl, rfl, rfl⟩
      split
      · exact hset _ ⟨rfl, rfl, rfl, rfl, rfl, rfl⟩
      split
      · exact hset _ ⟨rfl, rfl, rfl, rfl, rfl, rfl⟩
      · exact hlast
    · exact hlast

variable (cb ops request radio capacity pages p) in
/-- **Every request comes to one of these.** -/
theorem dispatch_outcome :
    Outcome cb request radio p
      (dispatch cb ops request radio capacity pages p).2 := by
  unfold dispatch
  split
  · rename_i hrouted
    exact ownerRoute_outcome hrouted
  split
  · exact .untouched (.refl p)
  rename_i hcontrolled
  have hauthorised (hpath : stationControlled request = true) :
      Authorised request p := by
    simpa [hpath, Authorised] using hcontrolled
  split
  · rename_i hpath
    exact txRoute_outcome (hauthorised (by simp [stationControlled, hpath]))
      hpath
  split
  · exact compressorRoute_outcome
  split
  · exact settingRoute_outcome _ _ _ _
      fun _ _ => ⟨rfl, rfl, rfl, rfl, rfl, rfl⟩
  split
  · exact settingRoute_outcome _ _ _ _
      fun _ _ => ⟨rfl, rfl, rfl, rfl, rfl, rfl⟩
  split
  · exact timeoutRoute_outcome
  split
  · rename_i hpath
    exact tuneRoute_outcome (hauthorised (by simp [stationControlled, hpath]))
  · exact .untouched radioRoute_untouched

/-! ## Which paths exclude each other -/

/-- The paths that need the station. -/
def controlledPaths : List CText :=
  [ofString "POST /v1/tx/", ofString "PUT /v1/tx/",
    ofString "CONNECT /v1/tx/", ofString "DELETE /v1/tx/", tunePath,
    frequencyPrefix, modePrefix, gainPrefix, bandwidthPrefix, txDrivePath,
    txMicGainPath, txTimeoutPath, txCompressorPath]

/-- A request that needs the station has one of these paths. -/
theorem stationControlled_iff :
    stationControlled request = true
      ↔ ∃ path ∈ controlledPaths, hasPrefix path request = true := by
  simp [stationControlled, txGeneralPath, controlledPaths, or_assoc]

/-- A text begins with one of two paths at most, where neither is the front
of the other. -/
theorem not_hasPrefix_of_mem {paths : List CText} {path : CText}
    (h : hasPrefix path request = true)
    (hpaths : ∀ other ∈ paths,
      path.isPrefixOf other = false ∧ other.isPrefixOf path = false) :
    ¬ ∃ other ∈ paths, hasPrefix other request = true := by
  rintro ⟨other, hmem, hother⟩
  obtain ⟨hno, hno'⟩ := hpaths other hmem
  rw [hasPrefix_eq_false h hno hno'] at hother
  exact Bool.false_ne_true hother

/-- The station's own routes are none of them. -/
theorem not_ownerRouted (h : stationControlled request = true) :
    ownerRouted request = false := by
  rw [stationControlled_iff] at h
  rw [Bool.eq_false_iff]
  intro hrouted
  simp only [ownerRouted, Bool.or_eq_true] at hrouted
  rcases hrouted with (hroute | hroute) | hroute
  · exact not_hasPrefix_of_mem hroute (by decide) h
  · exact not_hasPrefix_of_mem hroute (by decide) h
  · exact not_hasPrefix_of_mem hroute (by decide) h

/-- A tune request is no other that needs the station. -/
theorem not_hasPrefix_of_tune (h : hasPrefix tunePath request = true) :
    txGeneralPath request = false
      ∧ hasPrefix txCompressorPath request = false
      ∧ hasPrefix txDrivePath request = false
      ∧ hasPrefix txMicGainPath request = false
      ∧ hasPrefix txTimeoutPath request = false := by
  refine ⟨?_, hasPrefix_eq_false h (by decide) (by decide),
    hasPrefix_eq_false h (by decide) (by decide),
    hasPrefix_eq_false h (by decide) (by decide),
    hasPrefix_eq_false h (by decide) (by decide)⟩
  simp only [txGeneralPath, Bool.or_eq_false_iff]
  exact ⟨⟨⟨hasPrefix_eq_false h (by decide) (by decide),
    hasPrefix_eq_false h (by decide) (by decide)⟩,
    hasPrefix_eq_false h (by decide) (by decide)⟩,
    hasPrefix_eq_false h (by decide) (by decide)⟩

/-! ## Leases that are not in force -/

/-- **Rejected**: the answer is an error, and counters are all that
changed. -/
def Rejected (p : TxPlane (ApiWorld ρ)) (r : ApiReply × TxPlane (ApiWorld ρ)) :
    Prop :=
  r.1.IsError ∧ ∃ f, r.2 = p.withDiagnostics f

/-- An error that changes nothing at all. -/
theorem rejected_of_eq {r : ApiReply × TxPlane (ApiWorld ρ)}
    {statusLine name : String}
    (h : r = (errorReply statusLine name capacity, p)) : Rejected p r := by
  rw [h]
  exact ⟨⟨statusLine, name, capacity, rfl⟩, id, rfl⟩

variable (cb radio ops capacity pages) in
/-- Without authority a request that needs the station is rejected. -/
theorem rejected_of_unauthorised (hpath : stationControlled request = true)
    (hno : p.world.api.stationRequestAuthorized p.world.station request
      = false) :
    Rejected p (dispatch cb ops request radio capacity pages p) := by
  have hrouted := not_ownerRouted hpath
  rw [ownerRouted] at hrouted
  have hrefused : dispatch cb ops request radio capacity pages p
      = (errorReply "409 Conflict" "station_owned" capacity, p) := by
    rw [dispatch, hrouted, hpath, hno]
    rfl
  exact rejected_of_eq hrefused

/-- **What a request presents a station lease for**: to renew it, to let it
go, or to be let in by it. -/
def PresentsStation (request : CText) (lease : UInt64) : Prop :=
  (ownerKeepalive request = true ∨ ownerRelease request = true)
      ∧ presentedLease request = lease
    ∨ stationControlled request = true ∧ controlLease request = some lease

/-- A request that presents a tune lease, to renew it or to stop. -/
def PresentsTune (request : CText) (lease : UInt64) : Prop :=
  parseLeasePath (tunePath ++ ofString "keepalive/") request = some lease
    ∨ parseLeasePath (tunePath ++ ofString "stop/") request = some lease

/-- A request that presents the lease of a session. -/
def PresentsSession (request : CText) (lease : UInt64) : Prop :=
  txGeneralPath request = true
    ∧ requestIs "POST" "/v1/tx/sessions" request = false
    ∧ HttpRequest.lease request = some lease

instance (request : CText) (lease : UInt64) :
    Decidable (PresentsSession request lease) :=
  inferInstanceAs (Decidable (_ ∧ _))

section Dead

variable {lease : UInt64}

variable (cb radio ops capacity pages) in
/-- **A station lease that is not in force** is rejected. -/
theorem rejected_station (hattached : p.world.api.stationAttached = true)
    (hdead : p.world.station.leaseMatches lease = false)
    (hpresents : PresentsStation request lease) :
    Rejected p (dispatch cb ops request radio capacity pages p) := by
  rcases hpresents with ⟨hroute, rfl⟩ | ⟨hpath, hlease⟩
  swap
  · refine rejected_of_unauthorised cb radio ops capacity pages hpath ?_
    unfold ApiController.stationRequestAuthorized
    rw [hattached, hlease]
    by_cases hheld : p.world.station.held = true
    · rw [if_neg (by simp), if_neg (by simp [hheld])]
      exact hdead
    · rw [if_neg (by simp), if_pos (by simpa using hheld)]
  have hacquire := not_ownerAcquire hroute
  have hrouted : (ownerAcquire request || ownerKeepalive request
      || ownerRelease request) = true := by
    rcases hroute with h | h
    · simp [h]
    · simp [h]
  have hkeepalive : p.world.station.keepalive (presentedLease request)
      p.world.api.requestNowMs = (.stale, p.world.station) := by
    rw [StationOwner.keepalive, if_pos (by simp [hdead])]
  have hrelease : p.world.station.release (presentedLease request)
      = (.stale, p.world.station) := by
    rw [StationOwner.release, if_pos (by simp [hdead])]
  rw [dispatch, if_pos hrouted, ownerRoute, if_neg (by simp [hattached]),
    if_neg (by simp [hacquire])]
  split
  · exact rejected_of_eq rfl
  · dsimp only
    rw [hkeepalive, hrelease, ite_self]
    exact rejected_of_eq rfl

/-- A path with a lease begins with its prefix. -/
theorem hasPrefix_of_parseLeasePath {path : CText}
    (h : parseLeasePath path request = some lease) :
    hasPrefix path request = true := by
  obtain ⟨text, htext, -⟩ := Option.bind_eq_some_iff.mp h
  exact hasPrefix_of_afterPrefix htext

/-- No lease is read where the path is another. -/
theorem parseLeasePath_eq_none {path : CText}
    (h : hasPrefix path request = false) :
    parseLeasePath path request = none := by
  rw [Option.eq_none_iff_forall_ne_some]
  intro lease hlease
  rw [hasPrefix_of_parseLeasePath hlease] at h
  exact Bool.false_ne_true h.symm

variable (cb radio capacity) in
/-- The tune routes reject it. -/
theorem rejected_tuneRoute
    (hdead : p.tune.active = true → p.tune.lease ≠ lease)
    (hpresents : PresentsTune request lease) :
    Rejected p (tuneRoute cb request radio capacity p) := by
  have hforeign : (!p.tune.active || lease == 0 || lease != p.tune.lease)
      = true := by
    by_cases hactive : p.tune.active = true
    · simp [hactive, (hdead hactive).symm]
    · simp [hactive]
  have hkeepalive : (TuneControl.keepalive cb p.world.api.requestNowMs lease
      p).1 ≠ .ok ∧ ∃ f, (TuneControl.keepalive cb p.world.api.requestNowMs
        lease p).2 = p.withDiagnostics f := by
    unfold TuneControl.keepalive
    split
    · exact ⟨by simp, id, rfl⟩
    · exact ⟨by simp, _, rfl⟩
  have hstop : (TuneControl.stop cb lease p).1 ≠ .ok
      ∧ ∃ f, (TuneControl.stop cb lease p).2 = p.withDiagnostics f := by
    unfold TuneControl.stop
    split
    · exact ⟨by simp, id, rfl⟩
    · exact ⟨by simp, _, rfl⟩
  have hreply (text : String) {result : TuneResult} (h : result ≠ .ok) :
      (tuneReply text capacity result).IsError := by
    rw [tuneReply, if_neg h]
    exact ⟨_, _, _, rfl⟩
  unfold tuneRoute
  split
  · exact rejected_of_eq rfl
  rcases hpresents with hlease | hlease
  · have hstart := hasPrefix_eq_false (hasPrefix_of_parseLeasePath hlease)
      (q := tunePath ++ ofString "start HTTP/") (by decide) (by decide)
    rw [hstart, hlease]
    exact ⟨hreply _ hkeepalive.1, hkeepalive.2⟩
  · have hstart := hasPrefix_eq_false (hasPrefix_of_parseLeasePath hlease)
      (q := tunePath ++ ofString "start HTTP/") (by decide) (by decide)
    have hrenew := hasPrefix_eq_false (hasPrefix_of_parseLeasePath hlease)
      (q := tunePath ++ ofString "keepalive/") (by decide) (by decide)
    rw [hstart, parseLeasePath_eq_none hrenew, hlease]
    exact ⟨hreply _ hstop.1, hstop.2⟩

variable (cb radio ops capacity pages) in
/-- **A tune lease that is not in force** is rejected. -/
theorem rejected_tune (hdead : p.tune.active = true → p.tune.lease ≠ lease)
    (hpresents : PresentsTune request lease) :
    Rejected p (dispatch cb ops request radio capacity pages p) := by
  have htune : hasPrefix tunePath request = true := by
    rw [hasPrefix_iff]
    rcases hpresents with h | h
    · exact (List.prefix_append _ _).trans
        (hasPrefix_iff.mp (hasPrefix_of_parseLeasePath h))
    · exact (List.prefix_append _ _).trans
        (hasPrefix_iff.mp (hasPrefix_of_parseLeasePath h))
  have hpath : stationControlled request = true := by
    simp [stationControlled, htune]
  by_cases hauthorised : p.world.api.stationRequestAuthorized
      p.world.station request = true
  swap
  · exact rejected_of_unauthorised cb radio ops capacity pages hpath
      (by simpa using hauthorised)
  have hrouted := not_ownerRouted hpath
  obtain ⟨hgeneral, hcompressor, hdrive, hgain, htimeout⟩ :=
    not_hasPrefix_of_tune htune
  rw [ownerRouted] at hrouted
  simp only [dispatch, hrouted, hpath, hauthorised, hgeneral, hcompressor,
    hdrive, hgain, htimeout, htune, Bool.not_true, Bool.and_false,
    Bool.false_eq_true, if_false, if_true]
  exact rejected_tuneRoute cb radio capacity hdead hpresents

variable (cb request radio) in
/-- No operation on a session is granted under another lease. -/
theorem txLeaseRoute_dead (hdead : p.network.owns lease = false) :
    ((txLeaseRoute cb request radio lease p).1 = .stale
        ∨ (txLeaseRoute cb request radio lease p).1 = .invalid)
      ∧ (txLeaseRoute cb request radio lease p).2 = p := by
  have hforeign : (!p.network.owns lease) = true := by simp [hdead]
  have haudio : ((txAudio request lease p).1 = .stale
        ∨ (txAudio request lease p).1 = .invalid)
      ∧ (txAudio request lease p).2 = p := by
    unfold txAudio
    split
    · exact ⟨Or.inr rfl, rfl⟩
    split
    · exact ⟨Or.inr rfl, rfl⟩
    by_cases hstream : p.network.streamConnected = true
    · simp [hstream, NetworkTx.recordData, hdead, TxPlane.withNetwork]
    · simp [hstream, NetworkTx.attachStream, hdead, TxPlane.withNetwork]
  unfold txLeaseRoute
  dsimp only
  split
  · simp [NetworkTx.keepalive, hdead, TxPlane.withNetwork]
  split
  · simp [NetworkTx.attachStream, hdead, TxPlane.withNetwork]
  split
  · split
    · rw [NetworkTx.pttStart, if_pos hforeign]
      exact ⟨Or.inl rfl, rfl⟩
    · exact ⟨Or.inr rfl, rfl⟩
  split
  · rw [NetworkTx.pttStop, if_pos hforeign]
    exact ⟨Or.inl rfl, rfl⟩
  split
  · rw [NetworkTx.release, if_pos hforeign]
    exact ⟨Or.inl rfl, rfl⟩
  split
  · exact haudio
  · exact ⟨Or.inr rfl, rfl⟩

variable (cb radio ops capacity pages) in
/-- **A session's lease that is not in force** is rejected. -/
theorem rejected_session (hdead : p.network.owns lease = false)
    (hpresents : PresentsSession request lease) :
    Rejected p (dispatch cb ops request radio capacity pages p) := by
  obtain ⟨hgeneral, hcreate, hlease⟩ := hpresents
  have hpath : stationControlled request = true := by
    simp [stationControlled, hgeneral]
  by_cases hauthorised : p.world.api.stationRequestAuthorized
      p.world.station request = true
  swap
  · exact rejected_of_unauthorised cb radio ops capacity pages hpath
      (by simpa using hauthorised)
  have hrouted := not_ownerRouted hpath
  obtain ⟨hresult, hplane⟩ := txLeaseRoute_dead cb request radio hdead
  have hoperation : txOperation cb request radio p
      = (((txLeaseRoute cb request radio lease p).1, lease), p) := by
    rw [txOperation, if_neg (by simp [hcreate]), hlease]
    dsimp only
    rw [hplane]
  have hno : (txLeaseRoute cb request radio lease p).1 ≠ .ok := by
    rcases hresult with h | h
    · simp [h]
    · simp [h]
  rw [ownerRouted] at hrouted
  simp only [dispatch, hrouted, hpath, hauthorised, hgeneral, Bool.not_true,
    Bool.and_false, Bool.false_eq_true, if_false, if_true]
  unfold txRoute
  split
  · exact rejected_of_eq rfl
  rw [hoperation]
  dsimp only
  rw [if_neg (fun h => hno h.1), if_neg (fun h => hno h.1)]
  refine ⟨⟨_, _, capacity, if_neg hno⟩, ?_⟩
  dsimp only
  split
  · exact ⟨_, rfl⟩
  · exact ⟨id, rfl⟩

end Dead

end Api
