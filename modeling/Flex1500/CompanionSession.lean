import Flex1500.Lib.CSearch
import Flex1500.Lib.Run

/-!
# The companion's session

`flex1500-client` holds the station and, while it transmits, a session of
the daemon. Both leases are optional values of one object, behind one mutex:
the main loop renews the station's, the rig server keys and unkeys, and a
thread of its own uploads the samples and renews the session's. Every method
holds the mutex from beginning to end, but for the join in `set_ptt(false)`;
so the object is a state that any of them may be the next to change.

A reply is whatever the daemon answered, or nothing where the request threw.
Dereferencing an empty optional is undefined. The state says whether it ever
happened.
-/

open CText

/-! ## Replies -/

/-- A reply (`HttpResponse`). -/
structure HttpReply where
  status : ℕ
  body : CText
  deriving DecidableEq, Repr

/-- The result of a request: its reply, or nothing where it threw. -/
abbrev HttpResult := Option HttpReply

/-- The statuses of a success. -/
def HttpReply.ok (reply : HttpReply) : Bool :=
  200 ≤ reply.status && reply.status < 300

/-- The answer that asks for another attempt to key. -/
def HttpReply.notReady (reply : HttpReply) : Bool :=
  reply.status == 409
    && (strstr (ofString "\"error\":\"tx_not_ready\"") reply.body).isSome

/-- `json_string`. -/
def jsonString (json : CText) (name : String) : Option CText := do
  let key := ofString ("\"" ++ name ++ "\"")
  let found ← strstr key json
  let colon ← strstr [58] (found.drop key.length)
  let opened ← strstr [34] (colon.drop 1)
  let _ ← strstr [34] (opened.drop 1)
  some ((opened.drop 1).takeWhile (· ≠ 34))

/-- `json_unsigned`. A number that fits no `uint64_t` throws. -/
def jsonUnsigned (json : CText) (name : String) :
    Except Unit (Option UInt64) :=
  let key := ofString ("\"" ++ name ++ "\"")
  match (strstr key json).bind fun found =>
      strstr [58] (found.drop key.length) with
  | none => .ok none
  | some colon =>
    let value := skipSpace (colon.drop 1)
    if isDigit (peek value) = false then .ok none
    else if 2 ^ 64 ≤ decimal (value.takeWhile isDigit) then .error ()
    else .ok (some (UInt64.ofNat (decimal (value.takeWhile isDigit))))

/-! ## The state -/

/-- The upload thread (`tx_thread_`): none, one that runs, one whose
keepalive threw, and one that returned and was not joined. -/
inductive UploadThread where
  | absent | running | failing | ended
  deriving DecidableEq, Repr

/-- The session (`BridgeSession`), and whether an empty optional was
dereferenced or the program was ended by its runtime. -/
structure BridgeSession where
  lease : Option UInt64 := none
  txLease : Option UInt64 := none
  connected : Bool := false
  reportedReceiveOnly : Bool := false
  mode : CText := ofString "am"
  frequencyHz : UInt64 := 0
  bandwidthHz : UInt32 := 6000
  txStop : Bool := false
  txFaultPending : Bool := false
  txKeyed : Bool := false
  streamConnected : Bool := false
  uploading : UploadThread := .absent
  misused : Bool := false
  terminated : Bool := false
  deriving DecidableEq, Repr

namespace BridgeSession

/-! ## Headers -/

/-- `lease_headers`: the station's lease is dereferenced. -/
def leaseHeaders (s : BridgeSession) : BridgeSession :=
  { s with misused := s.misused || s.lease.isNone }

/-- `tx_headers`: both leases are. -/
def txHeaders (s : BridgeSession) : BridgeSession :=
  { s with misused := s.misused || s.lease.isNone || s.txLease.isNone }

/-! ## The methods -/

/-- `acquire`: whether it returned, and what it left. -/
def acquire (owner : HttpResult) (s : BridgeSession) : Bool × BridgeSession :=
  match owner with
  | none => (false, s)
  | some reply =>
    if reply.status = 201 then
      match jsonUnsigned reply.body "lease" with
      | .error _ => (false, s)
      | .ok lease =>
        if lease.isNone ∨ lease = some 0 then (false, { s with lease := lease })
        else (true, { s with lease := lease, reportedReceiveOnly := false })
    else if reply.status = 409 ∨ reply.status = 404 then
      (true, { s with reportedReceiveOnly := true })
    else (reply.ok, s)

/-- The end of `connect` where the daemon had no tuning state. -/
def restore (modeReply frequencyReply : HttpResult) (s : BridgeSession) :
    BridgeSession :=
  let s := s.leaseHeaders
  match modeReply with
  | none => s
  | some reply =>
    if !reply.ok then s
    else
      match jsonUnsigned reply.body "rx_bandwidth_hz" with
      | .error _ => s
      | .ok applied =>
        let s := { s with
          bandwidthHz := (applied.map UInt64.toUInt32).getD s.bandwidthHz }
        let s := s.leaseHeaders
        match frequencyReply with
        | none => s
        | some reply => if reply.ok then { s with connected := true } else s

/-- What `connect` keeps of the radio's page before it asks for the
station. -/
def tuned (radio : CText) (frequency bandwidth : Option UInt64)
    (s : BridgeSession) : BridgeSession :=
  { s with
    frequencyHz := frequency.getD s.frequencyHz
    mode :=
      if frequency.isSome then
        (jsonString radio "rx_mode").getD (ofString "am")
      else s.mode
    bandwidthHz := (bandwidth.map UInt64.toUInt32).getD 6000 }

/-- `connect`. -/
def connect (status radio owner modeReply frequencyReply : HttpResult)
    (s : BridgeSession) : BridgeSession :=
  match status, radio with
  | some status, some radio =>
    if !status.ok || !radio.ok then s
    else
      match jsonUnsigned radio.body "frequency_hz",
        jsonUnsigned radio.body "rx_bandwidth_hz" with
      | .ok frequency, .ok bandwidth =>
        let r := (s.tuned radio.body frequency bandwidth).acquire owner
        if !r.1 then r.2
        else if frequency.isNone && r.2.lease.isSome then
          r.2.restore modeReply frequencyReply
        else { r.2 with connected := true }
      | _, _ => s
  | _, _ => s

/-- `set_frequency`. -/
def setFrequency (frequencyHz : UInt64) (reply : HttpResult)
    (s : BridgeSession) : BridgeSession :=
  if s.lease.isNone then s
  else if reply.any HttpReply.ok then
    { s.leaseHeaders with frequencyHz := frequencyHz }
  else s.leaseHeaders

/-- `set_mode`, with the mode in lower case. -/
def setMode (mode : CText) (bandwidthHz : Int)
    (modeReply bandwidthReply : HttpResult) (s : BridgeSession) :
    BridgeSession :=
  if s.lease.isNone then s
  else
    let previous := s.bandwidthHz
    let s := s.leaseHeaders
    match modeReply with
    | none => s
    | some reply =>
      if !reply.ok then s
      else
        let s := { s with mode := mode }
        match jsonUnsigned reply.body "rx_bandwidth_hz" with
        | .error _ => s
        | .ok applied =>
          let s := { s with
            bandwidthHz := (applied.map UInt64.toUInt32).getD s.bandwidthHz }
          let requested : Int :=
            if bandwidthHz = -1 then previous.toInt32.toInt else bandwidthHz
          if requested ≤ 0 then s
          else
            let s := s.leaseHeaders
            if bandwidthReply.any HttpReply.ok then
              { s with bandwidthHz := UInt32.ofNat requested.toNat }
            else s

/-- The session without its transmit session. -/
def unkeyed (s : BridgeSession) : BridgeSession :=
  { s with streamConnected := false, txKeyed := false, txLease := none }

/-- `release_tx_locked`. Whatever the daemon answers, the session is
dropped. -/
def releaseTxLocked (s : BridgeSession) : BridgeSession :=
  if s.txLease.isNone then s else s.txHeaders.unkeyed

/-- `fail_tx_locked`. -/
def failTxLocked (s : BridgeSession) : BridgeSession :=
  { ({ s with txStop := true } : BridgeSession).releaseTxLocked with
    txFaultPending := true }

/-- `set_ptt(false)` up to its join. -/
def unkeyBegin (s : BridgeSession) : BridgeSession :=
  { s with txStop := true }

/-- `set_ptt(false)` behind its join. -/
def unkeyEnd (stopped released : HttpResult) (s : BridgeSession) :
    BridgeSession :=
  let s := { s with uploading := .absent }
  if s.txLease.isNone then s
  else
    match stopped, released with
    | some _, some _ => s.txHeaders.unkeyed
    | _, _ => s.txHeaders

/-- The attempts to key, the last of which the deadline has passed behind:
the last result, and what they left. -/
def startPtt (s : BridgeSession) : HttpResult → List HttpResult →
    HttpResult × BridgeSession
  | none, _ => (none, s.txHeaders)
  | some reply, [] => (some reply, s.txHeaders)
  | some reply, next :: rest =>
    if reply.notReady then s.txHeaders.startPtt next rest
    else (some reply, s.txHeaders)

/-- The end of `set_ptt(true)`: a thread is assigned, which ends the program
where the last one was not joined. -/
def keyed (s : BridgeSession) : BridgeSession :=
  let s := { s with txKeyed := true, txStop := false }
  if s.uploading = .absent then { s with uploading := .running }
  else { s with terminated := true }

/-- `set_ptt(true)` once the daemon has made a session. -/
def keyWith (streamed : Bool) (first : HttpResult) (rest : List HttpResult)
    (s : BridgeSession) : BridgeSession :=
  -- the leases are dereferenced for the stream as they are for the headers
  let s := s.txHeaders
  if !streamed then s.releaseTxLocked
  else
    let r := { s with streamConnected := true }.startPtt first rest
    match r.1 with
    | none => r.2
    | some reply => if reply.ok then r.2.keyed else r.2.releaseTxLocked

/-- `set_ptt(true)`. -/
def key (created : HttpResult) (streamed : Bool) (first : HttpResult)
    (rest : List HttpResult) (s : BridgeSession) : BridgeSession :=
  if s.txKeyed then s
  else if s.lease.isNone ∨ s.frequencyHz = 0 ∨ s.mode = ofString "fm"
      ∨ s.mode = ofString "cw" then s
  else
    let s := s.leaseHeaders
    match created with
    | none => s
    | some reply =>
      if reply.status ≠ 201 then s
      else
        match jsonUnsigned reply.body "lease" with
        | .error _ => s
        | .ok lease =>
          let s := { s with txLease := lease }
          if lease.isNone then s else s.keyWith streamed first rest

/-- `maintain`. -/
def maintain (owner : HttpResult) (s : BridgeSession) : BridgeSession :=
  if !s.connected then s
  else if s.lease.isNone then (s.acquire owner).2
  else
    match owner with
    | none => s.leaseHeaders
    | some reply =>
      if reply.status = 410 ∨ reply.status = 409 then
        { s.leaseHeaders with lease := none }
      else s.leaseHeaders

/-- `release`. -/
def release (s : BridgeSession) : BridgeSession :=
  if s.lease.isNone then s else { s.leaseHeaders with lease := none }

/-- The keepalive of `upload_tx_audio`. -/
def uploadKeepalive (reply : HttpResult) (s : BridgeSession) :
    BridgeSession :=
  if s.txLease.isNone then { s with uploading := .ended }
  else
    match reply with
    | none => { s.txHeaders with uploading := .failing }
    | some reply =>
      if reply.ok then s.txHeaders
      else { s.txHeaders.failTxLocked with uploading := .ended }

/-! ## Interleavings -/

/-- **What may happen next**, with what the daemon answers. -/
inductive Event where
  | connect (status radio owner modeReply frequencyReply : HttpResult)
  | setFrequency (frequencyHz : UInt64) (reply : HttpResult)
  | setMode (mode : CText) (bandwidthHz : Int)
      (modeReply bandwidthReply : HttpResult)
  | unkeyBegin
  | unkeyEnd (stopped released : HttpResult)
  | key (created : HttpResult) (streamed : Bool) (first : HttpResult)
      (rest : List HttpResult)
  | maintain (owner : HttpResult)
  | release (reply : HttpResult)
  | uploadKeepalive (reply : HttpResult)
  | uploadFail
  | uploadEnd
  | consumeTxFault

/-- One event. The thread's come only while it runs, the join returns once
it does not, and nothing happens behind the end of the program. -/
def step (s : BridgeSession) (event : Event) : BridgeSession :=
  if s.terminated then s
  else
    match event with
    | .connect status radio owner modeReply frequencyReply =>
      s.connect status radio owner modeReply frequencyReply
    | .setFrequency frequencyHz reply => s.setFrequency frequencyHz reply
    | .setMode mode bandwidthHz modeReply bandwidthReply =>
      s.setMode mode bandwidthHz modeReply bandwidthReply
    | .unkeyBegin => s.unkeyBegin
    | .unkeyEnd stopped released =>
      if s.uploading = .absent ∨ s.uploading = .ended then
        s.unkeyEnd stopped released
      else s
    | .key created streamed first rest => s.key created streamed first rest
    | .maintain owner => s.maintain owner
    | .release _ => s.release
    | .uploadKeepalive reply =>
      if s.uploading = .running then s.uploadKeepalive reply else s
    | .uploadFail =>
      if s.uploading = .running ∨ s.uploading = .failing then
        { s.failTxLocked with uploading := .ended }
      else s
    | .uploadEnd =>
      if s.uploading = .running ∧ s.txStop = true then
        { s with uploading := .ended }
      else s
    | .consumeTxFault => { s with txFaultPending := false }

/-! ## What always holds -/

/-- **A sound session**: a transmit lease comes with the station's, whoever
is keyed has a transmit lease, and no empty optional was dereferenced. -/
structure Sound (s : BridgeSession) : Prop where
  leased : s.txLease.isSome = true → s.lease.isSome = true
  keyed : s.txKeyed = true → s.txLease.isSome = true
  used : s.misused = false

/-- **The station is lost** in the middle of a transmit session: the session
has a lease, and the event takes the station's away. -/
def LosesStation (s : BridgeSession) (event : Event) : Prop :=
  s.terminated = false ∧ s.txLease.isSome = true
    ∧ match event with
      | .connect (some status) (some radio) (some owner) _ _ =>
        (status.ok = true ∧ radio.ok = true
            ∧ (jsonUnsigned radio.body "frequency_hz").isOk = true
            ∧ (jsonUnsigned radio.body "rx_bandwidth_hz").isOk = true)
          ∧ owner.status = 201
          ∧ jsonUnsigned owner.body "lease" = .ok none
      | .maintain (some reply) =>
        s.connected = true ∧ (reply.status = 410 ∨ reply.status = 409)
      | .release _ => True
      | _ => False

variable {s t : BridgeSession}

/-- What leaves the leases alone stays sound. -/
theorem Sound.congr (h : s.Sound)
    (hlease : s.lease.isSome = true → t.lease.isSome = true)
    (htx : t.txLease = s.txLease) (hkeyed : t.txKeyed = s.txKeyed)
    (hmisused : t.misused = s.misused) : t.Sound := by
  refine ⟨fun ht => ?_, fun ht => ?_, hmisused.trans h.used⟩
  · exact hlease (h.leased (htx ▸ ht))
  · rw [htx]
    exact h.keyed (hkeyed ▸ ht)

/-- Headers may be built where there is a station's lease. -/
theorem Sound.leaseHeaders (h : s.Sound) (hlease : s.lease.isSome = true) :
    s.leaseHeaders.Sound := by
  refine h.congr id rfl rfl ?_
  show (s.misused || s.lease.isNone) = s.misused
  rw [Option.isNone_eq_false_iff.mpr hlease, Bool.or_false]

/-- And the session's where there is a session. -/
theorem Sound.txHeaders (h : s.Sound) (htx : s.txLease.isSome = true) :
    s.txHeaders.Sound := by
  refine h.congr id rfl rfl ?_
  show (s.misused || s.lease.isNone || s.txLease.isNone) = s.misused
  rw [Option.isNone_eq_false_iff.mpr (h.leased htx),
    Option.isNone_eq_false_iff.mpr htx, Bool.or_false, Bool.or_false]

/-- A session may always be dropped. -/
theorem Sound.unkeyed (h : s.Sound) : s.unkeyed.Sound :=
  ⟨fun ht => (Bool.false_ne_true ht).elim,
    fun ht => (Bool.false_ne_true ht).elim, h.used⟩

theorem isSome_of_not_isNone {o : Option UInt64} (h : ¬ o.isNone = true) :
    o.isSome = true := by
  cases o with
  | none => exact absurd rfl h
  | some lease => rfl

theorem Sound.releaseTxLocked (h : s.Sound) : s.releaseTxLocked.Sound := by
  unfold BridgeSession.releaseTxLocked
  split
  · exact h
  · rename_i htx
    exact (h.txHeaders (isSome_of_not_isNone htx)).unkeyed

theorem Sound.failTxLocked (h : s.Sound) : s.failTxLocked.Sound := by
  have hstopped : ({ s with txStop := true } : BridgeSession).Sound :=
    h.congr id rfl rfl rfl
  exact hstopped.releaseTxLocked.congr id rfl rfl rfl

/-- The attempts to key leave the leases as they are. -/
theorem startPtt_spec (h : s.Sound) (htx : s.txLease.isSome = true)
    (first : HttpResult) (rest : List HttpResult) :
    (s.startPtt first rest).2.Sound
      ∧ (s.startPtt first rest).2.txLease = s.txLease := by
  induction rest generalizing s first with
  | nil =>
    cases first with
    | none => exact ⟨h.txHeaders htx, rfl⟩
    | some reply => exact ⟨h.txHeaders htx, rfl⟩
  | cons next rest ih =>
    cases first with
    | none => exact ⟨h.txHeaders htx, rfl⟩
    | some reply =>
      unfold startPtt
      split
      · exact ih (h.txHeaders htx) htx next
      · exact ⟨h.txHeaders htx, rfl⟩

theorem Sound.keyWith (h : s.Sound) (htx : s.txLease.isSome = true)
    (streamed : Bool) (first : HttpResult) (rest : List HttpResult) :
    (s.keyWith streamed first rest).Sound := by
  unfold BridgeSession.keyWith
  dsimp only
  split
  · exact (h.txHeaders htx).releaseTxLocked
  have hstream : ({ s.txHeaders with streamConnected := true } :
      BridgeSession).Sound := (h.txHeaders htx).congr id rfl rfl rfl
  obtain ⟨hsound, hlease⟩ := startPtt_spec hstream htx first rest
  split
  · exact hsound
  split
  · have hkept : (startPtt { s.txHeaders with streamConnected := true }
        first rest).2.txLease.isSome = true := by
      rw [hlease]
      exact htx
    unfold BridgeSession.keyed
    dsimp only
    split
    · exact ⟨hsound.leased, fun _ => hkept, hsound.used⟩
    · exact ⟨hsound.leased, fun _ => hkept, hsound.used⟩
  · exact hsound.releaseTxLocked

theorem Sound.key (h : s.Sound) (created : HttpResult) (streamed : Bool)
    (first : HttpResult) (rest : List HttpResult) :
    (s.key created streamed first rest).Sound := by
  unfold BridgeSession.key
  split
  · exact h
  rename_i hunkeyed
  split
  · exact h
  rename_i hready
  have hlease : s.lease.isSome = true :=
    isSome_of_not_isNone fun hnone => hready (Or.inl hnone)
  have hheaders := h.leaseHeaders hlease
  dsimp only
  split
  · exact hheaders
  split
  · exact hheaders
  split
  · exact hheaders
  rename_i lease _
  -- the lease is only now there, and the station's has been all along
  have hmade : ({ s.leaseHeaders with txLease := lease } :
      BridgeSession).Sound :=
    ⟨fun _ => hlease, fun hkeyed => absurd hkeyed hunkeyed, hheaders.used⟩
  split
  · exact hmade
  · rename_i htx
    exact hmade.keyWith (isSome_of_not_isNone htx) streamed first rest

/-- Behind its guard a request of the rig server changes no lease. -/
theorem Sound.setFrequency (h : s.Sound) (frequencyHz : UInt64)
    (reply : HttpResult) : (s.setFrequency frequencyHz reply).Sound := by
  unfold BridgeSession.setFrequency
  split
  · exact h
  rename_i hlease
  have hheaders := h.leaseHeaders (isSome_of_not_isNone hlease)
  split
  · exact hheaders.congr id rfl rfl rfl
  · exact hheaders

theorem Sound.setMode (h : s.Sound) (mode : CText) (bandwidthHz : Int)
    (modeReply bandwidthReply : HttpResult) :
    (s.setMode mode bandwidthHz modeReply bandwidthReply).Sound := by
  unfold BridgeSession.setMode
  split
  · exact h
  rename_i hlease
  have hsome := isSome_of_not_isNone hlease
  have hheaders := h.leaseHeaders hsome
  dsimp only
  split
  · exact hheaders
  split
  · exact hheaders
  have hmode : ({ s.leaseHeaders with mode := mode } : BridgeSession).Sound :=
    hheaders.congr id rfl rfl rfl
  split
  · exact hmode
  rename_i applied _
  have happlied : ({ s.leaseHeaders with
      mode := mode
      bandwidthHz := (applied.map UInt64.toUInt32).getD s.bandwidthHz } :
      BridgeSession).Sound := hheaders.congr id rfl rfl rfl
  have hagain := happlied.leaseHeaders hsome
  -- the bandwidth asked for, or else the one from before
  generalize (if bandwidthHz = -1 then s.bandwidthHz.toInt32.toInt
    else bandwidthHz) = requested
  split
  · exact happlied
  split
  · exact hagain.congr id rfl rfl rfl
  · exact hagain

theorem Sound.unkeyEnd (h : s.Sound) (stopped released : HttpResult) :
    (s.unkeyEnd stopped released).Sound := by
  have hjoined : ({ s with uploading := .absent } : BridgeSession).Sound :=
    h.congr id rfl rfl rfl
  unfold BridgeSession.unkeyEnd
  dsimp only
  split
  · exact hjoined
  rename_i htx
  have hheaders := hjoined.txHeaders (isSome_of_not_isNone htx)
  split
  · exact hheaders.unkeyed
  · exact hheaders

theorem Sound.uploadKeepalive (h : s.Sound) (reply : HttpResult) :
    (s.uploadKeepalive reply).Sound := by
  unfold BridgeSession.uploadKeepalive
  split
  · exact h.congr id rfl rfl rfl
  rename_i htx
  have hheaders := h.txHeaders (isSome_of_not_isNone htx)
  split
  · exact hheaders.congr id rfl rfl rfl
  split
  · exact hheaders
  · exact hheaders.failTxLocked.congr id rfl rfl rfl

/-! ## The station's lease -/

/-- Asking for the station only sets its lease, or clears it. -/
theorem acquire_spec (owner : HttpResult) (s : BridgeSession) :
    (s.acquire owner).2.txLease = s.txLease
      ∧ (s.acquire owner).2.txKeyed = s.txKeyed
      ∧ (s.acquire owner).2.misused = s.misused
      ∧ ((s.acquire owner).2.lease = s.lease
        ∨ ∃ reply lease, owner = some reply ∧ reply.status = 201
          ∧ jsonUnsigned reply.body "lease" = .ok lease
          ∧ (s.acquire owner).2.lease = lease) := by
  unfold acquire
  split
  · exact ⟨rfl, rfl, rfl, Or.inl rfl⟩
  rename_i reply
  split
  · rename_i hcreated
    split
    · exact ⟨rfl, rfl, rfl, Or.inl rfl⟩
    rename_i lease hlease
    split
    · exact ⟨rfl, rfl, rfl, Or.inr ⟨reply, lease, rfl, hcreated, hlease, rfl⟩⟩
    · exact ⟨rfl, rfl, rfl, Or.inr ⟨reply, lease, rfl, hcreated, hlease, rfl⟩⟩
  split
  · exact ⟨rfl, rfl, rfl, Or.inl rfl⟩
  · exact ⟨rfl, rfl, rfl, Or.inl rfl⟩

/-- **Where the answer has a lease**, or nobody has a transmit session,
asking for the station is sound. -/
theorem Sound.acquire (h : s.Sound) (owner : HttpResult)
    (hgiven : s.txLease.isSome = true → ∀ reply, owner = some reply →
      reply.status = 201 → jsonUnsigned reply.body "lease" ≠ .ok none) :
    (s.acquire owner).2.Sound := by
  obtain ⟨htx, hkeyed, hmisused, hlease⟩ := acquire_spec owner s
  refine ⟨fun ht => ?_, fun ht => ?_, hmisused.trans h.used⟩
  · rw [htx] at ht
    obtain hsame | ⟨reply, lease, rfl, hcreated, hread, hset⟩ := hlease
    · rw [hsame]
      exact h.leased ht
    · rw [hset]
      cases lease with
      | none => exact absurd hread (hgiven ht reply rfl hcreated)
      | some lease => rfl
  · rw [htx]
    exact h.keyed (hkeyed ▸ ht)

/-- Restoring the radio's tuning leaves the leases alone. -/
theorem Sound.restore (h : s.Sound) (hlease : s.lease.isSome = true)
    (modeReply frequencyReply : HttpResult) :
    (s.restore modeReply frequencyReply).Sound := by
  have hheaders := h.leaseHeaders hlease
  unfold BridgeSession.restore
  dsimp only
  split
  · exact hheaders
  split
  · exact hheaders
  split
  · exact hheaders
  rename_i applied _
  have happlied : ({ s.leaseHeaders with
      bandwidthHz := (applied.map UInt64.toUInt32).getD s.bandwidthHz } :
      BridgeSession).Sound := hheaders.congr id rfl rfl rfl
  have hagain := happlied.leaseHeaders hlease
  split
  · exact hagain
  split
  · exact hagain.congr id rfl rfl rfl
  · exact hagain

/-- **Connecting is sound** unless it loses the station. -/
theorem Sound.connect (h : s.Sound)
    {status radio owner modeReply frequencyReply : HttpResult}
    (hkept : ¬ s.LosesStation
      (.connect status radio owner modeReply frequencyReply))
    (hrunning : s.terminated = false) :
    (s.connect status radio owner modeReply frequencyReply).Sound := by
  unfold BridgeSession.connect
  split
  swap
  · exact h
  rename_i status radio
  split
  · exact h
  rename_i hpages
  split
  swap
  · exact h
  rename_i frequency bandwidth hfrequency hbandwidth
  have htuned : (s.tuned radio.body frequency bandwidth).Sound :=
    h.congr id rfl rfl rfl
  have hacquired := htuned.acquire owner (by
    intro htx reply howner hcreated hnone
    rw [howner] at hkept
    have hpages : status.ok = true ∧ radio.ok = true := by
      simpa using hpages
    refine hkept ⟨hrunning, htx, ⟨hpages.1, hpages.2, ?_, ?_⟩, hcreated,
      hnone⟩
    · rw [hfrequency]
      rfl
    · rw [hbandwidth]
      rfl)
  dsimp only
  split
  · exact hacquired
  split
  · rename_i hrestore
    have hlease : ((s.tuned radio.body frequency bandwidth).acquire
        owner).2.lease.isSome = true := by
      have hrestore : frequency.isNone = true ∧ ((s.tuned radio.body frequency
          bandwidth).acquire owner).2.lease.isSome = true := by
        simpa using hrestore
      exact hrestore.2
    exact hacquired.restore hlease modeReply frequencyReply
  · exact hacquired.congr id rfl rfl rfl

/-- **Renewing the station's lease is sound** unless it is lost. -/
theorem Sound.maintain (h : s.Sound) {owner : HttpResult}
    (hkept : ¬ s.LosesStation (.maintain owner))
    (hrunning : s.terminated = false) : (s.maintain owner).Sound := by
  unfold BridgeSession.maintain
  split
  · exact h
  rename_i hconnected
  split
  · rename_i hnone
    refine h.acquire _ fun htx => ?_
    rw [Option.isNone_iff_eq_none] at hnone
    have hleased := h.leased htx
    rw [hnone] at hleased
    exact (Bool.false_ne_true hleased).elim
  rename_i hlease
  have hheaders := h.leaseHeaders (isSome_of_not_isNone hlease)
  split
  · exact hheaders
  split
  · rename_i reply hlost
    -- where the lease is lost, there is no session to lose
    have htx : s.txLease.isSome = false := by
      rw [Bool.eq_false_iff]
      intro htx
      exact hkept ⟨hrunning, htx, by simpa using hconnected, hlost⟩
    refine ⟨fun ht => ?_, h.keyed, hheaders.used⟩
    rw [show s.txLease.isSome = true from ht] at htx
    exact Bool.noConfusion htx
  · exact hheaders

/-- **Releasing the station is sound** where there is no session. -/
theorem Sound.release (h : s.Sound) (htx : s.txLease.isSome = false) :
    s.release.Sound := by
  unfold BridgeSession.release
  split
  · exact h
  · rename_i hlease
    have hheaders := h.leaseHeaders (isSome_of_not_isNone hlease)
    refine ⟨fun ht => ?_, h.keyed, hheaders.used⟩
    rw [show s.txLease.isSome = true from ht] at htx
    exact Bool.noConfusion htx

/-! ## One event -/

/-- **An event is sound** unless it loses the station. -/
theorem Sound.step (h : s.Sound) {event : Event}
    (hkept : ¬ s.LosesStation event) : (s.step event).Sound := by
  unfold BridgeSession.step
  split
  · exact h
  rename_i hrunning
  have hrunning : s.terminated = false := by simpa using hrunning
  cases event with
  | connect status radio owner modeReply frequencyReply =>
    exact h.connect hkept hrunning
  | setFrequency frequencyHz reply => exact h.setFrequency frequencyHz reply
  | setMode mode bandwidthHz modeReply bandwidthReply =>
    exact h.setMode mode bandwidthHz modeReply bandwidthReply
  | unkeyBegin => exact h.congr id rfl rfl rfl
  | unkeyEnd stopped released =>
    dsimp only
    split
    · exact h.unkeyEnd stopped released
    · exact h
  | key created streamed first rest => exact h.key created streamed first rest
  | maintain owner => exact h.maintain hkept hrunning
  | release reply =>
    refine h.release ?_
    rw [Bool.eq_false_iff]
    exact fun htx => hkept ⟨hrunning, htx, trivial⟩
  | uploadKeepalive reply =>
    dsimp only
    split
    · exact h.uploadKeepalive reply
    · exact h
  | uploadFail =>
    dsimp only
    split
    · exact h.failTxLocked.congr id rfl rfl rfl
    · exact h
  | uploadEnd =>
    dsimp only
    split
    · exact h.congr id rfl rfl rfl
    · exact h
  | consumeTxFault => exact h.congr id rfl rfl rfl

/-- A session without the station is not sound. -/
theorem not_sound_of_unleased (htx : s.txLease.isSome = true)
    (hlease : s.lease = none) : ¬ s.Sound := by
  intro hsound
  have hleased := hsound.leased htx
  rw [hlease] at hleased
  exact Bool.false_ne_true hleased

/-- **An event that loses the station** leaves a session without it. -/
theorem not_sound_of_loses (h : s.Sound) {event : Event}
    (hloses : s.LosesStation event) : ¬ (s.step event).Sound := by
  obtain ⟨hrunning, htx, hevent⟩ := hloses
  have hlease := h.leased htx
  have hsome : s.lease.isNone = false := Option.isNone_eq_false_iff.mpr hlease
  unfold BridgeSession.step
  rw [hrunning, if_neg Bool.false_ne_true]
  cases event with
  | connect status radio owner modeReply frequencyReply =>
    cases status with
    | none => exact hevent.elim
    | some status =>
    cases radio with
    | none => exact hevent.elim
    | some radio =>
    cases owner with
    | none => exact hevent.elim
    | some owner =>
    obtain ⟨⟨hstatus, hradio, hfrequency, hbandwidth⟩, hcreated, hmissing⟩ :=
      hevent
    -- the station was given, and the lease could not be read
    have hacquired (t : BridgeSession) : t.acquire (some owner)
        = (false, { t with lease := none }) := by
      rw [acquire]
      rw [if_pos hcreated, hmissing]
      rfl
    dsimp only
    rw [connect]
    dsimp only
    rw [hstatus, hradio, if_neg (by decide)]
    cases hread : jsonUnsigned radio.body "frequency_hz" with
    | error _ =>
      rw [hread] at hfrequency
      exact (Bool.false_ne_true hfrequency).elim
    | ok frequency =>
    cases hread' : jsonUnsigned radio.body "rx_bandwidth_hz" with
    | error _ =>
      rw [hread'] at hbandwidth
      exact (Bool.false_ne_true hbandwidth).elim
    | ok bandwidth =>
    dsimp only
    rw [hacquired]
    exact not_sound_of_unleased htx rfl
  | maintain owner =>
    cases owner with
    | none => exact hevent.elim
    | some reply =>
    obtain ⟨hconnected, hlost⟩ := hevent
    dsimp only
    rw [maintain, hconnected, if_neg (by decide), hsome,
      if_neg Bool.false_ne_true]
    dsimp only
    rw [if_pos hlost]
    exact not_sound_of_unleased htx rfl
  | release reply =>
    dsimp only
    rw [release, hsome, if_neg Bool.false_ne_true]
    exact not_sound_of_unleased htx rfl
  | _ => exact hevent.elim

/-! ## The law -/

/-- The session before anything happened, with the state that was restored
from the last run. -/
def initial (mode : CText) (frequencyHz : UInt64) : BridgeSession :=
  { mode := mode, frequencyHz := frequencyHz }

/-- **The leases of the companion.** In every state of a run the session is
sound exactly where no event of the run loses the station in the middle of a
transmit session. -/
theorem sound_iff (mode : CText) (frequencyHz : UInt64)
    (events : List Event) :
    Run.Always step Sound (initial mode frequencyHz) events
      ↔ Run.Each step (fun s event => ¬ s.LosesStation event)
        (initial mode frequencyHz) events := by
  refine Run.always_iff_each (fun s event h => ⟨fun hsound hloses => ?_,
    h.step⟩) ⟨fun h => (Bool.false_ne_true h).elim,
    fun h => (Bool.false_ne_true h).elim, rfl⟩ events
  exact not_sound_of_loses h hloses hsound

/-- **The station is lost while keyed**: the daemon answers the station's
keepalive with 410, and the companion stays keyed without a station. The
next unkeying dereferences an empty optional. -/
theorem keyed_without_station :
    let answer (status : ℕ) (body : String) : HttpResult :=
      some { status := status, body := ofString body }
    let keying : List Event :=
      [.connect (answer 200 "") (answer 200 "\"frequency_hz\":14200000")
          (answer 201 "\"lease\":7") none none,
        .key (answer 201 "\"lease\":9") true (answer 200 "") [],
        .maintain (answer 410 "")]
    let lost := Run.after step (initial (ofString "usb") 0) keying
    let unkeyed := Run.after step lost
      [.unkeyBegin, .uploadEnd, .unkeyEnd (answer 200 "") (answer 200 "")]
    (lost.txKeyed = true ∧ lost.txLease = some 9 ∧ lost.lease = none)
      ∧ unkeyed.misused = true := by
  decide +kernel

end BridgeSession
