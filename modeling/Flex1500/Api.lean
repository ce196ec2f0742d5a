import Flex1500.HttpRequest
import Flex1500.Protocol
import Flex1500.StationOwner
import Flex1500.TxSession

/-!
# The dispatcher

`flex1500_api_dispatch` answers one request. It is one long chain of
routes; here each route is a function of its own and `dispatch` tries them
in the order of the source.

The dispatcher works on the transmit plane, whose world is the API
controller's own settings, the station lease and the radio. The radio is
only reached through the two callbacks `tune_rx` and `set_rx_gain`, so it is
an arbitrary type. A missing pointer of the controller is a flag that says
the record is not attached.

The two JSON texts of the status and the radio are built from counters and
settings the dispatcher only prints, so they are handed to it ready-made,
`none` where one does not fit its buffer.
-/

open CText HttpRequest

/-- What the caller is to do with an answer (`flex1500_api_action`). -/
inductive ApiAction where
  | response | openIqStream | serveTestPage | openTxStream | pushTxAudio
  | tunedRx | rxTuneFailed
  deriving DecidableEq, Repr

/-- The API controller (`flex1500_api_controller`): its settings, and which
records it is attached to. -/
structure ApiController where
  rxTuningEnabled : Bool
  iqStreamActive : Bool
  testPageEnabled : Bool
  rxMode : String := "am"
  rxBandwidthHz : ℕ := 6000
  rxSquelchDb : Int32 := -120
  txDrivePercent : ℕ := txDefaultDrivePercent
  txMicrophoneGainDb : ℕ := 10
  txCompressorEnabled : Bool := false
  requestNowMs : UInt64 := 0
  nextTuneLease : UInt64 := 1
  nextTxLease : UInt64 := 1
  nextStationLease : UInt64 := 1
  tuneAttached : Bool := false
  networkAttached : Bool := false
  stationAttached : Bool := false
  deriving DecidableEq, Repr

/-- `flex1500_api_controller_init`. -/
def ApiController.init (rxTuningEnabled iqStreamActive testPageEnabled : Bool) :
    ApiController where
  rxTuningEnabled := rxTuningEnabled
  iqStreamActive := iqStreamActive
  testPageEnabled := testPageEnabled

/-- The world of the dispatcher: its settings, the station and the radio. -/
structure ApiWorld (ρ : Type) where
  api : ApiController
  station : StationOwner
  radio : ρ

/-- The two callbacks into the radio, `none` for a null pointer. `tune_rx`
reports the receive filter as well. -/
structure RadioOps (ρ : Type) where
  tuneRx : Option (ℕ → ρ → (Int × ℕ) × ρ)
  setRxGain : Option (Int → ρ → Int × ρ)

/-- The part of `flex1500_radio_info` the dispatcher reads: the frequency,
where it is known. -/
structure RadioInfo where
  frequencyHz : Option ℕ
  deriving DecidableEq, Repr

/-- The JSON texts of `GET /v1/status` and `GET /v1/radio`. -/
structure ApiPages where
  status : Option String
  radio : Option String
  deriving DecidableEq, Repr

/-- An answer: the action, the response, empty where there is none or it
did not fit, and the frequency and filter of a receive tune. -/
structure ApiReply where
  action : ApiAction := .response
  response : String := ""
  tuned : Option (ℕ × ℕ) := none
  deriving DecidableEq, Repr

/-! ## Building a response -/

/-- A response in full, or nothing where it does not fit its buffer. -/
def httpResponse (statusLine body : String) (capacity : ℕ) : String :=
  let text := "HTTP/1.1 " ++ statusLine
    ++ "\r\nContent-Type: application/json\r\nContent-Length: "
    ++ toString body.utf8ByteSize
    ++ "\r\nConnection: close\r\nCache-Control: no-store\r\n\r\n" ++ body
  if capacity ≤ text.utf8ByteSize then "" else text

/-- The JSON of an error. -/
def errorBody (name : String) : String :=
  "\x7b\"error\":\"" ++ name ++ "\"\x7d\n"

/-- `json_response` as the answer of a route. -/
def jsonReply (statusLine body : String) (capacity : ℕ) : ApiReply where
  response := httpResponse statusLine body capacity

/-- An error as the answer of a route. -/
def errorReply (statusLine name : String) (capacity : ℕ) : ApiReply :=
  jsonReply statusLine (errorBody name) capacity

/-- The answer to what is not there. -/
def notFound (capacity : ℕ) : ApiReply :=
  errorReply "404 Not Found" "not found" capacity

/-- The answer while somebody transmits. -/
def transmitterActiveReply (capacity : ℕ) : ApiReply :=
  errorReply "409 Conflict" "transmitter_active" capacity

/-- `mode_bandwidth`. -/
def modeBandwidth (mode : String) : ℕ :=
  if mode = "fm" then 12000
  else if mode = "usb" ∨ mode = "lsb" then 2700
  else if mode = "cw" then 500
  else 6000

/-! ## Reading a profile -/

/-- A quoted word of at most seven bytes after a key, with or without a
blank in front of it. -/
def scanWord (key : String) (member : UInt8 → Bool) (s : CText) :
    Option CText :=
  (do
    let blank ← scanLiteral (ofString key) s
    let word ← scanLiteral (ofString "\"") (skipSpace blank)
    scanSet 7 member word) <|>
  (do
    let word ← scanLiteral (ofString (key ++ "\"")) s
    scanSet 7 member word)

/-- A number after a key, with or without a blank in front of it. -/
def scanNumber (key : String) (s : CText) : Option ℕ :=
  (do
    let blank ← scanLiteral (ofString key) s
    scanUnsigned (skipSpace blank)) <|>
  (do
    let number ← scanLiteral (ofString key) s
    scanUnsigned number)

/-- The text from the first occurrence of a key. -/
def atKey (key : String) (s : CText) : Option CText :=
  strstr (ofString key) s

/-- `parse_tx_profile`. -/
def parseTxProfile (request : CText) : Option NetworkTxProfile := do
  let text ← body request
  let mode ← atKey "\"mode\":" text
  let source ← atKey "\"source\":" text
  let drive ← atKey "\"drive_percent\":" text
  let rate ← atKey "\"sample_rate\":" text
  let format ← atKey "\"sample_format\":" text
  let channels ← atKey "\"channels\":" text
  let modeText ← scanWord "\"mode\":" isLower mode
  let sourceText ← scanWord "\"source\":" isLower source
  let driveValue ← scanNumber "\"drive_percent\":" drive
  let rateValue ← scanNumber "\"sample_rate\":" rate
  let formatText ← scanWord "\"sample_format\":"
    (fun c => isLower c || isDigit c) format
  let channelValue ← scanNumber "\"channels\":" channels
  let known := [ofString "usb", ofString "lsb", ofString "am", ofString "iq"]
  if modeText ∈ known
      ∧ ((sourceText = ofString "audio" ∧ formatText = ofString "s16le")
        ∨ (sourceText = ofString "iq" ∧ formatText = ofString "cs16le"))
      ∧ channelValue = 1 then
    some
      { mode :=
          if modeText = ofString "usb" then .usb
          else if modeText = ofString "lsb" then .lsb
          else if modeText = ofString "am" then .am
          else .iqMode
        source := if sourceText = ofString "audio" then .audio else .iq
        drivePercent := driveValue
        sampleRate := rateValue }
  else none

/-! ## The controller -/

namespace ApiController

/-- Whether the controller sees the transmitter owned
(`transmitter_active`). -/
def transmitterActive (api : ApiController) (tx : TxControl) : Bool :=
  api.tuneAttached && tx.owner != .none

/-- `station_request_authorized`. -/
def stationRequestAuthorized (api : ApiController) (station : StationOwner)
    (request : CText) : Bool :=
  if !api.stationAttached then true
  else if !station.held then false
  else
    match controlLease request with
    | none => false
    | some lease => station.leaseMatches lease

end ApiController

/-- Issuing a lease from a counter that skips zero: the lease and the next
value. -/
def issueLease (next : UInt64) : UInt64 × UInt64 :=
  if next = 0 then (1, 2) else (next, next + 1)

variable {ρ : Type}

namespace TxPlane

/-- The plane with the API controller changed. -/
def withApi (p : TxPlane (ApiWorld ρ)) (f : ApiController → ApiController) :
    TxPlane (ApiWorld ρ) :=
  p.withWorld { p.world with api := f p.world.api }

/-- The plane with the station changed. -/
def withStation (p : TxPlane (ApiWorld ρ)) (s : StationOwner) :
    TxPlane (ApiWorld ρ) :=
  p.withWorld { p.world with station := s }

/-- The plane with the radio changed. -/
def withRadio (p : TxPlane (ApiWorld ρ)) (r : ρ) : TxPlane (ApiWorld ρ) :=
  p.withWorld { p.world with radio := r }

end TxPlane

namespace Api

variable (cb : TxCallbacks (TxContext (ApiWorld ρ))) (ops : RadioOps ρ)
variable (request : CText) (radio : RadioInfo) (capacity : ℕ)

/-! ## Which route -/

/-- The paths of the tune routes. -/
def tunePath : CText := ofString "PUT /v1/radio/tune/"

/-- The path of the timeout route. -/
def txTimeoutPath : CText := ofString "PUT /v1/radio/tx-timeout/"

/-- The path of the drive route. -/
def txDrivePath : CText := ofString "PUT /v1/radio/tx-drive/"

/-- The path of the microphone gain route. -/
def txMicGainPath : CText := ofString "PUT /v1/radio/mic-gain/"

/-- The path of the compressor routes. -/
def txCompressorPath : CText := ofString "PUT /v1/radio/tx-compressor/"

/-- The paths of a transmit session (`tx_general_path`). -/
def txGeneralPath (request : CText) : Bool :=
  hasPrefix (ofString "POST /v1/tx/") request
    || hasPrefix (ofString "PUT /v1/tx/") request
    || hasPrefix (ofString "CONNECT /v1/tx/") request
    || hasPrefix (ofString "DELETE /v1/tx/") request

/-- Taking the station (`owner_acquire`). -/
def ownerAcquire (request : CText) : Bool :=
  requestIs "POST" "/v1/control/owner" request

/-- Renewing it (`owner_keepalive`). -/
def ownerKeepalive (request : CText) : Bool :=
  requestIs "PUT" "/v1/control/owner/keepalive" request

/-- Letting it go (`owner_release`). -/
def ownerRelease (request : CText) : Bool :=
  requestIs "DELETE" "/v1/control/owner" request

/-- The routes that need the station (`station_controlled`). -/
def stationControlled (request : CText) : Bool :=
  txGeneralPath request || hasPrefix tunePath request
    || hasPrefix frequencyPrefix request || hasPrefix modePrefix request
    || hasPrefix gainPrefix request || hasPrefix bandwidthPrefix request
    || hasPrefix txDrivePath request || hasPrefix txMicGainPath request
    || hasPrefix txTimeoutPath request || hasPrefix txCompressorPath request

/-! ## The station -/

/-- The text of a boolean. -/
def boolText (b : Bool) : String :=
  if b then "true" else "false"

/-- The answer of a station route. -/
def ownerReply (request : CText) (capacity : ℕ) (result : StationOwnerResult)
    (lease : UInt64) (station : StationOwner) : ApiReply :=
  if result = .ok then
    jsonReply (if ownerAcquire request then "201 Created" else "200 OK")
      ("\x7b\"owner\":" ++ boolText (!ownerRelease request) ++ ",\"lease\":"
        ++ toString lease.toNat ++ ",\"mode_aware\":"
        ++ boolText (ownerRelease request || station.modeAware) ++ "\x7d\n")
      capacity
  else if result = .busy then errorReply "409 Conflict" "owner_busy" capacity
  else errorReply "410 Gone" "owner_stale" capacity

/-- The station lease a station route is handed: the number of the header,
zero where there is none. -/
def presentedLease (request : CText) : UInt64 :=
  ((header "X-Flex1500-Control-Lease" request).map strtoullValue).getD 0

/-- The routes of the station owner. -/
def ownerRoute (p : TxPlane (ApiWorld ρ)) : ApiReply × TxPlane (ApiWorld ρ) :=
  if !p.world.api.stationAttached then (notFound capacity, p)
  else if ownerAcquire request then
    let modeAware :=
      match header "X-Flex1500-Mode-Aware" request with
      | none => true
      | some value => !hasPrefixIgnoringCase (ofString "false") value
    let issued := issueLease p.world.api.nextStationLease
    let q := p.withApi fun api => { api with nextStationLease := issued.2 }
    let r := q.world.station.acquireWithMode issued.1
      p.world.api.requestNowMs modeAware
    (ownerReply request capacity r.1 issued.1 r.2, q.withStation r.2)
  else if ownerRelease request && p.world.api.transmitterActive p.tx then
    (transmitterActiveReply capacity, p)
  else
    let lease := presentedLease request
    let r :=
      if ownerKeepalive request then
        p.world.station.keepalive lease p.world.api.requestNowMs
      else p.world.station.release lease
    (ownerReply request capacity r.1 lease r.2, p.withStation r.2)

/-! ## The transmit session -/

/-- Whether the radio's frequency is allowed for a session's profile. -/
def profileFrequencyAllowed (profile : NetworkTxProfile) (frequencyHz : ℕ) :
    Bool :=
  if profile.source = .iq then networkIqFrequencyAllowed frequencyHz
  else if profile.mode = .am then amFrequencyAllowed frequencyHz
  else physicalMicFrequencyAllowed frequencyHz (profile.mode = .usb)

/-- The number of bytes a `POST /v1/tx/audio` declares, where its body and
its length are there and the length is one the route takes. -/
def audioBytes (request : CText) : Option ℕ := do
  let _ ← strstr blankLine request
  let bytes ← scanUnsigned (← header "Content-Length" request)
  if 0 < bytes ∧ bytes ≤ 9600 ∧ bytes % 2 = 0 then some bytes else none

/-- `POST /v1/tx/audio`: the session is attached to if it has no stream yet,
and the declared samples are recorded. -/
def txAudio (lease : UInt64) (p : TxPlane (ApiWorld ρ)) :
    NetworkTxResult × TxPlane (ApiWorld ρ) :=
  match audioBytes request with
  | none => (.invalid, p)
  | some bytes =>
    if p.network.profile.source ≠ .audio then (.invalid, p)
    else
      let attached : NetworkTxResult × NetworkTx :=
        if !p.network.streamConnected then
          p.network.attachStream lease p.world.api.requestNowMs
        else (.ok, p.network)
      let q := p.withNetwork fun _ => attached.2
      if attached.1 = .ok then
        let r := q.network.recordData lease (bytes / 2)
          p.world.api.requestNowMs
        (r.1, q.withNetwork fun _ => r.2)
      else (attached.1, q)

/-- The routes that carry a transmit lease. -/
def txLeaseRoute (lease : UInt64) (p : TxPlane (ApiWorld ρ)) :
    NetworkTxResult × TxPlane (ApiWorld ρ) :=
  let now := p.world.api.requestNowMs
  if requestIs "PUT" "/v1/tx/sessions/keepalive" request then
    ((p.network.keepalive lease now).1,
      p.withNetwork fun s => (s.keepalive lease now).2)
  else if requestIs "CONNECT" "/v1/tx/stream" request then
    ((p.network.attachStream lease now).1,
      p.withNetwork fun s => (s.attachStream lease now).2)
  else if requestIs "PUT" "/v1/tx/ptt/start" request then
    if radio.frequencyHz.any (profileFrequencyAllowed p.network.profile) then
      NetworkTx.pttStart cb lease now p
    else (.invalid, p)
  else if requestIs "PUT" "/v1/tx/ptt/stop" request then
    NetworkTx.pttStop cb lease p
  else if requestIs "DELETE" "/v1/tx/sessions/current" request then
    NetworkTx.release cb lease p
  else if requestIs "POST" "/v1/tx/audio" request then txAudio request lease p
  else (.invalid, p)

/-- `POST /v1/tx/sessions`: the lease is issued once the profile is read,
whether or not the session is granted. -/
def txSessionCreate (p : TxPlane (ApiWorld ρ)) :
    (NetworkTxResult × UInt64) × TxPlane (ApiWorld ρ) :=
  let isJson := (header "Content-Type" request).any
    (hasPrefixIgnoringCase (ofString "application/json"))
  match (if isJson then parseTxProfile request else none) with
  | none => ((.invalid, 0), p)
  | some profile =>
    let issued := issueLease p.world.api.nextTxLease
    let q := p.withApi fun api => { api with nextTxLease := issued.2 }
    let r := NetworkTx.acquire profile issued.1 p.world.api.requestNowMs q
    ((r.1, issued.1), r.2)

/-- The operation behind a transmit route, with the lease it issued or was
handed. -/
def txOperation (p : TxPlane (ApiWorld ρ)) :
    (NetworkTxResult × UInt64) × TxPlane (ApiWorld ρ) :=
  if requestIs "POST" "/v1/tx/sessions" request then txSessionCreate request p
  else
    match lease request with
    | none => ((.invalid, 0), p)
    | some lease =>
      let r := txLeaseRoute cb request radio lease p
      ((r.1, lease), r.2)

/-- The answer of a transmit route that opens no stream. -/
def txReply (request : CText) (capacity : ℕ) (result : NetworkTxResult)
    (lease : UInt64) (keyed : Bool) : ApiReply :=
  if result = .ok then
    if requestIs "POST" "/v1/tx/sessions" request then
      jsonReply "201 Created"
        ("\x7b\"lease\":" ++ toString lease.toNat
          ++ ",\"state\":\"reserved\",\"lease_timeout_ms\":15000\x7d\n")
        capacity
    else
      jsonReply "200 OK"
        ("\x7b\"state\":\"" ++ (if keyed then "transmitting" else "reserved")
          ++ "\"\x7d\n")
        capacity
  else
    errorReply
      (match result with
        | .disabled => "404 Not Found"
        | .busy | .notReady => "409 Conflict"
        | .stale => "410 Gone"
        | .hardwareError => "500 Internal Server Error"
        | .invalid => "422 Unprocessable Content"
        | _ => "400 Bad Request")
      ("tx_" ++ result.name) capacity

/-- The routes of a transmit session. -/
def txRoute (p : TxPlane (ApiWorld ρ)) : ApiReply × TxPlane (ApiWorld ρ) :=
  if !p.world.api.networkAttached || !p.network.enabled then
    (notFound capacity, p)
  else
    let r := txOperation cb request radio p
    if r.1.1 = .ok ∧ requestIs "CONNECT" "/v1/tx/stream" request then
      ({ action := .openTxStream }, r.2)
    else if r.1.1 = .ok ∧ requestIs "POST" "/v1/tx/audio" request then
      ({ jsonReply "200 OK" "\x7b\"accepted\":true\x7d\n" capacity with
          action := .pushTxAudio }, r.2)
    else
      (txReply request capacity r.1.1 r.1.2 r.2.network.keyed,
        if r.1.1 = .busy ∨ r.1.1 = .stale then
          r.2.withDiagnostics TxDiagnostics.reject
        else r.2)

/-! ## The transmit settings -/

/-- Whether the settings of the transmitter are there to be changed. -/
def txSettingsAttached (p : TxPlane (ApiWorld ρ)) : Bool :=
  p.world.api.tuneAttached && p.tx.enabled

/-- `PUT /v1/radio/tx-compressor/on` and `/off`. -/
def compressorRoute (p : TxPlane (ApiWorld ρ)) :
    ApiReply × TxPlane (ApiWorld ρ) :=
  let on := hasPrefix (txCompressorPath ++ ofString "on HTTP/") request
  let off := hasPrefix (txCompressorPath ++ ofString "off HTTP/") request
  if !on && !off then
    (errorReply "400 Bad Request" "invalid_tx_compressor" capacity, p)
  else if !txSettingsAttached p then (notFound capacity, p)
  else if p.world.api.transmitterActive p.tx then
    (transmitterActiveReply capacity, p)
  else
    (jsonReply "200 OK"
        ("\x7b\"tx_compressor_enabled\":" ++ boolText on ++ "\x7d\n") capacity,
      p.withApi fun api => { api with txCompressorEnabled := on })

/-- The shape of `PUT /v1/radio/tx-drive/<n>` and
`PUT /v1/radio/mic-gain/<n>`. -/
def settingRoute (path : CText) (minimum maximum : ℕ) (name : String)
    (store : ℕ → ApiController → ApiController) (p : TxPlane (ApiWorld ρ)) :
    ApiReply × TxPlane (ApiWorld ρ) :=
  match (parseUintSetting path request).filter
      fun value => minimum ≤ value && value ≤ maximum with
  | none => (errorReply "400 Bad Request" "invalid_tx_setting" capacity, p)
  | some value =>
    if !txSettingsAttached p then (notFound capacity, p)
    else if p.world.api.transmitterActive p.tx then
      (transmitterActiveReply capacity, p)
    else
      (jsonReply "200 OK"
          ("\x7b\"" ++ name ++ "\":" ++ toString value ++ "\x7d\n") capacity,
        p.withApi (store value))

/-- `PUT /v1/radio/tx-drive/<n>`. -/
def driveRoute (p : TxPlane (ApiWorld ρ)) : ApiReply × TxPlane (ApiWorld ρ) :=
  settingRoute request capacity txDrivePath txMinDrivePercent
    txMaxDrivePercent "tx_drive_percent"
    (fun value api => { api with txDrivePercent := value }) p

/-- `PUT /v1/radio/mic-gain/<n>`. -/
def micGainRoute (p : TxPlane (ApiWorld ρ)) :
    ApiReply × TxPlane (ApiWorld ρ) :=
  settingRoute request capacity txMicGainPath 0 70 "tx_microphone_gain_db"
    (fun value api => { api with txMicrophoneGainDb := value }) p

/-- `PUT /v1/radio/tx-timeout/<n>`. -/
def timeoutRoute (p : TxPlane (ApiWorld ρ)) :
    ApiReply × TxPlane (ApiWorld ρ) :=
  match (parseUintSetting txTimeoutPath request).filter
      fun s => txTimeoutMinSeconds ≤ s && s ≤ txTimeoutMaxSeconds with
  | none => (errorReply "400 Bad Request" "invalid_tx_timeout" capacity, p)
  | some seconds =>
    if !txSettingsAttached p then (notFound capacity, p)
    else if p.tx.owner ≠ .none then (transmitterActiveReply capacity, p)
    else
      let r := TxControl.setTimeoutSeconds seconds p.tx
      (if r.1 then
          jsonReply "200 OK"
            ("\x7b\"tx_timeout_seconds\":" ++ toString seconds ++ "\x7d\n")
            capacity
        else
          errorReply "500 Internal Server Error" "tx_timeout_change_failed"
            capacity,
        { p with tx := r.2 })

/-! ## Tune -/

/-- `tune_error_response`. -/
def tuneErrorReply (result : TuneResult) (capacity : ℕ) : ApiReply :=
  errorReply
    (match result with
      | .busy => "409 Conflict"
      | .invalidLease => "403 Forbidden"
      | .disabled => "404 Not Found"
      | _ => "500 Internal Server Error")
    ("tune_" ++ result.name) capacity

/-- The answer of a tune operation, with the text of a success. -/
def tuneReply (text : String) (capacity : ℕ) (result : TuneResult) :
    ApiReply :=
  if result = .ok then jsonReply "200 OK" text capacity
  else tuneErrorReply result capacity

/-- `PUT /v1/radio/tune/start`. -/
def tuneStart (p : TxPlane (ApiWorld ρ)) : ApiReply × TxPlane (ApiWorld ρ) :=
  if !radio.frequencyHz.any tuneFrequencyAllowed then
    (errorReply "422 Unprocessable Content" "tx_frequency_not_allowed"
      capacity, p.withDiagnostics TxDiagnostics.reject)
  else
    let issued := issueLease p.world.api.nextTuneLease
    let q := p.withApi fun api => { api with nextTuneLease := issued.2 }
    let r := TuneControl.start cb p.world.api.requestNowMs issued.1 q
    (tuneReply
        ("\x7b\"tune_active\":true,\"lease\":" ++ toString issued.1.toNat
          ++ ",\"lease_timeout_ms\":15000,\"hard_limit_ms\":60000\x7d\n")
        capacity r.1,
      r.2)

/-- The tune routes. -/
def tuneRoute (p : TxPlane (ApiWorld ρ)) : ApiReply × TxPlane (ApiWorld ρ) :=
  if !p.world.api.tuneAttached then (notFound capacity, p)
  else if hasPrefix (tunePath ++ ofString "start HTTP/") request then
    tuneStart cb radio capacity p
  else
    match parseLeasePath (tunePath ++ ofString "keepalive/") request with
    | some lease =>
      let r := TuneControl.keepalive cb p.world.api.requestNowMs lease p
      (tuneReply "\x7b\"tune_active\":true\x7d\n" capacity r.1, r.2)
    | none =>
      match parseLeasePath (tunePath ++ ofString "stop/") request with
      | some lease =>
        let r := TuneControl.stop cb lease p
        (tuneReply "\x7b\"tune_active\":false\x7d\n" capacity r.1, r.2)
      | none => (tuneErrorReply .invalidLease capacity, p)

/-! ## The receiver -/

/-- A receive tune through the callback. -/
def frequencyRoute (tuneRx : ℕ → ρ → (Int × ℕ) × ρ) (frequencyHz : ℕ)
    (p : TxPlane (ApiWorld ρ)) : ApiReply × TxPlane (ApiWorld ρ) :=
  if (rxFilterForFrequency frequencyHz).isNone then
    (errorReply "400 Bad Request" "RX tune failed" capacity, p)
  else
    let r := tuneRx frequencyHz p.world.radio
    (if r.1.1 = 0 then
        { jsonReply "200 OK"
            ("\x7b\"frequency_hz\":" ++ toString frequencyHz
              ++ ",\"rx_filter\":" ++ toString r.1.2 ++ "\x7d\n")
            capacity with
          action := .tunedRx, tuned := some (frequencyHz, r.1.2) }
      else
        { errorReply "500 Internal Server Error" "RX tune failed" capacity with
          action := .rxTuneFailed },
      p.withRadio r.2)

/-- A gain change through the callback. -/
def gainRoute (setRxGain : Int → ρ → Int × ρ) (gainDb : Int)
    (p : TxPlane (ApiWorld ρ)) : ApiReply × TxPlane (ApiWorld ρ) :=
  let r := setRxGain gainDb p.world.radio
  (if r.1 = 0 then
      jsonReply "200 OK"
        ("\x7b\"rx_gain_db\":" ++ toString gainDb ++ "\x7d\n") capacity
    else
      errorReply "500 Internal Server Error" "RX gain change failed" capacity,
    p.withRadio r.2)

/-- The pages (`flex1500_build_http_response`). -/
def pageReply (request : CText) (capacity : ℕ) (pages : ApiPages) : ApiReply :=
  match pages.status, pages.radio with
  | some status, some radio =>
    if hasPrefix (ofString "GET /v1/status ") request then
      jsonReply "200 OK" status capacity
    else if hasPrefix (ofString "GET /v1/radio ") request then
      jsonReply "200 OK" radio capacity
    else if hasPrefix (ofString "GET /v1/stream/iq ") request then
      errorReply "503 Service Unavailable" "IQ stream is not active" capacity
    else notFound capacity
  | _, _ => {}

/-- Whether the request sets the frequency, the mode or the bandwidth. -/
def receiveSetting (request : CText) : Bool :=
  (parseRxFrequency request).isSome || (parseRxMode request).isSome
    || (parseRxBandwidth request).isSome

/-- The paths of the receive settings. -/
def receivePath (request : CText) : Bool :=
  hasPrefix frequencyPrefix request || hasPrefix modePrefix request
    || hasPrefix gainPrefix request || hasPrefix bandwidthPrefix request
    || hasPrefix squelchPrefix request

/-- The routes left once no other has answered, from the gain on. -/
def lastRoutes (pages : ApiPages) (p : TxPlane (ApiWorld ρ)) :
    ApiReply × TxPlane (ApiWorld ρ) :=
  match parseRxGain request, ops.setRxGain, p.world.api.rxTuningEnabled with
  | some gainDb, some setRxGain, true =>
    gainRoute capacity setRxGain gainDb p
  | _, _, _ =>
    if receivePath request then (notFound capacity, p)
    else if hasPrefix (ofString "GET /v1/stream/iq ") request
        && p.world.api.iqStreamActive then
      ({ action := .openIqStream }, p)
    else if hasPrefix (ofString "GET /test HTTP/") request
        && p.world.api.testPageEnabled then
      ({ action := .serveTestPage }, p)
    else (pageReply request capacity pages, p)

/-- The mode, the bandwidth and the squelch, which only the stream's clients
see. -/
def streamRoutes (pages : ApiPages) (p : TxPlane (ApiWorld ρ)) :
    ApiReply × TxPlane (ApiWorld ρ) :=
  if p.world.api.iqStreamActive then
    match parseRxMode request with
    | some mode =>
      (jsonReply "200 OK"
          ("\x7b\"rx_mode\":\"" ++ mode ++ "\",\"rx_bandwidth_hz\":"
            ++ toString (modeBandwidth mode) ++ "\x7d\n") capacity,
        p.withApi fun api =>
          { api with rxMode := mode, rxBandwidthHz := modeBandwidth mode })
    | none =>
      match parseRxBandwidth request with
      | some hz =>
        (jsonReply "200 OK"
            ("\x7b\"rx_bandwidth_hz\":" ++ toString hz ++ "\x7d\n") capacity,
          p.withApi fun api => { api with rxBandwidthHz := hz })
      | none =>
        match parseRxSquelch request with
        | some db =>
          (jsonReply "200 OK"
              ("\x7b\"rx_squelch_db\":" ++ toString db.toInt ++ "\x7d\n")
              capacity,
            p.withApi fun api => { api with rxSquelchDb := db })
        | none => lastRoutes ops request capacity pages p
  else lastRoutes ops request capacity pages p

/-- The routes of the receiver and the pages. -/
def radioRoute (pages : ApiPages) (p : TxPlane (ApiWorld ρ)) :
    ApiReply × TxPlane (ApiWorld ρ) :=
  if receiveSetting request && p.world.api.transmitterActive p.tx then
    (transmitterActiveReply capacity, p)
  else
    match parseRxFrequency request, ops.tuneRx,
      p.world.api.rxTuningEnabled with
    | some frequencyHz, some tuneRx, true =>
      frequencyRoute capacity tuneRx frequencyHz p
    | _, _, _ => streamRoutes ops request capacity pages p

/-! ## Dispatch -/

/-- `flex1500_api_dispatch`. -/
def dispatch (pages : ApiPages) (p : TxPlane (ApiWorld ρ)) :
    ApiReply × TxPlane (ApiWorld ρ) :=
  if ownerAcquire request || ownerKeepalive request || ownerRelease request
  then ownerRoute request capacity p
  else if stationControlled request
      && !p.world.api.stationRequestAuthorized p.world.station request then
    (errorReply "409 Conflict" "station_owned" capacity, p)
  else if txGeneralPath request then txRoute cb request radio capacity p
  else if hasPrefix txCompressorPath request then
    compressorRoute request capacity p
  else if hasPrefix txDrivePath request then driveRoute request capacity p
  else if hasPrefix txMicGainPath request then micGainRoute request capacity p
  else if hasPrefix txTimeoutPath request then timeoutRoute request capacity p
  else if hasPrefix tunePath request then tuneRoute cb request radio capacity p
  else radioRoute ops request capacity pages p

end Api
