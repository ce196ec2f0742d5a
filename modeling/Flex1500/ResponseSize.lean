import Flex1500.DaemonBlocks
import Flex1500.DaemonSettings
import Flex1500.StatusPages

/-!
# Every response fits

The dispatcher prints into buffers of a fixed size, twice over: the pages
into their own, and every response into the caller's. What does not fit
comes out empty, and an empty response is not sent. Here the sizes are added
up, with every counter at its widest and every name at its longest, and they
are within the buffers: each request that the dispatcher answers itself gets
a response.

What a value may take depends on its type, but for the texts. The texts are
names of the code, and one of them is a setting: the receive mode, which is
one of five in every controller the daemon can have.
-/

open CText HttpRequest String

/-! ## The size of a page -/

/-- A value is not printed wider than its width. -/
theorem StatusValue.within_print (value : StatusValue) :
    value.print.Within value.width := by
  cases value with
  | quoted text =>
    exact (((within_self "\"").append (within_self text)).append
      (within_self "\"")).mono (by
        rw [show ("\"" : String).utf8ByteSize = 1 from rfl, width]
        omega)
  | word text => exact within_self text
  | flag value =>
    cases value with
    | false => exact (by decide : ("false" : String).Within 5)
    | true => exact (by decide : ("true" : String).Within 5)
  | counter value => exact within_uint64 value
  | uint value => exact within_uint32 value
  | int value => exact within_int32 value
  | uintOrNull value =>
    cases value with
    | none => exact (by decide : ("null" : String).Within 10)
    | some value => exact within_uint32 value
  | intOrNull value =>
    cases value with
    | none => exact (by decide : ("null" : String).Within 11)
    | some value => exact within_int32 value

/-- The bytes of a member beside its value: its name, and what stands around
the two on a line. -/
def nameWidth (member : String × StatusValue) : ℕ :=
  8 + member.1.utf8ByteSize

/-- **The budget** of a page: its names, and its values at their widest. -/
def pageBudget (members : List (String × StatusValue)) : ℕ :=
  (members.map nameWidth).sum + (members.map fun m => m.2.width).sum

/-- A line is within what its member has in the budget. -/
theorem within_memberLine (member : String × StatusValue) :
    (memberLine member ++ ",\n").Within
      (nameWidth member + member.2.width) := by
  have hline := ((((within_self "  \"").append (within_self member.1)).append
    (within_self "\": ")).append member.2.within_print).append
    (within_self ",\n")
  refine hline.mono ?_
  rw [show ("  \"" : String).utf8ByteSize = 3 from rfl,
    show ("\": " : String).utf8ByteSize = 3 from rfl,
    show (",\n" : String).utf8ByteSize = 2 from rfl, nameWidth]
  omega

theorem within_membersText (members : List (String × StatusValue)) :
    (membersText members).Within (pageBudget members) := by
  induction members with
  | nil => exact (by decide : ("" : String).Within 0)
  | cons member rest ih =>
    have hline := within_memberLine member
    have hbudget : pageBudget (member :: rest)
        = nameWidth member + member.2.width + pageBudget rest := by
      rw [pageBudget, pageBudget, List.map_cons, List.map_cons, List.sum_cons,
        List.sum_cons]
      omega
    rw [hbudget]
    cases rest with
    | nil =>
      rw [Within, utf8ByteSize_append] at hline
      show (memberLine member ++ "\n").Within _
      rw [Within, utf8ByteSize_append]
      exact Nat.le_trans (Nat.le_trans (Nat.add_le_add_left (by decide) _)
        hline) (Nat.le_add_right _ _)
    | cons next rest => exact hline.append ih

/-- **A page is within its budget**, but for its braces. -/
theorem within_pageText (members : List (String × StatusValue)) :
    (pageText members).Within (4 + pageBudget members) := by
  refine (((within_self "\x7b\n").append (within_membersText members)).append
    (within_self "\x7d\n")).mono ?_
  rw [show ("\x7b\n" : String).utf8ByteSize = 2 from rfl,
    show ("\x7d\n" : String).utf8ByteSize = 2 from rfl]
  omega

/-- A page whose budget is below the buffer is printed. -/
theorem printPage_eq_some {members : List (String × StatusValue)}
    {capacity : ℕ} (h : 4 + pageBudget members < capacity) :
    printPage members capacity = some (pageText members) :=
  if_neg (Nat.not_le.mpr (Nat.lt_of_le_of_lt (within_pageText members) h))

/-! ## The two pages -/

section Status

variable {φ : Type} {oneDecimal : φ → String} {status : ServiceStatus φ}

/-- The six meters. -/
def ServiceStatus.meters (s : ServiceStatus φ) : List φ :=
  [s.txInputPeakDbfs, s.txInputRmsDbfs, s.txPostGainPeakDbfs,
    s.txPostGainRmsDbfs, s.txOutputPeakDbfs, s.txOutputRmsDbfs]

/-- **A status the daemon can have**: its version and revision have at most
64 characters, its state is one of the daemon's, and its meters are printed
in at most eight characters. Nothing is asked of its counters. -/
structure ServiceStatus.Presentable (oneDecimal : φ → String)
    (status : ServiceStatus φ) : Prop where
  softwareVersion : ∀ text ∈ status.softwareVersion, text.length ≤ 64
  gitRevision : ∀ text ∈ status.gitRevision, text.length ≤ 64
  state : status.state ∈ serviceStates
  meters : ∀ meter ∈ status.meters, (oneDecimal meter).length ≤ 8

/-- A text that may be missing, by its characters. -/
theorem within_getD {text : Option String} {n : ℕ}
    (htext : ∀ t ∈ text, t.length ≤ n) {other : String}
    (hother : other.length ≤ n) : (text.getD other).Within (4 * n) := by
  cases text with
  | none => exact within_of_length hother
  | some t => exact within_of_length (htext t rfl)

/-- The names of the status. -/
theorem names_status (oneDecimal : φ → String) (status : ServiceStatus φ) :
    ((status.members oneDecimal).map nameWidth).sum = 1921 := by
  simp only [ServiceStatus.members, nameWidth, List.map_cons, List.map_nil,
    List.sum_cons, List.sum_nil]
  decide +kernel

/-- Its values, with each of the counters at twenty digits. -/
theorem widths_status (h : status.Presentable oneDecimal) :
    ((status.members oneDecimal).map fun m => m.2.width).sum ≤ 1917 := by
  have hversion := within_getD h.softwareVersion
    (by decide : "unknown".length ≤ 64)
  have hrevision := within_getD h.gitRevision
    (by decide : "unknown".length ≤ 64)
  have hstates : ∀ state ∈ serviceStates, state.Within 15 := by decide
  have hstate := hstates status.state h.state
  have hmeters (meter : φ) (hmeter : meter ∈ status.meters) :
      (oneDecimal meter).Within 32 := within_of_length (h.meters meter hmeter)
  simp only [ServiceStatus.meters, List.forall_mem_cons, List.not_mem_nil,
    false_imp_iff, implies_true, and_true] at hmeters
  obtain ⟨h₁, h₂, h₃, h₄, h₅, h₆⟩ := hmeters
  simp only [ServiceStatus.members, List.map_cons, List.map_nil,
    StatusValue.width, List.sum_cons, List.sum_nil]
  rw [show "flex1500d".utf8ByteSize = 9 from rfl,
    show "1".utf8ByteSize = 1 from rfl,
    show "complex_f32le".utf8ByteSize = 13 from rfl]
  unfold Within at hversion hrevision hstate h₁ h₂ h₃ h₄ h₅ h₆
  grind

/-- The budget of the status. -/
theorem budget_status (h : status.Presentable oneDecimal) :
    pageBudget (status.members oneDecimal) ≤ 1921 + 1917 :=
  Nat.add_le_add (Nat.le_of_eq (names_status oneDecimal status))
    (widths_status h)

/-- **The status fits its buffer.** -/
theorem buildStatusJson_eq_some (h : status.Presentable oneDecimal) :
    buildStatusJson oneDecimal status statusCapacity
      = some (pageText (status.members oneDecimal)) :=
  printPage_eq_some (Nat.lt_of_le_of_lt
    (Nat.add_le_add_left (budget_status h) 4) (by decide))

end Status

section Radio

variable {ρ : Type} {radio : RadioRecord} {p : TxPlane (ApiWorld ρ)}

/-- **A record of the daemon**: `RADIO_INFO`, with what the receiver knows or
without. -/
def RadioRecord.OfDaemon (radio : RadioRecord) : Prop :=
  radio = radioInfo
    ∨ ∃ receiver transmitEnabled,
      radio = liveRadioInfo receiver transmitEnabled

/-- A record whose texts are no longer than the longest names the code has
for them. -/
structure RadioRecord.Named (radio : RadioRecord) : Prop where
  model : radio.model.Within 9
  firmware : radio.firmware.Within 8
  txOwner : (radio.txOwner.getD "none").Within 12
  txState : (radio.txState.getD "rx").Within 15
  rxMode : (radio.rxMode.getD "am").Within 3

/-- Four digits. -/
theorem within_hexText (value : UInt16) : (hexText value).Within 4 := by
  have hdigit (n : ℕ) : (Nat.digitChar (n % 16)).utf8Size = 1 := by
    have hdigits : ∀ k < 16, (Nat.digitChar k).utf8Size = 1 := by decide
    exact hdigits _ (Nat.mod_lt n (by decide))
  refine Nat.le_of_eq (utf8ByteSize_of_ascii fun c hc => ?_)
  obtain ⟨shift, -, rfl⟩ := List.mem_map.mp hc
  exact hdigit _

/-- The names of the radio. -/
theorem names_radio (radio : RadioRecord) :
    (radio.members.map nameWidth).sum = 625 := by
  simp only [RadioRecord.members, nameWidth, List.map_cons, List.map_nil,
    List.sum_cons, List.sum_nil]
  decide +kernel

/-- Its values, with each number at its longest. -/
theorem widths_radio (h : radio.Named) :
    (radio.members.map fun m => m.2.width).sum ≤ 231 := by
  obtain ⟨hmodel, hfirmware, howner, hstate, hmode⟩ := h
  have hvendor := within_hexText radio.usbVendorId
  have hproduct := within_hexText radio.usbProductId
  simp only [RadioRecord.members, List.map_cons, List.map_nil,
    StatusValue.width, List.sum_cons, List.sum_nil]
  unfold Within at hmodel hfirmware howner hstate hmode hvendor hproduct
  grind

/-- The budget of the radio. -/
theorem budget_radio (h : radio.Named) :
    pageBudget radio.members ≤ 625 + 231 :=
  Nat.add_le_add (Nat.le_of_eq (names_radio radio)) (widths_radio h)

theorem TxOwner.within_name (owner : TxOwner) : owner.name.Within 12 := by
  cases owner <;> decide

theorem TxState.within_name (state : TxState) : state.name.Within 15 := by
  cases state <;> decide

/-- A receive mode is a word of two or three letters. -/
theorem within_rxMode {mode : String} (h : mode ∈ rxModes) : mode.Within 3 :=
  (by decide : ∀ mode ∈ rxModes, mode.Within 3) mode h

/-- What the dispatcher presents of a record of the daemon. -/
theorem named_presented (hradio : radio.OfDaemon)
    (hmode : p.world.api.rxMode ∈ rxModes) : (radio.presented p).Named := by
  have htexts : radio.model = "FLEX-1500" ∧ radio.firmware = "0.5.3.24"
      ∧ radio.txOwner = none ∧ radio.txState = none := by
    obtain rfl | ⟨receiver, enabled, rfl⟩ := hradio
    · exact ⟨rfl, rfl, rfl, rfl⟩
    · exact ⟨rfl, rfl, rfl, rfl⟩
  obtain ⟨hmodel, hfirmware, howner, hstate⟩ := htexts
  have hpresented : (radio.presented p).model = radio.model
      ∧ (radio.presented p).firmware = radio.firmware
      ∧ (radio.presented p).rxMode = some p.world.api.rxMode
      ∧ (radio.presented p).txOwner
        = (if p.world.api.tuneAttached then some p.tx.owner.name
            else radio.txOwner)
      ∧ (radio.presented p).txState
        = (if p.world.api.tuneAttached then some p.tx.state.name
            else radio.txState) := by
    unfold RadioRecord.presented
    dsimp only
    cases p.world.api.tuneAttached with
    | _ =>
      cases p.world.api.networkAttached with
      | _ => exact ⟨rfl, rfl, rfl, rfl, rfl⟩
  obtain ⟨hmodel', hfirmware', hmode', howner', hstate'⟩ := hpresented
  constructor
  · rw [hmodel', hmodel]
    decide
  · rw [hfirmware', hfirmware]
    decide
  · rw [howner', howner]
    split
    · exact p.tx.owner.within_name
    · decide
  · rw [hstate', hstate]
    split
    · exact p.tx.state.within_name
    · decide
  · rw [hmode']
    exact within_rxMode hmode

/-- **The radio fits its buffer.** -/
theorem buildRadioJson_eq_some (h : radio.Named) :
    buildRadioJson radio radioCapacity = some (pageText radio.members) :=
  printPage_eq_some (Nat.lt_of_le_of_lt
    (Nat.add_le_add_left (budget_radio h) 4) (by decide))

end Radio

/-! ## The size of a response -/

/-- **A response fits** whose body leaves room for the header. -/
theorem httpResponse_ne_empty {statusLine body : String}
    (hline : statusLine.Within 25) (hbody : body.Within 3900) :
    httpResponse statusLine body Daemon.responseCapacity ≠ "" := by
  have hlength : (toString body.utf8ByteSize).Within 4 :=
    within_toString (Nat.lt_of_le_of_lt hbody (by decide)) (by decide)
  have htext := (((((within_self "HTTP/1.1 ").append hline).append (within_self
    "\r\nContent-Type: application/json\r\nContent-Length: ")).append
    hlength).append (within_self
    "\r\nConnection: close\r\nCache-Control: no-store\r\n\r\n")).append hbody
  unfold httpResponse
  rw [if_neg (Nat.not_le.mpr (Nat.lt_of_le_of_lt htext (by decide)))]
  intro hempty
  have hsize := congrArg String.utf8ByteSize hempty
  rw [utf8ByteSize_append, utf8ByteSize_append, utf8ByteSize_append,
    utf8ByteSize_append, utf8ByteSize_append,
    show ("HTTP/1.1 " : String).utf8ByteSize = 9 from rfl,
    show ("" : String).utf8ByteSize = 0 from rfl] at hsize
  omega

/-- Actions that leave the answer to the caller: a stream is opened, or the
test page is served. -/
def ApiAction.HandsOver : ApiAction → Prop
  | .openIqStream | .serveTestPage | .openTxStream => True
  | _ => False

/-- **A request is answered**: there is a response, or the caller answers. -/
def ApiReply.Answered (reply : ApiReply) : Prop :=
  reply.response ≠ "" ∨ reply.action.HandsOver

/-- A tune callback that succeeds reports a filter of 32 bits. -/
def RadioOps.Reports {ρ : Type} (ops : RadioOps ρ) : Prop :=
  ∀ tuneRx ∈ ops.tuneRx, ∀ frequencyHz w,
    (tuneRx frequencyHz w).1.1 = 0 → (tuneRx frequencyHz w).1.2 < 2 ^ 32

/-- Pages that a response has room for. -/
def ApiPages.Fit (pages : ApiPages) : Prop :=
  ∃ status radio : String, pages = { status := status, radio := radio }
    ∧ status.Within 3900 ∧ radio.Within 3900

namespace Api

/-- An answer in JSON. -/
theorem answered_json {statusLine body : String} {n : ℕ}
    (hline : statusLine.Within 25) (hbody : body.Within n) (hn : n ≤ 3900) :
    (jsonReply statusLine body Daemon.responseCapacity).Answered :=
  Or.inl (httpResponse_ne_empty hline (hbody.mono hn))

/-- An error. -/
theorem answered_error {statusLine name : String}
    (hline : statusLine.Within 25) (hname : name.Within 100) :
    (errorReply statusLine name Daemon.responseCapacity).Answered :=
  answered_json hline (((within_self "\x7b\"error\":\"").append hname).append
    (within_self "\"\x7d\n")) (by decide)

theorem answered_notFound : (notFound Daemon.responseCapacity).Answered :=
  answered_error (by decide) (by decide)

theorem answered_transmitterActive :
    (transmitterActiveReply Daemon.responseCapacity).Answered :=
  answered_error (by decide) (by decide)

/-- A number as the value of a setting. -/
theorem answered_setting {name value : String} (hname : name.Within 100)
    (hvalue : value.Within 20) :
    (jsonReply "200 OK" ("\x7b\"" ++ name ++ "\":" ++ value ++ "\x7d\n")
      Daemon.responseCapacity).Answered :=
  answered_json (by decide) (((((within_self "\x7b\"").append hname).append
    (within_self "\":")).append hvalue).append (within_self "\x7d\n"))
    (by decide)

theorem within_boolText (b : Bool) : (boolText b).Within 5 := by
  cases b <;> decide

/-! ## Route by route -/

variable {ρ : Type} {cb : TxCallbacks (TxContext (ApiWorld ρ))}
variable {ops : RadioOps ρ} {p : TxPlane (ApiWorld ρ)} {request : CText}
variable {radio : RadioInfo} {pages : ApiPages}

/-- The answer of a station route. -/
theorem ownerReply_answered (result : StationOwnerResult) (lease : UInt64)
    (station : StationOwner) :
    (ownerReply request Daemon.responseCapacity result lease
      station).Answered := by
  have hline : ∀ b : Bool,
      (if b = true then "201 Created" else "200 OK").Within 25 := by decide
  unfold ownerReply
  split
  · exact answered_json (hline (ownerAcquire request))
      (((((((within_self "\x7b\"owner\":").append (within_boolText _)).append
        (within_self ",\"lease\":")).append (within_uint64 lease)).append
        (within_self ",\"mode_aware\":")).append (within_boolText _)).append
        (within_self "\x7d\n")) (by decide)
  split
  · exact answered_error (by decide) (by decide)
  · exact answered_error (by decide) (by decide)

theorem ownerRoute_answered :
    (ownerRoute request Daemon.responseCapacity p).1.Answered := by
  unfold ownerRoute
  split
  · exact answered_notFound
  split
  · exact ownerReply_answered _ _ _
  split
  · exact answered_transmitterActive
  · exact ownerReply_answered _ _ _

/-- The answer of a transmit route. -/
theorem txReply_answered (result : NetworkTxResult) (lease : UInt64)
    (keyed : Bool) :
    (txReply request Daemon.responseCapacity result lease keyed).Answered := by
  have hstate : ∀ b : Bool,
      (if b = true then "transmitting" else "reserved").Within 12 := by decide
  unfold txReply
  split
  · split
    · exact answered_json (by decide) (((within_self "\x7b\"lease\":").append
        (within_uint64 lease)).append (within_self
          ",\"state\":\"reserved\",\"lease_timeout_ms\":15000\x7d\n"))
        (by decide)
    · exact answered_json (by decide) (((within_self
        "\x7b\"state\":\"").append (hstate keyed)).append
        (within_self "\"\x7d\n")) (by decide)
  · cases result with
    | _ => exact answered_error (by decide) (by decide)

theorem txRoute_answered :
    (txRoute cb request radio Daemon.responseCapacity p).1.Answered := by
  unfold txRoute
  split
  · exact answered_notFound
  dsimp only
  split
  · exact Or.inr trivial
  split
  · refine Or.inl ?_
    show httpResponse "200 OK" "\x7b\"accepted\":true\x7d\n"
      Daemon.responseCapacity ≠ ""
    exact httpResponse_ne_empty (by decide) (by decide)
  · exact txReply_answered _ _ _

theorem compressorRoute_answered :
    (compressorRoute request Daemon.responseCapacity p).1.Answered := by
  unfold compressorRoute
  dsimp only
  split
  · exact answered_error (by decide) (by decide)
  split
  · exact answered_notFound
  split
  · exact answered_transmitterActive
  · exact answered_json (by decide) (((within_self
      "\x7b\"tx_compressor_enabled\":").append (within_boolText _)).append
      (within_self "\x7d\n")) (by decide)

/-- A setting of the transmitter is no longer than its bound. -/
theorem settingRoute_answered (path : CText) (minimum : ℕ) {maximum : ℕ}
    (hmaximum : maximum < 10 ^ 20) {name : String} (hname : name.Within 100)
    (store : ℕ → ApiController → ApiController) :
    (settingRoute request Daemon.responseCapacity path minimum maximum name
      store p).1.Answered := by
  unfold settingRoute
  cases hparsed : (parseUintSetting path request).filter
      fun value => minimum ≤ value && value ≤ maximum with
  | none => exact answered_error (by decide) (by decide)
  | some value =>
    have hvalue : value ≤ maximum := by
      have hrange := (Option.filter_eq_some_iff.mp hparsed).2
      simp only [Bool.and_eq_true, decide_eq_true_eq] at hrange
      exact hrange.2
    dsimp only
    split
    · exact answered_notFound
    split
    · exact answered_transmitterActive
    · exact answered_setting hname (within_toString
        (Nat.lt_of_le_of_lt hvalue hmaximum) (by decide))

theorem timeoutRoute_answered :
    (timeoutRoute request Daemon.responseCapacity p).1.Answered := by
  unfold timeoutRoute
  cases hparsed : (parseUintSetting txTimeoutPath request).filter
      fun s => txTimeoutMinSeconds ≤ s && s ≤ txTimeoutMaxSeconds with
  | none => exact answered_error (by decide) (by decide)
  | some seconds =>
    have hseconds : seconds ≤ txTimeoutMaxSeconds := by
      have hrange := (Option.filter_eq_some_iff.mp hparsed).2
      simp only [Bool.and_eq_true, decide_eq_true_eq] at hrange
      exact hrange.2
    dsimp only
    split
    · exact answered_notFound
    split
    · exact answered_transmitterActive
    · dsimp only
      split
      · exact answered_json (by decide) (((within_self
          "\x7b\"tx_timeout_seconds\":").append (within_toString (m := 4)
          (Nat.lt_of_le_of_lt hseconds (by decide)) (by decide))).append
          (within_self "\x7d\n")) (by decide)
      · exact answered_error (by decide) (by decide)

/-- The answer of a tune operation. -/
theorem tuneReply_answered {text : String} {n : ℕ} (htext : text.Within n)
    (hn : n ≤ 3900) (result : TuneResult) :
    (tuneReply text Daemon.responseCapacity result).Answered := by
  unfold tuneReply
  split
  · exact answered_json (by decide) htext hn
  · unfold tuneErrorReply
    cases result with
    | _ => exact answered_error (by decide) (by decide)

theorem tuneRoute_answered :
    (tuneRoute cb request radio Daemon.responseCapacity p).1.Answered := by
  unfold tuneRoute
  split
  · exact answered_notFound
  split
  · unfold tuneStart
    split
    · exact answered_error (by decide) (by decide)
    · exact tuneReply_answered (((within_self
        "\x7b\"tune_active\":true,\"lease\":").append
        (within_uint64 _)).append (within_self
        ",\"lease_timeout_ms\":15000,\"hard_limit_ms\":60000\x7d\n"))
        (by decide) _
  split
  · exact tuneReply_answered (within_self _) (by decide) _
  split
  · exact tuneReply_answered (within_self _) (by decide) _
  · exact answered_error (by decide) (by decide)

/-- A frequency of the radio has at most eight digits. -/
theorem within_frequency {frequencyHz : ℕ}
    (h : (rxFilterForFrequency frequencyHz).isNone = false) :
    (toString frequencyHz).Within 8 := by
  unfold rxFilterForFrequency at h
  split at h
  next hrange =>
    exact within_toString (Nat.lt_of_le_of_lt hrange.2 (by decide))
      (by decide)
  next => exact absurd h (by decide)


theorem frequencyRoute_answered {tuneRx : ℕ → ρ → (Int × ℕ) × ρ}
    (htune : ∀ frequencyHz w, (tuneRx frequencyHz w).1.1 = 0 →
      (tuneRx frequencyHz w).1.2 < 2 ^ 32) (frequencyHz : ℕ) :
    (frequencyRoute Daemon.responseCapacity tuneRx frequencyHz
      p).1.Answered := by
  unfold frequencyRoute
  split
  · exact answered_error (by decide) (by decide)
  next hrange =>
    rw [Bool.not_eq_true] at hrange
    dsimp only
    split
    next hok =>
      have hfilter : (toString (tuneRx frequencyHz p.world.radio).1.2).Within
          10 := within_toString (Nat.lt_of_lt_of_le
        (htune frequencyHz p.world.radio hok) (by decide)) (by decide)
      exact Or.inl (httpResponse_ne_empty (by decide)
        ((((((within_self "\x7b\"frequency_hz\":").append
          (within_frequency hrange)).append (within_self
          ",\"rx_filter\":")).append hfilter).append
          (within_self "\x7d\n")).mono (by decide)))
    next =>
      refine Or.inl ?_
      dsimp only [errorReply, jsonReply]
      exact httpResponse_ne_empty (by decide) (by decide)

/-- A gain of the table has a sign and two digits at most. -/
theorem gainRoute_answered (setRxGain : Int → ρ → Int × ρ) {gainDb : Int}
    (hgain : gainDb.natAbs < 10 ^ 2) :
    (gainRoute Daemon.responseCapacity setRxGain gainDb p).1.Answered := by
  unfold gainRoute
  dsimp only
  split
  · exact answered_json (by decide) (((within_self
      "\x7b\"rx_gain_db\":").append (within_toString_int hgain
      (by decide))).append (within_self "\x7d\n")) (by decide)
  · exact answered_error (by decide) (by decide)

/-- **The pages** are answered with where they fit. -/
theorem pageReply_answered (hpages : pages.Fit) :
    (pageReply request Daemon.responseCapacity pages).Answered := by
  obtain ⟨status, radio, rfl, hstatus, hradio⟩ := hpages
  unfold pageReply
  dsimp only
  split
  · exact answered_json (by decide) hstatus (by decide)
  split
  · exact answered_json (by decide) hradio (by decide)
  split
  · exact answered_error (by decide) (by decide)
  · exact answered_notFound

theorem lastRoutes_answered (hpages : pages.Fit) :
    (lastRoutes ops request Daemon.responseCapacity pages p).1.Answered := by
  unfold lastRoutes
  split
  next gainDb setRxGain hgain _ _ =>
    have hsmall : ∀ gain ∈ rxGains, gain.1.natAbs < 10 ^ 2 := by decide
    have hmem : ∃ gain ∈ rxGains, gain.1 = gainDb := by
      unfold parseRxGain at hgain
      simp only [Option.bind_eq_bind, Option.bind_eq_some_iff,
        Option.some.injEq] at hgain
      obtain ⟨_, _, gain, hfind, rfl⟩ := hgain
      exact ⟨gain, List.mem_of_find?_eq_some hfind, rfl⟩
    obtain ⟨gain, hmem, rfl⟩ := hmem
    exact gainRoute_answered setRxGain (hsmall gain hmem)
  split
  · exact answered_notFound
  split
  · exact Or.inr trivial
  split
  · exact Or.inr trivial
  · exact pageReply_answered hpages

/-- A mode that was asked for is one of the five. -/
theorem mem_of_parseRxMode {mode : String}
    (h : parseRxMode request = some mode) : mode ∈ rxModes := by
  unfold parseRxMode at h
  simp only [Option.bind_eq_bind, Option.bind_eq_some_iff] at h
  obtain ⟨_, _, hfind⟩ := h
  exact List.mem_of_find?_eq_some hfind

theorem streamRoutes_answered (hpages : pages.Fit) :
    (streamRoutes ops request Daemon.responseCapacity pages p).1.Answered := by
  unfold streamRoutes
  split
  · split
    next mode hmode =>
      have hbandwidth : modeBandwidth mode < 10 ^ 5 := by
        unfold modeBandwidth
        repeat' split
        all_goals decide
      exact answered_json (by decide) (((((within_self
        "\x7b\"rx_mode\":\"").append (within_rxMode (mem_of_parseRxMode
        hmode))).append (within_self "\",\"rx_bandwidth_hz\":")).append
        (within_toString hbandwidth (by decide))).append
        (within_self "\x7d\n")) (by decide)
    split
    next hz hbandwidth =>
      have hhz : hz < 10 ^ 5 := by
        unfold parseRxBandwidth at hbandwidth
        simp only [Option.bind_eq_bind, Option.bind_eq_some_iff,
          Option.ite_none_right_eq_some, Option.some.injEq] at hbandwidth
        obtain ⟨_, _, value, _, hrange, rfl⟩ := hbandwidth
        exact Nat.lt_of_le_of_lt hrange.2 (by decide)
      exact answered_json (by decide) (((within_self
        "\x7b\"rx_bandwidth_hz\":").append (within_toString hhz
        (by decide))).append (within_self "\x7d\n")) (by decide)
    split
    next db _ =>
      exact answered_json (by decide) (((within_self
        "\x7b\"rx_squelch_db\":").append (within_int32 db)).append
        (within_self "\x7d\n")) (by decide)
    next => exact lastRoutes_answered hpages
  · exact lastRoutes_answered hpages

theorem radioRoute_answered (hops : ops.Reports) (hpages : pages.Fit) :
    (radioRoute ops request Daemon.responseCapacity pages p).1.Answered := by
  unfold radioRoute
  split
  · exact answered_transmitterActive
  split
  next frequencyHz tuneRx _ htune _ =>
    exact frequencyRoute_answered (hops tuneRx htune) frequencyHz
  next => exact streamRoutes_answered hpages

/-- **Every request is answered** whose pages fit. -/
theorem dispatch_answered (hops : ops.Reports) (hpages : pages.Fit) :
    (dispatch cb ops request radio Daemon.responseCapacity pages
      p).1.Answered := by
  unfold dispatch
  split
  · exact ownerRoute_answered
  split
  · exact answered_error (by decide) (by decide)
  split
  · exact txRoute_answered
  split
  · exact compressorRoute_answered
  split
  · exact settingRoute_answered _ _ (by decide) (by decide) _
  split
  · exact settingRoute_answered _ _ (by decide) (by decide) _
  split
  · exact timeoutRoute_answered
  split
  · exact tuneRoute_answered
  · exact radioRoute_answered hops hpages

/-! ## Which controllers there are -/

section Modes

variable {capacity : ℕ}

/-- A setting of the transmitter leaves the mode alone. -/
theorem rxMode_settingRoute (path : CText) (minimum maximum : ℕ)
    (name : String) {store : ℕ → ApiController → ApiController}
    (hstore : ∀ value api, (store value api).rxMode = api.rxMode) :
    (settingRoute request capacity path minimum maximum name store
      p).2.world.api.rxMode = p.world.api.rxMode := by
  unfold settingRoute
  split
  · rfl
  split
  · rfl
  split
  · rfl
  · exact hstore _ _

theorem rxMode_compressorRoute :
    (compressorRoute request capacity p).2.world.api.rxMode
      = p.world.api.rxMode := by
  unfold compressorRoute
  dsimp only
  split
  · rfl
  split
  · rfl
  split
  · rfl
  · rfl

theorem rxMode_timeoutRoute :
    (timeoutRoute request capacity p).2.world.api.rxMode
      = p.world.api.rxMode := by
  unfold timeoutRoute
  split
  · rfl
  split
  · rfl
  split
  · rfl
  · rfl

theorem rxMode_lastRoutes :
    (lastRoutes ops request capacity pages p).2.world.api.rxMode
      = p.world.api.rxMode := by
  unfold lastRoutes
  split
  · rfl
  split
  · rfl
  split
  · rfl
  split
  · rfl
  · rfl

/-- The receiver's routes change the mode to one of the five at most. -/
theorem rxMode_radioRoute (hmode : p.world.api.rxMode ∈ rxModes) :
    (radioRoute ops request capacity pages p).2.world.api.rxMode
      ∈ rxModes := by
  have hlast : (lastRoutes ops request capacity pages p).2.world.api.rxMode
      ∈ rxModes := by
    rw [rxMode_lastRoutes]
    exact hmode
  unfold radioRoute
  split
  · exact hmode
  split
  · unfold frequencyRoute
    split
    · exact hmode
    · exact hmode
  · unfold streamRoutes
    split
    · split
      next mode hparsed => exact mem_of_parseRxMode hparsed
      split
      · exact hmode
      split
      · exact hmode
      · exact hlast
    · exact hlast

/-- **A request leaves a mode that is one of the five.** -/
theorem rxMode_dispatch (hcb : cb.KeepsApi)
    (hmode : p.world.api.rxMode ∈ rxModes) :
    (dispatch cb ops request radio capacity pages p).2.world.api.rxMode
      ∈ rxModes := by
  have hkept {q : TxPlane (ApiWorld ρ)} (hq : q.settings = p.settings) :
      q.world.api.rxMode ∈ rxModes := by
    have hsame : q.world.api.rxMode = p.world.api.rxMode :=
      congrArg TxSettings.rxMode hq
    rw [hsame]
    exact hmode
  unfold dispatch
  split
  · exact hkept settings_ownerRoute
  split
  · exact hmode
  split
  · exact hkept (settings_txRoute hcb)
  split
  · rw [rxMode_compressorRoute]
    exact hmode
  split
  · have hdrive : (driveRoute request capacity p).2.world.api.rxMode
        = p.world.api.rxMode := rxMode_settingRoute _ _ _ _ fun _ _ => rfl
    rw [hdrive]
    exact hmode
  split
  · have hgain : (micGainRoute request capacity p).2.world.api.rxMode
        = p.world.api.rxMode := rxMode_settingRoute _ _ _ _ fun _ _ => rfl
    rw [hgain]
    exact hmode
  split
  · rw [rxMode_timeoutRoute]
    exact hmode
  split
  · exact hkept (settings_tuneRoute hcb)
  · exact rxMode_radioRoute hmode

end Modes

end Api

/-- **The controllers a daemon can have**: one just initialised, with whatever
is attached to it and wherever its leases begin, one at another time, and one
that a request leaves, whatever the request finds beside it. -/
inductive ApiController.Reachable : ApiController → Prop where
  | init (rxTuningEnabled iqStreamActive testPageEnabled : Bool)
      (tuneAttached networkAttached stationAttached : Bool)
      (nextTuneLease nextTxLease nextStationLease : UInt64) :
      Reachable
        { ApiController.init rxTuningEnabled iqStreamActive testPageEnabled with
          tuneAttached := tuneAttached
          networkAttached := networkAttached
          stationAttached := stationAttached
          nextTuneLease := nextTuneLease
          nextTxLease := nextTxLease
          nextStationLease := nextStationLease }
  | clock {api : ApiController} (h : Reachable api) (nowMs : UInt64) :
      Reachable { api with requestNowMs := nowMs }
  | request {ρ : Type} {cb : TxCallbacks (TxContext (ApiWorld ρ))}
      {ops : RadioOps ρ} {p : TxPlane (ApiWorld ρ)}
      (h : Reachable p.world.api) (hcb : cb.KeepsApi) (request : CText)
      (radio : RadioInfo) (capacity : ℕ) (pages : ApiPages) :
      Reachable
        (Api.dispatch cb ops request radio capacity pages p).2.world.api

/-- Whatever a controller was asked for, its mode is one of the five. -/
theorem ApiController.Reachable.rxMode {api : ApiController}
    (h : api.Reachable) : api.rxMode ∈ rxModes := by
  induction h with
  | init => exact List.mem_cons_self ..
  | clock _ _ ih => exact ih
  | request _ hcb _ _ _ _ ih => exact Api.rxMode_dispatch hcb ih

/-- **The daemon's controller** is one of these at any time. -/
theorem Daemon.reachable_after (config : DaemonConfig)
    (answers : ℕ → UsbAnswer) (blocks : List (LoopBlock × LoopInput)) :
    ((boot config answers).after config blocks).plane.world.api.Reachable := by
  have hblock (d : Daemon) (block : LoopBlock) (input : LoopInput)
      (h : d.plane.Coherent ∧ d.plane.world.api.Reachable) :
      (d.perform config block input).plane.Coherent
        ∧ (d.perform config block input).plane.world.api.Reachable := by
    refine ⟨coherent_perform config block input h.1, ?_⟩
    obtain ⟨hapi, -⟩ | ⟨buffer, hapi, -⟩ :=
      perform_world config input h.1 block
    · rw [hapi]
      exact h.2
    · rw [hapi]
      exact .request (h.2.clock input.requestMs)
        (keepsApi_daemonCallbacks config.carriesDc) _ _ _ _
  have hboot : (boot config answers).plane.world.api.Reachable := by
    obtain ⟨receiver, running, hboot⟩ := boot_eq_initial config answers
    rw [hboot]
    exact .init _ _ _ _ _ _ _ _ _
  have hafter := after_invariant
    (fun d => d.plane.Coherent ∧ d.plane.world.api.Reachable) hblock blocks
    ⟨coherent_boot config answers, hboot⟩
  exact hafter.2

/-! ## The law -/

/-- A tune that succeeds selects a filter of the table. -/
theorem UsbRx.rxFilter_tune {r : UsbRx} {frequencyHz filter : ℕ}
    (hok : (r.tune frequencyHz).1 = 0)
    (hfilter : (r.tune frequencyHz).2.rxFilter = some filter) :
    filter ≤ 11 := by
  have hrange {f : ℕ} {command : RadioCommand}
      (h : rxFilterRequestForFrequency frequencyHz = some (f, command)) :
      f ≤ 11 := by
    unfold rxFilterRequestForFrequency buildRxFilterRequest at h
    obtain ⟨g, -, hg⟩ := Option.bind_eq_some_iff.mp h
    split at hg
    next => exact absurd hg (by simp)
    next hbound =>
      obtain ⟨_, -, hpair⟩ := Option.map_eq_some_iff.mp hg
      rw [← (Prod.mk.inj hpair).1]
      exact Nat.not_lt.mp hbound
  have hkept (s : UsbRx) (request : Option (ℕ × RadioCommand)) :
      (s.followPaFilter request).2.rxFilter = s.rxFilter := by
    unfold followPaFilter
    split
    · rfl
    split
    · rfl
    · rfl
  have hinvalid : libusbErrorInvalidParam ≠ 0 := by decide
  unfold tune at hok hfilter
  split at hok
  · exact absurd hok hinvalid
  next hready =>
    rw [if_neg hready] at hfilter
    split at hok
    swap
    · exact absurd hok hinvalid
    next hinRange =>
      rw [dif_pos hinRange] at hfilter
      dsimp only at hok hfilter
      split at hok
      · exact absurd hok hinvalid
      next f request hrequest =>
        rw [hrequest] at hfilter
        dsimp only at hfilter
        split at hok
        · exact absurd hok hinvalid
        next hpa =>
          rw [if_neg hpa] at hfilter
          split at hok
          next hfailed => exact absurd hok hfailed
          next htuned =>
            rw [if_neg htuned] at hfilter
            split at hok
            next hfailed => exact absurd hok hfailed
            next hfiltered =>
              rw [if_neg hfiltered, hkept] at hfilter
              rw [← Option.some.inj hfilter]
              exact hrange hrequest

/-- The daemon's callbacks report such a filter. -/
theorem reports_daemonOps : daemonOps.Reports := by
  rintro tuneRx htune frequencyHz tx hok
  obtain rfl : apiTuneRx = tuneRx := by simpa [daemonOps] using htune
  unfold apiTuneRx at hok ⊢
  dsimp only at hok ⊢
  split at hok
  next => exact absurd hok (by decide)
  next hsucceeded =>
    rw [not_or, not_not] at hsucceeded
    obtain ⟨filter, hfilter⟩ := Option.ne_none_iff_exists'.mp hsucceeded.2
    rw [hfilter]
    exact Nat.lt_of_le_of_lt (UsbRx.rxFilter_tune hsucceeded.1 hfilter)
      (by decide)

section Law

variable {ρ φ : Type} {oneDecimal : φ → String} {status : ServiceStatus φ}
variable {radio : RadioRecord} {p : TxPlane (ApiWorld ρ)}

/-- The pages as they are printed. -/
theorem apiPages_eq (hstatus : status.Presentable oneDecimal)
    (hradio : radio.OfDaemon) (hapi : p.world.api.Reachable) :
    apiPages oneDecimal status radio p
      = { status := pageText (status.members oneDecimal)
          radio := pageText (radio.presented p).members } := by
  rw [apiPages, buildStatusJson_eq_some hstatus,
    buildRadioJson_eq_some (named_presented hradio hapi.rxMode)]

/-- **The pages leave room for a header.** -/
theorem apiPages_fit (hstatus : status.Presentable oneDecimal)
    (hradio : radio.OfDaemon) (hapi : p.world.api.Reachable) :
    (apiPages oneDecimal status radio p).Fit :=
  ⟨_, _, apiPages_eq hstatus hradio hapi,
    (within_pageText _).mono (Nat.le_trans
      (Nat.add_le_add_left (budget_status hstatus) 4) (by decide)),
    (within_pageText _).mono (Nat.le_trans (Nat.add_le_add_left
      (budget_radio (named_presented hradio hapi.rxMode)) 4) (by decide))⟩

/-- **Responses always fit**: in every state of the dispatcher, with the
counters, the owner and the session as they may be, both pages fit their
buffers and so do the responses that carry them, and every request is
answered. -/
theorem Api.responses_fit (cb : TxCallbacks (TxContext (ApiWorld ρ)))
    {ops : RadioOps ρ} (hops : ops.Reports)
    (hstatus : status.Presentable oneDecimal) (hradio : radio.OfDaemon)
    (hapi : p.world.api.Reachable) :
    ∃ statusJson radioJson,
      buildStatusJson oneDecimal status statusCapacity = some statusJson
        ∧ buildRadioJson (radio.presented p) radioCapacity = some radioJson
        ∧ httpResponse "200 OK" statusJson Daemon.responseCapacity ≠ ""
        ∧ httpResponse "200 OK" radioJson Daemon.responseCapacity ≠ ""
        ∧ ∀ request, (Api.dispatch cb ops request radio.info
            Daemon.responseCapacity (apiPages oneDecimal status radio p)
            p).1.Answered := by
  obtain ⟨statusJson, radioJson, hpages, hstatusJson, hradioJson⟩ :=
    apiPages_fit hstatus hradio hapi
  have hstatusPage : buildStatusJson oneDecimal status statusCapacity
      = some statusJson := congrArg ApiPages.status hpages
  have hradioPage : buildRadioJson (radio.presented p) radioCapacity
      = some radioJson := congrArg ApiPages.radio hpages
  exact ⟨statusJson, radioJson, hstatusPage, hradioPage,
    httpResponse_ne_empty (by decide) hstatusJson,
    httpResponse_ne_empty (by decide) hradioJson,
    fun request => Api.dispatch_answered hops
      (apiPages_fit hstatus hradio hapi)⟩

/-- A status with one number in each of its counters, its meters counting
tenths of a decibel. -/
def uniformStatus (n : UInt64) : ServiceStatus ℤ :=
  ⟨some "0.9.0", none, "receiving", true, true, 48000, n, n, n, n, n, n, n, n,
    n, n, n, n, n, n, n, n, n, n, n, n, n, n, n, n, n, n, n, n, n, n, n, n, n,
    n, n, n, n, n, n, n, n, n, n, n, n, n, n, n, n, n, n, n, n, n, true,
    -1200, -1200, -1200, -1200, -1200, -1200, n, n, n⟩

/-- The daemon just started, with every counter at its last value. -/
theorem Api.responses_fit_full :
    let config : DaemonConfig :=
      { rxTuningEnabled := true, testPageEnabled := true
        transmitEnabled := true, rtlTcpEnabled := true
        tuneLease := 1, txLease := 1, stationLease := 1
        carriesDc := fun _ => false }
    let d := Daemon.initial config (UsbRx.create fun _ => {}) true
    let oneDecimal := fun tenths : ℤ =>
      toString (tenths / 10) ++ "." ++ toString (tenths % 10)
    let status := uniformStatus 0xFFFFFFFFFFFFFFFF
    ∃ statusJson radioJson,
      buildStatusJson oneDecimal status statusCapacity = some statusJson
        ∧ buildRadioJson (radioInfo.presented d.plane) radioCapacity
          = some radioJson
        ∧ httpResponse "200 OK" statusJson Daemon.responseCapacity ≠ ""
        ∧ httpResponse "200 OK" radioJson Daemon.responseCapacity ≠ ""
        ∧ ∀ request, (dispatch (daemonCallbacks config.carriesDc) daemonOps
            request radioInfo.info Daemon.responseCapacity
            (apiPages oneDecimal status radioInfo d.plane)
            d.plane).1.Answered :=
  responses_fit _ reports_daemonOps
    { softwareVersion := by decide
      gitRevision := by decide
      state := by decide
      meters := by decide }
    (Or.inl rfl) (.init _ _ _ _ _ _ _ _ _)

/-- **The daemon answers** every request it can be asked at any time, with
the pages printed for it. -/
theorem Daemon.answered_request (config : DaemonConfig)
    (answers : ℕ → UsbAnswer) (blocks : List (LoopBlock × LoopInput))
    (hstatus : status.Presentable oneDecimal) (input : LoopInput)
    (buffer : List UInt8) :
    let d := (boot config answers).after config blocks
    let printed := { input with
      pages := apiPages oneDecimal status
        (liveRadioInfo d.tx.receiver config.transmitEnabled)
        (d.asked input) }
    (d.answered config printed buffer).1.Answered := by
  intro d printed
  have hapi : (d.asked input).world.api.Reachable :=
    (reachable_after config answers blocks).clock input.requestMs
  exact Api.dispatch_answered reports_daemonOps
    (apiPages_fit hstatus (Or.inr ⟨_, _, rfl⟩) hapi)

end Law
