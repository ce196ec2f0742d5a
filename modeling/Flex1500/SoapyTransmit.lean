import Flex1500.Lib.Run
import Flex1500.SoapyReceive

/-!
# Writing a Soapy stream

`writeStream` turns elements into frames of four bytes and sends them down
the tunnel. Up to 4096 frames are the pre-roll, which is sent at once; then
the radio is keyed, and from there on the frames go no faster than they are
used up. The application is told how many elements were taken and offers the
others again.

The send loop may give up – at its deadline, or on an error – after any
number of bytes, and then it reports none of them. The call that completes
the pre-roll keys the radio behind the send, and where that is refused it
reports an error and not the frames it sent. In both cases the tunnel has
bytes the application does not know of. `TxRun.integral_always_iff` says
that these are the only cases.

Clock readings are in microseconds. Each of the loops is given what it meets
as a list; one whose list is over has met its deadline. The values of the
error codes are those of the Soapy headers.
-/

open ByteOrder

/-! ## Frames of the tunnel -/

/-- `SOAPY_SDR_TIMEOUT`. -/
def soapySdrTimeout : ℤ := -1

/-- `SOAPY_SDR_STREAM_ERROR`. -/
def soapySdrStreamError : ℤ := -2

/-- `SOAPY_SDR_NOT_SUPPORTED`. -/
def soapySdrNotSupported : ℤ := -5

/-- `TX_PREBUFFER_FRAMES`. -/
def txPrebufferFrames : ℕ := 4096

/-- `TX_PACING_LEAD_FRAMES`. -/
def txPacingLeadFrames : ℕ := 4096

/-- What the transmitter does with floats. -/
structure SoapyTxFloats (F : Type*) where
  isFinite : F → Bool
  neg : F → F
  /-- `std::lround(value * 32767.0f)`. -/
  scaled : F → ℤ

namespace SoapyTxFloats

variable {F : Type*} (floats : SoapyTxFloats F)

/-- `normalizedS16`. -/
def normalizedS16 (value : F) : Int16 :=
  if !floats.isFinite value then 0
  else Int16.ofInt (max (-32768) (min 32767 (floats.scaled value)))

/-- A frame: an element of either format as two numbers of two bytes. -/
def frame : SoapyElement F → List UInt8
  | .cf32 re im =>
    le16 (floats.normalizedS16 re).toUInt16
      ++ le16 (floats.normalizedS16 (floats.neg im)).toUInt16
  | .cs16 re im =>
    le16 re.toUInt16
      ++ le16 (if im = Int16.minValue then Int16.maxValue else -im).toUInt16

/-- **A frame has four bytes.** -/
@[simp] theorem length_frame (element : SoapyElement F) :
    (floats.frame element).length = 4 := by
  cases element with
  | cf32 => rfl
  | cs16 => rfl

theorem length_frames (elements : List (SoapyElement F)) :
    (elements.flatMap floats.frame).length = 4 * elements.length := by
  induction elements with
  | nil => rfl
  | cons element elements ih =>
    rw [List.flatMap_cons, List.length_append, length_frame, ih,
      List.length_cons]
    omega

end SoapyTxFloats

/-! ## What a call meets -/

/-- How the wait for the socket ended. -/
inductive TxPoll where
  | writable | timedOut | failed
  deriving DecidableEq, Repr

/-- What `send` answers, and where it has no room, the clock behind it and
how the wait went. -/
inductive TxAnswer where
  | took (count : ℕ)
  | interrupted
  | blocked (now : ℕ) (poll : TxPoll)
  | failed
  deriving DecidableEq, Repr

/-- A reply to `PUT /v1/tx/ptt/start`, whether it says `tx_not_ready`, and
the clock behind it. -/
structure TxKeyReply where
  status : ℕ
  notReady : Bool := false
  now : ℕ := 0
  deriving DecidableEq, Repr

/-- **A call of `writeStream`**: its buffer, flags and timeout, and what it
meets: the clock and the reply of its keepalive, and for each loop the clock
at its beginning and what it is answered. A request that threw has no reply.
The pacing reads the clock twice, for the budget and for the deadline. -/
structure TxCall (F : Type*) where
  elements : List (SoapyElement F)
  flags : ℤ := 0
  timeoutUs : ℤ := 100000
  now : ℕ := 0
  keepalive : Option ℕ := some 200
  keyStarted : ℕ := 0
  keyReplies : List (Option TxKeyReply) := []
  paceStarted : ℕ := 0
  paceLooks : List (ℕ × ℕ) := []
  sendStarted : ℕ := 0
  sendAnswers : List TxAnswer := []
  deriving DecidableEq, Repr

namespace TxCall

variable {F : Type*}

/-- Whether a loop that began then is over its time (`elapsed >= timeoutUs`,
where there is a timeout). -/
def expired (call : TxCall F) (started now : ℕ) : Bool :=
  0 ≤ call.timeoutUs && call.timeoutUs ≤ ((now - started : ℕ) : ℤ)

end TxCall

/-- What `writeStream` ends with. -/
inductive TxReturn where
  | code (value : ℤ)
  | threw
  deriving DecidableEq, Repr

/-- The elements reported as taken. -/
def TxReturn.taken : TxReturn → ℕ
  | .code value => value.toNat
  | .threw => 0

/-! ## The stream -/

/-- What a `TxStream` counts, and when it was last kept alive and keyed. -/
structure SoapyTxStream where
  submittedFrames : ℕ := 0
  pacedFrames : ℕ := 0
  active : Bool := false
  keyed : Bool := false
  lastKeepalive : ℕ := 0
  paceEpoch : ℕ := 0
  deriving DecidableEq, Repr

/-- A number as an `int`. -/
def asInt (n : ℕ) : ℤ :=
  Int.bmod n (2 ^ 32)

namespace SoapyTxStream

variable {F : Type*} (floats : SoapyTxFloats F) (call : TxCall F)

/-- A stream that `activateTx` has just connected. -/
def activated (now : ℕ) : SoapyTxStream where
  active := true
  lastKeepalive := now

/-- `keepTxAlive`, or nothing where the request threw. -/
def keepTxAlive (s : SoapyTxStream) : Option Bool × SoapyTxStream :=
  if call.now - s.lastKeepalive < 5000000 then (some true, s)
  else
    match call.keepalive with
    | none => (none, s)
    | some status =>
      if status ≠ 200 then (some false, s)
      else (some true, { s with lastKeepalive := call.now })

/-- The loop of `keyTx`. -/
def keyLoop : List (Option TxKeyReply) → SoapyTxStream →
    TxReturn × SoapyTxStream
  | [], s => (.code soapySdrTimeout, s)
  | none :: _, s => (.threw, s)
  | some reply :: replies, s =>
    if reply.status = 200 then
      (.code 0,
        { s with keyed := true, pacedFrames := 0, paceEpoch := reply.now })
    else if reply.status ≠ 409 ∨ reply.notReady = false then
      (.code soapySdrStreamError, s)
    else if call.expired call.keyStarted reply.now then
      (.code soapySdrTimeout, s)
    else keyLoop replies s

/-- `keyTx`. -/
def keyTx (s : SoapyTxStream) : TxReturn × SoapyTxStream :=
  keyLoop call call.keyReplies s

/-- The frames that may be sent by then (`budget`). -/
def budget (now : ℕ) (s : SoapyTxStream) : ℕ :=
  (now - s.paceEpoch) * 48000 % 2 ^ 64 / 1000000 + txPacingLeadFrames

/-- The loop of `paceTx`. -/
def paceLoop (requested : ℕ) (s : SoapyTxStream) : List (ℕ × ℕ) → ℤ
  | [] => soapySdrTimeout
  | (now, later) :: looks =>
    if s.pacedFrames < s.budget now then
      asInt (min requested (s.budget now - s.pacedFrames))
    else if call.expired call.paceStarted later then soapySdrTimeout
    else paceLoop requested s looks

/-- `paceTx`. -/
def paceTx (s : SoapyTxStream) : ℤ :=
  paceLoop call call.elements.length s call.paceLooks

/-- The loop of `sendTxBytes` on the bytes that are left: its result and the
bytes it put on the tunnel. -/
def sendLoop : List TxAnswer → List UInt8 → ℤ × List UInt8
  | _, [] => (0, [])
  | [], _ => (soapySdrTimeout, [])
  | .took count :: answers, bytes =>
    let rest := sendLoop answers (bytes.drop count)
    (rest.1, bytes.take count ++ rest.2)
  | .interrupted :: answers, bytes => sendLoop answers bytes
  | .failed :: _, _ => (soapySdrStreamError, [])
  | .blocked now poll :: answers, bytes =>
    if call.expired call.sendStarted now then (soapySdrTimeout, [])
    else
      match poll with
      | .timedOut => (soapySdrTimeout, [])
      | .failed => (soapySdrStreamError, [])
      | .writable => sendLoop answers bytes

/-- `sendTxBytes`. -/
def sendTxBytes (bytes : List UInt8) : ℤ × List UInt8 :=
  sendLoop call call.sendAnswers bytes

/-- The part of `writeStream` in front of the frames: what it returns there,
if it does. -/
def begun (s : SoapyTxStream) : Option TxReturn × SoapyTxStream :=
  if !s.active then (some (.code soapySdrStreamError), s)
  else if call.flags ≠ 0 then (some (.code soapySdrNotSupported), s)
  else if call.elements = [] then (some (.code 0), s)
  else
    let alive := s.keepTxAlive call
    match alive.1 with
    | none => (some .threw, alive.2)
    | some false => (some (.code soapySdrStreamError), alive.2)
    | some true =>
      let s := alive.2
      if !s.keyed && decide (txPrebufferFrames ≤ s.submittedFrames) then
        let keyed := s.keyTx call
        if keyed.1 ≠ .code 0 then (some keyed.1, keyed.2) else (none, keyed.2)
      else (none, s)

/-- The number of frames the call may send, or the error of the pacing. -/
def frames (s : SoapyTxStream) : ℤ :=
  if !s.keyed then
    (min call.elements.length (txPrebufferFrames - s.submittedFrames) : ℕ)
  else s.paceTx call

/-- The frames are counted. -/
def counted (frames : ℕ) (s : SoapyTxStream) : SoapyTxStream :=
  { s with
    submittedFrames := s.submittedFrames + frames
    pacedFrames := if s.keyed then s.pacedFrames + frames else s.pacedFrames }

/-- The part of `writeStream` from the conversion on, with what it put on the
tunnel. -/
def submit (frames : ℕ) (s : SoapyTxStream) :
    TxReturn × SoapyTxStream × List UInt8 :=
  let sent :=
    sendTxBytes call ((call.elements.take frames).flatMap floats.frame)
  if sent.1 < 0 then (.code sent.1, s, sent.2)
  else
    let s := s.counted frames
    if !s.keyed && decide (txPrebufferFrames ≤ s.submittedFrames) then
      let keyed := s.keyTx call
      if keyed.1 ≠ .code 0 ∧ keyed.1 ≠ .code soapySdrTimeout then
        (keyed.1, keyed.2, sent.2)
      else (.code (asInt frames), keyed.2, sent.2)
    else (.code (asInt frames), s, sent.2)

/-- `writeStream`, given a buffer. -/
def writeStream (s : SoapyTxStream) : TxReturn × SoapyTxStream × List UInt8 :=
  let begun := s.begun call
  match begun.1 with
  | some result => (result, begun.2, [])
  | none =>
    let s := begun.2
    if s.frames call < 0 then (.code (s.frames call), s, [])
    else s.submit floats call (s.frames call).toNat

end SoapyTxStream

/-! ## The send loop -/

namespace TxCall

variable {F : Type*} (call : TxCall F)

/-- Whether the send loop gives up on an answer. -/
def givesUp : TxAnswer → Bool
  | .took _ => false
  | .interrupted => false
  | .failed => true
  | .blocked now poll =>
    call.expired call.sendStarted now || poll != .writable

/-- The bytes an answer takes. -/
def count : TxAnswer → ℕ
  | .took count => count
  | _ => 0

/-- The bytes the socket has room for before the loop gives up. -/
def room : List TxAnswer → ℕ
  | [] => 0
  | answer :: answers =>
    if call.givesUp answer then 0 else count answer + room answers

/-- **The socket takes a part only**: some of so many bytes and not all of
them, before the send loop gives up. -/
def Cuts (length : ℕ) : Prop :=
  0 < call.room call.sendAnswers ∧ call.room call.sendAnswers < length

end TxCall

namespace SoapyTxStream

variable {F : Type*} {floats : SoapyTxFloats F} {call : TxCall F}
  {s : SoapyTxStream}

theorem sendLoop_nil (answers : List TxAnswer) :
    sendLoop call answers [] = (0, []) := by
  cases answers with
  | nil => rfl
  | cons answer answers => cases answer <;> rfl

/-- **The send loop** puts as many bytes on the tunnel as there is room for,
and succeeds where these are all. -/
theorem sendLoop_spec (call : TxCall F) (answers : List TxAnswer)
    (bytes : List UInt8) :
    (sendLoop call answers bytes).2 = bytes.take (call.room answers) ∧
      (bytes.length ≤ call.room answers →
        (sendLoop call answers bytes).1 = 0) ∧
      (call.room answers < bytes.length →
        (sendLoop call answers bytes).1 < 0) := by
  induction answers generalizing bytes with
  | nil =>
    cases bytes with
    | nil => exact ⟨rfl, fun _ => rfl, fun h => absurd h (Nat.lt_irrefl 0)⟩
    | cons byte bytes =>
      exact ⟨rfl, fun h => absurd h (Nat.not_succ_le_zero _),
        fun _ => show soapySdrTimeout < 0 by decide⟩
  | cons answer answers ih =>
    by_cases hbytes : bytes = []
    · rw [hbytes, sendLoop_nil]
      exact ⟨List.take_nil.symm, fun _ => rfl,
        fun h => absurd h (Nat.not_lt_zero _)⟩
    obtain ⟨byte, more, rfl⟩ := List.exists_cons_of_ne_nil hbytes
    -- an answer that ends the loop leaves no room, one that does not adds its
    -- own
    have hstop (code : ℤ) (hcode : code < 0) (h : call.givesUp answer = true) :
        ([] : List UInt8) =
            (byte :: more).take (call.room (answer :: answers)) ∧
          ((byte :: more).length ≤ call.room (answer :: answers) → code = 0) ∧
          (call.room (answer :: answers) < (byte :: more).length →
            code < 0) := by
      rw [show call.room (answer :: answers) = 0 from if_pos h]
      exact ⟨rfl, fun hle => absurd hle (Nat.not_succ_le_zero _), fun _ => hcode⟩
    have hgo (h : call.givesUp answer = false) :
        call.room (answer :: answers) =
          TxCall.count answer + call.room answers :=
      if_neg (by rw [h]; exact Bool.false_ne_true)
    cases answer with
    | took n =>
      rw [hgo rfl, show TxCall.count (.took n) = n from rfl]
      obtain ⟨hput, hdone, hfailed⟩ := ih ((byte :: more).drop n)
      rw [List.length_drop] at hdone hfailed
      refine ⟨?_, fun h => hdone (by omega), fun h => hfailed (by omega)⟩
      show (byte :: more).take n ++ (sendLoop call answers _).2 = _
      rw [hput]
      exact List.take_add.symm
    | interrupted =>
      rw [hgo rfl, show TxCall.count .interrupted = 0 from rfl, Nat.zero_add]
      exact ih _
    | failed => exact hstop soapySdrStreamError (by decide) rfl
    | blocked now poll =>
      unfold sendLoop
      by_cases hexpired : call.expired call.sendStarted now = true
      · rw [if_pos hexpired]
        exact hstop soapySdrTimeout (by decide) (by
          simp [TxCall.givesUp, hexpired])
      rw [if_neg hexpired]
      cases poll with
      | timedOut =>
        exact hstop soapySdrTimeout (by decide) (by simp [TxCall.givesUp])
      | failed =>
        exact hstop soapySdrStreamError (by decide) (by simp [TxCall.givesUp])
      | writable =>
        rw [hgo (by simp [TxCall.givesUp, hexpired]),
          show TxCall.count (.blocked now .writable) = 0 from rfl,
          Nat.zero_add]
        exact ih _

end SoapyTxStream

/-! ## Keying and pacing -/

namespace TxCall

variable {F : Type*} (call : TxCall F)

/-- Whether the first reply that decides is neither the start nor, in time,
a request for patience: the radio is not keyed, and not for want of time. -/
def refuses : List (Option TxKeyReply) → Bool
  | [] => false
  | none :: _ => true
  | some reply :: replies =>
    if reply.status = 200 then false
    else if reply.status ≠ 409 ∨ reply.notReady = false then true
    else if call.expired call.keyStarted reply.now then false
    else refuses replies

/-- **The request to key is refused**, or throws. -/
def Refused : Prop :=
  call.refuses call.keyReplies = true

end TxCall

namespace SoapyTxStream

variable {F : Type*} {floats : SoapyTxFloats F} {call : TxCall F}
  {s : SoapyTxStream}

/-- **What keying does**: the radio is keyed where it returns zero, and
nothing changes else. No code it returns is positive. -/
structure Keys (refused : Bool) (s : SoapyTxStream)
    (keyed : TxReturn × SoapyTxStream) : Prop where
  started : keyed.1 = .code 0 → keyed.2.keyed = true
  otherwise : keyed.1 ≠ .code 0 → keyed.2 = s
  submitted : keyed.2.submittedFrames = s.submittedFrames
  none_taken : keyed.1.taken = 0
  refused : (keyed.1 ≠ .code 0 ∧ keyed.1 ≠ .code soapySdrTimeout) ↔
    refused = true

/-- The deadline is no refusal. -/
theorem keys_timeout : Keys false s (.code soapySdrTimeout, s) where
  started h := absurd h
    (show TxReturn.code soapySdrTimeout ≠ .code 0 by decide)
  otherwise _ := rfl
  submitted := rfl
  none_taken := rfl
  refused := iff_of_false (fun h => h.2 rfl) Bool.false_ne_true

/-- Anything but zero and the deadline is one. -/
theorem keys_refused {result : TxReturn} (hzero : result ≠ .code 0)
    (htimeout : result ≠ .code soapySdrTimeout) (htaken : result.taken = 0) :
    Keys true s (result, s) where
  started h := absurd h hzero
  otherwise _ := rfl
  submitted := rfl
  none_taken := htaken
  refused := iff_of_true ⟨hzero, htimeout⟩ rfl

theorem keys_keyLoop (replies : List (Option TxKeyReply)) :
    Keys (call.refuses replies) s (keyLoop call replies s) := by
  induction replies with
  | nil => exact keys_timeout
  | cons reply replies ih =>
    cases reply with
    | none => exact keys_refused (by decide) (by decide) rfl
    | some reply =>
      unfold keyLoop TxCall.refuses
      split
      · exact ⟨fun _ => rfl, fun h => absurd rfl h, rfl, rfl,
          iff_of_false (fun h => h.1 rfl) Bool.false_ne_true⟩
      split
      · exact keys_refused (by decide) (by decide) rfl
      split
      · exact keys_timeout
      · exact ih

theorem keys_keyTx (call : TxCall F) (s : SoapyTxStream) :
    Keys (call.refuses call.keyReplies) s (s.keyTx call) :=
  keys_keyLoop _

theorem asInt_eq (n : ℕ) :
    asInt n = if (n : ℤ) % 4294967296 < 2147483648 then (n : ℤ) % 4294967296
      else (n : ℤ) % 4294967296 - 4294967296 := rfl

/-- An `int` is no more than the number it was. -/
theorem asInt_le {n : ℕ} (h : 0 ≤ asInt n) : asInt n ≤ n := by
  rw [asInt_eq] at *
  split at h <;> omega

/-- An `int` is itself as a number. -/
theorem asInt_toNat {n : ℤ} (hlow : 0 ≤ n) (hhigh : n < 2 ^ 31) :
    asInt n.toNat = n := by
  rw [asInt_eq]
  split <;> omega

theorem asInt_lt (n : ℕ) : asInt n < 2 ^ 31 := by
  rw [asInt_eq]
  split <;> omega

/-- What the pacing allows is no more than was asked for, and an `int`. -/
theorem paceLoop_le {requested : ℕ} (looks : List (ℕ × ℕ))
    (h : 0 ≤ paceLoop call requested s looks) :
    paceLoop call requested s looks ≤ requested ∧
      paceLoop call requested s looks < 2 ^ 31 := by
  induction looks with
  | nil => exact absurd h (show ¬ 0 ≤ soapySdrTimeout by decide)
  | cons look looks ih =>
    unfold paceLoop at h ⊢
    split at h
    · next hbudget =>
      rw [if_pos hbudget]
      refine ⟨(asInt_le h).trans ?_, asInt_lt _⟩
      exact Int.ofNat_le.mpr (Nat.min_le_left _ _)
    · next hbudget =>
      rw [if_neg hbudget]
      split at h
      · exact absurd h (by decide)
      · next hexpired =>
        rw [if_neg hexpired]
        exact ih h

end SoapyTxStream

/-! ## One call -/

namespace SoapyTxStream

variable {F : Type*} {floats : SoapyTxFloats F} {call : TxCall F}
  {s : SoapyTxStream}

/-- **The pre-roll is not exceeded** before the radio is keyed. -/
def Prerolls (s : SoapyTxStream) : Prop :=
  s.keyed = false → s.submittedFrames ≤ txPrebufferFrames

/-- **How a call begins**: where it returns at once it has taken nothing, and
where it goes on without a keyed radio the pre-roll has room. -/
structure Begins (call : TxCall F) (s : SoapyTxStream)
    (begun : Option TxReturn × SoapyTxStream) : Prop where
  elements : begun.1 = none → call.elements ≠ []
  none_taken : ∀ result ∈ begun.1, result.taken = 0
  prerolls : s.Prerolls → begun.2.Prerolls
  room : begun.1 = none → begun.2.keyed = false →
    begun.2.submittedFrames < txPrebufferFrames

/-- Returning leaves the stream to the next call. -/
theorem begins_return {result : TxReturn} {s' : SoapyTxStream}
    (htaken : result.taken = 0) (hprerolls : s.Prerolls → s'.Prerolls) :
    Begins call s (some result, s') where
  elements h := absurd h (Option.some_ne_none _)
  none_taken r hr := by
    obtain rfl := Option.some.inj hr
    exact htaken
  prerolls := hprerolls
  room h := absurd h (Option.some_ne_none _)

/-- The keepalive counts nothing. -/
theorem keepTxAlive_counts (call : TxCall F) (s : SoapyTxStream) :
    (s.keepTxAlive call).2.keyed = s.keyed ∧
      (s.keepTxAlive call).2.submittedFrames = s.submittedFrames := by
  unfold keepTxAlive
  split
  · exact ⟨rfl, rfl⟩
  cases call.keepalive with
  | none => exact ⟨rfl, rfl⟩
  | some status =>
    dsimp only
    split <;> exact ⟨rfl, rfl⟩

theorem begins_begun (call : TxCall F) (s : SoapyTxStream) :
    Begins call s (s.begun call) := by
  obtain ⟨hkeyed, hsubmitted⟩ := keepTxAlive_counts call s
  unfold begun
  split
  · exact begins_return rfl id
  split
  · exact begins_return rfl id
  split
  · exact begins_return rfl id
  next helements =>
  dsimp only
  generalize s.keepTxAlive call = alive at hkeyed hsubmitted ⊢
  obtain ⟨answer, s'⟩ := alive
  dsimp only at hkeyed hsubmitted ⊢
  have hprerolls (h : s.Prerolls) : s'.Prerolls := fun hnot => by
    rw [hsubmitted]
    exact h (hkeyed ▸ hnot)
  cases answer with
  | none => exact begins_return rfl hprerolls
  | some answer =>
    cases answer with
    | false => exact begins_return rfl hprerolls
    | true =>
      dsimp only
      split
      · next hfull =>
        have hkeys := keys_keyTx call s'
        split
        · next hrefused =>
          refine begins_return hkeys.none_taken ?_
          rw [hkeys.otherwise hrefused]
          exact hprerolls
        · next hstarted =>
          have hnow := hkeys.started (not_not.mp hstarted)
          refine ⟨fun _ => helements,
            fun _ h => absurd h.symm (Option.some_ne_none _), ?_, ?_⟩
          · exact fun _ hnot => absurd (hnow.symm.trans hnot) Bool.noConfusion
          · exact fun _ hnot => absurd (hnow.symm.trans hnot) Bool.noConfusion
      · next hfull =>
        refine ⟨fun _ => helements,
          fun _ h => absurd h.symm (Option.some_ne_none _), hprerolls, ?_⟩
        intro _ hnot
        by_contra hmany
        refine hfull (Bool.and_eq_true_iff.mpr ⟨?_, ?_⟩)
        · show (!s'.keyed) = true
          rw [show s'.keyed = false from hnot]
          rfl
        · exact decide_eq_true (Nat.not_lt.mp hmany)

/-- **The frames of a call** are frames of its elements, an `int`, and no
more than the pre-roll has room for. -/
theorem frames_le (h : 0 ≤ s.frames call) :
    (s.frames call).toNat ≤ call.elements.length ∧
      asInt (s.frames call).toNat = s.frames call ∧
      (s.keyed = false →
        (s.frames call).toNat =
          min call.elements.length
            (txPrebufferFrames - s.submittedFrames)) := by
  unfold frames at *
  by_cases hkeyed : s.keyed = true
  · rw [hkeyed] at h ⊢
    obtain ⟨hle, hlt⟩ := paceLoop_le _ h
    refine ⟨?_, asInt_toNat h hlt, fun hnot => Bool.noConfusion hnot⟩
    exact Int.toNat_le.mpr hle
  · rw [Bool.of_not_eq_true hkeyed] at h ⊢
    refine ⟨Nat.min_le_left _ _, asInt_toNat h ?_, fun _ => rfl⟩
    have := Nat.min_le_right call.elements.length
      (txPrebufferFrames - s.submittedFrames)
    have hmax : txPrebufferFrames = 4096 := rfl
    show ((min _ _ : ℕ) : ℤ) < 2 ^ 31
    omega

/-- **Frames that are reported**: the tunnel does not take a part of their
bytes only, and where they complete the pre-roll, keying is not refused. -/
def ReportsFrames (s : SoapyTxStream) (call : TxCall F) : Prop :=
  0 ≤ s.frames call →
    ¬ call.Cuts (4 * (s.frames call).toNat) ∧
      (4 * (s.frames call).toNat ≤ call.room call.sendAnswers →
        s.keyed = false →
        txPrebufferFrames ≤ s.submittedFrames + (s.frames call).toNat →
        ¬ call.Refused)

/-- **A call that reports what it does**, where it comes to its frames. -/
def Reports (s : SoapyTxStream) (call : TxCall F) : Prop :=
  ∀ s', s.begun call = (none, s') → s'.ReportsFrames call

/-- Where the tunnel takes all bytes, the frames are reported unless keying
is refused. -/
theorem submit_of_room (floats : SoapyTxFloats F) (s : SoapyTxStream)
    {frames : ℕ}
    (hlength : frames ≤ call.elements.length)
    (hroom : 4 * frames ≤ call.room call.sendAnswers)
    (hint : 0 ≤ asInt frames ∧ (asInt frames).toNat = frames) :
    (s.submit floats call frames).2.2 =
        (call.elements.take frames).flatMap floats.frame ∧
      ((s.submit floats call frames).1.taken = frames ∨
        (s.submit floats call frames).1.taken = 0 ∧ s.keyed = false ∧
          txPrebufferFrames ≤ s.submittedFrames + frames ∧ call.Refused) ∧
      (s.keyed = false → txPrebufferFrames ≤ s.submittedFrames + frames →
        call.Refused → (s.submit floats call frames).1.taken = 0) ∧
      ((s.counted frames).Prerolls →
        (s.submit floats call frames).2.1.Prerolls) := by
  have hwire : ((call.elements.take frames).flatMap floats.frame).length =
      4 * frames := by
    rw [floats.length_frames, List.length_take_of_le hlength]
  obtain ⟨hput, hdone, -⟩ := sendLoop_spec call call.sendAnswers
    ((call.elements.take frames).flatMap floats.frame)
  have hall := hput.trans (List.take_of_length_le (hwire.trans_le hroom))
  have hok := hdone (hwire.trans_le hroom)
  have hkeys := keys_keyTx call (s.counted frames)
  unfold submit sendTxBytes
  dsimp only
  rw [hall, hok, if_neg (Int.lt_irrefl 0)]
  have hfull : (!(s.counted frames).keyed &&
      decide (txPrebufferFrames ≤ (s.counted frames).submittedFrames)) = true ↔
        s.keyed = false ∧ txPrebufferFrames ≤ s.submittedFrames + frames := by
    show (!s.keyed && decide (_ ≤ s.submittedFrames + frames)) = true ↔ _
    rw [Bool.and_eq_true_iff, decide_eq_true_iff, Bool.not_eq_true']
  split
  · next hpre =>
    obtain ⟨hkeyed, hmany⟩ := hfull.mp hpre
    have hprerolls (h : (s.counted frames).Prerolls) :
        ((s.counted frames).keyTx call).2.Prerolls := by
      by_cases hzero : ((s.counted frames).keyTx call).1 = .code 0
      · exact fun hnot =>
          absurd ((hkeys.started hzero).symm.trans hnot) Bool.noConfusion
      · rw [hkeys.otherwise hzero]
        exact h
    split
    · next hrefused =>
      exact ⟨rfl, .inr ⟨hkeys.none_taken, hkeyed, hmany,
        hkeys.refused.mp hrefused⟩, fun _ _ _ => hkeys.none_taken, hprerolls⟩
    · next hnot =>
      exact ⟨rfl, .inl hint.2, fun _ _ hrefused =>
        absurd (hkeys.refused.mpr hrefused) hnot, hprerolls⟩
  · next hpre =>
    exact ⟨rfl, .inl hint.2, fun hkeyed hmany _ =>
      absurd (hfull.mpr ⟨hkeyed, hmany⟩) hpre, id⟩

/-- Where it does not, nothing is reported. -/
theorem submit_of_cut (floats : SoapyTxFloats F) (s : SoapyTxStream)
    {frames : ℕ} (hlength : frames ≤ call.elements.length)
    (hroom : call.room call.sendAnswers < 4 * frames) :
    (s.submit floats call frames).1.taken = 0 ∧
      (s.submit floats call frames).2.1 = s ∧
      (s.submit floats call frames).2.2 =
        ((call.elements.take frames).flatMap floats.frame).take
          (call.room call.sendAnswers) := by
  have hwire : ((call.elements.take frames).flatMap floats.frame).length =
      4 * frames := by
    rw [floats.length_frames, List.length_take_of_le hlength]
  obtain ⟨hput, -, hfailed⟩ := sendLoop_spec call call.sendAnswers
    ((call.elements.take frames).flatMap floats.frame)
  have hneg := hfailed (hroom.trans_eq hwire.symm)
  unfold submit sendTxBytes
  dsimp only
  rw [if_pos hneg]
  exact ⟨Int.toNat_of_nonpos hneg.le, rfl, hput⟩

end SoapyTxStream

namespace SoapyTxStream

variable {F : Type*} {floats : SoapyTxFloats F} {call : TxCall F}
  {s : SoapyTxStream}

/-- The frames of a call do not exceed the pre-roll. -/
theorem counted_prerolls (hpre : s.Prerolls) (hframes : 0 ≤ s.frames call) :
    (s.counted (s.frames call).toNat).Prerolls := by
  intro hnot
  have hmin := (frames_le hframes).2.2 hnot
  have hle := hpre hnot
  show s.submittedFrames + (s.frames call).toNat ≤ _
  omega

/-- **The pre-roll is not exceeded by a call**, whatever it meets. -/
theorem writeStream_prerolls (floats : SoapyTxFloats F) (call : TxCall F)
    (hpre : s.Prerolls) :
    (s.writeStream floats call).2.1.Prerolls := by
  have hbegun := (begins_begun call s).prerolls hpre
  unfold writeStream
  dsimp only
  generalize s.begun call = begun at hbegun ⊢
  obtain ⟨result, s'⟩ := begun
  cases result with
  | some result => exact hbegun
  | none =>
    dsimp only at hbegun ⊢
    split
    · exact hbegun
    next hneg =>
    have hframes := Int.not_lt.mp hneg
    obtain ⟨hlength, hint, -⟩ := frames_le hframes
    by_cases hroom : 4 * (s'.frames call).toNat ≤ call.room call.sendAnswers
    · obtain ⟨-, -, -, hprerolls⟩ := submit_of_room floats s'
        hlength hroom ⟨hint.symm ▸ hframes, congrArg Int.toNat hint⟩
      exact hprerolls (counted_prerolls hbegun hframes)
    · obtain ⟨-, hstream, -⟩ := submit_of_cut floats s'
        hlength (Nat.not_le.mp hroom)
      rw [hstream]
      exact hbegun

end SoapyTxStream

/-! ## Runs -/

/-- **A stream and its tunnel**: the bytes put on the tunnel since the
stream was activated, and the elements whose acceptance was reported. -/
structure TxRun (F : Type*) where
  stream : SoapyTxStream
  tunnel : List UInt8 := []
  accepted : List (SoapyElement F) := []
  deriving DecidableEq, Repr

namespace TxRun

variable {F : Type*} (floats : SoapyTxFloats F)

/-- A call. -/
def step (r : TxRun F) (call : TxCall F) : TxRun F :=
  let written := r.stream.writeStream floats call
  { stream := written.2.1
    tunnel := r.tunnel ++ written.2.2
    accepted := r.accepted ++ call.elements.take written.1.taken }

/-- **The tunnel carries what was reported**: the frames of the elements
reported as taken, in order, and nothing else. And the pre-roll is not
exceeded, so that what is left of it is never negative. -/
structure Integral (r : TxRun F) : Prop where
  bytes : r.tunnel = r.accepted.flatMap floats.frame
  prerolls : r.stream.Prerolls

variable {floats} {r : TxRun F} {call : TxCall F}

/-- A call is in order where it put the frames on the tunnel that it
reports. -/
theorem integral_step_iff (h : Integral floats r) :
    Integral floats (r.step floats call) ↔
      (r.stream.writeStream floats call).2.2 =
        (call.elements.take
          (r.stream.writeStream floats call).1.taken).flatMap floats.frame := by
  have hbytes : (r.step floats call).tunnel =
        (r.step floats call).accepted.flatMap floats.frame ↔
      (r.stream.writeStream floats call).2.2 =
        (call.elements.take
          (r.stream.writeStream floats call).1.taken).flatMap floats.frame := by
    show r.tunnel ++ _ = (r.accepted ++ _).flatMap floats.frame ↔ _
    rw [List.flatMap_append, h.bytes]
    exact List.append_right_inj _
  exact ⟨fun h' => hbytes.mp h'.bytes, fun h' => ⟨hbytes.mpr h',
    SoapyTxStream.writeStream_prerolls floats call h.prerolls⟩⟩

/-- Nothing put on the tunnel and nothing reported. -/
theorem integral_step_of_none (h : Integral floats r)
    (hput : (r.stream.writeStream floats call).2.2 = [])
    (htaken : (r.stream.writeStream floats call).1.taken = 0) :
    Integral floats (r.step floats call) := by
  refine (integral_step_iff h).mpr ?_
  rw [hput, htaken]
  rfl

/-- **Frames that are sent** leave the stream in order exactly where they
are reported. -/
theorem integral_submit_iff {s : SoapyTxStream} (h : Integral floats r)
    (hwrite : r.stream.writeStream floats call =
      s.submit floats call (s.frames call).toNat)
    (hframes : 0 ≤ s.frames call)
    (hpositive : s.keyed = false → 0 < (s.frames call).toNat) :
    Integral floats (r.step floats call) ↔ s.ReportsFrames call := by
  obtain ⟨hlength, hint, -⟩ := SoapyTxStream.frames_le hframes
  have hreports : s.ReportsFrames call ↔ _ := forall_prop_of_true hframes
  rw [hreports]
  have hint' : 0 ≤ asInt (s.frames call).toNat ∧
      (asInt (s.frames call).toNat).toNat = (s.frames call).toNat :=
    ⟨hint.symm ▸ hframes, congrArg Int.toNat hint⟩
  by_cases hroom : 4 * (s.frames call).toNat ≤ call.room call.sendAnswers
  · obtain ⟨hput, htaken, hnone, -⟩ :=
      SoapyTxStream.submit_of_room floats s hlength hroom hint'
    rw [← hwrite] at hput htaken hnone
    rw [integral_step_iff h, hput]
    constructor
    · intro hsame
      refine ⟨fun hcut => absurd hcut.2 (Nat.not_lt.mpr hroom), ?_⟩
      intro _ hnot hmany hrefused
      rw [hnone hnot hmany hrefused] at hsame
      have hzero := congrArg List.length hsame
      rw [floats.length_frames, List.length_take_of_le hlength] at hzero
      have : 4 * (s.frames call).toNat = 0 := hzero
      have := hpositive hnot
      omega
    · rintro ⟨-, hkeys⟩
      obtain htaken | ⟨-, hnot, hmany, hrefused⟩ := htaken
      · rw [htaken]
      · exact absurd hrefused (hkeys hroom hnot hmany)
  · have hcut := Nat.not_le.mp hroom
    obtain ⟨htaken, -, hput⟩ :=
      SoapyTxStream.submit_of_cut floats s hlength hcut
    rw [← hwrite] at htaken hput
    rw [integral_step_iff h, hput, htaken]
    constructor
    · intro hsame
      refine ⟨fun hcuts => ?_, fun hle => absurd hle hroom⟩
      have hzero := congrArg List.length hsame
      rw [List.length_take, floats.length_frames,
        List.length_take_of_le hlength] at hzero
      have : min (call.room call.sendAnswers) (4 * (s.frames call).toNat) = 0 :=
        hzero
      have := hcuts.1
      omega
    · rintro ⟨hcuts, -⟩
      have hzero : call.room call.sendAnswers = 0 := by
        by_contra hne
        exact hcuts ⟨Nat.pos_of_ne_zero hne, hcut⟩
      rw [hzero]
      rfl

/-- **The step lemma.** -/
theorem step_integral_iff (call : TxCall F) (h : Integral floats r) :
    Integral floats (r.step floats call) ↔ r.stream.Reports call := by
  have hbegins := SoapyTxStream.begins_begun call r.stream
  have hwrite : r.stream.writeStream floats call =
      match (r.stream.begun call).1 with
      | some result => (result, (r.stream.begun call).2, [])
      | none =>
        if (r.stream.begun call).2.frames call < 0 then
          (.code ((r.stream.begun call).2.frames call),
            (r.stream.begun call).2, [])
        else (r.stream.begun call).2.submit floats call
          ((r.stream.begun call).2.frames call).toNat := rfl
  unfold SoapyTxStream.Reports
  generalize r.stream.begun call = begun at hbegins hwrite ⊢
  obtain ⟨result, s⟩ := begun
  cases result with
  | some result =>
    refine iff_of_true (integral_step_of_none h ?_ ?_) fun s' heq =>
      absurd (Prod.ext_iff.mp heq).1 (Option.some_ne_none _)
    · rw [hwrite]
    · rw [hwrite]
      exact hbegins.none_taken result rfl
  | none =>
    dsimp only at hwrite
    have hthis : (∀ s', ((none : Option TxReturn), s) = (none, s') →
        s'.ReportsFrames call) ↔ s.ReportsFrames call := by
      refine ⟨fun hall => hall s rfl, fun hs s' heq => ?_⟩
      obtain rfl : s = s' := (Prod.ext_iff.mp heq).2
      exact hs
    rw [hthis]
    by_cases hneg : s.frames call < 0
    · rw [if_pos hneg] at hwrite
      refine iff_of_true (integral_step_of_none h ?_ ?_) fun hpos =>
        absurd hneg (Int.not_lt.mpr hpos)
      · rw [hwrite]
      · rw [hwrite]
        exact Int.toNat_of_nonpos hneg.le
    rw [if_neg hneg] at hwrite
    have hframes := Int.not_lt.mp hneg
    refine integral_submit_iff h hwrite hframes fun hnot => ?_
    -- the pre-roll has room, and there are elements to fill it with
    have hroom : s.submittedFrames < txPrebufferFrames := hbegins.room rfl hnot
    have hsome := List.length_pos_iff.mpr (hbegins.elements rfl)
    rw [(SoapyTxStream.frames_le hframes).2.2 hnot]
    omega

/-- A stream that was just activated, and nothing on its tunnel. -/
def activated (now : ℕ) : TxRun F where
  stream := .activated now

/-- **A run of `writeStream`** carries what it reports, after every call,
exactly where every call reports what it does. -/
theorem integral_always_iff (floats : SoapyTxFloats F) (now : ℕ)
    (calls : List (TxCall F)) :
    Run.Always (step floats) (Integral floats) (activated now) calls ↔
      Run.Each (step floats) (fun r call => r.stream.Reports call)
        (activated now) calls :=
  Run.always_iff_each (fun _ call h => step_integral_iff call h)
    ⟨rfl, fun _ => Nat.zero_le _⟩ calls

/-- **The pre-roll is never exceeded**, whatever the calls meet. -/
theorem prerolls_always (floats : SoapyTxFloats F) (now : ℕ)
    (calls : List (TxCall F)) :
    Run.Always (step floats) (fun r => r.stream.Prerolls) (activated now)
      calls :=
  Run.always (I := fun r : TxRun F => r.stream.Prerolls)
    (fun _ call hpre => SoapyTxStream.writeStream_prerolls floats call hpre)
    (fun _ => Nat.zero_le _) calls

/-- Floats that are numbers already. -/
def integerFloats : SoapyTxFloats ℤ where
  isFinite := fun _ => true
  neg := fun value => -value
  scaled := fun value => value

/-- **Three bytes too many**: the socket takes three bytes of a frame and the
deadline passes. The call reports a timeout, and when the element is offered
again its frame comes behind these bytes. -/
theorem integral_cut :
    ¬ ∀ (now : ℕ) (calls : List (TxCall ℤ)),
      Run.Always (step integerFloats) (Integral integerFloats) (activated now)
        calls := by
  intro h
  have hafter := (h 0
    [{ elements := [.cs16 1 2]
       sendAnswers := [.took 3, .blocked 100000 .writable] },
      { elements := [.cs16 1 2], sendAnswers := [.took 4] }]).after.bytes
  revert hafter
  decide +kernel

/-- A frame counted twice: the one that completes the pre-roll is sent, and
keying is refused. -/
example :
    let r := Run.after (step integerFloats)
      { stream :=
          { submittedFrames := 4095, active := true, lastKeepalive := 0 } }
      [{ elements := [.cs16 1 2], sendAnswers := [.took 4]
         keyReplies := [some { status := 409 }] }]
    r.accepted = [] ∧ r.tunnel = [1, 0, 254, 255] := by
  decide +kernel

end TxRun
