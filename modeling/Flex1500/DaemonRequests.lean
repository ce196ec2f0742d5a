import Flex1500.CompanionCalls
import Flex1500.DaemonBlocks

/-!
# A request in pieces

The bytes of a request arrive as the network brings them: some in one pass of
the loop, some in a later one, with anything else that the passes do in
between. What is dispatched is the request, once and as a whole, in the pass
that brings its last byte.
-/

open CText HttpRequest

namespace Daemon

variable (config : DaemonConfig) (input : LoopInput)

/-! ## What leaves the client alone -/

/-- The HTTP client is the same. -/
def SameClient (d e : Daemon) : Prop :=
  e.httpClient = d.httpClient

theorem sameClient_networkReconcile (d : Daemon) :
    d.SameClient d.networkReconcile := by
  unfold networkReconcile
  dsimp only
  split <;> rfl

theorem sameClient_networkTick (nowMs : UInt64) (d : Daemon) :
    d.SameClient (d.networkTick config nowMs) := by
  unfold networkTick
  dsimp only
  split <;> rfl

theorem sameClient_stationTick (nowMs : UInt64) (d : Daemon) :
    d.SameClient (d.stationTick config nowMs) := by
  unfold stationTick
  dsimp only
  split <;> rfl

theorem sameClient_ticks (d : Daemon) :
    d.SameClient (d.ticks config input) := by
  have hstation := sameClient_stationTick config input.stationMs d
  rw [SameClient, ticks, sameClient_networkTick, sameClient_networkReconcile]
  exact hstation

theorem sameClient_microphoneEdge (pressed : Bool) (nowMs : UInt64)
    (d : Daemon) : d.SameClient (d.microphoneEdge config pressed nowMs) := by
  unfold microphoneEdge
  dsimp only
  split <;> rfl

theorem sameClient_switches (nowMs : UInt64) (d : Daemon) :
    d.SameClient (d.switches config nowMs) := by
  unfold switches
  split
  · rfl
  split
  · rfl
  extract_lets edge e e'
  have he : d.SameClient e' := by
    dsimp only [e']
    split
    · exact (sameClient_microphoneEdge config _ _ e).trans rfl
    · rfl
  split
  · exact he
  · exact he

theorem sameClient_rtlByte (byte : UInt8) (d : Daemon) :
    d.SameClient (d.rtlByte config byte) := by
  unfold rtlByte
  dsimp only
  split
  · unfold rtlCommand
    split <;> rfl
  · rfl

theorem sameClient_rtlBytes (bytes : List UInt8) (d : Daemon) :
    d.SameClient (bytes.foldl (rtlByte config) d) := by
  induction bytes generalizing d with
  | nil => rfl
  | cons byte bytes ih =>
    exact (ih _).trans (sameClient_rtlByte config byte d)

theorem sameClient_rtl (d : Daemon) : d.SameClient (d.rtl config input) := by
  unfold rtl
  extract_lets e
  have he : d.SameClient e := by
    dsimp only [e]
    split <;> rfl
  split
  · exact he
  split
  · exact he
  · exact he
  · exact (sameClient_rtlBytes config _ e).trans he
  · exact he

theorem sameClient_deliver (connection : ℕ) (chunk : List TxByte)
    (nowMs : UInt64) (d : Daemon) :
    d.SameClient (d.deliver connection chunk nowMs) := by
  unfold deliver
  extract_lets network room bytes recorded e e' e''
  have he : d.SameClient e'' := by
    dsimp only [e'', e']
    split <;> rfl
  split
  · exact he
  · exact he

theorem sameClient_stream (d : Daemon) :
    d.SameClient (d.stream config input) := by
  unfold stream
  split
  · rfl
  split
  · rfl
  split
  · dsimp only
    split
    · rfl
    · exact (sameClient_deliver _ _ _ _).trans rfl
  · rfl
  · rfl

theorem sameClient_publish (d : Daemon) : d.SameClient (d.publish input) :=
  rfl

/-! ## What a pass hears -/

/-- Whether a pass comes to its clients: the loop runs on, and the receiver
does. -/
def serves (d : Daemon) : Bool :=
  let pumped := (d.ticks config input).tx.receiver.pump
  d.running && !input.stopRequested && pumped.1 == 0 && pumped.2.running

/-- The buffer of the client, which may be a new one. -/
def client (d : Daemon) : Option (List UInt8) :=
  d.httpClient <|> (if input.httpAccepted then some [] else none)

/-- The bytes a client with this buffer brings. -/
def brought (buffer : List UInt8) : List UInt8 :=
  match input.httpReceived with
  | .data bytes => bytes.take (requestCapacity - buffer.length)
  | _ => []

/-- The bytes a pass hears of the client. -/
def hears (d : Daemon) : List UInt8 :=
  if d.serves config input then ((d.client input).map (brought input)).getD []
  else []

/-- The request that a pass answers, if it does. -/
def answers (d : Daemon) : Option (List UInt8) :=
  if d.serves config input then d.completed input else none

/-- What some passes hear, one after the other. -/
def heard : Daemon → List LoopInput → List UInt8
  | _, [] => []
  | d, input :: inputs =>
    d.hears config input ++ heard (d.step config input) inputs

/-- The requests they answer. -/
def requests : Daemon → List LoopInput → List (List UInt8)
  | _, [] => []
  | d, input :: inputs =>
    (d.answers config input).toList ++ requests (d.step config input) inputs

/-- A request that is answered is the buffer and what was brought. -/
theorem completed_eq (d : Daemon) : d.completed input
    = (d.client input).bind fun buffer =>
      if HttpRequest.complete (buffer ++ brought input buffer) then
        some (buffer ++ brought input buffer)
      else none := rfl

/-- A request that was not asked for leaves no client. -/
theorem httpClient_of_none {d : Daemon} (h : d.client input = none) :
    (d.http config input).httpClient = none := by
  have hnone : d.httpClient = none := by
    cases hclient : d.httpClient with
    | none => rfl
    | some buffer =>
      rw [client, hclient] at h
      exact absurd h (by simp)
  have hsame : d.http config input = d := by
    unfold http
    rw [show (d.httpClient <|> (if input.httpAccepted then some [] else none))
      = none from h]
  rw [hsame, hnone]

/-- **An answered client** is let go. -/
theorem httpClient_of_complete {d : Daemon} {buffer : List UInt8}
    (h : d.client input = some buffer)
    (hcomplete : HttpRequest.complete (buffer ++ brought input buffer) = true) :
    (d.http config input).httpClient = none := by
  unfold http
  rw [show (d.httpClient <|> (if input.httpAccepted then some [] else none))
    = some buffer from h]
  dsimp only
  rw [if_pos]
  exact Bool.or_eq_true_iff.mpr (Or.inl (Bool.or_eq_true_iff.mpr
    (Or.inl hcomplete)))

/-- **A client that was not answered** is let go, or waits with what it
brought. -/
theorem httpClient_of_pending {d : Daemon} {buffer : List UInt8}
    (h : d.client input = some buffer) :
    (d.http config input).httpClient = none
      ∨ (d.http config input).httpClient
        = some (buffer ++ brought input buffer) := by
  have hkept (gone : Bool) (kept : Option (List UInt8)) :
      (if gone = true then none else kept) = none
        ∨ (if gone = true then none else kept) = kept := by
    cases gone <;> simp
  unfold http
  rw [show (d.httpClient <|> (if input.httpAccepted then some [] else none))
    = some buffer from h]
  exact hkept _ _

/-! ## What a pass does to the client -/

/-- **A pass that comes to its clients** runs their blocks, on the client as
it was. -/
theorem step_of_serves {d : Daemon} (h : d.serves config input = true) :
    ∃ e : Daemon, d.SameClient e
      ∧ d.step config input
        = ((e.http config input).stream config input).publish input := by
  unfold serves at h
  simp only [Bool.and_eq_true, Bool.not_eq_true', beq_iff_eq] at h
  obtain ⟨⟨⟨hrunning, hstop⟩, hpump⟩, hreceiver⟩ := h
  refine ⟨(((d.ticks config input).withReceiver
    (d.ticks config input).tx.receiver.pump.2).switches config
      input.pttMs).rtl config input, ?_, ?_⟩
  · exact (sameClient_rtl config input _).trans
      ((sameClient_switches config input.pttMs _).trans
        (sameClient_ticks config input d))
  · rw [step, if_neg (by simp [hrunning]), if_neg (by simp [hstop]), iterate,
      if_neg (by simp [hpump, hreceiver]), serve]

/-- It leaves the HTTP client as its block does. -/
theorem httpClient_of_serves {d : Daemon} (h : d.serves config input = true) :
    ∃ e : Daemon, d.SameClient e
      ∧ (d.step config input).httpClient = (e.http config input).httpClient := by
  obtain ⟨e, hsame, hstep⟩ := step_of_serves config input h
  refine ⟨e, hsame, ?_⟩
  rw [hstep]
  exact (sameClient_publish input _).trans (sameClient_stream config input _)

/-- **Any other pass** answers nobody: the loop is over, ends, or recovers. -/
theorem step_of_not_serves {d : Daemon} (h : d.serves config input = false) :
    d.step config input = d ∨ d.step config input = d.exit config
      ∨ ∃ e : Daemon, d.SameClient e
        ∧ d.step config input = e.recover config input.recoveryAttempts := by
  unfold step
  split
  · exact Or.inl rfl
  next hrunning =>
  split
  · exact Or.inr (Or.inl rfl)
  next hstop =>
    refine Or.inr (Or.inr ?_)
    unfold iterate
    extract_lets e pumped e'
    refine ⟨e', sameClient_ticks config input d, if_pos ?_⟩
    by_contra hfine
    obtain ⟨hpump, hreceiver⟩ := not_or.mp hfine
    have hserves : d.serves config input = true := by
      simp only [serves, Bool.and_eq_true, beq_iff_eq]
      exact ⟨⟨⟨by simpa using hrunning, by simpa using hstop⟩,
        not_not.mp hpump⟩, by simpa using hreceiver⟩
    exact absurd (h.symm.trans hserves) Bool.false_ne_true

theorem httpClient_exit (d : Daemon) : (d.exit config).httpClient = none := by
  unfold exit
  extract_lets e₁ e₂ unprepared e₃ e₄
  have he : e₄.httpClient = none := by
    dsimp only [e₄]
    split <;> rfl
  exact he

/-- A recovery leaves the client alone, or ends the loop. -/
theorem httpClient_recover (attempts : ℕ) (d : Daemon) :
    (d.recover config attempts).httpClient = d.httpClient
      ∨ (d.recover config attempts).httpClient = none := by
  have habandoned : (d.abandoned config).httpClient = d.httpClient := rfl
  unfold recover
  extract_lets stopped reopened e
  split
  · exact Or.inl habandoned
  · exact Or.inr (httpClient_exit config e)

/-- Any other pass leaves it alone, or ends the loop. -/
theorem httpClient_of_not_serves {d : Daemon}
    (h : d.serves config input = false) :
    (d.step config input).httpClient = d.httpClient
      ∨ (d.step config input).httpClient = none := by
  obtain hstep | hstep | ⟨e, hsame, hstep⟩ :=
    step_of_not_serves config input h
  · exact Or.inl (congrArg (·.httpClient) hstep)
  · rw [hstep]
    exact Or.inr (httpClient_exit config d)
  · rw [hstep, ← show e.httpClient = d.httpClient from hsame]
    exact httpClient_recover config input.recoveryAttempts e

/-! ## What a pass dispatches -/

/-- **A pass dispatches the request it answers**, and no other: where it comes
to its clients, their block leaves the records as the dispatcher does where a
request is answered, and alone where none is; where it does not, the loop is
over, ends, or recovers. -/
def Dispatches (d : Daemon) : Prop :=
  if d.serves config input then
    ∃ e : Daemon, d.SameClient e
      ∧ d.step config input
        = ((e.http config input).stream config input).publish input
      ∧ (e.http config input).plane
        = match d.answers config input with
          | none => e.plane
          | some buffer => (e.request config input buffer).plane
  else
    d.answers config input = none
      ∧ (d.step config input = d ∨ d.step config input = d.exit config
        ∨ ∃ e : Daemon, d.SameClient e
          ∧ d.step config input = e.recover config input.recoveryAttempts)

/-- Every pass does. -/
theorem dispatches (d : Daemon) : d.Dispatches config input := by
  unfold Dispatches
  split
  next hserves =>
    obtain ⟨e, hsame, hstep⟩ := step_of_serves config input hserves
    have hanswers : d.answers config input = e.completed input := by
      rw [answers, if_pos hserves, completed_eq, completed_eq, client, client,
        show e.httpClient = d.httpClient from hsame]
    exact ⟨e, hsame, hstep, hanswers ▸ http_plane config input e⟩
  next hserves =>
    exact ⟨if_neg hserves,
      step_of_not_serves config input (by simpa using hserves)⟩

/-! ## What some passes hear -/

theorem client_of_none {d : Daemon} (h : d.httpClient = none)
    (haccepted : input.httpAccepted = false) : d.client input = none := by
  rw [client, h, haccepted]
  rfl

theorem client_of_some {d : Daemon} {buffer : List UInt8}
    (h : d.httpClient = some buffer) : d.client input = some buffer := by
  rw [client, h]
  rfl

/-- The client of a pass is the one there was, or new. -/
theorem httpClient_of_client {d : Daemon} {buffer : List UInt8}
    (h : d.client input = some buffer) :
    d.httpClient = none ∨ d.httpClient = some buffer := by
  cases hclient : d.httpClient with
  | none => exact Or.inl rfl
  | some kept => exact Or.inr ((client_of_some input hclient).symm.trans h)

/-- **Without a client** nothing is heard and nothing answered. -/
theorem silent_of_none {inputs : List LoopInput}
    (halone : ∀ input ∈ inputs, input.httpAccepted = false) {d : Daemon}
    (h : d.httpClient = none) :
    d.heard config inputs = [] ∧ d.requests config inputs = [] := by
  induction inputs generalizing d with
  | nil => exact ⟨rfl, rfl⟩
  | cons input inputs ih =>
    have hclient := client_of_none input h (halone input (by simp))
    have hhears : d.hears config input = [] := by
      rw [hears, hclient]
      exact ite_self _
    have hanswers : d.answers config input = none := by
      rw [answers, completed_eq, hclient]
      exact ite_self _
    have hnext : (d.step config input).httpClient = none := by
      cases hserves : d.serves config input with
      | false =>
        obtain hsame | hnone := httpClient_of_not_serves config input hserves
        · rw [hsame, h]
        · exact hnone
      | true =>
        obtain ⟨e, hsame, hstep⟩ := httpClient_of_serves config input hserves
        rw [hstep]
        exact httpClient_of_none config input (by rw [client, hsame]; exact hclient)
    obtain ⟨hheard, hrequests⟩ :=
      ih (fun input hinput => halone input (by simp [hinput])) hnext
    rw [heard, requests, hhears, hanswers, hheard, hrequests]
    exact ⟨rfl, rfl⟩

/-- **One pass**: the request of its client is answered where it is complete,
and the client is gone; or the client waits with what was heard. -/
theorem pass_of_client {d : Daemon} {buffer : List UInt8}
    (h : d.client input = some buffer) :
    (d.answers config input = some (buffer ++ d.hears config input)
        ∧ HttpRequest.complete (buffer ++ d.hears config input) = true
        ∧ (d.step config input).httpClient = none)
      ∨ (d.answers config input = none
        ∧ (d.hears config input = []
          ∨ HttpRequest.complete (buffer ++ d.hears config input) = false)
        ∧ ((d.step config input).httpClient = none
          ∨ (d.step config input).httpClient
            = some (buffer ++ d.hears config input))) := by
  cases hserves : d.serves config input with
  | false =>
    have hhears : d.hears config input = [] := by
      rw [hears, hserves, if_neg Bool.false_ne_true]
    refine Or.inr ⟨?_, Or.inl hhears, ?_⟩
    · rw [answers, hserves, if_neg Bool.false_ne_true]
    · rw [hhears, List.append_nil]
      obtain hsame | hnone := httpClient_of_not_serves config input hserves
      · exact hsame ▸ httpClient_of_client input h
      · exact Or.inl hnone
  | true =>
    have hhears : d.hears config input = brought input buffer := by
      rw [hears, hserves, if_pos rfl, h]
      rfl
    obtain ⟨e, hsame, hstep⟩ := httpClient_of_serves config input hserves
    have hclient : e.client input = some buffer := by
      rw [client, hsame]
      exact h
    rw [hhears, answers, hserves, if_pos rfl, completed_eq, h, Option.bind_some,
      hstep]
    cases hcomplete : HttpRequest.complete (buffer ++ brought input buffer) with
    | true =>
      exact Or.inl ⟨if_pos rfl, rfl,
        httpClient_of_complete config input hclient hcomplete⟩
    | false =>
      exact Or.inr ⟨if_neg Bool.false_ne_true, Or.inr rfl,
        httpClient_of_pending config input hclient⟩

/-- The requests that some passes answer are those that are due: the whole
text once all of it was heard, and nothing before. -/
def Due (text : CText) (buffer : List UInt8) (inputs : List LoopInput)
    (d : Daemon) : Prop :=
  buffer ++ d.heard config inputs <+: text →
    d.requests config inputs
      = if buffer ++ d.heard config inputs = text then [text] else []

/-- What is due holds from one pass to the next. -/
theorem due_of_pass {text : CText} (hwhole : Whole text)
    {inputs : List LoopInput}
    (halone : ∀ input ∈ inputs, input.httpAccepted = false) {d : Daemon}
    {buffer : List UInt8} (h : d.client input = some buffer)
    (hne : buffer ≠ text)
    (ih : ∀ {e : Daemon} {kept : List UInt8}, e.httpClient = some kept →
      kept ≠ text → e.Due config text kept inputs) :
    d.Due config text buffer (input :: inputs) := by
  intro hheard
  rw [heard, ← List.append_assoc] at hheard ⊢
  rw [requests]
  have hfront : buffer ++ d.hears config input <+: text :=
    (List.prefix_append _ _).trans hheard
  -- the request is answered and the client gone, or it waits with a part
  obtain ⟨hanswers, hcomplete, hnone⟩ | ⟨hanswers, hcut, hnext⟩ :=
    pass_of_client config input h
  · have hall := (hwhole.complete_iff hfront).mp hcomplete
    obtain ⟨hrest, hrequests⟩ := silent_of_none config halone hnone
    rw [hanswers, hrest, hrequests, List.append_nil, hall, List.append_nil,
      if_pos rfl]
    rfl
  · have hpart : buffer ++ d.hears config input ≠ text := by
      obtain hsilent | hincomplete := hcut
      · rwa [hsilent, List.append_nil]
      · intro hall
        rw [(hwhole.complete_iff hfront).mpr hall] at hincomplete
        exact Bool.false_ne_true hincomplete.symm
    rw [hanswers, Option.toList_none, List.nil_append]
    obtain hnone | hkept := hnext
    · obtain ⟨hrest, hrequests⟩ := silent_of_none config halone hnone
      rw [hrest, hrequests, List.append_nil, if_neg hpart]
    · exact ih hkept hpart hheard

/-- It holds from a client that waits. -/
theorem due_of_pending {text : CText} (hwhole : Whole text)
    {inputs : List LoopInput}
    (halone : ∀ input ∈ inputs, input.httpAccepted = false) {d : Daemon}
    {buffer : List UInt8} (h : d.httpClient = some buffer)
    (hne : buffer ≠ text) : d.Due config text buffer inputs := by
  induction inputs generalizing d buffer with
  | nil =>
    intro _
    rw [heard, List.append_nil, if_neg hne, requests]
  | cons input inputs ih =>
    exact due_of_pass config input hwhole
      (fun next hnext => halone next (by simp [hnext]))
      (client_of_some input h) hne
      (fun hkept hpart => ih (fun next hnext => halone next (by simp [hnext]))
        hkept hpart)

end Daemon

/-! ## A call in pieces -/

namespace CompanionCall

variable (config : DaemonConfig)

/-- No byte of a call's text ends it as a C string. -/
theorem ofBuffer_text {host : CText} {call : HttpCall}
    (h : call.Sendable host) :
    ofBuffer (call.requestText host) = call.requestText host := by
  refine ofBuffer_of_zero ?_
  rw [HttpCall.requestText_eq, List.mem_append, not_or]
  exact ⟨zero_not_mem_headerText fun l hl =>
    HttpCall.headerLine_of_mem_lines h hl, h.body⟩

end CompanionCall

namespace Daemon

/-- **A call that arrives in pieces is one request**: a companion connects
and its text comes in over any number of passes, in pieces of any size, with
anything else going on. Once all of it was heard it has been dispatched once,
as it was sent; before that nothing was: every pass dispatches what it answers
and nothing else. -/
theorem call_in_pieces (config : DaemonConfig) {host : CText}
    (hhost : CompanionCall.LineText host) {call : CompanionCall}
    (hvalid : call.Valid) {first : LoopInput} {inputs : List LoopInput}
    (halone : ∀ input ∈ inputs, input.httpAccepted = false) {d : Daemon}
    (h : d.httpClient = none)
    (hheard : d.heard config (first :: inputs)
      <+: call.http.requestText host) :
    d.requests config (first :: inputs)
        = (if d.heard config (first :: inputs) = call.http.requestText host
          then [call.http.requestText host] else [])
      ∧ ofBuffer (call.http.requestText host)
        = call.http.requestText host
      ∧ ∀ (e : Daemon) (input : LoopInput), e.Dispatches config input := by
  have hsendable := CompanionCall.sendable hhost hvalid
  have hwhole := HttpCall.whole_requestText hsendable
  have hne : [] ≠ call.http.requestText host := by
    intro hnil
    have hcomplete := (hwhole.complete_iff (List.prefix_refl _)).mpr rfl
    rw [← hnil] at hcomplete
    exact absurd hcomplete (by decide)
  refine ⟨?_, CompanionCall.ofBuffer_text hsendable,
    fun e input => dispatches config input e⟩
  cases haccepted : first.httpAccepted with
  | false =>
    have hall : ∀ input ∈ first :: inputs, input.httpAccepted = false :=
      List.forall_mem_cons.mpr ⟨haccepted, halone⟩
    obtain ⟨hsilent, hrequests⟩ := silent_of_none config hall h
    rw [hsilent, hrequests, if_neg hne]
  | true =>
    have hclient : d.client first = some [] := by
      rw [client, h, haccepted]
      rfl
    exact due_of_pass config first hwhole halone hclient hne
      (fun hkept hpart => due_of_pending config hwhole halone hkept hpart)
      hheard

/-- The station is asked for in two pieces, two passes apart. -/
theorem call_in_pieces_two :
    let config : DaemonConfig :=
      { rxTuningEnabled := true, testPageEnabled := true
        transmitEnabled := false, rtlTcpEnabled := true
        tuneLease := 1, txLease := 1, stationLease := 7
        carriesDc := fun _ => false }
    let text := CompanionCall.acquire.http.requestText (ofString "radio")
    let first : LoopInput :=
      { stationMs := 0, tuneMs := 0, txMs := 0, networkMs := 0, pttMs := 0
        httpAccepted := true
        httpReceived := .data (text.take 20)
        requestMs := 0, dataMs := 0 }
    let idle : LoopInput := { first with httpAccepted := false,
                                         httpReceived := .wouldBlock }
    let last : LoopInput := { idle with httpReceived := .data (text.drop 20) }
    (boot config fun _ => {}).requests config [first, idle, last] = [text] := by
  intro config text first idle last
  have hheard : (boot config fun _ => {}).heard config [first, idle, last]
      = text := by decide +kernel
  have hhost : CompanionCall.LineText (ofString "radio") :=
    CompanionCall.lineText_of_all (by decide)
  have hvalid : CompanionCall.acquire.Valid := trivial
  have halone : ∀ input ∈ [idle, last], input.httpAccepted = false := by
    simp only [List.forall_mem_cons, List.not_mem_nil, false_imp_iff,
      implies_true, and_true]
    exact ⟨rfl, rfl⟩
  have hnone : (boot config fun _ => {}).httpClient = none := by
    decide +kernel
  have hfront : (boot config fun _ => {}).heard config [first, idle, last]
      <+: text := by rw [hheard]
  exact (call_in_pieces config hhost hvalid halone hnone hfront).1.trans
    (if_pos hheard)

end Daemon
