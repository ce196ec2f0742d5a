import Flex1500.RtlTcp

/-!
# The clients of the receive stream

Up to four HTTP clients and one `rtl_tcp` client take the publisher's
frames. All of them are behind one writer, `write_iq_clients`: it offers
each client what the client has not taken yet of the pending frame, and
reports the frame as written once no client has any of it left.

An HTTP client is a slot with an offset into the frame. The `rtl_tcp` client
has a buffer of its own, since it is sent the frame resampled, and a flag
that says it has all of the pending frame.

What `send` answers is given for each call. What a client has received, and
where it came in, is not in the code, and no function reads it.
-/

/-- What `send` answers, given room enough. -/
inductive SendAnswer where
  | sent (count : ℕ)
  | wouldBlock
  | failed
  deriving DecidableEq, Repr

/-- What `send` answers when it is offered so many bytes: it takes no more
than those, and there is nothing to wait for where there are none. -/
def SendAnswer.offered (count : ℕ) : SendAnswer → SendAnswer
  | .sent n => .sent (min n count)
  | answer => if count = 0 then .sent 0 else answer

/-- What the clients' sockets answer in one call of the writer, those of the
HTTP clients by the number of the connection. -/
structure FanoutAnswers where
  rtl : SendAnswer
  http : ℕ → SendAnswer

/-- `MAX_IQ_CLIENTS`. -/
def maxIqClients : ℕ := 4

/-- An HTTP client of the stream. Which connection it is, how many frames
were over when it came, and what it has received are not in the code. -/
structure IqClient where
  connection : ℕ
  joined : ℕ
  pendingOffset : ℕ := 0
  received : List UInt8 := []
  deriving DecidableEq, Repr

/-- Why the writer closed the `rtl_tcp` client: its frame was rejected, or
the send of so many bytes failed or met the end of the connection. -/
inductive RtlClosing where
  | rejected
  | sendFailed (offered : ℕ)
  deriving DecidableEq, Repr

/-- The side of the `rtl_tcp` client. `rtl_fd` is a flag here, and the
length of the pending bytes is that of the list.

What the client was sent since it came and since the rate was last set, the
number of the first frame pumped since then, the frames it was offered, and
the writer's reasons to close it are not in the code. -/
structure RtlClient where
  isOpen : Bool := false
  resampler : RtlTcpResampler := .reset 0
  pending : List UInt8 := []
  pendingOffset : ℕ := 0
  sourceComplete : Bool := false
  total : List UInt8 := []
  sinceReset : List UInt8 := []
  first : Option ℕ := none
  due : List (List UInt8) := []
  closings : List RtlClosing := []
  deriving DecidableEq, Repr

/-- The clients (`iq_clients`), with those that have gone and the number
there have been. -/
structure IqClients where
  slots : Fin maxIqClients → Option IqClient := fun _ => none
  rtl : RtlClient := {}
  departed : List IqClient := []
  arrivals : ℕ := 0

/-- What the writer finds out at a client: whether there is one, and
whether it has to wait for the rest of the frame. -/
structure ServedFlags where
  any : Bool := false
  incomplete : Bool := false
  deriving DecidableEq, Repr

/-! ## The `rtl_tcp` client -/

namespace RtlClient

/-- The pending bytes that were not sent yet. -/
def remaining (rtl : RtlClient) : List UInt8 :=
  rtl.pending.drop rtl.pendingOffset

/-- The client with nothing pending. -/
def dropPending (rtl : RtlClient) : RtlClient :=
  { rtl with pending := [], pendingOffset := 0 }

/-- The resampler starts anew, at a rate. -/
def reset (rate : ℕ) (rtl : RtlClient) : RtlClient :=
  { rtl.dropPending with
    resampler := .reset rate
    sinceReset := []
    first := none
    due := [] }

/-- The number of the frame that is pumped next, noted once. -/
def noted (frame : Option ℕ) (rtl : RtlClient) : RtlClient :=
  { rtl with first := rtl.first <|> frame }

/-- A client that has just been accepted. -/
def accepted (rtl : RtlClient) : RtlClient :=
  { rtl.reset rtlTcpInputRate with isOpen := true, total := [] }

/-- `FLEX1500_RTL_TCP_SET_SAMPLE_RATE`. -/
def setSampleRate (rate : ℕ) (rtl : RtlClient) : RtlClient :=
  if rtlTcpInputRate ≤ rate ∧ rate ≤ rtlTcpMaxRate then
    { rtl.reset rate with sourceComplete := false }
  else rtl

/-- The client is gone, as its commands show. -/
def disconnected (rtl : RtlClient) : RtlClient :=
  { rtl.dropPending with isOpen := false }

/-- The frame a client is offered, noted once. -/
def offered (framed : List UInt8) (rtl : RtlClient) : RtlClient :=
  if rtl.due.getLast? = some framed then rtl
  else { rtl with due := rtl.due ++ [framed] }

/-- The client is closed by the writer. -/
def closed (reason : RtlClosing) (rtl : RtlClient) : RtlClient :=
  { rtl with isOpen := false, closings := rtl.closings ++ [reason] }

/-- The pending frame resampled, unless the client has all of it or still
has bytes pending. -/
def refill (kernel : RtlKernel) (framed : List UInt8) (rtl : RtlClient) :
    RtlClient :=
  if !rtl.sourceComplete && rtl.pending.isEmpty then
    let resampled := rtl.resampler.resampleIq kernel framed rtlPendingSize
    let rtl :=
      { rtl with
        resampler := resampled.2
        pending := resampled.1
        pendingOffset := 0 }
    if resampled.1 = [] then rtl.closed .rejected else rtl
  else rtl

/-- So many of the remaining bytes were sent. -/
def sent (count : ℕ) (rtl : RtlClient) : RtlClient :=
  let rtl :=
    { rtl with
      pendingOffset := rtl.pendingOffset + count
      total := rtl.total ++ rtl.remaining.take count
      sinceReset := rtl.sinceReset ++ rtl.remaining.take count }
  if rtl.pendingOffset < rtl.pending.length then rtl
  else { rtl.dropPending with sourceComplete := true }

/-- The part of `write_iq_clients` for the `rtl_tcp` client. -/
def serve (kernel : RtlKernel) (framed : List UInt8) (answer : SendAnswer)
    (rtl : RtlClient) : ServedFlags × RtlClient :=
  if !rtl.isOpen then ({}, rtl)
  else
    let rtl := (rtl.offered framed).refill kernel framed
    if !rtl.isOpen then ({ any := rtl.sourceComplete }, rtl)
    else
      match answer.offered rtl.remaining.length with
      | .wouldBlock => ({ any := true, incomplete := true }, rtl)
      | .sent (n + 1) =>
        ({ any := true
           incomplete := rtl.pendingOffset + (n + 1) < rtl.pending.length },
          rtl.sent (n + 1))
      | _ =>
        ({}, { rtl.dropPending.closed (.sendFailed rtl.remaining.length) with
          sourceComplete := false })

end RtlClient

/-! ## The HTTP clients -/

namespace IqClient

/-- The client once more of a frame was sent to it. -/
def sent (framed : List UInt8) (count : ℕ) (client : IqClient) : IqClient :=
  { client with
    pendingOffset := client.pendingOffset + count
    received := client.received
      ++ (framed.drop client.pendingOffset).take count }

/-- The client at the beginning of a frame. -/
def rewound (client : IqClient) : IqClient :=
  { client with pendingOffset := 0 }

/-- The part of `write_iq_clients` for one HTTP client. -/
def serve (framed : List UInt8) (answer : SendAnswer) (client : IqClient) :
    ServedFlags × Option IqClient :=
  if client.pendingOffset = framed.length then ({ any := true }, some client)
  else
    match answer.offered (framed.length - client.pendingOffset) with
    | .wouldBlock => ({ any := true, incomplete := true }, some client)
    | .sent (n + 1) =>
      ({ any := true
         incomplete := client.pendingOffset + (n + 1) < framed.length },
        some (client.sent framed (n + 1)))
    | _ => ({}, none)

end IqClient

namespace IqClients

/-- `iq_clients_connected`. -/
def connected (clients : IqClients) : Bool :=
  clients.rtl.isOpen
    || (List.finRange maxIqClients).any fun i => (clients.slots i).isSome

/-- What becomes of each slot in a call of the writer. -/
def servedSlots (framed : List UInt8) (answers : FanoutAnswers)
    (clients : IqClients) (i : Fin maxIqClients) :
    ServedFlags × Option IqClient :=
  match clients.slots i with
  | none => ({}, none)
  | some client => client.serve framed (answers.http client.connection)

/-- The clients with other slots, those that have gone noted. -/
def withSlots (slots : Fin maxIqClients → Option IqClient)
    (clients : IqClients) : IqClients :=
  { clients with
    slots := slots
    departed := clients.departed
      ++ (List.finRange maxIqClients).filterMap fun i =>
        if (slots i).isNone then clients.slots i else none }

/-- The clients with another `rtl_tcp` side. -/
def withRtl (f : RtlClient → RtlClient) (clients : IqClients) : IqClients :=
  { clients with rtl := f clients.rtl }

/-- The clients once every one of them has all of a frame. -/
def frameDone (clients : IqClients) : IqClients :=
  { clients with
    slots := fun i => (clients.slots i).map IqClient.rewound
    rtl := { clients.rtl with sourceComplete := false } }

/-- `write_iq_clients`. -/
def write (kernel : RtlKernel) (answers : FanoutAnswers) :
    PublishWriter IqClients := fun framed clients =>
  let rtl := clients.rtl.serve kernel framed answers.rtl
  let served := clients.servedSlots framed answers
  let any := rtl.1.any
    || (List.finRange maxIqClients).any fun i => (served i).1.any
  let incomplete := rtl.1.incomplete
    || (List.finRange maxIqClients).any fun i => (served i).1.incomplete
  let clients :=
    (clients.withSlots fun i => (served i).2).withRtl fun _ => rtl.2
  if !any then ({ result := .disconnected, written := 0 }, clients)
  else if incomplete then ({ result := .wouldBlock, written := 0 }, clients)
  else ({ result := .ok, written := framed.length }, clients.frameDone)

end IqClients

/-! ## The publisher and its clients -/

/-- The frames that are over: those encoded, but for the pending one. -/
def IqPublisher.finished (p : IqPublisher) : List IqFrame :=
  let frames := (p.past ++ [p.session]).flatMap (·.frames)
  if p.pending = [] then frames else frames.dropLast

/-- The publisher with the clients it serves. -/
structure Receive where
  publisher : IqPublisher
  clients : IqClients := {}

/-- What happens to the receive stream. -/
inductive ReceiveEvent where
  /-- The radio brings samples. -/
  | samples (samples : List IqSample)
  /-- The ring is cleared, as a retune does. -/
  | cleared
  /-- A request for the stream, and whether its header could be sent. -/
  | openIqStream (headerSent : Bool)
  /-- A `rtl_tcp` client comes, and whether its header could be sent. -/
  | acceptRtl (headerSent : Bool)
  /-- It asks for another rate. -/
  | setSampleRate (rate : ℕ)
  /-- It is gone. -/
  | rtlDisconnected
  /-- The radio fails, and the daemon begins to recover. -/
  | abandoned
  /-- The block that publishes, with what is answered in each of its turns. -/
  | publish (answers : ℕ → FanoutAnswers)

namespace Receive

/-- The publisher changed. -/
def withPublisher (f : IqPublisher → IqPublisher) (r : Receive) : Receive :=
  { r with publisher := f r.publisher }

/-- The clients changed. -/
def withClients (f : IqClients → IqClients) (r : Receive) : Receive :=
  { r with clients := f r.clients }

/-- `begin_fresh_receive_stream`. -/
def beginFreshReceiveStream (r : Receive) : Receive :=
  r.withPublisher fun p => (p.withSource (·.clear)).disconnect

/-- A fresh stream for a first client. -/
def freshIfFirst (r : Receive) : Receive :=
  if r.clients.connected then r else r.beginFreshReceiveStream

/-- `FLEX1500_API_OPEN_IQ_STREAM`. The connection counts, whether or not
there is a slot for it. -/
def openIqStream (headerSent : Bool) (r : Receive) : Receive :=
  let counted := r.withClients fun clients =>
    { clients with arrivals := clients.arrivals + 1 }
  match (List.finRange maxIqClients).find? fun i =>
      (r.clients.slots i).isNone with
  | none => counted
  | some slot =>
    if headerSent then
      let fresh := counted.freshIfFirst
      fresh.withClients fun clients =>
        { clients with
          slots := Function.update clients.slots slot (some
            { connection := r.clients.arrivals
              joined := fresh.publisher.finished.length }) }
    else counted

/-- The block that accepts a `rtl_tcp` client. -/
def acceptRtl (headerSent : Bool) (r : Receive) : Receive :=
  if !r.clients.rtl.isOpen && headerSent then
    r.freshIfFirst.withClients (·.withRtl (·.accepted))
  else r

/-- The clients of HTTP are closed and the pending frame is given up. -/
def abandoned (r : Receive) : Receive :=
  (r.withClients (·.withSlots fun _ => none)).withPublisher (·.disconnect)

/-- The publisher is pumped once, for the clients there are. -/
def pump (kernel : RtlKernel) (answers : FanoutAnswers) (r : Receive) :
    PublishResult × Receive :=
  let pumped := r.publisher.pump (IqClients.write kernel answers) r.clients
  (pumped.1,
    { publisher :=
        if pumped.1 = .disconnected ∨ pumped.1 = .error then
          pumped.2.1.disconnect
        else pumped.2.1
      clients := pumped.2.2 })

/-- The publisher is pumped as long as frames go out, in so many turns at
most. -/
def publishFrom (kernel : RtlKernel) (answers : ℕ → FanoutAnswers) :
    ℕ → ℕ → Receive → Receive
  | 0, _, r => r
  | turns + 1, turn, r =>
    let pumped := r.pump kernel (answers turn)
    if pumped.1 = .ok then publishFrom kernel answers turns (turn + 1) pumped.2
    else pumped.2

/-- The number of the frame that is pumped next, if there is one. -/
def nextFrame (r : Receive) : Option ℕ :=
  if r.publisher.prepareFrame.1 then
    some r.publisher.prepareFrame.2.finished.length
  else none

/-- That number noted, for a `rtl_tcp` client that was offered nothing yet. -/
def noted (r : Receive) : Receive :=
  r.withClients (·.withRtl (·.noted r.nextFrame))

/-- The block that publishes. Every turn but the last sends a frame, and
there are no more of those than the samples waiting and the one frame
pending. -/
def publish (kernel : RtlKernel) (answers : ℕ → FanoutAnswers) (r : Receive) :
    Receive :=
  if !r.clients.connected then r
  else
    publishFrom kernel answers (r.publisher.source.contents.length + 2) 0
      r.noted

/-- One thing happening. -/
def step (kernel : RtlKernel) (r : Receive) : ReceiveEvent → Receive
  | .samples samples => r.withPublisher (·.withSource (·.push samples))
  | .cleared => r.withPublisher (·.withSource (·.clear))
  | .openIqStream headerSent => r.openIqStream headerSent
  | .acceptRtl headerSent => r.acceptRtl headerSent
  | .setSampleRate rate =>
    if r.clients.rtl.isOpen then
      r.withClients (·.withRtl (·.setSampleRate rate))
    else r
  | .rtlDisconnected =>
    if r.clients.rtl.isOpen then r.withClients (·.withRtl (·.disconnected))
    else r
  | .abandoned => r.abandoned
  | .publish answers => r.publish kernel answers

/-- A run. -/
def run (kernel : RtlKernel) (r : Receive) (events : List ReceiveEvent) :
    Receive :=
  events.foldl (step kernel) r

end Receive
