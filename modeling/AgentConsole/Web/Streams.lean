import AgentConsole.Lib.FiniteMap
import AgentConsole.Lib.Run
import AgentConsole.Web.Commands

/-! # Streams of the browser

The transport asks for one stream after another: `subscribe` sends a request under a fresh
correlation id and waits until the first snapshot is applied, the wait runs out or the socket
closes.  A `Subscribed` reply binds its stream to the target of the request it echoes; one
that echoes none is remembered until the first frame shows a list.  Frames of bound streams
are checked against epoch and sequence and handed to the listener.

The connection is that of `Commands`.  Whether a frame can be applied is an input, since
mapping and listener may throw; left out is what frames hold besides what is looked at here,
and what the listener does with them. -/

namespace AgentConsole.Web.Streams

open AgentConsole.Lib
open AgentConsole.Web.Commands (Link)

abbrev StreamId := String

/-- `SubscriptionTarget`; sessions are any type with equality. -/
inductive Target (S : Type) where
  | list
  | session (sessionId : S)
  deriving DecidableEq, Repr

structure StreamState (S : Type) where
  target : Target S
  epoch : Nat
  lastSequence : Nat
  /-- Ghost: the target was read off the events of a batch. -/
  guessed : Bool
  deriving DecidableEq, Repr

/-- What a `Subscribed` without a known target leaves. -/
structure Anchor where
  epoch : Nat
  baseSequence : Nat
  deriving DecidableEq, Repr

inductive DomainEvent (S : Type) where
  | sessionSummaryChanged (session : S)
  | devicePresenceChanged
  /-- Any event of a session's detail. -/
  | detail
  deriving DecidableEq, Repr

namespace DomainEvent

/-- An event that a list may have. -/
def isList {S : Type} : DomainEvent S → Bool
  | .detail => false
  | _ => true

def summary {S : Type} : DomainEvent S → Option S
  | .sessionSummaryChanged session => some session
  | _ => none

end DomainEvent

inductive Payload (S : Type) where
  | subscribed (streamId : StreamId) (streamEpoch baseSequence : Nat)
  | sessionSummaryBatch (sessions : List S) (snapshot applies : Bool)
  | runtimeSnapshot (applies : Bool)
  | eventBatch (events : List (DomainEvent S)) (applies : Bool)
  | resyncRequired (streamId : StreamId)
  | protocolError (streamId : StreamId)
  deriving DecidableEq, Repr

structure Envelope (S : Type) where
  streamId : StreamId
  streamEpoch : Nat
  sequence : Nat
  correlationId : Option Nat
  payload : Payload S
  deriving DecidableEq, Repr

/-- What the transport sends about streams. -/
inductive Outgoing (S : Type) where
  | subscribe (correlation : Nat) (target : Target S)
  | unsubscribe (streamId : StreamId)
  | resyncRequest (streamId : StreamId)
  | ack (streamId : StreamId) (sequence : Nat)
  deriving DecidableEq, Repr

/-- A request for a target, or the release of a session. -/
inductive Asked (S : Type) where
  | request (correlation : Nat) (target : Target S)
  | release (sessionId : S)
  deriving DecidableEq, Repr

/-- A frame of a stream that is handed to the listener as one of a target. -/
structure Delivery (S : Type) where
  streamId : StreamId
  target : Target S
  guessed : Bool
  deriving DecidableEq, Repr

def SENT_SUBSCRIBE_HISTORY : Nat := 64

/-- The fields of `RealConsoleTransport` about streams.  `correlations` numbers the fresh
ids; `sent`, `delivered` and `asked` are ghosts. -/
structure Client (S : Type) where
  commands : Commands.Transport := .new
  sessionKeys : List S := []
  wantedSessions : List S := []
  listWanted : Bool := false
  streamStates : FiniteMap StreamId (StreamState S) := ∅
  unboundStreams : FiniteMap StreamId Anchor := ∅
  sentSubscribes : List (Nat × Target S) := []
  pendingSubscription : Option (Target S) := none
  pendingSubscriptionStream : StreamId := ""
  /-- `subscriptionChain`, without the subscription that runs. -/
  queued : List (Target S) := []
  resyncInFlight : List StreamId := []
  correlations : Nat := 0
  sent : List (Outgoing S) := []
  delivered : List (Delivery S) := []
  asked : List (Asked S) := []

inductive Input (S : Type) where
  /-- The connection moves on. -/
  | link (event : Commands.Transport.Event)
  /-- `retainRuntime`, and the begin of `getRuntimeSnapshot`. -/
  | retain (sessionId : S)
  | release (sessionId : S)
  /-- `rememberSessions` of what a list request has returned. -/
  | remember (sessions : List S)
  /-- The chain goes on with the next subscription. -/
  | turn
  /-- The wait of a subscription runs out. -/
  | subscribeTimeout
  | resyncTimeout (streamId : StreamId)
  | message (socket : Nat) (envelope : Envelope S)

namespace Client

variable {S : Type} [DecidableEq S]

def isOpen (c : Client S) : Bool := c.commands.link.isOpen

def send (c : Client S) (message : Outgoing S) : Client S :=
  if c.isOpen then { c with sent := c.sent ++ [message] } else c

/-- A stream is bound to the target. -/
def bound (c : Client S) (target : Target S) : Bool :=
  c.streamStates.values.any fun state => decide (state.target = target)

def wanted (c : Client S) : Target S → Bool
  | .list => c.listWanted
  | .session sessionId => decide (sessionId ∈ c.wantedSessions)

def targetStillWanted (c : Client S) (target : Target S) : Bool := c.wanted target && !c.bound target

/-! ## Asking -/

def queueSubscription (c : Client S) (target : Target S) : Client S :=
  if c.pendingSubscription = some target ∨ target ∈ c.queued ∨ c.bound target then c
  else { c with queued := c.queued ++ [target] }

/-- The oldest entries go first. -/
def rememberSentSubscribe (sent : List (Nat × Target S)) (correlation : Nat) (target : Target S) :
    List (Nat × Target S) :=
  let sent := sent ++ [(correlation, target)]
  sent.drop (sent.length - SENT_SUBSCRIBE_HISTORY)

/-- A session is asked for while it is wanted, and once its key is known. -/
def canSubscribe (c : Client S) : Target S → Bool
  | .list => true
  | .session sessionId => decide (sessionId ∈ c.wantedSessions) && decide (sessionId ∈ c.sessionKeys)

def subscribe (c : Client S) (target : Target S) : Client S :=
  if c.isOpen && c.canSubscribe target then
    { c with
      pendingSubscription := some target
      pendingSubscriptionStream := ""
      sentSubscribes := rememberSentSubscribe c.sentSubscribes c.correlations target
      correlations := c.correlations + 1
      asked := c.asked ++ [Asked.request c.correlations target] }.send (.subscribe c.correlations target)
  else c

def turn (c : Client S) : Client S :=
  match c.pendingSubscription, c.queued with
  | none, target :: rest => { c with queued := rest }.subscribe target
  | _, _ => c

/-- `pendingSubscriptionDone`. -/
def done (c : Client S) : Client S :=
  { c with pendingSubscription := none, pendingSubscriptionStream := "" }

def completeSubscription (c : Client S) (streamId : StreamId) : Client S :=
  if streamId = c.pendingSubscriptionStream then c.done else c

def want (c : Client S) (sessionId : S) : Client S :=
  if sessionId ∈ c.wantedSessions then c
  else { c with wantedSessions := c.wantedSessions ++ [sessionId] }

def retainRuntime (c : Client S) (sessionId : S) : Client S :=
  (c.want sessionId).queueSubscription (.session sessionId)

def clearResyncInFlight (c : Client S) (streamId : StreamId) : Client S :=
  { c with resyncInFlight := c.resyncInFlight.erase streamId }

/-- One stream of a released session. -/
def unsubscribe (c : Client S) (streamId : StreamId) : Client S :=
  ({ c with streamStates := c.streamStates.erase streamId }.clearResyncInFlight streamId).send
    (.unsubscribe streamId)

def releaseRuntime (c : Client S) (sessionId : S) : Client S :=
  ((c.streamStates.toList.filter fun e => decide (e.2.target = .session sessionId)).map
    (·.1)).foldl unsubscribe
      { c with wantedSessions := c.wantedSessions.filter (· ≠ sessionId),
               asked := c.asked ++ [Asked.release sessionId] }

def rememberSessions (c : Client S) (sessions : List S) : Client S :=
  { c with sessionKeys := c.sessionKeys ++ sessions }

/-! ## The connection -/

/-- `handleClose` of the current socket. -/
def handleClose (c : Client S) : Client S :=
  { c with resyncInFlight := [], streamStates := ∅, unboundStreams := ∅ }.done

/-- The handshake is done. -/
def online (c : Client S) : Client S :=
  ((c.wantedSessions.map Target.session).foldl queueSubscription
    ({ c with listWanted := true }.queueSubscription .list))

def isCurrent (c : Client S) (socket : Nat) : Bool := c.commands.link.socket.any (·.serial = socket)

/-- The handshake that this opening awaits ends with the socket still in place. -/
def greets (c : Client S) : Commands.Transport.Event → Bool
  | .opening n .done =>
    (c.commands.link.openings.get? n).any fun opening =>
      match opening.stage with
      | .handshake socket => !c.commands.link.closed && c.isCurrent socket
      | _ => false
  | _ => false

def closes (c : Client S) : Commands.Transport.Event → Bool
  | .closed socket _ => c.isCurrent socket
  | _ => false

def moveLink (c : Client S) (event : Commands.Transport.Event) : Client S :=
  let moved := { c with commands := c.commands.step event }
  if c.closes event then moved.handleClose
  else if c.greets event then moved.online
  else moved

/-! ## Frames -/

def requestStreamResync (c : Client S) (streamId : StreamId) : Client S :=
  if streamId ∈ c.resyncInFlight ∨ c.isOpen = false then c
  else { c with resyncInFlight := c.resyncInFlight ++ [streamId] }.send (.resyncRequest streamId)

/-- The stream is bound; a subscription that waits for its target now waits for its frames. -/
def bindStream (c : Client S) (streamId : StreamId) (state : StreamState S) : Client S :=
  { c with
    pendingSubscriptionStream :=
      if c.pendingSubscription = some state.target then streamId else c.pendingSubscriptionStream
    streamStates := c.streamStates.insert streamId state }

/-- `identifyUnboundStream`; the stream is then a list. -/
def identifyUnboundStream (c : Client S) (envelope : Envelope S) (guessed : Bool) : Client S :=
  match c.unboundStreams.get? envelope.streamId with
  | none => c
  | some unbound =>
    let known := { c with unboundStreams := c.unboundStreams.erase envelope.streamId }
    if unbound.epoch = envelope.streamEpoch ∧ known.targetStillWanted .list then
      known.bindStream envelope.streamId ⟨.list, unbound.epoch, unbound.baseSequence, guessed⟩
    else known

/-- The stream of a frame, after a first frame of a list has bound it. -/
def identified (c : Client S) (envelope : Envelope S) (listKind guessed : Bool) : Client S :=
  if c.streamStates.contains envelope.streamId = false ∧ listKind then
    c.identifyUnboundStream envelope guessed
  else c

/-- The bound stream of a frame, in the same epoch. -/
def streamOf (c : Client S) (envelope : Envelope S) : Option (StreamState S) :=
  (c.streamStates.get? envelope.streamId).filter fun state =>
    decide (state.epoch = envelope.streamEpoch)

/-- `acceptSnapshot`, with the stream that it returns. -/
def acceptSnapshot (c : Client S) (envelope : Envelope S) (listKind : Bool) :
    Client S × Option (StreamState S) :=
  let c := c.identified envelope listKind false
  match c.streamOf envelope with
  | none => (c, none)
  | some stream => (c.clearResyncInFlight envelope.streamId, some stream)

/-- `sequencedStream`, with the stream that it returns. -/
def sequencedStream (c : Client S) (envelope : Envelope S) (listKind guessed : Bool) :
    Client S × Option (StreamState S) :=
  let c := c.identified envelope listKind guessed
  match c.streamOf envelope with
  | none => (c, none)
  | some stream =>
    if envelope.sequence ≤ stream.lastSequence then (c, none)
    else if envelope.sequence = stream.lastSequence + 1 then (c, some stream)
    else (c.requestStreamResync envelope.streamId, none)

/-- The frame is handed to the listener. -/
def deliver (c : Client S) (envelope : Envelope S) (stream : StreamState S) (target : Target S) :
    Client S :=
  { c with delivered := c.delivered ++ [⟨envelope.streamId, target, stream.guessed⟩] }

/-- After the frame is applied, its sequence is committed and acknowledged. -/
def commit (c : Client S) (envelope : Envelope S) : Client S :=
  { c with streamStates := c.streamStates.modify envelope.streamId fun state =>
      { state with lastSequence := envelope.sequence } }.send
    (.ack envelope.streamId envelope.sequence)

def applied (c : Client S) (envelope : Envelope S) (applies : Bool) : Client S :=
  if applies then c.commit envelope else c.requestStreamResync envelope.streamId

/-- `eventBatchUnboundKind` is `list`. -/
def listOnly (events : List (DomainEvent S)) : Bool :=
  !events.isEmpty && events.all fun event => event.isList

/-- `applyListEvent` remembers the sessions of summaries. -/
def summaries (events : List (DomainEvent S)) : List S :=
  events.filterMap (·.summary)

def subscribed (c : Client S) (correlation : Option Nat) (streamId : StreamId)
    (streamEpoch baseSequence : Nat) : Client S :=
  match c.streamStates.get? streamId with
  | some existing =>
    { c with streamStates := c.streamStates.insert streamId { existing with
               epoch := streamEpoch, lastSequence := baseSequence } }
  | none =>
    match correlation.bind fun id => (c.sentSubscribes.find? (·.1 = id)).map (·.2) with
    | none =>
      { c with unboundStreams := c.unboundStreams.insert streamId ⟨streamEpoch, baseSequence⟩ }
    | some correlated =>
      let known := { c with
        sentSubscribes := c.sentSubscribes.filter fun e => decide (some e.1 ≠ correlation) }
      if known.targetStillWanted correlated then
        known.bindStream streamId ⟨correlated, streamEpoch, baseSequence, false⟩
      else known

def handleMessage (c : Client S) (envelope : Envelope S) : Client S :=
  match envelope.payload with
  | .subscribed streamId streamEpoch baseSequence =>
    c.subscribed envelope.correlationId streamId streamEpoch baseSequence
  | .sessionSummaryBatch sessions snapshot applies =>
    let (c, found) := if snapshot then c.acceptSnapshot envelope true
      else c.sequencedStream envelope true false
    match found with
    | none => c
    | some stream =>
      let c := ((c.rememberSessions sessions).deliver envelope stream .list).applied envelope applies
      if applies then c.completeSubscription envelope.streamId else c
  | .runtimeSnapshot applies =>
    let (c, found) := c.acceptSnapshot envelope false
    match found with
    | none => c
    | some stream =>
      match stream.target with
      | .list => c
      | .session sessionId =>
        let c := (c.deliver envelope stream (.session sessionId)).applied envelope applies
        if applies then c.completeSubscription envelope.streamId else c
  | .eventBatch events applies =>
    let (c, found) := c.sequencedStream envelope (listOnly events) true
    match found with
    | none => c
    | some stream =>
      let c := if stream.target = .list then c.rememberSessions (summaries events) else c
      (c.deliver envelope stream stream.target).applied envelope applies
  | .resyncRequired streamId =>
    if c.streamStates.contains streamId then c.requestStreamResync streamId else c
  | .protocolError streamId =>
    if streamId ≠ "" ∧ (c.streamStates.get? streamId).any (·.target ≠ .list) then
      c.completeSubscription streamId
    else c

def step (c : Client S) : Input S → Client S
  | .link event => c.moveLink event
  | .retain sessionId => c.retainRuntime sessionId
  | .release sessionId => c.releaseRuntime sessionId
  | .remember sessions => c.rememberSessions sessions
  | .turn => c.turn
  | .subscribeTimeout => c.done
  | .resyncTimeout streamId =>
    if streamId ∈ c.resyncInFlight then
      { c with resyncInFlight := c.resyncInFlight.erase streamId,
               commands := c.commands.step .closeSocket }
    else c
  | .message socket envelope => if c.isCurrent socket then c.handleMessage envelope else c

end Client

end AgentConsole.Web.Streams
