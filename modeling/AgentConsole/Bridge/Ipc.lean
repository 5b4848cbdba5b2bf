import AgentConsole.Lib.Run
import AgentConsole.Bridge.Gateway

/-! # The IPC client

One connection to the Desktop router is served by three tasks.  `connect` waits for the
answer to its handshake and publishes `Connected`.  The reader routes every response to
the call that waits for it, and when the stream ends it answers all pending calls and
publishes `Disconnected`.  The writer takes the frames from the outbound queue to the
socket.  The callers of `request` register a one-shot channel in the pending table, put
their frame into the queue and wait.

One step of the system is what one task does between two awaits.  A request id is the
number of its call; the handshake is call `0`.  The parts of serde the client uses are a
parameter.  `Origin` and `Call.queued` are ghosts. -/

namespace AgentConsole.Bridge

open AgentConsole.Lib

namespace Ipc

inductive Method where
  | initialise | threadOwnerDiscovery | loadCompleteHistory
  | startTurn | steerTurn | interruptTurn
  | submitUserInput | commandApprovalDecision | updateThreadSettings
  deriving DecidableEq, Repr

/-- The names on the wire. -/
def Method.name : Method → String
  | .initialise => "initialize"
  | .threadOwnerDiscovery => "thread-owner-discovery"
  | .loadCompleteHistory => "thread-follower-load-complete-history"
  | .startTurn => "thread-follower-start-turn"
  | .steerTurn => "thread-follower-steer-turn"
  | .interruptTurn => "thread-follower-interrupt-turn"
  | .submitUserInput => "thread-follower-submit-user-input"
  | .commandApprovalDecision => "thread-follower-command-approval-decision"
  | .updateThreadSettings => "thread-follower-update-thread-settings"

/-- The methods `execute_command` calls. -/
def Method.isWrite : Method → Bool
  | .startTurn | .steerTurn | .interruptTurn | .submitUserInput | .commandApprovalDecision
  | .updateThreadSettings => true
  | _ => false

/-- How the methods that read their result call it; `generic_write` and `discover_owner`
do not read it. -/
def Method.resultLabel? : Method → Option String
  | .startTurn => some "start-turn"
  | .steerTurn => some "steer-turn"
  | .interruptTurn => some "interrupt-turn"
  | .loadCompleteHistory => some "load-complete-history"
  | _ => none

def Method.timeoutSecs : Method → Nat
  | .threadOwnerDiscovery => 12
  | .loadCompleteHistory => 65
  | _ => 5

/-- What the client uses of serde on the JSON values `V`. -/
structure Codec (V : Type) where
  null : V
  /-- the length of a request as text -/
  textLength : Method → V → Nat
  /-- why a result does not have the type of its method -/
  badResult : Method → V → Option String
  /-- `InitializeResult` -/
  clientId : V → Except String String

structure IpcClientConfig where
  maxFrameBytes : Nat := 64 * 1024 * 1024
  outboundQueue : Nat := 256
  deriving DecidableEq, Repr

/-- The errors of a connection that exists. -/
inductive IpcError where
  | notConnected
  | handshake (message : String)
  | requestTimeout (method : String) (timeoutSecs : Nat)
  | peer (message : String)
  | connectionLost (message : String)
  | queueFull (capacity : Nat)
  deriving DecidableEq, Repr

def IpcError.text : IpcError → String
  | .notConnected => "not connected"
  | .handshake message => s!"handshake failed: {message}"
  | .requestTimeout method timeoutSecs =>
    s!"request timed out after {timeoutSecs}s (method: {method})"
  | .peer message => s!"peer returned error: {message}"
  | .connectionLost message => s!"connection lost: {message}"
  | .queueFull capacity => s!"outbound queue full (capacity {capacity})"

inductive ConnectionState where
  | connected (clientId : String)
  | disconnected (reason : String)
  deriving DecidableEq, Repr

def ConnectionState.isConnected : ConnectionState → Bool
  | .connected _ => true
  | .disconnected _ => false

inductive ResultType where
  | success | error
  deriving DecidableEq, Repr

/-- A response; the answers the client makes up itself have no request id. -/
structure ResponseFrame (V : Type) where
  requestId : Option Nat
  resultType : ResultType
  method : Option Method := none
  handledByClientId : Option String := none
  result : Option V := none
  error : Option String := none
  deriving DecidableEq, Repr

inductive IncomingMessage (V : Type) where
  | response (frame : ResponseFrame V)
  | broadcast (method : String)
  | clientDiscoveryRequest
  | request (method : String)
  | clientDiscoveryResponse
  | unknown
  deriving DecidableEq, Repr

inductive OutgoingMessage (V : Type) where
  | request (call : Nat) (method : Method) (params : V)
  | broadcast
  | response
  | clientDiscoveryResponse
  deriving DecidableEq, Repr

/-- Who has answered a call: the peer, the reader when it ended, or the writer that could
not encode the frame. -/
inductive Origin where
  | peer | drained | oversize
  deriving DecidableEq, Repr

inductive CallPhase (V : Type) where
  /-- in the pending table, before the frame is in the queue -/
  | enqueue (params : V)
  | await
  | returned (result : Except IpcError (ResponseFrame V))

structure Call (V : Type) where
  method : Method
  phase : CallPhase V
  /-- the one-shot channel -/
  answer : Option (Origin × ResponseFrame V) := none
  queued : Bool := false

/-- `connect` after it has spawned the other two tasks. -/
inductive ConnectPhase where
  | awaiting
  | answered (clientId : String)
  | returned (clientId : String)
  | failed (error : IpcError)
  deriving DecidableEq, Repr

inductive ReaderPhase where
  | reading
  /-- out of the loop, the pending calls are answered -/
  | drained (reason : String)
  | ended
  deriving DecidableEq, Repr

inductive WriterPhase where
  | writing | ended
  deriving DecidableEq, Repr

inductive Input (V : Type) where
  /-- `connect` takes the answer to the handshake -/
  | handshake
  | handshakeTimeout
  | publishConnected
  /-- the reader has decoded a message -/
  | incoming (message : IncomingMessage V)
  /-- end of the stream, or a read or frame error -/
  | readFails (reason : String)
  | publishDisconnected
  /-- the writer takes a frame from the queue and writes it -/
  | write
  | writeFails
  | outboundClosed
  /-- the receiver of the events is dropped -/
  | closeEvents
  | broadcast
  | request (method : Method) (params : V)
  | enqueue (call : Nat)
  | wake (call : Nat)
  | timeout (call : Nat)
  deriving DecidableEq, Repr

end Ipc

open Ipc

/-- `IpcClient` with its `Shared` and its tasks, from the moment they are spawned. -/
structure IpcClient (V : Type) where
  connect : ConnectPhase := .awaiting
  reader : ReaderPhase := .reading
  writer : WriterPhase := .writing
  published : ConnectionState := .disconnected "handshake"
  /-- the calls whose sender is in the pending table -/
  pending : List Nat := [0]
  calls : FiniteMap Nat (Call V) :=
    (∅ : FiniteMap Nat (Call V)).insert 0 { method := .initialise, phase := .await, queued := true }
  issued : Nat := 1
  outbound : List (OutgoingMessage V) := []
  eventsClosed : Bool := false

namespace IpcClient

variable {V : Type}

/-! ## Errors -/

/-- `str::contains` -/
def contains (text pattern : String) : Bool := decide (pattern.toList <:+: text.toList)

/-- `map_ipc_write_error`, with the code and the message the gateway takes from the
result. -/
def mapIpcWriteError : IpcError → BridgeError
  | .peer message =>
    if contains message "NoActiveTurn" || contains message "SteerTurnInactive" then
      ⟨.staleTurn, message⟩
    else if contains message "no-client-found" then
      ⟨.sessionNotFound, "owner disappeared before write"⟩
    else if contains message "request-version-mismatch" then
      ⟨.codexVersionUnverified, "desktop rejected method version"⟩
    else ipc (.peer message)
  | .connectionLost _ | .notConnected =>
    ⟨.outcomeUnknown, "connection lost during write; outcome unknown"⟩
  | other => ipc other
where
  /-- `AdapterError::Ipc` -/
  ipc (error : IpcError) : BridgeError :=
    let text := error.text
    ⟨.codexUnavailable, s!"ipc: {text}"⟩

/-- What a call makes of the response to it. -/
def result (codec : Codec V) (method : Method) (frame : ResponseFrame V) :
    Except IpcError (ResponseFrame V) :=
  match frame.resultType with
  | .error => .error (.peer (frame.error.getD "unknown error"))
  | .success =>
    match method.resultLabel? with
    | none => .ok frame
    | some label =>
      match codec.badResult method (frame.result.getD codec.null) with
      | none => .ok frame
      | some message => .error (.peer s!"bad {label} result: {message}")

/-! ## Steps -/

/-- A call gets its answer; its sender leaves the pending table. -/
def deliver (s : IpcClient V) (call : Nat) (origin : Origin) (frame : ResponseFrame V) :
    IpcClient V :=
  if call ∈ s.pending then
    { s with
      pending := s.pending.erase call
      calls := s.calls.modify call fun c => { c with answer := some (origin, frame) } }
  else s

/-- The end of `reader_loop`, up to the publication. -/
def drain (s : IpcClient V) (reason : String) : IpcClient V :=
  { s with
    reader := .drained reason
    pending := []
    calls := s.calls.mapVal fun n c =>
      if n ∈ s.pending then
        let frame := ⟨none, .error, none, none, none, some s!"connection-closed: {reason}"⟩
        { c with answer := some (.drained, frame) }
      else c }

/-- `send_now` -/
def sendNow (s : IpcClient V) (message : OutgoingMessage V) : IpcClient V :=
  match s.writer with
  | .ended => s.drain "outbound channel closed"
  | .writing => { s with outbound := s.outbound ++ [message] }

/-- `dispatch` -/
def dispatch (s : IpcClient V) : IncomingMessage V → IpcClient V
  | .response frame =>
    match frame.requestId with
    | some call => s.deliver call .peer frame
    | none => s
  | .broadcast _ => if s.eventsClosed then s.drain "event channel closed" else s
  | .clientDiscoveryRequest => s.sendNow .clientDiscoveryResponse
  | .request _ => s.sendNow .response
  | .clientDiscoveryResponse | .unknown => s

/-- A call ends. -/
def returns (s : IpcClient V) (call : Nat) (result : Except IpcError (ResponseFrame V)) :
    IpcClient V :=
  { s with calls := s.calls.modify call fun c => { c with phase := .returned result } }

/-- The length of a frame that `encode_frame` refuses. -/
def refusedLength? (codec : Codec V) (config : IpcClientConfig) : OutgoingMessage V → Option Nat
  | .request _ method params =>
    let length := codec.textLength method params
    if length = 0 ∨ config.maxFrameBytes < length then some length else none
  | .broadcast | .response | .clientDiscoveryResponse => none

/-- `writer_loop`: a frame that cannot be encoded is answered and dropped. -/
def write (codec : Codec V) (config : IpcClientConfig) (s : IpcClient V) : IpcClient V :=
  match s.writer, s.outbound with
  | .writing, message :: rest =>
    match message, refusedLength? codec config message with
    | .request call method _, some length =>
      let limit := config.maxFrameBytes
      { s with outbound := rest }.deliver call .oversize
        { requestId := some call, resultType := .error, method := some method,
          error := some s!"frame payload {length} bytes exceeds limit {limit} bytes" }
    | _, _ => { s with outbound := rest }
  | _, _ => s

/-- A write fails: the writer ends and drops the queue. -/
def writeFails (codec : Codec V) (config : IpcClientConfig) (s : IpcClient V) : IpcClient V :=
  match s.writer, s.outbound with
  | .writing, message :: _ =>
    if refusedLength? codec config message = none then
      { s with writer := .ended, outbound := [] }
    else s
  | _, _ => s

/-- `connect` has the answer to the handshake. -/
def shake (codec : Codec V) (frame : ResponseFrame V) : ConnectPhase :=
  if frame.resultType ≠ .success ∨ frame.method ≠ some .initialise then
    .failed (.handshake (frame.error.getD "rejected"))
  else
    match codec.clientId (frame.result.getD codec.null) with
    | .error message => .failed (.handshake s!"bad initialize result: {message}")
    | .ok clientId => .answered clientId

/-- The answer in the one-shot channel of a call. -/
def answer? (s : IpcClient V) (call : Nat) : Option (Origin × ResponseFrame V) :=
  (s.calls.get? call).bind (·.answer)

/-- The first half of `request`. -/
def issue (config : IpcClientConfig) (s : IpcClient V) (method : Method) (params : V) :
    IpcClient V :=
  if config.outboundQueue ≤ s.pending.length then
    { s with
      issued := s.issued + 1
      calls := s.calls.insert s.issued
        { method, phase := .returned (.error (.queueFull config.outboundQueue)) } }
  else
    { s with
      issued := s.issued + 1
      pending := s.pending ++ [s.issued]
      calls := s.calls.insert s.issued { method, phase := .enqueue params } }

/-- The frame goes into the outbound queue, unless the writer has dropped it. -/
def enqueue (s : IpcClient V) (call : Nat) (c : Call V) (params : V) : IpcClient V :=
  match s.writer with
  | .ended => { s with pending := s.pending.erase call }.returns call (.error .notConnected)
  | .writing =>
    { s with
      outbound := s.outbound ++ [.request call c.method params]
      calls := s.calls.insert call { c with phase := .await, queued := true } }

/-- The second half of `request`: the answer is there, or the time is over. -/
def settle (codec : Codec V) (s : IpcClient V) (call : Nat) (late : Bool) : IpcClient V :=
  match s.calls.get? call with
  | some ⟨method, .await, some (_, frame), _⟩ =>
    if late then s else s.returns call (result codec method frame)
  | some ⟨method, .await, none, _⟩ =>
    if late then
      { s with pending := s.pending.erase call }.returns call
        (.error (.requestTimeout method.name method.timeoutSecs))
    else s
  | _ => s

def step (codec : Codec V) (config : IpcClientConfig) (s : IpcClient V) : Input V → IpcClient V
  | .handshake =>
    match s.connect, s.answer? 0 with
    | .awaiting, some (_, frame) => { s with connect := shake codec frame }
    | _, _ => s
  | .handshakeTimeout =>
    match s.connect, s.answer? 0 with
    | .awaiting, none => { s with connect := .failed (.handshake "handshake timed out") }
    | _, _ => s
  | .publishConnected =>
    match s.connect with
    | .answered clientId =>
      { s with connect := .returned clientId, published := .connected clientId }
    | _ => s
  | .incoming message => if s.reader = .reading then s.dispatch message else s
  | .readFails reason => if s.reader = .reading then s.drain reason else s
  | .publishDisconnected =>
    match s.reader with
    | .drained reason => { s with reader := .ended, published := .disconnected reason }
    | _ => s
  | .write => s.write codec config
  | .writeFails => s.writeFails codec config
  -- every sender is gone: the client was not returned and the reader has ended
  | .outboundClosed =>
    match s.connect, s.reader, s.outbound with
    | .failed _, .ended, [] => { s with writer := .ended }
    | _, _, _ => s
  | .closeEvents => { s with eventsClosed := true }
  | .broadcast =>
    match s.connect, s.writer with
    | .returned _, .writing => { s with outbound := s.outbound ++ [.broadcast] }
    | _, _ => s
  | .request method params =>
    match s.connect with
    | .returned _ => if method = .initialise then s else s.issue config method params
    | _ => s
  | .enqueue call =>
    match s.calls.get? call with
    | some c =>
      match c.phase with
      | .enqueue params => s.enqueue call c params
      | _ => s
    | none => s
  | .wake call => if call = 0 then s else s.settle codec call false
  | .timeout call => if call = 0 then s else s.settle codec call true

/-! ## The attach supervisor -/

/-- `ipc_connected` -/
def ipcConnected (ipc : Option (IpcClient V)) : Bool := ipc.any (·.published.isConnected)

/-- The supervisor attaches again unless it takes the connection for live. -/
def attaches (ipc : Option (IpcClient V)) : Bool := !ipcConnected ipc

end IpcClient
end AgentConsole.Bridge
