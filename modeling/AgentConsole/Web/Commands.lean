import AgentConsole.Lib.Record
import AgentConsole.Lib.Run
import AgentConsole.Web.Inbox

/-! # The commands of the web transport

A command stays in two tables.  `commandWaiters` has the calls that wait for a first receipt,
for fifteen seconds; `pendingCommands` has what is sent again when a connection comes back,
as long as the Bridge has not accepted it.  A receipt settles both, a wait that runs out
settles the first alone.

The link opens connections in the background.  Several openings can be on their way at one
time, each with the answer it awaits. -/

namespace AgentConsole.Web.Commands

open AgentConsole.Lib
open AgentConsole.Web.Inbox (ReceiptStatus)

abbrev RequestId := String

/-! ## The link -/

/-- `WebSocket.readyState` of the current socket. -/
inductive ReadyState where
  | connecting | opened | closing
  deriving DecidableEq, Repr

structure Socket where
  serial : Nat
  readyState : ReadyState
  deriving DecidableEq, Repr

/-- What an opening awaits. -/
inductive Stage where
  | session
  | ticket
  | handshake (socket : Nat)
  | reconcile
  deriving DecidableEq, Repr

/-- A run of `openSocket`; `resends` when `resendPendingCommands` comes after it. -/
structure Opening where
  resends : Bool
  stage : Stage
  deriving DecidableEq, Repr

structure Link where
  closed : Bool
  socket : Option Socket
  sockets : Nat
  reconnectTimer : Bool
  handshakeInFlight : Bool
  openings : Record Nat Opening
  nextOpening : Nat

namespace Link

def new : Link := ⟨false, none, 0, false, false, .empty, 0⟩

def isOpen (l : Link) : Bool := l.socket.any (·.readyState = .opened)

def start (l : Link) (opening : Opening) : Link :=
  { l with openings := l.openings.set l.nextOpening opening, nextOpening := l.nextOpening + 1 }

/-- `connect`: the session is asked for before the first socket. -/
def connect (l : Link) : Link := { l with closed := false }.start ⟨false, .session⟩

/-- `openSocket` of a reconnect. -/
def reopen (l : Link) : Link := { l with handshakeInFlight := true }.start ⟨true, .ticket⟩

def retryLink (l : Link) : Link :=
  if l.closed || l.handshakeInFlight || l.isOpen then l else { l with reconnectTimer := false }.reopen

def scheduleReconnect (l : Link) : Link :=
  if l.closed || l.reconnectTimer then l else { l with reconnectTimer := true }

/-- The timer of `scheduleReconnect` fires. -/
def reconnect (l : Link) : Link :=
  if l.reconnectTimer then { l with reconnectTimer := false }.reopen else l

def move (l : Link) (n : Nat) (opening : Opening) (stage : Stage) : Link :=
  { l with openings := l.openings.set n { opening with stage := stage } }

def forget (l : Link) (n : Nat) : Link := { l with openings := l.openings.erase n }

/-- `openSocket` has come to its end. -/
def finish (l : Link) (n : Nat) : Link := { l with handshakeInFlight := false }.forget n

def newSocket (l : Link) : Link :=
  { l with socket := some ⟨l.sockets, .connecting⟩, sockets := l.sockets + 1 }

def setReadyState (l : Link) (serial : Nat) (readyState : ReadyState) : Link :=
  match l.socket with
  | some socket => if socket.serial = serial then { l with socket := some ⟨serial, readyState⟩ } else l
  | none => l

/-- `close` of the current socket: of a heartbeat, a protocol error or the handshake timer. -/
def closeSocket (l : Link) : Link :=
  match l.socket with
  | some socket => { l with socket := some { socket with readyState := .closing } }
  | none => l

/-- `handleClose`; after an expired login or a protocol mismatch there is no reconnect. -/
def handleClose (l : Link) (serial : Nat) (reconnects : Bool) : Link :=
  if l.socket.any (·.serial = serial) then
    let gone := { l with socket := none }
    if gone.closed || !reconnects then gone else gone.scheduleReconnect
  else l

end Link

/-! ## The tables of commands -/

/-- An `Envelope` with a command request, and the length of its binary form. -/
structure Envelope where
  requestId : RequestId
  length : Nat
  deriving DecidableEq, Repr

def MAX_FRAME_BYTES : Nat := 1024 * 1024

structure PendingCommand where
  envelope : Envelope
  accepted : Bool
  deriving DecidableEq, Repr

/-- The wait of a call: its timer runs, or the query after it is on its way. -/
inductive Wait where
  | timer (requestId : RequestId)
  | query (requestId : RequestId)
  deriving DecidableEq, Repr

/-- How a `sendCommand` has ended. -/
inductive Verdict where
  | receipt (status : ReceiptStatus)
  | error
  deriving DecidableEq, Repr

def isTerminalReceipt : ReceiptStatus → Bool
  | .completed | .rejected | .outcomeUnknown => true
  | .received | .acceptedByBridge | .dispatchedToCodex => false

def Verdict.terminal : Verdict → Bool
  | .receipt status => isTerminalReceipt status
  | .error => true

inductive Entry where
  | sent (requestId : RequestId)
  | settled (requestId : RequestId) (verdict : Verdict)
  deriving DecidableEq, Repr

/-- `log` has the command frames and the verdicts, the newest first; `timedOut` and
`refused` are the requests that got their verdict after the timer and from an exception.
All three are ghosts. -/
structure Transport where
  link : Link
  pendingCommands : Record RequestId PendingCommand
  commandWaiters : Record RequestId Nat
  waits : Record Nat Wait
  nextCall : Nat
  log : List Entry
  timedOut : List RequestId
  refused : List RequestId

namespace Transport

def new : Transport := ⟨.new, .empty, .empty, .empty, 0, [], [], []⟩

/-- `send` of a command; nothing when the encoder throws. -/
def send (t : Transport) (envelope : Envelope) : Option Transport :=
  if t.link.isOpen then
    if MAX_FRAME_BYTES < envelope.length then none
    else some { t with log := .sent envelope.requestId :: t.log }
  else some t

/-- `sendCommand` throws. -/
def refuse (t : Transport) (requestId : RequestId) : Transport :=
  { t with log := .settled requestId .error :: t.log, refused := requestId :: t.refused }

/-- `sendCommand` up to the wait for a receipt, with the call's wait and its pending command
in place before the frame is sent. -/
def await (t : Transport) (envelope : Envelope) : Transport :=
  { t with
    commandWaiters := t.commandWaiters.set envelope.requestId t.nextCall
    waits := t.waits.set t.nextCall (.timer envelope.requestId)
    nextCall := t.nextCall + 1
    pendingCommands := t.pendingCommands.set envelope.requestId ⟨envelope, false⟩ }

/-- `keyed` when the keys of the session are loaded. -/
def sendCommand (t : Transport) (envelope : Envelope) (keyed : Bool) : Transport :=
  if !keyed || !t.link.isOpen then t.refuse envelope.requestId
  else
    match (t.await envelope).send envelope with
    | none => (t.await envelope).refuse envelope.requestId
    | some sent => sent

def markAccepted (pendingCommands : Record RequestId PendingCommand) (requestId : RequestId)
    (status : ReceiptStatus) : Record RequestId PendingCommand :=
  match pendingCommands.get? requestId with
  | some pending =>
    if status = .acceptedByBridge then
      pendingCommands.set requestId { pending with accepted := true }
    else pendingCommands
  | none => pendingCommands

/-- The pending commands after a receipt. -/
def noteReceipt (pendingCommands : Record RequestId PendingCommand) (requestId : RequestId)
    (status : ReceiptStatus) : Record RequestId PendingCommand :=
  let marked := markAccepted pendingCommands requestId status
  if isTerminalReceipt status then marked.erase requestId else marked

def handleReceipt (t : Transport) (requestId : RequestId) (status : ReceiptStatus) : Transport :=
  let noted := { t with pendingCommands := noteReceipt t.pendingCommands requestId status }
  match t.commandWaiters.get? requestId with
  | none => noted
  | some call =>
    { noted with
      commandWaiters := t.commandWaiters.erase requestId
      waits := t.waits.erase call
      log := .settled requestId (.receipt status) :: t.log }

/-- The timer of a wait fires; the pending command stays as it is. -/
def timeOut (t : Transport) (call : Nat) : Transport :=
  match t.waits.get? call with
  | some (.timer requestId) =>
    { t with
      commandWaiters := t.commandWaiters.erase requestId
      waits := t.waits.set call (.query requestId) }
  | _ => t

/-- `settleReceiptAfterTimeout`: what the query says, unless it knows nothing. -/
def statusAfterTimeout : Option ReceiptStatus → ReceiptStatus
  | none | some .received => .outcomeUnknown
  | some status => status

def settleReceiptAfterTimeout (t : Transport) (call : Nat) (answer : Option ReceiptStatus) :
    Transport :=
  match t.waits.get? call with
  | some (.query requestId) =>
    let status := statusAfterTimeout answer
    { t with
      waits := t.waits.erase call
      log := .settled requestId (.receipt status) :: t.log
      timedOut := if isTerminalReceipt status then requestId :: t.timedOut else t.timedOut }
  | _ => t

/-- The loop of `resendPendingCommands`; an envelope the encoder does not take ends it. -/
def resend (t : Transport) : List PendingCommand → Transport × Bool
  | [] => (t, true)
  | pending :: rest =>
    if pending.accepted then t.resend rest
    else
      match t.send pending.envelope with
      | none => (t, false)
      | some sent => sent.resend rest

def resendPendingCommands (t : Transport) : Transport :=
  match t.resend t.pendingCommands.values with
  | (sent, true) => sent
  | (sent, false) => { sent with link := sent.link.scheduleReconnect }

/-- `disconnect`: every waiting call is rejected. -/
def disconnect (t : Transport) : Transport :=
  let rejected := t.commandWaiters.entries
  { t with
    link := { t.link with closed := true, reconnectTimer := false }.closeSocket
    commandWaiters := .empty
    waits := rejected.foldl (fun waits waiter => waits.erase waiter.2) t.waits
    pendingCommands := .empty
    log := rejected.foldl (fun log waiter => .settled waiter.1 .error :: log) t.log }

/-! ## What happens -/

inductive Answer where
  | done | authRequired | failed
  deriving DecidableEq, Repr

inductive Event where
  | connect
  | retryLink
  | reconnect
  | opening (n : Nat) (answer : Answer)
  | opened (socket : Nat)
  | closeSocket
  | closed (socket : Nat) (reconnects : Bool)
  | disconnect
  | sendCommand (envelope : Envelope) (keyed : Bool)
  | message (socket : Nat) (requestId : RequestId) (status : ReceiptStatus)
  | reconciled (n : Nat) (requestId : RequestId) (status : ReceiptStatus)
  | timeOut (call : Nat)
  | queried (call : Nat) (answer : Option ReceiptStatus)
  deriving DecidableEq, Repr

/-- What the opening does next, by what it awaited and the answer. -/
inductive Next where
  | moved (link : Link)
  | finished
  | thrown (link : Link)

def next (l : Link) (n : Nat) (opening : Opening) : Answer → Next
  | .done =>
    match opening.stage with
    | .session => .moved ({ l with handshakeInFlight := true }.move n opening .ticket)
    | .ticket =>
      if l.closed then .finished
      else .moved (l.newSocket.move n opening (.handshake l.sockets))
    | .handshake socket =>
      if l.closed || !l.socket.any (·.serial = socket) then .finished
      else .moved (l.move n opening .reconcile)
    | .reconcile => .finished
  | .authRequired =>
    match opening.stage with
    | .session => .thrown (l.forget n)
    | .ticket | .handshake _ => .thrown (l.finish n)
    | .reconcile => .finished
  | .failed =>
    match opening.stage with
    | .session => .thrown (l.forget n)
    | .ticket => .thrown (l.scheduleReconnect.finish n)
    | .handshake _ => .thrown ((if opening.resends then l.scheduleReconnect else l).finish n)
    | .reconcile => .finished

def finish (t : Transport) (n : Nat) (opening : Opening) : Transport :=
  let finished := { t with link := t.link.finish n }
  if opening.resends then finished.resendPendingCommands else finished

def proceed (t : Transport) (n : Nat) (answer : Answer) : Transport :=
  match t.link.openings.get? n with
  | none => t
  | some opening =>
    match next t.link n opening answer with
    | .moved link => { t with link := link }
    | .finished => t.finish n opening
    | .thrown link => { t with link := link }

def step (t : Transport) : Event → Transport
  | .connect => { t with link := t.link.connect }
  | .retryLink => { t with link := t.link.retryLink }
  | .reconnect => { t with link := t.link.reconnect }
  | .opening n answer => t.proceed n answer
  | .opened socket =>
    if t.link.socket = some ⟨socket, .connecting⟩ then
      { t with link := t.link.setReadyState socket .opened }
    else t
  | .closeSocket => { t with link := t.link.closeSocket }
  | .closed socket reconnects => { t with link := t.link.handleClose socket reconnects }
  | .disconnect => t.disconnect
  | .sendCommand envelope keyed => t.sendCommand envelope keyed
  | .message socket requestId status =>
    if t.link.socket.any (·.serial = socket) then t.handleReceipt requestId status else t
  | .reconciled n requestId status =>
    match t.link.openings.get? n with
    | some ⟨_, .reconcile⟩ => t.handleReceipt requestId status
    | _ => t
  | .timeOut call => t.timeOut call
  | .queried call answer => t.settleReceiptAfterTimeout call answer

end Transport

end AgentConsole.Web.Commands
