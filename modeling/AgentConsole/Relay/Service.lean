import AgentConsole.Relay.Hub
import AgentConsole.Relay.Store

/-! # The Relay as a system of tasks

The hub's lock and the database's statements are the atomic steps; between two
of them a task awaits, and any other task may run.  A Bridge connection is a
`BridgeTask` (`bridge_session`), a browser's command a `CommandTask`
(`on_browser_command`), and the graceful shutdown a list of receipts that are
left to write.  `Service.step` advances one task by one atomic step. -/

namespace AgentConsole.Relay

open AgentConsole.Lib

/-- `writes_allowed`. -/
def HubInner.writesAllowed (now : Nat) (h : HubInner) : Bool :=
  h.degradedUntil.all fun until_ => decide (now < until_)

/-! ## Tasks -/

/-- A call of `update_receipt` that a task has still to make. -/
structure ReceiptWrite where
  requestId : String
  status : ReceiptStatus
  errorCode : StableErrorCode
deriving DecidableEq

/-- Where a `bridge_session` stands; each phase is named after the step that is
made next. -/
inductive BridgePhase where
  | forceClose
  | register
  | ensureBindings
  | sendSubscribes (envs : List (Uuid × Envelope))
  | setOnline
  | presenceOnline
  | reading
  | storing (env : Envelope) (device : Uuid) (summaries : List SessionSummary)
  | handling (env : Envelope)
  | settling (write : ReceiptWrite)
  | removeBridge
  | setOffline (left : List String)
  | presenceOffline (left : List String)
  | finalising (left : List String)
deriving DecidableEq

/-- The session is registered and its socket is being read. -/
def BridgePhase.live : BridgePhase → Bool
  | .forceClose | .register => false
  | .removeBridge | .setOffline _ | .presenceOffline _ | .finalising _ => false
  | _ => true

/-- The commands whose receipts the cleanup has still to write. -/
def BridgePhase.left : BridgePhase → List String
  | .setOffline left | .presenceOffline left | .finalising left => left
  | _ => []

/-- The session has left its loop and has not finished its cleanup. -/
def BridgePhase.cleaning : BridgePhase → Bool
  | .removeBridge | .setOffline _ | .presenceOffline _ => true
  | .finalising left => !left.isEmpty
  | _ => false

/-- `bridge_session`.  `stamp` counts the registrations of the Relay: a session
with a higher stamp registered later, and 0 stands for none yet. -/
structure BridgeTask where
  device : Uuid
  owner : Uuid
  stamp : Nat
  phase : BridgePhase
deriving DecidableEq

/-- Where an `on_browser_command` stands. -/
inductive CommandPhase where
  | checkShutdown
  | checkWrites
  | checkExpiry
  | checkOwner
  | checkOnline (device : Uuid) (key : SessionKey)
  | findSession (device : Uuid) (key : SessionKey)
  | pickDevice
  | insertReceipt (device : Uuid) (session : Option Uuid)
  | replay (session : Option Uuid)
  | register (device : Uuid)
  | send (device : Uuid)
  | takeBack
  | reject
  | reply (result : CommandResult)
  | rejectedReply
  | done
deriving DecidableEq

/-- The next step hands the command to the Bridge. -/
def CommandPhase.sends : CommandPhase → Bool
  | .send _ => true
  | _ => false

/-- The next step stores the receipt of a new request. -/
def CommandPhase.admits : CommandPhase → Bool
  | .insertReceipt .. => true
  | _ => false

/-- `on_browser_command`, after it has read the identity of the connection. -/
structure CommandTask where
  conn : Uuid
  ident : BrowserIdentity
  request : CommandRequest
  phase : CommandPhase
deriving DecidableEq

/-- The state of the Relay.  `registrations`, `dispatched` and `finals` are
history variables: the number of registrations so far, the commands handed over
with their device and the number of registrations by then, and the request ids
whose accepted command was answered with a terminal result. -/
structure Service where
  hub : HubInner
  db : Database
  bridges : FiniteMap Nat BridgeTask
  commands : FiniteMap Nat CommandTask
  shutdown : List String
  registrations : Nat
  dispatched : List (String × Uuid × Nat)
  finals : List String

/-- What a step reads from outside: the hub's context, whether the database
executes the statement, a fresh row id and the digest of a request. -/
structure ServiceCtx where
  ctx : Ctx
  dbOk : Bool
  freshRow : Uuid
  sha256 : CommandRequest → String

/-- A context for concrete runs. -/
def ServiceCtx.idle : ServiceCtx :=
  { ctx := .idle 0, dbOk := true, freshRow := default, sha256 := fun _ => "" }

/-- The sections of the hub that belong to the tasks below. -/
def HubOp.ofTask : HubOp → Bool
  | .registerBridge .. | .ensureBindings .. | .removeBridge _ | .beginShutdown
  | .bridgeEnvelope .. | .fanOutPresence .. | .registerCommand .. | .takeCommand _
  | .commandReply .. => true
  | _ => false

inductive ServiceOp where
  | hub (op : HubOp) (other : op.ofTask = false)
  | setDevice (device : Uuid) (row : DeviceRow)
  | accept (id : Nat) (device owner : Uuid)
  | receive (id : Nat) (env : Envelope)
  | hangUp (id : Nat)
  | bridge (id : Nat)
  | request (id : Nat) (conn : Uuid) (request : CommandRequest)
  | command (id : Nat)
  | beginShutdown
  | shutdownReceipt

structure ServiceStep where
  env : ServiceCtx
  op : ServiceOp

namespace Service

def new : Service where
  hub := .new
  db := .empty
  bridges := ∅
  commands := ∅
  shutdown := []
  registrations := 0
  dispatched := []
  finals := []

/-- `update_receipt`, if the database executes it; every caller ignores a
failure. -/
def updateReceipt (env : ServiceCtx) (write : ReceiptWrite) (w : Service) : Service :=
  if env.dbOk then
    { w with db := w.db.updateReceipt write.requestId write.status write.errorCode }
  else w

@[simp] theorem updateReceipt_hub (env : ServiceCtx) (write : ReceiptWrite) (w : Service) :
    (w.updateReceipt env write).hub = w.hub := by
  unfold updateReceipt
  split <;> rfl

@[simp] theorem updateReceipt_bridges (env : ServiceCtx) (write : ReceiptWrite) (w : Service) :
    (w.updateReceipt env write).bridges = w.bridges := by
  unfold updateReceipt
  split <;> rfl

def outcomeUnknownWrite (requestId : String) : ReceiptWrite :=
  ⟨requestId, .outcomeUnknown, .outcomeUnknown⟩

/-! ## Messages of a Bridge -/

/-- The error code as the receipt stores it: an unknown number is stored as
INTERNAL_ERROR. -/
def storedError : StableErrorCode → StableErrorCode
  | .other code => if 0 < code ∧ code ≤ 32 then .other code else .internalError
  | code => code

/-- The status name `on_command_result` stores. -/
def storedStatus : ReceiptStatus → ReceiptStatus
  | .unspecified => .received
  | status => status

/-- The receipt a message updates after its locked section. -/
def receiptWrite (env : Envelope) : Option ReceiptWrite :=
  match env.payload with
  | some (.commandAccepted accepted) =>
    if accepted.status = .acceptedByBridge then
      some ⟨accepted.requestId, .acceptedByBridge, .unspecified⟩
    else none
  | some (.commandResult result) =>
    some ⟨result.requestId, storedStatus result.status, storedError result.errorCode⟩
  | _ => none

/-- The request ids that a message answers for good. -/
def finished (env : Envelope) (h : HubInner) : List String :=
  match env.payload with
  | some (.commandResult result) =>
    if result.status.terminal && h.commands.contains result.requestId then [result.requestId]
    else []
  | _ => []

/-- `handle_bridge_envelope` starts: a summary batch is stored before the lock
is taken. -/
def afterReceive (device : Uuid) (env : Envelope) : BridgePhase :=
  match env.payload with
  | some (.sessionSummaryBatch batch) =>
    .storing env (Database.batchDevice device batch) batch.summaries
  | _ => .handling env

def afterHandling (env : Envelope) : BridgePhase :=
  match receiptWrite env with
  | some write => .settling write
  | none => .reading

/-! ## One step of `bridge_session` -/

def setBridge (id : Nat) (task : BridgeTask) (phase : BridgePhase) (w : Service) : Service :=
  { w with bridges := w.bridges.insert id { task with phase } }

def bridgeStep (env : ServiceCtx) (id : Nat) (task : BridgeTask) (w : Service) : Service :=
  match task.phase with
  | .forceClose =>
    { w with hub := w.hub.forceCloseBridge task.device }.setBridge id task .register
  | .register =>
    let stamp := w.registrations + 1
    { w with
      hub := w.hub.registerBridge task.device task.owner stamp
      registrations := stamp }.setBridge id { task with stamp } .ensureBindings
  | .ensureBindings =>
    let (hub, envs) := w.hub.ensureBindings env.ctx task.device task.owner
    { w with hub }.setBridge id task (.sendSubscribes envs)
  | .sendSubscribes [] => w.setBridge id task .setOnline
  | .sendSubscribes (e :: rest) =>
    { w with hub := (w.hub.sendToBridge env.ctx e.1 e.2).1 }.setBridge id task
      (.sendSubscribes rest)
  | .setOnline =>
    let db := if env.dbOk then w.db.setDeviceConnection task.device .online else w.db
    { w with db }.setBridge id task .presenceOnline
  | .presenceOnline =>
    { w with hub := w.hub.fanOutPresence env.ctx task.device task.owner true }.setBridge id task
      .reading
  | .reading => w
  | .storing message _ [] => w.setBridge id task (.handling message)
  | .storing message device (summary :: rest) =>
    let (db, stored) := w.db.upsertSummary device env.freshRow summary
    -- a failed statement ends the upsert, and the message is handled all the same
    if env.dbOk && stored then { w with db }.setBridge id task (.storing message device rest)
    else w.setBridge id task (.handling message)
  | .handling message =>
    { w with
      hub := w.hub.handleBridgeEnvelope env.ctx task.device message
      finals := w.finals ++ finished message w.hub }.setBridge id task (afterHandling message)
  | .settling write => (w.updateReceipt env write).setBridge id task .reading
  | .removeBridge =>
    let (hub, pending) := w.hub.removeBridge env.ctx task.device
    let left := pending.map (·.1)
    { w with hub, finals := w.finals ++ left }.setBridge id task (.setOffline left)
  | .setOffline left =>
    let db := if env.dbOk then w.db.setDeviceConnection task.device .offline else w.db
    { w with db }.setBridge id task (.presenceOffline left)
  | .presenceOffline left =>
    { w with hub := w.hub.fanOutPresence env.ctx task.device task.owner false }.setBridge id task
      (.finalising left)
  | .finalising [] => w
  | .finalising (requestId :: rest) =>
    (w.updateReceipt env (outcomeUnknownWrite requestId)).setBridge id task (.finalising rest)

/-! ## One step of `on_browser_command` -/

/-- `command_rejected`. -/
def commandRejected (requestId : String) (errorCode : StableErrorCode) : CommandResult :=
  { requestId, status := .rejected, errorCode, details := [], durationMs := none }

/-- `canonical_browser_command_digest`. -/
def canonicalBrowserCommandDigest (env : ServiceCtx) (request : CommandRequest) : String :=
  env.sha256 { request with requestId := "", payloadDigest := "" }

/-- The answer to a request whose id has a receipt already. -/
def replayResult (env : ServiceCtx) (task : CommandTask) (session : Option Uuid)
    (existing : ReceiptRow) : CommandResult :=
  if existing.ownerId ≠ task.ident.ownerId ∨ existing.sessionId ≠ session ∨
      existing.operation ≠ task.request.operation ∨
      existing.payloadDigest ≠ canonicalBrowserCommandDigest env task.request then
    commandRejected task.request.requestId .duplicateRequestMismatch
  else
    { commandRejected task.request.requestId existing.errorCode with status := existing.status }

/-- Push a result to the connection the request came from. -/
def pushResult (env : ServiceCtx) (task : CommandTask) (result : CommandResult) (w : Service) :
    Service :=
  let answer := baseEnvelope env.ctx.now "" (.commandResult result)
  { w with hub := w.hub.reply env.ctx task.conn answer }

def setCommand (id : Nat) (task : CommandTask) (phase : CommandPhase) (w : Service) : Service :=
  { w with commands := w.commands.insert id { task with phase } }

def commandStep (env : ServiceCtx) (id : Nat) (task : CommandTask) (w : Service) : Service :=
  let rejected := commandRejected task.request.requestId
  let go (phase : CommandPhase) (w : Service) : Service := w.setCommand id task phase
  match task.phase with
  | .checkShutdown =>
    if w.hub.shutdown then w |> go (.reply (rejected .internalError)) else w |> go .checkWrites
  | .checkWrites =>
    if w.hub.writesAllowed env.ctx.now then w |> go .checkExpiry
    else w |> go (.reply { rejected .internalError with
      details := [("reason", "AUTH_BACKEND_UNAVAILABLE")] })
  | .checkExpiry =>
    if task.ident.expiresAt ≤ env.ctx.now then
      { w with hub := w.hub.closeBrowser task.conn } |> go .done
    else if task.request.sessionKey.isSome then w |> go .checkOwner
    else w |> go .pickDevice
  | .checkOwner =>
    match task.request.sessionKey.bind fun key => (Uuid.parse key.deviceId).map (·, key) with
    | none => w |> go (.reply (rejected .sessionNotFound))
    | some (device, key) =>
      if env.dbOk && w.db.ownsDevice task.ident.ownerId device then w |> go (.checkOnline device key)
      else w |> go (.reply (rejected .sessionNotFound))
  | .checkOnline device key =>
    if w.hub.isOnline device then w |> go (.findSession device key)
    else w |> go (.reply (rejected .deviceOffline))
  | .findSession device key =>
    match w.db.findSession device (agentKindName key.agentKind) key.nativeSessionId with
    | some session =>
      if env.dbOk then w |> go (.insertReceipt device (some session))
      else w |> go (.reply (rejected .sessionNotFound))
    | none => w |> go (.reply (rejected .sessionNotFound))
  | .pickDevice =>
    match w.hub.onlineDevicesOfOwner task.ident.ownerId with
    | [device] => w |> go (.insertReceipt device none)
    | [] => w |> go (.reply (rejected .deviceOffline))
    | _ => w |> go (.reply (rejected .capabilityUnsupported))
  | .insertReceipt device session =>
    if env.dbOk then
      let (db, inserted) := w.db.insertReceipt task.request.requestId
        { ownerId := task.ident.ownerId
          sessionId := session
          operation := task.request.operation
          payloadDigest := canonicalBrowserCommandDigest env task.request
          status := .received
          errorCode := .unspecified }
      if inserted then { w with db } |> go (.register device) else w |> go (.replay session)
    else w |> go (.reply (rejected .internalError))
  | .replay session =>
    match w.db.receipts.get? task.request.requestId with
    | some existing =>
      if env.dbOk then w |> go (.reply (replayResult env task session existing)) else w |> go .done
    | none => w |> go .done
  | .register device =>
    let hub := w.hub.registerCommand task.request.requestId task.conn device task.request.operation
    { w with hub } |> go (.send device)
  | .send device =>
    let forward : Envelope :=
      { baseEnvelope env.ctx.now device.text (.commandRequest task.request) with
        correlationId := task.request.requestId }
    let (hub, sent) := w.hub.sendToBridge env.ctx device forward
    if sent then
      { w with
        hub
        dispatched := w.dispatched ++ [(task.request.requestId, device, w.registrations)] }
        |> go .done
    else { w with hub } |> go .takeBack
  | .takeBack => { w with hub := w.hub.takeCommand task.request.requestId } |> go .reject
  | .reject =>
    w.updateReceipt env ⟨task.request.requestId, .rejected, .deviceOffline⟩ |> go .rejectedReply
  | .reply result => w.pushResult env task result |> go .done
  | .rejectedReply =>
    { w.pushResult env task (rejected .deviceOffline) with
      finals := w.finals ++ [task.request.requestId] } |> go .done
  | .done => w

/-! ## Runs -/

def step (w : Service) (s : ServiceStep) : Service :=
  match s.op with
  | .hub op _ => { w with hub := w.hub.step ⟨s.env.ctx, op⟩ }
  | .setDevice device row => { w with db := { w.db with devices := w.db.devices.insert device row } }
  | .accept id device owner =>
    if w.bridges.contains id then w
    else { w with bridges := w.bridges.insert id ⟨device, owner, 0, .forceClose⟩ }
  | .receive id env =>
    match w.bridges.get? id with
    | some task =>
      if task.phase = .reading then w.setBridge id task (afterReceive task.device env) else w
    | none => w
  | .hangUp id =>
    match w.bridges.get? id with
    | some task => if task.phase = .reading then w.setBridge id task .removeBridge else w
    | none => w
  | .bridge id =>
    match w.bridges.get? id with
    | some task => w.bridgeStep s.env id task
    | none => w
  | .request id conn request =>
    if w.commands.contains id then w
    else
      match w.hub.browsers.get? conn with
      | some bc =>
        { w with commands := w.commands.insert id ⟨conn, bc.ident, request, .checkShutdown⟩ }
      | none => w
  | .command id =>
    match w.commands.get? id with
    | some task => w.commandStep s.env id task
    | none => w
  | .beginShutdown =>
    let (hub, pending) := w.hub.beginShutdown s.env.ctx
    let left := pending.map (·.1)
    { w with hub, shutdown := w.shutdown ++ left, finals := w.finals ++ left }
  | .shutdownReceipt =>
    match w.shutdown with
    | [] => w
    | requestId :: rest =>
      { w.updateReceipt s.env (outcomeUnknownWrite requestId) with shutdown := rest }

end Service

end AgentConsole.Relay
