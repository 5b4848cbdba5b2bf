import AgentConsole.Lib.Run
import AgentConsole.Bridge.Domain

/-! # The command gateway

`submit` is the only entrance for write commands.  Behind three gates it records the
request in the local store, which tells a new request from a repetition, and then
hands it to the executor or to the queue.  The receipts of the executor are forwarded
by a task of their own; a shutdown writes a terminal receipt for every command that is
still in flight.

As for the queue, a `Job` is the call a task is waiting for, and one step of the system
is one answer to one task.  The forwarding task goes on under the number of the
submission it belongs to, which is also the caller's channel.  `record_receipt` is one
transaction and therefore one step.

The canonical digest of a payload is a parameter.  `Receipt.recorder`, `submitted`,
`executed`, `answers`, `delivered` and `drained` are ghosts. -/

namespace AgentConsole.Bridge

open AgentConsole.Lib

abbrev RequestId := Nat

inductive AgentKind where
  | codexDesktop | zcodeDesktop
  deriving DecidableEq, Repr

inductive Operation where
  | createSession | startTurn | queueNextTurn | steerTurn | interruptTurn | answerQuestion
  | submitApproval | updateSettings | renameSession | archiveSession | unarchiveSession
  | forkSession | stopBackgroundCommand | stopAllBackgroundCommands
  deriving DecidableEq, Repr

inductive CommandPayload where
  | startTurn (input : String)
  | steer (input : String)
  | interrupt
  | answerQuestion (questionId : String) (optionIds : List String) (freeText : Option String)
  | submitApproval (approvalId : String) (decisionId : String)
  | updateSettings (values : List (String × String))
  | queueNextTurn (input : String) (replace : Bool)
  | cancelQueue
  | pauseQueue
  | stopBackgroundCommand (commandId : String)
  | stopAllBackgroundCommands
  deriving DecidableEq, Repr

structure CommandRequest where
  requestId : RequestId
  operation : Operation
  deviceId : String
  agentKind : AgentKind
  session : SessionId
  expectedTurnId : Option TurnId := none
  expectedRuntimeRevision : Option Nat := none
  payload : CommandPayload
  deriving DecidableEq, Repr

/-- An interrupt names its turn, so later output of that turn does not make it stale. -/
def CommandRequest.permitsRevisionDrift (req : CommandRequest) (current : Option TurnId) : Bool :=
  req.payload = .interrupt && req.expectedTurnId.isSome && req.expectedTurnId == current

/-- What the capability provider answers: the supported operations, and whether the
control mode is read-only. -/
structure Capabilities where
  supported : List Operation
  readOnly : Bool
  deriving DecidableEq, Repr

/-- `StoredReceiptState`, which is also the status column of a receipt. -/
inductive StoredReceiptState where
  | received | acceptedByBridge | dispatchedToCodex | completed | rejected | outcomeUnknown
  deriving DecidableEq, Repr

/-- `receipt_status_str` -/
def ReceiptState.status : ReceiptState → StoredReceiptState
  | .dispatchedToCodex => .dispatchedToCodex
  | .completed => .completed
  | .rejected _ _ => .rejected
  | .outcomeUnknown => .outcomeUnknown

def StoredReceiptState.isTerminal : StoredReceiptState → Bool
  | .completed | .rejected | .outcomeUnknown => true
  | _ => false

/-- `RequestReceipt`; `recorder` is the submission that inserted it. -/
structure Receipt where
  session : SessionId
  operation : Operation
  status : StoredReceiptState
  digest : String
  recorder : Nat
  deriving DecidableEq, Repr

/-- What `submit` returns; the receipts of `accepted` are in the channel. -/
inductive Submission where
  | accepted
  | replayed (state : StoredReceiptState)
  | failed (error : BridgeError)
  deriving DecidableEq, Repr

namespace Gateway

/-! ## Tasks -/

/-- The call a task is waiting for.  In `update`, `send` and `remove`, `returns` says
that `submit` itself finalizes the receipt and returns afterwards. -/
inductive Job where
  | record (req : CommandRequest)
  | lookUp (req : CommandRequest)
  | register (req : CommandRequest)
  | snapshot (req : CommandRequest)
  | dispatch (req : CommandRequest) (validated : Option RuntimeSnapshot)
  | executing (req : CommandRequest)
  | forward (id : RequestId)
  | update (id : RequestId) (state : ReceiptState) (returns : Bool)
  | send (id : RequestId) (state : ReceiptState) (returns : Bool)
  | remove (id : RequestId) (returns : Bool)
  | drain
  | closing (pending : List (RequestId × Nat))
  | closeUpdate (id : RequestId) (caller : Nat) (rest : List (RequestId × Nat))
  | closeSend (id : RequestId) (caller : Nat) (rest : List (RequestId × Nat))
  deriving DecidableEq, Repr

inductive Answer where
  | stored
  | storeFailed (message : String)
  | snapshot (snapshot : RuntimeSnapshot)
  | unavailable (error : BridgeError)
  /-- a queue operation has returned -/
  | finished (result : Option BridgeError)
  /-- the executor takes the command and will send receipts -/
  | receipts
  | refused (error : BridgeError)
  | receipt (state : ReceiptState)
  | ended
  | picked (id : RequestId) (caller : Nat)
  | continued
  deriving DecidableEq, Repr

inductive Input where
  | submit (req : CommandRequest) (caps : Capabilities)
  | answer (task : Nat) (answer : Answer)
  | shutdown
  /-- the process ends and starts again; the store stays -/
  | restart
  deriving DecidableEq, Repr

end Gateway

structure Gateway where
  receipts : FiniteMap RequestId Receipt := ∅
  closed : Bool := false
  /-- the caller's channel of every command in flight -/
  inflight : FiniteMap RequestId Nat := ∅
  tasks : FiniteMap Nat Gateway.Job := ∅
  spawned : Nat := 0
  submitted : FiniteMap Nat CommandRequest := ∅
  executed : List (Nat × RequestId) := []
  answers : FiniteMap Nat Submission := ∅
  /-- the receipts put into the callers' channels -/
  delivered : List (Nat × ReceiptState) := []
  /-- the submissions that a shutdown has taken out of `inflight` -/
  drained : List Nat := []

namespace Gateway

/-! ## Checks -/

/-- The gates in front of the store: shutdown, agent kind and capability. -/
def gate (s : Gateway) (req : CommandRequest) (caps : Capabilities) : Option BridgeError :=
  if s.closed then
    some ⟨.deviceOffline, "bridge is shutting down; not accepting new commands"⟩
  else if req.agentKind = .zcodeDesktop ∧ ¬ answersHook req.payload then
    some ⟨.capabilityUnsupported, "operation not supported for zcode hook sessions"⟩
  else if req.operation ≠ .queueNextTurn ∧ req.operation ∉ caps.supported then
    if caps.readOnly then
      some ⟨.controlReadOnly, "desktop capability probe did not enable this write"⟩
    else
      some ⟨.capabilityUnsupported, "operation not supported by current desktop version"⟩
  else none
where
  answersHook : CommandPayload → Bool
    | .answerQuestion _ _ _ | .submitApproval _ _ => true
    | _ => false

def needsSnapshot (req : CommandRequest) : Bool :=
  req.expectedTurnId.isSome || req.expectedRuntimeRevision.isSome ||
    match req.payload with
    | .queueNextTurn _ _ => true
    | _ => false

/-- The error of a request whose revision or turn is no longer current. -/
def stale (req : CommandRequest) (snapshot : RuntimeSnapshot) : Option BridgeError :=
  match req.expectedRuntimeRevision with
  | some expected =>
    if expected ≠ snapshot.runtimeRevision ∧ ¬ req.permitsRevisionDrift snapshot.currentTurn then
      let current := snapshot.runtimeRevision
      some ⟨.staleTurn, s!"runtime revision moved {expected} -> {current}"⟩
    else staleTurn
  | none => staleTurn
where
  staleTurn : Option BridgeError :=
    if req.expectedTurnId.isSome ∧ snapshot.currentTurn ≠ req.expectedTurnId then
      some ⟨.staleTurn, "target turn is no longer current"⟩
    else none

/-- Queue operations are run by the Bridge itself. -/
def isLocal : CommandPayload → Bool
  | .queueNextTurn _ _ | .cancelQueue | .pauseQueue => true
  | _ => false

/-- An error of the executor: without proof that it was not executed, the outcome is
unknown. -/
def refusal (error : BridgeError) : ReceiptState :=
  if error.code = .outcomeUnknown then .outcomeUnknown else .rejected error.code error.message

/-! ## Steps -/

/-- Everything one answer makes a task do. -/
structure Move where
  next : Option Job := none
  inserts : Option (RequestId × Receipt) := none
  status : Option (RequestId × StoredReceiptState) := none
  registers : Option RequestId := none
  removes : Option RequestId := none
  drains : Bool := false
  executes : Option RequestId := none
  answers : Option Submission := none
  delivers : Option (Nat × ReceiptState) := none
  deriving DecidableEq, Repr

variable (digest : CommandPayload → String)

/-- The step of the task `task` on its answer; `none` when the call cannot be answered
so. -/
def Job.move (s : Gateway) (task : Nat) : Job → Answer → Option Move
  | .record req, answer =>
    match answer with
    | .stored =>
      match s.receipts.get? req.requestId with
      | some receipt =>
        if receipt.digest ≠ digest req.payload then
          let id := req.requestId
          some { answers := some (.failed
            ⟨.duplicateRequestMismatch, s!"duplicate request mismatch: {id}"⟩) }
        else some { next := some (.lookUp req) }
      | none =>
        some {
          next := some (.register req)
          inserts := some (req.requestId, ⟨req.session, req.operation, .acceptedByBridge,
            digest req.payload, task⟩) }
    | .storeFailed message => some { answers := some (.failed ⟨.internalError, message⟩) }
    | _ => none
  | .lookUp req, answer =>
    match answer with
    | .stored =>
      some { answers := some (.replayed
        (((s.receipts.get? req.requestId).map (·.status)).getD .acceptedByBridge)) }
    -- the repetition is recognised even if its receipt cannot be read
    | .storeFailed _ => some { answers := some (.replayed .acceptedByBridge) }
    | _ => none
  | .register req, answer =>
    match answer with
    | .continued =>
      some {
        next := some (if needsSnapshot req then .snapshot req else .dispatch req none)
        registers := some req.requestId }
    | _ => none
  | .snapshot req, answer =>
    match answer with
    | .unavailable error =>
      some { next := some (.update req.requestId (.rejected error.code error.message) true) }
    | .snapshot seen =>
      match stale req seen with
      | some error =>
        some { next := some (.update req.requestId (.rejected error.code error.message) true) }
      | none => some { next := some (.dispatch req (some seen)) }
    | _ => none
  | .dispatch req _, answer =>
    match answer with
    | .continued =>
      some { next := some (.executing req), executes := some req.requestId }
    | _ => none
  | .executing req, answer =>
    match answer with
    | .finished result =>
      if isLocal req.payload then
        let state := match result with
          | none => ReceiptState.completed
          | some error => .rejected error.code error.message
        some { next := some (.update req.requestId state true) }
      else none
    | .receipts =>
      if isLocal req.payload then none
      else some { next := some (.forward req.requestId), answers := some .accepted }
    | .refused error =>
      if isLocal req.payload then none
      else some { next := some (.update req.requestId (refusal error) true) }
    | _ => none
  -- `spawn_forward`
  | .forward id, answer =>
    match answer with
    | .receipt state => some { next := some (.update id state false) }
    | .ended => some { next := some (.update id .outcomeUnknown false) }
    | _ => none
  -- `finalize_receipt` and the forwarding loop share these three
  | .update id state returns, answer =>
    match answer with
    | .stored => some { next := some (.send id state returns), status := some (id, state.status) }
    | .storeFailed _ => some { next := some (.send id state returns) }
    | _ => none
  | .send id state returns, answer =>
    match answer with
    | .continued =>
      some {
        next := some (if state.isTerminal then .remove id returns else .forward id)
        delivers := some (task, state) }
    | _ => none
  | .remove id returns, answer =>
    match answer with
    | .continued =>
      some { removes := some id, answers := if returns then some .accepted else none }
    | _ => none
  -- `graceful_shutdown`
  | .drain, answer =>
    match answer with
    | .continued => some { next := some (.closing s.inflight.toList), drains := true }
    | _ => none
  | .closing pending, answer =>
    match answer with
    | .picked id caller =>
      if (id, caller) ∈ pending then
        some { next := some (.closeUpdate id caller (pending.erase (id, caller))) }
      else none
    | .ended => if pending = [] then some {} else none
    | _ => none
  | .closeUpdate id caller rest, answer =>
    match answer with
    | .stored =>
      some { next := some (.closeSend id caller rest), status := some (id, .outcomeUnknown) }
    | .storeFailed _ => some { next := some (.closeSend id caller rest) }
    | _ => none
  | .closeSend _ caller rest, answer =>
    match answer with
    | .continued =>
      some { next := some (.closing rest), delivers := some (caller, .outcomeUnknown) }
    | _ => none

/-- `update_receipt_status` -/
def setStatus (receipts : FiniteMap RequestId Receipt) (id : RequestId)
    (status : StoredReceiptState) : FiniteMap RequestId Receipt :=
  receipts.modify id fun receipt => { receipt with status }

/-- The task `task` performs `m`. -/
def perform (s : Gateway) (task : Nat) (m : Move) : Gateway :=
  let receipts := match m.inserts with
    | none => s.receipts
    | some (id, receipt) => s.receipts.insert id receipt
  let inflight := match m.registers with
    | none => s.inflight
    | some id => s.inflight.insert id task
  let inflight := match m.removes with
    | none => inflight
    | some id => inflight.erase id
  { s with
    receipts := match m.status with
      | none => receipts
      | some (id, status) => setStatus receipts id status
    inflight := if m.drains then ∅ else inflight
    tasks := match m.next with
      | none => s.tasks.erase task
      | some job => s.tasks.insert task job
    executed := s.executed ++ (m.executes.map fun id => (task, id)).toList
    answers := match m.answers with
      | none => s.answers
      | some answer => s.answers.insert task answer
    delivered := s.delivered ++ m.delivers.toList
    drained := if m.drains then s.drained ++ s.inflight.values else s.drained }

def step (s : Gateway) : Input → Gateway
  | .submit req caps =>
    let task := s.spawned
    let s := { s with spawned := task + 1, submitted := s.submitted.insert task req }
    match s.gate req caps with
    | some error => { s with answers := s.answers.insert task (.failed error) }
    | none => { s with tasks := s.tasks.insert task (.record req) }
  | .answer task answer =>
    match s.tasks.get? task with
    | none => s
    | some job =>
      match job.move digest s task answer with
      | none => s
      | some m => s.perform task m
  | .shutdown =>
    { s with
      closed := true
      tasks := s.tasks.insert s.spawned .drain
      spawned := s.spawned + 1 }
  | .restart => { s with closed := false, inflight := ∅, tasks := ∅ }

end Gateway
end AgentConsole.Bridge
