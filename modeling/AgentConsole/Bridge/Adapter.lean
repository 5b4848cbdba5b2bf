import AgentConsole.Lib.Run
import AgentConsole.Bridge.Capabilities
import AgentConsole.Bridge.Ipc

/-! # Executing commands on the Desktop

`execute_command` writes to whichever Desktop is connected.  On the way it reads the
capabilities, asks the connection for the owner of the session, takes the connection
again, checks the expected turn and revision against the live projection, gates the
payload and only then writes.  Between any two of these another task may run: the attach
supervisor replaces the connection and afterwards publishes the capabilities probed for
it, and the pump moves the projections.

A command comes through `submit`, which looks at the declared operation and at a snapshot
of its own, or from the queue, which calls the executor directly.  What the store of
receipts does to a submission is left to `Gateway`; it never adds a command.

`Connection` numbers the attachments.  `probes`, `writes` and the fields of `Write` are
ghosts. -/

namespace AgentConsole.Bridge

open AgentConsole.Lib

abbrev Connection := Nat

/-- `RequestsQuestion`: a native request for input and the ids of its questions. -/
structure RequestsQuestion where
  requestId : String
  questions : List String
  deriving DecidableEq, Repr

/-- What the mapper of a session knows after a snapshot. -/
structure SessionView where
  projection : Projection
  cwd : Option String := none
  requests : List RequestsQuestion := []
  deriving DecidableEq, Repr

namespace CommandPayload

/-- The operation a payload is gated on; the others are never written to the Desktop. -/
def performs : CommandPayload → Option Operation
  | .startTurn _ => some .startTurn
  | .steer _ => some .steerTurn
  | .interrupt => some .interruptTurn
  | .answerQuestion _ _ _ => some .answerQuestion
  | .submitApproval _ _ => some .submitApproval
  | .updateSettings _ => some .updateSettings
  | .queueNextTurn _ _ | .cancelQueue | .pauseQueue | .stopBackgroundCommand _
  | .stopAllBackgroundCommands => none

/-- The native method that carries out an operation. -/
def method : CommandPayload → Option Ipc.Method
  | .startTurn _ => some .startTurn
  | .steer _ => some .steerTurn
  | .interrupt => some .interruptTurn
  | .answerQuestion _ _ _ => some .submitUserInput
  | .submitApproval _ _ => some .commandApprovalDecision
  | .updateSettings _ => some .updateThreadSettings
  | .queueNextTurn _ _ | .cancelQueue | .pauseQueue | .stopBackgroundCommand _
  | .stopAllBackgroundCommands => none

end CommandPayload

namespace Adapter

/-! ## Checks -/

/-- The gate on the payload's operation. -/
def gate (caps : Capabilities) (op : Operation) : Option BridgeError :=
  if op ∈ caps.supported then none
  else if caps.readOnly then
    some ⟨.controlReadOnly, "desktop capability probe did not enable this write"⟩
  else some ⟨.capabilityUnsupported, "operation not supported by current desktop version"⟩

/-- The adapter's check of the expected revision and turn, on the live mapper. -/
def stale (req : CommandRequest) (view : Option Projection) : Option BridgeError :=
  match view with
  -- no session or no snapshot yet: nothing to compare with
  | none => none
  | some p =>
    match req.expectedRuntimeRevision with
    | some expected =>
      if expected ≠ p.runtimeRevision ∧ ¬ req.permitsRevisionDrift p.currentTurn then
        let current := p.runtimeRevision
        some ⟨.staleTurn, s!"runtime revision moved {expected} -> {current}"⟩
      else staleTurn p.currentTurn
    | none => staleTurn p.currentTurn
where
  staleTurn (current : Option TurnId) : Option BridgeError :=
    match req.expectedTurnId, current with
    | some expected, some current =>
      if expected.id ≠ current.id then
        some ⟨.staleTurn, "target turn is no longer current"⟩
      else none
    | _, _ => none

/-- `answer_response_for` refuses a request with several questions. -/
def answerRefusal (requests : List RequestsQuestion) (questionId : String) :
    Option BridgeError :=
  match requests.find? fun request => request.requestId == questionId with
  | some request =>
    if request.questions.length = 1 then none
    else
      let id := request.requestId
      let count := request.questions.length
      some ⟨.capabilityUnsupported, s!"native request {id} carries {count} questions; " ++
        "a single remote answer card cannot answer all of them completely, " ++
        "handle it in Codex Desktop"⟩
  | none => none

/-- What the payload needs besides its operation. -/
def unprepared (req : CommandRequest) (view : Option SessionView) : Option BridgeError :=
  match req.payload with
  | .steer _ =>
    if (view.bind (·.cwd)).isNone then
      some ⟨.codexUnavailable, "steer requires current session context"⟩
    else none
  | .interrupt =>
    if req.expectedTurnId.isNone then
      some ⟨.internalError, "interrupt requires expected_turn_id"⟩
    else none
  | .answerQuestion questionId _ _ =>
    answerRefusal ((view.map (·.requests)).getD []) questionId
  | _ => none

/-- The receipt for payloads the adapter does not execute. -/
def notExecuted : ReceiptState :=
  .rejected .capabilityUnsupported ("queue lifecycle is owned by the commands layer; " ++
    "background-command stop has no verified native method")

/-! ## Tasks -/

/-- The call a task is waiting for, with what it has read so far. -/
inductive Job where
  /-- `submit` waits for the snapshot of its own check -/
  | snapshot (req : CommandRequest)
  | execute (req : CommandRequest)
  | ensureOwner (req : CommandRequest) (caps : Capabilities)
  | discovering (req : CommandRequest) (caps : Capabilities) (on : Connection)
  | owned (req : CommandRequest) (caps : Capabilities) (owner : String) (on : Connection)
  | check (req : CommandRequest) (caps : Capabilities) (owner : String) (on ipc : Connection)
  | prepare (req : CommandRequest) (caps : Capabilities) (owner : String)
      (on ipc : Connection) (seen : Option Projection)
  | dispatch (req : CommandRequest) (owner : String) (on ipc : Connection)
      (seen : Option Projection)
  | writing (req : CommandRequest)
  deriving DecidableEq, Repr

inductive Answer where
  | continued
  | owner (id : Option String)
  | failed (error : BridgeError)
  deriving DecidableEq, Repr

inductive Input where
  | submit (req : CommandRequest)
  /-- the queue sends its turn -/
  | autoSend (req : CommandRequest)
  | answer (task : Nat) (answer : Answer)
  /-- a new connection has shaken hands and been probed -/
  | attach (discovered : Option String)
  /-- `caps_tx.send_replace` of the attachment under way -/
  | publish
  /-- the pump applies a conversation state -/
  | applied (session : SessionId) (view : SessionView)
  deriving DecidableEq, Repr

/-- A request put on a connection. -/
structure Write where
  task : Nat
  ipc : Connection
  method : Ipc.Method
  request : CommandRequest
  owner : String
  /-- the connection that named the owner -/
  ownerFrom : Connection
  /-- the projection at the check of turn and revision -/
  seen : Option Projection
  deriving DecidableEq, Repr

/-- How a command has ended for its caller. -/
inductive Outcome where
  | failed (error : BridgeError)
  /-- a queue operation, run by the commands layer -/
  | isLocal
  | receipts
  deriving DecidableEq, Repr

end Adapter

structure Adapter where
  config : AdapterConfig
  ipc : Option Connection
  caps : Capabilities
  /-- the capabilities an attachment has still to publish -/
  attaching : Option Capabilities := none
  attachments : Nat
  probes : FiniteMap Connection CapabilityProbeInput
  sessions : FiniteMap SessionId SessionView := ∅
  tasks : FiniteMap Nat Adapter.Job := ∅
  spawned : Nat := 0
  outcomes : FiniteMap Nat Adapter.Outcome := ∅
  delivered : List (Nat × ReceiptState) := []
  writes : List Adapter.Write := []

namespace Adapter

/-- The adapter after its start, with the Desktop found or not. -/
def start (config : AdapterConfig) (connected : Bool) : Adapter where
  config := config
  ipc := if connected then some 0 else none
  caps := (config.startInput connected).probe.capabilities
  attachments := if connected then 1 else 0
  probes := if connected then (∅ : FiniteMap _ _).insert 0 (config.startInput true) else ∅

def projection (s : Adapter) (session : SessionId) : Option Projection :=
  (s.sessions.get? session).map (·.projection)

/-- The gateway's check of turn and revision, on the state its snapshot is taken from. -/
def gatewayVerdict (req : CommandRequest) (view : Option Projection) : Option BridgeError :=
  match view with
  | none => some ⟨.codexUnavailable, "no snapshot received before timeout"⟩
  | some p => Gateway.stale req p.runtimeSnapshot

/-! ## Steps -/

/-- Everything one answer makes a task do. -/
structure Move where
  next : Option Job := none
  ends : Option Outcome := none
  delivers : Option ReceiptState := none
  writes : Option Write := none
  deriving DecidableEq, Repr

/-- What `submit` does with a request that has passed its checks. -/
def handOver (req : CommandRequest) : Move :=
  if Gateway.isLocal req.payload then { ends := some .isLocal }
  else { next := some (.execute req) }

def Job.move (s : Adapter) (task : Nat) : Job → Answer → Option Move
  | .snapshot req, .continued =>
    match gatewayVerdict req (s.projection req.session) with
    | some error => some { ends := some (.failed error) }
    | none => some (handOver req)
  | .snapshot _, .failed error => some { ends := some (.failed error) }
  | .execute req, .continued => some { next := some (.ensureOwner req s.caps) }
  | .ensureOwner req caps, .continued =>
    match s.ipc with
    | none => some { ends := some (.failed ⟨.codexUnavailable, "ipc offline"⟩) }
    | some on => some { next := some (.discovering req caps on) }
  | .discovering req caps on, .owner (some id) => some { next := some (.owned req caps id on) }
  | .discovering _ _ _, .owner none =>
    some { ends := some (.failed
      ⟨.sessionNotFound, "session has no desktop owner (not open)"⟩) }
  | .discovering _ _ _, .failed error => some { ends := some (.failed error) }
  | .owned req caps owner on, .continued =>
    match s.ipc with
    | none => some { ends := some (.failed ⟨.codexUnavailable, "ipc offline"⟩) }
    | some ipc => some { next := some (.check req caps owner on ipc) }
  | .check req caps owner on ipc, .continued =>
    let seen := s.projection req.session
    match stale req seen with
    | some error => some { ends := some (.failed error) }
    | none => some { next := some (.prepare req caps owner on ipc seen) }
  | .prepare req caps owner on ipc seen, .continued =>
    match req.payload.performs with
    | none => some { ends := some .receipts, delivers := some notExecuted }
    | some op =>
      match (gate caps op).or (unprepared req (s.sessions.get? req.session)) with
      | some error => some { ends := some (.failed error) }
      | none =>
        some {
          next := some (.dispatch req owner on ipc seen)
          delivers := some .dispatchedToCodex }
  | .dispatch req owner on ipc seen, .continued =>
    some {
      next := some (.writing req)
      writes := req.payload.method.map fun method =>
        ⟨task, ipc, method, req, owner, on, seen⟩ }
  | .writing _, .continued => some { ends := some .receipts, delivers := some .completed }
  -- `map_ipc_write_error` of what the connection answers
  | .writing _, .failed error => some { ends := some (.failed error) }
  | _, _ => none

def perform (s : Adapter) (task : Nat) (m : Move) : Adapter :=
  { s with
    tasks := match m.next with
      | none => s.tasks.erase task
      | some job => s.tasks.insert task job
    outcomes := match m.ends with
      | none => s.outcomes
      | some outcome => s.outcomes.insert task outcome
    delivered := s.delivered ++ (m.delivers.map fun state => (task, state)).toList
    writes := s.writes ++ m.writes.toList }

def spawn (s : Adapter) (m : Move) : Adapter :=
  { s with spawned := s.spawned + 1 }.perform s.spawned m

/-- `submit` up to its first wait: the gate, then the snapshot where one is needed. -/
def admission (s : Adapter) (req : CommandRequest) : Move :=
  match ({} : Gateway).gate req s.caps with
  | some error => { ends := some (.failed error) }
  | none =>
    if Gateway.needsSnapshot req then { next := some (.snapshot req) } else handOver req

def step (s : Adapter) : Input → Adapter
  | .submit req => s.spawn (s.admission req)
  | .autoSend req => s.spawn { next := some (.execute req) }
  | .answer task answer =>
    match s.tasks.get? task with
    | none => s
    | some job =>
      match job.move s task answer with
      | none => s
      | some m => s.perform task m
  | .attach discovered =>
    -- one supervisor: the next attempt starts after the last has published
    if s.attaching.isSome then s
    else
      let input := s.config.attachInput discovered
      { s with
        ipc := some s.attachments
        attaching := some input.probe.capabilities
        attachments := s.attachments + 1
        probes := s.probes.insert s.attachments input }
  | .publish => { s with caps := s.attaching.getD s.caps, attaching := none }
  | .applied session view => { s with sessions := s.sessions.insert session view }

end Adapter
end AgentConsole.Bridge
