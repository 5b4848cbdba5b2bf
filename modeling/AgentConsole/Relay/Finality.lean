import AgentConsole.Lib.Run
import AgentConsole.Relay.Delivery
import AgentConsole.Relay.Reconnect
import AgentConsole.Relay.Ticket

/-! # How a command ends

A command is finished by its result, by the end of its Bridge's session, by the
shutdown or by a failed dispatch.  Each of these takes the command out of the
table under the lock and writes the receipt later, in a statement that has no
condition on the stored status.  As long as every answer finds its command in
the table and nobody takes a command out while a receipt write of it is
unfinished, the command has one terminal answer and its receipt keeps its
terminal status. -/

namespace AgentConsole.Relay

open AgentConsole.Lib

/-! ## The command table -/

namespace HubInner

variable {ctx : Ctx}

@[simp] theorem updateStream_commands (key : DKey) (op : StreamCell → StreamCell) (h : HubInner) :
    (h.updateStream key op).1.commands = h.commands := by
  unfold updateStream; split <;> rfl

@[simp] theorem onStream_commands (key : DKey) (op : StreamCell → StreamCell) (h : HubInner) :
    (h.onStream ctx key op).commands = h.commands := by
  simp [onStream]

@[simp] theorem onUpstream_commands (uid : String) (op : StreamCell → StreamCell) (h : HubInner) :
    (h.onUpstream ctx uid op).commands = h.commands := by
  unfold onUpstream; split <;> simp

@[simp] theorem ensureStream_commands (key : DKey) (fresh : Uuid) (h : HubInner) :
    (h.ensureStream key fresh).commands = h.commands := by
  unfold ensureStream; split <;> rfl

@[simp] theorem removeBrowser_commands (conn : Uuid) (h : HubInner) :
    (h.removeBrowser conn).commands = h.commands := by
  unfold removeBrowser detachSubscriber; split <;> rfl

@[simp] theorem subscribeUpstream_commands (key : DKey) (fresh : Uuid) (h : HubInner)
    (need : Uuid × TargetTag) : (subscribeUpstream ctx key fresh h need).commands = h.commands := by
  unfold subscribeUpstream
  dsimp only
  split <;> simp

@[simp] theorem ensureBindings_commands (device owner : Uuid) (h : HubInner) :
    (h.ensureBindings ctx device owner).1.commands = h.commands := by
  refine foldl_unchanged (ensureBinding ctx device) (fun acc => acc.1.commands)
    (fun acc key => ?_) _ (h, [])
  unfold ensureBinding
  dsimp only
  split <;> simp

@[simp] theorem fanOutPresence_commands (device owner : Uuid) (online : Bool) (h : HubInner) :
    (h.fanOutPresence ctx device owner online).commands = h.commands :=
  foldl_unchanged _ commands (fun h key => onStream_commands key _ h) _ h

@[simp] theorem handleUpstreamSnapshot_commands (uid : String) (env : Envelope) (h : HubInner) :
    (h.handleUpstreamSnapshot ctx uid env).commands = h.commands := by
  unfold handleUpstreamSnapshot
  split
  · rfl
  · next key _ =>
    rw [foldl_unchanged (flushBatch ctx key) commands, onStream_commands]
    intro h batch
    unfold flushBatch fanOutEvents
    dsimp only
    split <;> simp

@[simp] theorem closeAllBrowsers_commands (h : HubInner) :
    h.closeAllBrowsers.commands = h.commands :=
  foldl_unchanged _ commands (fun h conn => removeBrowser_commands conn h) _ h

@[simp] theorem foldl_abandonCommand_commands (pending : List (String × PendingCommand))
    (h : HubInner) : (pending.foldl (abandonCommand ctx) h).commands = h.commands :=
  foldl_unchanged (abandonCommand ctx) commands (fun _ _ => rfl) pending h

/-- Only the sections of the tasks touch the command table. -/
theorem step_commands {op : HubOp} (other : op.ofTask = false) (h : HubInner) :
    (h.step ⟨ctx, op⟩).commands = h.commands := by
  unfold step
  cases op with
  | closeBrowser conn => dsimp only [closeBrowser]; split <;> simp
  | closeAllBrowsers => exact closeAllBrowsers_commands h
  | removeBrowser conn => exact removeBrowser_commands conn h
  | sendToBridge device env => exact sendToBridge_commands device env h
  | subscribeBind conn key needs fresh =>
    dsimp only [subscribeBind]
    split
    · exact foldl_unchanged _ commands (fun h need => subscribeUpstream_commands key fresh h need) _ h
    · rfl
  | subscribeAttach conn key correlation fresh =>
    dsimp only [subscribeAttach]
    split <;> simp
  | browserUnsubscribe conn streamId => dsimp only [browserUnsubscribe]; split <;> simp
  | browserResync conn streamId correlation => dsimp only [browserResync]; split <;> simp
  | browserAck conn streamId sequence => dsimp only [browserAck]; split <;> simp
  | sweepGlobalMemory order =>
    dsimp only [sweepGlobalMemory]
    split
    · split <;> simp [reclaimStreams]
    · rfl
  | registerBridge | ensureBindings | removeBridge | beginShutdown | bridgeEnvelope
  | fanOutPresence | registerCommand | takeCommand | commandReply => cases other
  | _ => rfl

/-- A message takes out the command it finishes and no other. -/
theorem handleBridgeEnvelope_commands (ctx : Ctx) (device : Uuid) (env : Envelope) (h : HubInner)
    (requestId : String) :
    (h.handleBridgeEnvelope ctx device env).commands.get? requestId =
      if requestId ∈ Service.finished env h then none else h.commands.get? requestId := by
  unfold handleBridgeEnvelope Service.finished
  cases env.payload with
  | none => simp
  | some payload =>
    cases payload with
    | commandResult result =>
      dsimp only [onCommandResult]
      cases pending : h.commands.get? result.requestId with
      | none => simp [FiniteMap.contains, pending]
      | some p =>
        by_cases terminal : result.status.terminal = true
        · simp [terminal, FiniteMap.contains, pending, FiniteMap.get?_erase, reply]
        · simp [terminal, reply]
    | commandAccepted accepted => dsimp only [onCommandAccepted]; split <;> simp [reply]
    | sessionSummaryBatch batch => dsimp only; split <;> simp [fanOutEvents]
    | _ => simp [fanOutEvents]

end HubInner

/-! ## Unfinished receipt writes -/

def CommandPhase.stage : CommandPhase → Option CommandStage
  | .register _ => some .admitted
  | .send _ | .takeBack => some .dispatching
  | .reject | .rejectedReply => some .rejecting
  | _ => none

/-- The receipt writes a session has still to make. -/
def BridgePhase.writes : BridgePhase → List ReceiptWrite
  | .settling write => [write]
  | phase => phase.left.map Service.outcomeUnknownWrite

def CommandTask.writes (task : CommandTask) : List ReceiptWrite :=
  match task.phase with
  | .reject => [⟨task.request.requestId, .rejected, .deviceOffline⟩]
  | _ => []

namespace Service

/-- All receipt writes that tasks have still to make. -/
def writes (w : Service) : List ReceiptWrite :=
  w.bridges.values.flatMap (·.phase.writes) ++ w.commands.values.flatMap (·.writes) ++
    w.shutdown.map outcomeUnknownWrite

def unfinished (requestId : String) (w : Service) : Bool :=
  w.writes.any (·.requestId == requestId)

/-- The request whose receipt the message handled in this step will update. -/
def answers (w : Service) (s : ServiceStep) : Option String :=
  match s.op with
  | .bridge id => (w.bridges.get? id).bind fun task =>
    match task.phase with
    | .handling env => (receiptWrite env).map (·.requestId)
    | _ => none
  | _ => none

/-- The requests that this step takes out of the command table. -/
def takes (w : Service) (s : ServiceStep) : List String :=
  match s.op with
  | .bridge id =>
    match w.bridges.get? id with
    | some task =>
      match task.phase with
      | .handling env => finished env w.hub
      | .removeBridge =>
        (w.hub.commands.toList.filter fun e => e.2.device == task.device).map (·.1)
      | _ => []
    | none => []
  | .command id =>
    match w.commands.get? id with
    | some task => if task.phase = .takeBack then [task.request.requestId] else []
    | none => []
  | .beginShutdown => w.hub.commands.toList.map (·.1)
  | _ => []

/-- The state of one request. -/
def ticket (requestId : String) (w : Service) : Ticket where
  pending := w.hub.commands.contains requestId = true
  status := (w.db.receipts.get? requestId).map (·.status)
  writes st := ∃ write ∈ w.writes, write.requestId = requestId ∧ write.status = st
  finals := w.finals.count requestId
  holders id stage := ∃ task, w.commands.get? id = some task ∧
    task.request.requestId = requestId ∧ task.phase.stage = some stage

end Service

/-- Every message about a request finds it in the command table, and a request is
taken out of the table, where it has to be, only when no receipt write of it is
unfinished. -/
def Orderly (w : Service) (s : ServiceStep) : Prop :=
  (∀ requestId ∈ w.answers s, w.hub.commands.contains requestId = true) ∧
    ∀ requestId ∈ w.takes s,
      w.hub.commands.contains requestId = true ∧ w.unfinished requestId = false

/-- Every request has at most one terminal answer, and the step leaves every
terminal status as it is. -/
def Final (w : Service) (s : ServiceStep) : Prop :=
  (∀ requestId, (w.step s).finals.count requestId ≤ 1) ∧
    ∀ requestId row, w.db.receipts.get? requestId = some row → row.status.terminal = true →
      ∃ row', (w.step s).db.receipts.get? requestId = some row' ∧ row'.status = row.status

namespace Service

variable {w w' : Service} {requestId : String} {write : ReceiptWrite}

open Ticket (Step)

end Service

instance (w : Service) (s : ServiceStep) : Decidable (Orderly w s) := by
  unfold Orderly
  infer_instance

namespace Answering

open Reconnecting

/-- The Bridge of the first session sends a message, which is handled to its end. -/
def tells (payload : Payload) : List ServiceStep :=
  [op (.receive 1 (baseEnvelope 0 device.text payload)), op (.bridge 1), op (.bridge 1)]

def accepted : Payload := .commandAccepted ⟨"r", .acceptedByBridge, ""⟩

def completed : Payload := .commandResult ⟨"r", .completed, .unspecified, [], none⟩

/-- A command is dispatched, accepted and completed. -/
def answered : List ServiceStep := connects 1 ++ commands ++ tells accepted ++ tells completed

end Answering

end AgentConsole.Relay
