import AgentConsole.Lib.Oneshot
import AgentConsole.Bridge.Domain
import AgentConsole.Transfer.FilePolicy

/-! # Requests of a local agent that wait for a decision

A helper connects to the Bridge, asks for an approval or an answer and waits.  Its request is
registered, a card is shown to the browsers, and whichever comes first ends the wait: a
decision, a line or the end of the connection, or the time limit.  A decision is written back,
and the helper acknowledges it when it has passed it on.

Three kinds of tasks work on the registry, each holding its lock for one operation at a time: the
connections, the commands of browsers, and the cancellations of the host.  A step of the model
is what one task does between two of the points where it can be interrupted.

The records are without the texts that cards are made of; the events that show and remove
cards are left out, as nothing here depends on them. -/

namespace AgentConsole.Bridge.Zcode

open AgentConsole.Lib
open AgentConsole.Bridge.Discovery (trim)
open AgentConsole.Transfer (parseU64)

abbrev InvokeId := String

/-! ## The contract with the helper -/

def CONTRACT_VERSION : Nat := 1
def MIN_REMOTE_WAIT_MS : Nat := 500
def MAX_REMOTE_WAIT_MS : Nat := 45000
def MAX_FRAME_BYTES : Nat := 256 * 1024
def DELIVERY_ACK_WAIT_MS : Nat := 3000

def MAX_QUESTION_CHARS : Nat := 2000
def MAX_OPTION_CHARS : Nat := 200
def MAX_OPTIONS : Nat := 8

structure AskRequest where
  question : String
  options : List String
  allowFreeText : Bool
  deriving DecidableEq

def AskRequest.validate (ask : AskRequest) : Except String Unit :=
  if trim ask.question.toList = [] then .error "question is empty"
  else if MAX_QUESTION_CHARS < ask.question.length then
    .error s!"question exceeds {MAX_QUESTION_CHARS} chars"
  else if MAX_OPTIONS < ask.options.length then .error s!"more than {MAX_OPTIONS} options"
  else if ask.options.any (MAX_OPTION_CHARS < ·.length) then
    .error s!"option exceeds {MAX_OPTION_CHARS} chars"
  else .ok ()

inductive InvokeKind where
  | permissionRequest | askUser
  deriving DecidableEq

/-- `HookInvoke`; `toolInput` is the length of the serialized input. -/
structure HookInvoke where
  version : Nat
  invokeId : InvokeId
  nativeSessionId : Option String
  toolName : Option String
  toolUseId : Option String
  requestedWaitMs : Nat
  toolInput : Option Nat
  ask : Option AskRequest
  deriving DecidableEq

def validateInvoke (invoke : HookInvoke) (kind : InvokeKind) : Except String Unit :=
  if invoke.version ≠ CONTRACT_VERSION then
    let version := invoke.version
    .error s!"unsupported contract version {version}"
  else
    match kind with
    | .permissionRequest =>
      if invoke.toolName = none then .error "permission_request requires tool_name"
      else if invoke.toolInput.any (MAX_FRAME_BYTES < ·) then .error "tool_input exceeds limit"
      else .ok ()
    | .askUser =>
      match invoke.ask with
      | none => .error "ask_user requires ask payload"
      | some ask => ask.validate

def clampWaitMs (requested : Nat) : Nat := max MIN_REMOTE_WAIT_MS (min requested MAX_REMOTE_WAIT_MS)

inductive ReplyStatus where
  | allowed | denied | answered | expired | cancelled | rejected | accepted
  deriving DecidableEq

structure HookReply where
  status : ReplyStatus
  message : Option String := none
  option : Option String := none
  text : Option String := none
  deriving DecidableEq

namespace HookReply

def allowed : HookReply := { status := .allowed }

def denied (message : String) : HookReply := { status := .denied, message := some message }

def answered (option text : Option String) : HookReply := { status := .answered, option, text }

def expired : HookReply := { status := .expired }

def cancelled : HookReply := { status := .cancelled }

def rejected (message : String) : HookReply := { status := .rejected, message := some message }

/-- What a user can have decided. -/
def IsDecision (reply : HookReply) : Prop :=
  reply.status = .allowed ∨ reply.status = .denied ∨ reply.status = .answered

instance (reply : HookReply) : Decidable reply.IsDecision :=
  inferInstanceAs (Decidable (_ ∨ _))

end HookReply

/-! ## The registry -/

inductive PendingState where
  | waiting | decided | returnedToRuntime | runtimeProcessed | expired | handledLocally
  deriving DecidableEq

def PendingState.isTerminal : PendingState → Bool
  | .returnedToRuntime | .runtimeProcessed | .expired | .handledLocally => true
  | .waiting | .decided => false

inductive PendingError where
  | unknown | alreadyDecided | expired | cancelled | duplicate
  deriving DecidableEq

def PendingError.message : PendingError → String
  | .unknown => "unknown or stale invoke (bridge may have restarted)"
  | .alreadyDecided => "invoke already decided"
  | .expired => "invoke expired"
  | .cancelled => "invoke was cancelled or its helper is gone"
  | .duplicate => "duplicate invoke id"

inductive DeliveryOutcome where
  | delivered | unconfirmed
  deriving DecidableEq

/-- A record, with the number of the connection that holds the other ends of its channels;
`responder`, `deliveryTx` and `deliveryRx` are `true` while the record has its end. -/
structure PendingRecord where
  connection : Nat
  kind : InvokeKind
  nativeSessionId : Option String
  askOptions : List String
  askAllowFreeText : Bool
  state : PendingState
  deadline : Nat
  responder : Bool
  deliveryTx : Bool
  deliveryRx : Bool
  deriving DecidableEq

/-- The record stays when another invoke is registered. -/
def PendingRecord.stays (now : Nat) (record : PendingRecord) : Bool :=
  now < record.deadline || !record.state.isTerminal

/-! ## Connections and commands -/

/-- What the monitor of a connection reports, once. -/
inductive ConnEvent where
  | line (text : String)
  | closed
  deriving DecidableEq

/-- Where `handle_pending_invoke` stands. -/
inductive Phase where
  /-- before the card is published -/
  | publishing
  /-- in the `select`, with the end of its timer -/
  | waiting (until_ : Nat)
  | writing (reply : HookReply)
  | acknowledging (until_ : Nat)
  | completing (delivered : Bool)
  /-- before the first operation of `settle_without_decision` -/
  | settling (timedOut : Bool)
  /-- before `finalize_decided_after_race` -/
  | finalizing
  /-- before the reply `expired` -/
  | expiring
  | done
  deriving DecidableEq

structure Connection where
  invoke : HookInvoke
  kind : InvokeKind
  wait : Nat
  phase : Phase
  decision : Oneshot HookReply
  delivery : Oneshot DeliveryOutcome
  event : Oneshot ConnEvent
  deriving DecidableEq

def Connection.invokeId (connection : Connection) : InvokeId := connection.invoke.invokeId

structure SessionKey where
  deviceId : String
  agentKind : AgentKind
  nativeSessionId : String
  deriving DecidableEq

def DECISION_ALLOW : String := "allow"
def DECISION_DENY : String := "deny"
def ASK_SESSION_NATIVE : String := "plugin-ask"

inductive Payload where
  | answerApproval (approvalId : InvokeId) (decisionId : String)
  | answerQuestion (questionId : InvokeId) (optionIds : List String) (freeText : String)
  | other
  deriving DecidableEq

inductive CommandStatus where
  | completed | outcomeUnknown
  | rejected (error : BridgeError)
  deriving DecidableEq

/-- Where a command stands that is for this registry. -/
inductive CommandPhase where
  | matched
  | labelled (questionId : InvokeId) (label : Option String) (freeText : String)
  | prepared (invokeId : InvokeId) (reply : HookReply)
  /-- before `take_delivery` -/
  | resolved (invokeId : InvokeId) (reply : HookReply)
  | awaiting (connection : Nat) (until_ : Nat)
  | finished (status : CommandStatus)
  deriving DecidableEq

/-- A command, with what `resolve_command` has returned. -/
structure Command where
  key : SessionKey
  payload : Payload
  phase : CommandPhase
  decision : Option (InvokeId × HookReply) := none
  deriving DecidableEq

/-- `decided` has the replies of the calls of `resolve` that succeeded, `handed` those that were
written to helpers, and `confirmed` the lines that were read as acknowledgements; each with
the number of the connection.  The three are ghosts. -/
structure Hooks where
  now : Nat := 0
  registry : FiniteMap InvokeId PendingRecord := ∅
  connections : FiniteMap Nat Connection := ∅
  accepted : Nat := 0
  commands : FiniteMap Nat Command := ∅
  received : Nat := 0
  decided : List (Nat × HookReply) := []
  handed : List (Nat × HookReply) := []
  confirmed : List (Nat × String) := []

inductive Branch where
  | decision | event | timeout
  deriving DecidableEq

inductive Input where
  | tick (elapsed : Nat)
  | connect (invoke : HookInvoke) (kind : InvokeKind)
  | published (connection : Nat)
  /-- The monitor of a connection has read a line or met its end. -/
  | arrives (connection : Nat) (event : ConnEvent)
  | select (connection : Nat) (branch : Branch)
  | wrote (connection : Nat) (ok : Bool)
  | acknowledged (connection : Nat)
  | unacknowledged (connection : Nat)
  | completed (connection : Nat)
  | settled (connection : Nat)
  | finalized (connection : Nat)
  | refused (connection : Nat)
  | cancel (invokeId : InvokeId)
  | processed (invokeId : InvokeId)
  | command (key : SessionKey) (payload : Payload)
  | proceed (command : Nat)
  | commandTimeout (command : Nat)
  deriving DecidableEq

/-- The label of `option-{i}`, counted from one. -/
def optionLabel (askOptions : List String) (optionId : String) : Option String :=
  if "option-".toList.isPrefixOf optionId.toList then
    match parseU64 (optionId.toList.drop 7) with
    | none => none
    | some 0 => none
    | some (index + 1) => askOptions[index]?
  else none

/-- The options that `register` keeps, which `handle_pending_invoke` passes for a question only. -/
def HookInvoke.askOptions (invoke : HookInvoke) (kind : InvokeKind) : List String :=
  if kind = .askUser then (invoke.ask.map (·.options)).getD [] else []

def HookInvoke.askAllowFreeText (invoke : HookInvoke) (kind : InvokeKind) : Bool :=
  kind = .askUser && (invoke.ask.map (·.allowFreeText)).getD false

namespace Hooks

variable (h : Hooks)

/-! ## Operations of the registry -/

def setRecord (id : InvokeId) (record : PendingRecord) : Hooks :=
  { h with registry := h.registry.insert id record }

def setConnection (c : Nat) (connection : Connection) : Hooks :=
  { h with connections := h.connections.insert c connection }

def onConnection (c : Nat) (f : Connection → Connection) : Hooks :=
  { h with connections := h.connections.modify c f }

/-- The sender of the decision is dropped. -/
def dropResponder (c : Nat) : Hooks :=
  h.onConnection c fun connection => { connection with decision := connection.decision.dropSender }

/-- A connection after the records that do not stay were dropped, with their ends. -/
def purgedConnection (c : Nat) (connection : Connection) : Connection :=
  match h.registry.get? connection.invokeId with
  | none => connection
  | some record =>
    if record.connection = c ∧ record.stays h.now = false then
      { connection with
        decision :=
          if record.responder then connection.decision.dropSender else connection.decision
        delivery :=
          if record.deliveryTx then connection.delivery.dropSender else connection.delivery }
    else connection

def purge : Hooks :=
  { h with
    registry := h.registry.filter fun _ record => record.stays h.now
    connections := h.connections.mapVal h.purgedConnection }

/-- The record and the connection of a new invoke. -/
def newRecord (invoke : HookInvoke) (kind : InvokeKind) : PendingRecord where
  connection := h.accepted
  kind := kind
  nativeSessionId := invoke.nativeSessionId
  askOptions := invoke.askOptions kind
  askAllowFreeText := invoke.askAllowFreeText kind
  state := .waiting
  deadline := h.now + clampWaitMs invoke.requestedWaitMs
  responder := true
  deliveryTx := true
  deliveryRx := true

def newConnection (invoke : HookInvoke) (kind : InvokeKind) : Connection :=
  ⟨invoke, kind, clampWaitMs invoke.requestedWaitMs, .publishing, .fresh, .fresh, .fresh⟩

def register (invoke : HookInvoke) (kind : InvokeKind) : Except PendingError Hooks :=
  if h.registry.contains invoke.invokeId then .error .duplicate
  else .ok (h.purge.setRecord invoke.invokeId (h.newRecord invoke kind))

/-- `resolve`, with the channel of the decision. -/
def resolve (id : InvokeId) (reply : HookReply) : Hooks × Except PendingError Unit :=
  match h.registry.get? id with
  | none => (h, .error .unknown)
  | some record =>
    match record.state with
    | .decided | .returnedToRuntime | .runtimeProcessed => (h, .error .alreadyDecided)
    | .expired => (h, .error .expired)
    | .handledLocally => (h, .error .cancelled)
    | .waiting =>
      if record.deadline ≤ h.now then
        (h.setRecord id { record with state := .expired }, .error .expired)
      else if record.responder = false then
        (h.setRecord id { record with state := .handledLocally }, .error .cancelled)
      else
        match h.connections.get? record.connection with
        | none => (h.setRecord id { record with state := .handledLocally, responder := false },
            .error .cancelled)
        | some connection =>
          if connection.decision.isFresh then
            let h' := h.setRecord id { record with state := .decided, responder := false }
            ({ h'.setConnection record.connection
                { connection with decision := connection.decision.send reply } with
              decided := h.decided ++ [(record.connection, reply)] }, .ok ())
          else (h.setRecord id { record with state := .handledLocally, responder := false },
            .error .cancelled)

def takeDelivery (id : InvokeId) : Hooks × Option Nat :=
  match h.registry.get? id with
  | none => (h, none)
  | some record =>
    if record.deliveryRx then
      (h.setRecord id { record with deliveryRx := false }, some record.connection)
    else (h, none)

def completeDelivery (id : InvokeId) (outcome : DeliveryOutcome) : Hooks :=
  match h.registry.get? id with
  | none => h
  | some record =>
    if record.state ≠ .decided then h
    else
      let state := match outcome with
        | .delivered => PendingState.returnedToRuntime
        | .unconfirmed => .handledLocally
      let h' := h.setRecord id { record with state, deliveryTx := false }
      if record.deliveryTx then
        h'.onConnection record.connection fun connection =>
          { connection with delivery := connection.delivery.send outcome }
      else h'

def markRuntimeProcessed (id : InvokeId) : Hooks :=
  match h.registry.get? id with
  | none => h
  | some record =>
    if record.state = .returnedToRuntime then
      h.setRecord id { record with state := .runtimeProcessed }
    else h

def expireOrAlreadyExpired (id : InvokeId) : Hooks × Bool :=
  match h.registry.get? id with
  | none => (h, false)
  | some record =>
    match record.state with
    | .waiting | .expired => (h.setRecord id { record with state := .expired }, true)
    | _ => (h, false)

def finalizeDecidedAfterRace (id : InvokeId) : Hooks :=
  match h.registry.get? id with
  | none => h
  | some record =>
    if record.state = .decided then h.setRecord id { record with state := .expired } else h

def cancel (id : InvokeId) : Hooks × Bool :=
  match h.registry.get? id with
  | none => (h, false)
  | some record =>
    if record.state ≠ .waiting then (h, false)
    else
      let h' := h.setRecord id { record with state := .handledLocally, responder := false }
      (if record.responder then h'.dropResponder record.connection else h', true)

def askAllowsFreeText (id : InvokeId) : Option Bool :=
  match h.registry.get? id with
  | none => none
  | some record => if record.kind ≠ .askUser then none else some record.askAllowFreeText

def askOptionLabel (id : InvokeId) (optionId : String) : Option String :=
  match h.registry.get? id with
  | none => none
  | some record =>
    if record.kind ≠ .askUser then none else optionLabel record.askOptions optionId

/-! ## Commands -/

/-- `matches_command` -/
def matchesCommand (deviceId : String) (key : SessionKey) : Payload → Bool
  | .answerApproval approvalId _ =>
    key.deviceId = deviceId && key.agentKind = .zcodeDesktop &&
      (h.registry.get? approvalId).any fun record =>
        record.kind = .permissionRequest && record.nativeSessionId = some key.nativeSessionId
  | .answerQuestion questionId _ _ =>
    key.deviceId = deviceId && key.agentKind = .zcodeDesktop &&
      key.nativeSessionId = ASK_SESSION_NATIVE &&
      (h.registry.get? questionId).any fun record => record.kind = .askUser
  | .other => false

def invalidRequest (message : String) : CommandStatus := .rejected ⟨.internalError, message⟩

/-- The payload of a command becomes a reply, in one or two steps. -/
def prepare : Payload → CommandPhase
  | .answerApproval approvalId decisionId =>
    if decisionId = DECISION_ALLOW then .prepared approvalId .allowed
    else if decisionId = DECISION_DENY then
      .prepared approvalId (.denied "User declined this action in Agent Console")
    else .finished (invalidRequest
      s!"decision {decisionId} is not a native decision of approval {approvalId}")
  | .answerQuestion questionId optionIds freeText =>
    match optionIds.head? with
    | none => .labelled questionId none freeText
    | some optionId =>
      match h.askOptionLabel questionId optionId with
      | some label => .labelled questionId (some label) freeText
      | none => .finished (invalidRequest
          s!"option {optionId} is not a native option of question {questionId}")
  | .other => .finished (.rejected ⟨.internalError, ""⟩)

def prepareAnswer (questionId : InvokeId) (label : Option String) (freeText : String) :
    CommandPhase :=
  if freeText ≠ "" ∧ (h.askAllowsFreeText questionId).getD false = false then
    .finished (invalidRequest "free text is not allowed for this question")
  else if label = none ∧ freeText = "" then
    .finished (invalidRequest "answer requires an option id or free text")
  else .prepared questionId (.answered label (if freeText = "" then none else some freeText))

def setCommand (n : Nat) (command : Command) : Hooks :=
  { h with commands := h.commands.insert n command }

/-- What a command does next. -/
def proceed (n : Nat) (command : Command) : Hooks :=
  match command.phase with
  | .matched => h.setCommand n { command with phase := h.prepare command.payload }
  | .labelled questionId label freeText =>
    h.setCommand n { command with phase := h.prepareAnswer questionId label freeText }
  | .prepared id reply =>
    match h.resolve id reply with
    | (h', .ok ()) =>
      h'.setCommand n { command with phase := .resolved id reply, decision := some (id, reply) }
    | (h', .error error) =>
      h'.setCommand n
        { command with phase := .finished (.rejected ⟨.approvalExpired, error.message⟩) }
  | .resolved id _ =>
    match h.takeDelivery id with
    | (h', some c) =>
      h'.setCommand n { command with phase := .awaiting c (h.now + (DELIVERY_ACK_WAIT_MS + 2000)) }
    | (h', none) => h'.setCommand n { command with phase := .finished .outcomeUnknown }
  | .awaiting c _ =>
    match (h.connections.get? c).bind (·.delivery.poll) with
    | none => h
    | some received =>
      (h.onConnection c fun connection => { connection with delivery := .over }).setCommand n
        { command with
          phase := .finished
            (if received = .value .delivered then .completed else .outcomeUnknown) }
  | .finished _ => h

/-! ## Connections -/

/-- A connection with the invoke in its first line. -/
def connect (invoke : HookInvoke) (kind : InvokeKind) : Hooks :=
  let refuse (message : String) : Hooks :=
    { h with handed := h.handed ++ [(h.accepted, .rejected message)], accepted := h.accepted + 1 }
  match validateInvoke invoke kind with
  | .error message => refuse message
  | .ok () =>
    match h.register invoke kind with
    | .error .duplicate => refuse "duplicate invoke id; possible double hook registration"
    | .error _ => refuse "invoke rejected"
    | .ok h' =>
      { h'.setConnection h.accepted (newConnection invoke kind) with accepted := h.accepted + 1 }

/-- A ready branch of the `select`.  The receiver of the decision is gone afterwards. -/
def select (c : Nat) (connection : Connection) (branch : Branch) : Hooks :=
  match connection.phase with
  | .waiting until_ =>
    match branch with
    | .decision =>
      match connection.decision.poll with
      | none => h
      | some (.value reply) =>
        h.setConnection c { connection with phase := .writing reply, decision := .over }
      | some .closed =>
        h.setConnection c { connection with phase := .writing .cancelled, decision := .over }
    | .event =>
      match connection.event.poll with
      | none => h
      | some _ => h.setConnection c
          { connection with phase := .settling false, decision := .over, event := .over }
    | .timeout =>
      if until_ ≤ h.now then
        h.setConnection c { connection with phase := .settling true, decision := .over }
      else h
  | _ => h

/-- The reply is written, or the writing fails. -/
def wrote (c : Nat) (connection : Connection) (ok : Bool) : Hooks :=
  match connection.phase with
  | .writing reply =>
    { h.setConnection c { connection with
        phase :=
          if ok then .acknowledging (h.now + DELIVERY_ACK_WAIT_MS) else .completing false } with
      handed := h.handed ++ [(c, reply)] }
  | _ => h

/-- `wait_delivery_ack` gets the event; `ackOf` is what `serde_json` reads from a line. -/
def acknowledged (ackOf : String → Option String) (c : Nat) (connection : Connection) : Hooks :=
  match connection.phase with
  | .acknowledging _ =>
    match connection.event.poll with
    | none => h
    | some (.value (.line text)) =>
      if ackOf text = some connection.invokeId then
        { h.setConnection c { connection with phase := .completing true, event := .over } with
          confirmed := h.confirmed ++ [(c, text)] }
      else h.setConnection c { connection with phase := .completing false, event := .over }
    | some _ => h.setConnection c { connection with phase := .completing false, event := .over }
  | _ => h

def unacknowledged (c : Nat) (connection : Connection) : Hooks :=
  match connection.phase with
  | .acknowledging until_ =>
    if until_ ≤ h.now then h.setConnection c { connection with phase := .completing false } else h
  | _ => h

def completed (c : Nat) (connection : Connection) : Hooks :=
  match connection.phase with
  | .completing delivered =>
    let outcome := if delivered then DeliveryOutcome.delivered else .unconfirmed
    let h' := h.completeDelivery connection.invokeId outcome
    h'.onConnection c fun connection => { connection with phase := .done }
  | _ => h

def settled (c : Nat) (connection : Connection) : Hooks :=
  match connection.phase with
  | .settling timedOut =>
    let (h', settled) :=
      if timedOut then h.expireOrAlreadyExpired connection.invokeId
      else h.cancel connection.invokeId
    h'.onConnection c fun connection =>
      { connection with phase := if settled then .expiring else .finalizing }
  | _ => h

def finalized (c : Nat) (connection : Connection) : Hooks :=
  match connection.phase with
  | .finalizing =>
    (h.finalizeDecidedAfterRace connection.invokeId).onConnection c fun connection =>
      { connection with phase := .expiring }
  | _ => h

def refused (c : Nat) (connection : Connection) : Hooks :=
  match connection.phase with
  | .expiring =>
    { h.setConnection c { connection with phase := .done } with
      handed := h.handed ++ [(c, .expired)] }
  | _ => h

def published (c : Nat) (connection : Connection) : Hooks :=
  match connection.phase with
  | .publishing => h.setConnection c { connection with phase := .waiting (h.now + connection.wait) }
  | _ => h

/-- The monitor is there once the card is published. -/
def arrives (c : Nat) (connection : Connection) (event : ConnEvent) : Hooks :=
  if connection.phase = .publishing then h
  else h.setConnection c { connection with event := connection.event.send event }

/-- A step of a connection that was registered. -/
def ofConnection (c : Nat) (move : Connection → Hooks) : Hooks :=
  match h.connections.get? c with
  | none => h
  | some connection => move connection

def step (deviceId : String) (ackOf : String → Option String) (h : Hooks) : Input → Hooks
  | .tick elapsed => { h with now := h.now + elapsed }
  | .connect invoke kind => h.connect invoke kind
  | .published c => h.ofConnection c (h.published c)
  | .arrives c event => h.ofConnection c (h.arrives c · event)
  | .select c branch => h.ofConnection c (h.select c · branch)
  | .wrote c ok => h.ofConnection c (h.wrote c · ok)
  | .acknowledged c => h.ofConnection c (h.acknowledged ackOf c)
  | .unacknowledged c => h.ofConnection c (h.unacknowledged c)
  | .completed c => h.ofConnection c (h.completed c)
  | .settled c => h.ofConnection c (h.settled c)
  | .finalized c => h.ofConnection c (h.finalized c)
  | .refused c => h.ofConnection c (h.refused c)
  | .cancel id => (h.cancel id).1
  | .processed id => h.markRuntimeProcessed id
  | .command key payload =>
    if h.matchesCommand deviceId key payload then
      { h.setCommand h.received ⟨key, payload, .matched, none⟩ with received := h.received + 1 }
    else h
  | .proceed n =>
    match h.commands.get? n with
    | none => h
    | some command => h.proceed n command
  | .commandTimeout n =>
    match h.commands.get? n with
    | none => h
    | some command =>
      match command.phase with
      | .awaiting c until_ =>
        if until_ ≤ h.now then
          (h.onConnection c fun connection => { connection with delivery := .over }).setCommand n
            { command with phase := .finished .outcomeUnknown }
        else h
      | _ => h

def run (deviceId : String) (ackOf : String → Option String) (inputs : List Input) : Hooks :=
  inputs.foldl (step deviceId ackOf) {}

end Hooks

end AgentConsole.Bridge.Zcode
