import AgentConsole.Lib.FiniteMap

/-! # Domain types of the Bridge

The words the Bridge's command side and its Codex adapter share: stable error
codes, receipt states, the phases of a turn, and the part of a session's
projection that commands and the next-turn queue look at.

The projection of a session is what the adapter's mapper keeps of the last
conversation state it was sent.  A new conversation state changes the phase and
the current turn, and a `TurnLifecycle` event tells the watchers when one of
the two moved. -/

namespace AgentConsole.Bridge

/-- `native_session_id`.  A Bridge has one device id and queues only for Codex,
so the native id is the whole key of a session. -/
abbrev SessionId := String

/-- A turn without a native id gets a stable synthetic one. -/
structure TurnId where
  id : String
  synthetic : Bool := false
  deriving DecidableEq, Repr

inductive StableErrorCode where
  | authRequired | authExpired | csrfInvalid
  | wsTicketInvalid | wsTicketExpired | wsTicketConsumed
  | deviceOffline | deviceRevoked
  | codexUnavailable | codexVersionUnverified | controlReadOnly | capabilityUnsupported
  | sessionNotFound | staleTurn | duplicateRequestMismatch | outcomeUnknown | resyncRequired
  | queueAlreadyExists | queuePaused
  | questionExpired | approvalExpired | settingCombinationUnsupported
  | fileHandleInvalid | fileOutsideScope | fileChanged | fileTypeNotPreviewable
  | transferExpired | transferTooLarge | transferRangeInvalid | diffTooLarge
  | rateLimited | internalError
  deriving DecidableEq, Repr

structure BridgeError where
  code : StableErrorCode
  message : String
  deriving DecidableEq, Repr

inductive ReceiptState where
  | dispatchedToCodex
  | completed
  | rejected (code : StableErrorCode) (message : String)
  | outcomeUnknown
  deriving DecidableEq, Repr

/-- The states after which no further receipt is due. -/
def ReceiptState.isTerminal : ReceiptState → Bool
  | .dispatchedToCodex => false
  | .completed | .rejected _ _ | .outcomeUnknown => true

inductive ActiveTurnPhase where
  | idle | running | finishing
  deriving DecidableEq, Repr

inductive LastTurnOutcome where
  | completed | failed | interrupted | unknown
  deriving DecidableEq, Repr

/-! ## Turns of a conversation -/

/-- `map_phase`: the native runtime status; what is unknown counts as idle. -/
def mapPhase : Option String → ActiveTurnPhase
  | some "active" | some "inProgress" => .running
  | some "finishing" => .finishing
  | _ => .idle

/-- `map_turn_outcome`: the native status of a finished turn. -/
def mapTurnOutcome : Option String → Option LastTurnOutcome
  | some "completed" => some .completed
  | some "failed" => some .failed
  | some "interrupted" => some .interrupted
  | _ => none

/-- A turn of a conversation state: its id and its native status. -/
structure Turn where
  id : TurnId
  status : Option String
  deriving DecidableEq, Repr

/-- What a conversation state says about turns and attention. -/
structure Conversation where
  revision : Nat
  turns : List Turn
  /-- `facts.runtime_status` -/
  runtimeStatus : Option String
  /-- the ids of the pending questions -/
  questions : List String
  /-- the ids of the pending approvals -/
  approvals : List String
  deriving DecidableEq, Repr

def Conversation.runningTurn (c : Conversation) : Option TurnId :=
  (c.turns.find? fun t => t.status == some "inProgress").map (·.id)

/-- The last turn, from the end, whose status is an outcome. -/
def Conversation.lastTerminal (c : Conversation) : Option (TurnId × LastTurnOutcome) :=
  c.turns.reverse.findSome? fun t => (mapTurnOutcome t.status).map fun outcome => (t.id, outcome)

/-- The turns decide; the runtime status speaks only where they say nothing. -/
def Conversation.phase (c : Conversation) : ActiveTurnPhase :=
  if c.runningTurn.isSome then .running
  else if c.runtimeStatus = some "finishing" then .finishing
  else if c.lastTerminal.isSome then .idle
  else mapPhase c.runtimeStatus

/-- `DomainEvent::TurnLifecycle` -/
structure TurnLifecycle where
  turn : TurnId
  phase : ActiveTurnPhase
  outcome : Option LastTurnOutcome
  deriving DecidableEq, Repr

/-- The mapper's view of a session, as far as turns and attention go. -/
structure Projection where
  runtimeRevision : Nat := 0
  phase : ActiveTurnPhase := .idle
  currentTurn : Option TurnId := none
  pendingQuestions : List String := []
  pendingApprovals : List String := []
  deriving DecidableEq, Repr

/-- The event of `apply_snapshot` for the step from `p` to `c`: only a change of
the phase or of the current turn is told. -/
def Projection.lifecycle (p : Projection) (c : Conversation) : Option TurnLifecycle :=
  if p.phase ≠ c.phase ∨ p.currentTurn ≠ c.runningTurn then
    some {
      turn := (c.runningTurn.or (c.lastTerminal.map (·.1))).getD ⟨"unknown", true⟩
      phase := c.phase
      outcome := if c.phase = .idle then c.lastTerminal.map (·.2) else none }
  else none

/-- The projection after `apply_snapshot`. -/
def Projection.apply (c : Conversation) : Projection where
  runtimeRevision := c.revision
  phase := c.phase
  currentTurn := c.runningTurn
  pendingQuestions := c.questions
  pendingApprovals := c.approvals

/-- The part of `RuntimeSnapshot` that commands and the queue read. -/
structure RuntimeSnapshot where
  runtimeRevision : Nat
  currentTurn : Option TurnId
  pendingQuestions : List String
  pendingApprovals : List String
  deriving DecidableEq, Repr

def Projection.runtimeSnapshot (p : Projection) : RuntimeSnapshot where
  runtimeRevision := p.runtimeRevision
  currentTurn := p.currentTurn
  pendingQuestions := p.pendingQuestions
  pendingApprovals := p.pendingApprovals

/-- A question or an approval waits for the user. -/
def RuntimeSnapshot.hasAttention (s : RuntimeSnapshot) : Bool :=
  !s.pendingQuestions.isEmpty || !s.pendingApprovals.isEmpty

end AgentConsole.Bridge
