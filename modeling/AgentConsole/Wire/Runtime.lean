import Mathlib.Data.List.Basic

/-! # Messages about a session's state

The part of `runtime.proto` and `common.proto` a Bridge answers queries and fills streams
with.  An enumeration is the number on the wire, known or not, a 64-bit integer the natural
number it stands for. -/

namespace AgentConsole.Wire

/-- A timestamp the Bridge sends: `timestamp_to_proto` of a `DateTime<Utc>`, so its
nanoseconds are not negative and `from_timestamp` takes it back. -/
structure Timestamp where
  seconds : Int
  nanos : Nat
  deriving DecidableEq, Repr

structure TurnId where
  id : String
  synthetic : Bool
  deriving DecidableEq, Repr

structure ItemId where
  id : String
  synthetic : Bool
  deriving DecidableEq, Repr

structure CurrentTurn where
  turn : Option TurnId
  phase : Int
  startedAt : Option Timestamp
  deriving DecidableEq, Repr

structure PlanStep where
  stepId : String
  title : String
  status : Int
  deriving DecidableEq, Repr

structure Plan where
  steps : List PlanStep
  deriving DecidableEq, Repr

/-! ## Pending attention -/

structure QuestionOption where
  optionId : String
  label : String
  deriving DecidableEq, Repr

structure PendingAttentionQuestion where
  questionId : String
  title : String
  description : String := ""
  options : List QuestionOption := []
  allowMultiple : Bool := false
  allowFreeText : Bool := false
  turn : Option TurnId := none
  createdAt : Option Timestamp := none
  valid : Bool := false
  deriving DecidableEq, Repr

structure ApprovalDecision where
  decisionId : String
  label : String
  deriving DecidableEq, Repr

structure PendingAttentionApproval where
  approvalId : String
  riskDescription : String := ""
  requestedAction : String
  decisions : List ApprovalDecision := []
  scope : String := ""
  turn : Option TurnId := none
  createdAt : Option Timestamp := none
  valid : Bool := false
  deriving DecidableEq, Repr

/-! ## Commands, queue and output -/

structure RunningCommand where
  commandId : String
  itemId : Option ItemId
  startedAt : Option Timestamp
  deriving DecidableEq, Repr

structure BackgroundCommand where
  commandId : String
  itemId : Option ItemId
  state : Int
  startedAt : Option Timestamp
  finishedAt : Option Timestamp
  deriving DecidableEq, Repr

structure QueueStatus where
  state : Int
  afterTurnId : Option TurnId
  acceptedRuntimeRevision : Nat
  deriving DecidableEq, Repr

structure OutputCursor where
  itemId : Option ItemId
  revision : Nat
  byteLength : Nat
  isFinal : Bool
  channel : Int
  deriving DecidableEq, Repr

/-! ## Capabilities -/

structure SettingValue where
  value : String
  label : String
  deriving DecidableEq, Repr

structure SettingOption where
  optionId : String
  kind : Int
  label : String
  currentValue : String
  availableValues : List SettingValue
  mutable : Bool
  deriving DecidableEq, Repr

structure TransferLimits where
  textInlineMaxBytes : Nat
  imageInlineMaxBytes : Nat
  pdfRangeMaxBytes : Nat
  downloadMaxBytes : Nat
  uploadMaxBytes : Nat
  /-- `uint32` -/
  maxConcurrentPerBrowser : UInt32
  /-- `uint32` -/
  maxConcurrentPerDevice : UInt32
  previewableMimePrefixes : List String
  deriving DecidableEq, Repr

structure CapabilitySnapshot where
  controlMode : Int
  compatibilityState : Int
  codexVersion : String
  supportedOperations : List Int
  settings : List SettingOption
  transferLimits : Option TransferLimits
  deriving DecidableEq, Repr

structure RuntimeSnapshot where
  runtimeRevision : Nat
  currentTurn : Option CurrentTurn
  plan : Option Plan
  pendingQuestions : List PendingAttentionQuestion
  pendingApprovals : List PendingAttentionApproval
  runningCommands : List RunningCommand
  backgroundCommands : List BackgroundCommand
  /-- `uint32` -/
  backgroundCommandCount : UInt32
  queue : Option QueueStatus
  capabilities : Option CapabilitySnapshot
  recentOutputCursors : List OutputCursor
  deriving DecidableEq, Repr

/-! ## Items -/

structure AssistantMessage where
  text : String
  final : Bool
  deriving DecidableEq, Repr

structure ToolCall where
  toolCallId : String
  name : String
  status : Int
  summary : String
  durationMs : Nat
  deriving DecidableEq, Repr

structure CommandStatusItem where
  commandId : String
  state : Int
  startedAt : Option Timestamp
  finishedAt : Option Timestamp
  durationMs : Nat
  deriving DecidableEq, Repr

structure FileChange where
  path : String
  kind : Int
  newPath : String
  diffTruncated : Bool
  deriving DecidableEq, Repr

structure SubAgentStatus where
  subagentTurn : Option TurnId
  parentTurn : Option TurnId
  label : String
  phase : Int
  outcome : Int
  deriving DecidableEq, Repr

structure TokenUsage where
  inputTokens : Nat
  outputTokens : Nat
  contextUsedTokens : Nat
  contextWindowTokens : Nat
  deriving DecidableEq, Repr

/-- `item::Content` -/
inductive Content where
  | userMessage (text : String)
  | assistantMessage (message : AssistantMessage)
  | reasoningSummary (text : String)
  | plan (plan : Plan)
  | toolCall (call : ToolCall)
  | commandStatus (status : CommandStatusItem)
  | fileChange (files : List FileChange)
  | subagentStatus (status : SubAgentStatus)
  | question (question : PendingAttentionQuestion)
  | approval (approval : PendingAttentionApproval)
  | tokenUsage (usage : TokenUsage)
  deriving DecidableEq, Repr

structure Item where
  itemId : Option ItemId
  turn : Option TurnId
  revision : Nat
  createdAt : Option Timestamp
  content : Option Content
  deriving DecidableEq, Repr

structure HistoryEntry where
  turn : Option TurnId
  item : Option Item
  deriving DecidableEq, Repr

structure HistoryPage where
  entries : List HistoryEntry
  nextCursor : String
  hasMore : Bool
  deriving DecidableEq, Repr

end AgentConsole.Wire
