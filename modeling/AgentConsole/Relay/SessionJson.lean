import AgentConsole.Lib.Json
import AgentConsole.Wire.Runtime

/-! # The relay's answers to queries about a session

`sessions/json.rs`: a snapshot and a page of history as JSON.  An enumeration is written by
its name, an unknown number as `UNSPECIFIED`; a message without a value as `null`. -/

namespace AgentConsole.SessionJson

open AgentConsole.Lib AgentConsole.Wire

/-- `serde_json::Value`, with an RFC 3339 text standing for the timestamp it prints. -/
abbrev Value := Json Timestamp

/-! ## Names of enumerations -/

def activeTurnPhaseName : Int → String
  | 0 => "ACTIVE_TURN_PHASE_UNSPECIFIED"
  | 1 => "TURN_PHASE_IDLE"
  | 2 => "TURN_PHASE_RUNNING"
  | 3 => "TURN_PHASE_FINISHING"
  | _ => "UNSPECIFIED"

def planStepStatusName : Int → String
  | 0 => "PLAN_STEP_STATUS_UNSPECIFIED"
  | 1 => "PLAN_STEP_PENDING"
  | 2 => "PLAN_STEP_IN_PROGRESS"
  | 3 => "PLAN_STEP_COMPLETED"
  | _ => "UNSPECIFIED"

def controlModeName : Int → String
  | 0 => "CONTROL_MODE_UNSPECIFIED"
  | 1 => "CONTROL_MODE_FULL_CONTROL"
  | 2 => "CONTROL_MODE_LIMITED_CONTROL"
  | 3 => "CONTROL_MODE_READ_ONLY"
  | 4 => "CONTROL_MODE_UNAVAILABLE"
  | _ => "UNSPECIFIED"

def compatibilityStateName : Int → String
  | 0 => "COMPATIBILITY_STATE_UNSPECIFIED"
  | 1 => "COMPATIBILITY_VERIFIED"
  | 2 => "COMPATIBILITY_DEGRADED"
  | 3 => "COMPATIBILITY_UNSUPPORTED"
  | _ => "UNSPECIFIED"

def lastTurnOutcomeName : Int → String
  | 0 => "LAST_TURN_OUTCOME_UNSPECIFIED"
  | 1 => "TURN_OUTCOME_COMPLETED"
  | 2 => "TURN_OUTCOME_FAILED"
  | 3 => "TURN_OUTCOME_INTERRUPTED"
  | 4 => "TURN_OUTCOME_UNKNOWN"
  | _ => "UNSPECIFIED"

def backgroundCommandStateName : Int → String
  | 0 => "BACKGROUND_COMMAND_STATE_UNSPECIFIED"
  | 1 => "BACKGROUND_CMD_RUNNING"
  | 2 => "BACKGROUND_CMD_COMPLETED"
  | 3 => "BACKGROUND_CMD_FAILED"
  | 4 => "BACKGROUND_CMD_STOPPED"
  | 5 => "BACKGROUND_CMD_UNKNOWN"
  | _ => "UNSPECIFIED"

def queueStateName : Int → String
  | 0 => "QUEUE_STATE_UNSPECIFIED"
  | 1 => "QUEUE_STATE_EMPTY"
  | 2 => "QUEUE_STATE_QUEUED"
  | 3 => "QUEUE_STATE_PAUSED"
  | _ => "UNSPECIFIED"

def settingKindName : Int → String
  | 0 => "SETTING_KIND_UNSPECIFIED"
  | 1 => "SETTING_KIND_MODEL"
  | 2 => "SETTING_KIND_REASONING_EFFORT"
  | 3 => "SETTING_KIND_SERVICE_TIER"
  | 4 => "SETTING_KIND_PERMISSION_MODE"
  | 5 => "SETTING_KIND_COLLABORATION_MODE"
  | _ => "UNSPECIFIED"

def outputChannelName : Int → String
  | 0 => "OUTPUT_CHANNEL_UNSPECIFIED"
  | 1 => "OUTPUT_CHANNEL_STDOUT"
  | 2 => "OUTPUT_CHANNEL_STDERR"
  | 3 => "OUTPUT_CHANNEL_COMBINED"
  | _ => "UNSPECIFIED"

/-- An unknown operation keeps its number. -/
def operationName : Int → String
  | 0 => "OPERATION_UNSPECIFIED"
  | 1 => "OPERATION_CREATE_TASK"
  | 2 => "OPERATION_START_TURN"
  | 3 => "OPERATION_QUEUE_SET"
  | 4 => "OPERATION_QUEUE_REPLACE"
  | 5 => "OPERATION_QUEUE_CANCEL"
  | 6 => "OPERATION_STEER"
  | 7 => "OPERATION_INTERRUPT"
  | 8 => "OPERATION_ANSWER_QUESTION"
  | 9 => "OPERATION_ANSWER_APPROVAL"
  | 10 => "OPERATION_UPDATE_SETTINGS"
  | 11 => "OPERATION_RENAME_TASK"
  | 12 => "OPERATION_ARCHIVE_TASK"
  | 13 => "OPERATION_UNARCHIVE_TASK"
  | 14 => "OPERATION_FORK_TASK"
  | 15 => "OPERATION_STOP_BACKGROUND_COMMAND"
  | 16 => "OPERATION_STOP_ALL_BACKGROUND_COMMANDS"
  | other => "OPERATION_" ++ toString other

def fileChangeKindName : Int → String
  | 0 => "FILE_CHANGE_KIND_UNSPECIFIED"
  | 1 => "FILE_CHANGE_ADDED"
  | 2 => "FILE_CHANGE_MODIFIED"
  | 3 => "FILE_CHANGE_DELETED"
  | 4 => "FILE_CHANGE_RENAMED"
  | other => "FILE_CHANGE_" ++ toString other

/-! ## Parts -/

/-- `ts_value` -/
def tsValue (timestamp : Option Timestamp) : Value := .orNull (timestamp.map .time)

def turnId (turn : Option TurnId) : Value :=
  .orNull (turn.map fun turn => .obj [("id", .str turn.id), ("synthetic", .bool turn.synthetic)])

def itemId (item : Option ItemId) : Value :=
  .orNull (item.map fun item => .obj [("id", .str item.id), ("synthetic", .bool item.synthetic)])

def planStepJson (step : PlanStep) : Value := .obj [
  ("stepId", .str step.stepId),
  ("title", .str step.title),
  ("status", .str (planStepStatusName step.status))]

def planJson (plan : Option Plan) : Value :=
  .orNull (plan.map fun plan => .obj [("steps", .arr (plan.steps.map planStepJson))])

def questionJson (q : PendingAttentionQuestion) : Value := .obj [
  ("questionId", .str q.questionId),
  ("title", .str q.title),
  ("description", .str q.description),
  ("options", .arr (q.options.map fun o =>
    .obj [("optionId", .str o.optionId), ("label", .str o.label)])),
  ("allowMultiple", .bool q.allowMultiple),
  ("allowFreeText", .bool q.allowFreeText),
  ("turn", turnId q.turn),
  ("createdAt", tsValue q.createdAt),
  ("valid", .bool q.valid)]

def approvalJson (a : PendingAttentionApproval) : Value := .obj [
  ("approvalId", .str a.approvalId),
  ("riskDescription", .str a.riskDescription),
  ("requestedAction", .str a.requestedAction),
  ("decisions", .arr (a.decisions.map fun d =>
    .obj [("decisionId", .str d.decisionId), ("label", .str d.label)])),
  ("scope", .str a.scope),
  ("turn", turnId a.turn),
  ("createdAt", tsValue a.createdAt),
  ("valid", .bool a.valid)]

def settingJson (s : SettingOption) : Value := .obj [
  ("optionId", .str s.optionId),
  ("kind", .str (settingKindName s.kind)),
  ("label", .str s.label),
  ("currentValue", .str s.currentValue),
  ("availableValues", .arr (s.availableValues.map fun v =>
    .obj [("value", .str v.value), ("label", .str v.label)])),
  ("mutable", .bool s.mutable)]

def transferLimitsJson (t : TransferLimits) : Value := .obj [
  ("textInlineMaxBytes", .num t.textInlineMaxBytes),
  ("imageInlineMaxBytes", .num t.imageInlineMaxBytes),
  ("pdfRangeMaxBytes", .num t.pdfRangeMaxBytes),
  ("downloadMaxBytes", .num t.downloadMaxBytes),
  ("uploadMaxBytes", .num t.uploadMaxBytes),
  ("maxConcurrentPerBrowser", .num t.maxConcurrentPerBrowser.toNat),
  ("maxConcurrentPerDevice", .num t.maxConcurrentPerDevice.toNat),
  ("previewableMimePrefixes", .arr (t.previewableMimePrefixes.map .str))]

def capabilitiesJson (capabilities : Option CapabilitySnapshot) : Value :=
  .orNull (capabilities.map fun c => .obj [
    ("controlMode", .str (controlModeName c.controlMode)),
    ("compatibilityState", .str (compatibilityStateName c.compatibilityState)),
    ("codexVersion", .str c.codexVersion),
    ("supportedOperations", .arr (c.supportedOperations.map fun op => .str (operationName op))),
    ("settings", .arr (c.settings.map settingJson)),
    ("transferLimits", .orNull (c.transferLimits.map transferLimitsJson))])

def outputCursorJson (c : OutputCursor) : Value := .obj [
  ("itemId", itemId c.itemId),
  ("revision", .num c.revision),
  ("byteLength", .num c.byteLength),
  ("isFinal", .bool c.isFinal),
  ("channel", .str (outputChannelName c.channel))]

def backgroundCommandJson (c : BackgroundCommand) : Value := .obj [
  ("commandId", .str c.commandId),
  ("itemId", itemId c.itemId),
  ("state", .str (backgroundCommandStateName c.state)),
  ("startedAt", tsValue c.startedAt),
  ("finishedAt", tsValue c.finishedAt)]

/-! ## Answers -/

/-- `item_content_json`, without the inline diff of a file change. -/
def itemContentJson : Content → Value
  | .userMessage text => .obj [("userMessage", .obj [("text", .str text)])]
  | .assistantMessage m =>
    .obj [("assistantMessage", .obj [("text", .str m.text), ("final", .bool m.final)])]
  | .reasoningSummary text => .obj [("reasoningSummary", .obj [("text", .str text)])]
  | .plan plan => .obj [("plan", planJson (some plan))]
  | .toolCall t => .obj [("toolCall", .obj [
      ("toolCallId", .str t.toolCallId),
      ("name", .str t.name),
      ("status", .str (planStepStatusName t.status)),
      ("summary", .str t.summary),
      ("durationMs", .num t.durationMs)])]
  | .commandStatus c => .obj [("commandStatus", .obj [
      ("commandId", .str c.commandId),
      ("state", .str (backgroundCommandStateName c.state)),
      ("startedAt", tsValue c.startedAt),
      ("finishedAt", tsValue c.finishedAt),
      ("durationMs", .num c.durationMs)])]
  | .fileChange files => .obj [("fileChange", .obj [
      ("files", .arr (files.map fun fc => .obj [
        ("path", .str fc.path),
        ("kind", .str (fileChangeKindName fc.kind)),
        ("newPath", .str fc.newPath),
        ("diffTruncated", .bool fc.diffTruncated)]))])]
  | .subagentStatus s => .obj [("subagentStatus", .obj [
      ("subagentTurn", turnId s.subagentTurn),
      ("parentTurn", turnId s.parentTurn),
      ("label", .str s.label),
      ("phase", .str (activeTurnPhaseName s.phase)),
      ("outcome", .str (lastTurnOutcomeName s.outcome))])]
  | .question q => .obj [("question", questionJson q)]
  | .approval a => .obj [("approval", approvalJson a)]
  | .tokenUsage t => .obj [("tokenUsage", .obj [
      ("inputTokens", .num t.inputTokens),
      ("outputTokens", .num t.outputTokens),
      ("contextUsedTokens", .num t.contextUsedTokens),
      ("contextWindowTokens", .num t.contextWindowTokens)])]

/-- `runtime_snapshot_json` -/
def runtimeSnapshotJson (s : RuntimeSnapshot) : Value := .obj [
  ("runtimeRevision", .num s.runtimeRevision),
  ("currentTurn", .orNull (s.currentTurn.map fun t => .obj [
    ("turn", turnId t.turn),
    ("phase", .str (activeTurnPhaseName t.phase)),
    ("startedAt", tsValue t.startedAt)])),
  ("plan", planJson s.plan),
  ("pendingQuestions", .arr (s.pendingQuestions.map questionJson)),
  ("pendingApprovals", .arr (s.pendingApprovals.map approvalJson)),
  ("runningCommands", .arr (s.runningCommands.map fun c => .obj [
    ("commandId", .str c.commandId),
    ("itemId", itemId c.itemId),
    ("startedAt", tsValue c.startedAt)])),
  ("backgroundCommands", .arr (s.backgroundCommands.map backgroundCommandJson)),
  ("backgroundCommandCount", .num s.backgroundCommandCount.toNat),
  ("queue", .orNull (s.queue.map fun q => .obj [
    ("state", .str (queueStateName q.state)),
    ("afterTurnId", turnId q.afterTurnId),
    ("acceptedRuntimeRevision", .num q.acceptedRuntimeRevision)])),
  ("capabilities", capabilitiesJson s.capabilities),
  ("recentOutputCursors", .arr (s.recentOutputCursors.map outputCursorJson))]

/-- An item of a history page: `content` stands only in an item that has one. -/
def itemJson (i : Item) : Value := .obj ([
  ("itemId", itemId i.itemId),
  ("turn", turnId i.turn),
  ("revision", .num i.revision),
  ("createdAt", tsValue i.createdAt)] ++
  match i.content with
  | some content => [("content", itemContentJson content)]
  | none => [])

def historyEntryJson (e : HistoryEntry) : Value := .obj [
  ("turn", turnId e.turn),
  ("item", .orNull (e.item.map itemJson))]

/-- `history_page_json` -/
def historyPageJson (h : HistoryPage) : Value := .obj [
  ("entries", .arr (h.entries.map historyEntryJson)),
  ("nextCursor", if h.nextCursor = "" then .null else .str h.nextCursor),
  ("hasMore", .bool h.hasMore)]

end AgentConsole.SessionJson
