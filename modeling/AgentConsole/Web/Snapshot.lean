import AgentConsole.Relay.SessionJson
import AgentConsole.Web.Output

/-! # The web client's view of a session

The client builds its model of a session from the relay's JSON answers and from the
messages of a stream.  The two sets of functions of `real-transport.ts` stand side by side.

`number` is what a 64-bit integer becomes: the nearest binary64 number where JSON was
parsed, the clamped one where a message was decoded.  `toLocaleString` is the browser's
text of a number, `randomUUID` the value drawn for an item without an id.  The text of an
instant is modelled by the timestamp it prints, so two texts are equal when they name the
same instant, whether they print its nanoseconds or its milliseconds. -/

namespace AgentConsole.Web

open AgentConsole.Lib AgentConsole.Wire
open AgentConsole.SessionJson (Value)

/-! ## The model -/

inductive ActiveTurnPhase where
  | idle | running | finishing
  deriving DecidableEq, Repr

inductive QueueState where
  | empty | queued | paused
  deriving DecidableEq, Repr

inductive BackgroundCommandState where
  | completed | failed | stopped | running | unknown
  deriving DecidableEq, Repr

inductive PlanStepStatus where
  | completed | running | pending
  deriving DecidableEq, Repr

inductive ControlOperation where
  | startTurn | setQueue | replaceQueue | cancelQueue | steer | interrupt
  | answerQuestion | answerApproval | updateSettings
  | stopBackgroundCommand | stopAllBackgroundCommands
  | openFile | readGitDiff
  deriving DecidableEq, Repr

inductive Emphasis where
  | primary | secondary
  deriving DecidableEq, Repr

structure AttentionOption where
  id : String
  label : String
  emphasis : Emphasis
  deriving DecidableEq, Repr

inductive AttentionKind where
  | userQuestion | riskApproval
  deriving DecidableEq, Repr

structure AttentionItem where
  id : String
  kind : AttentionKind
  sessionId : String
  turnId : String
  title : String
  description : String
  createdAt : Option Timestamp
  valid : Bool
  requestAction : Option String := none
  risk : Option String := none
  allowFreeText : Option Bool := none
  options : List AttentionOption
  deriving DecidableEq, Repr

structure StepView where
  id : String
  label : String
  status : PlanStepStatus
  deriving DecidableEq, Repr

/-- `elapsed` counts tenths of a second; no text is shown for zero. -/
inductive TimelineItem where
  | commentary (id : String) (createdAt : Option Timestamp) (author body : String)
  | plan (id : String) (createdAt : Option Timestamp) (steps : List StepView)
  | command (id : String) (createdAt : Option Timestamp) (command : String)
      (status : BackgroundCommandState) (elapsed : Option Nat) (output : OutputState)
  | backgroundCommand (id : String) (createdAt : Option Timestamp) (commandId command : String)
      (status : BackgroundCommandState)
  | attention (id : String) (createdAt : Option Timestamp) (attention : AttentionItem)
  deriving DecidableEq, Repr

structure QueueView where
  status : QueueState
  afterTurnId : Option String := none
  deriving DecidableEq, Repr

structure SelectOption where
  id : String
  label : String
  disabled : Bool
  deriving DecidableEq, Repr

/-- The lists of settings, and with them the fields of `RuntimeSettings`. -/
inductive SettingListKey where
  | models | thinkingDepths | serviceTiers | permissionModes | collaborationModes
  deriving DecidableEq, Repr

structure LimitsView where
  textInlineMaxBytes : Nat
  imageInlineMaxBytes : Nat
  pdfRangeMaxBytes : Nat
  downloadMaxBytes : Nat
  uploadMaxBytes : Nat
  maxConcurrentPerBrowser : Nat
  maxConcurrentPerDevice : Nat
  previewableMimePrefixes : List String
  deriving DecidableEq, Repr

structure CapabilityView where
  revision : Nat
  operations : ControlOperation → Bool
  codexVersion : Option String
  settingOptions : SettingListKey → List SelectOption
  transferLimits : Option LimitsView

/-- `finalUnavailable` is optional, and absent means `false`. -/
structure CursorView where
  itemId : String
  revision : Nat
  byteLength : Nat
  isFinal : Bool
  finalUnavailable : Bool := false
  deriving DecidableEq, Repr

structure SessionView where
  sessionId : String
  runtimeRevision : Nat
  activeTurnId : Option String
  phase : ActiveTurnPhase
  attention : List AttentionItem
  queue : QueueView
  capabilities : CapabilityView
  settings : SettingListKey → String
  contextUsed : Nat := 0
  contextWindow : Nat := 1
  timeline : List TimelineItem
  backgroundCommandCount : Nat
  outputCursors : List CursorView

/-! ## Enumerations by name and by number -/

def phaseFromName (value : String) : ActiveTurnPhase :=
  if endsWith value "RUNNING" then .running
  else if endsWith value "FINISHING" then .finishing
  else .idle

def phaseFromProto (value : Int) : ActiveTurnPhase :=
  if value = 2 then .running else if value = 3 then .finishing else .idle

def queueFromName (value : String) : QueueState :=
  if endsWith value "QUEUED" then .queued
  else if endsWith value "PAUSED" then .paused
  else .empty

def queueFromProto (value : Int) : QueueState :=
  if value = 2 then .queued else if value = 3 then .paused else .empty

def backgroundStateFromName (value : String) : BackgroundCommandState :=
  if endsWith value "COMPLETED" then .completed
  else if endsWith value "FAILED" then .failed
  else if endsWith value "STOPPED" then .stopped
  else if endsWith value "RUNNING" then .running
  else .unknown

def backgroundStateFromProto (value : Int) : BackgroundCommandState :=
  if value = 2 then .completed
  else if value = 3 then .failed
  else if value = 4 then .stopped
  else if value = 1 then .running
  else .unknown

def operationFromName (value : String) : Option ControlOperation :=
  match withoutPrefix "OPERATION_" value with
  | "START_TURN" => some .startTurn
  | "QUEUE_SET" => some .setQueue
  | "QUEUE_REPLACE" => some .replaceQueue
  | "QUEUE_CANCEL" => some .cancelQueue
  | "STEER" => some .steer
  | "INTERRUPT" => some .interrupt
  | "ANSWER_QUESTION" => some .answerQuestion
  | "ANSWER_APPROVAL" => some .answerApproval
  | "UPDATE_SETTINGS" => some .updateSettings
  | "STOP_BACKGROUND_COMMAND" => some .stopBackgroundCommand
  | "STOP_ALL_BACKGROUND_COMMANDS" => some .stopAllBackgroundCommands
  | _ => none

def operationFromProto : Int → Option ControlOperation
  | 2 => some .startTurn
  | 3 => some .setQueue
  | 4 => some .replaceQueue
  | 5 => some .cancelQueue
  | 6 => some .steer
  | 7 => some .interrupt
  | 8 => some .answerQuestion
  | 9 => some .answerApproval
  | 10 => some .updateSettings
  | 15 => some .stopBackgroundCommand
  | 16 => some .stopAllBackgroundCommands
  | _ => none

/-- `settingListKey` of a name. -/
def settingListKeyFromName (kind : String) : SettingListKey :=
  match withoutPrefix "SETTING_KIND_" kind with
  | "MODEL" => .models
  | "REASONING_EFFORT" => .thinkingDepths
  | "SERVICE_TIER" => .serviceTiers
  | "PERMISSION_MODE" => .permissionModes
  | _ => .collaborationModes

/-- `settingListKey` of a number. -/
def settingListKeyFromProto : Int → SettingListKey
  | 1 => .models
  | 2 => .thinkingDepths
  | 3 => .serviceTiers
  | 4 => .permissionModes
  | _ => .collaborationModes

/-! ## Attention, plan and queue -/

/-- `/拒绝|deny|reject/i.test(label)` -/
def refuses (label : String) : Bool :=
  ["拒绝", "deny", "reject"].any fun word => word.toList <:+: label.toList.map Char.toLower

def emphasis (label : String) : Emphasis := if refuses label then .secondary else .primary

def mapQuestionJson (value : Value) (sessionId : String) : AttentionItem :=
  let raw := value.record
  { id := (raw.field "questionId").stringOrEmpty
    kind := .userQuestion
    sessionId
    turnId := ((raw.field "turn").field "id").stringOrEmpty
    title :=
      let title := (raw.field "title").stringOrEmpty
      if title = "" then "Codex 提问" else title
    description := (raw.field "description").stringOrEmpty
    createdAt := (raw.field "createdAt").timeOrEmpty
    valid := (raw.field "valid").truthy
    allowFreeText := some (raw.field "allowFreeText").truthy
    options := (raw.field "options").arrayOrEmpty.map fun option =>
      { id := (option.field "optionId").stringOrEmpty
        label := (option.field "label").stringOrEmpty
        emphasis := .secondary } }

def mapQuestionProto (value : PendingAttentionQuestion) (sessionId : String) : AttentionItem where
  id := value.questionId
  kind := .userQuestion
  sessionId
  turnId := (value.turn.map (·.id)).getD ""
  title := if value.title = "" then "Codex 提问" else value.title
  description := value.description
  createdAt := value.createdAt
  valid := value.valid
  allowFreeText := some value.allowFreeText
  options := value.options.map fun option =>
    { id := option.optionId, label := option.label, emphasis := .secondary }

def mapApprovalJson (value : Value) (sessionId : String) : AttentionItem :=
  let raw := value.record
  { id := (raw.field "approvalId").stringOrEmpty
    kind := .riskApproval
    sessionId
    turnId := ((raw.field "turn").field "id").stringOrEmpty
    title := "风险审批"
    description := (raw.field "riskDescription").stringOrEmpty
    requestAction := some (raw.field "requestedAction").stringOrEmpty
    risk := some (raw.field "riskDescription").stringOrEmpty
    createdAt := (raw.field "createdAt").timeOrEmpty
    valid := (raw.field "valid").truthy
    options := (raw.field "decisions").arrayOrEmpty.map fun decision =>
      let label := (decision.field "label").stringOrEmpty
      { id := (decision.field "decisionId").stringOrEmpty, label, emphasis := emphasis label } }

def mapApprovalProto (value : PendingAttentionApproval) (sessionId : String) : AttentionItem where
  id := value.approvalId
  kind := .riskApproval
  sessionId
  turnId := (value.turn.map (·.id)).getD ""
  title := "风险审批"
  description := value.riskDescription
  requestAction := some value.requestedAction
  risk := some value.riskDescription
  createdAt := value.createdAt
  valid := value.valid
  options := value.decisions.map fun decision =>
    { id := decision.decisionId, label := decision.label, emphasis := emphasis decision.label }

def mapPlanStepJson (value : Value) : StepView :=
  let raw := value.record
  let status := (raw.field "status").stringOrEmpty
  { id := (raw.field "stepId").stringOrEmpty
    label := (raw.field "title").stringOrEmpty
    status :=
      if endsWith status "COMPLETED" then .completed
      else if endsWith status "IN_PROGRESS" then .running
      else .pending }

/-- The step of a message, as `mapRuntimeSnapshotProto` and `mapItemProto` write it. -/
def mapPlanStepProto (step : PlanStep) : StepView where
  id := step.stepId
  label := step.title
  status := if step.status = 3 then .completed else if step.status = 2 then .running else .pending

/-- An optional field that is only set when there is something to set. -/
def nonempty (value : String) : Option String := if value = "" then none else some value

def mapQueueJson (value : Value) : QueueView :=
  match value.recordOrUndefined with
  | none => { status := .empty }
  | some raw =>
    { status := queueFromName (raw.field "state").stringOrEmpty
      afterTurnId := nonempty ((raw.field "afterTurnId").field "id").stringOrEmpty }

def mapQueueProto : Option QueueStatus → QueueView
  | none => { status := .empty }
  | some value =>
    { status := queueFromProto value.state
      afterTurnId := nonempty ((value.afterTurnId.map (·.id)).getD "") }

/-! ## Capabilities and settings -/

def emptyOperations : ControlOperation → Bool := fun _ => false

/-- `operations[operation] = true`, for a known operation. -/
def permit (operations : ControlOperation → Bool) (operation : Option ControlOperation) :
    ControlOperation → Bool :=
  match operation with
  | some operation => Function.update operations operation true
  | none => operations

/-- The current value is offered even where it is not available. -/
def withCurrent (options : List SelectOption) (current : String) : List SelectOption :=
  if current ≠ "" ∧ ¬ options.any (·.id = current) then
    options ++ [{ id := current, label := current, disabled := true }]
  else options

/-- `result[key].push(...options)` -/
def pushOptions (result : SettingListKey → List SelectOption) (key : SettingListKey)
    (options : List SelectOption) : SettingListKey → List SelectOption :=
  Function.update result key (result key ++ options)

def settingOptionsFromJson (value : Value) : SettingListKey → List SelectOption :=
  value.arrayOrEmpty.foldl (fun result entry =>
    let setting := entry.record
    let options := (setting.field "availableValues").arrayOrEmpty.map fun option =>
      let value := (option.field "value").stringOrEmpty
      let label := (option.field "label").stringOrEmpty
      { id := value
        label := if label = "" then value else label
        disabled := !(setting.field "mutable").truthy }
    pushOptions result (settingListKeyFromName (setting.field "kind").stringOrEmpty)
      (withCurrent options (setting.field "currentValue").stringOrEmpty))
    fun _ => []

def settingOptionsFromProto (capability : Option CapabilitySnapshot) :
    SettingListKey → List SelectOption :=
  ((capability.map (·.settings)).getD []).foldl (fun result setting =>
    let options := setting.availableValues.map fun option =>
      { id := option.value
        label := if option.label = "" then option.value else option.label
        disabled := !setting.mutable }
    pushOptions result (settingListKeyFromProto setting.kind)
      (withCurrent options setting.currentValue))
    fun _ => []

def settingsFromJson (capabilities : Option Value) : SettingListKey → String :=
  ((capabilities.map fun c => (c.field "settings").arrayOrEmpty).getD []).foldl
    (fun settings entry =>
      let setting := entry.record
      Function.update settings (settingListKeyFromName (setting.field "kind").stringOrEmpty)
        (setting.field "currentValue").stringOrEmpty)
    fun _ => ""

def settingsFromProto (capability : Option CapabilitySnapshot) : SettingListKey → String :=
  ((capability.map (·.settings)).getD []).foldl (fun settings setting =>
    Function.update settings (settingListKeyFromProto setting.kind) setting.currentValue)
    fun _ => ""

variable (number : Nat → Nat)

def mapTransferLimits (raw : Option Value) : Option LimitsView :=
  raw.map fun raw =>
    { textInlineMaxBytes := (raw.field "textInlineMaxBytes").numberOrZero number
      imageInlineMaxBytes := (raw.field "imageInlineMaxBytes").numberOrZero number
      pdfRangeMaxBytes := (raw.field "pdfRangeMaxBytes").numberOrZero number
      downloadMaxBytes := (raw.field "downloadMaxBytes").numberOrZero number
      uploadMaxBytes := (raw.field "uploadMaxBytes").numberOrZero number
      maxConcurrentPerBrowser := (raw.field "maxConcurrentPerBrowser").numberOrZero number
      maxConcurrentPerDevice := (raw.field "maxConcurrentPerDevice").numberOrZero number
      previewableMimePrefixes :=
        (raw.field "previewableMimePrefixes").arrayOrEmpty.map (·.stringOrEmpty) }

def mapCapabilitiesJson (value : Value) (revision : Nat) : CapabilityView :=
  let raw := value.record
  { revision
    operations := (raw.field "supportedOperations").arrayOrEmpty.foldl
      (fun operations name => permit operations (operationFromName name.stringOrEmpty))
      emptyOperations
    codexVersion := nonempty (raw.field "codexVersion").stringOrEmpty
    settingOptions := settingOptionsFromJson (raw.field "settings")
    transferLimits := mapTransferLimits number (raw.field "transferLimits").recordOrUndefined }

/-- The transfer limits of `mapCapabilitiesProto`. -/
def transferLimitsProto (limits : TransferLimits) : LimitsView where
  textInlineMaxBytes := number limits.textInlineMaxBytes
  imageInlineMaxBytes := number limits.imageInlineMaxBytes
  pdfRangeMaxBytes := number limits.pdfRangeMaxBytes
  downloadMaxBytes := number limits.downloadMaxBytes
  uploadMaxBytes := number limits.uploadMaxBytes
  maxConcurrentPerBrowser := limits.maxConcurrentPerBrowser.toNat
  maxConcurrentPerDevice := limits.maxConcurrentPerDevice.toNat
  previewableMimePrefixes := limits.previewableMimePrefixes

def mapCapabilitiesProto (capability : Option CapabilitySnapshot) (revision : Nat) :
    CapabilityView where
  revision
  operations := ((capability.map (·.supportedOperations)).getD []).foldl
    (fun operations value => permit operations (operationFromProto value)) emptyOperations
  codexVersion := nonempty ((capability.map (·.codexVersion)).getD "")
  settingOptions := settingOptionsFromProto capability
  transferLimits := (capability.bind (·.transferLimits)).map (transferLimitsProto number)

/-! ## Snapshots -/

/-- The timeline of a snapshot: the plan, what waits for an answer, background commands. -/
def snapshotTimeline (sessionId : String) (steps : List StepView)
    (attention : List AttentionItem) (backgrounds : List TimelineItem) : List TimelineItem :=
  (if steps = [] then [] else [.plan ("plan-" ++ sessionId) none steps]) ++
    attention.map (fun item => .attention ("attention-" ++ item.id) item.createdAt item) ++
    backgrounds

def mapRuntimeSnapshotJson (sessionId : String) (value : Value) : SessionView :=
  let raw := value.record
  let current := (raw.field "currentTurn").recordOrUndefined
  let attention :=
    (raw.field "pendingQuestions").arrayOrEmpty.map (mapQuestionJson · sessionId) ++
    (raw.field "pendingApprovals").arrayOrEmpty.map (mapApprovalJson · sessionId)
  let steps := ((raw.field "plan").field "steps").arrayOrEmpty.map mapPlanStepJson
  let backgrounds := (raw.field "backgroundCommands").arrayOrEmpty.map fun value =>
    let command := value.record
    let commandId := (command.field "commandId").stringOrEmpty
    .backgroundCommand ("background-" ++ commandId) (command.field "startedAt").timeOrEmpty
      commandId commandId (backgroundStateFromName (command.field "state").stringOrEmpty)
  { sessionId
    runtimeRevision := (raw.field "runtimeRevision").numberOrZero number
    activeTurnId := current.bind fun current =>
      let id := (current.field "turn").field "id"
      if id.truthy then some id.stringOrEmpty else none
    phase := (current.map fun current =>
      phaseFromName (current.field "phase").stringOrEmpty).getD .idle
    attention
    queue := mapQueueJson (raw.field "queue")
    capabilities := mapCapabilitiesJson number (raw.field "capabilities")
      ((raw.field "runtimeRevision").numberOrZero number)
    settings := settingsFromJson (raw.field "capabilities").recordOrUndefined
    timeline := snapshotTimeline sessionId steps attention backgrounds
    backgroundCommandCount := (raw.field "backgroundCommandCount").numberOrZero number
    outputCursors := ((raw.field "recentOutputCursors").arrayOrEmpty.map fun value =>
      let cursor := value.record
      { itemId := ((cursor.field "itemId").field "id").stringOrEmpty
        revision := (cursor.field "revision").numberOrZero number
        byteLength := (cursor.field "byteLength").numberOrZero number
        isFinal := (cursor.field "isFinal").truthy
        finalUnavailable := (cursor.field "finalUnavailable").truthy }).filter (·.itemId ≠ "") }

def mapRuntimeSnapshotProto (sessionId : String) (snapshot : RuntimeSnapshot) : SessionView :=
  let attention :=
    snapshot.pendingQuestions.map (mapQuestionProto · sessionId) ++
    snapshot.pendingApprovals.map (mapApprovalProto · sessionId)
  let steps := ((snapshot.plan.map (·.steps)).getD []).map mapPlanStepProto
  let backgrounds := snapshot.backgroundCommands.map fun command =>
    .backgroundCommand ("background-" ++ command.commandId) command.startedAt
      command.commandId command.commandId (backgroundStateFromProto command.state)
  { sessionId
    runtimeRevision := number snapshot.runtimeRevision
    activeTurnId := (snapshot.currentTurn.bind (·.turn)).bind fun turn => nonempty turn.id
    phase := (snapshot.currentTurn.map fun current => phaseFromProto current.phase).getD .idle
    attention
    queue := mapQueueProto snapshot.queue
    capabilities :=
      mapCapabilitiesProto number snapshot.capabilities (number snapshot.runtimeRevision)
    settings := settingsFromProto snapshot.capabilities
    timeline := snapshotTimeline sessionId steps attention backgrounds
    backgroundCommandCount := snapshot.backgroundCommandCount.toNat
    outputCursors := (snapshot.recentOutputCursors.filter fun cursor =>
        (cursor.itemId.map (·.id)).getD "" ≠ "").map fun cursor =>
      { itemId := (cursor.itemId.map (·.id)).getD ""
        revision := number cursor.revision
        byteLength := number cursor.byteLength
        isFinal := cursor.isFinal } }

/-! ## Items -/

/-- A draw of `randomUUID` stands in for a missing id. -/
def itemKey (randomUUID itemId : String) : String := if itemId = "" then randomUUID else itemId

/-- `Math.round(duration / 100)` -/
def tenths (duration : Nat) : Nat := (duration + 50) / 100

/-- The text of a duration: none for zero. -/
def elapsed (duration : Nat) : Option Nat :=
  if duration = 0 then none else some (tenths duration)

def commandTimelineItem (id : String) (createdAt : Option Timestamp) (commandId : String)
    (state : BackgroundCommandState) (duration : Nat) : TimelineItem :=
  .command id createdAt commandId
    (if state = .unknown then .running else state)
    (elapsed duration)
    { itemId := id }

variable (toLocaleString : Nat → String) (randomUUID : String)

def contextBody (used window : Nat) : String := toLocaleString used ++ " / " ++ toLocaleString window

def mapHistoryEntryJson (value : Value) (sessionId : String) : Option TimelineItem :=
  let entry := value.record
  (entry.field "item").recordOrUndefined.bind fun item =>
  (item.field "content").recordOrUndefined.bind fun content =>
  let itemId := ((item.field "itemId").field "id").stringOrEmpty
  let id := itemKey randomUUID itemId
  let createdAt := (item.field "createdAt").timeOrEmpty
  let assistant := content.field "assistantMessage"
  let user := content.field "userMessage"
  let reasoning := content.field "reasoningSummary"
  if assistant.truthy || user.truthy || reasoning.truthy then
    let message := (assistant.coalesce (user.coalesce reasoning)).record
    let author :=
      if user.truthy then "你" else if reasoning.truthy then "Reasoning" else "Codex"
    some (.commentary id createdAt author (message.field "text").stringOrEmpty)
  else if (content.field "plan").truthy then
    some (.plan id createdAt
      (((content.field "plan").field "steps").arrayOrEmpty.map mapPlanStepJson))
  else if (content.field "toolCall").truthy then
    let tool := content.field "toolCall"
    let name := (tool.field "name").stringOrEmpty
    some (.commentary id createdAt (if name = "" then "工具" else name)
      (tool.field "summary").stringOrEmpty)
  else if (content.field "commandStatus").truthy then
    let command := content.field "commandStatus"
    some (commandTimelineItem id createdAt (command.field "commandId").stringOrEmpty
      (backgroundStateFromName (command.field "state").stringOrEmpty)
      ((command.field "durationMs").numberOrZero number))
  else if (content.field "fileChange").truthy then
    let paths := ((content.field "fileChange").field "files").arrayOrEmpty.map fun file =>
      (file.field "path").stringOrEmpty
    some (.commentary id createdAt "文件变化" ("\n".intercalate (paths.filter (· ≠ ""))))
  else if (content.field "question").truthy then
    some (.attention id createdAt (mapQuestionJson (content.field "question") sessionId))
  else if (content.field "approval").truthy then
    some (.attention id createdAt (mapApprovalJson (content.field "approval") sessionId))
  else if (content.field "subagentStatus").truthy then
    let subagent := content.field "subagentStatus"
    some (.commentary id createdAt "子 Agent"
      ((subagent.field "label").stringOrEmpty ++ " · " ++ (subagent.field "phase").stringOrEmpty))
  else if (content.field "tokenUsage").truthy then
    let usage := content.field "tokenUsage"
    some (.commentary id createdAt "上下文" (contextBody toLocaleString
      ((usage.field "contextUsedTokens").numberOrZero number)
      ((usage.field "contextWindowTokens").numberOrZero number)))
  else none

/-- The text of a phase in the client's model. -/
def ActiveTurnPhase.text : ActiveTurnPhase → String
  | .idle => "IDLE"
  | .running => "RUNNING"
  | .finishing => "FINISHING"

def mapItemProto (item : Item) (sessionId : String) : Option TimelineItem :=
  let itemId := (item.itemId.map (·.id)).getD ""
  let id := itemKey randomUUID itemId
  let createdAt := item.createdAt
  item.content.map fun content =>
    match content with
    | .assistantMessage message => .commentary id createdAt "Codex" message.text
    | .userMessage text => .commentary id createdAt "你" text
    | .reasoningSummary text => .commentary id createdAt "Reasoning" text
    | .plan plan => .plan id createdAt (plan.steps.map mapPlanStepProto)
    | .toolCall call => .commentary id createdAt call.name call.summary
    | .commandStatus command =>
      commandTimelineItem id createdAt command.commandId
        (backgroundStateFromProto command.state) (number command.durationMs)
    | .fileChange files =>
      .commentary id createdAt "文件变化" ("\n".intercalate (files.map (·.path)))
    | .question question => .attention id createdAt (mapQuestionProto question sessionId)
    | .approval approval => .attention id createdAt (mapApprovalProto approval sessionId)
    | .subagentStatus subagent =>
      .commentary id createdAt "子 Agent"
        (subagent.label ++ " · " ++ (phaseFromProto subagent.phase).text)
    | .tokenUsage usage =>
      .commentary id createdAt "上下文" (contextBody toLocaleString
        (number usage.contextUsedTokens) (number usage.contextWindowTokens))

end AgentConsole.Web
