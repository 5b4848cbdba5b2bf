import AgentConsole.Web.Snapshot

/-! # A session's view over HTTP and over a stream

Both paths read an enumeration to the same value, whatever number a Bridge sends, and build
the same attention, plan, queue, settings and cursors.  What is left are the integers that a
binary64 number cannot hold and the items the two decoders write in different words. -/

namespace AgentConsole.Web

open AgentConsole.Lib AgentConsole.Lib.Json AgentConsole.Wire AgentConsole.SessionJson
open Binary64 (maxSafe)

/-! ## Enumerations -/

theorem phaseFromName_name (value : Int) :
    phaseFromName (activeTurnPhaseName value) = phaseFromProto value := by
  unfold activeTurnPhaseName
  split
  case h_5 _ _ running finishing =>
    rw [phaseFromProto, if_neg running, if_neg finishing]
    decide +kernel
  all_goals decide +kernel

theorem queueFromName_name (value : Int) :
    queueFromName (queueStateName value) = queueFromProto value := by
  unfold queueStateName
  split
  case h_5 _ _ queued paused =>
    rw [queueFromProto, if_neg queued, if_neg paused]
    decide +kernel
  all_goals decide +kernel

theorem backgroundStateFromName_name (value : Int) :
    backgroundStateFromName (backgroundCommandStateName value) =
      backgroundStateFromProto value := by
  unfold backgroundCommandStateName
  split
  case h_7 _ _ running completed failed stopped _ =>
    rw [backgroundStateFromProto, if_neg completed, if_neg failed, if_neg stopped,
      if_neg running]
    decide +kernel
  all_goals decide +kernel

theorem settingListKeyFromName_name (value : Int) :
    settingListKeyFromName (settingKindName value) = settingListKeyFromProto value := by
  unfold settingKindName
  split
  case h_7 =>
    rw [settingListKeyFromProto]
    · decide +kernel
    all_goals assumption
  all_goals decide +kernel

theorem withoutPrefix_append (start rest : String) :
    withoutPrefix start (start ++ rest) = rest := by
  simp [withoutPrefix]

/-- A number is written with a sign and digits. -/
theorem head_toString {value : Int} {c : Char} {rest : List Char}
    (written : (toString value).toList = c :: rest) : c = '-' ∨ c.isDigit := by
  cases value with
  | ofNat n =>
    right
    have digits : (Nat.repr n).toList = c :: rest := written
    rw [Nat.repr, String.toList_ofList] at digits
    have first : c ∈ Nat.toDigits 10 n := by
      rw [digits]
      exact List.mem_cons_self
    exact Nat.isDigit_of_mem_toDigits (by decide) (by decide) first
  | negSucc n =>
    left
    have signed : ("-" ++ Nat.repr (n + 1)).toList = c :: rest := written
    rw [String.toList_append] at signed
    exact (List.cons.inj signed).1.symm

theorem toString_ne (value : Int) {word : String}
    (letter : (word.toList.head?.any fun c => c != '-' && !c.isDigit) = true) :
    toString value ≠ word := by
  intro same
  obtain ⟨c, first, symbol⟩ := (Option.any_eq_true _ _).mp letter
  obtain ⟨rest, whole⟩ := List.head?_eq_some_iff.mp first
  rcases head_toString (same ▸ whole) with sign | digit
  · simp [sign] at symbol
  · simp [digit] at symbol

/-- An operation the client does not know is written with its number, and no word of the
client's table is a number. -/
theorem operationFromName_name (value : Int) :
    operationFromName (operationName value) = operationFromProto value := by
  unfold operationName
  split
  case h_18 =>
    rw [operationFromName, withoutPrefix_append, operationFromProto]
    · split
      case h_12 => rfl
      all_goals
        rename_i same
        exact absurd same (toString_ne _ (by decide))
    all_goals assumption
  all_goals decide +kernel

/-! ## Parts of a message -/

@[simp] theorem timeOrEmpty_tsValue (timestamp : Option Timestamp) :
    (tsValue timestamp).timeOrEmpty = timestamp := by
  cases timestamp <;> rfl

@[simp] theorem turnId_field (turn : Option TurnId) :
    ((turnId turn).field "id").stringOrEmpty = (turn.map (·.id)).getD "" := by
  cases turn <;> simp [turnId]

@[simp] theorem itemId_field (item : Option ItemId) :
    ((itemId item).field "id").stringOrEmpty = (item.map (·.id)).getD "" := by
  cases item <;> simp [itemId]

theorem mapQuestionJson_json (q : PendingAttentionQuestion) (sessionId : String) :
    mapQuestionJson (questionJson q) sessionId = mapQuestionProto q sessionId := by
  simp [mapQuestionJson, mapQuestionProto, questionJson]

theorem mapApprovalJson_json (a : PendingAttentionApproval) (sessionId : String) :
    mapApprovalJson (approvalJson a) sessionId = mapApprovalProto a sessionId := by
  simp [mapApprovalJson, mapApprovalProto, approvalJson]

theorem mapPlanStepJson_json (step : PlanStep) :
    mapPlanStepJson (planStepJson step) = mapPlanStepProto step := by
  obtain ⟨stepId, title, status⟩ := step
  simp [mapPlanStepJson, planStepJson, mapPlanStepProto]
  unfold planStepStatusName
  split
  case h_5 _ _ _ progress completed =>
    rw [if_neg completed, if_neg progress]
    rfl
  all_goals rfl

theorem planSteps_json (plan : Option Plan) :
    ((planJson plan).field "steps").arrayOrEmpty.map mapPlanStepJson =
      ((plan.map (·.steps)).getD []).map mapPlanStepProto := by
  cases plan with
  | none => rfl
  | some plan => simp [planJson, Function.comp_def, mapPlanStepJson_json]

theorem mapQueueJson_json (queue : Option QueueStatus) :
    mapQueueJson (.orNull (queue.map fun q => .obj [
      ("state", .str (queueStateName q.state)),
      ("afterTurnId", turnId q.afterTurnId),
      ("acceptedRuntimeRevision", .num q.acceptedRuntimeRevision)])) = mapQueueProto queue := by
  cases queue with
  | none => rfl
  | some queue => simp [mapQueueJson, mapQueueProto, queueFromName_name]

theorem settingOptionsFromJson_json (capability : Option CapabilitySnapshot) :
    settingOptionsFromJson ((capabilitiesJson capability).record.field "settings") =
      settingOptionsFromProto capability := by
  cases capability with
  | none => rfl
  | some capability =>
    simp [settingOptionsFromJson, settingOptionsFromProto, capabilitiesJson, settingJson,
      List.foldl_map, Function.comp_def, settingListKeyFromName_name]

theorem settingsFromJson_json (capability : Option CapabilitySnapshot) :
    settingsFromJson (capabilitiesJson capability).recordOrUndefined =
      settingsFromProto capability := by
  cases capability with
  | none => rfl
  | some capability =>
    simp [settingsFromJson, settingsFromProto, capabilitiesJson, settingJson, List.foldl_map,
      settingListKeyFromName_name]

section Decoding

variable {number : Nat → Nat} (word : ∀ n : UInt32, number n.toNat = n.toNat)
include word

theorem mapCapabilitiesJson_json (capability : Option CapabilitySnapshot) (revision : Nat) :
    mapCapabilitiesJson number (capabilitiesJson capability) revision =
      mapCapabilitiesProto number capability revision := by
  cases capability with
  | none => rfl
  | some capability =>
    simp only [mapCapabilitiesJson, settingOptionsFromJson_json]
    cases limits : capability.transferLimits <;>
      simp [mapCapabilitiesProto, capabilitiesJson, mapTransferLimits, transferLimitsJson,
        transferLimitsProto,
        List.foldl_map, Function.comp_def, operationFromName_name, limits, word]

/-- Decoding the JSON of a snapshot and decoding the snapshot, with one reading of the
64-bit integers that is exact on 32-bit ones. -/
theorem mapRuntimeSnapshotJson_json (sessionId : String) (s : RuntimeSnapshot) :
    mapRuntimeSnapshotJson number sessionId (runtimeSnapshotJson s) =
      mapRuntimeSnapshotProto number sessionId s := by
  have turn : (mapRuntimeSnapshotJson number sessionId (runtimeSnapshotJson s)).activeTurnId =
      (mapRuntimeSnapshotProto number sessionId s).activeTurnId ∧
      (mapRuntimeSnapshotJson number sessionId (runtimeSnapshotJson s)).phase =
        (mapRuntimeSnapshotProto number sessionId s).phase := by
    rcases turn : s.currentTurn with _ | ⟨_ | ⟨id, synthetic⟩, phase, startedAt⟩ <;>
      simp [mapRuntimeSnapshotJson, runtimeSnapshotJson, mapRuntimeSnapshotProto, turn, turnId,
        nonempty, phaseFromName_name]
  simpa [mapRuntimeSnapshotJson, runtimeSnapshotJson, mapRuntimeSnapshotProto, Function.comp_def,
    mapQuestionJson_json, mapApprovalJson_json, mapQueueJson_json, mapCapabilitiesJson_json word,
    settingsFromJson_json, planSteps_json, backgroundCommandJson, backgroundStateFromName_name,
    outputCursorJson, List.filter_map, word] using turn

end Decoding

/-! ## Integers -/

theorem round_word (n : UInt32) : Binary64.round n.toNat = n.toNat :=
  Binary64.round_of_le (by have := n.toNat_lt; simp only [maxSafe]; omega)

def TransferLimits.numbers (limits : TransferLimits) : List Nat :=
  [limits.textInlineMaxBytes, limits.imageInlineMaxBytes, limits.pdfRangeMaxBytes,
    limits.downloadMaxBytes, limits.uploadMaxBytes]

/-- A cursor without an item is not shown. -/
def OutputCursor.shown (cursor : OutputCursor) : Bool := (cursor.itemId.map (·.id)).getD "" ≠ ""

/-- The 64-bit integers that are shown of a snapshot. -/
def RuntimeSnapshot.numbers (s : RuntimeSnapshot) : List Nat :=
  s.runtimeRevision ::
    (((s.capabilities.bind (·.transferLimits)).map TransferLimits.numbers).getD [] ++
    (s.recentOutputCursors.filter OutputCursor.shown).flatMap fun cursor =>
      [cursor.revision, cursor.byteLength])

section Readings

variable {f g : Nat → Nat}

end Readings

@[simp] theorem truthy_planJson (plan : Plan) : (planJson (some plan)).truthy = true := rfl
@[simp] theorem truthy_questionJson (q : PendingAttentionQuestion) :
    (questionJson q).truthy = true := rfl
@[simp] theorem truthy_approvalJson (a : PendingAttentionApproval) :
    (approvalJson a).truthy = true := rfl

/-! ### Lists of paths -/

/-- The browser writes different numbers differently, and no number with a slash. -/
structure Localized (toLocaleString : Nat → String) : Prop where
  distinct : ∀ a b, toLocaleString (Binary64.round a) = toLocaleString (Binary64.round b) →
    Binary64.round a = Binary64.round b
  unslashed : ∀ n, '/' ∉ (toLocaleString n).toList

/-- The clamped and the nearest number are written alike exactly where both are exact. -/
theorem Localized.safe {toLocaleString : Nat → String} (localized : Localized toLocaleString)
    {n : Nat}
    (same : toLocaleString (Binary64.round n) = toLocaleString (Binary64.clamp n)) :
    n ≤ maxSafe := by
  have clamped : Binary64.round (Binary64.clamp n) = Binary64.clamp n :=
    Binary64.round_of_le (by rw [Binary64.clamp_eq]; omega)
  rw [← clamped] at same
  have := localized.distinct _ _ same
  rw [clamped, Binary64.clamp_eq] at this
  exact Binary64.round_le_iff.mp (by omega)

/-! ## Items -/

/-- Content both decoders put in the same words, with integers both can hold. -/
def Content.Alike : Content → Prop
  | .toolCall call => call.name ≠ ""
  | .fileChange files => (∀ file ∈ files, file.path ≠ "") ∨ files.length = 1
  | .subagentStatus _ => False
  | .commandStatus command => tenths command.durationMs ≤ tenths maxSafe
  | .tokenUsage usage => usage.contextUsedTokens ≤ maxSafe ∧ usage.contextWindowTokens ≤ maxSafe
  | .userMessage _ | .assistantMessage _ | .reasoningSummary _ | .plan _ | .question _
  | .approval _ => True

/-- A message about a session that can arrive by either path; over HTTP an item stands in an
entry of a page of history. -/
inductive Message where
  | snapshot (snapshot : RuntimeSnapshot)
  | item (turn : Option TurnId) (item : Item)
  deriving DecidableEq, Repr

inductive View where
  | session (view : SessionView)
  | item (view : Option TimelineItem)

section Paths

variable (toLocaleString : Nat → String) (randomUUID sessionId : String)

/-- The view of a decoded message, with `number` for `safeNumber`. -/
def decoded (number : Nat → Nat) : Message → View
  | .snapshot snapshot => .session (mapRuntimeSnapshotProto number sessionId snapshot)
  | .item _ item => .item (mapItemProto number toLocaleString randomUUID item sessionId)

end Paths

/-- A message that shows only safe integers and nothing the decoders word differently. -/
def Message.Plain (drawnHttp drawnStream : String) : Message → Prop
  | .snapshot s => ∀ n ∈ RuntimeSnapshot.numbers s, n ≤ maxSafe
  | .item _ i =>
    ∀ content ∈ i.content,
      ((i.itemId.map (·.id)).getD "" ≠ "" ∨ drawnHttp = drawnStream) ∧ Content.Alike content

end AgentConsole.Web
