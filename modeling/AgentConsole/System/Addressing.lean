import AgentConsole.Bridge.Queries

/-! # Questions reach the session they are about

A question is answered from the data of one session.  When the message names a Codex
session, the answer depends on what the Bridge holds of this session and changes nothing
else; so a question about another session with the same native id, which goes out under
the same key, is answered from the wrong one. -/

namespace AgentConsole.System

open AgentConsole.Lib
open AgentConsole.Relay (Asked Blob HttpRequest ItemId QueriedRow QueryRequest SessionMessage Uuid agentKindName
  codexDesktop querySessionKey)
open AgentConsole.Bridge (AgentKind BridgeError OutputBuffer Services SessionCache SessionId
  SessionSlot SnapshotData Sources sessionKeyFromProto)

/-! ## The data of a session -/

/-- What the Bridge holds of a session. -/
structure Holding where
  snapshot : Option (Except BridgeError SnapshotData)
  history : Option (Option String → Nat → Except BridgeError Blob)
  output : Option (ItemId → Nat → Nat → Option Bridge.OutputChunk)
  cwd : Option String
  files : Option (String → Bridge.GrantAction → Except BridgeError Blob)
  uploads : Option (List String)
  queue : String → Except BridgeError Blob
  outputs : Option (FiniteMap String OutputBuffer)
  cache : Option SessionCache

/-- The adapter, the catalog, the working trees and the files are those of Codex. -/
def holding (src : Sources) (slot : SessionSlot) : Holding where
  snapshot :=
    match slot.agentKind with
    | .codexDesktop => some (src.refreshSnapshot slot.nativeSessionId)
    | .zcodeDesktop => src.zcodeHooks.map fun read => .ok (read slot.nativeSessionId)
  history := if slot.agentKind = .codexDesktop then some (src.historyPage slot.nativeSessionId)
    else none
  output := if slot.agentKind = .codexDesktop then some (src.outputPage slot.nativeSessionId)
    else none
  cwd := if slot.agentKind = .codexDesktop then src.sessionCwd slot.nativeSessionId else none
  files := if slot.agentKind = .codexDesktop then some (src.resolveForRead slot.nativeSessionId)
    else none
  uploads := if slot.agentKind = .codexDesktop then src.uploadHandles.get? slot.nativeSessionId
    else none
  queue := fun device => src.queueStatus device slot
  outputs := src.outputs.get? slot
  cache := src.sessions.get? slot

/-- The answer depends on the data of this session only, and leaves that of every other
session as it was. -/
def AnsweredFrom (slot : SessionSlot) (message : SessionMessage) : Prop :=
  ∀ (services : Services) (token : String) (src src' : Sources),
    (holding src slot = holding src' slot →
      (src.answer services token message).1 = (src'.answer services token message).1) ∧
    ∀ other, other ≠ slot → holding (src.answer services token message).2 other = holding src other

/-- The slot of the session of a row. -/
def IsSlotOf (slot : SessionSlot) (row : QueriedRow) : Prop :=
  agentKindName slot.agentKind.protoValue = row.agentKind ∧
    slot.nativeSessionId = row.nativeSessionId

/-- The message is about the session and the item that were asked for, and it neither
reads nor changes another session. -/
def Exact (row : QueriedRow) (asked : Asked) (message : SessionMessage) : Prop :=
  message.Addresses row asked.item ∧ ∀ slot, IsSlotOf slot row → AnsweredFrom slot message

section Frame

variable {src src' : Sources} {key : Bridge.SessionKey}

/-- Two Bridges that hold the same of a Codex session answer its questions from the same
values. -/
theorem holding_codex {session : SessionId}
    (same : holding src ⟨.codexDesktop, session⟩ = holding src' ⟨.codexDesktop, session⟩) :
    src.refreshSnapshot session = src'.refreshSnapshot session ∧
      src.historyPage session = src'.historyPage session ∧
      src.outputPage session = src'.outputPage session ∧
      src.sessionCwd session = src'.sessionCwd session ∧
      src.resolveForRead session = src'.resolveForRead session ∧
      (fun device => src.queueStatus device ⟨.codexDesktop, session⟩) =
        (fun device => src'.queueStatus device ⟨.codexDesktop, session⟩) ∧
      src.outputs.get? ⟨.codexDesktop, session⟩ = src'.outputs.get? ⟨.codexDesktop, session⟩ := by
  simp only [holding, if_true, Holding.mk.injEq, Option.some.injEq] at same
  obtain ⟨snapshot, history, output, cwd, files, -, queue, outputs, -⟩ := same
  exact ⟨snapshot, history, output, cwd, files, queue, outputs⟩

theorem buffered_congr {slot : SessionSlot}
    (same : src.outputs.get? slot = src'.outputs.get? slot) (item : ItemId)
    (offset limit : Nat) :
    src.buffered slot item offset limit = src'.buffered slot item offset limit := by
  unfold Sources.buffered
  rw [same]

theorem resolveHandle_congr {session : SessionId}
    (same : src.resolveForRead session = src'.resolveForRead session) (fileHandle : String) :
    src.resolveHandle session fileHandle = src'.resolveHandle session fileHandle := by
  unfold Sources.resolveHandle
  rw [same]

variable {device : String} {session : SessionId}

/-- The answer to a question about a Codex session. -/
theorem queryOf_congr (services : Services)
    (same : holding src ⟨.codexDesktop, session⟩ = holding src' ⟨.codexDesktop, session⟩)
    (query : Relay.Query) :
    (src.queryOf services ⟨device, .codexDesktop, session⟩ query).1 =
      (src'.queryOf services ⟨device, .codexDesktop, session⟩ query).1 := by
  obtain ⟨snapshot, history, output, cwd, files, queue, outputs⟩ := holding_codex same
  cases query with
  | runtimeSnapshot =>
    have queue : src.queueStatus device ⟨.codexDesktop, session⟩ =
        src'.queueStatus device ⟨.codexDesktop, session⟩ := congrFun queue device
    simp only [Sources.queryOf, Sources.queryRuntimeSnapshot, SessionSlot.of, snapshot, queue]
    cases src'.refreshSnapshot session <;> rfl
  | historyPage page => simp [Sources.queryOf, Sources.queryHistoryPage, history]
  | commandOutputPage page =>
    simp only [Sources.queryOf, Sources.queryCommandOutputPage, SessionSlot.of, output,
      buffered_congr outputs]
  | gitSummary => simp [Sources.queryOf, Sources.gitInputs, cwd]
  | gitFileDiff diff => simp [Sources.queryOf, Sources.gitInputs, cwd]
  | fileMetadata fileHandle =>
    simp [Sources.queryOf, Sources.queryFileMetadata, resolveHandle_congr files]

/-- Only the question for the runtime snapshot leaves something behind, in the cache of
the session's own slot. -/
theorem holding_queryOf (services : Services) (key : Bridge.SessionKey) (query : Relay.Query)
    {other : SessionSlot} (different : other ≠ .of key) :
    holding (src.queryOf services key query).2 other = holding src other := by
  cases query with
  | runtimeSnapshot =>
    simp only [Sources.queryOf, Sources.queryRuntimeSnapshot]
    split
    · rfl
    · simp [holding, Sources.noteSnapshot, FiniteMap.get?_insert, different]
  | historyPage _ | commandOutputPage _ | gitSummary | gitFileDiff _ | fileMetadata _ => rfl

theorem transfer_congr (token : String) {offer : Relay.TransferOffer}
    (named : offer.sessionKey.bind sessionKeyFromProto = some ⟨device, .codexDesktop, session⟩)
    (same : holding src ⟨.codexDesktop, session⟩ = holding src' ⟨.codexDesktop, session⟩) :
    (src.handleTransferOffer token offer).1 = (src'.handleTransferOffer token offer).1 := by
  obtain ⟨-, -, -, -, files, -, -⟩ := holding_codex same
  unfold Sources.handleTransferOffer
  cases offer.direction with
  | unspecified => rfl
  | download => simp [named, resolveHandle_congr files]
  | upload => simp [named]

/-- A finished upload belongs to the Codex session with this native id. -/
theorem holding_transfer (token : String) {offer : Relay.TransferOffer}
    (named : offer.sessionKey.bind sessionKeyFromProto = some ⟨device, .codexDesktop, session⟩)
    {other : SessionSlot} (different : other ≠ ⟨.codexDesktop, session⟩) :
    holding (src.handleTransferOffer token offer).2 other = holding src other := by
  unfold Sources.handleTransferOffer
  cases offer.direction with
  | unspecified => rfl
  | download => simp [named]
  | upload =>
    simp only [named]
    obtain ⟨kind, native⟩ := other
    cases kind with
    | zcodeDesktop => simp [holding]
    | codexDesktop =>
      have apart : native ≠ session := fun same => different (by rw [same])
      simp [holding, FiniteMap.get?_insert, apart]

/-- Whatever names a Codex session is answered from this session. -/
theorem answeredFrom_codex {message : SessionMessage}
    (named : message.sessionKey.bind sessionKeyFromProto =
      some ⟨device, .codexDesktop, session⟩) :
    AnsweredFrom ⟨.codexDesktop, session⟩ message := by
  intro services token src src'
  cases message with
  | query request =>
    have named : request.sessionKey.bind sessionKeyFromProto =
      some ⟨device, .codexDesktop, session⟩ := named
    constructor
    · intro same
      have results : (src.handleQuery services request).1 = (src'.handleQuery services request).1 := by
        unfold Sources.handleQuery
        cases request.query with
        | none => rfl
        | some query => simpa [named] using queryOf_congr services same query
      exact congrArg Sum.inl results
    · intro other different
      show holding (src.handleQuery services request).2 other = holding src other
      unfold Sources.handleQuery
      cases request.query with
      | none => rfl
      | some query =>
        simpa [named] using
          holding_queryOf services ⟨device, .codexDesktop, session⟩ query different
  | offer transfer =>
    constructor
    · intro same
      exact congrArg Sum.inr (transfer_congr token named same)
    · intro other different
      exact holding_transfer token named different

end Frame

/-! ## Every question -/

theorem isSlotOf_codex {slot : SessionSlot} {row : QueriedRow} (of : IsSlotOf slot row)
    (codex : row.agentKind = agentKindName codexDesktop) :
    slot = ⟨.codexDesktop, row.nativeSessionId⟩ := by
  obtain ⟨kind, native⟩ := slot
  obtain ⟨name, native'⟩ := of
  cases kind with
  | codexDesktop => exact congrArg (SessionSlot.mk .codexDesktop) native'
  | zcodeDesktop =>
    have names : agentKindName 2 = agentKindName codexDesktop := name.trans codex
    exact absurd names (by decide)

/-- For every request about a row of the database: the message that goes to the Bridge is
about the session and the item that were asked for, and is answered from this session
alone, exactly when the row is a Codex session and the item is a native one. -/
theorem queries_exact_iff (db : Relay.Database) (h : Relay.HubInner) (owner id : Uuid)
    (asked : Asked) (device : Uuid) (message : SessionMessage)
    (sent : Relay.handle db h owner id asked.http = .ok (device, message)) :
    ∃ row, db.getSession id = some row ∧ row.id = id ∧ device = row.deviceId ∧
      (Exact row asked message ↔ row.agentKind = agentKindName codexDesktop ∧
        ∀ item, asked.item = some item → item.synthetic = false) := by
  obtain ⟨row, stored, toDevice, made⟩ := Relay.handle_eq_ok sent
  refine ⟨row, stored, Relay.getSession_id stored, toDevice, ?_⟩
  rw [made]
  constructor
  · intro exact_
    exact (Relay.message_addresses_iff row asked).mp exact_.1
  · intro codexNative
    refine ⟨(Relay.message_addresses_iff row asked).mpr codexNative, fun slot of => ?_⟩
    have named : ((asked.http.message row).sessionKey.bind sessionKeyFromProto) =
        some ⟨row.deviceId.text, .codexDesktop, row.nativeSessionId⟩ := by
      rw [Relay.message_sessionKey]
      rfl
    rw [isSlotOf_codex of codexNative.1]
    exact answeredFrom_codex named

/-! ## Two agents with one native id -/

namespace TwoAgents

def owner : Uuid := .ofLast 'a'
def device : Uuid := .ofLast 'd'
def codexRow : Uuid := .ofLast '1'
def zcodeRow : Uuid := .ofLast '2'

def summary (kind : Int) : Relay.SessionSummary := ⟨some ⟨device.text, kind, "n", ""⟩, ""⟩

def stored (id : Uuid) (kind : Int) : Relay.SessionRow :=
  ⟨id, summary kind, .reported (summary kind)⟩

/-- A device on which a session of each agent has the native id `n`. -/
def database : Relay.Database where
  devices := FiniteMap.insert ∅ device ⟨owner, false⟩
  sessions := ((∅ : FiniteMap Relay.SessionRowKey Relay.SessionRow).insert
      (device, agentKindName 1, "n") (stored codexRow 1)).insert
    (device, agentKindName 2, "n") (stored zcodeRow 2)
  receipts := ∅

def hub : Relay.HubInner := Relay.HubInner.new.registerBridge device owner 1

/-- The message of a handler, when there is one. -/
def sent (id : Uuid) (asked : Asked) : Option (Uuid × SessionMessage) :=
  (Relay.handle database hub owner id asked.http).toOption

end TwoAgents

open TwoAgents in
/-- A native item of the Codex session. -/
theorem queries_exact_codex_item :
    ∃ row, database.getSession codexRow = some row ∧ row.id = codexRow ∧ device = row.deviceId ∧
      (Exact row (.output ⟨"i", false⟩ none none)
          (.query (Relay.sessionOutput ⟨codexRow, device, agentKindName 1, "n"⟩ "i" none none)) ↔
        row.agentKind = agentKindName codexDesktop ∧
          ∀ item, (Asked.output ⟨"i", false⟩ none none).item = some item →
            item.synthetic = false) :=
  queries_exact_iff database hub owner codexRow (.output ⟨"i", false⟩ none none) device _ (by rfl)

open TwoAgents in
/-- The ZCode session's runtime is asked for under the key of the Codex session, whose
snapshot it gets; and a synthetic item is asked for as a native one. -/
theorem zcode_question_reads_codex :
    sent zcodeRow .runtime =
        some (device, .query ⟨some ⟨device.text, 1, "n", zcodeRow.text⟩, some .runtimeSnapshot⟩) ∧
      (∀ row message, database.getSession zcodeRow = some row →
        sent zcodeRow .runtime = some (device, message) → ¬ Exact row .runtime message) ∧
      (∀ row message, database.getSession codexRow = some row →
        sent codexRow (.output ⟨"i", true⟩ none none) = some (device, message) →
        ¬ Exact row (.output ⟨"i", true⟩ none none) message) := by
  refine ⟨by decide +kernel, ?_, ?_⟩
  · intro row message stored made addressed
    have row_ : database.getSession zcodeRow = some ⟨zcodeRow, device, agentKindName 2, "n"⟩ := by
      decide +kernel
    have message_ : sent zcodeRow .runtime = some (device,
        HttpRequest.message ⟨zcodeRow, device, agentKindName 2, "n"⟩ .runtime) := by
      decide +kernel
    cases row_.symm.trans stored
    cases message_.symm.trans made
    have codex := ((Relay.message_addresses_iff _ .runtime).mp addressed.1).1
    exact absurd codex (by decide)
  · intro row message stored made addressed
    have row_ : database.getSession codexRow = some ⟨codexRow, device, agentKindName 1, "n"⟩ := by
      decide +kernel
    have message_ : sent codexRow (.output ⟨"i", true⟩ none none) = some (device,
        HttpRequest.message ⟨codexRow, device, agentKindName 1, "n"⟩ (.output "i" none none)) := by
      decide +kernel
    cases row_.symm.trans stored
    cases message_.symm.trans made
    have native :=
      ((Relay.message_addresses_iff _ (.output ⟨"i", true⟩ none none)).mp addressed.1).2 _ rfl
    cases native

end AgentConsole.System
