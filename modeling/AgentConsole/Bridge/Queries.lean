import AgentConsole.Bridge.Document
import AgentConsole.Bridge.Gateway
import AgentConsole.Relay.Queries

/-! # Answers to questions about a session

`handle_query` reads the key of the request, and asks the source that has the session:
the Codex adapter and the catalog, which know it by its native id, the hook path of
ZCode, the queue, and two tables of the runtime whose key is a slot.  Files belong to a
native id too.

What a source answers is a parameter of the model, for each native id by itself, and so
is the git service. -/

namespace AgentConsole.Bridge

open AgentConsole.Lib
open AgentConsole.Relay (Blob QueryRequest Query CommandOutputPageQuery TransferOffer
  TransferDirection SessionMessage)

/-! ## Keys -/

namespace AgentKind

def protoValue : AgentKind → Int
  | codexDesktop => 1
  | zcodeDesktop => 2

/-- `from_proto_value`: an unknown kind does not become Codex. -/
def fromProtoValue (value : Int) : Option AgentKind :=
  if value = 1 then some codexDesktop else if value = 2 then some zcodeDesktop else none

end AgentKind

/-- `dm::SessionKey`, without the uuid of the Relay. -/
structure SessionKey where
  deviceId : String
  agentKind : AgentKind
  nativeSessionId : SessionId
  deriving DecidableEq, Repr

def sessionKeyFromProto (key : Relay.SessionKey) : Option SessionKey :=
  (AgentKind.fromProtoValue key.agentKind).map fun kind =>
    ⟨key.deviceId, kind, key.nativeSessionId⟩

/-- A session of the device: two agents can have the same native id. -/
structure SessionSlot where
  agentKind : AgentKind
  nativeSessionId : SessionId
  deriving DecidableEq, Repr

def SessionSlot.of (key : SessionKey) : SessionSlot := ⟨key.agentKind, key.nativeSessionId⟩

/-! ## Sources -/

/-- `dm::RuntimeSnapshot`, as far as the runtime looks into it. -/
structure SnapshotData where
  runtimeRevision : Nat
  currentTurn : Option ActiveTurnPhase
  pendingQuestions : List Blob
  pendingApprovals : List Blob
  queue : Blob
  rest : Blob
  deriving DecidableEq, Repr

structure OutputBuffer where
  data : List UInt8
  isFinal : Bool
  deriving DecidableEq, Repr

structure SessionCache where
  turnActive : Bool
  attentionCount : Nat
  runtimeRevision : Nat
  hasSnapshot : Bool
  deriving DecidableEq, Repr

inductive GrantAction where
  | preview | download | upload
  deriving DecidableEq, Repr

/-- The chunk, the length of the whole output and whether the output is final. -/
abbrev OutputChunk := List UInt8 × Nat × Bool

/-- What the Bridge answers from. -/
structure Sources where
  refreshSnapshot : SessionId → Except BridgeError SnapshotData
  historyPage : SessionId → Option String → Nat → Except BridgeError Blob
  outputPage : SessionId → Relay.ItemId → Nat → Nat → Option OutputChunk
  sessionCwd : SessionId → Option String
  /-- the hook path of ZCode, when it is attached -/
  zcodeHooks : Option (SessionId → SnapshotData)
  queueStatus : String → SessionSlot → Except BridgeError Blob
  resolveForRead : SessionId → String → GrantAction → Except BridgeError Blob
  /-- the handles of finished uploads -/
  uploadHandles : FiniteMap SessionId (List String)
  outputs : FiniteMap SessionSlot (FiniteMap String OutputBuffer)
  sessions : FiniteMap SessionSlot SessionCache

/-- What does not belong to a session: the git service, and what is read of a file. -/
structure Services where
  readSummary : String → Except BridgeError Blob
  readFileDiff : String → String → Bool → Except BridgeError Blob
  fileMetadata : Blob → Except BridgeError Blob

/-! ## Queries -/

/-- `OUTPUT_PAGE_MAX` -/
def outputPageMax : Nat := 256 * 1024

structure CommandOutputPage where
  itemId : Relay.ItemId
  nextCursor : String
  bytes : List UInt8
  isFinal : Bool
  deriving DecidableEq

inductive QueryResult where
  | runtimeSnapshot (snapshot : SnapshotData)
  | historyPage (page : Blob)
  | commandOutputPage (page : CommandOutputPage)
  | gitSummary (data : Blob)
  | gitFileDiff (data : Blob)
  | fileMetadata (data : Blob)
  deriving DecidableEq

def nonEmpty (text : String) : Option String := if text = "" then none else some text

namespace Sources

def noteSnapshot (slot : SessionSlot) (snapshot : SnapshotData) (src : Sources) : Sources :=
  let cache : SessionCache :=
    { turnActive := snapshot.currentTurn.any (· ≠ .idle)
      attentionCount := snapshot.pendingQuestions.length + snapshot.pendingApprovals.length
      runtimeRevision := snapshot.runtimeRevision
      hasSnapshot := true }
  { src with sessions := src.sessions.insert slot cache }

def queryRuntimeSnapshot (key : SessionKey) (src : Sources) :
    Except BridgeError QueryResult × Sources :=
  let read : Except BridgeError SnapshotData :=
    match key.agentKind with
    | .codexDesktop => src.refreshSnapshot key.nativeSessionId
    | .zcodeDesktop =>
      match src.zcodeHooks with
      | none => .error ⟨.sessionNotFound, "zcode hook path is not attached"⟩
      | some runtimeSnapshot => .ok (runtimeSnapshot key.nativeSessionId)
  match read with
  | .error err => (.error err, src)
  | .ok snapshot =>
    let snapshot :=
      match src.queueStatus key.deviceId (.of key) with
      | .ok queue => { snapshot with queue }
      | .error _ => snapshot
    (.ok (.runtimeSnapshot snapshot), src.noteSnapshot (.of key) snapshot)

def queryHistoryPage (key : SessionKey) (cursor : String) (pageSize : Nat) (src : Sources) :
    Except BridgeError QueryResult :=
  if key.agentKind ≠ .codexDesktop then
    .error ⟨.capabilityUnsupported, "history is not available for zcode hook sessions"⟩
  else
    let pageSize := if pageSize = 0 then 50 else min pageSize 200
    (src.historyPage key.nativeSessionId (nonEmpty cursor) pageSize).map .historyPage

/-- The buffer of the runtime goes by the text of the item id. -/
def buffered (slot : SessionSlot) (itemId : Relay.ItemId) (offset limit : Nat) (src : Sources) :
    Option OutputChunk := do
  let items ← src.outputs.get? slot
  let buffer ← items.get? itemId.id
  let start := min offset buffer.data.length
  return ((buffer.data.drop start).take limit, buffer.data.length, buffer.isFinal)

def queryCommandOutputPage (key : SessionKey) (page : CommandOutputPageQuery) (src : Sources) :
    Except BridgeError QueryResult :=
  if key.agentKind ≠ .codexDesktop then
    .error ⟨.capabilityUnsupported, "command output is not available for zcode hook sessions"⟩
  else
    match page.itemId with
    | none => .error ⟨.internalError, "missing item id"⟩
    | some item =>
      let offset := (Json.parseIndex? page.cursor).getD 0
      let limit := if page.pageSize = 0 then outputPageMax else min page.pageSize outputPageMax
      match (src.buffered (.of key) item offset limit).or
          (src.outputPage key.nativeSessionId item offset limit) with
      | none =>
        .error ⟨.resyncRequired, "output unavailable in current authoritative snapshot"⟩
      | some (chunk, totalLen, outputFinal) =>
        let stop := min offset totalLen + chunk.length
        .ok (.commandOutputPage
          { itemId := item
            nextCursor := if stop < totalLen then toString stop else ""
            bytes := chunk
            isFinal := outputFinal && decide (totalLen ≤ stop) })

/-- `git_inputs`, as far as it depends on the session: its working directory. -/
def gitInputs (key : SessionKey) (src : Sources) : Except BridgeError String :=
  if key.agentKind ≠ .codexDesktop then
    .error ⟨.sessionNotFound, "git data is not available for this agent kind"⟩
  else
    match src.sessionCwd key.nativeSessionId with
    | none => .error ⟨.sessionNotFound, "session cwd unknown (no runtime snapshot)"⟩
    | some cwd => .ok cwd

/-- A handle is good for a preview or else for a download. -/
def resolveHandle (session : SessionId) (fileHandle : String) (src : Sources) :
    Except BridgeError (Blob × GrantAction) :=
  match src.resolveForRead session fileHandle .preview with
  | .ok file => .ok (file, .preview)
  | .error _ => (src.resolveForRead session fileHandle .download).map (·, .download)

def queryFileMetadata (services : Services) (key : SessionKey) (fileHandle : String)
    (src : Sources) : Except BridgeError QueryResult :=
  if key.agentKind ≠ .codexDesktop then
    .error ⟨.fileOutsideScope, "file transfers are not available for this agent kind"⟩
  else do
    let (file, _) ← src.resolveHandle key.nativeSessionId fileHandle
    let data ← services.fileMetadata file
    return .fileMetadata data

/-- The handlers behind `handle_query`, for a key that could be read. -/
def queryOf (services : Services) (key : SessionKey) (query : Query) (src : Sources) :
    Except BridgeError QueryResult × Sources :=
  match query with
  | .runtimeSnapshot => src.queryRuntimeSnapshot key
  | .historyPage page => (src.queryHistoryPage key page.cursor page.pageSize, src)
  | .commandOutputPage page => (src.queryCommandOutputPage key page, src)
  | .gitSummary =>
    ((src.gitInputs key).bind fun cwd => (services.readSummary cwd).map .gitSummary, src)
  | .gitFileDiff diff =>
    ((src.gitInputs key).bind fun cwd =>
      (services.readFileDiff cwd diff.relativePath diff.staged).map .gitFileDiff, src)
  | .fileMetadata fileHandle => (src.queryFileMetadata services key fileHandle, src)

/-- `handle_query`; every handler starts with `require_key`. -/
def handleQuery (services : Services) (request : QueryRequest) (src : Sources) :
    Except BridgeError QueryResult × Sources :=
  match request.query with
  | none => (.error ⟨.internalError, "query without target"⟩, src)
  | some query =>
    match request.sessionKey.bind sessionKeyFromProto with
    | none => (.error ⟨.internalError, "query requires session key"⟩, src)
    | some key => src.queryOf services key query

/-! ## Transfers -/

/-- What comes of an offer: the file that is read, or the handle of the new file. -/
inductive TransferAnswer where
  | file (verified : Blob) (action : GrantAction)
  | uploaded (token : String)
  deriving DecidableEq

/-- `handle_transfer_offer`, as far as it depends on the session.  `token` is the handle
that a finished upload is given. -/
def handleTransferOffer (token : String) (offer : TransferOffer) (src : Sources) :
    Except BridgeError TransferAnswer × Sources :=
  match offer.direction with
  | .unspecified => (.error ⟨.internalError, ""⟩, src)
  | .download =>
    match offer.sessionKey.bind sessionKeyFromProto with
    | none => (.error ⟨.fileHandleInvalid, ""⟩, src)
    | some key =>
      ((src.resolveHandle key.nativeSessionId offer.fileHandle).map fun (file, action) =>
        .file file action, src)
  | .upload =>
    match offer.sessionKey.bind sessionKeyFromProto with
    | none => (.error ⟨.fileHandleInvalid, ""⟩, src)
    | some key =>
      let tokens := (src.uploadHandles.get? key.nativeSessionId).getD []
      (.ok (.uploaded token),
        { src with
          uploadHandles := src.uploadHandles.insert key.nativeSessionId (tokens ++ [token]) })

/-- The answer to a message of the Relay. -/
def answer (services : Services) (token : String) (message : SessionMessage) (src : Sources) :
    (Except BridgeError QueryResult ⊕ Except BridgeError TransferAnswer) × Sources :=
  match message with
  | .query request =>
    let (result, src) := src.handleQuery services request
    (.inl result, src)
  | .offer offer =>
    let (result, src) := src.handleTransferOffer token offer
    (.inr result, src)

end Sources

end AgentConsole.Bridge
