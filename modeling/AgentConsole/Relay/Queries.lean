import AgentConsole.Relay.Service

/-! # Questions about a session

What the HTTP handlers ask a Bridge for: the state, the history, the outputs, the
working tree and the files of a session.  The handlers find the row of the session by its
id, and build the key that goes into the message from the columns of the row. -/

namespace AgentConsole.Relay

open AgentConsole.Lib

/-! ## Messages -/

structure HistoryPageQuery where
  cursor : String
  pageSize : Nat
deriving DecidableEq

structure CommandOutputPageQuery where
  itemId : Option ItemId
  cursor : String
  pageSize : Nat
deriving DecidableEq

structure GitFileDiffQuery where
  relativePath : String
  staged : Bool
deriving DecidableEq

/-- The `oneof query` of a `QueryRequest`. -/
inductive Query where
  | runtimeSnapshot
  | historyPage (query : HistoryPageQuery)
  | commandOutputPage (query : CommandOutputPageQuery)
  | gitSummary
  | gitFileDiff (query : GitFileDiffQuery)
  | fileMetadata (fileHandle : String)
deriving DecidableEq

structure QueryRequest where
  sessionKey : Option SessionKey
  query : Option Query
deriving DecidableEq

inductive TransferDirection where
  | unspecified | upload | download
deriving DecidableEq

/-- `TransferOffer`; the name, type, size, range and expiry of the file are in `rest`. -/
structure TransferOffer where
  transferId : String
  direction : TransferDirection
  sessionKey : Option SessionKey
  fileHandle : String
  rest : Blob
deriving DecidableEq

/-- A message of a handler to the Bridge of the session's device. -/
inductive SessionMessage where
  | query (request : QueryRequest)
  | offer (transfer : TransferOffer)
deriving DecidableEq

namespace SessionMessage

def sessionKey : SessionMessage → Option SessionKey
  | .query request => request.sessionKey
  | .offer transfer => transfer.sessionKey

/-- The item the message asks for. -/
def itemId : SessionMessage → Option ItemId
  | .query ⟨_, some (.commandOutputPage page)⟩ => page.itemId
  | _ => none

end SessionMessage

/-! ## Rows -/

/-- `store::SessionRow`, the columns that make the key. -/
structure QueriedRow where
  id : Uuid
  deviceId : Uuid
  agentKind : String
  nativeSessionId : String
deriving DecidableEq

namespace Database

/-- `store::get_session` -/
def getSession (id : Uuid) (db : Database) : Option QueriedRow :=
  (db.sessions.toList.find? fun (_, row) => row.id = id).map fun ((device, kind, native), row) =>
    ⟨row.id, device, kind, native⟩

/-- `owned_session` -/
def ownedSession (owner id : Uuid) (db : Database) : Except StableErrorCode QueriedRow :=
  match db.getSession id with
  | none => .error .sessionNotFound
  | some row => if db.ownsDevice owner row.deviceId then .ok row else .error .sessionNotFound

end Database

/-! ## Handlers -/

/-- `AgentKind::CodexDesktop as i32` -/
def codexDesktop : Int := 1

def querySessionKey (row : QueriedRow) : SessionKey where
  deviceId := row.deviceId.text
  agentKind := codexDesktop
  nativeSessionId := row.nativeSessionId
  relaySessionUuid := row.id.text

/-- A request over HTTP about the session that its path names. -/
inductive HttpRequest where
  | runtime
  | history (cursor : Option String) (pageSize : Option Nat)
  | output (itemId : String) (cursor : Option String) (pageSize : Option Nat)
  | git
  | gitDiff (path : String) (staged : Option Bool)
  | fileMetadata (handle : String)
  | download (transferId fileHandle : String) (rest : Blob)
  | upload (transferId : String) (rest : Blob)
deriving DecidableEq

/-- `limits::PAGE_MAX` -/
def pageMax : Nat := 200

def sessionRuntime (row : QueriedRow) : QueryRequest where
  sessionKey := querySessionKey row
  query := some .runtimeSnapshot

def sessionHistory (row : QueriedRow) (cursor : Option String) (pageSize : Option Nat) :
    QueryRequest where
  sessionKey := querySessionKey row
  query := some (.historyPage ⟨cursor.getD "", min (pageSize.getD 0) pageMax⟩)

def sessionOutput (row : QueriedRow) (itemId : String) (cursor : Option String)
    (pageSize : Option Nat) : QueryRequest where
  sessionKey := querySessionKey row
  query := some (.commandOutputPage ⟨some ⟨itemId, false⟩, cursor.getD "", pageSize.getD 0⟩)

/-- `query_session`: the handlers of the working tree and of the files. -/
def querySession (row : QueriedRow) (query : Query) : QueryRequest where
  sessionKey := querySessionKey row
  query := some query

def sessionGit (row : QueriedRow) : QueryRequest := querySession row .gitSummary

def sessionGitDiff (row : QueriedRow) (path : String) (staged : Option Bool) : QueryRequest :=
  querySession row (.gitFileDiff ⟨path, staged.getD false⟩)

def sessionFileMetadata (row : QueriedRow) (handle : String) : QueryRequest :=
  querySession row (.fileMetadata handle)

/-- `send_offer`; the key is written out there once more. -/
def sendOffer (row : QueriedRow) (transferId : String) (direction : TransferDirection)
    (fileHandle : String) (rest : Blob) : TransferOffer where
  transferId
  direction
  sessionKey := some
    { deviceId := row.deviceId.text
      agentKind := codexDesktop
      nativeSessionId := row.nativeSessionId
      relaySessionUuid := row.id.text }
  fileHandle := if direction = .download then fileHandle else ""
  rest

/-- The message the handler of a request makes of the row. -/
def HttpRequest.message (row : QueriedRow) : HttpRequest → SessionMessage
  | .runtime => .query (sessionRuntime row)
  | .history cursor pageSize => .query (sessionHistory row cursor pageSize)
  | .output itemId cursor pageSize => .query (sessionOutput row itemId cursor pageSize)
  | .git => .query (sessionGit row)
  | .gitDiff path staged => .query (sessionGitDiff row path staged)
  | .fileMetadata handle => .query (sessionFileMetadata row handle)
  | .download transferId fileHandle rest =>
    .offer (sendOffer row transferId .download fileHandle rest)
  | .upload transferId rest => .offer (sendOffer row transferId .upload "" rest)

/-- A handler as a whole: the device it writes to and the message for it. -/
def handle (db : Database) (h : HubInner) (owner id : Uuid) (request : HttpRequest) :
    Except StableErrorCode (Uuid × SessionMessage) :=
  match db.ownedSession owner id with
  | .error code => .error code
  | .ok row =>
    if h.isOnline row.deviceId then .ok (row.deviceId, request.message row)
    else .error .deviceOffline

/-! ## What is asked for -/

/-- What a client that has the session and its items in front of it asks for. -/
inductive Asked where
  | runtime
  | history (cursor : Option String) (pageSize : Option Nat)
  | output (item : ItemId) (cursor : Option String) (pageSize : Option Nat)
  | git
  | gitDiff (path : String) (staged : Option Bool)
  | fileMetadata (handle : String)
  | download (transferId fileHandle : String) (rest : Blob)
  | upload (transferId : String) (rest : Blob)
deriving DecidableEq

namespace Asked

/-- The URL and the body of the request: `itemId` is the id alone. -/
def http : Asked → HttpRequest
  | .runtime => .runtime
  | .history cursor pageSize => .history cursor pageSize
  | .output item cursor pageSize => .output item.id cursor pageSize
  | .git => .git
  | .gitDiff path staged => .gitDiff path staged
  | .fileMetadata fileHandle => .fileMetadata fileHandle
  | .download transferId fileHandle rest => .download transferId fileHandle rest
  | .upload transferId rest => .upload transferId rest

def item : Asked → Option ItemId
  | .output item _ _ => some item
  | _ => none

end Asked

/-- The key names the session of the row. -/
def SessionKey.Denotes (key : SessionKey) (row : QueriedRow) : Prop :=
  key.deviceId = row.deviceId.text ∧ agentKindName key.agentKind = row.agentKind ∧
    key.nativeSessionId = row.nativeSessionId ∧ key.relaySessionUuid = row.id.text

/-- The message is about the session of the row and about this item. -/
def SessionMessage.Addresses (message : SessionMessage) (row : QueriedRow)
    (item : Option ItemId) : Prop :=
  (∃ key, message.sessionKey = some key ∧ key.Denotes row) ∧ message.itemId = item

theorem message_sessionKey (row : QueriedRow) (request : HttpRequest) :
    (request.message row).sessionKey = some (querySessionKey row) := by
  cases request <;> rfl

theorem message_itemId (row : QueriedRow) (asked : Asked) :
    (asked.http.message row).itemId = asked.item.map fun item => ⟨item.id, false⟩ := by
  cases asked <;> rfl

theorem querySessionKey_denotes_iff (row : QueriedRow) :
    (querySessionKey row).Denotes row ↔ row.agentKind = agentKindName codexDesktop := by
  constructor
  · intro denotes
    exact denotes.2.1.symm
  · intro codex
    exact ⟨rfl, codex.symm, rfl, rfl⟩

/-- The rebuilt key and item id are those of the row and the item as long as the row is a
Codex session and the item is a native one. -/
theorem message_addresses_iff (row : QueriedRow) (asked : Asked) :
    (asked.http.message row).Addresses row asked.item ↔
      row.agentKind = agentKindName codexDesktop ∧
        ∀ item, asked.item = some item → item.synthetic = false := by
  have key : (∃ key, (asked.http.message row).sessionKey = some key ∧ key.Denotes row) ↔
      row.agentKind = agentKindName codexDesktop := by
    simp [message_sessionKey, querySessionKey_denotes_iff]
  have item : (asked.http.message row).itemId = asked.item ↔
      ∀ item, asked.item = some item → item.synthetic = false := by
    rw [message_itemId]
    cases asked.item with
    | none => simp
    | some item =>
      obtain ⟨text, synthetic⟩ := item
      constructor
      · rintro same _ ⟨⟩
        exact (ItemId.mk.inj (Option.some.inj same)).2.symm
      · intro native
        have flag : synthetic = false := native _ rfl
        rw [flag]
        rfl
  exact and_congr key item

/-! ## Rows of the database -/

theorem getSession_id {db : Database} {id : Uuid} {row : QueriedRow}
    (found : db.getSession id = some row) : row.id = id := by
  unfold Database.getSession at found
  obtain ⟨⟨⟨device, kind, native⟩, stored⟩, first, rfl⟩ := Option.map_eq_some_iff.mp found
  simpa using List.find?_some first

/-- A message that goes out is about a row of the database, and goes to its device. -/
theorem handle_eq_ok {db : Database} {h : HubInner} {owner id : Uuid} {request : HttpRequest}
    {device : Uuid} {message : SessionMessage}
    (sent : handle db h owner id request = .ok (device, message)) :
    ∃ row, db.getSession id = some row ∧ device = row.deviceId ∧
      message = request.message row := by
  unfold handle Database.ownedSession at sent
  cases stored : db.getSession id with
  | none => simp [stored] at sent
  | some row =>
    simp only [stored] at sent
    split at sent
    · cases sent
    · next owned =>
      split at owned
      · cases owned
        split at sent
        · cases sent
          exact ⟨row, rfl, rfl, rfl⟩
        · cases sent
      · cases owned

end AgentConsole.Relay
