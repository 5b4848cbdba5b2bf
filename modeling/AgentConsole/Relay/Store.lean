import AgentConsole.Relay.Protocol

/-! # The Relay's database

The tables the connection tasks write: `devices`, `session_summaries` and
`request_receipts`.  Each function here is one SQL statement, so it is one
atomic step of the task that awaits it. -/

namespace AgentConsole.Relay

open AgentConsole.Lib

/-! ## Identifiers in messages -/

namespace Uuid

/-- A hexadecimal digit of either case, in lower case. -/
def hexDigit? (c : Char) : Option Char :=
  if c.isDigit ∨ ('a' ≤ c ∧ c ≤ 'f') ∨ ('A' ≤ c ∧ c ≤ 'F') then some c.toLower else none

/-- The groups of digits that a hyphenated uuid puts hyphens between. -/
def groups : List Nat := [8, 4, 4, 4, 12]

/-- Read hexadecimal groups; `hyphens` says whether the text has the hyphens. -/
def parseGroups (hyphens : Bool) : List Nat → List Char → Option (List Char)
  | [], rest => if rest.isEmpty then some [] else none
  | [size], text =>
    if text.length = size then text.mapM hexDigit? else none
  | size :: sizes, text => do
    let group ← (text.take size).mapM hexDigit?
    let rest ← if hyphens then
        match text.drop size with
        | '-' :: rest => some rest
        | _ => none
      else some (text.drop size)
    let later ← parseGroups hyphens sizes rest
    some (group ++ '-' :: later)

/-- `Uuid::parse_str`: the simple form, or the hyphenated form, also in braces
or as a URN. -/
def parse (s : String) : Option Uuid := do
  let text := s.toList
  let canonical ←
    match text with
    | '{' :: rest =>
      if rest.getLast? = some '}' then parseGroups true groups rest.dropLast else none
    | _ =>
      if "urn:uuid:".toList.isPrefixOf text then parseGroups true groups (text.drop 9)
      else if text.length = 32 then parseGroups false groups text
      else parseGroups true groups text
  if length : (String.ofList canonical).length = 36 then some ⟨String.ofList canonical, length⟩
  else none

end Uuid

/-- `agent_kind_name`. -/
def agentKindName (kind : Int) : String :=
  if kind = 0 then "AGENT_KIND_UNSPECIFIED"
  else if kind = 1 then "CODEX_DESKTOP"
  else if kind = 2 then "ZCODE_DESKTOP"
  else "AGENT_KIND_" ++ toString kind

/-! ## Tables -/

structure DeviceRow where
  ownerId : Uuid
  revoked : Bool
deriving DecidableEq

/-- The column `device_connection`: the value a summary reported, or the one the
Relay has set since. -/
inductive ConnectionColumn where
  | reported (summary : SessionSummary)
  | set (connection : DeviceConnection)
deriving DecidableEq

/-- The unique key of `session_summaries`: device, agent kind and native id. -/
abbrev SessionRowKey := Uuid × String × String

/-- A row of `session_summaries`; the columns copied from the last summary are
kept as the summary itself. -/
structure SessionRow where
  id : Uuid
  summary : SessionSummary
  deviceConnection : ConnectionColumn
deriving DecidableEq

structure ReceiptRow where
  ownerId : Uuid
  sessionId : Option Uuid
  operation : String
  payloadDigest : String
  status : ReceiptStatus
  errorCode : StableErrorCode
deriving DecidableEq

structure Database where
  devices : FiniteMap Uuid DeviceRow
  sessions : FiniteMap SessionRowKey SessionRow
  receipts : FiniteMap String ReceiptRow

namespace Database

def empty : Database := ⟨∅, ∅, ∅⟩

/-! ## Session summaries -/

/-- The device a batch is stored under: the one the first summary names, else
the sender.  (`summary_device_id` writes the sender as text and `parse_str`
reads it back.) -/
def batchDevice (device : Uuid) (batch : SessionSummaryBatch) : Uuid :=
  let named := ((batch.summaries.head?.bind (·.sessionKey)).map (·.deviceId)).filter
    fun id => !id.isEmpty
  (named.bind Uuid.parse).getD device

/-- The row a summary goes to; a summary without a key is skipped. -/
def sessionRowKey (device : Uuid) (summary : SessionSummary) : Option SessionRowKey :=
  summary.sessionKey.map fun key => (device, agentKindName key.agentKind, key.nativeSessionId)

/-- One `INSERT … ON CONFLICT (device_id, agent_kind, native_session_id) DO UPDATE`
of `upsert_summary_batch`.  The foreign key refuses an unknown device; the flag
says whether the statement succeeded. -/
def upsertSummary (device fresh : Uuid) (summary : SessionSummary) (db : Database) :
    Database × Bool :=
  match sessionRowKey device summary with
  | none => (db, true)
  | some key =>
    if db.devices.contains device then
      let id := ((db.sessions.get? key).map (·.id)).getD fresh
      ({ db with sessions := db.sessions.insert key ⟨id, summary, .reported summary⟩ }, true)
    else (db, false)

/-- `set_device_connection`. -/
def setDeviceConnection (device : Uuid) (connection : DeviceConnection) (db : Database) :
    Database :=
  { db with sessions := db.sessions.mapVal fun key row =>
    if key.1 = device then { row with deviceConnection := .set connection } else row }

/-- `find_session`, as far as its caller uses the row. -/
def findSession (device : Uuid) (agentKind nativeSessionId : String) (db : Database) :
    Option Uuid :=
  (db.sessions.get? (device, agentKind, nativeSessionId)).map (·.id)

/-- The owner has this device and it is not revoked. -/
def ownsDevice (owner device : Uuid) (db : Database) : Bool :=
  (db.devices.get? device).any fun row => row.ownerId == owner && !row.revoked

/-! ## Receipts -/

/-- `insert_receipt`: `ON CONFLICT (request_id) DO NOTHING`; the flag says
whether the row is new. -/
def insertReceipt (requestId : String) (row : ReceiptRow) (db : Database) : Database × Bool :=
  if db.receipts.contains requestId then (db, false)
  else ({ db with receipts := db.receipts.insert requestId row }, true)

/-- `update_receipt`: the statement has no condition but the request id. -/
def updateReceipt (requestId : String) (status : ReceiptStatus) (errorCode : StableErrorCode)
    (db : Database) : Database :=
  { db with receipts := db.receipts.modify requestId fun row => { row with status, errorCode } }

end Database

end AgentConsole.Relay
