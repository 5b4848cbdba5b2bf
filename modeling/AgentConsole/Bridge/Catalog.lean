import AgentConsole.Lib.Paging
import AgentConsole.Bridge.Domain

/-! # Listing sessions

Desktop's own database knows every thread and when it was last updated.  The catalog reads
it page by page, newest first; the cursor of a page names the update time and the id of
its last thread.  The adapter appends the sessions it knows at runtime to each page that
does not contain them.

Of a thread only what decides about pages is kept.  SQLite orders NULL below every number
and compares nothing with it.  A time whose product with 1000 leaves 64 bits is kept exact
here. -/

namespace AgentConsole.Bridge

open AgentConsole.Lib

/-! ## The catalog -/

/-- A row of `threads`. -/
structure ThreadRow where
  id : SessionId
  /-- in seconds -/
  updatedAt : Option Int
  updatedAtMs : Option Int := none
  archived : Bool := false
  deriving DecidableEq, Repr

/-- An entry of a page; a time is its number of milliseconds. -/
structure CatalogThread where
  id : SessionId
  updatedAt : Option Int
  archived : Bool
  deriving DecidableEq, Repr

/-- The id is the table's primary key. -/
structure Catalog where
  rows : List ThreadRow
  unique : (rows.map (·.id)).Nodup
  sessionsListable : Bool := true
  hasUpdatedAtMs : Bool := true
  defaultPageSize : Nat := 50
  maxPageSize : Nat := 200
  defaultPositive : 0 < defaultPageSize := by decide
  maxPositive : 0 < maxPageSize := by decide

/-- The last millisecond that `chrono` can represent. -/
def maxMillis : Int := 8210266876799999

def msToDatetime (ms : Int) : Option Int :=
  if ms ≤ 0 then none else if ms ≤ maxMillis then some ms else none

/-- `i64::from_str` -/
def parseI64 : List Char → Option Int
  | '-' :: digits => (natural digits).bind fun n => if n ≤ 2 ^ 63 then some (-n) else none
  | '+' :: digits => (natural digits).bind fun n => if n < 2 ^ 63 then some n else none
  | digits => (natural digits).bind fun n => if n < 2 ^ 63 then some n else none
where
  natural (digits : List Char) : Option Nat :=
    if digits ≠ [] ∧ digits.all Char.isDigit then some (Nat.ofDigitChars 10 digits 0) else none

/-- The text before the first `:` and the text behind it. -/
def splitOnce (text : List Char) : Option (List Char × List Char) :=
  if ':' ∈ text then
    some (text.takeWhile (· ≠ ':'), (text.dropWhile (· ≠ ':')).tail)
  else none

def parseListCursor (cursor : String) : Option (Int × String) := do
  let (ms, id) ← splitOnce cursor.toList
  let ms ← parseI64 ms
  return (ms, .ofList id)

namespace Catalog

def clampPageSize (c : Catalog) (limit : Nat) : Nat :=
  if limit = 0 then c.defaultPageSize else min limit c.maxPageSize

/-- `order_expr` -/
def updatedMs (c : Catalog) (row : ThreadRow) : Option Int :=
  let seconds := row.updatedAt.map (· * 1000)
  if c.hasUpdatedAtMs then row.updatedAtMs.or seconds else seconds

/-- The keys the rows are ordered by, NULL at the bottom. -/
def sortKey (c : Catalog) (row : ThreadRow) : WithBot Int ×ₗ String :=
  toLex (c.updatedMs row, row.id)

/-- `ORDER BY updated_ms DESC, t.id DESC` -/
def ordered (c : Catalog) : List ThreadRow :=
  c.rows.insertionSort fun a b => c.sortKey b ≤ c.sortKey a

/-- The condition of a cursor in the query; a comparison with NULL is not true. -/
def selects (c : Catalog) (cursor : String) (row : ThreadRow) : Bool :=
  match parseListCursor cursor with
  | none => true
  | some (ms, id) =>
    match c.updatedMs row with
    | none => false
    | some updated => updated < ms || (updated = ms && row.id < id)

/-- The rows a listing is about. -/
def visible (c : Catalog) (includeArchived : Bool) : List ThreadRow :=
  if c.sessionsListable then c.ordered.filter fun row => includeArchived || !row.archived else []

def query (c : Catalog) (cursor : Option String) (includeArchived : Bool) (count : Nat) :
    List ThreadRow :=
  (selected c.selects (c.visible includeArchived) cursor).take count

def thread (c : Catalog) (row : ThreadRow) : CatalogThread where
  id := row.id
  updatedAt := (c.updatedMs row).bind msToDatetime
  archived := row.archived

def listCursor (thread : CatalogThread) : String :=
  let ms := thread.updatedAt.getD 0
  let id := thread.id
  s!"{ms}:{id}"

/-- `list_sessions` of a catalog that can be listed; of another one it is the error
`Unavailable`, which the adapter takes for an empty page. -/
def listSessions (c : Catalog) (cursor : Option String) (limit : Nat)
    (includeArchived : Bool) : Page CatalogThread String :=
  let limit := c.clampPageSize limit
  let rows := c.query cursor includeArchived (limit + 1)
  let threads := (rows.take limit).map c.thread
  { items := threads
    next := if limit < rows.length then threads.getLast?.map listCursor else none }

end Catalog

/-! ## The adapter's list -/

/-- Where the adapter's list comes from: the catalog, or seeds in its place, and the
sessions it knows at runtime, one for each native id. -/
structure CodexSessions where
  catalog : Option Catalog
  staticSessions : List CatalogThread := []
  known : List SessionId
  unique : known.Nodup

/-- The sessions known at runtime follow those of the page. -/
def addKnown : List SessionId → List SessionId → List SessionId
  | [], summaries => summaries
  | id :: known, summaries =>
    addKnown known (if id ∈ summaries then summaries else summaries ++ [id])

def CodexSessions.listSessions (s : CodexSessions) (limit : Nat) (includeArchived : Bool)
    (cursor : Option String) : Page SessionId String :=
  match s.catalog with
  | some c =>
    let page := c.listSessions cursor limit includeArchived
    { items := addKnown s.known (page.items.map (·.id)), next := page.next }
  | none =>
    let seeds := s.staticSessions.filter fun thread => includeArchived || !thread.archived
    { items := addKnown s.known (seeds.map (·.id)), next := none }

end AgentConsole.Bridge
