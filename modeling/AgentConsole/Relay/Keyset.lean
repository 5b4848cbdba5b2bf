import AgentConsole.Lib.Base64
import AgentConsole.Lib.Descending
import AgentConsole.Lib.FiniteMap
import AgentConsole.Lib.Utf8Decode
import AgentConsole.Bridge.CatalogWalk

/-! # The pages of the session list and of the audit log

Both lists are ordered by a time and an id, the latest first.  A page is asked for with one row
more than it shows; if that row comes, the cursor of the next page has the time and the id of
the last row shown, as text in Base64.

Times and uuids, and how they are written, are parameters: `chrono`, the `uuid` crate and the
types of Postgres.  Of a row only what decides about pages is kept. -/

namespace AgentConsole.Relay

open AgentConsole.Lib
open AgentConsole.Bridge (parseI64 parseI64_toString isDigit_of_mem_toDigits)

/-! ## Texts -/

/-- `str::rsplit_once`: the text before the last separator and the text behind it. -/
def rsplitOnce (separator : Char) (text : List Char) : Option (List Char × List Char) :=
  if separator ∈ text then
    some ((text.reverse.dropWhile (· ≠ separator)).tail.reverse,
      (text.reverse.takeWhile (· ≠ separator)).reverse)
  else none

/-- `String::from_utf8` -/
def stringFromUtf8 (bytes : List UInt8) : Option (List Char) :=
  if Utf8.isValid bytes then some (Utf8.lossy bytes) else none

/-- How times and ids are written and read. -/
structure CursorText (Time Id : Type) where
  /-- `to_rfc3339` -/
  rfc3339 : Time → List Char
  /-- `parse_from_rfc3339(..)?.with_timezone(&Utc)` -/
  parseRfc3339 : List Char → Option Time
  uuid : Id → List Char
  parseUuid : List Char → Option Id

/-- Both are read as they were written, and a uuid is written with hex digits and hyphens. -/
structure CursorText.RoundTrips {Time Id : Type} (text : CursorText Time Id) : Prop where
  time : ∀ t, text.parseRfc3339 (text.rfc3339 t) = some t
  id : ∀ i, text.parseUuid (text.uuid i) = some i
  plain : ∀ i, ':' ∉ text.uuid i

theorem rsplitOnce_append {separator : Char} {front back : List Char} (free : separator ∉ back) :
    rsplitOnce separator (front ++ separator :: back) = some (front, back) := by
  have reversed : (front ++ separator :: back).reverse = back.reverse ++ separator :: front.reverse := by
    simp
  have other : ∀ c ∈ back.reverse, c ≠ separator := by
    intro c member same
    exact free (same ▸ List.mem_reverse.mp member)
  have before : (back.reverse ++ separator :: front.reverse).takeWhile (· ≠ separator) =
      back.reverse := by
    rw [List.takeWhile_append_of_pos (by simpa using other)]
    simp
  have behind : (back.reverse ++ separator :: front.reverse).dropWhile (· ≠ separator) =
      separator :: front.reverse := by
    rw [List.dropWhile_append_of_pos (by simpa using other)]
    simp
  unfold rsplitOnce
  rw [if_pos (by simp), reversed, before, behind]
  simp

theorem stringFromUtf8_encode (text : List Char) : stringFromUtf8 (Utf8.encode text) = some text := by
  unfold stringFromUtf8
  rw [if_pos (Utf8.isValid_iff.mpr ⟨text, rfl⟩), Utf8.lossy_encode]

/-! ## Pages -/

/-- `limit.unwrap_or(PAGE_DEFAULT).clamp(1, PAGE_MAX)` -/
def clampLimit (limit : Option Int) : Nat := (max 1 (min (limit.getD 50) 200)).toNat

/-- `(a, i) < (b, j)` in Postgres. -/
def rowLt {Time Id : Type} [LinearOrder Time] [LinearOrder Id] (row bound : Time × Id) : Bool :=
  row.1 < bound.1 || (row.1 = bound.1 && row.2 < bound.2)

/-- The rows that were asked for, without the one that shows that there are more. -/
def popPage {α γ : Type} (limit : Nat) (encode : α → γ) (rows : List α) : Page α γ :=
  if limit < rows.length then ⟨rows.dropLast, rows.dropLast.getLast?.map encode⟩ else ⟨rows, none⟩

inductive ListError where
  | cursorInvalid
deriving DecidableEq

section
variable {Time Id : Type} [LinearOrder Time] [LinearOrder Id] {α : Type}

/-- `… WHERE condition AND (time, id) < before ORDER BY time DESC, id DESC LIMIT limit + 1` -/
def keysetQuery (key : α → Time × Id) (condition : α → Bool) (table : List α) (limit : Nat)
    (before : Option (Time × Id)) : List α :=
  let rows := table.filter fun row => condition row && before.all (rowLt (key row))
  let ordered := rows.insertionSort fun a b => toLex (key b) ≤ toLex (key a)
  ordered.take (limit + 1)

/-- A handler that reads its cursor, queries a page and answers it. -/
def listPage (decode : List Char → Option (Time × Id)) (encode : α → List Char)
    (query : Nat → Option (Time × Id) → List α) (limit : Option Int) (cursor : Option (List Char)) :
    Except ListError (Page α (List Char)) :=
  let before := cursor.bind decode
  if cursor.isSome && before.isNone then .error .cursorInvalid
  else .ok (popPage (clampLimit limit) encode (query (clampLimit limit) before))

end

/-! ## The session list -/

section
variable {Time Id Device : Type} (text : CursorText Time Id)

structure StoredSession (Time Id Device : Type) where
  id : Id
  deviceId : Device
  lastUpdatedAt : Time
  archived : Bool

structure StoredDevice (Id : Type) where
  ownerId : Id
  revoked : Bool

def encodeSessionCursor (row : StoredSession Time Id Device) : List Char :=
  Base64.encode (Utf8.encode
    ("v1:".toList ++ text.rfc3339 row.lastUpdatedAt ++ ':' :: text.uuid row.id))

def decodeSessionCursor (cursor : List Char) : Option (Time × Id) := do
  let raw ← Base64.decode cursor
  let raw ← stringFromUtf8 raw
  let rest ← if "v1:".toList <+: raw then some (raw.drop 3) else none
  let (ts, id) ← rsplitOnce ':' rest
  let time ← text.parseRfc3339 ts
  let id ← text.parseUuid id
  return (time, id)

/-- The tables `session_summaries` and `devices`. -/
structure SessionTables (Time Id Device : Type) [DecidableEq Device] where
  sessions : List (StoredSession Time Id Device)
  unique : (sessions.map (·.id)).Nodup
  devices : FiniteMap Device (StoredDevice Id)

variable [LinearOrder Time] [LinearOrder Id] [DecidableEq Device]

/-- The device of the session is the owner's and not revoked, and the filter is met. -/
def SessionTables.listed (db : SessionTables Time Id Device) (owner : Id) (archived : Option Bool)
    (row : StoredSession Time Id Device) : Bool :=
  (db.devices.get? row.deviceId).any (fun device => device.ownerId = owner && !device.revoked) &&
    archived.all (row.archived == ·)

/-- `store::list_sessions` -/
def SessionTables.query (db : SessionTables Time Id Device) (owner : Id) (archived : Option Bool) :
    Nat → Option (Time × Id) → List (StoredSession Time Id Device) :=
  keysetQuery (fun row => (row.lastUpdatedAt, row.id)) (db.listed owner archived) db.sessions

/-- The handler `list_sessions` of an owner who is signed in. -/
def listSessions (db : SessionTables Time Id Device) (owner : Id) (limit : Option Int)
    (archived : Option Bool) : Option (List Char) →
    Except ListError (Page (StoredSession Time Id Device) (List Char)) :=
  listPage (decodeSessionCursor text) (encodeSessionCursor text) (db.query owner archived) limit

end

/-! ## The audit log -/

section
variable {Time Id : Type} (text : CursorText Time Id)

structure AuditEvent (Time Id : Type) where
  id : Int
  ownerId : Id
  createdAt : Time

/-- The table `audit_events`, with ids of 64 bits. -/
structure AuditTable (Time Id : Type) where
  events : List (AuditEvent Time Id)
  unique : (events.map (·.id)).Nodup
  ids : ∀ event ∈ events, -2 ^ 63 ≤ event.id ∧ event.id < 2 ^ 63

def encodeAuditCursor (createdAt : Time) (id : Int) : List Char :=
  Base64.encode (Utf8.encode (text.rfc3339 createdAt ++ '|' :: (toString id).toList))

def decodeAuditCursor (cursor : List Char) : Option (Time × Int) := do
  let raw ← Base64.decode cursor
  let raw ← stringFromUtf8 raw
  let (ts, id) ← rsplitOnce '|' raw
  let createdAt ← text.parseRfc3339 ts
  let id ← parseI64 id
  return (createdAt, id)

variable [LinearOrder Time] [DecidableEq Id]

def AuditTable.query (db : AuditTable Time Id) (owner : Id) :
    Nat → Option (Time × Int) → List (AuditEvent Time Id) :=
  keysetQuery (fun event => (event.createdAt, event.id)) (fun event => event.ownerId = owner) db.events

/-- The handler `list_audit` of an owner who is signed in. -/
def listAudit (db : AuditTable Time Id) (owner : Id) (limit : Option Int) :
    Option (List Char) → Except ListError (Page (AuditEvent Time Id) (List Char)) :=
  listPage (decodeAuditCursor text) (fun event => encodeAuditCursor text event.createdAt event.id)
    (db.query owner) limit

end

/-! ## Cursors are read as they were written -/

variable {Time Id Device : Type} {text : CursorText Time Id}

theorem decode_encodeSessionCursor (lawful : text.RoundTrips) (row : StoredSession Time Id Device) :
    decodeSessionCursor text (encodeSessionCursor text row) = some (row.lastUpdatedAt, row.id) := by
  have version : "v1:".toList <+:
      "v1:".toList ++ text.rfc3339 row.lastUpdatedAt ++ ':' :: text.uuid row.id := by
    rw [List.append_assoc]
    exact List.prefix_append _ _
  have rest : ("v1:".toList ++ text.rfc3339 row.lastUpdatedAt ++ ':' :: text.uuid row.id).drop 3 =
      text.rfc3339 row.lastUpdatedAt ++ ':' :: text.uuid row.id := by
    rw [List.append_assoc]
    exact List.drop_left' (by decide)
  simp only [decodeSessionCursor, encodeSessionCursor, Base64.decode_encode, stringFromUtf8_encode,
    bind, Option.bind_some, if_pos version, rest, rsplitOnce_append (lawful.plain row.id),
    lawful.time, lawful.id, pure]

theorem decode_encodeAuditCursor (lawful : text.RoundTrips) (createdAt : Time) {id : Int}
    (least : -2 ^ 63 ≤ id) (greatest : id < 2 ^ 63) :
    decodeAuditCursor text (encodeAuditCursor text createdAt id) = some (createdAt, id) := by
  have free : '|' ∉ (toString id).toList := by
    cases id with
    | ofNat n =>
      intro member
      have digit := isDigit_of_mem_toDigits (n := n) (c := '|') (by
        simpa [toString, Int.repr] using member)
      simp at digit
    | negSucc n =>
      intro member
      have digit := isDigit_of_mem_toDigits (n := n + 1) (c := '|') (by
        simpa [toString, Int.repr] using member)
      simp at digit
  simp only [decodeAuditCursor, encodeAuditCursor, Base64.decode_encode, stringFromUtf8_encode,
    bind, Option.bind_some, rsplitOnce_append free, lawful.time, parseI64_toString least greatest,
    pure]

/-! ## Both lists are pagers -/

theorem clampLimit_pos (limit : Option Int) : 0 < clampLimit limit := by
  unfold clampLimit
  omega

theorem popPage_take {α γ : Type} (limit : Nat) (encode : α → γ) (rows : Option γ → List α)
    (c : Option γ) : popPage limit encode ((rows c).take (limit + 1)) = paginate limit encode rows c := by
  unfold popPage paginate
  rw [List.length_take]
  by_cases more : limit < (rows c).length
  · have shown : ((rows c).take (limit + 1)).dropLast = (rows c).take limit := by
      rw [List.dropLast_eq_take, List.length_take, List.take_take]
      congr 1
      omega
    rw [if_pos (by omega), if_pos more, shown]
  · have all : (rows c).take (limit + 1) = (rows c).take limit := by
      rw [List.take_of_length_le (by omega), List.take_of_length_le (by omega)]
    rw [if_neg (by omega), if_neg more, all]

section
variable {Key : Type} [LinearOrder Time] [LinearOrder Key] {α : Type}

theorem rowLt_eq (row bound : Time × Key) : rowLt row bound = decide (toLex row < toLex bound) := by
  rw [Bool.eq_iff_iff, decide_eq_true_eq, Prod.Lex.toLex_lt_toLex]
  simp [rowLt]

/-- The rows below a bound in descending order. -/
def rowsBelow (key : α → Time × Key) (all : List α) (bound : Option (Time × Key)) : List α :=
  (all.filter fun x => bound.all (rowLt (key x))).insertionSort fun a b =>
    toLex (key b) ≤ toLex (key a)

theorem rowsBelow_perm (key : α → Time × Key) (all : List α) (bound : Option (Time × Key)) :
    (rowsBelow key all bound).Perm (all.filter fun x => bound.all (rowLt (key x))) :=
  List.perm_insertionSort _ _

theorem rowsBelow_sorted (key : α → Time × Key) (all : List α) (bound : Option (Time × Key)) :
    (rowsBelow key all bound).Pairwise fun a b => toLex (key b) ≤ toLex (key a) := by
  have total : Std.Total fun a b : α => toLex (key b) ≤ toLex (key a) :=
    ⟨fun a b => le_total (toLex (key b)) (toLex (key a))⟩
  have transitive : IsTrans α fun a b => toLex (key b) ≤ toLex (key a) :=
    ⟨fun a b c ab bc => bc.trans ab⟩
  exact List.pairwise_insertionSort _ _

theorem keysetQuery_eq (key : α → Time × Key) (condition : α → Bool) (table : List α) (limit : Nat)
    (before : Option (Time × Key)) : keysetQuery key condition table limit before =
      (rowsBelow key (table.filter condition) before).take (limit + 1) := by
  simp only [keysetQuery, rowsBelow, List.filter_filter, Bool.and_comm]

variable {key : α → Time × Key} {condition : α → Bool} {table : List α}
  {decode : List Char → Option (Time × Key)} {encode : α → List Char}

theorem rowsBelow_descending (all : List α) (reads : ∀ row ∈ all, decode (encode row) = some (key row)) :
    Descending (fun row => toLex (key row)) encode all fun c => rowsBelow key all (c.bind decode) where
  first := (rowsBelow_perm key all none).trans (List.Perm.of_eq (by simp))
  first_sorted := rowsBelow_sorted key all none
  next last member := by
    have read : (some (encode last)).bind decode = some (key last) := reads last member
    rw [read]
    refine (rowsBelow_perm key all _).trans (List.Perm.of_eq ?_)
    exact List.filter_congr fun x _ => by simp [rowLt_eq]
  next_sorted last _ := rowsBelow_sorted key all _

/-- A keyset list whose cursors are read as they were written shows each row of its condition
once, the latest first. -/
theorem listPage_requests (limit : Option Int) (distinct : (table.map key).Nodup)
    (reads : ∀ row ∈ table, decode (encode row) = some (key row)) :
    ∃ pages, Descending.Requests (listPage decode encode (keysetQuery key condition table) limit)
        none pages ∧
      pages.flatten.Perm (table.filter condition) ∧
      pages.flatten.Pairwise fun a b => toLex (key b) < toLex (key a) := by
  have reads' : ∀ row ∈ table.filter condition, decode (encode row) = some (key row) :=
    fun row member => reads row (List.mem_of_mem_filter member)
  have source := rowsBelow_descending (table.filter condition) reads'
  refine source.exists_requests (clampLimit_pos limit) ?_ ?_
  · have sub : ((table.filter condition).map key).Nodup := distinct.sublist (List.filter_sublist.map key)
    have lexed := sub.map (toLex (α := Time × Key)).injective
    rwa [List.map_map] at lexed
  · intro c reached
    have valid : (c.isSome && (c.bind decode).isNone) = false := by
      rcases reached with rfl | ⟨last, member, rfl⟩
      · rfl
      · simp [reads' last member]
    simp only [listPage, valid, Bool.false_eq_true, if_false, keysetQuery_eq]
    rw [popPage_take (clampLimit limit) encode
      (fun c => rowsBelow key (table.filter condition) (c.bind decode))]

end

/-- **Keyset lists**: whatever sessions and audit events are stored, following the cursors from
the first page asks for no page that fails, and shows every row of the filter once, in
descending order of time and id; and every cursor is read as the time and id it was made of. -/
theorem keyset_lists_once [LinearOrder Time] [LinearOrder Id] [DecidableEq Device]
    (text : CursorText Time Id) (lawful : text.RoundTrips) :
    (∀ (db : SessionTables Time Id Device) (owner : Id) (limit : Option Int) (archived : Option Bool),
      ∃ pages, Descending.Requests (listSessions text db owner limit archived) none pages ∧
        pages.flatten.Perm (db.sessions.filter (db.listed owner archived)) ∧
        pages.flatten.Pairwise fun a b =>
          toLex (b.lastUpdatedAt, b.id) < toLex (a.lastUpdatedAt, a.id)) ∧
    (∀ (db : AuditTable Time Id) (owner : Id) (limit : Option Int),
      ∃ pages, Descending.Requests (listAudit text db owner limit) none pages ∧
        pages.flatten.Perm (db.events.filter fun event => event.ownerId = owner) ∧
        pages.flatten.Pairwise fun a b => toLex (b.createdAt, b.id) < toLex (a.createdAt, a.id)) ∧
    (∀ row : StoredSession Time Id Device,
      decodeSessionCursor text (encodeSessionCursor text row) = some (row.lastUpdatedAt, row.id)) ∧
    (∀ (createdAt : Time) (id : Int), -2 ^ 63 ≤ id → id < 2 ^ 63 →
      decodeAuditCursor text (encodeAuditCursor text createdAt id) = some (createdAt, id)) := by
  refine ⟨?_, ?_, decode_encodeSessionCursor lawful, fun createdAt id => decode_encodeAuditCursor lawful createdAt⟩
  · intro db owner limit archived
    refine listPage_requests limit ?_ fun row _ => decode_encodeSessionCursor lawful row
    exact List.Nodup.of_map Prod.snd (by simpa [Function.comp_def] using db.unique)
  · intro db owner limit
    refine listPage_requests limit ?_ fun event member =>
      decode_encodeAuditCursor lawful event.createdAt (db.ids event member).1 (db.ids event member).2
    exact List.Nodup.of_map Prod.snd (by simpa [Function.comp_def] using db.unique)

/-- Two times half a millisecond apart, and two uuids. -/
def twoTexts : CursorText (Fin 2) (Fin 2) where
  rfc3339 t :=
    if t = 0 then "2026-01-01T00:00:00+00:00".toList else "2026-01-01T00:00:00.000500+00:00".toList
  parseRfc3339 text :=
    if text = "2026-01-01T00:00:00+00:00".toList then some 0
    else if text = "2026-01-01T00:00:00.000500+00:00".toList then some 1 else none
  uuid i :=
    if i = 0 then "00000000-0000-4000-8000-000000000000".toList
    else "00000000-0000-4000-8000-000000000001".toList
  parseUuid text :=
    if text = "00000000-0000-4000-8000-000000000000".toList then some 0
    else if text = "00000000-0000-4000-8000-000000000001".toList then some 1 else none

theorem twoTexts_roundTrips : twoTexts.RoundTrips where
  time := by decide
  id := by decide
  plain := by decide

/-- Two sessions of one device, updated at the same time. -/
def tiedSessions : SessionTables (Fin 2) (Fin 2) (Fin 1) where
  sessions := [⟨0, 0, 1, false⟩, ⟨1, 0, 1, false⟩]
  unique := by decide
  devices := (∅ : FiniteMap (Fin 1) (StoredDevice (Fin 2))).insert 0 ⟨0, false⟩

theorem keyset_lists_once_tied :
    ∃ pages, Descending.Requests (listSessions twoTexts tiedSessions 0 (some 1) none) none pages ∧
      pages.flatten.Perm (tiedSessions.sessions.filter (tiedSessions.listed 0 none)) ∧
      pages.flatten.Pairwise fun a b =>
        toLex (b.lastUpdatedAt, b.id) < toLex (a.lastUpdatedAt, a.id) :=
  (keyset_lists_once twoTexts twoTexts_roundTrips).1 tiedSessions 0 (some 1) none

end AgentConsole.Relay
