import AgentConsole.Lib.Descending
import AgentConsole.Bridge.CatalogWalk

/-! # The history of a session

Desktop keeps the items of a thread's turns with their place in the rollout.  The catalog
reads them page by page, the latest first; the cursor of a page is the place of its last item,
and the next page has what comes strictly before it.  Places are not unique: the key of the
table is the thread, the turn and the item.

SQLite does not say in which order items of one place come.  Of an item only what decides about
pages is kept. -/

namespace AgentConsole.Bridge

open AgentConsole.Lib

/-- A row of `thread_items`. -/
structure ThreadItemRow where
  threadId : SessionId
  turnId : String
  itemId : String
  rolloutOrdinal : Int
  createdAtMs : Option Int := none
deriving DecidableEq, Repr

/-- The key of `thread_turns`. -/
structure ThreadTurnRow where
  threadId : SessionId
  turnId : String
deriving DecidableEq, Repr

structure HistoryDb where
  items : List ThreadItemRow
  turns : List ThreadTurnRow
  items_unique : (items.map fun i => (i.threadId, i.turnId, i.itemId)).Nodup
  turns_unique : turns.Nodup
  ordinals : ∀ i ∈ items, -2 ^ 63 ≤ i.rolloutOrdinal ∧ i.rolloutOrdinal < 2 ^ 63

structure HistoryEntry where
  turn : TurnId
  item : String
  createdAt : Option Int
deriving DecidableEq, Repr

/-- A catalog with a history that can be read. -/
structure HistoryCatalog extends Catalog where
  db : HistoryDb

/-- `i64::MAX` -/
def maxOrdinal : Int := 2 ^ 63 - 1

/-- `thread_items i JOIN thread_turns t` for one thread. -/
def HistoryDb.joined (db : HistoryDb) (thread : SessionId) : List ThreadItemRow :=
  (db.items.filter (·.threadId = thread)).flatMap fun item =>
    (db.turns.filter fun turn => turn.threadId = item.threadId ∧ turn.turnId = item.turnId).map
      fun _ => item

/-- What the database answers for the items before a place, the latest first. -/
structure HistoryDb.Answers (db : HistoryDb) (thread : SessionId)
    (answer : Int → List ThreadItemRow) : Prop where
  rows : ∀ before, (answer before).Perm ((db.joined thread).filter (·.rolloutOrdinal < before))
  ordered : ∀ before, (answer before).Pairwise fun a b => b.rolloutOrdinal ≤ a.rolloutOrdinal

def parseHistoryCursor (cursor : String) : Option Int :=
  if "before:".toList <+: cursor.toList then parseI64 (cursor.toList.drop 7) else none

def historyCursor (row : ThreadItemRow) : String :=
  let ordinal := row.rolloutOrdinal
  s!"before:{ordinal}"

def historyBefore (cursor : Option String) : Int := (cursor.bind parseHistoryCursor).getD maxOrdinal

def historyEntry (row : ThreadItemRow) : HistoryEntry where
  turn := { id := row.turnId }
  item := row.itemId
  createdAt := row.createdAtMs.bind msToDatetime

namespace HistoryCatalog

def sessionHistory (c : HistoryCatalog) (answer : Int → List ThreadItemRow) (limit : Nat)
    (cursor : Option String) : Page HistoryEntry String :=
  let limit := c.clampPageSize limit
  let rows := (answer (historyBefore cursor)).take (limit + 1)
  let hasMore := decide (limit < rows.length)
  { items := (rows.take limit).map historyEntry
    next := if hasMore then (rows.take limit).getLast?.map historyCursor else none }

end HistoryCatalog

/-! ## Cursors -/

theorem parseHistoryCursor_historyCursor {row : ThreadItemRow}
    (least : -2 ^ 63 ≤ row.rolloutOrdinal) (greatest : row.rolloutOrdinal < 2 ^ 63) :
    parseHistoryCursor (historyCursor row) = some row.rolloutOrdinal := by
  have text : (historyCursor row).toList =
      "before:".toList ++ (toString row.rolloutOrdinal).toList := by
    simp only [historyCursor, toString, String.toList_append]
  unfold parseHistoryCursor
  rw [text, if_pos (List.prefix_append _ _), List.drop_left' (by decide)]
  exact parseI64_toString least greatest

variable {c : HistoryCatalog} {thread : SessionId} {answer : Int → List ThreadItemRow}

theorem HistoryDb.mem_items {db : HistoryDb} {item : ThreadItemRow}
    (member : item ∈ db.joined thread) : item ∈ db.items := by
  obtain ⟨other, inside, found⟩ := List.mem_flatMap.mp member
  obtain ⟨turn, -, rfl⟩ := List.mem_map.mp found
  exact List.mem_of_mem_filter inside

/-- The query for a page is a pager over the items before the last possible place. -/
theorem HistoryDb.Answers.descending (answers : c.db.Answers thread answer) :
    Descending (·.rolloutOrdinal) historyCursor
      ((c.db.joined thread).filter (·.rolloutOrdinal < maxOrdinal))
      (fun cursor => answer (historyBefore cursor)) where
  first := answers.rows maxOrdinal
  first_sorted := answers.ordered maxOrdinal
  next last member := by
    obtain ⟨inside, below⟩ := List.mem_filter.mp member
    obtain ⟨least, greatest⟩ := c.db.ordinals last (c.db.mem_items inside)
    have before : historyBefore (some (historyCursor last)) = last.rolloutOrdinal := by
      simp [historyBefore, parseHistoryCursor_historyCursor least greatest]
    rw [before, List.filter_filter]
    refine (answers.rows last.rolloutOrdinal).trans (List.Perm.of_eq ?_)
    refine List.filter_congr fun x _ => ?_
    simp only [decide_eq_true_eq] at below
    rw [Bool.eq_iff_iff]
    simp only [Bool.and_eq_true, decide_eq_true_eq]
    exact ⟨fun less => ⟨less, less.trans below⟩, fun both => both.1⟩
  next_sorted last _ := answers.ordered _

theorem sessionHistory_eq (c : HistoryCatalog) (answer : Int → List ThreadItemRow) (limit : Nat) :
    c.sessionHistory answer limit = fun cursor =>
      (paginate (c.clampPageSize limit) historyCursor (fun cursor => answer (historyBefore cursor))
        cursor).map (List.map historyEntry) := by
  funext cursor
  have shown (rows : List ThreadItemRow) (n : Nat) : (rows.take (n + 1)).take n = rows.take n := by
    rw [List.take_take]
    congr 1
    omega
  simp [HistoryCatalog.sessionHistory, paginate, Page.map, shown]

/-- The places of a thread's items, the latest first. -/
def HistoryDb.places (db : HistoryDb) (thread : SessionId) : List Int :=
  ((db.joined thread).map (·.rolloutOrdinal)).insertionSort (· ≥ ·)

/-- Below the last possible place all items are answered, if none has that place. -/
theorem HistoryDb.Answers.all (answers : c.db.Answers thread answer)
    (below : ∀ item ∈ c.db.joined thread, item.rolloutOrdinal ≠ maxOrdinal) :
    (answer maxOrdinal).Perm (c.db.joined thread) := by
  have whole : (c.db.joined thread).filter (·.rolloutOrdinal < maxOrdinal) = c.db.joined thread := by
    rw [List.filter_eq_self]
    intro item member
    have greatest := (c.db.ordinals item (c.db.mem_items member)).2
    have other := below item member
    refine decide_eq_true ?_
    simp only [maxOrdinal] at other ⊢
    omega
  have rows := answers.rows maxOrdinal
  rwa [whole] at rows

theorem HistoryDb.Answers.places_eq (answers : c.db.Answers thread answer)
    (all : (answer maxOrdinal).Perm (c.db.joined thread)) :
    (answer maxOrdinal).map (·.rolloutOrdinal) = c.db.places thread := by
  have shown : ((answer maxOrdinal).map (·.rolloutOrdinal)).Pairwise fun x y => y ≤ x :=
    List.pairwise_map.mpr (answers.ordered maxOrdinal)
  have sorted : (c.db.places thread).Pairwise fun x y => y ≤ x :=
    List.pairwise_insertionSort (· ≥ ·) _
  have perm : ((answer maxOrdinal).map (·.rolloutOrdinal)).Perm (c.db.places thread) :=
    (all.map _).trans (List.perm_insertionSort _ _).symm
  exact perm.eq_of_pairwise (fun x y _ _ first second => le_antisymm second first) shown sorted

/-- All items of a thread are shown, each once, the latest first. -/
def ShowsHistory (db : HistoryDb) (thread : SessionId) (pages : List (List HistoryEntry)) : Prop :=
  ∃ rows : List ThreadItemRow, pages.flatten = rows.map historyEntry ∧
    rows.Perm (db.joined thread) ∧ rows.Pairwise fun a b => b.rolloutOrdinal ≤ a.rolloutOrdinal

variable {limit : Nat}

theorem reached_first : Descending.Reached historyCursor
    ((c.db.joined thread).filter (·.rolloutOrdinal < maxOrdinal)) (none : Option String) := .inl rfl

/-- A walk that shows everything meets no item of the last possible place, and ends no page
between items of one place. -/
theorem paged_of_showsHistory (answers : c.db.Answers thread answer) {shown : List (List HistoryEntry)}
    (walk : Walk (c.sessionHistory answer limit) none shown) (shows : ShowsHistory c.db thread shown) :
    (∀ item ∈ c.db.joined thread, item.rolloutOrdinal ≠ maxOrdinal) ∧
      PagedKeys (c.clampPageSize limit) (c.db.places thread) := by
  have source := answers.descending
  have positive := c.clampPageSize_pos limit
  rw [sessionHistory_eq] at walk
  obtain ⟨pages, inner, rfl⟩ := walk.of_map
  obtain ⟨rows, same, perm, -⟩ := shows
  have fewer : pages.flatten.Subperm (answer maxOrdinal) :=
    source.walk_subperm positive reached_first inner
  have length : pages.flatten.length = (c.db.joined thread).length := by
    have lengths := congrArg List.length same
    rw [List.length_map, perm.length_eq, ← List.map_flatten, List.length_map] at lengths
    exact lengths
  have answered := (answers.rows maxOrdinal).length_eq
  have kept := List.length_filter_le (fun i : ThreadItemRow => decide (i.rolloutOrdinal < maxOrdinal))
    (c.db.joined thread)
  have lower := fewer.length_le
  have whole := List.filter_sublist.eq_of_length_le
    (show (c.db.joined thread).length ≤ ((c.db.joined thread).filter
      fun i => decide (i.rolloutOrdinal < maxOrdinal)).length by omega)
  have below : ∀ item ∈ c.db.joined thread, item.rolloutOrdinal ≠ maxOrdinal := by
    intro item member
    rw [← whole] at member
    have less := of_decide_eq_true (List.mem_filter.mp member).2
    omega
  have everything : pages.flatten.Perm (answer maxOrdinal) := fewer.perm_of_length_le (by omega)
  refine ⟨below, ?_⟩
  rw [← answers.places_eq (answers.all below)]
  exact (source.walk_perm_iff positive reached_first inner).mp everything

theorem exists_showsHistory (answers : c.db.Answers thread answer)
    (below : ∀ item ∈ c.db.joined thread, item.rolloutOrdinal ≠ maxOrdinal)
    (paged : PagedKeys (c.clampPageSize limit) (c.db.places thread)) :
    ∃ pages, Walk (c.sessionHistory answer limit) none pages ∧ ShowsHistory c.db thread pages := by
  have source := answers.descending
  have positive := c.clampPageSize_pos limit
  have all := answers.all below
  rw [← answers.places_eq all] at paged
  obtain ⟨pages, walk⟩ := source.exists_walk positive reached_first
  rw [sessionHistory_eq]
  refine ⟨_, walk.map _, pages.flatten, ?_, ?_, source.walk_sorted positive reached_first walk⟩
  · rw [List.map_flatten]
  · exact ((source.walk_perm_iff positive reached_first walk).mpr paged).trans all

/-- **History**: in whatever order items of one place are answered, following the cursors from
the first page shows every item of a thread once, the latest first, exactly when no item has
the last possible place and no page ends between two items of one place. -/
theorem session_history_once (c : HistoryCatalog) (thread : SessionId)
    (answer : Int → List ThreadItemRow) (answers : c.db.Answers thread answer) (limit : Nat) :
    (∃ pages, Walk (c.sessionHistory answer limit) none pages ∧ ShowsHistory c.db thread pages) ↔
      (∀ item ∈ c.db.joined thread, item.rolloutOrdinal ≠ maxOrdinal) ∧
        PagedKeys (c.clampPageSize limit) (c.db.places thread) := by
  constructor
  · intro ⟨pages, walk, shows⟩
    exact paged_of_showsHistory answers walk shows
  · intro ⟨below, paged⟩
    exact exists_showsHistory answers below paged

/-- Two items of one place, as in the fixture of the catalog. -/
def tiedItems : List ThreadItemRow :=
  [⟨"main", "turn-f1", "item-f1", 21, none⟩, ⟨"main", "turn-f2", "item-live-1", 21, none⟩]

theorem tiedItems_unique : (tiedItems.map fun i => (i.threadId, i.turnId, i.itemId)).Nodup := by
  decide

theorem tiedItems_ordinals :
    ∀ i ∈ tiedItems, -2 ^ 63 ≤ i.rolloutOrdinal ∧ i.rolloutOrdinal < 2 ^ 63 := by
  decide

def tiedTurns : List ThreadTurnRow := [⟨"main", "turn-f1"⟩, ⟨"main", "turn-f2"⟩]

theorem tiedTurns_unique : tiedTurns.Nodup := by decide

theorem tiedHistory_default : 0 < 50 := by decide

theorem tiedHistory_max : 0 < 200 := by decide

def tiedHistory : HistoryCatalog where
  rows := []
  unique := List.nodup_nil
  defaultPositive := tiedHistory_default
  maxPositive := tiedHistory_max
  db := ⟨tiedItems, tiedTurns, tiedItems_unique, tiedTurns_unique, tiedItems_ordinals⟩

def tiedAnswer (before : Int) : List ThreadItemRow :=
  (tiedHistory.db.joined "main").filter (·.rolloutOrdinal < before)

theorem tiedAnswer_answers : tiedHistory.db.Answers "main" tiedAnswer where
  rows before := List.Perm.refl _
  ordered before := by
    have all : (tiedHistory.db.joined "main").Pairwise
        fun a b => b.rolloutOrdinal ≤ a.rolloutOrdinal := by decide
    exact all.sublist List.filter_sublist

/-- On one page they are both shown. -/
theorem session_history_once_tied :
    ∃ pages, Walk (tiedHistory.sessionHistory tiedAnswer 2) none pages ∧
      ShowsHistory tiedHistory.db "main" pages :=
  (session_history_once tiedHistory "main" tiedAnswer tiedAnswer_answers 2).mpr
    ⟨by decide, .short (by decide)⟩

/-- With pages of one item the second is lost. -/
theorem session_history_loses :
    ¬ ∃ pages, Walk (tiedHistory.sessionHistory tiedAnswer 1) none pages ∧
      ShowsHistory tiedHistory.db "main" pages := by
  intro ⟨pages, walk, shows⟩
  have paged := (paged_of_showsHistory tiedAnswer_answers walk shows).2
  have places : tiedHistory.db.places "main" = [] ++ 21 :: [21] := by decide
  rw [places, PagedKeys, paged_append_iff (by decide) (by simp)] at paged
  exact absurd (paged.1 21 (by simp)) (by decide)

end AgentConsole.Bridge
