import AgentConsole.Bridge.CatalogWalk
import AgentConsole.Web.SessionsNewest

/-! # The list of a device's sessions

The Bridge sends the list stream a snapshot when the stream is established, and again when the
list is refreshed; between them it sends the summaries that change.  A snapshot is made of one
page of the adapter's list and the sessions that the hooks tell of.  The web store takes every
session that a snapshot does not have for deleted.

The catalog, the sessions known at runtime and those of the hooks stay as they are during a run.
Streams are told apart by their epochs.  `snapshots` is a ghost: the sessions of each snapshot
sent. -/

namespace AgentConsole.System.Listing

open AgentConsole.Lib
open AgentConsole.Bridge (Catalog CodexSessions ThreadRow addKnown)
open AgentConsole.Web.Sessions (OnePerKey Report SessionKey Store)

/-! ## The sessions of a device -/

/-- How the listing of the catalog ends. -/
inductive Outcome where
  | ok
  /-- `CatalogError::Unavailable`, taken for an empty page -/
  | unavailable
  | failed
  deriving DecidableEq, Repr

section Codex

variable (s : CodexSessions)

/-- The threads on the disk, with whether they are archived. -/
def threads : List (String × Bool) :=
  match s.catalog with
  | some c => c.rows.map fun row => (row.id, row.archived)
  | none => s.staticSessions.map fun thread => (thread.id, thread.archived)

/-- A Codex session that is not archived. -/
def Live (id : String) : Prop :=
  (id, false) ∈ threads s ∨ (id ∈ s.known ∧ (id, true) ∉ threads s)

/-- `list_sessions(None, 50, false)` -/
def listed (outcome : Outcome) : Option (List String) :=
  match s.catalog, outcome with
  | some _, .unavailable => some (addKnown s.known [])
  | some _, .failed => none
  | _, _ => some (s.listSessions 50 false none).items

def firstPage (c : Catalog) : List ThreadRow := (c.visible false).take (c.clampPageSize 50)

/-- No session known at runtime is archived, and all live ones are known or on the first page. -/
def ListsAll (outcome : Outcome) : Prop :=
  match s.catalog, outcome with
  | none, _ => ∀ id ∈ s.known, Live s id
  | some c, .ok => (∀ id ∈ s.known, Live s id) ∧
      ∀ row ∈ c.rows, row.archived = false → row.id ∉ s.known → row ∈ firstPage c
  | some c, .unavailable => (∀ id ∈ s.known, Live s id) ∧
      ∀ row ∈ c.rows, row.archived = false → row.id ∈ s.known
  | some _, .failed => ∀ id, ¬ Live s id

end Codex

/-- A device: its Codex sessions, and the native ids of the ZCode sessions that `list_summaries`
of the hooks has. -/
structure Device where
  deviceId : String
  sessions : CodexSessions
  hooks : List String

namespace Device

variable (d : Device)

def codexKey (native : String) : SessionKey := ⟨d.deviceId, "CODEX_DESKTOP", native⟩

def zcodeKey (native : String) : SessionKey := ⟨d.deviceId, "ZCODE_DESKTOP", native⟩

/-- The sessions of the device that are not archived. -/
def Exists (key : SessionKey) : Prop :=
  (∃ id, key = d.codexKey id ∧ Live d.sessions id) ∨ ∃ id ∈ d.hooks, key = d.zcodeKey id

/-- The sessions of a snapshot. -/
def batchOf (ids : List String) : List SessionKey :=
  ids.map d.codexKey ++ d.hooks.map d.zcodeKey

end Device

/-! ## The stream -/

/-- The summaries of sessions, as the Bridge makes them and the transport maps them. -/
structure Describe where
  report : SessionKey → Report
  key : ∀ key, (report key).key = key

/-- `StreamState` of the list. -/
structure ListStream where
  epoch : Nat
  buffering : Bool
  buffer : List Report

/-- The Bridge's list stream, and the web store at its other end. -/
structure Link where
  epochCounter : Nat := 0
  stream : Option ListStream := none
  establishing : Nat := 0
  refreshes : FiniteMap Nat Nat := ∅
  store : Store := .new
  snapshots : List (List SessionKey) := []

inductive Input where
  /-- `establish_list_stream` before its call of the adapter, and after it. -/
  | establish
  | established (outcome : Outcome) (describe : Describe)
  /-- `refresh_list_summary` before its call of the adapter, and after it. -/
  | refresh (call : Nat)
  | refreshed (call : Nat) (outcome : Outcome) (describe : Describe)
  /-- `SessionSummaryChanged` -/
  | summary (report : Report)
  /-- The details of a session are opened in the store. -/
  | runtime (id : Web.Sessions.SessionId)

namespace Link

variable (d : Device) (st : Link)

/-- A snapshot is sent and merged. -/
def sendSnapshot (ids : List String) (describe : Describe) : Link :=
  { st with
    store := st.store.mergeSessions ((d.batchOf ids).map describe.report) true
    snapshots := st.snapshots ++ [d.batchOf ids] }

/-- A changed summary is sent and merged. -/
def sendSummary (report : Report) : Link :=
  { st with store := st.store.mergeSessions [report] false }

def establish : Link :=
  { st with
    epochCounter := st.epochCounter + 1
    stream := some ⟨st.epochCounter + 1, true, []⟩
    establishing := st.establishing + 1 }

/-- The stream no longer buffers. -/
def opened (calls : Nat) (stream : ListStream) : Link :=
  { st with
    establishing := calls
    stream := some { stream with buffering := false, buffer := [] } }

/-- The adapter's error counts as an empty page; what was buffered follows the snapshot. -/
def established (outcome : Outcome) (describe : Describe) : Link :=
  match st.establishing, st.stream with
  | 0, _ | _, none => st
  | calls + 1, some stream =>
    stream.buffer.foldl sendSummary
      ((st.opened calls stream).sendSnapshot d ((listed d.sessions outcome).getD []) describe)

def refresh (call : Nat) : Link :=
  match st.stream with
  | none => st
  | some stream => { st with refreshes := st.refreshes.insert call stream.epoch }

/-- Nothing is sent after an error, or when the stream was established anew. -/
def refreshed (call : Nat) (outcome : Outcome) (describe : Describe) : Link :=
  match st.refreshes.get? call, listed d.sessions outcome, st.stream with
  | some epoch, some ids, some stream =>
    let done := { st with refreshes := st.refreshes.erase call }
    if stream.epoch = epoch ∧ stream.buffering = false then done.sendSnapshot d ids describe
    else done
  | _, _, _ => { st with refreshes := st.refreshes.erase call }

def summary (report : Report) : Link :=
  match st.stream with
  | none => st
  | some stream =>
    if stream.buffering then
      { st with stream := some { stream with buffer := stream.buffer ++ [report] } }
    else st.sendSummary report

def step (st : Link) : Input → Link
  | .establish => st.establish
  | .established outcome describe => st.established d outcome describe
  | .refresh call => st.refresh call
  | .refreshed call outcome describe => st.refreshed d call outcome describe
  | .summary report => st.summary report
  | .runtime id => { st with store := { st.store with runtimes := id :: st.store.runtimes } }

/-! ## Complete lists -/

/-- The store shows the session. -/
def Shows (key : SessionKey) : Prop := key ∈ st.store.sessions.map (·.key)

/-- No snapshot leaves a session out, and from the first one on the store shows the sessions of
the device. -/
structure Complete : Prop where
  snapshots : ∀ keys ∈ st.snapshots, ∀ key, d.Exists key → key ∈ keys
  view : st.snapshots ≠ [] → ∀ key, st.Shows key ↔ d.Exists key

/-- A snapshot is made of a complete listing, and a summary that is sent is that of a session
which exists. -/
def Regular (st : Link) : Input → Prop
  | .established outcome _ => ∀ stream, st.establishing ≠ 0 → st.stream = some stream →
      ListsAll d.sessions outcome ∧ ∀ report ∈ stream.buffer, d.Exists report.key
  | .refreshed call outcome _ => ∀ stream epoch, st.refreshes.get? call = some epoch →
      (listed d.sessions outcome).isSome = true → st.stream = some stream →
      stream.epoch = epoch → stream.buffering = false → ListsAll d.sessions outcome
  | .summary report => ∀ stream, st.stream = some stream → stream.buffering = false →
      d.Exists report.key
  | _ => True

end Link

/-! ## One listing -/

section Codex

variable {s : CodexSessions} {outcome : Outcome} {c : Catalog}

theorem threads_of_some (catalog : s.catalog = some c) :
    threads s = c.rows.map fun row => (row.id, row.archived) := by
  unfold threads
  rw [catalog]

/-- A thread of the catalog is live exactly when it is not archived, known or not. -/
theorem live_of_some (catalog : s.catalog = some c) {id : String} :
    Live s id ↔ (∃ row ∈ c.rows, row.id = id ∧ row.archived = false) ∨
      (id ∈ s.known ∧ ¬ ∃ row ∈ c.rows, row.id = id ∧ row.archived = true) := by
  unfold Live
  rw [threads_of_some catalog]
  simp

/-- The first page has live threads only. -/
theorem live_of_firstPage (catalog : s.catalog = some c) {row : ThreadRow}
    (shown : row ∈ firstPage c) : Live s row.id := by
  obtain ⟨-, inside, visible⟩ := CodexSessions.mem_visible.mp (List.mem_of_mem_take shown)
  refine (live_of_some catalog).mpr (.inl ⟨row, inside, rfl, ?_⟩)
  obtain all | unarchived := visible
  · cases all
  · exact unarchived

theorem mem_listed_ok (catalog : s.catalog = some c) {id : String} :
    id ∈ (s.listSessions 50 false none).items ↔
      (∃ row ∈ firstPage c, row.id = id) ∨ id ∈ s.known := by
  rw [CodexSessions.listSessions_eq_map catalog]
  show id ∈ addKnown s.known ((firstPage c).map (·.id)) ↔ _
  rw [Bridge.mem_addKnown, List.mem_map]

/-- A listing has exactly the live sessions under the condition `ListsAll`. -/
theorem listed_iff : (∀ id, id ∈ (listed s outcome).getD [] ↔ Live s id) ↔ ListsAll s outcome := by
  unfold ListsAll
  cases catalog : s.catalog with
  | none =>
    have items : ∀ id, id ∈ (listed s outcome).getD [] ↔
        (id, false) ∈ threads s ∨ id ∈ s.known := by
      intro id
      unfold listed threads CodexSessions.listSessions
      rw [catalog]
      simp [Bridge.mem_addKnown, and_assoc, and_comm, and_left_comm]
    simp only [items]
    constructor
    · intro exact_ id known
      exact (exact_ id).mp (.inr known)
    · intro known id
      constructor
      · rintro (thread | runtime)
        · exact .inl thread
        · exact known id runtime
      · rintro (thread | ⟨runtime, -⟩)
        · exact .inl thread
        · exact .inr runtime
  | some c =>
    cases outcome with
    | ok =>
      have items : ∀ id, id ∈ (listed s .ok).getD [] ↔
          (∃ row ∈ firstPage c, row.id = id) ∨ id ∈ s.known := by
        intro id
        unfold listed
        rw [catalog]
        exact mem_listed_ok catalog
      simp only [items]
      constructor
      · intro exact_
        refine ⟨fun id known => (exact_ id).mp (.inr known), ?_⟩
        intro row inside unarchived unknown
        have live : Live s row.id :=
          (live_of_some catalog).mpr (.inl ⟨row, inside, rfl, unarchived⟩)
        obtain ⟨other, shown, same⟩ | known := (exact_ row.id).mpr live
        · obtain ⟨-, also, -⟩ := CodexSessions.mem_visible.mp (List.mem_of_mem_take shown)
          rwa [← List.inj_on_of_nodup_map c.unique also inside same]
        · exact absurd known unknown
      · rintro ⟨known, pages⟩ id
        constructor
        · rintro (⟨row, shown, rfl⟩ | runtime)
          · exact live_of_firstPage catalog shown
          · exact known id runtime
        · intro live
          by_cases runtime : id ∈ s.known
          · exact .inr runtime
          · obtain ⟨row, inside, rfl, unarchived⟩ | ⟨also, -⟩ := (live_of_some catalog).mp live
            · exact .inl ⟨row, pages row inside unarchived runtime, rfl⟩
            · exact absurd also runtime
    | unavailable =>
      have items : ∀ id, id ∈ (listed s .unavailable).getD [] ↔ id ∈ s.known := by
        intro id
        unfold listed
        rw [catalog]
        simp [Bridge.mem_addKnown]
      simp only [items]
      constructor
      · intro exact_
        refine ⟨fun id known => (exact_ id).mp known, ?_⟩
        intro row inside unarchived
        exact (exact_ row.id).mpr ((live_of_some catalog).mpr (.inl ⟨row, inside, rfl, unarchived⟩))
      · rintro ⟨known, rows⟩ id
        refine ⟨known id, fun live => ?_⟩
        obtain ⟨row, inside, rfl, unarchived⟩ | ⟨also, -⟩ := (live_of_some catalog).mp live
        · exact rows row inside unarchived
        · exact also
    | failed =>
      have items : (listed s .failed).getD [] = [] := by
        unfold listed
        rw [catalog]
        rfl
      simp [items]

end Codex

namespace Device

variable {d : Device} {ids : List String} {key : SessionKey}

theorem mem_batchOf : key ∈ d.batchOf ids ↔
    (∃ id, key = d.codexKey id ∧ id ∈ ids) ∨ ∃ id ∈ d.hooks, key = d.zcodeKey id := by
  unfold batchOf
  rw [List.mem_append, List.mem_map, List.mem_map]
  constructor
  · rintro (⟨id, inside, rfl⟩ | ⟨id, inside, rfl⟩)
    · exact .inl ⟨id, rfl, inside⟩
    · exact .inr ⟨id, inside, rfl⟩
  · rintro (⟨id, rfl, inside⟩ | ⟨id, inside, rfl⟩)
    · exact .inl ⟨id, inside, rfl⟩
    · exact .inr ⟨id, inside, rfl⟩

theorem codexKey_iff (P : String → Prop) (id : String) :
    ((∃ other, d.codexKey id = d.codexKey other ∧ P other) ∨
      ∃ other ∈ d.hooks, d.codexKey id = d.zcodeKey other) ↔ P id := by
  simp [codexKey, zcodeKey]

/-- A snapshot of a complete listing has the sessions that exist. -/
theorem batchOf_iff : (∀ key, key ∈ d.batchOf ids ↔ d.Exists key) ↔
    ∀ id, id ∈ ids ↔ Live d.sessions id := by
  constructor
  · intro exact_ id
    have own := exact_ (d.codexKey id)
    rw [mem_batchOf] at own
    unfold Exists at own
    rwa [codexKey_iff (· ∈ ids), codexKey_iff (Live d.sessions)] at own
  · intro exact_ key
    rw [mem_batchOf]
    simp only [exact_, Exists]

end Device

/-! ## One step -/

namespace Link

variable {d : Device} {st : Link} {report : Report} {key : SessionKey}

section Merging

variable {store : Store} {incoming : List Report}

theorem keys_mergeAll (seenIds : List Web.Sessions.SessionId) :
    key ∈ (store.mergeAll seenIds incoming).1.sessions.map (·.key) ↔
      key ∈ store.sessions.map (·.key) ∨ key ∈ incoming.map Report.key := by
  induction incoming generalizing store seenIds with
  | nil => simp [Store.mergeAll]
  | cons report rest inductionHypothesis =>
    unfold Store.mergeAll
    rw [inductionHypothesis]
    show key ∈ (Web.Sessions.upsert report.summary store.sessions).map (·.key) ∨ _ ↔ _
    rw [Web.Sessions.upsert_keys]
    have own : report.key = report.summary.key := rfl
    split
    · rename_i known
      rw [List.map_cons, List.mem_cons, own]
      constructor
      · rintro (before | later)
        · exact .inl before
        · exact .inr (.inr later)
      · rintro (before | rfl | later)
        · exact .inl before
        · exact .inl known
        · exact .inr later
    · rw [List.map_cons, List.mem_cons, List.mem_append, List.mem_singleton, own, or_assoc]

theorem keys_mergeSessions :
    key ∈ (store.mergeSessions incoming false).sessions.map (·.key) ↔
      key ∈ store.sessions.map (·.key) ∨ key ∈ incoming.map Report.key := by
  rw [← keys_mergeAll []]
  unfold Store.mergeSessions
  simp

/-- A snapshot leaves at least what it has, and adds nothing else. -/
theorem keys_mergeSnapshot (one : OnePerKey store.sessions) :
    (∀ key ∈ incoming.map Report.key,
      key ∈ (store.mergeSessions incoming true).sessions.map (·.key)) ∧
    ∀ key ∈ (store.mergeSessions incoming true).sessions.map (·.key),
      key ∈ store.sessions.map (·.key) ∨ key ∈ incoming.map Report.key := by
  constructor
  · intro key named
    have merged : key ∈ (store.mergeAll [] incoming).1.sessions.map (·.key) :=
      (keys_mergeAll []).mpr (.inr named)
    obtain ⟨item, there, same⟩ := List.mem_map.mp merged
    have seen := Web.Sessions.seen_mergeAll incoming [] one []
      (fun _ _ none_ => by cases none_) item there (.inr (by rw [same]; exact named))
    exact List.mem_map.mpr
      ⟨item, (Web.Sessions.mem_mergeSessions incoming true).mpr ⟨there, fun _ => .inl seen⟩, same⟩
  · intro key shown
    obtain ⟨item, inside, same⟩ := List.mem_map.mp shown
    have there := ((Web.Sessions.mem_mergeSessions incoming true).mp inside).1
    exact (keys_mergeAll []).mp (List.mem_map.mpr ⟨item, there, same⟩)

end Merging

/-- The entries have keys of their own; and before the first snapshot nothing is shown, and what
comes is buffered. -/
structure Inv (st : Link) : Prop where
  one : OnePerKey st.store.sessions
  fresh : st.snapshots = [] → st.store.sessions = [] ∧
    ∀ stream, st.stream = some stream → stream.buffering = true

theorem one_sendSummaries (reports : List Report) (one : OnePerKey st.store.sessions) :
    OnePerKey (reports.foldl sendSummary st).store.sessions := by
  induction reports generalizing st with
  | nil => exact one
  | cons report rest inductionHypothesis =>
    exact inductionHypothesis (Web.Sessions.onePerKey_mergeSessions one [report] false)

@[simp] theorem snapshots_sendSummaries (reports : List Report) :
    (reports.foldl sendSummary st).snapshots = st.snapshots := by
  induction reports generalizing st with
  | nil => rfl
  | cons report rest inductionHypothesis => exact inductionHypothesis

theorem shows_sendSummaries (reports : List Report) :
    (reports.foldl sendSummary st).Shows key ↔ st.Shows key ∨ key ∈ reports.map Report.key := by
  induction reports generalizing st with
  | nil => simp
  | cons report rest inductionHypothesis =>
    rw [List.foldl_cons, inductionHypothesis]
    unfold Shows sendSummary
    rw [keys_mergeSessions, List.map_cons, List.map_nil, List.mem_singleton, List.map_cons,
      List.mem_cons, or_assoc]

theorem inv_sendSnapshot (inv : OnePerKey st.store.sessions) (ids : List String)
    (describe : Describe) : Inv (st.sendSnapshot d ids describe) where
  one := Web.Sessions.onePerKey_mergeSessions inv _ true
  fresh := by
    intro none_
    simp [sendSnapshot] at none_

/-- A snapshot, and summaries after it, leave the list complete exactly when the snapshot has the
sessions that exist, and the summaries are theirs. -/
theorem complete_sendSnapshot (one : OnePerKey st.store.sessions)
    (fresh : st.snapshots = [] → st.store.sessions = []) (complete : st.Complete d)
    (ids : List String) (describe : Describe) (reports : List Report) :
    (reports.foldl sendSummary (st.sendSnapshot d ids describe)).Complete d ↔
      (∀ key, key ∈ d.batchOf ids ↔ d.Exists key) ∧ ∀ report ∈ reports, d.Exists report.key := by
  have named : ((d.batchOf ids).map describe.report).map Report.key = d.batchOf ids := by
    rw [List.map_map]
    exact (List.map_congr_left fun key _ => describe.key key).trans (List.map_id _)
  have merged := @keys_mergeSnapshot _ ((d.batchOf ids).map describe.report) one
  rw [named] at merged
  obtain ⟨least, most⟩ := merged
  constructor
  · intro after
    have view : ∀ key, (st.sendSnapshot d ids describe).Shows key ∨ key ∈ reports.map Report.key ↔
        d.Exists key := by
      intro key
      rw [← shows_sendSummaries]
      apply after.view
      simp [sendSnapshot]
    refine ⟨fun key => ⟨fun inside => (view key).mp (.inl (least key inside)), ?_⟩, ?_⟩
    · apply after.snapshots
      simp [sendSnapshot]
    · intro report inside
      exact (view report.key).mp (.inr (List.mem_map_of_mem inside))
  · rintro ⟨exact_, own⟩
    constructor
    · intro keys inside key exists_
      rw [snapshots_sendSummaries] at inside
      obtain before | last := List.mem_append.mp inside
      · exact complete.snapshots keys before key exists_
      · rw [List.mem_singleton.mp last]
        exact (exact_ key).mpr exists_
    · intro _ key
      rw [shows_sendSummaries]
      constructor
      · rintro (shown | summary)
        · obtain before | inside := most key shown
          · by_cases first : st.snapshots = []
            · rw [fresh first] at before
              cases before
            · exact (complete.view first key).mp before
          · exact (exact_ key).mp inside
        · obtain ⟨report, inside, rfl⟩ := List.mem_map.mp summary
          exact own report inside
      · intro exists_
        exact .inl (least key ((exact_ key).mpr exists_))

theorem complete_sendSummary (complete : st.Complete d) (started : st.snapshots ≠ []) :
    (st.sendSummary report).Complete d ↔ d.Exists report.key := by
  have view : (st.sendSummary report).Shows report.key ↔
      st.Shows report.key ∨ report.key ∈ [report].map Report.key := shows_sendSummaries [report]
  constructor
  · intro after
    exact (after.view started report.key).mp (view.mpr (.inr (by simp)))
  · intro exists_
    constructor
    · exact complete.snapshots
    · intro _ key
      show ([report].foldl sendSummary st).Shows key ↔ _
      rw [shows_sendSummaries, complete.view started]
      constructor
      · rintro (before | own)
        · exact before
        · rw [List.mem_singleton.mp own]
          exact exists_
      · exact .inl

/-- A listing makes a complete snapshot under the condition `ListsAll`. -/
theorem batch_iff {outcome : Outcome} :
    (∀ key, key ∈ d.batchOf ((listed d.sessions outcome).getD []) ↔ d.Exists key) ↔
      ListsAll d.sessions outcome :=
  Device.batchOf_iff.trans listed_iff

/-! ### The invariant -/

theorem inv_step (inv : st.Inv) (input : Input) : (st.step d input).Inv := by
  cases input with
  | establish =>
    refine ⟨inv.one, fun first => ⟨(inv.fresh first).1, ?_⟩⟩
    intro stream opened
    cases opened
    rfl
  | established outcome describe =>
    show (st.established d outcome describe).Inv
    unfold established
    split
    · exact inv
    · exact inv
    · constructor
      · apply one_sendSummaries
        exact (inv_sendSnapshot inv.one _ describe).one
      · intro none_
        simp [sendSnapshot] at none_
  | refresh call =>
    show (st.refresh call).Inv
    unfold refresh
    split
    · exact inv
    · exact ⟨inv.one, inv.fresh⟩
  | refreshed call outcome describe =>
    show (st.refreshed d call outcome describe).Inv
    unfold refreshed
    split
    · split
      · exact @inv_sendSnapshot d { st with refreshes := st.refreshes.erase call } inv.one _
          describe
      · exact ⟨inv.one, inv.fresh⟩
    · exact ⟨inv.one, inv.fresh⟩
  | summary report =>
    show (st.summary report).Inv
    unfold summary
    split
    · exact inv
    · rename_i stream open_
      split
      · rename_i buffering
        refine ⟨inv.one, fun first => ⟨(inv.fresh first).1, ?_⟩⟩
        intro after same
        cases same
        exact buffering
      · rename_i sends
        refine ⟨one_sendSummaries [report] inv.one, fun first => ?_⟩
        exact absurd ((inv.fresh first).2 stream open_) sends
  | runtime id => exact ⟨inv.one, inv.fresh⟩

/-- Steps that send nothing leave the list as complete as it was. -/
theorem Complete.of_same (complete : st.Complete d) {st' : Link}
    (store : st'.store.sessions = st.store.sessions) (snapshots : st'.snapshots = st.snapshots) :
    st'.Complete d where
  snapshots := by
    rw [snapshots]
    exact complete.snapshots
  view := by
    unfold Shows
    rw [snapshots, store]
    exact complete.view

/-- A step leaves the list complete exactly when it is regular. -/
theorem complete_step_iff (inv : st.Inv) (complete : st.Complete d) (input : Input) :
    (st.step d input).Complete d ↔ st.Regular d input := by
  cases input with
  | establish => exact iff_of_true (complete.of_same rfl rfl) trivial
  | established outcome describe =>
    show (st.established d outcome describe).Complete d ↔ ∀ stream, st.establishing ≠ 0 →
      st.stream = some stream →
      ListsAll d.sessions outcome ∧ ∀ report ∈ stream.buffer, d.Exists report.key
    unfold established
    split
    · rename_i none_
      refine iff_of_true complete ?_
      intro stream some_
      exact absurd none_ some_
    · rename_i none_ _
      refine iff_of_true complete ?_
      intro stream _ open_
      rw [none_] at open_
      cases open_
    · rename_i calls stream running open_
      have exact_ := @complete_sendSnapshot d (st.opened calls stream) inv.one
        (fun first => (inv.fresh first).1) (complete.of_same rfl rfl)
        ((listed d.sessions outcome).getD []) describe stream.buffer
      rw [exact_, batch_iff]
      constructor
      · intro regular other _ same
        rw [open_] at same
        cases same
        exact regular
      · intro regular
        exact regular stream (by rw [running]; exact Nat.succ_ne_zero _) open_
  | refresh call =>
    refine iff_of_true ?_ trivial
    show (st.refresh call).Complete d
    unfold refresh
    split
    · exact complete
    · exact complete.of_same rfl rfl
  | refreshed call outcome describe =>
    show (st.refreshed d call outcome describe).Complete d ↔ ∀ stream epoch,
      st.refreshes.get? call = some epoch → (listed d.sessions outcome).isSome = true →
      st.stream = some stream → stream.epoch = epoch → stream.buffering = false →
      ListsAll d.sessions outcome
    unfold refreshed
    split
    · rename_i epoch ids stream called found open_
      split
      · rename_i current
        have same := @complete_sendSnapshot d { st with refreshes := st.refreshes.erase call }
          inv.one (fun first => (inv.fresh first).1) (complete.of_same rfl rfl) ids describe []
        have all : (∀ key, key ∈ d.batchOf ids ↔ d.Exists key) ↔ ListsAll d.sessions outcome := by
          rw [← batch_iff, found]
          rfl
        rw [List.foldl_nil] at same
        rw [same, all]
        constructor
        · rintro ⟨lists, -⟩ _ _ _ _ _ _ _
          exact lists
        · intro regular
          exact ⟨regular stream epoch called (by rw [found]; rfl) open_ current.1 current.2,
            fun _ none_ => by cases none_⟩
      · rename_i outdated
        refine iff_of_true (complete.of_same rfl rfl) ?_
        intro other number called' _ open_' epoch_ buffering
        rw [called] at called'
        rw [open_] at open_'
        cases called'
        cases open_'
        exact absurd ⟨epoch_, buffering⟩ outdated
    · rename_i missing
      refine iff_of_true (complete.of_same rfl rfl) ?_
      intro stream epoch called found open_ _ _
      obtain ⟨ids, some_⟩ := Option.isSome_iff_exists.mp found
      exact absurd open_ (missing epoch ids stream called some_)
  | summary report =>
    show (st.summary report).Complete d ↔ ∀ stream, st.stream = some stream →
      stream.buffering = false → d.Exists report.key
    unfold summary
    split
    · rename_i none_
      refine iff_of_true complete ?_
      intro stream open_
      rw [none_] at open_
      cases open_
    · rename_i stream open_
      split
      · rename_i buffering
        refine iff_of_true (complete.of_same rfl rfl) ?_
        intro other same sends
        rw [open_] at same
        cases same
        rw [buffering] at sends
        cases sends
      · rename_i sends
        have started : st.snapshots ≠ [] := fun first => sends ((inv.fresh first).2 stream open_)
        rw [complete_sendSummary complete started]
        constructor
        · intro exists_ _ _ _
          exact exists_
        · intro regular
          exact regular stream open_ (by simpa using sends)
  | runtime id => exact iff_of_true (complete.of_same rfl rfl) trivial

/-- **The list is complete**: in every run no snapshot leaves a session out, and the store shows
the sessions of the device after the first one, exactly when all steps are regular. -/
theorem listing_complete (d : Device) (inputs : List Input) :
    (∀ before after, inputs = before ++ after → (before.foldl (step d) {}).Complete d) ↔
      Along (step d) (Regular d) {} inputs := by
  apply Along.iff_reached (I := Inv) (fun _ input inv => inv_step inv input)
    (fun _ input inv complete => complete_step_iff inv complete input)
  · refine ⟨List.nodup_nil, fun _ => ⟨rfl, ?_⟩⟩
    intro stream open_
    cases open_
  · constructor
    · intro keys inside
      cases inside
    · intro first
      exact absurd rfl first

/-! ## A listing that fails -/

theorem defaultPageSize_pos : 0 < 50 := by decide

theorem maxPageSize_pos : 0 < 200 := by decide

def oneThread : Device where
  deviceId := "desk"
  sessions := {
    catalog := some {
      rows := [⟨"a", some 1, none, false⟩]
      unique := List.nodup_singleton "a"
      defaultPositive := defaultPageSize_pos
      maxPositive := maxPageSize_pos }
    known := []
    unique := List.nodup_nil }
  hooks := []

/-- A summary with the plainest fields. -/
def plain : Describe where
  report key :=
    ⟨⟨⟨key, false⟩, ⟨"", "", "", 0, .online, .fullControl, .verified, .idle, .unknown, 0, .empty,
      false, false, false⟩, none, none⟩, 0⟩
  key _ := rfl

/-- The stream is established twice, the second time while the catalog's query times out. -/
def establishedTwice : List Input :=
  [.establish, .established .ok plain, .establish, .established .failed plain]

theorem failed_listing_clears :
    ¬ ∀ (d : Device) (inputs : List Input), (inputs.foldl (step d) {}).Complete d := by
  intro every
  have complete := every oneThread establishedTwice
  have live : oneThread.Exists (oneThread.codexKey "a") := .inl ⟨"a", rfl, .inl (by decide)⟩
  have shown := (complete.view (by decide +kernel) (oneThread.codexKey "a")).mpr live
  revert shown
  unfold Shows
  decide +kernel

end Link

end AgentConsole.System.Listing
