import AgentConsole.Web.SessionLists

/-! # When device snapshots can be applied in any order

What a snapshot does to one session depends on the entry and the runtimes of that session
alone.  While the sessions of other devices are open, a snapshot changes no other session, so
that in any order each session is in the end what its own device's snapshot makes of it. -/

namespace AgentConsole.Web.Sessions

open AgentConsole.Lib

variable {R : Type} {l l' : Lists R} {session : SessionSummary} {key : SessionKey}

/-! ## Records under other ids -/

theorem get?_rekey_of_ne {V : Type} {record : FiniteMap SessionId V} {oldId newId id : SessionId}
    (notOld : id ≠ oldId) (notNew : id ≠ newId) (change : V → V) :
    (rekey record oldId newId change).get? id = record.get? id := by
  unfold rekey
  split
  · rw [FiniteMap.get?_erase, if_neg notOld, FiniteMap.get?_insert, if_neg notNew]
  · rfl

theorem get?_rekey_new {V : Type} {record : FiniteMap SessionId V} {oldId newId : SessionId}
    {value : V} (recorded : record.get? oldId = some value) (different : newId ≠ oldId)
    (change : V → V) : (rekey record oldId newId change).get? newId = some (change value) := by
  unfold rekey
  rw [recorded]
  dsimp only
  rw [FiniteMap.get?_erase, if_neg different, FiniteMap.get?_insert, if_pos rfl]

theorem get?_rekey_congr {V : Type} {record record' : FiniteMap SessionId V}
    {oldId newId : SessionId} (same : ∀ id, id.key = key → record.get? id = record'.get? id)
    (old : oldId.key = key) (change : V → V) {id : SessionId} (of : id.key = key) :
    (rekey record oldId newId change).get? id = (rekey record' oldId newId change).get? id := by
  unfold rekey
  rw [same oldId old]
  split
  · rw [FiniteMap.get?_erase, FiniteMap.get?_erase, FiniteMap.get?_insert, FiniteMap.get?_insert,
      same id of]
  · exact same id of

/-! ## The list alone -/

/-- The store of entries alone, with the ids of the runtimes that are open. -/
structure Lists.Shows (l : Lists R) (st : Store) : Prop where
  sessions : l.sessions = st.sessions
  isOpen : ∀ id, l.isOpen id = true ↔ id ∈ st.runtimes

theorem isOpen_move {oldId newId id : SessionId} (different : oldId ≠ newId) :
    (l.move oldId newId).isOpen id = true ↔
      if l.isOpen oldId then id = newId ∨ (l.isOpen id = true ∧ id ≠ oldId) else l.isOpen id = true := by
  unfold Lists.isOpen Lists.move rekey FiniteMap.contains
  cases recorded : l.runtimes.get? oldId with
  | none => simp
  | some runtime =>
    dsimp only
    rw [FiniteMap.get?_erase, FiniteMap.get?_insert]
    by_cases old : id = oldId
    · simp [old, different]
    · by_cases new : id = newId
      · simp [new, Ne.symm different]
      · simp [old, new]

theorem Lists.Shows.existing {st : Store} (shows_ : l.Shows st) (session : SessionSummary) :
    l.existing session = st.existing session := by
  unfold Lists.existing Store.existing
  rw [shows_.sessions]

theorem Lists.Shows.mergeOne {st : Store} (shows_ : l.Shows st) (report : Report) :
    (l.mergeOne report.summary).Shows (st.mergeOne report) := by
  have existing := shows_.existing report.summary
  refine ⟨?_, ?_⟩
  · show upsert report.summary l.sessions = upsert report.summary st.sessions
    rw [shows_.sessions]
  · intro id
    unfold Lists.mergeOne Store.mergeOne
    dsimp only
    rw [existing]
    cases st.existing report.summary with
    | none => exact shows_.isOpen id
    | some item =>
      dsimp only
      split
      · rename_i moved
        show (l.move _ _).isOpen id = true ↔ _
        rw [isOpen_move moved]
        unfold Store.moveRuntime
        by_cases opened : item.id ∈ st.runtimes
        · rw [if_pos ((shows_.isOpen item.id).mpr opened), if_pos opened, shows_.isOpen id]
          simp
        · have closed : ¬ l.isOpen item.id = true := fun held => opened ((shows_.isOpen item.id).mp held)
          rw [if_neg closed, if_neg opened]
          exact shows_.isOpen id
      · exact shows_.isOpen id

theorem Lists.Shows.targetId {st : Store} (shows_ : l.Shows st) (session : SessionSummary) :
    l.targetId session = st.targetId session := by
  unfold Lists.targetId Store.targetId
  cases found : st.existing session <;> simp only [shows_.existing, found]

theorem Lists.Shows.mergeAll {st : Store} (shows_ : l.Shows st) (incoming : List Report)
    (seenIds : List SessionId) :
    (l.mergeAll seenIds (incoming.map (·.summary))).1.Shows (st.mergeAll seenIds incoming).1 ∧
      (l.mergeAll seenIds (incoming.map (·.summary))).2 = (st.mergeAll seenIds incoming).2 := by
  induction incoming generalizing l st seenIds with
  | nil => exact ⟨shows_, rfl⟩
  | cons report rest inductionHypothesis =>
    have next := inductionHypothesis (shows_.mergeOne report) (st.targetId report.summary :: seenIds)
    rw [← shows_.targetId] at next
    rw [List.map_cons, Lists.mergeAll, Store.mergeAll, ← shows_.targetId]
    exact next

/-! ## The entry of a session -/

theorem existing_iff (one : OnePerKey l.sessions) {item : SessionSummary} :
    l.existing session = some item ↔ item ∈ l.sessions ∧ item.key = session.key := by
  unfold Lists.existing
  constructor
  · intro found
    have chosen := List.find?_some found
    exact ⟨List.mem_of_find?_eq_some found, matches_iff.mp chosen⟩
  · rintro ⟨member, same⟩
    cases found : l.sessions.find? (·.matches_ session) with
    | none =>
      have absent := List.find?_eq_none.mp found item member
      exact absurd (matches_iff.mpr same) absent
    | some other =>
      have chosen := List.find?_some found
      have listed := List.mem_of_find?_eq_some found
      rw [List.inj_on_of_nodup_map one listed member ((matches_iff.mp chosen).trans same.symm)]

theorem existing_key {item : SessionSummary} (found : l.existing session = some item) :
    item.key = session.key := by
  have chosen := List.find?_some found
  exact matches_iff.mp chosen

theorem preferredId_key {item : SessionSummary} (same : item.key = session.key) :
    (item.preferredId session).key = session.key := by
  unfold SessionSummary.preferredId
  split
  · rfl
  · exact same

theorem targetId_key (l : Lists R) (session : SessionSummary) :
    (l.targetId session).key = session.key := by
  unfold Lists.targetId
  split
  · rename_i item found
    exact preferredId_key (existing_key found)
  · rfl

/-! ## One session -/

/-- The stores agree about a session. -/
structure AgreeAt (key : SessionKey) (l l' : Lists R) : Prop where
  sessions : ∀ item : SessionSummary, item.key = key → (item ∈ l.sessions ↔ item ∈ l'.sessions)
  runtimes : ∀ id : SessionId, id.key = key → l.runtimes.get? id = l'.runtimes.get? id

theorem AgreeAt.refl (key : SessionKey) (l : Lists R) : AgreeAt key l l :=
  ⟨fun _ _ => Iff.rfl, fun _ _ => rfl⟩

theorem AgreeAt.symm (agree : AgreeAt key l l') : AgreeAt key l' l :=
  ⟨fun item of => (agree.sessions item of).symm, fun id of => (agree.runtimes id of).symm⟩

theorem AgreeAt.trans {l'' : Lists R} (agree : AgreeAt key l l') (further : AgreeAt key l' l'') :
    AgreeAt key l l'' :=
  ⟨fun item of => (agree.sessions item of).trans (further.sessions item of),
    fun id of => (agree.runtimes id of).trans (further.runtimes id of)⟩

theorem AgreeAt.isOpen (agree : AgreeAt key l l') {id : SessionId} (of : id.key = key) :
    l.isOpen id = l'.isOpen id := by
  unfold Lists.isOpen FiniteMap.contains
  rw [agree.runtimes id of]

theorem AgreeAt.existing (agree : AgreeAt session.key l l') (one : OnePerKey l.sessions)
    (one' : OnePerKey l'.sessions) : l.existing session = l'.existing session := by
  apply Option.ext
  intro item
  rw [existing_iff one, existing_iff one']
  constructor
  · intro held
    exact ⟨(agree.sessions item held.2).mp held.1, held.2⟩
  · intro held
    exact ⟨(agree.sessions item held.2).mpr held.1, held.2⟩

theorem onePerKey_mergeOne (one : OnePerKey l.sessions) : OnePerKey (l.mergeOne session).sessions :=
  onePerKey_upsert one

/-- A summary concerns no other session. -/
theorem agreeAt_mergeOne_other (one : OnePerKey l.sessions) (other : session.key ≠ key) :
    AgreeAt key l (l.mergeOne session) where
  sessions item of := by
    show _ ↔ item ∈ upsert session l.sessions
    rw [mem_upsert one]
    constructor
    · intro member
      exact .inr ⟨member, fun same => other (same.symm.trans of)⟩
    · rintro (rfl | ⟨member, -⟩)
      · exact absurd ((entryOf_key session l.sessions).symm.trans of) other
      · exact member
  runtimes id of := by
    unfold Lists.mergeOne
    dsimp only
    split
    · rename_i item found
      split
      · refine (get?_rekey_of_ne ?_ ?_ _).symm
        · intro same
          exact other ((existing_key found).symm.trans ((congrArg SessionId.key same).symm.trans of))
        · intro same
          have moved := preferredId_key (existing_key found)
          exact other (moved.symm.trans ((congrArg SessionId.key same).symm.trans of))
      · rfl
    · rfl

/-- What a summary does to its session depends on that session. -/
theorem AgreeAt.mergeOne (agree : AgreeAt key l l') (one : OnePerKey l.sessions)
    (one' : OnePerKey l'.sessions) : AgreeAt key (l.mergeOne session) (l'.mergeOne session) := by
  by_cases own : session.key = key
  · subst own
    have entry := agree.existing one one'
    refine ⟨?_, ?_⟩
    · intro item of
      show item ∈ upsert session l.sessions ↔ item ∈ upsert session l'.sessions
      have same : entryOf session l.sessions = entryOf session l'.sessions := by
        have found : l.sessions.find? (·.matches_ session) = l'.sessions.find? (·.matches_ session) :=
          entry
        unfold entryOf
        rw [found]
      rw [mem_upsert one, mem_upsert one', same]
      simp [of]
    · intro id of
      unfold Lists.mergeOne
      dsimp only
      rw [entry]
      split
      · rename_i item found
        split
        · exact get?_rekey_congr agree.runtimes (existing_key found) _ of
        · exact agree.runtimes id of
      · exact agree.runtimes id of
  · exact (agreeAt_mergeOne_other one own).symm.trans
      (agree.trans (agreeAt_mergeOne_other one' own))

/-! ## One batch -/

theorem onePerKey_listsMergeAll (incoming : List SessionSummary) (seenIds : List SessionId)
    (one : OnePerKey l.sessions) : OnePerKey (l.mergeAll seenIds incoming).1.sessions := by
  induction incoming generalizing l seenIds with
  | nil => exact one
  | cons session rest inductionHypothesis => exact inductionHypothesis _ (onePerKey_mergeOne one)

theorem agreeAt_mergeAll_other (incoming : List SessionSummary) (seenIds : List SessionId)
    (one : OnePerKey l.sessions) (absent : ∀ session ∈ incoming, session.key ≠ key) :
    AgreeAt key l (l.mergeAll seenIds incoming).1 ∧
      ∀ id, id.key = key → (id ∈ (l.mergeAll seenIds incoming).2 ↔ id ∈ seenIds) := by
  induction incoming generalizing l seenIds with
  | nil => exact ⟨AgreeAt.refl key l, fun _ _ => Iff.rfl⟩
  | cons session rest inductionHypothesis =>
    obtain ⟨first, later⟩ := List.forall_mem_cons.mp absent
    obtain ⟨agree, seen⟩ := inductionHypothesis (l.targetId session :: seenIds)
      (onePerKey_mergeOne one) later
    refine ⟨(agreeAt_mergeOne_other one first).trans agree, ?_⟩
    intro id of
    refine (seen id of).trans ?_
    rw [List.mem_cons, or_iff_right]
    intro same
    exact first ((targetId_key l session).symm.trans ((congrArg SessionId.key same).symm.trans of))

theorem AgreeAt.targetId (agree : AgreeAt key l l') (one : OnePerKey l.sessions)
    (one' : OnePerKey l'.sessions) (own : session.key = key) :
    l.targetId session = l'.targetId session := by
  subst own
  unfold Lists.targetId
  rw [agree.existing one one']

theorem AgreeAt.mergeAll (agree : AgreeAt key l l') (one : OnePerKey l.sessions)
    (one' : OnePerKey l'.sessions) (incoming : List SessionSummary) {seenIds seenIds' : List SessionId}
    (seen : ∀ id : SessionId, id.key = key → (id ∈ seenIds ↔ id ∈ seenIds')) :
    AgreeAt key (l.mergeAll seenIds incoming).1 (l'.mergeAll seenIds' incoming).1 ∧
      ∀ id : SessionId, id.key = key →
        (id ∈ (l.mergeAll seenIds incoming).2 ↔ id ∈ (l'.mergeAll seenIds' incoming).2) := by
  induction incoming generalizing l l' seenIds seenIds' with
  | nil => exact ⟨agree, seen⟩
  | cons session rest inductionHypothesis =>
    refine inductionHypothesis (agree.mergeOne one one') (onePerKey_mergeOne one)
      (onePerKey_mergeOne one') ?_
    intro id of
    rw [List.mem_cons, List.mem_cons, seen id of]
    by_cases own : session.key = key
    · rw [agree.targetId one one' own]
    · have apart : ∀ m : Lists R, id ≠ m.targetId session := by
        intro m same
        exact own ((targetId_key m session).symm.trans ((congrArg SessionId.key same).symm.trans of))
      rw [or_iff_right (apart l), or_iff_right (apart l')]

/-! ## One snapshot -/

variable {snapshot : DeviceSnapshot} {seenIds : List SessionId}

theorem mem_retainSeen {item : SessionSummary} : item ∈ (l.retainSeen seenIds).sessions ↔
    item ∈ l.sessions ∧ (item.id ∈ seenIds ∨ l.isOpen item.id = true) := by
  simp [Lists.retainSeen]

/-- What is removed was neither named nor open. -/
theorem removed_spec {id : SessionId}
    (removed : id ∈ (l.sessions.filter fun session =>
      session.id ∉ seenIds && !l.isOpen session.id).map (·.id)) :
    id ∉ seenIds ∧ l.isOpen id = false := by
  obtain ⟨item, member, rfl⟩ := List.mem_map.mp removed
  have tested := (List.mem_filter.mp member).2
  simpa using tested

theorem get?_filter_kept {V : Type} {record : FiniteMap SessionId V} {removed : List SessionId}
    {id : SessionId} (kept : id ∉ removed) :
    (record.filter fun id _ => id ∉ removed).get? id = record.get? id := by
  rw [FiniteMap.get?_filter]
  cases record.get? id with
  | none => rfl
  | some value => simp [kept]

/-- No runtime is removed. -/
theorem get?_runtimes_retainSeen (id : SessionId) :
    (l.retainSeen seenIds).runtimes.get? id = l.runtimes.get? id := by
  by_cases removed : id ∈ (l.sessions.filter fun session =>
      session.id ∉ seenIds && !l.isOpen session.id).map (·.id)
  · have closed := (removed_spec removed).2
    have none : l.runtimes.get? id = none := by
      simpa [Lists.isOpen, FiniteMap.contains] using closed
    show (l.runtimes.filter _).get? id = _
    rw [FiniteMap.get?_filter, none]
    rfl
  · exact get?_filter_kept removed

/-- The whole store and the list alone stay together. -/
theorem Lists.Shows.mergeSessions {st : Store} (shows_ : l.Shows st) (incoming : List Report)
    (snapshot : Bool) :
    (l.mergeSessions (incoming.map (·.summary)) snapshot).Shows (st.mergeSessions incoming snapshot) := by
  obtain ⟨merged, seen⟩ := shows_.mergeAll incoming []
  unfold Lists.mergeSessions Store.mergeSessions
  cases snapshot with
  | false => exact ⟨congrArg Store.sorted merged.sessions, merged.isOpen⟩
  | true =>
    refine ⟨?_, ?_⟩
    · show Store.sorted (_ : Lists R).sessions = Store.sorted _
      refine congrArg Store.sorted ?_
      show ((l.mergeAll [] _).1.sessions.filter _) = (st.mergeAll [] incoming).1.sessions.filter _
      rw [merged.sessions]
      refine List.filter_congr fun item _ => ?_
      rw [seen, Bool.eq_iff_iff]
      simp only [Bool.or_eq_true, decide_eq_true_eq, merged.isOpen item.id]
    · intro id
      refine Iff.trans ?_ (merged.isOpen id)
      show (((l.mergeAll [] _).1.retainSeen _).runtimes.get? id).isSome = true ↔ _
      rw [get?_runtimes_retainSeen]
      rfl

theorem AgreeAt.retainSeen (agree : AgreeAt key l l') {seenIds' : List SessionId}
    (seen : ∀ id : SessionId, id.key = key → (id ∈ seenIds ↔ id ∈ seenIds')) :
    AgreeAt key (l.retainSeen seenIds) (l'.retainSeen seenIds') where
  sessions item of := by
    rw [mem_retainSeen, mem_retainSeen, agree.sessions item of, seen item.id of, agree.isOpen of]
  runtimes id of := by
    rw [get?_runtimes_retainSeen, get?_runtimes_retainSeen, agree.runtimes id of]

theorem mem_applyTo {item : SessionSummary} : item ∈ (snapshot.applyTo l).sessions ↔
    item ∈ (l.mergeAll [] snapshot.sessions).1.sessions ∧
      (item.id ∈ (l.mergeAll [] snapshot.sessions).2 ∨
        (l.mergeAll [] snapshot.sessions).1.isOpen item.id = true) := by
  show item ∈ Store.sorted _ ↔ _
  rw [mem_sorted]
  exact mem_retainSeen

theorem onePerKey_applyTo (one : OnePerKey l.sessions) : OnePerKey (snapshot.applyTo l).sessions := by
  have merged := onePerKey_listsMergeAll snapshot.sessions [] one
  exact onePerKey_sorted (merged.sublist (List.filter_sublist.map _))

/-- Sorting changes no entry and no runtime. -/
theorem agreeAt_sorted (key : SessionKey) (l : Lists R) :
    AgreeAt key l { l with sessions := Store.sorted l.sessions } :=
  ⟨fun _ _ => mem_sorted.symm, fun _ _ => rfl⟩

theorem AgreeAt.applyTo (agree : AgreeAt key l l') (one : OnePerKey l.sessions)
    (one' : OnePerKey l'.sessions) : AgreeAt key (snapshot.applyTo l) (snapshot.applyTo l') := by
  have unseen : ∀ id : SessionId, id.key = key →
      (id ∈ ([] : List SessionId) ↔ id ∈ ([] : List SessionId)) := fun _ _ => Iff.rfl
  obtain ⟨merged, seen⟩ := agree.mergeAll one one' snapshot.sessions unseen
  exact (agreeAt_sorted key _).symm.trans ((merged.retainSeen seen).trans (agreeAt_sorted key _))

theorem not_named (snapshot : DeviceSnapshot) (apart : key.deviceId ≠ snapshot.device) :
    ∀ session ∈ snapshot.sessions, session.key ≠ key := by
  intro session member same
  exact apart (same ▸ snapshot.own session member)

/-- An entry of another device stays exactly when it is open. -/
theorem stays_iff (one : OnePerKey l.sessions) {item : SessionSummary} (member : item ∈ l.sessions)
    (apart : item.key.deviceId ≠ snapshot.device) :
    item ∈ (snapshot.applyTo l).sessions ↔ l.isOpen item.id = true := by
  obtain ⟨agree, seen⟩ := agreeAt_mergeAll_other snapshot.sessions [] one (not_named snapshot apart)
  rw [mem_applyTo, seen item.id rfl, agree.isOpen rfl]
  have listed := (agree.sessions item rfl).mp member
  simp [listed]

/-- A snapshot of another device leaves a session alone if its entry is open. -/
theorem agreeAt_applyTo_other (one : OnePerKey l.sessions) (apart : key.deviceId ≠ snapshot.device)
    (opened : ∀ item ∈ l.sessions, item.key = key → l.isOpen item.id = true) :
    AgreeAt key l (snapshot.applyTo l) := by
  obtain ⟨agree, -⟩ := agreeAt_mergeAll_other snapshot.sessions [] one (not_named snapshot apart)
  refine ⟨?_, ?_⟩
  · intro item of
    rw [mem_applyTo, ← agree.sessions item of, ← agree.isOpen of]
    constructor
    · intro member
      exact ⟨member, .inr (opened item member of)⟩
    · intro held
      exact held.1
  · intro id of
    show _ = ((l.mergeAll [] snapshot.sessions).1.retainSeen _).runtimes.get? id
    rw [get?_runtimes_retainSeen, agree.runtimes id of]

/-! ## Canonical ids -/

/-- The stores record the same under an id. -/
structure SameAt (id : SessionId) (l l' : Lists R) : Prop where
  runtimes : l'.runtimes.get? id = l.runtimes.get? id
  historyCursors : l'.historyCursors.get? id = l.historyCursors.get? id
  historyLoading : l'.historyLoading.get? id = l.historyLoading.get? id

theorem SameAt.trans {id : SessionId} {l'' : Lists R} (same : SameAt id l l')
    (further : SameAt id l' l'') : SameAt id l l'' :=
  ⟨further.runtimes.trans same.runtimes, further.historyCursors.trans same.historyCursors,
    further.historyLoading.trans same.historyLoading⟩

theorem SameAt.found {before : Lists R} (same : SameAt ⟨key, true⟩ l l') :
    Found before l' key ↔ Found before l key := by
  constructor
  · intro found
    exact ⟨fun r recorded => same.runtimes ▸ found.runtimes r recorded,
      fun c recorded => same.historyCursors ▸ found.historyCursors c recorded,
      fun b recorded => same.historyLoading ▸ found.historyLoading b recorded⟩
  · intro found
    exact ⟨fun r recorded => same.runtimes.trans (found.runtimes r recorded),
      fun c recorded => same.historyCursors.trans (found.historyCursors c recorded),
      fun b recorded => same.historyLoading.trans (found.historyLoading b recorded)⟩

/-- The entry of the session has its canonical id. -/
def Canonical (l : Lists R) (key : SessionKey) : Prop := ∃ item ∈ l.sessions, item.id = ⟨key, true⟩

theorem id_of_isUuid (canonical : session.id.isUuid = true) : session.id = ⟨session.key, true⟩ := by
  show session.id = ⟨session.id.key, true⟩
  rw [← canonical]

theorem sameAt_move_of_ne {id oldId newId : SessionId} (notOld : id ≠ oldId) (notNew : id ≠ newId) :
    SameAt id l (l.move oldId newId) :=
  ⟨get?_rekey_of_ne notOld notNew _, get?_rekey_of_ne notOld notNew _,
    get?_rekey_of_ne notOld notNew _⟩

/-- The records of a session move only where its entry gets another id. -/
theorem sameAt_mergeOne {id : SessionId}
    (unmoved : ∀ item, l.existing session = some item → item.id ≠ item.preferredId session →
      id ≠ item.id ∧ id ≠ item.preferredId session) : SameAt id l (l.mergeOne session) := by
  unfold Lists.mergeOne
  dsimp only
  split
  · rename_i item found
    split
    · rename_i moved
      obtain ⟨notOld, notNew⟩ := unmoved item found moved
      obtain ⟨runtimes, cursors, loading⟩ := sameAt_move_of_ne (l := l) notOld notNew
      exact ⟨runtimes, cursors, loading⟩
    · exact ⟨rfl, rfl, rfl⟩
  · exact ⟨rfl, rfl, rfl⟩

/-- An entry with its canonical id keeps it, and what is recorded there stays. -/
theorem canonical_mergeOne (session : SessionSummary) (one : OnePerKey l.sessions) (canonical : Canonical l key) :
    SameAt ⟨key, true⟩ l (l.mergeOne session) ∧ Canonical (l.mergeOne session) key := by
  obtain ⟨entry, listed, here⟩ := canonical
  have entryKey : entry.key = key := congrArg SessionId.key here
  by_cases own : session.key = key
  · have found : l.existing session = some entry :=
      (existing_iff one).mpr ⟨listed, entryKey.trans own.symm⟩
    have stays : entry.preferredId session = ⟨key, true⟩ := by
      unfold SessionSummary.preferredId
      split
      · rename_i uuid
        rw [id_of_isUuid uuid, own]
      · exact here
    refine ⟨sameAt_mergeOne ?_, ?_⟩
    · intro item again moved
      rw [found] at again
      cases again
      exact absurd (here.trans stays.symm) moved
    · refine ⟨entryOf session l.sessions, entry_mem one, ?_⟩
      have listed_ : l.sessions.find? (·.matches_ session) = some entry := found
      unfold entryOf
      rw [listed_]
      exact stays
  · refine ⟨sameAt_mergeOne ?_, entry, ?_, here⟩
    · intro item found _
      have itemKey := existing_key found
      refine ⟨?_, ?_⟩
      · intro same
        exact own (itemKey.symm.trans (congrArg SessionId.key same).symm)
      · intro same
        exact own ((preferredId_key itemKey).symm.trans (congrArg SessionId.key same).symm)
    · exact (mem_upsert one).mpr (.inr ⟨listed, fun same => own (same.symm.trans entryKey)⟩)

theorem canonical_mergeAll (incoming : List SessionSummary) (seenIds : List SessionId)
    (one : OnePerKey l.sessions) (canonical : Canonical l key) :
    SameAt ⟨key, true⟩ l (l.mergeAll seenIds incoming).1 := by
  induction incoming generalizing l seenIds with
  | nil => exact ⟨rfl, rfl, rfl⟩
  | cons session rest inductionHypothesis =>
    obtain ⟨same, still⟩ := canonical_mergeOne session one canonical
    exact same.trans (inductionHypothesis _ (onePerKey_mergeOne one) still)

theorem mergeAll_append (l : Lists R) (front back : List SessionSummary) (seenIds : List SessionId) :
    l.mergeAll seenIds (front ++ back) =
      (l.mergeAll seenIds front).1.mergeAll (l.mergeAll seenIds front).2 back := by
  induction front generalizing l seenIds with
  | nil => rfl
  | cons session rest inductionHypothesis => exact inductionHypothesis _ _

theorem seen_grows (incoming : List SessionSummary) {id : SessionId} (seen : id ∈ seenIds) :
    id ∈ (l.mergeAll seenIds incoming).2 := by
  induction incoming generalizing l seenIds with
  | nil => exact seen
  | cons session rest inductionHypothesis => exact inductionHypothesis (List.mem_cons_of_mem _ seen)

/-- What is recorded under an id that was seen is not removed. -/
theorem sameAt_applyTo {id : SessionId} (seen : id ∈ (l.mergeAll [] snapshot.sessions).2) :
    SameAt id (l.mergeAll [] snapshot.sessions).1 (snapshot.applyTo l) :=
  ⟨get?_filter_kept fun removed => (removed_spec removed).1 seen,
    get?_filter_kept fun removed => (removed_spec removed).1 seen,
    get?_filter_kept fun removed => (removed_spec removed).1 seen⟩

/-- A canonical summary gives the entry its id, and brings along what is recorded exactly when
the entry had the provisional id, or the same is recorded there already. -/
theorem found_mergeOne (one : OnePerKey l.sessions) (canonical : session.id.isUuid = true) :
    Found l (l.mergeOne session) session.key ↔
      (∃ item ∈ l.sessions, item.id = ⟨session.key, false⟩) ∨ Found l l session.key := by
  have chosen : session.id = ⟨session.key, true⟩ := id_of_isUuid canonical
  have preferred : ∀ item : SessionSummary, item.preferredId session = ⟨session.key, true⟩ := by
    intro item
    unfold SessionSummary.preferredId
    rw [canonical, if_pos rfl, chosen]
  by_cases provisional : ∃ item ∈ l.sessions, item.id = ⟨session.key, false⟩
  · refine iff_of_true ?_ (.inl provisional)
    obtain ⟨item, listed, here⟩ := provisional
    have own : item.key = session.key := by
      show item.id.key = session.key
      rw [here]
    have found : l.existing session = some item := (existing_iff one).mpr ⟨listed, own⟩
    have moves : l.mergeOne session =
        { l.move ⟨session.key, false⟩ ⟨session.key, true⟩ with
          sessions := upsert session l.sessions } := by
      unfold Lists.mergeOne
      rw [found]
      dsimp only
      rw [preferred, here, if_pos (by simp)]
    have apart : (⟨session.key, true⟩ : SessionId) ≠ ⟨session.key, false⟩ := by simp
    rw [moves]
    exact ⟨fun r recorded => get?_rekey_new recorded apart _,
      fun c recorded => get?_rekey_new recorded apart _,
      fun b recorded => get?_rekey_new recorded apart _⟩
  · have same : SameAt ⟨session.key, true⟩ l (l.mergeOne session) := by
      refine sameAt_mergeOne ?_
      intro item found moved
      exfalso
      obtain ⟨listed, own⟩ := (existing_iff one).mp found
      have form : item.id = ⟨session.key, item.id.isUuid⟩ := by rw [← own]; rfl
      cases uuid : item.id.isUuid with
      | true => exact moved (by rw [preferred, form, uuid])
      | false => exact provisional ⟨item, listed, by rw [form, uuid]⟩
    rw [same.found]
    simp [provisional]

/-- After a canonical summary the entry has its canonical id. -/
theorem canonical_after (one : OnePerKey l.sessions) (canonical : session.id.isUuid = true) :
    Canonical (l.mergeOne session) session.key ∧ l.targetId session = ⟨session.key, true⟩ := by
  have chosen : session.id = ⟨session.key, true⟩ := id_of_isUuid canonical
  have preferred : ∀ item : SessionSummary, item.preferredId session = ⟨session.key, true⟩ := by
    intro item
    unfold SessionSummary.preferredId
    rw [canonical, if_pos rfl, chosen]
  refine ⟨⟨entryOf session l.sessions, entry_mem one, ?_⟩, ?_⟩
  · unfold entryOf
    split
    · exact preferred _
    · exact chosen
  · unfold Lists.targetId
    split
    · exact preferred _
    · exact chosen

/-- What is found when a canonical summary was merged is found when the snapshot was applied. -/
theorem found_applyTo (one : OnePerKey l.sessions) {front back : List SessionSummary}
    (split : snapshot.sessions = front ++ session :: back) (canonical : session.id.isUuid = true) :
    Found (l.mergeAll [] front).1 (snapshot.applyTo l) session.key ↔
      (∃ item ∈ (l.mergeAll [] front).1.sessions, item.id = ⟨session.key, false⟩) ∨
        Found (l.mergeAll [] front).1 (l.mergeAll [] front).1 session.key := by
  have mid := onePerKey_listsMergeAll front [] one
  obtain ⟨entry, target⟩ := canonical_after mid canonical
  have whole : l.mergeAll [] snapshot.sessions =
      ((l.mergeAll [] front).1.mergeOne session).mergeAll
        ((l.mergeAll [] front).1.targetId session :: (l.mergeAll [] front).2) back := by
    rw [split, mergeAll_append]
    rfl
  have seen : (⟨session.key, true⟩ : SessionId) ∈ (l.mergeAll [] snapshot.sessions).2 := by
    rw [whole, target]
    exact seen_grows back List.mem_cons_self
  have rest := canonical_mergeAll back
    ((l.mergeAll [] front).1.targetId session :: (l.mergeAll [] front).2)
    (show OnePerKey ((l.mergeAll [] front).1.mergeOne session).sessions from onePerKey_mergeOne mid)
    entry
  rw [← whole] at rest
  rw [(rest.trans (sameAt_applyTo seen)).found]
  exact found_mergeOne mid canonical

/-- A snapshot keeps what it must exactly when the store meets the condition. -/
theorem keeps_iff (one : OnePerKey l.sessions) : Keeps l snapshot ↔ Meets l snapshot := by
  constructor
  · intro keeps
    refine ⟨?_, ?_⟩
    · intro item member apart
      exact (stays_iff one member apart).mp (keeps.others item member apart)
    · intro front session back split canonical
      exact (found_applyTo one split canonical).mp (keeps.found front session back split canonical)
  · intro meets
    refine ⟨?_, onePerKey_applyTo one, ?_⟩
    · intro item member apart
      exact (stays_iff one member apart).mpr (meets.open_ item member apart)
    · intro front session back split canonical
      exact (found_applyTo one split canonical).mpr
        (meets.provisional front session back split canonical)

theorem along_keeps_iff (one : OnePerKey l.sessions) (order : List DeviceSnapshot) :
    Along DeviceSnapshot.applyTo Keeps l order ↔ Along DeviceSnapshot.applyTo Meets l order := by
  constructor
  · exact Along.of_invariant (I := fun m : Lists R => OnePerKey m.sessions)
      (fun _ _ one _ => onePerKey_applyTo one) (fun _ _ one keeps => (keeps_iff one).mp keeps) one
  · exact Along.of_invariant (I := fun m : Lists R => OnePerKey m.sessions)
      (fun _ _ one _ => onePerKey_applyTo one) (fun _ _ one meets => (keeps_iff one).mpr meets) one

/-! ## In any order -/

/-- What is in the list in the end: each session is as its device's snapshot leaves it. -/
theorem agreeAt_order (key : SessionKey) {order : List DeviceSnapshot} (one : OnePerKey l.sessions)
    (distinct : (order.map (·.device)).Nodup)
    (meets : Along DeviceSnapshot.applyTo Meets l order) :
    (key.deviceId ∉ order.map (·.device) → AgreeAt key l (order.foldl DeviceSnapshot.applyTo l)) ∧
      ∀ snapshot ∈ order, snapshot.device = key.deviceId →
        AgreeAt key (snapshot.applyTo l) (order.foldl DeviceSnapshot.applyTo l) := by
  induction order generalizing l with
  | nil => exact ⟨fun _ => AgreeAt.refl key l, fun _ member => by cases member⟩
  | cons first rest inductionHypothesis =>
    obtain ⟨now, later⟩ := meets
    obtain ⟨fresh, distinctRest⟩ := List.nodup_cons.mp distinct
    obtain ⟨silent, named⟩ := inductionHypothesis (onePerKey_applyTo one) distinctRest later
    have untouched : key.deviceId ≠ first.device → AgreeAt key l (first.applyTo l) := by
      intro apart
      refine agreeAt_applyTo_other one apart ?_
      intro item member of
      exact now.open_ item member (of ▸ apart)
    refine ⟨?_, ?_⟩
    · intro absent
      rw [List.map_cons, List.mem_cons, not_or] at absent
      exact (untouched absent.1).trans (silent absent.2)
    · intro snapshot member device
      rcases List.mem_cons.mp member with rfl | inside
      · exact silent (device ▸ fresh)
      · have apart : key.deviceId ≠ first.device := by
          intro same
          exact fresh (List.mem_map.mpr ⟨snapshot, inside, device.trans same⟩)
        exact ((untouched apart).applyTo one (onePerKey_applyTo one)).trans
          (named snapshot inside device)

/-- In all orders the sessions are the same. -/
theorem sameSessions_of_meets {order other : List DeviceSnapshot} (one : OnePerKey l.sessions)
    (distinct : (order.map (·.device)).Nodup) (perm : other.Perm order)
    (meets : Along DeviceSnapshot.applyTo Meets l order)
    (meets' : Along DeviceSnapshot.applyTo Meets l other) :
    SameSessions (order.foldl DeviceSnapshot.applyTo l) (other.foldl DeviceSnapshot.applyTo l) := by
  intro item
  have distinct' : (other.map (·.device)).Nodup := (perm.map _).nodup_iff.mpr distinct
  obtain ⟨silent, named⟩ := agreeAt_order item.key one distinct meets
  obtain ⟨silent', named'⟩ := agreeAt_order item.key one distinct' meets'
  by_cases present : item.key.deviceId ∈ order.map (·.device)
  · obtain ⟨snapshot, member, device⟩ := List.mem_map.mp present
    have agree := (named snapshot member device).symm.trans
      (named' snapshot (perm.mem_iff.mpr member) device)
    exact agree.sessions item rfl
  · have absent : item.key.deviceId ∉ other.map (·.device) := by
      intro there
      exact present ((perm.map _).mem_iff.mp there)
    exact ((silent present).symm.trans (silent' absent)).sessions item rfl

/-- **List snapshots**: in whatever order the snapshots of different devices are applied, each
leaves the sessions of the others in place, one entry for each session and what was recorded
under provisional ids where it is found, and in all orders the sessions are the same, exactly
when in every order each snapshot finds the sessions of other devices open and each canonical
id an entry that still has the provisional one. -/
theorem snapshots_in_any_order (l : Lists R) (snapshots : List DeviceSnapshot)
    (one : OnePerKey l.sessions) (distinct : (snapshots.map (·.device)).Nodup) :
    InAnyOrder l snapshots ↔
      ∀ order : List DeviceSnapshot, order.Perm snapshots →
        Along DeviceSnapshot.applyTo Meets l order := by
  constructor
  · intro all order perm
    exact (along_keeps_iff one order).mp (all order perm).1
  · intro meets order perm
    refine ⟨(along_keeps_iff one order).mpr (meets order perm), ?_⟩
    intro other perm'
    exact sameSessions_of_meets one ((perm.map _).nodup_iff.mpr distinct) (perm'.trans perm.symm)
      (meets order perm) (meets other perm')

/-! ## Two devices -/

namespace TwoDevices

def fields : Fields :=
  ⟨"task", "", "", 10, .online, .fullControl, .verified, .idle, .unknown, 0, .empty, false, false, false⟩

def desk : SessionSummary := ⟨⟨⟨"desk", "CODEX_DESKTOP", "a"⟩, true⟩, fields, none, none⟩

/-- The session as it is known before the Relay has given it an id. -/
def deskProvisional : SessionSummary := { desk with id := ⟨desk.key, false⟩ }

def laptop : SessionSummary := ⟨⟨⟨"laptop", "CODEX_DESKTOP", "b"⟩, true⟩, fields, none, none⟩

def deskSnapshot : DeviceSnapshot where
  device := "desk"
  sessions := [desk]
  own := by decide

/-- Both details are open. -/
def opened : Lists Unit where
  sessions := [deskProvisional, laptop]
  runtimes := (FiniteMap.insert ∅ deskProvisional.id ⟨deskProvisional.id, ()⟩).insert laptop.id
    ⟨laptop.id, ()⟩
  historyCursors := FiniteMap.insert ∅ deskProvisional.id (some "cursor")
  historyLoading := ∅

/-- No detail is open. -/
def closed : Lists Unit := { opened with runtimes := ∅ }

theorem one : OnePerKey opened.sessions := by
  show List.Nodup _
  decide

end TwoDevices

theorem snapshots_in_any_order_opened : InAnyOrder TwoDevices.opened [TwoDevices.deskSnapshot] := by
  refine (snapshots_in_any_order TwoDevices.opened [TwoDevices.deskSnapshot] TwoDevices.one
    (by decide)).mpr ?_
  intro order perm
  rw [List.perm_singleton.mp perm]
  refine ⟨⟨by decide, ?_⟩, trivial⟩
  intro front session back split _
  have first : front = [] ∧ session = TwoDevices.desk := by
    cases front with
    | nil => exact ⟨rfl, (List.cons.inj split).1.symm⟩
    | cons other rest => simp [TwoDevices.deskSnapshot] at split
  rw [first.1, first.2]
  exact .inl ⟨TwoDevices.deskProvisional, List.mem_cons_self, rfl⟩

/-- The snapshot of one device erases the session of the other. -/
theorem snapshot_erases_other :
    ¬ ∀ (l : Lists Unit) (snapshots : List DeviceSnapshot), OnePerKey l.sessions →
      (snapshots.map (·.device)).Nodup → InAnyOrder l snapshots := by
  intro all
  obtain ⟨⟨keeps, -⟩, -⟩ := all TwoDevices.closed [TwoDevices.deskSnapshot]
    TwoDevices.one (by decide) [TwoDevices.deskSnapshot] (List.Perm.refl _)
  have listed : TwoDevices.laptop ∈ TwoDevices.closed.sessions := by decide
  have apart : TwoDevices.laptop.key.deviceId ≠ TwoDevices.deskSnapshot.device := by decide
  have stays := keeps.others TwoDevices.laptop listed apart
  exact absurd ((stays_iff (l := TwoDevices.closed) TwoDevices.one listed apart).mp stays) (by decide)

end AgentConsole.Web.Sessions
