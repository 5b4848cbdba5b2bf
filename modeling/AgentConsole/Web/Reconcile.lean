import AgentConsole.Web.Timeline

/-! # Runtime snapshots in any order

A snapshot comes from the stream or from a query with history.  `reconcileRuntimeSnapshot`
replaces the state only by a snapshot with a higher revision, and merges the timelines so that
the entries of the higher revision win.  Two fields do not follow the revision: the cursor of
the history, which only an answer with history may set, and the notice that the session is
unavailable, which any snapshot clears. -/

namespace AgentConsole.Web.Timeline

open AgentConsole.Lib Deferred

/-- A runtime; `R` stands for the fields that are taken over together. -/
structure RuntimeSnapshot (D R : Type) where
  runtimeRevision : Nat
  unavailable : Option (String × String)
  historyNextCursor : Option String
  timeline : List (TimelineItem D)
  fields : R
deriving DecidableEq, Repr

variable {D R : Type}

/-- A cursor counts as absent when it is empty. -/
def isCursor (cursor : Option String) : Bool := cursor.any (· ≠ "")

def reconcileRuntimeSnapshot (dateParse : String → Option Int)
    (current : Option (RuntimeSnapshot D R)) (incoming : RuntimeSnapshot D R)
    (historyAuthoritative : Bool) : RuntimeSnapshot D R :=
  match current with
  | none => incoming
  | some current =>
    let incomingIsStale := decide (incoming.runtimeRevision ≤ current.runtimeRevision)
    let runtime :=
      { (if incomingIsStale then current else incoming) with
        timeline :=
          if incomingIsStale then mergeTimeline dateParse incoming.timeline current.timeline
          else mergeTimeline dateParse current.timeline incoming.timeline
        unavailable := none }
    if historyAuthoritative then
      { runtime with
        historyNextCursor :=
          if isCursor incoming.historyNextCursor then incoming.historyNextCursor else none }
    else if isCursor current.historyNextCursor then
      { runtime with historyNextCursor := current.historyNextCursor }
    else runtime

/-- A snapshot with the history it was asked for. -/
structure Arrival (D R : Type) where
  snapshot : RuntimeSnapshot D R
  historyAuthoritative : Bool
deriving DecidableEq, Repr

def arrive (dateParse : String → Option Int) (current : Option (RuntimeSnapshot D R))
    (arrival : Arrival D R) : Option (RuntimeSnapshot D R) :=
  some (reconcileRuntimeSnapshot dateParse current arrival.snapshot arrival.historyAuthoritative)

/-- The runtime after all arrivals. -/
def reconciled (dateParse : String → Option Int) (arrivals : List (Arrival D R)) :
    Option (RuntimeSnapshot D R) :=
  arrivals.foldl (arrive dateParse) none

/-! ## What the runtime is made of -/

/-- The arrival with the highest revision. -/
def Arrival.IsHighest (highest : Arrival D R) (arrivals : List (Arrival D R)) : Prop :=
  highest ∈ arrivals ∧
    ∀ a ∈ arrivals, a.snapshot.runtimeRevision ≤ highest.snapshot.runtimeRevision

/-- The runtime has the revision and the fields of this snapshot, and its entries up to their
outputs. -/
structure TakenFrom (snapshot runtime : RuntimeSnapshot D R) : Prop where
  revision : runtime.runtimeRevision = snapshot.runtimeRevision
  fields : runtime.fields = snapshot.fields
  entries : ∀ item ∈ runtime.timeline, item.id ∈ snapshot.timeline.map (·.id) →
    ∃ own ∈ snapshot.timeline, own.header = item.header

/-- The timeline has the entries of all snapshots, each as in one of them. -/
structure Gathers (arrivals : List (Arrival D R)) (timeline : List (TimelineItem D)) : Prop where
  ids : ∀ id, id ∈ timeline.map (·.id) ↔
    ∃ a ∈ arrivals, id ∈ a.snapshot.timeline.map (·.id)
  entries : ∀ item ∈ timeline, ∃ a ∈ arrivals, ∃ own ∈ a.snapshot.timeline,
    own.header = item.header

/-- Each id once, in the order of time. -/
structure Listed (dateParse : String → Option Int) (timeline : List (TimelineItem D)) : Prop where
  once : (timeline.map (·.id)).Nodup
  inOrder : InOrder dateParse timeline

/-- The snapshots agree on the time of every entry, and no two entries have one time. -/
def OneTime (dateParse : String → Option Int) (arrivals : List (Arrival D R)) : Prop :=
  ∀ a ∈ arrivals, ∀ b ∈ arrivals, ∀ x ∈ a.snapshot.timeline, ∀ y ∈ b.snapshot.timeline,
    timeOf dateParse x = timeOf dateParse y ↔ x.id = y.id

/-- An empty placeholder for the output of an entry. -/
def PlaceholderFor (type : OutputType) (output : ItemOutput) (item : TimelineItem D) : Prop :=
  ∃ placeholder, item.output? = some (type, placeholder) ∧
    placeholder.shown.itemId = output.shown.itemId ∧ isPlaceholderOutput placeholder = true

/-! ## One arrival -/

section Step

variable {dateParse : String → Option Int} {current incoming : RuntimeSnapshot D R}
  {historyAuthoritative : Bool}

theorem reconcile_stale (stale : incoming.runtimeRevision ≤ current.runtimeRevision) :
    ∃ cursor, reconcileRuntimeSnapshot dateParse (some current) incoming historyAuthoritative =
      { current with
        timeline := mergeTimeline dateParse incoming.timeline current.timeline
        unavailable := none
        historyNextCursor := cursor } := by
  unfold reconcileRuntimeSnapshot
  simp only [stale, decide_true, if_true]
  split
  · exact ⟨_, rfl⟩
  · split
    · exact ⟨_, rfl⟩
    · exact ⟨_, rfl⟩

theorem reconcile_newer (newer : current.runtimeRevision < incoming.runtimeRevision) :
    ∃ cursor, reconcileRuntimeSnapshot dateParse (some current) incoming historyAuthoritative =
      { incoming with
        timeline := mergeTimeline dateParse current.timeline incoming.timeline
        unavailable := none
        historyNextCursor := cursor } := by
  unfold reconcileRuntimeSnapshot
  simp only [not_le.mpr newer, decide_false, Bool.false_eq_true, if_false]
  split
  · exact ⟨_, rfl⟩
  · split
    · exact ⟨_, rfl⟩
    · exact ⟨_, rfl⟩

/-- The timeline is merged in one of the two directions. -/
theorem reconcile_timeline :
    let runtime := reconcileRuntimeSnapshot dateParse (some current) incoming historyAuthoritative
    runtime.timeline = mergeTimeline dateParse incoming.timeline current.timeline ∨
    runtime.timeline = mergeTimeline dateParse current.timeline incoming.timeline := by
  obtain stale | newer := le_or_gt incoming.runtimeRevision current.runtimeRevision
  · obtain ⟨cursor, same⟩ :=
      @reconcile_stale D R dateParse current incoming historyAuthoritative stale
    left
    rw [same]
  · obtain ⟨cursor, same⟩ :=
      @reconcile_newer D R dateParse current incoming historyAuthoritative newer
    right
    rw [same]

theorem listed_reconcile : Listed dateParse
    (reconcileRuntimeSnapshot dateParse (some current) incoming historyAuthoritative).timeline := by
  obtain same | same :=
    @reconcile_timeline D R dateParse current incoming historyAuthoritative
  · rw [same]
    exact ⟨nodup_mergeTimeline _ _ _, inOrder_mergeTimeline _ _ _⟩
  · rw [same]
    exact ⟨nodup_mergeTimeline _ _ _, inOrder_mergeTimeline _ _ _⟩

theorem mem_ids_reconcile {id : String} : id ∈ (reconcileRuntimeSnapshot dateParse (some current)
      incoming historyAuthoritative).timeline.map (·.id) ↔
    id ∈ current.timeline.map (·.id) ∨ id ∈ incoming.timeline.map (·.id) := by
  obtain same | same :=
    @reconcile_timeline D R dateParse current incoming historyAuthoritative
  · rw [same, mem_ids_mergeTimeline, or_comm]
  · rw [same, mem_ids_mergeTimeline]

theorem reconcile_from {item : TimelineItem D} (listed : item ∈ (reconcileRuntimeSnapshot dateParse
      (some current) incoming historyAuthoritative).timeline) :
    (∃ own ∈ current.timeline, own.header = item.header) ∨
      ∃ own ∈ incoming.timeline, own.header = item.header := by
  obtain same | same :=
    @reconcile_timeline D R dateParse current incoming historyAuthoritative
  · rw [same] at listed
    obtain ⟨-, inside⟩ | own := mergeTimeline_from listed
    · exact .inr ⟨item, inside, rfl⟩
    · exact .inl own
  · rw [same] at listed
    obtain ⟨-, inside⟩ | own := mergeTimeline_from listed
    · exact .inl ⟨item, inside, rfl⟩
    · exact .inr own

/-- A stale snapshot changes nothing of what was taken from the highest one. -/
theorem TakenFrom.stale {snapshot : RuntimeSnapshot D R} (taken : TakenFrom snapshot current)
    (whole : ∀ id ∈ snapshot.timeline.map (·.id), id ∈ current.timeline.map (·.id))
    (stale : incoming.runtimeRevision ≤ current.runtimeRevision) :
    TakenFrom snapshot
      (reconcileRuntimeSnapshot dateParse (some current) incoming historyAuthoritative) := by
  obtain ⟨cursor, same⟩ :=
    @reconcile_stale D R dateParse current incoming historyAuthoritative stale
  rw [same]
  refine ⟨taken.revision, taken.fields, ?_⟩
  intro item listed inSnapshot
  obtain ⟨absent, -⟩ | ⟨own, inside, sameHeader⟩ := mergeTimeline_from listed
  · exact absurd (whole item.id inSnapshot) absent
  · rw [← id_eq_of_header sameHeader] at inSnapshot
    obtain ⟨origin, within, equal⟩ := taken.entries own inside inSnapshot
    exact ⟨origin, within, equal.trans sameHeader⟩

/-- A higher snapshot is taken over. -/
theorem takenFrom_newer (newer : current.runtimeRevision < incoming.runtimeRevision) :
    TakenFrom incoming
      (reconcileRuntimeSnapshot dateParse (some current) incoming historyAuthoritative) := by
  obtain ⟨cursor, same⟩ :=
    @reconcile_newer D R dateParse current incoming historyAuthoritative newer
  rw [same]
  refine ⟨rfl, rfl, ?_⟩
  intro item listed inSnapshot
  obtain ⟨absent, -⟩ | own := mergeTimeline_from listed
  · exact absurd inSnapshot absent
  · exact own

end Step

/-! ## Outputs are kept -/

section Live

variable {dateParse : String → Option Int} {byId : Record String (TimelineItem D)}
  {current incoming : List (TimelineItem D)} {item : TimelineItem D} {type : OutputType}
  {output : ItemOutput}

theorem not_placeholder (live : output.shown.text ≠ []) : isPlaceholderOutput output = false := by
  unfold isPlaceholderOutput
  cases shape : output.shown.text with
  | nil => exact absurd shape live
  | cons first rest => simp

/-- Placeholders leave an output that is there. -/
theorem merged_live {existing : TimelineItem D} (held : byId.get? item.id = some existing)
    (shows_ : existing.output? = some (type, output))
    (empty : ∀ own ∈ incoming, own.id = item.id → PlaceholderFor type output own) :
    ∃ kept, (incoming.foldl put byId).get? item.id = some kept ∧
      kept.output? = some (type, output) := by
  induction incoming generalizing byId existing with
  | nil => exact ⟨existing, held, shows_⟩
  | cons first rest inductionHypothesis =>
    have later := fun own inside => empty own (List.mem_cons_of_mem _ inside)
    by_cases here : first.id = item.id
    · obtain ⟨placeholder, after, sameId, isEmpty⟩ := empty first List.mem_cons_self here
      refine @inductionHypothesis _ (mergeTimelineItem existing first) ?_ ?_ later
      · rw [get?_put, if_pos here.symm, mergedWith, here, held]
      · exact mergeTimelineItem_placeholder shows_ after sameId isEmpty
    · refine @inductionHypothesis _ existing ?_ shows_ later
      rw [get?_put, if_neg (Ne.symm here)]
      exact held

/-- An entry with a text that is merged in is taken as it is. -/
theorem merged_shown (shows_ : item.output? = some (type, output)) (live : output.shown.text ≠ [])
    (listed : item ∈ incoming ∨ byId.get? item.id = some item)
    (alone : ∀ other ∈ incoming, other.id = item.id → other = item) :
    (incoming.foldl put byId).get? item.id = some item := by
  induction incoming generalizing byId with
  | nil =>
    obtain inside | held := listed
    · cases inside
    · exact held
  | cons first rest inductionHypothesis =>
    apply inductionHypothesis _ fun other inside => alone other (List.mem_cons_of_mem _ inside)
    by_cases here : first.id = item.id
    · right
      obtain rfl := alone first List.mem_cons_self here
      rw [get?_put, if_pos rfl, mergedWith]
      split
      · rw [mergeTimelineItem_shown shows_ (not_placeholder live)]
      · rfl
    · obtain inside | held := listed
      · left
        obtain rfl | later := List.mem_cons.mp inside
        · exact absurd rfl here
        · exact later
      · right
        rw [get?_put, if_neg (Ne.symm here)]
        exact held

theorem byIdOf_alone (listed : item ∈ current) (alone : ∀ other ∈ current, other.id = item.id → other = item) :
    (byIdOf current).get? item.id = some item := by
  have present : ((byIdOf current).get? item.id).isSome :=
    byIdOf_isSome.mpr (List.mem_map.mpr ⟨item, listed, rfl⟩)
  obtain ⟨found, held⟩ := Option.isSome_iff_exists.mp present
  obtain ⟨inside, sameId⟩ := get?_byIdOf held
  rw [held, alone found inside sameId]

/-- In both directions a text outlives placeholders. -/
theorem reconcile_live {runtime : RuntimeSnapshot D R} {snapshot : RuntimeSnapshot D R}
    (historyAuthoritative : Bool) (listed : item ∈ runtime.timeline)
    (alone : ∀ other ∈ runtime.timeline, other.id = item.id → other = item)
    (shows_ : item.output? = some (type, output)) (live : output.shown.text ≠ [])
    (empty : ∀ own ∈ snapshot.timeline, own.id = item.id → PlaceholderFor type output own) :
    ∃ kept ∈ (reconcileRuntimeSnapshot dateParse (some runtime) snapshot
        historyAuthoritative).timeline,
      kept.id = item.id ∧ kept.output? = some (type, output) := by
  obtain same | same :=
    @reconcile_timeline D R dateParse runtime snapshot historyAuthoritative
  · rw [same]
    exact ⟨item, mem_mergeTimeline.mpr (merged_shown shows_ live (.inl listed) alone), rfl, shows_⟩
  · rw [same]
    obtain ⟨kept, held, still⟩ := merged_live (byIdOf_alone listed alone) shows_ empty
    have sameId := keyed_merged runtime.timeline snapshot.timeline item.id kept held
    exact ⟨kept, mem_mergeTimeline.mpr (by rw [sameId]; exact held), sameId, still⟩

end Live

/-! ## All arrivals -/

section Runs

variable {dateParse : String → Option Int} {arrivals seen : List (Arrival D R)}
  {arrival : Arrival D R} {runtime : RuntimeSnapshot D R}

/-- What holds of the runtime after these arrivals. -/
structure Merged (dateParse : String → Option Int) (seen : List (Arrival D R))
    (runtime : RuntimeSnapshot D R) : Prop where
  taken : ∃ highest : Arrival D R, highest.IsHighest seen ∧
    TakenFrom highest.snapshot runtime
  gathers : Gathers seen runtime.timeline

theorem merged_first (arrival : Arrival D R) : Merged dateParse [arrival] arrival.snapshot where
  taken := by
    refine ⟨arrival, ⟨List.mem_singleton_self _, ?_⟩, rfl, rfl, fun item listed _ => ⟨item, listed, rfl⟩⟩
    intro other listed
    rw [List.mem_singleton.mp listed]
  gathers := by
    refine ⟨fun id => by simp, fun item listed => ?_⟩
    exact ⟨arrival, List.mem_singleton_self _, item, listed, rfl⟩

theorem Merged.next (merged : Merged dateParse seen runtime) :
    Merged dateParse (seen ++ [arrival])
      (reconcileRuntimeSnapshot dateParse (some runtime) arrival.snapshot
        arrival.historyAuthoritative) where
  taken := by
    obtain ⟨highest, ⟨listed, greatest⟩, taken⟩ := merged.taken
    obtain stale | newer :=
      le_or_gt arrival.snapshot.runtimeRevision runtime.runtimeRevision
    · refine ⟨highest, ⟨List.mem_append_left _ listed, ?_⟩, taken.stale ?_ stale⟩
      · intro other inside
        obtain before | last := List.mem_append.mp inside
        · exact greatest other before
        · rw [List.mem_singleton.mp last, ← taken.revision]
          exact stale
      · intro id inside
        exact (merged.gathers.ids id).mpr ⟨highest, listed, inside⟩
    · refine ⟨arrival, ⟨List.mem_append_right _ (List.mem_singleton_self _), ?_⟩,
        takenFrom_newer newer⟩
      intro other inside
      obtain before | last := List.mem_append.mp inside
      · have least := greatest other before
        rw [← taken.revision] at least
        omega
      · rw [List.mem_singleton.mp last]
  gathers := by
    refine ⟨?_, ?_⟩
    · intro id
      rw [mem_ids_reconcile, merged.gathers.ids]
      simp [or_and_right, exists_or]
    · intro item listed
      obtain ⟨own, inside, same⟩ | ⟨own, inside, same⟩ := reconcile_from listed
      · obtain ⟨a, earlier, origin, within, equal⟩ := merged.gathers.entries own inside
        exact ⟨a, List.mem_append_left _ earlier, origin, within, equal.trans same⟩
      · exact ⟨arrival, List.mem_append_right _ (List.mem_singleton_self _), own, inside, same⟩

theorem reconciled_append (dateParse : String → Option Int) (seen : List (Arrival D R))
    (arrival : Arrival D R) :
    reconciled dateParse (seen ++ [arrival]) =
      some (reconcileRuntimeSnapshot dateParse (reconciled dateParse seen) arrival.snapshot
        arrival.historyAuthoritative) := by
  unfold reconciled
  rw [List.foldl_append]
  rfl

theorem merged_reconciled (some_ : arrivals ≠ []) :
    ∃ runtime, reconciled dateParse arrivals = some runtime ∧ Merged dateParse arrivals runtime ∧
      (2 ≤ arrivals.length → Listed dateParse runtime.timeline) := by
  induction arrivals using List.reverseRecOn with
  | nil => exact absurd rfl some_
  | append_singleton seen arrival inductionHypothesis =>
    rw [reconciled_append]
    refine ⟨_, rfl, ?_⟩
    by_cases first : seen = []
    · subst first
      exact ⟨merged_first arrival, fun two => absurd two (by simp)⟩
    · obtain ⟨runtime, held, merged, -⟩ := inductionHypothesis first
      rw [held]
      exact ⟨merged.next, fun _ => listed_reconcile⟩

/-! ## The order of arrival -/

/-- Snapshots with different revisions have one highest. -/
theorem sameFields {order : List (Arrival D R)} {other : RuntimeSnapshot D R}
    {highest highest' : Arrival D R}
    (distinct : (arrivals.map (·.snapshot.runtimeRevision)).Nodup)
    (same : (order.map (·.snapshot)).Perm (arrivals.map (·.snapshot)))
    (isHighest : highest.IsHighest arrivals) (isHighest' : highest'.IsHighest order)
    (taken : TakenFrom highest.snapshot runtime) (taken' : TakenFrom highest'.snapshot other) :
    other.runtimeRevision = runtime.runtimeRevision ∧ other.fields = runtime.fields := by
  obtain ⟨own, listed, sameSnapshot⟩ :=
    List.mem_map.mp (same.mem_iff.mp (List.mem_map.mpr ⟨highest', isHighest'.1, rfl⟩))
  obtain ⟨own', listed', sameSnapshot'⟩ :=
    List.mem_map.mp (same.mem_iff.mpr (List.mem_map.mpr ⟨highest, isHighest.1, rfl⟩))
  have above := isHighest.2 own listed
  have below := isHighest'.2 own' listed'
  rw [sameSnapshot'] at below
  have equal : own = highest := by
    apply List.inj_on_of_nodup_map distinct listed isHighest.1
    rw [sameSnapshot] at above ⊢
    omega
  rw [taken.revision, taken'.revision, taken.fields, taken'.fields, ← sameSnapshot, equal]
  exact ⟨rfl, rfl⟩

theorem gathers_time {order : List (Arrival D R)} {timeline other : List (TimelineItem D)}
    (oneTime : OneTime dateParse arrivals) (gathers : Gathers arrivals timeline)
    (gathers' : Gathers order other)
    (same : (order.map (·.snapshot)).Perm (arrivals.map (·.snapshot)))
    {x y : TimelineItem D} (left : x ∈ timeline) (right : y ∈ other) :
    timeOf dateParse x = timeOf dateParse y ↔ x.id = y.id := by
  obtain ⟨a, inside, own, within, equal⟩ := gathers.entries x left
  obtain ⟨b, inside', own', within', equal'⟩ := gathers'.entries y right
  obtain ⟨b', listed, sameSnapshot⟩ :=
    List.mem_map.mp (same.mem_iff.mp (List.mem_map.mpr ⟨b, inside', rfl⟩))
  rw [← sameSnapshot] at within'
  have times := oneTime a inside b' listed own within own' within'
  have created : own.createdAt = x.createdAt := congrArg (·.2.1) equal
  have created' : own'.createdAt = y.createdAt := congrArg (·.2.1) equal'
  unfold timeOf at times ⊢
  rw [created, created', id_eq_of_header equal, id_eq_of_header equal'] at times
  exact times

/-- Two sorted timelines of the same entries have the same order. -/
theorem sameOrder {order : List (Arrival D R)} {timeline other : List (TimelineItem D)}
    (oneTime : OneTime dateParse arrivals) (gathers : Gathers arrivals timeline)
    (gathers' : Gathers order other) (listed : Listed dateParse timeline)
    (listed' : Listed dateParse other)
    (same : (order.map (·.snapshot)).Perm (arrivals.map (·.snapshot))) :
    other.map (·.id) = timeline.map (·.id) := by
  -- an id has one time, so that the ids themselves are sorted
  let at_ (id : String) (time : Int) : Prop :=
    ∃ item ∈ timeline, item.id = id ∧ timeOf dateParse item = time
  let before (left right : String) : Prop :=
    ∃ t t', at_ left t ∧ at_ right t' ∧ t ≤ t'
  have unique {left right : String} {t t' : Int} (a : at_ left t) (b : at_ right t') :
      t = t' ↔ left = right := by
    obtain ⟨x, inside, rfl, rfl⟩ := a
    obtain ⟨y, inside', rfl, rfl⟩ := b
    exact gathers_time oneTime gathers gathers (List.Perm.refl _) inside inside'
  have ids (id : String) : id ∈ other.map (·.id) ↔ id ∈ timeline.map (·.id) := by
    rw [gathers.ids, gathers'.ids]
    constructor
    · rintro ⟨a, inside, within⟩
      obtain ⟨b, listed, sameSnapshot⟩ :=
        List.mem_map.mp (same.mem_iff.mp (List.mem_map.mpr ⟨a, inside, rfl⟩))
      exact ⟨b, listed, by rw [sameSnapshot]; exact within⟩
    · rintro ⟨a, inside, within⟩
      obtain ⟨b, listed, sameSnapshot⟩ :=
        List.mem_map.mp (same.mem_iff.mpr (List.mem_map.mpr ⟨a, inside, rfl⟩))
      exact ⟨b, listed, by rw [sameSnapshot]; exact within⟩
  have mine {item : TimelineItem D} (inside : item ∈ timeline) :
      at_ item.id (timeOf dateParse item) := ⟨item, inside, rfl, rfl⟩
  have others {item : TimelineItem D} (inside : item ∈ other) :
      at_ item.id (timeOf dateParse item) := by
    obtain ⟨x, within, sameId⟩ := List.mem_map.mp ((ids item.id).mp (List.mem_map.mpr ⟨item, inside, rfl⟩))
    exact ⟨x, within, sameId,
      (gathers_time oneTime gathers gathers' same within inside).mpr sameId⟩
  have sorted : (timeline.map (·.id)).Pairwise before := by
    rw [List.pairwise_map]
    exact listed.inOrder.imp_of_mem fun left right ordered =>
      ⟨_, _, mine left, mine right, ordered⟩
  have sorted' : (other.map (·.id)).Pairwise before := by
    rw [List.pairwise_map]
    exact listed'.inOrder.imp_of_mem fun left right ordered =>
      ⟨_, _, others left, others right, ordered⟩
  apply List.Perm.eq_of_pairwise _ sorted' sorted
  · exact (List.perm_ext_iff_of_nodup listed'.once listed.once).mpr ids
  · rintro left right _ _ ⟨t, t', a, b, ordered⟩ ⟨u, u', b', a', ordered'⟩
    have first := (unique a a').mpr rfl
    have second := (unique b b').mpr rfl
    exact (unique a b).mp (by omega)

end Runs

/-- **Reconciliation in any order**: of two or more snapshots with different revisions the
runtime takes the fields and entries of the highest one, and lists the entries of all of them
once and in the order of time, which is the same for all orders of arrival if the times tell
the entries apart.  An empty placeholder never replaces a text. -/
theorem snapshots_reconciled {D R : Type} (dateParse : String → Option Int)
    (arrivals : List (Arrival D R)) (two : 2 ≤ arrivals.length)
    (distinct : (arrivals.map (·.snapshot.runtimeRevision)).Nodup) :
    (∃ runtime, reconciled dateParse arrivals = some runtime ∧
      (∃ highest : Arrival D R, highest.IsHighest arrivals ∧ TakenFrom highest.snapshot runtime) ∧
      Gathers arrivals runtime.timeline ∧ Listed dateParse runtime.timeline ∧
      ∀ order : List (Arrival D R),
        (order.map (·.snapshot)).Perm (arrivals.map (·.snapshot)) →
        ∃ other, reconciled dateParse order = some other ∧
          (other.runtimeRevision = runtime.runtimeRevision ∧ other.fields = runtime.fields) ∧
          (OneTime dateParse arrivals →
            other.timeline.map (·.id) = runtime.timeline.map (·.id))) ∧
    ∀ (runtime snapshot : RuntimeSnapshot D R) (historyAuthoritative : Bool)
      (item : TimelineItem D) (type : OutputType) (output : ItemOutput),
      item ∈ runtime.timeline → (∀ other ∈ runtime.timeline, other.id = item.id → other = item) →
      item.output? = some (type, output) → output.shown.text ≠ [] →
      (∀ own ∈ snapshot.timeline, own.id = item.id → PlaceholderFor type output own) →
      ∃ kept ∈ (reconcileRuntimeSnapshot dateParse (some runtime) snapshot
          historyAuthoritative).timeline,
        kept.id = item.id ∧ kept.output? = some (type, output) := by
  constructor
  · have some_ : arrivals ≠ [] := by
      rintro rfl
      simp at two
    obtain ⟨runtime, held, merged, listed⟩ := @merged_reconciled _ _ dateParse _ some_
    refine ⟨runtime, held, merged.taken, merged.gathers, listed two, ?_⟩
    intro order same
    have length : order.length = arrivals.length := by
      have lengths := same.length_eq
      simpa using lengths
    have some_' : order ≠ [] := by
      rintro rfl
      simp at length
      omega
    obtain ⟨other, held', merged', listed'⟩ := @merged_reconciled _ _ dateParse _ some_'
    obtain ⟨highest, isHighest, taken⟩ := merged.taken
    obtain ⟨highest', isHighest', taken'⟩ := merged'.taken
    refine ⟨other, held', sameFields distinct same isHighest isHighest' taken taken', ?_⟩
    intro oneTime
    exact sameOrder oneTime merged.gathers merged'.gathers (listed two) (listed' (by omega)) same
  · intro runtime snapshot historyAuthoritative item type output listed alone shows_ live empty
    exact reconcile_live historyAuthoritative listed alone shows_ live empty

/-! ## What depends on the order -/

def entry (id : String) (output? : Option (OutputType × ItemOutput)) : TimelineItem Unit :=
  ⟨id, "", (), output?⟩

def snapshotOf (revision : Nat) (cursor : Option String) (timeline : List (TimelineItem Unit)) :
    Arrival Unit Unit :=
  ⟨⟨revision, none, cursor, timeline, ()⟩, false⟩

/-- Two snapshots, the first of which has a cursor. -/
theorem snapshots_reconciled_two :
    ∃ runtime, reconciled (fun _ => none)
      [snapshotOf 1 (some "a") [entry "x" none], snapshotOf 2 none []] = some runtime ∧
      Listed (fun _ => none) runtime.timeline := by
  obtain ⟨runtime, held, -, -, listed, -⟩ :=
    (snapshots_reconciled (fun _ => none)
      [snapshotOf 1 (some "a") [entry "x" none], snapshotOf 2 none []] (by decide) (by decide)).1
  exact ⟨runtime, held, listed⟩

/-- The cursor is not that of the highest revision; entries without a date stand in the order of
arrival; and an entry whose text is still to be loaded replaces a text. -/
theorem snapshots_keep_cursor_and_arrival :
    (¬ ∀ (dateParse : String → Option Int) (arrivals : List (Arrival Unit Unit)),
      (arrivals.map (·.snapshot.runtimeRevision)).Nodup →
      ∀ runtime highest, reconciled dateParse arrivals = some runtime →
        Arrival.IsHighest highest arrivals →
        runtime.historyNextCursor = highest.snapshot.historyNextCursor) ∧
    (¬ ∀ (dateParse : String → Option Int) (arrivals order : List (Arrival Unit Unit)),
      (arrivals.map (·.snapshot.runtimeRevision)).Nodup → order.Perm arrivals →
      (reconciled dateParse order).map (·.timeline.map (·.id)) =
        (reconciled dateParse arrivals).map (·.timeline.map (·.id))) ∧
    ¬ ∀ (dateParse : String → Option Int) (runtime snapshot : RuntimeSnapshot Unit Unit) (item)
      (type) (output : ItemOutput), item ∈ runtime.timeline →
      item.output? = some (type, output) → output.shown.text ≠ [] →
      (∀ own ∈ snapshot.timeline, own.id = item.id →
        ∃ deferred, own.output? = some (type, deferred) ∧ deferred.shown.text = []) →
      ∃ kept ∈ (reconcileRuntimeSnapshot dateParse (some runtime) snapshot false).timeline,
        kept.id = item.id ∧ kept.output? = some (type, output) := by
  refine ⟨?_, ?_, ?_⟩
  · intro every
    have cursor := every (fun _ => none) [snapshotOf 1 (some "a") [], snapshotOf 2 none []]
      (by decide) _ (snapshotOf 2 none []) rfl (by constructor <;> decide)
    cases cursor
  · intro every
    have same := every (fun _ => none)
      [snapshotOf 1 none [entry "x" none], snapshotOf 2 none [entry "y" none],
        snapshotOf 3 none [entry "z" none]]
      [snapshotOf 1 none [entry "x" none], snapshotOf 3 none [entry "z" none],
        snapshotOf 2 none [entry "y" none]]
      (by decide) ((List.Perm.swap _ _ _).cons _)
    revert same
    decide +kernel
  · intro every
    let live : ItemOutput := ⟨{ itemId := "x", text := ['a'], byteLength := 1 }, none⟩
    let deferred : ItemOutput :=
      ⟨{ itemId := "x", byteLength := 2, authority := .authoritativeFinal }, some .deferred⟩
    obtain ⟨kept, listed, -, shows_⟩ := every (fun _ => none)
      (snapshotOf 1 none [entry "x" (some (.command, live))]).snapshot
      (snapshotOf 2 none [entry "x" (some (.command, deferred))]).snapshot
      (entry "x" (some (.command, live))) .command live (List.mem_singleton_self _) rfl (by decide)
      (by
        intro own listed _
        rw [List.mem_singleton.mp listed]
        exact ⟨deferred, rfl, rfl⟩)
    revert kept
    decide +kernel

end AgentConsole.Web.Timeline
