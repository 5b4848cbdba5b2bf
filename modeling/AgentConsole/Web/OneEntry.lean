import AgentConsole.Web.OutputEntries

/-! # One entry for each output

As long as what arrives fits the timeline, every output that events have come for has one
entry, and it shows what `reduceOutput` makes of these events.  The entry that the store makes
for an unknown item does not fit the item's own entry, which has another id. -/

namespace AgentConsole.Web.Timeline

open AgentConsole.Lib Deferred

variable {D R : Type}

/-- What the events make of an output. -/
def outputOf (received : List OutputEvent) (itemId : String) : OutputState :=
  received.foldl reduceOutput (placeholder itemId)

/-- The output that the entry shows is that of the events. -/
def TimelineItem.Folds (received : List OutputEvent) (item : TimelineItem D) : Prop :=
  ∀ type output, item.output? = some (type, output) →
    output.shown = outputOf received output.shown.itemId

/-- At most one entry carries an output, and it shows what the events made of it. -/
def SessionStore.OnePerOutput (st : SessionStore D R) : Prop :=
  ∀ runtime, st.runtime = some runtime →
    (runtime.timeline.filterMap (·.outputId?)).Nodup ∧
      ∀ item ∈ runtime.timeline, item.Folds st.received

/-! ## What fits -/

/-- An output for which nothing has come, as the transport makes it. -/
def TimelineItem.Fresh (item : TimelineItem D) : Prop :=
  ∀ type output, item.output? = some (type, output) →
    output = ⟨placeholder output.shown.itemId, none⟩

/-- Entries that can be merged into a timeline: their outputs are empty, an id stands for one
type and output, and an output stands under one id. -/
structure Fits (timeline items : List (TimelineItem D)) : Prop where
  fresh : ∀ item ∈ items, item.Fresh
  sameOutput : ∀ a ∈ timeline ++ items, ∀ b ∈ timeline ++ items, a.id = b.id →
    a.outputKey = b.outputKey
  sameEntry : ∀ a ∈ timeline ++ items, ∀ b ∈ timeline ++ items, ∀ itemId,
    a.outputId? = some itemId → b.outputId? = some itemId → a.id = b.id

/-- No other entry has the id of the one that the store makes for the item. -/
def Free (itemId : String) (items : List (TimelineItem D)) : Prop :=
  ∀ item ∈ items, item.id = "output-" ++ itemId → item.outputId? = some itemId

/-- A stale snapshot has no entry for an output that is empty and was touched. -/
def Untouched (timeline items : List (TimelineItem D)) : Prop :=
  ∀ x ∈ timeline, x.id ∈ items.map (·.id) → ∀ type output, x.output? = some (type, output) →
    isPlaceholderOutput output = true → output.shown = placeholder output.shown.itemId

/-- A cursor that sets no length in advance. -/
def Plain (received : List OutputEvent) (items : List (TimelineItem D)) (cursor : OutputCursor) :
    Prop :=
  Free cursor.itemId items ∧
    shouldHydrateFinalOutput (outputOf received cursor.itemId) cursor = false

/-- The condition on what arrives. -/
def SessionStore.Regular (c : Client D R) (st : SessionStore D R) : Input D R → Prop
  | .output event => ∃ runtime, st.runtime = some runtime ∧ Free event.itemId runtime.timeline
  | .upsert item => ∀ runtime, st.runtime = some runtime → Fits runtime.timeline [item]
  | .page items => ∀ runtime, st.runtime = some runtime → Fits runtime.timeline items ∧
      ((unknownOf runtime.timeline items).map (·.id)).Nodup
  | .snapshot snapshot includeHistory =>
    match st.runtime with
    | none => Fits [] snapshot.timeline ∧ (snapshot.timeline.map (·.id)).Nodup ∧
        (includeHistory = true → ∀ cursor ∈ c.cursorsOf snapshot.fields,
          Plain st.received snapshot.timeline cursor)
    | some runtime =>
      Fits runtime.timeline snapshot.timeline ∧
        (snapshot.runtimeRevision ≤ runtime.runtimeRevision →
          Untouched runtime.timeline snapshot.timeline) ∧
        (includeHistory = true →
          ∀ cursor ∈ c.cursorsOf (if snapshot.runtimeRevision ≤ runtime.runtimeRevision then
              runtime.fields else snapshot.fields),
            Plain st.received (runtime.timeline ++ snapshot.timeline) cursor)

/-! ## The invariant -/

/-- Every output that events have come for has one entry, which shows them. -/
structure Whole (received : List OutputEvent) (timeline : List (TimelineItem D)) : Prop where
  ids : (timeline.map (·.id)).Nodup
  single : ∀ a ∈ timeline, ∀ b ∈ timeline, ∀ itemId, a.outputId? = some itemId →
    b.outputId? = some itemId → a.id = b.id
  folds : ∀ item ∈ timeline, item.Folds received
  kept : ∀ event ∈ received, ∃ item ∈ timeline, item.outputId? = some event.itemId

section Whole

variable {received : List OutputEvent} {timeline items : List (TimelineItem D)}
  {item x : TimelineItem D} {itemId : String}

/-- Without events the output is empty. -/
theorem outputOf_of_none (none_ : ∀ event ∈ received, event.itemId ≠ itemId) :
    outputOf received itemId = placeholder itemId := by
  unfold outputOf
  induction received with
  | nil => rfl
  | cons event rest inductionHypothesis =>
    have other : reduceOutput (placeholder itemId) event = placeholder itemId := by
      unfold reduceOutput
      exact if_pos (none_ event List.mem_cons_self)
    rw [List.foldl_cons, other]
    exact inductionHypothesis fun event inside => none_ event (List.mem_cons_of_mem _ inside)

theorem eq_of_id (nodup : (timeline.map (·.id)).Nodup) (left : item ∈ timeline) (right : x ∈ timeline)
    (same : item.id = x.id) : item = x := List.inj_on_of_nodup_map nodup left right same

theorem id_eq_of_shape {a b : TimelineItem D} (same : a.shape = b.shape) : a.id = b.id :=
  congrArg Prod.fst same

theorem TimelineItem.Folds.of_shape {a b : TimelineItem D} (folds : a.Folds received) (same : a.shape = b.shape) :
    b.Folds received := by
  intro type output shows_
  have second : a.output?.map (fun shown => (shown.1, shown.2.shown)) = some (type, output.shown) := by
    have shown := congrArg Prod.snd same
    simpa [TimelineItem.shape, shows_] using shown
  obtain ⟨⟨type', output'⟩, shows', equal⟩ := Option.map_eq_some_iff.mp second
  have sameShown : output'.shown = output.shown := congrArg Prod.snd equal
  rw [← sameShown]
  exact folds type' output' shows'

/-- The invariant is about shapes only. -/
theorem Whole.of_shapes {timeline' : List (TimelineItem D)} (whole : Whole received timeline)
    (same : timeline'.map (·.shape) = timeline.map (·.shape)) : Whole received timeline' := by
  have origin {item : TimelineItem D} (listed : item ∈ timeline') :
      ∃ own ∈ timeline, own.shape = item.shape := by
    have inside : item.shape ∈ timeline.map (·.shape) := by
      rw [← same]
      exact List.mem_map.mpr ⟨item, listed, rfl⟩
    exact List.mem_map.mp inside
  refine ⟨?_, ?_, ?_, ?_⟩
  · have ids := congrArg (List.map Prod.fst) same
    rw [List.map_map, List.map_map] at ids
    have equal : timeline'.map (·.id) = timeline.map (·.id) := ids
    rw [equal]
    exact whole.ids
  · intro a left b right itemId carries carries'
    obtain ⟨own, listed, shape⟩ := origin left
    obtain ⟨own', listed', shape'⟩ := origin right
    rw [← outputId?_of_shape shape] at carries
    rw [← outputId?_of_shape shape'] at carries'
    rw [← id_eq_of_shape shape, ← id_eq_of_shape shape']
    exact whole.single own listed own' listed' itemId carries carries'
  · intro item listed
    obtain ⟨own, inside, shape⟩ := origin listed
    exact (whole.folds own inside).of_shape shape
  · intro event inside
    obtain ⟨own, listed, carries⟩ := whole.kept event inside
    have there : own.shape ∈ timeline'.map (·.shape) := by
      rw [same]
      exact List.mem_map.mpr ⟨own, listed, rfl⟩
    obtain ⟨item, listed', shape⟩ := List.mem_map.mp there
    exact ⟨item, listed', (outputId?_of_shape shape).trans carries⟩

/-- Merging what fits: each entry has the shape it had, or is new and empty. -/
theorem Whole.merged {timeline' : List (TimelineItem D)} (whole : Whole received timeline)
    (fits : Fits timeline items) (nodup : (timeline'.map (·.id)).Nodup)
    (all : ∀ x ∈ timeline, x.id ∈ timeline'.map (·.id))
    (source : ∀ item ∈ timeline', ∃ own ∈ timeline ++ items, own.header = item.header)
    (shapes : ∀ item ∈ timeline', (∃ x ∈ timeline, x.shape = item.shape) ∨
      (item.id ∉ timeline.map (·.id) ∧ item.Folds [])) : Whole received timeline' := by
  have carried {item : TimelineItem D} (listed : item ∈ timeline') :
      ∃ own ∈ timeline ++ items, own.id = item.id ∧ own.outputId? = item.outputId? := by
    obtain ⟨own, inside, same⟩ := source item listed
    refine ⟨own, inside, id_eq_of_header same, ?_⟩
    rw [outputId?_eq_outputKey, outputId?_eq_outputKey, outputKey_eq_of_header same]
  refine ⟨nodup, ?_, ?_, ?_⟩
  · intro a left b right itemId carries carries'
    obtain ⟨own, listed, sameId, sameOutput⟩ := carried left
    obtain ⟨own', listed', sameId', sameOutput'⟩ := carried right
    rw [← sameId, ← sameId']
    exact fits.sameEntry own listed own' listed' itemId (sameOutput.trans carries)
      (sameOutput'.trans carries')
  · intro item listed
    obtain ⟨x, inside, shape⟩ | ⟨new, empty⟩ := shapes item listed
    · exact (whole.folds x inside).of_shape shape
    · -- no event has come for a new entry: it would have had one already
      intro type output shows_
      have unset : output.shown = placeholder output.shown.itemId := empty type output shows_
      have carries : item.outputId? = some output.shown.itemId := by
        simp [TimelineItem.outputId?, shows_]
      have none_ : ∀ event ∈ received, event.itemId ≠ output.shown.itemId := by
        intro event inside same
        obtain ⟨x, listed', carries'⟩ := whole.kept event inside
        obtain ⟨own, listed'', sameId, sameOutput⟩ := carried listed
        have equal := fits.sameEntry own listed'' x (List.mem_append_left _ listed') event.itemId
          (by rw [sameOutput, carries, same]) carries'
        exact new (List.mem_map.mpr ⟨x, listed', by rw [← equal, sameId]⟩)
      exact unset.trans (outputOf_of_none none_).symm
  · intro event inside
    obtain ⟨x, listed, carries⟩ := whole.kept event inside
    obtain ⟨item, listed', sameId⟩ := List.mem_map.mp (all x listed)
    obtain ⟨y, inside', shape⟩ | ⟨new, -⟩ := shapes item listed'
    · have equal : y = x := eq_of_id whole.ids inside' listed ((id_eq_of_shape shape).trans sameId)
      rw [equal] at shape
      exact ⟨item, listed', (outputId?_of_shape shape).symm.trans carries⟩
    · exact absurd (List.mem_map.mpr ⟨x, listed, sameId.symm⟩) new

end Whole

/-! ## Merging in both directions -/

section Merge

variable {dateParse : String → Option Int} {byId : Record String (TimelineItem D)}
  {current incoming : List (TimelineItem D)} {item x existing : TimelineItem D} {id : String}

theorem TimelineItem.Fresh.folds (fresh : item.Fresh) : item.Folds [] :=
  fun type output shows_ => congrArg ItemOutput.shown (fresh type output shows_)

theorem TimelineItem.Fresh.isPlaceholder {type : OutputType} {output : ItemOutput}
    (fresh : item.Fresh) (shows_ : item.output? = some (type, output)) :
    isPlaceholderOutput output = true := by
  rw [fresh type output shows_]
  rfl

/-- An empty entry of the same output leaves what the entry shows. -/
theorem mergeTimelineItem_shape (fresh : item.Fresh) (sameOutput : existing.outputKey = item.outputKey)
    (sameId : existing.id = item.id) : (mergeTimelineItem existing item).shape = existing.shape := by
  have id : (mergeTimelineItem existing item).id = existing.id :=
    (id_eq_of_header (mergeTimelineItem_header existing item)).trans sameId.symm
  have key := outputKey_eq_of_header (mergeTimelineItem_header existing item)
  cases before : existing.output? with
  | none =>
    have none_ : (mergeTimelineItem existing item).output? = none := by
      rw [← sameOutput] at key
      simpa [TimelineItem.outputKey, before] using key
    simp [TimelineItem.shape, id, before, none_]
  | some shown =>
    obtain ⟨type, output⟩ := shown
    have after : item.outputKey = some (type, output.shown.itemId) := by
      rw [← sameOutput, TimelineItem.outputKey, before]
      rfl
    obtain ⟨⟨type', placeholder⟩, shows_, equal⟩ := Option.map_eq_some_iff.mp after
    have sameType : type' = type := congrArg Prod.fst equal
    have sameItem : placeholder.shown.itemId = output.shown.itemId := congrArg Prod.snd equal
    subst sameType
    have kept := mergeTimelineItem_placeholder before shows_ sameItem (fresh.isPlaceholder shows_)
    simp [TimelineItem.shape, id, before, kept]

/-- Empty entries that are merged in leave the shapes that are there. -/
theorem merged_fresh (keyed : Keyed byId) (fresh : ∀ own ∈ incoming, own.Fresh)
    (before : ∀ own ∈ incoming, ∀ e, byId.get? own.id = some e → e.outputKey = own.outputKey)
    (within : ∀ a ∈ incoming, ∀ b ∈ incoming, a.id = b.id → a.outputKey = b.outputKey)
    (held : (incoming.foldl put byId).get? id = some item) :
    (∃ x, byId.get? id = some x ∧ x.shape = item.shape) ∨
      (byId.get? id = none ∧ item.Folds []) := by
  induction incoming generalizing byId with
  | nil => exact .inl ⟨item, held, rfl⟩
  | cons first rest inductionHypothesis =>
    have key : (mergedWith byId first).outputKey = first.outputKey :=
      outputKey_eq_of_header (mergedWith_header byId first)
    have later := inductionHypothesis (keyed.put first)
      (fun own inside => fresh own (List.mem_cons_of_mem _ inside)) ?_
      (fun a left b right => within a (List.mem_cons_of_mem _ left) b (List.mem_cons_of_mem _ right))
      held
    · rw [get?_put] at later
      by_cases here : id = first.id
      · rw [if_pos here] at later
        obtain ⟨x, same, shape⟩ | ⟨none_, -⟩ := later
        · cases same
          -- the first entry with the id decides
          cases found : byId.get? first.id with
          | none =>
            right
            have itself : mergedWith byId first = first := by rw [mergedWith, found]
            rw [itself] at shape
            exact ⟨by rw [here, found], (fresh first List.mem_cons_self).folds.of_shape shape⟩
          | some existing =>
            left
            have merged : mergedWith byId first = mergeTimelineItem existing first := by
              rw [mergedWith, found]
            rw [merged] at shape
            refine ⟨existing, by rw [here, found], ?_⟩
            rw [← shape]
            exact (mergeTimelineItem_shape (fresh first List.mem_cons_self)
              (before first List.mem_cons_self existing found) (keyed _ _ found)).symm
        · cases none_
      · rw [if_neg here] at later
        exact later
    · intro own inside e found
      rw [get?_put] at found
      split at found
      · rename_i same
        cases found
        rw [key]
        exact within first List.mem_cons_self own (List.mem_cons_of_mem _ inside) same.symm
      · exact before own (List.mem_cons_of_mem _ inside) e found

theorem mergeTimeline_newer (fits : Fits current incoming)
    (listed : item ∈ mergeTimeline dateParse current incoming) :
    (∃ x ∈ current, x.shape = item.shape) ∨
      (item.id ∉ current.map (·.id) ∧ item.Folds []) := by
  have before : ∀ own ∈ incoming, ∀ e, (byIdOf current).get? own.id = some e →
      e.outputKey = own.outputKey := by
    intro own inside e found
    obtain ⟨there, sameId⟩ := get?_byIdOf found
    exact fits.sameOutput e (List.mem_append_left _ there) own (List.mem_append_right _ inside) sameId
  have within : ∀ a ∈ incoming, ∀ b ∈ incoming, a.id = b.id → a.outputKey = b.outputKey :=
    fun a left b right =>
      fits.sameOutput a (List.mem_append_right _ left) b (List.mem_append_right _ right)
  obtain ⟨x, held, shape⟩ | ⟨none_, empty⟩ := merged_fresh (keyed_byIdOf current) fits.fresh
    before within (mem_mergeTimeline.mp listed)
  · exact .inl ⟨x, (get?_byIdOf held).1, shape⟩
  · right
    refine ⟨fun inside => ?_, empty⟩
    have present := byIdOf_isSome.mpr inside
    rw [none_] at present
    cases present

theorem get?_foldl_put_other (absent : id ∉ incoming.map (·.id)) :
    (incoming.foldl put byId).get? id = byId.get? id := by
  induction incoming generalizing byId with
  | nil => rfl
  | cons first rest inductionHypothesis =>
    rw [List.map_cons, List.mem_cons, not_or] at absent
    rw [List.foldl_cons, inductionHypothesis absent.2, get?_put, if_neg absent.1]

/-- An entry that is merged in once. -/
theorem merged_once (nodup : (incoming.map (·.id)).Nodup) (inside : x ∈ incoming) :
    (incoming.foldl put byId).get? x.id = some (mergedWith byId x) := by
  induction incoming generalizing byId with
  | nil => cases inside
  | cons first rest inductionHypothesis =>
    rw [List.map_cons, List.nodup_cons] at nodup
    rw [List.foldl_cons]
    obtain rfl | later := List.mem_cons.mp inside
    · rw [get?_foldl_put_other nodup.1, get?_put, if_pos rfl]
    · have other : x.id ≠ first.id := fun same =>
        nodup.1 (List.mem_map.mpr ⟨x, later, same⟩)
      rw [inductionHypothesis nodup.2 later, mergedWith, mergedWith, get?_put, if_neg other]

theorem mergeTimeline_stale (fits : Fits current incoming) (untouched : Untouched current incoming)
    (nodup : (current.map (·.id)).Nodup)
    (listed : item ∈ mergeTimeline dateParse incoming current) :
    (∃ x ∈ current, x.shape = item.shape) ∨
      (item.id ∉ current.map (·.id) ∧ item.Folds []) := by
  obtain ⟨absent, inside⟩ | ⟨own, inside, same⟩ := mergeTimeline_from listed
  · exact .inr ⟨absent, (fits.fresh item inside).folds⟩
  · left
    refine ⟨own, inside, ?_⟩
    have held := mem_mergeTimeline.mp listed
    rw [← id_eq_of_header same, merged_once nodup inside] at held
    cases held
    cases found : (byIdOf incoming).get? own.id with
    | none => rw [mergedWith, found]
    | some existing =>
      rw [mergedWith, found]
      dsimp only
      obtain ⟨there, sameId⟩ := get?_byIdOf found
      obtain equal | ⟨type, shown, touched, before, after, sameOutput, empty, equal⟩ :=
        mergeTimelineItem_cases existing own
      · rw [equal]
      · -- two empty outputs, both as at the beginning
        have unset := untouched own inside (List.mem_map.mpr ⟨existing, there, sameId⟩) type touched
          after empty
        have fresh := congrArg ItemOutput.shown (fits.fresh existing there type shown before)
        rw [equal]
        simp only [TimelineItem.shape, after, Option.map_some, Prod.mk.injEq, true_and,
          Option.some.injEq]
        rw [unset, fresh, sameOutput]

end Merge

end AgentConsole.Web.Timeline
