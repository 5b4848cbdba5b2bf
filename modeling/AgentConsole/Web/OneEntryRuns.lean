import AgentConsole.Web.OneEntry

/-! # Runs with one entry for each output

Output events and cursors keep the invariant, and so does every regular step of the store.  An
event that comes before the entry of its item is followed by an entry that does not fit. -/

namespace AgentConsole.Web.Timeline

open AgentConsole.Lib Deferred

variable {D R : Type}

/-! ## Events and cursors -/

section Events

variable {received : List OutputEvent} {timeline : List (TimelineItem D)} {itemId : String}
  {texts : Texts D} {event : OutputEvent} {cursor : OutputCursor}

theorem mem_ensureEntry (itemId : String) (detail : D) (timeline : List (TimelineItem D)) :
    ∃ item ∈ ensureEntry itemId detail timeline, item.outputId? = some itemId := by
  unfold ensureEntry
  split
  · rename_i present
    obtain ⟨item, inside, carries⟩ := List.any_eq_true.mp present
    exact ⟨item, inside, of_decide_eq_true carries⟩
  · exact ⟨placeholderEntry itemId detail, List.mem_append_right _ (List.mem_singleton_self _), rfl⟩

/-- An entry is made for an item that has none. -/
theorem ensureEntry_cases (itemId : String) (detail : D) (timeline : List (TimelineItem D)) :
    ensureEntry itemId detail timeline = timeline ∨
      (∀ item ∈ timeline, item.outputId? ≠ some itemId) ∧
        ensureEntry itemId detail timeline = timeline ++ [placeholderEntry itemId detail] := by
  unfold ensureEntry
  split
  · exact .inl rfl
  · rename_i absent
    right
    refine ⟨fun item inside carries => absent ?_, rfl⟩
    exact List.any_eq_true.mpr ⟨item, inside, decide_eq_true carries⟩

theorem Whole.ensure (whole : Whole received timeline) (free : Free itemId timeline) (detail : D) :
    Whole received (ensureEntry itemId detail timeline) := by
  obtain same | ⟨absent, same⟩ := ensureEntry_cases itemId detail timeline
  · rw [same]
    exact whole
  · rw [same]
    have carried : (placeholderEntry itemId detail).outputId? = some itemId := rfl
    refine ⟨?_, ?_, ?_, ?_⟩
    · rw [List.map_append, List.map_singleton]
      apply whole.ids.append (List.nodup_singleton _)
      intro id inside same
      obtain ⟨item, listed, rfl⟩ := List.mem_map.mp inside
      exact absent item listed (free item listed (List.mem_singleton.mp same))
    · intro a left b right other carries carries'
      obtain left | left := List.mem_append.mp left
      · obtain right | right := List.mem_append.mp right
        · exact whole.single a left b right other carries carries'
        · rw [List.mem_singleton.mp right, carried] at carries'
          cases carries'
          exact absurd carries (absent a left)
      · rw [List.mem_singleton.mp left] at carries ⊢
        obtain right | right := List.mem_append.mp right
        · rw [carried] at carries
          cases carries
          exact absurd carries' (absent b right)
        · rw [List.mem_singleton.mp right]
    · intro item listed
      obtain before | new := List.mem_append.mp listed
      · exact whole.folds item before
      · rw [List.mem_singleton.mp new]
        intro type output shows_
        cases shows_
        have none_ : ∀ event ∈ received, event.itemId ≠ itemId := by
          intro event inside same
          obtain ⟨item, listed, carries⟩ := whole.kept event inside
          exact absent item listed (carries.trans (congrArg some same))
        exact (outputOf_of_none none_).symm
    · intro event inside
      obtain ⟨item, listed, carries⟩ := whole.kept event inside
      exact ⟨item, List.mem_append_left _ listed, carries⟩

theorem reduce_outputId? (event : OutputEvent) (item : TimelineItem D) :
    (reduceTimelineOutput event item).outputId? = item.outputId? := by
  simp [reduceTimelineOutput, TimelineItem.mapOutput, TimelineItem.outputId?, Function.comp_def]

/-- An event counts for every entry of its item. -/
theorem Whole.reduce (whole : Whole received timeline)
    (present : ∃ item ∈ timeline, item.outputId? = some event.itemId) :
    Whole (received ++ [event]) (timeline.map (reduceTimelineOutput event)) := by
  have ids : (timeline.map (reduceTimelineOutput event)).map (·.id) = timeline.map (·.id) := by
    rw [List.map_map]
    rfl
  have carried {k : String} {item : TimelineItem D} (inside : item ∈ timeline)
      (carries : item.outputId? = some k) :
      ∃ item ∈ timeline.map (reduceTimelineOutput event), item.outputId? = some k :=
    ⟨_, List.mem_map.mpr ⟨item, inside, rfl⟩, (reduce_outputId? event item).trans carries⟩
  refine ⟨by rw [ids]; exact whole.ids, ?_, ?_, ?_⟩
  · intro a left b right itemId carries carries'
    obtain ⟨x, inside, rfl⟩ := List.mem_map.mp left
    obtain ⟨y, inside', rfl⟩ := List.mem_map.mp right
    rw [reduce_outputId?] at carries carries'
    exact whole.single x inside y inside' itemId carries carries'
  · intro item listed type output shows_
    obtain ⟨x, inside, rfl⟩ := List.mem_map.mp listed
    obtain ⟨⟨type', old⟩, before, equal⟩ := Option.map_eq_some_iff.mp shows_
    cases equal
    have folded := whole.folds x inside type' old before
    have after : outputOf (received ++ [event]) old.shown.itemId =
        reduceOutput (outputOf received old.shown.itemId) event := by
      unfold outputOf
      rw [List.foldl_append]
      rfl
    show reduceOutput old.shown event = outputOf (received ++ [event]) (reduceOutput old.shown event).itemId
    rw [reduceOutput_itemId, after, ← folded]
  · intro other inside
    obtain before | new := List.mem_append.mp inside
    · obtain ⟨x, listed, carries⟩ := whole.kept other before
      exact carried listed carries
    · rw [List.mem_singleton.mp new]
      obtain ⟨x, listed, carries⟩ := present
      exact carried listed carries

theorem Whole.handleOutput (whole : Whole received timeline) (free : Free event.itemId timeline) :
    Whole (received ++ [event]) (handleOutput texts timeline event) := by
  have ensured := whole.ensure free (texts.ofEvent event)
  exact (ensured.reduce (mem_ensureEntry _ _ _)).of_shapes (handleOutput_shapes texts timeline event)

theorem Free.of_shapes {timeline' : List (TimelineItem D)} (free : Free itemId timeline)
    (same : timeline'.map (·.shape) = timeline.map (·.shape)) : Free itemId timeline' := by
  intro item listed named
  have there : item.shape ∈ timeline.map (·.shape) := by
    rw [← same]
    exact List.mem_map.mpr ⟨item, listed, rfl⟩
  obtain ⟨own, inside, shape⟩ := List.mem_map.mp there
  rw [← outputId?_of_shape shape]
  exact free own inside ((id_eq_of_shape shape).trans named)

theorem Free.ensure (free : Free itemId timeline) (other : String) (detail : D) :
    Free itemId (ensureEntry other detail timeline) := by
  obtain same | ⟨-, same⟩ := ensureEntry_cases other detail timeline
  · rw [same]
    exact free
  · rw [same]
    intro item listed named
    obtain before | new := List.mem_append.mp listed
    · exact free item before named
    · rw [List.mem_singleton.mp new] at named ⊢
      have equal : other = itemId := String.append_right_inj _ |>.mp named
      rw [equal]
      rfl

/-- A cursor that does not hydrate leaves the shapes. -/
theorem prepareOutput_shapes (whole : Whole received timeline)
    (plain : Plain received timeline cursor) :
    (prepareOutput texts timeline cursor).map (·.shape) =
      (ensureEntry cursor.itemId (texts.ofCursor cursor) timeline).map (·.shape) := by
  have ensured := whole.ensure plain.1 (texts.ofCursor cursor)
  apply updateFirst_shapes
  intro item listed type output shows_ carries
  have folded := ensured.folds item listed type output shows_
  rw [carries] at folded
  unfold ItemOutput.prepare
  rw [if_neg (not_not_intro carries.symm), folded, plain.2, if_pos (show (!false) = true from rfl)]
  exact folded

theorem Whole.prepare {cursors : List OutputCursor} (whole : Whole received timeline)
    (plain : ∀ cursor ∈ cursors, Plain received timeline cursor) :
    Whole received (prepareDeferredOutputs texts cursors timeline) := by
  unfold prepareDeferredOutputs
  induction cursors generalizing timeline with
  | nil => exact whole
  | cons cursor rest inductionHypothesis =>
    have first := plain cursor List.mem_cons_self
    have shapes := @prepareOutput_shapes D received timeline texts cursor whole first
    apply inductionHypothesis ((whole.ensure first.1 _).of_shapes shapes)
    intro other inside
    obtain ⟨free, same⟩ := plain other (List.mem_cons_of_mem _ inside)
    exact ⟨(free.ensure cursor.itemId _).of_shapes shapes, same⟩

end Events

/-! ## Runs -/

namespace SessionStore

variable {c : Client D R} {st : SessionStore D R} {input : Input D R}

/-- Before the first snapshot no event is taken. -/
def Inv (st : SessionStore D R) : Prop :=
  match st.runtime with
  | none => st.received = []
  | some runtime => Whole st.received runtime.timeline

theorem inv_none (none_ : st.runtime = none) : st.Inv ↔ st.received = [] := by
  unfold Inv
  rw [none_]

theorem inv_some {runtime : RuntimeSnapshot D R} (held : st.runtime = some runtime) :
    st.Inv ↔ Whole st.received runtime.timeline := by
  unfold Inv
  rw [held]

theorem inv_change {f : List (TimelineItem D) → List (TimelineItem D)} (inv : st.Inv)
    (whole : ∀ runtime, st.runtime = some runtime → Whole st.received runtime.timeline →
      Whole st.received (f runtime.timeline)) : (st.change f).Inv := by
  cases held : st.runtime with
  | none =>
    have none_ : (st.change f).runtime = none := by simp [change, held]
    exact (inv_none none_).mpr ((inv_none held).mp inv)
  | some runtime =>
    have after : (st.change f).runtime = some { runtime with timeline := f runtime.timeline } := by
      simp [change, held]
    exact (inv_some after).mpr (whole runtime held ((inv_some held).mp inv))

theorem whole_page {timeline items : List (TimelineItem D)} {received : List OutputEvent}
    (whole : Whole received timeline) (fits : Fits timeline items)
    (nodup : ((unknownOf timeline items).map (·.id)).Nodup) :
    Whole received (unknownOf timeline items ++ timeline) := by
  have new {item : TimelineItem D} (inside : item ∈ unknownOf timeline items) :
      item ∈ items ∧ item.id ∉ timeline.map (·.id) := by
    obtain ⟨listed, absent⟩ := List.mem_filter.mp inside
    exact ⟨listed, of_decide_eq_true absent⟩
  apply whole.merged fits
  · rw [List.map_append]
    apply nodup.append whole.ids
    intro id inside there
    obtain ⟨item, listed, rfl⟩ := List.mem_map.mp inside
    exact (new listed).2 there
  · intro x inside
    rw [List.map_append]
    exact List.mem_append_right _ (List.mem_map.mpr ⟨x, inside, rfl⟩)
  · intro item listed
    obtain unknown | known := List.mem_append.mp listed
    · exact ⟨item, List.mem_append_right _ (new unknown).1, rfl⟩
    · exact ⟨item, List.mem_append_left _ known, rfl⟩
  · intro item listed
    obtain unknown | known := List.mem_append.mp listed
    · exact .inr ⟨(new unknown).2, (fits.fresh item (new unknown).1).folds⟩
    · exact .inl ⟨item, known, rfl⟩

theorem whole_newer {dateParse : String → Option Int} {timeline items : List (TimelineItem D)}
    {received : List OutputEvent} (whole : Whole received timeline) (fits : Fits timeline items) :
    Whole received (mergeTimeline dateParse timeline items) := by
  apply whole.merged fits (nodup_mergeTimeline _ _ _)
  · intro x inside
    exact mem_ids_mergeTimeline.mpr (.inl (List.mem_map.mpr ⟨x, inside, rfl⟩))
  · intro item listed
    obtain ⟨-, inside⟩ | ⟨own, inside, same⟩ := mergeTimeline_from listed
    · exact ⟨item, List.mem_append_left _ inside, rfl⟩
    · exact ⟨own, List.mem_append_right _ inside, same⟩
  · intro item listed
    exact mergeTimeline_newer fits listed

theorem whole_stale {dateParse : String → Option Int} {timeline items : List (TimelineItem D)}
    {received : List OutputEvent} (whole : Whole received timeline) (fits : Fits timeline items)
    (untouched : Untouched timeline items) :
    Whole received (mergeTimeline dateParse items timeline) := by
  apply whole.merged fits (nodup_mergeTimeline _ _ _)
  · intro x inside
    exact mem_ids_mergeTimeline.mpr (.inr (List.mem_map.mpr ⟨x, inside, rfl⟩))
  · intro item listed
    obtain ⟨-, inside⟩ | ⟨own, inside, same⟩ := mergeTimeline_from listed
    · exact ⟨item, List.mem_append_right _ inside, rfl⟩
    · exact ⟨own, List.mem_append_left _ inside, same⟩
  · intro item listed
    exact mergeTimeline_stale fits untouched whole.ids listed

/-- The entries of a merged timeline leave free what those of both sides do. -/
theorem free_mergeTimeline {dateParse : String → Option Int} {itemId : String}
    {timeline items : List (TimelineItem D)} (free : ∀ item, item ∈ timeline ∨ item ∈ items →
      item.id = "output-" ++ itemId → item.outputId? = some itemId) :
    Free itemId (mergeTimeline dateParse timeline items) := by
  intro item listed named
  obtain ⟨-, inside⟩ | ⟨own, inside, same⟩ := mergeTimeline_from listed
  · exact free item (.inl inside) named
  · rw [outputId?_eq_outputKey, ← outputKey_eq_of_header same, ← outputId?_eq_outputKey]
    exact free own (.inr inside) ((id_eq_of_header same).trans named)

/-- After the snapshot itself come its cursors. -/
theorem inv_arrive {snapshot : RuntimeSnapshot D R} {includeHistory : Bool}
    (whole : Whole st.received
      (reconcileRuntimeSnapshot c.dateParse st.runtime snapshot includeHistory).timeline)
    (plain : includeHistory = true → ∀ cursor ∈ c.cursorsOf
        (reconcileRuntimeSnapshot c.dateParse st.runtime snapshot includeHistory).fields,
      Plain st.received
        (reconcileRuntimeSnapshot c.dateParse st.runtime snapshot includeHistory).timeline cursor) :
    (st.arrive c snapshot includeHistory).Inv := by
  cases includeHistory with
  | false => exact whole
  | true => exact whole.prepare (plain rfl)

theorem inv_snapshot (inv : st.Inv) {snapshot : RuntimeSnapshot D R} {includeHistory : Bool}
    (regular : st.Regular c (.snapshot snapshot includeHistory)) :
    (st.arrive c snapshot includeHistory).Inv := by
  unfold Regular at regular
  cases held : st.runtime with
  | none =>
    rw [held] at regular
    obtain ⟨fits, nodup, plain⟩ := regular
    have none_ : st.received = [] := (inv_none held).mp inv
    apply inv_arrive
    · rw [held]
      have empty : Whole st.received ([] : List (TimelineItem D)) := by
        rw [none_]
        constructor <;> simp
      apply empty.merged fits nodup
      · simp
      · intro item listed
        exact ⟨item, List.mem_append_right _ listed, rfl⟩
      · intro item listed
        exact .inr ⟨by simp, (fits.fresh item listed).folds⟩
    · rw [held]
      exact plain
  | some runtime =>
    rw [held] at regular
    obtain ⟨fits, untouched, plain⟩ := regular
    have whole := (inv_some held).mp inv
    have sides {itemId : String} (free : Free itemId (runtime.timeline ++ snapshot.timeline)) :
        ∀ item, item ∈ runtime.timeline ∨ item ∈ snapshot.timeline →
          item.id = "output-" ++ itemId → item.outputId? = some itemId :=
      fun item inside => free item (List.mem_append.mpr inside)
    obtain stale | newer := le_or_gt snapshot.runtimeRevision runtime.runtimeRevision
    · obtain ⟨cursor, same⟩ :=
        @reconcile_stale D R c.dateParse runtime snapshot includeHistory stale
      rw [if_pos stale] at plain
      apply inv_arrive
      · rw [held, same]
        exact whole_stale whole fits (untouched stale)
      · rw [held, same]
        intro history other listed
        obtain ⟨free, hydrates⟩ := plain history other listed
        exact ⟨free_mergeTimeline fun item inside => sides free item inside.symm, hydrates⟩
    · obtain ⟨cursor, same⟩ :=
        @reconcile_newer D R c.dateParse runtime snapshot includeHistory newer
      rw [if_neg (not_le.mpr newer)] at plain
      apply inv_arrive
      · rw [held, same]
        exact whole_newer whole fits
      · rw [held, same]
        intro history other listed
        obtain ⟨free, hydrates⟩ := plain history other listed
        exact ⟨free_mergeTimeline (sides free), hydrates⟩

/-- A regular step keeps the invariant. -/
theorem inv_step (inv : st.Inv) (regular : st.Regular c input) : (st.step c input).Inv := by
  cases input with
  | upsert item =>
    exact inv_change inv fun runtime held whole => whole_newer whole (regular runtime held)
  | page items =>
    apply inv_change inv
    intro runtime held whole
    obtain ⟨fits, nodup⟩ := regular runtime held
    exact whole_page whole fits nodup
  | output event =>
    obtain ⟨runtime, held, free⟩ := regular
    have after : (st.step c (.output event)).runtime =
        some { runtime with timeline := handleOutput c.texts runtime.timeline event } := by
      simp [step, change, held]
    exact (inv_some after).mpr (((inv_some held).mp inv).handleOutput free)
  | snapshot snapshot includeHistory => exact inv_snapshot inv regular

theorem Inv.onePerOutput (inv : st.Inv) : st.OnePerOutput := by
  intro runtime held
  have whole := (inv_some held).mp inv
  refine ⟨?_, whole.folds⟩
  have apart : runtime.timeline.Pairwise fun a b => a.id ≠ b.id := List.pairwise_map.mp whole.ids
  apply List.pairwise_filterMap.mpr
  apply apart.imp_of_mem
  intro a b left right other itemId carries itemId' carries' same
  rw [← same] at carries'
  exact other (whole.single a left b right itemId carries carries')

/-- **One entry for each output**: in every run of regular steps at most one entry carries an
output, and it shows what `reduceOutput` makes of all events that have come for it. -/
theorem one_entry_per_output {D R : Type} (c : Client D R) (inputs : List (Input D R))
    (regular : Along (step c) (Regular c) {} inputs) :
    ∀ before after, inputs = before ++ after →
      (before.foldl (fun st i => st.step c i) ({} : SessionStore D R)).OnePerOutput := by
  intro before after split
  subst split
  have start : Inv ({} : SessionStore D R) := (inv_none rfl).mpr rfl
  exact (Along.reached (fun _ _ => inv_step) start regular.before).onePerOutput

/-! ## An event before its item -/

/-- A client without cursors. -/
def plainClient : Client Unit Unit := ⟨fun _ => none, ⟨fun _ => (), fun _ => (), id⟩, fun _ => []⟩

/-- The entry of a command, as the transport makes it. -/
def commandItem (id : String) : TimelineItem Unit :=
  ⟨id, "", (), some (.command, ⟨placeholder id, none⟩)⟩

/-- A command and its first output. -/
def itemFirst : List (Input Unit Unit) :=
  [.snapshot ⟨1, none, none, [commandItem "c"], ()⟩ false, .output (.append "c" 0 ['a'])]

/-- The output comes before the command. -/
def outputFirst : List (Input Unit Unit) :=
  [.snapshot ⟨1, none, none, [], ()⟩ false, .output (.append "c" 0 ['a']), .upsert (commandItem "c")]

theorem one_entry_per_output_item_first :
    (itemFirst.foldl (fun st i => st.step plainClient i) ({} : SessionStore Unit Unit)).OnePerOutput := by
  apply one_entry_per_output plainClient itemFirst _ itemFirst [] (List.append_nil _).symm
  refine ⟨⟨⟨?_, ?_, ?_⟩, by decide, fun history => by cases history⟩, ⟨_, rfl, ?_⟩, trivial⟩
  · intro item listed type output shows_
    rw [List.mem_singleton.mp listed] at shows_
    cases shows_
    rfl
  · intro a left b right _
    rw [List.mem_singleton.mp left, List.mem_singleton.mp right]
  · intro a left b right _ _ _
    rw [List.mem_singleton.mp left, List.mem_singleton.mp right]
  · intro item listed named
    rw [List.mem_singleton.mp listed] at named
    exact absurd named (by decide)

/-- Two entries carry the output. -/
theorem output_split_off :
    ¬ ∀ (c : Client Unit Unit) (inputs before after : List (Input Unit Unit)),
      inputs = before ++ after →
      (before.foldl (fun st i => st.step c i) ({} : SessionStore Unit Unit)).OnePerOutput := by
  intro every
  have one := (every plainClient outputFirst outputFirst [] (List.append_nil _).symm _ rfl).1
  revert one
  decide +kernel

end SessionStore

end AgentConsole.Web.Timeline
