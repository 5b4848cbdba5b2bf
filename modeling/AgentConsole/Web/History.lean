import AgentConsole.Web.OneEntryRuns

/-! # Older pages of the history

`loadOlderHistory` reads the runtime of the session, asks for the page at its cursor, and puts
the entries into the runtime that it has read.  Every snapshot makes a new runtime of the old
one, and the cursor is kept beside them: a page that comes after a snapshot goes into a runtime
that is no longer shown, while the cursor moves on.

Runtimes are numbered as they are made. -/

namespace AgentConsole.Web.Timeline

open AgentConsole.Lib Deferred

variable {D R : Type}

namespace History

/-- A session: its runtime with its number, the cursor, and the page that is loaded with the
runtime it is for.  `consumed` has the ids of the entries of all pages that the cursor moved
past. -/
structure Session (D R : Type) where
  runtime : Option (Nat × RuntimeSnapshot D R) := none
  runtimes : Nat := 0
  cursor : Option String := none
  loading : Option (Nat × String) := none
  consumed : List String := []

inductive Input (D R : Type) where
  /-- A snapshot of the stream. -/
  | snapshot (snapshot : RuntimeSnapshot D R)
  /-- The answer of a query, with the first page of the history or without. -/
  | reload (snapshot : RuntimeSnapshot D R) (includeHistory : Bool)
  | upsert (item : TimelineItem D)
  | output (event : OutputEvent)
  /-- `loadOlderHistory` goes on, for the runtime that it has read. -/
  | older (runtime : Nat)
  | page (items : List (TimelineItem D)) (nextCursor : Option String)
  | failed

namespace Session

variable (c : Client D R) (st : Session D R)

/-- A new runtime for the session. -/
def put (runtime : RuntimeSnapshot D R) : Session D R :=
  { st with runtime := some (st.runtimes, runtime), runtimes := st.runtimes + 1 }

/-- A change of the timeline, where there is a runtime. -/
def change (f : List (TimelineItem D) → List (TimelineItem D)) : Session D R :=
  { st with
    runtime := st.runtime.map fun (number, runtime) =>
      (number, { runtime with timeline := f runtime.timeline }) }

/-- The runtime after a snapshot. -/
def reconciledWith (snapshot : RuntimeSnapshot D R) (includeHistory : Bool) : RuntimeSnapshot D R :=
  reconcileRuntimeSnapshot c.dateParse (st.runtime.map Prod.snd) snapshot includeHistory

def cursorOf (cursor : Option String) : Option String := if isCursor cursor then cursor else none

/-- The end of `ensureRuntime`. -/
def reload (snapshot : RuntimeSnapshot D R) (includeHistory : Bool) : Session D R :=
  let runtime := st.reconciledWith c snapshot includeHistory
  if includeHistory then
    { st.put { runtime with
        timeline := prepareDeferredOutputs c.texts (c.cursorsOf runtime.fields) runtime.timeline } with
      cursor := cursorOf runtime.historyNextCursor
      consumed := st.consumed ++ snapshot.timeline.map (·.id) }
  else st.put runtime

/-- The page comes: its entries go into the runtime that was read. -/
def page (items : List (TimelineItem D)) (nextCursor : Option String) : Session D R :=
  match st.loading with
  | none => st
  | some (number, _) =>
    let filled :=
      if st.runtime.map Prod.fst = some number then
        st.change fun timeline => unknownOf timeline items ++ timeline
      else st
    { filled with
      cursor := cursorOf nextCursor
      loading := none
      consumed := st.consumed ++ items.map (·.id) }

def older (number : Nat) : Session D R :=
  match st.cursor, st.loading with
  | some cursor, none =>
    if number < st.runtimes then { st with loading := some (number, cursor) } else st
  | _, _ => st

def step : Input D R → Session D R
  | .snapshot snapshot => st.put (st.reconciledWith c snapshot false)
  | .reload snapshot includeHistory => st.reload c snapshot includeHistory
  | .upsert item => st.change fun timeline => mergeTimeline c.dateParse timeline [item]
  | .output event => st.change (handleOutput c.texts · event)
  | .older number => st.older number
  | .page items nextCursor => st.page items nextCursor
  | .failed => { st with loading := none }

/-! ## What is kept, and when -/

/-- Every entry of a consumed page is in the timeline once. -/
def KeepsPages (st : Session D R) : Prop :=
  ∀ number runtime, st.runtime = some (number, runtime) →
    ∀ id ∈ st.consumed, (runtime.timeline.map (·.id)).count id = 1

/-- A snapshot that becomes the first runtime has no id twice, and no entry has the id of the one
that is made for the output of a cursor. -/
def Arrives (c : Client D R) (st : Session D R) (snapshot : RuntimeSnapshot D R)
    (includeHistory : Bool) : Prop :=
  (st.runtime = none → (snapshot.timeline.map (·.id)).Nodup) ∧
    (includeHistory = true →
      ∀ cursor ∈ c.cursorsOf (st.reconciledWith c snapshot includeHistory).fields,
        Free cursor.itemId (((st.runtime.map (·.2.timeline)).getD []) ++ snapshot.timeline))

/-- A page comes for the runtime of the session, and has no new id twice; or all its entries are
there already. -/
def Regular (c : Client D R) (st : Session D R) : Input D R → Prop
  | .snapshot snapshot => Arrives c st snapshot false
  | .reload snapshot includeHistory => Arrives c st snapshot includeHistory
  | .output event => ∀ number runtime, st.runtime = some (number, runtime) →
      Free event.itemId runtime.timeline
  | .page items _ => ∀ number cursor, st.loading = some (number, cursor) →
      ∀ shown runtime, st.runtime = some (shown, runtime) →
        if shown = number then ((unknownOf runtime.timeline items).map (·.id)).Nodup
        else ∀ item ∈ items, item.id ∈ runtime.timeline.map (·.id)
  | _ => True

/-- The ids in the timeline are different, and those of the consumed pages are there. -/
def Inv (st : Session D R) : Prop :=
  match st.runtime with
  | none => st.consumed = [] ∧ st.runtimes = 0 ∧ st.loading = none
  | some (_, runtime) => (runtime.timeline.map (·.id)).Nodup ∧
      ∀ id ∈ st.consumed, id ∈ runtime.timeline.map (·.id)

/-! ## Ids in the timeline -/

section Ids

variable {timeline items : List (TimelineItem D)} {texts : Texts D} {itemId : String}

theorem updateFirst_ids (itemId : String) (change : ItemOutput → ItemOutput)
    (timeline : List (TimelineItem D)) :
    (updateFirst itemId change timeline).map (·.id) = timeline.map (·.id) := by
  induction timeline with
  | nil => rfl
  | cons item rest inductionHypothesis =>
    unfold updateFirst
    split
    · rfl
    · rw [List.map_cons, List.map_cons, inductionHypothesis]

/-- An entry that is made for an item has an id of its own. -/
theorem ensureEntry_ids (free : Free itemId timeline) (detail : D)
    (nodup : (timeline.map (·.id)).Nodup) :
    ((ensureEntry itemId detail timeline).map (·.id)).Nodup ∧
      ∀ id ∈ timeline.map (·.id), id ∈ (ensureEntry itemId detail timeline).map (·.id) := by
  obtain same | ⟨absent, same⟩ := ensureEntry_cases itemId detail timeline
  · rw [same]
    exact ⟨nodup, fun _ inside => inside⟩
  · rw [same, List.map_append]
    refine ⟨nodup.append (List.nodup_singleton _) ?_, fun _ inside => List.mem_append_left _ inside⟩
    intro id inside named
    obtain ⟨item, listed, rfl⟩ := List.mem_map.mp inside
    exact absent item listed (free item listed (List.mem_singleton.mp named))

theorem handleOutput_ids (event : OutputEvent) :
    (handleOutput texts timeline event).map (·.id) =
      (ensureEntry event.itemId (texts.ofEvent event) timeline).map (·.id) := by
  unfold handleOutput
  rw [updateFirst_ids, List.map_map, List.map_map]
  apply List.map_congr_left
  intro item _
  show (complete texts event (reduceTimelineOutput event item)).id = item.id
  unfold complete
  split <;> rfl

theorem prepare_itemId (output : ItemOutput) (cursor : OutputCursor) :
    (output.prepare cursor).shown.itemId = output.shown.itemId := by
  unfold ItemOutput.prepare
  split
  · rfl
  · split <;> rfl

/-- A cursor changes no id, and not what an entry carries. -/
theorem updateFirst_outputs (cursor : OutputCursor) (timeline : List (TimelineItem D)) :
    (updateFirst cursor.itemId (·.prepare cursor) timeline).map
        (fun item => (item.id, item.outputId?)) =
      timeline.map fun item => (item.id, item.outputId?) := by
  induction timeline with
  | nil => rfl
  | cons item rest inductionHypothesis =>
    unfold updateFirst
    split
    · rw [List.map_cons, List.map_cons]
      congr 1
      simp [TimelineItem.mapOutput, TimelineItem.outputId?, Function.comp_def, prepare_itemId]
    · rw [List.map_cons, List.map_cons, inductionHypothesis]

/-- Preparing an output leaves ids free. -/
theorem free_prepareOutput {cursor : OutputCursor} (free : Free itemId timeline) :
    Free itemId (prepareOutput texts timeline cursor) := by
  have ensured := free.ensure cursor.itemId (texts.ofCursor cursor)
  unfold prepareOutput
  intro item listed named
  have carried : (updateFirst cursor.itemId (·.prepare cursor)
      (ensureEntry cursor.itemId (texts.ofCursor cursor) timeline)).map
        (fun item => (item.id, item.outputId?)) =
      (ensureEntry cursor.itemId (texts.ofCursor cursor) timeline).map
        fun item => (item.id, item.outputId?) := updateFirst_outputs cursor _
  have there : (item.id, item.outputId?) ∈
      (ensureEntry cursor.itemId (texts.ofCursor cursor) timeline).map
        fun item => (item.id, item.outputId?) := by
    rw [← carried]
    exact List.mem_map.mpr ⟨item, listed, rfl⟩
  obtain ⟨own, inside, same⟩ := List.mem_map.mp there
  have sameId : own.id = item.id := congrArg Prod.fst same
  have sameOutput : own.outputId? = item.outputId? := congrArg Prod.snd same
  rw [← sameOutput]
  exact ensured own inside (sameId.trans named)

theorem prepareDeferredOutputs_ids {cursors : List OutputCursor}
    (free : ∀ cursor ∈ cursors, Free cursor.itemId timeline)
    (nodup : (timeline.map (·.id)).Nodup) :
    ((prepareDeferredOutputs texts cursors timeline).map (·.id)).Nodup ∧
      ∀ id ∈ timeline.map (·.id),
        id ∈ (prepareDeferredOutputs texts cursors timeline).map (·.id) := by
  unfold prepareDeferredOutputs
  induction cursors generalizing timeline with
  | nil => exact ⟨nodup, fun _ inside => inside⟩
  | cons cursor rest inductionHypothesis =>
    have ids : (prepareOutput texts timeline cursor).map (·.id) =
        (ensureEntry cursor.itemId (texts.ofCursor cursor) timeline).map (·.id) :=
      updateFirst_ids _ _ _
    obtain ⟨different, kept⟩ :=
      ensureEntry_ids (free cursor List.mem_cons_self) (texts.ofCursor cursor) nodup
    rw [← ids] at different kept
    obtain ⟨nodup', kept'⟩ := inductionHypothesis
      (fun other inside => free_prepareOutput (free other (List.mem_cons_of_mem _ inside))) different
    exact ⟨nodup', fun id inside => kept' id (kept id inside)⟩

end Ids

/-! ## One step -/

variable {c : Client D R} {st : Session D R} {input : Input D R}

theorem inv_none (none_ : st.runtime = none) :
    st.Inv ↔ st.consumed = [] ∧ st.runtimes = 0 ∧ st.loading = none := by
  unfold Inv
  rw [none_]

theorem inv_some {number : Nat} {runtime : RuntimeSnapshot D R}
    (held : st.runtime = some (number, runtime)) :
    st.Inv ↔ (runtime.timeline.map (·.id)).Nodup ∧
      ∀ id ∈ st.consumed, id ∈ runtime.timeline.map (·.id) := by
  unfold Inv
  rw [held]

theorem Inv.of_none (none_ : st.runtime = none) (consumed : st.consumed = [])
    (first : st.runtimes = 0) (idle : st.loading = none) : st.Inv :=
  (inv_none none_).mpr ⟨consumed, first, idle⟩

theorem Inv.of_some {number : Nat} {runtime : RuntimeSnapshot D R}
    (held : st.runtime = some (number, runtime)) (nodup : (runtime.timeline.map (·.id)).Nodup)
    (consumed : ∀ id ∈ st.consumed, id ∈ runtime.timeline.map (·.id)) : st.Inv :=
  (inv_some held).mpr ⟨nodup, consumed⟩

/-- A change that keeps the ids different and loses none. -/
theorem inv_change {f : List (TimelineItem D) → List (TimelineItem D)} (inv : st.Inv)
    (keeps : ∀ number runtime, st.runtime = some (number, runtime) →
      (runtime.timeline.map (·.id)).Nodup → ((f runtime.timeline).map (·.id)).Nodup ∧
        ∀ id ∈ runtime.timeline.map (·.id), id ∈ (f runtime.timeline).map (·.id)) :
    (st.change f).Inv := by
  cases held : st.runtime with
  | none =>
    have none_ : (st.change f).runtime = none := by simp [change, held]
    exact (inv_none none_).mpr ((inv_none held).mp inv)
  | some shown =>
    obtain ⟨number, runtime⟩ := shown
    have after : (st.change f).runtime =
        some (number, { runtime with timeline := f runtime.timeline }) := by
      simp [change, held]
    obtain ⟨nodup, consumed⟩ := (inv_some held).mp inv
    obtain ⟨nodup', kept⟩ := keeps number runtime held nodup
    exact (inv_some after).mpr ⟨nodup', fun id inside => kept id (consumed id inside)⟩

/-- The timeline after a snapshot. -/
theorem reconciledWith_ids (inv : st.Inv) {snapshot : RuntimeSnapshot D R} {includeHistory : Bool}
    (arrives : Arrives c st snapshot includeHistory) :
    ((st.reconciledWith c snapshot includeHistory).timeline.map (·.id)).Nodup ∧
      (∀ id ∈ st.consumed, id ∈ (st.reconciledWith c snapshot includeHistory).timeline.map (·.id)) ∧
      ∀ id ∈ snapshot.timeline.map (·.id),
        id ∈ (st.reconciledWith c snapshot includeHistory).timeline.map (·.id) := by
  unfold reconciledWith
  cases held : st.runtime with
  | none =>
    obtain ⟨consumed, -⟩ := (inv_none held).mp inv
    refine ⟨arrives.1 held, ?_, fun _ inside => inside⟩
    rw [consumed]
    simp
  | some shown =>
    obtain ⟨number, runtime⟩ := shown
    obtain ⟨-, consumed⟩ := (inv_some held).mp inv
    refine ⟨listed_reconcile.once, ?_, ?_⟩
    · intro id inside
      exact mem_ids_reconcile.mpr (.inl (consumed id inside))
    · intro id inside
      exact mem_ids_reconcile.mpr (.inr inside)

theorem reconciledWith_free {snapshot : RuntimeSnapshot D R} {includeHistory : Bool} {itemId : String}
    (free : Free itemId (((st.runtime.map (·.2.timeline)).getD []) ++ snapshot.timeline)) :
    Free itemId (st.reconciledWith c snapshot includeHistory).timeline := by
  unfold reconciledWith
  cases held : st.runtime with
  | none =>
    rw [held] at free
    exact free
  | some shown =>
    obtain ⟨number, runtime⟩ := shown
    rw [held] at free
    have sides : ∀ item, item ∈ runtime.timeline ∨ item ∈ snapshot.timeline →
        item.id = "output-" ++ itemId → item.outputId? = some itemId :=
      fun item inside => free item (List.mem_append.mpr inside)
    obtain same | same := @reconcile_timeline D R c.dateParse runtime snapshot includeHistory
    · show Free itemId (reconcileRuntimeSnapshot c.dateParse (some runtime) snapshot
        includeHistory).timeline
      rw [same]
      exact SessionStore.free_mergeTimeline fun item inside => sides item inside.symm
    · show Free itemId (reconcileRuntimeSnapshot c.dateParse (some runtime) snapshot
        includeHistory).timeline
      rw [same]
      exact SessionStore.free_mergeTimeline sides

theorem inv_reload (inv : st.Inv) {snapshot : RuntimeSnapshot D R} {includeHistory : Bool}
    (arrives : Arrives c st snapshot includeHistory) : (st.reload c snapshot includeHistory).Inv := by
  obtain ⟨nodup, consumed, own⟩ := reconciledWith_ids inv arrives
  cases includeHistory with
  | false => exact ⟨nodup, consumed⟩
  | true =>
    have free : ∀ cursor ∈ c.cursorsOf (st.reconciledWith c snapshot true).fields,
        Free cursor.itemId (st.reconciledWith c snapshot true).timeline :=
      fun cursor inside => reconciledWith_free (arrives.2 rfl cursor inside)
    obtain ⟨nodup', kept⟩ := @prepareDeferredOutputs_ids D _ c.texts _ free nodup
    refine ⟨nodup', ?_⟩
    intro id inside
    obtain before | new := List.mem_append.mp inside
    · exact kept id (consumed id before)
    · exact kept id (own id new)

theorem inv_page (inv : st.Inv) {items : List (TimelineItem D)} {nextCursor : Option String}
    (regular : st.Regular c (.page items nextCursor)) : (st.page items nextCursor).Inv := by
  unfold page
  cases loading : st.loading with
  | none => exact inv
  | some load =>
    obtain ⟨number, cursor⟩ := load
    cases held : st.runtime with
    | none =>
      obtain ⟨-, -, none_⟩ := (inv_none held).mp inv
      rw [loading] at none_
      cases none_
    | some shown =>
      obtain ⟨n, runtime⟩ := shown
      have fits := regular number cursor loading n runtime held
      obtain ⟨nodup, consumed⟩ := (inv_some held).mp inv
      by_cases same : n = number
      · rw [if_pos same] at fits
        simp only [Option.map_some, same, if_true]
        have after : (st.change fun timeline => unknownOf timeline items ++ timeline).runtime =
            some (n, { runtime with
              timeline := unknownOf runtime.timeline items ++ runtime.timeline }) := by
          simp [change, held]
        refine Inv.of_some after ?_ ?_
        · rw [List.map_append]
          apply fits.append nodup
          intro id inside there
          obtain ⟨item, listed, rfl⟩ := List.mem_map.mp inside
          exact of_decide_eq_true (List.mem_filter.mp listed).2 there
        · intro id inside
          rw [List.map_append, List.mem_append]
          obtain before | new := List.mem_append.mp inside
          · exact .inr (consumed id before)
          · obtain ⟨item, listed, rfl⟩ := List.mem_map.mp new
            by_cases known : item.id ∈ runtime.timeline.map (·.id)
            · exact .inr known
            · left
              exact List.mem_map.mpr
                ⟨item, List.mem_filter.mpr ⟨listed, decide_eq_true known⟩, rfl⟩
      · rw [if_neg same] at fits
        have other : (some n : Option Nat) ≠ some number := fun equal => same (Option.some.inj equal)
        simp only [Option.map_some, if_neg other]
        refine Inv.of_some held nodup ?_
        intro id inside
        obtain before | new := List.mem_append.mp inside
        · exact consumed id before
        · obtain ⟨item, listed, rfl⟩ := List.mem_map.mp new
          exact fits item listed

/-- A regular step keeps the invariant. -/
theorem inv_step (inv : st.Inv) (regular : st.Regular c input) : (st.step c input).Inv := by
  cases input with
  | snapshot snapshot =>
    obtain ⟨nodup, consumed, -⟩ := reconciledWith_ids inv regular
    exact ⟨nodup, consumed⟩
  | reload snapshot includeHistory => exact inv_reload inv regular
  | upsert item =>
    apply inv_change inv
    intro number runtime _ _
    refine ⟨nodup_mergeTimeline _ _ _, fun id inside => ?_⟩
    exact mem_ids_mergeTimeline.mpr (.inl inside)
  | output event =>
    apply inv_change inv
    intro number runtime held nodup
    rw [handleOutput_ids]
    exact ensureEntry_ids (regular number runtime held) _ nodup
  | older number =>
    show (st.older number).Inv
    unfold older
    split
    · split
      · rename_i some_
        cases held : st.runtime with
        | none =>
          obtain ⟨-, none_, -⟩ := (inv_none held).mp inv
          omega
        | some shown =>
          obtain ⟨nodup, consumed⟩ := (inv_some held).mp inv
          obtain ⟨shownNumber, runtime⟩ := shown
          exact Inv.of_some rfl nodup consumed
      · exact inv
    · exact inv
  | page items nextCursor => exact inv_page inv regular
  | failed =>
    cases held : st.runtime with
    | none =>
      obtain ⟨consumed, none_, -⟩ := (inv_none held).mp inv
      exact Inv.of_none held consumed none_ rfl
    | some shown =>
      obtain ⟨nodup, consumed⟩ := (inv_some held).mp inv
      exact Inv.of_some held nodup consumed

theorem Inv.keepsPages (inv : st.Inv) : st.KeepsPages := by
  intro number runtime held id inside
  obtain ⟨nodup, consumed⟩ := (inv_some held).mp inv
  exact List.count_eq_one_of_mem nodup (consumed id inside)

/-- **Older pages are kept**: in every run of regular steps every entry of a page that the cursor
moved past is in the timeline once. -/
theorem older_pages_kept {D R : Type} (c : Client D R) (inputs : List (Input D R))
    (regular : Along (step c) (Regular c) {} inputs) :
    ∀ before after, inputs = before ++ after →
      (before.foldl (fun st i => st.step c i) ({} : Session D R)).KeepsPages := by
  intro before after split
  subst split
  have start : Inv ({} : Session D R) := (inv_none rfl).mpr ⟨rfl, rfl, rfl⟩
  exact (Along.reached (fun _ _ => inv_step) start regular.before).keepsPages

/-! ## A snapshot during the request -/

def commentary (id : String) : TimelineItem Unit := ⟨id, "", (), none⟩

/-- The session is opened, and the older page asked for. -/
def opened : List (Input Unit Unit) :=
  [.reload ⟨1, none, some "next", [commentary "b"], ()⟩ true, .older 0]

def loadedInTime : List (Input Unit Unit) := opened ++ [.page [commentary "a"] none]

/-- A snapshot comes before the page. -/
def loadedTooLate : List (Input Unit Unit) :=
  opened ++ [.snapshot ⟨2, none, none, [], ()⟩, .page [commentary "a"] none]

theorem older_pages_kept_in_time :
    (loadedInTime.foldl (fun st i => st.step SessionStore.plainClient i)
      ({} : Session Unit Unit)).KeepsPages := by
  apply older_pages_kept SessionStore.plainClient loadedInTime _ loadedInTime []
    (List.append_nil _).symm
  refine ⟨⟨fun _ => by decide, fun _ cursor inside => by cases inside⟩, trivial, ?_, trivial⟩
  intro number cursor loading shown runtime held
  cases loading
  cases held
  decide

/-- The page is not shown, and will not be asked for again. -/
theorem older_page_lost :
    ¬ ∀ (c : Client Unit Unit) (inputs before after : List (Input Unit Unit)),
      inputs = before ++ after →
      (before.foldl (fun st i => st.step c i) ({} : Session Unit Unit)).KeepsPages := by
  intro every
  have kept := every SessionStore.plainClient loadedTooLate loadedTooLate []
    (List.append_nil _).symm _ _ rfl "a" (by decide +kernel)
  revert kept
  decide +kernel

end Session

end History

end AgentConsole.Web.Timeline
