import AgentConsole.Lib.Run
import AgentConsole.Web.Reconcile

/-! # The entries of a session's outputs

Entries, output events, history pages and snapshots reach the timeline of a session in any
order.  An output event, or a cursor of a snapshot, may come before the entry of its item; the
store then makes an entry of its own, under the id `output-` with the id of the item.

The output events that were received are kept beside the store, for the proofs only. -/

namespace AgentConsole.Web.Timeline

open AgentConsole.Lib Deferred

variable {D R : Type}

/-- The output item that an entry carries. -/
def TimelineItem.outputId? (item : TimelineItem D) : Option String :=
  item.output?.map fun shown => shown.2.shown.itemId

def TimelineItem.mapOutput (change : ItemOutput → ItemOutput) (item : TimelineItem D) :
    TimelineItem D :=
  { item with output? := item.output?.map fun shown => (shown.1, change shown.2) }

/-- The other fields of the entries that the store makes, and of a command that has ended. -/
structure Texts (D : Type) where
  ofEvent : OutputEvent → D
  ofCursor : OutputCursor → D
  completed : D → D

/-! ## Output events -/

/-- The entry for an item that is not known yet. -/
def placeholderEntry (itemId : String) (detail : D) : TimelineItem D :=
  ⟨"output-" ++ itemId, "", detail, some (.command, ⟨placeholder itemId, none⟩)⟩

def ensureEntry (itemId : String) (detail : D) (timeline : List (TimelineItem D)) :
    List (TimelineItem D) :=
  if timeline.any fun item => item.outputId? = some itemId then timeline
  else timeline ++ [placeholderEntry itemId detail]

/-- Change the output of the first entry that carries the item. -/
def updateFirst (itemId : String) (change : ItemOutput → ItemOutput) :
    List (TimelineItem D) → List (TimelineItem D)
  | [] => []
  | item :: rest =>
    if item.outputId? = some itemId then item.mapOutput change :: rest
    else item :: updateFirst itemId change rest

def reduceTimelineOutput (event : OutputEvent) (item : TimelineItem D) : TimelineItem D :=
  item.mapOutput fun output => { output with shown := reduceOutput output.shown event }

def OutputEvent.isFinal : OutputEvent → Bool
  | .final _ _ _ => true
  | _ => false

/-- A command whose final event has come. -/
def complete (texts : Texts D) (event : OutputEvent) (item : TimelineItem D) : TimelineItem D :=
  if OutputEvent.isFinal event = true ∧ item.outputKey = some (.command, event.itemId) then
    { item with detail := texts.completed item.detail }
  else item

/-- The load state after an event: a final output has none, and a final event that leaves a gap
starts a load. -/
def settle (event : OutputEvent) (output : ItemOutput) : ItemOutput :=
  if output.shown.hasGap then
    if OutputEvent.isFinal event then { output with loadState := some .loading } else output
  else if output.shown.isFinal then { output with loadState := none }
  else output

/-- The timeline after an output event. -/
def handleOutput (texts : Texts D) (timeline : List (TimelineItem D)) (event : OutputEvent) :
    List (TimelineItem D) :=
  updateFirst event.itemId (settle event)
    (((ensureEntry event.itemId (texts.ofEvent event) timeline).map
      (reduceTimelineOutput event)).map (complete texts event))

/-! ## Cursors and pages -/

/-- The loop body of `prepareDeferredOutputs`. -/
def prepareOutput (texts : Texts D) (timeline : List (TimelineItem D)) (cursor : OutputCursor) :
    List (TimelineItem D) :=
  updateFirst cursor.itemId (·.prepare cursor)
    (ensureEntry cursor.itemId (texts.ofCursor cursor) timeline)

def prepareDeferredOutputs (texts : Texts D) (cursors : List OutputCursor)
    (timeline : List (TimelineItem D)) : List (TimelineItem D) :=
  cursors.foldl (prepareOutput texts) timeline

/-- The entries of a page that are not known. -/
def unknownOf (timeline items : List (TimelineItem D)) : List (TimelineItem D) :=
  items.filter fun item => item.id ∉ timeline.map (·.id)

/-! ## The store -/

structure SessionStore (D R : Type) where
  runtime : Option (RuntimeSnapshot D R) := none
  received : List OutputEvent := []

/-- What reaches the store.  A snapshot of the stream comes without history. -/
inductive Input (D R : Type) where
  | upsert (item : TimelineItem D)
  | output (event : OutputEvent)
  | page (items : List (TimelineItem D))
  | snapshot (snapshot : RuntimeSnapshot D R) (includeHistory : Bool)

/-- The parameters of the store; the cursors are a field of the runtime. -/
structure Client (D R : Type) where
  dateParse : String → Option Int
  texts : Texts D
  cursorsOf : R → List OutputCursor

namespace SessionStore

variable (c : Client D R) (st : SessionStore D R)

/-- A change of the timeline, where there is a runtime. -/
def change (f : List (TimelineItem D) → List (TimelineItem D)) : SessionStore D R :=
  { st with runtime := st.runtime.map fun runtime => { runtime with timeline := f runtime.timeline } }

def arrive (snapshot : RuntimeSnapshot D R) (includeHistory : Bool) : SessionStore D R :=
  let runtime := reconcileRuntimeSnapshot c.dateParse st.runtime snapshot includeHistory
  { st with
    runtime := some
      (if includeHistory then
        { runtime with
          timeline := prepareDeferredOutputs c.texts (c.cursorsOf runtime.fields) runtime.timeline }
      else runtime) }

def step : Input D R → SessionStore D R
  | .upsert item => st.change fun timeline => mergeTimeline c.dateParse timeline [item]
  | .output event =>
    { st.change (handleOutput c.texts · event) with received := st.received ++ [event] }
  | .page items => st.change fun timeline => unknownOf timeline items ++ timeline
  | .snapshot snapshot includeHistory => st.arrive c snapshot includeHistory

end SessionStore

/-! ## Shapes -/

/-- An entry as far as its id and its output go. -/
def TimelineItem.shape (item : TimelineItem D) : String × Option (OutputType × OutputState) :=
  (item.id, item.output?.map fun shown => (shown.1, shown.2.shown))

section Shapes

variable {item : TimelineItem D} {timeline : List (TimelineItem D)} {itemId : String}

theorem outputId?_of_shape {a b : TimelineItem D} (same : a.shape = b.shape) :
    a.outputId? = b.outputId? := by
  have shown := congrArg (fun shape => shape.2.map fun o => o.2.itemId) same
  simpa [TimelineItem.shape, TimelineItem.outputId?, Function.comp_def] using shown

theorem outputId?_eq_outputKey (item : TimelineItem D) :
    item.outputId? = item.outputKey.map Prod.snd := by
  simp [TimelineItem.outputId?, TimelineItem.outputKey, Function.comp_def]

theorem settle_shown (event : OutputEvent) (output : ItemOutput) :
    (settle event output).shown = output.shown := by
  unfold settle
  split
  · split <;> rfl
  · split <;> rfl

theorem complete_shape (texts : Texts D) (event : OutputEvent) (item : TimelineItem D) :
    (complete texts event item).shape = item.shape := by
  unfold complete
  split <;> rfl

/-- A change of the outputs that carry the item and keep what they show. -/
theorem updateFirst_shapes {change : ItemOutput → ItemOutput}
    (same : ∀ item ∈ timeline, ∀ type output, item.output? = some (type, output) →
      output.shown.itemId = itemId → (change output).shown = output.shown) :
    (updateFirst itemId change timeline).map (·.shape) = timeline.map (·.shape) := by
  induction timeline with
  | nil => rfl
  | cons item rest inductionHypothesis =>
    unfold updateFirst
    split
    · rename_i carries
      rw [List.map_cons, List.map_cons]
      congr 1
      unfold TimelineItem.outputId? at carries
      cases shows_ : item.output? with
      | none => simp [TimelineItem.shape, TimelineItem.mapOutput, shows_]
      | some shown =>
        rw [shows_] at carries
        have kept := same item List.mem_cons_self shown.1 shown.2 shows_ (Option.some.inj carries)
        simp [TimelineItem.shape, TimelineItem.mapOutput, shows_, kept]
    · rw [List.map_cons, List.map_cons, inductionHypothesis]
      intro other inside
      exact same other (List.mem_cons_of_mem _ inside)

/-- What an output event makes of the outputs. -/
theorem handleOutput_shapes (texts : Texts D) (timeline : List (TimelineItem D))
    (event : OutputEvent) :
    (handleOutput texts timeline event).map (·.shape) =
      ((ensureEntry event.itemId (texts.ofEvent event) timeline).map
        (reduceTimelineOutput event)).map (·.shape) := by
  unfold handleOutput
  rw [updateFirst_shapes fun _ _ _ output _ _ => settle_shown event output, List.map_map]
  apply List.map_congr_left
  intro item _
  exact complete_shape texts event item

end Shapes

end AgentConsole.Web.Timeline
