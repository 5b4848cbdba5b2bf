import AgentConsole.Lib.Record
import AgentConsole.Web.DeferredOutput

/-! # The timeline

The store merges entries of several sources by their ids, the later ones over the earlier ones,
and sorts them by creation time.  History and status entries carry no output text: an entry
whose output is an empty placeholder leaves the output that the earlier entry has.

`dateParse` is `Date.parse`, and `none` what is not a date. -/

namespace AgentConsole.Web.Timeline

open AgentConsole.Lib Deferred

/-- The types of the entries that have an output. -/
inductive OutputType where
  | command
  | outcomeUnknown
deriving DecidableEq, Repr

/-- An entry; `D` stands for the other fields that depend on its type. -/
structure TimelineItem (D : Type) where
  id : String
  createdAt : String
  detail : D
  output? : Option (OutputType × ItemOutput)
deriving DecidableEq, Repr

variable {D : Type}

/-- The output item that an entry carries, with the type of the entry. -/
def TimelineItem.outputKey (item : TimelineItem D) : Option (OutputType × String) :=
  item.output?.map fun (type, output) => (type, output.shown.itemId)

/-- The entry without the state of its output. -/
def TimelineItem.header (item : TimelineItem D) :
    String × String × D × Option (OutputType × String) :=
  (item.id, item.createdAt, item.detail, item.outputKey)

def isPlaceholderOutput (output : ItemOutput) : Bool :=
  output.shown.text.isEmpty && decide (output.shown.byteLength = 0) && !output.shown.isFinal &&
    output.loadState.isNone

def mergeTimelineItem (current incoming : TimelineItem D) : TimelineItem D :=
  match current.output?, incoming.output? with
  | some (type, shown), some (type', placeholder) =>
    if type' = type ∧ shown.shown.itemId = placeholder.shown.itemId ∧
        isPlaceholderOutput placeholder = true then
      { incoming with output? := some (type, shown) }
    else incoming
  | _, _ => incoming

/-- `new Map(current.map((item) => [item.id, item]))` -/
def byIdOf (current : List (TimelineItem D)) : Record String (TimelineItem D) :=
  current.foldl (fun byId item => byId.set item.id item) .empty

/-- The entry that is set in the loop of `mergeTimeline`. -/
def mergedWith (byId : Record String (TimelineItem D)) (item : TimelineItem D) : TimelineItem D :=
  match byId.get? item.id with
  | some existing => mergeTimelineItem existing item
  | none => item

/-- The loop body of `mergeTimeline`. -/
def put (byId : Record String (TimelineItem D)) (item : TimelineItem D) :
    Record String (TimelineItem D) :=
  byId.set item.id (mergedWith byId item)

/-- `Date.parse(createdAt) || 0` -/
def timeOf (dateParse : String → Option Int) (item : TimelineItem D) : Int :=
  (dateParse item.createdAt).getD 0

def mergeTimeline (dateParse : String → Option Int) (current incoming : List (TimelineItem D)) :
    List (TimelineItem D) :=
  (incoming.foldl put (byIdOf current)).values.insertionSort fun left right =>
    timeOf dateParse left ≤ timeOf dateParse right

/-! ## One entry -/

variable {byId : Record String (TimelineItem D)} {current incoming : List (TimelineItem D)}
  {item existing : TimelineItem D} {id : String}

/-- What merging two entries makes: the later one, with the output of either. -/
theorem mergeTimelineItem_cases (existing item : TimelineItem D) :
    mergeTimelineItem existing item = item ∨
    ∃ type shown placeholder, existing.output? = some (type, shown) ∧
      item.output? = some (type, placeholder) ∧
      shown.shown.itemId = placeholder.shown.itemId ∧ isPlaceholderOutput placeholder = true ∧
      mergeTimelineItem existing item = { item with output? := some (type, shown) } := by
  unfold mergeTimelineItem
  split
  · rename_i type shown type' placeholder before after
    by_cases kept : type' = type ∧ shown.shown.itemId = placeholder.shown.itemId ∧
        isPlaceholderOutput placeholder = true
    · right
      obtain ⟨rfl, sameId, empty⟩ := kept
      refine ⟨type', shown, placeholder, before, after, sameId, empty, ?_⟩
      rw [if_pos ⟨rfl, sameId, empty⟩]
    · left
      rw [if_neg kept]
  · left
    rfl

@[simp] theorem mergeTimelineItem_header (existing item : TimelineItem D) :
    (mergeTimelineItem existing item).header = item.header := by
  obtain same | ⟨type, shown, placeholder, -, after, sameId, -, same⟩ :=
    mergeTimelineItem_cases existing item
  · rw [same]
  · rw [same]
    simp [TimelineItem.header, TimelineItem.outputKey, after, sameId]

theorem id_eq_of_header {a b : TimelineItem D} (same : a.header = b.header) : a.id = b.id :=
  congrArg Prod.fst same

theorem outputKey_eq_of_header {a b : TimelineItem D} (same : a.header = b.header) :
    a.outputKey = b.outputKey := congrArg (·.2.2.2) same

/-- An entry with an output that is no placeholder is taken as it is. -/
theorem mergeTimelineItem_shown {type : OutputType} {output : ItemOutput}
    (shows_ : item.output? = some (type, output)) (notEmpty : isPlaceholderOutput output = false) :
    mergeTimelineItem existing item = item := by
  obtain same | ⟨type', shown, placeholder, -, after, -, empty, -⟩ :=
    mergeTimelineItem_cases existing item
  · exact same
  · rw [shows_] at after
    cases after
    rw [notEmpty] at empty
    cases empty

/-- An empty placeholder of the same type and output leaves the output. -/
theorem mergeTimelineItem_placeholder {type : OutputType} {shown placeholder : ItemOutput}
    (before : existing.output? = some (type, shown)) (after : item.output? = some (type, placeholder))
    (sameId : placeholder.shown.itemId = shown.shown.itemId)
    (empty : isPlaceholderOutput placeholder = true) :
    (mergeTimelineItem existing item).output? = some (type, shown) := by
  unfold mergeTimelineItem
  rw [before, after]
  dsimp only
  rw [if_pos ⟨rfl, sameId.symm, empty⟩]

/-! ## The record by ids -/

/-- Every entry stands under its own id. -/
def Keyed (byId : Record String (TimelineItem D)) : Prop :=
  ∀ id item, byId.get? id = some item → item.id = id

theorem Keyed.set (keyed : Keyed byId) (same : item.id = id) : Keyed (byId.set id item) := by
  intro other found held
  rw [Record.get?_set] at held
  split at held
  · rename_i here
    cases held
    exact same.trans here.symm
  · exact keyed other found held

@[simp] theorem mergedWith_header (byId : Record String (TimelineItem D)) (item : TimelineItem D) :
    (mergedWith byId item).header = item.header := by
  unfold mergedWith
  split
  · exact mergeTimelineItem_header _ item
  · rfl

theorem get?_put (byId : Record String (TimelineItem D)) (item : TimelineItem D) (id : String) :
    (put byId item).get? id = if id = item.id then some (mergedWith byId item) else byId.get? id :=
  Record.get?_set byId item.id id _

theorem Keyed.put (keyed : Keyed byId) (item : TimelineItem D) : Keyed (put byId item) :=
  keyed.set (id_eq_of_header (mergedWith_header byId item))

theorem keyed_foldl {step : Record String (TimelineItem D) → TimelineItem D →
      Record String (TimelineItem D)}
    (each : ∀ byId item, Keyed byId → Keyed (step byId item)) (keyed : Keyed byId)
    (items : List (TimelineItem D)) : Keyed (items.foldl step byId) := by
  induction items generalizing byId with
  | nil => exact keyed
  | cons item rest inductionHypothesis => exact inductionHypothesis (each byId item keyed)

theorem keyed_byIdOf (current : List (TimelineItem D)) : Keyed (byIdOf current) := by
  apply keyed_foldl fun byId item keyed => keyed.set rfl
  intro id item held
  cases held

theorem keyed_merged (current incoming : List (TimelineItem D)) :
    Keyed (incoming.foldl put (byIdOf current)) :=
  keyed_foldl (fun _ item keyed => keyed.put item) (keyed_byIdOf current) incoming

/-- What stands in the record of a timeline: the last entry with the id. -/
theorem get?_byIdOf (held : (byIdOf current).get? id = some item) : item ∈ current ∧ item.id = id := by
  refine ⟨?_, keyed_byIdOf current id item held⟩
  have each : ∀ (items : List (TimelineItem D)) (byId : Record String (TimelineItem D)),
      (items.foldl (fun byId item => byId.set item.id item) byId).get? id = some item →
        byId.get? id = some item ∨ item ∈ items := by
    intro items
    induction items with
    | nil => exact fun _ held => .inl held
    | cons first rest inductionHypothesis =>
      intro byId held
      obtain before | inside := inductionHypothesis _ held
      · rw [Record.get?_set] at before
        split at before
        · cases before
          exact .inr List.mem_cons_self
        · exact .inl before
      · exact .inr (List.mem_cons_of_mem _ inside)
  obtain none_ | inside := each current .empty held
  · cases none_
  · exact inside

theorem byIdOf_isSome : ((byIdOf current).get? id).isSome ↔ id ∈ current.map (·.id) := by
  have each : ∀ (items : List (TimelineItem D)) (byId : Record String (TimelineItem D)),
      ((items.foldl (fun byId item => byId.set item.id item) byId).get? id).isSome ↔
        (byId.get? id).isSome ∨ id ∈ items.map (·.id) := by
    intro items
    induction items with
    | nil => simp
    | cons first rest inductionHypothesis =>
      intro byId
      rw [List.foldl_cons, inductionHypothesis, Record.get?_set, List.map_cons, List.mem_cons]
      by_cases here : id = first.id <;> simp [here]
  rw [byIdOf, each]
  simp

theorem put_isSome : ((put byId item).get? id).isSome ↔ (byId.get? id).isSome ∨ id = item.id := by
  rw [get?_put]
  by_cases here : id = item.id <;> simp [here]

theorem merged_isSome : ((incoming.foldl put byId).get? id).isSome ↔
    (byId.get? id).isSome ∨ id ∈ incoming.map (·.id) := by
  induction incoming generalizing byId with
  | nil => simp
  | cons item rest inductionHypothesis =>
    rw [List.foldl_cons, inductionHypothesis, put_isSome, List.map_cons, List.mem_cons, or_assoc]

/-- Where an entry of the record comes from. -/
theorem merged_from (held : (incoming.foldl put byId).get? id = some item) :
    (id ∉ incoming.map (·.id) ∧ byId.get? id = some item) ∨
      ∃ own ∈ incoming, own.id = id ∧ own.header = item.header := by
  induction incoming generalizing byId with
  | nil => exact .inl ⟨by simp, held⟩
  | cons first rest inductionHypothesis =>
    obtain ⟨absent, before⟩ | ⟨own, inside, sameId, same⟩ := inductionHypothesis held
    · rw [get?_put] at before
      by_cases here : id = first.id
      · right
        rw [if_pos here] at before
        cases before
        exact ⟨first, List.mem_cons_self, here.symm, (mergedWith_header byId first).symm⟩
      · left
        rw [if_neg here] at before
        exact ⟨by simp [here, absent], before⟩
    · exact .inr ⟨own, List.mem_cons_of_mem _ inside, sameId, same⟩

/-! ## The merged timeline -/

variable {dateParse : String → Option Int}

theorem mem_mergeTimeline : item ∈ mergeTimeline dateParse current incoming ↔
    (incoming.foldl put (byIdOf current)).get? item.id = some item := by
  unfold mergeTimeline Record.values
  rw [List.mem_insertionSort, List.mem_map]
  constructor
  · rintro ⟨⟨id, value⟩, listed, same⟩
    have held := Record.mem_entries.mp listed
    have sameId := keyed_merged current incoming id value held
    cases same
    rw [sameId]
    exact held
  · intro held
    exact ⟨(item.id, item), Record.mem_entries.mpr held, rfl⟩

theorem mem_ids_mergeTimeline : id ∈ (mergeTimeline dateParse current incoming).map (·.id) ↔
    id ∈ current.map (·.id) ∨ id ∈ incoming.map (·.id) := by
  have either : ((incoming.foldl put (byIdOf current)).get? id).isSome ↔
      id ∈ current.map (·.id) ∨ id ∈ incoming.map (·.id) := by
    rw [merged_isSome, byIdOf_isSome]
  rw [← either, List.mem_map]
  constructor
  · rintro ⟨item, listed, rfl⟩
    rw [mem_mergeTimeline.mp listed]
    rfl
  · intro held
    obtain ⟨item, found⟩ := Option.isSome_iff_exists.mp held
    have sameId := keyed_merged current incoming id item found
    exact ⟨item, mem_mergeTimeline.mpr (by rw [sameId]; exact found), sameId⟩

/-- Every id is there once. -/
theorem nodup_mergeTimeline (dateParse : String → Option Int)
    (current incoming : List (TimelineItem D)) :
    ((mergeTimeline dateParse current incoming).map (·.id)).Nodup := by
  have keys : (incoming.foldl put (byIdOf current)).values.map (·.id) =
      (incoming.foldl put (byIdOf current)).entries.map Prod.fst := by
    unfold Record.values
    rw [List.map_map]
    apply List.map_congr_left
    intro entry listed
    exact keyed_merged current incoming entry.1 entry.2 (Record.mem_entries.mp listed)
  have nodup := (incoming.foldl put (byIdOf current)).nodup
  rw [← keys] at nodup
  exact ((List.perm_insertionSort _ _).map _).nodup_iff.mpr nodup

/-- The entries are in the order of their times. -/
def InOrder (dateParse : String → Option Int) (timeline : List (TimelineItem D)) : Prop :=
  timeline.Pairwise fun left right => timeOf dateParse left ≤ timeOf dateParse right

theorem inOrder_mergeTimeline (dateParse : String → Option Int)
    (current incoming : List (TimelineItem D)) :
    InOrder dateParse (mergeTimeline dateParse current incoming) := by
  have total : Std.Total fun left right : TimelineItem D =>
      timeOf dateParse left ≤ timeOf dateParse right :=
    ⟨fun left right => le_total (timeOf dateParse left) (timeOf dateParse right)⟩
  have transitive : IsTrans (TimelineItem D)
      fun left right => timeOf dateParse left ≤ timeOf dateParse right :=
    ⟨fun _ _ _ first second => le_trans first second⟩
  exact List.pairwise_insertionSort _ _

/-- Where an entry of the merged timeline comes from. -/
theorem mergeTimeline_from (listed : item ∈ mergeTimeline dateParse current incoming) :
    (item.id ∉ incoming.map (·.id) ∧ item ∈ current) ∨
      ∃ own ∈ incoming, own.header = item.header := by
  obtain ⟨absent, before⟩ | ⟨own, inside, -, same⟩ := merged_from (mem_mergeTimeline.mp listed)
  · exact .inl ⟨absent, (get?_byIdOf before).1⟩
  · exact .inr ⟨own, inside, same⟩

end AgentConsole.Web.Timeline
