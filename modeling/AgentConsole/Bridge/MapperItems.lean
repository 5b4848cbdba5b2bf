import AgentConsole.Bridge.Domain
import AgentConsole.Bridge.MapperSteps

/-! # The identity of items in the mapper

An item of a conversation is known by its tracking key.  The mapper compares the states of the
conversation key by key, emits an `ItemUpsert` for what has changed, and writes its output
events with an id it makes out of the key again.

The content of an item and its signature are parameters; here they only tell whether an item has
changed.  An emitted event stands next to the key it was emitted for. -/

namespace AgentConsole.Bridge

open AgentConsole.Lib

/-! ## Items -/

/-- `native_item_id` -/
def nativeItemId (item : Json) (nativeType : String) : ItemId :=
  match item.nativeId? with
  | some id => if id ≠ "" then { id } else { id := nativeType ++ ":unnamed", synthetic := true }
  | none => { id := nativeType ++ ":unnamed", synthetic := true }

/-- `turn_id_of` -/
def turnIdOf (turn : Json) (index : Nat) : TurnId :=
  match (turn.get? "turnId").bind Json.asStr? with
  | some id => if id ≠ "" then { id } else { id := s!"turn:{index}", synthetic := true }
  | none => { id := s!"turn:{index}", synthetic := true }

/-- An item of the domain; a conversation state says nothing about its `created_at`. -/
structure Item (Content : Type) where
  itemId : ItemId
  turn : Option TurnId
  revision : Nat
  content : Content

/-- The items of a state, each with the id of its turn. -/
def placedItems (state : Json) : List (TurnId × Json) :=
  state.extractTurns.zipIdx.flatMap fun (turn, index) =>
    turn.turnItemsOf.map (turnIdOf turn index, ·)

/-- The events of items and of their output. -/
inductive ItemEvent (Content : Type) where
  | upsert (item : Item Content)
  | output (event : OutputEvent)

def ItemEvent.itemId {Content : Type} : ItemEvent Content → ItemId
  | .upsert item => item.itemId
  | .output event => event.item

/-- The mapper with the content length of each track. -/
structure ItemMapper where
  mapper : SessionMapper := {}
  contents : FiniteMap String Nat := ∅

def SessionMapper.performAll (m : SessionMapper) :
    List SessionMapper.Input → SessionMapper × List OutputEvent
  | [] => (m, [])
  | i :: rest =>
    let (m, events) := m.perform i
    let (m, later) := performAll m rest
    (m, events ++ later)

section Items

variable {Content : Type} (parseItemContent : String → Json → Content)
  (contentSignature : Content → Nat)

def parseItem (nativeType : String) (json : Json) (turn : Option TurnId) : Item Content where
  itemId := nativeItemId json nativeType
  turn
  revision := ((json.get? "revision").bind Json.asU64?).getD 0
  content := parseItemContent nativeType json

/-- `find_item`: the first item with this native id. -/
def findItem (state : Json) (key : String) : Option (Item Content) :=
  (placedItems state).findSome? fun (turn, value) =>
    if value.nativeId? = some key then some (parseItem parseItemContent value.itemTypeOf value turn)
    else none

/-- `content_len` of a track. -/
def contentLen (item : Json) : Nat := contentSignature (parseItemContent item.itemTypeOf item)

/-- The content lengths beside `newItems`. -/
def newContents (state : Json) : FiniteMap String Nat :=
  state.items.foldl (fun contents item =>
    if contents.contains (trackKey item) then contents
    else contents.insert (trackKey item) (contentLen parseItemContent contentSignature item)) ∅

namespace ItemMapper

/-- One item of a new state.  An item that is new in a later state is upserted before its output,
a known one behind it, if a length or its status has changed. -/
def applyItem (first : Bool) (now : Nat) (state : Json) (t : ItemMapper) (key : String)
    (new : ItemTrack) : ItemMapper × List (ItemEvent Content) :=
  let content := ((newContents parseItemContent contentSignature state).get? key).getD 0
  let upsert := ((findItem parseItemContent state key).map .upsert).toList
  let (mapper, outputs) := t.mapper.applyItem first now state key new
  ({ mapper, contents := t.contents.insert key content },
    match t.mapper.items.get? key with
    | none => if first then [] else upsert ++ outputs.map .output
    | some old =>
      outputs.map .output ++
        if old.status ≠ new.status ∨ t.contents.get? key ≠ some content ∨
            old.output.length ≠ new.output.length then upsert
        else [])

def applyItems (first : Bool) (now : Nat) (state : Json) (t : ItemMapper) :
    List (String × ItemTrack) → ItemMapper × List (String × ItemEvent Content)
  | [] => (t, [])
  | (key, new) :: rest =>
    let (t, events) := applyItem parseItemContent contentSignature first now state t key new
    let (t, later) := applyItems first now state t rest
    (t, events.map (key, ·) ++ later)

/-- `apply_snapshot` -/
def applySnapshot (t : ItemMapper) (now revision : Nat) (state : Json) :
    ItemMapper × List (String × ItemEvent Content) :=
  let first := t.mapper.state.isNone
  let opened := { t.mapper with revision := some revision, state := some state }
  let (t, events) := applyItems parseItemContent contentSignature first now state
    { t with mapper := opened } (inKeyOrder (newItems state))
  -- what has gone from the state goes from the tracks
  ({ mapper := { t.mapper with items := t.mapper.items.filter fun key _ => key ∈ itemIds state }
     contents := t.contents.filter fun key _ => key ∈ itemIds state }, events)

/-- `flush_due_outputs`, key by key. -/
def takeAll (m : SessionMapper) : List String → SessionMapper × List (String × ItemEvent Content)
  | [] => (m, [])
  | key :: rest =>
    let (m, events) := m.takePendingOutput key
    let (m, later) := takeAll m rest
    (m, events.map (key, .output ·) ++ later)

/-- The state a step applies. -/
def applied? (t : ItemMapper) : SessionMapper.Input → Option Json
  | .snapshot _ _ state => some state
  | .patches _ baseRevision revision patches => t.mapper.patched? baseRevision revision patches
  | .flush _ => none

def perform (t : ItemMapper) :
    SessionMapper.Input → ItemMapper × List (String × ItemEvent Content)
  | .snapshot now revision state =>
    t.applySnapshot parseItemContent contentSignature now revision state
  | .patches now baseRevision revision patches =>
    match t.mapper.patched? baseRevision revision patches with
    | some state => t.applySnapshot parseItemContent contentSignature now revision state
    | none => (t, [])
  | .flush now =>
    let (mapper, events) := takeAll t.mapper (t.mapper.dueKeys now)
    ({ t with mapper }, events)

def step (t : ItemMapper) (i : SessionMapper.Input) : ItemMapper :=
  (t.perform parseItemContent contentSignature i).1

/-- A whole run, with all that it emits. -/
def performAll (t : ItemMapper) :
    List SessionMapper.Input → ItemMapper × List (String × ItemEvent Content)
  | [] => (t, [])
  | i :: rest =>
    let (t, events) := t.perform parseItemContent contentSignature i
    let (t, later) := performAll t rest
    (t, events ++ later)

end ItemMapper

/-! ## Identity -/

/-- Every item has a native id of its own, and no command one that reads like the key of an
unnamed item. -/
structure NativeItems (state : Json) : Prop where
  native : ∀ item ∈ state.items, ∃ id, item.nativeId? = some id ∧ id ≠ ""
  distinct : (state.items.map Json.nativeId?).Nodup
  plain : ∀ item ∈ state.items, isOutputItem item.itemTypeOf = true →
    SessionMapper.Named (trackKey item)

namespace ItemMapper

/-- The state that a step applies has native items, and none has left whose output is still in
a buffer. -/
def Regular (t : ItemMapper) (i : SessionMapper.Input) : Prop :=
  ∀ state ∈ t.applied? i, NativeItems state ∧
    ∀ key, t.mapper.pendingOutputs.contains key = true → key ∈ itemIds state

/-- The items of a state have keys of their own, these are the tracked ones, and each track is
of the item as it is. -/
structure Tracks (t : ItemMapper) (state : Json) : Prop where
  separate : (state.items.map trackKey).Nodup
  exactly : ∀ key, t.mapper.items.contains key = true ↔ key ∈ state.items.map trackKey
  current : ∀ value ∈ state.items, ∃ track, t.mapper.items.get? (trackKey value) = some track ∧
    track.status = (buildTrack value).status ∧ track.output = (buildTrack value).output ∧
    t.contents.get? (trackKey value) = some (contentLen parseItemContent contentSignature value)

/-- What was emitted for a key carries the id of the item with that key, by which `find_item`
finds that item; the tracks are those of the state; and nothing is emitted for an item that was
there before as it is now. -/
structure Consistent (t : ItemMapper) (i : SessionMapper.Input) : Prop where
  carried : ∀ key event, (key, event) ∈ (t.perform parseItemContent contentSignature i).2 →
    ∃ state turn value,
      (t.step parseItemContent contentSignature i).mapper.state = some state ∧
      (turn, value) ∈ placedItems state ∧ trackKey value = key ∧
      event.itemId = (parseItem parseItemContent value.itemTypeOf value turn).itemId ∧
      findItem parseItemContent state event.itemId.id =
        some (parseItem parseItemContent value.itemTypeOf value turn) ∧
      ∀ item, event = .upsert item →
        item = parseItem parseItemContent value.itemTypeOf value turn
  tracks : ∀ state, (t.step parseItemContent contentSignature i).mapper.state = some state →
    (t.step parseItemContent contentSignature i).Tracks parseItemContent contentSignature state
  silent : ∀ state previous, t.applied? i = some state → t.mapper.state = some previous →
    ∀ value ∈ state.items, value ∈ previous.items → ∀ event,
      (trackKey value, event) ∉ (t.perform parseItemContent contentSignature i).2

end ItemMapper

end Items

/-! ## Keys and items -/

theorem map_placedItems (state : Json) : (placedItems state).map (·.2) = state.items := by
  have step (turns : List Json) (index : Nat) :
      ((turns.zipIdx index).flatMap fun (turn, index) =>
        turn.turnItemsOf.map (turnIdOf turn index, ·)).map (·.2) = turns.flatMap Json.turnItemsOf := by
    induction turns generalizing index with
    | nil => rfl
    | cons turn turns ih => simp [List.zipIdx_cons, ih, Function.comp_def]
  exact step state.extractTurns 0

theorem newItems_some {state : Json} {key : String} {new : ItemTrack}
    (found : (newItems state).get? key = some new) :
    ∃ item ∈ state.items, trackKey item = key ∧ new = buildTrack item := by
  rw [SessionMapper.newItems_get?] at found
  obtain ⟨item, first, rfl⟩ := Option.map_eq_some_iff.mp found
  exact ⟨item, List.mem_of_find?_eq_some first, by simpa using List.find?_some first, rfl⟩

namespace NativeItems

variable {state : Json} (items : NativeItems state)
include items

theorem trackKey_eq {item : Json} (member : item ∈ state.items) :
    item.nativeId? = some (trackKey item) ∧ nativeItemId item item.itemTypeOf = { id := trackKey item } := by
  obtain ⟨id, found, named⟩ := items.native item member
  simp [trackKey, nativeItemId, found, named]

theorem map_trackKey : state.items.map (fun item => some (trackKey item)) =
    state.items.map Json.nativeId? := by
  apply List.map_congr_left
  intro item member
  exact (items.trackKey_eq member).1.symm

theorem nodup_trackKey : (state.items.map trackKey).Nodup := by
  have distinct := items.distinct
  rw [← items.map_trackKey] at distinct
  have : ((state.items.map trackKey).map some).Nodup := by simpa [Function.comp_def] using distinct
  exact List.Nodup.of_map some this

theorem mem_itemIds {key : String} : key ∈ itemIds state ↔ key ∈ state.items.map trackKey := by
  simp only [itemIds, List.mem_filterMap, List.mem_map]
  constructor
  · rintro ⟨item, member, found⟩
    rw [(items.trackKey_eq member).1] at found
    exact ⟨item, member, Option.some.inj found⟩
  · rintro ⟨item, member, rfl⟩
    exact ⟨item, member, (items.trackKey_eq member).1⟩

/-- Two items with one key are one. -/
theorem eq_of_trackKey {a b : Json} (memberA : a ∈ state.items) (memberB : b ∈ state.items)
    (same : trackKey a = trackKey b) : a = b :=
  List.inj_on_of_nodup_map items.nodup_trackKey memberA memberB same

/-- The track of an item is the one built from it. -/
theorem newItems_eq {item : Json} (member : item ∈ state.items) :
    (newItems state).get? (trackKey item) = some (buildTrack item) := by
  rw [SessionMapper.newItems_get?]
  cases found : state.items.find? fun other => trackKey other = trackKey item with
  | none =>
    have := List.find?_eq_none.mp found item member
    simp at this
  | some other =>
    have same : trackKey other = trackKey item := by simpa using List.find?_some found
    rw [items.eq_of_trackKey (List.mem_of_find?_eq_some found) member same]
    rfl

end NativeItems

section Items

variable {Content : Type} (parseItemContent : String → Json → Content)
  (contentSignature : Content → Nat)

/-- `find_item` finds the item with a key, in its turn. -/
theorem findItem_trackKey {state : Json} (items : NativeItems state) {value : Json}
    (member : value ∈ state.items) :
    ∃ turn, (turn, value) ∈ placedItems state ∧ findItem parseItemContent state (trackKey value) =
      some (parseItem parseItemContent value.itemTypeOf value turn) := by
  have placed : value ∈ (placedItems state).map (·.2) := by rwa [map_placedItems]
  obtain ⟨⟨turn, same⟩, there, rfl⟩ := List.mem_map.mp placed
  cases found : findItem parseItemContent state (trackKey same) with
  | none =>
    have missed := List.findSome?_eq_none_iff.mp found (turn, same) there
    simp [(items.trackKey_eq member).1] at missed
  | some item =>
    obtain ⟨⟨turn', other⟩, there', hit⟩ := List.exists_of_findSome?_eq_some found
    dsimp only at hit
    split at hit
    next native =>
      have member' : other ∈ state.items := by
        rw [← map_placedItems]
        exact List.mem_map.mpr ⟨(turn', other), there', rfl⟩
      have key : trackKey other = trackKey same := by
        rw [(items.trackKey_eq member').1] at native
        exact Option.some.inj native
      obtain rfl := items.eq_of_trackKey member' member key
      exact ⟨turn', there', hit.symm ▸ rfl⟩
    next => simp at hit

theorem newContents_get? (state : Json) (key : String) :
    (newContents parseItemContent contentSignature state).get? key =
      (state.items.find? fun item => trackKey item = key).map
        (contentLen parseItemContent contentSignature) := by
  have step : ∀ (items : List Json) (contents : FiniteMap String Nat),
      (items.foldl (fun contents item =>
        if contents.contains (trackKey item) then contents
        else contents.insert (trackKey item)
          (contentLen parseItemContent contentSignature item)) contents).get? key =
      (contents.get? key).or ((items.find? fun item => trackKey item = key).map
        (contentLen parseItemContent contentSignature)) := by
    intro items
    induction items with
    | nil => simp
    | cons item items ih =>
      intro contents
      rw [List.foldl_cons, ih, List.find?_cons]
      by_cases same : trackKey item = key
      · subst same
        cases known : contents.get? (trackKey item) <;> simp [FiniteMap.contains, known]
      · have other : key ≠ trackKey item := fun equal => same equal.symm
        split <;> simp [FiniteMap.get?_insert, same, other]
  simpa [newContents] using step state.items ∅

theorem newContents_eq {state : Json} (items : NativeItems state) {item : Json}
    (member : item ∈ state.items) :
    (newContents parseItemContent contentSignature state).get? (trackKey item) =
      some (contentLen parseItemContent contentSignature item) := by
  have track := items.newItems_eq member
  rw [SessionMapper.newItems_get?] at track
  obtain ⟨other, first, -⟩ := Option.map_eq_some_iff.mp track
  have same : trackKey other = trackKey item := by simpa using List.find?_some first
  rw [newContents_get?, first, items.eq_of_trackKey (List.mem_of_find?_eq_some first) member same]
  rfl

end Items

/-! ## One item -/

namespace SessionMapper

variable {m : SessionMapper}

theorem takePendingOutput_item (m : SessionMapper) (key : String) :
    ∀ e ∈ (m.takePendingOutput key).2, e.item = keyToItemId key := by
  unfold takePendingOutput
  split
  · simp
  · dsimp only
    split
    · exact item_of_appends
    · simp

/-- Output events are of commands, with the id made of the key. -/
theorem applyItem_item (m : SessionMapper) (first : Bool) (now : Nat) (state : Json) (key : String)
    (new : ItemTrack) :
    ∀ e ∈ (m.applyItem first now state key new).2,
      e.item = keyToItemId key ∧ isOutputItem new.nativeType = true := by
  intro e member
  have command : isOutputItem new.nativeType = true := by
    by_contra other
    unfold applyItem at member
    split at member
    · simp [outputEventsForNewSnapshotItem, other] at member
    · simp [outputDeltaEvents, other] at member
  refine ⟨?_, command⟩
  unfold applyItem at member
  split at member
  next =>
    split at member
    · simp only [outputEventsForNewSnapshotItem, command, if_true, List.mem_append] at member
      rcases member with replaced | ended
      · split at replaced
        · obtain rfl := List.mem_singleton.mp replaced
          rfl
        · simp at replaced
      · split at ended
        · obtain rfl := List.mem_singleton.mp ended
          rfl
        · simp at ended
    · simp at member
  next old found =>
    have change : ∀ e ∈ (m.outputChange now key old new).2, e.item = keyToItemId key := by
      unfold outputChange maybeFlushFull
      split
      · split
        · split
          · split
            · exact takePendingOutput_item _ _
            · simp
          · simp
        · simp [OutputEvent.item]
      · simp
    simp only [outputDeltaEvents, command, if_true] at member
    split at member
    · simp only [List.mem_append, List.mem_singleton] at member
      rcases member with (changed | flushed) | rfl
      · exact change e changed
      · exact takePendingOutput_item _ _ e flushed
      · rfl
    · exact change e member

/-- The track that is stored has the status and the output of the new one. -/
theorem applyItem_track (m : SessionMapper) (first : Bool) (now : Nat) (state : Json) (key : String)
    (new : ItemTrack) :
    ∃ track, (m.applyItem first now state key new).1.items.get? key = some track ∧
      track.status = new.status ∧ track.output = new.output := by
  unfold applyItem
  split
  · exact ⟨new, by simp, rfl, rfl⟩
  · refine ⟨_, FiniteMap.get?_insert_self _ _ _, ?_⟩
    unfold outputDeltaEvents
    split
    · dsimp only
      split <;> exact ⟨rfl, rfl⟩
    · exact ⟨rfl, rfl⟩

/-- Only a command gets a buffer. -/
theorem applyItem_pending {first : Bool} {now : Nat} {state : Json} {key k : String}
    {new : ItemTrack}
    (pending : (m.applyItem first now state key new).1.pendingOutputs.contains k = true) :
    m.pendingOutputs.contains k = true ∨ k = key ∧ isOutputItem new.nativeType = true := by
  by_cases same : k = key
  · by_cases command : isOutputItem new.nativeType = true
    · exact .inr ⟨same, command⟩
    · left
      unfold applyItem at pending
      split at pending
      · exact pending
      · simpa [outputDeltaEvents, command] using pending
  · left
    have apart : Apart k m (m.applyItem first now state key new).1
        (m.applyItem first now state key new).2 :=
      applyItem_apart m (Ne.symm same) first state new
    rwa [FiniteMap.contains, apart.pending] at pending

/-- An item that is as its track says has no output event. -/
theorem applyItem_silent {first : Bool} {now : Nat} {state : Json} {key : String}
    {old new : ItemTrack} (known : m.items.get? key = some old) (status : old.status = new.status)
    (output : old.output = new.output) : (m.applyItem first now state key new).2 = [] := by
  have ended : ¬ (commandStatusIsTerminal new.status = true ∧
      ¬ commandStatusIsTerminal old.status = true ∧ ¬ new.finalEmitted = true) := by
    rw [status]
    tauto
  unfold applyItem
  rw [known]
  by_cases command : isOutputItem new.nativeType = true
  · simp only [outputDeltaEvents, command, if_true, ended, if_false, outputChange, output, ne_eq,
      not_true_eq_false]
  · simp [outputDeltaEvents, command]

/-- A flush makes no buffers. -/
theorem takeAll_pending {keys : List String} {k : String}
    (pending : (m.takeAll keys).1.pendingOutputs.contains k = true) :
    m.pendingOutputs.contains k = true := by
  induction keys generalizing m with
  | nil => exact pending
  | cons key keys ih =>
    have left := ih pending
    split at left
    next => exact left
    next =>
      dsimp only at left
      split at left <;>
      · simp only [FiniteMap.contains_erase, Bool.and_eq_true] at left
        exact left.2

end SessionMapper

namespace ItemMapper

open SessionMapper (mem_inKeyOrder nodup_inKeyOrder)

section Steps

variable {Content : Type} (parseItemContent : String → Json → Content)
  (contentSignature : Content → Nat)

/-- Nothing has happened to the item `k`. -/
structure Same (k : String) (t t' : ItemMapper) : Prop where
  items : t'.mapper.items.get? k = t.mapper.items.get? k
  contents : t'.contents.get? k = t.contents.get? k
  pending : t'.mapper.pendingOutputs.get? k = t.mapper.pendingOutputs.get? k

theorem Same.refl (k : String) (t : ItemMapper) : Same k t t := ⟨rfl, rfl, rfl⟩

theorem Same.trans {k : String} {t t' t'' : ItemMapper} (first : Same k t t')
    (second : Same k t' t'') : Same k t t'' :=
  ⟨second.items.trans first.items, second.contents.trans first.contents,
    second.pending.trans first.pending⟩

theorem applyItem_same {k key : String} (other : key ≠ k) (first : Bool) (now : Nat) (state : Json)
    (t : ItemMapper) (new : ItemTrack) :
    Same k t (applyItem parseItemContent contentSignature first now state t key new).1 := by
  have apart : SessionMapper.Apart k t.mapper (t.mapper.applyItem first now state key new).1
      (t.mapper.applyItem first now state key new).2 :=
    SessionMapper.applyItem_apart t.mapper other first state new
  refine ⟨apart.items, ?_, apart.pending⟩
  simp only [applyItem, FiniteMap.get?_insert, if_neg (Ne.symm other)]

/-- What is emitted for a key is the item `find_item` finds there, or output of a command. -/
theorem applyItem_event {first : Bool} {now : Nat} {state : Json} {t : ItemMapper} {key : String}
    {new : ItemTrack} {event : ItemEvent Content}
    (member : event ∈ (applyItem parseItemContent contentSignature first now state t key new).2) :
    (∃ item, event = .upsert item ∧ findItem parseItemContent state key = some item) ∨
      ∃ output, event = .output output ∧ output.item = keyToItemId key ∧
        isOutputItem new.nativeType = true := by
  have outputs (inside : event ∈
      (t.mapper.applyItem first now state key new).2.map (@ItemEvent.output Content)) :
      ∃ output, event = .output output ∧ output.item = keyToItemId key ∧
        isOutputItem new.nativeType = true := by
    obtain ⟨output, emitted, rfl⟩ := List.mem_map.mp inside
    obtain ⟨carried, command⟩ :=
      SessionMapper.applyItem_item t.mapper first now state key new output emitted
    exact ⟨output, rfl, carried, command⟩
  have upserts (inside : event ∈ ((findItem parseItemContent state key).map .upsert).toList) :
      ∃ item, event = .upsert item ∧ findItem parseItemContent state key = some item := by
    obtain ⟨item, found, rfl⟩ := Option.map_eq_some_iff.mp (Option.mem_toList.mp inside)
    exact ⟨item, rfl, found⟩
  simp only [applyItem] at member
  split at member
  next =>
    split at member
    next => simp at member
    next =>
      rcases List.mem_append.mp member with upsert | output
      · exact .inl (upserts upsert)
      · exact .inr (outputs output)
  next =>
    rcases List.mem_append.mp member with output | upsert
    · exact .inr (outputs output)
    · split at upsert
      · exact .inl (upserts upsert)
      · simp at upsert

/-- Nothing is emitted for an item that is as its track says. -/
theorem applyItem_unchanged {first : Bool} {now : Nat} {state : Json} {t : ItemMapper}
    {key : String} {old new : ItemTrack} (known : t.mapper.items.get? key = some old)
    (status : old.status = new.status) (output : old.output = new.output) {content : Nat}
    (length : t.contents.get? key = some content)
    (fresh : (newContents parseItemContent contentSignature state).get? key = some content) :
    (applyItem parseItemContent contentSignature first now state t key new).2 = [] := by
  have silent : (t.mapper.applyItem first now state key new).2 = [] :=
    SessionMapper.applyItem_silent known status output
  simp [applyItem, known, silent, status, output, length, fresh]

theorem applyItems_other {k : String} {entries : List (String × ItemTrack)}
    (absent : k ∉ entries.map (·.1)) (first : Bool) (now : Nat) (state : Json) (t : ItemMapper) :
    Same k t (applyItems parseItemContent contentSignature first now state t entries).1 ∧
      ∀ event, (k, event) ∉
        (applyItems parseItemContent contentSignature first now state t entries).2 := by
  induction entries generalizing t with
  | nil => exact ⟨.refl k t, by simp [applyItems]⟩
  | cons e entries ih =>
    simp only [List.map_cons, List.mem_cons, not_or] at absent
    obtain ⟨same, silent⟩ :=
      ih absent.2 (applyItem parseItemContent contentSignature first now state t e.1 e.2).1
    refine ⟨(applyItem_same parseItemContent contentSignature (Ne.symm absent.1) first now state t
      e.2).trans same, ?_⟩
    intro event member
    simp only [applyItems, List.mem_append, List.mem_map, Prod.mk.injEq] at member
    rcases member with ⟨_, -, key, -⟩ | later
    · exact absent.1 key.symm
    · exact silent event later

/-- An item of a new state has its turn once, and what is emitted for it is emitted then. -/
theorem applyItems_turn {k : String} {new : ItemTrack} {entries : List (String × ItemTrack)}
    (nodup : (entries.map (·.1)).Nodup) (member : (k, new) ∈ entries) (first : Bool) (now : Nat)
    (state : Json) (t : ItemMapper) :
    ∃ t', Same k t t' ∧
      Same k (applyItem parseItemContent contentSignature first now state t' k new).1
        (applyItems parseItemContent contentSignature first now state t entries).1 ∧
      ∀ event, (k, event) ∈
          (applyItems parseItemContent contentSignature first now state t entries).2 ↔
        event ∈ (applyItem parseItemContent contentSignature first now state t' k new).2 := by
  induction entries generalizing t with
  | nil => simp at member
  | cons e entries ih =>
    simp only [List.map_cons, List.nodup_cons] at nodup
    rcases List.mem_cons.mp member with rfl | later
    · obtain ⟨same, silent⟩ := applyItems_other parseItemContent contentSignature nodup.1 first now
        state (applyItem parseItemContent contentSignature first now state t k new).1
      refine ⟨t, .refl k t, same, ?_⟩
      intro event
      simp only [applyItems, List.mem_append, List.mem_map, Prod.mk.injEq, true_and,
        exists_eq_right]
      exact ⟨fun either => either.resolve_right (silent event), .inl⟩
    · have other : e.1 ≠ k := by
        intro same
        exact nodup.1 (same ▸ List.mem_map.mpr ⟨_, later, rfl⟩)
      obtain ⟨t', before, after, events⟩ := ih nodup.2 later
        (applyItem parseItemContent contentSignature first now state t e.1 e.2).1
      refine ⟨t', (applyItem_same parseItemContent contentSignature other first now state t
        e.2).trans before, after, ?_⟩
      intro event
      rw [← events]
      simp [applyItems, other]

/-- A buffer was there before, or is of a command of the new state. -/
theorem applyItems_pending {k : String} {entries : List (String × ItemTrack)} {first : Bool}
    {now : Nat} {state : Json} {t : ItemMapper}
    (pending : (applyItems parseItemContent contentSignature first now state t
      entries).1.mapper.pendingOutputs.contains k = true) :
    t.mapper.pendingOutputs.contains k = true ∨
      ∃ new, (k, new) ∈ entries ∧ isOutputItem new.nativeType = true := by
  induction entries generalizing t with
  | nil => exact .inl pending
  | cons e entries ih =>
    rcases ih pending with before | ⟨new, later, command⟩
    · rcases SessionMapper.applyItem_pending before with earlier | ⟨rfl, command⟩
      · exact .inl earlier
      · exact .inr ⟨e.2, by simp, command⟩
    · exact .inr ⟨new, List.mem_cons_of_mem _ later, command⟩

theorem applyItems_state (first : Bool) (now : Nat) (state : Json) (t : ItemMapper)
    (entries : List (String × ItemTrack)) :
    (applyItems parseItemContent contentSignature first now state t entries).1.mapper.state =
      t.mapper.state := by
  induction entries generalizing t with
  | nil => rfl
  | cons e entries ih =>
    exact (ih _).trans (SessionMapper.applyItem_state t.mapper first now state e.1 e.2)

/-! ## Flushes -/

theorem fst_takeAll (m : SessionMapper) (keys : List String) :
    (@takeAll Content m keys).1 = (m.takeAll keys).1 := by
  induction keys generalizing m with
  | nil => rfl
  | cons key keys ih => exact ih _

theorem takeAll_event {m : SessionMapper} {keys : List String} {key : String}
    {event : ItemEvent Content} (member : (key, event) ∈ (takeAll m keys).2) :
    key ∈ keys ∧ ∃ output, event = .output output ∧ output.item = keyToItemId key := by
  induction keys generalizing m with
  | nil => simp [takeAll] at member
  | cons first keys ih =>
    simp only [takeAll, List.mem_append, List.mem_map, Prod.mk.injEq] at member
    rcases member with ⟨output, emitted, rfl, rfl⟩ | later
    · exact ⟨List.mem_cons_self,
        output, rfl, SessionMapper.takePendingOutput_item m first output emitted⟩
    · obtain ⟨inside, rest⟩ := ih later
      exact ⟨List.mem_cons_of_mem _ inside, rest⟩

/-! ## A step -/

/-- The last state has native items, which are tracked, and what is in a buffer is of an item
with a plain key. -/
structure Inv (t : ItemMapper) : Prop where
  fresh : t.mapper.state = none → (∀ key, t.mapper.items.get? key = none) ∧
    ∀ key, t.mapper.pendingOutputs.get? key = none
  native : ∀ state, t.mapper.state = some state → NativeItems state
  tracks : ∀ state, t.mapper.state = some state →
    t.Tracks parseItemContent contentSignature state
  pending : ∀ key, t.mapper.pendingOutputs.contains key = true → SessionMapper.Named key ∧
    ∀ state, t.mapper.state = some state → key ∈ state.items.map trackKey

theorem inv_init : Inv parseItemContent contentSignature {} := by
  constructor <;> simp [FiniteMap.contains]

/-- An event with the id of the item that has its key. -/
theorem carried_of_id {state : Json} (items : NativeItems state) {key : String}
    (member : key ∈ state.items.map trackKey) {event : ItemEvent Content}
    (shape : (∃ item, event = .upsert item ∧ findItem parseItemContent state key = some item) ∨
      ∃ output, event = .output output ∧ output.item = { id := key }) :
    ∃ turn value, (turn, value) ∈ placedItems state ∧ trackKey value = key ∧
      event.itemId = (parseItem parseItemContent value.itemTypeOf value turn).itemId ∧
      findItem parseItemContent state event.itemId.id =
        some (parseItem parseItemContent value.itemTypeOf value turn) ∧
      ∀ item, event = .upsert item →
        item = parseItem parseItemContent value.itemTypeOf value turn := by
  obtain ⟨value, inside, rfl⟩ := List.mem_map.mp member
  obtain ⟨turn, placed, found⟩ := findItem_trackKey parseItemContent items inside
  have id : (parseItem parseItemContent value.itemTypeOf value turn).itemId =
      { id := trackKey value } := (items.trackKey_eq inside).2
  refine ⟨turn, value, placed, rfl, ?_⟩
  rcases shape with ⟨item, rfl, hit⟩ | ⟨output, rfl, carries⟩
  · obtain rfl := Option.some.inj (hit.symm.trans found)
    refine ⟨rfl, ?_, ?_⟩
    · rw [ItemEvent.itemId, id, found]
    · intro item same
      exact (ItemEvent.upsert.inj same).symm
  · refine ⟨by rw [ItemEvent.itemId, carries, id], ?_, by simp⟩
    rw [ItemEvent.itemId, carries, found]

variable {parseItemContent contentSignature}

/-- A snapshot of native items, with no buffer of an item that has left. -/
theorem Inv.applySnapshot {t : ItemMapper} (inv : Inv parseItemContent contentSignature t)
    {state : Json} (items : NativeItems state)
    (kept : ∀ key, t.mapper.pendingOutputs.contains key = true → key ∈ itemIds state)
    (now revision : Nat) :
    Inv parseItemContent contentSignature
        (t.applySnapshot parseItemContent contentSignature now revision state).1 ∧
      (t.applySnapshot parseItemContent contentSignature now revision state).1.mapper.state =
        some state := by
  have nodup := nodup_inKeyOrder (newItems state)
  -- the mapper before its items have their turns, and behind the turns
  obtain ⟨opened, before⟩ : ∃ opened : ItemMapper, opened =
      { t with mapper := { t.mapper with revision := some revision, state := some state } } :=
    ⟨_, rfl⟩
  obtain ⟨after, applied⟩ : ∃ after : ItemMapper, after =
      (applyItems parseItemContent contentSignature t.mapper.state.isNone now state opened
        (inKeyOrder (newItems state))).1 := ⟨_, rfl⟩
  have last : after.mapper.state = some state := by
    rw [applied, applyItems_state, before]
  have result : (t.applySnapshot parseItemContent contentSignature now revision state).1 =
      { mapper := { after.mapper with
          items := after.mapper.items.filter fun key _ => key ∈ itemIds state }
        contents := after.contents.filter fun key _ => key ∈ itemIds state } := by
    rw [applied, before]
    rfl
  rw [result]
  refine ⟨⟨by simp [last], ?_, ?_, ?_⟩, last⟩
  · intro state' same
    obtain rfl := Option.some.inj (last.symm.trans same)
    exact items
  · intro state' same
    obtain rfl := Option.some.inj (last.symm.trans same)
    have current : ∀ value ∈ state.items, ∃ track,
        after.mapper.items.get? (trackKey value) = some track ∧
        track.status = (buildTrack value).status ∧ track.output = (buildTrack value).output ∧
        after.contents.get? (trackKey value) =
          some (contentLen parseItemContent contentSignature value) := by
      intro value member
      have entry := mem_inKeyOrder.mpr (items.newItems_eq member)
      obtain ⟨t', -, same, -⟩ := applyItems_turn parseItemContent contentSignature nodup entry
        t.mapper.state.isNone now state opened
      rw [← applied] at same
      obtain ⟨track, stored, status, output⟩ := SessionMapper.applyItem_track t'.mapper
        t.mapper.state.isNone now state (trackKey value) (buildTrack value)
      refine ⟨track, same.items.trans stored, status, output, same.contents.trans ?_⟩
      simp only [applyItem, FiniteMap.get?_insert_self]
      rw [newContents_eq parseItemContent contentSignature items member, Option.getD_some]
    have listed : ∀ value ∈ state.items, trackKey value ∈ itemIds state := by
      intro value member
      exact items.mem_itemIds.mpr (List.mem_map.mpr ⟨value, member, rfl⟩)
    refine ⟨items.nodup_trackKey, ?_, ?_⟩
    · intro key
      rw [FiniteMap.contains_filter, ← items.mem_itemIds]
      simp only [Bool.and_eq_true, decide_eq_true_eq]
      constructor
      · intro both
        exact both.1
      · intro member
        refine ⟨member, ?_⟩
        obtain ⟨value, inside, rfl⟩ := List.mem_map.mp (items.mem_itemIds.mp member)
        obtain ⟨track, found, -⟩ := current value inside
        simp [FiniteMap.contains, found]
    · intro value member
      obtain ⟨track, found, status, output, content⟩ := current value member
      refine ⟨track, ?_, status, output, ?_⟩
      · simp [FiniteMap.get?_filter, found, listed value member]
      · simp [FiniteMap.get?_filter, content, listed value member]
  · intro key pending
    have earlier : t.mapper.pendingOutputs.contains key = true ∨
        ∃ new, (key, new) ∈ inKeyOrder (newItems state) ∧ isOutputItem new.nativeType = true := by
      have held : after.mapper.pendingOutputs.contains key = true := pending
      rw [applied] at held
      have := applyItems_pending parseItemContent contentSignature held
      rwa [before] at this
    have place : SessionMapper.Named key ∧ key ∈ state.items.map trackKey := by
      rcases earlier with held | ⟨new, entry, command⟩
      · exact ⟨(inv.pending key held).1, items.mem_itemIds.mp (kept key held)⟩
      · obtain ⟨value, member, rfl, rfl⟩ := newItems_some (mem_inKeyOrder.mp entry)
        exact ⟨items.plain value member command, List.mem_map.mpr ⟨value, member, rfl⟩⟩
    refine ⟨place.1, ?_⟩
    intro state' same
    obtain rfl := Option.some.inj (last.symm.trans same)
    exact place.2

/-- What a snapshot emits for a key, in the turn of the key's item. -/
theorem mem_applySnapshot {t : ItemMapper} {state : Json} {now revision : Nat} {key : String}
    {event : ItemEvent Content}
    (member : (key, event) ∈ (t.applySnapshot parseItemContent contentSignature now revision
      state).2) :
    ∃ new t', (newItems state).get? key = some new ∧
      t'.mapper.items.get? key = t.mapper.items.get? key ∧
      t'.contents.get? key = t.contents.get? key ∧
      event ∈ (applyItem parseItemContent contentSignature t.mapper.state.isNone now state t' key
        new).2 := by
  by_cases listed : key ∈ (inKeyOrder (newItems state)).map (·.1)
  · obtain ⟨⟨_, new⟩, entry, rfl⟩ := List.mem_map.mp listed
    obtain ⟨t', same, -, events⟩ := applyItems_turn parseItemContent contentSignature
      (nodup_inKeyOrder (newItems state)) entry t.mapper.state.isNone now state
      { t with mapper := { t.mapper with revision := some revision, state := some state } }
    exact ⟨new, t', mem_inKeyOrder.mp entry, same.items, same.contents, (events event).mp member⟩
  · obtain ⟨-, silent⟩ := applyItems_other parseItemContent contentSignature listed
      t.mapper.state.isNone now state
      { t with mapper := { t.mapper with revision := some revision, state := some state } }
    exact absurd member (silent event)

theorem applySnapshot_carried {t : ItemMapper} {state : Json} (items : NativeItems state)
    {now revision : Nat} {key : String} {event : ItemEvent Content}
    (member : (key, event) ∈ (t.applySnapshot parseItemContent contentSignature now revision
      state).2) :
    ∃ turn value, (turn, value) ∈ placedItems state ∧ trackKey value = key ∧
      event.itemId = (parseItem parseItemContent value.itemTypeOf value turn).itemId ∧
      findItem parseItemContent state event.itemId.id =
        some (parseItem parseItemContent value.itemTypeOf value turn) ∧
      ∀ item, event = .upsert item →
        item = parseItem parseItemContent value.itemTypeOf value turn := by
  obtain ⟨new, t', found, -, -, emitted⟩ := mem_applySnapshot member
  obtain ⟨value, inside, rfl, rfl⟩ := newItems_some found
  apply carried_of_id parseItemContent items (List.mem_map.mpr ⟨value, inside, rfl⟩)
  rcases applyItem_event parseItemContent contentSignature emitted with
    upsert | ⟨output, rfl, carries, command⟩
  · exact .inl upsert
  · exact .inr ⟨output, rfl, carries.trans (items.plain value inside command).keyToItemId⟩

/-- An item that stays as it is has no event. -/
theorem applySnapshot_silent {t : ItemMapper} (inv : Inv parseItemContent contentSignature t)
    {state previous : Json} (items : NativeItems state) (known : t.mapper.state = some previous)
    {value : Json} (member : value ∈ state.items) (before : value ∈ previous.items)
    (now revision : Nat) (event : ItemEvent Content) :
    (trackKey value, event) ∉
      (t.applySnapshot parseItemContent contentSignature now revision state).2 := by
  intro emitted
  obtain ⟨new, t', found, sameItems, sameContents, inTurn⟩ := mem_applySnapshot emitted
  rw [items.newItems_eq member] at found
  obtain rfl := Option.some.inj found
  obtain ⟨track, tracked, status, output, content⟩ :=
    (inv.tracks previous known).current value before
  have quiet : (applyItem parseItemContent contentSignature t.mapper.state.isNone now state t'
      (trackKey value) (buildTrack value)).2 = [] :=
    applyItem_unchanged parseItemContent contentSignature (sameItems.trans tracked) status output
      (sameContents.trans content) (newContents_eq parseItemContent contentSignature items member)
  simp [quiet] at inTurn

/-- A flush changes neither the state nor the tracks, and empties buffers. -/
theorem Inv.flush {t : ItemMapper} (inv : Inv parseItemContent contentSignature t) (now : Nat) :
    Inv parseItemContent contentSignature
      { t with mapper := (t.mapper.takeAll (t.mapper.dueKeys now)).1 } := by
  have state : (t.mapper.takeAll (t.mapper.dueKeys now)).1.state = t.mapper.state :=
    SessionMapper.takeAll_state _ _
  have items : (t.mapper.takeAll (t.mapper.dueKeys now)).1.items = t.mapper.items :=
    SessionMapper.takeAll_items _ _
  constructor
  · intro none_
    rw [state] at none_
    obtain ⟨noTracks, noBuffers⟩ := inv.fresh none_
    refine ⟨by simpa [items] using noTracks, ?_⟩
    intro key
    cases held : (t.mapper.takeAll (t.mapper.dueKeys now)).1.pendingOutputs.get? key with
    | none => rfl
    | some pending =>
      have still :
          (t.mapper.takeAll (t.mapper.dueKeys now)).1.pendingOutputs.contains key = true := by
        simp [FiniteMap.contains, held]
      have before := SessionMapper.takeAll_pending still
      simp [FiniteMap.contains, noBuffers key] at before
  · intro last same
    exact inv.native last (by rwa [state] at same)
  · intro last same
    rw [state] at same
    have tracks := inv.tracks last same
    exact ⟨tracks.separate, by simpa [items] using tracks.exactly,
      by simpa [items] using tracks.current⟩
  · intro key held
    obtain ⟨named, kept⟩ := inv.pending key (SessionMapper.takeAll_pending held)
    refine ⟨named, ?_⟩
    intro last same
    exact kept last (by rwa [state] at same)

theorem inv_step {t : ItemMapper} (inv : Inv parseItemContent contentSignature t)
    {i : SessionMapper.Input} (regular : t.Regular i) :
    Inv parseItemContent contentSignature (t.step parseItemContent contentSignature i) := by
  cases i with
  | snapshot now revision state =>
    obtain ⟨items, kept⟩ := regular state rfl
    exact (inv.applySnapshot items kept now revision).1
  | patches now baseRevision revision patches =>
    rw [step, perform]
    cases patched : t.mapper.patched? baseRevision revision patches with
    | none => exact inv
    | some state =>
      obtain ⟨items, kept⟩ := regular state patched
      exact (inv.applySnapshot items kept now revision).1
  | flush now =>
    have flushed := inv.flush now
    rw [step, perform]
    simp only [fst_takeAll]
    exact flushed

/-- A snapshot step, whether the state came whole or by patches. -/
theorem Inv.consistent_snapshot {t : ItemMapper} (inv : Inv parseItemContent contentSignature t)
    {i : SessionMapper.Input} {now revision : Nat} {state : Json}
    (performs : t.perform parseItemContent contentSignature i =
      t.applySnapshot parseItemContent contentSignature now revision state)
    (applied : t.applied? i = some state) (items : NativeItems state)
    (kept : ∀ key, t.mapper.pendingOutputs.contains key = true → key ∈ itemIds state) :
    t.Consistent parseItemContent contentSignature i := by
  obtain ⟨after, last⟩ := inv.applySnapshot items kept now revision
  have result : t.step parseItemContent contentSignature i =
      (t.applySnapshot parseItemContent contentSignature now revision state).1 := by
    rw [step, performs]
  constructor
  · intro key event member
    rw [performs] at member
    rw [result]
    obtain ⟨turn, value, rest⟩ := applySnapshot_carried items member
    exact ⟨state, turn, value, last, rest⟩
  · intro state' same
    rw [result] at same ⊢
    exact after.tracks state' same
  · intro state' previous same known value member before event
    obtain rfl := Option.some.inj (applied.symm.trans same)
    rw [performs]
    exact applySnapshot_silent inv items known member before now revision event

theorem Inv.consistent {t : ItemMapper} (inv : Inv parseItemContent contentSignature t)
    {i : SessionMapper.Input} (regular : t.Regular i) :
    t.Consistent parseItemContent contentSignature i := by
  have after := inv_step inv regular
  cases i with
  | snapshot now revision state =>
    obtain ⟨items, kept⟩ := regular state rfl
    exact inv.consistent_snapshot rfl rfl items kept
  | patches now baseRevision revision patches =>
    cases patched : t.mapper.patched? baseRevision revision patches with
    | none =>
      have idle : t.perform parseItemContent contentSignature
          (.patches now baseRevision revision patches) = (t, []) := by
        rw [perform, patched]
      constructor
      · simp [idle]
      · exact fun state same => after.tracks state same
      · simp [idle]
    | some state =>
      obtain ⟨items, kept⟩ := regular state patched
      exact inv.consistent_snapshot (by rw [perform, patched]) patched items kept
  | flush now =>
    constructor
    · intro key event member
      have emitted : (key, event) ∈
          (@takeAll Content t.mapper (t.mapper.dueKeys now)).2 := member
      obtain ⟨due, output, rfl, carries⟩ := takeAll_event emitted
      obtain ⟨pending, held, -⟩ := SessionMapper.mem_dueKeys.mp due
      obtain ⟨named, kept⟩ := inv.pending key (by simp [FiniteMap.contains, held])
      cases last : t.mapper.state with
      | none =>
        have := (inv.fresh last).2 key
        simp [held] at this
      | some state =>
        obtain ⟨turn, value, rest⟩ := carried_of_id parseItemContent (inv.native state last)
          (kept state last) (.inr ⟨output, rfl, carries.trans named.keyToItemId⟩)
        refine ⟨state, turn, value, ?_, rest⟩
        have same : (t.step parseItemContent contentSignature (.flush now)).mapper =
            (t.mapper.takeAll (t.mapper.dueKeys now)).1 := fst_takeAll _ _
        rw [same, SessionMapper.takeAll_state, last]
    · exact fun state same => after.tracks state same
    · simp [applied?]

/-! ## The mapper without items -/

def outputsOf (events : List (String × ItemEvent Content)) : List OutputEvent :=
  events.filterMap fun entry =>
    match entry.2 with
    | .output event => some event
    | .upsert _ => none

theorem outputsOf_append (events later : List (String × ItemEvent Content)) :
    outputsOf (events ++ later) = outputsOf events ++ outputsOf later :=
  List.filterMap_append

theorem outputsOf_outputs (key : String) (outputs : List OutputEvent) :
    @outputsOf Content ((outputs.map .output).map (key, ·)) = outputs := by
  simp [outputsOf, List.filterMap_map, Function.comp_def]

theorem outputsOf_applyItem (first : Bool) (now : Nat) (state : Json) (t : ItemMapper)
    (key : String) (new : ItemTrack) :
    outputsOf ((applyItem parseItemContent contentSignature first now state t key new).2.map
      (key, ·)) = (t.mapper.applyItem first now state key new).2 := by
  have upserts : outputsOf ((((findItem parseItemContent state key).map
      ItemEvent.upsert).toList).map (key, ·)) = [] := by
    cases findItem parseItemContent state key <;> simp [outputsOf]
  simp only [applyItem]
  split
  next missing =>
    split
    next start => simp [SessionMapper.applyItem, missing, start, outputsOf]
    next => rw [List.map_append, outputsOf_append, upserts, outputsOf_outputs, List.nil_append]
  next =>
    rw [List.map_append, outputsOf_append, outputsOf_outputs]
    split
    next => rw [upserts, List.append_nil]
    next => simp [outputsOf]

theorem applyItems_mapper (first : Bool) (now : Nat) (state : Json) (t : ItemMapper)
    (entries : List (String × ItemTrack)) :
    (applyItems parseItemContent contentSignature first now state t entries).1.mapper =
        (t.mapper.applyItems first now state entries).1 ∧
      outputsOf (applyItems parseItemContent contentSignature first now state t entries).2 =
        (t.mapper.applyItems first now state entries).2 := by
  induction entries generalizing t with
  | nil => exact ⟨rfl, rfl⟩
  | cons e entries ih =>
    obtain ⟨mapper, outputs⟩ :=
      ih (applyItem parseItemContent contentSignature first now state t e.1 e.2).1
    refine ⟨mapper, ?_⟩
    rw [applyItems, outputsOf_append, outputsOf_applyItem, outputs]
    rfl

theorem takeAll_outputs (m : SessionMapper) (keys : List String) :
    outputsOf (@takeAll Content m keys).2 = (m.takeAll keys).2 := by
  induction keys generalizing m with
  | nil => rfl
  | cons key keys ih =>
    have taken := @outputsOf_outputs Content key (m.takePendingOutput key).2
    rw [List.map_map] at taken
    rw [takeAll, outputsOf_append, ih]
    exact congrArg (· ++ _) taken

/-- The steps are those of the mapper of outputs, with the events of the items between. -/
theorem perform_mapper (t : ItemMapper) (i : SessionMapper.Input) :
    (t.perform parseItemContent contentSignature i).1.mapper = (t.mapper.perform i).1 ∧
      outputsOf (t.perform parseItemContent contentSignature i).2 = (t.mapper.perform i).2 := by
  have snapshot (now revision : Nat) (state : Json) :
      (t.applySnapshot parseItemContent contentSignature now revision state).1.mapper =
          (t.mapper.applySnapshot now revision state).1 ∧
        outputsOf (t.applySnapshot parseItemContent contentSignature now revision state).2 =
          (t.mapper.applySnapshot now revision state).2 := by
    obtain ⟨mapper, outputs⟩ := @applyItems_mapper Content parseItemContent contentSignature
      t.mapper.state.isNone now state
      { t with mapper := { t.mapper with revision := some revision, state := some state } }
      (inKeyOrder (newItems state))
    refine ⟨?_, outputs⟩
    simp only [applySnapshot, SessionMapper.applySnapshot, mapper]
  cases i with
  | snapshot now revision state => exact snapshot now revision state
  | patches now baseRevision revision patches =>
    rw [perform, SessionMapper.perform, SessionMapper.applyPatches]
    cases t.mapper.patched? baseRevision revision patches with
    | none => exact ⟨rfl, rfl⟩
    | some state => exact snapshot now revision state
  | flush now => exact ⟨fst_takeAll _ _, takeAll_outputs _ _⟩

/-- The mapper of items refines that of outputs over whole runs. -/
theorem performAll_mapper (t : ItemMapper) (inputs : List SessionMapper.Input) :
    (t.performAll parseItemContent contentSignature inputs).1.mapper =
        (t.mapper.performAll inputs).1 ∧
      outputsOf (t.performAll parseItemContent contentSignature inputs).2 =
        (t.mapper.performAll inputs).2 := by
  induction inputs generalizing t with
  | nil => exact ⟨rfl, rfl⟩
  | cons i inputs inductionHypothesis =>
    obtain ⟨mapper, outputs⟩ := @perform_mapper Content parseItemContent contentSignature t i
    obtain ⟨later, others⟩ :=
      inductionHypothesis (t.perform parseItemContent contentSignature i).1
    rw [mapper] at later others
    exact ⟨later, by rw [performAll, outputsOf_append, outputs, others]; rfl⟩

/-! ## Every run -/

/-- A snapshot whose tracks are its items has native items only, each with an id of its own. -/
theorem native_of_tracks {t : ItemMapper} {now revision : Nat} {state : Json}
    (tracks : (t.applySnapshot parseItemContent contentSignature now revision state).1.Tracks
      parseItemContent contentSignature state) :
    (∀ item ∈ state.items, ∃ id, item.nativeId? = some id ∧ id ≠ "") ∧
      (state.items.map Json.nativeId?).Nodup := by
  have listed : ∀ item ∈ state.items, trackKey item ∈ itemIds state := by
    intro item member
    have held := (tracks.exactly (trackKey item)).mpr (List.mem_map.mpr ⟨item, member, rfl⟩)
    simp only [applySnapshot, FiniteMap.contains_filter, Bool.and_eq_true,
      decide_eq_true_eq] at held
    exact held.1
  have native : ∀ item ∈ state.items, ∃ id, item.nativeId? = some id ∧ id ≠ "" := by
    intro item member
    by_contra unnamed
    have key : trackKey item = item.itemTypeOf ++ ":unnamed" := by
      cases found : item.nativeId? with
      | none => simp [trackKey, trackKey.unnamed, found]
      | some id =>
        have empty : id = "" := by
          by_contra named
          exact unnamed ⟨id, found, named⟩
        simp [trackKey, trackKey.unnamed, found, empty]
    -- its key is tracked, so it is the native id of another item, which has the same key
    obtain ⟨other, there, id⟩ := List.mem_filterMap.mp (listed item member)
    have named : trackKey item ≠ "" := by
      rw [key]
      intro empty
      have := congrArg String.length empty
      simp at this
    have same : trackKey other = trackKey item := by
      conv_lhs => rw [trackKey, id]
      simp [named]
    obtain rfl := List.inj_on_of_nodup_map tracks.separate there member same
    exact unnamed ⟨_, id, named⟩
  refine ⟨native, ?_⟩
  have keys : state.items.map Json.nativeId? = (state.items.map trackKey).map some := by
    rw [List.map_map]
    apply List.map_congr_left
    intro item member
    obtain ⟨id, found, named⟩ := native item member
    simp [trackKey, found, named]
  rw [keys]
  exact List.Nodup.map (Option.some_injective _) tracks.separate

/-- The identity of items is consistent only in a run of states with native items. -/
theorem native_of_consistent {t : ItemMapper} {inputs : List SessionMapper.Input}
    (consistent : Along (step parseItemContent contentSignature)
      (Consistent parseItemContent contentSignature) t inputs) :
    Along (step parseItemContent contentSignature) (fun t i => ∀ state ∈ t.applied? i,
      (∀ item ∈ state.items, ∃ id, item.nativeId? = some id ∧ id ≠ "") ∧
        (state.items.map Json.nativeId?).Nodup) t inputs := by
  have taken (t : ItemMapper) (now revision : Nat) (state : Json) :
      (t.applySnapshot parseItemContent contentSignature now revision state).1.mapper.state =
        some state := applyItems_state ..
  refine Along.of_invariant (I := fun _ => True) (fun _ _ _ _ => trivial)
    (fun t i _ consistent state applied => ?_) trivial consistent
  have tracks := consistent.tracks state
  cases i with
  | snapshot now revision =>
    obtain rfl := Option.some.inj applied
    exact native_of_tracks (tracks (taken t now revision _))
  | patches now baseRevision revision patches =>
    have patched : t.mapper.patched? baseRevision revision patches = some state := applied
    simp only [step, perform, patched] at tracks
    exact native_of_tracks (tracks (taken t now revision state))
  | flush => cases applied

/-- In a run of states with native items, each buffer being flushed before its item leaves, the
identity of the items is consistent at every step. -/
theorem items_consistent (parseItemContent : String → Json → Content)
    (contentSignature : Content → Nat) (inputs : List SessionMapper.Input)
    (regular : Along (step parseItemContent contentSignature) Regular {} inputs) :
    Along (step parseItemContent contentSignature)
      (Consistent parseItemContent contentSignature) {} inputs :=
  Along.of_invariant (fun _ _ inv regular => inv_step inv regular)
    (fun _ _ inv regular => inv.consistent regular) (inv_init parseItemContent contentSignature)
    regular

end Steps

/-! ## An item with an id and one without -/

/-- The text of an agent message, and its signature. -/
def messageText (_nativeType : String) (json : Json) : String :=
  ((json.get? "text").bind Json.asStr?).getD ""

def message (id : Option String) (text : String) : Json :=
  .obj ((id.map fun id => ("id", .str id)).toList ++
    [("text", .str text), ("type", .str "agentMessage")])

def conversation (item : Json) : Json :=
  .obj [("turns", .arr [.obj [("items", .arr [item]), ("turnId", .str "t-1")]])]

theorem nativeItems_message {id text : String} (named : id ≠ "") :
    NativeItems (conversation (message (some id) text)) := by
  have items : (conversation (message (some id) text)).items = [message (some id) text] := rfl
  constructor
  · intro item member
    rw [items] at member
    obtain rfl := List.mem_singleton.mp member
    exact ⟨id, rfl, named⟩
  · simp [items]
  · intro item member command
    rw [items] at member
    obtain rfl := List.mem_singleton.mp member
    have type : (message (some id) text).itemTypeOf = "agentMessage" := rfl
    rw [type] at command
    exact absurd command (by decide)

/-- A message that grows. -/
theorem growing_message_consistent :
    Along (step messageText String.utf8ByteSize) (Consistent messageText String.utf8ByteSize) {}
      [.snapshot 0 1 (conversation (message (some "i-1") "a")),
        .snapshot 5 2 (conversation (message (some "i-1") "ab"))] := by
  apply items_consistent
  refine ⟨?_, ?_, trivial⟩
  · intro state applied
    obtain rfl := Option.some.inj applied
    exact ⟨nativeItems_message (by decide), by simp [FiniteMap.contains]⟩
  · intro state applied
    obtain rfl := Option.some.inj applied
    refine ⟨nativeItems_message (by decide), ?_⟩
    intro key pending
    have none_ : (step messageText String.utf8ByteSize {}
        (.snapshot 0 1 (conversation (message (some "i-1") "a")))).mapper.pendingOutputs = ∅ := rfl
    rw [none_] at pending
    simp [FiniteMap.contains] at pending

theorem native_of_consistent_message :
    ∃ id, (message (some "i-1") "a").nativeId? = some id ∧ id ≠ "" := by
  have along : Along (step messageText String.utf8ByteSize)
      (Consistent messageText String.utf8ByteSize) {}
      [.snapshot 0 1 (conversation (message (some "i-1") "a"))] := by
    refine Along.of_invariant (fun _ _ inv regular => inv_step inv regular)
      (fun _ _ inv regular => inv.consistent regular) (inv_init messageText String.utf8ByteSize)
      ⟨fun state applied => ?_, trivial⟩
    obtain rfl := Option.some.inj applied
    exact ⟨nativeItems_message (by decide), by simp [FiniteMap.contains]⟩
  exact ((native_of_consistent along).1 _ rfl).1 _ (List.mem_singleton.mpr rfl)

/-- A message without an id is not tracked behind the snapshot that has it. -/
theorem unnamed_message_untracked :
    ¬ Along (step messageText String.utf8ByteSize) (Consistent messageText String.utf8ByteSize) {}
      [.snapshot 0 1 (conversation (message none "a"))] := by
  rintro ⟨consistent, -⟩
  have tracks := consistent.tracks (conversation (message none "a")) rfl
  have tracked := (tracks.exactly "agentMessage:unnamed").mpr (by decide)
  exact absurd tracked (by decide)

end ItemMapper

end AgentConsole.Bridge
