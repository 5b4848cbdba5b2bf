import AgentConsole.Bridge.MapperSteps

/-! # The output a follower of the events sees

A follower starts with the outputs that the first state has registered, since these come
with the history, and applies the events of an item in their order.  What it has, with
what is still in the buffer, is the item's output in the last state, as long as every
change of an output is one the comparison with the last track can see. -/

namespace AgentConsole.Bridge

open AgentConsole.Lib SessionMapper

/-- The mapper, and what it has emitted since the first state. -/
structure Observed where
  mapper : SessionMapper := {}
  base : String → List UInt8 := fun _ => []
  emitted : List OutputEvent := []

namespace Observed

/-- The outputs a state registers. -/
def registered (m : SessionMapper) (k : String) : List UInt8 :=
  match m.items.get? k with
  | some track => if isOutputItem track.nativeType then track.output else []
  | none => []

def step (o : Observed) (i : SessionMapper.Input) : Observed :=
  let (mapper, events) := o.mapper.perform i
  { mapper
    base := if o.mapper.state.isNone then registered mapper else o.base
    emitted := o.emitted ++ events }

/-- The events of an item with the native id `k`. -/
def eventsOf (events : List OutputEvent) (k : String) : List OutputEvent :=
  events.filter fun e => e.item = { id := k }

/-- What a follower has of the item `k`. -/
def text (o : Observed) (k : String) : List UInt8 :=
  (eventsOf o.emitted k).foldl writeOutput (o.base k)

/-- The `aggregatedOutput` of the command `k` in a state. -/
def aggregatedOutput (state : Json) (k : String) : Option (List Char) :=
  (state.items.find? fun item => trackKey item = k).bind fun item =>
    if isOutputItem item.itemTypeOf then some ((item.commandOutput?).getD "").toList else none

/-- The state a step applies. -/
def applied? (o : Observed) : SessionMapper.Input → Option Json
  | .snapshot _ _ state => some state
  | .patches _ baseRevision revision patches => o.mapper.patched? baseRevision revision patches
  | .flush _ => none

/-- A command of a state has a native id, and its output can be compared:

* a tracked output that changes also changes its length, and an item that becomes a
  command has not been reported otherwise;
* a command that was not in the last state has nothing left in the buffer and, if it is
  empty now, has not been reported before. -/
def Accepts (o : Observed) (k : String) (state : Json) : Prop :=
  ∀ new ∈ (newItems state).get? k, isOutputItem new.nativeType = true →
    k ∈ itemIds state ∧ Named k ∧
    (∀ old ∈ o.mapper.items.get? k,
      (isOutputItem old.nativeType = false → o.text k ++ o.mapper.buffered k = old.output) ∧
        (new.output.length = old.output.length → new.output = old.output)) ∧
    (o.mapper.items.get? k = none → o.mapper.state ≠ none →
      o.mapper.pendingOutputs.get? k = none ∧ (new.output = [] → o.text k = []))

instance (o : Observed) (k : String) (state : Json) : Decidable (o.Accepts k state) :=
  inferInstanceAs (Decidable (∀ new ∈ (newItems state).get? k, _))

/-- The pieces of the output that a state sends have `Q`. -/
def Clean (Q : List Char → Prop) (o : Observed) (k : String) (state : Json) : Prop :=
  ∀ new, (newItems state).get? k = some new → isOutputItem new.nativeType = true →
    match o.mapper.items.get? k with
    | some old => Pieces Q o.mapper k old new
    | none => o.mapper.state ≠ none → ∀ chars, new.output = Utf8.encode chars → Q chars

def Comparable (k : String) (o : Observed) (i : SessionMapper.Input) : Prop :=
  ∀ state, o.applied? i = some state → o.Accepts k state

instance (k : String) (o : Observed) (i : SessionMapper.Input) : Decidable (Comparable k o i) :=
  inferInstanceAs (Decidable (∀ state ∈ o.applied? i, o.Accepts k state))

/-- A flush brings the follower of an output up to date, if what is in the buffer is due. -/
def FollowedAt (o : Observed) (k : String) (now : Nat) : Prop :=
  ∀ state output, o.mapper.state = some state → aggregatedOutput state k = some output →
    (∀ pending, o.mapper.pendingOutputs.get? k = some pending → maxDelay ≤ now - pending.queuedAt) →
    (o.step (.flush now)).text k = Utf8.encode output

/-! ## Events of one item -/

variable {Q : List Char → Prop} {o : Observed} {k : String} {i : SessionMapper.Input}

theorem eventsOf_of_silent {events : List OutputEvent} (named : Named k)
    (silent : ∀ e ∈ events, e.item ≠ keyToItemId k) : eventsOf events k = [] := by
  rw [named.keyToItemId] at silent
  simpa [eventsOf] using silent

theorem eventsOf_of_all {events : List OutputEvent} (all : ∀ e ∈ events, e.item = { id := k }) :
    eventsOf events k = events := by
  simpa [eventsOf] using all

/-- What an item's turn in a step does, between the turns of others. -/
theorem eventsOf_turn {before events after : List OutputEvent} (named : Named k)
    (early : ∀ e ∈ before, e.item ≠ keyToItemId k) (late : ∀ e ∈ after, e.item ≠ keyToItemId k) :
    eventsOf (before ++ events ++ after) k = eventsOf events k := by
  have first := eventsOf_of_silent named early
  have last := eventsOf_of_silent named late
  simp only [eventsOf] at first last ⊢
  simp [List.filter_append, first, last]

/-! ## The invariant -/

/-- The follower of the item `k`. -/
structure Tracking (Q : List Char → Prop) (o : Observed) (k : String) : Prop where
  buffers : o.mapper.Buffers k (o.text k)
  cuts : Cuts Q (o.mapper.buffered k)
  complete : ∀ track, o.mapper.items.get? k = some track → isOutputItem track.nativeType = true →
    o.text k ++ o.mapper.buffered k = track.output

structure Followable (Q : List Char → Prop) (o : Observed) (k : String) : Prop where
  encoded : o.mapper.Encoded
  initial : o.mapper.state = none → o.emitted = [] ∧
    ∀ k, o.mapper.items.get? k = none ∧ o.mapper.pendingOutputs.get? k = none
  current : ∀ state, o.mapper.state = some state → ∀ new, (newItems state).get? k = some new →
    isOutputItem new.nativeType = true → Named k ∧
      ∃ track, o.mapper.items.get? k = some track ∧ track.output = new.output ∧
        track.nativeType = new.nativeType
  tracking : Named k → Tracking Q o k

theorem followable_init : Followable Q {} k where
  encoded := ⟨by simp, by simp, rfl⟩
  initial := fun _ => ⟨rfl, fun _ => ⟨rfl, rfl⟩⟩
  current := by simp
  tracking := fun _ => ⟨by simp [Buffers], by simpa [buffered] using cuts_nil, by simp⟩

/-! ## An item's turn -/

section Turn

variable {m : SessionMapper} {text : List UInt8} {now : Nat} {state : Json} {old new : ItemTrack}

/-- The turn of a command in a state that is not the first. -/
theorem turn_reports (encoded : m.Encoded) (named : Named k) (listed : k ∈ itemIds state)
    (output : isOutputItem new.nativeType = true)
    (after : ∃ chars, new.output = Utf8.encode chars)
    (buffers : m.Buffers k text) (held : Cuts Q (m.buffered k))
    (known : ∀ old, m.items.get? k = some old → text ++ m.buffered k = old.output ∧
      (new.output.length = old.output.length → new.output = old.output) ∧ Pieces Q m k old new)
    (unknown : m.items.get? k = none → m.pendingOutputs.get? k = none ∧
      (new.output = [] → text = []) ∧ ∀ chars, new.output = Utf8.encode chars → Q chars) :
    Reports Q k text (m.applyItem false now state k new).1 (m.applyItem false now state k new).2
      new.output := by
  unfold applyItem
  split
  · next missing =>
    obtain ⟨idle, empty, pieces⟩ := unknown missing
    rw [if_pos ⟨by simp, listed⟩]
    exact outputEventsForNewSnapshotItem_reports named output after idle empty pieces
  · next old found =>
    obtain ⟨complete, rewritten, pieces⟩ := known old found
    exact outputDeltaEvents_reports encoded named output (encoded.outputs k old found) after buffers
      complete held pieces rewritten

theorem turn_cuts (held : Cuts Q (m.buffered k))
    (known : ∀ old, m.items.get? k = some old → isOutputItem new.nativeType = true →
      Pieces Q m k old new) (first : Bool) :
    Cuts Q ((m.applyItem first now state k new).1.buffered k) := by
  unfold applyItem
  split
  · exact held
  · next old found => exact @outputDeltaEvents_cuts Q m k now old new held (known old found)

/-- Nothing is sent in the turn of another item, or of any item in the first state. -/
theorem turn_quiet {first : Bool}
    (quiet : isOutputItem new.nativeType = false ∨ first = true ∧ m.items.get? k = none) :
    (m.applyItem first now state k new).2 = [] ∧
      (m.applyItem first now state k new).1.pendingOutputs = m.pendingOutputs := by
  unfold applyItem
  rcases quiet with other | ⟨rfl, missing⟩
  · split
    · simp [outputEventsForNewSnapshotItem, other]
    · simp [outputDeltaEvents, other]
  · simp [missing]

end Turn

/-! ## Steps -/

/-- The texts of the tracks a state has. -/
theorem texts_newItems (state : Json) :
    ∀ e ∈ inKeyOrder (newItems state), ∃ chars, e.2.output = Utf8.encode chars := by
  intro e member
  have found := mem_inKeyOrder.mp member
  rw [newItems_get?] at found
  obtain ⟨item, -, same⟩ := Option.map_eq_some_iff.mp found
  rw [← same]
  exact buildTrack_output item

/-- The item `k` is a command that has ended. -/
def TerminalAt (o : Observed) (k : String) : Prop :=
  ∃ state new, o.mapper.state = some state ∧ (newItems state).get? k = some new ∧
    isOutputItem new.nativeType = true ∧ commandStatusIsTerminal new.status = true

/-- What a step does to the follower of the item `k`. -/
structure Advance (Q : List Char → Prop) (o o' : Observed) (k : String) : Prop where
  tracking : Tracking Q o' k
  events : o.mapper.state ≠ none → o'.base k = o.base k ∧
    ∃ more, o'.emitted = o.emitted ++ more ∧
      Advances Q k (o.text k) o'.mapper (eventsOf more k) (o'.text k) ∧
      ∀ e ∈ eventsOf more k, e.isFinal = true → o'.TerminalAt k
  first : o.mapper.state = none → eventsOf o'.emitted k = []
  -- the whole output changes with the state only
  whole : o.mapper.state ≠ none →
    o'.text k ++ o'.mapper.buffered k = o.text k ++ o.mapper.buffered k ∨
    ∃ state new, o'.mapper.state = some state ∧ (newItems state).get? k = some new ∧
      isOutputItem new.nativeType = true ∧ o'.text k ++ o'.mapper.buffered k = new.output

/-- The mapper while it goes through the items of a state. -/
def opened (m : SessionMapper) (revision : Nat) (state : Json) : SessionMapper :=
  { m with revision := some revision, state := some state }

/-- The mapper when it has gone through them. -/
def closed (m : SessionMapper) (state : Json) : SessionMapper :=
  { m with items := m.items.filter fun key _ => key ∈ itemIds state }

theorem closed_items {m : SessionMapper} {state : Json} {track : ItemTrack}
    (found : (closed m state).items.get? k = some track) : m.items.get? k = some track :=
  (FiniteMap.get?_of_filter found).1

/-- The follower of `k` when its turn has left `m₁` behind, after which the step goes on
with other items. -/
theorem Tracking.after_turn {m₁ : SessionMapper} {text : List UInt8} {events : List OutputEvent}
    {state : Json} {o' : Observed} {m₂ : SessionMapper} {output : List UInt8}
    (reports : Reports Q k text m₁ events output) (cuts : Cuts Q (m₁.buffered k))
    (stored : ∀ track, m₁.items.get? k = some track → track.output = output)
    (items : m₂.items.get? k = m₁.items.get? k)
    (pending : m₂.pendingOutputs.get? k = m₁.pendingOutputs.get? k)
    (mapper : o'.mapper = closed m₂ state) (folded : o'.text k = events.foldl writeOutput text) :
    Tracking Q o' k ∧ Advances Q k text o'.mapper events (o'.text k) ∧
      o'.text k ++ o'.mapper.buffered k = output := by
  obtain ⟨last, advances, whole, offset⟩ := reports
  have same : o'.text k = last := by rw [folded, advances.foldl]
  have buffered : o'.mapper.buffered k = m₁.buffered k := by
    simp [SessionMapper.buffered, mapper, closed, pending]
  refine ⟨⟨?_, ?_, ?_⟩, ?_, by rw [same, buffered, whole]⟩
  · intro entry found
    rw [same]
    exact offset entry (by simpa [mapper, closed, pending] using found)
  · rw [buffered]
    exact cuts
  · intro track found _
    rw [mapper] at found
    rw [same, buffered, whole, stored track (items ▸ closed_items found)]
  · rw [same]
    obtain ⟨body, emits, shape⟩ := advances
    refine ⟨body, emits, ?_⟩
    simpa [mapper, closed, pending] using shape

/-- A step in which nothing is sent for `k`. -/
theorem Advance.of_silent {o' : Observed} {more : List OutputEvent} (track : Tracking Q o k)
    (later : o.mapper.state ≠ none) (base : o'.base k = o.base k)
    (emitted : o'.emitted = o.emitted ++ more) (quiet : eventsOf more k = [])
    (pending : o'.mapper.pendingOutputs.get? k = o.mapper.pendingOutputs.get? k)
    (complete : ∀ track, o'.mapper.items.get? k = some track → isOutputItem track.nativeType = true →
      o.text k ++ o.mapper.buffered k = track.output) : Advance Q o o' k := by
  have same : o'.text k = o.text k := by
    simp only [Observed.text, emitted, base, eventsOf, List.filter_append, List.foldl_append]
    simp only [eventsOf] at quiet
    rw [quiet, List.foldl_nil]
  have buffered : o'.mapper.buffered k = o.mapper.buffered k := by
    simp [SessionMapper.buffered, pending]
  refine ⟨⟨?_, ?_, ?_⟩, fun _ => ⟨base, more, emitted, ?_, by simp [quiet]⟩, fun first => absurd first later,
    fun _ => Or.inl (by rw [same, buffered])⟩
  · intro entry held
    rw [same]
    exact track.buffers entry (pending ▸ held)
  · rw [buffered]
    exact track.cuts
  · rw [same, buffered]
    exact complete
  · rw [quiet, same]
    exact .nil

/-! ### A new state -/

section NewState

variable {o' : Observed} {now revision : Nat} {state : Json} {result : SessionMapper × List OutputEvent}

/-- A step that goes through the items of a state. -/
structure Applies (o : Observed) (now revision : Nat) (state : Json) (o' : Observed)
    (result : SessionMapper × List OutputEvent) : Prop where
  ran : (opened o.mapper revision state).applyItems o.mapper.state.isNone now state
    (inKeyOrder (newItems state)) = result
  mapper : o'.mapper = closed result.1 state
  emitted : o'.emitted = o.emitted ++ result.2
  base : o'.base = if o.mapper.state.isNone then registered o'.mapper else o.base

theorem applies_snapshot (o : Observed) (now revision : Nat) (state : Json) :
    ∃ result, Applies o now revision state (o.step (.snapshot now revision state)) result :=
  ⟨_, rfl, rfl, rfl, rfl⟩

theorem Followable.encoded_opened (inv : Followable Q o k) : Encoded (opened o.mapper revision state) :=
  ⟨inv.encoded.outputs, inv.encoded.buffers, inv.encoded.running⟩

theorem Applies.state_eq (applies : Applies o now revision state o' result) :
    o'.mapper.state = some state := by
  rw [applies.mapper, ← applies.ran]
  simp [closed, opened]

theorem Applies.base_later (applies : Applies o now revision state o' result)
    (later : o.mapper.state ≠ none) : o'.base = o.base := by
  rw [applies.base, if_neg (by simpa using later)]

theorem Applies.text_later (applies : Applies o now revision state o' result)
    (later : o.mapper.state ≠ none) :
    o'.text k = (eventsOf result.2 k).foldl writeOutput (o.text k) := by
  simp [Observed.text, applies.emitted, applies.base_later later, eventsOf, List.filter_append]

/-- The first state sends nothing for its items and registers their outputs. -/
theorem Applies.advance_first (applies : Applies o now revision state o' result)
    (inv : Followable Q o k) (named : Named k) (first : o.mapper.state = none) :
    Advance Q o o' k := by
  obtain ⟨silent, fresh⟩ := inv.initial first
  obtain ⟨missing, idle⟩ := fresh k
  have ran := applies.ran
  simp only [first, Option.isNone_none] at ran
  have turn : eventsOf result.2 k = [] ∧ result.1.pendingOutputs.get? k = none := by
    by_cases listed : k ∈ (inKeyOrder (newItems state)).map (·.1)
    · obtain ⟨⟨key, new⟩, member, rfl⟩ := List.mem_map.mp listed
      obtain ⟨m₁, before, after, apart, -, rest, events⟩ := applyItems_member
        (@Followable.encoded_opened _ _ _ revision state inv) true now state (texts_newItems state)
        (nodup_inKeyOrder _) member
      have quiet := @turn_quiet key m₁ now state new true
        (Or.inr ⟨rfl, apart.items.trans missing⟩)
      rw [← ran, events, eventsOf_turn named apart.silent rest.silent, quiet.1]
      exact ⟨rfl, by rw [rest.pending, quiet.2, apart.pending]; exact idle⟩
    · have apart := applyItems_apart (opened o.mapper revision state) listed true now state
      rw [← ran]
      exact ⟨eventsOf_of_silent named apart.silent, apart.pending.trans idle⟩
  have quiet : eventsOf o'.emitted k = [] := by rw [applies.emitted, silent, List.nil_append, turn.1]
  have buffered : o'.mapper.buffered k = [] :=
    buffered_of_none (by simp [applies.mapper, closed, turn.2])
  have start : o'.text k = registered o'.mapper k := by
    simp only [Observed.text, quiet, List.foldl_nil, applies.base, first, Option.isNone_none, if_true]
  refine ⟨⟨?_, ?_, ?_⟩, fun later => absurd first later, fun _ => quiet, fun later => absurd first later⟩
  · intro pending found
    simp [applies.mapper, closed, turn.2] at found
  · rw [buffered]
    exact cuts_nil
  · intro track found output
    rw [buffered, List.append_nil, start]
    simp [registered, found, output]

/-- The first state registers its own outputs. -/
theorem Applies.registered_first (applies : Applies o now revision state o' result)
    (inv : Followable Q o k) (first : o.mapper.state = none) {track : ItemTrack}
    (held : o'.mapper.items.get? k = some track) :
    ∃ new, (newItems state).get? k = some new ∧ track.output = new.output ∧
      track.nativeType = new.nativeType := by
  have ran := applies.ran
  simp only [first, Option.isNone_none] at ran
  rw [applies.mapper] at held
  have kept := closed_items held
  by_cases listed : k ∈ (inKeyOrder (newItems state)).map (·.1)
  · obtain ⟨⟨key, new⟩, member, rfl⟩ := List.mem_map.mp listed
    obtain ⟨m₁, before, after, -, -, rest, -⟩ := applyItems_member
      (@Followable.encoded_opened _ _ _ revision state inv) true now state (texts_newItems state)
      (nodup_inKeyOrder _) member
    obtain ⟨stored, found, sameOutput, sameType⟩ := applyItem_stored m₁ true now state key new
    rw [ran] at rest
    obtain rfl : stored = track := by simpa [rest.items, found] using kept
    exact ⟨new, mem_inKeyOrder.mp member, sameOutput, sameType⟩
  · have apart := applyItems_apart (opened o.mapper revision state) listed true now state
    rw [ran] at apart
    rw [apart.items] at kept
    exact absurd ((inv.initial first).2 k).1 (by simp [show o.mapper.items.get? k = some track from kept])

/-- An item that is not in the state. -/
theorem Applies.advance_absent (applies : Applies o now revision state o' result)
    (inv : Followable Q o k) (named : Named k) (later : o.mapper.state ≠ none)
    (missing : (newItems state).get? k = none) : Advance Q o o' k := by
  have absent : k ∉ (inKeyOrder (newItems state)).map (·.1) := by
    intro listed
    obtain ⟨⟨key, new⟩, member, rfl⟩ := List.mem_map.mp listed
    simp [mem_inKeyOrder.mp member] at missing
  have apart := applyItems_apart (opened o.mapper revision state) absent
    o.mapper.state.isNone now state
  rw [applies.ran] at apart
  refine .of_silent (inv.tracking named) later (by rw [applies.base_later later]) applies.emitted
    (eventsOf_of_silent named apart.silent) ?_ ?_
  · rw [applies.mapper]
    exact apart.pending
  · intro old held output
    rw [applies.mapper] at held
    exact (inv.tracking named).complete old (apart.items ▸ closed_items held) output

/-- The turn of an item, between the turns of others. -/
theorem Applies.turn (applies : Applies o now revision state o' result) (inv : Followable Q o k)
    (named : Named k) (later : o.mapper.state ≠ none) {new : ItemTrack}
    (found : (newItems state).get? k = some new) :
    ∃ m₁ : SessionMapper, m₁.Encoded ∧ m₁.items.get? k = o.mapper.items.get? k ∧
      m₁.pendingOutputs.get? k = o.mapper.pendingOutputs.get? k ∧
      result.1.items.get? k = (m₁.applyItem false now state k new).1.items.get? k ∧
      result.1.pendingOutputs.get? k = (m₁.applyItem false now state k new).1.pendingOutputs.get? k ∧
      eventsOf result.2 k = eventsOf (m₁.applyItem false now state k new).2 k := by
  have ran := applies.ran
  rw [Option.isNone_eq_false_iff.mpr (Option.isSome_iff_ne_none.mpr later)] at ran
  obtain ⟨m₁, earlier, rest, apart, running, after, events⟩ := applyItems_member
    (@Followable.encoded_opened _ _ _ revision state inv) false now state (texts_newItems state)
    (nodup_inKeyOrder _) (mem_inKeyOrder.mpr found)
  rw [ran] at after events
  refine ⟨m₁, running, apart.items, apart.pending, after.items, after.pending, ?_⟩
  rw [events, eventsOf_turn named apart.silent after.silent]

/-- An item that is no command. -/
theorem Applies.advance_other (applies : Applies o now revision state o' result)
    (inv : Followable Q o k) (named : Named k) (later : o.mapper.state ≠ none) {new : ItemTrack}
    (found : (newItems state).get? k = some new) (other : isOutputItem new.nativeType = false) :
    Advance Q o o' k := by
  obtain ⟨m₁, -, -, before, items, pending, events⟩ := applies.turn inv named later found
  obtain ⟨silent, kept⟩ := @turn_quiet k m₁ now state new false (Or.inl other)
  obtain ⟨stored, held, -, sameType⟩ := applyItem_stored m₁ false now state k new
  refine .of_silent (inv.tracking named) later (by rw [applies.base_later later]) applies.emitted
    ?_ ?_ ?_
  · rw [events, silent]
    rfl
  · rw [applies.mapper]
    exact (pending.trans (by rw [kept])).trans before
  · intro last stays command
    rw [applies.mapper] at stays
    obtain rfl : stored = last := by simpa [items, held] using closed_items stays
    simp [sameType, other] at command

/-- A command. -/
theorem Applies.advance_command (applies : Applies o now revision state o' result)
    (inv : Followable Q o k) (accepts : o.Accepts k state) (clean : Clean Q o k state)
    (named : Named k) (later : o.mapper.state ≠ none) {new : ItemTrack}
    (found : (newItems state).get? k = some new) (output : isOutputItem new.nativeType = true) :
    Advance Q o o' k := by
  have track := inv.tracking named
  obtain ⟨m₁, running, items, pending, itemsAfter, pendingAfter, events⟩ :=
    applies.turn inv named later found
  have buffered : m₁.buffered k = o.mapper.buffered k := by
    simp [SessionMapper.buffered, pending]
  have pieces : ∀ old, Pieces Q m₁ k old new = Pieces Q o.mapper k old new := by
    intro old
    simp [Pieces, buffered]
  obtain ⟨listed, -, changed, returned⟩ := accepts new found output
  have cleaned := clean new found output
  have cuts := @turn_cuts Q k m₁ now state new (buffered ▸ track.cuts) (by
    intro old held output
    rw [← items, held] at cleaned
    rw [pieces]
    exact cleaned) false
  have reports : Reports Q k (o.text k) (m₁.applyItem false now state k new).1
      (m₁.applyItem false now state k new).2 new.output := by
    refine turn_reports running named listed output
      (texts_newItems state (k, new) (mem_inKeyOrder.mpr found)) ?_ (buffered ▸ track.cuts) ?_ ?_
    · intro entry held
      exact track.buffers entry (pending ▸ held)
    · intro old held
      rw [items] at held
      rw [held] at cleaned
      obtain ⟨other, rewritten⟩ := changed old held
      refine ⟨?_, rewritten, pieces old ▸ cleaned⟩
      rw [buffered]
      cases before : isOutputItem old.nativeType with
      | true => exact track.complete old held before
      | false => exact other before
    · intro missing
      rw [items] at missing
      rw [missing] at cleaned
      obtain ⟨idle, empty⟩ := returned missing later
      exact ⟨pending.trans idle, empty, cleaned later⟩
  have all : eventsOf (m₁.applyItem false now state k new).2 k =
      (m₁.applyItem false now state k new).2 := by
    obtain ⟨_, advances, -⟩ := reports
    exact eventsOf_of_all advances.item_eq
  obtain ⟨stored, held, sameOutput, -⟩ := applyItem_stored m₁ false now state k new
  have text := @Applies.text_later o k o' now revision state result applies later
  rw [events, all] at text
  obtain ⟨tracking, advances, whole⟩ := Tracking.after_turn reports cuts (by
    intro track stores
    obtain rfl : stored = track := by simpa [held] using stores
    exact sameOutput) itemsAfter pendingAfter applies.mapper text
  refine ⟨tracking, fun _ => ⟨by rw [applies.base_later later], _, applies.emitted, ?_, ?_⟩,
    fun first => absurd first later, fun _ => Or.inr ⟨state, new, applies.state_eq, found, output, whole⟩⟩
  · rw [events, all]
    exact advances
  · intro e member final
    rw [events, all] at member
    exact ⟨state, new, applies.state_eq, found, output,
      applyItem_final m₁ false now state k new e member final⟩

end NewState

theorem Followable.applySnapshot (inv : Followable Q o k) {state : Json} (accepts : o.Accepts k state)
    (clean : Clean Q o k state) (now revision : Nat) (named : Named k) :
    Advance Q o (o.step (.snapshot now revision state)) k := by
  obtain ⟨result, applies⟩ := applies_snapshot o now revision state
  by_cases first : o.mapper.state = none
  · exact applies.advance_first inv named first
  · cases found : (newItems state).get? k with
    | none => exact applies.advance_absent inv named first found
    | some new =>
      cases output : isOutputItem new.nativeType with
      | true => exact applies.advance_command inv accepts clean named first found output
      | false => exact applies.advance_other inv named first found output

/-! ### A flush -/

/-- A flush, for the follower of `k`; what was in a buffer that is due is sent. -/
theorem Followable.flush (inv : Followable Q o k) (now : Nat) (named : Named k) :
    Advance Q o (o.step (.flush now)) k ∧
      (o.mapper.state ≠ none →
        (∀ pending, o.mapper.pendingOutputs.get? k = some pending →
          maxDelay ≤ now - pending.queuedAt) →
        (o.step (.flush now)).mapper.buffered k = []) := by
  have track := inv.tracking named
  obtain ⟨result, ran⟩ : ∃ result, o.mapper.takeAll (o.mapper.dueKeys now) = result := ⟨_, rfl⟩
  have items : result.1.items = o.mapper.items := by rw [← ran, takeAll_items]
  have mapper : (o.step (.flush now)).mapper = result.1 := by
    rw [← ran]
    rfl
  have emitted : (o.step (.flush now)).emitted = o.emitted ++ result.2 := by
    rw [← ran]
    rfl
  have base : (o.step (.flush now)).base =
      if o.mapper.state.isNone then registered result.1 else o.base := by
    rw [← ran]
    rfl
  generalize o.step (.flush now) = o' at mapper emitted base ⊢
  by_cases first : o.mapper.state = none
  · obtain ⟨silent, fresh⟩ := inv.initial first
    obtain ⟨missing, idle⟩ := fresh k
    have absent : k ∉ o.mapper.dueKeys now := by
      rw [mem_dueKeys]
      simp [idle]
    have apart := takeAll_apart o.mapper absent
    rw [ran] at apart
    refine ⟨⟨⟨?_, ?_, ?_⟩, fun later => absurd first later, fun _ => ?_,
      fun later => absurd first later⟩, fun later => absurd first later⟩
    · intro pending found
      simp [mapper, apart.pending, idle] at found
    · rw [buffered_of_none (by simp [mapper, apart.pending, idle])]
      exact cuts_nil
    · intro old found
      simp [mapper, items, missing] at found
    · rw [emitted, silent, List.nil_append]
      exact eventsOf_of_silent named apart.silent
  · have sameBase : o'.base k = o.base k := by rw [base, if_neg (by simpa using first)]
    by_cases due : k ∈ o.mapper.dueKeys now
    · obtain ⟨m₁, earlier, later, apart, running, rest, events⟩ :=
        takeAll_member inv.encoded (nodup_dueKeys _ _) due
      rw [ran] at rest events
      have same : m₁.buffered k = o.mapper.buffered k := by
        simp [SessionMapper.buffered, apart.pending]
      have buffers : m₁.Buffers k (o.text k) := fun pending found =>
        track.buffers pending (apart.pending ▸ found)
      obtain ⟨emits, gone⟩ := takePendingOutput_emits running named buffers (same ▸ track.cuts)
      have mine : eventsOf result.2 k = (m₁.takePendingOutput k).2 := by
        rw [events, eventsOf_turn named apart.silent rest.silent, eventsOf_of_all emits.item_eq]
      have text : o'.text k = o.text k ++ m₁.buffered k := by
        have appended : o'.text k = (eventsOf result.2 k).foldl writeOutput (o.text k) := by
          simp [Observed.text, emitted, sameBase, eventsOf, List.filter_append]
        rw [appended, mine, emits.foldl]
      have idle : o'.mapper.pendingOutputs.get? k = none := by rw [mapper, rest.pending, gone]
      have empty : o'.mapper.buffered k = [] := buffered_of_none idle
      refine ⟨⟨⟨?_, ?_, ?_⟩, fun _ => ⟨sameBase, result.2, emitted, ?_, ?_⟩, fun none => absurd none first,
        fun _ => Or.inl (by rw [text, empty, same, List.append_nil])⟩, fun _ _ => empty⟩
      · intro pending found
        simp [idle] at found
      · rw [empty]
        exact cuts_nil
      · intro old found output
        rw [empty, List.append_nil, text, same]
        exact track.complete old (by simpa [mapper, items] using found) output
      · rw [mine, text]
        exact ⟨_, emits, Or.inl rfl⟩
      · intro e member final
        rw [mine] at member
        simp [takePendingOutput_not_final m₁ k e member] at final
    · have apart := takeAll_apart o.mapper due
      rw [ran] at apart
      have pending : o'.mapper.pendingOutputs.get? k = o.mapper.pendingOutputs.get? k := by
        rw [mapper, apart.pending]
      refine ⟨.of_silent track first sameBase emitted (eventsOf_of_silent named apart.silent) pending ?_,
        fun _ overdue => ?_⟩
      · intro old found output
        exact track.complete old (by simpa [mapper, items] using found) output
      · refine buffered_of_none (Option.eq_none_iff_forall_ne_some.mpr fun entry found => ?_)
        rw [pending] at found
        exact due (mem_dueKeys.mpr ⟨entry, found, overdue entry found⟩)

theorem Followable.snapshot (inv : Followable Q o k) {state : Json} (accepts : o.Accepts k state)
    (clean : Clean Q o k state) (now revision : Nat) :
    Followable Q (o.step (.snapshot now revision state)) k := by
  have encoded : Encoded (opened o.mapper revision state) :=
    ⟨inv.encoded.outputs, inv.encoded.buffers, inv.encoded.running⟩
  have texts := texts_newItems state
  have gone := @Encoded.applyItems _ now _ encoded o.mapper.state.isNone state texts
  have mapper : (o.step (.snapshot now revision state)).mapper = closed ((opened o.mapper revision
      state).applyItems o.mapper.state.isNone now state (inKeyOrder (newItems state))).1 state := rfl
  refine ⟨?_, ?_, ?_, fun named => (inv.applySnapshot accepts clean now revision named).tracking⟩
  · rw [mapper]
    exact ⟨fun key track found => gone.outputs key track (closed_items found), gone.buffers,
      gone.running⟩
  · intro none
    rw [mapper] at none
    simp [closed, opened] at none
  · intro last same new found output
    rw [mapper] at same ⊢
    obtain rfl : state = last := by simpa [closed, opened] using same
    obtain ⟨listed, named, -⟩ := accepts new found output
    obtain ⟨m₁, earlier, later, apart, running, rest, events⟩ := applyItems_member encoded
      o.mapper.state.isNone now state texts (nodup_inKeyOrder _) (mem_inKeyOrder.mpr found)
    obtain ⟨stored, held, sameOutput, sameType⟩ :=
      applyItem_stored m₁ o.mapper.state.isNone now state k new
    refine ⟨named, stored, ?_, sameOutput, sameType⟩
    rw [closed, FiniteMap.get?_filter, rest.items, held]
    simp [listed]

/-- Patches that do not fit leave everything as it is; before the first state there is
nothing to register. -/
theorem Followable.unchanged (inv : Followable Q o k) {base : String → List UInt8}
    (kept : base = if o.mapper.state.isNone then registered o.mapper else o.base) :
    Followable Q { o with base } k := by
  refine ⟨inv.encoded, inv.initial, inv.current, fun named => ?_⟩
  have track := inv.tracking named
  cases first : o.mapper.state with
  | none =>
    obtain ⟨silent, fresh⟩ := inv.initial first
    obtain ⟨missing, idle⟩ := fresh k
    refine ⟨?_, track.cuts, ?_⟩
    · intro pending found
      simp [idle] at found
    · intro old found
      simp [missing] at found
  | some previous =>
    obtain rfl : base = o.base := by simpa [first] using kept
    exact track

theorem Followable.flushed (inv : Followable Q o k) (now : Nat) : Followable Q (o.step (.flush now)) k := by
  have items : (o.step (.flush now)).mapper.items = o.mapper.items := takeAll_items _ _
  have state : (o.step (.flush now)).mapper.state = o.mapper.state := takeAll_state _ _
  refine ⟨inv.encoded.takeAll _, ?_, ?_, fun named => (inv.flush now named).1.tracking⟩
  · intro none
    rw [state] at none
    obtain ⟨silent, fresh⟩ := inv.initial none
    -- nothing is pending before the first state
    have idle : o.mapper.dueKeys now = [] := by
      refine List.eq_nil_iff_forall_not_mem.mpr fun k due => ?_
      obtain ⟨pending, found, -⟩ := mem_dueKeys.mp due
      simp [(fresh k).2] at found
    have same : (o.step (.flush now)).mapper = o.mapper ∧
        (o.step (.flush now)).emitted = o.emitted := by
      simp [Observed.step, perform, flushDueOutputs, idle, takeAll]
    rw [same.1, same.2]
    exact ⟨silent, fresh⟩
  · intro last same
    rw [state] at same
    rw [items]
    exact inv.current last same

/-- Patches that fit are a new state. -/
theorem step_of_patched {now baseRevision revision : Nat} {patches : List Json} {state : Json}
    (patched : o.mapper.patched? baseRevision revision patches = some state) :
    o.step (.patches now baseRevision revision patches) = o.step (.snapshot now revision state) := by
  simp [Observed.step, perform, applyPatches, patched]

theorem step_of_unpatched {now baseRevision revision : Nat} {patches : List Json}
    (patched : o.mapper.patched? baseRevision revision patches = none) :
    o.step (.patches now baseRevision revision patches) =
      { o with base := if o.mapper.state.isNone then registered o.mapper else o.base } := by
  simp [Observed.step, perform, applyPatches, patched]

/-- Every comparable step keeps the followers. -/
theorem Followable.step (inv : Followable Q o k) (accepts : Comparable k o i)
    (clean : ∀ state, o.applied? i = some state → Clean Q o k state) : Followable Q (o.step i) k := by
  cases i with
  | snapshot now revision state => exact inv.snapshot (accepts state rfl) (clean state rfl) now revision
  | patches now baseRevision revision patches =>
    cases patched : o.mapper.patched? baseRevision revision patches with
    | none =>
      rw [step_of_unpatched patched]
      exact inv.unchanged rfl
    | some state =>
      rw [step_of_patched patched]
      exact inv.snapshot (accepts state patched) (clean state patched) now revision
  | flush now => exact inv.flushed now

/-! ## Runs -/

/-- The track of a command has its `aggregatedOutput`. -/
theorem newItems_of_aggregatedOutput {state : Json} {output : List Char}
    (has : aggregatedOutput state k = some output) :
    ∃ new, (newItems state).get? k = some new ∧ isOutputItem new.nativeType = true ∧
      new.output = Utf8.encode output := by
  obtain ⟨item, found, value⟩ := Option.bind_eq_some_iff.mp has
  refine ⟨buildTrack item, by rw [newItems_get?, found]; rfl, ?_⟩
  split at value
  · next command =>
    obtain rfl : _ = output := Option.some.inj value
    refine ⟨command, ?_⟩
    have kind : isCommandStatus item.itemTypeOf = true := by simp [isCommandStatus, command]
    cases present : item.commandOutput? <;> simp [buildTrack, kind, present]
  · cases value

/-- What the follower of a command has, with what is in the buffer. -/
theorem Followable.complete (inv : Followable Q o k) {state : Json} {new : ItemTrack}
    (last : o.mapper.state = some state) (found : (newItems state).get? k = some new)
    (command : isOutputItem new.nativeType = true) :
    Named k ∧ o.text k ++ o.mapper.buffered k = new.output := by
  obtain ⟨named, track, held, sameOutput, sameType⟩ := inv.current state last new found command
  refine ⟨named, ?_⟩
  rw [(inv.tracking named).complete track held (sameType ▸ command), sameOutput]

theorem Followable.whole (inv : Followable Q o k) {state : Json} {output : List Char}
    (last : o.mapper.state = some state) (has : aggregatedOutput state k = some output) :
    Named k ∧ o.text k ++ o.mapper.buffered k = Utf8.encode output := by
  obtain ⟨new, found, command, bytes⟩ := newItems_of_aggregatedOutput has
  rw [← bytes]
  exact inv.complete last found command

theorem Followable.followedAt (inv : Followable Q o k) (now : Nat) : o.FollowedAt k now := by
  intro state output last has overdue
  have state' : (o.step (.flush now)).mapper.state = some state := (takeAll_state _ _).trans last
  obtain ⟨named, whole⟩ := (inv.flushed now).whole state' has
  have empty := (inv.flush now named).2 (by simp [last]) overdue
  rwa [empty, List.append_nil] at whole

/-- After every run in which the states have an output that can be compared, the mapper
has not panicked, and a flush gives the follower of that output all of it. -/
theorem output_followed (k : String) (inputs : List SessionMapper.Input)
    (comparable : Along step (Comparable k) {} inputs) :
    (inputs.foldl step {}).mapper.panicked = false ∧
      ∀ now, (inputs.foldl step {}).FollowedAt k now := by
  have clean : ∀ (o : Observed) (state : Json), Clean (fun _ => True) o k state := by
    intro o state new found output
    split
    · unfold Pieces Cuts
      split <;> simp
    · simp
  have inv : Followable (fun _ => True) (inputs.foldl step {}) k :=
    Along.reached (I := fun o => Followable (fun _ => True) o k)
      (fun o i inv accepts => inv.step accepts fun state _ => clean o state) followable_init comparable
  exact ⟨inv.encoded.running, inv.followedAt⟩

/-- A state whose only item is the command `c`. -/
def oneCommand (status output : String) : Json :=
  .obj [("turns", .arr [.obj [("items", .arr [.obj [("aggregatedOutput", .str output), ("id", .str "c"),
    ("status", .str status), ("type", .str "commandExecution")]])]])]

theorem output_followed_extended :
    ((([.snapshot 0 1 (.obj []), .snapshot 5 2 (oneCommand "inProgress" "a"), .snapshot 9 3 (oneCommand "inProgress" "ab")] :
      List SessionMapper.Input).foldl step {}).step (.flush 100)).text "c" = Utf8.encode ['a', 'b'] := by
  refine (output_followed "c" [.snapshot 0 1 (.obj []), .snapshot 5 2 (oneCommand "inProgress" "a"),
    .snapshot 9 3 (oneCommand "inProgress" "ab")] ?_).2 100 (oneCommand "inProgress" "ab") ['a', 'b'] ?_ ?_ ?_
  · refine ⟨?_, ?_, ?_, trivial⟩ <;> decide +kernel
  · rfl
  · decide +kernel
  · decide +kernel

/-- An output that is rewritten at its length is not reported. -/
theorem rewritten_output_unreported :
    ¬ ∀ (k : String) (inputs : List SessionMapper.Input) (now : Nat), (inputs.foldl step {}).FollowedAt k now := by
  intro followed
  have kept := followed "c" [.snapshot 0 1 (.obj []), .snapshot 5 2 (oneCommand "inProgress" "ab"),
    .snapshot 9 3 (oneCommand "inProgress" "ax")] 100 (oneCommand "inProgress" "ax") ['a', 'x'] (by rfl) (by decide +kernel)
    (by decide +kernel)
  revert kept
  decide +kernel

end Observed
end AgentConsole.Bridge
