import AgentConsole.Bridge.MapperOutput

/-! # Command output in the web client

The client decodes the output events of an item one by one and reduces them to the text it
shows.  Where no piece starts with a byte-order mark and the output does not change after
a final event, the text and the mapper's output agree.

`decode` is `new TextDecoder().decode`, which drops a byte-order mark. -/

namespace AgentConsole.Web

open AgentConsole.Lib AgentConsole.Bridge
open SessionMapper Observed

/-! ## The reducer -/

inductive OutputAuthority where
  | livePreview
  | authoritativeFinal
  | finalOutputUnavailable
  deriving DecidableEq, Repr

structure OutputState where
  itemId : String
  revision : Nat := 0
  text : List Char := []
  byteLength : Nat := 0
  isFinal : Bool := false
  authority : OutputAuthority := .livePreview
  hasGap : Bool := false
  deriving DecidableEq, Repr

/-- The output events of the client. -/
inductive OutputEvent where
  | append (itemId : String) (expectedOffset : Nat) (text : List Char)
  | replace (itemId : String) (revision : Nat) (text : List Char)
  | final (itemId : String) (revision : Nat) (byteLength : Nat)
  | unavailable (itemId : String) (revision : Nat)
  deriving DecidableEq, Repr

namespace OutputEvent

def itemId : OutputEvent → String
  | .append itemId _ _ | .replace itemId _ _ | .final itemId _ _ | .unavailable itemId _ => itemId

def revision? : OutputEvent → Option Nat
  | .append _ _ _ => none
  | .replace _ revision _ | .final _ revision _ | .unavailable _ revision => some revision

end OutputEvent

def utf8Length (text : List Char) : Nat := (Utf8.encode text).length

/-- `reduceOutput` -/
def reduceOutput (state : OutputState) (event : OutputEvent) : OutputState :=
  if event.itemId ≠ state.itemId then state
  else if event.revision?.any fun revision => revision < state.revision then state
  else if state.isFinal ∧ event.revision? = none then state
  else if state.isFinal ∧ event.revision?.any fun revision => revision ≤ state.revision then state
  else match event with
    | .append _ expectedOffset text =>
      if expectedOffset ≠ state.byteLength then { state with hasGap := true }
      else
        let text := state.text ++ text
        { state with text, byteLength := utf8Length text, authority := .livePreview }
    | .replace _ revision text =>
      { state with
        revision, text, byteLength := utf8Length text, isFinal := false,
        authority := .livePreview, hasGap := false }
    | .final _ revision byteLength =>
      if byteLength ≠ state.byteLength then
        { state with revision, isFinal := false, authority := .livePreview, hasGap := true }
      else
        { state with
          revision, byteLength, isFinal := true, authority := .authoritativeFinal, hasGap := false }
    | .unavailable _ revision =>
      { state with
        revision, isFinal := false, authority := .finalOutputUnavailable, hasGap := true }

/-- The output events of `#emitDomainEvent`.  The lengths are below `2 ^ 53`, where
`safeNumber` is exact; `final_unavailable` has no field in the message. -/
def emitDomainEvent (decode : List UInt8 → List Char) : Bridge.OutputEvent → Option OutputEvent
  | .append item offset bytes =>
    if item.id ≠ "" then some (.append item.id offset (decode bytes)) else none
  | .replace item revision bytes =>
    if item.id ≠ "" then some (.replace item.id revision (decode bytes)) else none
  | .final item revision byteLength _ =>
    if item.id ≠ "" then some (.final item.id revision byteLength) else none

def receive (decode : List UInt8 → List Char) (state : OutputState) (event : Bridge.OutputEvent) :
    OutputState :=
  match emitDomainEvent decode event with
  | some event => reduceOutput state event
  | none => state

/-- An item starts without text. -/
def placeholder (k : String) : OutputState := { itemId := k }

/-- What the client shows of the item `k` after all events of the mapper. -/
def shown (decode : List UInt8 → List Char) (k : String) (o : Observed) : OutputState :=
  o.emitted.foldl (receive decode) (placeholder k)

/-! ## The decoder -/

def withoutMark : List Char → List Char
  | '\uFEFF' :: rest => rest
  | text => text

/-- What `TextDecoder` does to the encoding of a text. -/
def Decodes (decode : List UInt8 → List Char) : Prop :=
  ∀ text, decode (Utf8.encode text) = withoutMark text

/-- The text does not start with a byte-order mark. -/
def Unmarked (text : List Char) : Prop := text.head? ≠ some '\uFEFF'

instance (text : List Char) : Decidable (Unmarked text) :=
  inferInstanceAs (Decidable (text.head? ≠ some '\uFEFF'))

theorem withoutMark_of_unmarked {text : List Char} (unmarked : Unmarked text) :
    withoutMark text = text := by
  unfold withoutMark
  split
  · simp [Unmarked] at unmarked
  · rfl

/-! ## Agreement -/

/-- A final event has been sent for the item `k`. -/
def Ended (k : String) (o : Observed) : Prop := ∃ e ∈ eventsOf o.emitted k, e.isFinal = true

instance (k : String) (o : Observed) : Decidable (Ended k o) :=
  inferInstanceAs (Decidable (∃ e ∈ eventsOf o.emitted k, e.isFinal = true))

/-- What the client shows of a command that the state has: a final text is the
`aggregatedOutput`, and so is any text if nothing is left in the buffer. -/
def Agrees (decode : List UInt8 → List Char) (k : String) (o : Observed) : Prop :=
  ∀ state item, o.mapper.state = some state →
    (state.items.find? fun item => trackKey item = k) = some item →
    isOutputItem item.itemTypeOf = true →
    ((shown decode k o).isFinal = true →
      item.commandOutput?.map String.toList = some (shown decode k o).text) ∧
    (o.mapper.pendingOutputs.get? k = none →
      (shown decode k o).text = (item.commandOutput?.getD "").toList)

/-- A state whose outputs the client can show:

* the mapper can compare the output of `k`, and no piece of it starts with a mark;
* no command without native id has the type `k`;
* the first state has no output for `k`, the output does not change after a final event,
  and a command that has ended has one. -/
structure Shows (k : String) (o : Observed) (state : Json) : Prop where
  accepts : o.Accepts k state
  unmarked : Clean Unmarked o k state
  alone : ∀ new ∈ (newItems state).get? (k ++ ":unnamed"), isOutputItem new.nativeType = false
  command : ∀ new ∈ (newItems state).get? k, isOutputItem new.nativeType = true →
    (o.mapper.state = none → new.output = []) ∧
      (Ended k o → new.output = o.text k ++ o.mapper.buffered k) ∧
        (Ended k o ∨ commandStatusIsTerminal new.status = true → new.outputPresent = true)

def Showing (k : String) (o : Observed) (i : SessionMapper.Input) : Prop :=
  ∀ state, o.applied? i = some state → Shows k o state

variable {decode : List UInt8 → List Char} {k : String} {o : Observed} {i : SessionMapper.Input}

/-! ## Events -/

@[simp] theorem reduceOutput_itemId (state : OutputState) (event : OutputEvent) :
    (reduceOutput state event).itemId = state.itemId := by
  unfold reduceOutput
  split
  · rfl
  split
  · rfl
  split
  · rfl
  split
  · rfl
  cases event <;> dsimp only <;> split <;> rfl

theorem receive_itemId (state : OutputState) (event : Bridge.OutputEvent) :
    (receive decode state event).itemId = state.itemId := by
  unfold receive
  split <;> simp

theorem emitDomainEvent_itemId {event : Bridge.OutputEvent} {shown : OutputEvent}
    (emits : emitDomainEvent decode event = some shown) : shown.itemId = event.item.id := by
  cases event <;> simp only [emitDomainEvent] at emits <;> split at emits <;> cases emits <;> rfl

theorem receive_other {state : OutputState} {event : Bridge.OutputEvent}
    (other : event.item.id ≠ state.itemId) : receive decode state event = state := by
  unfold receive
  split
  · next shown emits =>
    unfold reduceOutput
    rw [if_pos (by rw [emitDomainEvent_itemId emits]; exact other)]
  · rfl

/-- Where no other item has the id `k`, only its own events count. -/
theorem foldl_receive_eventsOf {events : List Bridge.OutputEvent} {state : OutputState}
    (mine : state.itemId = k) (alone : ∀ e ∈ events, e.item ≠ { id := k, synthetic := true }) :
    events.foldl (receive decode) state = (eventsOf events k).foldl (receive decode) state := by
  induction events generalizing state with
  | nil => rfl
  | cons e events inductionHypothesis =>
    simp only [List.forall_mem_cons] at alone
    have rest := @inductionHypothesis (receive decode state e) (by rw [receive_itemId, mine]) alone.2
    simp only [eventsOf] at rest ⊢
    by_cases own : e.item = { id := k }
    · simp [own, rest]
    · have other : e.item.id ≠ state.itemId := by
        intro same
        have shape : e.item = ⟨k, e.item.synthetic⟩ := by rw [← mine, ← same]
        cases flag : e.item.synthetic with
        | true => exact alone.1 (flag ▸ shape)
        | false => exact own (flag ▸ shape)
      rw [receive_other other] at rest
      simp [own, receive_other other, rest]

/-- The client has the text, and it is not final. -/
structure Synced (k : String) (state : OutputState) (text : List UInt8) : Prop where
  itemId : state.itemId = k
  revision : state.revision = 0
  live : state.isFinal = false
  bytes : Utf8.encode state.text = text
  length : state.byteLength = text.length

section Reduce

variable {state : OutputState} {text last : List UInt8} {events : List Bridge.OutputEvent}

theorem Synced.append (synced : Synced k state text) (more : List Char) :
    reduceOutput state (.append k text.length more) =
      { state with
        text := state.text ++ more, byteLength := utf8Length (state.text ++ more),
        authority := .livePreview } := by
  simp [reduceOutput, OutputEvent.itemId, OutputEvent.revision?, synced.itemId, synced.live, synced.length]

theorem Synced.replace (synced : Synced k state text) (last : List Char) :
    reduceOutput state (.replace k 0 last) =
      { state with
        revision := 0, text := last, byteLength := utf8Length last, isFinal := false,
        authority := .livePreview, hasGap := false } := by
  simp [reduceOutput, OutputEvent.itemId, OutputEvent.revision?, synced.itemId, synced.live,
    synced.revision]

/-- The final event of a text. -/
theorem Synced.final (synced : Synced k state text) :
    reduceOutput state (.final k 0 text.length) =
      { state with
        revision := 0, byteLength := text.length, isFinal := true,
        authority := .authoritativeFinal, hasGap := false } := by
  simp [reduceOutput, OutputEvent.itemId, OutputEvent.revision?, synced.itemId, synced.live,
    synced.revision, synced.length]

/-- After a final event nothing of the same revision counts. -/
theorem reduceOutput_of_final {event : OutputEvent} (final : state.isFinal = true)
    (own : ∀ r ∈ event.revision?, r = 0) :
    reduceOutput state event = state := by
  unfold reduceOutput
  split
  · rfl
  split
  · rfl
  split
  · rfl
  · next early numbered =>
    rw [if_pos]
    refine ⟨final, ?_⟩
    cases known : event.revision? with
    | none => simp [final, known] at numbered
    | some r => simp [own r known]

theorem Synced.emits (decodes : Decodes decode) (named : k ≠ "") (synced : Synced k state text)
    (emits : Emits Unmarked { id := k } text events last) :
    Synced k (events.foldl (receive decode) state) last := by
  induction emits generalizing state with
  | nil => exact synced
  | append chars holds _ inductionHypothesis =>
    refine inductionHypothesis ?_
    simp only [receive, emitDomainEvent, if_pos named, decodes chars, withoutMark_of_unmarked holds,
      synced.append]
    exact ⟨synced.itemId, synced.revision, synced.live, by simp [synced.bytes],
      by simp [utf8Length, synced.bytes]⟩
  | replace chars holds _ inductionHypothesis =>
    refine inductionHypothesis ?_
    simp only [receive, emitDomainEvent, if_pos named, decodes chars, withoutMark_of_unmarked holds,
      synced.replace]
    exact ⟨synced.itemId, rfl, rfl, rfl, rfl⟩

theorem foldl_of_final (final : state.isFinal = true)
    (own : ∀ e ∈ events, ∀ shown, emitDomainEvent decode e = some shown →
      ∀ r ∈ shown.revision?, r = 0) :
    events.foldl (receive decode) state = state := by
  induction events with
  | nil => rfl
  | cons e events inductionHypothesis =>
    simp only [List.forall_mem_cons] at own
    have same : receive decode state e = state := by
      unfold receive
      split
      · next shown emits => exact reduceOutput_of_final final (own.1 shown emits)
      · rfl
    rw [List.foldl_cons, same]
    exact inductionHypothesis own.2

/-- The mapper gives every event the revision 0. -/
theorem Emits.revision_eq {Q : List Char → Prop} {item : ItemId} (emits : Emits Q item text events last) :
    ∀ e ∈ events, ∀ shown, emitDomainEvent decode e = some shown → ∀ r ∈ shown.revision?, r = 0 := by
  induction emits with
  | nil => simp
  | append chars holds _ inductionHypothesis =>
    refine List.forall_mem_cons.mpr ⟨fun shown emits r number => ?_, inductionHypothesis⟩
    simp only [emitDomainEvent] at emits
    split at emits <;> cases emits
    cases number
  | replace chars holds _ inductionHypothesis =>
    refine List.forall_mem_cons.mpr ⟨fun shown emits r number => ?_, inductionHypothesis⟩
    simp only [emitDomainEvent] at emits
    split at emits <;> cases emits
    exact (Option.some.inj number).symm

/-- The events of an item's turn: the text is synced, or final if a final event came. -/
theorem Synced.advances {m : SessionMapper} (decodes : Decodes decode) (named : k ≠ "")
    (synced : Synced k state text) (advances : Advances Unmarked k text m events last) :
    Synced k (events.foldl (receive decode) state) last ∧ (∀ e ∈ events, e.isFinal = false) ∨
      (events.foldl (receive decode) state).itemId = k ∧
        (events.foldl (receive decode) state).isFinal = true ∧
        Utf8.encode (events.foldl (receive decode) state).text = last ∧
        m.pendingOutputs.get? k = none ∧ ∃ e ∈ events, e.isFinal = true := by
  obtain ⟨body, emits, shape⟩ := advances
  have before := synced.emits decodes named emits
  rcases shape with rfl | ⟨unavailable, rfl, idle⟩
  · exact Or.inl ⟨before, emits.not_final⟩
  · refine Or.inr ?_
    simp only [List.foldl_append, List.foldl_cons, List.foldl_nil, receive, emitDomainEvent,
      if_pos named, before.final]
    exact ⟨before.itemId, trivial, before.bytes, idle, _,
      List.mem_append_right _ (List.mem_singleton_self _), rfl⟩

theorem Advances.revision_eq {m : SessionMapper} {Q : List Char → Prop}
    (advances : Advances Q k text m events last) :
    ∀ e ∈ events, ∀ shown, emitDomainEvent decode e = some shown → ∀ r ∈ shown.revision?, r = 0 := by
  obtain ⟨body, emits, shape⟩ := advances
  rcases shape with rfl | ⟨unavailable, rfl, -⟩
  · exact Emits.revision_eq emits
  · intro e member
    rcases List.mem_append.mp member with inside | ending
    · exact Emits.revision_eq emits e inside
    · intro shown emits r number
      obtain rfl := List.mem_singleton.mp ending
      simp only [emitDomainEvent] at emits
      split at emits <;> cases emits
      exact (Option.some.inj number).symm

end Reduce

/-! ## The items without native id -/

/-- Nothing has been sent for the items without native id of the type `k`. -/
structure Alone (k : String) (o : Observed) : Prop where
  idle : o.mapper.pendingOutputs.get? (k ++ ":unnamed") = none
  silent : ∀ e ∈ o.emitted, e.item ≠ { id := k, synthetic := true }

theorem alone_init : Alone k {} := ⟨rfl, by simp⟩

theorem Alone.snapshot (alone : Alone k o) (encoded : o.mapper.Encoded) {state : Json}
    (quiet : ∀ new ∈ (newItems state).get? (k ++ ":unnamed"), isOutputItem new.nativeType = false)
    (now revision : Nat) : Alone k (o.step (.snapshot now revision state)) := by
  obtain ⟨result, applies⟩ := applies_snapshot o now revision state
  have opened : Encoded (opened o.mapper revision state) :=
    ⟨encoded.outputs, encoded.buffers, encoded.running⟩
  suffices turn : result.1.pendingOutputs.get? (k ++ ":unnamed") = none ∧
      ∀ e ∈ result.2, e.item ≠ keyToItemId (k ++ ":unnamed") by
    obtain ⟨idle, silent⟩ := turn
    rw [keyToItemId_unnamed] at silent
    refine ⟨by rw [applies.mapper]; exact idle, fun e member => ?_⟩
    rw [applies.emitted] at member
    exact (List.mem_append.mp member).elim (alone.silent e) (silent e)
  by_cases listed : k ++ ":unnamed" ∈ (inKeyOrder (newItems state)).map (·.1)
  · obtain ⟨⟨key, new⟩, member, same⟩ := List.mem_map.mp listed
    obtain rfl : key = k ++ ":unnamed" := same
    obtain ⟨m₁, before, after, apart, -, rest, events⟩ := applyItems_member opened
      o.mapper.state.isNone now state (texts_newItems state) (nodup_inKeyOrder _) member
    rw [applies.ran] at rest events
    obtain ⟨none, kept⟩ := @turn_quiet (k ++ ":unnamed") m₁ now state new o.mapper.state.isNone
      (Or.inl (quiet new (mem_inKeyOrder.mp member)))
    refine ⟨rest.pending.trans ((by rw [kept] : _ = _).trans (apart.pending.trans alone.idle)), ?_⟩
    rw [events, none, List.append_nil]
    intro e inside
    exact (List.mem_append.mp inside).elim (apart.silent e) (rest.silent e)
  · have apart := applyItems_apart (Observed.opened o.mapper revision state) listed
      o.mapper.state.isNone now state
    rw [applies.ran] at apart
    exact ⟨apart.pending.trans alone.idle, apart.silent⟩

theorem Alone.flush (alone : Alone k o) (now : Nat) : Alone k (o.step (.flush now)) := by
  have absent : k ++ ":unnamed" ∉ o.mapper.dueKeys now := by
    rw [mem_dueKeys]
    simp [alone.idle]
  have apart := takeAll_apart o.mapper absent
  have silent := apart.silent
  rw [keyToItemId_unnamed] at silent
  refine ⟨apart.pending.trans alone.idle, fun e member => ?_⟩
  exact (List.mem_append.mp member).elim (alone.silent e) (silent e)

/-! ## Steps -/

/-- What the client shows, against the mapper and its follower. -/
structure Shown (decode : List UInt8 → List Char) (k : String) (o : Observed) : Prop where
  followable : Followable Unmarked o k
  alone : Alone k o
  base : o.mapper.state ≠ none → o.base k = []
  live : (shown decode k o).isFinal = false → ¬ Ended k o ∧
    (o.mapper.state ≠ none → Synced k (shown decode k o) (o.text k))
  final : (shown decode k o).isFinal = true → Ended k o ∧
    Utf8.encode (shown decode k o).text = o.text k ++ o.mapper.buffered k
  present : ∀ state new, o.mapper.state = some state → (newItems state).get? k = some new →
    isOutputItem new.nativeType = true →
    Ended k o ∨ commandStatusIsTerminal new.status = true → new.outputPresent = true

theorem shown_init : Shown decode k {} where
  followable := followable_init
  alone := alone_init
  base := by simp
  live := by simp [Ended, eventsOf]
  final := by simp [shown, placeholder]
  present := by simp

theorem shown_append {o' : Observed} {more : List Bridge.OutputEvent}
    (emitted : o'.emitted = o.emitted ++ more) (alone : Alone k o') :
    shown decode k o' = (eventsOf more k).foldl (receive decode) (shown decode k o) := by
  have itemId : ∀ events : List Bridge.OutputEvent,
      (events.foldl (receive decode) (placeholder k)).itemId = k := fun events =>
    foldl_unchanged (receive decode) OutputState.itemId (fun s e => receive_itemId s e) events _
  unfold shown
  rw [emitted, List.foldl_append]
  refine foldl_receive_eventsOf (itemId _) fun e member => alone.silent e ?_
  rw [emitted]
  exact List.mem_append_right _ member

theorem ended_append {o' : Observed} {more : List Bridge.OutputEvent}
    (emitted : o'.emitted = o.emitted ++ more) :
    Ended k o' ↔ Ended k o ∨ ∃ e ∈ eventsOf more k, e.isFinal = true := by
  simp [Ended, emitted, eventsOf, or_and_right, exists_or]

/-- A step after the first state. -/
theorem Shown.advance (shows : Shown decode k o) (decodes : Decodes decode) (nonempty : k ≠ "")
    (later : o.mapper.state ≠ none) {o' : Observed} (followable : Followable Unmarked o' k)
    (advance : Advance Unmarked o o' k) (alone : Alone k o')
    (settled : Ended k o → ∀ state new, o'.mapper.state = some state →
      (newItems state).get? k = some new → isOutputItem new.nativeType = true →
      new.output = o.text k ++ o.mapper.buffered k)
    (present : ∀ state new, o'.mapper.state = some state → (newItems state).get? k = some new →
      isOutputItem new.nativeType = true →
      Ended k o ∨ commandStatusIsTerminal new.status = true → new.outputPresent = true) :
    Shown decode k o' := by
  obtain ⟨base, more, emitted, advances, ends⟩ := advance.events later
  have reached : shown decode k o' = (eventsOf more k).foldl (receive decode) (shown decode k o) :=
    shown_append emitted alone
  have ended := @ended_append k o o' more emitted
  have terminal : ∀ state new, o'.mapper.state = some state → (newItems state).get? k = some new →
      Ended k o' → Ended k o ∨ commandStatusIsTerminal new.status = true := by
    intro state new held found reached
    refine (ended.mp reached).imp id fun later => ?_
    obtain ⟨e, member, last⟩ := later
    obtain ⟨state', new', held', found', -, terminal⟩ := ends e member last
    obtain rfl : state' = state := Option.some.inj (held'.symm.trans held)
    obtain rfl : new' = new := Option.some.inj (found'.symm.trans found)
    exact terminal
  suffices both : ((shown decode k o').isFinal = false →
        ¬ Ended k o' ∧ Synced k (shown decode k o') (o'.text k)) ∧
      ((shown decode k o').isFinal = true → Ended k o' ∧
        Utf8.encode (shown decode k o').text = o'.text k ++ o'.mapper.buffered k) by
    refine ⟨followable, alone, fun _ => base.trans (shows.base later), fun live => ?_, both.2, ?_⟩
    · obtain ⟨open_, synced⟩ := both.1 live
      exact ⟨open_, fun _ => synced⟩
    · intro state new held found output reached
      exact present state new held found output
        (reached.elim (terminal state new held found) Or.inr)
  cases live : (shown decode k o).isFinal with
  | true =>
    -- nothing of what is sent after a final event counts
    obtain ⟨before, bytes⟩ := shows.final live
    have same : shown decode k o' = shown decode k o := by
      rw [reached]
      exact foldl_of_final live (Advances.revision_eq advances)
    rw [same, live]
    refine ⟨by simp, fun _ => ⟨ended.mpr (Or.inl before), ?_⟩⟩
    rw [bytes]
    rcases advance.whole later with kept | ⟨state, new, held, found, output, whole⟩
    · exact kept.symm
    · rw [whole, settled before state new held found output]
  | false =>
    obtain ⟨open_, synced⟩ := shows.live live
    rw [reached]
    rcases (synced later).advances decodes nonempty advances with ⟨after, silent⟩ |
        ⟨itemId, final, bytes, idle, e, member, last⟩
    · refine ⟨fun _ => ⟨fun reached => ?_, after⟩, fun final => ?_⟩
      · rcases ended.mp reached with old | ⟨e, member, final⟩
        · exact open_ old
        · simp [silent e member] at final
      · simp [after.live] at final
    · rw [final]
      refine ⟨by simp, fun _ => ⟨ended.mpr (Or.inr ⟨e, member, last⟩), ?_⟩⟩
      rw [bytes, buffered_of_none idle, List.append_nil]

/-- The first state. -/
theorem Shown.first (first : o.mapper.state = none) {o' : Observed}
    (followable : Followable Unmarked o' k) (advance : Advance Unmarked o o' k) (alone : Alone k o')
    (base : o'.mapper.state ≠ none → o'.base k = [])
    (present : ∀ state new, o'.mapper.state = some state → (newItems state).get? k = some new →
      isOutputItem new.nativeType = true → commandStatusIsTerminal new.status = true →
      new.outputPresent = true) : Shown decode k o' := by
  have quiet := advance.first first
  have same : shown decode k o' = placeholder k := by
    unfold shown
    rw [foldl_receive_eventsOf (show (placeholder k).itemId = k from rfl) alone.silent, quiet]
    rfl
  have open_ : ¬ Ended k o' := by simp [Ended, quiet]
  refine ⟨followable, alone, base, ?_, ?_, ?_⟩
  · intro _
    refine ⟨open_, fun later => ?_⟩
    rw [same, Observed.text, quiet, base later]
    exact ⟨rfl, rfl, rfl, rfl, rfl⟩
  · intro final
    rw [same] at final
    cases final
  · intro state new held found output terminal
    exact present state new held found output (terminal.resolve_left open_)

theorem Shown.snapshot (inv : Shown decode k o) (decodes : Decodes decode) (named : Named k)
    (nonempty : k ≠ "") {state : Json} (shows : Shows k o state) (now revision : Nat) :
    Shown decode k (o.step (.snapshot now revision state)) := by
  obtain ⟨result, applies⟩ := applies_snapshot o now revision state
  have followable := inv.followable.snapshot shows.accepts shows.unmarked now revision
  have advance := inv.followable.applySnapshot shows.accepts shows.unmarked now revision named
  have alone := inv.alone.snapshot inv.followable.encoded shows.alone now revision
  have current : ∀ last, (o.step (.snapshot now revision state)).mapper.state = some last →
      last = state := fun last held => (Option.some.inj (applies.state_eq.symm.trans held)).symm
  by_cases first : o.mapper.state = none
  · refine Shown.first first followable advance alone (fun _ => ?_) ?_
    · rw [applies.base, if_pos (by simpa using first), registered]
      split
      · next track held =>
        split
        · next output =>
          obtain ⟨new, found, sameOutput, sameType⟩ :=
            applies.registered_first inv.followable first held
          rw [sameOutput, (shows.command new found (sameType ▸ output)).1 first]
        · rfl
      · rfl
    · intro last new held found output terminal
      rw [current last held] at found
      exact (shows.command new found output).2.2 (Or.inr terminal)
  · refine inv.advance decodes nonempty first followable advance alone ?_ ?_
    · intro ended last new held found output
      rw [current last held] at found
      exact (shows.command new found output).2.1 ended
    · intro last new held found output terminal
      rw [current last held] at found
      exact (shows.command new found output).2.2 terminal

theorem Shown.flush (inv : Shown decode k o) (decodes : Decodes decode) (named : Named k)
    (nonempty : k ≠ "") (now : Nat) : Shown decode k (o.step (.flush now)) := by
  have followable := inv.followable.flushed now
  have advance := (inv.followable.flush now named).1
  have alone := inv.alone.flush now
  have state : (o.step (.flush now)).mapper.state = o.mapper.state := takeAll_state _ _
  by_cases first : o.mapper.state = none
  · exact Shown.first first followable advance alone (by simp [state, first]) (by simp [state, first])
  · refine inv.advance decodes nonempty first followable advance alone ?_ ?_
    · intro ended last new held found output
      exact (inv.followable.complete (state ▸ held) found output).2.symm
    · intro last new held found output terminal
      exact inv.present last new (state ▸ held) found output terminal

/-- Patches that do not fit. -/
theorem Shown.unchanged (inv : Shown decode k o) {base : String → List UInt8}
    (kept : base = if o.mapper.state.isNone then registered o.mapper else o.base) :
    Shown decode k { o with base } := by
  have same : o.mapper.state ≠ none → base = o.base := fun later => by
    rw [kept, if_neg (by simpa using later)]
  refine ⟨inv.followable.unchanged kept, ⟨inv.alone.idle, inv.alone.silent⟩, ?_, ?_, ?_, inv.present⟩
  · intro later
    rw [same later]
    exact inv.base later
  · intro live
    obtain ⟨open_, synced⟩ := inv.live live
    refine ⟨open_, fun later => ?_⟩
    rw [same later]
    exact synced later
  · intro final
    obtain ⟨ended, bytes⟩ := inv.final final
    have later : o.mapper.state ≠ none := by
      intro first
      obtain ⟨silent, -⟩ := inv.followable.initial first
      simp [Ended, eventsOf, silent] at ended
    refine ⟨ended, ?_⟩
    rw [same later]
    exact bytes

/-- A step whose state can be shown. -/
theorem Shown.step (inv : Shown decode k o) (decodes : Decodes decode) (named : Named k)
    (nonempty : k ≠ "") (showing : Showing k o i) : Shown decode k (o.step i) := by
  cases i with
  | snapshot now revision state => exact inv.snapshot decodes named nonempty (showing state rfl) now revision
  | patches now baseRevision revision patches =>
    cases patched : o.mapper.patched? baseRevision revision patches with
    | none =>
      rw [step_of_unpatched patched]
      exact inv.unchanged rfl
    | some state =>
      rw [step_of_patched patched]
      exact inv.snapshot decodes named nonempty (showing state patched) now revision
  | flush now => exact inv.flush decodes named nonempty now

/-! ## Runs -/

theorem trackKey_ne_empty (item : Json) : trackKey item ≠ "" := by
  unfold trackKey
  split
  · split
    · assumption
    · simp [trackKey.unnamed]
  · simp [trackKey.unnamed]

theorem Shown.agrees (inv : Shown decode k o) : Agrees decode k o := by
  intro state item last listed command
  have found : (newItems state).get? k = some (buildTrack item) := by
    rw [newItems_get?, listed]
    rfl
  have kind : isCommandStatus item.itemTypeOf = true := by simp [isCommandStatus, command]
  have output : (buildTrack item).output = Utf8.encode (item.commandOutput?.getD "").toList := by
    cases present : item.commandOutput? <;> simp [buildTrack, kind, present]
  obtain ⟨named, whole⟩ := inv.followable.complete last found command
  rw [output] at whole
  have text : (shown decode k o).isFinal = true →
      (shown decode k o).text = (item.commandOutput?.getD "").toList := fun final =>
    Utf8.encode_injective ((inv.final final).2.trans whole)
  refine ⟨fun final => ?_, fun idle => ?_⟩
  · have present := inv.present state _ last found command (Or.inl (inv.final final).1)
    rw [text final]
    simp only [buildTrack, kind, Bool.true_and, Option.isSome_iff_exists] at present
    obtain ⟨value, known⟩ := present
    simp [known]
  · cases live : (shown decode k o).isFinal with
    | true => exact text live
    | false =>
      have synced := (inv.live live).2 (by simp [last])
      refine Utf8.encode_injective ?_
      rw [synced.bytes, ← whole, buffered_of_none idle, List.append_nil]

/-- After every run of states that the client can show, it shows the output of the
command `k`. -/
theorem shown_output_agrees (decodes : Decodes decode) (k : String) (inputs : List SessionMapper.Input)
    (showing : Along Observed.step (Showing k) {} inputs) :
    Agrees decode k (inputs.foldl Observed.step {}) := by
  by_cases nonempty : k = ""
  · intro state item last listed command
    have key : trackKey item = k := by simpa using List.find?_some listed
    exact absurd (key.trans nonempty) (trackKey_ne_empty item)
  by_cases named : Named k
  · have inv : Shown decode k (inputs.foldl Observed.step {}) :=
      Along.reached (I := fun o => Shown decode k o)
        (fun o i inv showing => inv.step decodes named nonempty showing) shown_init showing
    exact inv.agrees
  · -- a command of the last state would have a native id
    have inv : Followable Unmarked (inputs.foldl Observed.step {}) k :=
      Along.reached (I := fun o => Followable Unmarked o k)
        (fun o i inv showing => inv.step (fun state applied => (showing state applied).accepts)
          fun state applied => (showing state applied).unmarked) followable_init showing
    intro state item last listed command
    have found : (newItems state).get? k = some (buildTrack item) := by
      rw [newItems_get?, listed]
      rfl
    exact absurd (inv.complete last found command).1 named

/-- A decoder of valid encodings. -/
def textDecode (bytes : List UInt8) : List Char :=
  withoutMark ((bytes.toByteArray.utf8Decode?).map Array.toList |>.getD [])

theorem decodes_textDecode : Decodes textDecode := by
  intro text
  have decoded : (Utf8.encode text).toByteArray.utf8Decode? = some text.toArray :=
    List.utf8Decode?_utf8Encode
  simp [textDecode, decoded]

theorem shown_output_agrees_completed :
    Agrees textDecode "c" (([.snapshot 0 1 (.obj []), .snapshot 5 2 (oneCommand "inProgress" "a"),
      .snapshot 9 3 (oneCommand "completed" "ab")] : List SessionMapper.Input).foldl Observed.step {}) := by
  refine shown_output_agrees decodes_textDecode "c" _ ⟨?_, ?_, ?_, trivial⟩
  · rintro state ⟨⟩
    exact ⟨by decide +kernel, fun new found => absurd found (by simp [show
      (newItems (.obj [])).get? "c" = none from rfl]), by decide +kernel, fun new found => absurd found
        (by simp [show (newItems (.obj [])).get? "c" = none from rfl])⟩
  · rintro state ⟨⟩
    refine ⟨by decide +kernel, ?_, by decide +kernel, ?_⟩
    · intro new found output later chars same
      obtain rfl : _ = new := Option.some.inj found
      obtain rfl : ['a'] = chars := Utf8.encode_injective same
      decide
    · rintro new found -
      obtain rfl : _ = new := Option.some.inj found
      refine ⟨?_, ?_, ?_⟩
      · intro none
        cases none
      · intro ended
        exact absurd ended (by decide +kernel)
      · intro _
        rfl
  · rintro state ⟨⟩
    refine ⟨by decide +kernel, ?_, by decide +kernel, ?_⟩
    · intro new found output
      obtain rfl : _ = new := Option.some.inj found
      refine @cuts_of_chunks Unmarked _ [['b']] ?_ ?_
      · decide +kernel
      · decide
    · rintro new found -
      obtain rfl : _ = new := Option.some.inj found
      refine ⟨?_, ?_, ?_⟩
      · intro none
        cases none
      · intro ended
        exact absurd ended (by decide +kernel)
      · intro _
        rfl

/-- What is appended after a final event is not shown. -/
theorem growth_after_final_hidden :
    ¬ ∀ decode, Decodes decode → ∀ (k : String) (inputs : List SessionMapper.Input),
      Agrees decode k (inputs.foldl Observed.step {}) := by
  intro agrees
  have shownText := (agrees textDecode decodes_textDecode "c" [.snapshot 0 1 (.obj []),
    .snapshot 5 2 (oneCommand "inProgress" "a"), .snapshot 9 3 (oneCommand "completed" "a"),
    .snapshot 12 4 (oneCommand "completed" "ab"), .flush 200] (oneCommand "completed" "ab") _ rfl rfl
      (by decide +kernel)).2 (by decide +kernel)
  revert shownText
  decide +kernel

end AgentConsole.Web
