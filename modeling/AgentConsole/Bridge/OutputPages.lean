import AgentConsole.Bridge.MapperOutput
import AgentConsole.Bridge.Queries

/-! # Pages of a command's output

A page comes from the output buffer of the runtime, or from the mapper when the runtime has
no buffer for the item.  The buffer is filled by the events of the mapper, which go through
the channel of the watcher: they are noted some time after the mapper has changed, and those
from before `attach_session` not at all.

The model has the output of one session; the other ones of the Bridge are in `rest`. -/

namespace AgentConsole.Bridge

open AgentConsole.Lib

/-- `SessionMapper::output_page` -/
def SessionMapper.outputPage (m : SessionMapper) (itemId : String) (offset limit : Nat) :
    Option OutputChunk := do
  let track ← m.items.get? itemId
  if !isOutputItem track.nativeType || !track.outputPresent then none
  else
    let start := min offset track.output.length
    some ((track.output.drop start).take limit, track.output.length,
      commandStatusIsTerminal track.status)

/-! ## The buffers of the runtime -/

/-- `OUTPUT_BUFFER_MAX` -/
def outputBufferMax : Nat := 8 * 1024 * 1024

/-- An append that does not start where the buffer ends is dropped. -/
def OutputBuffer.append (buffer : OutputBuffer) (expected : Nat) (bytes : List UInt8) : OutputBuffer :=
  if expected = buffer.data.length ∧ buffer.data.length < outputBufferMax then
    { buffer with data := buffer.data ++ bytes.take (outputBufferMax - buffer.data.length) }
  else buffer

/-- The part of `note_event` that fills the buffers. -/
def noteEvent (outputs : FiniteMap String OutputBuffer) : OutputEvent → FiniteMap String OutputBuffer
  | .append item expectedOffset bytes =>
    let buffer := (outputs.get? item.id).getD ⟨[], false⟩
    outputs.insert item.id (buffer.append expectedOffset bytes)
  | .replace item _ bytes =>
    let buffer := (outputs.get? item.id).getD ⟨[], false⟩
    outputs.insert item.id { buffer with data := bytes.take outputBufferMax }
  | .final item _ _ _ =>
    match outputs.get? item.id with
    | some buffer => outputs.insert item.id { buffer with isFinal := true }
    | none => outputs

/-! ## The runtime of a session -/

/-- `observed` is the mapper of the adapter with its events so far. -/
structure SessionOutputs where
  observed : Observed := {}
  watched : Bool := false
  channel : List OutputEvent := []
  outputs : FiniteMap String OutputBuffer := ∅

namespace SessionOutputs

open SessionMapper (Named)
open Observed (eventsOf)

/-- A step of the adapter, the start of the watcher, an event that the watcher takes from
its channel, and a reader who goes through the pages of an item, with a size for each page. -/
inductive Input where
  | adapter (input : SessionMapper.Input)
  | attach
  | pump
  | read (item : String) (sizes : String → Nat)

def step (st : SessionOutputs) : Input → SessionOutputs
  | .adapter input =>
    { st with
      observed := st.observed.step input
      channel := if st.watched then st.channel ++ (st.observed.mapper.perform input).2 else st.channel }
  | .attach => { st with watched := true }
  | .pump =>
    match st.channel with
    | [] => st
    | event :: rest => { st with channel := rest, outputs := noteEvent st.outputs event }
  | .read _ _ => st

/-- What the Bridge answers from, with the output of the session in its place. -/
def sources (st : SessionOutputs) (key : SessionKey) (rest : Sources) : Sources :=
  { rest with
    outputs := rest.outputs.insert (.of key) st.outputs
    outputPage := fun session item offset limit =>
      if session = key.nativeSessionId then st.observed.mapper.outputPage item.id offset limit
      else rest.outputPage session item offset limit }

/-- The pages from a cursor on, up to the one without a next cursor. -/
def readPages (src : Sources) (key : SessionKey) (item : String) (sizes : String → Nat) :
    Nat → String → Option (List UInt8)
  | 0, _ => none
  | fuel + 1, cursor =>
    match src.queryCommandOutputPage key ⟨some ⟨item, false⟩, cursor, sizes cursor⟩ with
    | .ok (.commandOutputPage page) =>
      if page.nextCursor = "" then some page.bytes
      else (readPages src key item sizes fuel page.nextCursor).map (page.bytes ++ ·)
    | _ => none

/-- The output of the command `k` in a state, when there is one. -/
def authoritativeOutput (state : Json) (k : String) : Option (List Char) :=
  (state.items.find? fun item => trackKey item = k).bind fun item =>
    if isOutputItem item.itemTypeOf then (item.commandOutput?).map String.toList else none

/-! ## The condition -/

/-- All that the mapper knows of the item has been noted. -/
def CaughtUp (st : SessionOutputs) (k : String) : Prop :=
  (∀ event ∈ st.channel, event.item ≠ { id := k }) ∧
    st.observed.mapper.pendingOutputs.get? k = none

/-- The event starts a buffer where its output starts. -/
def StartsBuffer (k : String) (st : SessionOutputs) (event : OutputEvent) : Prop :=
  event.item.id = k → event.item = { id := k } ∧
    match event with
    | .append _ expectedOffset _ => st.outputs.get? k = none → expectedOffset = 0
    | .replace _ _ _ | .final _ _ _ _ => True

/-- The mapper can compare each new state of the item with the last one; the first append
that is noted of the item has offset 0; and a reader who is served from a buffer comes when
the events have been noted. -/
def Ordered (k : String) (st : SessionOutputs) : Input → Prop
  | .adapter input => Observed.Comparable k st.observed input
  | .attach => True
  | .pump => ∀ event ∈ st.channel.head?, StartsBuffer k st event
  | .read item _ => item = k → st.outputs.get? k = none ∨ st.CaughtUp k

instance (k : String) (st : SessionOutputs) :
    (event : OutputEvent) → Decidable (StartsBuffer k st event)
  | .append item expectedOffset _ =>
    inferInstanceAs (Decidable (item.id = k → item = { id := k } ∧
      (st.outputs.get? k = none → expectedOffset = 0)))
  | .replace item _ _ | .final item _ _ _ =>
    inferInstanceAs (Decidable (item.id = k → item = { id := k } ∧ True))

instance (k : String) (st : SessionOutputs) : (input : Input) → Decidable (st.Ordered k input)
  | .adapter input => inferInstanceAs (Decidable (Observed.Comparable k st.observed input))
  | .attach => inferInstanceAs (Decidable True)
  | .pump => inferInstanceAs (Decidable (∀ event ∈ st.channel.head?, StartsBuffer k st event))
  | .read item _ =>
    inferInstanceAs (Decidable (item = k → st.outputs.get? k = none ∨
      ((∀ event ∈ st.channel, event.item ≠ { id := k }) ∧
        st.observed.mapper.pendingOutputs.get? k = none)))

/-- A reader of the item gets its authoritative output, in finitely many pages. -/
def Answered (key : SessionKey) (rest : Sources) (k : String) (st : SessionOutputs) : Input → Prop
  | .read item sizes =>
    item = k → ∀ state output, st.observed.mapper.state = some state →
      authoritativeOutput state k = some output →
      (Utf8.encode output).length ≤ outputBufferMax →
      ∃ fuel, readPages (st.sources key rest) key k sizes fuel "" = some (Utf8.encode output)
  | _ => True

/-! ## Going through the pages -/

/-- The cursor of a page is read as the offset it was made of. -/
theorem parseIndex?_toString {n : Nat} (small : n < 2 ^ 64) :
    Json.parseIndex? (toString n) = some n := by
  have digits : (toString n).toList = Nat.toDigits 10 n := by
    rw [show toString n = n.repr from rfl, Nat.toList_repr]
  have isDigit : ∀ c ∈ Nat.toDigits 10 n, c.isDigit = true := fun c member =>
    Nat.isDigit_of_mem_toDigits (by omega) (by omega) member
  have value := Nat.ofDigitChars_toDigits (b := 10) (n := n) (by omega) (by omega)
  unfold Json.parseIndex?
  rw [digits]
  simp only
  split
  · next rest start =>
    have plus := isDigit '+' (by rw [start]; exact List.mem_cons_self)
    cases plus
  · rw [Nat.ofDigitChars_eq_foldl] at value
    rw [value, if_pos ⟨Nat.toDigits_ne_nil, List.all_eq_true.mpr isDigit, small⟩]

/-- The pages of the item come from these bytes. -/
def Serves (src : Sources) (key : SessionKey) (item : String) (data : List UInt8) : Prop :=
  ∃ final, ∀ offset limit,
    (src.buffered (.of key) ⟨item, false⟩ offset limit).or
        (src.outputPage key.nativeSessionId ⟨item, false⟩ offset limit) =
      some ((data.drop (min offset data.length)).take limit, data.length, final)

/-- The size of a page is at least one byte. -/
def pageLimit (pageSize : Nat) : Nat := if pageSize = 0 then outputPageMax else min pageSize outputPageMax

theorem pageLimit_pos (pageSize : Nat) : 0 < pageLimit pageSize := by
  unfold pageLimit outputPageMax
  split <;> omega

variable {src rest : Sources} {key : SessionKey} {k : String} {data : List UInt8}
  {sizes : String → Nat}

/-- One page, from an offset that is not past the end. -/
theorem queryCommandOutputPage_of_serves (codex : key.agentKind = .codexDesktop)
    (serves : Serves src key k data) {offset : Nat} {cursor : String}
    (starts : (Json.parseIndex? cursor).getD 0 = offset) (size : Nat) (inside : offset ≤ data.length) :
    ∃ final, src.queryCommandOutputPage key ⟨some ⟨k, false⟩, cursor, size⟩ =
      .ok (.commandOutputPage
        { itemId := ⟨k, false⟩
          nextCursor :=
            if offset + pageLimit size < data.length then toString (offset + pageLimit size) else ""
          bytes := (data.drop offset).take (pageLimit size)
          isFinal := final }) := by
  obtain ⟨final, served⟩ := serves
  have page := served offset (pageLimit size)
  rw [min_eq_left inside] at page
  unfold Sources.queryCommandOutputPage
  rw [if_neg (not_not_intro codex)]
  simp only [starts]
  rw [show (if size = 0 then outputPageMax else min size outputPageMax) = pageLimit size from rfl,
    page]
  simp only [List.length_take, List.length_drop, min_eq_left inside]
  by_cases more : offset + pageLimit size < data.length
  · rw [if_pos more, if_pos (by omega), min_eq_left (by omega)]
    exact ⟨_, rfl⟩
  · rw [if_neg more, if_neg (by omega)]
    exact ⟨_, rfl⟩

/-- From an offset on, the pages give the bytes that are left. -/
theorem readPages_of_serves (codex : key.agentKind = .codexDesktop) (serves : Serves src key k data)
    (small : data.length < 2 ^ 64) (left : Nat) {offset : Nat} {cursor : String}
    (starts : (Json.parseIndex? cursor).getD 0 = offset) (inside : offset ≤ data.length)
    (enough : data.length - offset ≤ left) :
    readPages src key k sizes (left + 1) cursor = some (data.drop offset) := by
  induction left generalizing offset cursor with
  | zero =>
    obtain ⟨final, page⟩ := queryCommandOutputPage_of_serves codex serves starts (sizes cursor) inside
    have last : ¬ offset + pageLimit (sizes cursor) < data.length := by omega
    simp only [readPages, page, last, if_false, if_true]
    rw [List.drop_eq_nil_of_le (by omega)]
    simp
  | succ left inductionHypothesis =>
    obtain ⟨final, page⟩ := queryCommandOutputPage_of_serves codex serves starts (sizes cursor) inside
    have advances := pageLimit_pos (sizes cursor)
    rw [readPages, page]
    by_cases more : offset + pageLimit (sizes cursor) < data.length
    · have named : toString (offset + pageLimit (sizes cursor)) ≠ "" := by
        intro empty
        have read := parseIndex?_toString (n := offset + pageLimit (sizes cursor)) (by omega)
        rw [empty, show Json.parseIndex? "" = none by decide] at read
        cases read
      simp only [more, if_true, named, if_false]
      have starts' : (Json.parseIndex? (toString (offset + pageLimit (sizes cursor)))).getD 0 =
          offset + pageLimit (sizes cursor) := by
        rw [parseIndex?_toString (by omega)]
        rfl
      rw [inductionHypothesis starts' (by omega) (by omega)]
      simp [← List.drop_drop]
    · simp only [more, if_false, if_true]
      rw [List.take_of_length_le (by simp; omega)]

/-- The paging of an item ends with the bytes it comes from. -/
theorem readPages_whole (codex : key.agentKind = .codexDesktop) (serves : Serves src key k data)
    (small : data.length < 2 ^ 64) : ∃ fuel, readPages src key k sizes fuel "" = some data := by
  have start : (Json.parseIndex? "").getD 0 = 0 := rfl
  exact ⟨data.length + 1, readPages_of_serves codex serves small data.length start (Nat.zero_le _)
    (Nat.sub_le _ _)⟩

variable {st : SessionOutputs}

/-- A buffer serves the item, whatever the mapper has. -/
theorem serves_buffer {buffer : OutputBuffer} (held : st.outputs.get? k = some buffer) :
    Serves (st.sources key rest) key k buffer.data :=
  ⟨buffer.isFinal, fun offset limit => by simp [Sources.buffered, sources, held]⟩

/-- Without a buffer the mapper serves it. -/
theorem serves_track {track : ItemTrack} (missing : st.outputs.get? k = none)
    (held : st.observed.mapper.items.get? k = some track)
    (command : isOutputItem track.nativeType = true) (present : track.outputPresent = true) :
    Serves (st.sources key rest) key k track.output :=
  ⟨commandStatusIsTerminal track.status, fun offset limit => by
    simp [Sources.buffered, sources, missing, SessionMapper.outputPage, held, command, present]⟩

/-! ## What the channel brings -/

/-- The events of one item that lead from one text to another, each where it belongs. -/
inductive Chain (item : ItemId) : List UInt8 → List OutputEvent → List UInt8 → Prop
  | nil {text : List UInt8} : Chain item text [] text
  | append {text bytes last : List UInt8} {events : List OutputEvent}
      (rest : Chain item (text ++ bytes) events last) :
      Chain item text (.append item text.length bytes :: events) last
  | replace {text bytes last : List UInt8} {events : List OutputEvent} (revision : Nat)
      (rest : Chain item bytes events last) :
      Chain item text (.replace item revision bytes :: events) last
  | final {text last : List UInt8} {events : List OutputEvent} (revision length : Nat)
      (unavailable : Bool) (rest : Chain item text events last) :
      Chain item text (.final item revision length unavailable :: events) last

section Chain

variable {item : ItemId} {text middle last : List UInt8} {events later : List OutputEvent}

theorem Chain.trans (first : Chain item text events middle) (second : Chain item middle later last) :
    Chain item text (events ++ later) last := by
  induction first with
  | nil => exact second
  | append _ inductionHypothesis => exact .append (inductionHypothesis second)
  | replace revision _ inductionHypothesis => exact .replace revision (inductionHypothesis second)
  | final revision length unavailable _ inductionHypothesis =>
    exact .final revision length unavailable (inductionHypothesis second)

theorem chain_of_emits {Q : List Char → Prop} (emits : Emits Q item text events last) :
    Chain item text events last := by
  induction emits with
  | nil => exact .nil
  | append chars _ _ inductionHypothesis => exact .append inductionHypothesis
  | replace chars _ _ inductionHypothesis => exact .replace 0 inductionHypothesis

theorem chain_of_advances {Q : List Char → Prop} {m : SessionMapper}
    (advances : SessionMapper.Advances Q k text m events last) : Chain { id := k } text events last := by
  obtain ⟨body, emits, shape⟩ := advances
  rcases shape with rfl | ⟨unavailable, rfl, -⟩
  · exact chain_of_emits emits
  · exact (chain_of_emits emits).trans (.final 0 _ unavailable .nil)

end Chain

/-! ## The buffer follows the channel -/

theorem noteEvent_other {outputs : FiniteMap String OutputBuffer} {event : OutputEvent}
    (other : event.item.id ≠ k) : (noteEvent outputs event).get? k = outputs.get? k := by
  have apart : k ≠ event.item.id := Ne.symm other
  cases event with
  | append item expectedOffset bytes => exact (FiniteMap.get?_insert _ _ _ _).trans (if_neg apart)
  | replace item revision bytes => exact (FiniteMap.get?_insert _ _ _ _).trans (if_neg apart)
  | final item revision length unavailable =>
    simp only [noteEvent]
    cases outputs.get? item.id with
    | none => rfl
    | some buffer => exact (FiniteMap.get?_insert _ _ _ _).trans (if_neg apart)

theorem take_append_take {text bytes : List UInt8} {n : Nat} (short : text.length < n) :
    text ++ bytes.take (n - text.length) = (text ++ bytes).take n := by
  have whole : text.take n = text := List.take_of_length_le (by omega)
  rw [List.take_append, whole]

/-- An append to a buffer that has the text, as far as it fits. -/
theorem append_data {buffer : OutputBuffer} {text : List UInt8} (bytes : List UInt8)
    (has : buffer.data = text.take outputBufferMax) :
    (buffer.append text.length bytes).data = (text ++ bytes).take outputBufferMax := by
  unfold OutputBuffer.append
  by_cases short : text.length < outputBufferMax
  · have whole : buffer.data = text := by rw [has, List.take_of_length_le (by omega)]
    rw [whole, if_pos ⟨rfl, short⟩]
    exact take_append_take short
  · have full : buffer.data.length = outputBufferMax := by
      rw [has, List.length_take, min_eq_left (by omega)]
    rw [if_neg (by omega), has, List.take_append_of_le_length (by omega)]

/-- The buffer of the item, if there is one, has the text as far as it fits. -/
def Holds (outputs : FiniteMap String OutputBuffer) (k : String) (text : List UInt8) : Prop :=
  ∀ buffer, outputs.get? k = some buffer → buffer.data = text.take outputBufferMax

/-- Noting the first event of a chain brings the buffer to the text after it. -/
theorem holds_noteEvent {event : OutputEvent} {text last : List UInt8} {events : List OutputEvent}
    (holds : Holds st.outputs k text) (chain : Chain { id := k } text (event :: events) last)
    (starts : StartsBuffer k st event) :
    ∃ next, Chain { id := k } next events last ∧ Holds (noteEvent st.outputs event) k next := by
  cases chain with
  | append rest =>
    refine ⟨_, rest, ?_⟩
    intro buffer held
    rw [noteEvent, FiniteMap.get?_insert, if_pos rfl] at held
    obtain rfl := Option.some.inj held
    cases known : st.outputs.get? k with
    | some before => exact append_data _ (holds before known)
    | none =>
      have empty : text.length = 0 := (starts rfl).2 known
      obtain rfl := List.length_eq_zero_iff.mp empty
      exact append_data _ rfl
  | replace revision rest =>
    refine ⟨_, rest, ?_⟩
    intro buffer held
    rw [noteEvent, FiniteMap.get?_insert, if_pos rfl] at held
    obtain rfl := Option.some.inj held
    rfl
  | final revision length unavailable rest =>
    refine ⟨_, rest, ?_⟩
    intro buffer held
    simp only [noteEvent] at held
    cases known : st.outputs.get? k with
    | some before =>
      rw [known, FiniteMap.get?_insert, if_pos rfl] at held
      obtain rfl := Option.some.inj held
      exact holds before known
    | none =>
      rw [known] at held
      exact holds buffer held

/-! ## The invariant -/

/-- A track keeps whether its state had an output. -/
def Present (o : Observed) (k : String) : Prop :=
  ∀ state new, o.mapper.state = some state → (newItems state).get? k = some new →
    isOutputItem new.nativeType = true →
      ∃ track, o.mapper.items.get? k = some track ∧ track.output = new.output ∧
        track.nativeType = new.nativeType ∧ track.outputPresent = new.outputPresent

abbrev Followed (o : Observed) (k : String) : Prop := Observed.Followable (fun _ => True) o k

theorem clean (o : Observed) (k : String) (state : Json) : Observed.Clean (fun _ => True) o k state := by
  intro new found command
  split
  · unfold SessionMapper.Pieces SessionMapper.Cuts
    split <;> simp
  · simp

theorem applyItem_present (m : SessionMapper) (first : Bool) (now : Nat) (state : Json) (k : String)
    (new : ItemTrack) :
    ∃ track, (m.applyItem first now state k new).1.items.get? k = some track ∧
      track.output = new.output ∧ track.nativeType = new.nativeType ∧
        track.outputPresent = new.outputPresent := by
  unfold SessionMapper.applyItem
  split
  · exact ⟨new, by simp, rfl, rfl, rfl⟩
  · next old found =>
    refine ⟨_, FiniteMap.get?_insert_self _ _ _, ?_⟩
    unfold SessionMapper.outputDeltaEvents
    split
    · dsimp only
      split <;> exact ⟨rfl, rfl, rfl⟩
    · exact ⟨rfl, rfl, rfl⟩

theorem present_snapshot {o : Observed} (followed : Followed o k) {state : Json}
    (accepts : o.Accepts k state) (now revision : Nat) :
    Present (o.step (.snapshot now revision state)) k := by
  intro last new same found command
  obtain ⟨result, applies⟩ := Observed.applies_snapshot o now revision state
  obtain rfl : state = last := Option.some.inj (applies.state_eq.symm.trans same)
  obtain ⟨listed, -⟩ := accepts new found command
  obtain ⟨m₁, earlier, later, -, -, rest, -⟩ := SessionMapper.applyItems_member
    (@Observed.Followable.encoded_opened _ _ _ revision state followed) o.mapper.state.isNone now state
    (Observed.texts_newItems state) (SessionMapper.nodup_inKeyOrder _)
    (SessionMapper.mem_inKeyOrder.mpr found)
  rw [applies.ran] at rest
  obtain ⟨track, held, kept⟩ := applyItem_present m₁ o.mapper.state.isNone now state k new
  refine ⟨track, ?_, kept⟩
  rw [applies.mapper, Observed.closed, FiniteMap.get?_filter, rest.items, held]
  simp [listed]

/-- What a step of the adapter does to the follower of the item: the state is the first
one, or the events lead on from the text. -/
structure Moves (o : Observed) (k : String) (input : SessionMapper.Input) : Prop where
  followed : Followed (o.step input) k
  present : Present (o.step input) k
  first : o.mapper.state = none → Named k → eventsOf (o.mapper.perform input).2 k = []
  events : o.mapper.state ≠ none → Named k →
    Chain { id := k } (o.text k) (eventsOf (o.mapper.perform input).2 k) ((o.step input).text k)

theorem moves_snapshot {o : Observed} (followed : Followed o k) {state : Json}
    (accepts : o.Accepts k state) (now revision : Nat) : Moves o k (.snapshot now revision state) where
  followed := followed.snapshot accepts (clean o k state) now revision
  present := present_snapshot followed accepts now revision
  first first named := by
    have advance := followed.applySnapshot accepts (clean o k state) now revision named
    have silent := (followed.initial first).1
    have none_ := advance.first first
    have emitted : (o.step (.snapshot now revision state)).emitted =
        o.emitted ++ (o.mapper.perform (.snapshot now revision state)).2 := rfl
    rwa [emitted, silent, List.nil_append] at none_
  events later named := by
    obtain ⟨-, more, emitted, advances, -⟩ :=
      (followed.applySnapshot accepts (clean o k state) now revision named).events later
    obtain rfl : (o.mapper.perform (.snapshot now revision state)).2 = more :=
      List.append_cancel_left (show o.emitted ++ _ = _ from emitted)
    exact chain_of_advances advances

theorem moves_flush {o : Observed} (followed : Followed o k) (present : Present o k) (now : Nat) :
    Moves o k (.flush now) where
  followed := followed.flushed now
  present := by
    have items : (o.step (.flush now)).mapper.items = o.mapper.items :=
      SessionMapper.takeAll_items _ _
    have state : (o.step (.flush now)).mapper.state = o.mapper.state :=
      SessionMapper.takeAll_state _ _
    intro last new same
    rw [state] at same
    rw [items]
    exact present last new same
  first first named := by
    have none_ := (followed.flush now named).1.first first
    have silent := (followed.initial first).1
    have emitted : (o.step (.flush now)).emitted = o.emitted ++ (o.mapper.perform (.flush now)).2 := rfl
    rwa [emitted, silent, List.nil_append] at none_
  events later named := by
    obtain ⟨-, more, emitted, advances, -⟩ := (followed.flush now named).1.events later
    obtain rfl : (o.mapper.perform (.flush now)).2 = more :=
      List.append_cancel_left (show o.emitted ++ _ = _ from emitted)
    exact chain_of_advances advances

theorem moves_adapter {o : Observed} (followed : Followed o k) (present : Present o k)
    {input : SessionMapper.Input} (comparable : Observed.Comparable k o input) : Moves o k input := by
  cases input with
  | snapshot now revision state => exact moves_snapshot followed (comparable state rfl) now revision
  | flush now => exact moves_flush followed present now
  | patches now baseRevision revision patches =>
    cases patched : o.mapper.patched? baseRevision revision patches with
    | some state =>
      have moves := moves_snapshot followed (comparable state patched) now revision
      have events : (o.mapper.perform (.patches now baseRevision revision patches)).2 =
          (o.mapper.perform (.snapshot now revision state)).2 := by
        simp [SessionMapper.perform, SessionMapper.applyPatches, patched]
      have step := @Observed.step_of_patched o now baseRevision revision patches state patched
      constructor
      · rw [step]
        exact moves.followed
      · rw [step]
        exact moves.present
      · rw [events]
        exact moves.first
      · rw [step, events]
        exact moves.events
    | none =>
      have events : (o.mapper.perform (.patches now baseRevision revision patches)).2 = [] := by
        simp [SessionMapper.perform, SessionMapper.applyPatches, patched]
      have step := @Observed.step_of_unpatched o now baseRevision revision patches patched
      constructor
      · rw [step]
        exact followed.unchanged rfl
      · rw [step]
        exact present
      · intro first named
        rw [events]
        rfl
      · intro later named
        rw [step, events, if_neg (by simpa using later)]
        exact .nil

/-- The runtime, for the item `k`: the buffer has the text that the channel leads on to what
the mapper has sent. -/
structure Inv (k : String) (st : SessionOutputs) : Prop where
  followed : Followed st.observed k
  present : Present st.observed k
  unwatched : st.watched = false → st.channel = [] ∧ st.outputs.get? k = none
  idle : st.observed.mapper.state = none → Named k →
    eventsOf st.channel k = [] ∧ st.outputs.get? k = none
  chain : Named k → ∃ text, Chain { id := k } text (eventsOf st.channel k) (st.observed.text k) ∧
    Holds st.outputs k text

theorem inv_init : Inv k {} where
  followed := Observed.followable_init
  present _ _ none_ := by cases none_
  unwatched _ := ⟨rfl, rfl⟩
  idle _ _ := ⟨rfl, rfl⟩
  chain _ := ⟨[], .nil, fun _ none_ => by cases none_⟩

theorem eventsOf_append (first later : List OutputEvent) :
    eventsOf (first ++ later) k = eventsOf first k ++ eventsOf later k :=
  List.filter_append _ _

theorem holds_of_none (missing : st.outputs.get? k = none) (text : List UInt8) :
    Holds st.outputs k text := by
  intro buffer held
  rw [missing] at held
  cases held

theorem inv_adapter (inv : Inv k st) {input : SessionMapper.Input}
    (comparable : Observed.Comparable k st.observed input) : Inv k (st.step (.adapter input)) := by
  have moves := moves_adapter inv.followed inv.present comparable
  have channel : (st.step (.adapter input)).channel =
      if st.watched then st.channel ++ (st.observed.mapper.perform input).2 else st.channel := rfl
  have first (none_ : st.observed.mapper.state = none) (named : Named k) :
      eventsOf (st.step (.adapter input)).channel k = [] ∧ st.outputs.get? k = none := by
    obtain ⟨silent, missing⟩ := inv.idle none_ named
    refine ⟨?_, missing⟩
    rw [channel]
    split
    · rw [eventsOf_append, silent, moves.first none_ named]
      rfl
    · exact silent
  refine ⟨moves.followed, moves.present, ?_, ?_, ?_⟩
  · intro unwatched
    have unwatched : st.watched = false := unwatched
    obtain ⟨empty, missing⟩ := inv.unwatched unwatched
    refine ⟨?_, missing⟩
    rw [channel, unwatched]
    exact empty
  · intro none_ named
    refine first ?_ named
    by_contra later
    -- a state stays
    cases input with
    | snapshot now revision state =>
      obtain ⟨result, applies⟩ := Observed.applies_snapshot st.observed now revision state
      exact absurd (applies.state_eq.symm.trans none_) (by simp)
    | patches now baseRevision revision patches =>
      cases patched : st.observed.mapper.patched? baseRevision revision patches with
      | some state =>
        obtain ⟨result, applies⟩ := Observed.applies_snapshot st.observed now revision state
        have step := @Observed.step_of_patched st.observed now baseRevision revision patches state patched
        have none_ : (st.observed.step (.patches now baseRevision revision patches)).mapper.state = none :=
          none_
        rw [step] at none_
        exact absurd (applies.state_eq.symm.trans none_) (by simp)
      | none =>
        have step := @Observed.step_of_unpatched st.observed now baseRevision revision patches patched
        have none_ : (st.observed.step (.patches now baseRevision revision patches)).mapper.state = none :=
          none_
        rw [step] at none_
        exact later none_
    | flush now =>
      exact later ((SessionMapper.takeAll_state _ _).symm.trans none_)
  · intro named
    by_cases none_ : st.observed.mapper.state = none
    · obtain ⟨silent, missing⟩ := first none_ named
      refine ⟨(st.step (.adapter input)).observed.text k, ?_, holds_of_none missing _⟩
      rw [silent]
      exact .nil
    · have events := moves.events none_ named
      cases watched : st.watched with
      | true =>
        obtain ⟨text, chain, holds⟩ := inv.chain named
        refine ⟨text, ?_, holds⟩
        rw [channel, watched, if_pos rfl, eventsOf_append]
        exact chain.trans events
      | false =>
        obtain ⟨empty, missing⟩ := inv.unwatched watched
        refine ⟨(st.step (.adapter input)).observed.text k, ?_, holds_of_none missing _⟩
        rw [channel, watched, empty]
        exact .nil

theorem inv_pump (inv : Inv k st) (ordered : st.Ordered k .pump) : Inv k (st.step .pump) := by
  simp only [step]
  cases pending : st.channel with
  | nil => exact inv
  | cons event rest =>
    have starts : StartsBuffer k st event := ordered event (by rw [pending]; rfl)
    have watched : st.watched = true := by
      by_contra unwatched
      have empty := (inv.unwatched (by simpa using unwatched)).1
      rw [pending] at empty
      cases empty
    by_cases own : event.item.id = k
    · have mine : event.item = { id := k } := (starts own).1
      have split_ : eventsOf st.channel k = event :: eventsOf rest k := by
        simp [pending, eventsOf, mine]
      refine ⟨inv.followed, inv.present, ?_, ?_, ?_⟩
      · intro unwatched
        cases watched.symm.trans unwatched
      · intro none_ named
        have silent := (inv.idle none_ named).1
        rw [split_] at silent
        cases silent
      · intro named
        obtain ⟨text, chain, holds⟩ := inv.chain named
        rw [split_] at chain
        exact holds_noteEvent holds chain starts
    · have split_ : eventsOf st.channel k = eventsOf rest k := by
        have other : event.item ≠ { id := k } := fun same => own (by rw [same])
        simp [pending, eventsOf, other]
      have kept : (noteEvent st.outputs event).get? k = st.outputs.get? k := noteEvent_other own
      refine ⟨inv.followed, inv.present, ?_, ?_, ?_⟩
      · intro unwatched
        cases watched.symm.trans unwatched
      · intro none_ named
        obtain ⟨silent, missing⟩ := inv.idle none_ named
        exact ⟨split_ ▸ silent, kept.trans missing⟩
      · intro named
        obtain ⟨text, chain, holds⟩ := inv.chain named
        refine ⟨text, split_ ▸ chain, fun buffer held => holds buffer ?_⟩
        rw [← kept]
        exact held

theorem inv_step (inv : Inv k st) (input : Input) (ordered : st.Ordered k input) :
    Inv k (st.step input) := by
  cases input with
  | adapter input => exact inv_adapter inv ordered
  | attach =>
    exact ⟨inv.followed, inv.present, fun unwatched => (by cases unwatched), inv.idle, inv.chain⟩
  | pump => exact inv_pump inv ordered
  | read => exact inv

/-! ## Reading -/

theorem track_of_authoritativeOutput {state : Json} {output : List Char}
    (has : authoritativeOutput state k = some output) :
    ∃ new, (newItems state).get? k = some new ∧ isOutputItem new.nativeType = true ∧
      new.outputPresent = true ∧ new.output = Utf8.encode output := by
  obtain ⟨item, found, value⟩ := Option.bind_eq_some_iff.mp has
  split at value
  · next command =>
    obtain ⟨text, present, rfl⟩ := Option.map_eq_some_iff.mp value
    have kind : isCommandStatus item.itemTypeOf = true := by simp [isCommandStatus, command]
    exact ⟨buildTrack item, by rw [SessionMapper.newItems_get?, found]; rfl, command,
      by simp [buildTrack, kind, present], by simp [buildTrack, kind, present]⟩
  · cases value

theorem answered_read (inv : Inv k st) (codex : key.agentKind = .codexDesktop) (item : String)
    (sizes : String → Nat) (ordered : st.Ordered k (.read item sizes)) :
    Answered key rest k st (.read item sizes) := by
  rintro rfl state output last has small
  obtain ⟨new, found, command, present, bytes⟩ := track_of_authoritativeOutput has
  obtain ⟨track, held, sameOutput, sameType, samePresent⟩ := inv.present state new last found command
  cases known : st.outputs.get? item with
  | none =>
    have serves : Serves (st.sources key rest) key item track.output :=
      serves_track known held (sameType ▸ command) (samePresent.trans present)
    rw [sameOutput, bytes] at serves
    exact readPages_whole codex serves (by unfold outputBufferMax at small; omega)
  | some buffer =>
    obtain ⟨silent, flushed⟩ : st.CaughtUp item := (ordered rfl).resolve_left (by simp [known])
    obtain ⟨named, whole⟩ := inv.followed.complete last found command
    rw [SessionMapper.buffered_of_none flushed, List.append_nil, bytes] at whole
    obtain ⟨text, chain, holds⟩ := inv.chain named
    have empty : eventsOf st.channel item = [] := by
      simpa [eventsOf] using silent
    rw [empty] at chain
    have data : buffer.data = Utf8.encode output := by
      cases chain
      rw [holds buffer known, whole, List.take_of_length_le small]
    have serves : Serves (st.sources key rest) key item buffer.data := serves_buffer known
    rw [data] at serves
    exact readPages_whole codex serves (by unfold outputBufferMax at small; omega)

/-- For every Codex session, every item and every run of the adapter, the watcher and
readers whose steps meet the condition: each reader of the item gets its authoritative
output, if that is at most 8 MiB, in finitely many pages. -/
theorem pages_whole (key : SessionKey) (codex : key.agentKind = .codexDesktop) (rest : Sources)
    (k : String) (inputs : List Input) (ordered : Along step (Ordered k) {} inputs) :
    Along step (Answered key rest k) {} inputs := by
  have conclude (st : SessionOutputs) (input : Input) (inv : Inv k st)
      (ordered : st.Ordered k input) : Answered key rest k st input := by
    cases input with
    | read item sizes => exact answered_read inv codex item sizes ordered
    | adapter | attach | pump => trivial
  exact Along.of_invariant (fun _ input inv ordered => inv_step inv input ordered) conclude inv_init
    ordered

/-! ## Two sessions -/

section Runs

def sessionKey : SessionKey := ⟨"device", .codexDesktop, "native"⟩

/-- Nothing else is known to the Bridge. -/
def nothingElse : Sources where
  refreshSnapshot _ := .error ⟨.sessionNotFound, ""⟩
  historyPage _ _ _ := .error ⟨.sessionNotFound, ""⟩
  outputPage _ _ _ _ := none
  sessionCwd _ := none
  zcodeHooks := none
  queueStatus _ _ := .error ⟨.sessionNotFound, ""⟩
  resolveForRead _ _ _ := .error ⟨.sessionNotFound, ""⟩
  uploadHandles := ∅
  outputs := ∅
  sessions := ∅

/-- The command runs while the session is watched, and its output is extended. -/
def watchedRun : List Input :=
  [.adapter (.snapshot 0 1 (.obj [])), .attach,
    .adapter (.snapshot 5 2 (Observed.oneCommand "inProgress" "a")), .pump,
    .adapter (.snapshot 9 3 (Observed.oneCommand "inProgress" "ab")), .adapter (.flush 100), .pump]

theorem pages_whole_watched :
    ∃ fuel, readPages ((watchedRun.foldl step {}).sources sessionKey nothingElse) sessionKey "c"
      (fun _ => 1) fuel "" = some (Utf8.encode ['a', 'b']) := by
  have ordered : Along step (Ordered "c") {} (watchedRun ++ [Input.read "c" fun _ => 1]) := by
    decide +kernel
  have answered := (pages_whole sessionKey rfl nothingElse "c" _ ordered).at_step
  exact answered rfl (Observed.oneCommand "inProgress" "ab") ['a', 'b'] rfl (by decide +kernel)
    (by decide +kernel)

/-- The first snapshot has output already, and then it is extended. -/
def lateRun : List Input :=
  [.adapter (.snapshot 0 1 (Observed.oneCommand "inProgress" "a")), .attach,
    .adapter (.snapshot 5 2 (Observed.oneCommand "inProgress" "ab")), .adapter (.flush 100), .pump]

/-- The append does not fit the new buffer, which is left empty; a reader gets nothing, and
nothing more comes. -/
theorem late_output_hidden :
    ¬ Answered sessionKey nothingElse "c" (lateRun.foldl step {}) (.read "c" fun _ => 0) ∧
      (lateRun.foldl step {}).CaughtUp "c" := by
  have held : (lateRun.foldl step {}).outputs.get? "c" = some ⟨[], false⟩ := by decide +kernel
  have caughtUp : (∀ event ∈ (lateRun.foldl step {}).channel, event.item ≠ { id := "c" }) ∧
      (lateRun.foldl step {}).observed.mapper.pendingOutputs.get? "c" = none := by decide +kernel
  refine ⟨fun answered => ?_, caughtUp⟩
  obtain ⟨fuel, pages⟩ := answered rfl (Observed.oneCommand "inProgress" "ab") ['a', 'b'] rfl
    (by decide +kernel) (by decide +kernel)
  have serves : Serves ((lateRun.foldl step {}).sources sessionKey nothingElse) sessionKey "c" [] :=
    serves_buffer held
  have start : (Json.parseIndex? "").getD 0 = 0 := rfl
  cases fuel with
  | zero => cases pages
  | succ left =>
    rw [readPages_of_serves rfl serves (by decide) left start (Nat.le_refl 0) (Nat.zero_le _)] at pages
    exact absurd pages (by decide +kernel)

end Runs

end SessionOutputs
end AgentConsole.Bridge
