import AgentConsole.Bridge.Mapper

/-! # What the mapper does to one output

The buffers and the outputs of the mapper are encoded texts, so that a buffer is always
cut between characters and the mapper does not panic.  A step of the mapper treats the
items one by one: for every item it emits events that can be followed from the text
emitted before (`Reports`), and leaves the other items alone (`Apart`). -/

namespace AgentConsole.Bridge

open AgentConsole.Lib

/-! ## Chunks -/

theorem isCharBoundary_length (a b : List Char) :
    isCharBoundary (Utf8.encode (a ++ b)) (Utf8.encode a).length = true := by
  unfold isCharBoundary
  split
  · rfl
  · rfl
  · next found _ =>
    simp [Utf8.boundary_of_split a b _ found]

theorem split_of_isCharBoundary {text : List Char} {n : Nat}
    (boundary : isCharBoundary (Utf8.encode text) n = true)
    (inside : n ≤ (Utf8.encode text).length) :
    ∃ a b, text = a ++ b ∧ (Utf8.encode a).length = n := by
  by_cases start : n = 0
  · exact ⟨[], text, rfl, start.symm⟩
  · refine Utf8.split_of_boundary (fun byte found => ?_) inside
    obtain ⟨k, rfl⟩ := Nat.exists_eq_succ_of_ne_zero start
    simpa [isCharBoundary, found] using boundary

theorem lastBoundary_le (bytes : List UInt8) (n : Nat) : lastBoundary bytes n ≤ n := by
  induction n with
  | zero => exact le_rfl
  | succ n inductionHypothesis =>
    simp only [lastBoundary]
    split <;> omega

theorem isCharBoundary_lastBoundary (bytes : List UInt8) (n : Nat) :
    isCharBoundary bytes (lastBoundary bytes n) = true := by
  induction n with
  | zero => simp [lastBoundary, isCharBoundary]
  | succ n inductionHypothesis =>
    simp only [lastBoundary]
    split
    · next boundary => exact boundary
    · exact inductionHypothesis

theorem le_lastBoundary {bytes : List UInt8} {k n : Nat} (below : k ≤ n)
    (boundary : isCharBoundary bytes k = true) : k ≤ lastBoundary bytes n := by
  induction n with
  | zero => exact below
  | succ n inductionHypothesis =>
    simp only [lastBoundary]
    split
    · exact below
    · next other =>
      by_cases top : k = n + 1
      · exact absurd (top ▸ boundary) other
      · exact inductionHypothesis (by omega)

/-- A text is cut between two characters, not at its start. -/
theorem splitUtf8Safe_encode {text : List Char} {max : Nat} (nonempty : text ≠ []) (room : 4 ≤ max) :
    ∃ a b, text = a ++ b ∧ a ≠ [] ∧
      splitUtf8Safe (Utf8.encode text) max = some (Utf8.encode a, Utf8.encode b) := by
  have nonzero : Utf8.encode text ≠ [] := fun empty => nonempty (Utf8.encode_eq_nil.mp empty)
  have length : 0 < (Utf8.encode text).length := List.length_pos_of_ne_nil nonzero
  have inside : min max (Utf8.encode text).length ≤ (Utf8.encode text).length := min_le_right _ _
  -- one of the last positions is a boundary, so the cut is not at the start
  have positive : 0 < lastBoundary (Utf8.encode text) (min max (Utf8.encode text).length) := by
    by_cases whole : (Utf8.encode text).length ≤ max
    · have whole_end := isCharBoundary_length text []
      rw [List.append_nil] at whole_end
      exact lt_of_lt_of_le length (le_lastBoundary (by omega) whole_end)
    · obtain ⟨a, b, rfl, below, above⟩ := Utf8.exists_split inside
      have reached := le_lastBoundary below (isCharBoundary_length a b)
      omega
  obtain ⟨a, b, rfl, cut⟩ := split_of_isCharBoundary
    (isCharBoundary_lastBoundary (Utf8.encode text) (min max (Utf8.encode text).length))
    ((lastBoundary_le _ _).trans inside)
  refine ⟨a, b, rfl, ?_, ?_⟩
  · rintro rfl
    simp only [Utf8.encode_nil, List.length_nil] at cut
    omega
  · rw [splitUtf8Safe, if_neg (by simp only [not_or]; exact ⟨nonzero, by omega⟩)]
    dsimp only
    rw [if_neg (by omega), ← cut]
    simp

/-- The chunks of a text are texts. -/
theorem chunks_encode {max fuel : Nat} (room : 4 ≤ max) (text : List Char)
    (enough : (Utf8.encode text).length ≤ fuel) :
    ∃ parts : List (List Char), chunks max fuel (Utf8.encode text) = some (parts.map Utf8.encode) ∧
      parts.flatten = text ∧ ∀ part ∈ parts, part ≠ [] := by
  induction fuel generalizing text with
  | zero =>
    obtain rfl : text = [] := Utf8.encode_eq_nil.mp (List.length_eq_zero_iff.mp (by omega))
    exact ⟨[], by simp [chunks], rfl, by simp⟩
  | succ fuel inductionHypothesis =>
    by_cases empty : text = []
    · subst empty
      exact ⟨[], by simp [chunks], rfl, by simp⟩
    · obtain ⟨a, b, rfl, first, cut⟩ := splitUtf8Safe_encode empty room
      have shorter : (Utf8.encode b).length ≤ fuel := by
        have part : 0 < (Utf8.encode a).length :=
          List.length_pos_of_ne_nil fun none => first (Utf8.encode_eq_nil.mp none)
        simp at enough
        omega
      obtain ⟨parts, rest, whole, proper⟩ := inductionHypothesis b shorter
      refine ⟨a :: parts, ?_, by simp [whole], by simpa [first] using proper⟩
      cases bytes : Utf8.encode (a ++ b) with
      | nil => exact absurd (Utf8.encode_eq_nil.mp bytes) empty
      | cons byte more => rw [chunks, ← bytes, cut]; simp [rest]; simp

/-! ## Following the events of an item -/

/-- Append at the offset, or replace the text. -/
def writeOutput (text : List UInt8) : OutputEvent → List UInt8
  | .append _ offset bytes => text.take offset ++ bytes
  | .replace _ _ bytes => bytes
  | .final _ _ _ _ => text

def OutputEvent.isFinal : OutputEvent → Bool
  | .final _ _ _ _ => true
  | _ => false

/-- Appends and replacements of one item, each of which fits the text before it and has a
text with `Q`. -/
inductive Emits (Q : List Char → Prop) (item : ItemId) :
    List UInt8 → List OutputEvent → List UInt8 → Prop where
  | nil {text} : Emits Q item text [] text
  | append {text events last} (chars : List Char) (holds : Q chars)
      (rest : Emits Q item (text ++ Utf8.encode chars) events last) :
      Emits Q item text (.append item text.length (Utf8.encode chars) :: events) last
  | replace {text events last} (chars : List Char) (holds : Q chars)
      (rest : Emits Q item (Utf8.encode chars) events last) :
      Emits Q item text (.replace item 0 (Utf8.encode chars) :: events) last

variable {Q : List Char → Prop} {item : ItemId} {text middle last : List UInt8}
  {events later : List OutputEvent}

theorem Emits.trans (first : Emits Q item text events middle)
    (second : Emits Q item middle later last) : Emits Q item text (events ++ later) last := by
  induction first with
  | nil => exact second
  | append chars holds _ inductionHypothesis => exact .append chars holds (inductionHypothesis second)
  | replace chars holds _ inductionHypothesis => exact .replace chars holds (inductionHypothesis second)

theorem Emits.foldl (emits : Emits Q item text events last) :
    events.foldl writeOutput text = last := by
  induction emits with
  | nil => rfl
  | append chars holds _ inductionHypothesis => simpa [writeOutput] using inductionHypothesis
  | replace chars holds _ inductionHypothesis => simpa [writeOutput] using inductionHypothesis

theorem Emits.item_eq (emits : Emits Q item text events last) : ∀ e ∈ events, e.item = item := by
  induction emits with
  | nil => simp
  | append chars holds _ inductionHypothesis => simpa [OutputEvent.item] using inductionHypothesis
  | replace chars holds _ inductionHypothesis => simpa [OutputEvent.item] using inductionHypothesis

theorem Emits.not_final (emits : Emits Q item text events last) : ∀ e ∈ events, e.isFinal = false := by
  induction emits with
  | nil => simp
  | append chars holds _ inductionHypothesis => simpa [OutputEvent.isFinal] using inductionHypothesis
  | replace chars holds _ inductionHypothesis => simpa [OutputEvent.isFinal] using inductionHypothesis

namespace SessionMapper

variable {m : SessionMapper} {key k : String} {now : Nat}

theorem emits_appends (parts : List (List Char)) (holds : ∀ part ∈ parts, Q part) :
    Emits Q item text (appends item text.length (parts.map Utf8.encode))
      (text ++ Utf8.encode parts.flatten) := by
  induction parts generalizing text with
  | nil => simpa [appends] using Emits.nil
  | cons part parts inductionHypothesis =>
    rw [List.map_cons, appends, List.flatten_cons, Utf8.encode_append, ← List.append_assoc,
      ← List.length_append]
    exact .append part (holds part (by simp))
      (inductionHypothesis fun p member => holds p (by simp [member]))

/-! ## The buffers are texts -/

/-- Outputs and buffers are encoded texts, and nothing has panicked. -/
structure Encoded (m : SessionMapper) : Prop where
  outputs : ∀ key track, m.items.get? key = some track → ∃ chars, track.output = Utf8.encode chars
  buffers : ∀ key pending, m.pendingOutputs.get? key = some pending →
    ∃ chars, pending.buffer = Utf8.encode chars
  running : m.panicked = false

theorem buildTrack_output (item : Json) : ∃ chars, (buildTrack item).output = Utf8.encode chars := by
  unfold buildTrack
  dsimp only
  split
  · cases item.commandOutput? with
    | none => exact ⟨[], rfl⟩
    | some text => exact ⟨text.toList, rfl⟩
  · exact ⟨[], rfl⟩

/-- What is emitted when a buffer is taken. -/
theorem takePendingOutput_of_some {pending : PendingOutput} {chars : List Char}
    (found : m.pendingOutputs.get? key = some pending) (buffer : pending.buffer = Utf8.encode chars) :
    ∃ parts : List (List Char), parts.flatten = chars ∧ (∀ part ∈ parts, part ≠ []) ∧
      chunks maxBytes pending.buffer.length pending.buffer = some (parts.map Utf8.encode) ∧
      m.takePendingOutput key = ({ m with pendingOutputs := m.pendingOutputs.erase key },
        appends (keyToItemId key) pending.expectedOffset (parts.map Utf8.encode)) := by
  obtain ⟨parts, cut, whole, proper⟩ := @chunks_encode maxBytes _ (by decide) chars le_rfl
  rw [← buffer] at cut
  refine ⟨parts, whole, proper, cut, ?_⟩
  simp only [takePendingOutput, found, cut]

theorem Encoded.erase (inv : m.Encoded) (key : String) :
    Encoded { m with pendingOutputs := m.pendingOutputs.erase key } := by
  refine ⟨inv.outputs, fun k pending found => ?_, inv.running⟩
  rw [FiniteMap.get?_erase] at found
  split at found
  · cases found
  · exact inv.buffers k pending found

theorem Encoded.takePendingOutput (inv : m.Encoded) (key : String) :
    Encoded (m.takePendingOutput key).1 := by
  cases found : m.pendingOutputs.get? key with
  | none => simpa [SessionMapper.takePendingOutput, found] using inv
  | some pending =>
    obtain ⟨chars, buffer⟩ := inv.buffers key pending found
    obtain ⟨parts, -, -, -, taken⟩ := takePendingOutput_of_some found buffer
    rw [taken]
    exact inv.erase key

theorem Encoded.maybeFlushFull (inv : m.Encoded) (key : String) :
    Encoded (m.maybeFlushFull key).1 := by
  unfold SessionMapper.maybeFlushFull
  split
  · split
    · exact inv.takePendingOutput key
    · exact inv
  · exact inv

/-- The bytes by which a text is longer than its beginning are a text. -/
theorem drop_encode {old new : List Char} (extended : Utf8.encode old <+: Utf8.encode new) :
    ∃ rest, new = old ++ rest ∧
      (Utf8.encode new).drop (Utf8.encode old).length = Utf8.encode rest := by
  obtain ⟨rest, rfl⟩ := Utf8.prefix_of_encode extended
  exact ⟨rest, rfl, by simp⟩

theorem Encoded.extendBuffer (inv : m.Encoded) (key : String) {old new : ItemTrack}
    (before : ∃ chars, old.output = Utf8.encode chars)
    (after : ∃ chars, new.output = Utf8.encode chars) (extended : old.output <+: new.output) :
    Encoded (m.extendBuffer now key old new) := by
  refine ⟨inv.outputs, fun k pending found => ?_, inv.running⟩
  simp only [SessionMapper.extendBuffer, FiniteMap.get?_insert] at found
  split at found
  · cases found
    obtain ⟨a, before⟩ := before
    obtain ⟨b, after⟩ := after
    rw [before, after] at extended
    obtain ⟨rest, -, delta⟩ := drop_encode extended
    have buffered : ∃ chars, ((m.pendingOutputs.get? key).getD
        ⟨old.output.length, [], now⟩).buffer = Utf8.encode chars := by
      cases entry : m.pendingOutputs.get? key with
      | none => exact ⟨[], rfl⟩
      | some pending => exact inv.buffers key pending entry
    obtain ⟨chars, buffered⟩ := buffered
    refine ⟨chars ++ rest, ?_⟩
    rw [Utf8.encode_append, ← buffered, ← delta, before, after]
  · exact inv.buffers k pending found

theorem Encoded.outputChange (inv : m.Encoded) (key : String) {old new : ItemTrack}
    (before : ∃ chars, old.output = Utf8.encode chars)
    (after : ∃ chars, new.output = Utf8.encode chars) :
    Encoded (m.outputChange now key old new).1 := by
  unfold SessionMapper.outputChange
  split
  · split
    · next extended => exact (inv.extendBuffer key before after extended).maybeFlushFull key
    · exact inv.erase key
  · exact inv

theorem Encoded.insert (inv : m.Encoded) (key : String) {new : ItemTrack}
    (text : ∃ chars, new.output = Utf8.encode chars) :
    Encoded { m with items := m.items.insert key new } := by
  refine ⟨fun k track found => ?_, inv.buffers, inv.running⟩
  rw [FiniteMap.get?_insert] at found
  split at found
  · cases found
    exact text
  · exact inv.outputs k track found

theorem Encoded.outputDeltaEvents (inv : m.Encoded) (key : String) {old new : ItemTrack}
    (before : ∃ chars, old.output = Utf8.encode chars)
    (after : ∃ chars, new.output = Utf8.encode chars) :
    Encoded (m.outputDeltaEvents now key old new).1 ∧
      (m.outputDeltaEvents now key old new).2.1.output = new.output ∧
      (m.outputDeltaEvents now key old new).2.1.nativeType = new.nativeType := by
  unfold SessionMapper.outputDeltaEvents
  split
  · have changed : Encoded (m.outputChange now key old new).1 := inv.outputChange key before after
    dsimp only
    split
    · exact ⟨changed.takePendingOutput key, rfl, rfl⟩
    · exact ⟨changed, rfl, rfl⟩
  · exact ⟨inv, rfl, rfl⟩

theorem Encoded.applyItem (inv : m.Encoded) (first : Bool) (state : Json) (key : String)
    {new : ItemTrack} (text : ∃ chars, new.output = Utf8.encode chars) :
    Encoded (m.applyItem first now state key new).1 := by
  unfold SessionMapper.applyItem
  split
  · exact inv.insert key text
  · next old found =>
    obtain ⟨changed, same, -⟩ := @Encoded.outputDeltaEvents _ now inv key _ _ (inv.outputs key old found) text
    exact changed.insert key (same ▸ text)

/-! ## Other items -/

/-- The key of an item with a native id. -/
def Named (key : String) : Prop := unnamedBase? key = none

instance (key : String) : Decidable (Named key) :=
  inferInstanceAs (Decidable (unnamedBase? key = none))

theorem Named.keyToItemId (named : Named k) : keyToItemId k = { id := k } := by
  have none : unnamedBase? k = none := named
  simp [Bridge.keyToItemId, none]

theorem unnamedBase?_eq_some {base : String} :
    unnamedBase? key = some base ↔ key = base ++ ":unnamed" := by
  unfold unnamedBase?
  dsimp only
  constructor
  · intro found
    split at found
    · next ends =>
      obtain ⟨front, shape⟩ := ends
      obtain rfl := Option.some.inj found
      rw [String.ext_iff, String.toList_append, String.toList_ofList, ← shape]
      simp
    · cases found
  · rintro rfl
    rw [if_pos ⟨base.toList, by simp⟩]
    simp

/-- Two items have two ids. -/
theorem keyToItemId_ne (other : key ≠ k) : keyToItemId key ≠ keyToItemId k := by
  unfold keyToItemId
  split
  · next base found =>
    split
    · next last known =>
      intro same
      obtain rfl : base = last := congrArg ItemId.id same
      exact other ((unnamedBase?_eq_some.mp found).trans (unnamedBase?_eq_some.mp known).symm)
    · simp
  · split <;> simp [other]

/-- The id of the items without native id of the type `k`. -/
theorem keyToItemId_unnamed (k : String) :
    keyToItemId (k ++ ":unnamed") = { id := k, synthetic := true } := by
  simp [keyToItemId, unnamedBase?_eq_some.mpr]

/-- Nothing has happened to the item `k`. -/
structure Apart (k : String) (m m' : SessionMapper) (events : List OutputEvent) : Prop where
  items : m'.items.get? k = m.items.get? k
  pending : m'.pendingOutputs.get? k = m.pendingOutputs.get? k
  silent : ∀ e ∈ events, e.item ≠ keyToItemId k

variable {m' m'' : SessionMapper}

theorem Apart.refl (k : String) (m : SessionMapper) : Apart k m m [] := ⟨rfl, rfl, by simp⟩

theorem Apart.trans (first : Apart k m m' events) (second : Apart k m' m'' later) :
    Apart k m m'' (events ++ later) := by
  refine ⟨second.items.trans first.items, second.pending.trans first.pending, fun e member => ?_⟩
  rcases List.mem_append.mp member with early | late
  · exact first.silent e early
  · exact second.silent e late

theorem item_of_appends {offset : Nat} {parts : List (List UInt8)} :
    ∀ e ∈ appends item offset parts, e.item = item := by
  induction parts generalizing offset with
  | nil => simp [appends]
  | cons part parts inductionHypothesis => simpa [appends, OutputEvent.item] using inductionHypothesis

theorem takePendingOutput_apart (m : SessionMapper) (other : key ≠ k) :
    Apart k m (m.takePendingOutput key).1 (m.takePendingOutput key).2 := by
  unfold takePendingOutput
  split
  · exact .refl k m
  · dsimp only
    have kept : (m.pendingOutputs.erase key).get? k = m.pendingOutputs.get? k := by
      rw [FiniteMap.get?_erase, if_neg (Ne.symm other)]
    split
    · refine ⟨rfl, kept, fun e member => ?_⟩
      rw [item_of_appends e member]
      exact keyToItemId_ne other
    · exact ⟨rfl, kept, by simp⟩

theorem outputChange_apart (m : SessionMapper) (other : key ≠ k)
    (old new : ItemTrack) :
    Apart k m (m.outputChange now key old new).1 (m.outputChange now key old new).2 := by
  unfold outputChange
  split
  · split
    · have grown : Apart k m (m.extendBuffer now key old new) [] :=
        ⟨rfl, by simp [extendBuffer, FiniteMap.get?_insert, Ne.symm other], by simp⟩
      unfold maybeFlushFull
      split
      · split
        · exact grown.trans (takePendingOutput_apart _ other)
        · exact grown
      · exact grown
    · refine ⟨rfl, by simp [FiniteMap.get?_erase, Ne.symm other], ?_⟩
      simpa [OutputEvent.item] using keyToItemId_ne other
  · exact .refl k m

theorem applyItem_apart (m : SessionMapper) (other : key ≠ k) (first : Bool)
    (state : Json) (new : ItemTrack) :
    Apart k m (m.applyItem first now state key new).1 (m.applyItem first now state key new).2 := by
  have apart : keyToItemId key ≠ keyToItemId k := keyToItemId_ne other
  have stored : ∀ {m' : SessionMapper} {events}, Apart k m m' events → ∀ track,
      Apart k m { m' with items := m'.items.insert key track } events := by
    intro m' events before track
    refine ⟨?_, before.pending, before.silent⟩
    simpa [FiniteMap.get?_insert, Ne.symm other] using before.items
  unfold applyItem
  split
  · have quiet : Apart k m m (if ¬ first ∧ key ∈ itemIds state then
        outputEventsForNewSnapshotItem key new else []) := by
      refine ⟨rfl, rfl, fun e member => ?_⟩
      split at member
      · simp only [outputEventsForNewSnapshotItem] at member
        split at member
        · rcases List.mem_append.mp member with replaced | ended
          · split at replaced <;> simp at replaced
            simpa [replaced, OutputEvent.item] using apart
          · split at ended <;> simp at ended
            simpa [ended, OutputEvent.item] using apart
        · simp at member
      · simp at member
    exact stored quiet new
  · next old found =>
    have changed := @outputChange_apart key k now m other old new
    refine stored ?_ _
    unfold outputDeltaEvents
    split
    · dsimp only
      split
      · refine (changed.trans (takePendingOutput_apart _ other)).trans ?_
        exact ⟨rfl, rfl, by simpa [OutputEvent.item] using apart⟩
      · exact changed
    · exact .refl k m

/-! ## Final events -/

theorem not_final_of_appends {offset : Nat} {parts : List (List UInt8)} :
    ∀ e ∈ appends item offset parts, e.isFinal = false := by
  induction parts generalizing offset with
  | nil => simp [appends]
  | cons part parts inductionHypothesis => simpa [appends, OutputEvent.isFinal] using inductionHypothesis

theorem takePendingOutput_not_final (m : SessionMapper) (key : String) :
    ∀ e ∈ (m.takePendingOutput key).2, e.isFinal = false := by
  unfold takePendingOutput
  split
  · simp
  · dsimp only
    split
    · exact not_final_of_appends
    · simp

theorem outputChange_not_final (m : SessionMapper) (now : Nat) (key : String) (old new : ItemTrack) :
    ∀ e ∈ (m.outputChange now key old new).2, e.isFinal = false := by
  unfold outputChange maybeFlushFull
  split
  · split
    · split
      · split
        · exact takePendingOutput_not_final _ key
        · simp
      · simp
    · simp [OutputEvent.isFinal]
  · simp

/-- A final event is for a command that has ended. -/
theorem applyItem_final (m : SessionMapper) (first : Bool) (now : Nat) (state : Json) (key : String)
    (new : ItemTrack) :
    ∀ e ∈ (m.applyItem first now state key new).2, e.isFinal = true →
      commandStatusIsTerminal new.status = true := by
  intro e member final
  unfold applyItem at member
  split at member
  · split at member
    · unfold outputEventsForNewSnapshotItem at member
      split at member
      · rcases List.mem_append.mp member with replaced | ended
        · split at replaced <;> simp at replaced
          simp [replaced, OutputEvent.isFinal] at final
        · split at ended
          · next terminal => exact terminal.1
          · simp at ended
      · simp at member
    · simp at member
  · next old found =>
    unfold outputDeltaEvents at member
    by_cases output : isOutputItem new.nativeType = true
    · rw [if_pos output] at member
      dsimp only at member
      split at member
      · next terminal => exact terminal.1
      · simp [outputChange_not_final m now key old new e member] at final
    · rw [if_neg output] at member
      simp at member

/-! ## The item itself -/

/-- The bytes in the buffer of an item. -/
def buffered (m : SessionMapper) (k : String) : List UInt8 :=
  ((m.pendingOutputs.get? k).map (·.buffer)).getD []

/-- The buffer of `k` is to be appended to `text`. -/
def Buffers (m : SessionMapper) (k : String) (text : List UInt8) : Prop :=
  ∀ pending, m.pendingOutputs.get? k = some pending → pending.expectedOffset = text.length

/-- The events lead from `text` to a text that the buffer completes to `output`. -/
def Sends (Q : List Char → Prop) (k : String) (text : List UInt8) (m' : SessionMapper)
    (events : List OutputEvent) (output : List UInt8) : Prop :=
  ∃ last, Emits Q { id := k } text events last ∧ last ++ m'.buffered k = output ∧ m'.Buffers k last

/-- The events lead from `text` to `last`; a final event comes last and leaves nothing in
the buffer. -/
def Advances (Q : List Char → Prop) (k : String) (text : List UInt8) (m' : SessionMapper)
    (events : List OutputEvent) (last : List UInt8) : Prop :=
  ∃ body, Emits Q { id := k } text body last ∧
    (events = body ∨ ∃ unavailable,
      events = body ++ [.final { id := k } 0 last.length unavailable] ∧
        m'.pendingOutputs.get? k = none)

theorem Advances.nil {m' : SessionMapper} : Advances Q k text m' [] text := ⟨[], .nil, Or.inl rfl⟩

theorem Advances.item_eq {m' : SessionMapper} (advances : Advances Q k text m' events last) :
    ∀ e ∈ events, e.item = { id := k } := by
  obtain ⟨body, emits, shape⟩ := advances
  rcases shape with rfl | ⟨unavailable, rfl, -⟩
  · exact emits.item_eq
  · intro e member
    rcases List.mem_append.mp member with inside | ending
    · exact emits.item_eq e inside
    · simp only [List.mem_singleton] at ending
      rw [ending]
      rfl

theorem Advances.foldl {m' : SessionMapper} (advances : Advances Q k text m' events last) :
    events.foldl writeOutput text = last := by
  obtain ⟨body, emits, shape⟩ := advances
  rcases shape with rfl | ⟨unavailable, rfl, -⟩
  · exact emits.foldl
  · simpa [writeOutput] using emits.foldl

/-- The events of an item's turn, after which the buffer completes `output`. -/
def Reports (Q : List Char → Prop) (k : String) (text : List UInt8) (m' : SessionMapper)
    (events : List OutputEvent) (output : List UInt8) : Prop :=
  ∃ last, Advances Q k text m' events last ∧ last ++ m'.buffered k = output ∧ m'.Buffers k last

theorem buffered_of_none {m' : SessionMapper} (none : m'.pendingOutputs.get? k = none) :
    m'.buffered k = [] := by
  simp [buffered, none]

theorem Sends.reports {m' : SessionMapper} {output : List UInt8}
    (sends : Sends Q k text m' events output) : Reports Q k text m' events output := by
  obtain ⟨last, emits, whole, offset⟩ := sends
  exact ⟨last, ⟨_, emits, Or.inl rfl⟩, whole, offset⟩

theorem Sends.reports_final {m' : SessionMapper} {output : List UInt8}
    (sends : Sends Q k text m' events output) (idle : m'.pendingOutputs.get? k = none)
    (unavailable : Bool) :
    Reports Q k text m' (events ++ [.final { id := k } 0 output.length unavailable]) output := by
  obtain ⟨last, emits, whole, offset⟩ := sends
  obtain rfl : last = output := by simpa [buffered_of_none idle] using whole
  exact ⟨last, ⟨_, emits, Or.inr ⟨unavailable, rfl, idle⟩⟩, whole, offset⟩

/-- The pieces of a buffer have `Q`. -/
def Cuts (Q : List Char → Prop) (bytes : List UInt8) : Prop :=
  ∀ parts : List (List Char), chunks maxBytes bytes.length bytes = some (parts.map Utf8.encode) →
    ∀ part ∈ parts, Q part

theorem cuts_nil : Cuts Q [] := by
  intro parts cut part member
  obtain rfl : parts = [] := by simpa [chunks] using cut
  simp at member

/-- Pieces that are known by their characters. -/
theorem cuts_of_chunks {bytes : List UInt8} {parts : List (List Char)}
    (cut : chunks maxBytes bytes.length bytes = some (parts.map Utf8.encode))
    (holds : ∀ part ∈ parts, Q part) : Cuts Q bytes := by
  intro others other
  have same : parts.map Utf8.encode = others.map Utf8.encode := Option.some.inj (cut.symm.trans other)
  obtain rfl : parts = others := List.map_injective_iff.mpr (fun _ _ => Utf8.encode_injective) same
  exact holds

theorem buffered_takePendingOutput (m : SessionMapper) (k : String) :
    (m.takePendingOutput k).1.buffered k = [] := by
  unfold takePendingOutput
  split
  · next missing => exact buffered_of_none missing
  · dsimp only
    split <;> exact buffered_of_none (by simp)

theorem takePendingOutput_emits (inv : m.Encoded) (named : Named k) (buffers : m.Buffers k text)
    (cuts : Cuts Q (m.buffered k)) :
    Emits Q { id := k } text (m.takePendingOutput k).2 (text ++ m.buffered k) ∧
      (m.takePendingOutput k).1.pendingOutputs.get? k = none := by
  cases found : m.pendingOutputs.get? k with
  | none => simpa [takePendingOutput, buffered, found] using Emits.nil
  | some pending =>
    obtain ⟨chars, buffer⟩ := inv.buffers k pending found
    obtain ⟨parts, rfl, -, cut, taken⟩ := takePendingOutput_of_some found buffer
    have bytes : m.buffered k = pending.buffer := by simp [buffered, found]
    rw [taken, named.keyToItemId, buffers pending found, bytes, buffer]
    rw [bytes] at cuts
    exact ⟨emits_appends parts (cuts parts cut), by simp⟩

theorem maybeFlushFull_sends (inv : m.Encoded) (named : Named k) (buffers : m.Buffers k text)
    (cuts : Cuts Q (m.buffered k)) :
    Sends Q k text (m.maybeFlushFull k).1 (m.maybeFlushFull k).2 (text ++ m.buffered k) := by
  have kept : Sends Q k text m [] (text ++ m.buffered k) := ⟨text, .nil, rfl, buffers⟩
  unfold maybeFlushFull
  split
  · split
    · obtain ⟨emits, gone⟩ := takePendingOutput_emits inv named buffers cuts
      refine ⟨_, emits, ?_, ?_⟩
      · rw [buffered_of_none gone, List.append_nil]
      · intro pending found
        simp [gone] at found
    · exact kept
  · exact kept

/-- The buffer after an extension. -/
theorem buffered_extendBuffer (m : SessionMapper) (now : Nat) (k : String) (old new : ItemTrack) :
    (m.extendBuffer now k old new).buffered k =
      m.buffered k ++ new.output.drop old.output.length := by
  cases found : m.pendingOutputs.get? k <;> simp [extendBuffer, buffered, found]

/-- The pieces a change of the output sends, now or later, have `Q`. -/
def Pieces (Q : List Char → Prop) (m : SessionMapper) (k : String) (old new : ItemTrack) : Prop :=
  if old.output <+: new.output then Cuts Q (m.buffered k ++ new.output.drop old.output.length)
  else ∀ chars, new.output = Utf8.encode chars → Q chars

theorem outputChange_sends {old new : ItemTrack} (inv : m.Encoded) (named : Named k)
    (before : ∃ chars, old.output = Utf8.encode chars)
    (after : ∃ chars, new.output = Utf8.encode chars)
    (buffers : m.Buffers k text) (complete : text ++ m.buffered k = old.output)
    (pieces : Pieces Q m k old new)
    (rewritten : new.output.length = old.output.length → new.output = old.output) :
    Sends Q k text (m.outputChange now k old new).1 (m.outputChange now k old new).2 new.output := by
  unfold outputChange
  split
  · split
    · next extended =>
      have grown : (m.extendBuffer now k old new).Buffers k text := by
        intro pending found
        cases entry : m.pendingOutputs.get? k with
        | none =>
          obtain rfl : _ = pending := by simpa [extendBuffer, entry] using found
          simpa [buffered_of_none entry] using (congrArg List.length complete).symm
        | some first =>
          obtain rfl : _ = pending := by simpa [extendBuffer, entry] using found
          exact buffers first entry
      have cuts : Cuts Q ((m.extendBuffer now k old new).buffered k) := by
        rw [buffered_extendBuffer]
        simpa [Pieces, extended] using pieces
      have sends := maybeFlushFull_sends (inv.extendBuffer k before after extended) named grown cuts
      have whole : text ++ (m.extendBuffer now k old new).buffered k = new.output := by
        rw [buffered_extendBuffer, ← List.append_assoc, complete]
        obtain ⟨rest, same⟩ := extended
        rw [← same, List.drop_left]
      rwa [whole] at sends
    · next replaced =>
      obtain ⟨chars, after⟩ := after
      have holds : Q chars := by
        simp only [Pieces, if_neg replaced] at pieces
        exact pieces chars after
      refine ⟨new.output, ?_, ?_, ?_⟩
      · rw [named.keyToItemId, after]
        exact .replace chars holds .nil
      · rw [buffered_of_none (by simp), List.append_nil]
      · intro pending found
        simp at found
  · next same =>
    have equal := rewritten (by simpa using same)
    exact ⟨text, .nil, complete.trans equal.symm, buffers⟩

/-- The buffer after a change has no other pieces. -/
theorem outputChange_cuts {old new : ItemTrack} (held : Cuts Q (m.buffered k))
    (pieces : Pieces Q m k old new) : Cuts Q ((m.outputChange now k old new).1.buffered k) := by
  unfold outputChange
  split
  · split
    · next extended =>
      have grown : Cuts Q ((m.extendBuffer now k old new).buffered k) := by
        rw [buffered_extendBuffer]
        simpa [Pieces, extended] using pieces
      unfold maybeFlushFull
      split
      · split
        · rw [buffered_takePendingOutput]
          exact cuts_nil
        · exact grown
      · exact grown
    · rw [buffered_of_none (by simp)]
      exact cuts_nil
  · exact held

theorem outputDeltaEvents_cuts {old new : ItemTrack} (held : Cuts Q (m.buffered k))
    (pieces : isOutputItem new.nativeType = true → Pieces Q m k old new) :
    Cuts Q ((m.outputDeltaEvents now k old new).1.buffered k) := by
  unfold outputDeltaEvents
  by_cases output : isOutputItem new.nativeType = true
  · have changed := @outputChange_cuts Q m k now old new held (pieces output)
    rw [if_pos output]
    dsimp only
    split
    · rw [buffered_takePendingOutput]
      exact cuts_nil
    · exact changed
  · rw [if_neg output]
    exact held

theorem outputDeltaEvents_reports {old new : ItemTrack} (inv : m.Encoded) (named : Named k)
    (output : isOutputItem new.nativeType = true)
    (before : ∃ chars, old.output = Utf8.encode chars)
    (after : ∃ chars, new.output = Utf8.encode chars)
    (buffers : m.Buffers k text) (complete : text ++ m.buffered k = old.output)
    (held : Cuts Q (m.buffered k)) (pieces : Pieces Q m k old new)
    (rewritten : new.output.length = old.output.length → new.output = old.output) :
    Reports Q k text (m.outputDeltaEvents now k old new).1 (m.outputDeltaEvents now k old new).2.2
      new.output := by
  have changed := @Encoded.outputChange m now inv k old new before after
  have sends := @outputChange_sends Q text m k now old new inv named before after buffers complete
    pieces rewritten
  have cuts := @outputChange_cuts Q m k now old new held pieces
  unfold outputDeltaEvents
  rw [if_pos output]
  dsimp only
  split
  · obtain ⟨last, emits, whole, offset⟩ := sends
    obtain ⟨flushed, gone⟩ := takePendingOutput_emits changed named offset cuts
    have sent : Sends Q k text ((m.outputChange now k old new).1.takePendingOutput k).1
        ((m.outputChange now k old new).2 ++
          ((m.outputChange now k old new).1.takePendingOutput k).2) new.output := by
      refine ⟨_, emits.trans flushed, ?_, ?_⟩
      · rw [buffered_of_none gone, List.append_nil, whole]
      · intro pending found
        simp [gone] at found
    rw [named.keyToItemId]
    exact sent.reports_final gone _
  · exact sends.reports

/-- The item of a state that was not in the one before. -/
theorem outputEventsForNewSnapshotItem_reports {new : ItemTrack} (named : Named k)
    (output : isOutputItem new.nativeType = true)
    (after : ∃ chars, new.output = Utf8.encode chars)
    (idle : m.pendingOutputs.get? k = none) (empty : new.output = [] → text = [])
    (pieces : ∀ chars, new.output = Utf8.encode chars → Q chars) :
    Reports Q k text m (outputEventsForNewSnapshotItem k new) new.output := by
  obtain ⟨chars, after⟩ := after
  have sends : Sends Q k text m
      (if new.output ≠ [] then [.replace (keyToItemId k) 0 new.output] else []) new.output := by
    refine ⟨new.output, ?_, ?_, ?_⟩
    · split
      · rw [named.keyToItemId, after]
        exact .replace chars (pieces chars after) .nil
      · next none =>
        have none : new.output = [] := by simpa using none
        rw [none, empty none]
        exact .nil
    · rw [buffered_of_none idle, List.append_nil]
    · intro pending found
      simp [idle] at found
  unfold outputEventsForNewSnapshotItem
  rw [if_pos output]
  by_cases ended : commandStatusIsTerminal new.status = true ∧ ¬ new.finalEmitted = true
  · rw [if_pos ended]
    rw [named.keyToItemId] at sends ⊢
    exact sends.reports_final idle _
  · rw [if_neg ended, List.append_nil]
    exact sends.reports

/-- A track is stored with its output. -/
theorem applyItem_stored (m : SessionMapper) (first : Bool) (now : Nat) (state : Json) (k : String)
    (new : ItemTrack) :
    ∃ track, (m.applyItem first now state k new).1.items.get? k = some track ∧
      track.output = new.output ∧ track.nativeType = new.nativeType := by
  unfold applyItem
  split
  · exact ⟨new, by simp, rfl, rfl⟩
  · next old found =>
    refine ⟨_, FiniteMap.get?_insert_self _ _ _, ?_⟩
    unfold outputDeltaEvents
    split
    · dsimp only
      split <;> exact ⟨rfl, rfl⟩
    · exact ⟨rfl, rfl⟩

/-! ## Whole states -/

theorem newItems_get? (state : Json) (k : String) :
    (newItems state).get? k = (state.items.find? fun item => trackKey item = k).map buildTrack := by
  have step : ∀ (items : List Json) (tracks : FiniteMap String ItemTrack),
      (items.foldl (fun tracks item =>
        if tracks.contains (trackKey item) then tracks
        else tracks.insert (trackKey item) (buildTrack item)) tracks).get? k =
      (tracks.get? k).or ((items.find? fun item => trackKey item = k).map buildTrack) := by
    intro items
    induction items with
    | nil => simp
    | cons item items inductionHypothesis =>
      intro tracks
      rw [List.foldl_cons, inductionHypothesis, List.find?_cons]
      by_cases same : trackKey item = k
      · subst same
        cases known : tracks.get? (trackKey item) <;>
          simp [FiniteMap.contains, known]
      · have other : k ≠ trackKey item := fun equal => same equal.symm
        split <;> simp [FiniteMap.get?_insert, same, other]
  simpa [newItems] using step state.items ∅

theorem mem_inKeyOrder {α : Type} {m : FiniteMap String α} {k : String} {v : α} :
    (k, v) ∈ inKeyOrder m ↔ m.get? k = some v := by
  rw [inKeyOrder, List.mem_insertionSort, FiniteMap.mem_toList]

theorem nodup_inKeyOrder {α : Type} (m : FiniteMap String α) :
    ((inKeyOrder m).map (·.1)).Nodup := by
  have keys : (m.toList.map (·.1)).Nodup := by simpa using m.nodup_fst fun _ => true
  exact ((List.perm_insertionSort _ _).map _).nodup_iff.mpr keys

theorem Encoded.applyItems {entries : List (String × ItemTrack)} (inv : m.Encoded) (first : Bool)
    (state : Json) (texts : ∀ e ∈ entries, ∃ chars, e.2.output = Utf8.encode chars) :
    Encoded (m.applyItems first now state entries).1 := by
  induction entries generalizing m with
  | nil => exact inv
  | cons e entries inductionHypothesis =>
    refine inductionHypothesis (inv.applyItem first state e.1 (texts e (by simp))) ?_
    exact fun e' member => texts e' (by simp [member])

theorem applyItems_apart (m : SessionMapper) {entries : List (String × ItemTrack)}
    (absent : k ∉ entries.map (·.1)) (first : Bool) (now : Nat) (state : Json) :
    Apart k m (m.applyItems first now state entries).1 (m.applyItems first now state entries).2 := by
  induction entries generalizing m with
  | nil => exact .refl k m
  | cons e entries inductionHypothesis =>
    simp only [List.map_cons, List.mem_cons, not_or] at absent
    exact (applyItem_apart m (Ne.symm absent.1) first state e.2).trans
      (inductionHypothesis _ absent.2)

/-- An item of a new state has its turn once, between others. -/
theorem applyItems_member {entries : List (String × ItemTrack)} {new : ItemTrack} (inv : m.Encoded)
    (first : Bool) (now : Nat) (state : Json)
    (texts : ∀ e ∈ entries, ∃ chars, e.2.output = Utf8.encode chars)
    (nodup : (entries.map (·.1)).Nodup) (member : (k, new) ∈ entries) :
    ∃ m₁ before after, Apart k m m₁ before ∧ m₁.Encoded ∧
      Apart k (m₁.applyItem first now state k new).1 (m.applyItems first now state entries).1 after ∧
      (m.applyItems first now state entries).2 =
        before ++ (m₁.applyItem first now state k new).2 ++ after := by
  induction entries generalizing m with
  | nil => simp at member
  | cons e entries inductionHypothesis =>
    simp only [List.map_cons, List.nodup_cons] at nodup
    rcases List.mem_cons.mp member with rfl | later
    · exact ⟨m, [], _, .refl k m, inv, applyItems_apart _ nodup.1 first now state, by
        simp [applyItems]⟩
    · have other : e.1 ≠ k := by
        intro same
        exact nodup.1 (same ▸ List.mem_map.mpr ⟨_, later, rfl⟩)
      obtain ⟨m₁, before, after, apart, encoded, rest, events⟩ := inductionHypothesis
        (@Encoded.applyItem m now inv first state e.1 _ (texts e (by simp)))
        (fun e' inside => texts e' (by simp [inside])) nodup.2 later
      refine ⟨m₁, _, after, (applyItem_apart m other first state e.2).trans apart, encoded,
        rest, ?_⟩
      simp only [applyItems, events, List.append_assoc]

/-! ## Flushes -/

theorem Encoded.takeAll (inv : m.Encoded) (keys : List String) : Encoded (m.takeAll keys).1 := by
  induction keys generalizing m with
  | nil => exact inv
  | cons key keys inductionHypothesis => exact inductionHypothesis (inv.takePendingOutput key)

theorem takeAll_apart (m : SessionMapper) {keys : List String} (absent : k ∉ keys) :
    Apart k m (m.takeAll keys).1 (m.takeAll keys).2 := by
  induction keys generalizing m with
  | nil => exact .refl k m
  | cons key keys inductionHypothesis =>
    simp only [List.mem_cons, not_or] at absent
    exact (takePendingOutput_apart m (Ne.symm absent.1)).trans
      (inductionHypothesis _ absent.2)

/-- A buffer that is due is taken once, between others. -/
theorem takeAll_member {keys : List String} (inv : m.Encoded) (nodup : keys.Nodup)
    (member : k ∈ keys) :
    ∃ m₁ before after, Apart k m m₁ before ∧ m₁.Encoded ∧
      Apart k (m₁.takePendingOutput k).1 (m.takeAll keys).1 after ∧
      (m.takeAll keys).2 = before ++ (m₁.takePendingOutput k).2 ++ after := by
  induction keys generalizing m with
  | nil => simp at member
  | cons key keys inductionHypothesis =>
    simp only [List.nodup_cons] at nodup
    rcases List.mem_cons.mp member with rfl | later
    · exact ⟨m, [], _, .refl k m, inv, takeAll_apart _ nodup.1, by simp [takeAll]⟩
    · have other : key ≠ k := fun same => nodup.1 (same ▸ later)
      obtain ⟨m₁, before, after, apart, encoded, rest, events⟩ :=
        inductionHypothesis (inv.takePendingOutput key) nodup.2 later
      refine ⟨m₁, _, after, (takePendingOutput_apart m other).trans apart, encoded, rest, ?_⟩
      simp only [takeAll, events, List.append_assoc]

theorem nodup_dueKeys (m : SessionMapper) (now : Nat) : (m.dueKeys now).Nodup :=
  (List.filter_sublist.map _).nodup (nodup_inKeyOrder m.pendingOutputs)

theorem mem_dueKeys {m : SessionMapper} {now : Nat} :
    k ∈ m.dueKeys now ↔
      ∃ pending, m.pendingOutputs.get? k = some pending ∧ maxDelay ≤ now - pending.queuedAt := by
  simp [dueKeys, mem_inKeyOrder]

/-! ## The state -/

@[simp] theorem takePendingOutput_state (m : SessionMapper) (key : String) :
    (m.takePendingOutput key).1.state = m.state := by
  unfold takePendingOutput
  split
  · rfl
  · dsimp only
    split <;> rfl

@[simp] theorem takePendingOutput_items (m : SessionMapper) (key : String) :
    (m.takePendingOutput key).1.items = m.items := by
  unfold takePendingOutput
  split
  · rfl
  · dsimp only
    split <;> rfl

theorem outputChange_state (m : SessionMapper) (now : Nat) (key : String) (old new : ItemTrack) :
    (m.outputChange now key old new).1.state = m.state := by
  unfold outputChange maybeFlushFull
  split
  · split
    · split
      · split
        · simp [extendBuffer]
        · rfl
      · rfl
    · rfl
  · rfl

theorem applyItem_state (m : SessionMapper) (first : Bool) (now : Nat) (state : Json) (key : String)
    (new : ItemTrack) : (m.applyItem first now state key new).1.state = m.state := by
  unfold applyItem
  split
  · rfl
  · unfold outputDeltaEvents
    by_cases output : isOutputItem new.nativeType = true
    · rw [if_pos output]
      dsimp only
      split <;> simp [outputChange_state]
    · rw [if_neg output]

@[simp] theorem applyItems_state (m : SessionMapper) (first : Bool) (now : Nat) (state : Json)
    (entries : List (String × ItemTrack)) :
    (m.applyItems first now state entries).1.state = m.state := by
  induction entries generalizing m with
  | nil => rfl
  | cons e entries inductionHypothesis =>
    exact (inductionHypothesis _).trans (applyItem_state m first now state e.1 e.2)

@[simp] theorem takeAll_state (m : SessionMapper) (keys : List String) :
    (m.takeAll keys).1.state = m.state := by
  induction keys generalizing m with
  | nil => rfl
  | cons key keys inductionHypothesis =>
    exact (inductionHypothesis _).trans (takePendingOutput_state m key)

@[simp] theorem takeAll_items (m : SessionMapper) (keys : List String) :
    (m.takeAll keys).1.items = m.items := by
  induction keys generalizing m with
  | nil => rfl
  | cons key keys inductionHypothesis =>
    exact (inductionHypothesis _).trans (takePendingOutput_items m key)

end SessionMapper
end AgentConsole.Bridge
