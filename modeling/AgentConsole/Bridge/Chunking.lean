import AgentConsole.Bridge.MapperSteps
import AgentConsole.Lib.Utf8Decode

/-! # The chunks of a pending output

`take_pending_output` cuts a buffer round by round, with a limit that belongs to the merge policy.
The loop is modelled as it runs: a round either emits one chunk or panics, and it is not given
that the rounds end. -/

namespace AgentConsole.Bridge

open AgentConsole.Lib

/-- The variables of the loop. -/
structure ChunkLoop where
  offset : Nat
  rest : List UInt8
  events : List OutputEvent

/-- Where so many rounds lead. -/
inductive LoopOutcome where
  | done (events : List OutputEvent)
  | panicked
  | running
deriving DecidableEq

namespace ChunkLoop

/-- The state before the first round. -/
def start (pending : PendingOutput) : ChunkLoop := ⟨pending.expectedOffset, pending.buffer, []⟩

/-- A round; `none` is the panic of the `expect`. -/
def round (item : ItemId) (max : Nat) (loop : ChunkLoop) : Option ChunkLoop :=
  (splitUtf8Safe loop.rest max).map fun (chunk, tail) =>
    ⟨loop.offset + chunk.length, tail, loop.events ++ [.append item loop.offset chunk]⟩

/-- `while !rest.is_empty()`, for so many rounds. -/
def run (item : ItemId) (max : Nat) : Nat → ChunkLoop → LoopOutcome
  | 0, loop => if loop.rest = [] then .done loop.events else .running
  | rounds + 1, loop =>
    if loop.rest = [] then .done loop.events
    else
      match loop.round item max with
      | none => .panicked
      | some next => run item max rounds next

end ChunkLoop

/-- The events are appends of these chunks, each at the offset where the last one ends. -/
structure Contiguous (item : ItemId) (offset : Nat) (chunks : List (List UInt8))
    (events : List OutputEvent) : Prop where
  length : events.length = chunks.length
  append : ∀ i chunk, chunks[i]? = some chunk →
    events[i]? = some (OutputEvent.append item (offset + (chunks.take i).flatten.length) chunk)

/-- The chunks make up the text, and each of them is a text within the limit. -/
structure GoodChunks (max : Nat) (bytes : List UInt8) (chunks : List (List UInt8)) : Prop where
  whole : chunks.flatten = bytes
  nonempty : ∀ chunk ∈ chunks, chunk ≠ []
  within : ∀ chunk ∈ chunks, chunk.length ≤ max
  valid : ∀ chunk ∈ chunks, Utf8.isValid chunk = true

variable {item : ItemId} {max : Nat} {bytes : List UInt8}

theorem contiguous_nil (item : ItemId) (offset : Nat) : Contiguous item offset [] [] :=
  ⟨rfl, fun i chunk found => by simp at found⟩

theorem Contiguous.cons {offset : Nat} {chunk : List UInt8} {chunks : List (List UInt8)}
    {events : List OutputEvent} (later : Contiguous item (offset + chunk.length) chunks events) :
    Contiguous item offset (chunk :: chunks) (OutputEvent.append item offset chunk :: events) := by
  constructor
  · simp [later.length]
  · intro i part found
    cases i with
    | zero =>
      obtain rfl : chunk = part := by simpa using found
      simp
    | succ i =>
      have next := later.append i part (by simpa using found)
      rw [List.getElem?_cons_succ, next, List.take_succ_cons, List.flatten_cons,
        List.length_append, Nat.add_assoc]

theorem GoodChunks.cons {chunk tail : List UInt8} {chunks : List (List UInt8)}
    (some_ : chunk ≠ []) (small : chunk.length ≤ max) (text : Utf8.isValid chunk = true)
    (later : GoodChunks max tail chunks) : GoodChunks max (chunk ++ tail) (chunk :: chunks) where
  whole := by rw [List.flatten_cons, later.whole]
  nonempty := List.forall_mem_cons.mpr ⟨some_, later.nonempty⟩
  within := List.forall_mem_cons.mpr ⟨small, later.within⟩
  valid := List.forall_mem_cons.mpr ⟨text, later.valid⟩

/-- A round takes at least one character and leaves a text. -/
theorem splitUtf8Safe_valid (valid : Utf8.isValid bytes = true) (some_ : bytes ≠ [])
    (room : 4 ≤ max) :
    ∃ chunk tail, splitUtf8Safe bytes max = some (chunk, tail) ∧ bytes = chunk ++ tail ∧
      chunk ≠ [] ∧ chunk.length ≤ max ∧ Utf8.isValid chunk = true ∧ Utf8.isValid tail = true := by
  obtain ⟨text, rfl⟩ := Utf8.isValid_iff.mp valid
  have nonempty : text ≠ [] := fun none_ => some_ (Utf8.encode_eq_nil.mpr none_)
  obtain ⟨a, b, rfl, first, cut⟩ := splitUtf8Safe_encode nonempty room
  refine ⟨_, _, cut, Utf8.encode_append a b, fun none_ => first (Utf8.encode_eq_nil.mp none_), ?_,
    Utf8.isValid_iff.mpr ⟨a, rfl⟩, Utf8.isValid_iff.mpr ⟨b, rfl⟩⟩
  -- the cut is not above the limit
  unfold splitUtf8Safe at cut
  split at cut
  next => cases cut
  next =>
    dsimp only at cut
    split at cut
    next => cases cut
    next =>
      have chunk := (Prod.mk.inj (Option.some.inj cut)).1
      rw [← chunk, List.length_take]
      have below := lastBoundary_le (Utf8.encode (a ++ b)) (min max (Utf8.encode (a ++ b)).length)
      omega

namespace ChunkLoop

theorem run_empty {loop : ChunkLoop} (rounds : Nat) (empty : loop.rest = []) :
    run item max rounds loop = .done loop.events := by
  cases rounds with
  | zero => exact if_pos empty
  | succ rounds => exact if_pos empty

theorem run_round {loop next : ChunkLoop} (rounds : Nat) (some_ : loop.rest ≠ [])
    (taken : loop.round item max = some next) :
    run item max (rounds + 1) loop = run item max rounds next := by
  rw [run, if_neg some_]
  simp only [taken]

theorem run_zero {loop : ChunkLoop} (some_ : loop.rest ≠ []) :
    run item max 0 loop = .running :=
  if_neg some_

/-- The loop by induction on the number of bytes that are left. -/
theorem run_valid (room : 4 ≤ max) (size : Nat) (loop : ChunkLoop)
    (valid : Utf8.isValid loop.rest = true) (left : loop.rest.length ≤ size) :
    ∃ chunks events, GoodChunks max loop.rest chunks ∧
      Contiguous item loop.offset chunks events ∧
      (∀ rounds, chunks.length ≤ rounds →
        run item max rounds loop = .done (loop.events ++ events)) ∧
      ∀ rounds, rounds < chunks.length → run item max rounds loop = .running := by
  induction size generalizing loop with
  | zero =>
    have empty : loop.rest = [] := List.length_eq_zero_iff.mp (Nat.le_zero.mp left)
    refine ⟨[], [], ⟨by simp [empty], by simp, by simp, by simp⟩, contiguous_nil _ _, ?_, ?_⟩
    · intro rounds _
      rw [run_empty rounds empty, List.append_nil]
    · intro rounds few
      exact absurd few (Nat.not_lt_zero _)
  | succ size inductionHypothesis =>
    by_cases empty : loop.rest = []
    · refine ⟨[], [], ⟨by simp [empty], by simp, by simp, by simp⟩, contiguous_nil _ _, ?_, ?_⟩
      · intro rounds _
        rw [run_empty rounds empty, List.append_nil]
      · intro rounds few
        exact absurd few (Nat.not_lt_zero _)
    · obtain ⟨chunk, tail, cut, shape, some_, small, text, rest⟩ :=
        splitUtf8Safe_valid valid empty room
      have positive := List.length_pos_of_ne_nil some_
      have shorter : tail.length ≤ size := by
        rw [shape, List.length_append] at left
        omega
      let next : ChunkLoop :=
        ⟨loop.offset + chunk.length, tail, loop.events ++ [.append item loop.offset chunk]⟩
      have taken : loop.round item max = some next := by
        rw [round, cut]
        rfl
      obtain ⟨chunks, events, good, contiguous, done, running⟩ :=
        inductionHypothesis next rest shorter
      refine ⟨chunk :: chunks, OutputEvent.append item loop.offset chunk :: events, ?_, contiguous.cons, ?_, ?_⟩
      · rw [shape]
        exact good.cons some_ small text
      · intro rounds enough
        obtain ⟨rounds, rfl⟩ := Nat.exists_eq_add_of_le' (Nat.one_le_of_lt enough)
        rw [run_round rounds empty taken, done rounds (by simpa using enough)]
        simp [next]
      · intro rounds few
        cases rounds with
        | zero => exact run_zero empty
        | succ rounds =>
          rw [run_round rounds empty taken]
          exact running rounds (by simpa using few)

/-- The chunks of the loop are those of `chunks`. -/
theorem run_chunks {fuel : Nat} {parts : List (List UInt8)} (offset : Nat)
    (events : List OutputEvent) (cut : chunks max fuel bytes = some parts) :
    run item max fuel ⟨offset, bytes, events⟩ =
      .done (events ++ SessionMapper.appends item offset parts) := by
  induction fuel generalizing bytes parts offset events with
  | zero =>
    cases bytes with
    | nil =>
      obtain rfl : [] = parts := by simpa [chunks] using cut
      simp [run, SessionMapper.appends]
    | cons byte bytes => cases cut
  | succ fuel inductionHypothesis =>
    cases bytes with
    | nil =>
      obtain rfl : [] = parts := by simpa [chunks] using cut
      simp [run, SessionMapper.appends]
    | cons byte bytes =>
      rw [chunks.eq_3 _ _ _ (List.cons_ne_nil _ _)] at cut
      obtain ⟨⟨chunk, tail⟩, first, rest⟩ := Option.bind_eq_some_iff.mp cut
      obtain ⟨later, next, same⟩ := Option.bind_eq_some_iff.mp rest
      obtain rfl : chunk :: later = parts := by simpa using same
      have taken : round item max ⟨offset, byte :: bytes, events⟩ =
          some ⟨offset + chunk.length, tail, events ++ [.append item offset chunk]⟩ := by
        rw [round, first]
        rfl
      rw [run_round fuel (List.cons_ne_nil _ _) taken, inductionHypothesis _ _ next]
      simp [SessionMapper.appends]

end ChunkLoop

/-- **Chunking**: for every pending text and every limit of at least four bytes the loop ends
after as many rounds as there are chunks and panics in none.  The chunks are texts within the
limit, none is empty, together they are the buffer, and their offsets go on from that of the
pending output. -/
theorem pending_output_chunked (item : ItemId) (pending : PendingOutput) (max : Nat)
    (room : 4 ≤ max) (valid : Utf8.isValid pending.buffer = true) :
    ∃ chunks events, GoodChunks max pending.buffer chunks ∧
      Contiguous item pending.expectedOffset chunks events ∧
      (∀ rounds, chunks.length ≤ rounds →
        (ChunkLoop.start pending).run item max rounds = .done events) ∧
      ∀ rounds, (ChunkLoop.start pending).run item max rounds ≠ .panicked := by
  obtain ⟨chunks, events, good, contiguous, done, running⟩ :=
    ChunkLoop.run_valid room pending.buffer.length (ChunkLoop.start pending) valid le_rfl
  refine ⟨chunks, events, good, contiguous, done, ?_⟩
  intro rounds
  rcases Nat.lt_or_ge rounds chunks.length with few | enough
  · rw [running rounds few]
    exact LoopOutcome.noConfusion
  · rw [done rounds enough]
    exact LoopOutcome.noConfusion

/-- At the limit of the merge policy, `take_pending_output` of the mapper emits what the loop
does. -/
theorem takePendingOutput_of_loop {m : SessionMapper} {key : String} {pending : PendingOutput}
    (found : m.pendingOutputs.get? key = some pending)
    (valid : Utf8.isValid pending.buffer = true) :
    ∃ events, (ChunkLoop.start pending).run (keyToItemId key) SessionMapper.maxBytes
        pending.buffer.length = .done events ∧
      m.takePendingOutput key =
        ({ m with pendingOutputs := m.pendingOutputs.erase key }, events) := by
  obtain ⟨text, same⟩ := Utf8.isValid_iff.mp valid
  have room : 4 ≤ SessionMapper.maxBytes := by decide
  obtain ⟨parts, cut, -⟩ :=
    chunks_encode room text (Nat.le_of_eq (congrArg List.length same.symm))
  rw [← same] at cut
  refine ⟨_, ChunkLoop.run_chunks pending.expectedOffset [] cut, ?_⟩
  simp only [SessionMapper.takePendingOutput, found, cut, List.nil_append]

theorem pending_output_chunked_small :
    ∃ chunks events, GoodChunks 4 (Utf8.encode ['a', '中', 'b']) chunks ∧
      Contiguous { id := "c" } 7 chunks events ∧
      (∀ rounds, chunks.length ≤ rounds →
        (ChunkLoop.start ⟨7, Utf8.encode ['a', '中', 'b'], 0⟩).run { id := "c" } 4 rounds =
          .done events) ∧
      ∀ rounds, (ChunkLoop.start ⟨7, Utf8.encode ['a', '中', 'b'], 0⟩).run { id := "c" } 4 rounds ≠
        .panicked :=
  pending_output_chunked { id := "c" } ⟨7, Utf8.encode ['a', '中', 'b'], 0⟩ 4 (by decide)
    (Utf8.isValid_iff.mpr ⟨_, rfl⟩)

end AgentConsole.Bridge
