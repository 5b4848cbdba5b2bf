import AgentConsole.Relay.Stream

/-! # The budget of the pending stash

Events that arrive before a stream has a snapshot are stashed in their batches.  When the
stash exceeds one of its budgets, `push_pending` takes out Mergeable events, oldest first,
until both are met or no such event is left.  The stash is looked at as one list of events,
each with the batch it came in (`stashed`). -/

namespace AgentConsole.Relay

open AgentConsole.Lib

namespace DStream

/-! ## The stash as a list of events -/

def isMergeable (event : Event) : Bool := (classify event).1 == .mergeable

/-- What a batch says of each of its events. -/
def PendingUpstreamBatch.header (batch : PendingUpstreamBatch) : PendingUpstreamBatch :=
  { batch with events := [] }

/-- The stashed events in order, each with the header of its batch. -/
def stashed (batches : List PendingUpstreamBatch) : List (PendingUpstreamBatch × Event) :=
  batches.flatMap fun batch => batch.events.map fun event => (PendingUpstreamBatch.header batch, event)

@[simp] theorem stashed_nil : stashed [] = [] := rfl

@[simp] theorem stashed_cons (batch : PendingUpstreamBatch) (rest : List PendingUpstreamBatch) :
    stashed (batch :: rest) =
      batch.events.map (fun event => (PendingUpstreamBatch.header batch, event)) ++ stashed rest := rfl

@[simp] theorem stashed_append (a b : List PendingUpstreamBatch) :
    stashed (a ++ b) = stashed a ++ stashed b := by
  simp [stashed]

/-- The two counters are the true totals. -/
structure Counted (codec : Codec) (ds : DStream) : Prop where
  events : ds.pendingEvents = (stashed ds.pendingBatches).length
  bytes : ds.pendingBytes = ((stashed ds.pendingBatches).map fun e => codec.eventLen e.2).sum

/-- Only Mergeable events are gone, and the batches without an event are those that came
without one. -/
structure Keeps (before after : List PendingUpstreamBatch) : Prop where
  sublist : (stashed after).Sublist (stashed before)
  others : (stashed after).filter (fun e => !isMergeable e.2) =
    (stashed before).filter fun e => !isMergeable e.2
  empty : after.filter (·.events.isEmpty) = before.filter (·.events.isEmpty)

theorem Keeps.refl (batches : List PendingUpstreamBatch) : Keeps batches batches :=
  ⟨List.Sublist.refl _, rfl, rfl⟩

theorem Keeps.trans {a b c : List PendingUpstreamBatch} (first : Keeps a b) (second : Keeps b c) :
    Keeps a c where
  sublist := second.sublist.trans first.sublist
  others := second.others.trans first.others
  empty := second.empty.trans first.empty

/-! ## One eviction -/

theorem evictPending_none {batches : List PendingUpstreamBatch} (none_ : evictPending batches = none) :
    ∀ e ∈ stashed batches, isMergeable e.2 = false := by
  induction batches with
  | nil => simp
  | cons batch rest inductionHypothesis =>
    unfold evictPending at none_
    split at none_
    · dsimp only at none_
      split at none_ <;> cases none_
    · next kept =>
      have later := inductionHypothesis (by simpa using none_)
      have here : ∀ event ∈ batch.events, isMergeable event = false := by
        intro event member
        simpa [isMergeable] using List.find?_eq_none.mp kept event member
      intro e member
      rw [stashed_cons, List.mem_append] at member
      rcases member with now | after
      · obtain ⟨event, inside, rfl⟩ := List.mem_map.mp now
        exact here event inside
      · exact later e after

/-- One Mergeable event is taken out of the list, the oldest one. -/
theorem evictPending_some {batches shorter : List PendingUpstreamBatch} {event : Event}
    (evicted : evictPending batches = some (event, shorter)) :
    isMergeable event = true ∧
      (∃ header before after, stashed batches = before ++ (header, event) :: after ∧
        stashed shorter = before ++ after ∧ ∀ e ∈ before, isMergeable e.2 = false) ∧
      shorter.filter (·.events.isEmpty) = batches.filter (·.events.isEmpty) := by
  induction batches generalizing event shorter with
  | nil => cases evicted
  | cons batch rest inductionHypothesis =>
    unfold evictPending at evicted
    split at evicted
    · next found looked =>
      -- the first batch has one, and loses it
      obtain ⟨mergeable, front, back, events, first⟩ := List.find?_eq_some_iff_append.mp looked
      have erased : batch.events.eraseP (fun e => (classify e).1 == .mergeable) = front ++ back := by
        rw [events, List.eraseP_append_right _ (by simpa using first)]
        simp [show ((classify found).1 == .mergeable) = true from mergeable]
      dsimp only at evicted
      rw [erased] at evicted
      have whole : stashed (batch :: rest) =
          front.map (fun e => (PendingUpstreamBatch.header batch, e)) ++
            (PendingUpstreamBatch.header batch, found) ::
              (back.map (fun e => (PendingUpstreamBatch.header batch, e)) ++ stashed rest) := by
        simp [events]
      have kept : ∀ e ∈ front.map (fun e => (PendingUpstreamBatch.header batch, e)),
          isMergeable e.2 = false := by
        intro e member
        obtain ⟨event, inside, rfl⟩ := List.mem_map.mp member
        simpa [isMergeable] using first event inside
      have filled : batch.events.isEmpty = false := by simp [events]
      split at evicted
      · next empty =>
        cases evicted
        obtain ⟨rfl, rfl⟩ := List.append_eq_nil_iff.mp (List.isEmpty_iff.mp empty)
        refine ⟨mergeable, ⟨_, [], stashed rest, whole, rfl, by simp⟩, ?_⟩
        simp [filled]
      · next left =>
        cases evicted
        refine ⟨mergeable, ⟨_, _, _, whole, ?_, kept⟩, ?_⟩
        · simp [PendingUpstreamBatch.header]
        · simp only [List.filter_cons, filled, Bool.false_eq_true, if_false]
          exact if_neg left
    · next kept =>
      obtain ⟨⟨taken, later⟩, inner, equal⟩ := Option.map_eq_some_iff.mp evicted
      cases equal
      obtain ⟨mergeable, ⟨header, before, after, whole, less, first⟩, same⟩ :=
        inductionHypothesis inner
      refine ⟨mergeable, ⟨header,
        batch.events.map (fun e => (PendingUpstreamBatch.header batch, e)) ++ before, after,
        ?_, ?_, ?_⟩, ?_⟩
      · rw [stashed_cons, whole, List.append_assoc]
      · rw [stashed_cons, less, List.append_assoc]
      · intro e member
        rcases List.mem_append.mp member with now | then_
        · obtain ⟨event, inside, rfl⟩ := List.mem_map.mp now
          simpa [isMergeable] using List.find?_eq_none.mp kept event inside
        · exact first e then_
      · simp only [List.filter_cons]
        rw [same]

theorem keeps_of_evictPending {batches shorter : List PendingUpstreamBatch} {event : Event}
    (evicted : evictPending batches = some (event, shorter)) : Keeps batches shorter := by
  obtain ⟨mergeable, ⟨header, before, after, whole, less, -⟩, same⟩ := evictPending_some evicted
  refine ⟨?_, ?_, same⟩
  · rw [whole, less]
    exact (List.sublist_cons_self _ _).append_left _
  · rw [whole, less]
    simp [List.filter_append, mergeable]

/-! ## The loop -/

variable {codec : Codec} {ds : DStream}

/-- One turn of the loop, which has found an event to evict. -/
def evicted (codec : Codec) (ds : DStream) (event : Event) (batches : List PendingUpstreamBatch) :
    DStream :=
  { ds with
    pendingBatches := batches
    pendingEvents := ds.pendingEvents - 1
    pendingBytes := ds.pendingBytes - codec.eventLen event }

theorem Counted.evicted (counted : Counted codec ds) {event : Event}
    {batches : List PendingUpstreamBatch} (found : evictPending ds.pendingBatches = some (event, batches)) :
    Counted codec (ds.evicted codec event batches) ∧
      (ds.evicted codec event batches).pendingEvents + 1 = ds.pendingEvents := by
  obtain ⟨-, ⟨header, before, after, whole, less, -⟩, -⟩ := evictPending_some found
  have events := counted.events
  have bytes := counted.bytes
  rw [whole] at events bytes
  simp only [List.length_append, List.length_cons, List.map_append, List.map_cons,
    List.sum_append, List.sum_cons] at events bytes
  refine ⟨⟨?_, ?_⟩, ?_⟩
  · show ds.pendingEvents - 1 = (stashed batches).length
    rw [less, List.length_append]
    omega
  · show ds.pendingBytes - codec.eventLen event = _
    rw [show (ds.evicted codec event batches).pendingBatches = batches from rfl, less,
      List.map_append, List.sum_append]
    omega
  · show ds.pendingEvents - 1 + 1 = ds.pendingEvents
    omega

/-- With counters at zero the budgets are met. -/
theorem Counted.fits_of_empty (counted : Counted codec ds) (empty : ds.pendingEvents = 0) :
    ds.pendingFits = true := by
  have none_ : stashed ds.pendingBatches = [] :=
    List.length_eq_zero_iff.mp (counted.events.symm.trans empty)
  have bytes : ds.pendingBytes = 0 := by
    rw [counted.bytes, none_]
    rfl
  simp [pendingFits, empty, bytes]

/-- How the loop may end: within both budgets, or over one with nothing left to evict. -/
structure Ended (codec : Codec) (start : DStream) (result : DStream × Bool) : Prop where
  counted : Counted codec result.1
  keeps : Keeps start.pendingBatches result.1.pendingBatches
  fits : result.2 = false → result.1.pendingFits = true
  exceeds : result.2 = true → result.1.pendingFits = false ∧
    ∀ e ∈ stashed result.1.pendingBatches, isMergeable e.2 = false

theorem evictPendingLoop_succ (n : Nat) :
    evictPendingLoop codec (n + 1) ds =
      if ds.pendingFits then (ds, false)
      else match evictPending ds.pendingBatches with
        | none => (ds, true)
        | some (event, batches) => evictPendingLoop codec n (ds.evicted codec event batches) := rfl

/-- As many rounds as there are events are enough, and with more the result is the same. -/
theorem evictPendingLoop_ended (rounds : Nat) (counted : Counted codec ds)
    (enough : ds.pendingEvents ≤ rounds) :
    Ended codec ds (evictPendingLoop codec rounds ds) ∧
      ∀ more, evictPendingLoop codec (rounds + more) ds = evictPendingLoop codec rounds ds := by
  induction rounds generalizing ds with
  | zero =>
    have fits := counted.fits_of_empty (Nat.le_zero.mp enough)
    have stops (n : Nat) : evictPendingLoop codec n ds = (ds, false) := by
      cases n <;> simp [evictPendingLoop, fits]
    constructor
    · rw [stops]
      exact ⟨counted, .refl _, fun _ => fits, fun exceeded => by cases exceeded⟩
    · intro more
      rw [stops, stops]
  | succ rounds inductionHypothesis =>
    rw [evictPendingLoop_succ]
    simp only [Nat.add_right_comm rounds 1, evictPendingLoop_succ]
    split
    · next fits => exact ⟨⟨counted, .refl _, fun _ => fits, fun exceeded => by cases exceeded⟩, fun _ => rfl⟩
    · next exceeded =>
      split
      · next none_ =>
        refine ⟨⟨counted, .refl _, (by intro met; cases met),
          fun _ => ⟨?_, evictPending_none none_⟩⟩, fun _ => rfl⟩
        simpa using exceeded
      · next event batches found =>
        obtain ⟨counted', less⟩ := counted.evicted found
        obtain ⟨ended, same⟩ := inductionHypothesis counted' (by omega)
        exact ⟨⟨ended.counted, (keeps_of_evictPending found).trans ended.keeps, ended.fits,
          ended.exceeds⟩, same⟩

/-! ## Pushing a batch -/

/-- The stash with the batch, before anything is evicted. -/
def pushed (codec : Codec) (ds : DStream) (batch : PendingUpstreamBatch) : DStream :=
  { ds with
    pendingEvents := ds.pendingEvents + batch.events.length
    pendingBytes := ds.pendingBytes + (batch.events.map codec.eventLen).sum
    pendingBatches := ds.pendingBatches ++ [batch] }

theorem Counted.pushed (counted : Counted codec ds) (batch : PendingUpstreamBatch) :
    Counted codec (ds.pushed codec batch) where
  events := by
    show ds.pendingEvents + batch.events.length = (stashed (ds.pendingBatches ++ [batch])).length
    rw [counted.events]
    simp
  bytes := by
    show ds.pendingBytes + (batch.events.map codec.eventLen).sum =
      ((stashed (ds.pendingBatches ++ [batch])).map fun e => codec.eventLen e.2).sum
    rw [counted.bytes]
    simp [Function.comp_def]

/-- What may happen to a stash: a batch is pushed, or everything is cleared. -/
inductive StashInput where
  | push (batch : PendingUpstreamBatch)
  | clear

def stash (codec : Codec) (ds : DStream) : StashInput → DStream
  | .push batch => (ds.pushPending codec batch).1
  | .clear => ds.clearPending

/-- The pushing of a batch ends, with as many rounds as there are events. -/
theorem Counted.pushPending (counted : Counted codec ds) (batch : PendingUpstreamBatch) :
    Ended codec (ds.pushed codec batch) (ds.pushPending codec batch) ∧
      ∀ more, evictPendingLoop codec ((ds.pushed codec batch).pendingEvents + more)
        (ds.pushed codec batch) = ds.pushPending codec batch :=
  evictPendingLoop_ended (ds.pushed codec batch).pendingEvents (counted.pushed batch) le_rfl

theorem counted_clearPending (codec : Codec) (ds : DStream) : Counted codec ds.clearPending :=
  ⟨rfl, rfl⟩

theorem Counted.stash (counted : Counted codec ds) (input : StashInput) :
    Counted codec (ds.stash codec input) := by
  cases input with
  | push batch => exact (counted.pushPending batch).1.counted
  | clear => exact counted_clearPending codec ds

/-- The counters are true after any pushes and clears of a stash that was empty at first. -/
theorem counted_stash (codec : Codec) (ds : DStream) (inputs : List StashInput) :
    Counted codec (inputs.foldl (DStream.stash codec) ds.clearPending) := by
  induction inputs using List.reverseRecOn with
  | nil => exact counted_clearPending codec ds
  | append_singleton inputs input counted =>
    rw [List.foldl_append]
    exact counted.stash input

end DStream

/-- **Stash budget**: in every state a stash can be in, pushing a batch comes to an end (more
rounds of the loop change nothing), the counters are the true totals again, only Mergeable
events are gone and no batch was left empty; `false` means that both budgets are met, and
`true` exactly that no Mergeable event is left and one is still exceeded. -/
theorem push_pending_budget (codec : Codec) (start : DStream) (inputs : List DStream.StashInput)
    (batch : PendingUpstreamBatch) :
    let ds := inputs.foldl (DStream.stash codec) start.clearPending
    let result := ds.pushPending codec batch
    (∀ more, DStream.evictPendingLoop codec ((ds.pushed codec batch).pendingEvents + more)
      (ds.pushed codec batch) = result) ∧
    DStream.Counted codec result.1 ∧
    DStream.Keeps (ds.pendingBatches ++ [batch]) result.1.pendingBatches ∧
    (result.2 = false → result.1.pendingFits = true) ∧
    (result.2 = true ↔
      (∀ e ∈ DStream.stashed result.1.pendingBatches, DStream.isMergeable e.2 = false) ∧
      result.1.pendingFits = false) := by
  intro ds result
  obtain ⟨ended, same⟩ := (DStream.counted_stash codec start inputs).pushPending batch
  refine ⟨same, ended.counted, ended.keeps, ended.fits, ?_⟩
  constructor
  · intro exceeded
    exact (ended.exceeds exceeded).symm
  · intro ⟨_, exceeded⟩
    by_contra met
    have fits : result.1.pendingFits = true := ended.fits (by simpa using met)
    rw [fits] at exceeded
    cases exceeded

end AgentConsole.Relay
