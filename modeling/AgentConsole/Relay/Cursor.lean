import AgentConsole.Relay.Moves

/-! # The order of frames at a subscriber

`Cursor` reads what a connection is sent of one stream and says where the next
frame has to be: after a `Subscribed` at its base, after a frame at the next
number.  `ResyncRequired` frees it.  `StreamGate` is the browser's own check of
the same numbers; it has nothing to repair as long as the cursor is not
violated. -/

namespace AgentConsole.Relay

/-- The envelope brings data of a stream. -/
def carries (env : Envelope) : Bool := isSnapshot env || (batchEvents env).isSome

theorem carries_cases {env : Envelope} (data : carries env = true) :
    (∃ rest, env.payload = some (.runtimeSnapshot rest)) ∨
    (∃ batch, env.payload = some (.sessionSummaryBatch batch)) ∨
    ∃ batch, env.payload = some (.eventBatch batch) := by
  unfold carries isSnapshot batchEvents at data
  split at data
  · next rest payload => exact .inl ⟨rest, payload⟩
  · next batch payload => exact .inr (.inl ⟨batch, payload⟩)
  · split at data
    · next batch payload => exact .inr (.inl ⟨batch, payload⟩)
    · next batch payload => exact .inr (.inr ⟨batch, payload⟩)
    · cases data

/-- Where a subscriber of a stream is. -/
inductive Cursor where
  /-- No `Subscribed` yet, or a `ResyncRequired` since. -/
  | free
  /-- Subscribed, and no frame since. -/
  | based (epoch base : Nat)
  /-- The last frame. -/
  | reached (epoch sequence : Nat)
  /-- A frame came out of order. -/
  | violated
deriving DecidableEq

namespace Cursor

/-- A window that starts with a snapshot starts at the base, one that starts
with an event after it. -/
def firstNumber (base : Nat) (f : Frame) : Nat := if isSnapshot f.env then base else base + 1

/-- A frame of the stream. -/
def frame (f : Frame) : Cursor → Cursor
  | free => reached f.env.streamEpoch f.sequence
  | based epoch base =>
    if f.env.streamEpoch = epoch ∧ f.sequence = firstNumber base f then reached epoch f.sequence
    else violated
  | reached epoch last =>
    if f.env.streamEpoch = epoch ∧ f.sequence = last + 1 then reached epoch f.sequence
    else violated
  | violated => violated

/-- A direct message announces a new base or a resync. -/
def rebase (streamId : String) (payload : Option Payload) (c : Cursor) : Cursor :=
  match payload with
  | some (.subscribed sub) =>
    if sub.streamId = streamId ∧ c ≠ violated then based sub.streamEpoch sub.baseSequence else c
  | some (.resyncRequired id) => if id = streamId ∧ c ≠ violated then free else c
  | _ => c

/-- One item of the queue.  Data of the stream comes in frames, and frames bring
nothing else. -/
def item (streamId : String) (c : Cursor) : OutItem → Cursor
  | .frame f =>
    if carries f.env then if f.env.streamId = streamId then c.frame f else c else violated
  | .direct bytes =>
    if bytes.env.streamId = streamId ∧ carries bytes.env then violated
    else c.rebase streamId bytes.env.payload
  | .close _ => c

/-- The cursor after a history. -/
def after (streamId : String) (history : List OutItem) : Cursor :=
  history.foldl (item streamId) free

variable {streamId : String}

theorem after_append (history more : List OutItem) :
    after streamId (history ++ more) = more.foldl (item streamId) (after streamId history) :=
  List.foldl_append

/-- An item that says nothing about the stream. -/
def Silent (streamId : String) : OutItem → Prop
  | .frame f => carries f.env = true ∧ f.env.streamId ≠ streamId
  | .direct bytes =>
    ¬(bytes.env.streamId = streamId ∧ carries bytes.env) ∧
      (∀ sub, bytes.env.payload = some (.subscribed sub) → sub.streamId ≠ streamId) ∧
      bytes.env.payload ≠ some (.resyncRequired streamId)
  | .close _ => True

theorem item_silent {i : OutItem} (silent : Silent streamId i) (c : Cursor) :
    c.item streamId i = c := by
  cases i with
  | frame f =>
    dsimp only [item]
    rw [if_pos silent.1, if_neg silent.2]
  | direct bytes =>
    obtain ⟨noData, noBase, noResync⟩ := silent
    dsimp only [item]
    rw [if_neg noData]
    unfold rebase
    split
    · next sub payload => exact if_neg fun both => noBase sub payload both.1
    · next id payload => exact if_neg fun both => noResync (by rw [payload, both.1])
    · rfl
  | close reason => rfl

/-! ## Violations last -/

theorem item_violated (i : OutItem) : violated.item streamId i = violated := by
  cases i with
  | frame f =>
    dsimp only [item]
    split
    · split <;> rfl
    · rfl
  | direct bytes =>
    dsimp only [item]
    split
    · rfl
    · unfold rebase
      split <;> simp
  | close reason => rfl

theorem foldl_violated (items : List OutItem) :
    items.foldl (item streamId) violated = violated := by
  induction items with
  | nil => rfl
  | cons i rest inductionHypothesis => rw [List.foldl_cons, item_violated, inductionHypothesis]

/-- The beginning of a history in order is in order. -/
theorem foldl_of_append {history more : List OutItem} {c : Cursor}
    (inOrder : (history ++ more).foldl (item streamId) c ≠ violated) :
    history.foldl (item streamId) c ≠ violated := by
  intro bad
  rw [List.foldl_append, bad, foldl_violated] at inOrder
  exact inOrder rfl

/-- Without its frames a history in order is still in order. -/
theorem foldl_filter_survivesClose {items : List OutItem} {c d : Cursor}
    (inOrder : items.foldl (item streamId) c ≠ violated) (start : d ≠ violated) :
    (items.filter OutItem.survivesClose).foldl (item streamId) d ≠ violated := by
  induction items generalizing c d with
  | nil => exact start
  | cons i rest inductionHypothesis =>
    rw [List.foldl_cons] at inOrder
    cases i with
    | frame f => exact inductionHypothesis inOrder start
    | close reason => exact inductionHypothesis inOrder start
    | direct bytes =>
      refine inductionHypothesis inOrder ?_
      dsimp only [item]
      split
      · next data =>
        -- data in a direct message violates the order from every cursor
        have bad : c.item streamId (.direct bytes) = violated := if_pos data
        rw [bad, foldl_violated] at inOrder
        exact absurd rfl inOrder
      · unfold rebase
        split
        · split <;> simp_all
        · split <;> simp_all
        · exact start

/-- What the writer gets is in order if what the queue took is. -/
theorem sent_inOrder {o : Outbox} (ordered : o.Ordered)
    (inOrder : after streamId o.accepted ≠ violated) : after streamId o.sent ≠ violated := by
  obtain ⟨before, rest, history, queued, -⟩ := ordered
  unfold after at inOrder ⊢
  rw [history] at inOrder
  have whole : (o.sent ++ o.items).foldl (item streamId) free ≠ violated := by
    have start := foldl_of_append inOrder
    rw [queued, List.foldl_append]
    rw [List.foldl_append] at inOrder
    exact foldl_filter_survivesClose inOrder start
  exact foldl_of_append whole

/-! ## Consecutive frames -/

/-- The frame brings data of the stream in the epoch. -/
structure Belongs (streamId : String) (epoch : Nat) (f : Frame) : Prop where
  stream : f.env.streamId = streamId
  epoch : f.env.streamEpoch = epoch
  data : carries f.env = true

theorem item_next {f : Frame} {epoch last : Nat} (belongs : Belongs streamId epoch f)
    (next : f.sequence = last + 1) :
    (reached epoch last).item streamId (.frame f) = reached epoch f.sequence := by
  simp [item, belongs.stream, belongs.data, frame, belongs.epoch, next]

/-- Frames that continue a cursor, one number after the other. -/
theorem foldl_reached {frames : List Frame} {epoch last : Nat}
    (belong : ∀ f ∈ frames, Belongs streamId epoch f)
    (numbers : frames.map Frame.sequence = List.range' (last + 1) frames.length) :
    (frames.map OutItem.frame).foldl (item streamId) (reached epoch last) =
      reached epoch (last + frames.length) := by
  induction frames generalizing last with
  | nil => rfl
  | cons f rest inductionHypothesis =>
    rw [List.map_cons, List.length_cons, List.range'_succ, List.cons.injEq] at numbers
    obtain ⟨first, others⟩ := numbers
    rw [List.map_cons, List.foldl_cons, item_next (belong f List.mem_cons_self) first, first,
      inductionHypothesis (fun g member => belong g (List.mem_cons_of_mem _ member)) others,
      List.length_cons, Nat.add_assoc, Nat.add_comm 1]

/-- A window after its `Subscribed`. -/
theorem foldl_based {first : Frame} {rest : List Frame} {epoch base : Nat}
    (belong : ∀ f ∈ first :: rest, Belongs streamId epoch f)
    (start : first.sequence = firstNumber base first)
    (numbers : (first :: rest).map Frame.sequence =
      List.range' first.sequence (rest.length + 1)) :
    ((first :: rest).map OutItem.frame).foldl (item streamId) (based epoch base) =
      reached epoch (first.sequence + rest.length) := by
  have own := belong first List.mem_cons_self
  have begun : (based epoch base).item streamId (.frame first) = reached epoch first.sequence := by
    simp [item, own.stream, own.data, frame, own.epoch, start]
  rw [List.map_cons, List.range'_succ, List.cons.injEq] at numbers
  rw [List.map_cons, List.foldl_cons, begun]
  exact foldl_reached (fun g member => belong g (List.mem_cons_of_mem _ member)) numbers.2

end Cursor

/-! ## The browser's gate -/

/-- `StreamState` of the browser for one stream, with the mark that a resync of
the stream is in flight; `repairs` counts the resyncs it asked for because of a
gap. -/
structure StreamGate where
  epoch : Nat
  lastSequence : Nat
  resyncInFlight : Bool
  repairs : Nat
deriving DecidableEq

namespace StreamGate

/-- `#acceptSnapshot`: the second part says whether the snapshot is applied. -/
def acceptSnapshot (env : Envelope) (g : StreamGate) : StreamGate × Bool :=
  if g.epoch ≠ env.streamEpoch then (g, false) else ({ g with resyncInFlight := false }, true)

/-- `#requestStreamResync`, because of a gap. -/
def requestStreamResync (g : StreamGate) : StreamGate :=
  if g.resyncInFlight then g else { g with resyncInFlight := true, repairs := g.repairs + 1 }

/-- `#sequencedStream`. -/
def sequencedStream (env : Envelope) (g : StreamGate) : StreamGate × Bool :=
  if g.epoch ≠ env.streamEpoch then (g, false)
  else if env.sequence ≤ g.lastSequence then (g, false)
  else if env.sequence ≠ g.lastSequence + 1 then (g.requestStreamResync, false)
  else (g, true)

/-- Commit the number of an envelope that was applied. -/
def commit (env : Envelope) (checked : StreamGate × Bool) : StreamGate :=
  if checked.2 then { checked.1 with lastSequence := env.sequence } else checked.1

/-- `#handleMessage` on the state of one stream; `none` is a stream that is not
bound yet.  A runtime snapshot is applied to the stream of a session only. -/
def handleMessage (streamId : String) (target : TargetTag) (g : Option StreamGate)
    (env : Envelope) : Option StreamGate :=
  match env.payload with
  | some (.subscribed sub) =>
    if sub.streamId = streamId then
      match g with
      | some g => some { g with epoch := sub.streamEpoch, lastSequence := sub.baseSequence }
      | none => some ⟨sub.streamEpoch, sub.baseSequence, false, 0⟩
    else g
  | some (.sessionSummaryBatch batch) =>
    if env.streamId = streamId then
      g.map fun g => commit env (if batch.snapshot then g.acceptSnapshot env
        else g.sequencedStream env)
    else g
  | some (.runtimeSnapshot _) =>
    if env.streamId = streamId then
      g.map fun g => if target = .list then (g.acceptSnapshot env).1
        else commit env (g.acceptSnapshot env)
    else g
  | some (.eventBatch _) =>
    if env.streamId = streamId then g.map fun g => commit env (g.sequencedStream env) else g
  | some (.resyncRequired id) =>
    if id = streamId then g.map fun g => { g with resyncInFlight := true } else g
  | _ => g

/-- The browser reads one item. -/
def receive (streamId : String) (target : TargetTag) (g : Option StreamGate) :
    OutItem → Option StreamGate
  | .frame f => handleMessage streamId target g f.env
  | .direct bytes => handleMessage streamId target g bytes.env
  | .close _ => g

/-- The gate after the browser has read what it was sent. -/
def after (streamId : String) (target : TargetTag) (history : List OutItem) : Option StreamGate :=
  history.foldl (receive streamId target) none

/-- How the gate stands to the cursor: it is where the cursor is, or a resync
is in flight. -/
structure Follows (g : StreamGate) (c : Cursor) : Prop where
  repairs : g.repairs = 0
  free : c = .free → g.resyncInFlight = true
  based : ∀ epoch base, c = .based epoch base → g.epoch = epoch ∧ g.lastSequence = base
  reached : ∀ epoch last, c = .reached epoch last →
    (g.epoch = epoch ∧ g.lastSequence = last) ∨ g.resyncInFlight = true

variable {streamId : String} {target : TargetTag} {g : StreamGate} {c : Cursor} {f : Frame}

/-- A frame in order finds the gate in its epoch, and an event at its number,
unless a resync is in flight. -/
theorem Follows.ready (follows : g.Follows c) (inOrder : c.frame f ≠ .violated) :
    g.resyncInFlight = true ∨ g.epoch = f.env.streamEpoch ∧
      (isSnapshot f.env = false → f.sequence = g.lastSequence + 1) := by
  cases c with
  | free => exact .inl (follows.free rfl)
  | based epoch base =>
    obtain ⟨sameEpoch, sameBase⟩ := follows.based epoch base rfl
    dsimp only [Cursor.frame] at inOrder
    split at inOrder
    · next fits =>
      refine .inr ⟨sameEpoch.trans fits.1.symm, fun event => ?_⟩
      rw [fits.2, sameBase, Cursor.firstNumber, event]
      rfl
    · exact absurd rfl inOrder
  | reached epoch last =>
    dsimp only [Cursor.frame] at inOrder
    split at inOrder
    · next fits =>
      rcases follows.reached epoch last rfl with ⟨sameEpoch, sameLast⟩ | inFlight
      · exact .inr ⟨sameEpoch.trans fits.1.symm, fun _ => by rw [fits.2, sameLast]⟩
      · exact .inl inFlight
    · exact absurd rfl inOrder
  | violated => exact absurd rfl inOrder

theorem frame_reached (inOrder : c.frame f ≠ .violated) :
    c.frame f = .reached f.env.streamEpoch f.sequence := by
  cases c with
  | free => rfl
  | based epoch base =>
    dsimp only [Cursor.frame] at inOrder ⊢
    split at inOrder
    · next fits => rw [if_pos fits, fits.1]
    · exact absurd rfl inOrder
  | reached epoch last =>
    dsimp only [Cursor.frame] at inOrder ⊢
    split at inOrder
    · next fits => rw [if_pos fits, fits.1]
    · exact absurd rfl inOrder
  | violated => exact absurd rfl inOrder

/-- Where the gate has to be after a frame. -/
theorem follows_reached {epoch last : Nat} (repairs : g.repairs = 0)
    (there : (g.epoch = epoch ∧ g.lastSequence = last) ∨ g.resyncInFlight = true) :
    g.Follows (.reached epoch last) where
  repairs := repairs
  free := by simp
  based := by simp
  reached := by
    rintro _ _ ⟨rfl, rfl⟩
    exact there

theorem Follows.snapshot (follows : g.Follows c) (inOrder : c.frame f ≠ .violated) :
    (commit f.env (g.acceptSnapshot f.env)).Follows (c.frame f) := by
  rw [frame_reached inOrder]
  unfold acceptSnapshot
  split
  · next otherEpoch =>
    refine follows_reached follows.repairs (.inr ?_)
    exact (follows.ready inOrder).resolve_right fun both => otherEpoch both.1
  · next sameEpoch => exact follows_reached follows.repairs (.inl ⟨not_not.mp sameEpoch, rfl⟩)

theorem Follows.event (follows : g.Follows c) (inOrder : c.frame f ≠ .violated)
    (isEvent : isSnapshot f.env = false) :
    (commit f.env (g.sequencedStream f.env)).Follows (c.frame f) := by
  have ready := follows.ready inOrder
  rw [frame_reached inOrder]
  unfold sequencedStream
  split
  · next otherEpoch =>
    exact follows_reached follows.repairs (.inr (ready.resolve_right fun both => otherEpoch both.1))
  · next sameEpoch =>
    rcases ready with inFlight | ⟨-, next_⟩
    · -- whatever the number is, nothing more is asked for
      split
      · exact follows_reached follows.repairs (.inr inFlight)
      · split
        · have unchanged : g.requestStreamResync = g := if_pos inFlight
          rw [unchanged]
          exact follows_reached follows.repairs (.inr inFlight)
        · exact follows_reached follows.repairs (.inl ⟨not_not.mp sameEpoch, rfl⟩)
    · have number : f.env.sequence = g.lastSequence + 1 := next_ isEvent
      rw [if_neg (by omega), if_neg (by omega)]
      exact follows_reached follows.repairs (.inl ⟨not_not.mp sameEpoch, rfl⟩)

/-- Runtime snapshots go to session streams. -/
def Targeted (streamId : String) (target : TargetTag) (i : OutItem) : Prop :=
  target = .list → ∀ f rest, i = .frame f → f.env.streamId = streamId →
    f.env.payload ≠ some (.runtimeSnapshot rest)

theorem frame_follows {go : Option StreamGate} (follows : ∀ g, go = some g → g.Follows c)
    (inOrder : c.item streamId (.frame f) ≠ .violated)
    (targeted : Targeted streamId target (.frame f)) :
    ∀ g', handleMessage streamId target go f.env = some g' →
      g'.Follows (c.item streamId (.frame f)) := by
  intro g' received
  dsimp only [Cursor.item] at inOrder ⊢
  split at inOrder
  · next data =>
    rw [if_pos data]
    unfold handleMessage at received
    split at inOrder
    · next own =>
      rw [if_pos own]
      rcases carries_cases data with ⟨rest, payload⟩ | ⟨batch, payload⟩ | ⟨batch, payload⟩
      · have session : target ≠ .list := fun list => targeted list f rest rfl own payload
        simp only [payload, own, session, if_true, if_false] at received
        obtain ⟨g, bound, rfl⟩ := Option.map_eq_some_iff.mp received
        exact (follows g bound).snapshot inOrder
      · simp only [payload, own, if_true] at received
        obtain ⟨g, bound, rfl⟩ := Option.map_eq_some_iff.mp received
        split
        · exact (follows g bound).snapshot inOrder
        · next incremental =>
          exact (follows g bound).event inOrder
            (by simpa [isSnapshot, payload] using incremental)
      · simp only [payload, own, if_true] at received
        obtain ⟨g, bound, rfl⟩ := Option.map_eq_some_iff.mp received
        exact (follows g bound).event inOrder (by simp [isSnapshot, payload])
    · next other =>
      rw [if_neg other]
      rcases carries_cases data with ⟨rest, payload⟩ | ⟨batch, payload⟩ | ⟨batch, payload⟩ <;>
      · simp only [payload, other, if_false] at received
        exact follows g' received
  · exact absurd rfl inOrder

/-- A new base puts the gate at it, whether or not it was bound before. -/
theorem follows_based {epoch base : Nat} (repairs : g.repairs = 0) (sameEpoch : g.epoch = epoch)
    (sameBase : g.lastSequence = base) : g.Follows (.based epoch base) where
  repairs := repairs
  free := by simp
  based := by
    rintro _ _ ⟨rfl, rfl⟩
    exact ⟨sameEpoch, sameBase⟩
  reached := by simp

theorem direct_follows {go : Option StreamGate} {bytes : WireBytes}
    (follows : ∀ g, go = some g → g.Follows c)
    (inOrder : c.item streamId (.direct bytes) ≠ .violated) :
    ∀ g', handleMessage streamId target go bytes.env = some g' →
      g'.Follows (c.item streamId (.direct bytes)) := by
  intro g' received
  dsimp only [Cursor.item] at inOrder ⊢
  split at inOrder
  · exact absurd rfl inOrder
  next noData =>
  rw [if_neg noData]
  have notViolated : c ≠ .violated := by
    rintro rfl
    unfold Cursor.rebase at inOrder
    split at inOrder <;> simp at inOrder
  -- data in a direct message is for another stream
  have ignored (data : carries bytes.env = true) : bytes.env.streamId ≠ streamId :=
    fun own => noData ⟨own, data⟩
  unfold handleMessage at received
  unfold Cursor.rebase
  split at received
  · next sub payload =>
    rw [payload]
    dsimp only
    split at received
    · next own =>
      rw [if_pos ⟨own, notViolated⟩]
      cases go with
      | none => cases received; exact follows_based rfl rfl rfl
      | some g => cases received; exact follows_based (follows g rfl).repairs rfl rfl
    · next other => rw [if_neg fun both => other both.1]; exact follows g' received
  · next batch payload =>
    rw [payload]
    rw [if_neg (ignored (by simp [carries, isSnapshot, batchEvents, payload]))] at received
    exact follows g' received
  · next rest payload =>
    rw [payload]
    rw [if_neg (ignored (by simp [carries, isSnapshot, payload]))] at received
    exact follows g' received
  · next batch payload =>
    rw [payload]
    rw [if_neg (ignored (by simp [carries, batchEvents, payload]))] at received
    exact follows g' received
  · next id payload =>
    rw [payload]
    dsimp only
    split at received
    · next own =>
      rw [if_pos ⟨own, notViolated⟩]
      obtain ⟨g, bound, rfl⟩ := Option.map_eq_some_iff.mp received
      exact ⟨(follows g bound).repairs, fun _ => rfl, by simp, by simp⟩
    · next other => rw [if_neg fun both => other both.1]; exact follows g' received
  · next noSub noBatch noSnapshot noEvents noResync =>
    split
    · next sub payload => exact absurd payload (noSub sub)
    · next id payload => exact absurd payload (noResync id)
    · exact follows g' received

/-- **The gate has nothing to repair** on a history in order. -/
theorem no_repairs {history : List OutItem} (inOrder : Cursor.after streamId history ≠ .violated)
    (targeted : ∀ i ∈ history, Targeted streamId target i) :
    ∀ g, after streamId target history = some g → g.Follows (Cursor.after streamId history) := by
  induction history using List.reverseRecOn with
  | nil => intro g bound; cases bound
  | append_singleton history i inductionHypothesis =>
    have before := inductionHypothesis
      (Cursor.foldl_of_append inOrder) fun j member => targeted j (List.mem_append_left _ member)
    intro g bound
    unfold after at bound
    rw [List.foldl_append, List.foldl_cons, List.foldl_nil] at bound
    rw [Cursor.after_append] at inOrder ⊢
    have last := targeted i (by simp)
    cases i with
    | close reason => exact before g bound
    | direct bytes => exact direct_follows before inOrder g bound
    | frame f => exact frame_follows before inOrder last g bound

end StreamGate

end AgentConsole.Relay
