import AgentConsole.Web.Streams

/-! # What the transport does to its streams

Only three things bind a stream: a `Subscribed` reply that echoes a request, a first summary
batch and a first batch of list events.  All other steps keep the streams that there are, or
some of them (`Kept`). -/

namespace AgentConsole.Web.Streams

open AgentConsole.Lib

namespace Client

variable {S : Type} [DecidableEq S] {c c' c'' : Client S}

/-! ## What most steps keep -/

/-- No stream is bound and nothing delivered; a recorded request has been sent. -/
structure Kept (c c' : Client S) : Prop where
  delivered : c'.delivered = c.delivered
  streams : ∀ a state', c'.streamStates.get? a = some state' →
    ∃ state, c.streamStates.get? a = some state ∧ state.target = state'.target ∧
      state.guessed = state'.guessed
  requests : ∀ e ∈ c'.sentSubscribes, e ∈ c.sentSubscribes ∨ Outgoing.subscribe e.1 e.2 ∈ c'.sent
  sent : ∀ message ∈ c.sent, message ∈ c'.sent

omit [DecidableEq S] in
theorem Kept.refl (c : Client S) : Kept c c :=
  ⟨rfl, fun _ state found => ⟨state, found, rfl, rfl⟩, fun _ member => .inl member,
    fun _ member => member⟩

omit [DecidableEq S] in
theorem Kept.trans (first : Kept c c') (second : Kept c' c'') : Kept c c'' where
  delivered := second.delivered.trans first.delivered
  streams a state'' found'' := by
    obtain ⟨state', found', target', guessed'⟩ := second.streams a state'' found''
    obtain ⟨state, found, target, guessed⟩ := first.streams a state' found'
    exact ⟨state, found, target.trans target', guessed.trans guessed'⟩
  requests e member := by
    rcases second.requests e member with before | now
    · exact (first.requests e before).imp_right fun was => second.sent _ was
    · exact .inr now
  sent message member := second.sent _ (first.sent message member)

omit [DecidableEq S] in
theorem Kept.after (second : Kept c' c'') (first : Kept c c') : Kept c c'' := first.trans second

omit [DecidableEq S] in
/-- A step that leaves streams and requests alone. -/
theorem Kept.of_same (streams : c'.streamStates = c.streamStates)
    (requests : c'.sentSubscribes = c.sentSubscribes) (delivered : c'.delivered = c.delivered)
    (sent : ∀ message ∈ c.sent, message ∈ c'.sent) : Kept c c' where
  delivered := delivered
  streams _ state found := ⟨state, streams ▸ found, rfl, rfl⟩
  requests _ member := .inl (requests ▸ member)
  sent := sent

omit [DecidableEq S] in
theorem Kept.foldl {α : Type} {f : Client S → α → Client S} (each : ∀ c a, Kept c (f c a))
    (l : List α) (c : Client S) : Kept c (l.foldl f c) := by
  induction l generalizing c with
  | nil => exact .refl c
  | cons a rest inductionHypothesis => exact (each c a).trans (inductionHypothesis (f c a))

omit [DecidableEq S] in
theorem kept_send (c : Client S) (message : Outgoing S) : Kept c (c.send message) := by
  unfold send
  split
  · exact .of_same rfl rfl rfl fun _ member => List.mem_append_left _ member
  · exact .refl c

theorem kept_queueSubscription (c : Client S) (target : Target S) :
    Kept c (c.queueSubscription target) := by
  unfold queueSubscription
  split
  · exact .refl c
  · exact .of_same rfl rfl rfl fun _ member => member

theorem kept_subscribe (c : Client S) (target : Target S) : Kept c (c.subscribe target) := by
  unfold subscribe
  split
  · next may =>
    have isOpen : c.isOpen = true := (Bool.and_eq_true_iff.mp may).1
    unfold send
    split
    · refine ⟨rfl, fun _ state found => ⟨state, found, rfl, rfl⟩, fun e member => ?_,
        fun _ member => List.mem_append_left _ member⟩
      rcases List.mem_append.mp (List.mem_of_mem_drop member) with before | now
      · exact .inl before
      · rw [List.mem_singleton.mp now]
        exact .inr (List.mem_append_right _ (List.mem_singleton.mpr rfl))
    · next closed => exact absurd isOpen closed
  · exact .refl c

theorem kept_turn (c : Client S) : Kept c c.turn := by
  unfold turn
  split
  · exact (kept_subscribe _ _).after (.of_same rfl rfl rfl fun _ member => member)
  · exact .refl c

omit [DecidableEq S] in
theorem kept_done (c : Client S) : Kept c c.done := .of_same rfl rfl rfl fun _ member => member

omit [DecidableEq S] in
theorem kept_completeSubscription (c : Client S) (streamId : StreamId) :
    Kept c (c.completeSubscription streamId) := by
  unfold completeSubscription
  split
  · exact kept_done c
  · exact .refl c

theorem kept_retainRuntime (c : Client S) (sessionId : S) : Kept c (c.retainRuntime sessionId) := by
  refine (kept_queueSubscription (c.want sessionId) _).after ?_
  unfold want
  split
  · exact .refl c
  · exact .of_same rfl rfl rfl fun _ member => member

omit [DecidableEq S] in
theorem kept_unsubscribe (c : Client S) (streamId : StreamId) : Kept c (c.unsubscribe streamId) := by
  unfold unsubscribe
  refine (kept_send _ _).after
    ⟨rfl, fun a state found => ?_, fun _ member => .inl member, fun _ member => member⟩
  have erased : (c.streamStates.erase streamId).get? a = some state := found
  rw [FiniteMap.get?_erase] at erased
  split at erased
  · cases erased
  · exact ⟨state, erased, rfl, rfl⟩

theorem kept_releaseRuntime (c : Client S) (sessionId : S) : Kept c (c.releaseRuntime sessionId) :=
  (Kept.foldl kept_unsubscribe _ _).after (.of_same rfl rfl rfl fun _ member => member)

theorem kept_moveLink (c : Client S) (event : Commands.Transport.Event) :
    Kept c (c.moveLink event) := by
  have moved : Kept c { c with commands := c.commands.step event } :=
    .of_same rfl rfl rfl fun _ member => member
  unfold moveLink
  split
  · refine moved.trans ⟨rfl, fun a state found => ?_, fun _ member => .inl member,
      fun _ member => member⟩
    cases found
  · split
    · refine (Kept.foldl kept_queueSubscription _ _).after ((kept_queueSubscription _ .list).after ?_)
      exact .of_same rfl rfl rfl fun _ member => member
    · exact moved

omit [DecidableEq S] in
theorem kept_requestStreamResync (c : Client S) (streamId : StreamId) :
    Kept c (c.requestStreamResync streamId) := by
  unfold requestStreamResync
  split
  · exact .refl c
  · exact (kept_send _ _).after (.of_same rfl rfl rfl fun _ member => member)

omit [DecidableEq S] in
theorem kept_commit (c : Client S) (envelope : Envelope S) : Kept c (c.commit envelope) := by
  unfold commit
  refine (kept_send _ _).after
    ⟨rfl, fun a state found => ?_, fun _ member => .inl member, fun _ member => member⟩
  have modified : (c.streamStates.modify envelope.streamId fun state =>
    { state with lastSequence := envelope.sequence }).get? a = some state := found
  rw [FiniteMap.get?_modify] at modified
  split at modified
  · next same =>
    obtain ⟨old, known, rfl⟩ := Option.map_eq_some_iff.mp modified
    exact ⟨old, same ▸ known, rfl, rfl⟩
  · exact ⟨state, modified, rfl, rfl⟩

omit [DecidableEq S] in
theorem kept_applied (c : Client S) (envelope : Envelope S) (applies : Bool) :
    Kept c (c.applied envelope applies) := by
  unfold applied
  split
  · exact kept_commit c envelope
  · exact kept_requestStreamResync c _

/-! ## Frames -/

theorem wanted_of_targetStillWanted {target : Target S}
    (still : c.targetStillWanted target = true) : c.wanted target = true ∧ c.bound target = false := by
  simpa [targetStillWanted] using still

/-- What `identified` does: nothing, or it forgets an anchor, or it binds a list. -/
theorem identified_cases (c : Client S) (envelope : Envelope S) (listKind guessed : Bool) :
    Kept c (c.identified envelope listKind guessed) ∨
      ∃ anchor, c.unboundStreams.get? envelope.streamId = some anchor ∧
        c.wanted .list = true ∧ c.bound .list = false ∧ listKind = true ∧
        ∃ epoch base, c.identified envelope listKind guessed =
          { c with unboundStreams := c.unboundStreams.erase envelope.streamId }.bindStream
            envelope.streamId ⟨.list, epoch, base, guessed⟩ := by
  unfold identified
  split
  · next new =>
    unfold identifyUnboundStream
    cases unbound : c.unboundStreams.get? envelope.streamId with
    | none => exact .inl (.refl c)
    | some anchor =>
      dsimp only
      split
      · next lists =>
        have still := wanted_of_targetStillWanted lists.2
        exact .inr ⟨anchor, rfl, still.1, still.2, new.2, anchor.epoch, anchor.baseSequence, rfl⟩
      · exact .inl (.of_same rfl rfl rfl fun _ member => member)
  · exact .inl (.refl c)

/-- A frame's stream has been looked up, with its client. -/
structure Found (c : Client S) (envelope : Envelope S) (found : Client S × Option (StreamState S)) :
    Prop where
  kept : Kept c found.1
  stream : ∀ state, found.2 = some state →
    found.1.streamStates.get? envelope.streamId = some state

omit [DecidableEq S] in
theorem get?_of_streamOf {envelope : Envelope S} {state : StreamState S}
    (found : c.streamOf envelope = some state) :
    c.streamStates.get? envelope.streamId = some state :=
  (Option.filter_eq_some_iff.mp found).1

theorem found_acceptSnapshot (c : Client S) (envelope : Envelope S) (listKind : Bool) :
    (c.identified envelope listKind false).Found envelope (c.acceptSnapshot envelope listKind) := by
  unfold acceptSnapshot
  dsimp only
  split
  · exact ⟨.refl _, fun _ none_ => by cases none_⟩
  · next stream looked =>
    refine ⟨.of_same rfl rfl rfl fun _ member => member, ?_⟩
    intro state same
    cases same
    exact get?_of_streamOf looked

theorem found_sequencedStream (c : Client S) (envelope : Envelope S) (listKind guessed : Bool) :
    (c.identified envelope listKind guessed).Found envelope
      (c.sequencedStream envelope listKind guessed) := by
  unfold sequencedStream
  dsimp only
  split
  · exact ⟨.refl _, fun _ none_ => by cases none_⟩
  · next stream looked =>
    split
    · exact ⟨.refl _, fun _ none_ => by cases none_⟩
    · split
      · refine ⟨.refl _, ?_⟩
        intro state same
        cases same
        exact get?_of_streamOf looked
      · exact ⟨kept_requestStreamResync _ _, fun _ none_ => by cases none_⟩

/-- From `c` to `c'` a frame is delivered to this target of its stream, or none is. -/
def Hands (c c' : Client S) (envelope : Envelope S) (target : StreamState S → Target S) : Prop :=
  Kept c c' ∨ ∃ d state, Kept c d ∧ d.streamStates.get? envelope.streamId = some state ∧
    Kept (d.deliver envelope state (target state)) c'

omit [DecidableEq S] in
/-- A stream that has been looked up is handed on, or its frame is dropped. -/
theorem Found.hands {envelope : Envelope S} {found : Client S × Option (StreamState S)}
    (looked : c.Found envelope found) {target : StreamState S → Target S}
    (rest : ∀ d state, found = (d, some state) →
      Kept d c' ∨ Kept (d.deliver envelope state (target state)) c')
    (none_ : ∀ d, found = (d, none) → c' = d) : c.Hands c' envelope target := by
  obtain ⟨d, stream⟩ := found
  cases stream with
  | none =>
    rw [none_ d rfl]
    exact .inl looked.kept
  | some state =>
    rcases rest d state rfl with kept | delivered
    · exact .inl (looked.kept.trans kept)
    · exact .inr ⟨d, state, looked.kept, looked.stream state rfl, delivered⟩

/-- A frame that is not a reply may identify its stream, and is handed on.  What a summary
batch identifies is not guessed. -/
theorem handleMessage_frame (c : Client S) (envelope : Envelope S)
    (frame : ∀ streamId epoch base, envelope.payload ≠ .subscribed streamId epoch base) :
    (∃ sessions snapshot applies, envelope.payload = .sessionSummaryBatch sessions snapshot applies ∧
      (c.identified envelope true false).Hands (c.handleMessage envelope) envelope fun _ => .list) ∨
    ∃ listKind guessed, (listKind = true → guessed = true) ∧
      (c.identified envelope listKind guessed).Hands (c.handleMessage envelope) envelope (·.target) := by
  have quiet (kept : Kept c (c.handleMessage envelope)) :
      (c.identified envelope false true).Hands (c.handleMessage envelope) envelope (·.target) := by
    have same : c.identified envelope false true = c := by simp [identified]
    rw [same]
    exact .inl kept
  cases payload : envelope.payload with
  | subscribed streamId epoch base => exact absurd payload (frame streamId epoch base)
  | sessionSummaryBatch sessions snapshot applies =>
    refine .inl ⟨sessions, snapshot, applies, rfl, ?_⟩
    have looked : (c.identified envelope true false).Found envelope
        (if snapshot then c.acceptSnapshot envelope true
          else c.sequencedStream envelope true false) := by
      cases snapshot with
      | true => exact found_acceptSnapshot c envelope true
      | false => exact found_sequencedStream c envelope true false
    refine looked.hands ?_ ?_
    · intro d state same
      refine .inr ?_
      simp only [handleMessage, payload, same]
      have remembered : Kept (d.deliver envelope state .list)
          ((d.rememberSessions sessions).deliver envelope state .list) :=
        .of_same rfl rfl rfl fun _ member => member
      have committed := remembered.trans (kept_applied _ envelope applies)
      split
      · exact committed.trans (kept_completeSubscription _ _)
      · exact committed
    · intro d same
      simp only [handleMessage, payload, same]
  | runtimeSnapshot applies =>
    refine .inr ⟨false, false, fun lists => absurd lists Bool.false_ne_true, ?_⟩
    refine (found_acceptSnapshot c envelope false).hands ?_ ?_
    · intro d state same
      simp only [handleMessage, payload, same]
      cases target : state.target with
      | list => exact .inl (.refl d)
      | session sessionId =>
        refine .inr ?_
        have committed := kept_applied (d.deliver envelope state (.session sessionId)) envelope applies
        dsimp only
        split
        · exact committed.trans (kept_completeSubscription _ _)
        · exact committed
    · intro d same
      simp only [handleMessage, payload, same]
  | eventBatch events applies =>
    refine .inr ⟨listOnly events, true, fun _ => rfl, ?_⟩
    refine (found_sequencedStream c envelope (listOnly events) true).hands ?_ ?_
    · intro d state same
      refine .inr ?_
      simp only [handleMessage, payload, same]
      refine (kept_applied _ envelope applies).after ?_
      split
      · exact .of_same rfl rfl rfl fun _ member => member
      · exact .refl _
    · intro d same
      simp only [handleMessage, payload, same]
  | resyncRequired streamId =>
    refine .inr ⟨false, true, fun _ => rfl, quiet ?_⟩
    simp only [handleMessage, payload]
    split
    · exact kept_requestStreamResync c streamId
    · exact .refl c
  | protocolError streamId =>
    refine .inr ⟨false, true, fun _ => rfl, quiet ?_⟩
    simp only [handleMessage, payload]
    split
    · exact kept_completeSubscription c streamId
    · exact .refl c

/-- The requests without the one that is answered. -/
def answered (c : Client S) (correlation : Option Nat) : Client S :=
  { c with sentSubscribes := c.sentSubscribes.filter fun e => decide (some e.1 ≠ correlation) }

omit [DecidableEq S] in
theorem kept_answered (c : Client S) (correlation : Option Nat) : Kept c (c.answered correlation) :=
  ⟨rfl, fun _ state found => ⟨state, found, rfl, rfl⟩,
    fun _ member => .inl (List.mem_of_mem_filter member), fun _ member => member⟩

/-- What a reply does: it binds the target of the request that it echoes, or no stream. -/
theorem subscribed_cases (c : Client S) (correlation : Option Nat) (streamId : StreamId)
    (epoch base : Nat) :
    Kept c (c.subscribed correlation streamId epoch base) ∨
      ∃ id target, correlation = some id ∧ (id, target) ∈ c.sentSubscribes ∧
        c.wanted target = true ∧ c.bound target = false ∧
        c.subscribed correlation streamId epoch base =
          (c.answered correlation).bindStream streamId ⟨target, epoch, base, false⟩ := by
  unfold subscribed
  split
  · next existing known =>
    refine .inl ⟨rfl, fun a state found => ?_, fun _ member => .inl member, fun _ member => member⟩
    have inserted : (c.streamStates.insert streamId
      { existing with epoch := epoch, lastSequence := base }).get? a = some state := found
    rw [FiniteMap.get?_insert] at inserted
    split at inserted
    · next same =>
      cases inserted
      exact ⟨existing, same ▸ known, rfl, rfl⟩
    · exact ⟨state, inserted, rfl, rfl⟩
  · split
    · exact .inl (.of_same rfl rfl rfl fun _ member => member)
    · next target recorded =>
      dsimp only
      split
      · next still =>
        obtain ⟨id, rfl, looked⟩ := Option.bind_eq_some_iff.mp recorded
        obtain ⟨e, first, rfl⟩ := Option.map_eq_some_iff.mp looked
        have echoes : e.1 = id := by simpa using List.find?_some first
        have wants := wanted_of_targetStillWanted still
        subst echoes
        exact .inr ⟨e.1, e.2, rfl, List.mem_of_find?_eq_some first, wants.1, wants.2, rfl⟩
      · exact .inl (kept_answered c correlation)

end Client

end AgentConsole.Web.Streams
