import AgentConsole.Lib.Run
import AgentConsole.Relay.Replay
import AgentConsole.Relay.Synced

/-! # Continuity of the delivered numbers

In every run of the hub the frames of a stream reach a subscriber with numbers
that go up by one, from each `Subscribed` on and up to the next
`ResyncRequired`, provided that the windows served have no gap and that no
queue takes a frame of a batch after it has refused an earlier one. -/

namespace AgentConsole.Relay

open AgentConsole.Lib

/-! ## The invariant -/

/-- What the hub keeps in every run: sound streams with ids of their own,
histories in order, active subscribers at the present. -/
structure HubInner.Continuity (h : HubInner) : Prop where
  streams : ∀ key ds, h.streams.get? key = some ds → ds.Sound
  distinct : ∀ key key' ds ds', h.streams.get? key = some ds → h.streams.get? key' = some ds' →
    ds.streamId = ds'.streamId → key = key'
  ordered : ∀ conn bc, h.browsers.get? conn = some bc → bc.outbox.Ordered
  inOrder : ∀ conn bc, h.browsers.get? conn = some bc →
    ∀ streamId, Cursor.after streamId bc.accepted ≠ .violated
  synced : ∀ key ds conn bc, h.streams.get? key = some ds → h.browsers.get? conn = some bc →
    ds.active conn = true → bc.closed = false →
    ds.UpTo (Cursor.after ds.streamId bc.accepted)

/-- Nothing about any stream was pushed. -/
def Quiet (bc bc' : BrowserConn) : Prop := ∀ streamId, Pushed streamId bc bc'

theorem Quiet.refl (bc : BrowserConn) : Quiet bc bc := fun _ => Pushed.refl

theorem Quiet.after {bc bc' : BrowserConn} (quiet : Quiet bc bc') (streamId : String) :
    Cursor.after streamId bc'.accepted = Cursor.after streamId bc.accepted := by
  have longer : streamId ≠ streamId ++ "x" := by
    intro same
    have := congrArg String.length same
    rw [String.length_append] at this
    have one : "x".length = 1 := rfl
    omega
  exact (quiet (streamId ++ "x")).silent streamId longer

/-- A message that says nothing about any stream. -/
def Neutral (env : Envelope) : Prop :=
  carries env = false ∧ (∀ sub, env.payload ≠ some (.subscribed sub)) ∧
    ∀ id, env.payload ≠ some (.resyncRequired id)

namespace HubInner.Continuity

variable {h h' : HubInner} {ctx : Ctx}

theorem new : HubInner.new.Continuity where
  streams := by simp [HubInner.new]
  distinct := by simp [HubInner.new]
  ordered := by simp [HubInner.new]
  inOrder := by simp [HubInner.new]
  synced := by simp [HubInner.new]

/-- Sections that serve no stream: streams may lose subscribers or go,
connections may go, come or get other messages. -/
theorem quiet (continuity : h.Continuity)
    (streams : ∀ key ds', h'.streams.get? key = some ds' → ∃ ds, h.streams.get? key = some ds ∧
      (ds.Sound → ds'.Sound) ∧ ds'.streamId = ds.streamId ∧
      ∀ conn, ds'.active conn = true →
        ds.active conn = true ∧ ds'.epoch = ds.epoch ∧ ds'.nextSeq = ds.nextSeq)
    (browsers : ∀ conn bc', h'.browsers.get? conn = some bc' →
      (∃ bc, h.browsers.get? conn = some bc ∧ Quiet bc bc') ∨
        bc'.accepted = [] ∧ bc'.outbox.Ordered) :
    h'.Continuity where
  streams := by
    intro key ds' found
    obtain ⟨ds, before, sound, -⟩ := streams key ds' found
    exact sound (continuity.streams key ds before)
  distinct := by
    intro key key' ds ds' found found' same
    obtain ⟨left, before, -, leftId, -⟩ := streams key ds found
    obtain ⟨right, before', -, rightId, -⟩ := streams key' ds' found'
    exact continuity.distinct key key' left right before before'
      (leftId.symm.trans (same.trans rightId))
  ordered := by
    intro conn bc' found
    rcases browsers conn bc' found with ⟨bc, before, quiet⟩ | ⟨-, ordered⟩
    · exact (quiet "").ordered (continuity.ordered conn bc before)
    · exact ordered
  inOrder := by
    intro conn bc' found streamId
    rcases browsers conn bc' found with ⟨bc, before, quiet⟩ | ⟨fresh, -⟩
    · rw [quiet.after]
      exact continuity.inOrder conn bc before streamId
    · rw [fresh]
      exact Cursor.noConfusion
  synced := by
    intro key ds' conn bc' found connected active isOpen
    obtain ⟨ds, before, -, streamId, quieter⟩ := streams key ds' found
    obtain ⟨wasActive, epoch, nextSeq⟩ := quieter conn active
    rcases browsers conn bc' connected with ⟨bc, earlier, quiet⟩ | ⟨fresh, -⟩
    · unfold DStream.UpTo
      rw [quiet.after, streamId, epoch, nextSeq]
      exact continuity.synced key ds conn bc before earlier wasActive ((quiet "").isOpen isOpen)
    · rw [fresh]
      exact .inl rfl

theorem of_eq (continuity : h.Continuity) (streams : h'.streams = h.streams)
    (browsers : h'.browsers = h.browsers) : h'.Continuity :=
  continuity.quiet
    (fun _ ds found => ⟨ds, streams ▸ found, id, rfl, fun _ active => ⟨active, rfl, rfl⟩⟩)
    (fun _ bc found => .inl ⟨bc, browsers ▸ found, Quiet.refl bc⟩)

/-- The stream at `key`, with nobody behind. -/
theorem cell (continuity : h.Continuity) {key : DKey} {ds : DStream}
    (found : h.streams.get? key = some ds) :
    Serving (.ofStream ds h.browsers) (.ofStream ds h.browsers) [] where
  stream := continuity.streams key ds found
  streamId := rfl
  conns := fun _ bc connected => ⟨bc, connected, Pushed.refl⟩
  inOrder := fun conn bc connected => continuity.inOrder conn bc connected ds.streamId
  synced := fun conn bc connected _ => continuity.synced key ds conn bc found connected

/-- One stream is served and the others are left alone. -/
theorem served (continuity : h.Continuity) {key : DKey} {ds : DStream} {c : StreamCell}
    (found : h.streams.get? key = some ds) (serving : Serving (.ofStream ds h.browsers) c [])
    (streams : ∀ k, h'.streams.get? k = if k = key then some c.ds else h.streams.get? k)
    (browsers : h'.browsers = c.browsers) : h'.Continuity := by
  have own (k : DKey) (ds' : DStream) (present : h'.streams.get? k = some ds') :
      (k = key ∧ ds' = c.ds) ∨ (k ≠ key ∧ h.streams.get? k = some ds') := by
    rw [streams] at present
    split at present
    · next same => cases present; exact .inl ⟨same, rfl⟩
    · next differs => exact .inr ⟨differs, present⟩
  have idOf (k : DKey) (ds' : DStream) (present : h'.streams.get? k = some ds') :
      ∃ old, h.streams.get? k = some old ∧ old.streamId = ds'.streamId := by
    rcases own k ds' present with ⟨rfl, rfl⟩ | ⟨-, before⟩
    · exact ⟨ds, found, serving.streamId.symm⟩
    · exact ⟨ds', before, rfl⟩
  refine ⟨?_, ?_, ?_, ?_, ?_⟩
  · intro k ds' present
    rcases own k ds' present with ⟨-, rfl⟩ | ⟨-, before⟩
    · exact serving.stream
    · exact continuity.streams k ds' before
  · intro k k' left right present present' same
    obtain ⟨oldLeft, before, leftId⟩ := idOf k left present
    obtain ⟨oldRight, before', rightId⟩ := idOf k' right present'
    exact continuity.distinct k k' oldLeft oldRight before before'
      (leftId.trans (same.trans rightId.symm))
  · intro conn bc' connected
    rw [browsers] at connected
    obtain ⟨bc, before, pushed⟩ := serving.conns conn bc' connected
    exact pushed.ordered (continuity.ordered conn bc before)
  · intro conn bc' connected streamId
    rw [browsers] at connected
    obtain ⟨bc, before, pushed⟩ := serving.conns conn bc' connected
    by_cases same : streamId = ds.streamId
    · have inOrder := serving.inOrder conn bc' connected
      rw [serving.streamId] at inOrder
      rw [same]
      exact inOrder
    · rw [pushed.silent streamId same]
      exact continuity.inOrder conn bc before streamId
  · intro k ds' conn bc' present connected active isOpen
    rw [browsers] at connected
    rcases own k ds' present with ⟨-, rfl⟩ | ⟨differs, before⟩
    · exact serving.synced conn bc' connected (by simp) active isOpen
    · obtain ⟨bc, earlier, pushed⟩ := serving.conns conn bc' connected
      have other : ds'.streamId ≠ ds.streamId := fun same =>
        differs (continuity.distinct k key ds' ds before found same)
      rw [pushed.silent ds'.streamId other]
      exact continuity.synced k ds' conn bc before earlier active (pushed.isOpen isOpen)

/-- An operation that serves its stream keeps the whole hub in order. -/
theorem updateStream (continuity : h.Continuity) (key : DKey) (op : StreamCell → StreamCell)
    (serves : ∀ ds, h.streams.get? key = some ds →
      Serving (.ofStream ds h.browsers) (op (.ofStream ds h.browsers)) []) :
    (h.updateStream key op).1.Continuity := by
  cases found : h.streams.get? key with
  | none =>
    unfold HubInner.updateStream
    rw [found]
    exact continuity
  | some ds =>
    refine continuity.served found (serves ds found) (fun k => ?_) (updateStream_browsers found)
    rw [updateStream_streams_get?, found]
    rfl

theorem onStream (continuity : h.Continuity) (key : DKey) (op : StreamCell → StreamCell)
    (serves : ∀ ds, h.streams.get? key = some ds →
      Serving (.ofStream ds h.browsers) (op (.ofStream ds h.browsers)) []) :
    (h.onStream ctx key op).Continuity :=
  (continuity.updateStream key op serves).of_eq (sendAll_streams _ _) (sendAll_browsers _ _)

theorem onUpstream (continuity : h.Continuity) (upstreamId : String)
    (op : StreamCell → StreamCell)
    (serves : ∀ key ds, h.upstreamIndex.get? upstreamId = some key →
      h.streams.get? key = some ds →
      Serving (.ofStream ds h.browsers) (op (.ofStream ds h.browsers)) []) :
    (h.onUpstream ctx upstreamId op).Continuity := by
  unfold HubInner.onUpstream
  cases routed : h.upstreamIndex.get? upstreamId with
  | none => exact continuity
  | some key => exact continuity.onStream key op fun ds => serves key ds routed

/-- A new stream has an id that no other stream has. -/
theorem ensureStream (continuity : h.Continuity) (key : DKey) (fresh : Uuid)
    (elsewhere : ∀ k ds, k ≠ key → h.streams.get? k = some ds →
      ds.streamId ≠ "s-" ++ fresh.text) :
    (h.ensureStream key fresh).Continuity := by
  unfold HubInner.ensureStream
  split
  · exact continuity
  next absent =>
  have origin (k : DKey) (ds : DStream)
      (present : (h.streams.insert key (.new key fresh)).get? k = some ds) :
      (k = key ∧ ds = .new key fresh) ∨ (k ≠ key ∧ h.streams.get? k = some ds) := by
    rw [FiniteMap.get?_insert] at present
    split at present
    · next same => cases present; exact .inl ⟨same, rfl⟩
    · next differs => exact .inr ⟨differs, present⟩
  refine ⟨?_, ?_, continuity.ordered, continuity.inOrder, ?_⟩
  · intro k ds present
    rcases origin k ds present with ⟨-, rfl⟩ | ⟨-, before⟩
    · exact .new key fresh
    · exact continuity.streams k ds before
  · intro k k' ds ds' present present' same
    rcases origin k ds present with ⟨rfl, rfl⟩ | ⟨differs, before⟩ <;>
      rcases origin k' ds' present' with ⟨rfl, rfl⟩ | ⟨differs', before'⟩
    · rfl
    · exact absurd same.symm (elsewhere k' ds' differs' before')
    · exact absurd same (elsewhere k ds differs before)
    · exact continuity.distinct k k' ds ds' before before' same
  · intro k ds conn bc present connected active
    rcases origin k ds present with ⟨-, rfl⟩ | ⟨-, before⟩
    · cases active
    · exact continuity.synced k ds conn bc before connected active

/-- A fold of sections. -/
theorem foldl {α : Type} (f : HubInner → α → HubInner) (items : List α)
    (each : ∀ h : HubInner, h.Continuity → ∀ a ∈ items, (f h a).Continuity)
    (continuity : h.Continuity) : (items.foldl f h).Continuity := by
  induction items generalizing h with
  | nil => exact continuity
  | cons a rest inductionHypothesis =>
    refine inductionHypothesis (fun h holds b member => ?_) (each h continuity a List.mem_cons_self)
    exact each h holds b (List.mem_cons_of_mem _ member)

/-! ## Sections that serve no stream -/

theorem reply (continuity : h.Continuity) (conn : Uuid) {env : Envelope} (neutral : Neutral env) :
    (h.reply ctx conn env).Continuity := by
  refine continuity.quiet
    (fun _ ds found => ⟨ds, found, id, rfl, fun _ active => ⟨active, rfl, rfl⟩⟩) ?_
  intro other bc' found
  unfold HubInner.reply at found
  dsimp only at found
  rw [FiniteMap.get?_modify] at found
  split at found
  · next same =>
    subst same
    obtain ⟨bc, before, rfl⟩ := Option.map_eq_some_iff.mp found
    refine .inl ⟨bc, before, fun streamId => Pushed.direct ctx other (fun len _ _ => ?_) bc⟩
    exact ⟨by simp [neutral.1], fun sub payload => absurd payload (neutral.2.1 sub),
      neutral.2.2 _⟩
  · exact .inl ⟨bc', found, Quiet.refl bc'⟩

theorem abandonCommands (continuity : h.Continuity) (pending : List (String × PendingCommand)) :
    (pending.foldl (abandonCommand ctx) h).Continuity :=
  foldl _ pending (fun _ holds e _ => holds.reply e.2.connId
    ⟨rfl, by simp [baseEnvelope], by simp [baseEnvelope]⟩) continuity

theorem detachSubscriber (continuity : h.Continuity) (conn : Uuid) :
    (h.detachSubscriber conn).Continuity := by
  unfold HubInner.detachSubscriber
  cases h.browserStreams.get? conn with
  | none => exact continuity
  | some keys =>
    dsimp only
    refine continuity.quiet ?_ (fun _ bc found => .inl ⟨bc, found, Quiet.refl bc⟩)
    -- each key of the connection drops it from one subscriber table
    have dropped : ∀ streams : FiniteMap DKey DStream, ∀ key ds',
        (keys.foldl (fun streams key => streams.modify key fun ds =>
          { ds with subscribers := ds.subscribers.erase conn }) streams).get? key = some ds' →
        ∃ ds, streams.get? key = some ds ∧ (ds.Sound → ds'.Sound) ∧
          ds'.streamId = ds.streamId ∧ ∀ other, ds'.active other = true →
            ds.active other = true ∧ ds'.epoch = ds.epoch ∧ ds'.nextSeq = ds.nextSeq := by
      induction keys with
      | nil =>
        exact fun _ key ds' found => ⟨ds', found, id, rfl, fun _ active => ⟨active, rfl, rfl⟩⟩
      | cons first rest inductionHypothesis =>
        intro streams key ds' found
        obtain ⟨between, modified, sound, streamId, quieter⟩ :=
          inductionHypothesis _ key ds' found
        rw [FiniteMap.get?_modify] at modified
        split at modified
        · next same =>
          subst same
          obtain ⟨ds, before, rfl⟩ := Option.map_eq_some_iff.mp modified
          refine ⟨ds, before, fun old => sound (old.withSubscribers _), streamId,
            fun other active => ?_⟩
          obtain ⟨stillActive, epoch, nextSeq⟩ := quieter other active
          refine ⟨?_, epoch, nextSeq⟩
          unfold DStream.active at stillActive ⊢
          dsimp only at stillActive
          rw [FiniteMap.get?_erase] at stillActive
          split at stillActive
          · cases stillActive
          · exact stillActive
        · exact ⟨between, modified, sound, streamId, quieter⟩
    exact dropped h.streams

theorem removeBrowser (continuity : h.Continuity) (conn : Uuid) :
    (h.removeBrowser conn).Continuity := by
  unfold HubInner.removeBrowser
  refine detachSubscriber ?_ conn
  refine continuity.quiet
    (fun _ ds found => ⟨ds, found, id, rfl, fun _ active => ⟨active, rfl, rfl⟩⟩) ?_
  intro other bc found
  dsimp only at found
  rw [FiniteMap.get?_erase] at found
  split at found
  · cases found
  · exact .inl ⟨bc, found, Quiet.refl bc⟩

theorem registerBrowser (continuity : h.Continuity) (conn : Uuid) (ident : BrowserIdentity) :
    (h.registerBrowser conn ident).Continuity := by
  refine continuity.quiet
    (fun _ ds found => ⟨ds, found, id, rfl, fun _ active => ⟨active, rfl, rfl⟩⟩) ?_
  intro other bc found
  unfold HubInner.registerBrowser at found
  dsimp only at found
  rw [FiniteMap.get?_insert] at found
  split at found
  · cases found; exact .inr ⟨rfl, Outbox.Ordered.new _ _⟩
  · exact .inl ⟨bc, found, Quiet.refl bc⟩

theorem browserWriter (continuity : h.Continuity) (conn : Uuid) (taken : Nat) :
    { h with browsers := h.browsers.modify conn fun bc =>
      { bc with outbox := bc.outbox.drain taken } }.Continuity := by
  refine continuity.quiet
    (fun _ ds found => ⟨ds, found, id, rfl, fun _ active => ⟨active, rfl, rfl⟩⟩) ?_
  intro other bc' found
  dsimp only at found
  rw [FiniteMap.get?_modify] at found
  split at found
  · next same =>
    subst same
    obtain ⟨bc, before, rfl⟩ := Option.map_eq_some_iff.mp found
    exact .inl ⟨bc, before, fun _ => Pushed.of_unchanged (Outbox.drain_accepted _ _)
      (Outbox.drain_closed _ _) fun ordered => ordered.drain taken⟩
  · exact .inl ⟨bc', found, Quiet.refl bc'⟩

theorem removeBridge (continuity : h.Continuity) (device : Uuid) :
    (h.removeBridge ctx device).1.Continuity := by
  unfold HubInner.removeBridge
  dsimp only
  refine abandonCommands ?_ _
  refine continuity.quiet (fun key ds' found => ?_)
    (fun _ bc found => .inl ⟨bc, found, Quiet.refl bc⟩)
  dsimp only at found
  rw [FiniteMap.get?_mapVal] at found
  obtain ⟨ds, before, rfl⟩ := Option.map_eq_some_iff.mp found
  exact ⟨ds, before, fun sound => sound.withUpstreams _, rfl, fun _ active => ⟨active, rfl, rfl⟩⟩

theorem reclaimStreams (continuity : h.Continuity) : h.reclaimStreams.Continuity :=
  continuity.quiet
    (fun _ ds found => ⟨ds, (FiniteMap.get?_of_filter found).1, id, rfl,
      fun _ active => ⟨active, rfl, rfl⟩⟩)
    (fun _ bc found => .inl ⟨bc, found, Quiet.refl bc⟩)

end HubInner.Continuity

/-! ## Answers to a resync -/

/-- Between `bc` and `bc'` the connection was sent a new base. -/
def Answered (streamId : String) (bc bc' : BrowserConn) : Prop :=
  ∃ sub wire more, bc'.accepted = bc.accepted ++ .direct wire :: more ∧
    wire.env.payload = some (.subscribed sub) ∧ sub.streamId = streamId

namespace StreamCell

variable {ctx : Ctx} {c : StreamCell} {conn : Uuid} {bc : BrowserConn}

/-- A subscriber that asks for a resync is served to the present, waits for a
snapshot, or has lost its connection. -/
theorem browserResync_answers (serving : Serving c c [])
    (continuous : c.ds.subscribers.contains conn = true → c.ds.key.2 = .list →
      c.ds.snapshots ≠ [] → c.ds.Continuous)
    (correlation : String) (connected : c.browsers.get? conn = some bc)
    (subscribed : c.ds.subscribers.contains conn = true) {bc' : BrowserConn}
    (found : (c.browserResync ctx conn correlation).browsers.get? conn = some bc') :
    let ds' := (c.browserResync ctx conn correlation).ds
    (ds'.active conn = true ∧
        Cursor.after ds'.streamId bc'.accepted = .reached ds'.epoch (ds'.nextSeq - 1)) ∨
      (∃ sub, ds'.subscribers.get? conn = some sub ∧ sub.awaitingSnapshot = true) ∨
      bc'.closed = true := by
  unfold browserResync at found ⊢
  rw [if_pos subscribed] at found ⊢
  dsimp only
  split at found
  · next refreshes =>
    rw [if_pos refreshes]
    obtain ⟨sub, present⟩ := Option.isSome_iff_exists.mp subscribed
    refine .inr (.inl ⟨{ sub with awaitingSnapshot := true }, ?_, rfl⟩)
    unfold DStream.refreshSnapshotEnvs DStream.awaitAll
    dsimp only
    rw [FiniteMap.get?_mapVal]
    exact Option.map_eq_some_iff.mpr ⟨sub, present, rfl⟩
  · next serves =>
    rw [if_neg serves]
    rw [not_or] at serves
    have some_ : c.ds.snapshots ≠ [] := by simpa using serves.2
    obtain ⟨-, reached⟩ := pushReplay_cursor ctx conn serving.stream
      (continuous subscribed (not_not.mp serves.1) some_) some_ correlation
      (serving.inOrder conn bc connected)
    unfold serveReplay at found ⊢
    rw [connected] at found ⊢
    dsimp only at found ⊢
    split at found
    · next served =>
      rw [if_pos served]
      rw [FiniteMap.get?_insert_self] at found
      cases found
      refine .inl ⟨?_, reached served⟩
      obtain ⟨sub, present⟩ := Option.isSome_iff_exists.mp subscribed
      unfold DStream.active
      dsimp only
      rw [FiniteMap.get?_modify, if_pos rfl, present]
      rfl
    · unfold detachFailed at found
      dsimp only at found
      rw [FiniteMap.get?_mapVal, FiniteMap.get?_insert_self] at found
      simp only [Option.map_some, List.contains_cons, beq_self_eq_true, Bool.true_or, if_true,
        Option.some.injEq] at found
      subst found
      exact .inr (.inr (Outbox.close_closed _ _))

/-- A subscriber that a snapshot makes active has been sent a new base. -/
theorem handleUpstreamSnapshot_answers (upstreamId : String) (env : Envelope)
    (inactive : c.ds.active conn = false) (connected : c.browsers.get? conn = some bc)
    {bc' : BrowserConn}
    (found : (c.handleUpstreamSnapshot ctx upstreamId env).browsers.get? conn = some bc')
    (active : (c.handleUpstreamSnapshot ctx upstreamId env).ds.active conn = true) :
    Answered c.ds.streamId bc bc' := by
  unfold handleUpstreamSnapshot at found active
  cases bound : c.ds.upstreams.get? upstreamId with
  | none =>
    rw [bound] at active
    dsimp only at active
    rw [inactive] at active
    cases active
  | some binding =>
    rw [bound] at found active
    unfold serveSnapshot at found active
    dsimp only at found active
    obtain ⟨ahead, served⟩ := detachFailed_active active
    have same : (c.ds.orderSnapshot ctx upstreamId binding env).subscribers.get? conn =
        c.ds.subscribers.get? conn := rfl
    cases sub : c.ds.subscribers.get? conn with
    | none =>
      have subscribed := DStream.contains_of_active served
      simp only [FiniteMap.contains, FiniteMap.get?_mapVal, Option.isSome_map] at subscribed
      rw [same, sub] at subscribed
      cases subscribed
    | some s =>
      have waits : s.awaitingSnapshot = true := by
        simpa [DStream.active, sub] using inactive
      have accepted := Serving.not_refused connected (same.trans sub) ahead
      unfold detachFailed at found
      dsimp only at found
      rw [FiniteMap.get?_mapVal, FiniteMap.get?_mapVal, connected, same, sub] at found
      simp only [Option.map_some, Option.getD_some] at found
      rw [if_neg (by simpa using ahead), Option.some.injEq] at found
      subst found
      unfold snapshotPush at accepted ⊢
      rw [if_pos waits] at accepted ⊢
      obtain ⟨len, history, -⟩ := BrowserConn.pushReplay_served ctx conn (Prod.ext rfl accepted)
      exact ⟨_, _, _, history, rfl, rfl⟩

theorem handleUpstreamSnapshot_streamId (upstreamId : String) (env : Envelope) :
    (c.handleUpstreamSnapshot ctx upstreamId env).ds.streamId = c.ds.streamId := by
  unfold handleUpstreamSnapshot
  split <;> rfl

/-- A batch makes nobody active. -/
theorem fanOutEvents_active (upstreamId : String) (env : Envelope) (events : List Event)
    (active : (c.fanOutEvents ctx upstreamId env events).ds.active conn = true) :
    c.ds.active conn = true := by
  unfold fanOutEvents at active
  split at active
  · exact active
  dsimp only at active
  split at active
  · exact active
  split at active
  · exact active
  split at active
  · unfold stash at active
    obtain ⟨_, _, _, frame⟩ := DStream.pushPending_frame ctx.codec c.ds
      ⟨upstreamId, env.sequence, env.sentAt, env.deviceId, events⟩
    dsimp only at active
    split at active
    · have inactive : ((c.ds.pushPending ctx.codec
          ⟨upstreamId, env.sequence, env.sentAt, env.deviceId, events⟩).1.refreshSnapshotEnvs
          ctx.now true).1.active conn = false := DStream.awaitAll_active _ conn
      dsimp only at active
      rw [inactive] at active
      cases active
    · rw [frame] at active
      exact active
  · have emitted := (detachFailed_active active).2
    rw [foldl_emitEvent_ds] at emitted
    have subscribers (ds : DStream) (events : List Event) :
        (events.foldl (DStream.emit ctx env) ds).subscribers = ds.subscribers := by
      induction events generalizing ds with
      | nil => rfl
      | cons e rest inductionHypothesis => exact inductionHypothesis _
    unfold DStream.active at emitted
    rw [subscribers] at emitted
    exact emitted

end StreamCell

/-- `h'` comes from `h` by pushes that make nobody active. -/
structure Later (h h' : HubInner) : Prop where
  streams : ∀ key ds' conn, h'.streams.get? key = some ds' → ds'.active conn = true →
    ∃ ds, h.streams.get? key = some ds ∧ ds.active conn = true ∧ ds.streamId = ds'.streamId
  conns : ∀ conn bc', h'.browsers.get? conn = some bc' →
    ∃ bc, h.browsers.get? conn = some bc ∧ ∃ more, bc'.accepted = bc.accepted ++ more

namespace Later

variable {h mid h' : HubInner}

theorem refl (h : HubInner) : Later h h :=
  ⟨fun _ ds _ found active => ⟨ds, found, active, rfl⟩, fun _ bc found => ⟨bc, found, [], by simp⟩⟩

theorem trans (first : Later h mid) (rest : Later mid h') : Later h h' where
  streams := by
    intro key ds' conn found active
    obtain ⟨between, there, wasActive, sameId⟩ := rest.streams key ds' conn found active
    obtain ⟨ds, before, earlier, id⟩ := first.streams key between conn there wasActive
    exact ⟨ds, before, earlier, id.trans sameId⟩
  conns := by
    intro conn bc' found
    obtain ⟨between, there, further, later⟩ := rest.conns conn bc' found
    obtain ⟨bc, before, more, history⟩ := first.conns conn between there
    exact ⟨bc, before, more ++ further, by rw [later, history, List.append_assoc]⟩

end Later

/-! ## The condition -/

/-- The stream that the step may create, and the uuid it takes for it. -/
def HubStep.creates (s : HubStep) : Option (DKey × Uuid) :=
  match s.op with
  | .subscribeBind _ key _ fresh | .subscribeAttach _ key _ fresh => some (key, fresh)
  | _ => none

/-- The uuid of a new stream is the id of no other stream. -/
def HubStep.FreshIds (h : HubInner) (s : HubStep) : Prop :=
  ∀ key fresh, s.creates = some (key, fresh) →
    ∀ k ds, k ≠ key → h.streams.get? k = some ds → ds.streamId ≠ "s-" ++ fresh.text

/-- Whenever the step serves a window, the window has no gap. -/
def HubStep.ServesContinuous (h : HubInner) (s : HubStep) : Prop :=
  match s.op with
  | .subscribeAttach conn key _ _ => ∀ ds, h.streams.get? key = some ds →
    h.browsers.contains conn = true → ds.snapshots ≠ [] → ds.Continuous
  | .browserResync conn streamId _ => ∀ key ds, h.findStream streamId = some key →
    h.streams.get? key = some ds → ds.subscribers.contains conn = true → ds.key.2 = .list →
    ds.snapshots ≠ [] → ds.Continuous
  | .bridgeEnvelope _ env => isSnapshot env = true → ∀ key ds b conn sub bc,
    h.upstreamIndex.get? env.streamId = some key → h.streams.get? key = some ds →
    ds.upstreams.get? env.streamId = some b → h.browsers.get? conn = some bc →
    ds.subscribers.get? conn = some sub → sub.awaitingSnapshot = true →
    (ds.orderSnapshot s.ctx env.streamId b env).Continuous
  | _ => True

/-- `fan_out_events` of these events gives no connection a frame after one that
it refused. -/
def HubInner.SettledFanOut (ctx : Ctx) (upstreamId : String) (env : Envelope)
    (events : List Event) (h : HubInner) : Prop :=
  ∀ key ds b, h.upstreamIndex.get? upstreamId = some key → h.streams.get? key = some ds →
    ds.upstreams.get? upstreamId = some b →
    StreamCell.FansOut env (.ofStream ds h.browsers) b →
    StreamCell.SettledBatch ctx env (.ofStream ds h.browsers) events

/-- The same for every batch the step fans out, flushed ones included. -/
def HubStep.SettledBatches (h : HubInner) (s : HubStep) : Prop :=
  match s.op with
  | .bridgeEnvelope _ env =>
    (∀ events, batchEvents env = some events → h.SettledFanOut s.ctx env.streamId env events) ∧
    (isSnapshot env = true → ∀ key before batch after,
      h.upstreamIndex.get? env.streamId = some key →
      h.takenStash key env.streamId = before ++ batch :: after →
      (before.foldl (HubInner.flushBatch s.ctx key) (h.onStream s.ctx key
        (·.handleUpstreamSnapshot s.ctx env.streamId env))).SettledFanOut s.ctx batch.upstreamId
          (HubInner.stashedEnv s.ctx.now batch) batch.events)
  | _ => True

/-- What a run has to satisfy: uuids are fresh, windows have no gap, batches
settle. -/
structure HubStep.Orderly (h : HubInner) (s : HubStep) : Prop where
  fresh : s.FreshIds h
  windows : s.ServesContinuous h
  batches : s.SettledBatches h

namespace HubInner.Continuity

variable {h : HubInner} {s : HubStep}

theorem ensureBindings (continuity : h.Continuity) (ctx : Ctx) (device owner : Uuid) :
    (h.ensureBindings ctx device owner).1.Continuity := by
  unfold HubInner.ensureBindings
  generalize h.streams.keys.filter (shows device owner) = keys
  have fold : ∀ acc : HubInner × List (Uuid × Envelope), acc.1.Continuity →
      (keys.foldl (ensureBinding ctx device) acc).1.Continuity := by
    induction keys with
    | nil => exact fun _ holds => holds
    | cons key rest inductionHypothesis =>
      intro acc holds
      refine inductionHypothesis _ ?_
      unfold ensureBinding
      dsimp only
      split
      · exact holds
      · refine (holds.updateStream key (·.bindUpstream ctx device key.2) fun ds found => ?_).of_eq
          rfl rfl
        exact (holds.cell found).bindUpstream device key.2
  exact fold (h, []) continuity

/-- Binding an upstream leaves the streams at other keys alone. -/
theorem subscribeUpstream_elsewhere (ctx : Ctx) (key : DKey) (fresh : Uuid)
    (need : Uuid × TargetTag) (h : HubInner) {k : DKey} (differs : k ≠ key) :
    (h.subscribeUpstream ctx key fresh need).streams.get? k = h.streams.get? k := by
  have ensured : (h.ensureStream key fresh).streams.get? k = h.streams.get? k := by
    unfold HubInner.ensureStream
    split
    · rfl
    · exact (FiniteMap.get?_insert _ _ _ _).trans (if_neg differs)
  have worked : ((h.ensureStream key fresh).onStream ctx key
      (·.subscribeUpstream ctx need)).streams.get? k = h.streams.get? k := by
    rw [onStream_streams_get?, if_neg differs, ensured]
  unfold HubInner.subscribeUpstream
  dsimp only
  split
  · exact worked
  · exact worked

theorem subscribeUpstream (continuity : h.Continuity) (ctx : Ctx) (key : DKey) (fresh : Uuid)
    (need : Uuid × TargetTag)
    (elsewhere : ∀ k ds, k ≠ key → h.streams.get? k = some ds →
      ds.streamId ≠ "s-" ++ fresh.text) :
    (h.subscribeUpstream ctx key fresh need).Continuity := by
  have ensured := continuity.ensureStream key fresh elsewhere
  have worked : ((h.ensureStream key fresh).onStream ctx key
      (·.subscribeUpstream ctx need)).Continuity :=
    ensured.onStream key _ fun ds found => (ensured.cell found).subscribeUpstream need
  unfold HubInner.subscribeUpstream
  dsimp only
  split
  · exact worked
  · exact worked.of_eq rfl rfl

theorem subscribeBind (continuity : h.Continuity) (ctx : Ctx) (conn : Uuid) (key : DKey)
    (needs : List (Uuid × TargetTag)) (fresh : Uuid)
    (elsewhere : ∀ k ds, k ≠ key → h.streams.get? k = some ds →
      ds.streamId ≠ "s-" ++ fresh.text) :
    (h.subscribeBind ctx conn key needs fresh).Continuity := by
  have fold (needs : List (Uuid × TargetTag)) :
      (needs.foldl (HubInner.subscribeUpstream ctx key fresh) h).Continuity := by
    induction needs generalizing h with
    | nil => exact continuity
    | cons need rest inductionHypothesis =>
      refine inductionHypothesis (continuity.subscribeUpstream ctx key fresh need elsewhere) ?_
      intro k ds differs found
      rw [subscribeUpstream_elsewhere ctx key fresh need h differs] at found
      exact elsewhere k ds differs found
  unfold HubInner.subscribeBind
  split
  · exact fold needs
  · exact continuity

theorem subscribeAttach (continuity : h.Continuity) (ctx : Ctx)
    (conn : Uuid) (key : DKey) (correlation : String) (fresh : Uuid)
    (elsewhere : ∀ k ds, k ≠ key → h.streams.get? k = some ds →
      ds.streamId ≠ "s-" ++ fresh.text)
    (windows : ∀ ds, h.streams.get? key = some ds → h.browsers.contains conn = true →
      ds.snapshots ≠ [] → ds.Continuous) :
    (h.subscribeAttach ctx conn key correlation fresh).Continuity := by
  have ensured := continuity.ensureStream key fresh elsewhere
  unfold HubInner.subscribeAttach
  split
  · next connected =>
    dsimp only
    refine HubInner.Continuity.onStream ?_ key _ fun ds found => ?_
    · exact ensured.of_eq rfl rfl
    · refine (ensured.cell found).attachSubscriber conn correlation fun _ some_ => ?_
      -- a stream with snapshots was there before
      unfold HubInner.ensureStream at found
      split at found
      · exact windows ds found connected some_
      · dsimp only at found
        rw [FiniteMap.get?_insert_self] at found
        cases found
        exact absurd rfl some_
  · exact continuity

theorem fanOutEvents (continuity : h.Continuity) (ctx : Ctx)
    (upstreamId : String) (env : Envelope) (events : List Event)
    (settled : h.SettledFanOut ctx upstreamId env events) :
    (h.fanOutEvents ctx upstreamId env events).Continuity :=
  continuity.onUpstream upstreamId _ fun key ds routed found =>
    (continuity.cell found).fanOutEvents upstreamId env events fun b bound fansOut =>
      settled key ds b routed found bound fansOut

theorem flushBatch (continuity : h.Continuity) (ctx : Ctx)
    (key : DKey) (batch : PendingUpstreamBatch)
    (settled : h.SettledFanOut ctx batch.upstreamId (stashedEnv ctx.now batch) batch.events) :
    (h.flushBatch ctx key batch).Continuity := by
  unfold HubInner.flushBatch
  dsimp only
  split
  · exact continuity
  · exact continuity.fanOutEvents ctx _ _ _ settled

theorem flushBatch_later (continuity : h.Continuity) (ctx : Ctx)
    (key : DKey) (batch : PendingUpstreamBatch)
    (settled : h.SettledFanOut ctx batch.upstreamId (stashedEnv ctx.now batch) batch.events) :
    Later h (h.flushBatch ctx key batch) := by
  unfold HubInner.flushBatch
  dsimp only
  split
  · exact Later.refl h
  unfold HubInner.fanOutEvents HubInner.onUpstream
  cases routed : h.upstreamIndex.get? batch.upstreamId with
  | none => exact Later.refl h
  | some target =>
    dsimp only
    cases found : h.streams.get? target with
    | none =>
      have same : (h.onStream ctx target (·.fanOutEvents ctx batch.upstreamId
          (stashedEnv ctx.now batch) batch.events)) = h := by
        unfold HubInner.onStream HubInner.updateStream
        rw [found]
        rfl
      rw [same]
      exact Later.refl h
    | some ds =>
      have serving := (continuity.cell found).fanOutEvents batch.upstreamId
        (stashedEnv ctx.now batch) batch.events fun b bound fansOut =>
          settled target ds b routed found bound fansOut
      refine ⟨fun k ds' conn present active => ?_, fun conn bc' connected => ?_⟩
      · rw [onStream_streams_get?] at present
        split at present
        · next same =>
          subst same
          rw [found] at present
          cases present
          exact ⟨ds, found, StreamCell.fanOutEvents_active _ _ _ active, serving.streamId.symm⟩
        · exact ⟨ds', present, active, rfl⟩
      · rw [onStream_browsers found] at connected
        obtain ⟨bc, before, pushed⟩ := serving.conns conn bc' connected
        exact ⟨bc, before, pushed.grows⟩

/-- The flush of the stash after a snapshot. -/
theorem flush (continuity : h.Continuity) (ctx : Ctx) (key : DKey)
    (taken : List PendingUpstreamBatch)
    (settled : ∀ before batch after, taken = before ++ batch :: after →
      (before.foldl (HubInner.flushBatch ctx key) h).SettledFanOut ctx batch.upstreamId
        (stashedEnv ctx.now batch) batch.events) :
    (taken.foldl (HubInner.flushBatch ctx key) h).Continuity ∧
      Later h (taken.foldl (HubInner.flushBatch ctx key) h) := by
  induction taken using List.reverseRecOn with
  | nil => exact ⟨continuity, Later.refl h⟩
  | append_singleton before batch inductionHypothesis =>
    rw [List.foldl_append, List.foldl_cons, List.foldl_nil]
    obtain ⟨kept, later⟩ := inductionHypothesis fun earlier b after split =>
      settled earlier b (after ++ [batch]) (by rw [split]; simp)
    have last := settled before batch [] rfl
    exact ⟨kept.flushBatch ctx key batch last,
      later.trans (kept.flushBatch_later ctx key batch last)⟩

/-- A snapshot, before the stash is flushed. -/
theorem orderSnapshot (continuity : h.Continuity) (orderly : s.Orderly h)
    {device : Uuid} {env : Envelope} (op : s.op = .bridgeEnvelope device env)
    (isSnap : isSnapshot env = true) {key : DKey}
    (routed : h.upstreamIndex.get? env.streamId = some key) :
    (h.onStream s.ctx key (·.handleUpstreamSnapshot s.ctx env.streamId env)).Continuity := by
  have windows := orderly.windows
  unfold HubStep.ServesContinuous at windows
  rw [op] at windows
  refine continuity.onStream key _ fun ds found => ?_
  exact (continuity.cell found).handleUpstreamSnapshot env.streamId env isSnap
    fun b conn sub bc bound connected subscribed waits =>
      windows isSnap key ds b conn sub bc routed found bound connected subscribed waits

theorem handleUpstreamSnapshot (continuity : h.Continuity) (orderly : s.Orderly h)
    {device : Uuid} {env : Envelope} (op : s.op = .bridgeEnvelope device env)
    (isSnap : isSnapshot env = true) :
    (h.handleUpstreamSnapshot s.ctx env.streamId env).Continuity := by
  have batches := orderly.batches
  unfold HubStep.SettledBatches at batches
  rw [op] at batches
  unfold HubInner.handleUpstreamSnapshot
  cases routed : h.upstreamIndex.get? env.streamId with
  | none => exact continuity
  | some key =>
    exact ((continuity.orderSnapshot orderly op isSnap routed).flush s.ctx key _
      fun before batch after split => batches.2 isSnap key before batch after routed split).1

theorem handleBridgeEnvelope (continuity : h.Continuity) (orderly : s.Orderly h)
    {device : Uuid} {env : Envelope} (op : s.op = .bridgeEnvelope device env) :
    (h.handleBridgeEnvelope s.ctx device env).Continuity := by
  have arrives : ∀ events, batchEvents env = some events →
      (h.fanOutEvents s.ctx env.streamId env events).Continuity := by
    intro events isBatch
    have batches := orderly.batches
    unfold HubStep.SettledBatches at batches
    rw [op] at batches
    exact continuity.fanOutEvents s.ctx _ _ _ (batches.1 events isBatch)
  unfold HubInner.handleBridgeEnvelope
  split
  · exact continuity.of_eq (sendToBridge_streams _ _ _) (sendToBridge_browsers _ _ _)
  · next sub payload =>
    exact continuity.onUpstream _ _ fun key ds _ found =>
      (continuity.cell found).handleUpstreamSubscribed env.streamId sub
  · next payload =>
    exact continuity.handleUpstreamSnapshot orderly op (by simp [isSnapshot, payload])
  · next batch payload =>
    split
    · next snapshot =>
      exact continuity.handleUpstreamSnapshot orderly op (by simp [isSnapshot, payload, snapshot])
    · next incremental => exact arrives _ (by simp [batchEvents, payload, incremental])
  · next batch payload => exact arrives _ (by simp [batchEvents, payload])
  · unfold onCommandAccepted
    split
    · exact continuity
    · exact continuity.reply _ ⟨rfl, by simp [baseEnvelope], by simp [baseEnvelope]⟩
  · next result _ =>
    unfold onCommandResult
    dsimp only
    split
    · exact continuity
    · next p _ =>
      have replied : (h.reply s.ctx p.connId
          (baseEnvelope s.ctx.now device.text (.commandResult result))).Continuity :=
        continuity.reply _ ⟨rfl, by simp [baseEnvelope], by simp [baseEnvelope]⟩
      split
      · exact replied.of_eq rfl rfl
      · exact replied
  · exact continuity.of_eq rfl rfl
  · exact continuity.onUpstream _ _ fun key ds _ found =>
      (continuity.cell found).handleResyncRequired device env.streamId
  · exact continuity

theorem sweepGlobalMemory (continuity : h.Continuity) (ctx : Ctx)
    (order : List DKey) : (h.sweepGlobalMemory ctx order).Continuity := by
  have reclaimed := continuity.reclaimStreams
  unfold HubInner.sweepGlobalMemory
  dsimp only
  split
  · split
    · exact reclaimed.onStream _ _ fun ds found => (reclaimed.cell found).relievePressure
    · exact reclaimed
  · exact reclaimed

/-- **Every orderly step keeps the hub in order.** -/
theorem step (continuity : h.Continuity) (orderly : s.Orderly h) : (h.step s).Continuity := by
  have windows := orderly.windows
  unfold HubStep.ServesContinuous at windows
  unfold HubInner.step
  cases op : s.op with
  | registerBrowser conn ident => exact continuity.registerBrowser conn ident
  | closeBrowser conn =>
    dsimp only [HubInner.closeBrowser]
    split
    · exact continuity.removeBrowser conn
    · exact continuity
  | closeAllBrowsers =>
    exact foldl _ _ (fun _ holds conn _ => holds.removeBrowser conn) continuity
  | removeBrowser conn => exact continuity.removeBrowser conn
  | ensureBindings device owner => exact continuity.ensureBindings s.ctx device owner
  | removeBridge device => exact continuity.removeBridge device
  | sendToBridge device env =>
    exact continuity.of_eq (sendToBridge_streams _ _ _) (sendToBridge_browsers _ _ _)
  | beginShutdown =>
    dsimp only [HubInner.beginShutdown]
    refine abandonCommands ?_ _
    exact continuity.of_eq rfl rfl
  | subscribeBind conn key needs fresh_ =>
    have fresh := orderly.fresh key fresh_ (by rw [HubStep.creates, op])
    exact continuity.subscribeBind s.ctx conn key needs fresh_ fresh
  | subscribeAttach conn key correlation fresh_ =>
    have fresh := orderly.fresh key fresh_ (by rw [HubStep.creates, op])
    rw [op] at windows
    exact continuity.subscribeAttach s.ctx conn key correlation fresh_ fresh windows
  | browserUnsubscribe conn streamId =>
    dsimp only [HubInner.browserUnsubscribe]
    split
    · exact continuity
    · next key _ =>
      have dropped : (h.onStream s.ctx key (·.dropSubscriber conn)).Continuity :=
        continuity.onStream key _ fun ds found => (continuity.cell found).dropSubscriber conn
      exact dropped.of_eq rfl rfl
  | browserResync conn streamId correlation =>
    rw [op] at windows
    dsimp only [HubInner.browserResync]
    split
    · exact continuity
    · next key target =>
      exact continuity.onStream key _ fun ds found =>
        (continuity.cell found).browserResync conn correlation (windows key ds target found)
  | browserAck conn streamId sequence =>
    dsimp only [HubInner.browserAck]
    split
    · exact continuity
    · exact continuity.onStream _ _ fun ds found =>
        (continuity.cell found).browserAck conn sequence
  | bridgeEnvelope device env => exact continuity.handleBridgeEnvelope orderly op
  | fanOutPresence device owner online =>
    exact foldl _ _ (fun h holds key _ => holds.onStream key _ fun ds found =>
      (holds.cell found).fanOutPresence device online) continuity
  | heartbeatAck conn =>
    exact continuity.reply conn ⟨rfl, by simp [baseEnvelope], by simp [baseEnvelope]⟩
  | protocolError conn error =>
    exact continuity.reply conn ⟨rfl, by simp [baseEnvelope], by simp [baseEnvelope]⟩
  | commandReply conn result =>
    exact continuity.reply conn ⟨rfl, by simp [baseEnvelope], by simp [baseEnvelope]⟩
  | sweepGlobalMemory order => exact continuity.sweepGlobalMemory s.ctx order
  | browserWriter conn taken => exact continuity.browserWriter conn taken
  | _ => exact continuity.of_eq rfl rfl

end HubInner.Continuity

/-! ## Runs -/

/-- What a step delivers. -/
structure DeliversInOrder (h : HubInner) (s : HubStep) : Prop where
  /-- The frames of each stream that a connection was sent go up by one. -/
  inOrder : ∀ conn bc, (h.step s).browsers.get? conn = some bc →
    ∀ streamId, Cursor.after streamId bc.outbox.sent ≠ .violated
  /-- The browser that reads them has no gap to repair. -/
  gate : ∀ conn bc, (h.step s).browsers.get? conn = some bc → ∀ streamId target,
    (∀ i ∈ bc.outbox.sent, StreamGate.Targeted streamId target i) →
    ∀ g, StreamGate.after streamId target bc.outbox.sent = some g → g.repairs = 0
  /-- Active subscribers are at the present. -/
  present : ∀ key ds conn bc, (h.step s).streams.get? key = some ds →
    (h.step s).browsers.get? conn = some bc → ds.active conn = true → bc.closed = false →
    ds.UpTo (Cursor.after ds.streamId bc.accepted)
  /-- A resync is answered at once with a window up to the present, or the
  subscriber waits for the next snapshot, or it has lost its connection. -/
  resync : ∀ conn streamId correlation key ds ds' bc bc',
    s.op = .browserResync conn streamId correlation → h.findStream streamId = some key →
    h.streams.get? key = some ds → ds.subscribers.contains conn = true →
    h.browsers.get? conn = some bc → (h.step s).streams.get? key = some ds' →
    (h.step s).browsers.get? conn = some bc' →
    (ds'.active conn = true ∧
        Cursor.after ds'.streamId bc'.accepted = .reached ds'.epoch (ds'.nextSeq - 1)) ∨
      (∃ sub, ds'.subscribers.get? conn = some sub ∧ sub.awaitingSnapshot = true) ∨
      bc'.closed = true
  /-- A subscriber that a snapshot makes active is given a new base. -/
  snapshot : ∀ device env key ds ds' conn bc bc', s.op = .bridgeEnvelope device env →
    isSnapshot env = true → h.upstreamIndex.get? env.streamId = some key →
    h.streams.get? key = some ds → ds.active conn = false → h.browsers.get? conn = some bc →
    (h.step s).streams.get? key = some ds' → (h.step s).browsers.get? conn = some bc' →
    ds'.active conn = true → Answered ds'.streamId bc bc'

namespace HubInner.Continuity

variable {h : HubInner} {s : HubStep}

theorem resync_answers (continuity : h.Continuity) (orderly : s.Orderly h) {conn : Uuid}
    {streamId correlation : String} {key : DKey} {ds ds' : DStream} {bc bc' : BrowserConn}
    (op : s.op = .browserResync conn streamId correlation)
    (target : h.findStream streamId = some key) (found : h.streams.get? key = some ds)
    (subscribed : ds.subscribers.contains conn = true) (connected : h.browsers.get? conn = some bc)
    (present : (h.step s).streams.get? key = some ds')
    (connected' : (h.step s).browsers.get? conn = some bc') :
    (ds'.active conn = true ∧
        Cursor.after ds'.streamId bc'.accepted = .reached ds'.epoch (ds'.nextSeq - 1)) ∨
      (∃ sub, ds'.subscribers.get? conn = some sub ∧ sub.awaitingSnapshot = true) ∨
      bc'.closed = true := by
  have windows := orderly.windows
  unfold HubStep.ServesContinuous at windows
  rw [op] at windows
  have stepEq : h.step s = h.onStream s.ctx key (·.browserResync s.ctx conn correlation) := by
    rw [HubInner.step, op]
    dsimp only
    rw [HubInner.browserResync, target]
  rw [stepEq, onStream_streams_get?, if_pos rfl, found] at present
  rw [stepEq, onStream_browsers found] at connected'
  cases present
  exact StreamCell.browserResync_answers (continuity.cell found)
    (windows key ds target found) correlation connected subscribed connected'

theorem snapshot_answers (continuity : h.Continuity) (orderly : s.Orderly h) {device : Uuid}
    {env : Envelope} {key : DKey} {ds ds' : DStream} {conn : Uuid} {bc bc' : BrowserConn}
    (op : s.op = .bridgeEnvelope device env) (isSnap : isSnapshot env = true)
    (routed : h.upstreamIndex.get? env.streamId = some key) (found : h.streams.get? key = some ds)
    (inactive : ds.active conn = false) (connected : h.browsers.get? conn = some bc)
    (present : (h.step s).streams.get? key = some ds')
    (connected' : (h.step s).browsers.get? conn = some bc') (active : ds'.active conn = true) :
    Answered ds'.streamId bc bc' := by
  have batches := orderly.batches
  unfold HubStep.SettledBatches at batches
  rw [op] at batches
  have ordered := continuity.orderSnapshot orderly op isSnap routed
  have stepEq : h.step s = (h.takenStash key env.streamId).foldl (HubInner.flushBatch s.ctx key)
      (h.onStream s.ctx key (·.handleUpstreamSnapshot s.ctx env.streamId env)) := by
    rw [HubInner.step, op]
    dsimp only
    rw [handleBridgeEnvelope_snapshot s.ctx device env isSnap, HubInner.handleUpstreamSnapshot,
      routed]
  obtain ⟨-, later⟩ := ordered.flush s.ctx key _ fun before batch after split =>
    batches.2 isSnap key before batch after routed split
  rw [← stepEq] at later
  obtain ⟨mid, there, wasActive, sameId⟩ := later.streams key ds' conn present active
  obtain ⟨bcMid, connectedMid, more, history⟩ := later.conns conn bc' connected'
  rw [onStream_streams_get?, if_pos rfl, found] at there
  rw [onStream_browsers found] at connectedMid
  cases there
  obtain ⟨sub, wire, first, answer, payload, id⟩ := StreamCell.handleUpstreamSnapshot_answers
    env.streamId env inactive connected connectedMid wasActive
  refine ⟨sub, wire, first ++ more, ?_, payload, ?_⟩
  · rw [history, answer]
    simp
  · rw [id, ← sameId]
    exact (StreamCell.handleUpstreamSnapshot_streamId env.streamId env).symm

theorem delivers (continuity : h.Continuity) (orderly : s.Orderly h) : DeliversInOrder h s := by
  have after := continuity.step orderly
  have sent (conn : Uuid) (bc : BrowserConn) (found : (h.step s).browsers.get? conn = some bc)
      (streamId : String) : Cursor.after streamId bc.outbox.sent ≠ .violated :=
    Cursor.sent_inOrder (after.ordered conn bc found) (after.inOrder conn bc found streamId)
  constructor
  · exact sent
  · intro conn bc found streamId target targeted g bound
    exact (StreamGate.no_repairs (sent conn bc found streamId) targeted g bound).repairs
  · exact after.synced
  · intro conn streamId correlation key ds ds' bc bc' op target found subscribed connected
    exact continuity.resync_answers orderly op target found subscribed connected
  · intro device env key ds ds' conn bc bc' op isSnap routed found inactive connected
    exact continuity.snapshot_answers orderly op isSnap routed found inactive connected

end HubInner.Continuity

/-- In every orderly run of the hub, what each subscriber is sent of a stream
goes up by one from each `Subscribed` on, and every resync is answered. -/
theorem frames_go_up_by_one (steps : List HubStep)
    (run : Along HubInner.step (fun h s => s.Orderly h) .new steps) :
    Along HubInner.step DeliversInOrder .new steps :=
  Along.of_invariant (I := HubInner.Continuity) (fun _ _ continuity => continuity.step)
    (fun _ _ continuity => continuity.delivers) HubInner.Continuity.new run

/-! ### Runs without gaps -/

/-- A batch of one event settles. -/
theorem StreamCell.settledBatch_of_short {ctx : Ctx} {env : Envelope} {c : StreamCell}
    {events : List Event} (short : events.length ≤ 1) : c.SettledBatch ctx env events := by
  intro before e after split
  have first : before = [] := by
    rw [split, List.length_append, List.length_cons] at short
    exact List.eq_nil_of_length_eq_zero (by omega)
  rw [first]
  simp

instance (h : HubInner) (s : HubStep) : Decidable (s.FreshIds h) :=
  decidable_of_iff (∀ new ∈ s.creates.toList, ∀ entry ∈ h.streams.toList,
      entry.1 ≠ new.1 → entry.2.streamId ≠ "s-" ++ new.2.text)
    ⟨fun all key fresh creates k ds differs found =>
        all (key, fresh) (by simp [creates]) (k, ds) (FiniteMap.mem_toList.mpr found) differs,
      fun all new creates entry member differs =>
        all new.1 new.2 (by simpa using creates) _ _ differs (FiniteMap.mem_toList.mp member)⟩

/-- The streams have no gap, nothing is stashed, and events come one by one. -/
def HubStep.Smooth (h : HubInner) (s : HubStep) : Bool :=
  match s.op with
  | .subscribeAttach _ _ _ _ | .browserResync _ _ _ =>
    h.streams.toList.all fun entry => decide entry.2.Gapless
  | .bridgeEnvelope _ env =>
    (batchEvents env).all (fun events => decide (events.length ≤ 1)) &&
    h.streams.toList.all fun entry => entry.2.pendingBatches.isEmpty &&
      entry.2.upstreams.values.all fun b =>
        decide (entry.2.orderSnapshot s.ctx env.streamId b env).Gapless
  | _ => true

theorem HubStep.Smooth.orderly {h : HubInner} {s : HubStep} (smooth : s.Smooth h = true)
    (fresh : s.FreshIds h) : s.Orderly h := by
  unfold HubStep.Smooth at smooth
  suffices parts : s.ServesContinuous h ∧ s.SettledBatches h from ⟨fresh, parts.1, parts.2⟩
  unfold HubStep.ServesContinuous HubStep.SettledBatches
  cases op : s.op with
  | subscribeAttach conn key correlation fresh =>
    simp only [op, List.all_eq_true, decide_eq_true_eq] at smooth
    exact ⟨fun ds found _ _ => .inl (smooth _ (FiniteMap.mem_toList.mpr found)), trivial⟩
  | browserResync conn streamId correlation =>
    simp only [op, List.all_eq_true, decide_eq_true_eq] at smooth
    exact ⟨fun key ds _ found _ _ _ => .inl (smooth _ (FiniteMap.mem_toList.mpr found)), trivial⟩
  | bridgeEnvelope device env =>
    simp only [op, Bool.and_eq_true, List.all_eq_true, decide_eq_true_eq,
      List.isEmpty_iff] at smooth
    obtain ⟨short, streams⟩ := smooth
    refine ⟨?_, ?_, ?_⟩
    · intro _ key ds b conn sub bc _ found bound _ _ _
      exact .inl ((streams _ (FiniteMap.mem_toList.mpr found)).2 b
        (FiniteMap.mem_values.mpr ⟨_, bound⟩))
    · intro events isBatch key ds b _ _ _ _
      rw [isBatch] at short
      exact StreamCell.settledBatch_of_short (of_decide_eq_true short)
    · intro _ key before batch after _ taken
      -- nothing is stashed, so nothing is flushed
      unfold HubInner.takenStash at taken
      split at taken
      · simp at taken
      · next ds found =>
        rw [(streams _ (FiniteMap.mem_toList.mpr found)).1] at taken
        split at taken <;> simp at taken
  | _ => exact ⟨trivial, trivial⟩

namespace SessionList

/-- Browser `c` joins and gets the next change. -/
def joining : List HubStep := opening ++ [attach (.ofLast 'c'), change 0 3 "z"]

/-- Browser `c` joins after a change has expired, and gets the next one. -/
def joiningLate : List HubStep :=
  opening ++ [late, attach (.ofLast 'c'), change (16 * 60 * 1000000000) 4 "x"]

/-- The writer of `c` catches up. -/
def catchUp : HubStep := ⟨.idle 0, .browserWriter (.ofLast 'c') 9⟩

end SessionList

open SessionList in
theorem frames_go_up_by_one_joining :
    Along HubInner.step DeliversInOrder .new (joining ++ [catchUp]) ∧
      ((HubInner.new.run (joining ++ [catchUp])).browsers.get? (.ofLast 'c')).map
        (·.outbox.sent.length) = some 4 := by
  refine ⟨frames_go_up_by_one _ ?_, by decide +kernel⟩
  have smooth : Along HubInner.step (fun h s => s.Smooth h = true ∧ s.FreshIds h) .new
      (joining ++ [catchUp]) := by
    decide +kernel
  exact Along.of_invariant (I := fun _ => True) (fun _ _ _ _ => trivial)
    (fun _ _ _ both => HubStep.Smooth.orderly both.1 both.2) trivial smooth

open SessionList in
/-- The late joiner is served the snapshot with number 1, and the next frame it
gets has number 4. -/
theorem expired_change_leaves_gap :
    ¬ ∀ steps : List HubStep, Along HubInner.step (fun h s => s.FreshIds h) .new steps →
      Along HubInner.step DeliversInOrder .new steps := by
  intro claim
  have delivers := (claim (joiningLate ++ [catchUp]) (by decide +kernel)).at_step
  have facts : (((HubInner.new.run (joiningLate ++ [catchUp])).browsers.get?
      (.ofLast 'c')).map fun bc =>
        Cursor.after ("s-" ++ (Uuid.ofLast 's').text) bc.outbox.sent) = some .violated := by
    decide +kernel
  obtain ⟨bc, connected, violated⟩ := Option.map_eq_some_iff.mp facts
  exact delivers.inOrder _ bc connected _ violated

end AgentConsole.Relay
