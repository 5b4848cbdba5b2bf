import AgentConsole.Relay.Serve

/-! # Keeping subscribers at the present

`Serving start c behind` says that the operation that began at `start` has
brought the stream to `c` with pushes of its own stream only, that no
connection got anything out of order, and that every active subscriber is at
the present, except perhaps those in `behind`, which the operation is going to
detach.  Every stream operation ends with nobody behind. -/

namespace AgentConsole.Relay

open AgentConsole.Lib

structure Serving (start c : StreamCell) (behind : List Uuid) : Prop where
  stream : c.ds.Sound
  streamId : c.ds.streamId = start.ds.streamId
  conns : ∀ conn bc', c.browsers.get? conn = some bc' →
    ∃ bc, start.browsers.get? conn = some bc ∧ Pushed start.ds.streamId bc bc'
  inOrder : ∀ conn bc, c.browsers.get? conn = some bc →
    Cursor.after c.ds.streamId bc.accepted ≠ .violated
  synced : ∀ conn bc, c.browsers.get? conn = some bc → conn ∉ behind →
    c.ds.active conn = true → bc.closed = false →
    c.ds.UpTo (Cursor.after c.ds.streamId bc.accepted)

namespace DStream

theorem contains_of_active {ds : DStream} {conn : Uuid} (active : ds.active conn = true) :
    ds.subscribers.contains conn = true := by
  unfold DStream.active at active
  unfold FiniteMap.contains
  cases found : ds.subscribers.get? conn with
  | none => rw [found] at active; cases active
  | some sub => rfl

@[simp] theorem awaitAll_active (ds : DStream) (conn : Uuid) :
    ds.awaitAll.active conn = false := by
  unfold DStream.active awaitAll
  dsimp only
  rw [FiniteMap.get?_mapVal]
  cases ds.subscribers.get? conn <;> rfl

end DStream

namespace Serving

variable {start c : StreamCell} {behind : List Uuid} {ctx : Ctx}

/-- Nothing is pushed, and nobody becomes active. -/
theorem quiet (serving : Serving start c behind) {c' : StreamCell} (stream : c'.ds.Sound)
    (streamId : c'.ds.streamId = c.ds.streamId) (browsers : c'.browsers = c.browsers)
    (quieter : ∀ conn, c'.ds.active conn = true →
      c.ds.active conn = true ∧ c'.ds.epoch = c.ds.epoch ∧ c'.ds.nextSeq = c.ds.nextSeq) :
    Serving start c' behind where
  stream := stream
  streamId := streamId.trans serving.streamId
  conns := by rw [browsers]; exact serving.conns
  inOrder := by rw [browsers, streamId]; exact serving.inOrder
  synced := by
    rw [browsers]
    intro conn bc found ahead active isOpen
    obtain ⟨wasActive, epoch, nextSeq⟩ := quieter conn active
    unfold DStream.UpTo
    rw [streamId, epoch, nextSeq]
    exact serving.synced conn bc found ahead wasActive isOpen

/-- Each connection gets what `push` gives it. -/
theorem push (serving : Serving start c behind) {c' : StreamCell} {behind' : List Uuid}
    (stream : c'.ds.Sound) (streamId : c'.ds.streamId = c.ds.streamId)
    (each : ∀ conn bc', c'.browsers.get? conn = some bc' → ∃ bc, c.browsers.get? conn = some bc ∧
      Pushed c.ds.streamId bc bc' ∧ Cursor.after c.ds.streamId bc'.accepted ≠ .violated ∧
      (conn ∉ behind' → c'.ds.active conn = true → bc'.closed = false →
        c'.ds.UpTo (Cursor.after c.ds.streamId bc'.accepted))) :
    Serving start c' behind' where
  stream := stream
  streamId := streamId.trans serving.streamId
  conns := by
    intro conn bc' found
    obtain ⟨mid, before, pushed, -⟩ := each conn bc' found
    obtain ⟨bc, started, earlier⟩ := serving.conns conn mid before
    exact ⟨bc, started, earlier.trans (serving.streamId ▸ pushed)⟩
  inOrder := by
    intro conn bc' found
    obtain ⟨-, -, -, inOrder, -⟩ := each conn bc' found
    rwa [streamId]
  synced := by
    intro conn bc' found ahead active isOpen
    obtain ⟨-, -, -, -, synced⟩ := each conn bc' found
    rw [streamId]
    exact synced ahead active isOpen

/-- Everybody who could be active is told to resync. -/
theorem notify (serving : Serving start c behind)
    {c' : StreamCell} (told : DStream) (stream : c'.ds.Sound)
    (streamId : c'.ds.streamId = c.ds.streamId) (toldId : told.streamId = c.ds.streamId)
    (browsers : c'.browsers = told.notifyResync ctx c.browsers)
    (reached : ∀ conn, c'.ds.active conn = true → told.subscribers.contains conn = true) :
    Serving start c' [] := by
  refine serving.push stream streamId fun conn bc' found => ?_
  rw [browsers, DStream.notifyResync, FiniteMap.get?_mapVal] at found
  obtain ⟨bc, before, rfl⟩ := Option.map_eq_some_iff.mp found
  refine ⟨bc, before, ?_⟩
  have inOrder := serving.inOrder conn bc before
  split
  · rw [toldId]
    obtain ⟨kept, freed⟩ := pushResync_cursor ctx conn serving.stream.hasId inOrder
    exact ⟨Pushed.direct ctx conn (Pushed.resyncRequired_silent _ _) bc, kept,
      fun _ _ isOpen => .inl (freed isOpen)⟩
  · next unheard =>
    exact ⟨Pushed.refl, inOrder, fun _ active => absurd (reached conn active) unheard⟩

/-- Detach those who are behind. -/
theorem detach (serving : Serving start c behind) :
    Serving start (c.detachFailed ctx behind) [] := by
  have detached : Moved ctx Move.Proper c.ds (c.detachFailed ctx behind).ds :=
    c.detachFailed_moved trivial behind
  refine serving.push (serving.stream.moved detached) rfl fun conn bc' found => ?_
  unfold StreamCell.detachFailed at found
  dsimp only at found
  rw [FiniteMap.get?_mapVal] at found
  obtain ⟨bc, before, rfl⟩ := Option.map_eq_some_iff.mp found
  refine ⟨bc, before, ?_⟩
  have inOrder := serving.inOrder conn bc before
  split
  · next slow =>
    have member : conn ∈ behind := by simpa using slow
    obtain ⟨kept, -⟩ := pushResync_cursor ctx conn serving.stream.hasId inOrder
    refine ⟨?_, close_cursor "RESYNC_REQUIRED" kept, fun _ active => ?_⟩
    · exact (Pushed.direct ctx conn (Pushed.resyncRequired_silent _ _) bc).trans (Pushed.close _ _)
    · rw [StreamCell.detachFailed_inactive member] at active
      cases active
  · next fast =>
    have ahead : conn ∉ behind := by simpa using fast
    refine ⟨Pushed.refl, inOrder, fun _ active isOpen => ?_⟩
    exact serving.synced conn bc before ahead (StreamCell.detachFailed_active active).2 isOpen

/-- The next frame of the stream goes to the active subscribers; those whose
queue refuses it fall behind, and nobody who is behind gets it. -/
theorem deliver (serving : Serving start c behind) {frame : Frame}
    (belongs : Cursor.Belongs c.ds.streamId c.ds.epoch frame)
    (next : frame.sequence = c.ds.nextSeq) (isBatch : DStream.IsEventBatch frame.env)
    (settled : ∀ conn ∈ behind, ∀ bc, c.browsers.get? conn = some bc →
      (bc.pushFrame ctx conn frame).2 ≠ none) :
    let ds := (c.ds.number ctx frame).1
    Serving start { c with ds, browsers := (ds.deliver ctx frame c.browsers).1 }
      (behind ++ (ds.deliver ctx frame c.browsers).2) := by
  dsimp only
  have positive : 0 < c.ds.nextSeq := by rw [serving.stream.numbered.nextSeq]; omega
  refine serving.push (serving.stream.number ctx next belongs.stream belongs.epoch isBatch) rfl
    fun conn bc' found => ?_
  unfold DStream.deliver at found
  dsimp only at found
  rw [FiniteMap.get?_mapVal] at found
  obtain ⟨bc, before, rfl⟩ := Option.map_eq_some_iff.mp found
  refine ⟨bc, before, ?_⟩
  have inOrder := serving.inOrder conn bc before
  have sameActive : (c.ds.number ctx frame).1.active conn = c.ds.active conn := rfl
  rw [sameActive]
  split
  · next active =>
    refine ⟨Pushed.frame ctx conn belongs bc, ?_⟩
    by_cases late : conn ∈ behind
    · -- refused again: the history stays as it was
      have refused := settled conn late bc before
      refine ⟨?_, fun ahead => absurd (List.mem_append_left _ late) ahead⟩
      rcases BrowserConn.pushFrame_spec ctx conn bc frame with
        ⟨bc', pushed, -⟩ | ⟨bc', pushed, -, -, history⟩ | ⟨bc', pushed, -, -, history⟩
      · rw [pushed] at refused; exact absurd rfl refused
      · rw [pushed]; exact history ▸ inOrder
      · rw [pushed]; exact history ▸ inOrder
    · obtain ⟨kept, moved⟩ := pushNext_cursor ctx conn belongs next positive
        (serving.synced conn bc before late active) inOrder
      refine ⟨kept, fun ahead _ isOpen => .inr ?_⟩
      change _ = Cursor.reached c.ds.epoch (c.ds.nextSeq + 1 - 1)
      rw [Nat.add_sub_cancel]
      refine moved ?_
      -- refused on an open connection means slow
      rcases BrowserConn.pushFrame_spec ctx conn bc frame with
        ⟨bc', pushed, -⟩ | ⟨bc', pushed, -, isClosed, -⟩ | ⟨bc', pushed, -, -, -⟩
      · rw [pushed]
      · rw [pushed] at isOpen; dsimp only at isOpen; rw [isClosed] at isOpen; cases isOpen
      · refine absurd (List.mem_append_right _ ?_) ahead
        unfold DStream.deliver
        dsimp only
        refine List.mem_map.mpr ⟨(conn, bc), List.mem_filter.mpr
          ⟨FiniteMap.mem_toList.mpr before, ?_⟩, rfl⟩
        dsimp only
        rw [sameActive, active, pushed]
        rfl
  · next inactive => exact ⟨Pushed.refl, inOrder, fun _ active => absurd active inactive⟩

/-- One event of a batch. -/
theorem emitEvent (serving : Serving start c behind)
    (env : Envelope) (e : Event)
    (settled : ∀ conn ∈ behind, ∀ bc, c.browsers.get? conn = some bc →
      (bc.pushFrame ctx conn (c.ds.eventFrame ctx env e)).2 ≠ none) :
    Serving start (StreamCell.emitEvent ctx env (c, behind) e).1
      (StreamCell.emitEvent ctx env (c, behind) e).2 := by
  have isBatch : DStream.IsEventBatch (c.ds.eventFrame ctx env e).env := ⟨_, rfl⟩
  have belongs : Cursor.Belongs c.ds.streamId c.ds.epoch (c.ds.eventFrame ctx env e) :=
    ⟨rfl, rfl, isBatch.carries.1⟩
  unfold StreamCell.emitEvent
  dsimp only
  split
  · -- the buffer was reset: everybody is told, nobody gets the frame
    have told : Serving start { c with
        ds := (c.ds.number ctx (c.ds.eventFrame ctx env e)).1
        browsers :=
          (c.ds.number ctx (c.ds.eventFrame ctx env e)).1.notifyResync ctx c.browsers } [] :=
      serving.notify (c.ds.number ctx (c.ds.eventFrame ctx env e)).1
        (serving.stream.number ctx rfl rfl rfl isBatch) rfl rfl rfl
        fun _ active => DStream.contains_of_active active
    exact ⟨told.stream, told.streamId, told.conns, told.inOrder,
      fun conn bc found _ => told.synced conn bc found (by simp)⟩
  · exact serving.deliver belongs rfl isBatch settled

end Serving

/-- A batch of the binding is fanned out, not dropped or stashed. -/
def StreamCell.FansOut (env : Envelope) (c : StreamCell) (b : UpstreamBinding) : Prop :=
  ¬(env.sequence ≠ 0 ∧ env.sequence ≤ b.lastSeq) ∧
    ¬(!b.snapshotReceived && c.ds.snapshots.isEmpty) = true

/-- No connection that refused a frame of the batch is given a later one. -/
def StreamCell.SettledBatch (ctx : Ctx) (env : Envelope) (c : StreamCell) (events : List Event) :
    Prop :=
  ∀ before e after, events = before ++ e :: after →
    let mid := before.foldl (StreamCell.emitEvent ctx env) (c, [])
    ∀ conn ∈ mid.2, ∀ bc, mid.1.browsers.get? conn = some bc →
      (bc.pushFrame ctx conn (mid.1.ds.eventFrame ctx env e)).2 ≠ none

namespace Serving

variable {start c : StreamCell} {behind : List Uuid} {ctx : Ctx}

/-- A whole batch: after the fold, those whose queue refused a frame are behind. -/
theorem emitEvents (serving : Serving start c [])
    (env : Envelope) (events : List Event) (settled : c.SettledBatch ctx env events) :
    Serving start (events.foldl (StreamCell.emitEvent ctx env) (c, [])).1
      (events.foldl (StreamCell.emitEvent ctx env) (c, [])).2 := by
  induction events using List.reverseRecOn with
  | nil => exact serving
  | append_singleton before e inductionHypothesis =>
    rw [List.foldl_append, List.foldl_cons, List.foldl_nil]
    refine Serving.emitEvent (inductionHypothesis ?_) env e (settled before e [] rfl)
    intro earlier e' after split
    exact settled earlier e' (after ++ [e]) (by rw [split]; simp)

end Serving

/-! ## The operations of a stream -/

/-- The moves that keep a stream sound are among those of the Relay. -/
theorem properMoves : StreamCell.RelayMoves Move.Proper := ⟨trivial, trivial, trivial⟩

namespace Serving

variable {start c : StreamCell} {ctx : Ctx}

/-- Other bindings do not matter to a batch. -/
theorem emitEvent_upstreams (env : Envelope) (ups : FiniteMap String UpstreamBinding)
    (acc : StreamCell × List Uuid) (e : Event) :
    StreamCell.emitEvent ctx env
        ({ acc.1 with ds := { acc.1.ds with upstreams := ups } }, acc.2) e =
      ({ (StreamCell.emitEvent ctx env acc e).1 with
          ds := { (StreamCell.emitEvent ctx env acc e).1.ds with upstreams := ups } },
        (StreamCell.emitEvent ctx env acc e).2) := by
  have same : DStream.eventFrame ctx env { acc.1.ds with upstreams := ups } e =
      acc.1.ds.eventFrame ctx env e := rfl
  unfold StreamCell.emitEvent DStream.number
  dsimp only
  rw [same]
  cases (acc.1.ds.buffer.insert ctx.codec ctx.now (acc.1.ds.eventFrame ctx env e)).2 <;> rfl

theorem foldl_emitEvent_upstreams (env : Envelope) (ups : FiniteMap String UpstreamBinding)
    (events : List Event) (acc : StreamCell × List Uuid) :
    events.foldl (StreamCell.emitEvent ctx env)
        ({ acc.1 with ds := { acc.1.ds with upstreams := ups } }, acc.2) =
      ({ (events.foldl (StreamCell.emitEvent ctx env) acc).1 with
          ds := { (events.foldl (StreamCell.emitEvent ctx env) acc).1.ds with upstreams := ups } },
        (events.foldl (StreamCell.emitEvent ctx env) acc).2) := by
  induction events generalizing acc with
  | nil => rfl
  | cons e rest inductionHypothesis =>
    rw [List.foldl_cons, emitEvent_upstreams, inductionHypothesis, List.foldl_cons]

theorem stash (serving : Serving start c [])
    (batch : PendingUpstreamBatch) (bound : ∃ b, c.ds.upstreams.get? batch.upstreamId = some b) :
    Serving start (c.stash ctx batch) [] := by
  have sound : (c.stash ctx batch).ds.Sound :=
    serving.stream.moved (c.stash_moved properMoves batch trivial bound)
  obtain ⟨_, _, _, frame⟩ := DStream.pushPending_frame ctx.codec c.ds batch
  unfold StreamCell.stash at sound ⊢
  dsimp only at sound ⊢
  split at sound
  · next overfull =>
    rw [if_pos overfull]
    refine serving.notify (c.ds.pushPending ctx.codec batch).1 sound
      (by rw [frame]; rfl) (by rw [frame]) rfl fun conn active => ?_
    have inactive : ((c.ds.pushPending ctx.codec batch).1.refreshSnapshotEnvs
        ctx.now true).1.active conn = false := DStream.awaitAll_active _ conn
    rw [inactive] at active
    cases active
  · next fine =>
    rw [if_neg fine]
    refine serving.quiet sound (by rw [frame]) rfl fun conn active => ?_
    rw [frame] at active ⊢
    exact ⟨active, rfl, rfl⟩

theorem fanOutEvents (serving : Serving start c [])
    (upstreamId : String) (env : Envelope) (events : List Event)
    (settled : ∀ b, c.ds.upstreams.get? upstreamId = some b →
      c.FansOut env b → c.SettledBatch ctx env events) :
    Serving start (c.fanOutEvents ctx upstreamId env events) [] := by
  unfold StreamCell.fanOutEvents
  cases bound : c.ds.upstreams.get? upstreamId with
  | none => exact serving
  | some binding =>
    dsimp only
    split
    · exact serving
    next fresh =>
    split
    · exact serving
    split
    · exact serving.stash _ ⟨binding, bound⟩
    next received =>
    refine Serving.detach ?_
    have fansOut : c.FansOut env binding := ⟨fresh, received⟩
    have emitted := serving.emitEvents env events (settled binding bound fansOut)
    rw [foldl_emitEvent_upstreams env _ events (c, [])]
    exact ⟨emitted.stream.withUpstreams _, emitted.streamId, emitted.conns, emitted.inOrder,
      emitted.synced⟩

theorem handleUpstreamSubscribed (serving : Serving start c [])
    (upstreamId : String) (sub : Subscribed) :
    Serving start (c.handleUpstreamSubscribed ctx upstreamId sub) [] := by
  have sound : (c.handleUpstreamSubscribed ctx upstreamId sub).ds.Sound :=
    serving.stream.moved (c.handleUpstreamSubscribed_moved properMoves trivial _ _ trivial)
  unfold StreamCell.handleUpstreamSubscribed at sound ⊢
  cases bound : c.ds.upstreams.get? upstreamId with
  | none => exact serving
  | some binding =>
    simp only [bound] at sound
    dsimp only at sound ⊢
    split at sound
    · next same =>
      rw [if_pos same]
      exact serving.quiet sound rfl rfl fun _ active => ⟨active, rfl, rfl⟩
    · next changed =>
      rw [if_neg changed]
      -- everybody waits for the snapshot of the new epoch
      refine serving.notify { (c.ds.announced upstreamId binding sub).clearCache.awaitAll with
        epoch := c.ds.epoch + 1 } sound rfl rfl rfl fun conn active => ?_
      have inactive : (c.ds.announced upstreamId binding sub).clearCache.awaitAll.active conn =
          false := DStream.awaitAll_active _ conn
      exact absurd (inactive.symm.trans active) (by simp)

theorem handleResyncRequired (serving : Serving start c []) (sender : Uuid)
    (upstreamId : String) : Serving start (c.handleResyncRequired ctx sender upstreamId) [] := by
  have sound : (c.handleResyncRequired ctx sender upstreamId).ds.Sound :=
    serving.stream.moved (c.handleResyncRequired_moved properMoves sender upstreamId)
  unfold StreamCell.handleResyncRequired at sound ⊢
  cases bound : c.ds.upstreams.get? upstreamId with
  | none => exact serving
  | some binding =>
    simp only [bound] at sound
    exact serving.quiet sound rfl rfl fun _ active => ⟨active, rfl, rfl⟩

theorem fanOutPresence (serving : Serving start c [])
    (device : Uuid) (online : Bool) :
    Serving start (c.fanOutPresence ctx device online) [] := by
  unfold StreamCell.fanOutPresence
  split
  · exact serving
  · have isBatch : DStream.IsEventBatch (c.ds.presenceFrame ctx device online).env := ⟨_, rfl⟩
    exact (serving.deliver ⟨rfl, rfl, isBatch.carries.1⟩ rfl isBatch (by simp)).detach

theorem bindUpstream (serving : Serving start c []) (device : Uuid) (tag : TargetTag) :
    Serving start (c.bindUpstream ctx device tag) [] := by
  have sound : (c.bindUpstream ctx device tag).ds.Sound :=
    serving.stream.moved (c.bindUpstream_moved device tag trivial)
  unfold StreamCell.bindUpstream at sound ⊢
  dsimp only at sound ⊢
  split at sound
  · next bound => rw [if_pos bound]; exact serving
  · next unbound =>
    rw [if_neg unbound]
    exact serving.quiet sound rfl rfl fun _ active => ⟨active, rfl, rfl⟩

theorem subscribeUpstream (serving : Serving start c []) (need : Uuid × TargetTag) :
    Serving start (c.subscribeUpstream ctx need) [] := by
  have sound : (c.subscribeUpstream ctx need).ds.Sound :=
    serving.stream.moved (c.subscribeUpstream_moved properMoves need trivial)
  unfold StreamCell.subscribeUpstream at sound ⊢
  dsimp only at sound ⊢
  cases bound : c.ds.upstreams.get? (upstreamStreamId need.1 need.2) with
  | none => exact serving.bindUpstream need.1 need.2
  | some binding =>
    simp only [bound] at sound
    dsimp only
    split at sound
    · next restarts =>
      rw [if_pos restarts]
      refine serving.quiet sound rfl rfl fun conn active => ?_
      have inactive : c.ds.clearCache.awaitAll.active conn = false :=
        DStream.awaitAll_active _ conn
      exact absurd (inactive.symm.trans active) (by simp)
    · next keeps => rw [if_neg keeps]; exact serving

theorem browserAck (serving : Serving start c []) (conn : Uuid) (sequence : Nat) :
    Serving start (c.browserAck conn sequence) [] := by
  refine serving.quiet (serving.stream.withSubscribers _) rfl rfl fun other active => ?_
  refine ⟨?_, rfl, rfl⟩
  unfold StreamCell.browserAck DStream.active at active
  dsimp only at active
  rw [FiniteMap.get?_modify] at active
  unfold DStream.active
  split at active
  · next same =>
    subst same
    cases sub : c.ds.subscribers.get? other with
    | none => rw [sub] at active; cases active
    | some s => rw [sub] at active; exact active
  · exact active

theorem dropSubscriber (serving : Serving start c []) (conn : Uuid) :
    Serving start (c.dropSubscriber conn) [] := by
  refine serving.quiet (serving.stream.withSubscribers _) rfl rfl fun other active => ?_
  refine ⟨?_, rfl, rfl⟩
  unfold StreamCell.dropSubscriber DStream.active at active
  dsimp only at active
  rw [FiniteMap.get?_erase] at active
  split at active
  · cases active
  · exact active

theorem relievePressure (serving : Serving start c []) :
    Serving start (c.relievePressure ctx) [] := by
  have cleared : Moved ctx Move.Proper c.ds c.ds.clearCache := Moved.clear trivial c.ds
  exact serving.notify c.ds.clearCache (serving.stream.moved cleared) rfl rfl rfl
    fun _ active => DStream.contains_of_active active

/-- What the snapshot of an upstream brings to one connection. -/
theorem snapshotPush (ctx : Ctx) {ds : DStream} (sound : c.ds.Sound) (ordered : ds.Sound)
    (some_ : ds.snapshots ≠ []) (streamId : ds.streamId = c.ds.streamId)
    (epoch : ds.epoch = c.ds.epoch) (nextSeq : ds.nextSeq = c.ds.nextSeq + 1) {frame : Frame}
    (belongs : Cursor.Belongs c.ds.streamId c.ds.epoch frame)
    (next : frame.sequence = c.ds.nextSeq) {conn : Uuid} {sub : SubscriberState}
    {bc : BrowserConn} (found : c.ds.subscribers.get? conn = some sub)
    (continuous : sub.awaitingSnapshot = true → ds.Continuous)
    (inOrder : Cursor.after c.ds.streamId bc.accepted ≠ .violated)
    (synced : c.ds.active conn = true → bc.closed = false →
      c.ds.UpTo (Cursor.after c.ds.streamId bc.accepted)) :
    let pushed := StreamCell.snapshotPush ctx ds frame conn sub bc
    Pushed c.ds.streamId bc pushed.1 ∧
      Cursor.after c.ds.streamId pushed.1.accepted ≠ .violated ∧
      (pushed.2 = true → ds.UpTo (Cursor.after c.ds.streamId pushed.1.accepted)) := by
  dsimp only
  unfold StreamCell.snapshotPush
  split
  · next awaits =>
    dsimp only
    rw [← streamId] at inOrder ⊢
    obtain ⟨kept, served⟩ := pushReplay_cursor ctx conn ordered (continuous awaits) some_
      sub.subscribeCorrelation inOrder
    exact ⟨Pushed.replay ctx conn (fun f member => ordered.window_belongs member) _ _ _ bc, kept,
      fun accepted => .inr (served accepted)⟩
  · next follows =>
    have active : c.ds.active conn = true := by simp [DStream.active, found, follows]
    have positive : 0 < c.ds.nextSeq := by rw [sound.numbered.nextSeq]; omega
    obtain ⟨kept, moved⟩ := pushNext_cursor ctx conn belongs next positive (synced active) inOrder
    refine ⟨Pushed.frame ctx conn belongs bc, kept, fun accepted => .inr ?_⟩
    rw [epoch, nextSeq, Nat.add_sub_cancel]
    exact moved (by simpa using accepted)

/-- A subscriber that is not among those to detach has not refused. -/
theorem not_refused {ds : DStream} {frame : Frame} {browsers : Browsers} {conn : Uuid}
    {bc : BrowserConn} {s : SubscriberState} (before : browsers.get? conn = some bc)
    (sub : ds.subscribers.get? conn = some s)
    (ahead : conn ∉ (browsers.toList.filter fun x => ((ds.subscribers.get? x.1).map fun sub =>
      StreamCell.snapshotPush ctx ds frame x.1 sub x.2).any fun r => !r.2).map (·.1)) :
    (StreamCell.snapshotPush ctx ds frame conn s bc).2 = true := by
  by_contra refused
  refine ahead (List.mem_map.mpr ⟨(conn, bc), List.mem_filter.mpr
    ⟨FiniteMap.mem_toList.mpr before, ?_⟩, rfl⟩)
  dsimp only
  rw [sub]
  simpa using refused

theorem orderSnapshot_snapshots (ctx : Ctx) (ds : DStream) (uid : String) (b : UpstreamBinding)
    (env : Envelope) : (ds.orderSnapshot ctx uid b env).snapshots ≠ [] := by
  unfold DStream.orderSnapshot DStream.cacheSnapshot
  dsimp only
  rw [ne_eq, List.drop_eq_nil_iff]
  simp only [List.length_append, List.length_singleton]
  have : 0 < snapshotCacheMax := by decide
  omega

/-- A snapshot of an upstream is served: those who wait for it need a window
without gaps. -/
theorem handleUpstreamSnapshot (serving : Serving start c [])
    (upstreamId : String) (env : Envelope) (isSnap : isSnapshot env = true)
    (continuous : ∀ b conn sub bc, c.ds.upstreams.get? upstreamId = some b →
      c.browsers.get? conn = some bc → c.ds.subscribers.get? conn = some sub →
      sub.awaitingSnapshot = true → (c.ds.orderSnapshot ctx upstreamId b env).Continuous) :
    Serving start (c.handleUpstreamSnapshot ctx upstreamId env) [] := by
  unfold StreamCell.handleUpstreamSnapshot
  cases bound : c.ds.upstreams.get? upstreamId with
  | none => exact serving
  | some binding =>
    have ordered := serving.stream.orderSnapshot ctx upstreamId binding isSnap
    unfold StreamCell.serveSnapshot
    dsimp only
    refine Serving.detach (serving.push (ordered.withSubscribers _) rfl fun conn bc' found => ?_)
    rw [FiniteMap.get?_mapVal] at found
    obtain ⟨bc, before, rfl⟩ := Option.map_eq_some_iff.mp found
    refine ⟨bc, before, ?_⟩
    have inOrder := serving.inOrder conn bc before
    have same : (c.ds.orderSnapshot ctx upstreamId binding env).subscribers.get? conn =
        c.ds.subscribers.get? conn := rfl
    rw [same]
    cases sub : c.ds.subscribers.get? conn with
    | none =>
      refine ⟨Pushed.refl, inOrder, fun _ active => ?_⟩
      have subscribed := DStream.contains_of_active active
      simp only [FiniteMap.contains, FiniteMap.get?_mapVal, Option.isSome_map] at subscribed
      rw [same, sub] at subscribed
      cases subscribed
    | some s =>
      have belongs : Cursor.Belongs c.ds.streamId c.ds.epoch (c.ds.snapshotFrame ctx env) :=
        ⟨rfl, rfl, by simp [carries, show isSnapshot (c.ds.snapshotFrame ctx env).env = true
          from isSnap]⟩
      obtain ⟨pushed, kept, upTo⟩ := snapshotPush ctx serving.stream ordered
        (orderSnapshot_snapshots ctx c.ds upstreamId binding env) rfl rfl rfl belongs rfl sub
        (continuous binding conn s bc bound before sub) inOrder
        (serving.synced conn bc before (by simp))
      exact ⟨pushed, kept, fun ahead _ _ =>
        upTo (not_refused before (same.trans sub) ahead)⟩

/-- The window is served to one subscriber who may be behind. -/
theorem serveReplay {conn : Uuid} (serving : Serving start c [conn])
    (continuous : c.ds.Continuous) (some_ : c.ds.snapshots ≠ [])
    (correlation : String) : Serving start (c.serveReplay ctx conn correlation) [] := by
  unfold StreamCell.serveReplay
  cases connected : c.browsers.get? conn with
  | none =>
    refine ⟨serving.stream, serving.streamId, serving.conns, serving.inOrder, ?_⟩
    intro other bc found _
    refine serving.synced other bc found ?_
    rintro (_ | ⟨_, ⟨⟩⟩)
    rw [connected] at found
    cases found
  | some bc =>
    have inOrder := serving.inOrder conn bc connected
    have pushed := Pushed.replay ctx conn (fun f member => serving.stream.window_belongs member)
      ctx.now c.ds.replayWindow.1 correlation bc
    obtain ⟨kept, reached⟩ := pushReplay_cursor ctx conn serving.stream continuous some_
      correlation inOrder
    dsimp only
    split
    · next served =>
      refine serving.push (serving.stream.withSubscribers _) rfl fun other bc' found => ?_
      dsimp only at found
      rw [FiniteMap.get?_insert] at found
      split at found
      · next same =>
        subst same
        cases found
        exact ⟨bc, connected, pushed, kept, fun _ _ _ => .inr (reached served)⟩
      · next differs =>
        refine ⟨bc', found, Pushed.refl, serving.inOrder other bc' found, fun _ active => ?_⟩
        refine serving.synced other bc' found (by simpa using differs) ?_
        unfold DStream.active at active ⊢
        dsimp only at active
        rwa [FiniteMap.get?_modify, if_neg differs] at active
    · refine Serving.detach (serving.push serving.stream rfl fun other bc' found => ?_)
      dsimp only at found
      rw [FiniteMap.get?_insert] at found
      split at found
      · next same =>
        subst same
        cases found
        exact ⟨bc, connected, pushed, kept, fun ahead => absurd List.mem_cons_self ahead⟩
      · next differs =>
        exact ⟨bc', found, Pushed.refl, serving.inOrder other bc' found,
          fun _ => serving.synced other bc' found (by simpa using differs)⟩

/-- With anybody behind, less is known. -/
theorem weaken (serving : Serving start c []) (behind : List Uuid) : Serving start c behind :=
  ⟨serving.stream, serving.streamId, serving.conns, serving.inOrder,
    fun conn bc found _ => serving.synced conn bc found (by simp)⟩

theorem attachSubscriber (serving : Serving start c [])
    (conn : Uuid) (correlation : String)
    (continuous : c.browsers.contains conn = true → c.ds.snapshots ≠ [] → c.ds.Continuous) :
    Serving start (c.attachSubscriber ctx conn correlation) [] := by
  unfold StreamCell.attachSubscriber
  split
  · next connected =>
    dsimp only
    -- the new subscriber is the only one who may be behind
    have attached (s : SubscriberState) (behind : List Uuid)
        (waits : s.awaitingSnapshot = true ∨ conn ∈ behind) :
        Serving start { c with ds := { c.ds with
          subscribers := c.ds.subscribers.insert conn s } } behind := by
      refine ⟨serving.stream.withSubscribers _, serving.streamId, serving.conns, serving.inOrder,
        ?_⟩
      intro other bc found ahead active isOpen
      refine serving.synced other bc found (by simp) ?_ isOpen
      unfold DStream.active at active ⊢
      dsimp only at active
      rw [FiniteMap.get?_insert] at active
      split at active
      · next same =>
        subst same
        rcases waits with awaiting | behind_
        · simp [awaiting] at active
        · exact absurd behind_ ahead
      · exact active
    split
    · next hasSnapshot =>
      have some_ : c.ds.snapshots ≠ [] := by simpa using hasSnapshot
      refine Serving.serveReplay (attached _ [conn] (.inr List.mem_cons_self)) ?_ some_ _
      exact continuous connected some_
    · next noSnapshot => exact attached _ [] (.inl (by simpa using noSnapshot))
  · exact serving

theorem browserResync (serving : Serving start c [])
    (conn : Uuid) (correlation : String)
    (continuous : c.ds.subscribers.contains conn = true → c.ds.key.2 = .list →
      c.ds.snapshots ≠ [] → c.ds.Continuous) :
    Serving start (c.browserResync ctx conn correlation) [] := by
  unfold StreamCell.browserResync
  split
  · next subscribed =>
    split
    · have refreshed : Moved ctx Move.Proper c.ds (c.ds.refreshSnapshotEnvs ctx.now false).1 :=
        StreamCell.refresh_moved properMoves false c.ds
      refine serving.quiet (serving.stream.moved refreshed) rfl rfl fun other active => ?_
      have inactive : (c.ds.refreshSnapshotEnvs ctx.now false).1.active other = false :=
        DStream.awaitAll_active _ other
      exact absurd (inactive.symm.trans active) (by simp)
    · next serves =>
      rw [not_or] at serves
      have some_ : c.ds.snapshots ≠ [] := by simpa using serves.2
      exact Serving.serveReplay (serving.weaken [conn])
        (continuous subscribed (not_not.mp serves.1) some_) some_ _
  · exact serving

end Serving

end AgentConsole.Relay
