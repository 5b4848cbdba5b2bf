import AgentConsole.Relay.Hub

/-! # What a step does to a stream

`Move` lists the elementary changes of a `DStream`.  Every stream operation is
a sequence of moves, and so is the effect of every hub step on every stream;
`HubStep.Allows` says which moves a given step can make.  An invariant of
streams is therefore checked once per move, by `Moved.invariant`, and not once
per operation. -/

namespace AgentConsole.Relay

open AgentConsole.Lib

/-! ## Moves -/

inductive Move where
  | resubscribe
  | clear
  | advance
  | rebind (added : List String)
  | announce (upstreamId : String) (sub : Subscribed)
  | watermark (upstreamId : String) (sequence : Nat)
  | stash (batch : PendingUpstreamBatch)
  | event (env : Envelope) (event : Event)
  | presence (device : Uuid) (online : Bool)
  | snapshot (upstreamId : String) (env : Envelope)

/-- The Relay's own changes of the bindings: it adds fresh ones, forgets what it
knew, waits for a snapshot again, or drops bindings. -/
def Rebinds (added : List String) (ups ups' : FiniteMap String UpstreamBinding) : Prop :=
  ∀ uid b', ups'.get? uid = some b' →
    (b' = .fresh b'.device ∧ (uid ∈ added ∨ ∃ b, ups.get? uid = some b)) ∨
    ∃ b, ups.get? uid = some b ∧ (b' = b ∨ b' = { b with snapshotReceived := false })

namespace DStream

/-- The bindings after an upstream `Subscribed`. -/
def announced (upstreamId : String) (binding : UpstreamBinding) (sub : Subscribed)
    (ds : DStream) : DStream :=
  { ds with
    upstreams := ds.upstreams.insert upstreamId { binding with
      epoch := sub.streamEpoch
      lastSeq := sub.baseSequence - 1
      snapshotCovers := sub.baseSequence
      snapshotReceived := false } }

/-- Number and buffer the frame of one event. -/
def emit (ctx : Ctx) (env : Envelope) (ds : DStream) (event : Event) : DStream :=
  (ds.number ctx (ds.eventFrame ctx env event)).1

end DStream

/-- `m.Does ctx ds ds'`: the move `m` takes the stream from `ds` to `ds'`. -/
def Move.Does (ctx : Ctx) (ds ds' : DStream) : Move → Prop
  | .resubscribe => ∃ subs, ds' = { ds with subscribers := subs }
  | .clear => ds' = ds.clearCache
  | .advance =>
    ds.snapshots = [] ∧ ds.buffer.items = [] ∧ ds' = { ds with epoch := ds.epoch + 1 }
  | .rebind added => ∃ ups, Rebinds added ds.upstreams ups ∧ ds' = { ds with upstreams := ups }
  | .announce uid sub => ∃ b, ds.upstreams.get? uid = some b ∧ ds' = ds.announced uid b sub
  | .watermark uid sequence =>
    ∃ b, ds.upstreams.get? uid = some b ∧
      ds' = { ds with upstreams := ds.upstreams.insert uid { b with lastSeq := sequence } }
  | .stash batch =>
    (∃ b, ds.upstreams.get? batch.upstreamId = some b) ∧
      ds' = (ds.pushPending ctx.codec batch).1
  | .event env e => ds' = ds.emit ctx env e
  | .presence device online => ds' = (ds.number ctx (ds.presenceFrame ctx device online)).1
  | .snapshot uid env =>
    ∃ b, ds.upstreams.get? uid = some b ∧ ds' = ds.orderSnapshot ctx uid b env

/-- `ds'` is reached from `ds` by moves that satisfy `allowed`. -/
def Moved (ctx : Ctx) (allowed : Move → Prop) : DStream → DStream → Prop :=
  Relation.ReflTransGen fun ds ds' => ∃ m : Move, allowed m ∧ m.Does ctx ds ds'

namespace Moved

variable {ctx : Ctx} {allowed : Move → Prop} {ds mid ds' : DStream}

theorem refl : Moved ctx allowed ds ds := Relation.ReflTransGen.refl

theorem trans (first : Moved ctx allowed ds mid) (rest : Moved ctx allowed mid ds') :
    Moved ctx allowed ds ds' :=
  Relation.ReflTransGen.trans first rest

theorem one (m : Move) (may : allowed m) (does : m.Does ctx ds ds') : Moved ctx allowed ds ds' :=
  Relation.ReflTransGen.single ⟨m, may, does⟩

/-- What every allowed move preserves, the whole sequence preserves. -/
theorem invariant {P : DStream → Prop}
    (preserved : ∀ m ds ds', allowed m → Move.Does ctx ds ds' m → P ds → P ds')
    (moved : Moved ctx allowed ds ds') (holds : P ds) : P ds' := by
  induction moved with
  | refl => exact holds
  | tail _ last inductionHypothesis =>
    obtain ⟨m, may, does⟩ := last
    exact preserved m _ _ may does inductionHypothesis

theorem resubscribe (may : allowed .resubscribe) (subs : FiniteMap Uuid SubscriberState) :
    Moved ctx allowed ds { ds with subscribers := subs } :=
  one .resubscribe may ⟨subs, rfl⟩

theorem clear (may : allowed .clear) (ds : DStream) : Moved ctx allowed ds ds.clearCache :=
  one .clear may (by rfl)

theorem rebind {added : List String} (may : allowed (.rebind added))
    {ups : FiniteMap String UpstreamBinding} (rebinds : Rebinds added ds.upstreams ups) :
    Moved ctx allowed ds { ds with upstreams := ups } :=
  one (.rebind added) may ⟨ups, rebinds, rfl⟩

theorem event (env : Envelope) (event : Event) (may : allowed (.event env event))
    (ds : DStream) : Moved ctx allowed ds (ds.emit ctx env event) :=
  one (.event env event) may (by rfl)

end Moved

/-! ## Stashing -/

namespace DStream

/-- Stashing changes nothing but the stash and its counters. -/
theorem evictPendingLoop_frame (codec : Codec) (rounds : Nat) (ds : DStream) :
    ∃ batches events bytes, (evictPendingLoop codec rounds ds).1 =
      { ds with pendingBatches := batches, pendingEvents := events, pendingBytes := bytes } := by
  induction rounds generalizing ds with
  | zero => exact ⟨_, _, _, rfl⟩
  | succ rounds inductionHypothesis =>
    unfold evictPendingLoop
    split
    · exact ⟨_, _, _, rfl⟩
    · split
      · exact ⟨_, _, _, rfl⟩
      · obtain ⟨batches, events, bytes, same⟩ := inductionHypothesis _
        exact ⟨batches, events, bytes, same⟩

theorem pushPending_frame (codec : Codec) (ds : DStream) (batch : PendingUpstreamBatch) :
    ∃ batches events bytes, (ds.pushPending codec batch).1 =
      { ds with pendingBatches := batches, pendingEvents := events, pendingBytes := bytes } :=
  evictPendingLoop_frame codec _ _

@[simp] theorem pushPending_upstreams (codec : Codec) (ds : DStream)
    (batch : PendingUpstreamBatch) :
    (ds.pushPending codec batch).1.upstreams = ds.upstreams := by
  obtain ⟨_, _, _, same⟩ := pushPending_frame codec ds batch
  rw [same]

end DStream

/-! ## Moves of the stream operations -/

namespace StreamCell

variable {ctx : Ctx} {allowed : Move → Prop}

/-- The moves the Relay makes by itself, on any stream. -/
structure RelayMoves (allowed : Move → Prop) : Prop where
  resubscribe : allowed .resubscribe
  clear : allowed .clear
  rebind : allowed (.rebind [])

theorem detachFailed_moved (may : allowed .resubscribe) (conns : List Uuid) (c : StreamCell) :
    Moved ctx allowed c.ds (c.detachFailed ctx conns).ds :=
  Moved.resubscribe may _

theorem awaitAll_moved (may : allowed .resubscribe) (ds : DStream) :
    Moved ctx allowed ds ds.awaitAll :=
  Moved.resubscribe may _

theorem refresh_moved (may : RelayMoves allowed) (force : Bool) (ds : DStream) :
    Moved ctx allowed ds (ds.refreshSnapshotEnvs ctx.now force).1 := by
  refine Moved.trans (Moved.clear may.clear ds) ?_
  refine Moved.trans (awaitAll_moved may.resubscribe _) (Moved.rebind may.rebind ?_)
  intro uid b' found
  rw [FiniteMap.get?_mapVal] at found
  obtain ⟨b, bound, replaced⟩ := Option.map_eq_some_iff.mp found
  by_cases stale : (force || b.snapshotReceived) = true
  · rw [if_pos stale] at replaced
    subst replaced
    exact .inl ⟨rfl, .inr ⟨b, bound⟩⟩
  · rw [if_neg stale] at replaced
    subst replaced
    exact .inr ⟨b, bound, .inl rfl⟩

/-- Emitting events changes the stream as `DStream.emit` does, whatever the
queues of the subscribers answer. -/
theorem emitEvent_ds (env : Envelope) (acc : StreamCell × List Uuid) (event : Event) :
    (emitEvent ctx env acc event).1.ds = acc.1.ds.emit ctx env event := by
  unfold emitEvent DStream.emit
  dsimp only
  split <;> rfl

theorem foldl_emitEvent_ds (env : Envelope) (events : List Event) (acc : StreamCell × List Uuid) :
    (events.foldl (emitEvent ctx env) acc).1.ds =
      events.foldl (DStream.emit ctx env) acc.1.ds := by
  induction events generalizing acc with
  | nil => rfl
  | cons event rest inductionHypothesis =>
    rw [List.foldl_cons, inductionHypothesis, emitEvent_ds, List.foldl_cons]

theorem foldl_emit_moved (env : Envelope) (events : List Event)
    (may : ∀ event ∈ events, allowed (.event env event)) (ds : DStream) :
    Moved ctx allowed ds (events.foldl (DStream.emit ctx env) ds) := by
  induction events generalizing ds with
  | nil => exact Moved.refl
  | cons event rest inductionHypothesis =>
    have first := may event List.mem_cons_self
    exact (Moved.event env event first ds).trans <|
      inductionHypothesis (fun e member => may e (List.mem_cons_of_mem _ member)) _

theorem stash_moved (relay : RelayMoves allowed) (batch : PendingUpstreamBatch)
    (may : allowed (.stash batch)) (c : StreamCell)
    (bound : ∃ b, c.ds.upstreams.get? batch.upstreamId = some b) :
    Moved ctx allowed c.ds (c.stash ctx batch).ds := by
  have pushed : Moved ctx allowed c.ds (c.ds.pushPending ctx.codec batch).1 :=
    Moved.one (.stash batch) may ⟨bound, rfl⟩
  unfold stash
  dsimp only
  split
  · exact pushed.trans (refresh_moved relay true _)
  · exact pushed

/-- The moves of a batch that `fan_out_events` is called with. -/
structure BatchMoves (allowed : Move → Prop) (upstreamId : String) (env : Envelope)
    (events : List Event) : Prop extends RelayMoves allowed where
  watermark : env.sequence ≠ 0 → allowed (.watermark upstreamId env.sequence)
  stash : allowed (.stash ⟨upstreamId, env.sequence, env.sentAt, env.deviceId, events⟩)
  event : ∀ event ∈ events, allowed (.event env event)

theorem fanOutEvents_moved (upstreamId : String) (env : Envelope) (events : List Event)
    (may : BatchMoves allowed upstreamId env events) (c : StreamCell) :
    Moved ctx allowed c.ds (c.fanOutEvents ctx upstreamId env events).ds := by
  unfold fanOutEvents
  cases bound : c.ds.upstreams.get? upstreamId with
  | none => exact Moved.refl
  | some binding =>
    dsimp only
    split
    · exact Moved.refl
    split
    · exact Moved.refl
    split
    · exact stash_moved may.toRelayMoves _ may.stash c ⟨binding, bound⟩
    · refine Moved.trans ?_ (detachFailed_moved may.resubscribe _ _)
      rw [foldl_emitEvent_ds]
      refine Moved.trans ?_ (foldl_emit_moved env events may.event _)
      by_cases numbered : env.sequence ≠ 0
      · rw [if_pos numbered]
        exact Moved.one (.watermark upstreamId env.sequence) (may.watermark numbered)
          ⟨binding, bound, rfl⟩
      · rw [if_neg numbered]
        -- the binding is written back as it was
        refine Moved.rebind may.rebind ?_
        intro uid b' found
        rw [FiniteMap.get?_insert] at found
        split at found
        · next same =>
          subst same
          cases found
          exact .inr ⟨binding, bound, .inl rfl⟩
        · exact .inr ⟨b', found, .inl rfl⟩

theorem foldl_modify_fresh_get? (tag : TargetTag) (devices : List Uuid)
    (ups : FiniteMap String UpstreamBinding) (uid : String) (b' : UpstreamBinding)
    (found : (devices.foldl (fun ups device =>
      ups.modify (upstreamStreamId device tag) fun b => .fresh b.device) ups).get? uid = some b') :
    ∃ b, ups.get? uid = some b ∧ (b' = b ∨ b' = .fresh b.device) := by
  induction devices generalizing ups with
  | nil => exact ⟨b', found, .inl rfl⟩
  | cons device rest inductionHypothesis =>
    obtain ⟨b, bound, kept⟩ := inductionHypothesis _ found
    rw [FiniteMap.get?_modify] at bound
    split at bound
    · next same =>
      subst same
      obtain ⟨original, before, rfl⟩ := Option.map_eq_some_iff.mp bound
      refine ⟨original, before, .inr ?_⟩
      rcases kept with rfl | rfl <;> rfl
    · exact ⟨b, bound, kept⟩

theorem handleUpstreamSubscribed_moved (relay : RelayMoves allowed) (advance : allowed .advance)
    (upstreamId : String) (sub : Subscribed) (may : allowed (.announce upstreamId sub))
    (c : StreamCell) :
    Moved ctx allowed c.ds (c.handleUpstreamSubscribed ctx upstreamId sub).ds := by
  unfold handleUpstreamSubscribed
  cases bound : c.ds.upstreams.get? upstreamId with
  | none => exact Moved.refl
  | some binding =>
    have announced : Moved ctx allowed c.ds (c.ds.announced upstreamId binding sub) :=
      Moved.one (.announce upstreamId sub) may ⟨binding, bound, rfl⟩
    dsimp only
    split
    · exact announced
    · refine announced.trans ?_
      refine Moved.trans (Moved.clear relay.clear _) ?_
      refine Moved.trans (awaitAll_moved relay.resubscribe _) ?_
      refine Moved.trans (Moved.one .advance advance ⟨rfl, rfl, rfl⟩)
        (Moved.rebind relay.rebind ?_)
      intro uid b' found
      obtain ⟨b, before, rfl | rfl⟩ := foldl_modify_fresh_get? _ _ _ _ _ found
      · exact .inr ⟨b', before, .inl rfl⟩
      · exact .inl ⟨rfl, .inr ⟨b, before⟩⟩

theorem handleUpstreamSnapshot_moved (resubscribe : allowed .resubscribe) (upstreamId : String)
    (env : Envelope) (may : allowed (.snapshot upstreamId env)) (c : StreamCell) :
    Moved ctx allowed c.ds (c.handleUpstreamSnapshot ctx upstreamId env).ds := by
  unfold handleUpstreamSnapshot
  cases bound : c.ds.upstreams.get? upstreamId with
  | none => exact Moved.refl
  | some binding =>
    refine (Moved.one (.snapshot upstreamId env) may ⟨binding, bound, rfl⟩).trans ?_
    exact (Moved.resubscribe resubscribe _).trans (Moved.resubscribe resubscribe _)

theorem handleResyncRequired_moved (relay : RelayMoves allowed) (sender : Uuid)
    (upstreamId : String) (c : StreamCell) :
    Moved ctx allowed c.ds (c.handleResyncRequired ctx sender upstreamId).ds := by
  unfold handleResyncRequired
  cases bound : c.ds.upstreams.get? upstreamId with
  | none => exact Moved.refl
  | some binding =>
    refine Moved.rebind relay.rebind ?_
    intro uid b' found
    rw [FiniteMap.get?_insert] at found
    split at found
    · next same =>
      subst same
      cases found
      exact .inr ⟨binding, bound, .inr rfl⟩
    · exact .inr ⟨b', found, .inl rfl⟩

theorem fanOutPresence_moved (resubscribe : allowed .resubscribe) (device : Uuid) (online : Bool)
    (may : allowed (.presence device online)) (c : StreamCell) :
    Moved ctx allowed c.ds (c.fanOutPresence ctx device online).ds := by
  unfold fanOutPresence
  split
  · exact Moved.refl
  · refine Moved.trans ?_ (detachFailed_moved resubscribe _ _)
    exact Moved.one (.presence device online) may (by rfl)

theorem bindUpstream_moved (device : Uuid) (tag : TargetTag)
    (may : allowed (.rebind [upstreamStreamId device tag])) (c : StreamCell) :
    Moved ctx allowed c.ds (c.bindUpstream ctx device tag).ds := by
  unfold bindUpstream
  dsimp only
  split
  · exact Moved.refl
  · refine Moved.rebind may ?_
    intro uid b' found
    rw [FiniteMap.get?_insert] at found
    split at found
    · next same =>
      subst same
      cases found
      exact .inl ⟨rfl, .inl List.mem_cons_self⟩
    · exact .inr ⟨b', found, .inl rfl⟩

theorem subscribeUpstream_moved (relay : RelayMoves allowed) (need : Uuid × TargetTag)
    (may : allowed (.rebind [upstreamStreamId need.1 need.2])) (c : StreamCell) :
    Moved ctx allowed c.ds (c.subscribeUpstream ctx need).ds := by
  obtain ⟨device, tag⟩ := need
  unfold subscribeUpstream
  dsimp only
  cases bound : c.ds.upstreams.get? (upstreamStreamId device tag) with
  | none => exact bindUpstream_moved device tag may c
  | some binding =>
    dsimp only
    split
    · refine Moved.trans (Moved.clear relay.clear c.ds) ?_
      refine Moved.trans (awaitAll_moved relay.resubscribe _) (Moved.rebind may ?_)
      intro uid b' found
      rw [FiniteMap.get?_insert] at found
      split at found
      · next same =>
        subst same
        cases found
        exact .inl ⟨rfl, .inl List.mem_cons_self⟩
      · exact .inr ⟨b', found, .inl rfl⟩
    · exact Moved.refl

theorem serveReplay_moved (may : allowed .resubscribe) (conn : Uuid) (correlation : String)
    (c : StreamCell) : Moved ctx allowed c.ds (c.serveReplay ctx conn correlation).ds := by
  unfold serveReplay
  cases c.browsers.get? conn with
  | none => exact Moved.refl
  | some bc =>
    dsimp only
    split
    · exact Moved.resubscribe may _
    · exact detachFailed_moved may _ _

theorem attachSubscriber_moved (may : allowed .resubscribe) (conn : Uuid) (correlation : String)
    (c : StreamCell) : Moved ctx allowed c.ds (c.attachSubscriber ctx conn correlation).ds := by
  unfold attachSubscriber
  split
  · dsimp only
    split
    · refine Moved.trans ?_ (serveReplay_moved may conn correlation _)
      exact Moved.resubscribe may _
    · exact Moved.resubscribe may _
  · exact Moved.refl

theorem browserResync_moved (relay : RelayMoves allowed) (conn : Uuid) (correlation : String)
    (c : StreamCell) : Moved ctx allowed c.ds (c.browserResync ctx conn correlation).ds := by
  unfold browserResync
  split
  · split
    · exact refresh_moved relay false c.ds
    · exact serveReplay_moved relay.resubscribe conn correlation c
  · exact Moved.refl

end StreamCell

/-! ## Moves of the hub -/

/-- The events a Bridge envelope brings, if it is an event batch. -/
def batchEvents (env : Envelope) : Option (List Event) :=
  match env.payload with
  | some (.sessionSummaryBatch batch) =>
    if batch.snapshot then none else some (batch.summaries.map .sessionSummaryChanged)
  | some (.eventBatch batch) => some (batch.events.filterMap (·.event))
  | _ => none

/-- The envelope is a snapshot of its stream. -/
def isSnapshot (env : Envelope) : Bool :=
  match env.payload with
  | some (.runtimeSnapshot _) => true
  | some (.sessionSummaryBatch batch) => batch.snapshot
  | _ => false

theorem HubInner.handleBridgeEnvelope_batch (ctx : Ctx) (device : Uuid) (env : Envelope)
    (events : List Event) (isBatch : batchEvents env = some events) (h : HubInner) :
    h.handleBridgeEnvelope ctx device env = h.fanOutEvents ctx env.streamId env events := by
  unfold batchEvents at isBatch
  unfold handleBridgeEnvelope
  split at isBatch
  · next batch payload =>
    rw [payload]
    split at isBatch
    · cases isBatch
    · next incremental => cases isBatch; exact if_neg incremental
  · next batch payload => rw [payload]; cases isBatch; rfl
  · cases isBatch

theorem HubInner.handleBridgeEnvelope_snapshot (ctx : Ctx) (device : Uuid) (env : Envelope)
    (isSnap : isSnapshot env = true) (h : HubInner) :
    h.handleBridgeEnvelope ctx device env = h.handleUpstreamSnapshot ctx env.streamId env := by
  unfold isSnapshot at isSnap
  unfold handleBridgeEnvelope
  split at isSnap
  · next snapshot payload => rw [payload]
  · next batch payload => rw [payload]; exact if_pos isSnap
  · cases isSnap

namespace HubStep

/-- `fan_out_events` is called in this step: for a batch that arrives, or for
one that a snapshot flushes from the stash. -/
inductive Delivers (h : HubInner) (s : HubStep) : String → Envelope → List Event → Prop
  | arrives (device : Uuid) (env : Envelope) (events : List Event) :
      s.op = .bridgeEnvelope device env → batchEvents env = some events →
      Delivers h s env.streamId env events
  | flushed (device : Uuid) (env : Envelope) (key : DKey) (batch : PendingUpstreamBatch) :
      s.op = .bridgeEnvelope device env → isSnapshot env = true →
      h.upstreamIndex.get? env.streamId = some key → batch ∈ h.takenStash key env.streamId →
      Delivers h s batch.upstreamId (HubInner.stashedEnv s.ctx.now batch) batch.events

/-- The step may bind the upstream `uid` to the stream at `key`. -/
def Binds (s : HubStep) (key : DKey) (uid : String) : Prop :=
  (∃ conn needs fresh device tag, s.op = .subscribeBind conn key needs fresh ∧
    (device, tag) ∈ needs ∧ uid = upstreamStreamId device tag) ∨
  (∃ device owner, s.op = .ensureBindings device owner ∧
    HubInner.shows device owner key = true ∧ uid = upstreamStreamId device key.2)

/-- The moves a step can make on the stream at `key`. -/
inductive Allows (h : HubInner) (s : HubStep) (key : DKey) : Move → Prop
  | resubscribe : Allows h s key .resubscribe
  | clear : Allows h s key .clear
  | rebind (added : List String) (binds : ∀ uid ∈ added, s.Binds key uid) :
      Allows h s key (.rebind added)
  | advance (device : Uuid) (env : Envelope) (sub : Subscribed)
      (op : s.op = .bridgeEnvelope device env) (payload : env.payload = some (.subscribed sub)) :
      Allows h s key .advance
  | announce (device : Uuid) (env : Envelope) (sub : Subscribed)
      (op : s.op = .bridgeEnvelope device env) (payload : env.payload = some (.subscribed sub))
      (routed : h.upstreamIndex.get? env.streamId = some key) :
      Allows h s key (.announce env.streamId sub)
  | watermark (uid : String) (env : Envelope) (events : List Event)
      (delivers : Delivers h s uid env events) (routed : h.upstreamIndex.get? uid = some key) :
      Allows h s key (.watermark uid env.sequence)
  | stash (uid : String) (env : Envelope) (events : List Event)
      (delivers : Delivers h s uid env events) (routed : h.upstreamIndex.get? uid = some key) :
      Allows h s key (.stash ⟨uid, env.sequence, env.sentAt, env.deviceId, events⟩)
  | event (uid : String) (env : Envelope) (events : List Event) (e : Event)
      (delivers : Delivers h s uid env events) (routed : h.upstreamIndex.get? uid = some key)
      (member : e ∈ events) :
      Allows h s key (.event env e)
  | presence (device owner : Uuid) (online : Bool)
      (op : s.op = .fanOutPresence device owner online) (list : key = (owner, .list)) :
      Allows h s key (.presence device online)
  | snapshot (device : Uuid) (env : Envelope) (op : s.op = .bridgeEnvelope device env)
      (isSnap : isSnapshot env = true) (routed : h.upstreamIndex.get? env.streamId = some key) :
      Allows h s key (.snapshot env.streamId env)

theorem Allows.relayMoves {h : HubInner} {s : HubStep} {key : DKey} :
    StreamCell.RelayMoves (Allows h s key) where
  resubscribe := .resubscribe
  clear := .clear
  rebind := .rebind [] (by simp)

theorem Delivers.batchMoves {h : HubInner} {s : HubStep} {key : DKey} {uid : String}
    {env : Envelope} {events : List Event} (delivers : Delivers h s uid env events)
    (routed : h.upstreamIndex.get? uid = some key) :
    StreamCell.BatchMoves (Allows h s key) uid env events where
  toRelayMoves := Allows.relayMoves
  watermark _ := .watermark uid env events delivers routed
  stash := .stash uid env events delivers routed
  event e member := .event uid env events e delivers routed member

end HubStep

namespace HubInner

/-- Every stream of `h'` comes from the stream at the same key in `h`, or from a
new one, by allowed moves. -/
def StreamsMoved (ctx : Ctx) (allowed : DKey → Move → Prop) (h h' : HubInner) : Prop :=
  ∀ key ds', h'.streams.get? key = some ds' →
    ∃ ds, Moved ctx (allowed key) ds ds' ∧
      (h.streams.get? key = some ds ∨ ∃ fresh, ds = .new key fresh)

variable {ctx : Ctx} {allowed : DKey → Move → Prop} {h mid h' : HubInner}

theorem StreamsMoved.of_streams_eq (same : h'.streams = h.streams) :
    StreamsMoved ctx allowed h h' := by
  intro key ds' found
  exact ⟨ds', Moved.refl, .inl (same ▸ found)⟩

theorem StreamsMoved.trans (first : StreamsMoved ctx allowed h mid)
    (rest : StreamsMoved ctx allowed mid h') : StreamsMoved ctx allowed h h' := by
  intro key ds' found
  obtain ⟨between, moved, origin⟩ := rest key ds' found
  rcases origin with before | created
  · obtain ⟨ds, earlier, start⟩ := first key between before
    exact ⟨ds, earlier.trans moved, start⟩
  · exact ⟨between, moved, .inr created⟩

/-- A fold of sections that make only allowed moves while `keeps` holds, and
that preserve it. -/
theorem StreamsMoved.foldl {α : Type} (f : HubInner → α → HubInner) (items : List α)
    (keeps : HubInner → Prop)
    (each : ∀ h, keeps h → ∀ a ∈ items, keeps (f h a) ∧ StreamsMoved ctx allowed h (f h a))
    (h : HubInner) (start : keeps h) : StreamsMoved ctx allowed h (items.foldl f h) := by
  induction items generalizing h with
  | nil => exact .of_streams_eq rfl
  | cons a rest inductionHypothesis =>
    obtain ⟨kept, moved⟩ := each h start a List.mem_cons_self
    refine moved.trans (inductionHypothesis ?_ _ kept)
    exact fun h holds b member => each h holds b (List.mem_cons_of_mem _ member)

/-! ### Sections that leave the streams alone -/

@[simp] theorem sendToBridge_streams (device : Uuid) (env : Envelope) (h : HubInner) :
    (h.sendToBridge ctx device env).1.streams = h.streams := by
  unfold sendToBridge; split <;> rfl

@[simp] theorem sendToBridge_upstreamIndex (device : Uuid) (env : Envelope) (h : HubInner) :
    (h.sendToBridge ctx device env).1.upstreamIndex = h.upstreamIndex := by
  unfold sendToBridge; split <;> rfl

@[simp] theorem sendAll_streams (envs : List (Uuid × Envelope)) (h : HubInner) :
    (h.sendAll ctx envs).streams = h.streams := by
  unfold sendAll
  induction envs generalizing h with
  | nil => rfl
  | cons e rest inductionHypothesis => simp [inductionHypothesis]

@[simp] theorem sendAll_upstreamIndex (envs : List (Uuid × Envelope)) (h : HubInner) :
    (h.sendAll ctx envs).upstreamIndex = h.upstreamIndex := by
  unfold sendAll
  induction envs generalizing h with
  | nil => rfl
  | cons e rest inductionHypothesis => simp [inductionHypothesis]

@[simp] theorem foldl_abandonCommand_streams (pending : List (String × PendingCommand))
    (h : HubInner) : (pending.foldl (abandonCommand ctx) h).streams = h.streams := by
  induction pending generalizing h with
  | nil => rfl
  | cons e rest inductionHypothesis => exact inductionHypothesis _

@[simp] theorem foldl_abandonCommand_upstreamIndex (pending : List (String × PendingCommand))
    (h : HubInner) : (pending.foldl (abandonCommand ctx) h).upstreamIndex = h.upstreamIndex := by
  induction pending generalizing h with
  | nil => rfl
  | cons e rest inductionHypothesis => exact inductionHypothesis _

/-! ### Sections that work on one stream -/

theorem updateStream_streams_get? (key : DKey) (op : StreamCell → StreamCell) (h : HubInner)
    (k : DKey) :
    (h.updateStream key op).1.streams.get? k =
      if k = key then (h.streams.get? key).map fun ds => (op (.ofStream ds h.browsers)).ds
      else h.streams.get? k := by
  unfold updateStream
  cases found : h.streams.get? key with
  | none =>
    by_cases same : k = key
    · simp [same, found]
    · simp [same]
  | some ds => simp [FiniteMap.get?_insert]

@[simp] theorem updateStream_upstreamIndex (key : DKey) (op : StreamCell → StreamCell)
    (h : HubInner) : (h.updateStream key op).1.upstreamIndex = h.upstreamIndex := by
  unfold updateStream; split <;> rfl

theorem onStream_streams_get? (key : DKey) (op : StreamCell → StreamCell) (h : HubInner)
    (k : DKey) :
    (h.onStream ctx key op).streams.get? k =
      if k = key then (h.streams.get? key).map fun ds => (op (.ofStream ds h.browsers)).ds
      else h.streams.get? k := by
  unfold onStream
  rw [sendAll_streams, updateStream_streams_get?]

@[simp] theorem onStream_upstreamIndex (key : DKey) (op : StreamCell → StreamCell)
    (h : HubInner) : (h.onStream ctx key op).upstreamIndex = h.upstreamIndex := by
  unfold onStream
  rw [sendAll_upstreamIndex, updateStream_upstreamIndex]

@[simp] theorem onUpstream_upstreamIndex (uid : String) (op : StreamCell → StreamCell)
    (h : HubInner) : (h.onUpstream ctx uid op).upstreamIndex = h.upstreamIndex := by
  unfold onUpstream; split <;> simp

theorem updateStream_moved (key : DKey) (op : StreamCell → StreamCell)
    (moves : ∀ c : StreamCell, Moved ctx (allowed key) c.ds (op c).ds) (h : HubInner) :
    StreamsMoved ctx allowed h (h.updateStream key op).1 := by
  intro k ds' found
  rw [updateStream_streams_get?] at found
  split at found
  · next same =>
    subst same
    obtain ⟨ds, before, rfl⟩ := Option.map_eq_some_iff.mp found
    exact ⟨ds, moves (.ofStream ds h.browsers), .inl before⟩
  · exact ⟨ds', Moved.refl, .inl found⟩

theorem onStream_moved (key : DKey) (op : StreamCell → StreamCell)
    (moves : ∀ c : StreamCell, Moved ctx (allowed key) c.ds (op c).ds) (h : HubInner) :
    StreamsMoved ctx allowed h (h.onStream ctx key op) :=
  (updateStream_moved key op moves h).trans <| .of_streams_eq (sendAll_streams _ _)

theorem onUpstream_moved (uid : String) (op : StreamCell → StreamCell)
    (moves : ∀ key, h.upstreamIndex.get? uid = some key →
      ∀ c : StreamCell, Moved ctx (allowed key) c.ds (op c).ds) :
    StreamsMoved ctx allowed h (h.onUpstream ctx uid op) := by
  unfold onUpstream
  cases routed : h.upstreamIndex.get? uid with
  | none => exact .of_streams_eq rfl
  | some key => exact onStream_moved key op (moves key routed) h

theorem ensureStream_moved (key : DKey) (fresh : Uuid) (h : HubInner) :
    StreamsMoved ctx allowed h (h.ensureStream key fresh) := by
  unfold ensureStream
  split
  · exact .of_streams_eq rfl
  · intro k ds' found
    rw [FiniteMap.get?_insert] at found
    split at found
    · next same =>
      cases found
      exact ⟨_, Moved.refl, .inr ⟨fresh, same ▸ rfl⟩⟩
    · exact ⟨ds', Moved.refl, .inl found⟩

@[simp] theorem ensureStream_upstreamIndex (key : DKey) (fresh : Uuid) (h : HubInner) :
    (h.ensureStream key fresh).upstreamIndex = h.upstreamIndex := by
  unfold ensureStream; split <;> rfl

theorem detachSubscriber_moved (may : ∀ key, allowed key .resubscribe) (conn : Uuid)
    (h : HubInner) : StreamsMoved ctx allowed h (h.detachSubscriber conn) := by
  unfold detachSubscriber
  cases h.browserStreams.get? conn with
  | none => exact .of_streams_eq rfl
  | some keys =>
    dsimp only
    -- each key of the connection drops it from one subscriber table
    have dropped : ∀ streams : FiniteMap DKey DStream, ∀ key ds',
        (keys.foldl (fun streams key => streams.modify key fun ds =>
          { ds with subscribers := ds.subscribers.erase conn }) streams).get? key = some ds' →
        ∃ ds, Moved ctx (allowed key) ds ds' ∧ streams.get? key = some ds := by
      induction keys with
      | nil => exact fun _ key ds' found => ⟨ds', Moved.refl, found⟩
      | cons first rest inductionHypothesis =>
        intro streams key ds' found
        obtain ⟨between, moved, modified⟩ := inductionHypothesis _ key ds' found
        rw [FiniteMap.get?_modify] at modified
        split at modified
        · next same =>
          subst same
          obtain ⟨ds, before, rfl⟩ := Option.map_eq_some_iff.mp modified
          exact ⟨ds, (Moved.resubscribe (may key) _).trans moved, before⟩
        · exact ⟨between, moved, modified⟩
    intro key ds' found
    obtain ⟨ds, moved, before⟩ := dropped h.streams key ds' found
    exact ⟨ds, moved, .inl before⟩

theorem removeBrowser_moved (may : ∀ key, allowed key .resubscribe) (conn : Uuid)
    (h : HubInner) : StreamsMoved ctx allowed h (h.removeBrowser conn) :=
  (StreamsMoved.of_streams_eq rfl).trans (detachSubscriber_moved may conn _)

/-! ### Every step -/

variable {s : HubStep}

theorem ensureBindings_moved (device owner : Uuid) (op : s.op = .ensureBindings device owner)
    (h : HubInner) :
    StreamsMoved s.ctx (s.Allows h) h (h.ensureBindings s.ctx device owner).1 := by
  unfold ensureBindings
  have shown : ∀ key ∈ h.streams.keys.filter (shows device owner),
      shows device owner key = true := fun key member => (List.mem_filter.mp member).2
  generalize h.streams.keys.filter (shows device owner) = keys at shown
  have fold : ∀ acc : HubInner × List (Uuid × Envelope), StreamsMoved s.ctx (s.Allows h) acc.1
      (keys.foldl (ensureBinding s.ctx device) acc).1 := by
    induction keys with
    | nil => exact fun acc => .of_streams_eq rfl
    | cons key rest inductionHypothesis =>
      intro acc
      refine StreamsMoved.trans ?_ <| inductionHypothesis
        (fun k member => shown k (List.mem_cons_of_mem _ member)) _
      unfold ensureBinding
      dsimp only
      split
      · exact .of_streams_eq rfl
      · refine (updateStream_moved key (·.bindUpstream s.ctx device key.2) (fun c => ?_) _).trans
          (.of_streams_eq rfl)
        refine c.bindUpstream_moved device key.2 (.rebind _ ?_)
        intro uid member
        rw [List.mem_singleton] at member
        exact .inr ⟨device, owner, op, shown key List.mem_cons_self, member⟩
  exact fold (h, [])

theorem subscribeBind_moved (conn : Uuid) (key : DKey) (needs : List (Uuid × TargetTag))
    (fresh : Uuid) (op : s.op = .subscribeBind conn key needs fresh) (h : HubInner) :
    StreamsMoved s.ctx (s.Allows h) h (h.subscribeBind s.ctx conn key needs fresh) := by
  unfold subscribeBind
  split
  · refine StreamsMoved.foldl _ needs (fun _ => True) (fun start _ need member => ⟨trivial, ?_⟩)
      h trivial
    have bound : StreamsMoved s.ctx (s.Allows h) start ((start.ensureStream key fresh).onStream
        s.ctx key (·.subscribeUpstream s.ctx need)) := by
      refine (ensureStream_moved key fresh start).trans (onStream_moved key _ (fun c => ?_) _)
      refine c.subscribeUpstream_moved HubStep.Allows.relayMoves need (.rebind _ ?_)
      intro uid added
      rw [List.mem_singleton] at added
      exact .inl ⟨conn, needs, fresh, need.1, need.2, op, member, added⟩
    unfold subscribeUpstream
    dsimp only
    split
    · exact bound
    · exact bound.trans (.of_streams_eq rfl)
  · exact .of_streams_eq rfl

theorem subscribeAttach_moved (conn : Uuid) (key : DKey) (correlation : String) (fresh : Uuid)
    (h : HubInner) :
    StreamsMoved s.ctx (s.Allows h) h (h.subscribeAttach s.ctx conn key correlation fresh) := by
  unfold subscribeAttach
  split
  · refine (ensureStream_moved key fresh h).trans ?_
    refine StreamsMoved.trans (.of_streams_eq rfl) (onStream_moved key _ (fun c => ?_) _)
    exact c.attachSubscriber_moved .resubscribe conn correlation
  · exact .of_streams_eq rfl

theorem removeBridge_moved (device : Uuid) (h : HubInner) :
    StreamsMoved s.ctx (s.Allows h) h (h.removeBridge s.ctx device).1 := by
  intro key ds' found
  unfold removeBridge at found
  dsimp only at found
  rw [foldl_abandonCommand_streams, FiniteMap.get?_mapVal] at found
  obtain ⟨ds, before, rfl⟩ := Option.map_eq_some_iff.mp found
  refine ⟨ds, Moved.rebind (HubStep.Allows.rebind [] (by simp)) ?_, .inl before⟩
  intro uid b' kept
  exact .inr ⟨b', (FiniteMap.get?_of_filter kept).1, .inl rfl⟩

theorem sweepGlobalMemory_moved (order : List DKey) (h : HubInner) :
    StreamsMoved s.ctx (s.Allows h) h (h.sweepGlobalMemory s.ctx order) := by
  have reclaimed : StreamsMoved s.ctx (s.Allows h) h h.reclaimStreams := by
    intro key ds' found
    exact ⟨ds', Moved.refl, .inl (FiniteMap.get?_of_filter found).1⟩
  refine reclaimed.trans ?_
  unfold sweepGlobalMemory
  dsimp only
  split
  · split
    · exact onStream_moved _ _ (fun c => Moved.clear .clear c.ds) _
    · exact .of_streams_eq rfl
  · exact .of_streams_eq rfl

theorem fanOutPresence_moved (device owner : Uuid) (online : Bool)
    (op : s.op = .fanOutPresence device owner online) (h : HubInner) :
    StreamsMoved s.ctx (s.Allows h) h (h.fanOutPresence s.ctx device owner online) := by
  unfold fanOutPresence
  refine StreamsMoved.foldl _ _ (fun _ => True) (fun start _ key member => ⟨trivial, ?_⟩)
    h trivial
  have isList : key = (owner, .list) := by
    have matches_ := (List.mem_filter.mp member).2
    simp only [Bool.and_eq_true, beq_iff_eq] at matches_
    exact Prod.ext matches_.1 matches_.2
  exact onStream_moved key _
    (fun c => c.fanOutPresence_moved .resubscribe device online (.presence device owner online op isList)) _

theorem flushBatch_moved (device : Uuid) (env : Envelope) (key : DKey)
    (batch : PendingUpstreamBatch) (op : s.op = .bridgeEnvelope device env)
    (isSnap : isSnapshot env = true) (routed : h.upstreamIndex.get? env.streamId = some key)
    (member : batch ∈ h.takenStash key env.streamId) (now : HubInner)
    (index : now.upstreamIndex = h.upstreamIndex) :
    StreamsMoved s.ctx (s.Allows h) now (now.flushBatch s.ctx key batch) := by
  unfold flushBatch
  dsimp only
  split
  · exact .of_streams_eq rfl
  · refine onUpstream_moved _ _ (fun target found c => ?_)
    have delivers := HubStep.Delivers.flushed device env key batch op isSnap routed member
    exact c.fanOutEvents_moved _ _ _ (delivers.batchMoves (index ▸ found))

@[simp] theorem flushBatch_upstreamIndex (key : DKey) (h : HubInner)
    (batch : PendingUpstreamBatch) :
    (h.flushBatch ctx key batch).upstreamIndex = h.upstreamIndex := by
  unfold flushBatch fanOutEvents
  dsimp only
  split <;> simp

theorem handleUpstreamSnapshot_moved (device : Uuid) (env : Envelope)
    (op : s.op = .bridgeEnvelope device env) (isSnap : isSnapshot env = true) (h : HubInner) :
    StreamsMoved s.ctx (s.Allows h) h (h.handleUpstreamSnapshot s.ctx env.streamId env) := by
  unfold handleUpstreamSnapshot
  cases routed : h.upstreamIndex.get? env.streamId with
  | none => exact .of_streams_eq rfl
  | some key =>
    refine StreamsMoved.trans (onStream_moved key
      (·.handleUpstreamSnapshot s.ctx env.streamId env) (fun c => ?_) h) ?_
    · exact c.handleUpstreamSnapshot_moved .resubscribe env.streamId env
        (.snapshot device env op isSnap routed)
    · refine StreamsMoved.foldl _ _ (fun now => now.upstreamIndex = h.upstreamIndex) ?_ _ (by simp)
      intro now index batch member
      exact ⟨by simp [index], flushBatch_moved device env key batch op isSnap routed member now index⟩

theorem handleBridgeEnvelope_moved (device : Uuid) (env : Envelope)
    (op : s.op = .bridgeEnvelope device env) (h : HubInner) :
    StreamsMoved s.ctx (s.Allows h) h (h.handleBridgeEnvelope s.ctx device env) := by
  have arrives : ∀ events, batchEvents env = some events →
      StreamsMoved s.ctx (s.Allows h) h (h.fanOutEvents s.ctx env.streamId env events) := by
    intro events isBatch
    refine onUpstream_moved _ _ (fun key routed c => ?_)
    have delivers := HubStep.Delivers.arrives (h := h) device env events op isBatch
    exact c.fanOutEvents_moved _ _ _ (delivers.batchMoves routed)
  unfold handleBridgeEnvelope
  split
  · exact .of_streams_eq (sendToBridge_streams _ _ _)
  · next sub payload =>
    refine onUpstream_moved _ _ (fun key routed c => ?_)
    exact c.handleUpstreamSubscribed_moved HubStep.Allows.relayMoves
      (.advance device env sub op payload) env.streamId sub
      (.announce device env sub op payload routed)
  · next payload =>
    exact handleUpstreamSnapshot_moved device env op (by simp [isSnapshot, payload]) h
  · next batch payload =>
    split
    · next snapshot =>
      exact handleUpstreamSnapshot_moved device env op (by simp [isSnapshot, payload, snapshot]) h
    · next incremental => exact arrives _ (by simp [batchEvents, payload, incremental])
  · next batch payload => exact arrives _ (by simp [batchEvents, payload])
  · unfold onCommandAccepted
    split <;> exact .of_streams_eq rfl
  · unfold onCommandResult
    dsimp only
    split
    · exact .of_streams_eq rfl
    · split <;> exact .of_streams_eq rfl
  · exact .of_streams_eq rfl
  · refine onUpstream_moved _ _ (fun key _ c => ?_)
    exact c.handleResyncRequired_moved HubStep.Allows.relayMoves device env.streamId
  · exact .of_streams_eq rfl

/-- **What a step does to the streams**: only the moves it allows. -/
theorem step_moved (h : HubInner) (s : HubStep) :
    StreamsMoved s.ctx (s.Allows h) h (h.step s) := by
  have detach (conn : Uuid) (start : HubInner) :
      StreamsMoved s.ctx (s.Allows h) start (start.removeBrowser conn) :=
    removeBrowser_moved (fun _ => .resubscribe) conn start
  unfold step
  cases op : s.op with
  | closeBrowser conn =>
    dsimp only [closeBrowser]
    split
    · exact detach conn h
    · exact .of_streams_eq rfl
  | closeAllBrowsers =>
    exact StreamsMoved.foldl _ _ (fun _ => True) (fun start _ conn _ => ⟨trivial, detach conn start⟩)
      h trivial
  | removeBrowser conn => exact detach conn h
  | ensureBindings device owner => exact ensureBindings_moved device owner op h
  | removeBridge device => exact removeBridge_moved device h
  | sendToBridge device env => exact .of_streams_eq (sendToBridge_streams _ _ _)
  | beginShutdown => exact .of_streams_eq (foldl_abandonCommand_streams _ _)
  | subscribeBind conn key needs fresh => exact subscribeBind_moved conn key needs fresh op h
  | subscribeAttach conn key correlation fresh =>
    exact subscribeAttach_moved conn key correlation fresh h
  | browserUnsubscribe conn streamId =>
    dsimp only [browserUnsubscribe]
    split
    · exact .of_streams_eq rfl
    · refine StreamsMoved.trans (onStream_moved _ _ (fun c => ?_) h) (.of_streams_eq rfl)
      exact Moved.resubscribe HubStep.Allows.resubscribe _
  | browserResync conn streamId correlation =>
    dsimp only [browserResync]
    split
    · exact .of_streams_eq rfl
    · refine onStream_moved _ _ (fun c => ?_) h
      exact c.browserResync_moved HubStep.Allows.relayMoves conn correlation
  | browserAck conn streamId sequence =>
    dsimp only [browserAck]
    split
    · exact .of_streams_eq rfl
    · refine onStream_moved _ _ (fun c => ?_) h
      exact Moved.resubscribe HubStep.Allows.resubscribe _
  | bridgeEnvelope device env => exact handleBridgeEnvelope_moved device env op h
  | fanOutPresence device owner online => exact fanOutPresence_moved device owner online op h
  | sweepGlobalMemory order => exact sweepGlobalMemory_moved order h
  | _ => exact .of_streams_eq rfl

/-- An invariant of streams that new streams satisfy and that every allowed move
preserves holds of all streams after a step. -/
theorem step_invariant {P : DKey → DStream → Prop} {h : HubInner} {s : HubStep}
    (new : ∀ key fresh, P key (.new key fresh))
    (preserved : ∀ key m ds ds', s.Allows h key m → Move.Does s.ctx ds ds' m → P key ds → P key ds')
    (holds : ∀ key ds, h.streams.get? key = some ds → P key ds) :
    ∀ key ds, (h.step s).streams.get? key = some ds → P key ds := by
  intro key ds' found
  obtain ⟨ds, moved, origin⟩ := step_moved h s key ds' found
  refine moved.invariant (preserved key) ?_
  rcases origin with before | ⟨fresh, rfl⟩
  · exact holds key ds before
  · exact new key fresh

end HubInner

end AgentConsole.Relay
