import AgentConsole.Relay.Isolation

/-! # The indexes of the hub

Which upstream ids a stream is bound to is written in two places, the stream and
`upstream_index`; who subscribes to it is written in two places too, the stream and
`browser_streams`.  Most locked sections leave the bindings alone and only lose
subscribers: `Narrows` says so, and that the set of the connection loses the stream
with it. -/

namespace AgentConsole.Relay

open AgentConsole.Lib

/-! ## On one stream -/

namespace StreamCell

variable {ctx : Ctx} {c mid c' : StreamCell}

/-- The bindings stay, and the subscribers that go are handed to the hub as detached. -/
structure Narrows (c c' : StreamCell) : Prop where
  bound : ∀ uid, c'.ds.upstreams.contains uid = c.ds.upstreams.contains uid
  lost : ∃ gone, c'.detached = c.detached ++ gone ∧
    ∀ conn, c'.ds.subscribers.contains conn =
      (c.ds.subscribers.contains conn && !gone.contains conn)

namespace Narrows

theorem of_same (bound : ∀ uid, c'.ds.upstreams.contains uid = c.ds.upstreams.contains uid)
    (subscribers : ∀ conn, c'.ds.subscribers.contains conn = c.ds.subscribers.contains conn)
    (detached : c'.detached = c.detached) : Narrows c c' where
  bound := bound
  lost := ⟨[], by simp [detached], by simp [subscribers]⟩

theorem refl (c : StreamCell) : Narrows c c := of_same (fun _ => rfl) (fun _ => rfl) rfl

theorem trans (first : Narrows c mid) (rest : Narrows mid c') : Narrows c c' where
  bound uid := (rest.bound uid).trans (first.bound uid)
  lost := by
    obtain ⟨gone, detached, subscribers⟩ := first.lost
    obtain ⟨gone', detached', subscribers'⟩ := rest.lost
    refine ⟨gone ++ gone', by rw [detached', detached, List.append_assoc], fun conn => ?_⟩
    rw [subscribers', subscribers, Bool.and_assoc]
    simp

/-- An operation that does not touch the bindings, the subscribers or the detached ones. -/
theorem of_eq (upstreams : c'.ds.upstreams = c.ds.upstreams)
    (subscribers : c'.ds.subscribers = c.ds.subscribers) (detached : c'.detached = c.detached) :
    Narrows c c' :=
  of_same (fun _ => by rw [upstreams]) (fun _ => by rw [subscribers]) detached

end Narrows

theorem contains_rebound {ups : FiniteMap String UpstreamBinding} {upstreamId : String}
    {binding : UpstreamBinding} (bound : ups.get? upstreamId = some binding)
    (binding' : UpstreamBinding) (uid : String) :
    (ups.insert upstreamId binding').contains uid = ups.contains uid := by
  rw [FiniteMap.contains_insert]
  by_cases same : uid = upstreamId
  · subst same
    simp [FiniteMap.contains, bound]
  · simp [same]

theorem detachFailed_narrows (conns : List Uuid) : Narrows c (c.detachFailed ctx conns) where
  bound _ := rfl
  lost := by
    refine ⟨conns, rfl, fun conn => ?_⟩
    have kept := FiniteMap.contains_filter (fun conn => !conns.contains conn) c.ds.subscribers conn
    rw [Bool.and_comm]
    exact kept

theorem refresh_contains (now : Nat) (force : Bool) (ds : DStream) :
    (∀ uid, (ds.refreshSnapshotEnvs now force).1.upstreams.contains uid =
      ds.upstreams.contains uid) ∧
    ∀ conn, (ds.refreshSnapshotEnvs now force).1.subscribers.contains conn =
      ds.subscribers.contains conn :=
  ⟨fun uid => FiniteMap.contains_mapVal _ _ uid, fun conn => FiniteMap.contains_mapVal _ _ conn⟩

theorem stash_narrows (batch : PendingUpstreamBatch) : Narrows c (c.stash ctx batch) := by
  obtain ⟨batches, events, bytes, pushed⟩ := DStream.pushPending_frame ctx.codec c.ds batch
  unfold stash
  dsimp only
  split
  · obtain ⟨bound, subscribers⟩ :=
      refresh_contains ctx.now true (c.ds.pushPending ctx.codec batch).1
    refine Narrows.of_same (fun uid => (bound uid).trans ?_) (fun conn => (subscribers conn).trans ?_)
      rfl
    · rw [pushed]
    · rw [pushed]
  · exact Narrows.of_eq (by rw [pushed]) (by rw [pushed]) rfl

theorem emitEvent_narrows (env : Envelope) (acc : StreamCell × List Uuid) (event : Event) :
    Narrows acc.1 (emitEvent ctx env acc event).1 := by
  unfold emitEvent
  dsimp only
  split
  · exact Narrows.of_eq rfl rfl rfl
  · exact Narrows.of_eq rfl rfl rfl

theorem emitEvents_narrows (env : Envelope) (events : List Event) (acc : StreamCell × List Uuid) :
    Narrows acc.1 (events.foldl (emitEvent ctx env) acc).1 := by
  induction events generalizing acc with
  | nil => exact Narrows.refl _
  | cons event rest inductionHypothesis =>
    exact (emitEvent_narrows env acc event).trans (inductionHypothesis _)

theorem fanOutEvents_narrows (upstreamId : String) (env : Envelope) (events : List Event) :
    Narrows c (c.fanOutEvents ctx upstreamId env events) := by
  unfold fanOutEvents
  cases bound : c.ds.upstreams.get? upstreamId with
  | none => exact Narrows.refl c
  | some binding =>
    dsimp only
    split
    · exact Narrows.refl c
    · split
      · exact Narrows.refl c
      · split
        · exact stash_narrows _
        · refine Narrows.trans ?_ ((emitEvents_narrows env events _).trans (detachFailed_narrows _))
          exact Narrows.of_same (contains_rebound bound _) (fun _ => rfl) rfl

theorem foldl_modify_contains (tag : TargetTag) (devices : List Uuid)
    (ups : FiniteMap String UpstreamBinding) (uid : String) :
    (devices.foldl (fun ups device =>
      ups.modify (upstreamStreamId device tag) fun b => .fresh b.device) ups).contains uid =
      ups.contains uid := by
  induction devices generalizing ups with
  | nil => rfl
  | cons device rest inductionHypothesis =>
    exact (inductionHypothesis _).trans (FiniteMap.contains_modify _ _ _ _)

theorem handleUpstreamSubscribed_narrows (upstreamId : String) (sub : Subscribed) :
    Narrows c (c.handleUpstreamSubscribed ctx upstreamId sub) := by
  unfold handleUpstreamSubscribed
  cases bound : c.ds.upstreams.get? upstreamId with
  | none => exact Narrows.refl c
  | some binding =>
    dsimp only
    split
    · exact Narrows.of_same (contains_rebound bound _) (fun _ => rfl) rfl
    · refine Narrows.of_same (fun uid => ?_) (fun conn => ?_) rfl
      · exact (foldl_modify_contains _ _ _ uid).trans (contains_rebound bound _ uid)
      · exact FiniteMap.contains_mapVal _ _ conn

theorem serveSnapshot_narrows (frame : Frame) : Narrows c (c.serveSnapshot ctx frame) := by
  refine Narrows.trans ?_ (detachFailed_narrows _)
  exact Narrows.of_same (fun _ => rfl) (fun conn => FiniteMap.contains_mapVal _ _ conn) rfl

theorem handleUpstreamSnapshot_narrows (upstreamId : String) (env : Envelope) :
    Narrows c (c.handleUpstreamSnapshot ctx upstreamId env) := by
  unfold handleUpstreamSnapshot
  cases bound : c.ds.upstreams.get? upstreamId with
  | none => exact Narrows.refl c
  | some binding =>
    refine Narrows.trans ?_ (serveSnapshot_narrows _)
    exact Narrows.of_same (contains_rebound bound _) (fun _ => rfl) rfl

theorem handleResyncRequired_narrows (sender : Uuid) (upstreamId : String) :
    Narrows c (c.handleResyncRequired ctx sender upstreamId) := by
  unfold handleResyncRequired
  cases bound : c.ds.upstreams.get? upstreamId with
  | none => exact Narrows.refl c
  | some binding => exact Narrows.of_same (contains_rebound bound _) (fun _ => rfl) rfl

theorem fanOutPresence_narrows (device : Uuid) (online : Bool) :
    Narrows c (c.fanOutPresence ctx device online) := by
  unfold fanOutPresence
  split
  · exact Narrows.refl c
  · refine Narrows.trans ?_ (detachFailed_narrows _)
    exact Narrows.of_eq rfl rfl rfl

/-- The queue of the connection takes the replay window of the stream. -/
def takesReplay (ctx : Ctx) (conn : Uuid) (correlation : String) (ds : DStream)
    (bc : BrowserConn) : Bool :=
  (bc.pushReplay ctx conn
    (subscribedEnv ctx.now ds.streamId ds.epoch ds.replayWindow.1 correlation)
    ds.replayWindow.2).2

/-- A connection whose queue does not take the replay is detached. -/
theorem serveReplay_detached {conn : Uuid} {bc : BrowserConn}
    (registered : c.browsers.get? conn = some bc) (correlation : String) :
    (c.serveReplay ctx conn correlation).detached =
      c.detached ++ (if takesReplay ctx conn correlation c.ds bc then [] else [conn]) ∧
    (∀ uid, (c.serveReplay ctx conn correlation).ds.upstreams.contains uid =
      c.ds.upstreams.contains uid) ∧
    ∀ other, (c.serveReplay ctx conn correlation).ds.subscribers.contains other =
      (c.ds.subscribers.contains other &&
        (takesReplay ctx conn correlation c.ds bc || !decide (other = conn))) := by
  unfold serveReplay takesReplay
  rw [registered]
  dsimp only
  split
  · next served =>
    rw [served]
    exact ⟨by simp, fun _ => rfl, fun other => by simp [FiniteMap.contains_modify]⟩
  · next refused =>
    rw [Bool.eq_false_iff.mpr refused]
    refine ⟨rfl, fun _ => rfl, fun other => ?_⟩
    have kept := FiniteMap.contains_filter (fun conn' => !([conn].contains conn')) c.ds.subscribers
      other
    rw [Bool.and_comm] at kept
    exact kept.trans (by simp)

theorem serveReplay_narrows (conn : Uuid) (correlation : String) :
    Narrows c (c.serveReplay ctx conn correlation) := by
  cases registered : c.browsers.get? conn with
  | none =>
    unfold serveReplay
    rw [registered]
    exact Narrows.refl c
  | some bc =>
    obtain ⟨detached, bound, subscribers⟩ := @serveReplay_detached ctx c conn bc registered correlation
    refine ⟨bound, _, detached, fun other => ?_⟩
    rw [subscribers]
    cases takesReplay ctx conn correlation c.ds bc <;> simp

theorem browserResync_narrows (conn : Uuid) (correlation : String) :
    Narrows c (c.browserResync ctx conn correlation) := by
  unfold browserResync
  split
  · split
    · obtain ⟨bound, subscribers⟩ := refresh_contains ctx.now false c.ds
      exact Narrows.of_same bound subscribers rfl
    · exact serveReplay_narrows conn correlation
  · exact Narrows.refl c

theorem browserAck_narrows (conn : Uuid) (sequence : Nat) :
    Narrows c (c.browserAck conn sequence) :=
  Narrows.of_same (fun _ => rfl) (fun other => FiniteMap.contains_modify _ _ other _) rfl

theorem relievePressure_narrows : Narrows c (c.relievePressure ctx) := Narrows.of_eq rfl rfl rfl

end StreamCell

/-! ## On the hub -/

namespace HubInner

variable {ctx : Ctx} {h mid h' : HubInner} {key : DKey}

/-- The stream at `key` has a binding for the upstream id. -/
def binds (key : DKey) (uid : String) (h : HubInner) : Bool :=
  (h.streams.get? key).any (·.upstreams.contains uid)

/-- The streams written down for a connection. -/
def setOf (conn : Uuid) (h : HubInner) : List DKey := (h.browserStreams.get? conn).getD []

/-- Who owns the device of a registered Bridge. -/
def ownerOnline (device : Uuid) (h : HubInner) : Option Uuid :=
  (h.bridges.get? device).map (·.owner)

/-- The two places that say who subscribes to what agree. -/
structure Linked (h : HubInner) : Prop where
  nodup : ∀ conn, (h.setOf conn).Nodup
  sets : ∀ conn key, h.subscribes key conn = true ↔ key ∈ h.setOf conn

/-- Routes, bindings and Bridges stay; subscribers only go, and in both places. -/
structure Narrows (h h' : HubInner) : Prop where
  routes : h'.upstreamIndex = h.upstreamIndex
  owners : ∀ device, h'.ownerOnline device = h.ownerOnline device
  bound : ∀ key uid, h'.binds key uid = h.binds key uid
  fewer : ∀ key conn, h'.subscribes key conn = true → h.subscribes key conn = true
  linked : h.Linked → h'.Linked

namespace Narrows

theorem of_same (routes : h'.upstreamIndex = h.upstreamIndex)
    (owners : ∀ device, h'.ownerOnline device = h.ownerOnline device)
    (streams : h'.streams = h.streams) (sets : h'.browserStreams = h.browserStreams) :
    Narrows h h' where
  routes := routes
  owners := owners
  bound key uid := by rw [binds, binds, streams]
  fewer key conn subscribed := by rwa [subscribes, streams] at subscribed
  linked linked := by
    refine ⟨fun conn => ?_, fun conn key => ?_⟩
    · rw [setOf, sets]
      exact linked.nodup conn
    · rw [setOf, subscribes, sets, streams]
      exact linked.sets conn key

theorem refl (h : HubInner) : Narrows h h := of_same rfl (fun _ => rfl) rfl rfl

theorem trans (first : Narrows h mid) (rest : Narrows mid h') : Narrows h h' where
  routes := rest.routes.trans first.routes
  owners device := (rest.owners device).trans (first.owners device)
  bound key uid := (rest.bound key uid).trans (first.bound key uid)
  fewer key conn subscribed := first.fewer key conn (rest.fewer key conn subscribed)
  linked linked := rest.linked (first.linked linked)

theorem foldl {α : Type} {f : HubInner → α → HubInner} (each : ∀ h a, Narrows h (f h a))
    (items : List α) (h : HubInner) : Narrows h (items.foldl f h) := by
  induction items generalizing h with
  | nil => exact refl h
  | cons a rest inductionHypothesis => exact (each h a).trans (inductionHypothesis _)

end Narrows

/-! ### Sections that work on one stream -/

/-- Each detached connection loses `key`, and nothing else changes. -/
theorem mem_detached (key : DKey) (gone : List Uuid) (sets : FiniteMap Uuid (List DKey))
    (nodup : ∀ conn, ((sets.get? conn).getD []).Nodup) (conn : Uuid) :
    (((gone.foldl (fun sets conn => sets.modify conn (·.erase key)) sets).get? conn).getD []).Nodup ∧
      ∀ other,
        other ∈ ((gone.foldl (fun sets conn => sets.modify conn (·.erase key)) sets).get? conn).getD
          [] ↔ other ∈ (sets.get? conn).getD [] ∧ ¬ (conn ∈ gone ∧ other = key) := by
  induction gone generalizing sets with
  | nil => exact ⟨nodup conn, by simp⟩
  | cons first rest inductionHypothesis =>
    have erased (conn : Uuid) : ((sets.modify first (·.erase key)).get? conn).getD [] =
        if conn = first then ((sets.get? conn).getD []).erase key
        else (sets.get? conn).getD [] := by
      rw [FiniteMap.get?_modify]
      split
      · next same =>
        subst same
        cases sets.get? conn <;> simp
      · rfl
    have stillNodup (conn : Uuid) :
        (((sets.modify first (·.erase key)).get? conn).getD []).Nodup := by
      rw [erased]
      split
      · exact (nodup conn).erase key
      · exact nodup conn
    obtain ⟨nodupRest, memRest⟩ := inductionHypothesis _ stillNodup
    refine ⟨nodupRest, fun other => ?_⟩
    rw [List.foldl_cons, memRest, erased]
    split
    · next same =>
      subst same
      rw [(nodup conn).mem_erase_iff]
      simp only [List.mem_cons, true_or, true_and]
      tauto
    · next apart =>
      simp [apart]

theorem sendToBridge_narrows (device : Uuid) (env : Envelope) (h : HubInner) :
    Narrows h (h.sendToBridge ctx device env).1 := by
  unfold sendToBridge
  cases found : h.bridges.get? device with
  | none => exact Narrows.refl h
  | some conn =>
    refine Narrows.of_same rfl (fun other => ?_) rfl rfl
    unfold ownerOnline
    rw [FiniteMap.get?_insert]
    split
    · next same => rw [same, found]; rfl
    · rfl

theorem sendAll_narrows (envs : List (Uuid × Envelope)) (h : HubInner) :
    Narrows h (h.sendAll ctx envs) := by
  unfold sendAll
  exact Narrows.foldl (fun h e => sendToBridge_narrows e.1 e.2 h) envs h

theorem reply_narrows (conn : Uuid) (env : Envelope) (h : HubInner) :
    Narrows h (h.reply ctx conn env) :=
  Narrows.of_same rfl (fun _ => rfl) rfl rfl

theorem updateStream_narrows {op : StreamCell → StreamCell}
    (narrow : ∀ c, StreamCell.Narrows c (op c)) (key : DKey) (h : HubInner) :
    Narrows h (h.updateStream key op).1 := by
  cases found : h.streams.get? key with
  | none =>
    unfold updateStream
    rw [found]
    exact Narrows.refl h
  | some ds =>
    obtain ⟨bound, gone, detached, subscribers⟩ := narrow (.ofStream ds h.browsers)
    have sub (k : DKey) (conn : Uuid) : (h.updateStream key op).1.subscribes k conn =
        (h.subscribes k conn && !(decide (k = key) && gone.contains conn)) := by
      unfold subscribes
      rw [updateStream_streams_get?]
      by_cases same : k = key
      · subst same
        rw [if_pos rfl, found]
        exact (subscribers conn).trans (by simp [StreamCell.ofStream])
      · simp [same]
    have sets : (h.updateStream key op).1.browserStreams =
        gone.foldl (fun sets conn => sets.modify conn (·.erase key)) h.browserStreams := by
      unfold updateStream
      rw [found]
      dsimp only
      rw [detached]
      rfl
    refine ⟨updateStream_upstreamIndex _ _ _, fun device => ?_, fun k uid => ?_,
      fun k conn subscribed => ?_, fun linked => ?_⟩
    · unfold updateStream
      rw [found]
      rfl
    · unfold binds
      rw [updateStream_streams_get?]
      split
      · next same =>
        rw [same, found]
        exact bound uid
      · rfl
    · rw [sub] at subscribed
      exact (Bool.and_eq_true _ _ ▸ subscribed).1
    · have forgotten := mem_detached key gone h.browserStreams linked.nodup
      refine ⟨fun conn => ?_, fun conn k => ?_⟩
      · rw [setOf, sets]
        exact (forgotten conn).1
      · rw [sub, setOf, sets, (forgotten conn).2 k]
        have before := linked.sets conn k
        rw [setOf] at before
        rw [← before]
        simp only [Bool.and_eq_true, Bool.not_eq_true', Bool.and_eq_false_iff,
          decide_eq_false_iff_not, List.contains_eq_mem]
        tauto

theorem onStream_narrows {op : StreamCell → StreamCell}
    (narrow : ∀ c, StreamCell.Narrows c (op c)) (key : DKey) (h : HubInner) :
    Narrows h (h.onStream ctx key op) :=
  (updateStream_narrows narrow key h).trans (sendAll_narrows _ _)

theorem onUpstream_narrows {op : StreamCell → StreamCell}
    (narrow : ∀ c, StreamCell.Narrows c (op c)) (upstreamId : String) (h : HubInner) :
    Narrows h (h.onUpstream ctx upstreamId op) := by
  unfold onUpstream
  cases h.upstreamIndex.get? upstreamId with
  | none => exact Narrows.refl h
  | some key => exact onStream_narrows narrow key h

theorem fanOutEvents_narrows (upstreamId : String) (env : Envelope) (events : List Event)
    (h : HubInner) : Narrows h (h.fanOutEvents ctx upstreamId env events) :=
  onUpstream_narrows (fun _ => StreamCell.fanOutEvents_narrows _ _ _) upstreamId h

theorem flushBatch_narrows (key : DKey) (batch : PendingUpstreamBatch) (h : HubInner) :
    Narrows h (h.flushBatch ctx key batch) := by
  unfold flushBatch
  dsimp only
  split
  · exact Narrows.refl h
  · exact fanOutEvents_narrows _ _ _ h

theorem handleUpstreamSnapshot_narrows (upstreamId : String) (env : Envelope) (h : HubInner) :
    Narrows h (h.handleUpstreamSnapshot ctx upstreamId env) := by
  unfold handleUpstreamSnapshot
  cases h.upstreamIndex.get? upstreamId with
  | none => exact Narrows.refl h
  | some key =>
    have ordered : Narrows h (h.onStream ctx key (·.handleUpstreamSnapshot ctx upstreamId env)) :=
      onStream_narrows (fun _ => StreamCell.handleUpstreamSnapshot_narrows _ _) key h
    exact ordered.trans (Narrows.foldl (fun h batch => flushBatch_narrows key batch h) _ _)

theorem handleBridgeEnvelope_narrows (device : Uuid) (env : Envelope) (h : HubInner) :
    Narrows h (h.handleBridgeEnvelope ctx device env) := by
  unfold handleBridgeEnvelope
  split
  · exact sendToBridge_narrows _ _ h
  · exact onUpstream_narrows (fun _ => StreamCell.handleUpstreamSubscribed_narrows _ _) _ h
  · exact handleUpstreamSnapshot_narrows _ _ h
  · split
    · exact handleUpstreamSnapshot_narrows _ _ h
    · exact fanOutEvents_narrows _ _ _ h
  · exact fanOutEvents_narrows _ _ _ h
  · unfold onCommandAccepted
    split
    · exact Narrows.refl h
    · exact reply_narrows _ _ h
  · unfold onCommandResult
    split
    · exact Narrows.refl h
    · dsimp only
      split
      · exact Narrows.of_same rfl (fun _ => rfl) rfl rfl
      · exact reply_narrows _ _ h
  · exact Narrows.of_same rfl (fun _ => rfl) rfl rfl
  · exact onUpstream_narrows (fun _ => StreamCell.handleResyncRequired_narrows _ _) _ h
  · exact Narrows.refl h

theorem fanOutPresence_narrows (device owner : Uuid) (online : Bool) (h : HubInner) :
    Narrows h (h.fanOutPresence ctx device owner online) :=
  Narrows.foldl (fun h key =>
    onStream_narrows (fun _ => StreamCell.fanOutPresence_narrows _ _) key h) _ h

theorem browserResync_narrows (conn : Uuid) (streamId correlation : String) (h : HubInner) :
    Narrows h (h.browserResync ctx conn streamId correlation) := by
  unfold browserResync
  cases h.findStream streamId with
  | none => exact Narrows.refl h
  | some key => exact onStream_narrows (fun _ => StreamCell.browserResync_narrows _ _) key h

theorem browserAck_narrows (conn : Uuid) (streamId : String) (sequence : Nat) (h : HubInner) :
    Narrows h (h.browserAck ctx conn streamId sequence) := by
  unfold browserAck
  cases h.findStream streamId with
  | none => exact Narrows.refl h
  | some key => exact onStream_narrows (fun _ => StreamCell.browserAck_narrows _ _) key h

/-! ### Sections that end a subscription -/

/-- A section that takes some connections off some streams, in both places. -/
theorem narrows_of_dropped (dropped : DKey → Uuid → Bool)
    (routes : h'.upstreamIndex = h.upstreamIndex) (owners : h'.ownerOnline = h.ownerOnline)
    (bound : ∀ key uid, h'.binds key uid = h.binds key uid)
    (subscribers : ∀ key conn,
      h'.subscribes key conn = (h.subscribes key conn && !dropped key conn))
    (sets : h.Linked → ∀ conn, (h'.setOf conn).Nodup ∧
      ∀ key, key ∈ h'.setOf conn ↔ key ∈ h.setOf conn ∧ dropped key conn = false) :
    Narrows h h' where
  routes := routes
  owners device := congrFun owners device
  bound := bound
  fewer key conn subscribed := by
    rw [subscribers] at subscribed
    exact (Bool.and_eq_true _ _ ▸ subscribed).1
  linked linked := by
    refine ⟨fun conn => (sets linked conn).1, fun conn key => ?_⟩
    rw [subscribers, (sets linked conn).2 key, ← linked.sets conn key]
    simp

theorem foldl_erase_any (conn : Uuid) (keys : List DKey) (streams : FiniteMap DKey DStream)
    (k : DKey) :
    (∀ uid, ((keys.foldl (fun streams key => streams.modify key fun ds =>
        { ds with subscribers := ds.subscribers.erase conn }) streams).get? k).any
          (·.upstreams.contains uid) = (streams.get? k).any (·.upstreams.contains uid)) ∧
      ∀ other, ((keys.foldl (fun streams key => streams.modify key fun ds =>
        { ds with subscribers := ds.subscribers.erase conn }) streams).get? k).any
          (·.subscribers.contains other) =
        ((streams.get? k).any (·.subscribers.contains other) &&
          !(decide (other = conn) && keys.contains k)) := by
  induction keys generalizing streams with
  | nil => exact ⟨fun _ => rfl, by simp⟩
  | cons first rest inductionHypothesis =>
    obtain ⟨bound, subscribers⟩ := inductionHypothesis (streams.modify first fun ds =>
      { ds with subscribers := ds.subscribers.erase conn })
    refine ⟨fun uid => (bound uid).trans ?_, fun other => (subscribers other).trans ?_⟩
    · rw [FiniteMap.get?_modify]
      split
      · next same => subst same; cases streams.get? k <;> rfl
      · rfl
    · rw [FiniteMap.get?_modify]
      split
      · next same =>
        subst same
        cases streams.get? k with
        | none => rfl
        | some ds =>
          simp only [Option.map_some, Option.any_some, FiniteMap.contains_erase,
            List.contains_cons, beq_self_eq_true, Bool.true_or, Bool.and_true]
          cases ds.subscribers.contains other <;> cases decide (other = conn) <;> simp
      · next apart => simp [apart]

theorem detachSubscriber_narrows (conn : Uuid) (h : HubInner) :
    Narrows h (h.detachSubscriber conn) := by
  cases found : h.browserStreams.get? conn with
  | none =>
    unfold detachSubscriber
    rw [found]
    exact Narrows.refl h
  | some keys =>
    have erased (k : DKey) := foldl_erase_any conn keys h.streams k
    have detached : h.detachSubscriber conn = { h with
        browserStreams := h.browserStreams.erase conn
        streams := keys.foldl (fun streams key => streams.modify key fun ds =>
          { ds with subscribers := ds.subscribers.erase conn }) h.streams } := by
      unfold detachSubscriber
      rw [found]
    rw [detached]
    have dropped : ∀ linked : h.Linked, ∀ other,
        (((h.browserStreams.erase conn).get? other).getD []).Nodup ∧
        ∀ key, key ∈ ((h.browserStreams.erase conn).get? other).getD [] ↔
          key ∈ h.setOf other ∧ (decide (other = conn) && keys.contains key) = false := by
      intro linked other
      rw [FiniteMap.get?_erase]
      by_cases same : other = conn
      · subst same
        simp [setOf, found]
      · rw [if_neg same]
        exact ⟨linked.nodup other, by simp [setOf, same]⟩
    exact narrows_of_dropped _ rfl rfl (fun key => (erased key).1) (fun key => (erased key).2) dropped

theorem removeBrowser_narrows (conn : Uuid) (h : HubInner) : Narrows h (h.removeBrowser conn) := by
  have gone : Narrows h { h with browsers := h.browsers.erase conn } :=
    Narrows.of_same rfl (fun _ => rfl) rfl rfl
  exact gone.trans (detachSubscriber_narrows conn _)

theorem closeBrowser_narrows (conn : Uuid) (h : HubInner) : Narrows h (h.closeBrowser conn) := by
  unfold closeBrowser
  split
  · exact removeBrowser_narrows conn h
  · exact Narrows.refl h

theorem closeAllBrowsers_narrows (h : HubInner) : Narrows h h.closeAllBrowsers :=
  Narrows.foldl (fun h conn => removeBrowser_narrows conn h) _ h

theorem onStream_ownerOnline (key : DKey) (op : StreamCell → StreamCell) (h : HubInner) :
    (h.onStream ctx key op).ownerOnline = h.ownerOnline := by
  funext device
  refine ((sendAll_narrows _ _).owners device).trans ?_
  cases h.streams.get? key <;> rfl

theorem sendAll_browserStreams (envs : List (Uuid × Envelope)) (h : HubInner) :
    (h.sendAll ctx envs).browserStreams = h.browserStreams :=
  foldl_unchanged _ (·.browserStreams)
    (fun h e => by unfold sendToBridge; cases h.bridges.get? e.1 <;> rfl) envs h

/-- An operation that detaches nobody leaves the sets of the connections alone. -/
theorem onStream_browserStreams {op : StreamCell → StreamCell}
    (silent : ∀ c, (op c).detached = c.detached) (key : DKey) (h : HubInner) :
    (h.onStream ctx key op).browserStreams = h.browserStreams := by
  unfold onStream
  rw [sendAll_browserStreams]
  unfold updateStream
  cases h.streams.get? key with
  | none => rfl
  | some ds =>
    dsimp only
    rw [silent]
    rfl

theorem browserUnsubscribe_narrows (conn : Uuid) (streamId : String) (h : HubInner) :
    Narrows h (h.browserUnsubscribe ctx conn streamId) := by
  unfold browserUnsubscribe
  cases h.findStream streamId with
  | none => exact Narrows.refl h
  | some key =>
    have silent (c : StreamCell) : (c.dropSubscriber conn).detached = c.detached := rfl
    have kept : (h.onStream ctx key (·.dropSubscriber conn)).browserStreams = h.browserStreams :=
      onStream_browserStreams silent key h
    have dropped : ∀ linked : h.Linked, ∀ other,
        (((h.browserStreams.modify conn (·.erase key)).get? other).getD []).Nodup ∧
        ∀ k, k ∈ ((h.browserStreams.modify conn (·.erase key)).get? other).getD [] ↔
          k ∈ h.setOf other ∧ (decide (other = conn) && decide (k = key)) = false := by
      intro linked other
      obtain ⟨nodup, member⟩ := mem_detached key [conn] h.browserStreams linked.nodup other
      refine ⟨nodup, fun k => (member k).trans ?_⟩
      simp [setOf]
    refine narrows_of_dropped (fun k other => decide (other = conn) && decide (k = key))
      (onStream_upstreamIndex _ _ _) (onStream_ownerOnline _ _ _) (fun k uid => ?_)
      (fun k other => ?_) (fun linked other => ?_)
    · unfold binds
      rw [onStream_streams_get?]
      split
      · next same => subst same; cases h.streams.get? k <;> rfl
      · rfl
    · unfold subscribes
      rw [onStream_streams_get?]
      split
      · next same =>
        subst same
        cases h.streams.get? k with
        | none => rfl
        | some ds =>
          simp only [Option.map_some, Option.any_some, StreamCell.dropSubscriber,
            StreamCell.ofStream, FiniteMap.contains_erase, decide_true, Bool.and_true]
          exact Bool.and_comm _ _
      · next apart => simp [apart]
    · have dropped := dropped linked other
      rw [← kept] at dropped
      exact dropped

/-! ### A stream nobody has -/

/-- The new stream has nothing. -/
theorem ensureStream_any {p : DStream → Bool} {fresh : Uuid} (empty : p (.new key fresh) = false)
    (h : HubInner) (k : DKey) :
    ((h.ensureStream key fresh).streams.get? k).any p = (h.streams.get? k).any p := by
  unfold ensureStream
  split
  · rfl
  · next absent =>
    have absent : h.streams.get? key = none := by simpa [FiniteMap.contains] using absent
    rw [FiniteMap.get?_insert]
    split
    · next same =>
      rw [same, absent]
      exact empty
    · rfl

theorem ensureStream_get? (key : DKey) (fresh : Uuid) (h : HubInner) :
    (h.ensureStream key fresh).streams.get? key =
      some ((h.streams.get? key).getD (.new key fresh)) := by
  unfold ensureStream
  split
  · next present =>
    obtain ⟨ds, found⟩ := FiniteMap.contains_iff.mp present
    rw [found]
    rfl
  · next absent =>
    have absent : h.streams.get? key = none := by simpa [FiniteMap.contains] using absent
    rw [FiniteMap.get?_insert_self, absent]
    rfl

theorem ensureStream_binds (fresh : Uuid) (h : HubInner) (k : DKey) (uid : String) :
    (h.ensureStream key fresh).binds k uid = h.binds k uid :=
  ensureStream_any (p := (·.upstreams.contains uid)) rfl h k

theorem ensureStream_subscribes (fresh : Uuid) (h : HubInner) (k : DKey) (conn : Uuid) :
    (h.ensureStream key fresh).subscribes k conn = h.subscribes k conn :=
  ensureStream_any (p := (·.subscribers.contains conn)) rfl h k

theorem ensureStream_browserStreams (key : DKey) (fresh : Uuid) (h : HubInner) :
    (h.ensureStream key fresh).browserStreams = h.browserStreams := by
  unfold ensureStream
  split <;> rfl

theorem ensureStream_ownerOnline (key : DKey) (fresh : Uuid) (h : HubInner) :
    (h.ensureStream key fresh).ownerOnline = h.ownerOnline := by
  unfold ensureStream
  split <;> rfl

/-! ### A binding comes in -/

/-- The stream at `key` gets a binding for `uid`, if it has none, and the route with it. -/
structure Adds (key : DKey) (uid : String) (h h' : HubInner) : Prop where
  binds : ∀ k u, h'.binds k u = (h.binds k u || (decide (k = key) && decide (u = uid)))
  index : h'.upstreamIndex =
    if h.binds key uid then h.upstreamIndex else h.upstreamIndex.insert uid key
  owners : h'.ownerOnline = h.ownerOnline
  subscribers : ∀ k conn, h'.subscribes k conn = h.subscribes k conn
  sets : h'.browserStreams = h.browserStreams

theorem bindUpstream_contains (device : Uuid) (tag : TargetTag) (c : StreamCell) (uid : String) :
    (c.bindUpstream ctx device tag).ds.upstreams.contains uid =
      (c.ds.upstreams.contains uid || decide (uid = upstreamStreamId device tag)) := by
  unfold StreamCell.bindUpstream
  dsimp only
  split
  · next bound =>
    by_cases same : uid = upstreamStreamId device tag
    · rw [same, bound]
      rfl
    · simp [same]
  · rw [FiniteMap.contains_insert, Bool.or_comm]

theorem bindUpstream_subscribers (device : Uuid) (tag : TargetTag) (c : StreamCell) :
    (c.bindUpstream ctx device tag).ds.subscribers = c.ds.subscribers ∧
      (c.bindUpstream ctx device tag).detached = c.detached := by
  unfold StreamCell.bindUpstream
  dsimp only
  split
  · exact ⟨rfl, rfl⟩
  · exact ⟨rfl, rfl⟩

theorem subscribeUpstream_contains (need : Uuid × TargetTag) (c : StreamCell) (uid : String) :
    (c.subscribeUpstream ctx need).ds.upstreams.contains uid =
      (c.ds.upstreams.contains uid || decide (uid = upstreamStreamId need.1 need.2)) := by
  obtain ⟨device, tag⟩ := need
  unfold StreamCell.subscribeUpstream
  dsimp only
  cases bound : c.ds.upstreams.get? (upstreamStreamId device tag) with
  | none => exact bindUpstream_contains device tag c uid
  | some binding =>
    have present : c.ds.upstreams.contains (upstreamStreamId device tag) = true :=
      FiniteMap.contains_iff.mpr ⟨binding, bound⟩
    have same : (c.ds.upstreams.contains uid || decide (uid = upstreamStreamId device tag)) =
        c.ds.upstreams.contains uid := by
      by_cases same : uid = upstreamStreamId device tag
      · rw [same, present]
        rfl
      · simp [same]
    rw [same]
    dsimp only
    split
    · exact StreamCell.contains_rebound bound _ uid
    · rfl

theorem subscribeUpstream_subscribers (need : Uuid × TargetTag) (c : StreamCell) :
    (∀ conn, (c.subscribeUpstream ctx need).ds.subscribers.contains conn =
      c.ds.subscribers.contains conn) ∧
      (c.subscribeUpstream ctx need).detached = c.detached := by
  obtain ⟨device, tag⟩ := need
  unfold StreamCell.subscribeUpstream
  dsimp only
  cases c.ds.upstreams.get? (upstreamStreamId device tag) with
  | none =>
    obtain ⟨subscribers, detached⟩ := @bindUpstream_subscribers ctx device tag c
    exact ⟨fun conn => by rw [subscribers], detached⟩
  | some binding =>
    dsimp only
    split
    · exact ⟨fun conn => FiniteMap.contains_mapVal _ _ conn, rfl⟩
    · exact ⟨fun _ => rfl, rfl⟩

/-- One device of the first section of `browser_subscribe`. -/
theorem subscribeUpstream_adds (key : DKey) (fresh : Uuid) (need : Uuid × TargetTag)
    (h : HubInner) :
    Adds key (upstreamStreamId need.1 need.2) h (h.subscribeUpstream ctx key fresh need) := by
  have streams (k : DKey) : (h.subscribeUpstream ctx key fresh need).streams.get? k =
      ((h.ensureStream key fresh).onStream ctx key (·.subscribeUpstream ctx need)).streams.get? k := by
    unfold subscribeUpstream
    dsimp only
    split <;> rfl
  have any (p : DStream → Bool) (k : DKey) :
      ((h.subscribeUpstream ctx key fresh need).streams.get? k).any p =
        if k = key then ((h.ensureStream key fresh).streams.get? key).any fun ds =>
          p ((StreamCell.ofStream ds (h.ensureStream key fresh).browsers).subscribeUpstream ctx
            need).ds
        else ((h.ensureStream key fresh).streams.get? k).any p := by
    rw [streams, onStream_streams_get?]
    split
    · exact Option.any_map
    · rfl
  refine ⟨fun k u => ?_, ?_, ?_, fun k conn => ?_, ?_⟩
  · unfold binds
    rw [any]
    split
    · next same =>
      subst same
      rw [ensureStream_get?]
      simp only [Option.any_some, subscribeUpstream_contains, decide_true, Bool.true_and]
      congr 1
      have before := @ensureStream_binds k fresh h k u
      rw [binds, binds, ensureStream_get?] at before
      exact before
    · next apart =>
      rw [← binds, ensureStream_binds]
      simp [binds, apart]
  · have before := @ensureStream_binds key fresh h key (upstreamStreamId need.1 need.2)
    unfold subscribeUpstream
    dsimp only
    change (if (h.ensureStream key fresh).binds key (upstreamStreamId need.1 need.2) = true then _
      else _ : HubInner).upstreamIndex = _
    rw [before]
    split
    · rw [onStream_upstreamIndex, ensureStream_upstreamIndex]
    · dsimp only
      rw [onStream_upstreamIndex, ensureStream_upstreamIndex]
  · refine Eq.trans ?_ (ensureStream_ownerOnline key fresh h)
    refine Eq.trans ?_ (@onStream_ownerOnline ctx key (·.subscribeUpstream ctx need) _)
    unfold subscribeUpstream
    dsimp only
    split <;> rfl
  · unfold subscribes
    rw [any]
    split
    · next same =>
      subst same
      simp only [(subscribeUpstream_subscribers need _).1]
      exact ensureStream_subscribes fresh h k conn
    · exact ensureStream_subscribes fresh h k conn
  · refine Eq.trans ?_ (ensureStream_browserStreams key fresh h)
    have silent (c : StreamCell) : (c.subscribeUpstream ctx need).detached = c.detached :=
      (subscribeUpstream_subscribers need c).2
    refine Eq.trans ?_ (@onStream_browserStreams ctx _ silent key _)
    unfold subscribeUpstream
    dsimp only
    split <;> rfl

/-- One stream of `ensure_bindings_for_device`. -/
theorem ensureBinding_adds (device : Uuid) (acc : HubInner × List (Uuid × Envelope))
    (present : acc.1.streams.contains key = true) :
    Adds key (upstreamStreamId device key.2) acc.1 (ensureBinding ctx device acc key).1 := by
  obtain ⟨ds, found⟩ := FiniteMap.contains_iff.mp present
  unfold ensureBinding
  dsimp only
  split
  · next bound =>
    have bound : acc.1.binds key (upstreamStreamId device key.2) = true := bound
    refine ⟨fun k u => ?_, (if_pos bound).symm, rfl, fun _ _ => rfl, rfl⟩
    by_cases same : k = key ∧ u = upstreamStreamId device key.2
    · rw [same.1, same.2, bound]
      rfl
    · rw [← Bool.decide_and, decide_eq_false same, Bool.or_false]
  · next unbound =>
    have unbound : ¬ acc.1.binds key (upstreamStreamId device key.2) = true := unbound
    have updated : (acc.1.updateStream key (·.bindUpstream ctx device key.2)).1.browserStreams =
        acc.1.browserStreams := by
      unfold updateStream
      rw [found]
      dsimp only
      rw [(bindUpstream_subscribers device key.2 _).2]
      rfl
    refine ⟨fun k u => ?_, ?_, ?_, fun k conn => ?_, updated⟩
    · unfold binds
      dsimp only
      rw [updateStream_streams_get?]
      split
      · next same =>
        subst same
        rw [found]
        exact (bindUpstream_contains device k.2 _ u).trans (by simp [StreamCell.ofStream])
      · next apart => simp [apart]
    · rw [if_neg unbound]
      dsimp only
      rw [updateStream_upstreamIndex]
    · unfold updateStream
      rw [found]
      rfl
    · unfold subscribes
      dsimp only
      rw [updateStream_streams_get?]
      split
      · next same =>
        subst same
        rw [found]
        dsimp only [Option.map_some, Option.any_some]
        rw [(bindUpstream_subscribers device k.2 _).1]
        rfl
      · rfl

end HubInner

end AgentConsole.Relay
