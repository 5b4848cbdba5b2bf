import AgentConsole.Lib.Run
import AgentConsole.Relay.Delivery

/-! # Browser connections and their identities

Pushing to a connection, serving it or detaching it from a stream leaves its
identity and the set of connections as they are.  Only `register_browser` adds
a connection, only the sections that close connections remove one, and only
`set_degraded` changes the degraded mark. -/

namespace AgentConsole.Relay

open AgentConsole.Lib

/-- Who is behind a connection. -/
def idents (browsers : Browsers) (conn : Uuid) : Option BrowserIdentity :=
  (browsers.get? conn).map (·.ident)

theorem idents_eq_none {browsers : Browsers} {conn : Uuid} :
    idents browsers conn = none ↔ browsers.get? conn = none :=
  Option.map_eq_none_iff

theorem idents_mapVal {f : Uuid → BrowserConn → BrowserConn} (browsers : Browsers)
    (keeps : ∀ conn bc, (f conn bc).ident = bc.ident) :
    idents (browsers.mapVal f) = idents browsers := by
  funext conn
  unfold idents
  rw [FiniteMap.get?_mapVal]
  cases browsers.get? conn with
  | none => rfl
  | some bc => exact congrArg some (keeps conn bc)

theorem idents_insert {browsers : Browsers} {conn : Uuid} {bc bc' : BrowserConn}
    (found : browsers.get? conn = some bc) (keeps : bc'.ident = bc.ident) :
    idents (browsers.insert conn bc') = idents browsers := by
  funext other
  unfold idents
  rw [FiniteMap.get?_insert]
  split
  case isTrue same => rw [same, found, Option.map_some, Option.map_some, keeps]
  case isFalse => rfl

theorem idents_modify {f : BrowserConn → BrowserConn} (browsers : Browsers) (conn : Uuid)
    (keeps : ∀ bc, (f bc).ident = bc.ident) :
    idents (browsers.modify conn f) = idents browsers := by
  unfold FiniteMap.modify
  split
  · rfl
  · next bc found => exact idents_insert found (keeps bc)

/-! ## Pushing -/

namespace BrowserConn

variable {ctx : Ctx} {conn : Uuid}

@[simp] theorem pushFrame_ident (bc : BrowserConn) (f : Frame) :
    (bc.pushFrame ctx conn f).1.ident = bc.ident := by
  unfold pushFrame
  dsimp only
  split <;> rfl

@[simp] theorem pushDirect_ident (bc : BrowserConn) (env : Envelope) :
    (bc.pushDirect ctx conn env).1.ident = bc.ident := rfl

@[simp] theorem close_ident (bc : BrowserConn) (reason : String) :
    (bc.close reason).ident = bc.ident := rfl

@[simp] theorem pushFrames_ident (frames : List Frame) (bc : BrowserConn) :
    (bc.pushFrames ctx conn frames).1.ident = bc.ident := by
  induction frames generalizing bc with
  | nil => rfl
  | cons f rest inductionHypothesis =>
    have first : (bc.pushFrame ctx conn f).1.ident = bc.ident := pushFrame_ident bc f
    unfold pushFrames
    split
    · next pushed result =>
      rw [inductionHypothesis, ← first, result]
    · next pushed e result => rw [← first, result]

@[simp] theorem pushReplay_ident (subscribed : Envelope) (frames : List Frame)
    (bc : BrowserConn) : (bc.pushReplay ctx conn subscribed frames).1.ident = bc.ident := by
  have first : (bc.pushDirect ctx conn subscribed).1.ident = bc.ident :=
    pushDirect_ident bc subscribed
  unfold pushReplay
  split
  · next pushed result => rw [pushFrames_ident, ← first, result]
  · next pushed result => rw [← first, result]

end BrowserConn

/-! ## Streams -/

section Streams

variable {ctx : Ctx}

theorem notifyResync_idents (ds : DStream) (browsers : Browsers) :
    idents (ds.notifyResync ctx browsers) = idents browsers := by
  apply idents_mapVal
  intro conn bc
  split <;> simp

theorem deliver_idents (frame : Frame) (ds : DStream) (browsers : Browsers) :
    idents (ds.deliver ctx frame browsers).1 = idents browsers := by
  apply idents_mapVal
  intro conn bc
  split <;> simp

namespace StreamCell

theorem detachFailed_idents (conns : List Uuid) (c : StreamCell) :
    idents (c.detachFailed ctx conns).browsers = idents c.browsers := by
  apply idents_mapVal
  intro conn bc
  split <;> simp

theorem emitEvent_idents (env : Envelope) (acc : StreamCell × List Uuid) (event : Event) :
    idents (emitEvent ctx env acc event).1.browsers = idents acc.1.browsers := by
  unfold emitEvent
  dsimp only
  split
  · exact notifyResync_idents _ _
  · exact deliver_idents _ _ _

theorem stash_idents (batch : PendingUpstreamBatch) (c : StreamCell) :
    idents (c.stash ctx batch).browsers = idents c.browsers := by
  unfold stash
  dsimp only
  split
  · exact notifyResync_idents _ _
  · rfl

theorem fanOutEvents_idents (upstreamId : String) (env : Envelope) (events : List Event)
    (c : StreamCell) : idents (c.fanOutEvents ctx upstreamId env events).browsers =
      idents c.browsers := by
  unfold fanOutEvents
  split
  · rfl
  · split
    · rfl
    · split
      · rfl
      · dsimp only
        split
        · exact stash_idents _ c
        · rw [detachFailed_idents]
          exact foldl_unchanged (emitEvent ctx env) (fun acc => idents acc.1.browsers)
            (fun acc event => emitEvent_idents env acc event) events (_, [])

theorem handleUpstreamSubscribed_idents (upstreamId : String) (sub : Subscribed)
    (c : StreamCell) : idents (c.handleUpstreamSubscribed ctx upstreamId sub).browsers =
      idents c.browsers := by
  unfold handleUpstreamSubscribed
  split
  · rfl
  · dsimp only
    split
    · rfl
    · exact notifyResync_idents _ _

theorem snapshotPush_ident (ds : DStream) (frame : Frame) (conn : Uuid) (sub : SubscriberState)
    (bc : BrowserConn) : (snapshotPush ctx ds frame conn sub bc).1.ident = bc.ident := by
  unfold snapshotPush
  split <;> simp

theorem serveSnapshot_idents (frame : Frame) (c : StreamCell) :
    idents (c.serveSnapshot ctx frame).browsers = idents c.browsers := by
  unfold serveSnapshot
  rw [detachFailed_idents]
  apply idents_mapVal
  intro conn bc
  dsimp only
  cases c.ds.subscribers.get? conn with
  | none => rfl
  | some sub => exact snapshotPush_ident c.ds frame conn sub bc

theorem handleUpstreamSnapshot_idents (upstreamId : String) (env : Envelope) (c : StreamCell) :
    idents (c.handleUpstreamSnapshot ctx upstreamId env).browsers = idents c.browsers := by
  unfold handleUpstreamSnapshot
  split
  · rfl
  · exact serveSnapshot_idents _ _

theorem handleResyncRequired_idents (sender : Uuid) (upstreamId : String) (c : StreamCell) :
    idents (c.handleResyncRequired ctx sender upstreamId).browsers = idents c.browsers := by
  unfold handleResyncRequired
  split <;> rfl

theorem fanOutPresence_idents (device : Uuid) (online : Bool) (c : StreamCell) :
    idents (c.fanOutPresence ctx device online).browsers = idents c.browsers := by
  unfold fanOutPresence
  split
  · rfl
  · dsimp only
    rw [detachFailed_idents]
    exact deliver_idents _ _ _

theorem bindUpstream_idents (device : Uuid) (tag : TargetTag) (c : StreamCell) :
    idents (c.bindUpstream ctx device tag).browsers = idents c.browsers := by
  unfold bindUpstream
  dsimp only
  split <;> rfl

theorem subscribeUpstream_idents (need : Uuid × TargetTag) (c : StreamCell) :
    idents (c.subscribeUpstream ctx need).browsers = idents c.browsers := by
  unfold subscribeUpstream
  dsimp only
  split
  · exact bindUpstream_idents _ _ c
  · split <;> rfl

theorem serveReplay_idents (conn : Uuid) (correlation : String) (c : StreamCell) :
    idents (c.serveReplay ctx conn correlation).browsers = idents c.browsers := by
  unfold serveReplay
  split
  · rfl
  · next bc found =>
    dsimp only
    split
    · exact idents_insert found (BrowserConn.pushReplay_ident _ _ bc)
    · rw [detachFailed_idents]
      exact idents_insert found (BrowserConn.pushReplay_ident _ _ bc)

theorem attachSubscriber_idents (conn : Uuid) (correlation : String) (c : StreamCell) :
    idents (c.attachSubscriber ctx conn correlation).browsers = idents c.browsers := by
  unfold attachSubscriber
  split
  · dsimp only
    split
    · exact serveReplay_idents _ _ _
    · rfl
  · rfl

theorem browserResync_idents (conn : Uuid) (correlation : String) (c : StreamCell) :
    idents (c.browserResync ctx conn correlation).browsers = idents c.browsers := by
  unfold browserResync
  split
  · split
    · rfl
    · exact serveReplay_idents _ _ _
  · rfl

theorem relievePressure_idents (c : StreamCell) :
    idents (c.relievePressure ctx).browsers = idents c.browsers :=
  notifyResync_idents _ _

end StreamCell

end Streams

/-! ## The hub -/

/-- The connections, their identities and the degraded mark are as before. -/
structure Undisturbed (h h' : HubInner) : Prop where
  idents : idents h'.browsers = idents h.browsers
  degraded : h'.degradedUntil = h.degradedUntil

namespace Undisturbed

variable {h mid h' : HubInner}

theorem refl (h : HubInner) : Undisturbed h h := ⟨rfl, rfl⟩

theorem trans (first : Undisturbed h mid) (rest : Undisturbed mid h') : Undisturbed h h' :=
  ⟨rest.idents.trans first.idents, rest.degraded.trans first.degraded⟩

theorem foldl {α : Type} {f : HubInner → α → HubInner} (each : ∀ h a, Undisturbed h (f h a))
    (items : List α) (h : HubInner) : Undisturbed h (items.foldl f h) := by
  induction items generalizing h with
  | nil => exact refl h
  | cons a rest inductionHypothesis => exact (each h a).trans (inductionHypothesis _)

end Undisturbed

namespace HubInner

variable {ctx : Ctx}

theorem sendToBridge_undisturbed (device : Uuid) (env : Envelope) (h : HubInner) :
    Undisturbed h (h.sendToBridge ctx device env).1 := by
  unfold sendToBridge
  split <;> exact ⟨rfl, rfl⟩

theorem sendAll_undisturbed (envs : List (Uuid × Envelope)) (h : HubInner) :
    Undisturbed h (h.sendAll ctx envs) := by
  apply Undisturbed.foldl
  intro h e
  exact sendToBridge_undisturbed e.1 e.2 h

theorem reply_undisturbed (conn : Uuid) (env : Envelope) (h : HubInner) :
    Undisturbed h (h.reply ctx conn env) :=
  ⟨idents_modify h.browsers conn fun bc => BrowserConn.pushDirect_ident bc env, rfl⟩

theorem updateStream_undisturbed (key : DKey) {op : StreamCell → StreamCell} (h : HubInner)
    (keeps : ∀ c, idents (op c).browsers = idents c.browsers) :
    Undisturbed h (h.updateStream key op).1 := by
  unfold updateStream
  split
  · exact .refl h
  · exact ⟨keeps _, rfl⟩

theorem onStream_undisturbed (key : DKey) {op : StreamCell → StreamCell} (h : HubInner)
    (keeps : ∀ c, idents (op c).browsers = idents c.browsers) :
    Undisturbed h (h.onStream ctx key op) :=
  (updateStream_undisturbed key h keeps).trans (sendAll_undisturbed _ _)

theorem onUpstream_undisturbed (upstreamId : String) {op : StreamCell → StreamCell}
    (h : HubInner) (keeps : ∀ c, idents (op c).browsers = idents c.browsers) :
    Undisturbed h (h.onUpstream ctx upstreamId op) := by
  unfold onUpstream
  split
  · exact .refl h
  · exact onStream_undisturbed _ h keeps

theorem ensureStream_undisturbed (key : DKey) (fresh : Uuid) (h : HubInner) :
    Undisturbed h (h.ensureStream key fresh) := by
  unfold ensureStream
  split <;> exact ⟨rfl, rfl⟩

theorem ensureBindings_undisturbed (device owner : Uuid) (h : HubInner) :
    Undisturbed h (h.ensureBindings ctx device owner).1 := by
  have each (acc : HubInner × List (Uuid × Envelope)) (key : DKey) :
      Undisturbed acc.1 (ensureBinding ctx device acc key).1 := by
    unfold ensureBinding
    dsimp only
    split
    · exact .refl _
    · exact (updateStream_undisturbed key acc.1 fun c =>
        StreamCell.bindUpstream_idents device key.2 c).trans ⟨rfl, rfl⟩
  have all (keys : List DKey) (acc : HubInner × List (Uuid × Envelope)) :
      Undisturbed acc.1 (keys.foldl (ensureBinding ctx device) acc).1 := by
    induction keys generalizing acc with
    | nil => exact .refl _
    | cons key rest inductionHypothesis => exact (each acc key).trans (inductionHypothesis _)
  exact all _ (h, [])

theorem subscribeUpstream_undisturbed (key : DKey) (fresh : Uuid) (h : HubInner)
    (need : Uuid × TargetTag) : Undisturbed h (subscribeUpstream ctx key fresh h need) := by
  have bound : Undisturbed h ((h.ensureStream key fresh).onStream ctx key
      (·.subscribeUpstream ctx need)) :=
    (ensureStream_undisturbed key fresh h).trans (onStream_undisturbed key _ fun c =>
      StreamCell.subscribeUpstream_idents need c)
  unfold subscribeUpstream
  dsimp only
  split
  · exact bound
  · exact bound.trans ⟨rfl, rfl⟩

theorem subscribeBind_undisturbed (conn : Uuid) (key : DKey) (needs : List (Uuid × TargetTag))
    (fresh : Uuid) (h : HubInner) : Undisturbed h (h.subscribeBind ctx conn key needs fresh) := by
  unfold subscribeBind
  split
  · exact .foldl (fun h need => subscribeUpstream_undisturbed key fresh h need) needs h
  · exact .refl h

theorem subscribeAttach_undisturbed (conn : Uuid) (key : DKey) (correlation : String)
    (fresh : Uuid) (h : HubInner) :
    Undisturbed h (h.subscribeAttach ctx conn key correlation fresh) := by
  have ensured := ensureStream_undisturbed key fresh h
  unfold subscribeAttach
  dsimp only
  split
  · refine ensured.trans ?_
    generalize h.ensureStream key fresh = mid
    let sets := mid.browserStreams.insert conn (((mid.browserStreams.get? conn).getD []).insert key)
    have attached : Undisturbed { mid with browserStreams := sets }
        ({ mid with browserStreams := sets }.onStream ctx key
          (·.attachSubscriber ctx conn correlation)) :=
      onStream_undisturbed key _ fun cell =>
        StreamCell.attachSubscriber_idents conn correlation cell
    exact ⟨attached.idents, attached.degraded⟩
  · exact .refl h

theorem browserUnsubscribe_undisturbed (conn : Uuid) (streamId : String) (h : HubInner) :
    Undisturbed h (h.browserUnsubscribe ctx conn streamId) := by
  unfold browserUnsubscribe
  split
  · exact .refl h
  · next key _ =>
    have dropped : Undisturbed h (h.onStream ctx key (·.dropSubscriber conn)) :=
      onStream_undisturbed key h fun _ => rfl
    exact ⟨dropped.idents, dropped.degraded⟩

theorem browserResync_undisturbed (conn : Uuid) (streamId correlation : String) (h : HubInner) :
    Undisturbed h (h.browserResync ctx conn streamId correlation) := by
  unfold browserResync
  split
  · exact .refl h
  · exact onStream_undisturbed _ h fun cell =>
      StreamCell.browserResync_idents conn correlation cell

theorem browserAck_undisturbed (conn : Uuid) (streamId : String) (sequence : Nat)
    (h : HubInner) : Undisturbed h (h.browserAck ctx conn streamId sequence) := by
  unfold browserAck
  split
  · exact .refl h
  · exact onStream_undisturbed _ h fun _ => rfl

theorem fanOutEvents_undisturbed (upstreamId : String) (env : Envelope) (events : List Event)
    (h : HubInner) : Undisturbed h (h.fanOutEvents ctx upstreamId env events) :=
  onUpstream_undisturbed upstreamId h fun c => StreamCell.fanOutEvents_idents _ env events c

theorem handleUpstreamSnapshot_undisturbed (upstreamId : String) (env : Envelope)
    (h : HubInner) : Undisturbed h (h.handleUpstreamSnapshot ctx upstreamId env) := by
  unfold handleUpstreamSnapshot
  split
  · exact .refl h
  · next key _ =>
    refine (onStream_undisturbed key h fun c =>
      StreamCell.handleUpstreamSnapshot_idents upstreamId env c).trans (.foldl ?_ _ _)
    intro h batch
    unfold flushBatch
    dsimp only
    split
    · exact .refl h
    · exact fanOutEvents_undisturbed _ _ _ h

theorem handleBridgeEnvelope_undisturbed (device : Uuid) (env : Envelope) (h : HubInner) :
    Undisturbed h (h.handleBridgeEnvelope ctx device env) := by
  unfold handleBridgeEnvelope
  split
  · exact sendToBridge_undisturbed device _ h
  · exact onUpstream_undisturbed _ h fun c => StreamCell.handleUpstreamSubscribed_idents _ _ c
  · exact handleUpstreamSnapshot_undisturbed _ _ h
  · split
    · exact handleUpstreamSnapshot_undisturbed _ _ h
    · exact fanOutEvents_undisturbed _ _ _ h
  · exact fanOutEvents_undisturbed _ _ _ h
  · unfold onCommandAccepted
    split
    · exact .refl h
    · exact reply_undisturbed _ _ h
  · unfold onCommandResult
    split
    · exact .refl h
    · dsimp only
      split
      · exact (reply_undisturbed _ _ h).trans ⟨rfl, rfl⟩
      · exact reply_undisturbed _ _ h
  · exact ⟨rfl, rfl⟩
  · exact onUpstream_undisturbed _ h fun c => StreamCell.handleResyncRequired_idents _ _ c
  · exact .refl h

theorem fanOutPresence_undisturbed (device owner : Uuid) (online : Bool) (h : HubInner) :
    Undisturbed h (h.fanOutPresence ctx device owner online) :=
  .foldl (fun h key => onStream_undisturbed key h fun c =>
    StreamCell.fanOutPresence_idents device online c) _ h

theorem abandon_undisturbed (pending : List (String × PendingCommand)) (h : HubInner) :
    Undisturbed h (pending.foldl (abandonCommand ctx) h) := by
  apply Undisturbed.foldl
  intro h entry
  exact reply_undisturbed entry.2.connId _ h

theorem removeBridge_undisturbed (device : Uuid) (h : HubInner) :
    Undisturbed h (h.removeBridge ctx device).1 := by
  unfold removeBridge
  dsimp only
  exact ⟨(abandon_undisturbed _ _).idents, (abandon_undisturbed _ _).degraded⟩

theorem beginShutdown_undisturbed (h : HubInner) : Undisturbed h (h.beginShutdown ctx).1 := by
  unfold beginShutdown
  dsimp only
  exact ⟨(abandon_undisturbed _ _).idents, (abandon_undisturbed _ _).degraded⟩

theorem sweepGlobalMemory_undisturbed (order : List DKey) (h : HubInner) :
    Undisturbed h (h.sweepGlobalMemory ctx order) := by
  have reclaimed : Undisturbed h h.reclaimStreams := ⟨rfl, rfl⟩
  unfold sweepGlobalMemory
  dsimp only
  split
  · split
    · exact reclaimed.trans (onStream_undisturbed _ _ fun c => StreamCell.relievePressure_idents c)
    · exact reclaimed
  · exact reclaimed

theorem detachSubscriber_undisturbed (conn : Uuid) (h : HubInner) :
    Undisturbed h (h.detachSubscriber conn) := by
  unfold detachSubscriber
  split <;> exact ⟨rfl, rfl⟩

/-- A closed connection is gone, the others stay. -/
theorem removeBrowser_idents (conn other : Uuid) (h : HubInner) :
    idents (h.removeBrowser conn).browsers other =
      if other = conn then none else idents h.browsers other := by
  unfold removeBrowser
  rw [(detachSubscriber_undisturbed conn _).idents]
  unfold idents
  rw [FiniteMap.get?_erase]
  split <;> rfl

theorem removeBrowser_degraded (conn : Uuid) (h : HubInner) :
    (h.removeBrowser conn).degradedUntil = h.degradedUntil :=
  (detachSubscriber_undisturbed conn _).degraded

theorem closeBrowser_idents (conn other : Uuid) (h : HubInner) :
    idents (h.closeBrowser conn).browsers other =
      if other = conn then none else idents h.browsers other := by
  unfold closeBrowser
  split
  · exact removeBrowser_idents conn other h
  · next absent =>
    split
    · next same =>
      rw [same, idents_eq_none]
      simpa [FiniteMap.contains] using absent
    · rfl

theorem closeBrowser_degraded (conn : Uuid) (h : HubInner) :
    (h.closeBrowser conn).degradedUntil = h.degradedUntil := by
  unfold closeBrowser
  split
  · exact removeBrowser_degraded conn h
  · rfl

theorem foldl_removeBrowser_idents (conns : List Uuid) (other : Uuid) (h : HubInner) :
    idents (conns.foldl (fun h conn => h.removeBrowser conn) h).browsers other =
      if other ∈ conns then none else idents h.browsers other := by
  induction conns generalizing h with
  | nil => simp
  | cons conn rest inductionHypothesis =>
    rw [List.foldl_cons, inductionHypothesis, removeBrowser_idents]
    by_cases same : other = conn
    · simp [same]
    · simp [same]

/-- `close_all_browsers` leaves none. -/
theorem closeAllBrowsers_idents (other : Uuid) (h : HubInner) :
    idents h.closeAllBrowsers.browsers other = none := by
  unfold closeAllBrowsers
  rw [foldl_removeBrowser_idents]
  split
  · rfl
  · next absent =>
    rw [idents_eq_none]
    by_contra there
    obtain ⟨bc, found⟩ := Option.ne_none_iff_exists'.mp there
    exact absent (FiniteMap.mem_keys.mpr ⟨bc, found⟩)

theorem closeAllBrowsers_degraded (h : HubInner) :
    h.closeAllBrowsers.degradedUntil = h.degradedUntil :=
  foldl_unchanged _ degradedUntil (fun h conn => removeBrowser_degraded conn h) _ h

/-- No section but `register_browser` opens a connection or changes who is behind it. -/
theorem step_idents {op : HubOp} {h : HubInner} {conn : Uuid} {ident : BrowserIdentity}
    (after : idents (h.step ⟨ctx, op⟩).browsers conn = some ident) :
    idents h.browsers conn = some ident ∨ op = .registerBrowser conn ident := by
  have same {h' : HubInner} (undisturbed : Undisturbed h h')
      (after : idents h'.browsers conn = some ident) : idents h.browsers conn = some ident :=
    undisturbed.idents ▸ after
  unfold step at after
  cases op with
  | registerBrowser c i =>
    dsimp only [registerBrowser] at after
    unfold idents at after
    rw [FiniteMap.get?_insert] at after
    split at after
    · next this =>
      cases after
      exact .inr (this ▸ rfl)
    · exact .inl after
  | closeBrowser c =>
    dsimp only at after
    rw [closeBrowser_idents] at after
    split at after
    · cases after
    · exact .inl after
  | closeAllBrowsers => exact nomatch (closeAllBrowsers_idents conn h).symm.trans after
  | removeBrowser c =>
    dsimp only at after
    rw [removeBrowser_idents] at after
    split at after
    · cases after
    · exact .inl after
  | ensureBindings device owner => exact .inl (same (ensureBindings_undisturbed device owner h) after)
  | removeBridge device => exact .inl (same (removeBridge_undisturbed device h) after)
  | sendToBridge device env => exact .inl (same (sendToBridge_undisturbed device env h) after)
  | beginShutdown => exact .inl (same (beginShutdown_undisturbed h) after)
  | subscribeBind c key needs fresh =>
    exact .inl (same (subscribeBind_undisturbed c key needs fresh h) after)
  | subscribeAttach c key correlation fresh =>
    exact .inl (same (subscribeAttach_undisturbed c key correlation fresh h) after)
  | browserUnsubscribe c streamId =>
    exact .inl (same (browserUnsubscribe_undisturbed c streamId h) after)
  | browserResync c streamId correlation =>
    exact .inl (same (browserResync_undisturbed c streamId correlation h) after)
  | browserAck c streamId sequence =>
    exact .inl (same (browserAck_undisturbed c streamId sequence h) after)
  | bridgeEnvelope device env =>
    exact .inl (same (handleBridgeEnvelope_undisturbed device env h) after)
  | fanOutPresence device owner online =>
    exact .inl (same (fanOutPresence_undisturbed device owner online h) after)
  | heartbeatAck c => exact .inl (same (reply_undisturbed c _ h) after)
  | protocolError c error => exact .inl (same (reply_undisturbed c _ h) after)
  | commandReply c result => exact .inl (same (reply_undisturbed c _ h) after)
  | sweepGlobalMemory order => exact .inl (same (sweepGlobalMemory_undisturbed order h) after)
  | browserWriter c taken =>
    left
    have drained := idents_modify (f := fun bc : BrowserConn => { bc with outbox := bc.outbox.drain taken })
      h.browsers c fun _ => rfl
    exact drained ▸ after
  | _ => exact .inl (same ⟨rfl, rfl⟩ after)

/-- Only `set_degraded` changes the degraded mark. -/
theorem step_degraded {op : HubOp} (h : HubInner)
    (other : ∀ degradedUntil, op ≠ .setDegraded degradedUntil) :
    (h.step ⟨ctx, op⟩).degradedUntil = h.degradedUntil := by
  unfold step
  cases op with
  | setDegraded degradedUntil => exact absurd rfl (other degradedUntil)
  | closeBrowser c => exact closeBrowser_degraded c h
  | closeAllBrowsers => exact closeAllBrowsers_degraded h
  | removeBrowser c => exact removeBrowser_degraded c h
  | ensureBindings device owner => exact (ensureBindings_undisturbed device owner h).degraded
  | removeBridge device => exact (removeBridge_undisturbed device h).degraded
  | sendToBridge device env => exact (sendToBridge_undisturbed device env h).degraded
  | beginShutdown => exact (beginShutdown_undisturbed h).degraded
  | subscribeBind c key needs fresh => exact (subscribeBind_undisturbed c key needs fresh h).degraded
  | subscribeAttach c key correlation fresh =>
    exact (subscribeAttach_undisturbed c key correlation fresh h).degraded
  | browserUnsubscribe c streamId => exact (browserUnsubscribe_undisturbed c streamId h).degraded
  | browserResync c streamId correlation =>
    exact (browserResync_undisturbed c streamId correlation h).degraded
  | browserAck c streamId sequence => exact (browserAck_undisturbed c streamId sequence h).degraded
  | bridgeEnvelope device env => exact (handleBridgeEnvelope_undisturbed device env h).degraded
  | fanOutPresence device owner online =>
    exact (fanOutPresence_undisturbed device owner online h).degraded
  | sweepGlobalMemory order => exact (sweepGlobalMemory_undisturbed order h).degraded
  | _ => rfl

end HubInner

end AgentConsole.Relay
