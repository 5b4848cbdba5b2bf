import AgentConsole.Relay.OverflowResync
import AgentConsole.Relay.Replay

/-! # Critical frames survive an overflow

A run is watched together with its resets.  Every reset is told to the subscribers of its
stream; a snapshot that is served later is newer than the frames lost before it as long as
nobody is served the cached snapshots of a stream that has been reset since. -/

namespace AgentConsole.Relay

open AgentConsole.Lib

/-! ## Watching a run -/

/-- The hub, with the resets of the run so far. -/
structure Watched where
  hub : HubInner
  resets : List Reset

/-- The snapshot came after every Critical frame of its device that the stream has lost. -/
def Frame.Covers (lost : List Reset) (ds : DStream) (f : Frame) : Prop :=
  ∀ r ∈ lost, ∀ g ∈ r.dropped, g ∈ ds.log → g.env.deviceId = f.env.deviceId →
    g.sequence < f.sequence

instance (lost : List Reset) (ds : DStream) (f : Frame) : Decidable (f.Covers lost ds) :=
  List.decidableBAll _ _

namespace Watched

def new : Watched := ⟨.new, []⟩

def step (w : Watched) (s : HubStep) : Watched :=
  ⟨w.hub.step s, w.resets ++ w.hub.resets s⟩

/-- `f` is a frame of a stream, and newer than what the stream had lost before the step. -/
def Current (w : Watched) (after : HubInner) (f : Frame) : Prop :=
  ∃ key ds', after.streams.get? key = some ds' ∧ f ∈ ds'.log ∧
    ∀ ds, w.hub.streams.get? key = some ds → f.Covers w.resets ds

/-- Cached snapshots are served (to one that joins, to one that resyncs on a list, to those
that wait when another device's snapshot arrives) only where no Critical frame has been lost
since, and presence overflows a buffer only when nobody waits for a first snapshot. -/
def ServesFresh (w : Watched) (s : HubStep) : Prop :=
  match s.op with
  | .subscribeAttach conn key _ _ =>
    w.hub.browsers.contains conn = true → ∀ ds, w.hub.streams.get? key = some ds →
      ∀ f ∈ ds.snapshots, f.Covers w.resets ds
  | .browserResync conn streamId _ =>
    ∀ key, w.hub.findStream streamId = some key → ∀ ds, w.hub.streams.get? key = some ds →
      ds.subscribers.contains conn = true → ds.key.2 = .list →
      ∀ f ∈ ds.snapshots, f.Covers w.resets ds
  | .bridgeEnvelope _ env =>
    isSnapshot env = true → ∀ key, w.hub.upstreamIndex.get? env.streamId = some key →
      ∀ ds, w.hub.streams.get? key = some ds →
      (∃ e ∈ ds.subscribers.toList, e.2.awaitingSnapshot = true ∧
        w.hub.browsers.contains e.1 = true) →
      ∀ f ∈ ds.snapshots, f.env.deviceId ≠ env.deviceId → f.Covers w.resets ds
  | .fanOutPresence device owner online =>
    ∀ ds, w.hub.streams.get? (owner, .list) = some ds →
      ds.presenceResets s.ctx (owner, .list) device online ≠ [] →
      ∀ conn, ds.subscribers.contains conn = true → w.hub.browsers.contains conn = true →
        ds.active conn = true
  | _ => True

end Watched

/-! ## Which snapshots are served -/

/-- The snapshots of a window are the cached ones. -/
theorem DStream.Sound.window_snapshot {ds : DStream} (sound : ds.Sound) {f : Frame}
    (member : f ∈ ds.replayWindow.2) (isSnap : isSnapshot f.env = true) : f ∈ ds.snapshots := by
  rcases sound.numbered.window.2.1 f member with snapshot | item
  · exact snapshot
  · have noSnapshot := (sound.events f item).2.2.carries.2
    rw [isSnap] at noSnapshot
    cases noSnapshot

theorem DStream.mem_cacheSnapshot {ds : DStream} {frame f : Frame}
    (member : f ∈ (ds.cacheSnapshot frame).snapshots) :
    (f ∈ ds.snapshots ∧ f.env.deviceId ≠ frame.env.deviceId) ∨ f = frame := by
  have kept := (List.drop_sublist _ _).subset member
  rcases List.mem_append.mp kept with old | new
  · obtain ⟨cached, other⟩ := List.mem_filter.mp old
    exact .inl ⟨cached, by simpa using other⟩
  · exact .inr (List.mem_singleton.mp new)

/-- Every connection of `after` comes from `before`, and has only taken more. -/
def Restricts (P : Frame → Prop) (before after : Browsers) : Prop :=
  ∀ conn bc', after.get? conn = some bc' →
    ∃ bc, before.get? conn = some bc ∧ Grown P bc bc'

namespace Restricts

variable {P : Frame → Prop} {before mid after : Browsers}

theorem refl (browsers : Browsers) : Restricts P browsers browsers :=
  fun _ bc found => ⟨bc, found, Grown.refl bc⟩

theorem trans (first : Restricts P before mid) (rest : Restricts P mid after) :
    Restricts P before after := by
  intro conn bc' found
  obtain ⟨between, foundMid, grown'⟩ := rest conn bc' found
  obtain ⟨bc, was, grown⟩ := first conn between foundMid
  exact ⟨bc, was, grown.trans grown'⟩

theorem of_sends (sends : Sends P before after) : Restricts P before after :=
  fun _ _ found => sends.before_of found

theorem of_eq (same : after = before) : Restricts P before after := by
  rw [same]
  exact refl before

theorem erase (conn : Uuid) (browsers : Browsers) : Restricts P browsers (browsers.erase conn) := by
  intro other bc found
  rw [FiniteMap.get?_erase] at found
  split at found
  · cases found
  · exact ⟨bc, found, Grown.refl bc⟩

theorem modify {f : BrowserConn → BrowserConn} (each : ∀ bc, Grown P bc (f bc)) (conn : Uuid)
    (browsers : Browsers) : Restricts P browsers (browsers.modify conn f) := by
  intro other bc' found
  rw [FiniteMap.get?_modify] at found
  split at found
  · next same =>
    obtain ⟨bc, was, rfl⟩ := Option.map_eq_some_iff.mp found
    exact ⟨bc, same ▸ was, each bc⟩
  · exact ⟨bc', found, Grown.refl bc'⟩

theorem foldl {α : Type} {f : HubInner → α → HubInner} (items : List α)
    (each : ∀ h, ∀ a, Restricts P h.browsers (f h a).browsers) (h : HubInner) :
    Restricts P h.browsers (items.foldl f h).browsers := by
  induction items generalizing h with
  | nil => exact refl _
  | cons a rest inductionHypothesis => exact (each h a).trans (inductionHypothesis _)

end Restricts

namespace HubInner

variable {P : Frame → Prop} {ctx : Ctx} {h : HubInner}

theorem onStream_restricts {key : DKey} {op : StreamCell → StreamCell}
    (sends : ∀ ds, h.streams.get? key = some ds →
      Sends P h.browsers (op (.ofStream ds h.browsers)).browsers) :
    Restricts P h.browsers (h.onStream ctx key op).browsers := by
  cases found : h.streams.get? key with
  | none =>
    have idle : h.onStream ctx key op = h := by
      unfold onStream updateStream
      rw [found]
      rfl
    exact .of_eq (by rw [idle])
  | some ds =>
    rw [onStream_browsers found]
    exact .of_sends (sends ds found)

theorem onUpstream_restricts {upstreamId : String} {op : StreamCell → StreamCell}
    (sends : ∀ c : StreamCell, Sends P c.browsers (op c).browsers) :
    Restricts P h.browsers (h.onUpstream ctx upstreamId op).browsers := by
  unfold onUpstream
  split
  · exact .refl _
  · exact onStream_restricts fun ds _ => sends (.ofStream ds h.browsers)

theorem reply_restricts (conn : Uuid) (env : Envelope) :
    Restricts P h.browsers (h.reply ctx conn env).browsers :=
  Restricts.modify (Grown.direct ctx conn env) conn h.browsers

theorem removeBrowser_restricts (conn : Uuid) :
    Restricts P h.browsers (h.removeBrowser conn).browsers := by
  have detached (h : HubInner) : (h.detachSubscriber conn).browsers = h.browsers := by
    unfold detachSubscriber
    split <;> rfl
  unfold removeBrowser
  rw [detached]
  exact Restricts.erase conn h.browsers

theorem abandonCommands_restricts (pending : List (String × PendingCommand)) (h : HubInner) :
    Restricts P h.browsers (pending.foldl (abandonCommand ctx) h).browsers :=
  Restricts.foldl pending (fun _ _ => reply_restricts _ _) h

theorem ensureBindings_browsers (device owner : Uuid) (h : HubInner) :
    (h.ensureBindings ctx device owner).1.browsers = h.browsers := by
  unfold ensureBindings
  generalize h.streams.keys.filter (shows device owner) = keys
  have fold : ∀ acc : HubInner × List (Uuid × Envelope),
      (keys.foldl (ensureBinding ctx device) acc).1.browsers = acc.1.browsers := by
    induction keys with
    | nil => exact fun _ => rfl
    | cons key rest inductionHypothesis =>
      intro acc
      rw [List.foldl_cons, inductionHypothesis]
      unfold ensureBinding
      dsimp only
      split
      · rfl
      · unfold updateStream
        split
        · rfl
        · dsimp only
          unfold StreamCell.bindUpstream
          dsimp only
          split <;> rfl
  exact fold (h, [])

theorem subscribeBind_restricts (conn : Uuid) (key : DKey) (needs : List (Uuid × TargetTag))
    (fresh : Uuid) : Restricts P h.browsers (h.subscribeBind ctx conn key needs fresh).browsers := by
  unfold subscribeBind
  split
  · refine Restricts.foldl needs (fun h need => ?_) h
    have bound : Restricts P h.browsers ((h.ensureStream key fresh).onStream ctx key
        (·.subscribeUpstream ctx need)).browsers := by
      refine (Restricts.of_eq (ensureStream_browsers key fresh h)).trans
        (onStream_restricts fun ds _ => ?_)
      have same (c : StreamCell) : (c.subscribeUpstream ctx need).browsers = c.browsers := by
        unfold StreamCell.subscribeUpstream
        dsimp only
        split
        · unfold StreamCell.bindUpstream
          dsimp only
          split <;> rfl
        · split <;> rfl
      rw [same]
      exact Sends.refl _
    unfold subscribeUpstream
    dsimp only
    split
    · exact bound
    · exact bound
  · exact .refl _

theorem sweepGlobalMemory_restricts (order : List DKey) :
    Restricts P h.browsers (h.sweepGlobalMemory ctx order).browsers := by
  unfold sweepGlobalMemory
  dsimp only
  split
  · split
    · exact onStream_restricts (h := h.reclaimStreams) fun ds _ =>
        StreamCell.notifyResync_sends _ _
    · exact .refl _
  · exact .refl _

end HubInner

/-! ## Every step -/

namespace Watched

variable {w : Watched} {ctx : Ctx}

theorem subscribeAttach_fresh
    (sound : ∀ key ds, w.hub.streams.get? key = some ds → ds.Sound) {conn : Uuid} {key : DKey}
    {correlation : String} {fresh : Uuid}
    (serves : w.hub.browsers.contains conn = true → ∀ ds, w.hub.streams.get? key = some ds →
      ∀ f ∈ ds.snapshots, f.Covers w.resets ds) :
    Restricts (w.Current (w.hub.subscribeAttach ctx conn key correlation fresh)) w.hub.browsers
      (w.hub.subscribeAttach ctx conn key correlation fresh).browsers := by
  unfold HubInner.subscribeAttach
  by_cases registered : w.hub.browsers.contains conn = true
  · rw [if_pos registered]
    dsimp only
    let table := (w.hub.ensureStream key fresh).browserStreams.insert conn
      ((((w.hub.ensureStream key fresh).browserStreams.get? conn).getD []).insert key)
    let joined : HubInner := { w.hub.ensureStream key fresh with browserStreams := table }
    have browsers : joined.browsers = w.hub.browsers := HubInner.ensureStream_browsers key fresh _
    refine (Restricts.of_eq browsers).trans (HubInner.onStream_restricts (h := joined)
      fun ds found => StreamCell.attachSubscriber_sends (c := .ofStream ds joined.browsers)
        correlation fun bc _ cached f member isSnap => ?_)
    -- a stream that has snapshots was there before
    have was : w.hub.streams.get? key = some ds := by
      have created : (w.hub.ensureStream key fresh).streams.get? key = some ds := found
      unfold HubInner.ensureStream at created
      split at created
      · exact created
      · dsimp only at created
        rw [FiniteMap.get?_insert_self] at created
        cases created
        exact absurd rfl cached
    have snapshot := (sound key ds was).window_snapshot member isSnap
    have after := @HubInner.onStream_streams_get? ctx key
      (·.attachSubscriber ctx conn correlation) joined key
    rw [if_pos rfl, found] at after
    refine ⟨key, _, after, ?_, fun ds' same => ?_⟩
    · have logged : f ∈ ds.log := (sound key ds was).numbered.snapshots.subset snapshot
      have same := @StreamCell.attachSubscriber_log ctx conn correlation
        (.ofStream ds joined.browsers)
      rw [same]
      exact logged
    · rw [was] at same
      cases same
      exact serves registered ds was f snapshot
  · rw [if_neg registered]
    exact Restricts.refl _

theorem browserResync_fresh (sound : ∀ key ds, w.hub.streams.get? key = some ds → ds.Sound)
    {conn : Uuid} {streamId correlation : String}
    (serves : ∀ key, w.hub.findStream streamId = some key →
      ∀ ds, w.hub.streams.get? key = some ds → ds.subscribers.contains conn = true →
        ds.key.2 = .list → ∀ f ∈ ds.snapshots, f.Covers w.resets ds) :
    Restricts (w.Current (w.hub.browserResync ctx conn streamId correlation)) w.hub.browsers
      (w.hub.browserResync ctx conn streamId correlation).browsers := by
  unfold HubInner.browserResync
  cases named : w.hub.findStream streamId with
  | none => exact Restricts.refl _
  | some key =>
    dsimp only
    refine HubInner.onStream_restricts fun ds found => StreamCell.browserResync_sends
      (c := .ofStream ds w.hub.browsers) correlation
      fun bc _ subscribed list _ f member isSnap => ?_
    have snapshot := (sound key ds found).window_snapshot member isSnap
    have after := @HubInner.onStream_streams_get? ctx key
      (·.browserResync ctx conn correlation) w.hub key
    rw [if_pos rfl, found] at after
    refine ⟨key, _, after, ?_, fun ds' same => ?_⟩
    · have logged : f ∈ ds.log := (sound key ds found).numbered.snapshots.subset snapshot
      have same := @StreamCell.browserResync_log ctx conn correlation
        (.ofStream ds w.hub.browsers)
      rw [same]
      exact logged
    · rw [found] at same
      cases same
      exact serves key named ds found subscribed list f snapshot

/-- A snapshot that arrives is newer than all that went before; the cached ones of other
devices go along to those who wait. -/
theorem handleUpstreamSnapshot_fresh
    (sound : ∀ key ds, w.hub.streams.get? key = some ds → ds.Sound) {upstreamId : String}
    {env : Envelope} (isSnap : isSnapshot env = true)
    (serves : ∀ key, w.hub.upstreamIndex.get? upstreamId = some key →
      ∀ ds, w.hub.streams.get? key = some ds →
      (∃ e ∈ ds.subscribers.toList, e.2.awaitingSnapshot = true ∧
        w.hub.browsers.contains e.1 = true) →
      ∀ f ∈ ds.snapshots, f.env.deviceId ≠ env.deviceId → f.Covers w.resets ds) :
    Restricts (w.Current (w.hub.handleUpstreamSnapshot ctx upstreamId env)) w.hub.browsers
      (w.hub.handleUpstreamSnapshot ctx upstreamId env).browsers := by
  unfold HubInner.handleUpstreamSnapshot
  cases routed : w.hub.upstreamIndex.get? upstreamId with
  | none => exact Restricts.refl _
  | some key =>
    dsimp only
    let ordered : HubInner :=
      w.hub.onStream ctx key (·.handleUpstreamSnapshot ctx upstreamId env)
    have flushed (P : Frame → Prop) : HubInner.Spreads P ordered
        ((w.hub.takenStash key upstreamId).foldl (HubInner.flushBatch ctx key) ordered) :=
      HubInner.Spreads.flush key _ _
    refine Restricts.trans ?_ (.of_sends (flushed _).sends)
    refine HubInner.onStream_restricts fun ds found => ?_
    -- the new snapshot, and what was logged before, are in the log after the flush
    have logged : ∀ b, ds.upstreams.get? upstreamId = some b →
        ∀ f, f ∈ ds.log ++ [ds.snapshotFrame ctx env] →
        (∀ ds₀, w.hub.streams.get? key = some ds₀ → f.Covers w.resets ds₀) →
        w.Current ((w.hub.takenStash key upstreamId).foldl (HubInner.flushBatch ctx key) ordered)
          f := by
      intro b bound f member covers
      have after := @HubInner.onStream_streams_get? ctx key
        (·.handleUpstreamSnapshot ctx upstreamId env) w.hub key
      rw [if_pos rfl, found] at after
      obtain ⟨ds', found', prefix_, -⟩ := (flushed fun _ => True).streams key _ after
      refine ⟨key, ds', found', prefix_.subset ?_, covers⟩
      have log : (StreamCell.handleUpstreamSnapshot ctx upstreamId env
          (.ofStream ds w.hub.browsers)).ds.log = ds.log ++ [ds.snapshotFrame ctx env] := by
        have bound' : (StreamCell.ofStream ds w.hub.browsers).ds.upstreams.get? upstreamId =
          some b := bound
        unfold StreamCell.handleUpstreamSnapshot
        rw [bound']
        rfl
      show f ∈ _
      rw [log]
      exact member
    have newest : ∀ ds₀, w.hub.streams.get? key = some ds₀ →
        (ds.snapshotFrame ctx env).Covers w.resets ds₀ := by
      intro ds₀ same r _ g _ old _
      rw [found] at same
      cases same
      exact ((sound key ds found).numbered.sequence_range old).2
    refine (@StreamCell.handleUpstreamSnapshot_fans _ ctx (.ofStream ds w.hub.browsers) upstreamId
      env (fun b bound => ?_) fun b conn sub bc bound subscribed connected waits f member snap => ?_).sends
    · exact logged b bound _ (List.mem_append_right _ (List.mem_singleton_self _)) newest
    · have snapshot := ((sound key ds found).orderSnapshot ctx upstreamId b isSnap).window_snapshot
        member snap
      rcases DStream.mem_cacheSnapshot snapshot with cached | new
      · have before : f ∈ ds.log := (sound key ds found).numbered.snapshots.subset cached.1
        refine logged b bound f (List.mem_append_left _ before) fun ds₀ same => ?_
        rw [found] at same
        cases same
        refine serves key routed ds found ⟨(conn, sub), ?_, waits, ?_⟩ f cached.1 cached.2
        · exact FiniteMap.mem_toList.mpr subscribed
        · exact FiniteMap.contains_iff.mpr ⟨bc, connected⟩
      · cases new
        exact logged b bound _ (List.mem_append_right _ (List.mem_singleton_self _)) newest

/-- What the Bridge of a device sends. -/
theorem handleBridgeEnvelope_fresh
    (sound : ∀ key ds, w.hub.streams.get? key = some ds → ds.Sound) {device : Uuid}
    {env : Envelope} (serves : w.ServesFresh ⟨ctx, .bridgeEnvelope device env⟩) :
    Restricts (w.Current (w.hub.handleBridgeEnvelope ctx device env)) w.hub.browsers
      (w.hub.handleBridgeEnvelope ctx device env).browsers := by
  cases isSnap : isSnapshot env with
  | true =>
    rw [HubInner.handleBridgeEnvelope_snapshot ctx device env isSnap]
    exact handleUpstreamSnapshot_fresh sound isSnap (serves isSnap)
  | false =>
    generalize w.Current (w.hub.handleBridgeEnvelope ctx device env) = P
    unfold HubInner.handleBridgeEnvelope
    split
    · exact .of_eq (HubInner.sendToBridge_browsers _ _ _)
    · exact HubInner.onUpstream_restricts fun c =>
        StreamCell.handleUpstreamSubscribed_sends env.streamId _
    · next payload => simp [isSnapshot, payload] at isSnap
    · next batch payload =>
      split
      · next snapshot => simp [isSnapshot, payload, snapshot] at isSnap
      · exact .of_sends (HubInner.Spreads.fanOutEvents env.streamId env _).sends
    · exact .of_sends (HubInner.Spreads.fanOutEvents env.streamId env _).sends
    · unfold HubInner.onCommandAccepted
      split
      · exact .refl _
      · exact HubInner.reply_restricts _ _
    · unfold HubInner.onCommandResult
      split
      · exact .refl _
      · dsimp only
        split
        · exact HubInner.reply_restricts _ _
        · exact HubInner.reply_restricts _ _
    · exact .refl _
    · refine HubInner.onUpstream_restricts fun c => ?_
      rw [StreamCell.handleResyncRequired_browsers]
      exact Sends.refl _
    · exact .refl _

/-- The snapshots that a step sends are newer than what was lost before it. -/
theorem step_fresh (sound : ∀ key ds, w.hub.streams.get? key = some ds → ds.Sound) {s : HubStep}
    (serves : w.ServesFresh s) (conn : Uuid) (bc' : BrowserConn)
    (found : (w.hub.step s).browsers.get? conn = some bc') :
    bc'.accepted = [] ∨ ∃ bc, w.hub.browsers.get? conn = some bc ∧
      Grown (w.Current (w.hub.step s)) bc bc' := by
  obtain ⟨ctx, op⟩ := s
  by_cases joins : ∃ joined ident, op = .registerBrowser joined ident
  · obtain ⟨joined, ident, rfl⟩ := joins
    have inserted : (w.hub.browsers.insert joined
      ⟨.new browserQueueMaxFrames browserQueueMaxBytes, ident, 0⟩).get? conn = some bc' := found
    rw [FiniteMap.get?_insert] at inserted
    split at inserted
    · cases inserted
      exact .inl rfl
    · exact .inr ⟨bc', inserted, Grown.refl bc'⟩
  suffices restricts : Restricts (w.Current (w.hub.step ⟨ctx, op⟩)) w.hub.browsers
      (w.hub.step ⟨ctx, op⟩).browsers from .inr (restricts conn bc' found)
  cases op with
  | registerBrowser joined ident => exact absurd ⟨joined, ident, rfl⟩ joins
  | closeBrowser gone =>
    by_cases there : w.hub.browsers.contains gone = true
    · have closed : w.hub.step ⟨ctx, .closeBrowser gone⟩ = w.hub.removeBrowser gone := if_pos there
      rw [closed]
      exact HubInner.removeBrowser_restricts gone
    · have same : w.hub.step ⟨ctx, .closeBrowser gone⟩ = w.hub := if_neg there
      exact .of_eq (by rw [same])
  | closeAllBrowsers =>
    exact Restricts.foldl _ (fun _ _ => HubInner.removeBrowser_restricts _) w.hub
  | removeBrowser gone => exact HubInner.removeBrowser_restricts gone
  | ensureBindings device owner => exact .of_eq (HubInner.ensureBindings_browsers device owner _)
  | removeBridge device => exact HubInner.abandonCommands_restricts _ _
  | sendToBridge device env => exact .of_eq (HubInner.sendToBridge_browsers device env _)
  | beginShutdown => exact HubInner.abandonCommands_restricts _ _
  | subscribeBind joined key needs fresh =>
    exact HubInner.subscribeBind_restricts joined key needs fresh
  | subscribeAttach joined key correlation fresh => exact subscribeAttach_fresh sound serves
  | browserUnsubscribe gone streamId =>
    show Restricts _ _ (w.hub.browserUnsubscribe ctx gone streamId).browsers
    unfold HubInner.browserUnsubscribe
    split
    · exact .refl _
    · exact HubInner.onStream_restricts fun ds _ => Sends.refl _
  | browserResync asks streamId correlation => exact browserResync_fresh sound serves
  | browserAck acks streamId sequence =>
    show Restricts _ _ (w.hub.browserAck ctx acks streamId sequence).browsers
    unfold HubInner.browserAck
    split
    · exact .refl _
    · exact HubInner.onStream_restricts fun ds _ => Sends.refl _
  | bridgeEnvelope device env => exact handleBridgeEnvelope_fresh sound serves
  | fanOutPresence device owner online =>
    exact Restricts.foldl _ (fun h key => HubInner.onStream_restricts fun ds _ =>
      (StreamCell.fanOutPresence_fans (c := .ofStream ds h.browsers) device online).sends) w.hub
  | heartbeatAck asks => exact HubInner.reply_restricts _ _
  | protocolError asks error => exact HubInner.reply_restricts _ _
  | commandReply asks result => exact HubInner.reply_restricts _ _
  | sweepGlobalMemory order => exact HubInner.sweepGlobalMemory_restricts order
  | browserWriter drained taken =>
    refine Restricts.modify (f := fun bc => { bc with outbox := bc.outbox.drain taken })
      (fun bc => ?_) drained _
    exact Grown.of_unchanged (Outbox.drain_accepted taken bc.outbox)
      fun closed => (Outbox.drain_closed taken bc.outbox).trans closed
  | _ => exact .refl _

end Watched

namespace SessionList

end SessionList

/-- Nobody is served a cached snapshot that is older than what its stream has lost. -/
def Watched.calm (w : Watched) (s : HubStep) : Bool :=
  match s.op with
  | .subscribeAttach _ _ _ _ | .browserResync _ _ _ =>
    w.hub.streams.toList.all fun entry => entry.2.snapshots.all fun f =>
      decide (f.Covers w.resets entry.2)
  | .bridgeEnvelope _ env =>
    w.hub.streams.toList.all fun entry => entry.2.snapshots.all fun f =>
      f.env.deviceId == env.deviceId || decide (f.Covers w.resets entry.2)
  | .fanOutPresence _ _ _ => false
  | _ => true

end AgentConsole.Relay
