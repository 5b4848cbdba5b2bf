import AgentConsole.Relay.Indexes
import AgentConsole.Relay.Serve

/-! # When a buffer overflows

`StreamBuffer::insert` reports `OverflowReset` when only Critical frames are left and the
limits are still exceeded: the buffer is empty afterwards.  This module records the resets
of a step, with the Critical frames each of them drops, and says what a step sends: to
whom a reset is told, and which snapshots go out. -/

namespace AgentConsole.Relay

open AgentConsole.Lib

/-! ## The resets of a step -/

/-- A buffer was reset on inserting `frame`.  `dropped` are the Critical frames of the
stream's log that it held, `frame` included. -/
structure Reset where
  key : DKey
  streamId : String
  frame : Frame
  dropped : List Frame

namespace DStream

/-- The reset that numbering `frame` causes on the stream at `key`. -/
def resetOf (ctx : Ctx) (key : DKey) (frame : Frame) (ds : DStream) : List Reset :=
  match (ds.number ctx frame).2 with
  | .overflowReset =>
    [⟨key, ds.streamId, frame, (ds.log ++ [frame]).filter fun f =>
      f.kind == .critical && decide (f ∈ ds.buffer.items ++ [frame])⟩]
  | .buffered => []

/-- The resets of a batch, event by event. -/
def emitResets (ctx : Ctx) (key : DKey) (env : Envelope) : List Event → DStream → List Reset
  | [], _ => []
  | event :: rest, ds =>
    ds.resetOf ctx key (ds.eventFrame ctx env event) ++
      emitResets ctx key env rest (ds.emit ctx env event)

/-- The resets of `fan_out_events`: a duplicate or stashed batch is not inserted. -/
def fanOutResets (ctx : Ctx) (key : DKey) (upstreamId : String) (env : Envelope)
    (events : List Event) (ds : DStream) : List Reset :=
  match ds.upstreams.get? upstreamId with
  | none => []
  | some binding =>
    if env.sequence ≠ 0 ∧ env.sequence ≤ binding.lastSeq then []
    else if events.isEmpty then []
    else if !binding.snapshotReceived && ds.snapshots.isEmpty then []
    else
      let binding := if env.sequence ≠ 0 then { binding with lastSeq := env.sequence } else binding
      emitResets ctx key env events
        { ds with upstreams := ds.upstreams.insert upstreamId binding }

/-- The reset of `fan_out_presence`. -/
def presenceResets (ctx : Ctx) (key : DKey) (device : Uuid) (online : Bool) (ds : DStream) :
    List Reset :=
  if ds.snapshots.isEmpty && ds.subscribers.values.all (·.awaitingSnapshot) then []
  else ds.resetOf ctx key (ds.presenceFrame ctx device online)

end DStream

namespace HubInner

def fanOutResets (ctx : Ctx) (upstreamId : String) (env : Envelope) (events : List Event)
    (h : HubInner) : List Reset :=
  match h.upstreamIndex.get? upstreamId with
  | none => []
  | some key =>
    match h.streams.get? key with
    | none => []
    | some ds => ds.fanOutResets ctx key upstreamId env events

def flushResets (ctx : Ctx) (key : DKey) (batch : PendingUpstreamBatch) (h : HubInner) :
    List Reset :=
  let covered := (((h.streams.get? key).bind (·.upstreams.get? batch.upstreamId)).map
    (·.snapshotCovers)).getD 0
  if batch.upstreamSeq ≠ 0 ∧ batch.upstreamSeq ≤ covered then []
  else h.fanOutResets ctx batch.upstreamId (stashedEnv ctx.now batch) batch.events

/-- The flush after a snapshot, with the resets so far. -/
def flushRecording (ctx : Ctx) (key : DKey) (acc : HubInner × List Reset)
    (batch : PendingUpstreamBatch) : HubInner × List Reset :=
  (acc.1.flushBatch ctx key batch, acc.2 ++ acc.1.flushResets ctx key batch)

def snapshotResets (ctx : Ctx) (upstreamId : String) (env : Envelope) (h : HubInner) :
    List Reset :=
  match h.upstreamIndex.get? upstreamId with
  | none => []
  | some key =>
    ((h.takenStash key upstreamId).foldl (flushRecording ctx key)
      (h.onStream ctx key (·.handleUpstreamSnapshot ctx upstreamId env), [])).2

/-- One list stream of `fan_out_presence`, with the resets so far. -/
def presenceRecording (ctx : Ctx) (device : Uuid) (online : Bool) (acc : HubInner × List Reset)
    (key : DKey) : HubInner × List Reset :=
  (acc.1.onStream ctx key (·.fanOutPresence ctx device online),
    acc.2 ++ ((acc.1.streams.get? key).map (·.presenceResets ctx key device online)).getD [])

/-- The resets of a step. -/
def resets (s : HubStep) (h : HubInner) : List Reset :=
  match s.op with
  | .bridgeEnvelope _ env =>
    match batchEvents env with
    | some events => h.fanOutResets s.ctx env.streamId env events
    | none => if isSnapshot env then h.snapshotResets s.ctx env.streamId env else []
  | .fanOutPresence device owner online =>
    ((h.streams.keys.filter fun key => key.1 == owner && key.2 == .list).foldl
      (presenceRecording s.ctx device online) (h, [])).2
  | _ => []

end HubInner

/-! ## What a connection is sent -/

/-- The queue of the connection only takes more, and the snapshots among it satisfy `P`. -/
structure Grown (P : Frame → Prop) (bc bc' : BrowserConn) : Prop where
  more : ∃ more, bc'.accepted = bc.accepted ++ more ∧
    ∀ f, OutItem.frame f ∈ more → isSnapshot f.env = true → P f
  closes : bc.closed = true → bc'.closed = true

namespace Grown

variable {P : Frame → Prop} {bc mid bc' : BrowserConn} (ctx : Ctx) (conn : Uuid)

theorem of_unchanged (accepted : bc'.accepted = bc.accepted)
    (closes : bc.closed = true → bc'.closed = true) : Grown P bc bc' :=
  ⟨⟨[], by simp [accepted], by simp⟩, closes⟩

theorem refl (bc : BrowserConn) : Grown P bc bc := of_unchanged rfl fun closed => closed

theorem trans (first : Grown P bc mid) (rest : Grown P mid bc') : Grown P bc bc' where
  more := by
    obtain ⟨more, accepted, snapshots⟩ := first.more
    obtain ⟨more', accepted', snapshots'⟩ := rest.more
    refine ⟨more ++ more', by rw [accepted', accepted, List.append_assoc], fun f member => ?_⟩
    rcases List.mem_append.mp member with early | late
    · exact snapshots f early
    · exact snapshots' f late
  closes closed := rest.closes (first.closes closed)

theorem frame {f : Frame} (sends : isSnapshot f.env = true → P f) (bc : BrowserConn) :
    Grown P bc (bc.pushFrame ctx conn f).1 := by
  rcases BrowserConn.pushFrame_spec ctx conn bc f with
    ⟨bc', pushed, wasOpen, -, accepted⟩ | ⟨bc', pushed, -, isClosed, accepted⟩ |
    ⟨bc', pushed, wasOpen, -, accepted⟩
  · rw [pushed]
    refine ⟨⟨[.frame f], accepted, fun g member => ?_⟩, fun closed => ?_⟩
    · cases List.mem_singleton.mp member
      exact sends
    · rw [wasOpen] at closed
      cases closed
  · rw [pushed]
    exact of_unchanged accepted fun _ => isClosed
  · rw [pushed]
    refine of_unchanged accepted fun closed => ?_
    rw [wasOpen] at closed
    cases closed

theorem direct (env : Envelope) (bc : BrowserConn) :
    Grown P bc (bc.pushDirect ctx conn env).1 := by
  rcases BrowserConn.pushDirect_spec ctx conn bc env with
    ⟨bc', len, pushed, wasOpen, -, accepted⟩ | ⟨bc', pushed, accepted, same, -⟩ |
    ⟨bc', reason, pushed, -, isClosed, accepted⟩
  · rw [pushed]
    refine ⟨⟨_, accepted, by simp⟩, fun closed => ?_⟩
    rw [wasOpen] at closed
    cases closed
  · rw [pushed]
    exact of_unchanged accepted fun closed => same.trans closed
  · rw [pushed]
    exact ⟨⟨_, accepted, by simp⟩, fun _ => isClosed⟩

theorem close (reason : String) (bc : BrowserConn) : Grown P bc (bc.close reason) := by
  cases closed : bc.closed with
  | true =>
    have same : bc.close reason = bc := by
      unfold BrowserConn.close
      rw [Outbox.close_of_closed closed]
    rw [same]
    exact refl bc
  | false =>
    exact ⟨⟨_, Outbox.close_accepted_open closed reason, by simp⟩,
      fun _ => Outbox.close_closed _ _⟩

theorem frames {frames : List Frame} (sends : ∀ f ∈ frames, isSnapshot f.env = true → P f)
    (bc : BrowserConn) : Grown P bc (bc.pushFrames ctx conn frames).1 := by
  obtain ⟨sent, rest, split, accepted, same, -⟩ := BrowserConn.pushFrames_spec ctx conn frames bc
  refine ⟨⟨_, accepted, fun f member => ?_⟩, fun closed => same.trans closed⟩
  obtain ⟨g, present, same⟩ := List.mem_map.mp member
  cases same
  exact sends f (by rw [split]; exact List.mem_append_left _ present)

theorem replay {frames : List Frame} (sends : ∀ f ∈ frames, isSnapshot f.env = true → P f)
    (subscribed : Envelope) (bc : BrowserConn) :
    Grown P bc (bc.pushReplay ctx conn subscribed frames).1 := by
  have first : Grown P bc (bc.pushDirect ctx conn subscribed).1 := direct ctx conn subscribed bc
  unfold BrowserConn.pushReplay
  cases pushed : bc.pushDirect ctx conn subscribed with
  | mk bc' ok =>
    rw [pushed] at first
    cases ok with
    | true => exact first.trans (Grown.frames ctx conn sends bc')
    | false => exact first

end Grown

/-- Every connection stays and only takes more. -/
def Sends (P : Frame → Prop) (before after : Browsers) : Prop :=
  ∀ conn, Option.Rel (Grown P) (before.get? conn) (after.get? conn)

namespace Sends

variable {P : Frame → Prop} {before mid after : Browsers}

theorem refl (browsers : Browsers) : Sends P browsers browsers := by
  intro conn
  cases browsers.get? conn with
  | none => exact .none
  | some bc => exact .some (Grown.refl bc)

theorem trans (first : Sends P before mid) (rest : Sends P mid after) : Sends P before after := by
  intro conn
  have early := first conn
  have late := rest conn
  cases was : before.get? conn with
  | none =>
    rw [was] at early
    cases now : mid.get? conn with
    | none => rw [now] at late; exact late
    | some bc => rw [now] at early; cases early
  | some bc =>
    rw [was] at early
    cases now : mid.get? conn with
    | none => rw [now] at early; cases early
    | some bc' =>
      rw [now] at early late
      cases early with
      | some grown =>
        cases finally_ : after.get? conn with
        | none => rw [finally_] at late; cases late
        | some bc'' =>
          rw [finally_] at late
          cases late with
          | some grown' => exact .some (grown.trans grown')

theorem mapVal {f : Uuid → BrowserConn → BrowserConn}
    (each : ∀ conn bc, before.get? conn = some bc → Grown P bc (f conn bc)) :
    Sends P before (before.mapVal f) := by
  intro conn
  rw [FiniteMap.get?_mapVal]
  cases found : before.get? conn with
  | none => exact .none
  | some bc => exact .some (each conn bc found)

theorem insert {conn : Uuid} {bc bc' : BrowserConn} (found : before.get? conn = some bc)
    (grown : Grown P bc bc') : Sends P before (before.insert conn bc') := by
  intro other
  rw [FiniteMap.get?_insert]
  split
  · next same =>
    rw [same, found]
    exact .some grown
  · exact refl before other

/-- The connection after it. -/
theorem after_of (sends : Sends P before after) {conn : Uuid} {bc : BrowserConn}
    (found : before.get? conn = some bc) :
    ∃ bc', after.get? conn = some bc' ∧ Grown P bc bc' := by
  have related := sends conn
  rw [found] at related
  cases now : after.get? conn with
  | none => rw [now] at related; cases related
  | some bc' =>
    rw [now] at related
    cases related with
    | some grown => exact ⟨bc', rfl, grown⟩

/-- The connection before it. -/
theorem before_of (sends : Sends P before after) {conn : Uuid} {bc' : BrowserConn}
    (found : after.get? conn = some bc') :
    ∃ bc, before.get? conn = some bc ∧ Grown P bc bc' := by
  have related := sends conn
  rw [found] at related
  cases was : before.get? conn with
  | none => rw [was] at related; cases related
  | some bc =>
    rw [was] at related
    cases related with
    | some grown => exact ⟨bc, rfl, grown⟩

end Sends

/-! ## What an operation on one stream sends -/

namespace StreamCell

variable {P : Frame → Prop} {ctx : Ctx} {c mid c' : StreamCell}

/-- The operation loses only subscribers whose connection it closes. -/
structure Fans (P : Frame → Prop) (c c' : StreamCell) : Prop where
  sends : Sends P c.browsers c'.browsers
  lost : ∀ conn bc', c.ds.subscribers.contains conn = true →
    c'.ds.subscribers.contains conn = false → c'.browsers.get? conn = some bc' → bc'.closed = true

namespace Fans

theorem of_same (sends : Sends P c.browsers c'.browsers)
    (subscribers : ∀ conn, c'.ds.subscribers.contains conn = c.ds.subscribers.contains conn) :
    Fans P c c' where
  sends := sends
  lost conn bc' was gone _ := by
    rw [subscribers, was] at gone
    cases gone

theorem refl (c : StreamCell) : Fans P c c := of_same (Sends.refl _) fun _ => rfl

theorem trans (first : Fans P c mid) (rest : Fans P mid c') : Fans P c c' where
  sends := first.sends.trans rest.sends
  lost conn bc' was gone found := by
    cases between : mid.ds.subscribers.contains conn with
    | true => exact rest.lost conn bc' between gone found
    | false =>
      obtain ⟨bc, connected, grown⟩ := rest.sends.before_of found
      exact grown.closes (first.lost conn bc was between connected)

end Fans

theorem notifyResync_sends (ds : DStream) (browsers : Browsers) :
    Sends P browsers (ds.notifyResync ctx browsers) := by
  refine Sends.mapVal fun conn bc _ => ?_
  split
  · exact Grown.direct ctx conn _ bc
  · exact Grown.refl bc

theorem deliver_sends {frame : Frame} (isBatch : DStream.IsEventBatch frame.env) (ds : DStream)
    (browsers : Browsers) : Sends P browsers (ds.deliver ctx frame browsers).1 := by
  refine Sends.mapVal fun conn bc _ => ?_
  split
  · refine Grown.frame ctx conn (fun isSnap => ?_) bc
    rw [isBatch.carries.2] at isSnap
    cases isSnap
  · exact Grown.refl bc

theorem detachFailed_closes {conns : List Uuid} {conn : Uuid} {bc' : BrowserConn}
    (member : conns.contains conn = true)
    (found : (c.detachFailed ctx conns).browsers.get? conn = some bc') : bc'.closed = true := by
  unfold detachFailed at found
  dsimp only at found
  rw [FiniteMap.get?_mapVal] at found
  obtain ⟨bc, -, rfl⟩ := Option.map_eq_some_iff.mp found
  rw [if_pos member]
  exact Outbox.close_closed _ _

/-- A connection that is detached is closed. -/
theorem detachFailed_fans (conns : List Uuid) : Fans P c (c.detachFailed ctx conns) where
  sends := by
    refine Sends.mapVal fun conn bc _ => ?_
    split
    · exact (Grown.direct ctx conn _ bc).trans (Grown.close _ _)
    · exact Grown.refl bc
  lost conn bc' was gone found := by
    have member : conns.contains conn = true := by
      have kept := FiniteMap.contains_filter (fun conn => !conns.contains conn) c.ds.subscribers conn
      have gone : (c.ds.subscribers.filter fun conn _ => !conns.contains conn).contains conn =
          false := gone
      rw [gone, was, Bool.and_true] at kept
      simpa using kept
    exact detachFailed_closes member found

theorem emitEvent_fans (env : Envelope) (acc : StreamCell × List Uuid) (event : Event) :
    Fans P acc.1 (emitEvent ctx env acc event).1 := by
  unfold emitEvent
  dsimp only
  split
  · exact Fans.of_same (notifyResync_sends _ _) fun _ => rfl
  · exact Fans.of_same (deliver_sends ⟨_, rfl⟩ _ _) fun _ => rfl

theorem emitEvents_fans (env : Envelope) (events : List Event) (acc : StreamCell × List Uuid) :
    Fans P acc.1 (events.foldl (emitEvent ctx env) acc).1 := by
  induction events generalizing acc with
  | nil => exact Fans.refl _
  | cons event rest inductionHypothesis =>
    exact (emitEvent_fans env acc event).trans (inductionHypothesis _)

theorem stash_fans (batch : PendingUpstreamBatch) : Fans P c (c.stash ctx batch) := by
  have narrows : Narrows c (c.stash ctx batch) := stash_narrows batch
  have subscribers (conn : Uuid) : (c.stash ctx batch).ds.subscribers.contains conn =
      c.ds.subscribers.contains conn := by
    obtain ⟨gone, detached, subscribers⟩ := narrows.lost
    have silent : (c.stash ctx batch).detached = c.detached := by
      unfold stash
      dsimp only
      split <;> rfl
    rw [silent] at detached
    rw [subscribers, List.self_eq_append_right.mp detached]
    simp
  refine Fans.of_same ?_ subscribers
  unfold stash
  dsimp only
  split
  · exact notifyResync_sends _ _
  · exact Sends.refl _

theorem fanOutEvents_fans (upstreamId : String) (env : Envelope) (events : List Event) :
    Fans P c (c.fanOutEvents ctx upstreamId env events) := by
  unfold fanOutEvents
  cases c.ds.upstreams.get? upstreamId with
  | none => exact Fans.refl c
  | some binding =>
    dsimp only
    split
    · exact Fans.refl c
    · split
      · exact Fans.refl c
      · split
        · exact stash_fans _
        · refine Fans.trans ?_ ((emitEvents_fans env events _).trans (detachFailed_fans _))
          exact Fans.of_same (Sends.refl _) fun _ => rfl

theorem handleUpstreamSubscribed_sends (upstreamId : String) (sub : Subscribed) :
    Sends P c.browsers (c.handleUpstreamSubscribed ctx upstreamId sub).browsers := by
  unfold handleUpstreamSubscribed
  cases c.ds.upstreams.get? upstreamId with
  | none => exact Sends.refl _
  | some binding =>
    dsimp only
    split
    · exact Sends.refl _
    · exact notifyResync_sends _ _

/-- A snapshot goes to the active subscribers, the window to those who wait. -/
theorem serveSnapshot_fans {frame : Frame} (sends : P frame)
    (window : ∀ conn sub bc, c.ds.subscribers.get? conn = some sub →
      c.browsers.get? conn = some bc → sub.awaitingSnapshot = true →
      ∀ f ∈ c.ds.replayWindow.2, isSnapshot f.env = true → P f) :
    Fans P c (c.serveSnapshot ctx frame) := by
  refine Fans.trans ?_ (detachFailed_fans _)
  refine Fans.of_same (Sends.mapVal fun conn bc found => ?_)
    fun conn => FiniteMap.contains_mapVal _ _ conn
  dsimp only
  cases subscribed : c.ds.subscribers.get? conn with
  | none => exact Grown.refl bc
  | some sub =>
    dsimp only [Option.map_some, Option.getD_some]
    unfold snapshotPush
    by_cases awaiting : sub.awaitingSnapshot = true
    · rw [if_pos awaiting]
      exact Grown.replay ctx conn (window conn sub bc subscribed found awaiting) _ bc
    · rw [if_neg awaiting]
      exact Grown.frame ctx conn (fun _ => sends) bc

theorem handleUpstreamSnapshot_fans {upstreamId : String} {env : Envelope}
    (sends : ∀ b, c.ds.upstreams.get? upstreamId = some b → P (c.ds.snapshotFrame ctx env))
    (window : ∀ b conn sub bc, c.ds.upstreams.get? upstreamId = some b →
      c.ds.subscribers.get? conn = some sub → c.browsers.get? conn = some bc →
      sub.awaitingSnapshot = true →
      ∀ f ∈ (c.ds.orderSnapshot ctx upstreamId b env).replayWindow.2,
        isSnapshot f.env = true → P f) :
    Fans P c (c.handleUpstreamSnapshot ctx upstreamId env) := by
  unfold handleUpstreamSnapshot
  cases bound : c.ds.upstreams.get? upstreamId with
  | none => exact Fans.refl c
  | some binding =>
    have ordered : Fans P c { c with ds := c.ds.orderSnapshot ctx upstreamId binding env } :=
      Fans.of_same (Sends.refl _) fun _ => rfl
    exact ordered.trans (serveSnapshot_fans (sends binding bound) fun conn sub bc =>
      window binding conn sub bc bound)

theorem handleResyncRequired_browsers (sender : Uuid) (upstreamId : String) :
    (c.handleResyncRequired ctx sender upstreamId).browsers = c.browsers := by
  unfold handleResyncRequired
  split <;> rfl

theorem fanOutPresence_fans (device : Uuid) (online : Bool) :
    Fans P c (c.fanOutPresence ctx device online) := by
  unfold fanOutPresence
  split
  · exact Fans.refl c
  · refine Fans.trans ?_ (detachFailed_fans _)
    exact Fans.of_same (deliver_sends ⟨_, rfl⟩ _ _) fun _ => rfl

theorem serveReplay_sends {conn : Uuid} (correlation : String)
    (window : ∀ bc, c.browsers.get? conn = some bc →
      ∀ f ∈ c.ds.replayWindow.2, isSnapshot f.env = true → P f) :
    Sends P c.browsers (c.serveReplay ctx conn correlation).browsers := by
  unfold serveReplay
  cases found : c.browsers.get? conn with
  | none => exact Sends.refl _
  | some bc =>
    let pushed : StreamCell := { c with browsers := c.browsers.insert conn (bc.pushReplay ctx conn
      (subscribedEnv ctx.now c.ds.streamId c.ds.epoch c.ds.replayWindow.1 correlation)
      c.ds.replayWindow.2).1 }
    have sends : Sends P c.browsers pushed.browsers :=
      Sends.insert found (Grown.replay ctx conn (window bc found) _ bc)
    have detached : Fans P pushed (pushed.detachFailed ctx [conn]) := detachFailed_fans [conn]
    dsimp only
    split
    · exact sends
    · exact sends.trans detached.sends

theorem attachSubscriber_sends {conn : Uuid} (correlation : String)
    (window : ∀ bc, c.browsers.get? conn = some bc → c.ds.snapshots ≠ [] →
      ∀ f ∈ c.ds.replayWindow.2, isSnapshot f.env = true → P f) :
    Sends P c.browsers (c.attachSubscriber ctx conn correlation).browsers := by
  unfold attachSubscriber
  split
  · dsimp only
    split
    · next hasSnapshot =>
      let joined : StreamCell := { c with ds := { c.ds with
        subscribers := c.ds.subscribers.insert conn ⟨!!c.ds.snapshots.isEmpty,
          ((c.ds.subscribers.get? conn).map (·.acked)).getD 0, correlation⟩ } }
      have served : Sends P joined.browsers (joined.serveReplay ctx conn correlation).browsers :=
        serveReplay_sends correlation fun bc found => window bc found (by simpa using hasSnapshot)
      exact served
    · exact Sends.refl _
  · exact Sends.refl _

theorem browserResync_sends {conn : Uuid} (correlation : String)
    (window : ∀ bc, c.browsers.get? conn = some bc → c.ds.subscribers.contains conn = true →
      c.ds.key.2 = .list → c.ds.snapshots ≠ [] →
      ∀ f ∈ c.ds.replayWindow.2, isSnapshot f.env = true → P f) :
    Sends P c.browsers (c.browserResync ctx conn correlation).browsers := by
  unfold browserResync
  split
  · next subscribed =>
    split
    · exact Sends.refl _
    · next serves =>
      push Not at serves
      exact serveReplay_sends correlation fun bc found =>
        window bc found subscribed serves.1 (by simpa using serves.2)
  · exact Sends.refl _

end StreamCell

end AgentConsole.Relay
