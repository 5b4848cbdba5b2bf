import AgentConsole.Relay.Outbox

/-! # Downstream streams

One `DStream` renumbers the events of one or more upstream streams for its
subscribers.  Its operations run inside the hub's lock on the stream itself
and on the send queues of the connected browsers; `StreamCell` is that part of
the hub, together with what an operation leaves for the hub to do (messages to
Bridges, connections that lost their subscription).

Loops over the subscribers push to each connection's own queue, so they are
written pointwise: the new queue of a connection depends only on its old queue
and its own subscriber state. -/

namespace AgentConsole.Relay

open AgentConsole.Lib

/-- What a locked section reads from outside the hub: the encoder, the clock
and how far the writer tasks have got.  Writers do not take the hub's lock, so
before the `n`-th push to a queue its writer may take any number of items:
`drain conn n` for the browser connection `conn`, `sinkDrain device n` for the
Bridge of `device`. -/
structure Ctx where
  codec : Codec
  now : Nat
  drain : Uuid → Nat → Nat
  sinkDrain : Uuid → Nat → Nat

/-- A context for concrete runs: the writers do not move. -/
def Ctx.idle (now : Nat) : Ctx :=
  { codec := .unit, now, drain := fun _ _ => 0, sinkDrain := fun _ _ => 0 }

structure BrowserIdentity where
  authSessionId : Uuid
  ownerId : Uuid
  expiresAt : Nat
deriving DecidableEq

/-- `BrowserConn`; `attempts` counts the pushes made so far and only tells them
apart for `Ctx.drain`. -/
structure BrowserConn where
  outbox : Outbox
  ident : BrowserIdentity
  attempts : Nat

abbrev Browsers := FiniteMap Uuid BrowserConn

namespace BrowserConn

def pushFrame (ctx : Ctx) (conn : Uuid) (bc : BrowserConn) (f : Frame) :
    BrowserConn × Option PushError :=
  let outbox := bc.outbox.drain (ctx.drain conn bc.attempts)
  match outbox.pushFrame f with
  | .ok outbox => ({ bc with outbox, attempts := bc.attempts + 1 }, none)
  | .error e => ({ bc with outbox, attempts := bc.attempts + 1 }, some e)

def pushDirect (ctx : Ctx) (conn : Uuid) (bc : BrowserConn) (env : Envelope) :
    BrowserConn × Bool :=
  let pushed :=
    (bc.outbox.drain (ctx.drain conn bc.attempts)).pushDirect (encodeDirect ctx.codec env)
  ({ bc with outbox := pushed.1, attempts := bc.attempts + 1 }, pushed.2)

def close (bc : BrowserConn) (reason : String) : BrowserConn :=
  { bc with outbox := bc.outbox.close reason }

/-- Push frames until one is refused. -/
def pushFrames (ctx : Ctx) (conn : Uuid) : List Frame → BrowserConn → BrowserConn × Bool
  | [], bc => (bc, true)
  | f :: rest, bc =>
    match bc.pushFrame ctx conn f with
    | (bc, none) => pushFrames ctx conn rest bc
    | (bc, some _) => (bc, false)

/-- `Subscribed` and then the frames of a replay window. -/
def pushReplay (ctx : Ctx) (conn : Uuid) (subscribed : Envelope) (frames : List Frame)
    (bc : BrowserConn) : BrowserConn × Bool :=
  match bc.pushDirect ctx conn subscribed with
  | (bc, true) => bc.pushFrames ctx conn frames
  | (bc, false) => (bc, false)

end BrowserConn

/-! ## The stream and its parts -/

structure SubscriberState where
  awaitingSnapshot : Bool
  acked : Nat
  subscribeCorrelation : String

structure UpstreamBinding where
  device : Uuid
  epoch : Nat
  lastSeq : Nat
  snapshotCovers : Nat
  snapshotReceived : Bool
deriving DecidableEq

/-- A binding that knows nothing of its upstream yet. -/
def UpstreamBinding.fresh (device : Uuid) : UpstreamBinding :=
  { device, epoch := 0, lastSeq := 0, snapshotCovers := 0, snapshotReceived := false }

/-- Events that arrived before the stream had any snapshot. -/
structure PendingUpstreamBatch where
  upstreamId : String
  upstreamSeq : Nat
  sentAt : Option Nat
  deviceId : String
  events : List Event
deriving DecidableEq

def bufferRetention : Nat := 15 * 60 * 1000000000
def bufferMaxEvents : Nat := 10000
def bufferMaxBytes : Nat := 16 * 1024 * 1024
def snapshotPendingMaxEvents : Nat := 1024
def snapshotCacheMax : Nat := 16

/-- `DStream`.  `log` is a history variable, read by no operation: every frame
the stream has numbered, in order. -/
structure DStream where
  key : DKey
  streamId : String
  epoch : Nat
  nextSeq : Nat
  snapshots : List Frame
  pendingBatches : List PendingUpstreamBatch
  pendingBytes : Nat
  pendingEvents : Nat
  buffer : StreamBuffer
  subscribers : FiniteMap Uuid SubscriberState
  upstreams : FiniteMap String UpstreamBinding
  log : List Frame

namespace DStream

/-- `DStream::new`; the stream id is a fresh uuid. -/
def new (key : DKey) (id : Uuid) : DStream where
  key := key
  streamId := "s-" ++ id.text
  epoch := 1
  nextSeq := 1
  snapshots := []
  pendingBatches := []
  pendingBytes := 0
  pendingEvents := 0
  buffer := .new bufferMaxEvents bufferMaxBytes bufferRetention
  subscribers := ∅
  upstreams := ∅
  log := []

/-! ### The pending stash -/

/-- Remove the oldest Mergeable event of the stash, with the batch it empties. -/
def evictPending : List PendingUpstreamBatch → Option (Event × List PendingUpstreamBatch)
  | [] => none
  | batch :: rest =>
    match batch.events.find? (fun e => (classify e).1 == .mergeable) with
    | some event =>
      let events := batch.events.eraseP (fun e => (classify e).1 == .mergeable)
      if events.isEmpty then some (event, rest) else some (event, { batch with events } :: rest)
    | none => (evictPending rest).map fun found => (found.1, batch :: found.2)

def pendingFits (ds : DStream) : Bool :=
  decide (ds.pendingEvents ≤ snapshotPendingMaxEvents) && decide (ds.pendingBytes ≤ bufferMaxBytes)

/-- The eviction loop of `push_pending`; `true` means that only Critical and
Recoverable events are left and the stash is still over budget.  Each round
removes one event, so the event count bounds the rounds. -/
def evictPendingLoop (codec : Codec) : Nat → DStream → DStream × Bool
  | 0, ds => (ds, !ds.pendingFits)
  | rounds + 1, ds =>
    if ds.pendingFits then (ds, false)
    else
      match evictPending ds.pendingBatches with
      | none => (ds, true)
      | some (event, batches) =>
        evictPendingLoop codec rounds
          { ds with
            pendingBatches := batches
            pendingEvents := ds.pendingEvents - 1
            pendingBytes := ds.pendingBytes - codec.eventLen event }

def pushPending (codec : Codec) (ds : DStream) (batch : PendingUpstreamBatch) : DStream × Bool :=
  let ds :=
    { ds with
      pendingEvents := ds.pendingEvents + batch.events.length
      pendingBytes := ds.pendingBytes + (batch.events.map codec.eventLen).sum
      pendingBatches := ds.pendingBatches ++ [batch] }
  evictPendingLoop codec ds.pendingEvents ds

def clearPending (ds : DStream) : DStream :=
  { ds with pendingBatches := [], pendingBytes := 0, pendingEvents := 0 }

/-! ### Snapshots and replay windows -/

/-- `cache_snapshot`: the newest snapshot of each device, at most 16. -/
def cacheSnapshot (ds : DStream) (frame : Frame) : DStream :=
  let snapshots := ds.snapshots.filter (fun s => s.env.deviceId != frame.env.deviceId) ++ [frame]
  { ds with snapshots := snapshots.drop (snapshots.length - snapshotCacheMax) }

def latestSnapshotSeq (ds : DStream) : Option Nat := ds.snapshots.getLast?.map Frame.sequence

/-- `sort_by_key(|f| f.env.sequence)`. -/
def sortBySequence (frames : List Frame) : List Frame :=
  frames.insertionSort fun a b => a.sequence ≤ b.sequence

def survivingFrames (ds : DStream) : List Frame :=
  sortBySequence (ds.snapshots ++ ds.buffer.items)

/-- `replay_base`.  The source asks by pointer whether `first` is one of the
cached snapshots; a frame is identified by its sequence number, so equality of
frames says the same. -/
def replayBase (ds : DStream) (first : Frame) : Nat :=
  if first ∈ ds.snapshots then first.sequence else first.sequence - 1

/-- The frames are numbered `lo`, `lo + 1`, … in order. -/
def numberedFrom (lo : Nat) (frames : List Frame) : Bool :=
  frames.zipIdx.all fun (f, i) => f.sequence == lo + i

def fullReplay (ds : DStream) : Option (Nat × List Frame) :=
  let frames := ds.survivingFrames
  match frames with
  | [] => none
  | first :: _ =>
    let lo := first.sequence
    -- `checked_sub` fails when `lo` lies beyond `next_seq`
    if ds.nextSeq < lo ∨ frames.length ≠ ds.nextSeq - lo then none
    else if numberedFrom lo frames then some (ds.replayBase first, frames)
    else none

def anchoredReplay (ds : DStream) : Nat × List Frame :=
  let anchor := ds.latestSnapshotSeq.getD 0
  let tail := ds.buffer.items.filter fun f => decide (anchor < f.sequence)
  let contiguous :=
    tail.length == ds.nextSeq - (anchor + 1) && numberedFrom (anchor + 1) tail
  let frames := sortBySequence (ds.snapshots ++ if contiguous then tail else [])
  (match frames with
    | [] => 0
    | first :: _ => ds.replayBase first, frames)

/-- The window a recovering subscriber is served. -/
def replayWindow (ds : DStream) : Nat × List Frame := ds.fullReplay.getD ds.anchoredReplay

/-- Forget everything that could be replayed. -/
def clearCache (ds : DStream) : DStream :=
  { ds.clearPending with snapshots := [], buffer := ds.buffer.clear }

def awaitAll (ds : DStream) : DStream :=
  { ds with subscribers := ds.subscribers.mapVal fun _ s => { s with awaitingSnapshot := true } }

/-- `refresh_snapshot_envs`: without `force`, bindings that already wait for a
snapshot are left alone. -/
def refreshSnapshotEnvs (now : Nat) (force : Bool) (ds : DStream) :
    DStream × List (Uuid × Envelope) :=
  let stale (b : UpstreamBinding) : Bool := force || b.snapshotReceived
  ({ ds.clearCache.awaitAll with
      upstreams := ds.upstreams.mapVal fun _ b => if stale b then .fresh b.device else b },
    (ds.upstreams.values.filter stale).map fun b =>
      (b.device, upstreamSubscribeEnv now b.device ds.key.2))

end DStream

/-! ## Operations of a stream on the connected browsers -/

/-- The stream an operation works on, the browsers, and what the hub has to do
after it: drop the stream from the set of each `detached` connection and send
the `outgoing` envelopes to their Bridges. -/
structure StreamCell where
  ds : DStream
  browsers : Browsers
  detached : List Uuid
  outgoing : List (Uuid × Envelope)

namespace DStream

/-- Push `ResyncRequired` to every subscriber that is connected. -/
def notifyResync (ctx : Ctx) (ds : DStream) (browsers : Browsers) : Browsers :=
  browsers.mapVal fun conn bc =>
    if ds.subscribers.contains conn then
      (bc.pushDirect ctx conn (resyncRequiredEnv ctx.now ds.streamId)).1
    else bc

/-- The subscriber at `conn` exists and has been given a snapshot. -/
def active (ds : DStream) (conn : Uuid) : Bool :=
  (ds.subscribers.get? conn).any fun s => !s.awaitingSnapshot

/-- Fan a frame out to the active subscribers; the second part lists the slow
consumers. -/
def deliver (ctx : Ctx) (frame : Frame) (ds : DStream) (browsers : Browsers) :
    Browsers × List Uuid :=
  (browsers.mapVal fun conn bc =>
      if ds.active conn then (bc.pushFrame ctx conn frame).1 else bc,
    (browsers.toList.filter fun (conn, bc) =>
      ds.active conn && (bc.pushFrame ctx conn frame).2 == some .slowConsumer).map (·.1))

/-- The frame of one event of an upstream batch. -/
def eventFrame (ctx : Ctx) (env : Envelope) (ds : DStream) (event : Event) : Frame :=
  let (kind, merge) := classify event
  let scope := ds.streamId ++ "/" ++ toString ds.epoch ++ "/" ++ env.deviceId
  let frameEnv : Envelope :=
    { baseEnvelope ctx.now env.deviceId
        (.eventBatch ⟨ds.streamId, [⟨env.sentAt, some event⟩]⟩) with
      streamId := ds.streamId
      streamEpoch := ds.epoch
      sequence := ds.nextSeq }
  Frame.withUpstreamSeq ctx.codec ctx.now frameEnv kind (merge.map (MergeInfo.scoped scope))
    (if env.sequence = 0 then none else some env.sequence)

/-- The frame of a change of presence. -/
def presenceFrame (ctx : Ctx) (device : Uuid) (online : Bool) (ds : DStream) : Frame :=
  let event := Event.devicePresenceChanged (some {
    deviceId := device.text
    connection := if online then .online else .offline
    lastSeenAt := some ctx.now
    degradedReason := "" })
  let frameEnv : Envelope :=
    { baseEnvelope ctx.now device.text
        (.eventBatch ⟨ds.streamId, [⟨some ctx.now, some event⟩]⟩) with
      streamId := ds.streamId
      streamEpoch := ds.epoch
      sequence := ds.nextSeq }
  Frame.new ctx.codec ctx.now frameEnv .critical none

/-- The downstream frame of an upstream snapshot. -/
def snapshotFrame (ctx : Ctx) (env : Envelope) (ds : DStream) : Frame :=
  Frame.new ctx.codec ctx.now
    { env with streamId := ds.streamId, streamEpoch := ds.epoch, sequence := ds.nextSeq }
    .critical none

/-- Give `frame` the next number and put it into the buffer. -/
def number (ctx : Ctx) (frame : Frame) (ds : DStream) : DStream × InsertOutcome :=
  let (buffer, outcome) := ds.buffer.insert ctx.codec ctx.now frame
  ({ ds with nextSeq := ds.nextSeq + 1, buffer, log := ds.log ++ [frame] }, outcome)

/-- Give the snapshot the next number and cache it in place of the frames it
covers. -/
def orderSnapshot (ctx : Ctx) (upstreamId : String) (binding : UpstreamBinding) (env : Envelope)
    (ds : DStream) : DStream :=
  let frame := ds.snapshotFrame ctx env
  { ds.clearPending with
    upstreams := ds.upstreams.insert upstreamId { binding with snapshotReceived := true }
    buffer := ds.buffer.retainUncovered env.deviceId binding.snapshotCovers
    nextSeq := ds.nextSeq + 1
    log := ds.log ++ [frame] }.cacheSnapshot frame

end DStream

namespace StreamCell

def ofStream (ds : DStream) (browsers : Browsers) : StreamCell :=
  { ds, browsers, detached := [], outgoing := [] }

/-- `detach_failed_subscriber` for each of `conns`: tell it to resync, close the
connection, drop the subscription. -/
def detachFailed (ctx : Ctx) (conns : List Uuid) (c : StreamCell) : StreamCell :=
  { c with
    ds := { c.ds with subscribers := c.ds.subscribers.filter fun conn _ => !conns.contains conn }
    browsers := c.browsers.mapVal fun conn bc =>
      if conns.contains conn then
        (bc.pushDirect ctx conn (resyncRequiredEnv ctx.now c.ds.streamId)).1.close
          "RESYNC_REQUIRED"
      else bc
    detached := c.detached ++ conns }

/-- One event of `fan_out_events`: number it, buffer it, deliver it. -/
def emitEvent (ctx : Ctx) (env : Envelope) (acc : StreamCell × List Uuid) (event : Event) :
    StreamCell × List Uuid :=
  let c := acc.1
  let frame := c.ds.eventFrame ctx env event
  let (ds, outcome) := c.ds.number ctx frame
  match outcome with
  | .overflowReset =>
    ({ c with ds, browsers := ds.notifyResync ctx c.browsers }, acc.2)
  | .buffered =>
    let (browsers, slow) := ds.deliver ctx frame c.browsers
    ({ c with ds, browsers }, acc.2 ++ slow)

/-- Stash a batch; an overfull stash forces a refresh of every upstream. -/
def stash (ctx : Ctx) (batch : PendingUpstreamBatch) (c : StreamCell) : StreamCell :=
  let (ds, overfull) := c.ds.pushPending ctx.codec batch
  if overfull then
    let browsers := ds.notifyResync ctx c.browsers
    let (ds, envs) := ds.refreshSnapshotEnvs ctx.now true
    { c with ds, browsers, outgoing := c.outgoing ++ envs }
  else { c with ds }

/-- `fan_out_events`, on the stream the upstream is routed to. -/
def fanOutEvents (ctx : Ctx) (upstreamId : String) (env : Envelope) (events : List Event)
    (c : StreamCell) : StreamCell :=
  match c.ds.upstreams.get? upstreamId with
  | none => c
  | some binding =>
    -- number 0 means that the upstream gave none: no de-duplication
    if env.sequence ≠ 0 ∧ env.sequence ≤ binding.lastSeq then c
    else if events.isEmpty then c
    else if !binding.snapshotReceived && c.ds.snapshots.isEmpty then
      c.stash ctx ⟨upstreamId, env.sequence, env.sentAt, env.deviceId, events⟩
    else
      let binding := if env.sequence ≠ 0 then { binding with lastSeq := env.sequence } else binding
      let ds := { c.ds with upstreams := c.ds.upstreams.insert upstreamId binding }
      let (c, slow) := events.foldl (emitEvent ctx env) ({ c with ds }, [])
      c.detachFailed ctx slow

/-- `handle_upstream_subscribed`, on the stream the upstream is routed to. -/
def handleUpstreamSubscribed (ctx : Ctx) (upstreamId : String) (sub : Subscribed)
    (c : StreamCell) : StreamCell :=
  match c.ds.upstreams.get? upstreamId with
  | none => c
  | some binding =>
    let changed := binding.snapshotReceived && binding.epoch != sub.streamEpoch
    let ds := { c.ds with
      upstreams := c.ds.upstreams.insert upstreamId { binding with
        epoch := sub.streamEpoch
        lastSeq := sub.baseSequence - 1
        snapshotCovers := sub.baseSequence
        snapshotReceived := false } }
    if !changed then { c with ds }
    else
      let rebinding := (ds.upstreams.toList.filter fun e => e.1 != upstreamId).map (·.2.device)
      let ds := { ds.clearCache.awaitAll with epoch := ds.epoch + 1 }
      let browsers := ds.notifyResync ctx c.browsers
      -- only the other upstreams are asked again; the current one has a snapshot on its way
      let upstreams := rebinding.foldl
        (fun ups device => ups.modify (upstreamStreamId device ds.key.2) fun b => .fresh b.device)
        ds.upstreams
      { c with
        ds := { ds with upstreams }
        browsers
        outgoing := c.outgoing ++ rebinding.map fun device =>
          (device, upstreamSubscribeEnv ctx.now device ds.key.2) }

/-- What the subscriber at `conn` is sent when a snapshot arrives: the replay
window if it still waits, else the snapshot frame.  `none` is a subscriber
without a connection. -/
def snapshotPush (ctx : Ctx) (ds : DStream) (frame : Frame) (conn : Uuid) (sub : SubscriberState)
    (bc : BrowserConn) : BrowserConn × Bool :=
  if sub.awaitingSnapshot then
    let (base, frames) := ds.replayWindow
    bc.pushReplay ctx conn
      (subscribedEnv ctx.now ds.streamId ds.epoch base sub.subscribeCorrelation) frames
  else
    let (bc, refused) := bc.pushFrame ctx conn frame
    (bc, refused.isNone)

/-- Serve an ordered snapshot to all subscribers and detach those whose queue
refused it. -/
def serveSnapshot (ctx : Ctx) (frame : Frame) (c : StreamCell) : StreamCell :=
  let pushed (conn : Uuid) (bc : BrowserConn) : Option (BrowserConn × Bool) :=
    (c.ds.subscribers.get? conn).map fun sub => snapshotPush ctx c.ds frame conn sub bc
  let served (conn : Uuid) : Bool :=
    ((c.browsers.get? conn).bind (pushed conn)).any (·.2)
  let refused := (c.browsers.toList.filter fun (conn, bc) =>
    (pushed conn bc).any (fun r => !r.2)).map (·.1)
  detachFailed ctx refused { c with
    browsers := c.browsers.mapVal fun conn bc => ((pushed conn bc).map (·.1)).getD bc
    ds := { c.ds with
      subscribers := c.ds.subscribers.mapVal fun conn s =>
        if served conn then { s with awaitingSnapshot := false } else s } }

/-- `handle_upstream_snapshot` up to the flush of the stash, on the stream the
upstream is routed to. -/
def handleUpstreamSnapshot (ctx : Ctx) (upstreamId : String) (env : Envelope) (c : StreamCell) :
    StreamCell :=
  match c.ds.upstreams.get? upstreamId with
  | none => c
  | some binding =>
    let frame := c.ds.snapshotFrame ctx env
    { c with ds := c.ds.orderSnapshot ctx upstreamId binding env }.serveSnapshot ctx frame

/-- The Bridge's own `ResyncRequired`: ask for the upstream again. -/
def handleResyncRequired (ctx : Ctx) (sender : Uuid) (upstreamId : String) (c : StreamCell) :
    StreamCell :=
  match c.ds.upstreams.get? upstreamId with
  | none => c
  | some binding =>
    { c with
      ds := { c.ds with
        upstreams := c.ds.upstreams.insert upstreamId { binding with snapshotReceived := false } }
      outgoing := c.outgoing ++ [(sender, upstreamSubscribeEnv ctx.now binding.device c.ds.key.2)] }

/-- `fan_out_presence` on one list stream. -/
def fanOutPresence (ctx : Ctx) (device : Uuid) (online : Bool) (c : StreamCell) : StreamCell :=
  if c.ds.snapshots.isEmpty && c.ds.subscribers.values.all (·.awaitingSnapshot) then c
  else
    let frame := c.ds.presenceFrame ctx device online
    -- the outcome of the insert is ignored: presence is delivered in any case
    let ds := (c.ds.number ctx frame).1
    let (browsers, slow) := ds.deliver ctx frame c.browsers
    { c with ds, browsers }.detachFailed ctx slow

/-- Bind an upstream that is not bound yet and ask its Bridge for it. -/
def bindUpstream (ctx : Ctx) (device : Uuid) (tag : TargetTag) (c : StreamCell) : StreamCell :=
  let uid := upstreamStreamId device tag
  if c.ds.upstreams.contains uid then c
  else
    { c with
      ds := { c.ds with upstreams := c.ds.upstreams.insert uid (.fresh device) }
      outgoing := c.outgoing ++ [(device, upstreamSubscribeEnv ctx.now device tag)] }

/-- One device of the first section of `browser_subscribe`: bind it, or, for a
session whose snapshot has arrived, start over with a new snapshot. -/
def subscribeUpstream (ctx : Ctx) (c : StreamCell) (need : Uuid × TargetTag) : StreamCell :=
  let (device, tag) := need
  let uid := upstreamStreamId device tag
  match c.ds.upstreams.get? uid with
  | none => c.bindUpstream ctx device tag
  | some binding =>
    if c.ds.key.2 ≠ .list ∧ binding.snapshotReceived then
      { c with
        ds := { c.ds.clearCache.awaitAll with
          upstreams := c.ds.upstreams.insert uid (.fresh binding.device) }
        outgoing := c.outgoing ++ [(device, upstreamSubscribeEnv ctx.now device tag)] }
    else c

/-- Serve the replay window to one subscriber. -/
def serveReplay (ctx : Ctx) (conn : Uuid) (correlation : String) (c : StreamCell) : StreamCell :=
  match c.browsers.get? conn with
  | none => c
  | some bc =>
    let (base, frames) := c.ds.replayWindow
    let (bc, served) := bc.pushReplay ctx conn
      (subscribedEnv ctx.now c.ds.streamId c.ds.epoch base correlation) frames
    let c := { c with browsers := c.browsers.insert conn bc }
    if served then
      { c with ds := { c.ds with
        subscribers := c.ds.subscribers.modify conn fun s => { s with awaitingSnapshot := false } } }
    else c.detachFailed ctx [conn]

/-- Second section of `browser_subscribe`: attach the subscriber and, if there
is a snapshot, replay at once. -/
def attachSubscriber (ctx : Ctx) (conn : Uuid) (correlation : String) (c : StreamCell) :
    StreamCell :=
  if c.browsers.contains conn then
    let hasSnapshot := !c.ds.snapshots.isEmpty
    let acked := ((c.ds.subscribers.get? conn).map (·.acked)).getD 0
    let c := { c with ds := { c.ds with
      subscribers := c.ds.subscribers.insert conn ⟨!hasSnapshot, acked, correlation⟩ } }
    if hasSnapshot then c.serveReplay ctx conn correlation else c
  else c

/-- `browser_resync`, on the stream it names. -/
def browserResync (ctx : Ctx) (conn : Uuid) (correlation : String) (c : StreamCell) : StreamCell :=
  if c.ds.subscribers.contains conn then
    if c.ds.key.2 ≠ .list ∨ c.ds.snapshots.isEmpty then
      let (ds, envs) := c.ds.refreshSnapshotEnvs ctx.now false
      { c with ds, outgoing := c.outgoing ++ envs }
    else c.serveReplay ctx conn correlation
  else c

def browserAck (conn : Uuid) (sequence : Nat) (c : StreamCell) : StreamCell :=
  { c with ds := { c.ds with
    subscribers := c.ds.subscribers.modify conn fun s => { s with acked := max s.acked sequence } } }

/-- Drop a subscriber (`browser_unsubscribe`, a closed connection). -/
def dropSubscriber (conn : Uuid) (c : StreamCell) : StreamCell :=
  { c with ds := { c.ds with subscribers := c.ds.subscribers.erase conn } }

/-- `remove_bridge` on one stream: the upstream ids in `dead` lose their binding. -/
def unbindUpstreams (dead : List String) (c : StreamCell) : StreamCell :=
  { c with ds := { c.ds with upstreams := c.ds.upstreams.filter fun uid _ => !dead.contains uid } }

/-- Global memory pressure on this stream. -/
def relievePressure (ctx : Ctx) (c : StreamCell) : StreamCell :=
  let ds := c.ds.clearCache
  { c with ds, browsers := ds.notifyResync ctx c.browsers }

end StreamCell

end AgentConsole.Relay
