import AgentConsole.Relay.Stream

/-! # The hub

`HubInner` is the state behind the hub's mutex.  Every function here is one
locked section of the source; a source function that takes the lock twice
(`browser_subscribe`, `register_bridge`) is two functions.  A `HubStep` is one
such section together with what it reads from outside, and a run is a list of
steps in any order, so it contains every interleaving of the connection tasks. -/

namespace AgentConsole.Relay

open AgentConsole.Lib

def globalBufferMaxBytes : Nat := 256 * 1024 * 1024
def browserQueueMaxFrames : Nat := 2048
def bridgeQueueMaxFrames : Nat := 1024

/-! ## Registered connections -/

/-- The sending end of a Bridge's outbound channel.  `live` says whether the
writer still holds the receiving end. -/
structure Sink where
  capacity : Nat
  items : List (Option WireBytes)
  live : Bool
  attempts : Nat

namespace Sink

def new : Sink := { capacity := bridgeQueueMaxFrames, items := [], live := true, attempts := 0 }

/-- `try_send`, after the writer has taken `taken` items. -/
def trySend (taken : Nat) (bytes : Option WireBytes) (s : Sink) : Sink × Bool :=
  let items := s.items.drop taken
  if s.live && decide (items.length < s.capacity) then
    ({ s with items := items ++ [bytes], attempts := s.attempts + 1 }, true)
  else ({ s with items, attempts := s.attempts + 1 }, false)

end Sink

/-- `BridgeConn`; `session` tells the connections of one device apart. -/
structure BridgeConn where
  device : Uuid
  owner : Uuid
  session : Nat
  sink : Sink
  close : Bool

structure PendingCommand where
  connId : Uuid
  device : Uuid
  operation : String
deriving DecidableEq

structure HubInner where
  bridges : FiniteMap Uuid BridgeConn
  browsers : Browsers
  upstreamIndex : FiniteMap String DKey
  streams : FiniteMap DKey DStream
  browserStreams : FiniteMap Uuid (List DKey)
  commands : FiniteMap String PendingCommand
  queries : FiniteMap String Unit
  degradedUntil : Option Nat
  shutdown : Bool

namespace HubInner

def new : HubInner where
  bridges := ∅
  browsers := ∅
  upstreamIndex := ∅
  streams := ∅
  browserStreams := ∅
  commands := ∅
  queries := ∅
  degradedUntil := none
  shutdown := false

/-! ## Sending -/

/-- `send_to_bridge_locked`. -/
def sendToBridge (ctx : Ctx) (device : Uuid) (env : Envelope) (h : HubInner) : HubInner × Bool :=
  match h.bridges.get? device with
  | none => (h, false)
  | some conn =>
    let (sink, sent) := conn.sink.trySend (ctx.sinkDrain device conn.sink.attempts)
      (encodeDirect ctx.codec env)
    ({ h with bridges := h.bridges.insert device { conn with sink } }, sent)

def sendAll (ctx : Ctx) (envs : List (Uuid × Envelope)) (h : HubInner) : HubInner :=
  envs.foldl (fun h e => (h.sendToBridge ctx e.1 e.2).1) h

/-- Push a direct message to a browser that is still registered. -/
def reply (ctx : Ctx) (conn : Uuid) (env : Envelope) (h : HubInner) : HubInner :=
  { h with browsers := h.browsers.modify conn fun bc => (bc.pushDirect ctx conn env).1 }

/-! ## Working on one stream -/

/-- Run a stream operation on the stream at `key` and write its result back.
The envelopes it leaves for Bridges are returned. -/
def updateStream (key : DKey) (op : StreamCell → StreamCell) (h : HubInner) :
    HubInner × List (Uuid × Envelope) :=
  match h.streams.get? key with
  | none => (h, [])
  | some ds =>
    let c := op (.ofStream ds h.browsers)
    ({ h with
      streams := h.streams.insert key c.ds
      browsers := c.browsers
      browserStreams := c.detached.foldl (fun sets conn => sets.modify conn (·.erase key))
        h.browserStreams }, c.outgoing)

/-- `updateStream` and send the envelopes under the same lock. -/
def onStream (ctx : Ctx) (key : DKey) (op : StreamCell → StreamCell) (h : HubInner) : HubInner :=
  let (h, envs) := h.updateStream key op
  h.sendAll ctx envs

/-- The stream an upstream id is routed to. -/
def onUpstream (ctx : Ctx) (upstreamId : String) (op : StreamCell → StreamCell) (h : HubInner) :
    HubInner :=
  match h.upstreamIndex.get? upstreamId with
  | none => h
  | some key => h.onStream ctx key op

/-- `streams.entry(key).or_insert_with(DStream::new)`. -/
def ensureStream (key : DKey) (fresh : Uuid) (h : HubInner) : HubInner :=
  if h.streams.contains key then h
  else { h with streams := h.streams.insert key (.new key fresh) }

/-- The key of the stream with this id. -/
def findStream (streamId : String) (h : HubInner) : Option DKey :=
  (h.streams.toList.find? fun e => e.2.streamId == streamId).map (·.1)

/-! ## Browser connections -/

def registerBrowser (conn : Uuid) (ident : BrowserIdentity) (h : HubInner) : HubInner :=
  { h with
    browsers := h.browsers.insert conn
      ⟨.new browserQueueMaxFrames browserQueueMaxBytes, ident, 0⟩ }

/-- `detach_subscriber`. -/
def detachSubscriber (conn : Uuid) (h : HubInner) : HubInner :=
  match h.browserStreams.get? conn with
  | none => h
  | some keys =>
    { h with
      browserStreams := h.browserStreams.erase conn
      streams := keys.foldl (fun streams key => streams.modify key fun ds =>
        { ds with subscribers := ds.subscribers.erase conn }) h.streams }

/-- `remove_browser`; a closed connection's queue is out of the hub's reach
after this. -/
def removeBrowser (conn : Uuid) (h : HubInner) : HubInner :=
  { h with browsers := h.browsers.erase conn }.detachSubscriber conn

def closeBrowser (conn : Uuid) (h : HubInner) : HubInner :=
  if h.browsers.contains conn then h.removeBrowser conn else h

def closeAllBrowsers (h : HubInner) : HubInner :=
  h.browsers.keys.foldl (fun h conn => h.removeBrowser conn) h

/-! ## Bridge connections -/

/-- First section of `register_bridge`. -/
def registerBridge (device owner : Uuid) (session : Nat) (h : HubInner) : HubInner :=
  { h with
    bridges := h.bridges.insert device
      { device, owner, session, sink := .new, close := false } }

/-- The streams that show `device` to its owner. -/
def shows (device owner : Uuid) : DKey → Bool
  | (o, .list) => o == owner
  | (o, .session d _ _) => o == owner && d == device

/-- One stream of `ensure_bindings_for_device`. -/
def ensureBinding (ctx : Ctx) (device : Uuid) (acc : HubInner × List (Uuid × Envelope))
    (key : DKey) : HubInner × List (Uuid × Envelope) :=
  let uid := upstreamStreamId device key.2
  if (acc.1.streams.get? key).any (·.upstreams.contains uid) then acc
  else
    let (h, envs) := acc.1.updateStream key (·.bindUpstream ctx device key.2)
    ({ h with upstreamIndex := h.upstreamIndex.insert uid key }, acc.2 ++ envs)

/-- `ensure_bindings_for_device`; the subscribe envelopes are sent after the
lock is released. -/
def ensureBindings (ctx : Ctx) (device owner : Uuid) (h : HubInner) :
    HubInner × List (Uuid × Envelope) :=
  (h.streams.keys.filter (shows device owner)).foldl (ensureBinding ctx device) (h, [])

def forceCloseBridge (device : Uuid) (h : HubInner) : HubInner :=
  { h with bridges := h.bridges.modify device fun conn => { conn with close := true } }

def isOnline (device : Uuid) (h : HubInner) : Bool := h.bridges.contains device

def onlineDevicesOfOwner (owner : Uuid) (h : HubInner) : List Uuid :=
  (h.bridges.values.filter fun conn => conn.owner == owner).map (·.device)

/-- The id belongs to an upstream stream of `device`. -/
def ownUpstream (device : Uuid) (upstreamId : String) : Bool :=
  ("u-" ++ device.text ++ "-").toList.isPrefixOf upstreamId.toList

def outcomeUnknown (requestId : String) : CommandResult :=
  { requestId, status := .outcomeUnknown, errorCode := .outcomeUnknown, details := [],
    durationMs := none }

/-- Answer a pending command with OUTCOME_UNKNOWN. -/
def abandonCommand (ctx : Ctx) (h : HubInner) (entry : String × PendingCommand) : HubInner :=
  h.reply ctx entry.2.connId
    (baseEnvelope ctx.now entry.2.device.text (.commandResult (outcomeUnknown entry.1)))

/-- `remove_bridge`; the second part lists the commands left without a result. -/
def removeBridge (ctx : Ctx) (device : Uuid) (h : HubInner) :
    HubInner × List (String × PendingCommand) :=
  let dead := h.upstreamIndex.keys.filter (ownUpstream device)
  let pending := h.commands.toList.filter fun e => e.2.device == device
  let h := { h with
    bridges := h.bridges.erase device
    upstreamIndex := h.upstreamIndex.filter fun uid _ => !dead.contains uid
    streams := h.streams.mapVal fun _ ds =>
      { ds with upstreams := ds.upstreams.filter fun uid _ => !dead.contains uid }
    commands := h.commands.filter fun _ p => p.device != device }
  (pending.foldl (abandonCommand ctx) h, pending)

/-- `begin_shutdown`. -/
def beginShutdown (ctx : Ctx) (h : HubInner) : HubInner × List (String × PendingCommand) :=
  let pending := h.commands.toList
  (pending.foldl (abandonCommand ctx) { h with shutdown := true, commands := ∅ }, pending)

/-! ## Subscriptions -/

/-- One device of the first section of `browser_subscribe`. -/
def subscribeUpstream (ctx : Ctx) (key : DKey) (fresh : Uuid) (h : HubInner)
    (need : Uuid × TargetTag) : HubInner :=
  let h := h.ensureStream key fresh
  let uid := upstreamStreamId need.1 need.2
  let bound := (h.streams.get? key).any (·.upstreams.contains uid)
  let h := h.onStream ctx key (·.subscribeUpstream ctx need)
  if bound then h else { h with upstreamIndex := h.upstreamIndex.insert uid key }

/-- First section of `browser_subscribe`: bind the upstreams. -/
def subscribeBind (ctx : Ctx) (conn : Uuid) (key : DKey) (needs : List (Uuid × TargetTag))
    (fresh : Uuid) (h : HubInner) : HubInner :=
  if h.browsers.contains conn then needs.foldl (subscribeUpstream ctx key fresh) h else h

/-- Second section of `browser_subscribe`: attach the subscriber. -/
def subscribeAttach (ctx : Ctx) (conn : Uuid) (key : DKey) (correlation : String) (fresh : Uuid)
    (h : HubInner) : HubInner :=
  if h.browsers.contains conn then
    let h := h.ensureStream key fresh
    let h := { h with browserStreams :=
      h.browserStreams.insert conn (((h.browserStreams.get? conn).getD []).insert key) }
    h.onStream ctx key (·.attachSubscriber ctx conn correlation)
  else h

def browserUnsubscribe (ctx : Ctx) (conn : Uuid) (streamId : String) (h : HubInner) : HubInner :=
  match h.findStream streamId with
  | none => h
  | some key =>
    let h := h.onStream ctx key (·.dropSubscriber conn)
    { h with browserStreams := h.browserStreams.modify conn (·.erase key) }

def browserResync (ctx : Ctx) (conn : Uuid) (streamId correlation : String) (h : HubInner) :
    HubInner :=
  match h.findStream streamId with
  | none => h
  | some key => h.onStream ctx key (·.browserResync ctx conn correlation)

def browserAck (ctx : Ctx) (conn : Uuid) (streamId : String) (sequence : Nat) (h : HubInner) :
    HubInner :=
  match h.findStream streamId with
  | none => h
  | some key => h.onStream ctx key (·.browserAck conn sequence)

/-! ## Messages of Bridges -/

/-- `fan_out_events`. -/
def fanOutEvents (ctx : Ctx) (upstreamId : String) (env : Envelope) (events : List Event)
    (h : HubInner) : HubInner :=
  h.onUpstream ctx upstreamId (·.fanOutEvents ctx upstreamId env events)

/-- The envelope a stashed batch is fanned out under. -/
def stashedEnv (now : Nat) (batch : PendingUpstreamBatch) : Envelope :=
  { baseEnvelope now batch.deviceId (.eventBatch ⟨"", []⟩) with
    sequence := batch.upstreamSeq
    sentAt := batch.sentAt }

/-- One stashed batch of the flush after a snapshot on the stream at `key`. -/
def flushBatch (ctx : Ctx) (key : DKey) (h : HubInner) (batch : PendingUpstreamBatch) : HubInner :=
  let covered := (((h.streams.get? key).bind (·.upstreams.get? batch.upstreamId)).map
    (·.snapshotCovers)).getD 0
  if batch.upstreamSeq ≠ 0 ∧ batch.upstreamSeq ≤ covered then h
  else h.fanOutEvents ctx batch.upstreamId (stashedEnv ctx.now batch) batch.events

/-- The batches a snapshot of `upstreamId` takes out of the stash of `key`. -/
def takenStash (key : DKey) (upstreamId : String) (h : HubInner) : List PendingUpstreamBatch :=
  match h.streams.get? key with
  | none => []
  | some ds => if ds.upstreams.contains upstreamId then ds.pendingBatches else []

/-- `handle_upstream_snapshot`. -/
def handleUpstreamSnapshot (ctx : Ctx) (upstreamId : String) (env : Envelope) (h : HubInner) :
    HubInner :=
  match h.upstreamIndex.get? upstreamId with
  | none => h
  | some key =>
    (h.takenStash key upstreamId).foldl (flushBatch ctx key)
      (h.onStream ctx key (·.handleUpstreamSnapshot ctx upstreamId env))

/-- `on_command_accepted`, its locked section. -/
def onCommandAccepted (ctx : Ctx) (device : Uuid) (accepted : CommandAccepted) (h : HubInner) :
    HubInner :=
  match h.commands.get? accepted.requestId with
  | none => h
  | some p => h.reply ctx p.connId (baseEnvelope ctx.now device.text (.commandAccepted accepted))

/-- `on_command_result`, its locked section: only a terminal status ends the
tracking. -/
def onCommandResult (ctx : Ctx) (device : Uuid) (result : CommandResult) (h : HubInner) :
    HubInner :=
  match h.commands.get? result.requestId with
  | none => h
  | some p =>
    let h := h.reply ctx p.connId (baseEnvelope ctx.now device.text (.commandResult result))
    if result.status.terminal then { h with commands := h.commands.erase result.requestId } else h

/-- The part of `handle_bridge_envelope` that works on the hub. -/
def handleBridgeEnvelope (ctx : Ctx) (device : Uuid) (env : Envelope) (h : HubInner) : HubInner :=
  match env.payload with
  | some .heartbeat => (h.sendToBridge ctx device (baseEnvelope ctx.now device.text .heartbeatAck)).1
  | some (.subscribed sub) =>
    h.onUpstream ctx env.streamId (·.handleUpstreamSubscribed ctx env.streamId sub)
  | some (.runtimeSnapshot _) => h.handleUpstreamSnapshot ctx env.streamId env
  | some (.sessionSummaryBatch batch) =>
    if batch.snapshot then h.handleUpstreamSnapshot ctx env.streamId env
    else h.fanOutEvents ctx env.streamId env (batch.summaries.map .sessionSummaryChanged)
  | some (.eventBatch batch) =>
    h.fanOutEvents ctx env.streamId env (batch.events.filterMap (·.event))
  | some (.commandAccepted accepted) => h.onCommandAccepted ctx device accepted
  | some (.commandResult result) => h.onCommandResult ctx device result
  | some (.queryResponse response) => { h with queries := h.queries.erase response.requestId }
  | some (.resyncRequired _) =>
    h.onUpstream ctx env.streamId (·.handleResyncRequired ctx device env.streamId)
  | _ => h

/-- `fan_out_presence`. -/
def fanOutPresence (ctx : Ctx) (device owner : Uuid) (online : Bool) (h : HubInner) : HubInner :=
  (h.streams.keys.filter fun key => key.1 == owner && key.2 == .list).foldl
    (fun h key => h.onStream ctx key (·.fanOutPresence ctx device online)) h

/-! ## Commands and memory -/

def registerCommand (requestId : String) (connId device : Uuid) (operation : String)
    (h : HubInner) : HubInner :=
  { h with commands := h.commands.insert requestId { connId, device, operation } }

def takeCommand (requestId : String) (h : HubInner) : HubInner :=
  { h with commands := h.commands.erase requestId }

/-- The bytes a stream is charged for. -/
def charge (ds : DStream) : Nat := ds.buffer.bytes + ds.pendingBytes

/-- The first of `order` whose stream has the highest charge. -/
def worstStream (order : List DKey) (h : HubInner) : Option (DKey × Nat) :=
  (order.filterMap fun key => (h.streams.get? key).map fun ds => (key, charge ds)).foldl
    (fun worst e => if worst.all (fun w => decide (w.2 < e.2)) then some e else worst) none

/-- The first half of `sweep_global_memory`: streams without subscribers go. -/
def reclaimStreams (h : HubInner) : HubInner :=
  let isEmpty (ds : DStream) : Bool := ds.subscribers.keys.isEmpty
  let dead := (h.streams.values.filter isEmpty).flatMap (·.upstreams.keys)
  { h with
    streams := h.streams.filter fun _ ds => !isEmpty ds
    upstreamIndex := h.upstreamIndex.filter fun uid _ => !dead.contains uid }

/-- `sweep_global_memory`; `order` is the order in which the map yields the
streams. -/
def sweepGlobalMemory (ctx : Ctx) (order : List DKey) (h : HubInner) : HubInner :=
  let h := h.reclaimStreams
  let total := (h.streams.values.map charge).sum + (h.browsers.values.map (·.outbox.bytes)).sum
  if globalBufferMaxBytes < total then
    match h.worstStream order with
    | some (key, _) => h.onStream ctx key (·.relievePressure ctx)
    | none => h
  else h

end HubInner

/-! ## Runs -/

/-- One locked section, or one move of a task that works on a queue without
the lock. -/
inductive HubOp where
  | registerBrowser (conn : Uuid) (ident : BrowserIdentity)
  | closeBrowser (conn : Uuid)
  | closeAllBrowsers
  | removeBrowser (conn : Uuid)
  | registerBridge (device owner : Uuid) (session : Nat)
  | ensureBindings (device owner : Uuid)
  | forceCloseBridge (device : Uuid)
  | removeBridge (device : Uuid)
  | sendToBridge (device : Uuid) (env : Envelope)
  | setDegraded (degradedUntil : Option Nat)
  | beginShutdown
  | subscribeBind (conn : Uuid) (key : DKey) (needs : List (Uuid × TargetTag)) (fresh : Uuid)
  | subscribeAttach (conn : Uuid) (key : DKey) (correlation : String) (fresh : Uuid)
  | browserUnsubscribe (conn : Uuid) (streamId : String)
  | browserResync (conn : Uuid) (streamId correlation : String)
  | browserAck (conn : Uuid) (streamId : String) (sequence : Nat)
  | bridgeEnvelope (device : Uuid) (env : Envelope)
  | fanOutPresence (device owner : Uuid) (online : Bool)
  | registerQuery (correlation : String)
  | removeQuery (correlation : String)
  | registerCommand (requestId : String) (conn device : Uuid) (operation : String)
  | takeCommand (requestId : String)
  | heartbeatAck (conn : Uuid)
  | protocolError (conn : Uuid) (error : Blob)
  | commandReply (conn : Uuid) (result : CommandResult)
  | sweepGlobalMemory (order : List DKey)
  | browserWriter (conn : Uuid) (taken : Nat)
  | bridgeWriterGone (device : Uuid)

structure HubStep where
  ctx : Ctx
  op : HubOp

namespace HubInner

def step (h : HubInner) (s : HubStep) : HubInner :=
  match s.op with
  | .registerBrowser conn ident => h.registerBrowser conn ident
  | .closeBrowser conn => h.closeBrowser conn
  | .closeAllBrowsers => h.closeAllBrowsers
  | .removeBrowser conn => h.removeBrowser conn
  | .registerBridge device owner session => h.registerBridge device owner session
  | .ensureBindings device owner => (h.ensureBindings s.ctx device owner).1
  | .forceCloseBridge device => h.forceCloseBridge device
  | .removeBridge device => (h.removeBridge s.ctx device).1
  | .sendToBridge device env => (h.sendToBridge s.ctx device env).1
  | .setDegraded degradedUntil => { h with degradedUntil }
  | .beginShutdown => (h.beginShutdown s.ctx).1
  | .subscribeBind conn key needs fresh => h.subscribeBind s.ctx conn key needs fresh
  | .subscribeAttach conn key correlation fresh =>
    h.subscribeAttach s.ctx conn key correlation fresh
  | .browserUnsubscribe conn streamId => h.browserUnsubscribe s.ctx conn streamId
  | .browserResync conn streamId correlation => h.browserResync s.ctx conn streamId correlation
  | .browserAck conn streamId sequence => h.browserAck s.ctx conn streamId sequence
  | .bridgeEnvelope device env => h.handleBridgeEnvelope s.ctx device env
  | .fanOutPresence device owner online => h.fanOutPresence s.ctx device owner online
  | .registerQuery correlation => { h with queries := h.queries.insert correlation () }
  | .removeQuery correlation => { h with queries := h.queries.erase correlation }
  | .registerCommand requestId conn device operation =>
    h.registerCommand requestId conn device operation
  | .takeCommand requestId => h.takeCommand requestId
  | .heartbeatAck conn => h.reply s.ctx conn (baseEnvelope s.ctx.now "" .heartbeatAck)
  | .protocolError conn error =>
    h.reply s.ctx conn (baseEnvelope s.ctx.now "" (.protocolError error))
  | .commandReply conn result =>
    h.reply s.ctx conn (baseEnvelope s.ctx.now "" (.commandResult result))
  | .sweepGlobalMemory order => h.sweepGlobalMemory s.ctx order
  | .browserWriter conn taken =>
    { h with browsers := h.browsers.modify conn fun bc =>
      { bc with outbox := bc.outbox.drain taken } }
  | .bridgeWriterGone device =>
    { h with bridges := h.bridges.modify device fun conn =>
      { conn with sink := { conn.sink with live := false } } }

/-- The state after a run. -/
def run (h : HubInner) (steps : List HubStep) : HubInner := steps.foldl step h

end HubInner

end AgentConsole.Relay
