import AgentConsole.Relay.Delivery
import AgentConsole.Relay.Service
import AgentConsole.Relay.Window

/-! # Messages under their new addressing

What the Relay passes on it encodes again, under the id and the numbers of the downstream
stream or with a correlation id and a device id of its own.  The new envelope may be longer than
the one that was received, and then it has no frame: a command goes to the Bridge as an empty
frame, an answer is dropped, and the writer of a browser gives up on a stream frame.

A `PassedOn` is a message together with its new address.  The messages for which all is well in
every state of the queues are those whose new envelopes are within the frame limit. -/

namespace AgentConsole.Relay

open AgentConsole.Lib

/-! ## What a queue has taken -/

/-- What the browser reads when the writer takes this item: a frame is encoded only then, and one
beyond the limit ends the connection instead. -/
def OutItem.decoded (codec : Codec) : OutItem → Option Envelope
  | .frame f => (encodeDirect codec f.env).map WireBytes.env
  | .direct bytes => some bytes.env
  | .close _ => none

/-- The item ends the connection and says why. -/
def OutItem.closes : OutItem → Bool
  | .close _ => true
  | _ => false

theorem encodeDirect_of_le {codec : Codec} {env : Envelope}
    (fits : codec.envelopeLen env ≤ maxFrameBytes) :
    encodeDirect codec env = some ⟨env, codec.envelopeLen env⟩ :=
  if_pos fits

theorem encodeDirect_of_lt {codec : Codec} {env : Envelope}
    (long : maxFrameBytes < codec.envelopeLen env) : encodeDirect codec env = none :=
  if_neg (Nat.not_le_of_lt long)

/-- A frame is read as its envelope exactly when that is within the limit. -/
theorem decoded_frame_iff {codec : Codec} {f : Frame} :
    (OutItem.frame f).decoded codec = some f.env ↔ codec.envelopeLen f.env ≤ maxFrameBytes := by
  simp only [OutItem.decoded, encodeDirect]
  split
  · next fits => simp [fits]
  · next long => simp [long]

namespace BrowserConn

/-- From `bc` to `bc'` the queue has at most taken more items. -/
def Grew (bc bc' : BrowserConn) : Prop := ∃ items, bc'.accepted = bc.accepted ++ items

/-- From `bc` to `bc'` the queue has taken an item with the property `P`. -/
def Took (P : OutItem → Prop) (bc bc' : BrowserConn) : Prop :=
  ∃ items, bc'.accepted = bc.accepted ++ items ∧ ∃ item ∈ items, P item

variable {P Q : OutItem → Prop} {bc mid bc' : BrowserConn}

theorem Grew.refl (bc : BrowserConn) : Grew bc bc := ⟨[], by simp⟩

theorem Grew.trans (first : Grew bc mid) (later : Grew mid bc') : Grew bc bc' := by
  obtain ⟨items, before⟩ := first
  obtain ⟨more, after⟩ := later
  exact ⟨items ++ more, by rw [after, before, List.append_assoc]⟩

theorem Took.later (took : Took P bc mid) (grew : Grew mid bc') : Took P bc bc' := by
  obtain ⟨items, before, item, member, holds⟩ := took
  obtain ⟨more, after⟩ := grew
  refine ⟨items ++ more, by rw [after, before, List.append_assoc], item, ?_, holds⟩
  exact List.mem_append_left _ member

theorem Took.earlier (grew : Grew bc mid) (took : Took P mid bc') : Took P bc bc' := by
  obtain ⟨items, before⟩ := grew
  obtain ⟨more, after, item, member, holds⟩ := took
  refine ⟨items ++ more, by rw [after, before, List.append_assoc], item, ?_, holds⟩
  exact List.mem_append_right _ member

theorem Took.imp (weaken : ∀ item, P item → Q item) (took : Took P bc bc') : Took Q bc bc' := by
  obtain ⟨items, history, item, member, holds⟩ := took
  exact ⟨items, history, item, member, weaken item holds⟩

theorem Took.one {item : OutItem} (history : bc'.accepted = bc.accepted ++ [item])
    (holds : P item) : Took P bc bc' :=
  ⟨[item], history, item, by simp, holds⟩

/-- A queue that has taken nothing more has taken no such item. -/
theorem not_took (same : bc'.accepted = bc.accepted) : ¬ Took P bc bc' := by
  rintro ⟨items, history, item, member, -⟩
  have none_ : items = [] := by simpa [same] using history
  simp [none_] at member

variable (ctx : Ctx) (conn : Uuid)

theorem pushFrame_grew (bc : BrowserConn) (f : Frame) : Grew bc (bc.pushFrame ctx conn f).1 := by
  rcases pushFrame_spec ctx conn bc f with
    ⟨bc', pushed, -, -, history⟩ | ⟨bc', pushed, -, -, history⟩ | ⟨bc', pushed, -, -, history⟩
  · exact ⟨_, by rw [pushed]; exact history⟩
  · exact ⟨[], by rw [pushed]; simpa using history⟩
  · exact ⟨[], by rw [pushed]; simpa using history⟩

theorem pushDirect_grew (bc : BrowserConn) (env : Envelope) :
    Grew bc (bc.pushDirect ctx conn env).1 := by
  rcases pushDirect_spec ctx conn bc env with
    ⟨bc', len, pushed, -, -, history⟩ | ⟨bc', pushed, history, -⟩ |
    ⟨bc', reason, pushed, -, -, history⟩
  · exact ⟨_, by rw [pushed]; exact history⟩
  · exact ⟨[], by rw [pushed]; simpa using history⟩
  · exact ⟨_, by rw [pushed]; exact history⟩

theorem pushFrames_grew (frames : List Frame) (bc : BrowserConn) :
    Grew bc (bc.pushFrames ctx conn frames).1 := by
  obtain ⟨sent, -, -, history, -⟩ := pushFrames_spec ctx conn frames bc
  exact ⟨_, history⟩

theorem pushReplay_grew (subscribed : Envelope) (frames : List Frame) (bc : BrowserConn) :
    Grew bc (bc.pushReplay ctx conn subscribed frames).1 := by
  have first := pushDirect_grew ctx conn bc subscribed
  unfold pushReplay
  split
  · next pushed result =>
    rw [result] at first
    exact first.trans (pushFrames_grew ctx conn frames pushed)
  · next pushed result =>
    rw [result] at first
    exact first

theorem close_grew (bc : BrowserConn) (reason : String) : Grew bc (bc.close reason) := by
  cases closed : bc.closed with
  | true =>
    refine ⟨[], ?_⟩
    simp [accepted, close, Outbox.close_of_closed closed]
  | false => exact ⟨_, Outbox.close_accepted_open closed reason⟩

/-- Closing an open connection says why. -/
theorem close_took (isOpen : bc.closed = false) (reason : String) :
    Took (fun item => item.closes = true) bc (bc.close reason) :=
  .one (Outbox.close_accepted_open isOpen reason) rfl

/-- A short message is taken by an open queue, or the queue is exhausted and closes. -/
theorem pushDirect_took {env : Envelope} (fits : ctx.codec.envelopeLen env ≤ maxFrameBytes)
    (isOpen : bc.closed = false) :
    Took (fun item => item.decoded ctx.codec = some env ∨ item.closes = true) bc
      (bc.pushDirect ctx conn env).1 := by
  rcases pushDirect_spec ctx conn bc env with
    ⟨bc', len, pushed, -, -, history⟩ | ⟨bc', pushed, -, -, isClosed | long⟩ |
    ⟨bc', reason, pushed, -, -, history⟩
  · exact .one (by rw [pushed]; exact history) (.inl rfl)
  · rw [isOpen] at isClosed
    cases isClosed
  · omega
  · exact .one (by rw [pushed]; exact history) (.inr rfl)

theorem pushFrame_closed (bc : BrowserConn) (f : Frame) :
    (bc.pushFrame ctx conn f).1.closed = bc.closed := by
  rcases pushFrame_spec ctx conn bc f with
    ⟨bc', pushed, wasOpen, isOpen, -⟩ | ⟨bc', pushed, wasClosed, isClosed, -⟩ |
    ⟨bc', pushed, wasOpen, isOpen, -⟩
  · simp [pushed, wasOpen, isOpen]
  · simp [pushed, wasClosed, isClosed]
  · simp [pushed, wasOpen, isOpen]

/-- A direct message only closes a connection with a reason. -/
theorem pushDirect_closed {env : Envelope}
    (isClosed : (bc.pushDirect ctx conn env).1.closed = true) :
    bc.closed = true ∨
      Took (fun item => item.closes = true) bc (bc.pushDirect ctx conn env).1 := by
  rcases pushDirect_spec ctx conn bc env with
    ⟨bc', len, pushed, -, isOpen, -⟩ | ⟨bc', pushed, -, same, -⟩ |
    ⟨bc', reason, pushed, -, -, history⟩
  · simp [pushed, isOpen] at isClosed
  · left
    simpa [pushed, same] using isClosed
  · right
    exact .one (by rw [pushed]; exact history) rfl

/-- A message that is too long leaves no trace. -/
theorem pushDirect_long {env : Envelope} (long : maxFrameBytes < ctx.codec.envelopeLen env) :
    (bc.pushDirect ctx conn env).1.accepted = bc.accepted := by
  unfold pushDirect
  rw [encodeDirect_of_lt long]
  simp only [accepted, Outbox.pushDirect]
  split <;> simp

end BrowserConn

/-! ## Messages and their new addresses -/

/-- A message that is passed on, with the address it is passed on under. -/
inductive PassedOn where
  /-- an envelope of the Relay's own for a Bridge -/
  | bridge (device : Uuid) (env : Envelope)
  | command (device : Uuid) (request : CommandRequest)
  | accepted (device : Uuid) (answer : CommandAccepted)
  | result (device : Uuid) (answer : CommandResult)
  | snapshot (stream : Uuid) (epoch sequence : Nat) (env : Envelope)
  /-- one event of a batch that arrived in the envelope `env` -/
  | event (stream : Uuid) (epoch sequence : Nat) (env : Envelope) (event : Event)

/-- The envelope a command is forwarded in. -/
def forwardEnvelope (now : Nat) (device : Uuid) (request : CommandRequest) : Envelope :=
  { baseEnvelope now device.text (.commandRequest request) with
    correlationId := request.requestId }

/-- The answer to a command that could not be forwarded. -/
def refusalEnvelope (now : Nat) (request : CommandRequest) : Envelope :=
  baseEnvelope now "" (.commandResult (Service.commandRejected request.requestId .deviceOffline))

def snapshotEnvelope (streamId : String) (epoch sequence : Nat) (env : Envelope) : Envelope :=
  { env with streamId, streamEpoch := epoch, sequence }

def eventEnvelope (now : Nat) (streamId : String) (epoch sequence : Nat) (env : Envelope)
    (event : Event) : Envelope :=
  { baseEnvelope now env.deviceId (.eventBatch ⟨streamId, [⟨env.sentAt, some event⟩]⟩) with
    streamId, streamEpoch := epoch, sequence }

/-- The envelopes the Relay makes of a message; for a command also the refusal. -/
def PassedOn.envelopes (now : Nat) : PassedOn → List Envelope
  | .bridge _ env => [env]
  | .command device request => [forwardEnvelope now device request, refusalEnvelope now request]
  | .accepted device answer => [baseEnvelope now device.text (.commandAccepted answer)]
  | .result device answer => [baseEnvelope now device.text (.commandResult answer)]
  | .snapshot stream epoch sequence env =>
    [snapshotEnvelope ("s-" ++ stream.text) epoch sequence env]
  | .event stream epoch sequence env e =>
    [eventEnvelope now ("s-" ++ stream.text) epoch sequence env e]

theorem eventFrame_env (ctx : Ctx) (env : Envelope) (ds : DStream) (event : Event) :
    (ds.eventFrame ctx env event).env =
      eventEnvelope ctx.now ds.streamId ds.epoch ds.nextSeq env event := rfl

theorem snapshotFrame_env (ctx : Ctx) (env : Envelope) (ds : DStream) :
    (ds.snapshotFrame ctx env).env = snapshotEnvelope ds.streamId ds.epoch ds.nextSeq env := rfl

/-! ## A message that is not lost silently -/

/-- The frame last put on the queue of the Bridge decodes to `env`. -/
def HubInner.LastSent (device : Uuid) (env : Envelope) (h : HubInner) : Prop :=
  ∃ conn bytes, h.bridges.get? device = some conn ∧
    conn.sink.items.getLast? = some (some bytes) ∧ bytes.env = env

/-- From `before` to `after` the open connection at `conn` has taken an item with the property
`P`. -/
def TookAt (P : OutItem → Prop) (before after : Browsers) (conn : Uuid) : Prop :=
  ∀ bc, before.get? conn = some bc → bc.closed = false →
    ∃ bc', after.get? conn = some bc' ∧ bc.Took P bc'

/-- The item answers with `env`, or ends the connection. -/
def Answers (codec : Codec) (env : Envelope) (item : OutItem) : Prop :=
  item.decoded codec = some env ∨ item.closes = true

/-- The item is read as `env`, or tells the subscriber to resync. -/
def Shows (ctx : Ctx) (streamId : String) (env : Envelope) (item : OutItem) : Prop :=
  item.decoded ctx.codec = some env ∨
    item.decoded ctx.codec = some (resyncRequiredEnv ctx.now streamId) ∨ item.closes = true

/-- The steps of a command handler from the forwarding on: what it reports as forwarded decodes
to the command, and otherwise it goes on to answer REJECTED. -/
structure CommandKept (ctx : Ctx) (device : Uuid) (request : CommandRequest) : Prop where
  forwarded : ∀ (env : ServiceCtx) (w : Service) (id : Nat) (task : CommandTask), env.ctx = ctx →
    task.request = request → task.phase = .send device →
      ((w.commandStep env id task).hub.LastSent device (forwardEnvelope ctx.now device request) ∧
          (w.commandStep env id task).commands.get? id = some { task with phase := .done }) ∨
        ((w.commandStep env id task).dispatched = w.dispatched ∧
          (w.commandStep env id task).commands.get? id = some { task with phase := .takeBack })
  rejects : ∀ (env : ServiceCtx) (w : Service) (id : Nat) (task : CommandTask),
    (task.phase = .takeBack →
        (w.commandStep env id task).commands.get? id = some { task with phase := .reject }) ∧
      (task.phase = .reject →
        (w.commandStep env id task).commands.get? id = some { task with phase := .rejectedReply })
  told : ∀ (env : ServiceCtx) (w : Service) (id : Nat) (task : CommandTask), env.ctx = ctx →
    task.request = request → task.phase = .rejectedReply →
      TookAt (Answers ctx.codec (refusalEnvelope ctx.now request)) w.hub.browsers
        (w.commandStep env id task).hub.browsers task.conn

/-- The message is passed on under its new address, or its loss is told, in every state of the
hub and its queues. -/
def PassedOn.Kept (ctx : Ctx) : PassedOn → Prop
  | .bridge device env =>
    ∀ h : HubInner, (h.sendToBridge ctx device env).2 = true →
      (h.sendToBridge ctx device env).1.LastSent device env
  | .command device request => CommandKept ctx device request
  | .accepted device answer =>
    ∀ (h : HubInner) p, h.commands.get? answer.requestId = some p →
      TookAt (Answers ctx.codec (baseEnvelope ctx.now device.text (.commandAccepted answer)))
        h.browsers (h.onCommandAccepted ctx device answer).browsers p.connId
  | .result device answer =>
    ∀ (h : HubInner) p, h.commands.get? answer.requestId = some p →
      TookAt (Answers ctx.codec (baseEnvelope ctx.now device.text (.commandResult answer)))
        h.browsers (h.onCommandResult ctx device answer).browsers p.connId
  | .snapshot stream epoch sequence env =>
    ∀ (c : StreamCell) upstreamId, c.ds.streamId = "s-" ++ stream.text → c.ds.epoch = epoch →
      c.ds.nextSeq = sequence → c.ds.upstreams.contains upstreamId = true →
      ∀ conn, c.ds.subscribers.contains conn = true →
        TookAt (Shows ctx c.ds.streamId (snapshotEnvelope c.ds.streamId epoch sequence env))
          c.browsers (c.handleUpstreamSnapshot ctx upstreamId env).browsers conn
  | .event stream epoch sequence env e =>
    -- the batch is neither a repetition nor stashed
    ∀ (c : StreamCell) upstreamId binding before after, c.ds.streamId = "s-" ++ stream.text →
      c.ds.epoch = epoch → c.ds.nextSeq + before.length = sequence →
      c.ds.upstreams.get? upstreamId = some binding →
      ¬ (env.sequence ≠ 0 ∧ env.sequence ≤ binding.lastSeq) →
      (binding.snapshotReceived = true ∨ c.ds.snapshots ≠ []) →
      ∀ conn, c.ds.active conn = true →
        TookAt (Shows ctx c.ds.streamId (eventEnvelope ctx.now c.ds.streamId epoch sequence env e))
          c.browsers (c.fanOutEvents ctx upstreamId env (before ++ e :: after)).browsers conn

/-! ## Sending to a Bridge -/

namespace HubInner

variable {ctx : Ctx} {device : Uuid} {env : Envelope}

/-- A frame that is within the limit and is taken by the queue is the last one there. -/
theorem sendToBridge_kept (fits : ctx.codec.envelopeLen env ≤ maxFrameBytes) (h : HubInner)
    (sent : (h.sendToBridge ctx device env).2 = true) :
    (h.sendToBridge ctx device env).1.LastSent device env := by
  unfold sendToBridge at sent ⊢
  cases found : h.bridges.get? device with
  | none => simp [found] at sent
  | some conn =>
    simp only [found, encodeDirect_of_le fits, Sink.trySend] at sent ⊢
    split at sent
    · next room =>
      refine ⟨_, ⟨env, ctx.codec.envelopeLen env⟩, FiniteMap.get?_insert_self _ _ _, ?_, rfl⟩
      rw [if_pos room]
      simp
    · cases sent

/-- A hub whose only Bridge has an empty queue. -/
def withBridge (device : Uuid) : HubInner :=
  HubInner.new.registerBridge device device 0

theorem withBridge_bridge (device : Uuid) :
    (withBridge device).bridges.get? device =
      some { device, owner := device, session := 0, sink := .new, close := false } :=
  FiniteMap.get?_insert_self _ _ _

/-- The empty frame of an envelope beyond the limit is taken and reported as sent. -/
theorem sendToBridge_empty (device : Uuid) (long : maxFrameBytes < ctx.codec.envelopeLen env) :
    ((withBridge device).sendToBridge ctx device env).2 = true ∧
      ∃ conn, ((withBridge device).sendToBridge ctx device env).1.bridges.get? device = some conn ∧
        conn.sink.items = [none] := by
  unfold sendToBridge
  simp only [withBridge_bridge, encodeDirect_of_lt long, Sink.trySend, Sink.new]
  exact ⟨by simp [bridgeQueueMaxFrames], _, FiniteMap.get?_insert_self _ _ _,
    by simp [bridgeQueueMaxFrames]⟩

theorem not_lastSent_empty {h : HubInner}
    (empty : ∃ conn, h.bridges.get? device = some conn ∧ conn.sink.items = [none]) :
    ¬ h.LastSent device env := by
  obtain ⟨conn, found, items⟩ := empty
  rintro ⟨conn', bytes, found', last, -⟩
  rw [found] at found'
  obtain rfl := Option.some.inj found'
  simp [items] at last

end HubInner

/-! ## Answers -/

section Answers

variable {ctx : Ctx} {env : Envelope}

/-- A short answer reaches the open connection it is meant for. -/
theorem reply_took (fits : ctx.codec.envelopeLen env ≤ maxFrameBytes) (h : HubInner) (conn : Uuid) :
    TookAt (Answers ctx.codec env) h.browsers (h.reply ctx conn env).browsers conn := by
  intro bc found isOpen
  refine ⟨(bc.pushDirect ctx conn env).1, ?_, BrowserConn.pushDirect_took ctx conn fits isOpen⟩
  simp [HubInner.reply, FiniteMap.get?_modify, found]

/-- A hub whose only browser has an empty queue. -/
def HubInner.withBrowser (conn : Uuid) : HubInner :=
  HubInner.new.registerBrowser conn ⟨conn, conn, 0⟩

/-- An answer beyond the limit does not reach anyone. -/
theorem not_reply_took (long : maxFrameBytes < ctx.codec.envelopeLen env) {h : HubInner}
    {conn : Uuid} (browsers : h.browsers = (HubInner.withBrowser conn).browsers) :
    ¬ TookAt (Answers ctx.codec env) h.browsers (h.reply ctx conn env).browsers conn := by
  intro took
  have found : h.browsers.get? conn =
      some ⟨.new browserQueueMaxFrames browserQueueMaxBytes, ⟨conn, conn, 0⟩, 0⟩ := by
    rw [browsers]
    exact FiniteMap.get?_insert_self _ _ _
  obtain ⟨bc', after, taken⟩ := took _ found rfl
  simp only [HubInner.reply, FiniteMap.get?_modify, found, if_true, Option.map_some,
    Option.some.injEq] at after
  rw [← after] at taken
  exact BrowserConn.not_took (BrowserConn.pushDirect_long ctx conn long) taken

end Answers

/-! ## The handler of a command -/

section Command

variable {ctx : Ctx} {device : Uuid} {request : CommandRequest}

theorem command_kept (fits : ctx.codec.envelopeLen (forwardEnvelope ctx.now device request) ≤
      maxFrameBytes)
    (refusal : ctx.codec.envelopeLen (refusalEnvelope ctx.now request) ≤ maxFrameBytes) :
    CommandKept ctx device request where
  forwarded := by
    rintro env w id task rfl rfl phase
    simp only [Service.commandStep, phase]
    split
    · next sent =>
      left
      refine ⟨HubInner.sendToBridge_kept fits w.hub sent, ?_⟩
      simp [Service.setCommand]
    · right
      simp [Service.setCommand]
  rejects := by
    intro env w id task
    constructor
    · intro phase
      simp [Service.commandStep, phase, Service.setCommand]
    · intro phase
      simp [Service.commandStep, phase, Service.setCommand]
  told := by
    rintro env w id task rfl rfl phase
    simp only [Service.commandStep, phase]
    exact reply_took refusal w.hub task.conn

/-- A forwarded command is within the limit. -/
theorem fits_of_forwarded (kept : CommandKept ctx device request) :
    ctx.codec.envelopeLen (forwardEnvelope ctx.now device request) ≤ maxFrameBytes := by
  by_contra long
  have empty := HubInner.sendToBridge_empty device (Nat.lt_of_not_le long)
  let task : CommandTask := ⟨device, ⟨device, device, 0⟩, request, .send device⟩
  let w : Service := { Service.new with hub := .withBridge device }
  let hub := (HubInner.sendToBridge ctx device (forwardEnvelope ctx.now device request) w.hub).1
  have forwarded : w.commandStep { ServiceCtx.idle with ctx } 0 task =
      { w with
        hub
        dispatched := w.dispatched ++ [(request.requestId, device, w.registrations)] }.setCommand
          0 task .done :=
    if_pos empty.1
  rcases kept.forwarded { ServiceCtx.idle with ctx } w 0 task rfl rfl rfl with
    ⟨sent, -⟩ | ⟨silent, -⟩
  · rw [forwarded] at sent
    exact HubInner.not_lastSent_empty empty.2 sent
  · rw [forwarded] at silent
    simp [Service.setCommand, Service.new, w] at silent

/-- A refusal that arrives is within the limit. -/
theorem fits_of_told (kept : CommandKept ctx device request) :
    ctx.codec.envelopeLen (refusalEnvelope ctx.now request) ≤ maxFrameBytes := by
  by_contra long
  let task : CommandTask := ⟨device, ⟨device, device, 0⟩, request, .rejectedReply⟩
  let w : Service := { Service.new with hub := .withBrowser device }
  have told := kept.told { ServiceCtx.idle with ctx } w 0 task rfl rfl rfl
  simp only [w, task, Service.commandStep] at told
  exact not_reply_took (Nat.lt_of_not_le long) rfl told

end Command

/-! ## Subscribers of a stream -/

section Streams

variable {ctx : Ctx} {conn : Uuid} {bc : BrowserConn} {stream : Uuid}

/-- A detached connection is told to resync and closed. -/
theorem detachFailed_took {c : StreamCell} {conns : List Uuid} (member : conn ∈ conns)
    (found : c.browsers.get? conn = some bc) (isOpen : bc.closed = false) :
    ∃ bc', (c.detachFailed ctx conns).browsers.get? conn = some bc' ∧
      bc.Took (fun item => item.closes = true) bc' := by
  refine ⟨(bc.pushDirect ctx conn (resyncRequiredEnv ctx.now c.ds.streamId)).1.close
    "RESYNC_REQUIRED", ?_, ?_⟩
  · simp [StreamCell.detachFailed, found, member]
  · rcases BrowserConn.pushDirect_spec ctx conn bc (resyncRequiredEnv ctx.now c.ds.streamId) with
      ⟨bc', len, pushed, -, stillOpen, history⟩ | ⟨bc', pushed, history, same, -⟩ |
      ⟨bc', reason, pushed, -, -, history⟩
    · rw [pushed]
      exact .earlier ⟨_, history⟩ (BrowserConn.close_took stillOpen _)
    · rw [pushed]
      have grew : bc.Grew bc' := ⟨[], by simpa using history⟩
      exact .earlier grew (BrowserConn.close_took (same.trans isOpen) _)
    · rw [pushed]
      have closed : bc.Took (fun item => item.closes = true) bc' := .one history rfl
      exact closed.later (BrowserConn.close_grew bc' _)

/-- The other connections stay as they are. -/
theorem detachFailed_other {c : StreamCell} {conns : List Uuid} (absent : conn ∉ conns) :
    (c.detachFailed ctx conns).browsers.get? conn = c.browsers.get? conn := by
  simp [StreamCell.detachFailed, absent]

/-- A detached connection has at most taken more. -/
theorem detachFailed_grew (c : StreamCell) (conns : List Uuid)
    (found : c.browsers.get? conn = some bc) :
    ∃ bc', (c.detachFailed ctx conns).browsers.get? conn = some bc' ∧ bc.Grew bc' := by
  by_cases member : conn ∈ conns
  · refine ⟨(bc.pushDirect ctx conn (resyncRequiredEnv ctx.now c.ds.streamId)).1.close
      "RESYNC_REQUIRED", by simp [StreamCell.detachFailed, found, member], ?_⟩
    exact (BrowserConn.pushDirect_grew ctx conn bc _).trans (BrowserConn.close_grew _ _)
  · exact ⟨bc, by rw [detachFailed_other member, found], .refl bc⟩

/-! ### Events -/

/-- Where a subscriber stands in the middle of a batch: since `start` its queue has at most
grown, and if it has been closed, it was told why. -/
structure Following (c : StreamCell) (conn : Uuid) (start bc : BrowserConn) : Prop where
  found : c.browsers.get? conn = some bc
  active : c.ds.active conn = true
  grew : start.Grew bc
  told : bc.closed = true → start.Took (fun item => item.closes = true) bc

variable {c : StreamCell} {start : BrowserConn}

theorem Following.subscribed (following : Following c conn start bc) :
    c.ds.subscribers.contains conn = true := by
  have active := following.active
  unfold DStream.active at active
  unfold FiniteMap.contains
  cases sub : c.ds.subscribers.get? conn with
  | none => simp [sub] at active
  | some s => rfl

/-- A subscriber that is told to resync reads that, or its connection has ended. -/
theorem Following.resync (following : Following c conn start bc) {streamId : String}
    (fits : ctx.codec.envelopeLen (resyncRequiredEnv ctx.now streamId) ≤ maxFrameBytes)
    {d : StreamCell} (active : d.ds.active conn = true)
    (browsers : d.browsers.get? conn =
      some (bc.pushDirect ctx conn (resyncRequiredEnv ctx.now streamId)).1) (env : Envelope) :
    Following d conn start (bc.pushDirect ctx conn (resyncRequiredEnv ctx.now streamId)).1 ∧
      start.Took (Shows ctx streamId env)
        (bc.pushDirect ctx conn (resyncRequiredEnv ctx.now streamId)).1 := by
  have pushed := BrowserConn.pushDirect_grew ctx conn bc (resyncRequiredEnv ctx.now streamId)
  constructor
  · refine ⟨browsers, active, following.grew.trans pushed, ?_⟩
    intro closed
    rcases BrowserConn.pushDirect_closed ctx conn closed with wasClosed | told
    · exact (following.told wasClosed).later pushed
    · exact .earlier following.grew told
  · cases closed : bc.closed with
    | true => exact ((following.told closed).later pushed).imp fun item ends => .inr (.inr ends)
    | false =>
      refine .earlier following.grew ((BrowserConn.pushDirect_took ctx conn fits closed).imp ?_)
      rintro item (shown | ends)
      · exact .inr (.inl shown)
      · exact .inr (.inr ends)

/-- A subscriber that is pushed a short frame is shown it, or its queue refuses it. -/
theorem Following.pushed (following : Following c conn start bc) (f : Frame) {d : StreamCell}
    (active : d.ds.active conn = true)
    (browsers : d.browsers.get? conn = some (bc.pushFrame ctx conn f).1) (streamId : String) :
    Following d conn start (bc.pushFrame ctx conn f).1 ∧
      (ctx.codec.envelopeLen f.env ≤ maxFrameBytes →
        start.Took (Shows ctx streamId f.env) (bc.pushFrame ctx conn f).1 ∨
          (bc.pushFrame ctx conn f).2 = some .slowConsumer) := by
  have pushed := BrowserConn.pushFrame_grew ctx conn bc f
  constructor
  · refine ⟨browsers, active, following.grew.trans pushed, ?_⟩
    intro closed
    rw [BrowserConn.pushFrame_closed] at closed
    exact (following.told closed).later pushed
  · intro fits
    rcases BrowserConn.pushFrame_spec ctx conn bc f with
      ⟨bc', result, -, -, history⟩ | ⟨bc', result, wasClosed, -, -⟩ | ⟨bc', result, -⟩
    · left
      rw [result]
      exact .earlier following.grew (.one history (.inl (decoded_frame_iff.mpr fits)))
    · left
      exact ((following.told wasClosed).later pushed).imp fun item ends => .inr (.inr ends)
    · right
      rw [result]

/-- One event: the subscriber is shown its frame, or is told, or will be detached. -/
theorem emitEvent_following (ctx : Ctx) (env : Envelope) (event : Event)
    {acc : StreamCell × List Uuid}
    (streamId : acc.1.ds.streamId = "s-" ++ stream.text)
    (following : Following acc.1 conn start bc) :
    ∃ bc', Following (StreamCell.emitEvent ctx env acc event).1 conn start bc' ∧ bc.Grew bc' ∧
      acc.2 ⊆ (StreamCell.emitEvent ctx env acc event).2 ∧
      (ctx.codec.envelopeLen (acc.1.ds.eventFrame ctx env event).env ≤ maxFrameBytes →
        start.Took (Shows ctx acc.1.ds.streamId (acc.1.ds.eventFrame ctx env event).env) bc' ∨
          conn ∈ (StreamCell.emitEvent ctx env acc event).2) := by
  have active : (acc.1.ds.number ctx (acc.1.ds.eventFrame ctx env event)).1.active conn = true :=
    following.active
  unfold StreamCell.emitEvent
  dsimp only
  split
  · -- the buffer is reset, and every subscriber is told to resync
    have fits : ctx.codec.envelopeLen (resyncRequiredEnv ctx.now acc.1.ds.streamId) ≤
        maxFrameBytes := by
      rw [streamId]
      exact ctx.codec.resyncRequired_fits ctx.now stream
    have browsers : ((acc.1.ds.number ctx (acc.1.ds.eventFrame ctx env event)).1.notifyResync ctx
        acc.1.browsers).get? conn =
        some (bc.pushDirect ctx conn (resyncRequiredEnv ctx.now acc.1.ds.streamId)).1 := by
      simp [DStream.notifyResync, DStream.number, following.found, following.subscribed]
    obtain ⟨still, told⟩ := following.resync fits (d := { acc.1 with
      ds := (acc.1.ds.number ctx (acc.1.ds.eventFrame ctx env event)).1
      browsers := _ }) active browsers (acc.1.ds.eventFrame ctx env event).env
    exact ⟨_, still, BrowserConn.pushDirect_grew ctx conn bc _, List.Subset.refl _,
      fun _ => .inl told⟩
  · have browsers : ((acc.1.ds.number ctx (acc.1.ds.eventFrame ctx env event)).1.deliver ctx
        (acc.1.ds.eventFrame ctx env event) acc.1.browsers).1.get? conn =
        some (bc.pushFrame ctx conn (acc.1.ds.eventFrame ctx env event)).1 := by
      simp [DStream.deliver, following.found, active]
    obtain ⟨still, shown⟩ := following.pushed (acc.1.ds.eventFrame ctx env event)
      (d := { acc.1 with
        ds := (acc.1.ds.number ctx (acc.1.ds.eventFrame ctx env event)).1
        browsers := _ }) active browsers acc.1.ds.streamId
    refine ⟨_, still, BrowserConn.pushFrame_grew ctx conn bc _, List.subset_append_left _ _, ?_⟩
    intro fits
    rcases shown fits with taken | slow
    · exact .inl taken
    · right
      refine List.mem_append_right _ (List.mem_map.mpr ⟨(conn, bc), ?_, rfl⟩)
      exact List.mem_filter.mpr ⟨FiniteMap.mem_toList.mpr following.found, by simp [active, slow]⟩

/-- The stream's coordinates after one event. -/
theorem emitEvent_numbers (ctx : Ctx) (env : Envelope) (acc : StreamCell × List Uuid)
    (event : Event) :
    (StreamCell.emitEvent ctx env acc event).1.ds.streamId = acc.1.ds.streamId ∧
      (StreamCell.emitEvent ctx env acc event).1.ds.epoch = acc.1.ds.epoch ∧
      (StreamCell.emitEvent ctx env acc event).1.ds.nextSeq = acc.1.ds.nextSeq + 1 := by
  unfold StreamCell.emitEvent
  dsimp only
  split <;> exact ⟨rfl, rfl, rfl⟩

theorem emitEvents_numbers (ctx : Ctx) (env : Envelope) (events : List Event)
    (acc : StreamCell × List Uuid) :
    (events.foldl (StreamCell.emitEvent ctx env) acc).1.ds.streamId = acc.1.ds.streamId ∧
      (events.foldl (StreamCell.emitEvent ctx env) acc).1.ds.epoch = acc.1.ds.epoch ∧
      (events.foldl (StreamCell.emitEvent ctx env) acc).1.ds.nextSeq =
        acc.1.ds.nextSeq + events.length := by
  induction events generalizing acc with
  | nil => exact ⟨rfl, rfl, rfl⟩
  | cons event events inductionHypothesis =>
    obtain ⟨stream, epoch, next⟩ := emitEvent_numbers ctx env acc event
    obtain ⟨stream', epoch', next'⟩ :=
      inductionHypothesis (StreamCell.emitEvent ctx env acc event)
    refine ⟨stream'.trans stream, epoch'.trans epoch, ?_⟩
    rw [List.foldl_cons, next', next, List.length_cons]
    omega

/-- The events of a batch by induction: what was shown stays shown. -/
theorem emitEvents_following (ctx : Ctx) (env : Envelope) (events : List Event)
    {acc : StreamCell × List Uuid} (streamId : acc.1.ds.streamId = "s-" ++ stream.text)
    (following : Following acc.1 conn start bc) :
    ∃ bc', Following (events.foldl (StreamCell.emitEvent ctx env) acc).1 conn start bc' ∧
      bc.Grew bc' ∧ acc.2 ⊆ (events.foldl (StreamCell.emitEvent ctx env) acc).2 := by
  induction events generalizing acc bc with
  | nil => exact ⟨bc, following, .refl bc, List.Subset.refl _⟩
  | cons event events inductionHypothesis =>
    obtain ⟨mid, following, grew, slow, -⟩ :=
      emitEvent_following ctx env event streamId following
    obtain ⟨bc', following', grew', slow'⟩ :=
      inductionHypothesis ((emitEvent_numbers ctx env acc event).1.trans streamId) following
    exact ⟨bc', following', grew.trans grew', List.Subset.trans slow slow'⟩

/-- A batch that is fanned out: each of its events. -/
theorem fanOutEvents_took {upstreamId : String} {binding : UpstreamBinding} {env : Envelope}
    {event : Event} {before after : List Event} (streamId : c.ds.streamId = "s-" ++ stream.text)
    (found : c.ds.upstreams.get? upstreamId = some binding)
    (fresh : ¬ (env.sequence ≠ 0 ∧ env.sequence ≤ binding.lastSeq))
    (unstashed : binding.snapshotReceived = true ∨ c.ds.snapshots ≠ [])
    (fits : ctx.codec.envelopeLen (eventEnvelope ctx.now c.ds.streamId c.ds.epoch
      (c.ds.nextSeq + before.length) env event) ≤ maxFrameBytes)
    (active : c.ds.active conn = true) :
    TookAt (Shows ctx c.ds.streamId (eventEnvelope ctx.now c.ds.streamId c.ds.epoch
        (c.ds.nextSeq + before.length) env event))
      c.browsers (c.fanOutEvents ctx upstreamId env (before ++ event :: after)).browsers conn := by
  intro start there isOpen
  have some_ : (before ++ event :: after).isEmpty = false := by simp
  have passed : ¬ (!binding.snapshotReceived && c.ds.snapshots.isEmpty) = true := by
    rcases unstashed with received | shown
    · simp [received]
    · simp [shown]
  unfold StreamCell.fanOutEvents
  simp only [found, if_neg fresh, some_, if_neg passed, Bool.false_eq_true, if_false]
  -- the mark of the upstream is no part of what a subscriber sees
  generalize marked : ({ c with ds := { c.ds with upstreams := _ } } : StreamCell) = c'
  have same : c'.ds.streamId = c.ds.streamId ∧ c'.ds.epoch = c.ds.epoch ∧
      c'.ds.nextSeq = c.ds.nextSeq ∧ c'.ds.active conn = c.ds.active conn ∧
      c'.browsers = c.browsers := by
    rw [← marked]
    exact ⟨rfl, rfl, rfl, rfl, rfl⟩
  obtain ⟨sameStream, sameEpoch, sameNext, sameActive, sameBrowsers⟩ := same
  have following : Following (c', ([] : List Uuid)).1 conn start start :=
    ⟨by rw [sameBrowsers, there], by rw [sameActive, active], .refl start,
      fun closed => by simp [isOpen] at closed⟩
  rw [List.foldl_append, List.foldl_cons]
  obtain ⟨bc₁, following₁, -, -⟩ :=
    emitEvents_following ctx env before (sameStream.trans streamId) following
  obtain ⟨stream₁, epoch₁, next₁⟩ :=
    emitEvents_numbers ctx env before (c', ([] : List Uuid))
  generalize before.foldl (StreamCell.emitEvent ctx env) (c', []) = acc at *
  have streamId₁ : acc.1.ds.streamId = "s-" ++ stream.text :=
    stream₁.trans (sameStream.trans streamId)
  obtain ⟨bc₂, following₂, -, -, shown⟩ :=
    emitEvent_following ctx env event streamId₁ following₁
  have streamId₂ := (emitEvent_numbers ctx env acc event).1.trans streamId₁
  rw [eventFrame_env, stream₁, epoch₁, next₁, sameStream, sameEpoch, sameNext] at shown
  obtain ⟨bc₃, following₃, grew₃, slow₃⟩ :=
    emitEvents_following ctx env after streamId₂ following₂
  rcases shown fits with taken | slow
  · obtain ⟨bc', there', grew'⟩ := detachFailed_grew _ _ following₃.found
    exact ⟨bc', there', (taken.later grew₃).later grew'⟩
  · have member := slow₃ slow
    cases closed : bc₃.closed with
    | true =>
      obtain ⟨bc', there', grew'⟩ := detachFailed_grew _ _ following₃.found
      refine ⟨bc', there', ?_⟩
      exact ((following₃.told closed).later grew').imp fun item ends => .inr (.inr ends)
    | false =>
      obtain ⟨bc', there', ends⟩ := detachFailed_took member following₃.found closed
      refine ⟨bc', there', .earlier following₃.grew (ends.imp ?_)⟩
      exact fun item ends => .inr (.inr ends)

/-! ### Snapshots -/

/-- Every cached snapshot is in the replay window. -/
theorem mem_replayWindow {ds : DStream} {f : Frame} (cached : f ∈ ds.snapshots) :
    f ∈ ds.replayWindow.2 := by
  unfold DStream.replayWindow
  cases full : ds.fullReplay with
  | some window =>
    obtain ⟨first, rest, surviving, frames, -⟩ := DStream.fullReplay_eq_some full
    rw [Option.getD_some, frames, ← surviving]
    exact DStream.mem_survivingFrames.mpr (.inl cached)
  | none =>
    rw [Option.getD_none]
    rcases ds.anchoredReplay_cases with withTail | snapshotsOnly
    · rw [withTail]
      exact DStream.mem_sortBySequence.mpr (List.mem_append_left _ cached)
    · rw [snapshotsOnly]
      exact DStream.mem_sortBySequence.mpr cached

/-- The newest snapshot is not among those that are dropped. -/
theorem mem_cacheSnapshot (ds : DStream) (frame : Frame) :
    frame ∈ (ds.cacheSnapshot frame).snapshots := by
  unfold DStream.cacheSnapshot
  dsimp only
  generalize ds.snapshots.filter _ = others
  have drop : (others ++ [frame]).length - snapshotCacheMax ≤ others.length := by
    simp only [List.length_append, List.length_singleton, snapshotCacheMax]
    omega
  rw [List.drop_append_of_le_length drop]
  exact List.mem_append_right _ (List.mem_singleton_self _)

theorem mem_orderSnapshot (ctx : Ctx) (ds : DStream) (upstreamId : String)
    (binding : UpstreamBinding) (env : Envelope) :
    ds.snapshotFrame ctx env ∈ (ds.orderSnapshot ctx upstreamId binding env).snapshots :=
  mem_cacheSnapshot _ _

/-- What a subscriber is pushed when a snapshot arrives. -/
theorem snapshotPush_took (ctx : Ctx) (conn : Uuid) {ds : DStream} {frame : Frame}
    (cached : frame ∈ ds.snapshots)
    (fits : ctx.codec.envelopeLen frame.env ≤ maxFrameBytes) (sub : SubscriberState)
    (isOpen : bc.closed = false) (streamId : String) :
    bc.Grew (StreamCell.snapshotPush ctx ds frame conn sub bc).1 ∧
      ((StreamCell.snapshotPush ctx ds frame conn sub bc).2 = true →
        bc.Took (Shows ctx streamId frame.env)
          (StreamCell.snapshotPush ctx ds frame conn sub bc).1) ∧
      ((StreamCell.snapshotPush ctx ds frame conn sub bc).1.closed = true →
        bc.Took (fun item => item.closes = true)
          (StreamCell.snapshotPush ctx ds frame conn sub bc).1) := by
  unfold StreamCell.snapshotPush
  split
  · -- a waiting subscriber is served the window, which holds the snapshot
    dsimp only
    generalize subscribedEnv ctx.now ds.streamId ds.epoch ds.replayWindow.1
      sub.subscribeCorrelation = subscribed
    refine ⟨BrowserConn.pushReplay_grew ctx conn _ _ bc, ?_, ?_⟩
    · intro served
      obtain ⟨len, history, -⟩ := BrowserConn.pushReplay_served ctx conn (Prod.ext rfl served)
      refine ⟨_, history, .frame frame, ?_, .inl (decoded_frame_iff.mpr fits)⟩
      exact List.mem_cons_of_mem _ (List.mem_map_of_mem (mem_replayWindow cached))
    · intro closed
      have first := BrowserConn.pushDirect_grew ctx conn bc subscribed
      unfold BrowserConn.pushReplay at closed ⊢
      split at closed
      · next mid result =>
        obtain ⟨-, -, -, -, same, -⟩ :=
          BrowserConn.pushFrames_spec ctx conn ds.replayWindow.2 mid
        rw [same] at closed
        have isClosed : (bc.pushDirect ctx conn subscribed).1.closed = true := by
          rw [result]
          exact closed
        have ended := BrowserConn.pushDirect_closed ctx conn isClosed
        rw [result] at ended
        rcases ended with wasClosed | told
        · simp [isOpen] at wasClosed
        · exact told.later (BrowserConn.pushFrames_grew ctx conn _ mid)
      · next mid result =>
        have isClosed : (bc.pushDirect ctx conn subscribed).1.closed = true := by
          rw [result]
          exact closed
        have ended := BrowserConn.pushDirect_closed ctx conn isClosed
        rw [result] at ended
        exact ended.resolve_left (by simp [isOpen])
  · dsimp only
    refine ⟨BrowserConn.pushFrame_grew ctx conn bc frame, ?_, ?_⟩
    · intro taken
      rcases BrowserConn.pushFrame_spec ctx conn bc frame with
        ⟨bc', result, -, -, history⟩ | ⟨bc', result, -⟩ | ⟨bc', result, -⟩
      · rw [result]
        exact .one history (.inl (decoded_frame_iff.mpr fits))
      · simp [result] at taken
      · simp [result] at taken
    · intro closed
      rw [BrowserConn.pushFrame_closed, isOpen] at closed
      cases closed

/-- A subscriber whose queue takes what it is pushed keeps its connection; another one is
detached. -/
theorem serveSnapshot_cases (ctx : Ctx) (c : StreamCell) (frame : Frame) {sub : SubscriberState}
    (found : c.browsers.get? conn = some bc) (subscriber : c.ds.subscribers.get? conn = some sub) :
    ((StreamCell.snapshotPush ctx c.ds frame conn sub bc).2 = true →
      (c.serveSnapshot ctx frame).browsers.get? conn =
        some (StreamCell.snapshotPush ctx c.ds frame conn sub bc).1) ∧
    ((StreamCell.snapshotPush ctx c.ds frame conn sub bc).2 = false →
      ∃ d refused, c.serveSnapshot ctx frame = StreamCell.detachFailed ctx refused d ∧
        conn ∈ refused ∧ d.browsers.get? conn =
          some (StreamCell.snapshotPush ctx c.ds frame conn sub bc).1) := by
  unfold StreamCell.serveSnapshot
  dsimp only
  generalize refusals : List.map _ _ = refused
  generalize cell : StreamCell.mk _ _ _ _ = d
  have served : d.browsers.get? conn =
      some (StreamCell.snapshotPush ctx c.ds frame conn sub bc).1 := by
    rw [← cell]
    simp [found, subscriber]
  have isRefused : conn ∈ refused ↔
      (StreamCell.snapshotPush ctx c.ds frame conn sub bc).2 = false := by
    rw [← refusals]
    simp only [List.mem_map, List.mem_filter, Prod.exists, exists_and_right, exists_eq_right,
      FiniteMap.mem_toList, found, subscriber, Option.some.injEq]
    constructor
    · rintro ⟨bc', rfl, refuses⟩
      simpa using refuses
    · intro refuses
      exact ⟨bc, rfl, by simp [refuses]⟩
  constructor
  · intro taken
    refine (detachFailed_other ?_).trans served
    rw [isRefused, taken]
    simp
  · intro refuses
    exact ⟨d, refused, rfl, isRefused.mpr refuses, served⟩

/-- A snapshot that is passed on. -/
theorem handleUpstreamSnapshot_took {upstreamId : String} {env : Envelope}
    (bound : c.ds.upstreams.contains upstreamId = true)
    (fits : ctx.codec.envelopeLen (snapshotEnvelope c.ds.streamId c.ds.epoch c.ds.nextSeq env) ≤
      maxFrameBytes)
    (subscribed : c.ds.subscribers.contains conn = true) :
    TookAt (Shows ctx c.ds.streamId (snapshotEnvelope c.ds.streamId c.ds.epoch c.ds.nextSeq env))
      c.browsers (c.handleUpstreamSnapshot ctx upstreamId env).browsers conn := by
  intro bc found isOpen
  obtain ⟨binding, there⟩ := FiniteMap.contains_iff.mp bound
  obtain ⟨sub, subscriber⟩ := FiniteMap.contains_iff.mp subscribed
  unfold StreamCell.handleUpstreamSnapshot
  simp only [there]
  have cached := mem_orderSnapshot ctx c.ds upstreamId binding env
  rw [← snapshotFrame_env ctx] at fits ⊢
  obtain ⟨grew, shown, ended⟩ :=
    snapshotPush_took ctx conn cached fits sub isOpen c.ds.streamId
  obtain ⟨taken, refused⟩ := serveSnapshot_cases ctx
    { c with ds := c.ds.orderSnapshot ctx upstreamId binding env } (c.ds.snapshotFrame ctx env)
    found subscriber
  cases result : (StreamCell.snapshotPush ctx (c.ds.orderSnapshot ctx upstreamId binding env)
      (c.ds.snapshotFrame ctx env) conn sub bc).2 with
  | true => exact ⟨_, taken result, shown result⟩
  | false =>
    obtain ⟨d, conns, detached, member, served⟩ := refused result
    rw [detached]
    cases closed : (StreamCell.snapshotPush ctx (c.ds.orderSnapshot ctx upstreamId binding env)
        (c.ds.snapshotFrame ctx env) conn sub bc).1.closed with
    | true =>
      obtain ⟨bc', after, later⟩ := detachFailed_grew d conns served
      exact ⟨bc', after, ((ended closed).later later).imp fun item ends => .inr (.inr ends)⟩
    | false =>
      obtain ⟨bc', after, told⟩ := detachFailed_took member served closed
      refine ⟨bc', after, .earlier grew (told.imp ?_)⟩
      exact fun item ends => .inr (.inr ends)

end Streams

/-! ### One subscriber -/

section Alone

variable {ctx : Ctx} {stream conn : Uuid} {epoch sequence room : Nat}

/-- An open connection whose empty queue has room for one frame of `room` bytes. -/
def BrowserConn.alone (room : Nat) (conn : Uuid) : BrowserConn :=
  ⟨.new 1 room, ⟨conn, conn, 0⟩, 0⟩

/-- A stream with one active subscriber; its buffer, too, has room for one frame of `room`
bytes. -/
def StreamCell.alone (stream : Uuid) (epoch sequence room : Nat) (conn : Uuid) : StreamCell :=
  .ofStream
    { DStream.new (conn, .list) stream with
      epoch
      nextSeq := sequence
      buffer := .new 1 room 0
      subscribers := (∅ : FiniteMap Uuid SubscriberState).insert conn ⟨false, 0, ""⟩
      upstreams := (∅ : FiniteMap String UpstreamBinding).insert "" ⟨conn, 0, 0, 0, true⟩ }
    ((∅ : Browsers).insert conn (.alone room conn))

theorem alone_upstream :
    (StreamCell.alone stream epoch sequence room conn).ds.upstreams.get? "" =
      some ⟨conn, 0, 0, 0, true⟩ :=
  FiniteMap.get?_insert_self _ _ _

theorem alone_subscriber :
    (StreamCell.alone stream epoch sequence room conn).ds.subscribers.get? conn =
      some ⟨false, 0, ""⟩ :=
  FiniteMap.get?_insert_self _ _ _

theorem alone_browser :
    (StreamCell.alone stream epoch sequence room conn).browsers.get? conn =
      some (.alone room conn) :=
  FiniteMap.get?_insert_self _ _ _

theorem alone_active :
    (StreamCell.alone stream epoch sequence room conn).ds.active conn = true := by
  simp [DStream.active, alone_subscriber]

theorem drain_empty (n : Nat) {o : Outbox} (empty : o.items = []) : o.drain n = o := by
  induction n with
  | zero => rfl
  | succ n ih =>
    have : o.recv = o := by simp [Outbox.recv, empty]
    rw [Outbox.drain, this, ih]

/-- The empty queue takes the frame. -/
theorem alone_pushFrame (ctx : Ctx) (conn : Uuid) {f : Frame} (fits : f.bytesLen ≤ room) :
    ∃ bc', (BrowserConn.alone room conn).pushFrame ctx conn f = (bc', none) ∧
      bc'.accepted = [.frame f] := by
  have empty : (BrowserConn.alone room conn).outbox.items = [] := rfl
  unfold BrowserConn.pushFrame
  simp only [drain_empty _ empty]
  simp [BrowserConn.alone, Outbox.pushFrame, Outbox.new, Nat.not_lt.mpr fits]

/-- So does the empty buffer. -/
theorem insert_alone {codec : Codec} {now : Nat} {f : Frame} (fits : f.bytesLen ≤ room) :
    ((StreamBuffer.new 1 room 0).insert codec now f).2 = .buffered := by
  have stored : (((StreamBuffer.new 1 room 0).expire now).store codec now f).fits = true := by
    have unreplaced : (StreamBuffer.new 1 room 0).removeReplaced f = .new 1 room 0 := by
      unfold StreamBuffer.removeReplaced
      split
      · simp [StreamBuffer.new]
      · rfl
    have unexpired : (StreamBuffer.new 1 room 0).expire now = .new 1 room 0 := rfl
    rw [unexpired]
    simp only [StreamBuffer.store, StreamBuffer.new, List.getLast?_nil]
    simp only [StreamBuffer.new] at unreplaced
    simp [unreplaced, StreamBuffer.fits, fits]
  unfold StreamBuffer.insert
  simp only [stored, if_true]

/-- A frame beyond the limit shows nobody anything. -/
theorem not_shown {f : Frame} (long : maxFrameBytes < ctx.codec.envelopeLen f.env)
    {bc bc' : BrowserConn} (history : bc'.accepted = bc.accepted ++ [.frame f])
    (streamId : String) (env : Envelope) : ¬ bc.Took (Shows ctx streamId env) bc' := by
  rintro ⟨items, taken, item, member, shown⟩
  obtain rfl : items = [.frame f] := List.append_cancel_left (taken.symm.trans history)
  obtain rfl := List.mem_singleton.mp member
  simp [Shows, OutItem.decoded, OutItem.closes, encodeDirect_of_lt long] at shown

/-- The snapshot reaches the only subscriber as it is. -/
theorem alone_snapshot (ctx : Ctx) (stream conn : Uuid) (epoch sequence : Nat) (env : Envelope) :
    ∃ f bc', f.env = snapshotEnvelope ("s-" ++ stream.text) epoch sequence env ∧
      ((StreamCell.alone stream epoch sequence (ctx.codec.envelopeLen f.env)
        conn).handleUpstreamSnapshot ctx "" env).browsers.get? conn = some bc' ∧
      bc'.accepted = [.frame f] := by
  let f := Frame.new ctx.codec ctx.now
    (snapshotEnvelope ("s-" ++ stream.text) epoch sequence env) .critical none
  let c := StreamCell.alone stream epoch sequence (ctx.codec.envelopeLen f.env) conn
  obtain ⟨bc', pushed, history⟩ := alone_pushFrame ctx conn (f := f)
    (Nat.le_refl (ctx.codec.envelopeLen f.env))
  refine ⟨f, bc', rfl, ?_, history⟩
  unfold StreamCell.handleUpstreamSnapshot
  simp only [alone_upstream]
  have push : StreamCell.snapshotPush ctx (c.ds.orderSnapshot ctx "" ⟨conn, 0, 0, 0, true⟩ env) f
      conn ⟨false, 0, ""⟩ (.alone (ctx.codec.envelopeLen f.env) conn) = (bc', true) := by
    simp [StreamCell.snapshotPush, pushed]
  have subscriber : (c.ds.orderSnapshot ctx "" ⟨conn, 0, 0, 0, true⟩ env).subscribers.get? conn =
      some ⟨false, 0, ""⟩ :=
    FiniteMap.get?_insert_self _ _ _
  have browser : c.browsers.get? conn = some (.alone (ctx.codec.envelopeLen f.env) conn) :=
    alone_browser
  obtain ⟨taken, -⟩ := serveSnapshot_cases ctx
    { c with ds := c.ds.orderSnapshot ctx "" ⟨conn, 0, 0, 0, true⟩ env } f browser subscriber
  rw [push] at taken
  exact taken rfl

/-- So does an event. -/
theorem alone_event (ctx : Ctx) (stream conn : Uuid) (epoch sequence : Nat) (env : Envelope)
    (event : Event) :
    ∃ f bc', f.env = eventEnvelope ctx.now ("s-" ++ stream.text) epoch sequence env event ∧
      ((StreamCell.alone stream epoch sequence (ctx.codec.envelopeLen f.env)
        conn).fanOutEvents ctx "" env [event]).browsers.get? conn = some bc' ∧
      bc'.accepted = [.frame f] := by
  let room := ctx.codec.envelopeLen
    (eventEnvelope ctx.now ("s-" ++ stream.text) epoch sequence env event)
  let c := StreamCell.alone stream epoch sequence room conn
  let f := c.ds.eventFrame ctx env event
  obtain ⟨bc', pushed, history⟩ := alone_pushFrame ctx conn (f := f) (Nat.le_refl room)
  refine ⟨f, bc', rfl, ?_, history⟩
  unfold StreamCell.fanOutEvents
  have fresh : ¬ (env.sequence ≠ 0 ∧ env.sequence ≤ 0) := by omega
  simp only [alone_upstream, if_neg fresh, List.isEmpty_cons, Bool.false_eq_true, if_false,
    Bool.not_true, Bool.false_and, List.foldl_cons, List.foldl_nil]
  generalize marked : ({ StreamCell.alone stream epoch sequence _ conn with
    ds := { (StreamCell.alone stream epoch sequence _ conn).ds with upstreams := _ } } :
      StreamCell) = d
  have frame : d.ds.eventFrame ctx env event = f := by rw [← marked]; rfl
  have browser : d.browsers.get? conn = some (.alone room conn) := by
    rw [← marked]
    exact (alone_browser : c.browsers.get? conn = some (.alone room conn))
  have buffer : d.ds.buffer = .new 1 room 0 := by rw [← marked]; rfl
  have active : d.ds.active conn = true := by
    rw [← marked]
    exact (alone_active : c.ds.active conn = true)
  have buffered : (d.ds.number ctx f).2 = .buffered := by
    rw [DStream.number, buffer]
    exact insert_alone (Nat.le_refl room)
  have delivers : (d.ds.number ctx f).1.active conn = true := active
  unfold StreamCell.emitEvent
  simp only [frame, buffered]
  rw [detachFailed_other]
  · simp [DStream.deliver, browser, delivers, pushed]
  · simp [DStream.deliver, FiniteMap.mem_toList, browser, pushed]

end Alone

/-! ## The messages that are never lost silently -/

section Kept

variable {ctx : Ctx}

/-- A hub with one browser that waits for the answer to `requestId`. -/
def HubInner.waiting (device : Uuid) (requestId : String) : HubInner :=
  (HubInner.withBrowser device).registerCommand requestId device device ""

theorem waiting_command (device : Uuid) (requestId : String) :
    (HubInner.waiting device requestId).commands.get? requestId = some ⟨device, device, ""⟩ :=
  FiniteMap.get?_insert_self _ _ _

theorem accepted_kept_iff (device : Uuid) (answer : CommandAccepted) :
    (PassedOn.accepted device answer).Kept ctx ↔
      ctx.codec.envelopeLen (baseEnvelope ctx.now device.text (.commandAccepted answer)) ≤
        maxFrameBytes := by
  constructor
  · intro kept
    by_contra long
    have took := kept _ _ (waiting_command device answer.requestId)
    rw [HubInner.onCommandAccepted, waiting_command] at took
    exact not_reply_took (Nat.lt_of_not_le long) rfl took
  · intro fits h p tracked
    rw [HubInner.onCommandAccepted, tracked]
    exact reply_took fits h p.connId

theorem result_kept_iff (device : Uuid) (answer : CommandResult) :
    (PassedOn.result device answer).Kept ctx ↔
      ctx.codec.envelopeLen (baseEnvelope ctx.now device.text (.commandResult answer)) ≤
        maxFrameBytes := by
  -- a terminal result ends the tracking, which leaves the queues alone
  have queues (h : HubInner) (p : PendingCommand)
      (tracked : h.commands.get? answer.requestId = some p) :
      (h.onCommandResult ctx device answer).browsers = (h.reply ctx p.connId
        (baseEnvelope ctx.now device.text (.commandResult answer))).browsers := by
    simp only [HubInner.onCommandResult, tracked]
    split <;> rfl
  constructor
  · intro kept
    by_contra long
    have tracked := waiting_command device answer.requestId
    have took := kept _ _ tracked
    rw [queues _ _ tracked] at took
    exact not_reply_took (Nat.lt_of_not_le long) rfl took
  · intro fits h p tracked
    rw [queues h p tracked]
    exact reply_took fits h p.connId

theorem snapshot_kept_iff (stream : Uuid) (epoch sequence : Nat) (env : Envelope) :
    (PassedOn.snapshot stream epoch sequence env).Kept ctx ↔
      ctx.codec.envelopeLen (snapshotEnvelope ("s-" ++ stream.text) epoch sequence env) ≤
        maxFrameBytes := by
  constructor
  · intro kept
    by_contra long
    obtain ⟨f, bc', same, after, history⟩ := alone_snapshot ctx stream stream epoch sequence env
    obtain ⟨bc'', there, taken⟩ := kept _ "" rfl rfl rfl
      (FiniteMap.contains_iff.mpr ⟨_, alone_upstream⟩) stream
      (FiniteMap.contains_iff.mpr ⟨_, alone_subscriber⟩) _ alone_browser rfl
    obtain rfl := Option.some.inj (after.symm.trans there)
    rw [← same] at long
    exact not_shown (Nat.lt_of_not_le long) history _ _ taken
  · rintro fits c upstreamId streamId rfl rfl bound conn subscribed
    rw [← streamId] at fits
    exact handleUpstreamSnapshot_took bound fits subscribed

theorem event_kept_iff (stream : Uuid) (epoch sequence : Nat) (env : Envelope) (event : Event) :
    (PassedOn.event stream epoch sequence env event).Kept ctx ↔
      ctx.codec.envelopeLen (eventEnvelope ctx.now ("s-" ++ stream.text) epoch sequence env event) ≤
        maxFrameBytes := by
  constructor
  · intro kept
    by_contra long
    obtain ⟨f, bc', same, after, history⟩ := alone_event ctx stream stream epoch sequence env event
    obtain ⟨bc'', there, taken⟩ := kept _ "" _ [] [] rfl rfl rfl alone_upstream
      (by rintro ⟨some_, low⟩; exact some_ (Nat.le_zero.mp low)) (.inl rfl) stream alone_active _
      alone_browser rfl
    obtain rfl := Option.some.inj (after.symm.trans there)
    rw [← same] at long
    exact not_shown (Nat.lt_of_not_le long) history _ _ taken
  · rintro fits c upstreamId binding before after streamId rfl rfl found fresh unstashed conn active
    rw [← streamId] at fits
    exact fanOutEvents_took streamId found fresh unstashed fits active

end Kept

/-- **Re-addressed messages**: a message is passed on under its new address, or its loss is told,
in every state of the hub and its queues, exactly when the envelopes the Relay makes of it are
within the frame limit. -/
theorem readdressed_kept_iff (ctx : Ctx) (message : PassedOn) :
    message.Kept ctx ↔
      ∀ env ∈ message.envelopes ctx.now, ctx.codec.envelopeLen env ≤ maxFrameBytes := by
  cases message with
  | bridge device env =>
    simp only [PassedOn.envelopes, List.mem_singleton, forall_eq]
    constructor
    · intro kept
      by_contra long
      have empty := HubInner.sendToBridge_empty device (Nat.lt_of_not_le long)
      exact HubInner.not_lastSent_empty empty.2 (kept _ empty.1)
    · exact fun fits h sent => HubInner.sendToBridge_kept fits h sent
  | command device request =>
    simp only [PassedOn.envelopes, List.mem_cons, List.not_mem_nil, or_false, forall_eq_or_imp,
      forall_eq]
    constructor
    · intro kept
      exact ⟨fits_of_forwarded kept, fits_of_told kept⟩
    · rintro ⟨fits, refusal⟩
      exact command_kept fits refusal
  | accepted device answer => simpa [PassedOn.envelopes] using accepted_kept_iff device answer
  | result device answer => simpa [PassedOn.envelopes] using result_kept_iff device answer
  | snapshot stream epoch sequence env =>
    simpa [PassedOn.envelopes] using snapshot_kept_iff stream epoch sequence env
  | event stream epoch sequence env event =>
    simpa [PassedOn.envelopes] using event_kept_iff stream epoch sequence env event

/-! ## A command that grows -/

/-- The bytes of a Protobuf varint. -/
def varintLen (n : Nat) : Nat := Nat.log 128 n + 1

/-- A length-delimited field with a tag of one byte. -/
def fieldLen (n : Nat) : Nat := 1 + varintLen n + n

/-- A string field, left out when it is empty. -/
def stringLen (text : String) : Nat :=
  if text.utf8ByteSize = 0 then 0 else fieldLen text.utf8ByteSize

/-- A numeric field, left out when it is zero. -/
def numberLen (n : Nat) : Nat := if n = 0 then 0 else 1 + varintLen n

def sessionKeyLen (key : SessionKey) : Nat :=
  stringLen key.deviceId + 2 + stringLen key.nativeSessionId + stringLen key.relaySessionUuid

/-- `CommandRequest::encoded_len`; the fields nobody reads count as they are. -/
def commandRequestLen (request : CommandRequest) : Nat :=
  stringLen request.requestId + 2 + ((request.sessionKey.map sessionKeyLen).map fieldLen).getD 0 +
    stringLen request.payloadDigest + request.rest.utf8ByteSize

/-- `Envelope::encoded_len` for commands; other payloads count as empty messages.  The protocol
version and the kind of agent take two bytes each, the message id 38, the time 14. -/
def measuredLen (env : Envelope) : Nat :=
  2 + 38 + stringLen env.correlationId + (if env.sentAt.isSome then 14 else 0) +
    stringLen env.deviceId + 2 + stringLen env.streamId + numberLen env.streamEpoch +
    numberLen env.sequence +
    match env.payload with
    | some (.commandRequest request) => 1 + fieldLen (commandRequestLen request)
    | some _ => 3
    | none => 0

/-- An encoder for concrete commands. -/
def Codec.measured : Codec where
  envelopeLen := measuredLen
  eventLen := fun _ => 2
  envelopeLen_pos env := by simp [measuredLen]
  resyncRequired_fits now id := by
    simp [measuredLen, resyncRequiredEnv, baseEnvelope, stringLen, numberLen, maxFrameBytes]

/-- A text of `n` bytes. -/
def textOfSize : Nat → String
  | 0 => ""
  | n + 1 => (textOfSize n).push 'x'

theorem utf8ByteSize_textOfSize (n : Nat) : (textOfSize n).utf8ByteSize = n := by
  induction n with
  | zero => rfl
  | succ n ih =>
    have one : 'x'.utf8Size = 1 := by decide
    rw [textOfSize, String.utf8ByteSize_push, ih, one]

/-- A command with a text of `n` bytes. -/
def commandOfSize (n : Nat) : CommandRequest where
  requestId := "11111111-1111-4111-8111-111111111111"
  operation := "OPERATION_START_TURN"
  sessionKey := none
  payloadDigest := ""
  rest := textOfSize n

/-- The frame of such a command between 16 KiB and 2 MiB, on its way to the Relay and from it. -/
theorem measured_commandOfSize {n : Nat} (low : 2 ^ 14 ≤ n) (high : n < 2 ^ 20 + 2 ^ 19) :
    measuredLen (baseEnvelope 0 "" (.commandRequest (commandOfSize n))) = n + 101 ∧
      measuredLen (forwardEnvelope 0 (.ofLast 'd') (commandOfSize n)) = n + 177 := by
  have id : stringLen "11111111-1111-4111-8111-111111111111" = 38 := by decide +kernel
  have device : stringLen (Uuid.ofLast 'd').text = 38 := by decide +kernel
  have empty : stringLen "" = 0 := by decide +kernel
  have body : commandRequestLen (commandOfSize n) = n + 40 := by
    simp only [commandRequestLen, commandOfSize, id, empty, utf8ByteSize_textOfSize]
    simp
    omega
  have digits : varintLen (n + 40) = 3 := by
    have log : Nat.log 128 (n + 40) = 2 := Nat.log_eq_of_pow_le_of_lt_pow (by omega) (by omega)
    rw [varintLen, log]
  have named : stringLen (commandOfSize n).requestId = 38 := id
  constructor
  · simp only [measuredLen, baseEnvelope, body, fieldLen, digits, empty, numberLen]
    simp
    omega
  · simp only [measuredLen, forwardEnvelope, baseEnvelope, body, fieldLen, digits, empty, named,
      device, numberLen]
    simp
    omega

/-- The device id and the correlation id that the Relay adds are too much for the longest
commands a browser can send. -/
theorem commandOfSize_emptied {n : Nat} (received : n + 101 ≤ maxFrameBytes)
    (long : maxFrameBytes < n + 177) :
    Codec.measured.envelopeLen (baseEnvelope 0 "" (.commandRequest (commandOfSize n))) ≤
        maxFrameBytes ∧
      ¬ (PassedOn.command (.ofLast 'd') (commandOfSize n)).Kept
        { Ctx.idle 0 with codec := .measured } := by
  have limit : maxFrameBytes = 1048576 := by decide
  obtain ⟨there, forwarded⟩ := measured_commandOfSize (n := n) (by omega) (by omega)
  constructor
  · exact Nat.le_trans (Nat.le_of_eq there) received
  · intro kept
    have fits := fits_of_forwarded kept
    have := Nat.le_trans (Nat.le_of_eq forwarded.symm) fits
    omega

/-- A frame that the browser filled is forwarded as an empty one. -/
theorem long_command_emptied :
    Codec.measured.envelopeLen (baseEnvelope 0 "" (.commandRequest (commandOfSize 1048475))) ≤
        maxFrameBytes ∧
      ¬ (PassedOn.command (.ofLast 'd') (commandOfSize 1048475)).Kept
        { Ctx.idle 0 with codec := .measured } :=
  commandOfSize_emptied (by decide) (by decide)

end AgentConsole.Relay
