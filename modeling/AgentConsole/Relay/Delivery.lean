import AgentConsole.Relay.Hub

/-! # What reaches a connection

The history `accepted` of a connection's queue lists what the hub handed to the
writer.  This module says what each kind of push adds to it. -/

namespace AgentConsole.Relay

open AgentConsole.Lib

/-- The frame of a queue item. -/
def OutItem.frame? : OutItem → Option Frame
  | .frame f => some f
  | _ => none

namespace BrowserConn

/-- What the queue has accepted so far. -/
abbrev accepted (bc : BrowserConn) : List OutItem := bc.outbox.accepted

abbrev closed (bc : BrowserConn) : Bool := bc.outbox.closed

variable (ctx : Ctx) (conn : Uuid)

/-- A frame is queued on an open connection, or refused without a trace. -/
theorem pushFrame_spec (bc : BrowserConn) (f : Frame) :
    (∃ bc', bc.pushFrame ctx conn f = (bc', none) ∧ bc.closed = false ∧ bc'.closed = false ∧
      bc'.accepted = bc.accepted ++ [.frame f]) ∨
    (∃ bc', bc.pushFrame ctx conn f = (bc', some .closed) ∧ bc.closed = true ∧
      bc'.closed = true ∧ bc'.accepted = bc.accepted) ∨
    (∃ bc', bc.pushFrame ctx conn f = (bc', some .slowConsumer) ∧ bc.closed = false ∧
      bc'.closed = false ∧ bc'.accepted = bc.accepted) := by
  unfold pushFrame
  dsimp only
  rcases Outbox.pushFrame_cases (bc.outbox.drain (ctx.drain conn bc.attempts)) f with
    ⟨o', pushed, wasOpen, isOpen, history⟩ | ⟨refused, isClosed⟩ | ⟨refused, isOpen⟩
  · rw [pushed]
    exact .inl ⟨_, rfl, by simpa using wasOpen, isOpen, by simpa using history⟩
  · rw [refused]
    exact .inr (.inl ⟨_, rfl, by simpa using isClosed, isClosed,
      Outbox.drain_accepted _ _⟩)
  · rw [refused]
    exact .inr (.inr ⟨_, rfl, by simpa using isOpen, isOpen,
      Outbox.drain_accepted _ _⟩)

/-- A direct message is queued; or it is dropped, which leaves no trace on a
closed connection or for a message that cannot be encoded and otherwise closes
the connection. -/
theorem pushDirect_spec (bc : BrowserConn) (env : Envelope) :
    (∃ bc' len, bc.pushDirect ctx conn env = (bc', true) ∧ bc.closed = false ∧
      bc'.closed = false ∧ bc'.accepted = bc.accepted ++ [.direct ⟨env, len⟩]) ∨
    (∃ bc', bc.pushDirect ctx conn env = (bc', false) ∧ bc'.accepted = bc.accepted ∧
      bc'.closed = bc.closed ∧
      (bc.closed = true ∨ maxFrameBytes < ctx.codec.envelopeLen env)) ∨
    (∃ bc' reason, bc.pushDirect ctx conn env = (bc', false) ∧ bc.closed = false ∧
      bc'.closed = true ∧ bc'.accepted = bc.accepted ++ [.close reason]) := by
  unfold pushDirect
  dsimp only
  rcases Outbox.pushDirect_cases (bc.outbox.drain (ctx.drain conn bc.attempts))
      (encodeDirect ctx.codec env) with
    ⟨wire, encoded, wasOpen, sent, isOpen, history⟩ | ⟨refused, why⟩ | ⟨overload, wasOpen⟩
  · have same : wire.env = env := by
      unfold encodeDirect at encoded
      split at encoded
      · cases encoded; rfl
      · cases encoded
    rw [sent]
    refine .inl ⟨_, wire.len, rfl, by simpa using wasOpen, isOpen, ?_⟩
    simpa [← same] using history
  · rw [refused]
    refine .inr (.inl ⟨_, rfl, Outbox.drain_accepted _ _, Outbox.drain_closed _ _, ?_⟩)
    rcases why with isClosed | unencodable
    · exact .inl (by simpa using isClosed)
    · right
      unfold encodeDirect at unencodable
      split at unencodable
      · cases unencodable
      · next long => exact Nat.lt_of_not_le long
  · rw [overload]
    refine .inr (.inr ⟨_, "OUTBOX_OVERLOAD", rfl, by simpa using wasOpen, ?_, ?_⟩)
    · exact Outbox.close_closed _ _
    · simpa using Outbox.close_accepted_open wasOpen "OUTBOX_OVERLOAD"

/-- Frames are queued up to the first refusal. -/
theorem pushFrames_spec (frames : List Frame) (bc : BrowserConn) :
    ∃ sent rest, frames = sent ++ rest ∧
      (bc.pushFrames ctx conn frames).1.accepted = bc.accepted ++ sent.map .frame ∧
      (bc.pushFrames ctx conn frames).1.closed = bc.closed ∧
      ((bc.pushFrames ctx conn frames).2 = true ↔ rest = []) := by
  induction frames generalizing bc with
  | nil => exact ⟨[], [], rfl, by simp [pushFrames], rfl, by simp [pushFrames]⟩
  | cons f frames inductionHypothesis =>
    unfold pushFrames
    rcases pushFrame_spec ctx conn bc f with
      ⟨bc', pushed, wasOpen, isOpen, history⟩ | ⟨bc', pushed, wasClosed, isClosed, history⟩ |
      ⟨bc', pushed, wasOpen, isOpen, history⟩
    · rw [pushed]
      obtain ⟨sent, rest, split, later, state, complete⟩ := inductionHypothesis bc'
      refine ⟨f :: sent, rest, by rw [split]; rfl, ?_, ?_, complete⟩
      · dsimp only
        rw [later, history, List.append_assoc]
        rfl
      · dsimp only
        rw [state, isOpen, wasOpen]
    · rw [pushed]
      exact ⟨[], f :: frames, rfl, by simp [history], by rw [isClosed, wasClosed], by simp⟩
    · rw [pushed]
      exact ⟨[], f :: frames, rfl, by simp [history], by rw [isOpen, wasOpen], by simp⟩

/-- A replay that succeeds adds the `Subscribed` and then the whole window. -/
theorem pushReplay_served {subscribed : Envelope} {frames : List Frame} {bc bc' : BrowserConn}
    (served : bc.pushReplay ctx conn subscribed frames = (bc', true)) :
    ∃ len, bc'.accepted = bc.accepted ++ .direct ⟨subscribed, len⟩ :: frames.map .frame ∧
      bc'.closed = false := by
  unfold pushReplay at served
  rcases pushDirect_spec ctx conn bc subscribed with
    ⟨mid, len, pushed, -, isOpen, history⟩ | ⟨mid, pushed, -⟩ | ⟨mid, reason, pushed, -⟩
  · rw [pushed] at served
    obtain ⟨sent, rest, split, later, state, complete⟩ := pushFrames_spec ctx conn frames mid
    dsimp only at served
    rw [served] at later state complete
    have all : rest = [] := complete.mp rfl
    refine ⟨len, ?_, state.trans isOpen⟩
    rw [later, history, split, all, List.append_nil, List.append_assoc]
    rfl
  · rw [pushed] at served; cases served
  · rw [pushed] at served; cases served

end BrowserConn

namespace StreamCell

variable {ctx : Ctx} {conn : Uuid} {correlation : String} {c : StreamCell}

/-- A connection whose queue refused something is no subscriber any more. -/
theorem detachFailed_inactive {conns : List Uuid} (member : conn ∈ conns) :
    (c.detachFailed ctx conns).ds.active conn = false := by
  unfold detachFailed DStream.active
  dsimp only
  rw [FiniteMap.get?_filter]
  cases c.ds.subscribers.get? conn with
  | none => rfl
  | some sub => simp [Option.filter, member]

/-- Detaching connections makes nobody active. -/
theorem detachFailed_active {conns : List Uuid}
    (active : (c.detachFailed ctx conns).ds.active conn = true) :
    conn ∉ conns ∧ c.ds.active conn = true := by
  have ahead : conn ∉ conns := fun member => by
    rw [detachFailed_inactive member] at active
    cases active
  refine ⟨ahead, ?_⟩
  unfold detachFailed DStream.active at active
  dsimp only at active
  rw [FiniteMap.get?_filter] at active
  unfold DStream.active
  cases sub : c.ds.subscribers.get? conn with
  | none => rw [sub] at active; cases active
  | some s => simpa [sub, Option.filter, ahead] using active

theorem serveReplay_log : (c.serveReplay ctx conn correlation).ds.log = c.ds.log := by
  unfold serveReplay
  split
  · rfl
  · dsimp only
    split <;> rfl

/-- A subscriber that is active after a replay has been sent `Subscribed` and
the whole window. -/
theorem serveReplay_active {bc : BrowserConn} (found : c.browsers.get? conn = some bc)
    (active : (c.serveReplay ctx conn correlation).ds.active conn = true) :
    ∃ bc' len, (c.serveReplay ctx conn correlation).browsers.get? conn = some bc' ∧
      bc'.accepted = bc.accepted ++ .direct ⟨subscribedEnv ctx.now c.ds.streamId c.ds.epoch
        c.ds.replayWindow.1 correlation, len⟩ :: c.ds.replayWindow.2.map .frame ∧
      bc'.closed = false := by
  unfold serveReplay at active ⊢
  rw [found] at active ⊢
  dsimp only at active ⊢
  split at active
  · next served =>
    rw [if_pos served]
    obtain ⟨len, history, isOpen⟩ := BrowserConn.pushReplay_served ctx conn (Prod.ext rfl served)
    exact ⟨_, len, FiniteMap.get?_insert_self _ _ _, history, isOpen⟩
  · rw [detachFailed_inactive List.mem_cons_self] at active
    cases active

/-- A subscriber that is active after it was attached has been served. -/
theorem attachSubscriber_active {bc : BrowserConn} (found : c.browsers.get? conn = some bc)
    (active : (c.attachSubscriber ctx conn correlation).ds.active conn = true) :
    c.ds.snapshots ≠ [] ∧ ∃ bc' len,
      (c.attachSubscriber ctx conn correlation).browsers.get? conn = some bc' ∧
      bc'.accepted = bc.accepted ++ .direct ⟨subscribedEnv ctx.now c.ds.streamId c.ds.epoch
        c.ds.replayWindow.1 correlation, len⟩ :: c.ds.replayWindow.2.map .frame ∧
      bc'.closed = false := by
  have connected : c.browsers.contains conn = true := by simp [FiniteMap.contains, found]
  unfold attachSubscriber at active ⊢
  rw [if_pos connected] at active ⊢
  dsimp only at active ⊢
  split at active
  · next hasSnapshot =>
    rw [if_pos hasSnapshot]
    exact ⟨by simpa using hasSnapshot, serveReplay_active found active⟩
  · next noSnapshot =>
    have empty : c.ds.snapshots.isEmpty = true := by simpa using noSnapshot
    simp [DStream.active, empty] at active

theorem attachSubscriber_log :
    (c.attachSubscriber ctx conn correlation).ds.log = c.ds.log := by
  unfold attachSubscriber
  split
  · dsimp only
    split
    · exact serveReplay_log
    · rfl
  · rfl

/-- The same for a resync: only a list stream answers one at once. -/
theorem browserResync_active {bc : BrowserConn} (found : c.browsers.get? conn = some bc)
    (active : (c.browserResync ctx conn correlation).ds.active conn = true) :
    c.ds.snapshots ≠ [] ∧ ∃ bc' len,
      (c.browserResync ctx conn correlation).browsers.get? conn = some bc' ∧
      bc'.accepted = bc.accepted ++ .direct ⟨subscribedEnv ctx.now c.ds.streamId c.ds.epoch
        c.ds.replayWindow.1 correlation, len⟩ :: c.ds.replayWindow.2.map .frame ∧
      bc'.closed = false := by
  unfold browserResync at active ⊢
  split at active
  · next subscribed =>
    rw [if_pos subscribed]
    split at active
    · -- a refresh makes every subscriber wait
      dsimp only [DStream.refreshSnapshotEnvs, DStream.active, DStream.awaitAll] at active
      rw [FiniteMap.get?_mapVal] at active
      cases sub : c.ds.clearCache.subscribers.get? conn with
      | none => rw [sub] at active; cases active
      | some s => rw [sub] at active; cases active
    · next serves =>
      rw [if_neg serves]
      have hasSnapshot : c.ds.snapshots ≠ [] := by
        intro empty
        exact serves (.inr (by simp [empty]))
      exact ⟨hasSnapshot, serveReplay_active found active⟩
  · next absent =>
    have none_ : c.ds.subscribers.get? conn = none := by
      simpa [FiniteMap.contains] using absent
    simp [DStream.active, none_] at active

theorem browserResync_log : (c.browserResync ctx conn correlation).ds.log = c.ds.log := by
  unfold browserResync
  split
  · split
    · rfl
    · exact serveReplay_log
  · rfl

end StreamCell

namespace HubInner

variable {ctx : Ctx}

@[simp] theorem sendToBridge_browsers (device : Uuid) (env : Envelope) (h : HubInner) :
    (h.sendToBridge ctx device env).1.browsers = h.browsers := by
  unfold sendToBridge; split <;> rfl

@[simp] theorem sendAll_browsers (envs : List (Uuid × Envelope)) (h : HubInner) :
    (h.sendAll ctx envs).browsers = h.browsers := by
  unfold sendAll
  induction envs generalizing h with
  | nil => rfl
  | cons e rest inductionHypothesis => simp [inductionHypothesis]

@[simp] theorem sendToBridge_commands (device : Uuid) (env : Envelope) (h : HubInner) :
    (h.sendToBridge ctx device env).1.commands = h.commands := by
  unfold sendToBridge; split <;> rfl

@[simp] theorem sendAll_commands (envs : List (Uuid × Envelope)) (h : HubInner) :
    (h.sendAll ctx envs).commands = h.commands := by
  unfold sendAll
  induction envs generalizing h with
  | nil => rfl
  | cons e rest inductionHypothesis => simp [inductionHypothesis]

@[simp] theorem ensureStream_browsers (key : DKey) (fresh : Uuid) (h : HubInner) :
    (h.ensureStream key fresh).browsers = h.browsers := by
  unfold ensureStream; split <;> rfl

theorem updateStream_browsers {key : DKey} {op : StreamCell → StreamCell} {h : HubInner}
    {ds : DStream} (found : h.streams.get? key = some ds) :
    (h.updateStream key op).1.browsers = (op (.ofStream ds h.browsers)).browsers := by
  unfold updateStream
  rw [found]

theorem onStream_browsers {key : DKey} {op : StreamCell → StreamCell} {h : HubInner}
    {ds : DStream} (found : h.streams.get? key = some ds) :
    (h.onStream ctx key op).browsers = (op (.ofStream ds h.browsers)).browsers := by
  unfold onStream
  rw [sendAll_browsers, updateStream_browsers found]

end HubInner

end AgentConsole.Relay
