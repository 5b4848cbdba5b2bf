import AgentConsole.Lib.Run
import AgentConsole.Bridge.Domain

/-! # The next-turn queue of a session

A session has at most one queued next turn, a row of the Bridge's local store.
`set`, `replace`, `cancel`, `pause` and `resume` run as tasks of their own, and a
watcher task per subscription consumes the session's lifecycle events one after
the other.  Every task waits for the store or for the adapter between its steps,
so a `Job` records the call a task is waiting for together with what it has read,
and one step of the system is one answer to one task.

The store row, the watcher registration and the `auto_send_inflight` flag are all
keyed by the session, so one session's queue is a system of its own
(`SessionQueue`), and the manager is the product of them.

`Row.id`, `entries`, `handed` and `removed` are ghosts: the store knows an entry
only by its session. -/

namespace AgentConsole.Bridge

open AgentConsole.Lib

/-- `local_store::QueueStatus` -/
inductive QueueStatus where
  | queued | paused | empty
  deriving DecidableEq, Repr

structure NextTurnEntry where
  prompt : String
  afterTurnId : String
  runtimeRevision : Nat
  status : QueueStatus
  deriving DecidableEq, Repr

/-- An entry in the store, with the number it was accepted under. -/
structure Row where
  id : Nat
  entry : NextTurnEntry
  deriving DecidableEq, Repr

/-- The binding of an entry accepted while no turn is running. -/
def idleAfterTurn : String := "idle"

def entryFromSnapshot (snapshot : RuntimeSnapshot) (prompt : String) : NextTurnEntry where
  prompt := prompt
  afterTurnId := (snapshot.currentTurn.map (·.id)).getD idleAfterTurn
  runtimeRevision := snapshot.runtimeRevision
  status := .queued

/-- The entry as `pause` and `mark_paused` write it back. -/
def Row.paused (row : Row) : Row := { row with entry.status := .paused }

/-- The entry as `resume` writes it back: bound to the snapshot it has seen. -/
def Row.rebound (row : Row) (snapshot : RuntimeSnapshot) : Row :=
  let rebound := entryFromSnapshot snapshot row.entry.prompt
  { row with
    entry.afterTurnId := rebound.afterTurnId
    entry.runtimeRevision := rebound.runtimeRevision
    entry.status := .queued }

/-! ## Tasks -/

/-- The call a task is waiting for.

`sent` in `markRead` and `markWrite` is the row whose failed send the task is
settling; it is `none` when `mark_paused` answers a lifecycle event or an
unavailable snapshot. -/
inductive Job where
  | setRead (prompt : String) (replace : Bool) (request : Nat) (snapshot : RuntimeSnapshot)
  | setWrite (entry : NextTurnEntry) (replace : Bool) (request : Nat)
  | setRemember (request : Nat)
  | replaceSnapshot (prompt : String) (request : Nat)
  | cancelClear
  | pauseRead
  | pauseWrite (read : Row)
  | resumeRead
  | resumeSnapshot (read : Row)
  | resumeWrite (read : Row) (snapshot : RuntimeSnapshot)
  /-- `ensure_watcher` in `set` (`sends = false`) or in `resume`, which goes on to
  `maybe_auto_send` -/
  | watchCheck (sends : Bool)
  | watchSubscribe (sends : Bool)
  | autoRead
  | autoSnapshot (read : Row)
  | autoHand (read : Row)
  | sending (sent : Row)
  | sentClear (sent : Row)
  | markRead (sent : Option Row)
  | markWrite (read : Row) (sent : Option Row)
  /-- a turn is running: is it the one the entry is bound to? -/
  | runningRead (turn : TurnId)
  deriving DecidableEq, Repr

/-- A call of the manager (`channel = none`), or a watcher with the events it has
not received yet. -/
structure Task where
  channel : Option (List TurnLifecycle) := none
  job : Option Job
  deriving DecidableEq, Repr

/-- The queue of one session: its row in the store, the manager's bookkeeping, the
adapter's projection and the running tasks. -/
structure SessionQueue where
  row : Option Row := none
  /-- the `queue-request` cursor -/
  request : Option Nat := none
  watched : Bool := false
  autoSendInflight : Bool := false
  projection : Option Projection := none
  tasks : FiniteMap Nat Task := ∅
  /-- the number of the next task -/
  spawned : Nat := 0
  /-- the number of the next entry -/
  entries : Nat := 0
  /-- the entries handed to the executor -/
  handed : List Nat := []
  /-- the entries that have left the store -/
  removed : List Nat := []

/-- What a task is answered. -/
inductive Answer where
  /-- the store call succeeds -/
  | stored
  /-- the store call fails, `retry_busy` included -/
  | storeFailed
  /-- the adapter answers with the projection as it is now -/
  | snapshot
  | unavailable (code : StableErrorCode)
  /-- the executor takes the command; the receipts it sends -/
  | receipts (states : List ReceiptState)
  | refused (code : StableErrorCode)
  | subscribed
  | unsubscribed
  /-- no call: the task just goes on -/
  | continued
  deriving DecidableEq, Repr

/-- The operations of the manager. -/
inductive Call where
  | set (prompt : String) (replace : Bool) (request : Nat) (snapshot : RuntimeSnapshot)
  | replace (prompt : String) (request : Nat)
  | cancel
  | pause
  | resume
  deriving DecidableEq, Repr

inductive Input where
  | call (call : Call)
  | answer (task : Nat) (answer : Answer)
  /-- a watcher receives the next event of its channel -/
  | receive (task : Nat)
  /-- the mapper applies a conversation state -/
  | observe (conversation : Conversation)
  deriving DecidableEq, Repr

/-! ## Steps -/

def Call.job : Call → Job
  | .set prompt replaces request snapshot => .setRead prompt replaces request snapshot
  | .replace prompt request => .replaceSnapshot prompt request
  | .cancel => .cancelClear
  | .pause => .pauseRead
  | .resume => .resumeRead

/-- What a step does to the session's row. -/
inductive Effect where
  | keep
  /-- `set_next_turn` by `set` -/
  | accept (entry : NextTurnEntry)
  /-- `set_next_turn` with `replace = true` by an operation that has read a row -/
  | writeBack (row : Row)
  /-- `clear_next_turn` -/
  | clear
  deriving DecidableEq, Repr

/-- Everything one answer makes a task do. -/
structure Move where
  effect : Effect := .keep
  /-- the call the task waits for next; `none` when its function returns -/
  next : Option Job := none
  handed : Option Nat := none
  inflight : Option Bool := none
  watched : Option Bool := none
  /-- a watcher task is spawned -/
  spawns : Bool := false
  request : Option Nat := none
  deriving DecidableEq, Repr

namespace SessionQueue

/-- `runtime_snapshot` -/
def runtimeSnapshot (s : SessionQueue) : Option RuntimeSnapshot :=
  s.projection.map Projection.runtimeSnapshot

end SessionQueue

/-- The receipt loop of `maybe_auto_send`: was the turn started? -/
def sentBy : List ReceiptState → Bool
  | [] => false
  | .dispatchedToCodex :: rest => sentBy rest
  | .completed :: _ => true
  | .rejected _ _ :: _ | .outcomeUnknown :: _ => false

/-- `mark_paused` returns.  After a failed send this ends `maybe_auto_send`, which
takes the session out of `auto_send_inflight`. -/
def Move.settled (effect : Effect) (sent : Option Row) : Move :=
  { effect, inflight := if sent.isSome then some false else none }

/-- After `ensure_watcher`, `set` returns and `resume` tries to send. -/
def Job.watching (sends : Bool) : Option Job := if sends then some .autoRead else none

/-- The step of a task on its answer; `none` when the call cannot be answered so. -/
def Job.move (s : SessionQueue) : Job → Answer → Option Move
  -- `replace`, `set`
  | .replaceSnapshot prompt request, answer =>
    match answer with
    | .snapshot =>
      match s.runtimeSnapshot with
      | none => none
      | some snapshot => some { next := some (.setRead prompt true request snapshot) }
    | .unavailable _ => some {}
    | _ => none
  | .setRead prompt replace request snapshot, answer =>
    match answer with
    | .stored =>
      if s.row.isSome ∧ replace = false then some {}
      else some { next := some (.setWrite (entryFromSnapshot snapshot prompt) replace request) }
    | .storeFailed => some {}
    | _ => none
  | .setWrite entry replace request, answer =>
    match answer with
    | .stored =>
      -- the transaction of `set_next_turn` looks again
      if s.row.isSome ∧ replace = false then some {}
      else some { effect := .accept entry, next := some (.setRemember request) }
    | .storeFailed => some {}
    | _ => none
  | .setRemember request, answer =>
    match answer with
    | .stored => some { next := some (.watchCheck false), request := some request }
    | .storeFailed => some { next := some (.watchCheck false) }
    | _ => none
  -- `cancel`, `pause`
  | .cancelClear, answer =>
    match answer with
    | .stored => some { effect := .clear }
    | .storeFailed => some {}
    | _ => none
  | .pauseRead, answer =>
    match answer with
    | .stored =>
      match s.row with
      | none => some {}
      | some row =>
        if row.entry.status = .paused then some {} else some { next := some (.pauseWrite row) }
    | .storeFailed => some {}
    | _ => none
  | .pauseWrite read, answer =>
    match answer with
    | .stored => some { effect := .writeBack read.paused }
    | .storeFailed => some {}
    | _ => none
  -- `resume`
  | .resumeRead, answer =>
    match answer with
    | .stored =>
      match s.row with
      | none => some {}
      | some row => some { next := some (.resumeSnapshot row) }
    | .storeFailed => some {}
    | _ => none
  | .resumeSnapshot read, answer =>
    match answer with
    | .snapshot =>
      match s.runtimeSnapshot with
      | none => none
      | some snapshot => some { next := some (.resumeWrite read snapshot) }
    | .unavailable _ => some {}
    | _ => none
  | .resumeWrite read snapshot, answer =>
    match answer with
    | .stored =>
      some { effect := .writeBack (read.rebound snapshot), next := some (.watchCheck true) }
    | .storeFailed => some {}
    | _ => none
  -- `ensure_watcher`: the look at `watchers` and the insertion take the lock separately
  | .watchCheck sends, answer =>
    match answer with
    | .continued =>
      if s.watched then some { next := Job.watching sends }
      else some { next := some (.watchSubscribe sends) }
    | _ => none
  | .watchSubscribe sends, answer =>
    match answer with
    | .subscribed => some { next := Job.watching sends, watched := some true, spawns := true }
    | .unsubscribed => some { next := Job.watching sends, watched := some false }
    | _ => none
  -- `maybe_auto_send`
  | .autoRead, answer =>
    match answer with
    | .stored =>
      match s.row with
      | none => some {}
      | some row =>
        if row.entry.status = .queued then some { next := some (.autoSnapshot row) } else some {}
    | .storeFailed => some {}
    | _ => none
  | .autoSnapshot read, answer =>
    match answer with
    | .snapshot =>
      match s.runtimeSnapshot with
      | none => none
      | some snapshot =>
        if snapshot.currentTurn.isSome then some {}
        else if snapshot.hasAttention then some {}
        else some { next := some (.autoHand read) }
    | .unavailable _ => some { next := some (.markRead none) }
    | _ => none
  | .autoHand read, answer =>
    match answer with
    | .continued =>
      some { next := some (.sending read), handed := some read.id, inflight := some true }
    | _ => none
  | .sending sent, answer =>
    match answer with
    | .receipts states =>
      if sentBy states then some { next := some (.sentClear sent) }
      else some { next := some (.markRead (some sent)) }
    | .refused _ => some { next := some (.markRead (some sent)) }
    | _ => none
  | .sentClear _, answer =>
    match answer with
    | .stored => some { effect := .clear, inflight := some false }
    | .storeFailed => some { inflight := some false }
    | _ => none
  -- `mark_paused`
  | .markRead sent, answer =>
    match answer with
    | .stored =>
      match s.row with
      | none => some (.settled .keep sent)
      | some row =>
        if row.entry.status = .queued then some { next := some (.markWrite row sent) }
        else some (.settled .keep sent)
    | .storeFailed => some (.settled .keep sent)
    | _ => none
  | .markWrite read sent, answer =>
    match answer with
    | .stored => some (.settled (.writeBack read.paused) sent)
    | .storeFailed => some (.settled .keep sent)
    | _ => none
  -- `on_event`, a turn that is running
  | .runningRead turn, answer =>
    match answer with
    | .stored =>
      match s.row with
      | none => some {}
      | some row =>
        if row.entry.status = .queued ∧ row.entry.afterTurnId ≠ turn.id then
          some { next := some (.markRead none) }
        else some {}
    | .storeFailed => some {}
    | _ => none

namespace SessionQueue

/-- The ids that leave the store when `row` takes the place of the stored row. -/
def leaving (s : SessionQueue) (row : Option Row) : List Nat :=
  match s.row with
  | none => []
  | some old => if row.map (·.id) = some old.id then [] else [old.id]

/-- The session's row becomes `row`. -/
def write (s : SessionQueue) (row : Option Row) : SessionQueue :=
  { s with row := row, removed := s.removed ++ s.leaving row }

def apply (s : SessionQueue) : Effect → SessionQueue
  | .keep => s
  | .accept entry => { s.write (some ⟨s.entries, entry⟩) with entries := s.entries + 1 }
  | .writeBack row => s.write (some row)
  | .clear => s.write none

/-- The task goes on with `job`, or its function returns: then a call ends and a
watcher waits for its next event. -/
def goOn (tasks : FiniteMap Nat Task) (task : Nat) (t : Task) (job : Option Job) :
    FiniteMap Nat Task :=
  if job.isNone ∧ t.channel.isNone then tasks.erase task
  else tasks.insert task { t with job }

/-- The move of the task `task`, which is `t`. -/
def perform (s : SessionQueue) (task : Nat) (t : Task) (m : Move) : SessionQueue :=
  let s := s.apply m.effect
  let tasks := goOn s.tasks task t m.next
  { s with
    tasks := if m.spawns then tasks.insert s.spawned { channel := some [], job := none } else tasks
    spawned := if m.spawns then s.spawned + 1 else s.spawned
    handed := s.handed ++ m.handed.toList
    autoSendInflight := m.inflight.getD s.autoSendInflight
    watched := m.watched.getD s.watched
    request := m.request.or s.request }

/-- `on_event`: what a watcher does first about an event, and whether it takes the
session out of `auto_send_inflight`. -/
def onEvent (s : SessionQueue) (event : TurnLifecycle) : Move :=
  match event.phase, event.outcome with
  | .idle, some .completed => { next := some .autoRead, inflight := some false }
  | .idle, some .failed | .idle, some .interrupted =>
    { next := some (.markRead none), inflight := some false }
  | .running, _ | .finishing, _ =>
    -- the first running event of an automatic send is its own
    if s.autoSendInflight then { inflight := some false }
    else { next := some (.runningRead event.turn) }
  | _, _ => {}

/-- The mapper applies a conversation state and tells every watcher. -/
def observe (s : SessionQueue) (conversation : Conversation) : SessionQueue :=
  let event := (s.projection.getD {}).lifecycle conversation
  { s with
    projection := some (.apply conversation)
    tasks := s.tasks.mapVal fun _ t => { t with channel := t.channel.map (· ++ event.toList) } }

def step (s : SessionQueue) : Input → SessionQueue
  | .call call =>
    { s with
      tasks := s.tasks.insert s.spawned { job := some call.job }
      spawned := s.spawned + 1 }
  | .answer task answer =>
    match s.tasks.get? task with
    | some { job := some job, channel } =>
      match job.move s answer with
      | some m => s.perform task { job := some job, channel } m
      | none => s
    | _ => s
  | .receive task =>
    match s.tasks.get? task with
    | some { job := none, channel := some (event :: rest) } =>
      s.perform task { job := none, channel := some rest } (s.onEvent event)
    | _ => s
  | .observe conversation => s.observe conversation

end SessionQueue

/-- The queue manager: a queue for every session. -/
abbrev QueueManager := SessionId → SessionQueue

namespace QueueManager

def init : QueueManager := fun _ => {}

/-- One input concerns one session. -/
def step : QueueManager → SessionId × Input → QueueManager := stepAt SessionQueue.step

end QueueManager
end AgentConsole.Bridge
