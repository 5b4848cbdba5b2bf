import AgentConsole.Bridge.Domain
import AgentConsole.Lib.FiniteMap
import AgentConsole.Lib.Run

/-! # Watching a session

The adapter keeps the watchers of each session and sends them what a change of the session's
stream produces.  The runtime attaches itself to a session as a watcher, once, and dispatches
what it is sent.  Subscribing, recording the attachment and sending events are separate steps,
which other tasks come between. -/

namespace AgentConsole.Bridge.Watching

open AgentConsole.Lib

/-! ## The adapter -/

/-- What the adapter uses of the mapper of a session. -/
structure MapperOps (M Change Event : Type) where
  new : SessionId → M
  applyChange : M → Change → M × List Event
  flushDueOutputs : M → M × List Event
  hasSnapshot : M → Bool
  sessionSummary : M → Event

structure SessionRuntime (M : Type) where
  mapper : M
  watchers : List Nat
  following : Bool

/-- What is sent to a watcher: the summary that introduces the session, or an event that the
stream produced, with its place among all that were. -/
inductive Sent (Event : Type) where
  | summary (event : Event)
  | event (number : Nat) (event : Event)

/-- The place of an event. -/
def Sent.number {Event : Type} : Sent Event → Option Nat
  | .summary _ => none
  | .event number _ => some number

def numbers {Event : Type} (sent : List (Sent Event)) : List Nat := sent.filterMap Sent.number

/-- A subscribe call that returned no error, and how many events there were before it. -/
structure Subscription where
  session : SessionId
  watcher : Nat
  since : Nat
deriving DecidableEq

/-- `channels` holds what has been sent to each watcher, `sending` what the pump has yet to send.
`made` and `subscribed` are kept for the statements only: the sessions of the events produced,
and the calls of `subscribe` that succeeded. -/
structure Adapter (M Event : Type) where
  ipc : Bool := false
  sessions : FiniteMap SessionId (SessionRuntime M) := ∅
  channels : Nat → List (Sent Event) := fun _ => []
  sending : List (Nat × Sent Event) := []
  introductions : List (Nat × Event) := []
  followed : List SessionId := []
  nextWatcher : Nat := 0
  made : List (Nat × SessionId) := []
  subscribed : List Subscription := []

namespace Adapter

variable {M Change Event : Type} (mapper : MapperOps M Change Event) (a : Adapter M Event)

def newRuntime (session : SessionId) : SessionRuntime M := ⟨mapper.new session, [], false⟩

/-- `follow_locked`; `none` where there is no IPC client. -/
def followLocked (session : SessionId) : Option (Adapter M Event) :=
  if !a.ipc then none
  else
    let runtime := (a.sessions.get? session).getD (newRuntime mapper session)
    if runtime.following then some { a with sessions := a.sessions.insert session runtime }
    else some { a with
      sessions := a.sessions.insert session { runtime with following := true }
      followed := a.followed ++ [session] }

/-- `subscribe` as far as it holds the lock, with a new channel; whether it goes on. -/
def subscribe (session : SessionId) : Adapter M Event × Bool :=
  let watcher := a.nextWatcher
  let runtime := (a.sessions.get? session).getD (newRuntime mapper session)
  let pushed : Adapter M Event := { a with
    sessions := a.sessions.insert session { runtime with watchers := runtime.watchers ++ [watcher] }
    nextWatcher := watcher + 1 }
  match pushed.followLocked mapper session with
  | none => (pushed, false)
  | some followed =>
    ({ followed with
        introductions := followed.introductions ++
          (if mapper.hasSnapshot runtime.mapper then [(watcher, mapper.sessionSummary runtime.mapper)]
            else [])
        subscribed := followed.subscribed ++ [⟨session, watcher, followed.made.length⟩] }, true)

/-- `watcher.send(event)` -/
def send (watcher : Nat) (sent : Sent Event) : Adapter M Event :=
  { a with channels := fun other =>
      if other = watcher then a.channels other ++ [sent] else a.channels other }

/-- The rest of `subscribe`: a watcher is introduced to its session. -/
def introduce (position : Nat) : Adapter M Event :=
  match a.introductions[position]? with
  | none => a
  | some (watcher, event) =>
    { a with introductions := a.introductions.eraseIdx position }.send watcher (.summary event)

/-- The pump has what a session produced, and the watchers of that moment. -/
def dispatchToWatchers (session : SessionId) (runtime : SessionRuntime M) (events : List Event) :
    Adapter M Event :=
  let numbered := events.zipIdx a.made.length
  { a with
    sessions := a.sessions.insert session runtime
    made := a.made ++ numbered.map fun e => (e.2, session)
    sending := numbered.flatMap fun e => runtime.watchers.map fun w => (w, .event e.2 e.1) }

/-- The mapper of a session produces events, when the pump has sent all it had. -/
def produce (session : SessionId) (apply : M → M × List Event) : Adapter M Event :=
  match a.sending with
  | _ :: _ => a
  | [] =>
    match a.sessions.get? session with
    | none => a
    | some runtime => a.dispatchToWatchers session
        { runtime with mapper := (apply runtime.mapper).1 } (apply runtime.mapper).2

/-- `IpcEvent::StreamChanged` -/
def streamChanged (session : SessionId) (change : Change) : Adapter M Event :=
  a.produce session (mapper.applyChange · change)

/-- One session of `flush_due_outputs_all` -/
def flushDueOutputs (session : SessionId) : Adapter M Event :=
  a.produce session mapper.flushDueOutputs

/-- The pump sends the next event to the next watcher. -/
def pumpSend : Adapter M Event :=
  match a.sending with
  | [] => a
  | (watcher, sent) :: rest => { a with sending := rest }.send watcher sent

/-- `try_attach`: there is a client, and the pump of an earlier one is aborted. -/
def connect : Adapter M Event := { a with ipc := true, sending := [] }

def watchersOf (session : SessionId) : List Nat :=
  ((a.sessions.get? session).map (·.watchers)).getD []

end Adapter

/-! ## The runtime -/

/-- Where a call of `attach_session` stands; at last it pumps what its channel has received. -/
inductive AttachPhase where
  | checked
  | subscribed (watcher : Nat)
  | pumping (watcher taken : Nat)
deriving DecidableEq

structure Attach where
  session : SessionId
  phase : AttachPhase
deriving DecidableEq

structure Runtime (M Event : Type) where
  adapter : Adapter M Event := {}
  watchers : Finset SessionId := ∅
  attaches : FiniteMap Nat Attach := ∅
  nextAttach : Nat := 0
  dispatched : List (SessionId × Sent Event) := []

inductive Input (Change : Type) where
  | connect
  | streamChanged (session : SessionId) (change : Change)
  | flush (session : SessionId)
  | pumpSend
  | subscribe (session : SessionId)
  | introduce (position : Nat)
  | attachSession (session : SessionId)
  | attachSubscribe (attach : Nat)
  | attachRecord (attach : Nat)
  | pump (attach : Nat)

namespace Runtime

variable {M Change Event : Type} (mapper : MapperOps M Change Event) (s : Runtime M Event)

/-- `attach_session` finds no watcher recorded. -/
def attachSession (session : SessionId) : Runtime M Event :=
  if session ∈ s.watchers then s
  else { s with
    attaches := s.attaches.insert s.nextAttach ⟨session, .checked⟩
    nextAttach := s.nextAttach + 1 }

/-- `adapter.subscribe(key, tx)` of an `attach_session`, which returns where it fails -/
def attachSubscribe (attach : Nat) : Runtime M Event :=
  match s.attaches.get? attach with
  | some ⟨session, .checked⟩ =>
    let result := s.adapter.subscribe mapper session
    { s with
      adapter := result.1
      attaches := if result.2 then
          s.attaches.insert attach ⟨session, .subscribed s.adapter.nextWatcher⟩
        else s.attaches.erase attach }
  | _ => s

/-- The subscription has returned: it is recorded, and the pump is spawned. -/
def attachRecord (attach : Nat) : Runtime M Event :=
  match s.attaches.get? attach with
  | some ⟨session, .subscribed watcher⟩ =>
    if s.adapter.introductions.any (·.1 == watcher) then s
    else { s with
      watchers := insert session s.watchers
      attaches := s.attaches.insert attach ⟨session, .pumping watcher 0⟩ }
  | _ => s

/-- The pump of an attachment receives the next event and dispatches it. -/
def pump (attach : Nat) : Runtime M Event :=
  match s.attaches.get? attach with
  | some ⟨session, .pumping watcher taken⟩ =>
    match (s.adapter.channels watcher)[taken]? with
    | none => s
    | some sent => { s with
        dispatched := s.dispatched ++ [(session, sent)]
        attaches := s.attaches.insert attach ⟨session, .pumping watcher (taken + 1)⟩ }
  | _ => s

def step (s : Runtime M Event) (input : Input Change) : Runtime M Event :=
  match input with
  | .connect => { s with adapter := s.adapter.connect }
  | .streamChanged session change => { s with adapter := s.adapter.streamChanged mapper session change }
  | .flush session => { s with adapter := s.adapter.flushDueOutputs mapper session }
  | .pumpSend => { s with adapter := s.adapter.pumpSend }
  | .subscribe session => { s with adapter := (s.adapter.subscribe mapper session).1 }
  | .introduce position => { s with adapter := s.adapter.introduce position }
  | .attachSession session => s.attachSession session
  | .attachSubscribe attach => s.attachSubscribe mapper attach
  | .attachRecord attach => s.attachRecord attach
  | .pump attach => s.pump attach

end Runtime

/-! ## What is promised -/

section

variable {M Change Event : Type}

/-- The events that a session produced from a place on. -/
def Adapter.since (a : Adapter M Event) (subscription : Subscription) : List Nat :=
  (a.made.filter fun e => e.2 = subscription.session ∧ subscription.since ≤ e.1).map (·.1)

/-- The events sent to a watcher, and those the pump is about to send to it. -/
def Adapter.delivered (a : Adapter M Event) (watcher : Nat) : List Nat :=
  numbers (a.channels watcher) ++ numbers ((a.sending.filter (·.1 = watcher)).map (·.2))

/-- A subscribe that fails leaves no watcher behind, a watcher receives what its session has
produced since it subscribed, in order and each event once, and the runtime dispatches no event
of a session twice. -/
structure Sound (s : Runtime M Event) : Prop where
  watchers : ∀ session, s.adapter.watchersOf session =
    (s.adapter.subscribed.filter (·.session = session)).map (·.watcher)
  delivered : ∀ subscription ∈ s.adapter.subscribed,
    s.adapter.delivered subscription.watcher = s.adapter.since subscription
  dispatched : ∀ session,
    (numbers ((s.dispatched.filter (·.1 = session)).map (·.2))).Nodup

/-- The subscription of an attachment is not recorded yet. -/
def Attach.underway (attach : Attach) : Bool :=
  match attach.phase with
  | .checked | .subscribed _ => true
  | .pumping .. => false

/-- The condition on the state before a step: there is an IPC client where a subscription is
made, no other `attach_session` of the session is between its check and its record, and a
new connection aborts no dispatch. -/
def Runtime.Meets (s : Runtime M Event) : Input Change → Prop
  | .subscribe _ => s.adapter.ipc = true
  | .attachSubscribe attach =>
    ((s.attaches.get? attach).map (·.phase) = some .checked) → s.adapter.ipc = true
  | .attachSession session => ∀ attach ∈ s.attaches.values, attach.session = session →
    attach.underway = false
  | .connect => s.adapter.sending.isEmpty = true
  | .streamChanged .. | .flush _ | .pumpSend | .introduce _ | .attachRecord _ | .pump _ => True

instance (s : Runtime M Event) : (input : Input Change) → Decidable (s.Meets input)
  | .subscribe _ => inferInstanceAs (Decidable (s.adapter.ipc = true))
  | .attachSubscribe attach => inferInstanceAs (Decidable
    ((s.attaches.get? attach).map (·.phase) = some .checked → s.adapter.ipc = true))
  | .attachSession session => inferInstanceAs (Decidable
    (∀ attach ∈ s.attaches.values, attach.session = session → attach.underway = false))
  | .connect => inferInstanceAs (Decidable (s.adapter.sending.isEmpty = true))
  | .streamChanged .. | .flush _ | .pumpSend | .introduce _ | .attachRecord _ | .pump _ =>
    isTrue trivial

end

end AgentConsole.Bridge.Watching
