import AgentConsole.Lib.Run
import AgentConsole.Bridge.Domain
import AgentConsole.Relay.Protocol

/-! # The registry of transfers

A transfer joins a request of the browser with a connection of the Bridge.  Its entry
holds the ends of three one-shot channels, which the handlers take out, and a terminal
flag; the registry holds the entries, and counts the live ones when a new one is made.

A handler is a task, and one step of the system is what it does under one lock.  A panic
under a lock poisons it, and whoever locks it next panics as well.  What is pumped is
left to `Download` and `Upload`; here a body only has a length and an end.

`heap` keeps the entries that the registry has dropped.  `taken`, `ended`, `creator`,
`putter`, `notices`, `notified` and `panicked` are ghosts. -/

namespace AgentConsole.Transfer

open AgentConsole.Lib
open AgentConsole.Relay (Uuid)
open AgentConsole.Bridge (StableErrorCode)

abbrev TransferId := Nat

def maxConcurrentPerBrowser : Nat := 2
def maxConcurrentPerDevice : Nat := 2
def maxUploadBytes : Nat := 20 * 1024 * 1024
/-- in milliseconds -/
def transferTtl : Nat := 10 * 60 * 1000

inductive TransferDirection where
  | download | upload
  deriving DecidableEq, Repr

structure TransferInfo where
  direction : TransferDirection
  owner : Uuid
  device : Uuid
  session : Uuid
  deriving DecidableEq

inductive TransferOutcome where
  | completed | cancelled | failed
  deriving DecidableEq, Repr

/-! ## Entries -/

/-- The ends of the one-shot channels. -/
inductive Slot where
  | producerTx | producerRx | consumerTx | consumerRx | resultTx | resultRx
  deriving DecidableEq, Repr

structure Entry where
  info : TransferInfo
  expiresAt : Nat
  /-- the task that has made the entry -/
  creator : Nat
  /-- the PUT that waits for the consumer -/
  putter : Option Nat := none
  slots : List Slot :=
    [.producerTx, .producerRx, .consumerTx, .consumerRx, .resultTx, .resultRx]
  /-- the response to the producer is still open -/
  producerAck : Bool := false
  cancelSignal : Bool := false
  terminal : Bool := false
  terminalCode : Option StableErrorCode := none
  producerSent : Bool := false
  consumerSent : Bool := false
  result : Option TransferOutcome := none
  taken : List Slot := []
  /-- how often the entry has become terminal -/
  ended : Nat := 0
  deriving DecidableEq

namespace Entry

def take (t : Entry) (slot : Slot) : Entry :=
  if slot ∈ t.slots then { t with slots := t.slots.erase slot, taken := t.taken ++ [slot] } else t

def finish (t : Entry) : Entry :=
  { t with terminal := true, ended := if t.terminal then t.ended else t.ended + 1 }

/-- `set_producer`, with whether it was taken. -/
def setProducer (t : Entry) : Entry × Bool :=
  if t.terminal then (t, false)
  else if .producerTx ∈ t.slots then ({ t.take .producerTx with producerSent := true }, true)
  else (t, false)

/-- `set_consumer` -/
def setConsumer (t : Entry) : Entry × Bool :=
  if t.terminal then (t, false)
  else if .consumerTx ∈ t.slots then ({ t.take .consumerTx with consumerSent := true }, true)
  else (t, false)

/-- The result goes to the waiting PUT, if nobody has sent one. -/
def sendResult (t : Entry) (outcome : TransferOutcome) : Entry :=
  if .resultTx ∈ t.slots then { t.take .resultTx with result := some outcome } else t

def complete (t : Entry) : Entry := { t.finish with producerAck := false }

/-- `cancel`, which does nothing to a terminal entry. -/
def cancel (t : Entry) (code : StableErrorCode) : Entry :=
  if t.terminal then t
  else { t.finish.sendResult .cancelled with
    producerAck := false, cancelSignal := true, terminalCode := some code }

end Entry

/-! ## Handlers -/

/-- What a handler does next. -/
inductive Job where
  | create (info : TransferInfo)
  | offer (id : TransferId) (download : Bool)
  -- `start_download`
  | takeProducer (id : TransferId)
  | awaitProducer (id : TransferId)
  -- `upload_stream`
  | put (id : TransferId) (owner session : Uuid)
  | takeConsumer (id : TransferId)
  | awaitConsumer (id : TransferId)
  | pumping (id : TransferId) (transferred : Nat)
  | takeResult (id : TransferId)
  | awaitResult (id : TransferId)
  -- `producer` and `consumer`
  | produce (id : TransferId) (device : Uuid)
  | setProducer (id : TransferId)
  | setAck (id : TransferId)
  | pump (id : TransferId)
  | completing (id : TransferId)
  | consume (id : TransferId) (device : Uuid)
  | setConsumer (id : TransferId)
  -- `on_bridge_ready` and `on_bridge_result`
  | ready (id : TransferId) (device : Uuid) (rejection : StableErrorCode)
  | rejecting (id : TransferId) (rejection : StableErrorCode)
  | result (id : TransferId) (device : Uuid) (outcome : TransferOutcome)
  | resultTake (id : TransferId) (outcome : TransferOutcome)
  | resultComplete (id : TransferId)
  -- `cancel_and_remove`
  | cancelGet (id : TransferId) (code : StableErrorCode)
  | cancelCheck (id : TransferId) (code : StableErrorCode)
  | cancelling (id : TransferId) (code : StableErrorCode) (already : Bool)
  | notifying (id : TransferId)
  | removing (id : TransferId)
  -- `sweep`
  | sweep
  | sweepCheck (expired : List TransferId)
  | sweepCancel (id : TransferId) (already : Bool) (rest : List TransferId)
  | sweepNotify (id : TransferId) (rest : List TransferId)
  deriving DecidableEq

inductive Answer where
  | continued
  /-- whether the offer reached the Bridge -/
  | offered (sent : Bool)
  | cancelled
  | arrived
  | timeout
  | chunk (length : Nat)
  | eof
  | bodyError
  | sinkClosed
  deriving DecidableEq, Repr

/-- The mutex a step locks. -/
inductive Lock where
  | free
  | registry
  | entry (id : TransferId)
  deriving DecidableEq, Repr

def Job.lock : Job → Lock
  | .create _ | .put _ _ _ | .produce _ _ | .consume _ _ | .ready _ _ _ | .result _ _ _
  | .cancelGet _ _ | .removing _ | .sweep => .registry
  | .takeProducer id | .takeConsumer id | .takeResult id | .setProducer id | .setAck id
  | .completing id | .setConsumer id | .rejecting id _ | .resultTake id _ | .resultComplete id
  | .cancelCheck id _ | .cancelling id _ _ | .sweepCancel id _ _ => .entry id
  | .sweepCheck (id :: _) => .entry id
  | .offer _ _ | .awaitProducer _ | .awaitConsumer _ | .pumping _ _ | .awaitResult _ | .pump _
  | .notifying _ | .sweepCheck [] | .sweepNotify _ _ => .free

/-- The steps at which the handler waits; it is dropped there when its client goes. -/
def Job.waits : Job → Bool
  | .offer _ _ | .awaitProducer _ | .awaitConsumer _ | .pumping _ _ | .awaitResult _ => true
  | _ => false

/-- The entry a step works on. -/
def Job.entry? : Job → Option TransferId
  | .takeProducer id | .awaitProducer id | .takeConsumer id | .awaitConsumer id | .pumping id _
  | .takeResult id | .awaitResult id | .setProducer id | .setAck id | .pump id | .completing id
  | .setConsumer id | .rejecting id _ | .resultTake id _ | .resultComplete id
  | .cancelCheck id _ | .cancelling id _ _ | .sweepCheck (id :: _) | .sweepCancel id _ _ => some id
  | _ => none

inductive Input where
  /-- a request, a message of the Bridge or the maintenance ticker -/
  | start (job : Job)
  | answer (task : Nat) (answer : Answer)
  | dropped (task : Nat)
  | tick (elapsed : Nat)
  deriving DecidableEq

/-- The jobs that start a handler. -/
def Job.isRequest : Job → Bool
  | .create _ | .put _ _ _ | .produce _ _ | .consume _ _ | .ready _ _ _ | .result _ _ _
  | .sweep => true
  | _ => false

structure Registry where
  now : Nat := 0
  heap : FiniteMap TransferId Entry := ∅
  /-- `inner` -/
  registered : List TransferId := []
  poisoned : List Lock := []
  created : Nat := 0
  tasks : FiniteMap Nat Job := ∅
  spawned : Nat := 0
  /-- the task that has taken on the notice of a cancellation -/
  notices : FiniteMap TransferId Nat := ∅
  /-- the cancellations told to the Bridge -/
  notified : List TransferId := []
  panicked : List Nat := []

namespace Registry

def isTerminal (s : Registry) (id : TransferId) : Bool := (s.heap.get? id).any (·.terminal)

def expired (s : Registry) (id : TransferId) : Bool :=
  (s.heap.get? id).any fun t => t.expiresAt < s.now

/-- The transfers in the registry that are not terminal and belong to `who`. -/
def live (s : Registry) (field : TransferInfo → Uuid) (who : Uuid) : List TransferId :=
  s.registered.filter fun id =>
    (s.heap.get? id).any fun t => !t.terminal && field t.info = who

/-- Everything one step makes a handler do; a panic is one under the lock it holds. -/
structure Move where
  next : Option Job := none
  writes : Option (TransferId × Entry) := none
  registers : Option TransferId := none
  removes : List TransferId := []
  claims : Option TransferId := none
  notifies : Option TransferId := none
  panics : Bool := false

/-- The registered entry that a handler asks for. -/
def find (s : Registry) (id : TransferId) : Option Entry :=
  if id ∈ s.registered then s.heap.get? id else none

/-- `TransferRegistry::create`, which looks into every entry of the registry. -/
def create (s : Registry) (task : Nat) (info : TransferInfo) : Move :=
  if s.registered.any fun id => .entry id ∈ s.poisoned then { panics := true }
  else if maxConcurrentPerBrowser ≤ (s.live (·.owner) info.owner).length then {}
  else if maxConcurrentPerDevice ≤ (s.live (·.device) info.device).length then {}
  else {
    next := some (.offer s.created (info.direction = .download))
    writes := some (s.created,
      { info := info, expiresAt := s.now + transferTtl, creator := task })
    registers := some s.created }

/-- The move of a handler that works on the entry `t` of `id`. -/
def onEntry (task : Nat) (id : TransferId) (t : Entry) : Job → Answer → Option Move
  | .takeProducer _, .continued =>
    if .producerRx ∈ t.slots then
      some { next := some (.awaitProducer id), writes := some (id, t.take .producerRx) }
    else some { panics := true }
  -- the senders are never dropped unsent while the entry is there
  | .awaitProducer _, .cancelled =>
    if t.cancelSignal then some { next := some (.removing id) } else none
  | .awaitProducer _, .arrived => if t.producerSent then some {} else none
  | .awaitProducer _, .timeout => some { next := some (.cancelGet id .transferExpired) }
  | .takeConsumer _, .continued =>
    if .consumerRx ∈ t.slots then
      some {
        next := some (.awaitConsumer id)
        writes := some (id, { t.take .consumerRx with putter := some task }) }
    else some { panics := true }
  | .awaitConsumer _, .cancelled =>
    if t.cancelSignal then some { next := some (.removing id) } else none
  | .awaitConsumer _, .arrived =>
    if t.consumerSent then some { next := some (.pumping id 0) } else none
  | .awaitConsumer _, .timeout => some { next := some (.cancelGet id .transferExpired) }
  | .pumping _ _, .cancelled =>
    if t.cancelSignal then some { next := some (.removing id) } else none
  | .pumping _ _, .timeout => some { next := some (.cancelGet id .transferExpired) }
  | .pumping _ _, .bodyError => some { next := some (.cancelGet id .internalError) }
  | .pumping _ transferred, .chunk length =>
    if maxUploadBytes < transferred + length then
      some { next := some (.cancelGet id .transferTooLarge) }
    else some { next := some (.pumping id (transferred + length)) }
  | .pumping _ _, .sinkClosed => some { next := some (.cancelGet id .internalError) }
  | .pumping _ _, .eof => some { next := some (.takeResult id) }
  | .takeResult _, .continued =>
    some {
      next := some (if .resultRx ∈ t.slots then .awaitResult id else .removing id)
      writes := some (id, t.take .resultRx) }
  | .awaitResult _, .cancelled =>
    if t.cancelSignal then some { next := some (.removing id) } else none
  | .awaitResult _, .arrived =>
    if t.result.isSome then some { next := some (.removing id) } else none
  | .awaitResult _, .timeout => some { next := some (.removing id) }
  | .setProducer _, .continued =>
    some {
      next := if t.setProducer.2 then some (.setAck id) else none
      writes := some (id, t.setProducer.1) }
  | .setAck _, .continued =>
    some { next := some (.pump id), writes := some (id, { t with producerAck := true }) }
  | .pump _, .eof => some { next := some (.completing id) }
  | .pump _, .timeout => some { next := some (.cancelGet id .transferExpired) }
  | .pump _, .bodyError | .pump _, .sinkClosed =>
    some { next := some (.cancelGet id .internalError) }
  | .pump _, .cancelled =>
    if t.cancelSignal then some { next := some (.cancelGet id .transferExpired) } else none
  | .completing _, .continued =>
    some { next := some (.removing id), writes := some (id, t.complete) }
  | .setConsumer _, .continued => some { writes := some (id, t.setConsumer.1) }
  | .rejecting _ rejection, .continued => some { writes := some (id, t.cancel rejection) }
  | .resultTake _ outcome, .continued =>
    some { next := some (.resultComplete id), writes := some (id, t.sendResult outcome) }
  | .resultComplete _, .continued => some { writes := some (id, t.complete) }
  | .cancelCheck _ code, .continued =>
    some { next := some (.cancelling id code t.terminal) }
  | .cancelling _ code already, .continued =>
    some {
      next := some (if already then .removing id else .notifying id)
      writes := some (id, t.cancel code)
      claims := if already then none else some id }
  | .sweepCheck (_ :: rest), .continued => some { next := some (.sweepCancel id t.terminal rest) }
  | .sweepCancel _ already rest, .continued =>
    some {
      next := some (if already then .sweepCheck rest else .sweepNotify id rest)
      writes := some (id, t.cancel .transferExpired)
      claims := if already then none else some id }
  | _, _ => none

/-- The step of a handler under its lock, or none if its wait cannot end so. -/
def move (s : Registry) (task : Nat) (job : Job) (answer : Answer) : Option Move :=
  match job, answer with
  | .create info, .continued => some (s.create task info)
  | .offer id download, .offered sent =>
    if sent then some { next := if download then some (.takeProducer id) else none }
    else some { next := some (.cancelGet id .deviceOffline) }
  | .put id owner session, .continued =>
    match s.find id with
    | none => some {}
    | some t =>
      if t.info.owner ≠ owner ∨ t.info.session ≠ session ∨ t.info.direction ≠ .upload then some {}
      else if s.expired id then some { next := some (.cancelGet id .transferExpired) }
      else some { next := some (.takeConsumer id) }
  | .produce id device, .continued =>
    match s.find id with
    | none => some {}
    | some t =>
      if t.info.device ≠ device ∨ t.info.direction ≠ .download then some {}
      else if s.expired id then some { next := some (.cancelGet id .transferExpired) }
      else some { next := some (.setProducer id) }
  | .consume id device, .continued =>
    match s.find id with
    | none => some {}
    | some t =>
      if t.info.device ≠ device ∨ t.info.direction ≠ .upload then some {}
      else if s.expired id then some { next := some (.cancelGet id .transferExpired) }
      else some { next := some (.setConsumer id) }
  | .ready id device rejection, .continued =>
    match s.find id with
    | none => some {}
    | some t =>
      if t.info.device ≠ device then some {} else some { next := some (.rejecting id rejection) }
  | .result id device outcome, .continued =>
    match s.find id with
    | none => some {}
    | some t =>
      if t.info.device ≠ device then some {} else some { next := some (.resultTake id outcome) }
  | .cancelGet id code, .continued =>
    match s.find id with
    | none => some {}
    | some _ => some { next := some (.cancelCheck id code) }
  | .notifying id, .continued => some { next := some (.removing id), notifies := some id }
  | .removing id, .continued => some { removes := [id] }
  | .sweep, .continued =>
    let gone := s.registered.filter s.expired
    some { next := some (.sweepCheck gone), removes := gone }
  | .sweepCheck [], .continued => some {}
  | .sweepNotify id rest, .continued =>
    some { next := some (.sweepCheck rest), notifies := some id }
  | job, answer =>
    match job.entry? with
    | none => none
    | some id =>
      match s.heap.get? id with
      | none => none
      | some t => onEntry task id t job answer

def perform (s : Registry) (task : Nat) (lock : Lock) (m : Move) : Registry :=
  { s with
    heap := match m.writes with
      | none => s.heap
      | some (id, t) => s.heap.insert id t
    registered := (s.registered ++ m.registers.toList).filter (· ∉ m.removes)
    created := s.created + m.registers.toList.length
    tasks := match m.next with
      | none => s.tasks.erase task
      | some job => s.tasks.insert task job
    notices := match m.claims with
      | none => s.notices
      | some id => s.notices.insert id task
    notified := s.notified ++ m.notifies.toList
    panicked := if m.panics then s.panicked ++ [task] else s.panicked
    poisoned := if m.panics then lock :: s.poisoned else s.poisoned }

def step (s : Registry) : Input → Registry
  | .start job =>
    if job.isRequest then
      { s with tasks := s.tasks.insert s.spawned job, spawned := s.spawned + 1 }
    else s
  | .answer task answer =>
    match s.tasks.get? task with
    | none => s
    | some job =>
      if job.lock ∈ s.poisoned then
        { s with tasks := s.tasks.erase task, panicked := s.panicked ++ [task] }
      else
        match s.move task job answer with
        | none => s
        | some m => s.perform task job.lock m
  | .dropped task =>
    match s.tasks.get? task with
    | none => s
    | some job => if job.waits then { s with tasks := s.tasks.erase task } else s
  | .tick elapsed => { s with now := s.now + elapsed }

end Registry
end AgentConsole.Transfer
