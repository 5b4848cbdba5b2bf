import AgentConsole.Lib.FiniteMap
import AgentConsole.Lib.Record
import AgentConsole.Lib.Run

/-! # The inbox of pending requests

The store keeps a runtime for each session it has looked at.  A runtime lists the questions
and approvals that wait for an answer; the inbox lists those of all runtimes, once for each
id and without the ids that have been answered.

An answer is a task: it reads the runtime again, sends the command, and when the first
receipt comes it takes the request out of the runtime object it has read.  A snapshot puts a
new object in place of the old one, so the task may work on one that is gone.

`serial` tells requests with the same id apart, `reported` is the list as the messages gave
it, and `accepted` has the answers that the store has applied and that were not rejected
afterwards; all three are ghosts. -/

namespace AgentConsole.Web.Inbox

open AgentConsole.Lib

abbrev SessionId := String
abbrev AttentionId := String

/-! ## The store -/

inductive AttentionKind where
  | userQuestion | riskApproval
  deriving DecidableEq, Repr

/-- `AttentionItem`, without the texts a card shows; `createdAt` as the time it stands for. -/
structure AttentionItem where
  id : AttentionId
  kind : AttentionKind
  createdAt : Int
  valid : Bool
  deriving DecidableEq, Repr

structure Request extends AttentionItem where
  serial : Nat
  deriving DecidableEq, Repr

/-- A card of the inbox, with the session its item names. -/
abbrev Card := SessionId × Request

/-- `RuntimeSnapshot`; `object` tells the objects of the store apart. -/
structure Runtime where
  object : Nat
  runtimeRevision : Nat
  attention : List Request
  reported : List Request
  deriving DecidableEq, Repr

inductive ReceiptStatus where
  | received | acceptedByBridge | dispatchedToCodex | completed | rejected | outcomeUnknown
  deriving DecidableEq, Repr

def shouldApplyReceipt : ReceiptStatus → Bool
  | .acceptedByBridge | .dispatchedToCodex | .completed => true
  | .received | .rejected | .outcomeUnknown => false

/-- Where an `answerAttention` stands: before its `ensureRuntime` has answered, before its
first receipt, or behind both. -/
inductive Phase where
  | ensuring
  | waiting (object : Nat)
  | settled
  deriving DecidableEq, Repr

structure Answer where
  session : SessionId
  attentionId : AttentionId
  kind : AttentionKind
  serial : Nat
  phase : Phase
  deriving DecidableEq, Repr

structure Store where
  runtimes : Record SessionId Runtime
  resolvedAttentionIds : List AttentionId
  answers : FiniteMap Nat Answer
  accepted : List (Nat × AttentionId × Nat)
  nextObject : Nat
  nextSerial : Nat

/-- What comes of an `ensureRuntime`. -/
inductive Ensured where
  | snapshot (revision : Nat) (attention : List AttentionItem)
  | offline
  | failed
  deriving DecidableEq, Repr

/-- What happens to the store.  `allowed` is the part of `availability` that the device and
its capabilities decide. -/
inductive Event where
  | snapshot (session : SessionId) (revision : Nat) (attention : List AttentionItem)
  | offline (session : SessionId)
  | attentionAdded (session : SessionId) (attention : AttentionItem)
  | attentionRemoved (session : SessionId) (attentionId : AttentionId)
  | answerAttention (task : Nat) (attentionId : AttentionId)
  | ensured (task : Nat) (result : Ensured) (allowed : Bool)
  | receipt (task : Nat) (status : ReceiptStatus)
  | sendFailed (task : Nat)
  deriving DecidableEq, Repr

namespace Store

def new : Store := ⟨.empty, [], ∅, [], 0, 0⟩

/-! ## What the inbox shows -/

def cards (st : Store) : List Card :=
  st.runtimes.entries.flatMap fun (session, runtime) => runtime.attention.map (session, ·)

/-- The filter of `pendingAttention` over the cards that are left. -/
def firstOf (resolved : List AttentionId) : List AttentionId → List Card → List Card
  | _, [] => []
  | seen, card :: rest =>
    if !card.2.valid || resolved.contains card.2.id || seen.contains card.2.id then
      firstOf resolved seen rest
    else card :: firstOf resolved (card.2.id :: seen) rest

def pendingAttention (st : Store) : List Card := firstOf st.resolvedAttentionIds [] st.cards

/-- The loop of `projectAttentionInbox`. -/
def activeEntries (resolved : List AttentionId) : List AttentionId → List Card → List Card
  | _, [] => []
  | seen, card :: rest =>
    if !card.2.valid || seen.contains card.2.id then activeEntries resolved seen rest
    else if resolved.contains card.2.id then activeEntries resolved seen rest
    else card :: activeEntries resolved (card.2.id :: seen) rest

/-- Approvals come first, then what waits longest. -/
def precedes (left right : Card) : Bool :=
  if left.2.kind ≠ right.2.kind then left.2.kind = .riskApproval
  else left.2.createdAt ≤ right.2.createdAt

/-- `projectAttentionInbox`, the active entries. -/
def projectAttentionInbox (st : Store) : List Card :=
  (activeEntries st.resolvedAttentionIds [] st.cards).mergeSort precedes

/-! ## Messages -/

/-- An item that the runtime has already been told of is the same request. -/
def stamp (known : List Request) (serial : Nat) (item : AttentionItem) : Request :=
  ⟨item, ((known.find? fun q => q.id = item.id).map (·.serial)).getD serial⟩

/-- `reconcileRuntimeSnapshot`: a new object, with the list of the snapshot if that is
strictly newer. -/
def reconcile (st : Store) (current : Option Runtime) (revision : Nat)
    (attention : List AttentionItem) : Runtime :=
  match current with
  | none =>
    let requests := attention.map (stamp [] st.nextSerial)
    ⟨st.nextObject, revision, requests, requests⟩
  | some runtime =>
    if revision ≤ runtime.runtimeRevision then { runtime with object := st.nextObject }
    else
      let requests := attention.map (stamp runtime.reported st.nextSerial)
      ⟨st.nextObject, revision, requests, requests⟩

def putRuntime (st : Store) (session : SessionId) (runtime : Runtime) : Store :=
  { st with
    runtimes := st.runtimes.set session runtime
    nextObject := st.nextObject + 1
    nextSerial := st.nextSerial + 1 }

def snapshot (st : Store) (session : SessionId) (revision : Nat)
    (attention : List AttentionItem) : Store :=
  st.putRuntime session (st.reconcile (st.runtimes.get? session) revision attention)

/-- `offlineRuntime` -/
def offline (st : Store) (session : SessionId) : Store :=
  st.putRuntime session ⟨st.nextObject, 0, [], []⟩

def attentionAdded (st : Store) (session : SessionId) (item : AttentionItem) : Store :=
  match st.runtimes.get? session with
  | none => st
  | some runtime =>
    let request := stamp runtime.reported st.nextSerial item
    let add (requests : List Request) := requests.filter (fun q => q.id ≠ item.id) ++ [request]
    { st with
      runtimes := st.runtimes.set session { runtime with
        attention := add runtime.attention
        reported := add runtime.reported }
      nextSerial := st.nextSerial + 1 }

def attentionRemoved (st : Store) (session : SessionId) (attentionId : AttentionId) : Store :=
  match st.runtimes.get? session with
  | none => st
  | some runtime =>
    let drop (requests : List Request) := requests.filter fun q => q.id ≠ attentionId
    { st with runtimes := st.runtimes.set session { runtime with
        attention := drop runtime.attention
        reported := drop runtime.reported } }

/-! ## Answers -/

def setAnswer (st : Store) (task : Nat) (answer : Answer) : Store :=
  { st with answers := st.answers.insert task answer }

/-- `answerAttention` up to its first `await`. -/
def answerAttention (st : Store) (task : Nat) (attentionId : AttentionId) : Store :=
  if st.answers.contains task then st
  else
    match st.pendingAttention.find? fun card => card.2.id = attentionId with
    | none => st
    | some (session, request) =>
      st.setAnswer task ⟨session, attentionId, request.kind, request.serial, .ensuring⟩

/-- `sendCommand` behind its `ensureRuntime`: the command goes out when the runtime has a
valid request of the kind. -/
def ensured (st : Store) (task : Nat) (result : Ensured) (allowed : Bool) : Store :=
  match st.answers.get? task with
  | none => st
  | some answer =>
    if answer.phase ≠ .ensuring then st
    else
      match result with
      | .failed => st.setAnswer task { answer with phase := .settled }
      | .offline => (st.offline answer.session).setAnswer task { answer with phase := .settled }
      | .snapshot revision attention =>
        let runtime := st.reconcile (st.runtimes.get? answer.session) revision attention
        let enabled := allowed && runtime.attention.any fun q => q.kind = answer.kind && q.valid
        (st.snapshot answer.session revision attention).setAnswer task
          { answer with phase := if enabled then .waiting runtime.object else .settled }

/-- `applyLocalCommand` for an answer, on the object that was read. -/
def applyLocalCommand (st : Store) (answer : Answer) (object : Nat) : Store :=
  match st.runtimes.get? answer.session with
  | none => st
  | some runtime =>
    if runtime.object = object then
      { st with runtimes := st.runtimes.set answer.session { runtime with
          attention := runtime.attention.filter fun q => q.id ≠ answer.attentionId } }
    else st

/-- `sendCommand` and `answerAttention` behind the first receipt. -/
def answered (st : Store) (task : Nat) (answer : Answer) : Store :=
  { st with
    resolvedAttentionIds :=
      if st.resolvedAttentionIds.contains answer.attentionId then st.resolvedAttentionIds
      else st.resolvedAttentionIds ++ [answer.attentionId]
    accepted := (task, answer.attentionId, answer.serial) :: st.accepted }

/-- A receipt.  The first one settles the command; a later one is only recorded. -/
def receipt (st : Store) (task : Nat) (status : ReceiptStatus) : Store :=
  match st.answers.get? task with
  | none => st
  | some answer =>
    match answer.phase with
    | .ensuring => st
    | .waiting object =>
      let settled := st.setAnswer task { answer with phase := .settled }
      if shouldApplyReceipt status then
        (settled.applyLocalCommand answer object).answered task answer
      else settled
    | .settled =>
      if status = .rejected then
        { st with accepted := st.accepted.filter fun entry => entry.1 ≠ task }
      else st

def sendFailed (st : Store) (task : Nat) : Store :=
  match st.answers.get? task with
  | none => st
  | some answer => st.setAnswer task { answer with phase := .settled }

def step (st : Store) : Event → Store
  | .snapshot session revision attention => st.snapshot session revision attention
  | .offline session => st.offline session
  | .attentionAdded session attention => st.attentionAdded session attention
  | .attentionRemoved session attentionId => st.attentionRemoved session attentionId
  | .answerAttention task attentionId => st.answerAttention task attentionId
  | .ensured task result allowed => st.ensured task result allowed
  | .receipt task status => st.receipt task status
  | .sendFailed task => st.sendFailed task

/-! ## What the inbox owes its user -/

/-- The request has an answer that the store has applied and that was not rejected
afterwards. -/
def Accepted (st : Store) (request : Request) : Prop :=
  ∃ task, (task, request.id, request.serial) ∈ st.accepted

instance (st : Store) (request : Request) : Decidable (st.Accepted request) :=
  decidable_of_iff
    (st.accepted.any fun entry => entry.2 = (request.id, request.serial)) (by simp [Accepted])

/-- The cards of a request. -/
def cardsOf (session : SessionId) (request : Request) (cards : List Card) : List Card :=
  cards.filter fun card => card.1 = session && card.2.id = request.id

/-- Every valid request without an accepted answer is listed, once, in the inbox and
among the pending attentions; and an answer to a listed card goes to the session of the
card. -/
structure Faithful (st : Store) : Prop where
  listed : ∀ session runtime, (session, runtime) ∈ st.runtimes.entries →
    ∀ request ∈ runtime.reported, request.valid = true → ¬ st.Accepted request →
      (cardsOf session request st.pendingAttention).length = 1 ∧
        (cardsOf session request st.projectAttentionInbox).length = 1
  sent : ∀ card ∈ st.pendingAttention, ∀ task, st.answers.get? task = none →
    ∃ answer, (st.step (.answerAttention task card.2.id)).answers.get? task = some answer ∧
      answer.session = card.1 ∧ answer.attentionId = card.2.id

end Store

end AgentConsole.Web.Inbox
