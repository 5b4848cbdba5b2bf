import AgentConsole.Relay.Reconnect

/-! # What a Bridge's messages store

The messages of a Bridge reach two tables.  A batch of summaries is stored under
the device that its first summary names, and a receipt is found by its request
id alone; neither is compared with the sender. -/

namespace AgentConsole.Relay

open AgentConsole.Lib

/-- The session is at work on a message. -/
def BridgePhase.onMessage : BridgePhase → Bool
  | .storing .. | .handling _ | .settling _ => true
  | _ => false

/-- A step of the work on a message of a device leaves the rows of other devices
alone, and the receipts of requests that were not handed to the device. -/
def StoresOwn (w : Service) (s : ServiceStep) : Prop :=
  ∀ id task, s.op = .bridge id → w.bridges.get? id = some task → task.phase.onMessage = true →
    (∀ key, key.1 ≠ task.device →
      (w.step s).db.sessions.get? key = w.db.sessions.get? key) ∧
    ∀ requestId, (∀ handed, (requestId, task.device, handed) ∉ w.dispatched) →
      (w.step s).db.receipts.get? requestId = w.db.receipts.get? requestId

/-- The first summary of a batch names the sender, or no uuid at all. -/
def NamesSender (device : Uuid) (batch : SessionSummaryBatch) : Prop :=
  ∀ named ∈ ((batch.summaries.head?.bind (·.sessionKey)).map (·.deviceId)).bind Uuid.parse,
    named = device

/-- The summaries a message brings. -/
def Envelope.summaryBatch (env : Envelope) : Option SessionSummaryBatch :=
  match env.payload with
  | some (.sessionSummaryBatch batch) => some batch
  | _ => none

/-- The request was handed to the device, or has no receipt. -/
def Service.Concerns (device : Uuid) (requestId : String) (w : Service) : Prop :=
  (∃ handed ∈ w.dispatched, handed.1 = requestId ∧ handed.2.1 = device) ∨
    w.db.receipts.get? requestId = none

/-- The request id a message that is being handled will write to. -/
def BridgePhase.receipt : BridgePhase → Option String
  | .handling env => (Service.receiptWrite env).map (·.requestId)
  | .settling write => some write.requestId
  | _ => none

/-- Messages are about their sender: a batch whose summaries have keys names the
sender first, and an answer is to a request that was handed to the sender or that
the Relay does not know; and no request is admitted under an id that is just
being answered. -/
def OwnMessages (w : Service) (s : ServiceStep) : Prop :=
  match s.op with
  | .receive id env => ∀ task, w.bridges.get? id = some task →
      (∀ batch ∈ env.summaryBatch, NamesSender task.device batch ∨
        ∀ summary ∈ batch.summaries, summary.sessionKey = none) ∧
      ∀ write ∈ Service.receiptWrite env, w.Concerns task.device write.requestId
  | .command id => ∀ task, w.commands.get? id = some task → task.phase.admits = true →
      ∀ id' bridge, w.bridges.get? id' = some bridge →
        bridge.phase.receipt ≠ some task.request.requestId
  | _ => True

/-! ## Work on messages -/

/-- What a session stores while it works on a message is its own. -/
def BridgePhase.Own (w : Service) (device : Uuid) (phase : BridgePhase) : Prop :=
  (∀ env named rest, phase = .storing env named rest → Service.receiptWrite env = none ∧
    (named = device ∨ ∀ summary ∈ rest, summary.sessionKey = none)) ∧
  ∀ requestId ∈ phase.receipt, w.Concerns device requestId

/-- All sessions work on messages about themselves. -/
def Attentive (w : Service) : Prop :=
  ∀ id task, w.bridges.get? id = some task → task.phase.Own w task.device

/-- Nothing that is being answered gets a receipt it did not have. -/
def Service.Keeps (w w' : Service) : Prop :=
  ∀ device requestId, w.Concerns device requestId → w'.Concerns device requestId

namespace Attentive

variable {w w' : Service}

theorem new : Attentive .new := by
  intro id task found
  cases found

theorem of_same (attentive : Attentive w) (bridges : w'.bridges = w.bridges)
    (keeps : ∀ id task requestId, w.bridges.get? id = some task →
      requestId ∈ task.phase.receipt → w.Concerns task.device requestId →
      w'.Concerns task.device requestId) : Attentive w' := by
  intro id task found
  rw [bridges] at found
  obtain ⟨storing, answering⟩ := attentive id task found
  exact ⟨storing, fun requestId member =>
    keeps id task requestId found member (answering requestId member)⟩

/-- A session goes on to a phase that is its own. -/
theorem of_bridge {id : Nat} {task : BridgeTask} (attentive : Attentive w)
    (bridges : w'.bridges = w.bridges.insert id task) (keeps : w.Keeps w')
    (own : task.phase.Own w task.device) : Attentive w' := by
  intro id' task' found
  rw [bridges, FiniteMap.get?_insert] at found
  split at found
  · cases found
    exact ⟨own.1, fun requestId member => keeps _ _ (own.2 requestId member)⟩
  · obtain ⟨storing, answering⟩ := attentive id' task' found
    exact ⟨storing, fun requestId member => keeps _ _ (answering requestId member)⟩

end Attentive

namespace Service

variable {w : Service}

theorem Keeps.of_same {w' : Service} (dispatched : w'.dispatched = w.dispatched)
    (receipts : ∀ requestId, w.db.receipts.get? requestId = none →
      w'.db.receipts.get? requestId = none) : w.Keeps w' := by
  rintro device requestId (handed | unknown)
  · exact .inl (dispatched ▸ handed)
  · exact .inr (receipts requestId unknown)

theorem Keeps.updateReceipt (env : ServiceCtx) (write : ReceiptWrite) :
    w.Keeps (w.updateReceipt env write) := by
  unfold Service.updateReceipt
  split
  · refine .of_same rfl fun requestId unknown => ?_
    dsimp only [Database.updateReceipt]
    rw [FiniteMap.get?_modify]
    split
    · next same => rw [← same, unknown]; rfl
    · exact unknown
  · exact .of_same rfl fun _ unknown => unknown

end Service

/-- A phase without a message is nobody's business. -/
theorem BridgePhase.Own.of_idle {w : Service} {device : Uuid} {phase : BridgePhase}
    (idle : phase.onMessage = false) : phase.Own w device := by
  constructor
  · rintro env named rest rfl
    cases idle
  · intro requestId member
    cases phase with
    | handling | settling => cases idle
    | _ => cases member

theorem Database.batchDevice_of_namesSender {device : Uuid} {batch : SessionSummaryBatch}
    (names : NamesSender device batch) : Database.batchDevice device batch = device := by
  unfold Database.batchDevice
  dsimp only
  cases parsed : (((batch.summaries.head?.bind (·.sessionKey)).map (·.deviceId)).filter
      (fun id => !id.isEmpty)).bind Uuid.parse with
  | none => rfl
  | some named =>
    obtain ⟨text, kept, isUuid⟩ := Option.bind_eq_some_iff.mp parsed
    refine names named (Option.bind_eq_some_iff.mpr ⟨text, ?_, isUuid⟩)
    exact (Option.filter_eq_some_iff.mp kept).1

namespace Attentive

variable {w : Service}

/-- A message that is about its sender. -/
theorem own_of_receive {device : Uuid} {message : Envelope}
    (summaries : ∀ batch ∈ message.summaryBatch, NamesSender device batch ∨
      ∀ summary ∈ batch.summaries, summary.sessionKey = none)
    (answers : ∀ write ∈ Service.receiptWrite message, w.Concerns device write.requestId) :
    (Service.afterReceive device message).Own w device := by
  unfold Service.afterReceive
  split
  · next batch payload =>
    refine ⟨?_, fun requestId member => by cases member⟩
    rintro env named rest ⟨⟩
    refine ⟨by simp [Service.receiptWrite, payload], ?_⟩
    rcases summaries batch (by simp [Envelope.summaryBatch, payload]) with names | keyless
    · exact .inl (Database.batchDevice_of_namesSender names)
    · exact .inr keyless
  · refine ⟨by rintro env named rest ⟨⟩, fun requestId member => ?_⟩
    obtain ⟨write, writes, rfl⟩ := Option.map_eq_some_iff.mp member
    exact answers write writes

theorem bridgeStep {env : ServiceCtx} {id : Nat} {task : BridgeTask} (attentive : Attentive w)
    (found : w.bridges.get? id = some task) : Attentive (w.bridgeStep env id task) := by
  have own := attentive id task found
  have same (db : Database) (receipts : db.receipts = w.db.receipts) (requestId : String)
      (unknown : w.db.receipts.get? requestId = none) : db.receipts.get? requestId = none :=
    receipts ▸ unknown
  unfold Service.bridgeStep
  cases phase : task.phase with
  | reading => exact attentive
  | storing message named summaries =>
    obtain ⟨answersNone, ours⟩ := own.1 message named summaries phase
    have handled : (BridgePhase.handling message).Own w task.device := by
      refine ⟨by rintro _ _ _ ⟨⟩, fun requestId member => ?_⟩
      simp [BridgePhase.receipt, answersNone] at member
    cases summaries with
    | nil => exact attentive.of_bridge rfl (.of_same rfl fun _ unknown => unknown) handled
    | cons summary rest =>
      dsimp only
      split
      · refine attentive.of_bridge rfl (.of_same rfl (same _ (by
          unfold Database.upsertSummary; split; rfl; split <;> rfl))) ?_
        refine ⟨?_, fun requestId member => by cases member⟩
        rintro _ _ _ ⟨⟩
        exact ⟨answersNone, ours.imp_right fun keyless other member =>
          keyless other (List.mem_cons_of_mem _ member)⟩
      · exact attentive.of_bridge rfl (.of_same rfl fun _ unknown => unknown) handled
  | handling message =>
    refine attentive.of_bridge rfl (.of_same rfl fun _ unknown => unknown) ?_
    refine ⟨?_, fun requestId member => own.2 requestId ?_⟩
    · intro env named rest storing
      dsimp only [Service.afterHandling] at storing
      split at storing <;> cases storing
    · dsimp only [Service.afterHandling] at member
      split at member
      · next write writes =>
        cases member
        simp [phase, BridgePhase.receipt, writes]
      · cases member
  | settling write =>
    have moved : ((w.updateReceipt env write).setBridge id task .reading).bridges =
        w.bridges.insert id { task with phase := .reading } := by simp [Service.setBridge]
    exact attentive.of_bridge moved (Service.Keeps.updateReceipt env write) (.of_idle rfl)
  | finalising left =>
    cases left with
    | nil => exact attentive
    | cons first rest =>
      have moved : ((w.updateReceipt env (Service.outcomeUnknownWrite first)).setBridge id task
          (.finalising rest)).bridges =
            w.bridges.insert id { task with phase := .finalising rest } := by
        simp [Service.setBridge]
      exact attentive.of_bridge moved (Service.Keeps.updateReceipt env _) (.of_idle rfl)
  | sendSubscribes envs =>
    cases envs <;>
      exact attentive.of_bridge rfl (.of_same rfl fun _ unknown => unknown) (.of_idle rfl)
  | setOnline =>
    refine attentive.of_bridge rfl (.of_same rfl (same _ ?_)) (.of_idle rfl)
    dsimp only
    split <;> rfl
  | setOffline left =>
    refine attentive.of_bridge rfl (.of_same rfl (same _ ?_)) (.of_idle rfl)
    dsimp only
    split <;> rfl
  | _ => exact attentive.of_bridge rfl (.of_same rfl fun _ unknown => unknown) (.of_idle rfl)

theorem commandStep {env : ServiceCtx} {id : Nat} {task : CommandTask} (attentive : Attentive w)
    (apart : task.phase.admits = true → ∀ id' bridge, w.bridges.get? id' = some bridge →
      bridge.phase.receipt ≠ some task.request.requestId) :
    Attentive (w.commandStep env id task) := by
  unfold Service.commandStep
  cases phase : task.phase with
  | insertReceipt device session =>
    dsimp only
    split
    · split
      · refine attentive.of_same rfl fun id' bridge requestId found member concerns => ?_
        rcases concerns with handed | unknown
        · exact .inl handed
        · right
          dsimp only [Service.setCommand, Database.insertReceipt]
          split
          · exact unknown
          · rw [FiniteMap.get?_insert, if_neg]
            · exact unknown
            · rintro rfl
              exact apart (by rw [phase]; rfl) id' bridge found member
      · exact attentive.of_same rfl fun _ _ _ _ _ concerns => concerns
    · exact attentive.of_same rfl fun _ _ _ _ _ concerns => concerns
  | send device =>
    dsimp only
    split
    · refine attentive.of_same rfl fun _ _ _ _ _ concerns => ?_
      rcases concerns with ⟨handed, member, same⟩ | unknown
      · exact .inl ⟨handed, List.mem_append_left _ member, same⟩
      · exact .inr unknown
    · exact attentive.of_same rfl fun _ _ _ _ _ concerns => concerns
  | reject =>
    refine attentive.of_same (by simp [Service.setCommand]) fun _ _ _ _ _ concerns => ?_
    exact Service.Keeps.updateReceipt env _ _ _ concerns
  | _ =>
    dsimp only
    repeat' split
    all_goals exact attentive.of_same rfl fun _ _ _ _ _ concerns => concerns

theorem step {s : ServiceStep} (attentive : Attentive w) (messages : OwnMessages w s) :
    Attentive (w.step s) := by
  unfold OwnMessages at messages
  unfold Service.step
  cases op : s.op with
  | hub op other => exact attentive.of_same rfl fun _ _ _ _ _ concerns => concerns
  | setDevice device row => exact attentive.of_same rfl fun _ _ _ _ _ concerns => concerns
  | accept id device owner =>
    dsimp only
    split
    · exact attentive
    · exact attentive.of_bridge rfl (.of_same rfl fun _ unknown => unknown) (.of_idle rfl)
  | receive id message =>
    rw [op] at messages
    dsimp only
    cases found : w.bridges.get? id with
    | none => exact attentive
    | some task =>
      obtain ⟨summaries, answers⟩ := messages task found
      dsimp only
      split
      · exact attentive.of_bridge rfl (.of_same rfl fun _ unknown => unknown)
          (own_of_receive summaries answers)
      · exact attentive
  | hangUp id =>
    dsimp only
    cases found : w.bridges.get? id with
    | none => exact attentive
    | some task =>
      dsimp only
      split
      · exact attentive.of_bridge rfl (.of_same rfl fun _ unknown => unknown) (.of_idle rfl)
      · exact attentive
  | bridge id =>
    dsimp only
    cases found : w.bridges.get? id with
    | none => exact attentive
    | some task => exact attentive.bridgeStep found
  | request id conn request =>
    dsimp only
    split
    · exact attentive
    · split
      · exact attentive.of_same rfl fun _ _ _ _ _ concerns => concerns
      · exact attentive
  | command id =>
    rw [op] at messages
    dsimp only
    cases found : w.commands.get? id with
    | none => exact attentive
    | some task => exact attentive.commandStep (messages task found)
  | beginShutdown => exact attentive.of_same rfl fun _ _ _ _ _ concerns => concerns
  | shutdownReceipt =>
    dsimp only
    split
    · exact attentive
    · refine attentive.of_same (by simp) fun _ _ _ _ _ concerns => ?_
      exact Service.Keeps.updateReceipt s.env _ _ _ concerns

/-! ## What is stored -/

theorem upsertSummary_other {device fresh : Uuid} {summary : SessionSummary} {db : Database}
    {sender : Uuid} (own : device = sender ∨ summary.sessionKey = none) {key : SessionRowKey}
    (other : key.1 ≠ sender) :
    (db.upsertSummary device fresh summary).1.sessions.get? key = db.sessions.get? key := by
  unfold Database.upsertSummary
  cases row : Database.sessionRowKey device summary with
  | none => rfl
  | some stored =>
    obtain ⟨sessionKey, named, rfl⟩ := Option.map_eq_some_iff.mp row
    have same : device = sender := by
      rcases own with same | keyless
      · exact same
      · rw [keyless] at named; cases named
    dsimp only
    split
    · rw [FiniteMap.get?_insert, if_neg]
      rintro rfl
      exact other same
    · rfl

theorem storesOwn (attentive : Attentive w) (s : ServiceStep) : StoresOwn w s := by
  intro id task op found working
  have own := attentive id task found
  have stepEq : w.step s = w.bridgeStep s.env id task := by
    simp only [Service.step, op, found]
  rw [stepEq, Service.bridgeStep]
  cases phase : task.phase with
  | storing message named summaries =>
    obtain ⟨-, ours⟩ := own.1 message named summaries phase
    cases summaries with
    | nil => exact ⟨fun _ _ => rfl, fun _ _ => rfl⟩
    | cons summary rest =>
      dsimp only
      split
      · refine ⟨fun key other => ?_, fun requestId _ => ?_⟩
        · exact upsertSummary_other (ours.imp_right fun keyless => keyless summary (by simp)) other
        · dsimp only [Service.setBridge, Database.upsertSummary]
          split
          · rfl
          · split <;> rfl
      · exact ⟨fun _ _ => rfl, fun _ _ => rfl⟩
  | handling message => exact ⟨fun _ _ => rfl, fun _ _ => rfl⟩
  | settling write =>
    dsimp only [Service.setBridge, Service.updateReceipt]
    split
    · refine ⟨fun _ _ => rfl, fun requestId foreign => ?_⟩
      dsimp only [Database.updateReceipt]
      rw [FiniteMap.get?_modify]
      split
      · next same =>
        -- the receipt of a request that was not handed to the device: there is none
        subst same
        rcases own.2 write.requestId (by rw [phase]; rfl) with
          ⟨⟨_, _, handed⟩, member, rfl, rfl⟩ | unknown
        · exact absurd member (foreign handed)
        · rw [unknown]; rfl
      · rfl
    · exact ⟨fun _ _ => rfl, fun _ _ => rfl⟩
  | _ => rw [phase] at working; cases working

end Attentive

/-- In every run in which the messages of Bridges are about their sender, they
only store rows of the sender and receipts of requests handed to the sender. -/
theorem messages_store_own (steps : List ServiceStep)
    (run : Along Service.step OwnMessages .new steps) : Along Service.step StoresOwn .new steps :=
  Along.of_invariant (fun _ _ attentive messages => Attentive.step attentive messages)
    (fun _ s attentive _ => attentive.storesOwn s) Attentive.new run

instance (device : Uuid) (batch : SessionSummaryBatch) : Decidable (NamesSender device batch) := by
  unfold NamesSender
  infer_instance

instance (device : Uuid) (requestId : String) (w : Service) :
    Decidable (w.Concerns device requestId) := by
  unfold Service.Concerns
  infer_instance

instance (w : Service) (s : ServiceStep) : Decidable (OwnMessages w s) := by
  obtain ⟨env, op⟩ := s
  unfold OwnMessages
  cases op <;> infer_instance

namespace Summaries

open Reconnecting

/-- A batch with one session of `named`. -/
def batch (named : Uuid) : Envelope :=
  baseEnvelope 0 "" (.sessionSummaryBatch ⟨[⟨some ⟨named.text, 1, "t", ""⟩, ""⟩], true⟩)

/-- The Bridge of `sender` connects and sends a batch that names `named`. -/
def sends (sender senderOwner named : Uuid) : List ServiceStep :=
  op (.setDevice device ⟨owner, false⟩) :: op (.accept 1 sender senderOwner) ::
    List.replicate 6 (op (.bridge 1)) ++ [op (.receive 1 (batch named))]

end Summaries

open Reconnecting Summaries in
theorem messages_store_own_summary :
    Along Service.step StoresOwn .new (sends device owner device ++ [op (.bridge 1)]) ∧
      (((sends device owner device ++ [op (.bridge 1)]).foldl Service.step .new).db.sessions.get?
        (device, "CODEX_DESKTOP", "t")).isSome :=
  ⟨messages_store_own _ (by decide +kernel), by decide +kernel⟩

open Reconnecting Summaries in
/-- A batch whose first summary names another device is stored under that
device. -/
theorem foreign_summary_is_stored :
    ¬ ∀ steps : List ServiceStep, Along Service.step StoresOwn .new steps := by
  intro claim
  have stores := (claim (sends (.ofLast 'e') (.ofLast 'f') device ++ [op (.bridge 1)])).at_step
  have rows := (stores 1 ⟨.ofLast 'e', .ofLast 'f', 1,
    .storing (batch device) device [⟨some ⟨device.text, 1, "t", ""⟩, ""⟩]⟩ rfl (by decide +kernel)
    rfl).1 (device, "CODEX_DESKTOP", "t") (by decide +kernel)
  have isStored := congrArg Option.isSome rows
  revert isStored
  decide +kernel

end AgentConsole.Relay
