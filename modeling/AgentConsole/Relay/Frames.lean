import AgentConsole.Relay.Connections
import AgentConsole.Relay.Service

/-! # What the steps of the tasks keep

The handlers of commands take turns with the other tasks, which leave them alone; a task
opens no connection, and closes at most its own.  No statement deletes a row: the receipt
of a request keeps the columns a repetition is compared with, and a session keeps its row
id, so that a lookup that succeeded once gives the same answer later. -/

namespace AgentConsole.Relay

open AgentConsole.Lib

/-! ## Growing databases -/

/-- The columns of a receipt that a repetition is compared with. -/
structure ReceiptRow.Same (row row' : ReceiptRow) : Prop where
  ownerId : row'.ownerId = row.ownerId
  sessionId : row'.sessionId = row.sessionId
  operation : row'.operation = row.operation
  payloadDigest : row'.payloadDigest = row.payloadDigest

namespace Database

structure Extends (db db' : Database) : Prop where
  receipts : ∀ requestId row, db.receipts.get? requestId = some row →
    ∃ row', db'.receipts.get? requestId = some row' ∧ row.Same row'
  sessions : ∀ device agentKind nativeSessionId id,
    db.findSession device agentKind nativeSessionId = some id →
      db'.findSession device agentKind nativeSessionId = some id

variable {db : Database}

theorem Extends.of_tables {db' : Database} (receipts : db'.receipts = db.receipts)
    (sessions : db'.sessions = db.sessions) : Extends db db' where
  receipts := fun _ row found => ⟨row, receipts ▸ found, rfl, rfl, rfl, rfl⟩
  sessions := fun _ _ _ _ found => by
    unfold findSession at found ⊢
    rw [sessions]
    exact found

theorem Extends.refl (db : Database) : Extends db db := .of_tables rfl rfl

theorem extends_upsertSummary (device fresh : Uuid) (summary : SessionSummary) :
    Extends db (db.upsertSummary device fresh summary).1 := by
  unfold upsertSummary
  split
  · exact .refl db
  · next key _ =>
    split
    · refine ⟨fun _ row found => ⟨row, found, rfl, rfl, rfl, rfl⟩, ?_⟩
      intro device' agentKind nativeSessionId id found
      unfold findSession at found ⊢
      rw [FiniteMap.get?_insert]
      split
      · next same => simp [← same, found]
      · exact found
    · exact .refl db

theorem extends_setDeviceConnection (device : Uuid) (connection : DeviceConnection) :
    Extends db (db.setDeviceConnection device connection) := by
  refine ⟨fun _ row found => ⟨row, found, rfl, rfl, rfl, rfl⟩, ?_⟩
  intro device' agentKind nativeSessionId id found
  unfold findSession setDeviceConnection at *
  rw [FiniteMap.get?_mapVal, Option.map_map]
  rw [← found]
  congr 1
  funext row
  dsimp only [Function.comp_apply]
  split <;> rfl

theorem extends_updateReceipt (requestId : String) (status : ReceiptStatus)
    (errorCode : StableErrorCode) : Extends db (db.updateReceipt requestId status errorCode) := by
  refine ⟨?_, fun _ _ _ _ found => found⟩
  intro requestId' row found
  simp only [updateReceipt, FiniteMap.get?_modify]
  split
  · next same =>
    refine ⟨{ row with status, errorCode }, ?_, rfl, rfl, rfl, rfl⟩
    rw [← same, found]
    rfl
  · exact ⟨row, found, rfl, rfl, rfl, rfl⟩

theorem extends_insertReceipt (requestId : String) (row : ReceiptRow) :
    Extends db (db.insertReceipt requestId row).1 := by
  unfold insertReceipt
  split
  · exact .refl db
  · next fresh =>
    refine ⟨?_, fun _ _ _ _ found => found⟩
    intro requestId' row' found
    refine ⟨row', ?_, rfl, rfl, rfl, rfl⟩
    rw [FiniteMap.get?_insert, if_neg ?_]
    · exact found
    · rintro rfl
      exact fresh (by simp [FiniteMap.contains, found])

end Database

/-! ## Steps of the tasks -/

namespace Service

variable {w : Service}

theorem bridgeStep_undisturbed (env : ServiceCtx) (id : Nat) (task : BridgeTask) :
    Undisturbed w.hub (w.bridgeStep env id task).hub := by
  unfold bridgeStep
  split
  · exact ⟨rfl, rfl⟩
  · exact ⟨rfl, rfl⟩
  · exact HubInner.ensureBindings_undisturbed _ _ _
  · exact .refl _
  · exact HubInner.sendToBridge_undisturbed _ _ _
  · exact .refl _
  · exact HubInner.fanOutPresence_undisturbed _ _ _ _
  · exact .refl _
  · exact .refl _
  · dsimp only
    split <;> exact .refl _
  · exact HubInner.handleBridgeEnvelope_undisturbed _ _ _
  · unfold setBridge updateReceipt
    split <;> exact .refl _
  · exact HubInner.removeBridge_undisturbed _ _
  · exact .refl _
  · exact HubInner.fanOutPresence_undisturbed _ _ _ _
  · exact .refl _
  · unfold setBridge updateReceipt
    split <;> exact .refl _

/-- What a handler of a command does to the hub: nothing to the connections, or it
closes its own. -/
theorem commandStep_hub (env : ServiceCtx) (id : Nat) (task : CommandTask) :
    Undisturbed w.hub (w.commandStep env id task).hub ∨
      (w.commandStep env id task).hub = w.hub.closeBrowser task.conn := by
  obtain ⟨conn, ident, request, phase⟩ := task
  unfold commandStep
  cases phase with
  | checkExpiry =>
    dsimp only
    split
    · exact .inr rfl
    · split <;> exact .inl (.refl _)
  | send device =>
    left
    have sent : Undisturbed w.hub (w.hub.sendToBridge env.ctx device
        { baseEnvelope env.ctx.now device.text (.commandRequest request) with
          correlationId := request.requestId }).1 :=
      HubInner.sendToBridge_undisturbed _ _ _
    dsimp only
    split <;> exact ⟨sent.idents, sent.degraded⟩
  | reject =>
    left
    exact updateReceipt_hub env _ w ▸ .refl _
  | reply result => exact .inl (HubInner.reply_undisturbed conn _ w.hub)
  | rejectedReply => exact .inl (HubInner.reply_undisturbed conn _ w.hub)
  | register device => exact .inl ⟨rfl, rfl⟩
  | takeBack => exact .inl ⟨rfl, rfl⟩
  | _ =>
    left
    dsimp only
    repeat' split
    all_goals exact .refl _

theorem bridgeStep_frame (env : ServiceCtx) (id : Nat) (task : BridgeTask) :
    (w.bridgeStep env id task).commands = w.commands ∧
      (w.bridgeStep env id task).dispatched = w.dispatched := by
  unfold bridgeStep setBridge updateReceipt
  dsimp only
  repeat' split
  all_goals exact ⟨rfl, rfl⟩

/-- Only the sending step of a handler hands a command over. -/
theorem commandStep_dispatched (env : ServiceCtx) (id : Nat) (task : CommandTask)
    (other : task.phase.sends = false) :
    (w.commandStep env id task).dispatched = w.dispatched := by
  obtain ⟨conn, ident, request, phase⟩ := task
  unfold commandStep
  cases phase with
  | send device => cases other
  | reject =>
    dsimp only
    unfold updateReceipt
    split <;> rfl
  | _ =>
    dsimp only
    repeat' split
    all_goals rfl

/-- The handlers of commands are started by their requests and moved by their own steps. -/
theorem step_commands {s : ServiceStep} (request : ∀ id conn request, s.op ≠ .request id conn request)
    (command : ∀ id, s.op ≠ .command id) : (w.step s).commands = w.commands := by
  obtain ⟨env, op⟩ := s
  unfold step
  cases op with
  | request id conn request' => exact absurd rfl (request id conn request')
  | command id => exact absurd rfl (command id)
  | bridge id =>
    dsimp only
    split
    · exact (bridgeStep_frame env id _).1
    · rfl
  | shutdownReceipt =>
    dsimp only
    unfold updateReceipt
    repeat' split
    all_goals rfl
  | _ =>
    dsimp only
    repeat' split
    all_goals rfl

/-- No step but the registration of a connection opens one. -/
theorem step_idents {s : ServiceStep} {conn : Uuid} {ident : BrowserIdentity}
    (after : idents (w.step s).hub.browsers conn = some ident) :
    idents w.hub.browsers conn = some ident ∨
      ∃ other, s.op = .hub (.registerBrowser conn ident) other := by
  obtain ⟨env, op⟩ := s
  have same {h' : HubInner} (undisturbed : Undisturbed w.hub h')
      (after : idents h'.browsers conn = some ident) : idents w.hub.browsers conn = some ident :=
    undisturbed.idents ▸ after
  unfold step at after
  cases op with
  | hub op other =>
    rcases HubInner.step_idents after with before | opened
    · exact .inl before
    · subst opened
      exact .inr ⟨other, rfl⟩
  | bridge id =>
    left
    dsimp only at after
    split at after
    · exact same (bridgeStep_undisturbed env id _) after
    · exact after
  | command id =>
    left
    dsimp only at after
    split at after
    · next task _ =>
      rcases commandStep_hub env id task with undisturbed | closed
      · exact same undisturbed after
      · rw [closed, HubInner.closeBrowser_idents] at after
        split at after
        · cases after
        · exact after
    · exact after
  | beginShutdown => exact .inl (same (HubInner.beginShutdown_undisturbed w.hub) after)
  | shutdownReceipt =>
    left
    dsimp only at after
    split at after
    · exact after
    · simpa using after
  | _ =>
    left
    dsimp only at after
    repeat' split at after
    all_goals exact after

/-- Only `set_degraded` changes the degraded mark. -/
theorem step_degraded (s : ServiceStep)
    (kept : ∀ degradedUntil other, s.op ≠ .hub (.setDegraded degradedUntil) other) :
    (w.step s).hub.degradedUntil = w.hub.degradedUntil := by
  obtain ⟨env, op⟩ := s
  unfold step
  cases op with
  | hub op other =>
    apply HubInner.step_degraded
    rintro degradedUntil rfl
    exact kept degradedUntil other rfl
  | bridge id =>
    dsimp only
    split
    · exact (bridgeStep_undisturbed env id _).degraded
    · rfl
  | command id =>
    dsimp only
    split
    · next task _ =>
      rcases commandStep_hub env id task with undisturbed | closed
      · exact undisturbed.degraded
      · rw [closed, HubInner.closeBrowser_degraded]
    · rfl
  | beginShutdown => exact (HubInner.beginShutdown_undisturbed w.hub).degraded
  | shutdownReceipt =>
    dsimp only
    split
    · rfl
    · simp
  | _ =>
    dsimp only
    repeat' split
    all_goals rfl

theorem extends_of_updateReceipt (env : ServiceCtx) (write : ReceiptWrite) :
    w.db.Extends (w.updateReceipt env write).db := by
  unfold updateReceipt
  split
  · exact Database.extends_updateReceipt _ _ _
  · exact .refl _

theorem bridgeStep_extends (env : ServiceCtx) (id : Nat) (task : BridgeTask) :
    w.db.Extends (w.bridgeStep env id task).db := by
  unfold bridgeStep
  split
  case h_6 | h_14 =>
    dsimp only [setBridge]
    split
    · exact Database.extends_setDeviceConnection _ _
    · exact .refl _
  case h_10 =>
    dsimp only
    split
    · exact Database.extends_upsertSummary _ _ _
    · exact .refl _
  case h_12 | h_17 => exact extends_of_updateReceipt env _
  all_goals exact .refl _

theorem commandStep_extends (env : ServiceCtx) (id : Nat) (task : CommandTask) :
    w.db.Extends (w.commandStep env id task).db := by
  obtain ⟨conn, ident, request, phase⟩ := task
  unfold commandStep
  cases phase with
  | insertReceipt device session =>
    dsimp only
    split
    · split
      · exact Database.extends_insertReceipt _ _
      · exact .refl _
    · exact .refl _
  | reject => exact extends_of_updateReceipt env _
  | _ =>
    dsimp only
    repeat' split
    all_goals exact .refl _

/-- Every step extends the database. -/
theorem step_extends (s : ServiceStep) : w.db.Extends (w.step s).db := by
  obtain ⟨env, op⟩ := s
  unfold step
  cases op with
  | bridge id =>
    dsimp only
    split
    · exact bridgeStep_extends env id _
    · exact .refl _
  | command id =>
    dsimp only
    split
    · exact commandStep_extends env id _
    · exact .refl _
  | setDevice device row => exact .of_tables rfl rfl
  | shutdownReceipt =>
    dsimp only
    split
    · exact .refl _
    · exact extends_of_updateReceipt env _
  | _ =>
    dsimp only
    repeat' split
    all_goals exact .refl _

end Service

end AgentConsole.Relay
