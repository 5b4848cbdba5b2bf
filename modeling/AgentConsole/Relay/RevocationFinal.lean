import AgentConsole.Lib.Run
import AgentConsole.Relay.Persistence
import AgentConsole.Relay.Revocation

/-! # When a revocation is final

After the answer of `revoke_device` the row is revoked for good, so that no new
connection passes the credential check.  What is left are the connections that
passed it before: the revocation is final exactly when each of them has ended by
then, for a connection that waits for its hello still registers, and a session
that is asked to close still reads on. -/

namespace AgentConsole.Relay

open AgentConsole.Lib

/-! ## Registered sessions -/

namespace HubInner

variable {ctx : Ctx}

/-- Which devices have a registered session. -/
def online (h : HubInner) (device : Uuid) : Bool := h.isOnline device

theorem sendToBridge_online (device : Uuid) (env : Envelope) (h : HubInner) :
    (h.sendToBridge ctx device env).1.online = h.online := by
  unfold sendToBridge
  split
  · rfl
  · next conn found =>
    funext other
    simp only [online, isOnline, FiniteMap.contains, FiniteMap.get?_insert]
    split
    · next same => rw [same, found]; rfl
    · rfl

theorem sendAll_online (envs : List (Uuid × Envelope)) (h : HubInner) :
    (h.sendAll ctx envs).online = h.online := by
  unfold sendAll
  apply foldl_unchanged _ online
  intro h e
  exact sendToBridge_online e.1 e.2 h

theorem updateStream_online (key : DKey) (op : StreamCell → StreamCell) (h : HubInner) :
    (h.updateStream key op).1.online = h.online := by
  unfold updateStream
  split <;> rfl

theorem onStream_online (key : DKey) (op : StreamCell → StreamCell) (h : HubInner) :
    (h.onStream ctx key op).online = h.online :=
  (sendAll_online _ _).trans (updateStream_online key op h)

theorem onUpstream_online (upstreamId : String) (op : StreamCell → StreamCell) (h : HubInner) :
    (h.onUpstream ctx upstreamId op).online = h.online := by
  unfold onUpstream
  split
  · rfl
  · exact onStream_online _ _ h

theorem ensureStream_online (key : DKey) (fresh : Uuid) (h : HubInner) :
    (h.ensureStream key fresh).online = h.online := by
  unfold ensureStream
  split <;> rfl

theorem removeBrowser_online (conn : Uuid) (h : HubInner) :
    (h.removeBrowser conn).online = h.online := by
  unfold removeBrowser detachSubscriber
  split <;> rfl

theorem subscribeUpstream_online (key : DKey) (fresh : Uuid) (h : HubInner)
    (need : Uuid × TargetTag) : (subscribeUpstream ctx key fresh h need).online = h.online := by
  have bound : ((h.ensureStream key fresh).onStream ctx key
      (·.subscribeUpstream ctx need)).online = h.online :=
    (onStream_online key _ _).trans (ensureStream_online key fresh h)
  unfold subscribeUpstream
  dsimp only
  split
  · exact bound
  · exact bound

theorem ensureBindings_online (device owner : Uuid) (h : HubInner) :
    (h.ensureBindings ctx device owner).1.online = h.online := by
  refine foldl_unchanged (ensureBinding ctx device) (fun acc => acc.1.online)
    (fun acc key => ?_) _ (h, [])
  unfold ensureBinding
  dsimp only
  split
  · rfl
  · exact updateStream_online _ _ _

theorem fanOutPresence_online (device owner : Uuid) (present : Bool) (h : HubInner) :
    (h.fanOutPresence ctx device owner present).online = h.online :=
  foldl_unchanged _ online (fun h key => onStream_online key _ h) _ h

theorem handleUpstreamSnapshot_online (upstreamId : String) (env : Envelope) (h : HubInner) :
    (h.handleUpstreamSnapshot ctx upstreamId env).online = h.online := by
  unfold handleUpstreamSnapshot
  split
  · rfl
  · next key _ =>
    rw [foldl_unchanged (flushBatch ctx key) online, onStream_online]
    intro h batch
    unfold flushBatch
    dsimp only
    split
    · rfl
    · exact onUpstream_online _ _ h

theorem handleBridgeEnvelope_online (device : Uuid) (env : Envelope) (h : HubInner) :
    (h.handleBridgeEnvelope ctx device env).online = h.online := by
  unfold handleBridgeEnvelope
  split
  · exact sendToBridge_online device _ h
  · exact onUpstream_online _ _ h
  · exact handleUpstreamSnapshot_online _ _ h
  · split
    · exact handleUpstreamSnapshot_online _ _ h
    · exact onUpstream_online _ _ h
  · exact onUpstream_online _ _ h
  · unfold onCommandAccepted
    split <;> rfl
  · unfold onCommandResult
    split
    · rfl
    · dsimp only
      split <;> rfl
  · rfl
  · exact onUpstream_online _ _ h
  · rfl

theorem abandon_online (pending : List (String × PendingCommand)) (h : HubInner) :
    (pending.foldl (abandonCommand ctx) h).online = h.online :=
  foldl_unchanged (abandonCommand ctx) online (fun _ _ => rfl) pending h

theorem beginShutdown_online (h : HubInner) : (h.beginShutdown ctx).1.online = h.online :=
  abandon_online _ _

theorem removeBridge_online (device other : Uuid) (h : HubInner) :
    (h.removeBridge ctx device).1.online other = if other = device then false else h.online other := by
  unfold removeBridge
  dsimp only
  rw [abandon_online]
  simp only [online, isOnline, FiniteMap.contains, FiniteMap.get?_erase]
  split <;> rfl

theorem modify_online {f : BridgeConn → BridgeConn} (device : Uuid) (h : HubInner) :
    online { h with bridges := h.bridges.modify device f } = h.online := by
  funext other
  simp only [online, isOnline, FiniteMap.contains, FiniteMap.get?_modify]
  split
  · next same => rw [same, Option.isSome_map]
  · rfl

/-- The sections of the other tasks register no session and remove none. -/
theorem step_online {op : HubOp} (other : op.ofTask = false) (h : HubInner) :
    (h.step ⟨ctx, op⟩).online = h.online := by
  unfold step
  cases op with
  | closeBrowser conn =>
    dsimp only [closeBrowser]
    split
    · exact removeBrowser_online conn h
    · rfl
  | closeAllBrowsers =>
    exact foldl_unchanged _ online (fun h conn => removeBrowser_online conn h) _ h
  | removeBrowser conn => exact removeBrowser_online conn h
  | sendToBridge device env => exact sendToBridge_online device env h
  | forceCloseBridge device => exact modify_online device h
  | bridgeWriterGone device => exact modify_online device h
  | subscribeBind conn key needs fresh =>
    dsimp only [subscribeBind]
    split
    · exact foldl_unchanged _ online (fun h need => subscribeUpstream_online key fresh h need) _ h
    · rfl
  | subscribeAttach conn key correlation fresh =>
    dsimp only [subscribeAttach]
    split
    · exact (onStream_online key _ _).trans (ensureStream_online key fresh h)
    · rfl
  | browserUnsubscribe conn streamId =>
    dsimp only [browserUnsubscribe]
    split
    · rfl
    · exact onStream_online _ _ h
  | browserResync conn streamId correlation =>
    dsimp only [browserResync]
    split
    · rfl
    · exact onStream_online _ _ h
  | browserAck conn streamId sequence =>
    dsimp only [browserAck]
    split
    · rfl
    · exact onStream_online _ _ h
  | sweepGlobalMemory order =>
    dsimp only [sweepGlobalMemory]
    split
    · split
      · exact onStream_online _ _ _
      · rfl
    · rfl
  | registerBridge | ensureBindings | removeBridge | beginShutdown | bridgeEnvelope
  | fanOutPresence | registerCommand | takeCommand | commandReply => cases other
  | _ => rfl

end HubInner

/-! ## Sessions that have left their loop -/

/-- The session has left its loop. -/
def BridgePhase.gone : BridgePhase → Bool
  | .removeBridge | .setOffline _ | .presenceOffline _ | .finalising _ => true
  | _ => false

namespace Service

variable {w : Service} {device : Uuid}

@[simp] theorem updateReceipt_devices (env : ServiceCtx) (write : ReceiptWrite) :
    (w.updateReceipt env write).db.devices = w.db.devices := by
  unfold updateReceipt
  split <;> rfl

theorem upsertSummary_devices (fresh : Uuid) (summary : SessionSummary) (db : Database) :
    (db.upsertSummary device fresh summary).1.devices = db.devices := by
  unfold Database.upsertSummary
  split
  · rfl
  · split <;> rfl

/-- A session that left its loop stays away. -/
theorem bridgeStep_session (env : ServiceCtx) (id : Nat) (task : BridgeTask) :
    ∃ after : BridgeTask, ((w.bridgeStep env id task).bridges = w.bridges.insert id after ∨
        (w.bridgeStep env id task).bridges = w.bridges) ∧ after.device = task.device ∧
      (task.phase.gone = true → after.phase.gone = true) := by
  have stays {phase : BridgePhase} {q : Prop} (reached : task.phase = phase)
      (here : phase.gone = false) (gone : task.phase.gone = true) : q := by
    rw [reached, here] at gone
    cases gone
  unfold bridgeStep
  split
  case h_1 reached => exact ⟨_, .inl rfl, rfl, stays reached rfl⟩
  case h_2 reached => exact ⟨_, .inl rfl, rfl, stays reached rfl⟩
  case h_3 reached => exact ⟨_, .inl rfl, rfl, stays reached rfl⟩
  case h_4 reached => exact ⟨_, .inl rfl, rfl, stays reached rfl⟩
  case h_5 reached => exact ⟨_, .inl rfl, rfl, stays reached rfl⟩
  case h_6 reached => exact ⟨_, .inl rfl, rfl, stays reached rfl⟩
  case h_7 reached => exact ⟨_, .inl rfl, rfl, stays reached rfl⟩
  case h_8 => exact ⟨task, .inr rfl, rfl, fun gone => gone⟩
  case h_9 reached => exact ⟨_, .inl rfl, rfl, stays reached rfl⟩
  case h_10 reached =>
    dsimp only
    split <;> exact ⟨_, .inl rfl, rfl, stays reached rfl⟩
  case h_11 reached => exact ⟨_, .inl rfl, rfl, stays reached rfl⟩
  case h_12 reached =>
    refine ⟨{ task with phase := .reading }, .inl ?_, rfl, stays reached rfl⟩
    rw [setBridge, updateReceipt_bridges]
  case h_13 => exact ⟨_, .inl rfl, rfl, fun _ => rfl⟩
  case h_14 => exact ⟨_, .inl rfl, rfl, fun _ => rfl⟩
  case h_15 => exact ⟨_, .inl rfl, rfl, fun _ => rfl⟩
  case h_16 => exact ⟨task, .inr rfl, rfl, fun gone => gone⟩
  case h_17 requestId rest _ =>
    have gone : (BridgePhase.finalising rest).gone = true := rfl
    refine ⟨{ task with phase := .finalising rest }, .inl ?_, rfl, fun _ => gone⟩
    rw [setBridge, updateReceipt_bridges]

/-- Only a registration makes its device online. -/
theorem bridgeStep_online (env : ServiceCtx) (id : Nat) (task : BridgeTask) {other : Uuid}
    (after : (w.bridgeStep env id task).hub.online other = true) :
    w.hub.online other = true ∨ other = task.device ∧ task.phase.gone = false := by
  have keep {h : HubInner} (same : h.online = w.hub.online) (after : h.online other = true) :
      w.hub.online other = true := same ▸ after
  unfold bridgeStep at after
  split at after
  · exact .inl (keep (HubInner.modify_online _ _) after)
  · next reached =>
    by_cases same : other = task.device
    · exact .inr ⟨same, by rw [reached]; rfl⟩
    · left
      simpa [setBridge, HubInner.online, HubInner.isOnline, HubInner.registerBridge,
        FiniteMap.contains, FiniteMap.get?_insert, same] using after
  · exact .inl (keep (HubInner.ensureBindings_online _ _ _) after)
  · exact .inl after
  · exact .inl (keep (HubInner.sendToBridge_online _ _ _) after)
  · exact .inl after
  · exact .inl (keep (HubInner.fanOutPresence_online _ _ _ _) after)
  · exact .inl after
  · exact .inl after
  · dsimp only at after
    split at after <;> exact .inl after
  · exact .inl (keep (HubInner.handleBridgeEnvelope_online _ _ _) after)
  · exact .inl (by simpa [setBridge] using after)
  · left
    have after : (w.hub.removeBridge env.ctx task.device).1.online other = true := after
    rw [HubInner.removeBridge_online] at after
    split at after
    · cases after
    · exact after
  · exact .inl after
  · exact .inl (keep (HubInner.fanOutPresence_online _ _ _ _) after)
  · exact .inl after
  · exact .inl (by simpa [setBridge] using after)

theorem bridgeStep_devices (env : ServiceCtx) (id : Nat) (task : BridgeTask) :
    (w.bridgeStep env id task).db.devices = w.db.devices := by
  unfold bridgeStep
  split
  · rfl
  · rfl
  · rfl
  · rfl
  · rfl
  · dsimp only [setBridge]
    split <;> rfl
  · rfl
  · rfl
  · rfl
  · dsimp only
    split
    · exact upsertSummary_devices _ _ _
    · rfl
  · rfl
  · exact updateReceipt_devices env _
  · rfl
  · dsimp only [setBridge]
    split <;> rfl
  · rfl
  · rfl
  · exact updateReceipt_devices env _

theorem commandStep_rest (env : ServiceCtx) (id : Nat) (task : CommandTask) :
    (w.commandStep env id task).bridges = w.bridges ∧
      (w.commandStep env id task).hub.online = w.hub.online ∧
      (w.commandStep env id task).db.devices = w.db.devices := by
  obtain ⟨conn, ident, request, phase⟩ := task
  unfold commandStep
  cases phase with
  | checkExpiry =>
    dsimp only
    split
    · refine ⟨rfl, ?_, rfl⟩
      dsimp only [setCommand, HubInner.closeBrowser]
      split
      · exact HubInner.removeBrowser_online conn w.hub
      · rfl
    · split <;> exact ⟨rfl, rfl, rfl⟩
  | send device =>
    dsimp only
    split <;> exact ⟨rfl, HubInner.sendToBridge_online device _ w.hub, rfl⟩
  | reject =>
    dsimp only
    unfold updateReceipt
    split <;> exact ⟨rfl, rfl, rfl⟩
  | insertReceipt device session =>
    dsimp only
    split
    · split
      · refine ⟨rfl, rfl, ?_⟩
        dsimp only [setCommand, Database.insertReceipt]
        split <;> rfl
      · exact ⟨rfl, rfl, rfl⟩
    · exact ⟨rfl, rfl, rfl⟩
  | _ =>
    dsimp only
    repeat' split
    all_goals exact ⟨rfl, rfl, rfl⟩

/-- The rows of the devices are set from outside only. -/
theorem step_devices (s : ServiceStep) (other : ∀ d row, s.op ≠ .setDevice d row) :
    (w.step s).db.devices = w.db.devices := by
  obtain ⟨env, op⟩ := s
  unfold step
  cases op with
  | setDevice d row => exact absurd rfl (other d row)
  | bridge id =>
    dsimp only
    split
    · exact bridgeStep_devices env id _
    · rfl
  | command id =>
    dsimp only
    split
    · exact (commandStep_rest env id _).2.2
    · rfl
  | shutdownReceipt =>
    dsimp only
    split
    · rfl
    · simp
  | _ =>
    dsimp only
    repeat' split
    all_goals rfl

/-- All sessions of the device have left their loops. -/
def AllGone (device : Uuid) (w : Service) : Prop :=
  ∀ id task, w.bridges.get? id = some task → task.device = device → task.phase.gone = true

/-- Sessions that have left stay away, and without another one the device stays
offline. -/
theorem step_allGone {s : ServiceStep} (all : AllGone device w)
    (offline : w.hub.online device = false) (other : ∀ id d o, s.op ≠ .accept id d o) :
    AllGone device (w.step s) ∧ (w.step s).hub.online device = false := by
  obtain ⟨env, op⟩ := s
  have stay {h : HubInner} (same : h.online = w.hub.online) : h.online device = false :=
    same ▸ offline
  unfold step
  cases op with
  | accept id d o => exact absurd rfl (other id d o)
  | hub op task => exact ⟨all, stay (HubInner.step_online task w.hub)⟩
  | receive id message =>
    dsimp only
    split
    · next task found =>
      split
      · next reading =>
        refine ⟨?_, offline⟩
        intro id' task' found' of
        rw [setBridge, FiniteMap.get?_insert] at found'
        split at found'
        · cases found'
          have left := all id task found of
          rw [reading] at left
          cases left
        · exact all id' task' found' of
      · exact ⟨all, offline⟩
    · exact ⟨all, offline⟩
  | hangUp id =>
    dsimp only
    split
    · next task found =>
      split
      · refine ⟨?_, offline⟩
        intro id' task' found' of
        rw [setBridge, FiniteMap.get?_insert] at found'
        split at found'
        · cases found'
          rfl
        · exact all id' task' found' of
      · exact ⟨all, offline⟩
    · exact ⟨all, offline⟩
  | bridge id =>
    dsimp only
    split
    · next task found =>
      constructor
      · obtain ⟨after, bridges, same, gone⟩ := bridgeStep_session (w := w) env id task
        rcases bridges with bridges | bridges
        · intro id' task' found' of
          rw [bridges, FiniteMap.get?_insert] at found'
          split at found'
          · cases found'
            exact gone (all id task found (same.symm.trans of))
          · exact all id' task' found' of
        · intro id' task' found' of
          exact all id' task' (bridges ▸ found') of
      · by_contra online
        rcases bridgeStep_online env id task (by simpa using online) with before | ⟨of, here⟩
        · rw [offline] at before
          cases before
        · rw [all id task found of.symm] at here
          cases here
    · exact ⟨all, offline⟩
  | command id =>
    dsimp only
    split
    · obtain ⟨bridges, online, -⟩ := commandStep_rest (w := w) env id ‹_›
      exact ⟨fun id' task' found' => all id' task' (bridges ▸ found'), stay online⟩
    · exact ⟨all, offline⟩
  | beginShutdown => exact ⟨all, stay (HubInner.beginShutdown_online w.hub)⟩
  | shutdownReceipt =>
    dsimp only
    unfold updateReceipt
    repeat' split
    all_goals exact ⟨all, offline⟩
  | _ =>
    dsimp only
    repeat' split
    all_goals exact ⟨all, offline⟩

/-- Only an accepted connection starts a session. -/
theorem step_absent {s : ServiceStep} {conn : Nat} (other : ∀ id d o, s.op ≠ .accept id d o)
    (absent : w.bridges.get? conn = none) : (w.step s).bridges.get? conn = none := by
  obtain ⟨env, op⟩ := s
  have moved {id : Nat} {task after : BridgeTask} (found : w.bridges.get? id = some task) :
      (w.bridges.insert id after).get? conn = none := by
    rw [FiniteMap.get?_insert, if_neg ?_, absent]
    rintro rfl
    cases absent.symm.trans found
  unfold step
  cases op with
  | accept id d o => exact absurd rfl (other id d o)
  | receive id message | hangUp id =>
    dsimp only
    split
    · next task found =>
      split
      · exact moved found
      · exact absent
    · exact absent
  | bridge id =>
    dsimp only
    split
    · next task found =>
      obtain ⟨after, bridges, -⟩ := bridgeStep_session (w := w) env id task
      rcases bridges with bridges | bridges
      · rw [bridges]
        exact moved found
      · rw [bridges]
        exact absent
    · exact absent
  | command id =>
    dsimp only
    split
    · rw [(commandStep_rest (w := w) env id _).1]
      exact absent
    · exact absent
  | shutdownReceipt =>
    dsimp only
    split
    · exact absent
    · simpa using absent
  | _ =>
    dsimp only
    repeat' split
    all_goals exact absent

end Service

/-! ## What is promised -/

namespace Fleet

variable {s : Fleet} {device : Uuid}

/-- No session of the device is registered, and none is at work on a message. -/
def FinalFor (device : Uuid) (s : Fleet) : Prop :=
  s.service.hub.isOnline device = false ∧
    ∀ id task, s.service.bridges.get? id = some task → task.device = device →
      task.phase.onMessage = false

/-- Every connection of the device that passed the credential check has ended:

* none waits for its hello;
* all sessions have left their loops;
* none is registered. -/
structure Drained (device : Uuid) (s : Fleet) : Prop where
  upgrades : ∀ conn entry, s.upgrades.get? conn = some entry → entry.1 ≠ device
  sessions : Service.AllGone device s.service
  registry : s.service.hub.isOnline device = false

/-- The row of the device is revoked. -/
def RowRevoked (device : Uuid) (s : Fleet) : Prop :=
  ∃ row, s.devices.get? device = some row ∧ row.revoked = true

theorem Drained.finalFor (drained : Drained device s) : FinalFor device s := by
  refine ⟨drained.registry, ?_⟩
  intro id task found of
  have gone := drained.sessions id task found of
  unfold BridgePhase.gone at gone
  split at gone
  · next reached => rw [reached]; rfl
  · next reached => rw [reached]; rfl
  · next reached => rw [reached]; rfl
  · next reached => rw [reached]; rfl
  · cases gone

/-! ## Nothing new comes -/

theorem devices_stepService (step : ServiceStep) : (s.stepService step).devices = s.devices := by
  unfold stepService
  split
  · rfl
  · rfl
  · next notSet => exact Service.step_devices step fun d row same => notSet d row same

/-- A revoked row stays revoked. -/
theorem RowRevoked.step (revoked : RowRevoked device s) (i : FleetInput) :
    RowRevoked device (s.step i) := by
  obtain ⟨row, found, marked⟩ := revoked
  have keep {s' : Fleet} (same : s'.devices = s.devices) : RowRevoked device s' :=
    ⟨row, same ▸ found, marked⟩
  unfold Fleet.step
  cases i with
  | service step => exact keep (devices_stepService step)
  | pair d owner =>
    dsimp only
    split
    · exact keep rfl
    · next absent =>
      refine ⟨row, ?_, marked⟩
      have other : device ≠ d := by
        rintro rfl
        exact absent (by simp [FiniteMap.contains, found])
      simp only [setDevice, devices, FiniteMap.get?_insert, if_neg other]
      exact found
  | connect conn d dbOk =>
    dsimp only [connect]
    repeat' split
    all_goals exact keep rfl
  | hello conn accepted =>
    dsimp only [hello]
    split
    · split
      · exact keep (Service.step_devices _ (by simp))
      · exact keep rfl
    · exact keep rfl
  | revoke id owner d =>
    dsimp only
    split <;> exact keep rfl
  | advance id dbOk =>
    dsimp only [advance]
    split
    · next owner d _ =>
      split
      · next row' kept =>
        split
        · by_cases same : device = d
          · exact ⟨{ row' with revoked := true }, by simp [setDevice, devices, same], rfl⟩
          · refine ⟨row, ?_, marked⟩
            simp only [setDevice, devices, FiniteMap.get?_insert, if_neg same]
            exact found
        · exact keep rfl
      · exact keep rfl
    · exact keep rfl
    · exact keep rfl
    · exact keep rfl

theorem Drained.of_same {s' : Fleet} (drained : Drained device s) (upgrades : s'.upgrades = s.upgrades)
    (service : s'.service = s.service) : Drained device s' :=
  ⟨upgrades ▸ drained.upgrades, service ▸ drained.sessions, service ▸ drained.registry⟩

/-- With a revoked row, a device whose connections have ended gets no new one. -/
theorem Drained.step (drained : Drained device s) (revoked : RowRevoked device s)
    (i : FleetInput) : Drained device (s.step i) := by
  unfold Fleet.step
  cases i with
  | service step =>
    dsimp only [stepService]
    split
    · exact drained
    · exact drained
    · next notAccept _ =>
      obtain ⟨sessions, registry⟩ := Service.step_allGone (s := step) drained.sessions
        drained.registry fun id d o same => notAccept id d o same
      exact ⟨drained.upgrades, sessions, registry⟩
  | pair d owner =>
    dsimp only
    split
    · exact drained
    · exact ⟨drained.upgrades, drained.sessions, drained.registry⟩
  | connect conn d dbOk =>
    dsimp only [connect]
    split
    · exact drained
    · split
      · next row found =>
        split
        · next accepted =>
          refine ⟨?_, drained.sessions, drained.registry⟩
          intro conn' entry found'
          rw [FiniteMap.get?_insert] at found'
          split at found'
          · cases found'
            rintro rfl
            obtain ⟨row', found'', marked⟩ := revoked
            cases found.symm.trans found''
            simp [marked] at accepted
          · exact drained.upgrades conn' entry found'
        · exact drained
      · exact drained
  | hello conn accepted =>
    dsimp only [hello]
    split
    · next d owner waiting =>
      have upgrades : ∀ conn' entry, (s.upgrades.erase conn).get? conn' = some entry →
          entry.1 ≠ device := by
        intro conn' entry found
        rw [FiniteMap.get?_erase] at found
        split at found
        · cases found
        · exact drained.upgrades conn' entry found
      split
      · refine ⟨upgrades, ?_, ?_⟩
        · intro id task found of
          dsimp only [Service.step] at found
          split at found
          · exact drained.sessions id task found of
          · dsimp only at found
            rw [FiniteMap.get?_insert] at found
            split at found
            · cases found
              exact absurd of (drained.upgrades conn (d, owner) waiting)
            · exact drained.sessions id task found of
        · dsimp only [Service.step]
          split <;> exact drained.registry
      · exact ⟨upgrades, drained.sessions, drained.registry⟩
    · exact drained
  | revoke id owner d =>
    dsimp only
    split <;> exact drained.of_same rfl rfl
  | advance id dbOk =>
    dsimp only [advance]
    split
    · split
      · split
        · exact ⟨drained.upgrades, drained.sessions, drained.registry⟩
        · exact drained.of_same rfl rfl
      · exact drained.of_same rfl rfl
    · next d _ =>
      refine ⟨drained.upgrades, drained.sessions, ?_⟩
      have offline : s.service.hub.online device = false := drained.registry
      exact (congrFun (HubInner.modify_online d s.service.hub) device).trans offline
    · exact drained.of_same rfl rfl
    · exact drained

/-! ## What may still come -/

/-- The row was marked before the revocation goes on, and a connection that waits for
its hello is no session yet. -/
structure Inv (s : Fleet) : Prop where
  revocations : ∀ id d, s.revocations.get? id = some (.forceClose d) ∨
    s.revocations.get? id = some (.audit d) → RowRevoked d s
  waiting : ∀ conn entry, s.upgrades.get? conn = some entry → s.service.bridges.get? conn = none

theorem Inv.new : Inv .new where
  revocations := by simp [Fleet.new]
  waiting := by simp [Fleet.new]

theorem Inv.step (inv : Inv s) (i : FleetInput) : Inv (s.step i) := by
  have revocations {s' : Fleet} (rows : ∀ d, RowRevoked d s → RowRevoked d s')
      (same : s'.revocations = s.revocations) (id : Nat) (d : Uuid)
      (found : s'.revocations.get? id = some (.forceClose d) ∨
        s'.revocations.get? id = some (.audit d)) : RowRevoked d s' :=
    rows d (inv.revocations id d (same ▸ found))
  have rows (d : Uuid) (revoked : RowRevoked d s) : RowRevoked d (s.step i) := revoked.step i
  unfold Fleet.step at rows ⊢
  cases i with
  | service step =>
    dsimp only at rows ⊢
    refine ⟨revocations rows ?_, ?_⟩
    · unfold stepService
      split <;> rfl
    · unfold stepService
      split
      · exact inv.waiting
      · exact inv.waiting
      · next notAccept _ =>
        intro conn entry found
        exact Service.step_absent (fun id d o same => notAccept id d o same)
          (inv.waiting conn entry found)
  | pair d owner =>
    dsimp only at rows ⊢
    split at rows
    · next present =>
      rw [if_pos present]
      exact inv
    · next absent =>
      rw [if_neg absent]
      exact ⟨revocations rows rfl, inv.waiting⟩
  | connect conn d dbOk =>
    dsimp only [connect] at rows ⊢
    split
    · exact inv
    · next fresh =>
      split
      · split
        · refine ⟨revocations (fun _ revoked => revoked) rfl, ?_⟩
          intro conn' entry found
          rw [FiniteMap.get?_insert] at found
          split at found
          · next same =>
            simp only [FiniteMap.contains, Bool.or_eq_true, not_or, Option.not_isSome_iff_eq_none]
              at fresh
            rw [same]
            exact fresh.2
          · exact inv.waiting conn' entry found
        · exact inv
      · exact inv
  | hello conn accepted =>
    dsimp only [hello] at rows ⊢
    split
    · next d' owner waiting =>
      have others {bridges : FiniteMap Nat BridgeTask}
          (same : ∀ other ≠ conn, bridges.get? other = s.service.bridges.get? other) (other : Nat)
          (entry : Uuid × Uuid) (found : (s.upgrades.erase conn).get? other = some entry) :
          bridges.get? other = none := by
        rw [FiniteMap.get?_erase] at found
        split at found
        · cases found
        · next different => rw [same other different, inv.waiting other entry found]
      split
      · refine ⟨revocations (fun d revoked => ?_) rfl, others ?_⟩
        · obtain ⟨row, found, marked⟩ := revoked
          refine ⟨row, ?_, marked⟩
          have same := Service.step_devices (w := s.service)
            ⟨.idle, .accept conn d' owner⟩ (fun _ _ other => by cases other)
          exact (congrArg (fun rows => rows.get? d) same).trans found
        · intro other different
          have absent := inv.waiting conn (d', owner) waiting
          simp [Service.step, FiniteMap.contains, absent, FiniteMap.get?_insert, different]
      · exact ⟨revocations (fun _ revoked => revoked) rfl, others fun _ _ => rfl⟩
    · exact inv
  | revoke id owner d =>
    dsimp only
    split
    · exact inv
    · refine ⟨?_, inv.waiting⟩
      intro id' d' found
      simp only [FiniteMap.get?_insert] at found
      split at found
      · rcases found with found | found <;> cases found
      · exact inv.revocations id' d' found
  | advance id dbOk =>
    have erased (id' : Nat) (d' : Uuid)
        (found : (s.revocations.erase id).get? id' = some (.forceClose d') ∨
          (s.revocations.erase id).get? id' = some (.audit d')) : RowRevoked d' s := by
      simp only [FiniteMap.get?_erase] at found
      split at found
      · rcases found with found | found <;> cases found
      · exact inv.revocations id' d' found
    dsimp only [advance] at rows ⊢
    split
    · next owner d reached =>
      split
      · next row kept =>
        split
        · next executed =>
          refine ⟨?_, inv.waiting⟩
          intro id' d' found
          simp only [FiniteMap.get?_insert] at found
          split at found
          · rcases found with found | found
            · cases found
              exact ⟨{ row with revoked := true }, by simp [setDevice, devices], rfl⟩
            · cases found
          · have revoked := rows d' (inv.revocations id' d' found)
            simp only [reached, kept, executed] at revoked
            exact revoked
        · exact ⟨erased, inv.waiting⟩
      · exact ⟨erased, inv.waiting⟩
    · next d reached =>
      refine ⟨?_, inv.waiting⟩
      intro id' d' found
      simp only [FiniteMap.get?_insert] at found
      split at found
      · rcases found with found | found
        · cases found
        · cases found
          exact inv.revocations id d (.inl reached)
      · exact inv.revocations id' d' found
    · exact ⟨erased, inv.waiting⟩
    · exact inv

theorem Inv.run (inputs : List FleetInput) : Inv (run inputs) := by
  induction inputs using List.reverseRecOn with
  | nil => exact .new
  | append_singleton inputs i inv =>
    unfold Fleet.run at inv ⊢
    rw [List.foldl_concat]
    exact inv.step i

/-- Some continuation registers a session of the device, or has one at work on a
message. -/
def Returns (device : Uuid) (s : Fleet) : Prop :=
  ∃ more : List FleetInput, ¬ FinalFor device (more.foldl step s)

theorem Returns.of_step (i : FleetInput) (later : Returns device (s.step i)) : Returns device s :=
  let ⟨more, broken⟩ := later
  ⟨i :: more, broken⟩

theorem Returns.of_online (online : s.service.hub.isOnline device = true) : Returns device s := by
  refine ⟨[], fun final => ?_⟩
  have offline := final.1
  rw [List.foldl_nil, online] at offline
  cases offline

section Session

variable {id : Nat} {task : BridgeTask}

theorem Returns.of_message (found : s.service.bridges.get? id = some task)
    (of : task.device = device) (atWork : task.phase.onMessage = true) : Returns device s := by
  refine ⟨[], fun final => ?_⟩
  have idle := final.2 id task found of
  rw [atWork] at idle
  cases idle

/-- The next step of the session `id`. -/
def bridging (id : Nat) : FleetInput := .service ⟨.idle, .bridge id⟩

theorem service_bridging (found : s.service.bridges.get? id = some task) :
    (s.step (bridging id)).service = s.service.bridgeStep .idle id task := by
  simp [Fleet.step, bridging, stepService, Service.step, found]

theorem Returns.of_reading (found : s.service.bridges.get? id = some task)
    (of : task.device = device) (reached : task.phase = .reading) : Returns device s := by
  let message : Envelope := baseEnvelope 0 "" .heartbeat
  let received := s.step (.service ⟨.idle, .receive id message⟩)
  have found' : received.service.bridges.get? id =
      some { task with phase := .handling message } := by
    simp [received, Fleet.step, stepService, Service.step, found, reached, Service.setBridge,
      Service.afterReceive, message, baseEnvelope]
  exact .of_step _ (.of_message found' of rfl)

theorem Returns.of_presence (found : s.service.bridges.get? id = some task)
    (of : task.device = device) (reached : task.phase = .presenceOnline) : Returns device s := by
  have found' : (s.step (bridging id)).service.bridges.get? id =
      some { task with phase := .reading } := by
    simp [service_bridging found, Service.bridgeStep, reached, Service.setBridge]
  exact .of_step (bridging id) (.of_reading found' of rfl)

theorem Returns.of_setOnline (found : s.service.bridges.get? id = some task)
    (of : task.device = device) (reached : task.phase = .setOnline) : Returns device s := by
  have found' : (s.step (bridging id)).service.bridges.get? id =
      some { task with phase := .presenceOnline } := by
    simp [service_bridging found, Service.bridgeStep, reached, Service.setBridge]
  exact .of_step (bridging id) (.of_presence found' of rfl)

theorem Returns.of_subscribes {envs : List (Uuid × Envelope)}
    (found : s.service.bridges.get? id = some task) (of : task.device = device)
    (reached : task.phase = .sendSubscribes envs) : Returns device s := by
  induction envs generalizing s task with
  | nil =>
    have found' : (s.step (bridging id)).service.bridges.get? id =
        some { task with phase := .setOnline } := by
      simp [service_bridging found, Service.bridgeStep, reached, Service.setBridge]
    exact .of_step (bridging id) (.of_setOnline found' of rfl)
  | cons e rest inductionHypothesis =>
    have found' : (s.step (bridging id)).service.bridges.get? id =
        some { task with phase := .sendSubscribes rest } := by
      simp [service_bridging found, Service.bridgeStep, reached, Service.setBridge]
    exact .of_step (bridging id) (inductionHypothesis found' of rfl)

theorem Returns.of_register (found : s.service.bridges.get? id = some task)
    (of : task.device = device) (reached : task.phase = .register) : Returns device s := by
  refine .of_step (bridging id) (.of_online ?_)
  simp [service_bridging found, Service.bridgeStep, reached, Service.setBridge,
    HubInner.isOnline, HubInner.registerBridge, FiniteMap.contains, of]

/-- A session that has not left its loop registers, or goes on to read. -/
theorem Returns.of_session (found : s.service.bridges.get? id = some task)
    (of : task.device = device) (here : task.phase.gone = false) : Returns device s := by
  cases reached : task.phase with
  | forceClose =>
    have found' : (s.step (bridging id)).service.bridges.get? id =
        some { task with phase := .register } := by
      simp [service_bridging found, Service.bridgeStep, reached, Service.setBridge]
    exact .of_step (bridging id) (.of_register found' of rfl)
  | register => exact .of_register found of reached
  | ensureBindings =>
    have online : ∃ envs, (s.step (bridging id)).service.bridges.get? id =
        some { task with phase := .sendSubscribes envs } := by
      simp [service_bridging found, Service.bridgeStep, reached, Service.setBridge]
    obtain ⟨envs, found'⟩ := online
    exact .of_step (bridging id) (.of_subscribes found' of rfl)
  | sendSubscribes envs => exact .of_subscribes found of reached
  | setOnline => exact .of_setOnline found of reached
  | presenceOnline => exact .of_presence found of reached
  | reading => exact .of_reading found of reached
  | storing | handling | settling => exact .of_message found of (by rw [reached]; rfl)
  | removeBridge | setOffline | presenceOffline | finalising =>
    rw [reached] at here
    cases here

end Session

/-- A connection that waits for its hello registers once it has come. -/
theorem Returns.of_upgrade (inv : Inv s) {conn : Nat} {owner : Uuid}
    (waiting : s.upgrades.get? conn = some (device, owner)) : Returns device s := by
  have fresh := inv.waiting conn _ waiting
  have found : (s.step (.hello conn true)).service.bridges.get? conn =
      some ⟨device, owner, 0, .forceClose⟩ := by
    simp [Fleet.step, hello, waiting, Service.step, FiniteMap.contains, fresh]
  exact .of_step (.hello conn true) (.of_session found rfl rfl)

theorem Returns.of_not_drained (inv : Inv s) (open_ : ¬ Drained device s) : Returns device s := by
  by_contra never
  refine open_ ⟨?_, ?_, ?_⟩
  · rintro conn ⟨d, owner⟩ waiting rfl
    exact never (.of_upgrade inv waiting)
  · intro id task found of
    by_contra here
    exact never (.of_session found of (by simpa using here))
  · by_contra online
    exact never (.of_online (by simpa using online))

/-! ## The theorem -/

theorem Drained.foldl (drained : Drained device s) (revoked : RowRevoked device s)
    (more : List FleetInput) : Drained device (more.foldl Fleet.step s) := by
  induction more generalizing s with
  | nil => exact drained
  | cons i rest inductionHypothesis =>
    exact inductionHypothesis (drained.step revoked i) (revoked.step i)

/-- The state in which `revoke_device` returns success differs from the one before by
its own bookkeeping. -/
theorem answered (id : Nat) (dbOk : Bool)
    (returns : s.revocations.get? id = some (.audit device)) :
    (s.step (.advance id dbOk)).upgrades = s.upgrades ∧
      (s.step (.advance id dbOk)).service = s.service := by
  simp [Fleet.step, advance, returns]

/-- A revocation is final exactly when, at its answer, every connection of the device
that passed the credential check has ended. -/
theorem revocation_final_iff_drained (inputs : List FleetInput) (id : Nat) (device : Uuid)
    (dbOk : Bool) (returns : (run inputs).revocations.get? id = some (.audit device)) :
    (∀ more, FinalFor device (run (inputs ++ .advance id dbOk :: more))) ↔
      Drained device (run inputs) := by
  have inv := Inv.run inputs
  obtain ⟨upgrades, service⟩ := answered id dbOk returns
  have split_run (more : List FleetInput) : run (inputs ++ .advance id dbOk :: more) =
      more.foldl Fleet.step ((run inputs).step (.advance id dbOk)) := by
    simp [run]
  constructor
  · intro final
    by_contra open_
    have open' : ¬ Drained device ((run inputs).step (.advance id dbOk)) :=
      fun drained => open_ (drained.of_same upgrades.symm service.symm)
    obtain ⟨more, broken⟩ := Returns.of_not_drained (inv.step _) open'
    exact broken (split_run more ▸ final more)
  · intro drained more
    rw [split_run]
    have revoked := inv.revocations id device (.inr returns)
    exact ((drained.of_same upgrades service).foldl (revoked.step _) more).finalFor

end Fleet

namespace Revoking

open Fleet Reconnecting

/-- The device is paired and a connection with its credential is accepted. -/
def connects : List FleetInput := [.pair device owner, .connect 1 device true]

/-- Its owner revokes it, up to the answer. -/
def revokes : List FleetInput := [.revoke 0 owner device, .advance 0 true, .advance 0 true]

/-- A session reads and is closed. -/
def departs : List FleetInput :=
  connects ++ .hello 1 true :: List.replicate 6 (bridging 1) ++ revokes ++
    .service (op (.hangUp 1)) :: List.replicate 4 (bridging 1)

end Revoking

open Revoking Fleet Reconnecting in
theorem revocation_final_iff_drained_departed :
    FinalFor device (run (Revoking.departs ++ .advance 0 true :: [.hello 1 true])) :=
  (revocation_final_iff_drained Revoking.departs 0 device true (by decide +kernel)).mpr
    ⟨by decide +kernel, by unfold Service.AllGone; decide +kernel, by decide +kernel⟩
    [.hello 1 true]

open Revoking Fleet Reconnecting in
/-- The connection accepted before the revocation registers after its answer. -/
theorem revoked_device_registers :
    ¬ ∀ (inputs more : List FleetInput) (id : Nat) (device : Uuid) (dbOk : Bool),
      (run inputs).revocations.get? id = some (.audit device) →
        FinalFor device (run (inputs ++ .advance id dbOk :: more)) := by
  intro claim
  have final := claim (Revoking.connects ++ revokes) [.hello 1 true, bridging 1, bridging 1] 0 device true
    (by decide +kernel)
  have offline := final.1
  revert offline
  decide +kernel

end AgentConsole.Relay
