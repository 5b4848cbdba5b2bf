import AgentConsole.Lib.Run
import AgentConsole.Relay.Service

/-! # Sessions of one device

A Bridge that reconnects displaces its older session, whose cleanup then runs
beside the new one.  The cleanup is keyed by the device, so it takes down
whatever session of the device is registered.  It leaves a newer session alone
if it has got as far as its receipts by the time the newer one registers. -/

namespace AgentConsole.Relay

open AgentConsole.Lib

/-- A step of the cleanup of one session leaves a newer, live session of the
device alone: its registration, the stored connection state, the streams with
their bindings, and the commands handed to the device since it registered. -/
def Harmless (w : Service) (s : ServiceStep) : Prop :=
  ∀ id old, s.op = .bridge id → w.bridges.get? id = some old → old.phase.cleaning = true →
    ∀ id' new, w.bridges.get? id' = some new → new.device = old.device →
      old.stamp < new.stamp → new.phase.live = true →
    (w.step s).hub.bridges.get? new.device = w.hub.bridges.get? new.device ∧
    (w.step s).db.sessions = w.db.sessions ∧
    (w.step s).hub.upstreamIndex = w.hub.upstreamIndex ∧
    (w.step s).hub.streams = w.hub.streams ∧
    ∀ requestId handed, (requestId, new.device, handed) ∈ w.dispatched → new.stamp ≤ handed →
      (w.step s).hub.commands.get? requestId = w.hub.commands.get? requestId ∧
      (w.step s).db.receipts.get? requestId = w.db.receipts.get? requestId

/-- A session registers only after the earlier sessions of its device have done
everything but write receipts, and a command is handed over only when no cleanup
has its receipt still to write. -/
def Settled (w : Service) (s : ServiceStep) : Prop :=
  match s.op with
  | .bridge id => ∀ task, w.bridges.get? id = some task → task.phase = .register →
      ∀ id' old, w.bridges.get? id' = some old → old.device = task.device → 0 < old.stamp →
        old.phase = .finalising old.phase.left
  | .command id => ∀ task, w.commands.get? id = some task → task.phase.sends = true →
      ∀ id' old, w.bridges.get? id' = some old → task.request.requestId ∉ old.phase.left
  | _ => True

/-! ## One session at a time -/

/-- The registered sessions of a device follow each other: all but the last are
writing receipts, of commands handed over before the next one registered. -/
structure Successive (w : Service) : Prop where
  stamps : ∀ id task, w.bridges.get? id = some task → task.stamp ≤ w.registrations
  handed : ∀ requestId device handed, (requestId, device, handed) ∈ w.dispatched →
    handed ≤ w.registrations
  registered : ∀ id task, w.bridges.get? id = some task →
    task.stamp = 0 → task.phase = .forceClose ∨ task.phase = .register
  retired : ∀ id old id' new, w.bridges.get? id = some old → w.bridges.get? id' = some new →
    old.device = new.device → 0 < old.stamp → old.stamp < new.stamp →
    old.phase = .finalising old.phase.left ∧
      ∀ requestId ∈ old.phase.left, ∀ handed,
        (requestId, old.device, handed) ∈ w.dispatched → handed < new.stamp

namespace Successive

variable {w w' : Service}

theorem new : Successive .new := by
  constructor <;> simp [Service.new]

/-- A step that touches neither sessions nor dispatches. -/
theorem of_same (successive : Successive w) (bridges : w'.bridges = w.bridges)
    (registrations : w'.registrations = w.registrations)
    (dispatched : w'.dispatched = w.dispatched) : Successive w' := by
  obtain ⟨stamps, handed, registered, retired⟩ := successive
  constructor
  · rw [bridges, registrations]; exact stamps
  · rw [dispatched, registrations]; exact handed
  · rw [bridges]; exact registered
  · rw [bridges, dispatched]; exact retired

/-- A session goes on to its next phase. -/
theorem advance {id : Nat} {task : BridgeTask} (successive : Successive w)
    (found : w.bridges.get? id = some task) (phase : BridgePhase)
    (bridges : w'.bridges = w.bridges.insert id { task with phase })
    (registrations : w'.registrations = w.registrations)
    (dispatched : w'.dispatched = w.dispatched)
    (unregistered : task.stamp = 0 → phase = .forceClose ∨ phase = .register)
    (retiring : ∀ left, task.phase = .finalising left →
      phase = .finalising phase.left ∧ ∀ requestId ∈ phase.left, requestId ∈ left) :
    Successive w' := by
  obtain ⟨stamps, handed, registered, retired⟩ := successive
  -- every session after the step has the device and the stamp of one before it
  have origin : ∀ id' task', w'.bridges.get? id' = some task' → ∃ before,
      w.bridges.get? id' = some before ∧ before.device = task'.device ∧
        before.stamp = task'.stamp ∧ (id' = id ∧ before = task ∧ task'.phase = phase ∨
          task' = before) := by
    intro id' task' found'
    rw [bridges, FiniteMap.get?_insert] at found'
    split at found'
    · next same =>
      subst same
      cases found'
      exact ⟨task, found, rfl, rfl, .inl ⟨rfl, rfl, rfl⟩⟩
    · exact ⟨task', found', rfl, rfl, .inr rfl⟩
  constructor
  · intro id' task' found'
    obtain ⟨before, existed, -, stamp, -⟩ := origin id' task' found'
    rw [registrations, ← stamp]
    exact stamps id' before existed
  · rw [dispatched, registrations]
    exact handed
  · intro id' task' found' zero
    obtain ⟨before, existed, -, stamp, ⟨-, rfl, moved⟩ | rfl⟩ := origin id' task' found'
    · rw [moved]
      exact unregistered (stamp.trans zero)
    · exact registered id' task' existed zero
  · intro idOld old idNew new foundOld foundNew device positive older
    obtain ⟨beforeOld, existedOld, deviceOld, stampOld, caseOld⟩ := origin idOld old foundOld
    obtain ⟨beforeNew, existedNew, deviceNew, stampNew, -⟩ := origin idNew new foundNew
    obtain ⟨writing, earlier⟩ := retired idOld beforeOld idNew beforeNew existedOld existedNew
      (by rw [deviceOld, deviceNew, device]) (stampOld ▸ positive)
      (by rw [stampOld, stampNew]; exact older)
    rw [dispatched]
    rcases caseOld with ⟨-, rfl, moved⟩ | rfl
    · obtain ⟨stillWriting, fewer⟩ := retiring _ writing
      rw [moved, ← deviceOld, ← stampNew]
      exact ⟨stillWriting, fun requestId member => earlier requestId (fewer requestId member)⟩
    · rw [← stampNew]
      exact ⟨writing, earlier⟩

/-- A new connection has not registered yet. -/
theorem accept (successive : Successive w) (id : Nat) (device owner : Uuid) :
    Successive { w with bridges := w.bridges.insert id ⟨device, owner, 0, .forceClose⟩ } := by
  obtain ⟨stamps, handed, registered, retired⟩ := successive
  constructor
  · intro id' task found
    rw [FiniteMap.get?_insert] at found
    split at found
    · cases found; exact Nat.zero_le _
    · exact stamps id' task found
  · exact handed
  · intro id' task found zero
    rw [FiniteMap.get?_insert] at found
    split at found
    · cases found; exact .inl rfl
    · exact registered id' task found zero
  · intro idOld old idNew new foundOld foundNew device positive older
    rw [FiniteMap.get?_insert] at foundOld foundNew
    split at foundOld
    · cases foundOld; cases positive
    · split at foundNew
      · cases foundNew; cases older
      · exact retired idOld old idNew new foundOld foundNew device positive older

/-- A session registers when its predecessors only write receipts. -/
theorem register {id : Nat} {task : BridgeTask} (successive : Successive w)
    (settled : ∀ id' old, w.bridges.get? id' = some old → old.device = task.device →
      0 < old.stamp → old.phase = .finalising old.phase.left)
    (bridges : w'.bridges = w.bridges.insert id
      { task with stamp := w.registrations + 1, phase := .ensureBindings })
    (registrations : w'.registrations = w.registrations + 1)
    (dispatched : w'.dispatched = w.dispatched) : Successive w' := by
  obtain ⟨stamps, handed, registered, retired⟩ := successive
  constructor
  · intro id' task' found'
    rw [bridges, FiniteMap.get?_insert] at found'
    rw [registrations]
    split at found'
    · cases found'; exact le_refl _
    · exact Nat.le_succ_of_le (stamps id' task' found')
  · intro requestId device count
    rw [dispatched, registrations]
    exact fun was => Nat.le_succ_of_le (handed requestId device count was)
  · intro id' task' found' zero
    rw [bridges, FiniteMap.get?_insert] at found'
    split at found'
    · cases found'; cases zero
    · exact registered id' task' found' zero
  · intro idOld old idNew new foundOld foundNew device positive older
    rw [bridges, FiniteMap.get?_insert] at foundOld foundNew
    rw [dispatched]
    split at foundOld
    · -- the session that registers now has the highest stamp
      cases foundOld
      split at foundNew
      · cases foundNew; exact absurd older (lt_irrefl _)
      · have bound := stamps idNew new foundNew
        dsimp only at older
        omega
    · split at foundNew
      · cases foundNew
        refine ⟨settled idOld old foundOld device positive, fun requestId _ count was => ?_⟩
        have := handed requestId old.device count was
        exact Nat.lt_succ_of_le this
      · exact retired idOld old idNew new foundOld foundNew device positive older

/-- A command is handed over when no cleanup has its receipt to write. -/
theorem dispatch {requestId : String} {device : Uuid} (successive : Successive w)
    (settled : ∀ id old, w.bridges.get? id = some old → requestId ∉ old.phase.left)
    (bridges : w'.bridges = w.bridges) (registrations : w'.registrations = w.registrations)
    (dispatched : w'.dispatched = w.dispatched ++ [(requestId, device, w.registrations)]) :
    Successive w' := by
  obtain ⟨stamps, handed, registered, retired⟩ := successive
  constructor
  · rw [bridges, registrations]; exact stamps
  · intro other device' count was
    rw [dispatched] at was
    rw [registrations]
    rcases List.mem_append.mp was with earlier | now
    · exact handed other device' count earlier
    · cases List.mem_singleton.mp now; exact le_refl _
  · rw [bridges]; exact registered
  · intro idOld old idNew new foundOld foundNew sameDevice positive older
    rw [bridges] at foundOld foundNew
    obtain ⟨writing, earlier⟩ := retired idOld old idNew new foundOld foundNew sameDevice positive
      older
    refine ⟨writing, fun other member count was => ?_⟩
    rw [dispatched] at was
    rcases List.mem_append.mp was with before | now
    · exact earlier other member count before
    · cases List.mem_singleton.mp now
      exact absurd member (settled idOld old foundOld)

/-- A phase from which a session does not retire and has registered. -/
theorem advance_active {id : Nat} {task : BridgeTask} (successive : Successive w)
    (found : w.bridges.get? id = some task) (phase : BridgePhase)
    (active : task.phase ≠ .forceClose ∧ task.phase ≠ .register ∧
      ∀ left, task.phase ≠ .finalising left)
    (bridges : w'.bridges = w.bridges.insert id { task with phase })
    (registrations : w'.registrations = w.registrations)
    (dispatched : w'.dispatched = w.dispatched) : Successive w' := by
  refine successive.advance found phase bridges registrations dispatched (fun zero => ?_)
    (fun left writing => absurd writing (active.2.2 left))
  rcases successive.registered id task found zero with early | early
  · exact absurd early active.1
  · exact absurd early active.2.1

@[simp] theorem updateReceipt_registrations (env : ServiceCtx) (write : ReceiptWrite)
    (w : Service) : (w.updateReceipt env write).registrations = w.registrations := by
  unfold Service.updateReceipt; split <;> rfl

@[simp] theorem updateReceipt_dispatched (env : ServiceCtx) (write : ReceiptWrite) (w : Service) :
    (w.updateReceipt env write).dispatched = w.dispatched := by
  unfold Service.updateReceipt; split <;> rfl

theorem bridgeStep {env : ServiceCtx} {id : Nat} {task : BridgeTask} (successive : Successive w)
    (found : w.bridges.get? id = some task)
    (settled : task.phase = .register → ∀ id' old, w.bridges.get? id' = some old →
      old.device = task.device → 0 < old.stamp → old.phase = .finalising old.phase.left) :
    Successive (w.bridgeStep env id task) := by
  unfold Service.bridgeStep
  cases phase : task.phase with
  | forceClose =>
    exact successive.advance found .register rfl rfl rfl (fun _ => .inr rfl)
      (fun left writing => by rw [phase] at writing; cases writing)
  | register => exact successive.register (settled phase) rfl rfl rfl
  | ensureBindings => exact successive.advance_active found _ (by simp [phase]) rfl rfl rfl
  | sendSubscribes envs =>
    cases envs <;> exact successive.advance_active found _ (by simp [phase]) rfl rfl rfl
  | setOnline => exact successive.advance_active found .presenceOnline (by simp [phase]) rfl rfl rfl
  | presenceOnline => exact successive.advance_active found .reading (by simp [phase]) rfl rfl rfl
  | reading => exact successive
  | storing message device summaries =>
    cases summaries with
    | nil => exact successive.advance_active found _ (by simp [phase]) rfl rfl rfl
    | cons summary rest =>
      dsimp only
      split <;> exact successive.advance_active found _ (by simp [phase]) rfl rfl rfl
  | handling message => exact successive.advance_active found _ (by simp [phase]) rfl rfl rfl
  | settling write =>
    exact successive.advance_active found .reading (by simp [phase]) (by simp [Service.setBridge])
      (by simp [Service.setBridge]) (by simp [Service.setBridge])
  | removeBridge => exact successive.advance_active found _ (by simp [phase]) rfl rfl rfl
  | setOffline left => exact successive.advance_active found _ (by simp [phase]) rfl rfl rfl
  | presenceOffline left => exact successive.advance_active found _ (by simp [phase]) rfl rfl rfl
  | finalising left =>
    cases left with
    | nil => exact successive
    | cons requestId rest =>
      refine successive.advance found (.finalising rest) (by simp [Service.setBridge])
        (by simp [Service.setBridge]) (by simp [Service.setBridge]) (fun zero => ?_)
        (fun left writing => ?_)
      · rcases successive.registered id task found zero with early | early <;>
          rw [phase] at early <;> cases early
      · rw [phase] at writing
        cases writing
        exact ⟨rfl, fun other member => List.mem_cons_of_mem _ member⟩

theorem commandStep {env : ServiceCtx} {id : Nat} {task : CommandTask} (successive : Successive w)
    (settled : task.phase.sends = true →
      ∀ id' old, w.bridges.get? id' = some old → task.request.requestId ∉ old.phase.left) :
    Successive (w.commandStep env id task) := by
  unfold Service.commandStep
  cases phase : task.phase with
  | send device =>
    dsimp only
    split
    · exact successive.dispatch (settled (by rw [phase]; rfl)) rfl rfl rfl
    · exact successive.of_same rfl rfl rfl
  | reject =>
    exact successive.of_same (by simp [Service.setCommand]) (by simp [Service.setCommand])
      (by simp [Service.setCommand])
  | _ =>
    dsimp only
    repeat' split
    all_goals exact successive.of_same rfl rfl rfl

theorem step {s : ServiceStep} (successive : Successive w) (settled : Settled w s) :
    Successive (w.step s) := by
  unfold Settled at settled
  unfold Service.step
  cases op : s.op with
  | hub op other => exact successive.of_same rfl rfl rfl
  | setDevice device row => exact successive.of_same rfl rfl rfl
  | accept id device owner =>
    dsimp only
    split
    · exact successive
    · exact successive.accept id device owner
  | receive id message =>
    dsimp only
    cases found : w.bridges.get? id with
    | none => exact successive
    | some task =>
      dsimp only
      split
      · next phase =>
        exact successive.advance_active found _ (by simp [phase]) rfl rfl rfl
      · exact successive
  | hangUp id =>
    dsimp only
    cases found : w.bridges.get? id with
    | none => exact successive
    | some task =>
      dsimp only
      split
      · next phase =>
        exact successive.advance_active found _ (by simp [phase]) rfl rfl rfl
      · exact successive
  | bridge id =>
    rw [op] at settled
    dsimp only
    cases found : w.bridges.get? id with
    | none => exact successive
    | some task => exact successive.bridgeStep found (settled task found)
  | request id conn request =>
    dsimp only
    split
    · exact successive
    · split
      · exact successive.of_same rfl rfl rfl
      · exact successive
  | command id =>
    rw [op] at settled
    dsimp only
    cases found : w.commands.get? id with
    | none => exact successive
    | some task => exact successive.commandStep (settled task found)
  | beginShutdown => exact successive.of_same rfl rfl rfl
  | shutdownReceipt =>
    dsimp only
    split
    · exact successive
    · exact successive.of_same (by simp) (by simp) (by simp)

end Successive

/-! ## The cleanup beside a newer session -/

theorem Successive.harmless {w : Service} (successive : Successive w) (s : ServiceStep) :
    Harmless w s := by
  intro id old op foundOld cleaning id' new foundNew device older live
  have positive : 0 < old.stamp := by
    rcases Nat.eq_zero_or_pos old.stamp with zero | positive
    · rcases successive.registered id old foundOld zero with early | early <;>
        rw [early] at cleaning <;> cases cleaning
    · exact positive
  obtain ⟨writing, earlier⟩ := successive.retired id old id' new foundOld foundNew device.symm
    positive older
  generalize old.phase.left = left at writing earlier
  cases left with
  | nil => rw [writing] at cleaning; cases cleaning
  | cons requestId rest =>
    have stepEq : w.step s = (w.updateReceipt s.env
        (Service.outcomeUnknownWrite requestId)).setBridge id old (.finalising rest) := by
      simp only [Service.step, op, foundOld, Service.bridgeStep, writing]
    rw [stepEq, Service.setBridge, Service.updateReceipt]
    split
    · refine ⟨rfl, rfl, rfl, rfl, fun other handed was after => ⟨rfl, ?_⟩⟩
      dsimp only [Database.updateReceipt, Service.outcomeUnknownWrite]
      rw [FiniteMap.get?_modify, if_neg]
      rintro rfl
      have before := earlier other (by simp) handed (device ▸ was)
      omega
    · exact ⟨rfl, rfl, rfl, rfl, fun other handed was after => ⟨rfl, rfl⟩⟩

/-- In every run in which a session registers only after the earlier sessions of
its device have gone offline, and no command is handed over whose receipt a
cleanup has still to write, no cleanup harms a newer session. -/
theorem cleanup_keeps_newer_session (steps : List ServiceStep)
    (run : Along Service.step Settled .new steps) : Along Service.step Harmless .new steps :=
  Along.of_invariant (fun _ _ successive settled => Successive.step successive settled)
    (fun _ s successive _ => successive.harmless s) Successive.new run

instance (w : Service) (s : ServiceStep) : Decidable (Settled w s) := by
  unfold Settled
  cases s.op <;> infer_instance

namespace Reconnecting

def owner : Uuid := .ofLast 'a'
def browser : Uuid := .ofLast 'b'
def device : Uuid := .ofLast 'd'

def op (op : ServiceOp) : ServiceStep := ⟨.idle, op⟩

/-- A session of the device opens and registers. -/
def registers (id : Nat) : List ServiceStep :=
  op (.accept id device owner) :: List.replicate 2 (op (.bridge id))

/-- The session has announced itself and reads. -/
def connects (id : Nat) : List ServiceStep := registers id ++ List.replicate 4 (op (.bridge id))

/-- The browser sends a command, which is handed to the first session. -/
def commands : List ServiceStep :=
  op (.hub (.registerBrowser browser ⟨browser, owner, 1⟩) rfl) ::
    op (.request 1 browser ⟨"r", "CREATE_TASK", none, "", ""⟩) ::
    List.replicate 7 (op (.command 1))

/-- The first session ends and has gone offline, with a receipt left to write. -/
def departs : List ServiceStep := op (.hangUp 1) :: List.replicate 3 (op (.bridge 1))

end Reconnecting

open Reconnecting in
theorem cleanup_keeps_newer_session_late_receipt :
    Along Service.step Harmless .new
        (connects 1 ++ commands ++ departs ++ registers 2 ++ [op (.bridge 1)]) ∧
      (((connects 1 ++ commands ++ departs ++ registers 2).foldl Service.step .new).bridges.get? 1) =
        some ⟨device, owner, 1, .finalising ["r"]⟩ :=
  ⟨cleanup_keeps_newer_session _ (by decide +kernel), by decide +kernel⟩

open Reconnecting in
/-- The cleanup of a displaced session removes the session that displaced it. -/
theorem cleanup_removes_newer_session :
    ¬ ∀ steps : List ServiceStep, Along Service.step Harmless .new steps := by
  intro claim
  have harmless := (claim ((connects 1 ++ registers 2 ++ [op (.hangUp 1)]) ++
    [op (.bridge 1)])).at_step
  obtain ⟨registry, -⟩ := harmless 1 ⟨device, owner, 1, .removeBridge⟩ rfl (by decide +kernel)
    rfl 2 ⟨device, owner, 2, .ensureBindings⟩ (by decide +kernel) rfl (by decide) rfl
  have sessions := congrArg (Option.map (·.session)) registry
  revert sessions
  decide +kernel

end AgentConsole.Relay
