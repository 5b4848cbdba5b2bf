import AgentConsole.Relay.Finality
import AgentConsole.Relay.Frames

/-! # Who waits for a result

The table of pending commands remembers the connection that sent a command first; a copy
of the command that comes over another connection is answered from its receipt and does
not change the entry.  `Waiting` follows, over the runs of the Relay, the connection that
sent each request last.  Ids of connections are new each time. -/

namespace AgentConsole.Relay

open AgentConsole.Lib

/-- The handler answers its connection by itself; after `send` the answer comes through
the table. -/
def CommandPhase.answers : CommandPhase → Bool
  | .send _ | .done => false
  | _ => true

namespace Service

def connected (conn : Uuid) (w : Service) : Bool := w.hub.browsers.contains conn

/-- A handler is still going to answer the request on this connection. -/
def answering (requestId : String) (conn : Uuid) (w : Service) : Bool :=
  w.commands.toList.any fun e =>
    e.2.conn == conn && e.2.request.requestId == requestId && e.2.phase.answers

/-- The terminal results a step pushes: those of the handlers, and the one for each
command it takes out of the table. -/
def results (w : Service) (s : ServiceStep) : List (Uuid × String) :=
  match s.op with
  | .command id =>
    match w.commands.get? id with
    | some task =>
      match task.phase with
      | .reply result => if result.status.terminal then [(task.conn, task.request.requestId)] else []
      | .rejectedReply => [(task.conn, task.request.requestId)]
      | _ => []
    | none => []
  | _ => (w.takes s).filterMap fun requestId =>
    (w.hub.commands.get? requestId).map fun pending => (pending.connId, requestId)

end Service

/-- `senders` has the connection that sent each request last, and `waiting` that
connection as long as no terminal result was pushed to it since. -/
structure Waiting where
  service : Service
  opened : List Uuid
  senders : FiniteMap String Uuid
  waiting : FiniteMap String Uuid

namespace Waiting

def new : Waiting where
  service := .new
  opened := []
  senders := ∅
  waiting := ∅

def step (s : Waiting) (i : ServiceStep) : Waiting :=
  match i.op with
  | .hub (.registerBrowser conn _) _ =>
    if conn ∈ s.opened then s
    else { s with service := s.service.step i, opened := conn :: s.opened }
  | .request id conn request =>
    if s.service.commands.contains id || !s.service.connected conn then s
    else
      { s with
        service := s.service.step i
        senders := s.senders.insert request.requestId conn
        waiting := s.waiting.insert request.requestId conn }
  | _ =>
    { s with
      service := s.service.step i
      waiting := s.waiting.filter fun requestId conn =>
        !(s.service.connected conn && (s.service.results i).contains (conn, requestId)) }

/-! ## What is promised -/

/-- A terminal result of a pending command is pushed to the connection that sent the
command last, if it is still there and no longer being answered by its own handler. -/
def Reaches (s : Waiting) (i : ServiceStep) : Prop :=
  ∀ requestId conn sender, (∀ id, i.op ≠ .command id) →
    (conn, requestId) ∈ s.service.results i → s.senders.get? requestId = some sender →
    s.service.connected sender = true →
      conn = sender ∨ s.service.answering requestId sender = true

/-- A connected last sender whose handler is through gets the result of the pending
command, or has been given a terminal result since it sent. -/
def Awaited (s : Waiting) : Prop :=
  ∀ requestId sender, s.senders.get? requestId = some sender →
    s.service.connected sender = true → s.service.answering requestId sender = false →
      match s.service.hub.commands.get? requestId with
      | some pending => pending.connId = sender
      | none => s.waiting.get? requestId ≠ some sender

/-! ## The condition -/

/-- What the code does not look after:

* a copy over the connection that sent last is answered when the command is pending for
  that very connection, or else with a terminal status, and its receipt can be read;
* a command is registered for the connection that sent it last, or while the last one is
  still to be answered. -/
def orderly (s : Waiting) (i : ServiceStep) : Bool :=
  match i.op with
  | .command id =>
    match s.service.commands.get? id with
    | some task =>
      let requestId := task.request.requestId
      match task.phase with
      | .register _ => (s.senders.get? requestId).all fun sender =>
          sender == task.conn || !s.service.connected sender ||
            s.service.answering requestId sender
      | .replay _ => s.senders.get? requestId != some task.conn || i.env.dbOk
      | .reply result => s.senders.get? requestId != some task.conn ||
          !s.service.connected task.conn ||
          match s.service.hub.commands.get? requestId with
          | some pending => pending.connId == task.conn
          | none => result.status.terminal
      | _ => true
    | none => true
  | _ => true

end Waiting

/-! ## The table of pending commands -/

namespace Service

variable {w : Service} {requestId : String}

theorem removeBridge_table (ctx : Ctx) (device : Uuid) (h : HubInner) (requestId : String) :
    (h.removeBridge ctx device).1.commands.get? requestId =
      (h.commands.get? requestId).filter fun p => p.device != device := by
  unfold HubInner.removeBridge
  dsimp only
  rw [HubInner.foldl_abandonCommand_commands]
  exact FiniteMap.get?_filter _ _ _

/-- A step of a session takes out of the table what `takes` says. -/
theorem bridgeStep_table (env : ServiceCtx) {id : Nat} {task : BridgeTask}
    (found : w.bridges.get? id = some task) :
    (w.bridgeStep env id task).hub.commands.get? requestId =
      if requestId ∈ w.takes ⟨env, .bridge id⟩ then none
      else w.hub.commands.get? requestId := by
  have quiet {h : HubInner} (same : h.commands = w.hub.commands)
      (none_taken : w.takes ⟨env, .bridge id⟩ = []) : h.commands.get? requestId =
        if requestId ∈ w.takes ⟨env, .bridge id⟩ then none else w.hub.commands.get? requestId := by
    rw [none_taken, if_neg List.not_mem_nil, same]
  unfold bridgeStep
  split
  case h_1 reached => exact quiet rfl (by simp [Service.takes, found, reached])
  case h_2 reached => exact quiet rfl (by simp [Service.takes, found, reached])
  case h_3 reached => exact quiet (HubInner.ensureBindings_commands _ _ _) (by simp [Service.takes, found, reached])
  case h_4 reached => exact quiet rfl (by simp [Service.takes, found, reached])
  case h_5 reached => exact quiet (HubInner.sendToBridge_commands _ _ _) (by simp [Service.takes, found, reached])
  case h_6 reached => exact quiet rfl (by simp [Service.takes, found, reached])
  case h_7 reached => exact quiet (HubInner.fanOutPresence_commands _ _ _ _) (by simp [Service.takes, found, reached])
  case h_8 reached => exact quiet rfl (by simp [Service.takes, found, reached])
  case h_9 reached => exact quiet rfl (by simp [Service.takes, found, reached])
  case h_10 reached =>
    dsimp only
    split <;> exact quiet rfl (by simp [Service.takes, found, reached])
  case h_11 message reached =>
    have taken : w.takes ⟨env, .bridge id⟩ = finished message w.hub := by
      simp [Service.takes, found, reached]
    rw [taken]
    exact HubInner.handleBridgeEnvelope_commands env.ctx task.device message w.hub requestId
  case h_12 reached => exact quiet (by simp [setBridge]) (by simp [Service.takes, found, reached])
  case h_13 reached =>
    have taken : w.takes ⟨env, .bridge id⟩ =
        (w.hub.commands.toList.filter fun e => e.2.device == task.device).map (·.1) := by
      simp [Service.takes, found, reached]
    rw [taken]
    refine (removeBridge_table env.ctx task.device w.hub requestId).trans ?_
    cases pending : w.hub.commands.get? requestId with
    | none => simp
    | some p =>
      by_cases own : p.device = task.device
      · simp [Option.filter, FiniteMap.mem_toList, pending, own]
      · simp [Option.filter, FiniteMap.mem_toList, pending, own]
  case h_14 reached => exact quiet rfl (by simp [Service.takes, found, reached])
  case h_15 reached => exact quiet (HubInner.fanOutPresence_commands _ _ _ _) (by simp [Service.takes, found, reached])
  case h_16 reached => exact quiet rfl (by simp [Service.takes, found, reached])
  case h_17 reached => exact quiet (by simp [setBridge]) (by simp [Service.takes, found, reached])

/-- What a step other than a handler's does to the table. -/
theorem step_table {s : ServiceStep} (other : ∀ id, s.op ≠ .command id) :
    (w.step s).hub.commands.get? requestId =
      if requestId ∈ w.takes s then none else w.hub.commands.get? requestId := by
  obtain ⟨env, op⟩ := s
  have idle : w.hub.commands.get? requestId =
      if requestId ∈ ([] : List String) then none else w.hub.commands.get? requestId := rfl
  cases op with
  | command id => exact absurd rfl (other id)
  | hub op task =>
    exact (congrArg (·.get? requestId) (HubInner.step_commands task w.hub)).trans idle
  | bridge id =>
    dsimp only [step]
    cases found : w.bridges.get? id with
    | none => simp [takes, found]
    | some task => exact bridgeStep_table env found
  | beginShutdown =>
    have emptied : (w.step ⟨env, .beginShutdown⟩).hub.commands.get? requestId = none := by
      change ((w.hub.beginShutdown env.ctx).1).commands.get? requestId = none
      unfold HubInner.beginShutdown
      dsimp only
      rw [HubInner.foldl_abandonCommand_commands]
      rfl
    rw [emptied]
    cases pending : w.hub.commands.get? requestId with
    | none => simp
    | some p => simp [takes, FiniteMap.mem_toList, pending]
  | shutdownReceipt =>
    refine Eq.trans ?_ idle
    dsimp only [step]
    split
    · rfl
    · simp
  | _ =>
    refine Eq.trans ?_ idle
    dsimp only [step]
    repeat' split
    all_goals rfl

end Service

/-! ## Handlers that hold a request -/

/-- The handler that stored the receipt of a request is the only one that goes on with it,
and the entry of the table is its own. -/
structure Held (w : Service) : Prop where
  handlers : ∀ id task, w.commands.get? id = some task →
    task.phase.stage.isSome ∨ (∃ session, task.phase = .replay session) →
      w.db.receipts.contains task.request.requestId = true
  table : ∀ requestId pending, w.hub.commands.get? requestId = some pending →
    w.db.receipts.contains requestId = true
  unique : ∀ id task id' task', w.commands.get? id = some task →
    w.commands.get? id' = some task' → task.request.requestId = task'.request.requestId →
      task.phase.stage.isSome → task'.phase.stage.isSome → id = id'
  bound : ∀ id task pending, w.commands.get? id = some task →
    task.phase.stage = some .dispatching →
      w.hub.commands.get? task.request.requestId = some pending → pending.connId = task.conn
  rejecting : ∀ id task, w.commands.get? id = some task → task.phase.stage = some .rejecting →
    w.hub.commands.get? task.request.requestId = none

theorem Held.new : Held .new := by
  constructor <;> simp [Service.new, HubInner.new]

namespace Held

variable {w w' : Service}

theorem contains_of_extends (extends_ : w.db.Extends w'.db) {requestId : String}
    (stored : w.db.receipts.contains requestId = true) :
    w'.db.receipts.contains requestId = true := by
  obtain ⟨row, found⟩ := Option.isSome_iff_exists.mp stored
  obtain ⟨row', found', -⟩ := extends_.receipts _ row found
  exact Option.isSome_iff_exists.mpr ⟨row', found'⟩

/-- The handlers stay, and entries at most leave the table. -/
theorem of_fewer (held : Held w) (extends_ : w.db.Extends w'.db)
    (commands : w'.commands = w.commands)
    (table : ∀ requestId pending, w'.hub.commands.get? requestId = some pending →
      w.hub.commands.get? requestId = some pending) : Held w' := by
  refine ⟨?_, ?_, ?_, ?_, ?_⟩
  · intro id task found stage
    exact contains_of_extends extends_ (held.handlers id task (commands ▸ found) stage)
  · intro requestId pending found
    exact contains_of_extends extends_ (held.table requestId pending (table _ _ found))
  · rw [commands]
    exact held.unique
  · intro id task pending found stage entry
    exact held.bound id task pending (commands ▸ found) stage (table _ _ entry)
  · intro id task found stage
    by_contra entry
    obtain ⟨pending, entry⟩ := Option.ne_none_iff_exists'.mp entry
    cases (held.rejecting id task (commands ▸ found) stage).symm.trans (table _ _ entry)

/-- One handler moves on; it may have stored the receipt, and may have made the entry of
its request. -/
theorem moved (held : Held w) {id : Nat} {task : CommandTask} {next : CommandPhase}
    (commands : w'.commands = w.commands.insert id { task with phase := next })
    (found : w.commands.get? id = some task ∨ next.stage = none)
    (extends_ : w.db.Extends w'.db)
    (stored : next.stage.isSome ∨ (∃ session, next = .replay session) →
      w'.db.receipts.contains task.request.requestId = true)
    (fresh : next.stage.isSome → task.phase.stage.isSome ∨
      w.db.receipts.contains task.request.requestId = false)
    (table : ∀ requestId pending, w'.hub.commands.get? requestId = some pending →
      w.hub.commands.get? requestId = some pending ∨
        requestId = task.request.requestId ∧ next.stage.isSome)
    (bound : next.stage = some .dispatching → ∀ pending,
      w'.hub.commands.get? task.request.requestId = some pending → pending.connId = task.conn)
    (rejecting : next.stage = some .rejecting →
      w'.hub.commands.get? task.request.requestId = none) : Held w' := by
  -- another handler of the request holds it neither before nor after
  have alone : ∀ id' task', id' ≠ id → w.commands.get? id' = some task' →
      task'.request.requestId = task.request.requestId → task'.phase.stage.isSome →
        next.stage.isSome → False := by
    intro id' task' other found' same stage stage'
    have present : w.commands.get? id = some task := by
      rcases found with found | none
      · exact found
      · rw [none] at stage'
        cases stage'
    rcases fresh stage' with before | absent
    · exact other (held.unique id' task' id task found' present same stage before)
    · rw [← same, held.handlers id' task' found' (.inl stage)] at absent
      cases absent
  refine ⟨?_, ?_, ?_, ?_, ?_⟩
  · intro id' task' found' stage
    rw [commands, FiniteMap.get?_insert] at found'
    split at found'
    · cases found'
      exact stored stage
    · exact contains_of_extends extends_ (held.handlers id' task' found' stage)
  · intro requestId pending entry
    rcases table _ _ entry with old | ⟨rfl, stage⟩
    · exact contains_of_extends extends_ (held.table requestId pending old)
    · exact stored (.inl stage)
  · intro id₁ task₁ id₂ task₂ found₁ found₂ same stage₁ stage₂
    rw [commands, FiniteMap.get?_insert] at found₁ found₂
    split at found₁
    · next is₁ =>
      cases found₁
      split at found₂
      · next is₂ => rw [is₁, is₂]
      · next other => exact (alone id₂ task₂ other found₂ same.symm stage₂ stage₁).elim
    · next other =>
      split at found₂
      · cases found₂
        exact (alone id₁ task₁ other found₁ same stage₁ stage₂).elim
      · exact held.unique id₁ task₁ id₂ task₂ found₁ found₂ same stage₁ stage₂
  · intro id' task' pending found' stage entry
    rw [commands, FiniteMap.get?_insert] at found'
    split at found'
    · cases found'
      exact bound stage pending entry
    · next other =>
      rcases table _ _ entry with old | ⟨same, stage'⟩
      · exact held.bound id' task' pending found' stage old
      · exact (alone id' task' other found' same (by rw [stage]; rfl) stage').elim
  · intro id' task' found' stage
    rw [commands, FiniteMap.get?_insert] at found'
    split at found'
    · cases found'
      exact rejecting stage
    · next other =>
      by_contra entry
      obtain ⟨pending, entry⟩ := Option.ne_none_iff_exists'.mp entry
      rcases table _ _ entry with old | ⟨same, stage'⟩
      · cases (held.rejecting id' task' found' stage).symm.trans old
      · exact (alone id' task' other found' same (by rw [stage]; rfl) stage').elim

/-- A handler's own step. -/
theorem commandStep (held : Held w) {env : ServiceCtx} {id : Nat} {task : CommandTask}
    (found : w.commands.get? id = some task) : Held (w.commandStep env id task) := by
  have extends_ := Service.commandStep_extends (w := w) env id task
  obtain ⟨conn, ident, request, phase⟩ := task
  have old {h : HubInner} (same : h.commands = w.hub.commands) (stage : Bool) (requestId : String)
      (pending : PendingCommand) (entry : h.commands.get? requestId = some pending) :
      w.hub.commands.get? requestId = some pending ∨ requestId = request.requestId ∧ stage :=
    .inl (same ▸ entry)
  -- the handler goes on without the request
  have quiet {w' : Service} (next : CommandPhase)
      (commands : w'.commands = w.commands.insert id ⟨conn, ident, request, next⟩)
      (extends_ : w.db.Extends w'.db) (table : w'.hub.commands = w.hub.commands)
      (stage : next.stage = none) (other : ∀ session, next ≠ .replay session) : Held w' := by
    refine held.moved commands (.inl found) extends_ ?_ (by simp [stage]) (old table _)
      (by simp [stage]) (by simp [stage])
    rintro (holds | ⟨session, replay⟩)
    · rw [stage] at holds
      cases holds
    · exact absurd replay (other session)
  unfold Service.commandStep at extends_ ⊢
  cases phase with
  | done => exact held
  | checkShutdown | checkWrites | checkOnline =>
    dsimp only at extends_ ⊢
    split <;> exact quiet _ rfl (.refl _) rfl rfl (fun _ same => by cases same)
  | checkOwner | findSession =>
    dsimp only at extends_ ⊢
    repeat' split
    all_goals exact quiet _ rfl (.refl _) rfl rfl (fun _ same => by cases same)
  | pickDevice =>
    dsimp only at extends_ ⊢
    split <;> exact quiet _ rfl (.refl _) rfl rfl (fun _ same => by cases same)
  | checkExpiry =>
    dsimp only
    split
    · refine quiet .done rfl (.refl _) ?_ rfl (fun _ same => by cases same)
      dsimp only [Service.setCommand, HubInner.closeBrowser]
      split
      · exact HubInner.removeBrowser_commands conn w.hub
      · rfl
    · split <;> exact quiet _ rfl (.refl _) rfl rfl (fun _ same => by cases same)
  | insertReceipt device session =>
    dsimp only at extends_ ⊢
    split
    · next executes =>
      split
      · next inserted =>
        rw [if_pos executes, if_pos inserted] at extends_
        unfold Database.insertReceipt at inserted extends_ ⊢
        split at inserted
        · cases inserted
        · next absent =>
          rw [if_neg absent] at extends_ ⊢
          refine held.moved rfl (.inl found) extends_ (fun _ => ?_)
            (fun _ => .inr (by simpa using absent)) (old rfl _) (fun due => by cases due)
            (fun due => by cases due)
          simp [Service.setCommand, FiniteMap.contains]
      · next conflict =>
        refine held.moved rfl (.inl found) (.refl _) (fun _ => ?_) (fun due => by cases due)
          (old rfl _) (fun due => by cases due) (fun due => by cases due)
        unfold Database.insertReceipt at conflict
        by_contra absent
        have absent' : ¬ w.db.receipts.contains request.requestId = true := absent
        exact conflict (by rw [if_neg absent'])
    · exact quiet _ rfl (.refl _) rfl rfl (fun _ same => by cases same)
  | replay session =>
    dsimp only at extends_ ⊢
    repeat' split
    all_goals exact quiet _ rfl (.refl _) rfl rfl (fun _ same => by cases same)
  | register device =>
    have stored := held.handlers id _ found (.inl rfl)
    refine held.moved rfl (.inl found) (.refl _) (fun _ => stored) (fun _ => .inl rfl) ?_ ?_
      (fun due => by cases due)
    · intro requestId pending entry
      dsimp only [Service.setCommand, HubInner.registerCommand] at entry
      rw [FiniteMap.get?_insert] at entry
      split at entry
      · next same => exact .inr ⟨same, rfl⟩
      · exact .inl entry
    · intro _ pending entry
      dsimp only [Service.setCommand, HubInner.registerCommand] at entry
      rw [FiniteMap.get?_insert, if_pos rfl] at entry
      cases entry
      rfl
  | send device =>
    dsimp only
    split
    · exact quiet .done rfl (.refl _) (HubInner.sendToBridge_commands _ _ _) rfl
        (fun _ same => by cases same)
    · refine held.moved rfl (.inl found) (.refl _) (fun _ => held.handlers id _ found (.inl rfl))
        (fun _ => .inl rfl) (old (HubInner.sendToBridge_commands _ _ _) _) ?_ (fun due => by cases due)
      intro _ pending entry
      dsimp only [Service.setCommand] at entry
      rw [HubInner.sendToBridge_commands] at entry
      exact held.bound id _ pending found rfl entry
  | takeBack =>
    have table (requestId : String) : (w.hub.takeCommand request.requestId).commands.get? requestId =
        if requestId = request.requestId then none else w.hub.commands.get? requestId :=
      FiniteMap.get?_erase _ _ _
    refine held.moved rfl (.inl found) (.refl _) (fun _ => held.handlers id _ found (.inl rfl))
      (fun _ => .inl rfl) ?_ (fun due => by cases due) fun _ => (table _).trans (if_pos rfl)
    intro requestId pending entry
    dsimp only [Service.setCommand] at entry
    rw [table] at entry
    split at entry
    · cases entry
    · exact .inl entry
  | reject =>
    have stored := held.handlers id _ found (.inl rfl)
    have same := Service.updateReceipt_hub env ⟨request.requestId, .rejected, .deviceOffline⟩ w
    have moved : (w.updateReceipt env ⟨request.requestId, .rejected, .deviceOffline⟩).commands =
        w.commands := by
      unfold Service.updateReceipt
      split <;> rfl
    have commands : ((w.updateReceipt env ⟨request.requestId, .rejected, .deviceOffline⟩).setCommand
        id ⟨conn, ident, request, .reject⟩ .rejectedReply).commands =
          w.commands.insert id ⟨conn, ident, request, .rejectedReply⟩ := by
      unfold Service.setCommand
      dsimp only
      rw [moved]
    exact held.moved commands (.inl found) extends_ (fun _ => contains_of_extends extends_ stored)
      (fun _ => .inl rfl) (old (congrArg (·.commands) same) _) (fun due => by cases due) fun _ =>
        (congrArg (fun h => h.commands.get? request.requestId) same).trans
          (held.rejecting id _ found rfl)
  | reply result => exact quiet .done rfl (.refl _) rfl rfl (fun _ same => by cases same)
  | rejectedReply => exact quiet .done rfl (.refl _) rfl rfl (fun _ same => by cases same)

theorem step (held : Held w) (s : ServiceStep) : Held (w.step s) := by
  have extends_ := Service.step_extends (w := w) s
  by_cases command : ∃ id, s.op = .command id
  · obtain ⟨id, op⟩ := command
    obtain ⟨env, _⟩ := s
    subst op
    dsimp only [Service.step]
    split
    · next task found => exact held.commandStep found
    · exact held
  · have other : ∀ id, s.op ≠ .command id := fun id same => command ⟨id, same⟩
    have table (requestId : String) (pending : PendingCommand)
        (entry : (w.step s).hub.commands.get? requestId = some pending) :
        w.hub.commands.get? requestId = some pending := by
      rw [Service.step_table other] at entry
      split at entry
      · cases entry
      · exact entry
    by_cases request : ∃ id conn request, s.op = .request id conn request
    · obtain ⟨id, conn, request, op⟩ := request
      obtain ⟨env, _⟩ := s
      subst op
      dsimp only [Service.step]
      split
      · exact held
      · split
        · next browser _ =>
          let task : CommandTask := ⟨conn, browser.ident, request, .checkShutdown⟩
          have stored : CommandPhase.checkShutdown.stage.isSome ∨
              (∃ session, CommandPhase.checkShutdown = .replay session) →
                w.db.receipts.contains task.request.requestId = true := by
            rintro (stage | ⟨session, replay⟩)
            · cases stage
            · cases replay
          exact held.moved (rfl : _ = w.commands.insert _ { task with phase := .checkShutdown })
            (.inr rfl) (.refl _) stored (fun due => by cases due)
            (fun _ _ entry => .inl entry) (fun due => by cases due) (fun due => by cases due)
        · exact held
    · exact held.of_fewer extends_ (Service.step_commands
        (fun id conn request' same => request ⟨id, conn, request', same⟩) other) table

end Held

/-! ## Handlers that are still to answer -/

namespace Service

variable {w w' : Service} {requestId : String} {conn : Uuid}

theorem answering_iff : w.answering requestId conn = true ↔ ∃ id task,
    w.commands.get? id = some task ∧ task.conn = conn ∧ task.request.requestId = requestId ∧
      task.phase.answers = true := by
  simp only [answering, List.any_eq_true, Bool.and_eq_true, beq_iff_eq, Prod.exists,
    FiniteMap.mem_toList, and_assoc]

/-- When a handler moves on, only its own request may lose its answer. -/
theorem answering_moved {id : Nat} {task : CommandTask} {next : CommandPhase}
    (commands : w'.commands = w.commands.insert id { task with phase := next })
    (found : w.commands.get? id = some task) (quiet : w'.answering requestId conn = false) :
    w.answering requestId conn = false ∨
      task.conn = conn ∧ task.request.requestId = requestId ∧ task.phase.answers = true ∧
        next.answers = false := by
  by_contra all
  simp only [not_or, not_and, Bool.not_eq_false] at all
  obtain ⟨before, own⟩ := all
  obtain ⟨id', task', found', rfl, rfl, answers⟩ := answering_iff.mp before
  have after : w'.answering task'.request.requestId task'.conn = true := by
    by_cases same : id' = id
    · subst same
      cases found'.symm.trans found
      exact answering_iff.mpr ⟨id', { task with phase := next }, by simp [commands], rfl, rfl,
        own rfl rfl answers⟩
    · exact answering_iff.mpr ⟨id', task', by
        rw [commands, FiniteMap.get?_insert, if_neg same]; exact found', rfl, rfl, answers⟩
  rw [after] at quiet
  cases quiet

/-- A new handler takes no answer away. -/
theorem answering_started {id : Nat} {task : CommandTask}
    (commands : w'.commands = w.commands.insert id task) (fresh : w.commands.get? id = none)
    (quiet : w'.answering requestId conn = false) : w.answering requestId conn = false := by
  by_contra before
  obtain ⟨id', task', found, rfl, rfl, answers⟩ := answering_iff.mp (by simpa using before)
  have other : id' ≠ id := by
    rintro rfl
    cases fresh.symm.trans found
  have after : w'.answering task'.request.requestId task'.conn = true :=
    answering_iff.mpr ⟨id', task', by
      rw [commands, FiniteMap.get?_insert, if_neg other]; exact found, rfl, rfl, answers⟩
  rw [after] at quiet
  cases quiet

theorem answering_same (commands : w'.commands = w.commands) :
    w'.answering requestId conn = w.answering requestId conn := by
  unfold answering
  rw [commands]

theorem connected_iff : w.connected conn = true ↔
    ∃ ident, idents w.hub.browsers conn = some ident := by
  unfold connected idents FiniteMap.contains
  cases w.hub.browsers.get? conn with
  | none => simp
  | some bc => simp

theorem connected_of_undisturbed (undisturbed : Undisturbed w.hub w'.hub)
    (after : w'.connected conn = true) : w.connected conn = true := by
  rw [connected_iff] at after ⊢
  rwa [undisturbed.idents] at after

/-- A step opens no connection but the one it registers. -/
theorem connected_before {s : ServiceStep} (after : (w.step s).connected conn = true)
    (other : ∀ ident task, s.op ≠ .hub (.registerBrowser conn ident) task) :
    w.connected conn = true := by
  obtain ⟨ident, after⟩ := connected_iff.mp after
  rcases step_idents after with before | ⟨task, opened⟩
  · exact connected_iff.mpr ⟨ident, before⟩
  · exact absurd opened (other ident task)

end Service

/-! ## The invariant -/

namespace Waiting

variable {s : Waiting}

/-- The last sender of each request is accounted for; ids of connections are known once
they are open. -/
structure Inv (s : Waiting) : Prop where
  held : Held s.service
  known : ∀ conn, s.service.connected conn = true → conn ∈ s.opened
  senders : ∀ requestId sender, s.senders.get? requestId = some sender → sender ∈ s.opened
  awaited : Awaited s

theorem Inv.new : Inv .new where
  held := .new
  known := by simp [Waiting.new, Service.new, HubInner.new, Service.connected, FiniteMap.contains]
  senders := by simp [Waiting.new]
  awaited := by
    intro requestId sender sent
    simp [Waiting.new] at sent

/-- What a sender may expect of the table. -/
def Due (service : Service) (waiting : FiniteMap String Uuid) (requestId : String)
    (sender : Uuid) : Prop :=
  match service.hub.commands.get? requestId with
  | some pending => pending.connId = sender
  | none => waiting.get? requestId ≠ some sender

theorem Due.of_entry {service : Service} {waiting : FiniteMap String Uuid} {requestId : String}
    {sender : Uuid} {pending : PendingCommand}
    (entry : service.hub.commands.get? requestId = some pending) (own : pending.connId = sender) :
    Due service waiting requestId sender := by
  unfold Due
  rw [entry]
  exact own

theorem Due.of_served {service : Service} {waiting : FiniteMap String Uuid} {requestId : String}
    {sender : Uuid} (absent : service.hub.commands.get? requestId = none)
    (served : waiting.get? requestId ≠ some sender) : Due service waiting requestId sender := by
  unfold Due
  rw [absent]
  exact served

theorem Due.of_same {service service' : Service} {waiting waiting' : FiniteMap String Uuid}
    {requestId : String} {sender : Uuid} (due : Due service waiting requestId sender)
    (table : service'.hub.commands.get? requestId = service.hub.commands.get? requestId)
    (fewer : waiting'.get? requestId = some sender → waiting.get? requestId = some sender) :
    Due service' waiting' requestId sender := by
  unfold Due at due ⊢
  rw [table]
  split at due
  · exact due
  · exact fun still => due (fewer still)

/-- The connections that still wait after a step. -/
def rest (s : Waiting) (i : ServiceStep) : FiniteMap String Uuid :=
  s.waiting.filter fun requestId conn =>
    !(s.service.connected conn && (s.service.results i).contains (conn, requestId))

theorem of_rest {i : ServiceStep} {requestId : String} {conn : Uuid}
    (still : (s.rest i).get? requestId = some conn) : s.waiting.get? requestId = some conn ∧
      ¬ (s.service.connected conn = true ∧ (conn, requestId) ∈ s.service.results i) := by
  unfold rest at still
  rw [FiniteMap.get?_filter, Option.filter_eq_some_iff] at still
  refine ⟨still.1, ?_⟩
  rintro ⟨up, member⟩
  have unserved := still.2
  simp [up, member] at unserved

/-- A step of no handler. -/
theorem Inv.step_other (inv : Inv s) {i : ServiceStep} (command : ∀ id, i.op ≠ .command id)
    (request : ∀ id conn request, i.op ≠ .request id conn request)
    (register : ∀ conn ident task, i.op ≠ .hub (.registerBrowser conn ident) task) :
    Inv { s with service := s.service.step i, waiting := s.rest i } := by
  have commands := Service.step_commands (w := s.service) request command
  have before {conn : Uuid} (after : (s.service.step i).connected conn = true) :
      s.service.connected conn = true :=
    Service.connected_before after fun ident task => register conn ident task
  refine ⟨inv.held.step i, fun conn after => inv.known conn (before after), inv.senders, ?_⟩
  intro requestId sender sent connected quiet
  rw [Service.answering_same commands] at quiet
  have due : Due s.service s.waiting requestId sender :=
    inv.awaited requestId sender sent (before connected) quiet
  by_cases taken : requestId ∈ s.service.takes i
  · have emptied : (s.service.step i).hub.commands.get? requestId = none := by
      rw [Service.step_table command, if_pos taken]
    dsimp only
    rw [emptied]
    intro still
    obtain ⟨waits, unserved⟩ := of_rest still
    unfold Due at due
    split at due
    · next pending entry =>
      refine unserved ⟨before connected, ?_⟩
      unfold Service.results
      split
      · next id same => exact absurd same (command id)
      · exact List.mem_filterMap.mpr ⟨requestId, taken, by rw [entry, ← due]; rfl⟩
    · exact due waits
  · exact due.of_same (by rw [Service.step_table command, if_neg taken])
      fun still => (of_rest still).1

/-- A connection is opened. -/
theorem Inv.step_register (inv : Inv s) (env : ServiceCtx) {conn : Uuid} {ident : BrowserIdentity}
    {task : HubOp.ofTask (.registerBrowser conn ident) = false} (fresh : conn ∉ s.opened) :
    Inv { s with
      service := s.service.step ⟨env, .hub (.registerBrowser conn ident) task⟩
      opened := conn :: s.opened } := by
  have before {other : Uuid} (different : other ≠ conn)
      (after : (s.service.step ⟨env, .hub (.registerBrowser conn ident) task⟩).connected other =
        true) : s.service.connected other = true := by
    refine Service.connected_before after ?_
    intro ident' task' same
    cases same
    exact different rfl
  refine ⟨inv.held.step ⟨env, .hub (.registerBrowser conn ident) task⟩, ?_, ?_, ?_⟩
  · intro other after
    by_cases same : other = conn
    · exact same ▸ List.mem_cons_self
    · exact List.mem_cons_of_mem _ (inv.known other (before same after))
  · intro requestId sender sent
    exact List.mem_cons_of_mem _ (inv.senders requestId sender sent)
  · intro requestId sender sent connected quiet
    have different : sender ≠ conn := by
      rintro rfl
      exact fresh (inv.senders requestId sender sent)
    exact inv.awaited requestId sender sent (before different connected) quiet

/-- A request is sent. -/
theorem Inv.step_request (inv : Inv s) (env : ServiceCtx) {id : Nat} {conn : Uuid}
    {request : CommandRequest} (new : s.service.commands.contains id = false)
    (connected : s.service.connected conn = true) :
    Inv { s with
      service := s.service.step ⟨env, .request id conn request⟩
      senders := s.senders.insert request.requestId conn
      waiting := s.waiting.insert request.requestId conn } := by
  obtain ⟨browser, open_⟩ := Option.isSome_iff_exists.mp connected
  have moved : s.service.step ⟨env, .request id conn request⟩ = { s.service with
      commands := s.service.commands.insert id ⟨conn, browser.ident, request, .checkShutdown⟩ } := by
    simp [Service.step, new, open_]
  have fresh : s.service.commands.get? id = none := by simpa [FiniteMap.contains] using new
  refine ⟨inv.held.step ⟨env, .request id conn request⟩, ?_, ?_, ?_⟩
  · rw [moved]
    exact inv.known
  · intro requestId sender sent
    dsimp only at sent
    rw [FiniteMap.get?_insert] at sent
    split at sent
    · cases sent
      exact inv.known conn connected
    · exact inv.senders requestId sender sent
  · intro requestId sender sent up quiet
    dsimp only at sent up quiet ⊢
    rw [moved] at up quiet ⊢
    rw [FiniteMap.get?_insert] at sent
    split at sent
    · next same =>
      -- the new handler is still to answer
      cases sent
      let task : CommandTask := ⟨conn, browser.ident, request, .checkShutdown⟩
      have answers := (Service.answering_iff (w := {
          s.service with commands := s.service.commands.insert id task })).mpr
        ⟨id, task, FiniteMap.get?_insert_self _ _ _, rfl, same.symm, rfl⟩
      cases quiet.symm.trans answers
    · next other =>
      have due : Due s.service s.waiting requestId sender := inv.awaited requestId sender sent up
        (Service.answering_started rfl fresh quiet)
      refine due.of_same rfl fun still => ?_
      rwa [FiniteMap.get?_insert, if_neg other] at still

/-- What a handler's step has to keep: the entries of other requests, and for its own what
is due before, and what is due to its connection once it no longer answers. -/
theorem Awaited.moved (awaited : Awaited s) {service : Service} {waiting : FiniteMap String Uuid}
    {id : Nat} {task : CommandTask} (next : CommandPhase)
    (commands : service.commands = s.service.commands.insert id { task with phase := next })
    (found : s.service.commands.get? id = some task)
    (before : ∀ conn, service.connected conn = true → s.service.connected conn = true)
    (fewer : ∀ requestId conn, waiting.get? requestId = some conn →
      s.waiting.get? requestId = some conn)
    (table : ∀ requestId ≠ task.request.requestId,
      service.hub.commands.get? requestId = s.service.hub.commands.get? requestId)
    (own : ∀ sender, s.senders.get? task.request.requestId = some sender →
      s.service.connected sender = true →
      s.service.answering task.request.requestId sender = false →
      Due s.service s.waiting task.request.requestId sender →
        Due service waiting task.request.requestId sender)
    (ends : task.phase.answers = true → next.answers = false →
      s.senders.get? task.request.requestId = some task.conn → service.connected task.conn = true →
        Due service waiting task.request.requestId task.conn) :
    Awaited { s with service, waiting } := by
  intro requestId sender sent connected quiet
  rcases Service.answering_moved commands found quiet with unanswered | ⟨rfl, rfl, answers, stops⟩
  · have due : Due s.service s.waiting requestId sender :=
      awaited requestId sender sent (before sender connected) unanswered
    by_cases same : requestId = task.request.requestId
    · subst same
      exact own sender sent (before sender connected) unanswered due
    · exact due.of_same (table requestId same) (fewer requestId sender)
  · exact ends answers stops sent connected

/-- A handler's own step. -/
theorem Inv.step_command (inv : Inv s) {env : ServiceCtx} {id : Nat} {task : CommandTask}
    (found : s.service.commands.get? id = some task)
    (orderly : s.orderly ⟨env, .command id⟩ = true) :
    Inv { s with
      service := s.service.commandStep env id task
      waiting := s.rest ⟨env, .command id⟩ } := by
  have stepped : s.service.step ⟨env, .command id⟩ = s.service.commandStep env id task := by
    simp [Service.step, found]
  have before (conn : Uuid) (after : (s.service.commandStep env id task).connected conn = true) :
      s.service.connected conn = true :=
    Service.connected_before (stepped ▸ after) (by simp)
  refine ⟨stepped ▸ inv.held.step ⟨env, .command id⟩,
    fun conn after => inv.known conn (before conn after), inv.senders, ?_⟩
  have fewer (requestId : String) (conn : Uuid)
      (still : (s.rest ⟨env, .command id⟩).get? requestId = some conn) :
      s.waiting.get? requestId = some conn := (of_rest still).1
  -- a pushed terminal result is no longer waited for
  have served {conn : Uuid} {requestId : String} (up : s.service.connected conn = true)
      (pushed : (conn, requestId) ∈ s.service.results ⟨env, .command id⟩) :
      (s.rest ⟨env, .command id⟩).get? requestId ≠ some conn :=
    fun still => (of_rest still).2 ⟨up, pushed⟩
  have held := inv.held
  have awaited := inv.awaited
  obtain ⟨conn, ident, request, phase⟩ := task
  have keep {service : Service} (next : CommandPhase)
      (commands : service.commands = s.service.commands.insert id ⟨conn, ident, request, next⟩)
      (before : ∀ conn, service.connected conn = true → s.service.connected conn = true)
      (table : service.hub.commands = s.service.hub.commands)
      (ends : phase.answers = true → next.answers = false →
        s.senders.get? request.requestId = some conn → service.connected conn = true →
          Due service (s.rest ⟨env, .command id⟩) request.requestId conn) :
      Awaited { s with service, waiting := s.rest ⟨env, .command id⟩ } :=
    awaited.moved next commands found before fewer (fun _ _ => by rw [table])
      (fun _ _ _ _ due => due.of_same (by rw [table]) (fewer _ _)) ends
  -- a handler that answers afterwards if it did before
  have pass {service : Service} (next : CommandPhase)
      (commands : service.commands = s.service.commands.insert id ⟨conn, ident, request, next⟩)
      (before : ∀ conn, service.connected conn = true → s.service.connected conn = true)
      (table : service.hub.commands = s.service.hub.commands)
      (stays : (phase.answers && !next.answers) = false) :
      Awaited { s with service, waiting := s.rest ⟨env, .command id⟩ } := by
    refine keep next commands before table fun answered silent => ?_
    rw [answered, silent] at stays
    cases stays
  unfold Service.commandStep
  cases phase with
  | done =>
    intro requestId sender sent connected quiet
    have due : Due s.service s.waiting requestId sender :=
      awaited requestId sender sent connected quiet
    exact due.of_same rfl (fewer _ _)
  | checkShutdown | checkWrites | checkOwner | checkOnline | findSession | pickDevice
  | insertReceipt =>
    dsimp only
    repeat' split
    all_goals exact pass _ rfl (fun _ up => up) rfl rfl
  | checkExpiry =>
    have closes {w : Service} (hub : w.hub = s.service.hub.closeBrowser conn) (other : Uuid)
        (up : w.connected other = true) : other ≠ conn ∧ s.service.connected other = true := by
      obtain ⟨who, open_⟩ := Service.connected_iff.mp up
      rw [hub, HubInner.closeBrowser_idents] at open_
      split at open_
      · cases open_
      · next different => exact ⟨different, Service.connected_iff.mpr ⟨who, open_⟩⟩
    dsimp only
    split
    · refine keep .done rfl (fun other up => (closes rfl other up).2) ?_ ?_
      · dsimp only [Service.setCommand, HubInner.closeBrowser]
        split
        · exact HubInner.removeBrowser_commands conn s.service.hub
        · rfl
      · intro _ _ _ up
        exact absurd rfl (closes rfl conn up).1
    · split <;> exact pass _ rfl (fun _ up => up) rfl rfl
  | replay session =>
    have stored := held.handlers id _ found (.inr ⟨session, rfl⟩)
    obtain ⟨row, receipt⟩ := Option.isSome_iff_exists.mp stored
    dsimp only at receipt ⊢
    split
    · split
      · exact pass _ rfl (fun _ up => up) rfl rfl
      · next fails =>
        refine keep .done rfl (fun _ up => up) rfl fun _ _ sent _ => ?_
        simp [Waiting.orderly, found, sent, fails] at orderly
    · next absent => cases receipt.symm.trans absent
  | register device =>
    have last (sender : Uuid) (sent : s.senders.get? request.requestId = some sender)
        (up : s.service.connected sender = true)
        (unanswered : s.service.answering request.requestId sender = false) : sender = conn := by
      simpa [Waiting.orderly, found, sent, up, unanswered] using orderly
    have entry : (s.service.hub.registerCommand request.requestId conn device
        request.operation).commands.get? request.requestId =
          some { connId := conn, device, operation := request.operation } :=
      FiniteMap.get?_insert_self _ _ _
    refine awaited.moved (.send device) rfl found (fun _ up => up) fewer ?_ ?_ ?_
    · intro requestId other
      exact (FiniteMap.get?_insert _ _ _ _).trans (if_neg other)
    · intro sender sent up unanswered _
      exact .of_entry entry (last sender sent up unanswered).symm
    · intro _ _ _ _
      exact .of_entry entry rfl
  | send device =>
    dsimp only
    split
    · exact pass .done rfl (fun _ up => Service.connected_of_undisturbed
        (HubInner.sendToBridge_undisturbed _ _ _) up) (HubInner.sendToBridge_commands _ _ _) rfl
    · exact pass .takeBack rfl (fun _ up => Service.connected_of_undisturbed
        (HubInner.sendToBridge_undisturbed _ _ _) up) (HubInner.sendToBridge_commands _ _ _) rfl
  | takeBack =>
    have table (requestId : String) :
        (s.service.hub.takeCommand request.requestId).commands.get? requestId =
          if requestId = request.requestId then none else s.service.hub.commands.get? requestId :=
      FiniteMap.get?_erase _ _ _
    refine awaited.moved .reject rfl found (fun _ up => up) fewer ?_ ?_ ?_
    · intro requestId other
      exact (table requestId).trans (if_neg other)
    · intro sender sent up unanswered due
      refine .of_served ((table _).trans (if_pos rfl)) ?_
      unfold Due at due
      split at due
      · next pending entry =>
        -- the entry is this handler's own, and this handler is still to answer
        have own := held.bound id _ pending found rfl entry
        have answers := Service.answering_iff.mpr ⟨id, _, found, own.symm.trans due, rfl, rfl⟩
        cases unanswered.symm.trans answers
      · exact fun still => due (fewer _ _ still)
    · intro _ silent
      cases silent
  | reject =>
    have same := Service.updateReceipt_hub env ⟨request.requestId, .rejected, .deviceOffline⟩
      s.service
    refine pass .rejectedReply ?_ (fun other up => ?_) (congrArg (·.commands) same) rfl
    · dsimp only [Service.setCommand, Service.updateReceipt]
      split <;> rfl
    · unfold Service.connected at up ⊢
      dsimp only [Service.setCommand] at up
      rwa [same] at up
  | reply result =>
    refine keep .done rfl (fun _ up => Service.connected_of_undisturbed
      (HubInner.reply_undisturbed conn _ s.service.hub) up) rfl fun _ _ sent up => ?_
    have up' : s.service.connected conn = true := Service.connected_of_undisturbed
      (HubInner.reply_undisturbed conn _ s.service.hub) up
    simp only [Waiting.orderly, found, sent, up', bne_self_eq_false, Bool.not_true,
      Bool.false_or] at orderly
    split at orderly
    · next pending entry => exact .of_entry entry (by simpa using orderly)
    · next absent => exact .of_served absent (served up' (by simp [Service.results, found, orderly]))
  | rejectedReply =>
    refine keep .done rfl (fun _ up => Service.connected_of_undisturbed
      (HubInner.reply_undisturbed conn _ s.service.hub) up) rfl fun _ _ sent up => ?_
    have up' : s.service.connected conn = true := Service.connected_of_undisturbed
      (HubInner.reply_undisturbed conn _ s.service.hub) up
    exact .of_served (held.rejecting id _ found rfl) (served up' (by simp [Service.results, found]))

theorem Inv.idle (inv : Inv s) (i : ServiceStep) : Inv { s with waiting := s.rest i } := by
  refine ⟨inv.held, inv.known, inv.senders, ?_⟩
  intro requestId sender sent connected quiet
  have due : Due s.service s.waiting requestId sender :=
    inv.awaited requestId sender sent connected quiet
  exact due.of_same rfl fun still => (of_rest still).1

theorem Inv.step (inv : Inv s) (i : ServiceStep) (orderly : s.orderly i = true) :
    Inv (s.step i) := by
  obtain ⟨env, op⟩ := i
  unfold Waiting.step
  split
  · next conn ident task opens =>
    dsimp only at opens
    subst opens
    split
    · exact inv
    · next fresh => exact inv.step_register env fresh
  · next id conn request sends =>
    dsimp only at sends
    subst sends
    split
    · exact inv
    · next new =>
      simp only [Bool.or_eq_true, Bool.not_eq_true', not_or, Bool.not_eq_true,
        Bool.not_eq_false] at new
      exact inv.step_request env new.1 new.2
  · next notRegister notRequest =>
    by_cases command : ∃ id, op = .command id
    · obtain ⟨id, rfl⟩ := command
      cases found : s.service.commands.get? id with
      | none =>
        have idle : s.service.step ⟨env, .command id⟩ = s.service := by
          simp [Service.step, found]
        rw [idle]
        exact inv.idle ⟨env, .command id⟩
      | some task =>
        have stepped : s.service.step ⟨env, .command id⟩ = s.service.commandStep env id task := by
          simp [Service.step, found]
        rw [stepped]
        exact inv.step_command found orderly
    · exact inv.step_other (fun id same => command ⟨id, same⟩)
        (fun id conn request same => notRequest id conn request same)
        fun conn ident task same => notRegister conn ident task same

theorem Inv.reaches (inv : Inv s) (i : ServiceStep) : Reaches s i := by
  intro requestId conn sender other pushed sent connected
  have taken : (conn, requestId) ∈ (s.service.takes i).filterMap fun requestId =>
      (s.service.hub.commands.get? requestId).map fun pending => (pending.connId, requestId) := by
    unfold Service.results at pushed
    split at pushed
    · next id same => exact absurd same (other id)
    · exact pushed
  simp only [List.mem_filterMap, Option.map_eq_some_iff, Prod.mk.injEq] at taken
  obtain ⟨requestId, -, pending, entry, rfl, rfl⟩ := taken
  cases quiet : s.service.answering requestId sender with
  | true => exact .inr rfl
  | false =>
    have due := inv.awaited requestId sender sent connected quiet
    rw [entry] at due
    exact .inl due

/-! ## The theorem -/

end Waiting

namespace Resending

open Reconnecting

def newBrowser : Uuid := .ofLast 'n'

/-- The connection is lost, and its browser opens another one and sends the command
again. -/
def resends : List ServiceStep :=
  op (.hub (.removeBrowser browser) rfl) ::
    op (.hub (.registerBrowser newBrowser ⟨newBrowser, owner, 1⟩) rfl) ::
    op (.request 2 newBrowser ⟨"r", "CREATE_TASK", none, "", ""⟩) ::
    List.replicate 7 (op (.command 2))

end Resending

end AgentConsole.Relay
