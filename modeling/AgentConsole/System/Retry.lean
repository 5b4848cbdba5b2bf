import AgentConsole.Lib.Run
import AgentConsole.Relay.Frames
import AgentConsole.Relay.Reconnect
import AgentConsole.System.Chain

/-! # Copies of an executed request

The handlers of the Relay and the gateways test conditions that change over time before
they look for the receipt.  As long as those tests succeed for the copies of an executed
request, every copy is answered from the stored receipt. -/

namespace AgentConsole.System

open AgentConsole.Lib AgentConsole.Relay

/-! ## What is promised -/

/-- The answer a handler has decided on. -/
def answer? (requestId : String) : CommandPhase → Option CommandResult
  | .reply result => some result
  | .takeBack | .reject | .rejectedReply =>
    some (Service.commandRejected requestId .deviceOffline)
  | _ => none

/-- What a receipt says about its request. -/
def storedResult (requestId : String) (row : ReceiptRow) : CommandResult :=
  { Service.commandRejected requestId row.errorCode with status := row.status }

namespace Chain

variable (sha256 : CommandRequest → String) (digest : Bridge.CommandPayload → String)
  (decode : CommandRequest → Bridge.Capabilities → Option Bridge.CommandRequest)

/-- The handler of a late copy forwards nothing, and an answer it decides on is the
stored receipt, which is then what the page shows. -/
def RelayKeeps (s : Chain) (i : ChainInput) : Prop :=
  ∀ step id task after, i = .relay step → step.op = .command id → id ∈ s.late →
    s.relay.commands.get? id = some task →
    (s.step sha256 digest decode i).relay.commands.get? id = some after →
      (s.step sha256 digest decode i).forwarded = s.forwarded ∧
        ∀ result, answer? task.request.requestId task.phase = none →
          answer? task.request.requestId after.phase = some result →
            ∃ row, s.relay.db.receipts.get? task.request.requestId = some row ∧
              result = storedResult task.request.requestId row ∧
              ∀ page : Page, (page.handleReceipt result.requestId result.status).shown.get?
                task.request.requestId = some (Page.statusFromProto row.status)

/-- The gateway has executed a request with this id and payload. -/
def repeatsExecuted (gateway : Bridge.Gateway) (req : Bridge.CommandRequest) : Bool :=
  (gateway.receipts.get? req.requestId).any fun receipt =>
    receipt.digest == digest req.payload &&
      gateway.executed.contains (receipt.recorder, req.requestId)

/-- A copy of a request that the gateway has executed is not answered by the gates, but
with what the gateway has stored. -/
def GatewayKeeps (s : Chain) (i : ChainInput) : Prop :=
  (∀ index caps sent req, i = .read index caps → s.forwarded[index]? = some sent →
    decode sent.request caps = some req →
    repeatsExecuted digest (s.gateways sent.device) req = true →
      ((s.step sha256 digest decode i).gateways sent.device).answers =
        (s.gateways sent.device).answers) ∧
  ∀ device task answer n req given, i = .gateway device (.answer task answer) →
    (s.gateways device).submitted.get? n = some req →
    repeatsExecuted digest (s.gateways device) req = true →
    (n, req.requestId) ∉ (s.gateways device).executed →
    (s.gateways device).answers.get? n = none →
    ((s.step sha256 digest decode i).gateways device).answers.get? n = some given →
      ∃ state, given = .replayed state ∧ (state = .acceptedByBridge ∨
        ∃ receipt, (s.gateways device).receipts.get? req.requestId = some receipt ∧
          state = receipt.status)

/-! ## The condition -/

/-- The test that the handler of a late copy makes next succeeds:

* the Relay is not shutting down and writes are allowed;
* the device belongs to the owner, is not revoked and online, or the only one online;
* the database executes the statement. -/
def checkPasses (env : ServiceCtx) (w : Service) (task : CommandTask) : Bool :=
  match task.phase with
  | .checkShutdown => !w.hub.shutdown
  | .checkWrites => w.hub.writesAllowed env.ctx.now
  | .checkOwner => env.dbOk && (task.request.sessionKey.bind fun key =>
      Uuid.parse key.deviceId).all (w.db.ownsDevice task.ident.ownerId)
  | .checkOnline device _ => w.hub.isOnline device
  | .pickDevice => (w.hub.onlineDevicesOfOwner task.ident.ownerId).length == 1
  | .findSession .. | .insertReceipt .. => env.dbOk
  | _ => true

/-- The tests that come before the receipt succeed for a copy of an executed request:

* those of the Relay, for a copy that arrived after the execution;
* the gates of the gateway;
* `record_receipt`. -/
def testsPass (s : Chain) (i : ChainInput) : Bool :=
  match i with
  | .relay ⟨env, .command id⟩ =>
    match s.relay.commands.get? id with
    | some task => !s.late.contains id || checkPasses env s.relay task
    | none => true
  | .read index caps =>
    match s.forwarded[index]? with
    | some sent =>
      match decode sent.request caps with
      | some req =>
        !repeatsExecuted digest (s.gateways sent.device) req ||
          ((s.gateways sent.device).gate req caps).isNone
      | none => true
    | none => true
  | .gateway device (.answer task (.storeFailed _)) =>
    match (s.gateways device).tasks.get? task with
    | some (.record req) => !repeatsExecuted digest (s.gateways device) req
    | _ => true
  | _ => true

/-! ## Stored requests -/

/-- The session row the request names. -/
def sessionOf (db : Database) (request : CommandRequest) : Option Uuid :=
  request.sessionKey.bind fun key => (Uuid.parse key.deviceId).bind fun device =>
    db.findSession device (agentKindName key.agentKind) key.nativeSessionId

/-- A lookup of the session the request names gave `session`. -/
def Found (db : Database) (request : CommandRequest) (session : Option Uuid) : Prop :=
  session = sessionOf db request ∧ (request.sessionKey.isSome → session.isSome)

/-- The receipt of the request is stored under its owner. -/
def Stored (db : Database) (owner : Uuid) (request : CommandRequest) : Prop :=
  ∃ row, db.receipts.get? request.requestId = some row ∧ row.ownerId = owner ∧
    row.operation = request.operation ∧
    row.payloadDigest = sha256 { request with requestId := "", payloadDigest := "" } ∧
    Found db request row.sessionId

variable {sha256 digest decode}

theorem sameRequest_fields {a b : CommandRequest} (same : sameRequest a b = true) :
    a.requestId = b.requestId ∧ a.operation = b.operation ∧ a.sessionKey = b.sessionKey ∧
      a.rest = b.rest := by
  simpa [sameRequest] using same

theorem Found.extend {db db' : Database} {request : CommandRequest} {session : Option Uuid}
    (found : Found db request session) (extends_ : db.Extends db') : Found db' request session := by
  obtain ⟨rfl, complete⟩ := found
  refine ⟨?_, complete⟩
  unfold sessionOf at complete ⊢
  cases key : request.sessionKey with
  | none => rfl
  | some key' =>
    rw [key] at complete
    obtain ⟨id, lookup⟩ := Option.isSome_iff_exists.mp (complete rfl)
    simp only [Option.bind_some] at lookup ⊢
    obtain ⟨device, parsed, row⟩ := Option.bind_eq_some_iff.mp lookup
    simp only [parsed, Option.bind_some]
    rw [row, extends_.sessions _ _ _ _ row]

theorem Stored.extend {db db' : Database} {owner : Uuid} {request : CommandRequest}
    (stored : Stored sha256 db owner request) (extends_ : db.Extends db') :
    Stored sha256 db' owner request := by
  obtain ⟨row, found, owns, operation, digests, session⟩ := stored
  obtain ⟨row', found', same⟩ := extends_.receipts _ row found
  exact ⟨row', found', same.ownerId.trans owns, same.operation.trans operation,
    same.payloadDigest.trans digests, same.sessionId ▸ session.extend extends_⟩

theorem Stored.copy {db : Database} {owner : Uuid} {a b : CommandRequest}
    (stored : Stored sha256 db owner a) (same : sameRequest a b = true) :
    Stored sha256 db owner b := by
  obtain ⟨row, found, owns, operation, digests, session, complete⟩ := stored
  obtain ⟨ids, operations, keys, rests⟩ := sameRequest_fields same
  refine ⟨row, ids ▸ found, owns, operations ▸ operation, ?_, ?_, keys ▸ complete⟩
  · rw [digests]
    congr 1
    obtain ⟨_, _, _, _, _⟩ := a
    obtain ⟨_, _, _, _, _⟩ := b
    simp_all
  · rw [session]
    unfold sessionOf
    rw [keys]

/-! ## Handlers -/

/-- The handler has found no receipt of its request. -/
def pastReceipt : CommandPhase → Bool
  | .register _ | .send _ | .takeBack | .reject | .rejectedReply => true
  | _ => false

variable (sha256) in
/-- What a handler has established by the step it makes next. -/
def Established (db : Database) (task : CommandTask) : Prop :=
  match task.phase with
  | .checkOnline device key | .findSession device key =>
    task.request.sessionKey = some key ∧ Uuid.parse key.deviceId = some device
  | .checkOwner => task.request.sessionKey.isSome
  | .pickDevice => task.request.sessionKey = none
  | .insertReceipt _ session | .replay session => Found db task.request session
  | .register _ | .send _ => Stored sha256 db task.ident.ownerId task.request
  | _ => True

theorem Established.extend {db db' : Database} {task : CommandTask}
    (established : Established sha256 db task) (extends_ : db.Extends db') :
    Established sha256 db' task := by
  obtain ⟨conn, ident, request, phase⟩ := task
  cases phase with
  | insertReceipt device session => exact Found.extend established extends_
  | replay session => exact Found.extend established extends_
  | register device => exact Stored.extend established extends_
  | send device => exact Stored.extend established extends_
  | _ => exact established

section Handlers

variable {w : Service} {env : ServiceCtx} {task : CommandTask}

/-- A handler's step establishes what its next step relies on. -/
theorem commandStep_established (id : Nat) (digests : env.sha256 = sha256)
    (established : Established sha256 w.db task) (running : task.phase ≠ .done) :
    ∃ phase, (w.commandStep env id task).commands = w.commands.insert id { task with phase } ∧
      Established sha256 (w.commandStep env id task).db { task with phase } := by
  obtain ⟨conn, ident, request, phase⟩ := task
  subst digests
  unfold Service.commandStep
  cases phase with
  | done => exact absurd rfl running
  | checkExpiry =>
    dsimp only
    split
    · exact ⟨_, rfl, trivial⟩
    · split
      · next keyed => exact ⟨_, rfl, keyed⟩
      · next keyless => exact ⟨_, rfl, by simpa [Established] using keyless⟩
  | checkOwner =>
    dsimp only
    split
    · exact ⟨_, rfl, trivial⟩
    · next device key parsed =>
      split
      · refine ⟨_, rfl, ?_⟩
        simp only [Option.bind_eq_some_iff, Option.map_eq_some_iff] at parsed
        obtain ⟨key', named, device', parse, same⟩ := parsed
        cases same
        exact ⟨named, parse⟩
      · exact ⟨_, rfl, trivial⟩
  | checkOnline device key =>
    dsimp only
    split
    · exact ⟨_, rfl, established⟩
    · exact ⟨_, rfl, trivial⟩
  | findSession device key =>
    obtain ⟨named, parse⟩ := established
    dsimp only at named ⊢
    split
    · next session found =>
      split
      · refine ⟨_, rfl, ?_, fun _ => rfl⟩
        simp [sessionOf, Service.setCommand, named, parse, found]
      · exact ⟨_, rfl, trivial⟩
    · exact ⟨_, rfl, trivial⟩
  | pickDevice =>
    have keyless : request.sessionKey = none := established
    dsimp only
    split
    · exact ⟨_, rfl, by simp [sessionOf, keyless], by simp [keyless]⟩
    · exact ⟨_, rfl, trivial⟩
    · exact ⟨_, rfl, trivial⟩
  | insertReceipt device session =>
    have found : Found w.db request session := established
    dsimp only
    split
    · next executes =>
      split
      · next inserted =>
        refine ⟨_, rfl, ?_⟩
        unfold Database.insertReceipt at inserted ⊢
        split at inserted
        · cases inserted
        · next fresh =>
          rw [if_neg fresh]
          let row : ReceiptRow := ⟨ident.ownerId, session, request.operation,
            Service.canonicalBrowserCommandDigest env request, .received, .unspecified⟩
          exact ⟨row, by simp [Service.setCommand, row], rfl, rfl, rfl, found⟩
      · exact ⟨_, rfl, found⟩
    · exact ⟨_, rfl, trivial⟩
  | register device => exact ⟨_, rfl, established⟩
  | reject =>
    dsimp only
    unfold Service.updateReceipt
    split <;> exact ⟨_, rfl, trivial⟩
  | _ =>
    dsimp only
    repeat' split
    all_goals exact ⟨_, rfl, trivial⟩

/-- The handler of a request whose receipt is stored answers from it, as long as its
tests succeed. -/
theorem commandStep_answers (id : Nat) (digests : env.sha256 = sha256)
    (stored : Stored sha256 w.db task.ident.ownerId task.request)
    (established : Established sha256 w.db task) (quiet : pastReceipt task.phase = false)
    (passes : checkPasses env w task = true) (running : task.phase ≠ .done) :
    ∃ phase, (w.commandStep env id task).commands = w.commands.insert id { task with phase } ∧
      pastReceipt phase = false ∧ ∀ result,
        answer? task.request.requestId task.phase = none →
        answer? task.request.requestId phase = some result →
          ∃ row, w.db.receipts.get? task.request.requestId = some row ∧
            result = storedResult task.request.requestId row := by
  obtain ⟨conn, ident, request, phase⟩ := task
  obtain ⟨row, receipt, owns, operation, digest, session, complete⟩ := stored
  subst digests
  dsimp only at owns operation digest session complete receipt passes
  have go {w' : Service} {before : Prop} (next : CommandPhase)
      (commands : w'.commands = w.commands.insert id ⟨conn, ident, request, next⟩)
      (past : pastReceipt next = false) (silent : answer? request.requestId next = none) :
      ∃ phase, w'.commands = w.commands.insert id ⟨conn, ident, request, phase⟩ ∧
        pastReceipt phase = false ∧ ∀ result, before →
          answer? request.requestId phase = some result →
            ∃ row, w.db.receipts.get? request.requestId = some row ∧
              result = storedResult request.requestId row :=
    ⟨next, commands, past, fun _ _ answers => nomatch silent.symm.trans answers⟩
  unfold Service.commandStep
  cases phase with
  | done => exact absurd rfl running
  | register | send | takeBack | reject | rejectedReply => cases quiet
  | reply result => exact ⟨_, rfl, rfl, fun _ _ answers => nomatch answers⟩
  | checkShutdown =>
    have open_ : w.hub.shutdown = false := by simpa [checkPasses] using passes
    simp only [open_]
    exact go .checkWrites rfl rfl rfl
  | checkWrites =>
    have allowed : w.hub.writesAllowed env.ctx.now = true := passes
    simp only [allowed]
    exact go .checkExpiry rfl rfl rfl
  | checkExpiry =>
    dsimp only
    split
    · exact go .done rfl rfl rfl
    · split
      · exact go .checkOwner rfl rfl rfl
      · exact go .pickDevice rfl rfl rfl
  | checkOwner =>
    obtain ⟨key, keyed⟩ := Option.isSome_iff_exists.mp established
    dsimp only at keyed
    have known : (sessionOf w.db request).isSome := session ▸ complete (by rw [keyed]; rfl)
    obtain ⟨device, parsed⟩ : ∃ device, Uuid.parse key.deviceId = some device := by
      simp only [sessionOf, keyed, Option.bind_some, Option.isSome_iff_exists,
        Option.bind_eq_some_iff] at known
      obtain ⟨_, device, parsed, -⟩ := known
      exact ⟨device, parsed⟩
    have owned : env.dbOk = true ∧ w.db.ownsDevice ident.ownerId device = true := by
      simpa [checkPasses, keyed, parsed] using passes
    simp only [keyed, parsed, Option.bind_some, Option.map_some, owned.1, owned.2]
    exact go (.checkOnline device key) rfl rfl rfl
  | checkOnline device key =>
    have online : w.hub.isOnline device = true := passes
    simp only [online]
    exact go (.findSession device key) rfl rfl rfl
  | findSession device key =>
    obtain ⟨keyed, parsed⟩ := established
    dsimp only at keyed
    have executes : env.dbOk = true := passes
    have known : (sessionOf w.db request).isSome := session ▸ complete (by rw [keyed]; rfl)
    simp only [sessionOf, keyed, Option.bind_some, parsed] at known
    obtain ⟨row', found⟩ := Option.isSome_iff_exists.mp known
    simp only [found, executes]
    exact go (.insertReceipt device (some row')) rfl rfl rfl
  | pickDevice =>
    have single : (w.hub.onlineDevicesOfOwner ident.ownerId).length = 1 := by
      simpa [checkPasses] using passes
    obtain ⟨device, only⟩ := List.length_eq_one_iff.mp single
    simp only [only]
    exact go (.insertReceipt device none) rfl rfl rfl
  | insertReceipt device session' =>
    have executes : env.dbOk = true := passes
    dsimp only
    rw [if_pos executes, if_neg (by simp [Database.insertReceipt, FiniteMap.contains, receipt])]
    exact go (.replay session') rfl rfl rfl
  | replay session' =>
    have same : session' = row.sessionId := established.1.trans session.symm
    dsimp only
    split
    · next row' found =>
      obtain rfl : row' = row := by simpa [receipt] using found.symm
      split
      · refine ⟨_, rfl, rfl, ?_⟩
        rintro result - answers
        refine ⟨row', receipt, ?_⟩
        simp only [answer?, Service.replayResult, owns, same, operation, digest,
          Service.canonicalBrowserCommandDigest, ne_eq, not_true_eq_false, or_self, if_false,
          Option.some.injEq] at answers
        exact answers.symm
      · exact go .done rfl rfl rfl
    · next absent => exact nomatch receipt.symm.trans absent

end Handlers

/-! ## The invariant -/

variable (sha256 digest) in
/-- Handlers have established what they rely on, a forwarded request is stored, and the
handlers of late copies know of the receipt. -/
structure Inv (s : Chain) : Prop where
  handlers : ∀ id task, s.relay.commands.get? id = some task → Established sha256 s.relay.db task
  forwarded : ∀ sent ∈ s.forwarded, Stored sha256 s.relay.db sent.owner sent.request
  origins : ∀ origin ∈ s.origins, origin.1 ∈ s.forwarded
  late : ∀ id ∈ s.late, ∃ task, s.relay.commands.get? id = some task ∧
    Stored sha256 s.relay.db task.ident.ownerId task.request ∧ pastReceipt task.phase = false
  gateways : ∀ device, (s.gateways device).Admission digest

theorem Inv.new : Inv sha256 digest .new where
  handlers := by simp [Chain.new, Service.new]
  forwarded := by simp [Chain.new]
  origins := by simp [Chain.new]
  late := by simp [Chain.new]
  gateways := fun _ => Bridge.Gateway.admission_init

variable {s : Chain}

/-- An executed request has its receipt. -/
theorem Inv.executed_stored (inv : Inv sha256 digest s) {owner : Uuid} {request : CommandRequest}
    (executed : s.executed owner request = true) : Stored sha256 s.relay.db owner request := by
  simp only [Chain.executed, List.any_eq_true, Bool.and_eq_true, decide_eq_true_eq] at executed
  obtain ⟨origin, member, ⟨rfl, same⟩, -⟩ := executed
  exact (inv.forwarded _ (inv.origins _ member)).copy same

section Relay

variable {step : ServiceStep}

/-- A step that neither starts nor moves a handler. -/
theorem Inv.step_rest (inv : Inv sha256 digest s)
    (request : ∀ id conn request, step.op ≠ .request id conn request)
    (command : ∀ id, step.op ≠ .command id) :
    Inv sha256 digest { s with relay := s.relay.step step } := by
  have extends_ := Service.step_extends (w := s.relay) step
  have commands := Service.step_commands (w := s.relay) request command
  refine ⟨?_, fun sent member => (inv.forwarded sent member).extend extends_, inv.origins, ?_,
    inv.gateways⟩
  · intro id task found
    exact (inv.handlers id task (commands ▸ found)).extend extends_
  · intro id member
    obtain ⟨task, found, stored, quiet⟩ := inv.late id member
    exact ⟨task, commands ▸ found, stored.extend extends_, quiet⟩

/-- A request starts a handler; a late copy has its receipt already. -/
theorem Inv.step_request (inv : Inv sha256 digest s) (env : ServiceCtx) (id : Nat) (conn : Uuid)
    (request : CommandRequest) :
    Inv sha256 digest { s with
      relay := s.relay.step ⟨env, .request id conn request⟩
      late := s.startsLate ⟨env, .request id conn request⟩ ++ s.late } := by
  dsimp only [Service.step, startsLate]
  split
  · next taken =>
    simp only [taken, Bool.not_true, Bool.false_and]
    split
    · exact inv
    · exact inv
  · next fresh =>
    split
    · next browser known =>
      simp only [known, Option.map_some]
      have absent : s.relay.commands.get? id = none := by
        simpa [FiniteMap.contains] using fresh
      have kept (late : List Nat) (started : ∀ other ∈ late, other = id ∧
          Stored sha256 s.relay.db browser.ident.ownerId request) :
          Inv sha256 digest { s with
            relay := { s.relay with commands :=
              s.relay.commands.insert id ⟨conn, browser.ident, request, .checkShutdown⟩ }
            late := late ++ s.late } := by
        refine ⟨?_, inv.forwarded, inv.origins, ?_, inv.gateways⟩
        · intro other task found
          dsimp only at found
          rw [FiniteMap.get?_insert] at found
          split at found
          · cases found
            trivial
          · exact inv.handlers other task found
        · intro other member
          rcases List.mem_append.mp member with new | old
          · obtain ⟨rfl, stored⟩ := started other new
            exact ⟨⟨conn, browser.ident, request, .checkShutdown⟩, by simp, stored, rfl⟩
          · obtain ⟨task, found, rest⟩ := inv.late other old
            refine ⟨task, ?_, rest⟩
            dsimp only
            rw [FiniteMap.get?_insert, if_neg ?_]
            · exact found
            · rintro rfl
              cases absent.symm.trans found
      split
      · next executed =>
        simp only [Bool.and_eq_true] at executed
        exact kept [id] (by simpa using inv.executed_stored executed.2)
      · exact kept [] (by simp)
    · next unknown =>
      simp only [unknown, Option.map_none]
      exact inv

/-- A handler's step keeps the invariant if the tests of late copies succeed. -/
theorem Inv.step_command (inv : Inv sha256 digest s) {env : ServiceCtx}
    (digests : env.sha256 = sha256) {id : Nat} {task : CommandTask}
    (found : s.relay.commands.get? id = some task)
    (passes : id ∈ s.late → checkPasses env s.relay task = true) :
    Inv sha256 digest { s with
      relay := s.relay.step ⟨env, .command id⟩
      forwarded := s.forwarded ++ s.hands ⟨env, .command id⟩ } := by
  have extends_ := Service.step_extends (w := s.relay) ⟨env, .command id⟩
  have established := inv.handlers id task found
  have forwarded : ∀ sent ∈ s.forwarded ++ s.hands ⟨env, .command id⟩,
      Stored sha256 s.relay.db sent.owner sent.request := by
    intro sent member
    rcases List.mem_append.mp member with old | new
    · exact inv.forwarded sent old
    · simp only [hands, found] at new
      split at new
      · next device sending =>
        split at new
        · cases new
        · obtain rfl := List.mem_singleton.mp new
          unfold Established at established
          rw [sending] at established
          exact established
      · cases new
  have origins := fun origin member => List.mem_append_left (s.hands ⟨env, .command id⟩)
    (inv.origins origin member)
  by_cases running : task.phase = .done
  · have idle : s.relay.step ⟨env, .command id⟩ = s.relay := by
      simp [Service.step, found, Service.commandStep, running]
    rw [idle]
    exact ⟨inv.handlers, forwarded, origins, inv.late, inv.gateways⟩
  · have step : s.relay.step ⟨env, .command id⟩ = s.relay.commandStep env id task := by
      simp [Service.step, found]
    refine ⟨?_, fun sent member => (forwarded sent member).extend extends_, origins, ?_,
      inv.gateways⟩
    · intro other task' found'
      obtain ⟨phase, commands, next⟩ :=
        commandStep_established id digests established running
      dsimp only at found' ⊢
      rw [step, commands, FiniteMap.get?_insert] at found'
      rw [step] at extends_ ⊢
      split at found'
      · cases found'
        exact next
      · exact (inv.handlers other task' found').extend extends_
    · intro other member
      obtain ⟨task', found', stored, quiet⟩ := inv.late other member
      dsimp only
      rw [step] at extends_ ⊢
      by_cases same : other = id
      · subst same
        cases found'.symm.trans found
        obtain ⟨phase, commands, quiet', -⟩ :=
          commandStep_answers other digests stored established quiet (passes member) running
        rw [commands]
        exact ⟨{ task with phase }, by simp, stored.extend extends_, quiet'⟩
      · obtain ⟨phase, commands, -⟩ :=
          commandStep_established id digests established running
        rw [commands]
        exact ⟨task', by simpa [FiniteMap.get?_insert, same] using found',
          stored.extend extends_, quiet⟩

end Relay

section Gateways

/-- A step of one gateway. -/
theorem Inv.step_gateway (inv : Inv sha256 digest s) (device : Uuid) (input : Bridge.Gateway.Input)
    {origins : List (Forwarded × Nat)} (known : ∀ origin ∈ origins, origin.1 ∈ s.forwarded) :
    Inv sha256 digest { s with
      gateways := Function.update s.gateways device ((s.gateways device).step digest input)
      origins } := by
  refine ⟨inv.handlers, inv.forwarded, known, inv.late, ?_⟩
  intro other
  dsimp only
  by_cases same : other = device
  · subst same
    rw [Function.update_self]
    exact (inv.gateways other).step input
  · rw [Function.update_of_ne same]
    exact inv.gateways other

end Gateways

theorem Inv.step (inv : Inv sha256 digest s) (i : ChainInput)
    (passes : s.testsPass digest decode i = true) :
    Inv sha256 digest (s.step sha256 digest decode i) := by
  unfold Chain.step
  cases i with
  | relay step =>
    obtain ⟨env, op⟩ := step
    dsimp only [withDigest]
    cases op with
    | request id conn request =>
      simpa [hands] using inv.step_request { env with sha256 } id conn request
    | command id =>
      dsimp only [startsLate]
      cases found : s.relay.commands.get? id with
      | none =>
        have idle : s.relay.step ⟨{ env with sha256 }, .command id⟩ = s.relay := by
          simp [Service.step, found]
        simpa [idle, hands, found] using inv
      | some task =>
        refine inv.step_command rfl found fun late => ?_
        have passes' : checkPasses env s.relay task = true := by
          simpa [testsPass, found, late] using passes
        exact passes'
    | _ =>
      have kept (op : ServiceOp) (request : ∀ id conn request, op ≠ .request id conn request)
          (command : ∀ id, op ≠ .command id) :
          Inv sha256 digest { s with relay := s.relay.step ⟨{ env with sha256 }, op⟩ } :=
        inv.step_rest request command
      simpa [hands, startsLate] using kept _ (by simp) (by simp)
  | read index caps =>
    dsimp only
    split
    · next sent found =>
      split
      · refine inv.step_gateway sent.device _ ?_
        intro origin member
        rcases List.mem_cons.mp member with rfl | old
        · exact List.mem_of_getElem? found
        · exact inv.origins origin old
      · exact inv
    · exact inv
  | gateway device input =>
    cases input with
    | submit req caps => exact inv
    | _ => exact inv.step_gateway device _ inv.origins

/-! ## Answers -/

theorem Inv.relayKeeps (inv : Inv sha256 digest s) (i : ChainInput)
    (passes : s.testsPass digest decode i = true) : RelayKeeps sha256 digest decode s i := by
  rintro ⟨env, op⟩ id task after rfl rfl late found found'
  obtain ⟨task', there, stored, quiet⟩ := inv.late id late
  cases there.symm.trans found
  have established := inv.handlers id task found
  have passes' : checkPasses env s.relay task = true := by
    simpa [testsPass, found, late] using passes
  have silent : s.hands ⟨{ env with sha256 }, .command id⟩ = [] := by
    simp only [hands, found]
    split
    · next sending =>
      rw [sending] at quiet
      cases quiet
    · rfl
  refine ⟨by simp [Chain.step, withDigest, silent], ?_⟩
  intro result undecided decided
  have running : task.phase ≠ .done := by
    intro done
    have idle : s.relay.commandStep { env with sha256 } id task = s.relay := by
      simp [Service.commandStep, done]
    simp only [Chain.step, withDigest, Service.step, found, idle, Option.some.injEq] at found'
    rw [← found', undecided] at decided
    cases decided
  have digests : ({ env with sha256 } : ServiceCtx).sha256 = sha256 := rfl
  obtain ⟨phase, commands, -, answers⟩ := commandStep_answers id digests stored established
    quiet passes' running
  have moved : after = { task with phase } := by
    simpa [Chain.step, withDigest, Service.step, found, commands] using found'.symm
  subst moved
  obtain ⟨row, receipt, same⟩ := answers result undecided decided
  refine ⟨row, receipt, same, fun page => ?_⟩
  subst same
  simp [Page.handleReceipt, storedResult, Service.commandRejected]

section Gateways

variable {gateway : Bridge.Gateway} {n : Nat} {req : Bridge.CommandRequest}

theorem repeats_of_executed
    (repeats : repeatsExecuted digest gateway req = true)
    (other : (n, req.requestId) ∉ gateway.executed) :
    ∃ receipt, gateway.receipts.get? req.requestId = some receipt ∧ receipt.recorder ≠ n ∧
      receipt.digest = digest req.payload := by
  simp only [repeatsExecuted, Option.any_eq_true, Bool.and_eq_true, beq_iff_eq,
    List.contains_iff_mem] at repeats
  obtain ⟨receipt, found, digests, executed⟩ := repeats
  exact ⟨receipt, found, fun same => other (same ▸ executed), digests⟩

theorem answers_of_gate {caps : Bridge.Capabilities} (open_ : gateway.gate req caps = none) :
    (gateway.step digest (.submit req caps)).answers = gateway.answers := by
  have open' : Bridge.Gateway.gate { gateway with
      spawned := gateway.spawned + 1
      submitted := gateway.submitted.insert gateway.spawned req } req caps = none := open_
  simp only [Bridge.Gateway.step, open']

/-- A failing store leaves a repetition unanswered only at `record_receipt`. -/
theorem replayed_of_storeFailed (admission : gateway.Admission digest) {message : String}
    {receipt : Bridge.Receipt} {given : Bridge.Submission}
    (known : gateway.submitted.get? n = some req)
    (found : gateway.receipts.get? req.requestId = some receipt) (other : receipt.recorder ≠ n)
    (passes : ∀ req', gateway.tasks.get? n = some (.record req') →
      repeatsExecuted digest gateway req' = false)
    (repeats : repeatsExecuted digest gateway req = true) (before : gateway.answers.get? n = none)
    (answered : (gateway.step digest (.answer n (.storeFailed message))).answers.get? n = some given) :
    given = .replayed .acceptedByBridge := by
  simp only [Bridge.Gateway.step] at answered
  split at answered
  · cases before.symm.trans answered
  · next job running =>
    split at answered
    · cases before.symm.trans answered
    · next m move =>
      cases gives : m.answers with
      | none =>
        simp only [Bridge.Gateway.perform, gives] at answered
        cases before.symm.trans answered
      | some reply =>
        obtain rfl : reply = given := by
          simpa [Bridge.Gateway.perform, gives] using answered
        rcases admission.waits_for_store known found other running move gives with rfl | rfl
        · cases (passes req running).symm.trans repeats
        · cases move
          cases gives
          rfl

theorem Inv.gatewayKeeps (inv : Inv sha256 digest s) (i : ChainInput)
    (passes : s.testsPass digest decode i = true) : GatewayKeeps sha256 digest decode s i := by
  constructor
  · rintro index caps sent req rfl found decoded repeats
    have open_ : (s.gateways sent.device).gate req caps = none := by
      simpa [testsPass, found, decoded, repeats] using passes
    simp [Chain.step, found, decoded, submit, answers_of_gate open_]
  · rintro device task answer n req given rfl known repeats other before answered
    obtain ⟨receipt, found, recorder, digests⟩ := repeats_of_executed repeats other
    have admission := inv.gateways device
    have answered' : ((s.gateways device).step digest (.answer task answer)).answers.get? n =
        some given := by
      simpa [Chain.step] using answered
    by_cases failed : ∃ message, Bridge.Gateway.Input.answer task answer =
        .answer n (.storeFailed message)
    · obtain ⟨message, same⟩ := failed
      cases same
      refine ⟨_, replayed_of_storeFailed admission known found recorder ?_ repeats before answered',
        .inl rfl⟩
      intro req' running
      simpa [testsPass, running] using passes
    · exact ⟨receipt.status, admission.answersFromStore _ n receipt given
        ⟨req, known, found, recorder, digests⟩ before answered' fun message same =>
          failed ⟨message, same⟩, .inr ⟨receipt, found, rfl⟩⟩

end Gateways

/-! ## The theorem -/

/-- In every run in which the tests before the receipt succeed for the copies of executed
requests, each such copy is answered from the stored receipt. -/
theorem copies_answered_from_receipt (sha256 : CommandRequest → String)
    (digest : Bridge.CommandPayload → String)
    (decode : CommandRequest → Bridge.Capabilities → Option Bridge.CommandRequest)
    (inputs : List ChainInput)
    (passes : Along (step sha256 digest decode)
      (fun s i => s.testsPass digest decode i = true) new inputs) :
    Along (step sha256 digest decode)
      (fun s i => RelayKeeps sha256 digest decode s i ∧ GatewayKeeps sha256 digest decode s i)
      new inputs := by
  refine Along.of_invariant (I := Inv sha256 digest) (fun _ i inv passes => inv.step i passes)
    ?_ .new passes
  intro s i inv passes
  exact ⟨inv.relayKeeps i passes, inv.gatewayKeeps i passes⟩

end Chain

namespace Retrying

open Chain Reconnecting

def noSha (_ : CommandRequest) : String := ""

def noDigest (_ : Bridge.CommandPayload) : String := ""

def decoded (_ : CommandRequest) (_ : Bridge.Capabilities) : Option Bridge.CommandRequest :=
  some Bridge.Gateway.sampleRequest

def caps : Bridge.Capabilities := ⟨[.startTurn], false⟩

/-- The command is forwarded, and the gateway of the device hands it to its executor. -/
def executes : List ChainInput :=
  (connects 1 ++ commands).map .relay ++ .read 0 caps ::
    [.stored, .continued, .continued].map fun answer => .gateway device (.answer 0 answer)

/-- The browser sends the command again. -/
def copies (steps : Nat) : List ChainInput :=
  (op (.request 2 browser ⟨"r", "CREATE_TASK", none, "", ""⟩) ::
    List.replicate steps (op (.command 2))).map .relay

/-- The copy is also read by the Bridge. -/
def reads : List ChainInput :=
  .read 0 caps :: [.stored, .stored].map fun answer => .gateway device (.answer 1 answer)

/-- The session of the Bridge ends. -/
def departs : List ChainInput := [op (.hangUp 1), op (.bridge 1)].map .relay

end Retrying

open Chain Retrying Reconnecting in
theorem copies_answered_from_receipt_replayed :
    Along (step noSha noDigest decoded)
        (fun s i => RelayKeeps noSha noDigest decoded s i ∧
          GatewayKeeps noSha noDigest decoded s i)
        new (executes ++ copies 7 ++ reads) ∧
      ((run noSha noDigest decoded (executes ++ copies 7 ++ reads)).late = [2]) :=
  ⟨copies_answered_from_receipt _ _ _ _ (by decide +kernel), by decide +kernel⟩

open Chain Retrying Reconnecting in
/-- The command runs, the session of its Bridge ends, and the copy is rejected. -/
theorem executed_command_rejected :
    ¬ ∀ inputs : List ChainInput, Along (step noSha noDigest decoded)
      (fun s i => RelayKeeps noSha noDigest decoded s i ∧
        GatewayKeeps noSha noDigest decoded s i) new inputs := by
  intro claim
  have kept := (claim ((executes ++ Retrying.departs ++ copies 3) ++
    [ChainInput.relay (op (.command 2))])).at_step.1
  let request : CommandRequest := ⟨"r", "CREATE_TASK", none, "", ""⟩
  let rejected := Service.commandRejected "r" .deviceOffline
  obtain ⟨row, found, same, -⟩ := (kept (op (.command 2)) 2
    ⟨browser, ⟨browser, owner, 1⟩, request, .pickDevice⟩
    ⟨browser, ⟨browser, owner, 1⟩, request, .reply rejected⟩ rfl rfl (by decide +kernel)
    (by decide +kernel) (by decide +kernel)).2 rejected rfl rfl
  have status := congrArg (Option.map (·.status)) found
  have rejects : row.status = .rejected := congrArg (·.status) same.symm
  simp only [Option.map_some, rejects] at status
  revert status
  decide +kernel

end AgentConsole.System
