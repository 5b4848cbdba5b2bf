import AgentConsole.Bridge.Adapter

/-! # What reaches the Desktop

A write is decided by what its task has read on the way.  `Ledger` carries a property of
the waiting jobs to the writes they end in.  It is used twice: for the capabilities of
the connection, and for the expected turn and revision. -/

namespace AgentConsole.Bridge.Adapter

open AgentConsole.Lib

variable {s : Adapter} {i : Input}

/-! ## One step -/

@[simp] theorem perform_tasks (s : Adapter) (task : Nat) (m : Move) (u : Nat) :
    (s.perform task m).tasks.get? u = if u = task then m.next else s.tasks.get? u := by
  simp only [perform]
  cases m.next with
  | none => rw [FiniteMap.get?_erase]
  | some job => rw [FiniteMap.get?_insert]

@[simp] theorem perform_writes (s : Adapter) (task : Nat) (m : Move) :
    (s.perform task m).writes = s.writes ++ m.writes.toList := rfl

/-- The jobs of a command that has not taken its connection, or is done with it. -/
inductive Job.Early : Job → Prop
  | snapshot (req : CommandRequest) : Job.Early (.snapshot req)
  | execute (req : CommandRequest) : Job.Early (.execute req)
  | ensureOwner (req : CommandRequest) (caps : Capabilities) : Job.Early (.ensureOwner req caps)
  | discovering (req : CommandRequest) (caps : Capabilities) (on : Connection) :
    Job.Early (.discovering req caps on)
  | owned (req : CommandRequest) (caps : Capabilities) (owner : String) (on : Connection) :
    Job.Early (.owned req caps owner on)
  | writing (req : CommandRequest) : Job.Early (.writing req)

theorem early_of_handOver {req : CommandRequest} {job : Job}
    (next : (handOver req).next = some job) : job.Early := by
  unfold handOver at next
  split at next
  · cases next
  · cases next
    exact .execute req

theorem early_of_admission {req : CommandRequest} {job : Job}
    (next : (s.admission req).next = some job) : job.Early := by
  unfold admission at next
  split at next
  · cases next
  · split at next
    · cases next
      exact .snapshot req
    · exact early_of_handOver next

@[simp] theorem handOver_writes (req : CommandRequest) : (handOver req).writes = none := by
  unfold handOver
  split <;> rfl

@[simp] theorem admission_writes (s : Adapter) (req : CommandRequest) :
    (s.admission req).writes = none := by
  unfold admission
  split
  · rfl
  · split
    · rfl
    · exact handOver_writes req

/-- What a move does with the connection, the check and the write. -/
inductive Leads (s : Adapter) (task : Nat) : Job → Answer → Move → Prop
  /-- it ends or waits for something else -/
  | waits {job : Job} {answer : Answer} {m : Move} (early : ∀ next ∈ m.next, next.Early)
      (silent : m.writes = none) : Leads s task job answer m
  | takes (req : CommandRequest) (caps : Capabilities) (owner : String) (on ipc : Connection)
      (attached : s.ipc = some ipc) :
      Leads s task (.owned req caps owner on) .continued
        { next := some (.check req caps owner on ipc) }
  | checks (req : CommandRequest) (caps : Capabilities) (owner : String) (on ipc : Connection)
      (fresh : stale req (s.projection req.session) = none) :
      Leads s task (.check req caps owner on ipc) .continued
        { next := some (.prepare req caps owner on ipc (s.projection req.session)) }
  | gates (req : CommandRequest) (caps : Capabilities) (owner : String) (on ipc : Connection)
      (seen : Option Projection) (op : Operation) (performs : req.payload.performs = some op)
      (passes : gate caps op = none) :
      Leads s task (.prepare req caps owner on ipc seen) .continued
        { next := some (.dispatch req owner on ipc seen), delivers := some .dispatchedToCodex }
  | writes (req : CommandRequest) (owner : String) (on ipc : Connection)
      (seen : Option Projection) :
      Leads s task (.dispatch req owner on ipc seen) .continued
        { next := some (.writing req)
          writes := req.payload.method.map fun method =>
            ⟨task, ipc, method, req, owner, on, seen⟩ }

theorem Leads.ends {task : Nat} {job : Job} {answer : Answer} {m : Move} (last : m.next = none)
    (silent : m.writes = none) : Leads s task job answer m :=
  .waits (by simp [last]) silent

/-- One lemma for all moves: the case of each job is read off its branch. -/
theorem leads_of_move {task : Nat} {job : Job} {answer : Answer} {m : Move}
    (moves : job.move s task answer = some m) : Leads s task job answer m := by
  unfold Job.move at moves
  split at moves
  case h_1 req =>
    split at moves <;> cases moves
    · exact .ends rfl rfl
    · exact .waits (fun next => early_of_handOver) (handOver_writes req)
  case h_2 | h_6 | h_7 | h_12 | h_13 =>
    cases moves
    exact .ends rfl rfl
  case h_3 req =>
    cases moves
    exact .waits (by simp [Job.Early.ensureOwner]) rfl
  case h_4 req caps =>
    split at moves <;> cases moves
    · exact .ends rfl rfl
    · exact .waits (by simp [Job.Early.discovering]) rfl
  case h_5 req caps on id =>
    cases moves
    exact .waits (by simp [Job.Early.owned]) rfl
  case h_8 req caps owner on =>
    split at moves <;> cases moves
    case h_1 => exact .ends rfl rfl
    case h_2 ipc attached => exact .takes req caps owner on ipc attached
  case h_9 req caps owner on ipc =>
    simp only at moves
    split at moves <;> cases moves
    case h_1 => exact .ends rfl rfl
    case h_2 fresh => exact .checks req caps owner on ipc fresh
  case h_10 req caps owner on ipc seen =>
    split at moves
    case h_1 =>
      cases moves
      exact .ends rfl rfl
    case h_2 op performs =>
      split at moves <;> cases moves
      case h_1 => exact .ends rfl rfl
      case h_2 passed =>
        exact .gates req caps owner on ipc seen op performs (Option.or_eq_none_iff.mp passed).1
  case h_11 req owner on ipc seen =>
    cases moves
    exact .writes req owner on ipc seen
  case h_14 => cases moves

/-- What an input can do to tasks and writes: start a command, move a task, or neither. -/
inductive Stepped (s : Adapter) (i : Input) : Prop
  | started (m : Move) (early : ∀ job ∈ m.next, job.Early) (silent : m.writes = none)
      (result : s.step i = s.spawn m)
  | moved (task : Nat) (answer : Answer) (job : Job) (m : Move)
      (input : i = .answer task answer) (waits : s.tasks.get? task = some job)
      (moves : job.move s task answer = some m) (result : s.step i = s.perform task m)
  | kept (tasks : (s.step i).tasks = s.tasks) (writes : (s.step i).writes = s.writes)

theorem stepped (s : Adapter) (i : Input) : Stepped s i := by
  cases i with
  | submit req =>
    exact .started (s.admission req) (fun _ next => early_of_admission next) (admission_writes s req) rfl
  | autoSend req =>
    refine .started _ (fun job next => ?_) rfl rfl
    cases next
    exact .execute req
  | answer task answer =>
    cases waits : s.tasks.get? task with
    | none => exact .kept (by simp [step, waits]) (by simp [step, waits])
    | some job =>
      cases moves : job.move s task answer with
      | none => exact .kept (by simp [step, waits, moves]) (by simp [step, waits, moves])
      | some m => exact .moved task answer job m rfl waits moves (by simp [step, waits, moves])
  | attach discovered =>
    by_cases busy : s.attaching.isSome
    · exact .kept (by simp [step, busy]) (by simp [step, busy])
    · exact .kept (by simp [step, busy]) (by simp [step, busy])
  | publish => exact .kept rfl rfl
  | applied session view => exact .kept rfl rfl

/-! ## The ledger -/

/-- `P` holds of every waiting job and `Q` of every write. -/
structure Ledger (P : Adapter → Job → Prop) (Q : Adapter → Write → Prop) (s : Adapter) :
    Prop where
  jobs : ∀ task job, s.tasks.get? task = some job → P s job
  written : ∀ w ∈ s.writes, Q s w

section Ledger

variable {P : Adapter → Job → Prop} {Q : Adapter → Write → Prop}

/-- A step keeps the ledger if it leaves what held true, and if what its move leads to
follows from the job it moves. -/
theorem Ledger.step (ledger : Ledger P Q s)
    (jobs : ∀ job, P s job → P (s.step i) job) (writes : ∀ w, Q s w → Q (s.step i) w)
    (early : ∀ job, job.Early → P (s.step i) job)
    (moves : ∀ task answer job m, i = .answer task answer → s.tasks.get? task = some job →
      job.move s task answer = some m → P s job →
      (∀ next ∈ m.next, P s next) ∧ ∀ w ∈ m.writes, Q s w) :
    Ledger P Q (s.step i) := by
  cases stepped s i with
  | started m fresh silent result =>
    constructor
    · intro task job found
      have found' := found
      rw [result] at found'
      simp only [spawn, perform_tasks] at found'
      split at found'
      · exact early job (fresh job found')
      · exact jobs job (ledger.jobs task job found')
    · intro w member
      have member' := member
      rw [result] at member'
      simp only [spawn, perform_writes, silent, Option.toList_none, List.append_nil] at member'
      exact writes w (ledger.written w member')
  | moved task answer job m input waits decided result =>
    obtain ⟨next, written⟩ := moves task answer job m input waits decided
      (ledger.jobs task job waits)
    constructor
    · intro task' job' found
      have found' := found
      rw [result, perform_tasks] at found'
      split at found'
      · exact jobs job' (next job' found')
      · exact jobs job' (ledger.jobs task' job' found')
    · intro w member
      have member' := member
      rw [result, perform_writes, List.mem_append, Option.mem_toList] at member'
      rcases member' with old | new
      · exact writes w (ledger.written w old)
      · exact writes w (written w new)
  | kept tasks same =>
    constructor
    · intro task job found
      exact jobs job (ledger.jobs task job (tasks ▸ found))
    · intro w member
      exact writes w (ledger.written w (same ▸ member))

end Ledger

/-! ## Writes and the probe of their connection -/

/-- Every connection that was ever attached has a probe of its own. -/
def Probed (s : Adapter) : Prop :=
  ∀ (c : Nat) input, s.probes.get? c = some input → c < s.attachments ∧
    ∃ report writeMethods connected,
      input = s.config.capabilityProbeInput report writeMethods connected

theorem probed_start (config : AdapterConfig) (connected : Bool) :
    Probed (start config connected) := by
  intro c input found
  cases connected with
  | false => simp [start] at found
  | true =>
    simp only [start, if_true, FiniteMap.get?_insert] at found
    split at found
    case isTrue first =>
      cases found
      exact ⟨by simp [start, first], _, _, _, rfl⟩
    case isFalse => simp at found

/-- A step adds the probe of a new connection at most. -/
theorem probes_step (probed : Probed s) (i : Input) {c : Nat}
    {input : CapabilityProbeInput} (found : s.probes.get? c = some input) :
    (s.step i).probes.get? c = some input := by
  cases i with
  | attach discovered =>
    have old := (probed c input found).1
    by_cases busy : s.attaching.isSome
    · simpa [step, busy] using found
    · simp only [step, busy]
      rw [if_neg (by simp), FiniteMap.get?_insert, if_neg (Nat.ne_of_lt old)]
      exact found
  | answer task answer =>
    simp only [step]
    split
    · exact found
    · split <;> exact found
  | submit req => exact found
  | autoSend req => exact found
  | publish => exact found
  | applied session view => exact found

theorem probed_step (probed : Probed s) (i : Input) : Probed (s.step i) := by
  cases i with
  | attach discovered =>
    by_cases busy : s.attaching.isSome
    · simpa [step, busy] using probed
    · intro c input found
      simp only [step, busy] at found ⊢
      simp only [Bool.false_eq_true, if_false, FiniteMap.get?_insert] at found ⊢
      split at found
      case isTrue new =>
        cases found
        obtain ⟨report, writeMethods, same⟩ := s.config.exists_of_attachInput discovered
        exact ⟨by simp [new], report, writeMethods, true, same⟩
      case isFalse =>
        obtain ⟨old, made⟩ := probed c input found
        exact ⟨Nat.lt_succ_of_lt old, made⟩
  | answer task answer =>
    simp only [step]
    split
    · exact probed
    · split <;> exact probed
  | submit req => exact probed
  | autoSend req => exact probed
  | publish => exact probed
  | applied session view => exact probed

/-- The probe of the connection contains the operation. -/
def Supports (s : Adapter) (ipc : Connection) (op : Operation) : Prop :=
  ∃ input ∈ s.probes.get? ipc, op ∈ input.probe.supportedOperations
deriving Decidable

theorem Supports.step {ipc : Connection} {op : Operation} (probed : Probed s)
    (supports : s.Supports ipc op) : (s.step i).Supports ipc op := by
  obtain ⟨input, found, member⟩ := supports
  exact ⟨input, probes_step probed i found, member⟩

/-- The connection is the one that named the owner, and its probe offers the payload what
the capabilities the task has read offer it. -/
def Enabled (s : Adapter) (req : CommandRequest) (caps : Capabilities)
    (on ipc : Connection) : Prop :=
  on = ipc ∧ ∀ op ∈ req.payload.performs, op ∈ caps.supported → s.Supports ipc op
deriving Decidable

theorem Enabled.step {req : CommandRequest} {caps : Capabilities} {on ipc : Connection}
    (probed : Probed s) (enabled : s.Enabled req caps on ipc) :
    (s.step i).Enabled req caps on ipc :=
  ⟨enabled.1, fun op performs offered => (enabled.2 op performs offered).step probed⟩

/-- The task that takes its next step. -/
def Input.continues : Input → Option Nat
  | .answer task .continued => some task
  | _ => none

/-- What a job that has its owner takes along to a connection. -/
def Job.owned? : Job → Option (CommandRequest × Capabilities × Connection)
  | .owned req caps _ on => some (req, caps, on)
  | _ => none

/-- A command that has its owner goes on only over a connection it is enabled on. -/
def KeepsConnection (s : Adapter) (i : Input) : Prop :=
  ∀ task ∈ i.continues, ∀ job ∈ s.tasks.get? task, ∀ has ∈ job.owned?, ∀ ipc ∈ s.ipc,
    s.Enabled has.1 has.2.1 has.2.2 ipc
deriving Decidable

/-- The operation was enabled by the probe of the connection and for its owner. -/
def Permitted (s : Adapter) (w : Write) : Prop :=
  w.ownerFrom = w.ipc ∧ ∃ op ∈ w.request.payload.performs, s.Supports w.ipc op
deriving Decidable

def Job.Cleared (s : Adapter) : Job → Prop
  | .check req caps _ on ipc | .prepare req caps _ on ipc _ => s.Enabled req caps on ipc
  | .dispatch req _ on ipc _ => on = ipc ∧ ∃ op ∈ req.payload.performs, s.Supports ipc op
  | _ => True

theorem Job.Cleared.step {job : Job} (probed : Probed s) (cleared : job.Cleared s) :
    job.Cleared (s.step i) := by
  cases job with
  | check | prepare => exact Enabled.step probed cleared
  | dispatch =>
    obtain ⟨same, op, performs, supports⟩ := cleared
    exact ⟨same, op, performs, supports.step probed⟩
  | _ => trivial

theorem Permitted.step {w : Write} (probed : Probed s) (permitted : s.Permitted w) :
    (s.step i).Permitted w := by
  obtain ⟨same, op, performs, supports⟩ := permitted
  exact ⟨same, op, performs, supports.step probed⟩

theorem supported_of_gate {caps : Capabilities} {op : Operation} (open_ : gate caps op = none) :
    op ∈ caps.supported := by
  unfold gate at open_
  split at open_
  case isTrue member => exact member
  case isFalse => split at open_ <;> cases open_

theorem cleared_of_early {job : Job} (early : job.Early) : job.Cleared s := by
  cases early <;> trivial

/-- A job whose connection is cleared leads to one, and to permitted writes. -/
theorem cleared_move {task : Nat} {answer : Answer} {job : Job} {m : Move}
    (keeps : s.KeepsConnection (.answer task answer)) (waits : s.tasks.get? task = some job)
    (moves : job.move s task answer = some m) (cleared : job.Cleared s) :
    (∀ next ∈ m.next, next.Cleared s) ∧ ∀ w ∈ m.writes, s.Permitted w := by
  cases leads_of_move moves with
  | waits early silent =>
    exact ⟨fun next follows => cleared_of_early (early next follows), by simp [silent]⟩
  | takes req caps owner on ipc attached =>
    have enabled := keeps task rfl _ waits _ rfl ipc attached
    exact ⟨by simpa [Job.Cleared] using enabled, by simp⟩
  | checks req caps owner on ipc fresh =>
    exact ⟨by simpa [Job.Cleared] using cleared, by simp⟩
  | gates req caps owner on ipc seen op performs passes =>
    have supports := cleared.2 op performs (supported_of_gate passes)
    exact ⟨by simpa [Job.Cleared] using ⟨cleared.1, op, performs, supports⟩, by simp⟩
  | writes req owner on ipc seen =>
    refine ⟨by simp [Job.Cleared], fun w written => ?_⟩
    obtain ⟨method, -, rfl⟩ := Option.map_eq_some_iff.mp written
    exact cleared

/-- The invariant behind `Permitted`. -/
def Clear (s : Adapter) : Prop :=
  Probed s ∧ Ledger (fun s job => job.Cleared s) Permitted s

theorem clear_start (config : AdapterConfig) (connected : Bool) :
    Clear (start config connected) :=
  ⟨probed_start config connected, by simp [start], by simp [start]⟩

theorem clear_step (clear : Clear s) (keeps : s.KeepsConnection i) : Clear (s.step i) := by
  obtain ⟨probed, ledger⟩ := clear
  refine ⟨probed_step probed i, ledger.step (fun job => Job.Cleared.step probed)
    (fun w => Permitted.step probed) (fun job => cleared_of_early) ?_⟩
  rintro task answer job m rfl waits moves cleared
  exact cleared_move keeps waits moves cleared

/-- What a supporting probe was made for is a verified version. -/
theorem verified_of_supports (probed : Probed s) {ipc : Connection} {op : Operation}
    (supports : s.Supports ipc op) : ∃ input ∈ s.probes.get? ipc,
      op ∈ input.probe.supportedOperations ∧ input.Verified := by
  obtain ⟨input, found, member⟩ := supports
  obtain ⟨-, report, writeMethods, connected, rfl⟩ := probed ipc input found
  exact ⟨_, found, member, AdapterConfig.verified_of_supported member⟩

/-- If every command goes on over the connection that named its owner, and that one's probe
still offers what the capabilities read at the start did, then every write is within the
probe of its connection, which was made for a verified version. -/
theorem writes_within_probe (config : AdapterConfig) (connected : Bool) (inputs : List Input)
    (keeps : Along step KeepsConnection (start config connected) inputs) :
    let s := inputs.foldl step (start config connected)
    ∀ w ∈ s.writes, w.ownerFrom = w.ipc ∧ ∃ op ∈ w.request.payload.performs,
      ∃ input ∈ s.probes.get? w.ipc,
        op ∈ input.probe.supportedOperations ∧ input.Verified := by
  intro s w written
  have clear : Clear s := Along.reached (fun s i => clear_step) (clear_start config connected) keeps
  obtain ⟨same, op, performs, supports⟩ := clear.2.written w written
  exact ⟨same, op, performs, verified_of_supports clear.1 supports⟩

/-- A Desktop of a version whose writes were tried. -/
def triedConfig : AdapterConfig where
  versionReport := some "codex-cli 0.153.4"
  versionBinary := true
  writeMethodProbes := verifiedWriteProbes (some "codex-cli 0.153.4")

def startTurnRequest : CommandRequest where
  requestId := 1
  operation := .startTurn
  deviceId := "device"
  agentKind := .codexDesktop
  session := "thread"
  payload := .startTurn "go on"

/-- The steps of a command from its owner to its write. -/
def fromOwner (task : Nat) (owner : String) : List Input :=
  .answer task (.owner (some owner)) :: .replicate 4 (.answer task .continued)

theorem writes_within_probe_started :
    let inputs := .submit startTurnRequest :: .answer 0 .continued :: .answer 0 .continued ::
      fromOwner 0 "desktop"
    let s := inputs.foldl step (start triedConfig true)
    s.writes.length = 1 ∧
      ∀ w ∈ s.writes, w.ownerFrom = w.ipc ∧ ∃ op ∈ w.request.payload.performs,
        ∃ input ∈ s.probes.get? w.ipc,
          op ∈ input.probe.supportedOperations ∧ input.Verified :=
  ⟨by decide, writes_within_probe triedConfig true _ (by decide)⟩

/-- The Desktop is replaced by one of an unknown version after the command has read the
capabilities. -/
def replacedRun : List Input :=
  .submit startTurnRequest :: .answer 0 .continued ::
    .attach (some "codex-cli 9.9.9") :: .publish :: .answer 0 .continued ::
      fromOwner 0 "desktop"

theorem replaced_desktop_written : let s := replacedRun.foldl step (start triedConfig true)
    ∃ w ∈ s.writes, w.method.isWrite ∧ ∃ op ∈ w.request.payload.performs,
      ∃ input ∈ s.probes.get? w.ipc, op ∉ input.probe.supportedOperations ∧
        ∃ version ∈ input.versionReport, Discovery.versionIsVerified version = false := by
  decide

end AgentConsole.Bridge.Adapter
