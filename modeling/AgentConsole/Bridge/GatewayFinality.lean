import AgentConsole.Bridge.GatewayOnce

/-! # How a command of the gateway ends

A command is finished by `submit` itself, by its forwarding task, or by a shutdown.
Each of them stores the terminal status, puts the terminal receipt into the caller's
channel and takes the command out of `inflight`, in this order and without a look at
what the others have done.  `update_receipt_status` has no condition on the old status.

As long as a shutdown takes no command that has its terminal status already, and the
tasks of the commands it has taken write no status any more, every command has one
terminal receipt, the stored status never leaves a terminal one, and both agree.  The
invariant places every recorded command in one `Stage`. -/

namespace AgentConsole.Bridge.Gateway

open AgentConsole.Lib

variable {digest : CommandPayload → String} {s s' : Gateway} {i : Input}

@[simp] theorem isTerminal_status (state : ReceiptState) :
    state.status.isTerminal = state.isTerminal := by
  cases state <;> rfl

/-- The terminal receipts in the channel of the caller `n`. -/
def finals (s : Gateway) (n : Nat) : List ReceiptState :=
  (s.delivered.filter fun d => d.1 = n ∧ d.2.isTerminal).map (·.2)

/-- The commands a shutdown has still to finish. -/
def Job.entries : Job → List (RequestId × Nat)
  | .closing pending => pending
  | .closeUpdate id caller rest | .closeSend id caller rest => (id, caller) :: rest
  | _ => []

/-- Of these, the ones whose status it has not stored yet. -/
def Job.waiting : Job → List (RequestId × Nat)
  | .closing pending => pending
  | .closeUpdate id caller rest => (id, caller) :: rest
  | .closeSend _ _ rest => rest
  | _ => []

/-- Nothing is left to do for the submission `n`: its task has ended or a shutdown has
taken over, and no shutdown has it on its list. -/
def Over (s : Gateway) (n : Nat) : Prop :=
  (s.tasks.get? n = none ∨ n ∈ s.drained) ∧
    ∀ u job e, s.tasks.get? u = some job → e ∈ job.entries → e.2 ≠ n

/-- The commands end as they should: at most one terminal receipt reaches the caller,
it is the stored one, and there is one when nothing is left to do. -/
def EndsOnce (s : Gateway) : Prop :=
  ∀ id receipt, s.receipts.get? id = some receipt →
    (s.finals receipt.recorder).length ≤ 1 ∧
    (∀ state ∈ s.finals receipt.recorder, receipt.status = state.status) ∧
    (s.Over receipt.recorder → s.finals receipt.recorder ≠ [])

/-- A terminal status stays. -/
def StatusStays (digest : CommandPayload → String) (s : Gateway) (i : Input) : Prop :=
  ∀ id receipt, s.receipts.get? id = some receipt → receipt.status.isTerminal →
    ∃ later, (s.step digest i).receipts.get? id = some later ∧ later.status = receipt.status

/-- The step keeps the order of endings:

* a shutdown takes only commands without a terminal status;
* the task of a command that a shutdown has taken writes no status;
* the store does not fail on a terminal status, and the process does not end. -/
def Orderly (s : Gateway) (i : Input) : Prop :=
  match i with
  | .restart => False
  | .answer task answer =>
    match s.tasks.get? task, answer with
    | some .drain, _ => ∀ id n, s.inflight.get? id = some n →
      ∀ receipt, s.receipts.get? id = some receipt → receipt.status.isTerminal = false
    | some (.update _ state _), .storeFailed _ => task ∉ s.drained ∧ state.isTerminal = false
    | some (.update _ _ _), _ => task ∉ s.drained
    | some (.closeUpdate _ _ _), .storeFailed _ => False
    | _, _ => True
  | _ => True

/-! ## Stages -/

/-- The jobs of a command in flight that has no terminal receipt yet. -/
def Job.Working : Job → Prop
  | .snapshot _ | .dispatch _ _ | .executing _ | .forward _ | .update _ _ _ => True
  | .send _ state _ => state.isTerminal = false
  | _ => False

/-- A shutdown is going to store the status of `n`. -/
def Waiting (s : Gateway) (n : Nat) : Prop :=
  ∃ u job, s.tasks.get? u = some job ∧ n ∈ job.waiting.map (·.2)

/-- A shutdown is going to send the receipt of `n`. -/
def Sending (s : Gateway) (n : Nat) : Prop :=
  ∃ u id rest, s.tasks.get? u = some (.closeSend id n rest)

/-- Where the command `id`, recorded by `n` and stored with `status`, stands. -/
inductive Stage (s : Gateway) (n : Nat) (id : RequestId) (status : StoredReceiptState) : Prop where
  | recorded (req : CommandRequest) (runs : s.tasks.get? n = some (.register req))
      (live : n ∉ s.drained) (silent : s.finals n = []) (pending : status.isTerminal = false)
  | active (job : Job) (runs : s.tasks.get? n = some job) (works : job.Working)
      (listed : s.inflight.get? id = some n) (live : n ∉ s.drained) (silent : s.finals n = [])
      (pending : status.isTerminal = false)
  | stored (state : ReceiptState) (returns : Bool)
      (runs : s.tasks.get? n = some (.send id state returns)) (final : state.isTerminal = true)
      (listed : s.inflight.get? id = some n) (live : n ∉ s.drained) (silent : s.finals n = [])
      (same : status = state.status)
  | told (state : ReceiptState) (final : state.isTerminal = true)
      (rests : (∃ returns, s.tasks.get? n = some (.remove id returns)) ∨ s.tasks.get? n = none)
      (live : n ∉ s.drained) (once : s.finals n = [state]) (same : status = state.status)
  | draining (works : ∀ job, s.tasks.get? n = some job → job.Working) (taken : n ∈ s.drained)
      (waits : s.Waiting n) (quiet : ¬ s.Sending n) (silent : s.finals n = [])
      (pending : status.isTerminal = false)
  | closing (works : ∀ job, s.tasks.get? n = some job → job.Working) (taken : n ∈ s.drained)
      (idle : ¬ s.Waiting n) (sends : s.Sending n) (silent : s.finals n = [])
      (same : status = .outcomeUnknown)
  | closed (works : ∀ job, s.tasks.get? n = some job → job.Working) (taken : n ∈ s.drained)
      (idle : ¬ s.Waiting n) (quiet : ¬ s.Sending n) (once : s.finals n = [.outcomeUnknown])
      (same : status = .outcomeUnknown)

/-- The lists of the shutdowns name every command once, with its recorder. -/
structure Lists (s : Gateway) : Prop where
  nodup : ∀ u job, s.tasks.get? u = some job → (job.entries.map (·.2)).Nodup
  apart : ∀ u v job job' e e', s.tasks.get? u = some job → s.tasks.get? v = some job' →
    e ∈ job.entries → e' ∈ job'.entries → e.2 = e'.2 → u = v
  taken : ∀ u job e, s.tasks.get? u = some job → e ∈ job.entries → e.2 ∈ s.drained ∧
    ∃ receipt, s.receipts.get? e.1 = some receipt ∧ receipt.recorder = e.2

/-- Every recorded command is in a stage, and only recorders are taken or told. -/
structure Staged (digest : CommandPayload → String) (s : Gateway) : Prop where
  admission : Admission digest s
  lists : s.Lists
  known : ∀ n, n ∈ s.drained ∨ n ∈ s.delivered.map (·.1) →
    ∃ id receipt, s.receipts.get? id = some receipt ∧ receipt.recorder = n
  listed : ∀ id n, s.inflight.get? id = some n → n ∉ s.drained ∧
    ∃ job receipt, s.tasks.get? n = some job ∧ job.owned? = some id ∧
      (∀ req, job ≠ .register req) ∧ s.receipts.get? id = some receipt ∧ receipt.recorder = n
  stage : ∀ id receipt, s.receipts.get? id = some receipt →
    Stage s receipt.recorder id receipt.status

/-! ## What a stage says -/

theorem entries_of_waiting {job : Job} {n : Nat} (member : n ∈ job.waiting.map (·.2)) :
    ∃ e ∈ job.entries, e.2 = n := by
  obtain ⟨e, waits, same⟩ := List.mem_map.mp member
  cases job <;> simp [Job.waiting] at waits <;> exact ⟨e, by simp [Job.entries, waits], same⟩

theorem Stage.endsOnce {n : Nat} {id : RequestId} {status : StoredReceiptState}
    (stage : Stage s n id status) :
    (s.finals n).length ≤ 1 ∧ (∀ state ∈ s.finals n, status = state.status) ∧
      (s.Over n → s.finals n ≠ []) := by
  cases stage with
  | recorded req runs live silent pending =>
    refine ⟨by simp [silent], by simp [silent], fun ended => ?_⟩
    rcases ended.1 with gone | taken
    · simp [runs] at gone
    · exact absurd taken live
  | active job runs works listed live silent pending =>
    refine ⟨by simp [silent], by simp [silent], fun ended => ?_⟩
    rcases ended.1 with gone | taken
    · simp [runs] at gone
    · exact absurd taken live
  | stored state returns runs final listed live silent same =>
    refine ⟨by simp [silent], by simp [silent], fun ended => ?_⟩
    rcases ended.1 with gone | taken
    · simp [runs] at gone
    · exact absurd taken live
  | told state final rests live once same => simp [once, same]
  | draining works taken waits quiet silent pending =>
    refine ⟨by simp [silent], by simp [silent], fun ended => ?_⟩
    obtain ⟨u, job, runs, member⟩ := waits
    obtain ⟨e, entry, same⟩ := entries_of_waiting member
    exact absurd same (ended.2 u job e runs entry)
  | closing works taken idle sends silent same =>
    refine ⟨by simp [silent], by simp [silent], fun ended => ?_⟩
    obtain ⟨u, id', rest, runs⟩ := sends
    exact absurd rfl (ended.2 u _ (id', n) runs (by simp [Job.entries]))
  | closed works taken idle quiet once same => simp [once, same, ReceiptState.status]

/-- A stage depends on the command's own part of the state. -/
theorem Stage.frame {n : Nat} {id : RequestId} {status : StoredReceiptState}
    (stage : Stage s n id status) (tasks : s'.tasks.get? n = s.tasks.get? n)
    (inflight : s'.inflight.get? id = s.inflight.get? id)
    (drained : n ∈ s'.drained ↔ n ∈ s.drained) (finals : s'.finals n = s.finals n)
    (waiting : s'.Waiting n ↔ s.Waiting n) (sending : s'.Sending n ↔ s.Sending n) :
    Stage s' n id status := by
  cases stage with
  | recorded req runs live silent pending =>
    exact .recorded req (tasks.trans runs) (drained.not.mpr live) (finals.trans silent) pending
  | active job runs works listed live silent pending =>
    exact .active job (tasks.trans runs) works (inflight.trans listed) (drained.not.mpr live)
      (finals.trans silent) pending
  | stored state returns runs final listed live silent same =>
    exact .stored state returns (tasks.trans runs) final (inflight.trans listed)
      (drained.not.mpr live) (finals.trans silent) same
  | told state final rests live once same =>
    exact .told state final (by rw [tasks]; exact rests) (drained.not.mpr live)
      (finals.trans once) same
  | draining works taken waits quiet silent pending =>
    exact .draining (by rw [tasks]; exact works) (drained.mpr taken) (waiting.mpr waits)
      (sending.not.mpr quiet) (finals.trans silent) pending
  | closing works taken idle sends silent same =>
    exact .closing (by rw [tasks]; exact works) (drained.mpr taken) (waiting.not.mpr idle)
      (sending.mpr sends) (finals.trans silent) same
  | closed works taken idle quiet once same =>
    exact .closed (by rw [tasks]; exact works) (drained.mpr taken) (waiting.not.mpr idle)
      (sending.not.mpr quiet) (finals.trans once) same

/-! ## Moves -/

section Moves

variable {task : Nat} {job next : Job} {answer : Answer} {m : Move} {n : Nat}

theorem finals_perform (s : Gateway) (task : Nat) (m : Move) (n : Nat) :
    (s.perform task m).finals n =
      s.finals n ++ (m.delivers.toList.filter fun d => d.1 = n ∧ d.2.isTerminal).map (·.2) := by
  simp [finals, Gateway.perform, List.filter_append]

/-- Tasks that are no shutdowns have no list. -/
theorem waiting_perform (running : s.tasks.get? task = some job) (none : job.entries = [])
    (still : ∀ next, m.next = some next → next.entries = []) :
    (s.perform task m).Waiting n ↔ s.Waiting n := by
  have empty : ∀ {job : Job}, job.entries = [] → job.waiting = [] := by
    intro job none
    cases job <;> simp_all [Job.entries, Job.waiting]
  constructor
  · rintro ⟨u, job', runs, member⟩
    rw [perform_tasks] at runs
    split at runs
    · simp [empty (still job' runs)] at member
    · exact ⟨u, job', runs, member⟩
  · rintro ⟨u, job', runs, member⟩
    have other : u ≠ task := by
      rintro rfl
      obtain rfl : job' = job := by simpa [running] using runs.symm
      simp [empty none] at member
    exact ⟨u, job', by rw [perform_tasks, if_neg other, runs], member⟩

theorem sending_perform (running : s.tasks.get? task = some job) (none : job.entries = [])
    (still : ∀ next, m.next = some next → next.entries = []) :
    (s.perform task m).Sending n ↔ s.Sending n := by
  constructor
  · rintro ⟨u, id, rest, runs⟩
    rw [perform_tasks] at runs
    split at runs
    · cases still _ runs
    · exact ⟨u, id, rest, runs⟩
  · rintro ⟨u, id, rest, runs⟩
    have other : u ≠ task := by
      rintro rfl
      obtain rfl : Job.closeSend id n rest = job := by simpa [running] using runs.symm
      cases none
    exact ⟨u, id, rest, by rw [perform_tasks, if_neg other, runs]⟩

/-- The lists of the shutdowns stay under the moves of other tasks. -/
theorem Lists.perform (lists : s.Lists) (move : job.move digest s task answer = some m)
    (none : ∀ next, m.next = some next → next.entries = []) (drains : m.drains = false) :
    (s.perform task m).Lists := by
  have old : ∀ {u job'} {e : RequestId × Nat}, (s.perform task m).tasks.get? u = some job' →
      e ∈ job'.entries → s.tasks.get? u = some job' := by
    intro u job' e runs member
    rw [perform_tasks] at runs
    split at runs
    · simp [none job' runs] at member
    · exact runs
  have drained : (s.perform task m).drained = s.drained := by simp [Gateway.perform, drains]
  refine ⟨fun u job' runs => ?_, fun u v job₁ job₂ e e' runs runs' member member' same => ?_,
    fun u job' e runs member => ?_⟩
  · rw [perform_tasks] at runs
    split at runs
    · simp [none job' runs]
    · exact lists.nodup u job' runs
  · exact lists.apart u v job₁ job₂ e e' (old runs member) (old runs' member') member member' same
  · obtain ⟨taken, receipt, found, recorder⟩ := lists.taken u job' e (old runs member) member
    obtain ⟨later, found', -, same⟩ := receipt_kept move found
    exact ⟨drained ▸ taken, later, found', same.trans recorder⟩

/-- A receipt whose status the move does not write keeps it. -/
theorem status_unchanged {id : RequestId} {receipt later : Receipt}
    (move : job.move digest s task answer = some m)
    (unwritten : ∀ status, m.status ≠ some (id, status))
    (found : s.receipts.get? id = some receipt)
    (after : (s.perform task m).receipts.get? id = some later) : later.status = receipt.status := by
  have unstored : ∀ k new, m.inserts = some (k, new) → id ≠ k := by
    rintro k new inserts rfl
    obtain ⟨-, -, -, missing, -⟩ := inserts_of_move move inserts
    simp [missing] at found
  have unset : ∀ k status, m.status = some (k, status) → id ≠ k := by
    rintro k status writes rfl
    exact unwritten status writes
  simp only [Gateway.perform] at after
  rcases inserts : m.inserts with _ | ⟨k, new⟩ <;> rcases status : m.status with _ | ⟨k', value⟩ <;>
    simp_all [FiniteMap.get?_insert, get?_setStatus]

/-- The moves of a command's own task concern its own request only. -/
structure OwnMove (task : Nat) (id : RequestId) (m : Move) : Prop where
  inserts : m.inserts = none
  drains : m.drains = false
  status : ∀ change, m.status = some change → change.1 = id
  registers : ∀ k, m.registers = some k → k = id
  removes : ∀ k, m.removes = some k → k = id
  delivers : ∀ d, m.delivers = some d → d.1 = task
  next : ∀ next, m.next = some next → next.entries = [] ∧ next.owned? = some id ∧
    ∀ req, next ≠ .register req
  ends : m.next = none → m.removes = some id

theorem ownMove {id : RequestId} (owned : job.owned? = some id)
    (move : job.move digest s task answer = some m) : OwnMove task id m := by
  constructor <;>
  · cases moves_of_move move <;>
      simp only [Job.owned?, reduceCtorEq, Option.some.injEq] at owned <;>
      simp [Job.entries, Job.owned?, owned]

/-- The receipt after a move of its own task. -/
theorem OwnMove.receipt {id : RequestId} {receipt : Receipt} (own : OwnMove task id m)
    (found : s.receipts.get? id = some receipt) :
    (s.perform task m).receipts.get? id =
      some { receipt with status := (m.status.map (·.2)).getD receipt.status } := by
  simp only [Gateway.perform, own.inserts]
  cases status : m.status with
  | none => simp [found]
  | some change => simp [get?_setStatus, own.status change status, found]

theorem OwnMove.receipt_other {id k : RequestId} (own : OwnMove task id m) (other : k ≠ id) :
    (s.perform task m).receipts.get? k = s.receipts.get? k := by
  simp only [Gateway.perform, own.inserts]
  cases status : m.status with
  | none => rfl
  | some change => simp [get?_setStatus, own.status change status, other]

theorem OwnMove.inflight_other {id k : RequestId} (own : OwnMove task id m) (other : k ≠ id) :
    (s.perform task m).inflight.get? k = s.inflight.get? k := by
  simp only [Gateway.perform, own.drains, Bool.false_eq_true, if_false]
  cases registers : m.registers with
  | none =>
    cases removes : m.removes with
    | none => rfl
    | some r => simp [FiniteMap.get?_erase, own.removes r removes, other]
  | some k' =>
    cases removes : m.removes with
    | none => simp [FiniteMap.get?_insert, own.registers k' registers, other]
    | some r =>
      simp [FiniteMap.get?_erase, FiniteMap.get?_insert, own.removes r removes,
        own.registers k' registers, other]

theorem OwnMove.finals_other {id : RequestId} (own : OwnMove task id m) (other : n ≠ task) :
    (s.perform task m).finals n = s.finals n := by
  rw [finals_perform]
  cases delivers : m.delivers with
  | none => simp
  | some d =>
    have mine := own.delivers d delivers
    simp [mine, Ne.symm other]

theorem registers_of_move {id : RequestId} (move : job.move digest s task answer = some m)
    (registers : m.registers = some id) : ∃ req, job = .register req := by
  cases moves_of_move move <;> simp at registers ⊢

/-- A command that is about to be registered is not taken by a shutdown. -/
theorem Stage.live_of_register {id : RequestId} {status : StoredReceiptState} {req : CommandRequest}
    (stage : Stage s n id status) (runs : s.tasks.get? n = some (.register req)) :
    n ∉ s.drained := by
  cases stage with
  | recorded req runs' live silent pending => exact live
  | active job runs' works listed live silent pending => exact live
  | stored state returns runs' final listed live silent same => exact live
  | told state final rests live once same => exact live
  | draining works taken waits quiet silent pending => exact (works _ runs).elim
  | closing works taken idle sends silent same => exact (works _ runs).elim
  | closed works taken idle quiet once same => exact (works _ runs).elim

/-- A recorder has recorded one request. -/
theorem Staged.same_request {id k : RequestId} {receipt receipt' : Receipt} (inv : Staged digest s)
    (found : s.receipts.get? id = some receipt) (found' : s.receipts.get? k = some receipt')
    (same : receipt.recorder = receipt'.recorder) : id = k := by
  obtain ⟨req, known, rfl, -⟩ := inv.admission.receipts id receipt found
  obtain ⟨req', known', rfl, -⟩ := inv.admission.receipts k receipt' found'
  rw [same, known'] at known
  cases known
  rfl

/-- A move of a command's own task keeps all other stages; its own is to be shown. -/
theorem Staged.own {id : RequestId} {receipt : Receipt} (inv : Staged digest s)
    (running : s.tasks.get? task = some job) (owned : job.owned? = some id)
    (move : job.move digest s task answer = some m)
    (found : s.receipts.get? id = some receipt) (recorder : receipt.recorder = task)
    (mine : Stage (s.perform task m) task id ((m.status.map (·.2)).getD receipt.status)) :
    Staged digest (s.perform task m) := by
  have own := ownMove owned move
  have none : job.entries = [] := by
    cases job <;> first | rfl | cases owned
  have still : ∀ next, m.next = some next → next.entries = [] := fun next goes => (own.next next goes).1
  have drained : (s.perform task m).drained = s.drained := by simp [Gateway.perform, own.drains]
  refine ⟨inv.admission.perform running move, inv.lists.perform move still own.drains, ?_, ?_, ?_⟩
  · intro n among
    rw [drained] at among
    have old : n = task ∨ n ∈ s.drained ∨ n ∈ s.delivered.map (·.1) := by
      rcases among with taken | told
      · exact Or.inr (Or.inl taken)
      · simp only [Gateway.perform, List.map_append, List.mem_append] at told
        rcases told with before | now
        · exact Or.inr (Or.inr before)
        · simp only [List.mem_map, Option.mem_toList] at now
          obtain ⟨d, delivers, rfl⟩ := now
          exact Or.inl (own.delivers d delivers)
    rcases old with rfl | before
    · exact ⟨id, _, own.receipt found, recorder⟩
    · obtain ⟨k, receipt', found', rfl⟩ := inv.known n before
      obtain ⟨later, stays, -, same⟩ := receipt_kept move found'
      exact ⟨k, later, stays, same⟩
  · intro k n listed
    by_cases same : k = id
    · subst same
      -- the entry of the request, old or new, is the task's own
      have self : n = task ∧ task ∉ s.drained := by
        simp only [Gateway.perform, own.drains, Bool.false_eq_true, if_false] at listed
        cases removes : m.removes with
        | some r =>
          obtain rfl := own.removes r removes
          simp [removes] at listed
        | none =>
          cases registers : m.registers with
          | some r =>
            obtain rfl := own.registers r registers
            obtain ⟨req, rfl⟩ := registers_of_move move registers
            have stage := inv.stage r receipt found
            rw [recorder] at stage
            exact ⟨by simpa [removes, registers] using listed.symm, stage.live_of_register running⟩
          | none =>
            simp only [removes, registers] at listed
            obtain ⟨live, _, receipt', -, -, -, found', rfl⟩ := inv.listed k n listed
            obtain rfl : receipt' = receipt := by simpa [found] using found'.symm
            exact ⟨recorder, recorder ▸ live⟩
      obtain ⟨rfl, live⟩ := self
      have goes : m.next ≠ .none := by
        intro ends
        simp [Gateway.perform, own.drains, own.ends ends] at listed
      obtain ⟨next, goes⟩ := Option.ne_none_iff_exists'.mp goes
      obtain ⟨-, ownedNext, unregistered⟩ := own.next next goes
      exact ⟨drained ▸ live, next, _, by rw [perform_tasks, if_pos rfl, goes], ownedNext,
        unregistered, own.receipt found, recorder⟩
    · rw [own.inflight_other same] at listed
      obtain ⟨live, job', receipt', runs, ownedOther, unregistered, found', recorder'⟩ :=
        inv.listed k n listed
      have other : n ≠ task := by
        rintro rfl
        exact same (inv.same_request found' found (recorder'.trans recorder.symm))
      exact ⟨drained ▸ live, job', receipt', by rw [perform_tasks, if_neg other, runs], ownedOther,
        unregistered, by rw [own.receipt_other same, found'], recorder'⟩
  · intro k later found'
    by_cases same : k = id
    · subst same
      rw [own.receipt found] at found'
      cases found'
      rw [recorder]
      exact mine
    · rw [own.receipt_other same] at found'
      have other : later.recorder ≠ task := by
        intro mine
        exact same (inv.same_request found' found (mine.trans recorder.symm))
      exact (inv.stage k later found').frame (by rw [perform_tasks, if_neg other])
        (own.inflight_other same) (by rw [drained]) (own.finals_other other)
        (waiting_perform running none still) (sending_perform running none still)

/-- A command without a terminal receipt goes on as such. -/
theorem Stage.working {id : RequestId} {status : StoredReceiptState} (stage : Stage s n id status)
    (runs : s.tasks.get? n = some job) (works : job.Working)
    (goes : s'.tasks.get? n = some next) (still : next.Working)
    (inflight : s'.inflight.get? id = s.inflight.get? id)
    (drained : n ∈ s'.drained ↔ n ∈ s.drained) (finals : s'.finals n = s.finals n)
    (waiting : s'.Waiting n ↔ s.Waiting n) (sending : s'.Sending n ↔ s.Sending n) :
    Stage s' n id status := by
  have later : ∀ job', s'.tasks.get? n = some job' → job'.Working := by
    intro job' runs'
    obtain rfl : job' = next := by simpa [goes] using runs'.symm
    exact still
  have mine : ∀ {job'}, s.tasks.get? n = some job' → job'.Working := by
    intro job' runs'
    obtain rfl : job' = job := by simpa [runs] using runs'.symm
    exact works
  cases stage with
  | recorded req runs' live silent pending => exact (mine runs').elim
  | active job' runs' works' listed live silent pending =>
    exact .active next goes still (inflight.trans listed) (drained.not.mpr live)
      (finals.trans silent) pending
  | stored state returns runs' final listed live silent same =>
    have nonterminal : state.isTerminal = false := mine runs'
    simp [final] at nonterminal
  | told state final rests live once same =>
    rcases rests with ⟨returns, runs'⟩ | gone
    · exact (mine runs').elim
    · simp [runs] at gone
  | draining works' taken waits quiet silent pending =>
    exact .draining later (drained.mpr taken) (waiting.mpr waits) (sending.not.mpr quiet)
      (finals.trans silent) pending
  | closing works' taken idle sends silent same =>
    exact .closing later (drained.mpr taken) (waiting.not.mpr idle) (sending.mpr sends)
      (finals.trans silent) same
  | closed works' taken idle quiet once same =>
    exact .closed later (drained.mpr taken) (waiting.not.mpr idle) (sending.not.mpr quiet)
      (finals.trans once) same

/-- The jobs before the first status change, and the loop of the forwarding task. -/
theorem working_move (works : job.Working) (move : job.move digest s task answer = some m)
    (untold : ∀ id state returns, job ≠ .update id state returns) :
    ∃ next, m.next = some next ∧ next.Working ∧ m.status = none ∧ m.registers = none ∧
      m.removes = none ∧ ∀ d, m.delivers = some d → d.2.isTerminal = false := by
  cases moves_of_move move <;> simp_all [Job.Working]

/-- An update by a command that no shutdown has taken. -/
theorem Stage.active_of_update {id : RequestId} {status : StoredReceiptState}
    {k : RequestId} {state : ReceiptState} {returns : Bool} (stage : Stage s n id status)
    (runs : s.tasks.get? n = some (.update k state returns)) (live : n ∉ s.drained) :
    s.inflight.get? id = some n ∧ s.finals n = [] ∧ status.isTerminal = false := by
  cases stage with
  | recorded req runs' => simp [runs] at runs'
  | active job runs' works listed live silent pending => exact ⟨listed, silent, pending⟩
  | stored state returns runs' => simp [runs] at runs'
  | told state final rests => simp [runs] at rests
  | draining works taken => exact absurd taken live
  | closing works taken => exact absurd taken live
  | closed works taken => exact absurd taken live

/-- The own stage of a command after a move of its task. -/
theorem Staged.own_stage {id : RequestId} {receipt : Receipt} (inv : Staged digest s)
    (orderly : s.Orderly (.answer task answer)) (running : s.tasks.get? task = some job)
    (owned : job.owned? = some id) (move : job.move digest s task answer = some m)
    (found : s.receipts.get? id = some receipt) (recorder : receipt.recorder = task) :
    Stage (s.perform task m) task id ((m.status.map (·.2)).getD receipt.status) := by
  have own := ownMove owned move
  have none : job.entries = [] := by
    cases job <;> first | rfl | cases owned
  have still : ∀ next, m.next = some next → next.entries = [] := fun next goes => (own.next next goes).1
  have drained : task ∈ (s.perform task m).drained ↔ task ∈ s.drained := by
    simp [Gateway.perform, own.drains]
  have waiting := waiting_perform (n := task) running none still
  have sending := sending_perform (n := task) running none still
  have goes : (s.perform task m).tasks.get? task = m.next := by rw [perform_tasks, if_pos rfl]
  have stage := inv.stage id receipt found
  rw [recorder] at stage
  -- a job that is working and is no update
  have works : job.Working → (∀ k state returns, job ≠ .update k state returns) →
      Stage (s.perform task m) task id ((m.status.map (·.2)).getD receipt.status) := by
    intro works untold
    obtain ⟨next, goesOn, working, status, registers, removes, delivers⟩ :=
      working_move works move untold
    have inflight : (s.perform task m).inflight.get? id = s.inflight.get? id := by
      simp [Gateway.perform, own.drains, registers, removes]
    have finals : (s.perform task m).finals task = s.finals task := by
      rw [finals_perform]
      cases told : m.delivers with
      | none => simp
      | some d => simp [delivers d told]
    simpa [status] using stage.working running works (goes.trans goesOn) working inflight drained
      finals waiting sending
  cases job with
  | record _ | lookUp _ | drain | closing _ | closeUpdate _ _ _ | closeSend _ _ _ => cases owned
  | snapshot req => exact works trivial (by simp)
  | dispatch req validated => exact works trivial (by simp)
  | executing req => exact works trivial (by simp)
  | forward k => exact works trivial (by simp)
  | register req =>
    simp only [Job.owned?, Option.some.injEq] at owned
    subst owned
    simp only [Job.move] at move
    split at move <;> cases move
    have live := stage.live_of_register running
    cases stage with
    | recorded req' runs live' silent pending =>
      refine .active _ goes ?_ (by simp [Gateway.perform]) (drained.not.mpr live)
        (by simp [finals_perform, silent]) pending
      split <;> trivial
    | active job runs works' =>
      obtain rfl : Job.register req = job := by simpa [running] using runs
      exact works'.elim
    | stored state returns runs => simp [running] at runs
    | told state final rests => simp [running] at rests
    | draining works' taken => exact absurd taken live
    | closing works' taken => exact absurd taken live
    | closed works' taken => exact absurd taken live
  | update k state returns =>
    simp only [Job.owned?, Option.some.injEq] at owned
    subst owned
    simp only [Orderly, running] at orderly
    simp only [Job.move] at move
    split at move
    · obtain ⟨listed, silent, pending⟩ := stage.active_of_update running orderly
      cases move
      cases final : state.isTerminal with
      | true =>
        exact .stored state returns goes final listed (drained.not.mpr orderly)
          (by simp [finals_perform, silent]) rfl
      | false =>
        exact .active _ goes final listed (drained.not.mpr orderly)
          (by simp [finals_perform, silent]) ((isTerminal_status state).trans final)
    · obtain ⟨listed, silent, pending⟩ := stage.active_of_update running orderly.1
      cases move
      exact .active _ goes orderly.2 listed (drained.not.mpr orderly.1)
        (by simp [finals_perform, silent]) pending
    · cases move
  | send k state returns =>
    simp only [Job.owned?, Option.some.injEq] at owned
    subst owned
    cases final : state.isTerminal with
    | false => exact works final (by simp)
    | true =>
      simp only [Job.move, final, if_true] at move
      split at move <;> cases move
      have working : ¬ (Job.send k state returns).Working := by simp [Job.Working, final]
      cases stage with
      | recorded req runs => simp [running] at runs
      | active job runs works' =>
        obtain rfl : Job.send k state returns = job := by simpa [running] using runs
        exact absurd works' working
      | stored state' returns' runs final' listed live silent same =>
        obtain ⟨rfl, rfl⟩ : state = state' ∧ returns = returns' := by
          simpa [running] using runs
        refine .told state final (Or.inl ⟨returns, goes⟩) (drained.not.mpr live) ?_ same
        simp [finals_perform, silent, final]
      | told state' final' rests => simp [running] at rests
      | draining works' => exact absurd (works' _ running) working
      | closing works' => exact absurd (works' _ running) working
      | closed works' => exact absurd (works' _ running) working
  | remove k returns =>
    simp only [Job.owned?, Option.some.injEq] at owned
    subst owned
    simp only [Job.move] at move
    split at move <;> cases move
    cases stage with
    | recorded req runs => simp [running] at runs
    | active job runs works' =>
      obtain rfl : Job.remove k returns = job := by simpa [running] using runs
      exact works'.elim
    | stored state returns runs => simp [running] at runs
    | told state final rests live once same =>
      exact .told state final (Or.inr goes) (drained.not.mpr live)
        (by simp [finals_perform, once]) same
    | draining works' => exact (works' _ running).elim
    | closing works' => exact (works' _ running).elim
    | closed works' => exact (works' _ running).elim

/-- The task of a command in a stage is one of its own jobs. -/
theorem Stage.owned {id : RequestId} {status : StoredReceiptState} (stage : Stage s n id status)
    (runs : s.tasks.get? n = some job) : job.owned? ≠ none := by
  have works : job.Working → job.owned? ≠ none := by
    intro works
    cases job <;> simp [Job.Working, Job.owned?] at works ⊢
  have same : ∀ {job'}, s.tasks.get? n = some job' → job' = job := by
    intro job' runs'
    simpa [runs] using runs'.symm
  cases stage with
  | recorded req runs' => simp [← same runs', Job.owned?]
  | active job' runs' works' => exact works (same runs' ▸ works')
  | stored state returns runs' => simp [← same runs', Job.owned?]
  | told state final rests =>
    rcases rests with ⟨returns, runs'⟩ | gone
    · simp [← same runs', Job.owned?]
    · simp [runs] at gone
  | draining works' => exact works (works' job runs)
  | closing works' => exact works (works' job runs)
  | closed works' => exact works (works' job runs)

/-- The moves of a submission that has not recorded its request, but for the recording. -/
theorem Staged.unrecorded (inv : Staged digest s) (running : s.tasks.get? task = some job)
    (unowned : job.owned? = none) (none : job.entries = []) (submits : job ≠ .drain)
    (move : job.move digest s task answer = some m) (keeps : m.inserts = .none) :
    Staged digest (s.perform task m) := by
  have plain : m.status = .none ∧ m.registers = .none ∧ m.removes = .none ∧ m.drains = false ∧
      m.delivers = .none ∧ ∀ next, m.next = some next → next.entries = [] := by
    cases moves_of_move move <;> simp_all [Job.owned?, Job.entries]
  obtain ⟨status, registers, removes, drains, delivers, still⟩ := plain
  have receipts : (s.perform task m).receipts = s.receipts := by
    simp [Gateway.perform, keeps, status]
  have inflight : (s.perform task m).inflight = s.inflight := by
    simp [Gateway.perform, drains, registers, removes]
  have drained : (s.perform task m).drained = s.drained := by simp [Gateway.perform, drains]
  have delivered : (s.perform task m).delivered = s.delivered := by
    simp [Gateway.perform, delivers]
  refine ⟨inv.admission.perform running move, inv.lists.perform move still drains, ?_, ?_, ?_⟩
  · rw [drained, delivered, receipts]
    exact inv.known
  · rw [inflight, drained, receipts]
    intro k n listed
    obtain ⟨live, job', receipt, runs, ownedOther, rest⟩ := inv.listed k n listed
    have other : n ≠ task := by
      rintro rfl
      obtain rfl : job = job' := by simpa [running] using runs
      simp [unowned] at ownedOther
    exact ⟨live, job', receipt, by rw [perform_tasks, if_neg other, runs], ownedOther, rest⟩
  · rw [receipts]
    intro k receipt found
    have stage := inv.stage k receipt found
    have other : receipt.recorder ≠ task := by
      rintro mine
      exact stage.owned (mine ▸ running) unowned
    exact stage.frame (by rw [perform_tasks, if_neg other]) (by rw [inflight]) (by rw [drained])
      (by simp [finals, delivered]) (waiting_perform running none still)
      (sending_perform running none still)

/-- A new request is recorded. -/
theorem Staged.record {req : CommandRequest} {id : RequestId} {new : Receipt}
    (inv : Staged digest s) (running : s.tasks.get? task = some (.record req))
    (move : (Job.record req).move digest s task answer = some m)
    (inserts : m.inserts = some (id, new)) : Staged digest (s.perform task m) := by
  obtain ⟨req', same, rfl, missing, recorder, -⟩ := inserts_of_move move inserts
  cases same
  have plain : m = { next := some (.register req), inserts := some (req.requestId, new) } ∧
      new.status = .acceptedByBridge := by
    simp only [Job.move, missing] at move
    split at move <;> cases move <;> cases inserts
    exact ⟨rfl, rfl⟩
  obtain ⟨rfl, status⟩ := plain
  -- the recorder has not recorded, been taken or been told anything before
  have unknown : ∀ k receipt, s.receipts.get? k = some receipt → receipt.recorder ≠ task := by
    rintro k receipt found mine
    obtain ⟨req', known, rfl, -⟩ := inv.admission.receipts k receipt found
    have carried := inv.admission.carries task _ req running rfl
    obtain rfl : req' = req := by simpa [mine, carried] using known.symm
    simp [missing] at found
  have untouched : task ∉ s.drained ∧ task ∉ s.delivered.map (·.1) := by
    constructor <;> intro among
    · obtain ⟨k, receipt, found, mine⟩ := inv.known task (Or.inl among)
      exact unknown k receipt found mine
    · obtain ⟨k, receipt, found, mine⟩ := inv.known task (Or.inr among)
      exact unknown k receipt found mine
  have silent : s.finals task = [] := by
    rw [finals, List.map_eq_nil_iff, List.filter_eq_nil_iff]
    rintro d member told
    simp only [Bool.decide_and, Bool.and_eq_true, decide_eq_true_eq] at told
    exact untouched.2 (List.mem_map.mpr ⟨d, member, told.1⟩)
  have receipts : ∀ k, (s.receipts.insert req.requestId new).get? k =
      if k = req.requestId then some new else s.receipts.get? k :=
    fun k => FiniteMap.get?_insert _ _ _ _
  have stays : ∀ {k receipt}, s.receipts.get? k = some receipt →
      (s.receipts.insert req.requestId new).get? k = some receipt := by
    intro k receipt found
    rw [receipts, if_neg (by rintro rfl; simp [missing] at found), found]
  have still : ∀ next, some (Job.register req) = some next → next.entries = [] := by
    rintro _ ⟨⟩
    rfl
  refine ⟨inv.admission.perform running move, inv.lists.perform move still rfl, ?_, ?_, ?_⟩
  · intro n among
    obtain ⟨k, receipt, found, mine⟩ := inv.known n (by simpa [Gateway.perform] using among)
    exact ⟨k, receipt, stays found, mine⟩
  · intro k n listed
    obtain ⟨live, job', receipt, runs, ownedOther, unregistered, found, mine⟩ := inv.listed k n listed
    have other : n ≠ task := mine ▸ unknown k receipt found
    exact ⟨live, job', receipt, by rw [perform_tasks, if_neg other, runs], ownedOther, unregistered,
      stays found, mine⟩
  · intro k receipt found
    replace found : (s.receipts.insert req.requestId new).get? k = some receipt := found
    rw [receipts] at found
    split at found
    · cases found
      rw [recorder]
      exact .recorded req (by rw [perform_tasks, if_pos rfl]) untouched.1
        (by simp [finals_perform, silent]) (by simp [status, StoredReceiptState.isTerminal])
    · have other := unknown k receipt found
      exact (inv.stage k receipt found).frame (by rw [perform_tasks, if_neg other]) rfl Iff.rfl
        (by simp [finals_perform]) (waiting_perform running rfl still)
        (sending_perform running rfl still)

/-! ## Shutdowns -/

/-- The tasks other than `task` on whose list `n` waits. -/
def WaitingElsewhere (s : Gateway) (task n : Nat) : Prop :=
  ∃ u job, u ≠ task ∧ s.tasks.get? u = some job ∧ n ∈ job.waiting.map (·.2)

def SendingElsewhere (s : Gateway) (task n : Nat) : Prop :=
  ∃ u id rest, u ≠ task ∧ s.tasks.get? u = some (.closeSend id n rest)

theorem waiting_iff (running : s.tasks.get? task = some job) :
    s.Waiting n ↔ s.WaitingElsewhere task n ∨ n ∈ job.waiting.map (·.2) := by
  constructor
  · rintro ⟨u, job', runs, member⟩
    by_cases self : u = task
    · subst self
      obtain rfl : job' = job := by simpa [running] using runs.symm
      exact Or.inr member
    · exact Or.inl ⟨u, job', self, runs, member⟩
  · rintro (⟨u, job', -, runs, member⟩ | member)
    · exact ⟨u, job', runs, member⟩
    · exact ⟨task, job, running, member⟩

theorem sending_iff (running : s.tasks.get? task = some job) :
    s.Sending n ↔ s.SendingElsewhere task n ∨ ∃ id rest, job = .closeSend id n rest := by
  constructor
  · rintro ⟨u, id, rest, runs⟩
    by_cases self : u = task
    · subst self
      exact Or.inr ⟨id, rest, by simpa [running] using runs⟩
    · exact Or.inl ⟨u, id, rest, self, runs⟩
  · rintro (⟨u, id, rest, -, runs⟩ | ⟨id, rest, rfl⟩)
    · exact ⟨u, id, rest, runs⟩
    · exact ⟨task, id, rest, running⟩

/-- A move leaves the other tasks' lists alone. -/
theorem elsewhere_perform (s : Gateway) (task : Nat) (m : Move) (n : Nat) :
    ((s.perform task m).WaitingElsewhere task n ↔ s.WaitingElsewhere task n) ∧
      ((s.perform task m).SendingElsewhere task n ↔ s.SendingElsewhere task n) := by
  have same : ∀ u, u ≠ task → (s.perform task m).tasks.get? u = s.tasks.get? u := by
    intro u other
    rw [perform_tasks, if_neg other]
  constructor
  · constructor
    · rintro ⟨u, job, other, runs, member⟩
      exact ⟨u, job, other, (same u other).symm.trans runs, member⟩
    · rintro ⟨u, job, other, runs, member⟩
      exact ⟨u, job, other, (same u other).trans runs, member⟩
  · constructor
    · rintro ⟨u, id, rest, other, runs⟩
      exact ⟨u, id, rest, other, (same u other).symm.trans runs⟩
    · rintro ⟨u, id, rest, other, runs⟩
      exact ⟨u, id, rest, other, (same u other).trans runs⟩

/-- What a shutdown has on its list, no other shutdown has. -/
theorem Lists.elsewhere (lists : s.Lists) (running : s.tasks.get? task = some job)
    {e : RequestId × Nat} (member : e ∈ job.entries) :
    ¬ s.WaitingElsewhere task e.2 ∧ ¬ s.SendingElsewhere task e.2 := by
  constructor
  · rintro ⟨u, job', other, runs, waits⟩
    obtain ⟨e', entry, same⟩ := entries_of_waiting waits
    exact other (lists.apart u task job' job e' e runs running entry member same)
  · rintro ⟨u, id, rest, other, runs⟩
    exact other (lists.apart u task _ job (id, e.2) e runs running (by simp [Job.entries]) member rfl)

/-- The lists after a move of a shutdown that only drops entries. -/
theorem Lists.drop (lists : s.Lists) (running : s.tasks.get? task = some job)
    (move : job.move digest s task answer = some m) (drains : m.drains = false)
    (nodup : ∀ next, m.next = some next → (next.entries.map (·.2)).Nodup)
    (fewer : ∀ next, m.next = some next → ∀ e ∈ next.entries, e ∈ job.entries) :
    (s.perform task m).Lists := by
  have old : ∀ {u job'} {e : RequestId × Nat}, (s.perform task m).tasks.get? u = some job' →
      e ∈ job'.entries → ∃ job₀, s.tasks.get? u = some job₀ ∧ e ∈ job₀.entries := by
    intro u job' e runs member
    rw [perform_tasks] at runs
    split at runs
    · next self => exact ⟨job, self ▸ running, fewer job' runs e member⟩
    · exact ⟨job', runs, member⟩
  have drained : (s.perform task m).drained = s.drained := by simp [Gateway.perform, drains]
  refine ⟨fun u job' runs => ?_, fun u v job₁ job₂ e e' runs runs' member member' same => ?_,
    fun u job' e runs member => ?_⟩
  · rw [perform_tasks] at runs
    split at runs
    · exact nodup job' runs
    · exact lists.nodup u job' runs
  · obtain ⟨job₁', before, entry⟩ := old runs member
    obtain ⟨job₂', before', entry'⟩ := old runs' member'
    exact lists.apart u v job₁' job₂' e e' before before' entry entry' same
  · obtain ⟨job₀, before, entry⟩ := old runs member
    obtain ⟨taken, receipt, found, recorder⟩ := lists.taken u job₀ e before entry
    obtain ⟨later, found', -, same⟩ := receipt_kept move found
    exact ⟨drained ▸ taken, later, found', same.trans recorder⟩

/-- A move of a shutdown that takes no further command: the stages are to be shown. -/
theorem Staged.close (inv : Staged digest s) (running : s.tasks.get? task = some job)
    (unowned : job.owned? = none) (move : job.move digest s task answer = some m)
    (lists : (s.perform task m).Lists)
    (plain : m.registers = none ∧ m.removes = none ∧ m.drains = false)
    (tells : ∀ d, m.delivers = some d →
      ∃ id receipt, s.receipts.get? id = some receipt ∧ receipt.recorder = d.1)
    (stage : ∀ id later, (s.perform task m).receipts.get? id = some later →
      Stage (s.perform task m) later.recorder id later.status) :
    Staged digest (s.perform task m) := by
  obtain ⟨registers, removes, drains⟩ := plain
  have inflight : (s.perform task m).inflight = s.inflight := by
    simp [Gateway.perform, drains, registers, removes]
  have drained : (s.perform task m).drained = s.drained := by simp [Gateway.perform, drains]
  have stays : ∀ {id receipt}, s.receipts.get? id = some receipt →
      ∃ later, (s.perform task m).receipts.get? id = some later ∧
        later.recorder = receipt.recorder := by
    intro id receipt found
    obtain ⟨later, found', -, same⟩ := receipt_kept move found
    exact ⟨later, found', same⟩
  refine ⟨inv.admission.perform running move, lists, ?_, ?_, stage⟩
  · intro n among
    rw [drained] at among
    have before : ∃ id receipt, s.receipts.get? id = some receipt ∧ receipt.recorder = n := by
      rcases among with taken | told
      · exact inv.known n (Or.inl taken)
      · simp only [Gateway.perform, List.map_append, List.mem_append] at told
        rcases told with before | now
        · exact inv.known n (Or.inr before)
        · simp only [List.mem_map, Option.mem_toList] at now
          obtain ⟨d, delivers, rfl⟩ := now
          exact tells d delivers
    obtain ⟨id, receipt, found, rfl⟩ := before
    obtain ⟨later, found', same⟩ := stays found
    exact ⟨id, later, found', same⟩
  · rw [inflight, drained]
    intro k n listed
    obtain ⟨live, job', receipt, runs, ownedOther, unregistered, found, recorder⟩ :=
      inv.listed k n listed
    have other : n ≠ task := by
      rintro rfl
      obtain rfl : job = job' := by simpa [running] using runs
      simp [unowned] at ownedOther
    obtain ⟨later, found', same⟩ := stays found
    exact ⟨live, job', later, by rw [perform_tasks, if_neg other, runs], ownedOther, unregistered,
      found', same.trans recorder⟩

/-- The lists after a move, at the task and elsewhere. -/
theorem waiting_after (goes : m.next = some next) :
    (s.perform task m).Waiting n ↔ s.WaitingElsewhere task n ∨ n ∈ next.waiting.map (·.2) := by
  rw [waiting_iff (by rw [perform_tasks, if_pos rfl, goes]), (elsewhere_perform s task m n).1]

theorem sending_after (goes : m.next = some next) :
    (s.perform task m).Sending n ↔
      s.SendingElsewhere task n ∨ ∃ id rest, next = .closeSend id n rest := by
  rw [sending_iff (by rw [perform_tasks, if_pos rfl, goes]), (elsewhere_perform s task m n).2]

/-- A shutdown picks its next command. -/
theorem Staged.pick {pending : List (RequestId × Nat)} {id : RequestId} {caller : Nat}
    (inv : Staged digest s) (running : s.tasks.get? task = some (.closing pending))
    (member : (id, caller) ∈ pending) :
    Staged digest (s.perform task
      { next := some (.closeUpdate id caller (pending.erase (id, caller))) }) := by
  have move : (Job.closing pending).move digest s task (.picked id caller) =
      some { next := some (.closeUpdate id caller (pending.erase (id, caller))) } := by
    simp [Job.move, member]
  have perm : ((id, caller) :: pending.erase (id, caller)).Perm pending :=
    (List.perm_cons_erase member).symm
  have same : ∀ n, n ∈ (Job.closeUpdate id caller (pending.erase (id, caller))).waiting.map (·.2) ↔
      n ∈ (Job.closing pending).waiting.map (·.2) := fun n => (perm.map (·.2)).mem_iff
  refine inv.close running rfl move ?_ ⟨rfl, rfl, rfl⟩ (by simp) ?_
  · refine inv.lists.drop running move rfl ?_ ?_
    · rintro _ ⟨⟩
      exact (perm.map (·.2)).nodup_iff.mpr (inv.lists.nodup task _ running)
    · rintro _ ⟨⟩ e entry
      exact perm.mem_iff.mp entry
  · intro k receipt found
    have stage := inv.stage k receipt found
    have other : receipt.recorder ≠ task := fun mine => stage.owned (mine ▸ running) rfl
    refine stage.frame (by rw [perform_tasks, if_neg other]) rfl Iff.rfl (by simp [finals_perform]) ?_ ?_
    · rw [waiting_after rfl, waiting_iff running, same]
    · rw [sending_after rfl, sending_iff running]
      simp

/-- A shutdown with nothing left to do ends. -/
theorem Staged.finish (inv : Staged digest s) (running : s.tasks.get? task = some (.closing [])) :
    Staged digest (s.perform task {}) := by
  have move : (Job.closing []).move digest s task .ended = some {} := by simp [Job.move]
  refine inv.close running rfl move ?_ ⟨rfl, rfl, rfl⟩ (by simp) ?_
  · exact inv.lists.perform move (by simp) rfl
  · intro k receipt found
    have stage := inv.stage k receipt found
    have other : receipt.recorder ≠ task := fun mine => stage.owned (mine ▸ running) rfl
    exact stage.frame (by rw [perform_tasks, if_neg other]) rfl Iff.rfl (by simp [finals_perform])
      (waiting_perform running rfl (by simp)) (sending_perform running rfl (by simp))

/-- A shutdown stores the status of a command. -/
theorem Staged.closeUpdate {id : RequestId} {caller : Nat} {rest : List (RequestId × Nat)}
    (inv : Staged digest s) (running : s.tasks.get? task = some (.closeUpdate id caller rest)) :
    Staged digest (s.perform task
      { next := some (.closeSend id caller rest), status := some (id, .outcomeUnknown) }) := by
  have move : (Job.closeUpdate id caller rest).move digest s task .stored =
      some { next := some (.closeSend id caller rest), status := some (id, .outcomeUnknown) } := rfl
  have entry : (id, caller) ∈ (Job.closeUpdate id caller rest).entries := by simp [Job.entries]
  have nodup := inv.lists.nodup task _ running
  obtain ⟨taken, receipt, found, recorder⟩ := inv.lists.taken task _ (id, caller) running entry
  obtain ⟨noWaiting, noSending⟩ := inv.lists.elsewhere running entry
  refine inv.close running rfl move ?_ ⟨rfl, rfl, rfl⟩ (by simp) ?_
  · refine inv.lists.drop running move rfl ?_ ?_
    · rintro _ ⟨⟩
      exact nodup
    · rintro _ ⟨⟩ e entry
      exact entry
  · intro k later found'
    replace found' : (setStatus s.receipts id .outcomeUnknown).get? k = some later := found'
    rw [get?_setStatus] at found'
    by_cases same : k = id
    · subst same
      rw [if_pos rfl, found] at found'
      cases found'
      -- the command was waiting on this list only
      have stage := inv.stage k receipt found
      rw [recorder] at stage ⊢
      have other : caller ≠ task := by
        rintro rfl
        exact stage.owned running rfl
      have waits : s.Waiting caller := (waiting_iff running).mpr (Or.inr (by simp [Job.waiting]))
      have unlisted : caller ∉ rest.map (·.2) := by
        simpa [Job.entries] using (List.nodup_cons.mp nodup).1
      cases stage with
      | recorded req runs live => exact absurd taken live
      | active job runs works listed live => exact absurd taken live
      | stored state returns runs final listed live => exact absurd taken live
      | told state final rests live => exact absurd taken live
      | draining works taken waits quiet silent pending =>
        refine .closing ?_ taken ?_ ?_ (by simp [finals_perform, silent]) rfl
        · rw [perform_tasks, if_neg other]
          exact works
        · rw [waiting_after rfl]
          simp only [Job.waiting, not_or]
          exact ⟨noWaiting, unlisted⟩
        · rw [sending_after rfl]
          exact Or.inr ⟨k, rest, rfl⟩
      | closing works taken idle => exact absurd waits idle
      | closed works taken idle => exact absurd waits idle
    · rw [if_neg same] at found'
      have stage := inv.stage k later found'
      have other : later.recorder ≠ task := fun mine => stage.owned (mine ▸ running) rfl
      have apart : later.recorder ≠ caller := fun mine =>
        same (inv.same_request found' found (mine.trans recorder.symm))
      refine stage.frame (by rw [perform_tasks, if_neg other]) rfl Iff.rfl
        (by simp [finals_perform]) ?_ ?_
      · rw [waiting_after rfl, waiting_iff running]
        simp [Job.waiting, apart]
      · rw [sending_after rfl, sending_iff running]
        simp [Ne.symm apart]

/-- A shutdown sends the receipt of a command. -/
theorem Staged.closeSend {id : RequestId} {caller : Nat} {rest : List (RequestId × Nat)}
    (inv : Staged digest s) (running : s.tasks.get? task = some (.closeSend id caller rest)) :
    Staged digest (s.perform task
      { next := some (.closing rest), delivers := some (caller, .outcomeUnknown) }) := by
  have move : (Job.closeSend id caller rest).move digest s task .continued =
      some { next := some (.closing rest), delivers := some (caller, .outcomeUnknown) } := rfl
  have entry : (id, caller) ∈ (Job.closeSend id caller rest).entries := by simp [Job.entries]
  have nodup := inv.lists.nodup task _ running
  obtain ⟨taken, receipt, found, recorder⟩ := inv.lists.taken task _ (id, caller) running entry
  obtain ⟨noWaiting, noSending⟩ := inv.lists.elsewhere running entry
  refine inv.close running rfl move ?_ ⟨rfl, rfl, rfl⟩ ?_ ?_
  · refine inv.lists.drop running move rfl ?_ ?_
    · rintro _ ⟨⟩
      exact (List.nodup_cons.mp nodup).2
    · rintro _ ⟨⟩ e entry
      exact List.mem_cons_of_mem _ entry
  · rintro _ ⟨⟩
    exact ⟨id, receipt, found, recorder⟩
  · intro k later found'
    replace found' : s.receipts.get? k = some later := found'
    have stage := inv.stage k later found'
    have other : later.recorder ≠ task := fun mine => stage.owned (mine ▸ running) rfl
    by_cases same : later.recorder = caller
    · -- the command's receipt was on its way from this shutdown
      have sends : s.Sending caller := (sending_iff running).mpr (Or.inr ⟨id, rest, rfl⟩)
      have unlisted : caller ∉ rest.map (·.2) := by
        simpa [Job.entries] using (List.nodup_cons.mp nodup).1
      rw [same] at stage other ⊢
      cases stage with
      | recorded req runs live => exact absurd taken live
      | active job runs works listed live => exact absurd taken live
      | stored state returns runs final listed live => exact absurd taken live
      | told state final rests live => exact absurd taken live
      | draining works taken waits quiet => exact absurd sends quiet
      | closing works taken idle sends silent unknown =>
        refine .closed ?_ taken ?_ ?_ ?_ unknown
        · rw [perform_tasks, if_neg other]
          exact works
        · rw [waiting_after rfl]
          simp only [Job.waiting, not_or]
          exact ⟨noWaiting, unlisted⟩
        · rw [sending_after rfl]
          simpa using noSending
        · simp [finals_perform, silent, ReceiptState.isTerminal]
      | closed works taken idle quiet => exact absurd sends quiet
    · refine stage.frame (by rw [perform_tasks, if_neg other]) rfl Iff.rfl ?_ ?_ ?_
      · simp [finals_perform, Ne.symm same]
      · rw [waiting_after rfl, waiting_iff running]
        simp [Job.waiting]
      · rw [sending_after rfl, sending_iff running]
        simp [Ne.symm same]

/-- The command `id` is in flight at most under its recorder. -/
theorem Staged.inflight_recorder {id : RequestId} {receipt : Receipt} (inv : Staged digest s)
    (listed : s.inflight.get? id = some n) (found : s.receipts.get? id = some receipt) :
    receipt.recorder = n := by
  obtain ⟨-, _, receipt', -, -, -, found', recorder⟩ := inv.listed id n listed
  obtain rfl : receipt' = receipt := by simpa [found] using found'.symm
  exact recorder

/-- A recorder is in flight for its own request only. -/
theorem Staged.inflight_request {id k : RequestId} {receipt : Receipt} (inv : Staged digest s)
    (listed : s.inflight.get? k = some n) (found : s.receipts.get? id = some receipt)
    (recorder : receipt.recorder = n) : k = id := by
  obtain ⟨-, _, receipt', -, -, -, found', recorder'⟩ := inv.listed k n listed
  exact inv.same_request found' found (recorder'.trans recorder.symm)

theorem Staged.nodup_inflight (inv : Staged digest s) : (s.inflight.toList.map (·.2)).Nodup := by
  have keys : (s.inflight.toList.map (·.1)).Nodup := by
    simpa using s.inflight.nodup_fst fun _ => true
  refine (List.Nodup.of_map _ keys).map_on ?_
  rintro ⟨k, n⟩ member ⟨k', n'⟩ member' same
  obtain rfl : n = n' := same
  rw [FiniteMap.mem_toList] at member member'
  obtain ⟨-, _, receipt, -, -, -, found, recorder⟩ := inv.listed k' n member'
  rw [inv.inflight_request member found recorder]

/-- The lists after a shutdown has taken the commands in flight. -/
theorem Staged.lists_drain (inv : Staged digest s) (running : s.tasks.get? task = some .drain) :
    (s.perform task { next := some (.closing s.inflight.toList), drains := true }).Lists := by
  have old : ∀ {u job'}, (s.perform task
      { next := some (.closing s.inflight.toList), drains := true }).tasks.get? u = some job' →
      u = task ∧ job' = .closing s.inflight.toList ∨ u ≠ task ∧ s.tasks.get? u = some job' := by
    intro u job' runs
    rw [perform_tasks] at runs
    split at runs
    · next self => exact Or.inl ⟨self, (Option.some.inj runs).symm⟩
    · next other => exact Or.inr ⟨other, runs⟩
  -- what is in flight is on no list yet
  have fresh : ∀ {u job' e e'}, s.tasks.get? u = some job' → e ∈ job'.entries →
      e' ∈ s.inflight.toList → e.2 ≠ e'.2 := by
    intro u job' e e' runs entry member same
    have taken := (inv.lists.taken u job' e runs entry).1
    exact (inv.listed e'.1 e'.2 (FiniteMap.mem_toList.mp member)).1 (same ▸ taken)
  refine ⟨fun u job' runs => ?_, fun u v job₁ job₂ e e' runs runs' member member' same => ?_,
    fun u job' e runs member => ?_⟩
  · rcases old runs with ⟨rfl, rfl⟩ | ⟨-, before⟩
    · exact inv.nodup_inflight
    · exact inv.lists.nodup u job' before
  · rcases old runs with ⟨rfl, rfl⟩ | ⟨-, before⟩ <;>
      rcases old runs' with ⟨rfl, rfl⟩ | ⟨-, before'⟩
    · rfl
    · exact absurd same.symm (fresh before' member' member)
    · exact absurd same (fresh before member member')
    · exact inv.lists.apart u v job₁ job₂ e e' before before' member member' same
  · rcases old runs with ⟨rfl, rfl⟩ | ⟨-, before⟩
    · have listed : s.inflight.get? e.1 = some e.2 := FiniteMap.mem_toList.mp member
      obtain ⟨-, _, receipt, -, -, -, found, recorder⟩ := inv.listed e.1 e.2 listed
      refine ⟨?_, receipt, found, recorder⟩
      exact List.mem_append_right _ (FiniteMap.mem_values.mpr ⟨e.1, listed⟩)
    · obtain ⟨taken, receipt, found, recorder⟩ := inv.lists.taken u job' e before member
      exact ⟨List.mem_append_left _ taken, receipt, found, recorder⟩

/-- A shutdown takes the commands in flight, none of which has its terminal status. -/
theorem Staged.drain (inv : Staged digest s) (running : s.tasks.get? task = some .drain)
    (orderly : ∀ id n, s.inflight.get? id = some n →
      ∀ receipt, s.receipts.get? id = some receipt → receipt.status.isTerminal = false) :
    Staged digest
      (s.perform task { next := some (.closing s.inflight.toList), drains := true }) := by
  have move : Job.drain.move digest s task .continued =
      some { next := some (.closing s.inflight.toList), drains := true } := rfl
  refine ⟨inv.admission.perform running move, inv.lists_drain running, ?_, ?_, ?_⟩
  · intro n among
    rcases among with taken | told
    · rcases List.mem_append.mp taken with before | now
      · exact inv.known n (Or.inl before)
      · obtain ⟨k, listed⟩ := FiniteMap.mem_values.mp now
        obtain ⟨-, _, receipt, -, -, -, found, recorder⟩ := inv.listed k n listed
        exact ⟨k, receipt, found, recorder⟩
    · exact inv.known n (Or.inr (by simpa [Gateway.perform] using told))
  · intro k n listed
    simp [Gateway.perform] at listed
  · intro id receipt found
    replace found : s.receipts.get? id = some receipt := found
    have stage := inv.stage id receipt found
    have other : receipt.recorder ≠ task := fun mine => stage.owned (mine ▸ running) rfl
    by_cases listed : s.inflight.get? id = some receipt.recorder
    · obtain ⟨live, job, _, runs, -, unregistered, -⟩ := inv.listed id _ listed
      have pending := orderly id _ listed receipt found
      have taken : receipt.recorder ∈ s.drained ++ s.inflight.values :=
        List.mem_append_right _ (FiniteMap.mem_values.mpr ⟨id, listed⟩)
      cases stage with
      | recorded req runs' =>
        obtain rfl : job = .register req := by simpa [runs] using runs'
        exact absurd rfl (unregistered req)
      | active job' runs' works _ _ silent _ =>
        refine .draining ?_ taken ?_ ?_ (by simp [finals_perform, silent]) pending
        · rw [perform_tasks, if_neg other, runs']
          rintro _ ⟨⟩
          exact works
        · rw [waiting_after rfl]
          exact Or.inr (List.mem_map.mpr ⟨(id, _), FiniteMap.mem_toList.mpr listed, rfl⟩)
        · rw [sending_after rfl]
          rintro (⟨u, k, rest, -, sends⟩ | ⟨k, rest, closes⟩)
          · exact live (inv.lists.taken u _ (k, _) sends (by simp [Job.entries])).1
          · cases closes
      | stored state returns _ final _ _ _ same =>
        simp [same, final] at pending
      | told state final _ _ _ same =>
        simp [same, final] at pending
      | draining _ taken => exact absurd taken live
      | closing _ taken => exact absurd taken live
      | closed _ taken => exact absurd taken live
    · -- a command that is not in flight stays where it is
      have absent : ∀ k, s.inflight.get? k ≠ some receipt.recorder := by
        intro k listed'
        obtain rfl := inv.inflight_request listed' found rfl
        exact listed listed'
      have missing : s.inflight.get? id = none := by
        refine Option.eq_none_iff_forall_ne_some.mpr fun n listed' => ?_
        rw [← inv.inflight_recorder listed' found] at listed'
        exact listed listed'
      refine stage.frame (by rw [perform_tasks, if_neg other]) (by simp [Gateway.perform, missing])
        ?_ (by simp [finals_perform]) ?_ ?_
      · simp [Gateway.perform, FiniteMap.mem_values, absent]
      · rw [waiting_after rfl, waiting_iff running]
        simp [Job.waiting, FiniteMap.mem_toList, absent]
      · rw [sending_after rfl, sending_iff running]
        simp

end Moves

/-! ## Steps -/

/-- A new task that is no shutdown with a list. -/
theorem Staged.spawn (inv : Staged digest s) (admission : Admission digest s')
    (elsewhere : ∀ u, u ≠ s.spawned → s'.tasks.get? u = s.tasks.get? u)
    (empty : ∀ job, s'.tasks.get? s.spawned = some job → job.entries = [])
    (receipts : s'.receipts = s.receipts) (inflight : s'.inflight = s.inflight)
    (drained : s'.drained = s.drained) (delivered : s'.delivered = s.delivered) :
    Staged digest s' := by
  have fresh : s.tasks.get? s.spawned = none := (inv.admission.fresh s.spawned le_rfl).1
  have older : ∀ {u job}, s.tasks.get? u = some job → s'.tasks.get? u = some job := by
    intro u job runs
    rw [elsewhere u (by rintro rfl; simp [fresh] at runs), runs]
  have old : ∀ {u job}, s'.tasks.get? u = some job → job.entries ≠ [] →
      s.tasks.get? u = some job := by
    intro u job runs entries
    rw [← elsewhere u (by rintro rfl; exact entries (empty job runs)), runs]
  refine ⟨admission, ⟨fun u job runs => ?_, fun u v job₁ job₂ e e' runs runs' member member' => ?_,
    fun u job e runs member => ?_⟩, ?_, ?_, ?_⟩
  · by_cases none : job.entries = []
    · simp [none]
    · exact inv.lists.nodup u job (old runs none)
  · exact inv.lists.apart u v job₁ job₂ e e' (old runs (List.ne_nil_of_mem member))
      (old runs' (List.ne_nil_of_mem member')) member member'
  · rw [drained, receipts]
    exact inv.lists.taken u job e (old runs (List.ne_nil_of_mem member)) member
  · rw [drained, delivered, receipts]
    exact inv.known
  · rw [inflight, drained, receipts]
    intro id n listed
    obtain ⟨live, job, receipt, runs, rest⟩ := inv.listed id n listed
    exact ⟨live, job, receipt, older runs, rest⟩
  · rw [receipts]
    intro id receipt found
    have other : receipt.recorder ≠ s.spawned := by
      intro new
      obtain ⟨req, submitted, -⟩ := inv.admission.receipts id receipt found
      simp [new, (inv.admission.fresh s.spawned le_rfl).2] at submitted
    refine (inv.stage id receipt found).frame (elsewhere _ other) (by rw [inflight])
      (by rw [drained]) (by simp [finals, delivered]) ⟨?_, ?_⟩ ⟨?_, ?_⟩
    · rintro ⟨u, job, runs, member⟩
      obtain ⟨e, entry, -⟩ := entries_of_waiting member
      exact ⟨u, job, old runs (List.ne_nil_of_mem entry), member⟩
    · rintro ⟨u, job, runs, member⟩
      exact ⟨u, job, older runs, member⟩
    · rintro ⟨u, k, rest, runs⟩
      exact ⟨u, k, rest, old runs (by simp [Job.entries])⟩
    · rintro ⟨u, k, rest, runs⟩
      exact ⟨u, k, rest, older runs⟩

theorem Staged.perform {task : Nat} {job : Job} {answer : Answer} {m : Move}
    (inv : Staged digest s) (orderly : s.Orderly (.answer task answer))
    (running : s.tasks.get? task = some job) (move : job.move digest s task answer = some m) :
    Staged digest (s.perform task m) := by
  cases owned : job.owned? with
  | some id =>
    obtain ⟨receipt, found, recorder⟩ := inv.admission.owns task job id running owned
    exact inv.own running owned move found recorder
      (inv.own_stage orderly running owned move found recorder)
  | none =>
    cases job with
    | record req =>
      cases inserts : m.inserts with
      | none => exact inv.unrecorded running rfl rfl (by simp) move inserts
      | some entry => exact inv.record running move inserts
    | lookUp req =>
      refine inv.unrecorded running rfl rfl (by simp) move ?_
      simp only [Job.move] at move
      split at move <;> cases move <;> rfl
    | drain =>
      simp only [Orderly, running] at orderly
      simp only [Job.move] at move
      split at move <;> cases move
      exact inv.drain running orderly
    | closing pending =>
      simp only [Job.move] at move
      split at move <;> (try split at move) <;> cases move
      · next member => exact inv.pick running member
      · next none => exact inv.finish (none ▸ running)
    | closeUpdate id caller rest =>
      simp only [Orderly, running] at orderly
      simp only [Job.move] at move
      split at move <;> cases move
      · exact inv.closeUpdate running
      · exact orderly.elim
    | closeSend id caller rest =>
      simp only [Job.move] at move
      split at move <;> cases move
      exact inv.closeSend running
    | _ => simp [Job.owned?] at owned

/-- Every orderly step keeps the stages. -/
theorem Staged.step (inv : Staged digest s) (orderly : s.Orderly i) :
    Staged digest (s.step digest i) := by
  have admission := inv.admission.step i
  have fresh : s.tasks.get? s.spawned = none := (inv.admission.fresh s.spawned le_rfl).1
  have inserted : ∀ {job : Job} (u : Nat), u ≠ s.spawned →
      (s.tasks.insert s.spawned job).get? u = s.tasks.get? u := by
    intro job u other
    rw [FiniteMap.get?_insert, if_neg other]
  cases i with
  | submit req caps =>
    simp only [Gateway.step] at admission ⊢
    split at admission
    · exact inv.spawn admission (fun _ _ => rfl) (by simp [fresh]) rfl rfl rfl rfl
    · refine inv.spawn admission inserted ?_ rfl rfl rfl rfl
      simp [Job.entries]
  | answer task answer =>
    simp only [Gateway.step]
    split
    · exact inv
    · next job running =>
      split
      · exact inv
      · next m move => exact inv.perform orderly running move
  | shutdown =>
    refine inv.spawn admission inserted ?_ rfl rfl rfl rfl
    simp [Gateway.step, Job.entries]
  | restart => exact orderly.elim

/-! ## Runs -/

/-- A shutdown that still has to store the status of a command finds it unfinished. -/
theorem Stage.pending_of_waiting {n : Nat} {id : RequestId} {status : StoredReceiptState}
    (stage : Stage s n id status) (taken : n ∈ s.drained) (waits : s.Waiting n) :
    status.isTerminal = false := by
  cases stage with
  | recorded req runs live => exact absurd taken live
  | active job runs works listed live => exact absurd taken live
  | stored state returns runs final listed live => exact absurd taken live
  | told state final rests live => exact absurd taken live
  | draining works taken waits quiet silent pending => exact pending
  | closing works taken idle => exact absurd waits idle
  | closed works taken idle => exact absurd waits idle

/-- Only two jobs write a status. -/
theorem status_of_move {task : Nat} {job : Job} {answer : Answer} {m : Move} {id : RequestId}
    {status : StoredReceiptState} (move : job.move digest s task answer = some m)
    (writes : m.status = some (id, status)) :
    (∃ state returns, job = .update id state returns ∧ answer = .stored) ∨
      ∃ caller rest, job = .closeUpdate id caller rest := by
  cases moves_of_move move <;> simp_all

/-- A status that a step writes was not terminal before. -/
theorem Staged.pending_of_status {task : Nat} {job : Job} {answer : Answer} {m : Move}
    {id : RequestId} {status : StoredReceiptState} {receipt : Receipt} (inv : Staged digest s)
    (orderly : s.Orderly (.answer task answer)) (running : s.tasks.get? task = some job)
    (move : job.move digest s task answer = some m) (writes : m.status = some (id, status))
    (found : s.receipts.get? id = some receipt) : receipt.status.isTerminal = false := by
  have stage := inv.stage id receipt found
  obtain ⟨state, returns, rfl, rfl⟩ | ⟨caller, rest, rfl⟩ := status_of_move move writes
  · obtain ⟨receipt', found', recorder⟩ := inv.admission.owns task _ id running rfl
    obtain rfl : receipt' = receipt := by simpa [found] using found'.symm
    rw [recorder] at stage
    simp only [Orderly, running] at orderly
    exact (stage.active_of_update running orderly).2.2
  · obtain ⟨taken, receipt', found', recorder⟩ :=
      inv.lists.taken task _ (id, caller) running (by simp [Job.entries])
    obtain rfl : receipt' = receipt := by simpa [found] using found'.symm
    rw [recorder] at stage
    exact stage.pending_of_waiting taken ⟨task, _, running, by simp [Job.waiting]⟩

theorem Staged.statusStays (inv : Staged digest s) (orderly : s.Orderly i) :
    StatusStays digest s i := by
  intro id receipt found final
  cases i with
  | submit req caps =>
    refine ⟨receipt, ?_, rfl⟩
    simp only [Gateway.step]
    split <;> exact found
  | answer task answer =>
    simp only [Gateway.step]
    split
    · exact ⟨receipt, found, rfl⟩
    · next job running =>
      split
      · exact ⟨receipt, found, rfl⟩
      · next m move =>
        obtain ⟨later, found', -, -⟩ := receipt_kept move found
        refine ⟨later, found', ?_⟩
        have unwritten : ∀ status, m.status ≠ some (id, status) := by
          intro status writes
          simp [inv.pending_of_status orderly running move writes found] at final
        exact status_unchanged move unwritten found found'
  | shutdown => exact ⟨receipt, found, rfl⟩
  | restart => exact orderly.elim

theorem staged_init : Staged digest {} where
  admission := admission_init
  lists := ⟨by simp, by simp, by simp⟩
  known := by simp
  listed := by simp
  stage := by simp

/-- In every orderly run of the gateway, every admitted request has at most one terminal
receipt and one when nothing is left to do for it, the stored status is the delivered
one, and no step changes a terminal status. -/
theorem gateway_commands_end_once (inputs : List Input)
    (orderly : Along (Gateway.step digest) Orderly {} inputs) :
    EndsOnce (run digest inputs) ∧
      Along (Gateway.step digest) (StatusStays digest) {} inputs := by
  have preserved : ∀ s i, Staged digest s → s.Orderly i → Staged digest (s.step digest i) :=
    fun s i inv orderly => inv.step orderly
  have inv : Staged digest (run digest inputs) := Along.reached preserved staged_init orderly
  constructor
  · intro id receipt found
    exact (inv.stage id receipt found).endsOnce
  · exact Along.of_invariant preserved (fun s i inv orderly => inv.statusStays orderly)
      staged_init orderly

/-! ## A shutdown and its commands -/

instance decidableOrderly (s : Gateway) (i : Input) : Decidable (s.Orderly i) := by
  unfold Orderly
  split
  · infer_instance
  · split <;> infer_instance
  · infer_instance

/-- The command is forwarded when a shutdown takes it and finishes it. -/
def shutDown : List Input :=
  [.submit sampleRequest ⟨[.startTurn], false⟩, .answer 0 .stored, .answer 0 .continued,
    .answer 0 .continued, .answer 0 .receipts, .shutdown, .answer 1 .continued,
    .answer 1 (.picked 7 0), .answer 1 .stored, .answer 1 .continued, .answer 1 .ended]

theorem gateway_commands_end_once_shutDown :
    Along (Gateway.step fun _ => "digest") Orderly {} shutDown ∧
      EndsOnce (run (fun _ => "digest") shutDown) := by
  have orderly : Along (Gateway.step fun _ => "digest") Orderly {} shutDown := by decide +kernel
  exact ⟨orderly, (gateway_commands_end_once shutDown orderly).1⟩

/-- Then the executor reports the end of the turn to the forwarding task. -/
def completedAfterShutDown : List Input :=
  shutDown ++ [.answer 0 (.receipt .completed), .answer 0 .stored, .answer 0 .continued]

/-- The caller gets two terminal receipts, and the stored status changes from the one to
the other. -/
theorem completed_after_shutDown :
    ¬ EndsOnce (run (fun _ => "digest") completedAfterShutDown) ∧
      ¬ Along (Gateway.step fun _ => "digest") (StatusStays fun _ => "digest") {}
        completedAfterShutDown := by
  constructor
  · intro once
    have found : (run (fun _ => "digest") completedAfterShutDown).receipts.get? 7 =
        some ⟨"session-1", .startTurn, .completed, "digest", 0⟩ := by decide +kernel
    have finals : (run (fun _ => "digest") completedAfterShutDown).finals 0 =
        [.outcomeUnknown, .completed] := by decide +kernel
    have single := (once 7 _ found).1
    rw [finals] at single
    simp at single
  · intro along
    have stays : StatusStays (fun _ => "digest")
        (run (fun _ => "digest") (shutDown ++ [.answer 0 (.receipt .completed)]))
        (.answer 0 .stored) := by
      have whole : completedAfterShutDown =
          (shutDown ++ [.answer 0 (.receipt .completed)]) ++ .answer 0 .stored :: [.answer 0 .continued] :=
        rfl
      exact (whole ▸ along).at_step
    obtain ⟨later, found, same⟩ := stays 7 ⟨"session-1", .startTurn, .outcomeUnknown, "digest", 0⟩
      (by decide +kernel) rfl
    have completed : (Gateway.step (fun _ => "digest")
        (run (fun _ => "digest") (shutDown ++ [.answer 0 (.receipt .completed)]))
        (.answer 0 .stored)).receipts.get? 7 =
          some ⟨"session-1", .startTurn, .completed, "digest", 0⟩ := by decide +kernel
    rw [completed] at found
    cases found
    cases same

end AgentConsole.Bridge.Gateway
