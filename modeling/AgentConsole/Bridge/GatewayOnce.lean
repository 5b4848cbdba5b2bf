import AgentConsole.Bridge.Gateway

/-! # A request is executed at most once

The receipt of a request is inserted by one submission, its recorder, and stays.  Only
the recorder gets past `record_receipt`, so only it can reach the executor or the
queue, and it does so once.  All other submissions of the request end at the store:
with the stored state if the digest is the same, with an error if it is not. -/

namespace AgentConsole.Bridge.Gateway

open AgentConsole.Lib

variable {digest : CommandPayload → String} {s s' : Gateway} {i : Input}

/-! ## Moves -/

/-- The request of a submission that has not been executed yet. -/
def Job.early? : Job → Option CommandRequest
  | .record req | .lookUp req | .register req | .snapshot req | .dispatch req _ => some req
  | _ => none

/-- The request whose receipt the task has recorded. -/
def Job.owned? : Job → Option RequestId
  | .register req | .snapshot req | .dispatch req _ | .executing req => some req.requestId
  | .forward id | .update id _ _ | .send id _ _ | .remove id _ => some id
  | _ => none

/-- A request that a task still carries was submitted under its number. -/
def Job.request? : Job → Option CommandRequest
  | .executing req => some req
  | job => job.early?

@[simp] theorem perform_tasks (s : Gateway) (task : Nat) (m : Move) (u : Nat) :
    (s.perform task m).tasks.get? u = if u = task then m.next else s.tasks.get? u := by
  simp only [perform]
  cases m.next with
  | none => rw [FiniteMap.get?_erase]
  | some job => rw [FiniteMap.get?_insert]

@[simp] theorem perform_submitted (s : Gateway) (task : Nat) (m : Move) :
    (s.perform task m).submitted = s.submitted := rfl

@[simp] theorem perform_spawned (s : Gateway) (task : Nat) (m : Move) :
    (s.perform task m).spawned = s.spawned := rfl

theorem perform_executed (s : Gateway) (task : Nat) (m : Move) :
    (s.perform task m).executed = s.executed ++ (m.executes.map fun id => (task, id)).toList := rfl

theorem get?_setStatus (receipts : FiniteMap RequestId Receipt) (id k : RequestId)
    (status : StoredReceiptState) :
    (setStatus receipts id status).get? k =
      if k = id then (receipts.get? k).map fun receipt => { receipt with status }
      else receipts.get? k := by
  unfold setStatus
  rw [FiniteMap.get?_modify]
  by_cases same : k = id <;> simp [same]

/-- What `Job.move` can be: a rule for each of its branches. -/
inductive Job.Moves (digest : CommandPayload → String) (s : Gateway) (task : Nat) :
    Job → Answer → Move → Prop where
  | mismatch {req : CommandRequest} {receipt : Receipt}
      (found : s.receipts.get? req.requestId = some receipt)
      (differs : receipt.digest ≠ digest req.payload) (error : BridgeError) :
      Moves digest s task (.record req) .stored { answers := some (.failed error) }
  | repeated {req : CommandRequest} {receipt : Receipt}
      (found : s.receipts.get? req.requestId = some receipt)
      (same : receipt.digest = digest req.payload) :
      Moves digest s task (.record req) .stored { next := some (.lookUp req) }
  | recorded {req : CommandRequest} (missing : s.receipts.get? req.requestId = none) :
      Moves digest s task (.record req) .stored
        { next := some (.register req)
          inserts := some (req.requestId,
            ⟨req.session, req.operation, .acceptedByBridge, digest req.payload, task⟩) }
  | recordFailed (req : CommandRequest) (message : String) :
      Moves digest s task (.record req) (.storeFailed message)
        { answers := some (.failed ⟨.internalError, message⟩) }
  | lookedUp (req : CommandRequest) :
      Moves digest s task (.lookUp req) .stored
        { answers := some (.replayed
          (((s.receipts.get? req.requestId).map (·.status)).getD .acceptedByBridge)) }
  | lookUpFailed (req : CommandRequest) (message : String) :
      Moves digest s task (.lookUp req) (.storeFailed message)
        { answers := some (.replayed .acceptedByBridge) }
  | registered {req : CommandRequest} (needs : needsSnapshot req = true) :
      Moves digest s task (.register req) .continued
        { next := some (.snapshot req), registers := some req.requestId }
  | registeredOnly {req : CommandRequest} (needs : ¬ needsSnapshot req = true) :
      Moves digest s task (.register req) .continued
        { next := some (.dispatch req none), registers := some req.requestId }
  | unavailable (req : CommandRequest) (error : BridgeError) :
      Moves digest s task (.snapshot req) (.unavailable error)
        { next := some (.update req.requestId (.rejected error.code error.message) true) }
  | outdated {req : CommandRequest} {seen : RuntimeSnapshot} {error : BridgeError}
      (outdated : stale req seen = some error) :
      Moves digest s task (.snapshot req) (.snapshot seen)
        { next := some (.update req.requestId (.rejected error.code error.message) true) }
  | validated {req : CommandRequest} {seen : RuntimeSnapshot} (current : stale req seen = none) :
      Moves digest s task (.snapshot req) (.snapshot seen)
        { next := some (.dispatch req (some seen)) }
  | dispatched (req : CommandRequest) (validated : Option RuntimeSnapshot) :
      Moves digest s task (.dispatch req validated) .continued
        { next := some (.executing req), executes := some req.requestId }
  | finished {req : CommandRequest} (result : Option BridgeError) (state : ReceiptState)
      (here : isLocal req.payload = true) :
      Moves digest s task (.executing req) (.finished result)
        { next := some (.update req.requestId state true) }
  | handedOver {req : CommandRequest} (elsewhere : isLocal req.payload = false) :
      Moves digest s task (.executing req) .receipts
        { next := some (.forward req.requestId), answers := some .accepted }
  | refused {req : CommandRequest} (error : BridgeError) (elsewhere : isLocal req.payload = false) :
      Moves digest s task (.executing req) (.refused error)
        { next := some (.update req.requestId (refusal error) true) }
  | forwarded (id : RequestId) (state : ReceiptState) :
      Moves digest s task (.forward id) (.receipt state) { next := some (.update id state false) }
  | ended (id : RequestId) :
      Moves digest s task (.forward id) .ended { next := some (.update id .outcomeUnknown false) }
  | updated (id : RequestId) (state : ReceiptState) (returns : Bool) :
      Moves digest s task (.update id state returns) .stored
        { next := some (.send id state returns), status := some (id, state.status) }
  | updateFailed (id : RequestId) (state : ReceiptState) (returns : Bool) (message : String) :
      Moves digest s task (.update id state returns) (.storeFailed message)
        { next := some (.send id state returns) }
  | sent (id : RequestId) {state : ReceiptState} (returns : Bool) (final : state.isTerminal = true) :
      Moves digest s task (.send id state returns) .continued
        { next := some (.remove id returns), delivers := some (task, state) }
  | sentOn (id : RequestId) {state : ReceiptState} (returns : Bool)
      (final : ¬ state.isTerminal = true) :
      Moves digest s task (.send id state returns) .continued
        { next := some (.forward id), delivers := some (task, state) }
  | removed (id : RequestId) (returns : Bool) :
      Moves digest s task (.remove id returns) .continued
        { removes := some id, answers := if returns then some .accepted else none }
  | drained :
      Moves digest s task .drain .continued
        { next := some (.closing s.inflight.toList), drains := true }
  | picked {pending : List (RequestId × Nat)} {id : RequestId} {caller : Nat}
      (member : (id, caller) ∈ pending) :
      Moves digest s task (.closing pending) (.picked id caller)
        { next := some (.closeUpdate id caller (pending.erase (id, caller))) }
  | closed : Moves digest s task (.closing []) .ended {}
  | closeUpdated (id : RequestId) (caller : Nat) (rest : List (RequestId × Nat)) :
      Moves digest s task (.closeUpdate id caller rest) .stored
        { next := some (.closeSend id caller rest), status := some (id, .outcomeUnknown) }
  | closeUpdateFailed (id : RequestId) (caller : Nat) (rest : List (RequestId × Nat))
      (message : String) :
      Moves digest s task (.closeUpdate id caller rest) (.storeFailed message)
        { next := some (.closeSend id caller rest) }
  | closeSent (id : RequestId) (caller : Nat) (rest : List (RequestId × Nat)) :
      Moves digest s task (.closeSend id caller rest) .continued
        { next := some (.closing rest), delivers := some (caller, .outcomeUnknown) }

section Moves

variable {task : Nat} {job next : Job} {answer : Answer} {m : Move}

theorem moves_of_move (move : job.move digest s task answer = some m) :
    job.Moves digest s task answer m := by
  cases job with
  | record req =>
    simp only [Job.move] at move
    split at move
    · split at move
      · next receipt found =>
        split at move
        · next differs => cases move; exact .mismatch found differs _
        · next same => cases move; exact .repeated found (not_not.mp same)
      · next missing => cases move; exact .recorded missing
    · cases move; exact .recordFailed req _
    · cases move
  | lookUp req =>
    simp only [Job.move] at move
    split at move <;> cases move
    · exact .lookedUp req
    · exact .lookUpFailed req _
  | register req =>
    simp only [Job.move] at move
    split at move <;> cases move
    split
    · next needs => exact .registered needs
    · next needs => exact .registeredOnly needs
  | snapshot req =>
    simp only [Job.move] at move
    split at move
    · cases move; exact .unavailable req _
    · split at move <;> cases move
      · next error outdated => exact .outdated outdated
      · next current => exact .validated current
    · cases move
  | dispatch req validated =>
    simp only [Job.move] at move
    split at move <;> cases move
    exact .dispatched req validated
  | executing req =>
    simp only [Job.move] at move
    split at move
    · split at move <;> cases move
      next here => exact .finished _ _ here
    · split at move <;> cases move
      next elsewhere => exact .handedOver (Bool.not_eq_true _ ▸ elsewhere)
    · split at move <;> cases move
      next elsewhere => exact .refused _ (Bool.not_eq_true _ ▸ elsewhere)
    · cases move
  | forward id =>
    simp only [Job.move] at move
    split at move <;> cases move
    · exact .forwarded id _
    · exact .ended id
  | update id state returns =>
    simp only [Job.move] at move
    split at move <;> cases move
    · exact .updated id state returns
    · exact .updateFailed id state returns _
  | send id state returns =>
    simp only [Job.move] at move
    split at move <;> cases move
    split
    · next final => exact .sent id returns final
    · next final => exact .sentOn id returns final
  | remove id returns =>
    simp only [Job.move] at move
    split at move <;> cases move
    exact .removed id returns
  | drain =>
    simp only [Job.move] at move
    split at move <;> cases move
    exact .drained
  | closing pending =>
    simp only [Job.move] at move
    split at move
    · split at move <;> cases move
      next member => exact .picked member
    · split at move <;> cases move
      next none => subst none; exact .closed
    · cases move
  | closeUpdate id caller rest =>
    simp only [Job.move] at move
    split at move <;> cases move
    · exact .closeUpdated id caller rest
    · exact .closeUpdateFailed id caller rest _
  | closeSend id caller rest =>
    simp only [Job.move] at move
    split at move <;> cases move
    exact .closeSent id caller rest

/-- Only a new request is inserted, and its submission is the recorder. -/
theorem inserts_of_move {id : RequestId} {receipt : Receipt}
    (move : job.move digest s task answer = some m) (inserts : m.inserts = some (id, receipt)) :
    ∃ req, job = .record req ∧ id = req.requestId ∧ s.receipts.get? id = none ∧
      receipt.recorder = task ∧ receipt.digest = digest req.payload := by
  cases moves_of_move move <;> simp at inserts
  obtain ⟨rfl, rfl⟩ := inserts
  exact ⟨_, rfl, rfl, ‹_›, rfl, rfl⟩

/-- Only a dispatch executes. -/
theorem executes_of_move {id : RequestId} (move : job.move digest s task answer = some m)
    (executes : m.executes = some id) :
    ∃ req validated, job = .dispatch req validated ∧ id = req.requestId ∧
      m.next = some (.executing req) := by
  cases moves_of_move move <;> simp at executes
  exact ⟨_, _, rfl, executes.symm, rfl⟩

theorem early_of_move {req : CommandRequest} (move : job.move digest s task answer = some m)
    (goes : m.next = some next) (early : next.early? = some req) : job.early? = some req := by
  cases moves_of_move move <;> simp at goes <;> subst goes <;>
    simp [Job.early?] at early ⊢ <;> exact early

theorem request_of_move {req : CommandRequest} (move : job.move digest s task answer = some m)
    (goes : m.next = some next) (carries : next.request? = some req) :
    job.request? = some req := by
  cases moves_of_move move <;> simp at goes <;> subst goes <;>
    simp [Job.request?, Job.early?] at carries ⊢ <;> exact carries

/-- A task owns what it owned before, or the request it has just recorded. -/
theorem owned_of_move {id : RequestId} (move : job.move digest s task answer = some m)
    (goes : m.next = some next) (owned : next.owned? = some id) :
    job.owned? = some id ∨
      ∃ receipt, m.inserts = some (id, receipt) ∧ receipt.recorder = task ∧ m.status = none := by
  cases moves_of_move move <;> simp at goes <;> subst goes <;>
    simp [Job.owned?] at owned ⊢ <;> exact owned

/-- A move that inserts changes no status. -/
theorem status_of_inserts {id : RequestId} {receipt : Receipt}
    (move : job.move digest s task answer = some m) (inserts : m.inserts = some (id, receipt)) :
    m.status = none := by
  cases moves_of_move move <;> simp at inserts ⊢

/-- A receipt stays: its digest and its recorder never change. -/
theorem receipt_kept (move : job.move digest s task answer = some m) {id : RequestId}
    {receipt : Receipt} (found : s.receipts.get? id = some receipt) :
    ∃ later, (s.perform task m).receipts.get? id = some later ∧
      later.digest = receipt.digest ∧ later.recorder = receipt.recorder := by
  cases inserts : m.inserts with
  | some inserted =>
    obtain ⟨req, -, same, missing, -⟩ := inserts_of_move move inserts
    have other : id ≠ inserted.1 := by
      rintro rfl
      simp [missing] at found
    refine ⟨receipt, ?_, rfl, rfl⟩
    simp only [perform, inserts, status_of_inserts move inserts]
    rw [FiniteMap.get?_insert, if_neg other, found]
  | none =>
    cases status : m.status with
    | none => exact ⟨receipt, by simp [perform, inserts, status, found], rfl, rfl⟩
    | some change =>
      simp only [perform, inserts, status, get?_setStatus]
      by_cases same : id = change.1
      · exact ⟨{ receipt with status := change.2 }, by rw [if_pos same, found]; rfl, rfl, rfl⟩
      · exact ⟨receipt, by rw [if_neg same, found], rfl, rfl⟩

/-- Where a receipt comes from. -/
theorem receipt_from (move : job.move digest s task answer = some m) {id : RequestId}
    {later : Receipt} (found : (s.perform task m).receipts.get? id = some later) :
    (∃ receipt, s.receipts.get? id = some receipt ∧ later.digest = receipt.digest ∧
      later.recorder = receipt.recorder) ∨
    ∃ req, job = .record req ∧ id = req.requestId ∧ later.recorder = task ∧
      later.digest = digest req.payload := by
  cases before : s.receipts.get? id with
  | some receipt =>
    obtain ⟨later', found', same⟩ := receipt_kept move before
    obtain rfl : later' = later := by simpa [found'] using found
    exact Or.inl ⟨receipt, rfl, same⟩
  | none =>
    right
    cases inserts : m.inserts with
    | none =>
      cases status : m.status with
      | none => simp [perform, inserts, status, before] at found
      | some change => simp [perform, inserts, status, get?_setStatus, before] at found
    | some inserted =>
      obtain ⟨req, rfl, same, -, recorder, digests⟩ := inserts_of_move move inserts
      simp only [perform, inserts, status_of_inserts move inserts] at found
      rw [FiniteMap.get?_insert] at found
      by_cases new : id = inserted.1
      · rw [if_pos new] at found
        obtain rfl : inserted.2 = later := by simpa using found
        exact ⟨req, rfl, new.trans same, recorder, digests⟩
      · rw [if_neg new, before] at found
        cases found

end Moves

/-! ## The invariant -/

/-- Only the recorder of a receipt works on its request, and a submission that was
executed is past its dispatch. -/
structure Admission (digest : CommandPayload → String) (s : Gateway) : Prop where
  fresh : ∀ u, s.spawned ≤ u → s.tasks.get? u = none ∧ s.submitted.get? u = none
  carries : ∀ u job req, s.tasks.get? u = some job → job.request? = some req →
    s.submitted.get? u = some req
  owns : ∀ u job id, s.tasks.get? u = some job → job.owned? = some id →
    ∃ receipt, s.receipts.get? id = some receipt ∧ receipt.recorder = u
  receipts : ∀ id receipt, s.receipts.get? id = some receipt →
    ∃ req, s.submitted.get? receipt.recorder = some req ∧ req.requestId = id ∧
      receipt.digest = digest req.payload
  executed : ∀ u id, (u, id) ∈ s.executed →
    (∃ receipt, s.receipts.get? id = some receipt ∧ receipt.recorder = u) ∧
      ∀ job, s.tasks.get? u = some job → job.early? = none
  once : s.executed.Nodup

theorem admission_init : Admission digest {} where
  fresh := fun _ _ => ⟨rfl, rfl⟩
  carries := by simp
  owns := by simp
  receipts := by simp
  executed := by simp
  once := List.nodup_nil

theorem Admission.perform {task : Nat} {job : Job} {answer : Answer} {m : Move}
    (inv : Admission digest s) (running : s.tasks.get? task = some job)
    (move : job.move digest s task answer = some m) : Admission digest (s.perform task m) := by
  have known : task < s.spawned := by
    by_contra above
    simp [(inv.fresh task (by omega)).1] at running
  refine ⟨?_, ?_, ?_, ?_, ?_, ?_⟩
  · intro u above
    have other : u ≠ task := by simp at above; omega
    simpa [other] using inv.fresh u above
  · intro u job' req running' carries
    rw [perform_tasks] at running'
    split at running'
    · next same => exact same ▸ inv.carries task job req running (request_of_move move running' carries)
    · exact inv.carries u job' req running' carries
  · intro u job' id running' owned
    rw [perform_tasks] at running'
    split at running'
    · next same =>
      subst same
      rcases owned_of_move move running' owned with before | ⟨receipt, inserts, recorder, status⟩
      · obtain ⟨receipt, found, recorder⟩ := inv.owns u job id running before
        obtain ⟨later, found', -, same⟩ := receipt_kept move found
        exact ⟨later, found', same.trans recorder⟩
      · exact ⟨receipt, by simp [Gateway.perform, inserts, status], recorder⟩
    · obtain ⟨receipt, found, recorder⟩ := inv.owns u job' id running' owned
      obtain ⟨later, found', -, same⟩ := receipt_kept move found
      exact ⟨later, found', same.trans recorder⟩
  · intro id later found
    rcases receipt_from move found with ⟨receipt, before, digests, recorder⟩ | new
    · rw [recorder, digests]
      exact inv.receipts id receipt before
    · obtain ⟨req, rfl, rfl, recorder, digests⟩ := new
      rw [recorder, digests]
      exact ⟨req, inv.carries task _ req running rfl, rfl, rfl⟩
  · intro u id member
    rw [perform_executed, List.mem_append] at member
    rcases member with before | now
    · obtain ⟨⟨receipt, found, recorder⟩, late⟩ := inv.executed u id before
      obtain ⟨later, found', -, same⟩ := receipt_kept move found
      refine ⟨⟨later, found', same.trans recorder⟩, fun job' running' => ?_⟩
      rw [perform_tasks] at running'
      split at running'
      · next same =>
        subst same
        -- an early job would come from an early job
        cases early : job'.early? with
        | none => rfl
        | some req =>
          have before := early_of_move move running' early
          simp [late job running] at before
      · exact late job' running'
    · simp only [Option.mem_toList, Option.map_eq_some_iff, Prod.mk.injEq] at now
      obtain ⟨_, executes, rfl, rfl⟩ := now
      obtain ⟨req, validated, rfl, rfl, goes⟩ := executes_of_move move executes
      obtain ⟨receipt, found, recorder⟩ := inv.owns task _ req.requestId running rfl
      obtain ⟨later, found', -, same⟩ := receipt_kept move found
      refine ⟨⟨later, found', same.trans recorder⟩, fun job' running' => ?_⟩
      rw [perform_tasks, if_pos rfl, goes] at running'
      cases running'
      rfl
  · rw [perform_executed]
    refine List.nodup_append.mpr ⟨inv.once, ?_, ?_⟩
    · cases m.executes <;> simp
    · rintro e before e' now rfl
      simp only [Option.mem_toList, Option.map_eq_some_iff] at now
      obtain ⟨id, executes, rfl⟩ := now
      -- a task that dispatches has not executed yet
      obtain ⟨req, validated, rfl, -, -⟩ := executes_of_move move executes
      have late := (inv.executed task id before).2 _ running
      simp [Job.early?] at late

/-- Every step keeps the invariant. -/
theorem Admission.step (inv : Admission digest s) (i : Input) : Admission digest (s.step digest i) := by
  have unsubmitted := inv.fresh s.spawned le_rfl
  cases i with
  | submit req caps =>
    have submitted : ∀ u, ((s.submitted.insert s.spawned req).get? u) =
        if u = s.spawned then some req else s.submitted.get? u :=
      fun u => FiniteMap.get?_insert _ _ _ _
    have older : ∀ u {r}, s.submitted.get? u = some r →
        (s.submitted.insert s.spawned req).get? u = some r := by
      intro u r found
      rw [submitted, if_neg (by rintro rfl; simp [unsubmitted.2] at found), found]
    have receipts : ∀ id receipt, s.receipts.get? id = some receipt →
        ∃ req', (s.submitted.insert s.spawned req).get? receipt.recorder = some req' ∧
          req'.requestId = id ∧ receipt.digest = digest req'.payload := by
      intro id receipt found
      obtain ⟨req', known, same⟩ := inv.receipts id receipt found
      exact ⟨req', older _ known, same⟩
    have above : ∀ u, s.spawned + 1 ≤ u → s.tasks.get? u = none ∧
        (s.submitted.insert s.spawned req).get? u = none := by
      intro u above
      rw [submitted, if_neg (by omega)]
      exact inv.fresh u (by omega)
    simp only [Gateway.step]
    split
    · exact ⟨above, fun u job r running carries => older u (inv.carries u job r running carries),
        inv.owns, receipts, inv.executed, inv.once⟩
    · refine ⟨fun u later => ?_, ?_, ?_, receipts, ?_, inv.once⟩
      · replace later : s.spawned + 1 ≤ u := later
        rw [FiniteMap.get?_insert, if_neg (by omega)]
        exact above u later
      · intro u job r running carries
        rw [FiniteMap.get?_insert] at running
        split at running
        · next same =>
          cases running
          cases carries
          simp [same]
        · exact older u (inv.carries u job r running carries)
      · intro u job id running owned
        rw [FiniteMap.get?_insert] at running
        split at running
        · cases running
          cases owned
        · exact inv.owns u job id running owned
      · intro u id member
        obtain ⟨recorded, late⟩ := inv.executed u id member
        refine ⟨recorded, fun job running => ?_⟩
        -- the new submission has no receipt, so it is not the executed one
        have old : u ≠ s.spawned := by
          rintro rfl
          obtain ⟨receipt, found, recorder⟩ := recorded
          obtain ⟨req', known, -⟩ := inv.receipts id receipt found
          simp [recorder, unsubmitted.2] at known
        rw [FiniteMap.get?_insert, if_neg old] at running
        exact late job running
  | answer task answer =>
    simp only [Gateway.step]
    split
    · exact inv
    · next job running =>
      split
      · exact inv
      · next m move => exact inv.perform running move
  | shutdown =>
    simp only [Gateway.step]
    refine ⟨fun u above => ?_, ?_, ?_, inv.receipts, ?_, inv.once⟩
    · rw [FiniteMap.get?_insert, if_neg (by simp at above; omega)]
      exact inv.fresh u (by simp at above; omega)
    · intro u job req running carries
      rw [FiniteMap.get?_insert] at running
      split at running
      · cases running; cases carries
      · exact inv.carries u job req running carries
    · intro u job id running owned
      rw [FiniteMap.get?_insert] at running
      split at running
      · cases running; cases owned
      · exact inv.owns u job id running owned
    · intro u id member
      obtain ⟨recorded, late⟩ := inv.executed u id member
      refine ⟨recorded, fun job running => ?_⟩
      rw [FiniteMap.get?_insert] at running
      split at running
      · cases running; rfl
      · exact late job running
  | restart =>
    exact ⟨fun u above => ⟨rfl, (inv.fresh u above).2⟩, by simp [Gateway.step],
      by simp [Gateway.step], inv.receipts,
      fun u id member => ⟨(inv.executed u id member).1, by simp [Gateway.step]⟩, inv.once⟩

/-! ## Answers to repetitions -/

/-- The submission `n` repeats a request that another submission has recorded, with the
same payload. -/
def Repeats (digest : CommandPayload → String) (s : Gateway) (n : Nat) (receipt : Receipt) : Prop :=
  ∃ req, s.submitted.get? n = some req ∧ s.receipts.get? req.requestId = some receipt ∧
    receipt.recorder ≠ n ∧ receipt.digest = digest req.payload

/-- A repetition that has passed the gates and is answered in this step, not by a failure
of the store, is answered with the stored state. -/
def AnswersFromStore (digest : CommandPayload → String) (s : Gateway) (i : Input) : Prop :=
  ∀ n receipt answer, Repeats digest s n receipt → s.answers.get? n = none →
    (s.step digest i).answers.get? n = some answer →
    (∀ message, i ≠ .answer n (.storeFailed message)) → answer = .replayed receipt.status

/-- A submission that repeats a recorded request is answered while it waits for the store. -/
theorem Admission.waits_for_store {n : Nat} {req : CommandRequest} {receipt : Receipt} {job : Job}
    {reply : Answer} {m : Move} {given : Submission} (inv : Admission digest s)
    (known : s.submitted.get? n = some req) (stored : s.receipts.get? req.requestId = some receipt)
    (other : receipt.recorder ≠ n) (running : s.tasks.get? n = some job)
    (move : job.move digest s n reply = some m) (gives : m.answers = some given) :
    job = .record req ∨ job = .lookUp req := by
  -- only the recorder can be past the store
  have unowned : job.owned? = none := by
    cases owned : job.owned? with
    | none => rfl
    | some id =>
      obtain ⟨receipt', found, recorder⟩ := inv.owns n job id running owned
      obtain ⟨req', known', rfl, -⟩ := inv.receipts id receipt' found
      obtain rfl : req' = req := by simpa [recorder, known] using known'.symm
      obtain rfl : receipt' = receipt := by simpa [found] using stored
      exact absurd recorder other
  have carried : ∀ req', job.request? = some req' → req' = req := by
    intro req' carries
    simpa [known] using (inv.carries n job req' running carries).symm
  cases job with
  | record req' =>
    obtain rfl := carried req' rfl
    exact Or.inl rfl
  | lookUp req' =>
    obtain rfl := carried req' rfl
    exact Or.inr rfl
  | drain | closing _ | closeUpdate _ _ _ | closeSend _ _ _ =>
    cases moves_of_move move <;> cases gives
  | _ => simp [Job.owned?] at unowned

theorem Admission.answersFromStore (inv : Admission digest s) (i : Input) :
    AnswersFromStore digest s i := by
  rintro n receipt answer ⟨req, known, stored, other, same⟩ before answered notFailed
  cases i with
  | submit req' caps =>
    have old : n ≠ s.spawned := by
      rintro rfl
      simp [(inv.fresh s.spawned le_rfl).2] at known
    simp only [Gateway.step] at answered
    split at answered
    · rw [FiniteMap.get?_insert, if_neg old, before] at answered
      cases answered
    · simp [before] at answered
  | shutdown => simp [Gateway.step, before] at answered
  | restart => simp [Gateway.step, before] at answered
  | answer task reply =>
    simp only [Gateway.step] at answered
    split at answered
    · simp [before] at answered
    · next job running =>
      split at answered
      · simp [before] at answered
      · next m move =>
        cases gives : m.answers with
        | none => simp [Gateway.perform, gives, before] at answered
        | some given =>
          simp only [Gateway.perform, gives] at answered
          rw [FiniteMap.get?_insert] at answered
          split at answered
          · next self =>
            subst self
            obtain rfl : given = answer := by simpa using answered
            rcases inv.waits_for_store known stored other running move gives with rfl | rfl
            · simp only [Job.move, stored, same, ne_eq, not_true_eq_false, if_false] at move
              split at move
              · cases move; cases gives
              · exact absurd rfl (notFailed _)
              · cases move
            · simp only [Job.move, stored, Option.map_some, Option.getD_some] at move
              split at move
              · cases move; cases gives; rfl
              · exact absurd rfl (notFailed _)
              · cases move
          · simp [before] at answered

/-- The runs of the gateway from an empty store. -/
def run (digest : CommandPayload → String) (inputs : List Input) : Gateway :=
  inputs.foldl (Gateway.step digest) {}

theorem admission_run (inputs : List Input) : Admission digest (run digest inputs) := by
  unfold run
  have start : Admission digest {} := admission_init
  generalize ({} : Gateway) = s at start
  induction inputs generalizing s with
  | nil => exact start
  | cons i rest inductionHypothesis => exact inductionHypothesis _ (start.step i)

/-- In every run, every request is executed at most once, only by the submission that
recorded it and never by one with another digest; and every repetition that passes the
gates and is answered by the store is answered with the stored state. -/
theorem requests_executed_once (inputs : List Input) :
    ((run digest inputs).executed.map (·.2)).Nodup ∧
    (∀ n req receipt, (run digest inputs).submitted.get? n = some req →
      (run digest inputs).receipts.get? req.requestId = some receipt →
      receipt.recorder ≠ n ∨ receipt.digest ≠ digest req.payload →
      ∀ id, (n, id) ∉ (run digest inputs).executed) ∧
    Along (Gateway.step digest) (AnswersFromStore digest) {} inputs := by
  have inv : Admission digest (run digest inputs) := admission_run inputs
  refine ⟨?_, ?_, ?_⟩
  · refine (List.nodup_map_iff_inj_on inv.once).mpr ?_
    rintro ⟨u, id⟩ first ⟨v, id'⟩ second rfl
    obtain ⟨receipt, found, rfl⟩ := (inv.executed u id first).1
    obtain ⟨receipt', found', rfl⟩ := (inv.executed v id second).1
    obtain rfl : receipt = receipt' := by simpa [found] using found'
    rfl
  · intro n req receipt known stored differs id executed
    obtain ⟨receipt', found, recorder⟩ := (inv.executed n id executed).1
    obtain ⟨req', known', rfl, digests⟩ := inv.receipts id receipt' found
    obtain rfl : req' = req := by simpa [recorder, known] using known'.symm
    obtain rfl : receipt' = receipt := by simpa [found] using stored
    rcases differs with other | other
    · exact other recorder
    · exact other digests
  · exact Along.of_preserved (fun s i inv => inv.step i) (fun s i inv => inv.answersFromStore i)
      inputs admission_init

/-! ## A repetition at the gates -/

def sampleRequest : CommandRequest where
  requestId := 7
  operation := .startTurn
  deviceId := "device-1"
  agentKind := .codexDesktop
  session := "session-1"
  payload := .startTurn "hello"

/-- The request is executed and completed.  Then Desktop loses the capability, and the
request is repeated. -/
def repeatedAtGate : List Input :=
  [.submit sampleRequest ⟨[.startTurn], false⟩, .answer 0 .stored, .answer 0 .continued,
    .answer 0 .continued, .answer 0 .receipts, .answer 0 (.receipt .completed), .answer 0 .stored,
    .answer 0 .continued, .answer 0 .continued, .submit sampleRequest ⟨[], true⟩]

/-- The gates stand in front of the store: a repetition they refuse is not answered from
the stored receipt. -/
theorem repetition_refused_at_gate :
    ¬ ∀ n receipt answer, Repeats (fun _ => "digest") (run (fun _ => "digest") repeatedAtGate) n receipt →
      (run (fun _ => "digest") repeatedAtGate).answers.get? n = some answer →
      ∃ state, answer = .replayed state := by
  intro replayed
  obtain ⟨state, same⟩ := replayed 1 ⟨"session-1", .startTurn, .completed, "digest", 0⟩
    (.failed ⟨.controlReadOnly, "desktop capability probe did not enable this write"⟩)
    ⟨sampleRequest, by decide +kernel, by decide +kernel, by decide, rfl⟩ (by decide +kernel)
  cases same

end AgentConsole.Bridge.Gateway
