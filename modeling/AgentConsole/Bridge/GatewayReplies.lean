import AgentConsole.Bridge.GatewayFinality

/-! # What a repeated request is answered

The runtime turns what the gateway returns into results for the Browser.  A new command is
answered from its receipts, a repetition from the stored status alone: the digest that
recognises it covers only the payload, and the stable error code of a rejection is not in
the store. -/

namespace AgentConsole.Bridge

/-- `pb::CommandReceiptStatus` -/
inductive CommandReceiptStatus where
  | received | acceptedByBridge | dispatchedToCodex | completed | rejected | outcomeUnknown
  deriving DecidableEq, Repr

/-- The status and the error code of `pb::CommandResult`. -/
structure CommandResult where
  status : CommandReceiptStatus
  errorCode : Option StableErrorCode
  deriving DecidableEq, Repr

/-- `receipt_state_to_status` -/
def receiptStateToStatus : ReceiptState → CommandResult
  | .dispatchedToCodex => ⟨.dispatchedToCodex, none⟩
  | .completed => ⟨.completed, none⟩
  | .rejected code _ => ⟨.rejected, some code⟩
  | .outcomeUnknown => ⟨.outcomeUnknown, none⟩

/-- `stored_state_to_status` -/
def storedStateToStatus : StoredReceiptState → CommandReceiptStatus
  | .received => .received
  | .acceptedByBridge => .acceptedByBridge
  | .dispatchedToCodex => .dispatchedToCodex
  | .completed => .completed
  | .rejected => .rejected
  | .outcomeUnknown => .outcomeUnknown

/-- The result `handle_command` sends at once; an accepted command is answered by its
receipts. -/
def Submission.result? : Submission → Option CommandResult
  | .accepted => none
  | .replayed state => some ⟨storedStateToStatus state, none⟩
  | .failed error => some ⟨.rejected, some error.code⟩

/-- The device, the agent kind, the session, the operation and the payload are equal. -/
def CommandRequest.SameTarget (a b : CommandRequest) : Prop :=
  a.deviceId = b.deviceId ∧ a.agentKind = b.agentKind ∧ a.session = b.session ∧
    a.operation = b.operation ∧ a.payload = b.payload
  deriving Decidable

namespace Gateway

open AgentConsole.Lib

variable {digest : CommandPayload → String} {s s' : Gateway} {i : Input}

/-- The request that recorded the receipt of `req` is `first`, under another submission
than `n`. -/
def RepeatsOf (s : Gateway) (n : Nat) (req first : CommandRequest) (receipt : Receipt) : Prop :=
  s.receipts.get? req.requestId = some receipt ∧ receipt.recorder ≠ n ∧
    s.submitted.get? receipt.recorder = some first

/-- What the step answers to a request that repeats an earlier id: a replay if it is the
earlier request, and then with the result of that one if there is one; otherwise
`DUPLICATE_REQUEST_MISMATCH`, which changes nothing. -/
def ReplaysFaithfully (digest : CommandPayload → String) (s : Gateway) (i : Input) : Prop :=
  ∀ n req first receipt answer, s.answers.get? n = none →
    (s.step digest i).submitted.get? n = some req → s.RepeatsOf n req first receipt →
    (s.step digest i).answers.get? n = some answer →
    (∀ state, answer = .replayed state → req.SameTarget first ∧
      ∀ final ∈ s.finals receipt.recorder, answer.result? = some (receiptStateToStatus final)) ∧
    (¬ req.SameTarget first →
      answer.result? = some ⟨.rejected, some .duplicateRequestMismatch⟩ ∧
        (s.step digest i).receipts = s.receipts ∧ (s.step digest i).executed = s.executed)

/-- The step lets the store tell repetitions from other requests:

* another request under a recorded id passes the gates, its payload has another digest,
  and the store answers;
* a replay reads the stored status, and the earlier result is no rejection. -/
def Identified (digest : CommandPayload → String) (s : Gateway) (i : Input) : Prop :=
  match i with
  | .submit req caps => ∀ receipt ∈ s.receipts.get? req.requestId,
      ∀ first ∈ s.submitted.get? receipt.recorder, ¬ req.SameTarget first → s.gate req caps = none
  | .answer task answer =>
    match s.tasks.get? task, answer with
    | some (.record req), .stored => ∀ receipt ∈ s.receipts.get? req.requestId,
        ∀ first ∈ s.submitted.get? receipt.recorder,
          digest first.payload = digest req.payload → req.SameTarget first
    | some (.record req), .storeFailed _ => ∀ receipt ∈ s.receipts.get? req.requestId,
        ∀ first ∈ s.submitted.get? receipt.recorder, req.SameTarget first
    | some (.lookUp req), .stored => ∀ receipt ∈ s.receipts.get? req.requestId,
        ∀ final ∈ s.finals receipt.recorder, final.status ≠ .rejected
    | some (.lookUp req), .storeFailed _ => ∀ receipt ∈ s.receipts.get? req.requestId,
        s.finals receipt.recorder = []
    | _, _ => True
  | _ => True

/-- What a replay is answered is the result unless that is a rejection. -/
theorem replayed_result {final : ReceiptState} (kept : final.status ≠ .rejected) :
    (Submission.replayed final.status).result? = some (receiptStateToStatus final) := by
  cases final with
  | rejected code message => exact absurd rfl kept
  | _ => rfl

/-! ## The invariant -/

/-- A submission that looks its receipt up is the recorded request. -/
structure Recognised (digest : CommandPayload → String) (s : Gateway) : Prop where
  staged : Staged digest s
  recorded : ∀ n req, s.tasks.get? n = some (.lookUp req) →
    ∃ receipt, s.receipts.get? req.requestId = some receipt
  looksUp : ∀ n req first receipt, s.tasks.get? n = some (.lookUp req) →
    s.RepeatsOf n req first receipt → req.SameTarget first

theorem recognised_init : Recognised digest {} where
  staged := staged_init
  recorded := by simp
  looksUp := by simp

/-- A look-up comes from `record_receipt` and a receipt with the same digest. -/
theorem lookUp_of_move {task : Nat} {job : Job} {answer : Answer} {m : Move} {req : CommandRequest}
    (move : job.move digest s task answer = some m) (goes : m.next = some (.lookUp req)) :
    job = .record req ∧ answer = .stored ∧ m.inserts = none ∧ m.status = none ∧
      ∃ receipt, s.receipts.get? req.requestId = some receipt ∧
        receipt.digest = digest req.payload := by
  cases moves_of_move move with
  | repeated found same =>
    cases goes
    exact ⟨rfl, rfl, rfl, rfl, _, found, same⟩
  | _ => cases goes

/-- A repetition after a step is one before it, or the first look at a new receipt. -/
theorem Recognised.perform (inv : Recognised digest s) {task : Nat} {job : Job} {answer : Answer}
    {m : Move} (identified : Identified digest s (.answer task answer))
    (staged : Staged digest (s.perform task m)) (running : s.tasks.get? task = some job)
    (move : job.move digest s task answer = some m) : Recognised digest (s.perform task m) := by
  have before : ∀ n req, (s.perform task m).tasks.get? n = some (.lookUp req) →
      ∃ receipt, s.receipts.get? req.requestId = some receipt ∧
        ∀ first, s.submitted.get? receipt.recorder = some first → receipt.recorder ≠ n →
          req.SameTarget first := by
    intro n req looks
    rw [perform_tasks] at looks
    split at looks
    · next self =>
      subst self
      obtain ⟨rfl, rfl, -, -, receipt, found, same⟩ := lookUp_of_move move looks
      refine ⟨receipt, found, fun first known _ => ?_⟩
      obtain ⟨first', known', -, digests⟩ := inv.staged.admission.receipts _ receipt found
      obtain rfl : first = first' := Option.some.inj (known.symm.trans known')
      simp only [Identified, running] at identified
      exact identified receipt found first known (digests.symm.trans same)
    · obtain ⟨receipt, found⟩ := inv.recorded n req looks
      exact ⟨receipt, found, fun first known other =>
        inv.looksUp n req first receipt looks ⟨found, other, known⟩⟩
  refine ⟨staged, fun n req looks => ?_, fun n req first later looks repeats => ?_⟩
  · obtain ⟨receipt, found, -⟩ := before n req looks
    obtain ⟨later, kept, -⟩ := receipt_kept move found
    exact ⟨later, kept⟩
  · obtain ⟨stored, other, known⟩ := repeats
    obtain ⟨receipt, found, same⟩ := before n req looks
    obtain ⟨later', kept, -, recorder⟩ := receipt_kept move found
    obtain rfl : later = later' := Option.some.inj (stored.symm.trans kept)
    exact same first (recorder ▸ known) (recorder ▸ other)

theorem Recognised.step (inv : Recognised digest s) (orderly : s.Orderly i)
    (identified : Identified digest s i) : Recognised digest (s.step digest i) := by
  have staged : Staged digest (s.step digest i) := inv.staged.step orderly
  have fresh := inv.staged.admission.fresh s.spawned le_rfl
  cases i with
  | submit req caps =>
    have old : ∀ n req', (s.step digest (.submit req caps)).tasks.get? n = some (.lookUp req') →
        s.tasks.get? n = some (.lookUp req') := by
      intro n req' looks
      simp only [Gateway.step] at looks
      split at looks
      · exact looks
      · rw [FiniteMap.get?_insert] at looks
        split at looks
        · cases looks
        · exact looks
    have receipts : (s.step digest (.submit req caps)).receipts = s.receipts := by
      simp only [Gateway.step]
      split <;> rfl
    have submitted : (s.step digest (.submit req caps)).submitted =
        s.submitted.insert s.spawned req := by
      simp only [Gateway.step]
      split <;> rfl
    refine ⟨staged, fun n req' looks => ?_, fun n req' first receipt looks repeats => ?_⟩
    · rw [receipts]
      exact inv.recorded n req' (old n req' looks)
    · obtain ⟨stored, other, known⟩ := repeats
      rw [receipts] at stored
      -- the recorder was submitted before
      obtain ⟨first', known', -⟩ := inv.staged.admission.receipts _ receipt stored
      have older : receipt.recorder ≠ s.spawned := by
        intro same
        rw [same, fresh.2] at known'
        cases known'
      rw [submitted, FiniteMap.get?_insert, if_neg older] at known
      exact inv.looksUp n req' first receipt (old n req' looks) ⟨stored, other, known⟩
  | answer task answer =>
    simp only [Gateway.step] at staged ⊢
    split at staged
    · exact inv
    · next job running =>
      split at staged
      · exact inv
      · next m move => exact inv.perform identified staged running move
  | shutdown =>
    have old : ∀ n req', (s.step digest .shutdown).tasks.get? n = some (.lookUp req') →
        s.tasks.get? n = some (.lookUp req') := by
      intro n req' looks
      simp only [Gateway.step] at looks
      rw [FiniteMap.get?_insert] at looks
      split at looks
      · cases looks
      · exact looks
    exact ⟨staged, fun n req looks => inv.recorded n req (old n req looks),
      fun n req first receipt looks => inv.looksUp n req first receipt (old n req looks)⟩
  | restart => exact orderly.elim

/-! ## Answers -/

/-- The step that answers a repetition. -/
theorem Recognised.replaysFaithfully (inv : Recognised digest s)
    (identified : Identified digest s i) : ReplaysFaithfully digest s i := by
  rintro n req first receipt answer before known ⟨stored, other, recorder⟩ answered
  have admission := inv.staged.admission
  have fresh := admission.fresh s.spawned le_rfl
  cases i with
  | submit req' caps =>
    simp only [Gateway.step] at answered known ⊢
    split at answered
    · next error gates =>
      rw [FiniteMap.get?_insert] at answered
      split at answered
      · next self =>
        subst self
        obtain rfl : Submission.failed error = answer := Option.some.inj answered
        rw [gates] at known
        obtain rfl : req' = req := by simpa using known
        refine ⟨fun state replays => (by cases replays), fun differs => ?_⟩
        have passes : s.gate req' caps = none := identified receipt stored first recorder differs
        cases passes.symm.trans gates
      · simp [before] at answered
    · simp [before] at answered
  | shutdown => simp [Gateway.step, before] at answered
  | restart => simp [Gateway.step, before] at answered
  | answer task reply =>
    simp only [Gateway.step] at answered known ⊢
    split at answered
    · simp [before] at answered
    · next job running =>
      split at answered
      · simp [before] at answered
      · next m move =>
        have kept : m.inserts = none → m.status = none → m.executes = none →
            (s.perform task m).receipts = s.receipts ∧ (s.perform task m).executed = s.executed := by
          intro inserts status executes
          simp [Gateway.perform, inserts, status, executes]
        cases gives : m.answers with
        | none => simp [Gateway.perform, gives, before] at answered
        | some given =>
          simp only [Gateway.perform, gives] at answered
          rw [FiniteMap.get?_insert] at answered
          split at answered
          · next self =>
            subst self
            obtain rfl : given = answer := Option.some.inj answered
            have known : s.submitted.get? n = some req := by
              simpa [running, move] using known
            simp only [Identified, running] at identified
            rcases admission.waits_for_store known stored other running move gives with rfl | rfl
            · -- `record_receipt`
              simp only [Job.move, stored] at move
              split at move
              · split at move
                · cases move
                  cases gives
                  exact ⟨fun state replays => (by cases replays), fun _ => ⟨rfl, kept rfl rfl rfl⟩⟩
                · cases move
                  cases gives
              · cases move
                cases gives
                refine ⟨fun state replays => (by cases replays), fun differs => absurd ?_ differs⟩
                exact identified receipt stored first recorder
              · cases move
            · -- the status is read
              have same := inv.looksUp n req first receipt running ⟨stored, other, recorder⟩
              refine ⟨fun state replays => ⟨same, fun final member => ?_⟩, fun differs =>
                absurd same differs⟩
              have agrees : receipt.status = final.status :=
                (inv.staged.stage _ receipt stored).endsOnce.2.1 final member
              simp only [Job.move, stored, Option.map_some, Option.getD_some] at move
              split at move
              · cases move
                cases gives
                rw [agrees]
                exact replayed_result (identified receipt stored final member)
              · simp [identified receipt stored] at member
              · cases move
          · simp [before] at answered

/-- In every run in which the store can tell repetitions from other requests and the
commands end in order, a repeated id is answered as a replay only for the same request,
with its result; any other request gets `DUPLICATE_REQUEST_MISMATCH`. -/
theorem repetitions_replayed_faithfully (inputs : List Input)
    (orderly : Along (Gateway.step digest) Orderly {} inputs)
    (identified : Along (Gateway.step digest) (Identified digest) {} inputs) :
    Along (Gateway.step digest) (ReplaysFaithfully digest) {} inputs := by
  have both : Along (Gateway.step digest) (fun s i => s.Orderly i ∧ Identified digest s i) {} inputs :=
    orderly.and identified
  exact Along.of_invariant (I := Recognised digest)
    (fun s i inv holds => inv.step holds.1 holds.2)
    (fun s i inv holds => inv.replaysFaithfully holds.2) recognised_init both

/-! ## A repetition for another session -/

/-- The sample request is executed and completed. -/
def completedOnce : List Input :=
  [.submit sampleRequest ⟨[.startTurn], false⟩, .answer 0 .stored, .answer 0 .continued,
    .answer 0 .continued, .answer 0 .receipts, .answer 0 (.receipt .completed), .answer 0 .stored,
    .answer 0 .continued, .answer 0 .continued]

/-- The same id again. -/
def repeatedWith (req : CommandRequest) : List Input :=
  completedOnce ++ [.submit req ⟨[.startTurn], false⟩, .answer 1 .stored, .answer 1 .stored]

instance (s : Gateway) (i : Input) : Decidable (Identified digest s i) :=
  Input.casesOn (motive := fun i => Decidable (Identified digest s i)) i
    (fun req caps => by dsimp only [Identified]; infer_instance)
    (fun task answer => by
      dsimp only [Identified]
      generalize s.tasks.get? task = found
      exact Option.casesOn found (isTrue trivial) fun job => by
        induction job using Job.casesOn <;> induction answer using Answer.casesOn <;>
          dsimp only <;> infer_instance)
    (isTrue trivial) (isTrue trivial)

theorem repetitions_replayed_faithfully_completed :
    Along (Gateway.step fun _ => "digest") (ReplaysFaithfully fun _ => "digest") {}
      (repeatedWith sampleRequest) :=
  repetitions_replayed_faithfully (repeatedWith sampleRequest) (by decide +kernel) (by decide +kernel)

/-- The digest covers only the payload, so the same prompt for another session is reported
as completed there. -/
theorem other_session_replayed :
    ¬ ∀ inputs : List Input,
      Along (Gateway.step fun _ => "digest") (ReplaysFaithfully fun _ => "digest") {} inputs := by
  intro faithful
  have whole : repeatedWith { sampleRequest with session := "session-2" } =
      (completedOnce ++ [.submit { sampleRequest with session := "session-2" } ⟨[.startTurn], false⟩,
        .answer 1 .stored]) ++ .answer 1 .stored :: [] := rfl
  have replays := (whole ▸ faithful (repeatedWith { sampleRequest with session := "session-2" })).at_step
  have same := ((replays 1 { sampleRequest with session := "session-2" } sampleRequest
    ⟨"session-1", .startTurn, .completed, "digest", 0⟩ (.replayed .completed) (by decide +kernel)
    (by decide +kernel) ⟨by decide +kernel, by decide, by decide +kernel⟩ (by decide +kernel)).1
    .completed rfl).1
  revert same
  decide

end Gateway
end AgentConsole.Bridge
