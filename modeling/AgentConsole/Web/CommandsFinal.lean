import AgentConsole.Web.Commands

/-! # No command after its verdict

A frame that carries a request id after the request got its verdict is either a command that
reuses the id, or one that a reconnect sends again.  A receipt takes the command out of the
pending ones with its verdict, so what is sent again has its verdict from a wait that ran
out, or from an exception. -/

namespace AgentConsole.Web.Commands

open AgentConsole.Lib
open AgentConsole.Web.Inbox (ReceiptStatus)

/-! ## Verdicts in the log -/

/-- The request has ended with a terminal status or an error. -/
def Decided (log : List Entry) (requestId : RequestId) : Prop :=
  ∃ verdict, verdict.terminal = true ∧ .settled requestId verdict ∈ log

/-- No frame carries a request id after its verdict. -/
def Final : List Entry → Prop
  | [] => True
  | .sent requestId :: log => ¬ Decided log requestId ∧ Final log
  | .settled _ _ :: log => Final log

variable {log : List Entry} {requestId r : RequestId} {status : ReceiptStatus}

@[simp] theorem decided_sent : Decided (.sent r :: log) requestId ↔ Decided log requestId := by
  simp [Decided]

theorem decided_settled {verdict : Verdict} :
    Decided (.settled r verdict :: log) requestId ↔
      (requestId = r ∧ verdict.terminal = true) ∨ Decided log requestId := by
  unfold Decided
  constructor
  · rintro ⟨v, terminal, member⟩
    rcases List.mem_cons.mp member with same | member
    · cases same
      exact .inl ⟨rfl, terminal⟩
    · exact .inr ⟨v, terminal, member⟩
  · rintro (⟨rfl, terminal⟩ | ⟨v, terminal, member⟩)
    · exact ⟨verdict, terminal, List.mem_cons_self⟩
    · exact ⟨v, terminal, List.mem_cons_of_mem _ member⟩

theorem decided_sentAll (ids : List RequestId) :
    Decided ((ids.map Entry.sent).reverse ++ log) requestId ↔ Decided log requestId := by
  simp [Decided]

theorem final_sentAll (ids : List RequestId) :
    Final ((ids.map Entry.sent).reverse ++ log) ↔
      (∀ id ∈ ids, ¬ Decided log id) ∧ Final log := by
  induction ids generalizing log with
  | nil => simp
  | cons id rest inductionHypothesis =>
    have later : Final ((rest.map Entry.sent).reverse ++ .sent id :: log) ↔
        (∀ other ∈ rest, ¬ Decided (.sent id :: log) other) ∧ Final (.sent id :: log) :=
      inductionHypothesis
    simp only [List.map_cons, List.reverse_cons, List.append_assoc, List.singleton_append,
      List.mem_cons, forall_eq_or_imp]
    rw [later]
    simp only [decided_sent, Final]
    tauto

theorem final_rejected (waiters : List (RequestId × Nat)) :
    Final (waiters.foldl (fun log waiter => .settled waiter.1 .error :: log) log) ↔ Final log := by
  induction waiters generalizing log with
  | nil => rfl
  | cons waiter rest inductionHypothesis => exact inductionHypothesis

theorem decided_rejected (waiters : List (RequestId × Nat)) (before : Decided log requestId) :
    Decided (waiters.foldl (fun log waiter => .settled waiter.1 .error :: log) log) requestId := by
  induction waiters generalizing log with
  | nil => exact before
  | cons waiter rest inductionHypothesis =>
    exact inductionHypothesis (decided_settled.mpr (.inr before))

namespace Transport

/-! ## What a reconnect sends -/

/-- The requests that `resend` sends: those not accepted, up to one the encoder refuses. -/
def resent : List PendingCommand → List RequestId
  | [] => []
  | pending :: rest =>
    if pending.accepted then resent rest
    else if MAX_FRAME_BYTES < pending.envelope.length then []
    else pending.envelope.requestId :: resent rest

variable {t t' : Transport}

theorem resend_open (isOpen : t.link.isOpen = true) (commands : List PendingCommand) :
    (t.resend commands).1 =
      { t with log := ((resent commands).map Entry.sent).reverse ++ t.log } := by
  induction commands generalizing t with
  | nil => rfl
  | cons pending rest inductionHypothesis =>
    simp only [resend, resent]
    split
    · exact inductionHypothesis isOpen
    · by_cases large : MAX_FRAME_BYTES < pending.envelope.length
      · simp [send, isOpen, large]
      · simp only [send, isOpen, large, if_true, if_false]
        have later := @inductionHypothesis
          { t with log := .sent pending.envelope.requestId :: t.log } isOpen
        simpa using later

theorem resend_closed (isClosed : t.link.isOpen = false) (commands : List PendingCommand) :
    t.resend commands = (t, true) := by
  induction commands with
  | nil => rfl
  | cons pending rest inductionHypothesis => simp [resend, send, isClosed, inductionHypothesis]

/-- The requests of the frames that go out now. -/
def outgoing (t : Transport) : List RequestId :=
  if t.link.isOpen then resent t.pendingCommands.values else []

/-- A reconnect changes the log and the link, and nothing else of the transport. -/
theorem resendPendingCommands_eq (t : Transport) :
    ∃ link, t.resendPendingCommands =
      { t with link := link, log := (t.outgoing.map Entry.sent).reverse ++ t.log } := by
  unfold resendPendingCommands outgoing
  cases isOpen : t.link.isOpen with
  | true =>
    have sent := resend_open isOpen t.pendingCommands.values
    revert sent
    rcases t.resend t.pendingCommands.values with ⟨after, done⟩
    rintro rfl
    cases done
    · exact ⟨_, rfl⟩
    · exact ⟨t.link, rfl⟩
  | false =>
    rw [resend_closed isOpen]
    exact ⟨t.link, rfl⟩

theorem mem_resent {commands : List PendingCommand} (sent : requestId ∈ resent commands) :
    ∃ pending ∈ commands, pending.envelope.requestId = requestId := by
  induction commands with
  | nil => cases sent
  | cons pending rest inductionHypothesis =>
    simp only [resent] at sent
    split at sent
    · obtain ⟨p, there, same⟩ := inductionHypothesis sent
      exact ⟨p, List.mem_cons_of_mem _ there, same⟩
    · split at sent
      · cases sent
      · rcases List.mem_cons.mp sent with rfl | sent
        · exact ⟨pending, List.mem_cons_self, rfl⟩
        · obtain ⟨p, there, same⟩ := inductionHypothesis sent
          exact ⟨p, List.mem_cons_of_mem _ there, same⟩

/-! ## The condition -/

/-- The request got its verdict after its timer, or from an exception. -/
def Abandoned (t : Transport) (requestId : RequestId) : Prop :=
  requestId ∈ t.timedOut ∨ requestId ∈ t.refused

/-- What the opening sends when its answer ends it. -/
def resends (t : Transport) (n : Nat) (answer : Answer) : List RequestId :=
  match t.link.openings.get? n with
  | none => []
  | some opening =>
    match next t.link n opening answer with
    | .finished => if opening.resends then t.outgoing else []
    | .moved _ | .thrown _ => []

/-- A command that goes out has a request id without a verdict, and a reconnect finds no
command to send again whose wait ran out with a verdict, or whose call threw. -/
def KeepsVerdicts (t : Transport) : Event → Prop
  | .sendCommand envelope keyed =>
    keyed = true → t.link.isOpen = true → envelope.length ≤ MAX_FRAME_BYTES →
      ¬ Decided t.log envelope.requestId
  | .opening n answer => ∀ requestId ∈ t.resends n answer, ¬ t.Abandoned requestId
  | _ => True

/-! ## The invariant -/

structure Inv (t : Transport) : Prop where
  own : ∀ id pending, t.pendingCommands.get? id = some pending → pending.envelope.requestId = id
  abandoned : ∀ id, t.Abandoned id → Decided t.log id
  pending : ∀ id, (t.pendingCommands.get? id).isSome → Decided t.log id → t.Abandoned id

theorem inv_new : Inv new where
  own _ _ there := by cases there
  abandoned _ abandoned := by rcases abandoned with member | member <;> cases member
  pending _ there := by cases there

theorem inv_link (inv : Inv t) (link : Link) : Inv { t with link := link } :=
  ⟨inv.own, inv.abandoned, inv.pending⟩

theorem inv_sentAll (inv : Inv t) (link : Link) (ids : List RequestId) :
    Inv { t with link := link, log := (ids.map Entry.sent).reverse ++ t.log } where
  own := inv.own
  abandoned id abandoned := (decided_sentAll ids).mpr (inv.abandoned id abandoned)
  pending id there decided := inv.pending id there ((decided_sentAll ids).mp decided)

/-- A pending command that goes out has a verdict only if it was abandoned. -/
theorem decided_outgoing_iff (inv : Inv t) (sent : requestId ∈ t.outgoing) :
    Decided t.log requestId ↔ t.Abandoned requestId := by
  refine ⟨fun decided => inv.pending _ ?_ decided, inv.abandoned _⟩
  unfold outgoing at sent
  split at sent
  · obtain ⟨pending, there, same⟩ := mem_resent sent
    obtain ⟨⟨id, own⟩, member, rfl⟩ := List.mem_map.mp there
    have found := Record.mem_entries.mp member
    obtain rfl : id = requestId := (inv.own _ _ found).symm.trans same
    rw [found]
    rfl
  · cases sent

/-! ## Openings -/

theorem inv_resendPendingCommands (inv : Inv t) : Inv t.resendPendingCommands := by
  obtain ⟨link, same⟩ := t.resendPendingCommands_eq
  rw [same]
  exact inv_sentAll inv link _

theorem final_resendPendingCommands (inv : Inv t) (final : Final t.log) :
    Final t.resendPendingCommands.log ↔ ∀ id ∈ t.outgoing, ¬ t.Abandoned id := by
  obtain ⟨link, same⟩ := t.resendPendingCommands_eq
  rw [same]
  show Final ((t.outgoing.map Entry.sent).reverse ++ t.log) ↔ _
  rw [final_sentAll, and_iff_left final]
  exact forall₂_congr fun id sent => not_congr (decided_outgoing_iff inv sent)

theorem inv_proceed (inv : Inv t) (n : Nat) (answer : Answer) : Inv (t.proceed n answer) := by
  unfold proceed
  split
  · exact inv
  · split
    · exact inv_link inv _
    · unfold finish
      simp only
      split
      · exact inv_resendPendingCommands (inv_link inv _)
      · exact inv_link inv _
    · exact inv_link inv _

theorem final_proceed (inv : Inv t) (final : Final t.log) (n : Nat) (answer : Answer) :
    Final (t.proceed n answer).log ↔ ∀ id ∈ t.resends n answer, ¬ t.Abandoned id := by
  have silent : Final t.log ↔ ∀ id ∈ ([] : List RequestId), ¬ t.Abandoned id :=
    iff_of_true final fun id there => by cases there
  unfold proceed resends
  cases t.link.openings.get? n with
  | none => exact silent
  | some opening =>
    simp only
    cases next t.link n opening answer with
    | moved link => exact silent
    | thrown link => exact silent
    | finished =>
      unfold finish
      simp only
      split
      · exact final_resendPendingCommands (inv_link inv (t.link.finish n)) final
      · exact silent

/-! ## Calls -/

theorem inv_refuse (inv : Inv t) (requestId : RequestId) : Inv (t.refuse requestId) where
  own := inv.own
  abandoned id abandoned := by
    rcases abandoned with timedOut | refused
    · exact decided_settled.mpr (.inr (inv.abandoned id (.inl timedOut)))
    · rcases List.mem_cons.mp refused with rfl | refused
      · exact decided_settled.mpr (.inl ⟨rfl, rfl⟩)
      · exact decided_settled.mpr (.inr (inv.abandoned id (.inr refused)))
  pending id there decided := by
    rcases decided_settled.mp decided with ⟨rfl, -⟩ | decided
    · exact .inr List.mem_cons_self
    · exact (inv.pending id there decided).imp_right (List.mem_cons_of_mem _)

theorem await_get? (t : Transport) (envelope : Envelope) (id : RequestId) :
    (t.await envelope).pendingCommands.get? id =
      if id = envelope.requestId then some ⟨envelope, false⟩ else t.pendingCommands.get? id :=
  Record.get?_set _ _ _ _

theorem sendCommand_cases (t : Transport) (envelope : Envelope) (keyed : Bool) :
    (t.sendCommand envelope keyed = t.refuse envelope.requestId ∧
        ¬ (keyed = true ∧ t.link.isOpen = true)) ∨
      (t.sendCommand envelope keyed = (t.await envelope).refuse envelope.requestId ∧
        MAX_FRAME_BYTES < envelope.length) ∨
      (t.sendCommand envelope keyed =
          { t.await envelope with log := .sent envelope.requestId :: t.log } ∧
        keyed = true ∧ t.link.isOpen = true ∧ envelope.length ≤ MAX_FRAME_BYTES) := by
  unfold sendCommand
  by_cases ready : keyed = true ∧ t.link.isOpen = true
  · obtain ⟨rfl, isOpen⟩ := ready
    have stillOpen : (t.await envelope).link.isOpen = true := isOpen
    right
    by_cases large : MAX_FRAME_BYTES < envelope.length
    · left
      simp [isOpen, send, stillOpen, large]
    · right
      refine ⟨?_, rfl, isOpen, by omega⟩
      simp only [isOpen, Bool.not_true, Bool.or_self, Bool.false_eq_true, if_false, send,
        stillOpen, if_true, large]
      rfl
  · left
    refine ⟨?_, ready⟩
    rw [if_pos]
    cases keyed <;> simp_all

/-- After a call whose command goes out, or is too large to, the invariant holds when the
log has nothing against the request, or the call is refused. -/
theorem inv_sendCommand (inv : Inv t) (envelope : Envelope) (keyed : Bool)
    (final : Final (t.sendCommand envelope keyed).log) : Inv (t.sendCommand envelope keyed) := by
  rcases sendCommand_cases t envelope keyed with ⟨same, -⟩ | ⟨same, -⟩ | ⟨same, -⟩
  · rw [same]
    exact inv_refuse inv _
  · rw [same]
    constructor
    · intro id pending there
      have there : (t.await envelope).pendingCommands.get? id = some pending := there
      rw [await_get?] at there
      split at there
      · next own =>
        cases there
        exact own.symm
      · exact inv.own id pending there
    · exact (inv_refuse inv envelope.requestId).abandoned
    · intro id there decided
      have there : ((t.await envelope).pendingCommands.get? id).isSome := there
      rw [await_get?] at there
      split at there
      · next own =>
        subst own
        exact .inr List.mem_cons_self
      · exact (inv_refuse inv envelope.requestId).pending id there decided
  · rw [same] at final ⊢
    constructor
    · intro id pending there
      have there : (t.await envelope).pendingCommands.get? id = some pending := there
      rw [await_get?] at there
      split at there
      · next own =>
        cases there
        exact own.symm
      · exact inv.own id pending there
    · intro id abandoned
      exact decided_sent.mpr (inv.abandoned id abandoned)
    · intro id there decided
      have there : ((t.await envelope).pendingCommands.get? id).isSome := there
      have decided : Decided t.log id := decided_sent.mp decided
      rw [await_get?] at there
      split at there
      · next own =>
        subst own
        exact absurd decided final.1
      · exact inv.pending id there decided

theorem final_sendCommand (final : Final t.log) (envelope : Envelope) (keyed : Bool) :
    Final (t.sendCommand envelope keyed).log ↔
      (keyed = true → t.link.isOpen = true → envelope.length ≤ MAX_FRAME_BYTES →
        ¬ Decided t.log envelope.requestId) := by
  rcases sendCommand_cases t envelope keyed with ⟨same, stays⟩ | ⟨same, large⟩ | ⟨same, ready⟩
  · rw [same]
    exact iff_of_true final fun keyed isOpen => absurd ⟨keyed, isOpen⟩ stays
  · rw [same]
    exact iff_of_true final fun _ _ fits => absurd fits (by omega)
  · rw [same]
    exact ⟨fun sent _ _ _ => sent.1, fun free => ⟨free ready.1 ready.2.1 ready.2.2, final⟩⟩

/-! ## Receipts and waits -/

theorem markAccepted_get? {pendingCommands : Record RequestId PendingCommand} {id : RequestId}
    {pending : PendingCommand}
    (there : (markAccepted pendingCommands requestId status).get? id = some pending) :
    ∃ before, pendingCommands.get? id = some before ∧ before.envelope = pending.envelope := by
  unfold markAccepted at there
  split at there
  · next before found =>
    split at there
    · rw [Record.get?_set] at there
      split at there
      · next own =>
        subst own
        obtain rfl := Option.some.inj there
        exact ⟨before, found, rfl⟩
      · exact ⟨pending, there, rfl⟩
    · exact ⟨pending, there, rfl⟩
  · exact ⟨pending, there, rfl⟩

/-- A receipt leaves of the pending commands those it does not end, as they were but for
the mark. -/
theorem noteReceipt_get? {pendingCommands : Record RequestId PendingCommand} {id : RequestId}
    {pending : PendingCommand}
    (there : (noteReceipt pendingCommands requestId status).get? id = some pending) :
    (∃ before, pendingCommands.get? id = some before ∧ before.envelope = pending.envelope) ∧
      (id = requestId → isTerminalReceipt status = false) := by
  unfold noteReceipt at there
  simp only at there
  by_cases ends : isTerminalReceipt status = true
  · rw [if_pos ends, Record.get?_erase] at there
    by_cases own : id = requestId
    · rw [if_pos own] at there
      cases there
    · rw [if_neg own] at there
      exact ⟨markAccepted_get? there, fun same => absurd same own⟩
  · rw [if_neg ends] at there
    exact ⟨markAccepted_get? there, fun _ => by simpa using ends⟩

theorem inv_handleReceipt (inv : Inv t) (requestId : RequestId) (status : ReceiptStatus) :
    Inv (t.handleReceipt requestId status) := by
  have own (id : RequestId) (pending : PendingCommand)
      (there : (noteReceipt t.pendingCommands requestId status).get? id = some pending) :
      pending.envelope.requestId = id := by
    obtain ⟨⟨before, found, same⟩, -⟩ := noteReceipt_get? there
    rw [← same]
    exact inv.own id before found
  have was (id : RequestId)
      (there : ((noteReceipt t.pendingCommands requestId status).get? id).isSome) :
      (t.pendingCommands.get? id).isSome ∧ (id = requestId → isTerminalReceipt status = false) := by
    obtain ⟨pending, there⟩ := Option.isSome_iff_exists.mp there
    obtain ⟨⟨before, found, -⟩, going⟩ := noteReceipt_get? there
    exact ⟨by rw [found]; rfl, going⟩
  unfold handleReceipt
  simp only
  split
  · exact ⟨own, inv.abandoned, fun id there => inv.pending id (was id there).1⟩
  · refine ⟨own, fun id abandoned => decided_settled.mpr (.inr (inv.abandoned id abandoned)), ?_⟩
    intro id there decided
    obtain ⟨before, going⟩ := was id there
    rcases decided_settled.mp decided with ⟨same, terminal⟩ | decided
    · have open_ : isTerminalReceipt status = true := terminal
      rw [going same] at open_
      cases open_
    · exact inv.pending id before decided

theorem final_handleReceipt (requestId : RequestId) (status : ReceiptStatus) :
    Final (t.handleReceipt requestId status).log ↔ Final t.log := by
  unfold handleReceipt
  simp only
  split <;> rfl

theorem inv_settleReceiptAfterTimeout (inv : Inv t) (call : Nat) (answer : Option ReceiptStatus) :
    Inv (t.settleReceiptAfterTimeout call answer) := by
  unfold settleReceiptAfterTimeout
  split
  · next requestId found =>
    simp only
    refine ⟨inv.own, ?_, ?_⟩
    · intro id abandoned
      rcases abandoned with timedOut | refused
      · simp only at timedOut
        split at timedOut
        · next terminal =>
          rcases List.mem_cons.mp timedOut with rfl | timedOut
          · exact decided_settled.mpr (.inl ⟨rfl, terminal⟩)
          · exact decided_settled.mpr (.inr (inv.abandoned id (.inl timedOut)))
        · exact decided_settled.mpr (.inr (inv.abandoned id (.inl timedOut)))
      · exact decided_settled.mpr (.inr (inv.abandoned id (.inr refused)))
    · intro id there decided
      rcases decided_settled.mp decided with ⟨rfl, terminal⟩ | decided
      · have terminal : isTerminalReceipt (statusAfterTimeout answer) = true := terminal
        simp only [Abandoned, terminal, if_true]
        exact .inl List.mem_cons_self
      · rcases inv.pending id there decided with timedOut | refused
        · left
          simp only
          split
          · exact List.mem_cons_of_mem _ timedOut
          · exact timedOut
        · exact .inr refused
  · exact inv

theorem final_settleReceiptAfterTimeout (call : Nat) (answer : Option ReceiptStatus) :
    Final (t.settleReceiptAfterTimeout call answer).log ↔ Final t.log := by
  unfold settleReceiptAfterTimeout
  split <;> rfl

theorem inv_timeOut (inv : Inv t) (call : Nat) : Inv (t.timeOut call) := by
  unfold timeOut
  split
  · exact ⟨inv.own, inv.abandoned, inv.pending⟩
  · exact inv

theorem timeOut_log (t : Transport) (call : Nat) : (t.timeOut call).log = t.log := by
  unfold timeOut
  split <;> rfl

theorem inv_disconnect (inv : Inv t) : Inv t.disconnect where
  own _ _ there := by cases there
  abandoned id abandoned := decided_rejected _ (inv.abandoned id abandoned)
  pending _ there := by cases there

/-! ## The run -/

/-- The log only grows. -/
theorem final_of_step (e : Event) (final : Final (t.step e).log) : Final t.log := by
  cases e with
  | sendCommand envelope keyed =>
    have final : Final (t.sendCommand envelope keyed).log := final
    rcases sendCommand_cases t envelope keyed with ⟨same, -⟩ | ⟨same, -⟩ | ⟨same, -⟩
    · rw [same] at final
      exact final
    · rw [same] at final
      exact final
    · rw [same] at final
      exact final.2
  | opening n answer =>
    have final : Final (t.proceed n answer).log := final
    unfold proceed at final
    split at final
    · exact final
    · split at final
      · exact final
      · unfold finish at final
        simp only at final
        split at final
        · obtain ⟨link, same⟩ := resendPendingCommands_eq { t with link := t.link.finish n }
          rw [same] at final
          exact ((final_sentAll _).mp final).2
        · exact final
      · exact final
  | disconnect => exact (final_rejected _).mp final
  | message socket requestId status =>
    simp only [step] at final
    split at final
    · exact (final_handleReceipt requestId status).mp final
    · exact final
  | reconciled n requestId status =>
    simp only [step] at final
    split at final
    · exact (final_handleReceipt requestId status).mp final
    · exact final
  | timeOut call =>
    have final : Final (t.timeOut call).log := final
    rwa [timeOut_log] at final
  | queried call answer => exact (final_settleReceiptAfterTimeout call answer).mp final
  | opened socket =>
    simp only [step] at final
    split at final <;> exact final
  | connect | retryLink | reconnect | closeSocket | closed => exact final

theorem final_step_iff (inv : Inv t) (final : Final t.log) (e : Event) :
    Final (t.step e).log ↔ t.KeepsVerdicts e := by
  cases e with
  | sendCommand envelope keyed => exact final_sendCommand final envelope keyed
  | opening n answer => exact final_proceed inv final n answer
  | disconnect => exact iff_of_true ((final_rejected _).mpr final) trivial
  | message socket requestId status =>
    refine iff_of_true ?_ trivial
    simp only [step]
    split
    · exact (final_handleReceipt requestId status).mpr final
    · exact final
  | reconciled n requestId status =>
    refine iff_of_true ?_ trivial
    simp only [step]
    split
    · exact (final_handleReceipt requestId status).mpr final
    · exact final
  | timeOut call =>
    refine iff_of_true ?_ trivial
    show Final (t.timeOut call).log
    rwa [timeOut_log]
  | queried call answer =>
    exact iff_of_true ((final_settleReceiptAfterTimeout call answer).mpr final) trivial
  | opened socket =>
    refine iff_of_true ?_ trivial
    simp only [step]
    split <;> exact final
  | connect | retryLink | reconnect | closeSocket | closed => exact iff_of_true final trivial

theorem inv_step (inv : Inv t) (e : Event) (final : Final (t.step e).log) : Inv (t.step e) := by
  cases e with
  | sendCommand envelope keyed => exact inv_sendCommand inv envelope keyed final
  | opening n answer => exact inv_proceed inv n answer
  | disconnect => exact inv_disconnect inv
  | message socket requestId status =>
    simp only [step]
    split
    · exact inv_handleReceipt inv requestId status
    · exact inv
  | reconciled n requestId status =>
    simp only [step]
    split
    · exact inv_handleReceipt inv requestId status
    · exact inv
  | timeOut call => exact inv_timeOut inv call
  | queried call answer => exact inv_settleReceiptAfterTimeout inv call answer
  | opened socket =>
    simp only [step]
    split
    · exact inv_link inv _
    · exact inv
  | connect | retryLink | reconnect | closeSocket | closed => exact inv_link inv _

/-- For every run of the transport: no frame carries a request id after its verdict, in any
state that is reached, exactly when every command goes out under an id without a verdict and
no reconnect sends a command whose wait ran out with a verdict or whose call threw. -/
theorem silent_after_verdict_iff (events : List Event) :
    (∀ before after, events = before ++ after → Final (before.foldl step new).log) ↔
      Along step KeepsVerdicts new events := by
  have preserved (t : Transport) (e : Event) (inv : Final t.log → Inv t)
      (final : Final (t.step e).log) : Inv (t.step e) :=
    inv_step (inv (final_of_step e final)) e final
  have exact_ (t : Transport) (e : Event) (inv : Final t.log → Inv t) (final : Final t.log) :
      Final (t.step e).log ↔ t.KeepsVerdicts e := final_step_iff (inv final) final e
  exact Along.iff_reached preserved exact_ (fun _ => inv_new) trivial

/-! ## A run that sends after the verdict -/

section Late

/-- A connection is opened and the command goes out; its wait runs out, and the query finds
nothing. -/
def timedOutRun : List Event :=
  [.connect, .opening 0 .done, .opening 0 .done, .opened 0, .opening 0 .done, .opening 0 .done,
    .sendCommand ⟨"r", 100⟩ true, .timeOut 0, .queried 0 none]

/-- The connection is lost, and a new one comes up. -/
def reconnectedRun : List Event :=
  timedOutRun ++ [Event.closed 0 true, .reconnect, .opening 1 .done, .opened 1,
    .opening 1 .done, .opening 1 .done]

/-- The call has ended with `OUTCOME_UNKNOWN`, and its frame is sent a second time. -/
theorem sent_after_verdict :
    (reconnectedRun.foldl step new).log =
        [.sent "r", .settled "r" (.receipt .outcomeUnknown), .sent "r"] ∧
      ¬ Final (reconnectedRun.foldl step new).log := by
  have log : (reconnectedRun.foldl step new).log =
      [.sent "r", .settled "r" (.receipt .outcomeUnknown), .sent "r"] := by decide +kernel
  refine ⟨log, ?_⟩
  rw [log]
  intro final
  exact final.1 ⟨.receipt .outcomeUnknown, rfl, List.mem_cons_self⟩

end Late

end Transport

end AgentConsole.Web.Commands
