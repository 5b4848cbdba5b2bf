import AgentConsole.Relay.Protocol

/-! # The life of one request

An automaton for one request id, over all that concerns it: the command table,
the stored receipt, the receipt writes under way, the terminal answers and the
tasks that hold it.  The steps of the Relay are steps of this automaton as long
as every answer finds its request open; its invariant `Sound` gives at most one
terminal answer and a stable terminal status. -/

namespace AgentConsole.Relay

/-- What the task of an accepted command has still to do. -/
inductive CommandStage where
  | admitted
  | dispatching
  | rejecting
deriving DecidableEq

/-- One request id: whether it is in the command table, the stored status, the
statuses that unfinished writes will store, the terminal answers so far, and the
tasks that hold it. -/
structure Ticket where
  pending : Prop
  status : Option ReceiptStatus
  writes : ReceiptStatus → Prop
  finals : Nat
  holders : Nat → CommandStage → Prop

namespace Ticket

/-- What one step of the Relay can do to a request. -/
inductive Step (t t' : Ticket) : Prop where
  | stays (pending : t'.pending ↔ t.pending) (status : t'.status = t.status)
      (writes : ∀ st, t'.writes st → t.writes st) (finals : t'.finals = t.finals)
      (holders : ∀ id stage, t'.holders id stage → t.holders id stage)
  | written (st : ReceiptStatus) (was : t.writes st) (pending : t'.pending ↔ t.pending)
      (status : t'.status = t.status.map fun _ => st)
      (writes : ∀ st, t'.writes st → t.writes st) (finals : t'.finals = t.finals)
      (holders : ∀ id stage, t'.holders id stage → t.holders id stage)
  | answered (st : ReceiptStatus) (inner : st.terminal = false) (open_ : t.pending)
      (pending : t'.pending) (status : t'.status = t.status)
      (writes : ∀ st', t'.writes st' → t.writes st' ∨ st' = st) (finals : t'.finals = t.finals)
      (holders : ∀ id stage, t'.holders id stage → t.holders id stage)
  | closed (st : ReceiptStatus) (terminal : st.terminal = true) (open_ : t.pending)
      (quiet : ∀ st, ¬ t.writes st) (pending : ¬ t'.pending) (status : t'.status = t.status)
      (writes : ∀ st', t'.writes st' → st' = st) (finals : t'.finals = t.finals + 1)
      (holders : ∀ id stage, t'.holders id stage → t.holders id stage)
  | admitted (id : Nat) (fresh : t.status = none) (pending : t'.pending ↔ t.pending)
      (status : t'.status = some .received)
      (writes : ∀ st, t'.writes st → t.writes st) (finals : t'.finals = t.finals)
      (holders : ∀ id' stage, t'.holders id' stage →
        t.holders id' stage ∨ id' = id ∧ stage = .admitted)
  | opened (id : Nat) (holder : t.holders id .admitted) (pending : t'.pending)
      (status : t'.status = t.status)
      (writes : ∀ st, t'.writes st → t.writes st) (finals : t'.finals = t.finals)
      (holders : ∀ id' stage, t'.holders id' stage →
        id' ≠ id ∧ t.holders id' stage ∨ id' = id ∧ stage = .dispatching)
  | takenBack (id : Nat) (holder : t.holders id .dispatching) (open_ : t.pending)
      (quiet : ∀ st, ¬ t.writes st) (pending : ¬ t'.pending) (status : t'.status = t.status)
      (writes : ∀ st', t'.writes st' → st' = .rejected) (finals : t'.finals = t.finals)
      (holders : ∀ id' stage, t'.holders id' stage →
        id' ≠ id ∧ t.holders id' stage ∨ id' = id ∧ stage = .rejecting)
  | replied (id : Nat) (holder : t.holders id .rejecting) (pending : t'.pending ↔ t.pending)
      (status : t'.status = t.status)
      (writes : ∀ st, t'.writes st → t.writes st) (finals : t'.finals = t.finals + 1)
      (holders : ∀ id' stage, t'.holders id' stage → id' ≠ id ∧ t.holders id' stage)

/-- The request is accounted for: nothing is known of an id without a receipt;
while the request is open nothing terminal has happened to it; once it is not,
all that is still to be written agrees. -/
structure Sound (t : Ticket) : Prop where
  known : t.status = none → ¬ t.pending ∧ (∀ st, ¬ t.writes st) ∧ t.finals = 0 ∧
    ∀ id stage, ¬ t.holders id stage
  open_ : t.pending → t.finals = 0 ∧ (∀ st, t.status = some st → st.terminal = false) ∧
    (∀ st, t.writes st → st.terminal = false) ∧ ∀ id stage, t.holders id stage →
      stage = .dispatching
  loose : ∀ st, t.writes st → st.terminal = false → t.pending
  agree : ∀ st st', t.writes st → t.writes st' → st.terminal = true → st' = st
  agreeRow : ∀ st st', t.writes st → t.status = some st' → st'.terminal = true → st = st'
  once : t.finals ≤ 1
  unique : ∀ id stage id' stage', t.holders id stage → t.holders id' stage' →
    id = id' ∧ stage = stage'
  admitted : ∀ id, t.holders id .admitted → ¬ t.pending ∧ t.finals = 0 ∧
    (∀ st, ¬ t.writes st) ∧ ∀ st, t.status = some st → st.terminal = false
  rejecting : ∀ id, t.holders id .rejecting → t.finals = 0

variable {t t' : Ticket}

theorem Sound.step (sound : t.Sound) (move : t.Step t') : t'.Sound := by
  obtain ⟨known, open_, loose, agree, agreeRow, once, unique, admitted, rejecting⟩ := sound
  cases move with
  | written st was pending status writes finals holders =>
    -- something is written, so the receipt exists; all writes store the same terminal status
    obtain ⟨old, present⟩ : ∃ old, t.status = some old := by
      cases row : t.status with
      | none => exact absurd was ((known row).2.1 st)
      | some old => exact ⟨old, rfl⟩
    have stored : t'.status = some st := by rw [status, present]; rfl
    clear status
    constructor <;> grind
  | admitted id fresh pending status writes finals holders =>
    -- nothing was known of the id, so the new row and the new task are all there is
    obtain ⟨notPending, noWrites, noFinals, noHolders⟩ := known fresh
    have inner : ReceiptStatus.received.terminal = false := rfl
    constructor <;> grind
  | takenBack id holder open_ quiet pending status writes finals holders =>
    have terminal : ReceiptStatus.rejected.terminal = true := rfl
    constructor <;> grind
  | stays | answered | closed | opened | replied => constructor <;> grind

end Ticket

end AgentConsole.Relay
