import AgentConsole.Lib.Run
import AgentConsole.Relay.Outbox

/-! # Runs of a send queue

The hub pushes and closes, the writer receives, in any order.  The counters follow the
queue, the budgets hold, and the writer gets what was accepted: everything in order while
the queue is open, and after a close the direct messages that were waiting and the `Close`
behind them. -/

namespace AgentConsole.Relay

open AgentConsole.Lib

inductive OutboxOp where
  | pushFrame (f : Frame)
  | pushDirect (bytes : Option WireBytes)
  | close (reason : String)
  | recv

namespace OutItem

/-- The bytes an item is counted with. -/
def size : OutItem → Nat
  | .frame f => f.bytesLen
  | .direct bytes => bytes.len
  | .close _ => 0

def isFrame : OutItem → Bool
  | .frame _ => true
  | _ => false

def isClose : OutItem → Bool
  | .close _ => true
  | _ => false

theorem survivesClose_eq (item : OutItem) : item.survivesClose = !item.isFrame := by
  cases item <;> rfl

end OutItem

namespace Outbox

/-- One call.  A refused frame leaves the queue as it is; `recv` on an empty queue waits, or
returns nothing after a close. -/
def step (o : Outbox) : OutboxOp → Outbox
  | .pushFrame f => (o.pushFrame f).toOption.getD o
  | .pushDirect bytes => (o.pushDirect bytes).1
  | .close reason => o.close reason
  | .recv => o.recv

theorem step_pushFrame {o : Outbox} {f : Frame} {result : Except PushError Outbox}
    (pushed : o.pushFrame f = result) :
    o.step (.pushFrame f) = result.toOption.getD o := by
  rw [← pushed]
  rfl

/-- What closing an open queue leaves. -/
theorem close_open {o : Outbox} (isOpen : o.closed = false) (reason : String) :
    (o.close reason).items = o.items.filter OutItem.survivesClose ++ [.close reason] ∧
      (o.close reason).frames = 0 ∧
      (o.close reason).bytes =
        ((o.items.filter OutItem.survivesClose).map OutItem.size).sum ∧
      (o.close reason).maxBytes = o.maxBytes := by
  unfold close
  rw [if_neg (by simp [isOpen])]
  refine ⟨rfl, rfl, congrArg List.sum (List.map_congr_left fun item member => ?_), rfl⟩
  have survives := (List.mem_filter.mp member).2
  cases item with
  | frame f => cases survives
  | direct bytes => rfl
  | close reason => rfl

/-- The counters say what is queued, and the budgets hold. -/
structure Bounded (o : Outbox) : Prop where
  frames : o.frames = o.items.countP OutItem.isFrame
  bytes : o.bytes = (o.items.map OutItem.size).sum
  capacity : o.frames ≤ o.capacity
  budget : o.bytes ≤ o.maxBytes + directReserveBytes

namespace Bounded

variable {o : Outbox}

theorem new (capacity maxBytes : Nat) : (Outbox.new capacity maxBytes).Bounded where
  frames := rfl
  bytes := rfl
  capacity := Nat.zero_le _
  budget := Nat.zero_le _

theorem pushFrame (bounded : o.Bounded) {f : Frame} {o' : Outbox}
    (pushed : o.pushFrame f = .ok o') : o'.Bounded := by
  unfold Outbox.pushFrame at pushed
  split at pushed
  · cases pushed
  · split at pushed
    · cases pushed
    · next fits =>
      cases pushed
      push Not at fits
      have frames := bounded.frames
      have bytes := bounded.bytes
      constructor
      · simp [List.countP_append, OutItem.isFrame, frames]
      · simp [OutItem.size, bytes]
      · show o.frames + 1 ≤ o.capacity
        omega
      · show o.bytes + f.bytesLen ≤ o.maxBytes + directReserveBytes
        omega

/-- Closing keeps the direct messages, which were counted before. -/
theorem close (bounded : o.Bounded) (reason : String) : (o.close reason).Bounded := by
  cases closed : o.closed with
  | true =>
    rw [close_of_closed closed]
    exact bounded
  | false =>
    obtain ⟨items, frames, bytes, limits⟩ := close_open closed reason
    have fewer : ((o.items.filter OutItem.survivesClose).map OutItem.size).sum ≤
        (o.items.map OutItem.size).sum :=
      (List.filter_sublist.map OutItem.size).sum_le_sum fun _ _ => Nat.zero_le _
    have counted := bounded.bytes
    have budget := bounded.budget
    constructor
    · rw [items, frames]
      simp [List.countP_append, OutItem.isFrame, List.countP_filter, OutItem.survivesClose_eq]
    · rw [items, bytes]
      simp [OutItem.size]
    · rw [frames]
      exact Nat.zero_le _
    · rw [bytes, limits]
      omega

theorem pushDirect (bounded : o.Bounded) (bytes : Option WireBytes) :
    (o.pushDirect bytes).1.Bounded := by
  unfold Outbox.pushDirect
  split
  · exact bounded
  · split
    · exact bounded
    · next wire =>
      split
      · exact bounded.close _
      · next fits =>
        have frames := bounded.frames
        have counted := bounded.bytes
        constructor
        · simp [List.countP_append, OutItem.isFrame, frames]
        · simp [OutItem.size, counted]
        · exact bounded.capacity
        · show o.bytes + wire.len ≤ o.maxBytes + directReserveBytes
          omega

theorem recv (bounded : o.Bounded) : o.recv.Bounded := by
  have frames := bounded.frames
  have bytes := bounded.bytes
  have capacity := bounded.capacity
  have budget := bounded.budget
  unfold Outbox.recv
  split
  · exact bounded
  · next item rest queued =>
    rw [queued] at frames bytes
    cases item with
    | frame f =>
      simp only [List.countP_cons, OutItem.isFrame, if_true, List.map_cons, List.sum_cons,
        OutItem.size] at frames bytes
      constructor
      · show o.frames - 1 = rest.countP OutItem.isFrame
        omega
      · show o.bytes - f.bytesLen = (rest.map OutItem.size).sum
        omega
      · show o.frames - 1 ≤ o.capacity
        omega
      · show o.bytes - f.bytesLen ≤ o.maxBytes + directReserveBytes
        omega
    | direct wire =>
      simp only [List.countP_cons, OutItem.isFrame, Bool.false_eq_true, if_false, List.map_cons,
        List.sum_cons, OutItem.size] at frames bytes
      constructor
      · show o.frames = rest.countP OutItem.isFrame
        omega
      · show o.bytes - wire.len = (rest.map OutItem.size).sum
        omega
      · exact capacity
      · show o.bytes - wire.len ≤ o.maxBytes + directReserveBytes
        omega
    | close reason =>
      simp only [List.countP_cons, OutItem.isFrame, Bool.false_eq_true, if_false, List.map_cons,
        List.sum_cons, OutItem.size] at frames bytes
      exact ⟨by simpa using frames, by simpa using bytes, capacity, budget⟩

theorem step (bounded : o.Bounded) (op : OutboxOp) : (o.step op).Bounded := by
  cases op with
  | pushFrame f =>
    cases pushed : o.pushFrame f with
    | error refused =>
      rw [step_pushFrame pushed]
      exact bounded
    | ok o' =>
      rw [step_pushFrame pushed]
      exact bounded.pushFrame pushed
  | pushDirect bytes => exact bounded.pushDirect bytes
  | close reason => exact bounded.close reason
  | recv => exact bounded.recv

end Bounded

/-! ## What a step does to the items -/

variable {o : Outbox}

/-- The queue after a run of calls. -/
def run (o : Outbox) (ops : List OutboxOp) : Outbox := ops.foldl step o

/-- A call closes the queue: what was delivered stays delivered, the frames that wait are
dropped, and the rest of the run delivers the direct messages and one `Close`. -/
structure Closes (p o : Outbox) (reason : String) : Prop where
  closed : o.closed = true
  accepted : o.accepted = p.accepted ++ [.close reason]
  delivered : o.sent ++ o.items =
    p.sent ++ p.items.filter (fun item => !item.isFrame) ++ [.close reason]
  single : ∀ item ∈ p.sent ++ p.items, item.isClose = false

/-- What is promised of the queue after the calls `ops`. -/
structure Delivers (capacity maxBytes : Nat) (ops : List OutboxOp) (o : Outbox) : Prop where
  bounded : o.Bounded
  limits : o.capacity = capacity ∧ o.maxBytes = maxBytes
  -- `recv` gives the oldest item
  oldest : (o.step .recv).sent = o.sent ++ o.items.head?.toList
  fifo : o.closed = false → o.sent ++ o.items = o.accepted
  refuses : o.closed = true → ∀ f bytes reason, o.pushFrame f = .error .closed ∧
    o.pushDirect bytes = (o, false) ∧ o.close reason = o
  closing : ∀ before op after, ops = before ++ op :: after →
    ((Outbox.new capacity maxBytes).run before).closed = false →
    (((Outbox.new capacity maxBytes).run before).step op).closed = true →
    ∃ reason, Closes ((Outbox.new capacity maxBytes).run before) o reason
  opening : o.closed = true → ∃ before op after, ops = before ++ op :: after ∧
    ((Outbox.new capacity maxBytes).run before).closed = false ∧
    (((Outbox.new capacity maxBytes).run before).step op).closed = true

end Outbox

end AgentConsole.Relay
