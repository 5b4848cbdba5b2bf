import AgentConsole.Relay.Buffer

/-! # The send queue of a browser connection

A bounded FIFO that the hub fills under its lock and a writer task empties on
its own.  Frames are limited in number and bytes; direct messages may use a
reserve beyond that, and exhausting the reserve closes the connection.  Closing
drops the frames still queued and keeps the direct messages. -/

namespace AgentConsole.Relay

inductive OutItem where
  | frame (f : Frame)
  | direct (bytes : WireBytes)
  | close (reason : String)
deriving DecidableEq

inductive PushError where
  | slowConsumer
  | closed
deriving DecidableEq

def browserQueueMaxBytes : Nat := 16 * 1024 * 1024

def directReserveBytes : Nat := 1024 * 1024

/-- Closing a queue drops the frames and keeps the rest. -/
def OutItem.survivesClose : OutItem → Bool
  | .frame _ => false
  | _ => true

/-- `Outbox`.  `accepted` and `sent` are history variables, read by no
operation: every item the queue ever took, and every item its writer has taken
from it, in order. -/
structure Outbox where
  capacity : Nat
  maxBytes : Nat
  items : List OutItem
  frames : Nat
  bytes : Nat
  closed : Bool
  accepted : List OutItem
  sent : List OutItem

namespace Outbox

def new (capacity maxBytes : Nat) : Outbox :=
  { capacity, maxBytes, items := [], frames := 0, bytes := 0, closed := false,
    accepted := [], sent := [] }

/-- `close`: drop the queued frames, keep the direct messages, append the
close item. -/
def close (o : Outbox) (reason : String) : Outbox :=
  if o.closed then o
  else
    let kept := o.items.filter OutItem.survivesClose
    { o with
      closed := true
      items := kept ++ [.close reason]
      frames := 0
      bytes := (kept.map fun
        | .direct bytes => bytes.len
        | _ => 0).sum
      accepted := o.accepted ++ [.close reason] }

/-- `push_frame`. -/
def pushFrame (o : Outbox) (f : Frame) : Except PushError Outbox :=
  if o.closed then .error .closed
  else if o.capacity < o.frames + 1 ∨ o.maxBytes < o.bytes + f.bytesLen then .error .slowConsumer
  else .ok { o with
    bytes := o.bytes + f.bytesLen
    frames := o.frames + 1
    items := o.items ++ [.frame f]
    accepted := o.accepted ++ [.frame f] }

/-- `push_direct`; the flag says whether the message was queued. -/
def pushDirect (o : Outbox) (bytes : Option WireBytes) : Outbox × Bool :=
  if o.closed then (o, false)
  else
    match bytes with
    | none => (o, false)
    | some bytes =>
      if o.maxBytes + directReserveBytes < o.bytes + bytes.len then
        (o.close "OUTBOX_OVERLOAD", false)
      else
        ({ o with
          bytes := o.bytes + bytes.len
          items := o.items ++ [.direct bytes]
          accepted := o.accepted ++ [.direct bytes] }, true)

/-- One round of `recv` on a non-empty queue: the writer takes the oldest item. -/
def recv (o : Outbox) : Outbox :=
  match o.items with
  | [] => o
  | item :: rest =>
    let o := { o with items := rest, sent := o.sent ++ [item] }
    match item with
    | .frame f => { o with frames := o.frames - 1, bytes := o.bytes - f.bytesLen }
    | .direct bytes => { o with bytes := o.bytes - bytes.len }
    | .close _ => o

/-- The writer takes up to `n` items. -/
def drain : Nat → Outbox → Outbox
  | 0, o => o
  | n + 1, o => drain n o.recv

@[simp] theorem recv_accepted (o : Outbox) : o.recv.accepted = o.accepted := by
  unfold recv
  split
  · rfl
  · next item _ _ => cases item <;> rfl

@[simp] theorem recv_closed (o : Outbox) : o.recv.closed = o.closed := by
  unfold recv
  split
  · rfl
  · next item _ _ => cases item <;> rfl

/-- Taking an item moves it from the queue to the history. -/
theorem recv_sent (o : Outbox) : o.recv.sent ++ o.recv.items = o.sent ++ o.items := by
  unfold recv
  split
  · rfl
  · next item rest queued =>
    have moved : (o.sent ++ [item]) ++ rest = o.sent ++ o.items := by rw [queued]; simp
    cases item <;> exact moved

@[simp] theorem drain_accepted (n : Nat) (o : Outbox) : (o.drain n).accepted = o.accepted := by
  induction n generalizing o with
  | zero => rfl
  | succ n ih => simp [drain, ih]

@[simp] theorem drain_closed (n : Nat) (o : Outbox) : (o.drain n).closed = o.closed := by
  induction n generalizing o with
  | zero => rfl
  | succ n ih => simp [drain, ih]

@[simp] theorem close_closed (o : Outbox) (reason : String) : (o.close reason).closed = true := by
  unfold close; split <;> simp_all

theorem close_accepted_open {o : Outbox} (isOpen : o.closed = false) (reason : String) :
    (o.close reason).accepted = o.accepted ++ [.close reason] := by
  unfold close
  rw [if_neg (by simp [isOpen])]

theorem close_of_closed {o : Outbox} (isClosed : o.closed = true) (reason : String) :
    o.close reason = o := by
  unfold close
  rw [if_pos isClosed]

/-- A pushed frame is either queued on an open connection or refused with the
queue unchanged. -/
theorem pushFrame_cases (o : Outbox) (f : Frame) :
    (∃ o', o.pushFrame f = .ok o' ∧ o.closed = false ∧ o'.closed = false ∧
      o'.accepted = o.accepted ++ [.frame f]) ∨
    (o.pushFrame f = .error .closed ∧ o.closed = true) ∨
    (o.pushFrame f = .error .slowConsumer ∧ o.closed = false) := by
  unfold pushFrame
  by_cases isClosed : o.closed = true
  · rw [if_pos isClosed]
    exact .inr (.inl ⟨rfl, isClosed⟩)
  · rw [if_neg isClosed]
    have isOpen : o.closed = false := by simpa using isClosed
    split
    · exact .inr (.inr ⟨rfl, isOpen⟩)
    · exact .inl ⟨_, rfl, isOpen, isOpen, rfl⟩

/-- A direct message is queued, or refused on a closed queue or for empty
bytes, or refused by closing the connection. -/
theorem pushDirect_cases (o : Outbox) (bytes : Option WireBytes) :
    (∃ wire, bytes = some wire ∧ o.closed = false ∧ (o.pushDirect bytes).2 = true ∧
      (o.pushDirect bytes).1.closed = false ∧
      (o.pushDirect bytes).1.accepted = o.accepted ++ [.direct wire]) ∨
    (o.pushDirect bytes = (o, false) ∧ (o.closed = true ∨ bytes = none)) ∨
    (o.pushDirect bytes = (o.close "OUTBOX_OVERLOAD", false) ∧ o.closed = false) := by
  unfold pushDirect
  by_cases isClosed : o.closed = true
  · rw [if_pos isClosed]
    exact .inr (.inl ⟨rfl, .inl isClosed⟩)
  · rw [if_neg isClosed]
    have isOpen : o.closed = false := by simpa using isClosed
    cases bytes with
    | none => exact .inr (.inl ⟨rfl, .inr rfl⟩)
    | some wire =>
      dsimp only
      split
      · exact .inr (.inr ⟨rfl, isOpen⟩)
      · exact .inl ⟨wire, rfl, isOpen, rfl, isOpen, rfl⟩

/-! ## What the writer gets -/

/-- The writer gets the accepted items in order; after a close, those still
queued lose their frames. -/
def Ordered (o : Outbox) : Prop :=
  ∃ before rest, o.accepted = before ++ rest ∧
    o.sent ++ o.items = before ++ rest.filter OutItem.survivesClose ∧
    (o.closed = false → rest = [])

namespace Ordered

variable {o : Outbox}

theorem new (capacity maxBytes : Nat) : (Outbox.new capacity maxBytes).Ordered :=
  ⟨[], [], rfl, rfl, fun _ => rfl⟩

theorem drain (ordered : o.Ordered) (n : Nat) : (o.drain n).Ordered := by
  induction n generalizing o with
  | zero => exact ordered
  | succ n inductionHypothesis =>
    refine inductionHypothesis ?_
    obtain ⟨before, rest, history, queued, isOpen⟩ := ordered
    exact ⟨before, rest, by rw [recv_accepted]; exact history, by rw [recv_sent]; exact queued,
      by rw [recv_closed]; exact isOpen⟩

/-- On an open queue nothing is lost. -/
theorem of_open (ordered : o.Ordered) (isOpen : o.closed = false) :
    o.sent ++ o.items = o.accepted := by
  obtain ⟨before, rest, history, queued, none⟩ := ordered
  rw [history, queued, none isOpen]
  rfl

/-- Queueing one more item on an open queue. -/
theorem queue (ordered : o.Ordered) (isOpen : o.closed = false) {o' : Outbox} (item : OutItem)
    (accepted : o'.accepted = o.accepted ++ [item]) (sent : o'.sent = o.sent)
    (items : o'.items = o.items ++ [item]) : o'.Ordered := by
  refine ⟨o'.accepted, [], by simp, ?_, fun _ => rfl⟩
  rw [sent, items, accepted, ← ordered.of_open isOpen]
  simp

theorem pushFrame (ordered : o.Ordered) {f : Frame} {o' : Outbox}
    (pushed : o.pushFrame f = .ok o') : o'.Ordered := by
  unfold Outbox.pushFrame at pushed
  split at pushed
  · cases pushed
  · next isOpen =>
    split at pushed
    · cases pushed
    · cases pushed
      exact ordered.queue (by simpa using isOpen) (.frame f) rfl rfl rfl

theorem close (ordered : o.Ordered) (reason : String) : (o.close reason).Ordered := by
  unfold Outbox.close
  split
  · exact ordered
  · next isOpen =>
    have all := ordered.of_open (by simpa using isOpen)
    refine ⟨o.sent, o.items ++ [.close reason], ?_, ?_, by simp⟩
    · dsimp only
      rw [← all, List.append_assoc]
    · dsimp only
      rw [List.filter_append]
      rfl

theorem pushDirect (ordered : o.Ordered) (bytes : Option WireBytes) :
    (o.pushDirect bytes).1.Ordered := by
  unfold Outbox.pushDirect
  split
  · exact ordered
  · next isOpen =>
    split
    · exact ordered
    · next wire =>
      split
      · exact ordered.close _
      · exact ordered.queue (by simpa using isOpen) (.direct wire) rfl rfl rfl

end Ordered

end Outbox

end AgentConsole.Relay
