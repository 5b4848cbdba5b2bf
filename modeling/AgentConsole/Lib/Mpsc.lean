import Mathlib.Data.List.Basic

/-! # Bounded channels

A channel keeps what its senders gave it, at most `capacity` values, until the receiver takes
them in their order.  A receiver that is dropped leaves nothing behind; one that finds the
channel empty and no sender left is told that it has ended. -/

namespace AgentConsole.Lib

structure Mpsc (α : Type) (capacity : Nat) where
  queue : List α
  /-- A sender is left. -/
  sender : Bool
  receiver : Bool
  bounded : queue.length ≤ capacity
  dropped : receiver = false → queue = []

/-- What a sender is told at once. -/
inductive Sent where
  | ok
  | full
  | closed
  deriving DecidableEq, Repr

namespace Mpsc

variable {α : Type} {capacity : Nat}

def channel : Mpsc α capacity := ⟨[], true, true, Nat.zero_le _, by simp⟩

variable (c : Mpsc α capacity)

def push (value : α) (room : c.queue.length < capacity) (there : c.receiver = true) :
    Mpsc α capacity :=
  ⟨c.queue ++ [value], c.sender, c.receiver, by simpa using Nat.succ_le_of_lt room,
    fun gone => by simp [there] at gone⟩

def trySend (value : α) : Sent × Mpsc α capacity :=
  if there : c.receiver = true then
    if room : c.queue.length < capacity then (.ok, c.push value room there) else (.full, c)
  else (.closed, c)

/-- What the receiver is given: a value, or nothing more for ever; none where it has to wait. -/
def recv : Option (Option α × Mpsc α capacity) :=
  match values : c.queue with
  | value :: rest =>
    some (some value, ⟨rest, c.sender, c.receiver,
      Nat.le_of_succ_le (by simpa [values] using c.bounded),
      fun gone => by simpa [values] using c.dropped gone⟩)
  | [] => if c.sender then none else some (none, c)

def dropSender : Mpsc α capacity := { c with sender := false }

def dropReceiver : Mpsc α capacity := ⟨[], c.sender, false, Nat.zero_le _, fun _ => rfl⟩

variable {c : Mpsc α capacity} {c' : Mpsc α capacity} {value : α}

/-- A value that was sent is the last one of an open channel. -/
theorem trySend_ok (sent : c.trySend value = (.ok, c')) :
    c'.queue = c.queue ++ [value] ∧ c.receiver = true ∧ c'.receiver = true ∧
      c'.sender = c.sender ∧ c.queue.length < capacity := by
  unfold trySend at sent
  split at sent
  · next there =>
    split at sent
    · next room =>
      obtain rfl := (Prod.mk.inj sent).2
      exact ⟨rfl, there, there, rfl, room⟩
    · cases (Prod.mk.inj sent).1
  · cases (Prod.mk.inj sent).1

/-- A value that was refused changes nothing, and the channel is full or nobody receives. -/
theorem trySend_refused (refused : (c.trySend value).1 ≠ .ok) :
    (c.trySend value).2 = c ∧ (c.queue.length = capacity ∨ c.receiver = false) := by
  unfold trySend at refused ⊢
  split
  · next there =>
    split
    · next room => simp [there, room] at refused
    · next full => exact ⟨rfl, .inl (Nat.le_antisymm c.bounded (Nat.le_of_not_lt full))⟩
  · next gone => exact ⟨rfl, .inr (by simpa using gone)⟩

/-- A value that is taken was the first. -/
theorem recv_value (taken : c.recv = some (some value, c')) :
    c.queue = value :: c'.queue ∧ c'.sender = c.sender ∧ c'.receiver = c.receiver := by
  unfold recv at taken
  split at taken
  · next rest values =>
    simp only [Option.some.injEq, Prod.mk.injEq] at taken
    obtain ⟨rfl, rfl⟩ := taken
    exact ⟨values, rfl, rfl⟩
  · split at taken <;> simp at taken

/-- The end is told where nothing is kept and nobody can send. -/
theorem recv_end (taken : c.recv = some (none, c')) :
    c' = c ∧ c.queue = [] ∧ c.sender = false := by
  unfold recv at taken
  split at taken
  · simp at taken
  · next values =>
    split at taken
    · cases taken
    · next gone =>
      simp only [Option.some.injEq, Prod.mk.injEq, true_and] at taken
      exact ⟨taken.symm, values, by simpa using gone⟩

end Mpsc

end AgentConsole.Lib
