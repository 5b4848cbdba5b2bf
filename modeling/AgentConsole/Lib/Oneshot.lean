import Mathlib.Logic.Basic

/-! # One-shot channels

A channel carries one value.  Its sender gives the value or is dropped, its receiver takes the
value or is dropped.  A value that was given is taken at most once, and one that is given to a
dropped receiver is given back. -/

namespace AgentConsole.Lib

inductive Oneshot (α : Type) where
  /-- Both ends are held and nothing was sent. -/
  | fresh
  | sent (value : α)
  /-- The sender was dropped without a value. -/
  | abandoned
  /-- The receiver has had its answer, or was dropped. -/
  | over
  deriving DecidableEq

/-- What a receiver gets. -/
inductive Received (α : Type) where
  | value (value : α)
  | closed
  deriving DecidableEq

namespace Oneshot

variable {α : Type} {channel : Oneshot α} {value : α}

/-- The receiver still waits for a value. -/
def isFresh : Oneshot α → Bool
  | fresh => true
  | _ => false

/-- The sender gives its value; it is told whether there is a receiver. -/
def send (value : α) : Oneshot α → Oneshot α
  | fresh => sent value
  | channel => channel

def dropSender : Oneshot α → Oneshot α
  | fresh => abandoned
  | channel => channel

/-- What the receiver finds, if it is ready. -/
def poll : Oneshot α → Option (Received α)
  | sent value => some (.value value)
  | abandoned => some .closed
  | .fresh | .over => none

theorem isFresh_iff : channel.isFresh = true ↔ channel = fresh := by
  cases channel <;> simp [isFresh]

theorem poll_value_iff : channel.poll = some (.value value) ↔ channel = sent value := by
  cases channel <;> simp [poll]

theorem poll_closed_iff : channel.poll = some .closed ↔ channel = abandoned := by
  cases channel <;> simp [poll]

/-- Dropping a sender takes no value back. -/
theorem dropSender_sent_iff : channel.dropSender = sent value ↔ channel = sent value := by
  cases channel <;> simp [dropSender]

/-- What a channel holds after a send was given to it, or was there before. -/
theorem send_sent_iff {new : α} : channel.send new = sent value ↔
    channel = sent value ∨ channel = fresh ∧ value = new := by
  cases channel <;> simp [send, eq_comm]

@[simp] theorem send_fresh : (fresh : Oneshot α).send value = sent value := rfl

end Oneshot

end AgentConsole.Lib
