import AgentConsole.Lib.FiniteMap
import AgentConsole.Web.SessionsNewest

/-! # List snapshots of several devices

`mergeSessions` over the whole store: next to the entries there are the runtimes that are open,
the cursors of their histories and which histories are loading, each under the id of its
session.  A session that gets its canonical id takes them along; a session that a snapshot
removes gives them up.

The list stream of an owner brings one snapshot for each device. -/

namespace AgentConsole.Web.Sessions

open AgentConsole.Lib

/-- A runtime in the store, with what else it holds. -/
structure OpenRuntime (R : Type) where
  sessionId : SessionId
  content : R

structure Lists (R : Type) where
  sessions : List SessionSummary
  runtimes : FiniteMap SessionId (OpenRuntime R)
  historyCursors : FiniteMap SessionId (Option String)
  historyLoading : FiniteMap SessionId Bool

/-- `record[newId] = change(record[oldId])`, `delete record[oldId]`, if there is one -/
def rekey {V : Type} (record : FiniteMap SessionId V) (oldId newId : SessionId) (change : V → V) :
    FiniteMap SessionId V :=
  match record.get? oldId with
  | some value => (record.insert newId (change value)).erase oldId
  | none => record

namespace Lists

variable {R : Type}

def existing (l : Lists R) (session : SessionSummary) : Option SessionSummary :=
  l.sessions.find? (·.matches_ session)

def targetId (l : Lists R) (session : SessionSummary) : SessionId :=
  match l.existing session with
  | some item => item.preferredId session
  | none => session.id

/-- What is recorded for a session that gets another id. -/
def move (l : Lists R) (oldId preferredId : SessionId) : Lists R :=
  { l with
    runtimes := rekey l.runtimes oldId preferredId fun r => { r with sessionId := preferredId }
    historyCursors := rekey l.historyCursors oldId preferredId id
    historyLoading := rekey l.historyLoading oldId preferredId id }

/-- One turn of the loop of `mergeSessions`. -/
def mergeOne (l : Lists R) (session : SessionSummary) : Lists R :=
  let moved :=
    match l.existing session with
    | some item =>
      if item.id ≠ item.preferredId session then l.move item.id (item.preferredId session) else l
    | none => l
  { moved with sessions := upsert session l.sessions }

/-- The loop, with the ids it has seen. -/
def mergeAll (l : Lists R) (seenIds : List SessionId) : List SessionSummary → Lists R × List SessionId
  | [] => (l, seenIds)
  | session :: rest => (l.mergeOne session).mergeAll (l.targetId session :: seenIds) rest

def isOpen (l : Lists R) (id : SessionId) : Bool := l.runtimes.contains id

/-- Of what was merged, a snapshot removes what it has not named and is not open. -/
def retainSeen (l : Lists R) (seenIds : List SessionId) : Lists R :=
  let removed := (l.sessions.filter fun session => session.id ∉ seenIds && !l.isOpen session.id).map (·.id)
  { sessions := l.sessions.filter fun session => session.id ∈ seenIds || l.isOpen session.id
    runtimes := l.runtimes.filter fun id _ => id ∉ removed
    historyCursors := l.historyCursors.filter fun id _ => id ∉ removed
    historyLoading := l.historyLoading.filter fun id _ => id ∉ removed }

def mergeSessions (l : Lists R) (incoming : List SessionSummary) (snapshot : Bool) : Lists R :=
  let (merged, seenIds) := l.mergeAll [] incoming
  let kept := if snapshot then merged.retainSeen seenIds else merged
  { kept with sessions := Store.sorted kept.sessions }

end Lists

/-- What the list stream brings of one device. -/
structure DeviceSnapshot where
  device : String
  sessions : List SessionSummary
  own : ∀ session ∈ sessions, session.key.deviceId = device

variable {R : Type}

def DeviceSnapshot.applyTo (l : Lists R) (snapshot : DeviceSnapshot) : Lists R :=
  l.mergeSessions snapshot.sessions true

/-! ## What is promised -/

/-- Everything recorded under the provisional id of a session is found under its canonical
one. -/
structure Found (before after : Lists R) (key : SessionKey) : Prop where
  runtimes : ∀ runtime, before.runtimes.get? ⟨key, false⟩ = some runtime →
    after.runtimes.get? ⟨key, true⟩ = some { runtime with sessionId := ⟨key, true⟩ }
  historyCursors : ∀ cursor, before.historyCursors.get? ⟨key, false⟩ = some cursor →
    after.historyCursors.get? ⟨key, true⟩ = some cursor
  historyLoading : ∀ loading, before.historyLoading.get? ⟨key, false⟩ = some loading →
    after.historyLoading.get? ⟨key, true⟩ = some loading

/-- A snapshot leaves the sessions of other devices in place and one entry for each session, and
what was recorded under a provisional id when the canonical one was merged is found there. -/
structure Keeps (l : Lists R) (snapshot : DeviceSnapshot) : Prop where
  others : ∀ item ∈ l.sessions, item.key.deviceId ≠ snapshot.device →
    item ∈ (snapshot.applyTo l).sessions
  one : OnePerKey (snapshot.applyTo l).sessions
  found : ∀ front session back, snapshot.sessions = front ++ session :: back →
    session.id.isUuid = true →
      Found (l.mergeAll [] front).1 (snapshot.applyTo l) session.key

def SameSessions (l l' : Lists R) : Prop := ∀ item, item ∈ l.sessions ↔ item ∈ l'.sessions

/-- In whatever order the snapshots are applied, each keeps what it must, and in all orders the
sessions are the same. -/
def InAnyOrder (l : Lists R) (snapshots : List DeviceSnapshot) : Prop :=
  ∀ order : List DeviceSnapshot, order.Perm snapshots →
    Along DeviceSnapshot.applyTo Keeps l order ∧
    ∀ other : List DeviceSnapshot, other.Perm snapshots →
      SameSessions (order.foldl DeviceSnapshot.applyTo l) (other.foldl DeviceSnapshot.applyTo l)

/-- The condition on the store before a snapshot is applied: the sessions of other devices in the
list are all open; and when a canonical id is merged, the entry of the session still has the
provisional one, or what is recorded there is already under the canonical one too. -/
structure Meets (l : Lists R) (snapshot : DeviceSnapshot) : Prop where
  open_ : ∀ item ∈ l.sessions, item.key.deviceId ≠ snapshot.device → l.isOpen item.id = true
  provisional : ∀ front session back, snapshot.sessions = front ++ session :: back →
    session.id.isUuid = true →
      (∃ item ∈ (l.mergeAll [] front).1.sessions, item.id = ⟨session.key, false⟩) ∨
        Found (l.mergeAll [] front).1 (l.mergeAll [] front).1 session.key

end AgentConsole.Web.Sessions
