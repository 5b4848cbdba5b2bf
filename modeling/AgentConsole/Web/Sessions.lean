import AgentConsole.Lib.Run

/-! # The list of sessions

Summaries of a session come from the pages of the HTTP list, from the refresh that looks for
canonical ids, and from the list stream.  `mergeSessions` writes each of them over the entry
of its session.

The Relay gives every session key one id, and the id that stands in for it before is made
from the key.  An id is therefore its key, with the form it has.  `applied` has the summaries
merged so far with the time the server produced them, a ghost. -/

namespace AgentConsole.Web.Sessions

open AgentConsole.Lib

/-! ## Summaries -/

structure SessionKey where
  deviceId : String
  agentKind : String
  nativeSessionId : String
  deriving DecidableEq, Repr

structure SessionId where
  key : SessionKey
  isUuid : Bool
  deriving DecidableEq, Repr

inductive DeviceConnection where
  | connecting | online | degraded | offline
  deriving DecidableEq, Repr

inductive ControlMode where
  | fullControl | limitedControl | readOnly | unavailable
  deriving DecidableEq, Repr

inductive CompatibilityState where
  | verified | degraded | unsupported
  deriving DecidableEq, Repr

inductive ActiveTurnPhase where
  | idle | running | finishing
  deriving DecidableEq, Repr

inductive LastTurnOutcome where
  | completed | failed | interrupted | unknown
  deriving DecidableEq, Repr

inductive QueueStatus where
  | empty | queued | paused
  deriving DecidableEq, Repr

/-- The fields every summary has; `updatedAt` as the time it stands for. -/
structure Fields where
  title : String
  projectDisplay : String
  branch : String
  updatedAt : Int
  deviceConnection : DeviceConnection
  controlMode : ControlMode
  compatibility : CompatibilityState
  phase : ActiveTurnPhase
  lastOutcome : LastTurnOutcome
  attentionCount : Nat
  queueStatus : QueueStatus
  pinned : Bool
  muted : Bool
  archived : Bool
  deriving DecidableEq, Repr

/-- `SessionSummary`; its key is that of the id. -/
structure SessionSummary where
  id : SessionId
  fields : Fields
  deviceLastSeenAt : Option String
  degradedReason : Option String
  deriving DecidableEq, Repr

namespace SessionSummary

def key (s : SessionSummary) : SessionKey := s.id.key

/-- The test with which `mergeSessions` looks for the entry of a session. -/
def matches_ (item session : SessionSummary) : Bool := item.id = session.id || item.key = session.key

def preferredId (existing session : SessionSummary) : SessionId :=
  if session.id.isUuid then session.id else existing.id

/-- `Object.assign`: a field that the summary does not have stays. -/
def assign (existing session : SessionSummary) : SessionSummary where
  id := existing.preferredId session
  fields := session.fields
  deviceLastSeenAt := session.deviceLastSeenAt <|> existing.deviceLastSeenAt
  degradedReason := session.degradedReason <|> existing.degradedReason

end SessionSummary

/-- A summary with the time at which the server produced it. -/
structure Report where
  summary : SessionSummary
  produced : Nat
  deriving DecidableEq, Repr

/-! ## Merging -/

structure Store where
  sessions : List SessionSummary
  runtimes : List SessionId
  applied : List Report
  deriving DecidableEq, Repr

/-- The entry of the session after the summary is assigned to it, or pushed. -/
def upsert (session : SessionSummary) : List SessionSummary → List SessionSummary
  | [] => [session]
  | item :: rest =>
    if item.matches_ session then item.assign session :: rest else item :: upsert session rest

namespace Store

def new : Store := ⟨[], [], []⟩

def existing (st : Store) (session : SessionSummary) : Option SessionSummary :=
  st.sessions.find? (·.matches_ session)

def targetId (st : Store) (session : SessionSummary) : SessionId :=
  match st.existing session with
  | some item => item.preferredId session
  | none => session.id

/-- The runtime of a session that got another id moves with it. -/
def moveRuntime (runtimes : List SessionId) (oldId preferredId : SessionId) : List SessionId :=
  if oldId ∈ runtimes then preferredId :: runtimes.filter (· ≠ oldId) else runtimes

/-- One turn of the loop of `mergeSessions`. -/
def mergeOne (st : Store) (report : Report) : Store where
  sessions := upsert report.summary st.sessions
  runtimes :=
    match st.existing report.summary with
    | some item =>
      let preferred := item.preferredId report.summary
      if item.id ≠ preferred then moveRuntime st.runtimes item.id preferred else st.runtimes
    | none => st.runtimes
  applied := report :: st.applied

/-- The loop, with the ids it has seen. -/
def mergeAll (st : Store) (seenIds : List SessionId) : List Report → Store × List SessionId
  | [] => (st, seenIds)
  | report :: rest =>
    (st.mergeOne report).mergeAll (st.targetId report.summary :: seenIds) rest

def sorted (sessions : List SessionSummary) : List SessionSummary :=
  sessions.mergeSort fun left right => right.fields.updatedAt ≤ left.fields.updatedAt

def mergeSessions (st : Store) (incoming : List Report) (snapshot : Bool) : Store :=
  let (merged, seenIds) := st.mergeAll [] incoming
  let kept :=
    if snapshot then
      merged.sessions.filter fun session => session.id ∈ seenIds || session.id ∈ merged.runtimes
    else merged.sessions
  { merged with sessions := sorted kept }

/-- What is applied to the list: a page of the HTTP list, the refresh for canonical ids, a
batch of the list stream, a changed summary of it; `runtime` when a session's runtime is
loaded. -/
inductive Event where
  | page (items : List Report)
  | canonicalRefresh (items : List Report)
  | summaryBatch (summaries : List Report) (snapshot : Bool)
  | summaryChanged (summary : Report)
  | runtime (id : SessionId)
  deriving DecidableEq, Repr

def step (st : Store) : Event → Store
  | .page items | .canonicalRefresh items => st.mergeSessions items false
  | .summaryBatch summaries snapshot => st.mergeSessions summaries snapshot
  | .summaryChanged summary => st.mergeSessions [summary] false
  | .runtime id => { st with runtimes := id :: st.runtimes }

end Store

/-! ## The newest summary -/

namespace Report

def key (r : Report) : SessionKey := r.summary.key

def updatedAt (r : Report) : Int := r.summary.fields.updatedAt

/-- The report is newer; of two with the same time, the one that was produced later. -/
def After (later earlier : Report) : Prop :=
  earlier.updatedAt < later.updatedAt ∨
    (earlier.updatedAt = later.updatedAt ∧ earlier.produced < later.produced)

end Report

/-- The entry has the fields of the summary. -/
structure SessionSummary.Shows (item s : SessionSummary) : Prop where
  fields : item.fields = s.fields
  deviceLastSeenAt : item.deviceLastSeenAt = s.deviceLastSeenAt
  degradedReason : item.degradedReason = s.degradedReason

/-- No applied report of its session is newer. -/
def NoneAfter (applied : List Report) (r : Report) : Prop :=
  ∀ other ∈ applied, other.key = r.key → ¬ other.After r

/-- The entries of the session show one of its newest reports. -/
def KeyFaithful (applied : List Report) (sessions : List SessionSummary) (key : SessionKey) : Prop :=
  ∀ item ∈ sessions, item.key = key →
    ∃ r ∈ applied, r.key = key ∧ NoneAfter applied r ∧ item.Shows r.summary

/-- Every entry shows the newest report of its session. -/
def Faithful (st : Store) : Prop := ∀ key, KeyFaithful st.applied st.sessions key

/-! ## The condition -/

/-- The report is as new as any before it, and has the optional fields that the entry has. -/
structure InOrder (st : Store) (report : Report) : Prop where
  newest : NoneAfter st.applied report
  keeps : ∀ item, st.existing report.summary = some item →
    (item.deviceLastSeenAt.isSome → report.summary.deviceLastSeenAt.isSome) ∧
      (item.degradedReason.isSome → report.summary.degradedReason.isSome)

/-- What the entry is after the report. -/
def written (st : Store) (report : Report) : SessionSummary :=
  match st.existing report.summary with
  | some item => item.assign report.summary
  | none => report.summary

/-- The report writes what a newest one before it says. -/
def Repeats (st : Store) (report : Report) : Prop :=
  ∃ r ∈ st.applied, r.key = report.key ∧ NoneAfter (report :: st.applied) r ∧
    (written st report).Shows r.summary

def Fits (st : Store) (report : Report) : Prop := InOrder st report ∨ Repeats st report

/-- Of each session, the last report of the batch fits. -/
def FitsLast (st : Store) : List Report → Prop
  | [] => True
  | report :: rest =>
    ((∀ later ∈ rest, later.key ≠ report.key) → Fits st report) ∧ FitsLast (st.mergeOne report) rest

def Forward (st : Store) : Store.Event → Prop
  | .page items | .canonicalRefresh items => FitsLast st items
  | .summaryBatch summaries _ => FitsLast st summaries
  | .summaryChanged summary => FitsLast st [summary]
  | .runtime _ => True

end AgentConsole.Web.Sessions
