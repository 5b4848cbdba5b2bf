import AgentConsole.Lib.Run
import AgentConsole.Lib.Window

/-! # Push notifications

The relay reads the transitions of a session from the domain events of its detail and list
streams and notifies the owner of each.  It keeps no state of a session, only the time of
the last notification of a session and kind: an event within a minute of it counts as a
repetition, a later one as a transition.

A run is a list of arrivals.  Beside the event, an arrival says which transitions it
reports, so that a repeated report can be told from a new one. -/

namespace AgentConsole.Relay.Push

open AgentConsole.Lib

/-! ## Triggers -/

inductive PushEventKind where
  | turnCompleted | turnFailed | turnInterrupted | waitingQuestion | waitingApproval
  deriving DecidableEq, Repr

def PushEventKind.all : List PushEventKind :=
  [.turnCompleted, .turnFailed, .turnInterrupted, .waitingQuestion, .waitingApproval]

/-- `from_turn_outcome`, of the number on the wire. -/
def PushEventKind.fromTurnOutcome : Int → Option PushEventKind
  | 1 => some .turnCompleted
  | 2 => some .turnFailed
  | 3 => some .turnInterrupted
  | _ => none

/-- `pending_attention_added::Attention`, by the id of the question or approval. -/
inductive Attention where
  | question (id : String)
  | approval (id : String)
  deriving DecidableEq, Repr

/-- `domain_event::Event`, as far as it triggers anything. -/
inductive Event where
  | turnLifecycle (turn : String) (outcome : Int)
  | pendingAttentionAdded (attention : Option Attention)
  | sessionSummaryChanged (lastTurnOutcome : Int) (pendingAttentionCount : Nat)
      (pendingAttentionKinds : List Int)
  | other
  deriving DecidableEq, Repr

/-- `triggers_from_event`, for an event whose session is known. -/
def triggersFromEvent : Event → List PushEventKind
  | .turnLifecycle _ outcome => (PushEventKind.fromTurnOutcome outcome).toList
  | .pendingAttentionAdded (some (.question _)) => [.waitingQuestion]
  | .pendingAttentionAdded (some (.approval _)) => [.waitingApproval]
  | .pendingAttentionAdded none => []
  | .sessionSummaryChanged outcome count kinds =>
    (PushEventKind.fromTurnOutcome outcome).toList ++
      if count > 0 then
        (if 1 ∈ kinds then [.waitingQuestion] else []) ++
          (if 2 ∈ kinds then [.waitingApproval] else [])
      else []
  | .other => []

/-! ## Notifications -/

/-- `DEDUP_WINDOW`, in nanoseconds. -/
def dedupWindow : Nat := 60 * 10 ^ 9

/-- `DEDUP_MAX_ENTRIES` -/
def dedupMaxEntries : Nat := 4096

/-- The key a session's row is found by. -/
structure SessionRef where
  device : Nat
  agentKind : String
  nativeSessionId : String
  deriving DecidableEq, Repr

/-- The switches of `notification_settings`; a missing row has all of them on. -/
structure Settings where
  turnCompleted : Bool := true
  turnFailed : Bool := true
  turnInterrupted : Bool := true
  waitingQuestion : Bool := true
  waitingApproval : Bool := true
  deriving DecidableEq, Repr

def Settings.eventEnabled (settings : Settings) : PushEventKind → Bool
  | .turnCompleted => settings.turnCompleted
  | .turnFailed => settings.turnFailed
  | .turnInterrupted => settings.turnInterrupted
  | .waitingQuestion => settings.waitingQuestion
  | .waitingApproval => settings.waitingApproval

/-- What the database holds and answers while an event is handled. -/
structure Stored where
  muted : Bool := false
  settings : Settings := {}
  /-- `find_session` returns the row. -/
  rowRead : Bool := true
  /-- `load_settings` reads its row; otherwise it takes the defaults. -/
  settingsRead : Bool := true
  deriving DecidableEq, Repr

/-- `load_settings` -/
def Stored.loadSettings (stored : Stored) : Settings :=
  if stored.settingsRead then stored.settings else {}

/-- The checks of `notify` before the window. -/
def Stored.permits (stored : Stored) (kind : PushEventKind) : Bool :=
  stored.rowRead && !stored.muted && stored.loadSettings.eventEnabled kind

/-- `dedup`: the time of the last notification of a session and kind. -/
abbrev Dedup := FiniteMap (SessionRef × PushEventKind) Nat

/-- `dedup_allow` -/
def dedupAllow (dedup : Dedup) (now : Nat) (session : SessionRef) (kind : PushEventKind) :
    Bool × Dedup :=
  Window.allow dedupWindow dedupMaxEntries dedup now (session, kind)

/-- `notify` where a sender is configured: the kinds the owner is notified of, and the table
afterwards. -/
def notify (stored : Stored) (now : Nat) (session : SessionRef) :
    Dedup → List PushEventKind → List PushEventKind × Dedup
  | dedup, [] => ([], dedup)
  | dedup, kind :: rest =>
    if stored.permits kind then
      let (allowed, dedup) := dedupAllow dedup now session kind
      let (sent, dedup) := notify stored now session dedup rest
      (if allowed then kind :: sent else sent, dedup)
    else notify stored now session dedup rest

/-! ## Reports -/

/-- A change of a session's state that its owner is told of. -/
inductive Transition where
  | turnEnded (turn : String) (kind : PushEventKind)
  | questionPending (id : String)
  | approvalPending (id : String)
  deriving DecidableEq, Repr

def Transition.kind : Transition → PushEventKind
  | .turnEnded _ kind => kind
  | .questionPending _ => .waitingQuestion
  | .approvalPending _ => .waitingApproval

/-- The end of a turn, where its outcome is one the owner is told of. -/
def turnEnd (turn : String) (outcome : Int) : List Transition :=
  ((PushEventKind.fromTurnOutcome outcome).map (.turnEnded turn)).toList

/-- A state of a session as a summary shows it: the last turn that ended with its outcome,
and what waits for an answer. -/
structure Shown where
  lastTurn : Option (String × Int)
  questions : List String
  approvals : List String
  deriving DecidableEq, Repr

/-- What a Bridge reports of a session, on a detail or a list stream. -/
inductive Report where
  | lifecycle (turn : String) (outcome : Int)
  | attention (attention : Option Attention)
  | summary (shown : Shown)
  | other
  deriving DecidableEq, Repr

/-- The event of a report; a summary names each kind of pending attention once. -/
def Report.event : Report → Event
  | .lifecycle turn outcome => .turnLifecycle turn outcome
  | .attention added => .pendingAttentionAdded added
  | .summary shown =>
    .sessionSummaryChanged ((shown.lastTurn.map (·.2)).getD 0)
      (shown.questions.length + shown.approvals.length)
      ((if shown.questions = [] then [] else [1]) ++ (if shown.approvals = [] then [] else [2]))
  | .other => .other

/-- The transitions a report tells of, new or old. -/
def Report.tells : Report → List Transition
  | .lifecycle turn outcome => turnEnd turn outcome
  | .attention (some (.question id)) => [.questionPending id]
  | .attention (some (.approval id)) => [.approvalPending id]
  | .attention none => []
  | .summary shown =>
    (shown.lastTurn.map fun last => turnEnd last.1 last.2).getD [] ++
      shown.questions.map .questionPending ++ shown.approvals.map .approvalPending
  | .other => []

/-- An event as it reaches the relay, `after` nanoseconds after the one before it. -/
structure Arrival where
  after : Nat
  session : SessionRef
  report : Report
  stored : Stored := {}
  deriving DecidableEq, Repr

/-- The owner wants to be told of the kind: the session is not muted and the kind not off. -/
def Arrival.audible (a : Arrival) (kind : PushEventKind) : Bool :=
  !a.stored.muted && a.stored.settings.eventEnabled kind

/-! ## Runs -/

/-- The relay's table and clock, and the history: which transitions have been reported, and
when the owner was due to be told of which kind. -/
structure State where
  now : Nat := 0
  dedup : Dedup := ∅
  told : List (SessionRef × Transition) := []
  due : List (Nat × SessionRef × PushEventKind) := []

def State.time (s : State) (a : Arrival) : Nat := s.now + a.after

/-- The transitions of a kind that `a` is the first to report. -/
def State.fresh (s : State) (a : Arrival) (kind : PushEventKind) : List Transition :=
  (a.report.tells.filter fun t => t.kind = kind ∧ (a.session, t) ∉ s.told).dedup

/-- How many notifications of a kind the owner is due at `a`. -/
def State.owed (s : State) (a : Arrival) (kind : PushEventKind) : Nat :=
  if a.audible kind then (s.fresh a kind).length else 0

def State.handle (s : State) (a : Arrival) : List PushEventKind × Dedup :=
  notify a.stored (s.time a) a.session s.dedup (triggersFromEvent a.report.event)

/-- How many notifications of a kind `a` causes. -/
def State.notified (s : State) (a : Arrival) (kind : PushEventKind) : Nat :=
  (s.handle a).1.count kind

def step (s : State) (a : Arrival) : State where
  now := s.time a
  dedup := (s.handle a).2
  told := s.told ++ a.report.tells.map (a.session, ·)
  due := s.due ++ ((PushEventKind.all.filter fun kind => s.owed a kind ≠ 0).map
    fun kind => (s.time a, a.session, kind))

/-- Every kind is notified as often as it is due. -/
def Exact (s : State) (a : Arrival) : Prop := ∀ kind, s.notified a kind = s.owed a kind

/-- Nothing of the kind was due for the session within the window before `a`. -/
def State.quiet (s : State) (a : Arrival) (kind : PushEventKind) : Prop :=
  ∀ time, (time, a.session, kind) ∈ s.due → dedupWindow < s.time a - time

/-- The spacing that tells repetitions from transitions. -/
structure Spaced (s : State) (a : Arrival) (kind : PushEventKind) : Prop where
  /-- one event reports one transition of a kind -/
  single : s.owed a kind ≤ 1
  /-- a transition comes after a quiet window, and the row of its session is read -/
  apart : s.owed a kind ≠ 0 → a.stored.permits kind = true ∧ s.quiet a kind
  /-- a repetition comes within the window, or is not let through anyway -/
  close : kind ∈ triggersFromEvent a.report.event → s.owed a kind = 0 →
    a.stored.permits kind = true → ¬ s.quiet a kind

end AgentConsole.Relay.Push
