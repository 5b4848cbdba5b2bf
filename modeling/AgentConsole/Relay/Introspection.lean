import AgentConsole.Relay.Connections
import AgentConsole.Relay.Service

/-! # Introspection of browser sessions

`introspection_loop` as one more task next to those of the Relay.  A tick takes
a list of the connections, asks for each session once, closes what was refused
or has expired, and then starts, keeps or ends the degraded phase in which
commands are meant to be refused.  No other task changes the degraded mark. -/

namespace AgentConsole.Relay

open AgentConsole.Lib

/-- What the authentication service says of a session. -/
inductive IntrospectOutcome where
  | valid
  | invalid
  | unavailable
deriving DecidableEq

/-- An entry of `browser_sessions`. -/
structure BrowserSession where
  connId : Uuid
  sessionId : Uuid
  expiresAt : Nat
deriving DecidableEq

/-- Where a tick stands; each phase is named after the step made next. -/
inductive TickPhase where
  | asking (left : List BrowserSession)
  | closing (left : List (Uuid × String))
  | marking
  | clearing
deriving DecidableEq

/-- A running tick.  `asked` and `answers` are history variables: the clock reading
at which each connection was looked at, and what was said of each session. -/
structure Tick where
  sessions : List BrowserSession
  phase : TickPhase
  validSeen : List Uuid
  toClose : List (Uuid × String)
  unreachable : Bool
  asked : List (Uuid × Nat)
  answers : List (Uuid × IntrospectOutcome)
deriving DecidableEq

/-- The Relay with its introspection loop.  `issued` has the ids of all connections
there have been, a uuid being new each time, and `firstFailed` is the history
variable of the degraded phase: the end of the first failed tick since the last
one without a failure, or since all connections were closed. -/
structure Guarded where
  service : Service
  tick : Option Tick
  issued : List Uuid
  firstFailed : Option Nat

inductive GuardedInput where
  | service (step : ServiceStep)
  | beginTick
  | ask (now : Nat) (outcome : IntrospectOutcome)
  | close
  | mark (now : Nat)
  | clear

namespace Guarded

def new : Guarded where
  service := .new
  tick := none
  issued := []
  firstFailed := none

def hub (s : Guarded) : HubInner := s.service.hub

/-- A section of the loop on the hub. -/
def onHub (f : HubInner → HubInner) (s : Guarded) : Guarded :=
  { s with service := { s.service with hub := f s.service.hub } }

def setDegraded (degradedUntil : Option Nat) (s : Guarded) : Guarded :=
  s.onHub fun h => { h with degradedUntil }

/-- `browser_sessions`. -/
def browserSessions (h : HubInner) : List BrowserSession :=
  h.browsers.toList.map fun e => ⟨e.1, e.2.ident.authSessionId, e.2.ident.expiresAt⟩

/-- A step of another task. -/
def stepService (step : ServiceStep) (s : Guarded) : Guarded :=
  match step.op with
  | .hub (.setDegraded _) _ => s
  | .hub (.registerBrowser conn _) _ =>
    if conn ∈ s.issued then s
    else { s with service := s.service.step step, issued := conn :: s.issued }
  | _ => { s with service := s.service.step step }

/-- The next connection of the tick's list: past its expiry it is closed without a
question, and a session is asked for once. -/
def ask (now : Nat) (outcome : IntrospectOutcome) (t : Tick) : Tick :=
  match t.phase with
  | .asking [] => { t with phase := .closing t.toClose }
  | .asking (e :: left) =>
    let t := { t with phase := .asking left, asked := t.asked ++ [(e.connId, now)] }
    if e.expiresAt ≤ now then { t with toClose := t.toClose ++ [(e.connId, "AUTH_EXPIRED")] }
    else if e.sessionId ∈ t.validSeen then t
    else
      let t := { t with
        validSeen := e.sessionId :: t.validSeen
        answers := t.answers ++ [(e.sessionId, outcome)] }
      match outcome with
      | .valid => t
      | .invalid => { t with toClose := t.toClose ++
          (t.sessions.filter fun other => other.sessionId = e.sessionId).map fun other =>
            (other.connId, "AUTH_EXPIRED") }
      | .unavailable => { t with unreachable := true }
  | _ => t

/-- The end of a tick: a failure starts the grace period or, at its deadline, closes
all connections; a tick without a failure ends the degraded phase. -/
def mark (grace now : Nat) (t : Tick) (s : Guarded) : Guarded :=
  if t.unreachable then
    match s.hub.degradedUntil with
    | none =>
      { s.setDegraded (some (now + grace)) with
        tick := none
        firstFailed := some (s.firstFailed.getD now) }
    | some deadline =>
      if deadline ≤ now then
        { s.onHub HubInner.closeAllBrowsers with
          tick := some { t with phase := .clearing }
          firstFailed := none }
      else { s with tick := none, firstFailed := some (s.firstFailed.getD now) }
  else
    { s.setDegraded none with tick := none, firstFailed := none }

/-- `introspection_loop` with the grace period `grace`, among the other tasks. -/
def step (grace : Nat) (s : Guarded) (i : GuardedInput) : Guarded :=
  match i, s.tick with
  | .service step, _ => s.stepService step
  | .beginTick, none =>
    let sessions := browserSessions s.hub
    { s with tick := some ⟨sessions, .asking sessions, [], [], false, [], []⟩ }
  | .ask now outcome, some t => { s with tick := some (ask now outcome t) }
  | .close, some t =>
    match t.phase with
    | .closing [] => { s with tick := some { t with phase := .marking } }
    | .closing (e :: left) =>
      { s.onHub (·.closeBrowser e.1) with tick := some { t with phase := .closing left } }
    | _ => s
  | .mark now, some t => if t.phase = .marking then s.mark grace now t else s
  | .clear, some t => if t.phase = .clearing then { s.setDegraded none with tick := none } else s
  | _, _ => s

def run (grace : Nat) (inputs : List GuardedInput) : Guarded := inputs.foldl (step grace) .new

end Guarded

end AgentConsole.Relay
