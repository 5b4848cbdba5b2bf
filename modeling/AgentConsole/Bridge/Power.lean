import AgentConsole.Lib.FiniteMap
import AgentConsole.Lib.Run

/-! # The sleep assertion

`PowerCoordinator` keeps one activity state for the whole Bridge.  The watcher of a session
writes the flags of that session into it, `update_power_state` the totals over all caches, and
the power source is set from outside; each of them then runs `WakePolicy::update` with the
state it has read.  The lock is not held in between, so that an update is a task of several
steps: it reads the held mode, takes the handle, waits for the supervisor to kill the process,
and spawns the next one in three more steps.

Leaves out the argv of the process, its Drop, the release on shutdown, the capacity of
channels and what the caches hold besides the activity. -/

namespace AgentConsole.Bridge

open AgentConsole.Lib

namespace Power

inductive PowerSource
  | ac
  | battery
deriving DecidableEq, Repr

def shouldHold (source : PowerSource) (turnActive attentionPending : Bool) : Bool :=
  match source with
  | .ac => true
  | .battery => turnActive || attentionPending

structure ActivityState where
  source : PowerSource
  turnActive : Bool
  attentionPending : Bool
deriving DecidableEq, Repr

namespace ActivityState

def busy (state : ActivityState) : Bool := state.turnActive || state.attentionPending

def holds (state : ActivityState) : Bool :=
  shouldHold state.source state.turnActive state.attentionPending

end ActivityState

/-! ## The policy -/

/-- `AssertionHandle`; the generation names the supervisor that the kill channel leads to. -/
structure AssertionHandle where
  mode : PowerSource
  supervisor : Nat
deriving DecidableEq, Repr

/-- `Inner` of `WakePolicy`, with the tasks and processes of the spawns so far, each named by
its generation. -/
structure WakePolicy where
  assertion : Option AssertionHandle := none
  generation : Nat := 0
  /-- Supervisors that wait for their process to exit or to be killed. -/
  supervisors : List Nat := []
  /-- Supervisors that have yet to look at the assertion. -/
  ended : List Nat := []
  /-- Processes that are alive. -/
  processes : List Nat := []
deriving DecidableEq, Repr

/-- Where `update` can be interrupted. -/
inductive Work
  /-- The held mode is not read yet. -/
  | sync
  | release (spawns : Bool)
  /-- The handle is taken, and the kill is sent. -/
  | kill (supervisor : Nat) (spawns : Bool)
  | launch
  | birth (generation : Nat)
  | store (generation : Nat)
deriving DecidableEq, Repr

namespace Work

/-- After `release`. -/
def released (spawns : Bool) : Option Work := if spawns then some .launch else none

end Work

namespace WakePolicy

def heldMode (policy : WakePolicy) : Option PowerSource := policy.assertion.map (·.mode)

/-- The supervisor leaves its `select`. -/
def endSupervisor (policy : WakePolicy) (g : Nat) : WakePolicy :=
  { policy with supervisors := policy.supervisors.erase g, ended := policy.ended ++ [g] }

/-- The supervisor, if it still listens, kills and reaps its process and acknowledges. -/
def kill (policy : WakePolicy) (g : Nat) : WakePolicy :=
  if g ∈ policy.supervisors then
    { policy.endSupervisor g with processes := policy.processes.erase g }
  else policy

/-- The `match` of `update`. -/
def plan (policy : WakePolicy) (desired : ActivityState) : Option Work :=
  match desired.holds, policy.heldMode with
  | true, some mode => if mode = desired.source then none else some (.release true)
  | true, none => some (.release true)
  | false, some _ => some (.release false)
  | false, none => none

/-- One step of `update`, and what is left of it.  `ok` is whether the process can be spawned. -/
def advance (policy : WakePolicy) (desired : ActivityState) (ok : Bool) :
    Work → WakePolicy × Option Work
  | .sync => (policy, policy.plan desired)
  | .release spawns =>
    match policy.assertion with
    | some handle => ({ policy with assertion := none }, some (.kill handle.supervisor spawns))
    | none => (policy, Work.released spawns)
  | .kill supervisor spawns => (policy.kill supervisor, Work.released spawns)
  | .launch =>
    ({ policy with generation := policy.generation + 1 }, some (.birth (policy.generation + 1)))
  | .birth g =>
    if ok then
      ({ policy with supervisors := policy.supervisors ++ [g],
                     processes := policy.processes ++ [g] }, some (.store g))
    else (policy, none)
  | .store g => ({ policy with assertion := some ⟨desired.source, g⟩ }, none)

/-- The supervisor finds that its handle is gone: it leaves its process alone. -/
def orphan (policy : WakePolicy) (g : Nat) : WakePolicy :=
  if g ∈ policy.supervisors then policy.endSupervisor g else policy

/-- The process exits by itself, and its supervisor notices. -/
def exit (policy : WakePolicy) (g : Nat) : WakePolicy :=
  if g ∈ policy.processes then
    { policy.orphan g with processes := policy.processes.erase g }
  else policy

/-- The last lines of the supervisor. -/
def clean (policy : WakePolicy) (g : Nat) : WakePolicy :=
  if g ∈ policy.ended then
    { policy with ended := policy.ended.erase g,
                  assertion := if policy.generation = g then none else policy.assertion }
  else policy

end WakePolicy

/-! ## The tasks -/

/-- What a snapshot shows of a session: a turn that is not idle, and the number of questions
and approvals. -/
structure Activity where
  turnActive : Bool := false
  attention : Nat := 0
deriving DecidableEq, Repr

namespace Activity

def attentionPending (activity : Activity) : Bool := decide (0 < activity.attention)

def busy (activity : Activity) : Bool := activity.turnActive || activity.attentionPending

end Activity

/-- What is noted in the cache of a session. -/
inductive Noted
  | turnLifecycle (active : Bool)
  | pendingAttentionAdded
  | pendingAttentionRemoved
  | snapshot (activity : Activity)

/-- `note_event` and `note_snapshot`. -/
def note (cache : Activity) : Noted → Activity
  | .turnLifecycle active => { cache with turnActive := active }
  | .pendingAttentionAdded => { cache with attention := cache.attention + 1 }
  | .pendingAttentionRemoved => { cache with attention := cache.attention - 1 }
  | .snapshot activity => activity

/-- A session that is watched: how it is, and the events its watcher has not taken yet. -/
structure Watched where
  activity : Activity
  events : Nat := 0

inductive Actor (K : Type)
  /-- The task of `watch_session`. -/
  | watcher (session : K)
  | task (number : Nat)
deriving DecidableEq

/-- Where a task can be interrupted. -/
inductive Job (K : Type)
  /-- The watcher waits for the snapshot. -/
  | read (session : K)
  /-- The watcher enters `apply_if_changed`. -/
  | report (turnActive attentionPending : Bool)
  /-- `update_power_state` is called. -/
  | total
  | setTurnActive (active pending : Bool)
  | setAttentionPending (pending : Bool)
  /-- `policy.update` with this state; then `set_attention_pending`, in `update_power_state`. -/
  | update (desired : ActivityState) (work : Work) (next : Option Bool)

/-- What is left of an update whose policy has this left to do. -/
def Job.after {K : Type} (desired : ActivityState) (next : Option Bool) :
    Option Work → Option (Job K)
  | some work => some (.update desired work next)
  | none => next.map .setAttentionPending

/-- The task has taken the handle of this supervisor, or has it still. -/
def Job.hasHandle {K : Type} (g : Nat) : Job K → Bool
  | .update _ (.kill supervisor _) _ => supervisor == g
  | .update _ (.store generation) _ => generation == g
  | _ => false

inductive Input (K : Type)
  | setPowerSource (source : PowerSource)
  /-- `watch_session` of a session that is like this. -/
  | attach (session : K) (activity : Activity)
  /-- The session changes, and the adapter tells its watcher. -/
  | change (session : K) (activity : Activity)
  | note (session : K) (noted : Noted)
  /-- A task calls `update_power_state`. -/
  | observe
  /-- The watcher takes an event. -/
  | receive (session : K)
  /-- A task takes its next step; `ok` says whether a snapshot or a process can be had. -/
  | resume (actor : Actor K) (ok : Bool)
  | exit (g : Nat)
  | orphan (g : Nat)
  | clean (g : Nat)

end Power

/-- The coordinator and its policy, the sessions it watches, the caches of the runtime, and
the tasks that run.  `started` is a ghost: an update has been started. -/
structure Power (K : Type) where
  policy : Power.WakePolicy := {}
  state : Power.ActivityState
  sessions : FiniteMap K Power.Watched := ∅
  caches : FiniteMap K Power.Activity := ∅
  jobs : FiniteMap (Power.Actor K) (Power.Job K) := ∅
  tasks : Nat := 0
  started : Bool := false

namespace Power

variable {K : Type} [DecidableEq K]

/-- `PowerCoordinator::new`. -/
def new (source : PowerSource) : Power K where
  state := ⟨source, false, false⟩

def assertionHeld (p : Power K) : Bool := p.policy.assertion.isSome

/-- The task goes on with this job, or has finished. -/
def goOn (p : Power K) (u : Actor K) (job : Option (Job K)) : Power K :=
  { p with jobs := job.elim (p.jobs.erase u) (p.jobs.insert u) }

/-- The flags are written, and `sync` is called with them. -/
def sync (p : Power K) (u : Actor K) (desired : ActivityState) (next : Option Bool) : Power K :=
  { p with state := desired, started := true }.goOn u (some (.update desired .sync next))

def activityOf (p : Power K) (s : K) : Activity :=
  ((p.sessions.get? s).map (·.activity)).getD {}

/-- A task takes its next step. -/
def run (p : Power K) (u : Actor K) (ok : Bool) : Job K → Power K
  | .read s =>
    p.goOn u (if ok then
      some (.report (p.activityOf s).turnActive (p.activityOf s).attentionPending) else none)
  | .report turnActive attentionPending =>
    if p.state.turnActive = turnActive ∧ p.state.attentionPending = attentionPending then
      p.goOn u none
    else
      p.sync u { p.state with turnActive := turnActive, attentionPending := attentionPending } none
  | .total =>
    p.goOn u (some (.setTurnActive (p.caches.values.any (·.turnActive))
      (p.caches.values.any (·.attentionPending))))
  | .setTurnActive active pending => p.sync u { p.state with turnActive := active } (some pending)
  | .setAttentionPending pending => p.sync u { p.state with attentionPending := pending } none
  | .update desired work next =>
    let done := p.policy.advance desired ok work
    { p with policy := done.1 }.goOn u (Job.after desired next done.2)

/-- A new task, with its first job. -/
def spawnTask (p : Power K) : Power K := { p with tasks := p.tasks + 1 }

/-- Somebody has the handle of this supervisor. -/
def handled (p : Power K) (g : Nat) : Bool :=
  p.policy.assertion.any (·.supervisor == g) || p.jobs.values.any (Job.hasHandle g)

def receive (p : Power K) (s : K) : Power K :=
  match p.sessions.get? s, p.jobs.get? (.watcher s) with
  | some ⟨activity, events + 1⟩, none =>
    { p with sessions := p.sessions.insert s ⟨activity, events⟩ }.goOn (.watcher s)
      (some (.read s))
  | _, _ => p

def step (p : Power K) : Input K → Power K
  | .setPowerSource source => p.spawnTask.sync (.task p.tasks) { p.state with source := source } none
  | .attach s activity =>
    if p.sessions.contains s then p
    else { p with sessions := p.sessions.insert s { activity := activity } }
  | .change s activity =>
    { p with sessions := p.sessions.modify s fun w => ⟨activity, w.events + 1⟩ }
  | .note s noted =>
    { p with caches := p.caches.insert s (Power.note ((p.caches.get? s).getD {}) noted) }
  | .observe => p.spawnTask.goOn (.task p.tasks) (some .total)
  | .receive s => p.receive s
  | .resume u ok =>
    match p.jobs.get? u with
    | some job => p.run u ok job
    | none => p
  | .exit g => { p with policy := p.policy.exit g }
  | .orphan g => if p.handled g then p else { p with policy := p.policy.orphan g }
  | .clean g => { p with policy := p.policy.clean g }

/-! ## What is promised -/

/-- Some session has an active turn. -/
def turnActive (p : Power K) : Bool := p.sessions.values.any (·.activity.turnActive)

/-- Somebody has to answer in some session. -/
def attentionPending (p : Power K) : Bool := p.sessions.values.any (·.activity.attentionPending)

/-- All updates have finished, and the watchers have taken every event. -/
structure Quiescent (p : Power K) : Prop where
  jobs : ∀ u, p.jobs.get? u = none
  events : ∀ s w, p.sessions.get? s = some w → w.events = 0

/-- The assertion is held exactly when the combined state asks for it; a process is alive
exactly then, and never more than one. -/
structure Follows (p : Power K) : Prop where
  held : p.assertionHeld = shouldHold p.state.source p.turnActive p.attentionPending
  alive : p.assertionHeld = true ↔ p.policy.processes ≠ []
  single : p.policy.processes.length ≤ 1

/-- Once an update has been started and all have finished, the assertion follows the state. -/
def Settled (p : Power K) : Prop := p.started = true → p.Quiescent → p.Follows

/-! ## What it takes -/

end Power

namespace Power.Job

variable {K : Type}

/-- The job will still write the flags. -/
def reports : Job K → Bool
  | .update _ _ next => next.isSome
  | _ => true

/-- An update that has not read the held mode yet. -/
def waits : Job K → Bool
  | .update _ .sync _ => true
  | _ => false

/-- An update that has read the held mode. -/
def works : Job K → Bool
  | .update _ .sync _ => false
  | .update _ _ _ => true
  | _ => false

end Power.Job

namespace Power

variable {K : Type} [DecidableEq K]

def others (p : Power K) (u : Actor K) (test : Job K → Bool) : Bool :=
  p.jobs.toList.any fun e => decide (e.1 ≠ u) && test e.2

def anyJob (p : Power K) (test : Job K → Bool) : Bool := p.jobs.values.any test

/-- A watcher has not taken all its events. -/
def unheard (p : Power K) : Bool := p.sessions.values.any fun w => decide (0 < w.events)

def busy (p : Power K) : Bool := p.turnActive || p.attentionPending

/-- On this source, flags like these lead to what sessions like these ask for. -/
def agrees (source : PowerSource) (flags sessions : Bool) : Bool :=
  source == .ac || flags == sessions

/-- A task may take its next step.  The last report before all are in tells of all sessions,
not only of its own; no update reads the held mode while another one is at work; the last
update to read it has the state as it is now; and the last update gets its process. -/
def orderlyRun (p : Power K) (u : Actor K) (ok : Bool) : Job K → Bool
  | .read _ =>
    ok || p.unheard || p.others u Job.reports || agrees p.state.source p.state.busy p.busy
  | .report turnActive attentionPending =>
    p.unheard || p.others u Job.reports ||
      agrees p.state.source (turnActive || attentionPending) p.busy
  | .setAttentionPending pending =>
    p.unheard || p.others u Job.reports ||
      agrees p.state.source (p.state.turnActive || pending) p.busy
  | .update desired .sync _ =>
    !p.others u Job.works && (p.others u Job.waits || desired.holds == p.state.holds)
  | .update _ (.birth _) _ => ok || p.others u Job.waits
  | _ => true

/-- A step that keeps the assertion with the state.  A change of the source finds right flags,
a session that begins to be watched does not change what they should be, and no process exits
by itself. -/
def orderly (p : Power K) : Input K → Bool
  | .setPowerSource source =>
    p.unheard || p.anyJob Job.reports || agrees source p.state.busy p.busy
  | .attach s activity =>
    p.sessions.contains s || p.unheard || p.anyJob Job.reports ||
      agrees p.state.source p.state.busy (p.busy || activity.busy)
  | .resume u ok => (p.jobs.get? u).all (p.orderlyRun u ok)
  | .exit g => decide (g ∉ p.policy.processes)
  | _ => true

end Power

end AgentConsole.Bridge
