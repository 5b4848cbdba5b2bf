import AgentConsole.Lib.Run
import AgentConsole.Relay.Frames
import AgentConsole.Relay.Introspection
import AgentConsole.Relay.Reconnect

/-! # What a tick of the introspection loop achieves

A closed connection stays closed, ids being new each time; a tick therefore
closes what it has to at some point between its start and its end.  The deadline
of the degraded phase is read the wrong way round where commands are admitted:
they pass before it and are refused after it.  A command that was admitted
earlier may also be handed over later. -/

namespace AgentConsole.Relay

open AgentConsole.Lib

/-! ## Steps of the other tasks -/

/-- The gate is passed and the command is not handed over yet. -/
def CommandPhase.admitted : CommandPhase → Bool
  | .checkExpiry | .checkOwner | .checkOnline .. | .findSession .. | .pickDevice
  | .insertReceipt .. | .register _ | .send _ => true
  | _ => false

namespace Service

variable {w : Service}

/-- The handlers after a handler's step: its own is in a phase behind the gate only if
it was before or passes it now. -/
theorem commandStep_commands (env : ServiceCtx) (id : Nat) (task : CommandTask)
    (running : task.phase ≠ .done) :
    ∃ phase, (w.commandStep env id task).commands = w.commands.insert id { task with phase } ∧
      (phase.admitted = true → task.phase.admitted = true ∨
        task.phase = .checkWrites ∧ w.hub.writesAllowed env.ctx.now = true) := by
  obtain ⟨conn, ident, request, phase⟩ := task
  unfold commandStep
  cases phase with
  | done => exact absurd rfl running
  | checkWrites =>
    dsimp only
    split
    · next allowed => exact ⟨_, rfl, fun _ => .inr ⟨rfl, allowed⟩⟩
    · exact ⟨_, rfl, by simp [CommandPhase.admitted]⟩
  | insertReceipt device session =>
    dsimp only
    repeat' split
    all_goals exact ⟨_, rfl, fun _ => .inl rfl⟩
  | send device =>
    dsimp only
    repeat' split
    all_goals exact ⟨_, rfl, fun _ => .inl rfl⟩
  | reject =>
    dsimp only
    unfold updateReceipt
    split <;> exact ⟨_, rfl, by simp [CommandPhase.admitted]⟩
  | checkShutdown =>
    dsimp only
    split <;> exact ⟨_, rfl, by simp [CommandPhase.admitted]⟩
  | replay session =>
    dsimp only
    repeat' split
    all_goals exact ⟨_, rfl, by simp [CommandPhase.admitted]⟩
  | takeBack => exact ⟨_, rfl, by simp [CommandPhase.admitted]⟩
  | reply result => exact ⟨_, rfl, by simp [CommandPhase.admitted]⟩
  | rejectedReply => exact ⟨_, rfl, by simp [CommandPhase.admitted]⟩
  | _ =>
    dsimp only
    repeat' split
    all_goals exact ⟨_, rfl, fun _ => .inl rfl⟩

/-- A handler behind the gate was there before or passes the gate in this step. -/
theorem step_admitted {s : ServiceStep} {id : Nat} {task : CommandTask}
    (found : (w.step s).commands.get? id = some task) (admitted : task.phase.admitted = true) :
    (∃ before, w.commands.get? id = some before ∧ before.phase.admitted = true) ∨
      ∃ before, s.op = .command id ∧ w.commands.get? id = some before ∧
        before.phase = .checkWrites ∧ w.hub.writesAllowed s.env.ctx.now = true := by
  obtain ⟨env, op⟩ := s
  unfold step at found
  cases op with
  | request other conn request =>
    left
    dsimp only at found
    repeat' split at found
    · exact ⟨task, found, admitted⟩
    · dsimp only at found
      rw [FiniteMap.get?_insert] at found
      split at found
      · cases found
        cases admitted
      · exact ⟨task, found, admitted⟩
    · exact ⟨task, found, admitted⟩
  | command other =>
    dsimp only at found
    split at found
    · next before there =>
      by_cases running : before.phase = .done
      · have idle : w.commandStep env other before = w := by
          unfold commandStep
          rw [running]
        rw [idle] at found
        exact .inl ⟨task, found, admitted⟩
      · obtain ⟨phase, after, passes⟩ := commandStep_commands (w := w) env other before running
        rw [after, FiniteMap.get?_insert] at found
        split at found
        · next same =>
          cases found
          subst same
          rcases passes admitted with before' | ⟨gate, allowed⟩
          · exact .inl ⟨before, there, before'⟩
          · exact .inr ⟨before, rfl, there, gate, allowed⟩
        · exact .inl ⟨task, found, admitted⟩
    · exact .inl ⟨task, found, admitted⟩
  | bridge other =>
    left
    dsimp only at found
    split at found
    · exact ⟨task, (bridgeStep_frame env other _).1 ▸ found, admitted⟩
    · exact ⟨task, found, admitted⟩
  | shutdownReceipt =>
    left
    dsimp only at found
    unfold updateReceipt at found
    repeat' split at found
    all_goals exact ⟨task, found, admitted⟩
  | _ =>
    left
    dsimp only at found
    repeat' split at found
    all_goals exact ⟨task, found, admitted⟩

/-- A command is handed over by a handler behind the gate. -/
theorem step_dispatched (s : ServiceStep) :
    (w.step s).dispatched = w.dispatched ∨
      ∃ id task, w.commands.get? id = some task ∧ task.phase.admitted = true := by
  obtain ⟨env, op⟩ := s
  unfold step
  cases op with
  | command id =>
    dsimp only
    split
    · next task found =>
      cases sends : task.phase.sends with
      | false => exact .inl (commandStep_dispatched env id task sends)
      | true =>
        right
        refine ⟨id, task, found, ?_⟩
        unfold CommandPhase.sends at sends
        split at sends
        · next sending => rw [sending]; rfl
        · cases sends
    · exact .inl rfl
  | bridge id =>
    left
    dsimp only
    split
    · exact (bridgeStep_frame env id _).2
    · rfl
  | shutdownReceipt =>
    left
    dsimp only
    unfold updateReceipt
    repeat' split
    all_goals rfl
  | _ =>
    left
    dsimp only
    repeat' split
    all_goals rfl

end Service

/-! ## What is promised -/

namespace Tick

/-- The session was refused, or the connection was found past its expiry. -/
def MustClose (t : Tick) (e : BrowserSession) : Prop :=
  (e.sessionId, .invalid) ∈ t.answers ∨ ∃ now, (e.connId, now) ∈ t.asked ∧ e.expiresAt ≤ now

end Tick

namespace Guarded

variable {grace : Nat} {s : Guarded} {i : GuardedInput}

def closed (s : Guarded) (conn : Uuid) : Prop := s.hub.browsers.get? conn = none

/-- The hub is degraded until at most the grace period after the first failed tick. -/
def InGrace (grace : Nat) (s : Guarded) : Prop :=
  ∃ deadline first, s.hub.degradedUntil = some deadline ∧ s.firstFailed = some first ∧
    deadline ≤ first + grace

/-- The step that ends a tick: each connection of its start was looked at, is closed
if it had to be, and otherwise vouched for in this tick or in the grace period. -/
def EndsTick (grace : Nat) (s : Guarded) (i : GuardedInput) : Prop :=
  ∀ t, s.tick = some t → (s.step grace i).tick = none → ∀ e ∈ t.sessions,
    (∃ now, (e.connId, now) ∈ t.asked) ∧
      (t.MustClose e → (s.step grace i).closed e.connId) ∧
      ((s.step grace i).closed e.connId ∨ (e.sessionId, .valid) ∈ t.answers ∨
        (s.step grace i).InGrace grace)

/-- The end of a failed tick at the deadline closes all connections. -/
def ClosesAll (grace : Nat) (s : Guarded) (i : GuardedInput) : Prop :=
  ∀ t now deadline, i = .mark now → s.tick = some t → t.phase = .marking →
    (∃ session, (session, .unavailable) ∈ t.answers) → s.hub.degradedUntil = some deadline →
    deadline ≤ now → ∀ conn, (s.step grace i).closed conn

/-- A degraded hub hands no command to a Bridge. -/
def Refuses (grace : Nat) (s : Guarded) (i : GuardedInput) : Prop :=
  s.hub.degradedUntil.isSome → (s.step grace i).service.dispatched = s.service.dispatched

/-- * no command comes to the gate while the hub is degraded and its deadline is ahead;
* no command is behind the gate when the hub becomes degraded. -/
def orderly (s : Guarded) (i : GuardedInput) : Bool :=
  match i with
  | .service ⟨env, .command id⟩ => (s.service.commands.get? id).all fun task =>
      task.phase != .checkWrites || s.hub.degradedUntil.all (· ≤ env.ctx.now)
  | .mark _ => (s.tick.all fun t => !t.unreachable || s.hub.degradedUntil.isSome) ||
      s.service.commands.values.all fun task => !task.phase.admitted
  | _ => true

/-! ## Connections -/

theorem closed_iff {conn : Uuid} : s.closed conn ↔ idents s.hub.browsers conn = none :=
  idents_eq_none.symm

/-- Every connection was issued its id. -/
def Issued (s : Guarded) : Prop :=
  ∀ conn, ¬ s.closed conn → conn ∈ s.issued

/-- A step of another task opens connections under new ids only. -/
theorem stepService_issued (issued : s.Issued) (step : ServiceStep) :
    (s.stepService step).Issued ∧ s.issued ⊆ (s.stepService step).issued ∧
      ∀ conn ∈ s.issued, s.closed conn → (s.stepService step).closed conn := by
  have opens {w : Service} {conn : Uuid} (done : w = s.service.step step)
      (other : ∀ c ident h, step.op ≠ .hub (.registerBrowser c ident) h)
      (isClosed : s.closed conn) : idents w.hub.browsers conn = none := by
    subst done
    by_contra there
    obtain ⟨ident, after⟩ := Option.ne_none_iff_exists'.mp there
    rcases Service.step_idents after with before | ⟨h, opened⟩
    · exact nomatch (closed_iff.mp isClosed).symm.trans before
    · exact other conn ident h opened
  unfold stepService
  split
  · exact ⟨issued, List.Subset.refl _, fun _ _ isClosed => isClosed⟩
  · next c ident h op =>
    split
    · exact ⟨issued, List.Subset.refl _, fun _ _ isClosed => isClosed⟩
    · next fresh =>
      have after (conn : Uuid) (other : conn ≠ c) (isClosed : s.closed conn) :
          idents (s.service.step step).hub.browsers conn = none := by
        by_contra there
        obtain ⟨ident', after⟩ := Option.ne_none_iff_exists'.mp there
        rcases Service.step_idents after with before | ⟨h', opened⟩
        · exact nomatch (closed_iff.mp isClosed).symm.trans before
        · rw [op] at opened
          cases opened
          exact other rfl
      refine ⟨?_, List.subset_cons_self _ _, ?_⟩
      · intro conn there
        by_cases same : conn = c
        · exact same ▸ List.mem_cons_self
        · refine List.mem_cons_of_mem _ (issued conn fun isClosed => ?_)
          exact there (closed_iff.mpr (after conn same isClosed))
      · intro conn known isClosed
        exact closed_iff.mpr (after conn (fun same => fresh (same ▸ known)) isClosed)
  · next notDegraded notRegister =>
    refine ⟨?_, List.Subset.refl _, ?_⟩
    · intro conn there
      exact issued conn fun isClosed =>
        there (closed_iff.mpr (opens rfl (fun c i h op => notRegister c i h op) isClosed))
    · intro conn _ isClosed
      exact closed_iff.mpr (opens rfl (fun c i h op => notRegister c i h op) isClosed)

theorem stepService_degraded (step : ServiceStep) :
    (s.stepService step).hub.degradedUntil = s.hub.degradedUntil := by
  unfold stepService
  split
  · rfl
  · next op =>
    split
    · rfl
    · exact Service.step_degraded step fun d other same => by rw [op] at same; cases same
  · next notDegraded _ => exact Service.step_degraded step fun d other same => notDegraded d other same

theorem stepService_frame (step : ServiceStep) :
    (s.stepService step).tick = s.tick ∧ (s.stepService step).firstFailed = s.firstFailed := by
  unfold stepService
  repeat' split
  all_goals exact ⟨rfl, rfl⟩

/-! ## A running tick -/

/-- The connection was looked at: it had expired, or there is an answer for its
session. -/
def Asked (t : Tick) (e : BrowserSession) : Prop :=
  ∃ now, (e.connId, now) ∈ t.asked ∧ (e.expiresAt ≤ now ∨ ∃ o, (e.sessionId, o) ∈ t.answers)

/-- How far the tick has come with the connections of its start. -/
def PhaseOk (s : Guarded) (t : Tick) : TickPhase → Prop
  | .asking left => left ⊆ t.sessions ∧ (∀ e ∈ t.sessions, e ∈ left ∨ Asked t e) ∧
      ∀ e ∈ t.sessions, t.MustClose e → e.connId ∈ t.toClose.map (·.1)
  | .closing left => ∀ e ∈ t.sessions, Asked t e ∧
      (t.MustClose e → e.connId ∈ left.map (·.1) ∨ s.closed e.connId)
  | .marking => ∀ e ∈ t.sessions, Asked t e ∧ (t.MustClose e → s.closed e.connId)
  | .clearing => ∀ e ∈ t.sessions, Asked t e ∧ s.closed e.connId

structure TickOk (s : Guarded) (t : Tick) : Prop where
  known : ∀ e ∈ t.sessions, e.connId ∈ s.issued
  distinct : ∀ e ∈ t.sessions, ∀ e' ∈ t.sessions, e.connId = e'.connId → e = e'
  unavailable : ∀ session, (session, .unavailable) ∈ t.answers → t.unreachable = true
  seen : ∀ session ∈ t.validSeen, ∃ o, (session, o) ∈ t.answers
  phase : PhaseOk s t t.phase

/-- Connections that close, and ids that are issued, do not disturb a tick. -/
theorem TickOk.keep {s' : Guarded} {t : Tick} (ok : TickOk s t) (issued : s.issued ⊆ s'.issued)
    (closes : ∀ conn ∈ s.issued, s.closed conn → s'.closed conn) : TickOk s' t where
  known := fun e member => issued (ok.known e member)
  distinct := ok.distinct
  unavailable := ok.unavailable
  seen := ok.seen
  phase := by
    have phase := ok.phase
    have closes (e : BrowserSession) (member : e ∈ t.sessions) (isClosed : s.closed e.connId) :
        s'.closed e.connId := closes _ (ok.known e member) isClosed
    cases reached : t.phase with
    | asking left =>
      rw [reached] at phase
      exact phase
    | closing left =>
      rw [reached] at phase
      intro e member
      exact ⟨(phase e member).1, fun must => ((phase e member).2 must).imp_right (closes e member)⟩
    | marking =>
      rw [reached] at phase
      intro e member
      exact ⟨(phase e member).1, fun must => closes e member ((phase e member).2 must)⟩
    | clearing =>
      rw [reached] at phase
      intro e member
      exact ⟨(phase e member).1, closes e member (phase e member).2⟩

/-- The list a tick starts with. -/
theorem tickOk_begin (issued : s.Issued) :
    TickOk s ⟨browserSessions s.hub, .asking (browserSessions s.hub), [], [], false, [], []⟩ where
  known := by
    intro e member
    obtain ⟨entry, there, rfl⟩ := List.mem_map.mp member
    apply issued
    intro isClosed
    exact nomatch isClosed.symm.trans (FiniteMap.mem_toList.mp there)
  distinct := by
    intro e member e' member' same
    obtain ⟨entry, there, rfl⟩ := List.mem_map.mp member
    obtain ⟨entry', there', rfl⟩ := List.mem_map.mp member'
    have found := FiniteMap.mem_toList.mp there
    have found' := FiniteMap.mem_toList.mp there'
    have same : entry.1 = entry'.1 := same
    rw [same] at found
    rw [same, Option.some.inj (found.symm.trans found')]
  unavailable := by simp
  seen := by simp
  phase := ⟨List.Subset.refl _, fun _ member => .inl member, fun e _ must => by
    rcases must with refused | ⟨now, asked, -⟩
    · cases refused
    · cases asked⟩

/-- A step of the questions adds what `asked`, `answers`, `toClose` and `unreachable`
say of one connection. -/
theorem tickOk_ask {t : Tick} {e : BrowserSession} {left : List BrowserSession} (now : Nat)
    (answered : List (Uuid × IntrospectOutcome)) (closes : List (Uuid × String))
    (validSeen : List Uuid) (unreachable : Bool) (ok : TickOk s t)
    (reached : t.phase = .asking (e :: left))
    (expired : e.expiresAt ≤ now → e.connId ∈ closes.map (·.1))
    (answers : e.expiresAt ≤ now ∨ ∃ o, (e.sessionId, o) ∈ t.answers ++ answered)
    (invalid : ∀ session, (session, .invalid) ∈ answered → ∀ other ∈ t.sessions,
      other.sessionId = session → other.connId ∈ closes.map (·.1))
    (unavailable : ∀ session, (session, .unavailable) ∈ answered → unreachable = true)
    (failed : t.unreachable = true → unreachable = true)
    (seen : ∀ session ∈ validSeen, ∃ o, (session, o) ∈ t.answers ++ answered) :
    TickOk s { t with
      phase := .asking left
      asked := t.asked ++ [(e.connId, now)]
      toClose := t.toClose ++ closes
      answers := t.answers ++ answered
      validSeen, unreachable } := by
  have phase := ok.phase
  rw [reached] at phase
  obtain ⟨subset, looked, must⟩ := phase
  have member : e ∈ t.sessions := subset List.mem_cons_self
  refine ⟨ok.known, ok.distinct, ?_, seen, ?_, ?_, ?_⟩
  · intro session answer
    rcases List.mem_append.mp answer with old | new
    · exact failed (ok.unavailable session old)
    · exact unavailable session new
  · exact fun other there => subset (List.mem_cons_of_mem _ there)
  · intro other there
    rcases looked other there with ahead | ⟨at_, asked, reason⟩
    · rcases List.mem_cons.mp ahead with same | later
      · subst same
        exact .inr ⟨now, List.mem_append_right _ (List.mem_singleton_self _), answers⟩
      · exact .inl later
    · refine .inr ⟨at_, List.mem_append_left _ asked, reason.imp_right ?_⟩
      exact fun ⟨o, answer⟩ => ⟨o, List.mem_append_left _ answer⟩
  · intro other there closing
    rw [List.map_append, List.mem_append]
    rcases closing with refused | ⟨at_, asked, past⟩
    · rcases List.mem_append.mp refused with old | new
      · exact .inl (must other there (.inl old))
      · exact .inr (invalid _ new other there rfl)
    · rcases List.mem_append.mp asked with old | new
      · exact .inl (must other there (.inr ⟨at_, old, past⟩))
      · obtain ⟨same, rfl⟩ := Prod.mk.inj (List.mem_singleton.mp new)
        have one : other = e := ok.distinct other there e member same
        subst one
        exact .inr (expired past)

theorem TickOk.ask {t : Tick} (ok : TickOk s t) (now : Nat) (outcome : IntrospectOutcome) :
    TickOk s (ask now outcome t) := by
  cases reached : t.phase with
  | asking left =>
    cases left with
    | nil =>
      unfold Guarded.ask
      rw [reached]
      have phase := ok.phase
      rw [reached] at phase
      obtain ⟨-, looked, must⟩ := phase
      refine ⟨ok.known, ok.distinct, ok.unavailable, ok.seen, ?_⟩
      intro e member
      exact ⟨(looked e member).resolve_left (by simp), fun closing => .inl (must e member closing)⟩
    | cons e left =>
      unfold Guarded.ask
      rw [reached]
      dsimp only
      split_ifs with past before
      · have next := tickOk_ask now [] [(e.connId, "AUTH_EXPIRED")] t.validSeen t.unreachable ok
          reached
          (by simp) (.inl past) (by simp) (by simp) id (by simpa using ok.seen)
        simpa using next
      · have next := tickOk_ask now [] [] t.validSeen t.unreachable ok reached (fun due => absurd due past)
          (.inr (by simpa using ok.seen _ before)) (by simp) (by simp) id (by simpa using ok.seen)
        simpa using next
      · have seen : ∀ session ∈ e.sessionId :: t.validSeen,
            ∃ o, (session, o) ∈ t.answers ++ [(e.sessionId, outcome)] := by
          intro session member
          rcases List.mem_cons.mp member with same | old
          · exact ⟨outcome, by simp [same]⟩
          · obtain ⟨o, answer⟩ := ok.seen session old
            exact ⟨o, List.mem_append_left _ answer⟩
        have answers : e.expiresAt ≤ now ∨
            ∃ o, (e.sessionId, o) ∈ t.answers ++ [(e.sessionId, outcome)] :=
          .inr ⟨outcome, by simp⟩
        cases outcome with
        | valid =>
          have next := tickOk_ask now _ [] _ t.unreachable ok reached (fun due => absurd due past) answers (by simp) (by simp) id seen
          simpa using next
        | invalid =>
          refine tickOk_ask now _ _ _ _ ok reached (fun due => absurd due past) answers ?_ (by simp)
            id seen
          intro session answer other there same
          have session : session = e.sessionId := by simpa using answer
          simp only [List.map_map, List.mem_map, List.mem_filter, decide_eq_true_eq]
          exact ⟨other, ⟨there, same.trans session⟩, rfl⟩
        | unavailable =>
          have next := tickOk_ask now _ [] _ true ok reached (fun due => absurd due past) answers (by simp) (fun _ _ => rfl) (fun _ => rfl)
            seen
          simpa using next
  | _ =>
    unfold Guarded.ask
    rw [reached]
    exact ok

/-! ## The invariant -/

def Clearing (s : Guarded) : Prop := ∃ t, s.tick = some t ∧ t.phase = .clearing

structure Inv (grace : Nat) (s : Guarded) : Prop where
  issued : s.Issued
  tick : ∀ t, s.tick = some t → TickOk s t
  degraded : s.hub.degradedUntil.isSome → ¬ s.Clearing → s.InGrace grace
  healthy : s.hub.degradedUntil = none → s.firstFailed = none
  clearing : s.Clearing → s.firstFailed = none
  gated : s.hub.degradedUntil.isSome →
    ∀ id task, s.service.commands.get? id = some task → task.phase.admitted = false

theorem Inv.new : Inv grace .new where
  issued := fun _ there => absurd rfl there
  tick := nofun
  degraded := by simp [Guarded.new, hub, Service.new, HubInner.new]
  healthy := fun _ => rfl
  clearing := fun _ => rfl
  gated := by simp [Guarded.new, hub, Service.new, HubInner.new]

/-- A step of another task. -/
theorem Inv.service (inv : Inv grace s) {step : ServiceStep}
    (orderly : s.orderly (.service step)) : Inv grace (s.stepService step) := by
  obtain ⟨issued, grown, closes⟩ := stepService_issued inv.issued step
  obtain ⟨tick, failed⟩ := stepService_frame (s := s) step
  have degraded := stepService_degraded (s := s) step
  have clearing : (s.stepService step).Clearing ↔ s.Clearing := by
    unfold Clearing
    rw [tick]
  refine ⟨issued, ?_, ?_, ?_, ?_, ?_⟩
  · intro t running
    exact (inv.tick t (tick ▸ running)).keep grown closes
  · intro marked cleared
    rw [degraded] at marked
    obtain ⟨deadline, first, until_, when_, bound⟩ := inv.degraded marked (mt clearing.mpr cleared)
    exact ⟨deadline, first, degraded.trans until_, failed.trans when_, bound⟩
  · intro unmarked
    exact failed.trans (inv.healthy (degraded ▸ unmarked))
  · intro cleared
    exact failed.trans (inv.clearing (clearing.mp cleared))
  · intro marked id task found
    rw [degraded] at marked
    by_contra behind
    have behind : task.phase.admitted = true := by simpa using behind
    have after : (s.service.step step).commands.get? id = some task ∨
        s.service.commands.get? id = some task := by
      unfold stepService at found
      repeat' split at found
      all_goals first
        | exact .inl found
        | exact .inr found
    rcases after with after | same
    · rcases Service.step_admitted after behind with ⟨before, there, early⟩ |
        ⟨before, command, there, gate, allowed⟩
      · rw [inv.gated marked id before there] at early
        cases early
      · obtain ⟨env, op⟩ := step
        have command : op = .command id := command
        subst command
        obtain ⟨deadline, until_⟩ := Option.isSome_iff_exists.mp marked
        have until' : s.service.hub.degradedUntil = some deadline := until_
        simp only [Guarded.orderly, there, Option.all_some, gate, until_] at orderly
        simp only [HubInner.writesAllowed, until', Option.all_some, decide_eq_true_eq] at allowed
        simp only [bne_self_eq_false, Bool.false_or, decide_eq_true_eq] at orderly
        omega
    · rw [inv.gated marked id task same] at behind
      cases behind

theorem closeAll_closed (conn : Uuid) : (s.onHub HubInner.closeAllBrowsers).closed conn :=
  closed_iff.mpr (HubInner.closeAllBrowsers_idents conn s.hub)

theorem closeBrowser_closed (conn : Uuid) : (s.onHub (·.closeBrowser conn)).closed conn :=
  closed_iff.mpr ((HubInner.closeBrowser_idents conn conn s.hub).trans (if_pos rfl))

/-- Closing one connection opens none. -/
theorem closeBrowser_keeps {conn other : Uuid} (isClosed : s.closed other) :
    (s.onHub (·.closeBrowser conn)).closed other := by
  refine closed_iff.mpr ((HubInner.closeBrowser_idents conn other s.hub).trans ?_)
  split
  · rfl
  · exact closed_iff.mp isClosed

theorem ask_phase {t : Tick} (now : Nat) (outcome : IntrospectOutcome)
    (calm : t.phase ≠ .clearing) : (Guarded.ask now outcome t).phase ≠ .clearing := by
  unfold Guarded.ask
  split
  · simp
  · dsimp only
    split_ifs
    · simp
    · simp
    · cases outcome <;> simp
  · exact calm

/-- The end of a tick. -/
theorem Inv.mark (inv : Inv grace s) {t : Tick} {now : Nat} (running : s.tick = some t)
    (reached : t.phase = .marking) (orderly : s.orderly (.mark now)) :
    Inv grace (s.mark grace now t) := by
  have calm : ¬ s.Clearing := by
    rintro ⟨t', running', clearing⟩
    cases running.symm.trans running'
    cases reached.symm.trans clearing
  have ok := inv.tick t running
  unfold Guarded.mark
  split
  case isTrue failed =>
    split
    case h_1 healthy =>
      have first := inv.healthy healthy
      refine ⟨inv.issued, nofun, ?_, nofun, nofun, ?_⟩
      · intro _ _
        exact ⟨now + grace, now, rfl, by rw [first]; rfl, Nat.le_refl _⟩
      · intro _ id task found
        simp only [Guarded.orderly, running, Option.all_some, failed, healthy, Bool.not_true,
          Option.isSome_none, Bool.or_self, Bool.false_or, List.all_eq_true] at orderly
        simpa using orderly task (FiniteMap.mem_values.mpr ⟨id, found⟩)
    case h_2 deadline until_ =>
      split
      case isTrue due =>
        refine ⟨?_, ?_, ?_, ?_, fun _ => rfl, ?_⟩
        · intro conn there
          exact absurd (closeAll_closed conn) there
        · intro t' same
          cases same
          have phase := ok.phase
          rw [reached] at phase
          refine ⟨ok.known, ok.distinct, ok.unavailable, ok.seen, ?_⟩
          intro e member
          exact ⟨(phase e member).1, closeAll_closed _⟩
        · intro _ notClearing
          exact absurd ⟨_, rfl, rfl⟩ notClearing
        · intro _
          rfl
        · intro marked id task found
          exact inv.gated (by rw [until_]; rfl) id task found
      case isFalse =>
        obtain ⟨deadline', first, until', when_, bound⟩ := inv.degraded (by rw [until_]; rfl) calm
        refine ⟨inv.issued, nofun, ?_, ?_, nofun, inv.gated⟩
        · intro _ _
          exact ⟨deadline', first, until', by rw [when_]; rfl, bound⟩
        · intro unmarked
          exact nomatch until_.symm.trans unmarked
  case isFalse => exact ⟨inv.issued, nofun, nofun, fun _ => rfl, nofun, nofun⟩

theorem Inv.step (inv : Inv grace s) (orderly : s.orderly i) : Inv grace (s.step grace i) := by
  -- a step that replaces the tick by one that is not clearing keeps the marks
  have replace {t : Tick} (calm : t.phase ≠ .clearing) (before : ¬ s.Clearing)
      (ok : TickOk s t) : Inv grace { s with tick := some t } := by
    refine ⟨inv.issued, ?_, fun marked _ => inv.degraded marked before, inv.healthy, ?_, inv.gated⟩
    · intro t' same
      cases same
      exact ok.keep (List.Subset.refl _) fun _ _ isClosed => isClosed
    · rintro ⟨t', same, clearing⟩
      cases same
      exact absurd clearing calm
  cases i with
  | service step => exact inv.service orderly
  | beginTick =>
    unfold Guarded.step
    cases running : s.tick with
    | some t => exact inv
    | none =>
      refine replace (by simp) ?_ (tickOk_begin inv.issued)
      rintro ⟨t, running', -⟩
      exact nomatch running.symm.trans running'
  | ask now outcome =>
    unfold Guarded.step
    cases running : s.tick with
    | none => exact inv
    | some t =>
      have ok := inv.tick t running
      by_cases clearing : t.phase = .clearing
      · have same : Guarded.ask now outcome t = t := by
          unfold Guarded.ask
          rw [clearing]
        dsimp only
        rw [same, ← running]
        exact inv
      · refine replace (ask_phase now outcome clearing) ?_ (ok.ask now outcome)
        rintro ⟨t', running', reached⟩
        cases running.symm.trans running'
        exact clearing reached
  | close =>
    unfold Guarded.step
    cases running : s.tick with
    | none => exact inv
    | some t =>
      have ok := inv.tick t running
      have phase := ok.phase
      dsimp only
      split
      case h_1 reached =>
        have calm : ¬ s.Clearing := by
          rintro ⟨t', running', clearing⟩
          cases running.symm.trans running'
          cases reached.symm.trans clearing
        rw [reached] at phase
        refine replace (by simp) calm ⟨ok.known, ok.distinct, ok.unavailable, ok.seen, ?_⟩
        intro e member
        exact ⟨(phase e member).1, fun must => ((phase e member).2 must).resolve_left (by simp)⟩
      case h_2 c left reached =>
        have calm : ¬ s.Clearing := by
          rintro ⟨t', running', clearing⟩
          cases running.symm.trans running'
          cases reached.symm.trans clearing
        have degraded : (s.onHub (·.closeBrowser c.1)).hub.degradedUntil = s.hub.degradedUntil :=
          HubInner.closeBrowser_degraded c.1 s.hub
        refine ⟨?_, ?_, ?_, ?_, ?_, ?_⟩
        · intro conn there
          exact inv.issued conn fun isClosed => there (closeBrowser_keeps isClosed)
        · intro t' same
          cases same
          rw [reached] at phase
          refine ⟨ok.known, ok.distinct, ok.unavailable, ok.seen, ?_⟩
          intro e member
          refine ⟨(phase e member).1, fun must => ?_⟩
          rcases (phase e member).2 must with ahead | isClosed
          · rcases List.mem_cons.mp ahead with same | later
            · exact .inr (same ▸ closeBrowser_closed c.1)
            · exact .inl later
          · exact .inr (closeBrowser_keeps isClosed)
        · intro marked _
          obtain ⟨deadline, first, until_, rest⟩ := inv.degraded (degraded ▸ marked) calm
          exact ⟨deadline, first, degraded.trans until_, rest⟩
        · intro unmarked
          exact inv.healthy (degraded ▸ unmarked)
        · rintro ⟨t', same, clearing⟩
          cases same
          cases clearing
        · intro marked
          exact inv.gated (degraded ▸ marked)
      case h_3 => exact inv
  | mark now =>
    unfold Guarded.step
    cases running : s.tick with
    | none => exact inv
    | some t =>
      dsimp only
      split
      · next reached => exact inv.mark running reached orderly
      · exact inv
  | clear =>
    unfold Guarded.step
    cases running : s.tick with
    | none => exact inv
    | some t =>
      dsimp only
      split
      · next reached =>
        exact ⟨inv.issued, nofun, nofun, fun _ => inv.clearing ⟨t, running, reached⟩, nofun, nofun⟩
      · exact inv

/-! ## Every orderly run -/

theorem Inv.endsTick (inv : Inv grace s) (i : GuardedInput) : EndsTick grace s i := by
  intro t running ended e member
  have ok := inv.tick t running
  have phase := ok.phase
  cases i with
  | service step =>
    have kept := (stepService_frame (s := s) step).1
    exact nomatch ended.symm.trans (kept.trans running)
  | beginTick =>
    simp [Guarded.step, running] at ended
  | ask now outcome => simp [Guarded.step, running] at ended
  | close =>
    simp only [Guarded.step, running] at ended
    split at ended
    · cases ended
    · cases ended
    · exact nomatch ended.symm.trans running
  | mark now =>
    simp only [Guarded.step, running] at ended ⊢
    by_cases reached : t.phase = .marking
    · rw [if_pos reached] at ended ⊢
      rw [reached] at phase
      obtain ⟨⟨at_, asked, reason⟩, must⟩ := phase e member
      refine ⟨⟨at_, asked⟩, ?_⟩
      unfold Guarded.mark at ended ⊢
      split
      case isTrue failed =>
        rw [if_pos failed] at ended
        split
        case h_1 healthy =>
          refine ⟨must, .inr (.inr ⟨now + grace, now, rfl, ?_, Nat.le_refl _⟩)⟩
          rw [inv.healthy healthy]
          rfl
        case h_2 deadline until_ =>
          simp only [until_] at ended
          split
          case isTrue due =>
            rw [if_pos due] at ended
            cases ended
          case isFalse =>
            have calm : ¬ s.Clearing := by
              rintro ⟨t', running', clearing⟩
              cases running.symm.trans running'
              cases reached.symm.trans clearing
            obtain ⟨deadline', first, until', when_, bound⟩ :=
              inv.degraded (by rw [until_]; rfl) calm
            exact ⟨must, .inr (.inr ⟨deadline', first, until', by rw [when_]; rfl, bound⟩)⟩
      case isFalse succeeded =>
        refine ⟨must, ?_⟩
        rcases reason with past | ⟨o, answer⟩
        · exact .inl (must (.inr ⟨at_, asked, past⟩))
        · cases o with
          | valid => exact .inr (.inl answer)
          | invalid => exact .inl (must (.inl answer))
          | unavailable => exact absurd (ok.unavailable _ answer) succeeded
    · rw [if_neg reached] at ended
      exact nomatch ended.symm.trans running
  | clear =>
    simp only [Guarded.step, running] at ended ⊢
    by_cases reached : t.phase = .clearing
    · rw [if_pos reached]
      rw [reached] at phase
      obtain ⟨⟨at_, asked, -⟩, isClosed⟩ := phase e member
      exact ⟨⟨at_, asked⟩, fun _ => isClosed, .inl isClosed⟩
    · rw [if_neg reached] at ended
      exact nomatch ended.symm.trans running

theorem Inv.closesAll (inv : Inv grace s) (i : GuardedInput) : ClosesAll grace s i := by
  rintro t now deadline rfl running reached ⟨session, answer⟩ until_ due conn
  have failed := (inv.tick t running).unavailable session answer
  simp only [Guarded.step, running, if_pos reached, Guarded.mark, if_pos failed, until_,
    if_pos due]
  exact closeAll_closed conn

theorem Inv.refuses (inv : Inv grace s) (i : GuardedInput) : Refuses grace s i := by
  intro marked
  cases i with
  | service step =>
    simp only [Guarded.step, stepService]
    have kept : (s.service.step step).dispatched = s.service.dispatched := by
      rcases Service.step_dispatched (w := s.service) step with same | ⟨id, task, found, behind⟩
      · exact same
      · rw [inv.gated marked id task found] at behind
        cases behind
    repeat' split
    all_goals first
      | rfl
      | exact kept
  | beginTick =>
    unfold Guarded.step
    cases s.tick <;> rfl
  | ask now outcome =>
    unfold Guarded.step
    cases s.tick <;> rfl
  | close =>
    unfold Guarded.step
    cases s.tick with
    | none => rfl
    | some t =>
      dsimp only
      split <;> rfl
  | mark now =>
    unfold Guarded.step
    cases s.tick with
    | none => rfl
    | some t =>
      dsimp only [Guarded.mark]
      repeat' split
      all_goals rfl
  | clear =>
    unfold Guarded.step
    cases s.tick with
    | none => rfl
    | some t =>
      dsimp only
      split <;> rfl

/-- Along a run: refused and expired connections are closed in their tick, survivors
are vouched for or in the grace period, and a degraded hub hands over nothing. -/
theorem unverified_browsers_lose_access (grace : Nat) (inputs : List GuardedInput)
    (orderly : Along (step grace) (fun s i => s.orderly i = true) .new inputs) :
    Along (step grace) (fun s i => EndsTick grace s i ∧ ClosesAll grace s i ∧ Refuses grace s i)
      .new inputs :=
  Along.of_invariant (fun _ _ inv orderly => inv.step orderly)
    (fun _ i inv _ => ⟨inv.endsTick i, inv.closesAll i, inv.refuses i⟩) Inv.new orderly

/-! ## The authentication service is away -/

open Reconnecting

/-- A Bridge and a browser are connected, and a tick finds nobody to ask. -/
def unreachableTick : List GuardedInput :=
  (connects 1 ++ [op (.hub (.registerBrowser browser ⟨browser, owner, 100⟩) rfl)]).map .service ++
    [.beginTick, .ask 0 .unavailable, .ask 0 .unavailable, .close, .mark 0]

/-- The next tick ends at the deadline. -/
def secondTick : List GuardedInput :=
  [.beginTick, .ask 10 .unavailable, .ask 10 .unavailable, .close, .mark 10, .clear]

theorem unverified_browsers_lose_access_unreachable :
    Along (step 10) (fun s i => EndsTick 10 s i ∧ ClosesAll 10 s i ∧ Refuses 10 s i) .new
        (unreachableTick ++ secondTick) ∧
      (run 10 unreachableTick).hub.degradedUntil = some 10 ∧
      (run 10 (unreachableTick ++ secondTick)).closed browser :=
  ⟨unverified_browsers_lose_access 10 _ (by decide +kernel), by decide +kernel,
    by unfold closed; decide +kernel⟩

/-- Within the grace period a command of the browser is handed to the Bridge. -/
theorem degraded_hub_forwards :
    ¬ ∀ inputs : List GuardedInput,
      Along (step 10) (fun s i => EndsTick 10 s i ∧ ClosesAll 10 s i ∧ Refuses 10 s i) .new
        inputs := by
  intro claim
  have along := claim ((unreachableTick ++ (commands.drop 1).dropLast.map .service) ++
    [.service (op (.command 1))])
  have kept := along.at_step.2.2 (by decide +kernel)
  revert kept
  decide +kernel

end Guarded

end AgentConsole.Relay
