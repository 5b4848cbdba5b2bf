import AgentConsole.Bridge.AdapterWrites

/-! # The two checks of turn and revision

The gateway checks a request on the snapshot it has waited for, the adapter checks it
again on the live mapper.  The revision is compared in the same way.  The turn is not:
the gateway wants the current turn to be the expected one, the adapter only objects to
another id, and it has nothing to object when no turn or no snapshot is there. -/

namespace AgentConsole.Bridge.Adapter

open AgentConsole.Lib

variable {s : Adapter} {i : Input} {req : CommandRequest} {p : Projection}

/-! ## Verdicts -/

/-- The request says which turn or revision it was made for. -/
def Expects (req : CommandRequest) : Prop :=
  req.expectedTurnId.isSome ∨ req.expectedRuntimeRevision.isSome
deriving Decidable

/-- The revision is another one, and the request is not an interrupt of the current
turn. -/
def RevisionMoved (req : CommandRequest) (p : Projection) : Prop :=
  ∃ expected ∈ req.expectedRuntimeRevision,
    expected ≠ p.runtimeRevision ∧ req.permitsRevisionDrift p.currentTurn = false
deriving Decidable

/-- The adapter sees a turn where one is expected, and does not take another turn for it;
or the revision has decided already. -/
def Decided (req : CommandRequest) (view : Option Projection) : Prop :=
  ∃ p ∈ view, RevisionMoved req p ∨
    ∀ turn ∈ req.expectedTurnId, ∃ current ∈ p.currentTurn, current.id = turn.id → current = turn
deriving Decidable

/-- What the request was made for is still there. -/
def Fresh (req : CommandRequest) (view : Option Projection) : Prop :=
  (∀ turn ∈ req.expectedTurnId, ∃ p ∈ view, p.currentTurn = some turn) ∧
  ∀ revision ∈ req.expectedRuntimeRevision, ∃ p ∈ view, p.runtimeRevision = revision ∨
    req.payload = .interrupt ∧ ∃ turn ∈ req.expectedTurnId, p.currentTurn = some turn
deriving Decidable

/-- The two checks after the revision: only the comparison of turns is left. -/
theorem stale_of_moved (moved : RevisionMoved req p) :
    Gateway.stale req p.runtimeSnapshot = stale req (some p) ∧ stale req (some p) ≠ none := by
  obtain ⟨expected, carried, differs, fixed⟩ := moved
  have carried : req.expectedRuntimeRevision = some expected := carried
  simp [Gateway.stale, stale, carried, Projection.runtimeSnapshot, differs, fixed]

theorem gateway_stale_of_kept (kept : ¬ RevisionMoved req p) :
    Gateway.stale req p.runtimeSnapshot =
      Gateway.stale.staleTurn req p.runtimeSnapshot := by
  unfold Gateway.stale
  split
  case h_1 expected carried =>
    rw [if_neg]
    rintro ⟨differs, fixed⟩
    exact kept ⟨expected, carried, differs, by simpa [Projection.runtimeSnapshot] using fixed⟩
  case h_2 => rfl

theorem stale_of_kept (kept : ¬ RevisionMoved req p) :
    stale req (some p) = stale.staleTurn req p.currentTurn := by
  unfold stale
  simp only
  split
  case h_1 expected carried =>
    rw [if_neg]
    rintro ⟨differs, fixed⟩
    exact kept ⟨expected, carried, differs, by simpa using fixed⟩
  case h_2 => rfl

/-- Where the revision does not decide, the checks agree on a turn exactly if there is
one with which they agree. -/
theorem staleTurn_eq_iff : Gateway.stale.staleTurn req p.runtimeSnapshot =
      stale.staleTurn req p.currentTurn ↔
    ∀ turn ∈ req.expectedTurnId, ∃ current ∈ p.currentTurn,
      current.id = turn.id → current = turn := by
  unfold Gateway.stale.staleTurn stale.staleTurn
  cases expects : req.expectedTurnId with
  | none => simp
  | some turn =>
    cases there : p.currentTurn with
    | none => simp [Projection.runtimeSnapshot, there]
    | some current =>
      by_cases same : current = turn
      · simp [Projection.runtimeSnapshot, there, same]
      · by_cases sameId : current.id = turn.id
        · simp [Projection.runtimeSnapshot, there, same, sameId]
        · simp [Projection.runtimeSnapshot, there, same, sameId, Ne.symm sameId]

theorem gatewayVerdict_eq_iff (view : Option Projection) :
    gatewayVerdict req view = stale req view ↔ Decided req view := by
  cases view with
  | none => simp [gatewayVerdict, stale, Decided]
  | some p =>
    by_cases moved : RevisionMoved req p
    · simp [gatewayVerdict, (stale_of_moved moved).1, Decided, moved]
    · rw [gatewayVerdict, gateway_stale_of_kept moved, stale_of_kept moved, staleTurn_eq_iff]
      simp [Decided, moved]

/-! ## Writes -/

/-- A decided request that the adapter lets through is fresh. -/
theorem fresh_of_decided {view : Option Projection} (decided : Decided req view)
    (passes : stale req view = none) : Fresh req view := by
  obtain ⟨p, rfl, moved | turns⟩ := decided
  · exact absurd passes (stale_of_moved moved).2
  have kept : ¬ RevisionMoved req p := fun moved => (stale_of_moved moved).2 passes
  rw [stale_of_kept kept, ← staleTurn_eq_iff.mpr turns] at passes
  have current : ∀ turn ∈ req.expectedTurnId, p.currentTurn = some turn := by
    intro turn expected
    have expected : req.expectedTurnId = some turn := expected
    simpa [Gateway.stale.staleTurn, expected, Projection.runtimeSnapshot] using passes
  refine ⟨fun turn expected => ⟨p, rfl, current turn expected⟩, ?_⟩
  intro revision carried
  refine ⟨p, rfl, ?_⟩
  by_cases same : p.runtimeRevision = revision
  · exact .inl same
  -- only an interrupt of the current turn gets past another revision
  · have drifts : req.permitsRevisionDrift p.currentTurn = true := by
      by_contra fixed
      exact kept ⟨revision, carried, Ne.symm same, by simpa using fixed⟩
    simp only [CommandRequest.permitsRevisionDrift, Bool.and_eq_true, decide_eq_true_eq,
      beq_iff_eq] at drifts
    obtain ⟨⟨interrupts, named⟩, agrees⟩ := drifts
    obtain ⟨turn, expected⟩ := Option.isSome_iff_exists.mp named
    exact .inr ⟨interrupts, turn, expected, agrees ▸ expected⟩

/-- Only a decided request is fresh. -/
theorem decided_of_fresh {view : Option Projection} (expects : Expects req)
    (fresh : Fresh req view) : Decided req view := by
  obtain ⟨turns, revisions⟩ := fresh
  have seen : ∃ p, view = some p := by
    rcases expects with turn | revision
    · obtain ⟨turn, expected⟩ := Option.isSome_iff_exists.mp turn
      obtain ⟨p, there, -⟩ := turns turn expected
      exact ⟨p, there⟩
    · obtain ⟨revision, expected⟩ := Option.isSome_iff_exists.mp revision
      obtain ⟨p, there, -⟩ := revisions revision expected
      exact ⟨p, there⟩
  obtain ⟨p, rfl⟩ := seen
  refine ⟨p, rfl, .inr fun turn expected => ?_⟩
  obtain ⟨p', there, current⟩ := turns turn expected
  cases there
  exact ⟨turn, current, fun _ => rfl⟩

/-- The request a job is about to check. -/
def Job.checks? : Job → Option CommandRequest
  | .check req _ _ _ _ => some req
  | _ => none

/-- The adapter's check of a request with expectations meets a turn it can compare. -/
def Decides (s : Adapter) (i : Input) : Prop :=
  ∀ task ∈ i.continues, ∀ job ∈ s.tasks.get? task, ∀ req ∈ job.checks?,
    Expects req → Decided req (s.projection req.session)
deriving Decidable

/-- The projection a job has checked against was fresh for its request. -/
def Job.Checked : Job → Prop
  | .prepare req _ _ _ _ seen | .dispatch req _ _ _ seen => Fresh req seen
  | _ => True

theorem fresh_of_unexpected {view : Option Projection} (free : ¬ Expects req) :
    Fresh req view := by
  simp only [Expects, not_or, Bool.not_eq_true, Option.isSome_eq_false_iff,
    Option.isNone_iff_eq_none] at free
  simp [Fresh, free.1, free.2]

theorem checked_move {task : Nat} {answer : Answer} {job : Job} {m : Move}
    (decides : s.Decides (.answer task answer)) (waits : s.tasks.get? task = some job)
    (moves : job.move s task answer = some m) (checked : job.Checked) :
    (∀ next ∈ m.next, next.Checked) ∧ ∀ w ∈ m.writes, Fresh w.request w.seen := by
  cases leads_of_move moves with
  | waits early silent =>
    refine ⟨fun next follows => ?_, by simp [silent]⟩
    cases early next follows <;> trivial
  | takes req caps owner on ipc attached => simp [Job.Checked]
  | checks req caps owner on ipc passes =>
    have decides := decides task rfl _ waits req rfl
    have fresh : Fresh req (s.projection req.session) := by
      by_cases expects : Expects req
      · exact fresh_of_decided (decides expects) passes
      · exact fresh_of_unexpected expects
    exact ⟨by simpa [Job.Checked] using fresh, by simp⟩
  | gates req caps owner on ipc seen op performs passes =>
    exact ⟨by simpa [Job.Checked] using checked, by simp⟩
  | writes req owner on ipc seen =>
    refine ⟨by simp [Job.Checked], fun w written => ?_⟩
    obtain ⟨method, -, rfl⟩ := Option.map_eq_some_iff.mp written
    exact checked

theorem checked_step
    (ledger : Ledger (fun _ job => job.Checked) (fun _ w => Fresh w.request w.seen) s)
    (decides : s.Decides i) :
    Ledger (fun _ job => job.Checked) (fun _ w => Fresh w.request w.seen) (s.step i) := by
  refine ledger.step (fun _ checked => checked) (fun _ fresh => fresh) ?_ ?_
  · intro job early
    cases early <;> trivial
  · rintro task answer job m rfl waits moves checked
    exact checked_move decides waits moves checked

/-- The two checks agree on a state exactly if it decides the request; and in a run whose
checks are all decided, nothing is written unless the expected turn was the current one
and the revision the expected one, an interrupt of exactly the current turn apart. -/
theorem writes_fresh_where_decided (config : AdapterConfig) (connected : Bool)
    (inputs : List Input)
    (decides : Along step Decides (start config connected) inputs) :
    (∀ req view, gatewayVerdict req view = stale req view ↔ Decided req view) ∧
    (∀ req view, Expects req → stale req view = none → (Fresh req view ↔ Decided req view)) ∧
    ∀ w ∈ (inputs.foldl step (start config connected)).writes, Fresh w.request w.seen := by
  refine ⟨fun req view => gatewayVerdict_eq_iff view, fun req view expects passes =>
    ⟨decided_of_fresh expects, fun decided => fresh_of_decided decided passes⟩, ?_⟩
  have ledger : Ledger (fun _ job => job.Checked) (fun _ w => Fresh w.request w.seen)
      (inputs.foldl step (start config connected)) :=
    Along.reached (fun s i => checked_step) ⟨by simp [start], by simp [start]⟩ decides
  exact ledger.written

def steerRequest : CommandRequest where
  requestId := 2
  operation := .steerTurn
  deviceId := "device"
  agentKind := .codexDesktop
  session := "thread"
  expectedTurnId := some ⟨"turn-1", false⟩
  payload := .steer "rather this"

def runningView : SessionView where
  projection := { runtimeRevision := 4, phase := .running, currentTurn := some ⟨"turn-1", false⟩ }
  cwd := some "/work"

/-- The same session after its turn has ended. -/
def endedView : SessionView where
  projection := { runtimeRevision := 5 }
  cwd := some "/work"

theorem writes_fresh_where_decided_steered :
    let inputs := .applied "thread" runningView :: .submit steerRequest ::
      .replicate 3 (.answer 0 .continued) ++ fromOwner 0 "desktop"
    let s := inputs.foldl step (start triedConfig true)
    s.writes.length = 1 ∧
    (∀ req view, gatewayVerdict req view = stale req view ↔ Decided req view) ∧
    (∀ req view, Expects req → stale req view = none → (Fresh req view ↔ Decided req view)) ∧
    ∀ w ∈ s.writes, Fresh w.request w.seen :=
  ⟨by decide, writes_fresh_where_decided triedConfig true _ (by decide)⟩

/-- The turn ends between the two checks. -/
def endedRun : List Input :=
  .applied "thread" runningView :: .submit steerRequest :: .answer 0 .continued ::
    .applied "thread" endedView :: .answer 0 .continued :: .answer 0 .continued ::
      fromOwner 0 "desktop"

theorem ended_turn_steered :
    gatewayVerdict steerRequest (some endedView.projection) ≠
      stale steerRequest (some endedView.projection) ∧
    ∃ w ∈ (endedRun.foldl step (start triedConfig true)).writes,
      w.request = steerRequest ∧ w.seen = some endedView.projection ∧
        ¬ Fresh w.request w.seen := by
  decide

end AgentConsole.Bridge.Adapter
