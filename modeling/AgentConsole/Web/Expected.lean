import AgentConsole.Web.SnapshotAgree
import AgentConsole.Bridge.Gateway

/-! # The expectations a command carries

A command names the turn and the revision of the snapshot the client saw last, and the
gateway refuses it as `STALE_TURN` when one of them is no longer current.  Between the two
the client keeps only the id of a turn and a revision as a number. -/

namespace AgentConsole.Web

open AgentConsole.Lib AgentConsole.SessionJson
open Binary64 (maxSafe)

/-- How the client got the snapshot. -/
inductive Path where
  | http | stream
  deriving DecidableEq, Repr

/-- What a 64-bit integer of a snapshot becomes on the path. -/
def Path.number : Path → Nat → Nat
  | .http => Binary64.round
  | .stream => Binary64.clamp

/-- `turn_id_to_proto` -/
def turnIdToProto (turn : Bridge.TurnId) : Wire.TurnId := ⟨turn.id, turn.synthetic⟩

/-- `turn_id_from_proto` -/
def turnIdFromProto (turn : Wire.TurnId) : Bridge.TurnId := ⟨turn.id, turn.synthetic⟩

/-- `runtime_snapshot_to_proto`: the turn and the revision are those of `current`, phase and
start of the turn and the other fields those of `rest`. -/
def runtimeSnapshotToProto (current : Bridge.RuntimeSnapshot) (rest : Wire.RuntimeSnapshot) :
    Wire.RuntimeSnapshot :=
  { rest with
    runtimeRevision := current.runtimeRevision
    currentTurn := current.currentTurn.map fun turn =>
      { turn := some (turnIdToProto turn)
        phase := (rest.currentTurn.map (·.phase)).getD 0
        startedAt := rest.currentTurn.bind (·.startedAt) } }

/-- The view the client builds of a snapshot. -/
def received (path : Path) (sessionId : String) (snapshot : Wire.RuntimeSnapshot) : SessionView :=
  match path with
  | .http => mapRuntimeSnapshotJson path.number sessionId (runtimeSnapshotJson snapshot)
  | .stream => mapRuntimeSnapshotProto path.number sessionId snapshot

/-- The expectations of a `CommandRequest` message. -/
structure Expectations where
  expectedTurnId : Option Wire.TurnId
  expectedRuntimeRevision : Option Nat
  deriving DecidableEq, Repr

/-- `#commandEnvelope`, with what `sendCommand` of the store fills in from the view.  The
turn loses its flag, and a revision that is no `uint64` cannot be encoded. -/
def commandEnvelope (view : SessionView) : Option Expectations :=
  if view.runtimeRevision < 2 ^ 64 then
    some {
      expectedTurnId := view.activeTurnId.map fun id => { id, synthetic := false }
      expectedRuntimeRevision := some view.runtimeRevision }
  else none

/-- `command_request_from_proto`, for a command that is `base` without its expectations. -/
def commandRequestFromProto (base : Bridge.CommandRequest) (sent : Expectations) :
    Bridge.CommandRequest :=
  { base with
    expectedTurnId := sent.expectedTurnId.map turnIdFromProto
    expectedRuntimeRevision := sent.expectedRuntimeRevision }

/-! ## What the client keeps -/

theorem received_eq (path : Path) (sessionId : String) (snapshot : Wire.RuntimeSnapshot) :
    received path sessionId snapshot = mapRuntimeSnapshotProto path.number sessionId snapshot := by
  cases path with
  | http => exact mapRuntimeSnapshotJson_json round_word sessionId snapshot
  | stream => rfl

theorem received_runtimeRevision (path : Path) (sessionId : String)
    (current : Bridge.RuntimeSnapshot) (rest : Wire.RuntimeSnapshot) :
    (received path sessionId (runtimeSnapshotToProto current rest)).runtimeRevision =
      path.number current.runtimeRevision := by
  rw [received_eq]
  rfl

/-- The id of the turn is kept unless it is empty. -/
theorem received_activeTurnId (path : Path) (sessionId : String)
    (current : Bridge.RuntimeSnapshot) (rest : Wire.RuntimeSnapshot) :
    (received path sessionId (runtimeSnapshotToProto current rest)).activeTurnId =
      current.currentTurn.bind fun turn => nonempty turn.id := by
  rw [received_eq]
  cases turn : current.currentTurn <;>
    simp [mapRuntimeSnapshotProto, runtimeSnapshotToProto, turn, turnIdToProto]

/-- The turn the gateway is told to expect. -/
def expectedTurn (current : Bridge.RuntimeSnapshot) : Option Bridge.TurnId :=
  (current.currentTurn.bind fun turn => nonempty turn.id).map fun id => ⟨id, false⟩

/-- The command of a client that saw `current` last. -/
theorem commandRequest_eq (path : Path) (sessionId : String) (current : Bridge.RuntimeSnapshot)
    (rest : Wire.RuntimeSnapshot) (base : Bridge.CommandRequest) :
    (commandEnvelope (received path sessionId (runtimeSnapshotToProto current rest))).map
        (commandRequestFromProto base) =
      if path.number current.runtimeRevision < 2 ^ 64 then
        some { base with
          expectedTurnId := expectedTurn current
          expectedRuntimeRevision := some (path.number current.runtimeRevision) }
      else none := by
  unfold commandEnvelope
  rw [received_runtimeRevision, received_activeTurnId]
  split
  · simp [commandRequestFromProto, expectedTurn, turnIdFromProto, Function.comp_def]
  · rfl

/-! ## The gateway's checks -/

/-- The gateway meets the expectation of the turn exactly for native turns and for turns
without an id. -/
theorem expectedTurn_current_iff (current : Bridge.RuntimeSnapshot) :
    (expectedTurn current = none ∨ current.currentTurn = expectedTurn current) ↔
      ∀ turn ∈ current.currentTurn, turn.id = "" ∨ turn.synthetic = false := by
  unfold expectedTurn
  rcases current.currentTurn with _ | ⟨id, synthetic⟩
  · simp
  · by_cases missing : id = ""
    · simp [nonempty, missing]
    · simp [nonempty, missing]

/-- The two checks of the gateway, one after the other. -/
theorem stale_eq_none_iff (req : Bridge.CommandRequest) (snapshot : Bridge.RuntimeSnapshot) :
    Bridge.Gateway.stale req snapshot = none ↔
      (∀ expected ∈ req.expectedRuntimeRevision,
        expected = snapshot.runtimeRevision ∨
          req.permitsRevisionDrift snapshot.currentTurn = true) ∧
      (req.expectedTurnId = none ∨ snapshot.currentTurn = req.expectedTurnId) := by
  have turnChecked : Bridge.Gateway.stale.staleTurn req snapshot = none ↔
      req.expectedTurnId = none ∨ snapshot.currentTurn = req.expectedTurnId := by
    unfold Bridge.Gateway.stale.staleTurn
    cases req.expectedTurnId <;> simp
  rw [← turnChecked]
  unfold Bridge.Gateway.stale
  cases req.expectedRuntimeRevision with
  | none => simp
  | some expected =>
    by_cases moved : expected ≠ snapshot.runtimeRevision ∧
        ¬ req.permitsRevisionDrift snapshot.currentTurn = true
    · simp [moved.1, moved.2]
    · dsimp only
      rw [if_neg moved]
      simp only [Option.mem_some_iff, forall_eq']
      constructor
      · intro unmoved
        exact ⟨by tauto, unmoved⟩
      · exact fun passed => passed.2

/-- A command may name an older revision exactly when it interrupts the turn it names. -/
theorem permitsRevisionDrift_iff (req : Bridge.CommandRequest) (current : Option Bridge.TurnId) :
    req.permitsRevisionDrift current = true ↔
      req.payload = .interrupt ∧ ∃ turn ∈ req.expectedTurnId, current = some turn := by
  unfold Bridge.CommandRequest.permitsRevisionDrift
  cases req.expectedTurnId with
  | none => simp
  | some turn =>
    simp only [Option.isSome_some, Bool.and_true, Bool.and_eq_true, decide_eq_true_eq,
      beq_iff_eq, Option.mem_some_iff, exists_eq_left']
    rw [eq_comm (a := some turn)]

/-- The snapshot a command is built from passes: its turn is native or without an id, and
the revision survives the path unless the command interrupts the very turn. -/
def Passes (path : Path) (current : Bridge.RuntimeSnapshot) (payload : Bridge.CommandPayload) :
    Prop :=
  (∀ turn ∈ current.currentTurn, turn.id = "" ∨ turn.synthetic = false) ∧
    (path.number current.runtimeRevision = current.runtimeRevision ∨
      payload = .interrupt ∧ ∃ turn ∈ current.currentTurn, turn.id ≠ "")

theorem stale_command_iff (path : Path) (current : Bridge.RuntimeSnapshot)
    (base : Bridge.CommandRequest) :
    Bridge.Gateway.stale { base with
        expectedTurnId := expectedTurn current
        expectedRuntimeRevision := some (path.number current.runtimeRevision) } current = none ↔
      Passes path current base.payload := by
  rw [stale_eq_none_iff, expectedTurn_current_iff, Passes, and_comm]
  simp only [Option.mem_some_iff, forall_eq', permitsRevisionDrift_iff]
  refine and_congr_right fun native => or_congr_right (and_congr_right fun _ => ?_)
  rw [← expectedTurn_current_iff] at native
  unfold expectedTurn at native ⊢
  revert native
  rcases current.currentTurn with _ | ⟨id, synthetic⟩
  · simp
  · by_cases missing : id = "" <;> simp [nonempty, missing]

/-- A command built from the latest snapshot is not refused as stale exactly when that
snapshot passes, or the revision is too large for the command to be sent. -/
theorem latest_snapshot_not_stale_iff (path : Path) (sessionId : String)
    (current : Bridge.RuntimeSnapshot) (rest : Wire.RuntimeSnapshot)
    (base : Bridge.CommandRequest) :
    (∀ request,
        (commandEnvelope (received path sessionId (runtimeSnapshotToProto current rest))).map
          (commandRequestFromProto base) = some request →
        Bridge.Gateway.stale request current = none) ↔
      2 ^ 64 ≤ path.number current.runtimeRevision ∨ Passes path current base.payload := by
  rw [commandRequest_eq]
  split
  · rename_i sent
    simp only [Option.some.injEq, forall_eq', stale_command_iff]
    constructor
    · exact .inr
    · rintro (large | passes)
      · omega
      · exact passes
  · rename_i unsent
    constructor
    · exact fun _ => .inl (by omega)
    · intro _ request none
      cases none

/-- A synthetic turn comes back as a native one, which is not the current turn. -/
theorem synthetic_turn_stale :
    ¬ ∀ request,
        (commandEnvelope (received .stream "s-1"
            (runtimeSnapshotToProto ⟨7, some ⟨"turn-1", true⟩, [], []⟩
              ⟨7, none, none, [], [], [], [], 0, none, none, []⟩))).map
          (commandRequestFromProto
            ⟨1, .steerTurn, "d-1", .codexDesktop, "n-1", none, none, .steer "go on"⟩) =
            some request →
        Bridge.Gateway.stale request ⟨7, some ⟨"turn-1", true⟩, [], []⟩ = none := by
  intro passes
  have stale := passes _ rfl
  exact absurd stale (by decide +kernel)

end AgentConsole.Web
