import AgentConsole.Lib.Run
import AgentConsole.Bridge.MapperSteps

/-! # Owners of a session

The document of a session comes from the Desktop that owns it.  Owners change, and each numbers
the revisions of its own document.  The pump takes every change as it comes: a snapshot replaces
the document, and a batch of patches is applied where its base is the revision that the mapper
has.

The pump of a replaced connection is aborted.  The task stops when it waits the next time; until
then it goes on with what its channel has.

`sender`, `applied` and `returned` are ghosts. -/

namespace AgentConsole.Bridge

open AgentConsole.Lib

abbrev Owner := Nat

/-- The document of each owner at each of its revisions. -/
abbrev Documents := Owner → Nat → Json

/-- `StreamChange`, with the owner that sent it.  The patches of an owner lead from its document
at their base to that at their revision. -/
inductive Change (documents : Documents) where
  | snapshot (owner : Owner) (revision : Nat)
  | patches (owner : Owner) (baseRevision revision : Nat) (patches : List Json)
      (leads : (documents owner baseRevision).applyImmerPatches patches =
        .ok (documents owner revision))

namespace Change

variable {documents : Documents}

def owner : Change documents → Owner
  | .snapshot owner _ => owner
  | .patches owner _ _ _ _ => owner

def revision : Change documents → Nat
  | .snapshot _ revision => revision
  | .patches _ _ revision _ _ => revision

/-- The mapper after a change; `none` asks for a snapshot. -/
def apply (now : Nat) (m : SessionMapper) : Change documents → Option SessionMapper
  | .snapshot owner revision => some (m.applySnapshot now revision (documents owner revision)).1
  | .patches _ baseRevision revision batch _ =>
    (m.applyPatches now baseRevision revision batch).map (·.1)

end Change

/-- The pump of a connection.  `running` says that its task is being polled. -/
structure Pump (documents : Documents) where
  events : List (Change documents) := []
  taken : Option (Change documents) := none
  running : Bool := false
  aborted : Bool := false

/-- What a call of `refresh_snapshot` has returned: the snapshot, who sent it, and the revision
that the owner had reported for the call. -/
structure Refreshed where
  owner : Owner
  reported : Nat
  revision : Nat
  sender : Option (Owner × Nat)
  deriving DecidableEq, Repr

/-- The adapter for one session, which is registered.  The pumps are numbered by their connections; `sender` is the
owner, with the revision, of the change that was applied last. -/
structure Follower (documents : Documents) where
  mapper : SessionMapper := {}
  pumps : List (Pump documents) := []
  calls : FiniteMap Nat (Owner × Nat) := ∅
  sender : Option (Owner × Nat) := none
  applied : List Nat := []
  returned : List Refreshed := []

namespace Follower

variable {documents : Documents}

inductive Input (documents : Documents) where
  /-- `try_attach` -/
  | attach
  /-- The reader of a connection puts an event into its channel. -/
  | arrive (pump : Nat) (change : Change documents)
  | poll (pump : Nat)
  /-- The task of the pump waits. -/
  | wait (pump : Nat)
  | take (pump : Nat)
  /-- The pump has the lock, and applies what it has taken. -/
  | apply (now pump : Nat)
  | flush (now : Nat)
  /-- `load_complete_history` of a call of `refresh_snapshot` is answered. -/
  | reported (call : Nat) (owner : Owner) (revision : Nat)
  /-- The call looks for its snapshot. -/
  | look (call : Nat)

variable (st : Follower documents)

def onPump (pump : Nat) (f : Pump documents → Pump documents) : Follower documents :=
  { st with pumps := st.pumps.modify pump f }

/-- `try_attach`: the pump before is aborted, and a new one spawned. -/
def attach : Follower documents :=
  { st with pumps := (st.pumps.map fun pump => { pump with aborted := true }) ++ [{}] }

/-- An aborted task is not polled again. -/
def poll (pump : Pump documents) : Pump documents :=
  if pump.aborted then pump else { pump with running := true }

def wait (pump : Pump documents) : Pump documents :=
  if pump.taken.isNone then { pump with running := false } else pump

def take (pump : Pump documents) : Pump documents :=
  match pump.running, pump.taken, pump.events with
  | true, none, change :: rest => { pump with taken := some change, events := rest }
  | _, _, _ => pump

/-- The change that a pump has taken. -/
def takenBy (pump : Nat) : Option (Change documents) := (st.pumps[pump]?).bind (·.taken)

/-- `StreamChanged` in `pump_loop` -/
def applyTaken (now pump : Nat) : Follower documents :=
  match st.takenBy pump with
  | none => st
  | some change =>
    let done := st.onPump pump fun pump => { pump with taken := none }
    match change.apply now st.mapper with
    | none => done
    | some mapper =>
      { done with
        mapper := mapper
        sender := some (change.owner, change.revision)
        applied := st.applied ++ [pump] }

/-- The revision of `runtime_snapshot`. -/
def snapshotRevision : Option Nat := st.mapper.state.map fun _ => st.mapper.revision.getD 0

/-- What the loop of `refresh_snapshot` returns, once the revision is high enough. -/
def found (call : Nat) : Option Refreshed :=
  (st.calls.get? call).bind fun (owner, reported) =>
    st.snapshotRevision.bind fun revision =>
      if reported ≤ revision then some ⟨owner, reported, revision, st.sender⟩ else none

def look (call : Nat) : Follower documents :=
  match st.found call with
  | none => st
  | some refreshed =>
    { st with calls := st.calls.erase call, returned := st.returned ++ [refreshed] }

def step : Input documents → Follower documents
  | .attach => st.attach
  | .arrive pump change =>
    st.onPump pump fun pump => { pump with events := pump.events ++ [change] }
  | .poll pump => st.onPump pump poll
  | .wait pump => st.onPump pump wait
  | .take pump => st.onPump pump take
  | .apply now pump => st.applyTaken now pump
  | .flush now => { st with mapper := (st.mapper.flushDueOutputs now).1 }
  | .reported call owner revision =>
    { st with calls := st.calls.insert call (owner, revision) }
  | .look call => st.look call

/-! ## Following the owner -/

/-- The document is the one that its sender had; the connections applied their events in their
order; and a refresh returned a snapshot of the owner that it asked, at least as new as the
owner had reported. -/
structure Follows (st : Follower documents) : Prop where
  document : ∀ owner revision, st.sender = some (owner, revision) →
    st.mapper.state = some (documents owner revision)
  order : st.applied.Pairwise (· ≤ ·)
  returned : ∀ refreshed ∈ st.returned, ∃ revision,
    refreshed.sender = some (refreshed.owner, revision) ∧ refreshed.reported ≤ revision

/-- A batch of patches is applied to the document that its owner had at the base. -/
def Fits (m : SessionMapper) : Change documents → Prop
  | .snapshot _ _ => True
  | .patches owner baseRevision revision patches _ =>
    (m.patched? baseRevision revision patches).isSome = true →
      m.state = some (documents owner baseRevision)

/-- An applied change fits and comes from no earlier connection than those before; a snapshot is
returned while the document is that of the owner that was asked. -/
def Regular (st : Follower documents) : Input documents → Prop
  | .apply now pump => ∀ change, st.takenBy pump = some change →
      Fits st.mapper change ∧
        ((change.apply now st.mapper).isSome = true → ∀ earlier ∈ st.applied, earlier ≤ pump)
  | .look call => ∀ owner reported, st.calls.get? call = some (owner, reported) →
      (∃ revision, st.snapshotRevision = some revision ∧ reported ≤ revision) →
      ∃ revision, st.sender = some (owner, revision)
  | _ => True

/-! ## The revision of the mapper -/

section Revision

open SessionMapper

variable (m : SessionMapper)

theorem takePendingOutput_revision (key : String) :
    (m.takePendingOutput key).1.revision = m.revision := by
  unfold takePendingOutput
  split
  · rfl
  · dsimp only
    split <;> rfl

theorem outputChange_revision (now : Nat) (key : String) (old new : ItemTrack) :
    (m.outputChange now key old new).1.revision = m.revision := by
  unfold outputChange maybeFlushFull
  split
  · split
    · split
      · split
        · exact takePendingOutput_revision _ key
        · rfl
      · rfl
    · rfl
  · rfl

theorem applyItem_revision (first : Bool) (now : Nat) (state : Json) (key : String)
    (new : ItemTrack) : (m.applyItem first now state key new).1.revision = m.revision := by
  unfold applyItem
  split
  · rfl
  · unfold outputDeltaEvents
    by_cases output : isOutputItem new.nativeType = true
    · rw [if_pos output]
      dsimp only
      split
      · exact (takePendingOutput_revision _ key).trans (outputChange_revision m now key _ new)
      · exact outputChange_revision m now key _ new
    · rw [if_neg output]

theorem applyItems_revision (first : Bool) (now : Nat) (state : Json)
    (entries : List (String × ItemTrack)) :
    (m.applyItems first now state entries).1.revision = m.revision := by
  induction entries generalizing m with
  | nil => rfl
  | cons e entries inductionHypothesis =>
    exact (inductionHypothesis _).trans (applyItem_revision m first now state e.1 e.2)

theorem takeAll_revision (keys : List String) : (m.takeAll keys).1.revision = m.revision := by
  induction keys generalizing m with
  | nil => rfl
  | cons key keys inductionHypothesis =>
    exact (inductionHypothesis _).trans (takePendingOutput_revision m key)

/-- A new document, with its revision. -/
theorem applySnapshot_header (now revision : Nat) (state : Json) :
    (m.applySnapshot now revision state).1.state = some state ∧
      (m.applySnapshot now revision state).1.revision = some revision := by
  unfold applySnapshot
  exact ⟨applyItems_state _ _ _ _ _, applyItems_revision _ _ _ _ _⟩

end Revision

/-! ## One step -/

variable {st : Follower documents} {input : Input documents}

/-- A change that fits leaves the document of its owner. -/
theorem apply_header {now : Nat} {m m' : SessionMapper} {change : Change documents}
    (applied : change.apply now m = some m') (fits : Fits m change) :
    m'.state = some (documents change.owner change.revision) ∧
      m'.revision = some change.revision := by
  cases change with
  | snapshot owner revision =>
    cases applied
    exact applySnapshot_header m now revision _
  | patches owner baseRevision revision patches leads =>
    obtain ⟨result, done, rfl⟩ := Option.map_eq_some_iff.mp applied
    obtain ⟨patched, found, rfl⟩ := Option.map_eq_some_iff.mp done
    have held := fits (by rw [found]; rfl)
    -- the patches are applied to the owner's own document
    have same : patched = documents owner revision := by
      unfold SessionMapper.patched? at found
      split at found
      · cases found
      · rw [held, Option.bind_some, leads] at found
        exact (Option.some.inj found).symm
    rw [same]
    exact applySnapshot_header m now revision _

/-- The document and the revision belong together. -/
structure Inv (st : Follower documents) : Prop extends Follows st where
  revision : ∀ owner revision, st.sender = some (owner, revision) →
    st.mapper.revision = some revision

/-- Steps that leave the mapper and the ghosts alone. -/
theorem Inv.of_same (inv : st.Inv) {st' : Follower documents} (mapper : st'.mapper = st.mapper)
    (sender : st'.sender = st.sender) (applied : st'.applied = st.applied)
    (returned : st'.returned = st.returned) : st'.Inv where
  document := by
    rw [mapper, sender]
    exact inv.document
  order := by
    rw [applied]
    exact inv.order
  returned := by
    rw [returned]
    exact inv.returned
  revision := by
    rw [mapper, sender]
    exact inv.revision

theorem inv_flush (inv : st.Inv) (now : Nat) :
    ({ st with mapper := (st.mapper.flushDueOutputs now).1 } : Follower documents).Inv where
  document owner revision sent := by
    show (st.mapper.takeAll _).1.state = _
    rw [SessionMapper.takeAll_state]
    exact inv.document owner revision sent
  order := inv.order
  returned := inv.returned
  revision owner revision sent := by
    show (st.mapper.takeAll _).1.revision = _
    rw [takeAll_revision]
    exact inv.revision owner revision sent

theorem inv_apply (inv : st.Inv) {now pump : Nat} (regular : st.Regular (.apply now pump)) :
    (st.applyTaken now pump).Inv := by
  unfold applyTaken
  cases taken : st.takenBy pump with
  | none => exact inv
  | some change =>
    obtain ⟨fits, ordered⟩ := regular change taken
    dsimp only
    cases applied : change.apply now st.mapper with
    | none => exact inv.of_same rfl rfl rfl rfl
    | some mapper =>
      obtain ⟨document, revision⟩ := apply_header applied fits
      have last := ordered (by rw [applied]; rfl)
      constructor
      · constructor
        · rintro owner number sent
          cases sent
          exact document
        · rw [List.pairwise_append]
          refine ⟨inv.order, List.pairwise_singleton _ _, ?_⟩
          intro earlier before later now_
          rw [List.mem_singleton.mp now_]
          exact last earlier before
        · exact inv.returned
      · rintro owner number sent
        cases sent
        exact revision

theorem inv_look (inv : st.Inv) {call : Nat} (regular : st.Regular (.look call)) :
    (st.look call).Inv := by
  unfold look
  cases found : st.found call with
  | none => exact inv
  | some refreshed =>
    obtain ⟨asked, waits, rest⟩ := Option.bind_eq_some_iff.mp found
    obtain ⟨owner, reported⟩ := asked
    obtain ⟨revision, shown, decided⟩ := Option.bind_eq_some_iff.mp rest
    split at decided
    · rename_i reached
      cases decided
      obtain ⟨sentRevision, sent⟩ := regular owner reported waits ⟨revision, shown, reached⟩
      have same : sentRevision = revision := by
        simpa [snapshotRevision, inv.document _ _ sent, inv.revision _ _ sent] using shown
      constructor
      · constructor
        · exact inv.document
        · exact inv.order
        · intro entry inside
          obtain before | last := List.mem_append.mp inside
          · exact inv.returned entry before
          · rw [List.mem_singleton.mp last]
            exact ⟨sentRevision, sent, same ▸ reached⟩
      · exact inv.revision
    · cases decided

theorem inv_step (inv : st.Inv) (regular : st.Regular input) : (st.step input).Inv := by
  cases input with
  | apply now pump => exact inv_apply inv regular
  | look call => exact inv_look inv regular
  | flush now => exact inv_flush inv now
  | attach => exact inv.of_same rfl rfl rfl rfl
  | arrive pump change => exact inv.of_same rfl rfl rfl rfl
  | poll pump => exact inv.of_same rfl rfl rfl rfl
  | wait pump => exact inv.of_same rfl rfl rfl rfl
  | take pump => exact inv.of_same rfl rfl rfl rfl
  | reported call owner revision => exact inv.of_same rfl rfl rfl rfl

/-- The first owner leaves the value at 1; the second has 2, and 5 from revision 2. -/
def twoOwners : Documents := fun owner revision =>
  .obj [("owner", .num owner),
    ("value", .num (if owner = 0 then 1 else if revision < 2 then 2 else 5))]

/-- A change comes and is applied. -/
def applies (change : Change twoOwners) : List (Input twoOwners) :=
  [.arrive 0 change, .take 0, .apply 0 0]

def started : List (Input twoOwners) := [.attach, .poll 0]

end Follower

end AgentConsole.Bridge
