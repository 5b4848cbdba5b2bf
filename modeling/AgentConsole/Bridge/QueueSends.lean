import AgentConsole.Bridge.QueueSteps

/-! # When the queue sends by itself

`maybe_auto_send` looks at the stored row, waits for a runtime snapshot and hands the row it
has read to the executor.  The row and the session may change in between, and the turn the
entry is bound to is not looked at; `Undisturbed` is what a run must keep for each send to be
one that is allowed.  A paused entry is only queued again by `resume` or a replacement.

`seen` is a ghost: the conversation states that the mapper has applied. -/

namespace AgentConsole.Bridge

open AgentConsole.Lib

/-- The conversation shows a turn of this id as completed. -/
def Conversation.Completes (c : Conversation) (turn : String) : Prop :=
  ∃ t ∈ c.turns, t.id.id = turn ∧ mapTurnOutcome t.status = some .completed

/-- Nothing runs, and nobody has to answer. -/
def RuntimeSnapshot.Quiet (snapshot : RuntimeSnapshot) : Prop :=
  snapshot.currentTurn = none ∧ snapshot.hasAttention = false

/-- The queue of a session, with the conversation states it has been told. -/
structure ObservedQueue where
  queue : SessionQueue := {}
  seen : List Conversation := []

namespace ObservedQueue

def step (o : ObservedQueue) (i : Input) : ObservedQueue where
  queue := o.queue.step i
  seen := match i with
    | .observe c => o.seen ++ [c]
    | _ => o.seen

/-- The turn that the entry is bound to has completed, if it is bound to one. -/
def TurnDone (o : ObservedQueue) (entry : NextTurnEntry) : Prop :=
  entry.afterTurnId = idleAfterTurn ∨ ∃ c ∈ o.seen, c.Completes entry.afterTurnId

/-- The store has the entry of this number, queued, and its turn has completed. -/
def Due (o : ObservedQueue) (id : Nat) : Prop :=
  ∃ entry, o.queue.row = some ⟨id, entry⟩ ∧ entry.status = .queued ∧ o.TurnDone entry

/-- The session, as the Bridge knows it, is idle and needs nobody. -/
def Quiet (o : ObservedQueue) : Prop :=
  ∃ snapshot, o.queue.runtimeSnapshot = some snapshot ∧ snapshot.Quiet

/-! ## What is promised -/

/-- The job is to change the row, whatever row there is. -/
def writes : Job → Bool
  | .setWrite _ replace _ => replace
  | .pauseWrite _ | .resumeWrite _ _ | .markWrite _ _ | .cancelClear | .sentClear _ => true
  | _ => false

/-- From the snapshot to the hand-over: a quiet snapshot still finds the entry that was read,
with its turn completed; then nothing but a `resume` of the same entry, to a turn that has
completed, writes to the store, and no turn begins and no question comes. -/
structure Undisturbed (o : ObservedQueue) (i : Input) : Prop where
  found : ∀ read snapshot, o.queue.acting i = some (.autoSnapshot read, .snapshot) →
    o.queue.runtimeSnapshot = some snapshot → snapshot.Quiet → o.Due read.id
  store : ∀ u read job, o.queue.job? u = some (.autoHand read) →
    o.queue.acting i = some (job, .stored) → writes job = true →
      ∃ own snapshot, job = .resumeWrite own snapshot ∧ own.id = read.id ∧
        o.TurnDone (own.rebound snapshot).entry
  session : ∀ u read c, o.queue.job? u = some (.autoHand read) → i = .observe c →
    (Projection.apply c).runtimeSnapshot.Quiet

variable {o : ObservedQueue} {i : Input}

/-! ## Moves -/

/-- Only a quiet snapshot leads to a hand-over. -/
theorem hand_of_move {s : SessionQueue} {job : Job} {answer : Answer} {m : Move} {read : Row}
    (move : job.move s answer = some m) (goes : m.next = some (.autoHand read)) :
    job = .autoSnapshot read ∧ answer = .snapshot ∧ m.effect = .keep ∧
      ∃ snapshot, s.runtimeSnapshot = some snapshot ∧ snapshot.Quiet := by
  cases job <;> simp only [Job.move] at move <;> split at move <;> (repeat' split at move) <;>
    cases move <;> simp [Move.settled, Job.watching] at goes
  next snapshot known idle quiet =>
    subst goes
    refine ⟨rfl, rfl, rfl, snapshot, known, ?_, ?_⟩
    · simpa using idle
    · simpa using quiet

/-- What changes the row. -/
theorem writes_of_move {s : SessionQueue} {job : Job} {answer : Answer} {m : Move} {row : Row}
    (move : job.move s answer = some m) (stored : s.row = some row) :
    m.effect = .keep ∨ answer = .stored ∧ writes job = true := by
  rcases SessionQueue.effect_of_move move with keeps | accepts | rewrites | clears
  · exact .inl keeps
  · obtain ⟨entry, replace, request, rfl, rfl, effect⟩ := accepts
    cases replace with
    | true => exact .inr ⟨rfl, rfl⟩
    | false =>
      -- `set` finds the row and leaves it
      simp [Job.move, stored] at move
      exact .inl (by rw [← move])
  · obtain ⟨read, written, rewrites, rfl, -⟩ := rewrites
    refine .inr ⟨rfl, ?_⟩
    cases job <;> first | rfl | cases rewrites
  · obtain ⟨rfl | ⟨sent, rfl⟩, rfl, -⟩ := clears <;> exact .inr ⟨rfl, rfl⟩

theorem onEvent_handed (s : SessionQueue) (event : TurnLifecycle) :
    (s.onEvent event).handed = none ∧ ∀ read, (s.onEvent event).next ≠ some (.autoHand read) := by
  unfold SessionQueue.onEvent
  split <;> (try split) <;> simp

/-- Whoever is about to hand an entry over has a due entry of a quiet session. -/
structure Ready (o : ObservedQueue) : Prop where
  fresh : o.queue.Fresh
  ready : ∀ u read, o.queue.job? u = some (.autoHand read) → o.Due read.id ∧ o.Quiet

theorem Due.of_same {o' : ObservedQueue} {id : Nat} (due : o.Due id)
    (row : o'.queue.row = o.queue.row) (seen : o.seen ⊆ o'.seen) : o'.Due id := by
  obtain ⟨entry, stored, queued, done⟩ := due
  refine ⟨entry, row.trans stored, queued, done.imp_right ?_⟩
  rintro ⟨c, member, completes⟩
  exact ⟨c, seen member, completes⟩

theorem Quiet.of_same {o' : ObservedQueue} (quiet : o.Quiet)
    (projection : o'.queue.projection = o.queue.projection) : o'.Quiet := by
  obtain ⟨snapshot, known, idle⟩ := quiet
  refine ⟨snapshot, ?_, idle⟩
  unfold SessionQueue.runtimeSnapshot at known ⊢
  rw [projection, known]

theorem step_seen (o : ObservedQueue) (i : Input) : o.seen ⊆ (o.step i).seen := by
  cases i with
  | observe c => exact List.subset_append_left _ _
  | _ => exact List.Subset.refl _

/-- A step that does not disturb keeps everyone ready. -/
theorem Ready.step (ready : o.Ready) (undisturbed : o.Undisturbed i) : (o.step i).Ready := by
  refine ⟨ready.fresh.step i, fun u read running => ?_⟩
  cases SessionQueue.transition ready.fresh i with
  | called call kept view inflight jobs channels =>
    rw [show (o.step (.call call)).queue.job? u = _ from jobs u] at running
    split at running
    · cases call <;> cases running
    · obtain ⟨due, quiet⟩ := ready.ready u read running
      exact ⟨due.of_same kept.row (step_seen o _), quiet.of_same view⟩
  | observed c kept view inflight jobs channels =>
    rw [show (o.step (.observe c)).queue.job? u = _ from jobs u] at running
    obtain ⟨due, -⟩ := ready.ready u read running
    refine ⟨due.of_same kept.row (step_seen o _), (Projection.apply c).runtimeSnapshot, ?_,
      undisturbed.session u read c running rfl⟩
    exact congrArg (Option.map Projection.runtimeSnapshot) view
  | stuttered same silent =>
    rw [show (o.step i).queue = o.queue from same] at running
    obtain ⟨due, quiet⟩ := ready.ready u read running
    exact ⟨due.of_same (congrArg SessionQueue.row same) (step_seen o _),
      quiet.of_same (congrArg SessionQueue.projection same)⟩
  | received task event rest idle channel performed =>
    rw [show (o.step (.receive task)).queue.job? u = _ from performed.jobs u] at running
    split at running
    · exact absurd running ((onEvent_handed o.queue event).2 read)
    · obtain ⟨due, quiet⟩ := ready.ready u read running
      refine ⟨due.of_same (performed.row.trans ?_) (step_seen o _),
        quiet.of_same performed.projection⟩
      rw [SessionQueue.onEvent_effect]
      rfl
  | moved task answer job m acted move performed =>
    have acts : o.queue.acting (.answer task answer) = some (job, answer) := by
      simp [SessionQueue.acting, acted]
    rw [show (o.step (.answer task answer)).queue.job? u = _ from performed.jobs u] at running
    split at running
    · -- the snapshot has just been answered
      obtain ⟨rfl, rfl, keeps, snapshot, known, quiet⟩ := hand_of_move move running
      have due := undisturbed.found read snapshot acts known quiet
      refine ⟨due.of_same (performed.row.trans ?_) (step_seen o _),
        Quiet.of_same ⟨snapshot, known, quiet⟩ performed.projection⟩
      rw [keeps]
      rfl
    · obtain ⟨due, quiet⟩ := ready.ready u read running
      refine ⟨?_, quiet.of_same performed.projection⟩
      obtain ⟨entry, stored⟩ : ∃ entry, o.queue.row = some ⟨read.id, entry⟩ :=
        due.imp fun _ is => is.1
      rcases writes_of_move move stored with keeps | ⟨rfl, does⟩
      · refine due.of_same (performed.row.trans ?_) (step_seen o _)
        rw [keeps]
        rfl
      · obtain ⟨own, snapshot, rfl, same, done⟩ :=
          undisturbed.store u read job running acts does
        cases move
        refine ⟨(own.rebound snapshot).entry, ?_, rfl, done⟩
        rw [← same]
        exact performed.row

end ObservedQueue

/-- The queues of all sessions. -/
abbrev ObservedQueues := SessionId → ObservedQueue

namespace ObservedQueues

def init : ObservedQueues := fun _ => {}

/-- One input concerns one session. -/
def step : ObservedQueues → SessionId × Input → ObservedQueues := stepAt ObservedQueue.step

end ObservedQueues

namespace ObservedQueue

def isHand : Job → Bool
  | .autoHand _ => true
  | _ => false

/-- `Due`, computed. -/
def dueNow (o : ObservedQueue) (id : Nat) : Bool :=
  o.queue.row.any fun row => row.id == id && row.entry.status == .queued &&
    (row.entry.afterTurnId == idleAfterTurn || o.seen.any fun c => c.turns.any fun t =>
      t.id.id == row.entry.afterTurnId && mapTurnOutcome t.status == some .completed)

/-- Nobody is between the snapshot and the hand-over. -/
def noHand (o : ObservedQueue) : Bool :=
  o.queue.tasks.toList.all fun entry => !(entry.2.job.any isHand)

/-- No task is about to hand over, unless the input is that hand-over, and a snapshot finds a
due entry. -/
def calm (o : ObservedQueue) (i : Input) : Bool :=
  (o.noHand || i matches .answer _ .continued) &&
    match o.queue.acting i with
    | some (.autoSnapshot read, .snapshot) => o.dueNow read.id
    | _ => true

end ObservedQueue

namespace Queueing

/-- The entry is handed over. -/
def handed : List (SessionId × Input) := ofSession (completed ++ [.answer 1 .continued])

end Queueing

end AgentConsole.Bridge
