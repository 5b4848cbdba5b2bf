import AgentConsole.Bridge.QueueSteps

/-! # A queued entry has a reason to wait

An entry is sent only when a watcher receives a lifecycle event, or at the end of
`resume`.  It must not stay `QUEUED` when nothing is left to do about it: in a
quiescent state, its turn is still running or the user's attention is pending.

Two things break this.  An event that comes before the watcher is registered is never
seen, and attention that is resolved while the session is idle causes no lifecycle
event at all.  `Timely` excludes them.  The invariant behind the result says what work
is still due: for an idle session a look at the row, for a foreign turn a pause. -/

namespace AgentConsole.Bridge

open AgentConsole.Lib

/-- The event ends a turn with an outcome the watcher acts on. -/
def TurnLifecycle.ends (event : TurnLifecycle) : Prop :=
  event.phase = .idle ∧ event.outcome ≠ none ∧ event.outcome ≠ some .unknown

/-- The job ends with a row that is not queued. -/
def Job.settles : Job → Prop
  | .autoHand _ | .sending _ | .sentClear _ | .markRead _ | .markWrite _ _ => True
  | _ => False

/-- The job goes on to look at the row and the projection. -/
def Job.looks : Job → Prop
  | .watchCheck sends | .watchSubscribe sends => sends = true
  | .autoRead | .autoSnapshot _ => True
  | _ => False

namespace SessionQueue

variable {s s' : SessionQueue} {i : Input}

/-- The adapter's view of the session. -/
def view (s : SessionQueue) : Projection := s.projection.getD {}

/-- The row is in the store, to be sent. -/
def Queued (s : SessionQueue) (row : Row) : Prop :=
  s.row = some row ∧ row.entry.status = .queued

/-- No operation is running and every event was received. -/
def Quiescent (s : SessionQueue) : Prop :=
  ∀ u, s.job? u = none ∧ (s.channel? u).getD [] = []

/-- The entry's turn is running, or the session is active without naming a turn, or
attention is pending. -/
def HasReason (s : SessionQueue) (row : Row) : Prop :=
  (∃ turn, s.view.currentTurn = some turn ∧ turn.id = row.entry.afterTurnId) ∨
  (s.view.currentTurn = none ∧ s.view.phase ≠ .idle) ∨
  s.view.runtimeSnapshot.hasAttention = true

/-! ## Work that is due -/

/-- Some task is at a job in `J`, or has yet to receive an event in `E`. -/
def Pending (J : Job → Prop) (E : TurnLifecycle → Prop) (s : SessionQueue) : Prop :=
  ∃ u, (∃ job, s.job? u = some job ∧ J job) ∨ ∃ event ∈ (s.channel? u).getD [], E event

/-- Somebody will look at the row of an idle session. -/
def Due (s : SessionQueue) : Prop :=
  Pending (fun job => job.settles ∨ job.looks) TurnLifecycle.ends s

/-- Somebody will notice that `turn` is running. -/
def DueForeign (s : SessionQueue) (turn : TurnId) : Prop :=
  Pending (fun job => job.settles ∨ job = .runningRead turn)
    (fun event => event.phase ≠ .idle ∧ event.turn = turn) s

/-- The step loses no occasion to send:

* an entry is stored by `set` while its turn is running, and by `resume` with the turn
  that is running then;
* a lifecycle event that comes while an entry is queued finds a watcher, and an end of
  the turn has an outcome;
* attention is not resolved in an idle session with a queued entry, unless somebody
  is still going to look;
* the store does not fail where `mark_paused` or an automatic send needs it. -/
def Timely (s : SessionQueue) (i : Input) : Prop :=
  match i with
  | .observe c => ∀ row, s.Queued row →
    ((s.view.lifecycle c).isSome → (∃ u, (s.channel? u).isSome) ∧
      (c.phase = .idle → c.lastTerminal.isSome)) ∧
    (s.view.phase = .idle → s.view.runtimeSnapshot.hasAttention = true → c.phase = .idle →
      (Projection.apply c).runtimeSnapshot.hasAttention = true ∨ s.Due)
  | i =>
    match s.acting i with
    | some (.setWrite entry replace _, .stored) => s.row.isSome ∧ replace = false ∨
      s.view.currentTurn.map (·.id) = some entry.afterTurnId
    | some (.resumeWrite read snapshot, .stored) => s.view.currentTurn.isSome →
      s.view.currentTurn.map (·.id) = some (read.rebound snapshot).entry.afterTurnId
    | some (.autoRead, .storeFailed) | some (.runningRead _, .storeFailed)
    | some (.markRead _, .storeFailed) | some (.markWrite _ _, .storeFailed)
    | some (.sentClear _, .storeFailed) => False
    | _ => True

/-- What is due for the row in the store. -/
structure Attended (s : SessionQueue) : Prop where
  fresh : s.Fresh
  inflight : s.autoSendInflight = true → ∃ u job, s.job? u = some job ∧ job.sent?.isSome
  foreign : ∀ row turn, s.Queued row → s.view.currentTurn = some turn →
    turn.id ≠ row.entry.afterTurnId → s.DueForeign turn
  idle : ∀ row, s.Queued row → s.view.currentTurn = none → s.view.phase = .idle →
    s.view.runtimeSnapshot.hasAttention = false → s.Due

/-- In a quiescent state nothing is due, so the row has a reason. -/
theorem Attended.hasReason (inv : s.Attended) (quiet : s.Quiescent) {row : Row}
    (queued : s.Queued row) : s.HasReason row := by
  have nothing : ∀ J E, ¬ Pending J E s := by
    rintro J E ⟨u, ⟨job, running, -⟩ | ⟨event, member, -⟩⟩
    · simp [(quiet u).1] at running
    · simp [(quiet u).2] at member
  by_contra none
  simp only [HasReason, not_or, not_exists, not_and, Bool.not_eq_true, ne_eq, not_not] at none
  obtain ⟨other, active, noAttention⟩ := none
  cases current : s.view.currentTurn with
  | some turn => exact nothing _ _ (inv.foreign row turn queued current (other turn current))
  | none => exact nothing _ _ (inv.idle row queued current (active current) noAttention)

/-! ## Pending work stays -/

/-- A task that is known is not the one to be spawned next. -/
theorem Fresh.ne_of_channel (fresh : s.Fresh) {u : Nat} {event : TurnLifecycle}
    (member : event ∈ (s.channel? u).getD []) : u ≠ s.spawned := by
  rintro rfl
  simp [channel?, fresh s.spawned le_rfl] at member

theorem Fresh.ne_of_job (fresh : s.Fresh) {u : Nat} {job : Job} (running : s.job? u = some job) :
    u ≠ s.spawned := by
  rintro rfl
  simp [job?, fresh s.spawned le_rfl] at running

/-- A move of `task` leaves the work of the others; its own must go on. -/
theorem Pending.performed {J : Job → Prop} {E : TurnLifecycle → Prop} {task : Nat}
    {channel : Option (List TurnLifecycle)} {m : Move} (pending : Pending J E s)
    (fresh : s.Fresh) (performed : Performed s task channel m s')
    (own : ∀ job, s.job? task = some job → J job → ∃ next, m.next = some next ∧ J next)
    (events : ∀ event ∈ (s.channel? task).getD [], E event →
      event ∈ channel.getD [] ∨ Pending J E s') : Pending J E s' := by
  obtain ⟨u, ⟨job, running, holds⟩ | ⟨event, member, holds⟩⟩ := pending
  · by_cases self : u = task
    · subst self
      obtain ⟨next, goes, still⟩ := own job running holds
      exact ⟨u, Or.inl ⟨next, by rw [performed.jobs, if_pos rfl, goes], still⟩⟩
    · exact ⟨u, Or.inl ⟨job, by rw [performed.jobs, if_neg self, running], holds⟩⟩
  · have known := fresh.ne_of_channel member
    by_cases self : u = task
    · subst self
      rcases events event member holds with kept | pending
      · exact ⟨u, Or.inr ⟨event, by rw [performed.channels u known, if_pos rfl]; exact kept, holds⟩⟩
      · exact pending
    · exact ⟨u, Or.inr ⟨event, by rw [performed.channels u known, if_neg self]; exact member, holds⟩⟩

/-- Work stays where the jobs stay and the channels only grow. -/
theorem Pending.mono {J : Job → Prop} {E : TurnLifecycle → Prop} (pending : Pending J E s)
    (jobs : ∀ u job, s.job? u = some job → s'.job? u = some job)
    (channels : ∀ u, ∀ event ∈ (s.channel? u).getD [], event ∈ (s'.channel? u).getD []) :
    Pending J E s' := by
  obtain ⟨u, ⟨job, running, holds⟩ | ⟨event, member, holds⟩⟩ := pending
  · exact ⟨u, Or.inl ⟨job, jobs u job running, holds⟩⟩
  · exact ⟨u, Or.inr ⟨event, channels u event member, holds⟩⟩

/-! ## Jobs go on -/

section Moves

variable {task : Nat} {answer : Answer} {job : Job} {m : Move}

/-- A settling job goes on settling until the row is not queued any more. -/
theorem settles_of_timely (timely : s.Timely (.answer task answer))
    (running : s.job? task = some job) (settles : job.settles)
    (move : job.move s answer = some m) :
    (∃ next, m.next = some next ∧ next.settles) ∨
      ∀ row, (s.apply m.effect).row = some row → row.entry.status ≠ .queued := by
  simp only [Timely, acting, running, Option.map_some] at timely
  cases job <;> simp only [Job.settles] at settles <;> simp only [Job.move] at move <;>
    split at move <;> (repeat' split at move) <;> cases move <;>
    simp_all [Job.settles, Move.settled, apply, write, Row.paused]

/-- A looking job goes on, unless the row is not queued, a turn is running or attention
is pending. -/
theorem looks_of_timely (timely : s.Timely (.answer task answer))
    (running : s.job? task = some job) (looks : job.looks)
    (move : job.move s answer = some m) (row : Row) (queued : s.Queued row)
    (idle : s.view.currentTurn = none) (noAttention : s.view.runtimeSnapshot.hasAttention = false) :
    ∃ next, m.next = some next ∧ (next.settles ∨ next.looks) := by
  simp only [Timely, acting, running, Option.map_some] at timely
  obtain ⟨stored, status⟩ := queued
  cases job with
  | watchCheck sends =>
    obtain rfl : sends = true := looks
    simp only [Job.move] at move
    split at move
    · split at move <;> cases move
      · exact ⟨.autoRead, rfl, Or.inr trivial⟩
      · exact ⟨.watchSubscribe true, rfl, Or.inr rfl⟩
    · cases move
  | watchSubscribe sends =>
    obtain rfl : sends = true := looks
    simp only [Job.move] at move
    split at move <;> cases move
    · exact ⟨.autoRead, rfl, Or.inr trivial⟩
    · exact ⟨.autoRead, rfl, Or.inr trivial⟩
  | autoRead =>
    simp only [Job.move, stored, status, if_true] at move
    split at move
    · cases move
      exact ⟨.autoSnapshot row, rfl, Or.inr trivial⟩
    · exact timely.elim
    · cases move
  | autoSnapshot read =>
    simp only [Job.move] at move
    split at move
    · split at move
      · cases move
      · next seen answered =>
        -- the snapshot is the view, so the task goes on to hand the row over
        obtain ⟨p, known, rfl⟩ := Option.map_eq_some_iff.mp answered
        have viewed : s.view = p := by simp [view, known]
        rw [viewed] at idle noAttention
        rw [if_neg (by simp [Projection.runtimeSnapshot, idle]), if_neg (by simp [noAttention])]
          at move
        cases move
        exact ⟨.autoHand read, rfl, Or.inl trivial⟩
    · cases move
      exact ⟨.markRead none, rfl, Or.inl trivial⟩
    · cases move
  | _ => exact looks.elim

/-- The job that has seen a foreign turn running pauses the row. -/
theorem running_of_timely {turn : TurnId} (timely : s.Timely (.answer task answer))
    (running : s.job? task = some (.runningRead turn))
    (move : (Job.runningRead turn).move s answer = some m) (row : Row) (queued : s.Queued row)
    (foreign : turn.id ≠ row.entry.afterTurnId) : m.next = some (.markRead none) := by
  simp only [Timely, acting, running, Option.map_some] at timely
  obtain ⟨stored, status⟩ := queued
  simp only [Job.move] at move
  split at move
  · simp only [stored, status, ne_eq, true_and, Ne.symm foreign, not_false_eq_true, if_true,
      Option.some.injEq] at move
    rw [← move]
  · exact timely.elim
  · cases move

theorem settled_inflight {effect : Effect} {sent : Option Row} :
    ((Move.settled effect sent).inflight.getD true = true) ↔ sent = none := by
  cases sent <;> simp [Move.settled]

/-- Where `auto_send_inflight` stays set, the send behind it is still unsettled. -/
theorem inflight_of_move (move : job.move s answer = some m)
    (inflight : m.inflight.getD true = true) :
    (job.sent?.isSome → ∃ next, m.next = some next ∧ next.sent?.isSome) ∧
      (m.inflight = some true → ∃ next, m.next = some next ∧ next.sent?.isSome) := by
  cases job <;> simp only [Job.move] at move <;> split at move <;> (repeat' split at move) <;>
    cases move <;> simp_all [Job.sent?, settled_inflight] <;> simp [Move.settled]

end Moves

theorem settles_of_sent {job : Job} (sends : job.sent?.isSome) : job.settles := by
  cases job <;> simp [Job.sent?, Job.settles] at sends ⊢

/-! ## Steps -/

/-- An unsettled send of another task stays. -/
theorem Attended.inflight_performed {task : Nat} {channel : Option (List TurnLifecycle)} {m : Move}
    (inv : s.Attended) (performed : Performed s task channel m s')
    (own : ∀ job, s.job? task = some job → job.sent?.isSome → m.inflight = none →
      ∃ next, m.next = some next ∧ next.sent?.isSome)
    (sets : m.inflight = some true → ∃ next, m.next = some next ∧ next.sent?.isSome)
    (inflight : s'.autoSendInflight = true) : ∃ u job, s'.job? u = some job ∧ job.sent?.isSome := by
  rw [performed.inflight] at inflight
  cases moved : m.inflight with
  | some flag =>
    obtain rfl : flag = true := by simpa [moved] using inflight
    obtain ⟨next, goes, sends⟩ := sets moved
    exact ⟨task, next, by rw [performed.jobs, if_pos rfl, goes], sends⟩
  | none =>
    obtain ⟨u, job, running, sends⟩ := inv.inflight (by simpa [moved] using inflight)
    by_cases self : u = task
    · subst self
      obtain ⟨next, goes, still⟩ := own job running sends moved
      exact ⟨u, next, by rw [performed.jobs, if_pos rfl, goes], still⟩
    · exact ⟨u, job, by rw [performed.jobs, if_neg self, running], sends⟩

theorem view_performed {task : Nat} {channel : Option (List TurnLifecycle)} {m : Move}
    (performed : Performed s task channel m s') : s'.view = s.view := by
  simp [view, performed.projection]

/-- A move that writes leaves a row that is not queued, or one with its turn running,
or goes on to look. -/
theorem Attended.write {task : Nat} {channel : Option (List TurnLifecycle)} {m : Move}
    (fresh : s'.Fresh) (performed : Performed s task channel m s')
    (inflight : s'.autoSendInflight = true → ∃ u job, s'.job? u = some job ∧ job.sent?.isSome)
    (row : ∀ row, (s.apply m.effect).row = some row → row.entry.status = .queued →
      (∀ turn, s.view.currentTurn = some turn → turn.id = row.entry.afterTurnId) ∧
      (s.view.currentTurn = none → m.next = some (.watchCheck true))) : s'.Attended where
  fresh := fresh
  inflight := inflight
  foreign := by
    intro r turn queued current other
    rw [view_performed performed] at current
    rw [Queued, performed.row] at queued
    exact absurd ((row r queued.1 queued.2).1 turn current) other
  idle := by
    intro r queued current phase attention
    rw [view_performed performed] at current
    rw [Queued, performed.row] at queued
    have goes := (row r queued.1 queued.2).2 current
    exact ⟨task, Or.inl ⟨.watchCheck true, by rw [performed.jobs, if_pos rfl, goes], Or.inr rfl⟩⟩

theorem Attended.move {task : Nat} {answer : Answer} {job : Job} {m : Move} (inv : s.Attended)
    (timely : s.Timely (.answer task answer)) (fresh : s'.Fresh)
    (running : s.job? task = some job) (move : job.move s answer = some m)
    (performed : Performed s task (s.channel? task) m s') : s'.Attended := by
  have same : ∀ {job'}, s.job? task = some job' → job' = job := by
    intro job' running'
    simpa [running] using running'.symm
  have inflight := inv.inflight_performed performed
    (fun job' running' sends unmoved =>
      (inflight_of_move move (by simp [unmoved])).1 (same running' ▸ sends))
    (fun sets => (inflight_of_move move (by simp [sets])).2 sets)
  rcases effect_of_move move with keeps | accepts | writes | clears
  · have row : s'.row = s.row := by rw [performed.row, keeps]; rfl
    have view := view_performed performed
    have kept : (s.apply m.effect).row = s.row := by rw [keeps]; rfl
    refine ⟨fresh, inflight, fun r turn queued current other => ?_,
      fun r queued current phase attention => ?_⟩
    · rw [Queued, row] at queued
      rw [view] at current
      refine (inv.foreign r turn queued current other).performed inv.fresh performed ?_
        (fun event member _ => Or.inl member)
      rintro job' running' (settles | notices)
      · obtain rfl := same running'
        rcases settles_of_timely timely running settles move with ⟨next, goes, still⟩ | gone
        · exact ⟨next, goes, Or.inl still⟩
        · exact absurd queued.2 (gone r (kept ▸ queued.1))
      · obtain rfl := same running'
        subst notices
        exact ⟨_, running_of_timely timely running move r queued other, Or.inl trivial⟩
    · rw [Queued, row] at queued
      rw [view] at current phase attention
      refine (inv.idle r queued current phase attention).performed inv.fresh performed ?_
        (fun event member _ => Or.inl member)
      rintro job' running' (settles | looks)
      · obtain rfl := same running'
        rcases settles_of_timely timely running settles move with ⟨next, goes, still⟩ | gone
        · exact ⟨next, goes, Or.inl still⟩
        · exact absurd queued.2 (gone r (kept ▸ queued.1))
      · obtain rfl := same running'
        exact looks_of_timely timely running looks move r queued current attention
  · obtain ⟨entry, replace, request, rfl, rfl, effect⟩ := accepts
    refine Attended.write fresh performed inflight ?_
    rw [effect]
    rintro row ⟨⟩ -
    simp only [Timely, acting, running, Option.map_some] at timely
    rcases timely with refused | bound
    · -- a refused entry is not accepted
      simp only [Job.move, if_pos refused, Option.some.injEq] at move
      simp [← move] at effect
    · exact ⟨fun turn current => by simpa [current] using bound,
        fun none => by simp [none] at bound⟩
  · obtain ⟨read, row, rewrites, rfl, -, effect⟩ := writes
    refine Attended.write fresh performed inflight ?_
    rw [effect]
    rintro _ ⟨⟩ status
    simp only [Timely, acting, running, Option.map_some] at timely
    -- `pause` and `mark_paused` store no queued row, so this is `resume`
    cases job <;> simp only [Job.rewrites, reduceCtorEq, Option.some.injEq] at rewrites <;>
      subst rewrites <;> simp only [Job.move, Option.some.injEq] at move <;>
      simp only [← move, Move.settled, Effect.writeBack.injEq] at effect <;> subst effect
    · simp [Row.paused] at status
    · exact ⟨fun turn current => by simpa [current] using timely, fun _ => by rw [← move]⟩
    · simp [Row.paused] at status
  · obtain ⟨-, -, effect⟩ := clears
    refine Attended.write fresh performed inflight ?_
    rw [effect]
    rintro row ⟨⟩

/-- A watcher that receives an event acts on it. -/
theorem onEvent_ends {event : TurnLifecycle} (ends : event.ends) :
    ∃ next, (s.onEvent event).next = some next ∧ (next.settles ∨ next.looks) := by
  obtain ⟨phase, some, known⟩ := ends
  unfold onEvent
  split
  · exact ⟨_, rfl, Or.inr trivial⟩
  · exact ⟨_, rfl, Or.inl trivial⟩
  · exact ⟨_, rfl, Or.inl trivial⟩
  · simp_all
  · simp_all
  · next none _ _ _ _ =>
    cases outcome : event.outcome with
    | none => exact absurd outcome some
    | some o => cases o <;> simp_all

theorem onEvent_runs {event : TurnLifecycle} (runs : event.phase ≠ .idle) :
    s.onEvent event =
      if s.autoSendInflight then { inflight := some false }
      else { next := some (.runningRead event.turn) } := by
  unfold onEvent
  cases phase : event.phase with
  | idle => exact absurd phase runs
  | running => rfl
  | finishing => rfl

theorem Attended.receive {task : Nat} {event : TurnLifecycle} {rest : List TurnLifecycle}
    (inv : s.Attended) (fresh : s'.Fresh) (idle : s.job? task = none)
    (channel : s.channel? task = some (event :: rest))
    (performed : Performed s task (some rest) (s.onEvent event) s') : s'.Attended := by
  have row : s'.row = s.row := by rw [performed.row, onEvent_effect]; rfl
  have view := view_performed performed
  have head : ∀ e ∈ (s.channel? task).getD [], e = event ∨ e ∈ rest := by simp [channel]
  refine ⟨fresh, ?_, fun r turn queued current other => ?_, fun r queued current phase attention => ?_⟩
  · refine inv.inflight_performed performed (fun job running => by simp [idle] at running) ?_
    intro sets
    unfold onEvent at sets
    split at sets <;> (try split at sets) <;> cases sets
  · rw [Queued, row] at queued
    rw [view] at current
    refine (inv.foreign r turn queued current other).performed inv.fresh performed
      (fun job running => by simp [idle] at running) fun e member runs => ?_
    rcases head e member with rfl | later
    · right
      have acts := onEvent_runs (s := s) runs.1
      by_cases inflight : s.autoSendInflight = true
      · -- the event is taken for the send's own, which is then still to be settled
        obtain ⟨u, job, running, sends⟩ := inv.inflight inflight
        have other : u ≠ task := by rintro rfl; simp [idle] at running
        exact ⟨u, Or.inl ⟨job, by rw [performed.jobs, if_neg other, running],
          Or.inl (settles_of_sent sends)⟩⟩
      · rw [if_neg inflight] at acts
        exact ⟨task, Or.inl ⟨.runningRead e.turn, by rw [performed.jobs, if_pos rfl, acts],
          Or.inr (by rw [runs.2])⟩⟩
    · exact Or.inl later
  · rw [Queued, row] at queued
    rw [view] at current phase attention
    refine (inv.idle r queued current phase attention).performed inv.fresh performed
      (fun job running => by simp [idle] at running) fun e member ends => ?_
    rcases head e member with rfl | later
    · obtain ⟨next, goes, works⟩ := onEvent_ends (s := s) ends
      exact Or.inr ⟨task, Or.inl ⟨next, by rw [performed.jobs, if_pos rfl, goes], works⟩⟩
    · exact Or.inl later

/-! ## Conversations -/

theorem phase_of_runningTurn {c : Conversation} {turn : TurnId}
    (running : c.runningTurn = some turn) : c.phase = .running := by
  simp [Conversation.phase, running]

/-- An outcome of a conversation is one the watcher acts on. -/
theorem lastTerminal_known {c : Conversation} {last : TurnId × LastTurnOutcome}
    (terminal : c.lastTerminal = some last) : last.2 ≠ .unknown := by
  unfold Conversation.lastTerminal at terminal
  obtain ⟨t, -, mapped⟩ := List.exists_of_findSome?_eq_some terminal
  obtain ⟨outcome, known, rfl⟩ := Option.map_eq_some_iff.mp mapped
  unfold mapTurnOutcome at known
  split at known <;> cases known <;> simp

/-- The event tells the new phase, its turn and the outcome. -/
theorem lifecycle_some {p : Projection} {c : Conversation} {event : TurnLifecycle}
    (emits : p.lifecycle c = some event) :
    event.phase = c.phase ∧
      event.turn = (c.runningTurn.or (c.lastTerminal.map (·.1))).getD ⟨"unknown", true⟩ ∧
      event.outcome = if c.phase = .idle then c.lastTerminal.map (·.2) else none := by
  unfold Projection.lifecycle at emits
  split at emits
  · cases emits
    exact ⟨rfl, rfl, rfl⟩
  · cases emits

/-- No event: neither the phase nor the turn has changed. -/
theorem lifecycle_none {p : Projection} {c : Conversation} (silent : p.lifecycle c = none) :
    p.phase = c.phase ∧ p.currentTurn = c.runningTurn := by
  unfold Projection.lifecycle at silent
  split at silent
  · cases silent
  · next same =>
    push Not at same
    exact same

/-- A watcher is told of every change of the phase and the turn. -/
theorem told {c : Conversation} {event : TurnLifecycle} {u : Nat} (listens : (s.channel? u).isSome)
    (emits : s.view.lifecycle c = some event)
    (channels : ∀ u, s'.channel? u = (s.channel? u).map (· ++ (s.view.lifecycle c).toList)) :
    event ∈ (s'.channel? u).getD [] := by
  obtain ⟨events, found⟩ := Option.isSome_iff_exists.mp listens
  rw [channels, found, emits]
  simp

theorem Attended.observe {c : Conversation} (inv : s.Attended) (timely : s.Timely (.observe c))
    (fresh : s'.Fresh) (kept : Kept s s') (viewed : s'.projection = some (.apply c))
    (inflight : s'.autoSendInflight = s.autoSendInflight) (jobs : ∀ u, s'.job? u = s.job? u)
    (channels : ∀ u, s'.channel? u = (s.channel? u).map (· ++ (s.view.lifecycle c).toList)) :
    s'.Attended := by
  have view : s'.view = .apply c := by simp [SessionQueue.view, viewed]
  have grows : ∀ u, ∀ event ∈ (s.channel? u).getD [], event ∈ (s'.channel? u).getD [] := by
    intro u event member
    rw [channels]
    cases found : s.channel? u <;> simp_all
  have stays : ∀ u job, s.job? u = some job → s'.job? u = some job := fun u job running => by
    rw [jobs, running]
  refine ⟨fresh, ?_, fun row turn queued current other => ?_, fun row queued current phase attention => ?_⟩
  · intro flag
    obtain ⟨u, job, running, sends⟩ := inv.inflight (inflight ▸ flag)
    exact ⟨u, job, stays u job running, sends⟩
  · rw [Queued, kept.row] at queued
    replace current : c.runningTurn = some turn := by rw [view] at current; exact current
    cases emits : s.view.lifecycle c with
    | some event =>
      -- the change is told, and the event names the turn
      obtain ⟨u, listens⟩ := ((timely row queued).1 (by simp [emits])).1
      have told := told listens emits channels
      obtain ⟨phase, named, -⟩ := lifecycle_some emits
      refine ⟨u, Or.inr ⟨event, told, ?_, ?_⟩⟩
      · simp [phase, phase_of_runningTurn current]
      · simp [named, current]
    | none =>
      have same : s.view.currentTurn = some turn := by rw [(lifecycle_none emits).2, current]
      exact (inv.foreign row turn queued same other).mono stays grows
  · rw [Queued, kept.row] at queued
    rw [view] at current phase attention
    replace current : c.runningTurn = none := current
    replace phase : c.phase = .idle := phase
    cases emits : s.view.lifecycle c with
    | some event =>
      obtain ⟨⟨u, listens⟩, ended⟩ := (timely row queued).1 (by simp [emits])
      have told := told listens emits channels
      obtain ⟨last, terminal⟩ := Option.isSome_iff_exists.mp (ended phase)
      have known := lastTerminal_known terminal
      obtain ⟨ends, -, outcome⟩ := lifecycle_some emits
      refine ⟨u, Or.inr ⟨event, told, ends.trans phase, ?_, ?_⟩⟩
      · simp [outcome, phase, terminal]
      · simp [outcome, phase, terminal, known]
    | none =>
      obtain ⟨samePhase, sameTurn⟩ := lifecycle_none emits
      have before : s.view.phase = .idle := by rw [samePhase, phase]
      have due : s.Due := by
        cases pending : s.view.runtimeSnapshot.hasAttention with
        | false => exact inv.idle row queued (by rw [sameTurn, current]) before pending
        | true =>
          rcases (timely row queued).2 before pending phase with still | due
          · simp [still] at attention
          · exact due
      exact due.mono stays grows

/-- A timely step keeps what is due. -/
theorem Attended.step (inv : s.Attended) (timely : s.Timely i) : (s.step i).Attended := by
  have fresh := inv.fresh.step i
  cases transition inv.fresh i with
  | called call kept viewed inflight jobs channels =>
    have view : (s.step (.call call)).view = s.view := by simp [SessionQueue.view, viewed]
    have stays : ∀ u job, s.job? u = some job → (s.step (.call call)).job? u = some job := by
      intro u job running
      rw [jobs, if_neg (inv.fresh.ne_of_job running), running]
    have same : ∀ u, ∀ event ∈ (s.channel? u).getD [],
        event ∈ ((s.step (.call call)).channel? u).getD [] := by
      intro u event member
      rw [channels]
      exact member
    refine ⟨fresh, ?_, fun row turn queued current other => ?_,
      fun row queued current phase attention => ?_⟩
    · intro flag
      obtain ⟨u, job, running, sends⟩ := inv.inflight (inflight ▸ flag)
      exact ⟨u, job, stays u job running, sends⟩
    · rw [Queued, kept.row] at queued
      rw [view] at current
      exact (inv.foreign row turn queued current other).mono stays same
    · rw [Queued, kept.row] at queued
      rw [view] at current phase attention
      exact (inv.idle row queued current phase attention).mono stays same
  | moved task answer job m running move performed =>
    exact inv.move timely fresh running move performed
  | received task event rest idle channel performed =>
    exact inv.receive fresh idle channel performed
  | observed c kept viewed inflight jobs channels =>
    exact inv.observe timely fresh kept viewed inflight jobs channels
  | stuttered same silent => rw [same]; exact inv

theorem attended_init : SessionQueue.Attended {} where
  fresh := fresh_init
  inflight := by simp
  foreign := by simp [Queued]
  idle := by simp [Queued]

end SessionQueue

/-- In every run of timely steps, an entry that is queued when nothing is left to do
has a reason to wait. -/
theorem queued_entries_have_reason (inputs : List (SessionId × Input))
    (timely : Along QueueManager.step (fun m i => (m i.1).Timely i.2) QueueManager.init inputs)
    (session : SessionId) (row : Row)
    (quiet : (inputs.foldl QueueManager.step QueueManager.init session).Quiescent)
    (queued : (inputs.foldl QueueManager.step QueueManager.init session).Queued row) :
    (inputs.foldl QueueManager.step QueueManager.init session).HasReason row := by
  have kept : ∀ (m : QueueManager) (i : SessionId × Input), (∀ k, (m k).Attended) →
      (m i.1).Timely i.2 → ∀ k, (QueueManager.step m i k).Attended :=
    fun m i inv now => stepAt_forall inv ((inv i.1).step now)
  have attended := timely.reached kept (fun _ => SessionQueue.attended_init) session
  exact attended.hasReason quiet queued

/-! ## Checking runs -/

instance SessionQueue.decidableTimely (s : SessionQueue) (task : Nat) (answer : Answer) :
    Decidable (s.Timely (.answer task answer)) := by
  unfold SessionQueue.Timely
  dsimp only
  split <;> infer_instance

instance SessionQueue.decidableQuiescent (s : SessionQueue) : Decidable s.Quiescent :=
  decidable_of_iff (∀ u t, s.tasks.get? u = some t → t.job = none ∧ t.channel.getD [] = []) (by
    constructor
    · intro quiet u
      cases found : s.tasks.get? u with
      | none => simp [SessionQueue.job?, SessionQueue.channel?, found]
      | some t => simpa [SessionQueue.job?, SessionQueue.channel?, found] using quiet u t found
    · intro quiet u t found
      simpa [SessionQueue.job?, SessionQueue.channel?, found] using quiet u)

/-- The entry of the sample run. -/
def Queueing.row : Row := ⟨0, ⟨"first", "turn-1", 1, .queued⟩⟩

theorem queued_entries_have_reason_running :
    Along QueueManager.step (fun m i => (m i.1).Timely i.2) QueueManager.init
        (Queueing.ofSession Queueing.queued) ∧
      ((Queueing.ofSession Queueing.queued).foldl QueueManager.step QueueManager.init
        "session-1").HasReason Queueing.row := by
  have timely : Along QueueManager.step (fun m i => (m i.1).Timely i.2) QueueManager.init
      (Queueing.ofSession Queueing.queued) := by
    refine ⟨?_, trivial, by decide +kernel, by decide +kernel, by decide +kernel,
      by decide +kernel, by decide +kernel, trivial⟩
    -- nothing is queued yet when the turn starts
    rintro row ⟨stored, -⟩
    cases stored
  refine ⟨timely, queued_entries_have_reason _ timely "session-1" Queueing.row ?_ ?_⟩
  · decide +kernel
  · exact ⟨by decide +kernel, rfl⟩

/-- The turn completes while a question is pending; the watcher waits.  Then the
question is answered. -/
def Queueing.answered : List Input :=
  queued ++ [.observe { conversation 2 "completed" with questions := ["question-1"] },
    .receive 1, .answer 1 .stored, .answer 1 .snapshot, .observe (conversation 3 "completed")]

/-- Nobody looks at the entry again: it stays queued in an idle session. -/
theorem entry_stranded_after_answer :
    let s := (Queueing.ofSession Queueing.answered).foldl QueueManager.step QueueManager.init
      "session-1"
    s.Quiescent ∧ s.Queued Queueing.row ∧ ¬ s.HasReason Queueing.row := by
  refine ⟨by decide +kernel, ⟨by decide +kernel, rfl⟩, ?_⟩
  have view : ((Queueing.ofSession Queueing.answered).foldl QueueManager.step QueueManager.init
      "session-1").view = .apply (Queueing.conversation 3 "completed") := by decide +kernel
  rw [SessionQueue.HasReason, view]
  have idle : (Projection.apply (Queueing.conversation 3 "completed")) = ⟨3, .idle, none, [], []⟩ := by
    decide +kernel
  simp [idle, Projection.runtimeSnapshot, RuntimeSnapshot.hasAttention]

end AgentConsole.Bridge
