import AgentConsole.Bridge.Queue

/-! # What a step of the queue does

An answer makes one task perform one `Move`; all other tasks keep their jobs.
`Transition` says this once for every input, and the invariants of the queue are
proved over its four cases instead of over `SessionQueue.step`. -/

namespace AgentConsole.Bridge

open AgentConsole.Lib

/-- The row whose send the job has started and not settled yet. -/
def Job.sent? : Job → Option Row
  | .sending sent | .sentClear sent => some sent
  | .markRead sent | .markWrite _ sent => sent
  | _ => none

/-- The row a job is about to store again: `pause`, `resume` and `mark_paused` write
back what they have read. -/
def Job.rewrites : Job → Option Row
  | .pauseWrite read | .resumeWrite read _ | .markWrite read _ => some read
  | _ => none

namespace SessionQueue

variable {s s' : SessionQueue} {i : Input}

/-- The job the task `u` is at. -/
def job? (s : SessionQueue) (u : Nat) : Option Job := (s.tasks.get? u).bind (·.job)

/-- The events the watcher `u` has not received; a call has no channel. -/
def channel? (s : SessionQueue) (u : Nat) : Option (List TurnLifecycle) :=
  (s.tasks.get? u).bind (·.channel)

/-- The job that an input answers, with the answer. -/
def acting (s : SessionQueue) : Input → Option (Job × Answer)
  | .answer task answer => (s.job? task).map fun job => (job, answer)
  | _ => none

/-- Task numbers from `spawned` on are free. -/
def Fresh (s : SessionQueue) : Prop := ∀ u, s.spawned ≤ u → s.tasks.get? u = none

/-- The task `task` performs `m` and is left with `channel`: the row and the ghosts
change as `m` says, and no other task is moved. -/
structure Performed (s : SessionQueue) (task : Nat) (channel : Option (List TurnLifecycle))
    (m : Move) (s' : SessionQueue) : Prop where
  row : s'.row = (s.apply m.effect).row
  entries : s'.entries = (s.apply m.effect).entries
  removed : s'.removed = (s.apply m.effect).removed
  handed : s'.handed = s.handed ++ m.handed.toList
  inflight : s'.autoSendInflight = m.inflight.getD s.autoSendInflight
  projection : s'.projection = s.projection
  jobs : ∀ u, s'.job? u = if u = task then m.next else s.job? u
  channels : ∀ u, u ≠ s.spawned → s'.channel? u = if u = task then channel else s.channel? u

/-- The row and the ghosts stay. -/
structure Kept (s s' : SessionQueue) : Prop where
  row : s'.row = s.row
  entries : s'.entries = s.entries
  removed : s'.removed = s.removed
  handed : s'.handed = s.handed

/-- The kinds of steps. -/
inductive Transition (s : SessionQueue) : Input → SessionQueue → Prop where
  | called (call : Call) {s' : SessionQueue} (kept : Kept s s')
      (view : s'.projection = s.projection) (inflight : s'.autoSendInflight = s.autoSendInflight)
      (jobs : ∀ u, s'.job? u = if u = s.spawned then some call.job else s.job? u)
      (channels : ∀ u, s'.channel? u = s.channel? u) :
      Transition s (.call call) s'
  | moved (task : Nat) (answer : Answer) (job : Job) (m : Move) {s' : SessionQueue}
      (running : s.job? task = some job) (move : job.move s answer = some m)
      (performed : Performed s task (s.channel? task) m s') :
      Transition s (.answer task answer) s'
  | received (task : Nat) (event : TurnLifecycle) (rest : List TurnLifecycle)
      {s' : SessionQueue} (idle : s.job? task = none)
      (channel : s.channel? task = some (event :: rest))
      (performed : Performed s task (some rest) (s.onEvent event) s') :
      Transition s (.receive task) s'
  | observed (c : Conversation) {s' : SessionQueue} (kept : Kept s s')
      (view : s'.projection = some (.apply c)) (inflight : s'.autoSendInflight = s.autoSendInflight)
      (jobs : ∀ u, s'.job? u = s.job? u)
      (channels : ∀ u, s'.channel? u =
        (s.channel? u).map (· ++ ((s.projection.getD {}).lifecycle c).toList)) :
      Transition s (.observe c) s'
  | stuttered {i : Input} {s' : SessionQueue} (same : s' = s)
      (silent : ∀ job answer, s.acting i = some (job, answer) → job.move s answer = none) :
      Transition s i s'

/-! ## The cases -/

@[simp] theorem apply_tasks (s : SessionQueue) (e : Effect) : (s.apply e).tasks = s.tasks := by
  cases e <;> rfl

@[simp] theorem apply_spawned (s : SessionQueue) (e : Effect) :
    (s.apply e).spawned = s.spawned := by
  cases e <;> rfl

@[simp] theorem apply_handed (s : SessionQueue) (e : Effect) : (s.apply e).handed = s.handed := by
  cases e <;> rfl

@[simp] theorem apply_inflight (s : SessionQueue) (e : Effect) :
    (s.apply e).autoSendInflight = s.autoSendInflight := by
  cases e <;> rfl

@[simp] theorem apply_projection (s : SessionQueue) (e : Effect) :
    (s.apply e).projection = s.projection := by
  cases e <;> rfl

/-- The jobs after a task went on. -/
theorem job_goOn (tasks : FiniteMap Nat Task) (task : Nat) (t : Task) (job : Option Job) (u : Nat) :
    ((goOn tasks task t job).get? u).bind (·.job) =
      if u = task then job else (tasks.get? u).bind (·.job) := by
  unfold goOn
  by_cases ends : job.isNone ∧ t.channel.isNone
  · rw [if_pos ends, FiniteMap.get?_erase]
    by_cases same : u = task
    · simp [same, Option.isNone_iff_eq_none.mp ends.1]
    · simp [same]
  · rw [if_neg ends, FiniteMap.get?_insert]
    by_cases same : u = task <;> simp [same]

theorem channel_goOn (tasks : FiniteMap Nat Task) (task : Nat) (t : Task) (job : Option Job)
    (u : Nat) : ((goOn tasks task t job).get? u).bind (·.channel) =
      if u = task then t.channel else (tasks.get? u).bind (·.channel) := by
  unfold goOn
  by_cases ends : job.isNone ∧ t.channel.isNone
  · rw [if_pos ends, FiniteMap.get?_erase]
    by_cases same : u = task
    · simp [same, Option.isNone_iff_eq_none.mp ends.2]
    · simp [same]
  · rw [if_neg ends, FiniteMap.get?_insert]
    by_cases same : u = task <;> simp [same]

theorem fresh_of_goOn {tasks : FiniteMap Nat Task} {task n : Nat} (t : Task) (job : Option Job)
    (fresh : ∀ u, n ≤ u → tasks.get? u = none) (known : task < n) :
    ∀ u, n ≤ u → (goOn tasks task t job).get? u = none := by
  intro u above
  have other : u ≠ task := by omega
  unfold goOn
  split
  · rw [FiniteMap.get?_erase, if_neg other]; exact fresh u above
  · rw [FiniteMap.get?_insert, if_neg other]; exact fresh u above

/-- A task that exists has a number below `spawned`. -/
theorem Fresh.lt (fresh : s.Fresh) {u : Nat} {t : Task} (found : s.tasks.get? u = some t) :
    u < s.spawned := by
  by_contra above
  have missing := fresh u (by omega)
  simp [missing] at found

/-- A task's move is performed. -/
theorem performed (fresh : s.Fresh) {task : Nat} {old : Task} (t : Task) (m : Move)
    (found : s.tasks.get? task = some old) :
    Performed s task t.channel m (s.perform task t m) where
  row := rfl
  entries := rfl
  removed := rfl
  handed := by simp [perform]
  inflight := by simp [perform]
  projection := by simp [perform]
  jobs := by
    intro u
    show (((s.perform task t m).tasks).get? u).bind (·.job) = _
    simp only [perform, apply_tasks, apply_spawned]
    by_cases spawns : m.spawns = true
    · rw [if_pos spawns, FiniteMap.get?_insert]
      by_cases new : u = s.spawned
      · -- the new watcher has no job, and its number was free
        have other : u ≠ task := by have := fresh.lt found; omega
        simp [new, job?, fresh s.spawned le_rfl, new ▸ other]
      · rw [if_neg new]
        exact job_goOn s.tasks task t m.next u
    · rw [if_neg spawns]
      exact job_goOn s.tasks task t m.next u
  channels := by
    intro u old
    show (((s.perform task t m).tasks).get? u).bind (·.channel) = _
    simp only [perform, apply_tasks, apply_spawned]
    by_cases spawns : m.spawns = true
    · rw [if_pos spawns, FiniteMap.get?_insert, if_neg old]
      exact channel_goOn s.tasks task t m.next u
    · rw [if_neg spawns]
      exact channel_goOn s.tasks task t m.next u

theorem Fresh.perform (fresh : s.Fresh) {task : Nat} {t old : Task} (m : Move)
    (found : s.tasks.get? task = some old) : (s.perform task t m).Fresh := by
  intro u above
  have known := fresh.lt found
  simp only [SessionQueue.perform, apply_tasks, apply_spawned] at above ⊢
  have went := fresh_of_goOn t m.next fresh known
  by_cases spawns : m.spawns = true
  · rw [if_pos spawns] at above
    rw [if_pos spawns, FiniteMap.get?_insert, if_neg (by omega)]
    exact went u (by omega)
  · rw [if_neg spawns] at above
    rw [if_neg spawns]
    exact went u above

/-- Every step is of one of these kinds. -/
theorem transition (fresh : s.Fresh) (i : Input) : Transition s i (s.step i) := by
  cases i with
  | call call =>
    refine .called call ⟨rfl, rfl, rfl, rfl⟩ rfl rfl (fun u => ?_) fun u => ?_
    · show ((s.tasks.insert s.spawned _).get? u).bind _ = _
      rw [FiniteMap.get?_insert]
      by_cases new : u = s.spawned <;> simp [new, job?]
    · show ((s.tasks.insert s.spawned _).get? u).bind _ = _
      rw [FiniteMap.get?_insert]
      by_cases new : u = s.spawned
      · simp [new, channel?, fresh s.spawned le_rfl]
      · simp [new, channel?]
  | answer task answer =>
    simp only [step]
    split
    · next channel job found =>
      split
      · next m move =>
        refine .moved task answer job m (by simp [job?, found]) move ?_
        have kept : s.channel? task = channel := by simp [channel?, found]
        rw [kept]
        exact performed fresh { channel, job := some job } m found
      · next still =>
        refine .stuttered rfl ?_
        simp only [acting, job?, found, Option.bind_some, Option.map_some, Option.some.injEq,
          Prod.mk.injEq]
        rintro _ _ ⟨rfl, rfl⟩
        exact still
    · next none =>
      refine .stuttered rfl ?_
      intro job answer' acts
      -- an answer that acts would have found its task
      simp only [acting, job?, Option.map_eq_some_iff, Option.bind_eq_some_iff] at acts
      obtain ⟨_, ⟨⟨channel, _⟩, found, works⟩, _⟩ := acts
      cases works
      exact (none channel _ found).elim
  | receive task =>
    simp only [step]
    split
    · next event rest found =>
      exact .received task event rest (by simp [job?, found]) (by simp [channel?, found])
        (performed fresh { channel := some rest, job := none } _ found)
    · exact .stuttered rfl (by simp [acting])
  | observe conversation =>
    refine .observed conversation ⟨rfl, rfl, rfl, rfl⟩ rfl rfl (fun u => ?_) fun u => ?_
    · simp only [step, observe, job?, FiniteMap.get?_mapVal]
      cases s.tasks.get? u <;> rfl
    · simp only [step, observe, channel?, FiniteMap.get?_mapVal]
      cases s.tasks.get? u <;> rfl

theorem Fresh.step (fresh : s.Fresh) (i : Input) : (s.step i).Fresh := by
  cases i with
  | call call =>
    intro u above
    simp only [SessionQueue.step] at above ⊢
    rw [FiniteMap.get?_insert, if_neg (by omega)]
    exact fresh u (by omega)
  | answer task answer =>
    simp only [SessionQueue.step]
    split
    · next found =>
      split
      · exact fresh.perform _ found
      · exact fresh
    · exact fresh
  | receive task =>
    simp only [SessionQueue.step]
    split
    · next found => exact fresh.perform _ found
    · exact fresh
  | observe conversation =>
    intro u above
    simp only [SessionQueue.step, observe, FiniteMap.get?_mapVal] at above ⊢
    simp [fresh u above]

/-! ## Effects

Which job writes what. -/

/-- Only an answered store call changes the row. -/
theorem effect_of_move {job : Job} {answer : Answer} {m : Move}
    (move : job.move s answer = some m) :
    m.effect = .keep ∨
    (∃ entry replace request, job = .setWrite entry replace request ∧ answer = .stored ∧
      m.effect = .accept entry) ∨
    (∃ read row, job.rewrites = some read ∧ answer = .stored ∧ row.id = read.id ∧
      m.effect = .writeBack row) ∨
    ((job = .cancelClear ∨ ∃ sent, job = .sentClear sent) ∧ answer = .stored ∧
      m.effect = .clear) := by
  cases job <;> simp only [Job.move] at move <;> split at move <;> (repeat' split at move) <;>
    cases move <;> simp [Job.rewrites, Move.settled, Row.paused, Row.rebound]

theorem writes_of_rewrites {job : Job} {read : Row} {m : Move} (rewrites : job.rewrites = some read)
    (move : job.move s .stored = some m) : ∃ row, row.id = read.id ∧ m.effect = .writeBack row := by
  cases job <;> cases rewrites <;> cases move <;> exact ⟨_, by rfl, rfl⟩

@[simp] theorem onEvent_effect (event : TurnLifecycle) : (s.onEvent event).effect = .keep := by
  unfold onEvent
  split <;> (try split) <;> rfl

/-! ## Sends

A job settles a send only after the row was handed to the executor. -/

def SentHanded (s : SessionQueue) : Prop :=
  ∀ u job sent, s.job? u = some job → job.sent? = some sent → sent.id ∈ s.handed

/-- A job with a send to settle comes from one with the same send, or from the
hand-over itself. -/
theorem Job.sent_of_move {job next : Job} {answer : Answer} {m : Move} {sent : Row}
    (move : job.move s answer = some m) (goes : m.next = some next)
    (sends : next.sent? = some sent) :
    job.sent? = some sent ∨ m.handed = some sent.id := by
  cases job <;> simp only [Job.move] at move <;> split at move <;> (repeat' split at move) <;>
    cases move <;> simp [Move.settled, Job.watching] at goes <;> grind [Job.sent?]

theorem onEvent_sent (event : TurnLifecycle) {next : Job} (goes : (s.onEvent event).next = some next) :
    next.sent? = none := by
  unfold onEvent at goes
  split at goes <;> grind [Job.sent?]

theorem SentHanded.performed {task : Nat} {channel : Option (List TurnLifecycle)} {m : Move}
    (inv : s.SentHanded) (performed : Performed s task channel m s')
    (next : ∀ job sent, m.next = some job → job.sent? = some sent →
      sent.id ∈ s.handed ∨ m.handed = some sent.id) : s'.SentHanded := by
  intro u job sent running sends
  rw [performed.jobs] at running
  rw [performed.handed]
  split at running
  · rcases next job sent running sends with before | now
    · exact List.mem_append_left _ before
    · simp [now]
  · exact List.mem_append_left _ (inv u job sent running sends)

theorem SentHanded.step (fresh : s.Fresh) (inv : s.SentHanded) (i : Input) :
    (s.step i).SentHanded := by
  cases transition fresh i with
  | called call kept view inflight jobs channels =>
    intro u job sent running sends
    rw [jobs] at running
    rw [kept.handed]
    split at running
    · cases running
      cases call <;> simp [Call.job, Job.sent?] at sends
    · exact inv u job sent running sends
  | moved task answer old m was move performed =>
    refine inv.performed performed fun job sent goes sends => ?_
    rcases Job.sent_of_move move goes sends with before | now
    · exact Or.inl (inv task old sent was before)
    · exact Or.inr now
  | received task event rest idle channel performed =>
    refine inv.performed performed fun job sent goes sends => ?_
    simp [onEvent_sent event goes] at sends
  | observed c kept view inflight jobs channels =>
    intro u job sent running sends
    rw [jobs] at running
    rw [kept.handed]
    exact inv u job sent running sends
  | stuttered same silent => rw [same]; exact inv

theorem sentHanded_init : SessionQueue.SentHanded {} := by
  intro u job sent running
  simp [job?] at running

theorem fresh_init : SessionQueue.Fresh {} := fun _ _ => rfl

end SessionQueue

/-! ## A session whose turn completes

The runs the counterexamples start with. -/

namespace Queueing

/-- A conversation with one turn in the native status `status`. -/
def conversation (revision : Nat) (status : String) : Conversation where
  revision := revision
  turns := [⟨⟨"turn-1", false⟩, some status⟩]
  runtimeStatus := none
  questions := []
  approvals := []

def snapshot : RuntimeSnapshot := (Projection.apply (conversation 1 "inProgress")).runtimeSnapshot

/-- An entry is queued behind the running turn (task 0) and the watcher (task 1) is
registered. -/
def queued : List Input :=
  [.observe (conversation 1 "inProgress"), .call (.set "first" false 1 snapshot),
    .answer 0 .stored, .answer 0 .stored, .answer 0 .stored, .answer 0 .continued,
    .answer 0 .subscribed]

/-- The turn completes and the watcher is about to hand the entry over. -/
def completed : List Input :=
  queued ++ [.observe (conversation 2 "completed"), .receive 1, .answer 1 .stored,
    .answer 1 .snapshot]

/-- The inputs of the session, as inputs of the manager. -/
def ofSession (inputs : List Input) : List (SessionId × Input) :=
  inputs.map fun i => ("session-1", i)

end Queueing
end AgentConsole.Bridge
