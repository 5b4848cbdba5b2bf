import AgentConsole.Bridge.QueueSteps

/-! # Acknowledged entries are not lost

`set` and `replace` acknowledge an entry once `set_next_turn` has stored it.  Such an
entry may leave the store because it was cancelled, replaced by another accepted
entry, or started as a turn.  The store calls of the other operations are keyed by
the session alone: `clear_next_turn` after a send and the write-backs of `pause`,
`resume` and `mark_paused` hit whatever row is there by then.

`removals_justified_iff` says exactly which runs lose no entry: those in which every
such call still finds the entry that its task read or sent. -/

namespace AgentConsole.Bridge

open AgentConsole.Lib

/-- The job takes an entry out of the store rightly: `cancel` and `set` any entry,
a send's clear the entry it has started. -/
def Job.mayRemove (handed : List Nat) (id : Nat) : Job → Prop
  | .cancelClear => True
  | .setWrite _ _ _ => True
  | .sentClear sent => sent.id = id ∧ id ∈ handed
  | _ => False

/-- The row that a clear after a send, or a write-back, takes to be in the store. -/
def Job.expects : Job → Option Row
  | .sentClear sent => some sent
  | job => job.rewrites

theorem Job.expects_of_rewrites {job : Job} {read : Row} (rewrites : job.rewrites = some read) :
    job.expects = some read := by
  cases job <;> first | exact rewrites | cases rewrites

theorem Job.sentClear_of_expects {job : Job} {row : Row} (expects : job.expects = some row)
    (none : job.rewrites = none) : job = .sentClear row := by
  cases job <;> simp [Job.expects, Job.rewrites] at expects none
  rw [expects]

/-- A write-back may not remove another entry. -/
theorem Job.keeps_of_rewrites {job : Job} {read : Row} {handed : List Nat} {id : Nat}
    (rewrites : job.rewrites = some read) : ¬ job.mayRemove handed id := by
  cases job <;> first | exact not_false | cases rewrites

theorem Job.answered_of_expects {job : Job} {row : Row} {s : SessionQueue}
    (expects : job.expects = some row) : job.move s .stored ≠ none := by
  cases job <;> first | exact Option.some_ne_none _ | cases expects

namespace SessionQueue

variable {s : SessionQueue} {i : Input}

/-- The entry in the store. -/
def stored (s : SessionQueue) : Option Nat := s.row.map (·.id)

/-- Whatever entry the input takes out of the store, it does so rightly. -/
def Justified (s : SessionQueue) (i : Input) : Prop :=
  ∀ id, s.stored = some id → (s.step i).stored ≠ some id →
    ∃ job answer, s.acting i = some (job, answer) ∧ job.mayRemove s.handed id

/-- A store call that comes back to an entry finds that entry, or none. -/
def FindsOwn (s : SessionQueue) (i : Input) : Prop :=
  ∀ job row id, s.acting i = some (job, .stored) → job.expects = some row →
    s.stored = some id → id = row.id

/-- What a step does not change, it does not remove. -/
theorem justified_of_same (same : (s.step i).row = s.row) : Justified s i := by
  intro id before after
  exact absurd (by rw [← before]; simp [stored, same]) after

/-- A move of a job loses no entry exactly if the job finds its own. -/
theorem justified_of_move {task : Nat} {answer : Answer} {job : Job} {m : Move}
    (sent : s.SentHanded) (running : s.job? task = some job) (move : job.move s answer = some m)
    (row : (s.step (.answer task answer)).row = (s.apply m.effect).row) :
    Justified s (.answer task answer) ↔ FindsOwn s (.answer task answer) := by
  have acts : s.acting (.answer task answer) = some (job, answer) := by simp [acting, running]
  have after : (s.step (.answer task answer)).stored = (s.apply m.effect).row.map (·.id) := by
    simp [stored, row]
  constructor
  · intro justified job' expected id acts' expects before
    obtain ⟨rfl, rfl⟩ : job = job' ∧ answer = .stored := by simpa [acts] using acts'
    by_contra other
    cases rewrites : job.rewrites with
    | some read =>
      -- the write-back puts its own entry in the place of `id`
      obtain ⟨written, same, effect⟩ := writes_of_rewrites rewrites move
      obtain ⟨job', _, acts', removes⟩ := justified id before (by
        rw [after, effect]
        obtain rfl : expected = read := by
          simpa [Job.expects_of_rewrites rewrites] using expects.symm
        simpa [apply, write, same] using Ne.symm other)
      obtain ⟨rfl, -⟩ : job = job' ∧ _ := by simpa [acts] using acts'
      exact Job.keeps_of_rewrites rewrites removes
    | none =>
      -- only the clear of a send is left, and it clears `id`
      obtain rfl := Job.sentClear_of_expects expects rewrites
      obtain ⟨job', _, acts', removes⟩ := justified id before (by
        rw [after]
        simp only [Job.move, Option.some.injEq] at move
        simp [← move, apply, write])
      obtain ⟨rfl, -⟩ : Job.sentClear expected = job' ∧ _ := by simpa [acts] using acts'
      exact other removes.1.symm
  · intro own id before removed
    refine ⟨job, answer, acts, ?_⟩
    rcases effect_of_move move with keeps | accepts | writes | clears
    · exact absurd (by rw [after, keeps]; exact before) removed
    · obtain ⟨entry, replace, request, rfl, -, -⟩ := accepts
      trivial
    · obtain ⟨read, written, rewrites, rfl, same, effect⟩ := writes
      have found := own job read id acts (Job.expects_of_rewrites rewrites) before
      exact absurd (by rw [after, effect]; simp [apply, write, same, found]) removed
    · obtain ⟨rfl | ⟨row', rfl⟩, rfl, effect⟩ := clears
      · trivial
      · have found := own _ row' id acts rfl before
        have handed := sent task _ row' running rfl
        exact ⟨found.symm, found ▸ handed⟩

/-- A step loses no entry exactly if its store call finds its own. -/
theorem justified_iff (fresh : s.Fresh) (sent : s.SentHanded) (i : Input) :
    Justified s i ↔ FindsOwn s i := by
  cases transition fresh i with
  | called call kept view inflight jobs channels =>
    exact iff_of_true (justified_of_same kept.row) (by simp [FindsOwn, acting])
  | moved task answer job m running move performed =>
    exact justified_of_move sent running move performed.row
  | received task event rest idle channel performed =>
    refine iff_of_true (justified_of_same ?_) (by simp [FindsOwn, acting])
    rw [performed.row, onEvent_effect]
    rfl
  | observed c kept view inflight jobs channels =>
    exact iff_of_true (justified_of_same kept.row) (by simp [FindsOwn, acting])
  | stuttered same silent =>
    refine iff_of_true (justified_of_same (by rw [same])) fun job row id acts expects => ?_
    -- the store answers every call that expects a row
    exact absurd (silent job _ acts) (Job.answered_of_expects expects)

end SessionQueue

/-- In every run of the manager, entries leave the store only by being cancelled,
replaced or started exactly if every clear after a send and every write-back finds
the entry its task has sent or read, or no entry at all. -/
theorem removals_justified_iff (inputs : List (SessionId × Input)) :
    Along QueueManager.step (fun m i => (m i.1).Justified i.2) QueueManager.init inputs ↔
      Along QueueManager.step (fun m i => (m i.1).FindsOwn i.2) QueueManager.init inputs := by
  have kept : ∀ (m : QueueManager) (i : SessionId × Input),
      (∀ k, (m k).Fresh ∧ (m k).SentHanded) →
      ∀ k, (QueueManager.step m i k).Fresh ∧ (QueueManager.step m i k).SentHanded :=
    fun m i inv => stepAt_forall (P := fun s : SessionQueue => s.Fresh ∧ s.SentHanded) inv
      ⟨(inv i.1).1.step i.2, (inv i.1).2.step (inv i.1).1 i.2⟩
  have start : ∀ k, (QueueManager.init k).Fresh ∧ (QueueManager.init k).SentHanded :=
    fun k => ⟨SessionQueue.fresh_init, SessionQueue.sentHanded_init⟩
  constructor
  · exact Along.of_invariant (fun m i inv _ => kept m i inv)
      (fun m i inv lost => (SessionQueue.justified_iff (inv i.1).1 (inv i.1).2 i.2).mp lost) start
  · exact Along.of_invariant (fun m i inv _ => kept m i inv)
      (fun m i inv own => (SessionQueue.justified_iff (inv i.1).1 (inv i.1).2 i.2).mpr own) start

/-- While the first entry is being sent, a replacement is accepted. -/
def Queueing.replaced : List Input :=
  completed ++ [.answer 1 .continued, .call (.set "second" true 2 snapshot), .answer 2 .stored,
    .answer 2 .stored, .answer 1 (.receipts [.dispatchedToCodex, .completed])]

/-- The clear that follows the send of the first entry removes the replacement. -/
theorem replacement_lost_after_send :
    ¬ Along QueueManager.step (fun m i => (m i.1).Justified i.2) QueueManager.init
      (Queueing.ofSession (Queueing.replaced ++ [.answer 1 .stored])) := by
  intro along
  have last := (show Along _ _ _
    (Queueing.ofSession Queueing.replaced ++ ("session-1", .answer 1 .stored) :: []) from along).at_step
  obtain ⟨job, answer, acts, removes⟩ := last 1 (by decide +kernel) (by decide +kernel)
  have clears : ∃ row : Row, row.id = 0 ∧ job = .sentClear row := by
    refine ⟨⟨0, ⟨"first", "turn-1", 1, .queued⟩⟩, rfl, ?_⟩
    have acting : some (job, answer) = some (Job.sentClear ⟨0, ⟨"first", "turn-1", 1, .queued⟩⟩,
        Answer.stored) := by
      rw [← acts]
      decide +kernel
    cases acting
    rfl
  obtain ⟨row, first, rfl⟩ := clears
  have same := removes.1
  omega

end AgentConsole.Bridge
