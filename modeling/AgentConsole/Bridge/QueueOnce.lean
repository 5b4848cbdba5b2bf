import AgentConsole.Bridge.QueueSteps

/-! # An entry is handed over at most once

`maybe_auto_send` reads the row, asks for a snapshot and only then hands the entry to
the executor; it clears the row after the executor has answered.  `pause`, `resume`
and `mark_paused` write back the row they have read.  Nothing ties a later step to
the row the task has read, so two tasks can hand over one entry, and a write-back can
bring back an entry that is gone.

`Undisturbed` names the steps that go wrong.  In every run that avoids them, no entry
is handed over twice and none that was handed over or removed is stored again. -/

namespace AgentConsole.Bridge

open AgentConsole.Lib

namespace SessionQueue

variable {s : SessionQueue} {i : Input}

/-- No task has started a send of the entry `id` that it has not settled. -/
def Unsent (s : SessionQueue) (id : Nat) : Prop :=
  ∀ u job sent, s.job? u = some job → job.sent? = some sent → sent.id ≠ id

/-- The step is not disturbed by another operation, nor by the store:

* a hand-over and a write-back find the row that was read, and no unsettled send of
  that entry by another task;
* `resume` does not confirm an entry again that was already handed over;
* after a send, the store takes the clear or the pause. -/
def Undisturbed (s : SessionQueue) (i : Input) : Prop :=
  match s.acting i with
  | some (.autoHand read, _) => s.row = some read ∧ s.Unsent read.id
  | some (.pauseWrite read, .stored) => s.row = some read ∧ s.Unsent read.id
  | some (.resumeWrite read _, .stored) => s.row = some read ∧ read.id ∉ s.handed
  | some (.markWrite read sent, .stored) =>
    s.row = some read ∧ (sent.map (·.id) = some read.id ∨ s.Unsent read.id)
  | some (.sentClear _, .storeFailed) | some (.markRead (some _), .storeFailed)
  | some (.markWrite _ (some _), .storeFailed) => False
  | _ => True

/-- A write-back stores no entry that has left the store, and one that was handed over
only to pause it after its own failed send. -/
def NeverAgain (s : SessionQueue) (i : Input) : Prop :=
  ∀ job row, s.acting i = some (job, .stored) → job.rewrites = some row →
    row.id ∉ s.removed ∧ (row.id ∈ s.handed → job.sent?.map (·.id) = some row.id)

/-! ## The invariant -/

/-- The rows that jobs carry are queued where the code has checked it. -/
def Job.Sane : Job → Prop
  | .setWrite entry _ _ => entry.status = .queued
  | .pauseWrite read | .autoSnapshot read | .autoHand read | .markWrite read _ =>
    read.entry.status = .queued
  | _ => True

/-- Every entry was accepted under its number, and an entry that is queued although it
was handed over belongs to a send that is still unsettled. -/
structure Once (s : SessionQueue) : Prop where
  fresh : s.Fresh
  sent : s.SentHanded
  row : ∀ row, s.row = some row → row.id < s.entries ∧ row.id ∉ s.removed
  status : ∀ row, s.row = some row → row.entry.status ≠ .paused → row.entry.status = .queued
  handed : ∀ id ∈ s.handed, id < s.entries
  removed : ∀ id ∈ s.removed, id < s.entries
  once : s.handed.Nodup
  inFlight : ∀ row, s.row = some row → row.entry.status = .queued → row.id ∈ s.handed →
    ¬ s.Unsent row.id
  jobs : ∀ u job, s.job? u = some job → Job.Sane job

/-! ## What moves do to it -/

/-- Only the hand-over hands over, and it writes nothing. -/
theorem hands_of_move {job : Job} {answer : Answer} {m : Move} {id : Nat}
    (move : job.move s answer = some m) (hands : m.handed = some id) :
    ∃ read, job = .autoHand read ∧ read.id = id ∧ m.effect = .keep ∧
      m.next = some (.sending read) := by
  cases job <;> simp only [Job.move] at move <;> split at move <;> (repeat' split at move) <;>
    cases move <;> simp [Move.settled] at hands ⊢
  exact hands

/-- A task that has a send to settle keeps it until the row is not queued any more. -/
theorem settles_of_move {job : Job} {answer : Answer} {m : Move} {sent : Row} {task : Nat}
    (undisturbed : s.Undisturbed (.answer task answer)) (running : s.job? task = some job)
    (sends : job.sent? = some sent) (move : job.move s answer = some m) :
    (∃ next, m.next = some next ∧ next.sent? = some sent) ∨
      ∀ row, (s.apply m.effect).row = some row → row.entry.status ≠ .queued := by
  simp only [Undisturbed, acting, running, Option.map_some] at undisturbed
  cases job <;> simp only [Job.sent?, reduceCtorEq] at sends <;> simp only [Job.move] at move <;>
    split at move <;> (repeat' split at move) <;> cases move <;>
    simp_all [Job.sent?, Move.settled, apply, write, Row.paused]

theorem sane_of_move {job next : Job} {answer : Answer} {m : Move} (sane : Job.Sane job)
    (stored : ∀ row, s.row = some row → row.entry.status ≠ .paused → row.entry.status = .queued)
    (move : job.move s answer = some m) (goes : m.next = some next) : Job.Sane next := by
  cases job <;> simp only [Job.move] at move <;> split at move <;> (repeat' split at move) <;>
    cases move <;> simp [Move.settled, Job.watching] at goes <;> grind [Job.Sane, entryFromSnapshot]

theorem onEvent_handed (event : TurnLifecycle) : (s.onEvent event).handed = none := by
  unfold onEvent
  split <;> (try split) <;> rfl

theorem onEvent_sane (event : TurnLifecycle) {next : Job}
    (goes : (s.onEvent event).next = some next) : Job.Sane next := by
  unfold onEvent at goes
  split at goes <;> (try split at goes) <;> cases goes <;> trivial

theorem call_sane (call : Call) : Job.Sane call.job := by
  cases call <;> trivial

/-! ## Steps -/

/-- The jobs after a move are sane. -/
theorem Once.jobs_performed {s' : SessionQueue} {task : Nat} {channel : Option (List TurnLifecycle)} {m : Move}
    (inv : s.Once)
    (performed : Performed s task channel m s') (next : ∀ job, m.next = some job → Job.Sane job) :
    ∀ u job, s'.job? u = some job → Job.Sane job := by
  intro u job running
  rw [performed.jobs] at running
  split at running
  · exact next job running
  · exact inv.jobs u job running

/-- A step that keeps the row and the ghosts and lets every task keep its job. -/
theorem Once.of_kept {s' : SessionQueue} (inv : s.Once) (kept : Kept s s') (fresh : s'.Fresh)
    (sent : s'.SentHanded) (same : ∀ u job, s.job? u = some job → s'.job? u = some job)
    (sane : ∀ u job, s'.job? u = some job → Job.Sane job) : s'.Once where
  fresh := fresh
  sent := sent
  row := by rw [kept.row, kept.entries, kept.removed]; exact inv.row
  status := by rw [kept.row]; exact inv.status
  handed := by rw [kept.handed, kept.entries]; exact inv.handed
  removed := by rw [kept.removed, kept.entries]; exact inv.removed
  once := by rw [kept.handed]; exact inv.once
  inFlight := by
    rw [kept.row, kept.handed]
    intro row stored queued before unsent
    exact inv.inFlight row stored queued before fun u job sent' running =>
      unsent u job sent' (same u job running)
  jobs := sane

/-- A move that neither writes nor hands over, of a task without a send to settle. -/
theorem Once.keep {s' : SessionQueue} {task : Nat} {channel : Option (List TurnLifecycle)} {m : Move}
    (inv : s.Once) (fresh : s'.Fresh)
    (sent : s'.SentHanded) (performed : Performed s task channel m s')
    (keeps : m.effect = .keep) (none : m.handed = none)
    (next : ∀ job, m.next = some job → Job.Sane job)
    (settles : ∀ job sent, s.job? task = some job → job.sent? = some sent →
      (∃ next, m.next = some next ∧ next.sent? = some sent) ∨
        ∀ row, s.row = some row → row.entry.status ≠ .queued) : s'.Once := by
  have row : s'.row = s.row := by rw [performed.row, keeps]; rfl
  have entries : s'.entries = s.entries := by rw [performed.entries, keeps]; rfl
  have removed : s'.removed = s.removed := by rw [performed.removed, keeps]; rfl
  have handed : s'.handed = s.handed := by rw [performed.handed, none]; simp
  refine ⟨fresh, sent, ?_, ?_, ?_, ?_, ?_, ?_, inv.jobs_performed performed next⟩
  · rw [row, entries, removed]; exact inv.row
  · rw [row]; exact inv.status
  · rw [handed, entries]; exact inv.handed
  · rw [removed, entries]; exact inv.removed
  · rw [handed]; exact inv.once
  · intro r stored queued before unsent
    rw [row] at stored
    rw [handed] at before
    refine inv.inFlight r stored queued before fun u job sent' running sends => ?_
    by_cases self : u = task
    · subst self
      rcases settles job sent' running sends with ⟨next, goes, still⟩ | gone
      · exact unsent u next sent' (by rw [performed.jobs, if_pos rfl, goes]) still
      · exact absurd queued (gone r stored)
    · exact unsent u job sent' (by rw [performed.jobs, if_neg self, running]) sends

/-- The hand-over of the row in the store, which no task is sending. -/
theorem Once.hand {s' : SessionQueue} {task : Nat} {channel : Option (List TurnLifecycle)} {m : Move}
    {read : Row} (inv : s.Once)
    (fresh : s'.Fresh) (sent : s'.SentHanded) (performed : Performed s task channel m s')
    (keeps : m.effect = .keep) (hands : m.handed = some read.id)
    (goes : m.next = some (.sending read)) (queued : read.entry.status = .queued)
    (stored : s.row = some read) (unsent : s.Unsent read.id) : s'.Once := by
  have row : s'.row = some read := by rw [performed.row, keeps]; exact stored
  have entries : s'.entries = s.entries := by rw [performed.entries, keeps]; rfl
  have removed : s'.removed = s.removed := by rw [performed.removed, keeps]; rfl
  have handed : s'.handed = s.handed ++ [read.id] := by rw [performed.handed, hands]; rfl
  have new : read.id ∉ s.handed := fun before => inv.inFlight read stored queued before unsent
  refine ⟨fresh, sent, ?_, ?_, ?_, ?_, ?_, ?_, inv.jobs_performed performed ?_⟩
  · rw [row, ← stored, entries, removed]; exact inv.row
  · rw [row, ← stored]; exact inv.status
  · rw [handed, entries]
    intro id member
    rcases List.mem_append.mp member with before | now
    · exact inv.handed id before
    · rw [List.mem_singleton.mp now]; exact (inv.row read stored).1
  · rw [removed, entries]; exact inv.removed
  · rw [handed]
    exact List.nodup_append.mpr ⟨inv.once, List.nodup_singleton _, by
      rintro a before b now rfl
      exact new (List.mem_singleton.mp now ▸ before)⟩
  · intro r stored' _ _ settled
    -- the task that has just handed the row over is sending it
    obtain rfl : read = r := by simpa [row] using stored'
    exact settled task _ read (by rw [performed.jobs, if_pos rfl, goes]) rfl rfl
  · intro job next
    obtain rfl : Job.sending read = job := by simpa [goes] using next
    trivial

/-- A write after which no row is both queued and handed over. -/
theorem Once.wrote {s' : SessionQueue} {task : Nat} {channel : Option (List TurnLifecycle)} {m : Move}
    (inv : s.Once) (fresh : s'.Fresh)
    (sent : s'.SentHanded) (performed : Performed s task channel m s') (none : m.handed = none)
    (next : ∀ job, m.next = some job → Job.Sane job)
    (more : s.entries ≤ (s.apply m.effect).entries)
    (removed : ∀ id ∈ (s.apply m.effect).removed, id < (s.apply m.effect).entries)
    (row : ∀ row, (s.apply m.effect).row = some row →
      (row.id < (s.apply m.effect).entries ∧ row.id ∉ (s.apply m.effect).removed) ∧
      (row.entry.status = .paused ∨ row.entry.status = .queued ∧ row.id ∉ s.handed)) :
    s'.Once := by
  have handed : s'.handed = s.handed := by rw [performed.handed, none]; simp
  refine ⟨fresh, sent, ?_, ?_, ?_, ?_, ?_, ?_, inv.jobs_performed performed next⟩
  · rw [performed.row, performed.entries, performed.removed]
    exact fun r stored => (row r stored).1
  · rw [performed.row]
    intro r stored notPaused
    rcases (row r stored).2 with paused | queued
    · exact absurd paused notPaused
    · exact queued.1
  · rw [handed, performed.entries]
    exact fun id before => lt_of_lt_of_le (inv.handed id before) more
  · rw [performed.removed, performed.entries]; exact removed
  · rw [handed]; exact inv.once
  · rw [performed.row, handed]
    intro r stored queued before
    rcases (row r stored).2 with paused | new
    · simp [paused] at queued
    · exact absurd before new.2

/-- What leaves the store was stored, so it has a number. -/
theorem Once.leaving (inv : s.Once) (row : Option Row) {id : Nat}
    (gone : id ∈ s.removed ++ s.leaving row) : id < s.entries := by
  rcases List.mem_append.mp gone with before | now
  · exact inv.removed id before
  · unfold SessionQueue.leaving at now
    split at now
    · cases now
    · next old stored =>
      split at now
      · cases now
      · rw [List.mem_singleton.mp now]; exact (inv.row old stored).1

/-- An undisturbed write-back writes to the row it has read. -/
theorem rewrites_stored {job : Job} {read : Row} {task : Nat}
    (undisturbed : s.Undisturbed (.answer task .stored)) (running : s.job? task = some job)
    (rewrites : job.rewrites = some read) : s.row = some read := by
  simp only [Undisturbed, acting, running, Option.map_some] at undisturbed
  cases job <;> simp only [Job.rewrites, reduceCtorEq, Option.some.injEq] at rewrites <;>
    subst rewrites <;> exact undisturbed.1

/-- An undisturbed write-back pauses the row, or queues one that was never handed
over. -/
theorem rewrites_status {job : Job} {read row : Row} {task : Nat} {m : Move}
    (undisturbed : s.Undisturbed (.answer task .stored)) (running : s.job? task = some job)
    (rewrites : job.rewrites = some read) (move : job.move s .stored = some m)
    (effect : m.effect = .writeBack row) :
    row.entry.status = .paused ∨ row.entry.status = .queued ∧ row.id ∉ s.handed := by
  simp only [Undisturbed, acting, running, Option.map_some] at undisturbed
  cases job <;> simp only [Job.rewrites, reduceCtorEq, Option.some.injEq] at rewrites <;>
    subst rewrites <;> simp only [Job.move, Option.some.injEq] at move <;>
    simp only [← move, Move.settled, Effect.writeBack.injEq] at effect <;> subst effect
  · exact Or.inl rfl
  · exact Or.inr ⟨rfl, undisturbed.2⟩
  · exact Or.inl rfl

/-- Only a move that keeps the row hands over. -/
theorem hands_nothing {job : Job} {answer : Answer} {m : Move}
    (move : job.move s answer = some m) (writes : m.effect ≠ .keep) : m.handed = none := by
  cases hands : m.handed with
  | none => rfl
  | some id =>
    obtain ⟨_, _, _, keeps, _⟩ := hands_of_move move hands
    exact absurd keeps writes

theorem Once.move {task : Nat} {answer : Answer} {job : Job} {m : Move} {s' : SessionQueue}
    (inv : s.Once) (undisturbed : s.Undisturbed (.answer task answer)) (fresh : s'.Fresh)
    (sent : s'.SentHanded) (running : s.job? task = some job) (move : job.move s answer = some m)
    (performed : Performed s task channel m s') : s'.Once := by
  have next : ∀ next, m.next = some next → Job.Sane next :=
    fun _ => sane_of_move (inv.jobs task job running) inv.status move
  rcases effect_of_move move with keeps | accepts | writes | clears
  · cases hands : m.handed with
    | some id =>
      obtain ⟨read, rfl, rfl, -, goes⟩ := hands_of_move move hands
      simp only [Undisturbed, acting, running, Option.map_some] at undisturbed
      exact inv.hand fresh sent performed keeps hands goes (inv.jobs task _ running)
        undisturbed.1 undisturbed.2
    | none =>
      refine inv.keep fresh sent performed keeps hands next fun job' sent' running' sends => ?_
      obtain rfl : job = job' := by simpa [running] using running'
      simpa [keeps, apply] using settles_of_move undisturbed running sends move
  · obtain ⟨entry, replace, request, rfl, rfl, effect⟩ := accepts
    have queued : entry.status = .queued := inv.jobs task _ running
    refine inv.wrote fresh sent performed (hands_nothing move (by simp [effect])) next ?_ ?_ ?_
    · rw [effect]; exact Nat.le_succ _
    · rw [effect]
      exact fun id gone => Nat.lt_succ_of_lt (inv.leaving _ gone)
    · rw [effect]
      rintro row ⟨⟩
      refine ⟨⟨Nat.lt_succ_self _, fun gone => ?_⟩, Or.inr ⟨queued, fun before => ?_⟩⟩
      · exact lt_irrefl _ (inv.leaving _ gone)
      · exact lt_irrefl _ (inv.handed _ before)
  · obtain ⟨read, row, rewrites, rfl, same, effect⟩ := writes
    have stored := rewrites_stored undisturbed running rewrites
    have status := rewrites_status undisturbed running rewrites move effect
    have removed : (s.apply m.effect).removed = s.removed := by
      simp [effect, apply, write, SessionQueue.leaving, stored, same]
    refine inv.wrote fresh sent performed (hands_nothing move (by simp [effect])) next ?_ ?_ ?_
    · rw [effect]; exact le_rfl
    · rw [removed, effect]; exact inv.removed
    · rw [removed, effect]
      rintro _ ⟨⟩
      rw [same] at status ⊢
      exact ⟨inv.row read stored, status⟩
  · obtain ⟨-, -, effect⟩ := clears
    refine inv.wrote fresh sent performed (hands_nothing move (by simp [effect])) next ?_ ?_ ?_
    · rw [effect]; exact le_rfl
    · rw [effect]; exact fun id gone => inv.leaving _ gone
    · rw [effect]; rintro row ⟨⟩

/-- An undisturbed step keeps the invariant. -/
theorem Once.step (inv : s.Once) (undisturbed : s.Undisturbed i) : (s.step i).Once := by
  have fresh := inv.fresh.step i
  have sent := inv.sent.step inv.fresh i
  cases transition inv.fresh i with
  | called call kept view inflight jobs channels =>
    refine inv.of_kept kept fresh sent ?_ ?_
    · intro u job running
      have old : u ≠ s.spawned := by
        rintro rfl
        simp [job?, inv.fresh s.spawned le_rfl] at running
      rw [jobs, if_neg old, running]
    · intro u job running
      rw [jobs] at running
      split at running
      · cases running; exact call_sane call
      · exact inv.jobs u job running
  | moved task answer job m running move performed =>
    exact inv.move undisturbed fresh sent running move performed
  | received task event rest idle channel performed =>
    refine inv.keep fresh sent performed (onEvent_effect event) (onEvent_handed event)
      (fun job => onEvent_sane event) fun job sent' running => ?_
    simp [idle] at running
  | stuttered same silent => rw [same]; exact inv
  | observed c kept view inflight jobs channels =>
    refine inv.of_kept kept fresh sent ?_ ?_
    · intro u job running
      rw [jobs, running]
    · simp only [jobs]
      exact inv.jobs

/-- In an undisturbed step no entry is stored again. -/
theorem Once.neverAgain (inv : s.Once) (undisturbed : s.Undisturbed i) : s.NeverAgain i := by
  intro job row acts rewrites
  cases i with
  | answer task answer =>
    simp only [acting, Option.map_eq_some_iff, Prod.mk.injEq] at acts
    obtain ⟨job', running, rfl, rfl⟩ := acts
    have stored := rewrites_stored undisturbed running rewrites
    refine ⟨(inv.row row stored).2, fun before => ?_⟩
    have sane := inv.jobs task job' running
    simp only [Undisturbed, acting, running, Option.map_some] at undisturbed
    cases job' <;> simp only [Job.rewrites, reduceCtorEq, Option.some.injEq] at rewrites <;>
      subst rewrites
    · exact absurd undisturbed.2 (inv.inFlight _ stored sane before)
    · exact absurd before undisturbed.2
    · rcases undisturbed.2 with own | unsent
      · exact own
      · exact absurd unsent (inv.inFlight _ stored sane before)
  | call _ | receive _ | observe _ => simp [acting] at acts

theorem once_init : SessionQueue.Once {} where
  fresh := fresh_init
  sent := sentHanded_init
  row := by simp
  status := by simp
  handed := by simp
  removed := by simp
  once := List.nodup_nil
  inFlight := by simp
  jobs := by simp [job?]

end SessionQueue

/-- In every run of undisturbed steps, every entry is handed to the executor at most
once, and no operation stores an entry again that has left the store or, its own
failed send apart, that was handed over. -/
theorem entries_dispatched_once (inputs : List (SessionId × Input))
    (undisturbed : Along QueueManager.step (fun m i => (m i.1).Undisturbed i.2)
      QueueManager.init inputs) :
    (∀ session, (inputs.foldl QueueManager.step QueueManager.init session).handed.Nodup) ∧
      Along QueueManager.step (fun m i => (m i.1).NeverAgain i.2) QueueManager.init inputs := by
  have kept : ∀ (m : QueueManager) (i : SessionId × Input), (∀ k, (m k).Once) →
      (m i.1).Undisturbed i.2 → ∀ k, (QueueManager.step m i k).Once :=
    fun m i inv now => stepAt_forall inv ((inv i.1).step now)
  constructor
  · intro session
    exact (undisturbed.reached kept (fun _ => SessionQueue.once_init) session).once
  · exact undisturbed.of_invariant kept (fun m i inv now => (inv i.1).neverAgain now)
      (fun _ => SessionQueue.once_init)

instance SessionQueue.decidableUnsent (s : SessionQueue) (id : Nat) : Decidable (s.Unsent id) :=
  decidable_of_iff (∀ u t, s.tasks.get? u = some t →
      ∀ sent ∈ (t.job.bind Job.sent?).toList, sent.id ≠ id) (by
    constructor
    · intro holds u job sent running sends
      obtain ⟨t, found, works⟩ := Option.bind_eq_some_iff.mp running
      exact holds u t found sent (by simp [works, sends])
    · intro unsent u t found sent member
      simp only [Option.mem_toList, Option.bind_eq_some_iff] at member
      obtain ⟨job, works, sends⟩ := member
      exact unsent u job sent (by simp [SessionQueue.job?, found, works]) sends)

instance SessionQueue.decidableUndisturbed (s : SessionQueue) (i : Input) :
    Decidable (s.Undisturbed i) := by
  unfold SessionQueue.Undisturbed
  split <;> infer_instance

/-- The watcher sends the queued entry and clears it; then it is paused in vain. -/
def Queueing.sent : List Input :=
  completed ++ [.answer 1 .continued, .answer 1 (.receipts [.dispatchedToCodex, .completed]),
    .answer 1 .stored, .call .pause, .answer 2 .stored]

theorem entries_dispatched_once_sent :
    Along QueueManager.step (fun m i => (m i.1).Undisturbed i.2) QueueManager.init
        (Queueing.ofSession Queueing.sent) ∧
      ((Queueing.ofSession Queueing.sent).foldl QueueManager.step QueueManager.init
        "session-1").handed.Nodup := by
  have undisturbed : Along QueueManager.step (fun m i => (m i.1).Undisturbed i.2)
      QueueManager.init (Queueing.ofSession Queueing.sent) := by
    decide +kernel
  exact ⟨undisturbed, (entries_dispatched_once _ undisturbed).1 "session-1"⟩

/-- Between the watcher's look at the row and its hand-over, `resume` confirms the
entry and hands it over as well. -/
theorem resumed_entry_sent_twice :
    ¬ ((Queueing.ofSession (Queueing.completed ++ [.call .resume, .answer 2 .stored,
        .answer 2 .snapshot, .answer 2 .stored, .answer 2 .continued, .answer 2 .stored,
        .answer 2 .snapshot, .answer 2 .continued, .answer 1 .continued])).foldl
      QueueManager.step QueueManager.init "session-1").handed.Nodup := by
  decide +kernel

end AgentConsole.Bridge
