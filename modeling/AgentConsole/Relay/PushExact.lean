import AgentConsole.Relay.Push

/-! # When notifications match transitions

The table of the last notifications and the times notifications were due agree as long as
every notification was due.  So a run notifies of every transition once exactly when its
reports are spaced as the window expects: repetitions within a minute of the last
transition of their kind, transitions at least a minute apart. -/

namespace AgentConsole.Relay.Push

open AgentConsole.Lib AgentConsole.Lib.Window

/-! ## Triggers and reports -/

theorem fromTurnOutcome_ne (outcome : Int) :
    PushEventKind.fromTurnOutcome outcome ≠ some .waitingQuestion ∧
      PushEventKind.fromTurnOutcome outcome ≠ some .waitingApproval := by
  unfold PushEventKind.fromTurnOutcome
  split <;> decide

/-- An event triggers each kind once. -/
theorem triggersFromEvent_nodup (event : Event) : (triggersFromEvent event).Nodup := by
  unfold triggersFromEvent
  split
  · cases PushEventKind.fromTurnOutcome _ <;> simp
  · decide
  · decide
  · decide
  · rename_i outcome count kinds
    obtain ⟨notQuestion, notApproval⟩ := fromTurnOutcome_ne outcome
    cases ended : PushEventKind.fromTurnOutcome outcome with
    | none => split_ifs <;> simp
    | some kind =>
      rw [ended] at notQuestion notApproval
      have apart : kind ≠ .waitingQuestion ∧ kind ≠ .waitingApproval :=
        ⟨fun same => notQuestion (same ▸ rfl), fun same => notApproval (same ▸ rfl)⟩
      split_ifs <;> simp [apart]
  · decide

theorem kind_of_mem_turnEnd {turn : String} {outcome : Int} {t : Transition}
    (told : t ∈ turnEnd turn outcome) :
    t.kind ∈ (PushEventKind.fromTurnOutcome outcome).toList := by
  unfold turnEnd at told
  cases ended : PushEventKind.fromTurnOutcome outcome with
  | none => simp [ended] at told
  | some kind =>
    rw [ended, Option.map_some] at told
    obtain rfl := Option.mem_some_iff.mp (Option.mem_toList.mp told)
    exact Option.mem_toList.mpr rfl

/-- A report triggers the kind of every transition it tells of. -/
theorem triggered_of_tells {report : Report} {t : Transition} (told : t ∈ report.tells) :
    t.kind ∈ triggersFromEvent report.event := by
  cases report with
  | lifecycle turn outcome => exact kind_of_mem_turnEnd told
  | attention added =>
    rcases added with _ | ⟨id⟩ | ⟨id⟩
    · cases told
    · obtain rfl := List.mem_singleton.mp told
      exact List.mem_singleton.mpr rfl
    · obtain rfl := List.mem_singleton.mp told
      exact List.mem_singleton.mpr rfl
  | summary shown =>
    obtain ⟨lastTurn, questions, approvals⟩ := shown
    simp only [Report.tells, List.mem_append, List.mem_map] at told
    simp only [Report.event, triggersFromEvent, List.mem_append]
    rcases told with (ended | ⟨id, asked, rfl⟩) | ⟨id, asked, rfl⟩
    · left
      cases lastTurn with
      | none => cases ended
      | some last => exact kind_of_mem_turnEnd ended
    · right
      have some_question : questions ≠ [] := List.ne_nil_of_mem asked
      have positive : 0 < questions.length := List.length_pos_of_mem asked
      rw [if_pos (by omega)]
      simp [some_question, Transition.kind]
    · right
      have some_approval : approvals ≠ [] := List.ne_nil_of_mem asked
      have positive : 0 < approvals.length := List.length_pos_of_mem asked
      rw [if_pos (by omega)]
      simp [some_approval, Transition.kind]
  | other => cases told

/-! ## One event -/

section Notify

variable {stored : Stored} {now : Nat} {session : SessionRef}

theorem dedupAllow_fst {dedup : Dedup} {kind : PushEventKind} :
    (dedupAllow dedup now session kind).1 = true ↔
      ¬ Live dedupWindow dedup (session, kind) now :=
  allow_fst

theorem live_dedupAllow {dedup : Dedup} (past : Past dedup now) {later : Nat}
    (order : now ≤ later) (kind : PushEventKind) (key : SessionRef × PushEventKind) :
    Live dedupWindow (dedupAllow dedup now session kind).2 key later ↔
      Live dedupWindow dedup key later ∨
        key = (session, kind) ∧ (dedupAllow dedup now session kind).1 = true ∧
          later - now ≤ dedupWindow := by
  rw [dedupAllow_fst]
  exact live_allow past order

theorem dedupAllow_past {dedup : Dedup} (past : Past dedup now) (kind : PushEventKind) :
    Past (dedupAllow dedup now session kind).2 now :=
  allow_past past

/-- The kinds sent are among those triggered, in their order. -/
theorem sent_sublist (dedup : Dedup) (kinds : List PushEventKind) :
    (notify stored now session dedup kinds).1.Sublist kinds := by
  induction kinds generalizing dedup with
  | nil => exact List.Sublist.slnil
  | cons kind rest ih =>
    unfold notify
    split
    · dsimp only
      split
      · exact (ih _).cons_cons kind
      · exact (ih _).cons kind
    · exact (ih _).cons kind

/-- A kind is sent if it is triggered, passes the checks and is not live. -/
theorem mem_sent {dedup : Dedup} (past : Past dedup now) {kinds : List PushEventKind}
    (once : kinds.Nodup) (kind : PushEventKind) :
    kind ∈ (notify stored now session dedup kinds).1 ↔
      kind ∈ kinds ∧ stored.permits kind = true ∧
        ¬ Live dedupWindow dedup (session, kind) now := by
  induction kinds generalizing dedup with
  | nil => simp [notify]
  | cons first rest ih =>
    obtain ⟨absent, once⟩ := List.nodup_cons.mp once
    unfold notify
    by_cases same : kind = first
    · subst same
      have unsent (d : Dedup) : kind ∉ (notify stored now session d rest).1 :=
        fun sent => absent ((sent_sublist d rest).subset sent)
      by_cases permitted : stored.permits kind = true
      · simp only [permitted, if_true]
        split
        · rename_i allowed
          simpa [← dedupAllow_fst] using allowed
        · rename_i refused
          simpa [unsent, ← dedupAllow_fst] using refused
      · simp [permitted, unsent]
    · have untouched : Live dedupWindow (dedupAllow dedup now session first).2 (session, kind) now ↔
          Live dedupWindow dedup (session, kind) now := by
        rw [live_dedupAllow past (Nat.le_refl now)]
        simp [same]
      split
      · dsimp only
        rw [apply_ite (kind ∈ ·), List.mem_cons, ih (dedupAllow_past past first) once, untouched]
        simp [same]
      · rw [ih past once]
        simp [same]

/-- A kind is notified at most once by one event. -/
theorem notify_count {dedup : Dedup} (past : Past dedup now) {kinds : List PushEventKind}
    (once : kinds.Nodup) (kind : PushEventKind) :
    (notify stored now session dedup kinds).1.count kind ≤ 1 ∧
      ((notify stored now session dedup kinds).1.count kind ≠ 0 ↔
        kind ∈ kinds ∧ stored.permits kind = true ∧
          ¬ Live dedupWindow dedup (session, kind) now) := by
  constructor
  · exact List.nodup_iff_count_le_one.mp ((sent_sublist dedup kinds).nodup once) kind
  · rw [← mem_sent past once, ← List.count_pos_iff, Nat.pos_iff_ne_zero]

theorem notify_past {dedup : Dedup} (past : Past dedup now) (kinds : List PushEventKind) :
    Past (notify stored now session dedup kinds).2 now := by
  induction kinds generalizing dedup with
  | nil => exact past
  | cons kind rest ih =>
    unfold notify
    split
    · exact ih (dedupAllow_past past kind)
    · exact ih past

/-- What is live after an event: what was, and the kinds just sent. -/
theorem live_notify {dedup : Dedup} (past : Past dedup now) {later : Nat} (order : now ≤ later)
    (kinds : List PushEventKind) (key : SessionRef × PushEventKind) :
    Live dedupWindow (notify stored now session dedup kinds).2 key later ↔
      Live dedupWindow dedup key later ∨
        key.1 = session ∧ key.2 ∈ (notify stored now session dedup kinds).1 ∧
          later - now ≤ dedupWindow := by
  induction kinds generalizing dedup with
  | nil => simp [notify]
  | cons kind rest ih =>
    unfold notify
    split
    · dsimp only
      rw [ih (dedupAllow_past past kind), live_dedupAllow past order, Prod.ext_iff]
      split
      · rename_i allowed
        rw [List.mem_cons]
        tauto
      · rename_i refused
        tauto
    · exact ih past

end Notify

/-! ## Runs -/

/-- The table remembers what was due: both say the same of every window from now on. -/
structure Remembers (s : State) : Prop where
  past : Past s.dedup s.now
  live : ∀ key later, s.now ≤ later →
    (Live dedupWindow s.dedup key later ↔
      ∃ time, (time, key) ∈ s.due ∧ later - time ≤ dedupWindow)

theorem remembers_start : Remembers {} where
  past _ _ found := nomatch found
  live key later _ := by
    constructor
    · rintro ⟨_, found, _⟩
      cases found
    · rintro ⟨_, due, _⟩
      cases due

theorem Remembers.quiet_iff {s : State} (remembers : Remembers s) (a : Arrival)
    (kind : PushEventKind) :
    s.quiet a kind ↔ ¬ Live dedupWindow s.dedup (a.session, kind) (s.time a) := by
  rw [remembers.live _ (s.time a) (Nat.le_add_right s.now a.after)]
  constructor
  · rintro quiet ⟨time, due, recent⟩
    have := quiet time due
    omega
  · intro none time due
    by_contra recent
    exact none ⟨time, due, by omega⟩

/-- What is owed is triggered by the event. -/
theorem triggered_of_owed {s : State} {a : Arrival} {kind : PushEventKind}
    (owed : s.owed a kind ≠ 0) : kind ∈ triggersFromEvent a.report.event := by
  unfold State.owed at owed
  split at owed
  · obtain ⟨t, first⟩ := List.exists_mem_of_ne_nil _ (List.length_pos_iff.mp
      (Nat.pos_of_ne_zero owed))
    obtain ⟨told, isKind, _⟩ := by
      simpa [State.fresh, and_assoc] using first
    exact isKind ▸ triggered_of_tells told
  · exact absurd rfl owed

theorem notified_iff {s : State} (remembers : Remembers s) (a : Arrival) (kind : PushEventKind) :
    s.notified a kind ≤ 1 ∧
      (s.notified a kind ≠ 0 ↔
        kind ∈ triggersFromEvent a.report.event ∧ a.stored.permits kind = true ∧
          s.quiet a kind) := by
  rw [remembers.quiet_iff]
  exact notify_count (past_mono remembers.past (Nat.le_add_right s.now a.after))
    (triggersFromEvent_nodup _) kind

/-- One event: its notifications are those due exactly when it is spaced as the window
expects. -/
theorem exact_iff_spaced {s : State} (remembers : Remembers s) (a : Arrival) :
    Exact s a ↔ ∀ kind, Spaced s a kind := by
  refine forall_congr' fun kind => ?_
  obtain ⟨once, sent⟩ := notified_iff remembers a kind
  constructor
  · intro exact'
    rw [exact'] at once sent
    exact {
      single := once
      apart := fun owed => (sent.mp owed).2
      close := fun triggered settled permitted quiet =>
        sent.mpr ⟨triggered, permitted, quiet⟩ settled }
  · rintro ⟨single, apart, close⟩
    by_cases owed : s.owed a kind = 0
    · rw [owed]
      by_contra notified
      obtain ⟨triggered, permitted, quiet⟩ := sent.mp notified
      exact close triggered owed permitted quiet
    · have notified := sent.mpr ⟨triggered_of_owed owed, apart owed⟩
      omega

theorem PushEventKind.mem_all (kind : PushEventKind) : kind ∈ PushEventKind.all := by
  cases kind <;> decide

/-- After an event whose notifications were those due, the table still remembers. -/
theorem Remembers.step {s : State} (remembers : Remembers s) {a : Arrival} (exact' : Exact s a) :
    Remembers (step s a) := by
  have order : s.now ≤ s.time a := Nat.le_add_right s.now a.after
  have past := past_mono remembers.past order
  have sent (kind : PushEventKind) : kind ∈ (s.handle a).1 ↔ s.owed a kind ≠ 0 := by
    rw [← exact' kind, ← List.count_pos_iff, Nat.pos_iff_ne_zero, State.notified]
  exact {
    past := notify_past past _
    live := by
      intro key later after
      have before : s.now ≤ later := Nat.le_trans order after
      show Live dedupWindow (s.handle a).2 key later ↔ _
      rw [State.handle, live_notify past after, remembers.live key later before]
      show _ ∨ _ ∧ key.2 ∈ (s.handle a).1 ∧ _ ↔ _
      rw [sent]
      have added (time : Nat) : (time, key) ∈ (Push.step s a).due ↔
          (time, key) ∈ s.due ∨ time = s.time a ∧ key.1 = a.session ∧ s.owed a key.2 ≠ 0 := by
        simp only [Push.step, List.mem_append, List.mem_map, List.mem_filter, Prod.ext_iff,
          PushEventKind.mem_all, true_and, decide_eq_true_eq]
        constructor
        · rintro (old | ⟨kind, owed, same, session, rfl⟩)
          · exact .inl old
          · exact .inr ⟨same.symm, session.symm, owed⟩
        · rintro (old | ⟨same, session, owed⟩)
          · exact .inl old
          · exact .inr ⟨key.2, owed, same.symm, session.symm, rfl⟩
      simp only [added]
      constructor
      · rintro (⟨time, due, recent⟩ | ⟨session, owed, recent⟩)
        · exact ⟨time, .inl due, recent⟩
        · exact ⟨s.time a, .inr ⟨rfl, session, owed⟩, recent⟩
      · rintro ⟨time, due | ⟨rfl, session, owed⟩, recent⟩
        · exact .inl ⟨time, due, recent⟩
        · exact .inr ⟨session, owed, recent⟩ }

/-- A run notifies of every transition once, and of nothing else, exactly when all its
reports are spaced as the window expects. -/
theorem notifications_exact_iff_spaced (arrivals : List Arrival) :
    Along step Exact {} arrivals ↔
      Along step (fun s a => ∀ kind, Spaced s a kind) {} arrivals := by
  constructor
  · exact Along.of_invariant (I := Remembers) (fun _ _ remembers exact' => remembers.step exact')
      (fun _ a remembers => (exact_iff_spaced remembers a).mp) remembers_start
  · exact Along.of_invariant (I := Remembers)
      (fun _ a remembers spaced => remembers.step ((exact_iff_spaced remembers a).mpr spaced))
      (fun _ a remembers => (exact_iff_spaced remembers a).mpr) remembers_start

/-- A turn ends, and a summary shows its outcome again 61 seconds later. -/
theorem repeated_summary_notifies_again :
    ¬ Along step Exact {}
      [⟨0, ⟨1, "CODEX_DESKTOP", "n-1"⟩, .lifecycle "turn-1" 1, {}⟩,
        ⟨61 * 10 ^ 9, ⟨1, "CODEX_DESKTOP", "n-1"⟩, .summary ⟨some ("turn-1", 1), [], []⟩, {}⟩] := by
  rintro ⟨-, again, -⟩
  exact absurd (again .turnCompleted) (by decide +kernel)

end AgentConsole.Relay.Push
