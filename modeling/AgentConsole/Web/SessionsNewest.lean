import AgentConsole.Web.Sessions

/-! # When the list shows the newest summaries

One report changes the entry of its session and no other one, so of a batch only the last
report of each session counts. -/

namespace AgentConsole.Web.Sessions

open AgentConsole.Lib

/-! ## One entry for a session -/

def OnePerKey (sessions : List SessionSummary) : Prop := (sessions.map (·.key)).Nodup

variable {item session s : SessionSummary} {sessions : List SessionSummary} {key : SessionKey}
  {st : Store} {report r : Report}

@[simp] theorem matches_iff : item.matches_ session = true ↔ item.key = session.key := by
  simp only [SessionSummary.matches_, Bool.or_eq_true, decide_eq_true_eq]
  constructor
  · rintro (same | same)
    · exact congrArg SessionId.key same
    · exact same
  · exact .inr

@[simp] theorem assign_key (same : item.key = session.key) : (item.assign session).key = session.key := by
  show (item.preferredId session).key = session.key
  unfold SessionSummary.preferredId
  split
  · rfl
  · exact same

/-- The entry of the session after `upsert`. -/
def entryOf (session : SessionSummary) (sessions : List SessionSummary) : SessionSummary :=
  match sessions.find? (·.matches_ session) with
  | some item => item.assign session
  | none => session

theorem entryOf_key (session : SessionSummary) (sessions : List SessionSummary) :
    (entryOf session sessions).key = session.key := by
  unfold entryOf
  split
  · next item found =>
    have chosen := List.find?_some found
    simp only [matches_iff] at chosen
    exact assign_key chosen
  · rfl

theorem upsert_keys (session : SessionSummary) (sessions : List SessionSummary) :
    (upsert session sessions).map (·.key) =
      if session.key ∈ sessions.map (·.key) then sessions.map (·.key)
      else sessions.map (·.key) ++ [session.key] := by
  induction sessions with
  | nil => rfl
  | cons item rest inductionHypothesis =>
    unfold upsert
    by_cases same : item.key = session.key
    · simp [same, assign_key same]
    · simp only [matches_iff, same, if_false, List.map_cons, inductionHypothesis, List.mem_cons,
        Ne.symm same, false_or]
      split <;> rfl

theorem onePerKey_upsert (one : OnePerKey sessions) : OnePerKey (upsert session sessions) := by
  unfold OnePerKey
  rw [upsert_keys]
  split
  · exact one
  · next absent => exact one.append (List.nodup_singleton _) (by simpa using absent)

theorem mem_upsert (one : OnePerKey sessions) :
    item ∈ upsert session sessions ↔
      item = entryOf session sessions ∨ (item ∈ sessions ∧ item.key ≠ session.key) := by
  induction sessions with
  | nil => simp [upsert, entryOf]
  | cons first rest inductionHypothesis =>
    have fresh : first.key ∉ rest.map (·.key) := (List.nodup_cons.mp one).1
    have others := inductionHypothesis (List.nodup_cons.mp one).2
    unfold upsert
    by_cases same : first.key = session.key
    · have entry : entryOf session (first :: rest) = first.assign session := by
        simp [entryOf, same]
      have apart (there : item ∈ rest) : item.key ≠ session.key := fun own =>
        fresh (List.mem_map.mpr ⟨item, there, own.trans same.symm⟩)
      simp only [matches_iff, same, if_true, entry, List.mem_cons]
      constructor
      · rintro (rfl | there)
        · exact .inl rfl
        · exact .inr ⟨.inr there, apart there⟩
      · rintro (rfl | ⟨rfl | there, other⟩)
        · exact .inl rfl
        · exact absurd same other
        · exact .inr there
    · have entry : entryOf session (first :: rest) = entryOf session rest := by
        simp [entryOf, same]
      simp only [matches_iff, same, if_false, List.mem_cons, others, entry]
      constructor
      · rintro (rfl | rfl | ⟨there, other⟩)
        · exact .inr ⟨.inl rfl, same⟩
        · exact .inl rfl
        · exact .inr ⟨.inr there, other⟩
      · rintro (rfl | ⟨rfl | there, other⟩)
        · exact .inr (.inl rfl)
        · exact .inl rfl
        · exact .inr (.inr ⟨there, other⟩)

theorem entry_mem (one : OnePerKey sessions) : entryOf session sessions ∈ upsert session sessions :=
  (mem_upsert one).mpr (.inl rfl)

/-! ## One report -/

@[simp] theorem noneAfter_cons {applied : List Report} :
    NoneAfter (report :: applied) r ↔
      (report.key = r.key → ¬ report.After r) ∧ NoneAfter applied r := by
  simp [NoneAfter]

theorem not_after_self (r : Report) : ¬ r.After r := by
  rintro (later | ⟨-, later⟩) <;> omega

/-- What an entry that is assigned shows of the report. -/
theorem shows_written_iff :
    (written st report).Shows report.summary ↔
      ∀ item, st.existing report.summary = some item →
        (item.deviceLastSeenAt.isSome → report.summary.deviceLastSeenAt.isSome) ∧
          (item.degradedReason.isSome → report.summary.degradedReason.isSome) := by
  have orElse (new old : Option String) : (new <|> old) = new ↔ (old.isSome → new.isSome) := by
    cases new <;> cases old <;> simp
  unfold written
  cases st.existing report.summary with
  | some item =>
    constructor
    · intro shown item' found
      obtain rfl := Option.some.inj found
      exact ⟨(orElse _ _).mp shown.deviceLastSeenAt, (orElse _ _).mp shown.degradedReason⟩
    · intro keeps
      obtain ⟨seen, reason⟩ := keeps item rfl
      exact ⟨rfl, (orElse _ _).mpr seen, (orElse _ _).mpr reason⟩
  | none => exact iff_of_true ⟨rfl, rfl, rfl⟩ fun item found => by cases found

/-- The session of the report shows its newest one exactly when the report fits. -/
theorem keyFaithful_mergeOne (one : OnePerKey st.sessions) :
    KeyFaithful (st.mergeOne report).applied (st.mergeOne report).sessions report.key ↔
      Fits st report := by
  have only : KeyFaithful (st.mergeOne report).applied (st.mergeOne report).sessions report.key ↔
      ∃ r ∈ report :: st.applied, r.key = report.key ∧ NoneAfter (report :: st.applied) r ∧
        (written st report).Shows r.summary := by
    constructor
    · intro faithful
      exact faithful _ (entry_mem one) (entryOf_key _ _)
    · intro shown item there own
      rcases (mem_upsert one).mp there with rfl | ⟨-, other⟩
      · exact shown
      · exact absurd own other
  rw [only]
  constructor
  · rintro ⟨r, member, sameKey, newest, shows_⟩
    rcases List.mem_cons.mp member with rfl | member
    · exact .inl ⟨(noneAfter_cons.mp newest).2, shows_written_iff.mp shows_⟩
    · exact .inr ⟨r, member, sameKey, newest, shows_⟩
  · rintro (inOrder | ⟨r, member, sameKey, newest, shows_⟩)
    · exact ⟨report, List.mem_cons_self, rfl,
        noneAfter_cons.mpr ⟨fun _ => not_after_self report, inOrder.newest⟩,
        shows_written_iff.mpr inOrder.keeps⟩
    · exact ⟨r, List.mem_cons_of_mem _ member, sameKey, newest, shows_⟩

/-- The other sessions show what they did. -/
theorem keyFaithful_mergeOne_other (one : OnePerKey st.sessions) (other : key ≠ report.key) :
    KeyFaithful (st.mergeOne report).applied (st.mergeOne report).sessions key ↔
      KeyFaithful st.applied st.sessions key := by
  have items (item : SessionSummary) (own : item.key = key) :
      item ∈ (st.mergeOne report).sessions ↔ item ∈ st.sessions := by
    have apart : item.key ≠ report.key := fun same => other (own.symm.trans same)
    refine (mem_upsert one).trans ⟨?_, fun there => .inr ⟨there, apart⟩⟩
    rintro (rfl | ⟨there, -⟩)
    · exact absurd (entryOf_key _ _) apart
    · exact there
  have reports (r : Report) (own : r.key = key) :
      NoneAfter (report :: st.applied) r ↔ NoneAfter st.applied r := by
    rw [noneAfter_cons, and_iff_right]
    intro same
    exact absurd (own.symm.trans same.symm) other
  constructor
  · intro faithful item there own
    obtain ⟨r, member, sameKey, newest, shows_⟩ := faithful item ((items item own).mpr there) own
    rcases List.mem_cons.mp member with rfl | member
    · exact absurd sameKey.symm other
    · exact ⟨r, member, sameKey, (reports r sameKey).mp newest, shows_⟩
  · intro faithful item there own
    obtain ⟨r, member, sameKey, newest, shows_⟩ := faithful item ((items item own).mp there) own
    exact ⟨r, List.mem_cons_of_mem _ member, sameKey, (reports r sameKey).mpr newest, shows_⟩

/-! ## A batch -/

theorem onePerKey_mergeAll (incoming : List Report) (seenIds : List SessionId)
    (one : OnePerKey st.sessions) : OnePerKey (st.mergeAll seenIds incoming).1.sessions := by
  induction incoming generalizing st seenIds with
  | nil => exact one
  | cons report rest inductionHypothesis => exact inductionHypothesis _ (onePerKey_upsert one)

theorem keyFaithful_mergeAll_other (incoming : List Report) (seenIds : List SessionId)
    (one : OnePerKey st.sessions) (absent : ∀ r ∈ incoming, r.key ≠ key) :
    KeyFaithful (st.mergeAll seenIds incoming).1.applied
        (st.mergeAll seenIds incoming).1.sessions key ↔
      KeyFaithful st.applied st.sessions key := by
  induction incoming generalizing st seenIds with
  | nil => rfl
  | cons report rest inductionHypothesis =>
    obtain ⟨first, later⟩ := List.forall_mem_cons.mp absent
    exact (inductionHypothesis _ (onePerKey_upsert one) later).trans
      (keyFaithful_mergeOne_other one (Ne.symm first))

/-- After a batch its sessions show their newest reports exactly when the last report of
each one fits. -/
theorem keyFaithful_mergeAll (incoming : List Report) (seenIds : List SessionId)
    (one : OnePerKey st.sessions) :
    (∀ r ∈ incoming, KeyFaithful (st.mergeAll seenIds incoming).1.applied
        (st.mergeAll seenIds incoming).1.sessions r.key) ↔ FitsLast st incoming := by
  induction incoming generalizing st seenIds with
  | nil => exact iff_of_true (fun r there => by cases there) trivial
  | cons report rest inductionHypothesis =>
    have kept : OnePerKey (st.mergeOne report).sessions := onePerKey_upsert one
    have later := inductionHypothesis (st.targetId report.summary :: seenIds) kept
    have last (final : ∀ r ∈ rest, r.key ≠ report.key) :
        KeyFaithful (st.mergeAll seenIds (report :: rest)).1.applied
            (st.mergeAll seenIds (report :: rest)).1.sessions report.key ↔ Fits st report :=
      (keyFaithful_mergeAll_other rest _ kept final).trans (keyFaithful_mergeOne one)
    constructor
    · intro faithful
      obtain ⟨first, others⟩ := List.forall_mem_cons.mp faithful
      exact ⟨fun final => (last final).mp first, later.mp others⟩
    · rintro ⟨first, others⟩
      have rest_ := later.mpr others
      refine List.forall_mem_cons.mpr ⟨?_, rest_⟩
      by_cases final : ∀ r ∈ rest, r.key ≠ report.key
      · exact (last final).mpr (first final)
      · push Not at final
        obtain ⟨r, member, same⟩ := final
        rw [← same]
        exact rest_ r member

/-- The entries of the sessions a batch names are among the ids it has seen. -/
theorem seen_mergeAll (incoming : List Report) (seenIds : List SessionId)
    (one : OnePerKey st.sessions) (keys : List SessionKey)
    (seen : ∀ item ∈ st.sessions, item.key ∈ keys → item.id ∈ seenIds) :
    ∀ item ∈ (st.mergeAll seenIds incoming).1.sessions,
      item.key ∈ keys ∨ item.key ∈ incoming.map Report.key →
        item.id ∈ (st.mergeAll seenIds incoming).2 := by
  induction incoming generalizing st seenIds keys with
  | nil => simpa [Store.mergeAll] using seen
  | cons report rest inductionHypothesis =>
    have here : ∀ item ∈ (st.mergeOne report).sessions, item.key ∈ report.key :: keys →
        item.id ∈ st.targetId report.summary :: seenIds := by
      intro item there known
      rcases (mem_upsert one).mp there with rfl | ⟨there, other⟩
      · have own : (entryOf report.summary st.sessions).id = st.targetId report.summary := by
          unfold entryOf Store.targetId Store.existing
          cases st.sessions.find? (·.matches_ report.summary) <;> rfl
        rw [own]
        exact List.mem_cons_self
      · rcases List.mem_cons.mp known with own | known
        · exact absurd own other
        · exact List.mem_cons_of_mem _ (seen item there known)
    intro item there known
    refine inductionHypothesis _ (onePerKey_upsert one) _ here item there ?_
    simp only [List.map_cons, List.mem_cons] at known ⊢
    tauto

@[simp] theorem mem_sorted : item ∈ Store.sorted sessions ↔ item ∈ sessions := by
  simp [Store.sorted]

theorem onePerKey_sorted (one : OnePerKey sessions) : OnePerKey (Store.sorted sessions) :=
  ((List.mergeSort_perm _ _).map _).nodup_iff.mpr one

theorem onePerKey_mergeSessions (one : OnePerKey st.sessions) (incoming : List Report)
    (snapshot : Bool) : OnePerKey (st.mergeSessions incoming snapshot).sessions := by
  have merged := onePerKey_mergeAll incoming [] one
  unfold Store.mergeSessions
  apply onePerKey_sorted
  split
  · exact merged.sublist (List.filter_sublist.map _)
  · exact merged

theorem mem_mergeSessions (incoming : List Report) (snapshot : Bool) :
    item ∈ (st.mergeSessions incoming snapshot).sessions ↔
      item ∈ (st.mergeAll [] incoming).1.sessions ∧
        (snapshot = true → item.id ∈ (st.mergeAll [] incoming).2 ∨
          item.id ∈ (st.mergeAll [] incoming).1.runtimes) := by
  unfold Store.mergeSessions
  cases snapshot <;> simp

/-- Merging keeps the list faithful exactly when the last report of each session fits. -/
theorem faithful_mergeSessions (one : OnePerKey st.sessions) (faithful : Faithful st)
    (incoming : List Report) (snapshot : Bool) :
    Faithful (st.mergeSessions incoming snapshot) ↔ FitsLast st incoming := by
  rw [← keyFaithful_mergeAll incoming [] one]
  constructor
  · intro after r member item there own
    have seen := seen_mergeAll incoming [] one [] (fun _ _ none_ => by cases none_) item there
      (.inr (List.mem_map.mpr ⟨r, member, own.symm⟩))
    exact after r.key item ((mem_mergeSessions incoming snapshot).mpr ⟨there, fun _ => .inl seen⟩) own
  · intro named key item there own
    have there := ((mem_mergeSessions incoming snapshot).mp there).1
    by_cases absent : ∀ r ∈ incoming, r.key ≠ key
    · exact (keyFaithful_mergeAll_other incoming [] one absent).mpr (faithful key) item there own
    · push Not at absent
      obtain ⟨r, member, rfl⟩ := absent
      exact named r member item there own

namespace Store

theorem onePerKey_step (one : OnePerKey st.sessions) (e : Event) : OnePerKey (st.step e).sessions := by
  cases e with
  | page items => exact onePerKey_mergeSessions one items false
  | canonicalRefresh items => exact onePerKey_mergeSessions one items false
  | summaryBatch summaries snapshot => exact onePerKey_mergeSessions one summaries snapshot
  | summaryChanged summary => exact onePerKey_mergeSessions one [summary] false
  | runtime => exact one

theorem faithful_step (one : OnePerKey st.sessions) (faithful : Faithful st) (e : Event) :
    Faithful (st.step e) ↔ Forward st e := by
  cases e with
  | page items => exact faithful_mergeSessions one faithful items false
  | canonicalRefresh items => exact faithful_mergeSessions one faithful items false
  | summaryBatch summaries snapshot => exact faithful_mergeSessions one faithful summaries snapshot
  | summaryChanged summary => exact faithful_mergeSessions one faithful [summary] false
  | runtime => exact iff_of_true faithful trivial

/-- For every interleaving of pages, refreshes and stream summaries: in every state that is
reached each session shows its newest summary, exactly when in every message the last
summary of each session is as new as all before it and has the optional fields of the entry,
or repeats the newest one. -/
theorem summaries_newest_iff (events : List Event) :
    (∀ before after, events = before ++ after → Faithful (before.foldl step new)) ↔
      Along step Forward new events := by
  have preserved (st : Store) (e : Event) (one : OnePerKey st.sessions) :
      OnePerKey (st.step e).sessions := onePerKey_step one e
  have exact_ (st : Store) (e : Event) (one : OnePerKey st.sessions) (faithful : Faithful st) :
      Faithful (st.step e) ↔ Forward st e := faithful_step one faithful e
  have empty : Faithful new := fun _ _ there => by cases there
  exact Along.iff_reached preserved exact_ List.nodup_nil empty

/-! ## Two runs that go backwards -/

section Backwards

def running : SessionSummary where
  id := ⟨⟨"device", "CODEX_DESKTOP", "native"⟩, true⟩
  fields := ⟨"task", "", "", 10, .online, .fullControl, .verified, .running, .unknown, 0, .empty,
    false, false, false⟩
  deviceLastSeenAt := none
  degradedReason := some "LINK_SLOW"

/-- The turn has ended, and the device is no longer degraded. -/
def idle : SessionSummary :=
  { running with
    fields := { running.fields with updatedAt := 20, phase := .idle, lastOutcome := .completed }
    degradedReason := none }

/-- The entry that keeps the reason of the older summary. -/
def stale : SessionSummary := { idle with degradedReason := some "LINK_SLOW" }

theorem running_before_idle : Report.After ⟨idle, 1⟩ ⟨running, 0⟩ := .inl (by decide)

/-- A page that was produced before the event of the stream arrives after it; a newer summary
has no reason any more, and the entry keeps the old one. -/
theorem summary_goes_backwards :
    ¬ Faithful (List.foldl step new [.summaryChanged ⟨idle, 1⟩, .page [⟨running, 0⟩]]) ∧
      ¬ Faithful (List.foldl step new [.page [⟨running, 0⟩], .summaryChanged ⟨idle, 1⟩]) := by
  constructor
  · have reached : List.foldl step new [.summaryChanged ⟨idle, 1⟩, .page [⟨running, 0⟩]] =
        ⟨[running], [], [⟨running, 0⟩, ⟨idle, 1⟩]⟩ := by decide +kernel
    rw [reached]
    intro faithful
    obtain ⟨r, member, -, newest, shown⟩ := faithful running.key running List.mem_cons_self rfl
    rcases List.mem_pair.mp member with rfl | rfl
    · exact newest ⟨idle, 1⟩ (by decide) rfl running_before_idle
    · exact absurd shown.fields (by decide)
  · have reached : List.foldl step new [.page [⟨running, 0⟩], .summaryChanged ⟨idle, 1⟩] =
        ⟨[stale], [], [⟨idle, 1⟩, ⟨running, 0⟩]⟩ := by decide +kernel
    rw [reached]
    intro faithful
    obtain ⟨r, member, -, newest, shown⟩ := faithful running.key stale List.mem_cons_self rfl
    rcases List.mem_pair.mp member with rfl | rfl
    · exact absurd shown.degradedReason (by decide)
    · exact newest ⟨idle, 1⟩ (by decide) rfl running_before_idle

end Backwards

end Store

end AgentConsole.Web.Sessions
