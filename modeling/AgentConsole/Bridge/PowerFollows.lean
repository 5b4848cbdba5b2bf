import AgentConsole.Bridge.PowerPolicy

/-! # When the assertion follows the state

An update that has read the held mode owns the policy until it has finished.  In an orderly
run there is one owner at most, so that what it has left to do tells of the handle and the
process; and when nobody has anything left to report, the flags agree with the sessions.

The condition excludes what the code does not: the watcher of a session writes the flags of
that session alone over those of all sessions, and updates are not kept apart. -/

namespace AgentConsole.Bridge

open AgentConsole.Lib

namespace Power

/-! ## The jobs -/

theorem works_iff {K : Type} {job : Job K} :
    job.works = true ↔
      ∃ desired work next, job = .update desired work next ∧ work ≠ .sync := by
  cases job with
  | update desired work next => cases work <;> simp [Job.works]
  | _ => simp [Job.works]

variable {K : Type} [DecidableEq K] {p : Power K} {u : Actor K}

theorem others_eq_false {test : Job K → Bool} :
    p.others u test = false ↔
      ∀ v job, v ≠ u → p.jobs.get? v = some job → test job = false := by
  unfold others
  simp only [List.any_eq_false, Bool.and_eq_true, decide_eq_true_eq, not_and, Bool.not_eq_true]
  constructor
  · intro none_ v job other running
    exact none_ (v, job) (FiniteMap.mem_toList.mpr running) other
  · intro none_ e member other
    exact none_ e.1 e.2 other (FiniteMap.mem_toList.mp member)

theorem anyJob_eq_false {test : Job K → Bool} :
    p.anyJob test = false ↔ ∀ u job, p.jobs.get? u = some job → test job = false := by
  unfold anyJob
  simp only [List.any_eq_false, FiniteMap.mem_values, Bool.not_eq_true]
  constructor
  · intro none_ u job running
    exact none_ job ⟨u, running⟩
  · rintro none_ job ⟨u, running⟩
    exact none_ u job running

/-- Somebody's job is that of one task or that of another. -/
theorem anyJob_eq (p : Power K) (u : Actor K) (test : Job K → Bool) :
    p.anyJob test = (p.others u test || (p.jobs.get? u).any test) := by
  rw [Bool.eq_iff_iff, ← not_iff_not, Bool.not_eq_true, Bool.not_eq_true, Bool.or_eq_false_iff,
    anyJob_eq_false, others_eq_false]
  constructor
  · intro none_
    refine ⟨fun v job _ running => none_ v job running, ?_⟩
    cases running : p.jobs.get? u with
    | none => rfl
    | some job => exact none_ u job running
  · rintro ⟨others, own⟩ v job running
    by_cases same : v = u
    · subst same
      rw [running] at own
      exact own
    · exact others v job same running

theorem get?_goOn (p : Power K) (u v : Actor K) (job : Option (Job K)) :
    (p.goOn u job).jobs.get? v = if v = u then job else p.jobs.get? v := by
  cases job with
  | none => exact FiniteMap.get?_erase _ _ _
  | some job => exact FiniteMap.get?_insert _ _ _ _

theorem anyJob_goOn (p : Power K) (u : Actor K) (job : Option (Job K)) (test : Job K → Bool) :
    (p.goOn u job).anyJob test = (p.others u test || job.any test) := by
  have same : (p.goOn u job).others u test = p.others u test := by
    rw [Bool.eq_iff_iff, ← not_iff_not, Bool.not_eq_true, Bool.not_eq_true, others_eq_false,
      others_eq_false]
    refine forall_congr' fun v => forall_congr' fun job => forall_congr' fun other => ?_
    rw [get?_goOn, if_neg other]
  rw [anyJob_eq _ u, same, get?_goOn, if_pos rfl]

/-! ## The owner -/

/-- The owner is the only update that has read the held mode, and has this left to do. -/
def Owns (p : Power K) (owner : Option (Actor K × Work)) : Prop :=
  ∀ u work, owner = some (u, work) ↔
    work ≠ .sync ∧ ∃ desired next, p.jobs.get? u = some (.update desired work next)

structure Owned (p : Power K) (owner : Option (Actor K × Work)) : Prop where
  owns : p.Owns owner
  steady : p.policy.Steady
  shape : p.policy.Shape (owner.map (·.2))
  /-- When no update is still to read the held mode, it comes out as the state asks. -/
  outcome : p.anyJob Job.waits = false → p.started = true →
    p.policy.outcome (owner.map (·.2)) = p.state.holds
  fresh : ∀ n, p.tasks ≤ n → p.jobs.get? (.task n) = none

variable {owner : Option (Actor K × Work)}

theorem Owns.works (owns : p.Owns owner) {job : Job K} (running : p.jobs.get? u = some job)
    (works : job.works = true) : ∃ work, owner = some (u, work) := by
  obtain ⟨desired, work, next, rfl, decided⟩ := works_iff.mp works
  exact ⟨work, (owns u work).mpr ⟨decided, desired, next, running⟩⟩

/-- A task that does not work may take or leave any job that does not. -/
theorem Owns.goOn (owns : p.Owns owner) {job : Option (Job K)}
    (before : (p.jobs.get? u).any Job.works = false) (after : job.any Job.works = false) :
    (p.goOn u job).Owns owner := by
  have idle {desired : ActivityState} {work : Work} {next : Option Bool} {job : Option (Job K)}
      (none_ : job.any Job.works = false) (decided : work ≠ .sync) :
      job ≠ some (.update desired work next) := by
    rintro rfl
    exact absurd (works_iff.mpr ⟨desired, work, next, rfl, decided⟩) (by simpa using none_)
  intro v work
  rw [owns v work, get?_goOn]
  split
  · next same =>
    subst same
    constructor
    · rintro ⟨decided, desired, next, running⟩
      exact absurd running (idle before decided)
    · rintro ⟨decided, desired, next, running⟩
      exact absurd running (idle after decided)
  · rfl

/-- When nobody else works, a task whose update has this left to do is the owner. -/
theorem Owns.update (others : p.others u Job.works = false) {desired : ActivityState}
    {next : Option Bool} {left : Option Work} (decided : left ≠ some .sync) :
    (p.goOn u (Job.after desired next left)).Owns (left.map (u, ·)) := by
  intro v work
  rw [get?_goOn]
  split
  · next same =>
    subst same
    cases left with
    | none => cases next <;> simp [Job.after]
    | some own =>
      constructor
      · intro equal
        cases equal
        exact ⟨fun sync => decided (congrArg some sync), desired, next, rfl⟩
      · rintro ⟨-, _, _, running⟩
        cases running
        rfl
  · next other =>
    constructor
    · intro equal
      cases left <;> cases equal
      exact absurd rfl other
    · rintro ⟨work, desired, next, running⟩
      have idle := others_eq_false.mp others v _ other running
      exact absurd (works_iff.mpr ⟨_, _, _, rfl, work⟩) (by simpa using idle)

/-- The task is one that has been started. -/
def Started (p : Power K) (u : Actor K) : Prop := ∀ n, u = .task n → n < p.tasks

theorem Owned.started (owned : p.Owned owner) {job : Job K}
    (running : p.jobs.get? u = some job) : p.Started u := by
  rintro n rfl
  by_contra later
  rw [owned.fresh n (Nat.le_of_not_lt later)] at running
  cases running

theorem fresh_goOn (fresh : ∀ n, p.tasks ≤ n → p.jobs.get? (.task n) = none)
    (started : p.Started u) (job : Option (Job K)) (n : Nat) (later : p.tasks ≤ n) :
    (p.goOn u job).jobs.get? (.task n) = none := by
  rw [get?_goOn, if_neg]
  · exact fresh n later
  · intro same
    exact absurd (started n same.symm) (Nat.not_lt.mpr later)

/-- A step that is not of an update. -/
theorem Owned.goOn (owned : p.Owned owner) (started : p.Started u) {job : Option (Job K)}
    (works : (p.jobs.get? u).any Job.works = false) (waits : (p.jobs.get? u).any Job.waits = false)
    (works' : job.any Job.works = false) : (p.goOn u job).Owned owner where
  owns := owned.owns.goOn works works'
  steady := owned.steady
  shape := owned.shape
  outcome := by
    intro decided began
    rw [anyJob_goOn, Bool.or_eq_false_iff] at decided
    refine owned.outcome ?_ began
    rw [anyJob_eq p u, decided.1, waits]
    rfl
  fresh := fresh_goOn owned.fresh started job

/-- An update begins: it has yet to read the held mode. -/
theorem Owned.sync (owned : p.Owned owner) (started : p.Started u)
    (works : (p.jobs.get? u).any Job.works = false) (desired : ActivityState)
    (next : Option Bool) : (p.sync u desired next).Owned owner where
  owns := owned.owns.goOn works rfl
  steady := owned.steady
  shape := owned.shape
  outcome := by
    intro decided _
    rw [Power.sync, anyJob_goOn] at decided
    simp [Job.waits] at decided
  fresh := fresh_goOn owned.fresh started _

/-- Only the owner has read the held mode. -/
theorem Owned.alone (owned : p.Owned owner) {work : Work} (own : owner = some (u, work)) :
    p.others u Job.works = false := by
  refine others_eq_false.mpr fun v job other running => ?_
  by_contra works
  obtain ⟨work', own'⟩ := owned.owns.works running (by simpa using works)
  rw [own] at own'
  cases own'
  exact other rfl

/-- Nobody owns the policy when no other task works and this one does not. -/
theorem Owned.unowned (owned : p.Owned owner) (others : p.others u Job.works = false)
    {desired : ActivityState} {next : Option Bool}
    (running : p.jobs.get? u = some (.update desired .sync next)) : owner = none := by
  cases own : owner with
  | none => rfl
  | some pair =>
    obtain ⟨v, work⟩ := pair
    obtain ⟨decided, _, _, working⟩ := (owned.owns v work).mp own
    by_cases same : v = u
    · subst same
      rw [running] at working
      cases working
      exact absurd rfl decided
    · have idle := others_eq_false.mp others v _ same working
      exact absurd (works_iff.mpr ⟨_, _, _, rfl, decided⟩) (by simpa using idle)

/-- The last update that waited makes the outcome what the state asks for, and nothing after
it changes that. -/
theorem Owned.outcome_update (owned : p.Owned owner) {desired : ActivityState} {work : Work}
    {next : Option Bool} (running : p.jobs.get? u = some (.update desired work next)) {ok : Bool}
    (orderly : p.orderlyRun u ok (.update desired work next) = true)
    (shape : p.policy.Shape (some work)) (last : p.others u Job.waits = false)
    (began : p.started = true) :
    (p.policy.advance desired ok work).1.outcome (p.policy.advance desired ok work).2 =
      p.state.holds := by
  by_cases decided : work = .sync
  · subst decided
    have current : desired.holds = p.state.holds := by
      simpa [orderlyRun, last] using (Bool.and_eq_true_iff.mp orderly).2
    exact (WakePolicy.plan_outcome p.policy desired).trans current
  · have own : owner = some (u, work) := (owned.owns u work).mpr ⟨decided, desired, next, running⟩
    have nobody : p.anyJob Job.waits = false := by
      rw [anyJob_eq p u, last, running]
      cases work with
      | sync => exact absurd rfl decided
      | _ => rfl
    have had : ok = true ∨ ∀ g, work ≠ .birth g := by
      cases work with
      | birth g =>
        rw [orderlyRun, last, Bool.or_false] at orderly
        exact .inl orderly
      | _ => exact .inr (by simp)
    have now := owned.outcome nobody began
    rw [own] at now
    exact (WakePolicy.advance_outcome owned.steady shape decided had).trans now

/-- A step of an update.  That nobody else is at work makes it the owner. -/
theorem Owned.update (owned : p.Owned owner) {desired : ActivityState} {work : Work}
    {next : Option Bool} (running : p.jobs.get? u = some (.update desired work next)) {ok : Bool}
    (orderly : p.orderlyRun u ok (.update desired work next) = true) :
    ∃ owner', (p.run u ok (.update desired work next)).Owned owner' := by
  have back : (p.policy.advance desired ok work).2 ≠ some .sync := WakePolicy.advance_decided work
  have own (decided : work ≠ .sync) : owner = some (u, work) :=
    (owned.owns u work).mpr ⟨decided, desired, next, running⟩
  have others : p.others u Job.works = false := by
    by_cases decided : work = .sync
    · subst decided
      simp only [orderlyRun, Bool.and_eq_true, Bool.not_eq_true'] at orderly
      exact orderly.1
    · exact owned.alone (own decided)
  have shape : p.policy.Shape (some work) := by
    by_cases decided : work = .sync
    · subst decided
      have rests := owned.shape
      rw [owned.unowned others running] at rests
      exact rests
    · have now := owned.shape
      rw [own decided] at now
      exact now
  obtain ⟨steady', shape'⟩ : (p.policy.advance desired ok work).1.Steady ∧
      (p.policy.advance desired ok work).1.Shape (p.policy.advance desired ok work).2 :=
    WakePolicy.advance_shape owned.steady shape
  have left : ((p.policy.advance desired ok work).2.map (u, ·)).map (·.2) =
      (p.policy.advance desired ok work).2 := by simp [Function.comp_def]
  refine ⟨(p.policy.advance desired ok work).2.map (u, ·), ?_, steady', ?_, ?_, ?_⟩
  · exact Owns.update (p := { p with policy := _ }) others back
  · rw [left]
    exact shape'
  · intro decided began
    rw [left]
    rw [run, anyJob_goOn, Bool.or_eq_false_iff] at decided
    exact owned.outcome_update running orderly shape decided.1 began
  · exact fresh_goOn (p := { p with policy := _ }) owned.fresh (owned.started running) _

/-! ### The other inputs -/

/-- The process of an owned policy has its handle somewhere. -/
theorem Owned.handled (owned : p.Owned owner) {g : Nat} (listens : g ∈ p.policy.supervisors) :
    p.handled g = true := by
  rw [owned.steady.supervisors] at listens
  have shape := owned.shape
  have stored (rests : p.policy.Rests) : p.handled g = true := by
    rw [rests.processes] at listens
    cases held : p.policy.assertion with
    | none =>
      rw [held] at listens
      cases listens
    | some handle =>
      have same : g = handle.supervisor := by simpa [held] using listens
      simp [Power.handled, held, same]
  cases own : owner with
  | none =>
    rw [own] at shape
    exact stored shape
  | some pair =>
    obtain ⟨u, work⟩ := pair
    obtain ⟨decided, desired, next, running⟩ := (owned.owns u work).mp own
    have member : Job.update desired work next ∈ p.jobs.values :=
      FiniteMap.mem_values.mpr ⟨u, running⟩
    have asked (has : Job.hasHandle g (.update desired work next : Job K) = true) :
        p.handled g = true := by
      rw [Power.handled, Bool.or_eq_true]
      exact .inr (List.any_eq_true.mpr ⟨_, member, has⟩)
    rw [own] at shape
    cases work with
    | sync => exact absurd rfl decided
    | release spawns => exact stored shape
    | kill g' spawns =>
      rw [shape.1.processes, List.mem_singleton] at listens
      exact asked (beq_iff_eq.mpr listens.symm)
    | launch =>
      rw [WakePolicy.Bare.processes shape] at listens
      cases listens
    | birth g' =>
      rw [shape.1.processes] at listens
      cases listens
    | store g' =>
      rw [shape.1.processes, List.mem_singleton] at listens
      exact asked (beq_iff_eq.mpr listens.symm)

theorem Owned.spawnTask (owned : p.Owned owner) : p.spawnTask.Owned owner :=
  ⟨owned.owns, owned.steady, owned.shape, owned.outcome,
    fun n later => owned.fresh n ((Nat.le_succ _).trans later)⟩

theorem Owned.step (owned : p.Owned owner) {i : Input K} (may : p.orderly i = true) :
    ∃ owner', (p.step i).Owned owner' := by
  cases i with
  | setPowerSource source =>
    have idle : p.jobs.get? (.task p.tasks) = none := owned.fresh _ le_rfl
    refine ⟨owner, owned.spawnTask.sync ?_ ?_ _ none⟩
    · rintro n same
      cases same
      exact Nat.lt_succ_self _
    · exact congrArg (Option.any Job.works) idle
  | attach s activity =>
    refine ⟨owner, ?_⟩
    simp only [Power.step]
    split
    · exact owned
    · exact ⟨owned.owns, owned.steady, owned.shape, owned.outcome, owned.fresh⟩
  | change s activity =>
    exact ⟨owner, owned.owns, owned.steady, owned.shape, owned.outcome, owned.fresh⟩
  | note s noted =>
    exact ⟨owner, owned.owns, owned.steady, owned.shape, owned.outcome, owned.fresh⟩
  | observe =>
    have idle : p.jobs.get? (.task p.tasks) = none := owned.fresh _ le_rfl
    refine ⟨owner, owned.spawnTask.goOn ?_ ?_ ?_ rfl⟩
    · rintro n same
      cases same
      exact Nat.lt_succ_self _
    · exact congrArg (Option.any Job.works) idle
    · exact congrArg (Option.any Job.waits) idle
  | receive s =>
    refine ⟨owner, ?_⟩
    show (p.receive s).Owned owner
    unfold receive
    split
    · next activity events watched idle =>
      have same : ({ p with sessions := p.sessions.insert s ⟨activity, events⟩ } : Power K).Owned
          owner := ⟨owned.owns, owned.steady, owned.shape, owned.outcome, owned.fresh⟩
      refine same.goOn ?_ ?_ ?_ rfl
      · rintro n same
        cases same
      · exact congrArg (Option.any Job.works) idle
      · exact congrArg (Option.any Job.waits) idle
    · exact owned
  | resume u ok =>
    cases running : p.jobs.get? u with
    | none => exact ⟨owner, by rw [show p.step (.resume u ok) = p by simp [Power.step, running]]; exact owned⟩
    | some job =>
      have runs : p.step (.resume u ok) = p.run u ok job := by simp [Power.step, running]
      have mayRun : p.orderlyRun u ok job = true := by simpa [orderly, running] using may
      have started := owned.started running
      rw [runs]
      cases job with
      | read s =>
        exact ⟨owner, owned.goOn started (by rw [running]; rfl) (by rw [running]; rfl)
          (by cases ok <;> rfl)⟩
      | report turnActive attentionPending =>
        refine ⟨owner, ?_⟩
        simp only [run]
        split
        · exact owned.goOn started (by rw [running]; rfl) (by rw [running]; rfl) rfl
        · exact owned.sync started (by rw [running]; rfl) _ none
      | total =>
        exact ⟨owner, owned.goOn started (by rw [running]; rfl) (by rw [running]; rfl) rfl⟩
      | setTurnActive active pending =>
        exact ⟨owner, owned.sync started (by rw [running]; rfl) _ (some pending)⟩
      | setAttentionPending pending =>
        exact ⟨owner, owned.sync started (by rw [running]; rfl) _ none⟩
      | update desired work next => exact owned.update running mayRun
  | exit g =>
    have alive : p.policy.exit g = p.policy := if_neg (by simpa [orderly] using may)
    refine ⟨owner, ?_⟩
    show ({ p with policy := p.policy.exit g } : Power K).Owned owner
    rw [alive]
    exact owned
  | orphan g =>
    refine ⟨owner, ?_⟩
    simp only [Power.step]
    split
    · exact owned
    · next lost =>
      have deaf : g ∉ p.policy.supervisors := fun listens => lost (owned.handled listens)
      rw [show p.policy.orphan g = p.policy from if_neg deaf]
      exact owned
  | clean g =>
    refine ⟨owner, ?_⟩
    show ({ p with policy := p.policy.clean g } : Power K).Owned owner
    have fewer : p.policy.ended.erase g ⊆ p.policy.ended := List.erase_subset
    rw [WakePolicy.clean_eq owned.shape g]
    refine ⟨owned.owns, ⟨owned.steady.supervisors, ?_⟩, owned.shape.of_fewer fewer, ?_, owned.fresh⟩
    · exact fun x member => owned.steady.ended x (fewer member)
    · intro decided began
      exact owned.outcome decided began

/-! ## What the flags tell -/

/-- When every event is taken and every report is in, the flags agree with the sessions. -/
def Heard (p : Power K) : Prop :=
  p.unheard = false → p.anyJob Job.reports = false →
    agrees p.state.source p.state.busy p.busy = true

omit [DecidableEq K] in
theorem reports_after (desired : ActivityState) (work : Work) (next : Option Bool)
    (left : Option Work) :
    (Job.after desired next left : Option (Job K)).any Job.reports =
      Job.reports (.update desired work next : Job K) := by
  cases left with
  | none => cases next <;> rfl
  | some _ => rfl

/-- The table of a session that begins to be watched. -/
theorem any_values_insert {V : Type} {m : FiniteMap K V} {s : K} (v : V)
    (new : m.contains s = false) (test : V → Bool) :
    (m.insert s v).values.any test = (m.values.any test || test v) := by
  have absent : m.get? s = none := by simpa [FiniteMap.contains] using new
  rw [Bool.eq_iff_iff, Bool.or_eq_true, List.any_eq_true, List.any_eq_true]
  simp only [FiniteMap.mem_values, FiniteMap.get?_insert]
  constructor
  · rintro ⟨w, ⟨k, found⟩, holds⟩
    split at found
    · cases found
      exact .inr holds
    · exact .inl ⟨w, ⟨k, found⟩, holds⟩
  · rintro (⟨w, ⟨k, found⟩, holds⟩ | holds)
    · refine ⟨w, ⟨k, ?_⟩, holds⟩
      rw [if_neg]
      · exact found
      · rintro rfl
        rw [absent] at found
        cases found
    · exact ⟨v, ⟨s, if_pos rfl⟩, holds⟩

theorem Heard.goOn {job : Option (Job K)}
    (last : p.unheard = false → p.others u Job.reports = false → job.any Job.reports = false →
      agrees p.state.source p.state.busy p.busy = true) : (p.goOn u job).Heard := by
  intro heard told
  rw [anyJob_goOn, Bool.or_eq_false_iff] at told
  exact last heard told.1 told.2

theorem Heard.run {job : Job K} (heard : p.Heard) (running : p.jobs.get? u = some job) {ok : Bool}
    (may : p.orderlyRun u ok job = true) : (p.run u ok job).Heard := by
  cases job with
  | read s =>
    refine Heard.goOn fun taken told none_ => ?_
    cases ok with
    | true => cases none_
    | false => simpa [orderlyRun, taken, told] using may
  | report turnActive attentionPending =>
    have right (taken : p.unheard = false) (told : p.others u Job.reports = false) :
        agrees p.state.source (turnActive || attentionPending) p.busy = true := by
      simpa [orderlyRun, taken, told] using may
    simp only [Power.run]
    split
    · next same =>
      refine Heard.goOn fun taken told _ => ?_
      rw [ActivityState.busy, same.1, same.2]
      exact right taken told
    · exact Heard.goOn fun taken told _ => right taken told
  | total => exact Heard.goOn fun _ _ none_ => by cases none_
  | setTurnActive active pending => exact Heard.goOn fun _ _ none_ => by cases none_
  | setAttentionPending pending =>
    refine Heard.goOn fun taken told _ => ?_
    have right : (p.unheard || p.others u Job.reports ||
      agrees p.state.source (p.state.turnActive || pending) p.busy) = true := may
    rw [show p.unheard = false from taken, show p.others u Job.reports = false from told] at right
    exact right
  | update desired work next =>
    refine Heard.goOn fun taken told last => ?_
    rw [reports_after desired work] at last
    refine heard taken ?_
    rw [anyJob_eq p u, running]
    exact Bool.or_eq_false_iff.mpr ⟨told, last⟩

theorem Heard.step (heard : p.Heard) (owned : p.Owned owner) {i : Input K}
    (may : p.orderly i = true) : (p.step i).Heard := by
  cases i with
  | setPowerSource source =>
    refine Heard.goOn fun taken told _ => ?_
    have idle : p.anyJob Job.reports = false := by
      rw [anyJob_eq p (.task p.tasks), owned.fresh _ le_rfl]
      exact Bool.or_eq_false_iff.mpr ⟨told, rfl⟩
    have right : (p.unheard || p.anyJob Job.reports || agrees source p.state.busy p.busy) = true :=
      may
    rw [show p.unheard = false from taken, idle] at right
    exact right
  | attach s activity =>
    simp only [Power.step]
    split
    · exact heard
    · next new =>
      have absent : p.sessions.contains s = false := by simpa using new
      intro taken told
      have unheard : p.unheard = false := by
        have same := any_values_insert ({ activity := activity } : Watched) absent
          fun w => decide (0 < w.events)
        exact (Bool.or_eq_false_iff.mp (same.symm.trans taken)).1
      have turn := any_values_insert ({ activity := activity } : Watched) absent
        fun w => w.activity.turnActive
      have attention := any_values_insert ({ activity := activity } : Watched) absent
        fun w => w.activity.attentionPending
      have right : (p.sessions.contains s || p.unheard || p.anyJob Job.reports ||
        agrees p.state.source p.state.busy (p.busy || activity.busy)) = true := may
      rw [absent, unheard, show p.anyJob Job.reports = false from told] at right
      show agrees p.state.source p.state.busy (_ || _) = true
      rw [turnActive, attentionPending, turn, attention]
      rw [busy, Activity.busy] at right
      convert right using 2
      ac_rfl
  | change s activity =>
    intro taken told
    cases found : p.sessions.get? s with
    | none =>
      have same : p.step (.change s activity) = p := by
        simp [Power.step, FiniteMap.modify, found]
      rw [same] at taken told ⊢
      exact heard taken told
    | some w =>
      -- the event that the watcher is told of
      have told : (⟨activity, w.events + 1⟩ : Watched) ∈
          (p.sessions.modify s fun w => ⟨activity, w.events + 1⟩).values :=
        FiniteMap.mem_values.mpr ⟨s, by simp [found]⟩
      have waiting : (p.step (.change s activity)).unheard = true :=
        List.any_eq_true.mpr ⟨_, told, by simp⟩
      rw [waiting] at taken
      cases taken
  | note s noted => exact heard
  | observe => exact Heard.goOn fun _ _ none_ => by cases none_
  | receive s =>
    show (p.receive s).Heard
    unfold receive
    split
    · exact Heard.goOn fun _ _ none_ => by cases none_
    · exact heard
  | resume u ok =>
    cases running : p.jobs.get? u with
    | none => simpa [Power.step, running] using heard
    | some job =>
      have mayRun : p.orderlyRun u ok job = true := by simpa [orderly, running] using may
      rw [show p.step (.resume u ok) = p.run u ok job by simp [Power.step, running]]
      exact heard.run running mayRun
  | exit g => exact heard
  | orphan g =>
    simp only [Power.step]
    split <;> exact heard
  | clean g => exact heard

/-! ## Runs -/

/-- What an orderly run keeps. -/
structure Kept (p : Power K) : Prop where
  owned : ∃ owner, p.Owned owner
  heard : p.Heard

theorem Kept.step (kept : p.Kept) (i : Input K) (may : p.orderly i = true) : (p.step i).Kept := by
  obtain ⟨owner, owned⟩ := kept.owned
  exact ⟨owned.step may, kept.heard.step owned may⟩

/-- Nobody has anything left to do, so that there is no owner and no report is missing. -/
theorem Kept.settled (kept : p.Kept) : p.Settled := by
  intro began quiescent
  obtain ⟨owner, owned⟩ := kept.owned
  have nobody (test : Job K → Bool) : p.anyJob test = false := by
    refine anyJob_eq_false.mpr fun u job running => ?_
    rw [quiescent.jobs u] at running
    cases running
  have unowned : owner = none := by
    cases own : owner with
    | none => rfl
    | some pair =>
      obtain ⟨-, desired, next, running⟩ := (owned.owns pair.1 pair.2).mp own
      rw [quiescent.jobs] at running
      cases running
  subst unowned
  have rests : p.policy.Rests := owned.shape
  have held : p.assertionHeld = p.state.holds := owned.outcome (nobody _) began
  have taken : p.unheard = false := by
    refine List.any_eq_false.mpr fun w member => ?_
    obtain ⟨s, found⟩ := FiniteMap.mem_values.mp member
    simp [quiescent.events s w found]
  have agree := kept.heard taken (nobody _)
  refine ⟨held.trans ?_, ?_, ?_⟩
  · unfold ActivityState.holds shouldHold
    cases source : p.state.source with
    | ac => rfl
    | battery =>
      rw [source] at agree
      exact beq_iff_eq.mp agree
  · rw [assertionHeld, rests.processes]
    cases p.policy.assertion <;> simp
  · rw [rests.processes]
    cases p.policy.assertion <;> simp

end Power

namespace Powered

open Power

/-- The task of the watcher takes `n` steps. -/
def watcher (session n : Nat) : List (Power.Input Nat) :=
  List.replicate n (.resume (.watcher session) true)

/-- Two sessions are watched on battery. -/
def onBattery : List (Power.Input Nat) :=
  [.setPowerSource .battery, .resume (.task 0) true, .attach 0 {}, .attach 1 {}]

/-- Session 0 begins a turn, and its watcher follows. -/
def active : List (Power.Input Nat) :=
  onBattery ++ [.change 0 ⟨true, 0⟩, .receive 0] ++ watcher 0 7

/-- The run ends with an update done and nothing left. -/
def finished (p : Power Nat) : Bool :=
  p.started && p.jobs.keys.isEmpty && p.sessions.values.all (·.events == 0)

end Powered

end AgentConsole.Bridge
