import AgentConsole.Lib.FiniteMap

/-! # Adaptive observation

The observer looks at each Codex session from time to time.  `nextInterval` says how long to
wait, from the subscriptions and the turn of the session and from the pressure on the device;
`takeDue` returns the sessions whose time has come and plans their next visit.  An entry of
the scheduler that is not due is left as it is, so the plan made at the last visit is kept
whatever has happened since.  Durations and instants are in nanoseconds. -/

namespace AgentConsole.Bridge.Observe

open AgentConsole.Lib

def fromMillis (n : Nat) : Nat := n * 1000000

def fromSecs (n : Nat) : Nat := n * 1000000000

def detailRunningObserveInterval : Nat := fromMillis 500

def lightStateCheckInterval : Nat := fromSecs 2

def idleSummaryInterval : Nat := fromSecs 30

def noSubscriptionInterval : Option Nat := none

def batterySlowdown : Nat := 2

def activeTaskPressureThreshold : Nat := 3

def pressureSlowdown : Nat := 2

def maxSlowdown : Nat := 4

/-- `u32::saturating_mul` -/
def saturatingMul (a b : Nat) : Nat := min (a * b) (2 ^ 32 - 1)

structure SessionObserveState where
  hasDetailSubscription : Bool
  hasListSubscription : Bool
  turnActive : Bool
deriving DecidableEq, Repr

structure ObservePressure where
  batteryPowered : Bool
  activeTasks : Nat
deriving DecidableEq, Repr

/-- The factor of `next_interval`, before the cap. -/
def slowdown (pressure : ObservePressure) : Nat :=
  let factor := 1
  let factor := if pressure.batteryPowered then saturatingMul factor batterySlowdown else factor
  if pressure.activeTasks ≥ activeTaskPressureThreshold then saturatingMul factor pressureSlowdown
  else factor

def nextInterval (state : SessionObserveState) (pressure : ObservePressure) : Option Nat :=
  let slowed base := some (base * min (slowdown pressure) maxSlowdown)
  if state.turnActive then
    if state.hasDetailSubscription then slowed detailRunningObserveInterval
    else slowed lightStateCheckInterval
  else if state.hasListSubscription then slowed idleSummaryInterval
  else noSubscriptionInterval

/-! ## The scheduler -/

structure ObserveScheduler where
  /-- `none` is a session that is not polled; it stays registered. -/
  due : FiniteMap String (Option Nat)

namespace ObserveScheduler

def register (scheduler : ObserveScheduler) (session : String) (now : Nat) : ObserveScheduler :=
  ⟨scheduler.due.insert session (some now)⟩

def known (scheduler : ObserveScheduler) (session : String) : Bool :=
  scheduler.due.contains session

/-- The deadline of an entry has passed. -/
def isDue (now : Nat) : Option Nat → Bool
  | some deadline => decide (deadline ≤ now)
  | none => false

/-- The sessions that are due, and the scheduler with their next visit planned. -/
def takeDue (scheduler : ObserveScheduler) (policy : String → Option Nat) (now : Nat) :
    List String × ObserveScheduler :=
  ((scheduler.due.toList.filter fun entry => isDue now entry.2).map (·.1),
    ⟨scheduler.due.mapVal fun session deadline =>
      if isDue now deadline then (policy session).map (now + ·) else deadline⟩)

end ObserveScheduler

/-! ## The loop of the observer -/

/-- One turn of the loop.  `known` are the sessions of the runtime, each with the time that
passes before it is looked at, `elapsed` the time until `take_due` reads the clock. -/
structure Tick where
  known : List (String × Nat)
  elapsed : Nat
  stateOf : String → Option SessionObserveState
  pressure : ObservePressure

/-- The time from the last reading of the clock to the one of `take_due`. -/
def Tick.duration (tick : Tick) : Nat := (tick.known.map (·.2)).sum + tick.elapsed

/-- What the policy says of a session at this tick. -/
def Tick.policy (tick : Tick) (session : String) : Option Nat :=
  (tick.stateOf session).bind fun state => nextInterval state tick.pressure

/-- A visit to a session: when it was, and what the policy said then. -/
structure Visit where
  time : Nat
  interval : Option Nat

/-- The loop: its scheduler and the last reading of the clock.  `visits` records for each
session its last visit; the loop itself never reads it. -/
structure Observer where
  scheduler : ObserveScheduler
  clock : Nat
  visits : FiniteMap String Visit

namespace Observer

def registerAt (observer : Observer) (entry : String × Nat) : Observer :=
  { observer with
    scheduler := observer.scheduler.register entry.1 (observer.clock + entry.2)
    clock := observer.clock + entry.2 }

def registerNew (observer : Observer) (entry : String × Nat) : Observer :=
  if observer.scheduler.known entry.1 then { observer with clock := observer.clock + entry.2 }
  else observer.registerAt entry

/-- `take_due` at the current clock. -/
def visit (observer : Observer) (tick : Tick) : Observer :=
  let taken := observer.scheduler.takeDue tick.policy observer.clock
  { observer with
    scheduler := taken.2
    visits := taken.1.foldl
      (fun visits session => visits.insert session ⟨observer.clock, tick.policy session⟩)
      observer.visits }

/-- The known sessions are registered before the loop starts. -/
def spawn (known : List (String × Nat)) : Observer :=
  known.foldl registerAt ⟨⟨∅⟩, 0, ∅⟩

def tick (observer : Observer) (tick : Tick) : Observer :=
  let registered := tick.known.foldl registerNew observer
  let registered := { registered with clock := registered.clock + tick.elapsed }
  if registered.scheduler.due.toList.isEmpty then registered else registered.visit tick

/-- The observer after these turns of its loop. -/
def run (known : List (String × Nat)) (ticks : List Tick) : Observer :=
  ticks.foldl tick (spawn known)

/-! ## What a run should keep, and when it does -/

/-- After this tick the session, if it is to be observed, is planned in time. -/
def Planned (observer : Observer) (tick : Tick) (session : String) : Prop :=
  ∀ deadline, observer.scheduler.due.get? session = some deadline →
    ∀ interval, tick.policy session = some interval →
      ∃ time, deadline = some time ∧ time ≤ observer.clock + interval

/-- What the policy says of the session at this tick asks for no earlier visit than what it
said at the last one. -/
def Steady (observer : Observer) (tick : Tick) (session : String) : Prop :=
  ∀ last, observer.visits.get? session = some last →
    ∀ interval, tick.policy session = some interval →
      ∃ before, last.interval = some before ∧
        last.time + before ≤ observer.clock + tick.duration + interval

end Observer

/-! ## The parts of a turn -/

namespace ObserveScheduler

variable {scheduler : ObserveScheduler} {policy : String → Option Nat} {now : Nat}

theorem mem_takeDue {session : String} :
    session ∈ (scheduler.takeDue policy now).1 ↔
      ∃ deadline, scheduler.due.get? session = some deadline ∧ isDue now deadline = true := by
  simp only [takeDue, List.mem_map, List.mem_filter, Prod.exists, FiniteMap.mem_toList]
  constructor
  · intro ⟨s, deadline, held, same⟩
    subst same
    exact ⟨deadline, held⟩
  · intro ⟨deadline, held⟩
    exact ⟨session, deadline, held, rfl⟩

theorem takeDue_get? (session : String) :
    (scheduler.takeDue policy now).2.due.get? session =
      (scheduler.due.get? session).map fun deadline =>
        if isDue now deadline then (policy session).map (now + ·) else deadline :=
  FiniteMap.get?_mapVal _ _ _

end ObserveScheduler

/-- Recording visits to these sessions leaves the others alone. -/
theorem get?_record (sessions : List String) (value : String → Visit)
    (visits : FiniteMap String Visit) (session : String) :
    (sessions.foldl (fun visits s => visits.insert s (value s)) visits).get? session =
      if session ∈ sessions then some (value session) else visits.get? session := by
  induction sessions generalizing visits with
  | nil => simp
  | cons first rest inductionHypothesis =>
    rw [List.foldl_cons, inductionHypothesis, FiniteMap.get?_insert]
    by_cases same : session = first
    · simp [same]
    · simp [same]

namespace Observer

variable {observer : Observer} {tick : Tick} {session : String}

/-- The entry of a session is what its last visit planned; before the first visit it is due. -/
structure Consistent (observer : Observer) (session : String) : Prop where
  visited : ∀ last, observer.visits.get? session = some last →
    observer.scheduler.due.get? session = some (last.interval.map (last.time + ·))
  fresh : observer.visits.get? session = none →
    ∀ deadline, observer.scheduler.due.get? session = some deadline →
      ∃ time, deadline = some time ∧ time ≤ observer.clock

/-- Time passes. -/
theorem Consistent.later (consistent : observer.Consistent session) (elapsed : Nat) :
    Consistent { observer with clock := observer.clock + elapsed } session where
  visited := consistent.visited
  fresh none_ deadline held := by
    obtain ⟨time, is, bound⟩ := consistent.fresh none_ deadline held
    exact ⟨time, is, Nat.le_add_right_of_le bound⟩

/-- A session that the scheduler does not know has not been visited, so registering it keeps
its entry and its visits consistent. -/
theorem Consistent.registerAt (consistent : observer.Consistent session)
    (entry : String × Nat) (unknown : entry.1 = session → observer.visits.get? session = none) :
    (observer.registerAt entry).Consistent session := by
  constructor
  · intro last visited
    have other : session ≠ entry.1 := by
      intro same
      have none_ : observer.visits.get? session = none := unknown same.symm
      have some_ : observer.visits.get? session = some last := visited
      rw [none_] at some_
      cases some_
    show (observer.scheduler.due.insert entry.1 _).get? session = _
    rw [FiniteMap.get?_insert, if_neg other]
    exact consistent.visited last visited
  · intro none_ deadline held
    have held : (observer.scheduler.due.insert entry.1
        (some (observer.clock + entry.2))).get? session = some deadline := held
    rw [FiniteMap.get?_insert] at held
    by_cases same : session = entry.1
    · rw [if_pos same] at held
      cases held
      exact ⟨_, rfl, le_refl _⟩
    · rw [if_neg same] at held
      obtain ⟨time, is, bound⟩ := consistent.fresh none_ deadline held
      exact ⟨time, is, Nat.le_add_right_of_le bound⟩

theorem Consistent.registerNew (consistent : observer.Consistent session)
    (entry : String × Nat) : (observer.registerNew entry).Consistent session := by
  unfold Observer.registerNew
  split
  · exact consistent.later entry.2
  · rename_i unknown
    apply consistent.registerAt
    intro same
    subst same
    -- a visited session has an entry, so it would be known
    cases visited : observer.visits.get? entry.1 with
    | none => rfl
    | some last =>
      have known := FiniteMap.contains_iff.mpr ⟨_, consistent.visited last visited⟩
      exact absurd known unknown

theorem Consistent.registerAll (consistent : observer.Consistent session)
    (known : List (String × Nat)) :
    (known.foldl Observer.registerNew observer).Consistent session := by
  induction known generalizing observer with
  | nil => exact consistent
  | cons entry rest inductionHypothesis => exact inductionHypothesis (consistent.registerNew entry)

/-- Registering does not visit. -/
theorem registerAll_visits (known : List (String × Nat)) (observer : Observer) :
    (known.foldl registerNew observer).visits = observer.visits := by
  induction known generalizing observer with
  | nil => rfl
  | cons entry rest inductionHypothesis =>
    rw [List.foldl_cons, inductionHypothesis]
    unfold registerNew
    split <;> rfl

/-- `take_due` visits the sessions that are due. -/
theorem visit_visits :
    (observer.visit tick).visits.get? session =
      if session ∈ (observer.scheduler.takeDue tick.policy observer.clock).1 then
        some ⟨observer.clock, tick.policy session⟩
      else observer.visits.get? session :=
  get?_record _ _ _ _

/-- What a visit leaves of one session: if it was due, a plan by today's policy; if it was not,
nothing has changed. -/
theorem visit_cases (observer : Observer) (tick : Tick) (session : String)
    {deadline : Option Nat} (held : observer.scheduler.due.get? session = some deadline) :
    (ObserveScheduler.isDue observer.clock deadline = true ∧
      (observer.visit tick).scheduler.due.get? session =
        some ((tick.policy session).map (observer.clock + ·)) ∧
      (observer.visit tick).visits.get? session = some ⟨observer.clock, tick.policy session⟩) ∨
    (ObserveScheduler.isDue observer.clock deadline = false ∧
      (observer.visit tick).scheduler.due.get? session = some deadline ∧
      (observer.visit tick).visits.get? session = observer.visits.get? session) := by
  have entry : (observer.visit tick).scheduler.due.get? session = _ :=
    ObserveScheduler.takeDue_get? session
  rw [held] at entry
  cases isDue : ObserveScheduler.isDue observer.clock deadline with
  | true =>
    left
    have taken : session ∈ (observer.scheduler.takeDue tick.policy observer.clock).1 :=
      ObserveScheduler.mem_takeDue.mpr ⟨deadline, held, isDue⟩
    refine ⟨rfl, ?_, ?_⟩
    · simpa [isDue] using entry
    · rw [visit_visits, if_pos taken]
  | false =>
    right
    have left_ : session ∉ (observer.scheduler.takeDue tick.policy observer.clock).1 := by
      intro taken
      obtain ⟨d, found, passed⟩ := ObserveScheduler.mem_takeDue.mp taken
      rw [held] at found
      cases found
      rw [isDue] at passed
      cases passed
    refine ⟨rfl, ?_, ?_⟩
    · simpa [isDue] using entry
    · rw [visit_visits, if_neg left_]

/-- A session without an entry is not visited. -/
theorem visit_unregistered (tick : Tick)
    (held : observer.scheduler.due.get? session = none) :
    (observer.visit tick).scheduler.due.get? session = none ∧
      (observer.visit tick).visits.get? session = observer.visits.get? session := by
  constructor
  · show (observer.scheduler.takeDue tick.policy observer.clock).2.due.get? session = none
    rw [ObserveScheduler.takeDue_get?, held]
    rfl
  · rw [visit_visits, if_neg]
    intro taken
    obtain ⟨d, found, -⟩ := ObserveScheduler.mem_takeDue.mp taken
    rw [held] at found
    cases found

theorem Consistent.visit (consistent : observer.Consistent session) (tick : Tick) :
    (observer.visit tick).Consistent session := by
  cases held : observer.scheduler.due.get? session with
  | none =>
    obtain ⟨entry, visits⟩ := visit_unregistered tick held
    constructor
    · intro last visited
      rw [visits] at visited
      have := consistent.visited last visited
      rw [held] at this
      cases this
    · intro _ deadline found
      rw [entry] at found
      cases found
  | some deadline =>
    rcases visit_cases observer tick session held with ⟨-, entry, visits⟩ | ⟨-, entry, visits⟩
    · constructor
      · intro last visited
        rw [visits] at visited
        cases visited
        exact entry
      · intro none_
        rw [visits] at none_
        cases none_
    · constructor
      · intro last visited
        rw [visits] at visited
        rw [entry, ← held]
        exact consistent.visited last visited
      · intro none_ d found
        rw [visits] at none_
        rw [entry, ← held] at found
        exact consistent.fresh none_ d found

/-- What `take_due` of this turn finds. -/
def ready (observer : Observer) (tick : Tick) : Observer :=
  let registered := tick.known.foldl registerNew observer
  { registered with clock := registered.clock + tick.elapsed }

theorem Consistent.ready (consistent : observer.Consistent session) (tick : Tick) :
    (observer.ready tick).Consistent session :=
  (consistent.registerAll tick.known).later tick.elapsed

theorem ready_visits (observer : Observer) (tick : Tick) :
    (observer.ready tick).visits = observer.visits :=
  registerAll_visits tick.known observer

/-- A scheduler without entries is left alone, and there is nobody to visit in it. -/
theorem tick_eq (observer : Observer) (tick : Tick) :
    observer.tick tick = observer.ready tick ∧ (observer.ready tick).scheduler.due.toList = [] ∨
      observer.tick tick = (observer.ready tick).visit tick := by
  by_cases empty : (observer.ready tick).scheduler.due.toList.isEmpty
  · left
    exact ⟨if_pos empty, List.isEmpty_iff.mp empty⟩
  · right
    exact if_neg empty

theorem Consistent.ticked (consistent : observer.Consistent session) (tick : Tick) :
    (observer.tick tick).Consistent session := by
  rcases tick_eq observer tick with ⟨same, -⟩ | same
  · rw [same]
    exact consistent.ready tick
  · rw [same]
    exact (consistent.ready tick).visit tick

theorem ready_clock (observer : Observer) (tick : Tick) :
    (observer.ready tick).clock = observer.clock + tick.duration := by
  have registering : ∀ (known : List (String × Nat)) (observer : Observer),
      (known.foldl registerNew observer).clock = observer.clock + (known.map (·.2)).sum := by
    intro known
    induction known with
    | nil => simp
    | cons entry rest inductionHypothesis =>
      intro observer
      have one : (observer.registerNew entry).clock = observer.clock + entry.2 := by
        unfold registerNew
        split <;> rfl
      simp only [List.foldl_cons, List.map_cons, List.sum_cons, inductionHypothesis, one]
      omega
  show (tick.known.foldl registerNew observer).clock + tick.elapsed = _
  rw [registering, Tick.duration]
  omega

theorem tick_clock (observer : Observer) (tick : Tick) :
    (observer.tick tick).clock = observer.clock + tick.duration := by
  rw [← ready_clock]
  rcases tick_eq observer tick with ⟨same, -⟩ | same
  · rw [same]
  · rw [same]
    rfl

theorem consistent_spawn (known : List (String × Nat)) (session : String) :
    (spawn known).Consistent session ∧ (spawn known).visits.get? session = none := by
  have every : ∀ (known : List (String × Nat)) (observer : Observer),
      observer.Consistent session → observer.visits.get? session = none →
      (known.foldl Observer.registerAt observer).Consistent session ∧
        (known.foldl Observer.registerAt observer).visits.get? session = none := by
    intro known
    induction known with
    | nil => exact fun _ consistent none_ => ⟨consistent, none_⟩
    | cons entry rest inductionHypothesis =>
      intro observer consistent none_
      exact inductionHypothesis _ (consistent.registerAt entry fun _ => none_) none_
  apply every known _ _ rfl
  constructor
  · intro last visited
    cases visited
  · intro _ deadline held
    cases held

theorem consistent_run (known : List (String × Nat)) (ticks : List Tick) (session : String) :
    (run known ticks).Consistent session := by
  unfold run
  suffices every : ∀ (ticks : List Tick) (observer : Observer), observer.Consistent session →
      (ticks.foldl Observer.tick observer).Consistent session from
    every ticks _ (consistent_spawn known session).1
  intro ticks
  induction ticks with
  | nil => exact fun _ consistent => consistent
  | cons tick rest inductionHypothesis =>
    exact fun observer consistent => inductionHypothesis _ (consistent.ticked tick)

/-! ## When a session is observed in time -/

/-- A visit plans the session as the policy asks, or leaves the plan of the last visit. -/
theorem Consistent.planned_iff (consistent : observer.Consistent session) (tick : Tick)
    (registered : ∃ deadline, (observer.ready tick).scheduler.due.get? session = some deadline) :
    (observer.tick tick).Planned tick session ↔ observer.Steady tick session := by
  obtain ⟨deadline, held⟩ := registered
  have ready := consistent.ready tick
  have visits : (observer.ready tick).visits.get? session = observer.visits.get? session := by
    rw [ready_visits]
  have ticked : observer.tick tick = (observer.ready tick).visit tick := by
    rcases tick_eq observer tick with ⟨-, empty⟩ | same
    · have member := FiniteMap.mem_toList.mpr held
      rw [empty] at member
      cases member
    · exact same
  unfold Planned Steady
  rw [tick_clock, ticked]
  rcases visit_cases (observer.ready tick) tick session held with
    ⟨passed, entry, -⟩ | ⟨waiting, entry, -⟩
  · -- due: it is planned anew, and the last plan lies in the past
    constructor
    · intro _ last visited interval _
      have plan := ready.visited last (visits.trans visited)
      rw [held] at plan
      cases before : last.interval with
      | none =>
        rw [before] at plan
        cases plan
        cases passed
      | some before_ =>
        rw [before] at plan
        cases plan
        have past : last.time + before_ ≤ observer.clock + tick.duration := by
          rw [← ready_clock]
          exact of_decide_eq_true passed
        exact ⟨before_, rfl, Nat.le_add_right_of_le past⟩
    · intro _ d found interval asked
      rw [entry] at found
      cases found
      rw [asked, ready_clock]
      exact ⟨_, rfl, le_refl _⟩
  · -- not due: it has been visited, and its plan stays
    cases visited : observer.visits.get? session with
    | none =>
      obtain ⟨time, rfl, bound⟩ := ready.fresh (visits.trans visited) deadline held
      have passed : ObserveScheduler.isDue (observer.ready tick).clock (some time) = true :=
        decide_eq_true bound
      rw [waiting] at passed
      cases passed
    | some last =>
      have plan := ready.visited last (visits.trans visited)
      rw [held] at plan
      cases plan
      constructor
      · intro planned other same interval asked
        cases same
        obtain ⟨time, is, bound⟩ := planned _ entry interval asked
        obtain ⟨before, was, rfl⟩ := Option.map_eq_some_iff.mp is
        exact ⟨before, was, bound⟩
      · intro steady d found interval asked
        rw [entry] at found
        cases found
        obtain ⟨before, was, bound⟩ := steady last rfl interval asked
        exact ⟨last.time + before, by rw [was]; rfl, bound⟩

/-- A suspended session stays suspended, whatever becomes of its subscriptions and its turn. -/
theorem suspended_tick (suspended : observer.scheduler.due.get? session = some none)
    (tick : Tick) : (observer.tick tick).scheduler.due.get? session = some none := by
  have registering : ∀ (known : List (String × Nat)) (observer : Observer),
      observer.scheduler.due.get? session = some none →
      (known.foldl registerNew observer).scheduler.due.get? session = some none := by
    intro known
    induction known with
    | nil => exact fun _ held => held
    | cons entry rest inductionHypothesis =>
      intro observer held
      apply inductionHypothesis
      unfold registerNew
      split
      · exact held
      · rename_i unknown
        have other : session ≠ entry.1 := by
          intro same
          subst same
          exact unknown (FiniteMap.contains_iff.mpr ⟨_, held⟩)
        show (observer.scheduler.due.insert entry.1 _).get? session = _
        rw [FiniteMap.get?_insert, if_neg other]
        exact held
  have ready : (observer.ready tick).scheduler.due.get? session = some none :=
    registering tick.known observer suspended
  rcases tick_eq observer tick with ⟨same, -⟩ | same
  · rw [same]
    exact ready
  · rw [same]
    rcases visit_cases (observer.ready tick) tick session ready with
      ⟨passed, -, -⟩ | ⟨-, entry, -⟩
    · cases passed
    · exact entry

/-- After any turns of the loop, the next turn plans a session in time exactly when the policy
has become no more eager since the session was last visited. -/
theorem observer_plans (known : List (String × Nat)) (ticks : List Tick) (tick : Tick)
    (session : String) :
    ((run known ticks).tick tick).Planned tick session ↔ (run known ticks).Steady tick session := by
  have consistent := consistent_run known ticks session
  cases held : ((run known ticks).ready tick).scheduler.due.get? session with
  | some deadline => exact consistent.planned_iff tick ⟨deadline, held⟩
  | none =>
    -- no entry: nothing is promised, and there was no visit
    have entry : ((run known ticks).tick tick).scheduler.due.get? session = none := by
      rcases tick_eq (run known ticks) tick with ⟨same, -⟩ | same
      · rw [same]
        exact held
      · rw [same]
        exact (visit_unregistered tick held).1
    constructor
    · intro _ last visited
      have plan := (consistent.ready tick).visited last (by rw [ready_visits]; exact visited)
      rw [held] at plan
      cases plan
    · intro _ deadline found
      rw [entry] at found
      cases found

/-- One idle session is seen without subscriptions, then its turn starts. -/
def wakingTicks : Tick × Tick :=
  ({ known := [("s", 0)], elapsed := 0, pressure := ⟨false, 0⟩
     stateOf := fun _ => some ⟨false, false, false⟩ },
   { known := [("s", 0)], elapsed := fromMillis 200, pressure := ⟨false, 1⟩
     stateOf := fun _ => some ⟨true, true, true⟩ })

/-- It is never planned again. -/
theorem observer_forgets :
    ¬ ∀ (known : List (String × Nat)) (ticks : List Tick) (tick : Tick) (session : String),
      ((run known ticks).tick tick).Planned tick session := by
  intro every
  have planned := every [("s", 0)] [wakingTicks.1] wakingTicks.2 "s"
  have suspended : (run [("s", 0)] [wakingTicks.1]).scheduler.due.get? "s" = some none := by
    decide +kernel
  obtain ⟨time, is, -⟩ := planned none (suspended_tick suspended _) (fromMillis 500)
    (by decide +kernel)
  cases is

end Observer

end AgentConsole.Bridge.Observe
