import AgentConsole.Bridge.Power

/-! # One update of the wake policy

What is left of an update says what handle and what process there are (`Shape`) and whether
there will be an assertion in the end (`outcome`), as long as no other update is at work. -/

namespace AgentConsole.Bridge

namespace Power.WakePolicy

/-- The supervisor of the latest spawn, which has not ended. -/
def Current (policy : WakePolicy) (g : Nat) : Prop := g = policy.generation ∧ g ∉ policy.ended

structure Steady (policy : WakePolicy) : Prop where
  supervisors : policy.supervisors = policy.processes
  ended : ∀ g ∈ policy.ended, g ≤ policy.generation

/-- The only process is that of the assertion. -/
structure Rests (policy : WakePolicy) : Prop where
  processes : policy.processes = policy.assertion.toList.map (·.supervisor)
  current : ∀ handle, policy.assertion = some handle → policy.Current handle.supervisor

/-- No handle is stored, and these processes are alive. -/
structure Bare (policy : WakePolicy) (processes : List Nat) : Prop where
  assertion : policy.assertion = none
  processes : policy.processes = processes

/-- What there is while the owner has this left to do. -/
def Shape (policy : WakePolicy) : Option Work → Prop
  | some (.kill g _) => policy.Bare [g] ∧ policy.Current g
  | some .launch => policy.Bare []
  | some (.birth g) => policy.Bare [] ∧ policy.Current g
  | some (.store g) => policy.Bare [g] ∧ policy.Current g
  | _ => policy.Rests

/-- Whether there will be an assertion when this is done. -/
def outcome (policy : WakePolicy) : Option Work → Bool
  | some (.release spawns) | some (.kill _ spawns) => spawns
  | some .launch | some (.birth _) | some (.store _) => true
  | _ => policy.assertion.isSome

variable {policy : WakePolicy} {desired : ActivityState} {ok : Bool}

theorem Bare.rests (bare : policy.Bare []) : policy.Rests where
  processes := by rw [bare.processes, bare.assertion]; rfl
  current handle held := by rw [bare.assertion] at held; cases held

theorem Rests.bare (rests : policy.Rests) (none_ : policy.assertion = none) :
    policy.Bare [] where
  assertion := none_
  processes := by rw [rests.processes, none_]; rfl

theorem Bare.released (bare : policy.Bare []) (spawns : Bool) :
    policy.Shape (Work.released spawns) := by
  cases spawns with
  | true => exact bare
  | false => exact bare.rests

/-- The process of a supervisor that listens is gone, and so is the supervisor. -/
theorem kill_alone {g : Nat} (steady : policy.Steady) (bare : policy.Bare [g])
    (current : policy.Current g) : (policy.kill g).Steady ∧ (policy.kill g).Bare [] := by
  have listens : policy.supervisors = [g] := steady.supervisors.trans bare.processes
  have killed : policy.kill g =
      { policy with supervisors := [], ended := policy.ended ++ [g], processes := [] } := by
    simp [kill, endSupervisor, listens, bare.processes]
  rw [killed]
  refine ⟨⟨rfl, ?_⟩, bare.assertion, rfl⟩
  intro x member
  rcases List.mem_append.mp member with before | now
  · exact steady.ended x before
  · rw [List.mem_singleton.mp now]
    exact current.1.le

theorem plan_cases (policy : WakePolicy) (desired : ActivityState) :
    policy.plan desired = none ∨ ∃ spawns, policy.plan desired = some (.release spawns) := by
  unfold plan
  split <;> (try split) <;> simp

theorem advance_shape (steady : policy.Steady) {work : Work} (shape : policy.Shape (some work)) :
    (policy.advance desired ok work).1.Steady ∧
      (policy.advance desired ok work).1.Shape (policy.advance desired ok work).2 := by
  cases work with
  | sync =>
    refine ⟨steady, ?_⟩
    rcases plan_cases policy desired with done | ⟨spawns, releases⟩
    · exact congrArg policy.Shape done ▸ (shape : policy.Rests)
    · exact congrArg policy.Shape releases ▸ (shape : policy.Rests)
  | release spawns =>
    have rests : policy.Rests := shape
    unfold advance
    cases held : policy.assertion with
    | none => exact ⟨steady, (rests.bare held).released spawns⟩
    | some handle =>
      have processes : policy.processes = [handle.supervisor] := by
        rw [rests.processes, held]
        rfl
      exact ⟨⟨steady.supervisors, steady.ended⟩, ⟨rfl, processes⟩, rests.current handle held⟩
  | kill g spawns =>
    obtain ⟨bare, current⟩ := shape
    obtain ⟨steady', bare'⟩ := kill_alone steady bare current
    exact ⟨steady', bare'.released spawns⟩
  | launch =>
    refine ⟨⟨steady.supervisors, fun g member => ?_⟩, ⟨shape.assertion, shape.processes⟩, rfl, ?_⟩
    · exact (steady.ended g member).trans (Nat.le_succ _)
    · intro member
      exact absurd (steady.ended _ member) (Nat.not_succ_le_self _)
  | birth g =>
    obtain ⟨bare, current⟩ := shape
    cases ok with
    | false => exact ⟨steady, bare.rests⟩
    | true =>
      have alone : policy.processes ++ [g] = [g] := by rw [bare.processes]; rfl
      refine ⟨⟨?_, steady.ended⟩, ⟨bare.assertion, alone⟩, current⟩
      show policy.supervisors ++ [g] = policy.processes ++ [g]
      rw [steady.supervisors]
  | store g =>
    obtain ⟨bare, current⟩ := shape
    refine ⟨⟨steady.supervisors, steady.ended⟩, bare.processes, ?_⟩
    intro handle stored
    cases stored
    exact current

/-- What the held mode and the desired state lead to. -/
theorem plan_outcome (policy : WakePolicy) (desired : ActivityState) :
    policy.outcome (policy.plan desired) = desired.holds := by
  unfold plan heldMode
  cases held : policy.assertion with
  | none => cases wanted : desired.holds <;> simp [outcome, held]
  | some handle =>
    cases wanted : desired.holds with
    | true =>
      simp only [Option.map_some]
      split <;> simp [outcome, held]
    | false => simp [outcome]

theorem released_outcome (none_ : policy.assertion = none) (spawns : Bool) :
    policy.outcome (Work.released spawns) = spawns := by
  cases spawns with
  | true => rfl
  | false => simp [Work.released, outcome, none_]

/-- What is decided stays, unless the process cannot be had. -/
theorem advance_outcome (steady : policy.Steady) {work : Work}
    (shape : policy.Shape (some work)) (decided : work ≠ .sync)
    (had : ok = true ∨ ∀ g, work ≠ .birth g) :
    (policy.advance desired ok work).1.outcome (policy.advance desired ok work).2 =
      policy.outcome (some work) := by
  cases work with
  | sync => exact absurd rfl decided
  | release spawns =>
    unfold advance
    cases held : policy.assertion with
    | none => exact released_outcome held spawns
    | some handle => rfl
  | kill g spawns => exact released_outcome (kill_alone steady shape.1 shape.2).2.assertion spawns
  | launch => rfl
  | birth g =>
    cases ok with
    | true => rfl
    | false => exact absurd rfl (had.resolve_left Bool.false_ne_true g)
  | store g => rfl

/-- Nothing goes back to reading the held mode. -/
theorem advance_decided (work : Work) : (policy.advance desired ok work).2 ≠ some .sync := by
  have released (spawns : Bool) : Work.released spawns ≠ some .sync := by
    cases spawns <;> simp [Work.released]
  cases work with
  | sync =>
    show policy.plan desired ≠ some .sync
    rcases plan_cases policy desired with done | ⟨spawns, releases⟩ <;> simp [*]
  | release spawns =>
    cases held : policy.assertion with
    | none => simpa [advance, held] using released spawns
    | some handle => simp [advance, held]
  | kill g spawns => exact released spawns
  | launch => simp [advance]
  | birth g => cases ok <;> simp [advance]
  | store g => simp [advance]

/-! ### Supervisors -/

theorem Shape.current {left : Option Work} (shape : policy.Shape left)
    (handle : AssertionHandle) (held : policy.assertion = some handle) :
    policy.Current handle.supervisor := by
  have bare_absurd {processes : List Nat} (bare : policy.Bare processes) : False := by
    rw [bare.assertion] at held
    cases held
  cases left with
  | none => exact Rests.current shape handle held
  | some work =>
    cases work with
    | sync => exact Rests.current shape handle held
    | release spawns => exact Rests.current shape handle held
    | kill g spawns => exact (bare_absurd shape.1).elim
    | launch => exact (bare_absurd shape).elim
    | birth g => exact (bare_absurd shape.1).elim
    | store g => exact (bare_absurd shape.1).elim

theorem Shape.of_fewer {left : Option Work} (shape : policy.Shape left) {ended : List Nat}
    (fewer : ended ⊆ policy.ended) : ({ policy with ended := ended } : WakePolicy).Shape left := by
  have current {g : Nat} (now : policy.Current g) :
      ({ policy with ended := ended } : WakePolicy).Current g :=
    ⟨now.1, fun member => now.2 (fewer member)⟩
  have bare {processes : List Nat} (now : policy.Bare processes) :
      ({ policy with ended := ended } : WakePolicy).Bare processes := ⟨now.assertion, now.processes⟩
  have rests (now : policy.Rests) : ({ policy with ended := ended } : WakePolicy).Rests :=
    ⟨now.processes, fun handle held => current (now.current handle held)⟩
  cases left with
  | none => exact rests shape
  | some work =>
    cases work with
    | sync => exact rests shape
    | release spawns => exact rests shape
    | kill g spawns => exact ⟨bare shape.1, current shape.2⟩
    | launch => exact bare shape
    | birth g => exact ⟨bare shape.1, current shape.2⟩
    | store g => exact ⟨bare shape.1, current shape.2⟩

/-- A supervisor that cleans up does not touch the assertion of a later one. -/
theorem clean_eq {left : Option Work} (shape : policy.Shape left) (g : Nat) :
    policy.clean g = { policy with ended := policy.ended.erase g } := by
  by_cases ended : g ∈ policy.ended
  · have assertion :
        (if policy.generation = g then none else policy.assertion) = policy.assertion := by
      split
      · next latest =>
        cases held : policy.assertion with
        | none => rfl
        | some handle =>
          obtain ⟨same, running⟩ := shape.current handle held
          rw [same, latest] at running
          exact absurd ended running
      · rfl
    rw [clean, if_pos ended, assertion]
  · rw [clean, if_neg ended, List.erase_of_not_mem ended]

end Power.WakePolicy

end AgentConsole.Bridge
