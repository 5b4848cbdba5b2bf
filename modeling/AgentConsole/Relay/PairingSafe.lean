import AgentConsole.Relay.Pairing

/-! # A pairing is safe

Three facts carry the proof: a row that was approved or delivered never looks
unapproved or undelivered again, a handler past its checks holds the secret of
the challenge it claims, and every counted code stays counted.  The approving
update does not read the id that the request names, the delivering one does not
read whether the challenge was cancelled, and a wrong code counts only if both
statements about it are executed: these are the places where a run has to be
orderly. -/

namespace AgentConsole.Relay

open AgentConsole.Lib

namespace Pairing

variable {digest : String → String} {s s' : Pairing} {env : PairingEnv} {id challengeId : Nat}
  {challenge : String} {row : ChallengeRow}

/-! ## What is promised -/

/-- The credential goes to a caller with the secret, before the expiry by both
clocks, and its device belongs to whoever approved the challenge. -/
structure Entitled (digest : String → String) (s : Pairing) (h : Handout) : Prop where
  secret : ∃ r, s.registrations.get? h.challengeId = some r ∧ trim h.presented = r.challenge ∧
    h.checkedAt < r.expiresAt ∧ h.began < r.expiresAt
  owned : ∃ a ∈ s.approvals, a.challengeId = h.challengeId ∧
    ∃ device, s.devices.get? h.deviceId = some device ∧ device.ownerId = a.owner ∧
      device.credentialDigest = digest h.deviceCredential
  created : ∃ task, ⟨h.challengeId, h.deviceId, task⟩ ∈ s.creations

/-- * a challenge is approved once, and the one that the request names;
* a claim of it creates one device, and every device comes from a claim;
* its credential is handed out once, to whom it belongs, and not when cancelled. -/
structure Safe (digest : String → String) (s : Pairing) : Prop where
  approvedOnce : (s.approvals.map (·.challengeId)).Nodup
  approvesNamed : ∀ a ∈ s.approvals, ∀ named, a.named = some named → a.challengeId = named
  createdOnce : (s.creations.map (·.challengeId)).Nodup
  devices : ∀ deviceId device, s.devices.get? deviceId = some device →
    deviceId ∈ s.creations.map (·.deviceId)
  handedOutOnce : (s.handouts.map (·.challengeId)).Nodup
  handedOut : ∀ h ∈ s.handouts, Entitled digest s h
  cancelled : ∀ h ∈ s.handouts, h.challengeId ∉ s.cancelled

/-- After five wrong codes the step approves the challenge no more. -/
def LocksOut (digest : String → String) (s : Pairing) (i : PairingEnv × PairingInput) : Prop :=
  ∀ c, pairingMaxAttempts ≤ s.wrongCodes.count c →
    ∀ a ∈ (s.step digest i).approvals, a.challengeId = c → a ∈ s.approvals

/-! ## Orderly steps -/

/-- The handler the input advances. -/
def moved (s : Pairing) : PairingInput → Option PairingTask
  | .advance id => s.tasks.get? id
  | _ => none

/-- * both statements about a wrong code are executed;
* the first row the approving update may take is the one the request names;
* a challenge whose credential is about to be delivered was not cancelled. -/
def orderly (digest : String → String) (s : Pairing) (i : PairingEnv × PairingInput) : Bool :=
  match s.moved i.2 with
  | some (.approve _ body) => (s.wrongCode digest body).isNone || i.1.dbOk
  | some (.countAttempt _) => i.1.dbOk
  | some (.approveUpdate _ body) => !i.1.dbOk || body.challengeId.all fun named =>
      (s.candidates digest i.1 body).head?.all (· == named)
  | some (.claimDeliver challengeId _ _ began) => !i.1.dbOk || i.1.commit != .committed ||
      ((s.challenges.get? challengeId).filter (deliverable began)).all (·.consumedAt.isNone)
  | _ => true

/-! ## The invariant -/

/-- The caller of `claim` has shown the secret in time. -/
def Presents (digest : String → String) (s : Pairing) (challengeId : Nat) (challenge : String)
    (checkedAt : Nat) : Prop :=
  ∃ r, s.registrations.get? challengeId = some r ∧ digest (trim challenge) = digest r.challenge ∧
    checkedAt < r.expiresAt

/-- A credential that is handed out or about to be. -/
structure Delivered (digest : String → String) (s : Pairing) (h : Handout) : Prop
    extends Entitled digest s h where
  uncancelled : h.challengeId ∉ s.cancelled

/-- What a running handler may rely on. -/
def TaskOk (digest : String → String) (s : Pairing) (id : Nat) : PairingTask → Prop
  | .countAttempt challengeId => (s.registrations.get? challengeId).isSome
  | .claimBegin challengeId challenge checkedAt => Presents digest s challengeId challenge checkedAt
  | .claimDeliver challengeId challenge checkedAt _ =>
    Presents digest s challengeId challenge checkedAt
  | .claimAnswer h => Delivered digest s h ∧ ⟨h.challengeId, h.deviceId, id⟩ ∈ s.creations ∧
      h.challengeId ∉ s.handouts.map (·.challengeId)
  | _ => True

/-- How a row agrees with the history. -/
structure RowOk (digest : String → String) (s : Pairing) (c : Nat) (row : ChallengeRow) :
    Prop where
  registered : ∃ r, s.registrations.get? c = some r ∧ row.challengeDigest = digest r.challenge ∧
    row.expiresAt = r.expiresAt
  approved : c ∈ s.approvals.map (·.challengeId) → row.approvedAt.isSome
  approver : row.approvedAt.isSome → ∀ owner, row.ownerId = some owner →
    ∃ a ∈ s.approvals, a.challengeId = c ∧ a.owner = owner
  created : c ∈ s.creations.map (·.challengeId) → row.credentialDeliveredAt.isSome ∧
    row.consumedAt.isSome
  cancelled : c ∈ s.cancelled → row.consumedAt.isSome
  counted : min pairingMaxAttempts (s.wrongCodes.count c) ≤ row.attemptCount

/-- No history of the challenge `c` yet. -/
structure Unissued (s : Pairing) (c : Nat) : Prop where
  registrations : s.registrations.get? c = none
  approvals : c ∉ s.approvals.map (·.challengeId)
  creations : c ∉ s.creations.map (·.challengeId)
  cancelled : c ∉ s.cancelled
  wrongCodes : c ∉ s.wrongCodes

structure Inv (digest : String → String) (s : Pairing) : Prop where
  rows : ∀ c row, s.challenges.get? c = some row → RowOk digest s c row
  tasks : ∀ id task, s.tasks.get? id = some task → TaskOk digest s id task
  approvedOnce : (s.approvals.map (·.challengeId)).Nodup
  approvesNamed : ∀ a ∈ s.approvals, ∀ named, a.named = some named → a.challengeId = named
  createdOnce : (s.creations.map (·.challengeId)).Nodup
  devices : ∀ deviceId device, s.devices.get? deviceId = some device →
    deviceId ∈ s.creations.map (·.deviceId) ∧ deviceId < s.nextDevice
  handedOutOnce : (s.handouts.map (·.challengeId)).Nodup
  handedOut : ∀ h ∈ s.handouts, Delivered digest s h
  unissued : ∀ c, s.nextChallenge ≤ c → Unissued s c

theorem Inv.safe (inv : Inv digest s) : Safe digest s where
  approvedOnce := inv.approvedOnce
  approvesNamed := inv.approvesNamed
  createdOnce := inv.createdOnce
  devices := fun deviceId device found => (inv.devices deviceId device found).1
  handedOutOnce := inv.handedOutOnce
  handedOut := fun h out => (inv.handedOut h out).toEntitled
  cancelled := fun h out => (inv.handedOut h out).uncancelled

theorem Inv.init : Inv digest {} where
  rows := by simp
  tasks := by simp
  approvedOnce := by simp
  approvesNamed := by simp
  createdOnce := by simp
  devices := by simp
  handedOutOnce := by simp
  handedOut := by simp
  unissued := fun c _ => ⟨by simp, by simp, by simp, by simp, by simp⟩

/-- A row that exists was issued. -/
theorem Inv.issued (inv : Inv digest s) (found : s.challenges.get? challengeId = some row) :
    challengeId < s.nextChallenge := by
  by_contra unissued
  obtain ⟨r, registered, -⟩ := (inv.rows challengeId row found).registered
  have none := (inv.unissued challengeId (by omega)).registrations
  exact nomatch registered.symm.trans none

/-! ## Growing histories -/

/-- What no step takes back. -/
structure Grows (s s' : Pairing) : Prop where
  registrations : ∀ c r, s.registrations.get? c = some r → s'.registrations.get? c = some r
  approvals : s.approvals ⊆ s'.approvals
  devices : ∀ deviceId device, s.devices.get? deviceId = some device →
    s'.devices.get? deviceId = some device
  creations : s.creations ⊆ s'.creations

theorem Grows.of_eq (registrations : s'.registrations = s.registrations)
    (approvals : s'.approvals = s.approvals) (devices : s'.devices = s.devices)
    (creations : s'.creations = s.creations) : Grows s s' :=
  ⟨fun _ _ found => registrations ▸ found, fun _ member => approvals ▸ member,
    fun _ _ found => devices ▸ found, fun _ member => creations ▸ member⟩

theorem Entitled.grow {h : Handout} (entitled : Entitled digest s h) (grows : Grows s s') :
    Entitled digest s' h where
  secret := by
    obtain ⟨r, registered, rest⟩ := entitled.secret
    exact ⟨r, grows.registrations _ _ registered, rest⟩
  owned := by
    obtain ⟨a, member, same, device, found, rest⟩ := entitled.owned
    exact ⟨a, grows.approvals member, same, device, grows.devices _ _ found, rest⟩
  created := by
    obtain ⟨task, member⟩ := entitled.created
    exact ⟨task, grows.creations member⟩

theorem Delivered.grow {h : Handout} (delivered : Delivered digest s h) (grows : Grows s s')
    (cancelled : s'.cancelled = s.cancelled) : Delivered digest s' h :=
  ⟨delivered.toEntitled.grow grows, cancelled ▸ delivered.uncancelled⟩

theorem Presents.grow {checkedAt : Nat} (presents : Presents digest s challengeId challenge checkedAt)
    (grows : Grows s s') : Presents digest s' challengeId challenge checkedAt := by
  obtain ⟨r, registered, rest⟩ := presents
  exact ⟨r, grows.registrations _ _ registered, rest⟩

/-- A handler keeps what it relies on when the histories grow and neither its own
handout nor a cancellation of it is added. -/
theorem TaskOk.grow_of {task : PairingTask} (ok : TaskOk digest s id task) (grows : Grows s s')
    (handouts : ∀ h, task = .claimAnswer h → h.challengeId ∉ s'.handouts.map (·.challengeId))
    (cancelled : ∀ h, task = .claimAnswer h → h.challengeId ∉ s'.cancelled) :
    TaskOk digest s' id task := by
  cases task with
  | countAttempt c =>
    obtain ⟨r, registered⟩ := Option.isSome_iff_exists.mp ok
    exact Option.isSome_iff_exists.mpr ⟨r, grows.registrations c r registered⟩
  | claimBegin c text checkedAt => exact Presents.grow ok grows
  | claimDeliver c text checkedAt began => exact Presents.grow ok grows
  | claimAnswer h =>
    obtain ⟨delivered, created, -⟩ := ok
    exact ⟨⟨delivered.toEntitled.grow grows, cancelled h rfl⟩, grows.creations created,
      handouts h rfl⟩
  | _ => trivial

theorem TaskOk.grow {task : PairingTask} (ok : TaskOk digest s id task) (grows : Grows s s')
    (handouts : s'.handouts = s.handouts) (cancelled : s'.cancelled = s.cancelled) :
    TaskOk digest s' id task := by
  apply ok.grow_of grows
  · rintro h rfl
    exact handouts ▸ ok.2.2
  · rintro h rfl
    exact cancelled ▸ ok.1.uncancelled

/-! ## Handlers going on and answering -/

theorem Inv.go {task : PairingTask} (inv : Inv digest s) (ok : TaskOk digest s id task) :
    Inv digest (s.go id task) where
  rows := fun c row found =>
    { inv.rows c row found with }
  tasks := by
    have grows : Grows s (s.go id task) := .of_eq rfl rfl rfl rfl
    intro other task' found
    rw [Pairing.go, FiniteMap.get?_insert] at found
    have old : TaskOk digest s other task' := by
      split at found
      case isTrue same =>
        cases found
        exact same ▸ ok
      case isFalse => exact inv.tasks other task' found
    exact old.grow grows rfl rfl
  approvedOnce := inv.approvedOnce
  approvesNamed := inv.approvesNamed
  createdOnce := inv.createdOnce
  devices := inv.devices
  handedOutOnce := inv.handedOutOnce
  handedOut := fun h out => (inv.handedOut h out).grow (.of_eq rfl rfl rfl rfl) rfl
  unissued := fun c fresh => { inv.unissued c fresh with }

theorem Inv.answer {response : PairingResponse} (inv : Inv digest s) :
    Inv digest (s.answer id response) where
  rows := fun c row found =>
    { inv.rows c row found with }
  tasks := by
    intro other task' found
    have old : TaskOk digest s other task' := by
      rw [Pairing.answer, FiniteMap.get?_erase] at found
      split at found
      case isTrue => cases found
      case isFalse => exact inv.tasks other task' found
    exact old.grow (.of_eq rfl rfl rfl rfl) rfl rfl
  approvedOnce := inv.approvedOnce
  approvesNamed := inv.approvesNamed
  createdOnce := inv.createdOnce
  devices := inv.devices
  handedOutOnce := inv.handedOutOnce
  handedOut := fun h out => (inv.handedOut h out).grow (.of_eq rfl rfl rfl rfl) rfl
  unissued := fun c fresh => { inv.unissued c fresh with }

/-- Answers that no handler below gave change nothing else. -/
theorem Inv.tell (inv : Inv digest s) (answers : List (Nat × PairingResponse)) :
    Inv digest { s with answers } :=
  { inv with
    rows := fun c row found => { inv.rows c row found with }
    tasks := fun id task found => (inv.tasks id task found).grow (.of_eq rfl rfl rfl rfl) rfl rfl
    handedOut := fun h out => (inv.handedOut h out).grow (.of_eq rfl rfl rfl rfl) rfl
    unissued := fun c fresh => { inv.unissued c fresh with } }

theorem Inv.reject {status : Nat} {code : PairingCode} {message reason : String}
    (inv : Inv digest s) : Inv digest (s.reject id status code message reason) :=
  inv.answer

/-! ## Steps that change the tables -/

/-- What the fields outside the rows keep when approvals, creations, cancellations
and codes are added for issued challenges only. -/
theorem Unissued.keep (unissued : Unissued s challengeId)
    (registrations : s'.registrations.get? challengeId = s.registrations.get? challengeId)
    (approvals : challengeId ∈ s'.approvals.map (·.challengeId) →
      challengeId ∈ s.approvals.map (·.challengeId))
    (creations : challengeId ∈ s'.creations.map (·.challengeId) →
      challengeId ∈ s.creations.map (·.challengeId))
    (cancelled : challengeId ∈ s'.cancelled → challengeId ∈ s.cancelled)
    (wrongCodes : challengeId ∈ s'.wrongCodes → challengeId ∈ s.wrongCodes) :
    Unissued s' challengeId where
  registrations := registrations.trans unissued.registrations
  approvals := fun member => unissued.approvals (approvals member)
  creations := fun member => unissued.creations (creations member)
  cancelled := fun member => unissued.cancelled (cancelled member)
  wrongCodes := fun member => unissued.wrongCodes (wrongCodes member)

/-- A wrong code is counted, in the row as long as there is one. -/
theorem Inv.count (inv : Inv digest s) {rows : FiniteMap Nat ChallengeRow}
    (known : (s.registrations.get? challengeId).isSome)
    (counted : ∀ c row, rows.get? c = some row → ∃ old, s.challenges.get? c = some old ∧
      row = { old with attemptCount := row.attemptCount } ∧
        old.attemptCount ≤ row.attemptCount ∧
        (c = challengeId → min pairingMaxAttempts (old.attemptCount + 1) ≤ row.attemptCount)) :
    Inv digest { s with challenges := rows, wrongCodes := s.wrongCodes ++ [challengeId] } where
  rows := by
    intro c row found
    obtain ⟨old, before, same, grown, more⟩ := counted c row found
    have ok := inv.rows c old before
    rw [same]
    exact
      { registered := ok.registered
        approved := ok.approved
        approver := ok.approver
        created := ok.created
        cancelled := ok.cancelled
        counted := by
          have counted := ok.counted
          simp only [List.count_append, List.count_singleton]
          by_cases this : c = challengeId
          · have more := more this
            simp only [this] at counted ⊢
            simp only [BEq.rfl, if_true]
            omega
          · have other : ¬ (challengeId == c) = true := by
              simpa using fun same : challengeId = c => this same.symm
            simp only [other]
            simp only [Bool.false_eq_true, if_false, Nat.add_zero]
            omega }
  tasks := fun other task found => (inv.tasks other task found).grow (.of_eq rfl rfl rfl rfl) rfl rfl
  approvedOnce := inv.approvedOnce
  approvesNamed := inv.approvesNamed
  createdOnce := inv.createdOnce
  devices := inv.devices
  handedOutOnce := inv.handedOutOnce
  handedOut := fun h out => (inv.handedOut h out).grow (.of_eq rfl rfl rfl rfl) rfl
  unissued := fun c fresh => by
    refine (inv.unissued c fresh).keep rfl id id id ?_
    intro member
    rcases List.mem_append.mp member with old | new
    · exact old
    · have same : c = challengeId := List.mem_singleton.mp new
      have unissued := (inv.unissued c fresh).registrations
      simp [← same, unissued] at known

theorem mem_newestFirst {scan : List Nat} {p : ChallengeRow → Bool}
    (member : challengeId ∈ s.newestFirst scan p) :
    ∃ row, s.challenges.get? challengeId = some row ∧ p row = true := by
  have kept := List.mem_filter.mp ((List.perm_insertionSort _ _).subset member)
  cases found : s.challenges.get? challengeId with
  | none => simp [found] at kept
  | some row => exact ⟨row, rfl, by simpa [found] using kept.2⟩

/-- The approving update, on a row that satisfies its condition. -/
theorem Inv.approve (inv : Inv digest s) {owner : Uuid} {named : Option Nat} {now : Nat}
    (found : s.challenges.get? challengeId = some row) (unapproved : row.approvedAt = none)
    (names : ∀ c, named = some c → challengeId = c) :
    Inv digest { s with
      challenges := s.challenges.modify challengeId fun row =>
        { row with approvedAt := some now, ownerId := some owner }
      approvals := s.approvals ++ [⟨challengeId, owner, named⟩] } := by
  have first : challengeId ∉ s.approvals.map (·.challengeId) := by
    intro member
    have approved := (inv.rows challengeId row found).approved member
    simp [unapproved] at approved
  have grows : Grows s { s with
      challenges := s.challenges.modify challengeId fun row =>
        { row with approvedAt := some now, ownerId := some owner }
      approvals := s.approvals ++ [⟨challengeId, owner, named⟩] } :=
    ⟨fun _ _ => id, List.subset_append_left _ _, fun _ _ => id, List.Subset.refl _⟩
  exact
    { inv with
      rows := by
        intro c after found'
        rw [FiniteMap.get?_modify] at found'
        split at found'
        case isTrue same =>
          subst same
          rw [found] at found'
          cases found'
          exact { inv.rows c row found with
            approved := fun _ => rfl
            approver := by
              intro _ o same
              refine ⟨⟨c, owner, named⟩, by simp, rfl, ?_⟩
              exact Option.some.inj same }
        case isFalse other =>
          have ok := inv.rows c after found'
          exact { ok with
            approved := by
              intro member
              simp only [List.map_append, List.map_cons, List.map_nil, List.mem_append,
                List.mem_singleton] at member
              exact ok.approved (member.resolve_right other)
            approver := by
              intro approved o same
              obtain ⟨a, member, rest⟩ := ok.approver approved o same
              exact ⟨a, List.mem_append_left _ member, rest⟩ }
      tasks := fun other task found => (inv.tasks other task found).grow grows rfl rfl
      approvedOnce := by
        rw [List.map_append]
        exact List.Nodup.append inv.approvedOnce (by simp) (by simpa using first)
      approvesNamed := by
        intro a member c same
        rcases List.mem_append.mp member with old | new
        · exact inv.approvesNamed a old c same
        · cases List.mem_singleton.mp new
          exact names c same
      handedOut := fun h out => (inv.handedOut h out).grow grows rfl
      unissued := by
        intro c fresh
        have known := inv.issued found
        refine (inv.unissued c fresh).keep rfl ?_ id id id
        intro member
        simp only [List.map_append, List.map_cons, List.map_nil, List.mem_append,
          List.mem_singleton] at member
        have fresh : s.nextChallenge ≤ c := fresh
        exact member.resolve_right (by omega) }

/-- The delivering transaction, on a row that satisfies its condition. -/
theorem Inv.deliver (inv : Inv digest s) {device : PairedDevice} {began : Nat}
    (found : s.challenges.get? challengeId = some row)
    (undelivered : row.credentialDeliveredAt = none) :
    Inv digest { s with
      challenges := s.challenges.insert challengeId
        { row with credentialDeliveredAt := some began, consumedAt := some began }
      devices := s.devices.insert s.nextDevice device
      nextDevice := s.nextDevice + 1
      creations := s.creations ++ [⟨challengeId, s.nextDevice, id⟩] } := by
  have first : challengeId ∉ s.creations.map (·.challengeId) := by
    intro member
    have created := (inv.rows challengeId row found).created member
    simp [undelivered] at created
  have kept (deviceId : Nat) (d : PairedDevice) (there : s.devices.get? deviceId = some d) :
      (s.devices.insert s.nextDevice device).get? deviceId = some d := by
    have bound := (inv.devices deviceId d there).2
    rw [FiniteMap.get?_insert, if_neg (by omega), there]
  have grows : Grows s { s with
      challenges := s.challenges.insert challengeId
        { row with credentialDeliveredAt := some began, consumedAt := some began }
      devices := s.devices.insert s.nextDevice device
      nextDevice := s.nextDevice + 1
      creations := s.creations ++ [⟨challengeId, s.nextDevice, id⟩] } :=
    ⟨fun _ _ => fun found => found, List.Subset.refl _, kept, List.subset_append_left _ _⟩
  exact
    { inv with
      rows := by
        intro c after found'
        rw [FiniteMap.get?_insert] at found'
        split at found'
        case isTrue same =>
          subst same
          cases found'
          exact { inv.rows c row found with
            created := fun _ => ⟨rfl, rfl⟩
            cancelled := fun _ => rfl }
        case isFalse other =>
          have ok := inv.rows c after found'
          exact { ok with
            created := by
              intro member
              simp only [List.map_append, List.map_cons, List.map_nil, List.mem_append,
                List.mem_singleton] at member
              exact ok.created (member.resolve_right other) }
      tasks := fun other task found => (inv.tasks other task found).grow grows rfl rfl
      createdOnce := by
        rw [List.map_append]
        exact List.Nodup.append inv.createdOnce (by simp) (by simpa using first)
      devices := by
        intro deviceId d there
        rw [FiniteMap.get?_insert] at there
        simp only [List.map_append, List.map_cons, List.map_nil, List.mem_append,
          List.mem_singleton]
        split at there
        case isTrue same => exact ⟨.inr same, by omega⟩
        case isFalse =>
          obtain ⟨member, bound⟩ := inv.devices deviceId d there
          exact ⟨.inl member, by omega⟩
      handedOut := fun h out => (inv.handedOut h out).grow grows rfl
      unissued := by
        intro c fresh
        have known := inv.issued found
        refine (inv.unissued c fresh).keep rfl (fun m => m) ?_ (fun m => m) (fun m => m)
        intro member
        simp only [List.map_append, List.map_cons, List.map_nil, List.mem_append,
          List.mem_singleton] at member
        have fresh : s.nextChallenge ≤ c := fresh
        exact member.resolve_right (by omega) }

/-- A credential is handed out that no other handler has and nobody got. -/
theorem Inv.handOut (inv : Inv digest s) {h : Handout} (delivered : Delivered digest s h)
    (first : h.challengeId ∉ s.handouts.map (·.challengeId))
    (alone : ∀ id h', s.tasks.get? id = some (.claimAnswer h') → h'.challengeId ≠ h.challengeId) :
    Inv digest { s with handouts := s.handouts ++ [h] } :=
  { inv with
    rows := fun c row found => { inv.rows c row found with }
    tasks := by
      intro id task found
      have old := inv.tasks id task found
      refine old.grow_of (.of_eq rfl rfl rfl rfl) ?_ ?_
      · rintro h' rfl
        simp only [List.map_append, List.map_cons, List.map_nil, List.mem_append,
          List.mem_singleton, not_or]
        exact ⟨old.2.2, alone id h' found⟩
      · rintro h' rfl
        exact old.1.uncancelled
    handedOutOnce := by
      rw [List.map_append]
      exact List.Nodup.append inv.handedOutOnce (by simp) (by simpa using first)
    handedOut := by
      intro h' out
      rcases List.mem_append.mp out with old | new
      · exact (inv.handedOut h' old).grow (.of_eq rfl rfl rfl rfl) rfl
      · rw [List.mem_singleton.mp new]
        exact delivered.grow (.of_eq rfl rfl rfl rfl) rfl
    unissued := fun c fresh => { inv.unissued c fresh with } }

/-- A cancellation finds the challenge unconsumed, hence undelivered. -/
theorem Inv.cancel (inv : Inv digest s) {now : Nat}
    (found : s.challenges.get? challengeId = some row) (unconsumed : row.consumedAt = none) :
    Inv digest { s with
      challenges := s.challenges.insert challengeId { row with consumedAt := some now }
      cancelled := s.cancelled ++ [challengeId] } := by
  have uncreated : challengeId ∉ s.creations.map (·.challengeId) := by
    intro member
    have created := (inv.rows challengeId row found).created member
    simp [unconsumed] at created
  have other {h : Handout} (delivered : Delivered digest s h) :
      h.challengeId ∉ s.cancelled ++ [challengeId] := by
    obtain ⟨task, created⟩ := delivered.created
    rw [List.mem_append, List.mem_singleton, not_or]
    refine ⟨delivered.uncancelled, ?_⟩
    intro same
    exact uncreated (same ▸ List.mem_map_of_mem created)
  exact
    { inv with
      rows := by
        intro c after found'
        rw [FiniteMap.get?_insert] at found'
        split at found'
        case isTrue same =>
          subst same
          cases found'
          have ok := inv.rows c row found
          exact { ok with
            created := fun member => ⟨(ok.created member).1, rfl⟩
            cancelled := fun _ => rfl }
        case isFalse other =>
          have ok := inv.rows c after found'
          exact { ok with
            cancelled := by
              intro member
              rw [List.mem_append, List.mem_singleton] at member
              exact ok.cancelled (member.resolve_right other) }
      tasks := by
        intro id task there
        have old := inv.tasks id task there
        refine old.grow_of (.of_eq rfl rfl rfl rfl) ?_ ?_
        · rintro h rfl
          exact old.2.2
        · rintro h rfl
          exact other old.1
      handedOut := fun h out =>
        ⟨(inv.handedOut h out).toEntitled.grow (.of_eq rfl rfl rfl rfl), other (inv.handedOut h out)⟩
      unissued := by
        intro c fresh
        have known := inv.issued found
        refine (inv.unissued c fresh).keep rfl id id ?_ id
        intro member
        rw [List.mem_append, List.mem_singleton] at member
        have fresh : s.nextChallenge ≤ c := fresh
        exact member.resolve_right (by omega) }

/-- Rows may go. -/
theorem Inv.drop (inv : Inv digest s) (p : Nat → ChallengeRow → Bool) :
    Inv digest { s with challenges := s.challenges.filter p } :=
  { inv with
    rows := fun c row found => { inv.rows c row (FiniteMap.get?_of_filter found).1 with }
    tasks := fun id task found => (inv.tasks id task found).grow (.of_eq rfl rfl rfl rfl) rfl rfl
    handedOut := fun h out => (inv.handedOut h out).grow (.of_eq rfl rfl rfl rfl) rfl
    unissued := fun c fresh => { inv.unissued c fresh with } }

/-- A new challenge starts without a history. -/
theorem Inv.register (inv : Inv digest s) (row : ChallengeRow) {r : Registration}
    (pending : row.approvedAt = none) (challengeDigest : row.challengeDigest = digest r.challenge)
    (expiresAt : row.expiresAt = r.expiresAt) :
    Inv digest { s with
      challenges := s.challenges.insert s.nextChallenge row
      nextChallenge := s.nextChallenge + 1
      registrations := s.registrations.insert s.nextChallenge r } := by
  have unissued := inv.unissued s.nextChallenge (Nat.le_refl _)
  have grows : Grows s { s with
      challenges := s.challenges.insert s.nextChallenge row
      nextChallenge := s.nextChallenge + 1
      registrations := s.registrations.insert s.nextChallenge r } := by
    refine ⟨?_, List.Subset.refl _, fun _ _ => id, List.Subset.refl _⟩
    intro c old registered
    have other : c ≠ s.nextChallenge := by
      rintro rfl
      exact nomatch registered.symm.trans unissued.registrations
    simp only [FiniteMap.get?_insert, if_neg other, registered]
  exact
    { inv with
      rows := by
        intro c after found
        rw [FiniteMap.get?_insert] at found
        split at found
        case isTrue same =>
          subst same
          cases found
          exact
            { registered := ⟨r, by simp, challengeDigest, expiresAt⟩
              approved := fun member => absurd member unissued.approvals
              approver := fun approved => by simp [pending] at approved
              created := fun member => absurd member unissued.creations
              cancelled := fun member => absurd member unissued.cancelled
              counted := by
                rw [List.count_eq_zero_of_not_mem unissued.wrongCodes]
                omega }
        case isFalse other =>
          have ok := inv.rows c after found
          obtain ⟨old, registered, rest⟩ := ok.registered
          exact { ok with registered := ⟨old, grows.registrations _ _ registered, rest⟩ }
      tasks := fun id task found => (inv.tasks id task found).grow grows rfl rfl
      handedOut := fun h out => (inv.handedOut h out).grow grows rfl
      unissued := by
        intro c fresh
        have fresh : s.nextChallenge + 1 ≤ c := fresh
        refine (inv.unissued c (by omega)).keep ?_ id id id id
        simp only [FiniteMap.get?_insert]
        rw [if_neg (by omega)] }

/-! ## The handlers -/

/-- A handler that only looks keeps everything. -/
theorem Inv.lookupNewest {shortCode : String} (inv : Inv digest s) :
    Inv digest (s.lookupNewest digest env id shortCode) := by
  unfold Pairing.lookupNewest
  split
  · exact inv.reject
  · split
    · exact inv.reject
    · split_ifs
      · exact inv.reject
      · exact inv.reject
      · exact inv.reject
      · exact inv.reject
      · exact inv.go trivial

theorem Inv.lookupInfo {expiresAt : Nat} (inv : Inv digest s) :
    Inv digest (s.lookupInfo env id challengeId expiresAt) := by
  unfold Pairing.lookupInfo
  split
  · split
    · exact inv.answer
    · exact inv.reject
  · exact inv.reject

theorem Inv.approveClassify {codeDigest : String} (inv : Inv digest s) :
    Inv digest (s.approveClassify env id codeDigest) := by
  unfold Pairing.approveClassify
  split
  · exact inv.reject
  · split_ifs <;> exact inv.reject

theorem Inv.approveCompare {owner : Uuid} {body : ApproveBody} (inv : Inv digest s)
    (compared : (s.wrongCode digest body).isNone || env.dbOk) :
    Inv digest (s.approveCompare digest env id owner body) := by
  unfold Pairing.approveCompare
  split
  case h_1 c wrong =>
    have executed : env.dbOk = true := by simpa [wrong] using compared
    rw [if_pos executed]
    obtain ⟨-, named⟩ := Option.filter_eq_some_iff.mp wrong
    obtain ⟨row, found, -⟩ := (Option.any_eq_true _ _).mp named
    obtain ⟨r, registered, -⟩ := (inv.rows c row found).registered
    exact inv.go (Option.isSome_iff_exists.mpr ⟨r, registered⟩)
  case h_2 => exact inv.go trivial

theorem Inv.countAttempt (inv : Inv digest s) (executed : env.dbOk)
    (known : (s.registrations.get? challengeId).isSome) :
    Inv digest (s.countAttempt env id challengeId) := by
  have counted : Inv digest { s with
      challenges := ((s.countedRow env challengeId).map
        (s.challenges.insert challengeId)).getD s.challenges
      wrongCodes := s.wrongCodes ++ [challengeId] } := by
    apply inv.count known
    intro c row found
    unfold countedRow at found
    rw [if_pos executed] at found
    cases there : s.challenges.get? challengeId with
    | none =>
      simp only [there, Option.filter_none, Option.map_none, Option.getD_none] at found
      refine ⟨row, found, rfl, Nat.le_refl _, ?_⟩
      rintro rfl
      exact nomatch found.symm.trans there
    | some old =>
      by_cases small : old.attemptCount < i32Max
      · simp only [there, Option.filter_some, small, decide_true, if_true, Option.map_some,
          Option.getD_some, FiniteMap.get?_insert] at found
        split at found
        case isTrue same =>
          cases found
          exact ⟨old, same ▸ there, rfl, Nat.le_succ _, fun _ => Nat.min_le_right _ _⟩
        case isFalse other => exact ⟨row, found, rfl, Nat.le_refl _, fun same => absurd same other⟩
      · simp only [there, Option.filter_some, small, decide_false, Bool.false_eq_true, if_false,
          Option.map_none, Option.getD_none] at found
        refine ⟨row, found, rfl, Nat.le_refl _, ?_⟩
        rintro rfl
        cases found.symm.trans there
        simp only [i32Max, pairingMaxAttempts] at small ⊢
        omega
  unfold Pairing.countAttempt
  dsimp only
  split
  · exact counted.reject
  · exact counted.reject

theorem Inv.approveUpdate {owner : Uuid} {body : ApproveBody} (inv : Inv digest s)
    (attributed : !env.dbOk || body.challengeId.all fun named =>
      (s.candidates digest env body).head?.all (· == named)) :
    Inv digest (s.approveUpdate digest env id owner body) := by
  unfold Pairing.approveUpdate
  split
  case isTrue => exact inv.reject
  case isFalse failed =>
    split
    case h_1 => exact inv.go trivial
    case h_2 c first =>
      obtain ⟨row, found, holds⟩ := mem_newestFirst (List.mem_of_mem_head? first)
      have unapproved : row.approvedAt = none := by
        simp only [approvable, Bool.and_eq_true, Option.isNone_iff_eq_none] at holds
        exact holds.1.1.1.2
      have names (named : Nat) (same : body.challengeId = some named) : c = named := by
        simpa [failed, same, first] using attributed
      exact (inv.approve found unapproved names).answer

theorem Inv.claimSelect (inv : Inv digest s) :
    Inv digest (s.claimSelect digest env id challengeId challenge) := by
  unfold Pairing.claimSelect
  split
  case h_1 => exact inv.reject
  case h_2 row found =>
    have there : s.challenges.get? challengeId = some row := by
      split at found
      · exact found
      · cases found
    split_ifs with mismatch expired delivered unapproved
    · exact inv.reject
    · exact inv.reject
    · exact inv.reject
    · exact inv.answer
    · obtain ⟨r, registered, same, until_⟩ := (inv.rows challengeId row there).registered
      refine inv.go ⟨r, registered, ?_, ?_⟩
      · rw [not_not.mp mismatch, same]
      · omega

theorem Inv.claimBegin {checkedAt : Nat} (inv : Inv digest s)
    (presents : Presents digest s challengeId challenge checkedAt) :
    Inv digest (s.claimBegin env id challengeId challenge checkedAt) := by
  unfold Pairing.claimBegin
  split
  · exact inv.go presents
  · exact inv.reject

theorem Inv.claimDeliver (separates : Function.Injective digest) {checkedAt began : Nat}
    (inv : Inv digest s) (presents : Presents digest s challengeId challenge checkedAt)
    (uncancelled : !env.dbOk || env.commit != .committed ||
      ((s.challenges.get? challengeId).filter (deliverable began)).all (·.consumedAt.isNone)) :
    Inv digest (s.claimDeliver digest env id challengeId challenge checkedAt began) := by
  unfold Pairing.claimDeliver
  split
  case isTrue => exact inv.reject
  case isFalse failed =>
    split
    case h_1 => exact inv.reject
    case h_2 row kept =>
      obtain ⟨found, holds⟩ := Option.filter_eq_some_iff.mp kept
      simp only [deliverable, Bool.and_eq_true, Option.isNone_iff_eq_none,
        decide_eq_true_eq] at holds
      obtain ⟨⟨approved, undelivered⟩, before⟩ := holds
      split
      case h_1 => exact inv.reject
      case h_2 owner owned =>
        dsimp only
        split
        case h_1 => exact inv.reject
        case h_2 => exact (inv.deliver found undelivered).reject
        case h_3 committed =>
          refine (inv.deliver found undelivered).go ?_
          have ok := inv.rows challengeId row found
          obtain ⟨r, registered, same, until_⟩ := ok.registered
          obtain ⟨r', registered', presented, checked⟩ := presents
          cases registered.symm.trans registered'
          obtain ⟨a, member, of, owner'⟩ := ok.approver approved owner owned
          have uncancelled : challengeId ∉ s.cancelled := by
            intro member
            have consumed := ok.cancelled member
            simp [failed, committed, kept] at uncancelled
            simp [uncancelled] at consumed
          have unissued : challengeId ∉ s.creations.map (·.challengeId) := by
            intro member
            have created := (ok.created member).1
            simp [undelivered] at created
          have unhanded : challengeId ∉ s.handouts.map (·.challengeId) := by
            intro member
            obtain ⟨h, out, same⟩ := List.mem_map.mp member
            obtain ⟨task, created⟩ := (inv.handedOut h out).created
            exact unissued (same ▸ List.mem_map_of_mem created)
          exact
            ⟨{ secret := ⟨r, registered, separates presented, checked, until_ ▸ before⟩
               owned := ⟨a, member, of, _, FiniteMap.get?_insert_self _ _ _, owner'.symm, rfl⟩
               created := ⟨id, List.mem_append_right _ (List.mem_singleton_self _)⟩
               uncancelled },
              List.mem_append_right _ (List.mem_singleton_self _), unhanded⟩

/-- Two creations for one challenge are one. -/
theorem Inv.creation_unique (inv : Inv digest s) {a b : Creation} (left : a ∈ s.creations)
    (right : b ∈ s.creations) (same : a.challengeId = b.challengeId) : a = b :=
  List.inj_on_of_nodup_map inv.createdOnce left right same

theorem Inv.claimAnswer {h : Handout} (inv : Inv digest s)
    (found : s.tasks.get? id = some (.claimAnswer h)) : Inv digest (s.claimAnswer id h) := by
  obtain ⟨delivered, created, first⟩ := inv.tasks id _ found
  have ended : Inv digest (s.answer id (.ready h.deviceId h.deviceCredential)) := inv.answer
  refine Inv.handOut ended (delivered.grow (.of_eq rfl rfl rfl rfl) rfl) first ?_
  intro other h' there same
  rw [Pairing.answer, FiniteMap.get?_erase] at there
  split at there
  case isTrue => cases there
  case isFalse different =>
    obtain ⟨-, created', -⟩ := inv.tasks other _ there
    have one := inv.creation_unique created' created same
    exact different (congrArg Creation.task one)

theorem Inv.advance (separates : Function.Injective digest) (inv : Inv digest s)
    (orderly : s.orderly digest (env, .advance id)) : Inv digest (s.advance digest env id) := by
  unfold Pairing.advance
  unfold Pairing.orderly moved at orderly
  cases found : s.tasks.get? id with
  | none => exact inv
  | some task =>
    have ok := inv.tasks id task found
    simp only [found] at orderly
    cases task with
    | lookup shortCode => exact inv.lookupNewest
    | lookupInfo c expiresAt => exact inv.lookupInfo
    | approve owner body => exact inv.approveCompare orderly
    | countAttempt c => exact inv.countAttempt orderly ok
    | approveUpdate owner body => exact inv.approveUpdate orderly
    | approveClassify codeDigest => exact inv.approveClassify
    | claim c text => exact inv.claimSelect
    | claimBegin c text checkedAt => exact inv.claimBegin ok
    | claimDeliver c text checkedAt began => exact inv.claimDeliver separates ok orderly
    | claimAnswer h => exact inv.claimAnswer found

theorem Inv.step (separates : Function.Injective digest) {i : PairingEnv × PairingInput}
    (inv : Inv digest s) (orderly : s.orderly digest i) : Inv digest (s.step digest i) := by
  obtain ⟨env, input⟩ := i
  cases input with
  | register body =>
    simp only [Pairing.step, Pairing.register]
    split_ifs
    · exact inv.tell _
    · exact (inv.register ⟨none, _, _, _, _, 0, _, none, none, none, _⟩
        (r := ⟨trim body.challenge, env.database + pairingTtl⟩) rfl rfl rfl).tell _
    · exact inv.tell _
  | request id call =>
    simp only [Pairing.step]
    split
    · exact inv
    · cases call <;> exact inv.go trivial
  | advance id => exact inv.advance separates orderly
  | cancel c owner =>
    simp only [Pairing.step, Pairing.cancel]
    split
    · exact inv.tell _
    · split
      case h_1 => exact inv.tell _
      case h_2 row kept =>
        obtain ⟨found, holds⟩ := Option.filter_eq_some_iff.mp kept
        simp only [Bool.and_eq_true, Option.isNone_iff_eq_none] at holds
        exact (inv.cancel found holds.2).tell _
  | cleanup =>
    simp only [Pairing.step, Pairing.cleanup]
    split
    · exact inv.drop _
    · exact inv

/-! ## Wrong codes -/

theorem lookupNewest_approvals (shortCode : String) :
    (s.lookupNewest digest env id shortCode).approvals = s.approvals := by
  unfold lookupNewest
  repeat' split
  all_goals rfl

theorem lookupInfo_approvals (expiresAt : Nat) :
    (s.lookupInfo env id challengeId expiresAt).approvals = s.approvals := by
  unfold lookupInfo
  repeat' split
  all_goals rfl

theorem approveCompare_approvals (owner : Uuid) (body : ApproveBody) :
    (s.approveCompare digest env id owner body).approvals = s.approvals := by
  unfold approveCompare
  repeat' split
  all_goals rfl

theorem countAttempt_approvals :
    (s.countAttempt env id challengeId).approvals = s.approvals := by
  unfold countAttempt
  dsimp only
  split <;> rfl

theorem approveClassify_approvals (codeDigest : String) :
    (s.approveClassify env id codeDigest).approvals = s.approvals := by
  unfold approveClassify
  repeat' split
  all_goals rfl

theorem claimSelect_approvals :
    (s.claimSelect digest env id challengeId challenge).approvals = s.approvals := by
  unfold claimSelect
  repeat' split
  all_goals rfl

theorem claimBegin_approvals (checkedAt : Nat) :
    (s.claimBegin env id challengeId challenge checkedAt).approvals = s.approvals := by
  unfold claimBegin
  split <;> rfl

theorem claimDeliver_approvals (checkedAt began : Nat) :
    (s.claimDeliver digest env id challengeId challenge checkedAt began).approvals =
      s.approvals := by
  unfold claimDeliver
  dsimp only
  repeat' split
  all_goals rfl

/-- The update approves a row whose attempts are not exhausted. -/
theorem approveUpdate_approvals {owner : Uuid} {body : ApproveBody} {a : Approval}
    (member : a ∈ (s.approveUpdate digest env id owner body).approvals) :
    a ∈ s.approvals ∨ ∃ row, s.challenges.get? a.challengeId = some row ∧
      row.attemptCount < pairingMaxAttempts := by
  unfold approveUpdate at member
  split at member
  case isTrue => exact .inl member
  case isFalse =>
    split at member
    case h_1 => exact .inl member
    case h_2 c first =>
      rcases List.mem_append.mp member with old | new
      · exact .inl old
      · obtain ⟨row, there, holds⟩ := mem_newestFirst (List.mem_of_mem_head? first)
        simp only [approvable, Bool.and_eq_true, decide_eq_true_eq] at holds
        exact .inr ⟨row, List.mem_singleton.mp new ▸ there, holds.2⟩

/-- The only step that approves is the approving update. -/
theorem approvals_step {a : Approval} {i : PairingEnv × PairingInput}
    (member : a ∈ (s.step digest i).approvals) :
    a ∈ s.approvals ∨ ∃ row, s.challenges.get? a.challengeId = some row ∧
      row.attemptCount < pairingMaxAttempts := by
  obtain ⟨env, input⟩ := i
  cases input with
  | register body =>
    left
    simp only [step, register] at member
    split_ifs at member <;> exact member
  | request id call =>
    left
    simp only [step] at member
    split at member <;> exact member
  | advance id =>
    simp only [step, advance] at member
    split at member
    · exact .inl member
    · exact .inl (lookupNewest_approvals _ ▸ member)
    · exact .inl (lookupInfo_approvals _ ▸ member)
    · exact .inl (approveCompare_approvals _ _ ▸ member)
    · exact .inl (countAttempt_approvals ▸ member)
    · exact approveUpdate_approvals member
    · exact .inl (approveClassify_approvals _ ▸ member)
    · exact .inl (claimSelect_approvals ▸ member)
    · exact .inl (claimBegin_approvals _ ▸ member)
    · exact .inl (claimDeliver_approvals _ _ ▸ member)
    · exact .inl member
  | cancel c owner =>
    left
    simp only [step, cancel] at member
    split at member
    · exact member
    · split at member <;> exact member
  | cleanup =>
    left
    simp only [step, cleanup] at member
    split at member <;> exact member

theorem Inv.locksOut (inv : Inv digest s) (i : PairingEnv × PairingInput) :
    LocksOut digest s i := by
  intro c exhausted a member same
  rcases approvals_step member with old | ⟨row, found, open_⟩
  · exact old
  · have counted := (inv.rows _ row found).counted
    rw [same] at counted
    omega

/-! ## Every orderly run is safe -/

theorem pairing_safe (separates : Function.Injective digest)
    (inputs : List (PairingEnv × PairingInput))
    (orderly : Along (step digest) (fun s i => s.orderly digest i = true) {} inputs) :
    Along (step digest) (fun s i => LocksOut digest s i ∧ Safe digest (s.step digest i)) {}
      inputs :=
  Along.of_invariant (fun _ _ inv orderly => inv.step separates orderly)
    (fun _ i inv orderly => ⟨inv.locksOut i, (inv.step separates orderly).safe⟩) Inv.init orderly

/-! ## A pairing, a coinciding code and a cancelled challenge -/

/-- The environment of the samples: second `now`, with the rows 0 and 1. -/
def sampleEnv (now : Nat) : PairingEnv where
  process := now
  database := now
  dbOk := true
  commit := .committed
  scan := [0, 1]
  shortCode := "123456"
  credential := "credential"

def sampleBody (challenge : String) : RegisterBody :=
  ⟨challenge, "MacBook", "macos", "arm64", "1.0.0"⟩

def firstSecret : String := "AAAAAAAAAAAAAAAAAAAAAAAAAAAAAAAAAAAAAAAAAAA"

def secondSecret : String := "BBBBBBBBBBBBBBBBBBBBBBBBBBBBBBBBBBBBBBBBBBB"

/-- Challenge 0 is registered, looked up and approved under its id. -/
def approvedFirst : List (PairingEnv × PairingInput) :=
  [(sampleEnv 0, .register (sampleBody firstSecret)), (sampleEnv 1, .request 0 (.lookup "123456")),
    (sampleEnv 1, .advance 0), (sampleEnv 1, .advance 0),
    (sampleEnv 2, .request 1 (.approve default ⟨"123456", some 0⟩)), (sampleEnv 2, .advance 1),
    (sampleEnv 2, .advance 1)]

/-- The Bridge claims challenge 0. -/
def claimsFirst : List (PairingEnv × PairingInput) :=
  [(sampleEnv 3, .request 2 (.claim 0 firstSecret)), (sampleEnv 3, .advance 2),
    (sampleEnv 3, .advance 2), (sampleEnv 3, .advance 2), (sampleEnv 3, .advance 2)]

/-- A digest without collisions. -/
def plain (text : String) : String := text

theorem pairing_safe_claimed :
    Along (step plain) (fun s i => s.orderly plain i = true) {} (approvedFirst ++ claimsFirst) ∧
      Along (step plain) (fun s i => LocksOut plain s i ∧ Safe plain (s.step plain i)) {}
        (approvedFirst ++ claimsFirst) ∧
      (run plain (approvedFirst ++ claimsFirst)).handouts =
        [⟨0, firstSecret, 3, 3, 0, "credential"⟩] := by
  have orderly : Along (step plain) (fun s i => s.orderly plain i = true) {}
      (approvedFirst ++ claimsFirst) := by decide +kernel
  exact ⟨orderly, pairing_safe (fun _ _ same => same) _ orderly, by decide +kernel⟩

/-- Between the lookup and the approval another Bridge registers a challenge with
the same code. -/
def coinciding : List (PairingEnv × PairingInput) :=
  approvedFirst.take 4 ++ (sampleEnv 1, .register (sampleBody secondSecret)) :: approvedFirst.drop 4

/-- The owner cancels the approved challenge before the Bridge claims it. -/
def cancelledFirst : List (PairingEnv × PairingInput) :=
  approvedFirst ++ (sampleEnv 2, .cancel 0 default) :: claimsFirst

/-- The approval that names challenge 0 approves challenge 1, and the credential of a
cancelled challenge is handed out. -/
theorem coinciding_code_approved_and_cancelled_delivered :
    (¬ Along (step plain) (fun s i => LocksOut plain s i ∧ Safe plain (s.step plain i)) {}
        coinciding) ∧
      ¬ Along (step plain) (fun s i => LocksOut plain s i ∧ Safe plain (s.step plain i)) {}
        cancelledFirst := by
  have reached {inputs : List (PairingEnv × PairingInput)}
      (along : Along (step plain)
        (fun s i => LocksOut plain s i ∧ Safe plain (s.step plain i)) {} inputs) :
      Safe plain (run plain inputs) :=
    Along.reached (fun _ _ _ now => now.2) Inv.init.safe along
  constructor
  · intro along
    have named := (reached along).approvesNamed ⟨1, default, some 0⟩ (by decide +kernel) 0 rfl
    exact absurd named (by decide)
  · intro along
    exact (reached along).cancelled ⟨0, firstSecret, 3, 3, 0, "credential"⟩ (by decide +kernel)
      (by decide +kernel)

end Pairing

end AgentConsole.Relay
