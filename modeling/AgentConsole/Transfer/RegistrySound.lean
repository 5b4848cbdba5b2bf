import AgentConsole.Transfer.Registry

/-! # Soundness of the registry

An entry evolves: its terminal flag stays, its one-shot ends are taken out one by one.
Each waiting handler relies on something it has put into the entry or read from it (`Ok`),
and no other handler takes that away.  From both follow the properties of the registry as
a whole. -/

namespace AgentConsole.Transfer

open AgentConsole.Lib
open AgentConsole.Relay (Uuid)
open AgentConsole.Bridge (StableErrorCode)

/-! ## Entries -/

namespace Entry

structure Sound (t : Entry) : Prop where
  slots : t.slots.Nodup
  taken : t.taken.Nodup
  apart : ∀ slot ∈ t.taken, slot ∉ t.slots
  ended : t.ended = if t.terminal then 1 else 0
  signal : t.cancelSignal = true → t.terminal = true
  unput : .consumerRx ∈ t.slots → t.putter = none
  waiting : t.putter = none → .resultRx ∈ t.slots

/-- What a step of `task` may do to an entry. -/
structure Evolves (task : Nat) (t t' : Entry) : Prop where
  info : t'.info = t.info
  creator : t'.creator = t.creator
  terminal : t.terminal = true → t'.terminal = true
  putter : ∀ u, t.putter = some u → t'.putter = some u
  producerRx : t.creator ≠ task → .producerRx ∈ t.slots → .producerRx ∈ t'.slots
  resultRx : ∀ u ≠ task, t.putter = some u → .resultRx ∈ t.slots → .resultRx ∈ t'.slots
  sound : t'.Sound

variable {t : Entry} {task : Nat} {slot : Slot}

theorem mem_take {other : Slot} (sound : t.Sound) :
    other ∈ (t.take slot).slots ↔ other ≠ slot ∧ other ∈ t.slots := by
  unfold take
  split
  · exact sound.slots.mem_erase_iff
  · next absent =>
    exact ⟨fun member => ⟨fun same => absent (same ▸ member), member⟩, fun both => both.2⟩

@[simp] theorem take_terminal : (t.take slot).terminal = t.terminal := by
  unfold take; split <;> rfl

@[simp] theorem take_putter : (t.take slot).putter = t.putter := by
  unfold take; split <;> rfl

@[simp] theorem take_info : (t.take slot).info = t.info := by
  unfold take; split <;> rfl

@[simp] theorem take_creator : (t.take slot).creator = t.creator := by
  unfold take; split <;> rfl

@[simp] theorem take_ended : (t.take slot).ended = t.ended := by
  unfold take; split <;> rfl

@[simp] theorem take_cancelSignal : (t.take slot).cancelSignal = t.cancelSignal := by
  unfold take; split <;> rfl

theorem Sound.take (sound : t.Sound) (kept : t.putter = none → slot ≠ .resultRx) :
    (t.take slot).Sound where
  slots := by
    unfold Entry.take
    split
    · exact sound.slots.erase slot
    · exact sound.slots
  taken := by
    unfold Entry.take
    split
    · next there =>
      exact List.Nodup.append sound.taken (by simp)
        (by simpa using fun already => sound.apart slot already there)
    · exact sound.taken
  apart := by
    intro other member
    rw [mem_take sound]
    unfold Entry.take at member
    split at member
    · rcases List.mem_append.mp member with old | new
      · exact fun inside => sound.apart other old inside.2
      · exact fun inside => inside.1 (by simpa using new)
    · exact fun inside => sound.apart other member inside.2
  ended := by simpa using sound.ended
  signal := by simpa using sound.signal
  unput := by
    rw [mem_take sound]
    simpa using fun _ => sound.unput
  waiting := by
    intro unput
    rw [take_putter] at unput
    rw [mem_take sound]
    exact ⟨(kept unput).symm, sound.waiting unput⟩

/-- Taking an end that no handler of another task relies on. -/
theorem Sound.evolves_take (sound : t.Sound) (producer : slot = .producerRx → t.creator = task)
    (result : slot = .resultRx → t.putter = some task) : Evolves task t (t.take slot) where
  info := take_info
  creator := take_creator
  terminal := by simp
  putter := by simp
  producerRx := fun other there => (mem_take sound).mpr
    ⟨fun same => other (producer same.symm), there⟩
  resultRx := fun u other put there => (mem_take sound).mpr
    ⟨fun same => other (Option.some.inj (put.symm.trans (result same.symm))), there⟩
  sound := sound.take fun unput same => by simp [unput] at result; exact result same

theorem Sound.evolves_refl (sound : t.Sound) : Evolves task t t :=
  ⟨rfl, rfl, id, fun _ => id, fun _ => id, fun _ _ _ => id, sound⟩

theorem Evolves.trans {t' t'' : Entry} (first : Evolves task t t') (second : Evolves task t' t'') :
    Evolves task t t'' where
  info := second.info.trans first.info
  creator := second.creator.trans first.creator
  terminal := fun terminal => second.terminal (first.terminal terminal)
  putter := fun u put => second.putter u (first.putter u put)
  producerRx := fun other there =>
    second.producerRx (first.creator ▸ other) (first.producerRx other there)
  resultRx := fun u other put there =>
    second.resultRx u other (first.putter u put) (first.resultRx u other put there)
  sound := second.sound

/-- The fields that decide about soundness. -/
def core (t : Entry) :=
  (t.info, t.creator, t.terminal, t.putter, t.slots, t.taken, t.ended, t.cancelSignal)

theorem Sound.congr {t' : Entry} (sound : t.Sound) (same : t'.core = t.core) : t'.Sound := by
  simp only [core, Prod.mk.injEq] at same
  obtain ⟨-, -, terminal, putter, slots, taken, ended, signal⟩ := same
  constructor
  · exact slots ▸ sound.slots
  · exact taken ▸ sound.taken
  · rw [taken, slots]
    exact sound.apart
  · rw [ended, terminal]
    exact sound.ended
  · rw [signal, terminal]
    exact sound.signal
  · rw [slots, putter]
    exact sound.unput
  · rw [slots, putter]
    exact sound.waiting

theorem Evolves.congr {t' t'' : Entry} (evolves : Evolves task t t') (same : t''.core = t'.core) :
    Evolves task t t'' := by
  have sound := evolves.sound.congr same
  simp only [core, Prod.mk.injEq] at same
  obtain ⟨info, creator, terminal, putter, slots, -⟩ := same
  constructor
  · exact info.trans evolves.info
  · exact creator.trans evolves.creator
  · exact fun ended => terminal.trans (evolves.terminal ended)
  · exact fun u put => putter.trans (evolves.putter u put)
  · exact fun other there => slots ▸ evolves.producerRx other there
  · exact fun u other put there => slots ▸ evolves.resultRx u other put there
  · exact sound

theorem Sound.evolves_finish (sound : t.Sound) : Evolves task t t.finish where
  info := rfl
  creator := rfl
  terminal := fun _ => rfl
  putter := fun _ => id
  producerRx := fun _ => id
  resultRx := fun _ _ _ => id
  sound := {
    slots := sound.slots
    taken := sound.taken
    apart := sound.apart
    ended := by
      have ended := sound.ended
      cases terminal : t.terminal <;> simp_all [finish]
    signal := fun _ => rfl
    unput := sound.unput
    waiting := sound.waiting }

theorem Sound.evolves_complete (sound : t.Sound) : Evolves task t t.complete :=
  sound.evolves_finish.congr rfl

theorem Sound.evolves_sendResult (sound : t.Sound) (outcome : TransferOutcome) :
    Evolves task t (t.sendResult outcome) := by
  unfold sendResult
  split
  · exact (sound.evolves_take (by simp) (by simp)).congr rfl
  · exact sound.evolves_refl

theorem Sound.evolves_cancel (sound : t.Sound) (code : StableErrorCode) :
    Evolves task t (t.cancel code) := by
  unfold cancel
  split
  · exact sound.evolves_refl
  · have finished : Evolves task t t.finish := sound.evolves_finish
    have sent := finished.trans (finished.sound.evolves_sendResult .cancelled)
    have terminal : (t.finish.sendResult .cancelled).terminal = true := by
      unfold sendResult
      split <;> simp [finish]
    -- the signal is given where the entry is terminal
    exact {
      info := sent.info
      creator := sent.creator
      terminal := sent.terminal
      putter := sent.putter
      producerRx := sent.producerRx
      resultRx := sent.resultRx
      sound := { sent.sound with signal := fun _ => terminal } }

theorem cancel_terminal (t : Entry) (code : StableErrorCode) : (t.cancel code).terminal = true := by
  unfold cancel
  split
  · assumption
  · unfold sendResult
    split <;> simp [finish]

theorem Sound.evolves_setProducer (sound : t.Sound) : Evolves task t t.setProducer.1 := by
  unfold setProducer
  split
  · exact sound.evolves_refl
  · split
    · exact (sound.evolves_take (by simp) (by simp)).congr rfl
    · exact sound.evolves_refl

theorem Sound.evolves_setConsumer (sound : t.Sound) : Evolves task t t.setConsumer.1 := by
  unfold setConsumer
  split
  · exact sound.evolves_refl
  · split
    · exact (sound.evolves_take (by simp) (by simp)).congr rfl
    · exact sound.evolves_refl

/-- The PUT that takes the consumer's receiver is the only one that will. -/
theorem Sound.evolves_put (sound : t.Sound) (there : .consumerRx ∈ t.slots) :
    Evolves task t { t.take .consumerRx with putter := some task } := by
  have unput := sound.unput there
  have taken : Evolves task t (t.take .consumerRx) := sound.evolves_take (by simp) (by simp)
  exact {
    info := taken.info
    creator := taken.creator
    terminal := taken.terminal
    putter := fun u put => by simp [unput] at put
    producerRx := taken.producerRx
    resultRx := fun u _ put => by simp [unput] at put
    sound := { taken.sound with
      unput := fun member => absurd rfl ((mem_take sound).mp member).1
      waiting := fun waits => by simp at waits } }

end Entry

namespace Registry

variable {s s' : Registry} {task : Nat}

/-! ## What a handler relies on -/

theorem isTerminal_iff {id : TransferId} :
    s.isTerminal id = true ↔ ∃ t, s.heap.get? id = some t ∧ t.terminal = true := by
  unfold isTerminal
  cases s.heap.get? id <;> simp

/-- What is true of the entry, the notices and the notifications while `task` goes on with
the job. -/
def Ok (s : Registry) (task : Nat) : Job → Prop
  | .offer id true | .takeProducer id =>
    ∃ t, s.heap.get? id = some t ∧ t.creator = task ∧ .producerRx ∈ t.slots
  | .awaitConsumer id | .pumping id _ | .takeResult id =>
    ∃ t, s.heap.get? id = some t ∧ t.putter = some task ∧ .resultRx ∈ t.slots
  | .removing id | .cancelling id _ true | .sweepCancel id true _ => s.isTerminal id = true
  | .notifying id | .sweepNotify id _ =>
    s.isTerminal id = true ∧ s.notices.get? id = some task ∧ id ∉ s.notified
  | _ => True

/-- What a step of `task` leaves to the other handlers. -/
structure Grows (task : Nat) (s s' : Registry) : Prop where
  heap : ∀ id t, s.heap.get? id = some t → ∃ t', s'.heap.get? id = some t' ∧ t.Evolves task t'
  notices : ∀ id u, s.notices.get? id = some u → s'.notices.get? id = some u
  notified : ∀ id ∈ s'.notified, id ∈ s.notified ∨ s.notices.get? id = some task

theorem Grows.isTerminal (grows : Grows task s s') {id : TransferId}
    (terminal : s.isTerminal id = true) : s'.isTerminal id = true := by
  obtain ⟨t, found, ended⟩ := isTerminal_iff.mp terminal
  obtain ⟨t', found', evolves⟩ := grows.heap id t found
  exact isTerminal_iff.mpr ⟨t', found', evolves.terminal ended⟩

theorem Grows.ok (grows : Grows task s s') {u : Nat} (other : u ≠ task) {job : Job}
    (ok : s.Ok u job) : s'.Ok u job := by
  unfold Ok at ok ⊢
  split at ok
  case h_1 | h_2 =>
    obtain ⟨t, found, made, there⟩ := ok
    obtain ⟨t', found', evolves⟩ := grows.heap _ t found
    exact ⟨t', found', evolves.creator.trans made, evolves.producerRx (made ▸ other) there⟩
  case h_3 | h_4 | h_5 =>
    obtain ⟨t, found, put, there⟩ := ok
    obtain ⟨t', found', evolves⟩ := grows.heap _ t found
    exact ⟨t', found', evolves.putter u put, evolves.resultRx u other put there⟩
  case h_6 | h_7 | h_8 => exact grows.isTerminal ok
  case h_9 | h_10 =>
    obtain ⟨terminal, notice, unsent⟩ := ok
    refine ⟨grows.isTerminal terminal, grows.notices _ _ notice, fun sent => ?_⟩
    rcases grows.notified _ sent with already | mine
    · exact unsent already
    · exact other (Option.some.inj (notice.symm.trans mine))
  case h_11 => trivial

/-! ## One step -/

/-- The step takes no receiver that is gone, removes only terminal entries, and does not
cancel an entry that another handler has cancelled since it was looked at. -/
def calmStep (s : Registry) : Job → Answer → Bool
  | .takeConsumer id, _ => (s.heap.get? id).all fun t => .consumerRx ∈ t.slots
  | .awaitResult id, .arrived | .awaitResult id, .timeout => s.isTerminal id
  | .cancelling id _ false, _ | .sweepCancel id false _, _ => (s.notices.get? id).isNone
  | .sweep, _ => s.registered.all fun id => !s.expired id || s.isTerminal id
  | _, _ => true

/-- What a move does, and what it may rely on. -/
inductive Effect (s : Registry) (task : Nat) : Move → Prop
  | rests (next : Option Job) (ok : ∀ job ∈ next, s.Ok task job) : Effect s task { next }
  | makes (info : TransferInfo)
      (browser : (s.live (·.owner) info.owner).length < maxConcurrentPerBrowser)
      (device : (s.live (·.device) info.device).length < maxConcurrentPerDevice) :
      Effect s task {
        next := some (.offer s.created (info.direction = .download))
        writes := some (s.created,
          { info := info, expiresAt := s.now + transferTtl, creator := task })
        registers := some s.created }
  | evolves (next : Option Job) (id : TransferId) (t t' : Entry)
      (found : s.heap.get? id = some t) (evolves : t.Evolves task t')
      (ok : ∀ job ∈ next, Ok { s with heap := s.heap.insert id t' } task job) :
      Effect s task { next, writes := some (id, t') }
  | claims (next : Option Job) (id : TransferId) (t t' : Entry)
      (found : s.heap.get? id = some t) (evolves : t.Evolves task t')
      (free : s.notices.get? id = none)
      (ok : ∀ job ∈ next, Ok { s with
        heap := s.heap.insert id t', notices := s.notices.insert id task } task job) :
      Effect s task { next, writes := some (id, t'), claims := some id }
  | notifies (next : Option Job) (id : TransferId) (notice : s.notices.get? id = some task)
      (unsent : id ∉ s.notified) (ok : ∀ job ∈ next, Ok { s with
        notified := s.notified ++ [id] } task job) :
      Effect s task { next, notifies := some id }
  | removes (next : Option Job) (ids : List TransferId)
      (terminal : ∀ id ∈ ids, s.isTerminal id = true) (ok : ∀ job ∈ next, s.Ok task job) :
      Effect s task { next, removes := ids }

/-- The registry between two steps. -/
structure Inv (s : Registry) : Prop where
  entries : ∀ id t, s.heap.get? id = some t → id < s.created ∧ t.Sound
  nodup : s.registered.Nodup
  known : ∀ id ∈ s.registered, id < s.created
  gone : ∀ id t, s.heap.get? id = some t → id ∉ s.registered → t.terminal = true
  jobs : ∀ task job, s.tasks.get? task = some job → s.Ok task job
  notices : ∀ id ∈ s.notified, (s.notices.get? id).isSome
  notified : s.notified.Nodup
  browsers : ∀ who, (s.live (·.owner) who).length ≤ maxConcurrentPerBrowser
  devices : ∀ who, (s.live (·.device) who).length ≤ maxConcurrentPerDevice
  calm : s.panicked = [] ∧ s.poisoned = []

theorem rests_removing {id : TransferId} {t : Entry} {m : Move} (sound : t.Sound) (found : s.heap.get? id = some t)
    (moves : (if t.cancelSignal then some { next := some (.removing id) } else none : Option Move) =
      some m) : Effect s task m := by
  split at moves
  case isTrue signal =>
    cases moves
    refine .rests _ fun job follows => ?_
    cases follows
    exact isTerminal_iff.mpr ⟨t, found, sound.signal signal⟩
  case isFalse => cases moves

theorem isTerminal_insert {id : TransferId} {t' : Entry} (terminal : t'.terminal = true) :
    Registry.isTerminal { s with heap := s.heap.insert id t' } id = true :=
  isTerminal_iff.mpr ⟨t', FiniteMap.get?_insert_self _ _ _, terminal⟩

theorem onEntry_effect (inv : Inv s) {id : TransferId} {t : Entry} {job : Job} {answer : Answer}
    {m : Move} (found : s.heap.get? id = some t) (names : job.entry? = some id)
    (ok : s.Ok task job) (calm : s.calmStep job answer = true)
    (moves : onEntry task id t job answer = some m) : Effect s task m := by
  have sound := (inv.entries id t found).2
  unfold onEntry at moves
  split at moves
  -- `takeProducer`: the receiver is still there for the task that made the entry
  case h_1 id' =>
    cases names
    obtain ⟨t', found', made, there⟩ := ok
    cases found.symm.trans found'
    rw [if_pos there] at moves
    cases moves
    exact .evolves _ id t _ found (sound.evolves_take (fun _ => made) (by simp)) (by simp [Ok])
  case h_2 | h_6 | h_9 | h_16 => exact rests_removing sound found moves
  case h_3 =>
    split at moves <;> cases moves
    exact .rests none (by simp)
  case h_4 | h_8 | h_10 | h_11 | h_13 | h_21 | h_22 | h_23 | h_24 =>
    cases moves
    exact .rests _ (by simp [Ok])
  -- `takeConsumer`: no other PUT has been here
  case h_5 id' =>
    cases names
    have there : Slot.consumerRx ∈ t.slots := by simpa [calmStep, found] using calm
    rw [if_pos there] at moves
    cases moves
    refine .evolves _ id t _ found (sound.evolves_put there) fun job follows => ?_
    cases follows
    refine ⟨_, FiniteMap.get?_insert_self _ _ _, rfl, ?_⟩
    exact (Entry.mem_take sound).mpr ⟨by simp, sound.waiting (sound.unput there)⟩
  case h_7 id' =>
    cases names
    split at moves <;> cases moves
    exact .rests _ fun job follows => by cases follows; exact ok
  case h_12 id' transferred length =>
    cases names
    split at moves <;> cases moves
    · exact .rests _ (by simp [Ok])
    · exact .rests _ fun job follows => by cases follows; exact ok
  case h_14 id' transferred =>
    cases names
    cases moves
    exact .rests _ fun job follows => by cases follows; exact ok
  -- `takeResult`: only this PUT takes the result's receiver
  case h_15 id' =>
    cases names
    obtain ⟨t', found', put, there⟩ := ok
    cases found.symm.trans found'
    rw [if_pos there] at moves
    cases moves
    exact .evolves _ id t _ found (sound.evolves_take (by simp) fun _ => put) (by simp [Ok])
  case h_17 id' =>
    cases names
    split at moves <;> cases moves
    exact .rests _ fun job follows => by cases follows; exact calm
  case h_18 id' =>
    cases names
    cases moves
    exact .rests _ fun job follows => by cases follows; exact calm
  case h_19 =>
    cases moves
    refine .evolves _ id t _ found sound.evolves_setProducer fun job follows => ?_
    split at follows <;> cases follows
    trivial
  case h_20 =>
    cases moves
    exact .evolves _ id t _ found (sound.evolves_refl.congr rfl) (by simp [Ok])
  case h_25 =>
    split at moves <;> cases moves
    exact .rests _ (by simp [Ok])
  case h_26 =>
    cases moves
    refine .evolves _ id t _ found sound.evolves_complete fun job follows => ?_
    cases follows
    exact isTerminal_insert rfl
  case h_27 =>
    cases moves
    exact .evolves none id t _ found sound.evolves_setConsumer (by simp)
  case h_28 id' rejection =>
    cases moves
    exact .evolves none id t _ found (sound.evolves_cancel rejection) (by simp)
  case h_29 id' outcome =>
    cases moves
    exact .evolves _ id t _ found (sound.evolves_sendResult outcome) (by simp [Ok])
  case h_30 =>
    cases moves
    exact .evolves none id t _ found sound.evolves_complete (by simp)
  case h_31 id' code =>
    cases moves
    refine .rests _ fun job follows => ?_
    cases follows
    cases terminal : t.terminal with
    | true => exact isTerminal_iff.mpr ⟨t, found, terminal⟩
    | false => trivial
  case h_32 id' code already =>
    cases names
    cases moves
    cases already with
    | true =>
      refine .evolves _ id t _ found (sound.evolves_cancel code) fun job follows => ?_
      cases follows
      exact isTerminal_insert (Entry.cancel_terminal t code)
    | false =>
      have free : s.notices.get? id = none := by simpa [calmStep] using calm
      refine .claims _ id t _ found (sound.evolves_cancel code) free fun job follows => ?_
      cases follows
      refine ⟨isTerminal_insert (Entry.cancel_terminal t code),
        FiniteMap.get?_insert_self _ _ _, fun sent => ?_⟩
      simpa [free] using inv.notices id sent
  case h_33 id' rest =>
    cases names
    cases moves
    refine .rests _ fun job follows => ?_
    cases follows
    cases terminal : t.terminal with
    | true => exact isTerminal_iff.mpr ⟨t, found, terminal⟩
    | false => trivial
  case h_34 id' already rest =>
    cases names
    cases moves
    cases already with
    | true => exact .evolves _ id t _ found (sound.evolves_cancel _) (by simp [Ok])
    | false =>
      have free : s.notices.get? id = none := by simpa [calmStep] using calm
      refine .claims _ id t _ found (sound.evolves_cancel _) free fun job follows => ?_
      cases follows
      refine ⟨isTerminal_insert (Entry.cancel_terminal t _),
        FiniteMap.get?_insert_self _ _ _, fun sent => ?_⟩
      simpa [free] using inv.notices id sent
  case h_35 => cases moves

theorem mem_live {field : TransferInfo → Uuid} {who : Uuid} {id : TransferId} :
    id ∈ s.live field who ↔ id ∈ s.registered ∧
      ∃ t, s.heap.get? id = some t ∧ t.terminal = false ∧ field t.info = who := by
  unfold live
  rw [List.mem_filter]
  cases s.heap.get? id <;> simp

theorem create_effect (inv : Inv s) (info : TransferInfo) : Effect s task (s.create task info) := by
  unfold create
  split
  case isTrue poisoned => simp [inv.calm.2] at poisoned
  case isFalse =>
    split
    case isTrue => exact .rests none (by simp)
    case isFalse browser =>
      split
      case isTrue => exact .rests none (by simp)
      case isFalse device => exact .makes info (by omega) (by omega)

/-- A handler that looks an entry up goes on with a job that relies on nothing. -/
theorem rests_of_find {found : Option Entry} {go : Entry → Option Move} {m : Move}
    (moves : (match found with
      | none => some {}
      | some t => go t) = some m)
    (goes : ∀ t, go t = some m → ∃ next, m = { next } ∧ ∀ job ∈ next, s.Ok task job) :
    Effect s task m := by
  cases found with
  | none =>
    cases moves
    exact .rests none (by simp)
  | some t =>
    obtain ⟨next, rfl, ok⟩ := goes t moves
    exact .rests next ok

theorem move_effect (inv : Inv s) {job : Job} {answer : Answer} {m : Move} (ok : s.Ok task job)
    (calm : s.calmStep job answer = true) (moves : s.move task job answer = some m) :
    Effect s task m := by
  unfold move at moves
  split at moves
  case h_1 info =>
    cases moves
    exact create_effect inv info
  case h_2 id download sent =>
    cases sent with
    | false =>
      cases moves
      exact .rests _ (by simp [Ok])
    | true =>
      cases moves
      refine .rests _ fun job follows => ?_
      cases download with
      | false => cases follows
      | true =>
        cases follows
        exact ok
  case h_3 | h_4 | h_5 =>
    refine rests_of_find moves fun t goes => ?_
    split at goes
    · exact ⟨none, (Option.some.inj goes).symm, by simp⟩
    · split at goes
      · exact ⟨_, (Option.some.inj goes).symm, by simp [Ok]⟩
      · exact ⟨_, (Option.some.inj goes).symm, by simp [Ok]⟩
  case h_6 | h_7 =>
    refine rests_of_find moves fun t goes => ?_
    split at goes
    · exact ⟨none, (Option.some.inj goes).symm, by simp⟩
    · exact ⟨_, (Option.some.inj goes).symm, by simp [Ok]⟩
  case h_8 => exact rests_of_find moves fun t goes => ⟨_, (Option.some.inj goes).symm, by simp [Ok]⟩
  case h_9 id =>
    cases moves
    obtain ⟨terminal, notice, unsent⟩ := ok
    refine .notifies _ id notice unsent fun job follows => ?_
    cases follows
    exact terminal
  case h_10 id =>
    cases moves
    refine .removes none [id] (fun id' member => ?_) (by simp)
    cases List.mem_singleton.mp member
    exact ok
  -- `sweep`: whatever has expired has ended before
  case h_11 =>
    cases moves
    refine .removes _ _ (fun id member => ?_) (by simp [Ok])
    obtain ⟨known, expired⟩ := List.mem_filter.mp member
    have ended := List.all_eq_true.mp calm id known
    simpa [expired] using ended
  case h_12 =>
    cases moves
    exact .rests none (by simp)
  case h_13 id rest =>
    cases moves
    obtain ⟨terminal, notice, unsent⟩ := ok
    exact .notifies _ id notice unsent (by simp [Ok])
  case h_14 =>
    split at moves
    case h_1 => cases moves
    case h_2 id names =>
      split at moves
      case h_1 => cases moves
      case h_2 t found => exact onEntry_effect inv found names ok calm moves

/-! ## The invariant -/

@[simp] theorem perform_tasks (s : Registry) (task : Nat) (lock : Lock) (m : Move) (u : Nat) :
    (s.perform task lock m).tasks.get? u = if u = task then m.next else s.tasks.get? u := by
  simp only [perform]
  cases m.next with
  | none => rw [FiniteMap.get?_erase]
  | some job => rw [FiniteMap.get?_insert]

variable {lock : Lock} {m : Move}

theorem grows_of_effect (inv : Inv s) (effect : Effect s task m) :
    Grows task s (s.perform task lock m) := by
  have refl : ∀ id t, s.heap.get? id = some t → ∃ t', s.heap.get? id = some t' ∧ t.Evolves task t' :=
    fun id t found => ⟨t, found, (inv.entries id t found).2.evolves_refl⟩
  have insert : ∀ id t t', s.heap.get? id = some t → t.Evolves task t' →
      ∀ other u, s.heap.get? other = some u →
        ∃ u', (s.heap.insert id t').get? other = some u' ∧ u.Evolves task u' := by
    intro id t t' found evolves other u found'
    rw [FiniteMap.get?_insert]
    split
    case isTrue same =>
      subst same
      cases found.symm.trans found'
      exact ⟨t', rfl, evolves⟩
    case isFalse => exact refl other u found'
  have silent : ∀ id ∈ s.notified ++ [], id ∈ s.notified ∨ s.notices.get? id = some task :=
    fun id sent => .inl (List.append_nil s.notified ▸ sent)
  cases effect with
  | rests next ok => exact ⟨refl, fun _ _ notice => notice, silent⟩
  | makes info browser device =>
    refine ⟨fun id t found => ?_, fun _ _ notice => notice, silent⟩
    have old := (inv.entries id t found).1
    simp only [perform]
    rw [FiniteMap.get?_insert, if_neg (Nat.ne_of_lt old)]
    exact refl id t found
  | evolves next id t t' found evolves ok =>
    exact ⟨insert id t t' found evolves, fun _ _ notice => notice, silent⟩
  | claims next id t t' found evolves free ok =>
    refine ⟨insert id t t' found evolves, fun other u notice => ?_, silent⟩
    simp only [perform]
    rw [FiniteMap.get?_insert, if_neg]
    · exact notice
    · rintro rfl
      simp [free] at notice
  | notifies next id notice unsent ok =>
    refine ⟨refl, fun _ _ notice => notice, fun other sent => ?_⟩
    simp only [perform, Option.toList_some, List.mem_append, List.mem_singleton] at sent
    rcases sent with old | rfl
    · exact .inl old
    · exact .inr notice
  | removes next ids terminal ok => exact ⟨refl, fun _ _ notice => notice, silent⟩

theorem Ok.congr {job : Job} (ok : s.Ok task job) (heap : s'.heap = s.heap)
    (notices : s'.notices = s.notices) (notified : s'.notified = s.notified) :
    s'.Ok task job := by
  unfold Ok isTerminal at ok ⊢
  rwa [heap, notices, notified]

theorem next_ok (effect : Effect s task m) {job : Job} (follows : m.next = some job) :
    (s.perform task lock m).Ok task job := by
  cases effect with
  | rests next ok | removes next ids terminal ok =>
    exact (ok job follows).congr rfl rfl (List.append_nil _)
  | evolves next id t t' found evolves ok =>
    exact (ok job follows).congr rfl rfl (List.append_nil _)
  | claims next id t t' found evolves free ok =>
    exact (ok job follows).congr rfl rfl (List.append_nil _)
  | notifies next id notice unsent ok => exact (ok job follows).congr rfl rfl rfl
  | makes info browser device =>
    cases follows
    by_cases download : info.direction = .download
    · simp only [download, decide_true]
      exact ⟨_, FiniteMap.get?_insert_self _ _ _, rfl, by simp⟩
    · simp [download, Ok]

/-- Fewer entries, and no entry back alive, make no longer list of live ones. -/
theorem live_length_le {field : TransferInfo → Uuid} {who : Uuid}
    (fewer : s'.registered.Sublist s.registered)
    (ended : ∀ id t', s'.heap.get? id = some t' → t'.terminal = false →
      ∃ t, s.heap.get? id = some t ∧ t.terminal = false ∧ t.info = t'.info) :
    (s'.live field who).length ≤ (s.live field who).length := by
  refine ((fewer.filter _).trans (List.monotone_filter_right _ fun id alive => ?_)).length_le
  cases found : s'.heap.get? id with
  | none => simp [found] at alive
  | some t' =>
    simp only [found, Option.any_some, Bool.and_eq_true, Bool.not_eq_eq_eq_not, Bool.not_true,
      decide_eq_true_eq] at alive
    obtain ⟨t, found', alive', same⟩ := ended id t' found alive.1
    simp [found', alive', same, alive.2]

/-- A step keeps the number of live transfers of `who` within a bound that `create`
checks. -/
theorem live_le (inv : Inv s) (effect : Effect s task m) (field : TransferInfo → Uuid)
    (bound : Nat) (within : ∀ who, (s.live field who).length ≤ bound)
    (room : ∀ info, (s.live (·.owner) info.owner).length < maxConcurrentPerBrowser →
      (s.live (·.device) info.device).length < maxConcurrentPerDevice →
      (s.live field (field info)).length < bound) (who : Uuid) :
    ((s.perform task lock m).live field who).length ≤ bound := by
  have same : ∀ id t', s.heap.get? id = some t' → t'.terminal = false →
      ∃ t, s.heap.get? id = some t ∧ t.terminal = false ∧ t.info = t'.info :=
    fun id t' found alive => ⟨t', found, alive, rfl⟩
  have insert : ∀ id t t', s.heap.get? id = some t → t.Evolves task t' →
      ∀ other u', (s.heap.insert id t').get? other = some u' → u'.terminal = false →
        ∃ u, s.heap.get? other = some u ∧ u.terminal = false ∧ u.info = u'.info := by
    intro id t t' found evolves other u' found' alive
    rw [FiniteMap.get?_insert] at found'
    split at found'
    case isTrue here =>
      cases found'
      refine ⟨t, here ▸ found, ?_, evolves.info.symm⟩
      by_contra ended
      simp [evolves.terminal (by simpa using ended)] at alive
    case isFalse => exact same other u' found' alive
  cases effect with
  | rests next ok | notifies next id notice unsent ok =>
    exact le_trans (live_length_le (by simp [perform]) same) (within who)
  | evolves next id t t' found evolves ok | claims next id t t' found evolves free ok =>
    exact le_trans (live_length_le (by simp [perform]) (insert id t t' found evolves)) (within who)
  | removes next ids terminal ok =>
    refine le_trans (live_length_le ?_ same) (within who)
    simp only [perform, Option.toList_none, List.append_nil]
    exact List.filter_sublist
  | makes info browser device =>
    have new : ∀ id ∈ s.registered, id ≠ s.created := fun id known =>
      Nat.ne_of_lt (inv.known id known)
    have old : (s.registered.filter fun id => ((s.heap.insert s.created
          { info := info, expiresAt := s.now + transferTtl, creator := task }).get? id).any
            fun t => !t.terminal && field t.info = who) = s.live field who := by
      refine List.filter_congr fun id known => ?_
      rw [FiniteMap.get?_insert, if_neg (new id known)]
    simp only [live, perform, Option.toList_some, List.not_mem_nil, not_false_eq_true,
      decide_true, List.filter_true, List.filter_append] at old ⊢
    rw [old]
    by_cases mine : field info = who
    · have fits := room info browser device
      rw [mine] at fits
      simp only [live] at fits
      simp [mine]
      omega
    · simpa [mine, live] using within who

theorem entries_perform (inv : Inv s) (effect : Effect s task m) (id : TransferId) (t : Entry)
    (found : (s.perform task lock m).heap.get? id = some t) :
    id < (s.perform task lock m).created ∧ t.Sound := by
  have insert : ∀ id' u t', s.heap.get? id' = some u → u.Evolves task t' →
      (s.heap.insert id' t').get? id = some t → id < s.created ∧ t.Sound := by
    intro id' u t' found' evolves now
    rw [FiniteMap.get?_insert] at now
    split at now
    case isTrue same =>
      cases now
      exact ⟨same ▸ (inv.entries id' u found').1, evolves.sound⟩
    case isFalse => exact inv.entries id t now
  cases effect with
  | rests next ok | notifies next id' notice unsent ok | removes next ids terminal ok =>
    exact inv.entries id t found
  | evolves next id' u t' found' evolves ok | claims next id' u t' found' evolves free ok =>
    exact insert id' u t' found' evolves found
  | makes info browser device =>
    simp only [perform, FiniteMap.get?_insert] at found ⊢
    split at found
    case isTrue same =>
      cases found
      refine ⟨by simp [same], ?_⟩
      constructor <;> simp
    case isFalse =>
      obtain ⟨old, sound⟩ := inv.entries id t found
      exact ⟨Nat.lt_succ_of_lt old, sound⟩

theorem Inv.perform (inv : Inv s) (effect : Effect s task m) (quiet : m.panics = false) :
    Inv (s.perform task lock m) where
  entries := entries_perform inv effect
  nodup := by
    refine List.Nodup.filter _ (List.Nodup.append inv.nodup ?_ ?_)
    · cases m.registers <;> simp
    · intro id old new
      cases effect with
      | makes info browser device =>
        rw [Option.toList_some, List.mem_singleton] at new
        exact Nat.ne_of_lt (inv.known id old) new
      | _ => cases new
  known := by
    intro id member
    obtain ⟨member, -⟩ := List.mem_filter.mp member
    simp only [Registry.perform]
    rcases List.mem_append.mp member with old | new
    · exact Nat.lt_add_right _ (inv.known id old)
    · cases effect with
      | makes info browser device =>
        rw [Option.toList_some, List.mem_singleton] at new
        simp [new]
      | _ => cases new
  gone := by
    intro id t found gone
    have grows : Grows task s (s.perform task lock m) := grows_of_effect inv effect
    by_cases old : id ∈ s.registered ∨ s.heap.get? id = none
    · cases effect with
      | removes next ids terminal ok =>
        rcases old with known | unknown
        · have removed : id ∈ ids := by
            by_contra stays
            exact gone (by simp [Registry.perform, known, stays])
          obtain ⟨t', found', ended⟩ := isTerminal_iff.mp (terminal id removed)
          cases found.symm.trans found'
          exact ended
        · cases found.symm.trans unknown
      | makes info browser device =>
        exfalso
        refine gone ?_
        simp only [Registry.perform, FiniteMap.get?_insert] at found ⊢
        rcases old with known | unknown
        · simp [known]
        · split at found
          case isTrue same => simp [same]
          case isFalse => cases found.symm.trans unknown
      | rests next ok | notifies next id' notice unsent ok =>
        rcases old with known | unknown
        · exact absurd (by simp [Registry.perform, known]) gone
        · cases found.symm.trans unknown
      | evolves next id' u t' found' evolves ok | claims next id' u t' found' evolves free ok =>
        rcases old with known | unknown
        · exact absurd (by simp [Registry.perform, known]) gone
        · simp only [Registry.perform, FiniteMap.get?_insert] at found
          split at found
          case isTrue same => cases (same ▸ found').symm.trans unknown
          case isFalse => cases found.symm.trans unknown
    · obtain ⟨unregistered, there⟩ := not_or.mp old
      obtain ⟨u, found'⟩ := Option.ne_none_iff_exists'.mp there
      obtain ⟨t', found'', evolves⟩ := grows.heap id u found'
      cases found.symm.trans found''
      exact evolves.terminal (inv.gone id u found' unregistered)
  jobs := by
    intro u job found
    rw [perform_tasks] at found
    split at found
    case isTrue same => exact same ▸ next_ok effect found
    case isFalse other => exact (grows_of_effect inv effect).ok other (inv.jobs u job found)
  notices := by
    intro id sent
    have grows : Grows task s (s.perform task lock m) := grows_of_effect inv effect
    rcases grows.notified id sent with old | mine
    · obtain ⟨u, notice⟩ := Option.isSome_iff_exists.mp (inv.notices id old)
      exact Option.isSome_iff_exists.mpr ⟨u, grows.notices id u notice⟩
    · exact Option.isSome_iff_exists.mpr ⟨task, grows.notices id task mine⟩
  notified := by
    cases effect with
    | notifies next id notice unsent ok =>
      exact List.Nodup.append inv.notified (by simp) (by simpa using unsent)
    | _ => simpa [Registry.perform] using inv.notified
  browsers := live_le inv effect _ _ inv.browsers fun _ browser _ => browser
  devices := live_le inv effect _ _ inv.devices fun _ _ device => device
  calm := by simpa [Registry.perform, quiet] using inv.calm

theorem Inv.init : Inv {} where
  entries := by simp
  nodup := by simp
  known := by simp
  gone := by simp
  jobs := by simp
  notices := by simp
  notified := by simp
  browsers := by simp [live]
  devices := by simp [live]
  calm := ⟨rfl, rfl⟩

/-- The condition of `calmStep` on the handler that takes its step. -/
def calmAt (s : Registry) : Input → Bool
  | .answer task answer => (s.tasks.get? task).all fun job => s.calmStep job answer
  | _ => true

theorem quiet_of_effect (effect : Effect s task m) : m.panics = false := by
  cases effect <;> rfl

/-- Only the tasks change, and each that is left relies on what it did. -/
theorem Inv.of_tasks (inv : Inv s) {tasks : FiniteMap Nat Job} {spawned now : Nat}
    (jobs : ∀ task job, tasks.get? task = some job → s.Ok task job) :
    Inv { s with tasks := tasks, spawned := spawned, now := now } where
  entries := inv.entries
  nodup := inv.nodup
  known := inv.known
  gone := inv.gone
  jobs := fun task job found => (jobs task job found).congr rfl rfl rfl
  notices := inv.notices
  notified := inv.notified
  browsers := inv.browsers
  devices := inv.devices
  calm := inv.calm

theorem Inv.step {i : Input} (inv : Inv s) (calm : s.calmAt i = true) : Inv (s.step i) := by
  have erased : ∀ task u job, (s.tasks.erase task).get? u = some job → s.Ok u job := by
    intro task u job found
    rw [FiniteMap.get?_erase] at found
    split at found
    · cases found
    · exact inv.jobs u job found
  cases i with
  | start job =>
    simp only [Registry.step]
    split
    case isTrue request =>
      refine inv.of_tasks fun u job' found => ?_
      rw [FiniteMap.get?_insert] at found
      split at found
      · cases found
        cases job <;> simp [Job.isRequest, Ok] at request ⊢
      · exact inv.jobs u job' found
    case isFalse => exact inv
  | answer task answer =>
    simp only [Registry.step]
    cases found : s.tasks.get? task with
    | none => exact inv
    | some job =>
      have calm : s.calmStep job answer = true := by simpa [calmAt, found] using calm
      cases moves : s.move task job answer with
      | none => simpa [inv.calm.2, moves] using inv
      | some m =>
        have effect := move_effect inv (inv.jobs task job found) calm moves
        simpa [inv.calm.2, moves] using inv.perform effect (quiet_of_effect effect)
  | dropped task =>
    simp only [Registry.step]
    split
    · exact inv
    · split
      · exact inv.of_tasks (erased task)
      · exact inv
  | tick elapsed => exact inv.of_tasks inv.jobs

/-! ## The properties -/

/-- All transfers that are not terminal and belong to `who`, registered or not. -/
def alive (s : Registry) (field : TransferInfo → Uuid) (who : Uuid) : List TransferId :=
  s.heap.keys.filter fun id => (s.heap.get? id).any fun t => !t.terminal && field t.info = who

/-- No handler has panicked; every end of a channel is taken once; an entry becomes
terminal once and leaves the registry only then; a cancellation is told once; and a
browser and a device have at most two transfers that are not terminal. -/
structure Sound (s : Registry) : Prop where
  calm : s.panicked = [] ∧ s.poisoned = []
  taken : ∀ id, ∀ t ∈ s.heap.get? id, t.taken.Nodup
  ended : ∀ id, ∀ t ∈ s.heap.get? id, t.ended = if t.terminal then 1 else 0
  gone : ∀ id, ∀ t ∈ s.heap.get? id, id ∉ s.registered → t.terminal = true
  told : ∀ id, s.notified.count id ≤ 1
  browsers : ∀ who, (s.alive (·.owner) who).length ≤ maxConcurrentPerBrowser
  devices : ∀ who, (s.alive (·.device) who).length ≤ maxConcurrentPerDevice

theorem alive_length_le (inv : Inv s) (field : TransferInfo → Uuid) (who : Uuid) :
    (s.alive field who).length ≤ (s.live field who).length := by
  have nodup : (s.alive field who).Nodup := List.Nodup.filter _ s.heap.alist.keys_nodup
  refine (nodup.subperm fun id member => ?_).length_le
  obtain ⟨-, lives⟩ := List.mem_filter.mp member
  cases found : s.heap.get? id with
  | none => simp [found] at lives
  | some t =>
    simp only [found, Option.any_some, Bool.and_eq_true, Bool.not_eq_eq_eq_not, Bool.not_true,
      decide_eq_true_eq] at lives
    refine mem_live.mpr ⟨?_, t, found, lives.1, lives.2⟩
    by_contra gone
    simp [inv.gone id t found gone] at lives

theorem Inv.sound (inv : Inv s) : Sound s where
  calm := inv.calm
  taken := fun id t found => (inv.entries id t found).2.taken
  ended := fun id t found => (inv.entries id t found).2.ended
  gone := fun id t found => inv.gone id t found
  told := fun _ => List.nodup_iff_count_le_one.mp inv.notified _
  browsers := fun who => (alive_length_le inv _ who).trans (inv.browsers who)
  devices := fun who => (alive_length_le inv _ who).trans (inv.devices who)

/-- In every run in which each receiver is there when a handler takes it, only terminal
entries are dropped and no two cancellations of one entry overlap, the registry is sound
in every state. -/
theorem registry_sound (inputs : List Input)
    (calm : Along step (fun s i => s.calmAt i = true) {} inputs) :
    Sound (inputs.foldl step {}) :=
  (Along.reached (fun _ _ => Inv.step) Inv.init calm).sound

def sampleUpload : TransferInfo where
  direction := .upload
  owner := .ofLast '1'
  device := .ofLast '2'
  session := .ofLast '3'

/-- The upload is declared and its PUT takes the consumer's receiver. -/
def putOnce : List Input :=
  [.start (.create sampleUpload), .answer 0 .continued, .answer 0 (.offered true),
    .start (.put 0 (.ofLast '1') (.ofLast '3')), .answer 1 .continued, .answer 1 .continued]

/-- The Bridge fetches the body and reports its result. -/
def uploadedOnce : List Input :=
  putOnce ++ [.start (.consume 0 (.ofLast '2')), .answer 2 .continued, .answer 2 .continued,
    .answer 1 .arrived, .answer 1 (.chunk 5), .answer 1 .eof, .answer 1 .continued,
    .start (.result 0 (.ofLast '2') .completed), .answer 3 .continued, .answer 3 .continued,
    .answer 3 .continued, .answer 1 .arrived, .answer 1 .continued]

theorem registry_sound_uploadedOnce :
    (uploadedOnce.foldl step {}).registered = [] ∧ Sound (uploadedOnce.foldl step {}) :=
  ⟨by decide, registry_sound uploadedOnce (by decide)⟩

/-- The browser sends the PUT again, and then another upload is declared. -/
def putTwice : List Input :=
  putOnce ++ [.start (.put 0 (.ofLast '1') (.ofLast '3')), .answer 2 .continued,
    .answer 2 .continued, .start (.create sampleUpload), .answer 3 .continued]

/-- The second PUT panics under the entry's lock, the next `create` under the registry's. -/
theorem second_put_poisons : ¬ Sound (putTwice.foldl step {}) ∧
    (putTwice.foldl step {}).panicked = [2, 3] ∧
    (putTwice.foldl step {}).poisoned = [.registry, .entry 0] := by
  have poisoned : (putTwice.foldl step {}).panicked = [2, 3] ∧
      (putTwice.foldl step {}).poisoned = [.registry, .entry 0] := by decide
  refine ⟨fun sound => ?_, poisoned⟩
  have calm := sound.calm.1
  rw [poisoned.1] at calm
  cases calm

end Registry
end AgentConsole.Transfer
