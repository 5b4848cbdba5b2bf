import AgentConsole.Lib.FiniteMap
import AgentConsole.Lib.Run

/-! # The Bridge's outbound streams

To establish a stream the Bridge takes a new epoch and lets the stream buffer its events, sends
`Subscribed`, asks the adapter for a snapshot, and then sends the snapshot and what was buffered
by then.  Only the first and the last of these are done under the lock, so two establishments of
one stream may overlap.

This is the list stream, or the detail stream of one session.  An establishment is known by its
epoch, and an event by its number among those that the adapter produces for the stream: its
snapshot contains the events produced before it was read.  `sends` counts the frames that were
given to the queue; `room` says which of them it takes. -/

namespace AgentConsole.Bridge.Streams

open AgentConsole.Lib

inductive StreamKind where
  | list | session
  deriving DecidableEq, Repr

inductive Frame where
  | subscribed (epoch : Nat)
  /-- A snapshot with the number of events it contains; it was read for an establishment, or for
  a confirmation. -/
  | snapshot (epoch sequence : Nat) (fetchedFor : Option Nat) (contents : Nat)
  | event (epoch sequence number : Nat)
  deriving DecidableEq, Repr

namespace Frame

def epoch : Frame → Nat
  | .subscribed epoch => epoch
  | .snapshot epoch _ _ _ => epoch
  | .event epoch _ _ => epoch

def number? : Frame → Option Nat
  | .event _ _ number => some number
  | _ => none

end Frame

structure StreamState where
  epoch : Nat
  nextSequence : Nat
  buffering : Bool
  buffer : List Nat
  deriving DecidableEq, Repr

/-- An establishment under way, with what the adapter answered: the contents of the snapshot, or
an error. -/
structure Establishment where
  subscribed : Bool := false
  result : Option (Option Nat) := none
  deriving DecidableEq, Repr

structure Runtime where
  epochCounter : Nat := 0
  stream : Option StreamState := none
  tasks : FiniteMap Nat Establishment := ∅
  produced : Nat := 0
  dispatched : Nat := 0
  sends : Nat := 0
  log : List Frame := []

inductive Input where
  | establish
  | sendSubscribed (epoch : Nat)
  /-- The adapter's call of an establishment returns. -/
  | fetched (epoch : Nat) (ok : Bool)
  | finish (epoch : Nat)
  /-- The adapter's state takes up an event. -/
  | produce
  /-- `dispatch_domain_event` for the next one -/
  | dispatch
  /-- The end of `observe_session` with a changed revision, or of `refresh_list_summary`, which
  has read the epoch at its beginning. -/
  | confirm (captured contents : Nat)
  | unsubscribe
  /-- Another stream takes an epoch. -/
  | elsewhere
  deriving DecidableEq, Repr

namespace Runtime

variable (kind : StreamKind) (room : Nat → Bool) (st : Runtime)

/-- `send_envelope` for each of the frames; those that the queue does not take are dropped. -/
def sendAll (frames : List Frame) : Runtime :=
  { st with
    sends := st.sends + frames.length
    log := st.log ++ ((frames.zipIdx st.sends).filter fun f => room f.2).map (·.1) }

/-- The events, in batches of one, from a sequence number on. -/
def eventsFrom (epoch sequence : Nat) (numbers : List Nat) : List Frame :=
  (numbers.zipIdx sequence).map fun n => .event epoch n.2 n.1

def establish : Runtime :=
  { st with
    epochCounter := st.epochCounter + 1
    stream := some ⟨st.epochCounter + 1, 1, true, []⟩
    tasks := st.tasks.insert (st.epochCounter + 1) {} }

def sendSubscribed (epoch : Nat) : Runtime :=
  match st.tasks.get? epoch with
  | some ⟨false, result⟩ =>
    { st.sendAll room [.subscribed epoch] with tasks := st.tasks.insert epoch ⟨true, result⟩ }
  | _ => st

/-- What the adapter answers.  A list that cannot be read counts as empty. -/
def answer (ok : Bool) : Option Nat :=
  if ok then some st.produced
  else match kind with
    | .list => some 0
    | .session => none

def fetched (epoch : Nat) (ok : Bool) : Runtime :=
  match st.tasks.get? epoch with
  | some ⟨true, none⟩ =>
    { st with tasks := st.tasks.insert epoch ⟨true, some (st.answer kind ok)⟩ }
  | _ => st

/-- The end of an establishment, for the stream as it is now. -/
def finish (epoch : Nat) : Runtime :=
  match st.tasks.get? epoch with
  | some ⟨_, some result⟩ =>
    let done := { st with tasks := st.tasks.erase epoch }
    match st.stream, result with
    | none, _ => done
    | some s, some contents =>
      let frames := .snapshot s.epoch s.nextSequence (some epoch) contents ::
        eventsFrom s.epoch (s.nextSequence + 1) s.buffer
      { done.sendAll room frames with
        stream := some ⟨s.epoch, s.nextSequence + frames.length, false, []⟩ }
    -- the error goes to the subscriber, the buffer is kept
    | some s, none => { done with stream := some { s with buffering := false } }
  | _ => st

def dispatch : Runtime :=
  if st.dispatched < st.produced then
    let taken := { st with dispatched := st.dispatched + 1 }
    match st.stream with
    | none => taken
    | some s =>
      if s.buffering then
        { taken with stream := some { s with buffer := s.buffer ++ [st.dispatched] } }
      else
        { taken.sendAll room [.event s.epoch s.nextSequence st.dispatched] with
          stream := some { s with nextSequence := s.nextSequence + 1 } }
  else st

/-- Whether a confirmation is sent. -/
def Confirms (s : StreamState) (captured : Nat) : Prop :=
  s.buffering = false ∧ (kind = .session ∨ captured = s.epoch)

instance (s : StreamState) (captured : Nat) : Decidable (Confirms kind s captured) :=
  inferInstanceAs (Decidable (_ ∧ _))

def confirm (captured contents : Nat) : Runtime :=
  match st.stream with
  | none => st
  | some s =>
    if Confirms kind s captured then
      { st.sendAll room [.snapshot s.epoch s.nextSequence none contents] with
        stream := some { s with nextSequence := s.nextSequence + 1 } }
    else st

def step : Input → Runtime
  | .establish => st.establish
  | .sendSubscribed epoch => st.sendSubscribed room epoch
  | .fetched epoch ok => st.fetched kind epoch ok
  | .finish epoch => st.finish room epoch
  | .produce => { st with produced := st.produced + 1 }
  | .dispatch => st.dispatch room
  | .confirm captured contents => st.confirm kind room captured contents
  | .unsubscribe => { st with stream := none }
  | .elsewhere => { st with epochCounter := st.epochCounter + 1 }

end Runtime

/-! ## What the queue gets -/

/-- The epoch of the last `Subscribed`, and the sequence number that comes next. -/
abbrev Position := Nat × Nat

/-- A later `Subscribed`; a snapshot in sequence, the first one read for this epoch; or an event
in sequence after it. -/
def Accepts (p : Position) : Frame → Prop
  | .subscribed epoch => p.1 < epoch
  | .snapshot epoch sequence fetchedFor _ => epoch = p.1 ∧ sequence = p.2 ∧ 1 ≤ sequence ∧
      (sequence = 1 → fetchedFor = some epoch)
  | .event epoch sequence _ => epoch = p.1 ∧ sequence = p.2 ∧ 2 ≤ sequence

def advance (p : Position) : Frame → Position
  | .subscribed epoch => (epoch, 1)
  | .snapshot _ _ _ _ => (p.1, p.2 + 1)
  | .event _ _ _ => (p.1, p.2 + 1)

def numbers (log : List Frame) : List Nat := log.filterMap Frame.number?

namespace Runtime

/-- The frames of each epoch are a `Subscribed`, its snapshot and what follows in sequence; no
event is sent twice; and where a stream is established, every event that its snapshot does not
contain was sent. -/
structure Numbered (st : Runtime) : Prop where
  frames : Along advance Accepts (0, 0) st.log
  once : (numbers st.log).Nodup
  kept : ∀ s, st.stream = some s → s.buffering = false →
    ∀ fetchedFor contents, .snapshot s.epoch 1 fetchedFor contents ∈ st.log →
      ∀ n, contents ≤ n → n < st.dispatched → ∃ sequence, .event s.epoch sequence n ∈ st.log

/-- The stream is not between an error and its next establishment. -/
def Ready (s : StreamState) : Prop := s.buffering = false → s.nextSequence ≠ 1

/-- The queue has room; `Subscribed` frames go out in the order of their epochs; the list is read;
a snapshot is sent for the epoch that it was read for; and nothing is sent on a stream whose
establishment failed. -/
def Regular (kind : StreamKind) (room : Nat → Bool) (st : Runtime) (input : Input) : Prop :=
  (∀ n, st.sends ≤ n → n < (st.step kind room input).sends → room n = true) ∧
  match input with
  | .sendSubscribed epoch => ∀ result, st.tasks.get? epoch = some ⟨false, result⟩ →
      ∀ frame ∈ st.log, frame.epoch < epoch
  | .fetched _ ok => kind = .list → ok = true
  | .finish epoch => ∀ subscribed contents, st.tasks.get? epoch =
      some ⟨subscribed, some (some contents)⟩ → ∀ s, st.stream = some s → s.epoch = epoch
  | .dispatch => st.dispatched < st.produced → ∀ s, st.stream = some s → Ready s
  | .confirm captured _ => ∀ s, st.stream = some s → Confirms kind s captured → Ready s
  | _ => True

/-! ### The invariant -/

/-- Before the snapshot of its epoch only `Subscribed` was sent, and the buffer has the events
since the establishment began. -/
structure Waiting (st : Runtime) (s : StreamState) : Prop where
  next : s.nextSequence = 1
  silent : ∀ frame ∈ st.log, frame.epoch = s.epoch → frame = .subscribed s.epoch
  buffered : ∃ start, s.buffer = List.range' start s.buffer.length ∧
    start + s.buffer.length = st.dispatched ∧ (∀ n ∈ numbers st.log, n < start) ∧
    ∀ subscribed contents, st.tasks.get? s.epoch = some ⟨subscribed, some (some contents)⟩ →
      start ≤ contents
  begun : ∀ result, st.tasks.get? s.epoch = some ⟨true, result⟩ →
    .subscribed s.epoch ∈ st.log ∧ st.log.foldl advance (0, 0) = (s.epoch, 1)

/-- After the snapshot, the events that it does not contain were sent. -/
structure Established (st : Runtime) (s : StreamState) : Prop where
  next : 2 ≤ s.nextSequence
  position : st.log.foldl advance (0, 0) = (s.epoch, s.nextSequence)
  shown : ∃ frame ∈ st.log, frame.epoch = s.epoch
  passes : s.buffering = false
  empty : s.buffer = []
  finished : st.tasks.get? s.epoch = none
  events : ∃ start, (∀ fetchedFor contents, .snapshot s.epoch 1 fetchedFor contents ∈ st.log →
      start ≤ contents) ∧
    ∀ n, start ≤ n → n < st.dispatched → ∃ sequence, .event s.epoch sequence n ∈ st.log

structure Inv (st : Runtime) : Prop where
  frames : Along advance Accepts (0, 0) st.log
  increasing : (numbers st.log).Pairwise (· < ·)
  sent : ∀ n ∈ numbers st.log, n < st.dispatched
  dispatched : st.dispatched ≤ st.produced
  epochs : ∀ frame ∈ st.log, frame.epoch ≤ st.epochCounter
  tasks : ∀ epoch task, st.tasks.get? epoch = some task → 0 < epoch ∧ epoch ≤ st.epochCounter
  asked : ∀ epoch result, st.tasks.get? epoch = some ⟨false, result⟩ → result = none
  stream : ∀ s, st.stream = some s → s.epoch ≤ st.epochCounter ∧
    (∀ frame ∈ st.log, frame.epoch ≤ s.epoch) ∧
    (∀ epoch task, st.tasks.get? epoch = some task → epoch ≤ s.epoch) ∧
    (Waiting st s ∨ Established st s)

/-! ### Frames in a row -/

theorem position_lt {log : List Frame} {epoch : Nat}
    (before : ∀ frame ∈ log, frame.epoch < epoch) {p : Position} (below : p.1 < epoch)
    (frames : Along advance Accepts p log) : (log.foldl advance p).1 < epoch := by
  induction log generalizing p with
  | nil => exact below
  | cons frame rest inductionHypothesis =>
    obtain ⟨accepted, later⟩ := frames
    apply inductionHypothesis (fun f inside => before f (List.mem_cons_of_mem _ inside)) _ later
    cases frame with
    | subscribed e => exact before _ List.mem_cons_self
    | snapshot e sequence fetchedFor contents => exact below
    | event e sequence number => exact below

theorem numbers_append (front back : List Frame) :
    numbers (front ++ back) = numbers front ++ numbers back := List.filterMap_append

theorem numbers_eventsFrom (epoch sequence : Nat) (ns : List Nat) :
    numbers (eventsFrom epoch sequence ns) = ns := by
  induction ns generalizing sequence with
  | nil => rfl
  | cons n rest inductionHypothesis =>
    show n :: numbers (eventsFrom epoch (sequence + 1) rest) = n :: rest
    rw [inductionHypothesis]

theorem length_eventsFrom (epoch sequence : Nat) (ns : List Nat) :
    (eventsFrom epoch sequence ns).length = ns.length := by
  unfold eventsFrom
  rw [List.length_map, List.length_zipIdx]

theorem mem_eventsFrom {epoch sequence : Nat} {ns : List Nat} {n : Nat} (inside : n ∈ ns) :
    ∃ own, .event epoch own n ∈ eventsFrom epoch sequence ns := by
  obtain ⟨i, inRange, rfl⟩ := List.getElem_of_mem inside
  exact ⟨sequence + i, List.mem_map.mpr
    ⟨(ns[i], sequence + i), List.mk_add_mem_zipIdx_iff_getElem?.mpr (by simp), rfl⟩⟩

theorem epoch_eventsFrom {epoch sequence : Nat} {ns : List Nat} :
    ∀ frame ∈ eventsFrom epoch sequence ns, frame.epoch = epoch ∧
      ∃ own n, frame = .event epoch own n := by
  intro frame inside
  obtain ⟨entry, -, rfl⟩ := List.mem_map.mp inside
  exact ⟨rfl, entry.2, entry.1, rfl⟩

/-- Events in a row are accepted after the snapshot. -/
theorem along_eventsFrom (epoch : Nat) {sequence : Nat} (later : 2 ≤ sequence) (ns : List Nat) :
    Along advance Accepts (epoch, sequence) (eventsFrom epoch sequence ns) ∧
      (eventsFrom epoch sequence ns).foldl advance (epoch, sequence) =
        (epoch, sequence + ns.length) := by
  induction ns generalizing sequence with
  | nil => exact ⟨trivial, rfl⟩
  | cons n rest inductionHypothesis =>
    obtain ⟨frames, position⟩ := @inductionHypothesis (sequence + 1) (by omega)
    refine ⟨⟨⟨rfl, rfl, later⟩, frames⟩, ?_⟩
    show (eventsFrom epoch (sequence + 1) rest).foldl advance (epoch, sequence + 1) = _
    rw [position, List.length_cons]
    congr 1
    omega

/-- Nothing is dropped where there is room. -/
theorem log_sendAll {room : Nat → Bool} {st : Runtime} {frames : List Frame}
    (fits : ∀ n, st.sends ≤ n → n < st.sends + frames.length → room n = true) :
    (st.sendAll room frames).log = st.log ++ frames := by
  have all : (frames.zipIdx st.sends).filter (fun f => room f.2) = frames.zipIdx st.sends := by
    rw [List.filter_eq_self]
    intro entry inside
    obtain ⟨least, most, -⟩ := List.mem_zipIdx inside
    exact fits entry.2 least (by omega)
  unfold sendAll
  rw [all, List.zipIdx_map_fst]

theorem known_of_insert {tasks : FiniteMap Nat Establishment} {epoch other : Nat}
    {task task' : Establishment} (known : (tasks.insert epoch task).get? other = some task') :
    (other = epoch ∧ task' = task) ∨ tasks.get? other = some task' := by
  rw [FiniteMap.get?_insert] at known
  split at known
  · rename_i same
    cases known
    exact .inl ⟨same, rfl⟩
  · exact .inr known

theorem known_of_erase {tasks : FiniteMap Nat Establishment} {epoch other : Nat}
    {task : Establishment} (known : (tasks.erase epoch).get? other = some task) :
    tasks.get? other = some task := by
  rw [FiniteMap.get?_erase] at known
  split at known
  · cases known
  · exact known

/-! ### One step -/

variable {kind : StreamKind} {room : Nat → Bool} {st : Runtime}

theorem inv_establish (inv : st.Inv) : st.establish.Inv where
  frames := inv.frames
  increasing := inv.increasing
  sent := inv.sent
  dispatched := inv.dispatched
  epochs frame inside := Nat.le_succ_of_le (inv.epochs frame inside)
  tasks epoch task found := by
    unfold establish at found ⊢
    rw [FiniteMap.get?_insert] at found
    split at found
    · subst epoch
      exact ⟨Nat.succ_pos _, Nat.le_refl _⟩
    · obtain ⟨positive, below⟩ := inv.tasks epoch task found
      exact ⟨positive, Nat.le_succ_of_le below⟩
  asked epoch result found := by
    unfold establish at found
    rw [FiniteMap.get?_insert] at found
    split at found
    · cases found
      rfl
    · exact inv.asked epoch result found
  stream s current := by
    cases current
    refine ⟨Nat.le_refl _, fun frame inside => Nat.le_succ_of_le (inv.epochs frame inside), ?_, ?_⟩
    · intro epoch task found
      unfold establish at found
      rw [FiniteMap.get?_insert] at found
      split at found
      · rename_i same
        exact Nat.le_of_eq same
      · exact Nat.le_succ_of_le (inv.tasks epoch task found).2
    · left
      constructor
      · rfl
      · intro frame inside same
        have below := inv.epochs frame inside
        rw [show frame.epoch = st.epochCounter + 1 from same] at below
        exact absurd below (Nat.not_succ_le_self _)
      · refine ⟨st.dispatched, rfl, rfl, inv.sent, ?_⟩
        intro subscribed contents found
        simp [establish] at found
      · intro result found
        simp [establish] at found

theorem inv_sendSubscribed (inv : st.Inv) {epoch : Nat}
    (regular : st.Regular kind room (.sendSubscribed epoch)) :
    (st.sendSubscribed room epoch).Inv := by
  obtain ⟨fits, ordered⟩ := regular
  simp only [step] at fits
  unfold sendSubscribed at fits ⊢
  split
  · rename_i result found
    rw [found] at fits
    have before := ordered result found
    have result_ := inv.asked epoch result found
    subst result
    have log : (st.sendAll room [.subscribed epoch]).log = st.log ++ [.subscribed epoch] :=
      log_sendAll fits
    obtain ⟨positive, below⟩ := inv.tasks epoch _ found
    constructor
    · show Along advance Accepts (0, 0) (st.sendAll room [.subscribed epoch]).log
      rw [log, Along.append_iff]
      exact ⟨inv.frames, position_lt before positive inv.frames, trivial⟩
    · show (numbers (st.sendAll room [.subscribed epoch]).log).Pairwise (· < ·)
      rw [log, numbers_append, show numbers [.subscribed epoch] = [] from rfl, List.append_nil]
      exact inv.increasing
    · show ∀ n ∈ numbers (st.sendAll room [.subscribed epoch]).log, n < st.dispatched
      rw [log, numbers_append, show numbers [.subscribed epoch] = [] from rfl, List.append_nil]
      exact inv.sent
    · exact inv.dispatched
    · intro frame inside
      rw [show _ = st.log ++ [Frame.subscribed epoch] from log] at inside
      obtain sent | last := List.mem_append.mp inside
      · exact inv.epochs frame sent
      · rw [List.mem_singleton.mp last]
        exact below
    · intro other task known
      obtain ⟨rfl, -⟩ | old := known_of_insert known
      · exact ⟨positive, below⟩
      · exact inv.tasks other task old
    · intro other result known
      obtain ⟨-, same⟩ | old := known_of_insert known
      · cases same
      · exact inv.asked other result old
    · intro s current
      obtain ⟨below', shown, running, phase⟩ := inv.stream s current
      have least := running epoch _ found
      refine ⟨below', ?_, ?_, ?_⟩
      · intro frame inside
        rw [show _ = st.log ++ [Frame.subscribed epoch] from log] at inside
        obtain sent | last := List.mem_append.mp inside
        · exact shown frame sent
        · rw [List.mem_singleton.mp last]
          exact least
      · intro other task known
        obtain ⟨rfl, -⟩ | old := known_of_insert known
        · exact least
        · exact running other task old
      · obtain waiting | established := phase
        · left
          constructor
          · exact waiting.next
          · intro frame inside same
            rw [show _ = st.log ++ [Frame.subscribed epoch] from log] at inside
            obtain sent | last := List.mem_append.mp inside
            · exact waiting.silent frame sent same
            · rw [List.mem_singleton.mp last] at same ⊢
              rw [← show epoch = s.epoch from same]
          · obtain ⟨start, range, reaches, old, contains⟩ := waiting.buffered
            refine ⟨start, range, reaches, ?_, ?_⟩
            · show ∀ n ∈ numbers (st.sendAll room [.subscribed epoch]).log, n < start
              rw [log, numbers_append, show numbers [.subscribed epoch] = [] from rfl,
                List.append_nil]
              exact old
            · intro subscribed contents known
              obtain ⟨-, same⟩ | known := known_of_insert known
              · cases same
              · exact contains subscribed contents known
          · intro result known
            show _ ∈ (st.sendAll room [.subscribed epoch]).log ∧
              (st.sendAll room [.subscribed epoch]).log.foldl advance (0, 0) = _
            rw [log, List.foldl_append]
            obtain ⟨same, -⟩ | known := known_of_insert known
            · rw [same]
              exact ⟨List.mem_append_right _ List.mem_cons_self, rfl⟩
            · have earlier := before _ (waiting.begun result known).1
              exact absurd earlier (Nat.not_lt.mpr least)
        · obtain ⟨frame, sent, same⟩ := established.shown
          have earlier := before frame sent
          omega
  · exact inv

theorem inv_fetched (inv : st.Inv) {epoch : Nat} {ok : Bool}
    (regular : st.Regular kind room (.fetched epoch ok)) : (st.fetched kind epoch ok).Inv := by
  have readable : kind = .list → ok = true := regular.2
  unfold fetched
  split
  · rename_i found
    have contains : ∀ contents, st.answer kind ok = some contents → st.dispatched ≤ contents := by
      intro contents given
      unfold answer at given
      cases ok with
      | true =>
        cases given
        exact inv.dispatched
      | false =>
        cases kind with
        | list => cases readable rfl
        | session => cases given
    generalize st.answer kind ok = result at contains
    refine ⟨inv.frames, inv.increasing, inv.sent, inv.dispatched, inv.epochs, ?_, ?_, ?_⟩
    · intro other task known
      obtain ⟨rfl, -⟩ | old := known_of_insert known
      · exact inv.tasks other _ found
      · exact inv.tasks other task old
    · intro other result known
      obtain ⟨-, same⟩ | old := known_of_insert known
      · cases same
      · exact inv.asked other result old
    · intro s current
      obtain ⟨below, shown, running, phase⟩ := inv.stream s current
      refine ⟨below, shown, ?_, ?_⟩
      · intro other task known
        obtain ⟨rfl, -⟩ | old := known_of_insert known
        · exact running other _ found
        · exact running other task old
      · obtain waiting | established := phase
        · left
          refine ⟨waiting.next, waiting.silent, ?_, ?_⟩
          · obtain ⟨start, range, reaches, old, later⟩ := waiting.buffered
            refine ⟨start, range, reaches, old, ?_⟩
            intro subscribed contents known
            obtain ⟨-, same⟩ | known := known_of_insert known
            · cases same
              have most := contains contents rfl
              omega
            · exact later subscribed contents known
          · intro result known
            obtain ⟨same, -⟩ | known := known_of_insert known
            · rw [← same] at found
              exact waiting.begun _ found
            · exact waiting.begun result known
        · right
          refine { established with finished := ?_ }
          have other : s.epoch ≠ epoch := by
            rintro rfl
            rw [established.finished] at found
            cases found
          rw [FiniteMap.get?_insert, if_neg other]
          exact established.finished
  · exact inv

/-- The invariant after frames were sent, with what is left to say of the stream. -/
theorem Inv.append (inv : st.Inv) {after : Runtime} {frames : List Frame}
    (log : after.log = st.log ++ frames)
    (accepted : Along advance Accepts (st.log.foldl advance (0, 0)) frames)
    (increasing : (numbers frames).Pairwise (· < ·))
    (fresh : ∀ n ∈ numbers frames, (∀ m ∈ numbers st.log, m < n) ∧ n < after.dispatched)
    (dispatched : st.dispatched ≤ after.dispatched ∧ after.dispatched ≤ after.produced)
    (counter : after.epochCounter = st.epochCounter)
    (epochs : ∀ frame ∈ frames, frame.epoch ≤ st.epochCounter)
    (tasks : ∀ epoch task, after.tasks.get? epoch = some task → st.tasks.get? epoch = some task)
    (stream : ∀ s, after.stream = some s → s.epoch ≤ st.epochCounter ∧
      (∀ frame ∈ st.log ++ frames, frame.epoch ≤ s.epoch) ∧
      (∀ epoch task, st.tasks.get? epoch = some task → epoch ≤ s.epoch) ∧
      (Waiting after s ∨ Established after s)) : after.Inv where
  frames := by
    rw [log, Along.append_iff]
    exact ⟨inv.frames, accepted⟩
  increasing := by
    rw [log, numbers_append, List.pairwise_append]
    exact ⟨inv.increasing, increasing, fun m old n new => (fresh n new).1 m old⟩
  sent n inside := by
    rw [log, numbers_append] at inside
    obtain old | new := List.mem_append.mp inside
    · exact Nat.lt_of_lt_of_le (inv.sent n old) dispatched.1
    · exact (fresh n new).2
  dispatched := dispatched.2
  epochs frame inside := by
    rw [log] at inside
    rw [counter]
    obtain old | new := List.mem_append.mp inside
    · exact inv.epochs frame old
    · exact epochs frame new
  tasks epoch task found := by
    rw [counter]
    exact inv.tasks epoch task (tasks epoch task found)
  asked epoch result found := inv.asked epoch result (tasks epoch _ found)
  stream s current := by
    obtain ⟨below, shown, running, phase⟩ := stream s current
    rw [counter, log]
    exact ⟨below, shown, fun epoch task found => running epoch task (tasks epoch task found), phase⟩

/-- The invariant after a step that sends nothing. -/
theorem Inv.silent (inv : st.Inv) {after : Runtime} (log : after.log = st.log)
    (dispatched : after.dispatched = st.dispatched) (produced : st.produced ≤ after.produced)
    (counter : after.epochCounter = st.epochCounter)
    (tasks : ∀ epoch task, after.tasks.get? epoch = some task → st.tasks.get? epoch = some task)
    (stream : ∀ s, after.stream = some s → ∃ s', st.stream = some s' ∧ s'.epoch = s.epoch ∧
      (Waiting after s ∨ Established after s)) : after.Inv := by
  have same : after.log = st.log ++ [] := by rw [log, List.append_nil]
  apply inv.append same trivial List.Pairwise.nil
    (fun n inside => absurd inside List.not_mem_nil) _ counter
    (fun frame inside => absurd inside List.not_mem_nil) tasks
  · intro s current
    obtain ⟨s', before, same, phase⟩ := stream s current
    obtain ⟨below, shown, running, -⟩ := inv.stream s' before
    rw [← same, List.append_nil]
    exact ⟨below, shown, running, phase⟩
  · rw [dispatched]
    exact ⟨Nat.le_refl _, Nat.le_trans inv.dispatched produced⟩

/-- The snapshot goes out for its own establishment, and the buffer after it. -/
theorem established_of_flush {after : Runtime} {s : StreamState} {contents : Nat}
    (waiting : Waiting st s)
    (found : st.tasks.get? s.epoch = some ⟨true, some (some contents)⟩)
    (log : after.log = st.log ++
      .snapshot s.epoch 1 (some s.epoch) contents :: eventsFrom s.epoch 2 s.buffer)
    (dispatched : after.dispatched = st.dispatched) (finished : after.tasks.get? s.epoch = none) :
    Established after ⟨s.epoch, 1 + (s.buffer.length + 1), false, []⟩ where
  next := by
    show 2 ≤ 1 + (s.buffer.length + 1)
    omega
  position := by
    rw [log, List.foldl_append, (waiting.begun _ found).2, List.foldl_cons]
    show (eventsFrom s.epoch 2 s.buffer).foldl advance (s.epoch, 2) = _
    rw [(along_eventsFrom s.epoch (Nat.le_refl 2) s.buffer).2]
    show (s.epoch, 2 + s.buffer.length) = (s.epoch, 1 + (s.buffer.length + 1))
    congr 1
    omega
  shown := by
    rw [log]
    exact ⟨_, List.mem_append_right _ List.mem_cons_self, rfl⟩
  passes := rfl
  empty := rfl
  finished := finished
  events := by
    obtain ⟨start, range, reaches, -, contains⟩ := waiting.buffered
    refine ⟨start, ?_, ?_⟩
    · intro fetchedFor contents' inside
      rw [log] at inside
      obtain sent | new := List.mem_append.mp inside
      · cases waiting.silent _ sent rfl
      · obtain same | event := List.mem_cons.mp new
        · cases same
          exact contains _ _ found
        · obtain ⟨-, own, n, same⟩ := epoch_eventsFrom _ event
          cases same
    · intro n least most
      rw [dispatched] at most
      have inside : n ∈ s.buffer := by
        rw [range, List.mem_range'_1]
        omega
      obtain ⟨own, sent⟩ := @mem_eventsFrom s.epoch 2 s.buffer n inside
      rw [log]
      exact ⟨own, List.mem_append_right _ (List.mem_cons_of_mem _ sent)⟩

theorem inv_flush (inv : st.Inv) {after : Runtime} {s : StreamState} {contents : Nat}
    (current : st.stream = some s) (waiting : Waiting st s)
    (found : st.tasks.get? s.epoch = some ⟨true, some (some contents)⟩)
    (log : after.log = st.log ++
      .snapshot s.epoch 1 (some s.epoch) contents :: eventsFrom s.epoch 2 s.buffer)
    (stream : after.stream = some ⟨s.epoch, 1 + (s.buffer.length + 1), false, []⟩)
    (tasks : after.tasks = st.tasks.erase s.epoch) (dispatched : after.dispatched = st.dispatched)
    (produced : after.produced = st.produced) (counter : after.epochCounter = st.epochCounter) :
    after.Inv := by
  obtain ⟨below, shown, running, -⟩ := inv.stream s current
  obtain ⟨start, range, reaches, old, -⟩ := waiting.buffered
  have own : ∀ frame ∈ (.snapshot s.epoch 1 (some s.epoch) contents ::
      eventsFrom s.epoch 2 s.buffer), frame.epoch = s.epoch := by
    intro frame inside
    obtain rfl | event := List.mem_cons.mp inside
    · rfl
    · exact (epoch_eventsFrom frame event).1
  have flushed : numbers (.snapshot s.epoch 1 (some s.epoch) contents ::
      eventsFrom s.epoch 2 s.buffer) = s.buffer := numbers_eventsFrom s.epoch 2 s.buffer
  have finished : after.tasks.get? s.epoch = none := by
    rw [tasks, FiniteMap.get?_erase_self]
  apply inv.append log
  · rw [(waiting.begun _ found).2]
    exact ⟨⟨rfl, rfl, Nat.le_refl 1, fun _ => rfl⟩,
      (along_eventsFrom s.epoch (Nat.le_refl 2) s.buffer).1⟩
  · rw [flushed, range]
    exact List.pairwise_lt_range'
  · intro n inside
    rw [flushed, range, List.mem_range'_1] at inside
    rw [dispatched]
    refine ⟨fun m earlier => Nat.lt_of_lt_of_le (old m earlier) inside.1, ?_⟩
    omega
  · rw [dispatched, produced]
    exact ⟨Nat.le_refl _, inv.dispatched⟩
  · exact counter
  · intro frame inside
    rw [own frame inside]
    exact below
  · intro epoch task known
    rw [tasks] at known
    exact known_of_erase known
  · intro s' same
    rw [stream] at same
    cases same
    refine ⟨below, ?_, running, .inr (established_of_flush waiting found log dispatched finished)⟩
    intro frame inside
    obtain sent | new := List.mem_append.mp inside
    · exact shown frame sent
    · exact Nat.le_of_eq (own frame new)

theorem inv_finish (inv : st.Inv) {epoch : Nat}
    (regular : st.Regular kind room (.finish epoch)) : (st.finish room epoch).Inv := by
  obtain ⟨fits, own⟩ := regular
  have own : ∀ subscribed contents, st.tasks.get? epoch =
    some ⟨subscribed, some (some contents)⟩ → ∀ s, st.stream = some s → s.epoch = epoch := own
  simp only [step] at fits
  unfold finish at fits ⊢
  split
  · rename_i subscribed result found
    rw [found] at fits
    have subscribed_ : subscribed = true := by
      cases subscribed with
      | true => rfl
      | false => cases inv.asked epoch _ found
    subst subscribed_
    cases current : st.stream with
    | none =>
      show ({ st with stream := none, tasks := st.tasks.erase epoch } : Runtime).Inv
      refine inv.silent rfl rfl (Nat.le_refl _) rfl (fun _ _ known => known_of_erase known) ?_
      intro s same
      cases same
    | some s =>
      cases result with
      | none =>
        show ({ st with
          stream := some { s with buffering := false }, tasks := st.tasks.erase epoch } :
            Runtime).Inv
        refine inv.silent rfl rfl (Nat.le_refl _) rfl (fun _ _ known => known_of_erase known) ?_
        intro s' same
        cases same
        refine ⟨s, current, rfl, ?_⟩
        obtain waiting | established := (inv.stream s current).2.2.2
        · left
          obtain ⟨start, range, reaches, old, contains⟩ := waiting.buffered
          exact ⟨waiting.next, waiting.silent, ⟨start, range, reaches, old,
            fun subscribed contents known => contains subscribed contents (known_of_erase known)⟩,
            fun result known => waiting.begun result (known_of_erase known)⟩
        · right
          have erased : (st.tasks.erase epoch).get? s.epoch = none := by
            rw [FiniteMap.get?_erase]
            split
            · rfl
            · exact established.finished
          exact ⟨established.next, established.position, established.shown, rfl,
            established.empty, erased, established.events⟩
      | some contents =>
        have same := own _ _ found s current
        subst same
        obtain waiting | established := (inv.stream s current).2.2.2
        · rw [current] at fits
          simp only [waiting.next] at fits ⊢
          refine inv_flush inv current waiting found (@log_sendAll room st _ fits) ?_ rfl rfl
            rfl rfl
          rw [List.length_cons, length_eventsFrom]
        · rw [established.finished] at found
          cases found
  · exact inv

theorem Established.append {after : Runtime} {s : StreamState} (established : Established st s)
    {frame : Frame} (own : frame.epoch = s.epoch) (log : after.log = st.log ++ [frame])
    (moves : advance (s.epoch, s.nextSequence) frame = (s.epoch, s.nextSequence + 1))
    (later : ∀ fetchedFor contents, frame ≠ .snapshot s.epoch 1 fetchedFor contents)
    (tasks : after.tasks = st.tasks)
    (dispatched : ∀ n, st.dispatched ≤ n → n < after.dispatched →
      ∃ sequence, frame = .event s.epoch sequence n) :
    Established after { s with nextSequence := s.nextSequence + 1 } where
  next := Nat.le_succ_of_le established.next
  position := by
    rw [log, List.foldl_append, established.position]
    exact moves
  shown := by
    rw [log]
    exact ⟨frame, List.mem_append_right _ List.mem_cons_self, own⟩
  passes := established.passes
  empty := established.empty
  finished := by
    rw [tasks]
    exact established.finished
  events := by
    obtain ⟨start, contains, sent⟩ := established.events
    refine ⟨start, ?_, ?_⟩
    · intro fetchedFor contents inside
      rw [log] at inside
      obtain old | new := List.mem_append.mp inside
      · exact contains fetchedFor contents old
      · exact absurd (List.mem_singleton.mp new).symm (later fetchedFor contents)
    · intro n least most
      rw [log]
      by_cases early : n < st.dispatched
      · obtain ⟨sequence, inside⟩ := sent n least early
        exact ⟨sequence, List.mem_append_left _ inside⟩
      · obtain ⟨sequence, same⟩ := dispatched n (Nat.le_of_not_lt early) most
        exact ⟨sequence, List.mem_append_right _ (List.mem_singleton.mpr same.symm)⟩

/-- One frame on an established stream. -/
theorem inv_sendOne (inv : st.Inv) {after : Runtime} {s : StreamState}
    (current : st.stream = some s) (established : Established st s) {frame : Frame}
    (own : frame.epoch = s.epoch) (log : after.log = st.log ++ [frame])
    (accepted : Accepts (s.epoch, s.nextSequence) frame)
    (moves : advance (s.epoch, s.nextSequence) frame = (s.epoch, s.nextSequence + 1))
    (later : ∀ fetchedFor contents, frame ≠ .snapshot s.epoch 1 fetchedFor contents)
    (number : ∀ n, frame.number? = some n → n = st.dispatched ∧ n < after.dispatched)
    (dispatched : ∀ n, st.dispatched ≤ n → n < after.dispatched →
      ∃ sequence, frame = .event s.epoch sequence n)
    (grows : st.dispatched ≤ after.dispatched ∧ after.dispatched ≤ after.produced)
    (stream : after.stream = some { s with nextSequence := s.nextSequence + 1 })
    (tasks : after.tasks = st.tasks) (counter : after.epochCounter = st.epochCounter) :
    after.Inv := by
  obtain ⟨below, shown, running, -⟩ := inv.stream s current
  have numbers_ : ∀ n ∈ numbers [frame], frame.number? = some n := by
    intro n inside
    obtain ⟨one, inside, given⟩ := List.mem_filterMap.mp inside
    rw [← List.mem_singleton.mp inside]
    exact given
  apply inv.append log
  · rw [established.position]
    exact ⟨accepted, trivial⟩
  · unfold numbers
    rw [List.filterMap_cons]
    cases frame.number? with
    | none => exact List.Pairwise.nil
    | some n => exact List.pairwise_singleton _ n
  · intro n inside
    obtain ⟨rfl, most⟩ := number n (numbers_ n inside)
    exact ⟨inv.sent, most⟩
  · exact grows
  · exact counter
  · intro f inside
    rw [List.mem_singleton.mp inside, own]
    exact below
  · intro epoch task known
    rw [tasks] at known
    exact known
  · intro s' same
    rw [stream] at same
    cases same
    refine ⟨below, ?_, running,
      .inr (established.append own log moves later tasks dispatched)⟩
    intro f inside
    obtain old | new := List.mem_append.mp inside
    · exact shown f old
    · rw [List.mem_singleton.mp new]
      exact Nat.le_of_eq own

/-- On a stream that passes frames on and is not between an error and its next establishment, the
snapshot was sent. -/
theorem established_of_ready (inv : st.Inv) {s : StreamState} (current : st.stream = some s)
    (passes : s.buffering = false) (ready : Ready s) : Established st s := by
  obtain waiting | established := (inv.stream s current).2.2.2
  · exact absurd waiting.next (ready passes)
  · exact established

theorem inv_dispatch (inv : st.Inv) (regular : st.Regular kind room .dispatch) :
    (st.dispatch room).Inv := by
  obtain ⟨fits, ready⟩ := regular
  have ready : st.dispatched < st.produced → ∀ s, st.stream = some s → Ready s := ready
  simp only [step] at fits
  unfold dispatch at fits ⊢
  split
  · rename_i more
    rw [if_pos more] at fits
    cases current : st.stream with
    | none =>
      show ({ st with stream := none, dispatched := st.dispatched + 1 } : Runtime).Inv
      refine ⟨inv.frames, inv.increasing, fun n inside => Nat.lt_succ_of_lt (inv.sent n inside),
        more, inv.epochs, inv.tasks, inv.asked, ?_⟩
      intro s same
      cases same
    | some s =>
      rw [current] at fits
      dsimp only at fits ⊢
      split
      · rename_i buffering
        refine ⟨inv.frames, inv.increasing, fun n inside => Nat.lt_succ_of_lt (inv.sent n inside),
          more, inv.epochs, inv.tasks, inv.asked, ?_⟩
        intro s' same
        cases same
        obtain ⟨below, shown, running, phase⟩ := inv.stream s current
        refine ⟨below, shown, running, .inl ?_⟩
        obtain waiting | established := phase
        · obtain ⟨start, range, reaches, old, contains⟩ := waiting.buffered
          refine ⟨waiting.next, waiting.silent, ⟨start, ?_, ?_, old, contains⟩, waiting.begun⟩
          · show s.buffer ++ [st.dispatched] =
              List.range' start (s.buffer ++ [st.dispatched]).length
            rw [List.length_append, List.length_singleton, List.range'_1_concat, ← range, reaches]
          · show start + (s.buffer ++ [st.dispatched]).length = st.dispatched + 1
            rw [List.length_append, List.length_singleton]
            omega
        · rw [established.passes] at buffering
          cases buffering
      · rename_i passes
        rw [if_neg passes] at fits
        have established := established_of_ready inv current (Bool.eq_false_iff.mpr passes)
          (ready more s current)
        have next := established.next
        refine inv_sendOne inv current established rfl (@log_sendAll room st _ fits)
          ⟨rfl, rfl, next⟩ rfl (fun _ _ same => Frame.noConfusion same) ?_ ?_ ⟨Nat.le_succ _, more⟩ rfl rfl rfl
        · intro n given
          cases given
          exact ⟨rfl, Nat.lt_succ_self _⟩
        · intro n least most
          have same : n = st.dispatched := Nat.le_antisymm (Nat.le_of_lt_succ most) least
          rw [same]
          exact ⟨s.nextSequence, rfl⟩
  · exact inv

theorem inv_confirm (inv : st.Inv) {captured contents : Nat}
    (regular : st.Regular kind room (.confirm captured contents)) :
    (st.confirm kind room captured contents).Inv := by
  obtain ⟨fits, ready⟩ := regular
  have ready : ∀ s, st.stream = some s → Confirms kind s captured → Ready s := ready
  simp only [step] at fits
  unfold confirm at fits ⊢
  cases current : st.stream with
  | none => exact inv
  | some s =>
    rw [current] at fits
    dsimp only at fits ⊢
    split
    · rename_i confirms
      rw [if_pos confirms] at fits
      have established := established_of_ready inv current confirms.1 (ready s current confirms)
      have next := established.next
      refine inv_sendOne inv current established rfl (@log_sendAll room st _ fits) ?_ rfl ?_ ?_ ?_
        ⟨Nat.le_refl _, inv.dispatched⟩ rfl rfl rfl
      · refine ⟨rfl, rfl, ?_, ?_⟩
        · show 1 ≤ s.nextSequence
          omega
        · intro first
          omega
      · intro fetchedFor contents' same
        have first : s.nextSequence = 1 := (Frame.snapshot.inj same).2.1
        omega
      · intro n given
        cases given
      · intro n least most
        exact absurd most (Nat.not_lt.mpr least)
    · exact inv

theorem inv_start : ({} : Runtime).Inv where
  frames := trivial
  increasing := List.Pairwise.nil
  sent _ inside := absurd inside List.not_mem_nil
  dispatched := Nat.le_refl 0
  epochs _ inside := absurd inside List.not_mem_nil
  tasks epoch task found := by
    rw [FiniteMap.get?_empty] at found
    cases found
  asked epoch result found := by
    rw [FiniteMap.get?_empty] at found
    cases found
  stream s current := by cases current

theorem inv_step (inv : st.Inv) {input : Input} (regular : st.Regular kind room input) :
    (st.step kind room input).Inv := by
  cases input with
  | establish => exact inv_establish inv
  | sendSubscribed epoch => exact inv_sendSubscribed inv regular
  | fetched epoch ok => exact inv_fetched inv regular
  | finish epoch => exact inv_finish inv regular
  | produce =>
    refine inv.silent rfl rfl (Nat.le_succ _) rfl (fun _ _ known => known) ?_
    intro s current
    obtain waiting | established := (inv.stream s current).2.2.2
    · exact ⟨s, current, rfl, .inl ⟨waiting.next, waiting.silent, waiting.buffered,
        waiting.begun⟩⟩
    · exact ⟨s, current, rfl, .inr ⟨established.next, established.position, established.shown,
        established.passes, established.empty, established.finished, established.events⟩⟩
  | dispatch => exact inv_dispatch inv regular
  | confirm captured contents => exact inv_confirm inv regular
  | unsubscribe =>
    refine inv.silent rfl rfl (Nat.le_refl _) rfl (fun _ _ known => known) ?_
    intro s current
    cases current
  | elsewhere =>
    refine ⟨inv.frames, inv.increasing, inv.sent, inv.dispatched,
      fun frame inside => Nat.le_succ_of_le (inv.epochs frame inside), ?_, inv.asked, ?_⟩
    · intro epoch task found
      obtain ⟨positive, below⟩ := inv.tasks epoch task found
      exact ⟨positive, Nat.le_succ_of_le below⟩
    · intro s current
      obtain ⟨below, shown, running, phase⟩ := inv.stream s current
      refine ⟨Nat.le_succ_of_le below, shown, running, ?_⟩
      obtain waiting | established := phase
      · exact .inl ⟨waiting.next, waiting.silent, waiting.buffered, waiting.begun⟩
      · exact .inr ⟨established.next, established.position, established.shown,
          established.passes, established.empty, established.finished, established.events⟩

theorem Inv.numbered (inv : st.Inv) : st.Numbered where
  frames := inv.frames
  once := inv.increasing.imp Nat.ne_of_lt
  kept s current _ fetchedFor contents inside n least most := by
    obtain waiting | established := (inv.stream s current).2.2.2
    · cases waiting.silent _ inside rfl
    · obtain ⟨start, contains, sent⟩ := established.events
      exact sent n (Nat.le_trans (contains fetchedFor contents inside) least) most

/-- In a regular run the frames on the queue are numbered, in every state reached. -/
theorem frames_numbered {inputs : List Input}
    (regular : Along (step kind room) (Regular kind room) {} inputs)
    {before after : List Input} (split : inputs = before ++ after) :
    (before.foldl (step kind room) {}).Numbered := by
  rw [split] at regular
  have inv : (before.foldl (step kind room) {}).Inv :=
    regular.before.reached (I := Inv) (fun _ _ inv meets => inv_step inv meets) inv_start
  exact inv.numbered

/-- One event is buffered during the establishment, another one follows. -/
theorem frames_numbered_buffered :
    ([Input.establish, .sendSubscribed 1, .fetched 1 true, .produce, .dispatch, .finish 1,
      .produce, .dispatch].foldl (step .session fun _ => true) {}).Numbered := by
  have regular : Along (step .session fun _ => true) (Regular .session fun _ => true) {}
      [.establish, .sendSubscribed 1, .fetched 1 true, .produce, .dispatch, .finish 1,
        .produce, .dispatch] := by
    refine ⟨⟨fun _ _ _ => rfl, trivial⟩, ⟨fun _ _ _ => rfl, ?_⟩, ⟨fun _ _ _ => rfl, ?_⟩,
      ⟨fun _ _ _ => rfl, trivial⟩, ⟨fun _ _ _ => rfl, ?_⟩, ⟨fun _ _ _ => rfl, ?_⟩,
      ⟨fun _ _ _ => rfl, trivial⟩, ⟨fun _ _ _ => rfl, ?_⟩, trivial⟩
    · exact fun _ _ frame inside => absurd inside List.not_mem_nil
    · exact fun session => StreamKind.noConfusion session
    · intro _ s current passes
      cases current
      cases passes
    · intro _ _ _ s current
      cases current
      rfl
    · intro _ s current _
      cases current
      decide
  exact frames_numbered regular (List.append_nil _).symm

/-- The first of two establishments ends with its own snapshot in the epoch of the second. -/
theorem snapshot_of_another_establishment :
    ¬ ([Input.establish, .sendSubscribed 1, .fetched 1 true, .produce, .dispatch, .establish,
      .sendSubscribed 2, .finish 1].foldl (step .session fun _ => true) {}).Numbered := by
  intro numbered
  have frames := numbered.frames
  have log : ([Input.establish, .sendSubscribed 1, .fetched 1 true, .produce, .dispatch,
      .establish, .sendSubscribed 2, .finish 1].foldl (step .session fun _ => true) {}).log =
      [.subscribed 1, .subscribed 2, .snapshot 2 1 (some 1) 0] := by decide
  rw [log] at frames
  obtain ⟨-, -, snapshot, -⟩ := frames
  cases snapshot.2.2.2 rfl

end Runtime

end AgentConsole.Bridge.Streams
