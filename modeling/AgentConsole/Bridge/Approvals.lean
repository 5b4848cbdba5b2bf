import AgentConsole.Bridge.Pending
import AgentConsole.Lib.Run

/-! # Decisions reach their helper once, and only while they may

The parties race on one record and its channels: a decision, the end of the connection, the
time limit and a cancellation can all come at one time, and the connection may take any branch
that is ready.  What a helper is told is safe all the same.

The invariant relates a record to the connection that holds the other ends of its channels.
While the record waits, nothing has been decided for the connection and its channel is as it
was made; once it is decided, the reply is in the channel, or on its way to the helper, or the
connection has turned away from it. -/

namespace AgentConsole.Bridge.Zcode

open AgentConsole.Lib

/-! ## What is owed -/

/-- The moves of a record. -/
inductive PendingState.Leads : PendingState → PendingState → Prop where
  | decided : Leads .waiting .decided
  | expired : Leads .waiting .expired
  | handledLocally : Leads .waiting .handledLocally
  | returned : Leads .decided .returnedToRuntime
  | unconfirmed : Leads .decided .handledLocally
  | raced : Leads .decided .expired
  | processed : Leads .returnedToRuntime .runtimeProcessed

namespace Hooks

/-- The replies that were decided for a connection. -/
def decidedFor (h : Hooks) (c : Nat) : List HookReply :=
  (h.decided.filter fun entry => entry.1 = c).map (·.2)

/-- The replies that were written to the helper of a connection. -/
def handedTo (h : Hooks) (c : Nat) : List HookReply :=
  (h.handed.filter fun entry => entry.1 = c).map (·.2)

/-- A helper gets at most one reply.  One that carries a decision is the only decision that was
accepted for it. -/
structure Safe (h : Hooks) : Prop where
  once : ∀ c, (h.handedTo c).length ≤ 1
  decided : ∀ c, ∀ reply ∈ h.handedTo c, reply.IsDecision → h.decidedFor c = [reply]

/-- A step from `h` to `h'` moves each record along, accepts a decision only for one that waits
and whose time is not over, and takes nothing back. -/
structure Moves (h h' : Hooks) : Prop where
  leads : ∀ id record record', h.registry.get? id = some record →
    h'.registry.get? id = some record' → record'.connection = record.connection →
      record'.state = record.state ∨ record.state.Leads record'.state
  accepts : h'.decided = h.decided ∨ ∃ id record reply, h.registry.get? id = some record ∧
    record.state = .waiting ∧ h.now < record.deadline ∧
      h'.decided = h.decided ++ [(record.connection, reply)]
  decided : ∀ c, h.decidedFor c ≠ [] → h'.decidedFor c = h.decidedFor c
  handed : ∀ c, h.handedTo c ≠ [] → h'.handedTo c = h.handedTo c

end Hooks

/-! ## A record and its connection -/

/-- What a record has of its invoke. -/
def PendingRecord.about (id : InvokeId) (record : PendingRecord) :
    InvokeId × InvokeKind × Option String × List String × Bool :=
  (id, record.kind, record.nativeSessionId, record.askOptions, record.askAllowFreeText)

def Connection.about (connection : Connection) :
    InvokeId × InvokeKind × Option String × List String × Bool :=
  (connection.invokeId, connection.kind, connection.invoke.nativeSessionId,
    connection.invoke.askOptions connection.kind,
    connection.invoke.askAllowFreeText connection.kind)

theorem Connection.invokeId_of_about {connection : Connection} {id : InvokeId}
    {record : PendingRecord} (same : connection.about = record.about id) :
    connection.invokeId = id :=
  congrArg Prod.fst same

namespace Phase

@[simp] def isOpen : Phase → Bool
  | publishing | waiting _ => true
  | _ => false

@[simp] def isSettling : Phase → Bool
  | settling _ => true
  | _ => false

/-- The connection has turned away from a decision. -/
@[simp] def isLeaving : Phase → Bool
  | settling _ | finalizing => true
  | _ => false

@[simp] def isConfirming : Phase → Bool
  | acknowledging _ | completing _ => true
  | _ => false

/-- Nothing was written yet. -/
@[simp] def isSilent : Phase → Bool
  | acknowledging _ | completing _ | done => false
  | _ => true

end Phase

/-- How a record stands to its connection; `ds` was decided for it and `hs` written to it. -/
structure Fits (ds hs : List HookReply) (connection : Connection) (record : PendingRecord) :
    Prop where
  waiting : record.state = .waiting → record.responder = true ∧
    (connection.phase.isOpen = true ∧ connection.decision = .fresh ∨
      connection.phase.isSettling = true ∧ connection.decision = .over)
  responder : record.responder = true → ds = []
  decided : record.state = .decided → ∃ reply, ds = [reply] ∧
    (connection.phase.isOpen = true ∧ connection.decision = .sent reply ∨
      connection.phase = .writing reply ∨
      connection.phase.isConfirming = true ∧ reply ∈ hs ∨ connection.phase.isLeaving = true)

/-- What a connection has by itself. -/
structure Own (ds hs : List HookReply) (connection : Connection) : Prop where
  sent : ∀ reply, connection.decision = .sent reply → ds = [reply]
  silent : connection.phase.isSilent = true → hs = []
  once : hs.length ≤ 1
  writing : ∀ reply, connection.phase = .writing reply → reply.IsDecision → ds = [reply]
  handed : ∀ reply ∈ hs, reply.IsDecision → ds = [reply]

section Fits

variable {ds hs : List HookReply} {connection : Connection} {record new : PendingRecord}

/-- A record that neither waits nor is decided fits any connection. -/
theorem Fits.of_terminal (final : new.state.isTerminal = true)
    (responder : new.responder = true → ds = []) : Fits ds hs connection new where
  waiting state := by rw [state] at final; cases final
  responder := responder
  decided state := by rw [state] at final; cases final

/-- A record may end at any time. -/
theorem Fits.ends (fits : Fits ds hs connection record) (final : new.state.isTerminal = true)
    (keeps : new.responder = true → record.responder = true) : Fits ds hs connection new :=
  .of_terminal final fun has => fits.responder (keeps has)

theorem Fits.congr (fits : Fits ds hs connection record) (state : new.state = record.state)
    (responder : new.responder = record.responder) : Fits ds hs connection new where
  waiting := by rw [state, responder]; exact fits.waiting
  responder := by rw [responder]; exact fits.responder
  decided := by rw [state]; exact fits.decided

/-- A connection goes on to another phase. -/
theorem Own.turns {old : Connection} (own : Own ds hs old)
    (sent : connection.decision = .over ∨ connection.decision = old.decision)
    (silent : connection.phase.isSilent = true → old.phase.isSilent = true)
    (writing : ∀ reply, connection.phase = .writing reply → reply.IsDecision → ds = [reply]) :
    Own ds hs connection where
  sent reply there := by
    rcases sent with gone | same
    · rw [gone] at there
      cases there
    · exact own.sent reply (same ▸ there)
  silent now := own.silent (silent now)
  once := own.once
  writing := writing
  handed := own.handed

/-- A connection turns away. -/
theorem Fits.turnsAway {timedOut : Bool} {old : Connection} (fits : Fits ds hs old record)
    (phase : connection.phase = .settling timedOut) (decision : connection.decision = .over) :
    Fits ds hs connection record where
  waiting state := ⟨(fits.waiting state).1, .inr ⟨by simp [phase], decision⟩⟩
  responder := fits.responder
  decided state := by
    obtain ⟨reply, only, -⟩ := fits.decided state
    exact ⟨reply, only, .inr (.inr (.inr (by simp [phase])))⟩

end Fits

/-- The inputs that open no connection, and tell nothing of commands, acknowledgements and
outcomes. -/
def Input.isPlain : Input → Bool
  | .connect .. | .acknowledged _ | .completed _ | .command .. | .proceed _ | .commandTimeout _ =>
    false
  | _ => true

/-! ## The invariant -/

namespace Hooks

structure Inv (h : Hooks) : Prop where
  known : ∀ id record, h.registry.get? id = some record →
    ∃ connection, h.connections.get? record.connection = some connection ∧
      connection.about = record.about id ∧
        Fits (h.decidedFor record.connection) (h.handedTo record.connection) connection record
  own : ∀ c connection, h.connections.get? c = some connection →
    Own (h.decidedFor c) (h.handedTo c) connection
  others : ∀ c, h.connections.get? c = none → h.decidedFor c = [] ∧
    (h.handedTo c).length ≤ 1 ∧ ∀ reply ∈ h.handedTo c, ¬ reply.IsDecision
  fresh : ∀ c, h.accepted ≤ c → h.connections.get? c = none ∧ h.handedTo c = []

theorem inv_init : Inv {} where
  known := by simp
  own := by simp
  others := by simp [decidedFor, handedTo]
  fresh := by simp [handedTo]

variable {h h' : Hooks}

theorem Inv.safe (inv : Inv h) : Safe h where
  once c := by
    cases found : h.connections.get? c with
    | none => exact (inv.others c found).2.1
    | some connection => exact (inv.own c connection found).once
  decided c reply handed decision := by
    cases found : h.connections.get? c with
    | none => exact absurd decision ((inv.others c found).2.2 reply handed)
    | some connection => exact (inv.own c connection found).handed reply handed decision

/-- A record that may still change has a connection that is under way. -/
theorem Inv.underWay (inv : Inv h) {id : InvokeId} {record : PendingRecord}
    (found : h.registry.get? id = some record) (pending : record.state.isTerminal = false) :
    ∃ connection, h.connections.get? record.connection = some connection ∧
      connection.invokeId = id ∧ connection.phase ≠ .expiring ∧ connection.phase ≠ .done := by
  obtain ⟨connection, there, same, fits⟩ := inv.known id record found
  refine ⟨connection, there, Connection.invokeId_of_about same, ?_, ?_⟩ <;>
  · intro phase
    cases state : record.state with
    | waiting => simpa [phase, Phase.isOpen, Phase.isSettling] using (fits.waiting state).2
    | decided =>
      obtain ⟨reply, -, where_⟩ := fits.decided state
      simp [phase, Phase.isOpen, Phase.isConfirming, Phase.isLeaving] at where_
    | _ => rw [state] at pending; cases pending

/-- The records of a connection have its id. -/
theorem Inv.id_eq (inv : Inv h) {id : InvokeId} {record : PendingRecord} {c : Nat}
    {connection : Connection} (found : h.registry.get? id = some record)
    (mine : record.connection = c) (there : h.connections.get? c = some connection) :
    id = connection.invokeId := by
  obtain ⟨connection', there', same, -⟩ := inv.known id record found
  rw [mine, there] at there'
  cases there'
  exact (Connection.invokeId_of_about same).symm

/-! ### How it is kept -/

/-- One record changes. -/
theorem Inv.setRecord (inv : Inv h) {id : InvokeId} {record new : PendingRecord}
    (found : h.registry.get? id = some record) (same : new.connection = record.connection)
    (about : new.about id = record.about id)
    (fits : ∀ {ds hs connection}, Fits ds hs connection record → Fits ds hs connection new) :
    Inv (h.setRecord id new) where
  known k r there := by
    rw [Hooks.setRecord, FiniteMap.get?_insert] at there
    split at there
    · next here =>
      cases there
      obtain ⟨connection, there, named, fit⟩ := inv.known id record found
      subst here
      exact ⟨connection, by rw [same]; exact there, named.trans about.symm,
        by rw [same]; exact fits fit⟩
    · exact inv.known k r there
  own := inv.own
  others := inv.others
  fresh := inv.fresh

/-- One connection changes, with its own records and what was decided for it and written to
it. -/
theorem Inv.update (inv : Inv h) {c : Nat} {old new : Connection}
    (there : h.connections.get? c = some old)
    (connections : ∀ u, h'.connections.get? u = if u = c then some new else h.connections.get? u)
    (records : ∀ id record', h'.registry.get? id = some record' → ∃ record,
      h.registry.get? id = some record ∧ record'.connection = record.connection ∧
        record'.about id = record.about id ∧ (record.connection ≠ c → record' = record) ∧
        (record.connection = c → Fits (h.decidedFor c) (h.handedTo c) old record →
          Fits (h'.decidedFor c) (h'.handedTo c) new record'))
    (logs : ∀ u, u ≠ c → h'.decidedFor u = h.decidedFor u ∧ h'.handedTo u = h.handedTo u)
    (accepted : h'.accepted = h.accepted) (named : new.about = old.about)
    (own : Own (h'.decidedFor c) (h'.handedTo c) new) : Inv h' where
  known id record' found' := by
    obtain ⟨record, found, same, about, others, mine⟩ := records id record' found'
    obtain ⟨connection, there', id_eq, fits⟩ := inv.known id record found
    rw [same, connections]
    by_cases here : record.connection = c
    · rw [if_pos here]
      rw [here] at there' fits ⊢
      rw [there] at there'
      cases there'
      exact ⟨new, rfl, named.trans (id_eq.trans about.symm), mine here fits⟩
    · rw [if_neg here, others here]
      exact ⟨connection, there', id_eq, by rw [(logs _ here).1, (logs _ here).2]; exact fits⟩
  own u connection found := by
    rw [connections] at found
    split at found
    · next here =>
      cases found
      exact here ▸ own
    · next away =>
      rw [(logs u away).1, (logs u away).2]
      exact inv.own u connection found
  others u missing := by
    rw [connections] at missing
    split at missing
    · cases missing
    · next away =>
      rw [(logs u away).1, (logs u away).2]
      exact inv.others u missing
  fresh u above := by
    rw [accepted] at above
    have away : u ≠ c := by
      rintro rfl
      simp [(inv.fresh u above).1] at there
    rw [connections, if_neg away, (logs u away).2]
    exact inv.fresh u above

/-! ### Connections -/

variable {c : Nat} {id : InvokeId} {connection old new : Connection}

theorem connections_setConnection (u : Nat) : (h.setConnection c new).connections.get? u =
    if u = c then some new else h.connections.get? u :=
  FiniteMap.get?_insert ..

theorem onConnection_eq (f : Connection → Connection) (there : h.connections.get? c = some old) :
    h.onConnection c f = h.setConnection c (f old) := by
  simp only [onConnection, setConnection, FiniteMap.modify, there]

theorem onConnection_none (f : Connection → Connection) (missing : h.connections.get? c = none) :
    h.onConnection c f = h := by
  simp only [onConnection, FiniteMap.modify, missing]

@[simp] theorem registry_onConnection (f : Connection → Connection) :
    (h.onConnection c f).registry = h.registry := rfl

/-- A connection goes on, and nothing is written to its helper. -/
theorem Inv.turn (inv : Inv h) (there : h.connections.get? c = some old)
    (named : new.about = old.about)
    (own : Own (h.decidedFor c) (h.handedTo c) old → Own (h.decidedFor c) (h.handedTo c) new)
    (fits : ∀ record, h.registry.get? old.invokeId = some record → record.connection = c →
      Fits (h.decidedFor c) (h.handedTo c) old record →
        Fits (h.decidedFor c) (h.handedTo c) new record) : Inv (h.setConnection c new) := by
  refine inv.update there connections_setConnection (fun id record found => ?_)
    (fun _ _ => ⟨rfl, rfl⟩) rfl named (own (inv.own c old there))
  refine ⟨record, found, rfl, rfl, fun _ => rfl, fun mine => fits record ?_ mine⟩
  rwa [inv.id_eq found mine there] at found

/-- The helper of a connection is written to. -/
theorem Inv.write (inv : Inv h) (there : h.connections.get? c = some old)
    (named : new.about = old.about) {reply : HookReply} (silent : old.phase.isSilent = true)
    (decision : new.decision = old.decision) (spoken : new.phase.isSilent = false)
    (owed : reply.IsDecision → h.decidedFor c = [reply])
    (fits : ∀ record, h.registry.get? old.invokeId = some record → record.connection = c →
      Fits (h.decidedFor c) [] old record → Fits (h.decidedFor c) [reply] new record) :
    Inv { h.setConnection c new with handed := h.handed ++ [(c, reply)] } := by
  have before := inv.own c old there
  have nothing := before.silent silent
  have handed : ({ h.setConnection c new with handed := h.handed ++ [(c, reply)] } :
      Hooks).handedTo c = [reply] := by
    rw [handedTo, List.filter_append, List.map_append]
    have : (h.handed.filter fun entry => entry.1 = c).map (·.2) = [] := nothing
    simp [this]
  refine inv.update there connections_setConnection (fun id record found => ?_)
    (fun u away => ⟨rfl, ?_⟩) rfl named ?_
  · refine ⟨record, found, rfl, rfl, fun _ => rfl, fun mine => ?_⟩
    rw [handed, nothing]
    rw [inv.id_eq found mine there] at found
    exact fits record found mine
  · simp [handedTo, Ne.symm away]
  · rw [handed]
    exact {
      sent := by rw [decision]; exact before.sent
      silent := by
        intro silent'
        rw [spoken] at silent'
        cases silent'
      once := by simp
      writing := by
        intro reply' phase
        simp [phase, Phase.isSilent] at spoken
      handed := by
        intro reply' member decision
        obtain rfl := List.mem_singleton.mp member
        exact owed decision }

/-! ### Steps of a connection -/

theorem Inv.published (inv : Inv h) (there : h.connections.get? c = some connection) :
    Inv (h.published c connection) := by
  unfold Hooks.published
  split
  · next publishing =>
    refine inv.turn there rfl (fun own => ?_) fun record _ _ fits => ?_
    · exact own.turns (.inr rfl) (by simp [publishing]) (by simp)
    · exact { fits with
        waiting := by simpa [publishing] using fits.waiting
        decided := by simpa [publishing] using fits.decided }
  · exact inv

theorem Inv.arrives (inv : Inv h) (event : ConnEvent)
    (there : h.connections.get? c = some connection) : Inv (h.arrives c connection event) := by
  unfold Hooks.arrives
  split
  · exact inv
  · exact inv.turn there rfl (fun own => { own with }) fun record _ _ fits => { fits with }

theorem Inv.select (inv : Inv h) (branch : Branch)
    (there : h.connections.get? c = some connection) : Inv (h.select c connection branch) := by
  unfold Hooks.select
  split
  · next until_ waiting =>
    cases branch with
    | decision =>
      simp only
      split
      · exact inv
      · next reply polled =>
        have sent := Oneshot.poll_value_iff.mp polled
        refine inv.turn there rfl (fun own => ?_) fun record _ _ fits => ?_
        · refine own.turns (.inl rfl) (by simp [waiting]) ?_
          rintro _ ⟨⟩ -
          exact own.sent reply sent
        · exact { fits with
            waiting := by simpa [waiting, sent] using fits.waiting
            decided := by simpa [waiting, sent] using fits.decided }
      · next polled =>
        -- the sender is dropped only with a record that ends
        have closed := Oneshot.poll_closed_iff.mp polled
        refine inv.turn there rfl (fun own => ?_) fun record _ _ fits => ?_
        · refine own.turns (.inl rfl) (by simp [waiting]) ?_
          rintro _ ⟨⟩ decision
          simp [HookReply.IsDecision, HookReply.cancelled] at decision
        · exact { fits with
            waiting := by simpa [waiting, closed] using fits.waiting
            decided := fun state => absurd state (by simpa [waiting, closed] using fits.decided) }
    | event =>
      simp only
      split
      · exact inv
      · exact inv.turn there rfl (fun own => own.turns (.inl rfl) (by simp [waiting]) (by simp))
          fun record _ _ fits => fits.turnsAway rfl rfl
    | timeout =>
      simp only
      split
      · exact inv.turn there rfl (fun own => own.turns (.inl rfl) (by simp [waiting]) (by simp))
          fun record _ _ fits => fits.turnsAway rfl rfl
      · exact inv
  · exact inv

theorem Inv.wrote (inv : Inv h) (ok : Bool) (there : h.connections.get? c = some connection) :
    Inv (h.wrote c connection ok) := by
  unfold Hooks.wrote
  split
  · next reply writing =>
    refine inv.write there ?_ (by simp [writing]) ?_ ?_
      ((inv.own c connection there).writing reply writing) fun record _ _ fits => ?_
    · rfl
    · rfl
    · cases ok <;> simp
    exact { fits with
      waiting := fun state => absurd state (by simpa [writing] using fits.waiting)
      decided := by
        intro state
        obtain ⟨reply', only, where_⟩ := fits.decided state
        have same : reply = reply' := by simpa [writing] using where_
        exact ⟨reply', only, .inr (.inr (.inl ⟨by cases ok <;> simp, by simp [same]⟩))⟩ }
  · exact inv

/-- The wait for the acknowledgement ends. -/
theorem Inv.answers (inv : Inv h) {until_ : Nat} {delivered : Bool}
    (there : h.connections.get? c = some connection)
    (phase : connection.phase = .acknowledging until_) (event : Oneshot ConnEvent) :
    Inv (h.setConnection c { connection with phase := .completing delivered, event }) := by
  refine inv.turn there rfl (fun own => own.turns (.inr rfl) (by simp) (by simp))
    fun record _ _ fits => ?_
  exact { fits with
    waiting := by simpa [phase] using fits.waiting
    decided := by simpa [phase] using fits.decided }

theorem Inv.acknowledged (inv : Inv h) (ackOf : String → Option String)
    (there : h.connections.get? c = some connection) :
    Inv (h.acknowledged ackOf c connection) := by
  unfold Hooks.acknowledged
  split
  · next until_ phase =>
    split
    · exact inv
    · split
      · exact { inv.answers there phase .over with }
      · exact inv.answers there phase .over
    · exact inv.answers there phase .over
  · exact inv

theorem Inv.unacknowledged (inv : Inv h) (there : h.connections.get? c = some connection) :
    Inv (h.unacknowledged c connection) := by
  unfold Hooks.unacknowledged
  split
  · next until_ phase =>
    split
    · exact inv.answers there phase connection.event
    · exact inv
  · exact inv

theorem Inv.refused (inv : Inv h) (there : h.connections.get? c = some connection) :
    Inv (h.refused c connection) := by
  unfold Hooks.refused
  split
  · next expiring =>
    refine inv.write there ?_ (by simp [expiring]) ?_ ?_ ?_ fun record _ _ fits => ?_
    · rfl
    · rfl
    · simp
    · simp [HookReply.IsDecision, HookReply.expired]
    · exact {
        waiting := fun state => absurd state (by simpa [expiring] using fits.waiting)
        responder := fits.responder
        decided := fun state => absurd state (by simpa [expiring] using fits.decided) }
  · exact inv

/-! ### Operations of the registry -/

variable {record record' : PendingRecord} {P : PendingState → Prop}

theorem registry_setRecord (k : InvokeId) : (h.setRecord id record).registry.get? k =
    if k = id then some record else h.registry.get? k :=
  FiniteMap.get?_insert ..

/-- A record stays what it is or ends, and keeps what it has of its invoke. -/
structure Turn (id : InvokeId) (record new : PendingRecord) : Prop where
  connection : new.connection = record.connection
  about : new.about id = record.about id
  responder : new.responder = true → record.responder = true
  state : new.state = record.state ∧ new.responder = record.responder ∨
    new.state.isTerminal = true ∧ (new.state = record.state ∨ record.state.Leads new.state)

/-- A record ends in a state that its own leads to. -/
theorem turn_leads {old state : PendingState} {t : Bool} (before : record.state = old)
    (leads : old.Leads state) (final : state.isTerminal = true) :
    Turn id record { record with state, deliveryTx := t } :=
  ⟨rfl, rfl, fun has => has, .inr ⟨final, .inr (before ▸ leads)⟩⟩

/-- An operation on the record of an id, whose state is as `P` says afterwards.  The sender of the
decision may be dropped. -/
inductive Touches (h : Hooks) (id : InvokeId) (P : PendingState → Prop) : Hooks → Prop where
  | rest (ends : ∀ record, h.registry.get? id = some record → P record.state) : Touches h id P h
  | turns {record new : PendingRecord} (found : h.registry.get? id = some record)
      (turn : Turn id record new) (ends : P new.state) : Touches h id P (h.setRecord id new)
  | drops {record new : PendingRecord} (found : h.registry.get? id = some record)
      (turn : Turn id record new) (final : new.state.isTerminal = true) (ends : P new.state) :
      Touches h id P ((h.setRecord id new).dropResponder record.connection)

theorem touches_expireOrAlreadyExpired (id : InvokeId) :
    Touches h id (fun state => state ≠ .waiting ∧
        ((h.expireOrAlreadyExpired id).2 = true → state ≠ .decided))
      (h.expireOrAlreadyExpired id).1 := by
  unfold expireOrAlreadyExpired
  split
  · next missing => exact .rest (by simp [missing])
  · next record found =>
    split
    · next waiting =>
      exact .turns found (turn_leads waiting .expired rfl) (by simp)
    · next expired =>
      exact .turns found ⟨rfl, rfl, fun has => has, .inr ⟨rfl, .inl expired.symm⟩⟩ (by simp)
    · next waiting _ => exact .rest (by simpa [found] using waiting)

theorem touches_finalizeDecidedAfterRace (id : InvokeId) :
    Touches h id (· ≠ .decided) (h.finalizeDecidedAfterRace id) := by
  unfold finalizeDecidedAfterRace
  split
  · next missing => exact .rest (by simp [missing])
  · next record found =>
    split
    · next decided =>
      exact .turns found (turn_leads decided .raced rfl) (by simp)
    · next other => exact .rest (by simpa [found] using other)

theorem touches_markRuntimeProcessed (id : InvokeId) :
    Touches h id (fun _ => True) (h.markRuntimeProcessed id) := by
  unfold markRuntimeProcessed
  split
  · exact .rest fun _ _ => trivial
  · next record found =>
    split
    · next returned =>
      exact .turns found (turn_leads returned .processed rfl) trivial
    · exact .rest fun _ _ => trivial

theorem touches_takeDelivery (id : InvokeId) :
    Touches h id (fun _ => True) (h.takeDelivery id).1 := by
  unfold takeDelivery
  split
  · exact .rest fun _ _ => trivial
  · next record found =>
    split
    · exact .turns found ⟨rfl, rfl, fun has => has, .inl ⟨rfl, rfl⟩⟩ trivial
    · exact .rest fun _ _ => trivial

theorem touches_cancel (id : InvokeId) :
    Touches h id (fun state => state ≠ .waiting ∧ ((h.cancel id).2 = true → state ≠ .decided))
      (h.cancel id).1 := by
  unfold cancel
  split
  · next missing => exact .rest (by simp [missing])
  · next record found =>
    split
    · next other => exact .rest (by simpa [found] using other)
    · next waiting =>
      have turn : Turn id record { record with state := .handledLocally, responder := false } :=
        ⟨rfl, rfl, by simp, .inr ⟨rfl, .inr (not_not.mp waiting ▸ .handledLocally)⟩⟩
      simp only
      split
      · exact .drops found turn rfl (by simp)
      · exact .turns found turn (by simp)

/-- The outcome of a delivery is told after the record has ended. -/
theorem completeDelivery_cases (id : InvokeId) (outcome : DeliveryOutcome) :
    ∃ h', Touches h id (· ≠ .decided) h' ∧ (h.completeDelivery id outcome = h' ∨
      ∃ record, h.registry.get? id = some record ∧ record.state = .decided ∧
        h.completeDelivery id outcome = h'.onConnection record.connection fun connection =>
          { connection with delivery := connection.delivery.send outcome }) := by
  unfold completeDelivery
  split
  · next missing => exact ⟨h, .rest (by simp [missing]), .inl rfl⟩
  · next record found =>
    split
    · next other => exact ⟨h, .rest (by simpa [found] using other), .inl rfl⟩
    · next decided =>
      have decided := not_not.mp decided
      cases outcome
      case' delivered =>
        refine ⟨_, .turns found (turn_leads (t := false) decided .returned rfl) (by simp), ?_⟩
      case' unconfirmed =>
        refine ⟨_, .turns found (turn_leads (t := false) decided .unconfirmed rfl) (by simp), ?_⟩
      all_goals
        by_cases told : record.deliveryTx = true
        · exact .inr ⟨record, found, decided, if_pos told⟩
        · exact .inl (if_neg told)

/-- The state after a decision was accepted for a record that waits. -/
def accept (h : Hooks) (id : InvokeId) (record : PendingRecord) (connection : Connection)
    (reply : HookReply) : Hooks :=
  { (h.setRecord id { record with state := .decided, responder := false }).setConnection
      record.connection { connection with decision := .sent reply } with
    decided := h.decided ++ [(record.connection, reply)] }

/-- A decision is accepted in time, or it changes nothing but that a record may end. -/
theorem resolve_cases (id : InvokeId) (reply : HookReply) :
    (∃ error h', h.resolve id reply = (h', .error error) ∧ Touches h id (fun _ => True) h') ∨
      ∃ record connection, h.registry.get? id = some record ∧ record.state = .waiting ∧
        h.now < record.deadline ∧ h.connections.get? record.connection = some connection ∧
          connection.decision = .fresh ∧
            h.resolve id reply = (h.accept id record connection reply, .ok ()) := by
  unfold resolve
  split
  · exact .inl ⟨_, _, rfl, .rest fun _ _ => trivial⟩
  · next record found =>
    split
    · exact .inl ⟨_, _, rfl, .rest fun _ _ => trivial⟩
    · exact .inl ⟨_, _, rfl, .rest fun _ _ => trivial⟩
    · exact .inl ⟨_, _, rfl, .rest fun _ _ => trivial⟩
    · exact .inl ⟨_, _, rfl, .rest fun _ _ => trivial⟩
    · exact .inl ⟨_, _, rfl, .rest fun _ _ => trivial⟩
    · next waiting =>
      have gone : Touches h id (fun _ => True)
          (h.setRecord id { record with state := .handledLocally, responder := false }) :=
        .turns found ⟨rfl, rfl, by simp, .inr ⟨rfl, .inr (waiting ▸ .handledLocally)⟩⟩ trivial
      split
      · exact .inl ⟨_, _, rfl, .turns found
          (turn_leads waiting .expired rfl) trivial⟩
      · next inTime =>
        split
        · exact .inl ⟨_, _, rfl, .turns found
            (turn_leads waiting .handledLocally rfl) trivial⟩
        · split
          · exact .inl ⟨_, _, rfl, gone⟩
          · next connection there =>
            split
            · next ready =>
              have fresh := Oneshot.isFresh_iff.mp ready
              simp only [fresh, Oneshot.send_fresh]
              exact .inr
                ⟨record, connection, found, waiting, Nat.not_le.mp inTime, there, fresh, rfl⟩
            · exact .inl ⟨_, _, rfl, gone⟩

/-! ### What they keep -/

theorem Touches.ends (touches : Touches h id P h')
    (found : h'.registry.get? id = some record) : P record.state := by
  cases touches with
  | rest ends => exact ends record found
  | turns _ _ ends =>
    rw [registry_setRecord, if_pos rfl] at found
    cases found
    exact ends
  | drops _ _ _ ends =>
    rw [dropResponder, registry_onConnection, registry_setRecord, if_pos rfl] at found
    cases found
    exact ends

/-- No connection changes but for the channel of its decision. -/
theorem Touches.connections (touches : Touches h id P h') :
    ∃ decision : Nat → Connection → Oneshot HookReply, ∀ c, h'.connections.get? c =
      (h.connections.get? c).map fun connection =>
        { connection with decision := decision c connection } := by
  cases touches with
  | rest | turns => exact ⟨fun _ connection => connection.decision, fun c => Option.map_id'.symm⟩
  | @drops record new =>
    refine ⟨fun c connection => if c = record.connection then connection.decision.dropSender
      else connection.decision, fun c => ?_⟩
    change (h.connections.modify record.connection _).get? c = _
    rw [FiniteMap.get?_modify]
    split
    · next here => simp [here]
    · next away => simp [away]

theorem Touches.there (touches : Touches h id P h')
    (there : h.connections.get? c = some connection) :
    ∃ decision, h'.connections.get? c = some { connection with decision } := by
  obtain ⟨decision, all⟩ := touches.connections
  exact ⟨decision c connection, by rw [all, there]; rfl⟩

theorem completeDelivery_there (there : h.connections.get? c = some connection)
    (outcome : DeliveryOutcome) : ∃ decision delivery,
      (h.completeDelivery connection.invokeId outcome).connections.get? c =
        some { connection with decision, delivery } ∧
      ∀ record, (h.completeDelivery connection.invokeId outcome).registry.get?
        connection.invokeId = some record → record.state ≠ .decided := by
  obtain ⟨h', touches, told⟩ := completeDelivery_cases (h := h) connection.invokeId outcome
  obtain ⟨decision, there'⟩ := touches.there there
  rcases told with same | ⟨record, -, -, same⟩
  · exact ⟨decision, connection.delivery, by rw [same]; exact there', fun _ found =>
      touches.ends (same ▸ found)⟩
  · refine ⟨decision, if c = record.connection then connection.delivery.send outcome
      else connection.delivery, ?_, fun record found =>
        touches.ends (show h'.registry.get? _ = some record by rwa [same] at found)⟩
    rw [same]
    change (h'.connections.modify record.connection _).get? c = _
    rw [FiniteMap.get?_modify]
    split
    · next here =>
      subst here
      rw [there']
      rfl
    · exact there'

/-- One record turns. -/
theorem Inv.turned (inv : Inv h) (found : h.registry.get? id = some record)
    (turn : Turn id record record') : Inv (h.setRecord id record') := by
  refine inv.setRecord found turn.connection turn.about fun fits => ?_
  rcases turn.state with ⟨state, responder⟩ | ⟨final, -⟩
  · exact fits.congr state responder
  · exact fits.ends final turn.responder

/-- The sender of a decision is dropped with a record that does not wait. -/
theorem Inv.dropResponder (inv : Inv h)
    (ended : ∀ id record, h.registry.get? id = some record → record.connection = c →
      record.state ≠ .waiting) : Inv (h.dropResponder c) := by
  cases there : h.connections.get? c with
  | none => rwa [Hooks.dropResponder, onConnection_none _ there]
  | some connection =>
    rw [Hooks.dropResponder, onConnection_eq _ there]
    refine inv.turn there rfl (fun own => ?_) fun record found mine fits => ?_
    · exact { own with
        sent := fun reply sent => own.sent reply (Oneshot.dropSender_sent_iff.mp sent) }
    · exact { fits with
        waiting := fun state => absurd state (ended _ record found mine)
        decided := by simpa only [Oneshot.dropSender_sent_iff] using fits.decided }

/-- The channel of the outcome is not looked at here. -/
theorem Inv.delivery (inv : Inv h) (f : Oneshot DeliveryOutcome → Oneshot DeliveryOutcome) :
    Inv (h.onConnection c fun connection =>
      { connection with delivery := f connection.delivery }) := by
  cases there : h.connections.get? c with
  | none => rwa [onConnection_none _ there]
  | some connection =>
    rw [onConnection_eq _ there]
    exact inv.turn there rfl (fun own => { own with }) fun record _ _ fits => { fits with }

theorem Inv.touches (inv : Inv h) (touches : Touches h id P h') : Inv h' := by
  cases touches with
  | rest => exact inv
  | turns found turn => exact inv.turned found turn
  | @drops record new found turn final =>
    refine (inv.turned found turn).dropResponder fun k other found' mine => ?_
    rw [registry_setRecord] at found'
    split at found'
    · cases found'
      intro waiting
      rw [waiting] at final
      cases final
    · next away =>
      obtain ⟨connection, there, same, -⟩ := inv.known id record found
      have named := Connection.invokeId_of_about same
      exact absurd ((inv.id_eq found' mine there).trans named) away

theorem Inv.completeDelivery (inv : Inv h) (id : InvokeId) (outcome : DeliveryOutcome) :
    Inv (h.completeDelivery id outcome) := by
  obtain ⟨h', touches, same | ⟨_, -, -, same⟩⟩ := completeDelivery_cases (h := h) id outcome
  · exact same ▸ inv.touches touches
  · exact same ▸ (inv.touches touches).delivery _

theorem handedTo_append (h : Hooks) (entry : Nat × HookReply) (u : Nat) :
    ({ h with handed := h.handed ++ [entry] } : Hooks).handedTo u =
      h.handedTo u ++ if entry.1 = u then [entry.2] else [] := by
  by_cases mine : entry.1 = u <;> simp [handedTo, mine]

theorem decidedFor_append (h : Hooks) (entry : Nat × HookReply) (u : Nat) :
    ({ h with decided := h.decided ++ [entry] } : Hooks).decidedFor u =
      h.decidedFor u ++ if entry.1 = u then [entry.2] else [] := by
  by_cases mine : entry.1 = u <;> simp [decidedFor, mine]

/-- A decision is accepted. -/
theorem Inv.accept (inv : Inv h) {reply : HookReply}
    (found : h.registry.get? id = some record) (waiting : record.state = .waiting)
    (there : h.connections.get? record.connection = some connection)
    (fresh : connection.decision = .fresh) : Inv (h.accept id record connection reply) := by
  obtain ⟨connection', there', same, fits⟩ := inv.known id record found
  rw [there] at there'
  cases there'
  obtain ⟨responder, ready⟩ := fits.waiting waiting
  have isOpen : connection.phase.isOpen = true := by simpa [fresh] using ready
  have none_ := fits.responder responder
  have own := inv.own _ connection there
  have silent : connection.phase.isSilent = true := by
    cases phase : connection.phase <;> simp [phase] at isOpen ⊢
  have decided (u : Nat) : (h.accept id record connection reply).decidedFor u =
      h.decidedFor u ++ if record.connection = u then [reply] else [] :=
    decidedFor_append h (record.connection, reply) u
  have only := decided record.connection
  rw [none_, if_pos rfl, List.nil_append] at only
  refine inv.update there connections_setConnection (fun k other found' => ?_) (fun u away => ?_)
    rfl rfl ?_
  · change (h.registry.insert id _).get? k = some other at found'
    rw [FiniteMap.get?_insert] at found'
    split at found'
    · next here =>
      cases found'
      subst here
      refine ⟨record, found, rfl, rfl, fun away => absurd rfl away, fun _ _ => ?_⟩
      rw [only]
      exact {
        waiting := nofun
        responder := nofun
        decided := fun _ => ⟨reply, rfl, .inl ⟨isOpen, rfl⟩⟩ }
    · next away =>
      refine ⟨other, found', rfl, rfl, fun _ => rfl, fun mine _ => ?_⟩
      exact absurd ((inv.id_eq found' mine there).trans (Connection.invokeId_of_about same)) away
  · rw [decided u, if_neg (Ne.symm away), List.append_nil]
    exact ⟨rfl, rfl⟩
  · rw [only]
    exact {
      sent := fun reply' sent => by cases sent; rfl
      silent := own.silent
      once := own.once
      writing := fun reply' phase => by
        have phase : connection.phase = .writing reply' := phase
        simp [phase] at isOpen
      handed := fun reply' member => by
        have nothing : h.handedTo record.connection = [] := own.silent silent
        exact absurd (nothing ▸ member) (List.not_mem_nil) }

theorem Inv.resolve (inv : Inv h) (id : InvokeId) (reply : HookReply) :
    Inv (h.resolve id reply).1 := by
  rcases resolve_cases (h := h) id reply with ⟨_, h', same, touches⟩ |
    ⟨record, connection, found, waiting, -, there, fresh, same⟩
  · rw [same]
    exact inv.touches touches
  · rw [same]
    exact inv.accept found waiting there fresh

/-! ### New connections -/

theorem purgedConnection_eq (h : Hooks) (c : Nat) (connection : Connection) :
    ∃ decision delivery, h.purgedConnection c connection = { connection with decision, delivery } ∧
      (decision = connection.decision ∨ decision = connection.decision.dropSender) := by
  unfold purgedConnection
  split
  · exact ⟨connection.decision, connection.delivery, rfl, .inl rfl⟩
  · next record _ =>
    split
    · refine ⟨_, _, rfl, ?_⟩
      cases record.responder <;> simp
    · exact ⟨connection.decision, connection.delivery, rfl, .inl rfl⟩

/-- The connection of a record that stays is left as it is. -/
theorem purgedConnection_of_stays (found : h.registry.get? connection.invokeId = some record)
    (stays : record.stays h.now = true) : h.purgedConnection c connection = connection := by
  simp [purgedConnection, found, stays]

theorem Inv.purge (inv : Inv h) : Inv h.purge where
  known id record found := by
    obtain ⟨found, stays⟩ := FiniteMap.get?_of_filter found
    obtain ⟨connection, there, same, fits⟩ := inv.known id record found
    refine ⟨connection, ?_, same, fits⟩
    rw [← Connection.invokeId_of_about same] at found
    simp [Hooks.purge, there, purgedConnection_of_stays found stays]
  own c connection found := by
    simp only [Hooks.purge, FiniteMap.get?_mapVal, Option.map_eq_some_iff] at found
    obtain ⟨old, there, rfl⟩ := found
    obtain ⟨decision, delivery, new, dropped⟩ := h.purgedConnection_eq c old
    have own := inv.own c old there
    rw [new]
    refine { own with sent := fun reply sent => own.sent reply ?_ }
    rcases dropped with same | dropped
    · rwa [← same]
    · exact Oneshot.dropSender_sent_iff.mp (dropped ▸ sent)
  others c missing := by
    simp only [Hooks.purge, FiniteMap.get?_mapVal, Option.map_eq_none_iff] at missing
    exact inv.others c missing
  fresh c above := by
    obtain ⟨missing, nothing⟩ := inv.fresh c above
    exact ⟨by simp [Hooks.purge, missing], nothing⟩

/-- An invoke is registered. -/
theorem Inv.registers (inv : Inv h) (invoke : HookInvoke) (kind : InvokeKind) :
    Inv { (h.setRecord invoke.invokeId (h.newRecord invoke kind)).setConnection h.accepted
      (newConnection invoke kind) with accepted := h.accepted + 1 } := by
  obtain ⟨missing, nothing⟩ := inv.fresh h.accepted (Nat.le_refl _)
  obtain ⟨undecided, -⟩ := inv.others h.accepted missing
  have taken {c : Nat} {connection : Connection} (there : h.connections.get? c = some connection) :
      c ≠ h.accepted := by
    rintro rfl
    simp [missing] at there
  refine ⟨fun id record found => ?_, fun c connection found => ?_, fun c found => ?_,
    fun c above => ?_⟩
  · change (h.registry.insert _ _).get? id = some record at found
    rw [FiniteMap.get?_insert] at found
    split at found
    · next here =>
      cases found
      subst here
      refine ⟨newConnection invoke kind, connections_setConnection _ |>.trans (if_pos rfl), rfl, ?_⟩
      exact {
        waiting := fun _ => ⟨rfl, .inl ⟨rfl, rfl⟩⟩
        responder := fun _ => undecided
        decided := nofun }
    · obtain ⟨connection, there, same, fits⟩ := inv.known id record found
      exact ⟨connection, (connections_setConnection _).trans ((if_neg (taken there)).trans there),
        same, fits⟩
  · change (h.connections.insert _ _).get? c = some connection at found
    rw [FiniteMap.get?_insert] at found
    split at found
    · next here =>
      cases found
      subst here
      exact {
        sent := nofun
        silent := fun _ => nothing
        once := by
          change (h.handedTo h.accepted).length ≤ 1
          simp [nothing]
        writing := nofun
        handed := fun reply member => absurd (nothing ▸ member) List.not_mem_nil }
    · exact inv.own c connection found
  · change (h.connections.insert _ _).get? c = none at found
    rw [FiniteMap.get?_insert] at found
    split at found
    · cases found
    · exact inv.others c found
  · have above : h.accepted + 1 ≤ c := above
    obtain ⟨missing', nothing'⟩ := inv.fresh c (by omega)
    exact ⟨(connections_setConnection _).trans ((if_neg (by omega)).trans missing'), nothing'⟩

/-- An invoke is refused. -/
theorem Inv.refuses (inv : Inv h) (message : String) :
    Inv { h with
      handed := h.handed ++ [(h.accepted, .rejected message)], accepted := h.accepted + 1 } := by
  have handed (u : Nat) : ({ h with
      handed := h.handed ++ [(h.accepted, .rejected message)],
      accepted := h.accepted + 1 } : Hooks).handedTo u =
        h.handedTo u ++ if h.accepted = u then [.rejected message] else [] :=
    handedTo_append h (h.accepted, .rejected message) u
  obtain ⟨missing, nothing⟩ := inv.fresh h.accepted (Nat.le_refl _)
  have away {c : Nat} {connection : Connection} (there : h.connections.get? c = some connection) :
      h.accepted ≠ c := by
    rintro rfl
    simp [missing] at there
  refine ⟨fun id record found => ?_, fun c connection found => ?_, fun c found => ?_,
    fun c above => ?_⟩
  · obtain ⟨connection, there, same, fits⟩ := inv.known id record found
    rw [handed, if_neg (away there), List.append_nil]
    exact ⟨connection, there, same, fits⟩
  · rw [handed, if_neg (away found), List.append_nil]
    exact inv.own c connection found
  · rw [handed]
    obtain ⟨undecided, once, others⟩ := inv.others c found
    refine ⟨undecided, ?_⟩
    split
    · next here =>
      rw [← here, nothing]
      simp [HookReply.IsDecision, HookReply.rejected]
    · rw [List.append_nil]
      exact ⟨once, others⟩
  · have above : h.accepted + 1 ≤ c := above
    obtain ⟨missing', nothing'⟩ := inv.fresh c (by omega)
    rw [handed, if_neg (by omega), List.append_nil]
    exact ⟨missing', nothing'⟩

theorem Inv.connect (inv : Inv h) (invoke : HookInvoke) (kind : InvokeKind) :
    Inv (h.connect invoke kind) := by
  unfold Hooks.connect
  split
  · exact inv.refuses _
  · unfold Hooks.register
    split
    · exact inv.refuses _
    · exact inv.refuses _
    · next h' registered =>
      split at registered
      · cases registered
      · cases registered
        exact inv.purge.registers invoke kind

/-! ### A connection after its operation -/

/-- A connection whose record does not wait goes on without a word. -/
theorem Inv.rests (inv : Inv h) {phase : Phase} (there : h.connections.get? c = some old)
    (silent : phase.isSilent = true → old.phase.isSilent = true)
    (quiet : ∀ reply, phase ≠ .writing reply)
    (waiting : ∀ record, h.registry.get? old.invokeId = some record → record.connection = c →
      record.state ≠ .waiting)
    (decided : ∀ record, h.registry.get? old.invokeId = some record → record.state = .decided →
      phase.isLeaving = true) :
    Inv (h.onConnection c fun connection => { connection with phase }) := by
  rw [onConnection_eq _ there]
  refine inv.turn there rfl (fun own => ?_) fun record found mine fits => ?_
  · exact own.turns (.inr rfl) silent fun reply writing => absurd writing (quiet reply)
  · exact {
      waiting := fun state => absurd state (waiting record found mine)
      responder := fits.responder
      decided := fun state => by
        obtain ⟨reply, only, -⟩ := fits.decided state
        exact ⟨reply, only, .inr (.inr (.inr (decided record found state)))⟩ }

/-- The records of a connection that is neither open nor settling do not wait. -/
theorem Inv.not_waiting (inv : Inv h) (there : h.connections.get? c = some connection)
    (shut : connection.phase.isOpen = false) (settled : connection.phase.isSettling = false)
    (found : h.registry.get? id = some record) (mine : record.connection = c) :
    record.state ≠ .waiting := by
  intro state
  obtain ⟨connection', there', -, fits⟩ := inv.known id record found
  rw [mine, there] at there'
  cases there'
  have waits := (fits.waiting state).2
  rw [shut, settled] at waits
  simp at waits

theorem Inv.completed (inv : Inv h) (there : h.connections.get? c = some connection) :
    Inv (h.completed c connection) := by
  unfold Hooks.completed
  split
  · next delivered phase =>
    have after := inv.completeDelivery connection.invokeId
      (if delivered then .delivered else .unconfirmed)
    obtain ⟨_, _, there', ends⟩ := completeDelivery_there there
      (if delivered then .delivered else .unconfirmed)
    refine after.rests there' (by simp) (by simp) (fun record found mine => ?_)
      fun record found state => absurd state (ends record found)
    exact after.not_waiting there' (by simp [phase]) (by simp [phase]) found mine
  · exact inv

/-- A connection that has turned away learns whether its record is settled. -/
theorem Inv.settles (inv : Inv h) {op : Hooks × Bool}
    (there : h.connections.get? c = some connection) (silent : connection.phase.isSilent = true)
    (touches : Touches h connection.invokeId
      (fun state => state ≠ .waiting ∧ (op.2 = true → state ≠ .decided)) op.1) :
    Inv (op.1.onConnection c fun connection =>
      { connection with phase := if op.2 then .expiring else .finalizing }) := by
  obtain ⟨_, there'⟩ := touches.there there
  refine (inv.touches touches).rests there' (fun _ => silent) ?_
    (fun record found _ => (touches.ends found).1) fun record found state => ?_
  · intro reply
    cases op.2 <;> simp
  · cases settled : op.2 with
    | true => exact absurd state ((touches.ends found).2 settled)
    | false => rfl

theorem Inv.settled (inv : Inv h) (there : h.connections.get? c = some connection) :
    Inv (h.settled c connection) := by
  unfold Hooks.settled
  split
  · next timedOut phase =>
    have silent : connection.phase.isSilent = true := by simp [phase]
    cases timedOut with
    | true => exact inv.settles there silent (touches_expireOrAlreadyExpired _)
    | false => exact inv.settles there silent (touches_cancel _)
  · exact inv

theorem Inv.finalized (inv : Inv h) (there : h.connections.get? c = some connection) :
    Inv (h.finalized c connection) := by
  unfold Hooks.finalized
  split
  · next phase =>
    have touches := touches_finalizeDecidedAfterRace (h := h) connection.invokeId
    have after := inv.touches touches
    obtain ⟨_, there'⟩ := touches.there there
    refine after.rests there' (by simp [phase]) (by simp) (fun record found mine => ?_)
      fun record found state => absurd state (touches.ends found)
    exact after.not_waiting there' (by simp [phase]) (by simp [phase]) found mine
  · exact inv

/-! ### Steps -/

theorem Inv.ofConnection (inv : Inv h) {move : Connection → Hooks}
    (keeps : ∀ connection, h.connections.get? c = some connection → Inv (move connection)) :
    Inv (h.ofConnection c move) := by
  unfold Hooks.ofConnection
  split
  · exact inv
  · next connection there => exact keeps connection there

/-- Commands are no part of the invariant. -/
theorem Inv.setCommand (inv : Inv h) (n : Nat) (command : Command) :
    Inv (h.setCommand n command) :=
  { inv with }

theorem Inv.proceed (inv : Inv h) (n : Nat) (command : Command) : Inv (h.proceed n command) := by
  unfold Hooks.proceed
  split
  · exact inv.setCommand ..
  · exact inv.setCommand ..
  · next id reply _ =>
    have after := inv.resolve id reply
    split
    · next resolved =>
      rw [resolved] at after
      exact after.setCommand ..
    · next resolved =>
      rw [resolved] at after
      exact after.setCommand ..
  · next id _ _ =>
    have after := inv.touches (touches_takeDelivery id)
    split
    · next taken =>
      rw [taken] at after
      exact after.setCommand ..
    · next taken =>
      rw [taken] at after
      exact after.setCommand ..
  · split
    · exact inv
    · exact (inv.delivery fun _ => .over).setCommand ..
  · exact inv

theorem Inv.step (deviceId : String) (ackOf : String → Option String) (inv : Inv h)
    (input : Input) : Inv (h.step deviceId ackOf input) := by
  cases input with
  | tick => exact { inv with }
  | connect invoke kind => exact inv.connect invoke kind
  | published c => exact inv.ofConnection fun _ there => inv.published there
  | arrives c event => exact inv.ofConnection fun _ there => inv.arrives event there
  | select c branch => exact inv.ofConnection fun _ there => inv.select branch there
  | wrote c ok => exact inv.ofConnection fun _ there => inv.wrote ok there
  | acknowledged c => exact inv.ofConnection fun _ there => inv.acknowledged ackOf there
  | unacknowledged c => exact inv.ofConnection fun _ there => inv.unacknowledged there
  | completed c => exact inv.ofConnection fun _ there => inv.completed there
  | settled c => exact inv.ofConnection fun _ there => inv.settled there
  | finalized c => exact inv.ofConnection fun _ there => inv.finalized there
  | refused c => exact inv.ofConnection fun _ there => inv.refused there
  | cancel id => exact inv.touches (touches_cancel id)
  | processed id => exact inv.touches (touches_markRuntimeProcessed id)
  | command key payload =>
    simp only [Hooks.step]
    split
    · exact { inv with }
    · exact inv
  | proceed n =>
    simp only [Hooks.step]
    split
    · exact inv
    · exact inv.proceed n _
  | commandTimeout n =>
    simp only [Hooks.step]
    split
    · exact inv
    · split
      · split
        · exact (inv.delivery fun _ => .over).setCommand ..
        · exact inv
      · exact inv

theorem inv_run (deviceId : String) (ackOf : String → Option String) (inputs : List Input) :
    Inv (run deviceId ackOf inputs) := by
  induction inputs using List.reverseRecOn with
  | nil => exact inv_init
  | append_singleton before input inductionHypothesis =>
    rw [run, List.foldl_append]
    exact inductionHypothesis.step deviceId ackOf input

/-! ### What a step does to the records and the replies -/

variable {h'' : Hooks}

theorem Moves.refl (h : Hooks) : Moves h h where
  leads id record record' found found' _ := by
    rw [found] at found'
    cases found'
    exact .inl rfl
  accepts := .inl rfl
  decided _ _ := rfl
  handed _ _ := rfl

/-- Nothing more happens to the records and the replies. -/
theorem Moves.then (moves : Moves h h') (registry : h''.registry = h'.registry)
    (decided : h''.decided = h'.decided) (handed : h''.handed = h'.handed) : Moves h h'' where
  leads := by rw [registry]; exact moves.leads
  accepts := by rw [decided]; exact moves.accepts
  decided c := by
    have same : h''.decidedFor c = h'.decidedFor c := by rw [decidedFor, decided, decidedFor]
    rw [same]
    exact moves.decided c
  handed c := by
    have same : h''.handedTo c = h'.handedTo c := by rw [handedTo, handed, handedTo]
    rw [same]
    exact moves.handed c

theorem Moves.of_eq (registry : h'.registry = h.registry) (decided : h'.decided = h.decided)
    (handed : h'.handed = h.handed) : Moves h h' :=
  (Moves.refl h).then registry decided handed

theorem leads_setRecord (found : h.registry.get? id = some record)
    (leads : record'.state = record.state ∨ record.state.Leads record'.state) (k : InvokeId)
    (old new : PendingRecord) (old_ : h.registry.get? k = some old)
    (new_ : (h.setRecord id record').registry.get? k = some new) :
    new.state = old.state ∨ old.state.Leads new.state := by
  rw [registry_setRecord] at new_
  split at new_
  · next here =>
    subst here
    rw [found] at old_
    cases old_
    cases new_
    exact leads
  · rw [old_] at new_
    cases new_
    exact .inl rfl

theorem Touches.moves (touches : Touches h id P h') : Moves h h' := by
  have turned {record new : PendingRecord} (found : h.registry.get? id = some record)
      (turn : Turn id record new) : Moves h (h.setRecord id new) :=
    { Moves.refl h with
      leads := fun k old new old_ new_ _ => leads_setRecord found
        (turn.state.elim (fun same => .inl same.1) And.right) k old new old_ new_ }
  cases touches with
  | rest => exact .refl h
  | turns found turn => exact turned found turn
  | drops found turn => exact (turned found turn).then rfl rfl rfl

/-- A helper that has had no reply is written to. -/
theorem Moves.write (silent : h.handedTo c = []) (reply : HookReply)
    (registry : h'.registry = h.registry) (decided : h'.decided = h.decided)
    (handed : h'.handed = h.handed ++ [(c, reply)]) : Moves h h' where
  leads := by rw [registry]; exact (Moves.refl h).leads
  accepts := .inl decided
  decided u _ := by rw [decidedFor, decided]; rfl
  handed u spoken := by
    have appended : h'.handedTo u = h.handedTo u ++ if c = u then [reply] else [] := by
      rw [handedTo, handed]
      exact handedTo_append h (c, reply) u
    have away : c ≠ u := by
      rintro rfl
      exact spoken silent
    rw [appended, if_neg away, List.append_nil]

/-- A connection goes on, and neither its outcome nor its acknowledgement is new. -/
structure Calm (connection connection' : Connection) : Prop where
  invoke : connection'.invoke = connection.invoke
  kind : connection'.kind = connection.kind
  completing : connection'.phase = .completing true → connection.phase = .completing true
  delivery : ∀ outcome, connection'.delivery = .sent outcome → connection.delivery = .sent outcome

theorem Calm.refl (connection : Connection) : Calm connection connection :=
  ⟨rfl, rfl, id, fun _ => id⟩

/-- A step that tells nothing new of commands, acknowledgements and outcomes. -/
structure Frame (h h' : Hooks) : Prop extends Moves h h' where
  commands : h'.commands = h.commands
  received : h'.received = h.received
  confirmed : h'.confirmed = h.confirmed
  stays : ∀ c connection, h.connections.get? c = some connection →
    ∃ connection', h'.connections.get? c = some connection' ∧ Calm connection connection'
  missing : ∀ c, h.connections.get? c = none → h'.connections.get? c = none

/-- A step that accepts no decision either. -/
structure Tame (h h' : Hooks) : Prop extends Frame h h' where
  undecided : h'.decided = h.decided

theorem Tame.refl (h : Hooks) : Tame h h where
  toMoves := .refl h
  undecided := rfl
  commands := rfl
  received := rfl
  confirmed := rfl
  stays _ connection there := ⟨connection, there, .refl connection⟩
  missing _ none_ := none_

theorem Touches.tame (touches : Touches h id P h') : Tame h h' where
  toMoves := touches.moves
  undecided := by cases touches <;> rfl
  commands := by cases touches <;> rfl
  received := by cases touches <;> rfl
  confirmed := by cases touches <;> rfl
  stays c connection there := by
    obtain ⟨_, there'⟩ := touches.there there
    exact ⟨_, there', rfl, rfl, fun phase => phase, fun _ sent => sent⟩
  missing c none_ := by
    obtain ⟨_, all⟩ := touches.connections
    rw [all, none_]
    rfl

theorem Tame.onConnection (tame : Tame h h') (c : Nat) (f : Connection → Connection)
    (calm : ∀ connection, h'.connections.get? c = some connection →
      Calm connection (f connection)) :
    Tame h (h'.onConnection c f) where
  toMoves := tame.toMoves.then rfl rfl rfl
  undecided := tame.undecided
  commands := tame.commands
  received := tame.received
  confirmed := tame.confirmed
  stays u old there := by
    obtain ⟨connection, there', first⟩ := tame.stays u old there
    change ∃ new, (h'.connections.modify c f).get? u = some new ∧ _
    rw [FiniteMap.get?_modify]
    split
    · next here =>
      subst here
      have next := calm connection there'
      exact ⟨f connection, by rw [there']; rfl, next.invoke.trans first.invoke,
        next.kind.trans first.kind, first.completing ∘ next.completing,
        fun outcome => first.delivery outcome ∘ next.delivery outcome⟩
    · exact ⟨connection, there', first⟩
  missing u none_ := by
    change (h'.connections.modify c f).get? u = none
    rw [FiniteMap.get?_modify]
    split
    · next here =>
      rw [← here, tame.missing u none_]
      rfl
    · exact tame.missing u none_

theorem tame_setConnection (there : h.connections.get? c = some connection)
    (calm : Calm connection new) : Tame h (h.setConnection c new) := by
  rw [← onConnection_eq (fun _ => new) there]
  refine (Tame.refl h).onConnection c _ fun old there' => ?_
  rw [there] at there'
  cases there'
  exact calm

/-- A connection goes on to a phase that completes nothing. -/
theorem tame_phase {phase : Phase} (there : h.connections.get? c = some connection)
    (other : phase ≠ .completing true) : Tame h (h.setConnection c { connection with phase }) :=
  tame_setConnection there ⟨rfl, rfl, fun completing => absurd completing other, fun _ sent => sent⟩

theorem Tame.phase (tame : Tame h h') {phase : Phase} (other : phase ≠ .completing true) :
    Tame h (h'.onConnection c fun connection => { connection with phase }) :=
  tame.onConnection c _ fun _ _ =>
    ⟨rfl, rfl, fun completing => absurd completing other, fun _ sent => sent⟩

/-- A helper that has had no reply is written to. -/
theorem Tame.write (tame : Tame h h') (silent : h.handedTo c = []) (reply : HookReply)
    (registry : h'.registry = h.registry) (decided : h'.decided = h.decided) :
    Tame h { h' with handed := h.handed ++ [(c, reply)] } :=
  { tame with toMoves := .write silent reply registry decided rfl }

theorem tame_ofConnection {move : Connection → Hooks}
    (tame : ∀ connection, h.connections.get? c = some connection → Tame h (move connection)) :
    Tame h (h.ofConnection c move) := by
  unfold ofConnection
  split
  · exact .refl h
  · next connection there => exact tame connection there

theorem Touches.settles {op : Hooks × Bool} (touches : Touches h id P op.1) :
    Tame h (op.1.onConnection c fun connection =>
      { connection with phase := if op.2 then .expiring else .finalizing }) := by
  refine touches.tame.phase ?_
  cases op.2 <;> simp

/-- The helper of a connection that is silent has had no reply. -/
theorem Inv.silent (inv : Inv h) (there : h.connections.get? c = some connection)
    (silent : connection.phase.isSilent = true) : h.handedTo c = [] :=
  (inv.own c connection there).silent silent

/-- Most inputs tell nothing new. -/
theorem Inv.tame (deviceId : String) (ackOf : String → Option String) (inv : Inv h) {input : Input}
    (plain : input.isPlain = true) : Tame h (h.step deviceId ackOf input) := by
  cases input with
  | tick => exact { Tame.refl h with }
  | published c =>
    refine tame_ofConnection fun connection there => ?_
    unfold Hooks.published
    split
    · exact tame_phase there (by simp)
    · exact .refl h
  | arrives c event =>
    refine tame_ofConnection fun connection there => ?_
    unfold Hooks.arrives
    split
    · exact .refl h
    · exact tame_setConnection there ⟨rfl, rfl, fun phase => phase, fun _ sent => sent⟩
  | select c branch =>
    refine tame_ofConnection fun connection there => ?_
    unfold Hooks.select
    repeat' split
    all_goals first
      | exact .refl h
      | exact tame_setConnection there ⟨rfl, rfl, by simp, fun _ sent => sent⟩
  | wrote c ok =>
    refine tame_ofConnection fun connection there => ?_
    unfold Hooks.wrote
    split
    · next reply phase =>
      refine (tame_phase there ?_).write (inv.silent there (by simp [phase])) reply rfl rfl
      cases ok <;> simp
    · exact .refl h
  | unacknowledged c =>
    refine tame_ofConnection fun connection there => ?_
    unfold Hooks.unacknowledged
    repeat' split
    all_goals first
      | exact .refl h
      | exact tame_phase there (by simp)
  | settled c =>
    refine tame_ofConnection fun connection _ => ?_
    unfold Hooks.settled
    split
    · next timedOut _ =>
      cases timedOut with
      | true => exact (touches_expireOrAlreadyExpired _).settles
      | false => exact (touches_cancel _).settles
    · exact .refl h
  | finalized c =>
    refine tame_ofConnection fun connection _ => ?_
    unfold Hooks.finalized
    split
    · exact (touches_finalizeDecidedAfterRace _).tame.phase (by simp)
    · exact .refl h
  | refused c =>
    refine tame_ofConnection fun connection there => ?_
    unfold Hooks.refused
    split
    · next phase =>
      exact (tame_phase there (by simp)).write (inv.silent there (by simp [phase])) _ rfl rfl
    · exact .refl h
  | cancel id => exact (touches_cancel id).tame
  | processed id => exact (touches_markRuntimeProcessed id).tame
  | _ => cases plain

theorem moves_completeDelivery (id : InvokeId) (outcome : DeliveryOutcome) :
    Moves h (h.completeDelivery id outcome) := by
  obtain ⟨_, touches, same | ⟨_, -, -, same⟩⟩ := completeDelivery_cases (h := h) id outcome
  · exact same ▸ touches.moves
  · exact same ▸ touches.moves.then rfl rfl rfl

theorem Inv.moves_accept (inv : Inv h) {reply : HookReply}
    (found : h.registry.get? id = some record) (waiting : record.state = .waiting)
    (inTime : h.now < record.deadline) : Moves h (h.accept id record connection reply) := by
  obtain ⟨_, _, _, fits⟩ := inv.known id record found
  refine ⟨fun k old new old_ new_ _ => ?_, .inr ⟨id, record, reply, found, waiting, inTime, rfl⟩,
    fun u decided => ?_, fun _ _ => rfl⟩
  · exact leads_setRecord found (.inr (waiting ▸ .decided)) k old new old_ new_
  · have undecided := fits.responder (fits.waiting waiting).1
    have away : record.connection ≠ u := by
      rintro rfl
      exact decided undecided
    exact (decidedFor_append h (record.connection, reply) u).trans
      (by rw [if_neg away, List.append_nil])

theorem Inv.frame_accept (inv : Inv h) {reply : HookReply}
    (found : h.registry.get? id = some record) (waiting : record.state = .waiting)
    (inTime : h.now < record.deadline)
    (there : h.connections.get? record.connection = some connection) :
    Frame h (h.accept id record connection reply) :=
  { (tame_setConnection there (⟨rfl, rfl, fun phase => phase, fun _ sent => sent⟩ :
      Calm connection { connection with decision := .sent reply })).toFrame with
    toMoves := inv.moves_accept found waiting inTime }

theorem Inv.moves_resolve (inv : Inv h) (id : InvokeId) (reply : HookReply) :
    Moves h (h.resolve id reply).1 := by
  rcases resolve_cases (h := h) id reply with ⟨_, _, same, touches⟩ |
    ⟨record, connection, found, waiting, inTime, -, -, same⟩
  · rw [same]
    exact touches.moves
  · rw [same]
    exact inv.moves_accept found waiting inTime

theorem Inv.moves_connect (inv : Inv h) (invoke : HookInvoke) (kind : InvokeKind) :
    Moves h (h.connect invoke kind) := by
  obtain ⟨missing, silent⟩ := inv.fresh h.accepted (Nat.le_refl _)
  unfold Hooks.connect
  split
  · exact .write silent _ rfl rfl rfl
  · unfold register
    split
    · exact .write silent _ rfl rfl rfl
    · exact .write silent _ rfl rfl rfl
    · next h' registered =>
      split at registered
      · cases registered
      · cases registered
        refine ⟨fun id record record' found found' same => ?_, .inl rfl, fun _ _ => rfl,
          fun _ _ => rfl⟩
        change (FiniteMap.insert _ _ _).get? id = some record' at found'
        rw [FiniteMap.get?_insert] at found'
        split at found'
        · cases found'
          -- a record of before has a connection that was there
          obtain ⟨_, there, -⟩ := inv.known id record found
          have same : h.accepted = record.connection := same
          rw [← same, missing] at there
          cases there
        · rw [(FiniteMap.get?_of_filter found').1] at found
          cases found
          exact .inl rfl

theorem Inv.moves_proceed (inv : Inv h) (n : Nat) (command : Command) :
    Moves h (h.proceed n command) := by
  unfold Hooks.proceed
  split
  · exact .of_eq rfl rfl rfl
  · exact .of_eq rfl rfl rfl
  · next id reply _ =>
    have moves := inv.moves_resolve id reply
    split <;>
    · next resolved =>
      rw [resolved] at moves
      exact moves.then rfl rfl rfl
  · next id _ _ =>
    have moves := (touches_takeDelivery (h := h) id).moves
    split <;>
    · next taken =>
      rw [taken] at moves
      exact moves.then rfl rfl rfl
  · split <;> exact .of_eq rfl rfl rfl
  · exact .refl h

theorem Inv.moves (deviceId : String) (ackOf : String → Option String) (inv : Inv h)
    (input : Input) : Moves h (h.step deviceId ackOf input) := by
  cases input with
  | connect invoke kind => exact inv.moves_connect invoke kind
  | acknowledged c =>
    simp only [Hooks.step, Hooks.ofConnection, Hooks.acknowledged]
    repeat' split
    all_goals exact .of_eq rfl rfl rfl
  | completed c =>
    simp only [Hooks.step, Hooks.ofConnection, Hooks.completed]
    repeat' split
    all_goals first
      | exact .refl h
      | exact (moves_completeDelivery _ _).then rfl rfl rfl
  | command key payload =>
    simp only [Hooks.step]
    split <;> exact .of_eq rfl rfl rfl
  | proceed n =>
    simp only [Hooks.step]
    split
    · exact .refl h
    · exact inv.moves_proceed n _
  | commandTimeout n =>
    simp only [Hooks.step]
    repeat' split
    all_goals exact .of_eq rfl rfl rfl
  | _ => exact (inv.tame deviceId ackOf rfl).toMoves

/-! ## Runs -/

/-- A helper gets at most one reply, and a decision only when it is the one that was accepted for
it. -/
theorem run_safe (deviceId : String) (ackOf : String → Option String) (inputs : List Input) :
    Safe (run deviceId ackOf inputs) :=
  (inv_run deviceId ackOf inputs).safe

/-- The records move along in every step of a run, and no decision is accepted late or taken
back. -/
theorem run_moves (deviceId : String) (ackOf : String → Option String) (inputs : List Input) :
    Along (step deviceId ackOf) (fun h input => Moves h (h.step deviceId ackOf input)) {} inputs :=
  Along.of_preserved (I := Inv) (fun _ input inv => inv.step deviceId ackOf input)
    (fun _ input inv => inv.moves deviceId ackOf input) inputs inv_init

/-- What still waits or is on its way is looked after by a connection; a connection that has come
to its end leaves nothing open. -/
theorem run_underWay (deviceId : String) (ackOf : String → Option String) (inputs : List Input)
    {id : InvokeId} {record : PendingRecord}
    (found : (run deviceId ackOf inputs).registry.get? id = some record)
    (pending : record.state.isTerminal = false) :
    ∃ connection, (run deviceId ackOf inputs).connections.get? record.connection = some connection ∧
      connection.invokeId = id ∧ connection.phase ≠ .expiring ∧ connection.phase ≠ .done :=
  (inv_run deviceId ackOf inputs).underWay found pending

/-- An invoke that was registered and nothing more. -/
def asked : List Input :=
  [.connect ⟨CONTRACT_VERSION, "i1", some "s1", some "Bash", none, 10000, none, none⟩
    .permissionRequest]

theorem run_underWay_asked : ∃ connection,
    (run "desk" (fun _ => none) asked).connections.get? 0 = some connection ∧
      connection.invokeId = "i1" ∧ connection.phase ≠ .expiring ∧ connection.phase ≠ .done := by
  have found : (run "desk" (fun _ => none) asked).registry.get? "i1" = some
      ⟨0, .permissionRequest, some "s1", [], false, .waiting, 10000, true, true, true⟩ := by
    decide +kernel
  exact run_underWay "desk" (fun _ => none) asked found rfl

end Hooks

end AgentConsole.Bridge.Zcode
