import AgentConsole.Bridge.Approvals

/-! # Decisions are those that a user made for the request

An invoke is named by its id alone, in commands as in the registry.  A command is compared with
the record of its id once, when it comes in; it answers by the id later on, and takes the
receiver of the outcome by the id again.  As long as no id is used anew after its record was
dropped, all of this is about one request: what its helper is told was decided for it, and a
command that is reported as completed had its own decision acknowledged. -/

namespace AgentConsole.Bridge.Zcode

open AgentConsole.Lib

/-! ## What a decision has to be -/

/-- A command may decide for an invoke: it names this device and the session of the invoke. -/
structure Meant (deviceId : String) (invoke : HookInvoke) (kind : InvokeKind) (key : SessionKey) :
    Prop where
  device : key.deviceId = deviceId
  agent : key.agentKind = .zcodeDesktop
  approval : kind = .permissionRequest → invoke.nativeSessionId = some key.nativeSessionId
  question : kind = .askUser → key.nativeSessionId = ASK_SESSION_NATIVE

/-- A reply is what a payload decides. -/
inductive Decides (invoke : HookInvoke) (kind : InvokeKind) : Payload → HookReply → Prop where
  | allow (approval : kind = .permissionRequest) :
      Decides invoke kind (.answerApproval invoke.invokeId DECISION_ALLOW) .allowed
  | deny (approval : kind = .permissionRequest) :
      Decides invoke kind (.answerApproval invoke.invokeId DECISION_DENY)
        (.denied "User declined this action in Agent Console")
  | text {freeText : String} (question : kind = .askUser) (something : freeText ≠ "")
      (free : invoke.askAllowFreeText kind = true) :
      Decides invoke kind (.answerQuestion invoke.invokeId [] freeText)
        (.answered none (some freeText))
  | option {optionId label : String} {others : List String} {freeText : String}
      (question : kind = .askUser)
      (chosen : optionLabel (invoke.askOptions kind) optionId = some label)
      (free : freeText ≠ "" → invoke.askAllowFreeText kind = true) :
      Decides invoke kind (.answerQuestion invoke.invokeId (optionId :: others) freeText)
        (.answered (some label) (if freeText = "" then none else some freeText))

namespace Hooks

/-- The invoke and the kind that a connection was opened with. -/
def opened (h : Hooks) (c : Nat) : Option (HookInvoke × InvokeKind) :=
  (h.connections.get? c).map fun connection => (connection.invoke, connection.kind)

/-- The helper of a connection has acknowledged its invoke. -/
def Heard (ackOf : String → Option String) (h : Hooks) (c : Nat) (id : InvokeId) : Prop :=
  ∃ text, (c, text) ∈ h.confirmed ∧ ackOf text = some id

/-- An id is not used anew once its record was dropped. -/
def Fresh (h : Hooks) : Input → Prop
  | .connect invoke _ => h.registry.get? invoke.invokeId = none →
      ∀ c connection, h.connections.get? c = some connection →
        connection.invokeId ≠ invoke.invokeId
  | _ => True

instance (h : Hooks) (input : Input) : Decidable (h.Fresh input) := by
  cases input <;> unfold Fresh <;> infer_instance

/-! ## What a command has come to -/

/-- A label and a text have been read off a payload. -/
def Labels (invoke : HookInvoke) (kind : InvokeKind) (payload : Payload) (id : InvokeId)
    (label : Option String) (freeText : String) : Prop :=
  id = invoke.invokeId ∧ kind = .askUser ∧
    (label = none ∧ payload = .answerQuestion id [] freeText ∨
      ∃ optionId text others, label = some text ∧
        payload = .answerQuestion id (optionId :: others) freeText ∧
        optionLabel (invoke.askOptions kind) optionId = some text)

/-- The decision of a command is the one that was accepted for a connection. -/
def Accepted (h : Hooks) (c : Nat) (decision : Option (InvokeId × HookReply)) : Prop :=
  ∃ id reply, decision = some (id, reply) ∧ h.decidedFor c = [reply]

/-- A payload names the invoke of a connection. -/
def Names (invoke : HookInvoke) (kind : InvokeKind) : Payload → Prop
  | .answerApproval id _ => id = invoke.invokeId ∧ kind = .permissionRequest
  | .answerQuestion id _ _ => id = invoke.invokeId ∧ kind = .askUser
  | .other => False

/-- Where a command for a connection stands. -/
def At (ackOf : String → Option String) (h : Hooks) (c : Nat) (invoke : HookInvoke)
    (kind : InvokeKind) (payload : Payload) (decision : Option (InvokeId × HookReply)) :
    CommandPhase → Prop
  | .matched => decision = none ∧ Names invoke kind payload
  | .labelled id label freeText => decision = none ∧ Labels invoke kind payload id label freeText
  | .prepared id reply => decision = none ∧ id = invoke.invokeId ∧ Decides invoke kind payload reply
  | .resolved id reply => id = invoke.invokeId ∧ decision = some (id, reply)
  | .awaiting d _ => d = c ∧ h.Accepted c decision
  | .finished .completed => h.Accepted c decision ∧ h.handedTo c = h.decidedFor c ∧
      h.Heard ackOf c invoke.invokeId
  | .finished _ => True

/-- A command was meant for a connection, and decides for no other. -/
structure Asked (deviceId : String) (ackOf : String → Option String) (h : Hooks) (c : Nat)
    (invoke : HookInvoke) (kind : InvokeKind) (command : Command) : Prop where
  meant : Meant deviceId invoke kind command.key
  decision : ∀ id reply, command.decision = some (id, reply) → id = invoke.invokeId ∧
    h.decidedFor c = [reply] ∧ Decides invoke kind command.payload reply
  at_ : h.At ackOf c invoke kind command.payload command.decision command.phase

/-- What is known of the connections. -/
structure Known (ackOf : String → Option String) (h : Hooks) : Prop where
  unique : ∀ c d entry entry', h.opened c = some entry → h.opened d = some entry' →
    entry.1.invokeId = entry'.1.invokeId → c = d
  heard : ∀ c connection, h.connections.get? c = some connection →
    connection.phase = .completing true → h.Heard ackOf c connection.invokeId
  delivered : ∀ c connection, h.connections.get? c = some connection →
    connection.delivery = .sent .delivered → h.Heard ackOf c connection.invokeId ∧
      ∃ reply, h.decidedFor c = [reply] ∧ h.handedTo c = [reply]

/-- Each command was meant for a connection, and each decision that was accepted is the decision
of a command. -/
structure Answers (deviceId : String) (ackOf : String → Option String) (h : Hooks) : Prop where
  commands : ∀ n command, h.commands.get? n = some command → ∃ c invoke kind,
    h.opened c = some (invoke, kind) ∧ h.Asked deviceId ackOf c invoke kind command
  received : ∀ n, h.received ≤ n → h.commands.get? n = none
  backed : ∀ c, ∀ reply ∈ h.decidedFor c, ∃ invoke kind n command,
    h.opened c = some (invoke, kind) ∧ h.commands.get? n = some command ∧
      command.decision = some (invoke.invokeId, reply)

/-! ## What stays -/

section Known

variable {deviceId : String} {ackOf : String → Option String} {h h' : Hooks} {c : Nat}
  {id : InvokeId} {connection : Connection} {command old : Command} {invoke : HookInvoke}
  {kind : InvokeKind}

/-- What was decided and handed over stays, and more may be confirmed. -/
structure Later (h h' : Hooks) : Prop where
  decided : ∀ c, h.decidedFor c ≠ [] → h'.decidedFor c = h.decidedFor c
  handed : ∀ c, h.handedTo c ≠ [] → h'.handedTo c = h.handedTo c
  confirmed : ∀ entry ∈ h.confirmed, entry ∈ h'.confirmed

theorem Later.refl (h : Hooks) : Later h h :=
  ⟨fun _ _ => rfl, fun _ _ => rfl, fun _ inside => inside⟩

theorem Later.decided_eq (later : Later h h') {reply : HookReply}
    (decided : h.decidedFor c = [reply]) : h'.decidedFor c = [reply] := by
  rw [later.decided c (by simp [decided]), decided]

theorem Later.handed_eq (later : Later h h') {reply : HookReply}
    (handed : h.handedTo c = [reply]) : h'.handedTo c = [reply] := by
  rw [later.handed c (by simp [handed]), handed]

theorem Later.heard (later : Later h h') (heard : h.Heard ackOf c id) : h'.Heard ackOf c id :=
  heard.imp fun _ said => said.imp_left (later.confirmed _)

theorem Accepted.later {decision : Option (InvokeId × HookReply)}
    (accepted : h.Accepted c decision) (later : Later h h') : h'.Accepted c decision := by
  obtain ⟨id, reply, own, decided⟩ := accepted
  exact ⟨id, reply, own, later.decided_eq decided⟩

theorem Asked.later (asked : h.Asked deviceId ackOf c invoke kind command) (later : Later h h') :
    h'.Asked deviceId ackOf c invoke kind command where
  meant := asked.meant
  decision id reply own := by
    obtain ⟨same, decided, right⟩ := asked.decision id reply own
    exact ⟨same, later.decided_eq decided, right⟩
  at_ := by
    have before := asked.at_
    cases phase : command.phase with
    | awaiting d until_ =>
      rw [phase] at before
      exact ⟨before.1, before.2.later later⟩
    | finished status =>
      cases status with
      | completed =>
        rw [phase] at before
        obtain ⟨⟨id, reply, own, decided⟩, handed, heard⟩ := before
        refine ⟨⟨id, reply, own, later.decided_eq decided⟩, ?_, later.heard heard⟩
        rw [decided] at handed
        rw [later.handed_eq handed, later.decided_eq decided]
      | _ => trivial
    | _ =>
      rw [phase] at before
      exact before

/-- A step that has nothing to do with commands. -/
structure Leaves (h h' : Hooks) : Prop extends Later h h' where
  commands : h'.commands = h.commands
  received : h'.received = h.received
  opened : ∀ c entry, h.opened c = some entry → h'.opened c = some entry

theorem Frame.opened (frame : Frame h h') (c : Nat) : h'.opened c = h.opened c := by
  cases there : h.connections.get? c with
  | none => simp [Hooks.opened, there, frame.missing c there]
  | some connection =>
    obtain ⟨connection', there', calm⟩ := frame.stays c connection there
    simp [Hooks.opened, there, there', calm.invoke, calm.kind]

theorem Frame.leaves (frame : Frame h h') : Leaves h h' where
  decided := frame.decided
  handed := frame.handed
  confirmed _ inside := by rw [frame.confirmed]; exact inside
  commands := frame.commands
  received := frame.received
  opened c entry there := by rw [frame.opened, there]

theorem Known.frame (known : Known ackOf h) (frame : Frame h h') : Known ackOf h' where
  unique c d entry entry' there there' := by
    rw [frame.opened] at there there'
    exact known.unique c d entry entry' there there'
  heard c connection' there' completing := by
    cases there : h.connections.get? c with
    | none => simp [frame.missing c there] at there'
    | some connection =>
      obtain ⟨_, there'', calm⟩ := frame.stays c connection there
      rw [there'] at there''
      cases there''
      rw [Connection.invokeId, calm.invoke]
      exact frame.leaves.heard (known.heard c connection there (calm.completing completing))
  delivered c connection' there' delivered := by
    cases there : h.connections.get? c with
    | none => simp [frame.missing c there] at there'
    | some connection =>
      obtain ⟨_, there'', calm⟩ := frame.stays c connection there
      rw [there'] at there''
      cases there''
      obtain ⟨heard, reply, decided, handed⟩ :=
        known.delivered c connection there (calm.delivery _ delivered)
      rw [Connection.invokeId, calm.invoke]
      exact ⟨frame.leaves.heard heard, reply, frame.leaves.decided_eq decided,
        frame.leaves.handed_eq handed⟩

theorem Answers.leaves (answers : Answers deviceId ackOf h) (leaves : Leaves h h')
    (decided : h'.decided = h.decided) : Answers deviceId ackOf h' where
  commands n command found := by
    rw [leaves.commands] at found
    obtain ⟨c, invoke, kind, there, asked⟩ := answers.commands n command found
    exact ⟨c, invoke, kind, leaves.opened c _ there, asked.later leaves.toLater⟩
  received n above := by
    rw [leaves.commands]
    exact answers.received n (leaves.received ▸ above)
  backed c reply inside := by
    rw [decidedFor, decided] at inside
    obtain ⟨invoke, kind, n, command, there, found, own⟩ := answers.backed c reply inside
    exact ⟨invoke, kind, n, command, leaves.opened c _ there, by rw [leaves.commands, found], own⟩

theorem Known.tame (known : Known ackOf h) (answers : Answers deviceId ackOf h)
    (tame : Tame h h') : Known ackOf h' ∧ Answers deviceId ackOf h' :=
  ⟨known.frame tame.toFrame, answers.leaves tame.toFrame.leaves tame.undecided⟩

/-- A command goes on, and a decision that is new is its own. -/
theorem Answers.setCommand (answers : Answers deviceId ackOf h) (leaves : Leaves h h') {n : Nat}
    (found : h.commands.get? n = some old) (there : h.opened c = some (invoke, kind))
    (asked : h'.Asked deviceId ackOf c invoke kind command)
    (keeps : ∀ decision, old.decision = some decision → command.decision = some decision)
    (decided : ∀ d, ∀ reply ∈ h'.decidedFor d, reply ∈ h.decidedFor d ∨
      d = c ∧ command.decision = some (invoke.invokeId, reply)) :
    Answers deviceId ackOf (h'.setCommand n command) where
  commands k other found' := by
    change (h'.commands.insert n command).get? k = some other at found'
    rw [FiniteMap.get?_insert] at found'
    split at found'
    · cases found'
      exact ⟨c, invoke, kind, leaves.opened c _ there, asked.later { Later.refl h' with }⟩
    · rw [leaves.commands] at found'
      obtain ⟨d, invoke', kind', there', asked'⟩ := answers.commands k other found'
      exact ⟨d, invoke', kind', leaves.opened d _ there',
        (asked'.later leaves.toLater).later { Later.refl h' with }⟩
  received k above := by
    have beyond : h.received ≤ k := leaves.received ▸ above
    have away : k ≠ n := by
      rintro rfl
      rw [answers.received k beyond] at found
      cases found
    change (h'.commands.insert n command).get? k = none
    rw [FiniteMap.get?_insert, if_neg away, leaves.commands]
    exact answers.received k beyond
  backed d reply inside := by
    have commands (k : Nat) : (h'.setCommand n command).commands.get? k =
        if k = n then some command else h.commands.get? k := by
      rw [← leaves.commands]
      exact FiniteMap.get?_insert ..
    rcases decided d reply inside with before | ⟨rfl, own⟩
    · obtain ⟨invoke', kind', k, other, there', found', own⟩ := answers.backed d reply before
      have there' := leaves.opened d _ there'
      by_cases here : k = n
      · subst here
        rw [found] at found'
        cases found'
        exact ⟨invoke', kind', k, command, there', by rw [commands, if_pos rfl], keeps _ own⟩
      · exact ⟨invoke', kind', k, other, there', by rw [commands, if_neg here, found'], own⟩
    · exact ⟨invoke, kind, n, command, leaves.opened d _ there, by rw [commands, if_pos rfl], own⟩

/-- A command goes on with no new decision. -/
theorem Answers.goes (answers : Answers deviceId ackOf h) (tame : Tame h h') {n : Nat}
    (found : h.commands.get? n = some command) (there : h.opened c = some (invoke, kind))
    (asked : h.Asked deviceId ackOf c invoke kind command) {phase : CommandPhase}
    (at_ : h'.At ackOf c invoke kind command.payload command.decision phase) :
    Answers deviceId ackOf (h'.setCommand n { command with phase }) :=
  answers.setCommand tame.toFrame.leaves found there
    { asked.later tame.toFrame.leaves.toLater with at_ := at_ } (fun _ own => own)
    fun d reply inside => .inl (by rwa [decidedFor, tame.undecided] at inside)

/-- The connection of a record with the id of a connection that is known. -/
theorem Known.record (known : Known ackOf h) (inv : Inv h) {record : PendingRecord}
    (opened : h.opened c = some (invoke, kind))
    (found : h.registry.get? invoke.invokeId = some record) :
    record.connection = c ∧ record.kind = kind ∧ record.nativeSessionId = invoke.nativeSessionId ∧
      record.askOptions = invoke.askOptions kind ∧
        record.askAllowFreeText = invoke.askAllowFreeText kind := by
  obtain ⟨connection, there, about, -⟩ := inv.known _ record found
  have mine : record.connection = c := by
    refine known.unique _ c (connection.invoke, connection.kind) _ ?_ opened ?_
    · simp [Hooks.opened, there]
    · exact Connection.invokeId_of_about about
  subst mine
  rw [Hooks.opened, there] at opened
  cases opened
  simp only [Connection.about, PendingRecord.about, Prod.mk.injEq] at about
  exact ⟨rfl, about.2.1.symm, about.2.2.1.symm, about.2.2.2.1.symm, about.2.2.2.2.symm⟩

/-! ### Connections -/

theorem opened_setConnection (there : h.connections.get? c = some connection)
    {new : Connection} (invoke : new.invoke = connection.invoke) (kind : new.kind = connection.kind)
    (u : Nat) : (h.setConnection c new).opened u = h.opened u := by
  rw [opened, connections_setConnection]
  split
  · next here => simp [here, opened, there, invoke, kind]
  · rfl

theorem Leaves.onConnection (leaves : Leaves h h') (u : Nat) {f : Connection → Connection}
    (same : ∀ x, ((f x).invoke, (f x).kind) = (x.invoke, x.kind)) :
    Leaves h (h'.onConnection u f) :=
  { leaves with
    opened := fun d entry there => by
      have there' := leaves.opened d entry there
      change ((h'.connections.modify u f).get? d).map _ = _
      rw [FiniteMap.get?_modify]
      split
      · next here =>
        subst here
        simpa [Hooks.opened, Function.comp_def, same] using there'
      · exact there' }

/-- The acknowledgement of a helper is read. -/
theorem Known.confirms (known : Known ackOf h) {text : String}
    (there : h.connections.get? c = some connection) (ack : ackOf text = some connection.invokeId)
    (event : Oneshot ConnEvent) :
    Known ackOf { h.setConnection c { connection with phase := .completing true, event } with
      confirmed := h.confirmed ++ [(c, text)] } := by
  have later : Later h { h.setConnection c { connection with phase := .completing true, event } with
      confirmed := h.confirmed ++ [(c, text)] } :=
    ⟨fun _ _ => rfl, fun _ _ => rfl, fun _ inside => List.mem_append_left _ inside⟩
  have opened (u : Nat) : (h.setConnection c { connection with
      phase := .completing true, event }).opened u = h.opened u := by
    refine opened_setConnection there ?_ ?_ u <;> rfl
  refine ⟨fun d e entry entry' there there' => ?_, fun u new found completing => ?_,
    fun u new found delivered => ?_⟩
  · exact known.unique d e entry entry' ((opened d).symm.trans there) ((opened e).symm.trans there')
  · have found := (connections_setConnection _).symm.trans found
    split at found
    · next here =>
      cases found
      exact ⟨text, by simp [here], ack⟩
    · exact later.heard (known.heard u new found completing)
  · have found := (connections_setConnection _).symm.trans found
    split at found
    · next here =>
      cases found
      obtain ⟨heard, decided⟩ := known.delivered c connection there delivered
      subst here
      exact ⟨later.heard heard, decided⟩
    · obtain ⟨heard, decided⟩ := known.delivered u new found delivered
      exact ⟨later.heard heard, decided⟩

theorem Known.acknowledged (known : Known ackOf h) (answers : Answers deviceId ackOf h)
    (there : h.connections.get? c = some connection) :
    Known ackOf (h.acknowledged ackOf c connection) ∧
      Answers deviceId ackOf (h.acknowledged ackOf c connection) := by
  have unheard (event : Oneshot ConnEvent) :
      Tame h (h.setConnection c { connection with phase := .completing false, event }) :=
    tame_setConnection there ⟨rfl, rfl, by simp, fun _ sent => sent⟩
  unfold Hooks.acknowledged
  split
  · split
    · exact ⟨known, answers⟩
    · split
      · next text _ ack =>
        refine ⟨known.confirms there ack .over, answers.leaves ⟨⟨fun _ _ => rfl, fun _ _ => rfl,
          fun _ inside => List.mem_append_left _ inside⟩, rfl, rfl, fun u entry there' => ?_⟩ rfl⟩
        refine (opened_setConnection there ?_ ?_ u).trans there' <;> rfl
      · exact known.tame answers (unheard .over)
    · exact known.tame answers (unheard .over)
  · exact ⟨known, answers⟩

/-- The outcome of a connection is sent. -/
theorem Known.sends (known : Known ackOf h) {outcome : DeliveryOutcome}
    (there : h.connections.get? c = some connection)
    (told : outcome = .delivered → h.Heard ackOf c connection.invokeId ∧
      ∃ reply, h.decidedFor c = [reply] ∧ h.handedTo c = [reply]) :
    Known ackOf (h.onConnection c fun connection =>
      { connection with delivery := connection.delivery.send outcome }) := by
  rw [onConnection_eq _ there]
  have opened (u : Nat) : (h.setConnection c { connection with
      delivery := connection.delivery.send outcome }).opened u = h.opened u := by
    refine opened_setConnection there ?_ ?_ u <;> rfl
  refine ⟨fun d e entry entry' there there' => ?_, fun u new found completing => ?_,
    fun u new found delivered => ?_⟩
  · exact known.unique d e entry entry' ((opened d).symm.trans there) ((opened e).symm.trans there')
  · have found := (connections_setConnection _).symm.trans found
    split at found
    · next here =>
      cases found
      subst here
      exact known.heard _ connection there completing
    · exact known.heard u new found completing
  · have found := (connections_setConnection _).symm.trans found
    split at found
    · next here =>
      cases found
      subst here
      rcases Oneshot.send_sent_iff.mp delivered with before | ⟨-, same⟩
      · exact known.delivered _ connection there before
      · exact told same.symm
    · exact known.delivered u new found delivered

/-- A delivery that is confirmed is that of the one reply, which was decided and written. -/
theorem Known.completeDelivery (known : Known ackOf h) (inv : Inv h) {delivered : Bool}
    (there : h.connections.get? c = some connection)
    (phase : connection.phase = .completing delivered) :
    Known ackOf (h.completeDelivery connection.invokeId
      (if delivered then .delivered else .unconfirmed)) := by
  have opened : h.opened c = some (connection.invoke, connection.kind) := by
    simp [Hooks.opened, there]
  obtain ⟨h', touches, same | ⟨record, found, decided, same⟩⟩ := completeDelivery_cases (h := h)
    connection.invokeId (if delivered then .delivered else .unconfirmed)
  · exact same ▸ known.frame touches.tame.toFrame
  · rw [same]
    obtain ⟨mine, -⟩ := known.record inv opened found
    subst mine
    obtain ⟨connection', there', -, fits⟩ := inv.known _ record found
    rw [there] at there'
    cases there'
    obtain ⟨reply, only, where_⟩ := fits.decided decided
    have handed : reply ∈ h.handedTo record.connection := by simpa [phase] using where_
    have once := (inv.own _ connection there).once
    have single : h.handedTo record.connection = [reply] := by
      match h.handedTo record.connection, handed, once with
      | [_], handed, _ => rw [List.mem_singleton.mp handed]
    have later := touches.tame.toFrame.leaves.toLater
    obtain ⟨_, there'⟩ := touches.there there
    refine (known.frame touches.tame.toFrame).sends there' fun outcome => ?_
    cases delivered with
    | true =>
      exact ⟨later.heard (known.heard _ connection there phase), reply, later.decided_eq only,
        later.handed_eq single⟩
    | false => cases outcome

theorem Known.completed (known : Known ackOf h) (answers : Answers deviceId ackOf h) (inv : Inv h)
    (there : h.connections.get? c = some connection) :
    Known ackOf (h.completed c connection) ∧
      Answers deviceId ackOf (h.completed c connection) := by
  unfold Hooks.completed
  split
  · next delivered phase =>
    refine ⟨(known.completeDelivery inv there phase).frame
      ((Tame.refl _).phase (by simp)).toFrame, ?_⟩
    obtain ⟨h', touches, same | ⟨_, -, -, same⟩⟩ := completeDelivery_cases (h := h)
      connection.invokeId (if delivered then .delivered else .unconfirmed)
    · simp only [same]
      exact answers.leaves (touches.tame.toFrame.leaves.onConnection c fun _ => rfl)
        touches.tame.undecided
    · simp only [same]
      refine answers.leaves (.onConnection (.onConnection touches.tame.toFrame.leaves _ ?_) c ?_)
        touches.tame.undecided <;> exact fun _ => rfl
  · exact ⟨known, answers⟩

/-- A new connection, for an id that has none. -/
theorem Known.registers (known : Known ackOf h) (invoke : HookInvoke) (kind : InvokeKind)
    (fresh : ∀ c entry, h.opened c = some entry → entry.1.invokeId ≠ invoke.invokeId) :
    Known ackOf { (h.setRecord invoke.invokeId (h.newRecord invoke kind)).setConnection
      h.accepted (newConnection invoke kind) with accepted := h.accepted + 1 } := by
  have connections (u : Nat) : ({
      (h.setRecord invoke.invokeId (h.newRecord invoke kind)).setConnection
        h.accepted (newConnection invoke kind) with accepted := h.accepted + 1 } :
        Hooks).connections.get? u =
      if u = h.accepted then some (newConnection invoke kind) else h.connections.get? u :=
    connections_setConnection _
  have opened (u : Nat) : ({ (h.setRecord invoke.invokeId (h.newRecord invoke kind)).setConnection
      h.accepted (newConnection invoke kind) with accepted := h.accepted + 1 } : Hooks).opened u =
      if u = h.accepted then some (invoke, kind) else h.opened u := by
    rw [Hooks.opened, connections]
    split <;> rfl
  refine ⟨fun d e entry entry' there there' same => ?_, fun u new found completing => ?_,
    fun u new found delivered => ?_⟩
  · rw [opened] at there there'
    split at there <;> split at there'
    · next first second => rw [first, second]
    · cases there
      exact absurd same.symm (fresh e entry' there')
    · cases there'
      exact absurd same (fresh d entry there)
    · exact known.unique d e entry entry' there there' same
  · rw [connections] at found
    split at found
    · cases found
      cases completing
    · exact known.heard u new found completing
  · rw [connections] at found
    split at found
    · cases found
      cases delivered
    · exact known.delivered u new found delivered

theorem tame_purge : Tame h h.purge where
  toMoves := { Moves.refl h with
    leads := fun id record record' found found' _ => by
      rw [(FiniteMap.get?_of_filter found').1] at found
      cases found
      exact .inl rfl }
  undecided := rfl
  commands := rfl
  received := rfl
  confirmed := rfl
  stays c connection there := by
    refine ⟨h.purgedConnection c connection, by simp [purge, there], ?_⟩
    unfold purgedConnection
    split
    · exact .refl connection
    · split
      · refine ⟨rfl, rfl, fun phase => phase, fun outcome sent => ?_⟩
        simp only at sent
        split at sent
        · exact Oneshot.dropSender_sent_iff.mp sent
        · exact sent
      · exact .refl connection
  missing c none_ := by simp [purge, none_]

theorem Known.connect (known : Known ackOf h) (answers : Answers deviceId ackOf h) (inv : Inv h)
    (fresh : h.Fresh (.connect invoke kind)) :
    Known ackOf (h.connect invoke kind) ∧ Answers deviceId ackOf (h.connect invoke kind) := by
  obtain ⟨missing, nothing⟩ := inv.fresh h.accepted (Nat.le_refl _)
  have refused (message : String) : Known ackOf { h with
        handed := h.handed ++ [(h.accepted, .rejected message)], accepted := h.accepted + 1 } ∧
      Answers deviceId ackOf { h with
        handed := h.handed ++ [(h.accepted, .rejected message)], accepted := h.accepted + 1 } := by
    have tame : Tame h { h with
        handed := h.handed ++ [(h.accepted, .rejected message)], accepted := h.accepted + 1 } :=
      { Tame.refl h with toMoves := .write nothing _ rfl rfl rfl }
    exact known.tame answers tame
  unfold Hooks.connect
  split
  · exact refused _
  · unfold register
    split
    · exact refused _
    · exact refused _
    · next h' registered =>
      split at registered
      · cases registered
      · next unregistered =>
        cases registered
        have none_ : h.registry.get? invoke.invokeId = none := by
          simpa [FiniteMap.contains] using unregistered
        constructor
        · refine (known.frame tame_purge.toFrame).registers invoke kind fun c entry there => ?_
          rw [tame_purge.opened] at there
          obtain ⟨connection, found, rfl⟩ := Option.map_eq_some_iff.mp there
          exact fresh none_ c connection found
        · refine answers.leaves ⟨{ tame_purge.toFrame.leaves.toLater with }, rfl, rfl,
            fun u entry there => ?_⟩ rfl
          have away : u ≠ h.accepted := by
            rintro rfl
            simp [opened, missing] at there
          rw [← tame_purge.opened] at there
          exact (congrArg _ ((connections_setConnection u).trans (if_neg away))).trans there

/-! ### Commands -/

/-- The outcome of a connection is given up. -/
theorem tame_over (c : Nat) : Tame h (h.onConnection c fun connection =>
    { connection with delivery := .over }) :=
  (Tame.refl h).onConnection c _ fun _ _ => ⟨rfl, rfl, fun phase => phase, by simp⟩

/-- A command comes in. -/
theorem Answers.takes (answers : Answers deviceId ackOf h) (inv : Inv h) {key : SessionKey}
    {payload : Payload} (matches_ : h.matchesCommand deviceId key payload = true) :
    Answers deviceId ackOf { h.setCommand h.received ⟨key, payload, .matched, none⟩ with
      received := h.received + 1 } := by
  have asked : ∃ c invoke kind, h.opened c = some (invoke, kind) ∧
      h.Asked deviceId ackOf c invoke kind ⟨key, payload, .matched, none⟩ := by
    cases payload with
    | answerApproval approvalId decisionId =>
      simp only [matchesCommand, Bool.and_eq_true, decide_eq_true_eq,
        Option.any_eq_true] at matches_
      obtain ⟨⟨device, agent⟩, record, found, approval, session⟩ := matches_
      obtain ⟨connection, there, about, -⟩ := inv.known approvalId record found
      simp only [Connection.about, PendingRecord.about, Prod.mk.injEq] at about
      refine ⟨record.connection, connection.invoke, connection.kind, by simp [opened, there], ?_⟩
      refine ⟨⟨device, agent, fun _ => about.2.2.1.trans session, fun question => ?_⟩, nofun,
        rfl, about.1.symm, about.2.1.trans approval⟩
      rw [about.2.1, approval] at question
      cases question
    | answerQuestion questionId optionIds freeText =>
      simp only [matchesCommand, Bool.and_eq_true, decide_eq_true_eq,
        Option.any_eq_true] at matches_
      obtain ⟨⟨⟨device, agent⟩, session⟩, record, found, question⟩ := matches_
      obtain ⟨connection, there, about, -⟩ := inv.known questionId record found
      simp only [Connection.about, PendingRecord.about, Prod.mk.injEq] at about
      refine ⟨record.connection, connection.invoke, connection.kind, by simp [opened, there], ?_⟩
      refine ⟨⟨device, agent, fun approval => ?_, fun _ => session⟩, nofun,
        rfl, about.1.symm, about.2.1.trans question⟩
      rw [about.2.1, question] at approval
      cases approval
    | other => cases matches_
  have commands (n : Nat) :
      (h.setCommand h.received ⟨key, payload, .matched, none⟩).commands.get? n =
        if n = h.received then some ⟨key, payload, .matched, none⟩ else h.commands.get? n :=
    FiniteMap.get?_insert ..
  have later : Later h
      { h.setCommand h.received ⟨key, payload, .matched, none⟩ with received := h.received + 1 } :=
    { Later.refl h with }
  refine ⟨fun n command found => ?_, fun n above => ?_, fun d reply inside => ?_⟩
  · have found := (commands n).symm.trans found
    split at found
    · cases found
      obtain ⟨c, invoke, kind, there, asked⟩ := asked
      exact ⟨c, invoke, kind, there, asked.later later⟩
    · obtain ⟨c, invoke, kind, there, asked⟩ := answers.commands n command found
      exact ⟨c, invoke, kind, there, asked.later later⟩
  · have above : h.received + 1 ≤ n := above
    exact (commands n).trans ((if_neg (by omega)).trans (answers.received n (by omega)))
  · obtain ⟨invoke, kind, n, command, there, found, own⟩ := answers.backed d reply inside
    have old : n ≠ h.received := by
      rintro rfl
      rw [answers.received _ le_rfl] at found
      cases found
    exact ⟨invoke, kind, n, command, there, (commands n).trans ((if_neg old).trans found), own⟩

/-- What `prepare` makes of a payload is what the payload says. -/
theorem Known.prepare (known : Known ackOf h) (inv : Inv h)
    (there : h.opened c = some (invoke, kind)) {payload : Payload}
    {decision : Option (InvokeId × HookReply)} (undecided : decision = none)
    (names : Names invoke kind payload) :
    h.At ackOf c invoke kind payload decision (h.prepare payload) := by
  cases payload with
  | answerApproval id decisionId =>
    obtain ⟨rfl, approval⟩ := names
    simp only [Hooks.prepare]
    split
    · next allowed =>
      subst allowed
      exact And.intro undecided ⟨rfl, .allow approval⟩
    · split
      · next denied =>
        subst denied
        exact And.intro undecided ⟨rfl, .deny approval⟩
      · trivial
  | answerQuestion id optionIds freeText =>
    obtain ⟨rfl, question⟩ := names
    cases optionIds with
    | nil => exact And.intro undecided ⟨rfl, question, .inl ⟨rfl, rfl⟩⟩
    | cons optionId others =>
      simp only [Hooks.prepare, List.head?_cons]
      split
      · next label labelled =>
        refine And.intro undecided ⟨rfl, question, .inr ⟨optionId, label, others, rfl, rfl, ?_⟩⟩
        unfold askOptionLabel at labelled
        split at labelled
        · cases labelled
        · next record found =>
          obtain ⟨-, -, -, options, -⟩ := known.record inv there found
          rw [options] at labelled
          split at labelled
          · cases labelled
          · exact labelled
      · trivial
  | other => exact names.elim

theorem Known.prepareAnswer (known : Known ackOf h) (inv : Inv h)
    (there : h.opened c = some (invoke, kind)) {payload : Payload}
    {decision : Option (InvokeId × HookReply)} {label : Option String} {freeText : String}
    (undecided : decision = none) (labels : Labels invoke kind payload id label freeText) :
    h.At ackOf c invoke kind payload decision (h.prepareAnswer id label freeText) := by
  obtain ⟨rfl, question, read⟩ := labels
  unfold Hooks.prepareAnswer
  split
  · trivial
  · next free =>
    split
    · trivial
    · next something =>
      have allowed : freeText ≠ "" → invoke.askAllowFreeText kind = true := by
        intro written
        have allows : (h.askAllowsFreeText invoke.invokeId).getD false = true := by
          simpa [written] using free
        unfold askAllowsFreeText at allows
        split at allows
        · cases allows
        · next record found =>
          obtain ⟨-, -, -, -, text⟩ := known.record inv there found
          rw [text] at allows
          split at allows
          · cases allows
          · exact allows
      refine And.intro undecided ⟨rfl, ?_⟩
      rcases read with ⟨rfl, rfl⟩ | ⟨optionId, text, others, rfl, rfl, chosen⟩
      · have written : freeText ≠ "" := by simpa using something
        rw [if_neg written]
        exact .text question written (allowed written)
      · exact .option question chosen allowed

theorem Known.proceed (known : Known ackOf h) (answers : Answers deviceId ackOf h) (inv : Inv h)
    {n : Nat} (found : h.commands.get? n = some command) :
    Known ackOf (h.proceed n command) ∧ Answers deviceId ackOf (h.proceed n command) := by
  obtain ⟨c, invoke, kind, there, asked⟩ := answers.commands n command found
  have before := asked.at_
  unfold Hooks.proceed
  split
  · next phase =>
    rw [phase] at before
    exact ⟨{ known with }, answers.goes (.refl h) found there asked
      (known.prepare inv there before.1 before.2)⟩
  · next phase =>
    rw [phase] at before
    exact ⟨{ known with }, answers.goes (.refl h) found there asked
      (known.prepareAnswer inv there before.1 before.2)⟩
  · next id reply phase =>
    rw [phase] at before
    obtain ⟨undecided, rfl, decides⟩ := before
    rcases resolve_cases (h := h) invoke.invokeId reply with ⟨_, h', same, touches⟩ |
      ⟨record, connection, found', waiting, inTime, there', -, same⟩
    · simp only [same]
      exact ⟨{ known.frame touches.tame.toFrame with },
        answers.goes touches.tame found there asked trivial⟩
    · simp only [same]
      have frame : Frame h (h.accept invoke.invokeId record connection reply) :=
        inv.frame_accept found' waiting inTime there'
      obtain ⟨rfl, -⟩ := known.record inv there found'
      obtain ⟨_, _, _, fits⟩ := inv.known _ record found'
      have accepted (d : Nat) := decidedFor_append h (record.connection, reply) d
      have only := accepted record.connection
      rw [fits.responder (fits.waiting waiting).1, if_pos rfl, List.nil_append] at only
      refine ⟨{ known.frame frame with }, answers.setCommand frame.leaves found there
        ⟨asked.meant, ?_, rfl, rfl⟩ (by simp [undecided]) fun d reply' inside => ?_⟩
      · rintro _ _ ⟨⟩
        exact ⟨rfl, only, decides⟩
      · have inside := (accepted d) ▸ inside
        split at inside
        · next mine =>
          rcases List.mem_append.mp inside with before | new
          · exact .inl before
          · exact .inr ⟨mine.symm, by rw [List.mem_singleton.mp new]⟩
        · exact .inl (by simpa using inside)
  · next id reply phase =>
    rw [phase] at before
    obtain ⟨rfl, own⟩ := before
    have tame := (touches_takeDelivery (h := h) invoke.invokeId).tame
    split
    · next h' d taken =>
      rw [taken] at tame
      have mine : d = c := by
        unfold takeDelivery at taken
        split at taken
        · cases taken
        · next record there' =>
          split at taken
          · cases taken
            exact (known.record inv there there').1
          · cases taken
      exact ⟨{ known.frame tame.toFrame with }, answers.goes tame found there asked
        ⟨mine, _, reply, own, tame.toFrame.leaves.decided_eq (asked.decision _ reply own).2.1⟩⟩
    · next h' taken =>
      rw [taken] at tame
      exact ⟨{ known.frame tame.toFrame with }, answers.goes tame found there asked trivial⟩
  · next d until_ phase =>
    rw [phase] at before
    obtain ⟨rfl, accepted⟩ := before
    split
    · exact ⟨known, answers⟩
    · next received polled =>
      have tame := tame_over (h := h) d
      refine ⟨{ known.frame tame.toFrame with }, answers.goes tame found there asked ?_⟩
      split
      · next delivered =>
        subst delivered
        obtain ⟨connection, found', polled⟩ := Option.bind_eq_some_iff.mp polled
        obtain ⟨heard, reply, decided, handed⟩ :=
          known.delivered d connection found' (Oneshot.poll_value_iff.mp polled)
        refine ⟨accepted.later tame.toFrame.leaves.toLater, handed.trans decided.symm, ?_⟩
        simp only [opened, found', Option.map_some, Option.some.injEq, Prod.mk.injEq] at there
        rw [← there.1]
        exact heard
      · trivial
  · exact ⟨known, answers⟩

theorem Known.step (known : Known ackOf h) (answers : Answers deviceId ackOf h) (inv : Inv h)
    {input : Input} (fresh : h.Fresh input) :
    Known ackOf (h.step deviceId ackOf input) ∧
      Answers deviceId ackOf (h.step deviceId ackOf input) := by
  cases input with
  | connect invoke kind => exact known.connect answers inv fresh
  | acknowledged c =>
    simp only [Hooks.step, Hooks.ofConnection]
    split
    · exact ⟨known, answers⟩
    · next there => exact known.acknowledged answers there
  | completed c =>
    simp only [Hooks.step, Hooks.ofConnection]
    split
    · exact ⟨known, answers⟩
    · next there => exact known.completed answers inv there
  | command key payload =>
    simp only [Hooks.step]
    split
    · next matches_ => exact ⟨{ known with }, answers.takes inv matches_⟩
    · exact ⟨known, answers⟩
  | proceed n =>
    simp only [Hooks.step]
    split
    · exact ⟨known, answers⟩
    · next found => exact known.proceed answers inv found
  | commandTimeout n =>
    simp only [Hooks.step]
    split
    · exact ⟨known, answers⟩
    · next command found =>
      split
      · next c _ phase =>
        split
        · obtain ⟨d, invoke, kind, there, asked⟩ := answers.commands n command found
          have tame := tame_over (h := h) c
          exact ⟨{ known.frame tame.toFrame with }, answers.goes tame found there asked trivial⟩
        · exact ⟨known, answers⟩
      · exact ⟨known, answers⟩
  | _ => exact known.tame answers (inv.tame deviceId ackOf rfl)

end Known

/-! ## Runs -/

section Runs

variable {deviceId : String} {ackOf : String → Option String} {inputs : List Input}

theorem known_run (fresh : Along (step deviceId ackOf) Fresh {} inputs) :
    Inv (run deviceId ackOf inputs) ∧ Known ackOf (run deviceId ackOf inputs) ∧
      Answers deviceId ackOf (run deviceId ackOf inputs) := by
  refine fresh.reached (I := fun h => Inv h ∧ Known ackOf h ∧ Answers deviceId ackOf h)
    (fun h input invs now => ?_) ⟨inv_init, ?_, ?_⟩
  · obtain ⟨inv, known, answers⟩ := invs
    exact ⟨inv.step deviceId ackOf input, known.step answers inv now⟩
  · constructor <;> simp [opened]
  · constructor <;> simp [decidedFor]

/-- A decision that a helper is told was made for its invoke, by a command that names this device
and the session of the invoke. -/
theorem run_authorised (fresh : Along (step deviceId ackOf) Fresh {} inputs) {c : Nat}
    {reply : HookReply} (handed : reply ∈ (run deviceId ackOf inputs).handedTo c)
    (decision : reply.IsDecision) : ∃ invoke kind n command,
      (run deviceId ackOf inputs).opened c = some (invoke, kind) ∧
        (run deviceId ackOf inputs).commands.get? n = some command ∧
          Meant deviceId invoke kind command.key ∧ Decides invoke kind command.payload reply := by
  obtain ⟨inv, known, answers⟩ := known_run fresh
  have decided := inv.safe.decided c reply handed decision
  obtain ⟨invoke, kind, n, command, there, found, own⟩ := answers.backed c reply (by simp [decided])
  obtain ⟨d, invoke', kind', there', asked⟩ := answers.commands n command found
  obtain ⟨same, -, decides⟩ := asked.decision _ reply own
  -- the command was meant for the connection that the decision is of
  obtain rfl : c = d := known.unique c d _ _ there there' same
  rw [there] at there'
  cases there'
  exact ⟨invoke, kind, n, command, there, found, asked.meant, decides⟩

/-- A command that is reported as completed decided for its invoke, its decision was the only one
for the helper and is what the helper was told, and the helper has acknowledged it. -/
theorem run_completed (fresh : Along (step deviceId ackOf) Fresh {} inputs) {n : Nat}
    {command : Command} (found : (run deviceId ackOf inputs).commands.get? n = some command)
    (completed : command.phase = .finished .completed) : ∃ c invoke kind reply,
      (run deviceId ackOf inputs).opened c = some (invoke, kind) ∧
        Meant deviceId invoke kind command.key ∧ Decides invoke kind command.payload reply ∧
          (run deviceId ackOf inputs).decidedFor c = [reply] ∧
            (run deviceId ackOf inputs).handedTo c = [reply] ∧
              (run deviceId ackOf inputs).Heard ackOf c invoke.invokeId := by
  obtain ⟨-, -, answers⟩ := known_run fresh
  obtain ⟨c, invoke, kind, there, asked⟩ := answers.commands n command found
  have done := asked.at_
  rw [completed] at done
  obtain ⟨⟨id, reply, own, decided⟩, handed, heard⟩ := done
  obtain ⟨-, -, decides⟩ := asked.decision id reply own
  exact ⟨c, invoke, kind, reply, there, asked.meant, decides, decided, handed.trans decided, heard⟩

/-! ### An approval -/

def permission : HookInvoke where
  version := CONTRACT_VERSION
  invokeId := "i1"
  nativeSessionId := some "s1"
  toolName := some "Bash"
  toolUseId := none
  requestedWaitMs := 10000
  toolInput := none
  ask := none

def readAck (text : String) : Option String :=
  if text = "\x7b\"ack\":\"i1\"\x7d" then some "i1" else none

/-- The helper asks, a browser allows, and the helper acknowledges. -/
def approval : List Input :=
  [.connect permission .permissionRequest, .published 0,
    .command ⟨"desk", .zcodeDesktop, "s1"⟩ (.answerApproval "i1" "allow"), .proceed 0, .proceed 0,
    .proceed 0, .select 0 .decision, .wrote 0 true, .arrives 0 (.line "\x7b\"ack\":\"i1\"\x7d"),
    .acknowledged 0, .completed 0, .proceed 0]

theorem approval_fresh : Along (step "desk" readAck) Fresh {} approval :=
  ⟨fun _ c connection there => by simp at there, trivial, trivial, trivial, trivial, trivial,
    trivial, trivial, trivial, trivial, trivial, trivial, trivial⟩

theorem run_authorised_approval : ∃ invoke kind n command,
    (run "desk" readAck approval).opened 0 = some (invoke, kind) ∧
      (run "desk" readAck approval).commands.get? n = some command ∧
        Meant "desk" invoke kind command.key ∧ Decides invoke kind command.payload .allowed :=
  run_authorised approval_fresh (by decide +kernel) (by decide)

theorem run_completed_approval : ∃ c invoke kind reply,
    (run "desk" readAck approval).opened c = some (invoke, kind) ∧
      Meant "desk" invoke kind ⟨"desk", .zcodeDesktop, "s1"⟩ ∧
        Decides invoke kind (.answerApproval "i1" "allow") reply ∧
          (run "desk" readAck approval).decidedFor c = [reply] ∧
            (run "desk" readAck approval).handedTo c = [reply] ∧
              (run "desk" readAck approval).Heard readAck c invoke.invokeId := by
  have found : (run "desk" readAck approval).commands.get? 0 = some ⟨⟨"desk", .zcodeDesktop, "s1"⟩,
      .answerApproval "i1" "allow", .finished .completed, some ("i1", .allowed)⟩ := by
    decide +kernel
  exact run_completed approval_fresh found rfl

end Runs

end Hooks

end AgentConsole.Bridge.Zcode
