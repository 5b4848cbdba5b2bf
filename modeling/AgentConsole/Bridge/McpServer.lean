import AgentConsole.Bridge.McpProtocol
import AgentConsole.Lib.FiniteMap
import AgentConsole.Lib.Lines
import AgentConsole.Lib.Run

/-! # The ask_user tool server

One loop selects between the next line of the host and the next call that ended.  The reader
of a line is created anew in every round: what it has taken of a line is gone when the other
branch wins.  Cancellations are kept in a set that outlives the calls.

Every request with an id is answered once, except calls cancelled while in flight, in every
run that loses no half-read line and confuses no two calls of one id. -/

namespace AgentConsole.Bridge.Mcp

open AgentConsole.Lib

/-! ## The server -/

/-- A call of the tool.  `withdrawn` says whether the host has cancelled it since; the server
does not read it. -/
structure Call where
  id : Value
  invokeId : Nat
  ask : AskRequest
  withdrawn : Bool

/-- What a call that ended sends to the loop: its result, and whether there is a delivery to
acknowledge. -/
structure Completion where
  call : Call
  result : Value
  ack : Bool

/-- `source` is what has arrived and nobody has taken, `line` what the pending read has taken.
The last three fields are kept for the statements only. -/
structure Server where
  source : List UInt8 := []
  line : List UInt8 := []
  eof : Bool := false
  closed : Bool := false
  inFlight : FiniteMap String Nat := ∅
  cancelled : Finset String := ∅
  running : List Call := []
  done : List Completion := []
  output : List Value := []
  cancelInvokes : List Nat := []
  acknowledged : List Nat := []
  nextInvoke : Nat := 0
  arrived : List UInt8 := []
  read : List (List UInt8) := []
  ended : List (Call × Bool) := []

def newline : UInt8 := 10
def doneCapacity : Nat := 16

/-- What happens to the server.  The pending read is polled, the branch of a call that ended
wins, and calls end in any order. -/
inductive Input where
  | arrive (chunk : List UInt8)
  | hangUp
  | poll
  | finish (position : Nat) (result : Value) (ack : Bool)
  | complete

section

variable (serde : Serde)

/-- The calls of this id are cancelled. -/
def Call.withdraw (key : String) (call : Call) : Call :=
  { call with withdrawn := call.withdrawn || rpcIdKey serde call.id == key }

def Completion.withdraw (key : String) (completion : Completion) : Completion :=
  { completion with call := completion.call.withdraw serde key }

namespace Server

def writeOutput (s : Server) (message : Value) : Server :=
  { s with output := s.output ++ [message] }

def register (s : Server) (id : Value) (ask : AskRequest) : Server :=
  { s with
    inFlight := s.inFlight.insert (rpcIdKey serde id) s.nextInvoke
    running := s.running ++ [⟨id, s.nextInvoke, ask, false⟩]
    nextInvoke := s.nextInvoke + 1 }

/-- `notifications/cancelled` -/
def cancel (s : Server) (requestId : Value) : Server :=
  let key := rpcIdKey serde requestId
  { s with
    cancelInvokes := s.cancelInvokes ++ (s.inFlight.get? key).toList
    cancelled := insert key s.cancelled
    running := s.running.map (·.withdraw serde key)
    done := s.done.map (·.withdraw serde key) }

def act (s : Server) : Reading → Server
  | .ignore => s
  | .reply message => s.writeOutput message
  | .call id ask => s.register serde id ask
  | .cancel requestId => s.cancel serde requestId

/-- The read is ready with a line. -/
def handleLine (s : Server) (line : List UInt8) : Server :=
  match readLine serde line with
  | none => { s with line := [], read := s.read ++ [line], closed := true }
  | some reading => { s with line := [], read := s.read ++ [line] }.act serde reading

/-- The line with which the pending read gets ready, and what stays in the source. -/
def nextLine (s : Server) : Option (List UInt8 × List UInt8) :=
  match takeLine newline s.source with
  | (front, some rest) => some (s.line ++ front ++ [newline], rest)
  | (front, none) => if s.eof ∧ s.line ++ front ≠ [] then some (s.line ++ front, []) else none

/-- `reader.read_line(&mut line)` -/
def poll (s : Server) : Server :=
  match s.nextLine with
  | some (line, rest) => { s with source := rest }.handleLine serde line
  | none => if s.eof then { s with closed := true } else { s with line := s.line ++ s.source, source := [] }

/-- A spawned task has its result and sends it, if the channel has room. -/
def finish (s : Server) (position : Nat) (result : Value) (ack : Bool) : Server :=
  match s.running[position]? with
  | none => s
  | some call =>
    if s.done.length < doneCapacity then
      { s with running := s.running.eraseIdx position, done := s.done ++ [⟨call, result, ack⟩] }
    else s

/-- `done_rx.recv()` wins; what the pending read has taken is lost. -/
def complete (s : Server) : Server :=
  match s.done with
  | [] => s
  | completion :: rest =>
    let call := completion.call
    let key := rpcIdKey serde call.id
    let s := { s with line := [], done := rest, inFlight := s.inFlight.erase key }
    if key ∈ s.cancelled then
      { s with cancelled := s.cancelled.erase key, ended := s.ended ++ [(call, false)] }
    else
      { s.writeOutput (rpcResult call.id completion.result) with
        acknowledged := s.acknowledged ++ (if completion.ack then [call.invokeId] else [])
        ended := s.ended ++ [(call, true)] }

def step (s : Server) (input : Input) : Server :=
  match input with
  | .arrive chunk =>
    if s.eof then s else { s with source := s.source ++ chunk, arrived := s.arrived ++ chunk }
  | .hangUp => { s with eof := true }
  | .poll => if s.closed then s else s.poll serde
  | .finish position result ack => s.finish position result ack
  | .complete => if s.closed then s else s.complete serde

/-! ## What is owed -/

/-- The calls in flight. -/
def pending (s : Server) : List Call := s.running ++ s.done.map (·.call)

def pendingOf (s : Server) (key : String) : List Call :=
  s.pending.filter (rpcIdKey serde ·.id == key)

/-- The calls that have ended and were cancelled while in flight. -/
def withdrawn (s : Server) : List Call := (s.ended.map (·.1)).filter (·.withdrawn)

/-- Nothing is lost: the lines read, with those still to be read, are the lines that have
arrived; what is answered, with the calls in flight and those cancelled while they were, is
what was asked; and a call that ended was answered unless it was cancelled while in flight. -/
structure Lossless (s : Server) : Prop where
  lines : s.read ++ lines newline (s.line ++ s.source) = lines newline s.arrived
  answered : (s.read.filterMap (requestId serde)).Perm
    (s.output.filterMap answeredId ++ (s.withdrawn ++ s.pending).map Call.id)
  ended : ∀ e ∈ s.ended, e.2 = !e.1.withdrawn

/-- Everything that has arrived is read, and no call is in flight. -/
structure Settled (s : Server) : Prop where
  line : s.line = []
  source : s.source = []
  pending : s.pending = []

/-- A call is registered with an id for which no cancellation is recorded, and a cancellation
arrives while at most one call of its id is in flight. -/
def MeetsLine (s : Server) (line : List UInt8) : Prop :=
  match readLine serde line with
  | some (.call id _) => rpcIdKey serde id ∉ s.cancelled
  | some (.cancel requestId) => (s.pendingOf serde (rpcIdKey serde requestId)).length ≤ 1
  | _ => True

instance (s : Server) (line : List UInt8) : Decidable (s.MeetsLine serde line) :=
  match reads : readLine serde line with
  | some (.call id _) => decidable_of_iff (rpcIdKey serde id ∉ s.cancelled) (by simp [MeetsLine, reads])
  | some (.cancel requestId) =>
    decidable_of_iff ((s.pendingOf serde (rpcIdKey serde requestId)).length ≤ 1)
      (by simp [MeetsLine, reads])
  | some .ignore | some (.reply _) | none => isTrue (by simp [MeetsLine, reads])

/-- The condition on the state before a step: the line that is read meets its own, and a call
that ended is handled only while nothing of an unfinished line is taken. -/
def Meets (s : Server) : Input → Prop
  | .arrive _ | .hangUp | .finish .. => True
  | .poll => s.closed = false → ∀ next ∈ s.nextLine, s.MeetsLine serde next.1
  | .complete => s.closed = false → s.done ≠ [] → s.line = []

instance (s : Server) : (input : Input) → Decidable (s.Meets serde input)
  | .arrive _ | .hangUp | .finish .. => isTrue trivial
  | .poll => inferInstanceAs
    (Decidable (s.closed = false → ∀ next ∈ s.nextLine, s.MeetsLine serde next.1))
  | .complete => decidable_of_iff (s.closed = false → s.done.isEmpty = false → s.line = [])
    (by simp [Meets])

end Server

/-! ## Calls and the set of cancelled ids -/

/-- The id of a recorded cancellation is that of one call in flight at most, which is cancelled;
calls of other ids are not. -/
structure CallsAgree (cancelled : Finset String) (pending : List Call) : Prop where
  given : ∀ call ∈ pending, call.id.isNull = false
  alone : ∀ key ∈ cancelled, (pending.filter (rpcIdKey serde ·.id == key)).length ≤ 1
  marked : ∀ call ∈ pending, call.withdrawn = decide (rpcIdKey serde call.id ∈ cancelled)

namespace CallsAgree

variable {serde} {cancelled : Finset String} {pending rest : List Call} {call : Call}

theorem of_perm (agree : CallsAgree serde cancelled pending) (perm : rest.Perm pending) :
    CallsAgree serde cancelled rest where
  given call member := agree.given call (perm.mem_iff.mp member)
  alone key member := by
    rw [(perm.filter _).length_eq]
    exact agree.alone key member
  marked call member := agree.marked call (perm.mem_iff.mp member)

theorem register (agree : CallsAgree serde cancelled pending) (given : call.id.isNull = false)
    (fresh : rpcIdKey serde call.id ∉ cancelled) (standing : call.withdrawn = false) :
    CallsAgree serde cancelled (pending ++ [call]) where
  given other member := by
    rcases List.mem_append.mp member with before | new
    · exact agree.given other before
    · rw [List.mem_singleton.mp new]
      exact given
  alone key member := by
    have differ : (rpcIdKey serde call.id == key) = false := by
      simp only [beq_eq_false_iff_ne, ne_eq]
      intro same
      exact fresh (same ▸ member)
    rw [List.filter_append, List.filter_singleton, differ, cond_false, List.append_nil]
    exact agree.alone key member
  marked other member := by
    rcases List.mem_append.mp member with before | new
    · exact agree.marked other before
    · rw [List.mem_singleton.mp new, standing, decide_eq_false fresh]

theorem withdraw (agree : CallsAgree serde cancelled pending) {key : String}
    (few : (pending.filter (rpcIdKey serde ·.id == key)).length ≤ 1) :
    CallsAgree serde (insert key cancelled) (pending.map (·.withdraw serde key)) where
  given other member := by
    obtain ⟨call, before, rfl⟩ := List.mem_map.mp member
    exact agree.given call before
  alone other member := by
    have same : (pending.map (·.withdraw serde key)).filter (rpcIdKey serde ·.id == other) =
        (pending.filter (rpcIdKey serde ·.id == other)).map (·.withdraw serde key) := by
      rw [List.filter_map]
      rfl
    rw [same, List.length_map]
    rcases Finset.mem_insert.mp member with rfl | before
    · exact few
    · exact agree.alone other before
  marked other member := by
    obtain ⟨call, before, rfl⟩ := List.mem_map.mp member
    show (call.withdrawn || rpcIdKey serde call.id == key) =
      decide (rpcIdKey serde call.id ∈ insert key cancelled)
    rw [agree.marked call before, Bool.eq_iff_iff]
    simp only [Bool.or_eq_true, decide_eq_true_eq, beq_iff_eq, Finset.mem_insert]
    exact or_comm

/-- A call that ends takes the cancellation of its id along. -/
theorem leave (agree : CallsAgree serde cancelled (call :: rest)) :
    CallsAgree serde (cancelled.erase (rpcIdKey serde call.id)) rest where
  given other member := agree.given other (List.mem_cons_of_mem call member)
  alone key member := by
    have alone := agree.alone key (Finset.mem_of_mem_erase member)
    exact ((List.sublist_cons_self call rest).filter _).length_le.trans alone
  marked other member := by
    have marked := agree.marked other (List.mem_cons_of_mem call member)
    rw [marked, decide_eq_decide, Finset.mem_erase]
    refine ⟨fun held => ⟨?_, held⟩, fun held => held.2⟩
    intro same
    rw [same] at held
    -- two calls of a cancelled id would be in flight
    have alone := agree.alone _ held
    have inside : other ∈ rest.filter (rpcIdKey serde ·.id == rpcIdKey serde call.id) :=
      List.mem_filter.mpr ⟨member, by simpa using same⟩
    rw [List.filter_cons_of_pos (by simp), List.length_cons] at alone
    have positive := List.length_pos_of_mem inside
    omega

end CallsAgree

/-! ## What every step keeps -/

namespace Server

/-- What is answered, with the calls in flight and those cancelled while they were. -/
def answers (s : Server) : List Value :=
  s.output.filterMap answeredId ++ (s.withdrawn ++ s.pending).map Call.id

structure Inv (s : Server) : Prop where
  unread : newline ∉ s.line
  lines : ∀ more, (s.eof = true → more = []) →
    lines newline (s.arrived ++ more) = s.read ++ lines newline (s.line ++ s.source ++ more)
  answered : (s.read.filterMap (requestId serde)).Perm s.answers
  ended : ∀ e ∈ s.ended, e.2 = !e.1.withdrawn
  calls : CallsAgree serde s.cancelled s.pending

variable {serde} {s : Server}

theorem Inv.lossless (inv : s.Inv serde) : s.Lossless serde where
  lines := by
    have whole := inv.lines [] fun _ => rfl
    rw [List.append_nil, List.append_nil] at whole
    exact whole.symm
  answered := inv.answered
  ended := inv.ended

theorem inv_start : Inv serde {} where
  unread := List.not_mem_nil
  lines _ _ := rfl
  answered := List.Perm.nil
  ended _ member := by cases member
  calls :=
    { given := fun _ member => by cases member
      alone := fun _ member => by simp at member
      marked := fun _ member => by cases member }

/-! ### Lines -/

/-- A line the read gets ready with is the first of what has not been read. -/
theorem nextLine_spec {line rest : List UInt8} (ready : s.nextLine = some (line, rest))
    (unread : newline ∉ s.line) {more : List UInt8} (last : s.eof = true → more = []) :
    lines newline (s.line ++ s.source ++ more) = line :: lines newline (rest ++ more) := by
  unfold nextLine at ready
  split at ready
  · rename_i front _ taken
    cases ready
    obtain ⟨source, free⟩ := takeLine_some taken
    have clean : newline ∉ s.line ++ front := by
      simp only [List.mem_append, not_or]
      exact ⟨unread, free⟩
    have whole : s.line ++ s.source ++ more = (s.line ++ front) ++ newline :: (rest ++ more) := by
      simp [source]
    rw [whole, lines_append_sep clean]
  · rename_i front taken
    obtain ⟨source, free⟩ := takeLine_none taken
    split at ready
    · rename_i final
      cases ready
      have clean : newline ∉ s.line ++ front := by
        simp only [List.mem_append, not_or]
        exact ⟨unread, source ▸ free⟩
      rw [last final.1, ← source, List.append_nil, lines_of_free clean final.2]
      rfl
    · cases ready

/-- While no line is ready, what the pending read takes is no whole line. -/
theorem nextLine_none (waiting : s.nextLine = none) : newline ∉ s.source := by
  unfold nextLine at waiting
  split at waiting
  · cases waiting
  · rename_i front taken
    exact (takeLine_none taken).2

/-! ### Readings -/

theorem act_reads (serde : Serde) (s : Server) (reading : Reading) :
    (s.act serde reading).source = s.source ∧ (s.act serde reading).line = s.line ∧
      (s.act serde reading).eof = s.eof ∧ (s.act serde reading).arrived = s.arrived ∧
      (s.act serde reading).read = s.read ∧ (s.act serde reading).ended = s.ended := by
  cases reading <;> exact ⟨rfl, rfl, rfl, rfl, rfl, rfl⟩

theorem pending_register (serde : Serde) (s : Server) (id : Value) (ask : AskRequest) :
    (s.register serde id ask).pending.Perm (s.pending ++ [⟨id, s.nextInvoke, ask, false⟩]) := by
  show (s.running ++ [_] ++ s.done.map _).Perm (s.running ++ s.done.map _ ++ [_])
  rw [List.append_assoc, List.append_assoc]
  exact List.perm_append_comm.append_left _

theorem pending_cancel (s : Server) (requestId : Value) :
    (s.cancel serde requestId).pending =
      s.pending.map (·.withdraw serde (rpcIdKey serde requestId)) := by
  show s.running.map _ ++ (s.done.map _).map _ = (s.running ++ s.done.map _).map _
  rw [List.map_append, List.map_map, List.map_map]
  rfl

/-- A reading adds the id that must be answered because of it. -/
theorem act_answers (s : Server) (reading : Reading) :
    (s.answers ++ reading.requestId.toList).Perm (s.act serde reading).answers := by
  cases reading with
  | ignore => simp [act, Reading.requestId]
  | reply message =>
    show (s.output.filterMap answeredId ++ (s.withdrawn ++ s.pending).map Call.id ++
      (answeredId message).toList).Perm
        ((s.output ++ [message]).filterMap answeredId ++ (s.withdrawn ++ s.pending).map Call.id)
    have one : [message].filterMap answeredId = (answeredId message).toList := by
      cases answered : answeredId message <;> simp [answered]
    rw [List.filterMap_append, one, List.append_assoc, List.append_assoc]
    exact List.perm_append_comm.append_left _
  | call id ask =>
    have added := (pending_register serde s id ask).map Call.id
    rw [List.map_append] at added
    show (s.output.filterMap answeredId ++ (s.withdrawn ++ s.pending).map Call.id ++ [id]).Perm
      (s.output.filterMap answeredId ++
        (s.withdrawn ++ (s.register serde id ask).pending).map Call.id)
    rw [List.append_assoc, List.map_append, List.map_append, List.append_assoc]
    exact (added.symm.append_left _).append_left _
  | cancel requestId =>
    have same : (s.cancel serde requestId).pending.map Call.id = s.pending.map Call.id := by
      rw [pending_cancel, List.map_map]
      rfl
    show (s.output.filterMap answeredId ++ (s.withdrawn ++ s.pending).map Call.id ++ []).Perm
      (s.output.filterMap answeredId ++
        (s.withdrawn ++ (s.cancel serde requestId).pending).map Call.id)
    rw [List.append_nil, List.map_append, List.map_append, same]

theorem act_calls {reading : Reading} (agree : CallsAgree serde s.cancelled s.pending)
    (meets : match reading with
      | .call id _ => id.isNull = false ∧ rpcIdKey serde id ∉ s.cancelled
      | .cancel requestId => (s.pendingOf serde (rpcIdKey serde requestId)).length ≤ 1
      | _ => True) :
    CallsAgree serde (s.act serde reading).cancelled (s.act serde reading).pending := by
  cases reading with
  | ignore => exact agree
  | reply message => exact agree
  | call id ask => exact (agree.register meets.1 meets.2 rfl).of_perm (pending_register serde s id ask)
  | cancel requestId =>
    show CallsAgree serde (insert _ s.cancelled) (s.cancel serde requestId).pending
    rw [pending_cancel]
    exact agree.withdraw meets

/-! ### Steps -/

theorem inv_handleLine (inv : s.Inv serde) {line rest : List UInt8}
    (ready : s.nextLine = some (line, rest)) (meets : s.MeetsLine serde line) :
    ({ s with source := rest }.handleLine serde line).Inv serde := by
  have taken : ∀ more, (s.eof = true → more = []) →
      lines newline (s.arrived ++ more) = s.read ++ [line] ++ lines newline ([] ++ rest ++ more) := by
    intro more last
    rw [inv.lines more last, nextLine_spec ready inv.unread last, List.append_assoc]
    rfl
  unfold handleLine
  cases reads : readLine serde line with
  | none =>
    refine ⟨List.not_mem_nil, taken, ?_, inv.ended, inv.calls⟩
    show ((s.read ++ [line]).filterMap (requestId serde)).Perm s.answers
    have silent : [line].filterMap (requestId serde) = [] := by
      simp [requestId_of_unreadable reads]
    rw [List.filterMap_append, silent, List.append_nil]
    exact inv.answered
  | some reading =>
    show (Server.act serde { s with source := rest, line := [], read := s.read ++ [line] }
      reading).Inv serde
    generalize here : ({ s with source := rest, line := [], read := s.read ++ [line] } : Server) = s₀
    obtain ⟨source, untaken, eof, arrived, read, ended⟩ := act_reads serde s₀ reading
    refine ⟨?_, ?_, ?_, ?_, ?_⟩
    · rw [untaken, ← here]
      exact List.not_mem_nil
    · rw [source, untaken, eof, arrived, read, ← here]
      exact taken
    · have asked : s₀.read.filterMap (requestId serde) =
          s.read.filterMap (requestId serde) ++ reading.requestId.toList := by
        have one : [line].filterMap (requestId serde) = reading.requestId.toList := by
          rw [readLine_requestId reads]
          cases given : requestId serde line <;> simp [given]
        rw [← here, List.filterMap_append, one]
      rw [read, asked]
      refine (inv.answered.append_right _).trans ?_
      have same : s.answers = s₀.answers := by rw [← here]; rfl
      rw [same]
      exact s₀.act_answers reading
    · rw [ended, ← here]
      exact inv.ended
    · have agree : CallsAgree serde s₀.cancelled s₀.pending := by
        rw [← here]
        exact inv.calls
      refine act_calls agree ?_
      unfold MeetsLine at meets
      rw [reads] at meets
      cases reading with
      | ignore => trivial
      | reply message => trivial
      | call id ask =>
        refine ⟨given_of_call reads, ?_⟩
        rw [← here]
        exact meets
      | cancel request =>
        rw [← here]
        exact meets

theorem inv_poll (inv : s.Inv serde) (meets : ∀ next ∈ s.nextLine, s.MeetsLine serde next.1) :
    (s.poll serde).Inv serde := by
  unfold poll
  cases ready : s.nextLine with
  | some next => exact inv_handleLine inv ready (meets next ready)
  | none =>
    show Inv serde (if s.eof then _ else _)
    split
    · exact ⟨inv.unread, inv.lines, inv.answered, inv.ended, inv.calls⟩
    · refine ⟨?_, ?_, inv.answered, inv.ended, inv.calls⟩
      · simp only [List.mem_append, not_or]
        exact ⟨inv.unread, nextLine_none ready⟩
      · intro more last
        rw [inv.lines more last, List.append_nil]

theorem pending_finish (s : Server) (position : Nat) (result : Value) (ack : Bool) :
    (s.finish position result ack).pending.Perm s.pending := by
  unfold finish
  cases here : s.running[position]? with
  | none => exact List.Perm.refl _
  | some call =>
    show (if s.done.length < doneCapacity then _ else s : Server).pending.Perm s.pending
    split
    · show (s.running.eraseIdx position ++ (s.done ++ [_]).map Completion.call).Perm
        (s.running ++ s.done.map Completion.call)
      obtain ⟨inside, at_position⟩ := List.getElem?_eq_some_iff.mp here
      have split : (call :: s.running.eraseIdx position).Perm s.running := by
        rw [← at_position]
        exact List.getElem_cons_eraseIdx_perm inside
      rw [List.map_append, ← List.append_assoc]
      refine List.perm_append_comm.trans ?_
      exact split.append_right _
    · exact List.Perm.refl _

theorem finish_keeps (s : Server) (position : Nat) (result : Value) (ack : Bool) :
    (s.finish position result ack).source = s.source ∧
      (s.finish position result ack).line = s.line ∧
      (s.finish position result ack).eof = s.eof ∧
      (s.finish position result ack).arrived = s.arrived ∧
      (s.finish position result ack).read = s.read ∧
      (s.finish position result ack).output = s.output ∧
      (s.finish position result ack).ended = s.ended ∧
      (s.finish position result ack).cancelled = s.cancelled := by
  unfold finish
  cases s.running[position]? with
  | none => exact ⟨rfl, rfl, rfl, rfl, rfl, rfl, rfl, rfl⟩
  | some call =>
    show _ = _ ∧ _
    dsimp only
    split <;> exact ⟨rfl, rfl, rfl, rfl, rfl, rfl, rfl, rfl⟩

theorem inv_finish (inv : s.Inv serde) (position : Nat) (result : Value) (ack : Bool) :
    (s.finish position result ack).Inv serde := by
  obtain ⟨source, line, eof, arrived, read, output, ended, cancelled⟩ :=
    s.finish_keeps position result ack
  have perm := s.pending_finish position result ack
  refine ⟨?_, ?_, ?_, ?_, ?_⟩
  · rw [line]
    exact inv.unread
  · rw [source, line, eof, arrived, read]
    exact inv.lines
  · have owed : (s.finish position result ack).answers.Perm s.answers := by
      unfold answers withdrawn
      rw [output, ended]
      exact ((perm.append_left _).map _).append_left _
    rw [read]
    exact inv.answered.trans owed.symm
  · rw [ended]
    exact inv.ended
  · rw [cancelled]
    exact inv.calls.of_perm perm

theorem inv_complete (inv : s.Inv serde) (whole : s.done ≠ [] → s.line = []) :
    (s.complete serde).Inv serde := by
  unfold complete
  cases arrived : s.done with
  | nil => exact inv
  | cons completion rest =>
    have empty : s.line = [] := whole (by rw [arrived]; exact List.cons_ne_nil _ _)
    have leaving : (completion.call :: (s.running ++ rest.map (·.call))).Perm s.pending := by
      unfold pending
      rw [arrived]
      exact List.perm_middle.symm
    have calls := inv.calls.of_perm leaving
    have left := calls.leave
    have marked := calls.marked completion.call List.mem_cons_self
    have given := calls.given completion.call List.mem_cons_self
    have unread : ∀ more, (s.eof = true → more = []) →
        lines newline (s.arrived ++ more) = s.read ++ lines newline ([] ++ s.source ++ more) := by
      intro more last
      rw [inv.lines more last, empty]
    have owed : s.answers.Perm (s.output.filterMap answeredId ++
        (s.withdrawn ++ completion.call :: (s.running ++ rest.map (·.call))).map Call.id) :=
      ((leaving.symm.append_left _).map _).append_left _
    dsimp only
    split
    · rename_i recorded
      rw [decide_eq_true recorded] at marked
      refine ⟨List.not_mem_nil, unread, ?_, ?_, left⟩
      · refine inv.answered.trans (owed.trans ?_)
        show List.Perm _ (s.output.filterMap answeredId ++
          (((s.ended ++ [(completion.call, false)]).map (·.1)).filter (·.withdrawn) ++
            (s.running ++ rest.map (·.call))).map Call.id)
        have one : ((s.ended ++ [(completion.call, false)]).map (·.1)).filter (·.withdrawn) =
            s.withdrawn ++ [completion.call] := by
          rw [List.map_append, List.filter_append]
          simp [withdrawn, marked]
        rw [one, List.append_assoc]
        exact List.Perm.refl _
      · intro e member
        rcases List.mem_append.mp member with before | now
        · exact inv.ended e before
        · rw [List.mem_singleton.mp now, marked]
          rfl
    · rename_i unrecorded
      rw [decide_eq_false unrecorded] at marked
      rw [Finset.erase_eq_of_notMem unrecorded] at left
      refine ⟨List.not_mem_nil, unread, ?_, ?_, left⟩
      · refine inv.answered.trans (owed.trans ?_)
        show List.Perm _ ((s.output ++ [rpcResult completion.call.id completion.result]).filterMap
            answeredId ++
          (((s.ended ++ [(completion.call, true)]).map (·.1)).filter (·.withdrawn) ++
            (s.running ++ rest.map (·.call))).map Call.id)
        have one : ((s.ended ++ [(completion.call, true)]).map (·.1)).filter (·.withdrawn) =
            s.withdrawn := by
          rw [List.map_append, List.filter_append]
          simp [withdrawn, marked]
        have answer : [rpcResult completion.call.id completion.result].filterMap answeredId =
            [completion.call.id] := by
          simp [answeredId_rpcResult _ given]
        rw [one, List.filterMap_append, answer, List.append_assoc, List.map_append, List.map_append,
          List.map_cons]
        exact List.perm_middle.append_left _
      · intro e member
        rcases List.mem_append.mp member with before | now
        · exact inv.ended e before
        · rw [List.mem_singleton.mp now, marked]
          rfl

theorem inv_step (s : Server) (input : Input) (inv : s.Inv serde) (meets : s.Meets serde input) :
    (s.step serde input).Inv serde := by
  cases input with
  | arrive chunk =>
    show Inv serde (if s.eof then _ else _)
    split
    · exact inv
    · rename_i opened
      refine ⟨inv.unread, ?_, inv.answered, inv.ended, inv.calls⟩
      intro more _
      have whole := inv.lines (chunk ++ more) fun closed => absurd closed opened
      simpa [List.append_assoc] using whole
  | hangUp =>
    refine ⟨inv.unread, ?_, inv.answered, inv.ended, inv.calls⟩
    intro more last
    rw [last rfl]
    exact inv.lines [] fun _ => rfl
  | poll =>
    show Inv serde (if s.closed then _ else _)
    split
    · exact inv
    · rename_i opened
      exact inv_poll inv (meets (by simpa using opened))
  | finish position result ack => exact inv_finish inv position result ack
  | complete =>
    show Inv serde (if s.closed then _ else _)
    split
    · exact inv
    · rename_i opened
      exact inv_complete inv (meets (by simpa using opened))

/-! ## Every request is answered -/

/-- Inputs of the server itself: nothing arrives. -/
def Input.Inner : Input → Prop
  | .poll | .finish .. | .complete => True
  | .arrive _ | .hangUp => False

/-- Whatever is in flight ends and whatever line has arrived is read, unless the server stops. -/
def CanSettle (serde : Serde) (s : Server) : Prop :=
  ∃ inputs : List Input, (∀ input ∈ inputs, Input.Inner input) ∧
    ((inputs.foldl (Server.step serde) s).closed = true ∨
      (inputs.foldl (Server.step serde) s).pending = [] ∧
        newline ∉ (inputs.foldl (Server.step serde) s).source)

theorem CanSettle.after (input : Input) (inner : Input.Inner input)
    (rest : CanSettle serde (s.step serde input)) : CanSettle serde s := by
  obtain ⟨inputs, all, ends⟩ := rest
  refine ⟨input :: inputs, ?_, ends⟩
  intro other member
  rcases List.mem_cons.mp member with rfl | later
  · exact inner
  · exact all other later

theorem complete_keeps (serde : Serde) (s : Server) :
    (s.complete serde).source = s.source ∧ (s.complete serde).running = s.running ∧
      (s.complete serde).done = s.done.tail ∧ (s.complete serde).closed = s.closed := by
  unfold complete
  cases done : s.done with
  | nil => exact ⟨rfl, rfl, done, rfl⟩
  | cons completion rest =>
    dsimp only
    split <;> exact ⟨rfl, rfl, rfl, rfl⟩

theorem finish_first {call : Call} {calls : List Call} (running : s.running = call :: calls)
    (free : s.done = []) (result : Value) (ack : Bool) :
    s.finish 0 result ack = { s with running := calls, done := [⟨call, result, ack⟩] } := by
  have room : s.done.length < doneCapacity := by rw [free]; decide
  have first : s.running[0]? = some call := by rw [running]; rfl
  unfold finish
  rw [first]
  dsimp only
  rw [if_pos room, running, free]
  rfl

/-- Calls end one after the other. -/
theorem canSettle_of_read (s : Server) (unread : newline ∉ s.source) : CanSettle serde s := by
  generalize work : 2 * s.running.length + s.done.length = n
  induction n using Nat.strong_induction_on generalizing s with
  | _ n inductionHypothesis =>
    cases closed : s.closed with
    | true => exact ⟨[], by simp, .inl closed⟩
    | false =>
      cases done : s.done with
      | cons completion rest =>
        have here : s.step serde .complete = s.complete serde := by
          simp [Server.step, closed]
        obtain ⟨source, running, left, -⟩ := complete_keeps serde s
        refine CanSettle.after .complete trivial ?_
        rw [here]
        refine inductionHypothesis _ ?_ _ (by rw [source]; exact unread) rfl
        rw [running, left, ← work, done, List.tail_cons, List.length_cons]
        omega
      | nil =>
        cases running : s.running with
        | nil => exact ⟨[], by simp, .inr ⟨by simp [pending, running, done], unread⟩⟩
        | cons call calls =>
          have here : s.step serde (.finish 0 .null false) =
              { s with running := calls, done := [⟨call, .null, false⟩] } :=
            finish_first running done .null false
          refine CanSettle.after (.finish 0 .null false) trivial ?_
          rw [here]
          refine inductionHypothesis _ ?_ _ unread rfl
          rw [← work, running, done]
          simp only [List.length_cons, List.length_nil]
          omega

/-- Lines are read one after the other. -/
theorem canSettle (s : Server) : CanSettle serde s := by
  generalize size : s.source.length = n
  induction n using Nat.strong_induction_on generalizing s with
  | _ n inductionHypothesis =>
    by_cases unread : newline ∈ s.source
    · cases closed : s.closed with
      | true => exact ⟨[], by simp, .inl closed⟩
      | false =>
        have here : s.step serde .poll = s.poll serde := by
          simp [Server.step, closed]
        refine CanSettle.after .poll trivial ?_
        rw [here]
        obtain ⟨front, rest, split, free⟩ := List.eq_append_cons_of_mem unread
        have ready : s.nextLine = some (s.line ++ front ++ [newline], rest) := by
          rw [nextLine, split, takeLine_append free]
        refine inductionHypothesis rest.length ?_ _ ?_
        · rw [← size, split, List.length_append, List.length_cons]
          omega
        · unfold poll
          rw [ready]
          show (handleLine serde { s with source := rest } _).source.length = _
          unfold handleLine
          cases readLine serde (s.line ++ front ++ [newline]) with
          | none => rfl
          | some reading => exact congrArg List.length (act_reads serde _ reading).1
    · exact canSettle_of_read s unread

/-- No request is lost: at any time nothing is lost, and what is unread or in flight can be read
and can end; when all is done, the ids answered are those of the requests that arrived, but for
calls cancelled while in flight. -/
structure Answers (serde : Serde) (s : Server) : Prop where
  lossless : s.Lossless serde
  settles : CanSettle serde s
  settled : s.Settled → ((lines newline s.arrived).filterMap (requestId serde)).Perm
    (s.output.filterMap answeredId ++ s.withdrawn.map Call.id)

theorem Inv.answers (inv : s.Inv serde) : Answers serde s where
  lossless := inv.lossless
  settles := s.canSettle
  settled settled := by
    have all := inv.lossless.lines
    rw [settled.line, settled.source] at all
    have answered := inv.answered
    rw [Server.answers, settled.pending, List.append_nil] at answered
    rw [← all]
    show ((s.read ++ []).filterMap (requestId serde)).Perm _
    rw [List.append_nil]
    exact answered

end Server

end

/-- **Requests**: however the input arrives in chunks and in whatever order calls end, every
request with an id is answered exactly once with that id, except calls cancelled while in
flight, in every run whose steps meet the condition. -/
theorem serve_answers (serde : Serde) (inputs : List Input)
    (meets : Along (Server.step serde) (Server.Meets serde) {} inputs) :
    (inputs.foldl (Server.step serde) {}).Answers serde :=
  (Along.reached Server.inv_step Server.inv_start meets).answers

/-! ## A call and a ping -/

namespace Demo

def callText : List Char :=
  ("\x7b\"id\":1,\"method\":\"tools/call\",\"params\":\x7b\"arguments\":" ++
    "\x7b\"question\":\"?\"\x7d\x7d\x7d").toList

def callMessage : Value :=
  .object [("id", .nat 1), ("method", .string "tools/call"),
    ("params", .object [("arguments", .object [("question", .string "?")])])]

def pingText : List Char := "\x7b\"id\":2,\"method\":\"ping\"\x7d".toList

def pingMessage : Value := .object [("id", .nat 2), ("method", .string "ping")]

def serde : Serde where
  fromStr text :=
    if text = callText then some callMessage
    else if text = pingText then some pingMessage
    else none
  toText
    | .number (.int 1) => "1"
    | .number (.int 2) => "2"
    | _ => "null"

def bytes (text : List Char) : List UInt8 := Utf8.encode text ++ [newline]

/-- The ping arrives in two parts, and the call ends in between. -/
def lossy : List Input :=
  [.arrive (bytes callText), .poll, .arrive ((bytes pingText).take 9), .poll, .finish 0 .null true,
    .complete, .arrive ((bytes pingText).drop 9), .poll]

/-- The call ends before the ping has begun to arrive. -/
def kept : List Input :=
  [.arrive (bytes callText), .poll, .finish 0 .null true, .complete,
    .arrive ((bytes pingText).take 9), .poll, .arrive ((bytes pingText).drop 9), .poll]

end Demo

theorem serve_answers_kept :
    ((Demo.kept.foldl (Server.step Demo.serde) {}).output.filterMap answeredId).map
      Demo.serde.toText = ["1", "2"] ∧
    (Demo.kept.foldl (Server.step Demo.serde) {}).Answers Demo.serde := by
  refine ⟨by decide +kernel, serve_answers Demo.serde Demo.kept ?_⟩
  exact ⟨trivial, by decide +kernel, trivial, by decide +kernel, trivial, by decide +kernel,
    trivial, by decide +kernel, trivial⟩

/-- What the read has taken of the ping is lost, and the ping is never answered. -/
theorem serve_loses_ping :
    ¬ ∀ (serde : Serde) (inputs : List Input), (inputs.foldl (Server.step serde) {}).Answers serde := by
  intro all
  have settled := (all Demo.serde Demo.lossy).settled
    ⟨by decide +kernel, by decide +kernel, List.isEmpty_iff.mp (by decide +kernel)⟩
  have texts := settled.map Demo.serde.toText
  exact absurd texts (by decide +kernel)

end AgentConsole.Bridge.Mcp
