import AgentConsole.Bridge.IpcStates
import AgentConsole.Bridge.GatewayOnce

/-! # Failed writes

A write whose frame is in the outbound queue may be executed by Desktop.  When its
exchange fails, the gateway is to record that the outcome is unknown, unless Desktop has
refused the request or the frame never left.

The adapter maps a lost connection so, but nothing after the queue reports one: a reader
that ends answers the pending calls with an error response of its own, a timeout has an
error of its own, and a result that does not parse is reported as an error of the peer.
Without these three, a write fails by a refusal of the peer only; with any of them, it is
recorded as rejected.  The invariant serves both halves: its parts under `K` hold in the
runs without the three. -/

namespace AgentConsole.Bridge.IpcClient

open AgentConsole.Lib Ipc

variable {V : Type} {codec : Codec V} {config : IpcClientConfig} {s s' : IpcClient V} {i : Input V}
  {K : Prop}

/-- The peer has answered this very request with an error response. -/
def RefusedByPeer (c : Call V) : Prop :=
  ∃ frame, c.answer = some (.peer, frame) ∧ frame.resultType = .error

/-- The writer has dropped the frame. -/
def NeverSent (c : Call V) : Prop := ∃ frame, c.answer = some (.oversize, frame)

/-- What the gateway records for a write that failed with `error`. -/
def Recorded (error : IpcError) (state : ReceiptState) : Prop :=
  ∀ digest gateway task req, Gateway.isLocal req.payload = false →
    (Gateway.Job.executing req).move digest gateway task (.refused (mapIpcWriteError error)) =
      some { next := some (.update req.requestId state true) }

/-- A queued write that failed without a refusal is recorded as one whose outcome is
unknown. -/
def UncertaintyReported (s : IpcClient V) : Prop :=
  ∀ n c error, s.calls.get? n = some c → c.method.isWrite = true → c.queued = true →
    c.phase = .returned (.error error) → ¬ RefusedByPeer c → ¬ NeverSent c →
    Recorded error .outcomeUnknown

def WritePending (s : IpcClient V) : Prop :=
  ∃ n ∈ s.pending, ∃ c, s.calls.get? n = some c ∧ c.method.isWrite = true

/-- The result of a response has the type of its method. -/
def WellFormed (codec : Codec V) (method : Method) (frame : ResponseFrame V) : Prop :=
  method.resultLabel? = none ∨ codec.badResult method (frame.result.getD codec.null) = none

/-- No write is left without a conclusive answer: the reader does not end while a write is
pending, no queued write times out, and a successful response to a write is well formed. -/
def Conclusive (codec : Codec V) (s : IpcClient V) (i : Input V) : Prop :=
  match i with
  | .readFails _ => s.reader = .reading → ¬ s.WritePending
  | .incoming (.broadcast _) => s.reader = .reading → s.eventsClosed = true → ¬ s.WritePending
  | .incoming (.request _) | .incoming .clientDiscoveryRequest =>
    s.reader = .reading → s.writer = .ended → ¬ s.WritePending
  | .incoming (.response frame) =>
    ∀ n ∈ s.pending, frame.requestId = some n → ∀ c, s.calls.get? n = some c →
      c.method.isWrite = true → frame.resultType = .success → WellFormed codec c.method frame
  | .timeout n =>
    ∀ c, s.calls.get? n = some c → c.method.isWrite = true → c.phase = .await → c.answer ≠ none
  | _ => True

/-! ## The invariant -/

/-- Where the answer and the result of a write come from. -/
structure Sound (K : Prop) (codec : Codec V) (c : Call V) : Prop where
  answer : ∀ origin frame, c.answer = some (origin, frame) → K →
    origin ≠ .drained ∧
      (origin = .peer → frame.resultType = .success → WellFormed codec c.method frame)
  unqueued : ∀ params, c.phase = .enqueue params → c.queued = false
  failed : ∀ error, c.queued = true → c.phase = .returned (.error error) →
    (K → RefusedByPeer c ∨ NeverSent c) ∧ (mapIpcWriteError error).code ≠ .outcomeUnknown

/-- The pending calls wait, and all writes are sound. -/
structure Settled (K : Prop) (codec : Codec V) (s : IpcClient V) : Prop where
  fresh : ∀ n, s.issued ≤ n → s.calls.get? n = none
  nodup : s.pending.Nodup
  waits : ∀ n ∈ s.pending, ∃ c, s.calls.get? n = some c ∧ c.answer = none ∧
    ∀ result, c.phase ≠ .returned result
  sound : ∀ n c, s.calls.get? n = some c → c.method.isWrite = true → Sound K codec c

theorem settled_init : Settled K codec {} := by
  refine ⟨?_, by simp, ?_, ?_⟩
  · intro n above
    have other : n ≠ 0 := by simp at above; omega
    simp [FiniteMap.get?_insert, other]
  · intro n member
    obtain rfl : n = 0 := by simpa using member
    exact ⟨_, by simp; rfl, rfl, by simp⟩
  · intro n c found writes
    rw [FiniteMap.get?_insert] at found
    split at found
    · cases found
      simp [Method.isWrite] at writes
    · simp at found

/-- A step that changes the calls one by one and shortens the pending table. -/
theorem Settled.update (inv : Settled K codec s) (f : Nat → Call V → Call V)
    (issued : s'.issued = s.issued)
    (calls : ∀ n, s'.calls.get? n = (s.calls.get? n).map (f n))
    (pending : s'.pending.Sublist s.pending) (method : ∀ n c, (f n c).method = c.method)
    (waits : ∀ n ∈ s'.pending, ∀ c, (f n c).answer = c.answer ∧
      ((∀ result, c.phase ≠ .returned result) → ∀ result, (f n c).phase ≠ .returned result))
    (sound : ∀ n c, s.calls.get? n = some c → c.method.isWrite = true → Sound K codec c →
      Sound K codec (f n c)) : Settled K codec s' := by
  refine ⟨fun n above => ?_, pending.nodup inv.nodup, fun n member => ?_, fun n c found writes => ?_⟩
  · rw [calls, inv.fresh n (issued ▸ above)]
    rfl
  · obtain ⟨c, found, silent, unended⟩ := inv.waits n (pending.subset member)
    obtain ⟨answer, phase⟩ := waits n member c
    exact ⟨f n c, by rw [calls, found]; rfl, answer.trans silent, phase unended⟩
  · rw [calls] at found
    obtain ⟨old, before, rfl⟩ := Option.map_eq_some_iff.mp found
    rw [method] at writes
    exact sound n old before writes (inv.sound n old before writes)

/-- Steps that leave the calls and the pending table alone. -/
theorem Settled.same (inv : Settled K codec s) (issued : s'.issued = s.issued)
    (calls : s'.calls = s.calls) (pending : s'.pending = s.pending) : Settled K codec s' :=
  ⟨issued ▸ calls ▸ inv.fresh, pending ▸ inv.nodup, pending ▸ calls ▸ inv.waits, calls ▸ inv.sound⟩

/-! ## Steps -/

theorem Settled.deliver (inv : Settled K codec s) (call : Nat) (origin : Origin)
    (frame : ResponseFrame V) (answered : origin ≠ .drained)
    (formed : K → ∀ c, call ∈ s.pending → s.calls.get? call = some c → c.method.isWrite = true →
      origin = .peer → frame.resultType = .success → WellFormed codec c.method frame) :
    Settled K codec (s.deliver call origin frame) := by
  unfold IpcClient.deliver
  split
  · next member =>
    refine inv.update (fun n c => if n = call then { c with answer := some (origin, frame) } else c)
      rfl ?_ List.erase_sublist ?_ ?_ ?_
    · intro n
      rw [FiniteMap.get?_modify]
      by_cases same : n = call <;> simp [same]
    · intro n c
      by_cases same : n = call <;> simp [same]
    · intro n left c
      have other : n ≠ call := by
        rintro rfl
        exact List.Nodup.not_mem_erase inv.nodup left
      simp [other]
    · intro n c found writes sound
      by_cases same : n = call
      · subst same
        obtain ⟨c', found', -, unended⟩ := inv.waits n member
        obtain rfl : c' = c := by simpa [found] using found'.symm
        rw [if_pos rfl]
        refine ⟨?_, sound.unqueued, fun error _ ended => absurd ended (unended _)⟩
        rintro _ _ ⟨⟩ holds
        exact ⟨answered, formed holds c' member found writes⟩
      · simpa [same] using sound
  · exact inv

theorem Settled.drain (inv : Settled K codec s) (idle : K → ¬ s.WritePending) (reason : String) :
    Settled K codec (s.drain reason) := by
  refine inv.update (fun n c => if n ∈ s.pending then
      { c with answer := some (.drained,
        ⟨none, .error, none, none, none, some s!"connection-closed: {reason}"⟩) } else c)
    rfl ?_ (List.nil_sublist _) ?_ (by simp [IpcClient.drain]) ?_
  · intro n
    simp only [IpcClient.drain, FiniteMap.get?_mapVal]
  · intro n c
    by_cases member : n ∈ s.pending <;> simp [member]
  · intro n c found writes sound
    by_cases member : n ∈ s.pending
    · rw [if_pos member]
      obtain ⟨c', found', -, unended⟩ := inv.waits n member
      obtain rfl : c' = c := by simpa [found] using found'.symm
      refine ⟨fun _ _ _ holds => ?_, sound.unqueued, fun error _ ended => absurd ended (unended _)⟩
      exact absurd ⟨n, member, c', found, writes⟩ (idle holds)
    · simpa [member] using sound

theorem Settled.dispatch (inv : Settled K codec s) (reading : s.reader = .reading)
    {message : IncomingMessage V} (conclusive : K → s.Conclusive codec (.incoming message)) :
    Settled K codec (s.dispatch message) := by
  have send : (K → s.writer = .ended → ¬ s.WritePending) →
      ∀ out, Settled K codec (s.sendNow out) := by
    intro idle out
    unfold sendNow
    split
    · next ended => exact inv.drain (fun holds => idle holds ended) _
    · exact inv.same rfl rfl rfl
  cases message with
  | response frame =>
    simp only [IpcClient.dispatch]
    split
    · next call requested =>
      exact inv.deliver call .peer frame (by simp) fun holds c member found writes _ =>
        conclusive holds call member requested c found writes
    · exact inv
  | broadcast method =>
    simp only [IpcClient.dispatch]
    split
    · next closed => exact inv.drain (fun holds => conclusive holds reading closed) _
    · exact inv
  | clientDiscoveryRequest => exact send (fun holds => conclusive holds reading) _
  | request method => exact send (fun holds => conclusive holds reading) _
  | clientDiscoveryResponse => exact inv
  | unknown => exact inv

theorem Settled.write (inv : Settled K codec s) : Settled K codec (s.write codec config) := by
  have taken : ∀ rest, Settled K codec { s with outbound := rest } := fun rest => inv.same rfl rfl rfl
  unfold IpcClient.write
  split
  · next message rest _ _ =>
    split
    · exact (taken rest).deliver _ .oversize _ (by simp) (by simp)
    · exact taken rest
  · exact inv

theorem Settled.issue (inv : Settled K codec s) (method : Method) (params : V) :
    Settled K codec (s.issue config method params) := by
  have new : s.calls.get? s.issued = none := inv.fresh s.issued le_rfl
  have unlisted : s.issued ∉ s.pending := by
    intro member
    obtain ⟨c, found, -⟩ := inv.waits s.issued member
    simp [new] at found
  have later : ∀ {c : Call V} (n : Nat), s.issued + 1 ≤ n →
      (s.calls.insert s.issued c).get? n = none := by
    intro c n above
    rw [FiniteMap.get?_insert, if_neg (by omega), inv.fresh n (by omega)]
  have older : ∀ {c : Call V} {n : Nat}, n ∈ s.pending →
      (s.calls.insert s.issued c).get? n = s.calls.get? n := by
    intro c n member
    rw [FiniteMap.get?_insert, if_neg]
    rintro rfl
    exact unlisted member
  unfold IpcClient.issue
  split
  · refine ⟨later, inv.nodup, fun n member => ?_, fun n c found writes => ?_⟩
    · obtain ⟨c, found, rest⟩ := inv.waits n member
      exact ⟨c, (older member).trans found, rest⟩
    · rw [FiniteMap.get?_insert] at found
      split at found
      · cases found
        exact ⟨by simp, by simp, by simp⟩
      · exact inv.sound n c found writes
  · refine ⟨later, ?_, fun n member => ?_, fun n c found writes => ?_⟩
    · exact inv.nodup.append (List.nodup_singleton _) (by simpa using unlisted)
    · rcases List.mem_append.mp member with old | now
      · obtain ⟨c, found, rest⟩ := inv.waits n old
        exact ⟨c, (older old).trans found, rest⟩
      · obtain rfl : n = s.issued := by simpa using now
        exact ⟨_, FiniteMap.get?_insert_self _ _ _, rfl, by simp⟩
    · rw [FiniteMap.get?_insert] at found
      split at found
      · cases found
        exact ⟨by simp, by simp, by simp⟩
      · exact inv.sound n c found writes

/-- A call returns; its sender is no longer in the pending table. -/
theorem Settled.returns (inv : Settled K codec s) {call : Nat} {c : Call V}
    {result : Except IpcError (ResponseFrame V)} (found : s.calls.get? call = some c)
    (failed : ∀ error, c.method.isWrite = true → c.queued = true → result = .error error →
      (K → RefusedByPeer c ∨ NeverSent c) ∧ (mapIpcWriteError error).code ≠ .outcomeUnknown) :
    Settled K codec ({ s with pending := s.pending.erase call }.returns call result) := by
  refine inv.update (fun n c => if n = call then { c with phase := .returned result } else c)
    rfl ?_ List.erase_sublist ?_ ?_ ?_
  · intro n
    simp only [IpcClient.returns, FiniteMap.get?_modify]
    by_cases same : n = call <;> simp [same]
  · intro n c
    by_cases same : n = call <;> simp [same]
  · intro n left c
    have other : n ≠ call := by
      rintro rfl
      exact List.Nodup.not_mem_erase inv.nodup left
    simp [other]
  · intro n c' found' writes sound
    by_cases same : n = call
    · subst same
      obtain rfl : c = c' := by simpa [found] using found'
      rw [if_pos rfl]
      refine ⟨sound.answer, by simp, fun error queued ended => ?_⟩
      exact failed error writes queued (by simpa using ended)
    · simpa [same] using sound

theorem Settled.enqueue (inv : Settled K codec s) {call : Nat} {c : Call V} {params : V}
    (found : s.calls.get? call = some c) (phase : c.phase = .enqueue params) :
    Settled K codec (s.enqueue call c params) := by
  unfold IpcClient.enqueue
  split
  · -- the frame was not queued, so there is nothing to report
    refine inv.returns found fun error writes queued _ => ?_
    simp [(inv.sound call c found writes).unqueued params phase] at queued
  · refine inv.update (fun n c' => if n = call then { c' with phase := .await, queued := true } else c')
      rfl ?_ (List.Sublist.refl _) ?_ ?_ ?_
    · intro n
      rw [FiniteMap.get?_insert]
      by_cases same : n = call <;> simp [same, found]
    · intro n c'
      by_cases same : n = call <;> simp [same]
    · intro n _ c'
      by_cases same : n = call <;> simp [same]
    · intro n c' _ _ sound
      by_cases same : n = call
      · rw [if_pos same]
        exact ⟨sound.answer, by simp, by simp⟩
      · simpa [same] using sound

theorem peer_code (message : String) : (mapIpcWriteError (.peer message)).code ≠ .outcomeUnknown := by
  simp only [mapIpcWriteError]
  split
  · simp
  · split
    · simp
    · split <;> simp [mapIpcWriteError.ipc]

/-- What an answered call makes of its answer. -/
theorem failed_of_result {c : Call V} {origin : Origin} {frame : ResponseFrame V} {error : IpcError}
    (sound : Sound K codec c) (answered : c.answer = some (origin, frame))
    (failed : result codec c.method frame = .error error) :
    (K → RefusedByPeer c ∨ NeverSent c) ∧ (mapIpcWriteError error).code ≠ .outcomeUnknown := by
  constructor
  swap
  · have byPeer : ∃ message, error = .peer message := by
      simp only [result] at failed
      split at failed
      · exact ⟨_, (Except.error.inj failed).symm⟩
      · split at failed
        · cases failed
        · split at failed
          · cases failed
          · exact ⟨_, (Except.error.inj failed).symm⟩
    obtain ⟨message, rfl⟩ := byPeer
    exact peer_code message
  intro holds
  obtain ⟨answer, formed⟩ := sound.answer origin frame answered holds
  cases origin with
  | drained => exact absurd rfl answer
  | oversize => exact Or.inr ⟨frame, answered⟩
  | peer =>
    cases type : frame.resultType with
    | error => exact Or.inl ⟨frame, answered, type⟩
    | success =>
      simp only [result, type] at failed
      rcases formed rfl type with unread | parses
      · simp [unread] at failed
      · split at failed
        · cases failed
        · simp [parses] at failed

theorem Settled.settle (inv : Settled K codec s) {call : Nat} {late : Bool}
    (answered : K → late = true → ∀ c, s.calls.get? call = some c → c.method.isWrite = true →
      c.phase = .await → c.answer ≠ none) : Settled K codec (s.settle codec call late) := by
  unfold IpcClient.settle
  split
  · next method origin frame queued found =>
    split
    · exact inv
    · -- an answered call has left the pending table
      have gone : s.pending.erase call = s.pending := by
        refine List.erase_of_not_mem fun member => ?_
        obtain ⟨c, found', silent, -⟩ := inv.waits call member
        obtain rfl := Option.some.inj (found'.symm.trans found)
        simp at silent
      have settled : Settled K codec ({ s with pending := s.pending.erase call }.returns call
          (result codec method frame)) := inv.returns found fun error writes _ ended =>
        failed_of_result (inv.sound call _ found writes) rfl ended
      rw [gone] at settled
      exact settled
  · next method queued found =>
    split
    · next overdue =>
      refine inv.returns found fun error writes _ ended => ?_
      cases ended
      refine ⟨fun holds => absurd rfl (answered holds overdue _ found writes rfl), ?_⟩
      simp [mapIpcWriteError, mapIpcWriteError.ipc]
    · exact inv
  · exact inv

/-- Every step keeps the invariant. -/
theorem Settled.step (inv : Settled K codec s) (conclusive : K → s.Conclusive codec i) :
    Settled K codec (s.step codec config i) := by
  cases i with
  | handshake | handshakeTimeout | publishConnected | publishDisconnected | outboundClosed
  | broadcast =>
    simp only [IpcClient.step]
    split <;> exact inv.same rfl rfl rfl
  | incoming message =>
    simp only [IpcClient.step]
    split
    · next reading => exact inv.dispatch reading conclusive
    · exact inv
  | readFails reason =>
    simp only [IpcClient.step]
    split
    · next reading => exact inv.drain (fun holds => conclusive holds reading) reason
    · exact inv
  | write => exact inv.write
  | writeFails =>
    simp only [IpcClient.step, IpcClient.writeFails]
    split
    · split <;> exact inv.same rfl rfl rfl
    · exact inv
  | closeEvents => exact inv.same rfl rfl rfl
  | request method params =>
    simp only [IpcClient.step]
    split
    · split
      · exact inv
      · exact inv.issue method params
    · exact inv
  | enqueue call =>
    simp only [IpcClient.step]
    split
    · next c found =>
      split
      · next params phase => exact inv.enqueue found phase
      · exact inv
    · exact inv
  | wake call =>
    simp only [IpcClient.step]
    split
    · exact inv
    · exact inv.settle (by simp)
  | timeout call =>
    simp only [IpcClient.step]
    split
    · exact inv
    · exact inv.settle fun holds _ => conclusive holds

theorem recorded_rejected {error : IpcError} (known : (mapIpcWriteError error).code ≠ .outcomeUnknown) :
    Recorded error (.rejected (mapIpcWriteError error).code (mapIpcWriteError error).message) := by
  intro digest gateway task req executes
  simp [Gateway.Job.move, executes, Gateway.refusal, known]

/-- In every run in which no write is left without a conclusive answer, a queued write
that failed without a refusal is recorded as one whose outcome is unknown.  In every run
at all, a queued write that failed is recorded as rejected. -/
theorem failed_writes_reported (codec : Codec V) (config : IpcClientConfig) (inputs : List (Input V)) :
    (Along (step codec config) (Conclusive codec) {} inputs →
      UncertaintyReported (inputs.foldl (step codec config) {})) ∧
    ∀ n c error, (inputs.foldl (step codec config) {}).calls.get? n = some c →
      c.method.isWrite = true → c.queued = true → c.phase = .returned (.error error) →
      Recorded error (.rejected (mapIpcWriteError error).code (mapIpcWriteError error).message) := by
  constructor
  · intro conclusive
    have inv : Settled True codec (inputs.foldl (step codec config) {}) :=
      Along.reached (fun _ _ inv now => inv.step fun _ => now) settled_init conclusive
    intro n c error found writes queued ended unrefused sent
    rcases ((inv.sound n c found writes).failed error queued ended).1 trivial with refused | dropped
    · exact absurd refused unrefused
    · exact absurd dropped sent
  · have inv : Settled False codec (inputs.foldl (step codec config) {}) := by
      have start : Settled False codec ({} : IpcClient V) := settled_init
      generalize ({} : IpcClient V) = s at start
      induction inputs generalizing s with
      | nil => exact start
      | cons i rest inductionHypothesis => exact inductionHypothesis _ (start.step False.elim)
    intro n c error found writes queued ended
    exact recorded_rejected ((inv.sound n c found writes).failed error queued ended).2

/-! ## A connection that closes under a write -/

/-- The handshake, and a turn that is started. -/
def started : List (Input String) :=
  [.incoming (.response ⟨some 0, .success, some .initialise, none, some "client-1", none⟩),
    .handshake, .publishConnected, .request .startTurn "hello", .enqueue 1, .write]

/-- Desktop refuses the turn. -/
def refusedTurn : List (Input String) :=
  started ++ [.incoming (.response ⟨some 1, .error, none, none, none, some "busy"⟩), .wake 1]

theorem failed_writes_reported_refused :
    Along (step sampleCodec {}) (Conclusive sampleCodec) {} refusedTurn ∧
      UncertaintyReported (refusedTurn.foldl (step sampleCodec {}) {}) := by
  have conclusive : Along (step sampleCodec {}) (Conclusive sampleCodec) {} refusedTurn := by
    refine ⟨?_, trivial, trivial, trivial, trivial, trivial, ?_, trivial, trivial⟩
    · rintro n - ⟨⟩ c found writes
      obtain rfl := Option.some.inj found
      cases writes
    · rintro n - ⟨⟩ c found writes failed
      cases failed
  exact ⟨conclusive, (failed_writes_reported sampleCodec {} refusedTurn).1 conclusive⟩

/-- The frame is written, then the connection closes. -/
def closedUnderWrite : List (Input String) :=
  started ++ [.readFails "peer closed connection", .wake 1]

/-- Desktop may have started the turn; the gateway records a rejection. -/
theorem closed_write_rejected :
    ¬ UncertaintyReported (closedUnderWrite.foldl (step sampleCodec {}) {}) ∧
      ∃ c, (closedUnderWrite.foldl (step sampleCodec {}) {}).calls.get? 1 = some c ∧
        ¬ RefusedByPeer c ∧ ¬ NeverSent c ∧
        c.phase = .returned (.error (.peer "connection-closed: peer closed connection")) ∧
        Recorded (.peer "connection-closed: peer closed connection") (.rejected .codexUnavailable
          "ipc: peer returned error: connection-closed: peer closed connection") := by
  have found : ∃ c, (closedUnderWrite.foldl (step sampleCodec {}) {}).calls.get? 1 = some c ∧
      c.method = .startTurn ∧ c.queued = true ∧ (∃ frame, c.answer = some (.drained, frame)) ∧
      c.phase = .returned (.error (.peer "connection-closed: peer closed connection")) :=
    ⟨_, rfl, rfl, rfl, ⟨_, rfl⟩, rfl⟩
  obtain ⟨c, found, method, queued, ⟨frame, answered⟩, ended⟩ := found
  have unrefused : ¬ RefusedByPeer c := by
    rintro ⟨frame, refused, -⟩
    simp [answered] at refused
  have sent : ¬ NeverSent c := by
    rintro ⟨frame, dropped⟩
    simp [answered] at dropped
  have rejected : Recorded (.peer "connection-closed: peer closed connection")
      (.rejected .codexUnavailable
        "ipc: peer returned error: connection-closed: peer closed connection") := by
    have code : mapIpcWriteError (.peer "connection-closed: peer closed connection") =
        ⟨.codexUnavailable,
          "ipc: peer returned error: connection-closed: peer closed connection"⟩ := by
      decide +kernel
    have recorded := recorded_rejected (peer_code "connection-closed: peer closed connection")
    rw [code] at recorded
    exact recorded
  refine ⟨fun reported => ?_, c, found, unrefused, sent, ended, rejected⟩
  have unknown := reported 1 c _ found (by simp [method, Method.isWrite]) queued ended unrefused sent
  have first := unknown (fun _ => "") {} 0 Gateway.sampleRequest rfl
  have second := rejected (fun _ => "") {} 0 Gateway.sampleRequest rfl
  rw [first] at second
  simp at second

end AgentConsole.Bridge.IpcClient
