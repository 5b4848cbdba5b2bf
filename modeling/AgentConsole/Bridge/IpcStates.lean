import AgentConsole.Bridge.Ipc

/-! # What the connection state says

`connect` publishes `Connected` when it has the answer to its handshake, the reader
publishes `Disconnected` when it ends, and the writer publishes nothing.  The state is
truthful along a run exactly when `connect` is not late and the writer does not fail
under a published `Connected`. -/

namespace AgentConsole.Bridge.IpcClient

open AgentConsole.Lib Ipc

variable {V : Type} {codec : Codec V} {config : IpcClientConfig} {s : IpcClient V} {i : Input V}

/-- The reader or the writer has ended. -/
def Dead (s : IpcClient V) : Prop := s.reader = .ended ∨ s.writer = .ended

/-- A dead connection is published as such, and the supervisor attaches again. -/
def Truthful (s : IpcClient V) : Prop :=
  s.Dead → (∃ reason, s.published = .disconnected reason) ∧ attaches (some s) = true

/-- `Connected` is published for a live connection only, and a published connection loses
its writer after its reader only. -/
def Ordered (codec : Codec V) (config : IpcClientConfig) (s : IpcClient V) (i : Input V) : Prop :=
  match i with
  | .publishConnected => ∀ clientId, s.connect = .answered clientId → ¬ s.Dead
  | .writeFails =>
    ∀ message rest, s.writer = .writing → s.outbound = message :: rest →
      refusedLength? codec config message = none → s.published.isConnected = false
  | _ => True

theorem truthful_iff : s.Truthful ↔ (s.Dead → s.published.isConnected = false) := by
  unfold Truthful attaches ipcConnected
  cases state : s.published <;> simp [ConnectionState.isConnected, state]

/-! ## Steps that publish nothing -/

/-- The steps of the calls and of the two queues. -/
structure Unpublished (s s' : IpcClient V) : Prop where
  connect : s'.connect = s.connect
  writer : s'.writer = s.writer
  published : s'.published = s.published
  reader : s'.reader = .ended ↔ s.reader = .ended

theorem Unpublished.refl (s : IpcClient V) : Unpublished s s := ⟨rfl, rfl, rfl, Iff.rfl⟩

theorem Unpublished.truthful {s' : IpcClient V} (same : Unpublished s s') :
    s'.Truthful ↔ s.Truthful := by
  simp only [truthful_iff, Dead, same.writer, same.published, same.reader]

theorem deliver_unpublished (s : IpcClient V) (call : Nat) (origin : Origin)
    (frame : ResponseFrame V) : Unpublished s (s.deliver call origin frame) := by
  unfold deliver
  split <;> exact ⟨rfl, rfl, rfl, Iff.rfl⟩

theorem drain_unpublished (reading : s.reader = .reading) (reason : String) :
    Unpublished s (s.drain reason) := ⟨rfl, rfl, rfl, by simp [drain, reading]⟩

theorem dispatch_unpublished (reading : s.reader = .reading) (message : IncomingMessage V) :
    Unpublished s (s.dispatch message) := by
  have send : ∀ message, Unpublished s (s.sendNow message) := by
    intro message
    unfold sendNow
    split
    · exact drain_unpublished reading _
    · exact ⟨rfl, rfl, rfl, Iff.rfl⟩
  cases message with
  | response frame =>
    simp only [dispatch]
    split
    · exact deliver_unpublished s _ _ frame
    · exact .refl s
  | broadcast method =>
    simp only [dispatch]
    split
    · exact drain_unpublished reading _
    · exact .refl s
  | clientDiscoveryRequest => exact send _
  | request method => exact send _
  | clientDiscoveryResponse => exact .refl s
  | unknown => exact .refl s

theorem write_unpublished (s : IpcClient V) : Unpublished s (s.write codec config) := by
  unfold write
  split
  · split
    · -- the frame is dropped, and the answer changes no task
      exact ⟨(deliver_unpublished _ _ _ _).connect, (deliver_unpublished _ _ _ _).writer,
        (deliver_unpublished _ _ _ _).published, (deliver_unpublished _ _ _ _).reader⟩
    · exact ⟨rfl, rfl, rfl, Iff.rfl⟩
  · exact .refl s

theorem issue_unpublished (s : IpcClient V) (method : Method) (params : V) :
    Unpublished s (s.issue config method params) := by
  unfold issue
  split <;> exact ⟨rfl, rfl, rfl, Iff.rfl⟩

theorem enqueue_unpublished (s : IpcClient V) (call : Nat) (c : Call V) (params : V) :
    Unpublished s (s.enqueue call c params) := by
  cases writer : s.writer <;> simp only [enqueue, writer] <;> exact ⟨rfl, by simp [returns, writer], rfl, Iff.rfl⟩

theorem settle_unpublished (s : IpcClient V) (call : Nat) (late : Bool) :
    Unpublished s (s.settle codec call late) := by
  unfold settle
  split <;> (try split) <;> exact ⟨rfl, rfl, rfl, Iff.rfl⟩

/-! ## Runs -/

/-- `Connected` is published by a `connect` that has returned. -/
def Returned (s : IpcClient V) : Prop :=
  s.published.isConnected = true → ∃ clientId, s.connect = .returned clientId

theorem Unpublished.returned {s' : IpcClient V} (same : Unpublished s s') (inv : s.Returned) :
    s'.Returned := by
  unfold Returned
  rw [same.published, same.connect]
  exact inv

/-- What a step other than the publications and the end of the writer does. -/
theorem step_unpublished (quiet : i ≠ .handshake ∧ i ≠ .handshakeTimeout ∧ i ≠ .publishConnected ∧
      i ≠ .publishDisconnected ∧ i ≠ .writeFails ∧ i ≠ .outboundClosed) :
    Unpublished s (s.step codec config i) := by
  cases i with
  | incoming message =>
    simp only [step]
    split
    · next reading => exact dispatch_unpublished reading message
    · exact .refl s
  | readFails reason =>
    simp only [step]
    split
    · next reading => exact drain_unpublished reading reason
    · exact .refl s
  | write => exact write_unpublished s
  | closeEvents => exact ⟨rfl, rfl, rfl, Iff.rfl⟩
  | broadcast =>
    simp only [step]
    split <;> exact ⟨rfl, rfl, rfl, Iff.rfl⟩
  | request method params =>
    simp only [step]
    split
    · split
      · exact .refl s
      · exact issue_unpublished s method params
    · exact .refl s
  | enqueue call =>
    simp only [step]
    split
    · split
      · exact enqueue_unpublished s call _ _
      · exact .refl s
    · exact .refl s
  | wake call =>
    simp only [step]
    split
    · exact .refl s
    · exact settle_unpublished s call false
  | timeout call =>
    simp only [step]
    split
    · exact .refl s
    · exact settle_unpublished s call true
  | _ => simp at quiet

/-- At a truthful state, a step is ordered exactly when it leads to a truthful state. -/
theorem truthful_step_iff (returned : s.Returned) (truthful : s.Truthful) :
    (s.step codec config i).Truthful ↔ s.Ordered codec config i := by
  rw [truthful_iff] at truthful
  cases i with
  | handshake =>
    simp only [step, Ordered, iff_true, truthful_iff]
    split <;> exact truthful
  | handshakeTimeout =>
    simp only [step, Ordered, iff_true, truthful_iff]
    split <;> exact truthful
  | publishConnected =>
    simp only [step, Ordered, truthful_iff]
    cases connect : s.connect with
    | answered clientId => simp [Dead, ConnectionState.isConnected]
    | _ => simpa using truthful
  | publishDisconnected =>
    simp only [step, Ordered, iff_true, truthful_iff]
    split
    · simp [ConnectionState.isConnected]
    · exact truthful
  | writeFails =>
    simp only [step, Ordered, truthful_iff, writeFails]
    cases writer : s.writer with
    | ended => simpa using truthful
    | writing =>
      cases outbound : s.outbound with
      | nil => simpa using truthful
      | cons message rest =>
        by_cases fits : refusedLength? codec config message = none
        · simp [fits, Dead]
        · simpa [fits] using truthful
  | outboundClosed =>
    simp only [step, Ordered, iff_true, truthful_iff]
    split
    · next error connect _ _ =>
      -- the client was not returned, so nothing is published
      intro _
      by_contra published
      obtain ⟨clientId, done⟩ := returned (by simpa using published)
      simp [connect] at done
    · exact truthful
  | incoming _ | readFails _ | write | closeEvents | broadcast | request _ _ | enqueue _ | wake _
  | timeout _ =>
    simpa [Ordered] using (step_unpublished (by simp)).truthful.mpr (truthful_iff.mpr truthful)

theorem Returned.step (inv : s.Returned) : (s.step codec config i).Returned := by
  cases i with
  | handshake | handshakeTimeout =>
    simp only [IpcClient.step]
    split
    · next waiting _ =>
      intro published
      obtain ⟨clientId, done⟩ := inv published
      simp [waiting] at done
    · exact inv
  | publishConnected =>
    simp only [IpcClient.step]
    split
    · exact fun _ => ⟨_, rfl⟩
    · exact inv
  | publishDisconnected =>
    simp only [IpcClient.step]
    split
    · exact fun published => by simp [ConnectionState.isConnected] at published
    · exact inv
  | writeFails =>
    simp only [IpcClient.step, IpcClient.writeFails]
    split
    · split <;> exact inv
    · exact inv
  | outboundClosed =>
    simp only [IpcClient.step]
    split <;> exact inv
  | _ => exact (step_unpublished (by simp)).returned inv

/-- In every run, the published state is truthful after every step if and only if every
step is ordered. -/
theorem connection_state_truthful_iff (codec : Codec V) (config : IpcClientConfig)
    (inputs : List (Input V)) :
    Along (step codec config) (fun s i => (s.step codec config i).Truthful) {} inputs ↔
      Along (step codec config) (Ordered codec config) {} inputs := by
  have returned : Returned ({} : IpcClient V) := by simp [Returned, ConnectionState.isConnected]
  have truthful : Truthful ({} : IpcClient V) := by simp [Truthful, Dead]
  generalize ({} : IpcClient V) = s at returned truthful
  induction inputs generalizing s with
  | nil => exact Iff.rfl
  | cons i rest inductionHypothesis =>
    rw [Along, Along, truthful_step_iff returned truthful]
    refine and_congr_right fun ordered => ?_
    exact inductionHypothesis _ returned.step ((truthful_step_iff returned truthful).mpr ordered)

/-! ## A peer that answers and closes -/

/-- A codec whose values are the client ids. -/
def sampleCodec : Codec String where
  null := ""
  textLength _ params := params.length + 1
  badResult _ value := if value = "" then some "invalid type: null" else none
  clientId value := .ok value

/-- The peer answers the handshake and closes at once; the reader is done before `connect`
has looked at the answer. -/
def answeredAndClosed : List (Input String) :=
  [.incoming (.response ⟨some 0, .success, some .initialise, none, some "client-1", none⟩),
    .handshake, .readFails "peer closed connection", .publishDisconnected, .publishConnected]

/-- The connection is dead and stays published as connected. -/
theorem dead_connection_published :
    let s := answeredAndClosed.foldl (step sampleCodec {}) {}
    s.Dead ∧ s.published = .connected "client-1" ∧ attaches (some s) = false ∧
      ¬ Along (step sampleCodec {}) (fun s i => (s.step sampleCodec {} i).Truthful) {}
        answeredAndClosed := by
  have dead : (answeredAndClosed.foldl (step sampleCodec {}) {}).Dead := Or.inl (by decide +kernel)
  have live : attaches (some (answeredAndClosed.foldl (step sampleCodec {}) {})) = false := by
    decide +kernel
  refine ⟨dead, by decide +kernel, live, fun truthful => ?_⟩
  have whole : answeredAndClosed = answeredAndClosed.dropLast ++ .publishConnected :: [] := rfl
  rw [whole] at truthful
  have last := truthful.at_step dead
  exact Bool.false_ne_true (live.symm.trans last.2)

end AgentConsole.Bridge.IpcClient
