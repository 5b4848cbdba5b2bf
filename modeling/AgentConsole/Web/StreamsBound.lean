import AgentConsole.Web.StreamsKept

/-! # Which stream is bound to which target

What binds a stream looks first whether the target is wanted now and has no stream; whether
the request was given up in between, it does not ask. -/

namespace AgentConsole.Web.Streams

open AgentConsole.Lib

namespace Client

variable {S : Type} [DecidableEq S] {c c' c'' : Client S}

/-! ## What is promised -/

/-- At most one stream is bound to a target. -/
def OneStream (c : Client S) : Prop :=
  ∀ a b state state', c.streamStates.get? a = some state → c.streamStates.get? b = some state' →
    state.target = state'.target → a = b

/-- A frame whose stream was not guessed from events has gone to the target of its stream. -/
def DeliversTo (owner : StreamId → Target S) (c : Client S) : Prop :=
  ∀ d ∈ c.delivered, d.guessed = false → d.target = owner d.streamId

/-- What the server says: a reply is about a stream of the target that was asked for, and
summary batches are frames of lists. -/
def Honest (owner : StreamId → Target S) (c : Client S) : Input S → Prop
  | .message _ envelope =>
    match envelope.payload with
    | .subscribed streamId _ _ => ∀ correlation target, envelope.correlationId = some correlation →
        Outgoing.subscribe correlation target ∈ c.sent → owner streamId = target
    | .sessionSummaryBatch _ _ _ => owner envelope.streamId = .list
    | _ => True
  | _ => True

/-- The stream is bound to this target by the step. -/
def Binds (c : Client S) (i : Input S) (streamId : StreamId) (state : StreamState S) : Prop :=
  (c.step i).streamStates.get? streamId = some state ∧
    ∀ old, c.streamStates.get? streamId = some old → old.target ≠ state.target

/-- The step is a reply on the current socket that echoes a request for this target, which no
later reply can echo again. -/
def Answers (c : Client S) (i : Input S) (streamId : StreamId) (target : Target S) : Prop :=
  ∃ socket envelope epoch base correlation, i = .message socket envelope ∧ c.isCurrent socket ∧
    envelope.payload = .subscribed streamId epoch base ∧
    envelope.correlationId = some correlation ∧ Outgoing.subscribe correlation target ∈ c.sent ∧
    ∀ e ∈ (c.step i).sentSubscribes, e.1 ≠ correlation

/-- A step binds a stream to a target only when that is wanted and has no stream; and it is a
reply to a request for that target, or the first frame of a list that echoes none. -/
def BindsWanted (c : Client S) (i : Input S) : Prop :=
  ∀ streamId state, c.Binds i streamId state →
    c.wanted state.target ∧ c.bound state.target = false ∧
      (c.Answers i streamId state.target ∨
        state.target = .list ∧ (c.unboundStreams.get? streamId).isSome)

/-! ## The streams are right -/

/-- The streams are as they should be, and so is what has been delivered. -/
structure Right (owner : StreamId → Target S) (c : Client S) : Prop where
  one : c.OneStream
  owned : ∀ a state, c.streamStates.get? a = some state → state.guessed = false →
    owner a = state.target
  requests : ∀ e ∈ c.sentSubscribes, Outgoing.subscribe e.1 e.2 ∈ c.sent
  delivers : c.DeliversTo owner

variable {owner : StreamId → Target S}

omit [DecidableEq S] in
theorem Right.of_kept (right : c.Right owner) (kept : Kept c c') : c'.Right owner where
  one a b state state' found found' same := by
    obtain ⟨old, known, target, -⟩ := kept.streams a state found
    obtain ⟨old', known', target', -⟩ := kept.streams b state' found'
    exact right.one a b old old' known known' (target.trans (same.trans target'.symm))
  owned a state found sure := by
    obtain ⟨old, known, target, guessed⟩ := kept.streams a state found
    rw [← target]
    exact right.owned a old known (guessed.trans sure)
  requests e member := by
    rcases kept.requests e member with before | now
    · exact kept.sent _ (right.requests e before)
    · exact now
  delivers d member := right.delivers d (kept.delivered ▸ member)

theorem bound_eq_false {target : Target S} :
    c.bound target = false ↔
      ∀ a state, c.streamStates.get? a = some state → state.target ≠ target := by
  unfold bound
  simp only [List.any_eq_false, decide_eq_true_eq, FiniteMap.mem_values]
  constructor
  · intro none_ a state found
    exact none_ state ⟨a, found⟩
  · rintro none_ state ⟨a, found⟩
    exact none_ a state found

/-- A stream is bound to a target that has none. -/
theorem Right.bindStream (right : c.Right owner) {streamId : StreamId} {state : StreamState S}
    (free : c.bound state.target = false) (own : state.guessed = false → owner streamId = state.target) :
    (c.bindStream streamId state).Right owner where
  one a b one two found found' same := by
    have others := bound_eq_false.mp free
    have inserted : (c.streamStates.insert streamId state).get? a = some one := found
    have inserted' : (c.streamStates.insert streamId state).get? b = some two := found'
    rw [FiniteMap.get?_insert] at inserted inserted'
    split at inserted <;> split at inserted'
    · next first second => exact first.trans second.symm
    · cases inserted
      exact absurd same.symm (others b two inserted')
    · cases inserted'
      exact absurd same (others a one inserted)
    · exact right.one a b one two inserted inserted' same
  owned a one found sure := by
    have inserted : (c.streamStates.insert streamId state).get? a = some one := found
    rw [FiniteMap.get?_insert] at inserted
    split at inserted
    · next same =>
      cases inserted
      exact same ▸ own sure
    · exact right.owned a one inserted sure
  requests := right.requests
  delivers := right.delivers

/-! ## Steps -/

omit [DecidableEq S] in
theorem Right.deliver (right : c.Right owner) {envelope : Envelope S} {state : StreamState S}
    {target : Target S} (own : state.guessed = false → target = owner envelope.streamId) :
    (c.deliver envelope state target).Right owner where
  one := right.one
  owned := right.owned
  requests := right.requests
  delivers d member := by
    rcases List.mem_append.mp member with before | now
    · exact right.delivers d before
    · rw [List.mem_singleton.mp now]
      exact own

theorem Right.identified (right : c.Right owner) {envelope : Envelope S} {listKind guessed : Bool}
    (list : listKind = true → guessed = false → owner envelope.streamId = .list) :
    (c.identified envelope listKind guessed).Right owner := by
  rcases identified_cases c envelope listKind guessed with kept | ⟨-, -, -, free, lists, epoch, base, binds⟩
  · exact right.of_kept kept
  · rw [binds]
    have forgotten : Kept c { c with unboundStreams := c.unboundStreams.erase envelope.streamId } :=
      .of_same rfl rfl rfl fun _ member => member
    exact (right.of_kept forgotten).bindStream free (list lists)

omit [DecidableEq S] in
theorem Right.hands (right : c.Right owner) {envelope : Envelope S}
    {target : StreamState S → Target S} (hands : c.Hands c' envelope target)
    (own : ∀ state, (state.guessed = false → owner envelope.streamId = state.target) →
      state.guessed = false → target state = owner envelope.streamId) : c'.Right owner := by
  rcases hands with kept | ⟨d, state, kept, found, delivered⟩
  · exact right.of_kept kept
  · have before := right.of_kept kept
    exact (before.deliver (own state (before.owned _ state found))).of_kept delivered

theorem Right.handleMessage (right : c.Right owner) {socket : Nat} {envelope : Envelope S}
    (honest : c.Honest owner (.message socket envelope)) : (c.handleMessage envelope).Right owner := by
  by_cases reply : ∃ streamId epoch base, envelope.payload = .subscribed streamId epoch base
  · obtain ⟨streamId, epoch, base, payload⟩ := reply
    have said : ∀ id target, envelope.correlationId = some id →
        Outgoing.subscribe id target ∈ c.sent → owner streamId = target := by
      simpa [Honest, payload] using honest
    have same : c.handleMessage envelope = c.subscribed envelope.correlationId streamId epoch base := by
      simp only [Client.handleMessage, payload]
    rw [same]
    rcases subscribed_cases c envelope.correlationId streamId epoch base with
      kept | ⟨id, target, echoes, recorded, -, free, binds⟩
    · exact right.of_kept kept
    · rw [binds]
      exact (right.of_kept (kept_answered c _)).bindStream free fun _ =>
        said id target echoes (right.requests _ recorded)
  · have frame : ∀ streamId epoch base, envelope.payload ≠ .subscribed streamId epoch base :=
      fun streamId epoch base payload => reply ⟨streamId, epoch, base, payload⟩
    rcases handleMessage_frame c envelope frame with
      ⟨sessions, snapshot, applies, payload, hands⟩ | ⟨listKind, guessed, guesses, hands⟩
    · have list : owner envelope.streamId = .list := by simpa [Honest, payload] using honest
      exact (right.identified fun _ _ => list).hands hands fun _ _ _ => list.symm
    · refine Right.hands (right.identified fun lists sure => ?_) hands fun _ own sure => (own sure).symm
      rw [guesses lists] at sure
      cases sure

theorem Right.step (right : c.Right owner) (i : Input S) (honest : c.Honest owner i) :
    (c.step i).Right owner := by
  cases i with
  | link event => exact right.of_kept (kept_moveLink c event)
  | retain sessionId => exact right.of_kept (kept_retainRuntime c sessionId)
  | release sessionId => exact right.of_kept (kept_releaseRuntime c sessionId)
  | remember sessions => exact right.of_kept (.of_same rfl rfl rfl fun _ member => member)
  | turn => exact right.of_kept (kept_turn c)
  | subscribeTimeout => exact right.of_kept (kept_done c)
  | resyncTimeout streamId =>
    simp only [Client.step]
    split
    · exact right.of_kept (.of_same rfl rfl rfl fun _ member => member)
    · exact right
  | message socket envelope =>
    simp only [Client.step]
    split
    · exact right.handleMessage honest
    · exact right

omit [DecidableEq S] in
theorem right_init (owner : StreamId → Target S) : Right owner ({} : Client S) where
  one a _ _ _ found := by cases found
  owned a _ found := by cases found
  requests _ member := by cases member
  delivers _ member := by cases member

/-! ### What is newly bound -/

/-- From `c` to `c'` no stream is bound anew. -/
def NoneNew (c c' : Client S) : Prop :=
  ∀ a state', c'.streamStates.get? a = some state' →
    ∃ state, c.streamStates.get? a = some state ∧ state.target = state'.target

omit [DecidableEq S] in
theorem Kept.noneNew (kept : Kept c c') : NoneNew c c' := by
  intro a state' found
  obtain ⟨state, known, target, -⟩ := kept.streams a state' found
  exact ⟨state, known, target⟩

omit [DecidableEq S] in
theorem Hands.noneNew {envelope : Envelope S} {target : StreamState S → Target S}
    (hands : c.Hands c' envelope target) : NoneNew c c' := by
  rcases hands with kept | ⟨d, state, kept, -, delivered⟩
  · exact kept.noneNew
  · intro a state' found
    obtain ⟨mid, known, same, -⟩ := delivered.streams a state' found
    obtain ⟨old, before, was, -⟩ := kept.streams a mid known
    exact ⟨old, before, was.trans same⟩

theorem NoneNew.bindsWanted {i : Input S} (none_ : NoneNew c (c.step i)) : c.BindsWanted i := by
  rintro streamId state ⟨found, new⟩
  obtain ⟨old, known, same⟩ := none_ streamId state found
  exact absurd same (new old known)

/-- What is new after a stream has been bound, and others kept, is that stream. -/
theorem new_of_bindStream {streamId a : StreamId} {bound state : StreamState S}
    (none_ : NoneNew (c.bindStream streamId bound) c') (found : c'.streamStates.get? a = some state)
    (new : ∀ old, c.streamStates.get? a = some old → old.target ≠ state.target) :
    a = streamId ∧ state.target = bound.target := by
  obtain ⟨old, known, same⟩ := none_ a state found
  have inserted : (c.streamStates.insert streamId bound).get? a = some old := known
  rw [FiniteMap.get?_insert] at inserted
  split at inserted
  · next here =>
    cases inserted
    exact ⟨here, same.symm⟩
  · exact absurd same (new old inserted)

theorem bindsWanted_reply {socket : Nat} {envelope : Envelope S} (right : c.Right owner)
    (current : c.isCurrent socket = true) {streamId : StreamId} {epoch base : Nat}
    (payload : envelope.payload = .subscribed streamId epoch base) :
    c.BindsWanted (.message socket envelope) := by
  have same : c.step (.message socket envelope) =
      c.subscribed envelope.correlationId streamId epoch base := by
    simp only [Client.step, if_pos current, Client.handleMessage, payload]
  rcases subscribed_cases c envelope.correlationId streamId epoch base with
    kept | ⟨id, target, echoes, recorded, wants, free, binds⟩
  · exact NoneNew.bindsWanted (same ▸ kept.noneNew)
  · rintro a state ⟨found, new⟩
    have bound : NoneNew ((c.answered envelope.correlationId).bindStream streamId
        ⟨target, epoch, base, false⟩) (c.step (.message socket envelope)) := by
      rw [same, binds]
      exact (Kept.refl _).noneNew
    obtain ⟨rfl, targets⟩ := new_of_bindStream bound found new
    rw [targets]
    refine ⟨wants, free, .inl ⟨socket, envelope, epoch, base, id, rfl, current, payload, echoes,
      right.requests _ recorded, ?_⟩⟩
    intro e member
    rw [same, binds] at member
    have other : some e.1 ≠ envelope.correlationId := by
      simpa using (List.mem_filter.mp member).2
    rintro rfl
    exact other echoes.symm

theorem bindsWanted_frame {socket : Nat} {envelope : Envelope S}
    (current : c.isCurrent socket = true)
    (frame : ∀ streamId epoch base, envelope.payload ≠ .subscribed streamId epoch base) :
    c.BindsWanted (.message socket envelope) := by
  have same : c.step (.message socket envelope) = c.handleMessage envelope := by
    simp only [Client.step, if_pos current]
  obtain ⟨listKind, guessed, later⟩ : ∃ listKind guessed,
      NoneNew (c.identified envelope listKind guessed) (c.step (.message socket envelope)) := by
    rw [same]
    rcases handleMessage_frame c envelope frame with ⟨_, _, _, _, hands⟩ | ⟨listKind, guessed, _, hands⟩
    · exact ⟨true, false, hands.noneNew⟩
    · exact ⟨listKind, guessed, hands.noneNew⟩
  rintro a state ⟨found, new⟩
  rcases identified_cases c envelope listKind guessed with
    kept | ⟨anchor, unbound, wants, free, -, epoch, base, binds⟩
  · obtain ⟨mid, known, targets⟩ := later a state found
    obtain ⟨old, before, was, -⟩ := kept.streams a mid known
    exact absurd (was.trans targets) (new old before)
  · rw [binds] at later
    obtain ⟨rfl, targets⟩ := new_of_bindStream later found new
    rw [targets]
    exact ⟨wants, free, .inr ⟨rfl, by simp [unbound]⟩⟩

theorem Right.bindsWanted (right : c.Right owner) (i : Input S) : c.BindsWanted i := by
  cases i with
  | link event => exact (kept_moveLink c event).noneNew.bindsWanted
  | retain sessionId => exact (kept_retainRuntime c sessionId).noneNew.bindsWanted
  | release sessionId => exact (kept_releaseRuntime c sessionId).noneNew.bindsWanted
  | remember sessions => exact NoneNew.bindsWanted fun _ state found => ⟨state, found, rfl⟩
  | turn => exact (kept_turn c).noneNew.bindsWanted
  | subscribeTimeout => exact (kept_done c).noneNew.bindsWanted
  | resyncTimeout streamId =>
    refine NoneNew.bindsWanted ?_
    simp only [Client.step]
    split <;> exact fun _ state found => ⟨state, found, rfl⟩
  | message socket envelope =>
    by_cases current : c.isCurrent socket = true
    · by_cases reply : ∃ streamId epoch base, envelope.payload = .subscribed streamId epoch base
      · obtain ⟨streamId, epoch, base, payload⟩ := reply
        exact bindsWanted_reply right current payload
      · exact bindsWanted_frame current fun streamId epoch base payload =>
          reply ⟨streamId, epoch, base, payload⟩
    · refine NoneNew.bindsWanted ?_
      simp only [Client.step, if_neg current]
      exact fun _ state found => ⟨state, found, rfl⟩

end Client

/-- **Stream binding**: along every run in which the server replies to what it was asked, a
target never has more than one stream, a frame goes to the target of its stream unless that
was guessed from list events, and a stream is only bound to a target that is wanted and has
none, by a reply that echoes a request for it or as the first list frame of an unknown one. -/
theorem streams_bound_to_targets {S : Type} [DecidableEq S] (owner : StreamId → Target S)
    (inputs : List (Input S)) (honest : Along Client.step (Client.Honest owner) {} inputs) :
    (∀ before after, inputs = before ++ after →
      (before.foldl Client.step {}).OneStream ∧
        (before.foldl Client.step {}).DeliversTo owner) ∧
      Along Client.step Client.BindsWanted {} inputs := by
  have preserved (c : Client S) (i : Input S) (right : c.Right owner) (honest : c.Honest owner i) :
      (c.step i).Right owner := right.step i honest
  constructor
  · rintro before after rfl
    have right := Along.reached preserved (Client.right_init owner) honest.before
    exact ⟨right.one, right.delivers⟩
  · exact Along.of_invariant preserved (fun _ i right _ => right.bindsWanted i)
      (Client.right_init owner) honest

/-! ## Late replies -/

/-- Asked later, this ends a request for the target: its release, or another request for it. -/
def Asked.ends {S : Type} (target : Target S) : Asked S → Prop
  | .release sessionId => target = .session sessionId
  | .request _ later => target = later

namespace Client

variable {S : Type} [DecidableEq S]

/-- Since the request was sent its target has been released or asked for again. -/
def Outdated (c : Client S) (correlation : Nat) : Prop :=
  ∃ before target after, c.asked = before ++ .request correlation target :: after ∧
    ∃ later ∈ after, later.ends target

/-- A reply to an outdated request binds nothing. -/
def NeverRebinds (c : Client S) (i : Input S) : Prop :=
  ∀ socket envelope streamId epoch base correlation, i = .message socket envelope →
    envelope.payload = .subscribed streamId epoch base →
    envelope.correlationId = some correlation → c.Outdated correlation →
    ∀ a state, ¬ c.Binds i a state

end Client

namespace Late

/-- The first socket is open, and the list is asked for. -/
def online : List (Input Nat) :=
  [.link .connect, .link (.opening 0 .done), .link (.opening 0 .done), .link (.opened 0),
    .link (.opening 0 .done), .remember [1], .turn]

/-- A session is asked for under the correlation 1. -/
def asked : List (Input Nat) := online ++ [.subscribeTimeout, .retain 1, .turn]

/-- No reply comes; the session is released and opened again, and asked for once more. -/
def reopened : List (Input Nat) := asked ++ [.subscribeTimeout, .release 1, .retain 1, .turn]

/-- The reply to the first request. -/
def reply : Input Nat := .message 0 ⟨"", 0, 0, some 1, .subscribed "st-1" 1 5⟩

/-- The first snapshot on the stream. -/
def snapshot : Input Nat := .message 0 ⟨"st-1", 1, 5, none, .runtimeSnapshot true⟩

/-- Streams of the one session. -/
def owner : StreamId → Target Nat := fun _ => .session 1

theorem honest_reply {c : Client Nat}
    (sent : ∀ target, Outgoing.subscribe 1 target ∈ c.sent → target = .session 1) :
    c.Honest owner reply := by
  intro correlation target echoes member
  cases echoes
  exact (sent target member).symm

end Late

/-- A reply that comes after its session was released, opened and asked for again binds. -/
theorem late_reply_binds :
    Along Client.step (Client.Honest Late.owner) {} (Late.reopened ++ [Late.reply]) ∧
      ¬ Along Client.step Client.NeverRebinds {} (Late.reopened ++ [Late.reply]) := by
  constructor
  · refine ⟨trivial, trivial, trivial, trivial, trivial, trivial, trivial, trivial, trivial,
      trivial, trivial, trivial, trivial, trivial, Late.honest_reply ?_, trivial⟩
    intro target member
    have sent : (Late.reopened.foldl Client.step {}).sent =
        [.subscribe 0 .list, .subscribe 1 (.session 1), .subscribe 2 (.session 1)] := by
      decide +kernel
    have was : Outgoing.subscribe 1 target ∈ (Late.reopened.foldl Client.step {}).sent := member
    rw [sent] at was
    simpa using was
  · intro never
    have last : (Late.reopened.foldl Client.step {}).NeverRebinds Late.reply := never.at_step
    have outdated : (Late.reopened.foldl Client.step {}).Outdated 1 :=
      ⟨[.request 0 .list], .session 1, [.release 1, .request 2 (.session 1)], by decide +kernel,
        .release 1, by simp, rfl⟩
    refine last 0 _ "st-1" 1 5 1 rfl rfl rfl outdated "st-1" ⟨.session 1, 1, 5, false⟩ ⟨?_, ?_⟩
    · decide +kernel
    · intro old found
      have none_ : (Late.reopened.foldl Client.step {}).streamStates.get? "st-1" = none := by
        decide +kernel
      rw [none_] at found
      cases found

theorem streams_bound_to_targets_answered :
    (∀ before after, Late.asked ++ [Late.reply, Late.snapshot] = before ++ after →
      (before.foldl Client.step {}).OneStream ∧
        (before.foldl Client.step {}).DeliversTo Late.owner) ∧
      Along Client.step Client.BindsWanted {} (Late.asked ++ [Late.reply, Late.snapshot]) := by
  refine streams_bound_to_targets Late.owner _ ?_
  refine ⟨trivial, trivial, trivial, trivial, trivial, trivial, trivial, trivial, trivial,
    trivial, Late.honest_reply ?_, trivial, trivial⟩
  intro target member
  have sent : (Late.asked.foldl Client.step {}).sent =
      [.subscribe 0 .list, .subscribe 1 (.session 1)] := by decide +kernel
  have was : Outgoing.subscribe 1 target ∈ (Late.asked.foldl Client.step {}).sent := member
  rw [sent] at was
  simpa using was

end AgentConsole.Web.Streams
