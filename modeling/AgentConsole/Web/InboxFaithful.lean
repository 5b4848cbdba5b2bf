import AgentConsole.Web.Inbox

/-! # When the inbox hides a request

The inbox goes by ids: an id that was answered once is hidden for good, in every session, and
of two sessions that report the same id one is shown.  It is faithful in every state of a run
exactly when each step leaves every open request with an id of its own, that was not
answered. -/

namespace AgentConsole.Web.Inbox

open AgentConsole.Lib

/-! ## The filter -/

section Filter

variable {resolved : List AttentionId}

theorem activeEntries_eq (seen : List AttentionId) (cards : List Card) :
    Store.activeEntries resolved seen cards = Store.firstOf resolved seen cards := by
  induction cards generalizing seen with
  | nil => rfl
  | cons card rest inductionHypothesis =>
    unfold Store.activeEntries Store.firstOf
    cases card.2.valid <;> cases seen.contains card.2.id <;>
      cases resolved.contains card.2.id <;> simp [inductionHypothesis]

/-- The card passes the filter unless its id was seen before. -/
def Shown (resolved : List AttentionId) (card : Card) : Prop :=
  card.2.valid = true ∧ card.2.id ∉ resolved

theorem firstOf_cons (seen : List AttentionId) (card : Card) (rest : List Card) :
    Store.firstOf resolved seen (card :: rest) =
      if card.2.valid = true ∧ card.2.id ∉ resolved ∧ card.2.id ∉ seen then
        card :: Store.firstOf resolved (card.2.id :: seen) rest
      else Store.firstOf resolved seen rest := by
  rw [Store.firstOf]
  by_cases valid : card.2.valid = true <;> by_cases answered : card.2.id ∈ resolved <;>
    by_cases known : card.2.id ∈ seen <;> simp [valid, answered, known]

theorem of_mem_firstOf {seen : List AttentionId} {cards : List Card} {card : Card}
    (listed : card ∈ Store.firstOf resolved seen cards) :
    card ∈ cards ∧ Shown resolved card ∧ card.2.id ∉ seen := by
  induction cards generalizing seen with
  | nil => cases listed
  | cons first rest inductionHypothesis =>
    rw [firstOf_cons] at listed
    split at listed
    · next passes =>
      cases List.mem_cons.mp listed with
      | inl same =>
        subst same
        exact ⟨List.mem_cons_self, ⟨passes.1, passes.2.1⟩, passes.2.2⟩
      | inr later =>
        obtain ⟨there, shown, unseen⟩ := inductionHypothesis later
        exact ⟨List.mem_cons_of_mem _ there, shown, fun seen => unseen (List.mem_cons_of_mem _ seen)⟩
    · obtain ⟨there, shown, unseen⟩ := inductionHypothesis listed
      exact ⟨List.mem_cons_of_mem _ there, shown, unseen⟩

/-- No two listed cards have the same id. -/
theorem eq_of_mem_firstOf {seen : List AttentionId} {cards : List Card} {card card' : Card}
    (listed : card ∈ Store.firstOf resolved seen cards)
    (listed' : card' ∈ Store.firstOf resolved seen cards) (same : card.2.id = card'.2.id) :
    card = card' := by
  induction cards generalizing seen with
  | nil => cases listed
  | cons first rest inductionHypothesis =>
    rw [firstOf_cons] at listed listed'
    split at listed
    · next passes =>
      rw [if_pos passes] at listed'
      have apart {c : Card}
          (later : c ∈ Store.firstOf resolved (first.2.id :: seen) rest) : c.2.id ≠ first.2.id :=
        fun id => (of_mem_firstOf later).2.2 (id ▸ List.mem_cons_self)
      cases List.mem_cons.mp listed with
      | inl here =>
        cases List.mem_cons.mp listed' with
        | inl here' => rw [here, here']
        | inr later' => exact absurd (here ▸ same.symm) (apart later')
      | inr later =>
        cases List.mem_cons.mp listed' with
        | inl here' => exact absurd (here' ▸ same) (apart later)
        | inr later' => exact inductionHypothesis later later'
    · next stops =>
      rw [if_neg stops] at listed'
      exact inductionHypothesis listed listed'

theorem nodup_firstOf (seen : List AttentionId) (cards : List Card) :
    (Store.firstOf resolved seen cards).Nodup := by
  induction cards generalizing seen with
  | nil => exact List.nodup_nil
  | cons first rest inductionHypothesis =>
    rw [firstOf_cons]
    split
    · refine List.nodup_cons.mpr ⟨fun later => ?_, inductionHypothesis _⟩
      exact (of_mem_firstOf later).2.2 List.mem_cons_self
    · exact inductionHypothesis _

/-- Every id that some card shows is listed. -/
theorem exists_firstOf {seen : List AttentionId} {cards : List Card} {card : Card}
    (there : card ∈ cards) (shown : Shown resolved card) (unseen : card.2.id ∉ seen) :
    ∃ first ∈ Store.firstOf resolved seen cards, first.2.id = card.2.id := by
  induction cards generalizing seen with
  | nil => cases there
  | cons first rest inductionHypothesis =>
    rw [firstOf_cons]
    split
    · next passes =>
      by_cases same : first.2.id = card.2.id
      · exact ⟨first, List.mem_cons_self, same⟩
      · have there : card ∈ rest := by
          cases List.mem_cons.mp there with
          | inl here => exact absurd (here ▸ rfl) same
          | inr later => exact later
        have unseen : card.2.id ∉ first.2.id :: seen := by
          intro member
          cases List.mem_cons.mp member with
          | inl here => exact same here.symm
          | inr known => exact unseen known
        obtain ⟨found, listed, id⟩ := inductionHypothesis there unseen
        exact ⟨found, List.mem_cons_of_mem _ listed, id⟩
    · next stops =>
      cases List.mem_cons.mp there with
      | inl here =>
        subst here
        exact absurd ⟨shown.1, shown.2, unseen⟩ stops
      | inr later => exact inductionHypothesis later unseen

end Filter

namespace Store

variable {st : Store}

theorem mem_cards {card : Card} :
    card ∈ st.cards ↔ ∃ runtime, (card.1, runtime) ∈ st.runtimes.entries ∧
      card.2 ∈ runtime.attention := by
  obtain ⟨session, request⟩ := card
  simp [cards]

theorem projectAttentionInbox_perm : st.projectAttentionInbox.Perm st.pendingAttention := by
  unfold projectAttentionInbox pendingAttention
  rw [activeEntries_eq]
  exact List.mergeSort_perm _ _

/-- A request has one card when some card of its session has its id. -/
theorem cardsOf_length_iff (session : SessionId) (request : Request) :
    (cardsOf session request st.pendingAttention).length = 1 ↔
      ∃ card ∈ st.pendingAttention, card.1 = session ∧ card.2.id = request.id := by
  constructor
  · intro one
    obtain ⟨card, only⟩ := List.length_eq_one_iff.mp one
    have member : card ∈ cardsOf session request st.pendingAttention := by
      rw [only]
      exact List.mem_singleton_self card
    have both := List.mem_filter.mp member
    exact ⟨card, both.1, by simpa using both.2⟩
  · rintro ⟨card, listed, ofSession, ofId⟩
    have only : cardsOf session request st.pendingAttention = [card] := by
      have member : card ∈ cardsOf session request st.pendingAttention :=
        List.mem_filter.mpr ⟨listed, by simp [ofSession, ofId]⟩
      have nodup : (cardsOf session request st.pendingAttention).Nodup :=
        (nodup_firstOf [] st.cards).sublist List.filter_sublist
      have same (other : Card) (there : other ∈ cardsOf session request st.pendingAttention) :
          other = card := by
        have both := List.mem_filter.mp there
        have id : other.2.id = request.id := by
          have := both.2
          simp only [Bool.and_eq_true, decide_eq_true_eq] at this
          exact this.2
        exact eq_of_mem_firstOf both.1 listed (id.trans ofId.symm)
      exact List.perm_singleton.mp
        ((List.perm_ext_iff_of_nodup nodup (List.nodup_singleton card)).mpr fun other => by
          rw [List.mem_singleton]
          exact ⟨same other, fun here => here ▸ member⟩)
    rw [only]
    rfl

/-! ## What the lists have in common -/

/-- The list of a runtime is what the messages reported, without requests that were
answered; and an accepted answer has its id among the resolved ones. -/
structure Inv (st : Store) : Prop where
  told : ∀ session runtime, (session, runtime) ∈ st.runtimes.entries →
    ∀ request ∈ runtime.attention, request ∈ runtime.reported
  kept : ∀ session runtime, (session, runtime) ∈ st.runtimes.entries →
    ∀ request ∈ runtime.reported,
      request ∈ runtime.attention ∨ request.id ∈ st.resolvedAttentionIds
  resolved : ∀ entry ∈ st.accepted, entry.2.1 ∈ st.resolvedAttentionIds

/-- The request is no longer open, or its id is its own: it was not answered before, and no
other session reports it. -/
def Clear (st : Store) (session : SessionId) (request : Request) : Prop :=
  request.valid = true → ¬ st.Accepted request →
    request.id ∉ st.resolvedAttentionIds ∧
      ∀ other runtime, (other, runtime) ∈ st.runtimes.entries → other ≠ session →
        ∀ q ∈ runtime.reported, q.valid = true → q.id ≠ request.id

/-- Every reported request is clear. -/
def AllClear (st : Store) : Prop :=
  ∀ session runtime, (session, runtime) ∈ st.runtimes.entries →
    ∀ request ∈ runtime.reported, st.Clear session request

theorem sent_of_listed (card : Card) (listed : card ∈ st.pendingAttention) (task : Nat)
    (fresh : st.answers.get? task = none) :
    ∃ answer, (st.step (.answerAttention task card.2.id)).answers.get? task = some answer ∧
      answer.session = card.1 ∧ answer.attentionId = card.2.id := by
  have absent : st.answers.contains task = false := by
    simp [FiniteMap.contains, fresh]
  have found : st.pendingAttention.find? (fun c => c.2.id = card.2.id) = some card := by
    cases first : st.pendingAttention.find? (fun c => c.2.id = card.2.id) with
    | none => exact absurd (List.find?_eq_none.mp first card listed) (by simp)
    | some other =>
      have id : other.2.id = card.2.id := by simpa using List.find?_some first
      rw [eq_of_mem_firstOf (List.mem_of_find?_eq_some first) listed id]
  refine ⟨⟨card.1, card.2.id, card.2.kind, card.2.serial, .ensuring⟩, ?_, rfl, rfl⟩
  show (st.answerAttention task card.2.id).answers.get? task = _
  unfold answerAttention
  rw [absent, found]
  simp [setAnswer]

/-- The inbox is faithful exactly when every request is clear. -/
theorem faithful_iff (inv : Inv st) : Faithful st ↔ AllClear st := by
  constructor
  · intro faithful session runtime there request reported valid unanswered
    have listed := (faithful.listed session runtime there request reported valid unanswered).1
    obtain ⟨card, member, ofSession, ofId⟩ := (cardsOf_length_iff session request).mp listed
    have shown := (of_mem_firstOf member).2.1
    refine ⟨ofId ▸ shown.2, ?_⟩
    intro other runtime' there' different q reported' valid' same
    have open_ : ¬ st.Accepted q := by
      rintro ⟨task, accepted⟩
      have hidden := inv.resolved _ accepted
      exact shown.2 (by rw [ofId, ← same]; exact hidden)
    have listed' := (faithful.listed other runtime' there' q reported' valid' open_).1
    obtain ⟨card', member', ofOther, ofId'⟩ := (cardsOf_length_iff other q).mp listed'
    have both : card' = card :=
      eq_of_mem_firstOf member' member (ofId'.trans (same.trans ofId.symm))
    exact different (ofOther.symm.trans (both ▸ ofSession))
  · intro clear
    refine ⟨?_, sent_of_listed⟩
    intro session runtime there request reported valid unanswered
    obtain ⟨unresolved, own⟩ := clear session runtime there request reported valid unanswered
    have inAttention : request ∈ runtime.attention := by
      cases inv.kept session runtime there request reported with
      | inl kept => exact kept
      | inr hidden => exact absurd hidden unresolved
    have card : (session, request) ∈ st.cards := mem_cards.mpr ⟨runtime, there, inAttention⟩
    have unseen : request.id ∉ ([] : List AttentionId) := List.not_mem_nil
    obtain ⟨first, listed, id⟩ := exists_firstOf card ⟨valid, unresolved⟩ unseen
    have ofSession : first.1 = session := by
      by_contra different
      obtain ⟨runtime', there', inAttention'⟩ := mem_cards.mp (of_mem_firstOf listed).1
      exact own first.1 runtime' there' different first.2
        (inv.told _ _ there' _ inAttention') (of_mem_firstOf listed).2.1.1 id
    have one := (cardsOf_length_iff session request).mpr ⟨first, listed, ofSession, id⟩
    refine ⟨one, ?_⟩
    rw [← one]
    exact (projectAttentionInbox_perm.filter _).length_eq

/-! ## One event -/

/-- The requests a message reports, with their session. -/
def tells (st : Store) : Event → List Card
  | .snapshot session revision attention =>
    (st.reconcile (st.runtimes.get? session) revision attention).reported.map (session, ·)
  | .attentionAdded session item =>
    match st.runtimes.get? session with
    | none => []
    | some runtime => [(session, stamp runtime.reported st.nextSerial item)]
  | .ensured task (.snapshot revision attention) _ =>
    match st.answers.get? task with
    | none => []
    | some answer =>
      if answer.phase ≠ .ensuring then []
      else (st.reconcile (st.runtimes.get? answer.session) revision attention).reported.map
        (answer.session, ·)
  | _ => []

/-- A receipt that settles an answer makes its id one that is hidden: only the answered
request may have it.  A rejection that comes later leaves no open request without an
accepted answer. -/
def Settles (st : Store) : Event → Prop
  | .receipt task status =>
    match st.answers.get? task with
    | none => True
    | some answer =>
      match answer.phase with
      | .ensuring => True
      | .waiting _ =>
        shouldApplyReceipt status = true →
          ∀ session runtime, (session, runtime) ∈ st.runtimes.entries →
            ∀ request ∈ runtime.reported, request.valid = true →
              request.id = answer.attentionId →
                request.serial = answer.serial ∨ st.Accepted request
      | .settled =>
        status = .rejected →
          ∀ session runtime, (session, runtime) ∈ st.runtimes.entries →
            ∀ request ∈ runtime.reported, request.valid = true →
              (task, request.id, request.serial) ∈ st.accepted →
                ∃ other, other ≠ task ∧ (other, request.id, request.serial) ∈ st.accepted
  | _ => True

/-- The event leaves every open request with an id of its own that was not answered. -/
def HidesNone (st : Store) (e : Event) : Prop :=
  (∀ card ∈ st.tells e, st.Clear card.1 card.2) ∧ st.Settles e

section Put

variable {session : SessionId} {runtime : Runtime} {st' : Store}

/-- A runtime that takes the place of another one. -/
structure Puts (st : Store) (session : SessionId) (runtime : Runtime) (st' : Store) : Prop where
  runtimes : st'.runtimes = st.runtimes.set session runtime
  resolved : st'.resolvedAttentionIds = st.resolvedAttentionIds
  accepted : st'.accepted = st.accepted

theorem Puts.accepted_iff (puts : Puts st session runtime st') (request : Request) :
    st'.Accepted request ↔ st.Accepted request := by
  unfold Accepted
  rw [puts.accepted]

theorem Puts.clear_iff (puts : Puts st session runtime st') (request : Request) :
    st'.Clear session request ↔ st.Clear session request := by
  unfold Clear
  rw [puts.resolved, puts.accepted_iff, puts.runtimes]
  refine forall_congr' fun _ => forall_congr' fun _ => and_congr_right fun _ => ?_
  constructor
  · intro own other runtime' there different
    exact own other runtime' (Record.mem_set.mpr (.inr ⟨different, there⟩)) different
  · intro own other runtime' there different
    cases Record.mem_set.mp there with
    | inl new => exact absurd new.1 different
    | inr old => exact own other runtime' old.2 different

/-- After that the requests are clear exactly when those of the new runtime are. -/
theorem Puts.allClear_iff (puts : Puts st session runtime st') (inv : Inv st)
    (clear : AllClear st) :
    AllClear st' ↔ ∀ request ∈ runtime.reported, st.Clear session request := by
  constructor
  · intro clear' request reported
    have here : (session, runtime) ∈ st'.runtimes.entries := by
      rw [puts.runtimes]
      exact Record.mem_set.mpr (.inl ⟨rfl, rfl⟩)
    exact (puts.clear_iff request).mp (clear' session runtime here request reported)
  · intro new session' runtime' there request reported
    rw [puts.runtimes] at there
    cases Record.mem_set.mp there with
    | inl here =>
      obtain ⟨rfl, rfl⟩ := here
      exact (puts.clear_iff request).mpr (new request reported)
    | inr old =>
      intro valid unanswered
      rw [puts.accepted_iff] at unanswered
      obtain ⟨unresolved, own⟩ :=
        clear session' runtime' old.2 request reported valid unanswered
      refine ⟨puts.resolved ▸ unresolved, ?_⟩
      intro other runtime'' there' different q reported' valid' same
      rw [puts.runtimes] at there'
      cases Record.mem_set.mp there' with
      | inr old' => exact own other runtime'' old'.2 different q reported' valid' same
      | inl here =>
        obtain ⟨rfl, rfl⟩ := here
        have open_ : ¬ st.Accepted q := by
          rintro ⟨task, accepted⟩
          exact unresolved (same ▸ inv.resolved _ accepted)
        exact (new q reported' valid' open_).2 session' runtime' old.2 old.1 request reported
          valid same.symm

theorem Puts.inv (puts : Puts st session runtime st') (inv : Inv st)
    (told : ∀ request ∈ runtime.attention, request ∈ runtime.reported)
    (kept : ∀ request ∈ runtime.reported,
      request ∈ runtime.attention ∨ request.id ∈ st.resolvedAttentionIds) : Inv st' where
  told := by
    intro session' runtime' there
    rw [puts.runtimes] at there
    cases Record.mem_set.mp there with
    | inl here =>
      obtain ⟨rfl, rfl⟩ := here
      exact told
    | inr old => exact inv.told session' runtime' old.2
  kept := by
    intro session' runtime' there
    rw [puts.runtimes] at there
    rw [puts.resolved]
    cases Record.mem_set.mp there with
    | inl here =>
      obtain ⟨rfl, rfl⟩ := here
      exact kept
    | inr old => exact inv.kept session' runtime' old.2
  resolved := by
    rw [puts.accepted, puts.resolved]
    exact inv.resolved

end Put

/-- What an answer's bookkeeping does not touch. -/
structure Same (st st' : Store) : Prop where
  runtimes : st'.runtimes = st.runtimes
  resolved : st'.resolvedAttentionIds = st.resolvedAttentionIds
  accepted : st'.accepted = st.accepted

theorem Same.allClear_iff {st' : Store} (same : Same st st') : AllClear st' ↔ AllClear st := by
  unfold AllClear Clear Accepted
  rw [same.runtimes, same.resolved, same.accepted]

theorem Same.inv {st' : Store} (same : Same st st') (inv : Inv st) : Inv st' where
  told := by rw [same.runtimes]; exact inv.told
  kept := by rw [same.runtimes, same.resolved]; exact inv.kept
  resolved := by rw [same.accepted, same.resolved]; exact inv.resolved

theorem setAnswer_same (st : Store) (task : Nat) (answer : Answer) :
    Same st (st.setAnswer task answer) := ⟨rfl, rfl, rfl⟩

theorem puts_snapshot (session : SessionId) (revision : Nat) (attention : List AttentionItem) :
    Puts st session (st.reconcile (st.runtimes.get? session) revision attention)
      (st.snapshot session revision attention) := ⟨rfl, rfl, rfl⟩

theorem reconcile_told (inv : Inv st) (session : SessionId) (revision : Nat)
    (attention : List AttentionItem) :
    (∀ request ∈ (st.reconcile (st.runtimes.get? session) revision attention).attention,
      request ∈ (st.reconcile (st.runtimes.get? session) revision attention).reported) ∧
    ∀ request ∈ (st.reconcile (st.runtimes.get? session) revision attention).reported,
      request ∈ (st.reconcile (st.runtimes.get? session) revision attention).attention ∨
        request.id ∈ st.resolvedAttentionIds := by
  unfold reconcile
  split
  · exact ⟨fun _ there => there, fun _ there => .inl there⟩
  · next runtime found =>
    have there := Record.mem_entries.mpr found
    split
    · exact ⟨inv.told session runtime there, inv.kept session runtime there⟩
    · exact ⟨fun _ there => there, fun _ there => .inl there⟩

theorem inv_snapshot (inv : Inv st) (session : SessionId) (revision : Nat)
    (attention : List AttentionItem) : Inv (st.snapshot session revision attention) :=
  have ⟨told, kept⟩ := reconcile_told inv session revision attention
  (puts_snapshot session revision attention).inv inv told kept

theorem inv_offline (inv : Inv st) (session : SessionId) : Inv (st.offline session) := by
  have puts : Puts st session ⟨st.nextObject, 0, [], []⟩ (st.offline session) := ⟨rfl, rfl, rfl⟩
  exact puts.inv inv (fun _ there => by cases there) (fun _ there => by cases there)

theorem allClear_offline (inv : Inv st) (clear : AllClear st) (session : SessionId) :
    AllClear (st.offline session) := by
  have puts : Puts st session ⟨st.nextObject, 0, [], []⟩ (st.offline session) := ⟨rfl, rfl, rfl⟩
  exact (puts.allClear_iff inv clear).mpr fun _ there => by cases there

theorem allClear_snapshot_iff (inv : Inv st) (clear : AllClear st) (session : SessionId)
    (revision : Nat) (attention : List AttentionItem) :
    AllClear (st.snapshot session revision attention) ↔
      ∀ card ∈ (st.reconcile (st.runtimes.get? session) revision attention).reported.map
        (session, ·), st.Clear card.1 card.2 := by
  rw [(puts_snapshot session revision attention).allClear_iff inv clear]
  simp

/-! ### Attention events -/

/-- The list with the request in place of the one with its id. -/
def addRequest (request : Request) (requests : List Request) : List Request :=
  requests.filter (fun q => q.id ≠ request.id) ++ [request]

theorem attentionAdded_absent {session : SessionId} (absent : st.runtimes.get? session = none)
    (item : AttentionItem) : st.attentionAdded session item = st := by
  unfold attentionAdded
  rw [absent]

theorem puts_attentionAdded {session : SessionId} {runtime : Runtime}
    (found : st.runtimes.get? session = some runtime) (item : AttentionItem) :
    Puts st session { runtime with
        attention := addRequest (stamp runtime.reported st.nextSerial item) runtime.attention
        reported := addRequest (stamp runtime.reported st.nextSerial item) runtime.reported }
      (st.attentionAdded session item) := by
  unfold attentionAdded
  rw [found]
  exact ⟨rfl, rfl, rfl⟩

theorem inv_attentionAdded (inv : Inv st) (session : SessionId) (item : AttentionItem) :
    Inv (st.attentionAdded session item) := by
  cases found : st.runtimes.get? session with
  | none => rwa [attentionAdded_absent found]
  | some runtime =>
    have there := Record.mem_entries.mpr found
    refine (puts_attentionAdded found item).inv inv ?_ ?_
    · intro request listed
      simp only [addRequest, List.mem_append, List.mem_filter] at listed ⊢
      exact listed.imp_left fun old => ⟨inv.told session runtime there request old.1, old.2⟩
    · intro request listed
      simp only [addRequest, List.mem_append, List.mem_filter] at listed ⊢
      cases listed with
      | inr new => exact .inl (.inr new)
      | inl old =>
        cases inv.kept session runtime there request old.1 with
        | inl kept => exact .inl (.inl ⟨kept, old.2⟩)
        | inr hidden => exact .inr hidden

theorem allClear_attentionAdded_iff (inv : Inv st) (clear : AllClear st) (session : SessionId)
    (item : AttentionItem) :
    AllClear (st.attentionAdded session item) ↔
      ∀ card ∈ st.tells (.attentionAdded session item), st.Clear card.1 card.2 := by
  cases found : st.runtimes.get? session with
  | none =>
    rw [attentionAdded_absent found]
    simp [tells, found, clear]
  | some runtime =>
    have there := Record.mem_entries.mpr found
    rw [(puts_attentionAdded found item).allClear_iff inv clear]
    simp only [tells, found, List.mem_singleton, forall_eq]
    constructor
    · intro new
      exact new _ (List.mem_append_right _ (List.mem_singleton_self _))
    · intro new request listed
      cases List.mem_append.mp listed with
      | inl old => exact clear session runtime there request (List.mem_filter.mp old).1
      | inr added =>
        rw [List.mem_singleton] at added
        rw [added]
        exact new

theorem attentionRemoved_absent {session : SessionId} (absent : st.runtimes.get? session = none)
    (attentionId : AttentionId) : st.attentionRemoved session attentionId = st := by
  unfold attentionRemoved
  rw [absent]

theorem puts_attentionRemoved {session : SessionId} {runtime : Runtime}
    (found : st.runtimes.get? session = some runtime) (attentionId : AttentionId) :
    Puts st session { runtime with
        attention := runtime.attention.filter fun q => q.id ≠ attentionId
        reported := runtime.reported.filter fun q => q.id ≠ attentionId }
      (st.attentionRemoved session attentionId) := by
  unfold attentionRemoved
  rw [found]
  exact ⟨rfl, rfl, rfl⟩

theorem inv_attentionRemoved (inv : Inv st) (session : SessionId) (attentionId : AttentionId) :
    Inv (st.attentionRemoved session attentionId) := by
  cases found : st.runtimes.get? session with
  | none => rwa [attentionRemoved_absent found]
  | some runtime =>
    have there := Record.mem_entries.mpr found
    refine (puts_attentionRemoved found attentionId).inv inv ?_ ?_
    · intro request listed
      rw [List.mem_filter] at listed ⊢
      exact ⟨inv.told session runtime there request listed.1, listed.2⟩
    · intro request listed
      rw [List.mem_filter] at listed ⊢
      exact (inv.kept session runtime there request listed.1).imp_left fun kept => ⟨kept, listed.2⟩

theorem allClear_attentionRemoved (inv : Inv st) (clear : AllClear st) (session : SessionId)
    (attentionId : AttentionId) : AllClear (st.attentionRemoved session attentionId) := by
  cases found : st.runtimes.get? session with
  | none => rwa [attentionRemoved_absent found]
  | some runtime =>
    have there := Record.mem_entries.mpr found
    refine ((puts_attentionRemoved found attentionId).allClear_iff inv clear).mpr ?_
    intro request listed
    exact clear session runtime there request (List.mem_filter.mp listed).1

/-! ### Receipts -/

theorem mem_resolved_answered (task : Nat) (answer : Answer) (id : AttentionId) :
    id ∈ (st.answered task answer).resolvedAttentionIds ↔
      id ∈ st.resolvedAttentionIds ∨ id = answer.attentionId := by
  unfold answered
  dsimp only
  split
  · next known =>
    have known : answer.attentionId ∈ st.resolvedAttentionIds := by simpa using known
    constructor
    · exact .inl
    · rintro (old | same)
      · exact old
      · exact same ▸ known
  · rw [List.mem_append, List.mem_singleton]

theorem accepted_answered (task : Nat) (answer : Answer) (request : Request) :
    (st.answered task answer).Accepted request ↔
      st.Accepted request ∨
        (request.id = answer.attentionId ∧ request.serial = answer.serial) := by
  unfold Accepted answered
  simp only [List.mem_cons, Prod.mk.injEq]
  constructor
  · rintro ⟨other, new | old⟩
    · exact .inr new.2
    · exact .inl ⟨other, old⟩
  · rintro (⟨other, old⟩ | new)
    · exact ⟨other, .inr old⟩
    · exact ⟨task, .inl ⟨rfl, new⟩⟩

/-- Every runtime reports what it reported before. -/
theorem reported_applyLocalCommand (answer : Answer) (object : Nat) {session : SessionId}
    {requests : List Request} :
    (∃ runtime, (session, runtime) ∈ (st.applyLocalCommand answer object).runtimes.entries ∧
        runtime.reported = requests) ↔
      ∃ runtime, (session, runtime) ∈ st.runtimes.entries ∧ runtime.reported = requests := by
  unfold applyLocalCommand
  split
  · rfl
  · next runtime found =>
    have there := Record.mem_entries.mpr found
    split
    · simp only [Record.mem_set]
      constructor
      · rintro ⟨runtime', ⟨rfl, rfl⟩ | old, same⟩
        · exact ⟨runtime, there, same⟩
        · exact ⟨runtime', old.2, same⟩
      · rintro ⟨runtime', old, same⟩
        by_cases here : session = answer.session
        · subst here
          have only : runtime' = runtime :=
            Option.some.inj ((Record.mem_entries.mp old).symm.trans found)
          exact ⟨_, .inl ⟨rfl, rfl⟩, by rw [← same, only]⟩
        · exact ⟨runtime', .inr ⟨here, old⟩, same⟩
    · rfl

theorem applyLocalCommand_frame (answer : Answer) (object : Nat) :
    (st.applyLocalCommand answer object).resolvedAttentionIds = st.resolvedAttentionIds ∧
      (st.applyLocalCommand answer object).accepted = st.accepted := by
  unfold applyLocalCommand
  split
  · exact ⟨rfl, rfl⟩
  · split <;> exact ⟨rfl, rfl⟩

/-- The applied receipt of an answer keeps what the lists have in common: what it takes out
of a list it adds to the resolved ids. -/
theorem inv_answered (inv : Inv st) (task : Nat) (answer : Answer) (object : Nat) :
    Inv ((st.applyLocalCommand answer object).answered task answer) := by
  have frame : (st.applyLocalCommand answer object).resolvedAttentionIds = st.resolvedAttentionIds ∧
      (st.applyLocalCommand answer object).accepted = st.accepted :=
    applyLocalCommand_frame answer object
  have resolved_iff (id : AttentionId) :
      id ∈ ((st.applyLocalCommand answer object).answered task answer).resolvedAttentionIds ↔
        id ∈ st.resolvedAttentionIds ∨ id = answer.attentionId := by
    rw [mem_resolved_answered, frame.1]
  have lists (session : SessionId) (runtime : Runtime)
      (there : (session, runtime) ∈ (st.applyLocalCommand answer object).runtimes.entries) :
      (∀ request ∈ runtime.attention, request ∈ runtime.reported) ∧
        ∀ request ∈ runtime.reported, request ∈ runtime.attention ∨
          request.id ∈ st.resolvedAttentionIds ∨ request.id = answer.attentionId := by
    unfold applyLocalCommand at there
    split at there
    · exact ⟨inv.told session runtime there, fun request reported =>
        (inv.kept session runtime there request reported).imp_right .inl⟩
    · next before found =>
      have there' := Record.mem_entries.mpr found
      split at there
      · cases Record.mem_set.mp there with
        | inr old =>
          exact ⟨inv.told session runtime old.2, fun request reported =>
            (inv.kept session runtime old.2 request reported).imp_right .inl⟩
        | inl here =>
          obtain ⟨rfl, rfl⟩ := here
          refine ⟨fun request listed => ?_, fun request reported => ?_⟩
          · exact inv.told _ before there' request (List.mem_filter.mp listed).1
          · cases inv.kept _ before there' request reported with
            | inr hidden => exact .inr (.inl hidden)
            | inl kept =>
              by_cases same : request.id = answer.attentionId
              · exact .inr (.inr same)
              · exact .inl (List.mem_filter.mpr ⟨kept, by simpa using same⟩)
      · exact ⟨inv.told session runtime there, fun request reported =>
          (inv.kept session runtime there request reported).imp_right .inl⟩
  refine ⟨fun session runtime there => (lists session runtime there).1, ?_, ?_⟩
  · intro session runtime there request reported
    exact ((lists session runtime there).2 request reported).imp_right (resolved_iff _).mpr
  · intro entry member
    rw [resolved_iff]
    cases List.mem_cons.mp member with
    | inl new => exact .inr (by rw [new])
    | inr old => exact .inl (inv.resolved entry (frame.2 ▸ old))

/-- An applied receipt leaves every request clear exactly when all open requests with the
id are the answered one. -/
theorem allClear_answered_iff (clear : AllClear st) (task : Nat) (answer : Answer)
    (object : Nat) :
    AllClear ((st.applyLocalCommand answer object).answered task answer) ↔
      ∀ session runtime, (session, runtime) ∈ st.runtimes.entries →
        ∀ request ∈ runtime.reported, request.valid = true →
          request.id = answer.attentionId →
            request.serial = answer.serial ∨ st.Accepted request := by
  have frame : (st.applyLocalCommand answer object).resolvedAttentionIds = st.resolvedAttentionIds ∧
      (st.applyLocalCommand answer object).accepted = st.accepted :=
    applyLocalCommand_frame answer object
  have resolved_iff (id : AttentionId) :
      id ∈ ((st.applyLocalCommand answer object).answered task answer).resolvedAttentionIds ↔
        id ∈ st.resolvedAttentionIds ∨ id = answer.attentionId := by
    rw [mem_resolved_answered, frame.1]
  have accepted_iff (request : Request) :
      ((st.applyLocalCommand answer object).answered task answer).Accepted request ↔
        st.Accepted request ∨
          (request.id = answer.attentionId ∧ request.serial = answer.serial) := by
    rw [accepted_answered]
    unfold Accepted
    rw [frame.2]
  constructor
  · intro after session runtime there request reported valid same
    obtain ⟨runtime', there', reported'⟩ :=
      (reported_applyLocalCommand answer object).mpr ⟨runtime, there, rfl⟩
    have hidden := (resolved_iff request.id).mpr (.inr same)
    by_contra neither
    have open_ : ¬ ((st.applyLocalCommand answer object).answered task answer).Accepted request := by
      rw [accepted_iff]
      rintro (accepted | answered)
      · exact neither (.inr accepted)
      · exact neither (.inl answered.2)
    exact (after session runtime' there' request (reported' ▸ reported) valid open_).1 hidden
  · intro only session runtime there request reported valid open_
    rw [accepted_iff, not_or] at open_
    obtain ⟨before, there', same⟩ :=
      (reported_applyLocalCommand answer object).mp ⟨runtime, there, rfl⟩
    have reported' : request ∈ before.reported := same ▸ reported
    obtain ⟨unresolved, own⟩ := clear session before there' request reported' valid open_.1
    refine ⟨?_, ?_⟩
    · rw [resolved_iff, not_or]
      refine ⟨unresolved, fun answered => ?_⟩
      cases only session before there' request reported' valid answered with
      | inl serial => exact open_.2 ⟨answered, serial⟩
      | inr accepted => exact open_.1 accepted
    · intro other runtime' there'' different q reported'' valid'
      obtain ⟨before', old, same'⟩ :=
        (reported_applyLocalCommand answer object).mp ⟨runtime', there'', rfl⟩
      exact own other before' old different q (same' ▸ reported'') valid'

/-- A late rejection leaves every request clear exactly when no open request had its only
accepted answer in it. -/
theorem allClear_rejected_iff (inv : Inv st) (clear : AllClear st) (task : Nat) :
    AllClear { st with accepted := st.accepted.filter fun entry => entry.1 ≠ task } ↔
      ∀ session runtime, (session, runtime) ∈ st.runtimes.entries →
        ∀ request ∈ runtime.reported, request.valid = true →
          (task, request.id, request.serial) ∈ st.accepted →
            ∃ other, other ≠ task ∧ (other, request.id, request.serial) ∈ st.accepted := by
  have accepted_iff (request : Request) :
      Accepted { st with accepted := st.accepted.filter fun entry => entry.1 ≠ task } request ↔
        ∃ other, other ≠ task ∧ (other, request.id, request.serial) ∈ st.accepted := by
    simp [Accepted, and_comm]
  constructor
  · intro after session runtime there request reported valid accepted
    by_contra none_
    have open_ := fun accepted' => none_ ((accepted_iff request).mp accepted')
    exact (after session runtime there request reported valid open_).1 (inv.resolved _ accepted)
  · intro kept session runtime there request reported valid open_
    rw [accepted_iff] at open_
    have unanswered : ¬ st.Accepted request := by
      rintro ⟨other, accepted⟩
      by_cases same : other = task
      · exact open_ (kept session runtime there request reported valid (same ▸ accepted))
      · exact open_ ⟨other, same, accepted⟩
    exact clear session runtime there request reported valid unanswered

/-! ### Every event -/

theorem answerAttention_same (task : Nat) (attentionId : AttentionId) :
    Same st (st.answerAttention task attentionId) := by
  unfold answerAttention
  split
  · exact ⟨rfl, rfl, rfl⟩
  · split
    · exact ⟨rfl, rfl, rfl⟩
    · exact setAnswer_same _ _ _

theorem sendFailed_same (task : Nat) : Same st (st.sendFailed task) := by
  unfold sendFailed
  split
  · exact ⟨rfl, rfl, rfl⟩
  · exact setAnswer_same _ _ _

theorem inv_ensured (inv : Inv st) (task : Nat) (result : Ensured) (allowed : Bool) :
    Inv (st.ensured task result allowed) := by
  unfold ensured
  split
  · exact inv
  · split
    · exact inv
    · cases result with
      | failed => exact (setAnswer_same _ _ _).inv inv
      | offline => exact (setAnswer_same _ _ _).inv (inv_offline inv _)
      | snapshot revision attention =>
        exact (setAnswer_same _ _ _).inv (inv_snapshot inv _ revision attention)

theorem allClear_ensured_iff (inv : Inv st) (clear : AllClear st) (task : Nat)
    (result : Ensured) (allowed : Bool) :
    AllClear (st.ensured task result allowed) ↔
      ∀ card ∈ st.tells (.ensured task result allowed), st.Clear card.1 card.2 := by
  cases found : st.answers.get? task with
  | none =>
    have idle : st.ensured task result allowed = st := by
      unfold ensured
      rw [found]
    rw [idle]
    cases result <;> simp [tells, found, clear]
  | some answer =>
    by_cases reading : answer.phase = .ensuring
    · cases result with
      | failed =>
        have settled : Same st (st.ensured task .failed allowed) := by
          simp only [ensured, found, reading, ne_eq, not_true_eq_false, if_false]
          exact setAnswer_same _ _ _
        rw [settled.allClear_iff]
        simp [tells, clear]
      | offline =>
        have settled : Same (st.offline answer.session) (st.ensured task .offline allowed) := by
          simp only [ensured, found, reading, ne_eq, not_true_eq_false, if_false]
          exact setAnswer_same _ _ _
        rw [settled.allClear_iff]
        simp [tells, allClear_offline inv clear]
      | snapshot revision attention =>
        have settled : Same (st.snapshot answer.session revision attention)
            (st.ensured task (.snapshot revision attention) allowed) := by
          simp only [ensured, found, reading, ne_eq, not_true_eq_false, if_false]
          exact setAnswer_same _ _ _
        rw [settled.allClear_iff, allClear_snapshot_iff inv clear]
        simp [tells, found, reading]
    · have idle : st.ensured task result allowed = st := by
        unfold ensured
        rw [found]
        simp [reading]
      rw [idle]
      cases result <;> simp [tells, found, reading, clear]

theorem inv_receipt (inv : Inv st) (task : Nat) (status : ReceiptStatus) :
    Inv (st.receipt task status) := by
  unfold receipt
  split
  · exact inv
  · next answer found =>
    split
    · exact inv
    · next object waits =>
      dsimp only
      split
      · exact inv_answered ((setAnswer_same _ _ _).inv inv) task answer object
      · exact (setAnswer_same _ _ _).inv inv
    · split
      · exact ⟨inv.told, inv.kept, fun entry member =>
          inv.resolved entry (List.mem_filter.mp member).1⟩
      · exact inv

theorem allClear_receipt_iff (inv : Inv st) (clear : AllClear st) (task : Nat)
    (status : ReceiptStatus) :
    AllClear (st.receipt task status) ↔ st.Settles (.receipt task status) := by
  cases found : st.answers.get? task with
  | none => simp [receipt, Settles, found, clear]
  | some answer =>
    cases phase : answer.phase with
    | ensuring => simp [receipt, Settles, found, phase, clear]
    | waiting object =>
      have same := setAnswer_same st task { answer with phase := .settled }
      simp only [receipt, Settles, found, phase]
      split
      · next applies =>
        rw [allClear_answered_iff (same.allClear_iff.mpr clear)]
        exact ⟨fun only _ => only, fun only => only applies⟩
      · next idle =>
        rw [same.allClear_iff]
        exact ⟨fun _ applies => absurd applies idle, fun _ => clear⟩
    | settled =>
      simp only [receipt, Settles, found, phase]
      split
      · next rejected =>
        rw [allClear_rejected_iff inv clear]
        exact ⟨fun kept _ => kept, fun kept => kept rejected⟩
      · next idle => exact ⟨fun _ rejected => absurd rejected idle, fun _ => clear⟩

theorem inv_new : Inv new where
  told := fun _ _ there => by cases there
  kept := fun _ _ there => by cases there
  resolved := fun _ member => by cases member

theorem inv_step (st : Store) (e : Event) (inv : Inv st) : Inv (st.step e) := by
  cases e with
  | snapshot session revision attention => exact inv_snapshot inv session revision attention
  | offline session => exact inv_offline inv session
  | attentionAdded session item => exact inv_attentionAdded inv session item
  | attentionRemoved session attentionId => exact inv_attentionRemoved inv session attentionId
  | answerAttention task attentionId => exact (answerAttention_same task attentionId).inv inv
  | ensured task result allowed => exact inv_ensured inv task result allowed
  | receipt task status => exact inv_receipt inv task status
  | sendFailed task => exact (sendFailed_same task).inv inv

/-- An event keeps the requests clear exactly when it hides none. -/
theorem allClear_step_iff (inv : Inv st) (clear : AllClear st) (e : Event) :
    AllClear (st.step e) ↔ st.HidesNone e := by
  unfold HidesNone
  cases e with
  | snapshot session revision attention =>
    exact (allClear_snapshot_iff inv clear session revision attention).trans (and_true _).to_iff.symm
  | offline session =>
    simpa [step, tells, Settles] using allClear_offline inv clear session
  | attentionAdded session item =>
    exact (allClear_attentionAdded_iff inv clear session item).trans (and_true _).to_iff.symm
  | attentionRemoved session attentionId =>
    simpa [step, tells, Settles] using allClear_attentionRemoved inv clear session attentionId
  | answerAttention task attentionId =>
    have same : AllClear (st.step (.answerAttention task attentionId)) ↔ AllClear st :=
      (answerAttention_same task attentionId).allClear_iff
    simpa [tells, Settles, clear] using same
  | ensured task result allowed =>
    exact (allClear_ensured_iff inv clear task result allowed).trans (and_true _).to_iff.symm
  | receipt task status =>
    simpa [step, tells] using allClear_receipt_iff inv clear task status
  | sendFailed task =>
    have same : AllClear (st.step (.sendFailed task)) ↔ AllClear st :=
      (sendFailed_same task).allClear_iff
    simpa [tells, Settles, clear] using same

/-- For every run of the store: the inbox is faithful in every state that is reached exactly
when no event of the run hides an open request. -/
theorem inbox_faithful_iff (events : List Event) :
    (∀ before after, events = before ++ after → Faithful (before.foldl step new)) ↔
      Along step HidesNone new events := by
  have exact_ (st : Store) (e : Event) (inv : Inv st) (faithful : Faithful st) :
      Faithful (st.step e) ↔ st.HidesNone e := by
    rw [faithful_iff (inv_step st e inv)]
    exact allClear_step_iff inv ((faithful_iff inv).mp faithful) e
  have start : Faithful new :=
    (faithful_iff inv_new).mpr fun _ _ there => by cases there
  exact Along.iff_reached inv_step exact_ inv_new start

/-! ## Runs that hide a request -/

theorem not_faithful_of_hidden {session : SessionId} {runtime : Runtime} {request : Request}
    (there : (session, runtime) ∈ st.runtimes.entries) (reported : request ∈ runtime.reported)
    (valid : request.valid = true) (open_ : ¬ st.Accepted request)
    (hidden : (cardsOf session request st.pendingAttention).length ≠ 1) : ¬ Faithful st :=
  fun faithful => hidden (faithful.listed session runtime there request reported valid open_).1

end Store

namespace Hidden

open Store

/-- An approval with the id of the other examples. -/
def approval : AttentionItem := ⟨"req-1", .riskApproval, 0, true⟩

/-- The approval of session `a` is answered, and the Bridge accepts the answer. -/
def accepted : List Event :=
  [.snapshot "a" 1 [approval], .answerAttention 0 "req-1", .ensured 0 (.snapshot 2 [approval]) true,
    .receipt 0 .acceptedByBridge]

/-- The answered request is removed, and a new one gets its id. -/
def reused : List Event :=
  accepted ++ [.attentionRemoved "a" "req-1", .attentionAdded "a" approval]

/-- Another session reports the id. -/
def shared : List Event := accepted ++ [.snapshot "b" 1 [approval]]

/-- The accepted answer is rejected, and the request is still pending. -/
def rejected : List Event := accepted ++ [.receipt 0 .rejected]

/-- In each of the three runs an open request is not listed. -/
theorem open_request_hidden :
    ¬ Faithful (reused.foldl step new) ∧ ¬ Faithful (shared.foldl step new) ∧
      ¬ Faithful (rejected.foldl step new) := by
  refine ⟨?_, ?_, ?_⟩
  · have there : ("a", (⟨1, 2, [⟨approval, 2⟩], [⟨approval, 2⟩]⟩ : Runtime)) ∈
        (reused.foldl step new).runtimes.entries := by decide +kernel
    exact not_faithful_of_hidden there (List.mem_singleton_self _) rfl (by decide +kernel)
      (by decide +kernel)
  · have there : ("b", (⟨2, 1, [⟨approval, 2⟩], [⟨approval, 2⟩]⟩ : Runtime)) ∈
        (shared.foldl step new).runtimes.entries := by decide +kernel
    exact not_faithful_of_hidden there (List.mem_singleton_self _) rfl (by decide +kernel)
      (by decide +kernel)
  · have there : ("a", (⟨1, 2, [], [⟨approval, 0⟩]⟩ : Runtime)) ∈
        (rejected.foldl step new).runtimes.entries := by decide +kernel
    exact not_faithful_of_hidden there (List.mem_singleton_self _) rfl (by decide +kernel)
      (by decide +kernel)

end Hidden

end AgentConsole.Web.Inbox
