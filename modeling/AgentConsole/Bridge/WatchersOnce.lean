import AgentConsole.Bridge.Watchers

/-! # Watchers receive each event once

While subscriptions succeed, the watchers of a session are those that subscribed to it, and
each has received, or is about to receive, what the session produced since.  While no two
attachments of one session are underway, the runtime has one channel for a session, and what
it dispatches is the beginning of what was sent there. -/

namespace AgentConsole.Bridge.Watching

open AgentConsole.Lib

variable {M Change Event : Type} {mapper : MapperOps M Change Event}

theorem numbers_append (front back : List (Sent Event)) :
    numbers (front ++ back) = numbers front ++ numbers back := List.filterMap_append

/-! ## The adapter -/

namespace Adapter

variable {a : Adapter M Event}

/-- What holds between the adapter's steps. -/
structure Inv (a : Adapter M Event) : Prop where
  watchers : ∀ session, a.watchersOf session =
    (a.subscribed.filter (·.session = session)).map (·.watcher)
  delivered : ∀ subscription ∈ a.subscribed,
    a.delivered subscription.watcher = a.since subscription
  known : ∀ subscription ∈ a.subscribed,
    subscription.watcher < a.nextWatcher ∧ subscription.since ≤ a.made.length
  distinct : (a.subscribed.map (·.watcher)).Nodup
  unused : ∀ watcher, a.nextWatcher ≤ watcher → a.channels watcher = []
  sending : ∀ e ∈ a.sending, e.1 < a.nextWatcher
  introductions : ∀ e ∈ a.introductions, e.1 < a.nextWatcher
  numbered : a.made.map (·.1) = List.range a.made.length

theorem inv_start : Inv ({} : Adapter M Event) where
  watchers _ := rfl
  delivered _ member := by cases member
  known _ member := by cases member
  distinct := List.nodup_nil
  unused _ _ := rfl
  sending _ member := by cases member
  introductions _ member := by cases member
  numbered := rfl

theorem since_nodup (inv : a.Inv) (subscription : Subscription) : (a.since subscription).Nodup := by
  have all : (a.made.map (·.1)).Nodup := by
    rw [inv.numbered]
    exact List.nodup_range
  exact (List.filter_sublist.map _).nodup all

/-- Sending adds to one channel. -/
theorem numbers_send (a : Adapter M Event) (watcher other : Nat) (sent : Sent Event) :
    numbers ((a.send watcher sent).channels other) =
      numbers (a.channels other) ++ if other = watcher then sent.number.toList else [] := by
  show numbers (if other = watcher then a.channels other ++ [sent] else a.channels other) = _
  split
  · rw [numbers_append]
    cases h : sent.number <;> simp [numbers, h]
  · rw [List.append_nil]

theorem channels_send_of_ne {watcher other : Nat} (different : other ≠ watcher) (sent : Sent Event) :
    (a.send watcher sent).channels other = a.channels other := if_neg different

/-! ### Subscribing -/

theorem watchersOf_insert {b : Adapter M Event} {session : SessionId} {runtime : SessionRuntime M}
    (inserted : b.sessions = a.sessions.insert session runtime) (other : SessionId) :
    b.watchersOf other = if other = session then runtime.watchers else a.watchersOf other := by
  unfold watchersOf
  rw [inserted, FiniteMap.get?_insert]
  split <;> rfl

theorem watchersOf_eq (mapper : MapperOps M Change Event) (a : Adapter M Event) (session : SessionId) :
    ((a.sessions.get? session).getD (newRuntime mapper session)).watchers = a.watchersOf session := by
  unfold watchersOf
  cases a.sessions.get? session <;> rfl

/-- With a client a session is followed, and nothing else changes. -/
theorem followLocked_online (mapper : MapperOps M Change Event) (online : a.ipc = true)
    (session : SessionId) : ∃ b, a.followLocked mapper session = some b ∧
      (∀ other, b.watchersOf other = a.watchersOf other) ∧ b.subscribed = a.subscribed ∧
      b.channels = a.channels ∧ b.sending = a.sending ∧ b.made = a.made ∧
      b.nextWatcher = a.nextWatcher ∧ b.introductions = a.introductions := by
  have same : ∀ (b : Adapter M Event) (runtime : SessionRuntime M),
      b.sessions = a.sessions.insert session runtime →
      runtime.watchers = a.watchersOf session → ∀ other, b.watchersOf other = a.watchersOf other := by
    intro b runtime inserted kept other
    rw [watchersOf_insert inserted]
    split
    · rename_i here
      rw [kept, here]
    · rfl
  unfold followLocked
  rw [online, Bool.not_true, if_neg Bool.false_ne_true]
  dsimp only
  split
  · exact ⟨_, rfl, same _ _ rfl (watchersOf_eq mapper a session), rfl, rfl, rfl, rfl, rfl, rfl⟩
  · exact ⟨_, rfl, same _ _ rfl (watchersOf_eq mapper a session), rfl, rfl, rfl, rfl, rfl, rfl⟩

/-- A subscription with a client succeeds and adds one watcher. -/
structure Subscribes (a b : Adapter M Event) (session : SessionId) : Prop where
  watchers : ∀ other, b.watchersOf other =
    a.watchersOf other ++ if other = session then [a.nextWatcher] else []
  subscribed : b.subscribed = a.subscribed ++ [⟨session, a.nextWatcher, a.made.length⟩]
  channels : b.channels = a.channels
  sending : b.sending = a.sending
  made : b.made = a.made
  nextWatcher : b.nextWatcher = a.nextWatcher + 1
  introductions : ∀ e ∈ b.introductions, e ∈ a.introductions ∨ e.1 = a.nextWatcher

theorem subscribe_online (mapper : MapperOps M Change Event) (online : a.ipc = true)
    (session : SessionId) : (a.subscribe mapper session).2 = true ∧
      Subscribes a (a.subscribe mapper session).1 session := by
  let runtime := (a.sessions.get? session).getD (newRuntime mapper session)
  let pushed : Adapter M Event :=
    { a with
      sessions := a.sessions.insert session
        { runtime with watchers := runtime.watchers ++ [a.nextWatcher] }
      nextWatcher := a.nextWatcher + 1 }
  obtain ⟨b, followed, watchers, subscribed, channels, sending, made, nextWatcher, introductions⟩ :=
    followLocked_online (a := pushed) mapper online session
  have result : a.subscribe mapper session = ({ b with
      introductions := b.introductions ++
        (if mapper.hasSnapshot runtime.mapper then
          [(a.nextWatcher, mapper.sessionSummary runtime.mapper)] else [])
      subscribed := b.subscribed ++ [⟨session, a.nextWatcher, b.made.length⟩] }, true) := by
    have followed_ : ({ a with
        sessions := a.sessions.insert session
          { (a.sessions.get? session).getD (newRuntime mapper session) with
            watchers := ((a.sessions.get? session).getD (newRuntime mapper session)).watchers ++
              [a.nextWatcher] }
        nextWatcher := a.nextWatcher + 1 } : Adapter M Event).followLocked mapper session = some b :=
      followed
    unfold Adapter.subscribe
    dsimp only
    rw [followed_]
  rw [result]
  refine ⟨rfl, ?_, ?_, channels, sending, made, nextWatcher, ?_⟩
  · intro other
    show b.watchersOf other = _
    have old : runtime.watchers = a.watchersOf session := watchersOf_eq mapper a session
    have inserted : pushed.sessions = a.sessions.insert session
        { runtime with watchers := runtime.watchers ++ [a.nextWatcher] } := rfl
    rw [watchers other, watchersOf_insert inserted]
    by_cases here : other = session
    · rw [if_pos here, if_pos here, here, ← old]
    · rw [if_neg here, if_neg here, List.append_nil]
  · show b.subscribed ++ [⟨session, a.nextWatcher, b.made.length⟩] = _
    rw [subscribed, made]
  · intro e member
    rcases List.mem_append.mp member with before | new
    · rw [introductions] at before
      exact .inl before
    · split at new
      · exact .inr (congrArg Prod.fst (List.mem_singleton.mp new))
      · cases new

theorem Inv.subscribe {b : Adapter M Event} (inv : a.Inv) {session : SessionId}
    (adds : Subscribes a b session) : b.Inv where
  watchers other := by
    rw [adds.watchers, adds.subscribed, List.filter_append, List.map_append, inv.watchers,
      List.filter_singleton]
    by_cases here : other = session
    · subst here
      simp
    · simp [here, Ne.symm here]
  delivered subscription member := by
    have made : b.since subscription = a.since subscription := by
      unfold since
      rw [adds.made]
    have sent : ∀ watcher, b.delivered watcher = a.delivered watcher := by
      intro watcher
      unfold Adapter.delivered
      rw [adds.channels, adds.sending]
    rw [made, sent]
    rw [adds.subscribed] at member
    rcases List.mem_append.mp member with before | new
    · exact inv.delivered subscription before
    · rw [List.mem_singleton.mp new]
      -- nothing was sent to the new watcher, and nothing was produced since
      have untouched : a.delivered a.nextWatcher = [] := by
        unfold Adapter.delivered
        rw [inv.unused a.nextWatcher le_rfl]
        have none : a.sending.filter (·.1 = a.nextWatcher) = [] := by
          rw [List.filter_eq_nil_iff]
          intro e inside
          have below := inv.sending e inside
          simp only [decide_eq_true_eq]
          omega
        rw [none]
        rfl
      have nothing : a.since ⟨session, a.nextWatcher, a.made.length⟩ = [] := by
        unfold since
        rw [List.map_eq_nil_iff, List.filter_eq_nil_iff]
        intro e inside
        have below : e.1 ∈ List.range a.made.length := by
          rw [← inv.numbered]
          exact List.mem_map_of_mem inside
        have := List.mem_range.mp below
        simp only [decide_eq_true_eq, not_and]
        omega
      rw [untouched, nothing]
  known subscription member := by
    rw [adds.subscribed] at member
    rw [adds.nextWatcher, adds.made]
    rcases List.mem_append.mp member with before | new
    · have known := inv.known subscription before
      omega
    · rw [List.mem_singleton.mp new]
      exact ⟨Nat.lt_succ_self _, le_rfl⟩
  distinct := by
    rw [adds.subscribed, List.map_append]
    refine List.Nodup.append inv.distinct (List.nodup_singleton _) ?_
    intro watcher before new
    obtain ⟨subscription, member, rfl⟩ := List.mem_map.mp before
    have below := (inv.known subscription member).1
    have same := List.mem_singleton.mp new
    simp only at same
    omega
  unused watcher above := by
    rw [adds.nextWatcher] at above
    rw [adds.channels]
    exact inv.unused watcher (by omega)
  sending e member := by
    rw [adds.sending] at member
    rw [adds.nextWatcher]
    exact Nat.lt_succ_of_lt (inv.sending e member)
  introductions e member := by
    rw [adds.nextWatcher]
    rcases adds.introductions e member with before | new
    · exact Nat.lt_succ_of_lt (inv.introductions e before)
    · rw [new]
      exact Nat.lt_succ_self _
  numbered := by
    rw [adds.made]
    exact inv.numbered

/-! ### Sending -/

/-- What sending leaves alone. -/
theorem Inv.of_send {b : Adapter M Event} (inv : a.Inv) (sessions : b.sessions = a.sessions)
    (subscribed : b.subscribed = a.subscribed) (made : b.made = a.made)
    (nextWatcher : b.nextWatcher = a.nextWatcher)
    (delivered : ∀ watcher, b.delivered watcher = a.delivered watcher)
    (unused : ∀ watcher, a.nextWatcher ≤ watcher → b.channels watcher = [])
    (sending : ∀ e ∈ b.sending, e ∈ a.sending)
    (introductions : ∀ e ∈ b.introductions, e ∈ a.introductions) : b.Inv where
  watchers session := by
    have same : b.watchersOf session = a.watchersOf session := by
      unfold watchersOf
      rw [sessions]
    rw [same, subscribed]
    exact inv.watchers session
  delivered subscription member := by
    rw [subscribed] at member
    have same : b.since subscription = a.since subscription := by
      unfold since
      rw [made]
    rw [delivered, same]
    exact inv.delivered subscription member
  known subscription member := by
    rw [subscribed] at member
    rw [nextWatcher, made]
    exact inv.known subscription member
  distinct := by
    rw [subscribed]
    exact inv.distinct
  unused watcher above := unused watcher (nextWatcher ▸ above)
  sending e member := by
    rw [nextWatcher]
    exact inv.sending e (sending e member)
  introductions e member := by
    rw [nextWatcher]
    exact inv.introductions e (introductions e member)
  numbered := by
    rw [made]
    exact inv.numbered

theorem Inv.introduce (inv : a.Inv) (position : Nat) : (a.introduce position).Inv := by
  unfold Adapter.introduce
  cases here : a.introductions[position]? with
  | none => exact inv
  | some introduction =>
    obtain ⟨watcher, event⟩ := introduction
    have known := inv.introductions _ (List.mem_of_getElem? here)
    dsimp only at known ⊢
    refine inv.of_send rfl rfl rfl rfl ?_ ?_ (fun e member => member)
      (fun e member => List.mem_of_mem_eraseIdx member)
    · intro other
      unfold Adapter.delivered
      rw [numbers_send]
      show numbers (a.channels other) ++ (if other = watcher then [] else []) ++ _ = _
      rw [ite_self, List.append_nil]
      rfl
    · intro other above
      rw [channels_send_of_ne (by omega)]
      exact inv.unused other above

theorem Inv.pumpSend (inv : a.Inv) : a.pumpSend.Inv := by
  unfold Adapter.pumpSend
  cases waiting : a.sending with
  | nil => exact inv
  | cons next rest =>
    obtain ⟨watcher, sent⟩ := next
    have known := inv.sending (watcher, sent) (by rw [waiting]; exact List.mem_cons_self)
    dsimp only at known ⊢
    refine inv.of_send rfl rfl rfl rfl ?_ ?_ ?_ (fun e member => member)
    · intro other
      unfold Adapter.delivered
      rw [numbers_send, waiting]
      show numbers (a.channels other) ++ (if other = watcher then sent.number.toList else []) ++
        numbers ((rest.filter (·.1 = other)).map (·.2)) = _
      rw [List.append_assoc]
      congr 1
      by_cases here : other = watcher
      · rw [if_pos here, List.filter_cons_of_pos (by simp [here]), List.map_cons]
        cases h : sent.number <;> simp [numbers, h]
      · rw [if_neg here, List.filter_cons_of_neg (by simpa using Ne.symm here)]
        rfl
    · intro other above
      rw [channels_send_of_ne (by omega)]
      exact inv.unused other above
    · intro e member
      rw [waiting]
      exact List.mem_cons_of_mem _ member

/-! ### Producing -/

/-- Of what the pump is about to send, a watcher gets each event once if it is in the list, and
nothing if it is not. -/
theorem numbers_dispatch (events : List (Event × Nat)) {watchers : List Nat}
    (distinct : watchers.Nodup) (watcher : Nat) :
    numbers (((events.flatMap fun e => watchers.map fun w => (w, Sent.event e.2 e.1)).filter
      (·.1 = watcher)).map (·.2)) =
        if watcher ∈ watchers then events.map (·.2) else [] := by
  have one : ∀ e : Event × Nat,
      numbers (((watchers.map fun w => (w, Sent.event e.2 e.1)).filter (·.1 = watcher)).map (·.2)) =
        if watcher ∈ watchers then [e.2] else [] := by
    intro e
    rw [List.filter_map, List.map_map]
    have kept : watchers.filter ((fun p : Nat × Sent Event => decide (p.1 = watcher)) ∘
        fun w => (w, Sent.event e.2 e.1)) = watchers.filter (· == watcher) :=
      List.filter_congr fun w _ => rfl
    rw [kept, List.filter_beq]
    split
    · rename_i inside
      rw [List.count_eq_one_of_mem distinct inside]
      rfl
    · rename_i outside
      rw [List.count_eq_zero_of_not_mem outside]
      rfl
  induction events with
  | nil => split <;> rfl
  | cons e rest inductionHypothesis =>
    rw [List.flatMap_cons, List.filter_append, List.map_append, numbers_append, one,
      inductionHypothesis]
    split <;> rfl

theorem watchers_nodup (inv : a.Inv) (session : SessionId) : (a.watchersOf session).Nodup := by
  rw [inv.watchers]
  exact (List.filter_sublist.map _).nodup inv.distinct

theorem mem_watchersOf (inv : a.Inv) {subscription : Subscription}
    (member : subscription ∈ a.subscribed) (session : SessionId) :
    subscription.watcher ∈ a.watchersOf session ↔ subscription.session = session := by
  rw [inv.watchers]
  constructor
  · intro inside
    obtain ⟨other, found, same⟩ := List.mem_map.mp inside
    obtain ⟨listed, there⟩ := List.mem_filter.mp found
    rw [← List.inj_on_of_nodup_map inv.distinct listed member same]
    exact of_decide_eq_true there
  · intro here
    exact List.mem_map_of_mem (List.mem_filter.mpr ⟨member, decide_eq_true here⟩)

theorem Inv.dispatchToWatchers (inv : a.Inv) (idle : a.sending = []) {session : SessionId}
    {runtime : SessionRuntime M} (same : runtime.watchers = a.watchersOf session)
    (events : List Event) : (a.dispatchToWatchers session runtime events).Inv := by
  have watchers : ∀ other, (a.dispatchToWatchers session runtime events).watchersOf other =
      a.watchersOf other := by
    intro other
    rw [watchersOf_insert rfl]
    split
    · rename_i here
      rw [same, here]
    · rfl
  refine ⟨?_, ?_, ?_, inv.distinct, inv.unused, ?_, inv.introductions, ?_⟩
  · intro other
    rw [watchers]
    exact inv.watchers other
  · intro subscription member
    have before := inv.delivered subscription member
    have since : (a.dispatchToWatchers session runtime events).since subscription =
        a.since subscription ++
          if subscription.session = session then (events.zipIdx a.made.length).map (·.2) else [] := by
      unfold Adapter.since
      show ((a.made ++ (events.zipIdx a.made.length).map fun e => (e.2, session)).filter _).map _ = _
      rw [List.filter_append, List.map_append]
      congr 1
      by_cases here : subscription.session = session
      · rw [if_pos here, List.filter_eq_self.mpr, List.map_map]
        · rfl
        · intro e inside
          obtain ⟨pair, zipped, rfl⟩ := List.mem_map.mp inside
          have above := (List.mem_zipIdx zipped).1
          have known := (inv.known subscription member).2
          simp only [here, true_and, decide_eq_true_eq]
          omega
      · rw [if_neg here, List.filter_eq_nil_iff.mpr]
        · rfl
        · intro e inside
          obtain ⟨pair, -, rfl⟩ := List.mem_map.mp inside
          simp [Ne.symm here]
    have sent : (a.dispatchToWatchers session runtime events).delivered subscription.watcher =
        a.delivered subscription.watcher ++
          if subscription.session = session then (events.zipIdx a.made.length).map (·.2) else [] := by
      have distinct : runtime.watchers.Nodup := by
        rw [same]
        exact watchers_nodup inv session
      unfold Adapter.delivered
      rw [idle]
      show numbers (a.channels subscription.watcher) ++ numbers
        ((((events.zipIdx a.made.length).flatMap fun e => runtime.watchers.map fun w =>
          (w, Sent.event e.2 e.1)).filter (·.1 = subscription.watcher)).map (·.2)) = _
      rw [numbers_dispatch _ distinct, same]
      simp only [mem_watchersOf inv member session]
      rw [List.filter_nil, List.map_nil]
      show _ = numbers (a.channels subscription.watcher) ++ [] ++ _
      rw [List.append_nil]
    rw [sent, since, before]
  · intro subscription member
    obtain ⟨known, start⟩ := inv.known subscription member
    refine ⟨known, start.trans ?_⟩
    show a.made.length ≤ (a.made ++ _).length
    rw [List.length_append]
    omega
  · intro e member
    obtain ⟨pair, -, inside⟩ := List.mem_flatMap.mp member
    obtain ⟨watcher, listed, rfl⟩ := List.mem_map.mp inside
    rw [same, inv.watchers] at listed
    obtain ⟨subscription, found, rfl⟩ := List.mem_map.mp listed
    exact (inv.known subscription (List.mem_of_mem_filter found)).1
  · show (a.made ++ (events.zipIdx a.made.length).map fun e => (e.2, session)).map (·.1) =
      List.range (a.made ++ (events.zipIdx a.made.length).map fun e => (e.2, session)).length
    have zipped : (events.zipIdx a.made.length).map (·.2) = List.range' a.made.length events.length :=
      List.zipIdx_map_snd _ _
    rw [List.map_append, List.map_map, inv.numbered, List.length_append, List.length_map,
      List.length_zipIdx]
    show _ ++ (events.zipIdx a.made.length).map (·.2) = _
    have joined := List.range'_append_1 (s := 0) (m := a.made.length) (n := events.length)
    rw [Nat.zero_add] at joined
    rw [zipped, List.range_eq_range', List.range_eq_range', joined]

theorem Inv.produce (inv : a.Inv) (session : SessionId) (apply : M → M × List Event) :
    (a.produce session apply).Inv := by
  unfold Adapter.produce
  cases idle : a.sending with
  | cons next rest => exact inv
  | nil =>
    cases here : a.sessions.get? session with
    | none => exact inv
    | some runtime =>
      refine inv.dispatchToWatchers idle ?_ _
      show runtime.watchers = a.watchersOf session
      unfold watchersOf
      rw [here]
      rfl

theorem Inv.connect (inv : a.Inv) (idle : a.sending = []) : a.connect.Inv := by
  have same : a.connect = { a with ipc := true } := by
    unfold Adapter.connect
    rw [← idle]
  rw [same]
  exact ⟨inv.watchers, inv.delivered, inv.known, inv.distinct, inv.unused, inv.sending,
    inv.introductions, inv.numbered⟩

/-! ### What only grows -/

/-- Channels and the list of subscriptions only grow. -/
structure Grows (a b : Adapter M Event) : Prop where
  channels : ∀ watcher, a.channels watcher <+: b.channels watcher
  subscribed : a.subscribed ⊆ b.subscribed

theorem Grows.refl (a : Adapter M Event) : Grows a a :=
  ⟨fun _ => List.prefix_rfl, List.Subset.refl _⟩

theorem grows_send {b : Adapter M Event} (channels : b.channels = a.channels)
    (subscribed : b.subscribed = a.subscribed) (watcher : Nat) (sent : Sent Event) :
    Grows a (b.send watcher sent) where
  channels other := by
    show _ <+: if other = watcher then b.channels other ++ [sent] else b.channels other
    rw [channels]
    split
    · exact List.prefix_append _ _
    · exact List.prefix_rfl
  subscribed := by
    show a.subscribed ⊆ b.subscribed
    rw [subscribed]
    exact List.Subset.refl _

theorem grows_introduce (position : Nat) : Grows a (a.introduce position) := by
  unfold Adapter.introduce
  cases a.introductions[position]? with
  | none => exact Grows.refl a
  | some introduction =>
    obtain ⟨watcher, event⟩ := introduction
    refine grows_send ?_ ?_ watcher (.summary event)
    · rfl
    · rfl

theorem grows_pumpSend : Grows a a.pumpSend := by
  unfold Adapter.pumpSend
  cases a.sending with
  | nil => exact Grows.refl a
  | cons next rest =>
    obtain ⟨watcher, sent⟩ := next
    refine grows_send ?_ ?_ watcher sent
    · rfl
    · rfl

theorem grows_produce (session : SessionId) (apply : M → M × List Event) :
    Grows a (a.produce session apply) := by
  unfold Adapter.produce
  cases a.sending with
  | cons next rest => exact Grows.refl a
  | nil =>
    cases a.sessions.get? session with
    | none => exact Grows.refl a
    | some runtime => exact ⟨fun _ => List.prefix_rfl, List.Subset.refl _⟩

theorem Subscribes.grows {b : Adapter M Event} {session : SessionId}
    (adds : Subscribes a b session) : Grows a b where
  channels _ := by rw [adds.channels]
  subscribed := by
    rw [adds.subscribed]
    exact List.subset_append_left _ _

end Adapter

/-! ## The runtime -/

/-- The channel an attachment has subscribed. -/
def Attach.watcher (attach : Attach) : Option Nat :=
  match attach.phase with
  | .checked => none
  | .subscribed watcher | .pumping watcher _ => some watcher

/-- No two attachments stand for one session. -/
def Alone (attaches : FiniteMap Nat Attach) : Prop :=
  ∀ i j attach other, attaches.get? i = some attach → attaches.get? j = some other →
    attach.session = other.session → i = j

/-- An attachment that goes on stands for the session it stood for. -/
theorem Alone.insert {attaches : FiniteMap Nat Attach} (alone : Alone attaches) {i : Nat}
    {session : SessionId} {phase : AttachPhase} (standing : attaches.get? i = some ⟨session, phase⟩)
    (next : AttachPhase) : Alone (attaches.insert i ⟨session, next⟩) := by
  intro j k attach other here there same
  rw [FiniteMap.get?_insert] at here there
  split at here
  · rename_i first
    cases here
    split at there
    · rename_i second
      rw [first, second]
    · rw [first]
      exact alone _ _ _ _ standing there same
  · split at there
    · rename_i second
      cases there
      rw [second]
      exact alone _ _ _ _ here standing same
    · exact alone _ _ _ _ here there same

theorem fresh_insert {attaches : FiniteMap Nat Attach} {bound i : Nat} {old : Attach}
    (fresh : ∀ j, bound ≤ j → attaches.get? j = none) (standing : attaches.get? i = some old)
    (new : Attach) (j : Nat) (above : bound ≤ j) : (attaches.insert i new).get? j = none := by
  rw [FiniteMap.get?_insert, if_neg]
  · exact fresh j above
  · intro same
    rw [← same, fresh j above] at standing
    cases standing

namespace Runtime

variable {s : Runtime M Event}

/-- What was dispatched of a session. -/
def dispatchedOf (s : Runtime M Event) (session : SessionId) : List (Sent Event) :=
  (s.dispatched.filter (·.1 = session)).map (·.2)

/-- One attachment at most stands for a session; its channel is subscribed to the session, and
what was dispatched of the session is what it has taken from there. -/
structure Inv (s : Runtime M Event) : Prop where
  adapter : s.adapter.Inv
  fresh : ∀ i, s.nextAttach ≤ i → s.attaches.get? i = none
  alone : Alone s.attaches
  recorded : ∀ {i attach}, s.attaches.get? i = some attach → attach.underway = false →
    attach.session ∈ s.watchers
  subscribed : ∀ {i attach watcher}, s.attaches.get? i = some attach →
    attach.watcher = some watcher → ∃ subscription ∈ s.adapter.subscribed,
      subscription.watcher = watcher ∧ subscription.session = attach.session
  taken : ∀ {i session watcher taken},
    s.attaches.get? i = some ⟨session, .pumping watcher taken⟩ →
      taken ≤ (s.adapter.channels watcher).length ∧
        s.dispatchedOf session = (s.adapter.channels watcher).take taken
  silent : ∀ session, (∀ i watcher taken,
    s.attaches.get? i ≠ some ⟨session, .pumping watcher taken⟩) → s.dispatchedOf session = []

theorem inv_start : Inv ({} : Runtime M Event) where
  adapter := Adapter.inv_start
  fresh _ _ := rfl
  alone _ _ _ _ here := by cases here
  recorded here := by cases here
  subscribed here := by cases here
  taken here := by cases here
  silent _ _ := rfl

/-- **What is promised** follows. -/
theorem Inv.sound (inv : s.Inv) : Sound s where
  watchers := inv.adapter.watchers
  delivered := inv.adapter.delivered
  dispatched session := by
    show (numbers (s.dispatchedOf session)).Nodup
    by_cases quiet : ∀ i watcher taken,
        s.attaches.get? i ≠ some ⟨session, .pumping watcher taken⟩
    · rw [inv.silent session quiet]
      exact List.nodup_nil
    · push Not at quiet
      obtain ⟨i, watcher, taken, here⟩ := quiet
      obtain ⟨subscription, member, rfl, -⟩ := inv.subscribed here rfl
      have whole : (s.adapter.delivered subscription.watcher).Nodup := by
        rw [inv.adapter.delivered subscription member]
        exact Adapter.since_nodup inv.adapter subscription
      rw [(inv.taken here).2]
      have front := ((List.take_sublist taken (s.adapter.channels subscription.watcher)).filterMap
        Sent.number)
      exact (front.trans (List.sublist_append_left _ _)).nodup whole

/-- Steps of the adapter alone. -/
theorem Inv.of_adapter (inv : s.Inv) {b : Adapter M Event} (adapter : b.Inv)
    (grows : Adapter.Grows s.adapter b) : Inv { s with adapter := b } where
  adapter := adapter
  fresh := inv.fresh
  alone := inv.alone
  recorded := inv.recorded
  subscribed here is := by
    obtain ⟨subscription, member, same⟩ := inv.subscribed here is
    exact ⟨subscription, grows.subscribed member, same⟩
  taken := by
    intro i session watcher taken here
    obtain ⟨enough, same⟩ := inv.taken here
    obtain ⟨more, longer⟩ := grows.channels watcher
    refine ⟨?_, ?_⟩
    · show taken ≤ (b.channels watcher).length
      rw [← longer, List.length_append]
      omega
    · show s.dispatchedOf session = (b.channels watcher).take taken
      rw [same, ← longer, List.take_append_of_le_length enough]
  silent := inv.silent

theorem Inv.attachSession (inv : s.Inv) {session : SessionId}
    (idle : ∀ attach ∈ s.attaches.values, attach.session = session → attach.underway = false) :
    (s.attachSession session).Inv := by
  unfold Runtime.attachSession
  split
  · exact inv
  · rename_i unrecorded
    have absent : ∀ {i attach}, s.attaches.get? i = some attach → attach.session ≠ session := by
      intro i attach here same
      have recorded := inv.recorded here (idle attach (FiniteMap.mem_values.mpr ⟨i, here⟩) same)
      exact unrecorded (same ▸ recorded)
    refine ⟨inv.adapter, ?_, ?_, ?_, ?_, ?_, ?_⟩
    · intro i above
      have above : s.nextAttach + 1 ≤ i := above
      show (s.attaches.insert _ _).get? i = none
      rw [FiniteMap.get?_insert, if_neg (by omega)]
      exact inv.fresh i (by omega)
    · intro i j attach other here there same
      simp only [FiniteMap.get?_insert] at here there
      split at here <;> split at there
      · omega
      · cases here
        exact absurd same.symm (absent there)
      · cases there
        exact absurd same (absent here)
      · exact inv.alone _ _ _ _ here there same
    · intro i attach here
      simp only [FiniteMap.get?_insert] at here
      split at here
      · cases here
        intro ended
        cases ended
      · exact inv.recorded here
    · intro i attach watcher here is
      simp only [FiniteMap.get?_insert] at here
      split at here
      · cases here
        cases is
      · exact inv.subscribed here is
    · intro i other watcher taken here
      simp only [FiniteMap.get?_insert] at here
      split at here
      · cases here
      · exact inv.taken here
    · intro other quiet
      refine inv.silent other fun i watcher taken here => ?_
      have kept : i ≠ s.nextAttach := by
        intro same
        rw [inv.fresh i (by omega)] at here
        cases here
      refine quiet i watcher taken ?_
      show (s.attaches.insert _ _).get? i = _
      rw [FiniteMap.get?_insert, if_neg kept]
      exact here

theorem Inv.attachSubscribe (inv : s.Inv) {i : Nat} {session : SessionId}
    (checked : s.attaches.get? i = some ⟨session, .checked⟩) (online : s.adapter.ipc = true) :
    (s.attachSubscribe mapper i).Inv := by
  obtain ⟨ok, adds⟩ := Adapter.subscribe_online mapper online session
  have moved : s.attachSubscribe mapper i = { s with
      adapter := (s.adapter.subscribe mapper session).1
      attaches := s.attaches.insert i ⟨session, .subscribed s.adapter.nextWatcher⟩ } := by
    unfold Runtime.attachSubscribe
    rw [checked]
    dsimp only
    rw [ok, if_pos rfl]
  rw [moved]
  have next := inv.of_adapter (inv.adapter.subscribe adds) adds.grows
  refine ⟨next.adapter, fresh_insert inv.fresh checked _, inv.alone.insert checked _, ?_, ?_, ?_, ?_⟩
  · intro j attach here ended
    simp only [FiniteMap.get?_insert] at here
    split at here
    · cases here
      cases ended
    · exact inv.recorded here ended
  · intro j attach watcher here is
    simp only [FiniteMap.get?_insert] at here
    split at here
    · cases here
      cases is
      refine ⟨⟨session, s.adapter.nextWatcher, s.adapter.made.length⟩, ?_, rfl, rfl⟩
      rw [adds.subscribed]
      exact List.mem_append_right _ List.mem_cons_self
    · exact next.subscribed here is
  · intro j other watcher taken here
    simp only [FiniteMap.get?_insert] at here
    split at here
    · cases here
    · exact next.taken here
  · intro other quiet
    refine inv.silent other fun j watcher taken here => ?_
    refine quiet j watcher taken ?_
    show (s.attaches.insert _ _).get? j = _
    rw [FiniteMap.get?_insert, if_neg]
    · exact here
    · intro same
      rw [same, checked] at here
      cases here

theorem Inv.attachRecord (inv : s.Inv) {i : Nat} {session : SessionId} {watcher : Nat}
    (subscribed : s.attaches.get? i = some ⟨session, .subscribed watcher⟩) :
    Inv { s with
      watchers := insert session s.watchers
      attaches := s.attaches.insert i ⟨session, .pumping watcher 0⟩ } := by
  -- no other attachment of the session has dispatched anything
  have nothing : s.dispatchedOf session = [] := by
    refine inv.silent session fun j other taken here => ?_
    have same := inv.alone _ _ _ _ subscribed here rfl
    rw [← same, subscribed] at here
    cases here
  refine ⟨inv.adapter, fresh_insert inv.fresh subscribed _, inv.alone.insert subscribed _,
    ?_, ?_, ?_, ?_⟩
  · intro j attach here ended
    simp only [FiniteMap.get?_insert] at here
    split at here
    · cases here
      exact Finset.mem_insert_self _ _
    · exact Finset.mem_insert_of_mem (inv.recorded here ended)
  · intro j attach other here is
    simp only [FiniteMap.get?_insert] at here
    split at here
    · cases here
      cases is
      have found := inv.subscribed subscribed rfl
      exact found
    · exact inv.subscribed here is
  · intro j other channel taken here
    simp only [FiniteMap.get?_insert] at here
    split at here
    · cases here
      exact ⟨Nat.zero_le _, nothing⟩
    · exact inv.taken here
  · intro other quiet
    by_cases here : other = session
    · rw [here]
      exact nothing
    · refine inv.silent other fun j channel taken there => ?_
      refine quiet j channel taken ?_
      show (s.attaches.insert _ _).get? j = _
      rw [FiniteMap.get?_insert, if_neg]
      · exact there
      · intro same
        rw [same, subscribed] at there
        cases there

theorem Inv.pump (inv : s.Inv) {i : Nat} {session : SessionId} {watcher taken : Nat}
    (pumping : s.attaches.get? i = some ⟨session, .pumping watcher taken⟩) {sent : Sent Event}
    (next : (s.adapter.channels watcher)[taken]? = some sent) :
    Inv { s with
      dispatched := s.dispatched ++ [(session, sent)]
      attaches := s.attaches.insert i ⟨session, .pumping watcher (taken + 1)⟩ } := by
  have other_same : ∀ other, other ≠ session →
      (((s.dispatched ++ [(session, sent)]).filter (·.1 = other)).map (·.2)) =
        s.dispatchedOf other := by
    intro other different
    rw [List.filter_append, List.filter_cons_of_neg (by simpa using Ne.symm different)]
    simp [dispatchedOf]
  refine ⟨inv.adapter, fresh_insert inv.fresh pumping _, inv.alone.insert pumping _, ?_, ?_, ?_, ?_⟩
  · intro j attach here ended
    simp only [FiniteMap.get?_insert] at here
    split at here
    · cases here
      have kept := inv.recorded pumping rfl
      exact kept
    · exact inv.recorded here ended
  · intro j attach other here is
    simp only [FiniteMap.get?_insert] at here
    split at here
    · cases here
      cases is
      have found := inv.subscribed pumping rfl
      exact found
    · exact inv.subscribed here is
  · intro j other channel count here
    simp only [FiniteMap.get?_insert] at here
    split at here
    · cases here
      obtain ⟨inside, at_place⟩ := List.getElem?_eq_some_iff.mp next
      refine ⟨inside, ?_⟩
      show ((s.dispatched ++ [(session, sent)]).filter (·.1 = session)).map (·.2) = _
      rw [List.filter_append, List.map_append, List.filter_cons_of_pos (by simp)]
      show s.dispatchedOf session ++ [sent] = _
      rw [(inv.taken pumping).2, List.take_add_one, next]
      rfl
    · rename_i different
      have apart : other ≠ session := by
        intro same
        exact different (inv.alone _ _ _ _ here pumping same)
      obtain ⟨enough, same⟩ := inv.taken here
      exact ⟨enough, (other_same other apart).trans same⟩
  · intro other quiet
    have apart : other ≠ session := by
      intro same
      refine quiet i watcher (taken + 1) ?_
      show (s.attaches.insert _ _).get? i = _
      rw [FiniteMap.get?_insert, if_pos rfl, same]
    refine (other_same other apart).trans (inv.silent other fun j channel count here => ?_)
    refine quiet j channel count ?_
    show (s.attaches.insert _ _).get? j = _
    rw [FiniteMap.get?_insert, if_neg]
    · exact here
    · intro same
      rw [same, pumping] at here
      cases here
      exact apart rfl

/-! ### Steps -/

theorem inv_step (s : Runtime M Event) (input : Input Change) (inv : s.Inv)
    (meets : s.Meets input) : (s.step mapper input).Inv := by
  cases input with
  | connect =>
    have idle : s.adapter.sending = [] := List.isEmpty_iff.mp meets
    exact inv.of_adapter (inv.adapter.connect idle) ⟨fun _ => List.prefix_rfl, List.Subset.refl _⟩
  | streamChanged session change =>
    exact inv.of_adapter (inv.adapter.produce session _) (Adapter.grows_produce session _)
  | flush session =>
    exact inv.of_adapter (inv.adapter.produce session _) (Adapter.grows_produce session _)
  | pumpSend => exact inv.of_adapter inv.adapter.pumpSend Adapter.grows_pumpSend
  | subscribe session =>
    obtain ⟨-, adds⟩ := Adapter.subscribe_online mapper meets session
    exact inv.of_adapter (inv.adapter.subscribe adds) adds.grows
  | introduce position =>
    exact inv.of_adapter (inv.adapter.introduce position) (Adapter.grows_introduce position)
  | attachSession session => exact inv.attachSession meets
  | attachSubscribe i =>
    show (s.attachSubscribe mapper i).Inv
    cases here : s.attaches.get? i with
    | none =>
      unfold Runtime.attachSubscribe
      rw [here]
      exact inv
    | some attach =>
      obtain ⟨session, phase⟩ := attach
      cases phase with
      | checked =>
        refine inv.attachSubscribe here (meets ?_)
        rw [here]
        rfl
      | subscribed watcher =>
        unfold Runtime.attachSubscribe
        rw [here]
        exact inv
      | pumping watcher taken =>
        unfold Runtime.attachSubscribe
        rw [here]
        exact inv
  | attachRecord i =>
    show (s.attachRecord i).Inv
    unfold Runtime.attachRecord
    split
    · rename_i session watcher here
      split
      · exact inv
      · exact inv.attachRecord here
    · exact inv
  | pump i =>
    show (s.pump i).Inv
    unfold Runtime.pump
    split
    · rename_i session watcher taken here
      split
      · exact inv
      · rename_i sent next
        exact inv.pump here next
    · exact inv

end Runtime

/-- **Watchers**: along every run whose steps meet the condition, a failing subscribe leaves no
watcher behind, every watcher receives what its session produced since it subscribed, in order
and each event once, and the runtime dispatches no event of a session twice. -/
theorem watchers_sound (mapper : MapperOps M Change Event) (inputs : List (Input Change))
    (meets : Along (Runtime.step mapper) Runtime.Meets ({} : Runtime M Event) inputs) :
    Sound (inputs.foldl (Runtime.step mapper) {}) :=
  (Along.reached Runtime.inv_step Runtime.inv_start meets).sound

/-! ## One session -/

namespace Demo

/-- A mapper whose state is the last change, which is also the event it produces. -/
def latest : MapperOps Nat Nat Nat where
  new _ := 0
  applyChange _ change := (change, [change])
  flushDueOutputs state := (state, [])
  hasSnapshot state := state != 0
  sessionSummary state := state

def run (inputs : List (Input Nat)) : Runtime Nat Nat := inputs.foldl (Runtime.step latest) {}

def attached : List (Input Nat) :=
  [.connect, .attachSession "s", .attachSubscribe 0, .attachRecord 0, .attachSession "s",
    .streamChanged "s" 7, .pumpSend, .pump 0]

/-- There is no IPC client yet. -/
def early : List (Input Nat) := [.subscribe "s"]

/-- The stream is established twice before the first attachment is recorded. -/
def twice : List (Input Nat) :=
  [.connect, .attachSession "s", .attachSession "s", .attachSubscribe 0, .attachSubscribe 1,
    .attachRecord 0, .attachRecord 1, .streamChanged "s" 7, .pumpSend, .pumpSend, .pump 0, .pump 1]

end Demo

theorem watchers_sound_attached :
    (Demo.run Demo.attached).dispatched.map (·.1) = ["s"] ∧ Sound (Demo.run Demo.attached) := by
  refine ⟨by decide, watchers_sound Demo.latest Demo.attached ?_⟩
  exact ⟨by decide, by decide, by decide, trivial, by decide, trivial, trivial, trivial, trivial⟩

/-- The failed call has left its watcher; the two attachments dispatch the event twice. -/
theorem watchers_unsound : ¬ Sound (Demo.run Demo.early) ∧ ¬ Sound (Demo.run Demo.twice) := by
  refine ⟨fun sound => ?_, fun sound => ?_⟩
  · exact absurd (sound.watchers "s") (by decide)
  · exact absurd (sound.dispatched "s") (by decide)

end AgentConsole.Bridge.Watching
