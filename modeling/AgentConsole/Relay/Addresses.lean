import AgentConsole.Relay.Moves

/-! # Addresses of upstream streams

Routing looks an upstream stream up by a text id.  The ids are injective, so
each id belongs to one downstream stream, provided the callers of the hub ask
for the streams they are entitled to: a device has one owner (`devices.owner_id`
is never updated), `on_browser_subscribe` checks it against the connection's
owner, and a Bridge registers under it.  `HubStep.WellAddressed` states that
promise; under it the index, the bindings and the stash of every stream only
hold ids of that stream. -/

namespace AgentConsole.Relay

open AgentConsole.Lib

/-! ## The ids are injective -/

theorem append_separator_inj {α : Type} {sep : α} {as bs xs ys : List α} (left : sep ∉ as)
    (right : sep ∉ bs) (same : as ++ sep :: xs = bs ++ sep :: ys) : as = bs ∧ xs = ys := by
  induction as generalizing bs with
  | nil =>
    cases bs with
    | nil => exact ⟨rfl, (List.cons.inj same).2⟩
    | cons b bs =>
      have head : sep = b := (List.cons.inj same).1
      exact absurd (head ▸ List.mem_cons_self) right
  | cons a as inductionHypothesis =>
    cases bs with
    | nil =>
      have head : a = sep := (List.cons.inj same).1
      exact absurd (head ▸ List.mem_cons_self) left
    | cons b bs =>
      obtain ⟨rfl, tail⟩ := List.cons.inj same
      obtain ⟨rfl, rest⟩ := inductionHypothesis (fun member => left (List.mem_cons_of_mem _ member))
        (fun member => right (List.mem_cons_of_mem _ member)) tail
      exact ⟨rfl, rest⟩

theorem dash_notMem_toDigits (n : Nat) : '-' ∉ Nat.toDigits 10 n := by
  intro member
  have digit := Nat.isDigit_of_mem_toDigits (by omega) (by omega) member
  exact absurd digit (by decide)

theorem toDigits_inj {m n : Nat} (same : Nat.toDigits 10 m = Nat.toDigits 10 n) : m = n := by
  rw [← Nat.ofDigitChars_ten_toDigits (n := m), same, Nat.ofDigitChars_ten_toDigits]

/-- A nonnegative number does not start with a dash. -/
theorem toDigits_append_ne_dash (n : Nat) (xs ys : List Char) :
    Nat.toDigits 10 n ++ xs ≠ '-' :: ys := by
  cases digits : Nat.toDigits 10 n with
  | nil => exact absurd digits Nat.toDigits_ne_nil
  | cons d ds =>
    intro same
    have head : d = '-' := (List.cons.inj same).1
    exact dash_notMem_toDigits n (digits ▸ head ▸ List.mem_cons_self)

theorem int_toList (k : Int) :
    (toString k).toList =
      match k with
      | .ofNat m => Nat.toDigits 10 m
      | .negSucc m => '-' :: Nat.toDigits 10 (m + 1) := by
  cases k with
  | ofNat m => exact Nat.toList_repr
  | negSucc m =>
    change ("-" ++ (m + 1).repr).toList = _
    rw [String.toList_append, Nat.toList_repr]
    rfl

theorem int_dash_inj {k k' : Int} {xs ys : List Char}
    (same : (toString k).toList ++ '-' :: xs = (toString k').toList ++ '-' :: ys) :
    k = k' ∧ xs = ys := by
  rw [int_toList, int_toList] at same
  cases k with
  | ofNat m =>
    cases k' with
    | ofNat m' =>
      obtain ⟨digits, rest⟩ :=
        append_separator_inj (dash_notMem_toDigits m) (dash_notMem_toDigits m') same
      exact ⟨by rw [toDigits_inj digits], rest⟩
    | negSucc m' => exact absurd same (toDigits_append_ne_dash m _ _)
  | negSucc m =>
    cases k' with
    | ofNat m' => exact absurd same.symm (toDigits_append_ne_dash m' _ _)
    | negSucc m' =>
      obtain ⟨digits, rest⟩ := append_separator_inj (dash_notMem_toDigits (m + 1))
        (dash_notMem_toDigits (m' + 1)) (List.cons.inj same).2
      have number : m = m' := by have := toDigits_inj digits; omega
      exact ⟨by rw [number], rest⟩

/-- The part of an upstream id after the device. -/
def idSuffix : TargetTag → List Char
  | .list => ['-', 'l', 'i', 's', 't']
  | .session _ agentKind nativeSessionId =>
    ['-', 's', 'e', 's', 's', '-'] ++
      ((toString agentKind).toList ++ '-' :: nativeSessionId.toList)

/-- The device an upstream id names: for a session the one in the tag. -/
def idDevice (device : Uuid) : TargetTag → Uuid
  | .list => device
  | .session d _ _ => d

theorem upstreamStreamId_toList (device : Uuid) (tag : TargetTag) :
    (upstreamStreamId device tag).toList =
      "u-".toList ++ ((idDevice device tag).text.toList ++ idSuffix tag) := by
  cases tag with
  | list =>
    simp only [upstreamStreamId, String.toList_append, List.append_assoc]
    rfl
  | session d agentKind nativeSessionId =>
    simp only [upstreamStreamId, String.toList_append, List.append_assoc]
    rfl

theorem Uuid.length_toList (u : Uuid) : u.text.toList.length = 36 := by
  rw [String.length_toList]
  exact u.length_text

theorem Uuid.toList_inj {u v : Uuid} (same : u.text.toList = v.text.toList) : u = v := by
  cases u; cases v
  simpa using String.toList_inj.mp same

/-- Equal ids name the same device, and both a list or both the same session. -/
theorem upstreamStreamId_inj {device device' : Uuid} {tag tag' : TargetTag}
    (same : upstreamStreamId device tag = upstreamStreamId device' tag') :
    idDevice device tag = idDevice device' tag' ∧ tag = tag' := by
  have lists := congrArg String.toList same
  rw [upstreamStreamId_toList, upstreamStreamId_toList, List.append_cancel_left_eq] at lists
  obtain ⟨text, suffix⟩ := List.append_inj lists (by rw [Uuid.length_toList, Uuid.length_toList])
  have devices := Uuid.toList_inj text
  refine ⟨devices, ?_⟩
  cases tag with
  | list =>
    cases tag' with
    | list => rfl
    | session d k n =>
      have second : 'l' = 's' := (List.cons.inj (List.cons.inj suffix).2).1
      exact absurd second (by decide)
  | session d k n =>
    cases tag' with
    | list =>
      have second : 's' = 'l' := (List.cons.inj (List.cons.inj suffix).2).1
      exact absurd second (by decide)
    | session d' k' n' =>
      have same := List.append_cancel_left suffix
      obtain ⟨rfl, natives⟩ := int_dash_inj same
      have device : d = d' := devices
      rw [device, String.toList_inj.mp natives]

/-! ## The stash keeps the numbers of its batches -/

namespace DStream

theorem evictPending_mem {batches rest : List PendingUpstreamBatch} {event : Event}
    (evicted : evictPending batches = some (event, rest)) :
    ∀ batch ∈ rest, ∃ original ∈ batches,
      batch.upstreamId = original.upstreamId ∧ batch.upstreamSeq = original.upstreamSeq := by
  induction batches generalizing rest with
  | nil => cases evicted
  | cons first others inductionHypothesis =>
    have keep : ∀ batch ∈ others, ∃ original ∈ first :: others,
        batch.upstreamId = original.upstreamId ∧ batch.upstreamSeq = original.upstreamSeq :=
      fun batch member => ⟨batch, List.mem_cons_of_mem _ member, rfl, rfl⟩
    unfold evictPending at evicted
    split at evicted
    · dsimp only at evicted
      split at evicted
      · cases evicted
        exact keep
      · cases evicted
        intro batch member
        rcases List.mem_cons.mp member with rfl | later
        · exact ⟨first, List.mem_cons_self, rfl, rfl⟩
        · exact keep batch later
    · obtain ⟨⟨found, shorter⟩, inner, same⟩ := Option.map_eq_some_iff.mp evicted
      cases same
      intro batch member
      rcases List.mem_cons.mp member with rfl | later
      · exact ⟨batch, List.mem_cons_self, rfl, rfl⟩
      · obtain ⟨original, present, ids⟩ := inductionHypothesis inner batch later
        exact ⟨original, List.mem_cons_of_mem _ present, ids⟩

theorem evictPendingLoop_mem (codec : Codec) (rounds : Nat) (ds : DStream) :
    ∀ batch ∈ (evictPendingLoop codec rounds ds).1.pendingBatches,
      ∃ original ∈ ds.pendingBatches,
        batch.upstreamId = original.upstreamId ∧ batch.upstreamSeq = original.upstreamSeq := by
  induction rounds generalizing ds with
  | zero => exact fun batch member => ⟨batch, member, rfl, rfl⟩
  | succ rounds inductionHypothesis =>
    unfold evictPendingLoop
    split
    · exact fun batch member => ⟨batch, member, rfl, rfl⟩
    · split
      · exact fun batch member => ⟨batch, member, rfl, rfl⟩
      · next event batches evicted =>
        intro batch member
        obtain ⟨between, present, sameId, sameSeq⟩ := inductionHypothesis _ batch member
        obtain ⟨original, first, ids⟩ := evictPending_mem evicted between present
        exact ⟨original, first, sameId.trans ids.1, sameSeq.trans ids.2⟩

/-- Eviction only shortens batches: whatever is stashed afterwards has the id
and number of a batch that was there, or of the new one. -/
theorem pushPending_mem (codec : Codec) (ds : DStream) (batch : PendingUpstreamBatch) :
    ∀ stashed ∈ (ds.pushPending codec batch).1.pendingBatches,
      ∃ original, (original ∈ ds.pendingBatches ∨ original = batch) ∧
        stashed.upstreamId = original.upstreamId ∧
        stashed.upstreamSeq = original.upstreamSeq := by
  intro stashed member
  obtain ⟨original, present, ids⟩ := evictPendingLoop_mem codec _ _ stashed member
  rcases List.mem_append.mp present with old | new
  · exact ⟨original, .inl old, ids⟩
  · exact ⟨original, .inr (List.mem_singleton.mp new), ids⟩

end DStream

/-! ## Every id belongs to one stream -/

/-- The upstream id `uid` belongs to the stream at `key`. -/
def Addressed (ownerOf : Uuid → Uuid) (uid : String) (key : DKey) : Prop :=
  ∃ device, HubInner.shows device (ownerOf device) key = true ∧
    uid = upstreamStreamId device key.2

theorem Addressed.unique {ownerOf : Uuid → Uuid} {uid : String} {key key' : DKey}
    (left : Addressed ownerOf uid key) (right : Addressed ownerOf uid key') : key = key' := by
  obtain ⟨device, shown, rfl⟩ := left
  obtain ⟨device', shown', same⟩ := right
  obtain ⟨devices, tags⟩ := upstreamStreamId_inj same
  obtain ⟨owner, tag⟩ := key
  obtain ⟨owner', tag'⟩ := key'
  dsimp only at devices tags
  subst tags
  cases tag with
  | list =>
    simp only [HubInner.shows, beq_iff_eq] at shown shown'
    have devices : device = device' := devices
    rw [shown, shown', devices]
  | session d k n =>
    simp only [HubInner.shows, Bool.and_eq_true, beq_iff_eq] at shown shown'
    rw [shown.1, shown'.1, ← shown.2, ← shown'.2]

/-- What the callers of the hub promise: the streams they bind show the devices
they name, to the owners of these devices. -/
def HubStep.WellAddressed (ownerOf : Uuid → Uuid) (s : HubStep) : Prop :=
  match s.op with
  | .subscribeBind _ key needs _ =>
    ∀ need ∈ needs, need.2 = key.2 ∧ HubInner.shows need.1 (ownerOf need.1) key = true
  | .ensureBindings device owner => owner = ownerOf device
  | _ => True

theorem HubStep.Binds.addressed {ownerOf : Uuid → Uuid} {s : HubStep} {key : DKey} {uid : String}
    (promise : s.WellAddressed ownerOf) (binds : s.Binds key uid) : Addressed ownerOf uid key := by
  unfold WellAddressed at promise
  rcases binds with ⟨conn, needs, fresh, device, tag, op, member, rfl⟩ |
    ⟨device, owner, op, shown, rfl⟩
  · rw [op] at promise
    obtain ⟨rfl, shown⟩ := promise (device, tag) member
    exact ⟨device, shown, rfl⟩
  · rw [op] at promise
    subst promise
    exact ⟨device, shown, rfl⟩

/-- The bindings and the stash of the stream at `key` only hold its own ids. -/
structure DStream.OwnIds (ownerOf : Uuid → Uuid) (key : DKey) (ds : DStream) : Prop where
  bindings : ∀ uid b, ds.upstreams.get? uid = some b → Addressed ownerOf uid key
  stash : ∀ batch ∈ ds.pendingBatches, Addressed ownerOf batch.upstreamId key

/-- Routing and all streams only hold ids where they belong. -/
structure HubInner.OwnIds (ownerOf : Uuid → Uuid) (h : HubInner) : Prop where
  index : ∀ uid key, h.upstreamIndex.get? uid = some key → Addressed ownerOf uid key
  streams : ∀ key ds, h.streams.get? key = some ds → ds.OwnIds ownerOf key

namespace DStream

variable {ownerOf : Uuid → Uuid} {key : DKey} {ds : DStream}

/-- Rewriting the binding of an id that is bound keeps the ids. -/
theorem OwnIds.insert (own : ds.OwnIds ownerOf key) {uid : String} {b b' : UpstreamBinding}
    (bound : ds.upstreams.get? uid = some b) :
    ∀ uid' binding, (ds.upstreams.insert uid b').get? uid' = some binding →
      Addressed ownerOf uid' key := by
  intro uid' binding found
  rw [FiniteMap.get?_insert] at found
  split at found
  · next same => exact same ▸ own.bindings uid b bound
  · exact own.bindings uid' binding found

theorem OwnIds.move {h : HubInner} {s : HubStep} {m : Move} {ds' : DStream}
    (promise : s.WellAddressed ownerOf) (allows : s.Allows h key m) (does : m.Does s.ctx ds ds')
    (own : ds.OwnIds ownerOf key) : ds'.OwnIds ownerOf key := by
  cases m with
  | resubscribe => obtain ⟨subs, rfl⟩ := does; exact ⟨own.bindings, own.stash⟩
  | clear => cases does; exact ⟨own.bindings, by simp [clearCache, clearPending]⟩
  | advance => obtain ⟨-, -, rfl⟩ := does; exact ⟨own.bindings, own.stash⟩
  | rebind added =>
    obtain ⟨ups, rebinds, rfl⟩ := does
    refine ⟨fun uid b' found => ?_, own.stash⟩
    rcases rebinds uid b' found with ⟨-, new | ⟨b, bound⟩⟩ | ⟨b, bound, -⟩
    · cases allows with
      | rebind _ binds => exact (binds uid new).addressed promise
    · exact own.bindings uid b bound
    · exact own.bindings uid b bound
  | announce uid sub => obtain ⟨b, bound, rfl⟩ := does; exact ⟨own.insert bound, own.stash⟩
  | watermark uid sequence => obtain ⟨b, bound, rfl⟩ := does; exact ⟨own.insert bound, own.stash⟩
  | stash batch =>
    obtain ⟨⟨b, bound⟩, rfl⟩ := does
    refine ⟨by simpa using own.bindings, fun stashed member => ?_⟩
    obtain ⟨original, old | rfl, sameId, -⟩ := pushPending_mem _ _ _ stashed member
    · exact sameId ▸ own.stash original old
    · exact sameId ▸ own.bindings _ b bound
  | event env e => cases does; exact ⟨own.bindings, own.stash⟩
  | presence device online => cases does; exact ⟨own.bindings, own.stash⟩
  | snapshot uid env =>
    obtain ⟨b, bound, rfl⟩ := does
    exact ⟨own.insert bound, by simp [orderSnapshot, cacheSnapshot, clearPending]⟩

end DStream

namespace HubInner

variable {ctx : Ctx}

theorem detachSubscriber_upstreamIndex (conn : Uuid) (h : HubInner) :
    (h.detachSubscriber conn).upstreamIndex = h.upstreamIndex := by
  unfold detachSubscriber; split <;> rfl

theorem removeBrowser_upstreamIndex (conn : Uuid) (h : HubInner) :
    (h.removeBrowser conn).upstreamIndex = h.upstreamIndex :=
  detachSubscriber_upstreamIndex conn _

theorem subscribeUpstream_upstreamIndex (key : DKey) (fresh : Uuid) (h : HubInner)
    (need : Uuid × TargetTag) {uid : String} {target : DKey}
    (found : (h.subscribeUpstream ctx key fresh need).upstreamIndex.get? uid = some target) :
    h.upstreamIndex.get? uid = some target ∨
      target = key ∧ uid = upstreamStreamId need.1 need.2 := by
  unfold subscribeUpstream at found
  dsimp only at found
  split at found
  · exact .inl (by simpa using found)
  · rw [FiniteMap.get?_insert] at found
    split at found
    · next same => cases found; exact .inr ⟨rfl, same⟩
    · exact .inl (by simpa using found)

theorem ensureBinding_upstreamIndex (device : Uuid) (acc : HubInner × List (Uuid × Envelope))
    (key : DKey) {uid : String} {target : DKey}
    (found : (ensureBinding ctx device acc key).1.upstreamIndex.get? uid = some target) :
    acc.1.upstreamIndex.get? uid = some target ∨
      target = key ∧ uid = upstreamStreamId device key.2 := by
  unfold ensureBinding at found
  dsimp only at found
  split at found
  · exact .inl found
  · rw [FiniteMap.get?_insert] at found
    split at found
    · next same => cases found; exact .inr ⟨rfl, same⟩
    · exact .inl (by simpa using found)

theorem handleUpstreamSnapshot_upstreamIndex (uid : String) (env : Envelope) (h : HubInner) :
    (h.handleUpstreamSnapshot ctx uid env).upstreamIndex = h.upstreamIndex := by
  unfold handleUpstreamSnapshot
  cases h.upstreamIndex.get? uid with
  | none => rfl
  | some key =>
    dsimp only
    have flushed : ∀ (pending : List PendingUpstreamBatch) (start : HubInner),
        (pending.foldl (flushBatch ctx key) start).upstreamIndex = start.upstreamIndex := by
      intro pending
      induction pending with
      | nil => exact fun _ => rfl
      | cons batch rest inductionHypothesis => intro start; simp [inductionHypothesis]
    rw [flushed, onStream_upstreamIndex]

theorem handleBridgeEnvelope_upstreamIndex (device : Uuid) (env : Envelope) (h : HubInner) :
    (h.handleBridgeEnvelope ctx device env).upstreamIndex = h.upstreamIndex := by
  unfold handleBridgeEnvelope
  split
  · exact sendToBridge_upstreamIndex _ _ _
  · exact onUpstream_upstreamIndex _ _ _
  · exact handleUpstreamSnapshot_upstreamIndex _ _ _
  · split
    · exact handleUpstreamSnapshot_upstreamIndex _ _ _
    · exact onUpstream_upstreamIndex _ _ _
  · exact onUpstream_upstreamIndex _ _ _
  · unfold onCommandAccepted; split <;> rfl
  · unfold onCommandResult
    dsimp only
    split
    · rfl
    · split <;> rfl
  · rfl
  · exact onUpstream_upstreamIndex _ _ _
  · rfl

/-- A route is only added by a step that binds the upstream. -/
theorem step_upstreamIndex (h : HubInner) (s : HubStep) {uid : String} {key : DKey}
    (found : (h.step s).upstreamIndex.get? uid = some key) :
    h.upstreamIndex.get? uid = some key ∨ s.Binds key uid := by
  unfold step at found
  cases op : s.op with
  | subscribeBind conn target needs fresh =>
    rw [op] at found
    dsimp only [subscribeBind] at found
    split at found
    · -- the loop over the devices adds at most their own ids
      have loop : ∀ (pending : List (Uuid × TargetTag)) (start : HubInner),
          (pending.foldl (subscribeUpstream s.ctx target fresh) start).upstreamIndex.get? uid =
            some key →
          start.upstreamIndex.get? uid = some key ∨
            key = target ∧ ∃ need ∈ pending, uid = upstreamStreamId need.1 need.2 := by
        intro pending
        induction pending with
        | nil => exact fun _ found => .inl found
        | cons need rest inductionHypothesis =>
          intro start found
          rcases inductionHypothesis _ found with earlier | ⟨same, other, member, id⟩
          · rcases subscribeUpstream_upstreamIndex _ _ _ _ earlier with before | ⟨same, id⟩
            · exact .inl before
            · exact .inr ⟨same, need, List.mem_cons_self, id⟩
          · exact .inr ⟨same, other, List.mem_cons_of_mem _ member, id⟩
      rcases loop needs h found with before | ⟨rfl, need, member, id⟩
      · exact .inl before
      · exact .inr (.inl ⟨conn, needs, fresh, need.1, need.2, op, member, id⟩)
    · exact .inl found
  | ensureBindings device owner =>
    rw [op] at found
    dsimp only [ensureBindings] at found
    have loop : ∀ (keys : List DKey) (acc : HubInner × List (Uuid × Envelope)),
        (keys.foldl (ensureBinding s.ctx device) acc).1.upstreamIndex.get? uid = some key →
        acc.1.upstreamIndex.get? uid = some key ∨
          key ∈ keys ∧ uid = upstreamStreamId device key.2 := by
      intro keys
      induction keys with
      | nil => exact fun _ found => .inl found
      | cons first rest inductionHypothesis =>
        intro acc found
        rcases inductionHypothesis _ found with earlier | ⟨member, id⟩
        · rcases ensureBinding_upstreamIndex _ _ _ earlier with before | ⟨rfl, id⟩
          · exact .inl before
          · exact .inr ⟨List.mem_cons_self, id⟩
        · exact .inr ⟨List.mem_cons_of_mem _ member, id⟩
    rcases loop _ _ found with before | ⟨member, id⟩
    · exact .inl before
    · exact .inr (.inr ⟨device, owner, op, (List.mem_filter.mp member).2, id⟩)
  | closeBrowser conn =>
    rw [op] at found
    dsimp only [closeBrowser] at found
    split at found
    · exact .inl (removeBrowser_upstreamIndex conn h ▸ found)
    · exact .inl found
  | closeAllBrowsers =>
    rw [op] at found
    have loop : ∀ (conns : List Uuid) (start : HubInner),
        (conns.foldl (fun h conn => h.removeBrowser conn) start).upstreamIndex =
          start.upstreamIndex := by
      intro conns
      induction conns with
      | nil => exact fun _ => rfl
      | cons conn rest inductionHypothesis =>
        intro start
        exact (inductionHypothesis _).trans (removeBrowser_upstreamIndex conn start)
    exact .inl (loop _ h ▸ found)
  | removeBrowser conn => rw [op] at found; exact .inl (removeBrowser_upstreamIndex conn h ▸ found)
  | removeBridge device =>
    rw [op] at found
    dsimp only [removeBridge] at found
    rw [foldl_abandonCommand_upstreamIndex] at found
    exact .inl (FiniteMap.get?_of_filter found).1
  | sendToBridge device env => rw [op] at found; exact .inl (by simpa using found)
  | beginShutdown =>
    rw [op] at found
    dsimp only [beginShutdown] at found
    rw [foldl_abandonCommand_upstreamIndex] at found
    exact .inl found
  | subscribeAttach conn target correlation fresh =>
    rw [op] at found
    dsimp only [subscribeAttach] at found
    split at found
    · exact .inl (by simpa using found)
    · exact .inl found
  | browserUnsubscribe conn streamId =>
    rw [op] at found
    dsimp only [browserUnsubscribe] at found
    split at found
    · exact .inl found
    · exact .inl (by simpa using found)
  | browserResync conn streamId correlation =>
    rw [op] at found
    dsimp only [browserResync] at found
    split at found
    · exact .inl found
    · exact .inl (by simpa using found)
  | browserAck conn streamId sequence =>
    rw [op] at found
    dsimp only [browserAck] at found
    split at found
    · exact .inl found
    · exact .inl (by simpa using found)
  | bridgeEnvelope device env =>
    rw [op] at found
    exact .inl (handleBridgeEnvelope_upstreamIndex device env h ▸ found)
  | fanOutPresence device owner online =>
    rw [op] at found
    have loop : ∀ (keys : List DKey) (start : HubInner),
        (keys.foldl (fun h key => h.onStream s.ctx key (·.fanOutPresence s.ctx device online))
          start).upstreamIndex = start.upstreamIndex := by
      intro keys
      induction keys with
      | nil => exact fun _ => rfl
      | cons first rest inductionHypothesis => intro start; simp [inductionHypothesis]
    exact .inl (loop _ h ▸ found)
  | sweepGlobalMemory order =>
    rw [op] at found
    have reclaimed : h.reclaimStreams.upstreamIndex.get? uid = some key := by
      dsimp only [sweepGlobalMemory] at found
      split at found
      · split at found
        · simpa using found
        · exact found
      · exact found
    exact .inl (FiniteMap.get?_of_filter reclaimed).1
  | _ => rw [op] at found; exact .inl found

theorem OwnIds.new (ownerOf : Uuid → Uuid) : OwnIds ownerOf .new where
  index := by simp [HubInner.new]
  streams := by simp [HubInner.new]

/-- A step that keeps the callers' promise keeps every id where it belongs. -/
theorem OwnIds.step {ownerOf : Uuid → Uuid} {h : HubInner} {s : HubStep} (own : h.OwnIds ownerOf)
    (promise : s.WellAddressed ownerOf) : (h.step s).OwnIds ownerOf where
  index uid key found := by
    rcases step_upstreamIndex h s found with before | binds
    · exact own.index uid key before
    · exact binds.addressed promise
  streams := step_invariant (P := fun key ds => ds.OwnIds ownerOf key)
    (fun _ _ => ⟨by simp [DStream.new], by simp [DStream.new]⟩)
    (fun _ _ _ _ allows does holds => holds.move promise allows does) own.streams

end HubInner

end AgentConsole.Relay
