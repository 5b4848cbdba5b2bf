import AgentConsole.Lib.Run
import AgentConsole.Relay.Addresses

/-! # De-duplication of upstream batches

A Bridge numbers the messages of an upstream stream from the base of each
`Subscribed` it sends.  The Relay drops batches at or below the binding's
watermark `last_seq`.  `Numbering` follows what the Bridge has sent since the
last `Subscribed` the Relay took in; the watermark and the stash must not hold
numbers beyond it.  They do not, as long as no `Subscribed` meets a stash that
still holds higher numbers of the same upstream: the stash survives a
`Subscribed` that follows a reset, and the flush after the next snapshot then
raises the watermark above the whole new epoch. -/

namespace AgentConsole.Relay

open AgentConsole.Lib

/-! ## What the Bridge has sent -/

/-- The epoch in force: the base of its `Subscribed` and the next number. -/
structure Numbering where
  base : Nat
  next : Nat
deriving DecidableEq

/-- `n` is a number that the epoch does not use again. -/
def Numbering.Spent (t : Numbering) (n : Nat) : Prop := n ≤ t.base ∨ n < t.next

namespace HubInner

/-- The stream an upstream id is routed to, if it is bound there. -/
def bindingOf (u : String) (h : HubInner) : Option (DKey × DStream × UpstreamBinding) :=
  (h.upstreamIndex.get? u).bind fun key =>
    (h.streams.get? key).bind fun ds => (ds.upstreams.get? u).map fun b => (key, ds, b)

theorem bindingOf_eq_some {u : String} {h : HubInner} {key : DKey} {ds : DStream}
    {b : UpstreamBinding} :
    h.bindingOf u = some (key, ds, b) ↔
      h.upstreamIndex.get? u = some key ∧ h.streams.get? key = some ds ∧
        ds.upstreams.get? u = some b := by
  simp only [bindingOf, Option.bind_eq_some_iff, Option.map_eq_some_iff, Prod.mk.injEq]
  constructor
  · rintro ⟨_, routed, _, present, _, bound, rfl, rfl, rfl⟩
    exact ⟨routed, present, bound⟩
  · rintro ⟨routed, present, bound⟩
    exact ⟨key, routed, ds, present, b, bound, rfl, rfl, rfl⟩

end HubInner

namespace HubStep

/-- The `Subscribed` on `u` that this step brings. -/
def announcement (u : String) (s : HubStep) : Option Subscribed :=
  match s.op with
  | .bridgeEnvelope _ env =>
    if env.streamId = u then
      match env.payload with
      | some (.subscribed sub) => some sub
      | _ => none
    else none
  | _ => none

/-- The numbered message on `u` (a snapshot or a batch) that this step brings. -/
def numbered (u : String) (s : HubStep) : Option Envelope :=
  match s.op with
  | .bridgeEnvelope _ env =>
    if env.streamId = u ∧ (isSnapshot env || (batchEvents env).isSome) = true then some env
    else none
  | _ => none

theorem announcement_eq_some {u : String} {s : HubStep} {sub : Subscribed} :
    s.announcement u = some sub ↔
      ∃ device env, s.op = .bridgeEnvelope device env ∧ env.streamId = u ∧
        env.payload = some (.subscribed sub) := by
  constructor
  · intro announced
    unfold announcement at announced
    split at announced
    · next device env op =>
      split at announced
      · next same =>
        split at announced
        · next found payload => cases announced; exact ⟨device, env, op, same, payload⟩
        · cases announced
      · cases announced
    · cases announced
  · rintro ⟨device, env, op, same, payload⟩
    simp [announcement, op, same, payload]

theorem numbered_eq_some {u : String} {s : HubStep} {env : Envelope} :
    s.numbered u = some env ↔
      ∃ device, s.op = .bridgeEnvelope device env ∧ env.streamId = u ∧
        (isSnapshot env || (batchEvents env).isSome) = true := by
  constructor
  · intro found
    unfold numbered at found
    split at found
    · next device env' op =>
      split at found
      · next on => cases found; exact ⟨device, op, on⟩
      · cases found
    · cases found
  · rintro ⟨device, op, on⟩
    unfold numbered
    rw [op]
    exact if_pos on

end HubStep

/-- The hub together with the numbering of one upstream. -/
abbrev Observed := HubInner × Option Numbering

/-- A step of the hub, with the numbering of `u` followed along: a `Subscribed`
that reaches a binding starts an epoch, one that does not is unknown to the
Relay. -/
def observe (u : String) (st : Observed) (s : HubStep) : Observed :=
  (st.1.step s,
    match s.announcement u with
    | some sub =>
      if (st.1.bindingOf u).isSome then some ⟨sub.baseSequence, sub.baseSequence⟩ else none
    | none =>
      match s.numbered u with
      | some env => st.2.map fun t => ⟨t.base, env.sequence + 1⟩
      | none => st.2)

/-- One Bridge's messages arrive in the order it numbered them. -/
def InOrder (u : String) (st : Observed) (s : HubStep) : Prop :=
  ∀ env ∈ s.numbered u, ∀ t ∈ st.2, t.next ≤ env.sequence

/-- A `Subscribed` on `u` either clears the stash itself or finds no batch of `u`
in it that is numbered above its base. -/
def SettledStash (u : String) (st : Observed) (s : HubStep) : Prop :=
  ∀ sub ∈ s.announcement u, ∀ bound ∈ st.1.bindingOf u,
    (bound.2.2.snapshotReceived = true ∧ bound.2.2.epoch ≠ sub.streamEpoch) ∨
      ∀ batch ∈ bound.2.1.pendingBatches,
        batch.upstreamId = u → batch.upstreamSeq ≤ sub.baseSequence

/-- The event a frame carries, with the device it is attributed to. -/
def Frame.carried (f : Frame) : Option (String × Event) :=
  match f.env.payload with
  | some (.eventBatch ⟨_, [⟨_, some e⟩]⟩) => some (f.env.deviceId, e)
  | _ => none

/-- A batch of the epoch in force that arrives after the epoch's snapshot is
fanned out once: the stream numbers one frame for each of its events, in order,
nothing is stashed for later, and the same number is not accepted again. -/
def FansOutCurrent (u : String) (st : Observed) (s : HubStep) : Prop :=
  ∀ env events, s.numbered u = some env → batchEvents env = some events → events ≠ [] →
  st.2.isSome → ∀ key ds b, st.1.bindingOf u = some (key, ds, b) → b.snapshotReceived = true →
    ∃ ds' frames, (st.1.step s).streams.get? key = some ds' ∧
      ds'.log = ds.log ++ frames ∧
      frames.map Frame.carried = events.map (fun e => some (env.deviceId, e)) ∧
      ds'.pendingBatches = ds.pendingBatches ∧
      ∃ b', ds'.upstreams.get? u = some b' ∧ b'.lastSeq = env.sequence

/-! ## The invariant -/

/-- Nothing the stream remembers of `u` reaches beyond what the epoch has used. -/
structure DStream.Settled (u : String) (t : Numbering) (ds : DStream) : Prop where
  watermark : ∀ b, ds.upstreams.get? u = some b → t.Spent b.lastSeq
  received : ∀ b, ds.upstreams.get? u = some b → b.snapshotReceived = true → t.base < t.next
  stash : ∀ batch ∈ ds.pendingBatches, batch.upstreamId = u → t.Spent batch.upstreamSeq

theorem Numbering.Spent.later {t t' : Numbering} {n : Nat} (spent : t.Spent n)
    (base : t'.base = t.base) (next : t.next ≤ t'.next) : t'.Spent n := by
  rcases spent with low | used
  · exact .inl (base ▸ low)
  · exact .inr (by omega)

namespace DStream

variable {u : String} {t t' : Numbering} {ds ds' : DStream}

theorem Settled.later (settled : ds.Settled u t) (base : t'.base = t.base)
    (next : t.next ≤ t'.next) : ds.Settled u t' where
  watermark b bound := (settled.watermark b bound).later base next
  received b bound snapshot := by have := settled.received b bound snapshot; omega
  stash batch member same := (settled.stash batch member same).later base next

/-- Rewriting one binding. -/
theorem Settled.insert (settled : ds.Settled u t) (uid : String) (b : UpstreamBinding)
    (watermark : uid = u → t.Spent b.lastSeq)
    (received : uid = u → b.snapshotReceived = true → t.base < t.next) :
    { ds with upstreams := ds.upstreams.insert uid b }.Settled u t where
  watermark b' found := by
    rw [FiniteMap.get?_insert] at found
    split at found
    · next same => cases found; exact watermark same.symm
    · exact settled.watermark b' found
  received b' found := by
    rw [FiniteMap.get?_insert] at found
    split at found
    · next same => cases found; exact received same.symm
    · exact settled.received b' found
  stash := settled.stash

/-- Every move of a step that announces nothing on `u` keeps the invariant: it
is enough that the numbers it delivers on `u` are spent afterwards. -/
theorem Settled.move {h : HubInner} {s : HubStep} {key : DKey} {m : Move}
    (quiet : s.announcement u = none)
    (delivered : ∀ env events, s.Delivers h u env events → t.Spent env.sequence)
    (snapshots : ∀ env, s.numbered u = some env → t.base < t.next)
    (allows : s.Allows h key m) (does : m.Does s.ctx ds ds') (settled : ds.Settled u t) :
    ds'.Settled u t := by
  cases allows with
  | resubscribe =>
    obtain ⟨subs, rfl⟩ := does
    exact ⟨settled.watermark, settled.received, settled.stash⟩
  | clear =>
    cases does
    exact ⟨settled.watermark, settled.received, by simp [clearCache, clearPending]⟩
  | rebind added binds =>
    obtain ⟨ups, rebinds, rfl⟩ := does
    refine ⟨fun b' found => ?_, fun b' found snapshot => ?_, settled.stash⟩
    · rcases rebinds u b' found with ⟨fresh, -⟩ | ⟨b, bound, rfl | rfl⟩
      · rw [fresh]
        exact .inl (Nat.zero_le _)
      · exact settled.watermark _ bound
      · exact settled.watermark b bound
    · rcases rebinds u b' found with ⟨fresh, -⟩ | ⟨b, bound, rfl | rfl⟩
      · rw [fresh] at snapshot
        cases snapshot
      · exact settled.received _ bound snapshot
      · cases snapshot
  | advance =>
    obtain ⟨-, -, rfl⟩ := does
    exact ⟨settled.watermark, settled.received, settled.stash⟩
  | announce device env sub op payload routed =>
    obtain ⟨b, bound, rfl⟩ := does
    have other : env.streamId ≠ u := by
      rintro rfl
      simp [HubStep.announcement, op, payload] at quiet
    exact settled.insert _ _ (fun same => absurd same other) (fun same => absurd same other)
  | watermark uid env events delivers routed =>
    obtain ⟨b, bound, rfl⟩ := does
    refine settled.insert uid _ ?_ ?_
    · rintro rfl
      exact delivered env events delivers
    · rintro rfl snapshot
      exact settled.received b bound snapshot
  | stash uid env events delivers routed =>
    obtain ⟨⟨b, bound⟩, rfl⟩ := does
    refine ⟨by simpa using settled.watermark, by simpa using settled.received, ?_⟩
    intro stashed member same
    obtain ⟨original, old | rfl, sameId, sameSeq⟩ := pushPending_mem _ _ _ stashed member
    · rw [sameSeq]
      exact settled.stash original old (sameId.symm.trans same)
    · rw [sameSeq]
      have : uid = u := sameId.symm.trans same
      subst this
      exact delivered env events delivers
  | event uid env events e =>
    cases does
    exact ⟨settled.watermark, settled.received, settled.stash⟩
  | presence device owner online =>
    cases does
    exact ⟨settled.watermark, settled.received, settled.stash⟩
  | snapshot device env op isSnap routed =>
    obtain ⟨b, bound, rfl⟩ := does
    have inserted := settled.insert env.streamId { b with snapshotReceived := true }
      (by rintro rfl; exact settled.watermark b bound)
      (by
        rintro rfl _
        exact snapshots env (by simp [HubStep.numbered, op, isSnap]))
    exact ⟨inserted.watermark, inserted.received, by
      simp [orderSnapshot, cacheSnapshot, clearPending]⟩

end DStream

/-- A `Subscribed` on `u` puts the watermark below its base; with the stash
cleared or without higher numbers of `u`, the stream is settled for the new
epoch. -/
theorem StreamCell.handleUpstreamSubscribed_settled (ctx : Ctx) (u : String) (sub : Subscribed)
    (c : StreamCell) (b : UpstreamBinding) (bound : c.ds.upstreams.get? u = some b)
    (stash : (b.snapshotReceived = true ∧ b.epoch ≠ sub.streamEpoch) ∨
      ∀ batch ∈ c.ds.pendingBatches, batch.upstreamId = u →
        batch.upstreamSeq ≤ sub.baseSequence) :
    (c.handleUpstreamSubscribed ctx u sub).ds.Settled u ⟨sub.baseSequence, sub.baseSequence⟩ := by
  unfold handleUpstreamSubscribed
  rw [bound]
  dsimp only
  split
  · next unchanged =>
    refine ⟨fun b' found => ?_, fun b' found snapshot => ?_, fun batch member same => ?_⟩
    · rw [FiniteMap.get?_insert_self] at found
      cases found
      exact .inl (Nat.sub_le _ _)
    · rw [FiniteMap.get?_insert_self] at found
      cases found
      cases snapshot
    · rcases stash with ⟨received, epochs⟩ | low
      · simp [received, epochs] at unchanged
      · exact .inl (low batch member same)
  · refine ⟨fun b' found => ?_, fun b' found snapshot => ?_, by
      simp [DStream.awaitAll, DStream.clearCache, DStream.clearPending]⟩
    -- asking the other upstreams again can at most make this binding fresh
    all_goals
      obtain ⟨b₁, before, kept⟩ := foldl_modify_fresh_get? _ _ _ _ _ found
      replace before : (c.ds.upstreams.insert u _).get? u = some b₁ := before
      rw [FiniteMap.get?_insert_self] at before
      cases before
    · rcases kept with rfl | rfl
      · exact .inl (Nat.sub_le _ _)
      · exact .inl (Nat.zero_le _)
    · rcases kept with rfl | rfl <;> cases snapshot

/-! ## The run theorem -/

/-- What every run keeps. -/
structure Tracks (ownerOf : Uuid → Uuid) (u : String) (st : Observed) : Prop where
  own : st.1.OwnIds ownerOf
  ordered : ∀ t, st.2 = some t → t.base ≤ t.next
  settled : ∀ t, st.2 = some t → ∀ key ds, st.1.streams.get? key = some ds → ds.Settled u t

theorem DStream.Settled.of_absent {u : String} {t : Numbering} {ds : DStream}
    (unbound : ∀ b, ds.upstreams.get? u ≠ some b)
    (unstashed : ∀ batch ∈ ds.pendingBatches, batch.upstreamId ≠ u) : ds.Settled u t where
  watermark b bound := absurd bound (unbound b)
  received b bound := absurd bound (unbound b)
  stash batch member same := absurd same (unstashed batch member)

namespace Tracks

variable {ownerOf : Uuid → Uuid} {u : String} {st : Observed} {s : HubStep}

theorem new : Tracks ownerOf u (.new, none) where
  own := .new ownerOf
  ordered := by simp
  settled := by simp

/-- A step that announces an epoch. -/
theorem settled_of_announcement (tracks : Tracks ownerOf u st) (stash : SettledStash u st s)
    {sub : Subscribed} (announced : s.announcement u = some sub) {key : DKey} {ds : DStream}
    {b : UpstreamBinding} (bound : st.1.bindingOf u = some (key, ds, b)) :
    ∀ k ds', (st.1.step s).streams.get? k = some ds' →
      ds'.Settled u ⟨sub.baseSequence, sub.baseSequence⟩ := by
  have condition := stash sub announced _ bound
  obtain ⟨device, env, op, rfl, payload⟩ := HubStep.announcement_eq_some.mp announced
  obtain ⟨routed, present, binding⟩ := HubInner.bindingOf_eq_some.mp bound
  have stepEq : st.1.step s = st.1.onStream s.ctx key
      (·.handleUpstreamSubscribed s.ctx env.streamId sub) := by
    simp only [HubInner.step, op, HubInner.handleBridgeEnvelope, payload, HubInner.onUpstream,
      routed]
  intro k ds' found
  rw [stepEq, HubInner.onStream_streams_get?] at found
  split at found
  · rw [present] at found
    cases found
    exact StreamCell.handleUpstreamSubscribed_settled s.ctx env.streamId sub _ b binding condition
  · next other =>
    -- the id belongs to the stream it is routed to, so no other stream knows it
    have own := tracks.own.streams k ds' found
    have home := tracks.own.index env.streamId key routed
    refine .of_absent (fun b' bound' => ?_) (fun batch member same => ?_)
    · exact other ((own.bindings _ b' bound').unique home)
    · exact other ((same ▸ own.stash batch member).unique home)

/-- A step that announces nothing on `u`. -/
theorem settled_of_quiet (tracks : Tracks ownerOf u st) (inOrder : InOrder u st s)
    (quiet : s.announcement u = none) {t t' : Numbering} (before : st.2 = some t)
    (after : (observe u st s).2 = some t') :
    t'.base ≤ t'.next ∧
      ∀ key ds, (st.1.step s).streams.get? key = some ds → ds.Settled u t' := by
  have ordered := tracks.ordered t before
  have settled := tracks.settled t before
  -- the base stays, and a numbered message moves `next` just beyond it
  have follows : t'.base = t.base ∧ t.next ≤ t'.next ∧
      ∀ env, s.numbered u = some env → t'.next = env.sequence + 1 := by
    simp only [observe, quiet] at after
    cases found : s.numbered u with
    | none =>
      rw [found, before] at after
      cases after
      exact ⟨rfl, Nat.le_refl _, by simp⟩
    | some env =>
      rw [found, before] at after
      cases after
      have := inOrder env found t before
      refine ⟨rfl, by dsimp only; omega, ?_⟩
      intro env' same
      cases same
      rfl
  obtain ⟨base, next, beyond⟩ := follows
  refine ⟨by omega, ?_⟩
  refine HubInner.step_invariant (P := fun _ ds => ds.Settled u t')
    (fun key fresh => ⟨by simp [DStream.new], by simp [DStream.new], by simp [DStream.new]⟩)
    (fun key m ds ds' allows does => DStream.Settled.move quiet ?_ ?_ allows does)
    (fun key ds found => (settled key ds found).later base next)
  · intro env events delivers
    cases delivers with
    | arrives device env events op isBatch =>
      have := beyond env (HubStep.numbered_eq_some.mpr ⟨device, op, rfl, by simp [isBatch]⟩)
      exact .inr (by omega)
    | flushed device snap key batch op isSnap routed member =>
      unfold HubInner.takenStash at member
      split at member
      · cases member
      · next ds present =>
        split at member
        · exact ((settled key ds present).stash batch member rfl).later base next
        · cases member
  · intro env found
    have sequence := beyond env found
    have := inOrder env found t before
    omega

/-- **Step lemma**. -/
theorem step (tracks : Tracks ownerOf u st) (promise : s.WellAddressed ownerOf)
    (inOrder : InOrder u st s) (stash : SettledStash u st s) :
    Tracks ownerOf u (observe u st s) := by
  have both : ∀ t', (observe u st s).2 = some t' → t'.base ≤ t'.next ∧
      ∀ key ds, (st.1.step s).streams.get? key = some ds → ds.Settled u t' := by
    intro t' after
    cases announced : s.announcement u with
    | some sub =>
      simp only [observe, announced] at after
      split at after
      · next isBound =>
        cases after
        obtain ⟨⟨key, ds, b⟩, bound⟩ := Option.isSome_iff_exists.mp isBound
        exact ⟨Nat.le_refl _, tracks.settled_of_announcement stash announced bound⟩
      · cases after
    | none =>
      cases before : st.2 with
      | none =>
        simp only [observe, announced, before] at after
        split at after <;> cases after
      | some t => exact tracks.settled_of_quiet inOrder announced before after
  exact ⟨tracks.own.step promise, fun t' after => (both t' after).1, fun t' after => (both t' after).2⟩

end Tracks

/-! ### Fanning out -/

namespace DStream

variable {ctx : Ctx} {env : Envelope}

theorem eventFrame_carried (ds : DStream) (e : Event) :
    (ds.eventFrame ctx env e).carried = some (env.deviceId, e) := rfl

theorem foldl_emit_log (ctx : Ctx) (env : Envelope) (events : List Event) (ds : DStream) :
    ∃ frames, (events.foldl (emit ctx env) ds).log = ds.log ++ frames ∧
      frames.map Frame.carried = events.map fun e => some (env.deviceId, e) := by
  induction events generalizing ds with
  | nil => exact ⟨[], by simp, rfl⟩
  | cons e rest inductionHypothesis =>
    obtain ⟨frames, log, carried⟩ := inductionHypothesis (ds.emit ctx env e)
    refine ⟨ds.eventFrame ctx env e :: frames, ?_, ?_⟩
    · rw [List.foldl_cons, log]
      exact List.append_assoc _ _ _
    · rw [List.map_cons, carried, eventFrame_carried, List.map_cons]

theorem foldl_emit_upstreams (events : List Event) (ds : DStream) :
    (events.foldl (emit ctx env) ds).upstreams = ds.upstreams := by
  induction events generalizing ds with
  | nil => rfl
  | cons e rest inductionHypothesis => exact inductionHypothesis _

theorem foldl_emit_pendingBatches (events : List Event) (ds : DStream) :
    (events.foldl (emit ctx env) ds).pendingBatches = ds.pendingBatches := by
  induction events generalizing ds with
  | nil => rfl
  | cons e rest inductionHypothesis => exact inductionHypothesis _

end DStream

/-- A batch above the watermark of a binding that has its snapshot is numbered
at once. -/
theorem StreamCell.fanOutEvents_received (ctx : Ctx) (u : String) (env : Envelope)
    (events : List Event) (c : StreamCell) (b : UpstreamBinding)
    (bound : c.ds.upstreams.get? u = some b) (received : b.snapshotReceived = true)
    (above : b.lastSeq < env.sequence) (someEvents : events ≠ []) :
    ∃ subs, (c.fanOutEvents ctx u env events).ds =
      { events.foldl (DStream.emit ctx env) { c.ds with
          upstreams := c.ds.upstreams.insert u { b with lastSeq := env.sequence } } with
        subscribers := subs } := by
  have fresh : ¬(env.sequence ≠ 0 ∧ env.sequence ≤ b.lastSeq) := by omega
  have numbered : env.sequence ≠ 0 := by omega
  have nonempty : events.isEmpty = false := by simpa using someEvents
  unfold fanOutEvents
  simp only [bound, if_neg fresh, if_pos numbered, nonempty, received, Bool.false_eq_true, if_false,
    Bool.not_true, Bool.false_and, detachFailed, foldl_emitEvent_ds]
  exact ⟨_, rfl⟩

/-- The step of the claim: under the invariant, a batch of the epoch in force
lies above the watermark. -/
theorem Tracks.fansOutCurrent {ownerOf : Uuid → Uuid} {u : String} {st : Observed} {s : HubStep}
    (tracks : Tracks ownerOf u st) (inOrder : InOrder u st s) : FansOutCurrent u st s := by
  intro env events found isBatch someEvents epoch key ds b bound received
  obtain ⟨t, current⟩ := Option.isSome_iff_exists.mp epoch
  have sequence := inOrder env found t current
  obtain ⟨device, op, rfl, -⟩ := HubStep.numbered_eq_some.mp found
  obtain ⟨routed, present, binding⟩ := HubInner.bindingOf_eq_some.mp bound
  have settled := tracks.settled t current key ds present
  have above : b.lastSeq < env.sequence := by
    have started := settled.received b binding received
    rcases settled.watermark b binding with low | used <;> omega
  have stepEq : st.1.step s = st.1.onStream s.ctx key
      (·.fanOutEvents s.ctx env.streamId env events) := by
    have handled : st.1.handleBridgeEnvelope s.ctx device env =
        st.1.fanOutEvents s.ctx env.streamId env events :=
      HubInner.handleBridgeEnvelope_batch s.ctx device env events isBatch st.1
    simp only [HubInner.step, op, handled, HubInner.fanOutEvents, HubInner.onUpstream, routed]
  obtain ⟨subs, emitted⟩ := StreamCell.fanOutEvents_received s.ctx env.streamId env events
    (.ofStream ds st.1.browsers) b binding received above someEvents
  obtain ⟨frames, log, carried⟩ := DStream.foldl_emit_log s.ctx env events
    { ds with upstreams := ds.upstreams.insert env.streamId { b with lastSeq := env.sequence } }
  refine ⟨(StreamCell.fanOutEvents s.ctx env.streamId env events
    (.ofStream ds st.1.browsers)).ds, frames, ?_, ?_⟩
  · rw [stepEq, HubInner.onStream_streams_get?, if_pos rfl, present]
    rfl
  · rw [emitted]
    refine ⟨log, carried, DStream.foldl_emit_pendingBatches events _,
      { b with lastSeq := env.sequence }, ?_, rfl⟩
    change (events.foldl (DStream.emit s.ctx env) _).upstreams.get? env.streamId = _
    rw [DStream.foldl_emit_upstreams]
    exact FiniteMap.get?_insert_self _ _ _

/-- In every run of the hub in which the Bridge's messages on `u` arrive in order
and no `Subscribed` meets a stash with higher numbers of `u`, every batch of the
epoch in force that arrives after the epoch's snapshot is fanned out exactly
once. -/
theorem fans_out_current_epoch (ownerOf : Uuid → Uuid) (u : String) (steps : List HubStep)
    (run : Along (observe u)
      (fun st s => s.WellAddressed ownerOf ∧ InOrder u st s ∧ SettledStash u st s)
      (.new, none) steps) :
    Along (observe u) (FansOutCurrent u) (.new, none) steps := by
  refine Along.of_invariant (I := Tracks ownerOf u) ?_ ?_ Tracks.new run
  · rintro st s tracks ⟨promise, inOrder, stash⟩
    exact tracks.step promise inOrder stash
  · rintro st s tracks ⟨-, inOrder, -⟩
    exact tracks.fansOutCurrent inOrder

/-! ### The run that loses a batch -/

instance (ownerOf : Uuid → Uuid) (s : HubStep) : Decidable (s.WellAddressed ownerOf) := by
  unfold HubStep.WellAddressed
  split <;> infer_instance

instance (u : String) (st : Observed) (s : HubStep) : Decidable (InOrder u st s) := by
  unfold InOrder
  infer_instance

instance (u : String) (st : Observed) (s : HubStep) : Decidable (SettledStash u st s) := by
  unfold SettledStash
  infer_instance

namespace StaleStash

def owner : Uuid := .ofLast 'a'
def device : Uuid := .ofLast 'd'
def tag : TargetTag := .session device 1 "t"
def upstream : String := upstreamStreamId device tag

def envelope (sequence : Nat) (payload : Payload) : Envelope :=
  { baseEnvelope 0 device.text payload with streamId := upstream, sequence }

def message (sequence : Nat) (payload : Payload) : HubStep :=
  ⟨.idle 0, .bridgeEnvelope device (envelope sequence payload)⟩

def events : Payload := .eventBatch ⟨upstream, [⟨none, some (.turnLifecycle "")⟩]⟩

def batch (sequence : Nat) : HubStep := message sequence events

/-- A browser connects and opens the session. -/
def opening (conn : Uuid) : List HubStep :=
  [⟨.idle 0, .registerBrowser conn ⟨conn, owner, 0⟩⟩,
    ⟨.idle 0, .subscribeBind conn (owner, tag) [(device, tag)] (.ofLast 's')⟩,
    ⟨.idle 0, .subscribeAttach conn (owner, tag) "" (.ofLast 's')⟩]

/-- The first epoch: `Subscribed`, the snapshot and one batch. -/
def firstEpoch : List HubStep :=
  opening (.ofLast 'b') ++
    [message 0 (.subscribed ⟨upstream, 7, 1⟩), message 1 (.runtimeSnapshot ""), batch 2]

/-- A second browser opens the session while batch 3 is on its way: the batch
is stashed, the next epoch's snapshot flushes it, and batch 2 of that epoch
finds the watermark at 3. -/
def secondEpoch : List HubStep :=
  opening (.ofLast 'c') ++
    [batch 3, message 0 (.subscribed ⟨upstream, 8, 1⟩), message 1 (.runtimeSnapshot "")]

end StaleStash

open StaleStash in
theorem fans_out_current_epoch_first_epoch :
    Along (observe upstream) (FansOutCurrent upstream) (.new, none) firstEpoch ∧
      ((HubInner.new.run firstEpoch).bindingOf upstream).map (fun x => x.2.1.log.length) =
        some 2 :=
  ⟨fans_out_current_epoch (fun _ => owner) upstream firstEpoch (by decide +kernel),
    by decide +kernel⟩

open StaleStash in
/-- Without the condition on the stash the claim fails. -/
theorem stale_stash_drops_new_epoch :
    ¬ ∀ (ownerOf : Uuid → Uuid) (u : String) (steps : List HubStep),
      Along (observe u) (fun st s => s.WellAddressed ownerOf ∧ InOrder u st s) (.new, none) steps →
      Along (observe u) (FansOutCurrent u) (.new, none) steps := by
  intro claim
  have along := claim (fun _ => owner) upstream ((firstEpoch ++ secondEpoch) ++ [batch 2])
    (by decide +kernel)
  have fansOut := along.at_step
  generalize reached : (firstEpoch ++ secondEpoch).foldl (observe upstream) (.new, none) = st
    at fansOut
  have facts : (st.1.bindingOf upstream).map (fun x => (x.2.2.snapshotReceived, x.1,
      x.2.1.log.length)) = some (true, (owner, tag), 4) ∧ st.2.isSome ∧
      ((st.1.step (batch 2)).streams.get? (owner, tag)).map (·.log.length) = some 4 := by
    rw [← reached]
    decide +kernel
  obtain ⟨bindings, epoch, dropped⟩ := facts
  obtain ⟨⟨key, ds, b⟩, bound, values⟩ := Option.map_eq_some_iff.mp bindings
  simp only [Prod.mk.injEq] at values
  obtain ⟨received, rfl, length⟩ := values
  obtain ⟨ds', frames, present, log, carried, -⟩ := fansOut (envelope 2 events)
    [.turnLifecycle ""] (by decide +kernel) rfl (by simp) epoch _ ds b bound received
  rw [present] at dropped
  have count : frames.length = 1 := by simpa using congrArg List.length carried
  have sum : ds'.log.length = 4 := by simpa using dropped
  rw [log, List.length_append] at sum
  omega

end AgentConsole.Relay
