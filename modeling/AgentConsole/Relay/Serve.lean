import AgentConsole.Relay.Cursor
import AgentConsole.Relay.Delivery
import AgentConsole.Relay.Window

/-! # Serving a stream in order

What a stream holds carries its id and its epoch, so a window without gaps puts
the cursor of whoever receives it at the present.  Every operation of a stream
that starts with its active subscribers at the present leaves them there. -/

namespace AgentConsole.Relay

open AgentConsole.Lib

/-! ## Frames of a stream -/

/-- What a move takes for a snapshot is one. -/
def Move.Proper : Move → Prop
  | .snapshot _ env => isSnapshot env = true
  | _ => True

namespace DStream

/-- The envelope holds an event batch. -/
def IsEventBatch (env : Envelope) : Prop := ∃ batch, env.payload = some (.eventBatch batch)

theorem IsEventBatch.carries {env : Envelope} (events : IsEventBatch env) :
    carries env = true ∧ isSnapshot env = false := by
  obtain ⟨batch, payload⟩ := events
  simp [Relay.carries, isSnapshot, batchEvents, payload]

theorem withLastAppend_address (env : Envelope) (app : OutputAppend) :
    (withLastAppend env app).streamId = env.streamId ∧
      (withLastAppend env app).streamEpoch = env.streamEpoch ∧
      (IsEventBatch env → IsEventBatch (withLastAppend env app)) := by
  unfold withLastAppend
  split
  · split
    · exact ⟨rfl, rfl, fun _ => ⟨_, rfl⟩⟩
    · exact ⟨rfl, rfl, id⟩
  · exact ⟨rfl, rfl, id⟩

/-- A merged frame has the address of the first. -/
theorem mergePair_address {codec : Codec} {now : Nat} {a b m : Frame}
    (merged : mergePair codec now a b = some m) :
    m.env.streamId = a.env.streamId ∧ m.env.streamEpoch = a.env.streamEpoch ∧
      (IsEventBatch a.env → IsEventBatch m.env) := by
  unfold mergePair at merged
  split at merged
  · split at merged
    · cases merged
    · split at merged
      · dsimp only at merged
        split at merged
        · cases merged
        · cases merged
          exact withLastAppend_address _ _
      · cases merged
  · cases merged

/-- The id has the form that `DStream.new` gives it. -/
def HasId (ds : DStream) : Prop := ∃ id : Uuid, ds.streamId = "s-" ++ id.text

/-- What every reachable stream satisfies. -/
structure Sound (ds : DStream) : Prop where
  numbered : ds.WellNumbered
  own : ∀ f ∈ ds.snapshots, Cursor.Belongs ds.streamId ds.epoch f ∧ isSnapshot f.env = true
  events : ∀ f ∈ ds.buffer.items, f.env.streamId = ds.streamId ∧
    f.env.streamEpoch = ds.epoch ∧ IsEventBatch f.env
  hasId : ds.HasId

namespace Sound

variable {ds ds' : DStream}

theorem new (key : DKey) (fresh : Uuid) : (DStream.new key fresh).Sound where
  numbered := .new key fresh
  own := by simp [DStream.new]
  events := by simp [DStream.new, StreamBuffer.new]
  hasId := ⟨fresh, rfl⟩

theorem number (sound : ds.Sound) (ctx : Ctx) {frame : Frame}
    (next : frame.sequence = ds.nextSeq) (stream : frame.env.streamId = ds.streamId)
    (epoch : frame.env.streamEpoch = ds.epoch) (isBatch : IsEventBatch frame.env) :
    (ds.number ctx frame).1.Sound where
  numbered := sound.numbered.number ctx next
  own := sound.own
  events := insert_frames ctx.codec ctx.now ds.buffer frame
    (fun f => f.env.streamId = ds.streamId ∧ f.env.streamEpoch = ds.epoch ∧ IsEventBatch f.env)
    (fun a b m left _ merged => by
      obtain ⟨sameStream, sameEpoch, batch⟩ := mergePair_address merged
      exact ⟨sameStream.trans left.1, sameEpoch.trans left.2.1, batch left.2.2⟩)
    sound.events ⟨stream, epoch, isBatch⟩
  hasId := sound.hasId

theorem orderSnapshot (sound : ds.Sound) (ctx : Ctx) (uid : String) (b : UpstreamBinding)
    {env : Envelope} (isSnap : isSnapshot env = true) :
    (ds.orderSnapshot ctx uid b env).Sound where
  numbered := sound.numbered.orderSnapshot ctx uid b env
  own := by
    intro f member
    rcases List.mem_append.mp ((WellNumbered.cacheSnapshot_sublist _ _).subset member) with
      old | new
    · exact sound.own f old
    · rw [List.mem_singleton.mp new]
      exact ⟨⟨rfl, rfl, by
        have : isSnapshot (ds.snapshotFrame ctx env).env = true := isSnap
        simp [carries, this]⟩, isSnap⟩
  events := fun f member => sound.events f ((retainUncovered_sublist ds.buffer _ _).subset member)
  hasId := sound.hasId

/-- Every move keeps a stream sound. -/
theorem move (sound : ds.Sound) {ctx : Ctx} {m : Move} (proper : m.Proper)
    (does : m.Does ctx ds ds') : ds'.Sound := by
  have numbered := sound.numbered.move does
  have same := sound
  obtain ⟨-, own, events, hasId⟩ := same
  cases m with
  | resubscribe => obtain ⟨subs, rfl⟩ := does; exact ⟨numbered, own, events, hasId⟩
  | clear => cases does; exact ⟨numbered, by simp [clearCache], by
      simp [clearCache, StreamBuffer.clear], hasId⟩
  | advance =>
    obtain ⟨noSnapshots, noItems, rfl⟩ := does
    exact ⟨numbered, by simp [noSnapshots], by simp [noItems], hasId⟩
  | rebind added => obtain ⟨ups, -, rfl⟩ := does; exact ⟨numbered, own, events, hasId⟩
  | announce uid sub => obtain ⟨b, -, rfl⟩ := does; exact ⟨numbered, own, events, hasId⟩
  | watermark uid sequence => obtain ⟨b, -, rfl⟩ := does; exact ⟨numbered, own, events, hasId⟩
  | stash batch =>
    obtain ⟨-, rfl⟩ := does
    obtain ⟨_, _, _, frame⟩ := pushPending_frame ctx.codec ds batch
    rw [frame] at numbered ⊢
    exact ⟨numbered, own, events, hasId⟩
  | event env e => cases does; exact sound.number ctx rfl rfl rfl ⟨_, rfl⟩
  | presence device online => cases does; exact sound.number ctx rfl rfl rfl ⟨_, rfl⟩
  | snapshot uid env =>
    obtain ⟨b, -, rfl⟩ := does
    exact sound.orderSnapshot ctx uid b proper

theorem moved {ctx : Ctx} (sound : ds.Sound) (moved : Moved ctx Move.Proper ds ds') : ds'.Sound :=
  moved.invariant (fun _ _ _ proper does holds => holds.move proper does) sound

theorem withUpstreams (sound : ds.Sound) (ups : FiniteMap String UpstreamBinding) :
    { ds with upstreams := ups }.Sound where
  numbered := { sound.numbered with }
  own := sound.own
  events := sound.events
  hasId := sound.hasId

theorem withSubscribers (sound : ds.Sound) (subs : FiniteMap Uuid SubscriberState) :
    { ds with subscribers := subs }.Sound where
  numbered := { sound.numbered with }
  own := sound.own
  events := sound.events
  hasId := sound.hasId

/-- The frames of a window are the stream's own. -/
theorem window_belongs (sound : ds.Sound) {f : Frame} (member : f ∈ ds.replayWindow.2) :
    Cursor.Belongs ds.streamId ds.epoch f := by
  rcases sound.numbered.window.2.1 f member with snapshot | item
  · exact (sound.own f snapshot).1
  · obtain ⟨stream, epoch, batch⟩ := sound.events f item
    exact ⟨stream, epoch, batch.carries.1⟩

end Sound

/-! ## Windows without gaps -/

/-- A window of the stream goes up by one to the present: nothing is missing
after the oldest surviving frame, or the cached snapshots have consecutive
numbers and nothing is missing after them. -/
def Continuous (ds : DStream) : Prop :=
  ds.Gapless ∨ ds.TailComplete ∧
    ∀ f ∈ ds.snapshots, ∀ n, f.sequence ≤ n → n ≤ ds.anchor → ∃ g ∈ ds.snapshots, g.sequence = n

variable {ds : DStream}

theorem replayBase_firstNumber (sound : ds.Sound) {first : Frame}
    (member : first ∈ ds.replayWindow.2) :
    first.sequence = Cursor.firstNumber (ds.replayBase first) first := by
  unfold replayBase Cursor.firstNumber
  by_cases snapshot : first ∈ ds.snapshots
  · rw [if_pos snapshot, if_pos (sound.own first snapshot).2]
  · have item := (sound.numbered.window.2.1 first member).resolve_left snapshot
    have event := (sound.events first item).2.2.carries.2
    have positive := (sound.numbered.item_range item).1
    rw [if_neg snapshot, if_neg (by simp [event])]
    omega

theorem replayWindow_base {first : Frame} {rest : List Frame}
    (frames : ds.replayWindow.2 = first :: rest) : ds.replayWindow.1 = ds.replayBase first := by
  unfold replayWindow at frames ⊢
  cases full : ds.fullReplay with
  | some window =>
    obtain ⟨first', rest', -, served, base, -⟩ := fullReplay_eq_some full
    rw [full, Option.getD_some, served] at frames
    cases frames
    rw [Option.getD_some, base]
  | none =>
    rw [full, Option.getD_none] at frames
    rw [Option.getD_none]
    unfold anchoredReplay at frames ⊢
    dsimp only at frames ⊢
    rw [frames]

/-- A continuous window is consecutive and ends at the present. -/
theorem Continuous.window (continuous : ds.Continuous) (numbered : ds.WellNumbered)
    (some_ : ds.snapshots ≠ []) :
    ∃ first rest, ds.replayWindow.2 = first :: rest ∧
      (first :: rest).map Frame.sequence = List.range' first.sequence (rest.length + 1) ∧
      first.sequence + rest.length = ds.nextSeq - 1 := by
  obtain ⟨increasing, from_, snapshotsIn⟩ := numbered.window
  have below : ∀ f ∈ ds.replayWindow.2, f.sequence < ds.nextSeq := fun f member =>
    (numbered.surviving_range (mem_survivingFrames.mpr (from_ f member))).2
  -- the window has every number from its first frame on
  have closed : ∀ f ∈ ds.replayWindow.2, ∀ n, f.sequence ≤ n → n < ds.nextSeq →
      ∃ g ∈ ds.replayWindow.2, g.sequence = n := by
    intro f member n low high
    have survives := mem_survivingFrames.mpr (from_ f member)
    cases full : ds.fullReplay with
    | some window =>
      obtain ⟨first, rest, surviving, frames, -, -, numbers⟩ := fullReplay_eq_some full
      have windowEq : ds.replayWindow.2 = window.2 := by
        unfold replayWindow; rw [full, Option.getD_some]
      have firstLe : first.sequence ≤ f.sequence := by
        have : f.sequence ∈ window.2.map Frame.sequence :=
          List.mem_map_of_mem (windowEq ▸ member)
        rw [numbers, List.mem_range'_1] at this
        exact this.1
      have inside : n ∈ window.2.map Frame.sequence := by
        rw [numbers, List.mem_range'_1]
        omega
      obtain ⟨g, present, number⟩ := List.mem_map.mp inside
      exact ⟨g, windowEq ▸ present, number⟩
    | none =>
      rcases continuous with gapless | ⟨complete, consecutive⟩
      · obtain ⟨base, found⟩ :=
          numbered.fullReplay_of_gapless gapless (List.ne_nil_of_mem survives)
        rw [found] at full
        cases full
      · have windowEq : ds.replayWindow.2 = sortBySequence (ds.snapshots ++ ds.anchoredTail) := by
          unfold replayWindow
          rw [full, Option.getD_none, numbered.anchoredReplay_of_complete complete]
        by_cases early : n ≤ ds.anchor
        · have snapshot : f ∈ ds.snapshots := by
            rw [windowEq, mem_sortBySequence, List.mem_append] at member
            refine member.resolve_right fun tail => ?_
            have := (mem_anchoredTail.mp tail).2
            omega
          obtain ⟨g, present, number⟩ := consecutive f snapshot n low early
          exact ⟨g, snapshotsIn g present, number⟩
        · obtain ⟨g, present, number⟩ := complete n (by omega) high
          refine ⟨g, ?_, number⟩
          rw [windowEq, mem_sortBySequence, List.mem_append]
          exact .inr (mem_anchoredTail.mpr ⟨present, by omega⟩)
  cases frames : ds.replayWindow.2 with
  | nil =>
    obtain ⟨f, present⟩ := List.exists_mem_of_ne_nil _ some_
    have := snapshotsIn f present
    rw [frames] at this
    cases this
  | cons first rest =>
    rw [frames] at increasing below closed
    have numbers := numbers_of_closed increasing below (closed first List.mem_cons_self)
    have length : rest.length + 1 = ds.nextSeq - first.sequence := by
      simpa using congrArg List.length numbers
    have firstBelow := below first List.mem_cons_self
    exact ⟨first, rest, rfl, by rw [numbers, length], by omega⟩

/-- Whoever is served a continuous window ends at the present. -/
theorem Continuous.cursor (continuous : ds.Continuous) (sound : ds.Sound)
    (some_ : ds.snapshots ≠ []) :
    (ds.replayWindow.2.map OutItem.frame).foldl (Cursor.item ds.streamId)
      (.based ds.epoch ds.replayWindow.1) = .reached ds.epoch (ds.nextSeq - 1) := by
  obtain ⟨first, rest, frames, numbers, last⟩ := continuous.window sound.numbered some_
  have member : first ∈ ds.replayWindow.2 := by rw [frames]; exact List.mem_cons_self
  rw [replayWindow_base frames, ← last]
  have belong : ∀ f ∈ first :: rest, Cursor.Belongs ds.streamId ds.epoch f :=
    fun f present => sound.window_belongs (frames ▸ present)
  rw [frames]
  exact Cursor.foldl_based belong (replayBase_firstNumber sound member) numbers

end DStream

/-! ## Pushing to one connection -/

/-- A cursor at the present of the stream, or free. -/
def DStream.UpTo (ds : DStream) (c : Cursor) : Prop :=
  c = .free ∨ c = .reached ds.epoch (ds.nextSeq - 1)

/-- Between `bc` and `bc'` only messages of the stream were pushed. -/
structure Pushed (streamId : String) (bc bc' : BrowserConn) : Prop where
  grows : ∃ more, bc'.accepted = bc.accepted ++ more
  silent : ∀ other, other ≠ streamId →
    Cursor.after other bc'.accepted = Cursor.after other bc.accepted
  isOpen : bc'.closed = false → bc.closed = false
  ordered : bc.outbox.Ordered → bc'.outbox.Ordered

namespace Pushed

variable {streamId : String} {bc mid bc' : BrowserConn}

theorem refl : Pushed streamId bc bc := ⟨⟨[], by simp⟩, fun _ _ => rfl, id, id⟩

theorem trans (first : Pushed streamId bc mid) (rest : Pushed streamId mid bc') :
    Pushed streamId bc bc' where
  grows := by
    obtain ⟨more, history⟩ := first.grows
    obtain ⟨further, later⟩ := rest.grows
    exact ⟨more ++ further, by rw [later, history, List.append_assoc]⟩
  silent other ne := (rest.silent other ne).trans (first.silent other ne)
  isOpen isOpen := first.isOpen (rest.isOpen isOpen)
  ordered ordered := rest.ordered (first.ordered ordered)

/-- One more item that is silent elsewhere, or none. -/
theorem of_item {i : OutItem} (history : bc'.accepted = bc.accepted ++ [i])
    (silent : ∀ other, other ≠ streamId → Cursor.Silent other i)
    (isOpen : bc'.closed = false → bc.closed = false)
    (ordered : bc.outbox.Ordered → bc'.outbox.Ordered) : Pushed streamId bc bc' where
  grows := ⟨[i], history⟩
  silent other ne := by
    rw [history, Cursor.after_append, List.foldl_cons, List.foldl_nil,
      Cursor.item_silent (silent other ne)]
  isOpen := isOpen
  ordered := ordered

theorem of_unchanged (history : bc'.accepted = bc.accepted) (isOpen : bc'.closed = bc.closed)
    (ordered : bc.outbox.Ordered → bc'.outbox.Ordered) : Pushed streamId bc bc' where
  grows := ⟨[], by simp [history]⟩
  silent other _ := by rw [history]
  isOpen := by rw [isOpen]; exact id
  ordered := ordered

variable (ctx : Ctx) (conn : Uuid)

theorem pushFrame_ordered (bc : BrowserConn) (f : Frame) (ordered : bc.outbox.Ordered) :
    (bc.pushFrame ctx conn f).1.outbox.Ordered := by
  unfold BrowserConn.pushFrame
  have drained := ordered.drain (ctx.drain conn bc.attempts)
  dsimp only
  split
  · next pushed => exact drained.pushFrame pushed
  · exact drained

theorem pushDirect_ordered (bc : BrowserConn) (env : Envelope) (ordered : bc.outbox.Ordered) :
    (bc.pushDirect ctx conn env).1.outbox.Ordered :=
  (ordered.drain _).pushDirect _

theorem frame {epoch : Nat} {f : Frame} (belongs : Cursor.Belongs streamId epoch f)
    (bc : BrowserConn) : Pushed streamId bc (bc.pushFrame ctx conn f).1 := by
  have ordered := pushFrame_ordered ctx conn bc f
  rcases BrowserConn.pushFrame_spec ctx conn bc f with
    ⟨bc', pushed, wasOpen, -, history⟩ | ⟨bc', pushed, wasClosed, isClosed, history⟩ |
    ⟨bc', pushed, wasOpen, isOpen, history⟩
  · rw [pushed] at ordered ⊢
    exact of_item history (fun other ne => ⟨belongs.data, belongs.stream ▸ ne.symm⟩)
      (fun _ => wasOpen) ordered
  · rw [pushed] at ordered ⊢
    exact of_unchanged history (isClosed.trans wasClosed.symm) ordered
  · rw [pushed] at ordered ⊢
    exact of_unchanged history (isOpen.trans wasOpen.symm) ordered

/-- A direct message that says nothing about other streams. -/
theorem direct {env : Envelope}
    (silent : ∀ len other, other ≠ streamId → Cursor.Silent other (.direct ⟨env, len⟩))
    (bc : BrowserConn) : Pushed streamId bc (bc.pushDirect ctx conn env).1 := by
  have ordered := pushDirect_ordered ctx conn bc env
  rcases BrowserConn.pushDirect_spec ctx conn bc env with
    ⟨bc', len, pushed, wasOpen, -, history⟩ | ⟨bc', pushed, history, state, -⟩ |
    ⟨bc', reason, pushed, wasOpen, -, history⟩
  · rw [pushed] at ordered ⊢
    exact of_item history (silent len) (fun _ => wasOpen) ordered
  · rw [pushed] at ordered ⊢
    exact of_unchanged history state ordered
  · rw [pushed] at ordered ⊢
    exact of_item history (fun _ _ => trivial) (fun _ => wasOpen) ordered

theorem resyncRequired_silent (streamId : String) (now len : Nat) (other : String)
    (ne : other ≠ streamId) :
    Cursor.Silent other (.direct ⟨resyncRequiredEnv now streamId, len⟩) := by
  refine ⟨by simp [resyncRequiredEnv, baseEnvelope, carries, isSnapshot, batchEvents],
    by simp [resyncRequiredEnv, baseEnvelope], ?_⟩
  simpa [resyncRequiredEnv, baseEnvelope] using ne.symm

theorem subscribed_silent (streamId : String) (now epoch base : Nat) (correlation : String)
    (len : Nat) (other : String) (ne : other ≠ streamId) :
    Cursor.Silent other (.direct ⟨subscribedEnv now streamId epoch base correlation, len⟩) := by
  refine ⟨by simp [subscribedEnv, baseEnvelope, carries, isSnapshot, batchEvents], ?_,
    by simp [subscribedEnv, baseEnvelope]⟩
  intro sub payload
  cases payload
  exact ne.symm

theorem close (reason : String) (bc : BrowserConn) : Pushed streamId bc (bc.close reason) := by
  cases closed : bc.closed with
  | true =>
    have same : bc.close reason = bc := by
      unfold BrowserConn.close
      rw [Outbox.close_of_closed closed]
    rw [same]
    exact refl
  | false =>
    exact of_item (Outbox.close_accepted_open closed reason) (fun _ _ => trivial)
      (fun _ => closed) fun ordered => ordered.close reason

theorem frames {epoch : Nat} {frames : List Frame}
    (belong : ∀ f ∈ frames, Cursor.Belongs streamId epoch f) (bc : BrowserConn) :
    Pushed streamId bc (bc.pushFrames ctx conn frames).1 := by
  induction frames generalizing bc with
  | nil => exact refl
  | cons f rest inductionHypothesis =>
    have first := frame ctx conn (belong f List.mem_cons_self) bc
    unfold BrowserConn.pushFrames
    split
    · next bc' pushed =>
      rw [pushed] at first
      exact first.trans
        (inductionHypothesis (fun g member => belong g (List.mem_cons_of_mem _ member)) bc')
    · next bc' _ pushed => rw [pushed] at first; exact first

theorem replay {epoch : Nat} {frames : List Frame}
    (belong : ∀ f ∈ frames, Cursor.Belongs streamId epoch f) (now base : Nat)
    (correlation : String) (bc : BrowserConn) :
    Pushed streamId bc (bc.pushReplay ctx conn
      (subscribedEnv now streamId epoch base correlation) frames).1 := by
  have first := direct ctx conn
    (subscribed_silent streamId now epoch base correlation) bc
  unfold BrowserConn.pushReplay
  split
  · next bc' pushed => rw [pushed] at first; exact first.trans (Pushed.frames ctx conn belong bc')
  · next bc' pushed => rw [pushed] at first; exact first

end Pushed

/-! ## Cursors after a push -/

section Pushes

variable (ctx : Ctx) (conn : Uuid) {ds : DStream} {bc : BrowserConn}

/-- After `ResyncRequired` the cursor is free, or the connection is closed. -/
theorem pushResync_cursor (hasId : ds.HasId)
    (inOrder : Cursor.after ds.streamId bc.accepted ≠ .violated) :
    let bc' := (bc.pushDirect ctx conn (resyncRequiredEnv ctx.now ds.streamId)).1
    Cursor.after ds.streamId bc'.accepted ≠ .violated ∧
      (bc'.closed = false → Cursor.after ds.streamId bc'.accepted = .free) := by
  dsimp only
  rcases BrowserConn.pushDirect_spec ctx conn bc (resyncRequiredEnv ctx.now ds.streamId) with
    ⟨bc', len, pushed, -, -, history⟩ | ⟨bc', pushed, history, state, why⟩ |
    ⟨bc', reason, pushed, -, isClosed, history⟩
  · have freed : Cursor.after ds.streamId bc'.accepted = .free := by
      rw [history, Cursor.after_append, List.foldl_cons, List.foldl_nil]
      simp [Cursor.item, Cursor.rebase, resyncRequiredEnv, baseEnvelope, carries, isSnapshot,
        batchEvents, inOrder]
    rw [pushed]
    exact ⟨by rw [freed]; simp, fun _ => freed⟩
  · rw [pushed]
    refine ⟨by rw [history]; exact inOrder, fun isOpen => ?_⟩
    -- the message is short, so the connection was closed
    obtain ⟨id, idEq⟩ := hasId
    have short := ctx.codec.resyncRequired_fits ctx.now id
    rw [← idEq] at short
    rcases why with wasClosed | long
    · dsimp only at isOpen
      rw [state, wasClosed] at isOpen
      cases isOpen
    · omega
  · rw [pushed]
    refine ⟨?_, fun isOpen => by dsimp only at isOpen; rw [isClosed] at isOpen; cases isOpen⟩
    rw [history, Cursor.after_append]
    exact inOrder

theorem close_cursor (reason : String)
    (inOrder : Cursor.after ds.streamId bc.accepted ≠ .violated) :
    Cursor.after ds.streamId (bc.close reason).accepted ≠ .violated := by
  cases closed : bc.closed with
  | true =>
    have same : bc.close reason = bc := by
      unfold BrowserConn.close
      rw [Outbox.close_of_closed closed]
    rwa [same]
  | false =>
    have history : (bc.close reason).accepted = bc.accepted ++ [.close reason] :=
      Outbox.close_accepted_open closed reason
    rw [history, Cursor.after_append]
    exact inOrder

/-- The next frame of the stream keeps a cursor at the present. -/
theorem pushNext_cursor {f : Frame} (belongs : Cursor.Belongs ds.streamId ds.epoch f)
    (next : f.sequence = ds.nextSeq) (positive : 0 < ds.nextSeq)
    (upTo : bc.closed = false → ds.UpTo (Cursor.after ds.streamId bc.accepted))
    (inOrder : Cursor.after ds.streamId bc.accepted ≠ .violated) :
    let pushed := bc.pushFrame ctx conn f
    Cursor.after ds.streamId pushed.1.accepted ≠ .violated ∧
      (pushed.2 = none →
        Cursor.after ds.streamId pushed.1.accepted = .reached ds.epoch ds.nextSeq) := by
  dsimp only
  rcases BrowserConn.pushFrame_spec ctx conn bc f with
    ⟨bc', pushed, wasOpen, -, history⟩ | ⟨bc', pushed, -, -, history⟩ |
    ⟨bc', pushed, -, -, history⟩
  · have moved : Cursor.after ds.streamId bc'.accepted = .reached ds.epoch ds.nextSeq := by
      rw [history, Cursor.after_append, List.foldl_cons, List.foldl_nil]
      rcases upTo wasOpen with isFree | atPresent
      · rw [isFree]
        simp [Cursor.item, Cursor.frame, belongs.data, belongs.stream, belongs.epoch, next]
      · rw [atPresent, Cursor.item_next belongs (by omega), next]
    rw [pushed]
    exact ⟨by rw [moved]; simp, fun _ => moved⟩
  · rw [pushed]
    exact ⟨by rw [history]; exact inOrder, by simp⟩
  · rw [pushed]
    exact ⟨by rw [history]; exact inOrder, by simp⟩

/-- A continuous window puts the cursor at the present. -/
theorem pushReplay_cursor (sound : ds.Sound) (continuous : ds.Continuous)
    (some_ : ds.snapshots ≠ []) (correlation : String)
    (inOrder : Cursor.after ds.streamId bc.accepted ≠ .violated) :
    let pushed := bc.pushReplay ctx conn
      (subscribedEnv ctx.now ds.streamId ds.epoch ds.replayWindow.1 correlation)
      ds.replayWindow.2
    Cursor.after ds.streamId pushed.1.accepted ≠ .violated ∧
      (pushed.2 = true →
        Cursor.after ds.streamId pushed.1.accepted = .reached ds.epoch (ds.nextSeq - 1)) := by
  dsimp only
  have reaches := continuous.cursor sound some_
  unfold BrowserConn.pushReplay
  rcases BrowserConn.pushDirect_spec ctx conn bc
      (subscribedEnv ctx.now ds.streamId ds.epoch ds.replayWindow.1 correlation) with
    ⟨mid, len, pushed, -, -, history⟩ | ⟨mid, pushed, history, -⟩ |
    ⟨mid, reason, pushed, -, -, history⟩
  · rw [pushed]
    have based : Cursor.after ds.streamId mid.accepted = .based ds.epoch ds.replayWindow.1 := by
      rw [history, Cursor.after_append, List.foldl_cons, List.foldl_nil]
      simp [Cursor.item, Cursor.rebase, subscribedEnv, baseEnvelope, carries, isSnapshot,
        batchEvents, inOrder]
    obtain ⟨sent, rest, split, later, -, complete⟩ :=
      BrowserConn.pushFrames_spec ctx conn ds.replayWindow.2 mid
    dsimp only
    rw [later, Cursor.after_append, based]
    constructor
    · -- what was sent of the window is its beginning
      have whole : (sent.map OutItem.frame ++ rest.map OutItem.frame).foldl
          (Cursor.item ds.streamId) (.based ds.epoch ds.replayWindow.1) ≠ .violated := by
        rw [← List.map_append, ← split, reaches]
        simp
      exact Cursor.foldl_of_append whole
    · intro served
      rw [complete.mp served, List.append_nil] at split
      rw [← split, reaches]
  · rw [pushed]
    exact ⟨by rw [history]; exact inOrder, by simp⟩
  · rw [pushed]
    refine ⟨?_, by simp⟩
    rw [history, Cursor.after_append]
    exact inOrder

end Pushes

end AgentConsole.Relay
