import AgentConsole.Relay.BufferHistory
import AgentConsole.Relay.Stream

/-! # The accounts of a buffer

The byte counter of a buffer follows its frames through expiry, replacement, merging and
eviction, an insertion ends within the limits or resets the buffer, and the Critical frames
stay in it, in order, until they expire, a snapshot covers them or the buffer is reset. -/

namespace AgentConsole.Relay

open AgentConsole.Lib

/-! ## The frames that are inserted -/

/-- How the callers of `insert` make a frame: of one classified event, or Critical and never
merged. -/
inductive Frame.Made : Frame → Prop
  | event (codec : Codec) (now : Nat) (env : Envelope) (streamId : String) (sentAt : Option Nat)
      (event : Event) (scope : String) (upstreamSeq : Option Nat)
      (payload : env.payload = some (.eventBatch ⟨streamId, [⟨sentAt, some event⟩]⟩)) :
      Made (Frame.withUpstreamSeq codec now env (classify event).1
        ((classify event).2.map (MergeInfo.scoped scope)) upstreamSeq)
  | critical (codec : Codec) (now : Nat) (env : Envelope) :
      Made (Frame.new codec now env .critical none)

/-- A frame as it is handed to `insert`. -/
structure Entry where
  frame : Frame
  made : frame.Made

/-- Critical events are never merged or replaced. -/
theorem classify_critical (event : Event) :
    (classify event).1 = .critical → (classify event).2 = none := by
  cases event with
  | itemUpsert item =>
    unfold classify
    dsimp only
    split
    · intro critical; cases critical
    · exact fun _ => rfl
    · exact fun _ => rfl
    · intro critical; cases critical
  | _ => simp [classify]

theorem Frame.Made.plain {f : Frame} (made : f.Made) (critical : f.kind = .critical) :
    f.merge = none := by
  cases made with
  | event codec now env streamId sentAt event scope upstreamSeq payload =>
    have none_ := classify_critical event critical
    simp [Frame.withUpstreamSeq, none_]
  | critical codec now env => rfl

/-! ## The byte counter -/

theorem totalBytes_append (left right : List Frame) :
    totalBytes (left ++ right) = totalBytes left + totalBytes right := by
  simp [totalBytes]

theorem totalBytes_eraseIdx {frames : List Frame} {i : Nat} {f : Frame}
    (found : frames[i]? = some f) :
    totalBytes (frames.eraseIdx i) = totalBytes frames - f.bytesLen := by
  obtain ⟨inside, same⟩ := List.getElem?_eq_some_iff.mp found
  have split : frames = frames.take i ++ f :: frames.drop (i + 1) := by
    rw [← same, List.getElem_cons_drop, List.take_append_drop]
  rw [List.eraseIdx_eq_take_drop_succ]
  conv => rhs; rw [split]
  simp only [totalBytes, List.map_append, List.map_cons, List.sum_append, List.sum_cons]
  omega

theorem expireItems_counted (now retention : Nat) (items : List Frame) (bytes : Nat)
    (counted : bytes = totalBytes items) :
    (StreamBuffer.expireItems now retention items bytes).2 =
      totalBytes (StreamBuffer.expireItems now retention items bytes).1 := by
  induction items generalizing bytes with
  | nil => exact counted
  | cons f rest inductionHypothesis =>
    unfold StreamBuffer.expireItems
    split
    · refine inductionHypothesis _ ?_
      rw [counted]
      simp [totalBytes]
    · exact counted

/-- The scan of `coalesce` with its running total. -/
def mergeCounted (codec : Codec) (now : Nat) (done : List Frame) (total : Nat) :
    List Frame → List Frame × Nat
  | [] => (done.reverse, total)
  | f :: rest =>
    match done with
    | [] => mergeCounted codec now [f] (total + f.bytesLen) rest
    | prev :: older =>
      match mergePair codec now prev f with
      | some merged =>
        mergeCounted codec now (merged :: older) (total - prev.bytesLen + merged.bytesLen) rest
      | none => mergeCounted codec now (f :: prev :: older) (total + f.bytesLen) rest

theorem mergeCounted_eq (codec : Codec) (now : Nat) (done frames : List Frame) :
    mergeCounted codec now done (totalBytes done) frames =
      (mergeAdjacent codec now done frames, totalBytes (mergeAdjacent codec now done frames)) := by
  induction frames generalizing done with
  | nil => simp [mergeCounted, mergeAdjacent, totalBytes]
  | cons f rest inductionHypothesis =>
    cases done with
    | nil =>
      have start := inductionHypothesis [f]
      simp only [totalBytes, List.map_cons, List.map_nil, List.sum_cons, List.sum_nil,
        Nat.add_zero] at start
      simpa [mergeCounted, mergeAdjacent, totalBytes] using start
    | cons prev older =>
      cases merges : mergePair codec now prev f with
      | some merged =>
        have next := inductionHypothesis (merged :: older)
        have total : totalBytes (prev :: older) - prev.bytesLen + merged.bytesLen =
            totalBytes (merged :: older) := by
          simp only [totalBytes, List.map_cons, List.sum_cons]
          omega
        simp only [mergeCounted, mergeAdjacent, merges]
        rw [total]
        exact next
      | none =>
        have next := inductionHypothesis (f :: prev :: older)
        have total : totalBytes (prev :: older) + f.bytesLen = totalBytes (f :: prev :: older) := by
          simp only [totalBytes, List.map_cons, List.sum_cons]
          omega
        simp only [mergeCounted, mergeAdjacent, merges]
        rw [total]
        exact next

/-- The running total of `coalesce` never underflows and ends as the sum. -/
theorem coalesce_counted (codec : Codec) (now : Nat) (frames : List Frame) :
    mergeCounted codec now [] 0 (dropReplaced frames) = coalesce codec now frames :=
  mergeCounted_eq codec now [] (dropReplaced frames)

namespace StreamBuffer

/-- The counter is the sum of the sizes. -/
def Counted (b : StreamBuffer) : Prop := b.bytes = totalBytes b.items

variable {b : StreamBuffer} {codec : Codec} {now : Nat}

theorem Counted.erase (counted : b.Counted) (i : Nat) :
    Counted { b with
      items := b.items.eraseIdx i
      bytes := b.bytes - ((b.items[i]?).map Frame.bytesLen).getD 0 } := by
  unfold Counted at counted ⊢
  cases found : b.items[i]? with
  | none =>
    have outside : b.items.length ≤ i := List.getElem?_eq_none_iff.mp found
    simpa [List.eraseIdx_of_length_le outside] using counted
  | some f => simp [totalBytes_eraseIdx found, counted]

theorem Counted.removeReplaced (counted : b.Counted) (frame : Frame) :
    (b.removeReplaced frame).Counted := by
  unfold StreamBuffer.removeReplaced
  split
  · split
    · exact counted.erase _
    · exact counted
  · exact counted

theorem Counted.append (counted : b.Counted) (frame : Frame) :
    Counted { b with items := b.items ++ [frame], bytes := b.bytes + frame.bytesLen } := by
  unfold Counted at counted ⊢
  simp [counted, totalBytes]

theorem Counted.store (counted : b.Counted) (frame : Frame) :
    (b.store codec now frame).Counted := by
  unfold StreamBuffer.store
  split
  · next prev last =>
    split
    · next merged merges =>
      obtain ⟨older, items⟩ : ∃ older, b.items = older ++ [prev] := by
        rw [List.getLast?_eq_some_iff] at last
        exact last
      unfold Counted at counted ⊢
      dsimp only
      rw [counted, items, List.dropLast_concat, totalBytes_append, totalBytes_append]
      simp [totalBytes]
    · exact (counted.removeReplaced frame).append frame
  · exact (counted.removeReplaced frame).append frame

theorem Counted.evict (counted : b.Counted) (allowed : FrameKind) (rounds : Nat) :
    (b.evict allowed rounds).Counted := by
  induction rounds generalizing b with
  | zero => exact counted
  | succ rounds inductionHypothesis =>
    unfold StreamBuffer.evict
    split
    · exact counted
    · split
      · exact inductionHypothesis (counted.erase _)
      · exact counted

theorem Counted.expire (counted : b.Counted) (now : Nat) : (b.expire now).Counted :=
  expireItems_counted now b.retention b.items b.bytes counted

theorem Counted.coalesced (b : StreamBuffer) :
    Counted { b with
      items := (coalesce codec now b.items).1, bytes := (coalesce codec now b.items).2 } :=
  rfl

theorem Counted.insert (counted : b.Counted) (frame : Frame) :
    (b.insert codec now frame).1.Counted := by
  let stored := (b.expire now).store codec now frame
  have merged : Counted { stored with
      items := (coalesce codec now stored.items).1, bytes := (coalesce codec now stored.items).2 } :=
    Counted.coalesced stored
  unfold StreamBuffer.insert
  dsimp only
  split
  · exact (counted.expire now).store frame
  split
  · exact merged
  split
  · exact merged.evict .mergeable _
  split
  · exact (merged.evict .mergeable _).evict .recoverable _
  · rfl

theorem Counted.retainUncovered (counted : b.Counted) (device : String) (covered : Nat) :
    (b.retainUncovered device covered).Counted := by
  unfold StreamBuffer.retainUncovered
  dsimp only
  split
  · rfl
  · next kept =>
    unfold Counted at counted ⊢
    dsimp only
    -- nothing was removed, so the counter is left alone
    have same : (b.items.filter fun f => !(f.env.deviceId == device &&
        f.upstreamSeq.any fun n => decide (n ≤ covered))) = b.items :=
      List.filter_sublist.eq_of_length_le (by omega)
    rw [same]
    exact counted

/-! ## The limits -/

/-- What the buffer is configured with. -/
def limits (b : StreamBuffer) : Nat × Nat × Nat := (b.maxEvents, b.maxBytes, b.retention)

theorem store_limits (b : StreamBuffer) (frame : Frame) :
    (b.store codec now frame).limits = b.limits := by
  have removed : (b.removeReplaced frame).limits = b.limits := by
    unfold StreamBuffer.removeReplaced
    split
    · split <;> rfl
    · rfl
  unfold StreamBuffer.store
  split
  · split
    · rfl
    · exact removed
  · exact removed

theorem evict_limits (allowed : FrameKind) (rounds : Nat) (b : StreamBuffer) :
    (b.evict allowed rounds).limits = b.limits := by
  induction rounds generalizing b with
  | zero => rfl
  | succ rounds inductionHypothesis =>
    unfold StreamBuffer.evict
    split
    · rfl
    · split
      · exact (inductionHypothesis _).trans rfl
      · rfl

theorem insert_limits (b : StreamBuffer) (frame : Frame) :
    (b.insert codec now frame).1.limits = b.limits := by
  have stored : ((b.expire now).store codec now frame).limits = b.limits :=
    (store_limits (b.expire now) frame).trans rfl
  unfold StreamBuffer.insert
  dsimp only
  split
  · exact stored
  split
  · exact stored
  split
  · exact (evict_limits _ _ _).trans stored
  split
  · exact ((evict_limits _ _ _).trans (evict_limits _ _ _)).trans stored
  · exact ((evict_limits _ _ _).trans (evict_limits _ _ _)).trans stored

theorem fits_iff : b.fits = true ↔ b.items.length ≤ b.maxEvents ∧ b.bytes ≤ b.maxBytes := by
  unfold fits
  simp

/-- What an insertion answers: the buffer fits, or it is empty. -/
theorem insert_outcome (b : StreamBuffer) (frame : Frame) :
    ((b.insert codec now frame).2 = .buffered ∧ (b.insert codec now frame).1.fits = true) ∨
      ((b.insert codec now frame).2 = .overflowReset ∧
        (b.insert codec now frame).1.items = [] ∧ (b.insert codec now frame).1.bytes = 0) := by
  unfold StreamBuffer.insert
  dsimp only
  split
  · next fits => exact .inl ⟨rfl, fits⟩
  split
  · next fits => exact .inl ⟨rfl, fits⟩
  split
  · next fits => exact .inl ⟨rfl, fits⟩
  split
  · next fits => exact .inl ⟨rfl, fits⟩
  · exact .inr ⟨rfl, rfl, rfl⟩

end StreamBuffer

/-! ## Critical frames -/

/-- The Critical frames of a list, in order. -/
def criticals (frames : List Frame) : List Frame := frames.filter fun f => f.kind == .critical

/-- Critical frames carry nothing to merge by. -/
def Plain (frames : List Frame) : Prop := ∀ f ∈ frames, f.kind = .critical → f.merge = none

theorem criticals_append (left right : List Frame) :
    criticals (left ++ right) = criticals left ++ criticals right :=
  List.filter_append _ _

theorem criticals_eraseIdx {frames : List Frame} {i : Nat}
    (other : ∀ f, frames[i]? = some f → f.kind ≠ .critical) :
    criticals (frames.eraseIdx i) = criticals frames := by
  cases found : frames[i]? with
  | none => rw [List.eraseIdx_of_length_le (List.getElem?_eq_none_iff.mp found)]
  | some f =>
    obtain ⟨inside, same⟩ := List.getElem?_eq_some_iff.mp found
    have split : frames = frames.take i ++ f :: frames.drop (i + 1) := by
      rw [← same, List.getElem_cons_drop, List.take_append_drop]
    rw [List.eraseIdx_eq_take_drop_succ]
    conv => rhs; rw [split]
    have notCritical := other f found
    simp [criticals, notCritical]

variable {codec : Codec} {now : Nat}

/-- Merged frames are not Critical. -/
theorem mergePair_kinds {a b merged : Frame} (merges : mergePair codec now a b = some merged) :
    a.merge ≠ none ∧ b.merge ≠ none ∧ merged.kind = a.kind := by
  unfold mergePair at merges
  split at merges
  · next left right =>
    split at merges
    · cases merges
    · split at merges
      · dsimp only at merges
        split at merges
        · cases merges
        · cases merges
          exact ⟨by simp [left], by simp [right], rfl⟩
      · cases merges
  · cases merges

theorem criticals_dropReplaced {frames : List Frame} (plain : Plain frames) :
    criticals (dropReplaced frames) = criticals frames := by
  induction frames with
  | nil => rfl
  | cons f rest inductionHypothesis =>
    have later := inductionHypothesis fun g member => plain g (List.mem_cons_of_mem _ member)
    unfold dropReplaced
    split
    · next key merge =>
      have other : f.kind ≠ .critical := by
        intro critical
        rw [plain f List.mem_cons_self critical] at merge
        cases merge
      split
      · simpa [criticals, other] using later
      · simpa [criticals, other] using later
    · unfold criticals at later ⊢
      rw [List.filter_cons, List.filter_cons, later]

theorem criticals_mergeAdjacent (done frames : List Frame)
    (plain : Plain (done.reverse ++ frames)) :
    criticals (mergeAdjacent codec now done frames) = criticals (done.reverse ++ frames) := by
  induction frames generalizing done with
  | nil => simp [mergeAdjacent]
  | cons f rest inductionHypothesis =>
    cases done with
    | nil => exact inductionHypothesis [f] plain
    | cons prev older =>
      cases merges : mergePair codec now prev f with
      | some merged =>
        obtain ⟨left, right, kind⟩ := mergePair_kinds merges
        have prevOther : prev.kind ≠ .critical := fun critical =>
          left (plain prev (by simp) critical)
        have otherOther : f.kind ≠ .critical := fun critical =>
          right (plain f (by simp) critical)
        have mergedOther : merged.kind ≠ .critical := kind ▸ prevOther
        simp only [mergeAdjacent, merges]
        rw [inductionHypothesis (merged :: older)]
        · simp [criticals, prevOther, otherOther, mergedOther]
        · intro g member critical
          simp only [List.reverse_cons, List.append_assoc, List.mem_append, List.mem_reverse,
            List.cons_append, List.nil_append, List.mem_cons] at member
          rcases member with early | rfl | late
          · exact plain g (by simp [early]) critical
          · exact absurd critical mergedOther
          · exact plain g (by simp [late]) critical
      | none =>
        simp only [mergeAdjacent, merges]
        rw [inductionHypothesis (f :: prev :: older)]
        · simp
        · simpa using plain

theorem criticals_coalesce {frames : List Frame} (plain : Plain frames) :
    criticals (coalesce codec now frames).1 = criticals frames := by
  have kept : Plain (dropReplaced frames) := fun f member =>
    plain f ((dropReplaced_sublist frames).subset member)
  exact (criticals_mergeAdjacent [] _ kept).trans (criticals_dropReplaced plain)

theorem criticals_evict {allowed : FrameKind} (notCritical : allowed ≠ .critical) (rounds : Nat)
    (b : StreamBuffer) : criticals (b.evict allowed rounds).items = criticals b.items := by
  induction rounds generalizing b with
  | zero => rfl
  | succ rounds inductionHypothesis =>
    unfold StreamBuffer.evict
    split
    · rfl
    · split
      · next i first =>
        refine (inductionHypothesis _).trans (criticals_eraseIdx fun f found critical => ?_)
        have kind := (List.findIdx?_eq_some_iff_getElem.mp first).2.1
        obtain ⟨inside, same⟩ := List.getElem?_eq_some_iff.mp found
        rw [same, critical] at kind
        exact notCritical (by simpa using kind.symm : FrameKind.critical = allowed).symm
      · rfl

theorem criticals_store {b : StreamBuffer} {frame : Frame} (plain : Plain (b.items ++ [frame])) :
    criticals (b.store codec now frame).items = criticals (b.items ++ [frame]) := by
  have appended :
      criticals ((b.removeReplaced frame).items ++ [frame]) = criticals (b.items ++ [frame]) := by
    rw [criticals_append, criticals_append]
    congr 1
    unfold StreamBuffer.removeReplaced
    split
    · next key merge =>
      split
      · next back first =>
        refine criticals_eraseIdx fun f found critical => ?_
        obtain ⟨inside, replaces, -⟩ := List.findIdx?_eq_some_iff_getElem.mp first
        obtain ⟨inside', same⟩ := List.getElem?_eq_some_iff.mp found
        -- counted from the back, this is the frame that was found
        rw [List.getElem_take, List.getElem_reverse, same] at replaces
        have none_ := plain f (List.mem_append_left _ (same ▸ List.getElem_mem inside')) critical
        simp [Frame.replaces, none_] at replaces
      · rfl
    · rfl
  unfold StreamBuffer.store
  split
  · next prev last =>
    split
    · next merged merges =>
      obtain ⟨older, items⟩ : ∃ older, b.items = older ++ [prev] := by
        rw [List.getLast?_eq_some_iff] at last
        exact last
      obtain ⟨left, right, kind⟩ := mergePair_kinds merges
      have prevOther : prev.kind ≠ .critical := fun critical =>
        left (plain prev (by simp [items]) critical)
      have frameOther : frame.kind ≠ .critical := fun critical =>
        right (plain frame (by simp) critical)
      have mergedOther : merged.kind ≠ .critical := kind ▸ prevOther
      rw [items, List.dropLast_concat]
      simp [criticals, prevOther, frameOther, mergedOther]
    · exact appended
  · exact appended

/-- As long as the buffer is not reset, an insertion keeps every Critical frame that has not
expired. -/
theorem criticals_insert {b : StreamBuffer} {frame : Frame}
    (plain : Plain ((b.expire now).items ++ [frame]))
    (buffered : (b.insert codec now frame).2 = .buffered) :
    criticals (b.insert codec now frame).1.items =
      criticals ((b.expire now).items ++ [frame]) := by
  have stored : criticals ((b.expire now).store codec now frame).items =
      criticals ((b.expire now).items ++ [frame]) := criticals_store plain
  have plainStored : Plain ((b.expire now).store codec now frame).items := by
    refine (store_kept (P := fun f => f.kind = .critical → f.merge = none)
      (fun a b merged left _ merges critical => ?_) (b.expire now) frame).frames plain
    obtain ⟨mergeable, -, kind⟩ := mergePair_kinds merges
    exact absurd (left (kind ▸ critical)) mergeable
  have merged : criticals (coalesce codec now ((b.expire now).store codec now frame).items).1 =
      criticals ((b.expire now).items ++ [frame]) := (criticals_coalesce plainStored).trans stored
  unfold StreamBuffer.insert at buffered ⊢
  dsimp only at buffered ⊢
  split at buffered
  · next fits => rw [if_pos fits]; exact stored
  next full =>
  rw [if_neg full]
  split at buffered
  · next fits => rw [if_pos fits]; exact merged
  next full =>
  rw [if_neg full]
  split at buffered
  · next fits =>
    rw [if_pos fits]
    exact (criticals_evict (by decide) _ _).trans merged
  next full =>
  rw [if_neg full]
  split at buffered
  · next fits =>
    rw [if_pos fits]
    exact ((criticals_evict (by decide) _ _).trans (criticals_evict (by decide) _ _)).trans merged
  · cases buffered

/-- What expires is old, and leaves from the front. -/
theorem expire_front (b : StreamBuffer) (now : Nat) :
    ∃ gone, b.items = gone ++ (b.expire now).items ∧ ∀ f ∈ gone, b.retention < now - f.ts := by
  have front (items : List Frame) (bytes : Nat) : ∃ gone,
      items = gone ++ (StreamBuffer.expireItems now b.retention items bytes).1 ∧
        ∀ f ∈ gone, b.retention < now - f.ts := by
    induction items generalizing bytes with
    | nil => exact ⟨[], rfl, by simp⟩
    | cons f rest inductionHypothesis =>
      unfold StreamBuffer.expireItems
      split
      · next old =>
        obtain ⟨gone, split, olds⟩ := inductionHypothesis (bytes - f.bytesLen)
        refine ⟨f :: gone, by rw [List.cons_append, ← split], fun g member => ?_⟩
        rcases List.mem_cons.mp member with rfl | later
        · exact old
        · exact olds g later
      · exact ⟨[], rfl, by simp⟩
  exact front b.items b.bytes

/-! ## Runs -/

inductive BufferOp where
  | insert (now : Nat) (entry : Entry)
  | expire (now : Nat)
  | retainUncovered (device : String) (covered : Nat)
  | clear

namespace StreamBuffer

/-- One call; `expire` is the loop that `insert` begins with. -/
def step (codec : Codec) (b : StreamBuffer) : BufferOp → StreamBuffer
  | .insert now entry => (b.insert codec now entry.frame).1
  | .expire now => b.expire now
  | .retainUncovered device covered => b.retainUncovered device covered
  | .clear => b.clear

/-- Within the limits, in order, and with every Critical frame that has not expired; or
reset. -/
def Settles (codec : Codec) (now : Nat) (b : StreamBuffer) (frame : Frame) : Prop :=
  ((b.insert codec now frame).2 = .buffered ∧
    (b.insert codec now frame).1.items.length ≤ b.maxEvents ∧
    (b.insert codec now frame).1.bytes ≤ b.maxBytes ∧
    ((b.insert codec now frame).1.items.map Frame.sequence).Sublist
      ((b.items ++ [frame]).map Frame.sequence) ∧
    ∃ gone kept, b.items = gone ++ kept ∧ (∀ f ∈ gone, b.retention < now - f.ts) ∧
      criticals (b.insert codec now frame).1.items = criticals (kept ++ [frame])) ∨
  ((b.insert codec now frame).2 = .overflowReset ∧
    (b.insert codec now frame).1.items = [] ∧ (b.insert codec now frame).1.bytes = 0)

/-- What a call does to the frames. -/
def Settled (codec : Codec) (b : StreamBuffer) : BufferOp → Prop
  | .insert now entry => b.Settles codec now entry.frame
  | .expire now =>
    ∃ gone, b.items = gone ++ (b.expire now).items ∧ ∀ f ∈ gone, b.retention < now - f.ts
  | .retainUncovered device covered =>
    criticals (b.retainUncovered device covered).items = (criticals b.items).filter fun f =>
      !(f.env.deviceId == device && f.upstreamSeq.any fun n => decide (n ≤ covered))
  | .clear => b.clear.items = [] ∧ b.clear.bytes = 0

/-- The counter is right before and after the call, and the call settles. -/
structure Accounts (codec : Codec) (limits : Nat × Nat × Nat) (b : StreamBuffer) (op : BufferOp) :
    Prop where
  before : b.bytes = totalBytes b.items
  after : (b.step codec op).bytes = totalBytes (b.step codec op).items
  configured : (b.maxEvents, b.maxBytes, b.retention) = limits
  settled : b.Settled codec op

/-- What every reachable buffer satisfies. -/
structure Regular (limits : Nat × Nat × Nat) (b : StreamBuffer) : Prop where
  counted : b.Counted
  plain : Plain b.items
  configured : b.limits = limits

variable {codec : Codec} {limits : Nat × Nat × Nat} {b : StreamBuffer}

theorem Regular.step (regular : b.Regular limits) (op : BufferOp) :
    (b.step codec op).Regular limits := by
  have configured := regular.configured
  cases op with
  | insert now entry =>
    refine ⟨regular.counted.insert entry.frame, ?_, (insert_limits b entry.frame).trans configured⟩
    refine insert_frames codec now b entry.frame (fun f => f.kind = .critical → f.merge = none)
      (fun a b merged left _ merges critical => ?_) regular.plain entry.made.plain
    obtain ⟨mergeable, -, kind⟩ := mergePair_kinds merges
    exact absurd (left (kind ▸ critical)) mergeable
  | expire now =>
    refine ⟨regular.counted.expire now, fun f member => regular.plain f ?_, configured⟩
    exact (expireItems_suffix now b.retention b.items b.bytes).subset member
  | retainUncovered device covered =>
    refine ⟨regular.counted.retainUncovered device covered,
      fun f member => regular.plain f ((retainUncovered_sublist b device covered).subset member), ?_⟩
    show (b.retainUncovered device covered).limits = limits
    unfold StreamBuffer.retainUncovered
    dsimp only
    split <;> exact configured
  | clear => exact ⟨rfl, fun f member => (List.not_mem_nil member).elim, configured⟩

theorem Regular.settled (regular : b.Regular limits) (op : BufferOp) : b.Settled codec op := by
  cases op with
  | insert now entry =>
    have same : (b.insert codec now entry.frame).1.limits = b.limits := insert_limits b entry.frame
    rcases @insert_outcome codec now b entry.frame with
      ⟨buffered, fits⟩ | reset
    · obtain ⟨events, bytes⟩ := fits_iff.mp fits
      obtain ⟨maxEvents, others⟩ := Prod.mk.inj same
      obtain ⟨maxBytes, -⟩ := Prod.mk.inj others
      rw [maxEvents] at events
      rw [maxBytes] at bytes
      obtain ⟨gone, split, olds⟩ := expire_front b now
      refine .inl ⟨buffered, events, bytes, insert_numbers codec now b entry.frame,
        gone, (b.expire now).items, split, olds, criticals_insert ?_ buffered⟩
      intro f member
      rcases List.mem_append.mp member with kept | new
      · exact regular.plain f (split ▸ List.mem_append_right _ kept)
      · rw [List.mem_singleton.mp new]
        exact entry.made.plain
    · exact .inr reset
  | expire now => exact expire_front b now
  | retainUncovered device covered =>
    show criticals (b.retainUncovered device covered).items = _
    rw [retainUncovered_items]
    unfold criticals
    rw [List.filter_filter, List.filter_filter]
    exact List.filter_congr fun f _ => Bool.and_comm _ _
  | clear => exact ⟨rfl, rfl⟩

end StreamBuffer

/-- **The accounts of a buffer**: in every run of calls the byte counter is the sum of the
stored sizes, insertions end within the limits or with a reset, and Critical frames only
expire, get covered or go with a reset; the scan of `coalesce` counts without underflow. -/
theorem buffer_accounts (codec : Codec) (maxEvents maxBytes retention : Nat)
    (ops : List BufferOp) :
    Along (StreamBuffer.step codec) (StreamBuffer.Accounts codec (maxEvents, maxBytes, retention))
        (.new maxEvents maxBytes retention) ops ∧
      ∀ now frames, mergeCounted codec now [] 0 (dropReplaced frames) = coalesce codec now frames := by
  refine ⟨?_, coalesce_counted codec⟩
  refine Along.of_preserved (I := StreamBuffer.Regular (maxEvents, maxBytes, retention))
    (fun b op regular => regular.step op) (fun b op regular => ?_) ops ?_
  · exact ⟨regular.counted, (regular.step op).counted, regular.configured, regular.settled op⟩
  · exact ⟨rfl, fun f member => (List.not_mem_nil member).elim, rfl⟩

end AgentConsole.Relay
