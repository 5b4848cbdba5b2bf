import AgentConsole.Relay.Protocol

/-! # Frames and the replay buffer of a stream

`classify` gives an event its priority and, for the kinds that may be merged,
a merge key.  A `StreamBuffer` holds the recent frames of one downstream
stream under three limits (age, count, bytes).  On `insert` it drops expired
frames, merges contiguous output, replaces older values of the same key and,
under pressure, evicts Mergeable and then Recoverable frames; when only
Critical frames are left and the limits are still exceeded, the whole buffer is
reset. -/

namespace AgentConsole.Relay

inductive FrameKind where
  | critical
  | recoverable
  | mergeable
deriving DecidableEq

inductive MergeInfo where
  | outputAppend (key : String) (offset len : Nat)
  | replaceLatest (key : String)
deriving DecidableEq

/-- `MergeInfo::scoped`: the merge key is only compared inside one stream,
epoch and device. -/
def MergeInfo.scoped (scope : String) : MergeInfo → MergeInfo
  | .outputAppend key offset len => .outputAppend (scope ++ "/" ++ key) offset len
  | .replaceLatest key => .replaceLatest (scope ++ "/" ++ key)

/-- A numbered frame of a downstream stream.  `upstreamSeq` is the number of
the upstream batch it came from, `none` for snapshots and local presence. -/
structure Frame where
  env : Envelope
  kind : FrameKind
  merge : Option MergeInfo
  upstreamSeq : Option Nat
  ts : Nat
  bytesLen : Nat
deriving DecidableEq

/-- `Frame::with_upstream_seq`. -/
def Frame.withUpstreamSeq (codec : Codec) (now : Nat) (env : Envelope) (kind : FrameKind)
    (merge : Option MergeInfo) (upstreamSeq : Option Nat) : Frame :=
  { env, kind, merge, upstreamSeq, ts := now, bytesLen := codec.envelopeLen env }

/-- `Frame::new`. -/
def Frame.new (codec : Codec) (now : Nat) (env : Envelope) (kind : FrameKind)
    (merge : Option MergeInfo) : Frame :=
  Frame.withUpstreamSeq codec now env kind merge none

def Frame.sequence (f : Frame) : Nat := f.env.sequence

def classify : Event → FrameKind × Option MergeInfo
  | .turnLifecycle _ | .sessionSummaryChanged _ | .pendingAttentionAdded _
  | .pendingAttentionRemoved _ | .queueStateChanged _ => (.critical, none)
  | .devicePresenceChanged presence =>
    (.mergeable, some (.replaceLatest
      ("presence:" ++ (presence.map DevicePresence.deviceId).getD "")))
  | .capabilityChanged _ => (.recoverable, some (.replaceLatest "capability"))
  | .backgroundCommandChanged command =>
    (.recoverable, some (.replaceLatest
      ("bg:" ++ (command.map BackgroundCommand.commandId).getD "")))
  | .itemUpsert item =>
    let itemKey := ((item.bind Item.itemId).map ItemId.id).getD ""
    match item.bind Item.content with
    | some (.tokenUsage _) => (.mergeable, some (.replaceLatest ("token:" ++ itemKey)))
    | some (.question _) | some (.approval _) => (.critical, none)
    | _ => (.recoverable, none)
  | .outputAppend a =>
    (.mergeable, some (.outputAppend
      ("out:" ++ (a.itemId.map ItemId.id).getD "" ++ ":" ++ toString a.channel)
      a.expectedOffset a.bytes.length))
  | .outputReplace _ | .outputFinal _ => (.recoverable, none)

/-! ## Merging two frames -/

/-- The output append carried by the last event of an event batch. -/
def lastAppend? (env : Envelope) : Option OutputAppend :=
  match env.payload with
  | some (.eventBatch batch) =>
    match batch.events.getLast? with
    | some ⟨_, some (.outputAppend app)⟩ => some app
    | _ => none
  | _ => none

/-- The envelope with `app` in place of its last event. -/
def withLastAppend (env : Envelope) (app : OutputAppend) : Envelope :=
  match env.payload with
  | some (.eventBatch batch) =>
    match batch.events.getLast? with
    | some last =>
      { env with
        payload := some (.eventBatch { batch with
          events := batch.events.dropLast ++ [{ last with event := some (.outputAppend app) }] }) }
    | none => env
  | _ => env

/-- `merge_pair`: two adjacent output appends of one key with contiguous
offsets become one frame, unless the result would exceed the frame limit. -/
def mergePair (codec : Codec) (now : Nat) (a b : Frame) : Option Frame :=
  match a.merge, b.merge with
  | some (.outputAppend ka oa la), some (.outputAppend kb ob lb) =>
    -- `oa + la` is a `u64` sum and wraps
    if ka ≠ kb ∨ (oa + la) % 2 ^ 64 ≠ ob then none
    else
      match lastAppend? a.env, lastAppend? b.env with
      | some appA, some appB =>
        let env := withLastAppend a.env { appA with bytes := appA.bytes ++ appB.bytes }
        if maxFrameBytes < codec.envelopeLen env then none
        else
          let upstreamSeq :=
            match a.upstreamSeq, b.upstreamSeq with
            | some sa, some sb => some (min sa sb)
            | _, _ => none
          some (Frame.withUpstreamSeq codec now env a.kind
            (some (.outputAppend ka oa (la + lb))) upstreamSeq)
      | _, _ => none
  | _, _ => none

/-- `f` is a `ReplaceLatest` frame of key `key`. -/
def Frame.replaces (key : String) (f : Frame) : Bool :=
  f.merge == some (.replaceLatest key)

def replaceWindow : Nat := 64

/-- First half of `coalesce`: a `ReplaceLatest` frame goes when one of the next
64 frames has its key. -/
def dropReplaced : List Frame → List Frame
  | [] => []
  | f :: rest =>
    match f.merge with
    | some (.replaceLatest key) =>
      if (rest.take replaceWindow).any (Frame.replaces key) then dropReplaced rest
      else f :: dropReplaced rest
    | _ => f :: dropReplaced rest

/-- Second half of `coalesce`: merge each frame into its predecessor where
possible; `done` is the result so far, newest first. -/
def mergeAdjacent (codec : Codec) (now : Nat) (done : List Frame) : List Frame → List Frame
  | [] => done.reverse
  | f :: rest =>
    match done with
    | [] => mergeAdjacent codec now [f] rest
    | prev :: older =>
      match mergePair codec now prev f with
      | some merged => mergeAdjacent codec now (merged :: older) rest
      | none => mergeAdjacent codec now (f :: prev :: older) rest

def totalBytes (frames : List Frame) : Nat := (frames.map Frame.bytesLen).sum

/-- `coalesce`; it recomputes the byte count of what it keeps. -/
def coalesce (codec : Codec) (now : Nat) (frames : List Frame) : List Frame × Nat :=
  let kept := mergeAdjacent codec now [] (dropReplaced frames)
  (kept, totalBytes kept)

/-! ## The buffer -/

structure StreamBuffer where
  items : List Frame
  bytes : Nat
  maxEvents : Nat
  maxBytes : Nat
  retention : Nat

inductive InsertOutcome where
  | buffered
  | overflowReset
deriving DecidableEq

namespace StreamBuffer

def new (maxEvents maxBytes retention : Nat) : StreamBuffer :=
  { items := [], bytes := 0, maxEvents, maxBytes, retention }

/-- Pop the frames at the front that are older than the retention time. -/
def expireItems (now retention : Nat) : List Frame → Nat → List Frame × Nat
  | [], bytes => ([], bytes)
  | f :: rest, bytes =>
    if retention < now - f.ts then expireItems now retention rest (bytes - f.bytesLen)
    else (f :: rest, bytes)

def expire (now : Nat) (b : StreamBuffer) : StreamBuffer :=
  let (items, bytes) := expireItems now b.retention b.items b.bytes
  { b with items, bytes }

/-- Remove the newest of the last 32 frames that `frame` replaces. -/
def removeReplaced (b : StreamBuffer) (frame : Frame) : StreamBuffer :=
  match frame.merge with
  | some (.replaceLatest key) =>
    match (b.items.reverse.take 32).findIdx? (Frame.replaces key) with
    | some back =>
      let pos := b.items.length - 1 - back
      { b with
        items := b.items.eraseIdx pos
        bytes := b.bytes - ((b.items[pos]?).map Frame.bytesLen).getD 0 }
    | none => b
  | _ => b

/-- Merge `frame` into the tail of the buffer or append it. -/
def store (codec : Codec) (now : Nat) (b : StreamBuffer) (frame : Frame) : StreamBuffer :=
  match b.items.getLast? with
  | some prev =>
    match mergePair codec now prev frame with
    | some merged =>
      { b with
        items := b.items.dropLast ++ [merged]
        bytes := b.bytes - prev.bytesLen + merged.bytesLen }
    | none =>
      let b := b.removeReplaced frame
      { b with items := b.items ++ [frame], bytes := b.bytes + frame.bytesLen }
  | none =>
    let b := b.removeReplaced frame
    { b with items := b.items ++ [frame], bytes := b.bytes + frame.bytesLen }

def fits (b : StreamBuffer) : Bool :=
  decide (b.items.length ≤ b.maxEvents) && decide (b.bytes ≤ b.maxBytes)

/-- Evict the oldest frames of kind `allowed` while the limits are exceeded.
Each round removes one frame, so the item count bounds the rounds. -/
def evict (allowed : FrameKind) : Nat → StreamBuffer → StreamBuffer
  | 0, b => b
  | rounds + 1, b =>
    if b.fits then b
    else
      match b.items.findIdx? (fun f => f.kind == allowed) with
      | some i =>
        evict allowed rounds
          { b with
            items := b.items.eraseIdx i
            bytes := b.bytes - ((b.items[i]?).map Frame.bytesLen).getD 0 }
      | none => b

def evictAll (allowed : FrameKind) (b : StreamBuffer) : StreamBuffer :=
  b.evict allowed b.items.length

def clear (b : StreamBuffer) : StreamBuffer := { b with items := [], bytes := 0 }

/-- `StreamBuffer::insert`. -/
def insert (codec : Codec) (now : Nat) (b : StreamBuffer) (frame : Frame) :
    StreamBuffer × InsertOutcome :=
  let b := (b.expire now).store codec now frame
  if b.fits then (b, .buffered)
  else
    let (items, bytes) := coalesce codec now b.items
    let b := { b with items, bytes }
    if b.fits then (b, .buffered)
    else
      let b := b.evictAll .mergeable
      if b.fits then (b, .buffered)
      else
        let b := b.evictAll .recoverable
        if b.fits then (b, .buffered)
        else (b.clear, .overflowReset)

/-- `retain_uncovered`: drop the frames of `device` that a snapshot covering
upstream batches up to `covered` already contains. -/
def retainUncovered (b : StreamBuffer) (device : String) (covered : Nat) : StreamBuffer :=
  let items := b.items.filter fun f =>
    !(f.env.deviceId == device && f.upstreamSeq.any (fun s => decide (s ≤ covered)))
  if items.length < b.items.length then { b with items, bytes := totalBytes items }
  else { b with items }

end StreamBuffer

/-! ## What the operations keep

Whatever the buffer does, its frames are old ones, the new one, or merges of
such, and their numbers are a sublist of the old numbers followed by the new
one.  `Kept old new` is that relation; `P` ranges over properties of frames that
merging preserves. -/

theorem withLastAppend_sequence (env : Envelope) (app : OutputAppend) :
    (withLastAppend env app).sequence = env.sequence := by
  unfold withLastAppend
  split
  · split <;> rfl
  · rfl

theorem mergePair_sequence {codec : Codec} {now : Nat} {a b merged : Frame}
    (merge : mergePair codec now a b = some merged) : merged.sequence = a.sequence := by
  unfold mergePair at merge
  split at merge
  · split at merge
    · cases merge
    · split at merge
      · dsimp only at merge
        split at merge
        · cases merge
        · cases merge
          exact withLastAppend_sequence _ _
      · cases merge
  · cases merge

section Kept

variable {P : Frame → Prop}

/-- Every property in `P` passes from `old` to `new`, and the numbers of `new`
are a sublist of those of `old`. -/
structure Kept (P : Frame → Prop) (old new : List Frame) : Prop where
  frames : (∀ f ∈ old, P f) → ∀ f ∈ new, P f
  numbers : (new.map Frame.sequence).Sublist (old.map Frame.sequence)

theorem Kept.of_sublist {old new : List Frame} (sub : new.Sublist old) : Kept P old new :=
  ⟨fun all f member => all f (sub.subset member), sub.map _⟩

theorem Kept.trans {old mid new : List Frame} (first : Kept P old mid) (rest : Kept P mid new) :
    Kept P old new :=
  ⟨fun all => rest.frames (first.frames all), rest.numbers.trans first.numbers⟩

theorem expireItems_suffix (now retention : Nat) (items : List Frame) (bytes : Nat) :
    (StreamBuffer.expireItems now retention items bytes).1 <:+ items := by
  induction items generalizing bytes with
  | nil => exact List.suffix_refl _
  | cons f rest inductionHypothesis =>
    unfold StreamBuffer.expireItems
    split
    · exact (inductionHypothesis _).trans (List.suffix_cons f rest)
    · exact List.suffix_refl _

theorem dropReplaced_sublist (frames : List Frame) : (dropReplaced frames).Sublist frames := by
  induction frames with
  | nil => exact List.Sublist.refl _
  | cons f rest inductionHypothesis =>
    unfold dropReplaced
    split
    · split
      · exact inductionHypothesis.cons f
      · exact inductionHypothesis.cons_cons f
    · exact inductionHypothesis.cons_cons f

variable {codec : Codec} {now : Nat}
  (merges : ∀ a b m, P a → P b → mergePair codec now a b = some m → P m)
include merges

theorem mergeAdjacent_kept (done frames : List Frame) :
    Kept P (done.reverse ++ frames) (mergeAdjacent codec now done frames) := by
  induction frames generalizing done with
  | nil =>
    rw [List.append_nil]
    exact Kept.of_sublist (List.Sublist.refl _)
  | cons f rest inductionHypothesis =>
    cases done with
    | nil => exact inductionHypothesis [f]
    | cons prev older =>
      cases pair : mergePair codec now prev f with
      | some merged =>
        simp only [mergeAdjacent, pair]
        refine Kept.trans ⟨?_, ?_⟩ (inductionHypothesis (merged :: older))
        · intro all g member
          simp only [List.reverse_cons, List.append_assoc, List.mem_append, List.mem_reverse,
            List.mem_singleton] at member
          rcases member with old | rfl | later
          · exact all g (by simp [old])
          · exact merges prev f g (all prev (by simp)) (all f (by simp)) pair
          · exact all g (by simp [later])
        · -- the merged frame keeps the number of `prev`, that of `f` goes
          simp only [List.reverse_cons, List.append_assoc, List.map_append, List.map_cons,
            List.nil_append, List.cons_append, mergePair_sequence pair]
          exact (List.Sublist.refl _).append ((List.sublist_cons_self _ _).cons_cons _)
      | none =>
        simp only [mergeAdjacent, pair]
        refine Kept.trans (Kept.of_sublist ?_) (inductionHypothesis (f :: prev :: older))
        simp

omit merges in
theorem evict_kept (allowed : FrameKind) (rounds : Nat) (b : StreamBuffer) :
    Kept P b.items (b.evict allowed rounds).items := by
  induction rounds generalizing b with
  | zero => exact Kept.of_sublist (List.Sublist.refl _)
  | succ rounds inductionHypothesis =>
    unfold StreamBuffer.evict
    split
    · exact Kept.of_sublist (List.Sublist.refl _)
    · split
      · refine Kept.trans (Kept.of_sublist ?_) (inductionHypothesis _)
        exact List.eraseIdx_sublist _ _
      · exact Kept.of_sublist (List.Sublist.refl _)

omit merges in
theorem evictAll_kept (allowed : FrameKind) (b : StreamBuffer) {items : List Frame}
    (same : b.items = items) : Kept P items (b.evictAll allowed).items :=
  same ▸ evict_kept allowed _ b

theorem coalesce_kept (frames : List Frame) : Kept P frames (coalesce codec now frames).1 :=
  (Kept.of_sublist (dropReplaced_sublist frames)).trans (mergeAdjacent_kept merges [] _)

omit merges in
theorem removeReplaced_sublist (b : StreamBuffer) (frame : Frame) :
    (b.removeReplaced frame).items.Sublist b.items := by
  unfold StreamBuffer.removeReplaced
  split
  · split
    · exact List.eraseIdx_sublist _ _
    · exact List.Sublist.refl _
  · exact List.Sublist.refl _

theorem store_kept (b : StreamBuffer) (frame : Frame) :
    Kept P (b.items ++ [frame]) (b.store codec now frame).items := by
  have appended : Kept P (b.items ++ [frame]) ((b.removeReplaced frame).items ++ [frame]) :=
    Kept.of_sublist ((removeReplaced_sublist b frame).append (List.Sublist.refl _))
  unfold StreamBuffer.store
  split
  · next prev last =>
    obtain ⟨older, items⟩ : ∃ older, b.items = older ++ [prev] := by
      rw [List.getLast?_eq_some_iff] at last
      exact last
    split
    · next merged pair =>
      rw [items, List.dropLast_concat]
      refine ⟨fun all f member => ?_, ?_⟩
      · rcases List.mem_append.mp member with old | new
        · exact all f (by simp [old])
        · rw [List.mem_singleton.mp new]
          exact merges prev frame merged (all prev (by simp)) (all frame (by simp)) pair
      · simp only [List.map_append, List.map_cons, List.map_nil, mergePair_sequence pair]
        exact List.sublist_append_left _ _
    · exact appended
  · exact appended

/-- **Insertion**: every frame kept afterwards has the properties all frames had
before, and the numbers are old ones or the new one, in order. -/
theorem insert_kept (b : StreamBuffer) (frame : Frame) :
    Kept P (b.items ++ [frame]) (b.insert codec now frame).1.items := by
  have stored : Kept P (b.items ++ [frame]) ((b.expire now).store codec now frame).items := by
    refine Kept.trans (Kept.of_sublist ?_) (store_kept merges (b.expire now) frame)
    exact (expireItems_suffix now b.retention b.items b.bytes).sublist.append (List.Sublist.refl _)
  have merged := stored.trans (coalesce_kept merges _)
  unfold StreamBuffer.insert
  dsimp only
  split
  · exact stored
  split
  · exact merged
  split
  · exact merged.trans (evictAll_kept .mergeable _ rfl)
  split
  · exact (merged.trans (evictAll_kept .mergeable _ rfl)).trans (evictAll_kept .recoverable _ rfl)
  · exact Kept.of_sublist (List.nil_sublist _)

end Kept

theorem insert_numbers (codec : Codec) (now : Nat) (b : StreamBuffer) (frame : Frame) :
    ((b.insert codec now frame).1.items.map Frame.sequence).Sublist
      ((b.items ++ [frame]).map Frame.sequence) :=
  (insert_kept (P := fun _ => True) (fun _ _ _ _ _ _ => trivial) b frame).numbers

/-- A property of frames that merging preserves holds of the whole buffer after
an insertion if it held of all frames before and of the new one. -/
theorem insert_frames (codec : Codec) (now : Nat) (b : StreamBuffer) (frame : Frame)
    (P : Frame → Prop) (merges : ∀ a b m, P a → P b → mergePair codec now a b = some m → P m)
    (old : ∀ f ∈ b.items, P f) (new : P frame) :
    ∀ f ∈ (b.insert codec now frame).1.items, P f := by
  refine (insert_kept merges b frame).frames fun f member => ?_
  rcases List.mem_append.mp member with present | added
  · exact old f present
  · exact List.mem_singleton.mp added ▸ new

theorem retainUncovered_sublist (b : StreamBuffer) (device : String) (covered : Nat) :
    (b.retainUncovered device covered).items.Sublist b.items := by
  unfold StreamBuffer.retainUncovered
  dsimp only
  split <;> exact List.filter_sublist

end AgentConsole.Relay
