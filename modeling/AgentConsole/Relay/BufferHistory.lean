import AgentConsole.Lib.Run
import AgentConsole.Relay.Buffer

/-! # What a buffered frame stands for

`merge_pair` puts one frame in place of two, so a stored frame stands for a list of frames
that were inserted.  `Rewrites` lists what the buffer does to such lists: it drops entries
and merges neighbours.  A snapshot covers upstream batches up to a number; whether
`retain_uncovered` removes only these depends on what the merged frames stand for. -/

namespace AgentConsole.Relay

open AgentConsole.Lib

/-- A stored frame, with the inserted frames it stands for, oldest first. -/
abbrev Stored := Frame × List Frame

/-- A frame that stands for itself. -/
def Frame.stored (f : Frame) : Stored := (f, [f])

/-! ## What the buffer does to its frames -/

inductive Rewrites (codec : Codec) (now : Nat) : List Stored → List Stored → Prop
  | drop {stored later : List Stored} (sub : later.Sublist stored) :
      Rewrites codec now stored later
  | merge {a b merged : Frame} (before after : List Stored) (origins origins' : List Frame)
      (pair : mergePair codec now a b = some merged) :
      Rewrites codec now (before ++ (a, origins) :: (b, origins') :: after)
        (before ++ (merged, origins ++ origins') :: after)
  | trans {stored mid later : List Stored} (first : Rewrites codec now stored mid)
      (rest : Rewrites codec now mid later) : Rewrites codec now stored later

theorem Rewrites.forall_stored {codec : Codec} {now : Nat} {stored later : List Stored}
    {P : Stored → Prop} (rewrites : Rewrites codec now stored later)
    (merges : ∀ a b merged origins origins', P (a, origins) → P (b, origins') →
      mergePair codec now a b = some merged → P (merged, origins ++ origins'))
    (start : ∀ s ∈ stored, P s) : ∀ s ∈ later, P s := by
  induction rewrites with
  | drop sub => exact fun s member => start s (sub.subset member)
  | merge before after origins origins' pair =>
    intro s member
    rcases List.mem_append.mp member with early | late
    · exact start s (List.mem_append_left _ early)
    · rcases List.mem_cons.mp late with rfl | later
      · exact merges _ _ _ _ _ (start _ (by simp)) (start _ (by simp)) pair
      · exact start s (by simp [later])
  | trans first rest early late => exact late (early start)

/-- However the frames `old` came about, `new` comes about from them by rewriting. -/
def Follows (codec : Codec) (now : Nat) (old new : List Frame) : Prop :=
  ∀ stored : List Stored, stored.map Prod.fst = old →
    ∃ later, later.map Prod.fst = new ∧ Rewrites codec now stored later

namespace Follows

variable {codec : Codec} {now : Nat} {old mid new : List Frame}

theorem of_sublist (sub : new.Sublist old) : Follows codec now old new := by
  rintro stored rfl
  obtain ⟨later, kept, same⟩ := List.sublist_map_iff.mp sub
  exact ⟨later, same.symm, .drop kept⟩

theorem of_eq (same : new = old) : Follows codec now old new :=
  of_sublist (same ▸ List.Sublist.refl _)

theorem trans (first : Follows codec now old mid) (rest : Follows codec now mid new) :
    Follows codec now old new := by
  intro stored same
  obtain ⟨between, sameMid, early⟩ := first stored same
  obtain ⟨later, sameNew, late⟩ := rest between sameMid
  exact ⟨later, sameNew, early.trans late⟩

theorem pair {a b merged : Frame} (before after : List Frame)
    (merges : mergePair codec now a b = some merged) :
    Follows codec now (before ++ a :: b :: after) (before ++ merged :: after) := by
  intro stored same
  obtain ⟨front, back, rfl, frontSame, backSame⟩ := List.map_eq_append_iff.mp same
  obtain ⟨⟨a', origins⟩, rest, rfl, rfl, restSame⟩ := List.map_eq_cons_iff.mp backSame
  obtain ⟨⟨b', origins'⟩, tail, rfl, rfl, tailSame⟩ := List.map_eq_cons_iff.mp restSame
  refine ⟨front ++ (merged, origins ++ origins') :: tail, ?_,
    .merge front tail origins origins' merges⟩
  simp [frontSame, tailSame]

theorem mergeAdjacent (done frames : List Frame) :
    Follows codec now (done.reverse ++ frames) (mergeAdjacent codec now done frames) := by
  induction frames generalizing done with
  | nil => exact of_eq (by simp [Relay.mergeAdjacent])
  | cons f rest inductionHypothesis =>
    cases done with
    | nil => exact inductionHypothesis [f]
    | cons prev older =>
      cases merges : mergePair codec now prev f with
      | some merged =>
        simp only [Relay.mergeAdjacent, merges]
        refine trans ?_ (inductionHypothesis (merged :: older))
        have joined : Follows codec now (older.reverse ++ prev :: f :: rest)
            (older.reverse ++ merged :: rest) := pair older.reverse rest merges
        simpa using joined
      | none =>
        simp only [Relay.mergeAdjacent, merges]
        refine trans (of_eq ?_) (inductionHypothesis (f :: prev :: older))
        simp

theorem coalesce (frames : List Frame) :
    Follows codec now frames (coalesce codec now frames).1 :=
  (of_sublist (dropReplaced_sublist frames)).trans (mergeAdjacent [] _)

theorem evict (allowed : FrameKind) (rounds : Nat) (b : StreamBuffer) :
    Follows codec now b.items (b.evict allowed rounds).items := by
  induction rounds generalizing b with
  | zero => exact of_eq rfl
  | succ rounds inductionHypothesis =>
    unfold StreamBuffer.evict
    split
    · exact of_eq rfl
    · split
      · refine trans (of_sublist ?_) (inductionHypothesis _)
        exact List.eraseIdx_sublist _ _
      · exact of_eq rfl

theorem evictAll (allowed : FrameKind) (b : StreamBuffer) {items : List Frame}
    (same : b.items = items) : Follows codec now items (b.evictAll allowed).items :=
  same ▸ evict allowed _ b

theorem store (b : StreamBuffer) (frame : Frame) :
    Follows codec now (b.items ++ [frame]) (b.store codec now frame).items := by
  have appended : Follows codec now (b.items ++ [frame])
      ((b.removeReplaced frame).items ++ [frame]) :=
    of_sublist ((removeReplaced_sublist b frame).append (List.Sublist.refl _))
  unfold StreamBuffer.store
  split
  · next prev last =>
    obtain ⟨older, items⟩ : ∃ older, b.items = older ++ [prev] := by
      rw [List.getLast?_eq_some_iff] at last
      exact last
    split
    · next merged merges =>
      rw [items, List.dropLast_concat]
      have joined : Follows codec now (older ++ [prev, frame]) (older ++ [merged]) :=
        pair older [] merges
      simpa using joined
    · exact appended
  · exact appended

/-- **Insertion** drops frames and merges neighbours. -/
theorem insert (b : StreamBuffer) (frame : Frame) :
    Follows codec now (b.items ++ [frame]) (b.insert codec now frame).1.items := by
  have stored : Follows codec now (b.items ++ [frame])
      ((b.expire now).store codec now frame).items := by
    refine trans (of_sublist ?_) (store (b.expire now) frame)
    exact (expireItems_suffix now b.retention b.items b.bytes).sublist.append (List.Sublist.refl _)
  have merged := stored.trans (coalesce _)
  unfold StreamBuffer.insert
  dsimp only
  split
  · exact stored
  split
  · exact merged
  split
  · exact merged.trans (evictAll .mergeable _ rfl)
  split
  · exact (merged.trans (evictAll .mergeable _ rfl)).trans (evictAll .recoverable _ rfl)
  · exact of_sublist (List.nil_sublist _)

end Follows

/-! ## Histories of a buffer -/

/-- `b` is reached by insertions, retentions and clears, and `stored` says what its frames
stand for. -/
inductive Traced (codec : Codec) : StreamBuffer → List Stored → Prop
  | new (maxEvents maxBytes retention : Nat) :
      Traced codec (.new maxEvents maxBytes retention) []
  | insert {b : StreamBuffer} {stored later : List Stored} (now : Nat) (frame : Frame)
      (traced : Traced codec b stored)
      (rewrites : Rewrites codec now (stored ++ [frame.stored]) later)
      (same : later.map Prod.fst = (b.insert codec now frame).1.items) :
      Traced codec (b.insert codec now frame).1 later
  | retain {b : StreamBuffer} {stored : List Stored} (device : String) (covered : Nat)
      (traced : Traced codec b stored) :
      Traced codec (b.retainUncovered device covered)
        (stored.filter fun s => !(s.1.env.deviceId == device &&
          s.1.upstreamSeq.any fun n => decide (n ≤ covered)))
  | clear {b : StreamBuffer} {stored : List Stored} (traced : Traced codec b stored) :
      Traced codec b.clear []

theorem retainUncovered_items (b : StreamBuffer) (device : String) (covered : Nat) :
    (b.retainUncovered device covered).items = b.items.filter fun f =>
      !(f.env.deviceId == device && f.upstreamSeq.any fun n => decide (n ≤ covered)) := by
  unfold StreamBuffer.retainUncovered
  dsimp only
  split <;> rfl

namespace Traced

variable {codec : Codec} {b : StreamBuffer} {stored : List Stored}

theorem items (traced : Traced codec b stored) : stored.map Prod.fst = b.items := by
  induction traced with
  | new => rfl
  | insert now frame traced rewrites same => exact same
  | retain device covered traced inductionHypothesis =>
    rw [retainUncovered_items, ← inductionHypothesis, List.filter_map]
    rfl
  | clear traced => rfl

/-- What holds of frames that stand for themselves and passes to merged frames, holds of
every stored frame. -/
theorem forall_stored {P : Stored → Prop} (traced : Traced codec b stored)
    (single : ∀ f : Frame, P f.stored)
    (merges : ∀ now a b merged origins origins', P (a, origins) → P (b, origins') →
      mergePair codec now a b = some merged → P (merged, origins ++ origins')) :
    ∀ s ∈ stored, P s := by
  induction traced with
  | new => simp
  | @insert b stored later now frame traced rewrites same inductionHypothesis =>
    have start : ∀ s ∈ stored ++ [frame.stored], P s := by
      intro s member
      rcases List.mem_append.mp member with old | new
      · exact inductionHypothesis s old
      · rw [List.mem_singleton.mp new]
        exact single frame
    exact rewrites.forall_stored (merges now) start
  | retain device covered traced inductionHypothesis =>
    exact fun s member => inductionHypothesis s (List.mem_of_mem_filter member)
  | clear traced => simp

end Traced

/-! ## What a snapshot covers -/

/-- The number of a stored frame is the smallest of those it stands for; a frame that stands
for a batch without number has none. -/
structure Stored.Smallest (s : Stored) : Prop where
  some_ : ∀ n, s.1.upstreamSeq = some n → (∃ o ∈ s.2, o.upstreamSeq = some n) ∧
    ∀ o ∈ s.2, ∃ k, o.upstreamSeq = some k ∧ n ≤ k
  none_ : s.1.upstreamSeq = none → ∃ o ∈ s.2, o.upstreamSeq = none

theorem mergePair_upstreamSeq {codec : Codec} {now : Nat} {a b merged : Frame}
    (merges : mergePair codec now a b = some merged) :
    merged.upstreamSeq = (match a.upstreamSeq, b.upstreamSeq with
      | some n, some k => some (min n k)
      | _, _ => none) := by
  unfold mergePair at merges
  split at merges
  · split at merges
    · cases merges
    · split at merges
      · dsimp only at merges
        split at merges
        · cases merges
        · cases merges
          rfl
      · cases merges
  · cases merges

theorem Stored.Smallest.merge {codec : Codec} {now : Nat} {a b merged : Frame}
    {origins origins' : List Frame} (left : Stored.Smallest (a, origins))
    (right : Stored.Smallest (b, origins')) (merges : mergePair codec now a b = some merged) :
    Stored.Smallest (merged, origins ++ origins') := by
  have number := mergePair_upstreamSeq merges
  cases leftNumber : a.upstreamSeq with
  | none =>
    rw [leftNumber] at number
    refine ⟨fun n same => ?_, fun _ => ?_⟩
    · rw [number] at same
      cases same
    · obtain ⟨o, member, none_⟩ := left.none_ leftNumber
      exact ⟨o, List.mem_append_left _ member, none_⟩
  | some n =>
    cases rightNumber : b.upstreamSeq with
    | none =>
      rw [leftNumber, rightNumber] at number
      refine ⟨fun n same => ?_, fun _ => ?_⟩
      · rw [number] at same
        cases same
      · obtain ⟨o, member, none_⟩ := right.none_ rightNumber
        exact ⟨o, List.mem_append_right _ member, none_⟩
    | some k =>
      rw [leftNumber, rightNumber] at number
      obtain ⟨⟨o, member, own⟩, below⟩ := left.some_ n leftNumber
      obtain ⟨⟨o', member', own'⟩, below'⟩ := right.some_ k rightNumber
      refine ⟨fun least same => ?_, fun none_ => ?_⟩
      · rw [number] at same
        cases same
        constructor
        · rcases Nat.le_total n k with smaller | smaller
          · exact ⟨o, List.mem_append_left _ member, by rw [own, Nat.min_eq_left smaller]⟩
          · exact ⟨o', List.mem_append_right _ member', by rw [own', Nat.min_eq_right smaller]⟩
        · intro o member
          rcases List.mem_append.mp member with early | late
          · obtain ⟨j, numbered, le⟩ := below o early
            exact ⟨j, numbered, (Nat.min_le_left n k).trans le⟩
          · obtain ⟨j, numbered, le⟩ := below' o late
            exact ⟨j, numbered, (Nat.min_le_right n k).trans le⟩
      · rw [number] at none_
        cases none_

theorem Traced.smallest {codec : Codec} {b : StreamBuffer} {stored : List Stored}
    (traced : Traced codec b stored) : ∀ s ∈ stored, s.Smallest := by
  refine traced.forall_stored (fun f => ⟨fun n same => ?_, fun none_ => ?_⟩)
    fun _ _ _ _ _ _ left right merges => left.merge right merges
  · exact ⟨⟨f, List.mem_singleton_self f, same⟩, fun o member => by
      rw [List.mem_singleton.mp member]
      exact ⟨n, same, Nat.le_refl n⟩⟩
  · exact ⟨f, List.mem_singleton_self f, none_⟩

/-- The frame holds content of a batch of `device` up to `covered`, and nothing else. -/
def Frame.isCovered (device : String) (covered : Nat) (f : Frame) : Prop :=
  f.env.deviceId = device ∧ ∃ n, f.upstreamSeq = some n ∧ n ≤ covered

/-- `retain_uncovered` removes only content that the snapshot covers: everything else, newer
batches included, stays. -/
def KeepsNewer (b : StreamBuffer) (stored : List Stored) (device : String) (covered : Nat) :
    Prop :=
  ∀ s ∈ stored, s.1 ∉ (b.retainUncovered device covered).items →
    ∀ o ∈ s.2, o.isCovered device covered

/-- No stored frame of `device` stands for a batch that is covered together with one that is
not, all of them numbered. -/
def Unmixed (stored : List Stored) (device : String) (covered : Nat) : Prop :=
  ∀ s ∈ stored, s.1.env.deviceId = device → (∀ o ∈ s.2, o.upstreamSeq ≠ none) →
    (∃ o ∈ s.2, ∃ n, o.upstreamSeq = some n ∧ n ≤ covered) →
    ∀ o ∈ s.2, o.isCovered device covered

/-- **Snapshot coverage**: `retain_uncovered` keeps what is newer exactly when no merged
frame joins covered content with newer content. -/
theorem retain_keeps_newer_iff {codec : Codec} {b : StreamBuffer} {stored : List Stored}
    (traced : Traced codec b stored) (device : String) (covered : Nat) :
    KeepsNewer b stored device covered ↔ Unmixed stored device covered := by
  have removed (s : Stored) (member : s ∈ stored) :
      s.1 ∉ (b.retainUncovered device covered).items ↔ s.1.isCovered device covered := by
    have present : s.1 ∈ b.items := traced.items ▸ List.mem_map_of_mem member
    rw [retainUncovered_items, List.mem_filter]
    unfold Frame.isCovered
    cases s.1.upstreamSeq with
    | none => simp [present]
    | some n => simp [present]
  unfold KeepsNewer Unmixed
  refine forall₂_congr fun s member => ?_
  rw [removed s member]
  have smallest := traced.smallest s member
  unfold Frame.isCovered
  constructor
  · rintro keeps own numbered ⟨o, origin, n, number, le⟩
    cases least : s.1.upstreamSeq with
    | none =>
      obtain ⟨o', origin', none_⟩ := smallest.none_ least
      exact absurd none_ (numbered o' origin')
    | some k =>
      obtain ⟨j, number', below⟩ := (smallest.some_ k least).2 o origin
      rw [number] at number'
      cases number'
      exact keeps ⟨own, k, least, by omega⟩
  · rintro unmixed ⟨own, n, number, le⟩
    obtain ⟨⟨o, origin, least⟩, above⟩ := smallest.some_ n number
    refine unmixed own (fun o' origin' none_ => ?_) ⟨o, origin, n, least, le⟩
    obtain ⟨k, numbered, -⟩ := above o' origin'
    rw [none_] at numbered
    cases numbered

namespace OutputRun

/-- One byte of output of an item, from the upstream batch `upstream`. -/
def append (sequence offset upstream : Nat) : Frame :=
  let event := Event.outputAppend ⟨some ⟨"item", false⟩, offset, [0], 1⟩
  Frame.withUpstreamSeq .unit 0
    { baseEnvelope 0 "d" (.eventBatch ⟨"s", [⟨none, some event⟩]⟩) with
      streamId := "s", streamEpoch := 1, sequence }
    (classify event).1 ((classify event).2.map (MergeInfo.scoped "s/1/d")) (some upstream)

/-- Two appends from the batches 5 and 6, in one buffer. -/
def buffer : StreamBuffer :=
  ((StreamBuffer.new 9 9 9).insert .unit 0 (append 1 0 5)).1.insert .unit 0 (append 2 1 6) |>.1

/-- The frame they become. -/
def joined : Frame := (mergePair .unit 0 (append 1 0 5) (append 2 1 6)).getD (append 1 0 5)

theorem traced : Traced .unit buffer [(joined, [append 1 0 5, append 2 1 6])] := by
  have pair : mergePair .unit 0 (append 1 0 5) (append 2 1 6) = some joined := by decide +kernel
  have first : Traced .unit ((StreamBuffer.new 9 9 9).insert .unit 0 (append 1 0 5)).1
      [(append 1 0 5).stored] :=
    (Traced.new 9 9 9).insert 0 (append 1 0 5) (.drop (List.Sublist.refl _)) (by decide +kernel)
  exact first.insert 0 (append 2 1 6)
    (.merge [] [] [append 1 0 5] [append 2 1 6] pair) (by decide +kernel)

end OutputRun

open OutputRun in
theorem retain_keeps_newer_iff_both : KeepsNewer buffer
    [(joined, [append 1 0 5, append 2 1 6])] "d" 6 := by
  refine (retain_keeps_newer_iff traced "d" 6).mpr ?_
  intro s member _ _ _ o origin
  rw [List.mem_singleton.mp member] at origin
  rcases List.mem_cons.mp origin with rfl | second
  · exact ⟨rfl, 5, rfl, by omega⟩
  · rw [List.mem_singleton.mp second]
    exact ⟨rfl, 6, rfl, by omega⟩

open OutputRun in
/-- A snapshot that covers batch 5 takes the byte of batch 6 along. -/
theorem retain_removes_newer_byte :
    ¬ ∀ (codec : Codec) (b : StreamBuffer) (stored : List Stored), Traced codec b stored →
      ∀ device covered, KeepsNewer b stored device covered := by
  intro claim
  have keeps := claim .unit _ _ traced "d" 5 _ (List.mem_singleton_self _) (by decide +kernel)
    (append 2 1 6) (by simp)
  obtain ⟨-, n, number, le⟩ := keeps
  cases number
  omega

end AgentConsole.Relay
