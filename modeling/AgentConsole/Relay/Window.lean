import AgentConsole.Lib.Replay
import AgentConsole.Relay.Numbering

/-! # Replay windows

A recovering subscriber is served `full_replay` when the surviving frames have
consecutive numbers up to the present, and else `anchored_replay`: all cached
snapshots, followed by the buffered frames after the newest of them if these
have consecutive numbers up to the present.  This module says which frames a
window holds and how they are numbered. -/

namespace AgentConsole.Relay

open AgentConsole.Lib

/-! ## Consecutive numbers -/

theorem numberedFrom_iff (lo : Nat) (frames : List Frame) :
    DStream.numberedFrom lo frames = true ↔
      frames.map Frame.sequence = List.range' lo frames.length := by
  have shifted : ∀ k, ((frames.zipIdx k).all fun x => x.1.sequence == lo + x.2) = true ↔
      frames.map Frame.sequence = List.range' (lo + k) frames.length := by
    induction frames with
    | nil => simp
    | cons f rest inductionHypothesis =>
      intro k
      rw [List.zipIdx_cons, List.all_cons, Bool.and_eq_true, inductionHypothesis (k + 1),
        List.map_cons, List.length_cons, List.range'_succ, List.cons.injEq, beq_iff_eq,
        Nat.add_assoc lo k 1]
  exact shifted 0

/-- A strictly increasing list of numbers is an interval if it has every number
of the interval and no other. -/
theorem eq_range'_of_mem {numbers : List Nat} {lo len : Nat}
    (increasing : numbers.Pairwise (· < ·))
    (members : ∀ n, n ∈ numbers ↔ lo ≤ n ∧ n < lo + len) : numbers = List.range' lo len :=
  eq_of_strictly_increasing id (by simpa using increasing)
    (by simpa using List.pairwise_lt_range') fun n => (members n).trans List.mem_range'_1.symm

/-- Frames in increasing order that have every number from the first up to `hi`. -/
theorem numbers_of_closed {first : Frame} {rest : List Frame} {hi : Nat}
    (increasing : ((first :: rest).map Frame.sequence).Pairwise (· < ·))
    (below : ∀ f ∈ first :: rest, f.sequence < hi)
    (closed : ∀ n, first.sequence ≤ n → n < hi → ∃ g ∈ first :: rest, g.sequence = n) :
    (first :: rest).map Frame.sequence = List.range' first.sequence (hi - first.sequence) := by
  have firstBelow := below first List.mem_cons_self
  refine eq_range'_of_mem increasing fun n => ⟨fun member => ?_, fun ⟨low, high⟩ => ?_⟩
  · obtain ⟨f, present, rfl⟩ := List.mem_map.mp member
    have bound := below f present
    rcases List.mem_cons.mp present with rfl | later
    · omega
    · have := List.rel_of_pairwise_cons increasing (List.mem_map_of_mem later)
      omega
  · obtain ⟨g, present, rfl⟩ := closed n low (by omega)
    exact List.mem_map_of_mem present

namespace DStream

theorem mem_sortBySequence {frames : List Frame} {f : Frame} :
    f ∈ sortBySequence frames ↔ f ∈ frames :=
  List.mem_insertionSort _

/-- Sorting frames with different numbers. -/
theorem sortBySequence_lt {frames : List Frame} (distinct : (frames.map Frame.sequence).Nodup) :
    ((sortBySequence frames).map Frame.sequence).Pairwise (· < ·) := by
  have perm : (sortBySequence frames).Perm frames := List.perm_insertionSort _ _
  have distinctSorted : ((sortBySequence frames).map Frame.sequence).Nodup :=
    (perm.map Frame.sequence).nodup_iff.mpr distinct
  have sorted : (sortBySequence frames).Pairwise fun a b => a.sequence ≤ b.sequence := by
    have : Std.Total fun a b : Frame => a.sequence ≤ b.sequence :=
      ⟨fun a b => Nat.le_total a.sequence b.sequence⟩
    have : IsTrans Frame fun a b => a.sequence ≤ b.sequence :=
      ⟨fun a b c => Nat.le_trans⟩
    exact List.pairwise_insertionSort _ frames
  have both := (List.pairwise_map.mpr sorted).and distinctSorted
  exact both.imp fun ⟨le, ne⟩ => Nat.lt_of_le_of_ne le ne

variable {ds : DStream}

theorem mem_survivingFrames {f : Frame} :
    f ∈ ds.survivingFrames ↔ f ∈ ds.snapshots ∨ f ∈ ds.buffer.items := by
  rw [survivingFrames, mem_sortBySequence, List.mem_append]

/-- Snapshots and any part of the buffer have different numbers. -/
theorem WellNumbered.distinct (numbered : ds.WellNumbered) {part : List Frame}
    (sub : part.Sublist ds.buffer.items) :
    ((ds.snapshots ++ part).map Frame.sequence).Nodup := by
  rw [List.map_append, List.nodup_append]
  refine ⟨numbered.snapshots_lt.imp Nat.ne_of_lt,
    (numbered.items_lt.sublist (sub.map _)).imp Nat.ne_of_lt, ?_⟩
  intro n left m right same
  obtain ⟨f, snapshot, rfl⟩ := List.mem_map.mp left
  obtain ⟨g, item, rfl⟩ := List.mem_map.mp right
  exact numbered.disjoint f snapshot g (sub.subset item) same

theorem WellNumbered.surviving_lt (numbered : ds.WellNumbered) :
    (ds.survivingFrames.map Frame.sequence).Pairwise (· < ·) :=
  sortBySequence_lt (numbered.distinct (List.Sublist.refl _))

theorem WellNumbered.surviving_range (numbered : ds.WellNumbered) {f : Frame}
    (member : f ∈ ds.survivingFrames) : 1 ≤ f.sequence ∧ f.sequence < ds.nextSeq := by
  rcases mem_survivingFrames.mp member with snapshot | item
  · exact numbered.sequence_range (numbered.snapshots.subset snapshot)
  · exact numbered.item_range item

/-! ## The full window -/

/-- From the oldest surviving frame on, every number survives. -/
def Gapless (ds : DStream) : Prop :=
  ∀ f ∈ ds.survivingFrames, ∀ n, f.sequence ≤ n → n < ds.nextSeq →
    ∃ g ∈ ds.survivingFrames, g.sequence = n

/-- `full_replay` serves all surviving frames, and then they are numbered up to
the present. -/
theorem fullReplay_eq_some {base : Nat} {frames : List Frame}
    (full : ds.fullReplay = some (base, frames)) :
    ∃ first rest, ds.survivingFrames = first :: rest ∧ frames = first :: rest ∧
      base = ds.replayBase first ∧ first.sequence ≤ ds.nextSeq ∧
      frames.map Frame.sequence =
        List.range' first.sequence (ds.nextSeq - first.sequence) := by
  unfold fullReplay at full
  dsimp only at full
  cases surviving : ds.survivingFrames with
  | nil => rw [surviving] at full; cases full
  | cons first rest =>
    rw [surviving] at full
    dsimp only at full
    split at full
    · cases full
    · next span =>
      split at full
      · next numbers =>
        cases full
        have length : (first :: rest).length = ds.nextSeq - first.sequence := by omega
        refine ⟨first, rest, rfl, rfl, rfl, by omega, ?_⟩
        rw [(numberedFrom_iff _ _).mp numbers, length]
      · cases full

/-- Without gaps `full_replay` applies. -/
theorem WellNumbered.fullReplay_of_gapless (numbered : ds.WellNumbered) (gapless : ds.Gapless)
    (nonempty : ds.survivingFrames ≠ []) :
    ∃ base, ds.fullReplay = some (base, ds.survivingFrames) := by
  cases surviving : ds.survivingFrames with
  | nil => exact absurd surviving nonempty
  | cons first rest =>
    have firstMember : first ∈ ds.survivingFrames := surviving ▸ List.mem_cons_self
    have increasing := numbered.surviving_lt
    have firstRange := numbered.surviving_range firstMember
    rw [surviving] at increasing
    have numbers : (first :: rest).map Frame.sequence =
        List.range' first.sequence (ds.nextSeq - first.sequence) :=
      numbers_of_closed increasing
        (fun f member => (numbered.surviving_range (surviving ▸ member)).2)
        (fun n low high => surviving ▸ gapless first firstMember n low high)
    have length : (first :: rest).length = ds.nextSeq - first.sequence := by
      rw [← List.length_map (f := Frame.sequence), numbers, List.length_range']
    have consecutive : numberedFrom first.sequence (first :: rest) = true := by
      rw [numberedFrom_iff, length, numbers]
    refine ⟨ds.replayBase first, ?_⟩
    unfold fullReplay
    rw [surviving]
    dsimp only
    rw [if_neg (by omega), if_pos consecutive]

/-! ## The anchored window -/

/-- The number of the newest cached snapshot, 0 without one. -/
def anchor (ds : DStream) : Nat := ds.latestSnapshotSeq.getD 0

/-- The buffered frames after the newest snapshot. -/
def anchoredTail (ds : DStream) : List Frame :=
  ds.buffer.items.filter fun f => decide (ds.anchor < f.sequence)

/-- The buffer holds every number after the newest snapshot. -/
def TailComplete (ds : DStream) : Prop :=
  ∀ n, ds.anchor < n → n < ds.nextSeq → ∃ g ∈ ds.buffer.items, g.sequence = n

theorem anchoredReplay_cases (ds : DStream) :
    ds.anchoredReplay.2 = sortBySequence (ds.snapshots ++ ds.anchoredTail) ∨
      ds.anchoredReplay.2 = sortBySequence ds.snapshots := by
  unfold anchoredReplay
  dsimp only
  split
  · exact .inl rfl
  · exact .inr (by rw [List.append_nil])

theorem mem_anchoredTail {f : Frame} :
    f ∈ ds.anchoredTail ↔ f ∈ ds.buffer.items ∧ ds.anchor < f.sequence := by
  simp [anchoredTail]

theorem WellNumbered.anchoredTail_numbers (numbered : ds.WellNumbered)
    (complete : ds.TailComplete) :
    ds.anchoredTail.map Frame.sequence =
      List.range' (ds.anchor + 1) (ds.nextSeq - (ds.anchor + 1)) := by
  have increasing : (ds.anchoredTail.map Frame.sequence).Pairwise (· < ·) :=
    numbered.items_lt.sublist (List.filter_sublist.map _)
  refine eq_range'_of_mem increasing fun n => ⟨fun member => ?_, fun ⟨low, high⟩ => ?_⟩
  · obtain ⟨f, present, rfl⟩ := List.mem_map.mp member
    obtain ⟨item, above⟩ := mem_anchoredTail.mp present
    have range := numbered.item_range item
    omega
  · obtain ⟨g, item, rfl⟩ := complete n (by omega) (by omega)
    exact List.mem_map_of_mem (mem_anchoredTail.mpr ⟨item, by omega⟩)

/-- With a complete tail the anchored window takes it in. -/
theorem WellNumbered.anchoredReplay_of_complete (numbered : ds.WellNumbered)
    (complete : ds.TailComplete) :
    ds.anchoredReplay.2 = sortBySequence (ds.snapshots ++ ds.anchoredTail) := by
  have numbers := numbered.anchoredTail_numbers complete
  have length : ds.anchoredTail.length = ds.nextSeq - (ds.anchor + 1) := by
    rw [← List.length_map (f := Frame.sequence), numbers, List.length_range']
  have consecutive : numberedFrom (ds.anchor + 1) ds.anchoredTail = true := by
    rw [numberedFrom_iff, numbers, length]
  unfold anchoredReplay
  dsimp only
  change sortBySequence (ds.snapshots ++ if (ds.anchoredTail.length == ds.nextSeq - (ds.anchor + 1)
    && numberedFrom (ds.anchor + 1) ds.anchoredTail) = true then ds.anchoredTail else []) = _
  rw [if_pos (by simp [length, consecutive])]

/-! ## Any window -/

/-- A window is sorted by number and holds all cached snapshots and part of the
buffer. -/
theorem WellNumbered.window (numbered : ds.WellNumbered) :
    (ds.replayWindow.2.map Frame.sequence).Pairwise (· < ·) ∧
      (∀ f ∈ ds.replayWindow.2, f ∈ ds.snapshots ∨ f ∈ ds.buffer.items) ∧
      ∀ f ∈ ds.snapshots, f ∈ ds.replayWindow.2 := by
  have sorted (part : List Frame) (sub : part.Sublist ds.buffer.items) :
      ((sortBySequence (ds.snapshots ++ part)).map Frame.sequence).Pairwise (· < ·) ∧
      (∀ f ∈ sortBySequence (ds.snapshots ++ part), f ∈ ds.snapshots ∨ f ∈ ds.buffer.items) ∧
      ∀ f ∈ ds.snapshots, f ∈ sortBySequence (ds.snapshots ++ part) := by
    refine ⟨sortBySequence_lt (numbered.distinct sub), fun f member => ?_, fun f member => ?_⟩
    · exact (List.mem_append.mp (mem_sortBySequence.mp member)).imp_right (sub.subset ·)
    · exact mem_sortBySequence.mpr (List.mem_append_left _ member)
  unfold replayWindow
  cases full : ds.fullReplay with
  | some window =>
    obtain ⟨first, rest, surviving, frames, -⟩ := fullReplay_eq_some full
    rw [Option.getD_some, frames, ← surviving]
    exact sorted ds.buffer.items (List.Sublist.refl _)
  | none =>
    rw [Option.getD_none]
    rcases ds.anchoredReplay_cases with withTail | snapshotsOnly
    · rw [withTail]
      exact sorted ds.anchoredTail List.filter_sublist
    · rw [snapshotsOnly]
      simpa using sorted [] (List.nil_sublist _)

end DStream

end AgentConsole.Relay
