import AgentConsole.Lib.Run
import AgentConsole.Relay.Moves

/-! # Numbers of a downstream stream

A stream numbers its frames 1, 2, 3, … without gaps.  What it still holds of
them, the cached snapshots and the buffered frames, keeps these numbers: the
snapshots are a sublist of the log, and the numbers of the buffer are a sublist
of the log's numbers, whatever was merged, replaced, expired or evicted. -/

namespace AgentConsole.Relay

open AgentConsole.Lib

structure DStream.WellNumbered (ds : DStream) : Prop where
  log : ds.log.map Frame.sequence = List.range' 1 ds.log.length
  nextSeq : ds.nextSeq = ds.log.length + 1
  snapshots : ds.snapshots.Sublist ds.log
  items : (ds.buffer.items.map Frame.sequence).Sublist (ds.log.map Frame.sequence)
  disjoint : ∀ f ∈ ds.snapshots, ∀ g ∈ ds.buffer.items, f.sequence ≠ g.sequence

namespace DStream.WellNumbered

variable {ds ds' : DStream}

theorem new (key : DKey) (fresh : Uuid) : (DStream.new key fresh).WellNumbered where
  log := rfl
  nextSeq := rfl
  snapshots := List.Sublist.refl _
  items := List.Sublist.refl _
  disjoint := by simp [DStream.new]

/-- Numbers of the log grow. -/
theorem log_lt (numbered : ds.WellNumbered) :
    (ds.log.map Frame.sequence).Pairwise (· < ·) := by
  rw [numbered.log]
  exact List.pairwise_lt_range'

theorem items_lt (numbered : ds.WellNumbered) :
    (ds.buffer.items.map Frame.sequence).Pairwise (· < ·) :=
  numbered.log_lt.sublist numbered.items

theorem snapshots_lt (numbered : ds.WellNumbered) :
    (ds.snapshots.map Frame.sequence).Pairwise (· < ·) :=
  numbered.log_lt.sublist (numbered.snapshots.map _)

theorem mem_log_range (numbered : ds.WellNumbered) {n : Nat} :
    n ∈ ds.log.map Frame.sequence ↔ 1 ≤ n ∧ n < ds.nextSeq := by
  rw [numbered.log, numbered.nextSeq, List.mem_range'_1]
  omega

theorem sequence_range (numbered : ds.WellNumbered) {f : Frame} (member : f ∈ ds.log) :
    1 ≤ f.sequence ∧ f.sequence < ds.nextSeq :=
  numbered.mem_log_range.mp (List.mem_map_of_mem member)

theorem item_range (numbered : ds.WellNumbered) {f : Frame} (member : f ∈ ds.buffer.items) :
    1 ≤ f.sequence ∧ f.sequence < ds.nextSeq :=
  numbered.mem_log_range.mp (numbered.items.subset (List.mem_map_of_mem member))

/-- A frame of the log is known by its number. -/
theorem eq_of_sequence (numbered : ds.WellNumbered) {f g : Frame} (left : f ∈ ds.log)
    (right : g ∈ ds.log) (same : f.sequence = g.sequence) : f = g := by
  have nodup : (ds.log.map Frame.sequence).Nodup :=
    numbered.log_lt.imp Nat.ne_of_lt
  exact List.inj_on_of_nodup_map nodup left right same

/-- The log after one more frame. -/
theorem log_append (numbered : ds.WellNumbered) {frame : Frame}
    (next : frame.sequence = ds.nextSeq) :
    (ds.log ++ [frame]).map Frame.sequence = List.range' 1 (ds.log ++ [frame]).length := by
  rw [List.map_append, numbered.log, List.length_append, List.length_singleton,
    List.range'_1_concat, List.map_singleton, next, numbered.nextSeq, Nat.add_comm 1]

/-- Numbering one more event keeps everything in place. -/
theorem number (numbered : ds.WellNumbered) (ctx : Ctx) {frame : Frame}
    (next : frame.sequence = ds.nextSeq) : (ds.number ctx frame).1.WellNumbered where
  log := numbered.log_append next
  nextSeq := by simp [DStream.number, numbered.nextSeq]
  snapshots := numbered.snapshots.trans (List.sublist_append_left _ _)
  items := by
    refine (insert_numbers ctx.codec ctx.now ds.buffer frame).trans ?_
    rw [List.map_append, DStream.number, List.map_append]
    exact numbered.items.append (List.Sublist.refl _)
  disjoint := by
    intro f snapshot g member same
    have number := (insert_numbers ctx.codec ctx.now ds.buffer frame).subset
      (List.mem_map_of_mem member)
    rw [List.map_append, List.mem_append] at number
    rcases number with old | new
    · obtain ⟨item, present, sequence⟩ := List.mem_map.mp old
      exact numbered.disjoint f snapshot item present (same.trans sequence.symm)
    · -- the new number is above those of all cached snapshots
      have below := (numbered.sequence_range (numbered.snapshots.subset snapshot)).2
      simp only [List.map_cons, List.map_nil, List.mem_singleton] at new
      omega

theorem cacheSnapshot_sublist (ds : DStream) (frame : Frame) :
    (ds.cacheSnapshot frame).snapshots.Sublist (ds.snapshots ++ [frame]) := by
  unfold DStream.cacheSnapshot
  exact (List.drop_sublist _ _).trans (List.filter_sublist.append (List.Sublist.refl _))

theorem orderSnapshot (numbered : ds.WellNumbered) (ctx : Ctx) (uid : String)
    (b : UpstreamBinding) (env : Envelope) :
    (ds.orderSnapshot ctx uid b env).WellNumbered where
  log := numbered.log_append rfl
  nextSeq := by simp [DStream.orderSnapshot, DStream.cacheSnapshot, numbered.nextSeq]
  snapshots := (cacheSnapshot_sublist _ _).trans
    (numbered.snapshots.append (List.Sublist.refl _))
  items := by
    refine ((retainUncovered_sublist ds.buffer _ _).map _).trans ?_
    exact numbered.items.trans ((List.sublist_append_left _ _).map _)
  disjoint := by
    intro f snapshot g member same
    have present := (retainUncovered_sublist ds.buffer _ _).subset member
    rcases List.mem_append.mp ((cacheSnapshot_sublist _ _).subset snapshot) with old | new
    · exact numbered.disjoint f old g present same
    · have below := (numbered.item_range present).2
      rw [List.mem_singleton.mp new] at same
      have : (ds.snapshotFrame ctx env).sequence = ds.nextSeq := rfl
      omega

theorem clearCache (numbered : ds.WellNumbered) : ds.clearCache.WellNumbered where
  log := numbered.log
  nextSeq := numbered.nextSeq
  snapshots := List.nil_sublist _
  items := List.nil_sublist _
  disjoint := by simp [DStream.clearCache]

/-- Every move keeps the numbers. -/
theorem move (numbered : ds.WellNumbered) {ctx : Ctx} {m : Move} (does : m.Does ctx ds ds') :
    ds'.WellNumbered := by
  obtain ⟨log, nextSeq, snapshots, items, disjoint⟩ := numbered
  cases m with
  | resubscribe => obtain ⟨subs, rfl⟩ := does; exact ⟨log, nextSeq, snapshots, items, disjoint⟩
  | clear => cases does; exact clearCache ⟨log, nextSeq, snapshots, items, disjoint⟩
  | advance => obtain ⟨-, -, rfl⟩ := does; exact ⟨log, nextSeq, snapshots, items, disjoint⟩
  | rebind added => obtain ⟨ups, -, rfl⟩ := does; exact ⟨log, nextSeq, snapshots, items, disjoint⟩
  | announce uid sub =>
    obtain ⟨b, -, rfl⟩ := does
    exact ⟨log, nextSeq, snapshots, items, disjoint⟩
  | watermark uid sequence =>
    obtain ⟨b, -, rfl⟩ := does
    exact ⟨log, nextSeq, snapshots, items, disjoint⟩
  | stash batch =>
    obtain ⟨-, rfl⟩ := does
    obtain ⟨_, _, _, same⟩ := DStream.pushPending_frame ctx.codec ds batch
    rw [same]
    exact ⟨log, nextSeq, snapshots, items, disjoint⟩
  | event env e => cases does; exact number ⟨log, nextSeq, snapshots, items, disjoint⟩ ctx rfl
  | presence device online =>
    cases does
    exact number ⟨log, nextSeq, snapshots, items, disjoint⟩ ctx rfl
  | snapshot uid env =>
    obtain ⟨b, -, rfl⟩ := does
    exact orderSnapshot ⟨log, nextSeq, snapshots, items, disjoint⟩ ctx uid b env

end DStream.WellNumbered

/-- All streams are well numbered. -/
def HubInner.WellNumbered (h : HubInner) : Prop :=
  ∀ key ds, h.streams.get? key = some ds → ds.WellNumbered

theorem HubInner.WellNumbered.new : HubInner.new.WellNumbered := by
  simp [HubInner.WellNumbered, HubInner.new]

theorem HubInner.WellNumbered.step {h : HubInner} (numbered : h.WellNumbered) (s : HubStep) :
    (h.step s).WellNumbered :=
  HubInner.step_invariant (P := fun _ ds => ds.WellNumbered)
    DStream.WellNumbered.new (fun _ _ _ _ _ does holds => holds.move does) numbered

end AgentConsole.Relay
