import AgentConsole.Relay.BufferHistory
import AgentConsole.Relay.Replay
import AgentConsole.Relay.Serve

/-! # Full replay is exact

A merged frame keeps the number of the first frame it stands for; the number of the second
is then nobody's.  So a window that has every number up to the present has no merged frame
in it, and is the log from its first number on. -/

namespace AgentConsole.Relay

open AgentConsole.Lib

/-! ## What the buffer of a stream stands for -/

/-- A stored frame stands for itself, or begins where the first of several frames does. -/
def Stored.Begins (s : Stored) : Prop :=
  s.2 = [s.1] ∨ ∃ first second rest, s.2 = first :: second :: rest ∧ first.sequence = s.1.sequence

theorem Stored.Begins.head {s : Stored} (begins : s.Begins) :
    ∃ first rest, s.2 = first :: rest ∧ first.sequence = s.1.sequence := by
  rcases begins with own | ⟨first, second, rest, origins, same⟩
  · exact ⟨s.1, [], own, rfl⟩
  · exact ⟨first, second :: rest, origins, same⟩

theorem Stored.Begins.merge {codec : Codec} {now : Nat} {a b merged : Frame}
    {origins origins' : List Frame} (left : Stored.Begins (a, origins))
    (right : Stored.Begins (b, origins')) (merges : mergePair codec now a b = some merged) :
    Stored.Begins (merged, origins ++ origins') := by
  have number := mergePair_sequence merges
  obtain ⟨first, rest, heads, same⟩ := left.head
  obtain ⟨first', rest', heads', -⟩ := right.head
  dsimp only at heads heads' same
  rw [heads, heads']
  cases rest with
  | nil => exact .inr ⟨first, first', rest', rfl, same.trans number.symm⟩
  | cons second rest =>
    exact .inr ⟨first, second, rest ++ first' :: rest', rfl, same.trans number.symm⟩

/-- The frames that a list of stored frames stands for. -/
def origins (stored : List Stored) : List Frame := stored.flatMap Prod.snd

theorem Rewrites.origins {codec : Codec} {now : Nat} {stored later : List Stored}
    (rewrites : Rewrites codec now stored later) :
    (origins later).Sublist (origins stored) := by
  induction rewrites with
  | drop sub => exact sub.flatMap Prod.snd
  | merge before after os os' pair => simp [Relay.origins]
  | trans first rest early late => exact late.trans early

/-- The buffer is made from events of the log, each used once and in order. -/
def DStream.Original (ds : DStream) : Prop :=
  ∃ stored : List Stored, stored.map Prod.fst = ds.buffer.items ∧
    (origins stored).Sublist ds.log ∧ (∀ s ∈ stored, s.Begins) ∧
    ∀ o ∈ origins stored, IsEventBatch o.env

namespace DStream.Original

variable {ds ds' : DStream}

theorem new (key : DKey) (fresh : Uuid) : (DStream.new key fresh).Original :=
  ⟨[], rfl, List.Sublist.refl _, by simp, by simp [origins]⟩

theorem number (original : ds.Original) (ctx : Ctx) {frame : Frame}
    (isBatch : IsEventBatch frame.env) : (ds.number ctx frame).1.Original := by
  obtain ⟨stored, same, logged, begins, events⟩ := original
  have follows : Follows ctx.codec ctx.now (ds.buffer.items ++ [frame])
      (ds.buffer.insert ctx.codec ctx.now frame).1.items := Follows.insert ds.buffer frame
  obtain ⟨later, sameLater, rewrites⟩ :=
    follows (stored ++ [frame.stored]) (by rw [List.map_append, same]; rfl)
  have appended : origins (stored ++ [frame.stored]) = origins stored ++ [frame] := by
    simp [origins, Frame.stored]
  have sub : (origins later).Sublist (origins stored ++ [frame]) := appended ▸ rewrites.origins
  refine ⟨later, sameLater, sub.trans (logged.append (List.Sublist.refl _)), ?_, ?_⟩
  · refine rewrites.forall_stored (fun _ _ _ _ _ left right merges => left.merge right merges) ?_
    intro s member
    rcases List.mem_append.mp member with old | new
    · exact begins s old
    · rw [List.mem_singleton.mp new]
      exact .inl rfl
  · intro o member
    rcases List.mem_append.mp (sub.subset member) with old | new
    · exact events o old
    · rw [List.mem_singleton.mp new]
      exact isBatch

theorem cleared (ds : DStream) (none_ : ds.buffer.items = []) : ds.Original :=
  ⟨[], none_.symm, List.nil_sublist _, by simp, by simp [origins]⟩

theorem orderSnapshot (original : ds.Original) (ctx : Ctx) (uid : String) (b : UpstreamBinding)
    (env : Envelope) : (ds.orderSnapshot ctx uid b env).Original := by
  obtain ⟨stored, same, logged, begins, events⟩ := original
  let kept := stored.filter fun s => !(s.1.env.deviceId == env.deviceId &&
    s.1.upstreamSeq.any fun n => decide (n ≤ b.snapshotCovers))
  have sub : kept.Sublist stored := List.filter_sublist
  refine ⟨kept, ?_, ?_, fun s member => begins s (sub.subset member),
    fun o member => events o ((sub.flatMap Prod.snd).subset member)⟩
  · have covered : (ds.orderSnapshot ctx uid b env).buffer.items =
        (ds.buffer.retainUncovered env.deviceId b.snapshotCovers).items := rfl
    rw [covered, retainUncovered_items, ← same, List.filter_map]
    rfl
  · exact ((sub.flatMap Prod.snd).trans logged).trans (List.sublist_append_left _ _)

/-- Every move keeps the buffer original. -/
theorem move (original : ds.Original) {ctx : Ctx} {m : Move} (does : m.Does ctx ds ds') :
    ds'.Original := by
  cases m with
  | resubscribe => obtain ⟨subs, rfl⟩ := does; exact original
  | clear => cases does; exact cleared _ rfl
  | advance => obtain ⟨-, none_, rfl⟩ := does; exact cleared _ none_
  | rebind added => obtain ⟨ups, -, rfl⟩ := does; exact original
  | announce uid sub => obtain ⟨b, -, rfl⟩ := does; exact original
  | watermark uid sequence => obtain ⟨b, -, rfl⟩ := does; exact original
  | stash batch =>
    obtain ⟨-, rfl⟩ := does
    obtain ⟨_, _, _, frame⟩ := pushPending_frame ctx.codec ds batch
    rw [frame]
    exact original
  | event env e => cases does; exact original.number ctx ⟨_, rfl⟩
  | presence device online => cases does; exact original.number ctx ⟨_, rfl⟩
  | snapshot uid env => obtain ⟨b, -, rfl⟩ := does; exact original.orderSnapshot ctx uid b env

end DStream.Original

/-! ## Windows with every number -/

namespace DStream

variable {ds : DStream}

/-- The second frame of a merged one has a number that no surviving frame has. -/
theorem Original.hole (original : ds.Original) (sound : ds.Sound) {f : Frame}
    (item : f ∈ ds.buffer.items) (merged : f ∉ ds.log) :
    ∃ n, f.sequence < n ∧ n < ds.nextSeq ∧ ∀ g ∈ ds.survivingFrames, g.sequence ≠ n := by
  obtain ⟨stored, same, logged, begins, events⟩ := original
  have increasing : ((origins stored).map Frame.sequence).Pairwise (· < ·) :=
    sound.numbered.log_lt.sublist (logged.map _)
  have nodup : (origins stored).Nodup :=
    List.Nodup.of_map Frame.sequence (increasing.imp Nat.ne_of_lt)
  obtain ⟨s, member, rfl⟩ := List.mem_map.mp (same ▸ item)
  have inOrigins {s : Stored} (member : s ∈ stored) {o : Frame} (origin : o ∈ s.2) :
      o ∈ origins stored := List.mem_flatMap.mpr ⟨s, member, origin⟩
  rcases begins s member with own | ⟨first, second, rest, heads, start⟩
  · exact absurd (logged.subset (inOrigins member (own ▸ List.mem_singleton_self _))) merged
  have present : second ∈ ds.log := logged.subset (inOrigins member (by simp [heads]))
  have after : first.sequence < second.sequence := by
    have within : ((first :: second :: rest).map Frame.sequence).Sublist
        ((origins stored).map Frame.sequence) := by
      rw [← heads]
      exact (List.sublist_flatten_of_mem (List.mem_map_of_mem member)).map Frame.sequence
    exact List.rel_of_pairwise_cons (increasing.sublist within) List.mem_cons_self
  refine ⟨second.sequence, start ▸ after, (sound.numbered.sequence_range present).2, ?_⟩
  intro g survives number
  rcases mem_survivingFrames.mp survives with snapshot | stillThere
  · have frame : g = second :=
      sound.numbered.eq_of_sequence (sound.numbered.snapshots.subset snapshot) present number
    have notSnapshot := (events second (inOrigins member (by simp [heads]))).carries.2
    rw [← frame, (sound.own g snapshot).2] at notSnapshot
    cases notSnapshot
  · -- a frame with this number would begin with `second`, which `s` stands for
    obtain ⟨s', member', rfl⟩ := List.mem_map.mp (same ▸ stillThere)
    obtain ⟨first', rest', heads', start'⟩ := (begins s' member').head
    have frame : first' = second := sound.numbered.eq_of_sequence
      (logged.subset (inOrigins member' (by simp [heads']))) present (start'.trans number)
    have differs : s ≠ s' := by
      intro one
      rw [← one] at number
      omega
    have symmetric : Std.Symm (Function.onFun List.Disjoint (Prod.snd : Stored → List Frame)) :=
      ⟨fun _ _ apart => apart.symm⟩
    have apart : List.Disjoint s.2 s'.2 :=
      (List.nodup_flatMap.mp nodup).2.forall member member' differs
    have inBoth : second ∈ s.2 := by simp [heads]
    exact apart inBoth (by rw [heads', frame]; exact List.mem_cons_self)

/-- A full replay is the log from its first number on. -/
theorem Original.fullReplay (original : ds.Original) (sound : ds.Sound) {base : Nat}
    {frames : List Frame} (full : ds.fullReplay = some (base, frames)) :
    ∃ first rest, frames = first :: rest ∧ base = ds.replayBase first ∧
      frames = ds.log.filter (fun f => decide (first.sequence ≤ f.sequence)) ∧
      frames.map Frame.sequence =
        List.range' first.sequence (ds.nextSeq - first.sequence) := by
  obtain ⟨first, rest, surviving, rfl, start, within, numbers⟩ := fullReplay_eq_some full
  refine ⟨first, rest, rfl, start, ?_, numbers⟩
  have increasing : ((first :: rest).map Frame.sequence).Pairwise (· < ·) :=
    surviving ▸ sound.numbered.surviving_lt
  have has (n : Nat) (low : first.sequence ≤ n) (high : n < ds.nextSeq) :
      ∃ g ∈ first :: rest, g.sequence = n := by
    have member : n ∈ (first :: rest).map Frame.sequence := by
      rw [numbers]
      exact List.mem_range'_1.mpr ⟨low, by omega⟩
    exact List.mem_map.mp member
  have low (f : Frame) (member : f ∈ first :: rest) : first.sequence ≤ f.sequence := by
    have inside : f.sequence ∈ (first :: rest).map Frame.sequence := List.mem_map_of_mem member
    rw [numbers] at inside
    exact (List.mem_range'_1.mp inside).1
  have logged (f : Frame) (member : f ∈ first :: rest) : f ∈ ds.log := by
    rcases mem_survivingFrames.mp (surviving ▸ member) with snapshot | item
    · exact sound.numbered.snapshots.subset snapshot
    · by_contra merged
      obtain ⟨n, after, high, nobody⟩ := original.hole sound item merged
      obtain ⟨g, present, number⟩ := has n ((low f member).trans (Nat.le_of_lt after)) high
      exact nobody g (surviving ▸ present) number
  refine eq_of_strictly_increasing Frame.sequence increasing
    (sound.numbered.log_lt.sublist (List.filter_sublist.map _)) fun f => ?_
  rw [List.mem_filter]
  constructor
  · exact fun member => ⟨logged f member, decide_eq_true (low f member)⟩
  · rintro ⟨member, from_⟩
    obtain ⟨g, present, number⟩ := has f.sequence (of_decide_eq_true from_)
      (sound.numbered.sequence_range member).2
    have frame : g = f := sound.numbered.eq_of_sequence (logged g present) member number
    exact frame ▸ present

/-- A replay window and what it claims: every frame from its first number to the present,
once, in order, as it was numbered. -/
def ReplaysExactly (ds : DStream) : Prop :=
  ∀ base frames, ds.fullReplay = some (base, frames) →
    ∃ first rest, frames = first :: rest ∧
      (base = if first ∈ ds.snapshots then first.sequence else first.sequence - 1) ∧
      frames = ds.log.filter (fun f => decide (first.sequence ≤ f.sequence)) ∧
      frames.map Frame.sequence = List.range' first.sequence (ds.nextSeq - first.sequence)

/-- The numbers of what a stream holds: different from each other, increasing in the buffer,
below the next number; and the log has the frame of every number. -/
structure HoldsNumbers (ds : DStream) : Prop where
  distinct : ((ds.snapshots ++ ds.buffer.items).map Frame.sequence).Nodup
  increasing : (ds.buffer.items.map Frame.sequence).Pairwise (· < ·)
  below : ∀ f ∈ ds.snapshots ++ ds.buffer.items, f.sequence < ds.nextSeq
  log : ds.log.map Frame.sequence = List.range' 1 (ds.nextSeq - 1)

theorem Sound.holdsNumbers (sound : ds.Sound) : ds.HoldsNumbers where
  distinct := sound.numbered.distinct (List.Sublist.refl _)
  increasing := sound.numbered.items_lt
  below := by
    intro f member
    exact (sound.numbered.surviving_range
      (mem_survivingFrames.mpr (List.mem_append.mp member))).2
  log := by
    rw [sound.numbered.log, sound.numbered.nextSeq]
    rfl

end DStream

/-- What every step keeps of every stream. -/
theorem HubInner.step_original {h : HubInner}
    (streams : ∀ key ds, h.streams.get? key = some ds → ds.Sound ∧ ds.Original) (s : HubStep) :
    ∀ key ds, (h.step s).streams.get? key = some ds → ds.Sound ∧ ds.Original := by
  intro key ds' found
  obtain ⟨ds, moved, origin⟩ := step_moved h s key ds' found
  refine moved.invariant (P := fun ds => ds.Sound ∧ ds.Original) (fun m _ _ may does holds => ?_) ?_
  · refine ⟨holds.1.move ?_ does, holds.2.move does⟩
    cases may with
    | snapshot device env op isSnap routed => exact isSnap
    | _ => trivial
  · rcases origin with before | ⟨fresh, rfl⟩
    · exact streams key ds before
    · exact ⟨.new key fresh, .new key fresh⟩

/-- **Full replay is exact** in every reachable stream. -/
theorem full_replay_exact (steps : List HubStep) (key : DKey) (ds : DStream)
    (found : (HubInner.new.run steps).streams.get? key = some ds) :
    ds.HoldsNumbers ∧ ds.ReplaysExactly := by
  have reached : ∀ (steps : List HubStep) (h : HubInner),
      (∀ key ds, h.streams.get? key = some ds → ds.Sound ∧ ds.Original) →
      ∀ key ds, (h.run steps).streams.get? key = some ds → ds.Sound ∧ ds.Original := by
    intro steps
    induction steps with
    | nil => exact fun h streams => streams
    | cons s rest inductionHypothesis =>
      exact fun h streams => inductionHypothesis (h.step s) (HubInner.step_original streams s)
  obtain ⟨sound, original⟩ := reached steps .new (fun _ _ none_ => by cases none_) key ds found
  refine ⟨sound.holdsNumbers, fun base frames full => ?_⟩
  obtain ⟨first, rest, split, start, log, numbers⟩ := original.fullReplay sound full
  exact ⟨first, rest, split, start, log, numbers⟩

open SessionList in
theorem full_replay_exact_opening :
    ∃ ds, (HubInner.new.run opening).streams.get? (owner, .list) = some ds ∧
      (ds.HoldsNumbers ∧ ds.ReplaysExactly) ∧
      ds.fullReplay.map (fun r => (r.1, r.2.map Frame.sequence)) = some (1, [1, 2]) := by
  have facts : ((HubInner.new.run opening).streams.get? (owner, .list)).map (fun ds =>
      ds.fullReplay.map fun r => (r.1, r.2.map Frame.sequence)) = some (some (1, [1, 2])) := by
    decide +kernel
  obtain ⟨ds, found, served⟩ := Option.map_eq_some_iff.mp facts
  exact ⟨ds, found, full_replay_exact opening _ ds found, served⟩

end AgentConsole.Relay
