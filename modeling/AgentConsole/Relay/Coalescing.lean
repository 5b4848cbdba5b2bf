import AgentConsole.Relay.BufferAccounts

/-! # Coalescing

A buffer merges frames so that a reader of what is left knows what a reader of all frames
would know: the bytes of every output at their offsets, the last value of every key, and every
other frame.  `View` is what a reader knows.  Two appends are joined when the `u64` sum of
offset and length is the second offset, so the sum must not wrap. -/

namespace AgentConsole.Relay

open AgentConsole.Lib

/-! ## What a reader knows -/

structure View where
  /-- The byte at a position of the output of a key. -/
  outputs : String → Nat → Option UInt8
  /-- The last frame of a `ReplaceLatest` key. -/
  latest : String → Option Frame
  others : List Frame

namespace View

def empty : View := { outputs := fun _ _ => none, latest := fun _ => none, others := [] }

/-- Bytes written at an offset. -/
def write (outputs : String → Nat → Option UInt8) (key : String) (offset : Nat)
    (bytes : List UInt8) : String → Nat → Option UInt8 :=
  fun k position =>
    if k = key ∧ offset ≤ position ∧ position < offset + bytes.length then
      bytes[position - offset]?
    else outputs k position

/-- The output bytes of a frame. -/
def outputBytes (f : Frame) : List UInt8 := ((lastAppend? f.env).map OutputAppend.bytes).getD []

def apply (v : View) (f : Frame) : View :=
  match f.merge with
  | some (.outputAppend key offset _) =>
    { v with outputs := write v.outputs key offset (outputBytes f) }
  | some (.replaceLatest key) => { v with latest := Function.update v.latest key (some f) }
  | none => { v with others := v.others ++ [f] }

/-- What a reader of some frames knows. -/
def of (frames : List Frame) : View := frames.foldl apply empty

end View

/-! ## Joins -/

/-- The frames that the scan of `coalesce` joins. -/
def joinsAdjacent (codec : Codec) (now : Nat) (done : List Frame) :
    List Frame → List (Frame × Frame)
  | [] => []
  | f :: rest =>
    match done with
    | [] => joinsAdjacent codec now [f] rest
    | prev :: older =>
      match mergePair codec now prev f with
      | some merged => (prev, f) :: joinsAdjacent codec now (merged :: older) rest
      | none => joinsAdjacent codec now (f :: prev :: older) rest

namespace StreamBuffer

/-- The frame at the end that a new one is joined with. -/
def tailJoin (codec : Codec) (now : Nat) (b : StreamBuffer) (frame : Frame) :
    List (Frame × Frame) :=
  (b.items.getLast?.toList.filter fun prev => (mergePair codec now prev frame).isSome).map
    fun prev => (prev, frame)

/-- The frames that `insert` joins. -/
def joins (codec : Codec) (now : Nat) (b : StreamBuffer) (frame : Frame) : List (Frame × Frame) :=
  let stored := (b.expire now).store codec now frame
  (b.expire now).tailJoin codec now frame ++
    if stored.fits then [] else joinsAdjacent codec now [] (dropReplaced stored.items)

/-- `insert` loses nothing: no frame expires, and the frames fit as they are or coalesced. -/
def Whole (codec : Codec) (now : Nat) (b : StreamBuffer) (frame : Frame) : Prop :=
  let stored := (b.expire now).store codec now frame
  (b.expire now).items = b.items ∧
    (stored.fits = true ∨ ({ stored with
      items := (coalesce codec now stored.items).1
      bytes := (coalesce codec now stored.items).2 } : StreamBuffer).fits = true)

end StreamBuffer

/-- The second append starts where the first ends. -/
def Exact (join : Frame × Frame) : Prop :=
  ∃ key offset len len', join.1.merge = some (.outputAppend key offset len) ∧
    join.2.merge = some (.outputAppend key (offset + len) len')

/-- The end of the first append is a `u64`. -/
def Seamless (join : Frame × Frame) : Prop :=
  ∀ key offset len, join.1.merge = some (.outputAppend key offset len) → offset + len < 2 ^ 64

/-- A frame whose merge information is that of the output it carries, at a `u64` offset. -/
def Frame.Coherent (f : Frame) : Prop :=
  ∀ key offset len, f.merge = some (.outputAppend key offset len) →
    offset < 2 ^ 64 ∧ ∃ app, lastAppend? f.env = some app ∧ app.bytes.length = len

variable {codec : Codec} {now : Nat}

/-! ## Merging two appends -/

theorem lastAppend?_withLastAppend {env : Envelope} {app : OutputAppend}
    (there : lastAppend? env = some app) (app' : OutputAppend) :
    lastAppend? (withLastAppend env app') = some app' := by
  unfold lastAppend? at there
  split at there
  · next batch payload =>
    split at there
    · next last => simp [withLastAppend, lastAppend?, payload, last]
    · cases there
  · cases there

/-- What `merge_pair` makes. -/
theorem mergePair_spec {a b merged : Frame} (merges : mergePair codec now a b = some merged) :
    ∃ key offset len len' appA appB,
      a.merge = some (.outputAppend key offset len) ∧
      b.merge = some (.outputAppend key ((offset + len) % 2 ^ 64) len') ∧
      lastAppend? a.env = some appA ∧ lastAppend? b.env = some appB ∧
      merged.merge = some (.outputAppend key offset (len + len')) ∧
      merged.env = withLastAppend a.env { appA with bytes := appA.bytes ++ appB.bytes } := by
  unfold mergePair at merges
  split at merges
  · next ka oa la kb ob lb left right =>
    split at merges
    · cases merges
    · next fits =>
      push Not at fits
      obtain ⟨rfl, rfl⟩ := fits
      split at merges
      · next appA appB hasA hasB =>
        dsimp only at merges
        split at merges
        · cases merges
        · cases merges
          exact ⟨_, _, _, _, _, _, left, right, hasA, hasB, rfl, rfl⟩
      · cases merges
  · cases merges

theorem Frame.Coherent.merge {a b merged : Frame} (left : a.Coherent) (right : b.Coherent)
    (merges : mergePair codec now a b = some merged) : merged.Coherent := by
  obtain ⟨key, offset, len, len', appA, appB, mergeA, mergeB, hasA, hasB, same, env⟩ :=
    mergePair_spec merges
  intro key' offset' len'' shape
  rw [same] at shape
  cases shape
  obtain ⟨small, app, has, length⟩ := left _ _ _ mergeA
  obtain ⟨-, app', has', length'⟩ := right _ _ _ mergeB
  rw [hasA] at has
  rw [hasB] at has'
  cases has
  cases has'
  refine ⟨small, _, env ▸ lastAppend?_withLastAppend hasA _, ?_⟩
  simp [length, length']

/-- A join is exact when its sum does not wrap. -/
theorem exact_iff_seamless {a b merged : Frame} (right : b.Coherent)
    (merges : mergePair codec now a b = some merged) : Exact (a, b) ↔ Seamless (a, b) := by
  obtain ⟨key, offset, len, len', -, -, mergeA, mergeB, -⟩ := mergePair_spec merges
  constructor
  · rintro ⟨key', offset', lenA, lenB, mergeA', mergeB'⟩ k o l shape
    dsimp only at mergeA' mergeB' shape
    rw [mergeA'] at shape
    cases shape
    exact (right _ _ _ mergeB').1
  · intro seamless
    refine ⟨key, offset, len, len', mergeA, ?_⟩
    rw [Nat.mod_eq_of_lt (seamless key offset len mergeA)] at mergeB
    exact mergeB

theorem View.write_append (outputs : String → Nat → Option UInt8) (key : String) (offset : Nat)
    (left right : List UInt8) :
    write (write outputs key offset left) key (offset + left.length) right =
      write outputs key offset (left ++ right) := by
  funext k position
  unfold write
  rw [List.length_append]
  by_cases same : k = key
  · subst same
    by_cases inRight : offset + left.length ≤ position ∧
        position < offset + left.length + right.length
    · rw [if_pos ⟨rfl, inRight⟩, if_pos ⟨rfl, by omega, by omega⟩,
        List.getElem?_append_right (by omega)]
      congr 1
      omega
    · rw [if_neg (fun both => inRight both.2)]
      by_cases inLeft : offset ≤ position ∧ position < offset + left.length
      · rw [if_pos ⟨rfl, inLeft⟩, if_pos ⟨rfl, by omega, by omega⟩,
          List.getElem?_append_left (by omega)]
      · rw [if_neg (fun both => inLeft both.2), if_neg]
        rintro ⟨-, low, high⟩
        omega
  · simp [same]

/-- **An exact merge loses nothing.** -/
theorem View.apply_merge {a b merged : Frame} (left : a.Coherent)
    (merges : mergePair codec now a b = some merged) (exact_ : Exact (a, b)) (v : View) :
    (v.apply a).apply b = v.apply merged := by
  obtain ⟨key, offset, len, len', appA, appB, mergeA, mergeB, hasA, hasB, same, env⟩ :=
    mergePair_spec merges
  obtain ⟨key', offset', lenA, lenB, mergeA', mergeB'⟩ := exact_
  dsimp only at mergeA' mergeB'
  rw [mergeA] at mergeA'
  cases mergeA'
  obtain ⟨-, app, has, length⟩ := left _ _ _ mergeA
  rw [hasA] at has
  cases has
  have joined : outputBytes merged = appA.bytes ++ appB.bytes := by
    simp [outputBytes, env, lastAppend?_withLastAppend hasA]
  simp only [View.apply, mergeA, mergeB', same, joined]
  simp only [outputBytes, hasA, hasB, Option.map_some, Option.getD_some, ← length, write_append]

/-! ## Dropping replaced values -/

/-- The same knowledge but for the last value of one key. -/
def View.AgreeBut (key : String) (v w : View) : Prop :=
  v.outputs = w.outputs ∧ v.others = w.others ∧ ∀ k, k ≠ key → v.latest k = w.latest k

theorem View.AgreeBut.apply {key : String} {v w : View} (agree : v.AgreeBut key w) (f : Frame) :
    (v.apply f).AgreeBut key (w.apply f) := by
  obtain ⟨outputs, others, latest⟩ := agree
  unfold View.apply
  split
  · exact ⟨by rw [outputs], others, latest⟩
  · next k shape =>
    refine ⟨outputs, others, fun k' differs => ?_⟩
    dsimp only
    by_cases same : k' = k
    · subst same
      simp
    · rw [Function.update_of_ne same, Function.update_of_ne same]
      exact latest k' differs
  · exact ⟨outputs, by rw [others], latest⟩

/-- A value of the key settles the difference. -/
theorem View.AgreeBut.settled {key : String} {v w : View} (agree : v.AgreeBut key w) {f : Frame}
    (replaces : f.replaces key = true) : v.apply f = w.apply f := by
  obtain ⟨outputs, others, latest⟩ := agree
  have shape : f.merge = some (.replaceLatest key) := by simpa [Frame.replaces] using replaces
  simp only [View.apply, shape, View.mk.injEq]
  refine ⟨outputs, funext fun k => ?_, others⟩
  by_cases same : k = key
  · subst same
    simp
  · rw [Function.update_of_ne same, Function.update_of_ne same]
    exact latest k same

theorem View.AgreeBut.fold {key : String} {v w : View} (agree : v.AgreeBut key w)
    {frames : List Frame} (later : ∃ f ∈ frames, f.replaces key = true) :
    frames.foldl View.apply v = frames.foldl View.apply w := by
  induction frames generalizing v w with
  | nil => simp at later
  | cons f rest inductionHypothesis =>
    rw [List.foldl_cons, List.foldl_cons]
    by_cases replaces : f.replaces key = true
    · rw [agree.settled replaces]
    · refine inductionHypothesis (agree.apply f) ?_
      obtain ⟨g, member, does⟩ := later
      rcases List.mem_cons.mp member with rfl | inRest
      · exact absurd does replaces
      · exact ⟨g, inRest, does⟩

/-- A value that is replaced later need not be read. -/
theorem View.fold_replaced {key : String} {f : Frame} (replaces : f.replaces key = true)
    (frames : List Frame) (later : ∃ g ∈ frames, g.replaces key = true) (v : View) :
    frames.foldl View.apply (v.apply f) = frames.foldl View.apply v := by
  have shape : f.merge = some (.replaceLatest key) := by simpa [Frame.replaces] using replaces
  have agree : (v.apply f).AgreeBut key v := by
    simp only [View.apply, shape]
    exact ⟨rfl, rfl, fun k differs => Function.update_of_ne differs _ _⟩
  exact agree.fold later

theorem View.fold_dropReplaced (frames : List Frame) (v : View) :
    (dropReplaced frames).foldl View.apply v = frames.foldl View.apply v := by
  induction frames generalizing v with
  | nil => rfl
  | cons f rest inductionHypothesis =>
    unfold dropReplaced
    split
    · next key shape =>
      split
      · next replaced =>
        obtain ⟨g, near, does⟩ := List.any_eq_true.mp replaced
        have replaces : f.replaces key = true := by simp [Frame.replaces, shape]
        rw [inductionHypothesis, List.foldl_cons,
          fold_replaced replaces rest ⟨g, List.mem_of_mem_take near, does⟩]
      · exact inductionHypothesis _
    · exact inductionHypothesis _

theorem View.fold_eraseReplaced {frames : List Frame} {i : Nat} {key : String} {old f : Frame}
    (there : frames[i]? = some old) (replaced : old.replaces key = true)
    (replaces : f.replaces key = true) (v : View) :
    (frames.eraseIdx i ++ [f]).foldl View.apply v = (frames ++ [f]).foldl View.apply v := by
  obtain ⟨inside, same⟩ := List.getElem?_eq_some_iff.mp there
  have split : frames = frames.take i ++ old :: frames.drop (i + 1) := by
    rw [← same, List.getElem_cons_drop, List.take_append_drop]
  rw [List.eraseIdx_eq_take_drop_succ]
  conv => rhs; rw [split]
  simp only [List.append_assoc, List.cons_append, List.foldl_append, List.foldl_cons]
  have later := fold_replaced replaced (frames.drop (i + 1) ++ [f])
    ⟨f, by simp, replaces⟩ ((frames.take i).foldl View.apply v)
  simpa using later.symm

/-! ## Insertion -/

theorem View.fold_mergeAdjacent (done frames : List Frame)
    (coherent : ∀ f ∈ done.reverse ++ frames, f.Coherent)
    (exact_ : ∀ join ∈ joinsAdjacent codec now done frames, Exact join) (v : View) :
    (mergeAdjacent codec now done frames).foldl View.apply v =
      (done.reverse ++ frames).foldl View.apply v := by
  induction frames generalizing done with
  | nil => simp [mergeAdjacent]
  | cons f rest inductionHypothesis =>
    cases done with
    | nil => exact inductionHypothesis [f] coherent exact_
    | cons prev older =>
      cases merges : mergePair codec now prev f with
      | none =>
        simp only [joinsAdjacent, merges] at exact_
        simp only [mergeAdjacent, merges]
        rw [inductionHypothesis (f :: prev :: older) (by simpa using coherent) exact_]
        simp
      | some merged =>
        simp only [joinsAdjacent, merges, List.forall_mem_cons] at exact_
        simp only [mergeAdjacent, merges]
        have left : prev.Coherent := coherent prev (by simp)
        have right : f.Coherent := coherent f (by simp)
        rw [inductionHypothesis (merged :: older) ?_ exact_.2]
        · simp [apply_merge left merges exact_.1]
        · intro g member
          simp only [List.reverse_cons, List.append_assoc, List.mem_append, List.mem_reverse,
            List.cons_append, List.nil_append, List.mem_cons] at member
          rcases member with early | rfl | late
          · exact coherent g (by simp [early])
          · exact left.merge right merges
          · exact coherent g (by simp [late])

namespace StreamBuffer

/-- The frame that a new value takes the place of has its key. -/
theorem replaced_found {items : List Frame} {key : String} {back : Nat}
    (found : (items.reverse.take 32).findIdx? (Frame.replaces key) = some back) :
    ∃ old, items[items.length - 1 - back]? = some old ∧ old.replaces key = true := by
  obtain ⟨inside, replaces, -⟩ := List.findIdx?_eq_some_iff_getElem.mp found
  rw [List.length_take, List.length_reverse] at inside
  rw [List.getElem_take, List.getElem_reverse] at replaces
  exact ⟨_, List.getElem?_eq_getElem (by omega), replaces⟩

theorem removeReplaced_view (b : StreamBuffer) (frame : Frame) (v : View) :
    ((b.removeReplaced frame).items ++ [frame]).foldl View.apply v =
      (b.items ++ [frame]).foldl View.apply v := by
  unfold removeReplaced
  split
  · next key shape =>
    split
    · next back found =>
      obtain ⟨old, there, replaced⟩ := replaced_found found
      exact View.fold_eraseReplaced there replaced (by simp [Frame.replaces, shape]) v
    · rfl
  · rfl

theorem store_view {b : StreamBuffer} {frame : Frame} (coherent : ∀ f ∈ b.items, f.Coherent)
    (exact_ : ∀ join ∈ b.tailJoin codec now frame, Exact join) :
    View.of (b.store codec now frame).items = (View.of b.items).apply frame := by
  have appended : View.of ((b.removeReplaced frame).items ++ [frame]) =
      (View.of b.items).apply frame := by
    rw [View.of, removeReplaced_view, List.foldl_append]
    rfl
  unfold store
  split
  · next prev last =>
    split
    · next merged merges =>
      obtain ⟨older, items⟩ : ∃ older, b.items = older ++ [prev] := by
        rw [List.getLast?_eq_some_iff] at last
        exact last
      have joined : Exact (prev, frame) := exact_ _ (by simp [tailJoin, last, merges])
      have left : prev.Coherent := coherent prev (by simp [items])
      rw [items, List.dropLast_concat]
      simp [View.of, View.apply_merge left merges joined]
    · exact appended
  · exact appended

/-- What every insertion keeps. -/
def Coherent (b : StreamBuffer) : Prop := ∀ f ∈ b.items, f.Coherent

theorem Coherent.insert {b : StreamBuffer} (coherent : b.Coherent) {frame : Frame}
    (new : frame.Coherent) : (b.insert codec now frame).1.Coherent :=
  insert_frames codec now b frame Frame.Coherent
    (fun _ _ _ left right merges => left.merge right merges) coherent new

theorem Coherent.store {b : StreamBuffer} (coherent : b.Coherent) {frame : Frame}
    (new : frame.Coherent) : (b.store codec now frame).Coherent := by
  refine (store_kept (fun _ _ _ left right merges => left.merge right merges) b frame).frames ?_
  intro f member
  rcases List.mem_append.mp member with old | added
  · exact coherent f old
  · exact List.mem_singleton.mp added ▸ new

/-- **A whole insertion with exact joins loses nothing.** -/
theorem insert_view {b : StreamBuffer} {frame : Frame} (coherent : b.Coherent)
    (new : frame.Coherent) (whole : b.Whole codec now frame)
    (exact_ : ∀ join ∈ b.joins codec now frame, Exact join) :
    View.of (b.insert codec now frame).1.items = (View.of b.items).apply frame := by
  obtain ⟨unexpired, fits⟩ := whole
  have kept : (b.expire now).Coherent := fun f member => coherent f (unexpired ▸ member)
  have stored : View.of ((b.expire now).store codec now frame).items =
      (View.of b.items).apply frame := by
    rw [← unexpired]
    exact store_view kept fun join member => exact_ join (List.mem_append_left _ member)
  unfold insert
  dsimp only
  split
  · exact stored
  · next pressed =>
    have compacted := fits.resolve_left pressed
    rw [if_pos compacted, ← stored]
    have all : ((b.expire now).store codec now frame).Coherent := kept.store new
    have joined : ∀ join ∈ joinsAdjacent codec now []
        (dropReplaced ((b.expire now).store codec now frame).items), Exact join :=
      fun join member => exact_ join (List.mem_append_right _ (by rwa [if_neg pressed]))
    unfold View.of coalesce
    rw [View.fold_mergeAdjacent [] _ ?_ joined, List.reverse_nil, List.nil_append,
      View.fold_dropReplaced]
    exact fun f member => all f ((dropReplaced_sublist _).subset member)

/-! ## Joins of coherent frames -/

theorem joinsAdjacent_exact_iff {done frames : List Frame}
    (coherent : ∀ f ∈ frames, f.Coherent) :
    (∀ join ∈ joinsAdjacent codec now done frames, Exact join) ↔
      ∀ join ∈ joinsAdjacent codec now done frames, Seamless join := by
  have one (join : Frame × Frame) (member : join ∈ joinsAdjacent codec now done frames) :
      join.2 ∈ frames ∧ ∃ merged, mergePair codec now join.1 join.2 = some merged := by
    induction frames generalizing done with
    | nil => cases member
    | cons f rest inductionHypothesis =>
      have later {done : List Frame} (member : join ∈ joinsAdjacent codec now done rest) :=
        inductionHypothesis (fun g inRest => coherent g (List.mem_cons_of_mem _ inRest)) member
      cases done with
      | nil => exact (later member).imp_left (List.mem_cons_of_mem _)
      | cons prev older =>
        cases merges : mergePair codec now prev f with
        | none =>
          simp only [joinsAdjacent, merges] at member
          exact (later member).imp_left (List.mem_cons_of_mem _)
        | some merged =>
          simp only [joinsAdjacent, merges, List.mem_cons] at member
          rcases member with rfl | member
          · exact ⟨List.mem_cons_self, merged, merges⟩
          · exact (later member).imp_left (List.mem_cons_of_mem _)
  refine forall₂_congr fun join member => ?_
  obtain ⟨inside, merged, merges⟩ := one join member
  exact exact_iff_seamless (coherent _ inside) merges

theorem tailJoin_exact_iff {b : StreamBuffer} {frame : Frame} (new : frame.Coherent) :
    (∀ join ∈ b.tailJoin codec now frame, Exact join) ↔
      ∀ join ∈ b.tailJoin codec now frame, Seamless join := by
  refine forall₂_congr fun join member => ?_
  obtain ⟨prev, found, rfl⟩ := List.mem_map.mp member
  obtain ⟨merged, merges⟩ := Option.isSome_iff_exists.mp (List.mem_filter.mp found).2
  exact exact_iff_seamless new merges

theorem joins_exact_iff {b : StreamBuffer} {frame : Frame} (coherent : b.Coherent)
    (new : frame.Coherent) :
    (∀ join ∈ b.joins codec now frame, Exact join) ↔
      ∀ join ∈ b.joins codec now frame, Seamless join := by
  have kept : (b.expire now).Coherent := fun f member =>
    coherent f ((expireItems_suffix now b.retention b.items b.bytes).subset member)
  have stored : ((b.expire now).store codec now frame).Coherent := kept.store new
  unfold joins
  dsimp only
  rw [List.forall_mem_append, List.forall_mem_append, tailJoin_exact_iff new]
  refine and_congr_right fun _ => ?_
  split
  · simp
  · exact joinsAdjacent_exact_iff fun f member =>
      stored f ((dropReplaced_sublist _).subset member)

end StreamBuffer

/-! ## Runs of insertions -/

theorem classify_append {event : Event} {key : String} {offset len : Nat}
    (shape : (classify event).2 = some (.outputAppend key offset len)) :
    ∃ app, event = .outputAppend app ∧ app.expectedOffset = offset ∧ app.bytes.length = len := by
  cases event with
  | outputAppend app =>
    cases shape
    exact ⟨app, rfl, rfl, rfl⟩
  | itemUpsert item =>
    unfold classify at shape
    dsimp only at shape
    split at shape <;> cases shape
  | _ => cases shape

/-- An insertion: the time, and a frame as the callers make it, at a `u64` offset. -/
structure Insertion where
  now : Nat
  frame : Frame
  made : frame.Made
  u64 : ∀ key offset len, frame.merge = some (.outputAppend key offset len) → offset < 2 ^ 64

theorem Insertion.coherent (i : Insertion) : i.frame.Coherent := by
  intro key offset len shape
  refine ⟨i.u64 key offset len shape, ?_⟩
  obtain ⟨now, frame, made, u64⟩ := i
  cases made with
  | event codec now env streamId sentAt event scope upstreamSeq payload =>
    obtain ⟨inner, plain, keyed⟩ := Option.map_eq_some_iff.mp shape
    cases inner with
    | replaceLatest key => cases keyed
    | outputAppend key' offset' len' =>
      cases keyed
      obtain ⟨app, rfl, -, length⟩ := classify_append plain
      exact ⟨app, by simp [Frame.withUpstreamSeq, lastAppend?, payload], length⟩
  | critical codec now env => cases shape

/-- A buffer, all frames that were inserted, and all joins that were made. -/
structure Coalesced where
  buffer : StreamBuffer
  history : List Frame
  joined : List (Frame × Frame)

namespace Coalesced

def new (maxEvents maxBytes retention : Nat) : Coalesced :=
  { buffer := .new maxEvents maxBytes retention, history := [], joined := [] }

def step (codec : Codec) (s : Coalesced) (i : Insertion) : Coalesced :=
  { buffer := (s.buffer.insert codec i.now i.frame).1
    history := s.history ++ [i.frame]
    joined := s.joined ++ s.buffer.joins codec i.now i.frame }

/-- A reader of the buffer knows what a reader of all frames does, and every join was of
appends of which the second starts where the first ends. -/
def Lossless (s : Coalesced) : Prop :=
  View.of s.buffer.items = View.of s.history ∧ ∀ join ∈ s.joined, Exact join

/-- The insertion loses no frame to age or to the limits. -/
def Whole (codec : Codec) (s : Coalesced) (i : Insertion) : Prop :=
  s.buffer.Whole codec i.now i.frame

/-- No join of the insertion passes the end of `u64`. -/
def Seamless (codec : Codec) (s : Coalesced) (i : Insertion) : Prop :=
  ∀ join ∈ s.buffer.joins codec i.now i.frame, Relay.Seamless join

theorem lossless_step {s : Coalesced} {i : Insertion} (coherent : s.buffer.Coherent)
    (whole : s.Whole codec i) (lossless : s.Lossless) :
    (s.step codec i).Lossless ↔ s.Seamless codec i := by
  rw [Seamless, ← StreamBuffer.joins_exact_iff coherent i.coherent]
  constructor
  · exact fun after join member => after.2 join (List.mem_append_right _ member)
  · intro exact_
    constructor
    · have view := StreamBuffer.insert_view coherent i.coherent whole exact_
      rw [lossless.1] at view
      simpa [step, View.of] using view
    · intro join member
      rcases List.mem_append.mp member with old | new
      · exact lossless.2 join old
      · exact exact_ join new

end Coalesced

/-- **Coalescing**: insertions that lose no frame are lossless, in every state, exactly when
none of them joins appends across the end of `u64`. -/
theorem coalescing_lossless_iff (codec : Codec) (maxEvents maxBytes retention : Nat)
    (inserts : List Insertion)
    (whole : Along (Coalesced.step codec) (Coalesced.Whole codec)
      (.new maxEvents maxBytes retention) inserts) :
    (∀ before after, inserts = before ++ after →
        (before.foldl (Coalesced.step codec) (.new maxEvents maxBytes retention)).Lossless) ↔
      Along (Coalesced.step codec) (Coalesced.Seamless codec)
        (.new maxEvents maxBytes retention) inserts := by
  have preserved (s : Coalesced) (i : Insertion) (coherent : s.buffer.Coherent) :
      (s.step codec i).buffer.Coherent := coherent.insert i.coherent
  have exact_ (s : Coalesced) (i : Insertion) (coherent : s.buffer.Coherent)
      (whole : s.Whole codec i) (lossless : s.Lossless) :
      (s.step codec i).Lossless ↔ s.Seamless codec i :=
    Coalesced.lossless_step coherent whole lossless
  have start : (Coalesced.new maxEvents maxBytes retention).buffer.Coherent := by
    intro f member
    cases member
  have empty : (Coalesced.new maxEvents maxBytes retention).Lossless :=
    ⟨rfl, fun join member => by cases member⟩
  exact Along.iff_reached_of preserved exact_ whole start empty

namespace OneByte

/-- One byte of output at an offset. -/
def append (sequence offset : Nat) (small : offset < 2 ^ 64) : Insertion where
  now := 0
  frame := OutputRun.append sequence offset 1
  made := .event .unit 0 _ "s" none (.outputAppend ⟨some ⟨"item", false⟩, offset, [0], 1⟩) "s/1/d"
    (some 1) rfl
  u64 key place len shape := by
    cases shape
    exact small

def next : List Insertion := [append 1 0 (by omega), append 2 1 (by omega)]

/-- The last position of `u64`, and then the first. -/
def around : List Insertion := [append 1 (2 ^ 64 - 1) (by omega), append 2 0 (by omega)]

theorem fits (s : Coalesced) (i : Insertion)
    (unexpired : (s.buffer.expire i.now).items = s.buffer.items)
    (small : ((s.buffer.expire i.now).store .unit i.now i.frame).fits = true) :
    s.Whole .unit i :=
  ⟨unexpired, .inl small⟩

theorem seamless_of {s : Coalesced} {i : Insertion} {joins : List (Frame × Frame)}
    (same : s.buffer.joins .unit i.now i.frame = joins) (all : ∀ join ∈ joins, Seamless join) :
    s.Seamless .unit i :=
  fun join member => all join (same ▸ member)

end OneByte

open OneByte in
theorem coalescing_lossless_iff_next :
    (next.foldl (Coalesced.step .unit) (.new 9 999 9)).Lossless := by
  refine (coalescing_lossless_iff .unit 9 999 9 next ?_).mpr ?_ next [] rfl
  · exact ⟨fits _ _ rfl (by decide +kernel), fits _ _ (by decide +kernel) (by decide +kernel),
      trivial⟩
  · have first : (Coalesced.new 9 999 9).buffer.joins .unit 0 (append 1 0 (by omega)).frame = [] := by
      decide +kernel
    have second : (Coalesced.step .unit (.new 9 999 9) (append 1 0 (by omega))).buffer.joins .unit 0
        (append 2 1 (by omega)).frame = [(OutputRun.append 1 0 1, OutputRun.append 2 1 1)] := by
      decide +kernel
    have none_ : ∀ join ∈ ([] : List (Frame × Frame)), Seamless join := by simp
    refine ⟨seamless_of first none_, seamless_of second fun join member => ?_, trivial⟩
    rw [List.mem_singleton.mp member]
    intro key offset len shape
    cases shape
    decide

open OneByte in
/-- The byte at position 0 moves to position 2^64. -/
theorem coalescing_moves_byte :
    ¬ ∀ (codec : Codec) (maxEvents maxBytes retention : Nat) (inserts : List Insertion),
      Along (Coalesced.step codec) (Coalesced.Whole codec)
        (.new maxEvents maxBytes retention) inserts →
      (inserts.foldl (Coalesced.step codec) (.new maxEvents maxBytes retention)).Lossless := by
  intro claim
  have lossless := claim .unit 9 999 9 around
    ⟨fits _ _ rfl (by decide +kernel), fits _ _ (by decide +kernel) (by decide +kernel), trivial⟩
  have byte := congrArg (fun v => v.outputs "s/1/d/out:item:1" 0) lossless.1
  have none_ : (View.of (around.foldl (Coalesced.step .unit) (.new 9 999 9)).buffer.items).outputs
      "s/1/d/out:item:1" 0 = none := by decide +kernel
  have some_ : (View.of (around.foldl (Coalesced.step .unit) (.new 9 999 9)).history).outputs
      "s/1/d/out:item:1" 0 = some 0 := by decide +kernel
  rw [none_, some_] at byte
  cases byte

end AgentConsole.Relay
