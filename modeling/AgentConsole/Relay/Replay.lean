import AgentConsole.Relay.Delivery
import AgentConsole.Relay.Window

/-! # Replaying a list stream

A subscriber of a session list folds the frames it receives into a view: for
each device, the sessions it shows and the presence reported since each of them
was last written.  A snapshot replaces the view of its device.  A subscriber
that joins late folds a replay window; one that was there from the start folds
the whole log.  Both see the same if the window holds every frame that no later
snapshot of its device supersedes. -/

namespace AgentConsole.Relay

open AgentConsole.Lib

/-! ## The view of a subscriber -/

/-- What identifies a session in the list. -/
abbrev SessionSlot := Option (String × Int × String)

def SessionSummary.slot (s : SessionSummary) : SessionSlot :=
  s.sessionKey.map fun key => (key.deviceId, key.agentKind, key.nativeSessionId)

/-- A session as last written, and the presence reported since then. -/
structure SessionEntry where
  summary : SessionSummary
  presence : Option DevicePresence
deriving DecidableEq

/-- The sessions of one device. -/
def DeviceView := SessionSlot → Option SessionEntry

namespace DeviceView

def empty : DeviceView := fun _ => none

def upsert (v : DeviceView) (s : SessionSummary) : DeviceView :=
  fun slot => if slot = s.slot then some ⟨s, none⟩ else v slot

def applyEvent (v : DeviceView) (e : DomainEvent) : DeviceView :=
  match e.event with
  | some (.sessionSummaryChanged s) => v.upsert s
  | some (.devicePresenceChanged (some p)) =>
    fun slot => (v slot).map fun entry => { entry with presence := some p }
  | _ => v

/-- One frame, as far as it concerns its device. -/
def apply (v : DeviceView) (f : Frame) : DeviceView :=
  match f.env.payload with
  | some (.sessionSummaryBatch batch) =>
    if batch.snapshot then batch.summaries.foldl upsert empty else v
  | some (.eventBatch batch) => batch.events.foldl applyEvent v
  | _ => v

end DeviceView

/-- The views of all devices. -/
def SessionView := String → DeviceView

namespace SessionView

def empty : SessionView := fun _ => .empty

def apply (v : SessionView) (f : Frame) : SessionView :=
  fun device => if f.env.deviceId = device then (v device).apply f else v device

/-- The view after a list of frames. -/
def after (v : SessionView) (frames : List Frame) : SessionView := frames.foldl apply v

end SessionView

/-- Events that a session list shows. -/
def Event.listed : Event → Bool
  | .sessionSummaryChanged _ | .devicePresenceChanged _ => true
  | _ => false

/-- A snapshot of the session list of a device. -/
def Frame.isListSnapshot (f : Frame) : Bool :=
  match f.env.payload with
  | some (.sessionSummaryBatch batch) => batch.snapshot
  | _ => false

/-- Frames that can change a view. -/
def Frame.listed (f : Frame) : Bool :=
  match f.env.payload with
  | some (.sessionSummaryBatch batch) => batch.snapshot
  | some (.eventBatch batch) => batch.events.any fun e => e.event.any Event.listed
  | _ => false

theorem DeviceView.foldl_applyEvent_silent {events : List DomainEvent}
    (silent : (events.any fun e => e.event.any Event.listed) = false) (v : DeviceView) :
    events.foldl applyEvent v = v := by
  induction events generalizing v with
  | nil => rfl
  | cons e rest inductionHypothesis =>
    rw [List.any_cons, Bool.or_eq_false_iff] at silent
    have unchanged : v.applyEvent e = v := by
      obtain ⟨emittedAt, event⟩ := e
      cases event with
      | none => rfl
      | some event =>
        cases event with
        | sessionSummaryChanged s => simp [Event.listed] at silent
        | devicePresenceChanged p => simp [Event.listed] at silent
        | _ => rfl
    rw [List.foldl_cons, unchanged, inductionHypothesis silent.2]

theorem DeviceView.apply_silent {f : Frame} (silent : f.listed = false) (v : DeviceView) :
    v.apply f = v := by
  unfold Frame.listed at silent
  unfold apply
  split
  · next batch payload =>
    rw [payload] at silent
    rw [if_neg (by simpa using silent)]
  · next batch payload =>
    rw [payload] at silent
    exact foldl_applyEvent_silent silent v
  · rfl

theorem DeviceView.apply_snapshot {f : Frame} (snapshot : f.isListSnapshot = true)
    (v v' : DeviceView) : v.apply f = v'.apply f := by
  unfold Frame.isListSnapshot at snapshot
  unfold apply
  split at snapshot
  · next batch payload => rw [payload]; simp [snapshot]
  · cases snapshot

/-- The frames that concern the view of one device. -/
def concerns (device : String) (f : Frame) : Bool := f.env.deviceId == device && f.listed

/-- The view of a device only depends on the frames that concern it. -/
theorem SessionView.after_device (v : SessionView) (frames : List Frame) (device : String) :
    v.after frames device = (frames.filter (concerns device)).foldl DeviceView.apply (v device) := by
  unfold after
  induction frames generalizing v with
  | nil => rfl
  | cons f rest inductionHypothesis =>
    rw [List.foldl_cons, inductionHypothesis]
    by_cases same : f.env.deviceId = device
    · cases listed : f.listed with
      | true => simp [apply, concerns, same, listed]
      | false => simp [apply, concerns, same, listed, DeviceView.apply_silent listed]
    · simp [apply, concerns, same]

/-! ## The condition -/

namespace DStream

/-- A frame that a joining subscriber needs: it can change the view of its
device, and no later snapshot of that device is in the log. -/
def Needs (ds : DStream) (f : Frame) : Prop :=
  ∃ before after, ds.log = before ++ f :: after ∧ f.listed = true ∧
    ∀ g ∈ after, g.isListSnapshot = true → g.env.deviceId ≠ f.env.deviceId

/-- The stream can still show a joining subscriber what it missed: every needed
frame survives, and the surviving frames either have no gap, or the needed
events all come after the newest snapshot and nothing after it is missing. -/
structure Replayable (ds : DStream) : Prop where
  survives : ∀ f, ds.Needs f → f ∈ ds.snapshots ∨ f ∈ ds.buffer.items
  reachable : ds.Gapless ∨
    ds.TailComplete ∧ ∀ f, ds.Needs f → f ∈ ds.snapshots ∨ ds.anchor < f.sequence

/-- What the buffer holds is from the log, or shows nothing. -/
structure FaithfulItems (ds : DStream) : Prop where
  origin : ∀ f ∈ ds.buffer.items, f ∈ ds.log ∨ f.listed = false
  output : ∀ f ∈ ds.buffer.items, ∀ key offset len,
    f.merge = some (.outputAppend key offset len) → f.listed = false

/-! ## What the buffer holds -/

theorem listed_withLastAppend {env : Envelope} {app : OutputAppend} {f : Frame}
    (silent : f.listed = false) (same : f.env = env) :
    ({ f with env := withLastAppend env app } : Frame).listed = false := by
  subst same
  unfold withLastAppend
  split
  · next batch payload =>
    split
    · next last found =>
      unfold Frame.listed at silent ⊢
      rw [payload] at silent
      simp only [List.any_append, Bool.or_eq_false_iff]
      refine ⟨?_, by simp [Event.listed]⟩
      rw [List.any_eq_false] at silent ⊢
      exact fun e member => silent e (List.dropLast_subset _ member)
    · exact silent
  · exact silent

theorem mergePair_silent {codec : Codec} {now : Nat} {a b m : Frame}
    (merged : mergePair codec now a b = some m)
    (output : ∀ key offset len, a.merge = some (.outputAppend key offset len) → a.listed = false) :
    m.listed = false := by
  unfold mergePair at merged
  split at merged
  · next key offset len _ _ _ left _ =>
    split at merged
    · cases merged
    · split at merged
      · dsimp only at merged
        split at merged
        · cases merged
        · cases merged
          exact listed_withLastAppend (output key offset len left) rfl
      · cases merged
  · cases merged

theorem classify_output {e : Event} {key : String} {offset len : Nat}
    (merge : (classify e).2 = some (.outputAppend key offset len)) : e.listed = false := by
  cases e with
  | sessionSummaryChanged s => simp [classify] at merge
  | devicePresenceChanged p => simp [classify] at merge
  | _ => rfl

theorem eventFrame_output (ctx : Ctx) (env : Envelope) (ds : DStream) (e : Event) {key : String}
    {offset len : Nat}
    (merge : (ds.eventFrame ctx env e).merge = some (.outputAppend key offset len)) :
    (ds.eventFrame ctx env e).listed = false := by
  have silent : e.listed = false := by
    obtain ⟨info, classified, keyed⟩ := Option.map_eq_some_iff.mp merge
    cases info with
    | outputAppend key' offset' len' => exact classify_output classified
    | replaceLatest key' => cases keyed
  have single : (ds.eventFrame ctx env e).listed = (e.listed || false) := rfl
  rw [single, silent]
  rfl

namespace FaithfulItems

variable {ds ds' : DStream}

theorem number (faithful : ds.FaithfulItems) (ctx : Ctx) {frame : Frame}
    (output : ∀ key offset len, frame.merge = some (.outputAppend key offset len) →
      frame.listed = false) :
    (ds.number ctx frame).1.FaithfulItems := by
  have all := insert_frames ctx.codec ctx.now ds.buffer frame
    (fun f => (f ∈ ds.log ++ [frame] ∨ f.listed = false) ∧
      ∀ key offset len, f.merge = some (.outputAppend key offset len) → f.listed = false)
    (fun a b m left _ merged => by
      have silent := mergePair_silent merged left.2
      exact ⟨.inr silent, fun _ _ _ _ => silent⟩)
    (fun f old => ⟨(faithful.origin f old).imp_left (List.mem_append_left _),
      faithful.output f old⟩)
    ⟨.inl (by simp), output⟩
  exact ⟨fun f member => (all f member).1, fun f member => (all f member).2⟩

/-- Every move keeps the buffer faithful. -/
theorem move (faithful : ds.FaithfulItems) {ctx : Ctx} {m : Move} (does : m.Does ctx ds ds') :
    ds'.FaithfulItems := by
  obtain ⟨origin, output⟩ := faithful
  cases m with
  | resubscribe => obtain ⟨subs, rfl⟩ := does; exact ⟨origin, output⟩
  | clear => cases does; exact ⟨by simp [clearCache, StreamBuffer.clear], by
      simp [clearCache, StreamBuffer.clear]⟩
  | advance => obtain ⟨-, -, rfl⟩ := does; exact ⟨origin, output⟩
  | rebind added => obtain ⟨ups, -, rfl⟩ := does; exact ⟨origin, output⟩
  | announce uid sub => obtain ⟨b, -, rfl⟩ := does; exact ⟨origin, output⟩
  | watermark uid sequence => obtain ⟨b, -, rfl⟩ := does; exact ⟨origin, output⟩
  | stash batch =>
    obtain ⟨-, rfl⟩ := does
    obtain ⟨_, _, _, same⟩ := pushPending_frame ctx.codec ds batch
    rw [same]
    exact ⟨origin, output⟩
  | event env e =>
    cases does
    exact number ⟨origin, output⟩ ctx fun _ _ _ => eventFrame_output ctx env ds e
  | presence device online =>
    cases does
    exact number ⟨origin, output⟩ ctx (by simp [presenceFrame, Frame.new, Frame.withUpstreamSeq])
  | snapshot uid env =>
    obtain ⟨b, -, rfl⟩ := does
    have sub := (retainUncovered_sublist ds.buffer env.deviceId b.snapshotCovers).subset
    exact ⟨fun f member => (origin f (sub member)).imp_left (List.mem_append_left _),
      fun f member => output f (sub member)⟩

end FaithfulItems

/-! ## The window shows the same as the log -/

variable {ds : DStream}

theorem Replayable.needed_mem (replayable : ds.Replayable) (numbered : ds.WellNumbered)
    {f : Frame} (needed : ds.Needs f) : f ∈ ds.replayWindow.2 := by
  obtain ⟨-, -, snapshotsIn⟩ := numbered.window
  rcases replayable.survives f needed with snapshot | item
  · exact snapshotsIn f snapshot
  have survives : f ∈ ds.survivingFrames := mem_survivingFrames.mpr (.inr item)
  cases full : ds.fullReplay with
  | some window =>
    obtain ⟨first, rest, surviving, frames, -⟩ := fullReplay_eq_some full
    unfold replayWindow
    rw [full, Option.getD_some, frames, ← surviving]
    exact survives
  | none =>
    rcases replayable.reachable with gapless | ⟨complete, above⟩
    · obtain ⟨base, found⟩ :=
        numbered.fullReplay_of_gapless gapless (List.ne_nil_of_mem survives)
      rw [found] at full
      cases full
    · rcases above f needed with snapshot | after
      · exact snapshotsIn f snapshot
      · unfold replayWindow
        rw [full, Option.getD_none, numbered.anchoredReplay_of_complete complete,
          mem_sortBySequence]
        exact List.mem_append_right _ (mem_anchoredTail.mpr ⟨item, after⟩)

/-- For each device, the window is the log with some frames left out. -/
theorem window_filter (numbered : ds.WellNumbered) (faithful : ds.FaithfulItems)
    (device : String) :
    ds.replayWindow.2.filter (concerns device) =
      (ds.log.filter (concerns device)).filter (fun f => decide (f ∈ ds.replayWindow.2)) := by
  obtain ⟨increasing, from_, -⟩ := numbered.window
  refine eq_of_strictly_increasing Frame.sequence
    (increasing.sublist (List.filter_sublist.map _))
    (numbered.log_lt.sublist ((List.filter_sublist.trans List.filter_sublist).map _)) fun f => ?_
  simp only [List.mem_filter, decide_eq_true_eq]
  constructor
  · rintro ⟨member, concerned⟩
    refine ⟨⟨?_, concerned⟩, member⟩
    rcases from_ f member with snapshot | item
    · exact numbered.snapshots.subset snapshot
    · rcases faithful.origin f item with logged | silent
      · exact logged
      · simp [concerns, silent] at concerned
  · rintro ⟨⟨-, concerned⟩, member⟩
    exact ⟨member, concerned⟩

theorem Replayable.lasting (replayable : ds.Replayable) (numbered : ds.WellNumbered)
    (device : String) :
    Lasting Frame.isListSnapshot (fun f => decide (f ∈ ds.replayWindow.2))
      (ds.log.filter (concerns device)) := by
  intro before f after split quiet
  rw [decide_eq_true_eq]
  refine replayable.needed_mem numbered ?_
  obtain ⟨front, back, log, -, tail⟩ := List.filter_eq_append_iff.mp split
  obtain ⟨skipped, later, backEq, -, concerned, laterEq⟩ := List.filter_eq_cons_iff.mp tail
  simp only [concerns, Bool.and_eq_true, beq_iff_eq] at concerned
  refine ⟨front ++ skipped, later, by rw [log, backEq, List.append_assoc], concerned.2, ?_⟩
  intro g member snapshot same
  -- a later snapshot of the device would be in `after`
  have listed : g.listed = true := by
    unfold Frame.isListSnapshot at snapshot
    unfold Frame.listed
    split at snapshot
    · next payload => rw [payload]; exact snapshot
    · cases snapshot
  have inAfter : g ∈ after := by
    rw [← laterEq, List.mem_filter]
    exact ⟨member, by simp [concerns, listed, same, concerned.1]⟩
  have := List.all_eq_true.mp quiet g inAfter
  simp [snapshot] at this

/-- A subscriber that folds the window of a replayable stream ends with the view
of one that folded the whole log; where the log has a snapshot of the device,
whatever it knew before. -/
theorem Replayable.same_view (replayable : ds.Replayable) (numbered : ds.WellNumbered)
    (faithful : ds.FaithfulItems) (device : String) :
    SessionView.empty.after ds.replayWindow.2 device = SessionView.empty.after ds.log device ∧
      ∀ start : SessionView, (ds.log.filter (concerns device)).any Frame.isListSnapshot = true →
        start.after ds.replayWindow.2 device = SessionView.empty.after ds.log device := by
  have lasting := replayable.lasting numbered device
  have resets : ∀ f, f.isListSnapshot = true →
      ∀ v v' : DeviceView, v.apply f = v'.apply f :=
    fun f snapshot => DeviceView.apply_snapshot snapshot
  constructor
  · rw [SessionView.after_device, SessionView.after_device, window_filter numbered faithful device]
    exact foldl_filter_of_lasting resets lasting _
  · intro start snapshot
    rw [SessionView.after_device, SessionView.after_device, window_filter numbered faithful device]
    exact foldl_filter_of_reset resets lasting snapshot _ _

end DStream

/-! ## Runs -/

/-- The connection joins the stream at `key` in this step: it subscribes, or it
asks for a resync. -/
def HubStep.Joins (h : HubInner) (s : HubStep) (conn : Uuid) (key : DKey) : Prop :=
  (∃ correlation fresh, s.op = .subscribeAttach conn key correlation fresh) ∨
  ∃ streamId correlation, s.op = .browserResync conn streamId correlation ∧
    h.findStream streamId = some key

/-- List streams that have a snapshot are replayable whenever a subscriber
joins. -/
def ReplayableAtJoins (h : HubInner) (s : HubStep) : Prop :=
  ∀ conn owner ds, s.Joins h conn (owner, .list) → h.streams.get? (owner, .list) = some ds →
    ds.snapshots ≠ [] → ds.Replayable

/-- A subscriber that joins a list stream and is active at once has been sent
frames which, folded, show for every device what the whole log shows. -/
def ReplaysLive (h : HubInner) (s : HubStep) : Prop :=
  ∀ conn owner bc ds', s.Joins h conn (owner, .list) → h.browsers.get? conn = some bc →
    (h.step s).streams.get? (owner, .list) = some ds' → ds'.active conn = true →
    ∃ bc' wire frames, (h.step s).browsers.get? conn = some bc' ∧
      bc'.accepted = bc.accepted ++ .direct wire :: frames.map .frame ∧
      ∀ device, SessionView.empty.after frames device = SessionView.empty.after ds'.log device ∧
        ∀ start : SessionView, (ds'.log.filter (concerns device)).any Frame.isListSnapshot = true →
          start.after frames device = SessionView.empty.after ds'.log device

/-- A subscriber is attached to the stream at the key, or to a new one. -/
theorem HubInner.subscribeAttach_spec (h : HubInner) (ctx : Ctx) {conn : Uuid} {bc : BrowserConn}
    (key : DKey) (correlation : String) (fresh : Uuid) (connected : h.browsers.get? conn = some bc) :
    ∃ ds, (h.streams.get? key = some ds ∨ h.streams.get? key = none ∧ ds = .new key fresh) ∧
      (h.subscribeAttach ctx conn key correlation fresh).streams.get? key =
        some (StreamCell.attachSubscriber ctx conn correlation (.ofStream ds h.browsers)).ds ∧
      (h.subscribeAttach ctx conn key correlation fresh).browsers =
        (StreamCell.attachSubscriber ctx conn correlation (.ofStream ds h.browsers)).browsers := by
  have contains : h.browsers.contains conn = true := by simp [FiniteMap.contains, connected]
  unfold subscribeAttach
  rw [if_pos contains]
  dsimp only
  obtain ⟨ds, origin, ensured⟩ : ∃ ds,
      (h.streams.get? key = some ds ∨ h.streams.get? key = none ∧ ds = .new key fresh) ∧
      (h.ensureStream key fresh).streams.get? key = some ds := by
    unfold ensureStream
    split
    · next there =>
      obtain ⟨ds, found⟩ := Option.isSome_iff_exists.mp there
      exact ⟨ds, .inl found, found⟩
    · next missing =>
      have absent : h.streams.get? key = none := by simpa [FiniteMap.contains] using missing
      exact ⟨_, .inr ⟨absent, rfl⟩, FiniteMap.get?_insert_self _ _ _⟩
  refine ⟨ds, origin, ?_, ?_⟩
  · rw [onStream_streams_get?, if_pos rfl, ensured, ensureStream_browsers]
    rfl
  · refine (onStream_browsers (by exact ensured)).trans ?_
    rw [ensureStream_browsers]

/-- What every run keeps of its streams. -/
structure ReplayInvariant (h : HubInner) : Prop where
  numbered : h.WellNumbered
  faithful : ∀ key ds, h.streams.get? key = some ds → ds.FaithfulItems
  keys : ∀ key ds, h.streams.get? key = some ds → ds.key = key

theorem DStream.key_move {ctx : Ctx} {m : Move} {ds ds' : DStream} (does : m.Does ctx ds ds') :
    ds'.key = ds.key := by
  cases m with
  | resubscribe => obtain ⟨subs, rfl⟩ := does; rfl
  | clear => cases does; rfl
  | advance => obtain ⟨-, -, rfl⟩ := does; rfl
  | rebind added => obtain ⟨ups, -, rfl⟩ := does; rfl
  | announce uid sub => obtain ⟨b, -, rfl⟩ := does; rfl
  | watermark uid sequence => obtain ⟨b, -, rfl⟩ := does; rfl
  | stash batch =>
    obtain ⟨-, rfl⟩ := does
    obtain ⟨_, _, _, same⟩ := pushPending_frame ctx.codec ds batch
    rw [same]
  | event env e => cases does; rfl
  | presence device online => cases does; rfl
  | snapshot uid env => obtain ⟨b, -, rfl⟩ := does; rfl

namespace ReplayInvariant

variable {h : HubInner} {s : HubStep}

theorem new : ReplayInvariant .new where
  numbered := HubInner.WellNumbered.new
  faithful := by simp [HubInner.new]
  keys := by simp [HubInner.new]

theorem step (invariant : ReplayInvariant h) (s : HubStep) : ReplayInvariant (h.step s) where
  numbered := invariant.numbered.step s
  faithful := HubInner.step_invariant (P := fun _ ds => ds.FaithfulItems)
    (fun _ _ => ⟨by simp [DStream.new, StreamBuffer.new], by simp [DStream.new, StreamBuffer.new]⟩)
    (fun _ _ _ _ _ does holds => holds.move does) invariant.faithful
  keys := HubInner.step_invariant (P := fun key ds => ds.key = key) (fun _ _ => rfl)
    (fun _ _ _ _ _ does holds => (DStream.key_move does).trans holds) invariant.keys

/-- The frames of a join, seen through the invariant. -/
theorem same_view (invariant : ReplayInvariant h) {key : DKey} {ds : DStream}
    (found : h.streams.get? key = some ds) (replayable : ds.Replayable) (device : String) :
    SessionView.empty.after ds.replayWindow.2 device = SessionView.empty.after ds.log device ∧
      ∀ start : SessionView, (ds.log.filter (concerns device)).any Frame.isListSnapshot = true →
        start.after ds.replayWindow.2 device = SessionView.empty.after ds.log device :=
  replayable.same_view (invariant.numbered key ds found) (invariant.faithful key ds found) device

theorem replaysLive (invariant : ReplayInvariant h) (ready : ReplayableAtJoins h s) :
    ReplaysLive h s := by
  intro conn owner bc ds' joins connected present active
  -- in both cases one stream operation serves the window of the stream that was there
  suffices served : ∃ ds bc' len, h.streams.get? (owner, .list) = some ds ∧ ds.snapshots ≠ [] ∧
      ds'.log = ds.log ∧ (h.step s).browsers.get? conn = some bc' ∧
      bc'.accepted = bc.accepted ++ .direct len :: ds.replayWindow.2.map .frame by
    obtain ⟨ds, bc', wire, found, hasSnapshot, log, conn', history⟩ := served
    refine ⟨bc', wire, ds.replayWindow.2, conn', history, fun device => ?_⟩
    rw [log]
    exact invariant.same_view found (ready conn owner ds joins found hasSnapshot) device
  rcases joins with ⟨correlation, fresh, op⟩ | ⟨streamId, correlation, op, target⟩
  · obtain ⟨ds, origin, stream, browsers⟩ :=
      h.subscribeAttach_spec s.ctx (owner, .list) correlation fresh connected
    have stepEq : h.step s = h.subscribeAttach s.ctx conn (owner, .list) correlation fresh := by
      rw [HubInner.step, op]
    rw [stepEq, stream] at present
    cases present
    obtain ⟨hasSnapshot, bc', len, conn', history, -⟩ :=
      StreamCell.attachSubscriber_active (c := .ofStream ds h.browsers) connected active
    rcases origin with found | ⟨-, rfl⟩
    · exact ⟨ds, bc', _, found, hasSnapshot, StreamCell.attachSubscriber_log, by
        rw [stepEq, browsers]; exact conn', history⟩
    · exact absurd rfl hasSnapshot
  · have stepEq : h.step s = h.onStream s.ctx (owner, .list)
        (·.browserResync s.ctx conn correlation) := by
      rw [HubInner.step, op]
      dsimp only
      rw [HubInner.browserResync, target]
    rw [stepEq, HubInner.onStream_streams_get?, if_pos rfl, Option.map_eq_some_iff] at present
    obtain ⟨ds, found, rfl⟩ := present
    obtain ⟨hasSnapshot, bc', len, conn', history, -⟩ :=
      StreamCell.browserResync_active (c := .ofStream ds h.browsers) connected active
    refine ⟨ds, bc', _, found, hasSnapshot, StreamCell.browserResync_log, ?_, history⟩
    rw [stepEq, HubInner.onStream_browsers found]
    exact conn'

end ReplayInvariant

/-- In every run of the hub in which list streams are replayable whenever a
subscriber joins, each subscriber that joins a list stream and is served at once
ends with the view of one that received every frame live. -/
theorem joining_replays_live (steps : List HubStep)
    (run : Along HubInner.step ReplayableAtJoins .new steps) :
    Along HubInner.step ReplaysLive .new steps :=
  Along.of_invariant (I := ReplayInvariant) (fun _ s invariant _ => invariant.step s)
    (fun _ _ invariant ready => invariant.replaysLive ready) ReplayInvariant.new run

/-! ### Runs that lose nothing -/

/-- Every frame the stream has numbered survives. -/
def DStream.Complete (ds : DStream) : Prop :=
  (∀ f ∈ ds.log, f ∈ ds.snapshots ∨ f ∈ ds.buffer.items) ∧ ds.Gapless

instance (ds : DStream) : Decidable ds.Gapless := by
  unfold DStream.Gapless
  infer_instance

instance (ds : DStream) : Decidable ds.Complete := by
  unfold DStream.Complete
  infer_instance

theorem DStream.Complete.replayable {ds : DStream} (complete : ds.Complete) : ds.Replayable where
  survives := by
    rintro f ⟨before, after, log, -⟩
    exact complete.1 f (by rw [log]; simp)
  reachable := .inl complete.2

/-- Streams that have lost nothing are replayable, whoever joins. -/
theorem replayableAtJoins_of_complete {h : HubInner} {s : HubStep}
    (complete : ∀ entry ∈ h.streams.toList, entry.2.snapshots = [] ∨ entry.2.Complete) :
    ReplayableAtJoins h s := by
  intro conn owner ds joins found hasSnapshot
  rcases complete _ (FiniteMap.mem_toList.mpr found) with none_ | kept
  · exact absurd none_ hasSnapshot
  · exact kept.replayable

namespace SessionList

def owner : Uuid := .ofLast 'a'
def device : Uuid := .ofLast 'd'
def upstream : String := upstreamStreamId device .list

def summary (name : String) : SessionSummary := ⟨some ⟨device.text, 1, name, ""⟩, ""⟩

/-- A message of the device at time `now`. -/
def message (now sequence : Nat) (payload : Payload) : HubStep :=
  ⟨.idle now, .bridgeEnvelope device
    { baseEnvelope now device.text payload with streamId := upstream, sequence }⟩

def snapshot (now sequence : Nat) (name : String) : HubStep :=
  message now sequence (.sessionSummaryBatch ⟨[summary name], true⟩)

def change (now sequence : Nat) (name : String) : HubStep :=
  message now sequence (.sessionSummaryBatch ⟨[summary name], false⟩)

def connect (conn : Uuid) : HubStep := ⟨.idle 0, .registerBrowser conn ⟨conn, owner, 0⟩⟩

def attach (conn : Uuid) : HubStep :=
  ⟨.idle 0, .subscribeAttach conn (owner, .list) "" (.ofLast 's')⟩

/-- Browser `b` opens the list, the device sends its snapshot and a change;
browser `c` connects. -/
def opening : List HubStep :=
  [connect (.ofLast 'b'),
    ⟨.idle 0, .subscribeBind (.ofLast 'b') (owner, .list) [(device, .list)] (.ofLast 's')⟩,
    attach (.ofLast 'b'), message 0 0 (.subscribed ⟨upstream, 7, 1⟩), snapshot 0 1 "x",
    change 0 2 "y", connect (.ofLast 'c')]

/-- The next change comes 16 minutes later: the retention of the buffer drops
the first one. -/
def late : HubStep := change (16 * 60 * 1000000000) 3 "z"

end SessionList

open SessionList in
theorem joining_replays_live_opening :
    Along HubInner.step ReplaysLive .new (opening ++ [attach (.ofLast 'c')]) ∧
      ((HubInner.new.run (opening ++ [attach (.ofLast 'c')])).browsers.get? (.ofLast 'c')).map
        (·.accepted.length) = some 3 := by
  refine ⟨joining_replays_live _ ?_, by decide +kernel⟩
  have complete : Along HubInner.step
      (fun h _ => ∀ entry ∈ h.streams.toList, entry.2.snapshots = [] ∨ entry.2.Complete)
      .new (opening ++ [attach (.ofLast 'c')]) := by
    decide +kernel
  exact Along.of_invariant (I := fun _ => True) (fun _ _ _ _ => trivial)
    (fun _ _ _ => replayableAtJoins_of_complete) trivial complete

open SessionList in
/-- Once the buffer has a hole, a joining subscriber is served the snapshot
alone and misses the changes after it, the recent one included. -/
theorem expired_change_is_not_replayed :
    ¬ ∀ steps : List HubStep, Along HubInner.step ReplaysLive .new steps := by
  intro claim
  have replays := (claim ((opening ++ [late]) ++ [attach (.ofLast 'c')])).at_step
  generalize reached : (opening ++ [late]).foldl HubInner.step .new = h at replays
  have facts : ((h.browsers.get? (.ofLast 'c')).map (·.accepted) = some []) ∧
      (((h.step (attach (.ofLast 'c'))).browsers.get? (.ofLast 'c')).map fun bc =>
        (SessionView.empty.after (bc.accepted.filterMap OutItem.frame?) device.text
          (summary "z").slot).isSome) = some false ∧
      (((h.step (attach (.ofLast 'c'))).streams.get? (owner, .list)).map fun ds =>
        (ds.active (.ofLast 'c'), (SessionView.empty.after ds.log device.text
          (summary "z").slot).isSome)) = some (true, true) := by
    rw [← reached]
    decide +kernel
  obtain ⟨connected, served, live⟩ := facts
  obtain ⟨bc, found, fresh⟩ := Option.map_eq_some_iff.mp connected
  obtain ⟨ds', present, values⟩ := Option.map_eq_some_iff.mp live
  simp only [Prod.mk.injEq] at values
  obtain ⟨bc', wire, frames, conn', history, same⟩ :=
    replays (.ofLast 'c') owner bc ds' (.inl ⟨_, _, rfl⟩) found present values.1
  rw [fresh, List.nil_append] at history
  have sent : bc'.accepted.filterMap OutItem.frame? = frames := by
    rw [history, List.filterMap_cons_none rfl, List.filterMap_map]
    exact List.filterMap_some
  rw [conn', Option.map_some, sent, (same device.text).1, values.2] at served
  cases served

end AgentConsole.Relay
