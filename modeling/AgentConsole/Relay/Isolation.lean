import AgentConsole.Relay.Dedup
import AgentConsole.Relay.Delivery

/-! # What a Bridge's message can reach

A message of a Bridge is routed by the stream id or the request id it carries,
and neither is compared with the sender.  `Isolated` says that a message leaves
everything alone that has nothing to do with its sender; it holds for every
message under an address if and only if the address is one of the sender. -/

namespace AgentConsole.Relay

open AgentConsole.Lib

/-- The stream has an upstream on `device`. -/
def DStream.boundTo (device : Uuid) (ds : DStream) : Bool :=
  ds.upstreams.values.any (·.device == device)

/-- The connection subscribes to a stream with an upstream on `device`, or has
asked `device` for something. -/
def HubInner.inAudience (device conn : Uuid) (h : HubInner) : Bool :=
  (h.streams.values.any fun ds => ds.boundTo device && ds.subscribers.contains conn) ||
    h.commands.values.any fun p => p.device == device && p.connId == conn

/-- The command a Bridge's message answers. -/
def Envelope.answers (env : Envelope) : Option String :=
  match env.payload with
  | some (.commandAccepted accepted) => some accepted.requestId
  | some (.commandResult result) => some result.requestId
  | _ => none

/-- `env` of `device` leaves alone the routes, the streams without an upstream on
`device`, what goes to connections outside the audience of `device`, and the
commands that wait for other devices. -/
structure Isolated (ctx : Ctx) (device : Uuid) (env : Envelope) (h : HubInner) : Prop where
  routes : (h.handleBridgeEnvelope ctx device env).upstreamIndex = h.upstreamIndex
  streams : ∀ key ds, h.streams.get? key = some ds → ds.boundTo device = false →
    (h.handleBridgeEnvelope ctx device env).streams.get? key = some ds
  connections : ∀ conn, h.inAudience device conn = false →
    (h.handleBridgeEnvelope ctx device env).browsers.get? conn = h.browsers.get? conn
  commands : ∀ requestId p, h.commands.get? requestId = some p → p.device ≠ device →
    (h.handleBridgeEnvelope ctx device env).commands.get? requestId = some p

/-- The stream id is free or names a stream with an upstream on `device`, and the
request id is free or names a command to `device`. -/
def HubInner.AddressedTo (device : Uuid) (streamId requestId : String) (h : HubInner) : Prop :=
  (h.bindingOf streamId).all (fun x => x.2.1.boundTo device) = true ∧
    (h.commands.get? requestId).all (fun p => p.device == device) = true

instance (device : Uuid) (streamId requestId : String) (h : HubInner) :
    Decidable (h.AddressedTo device streamId requestId) := by
  unfold HubInner.AddressedTo
  infer_instance

/-! ## An operation on one stream -/

namespace StreamCell

variable {ctx : Ctx} {c mid c' : StreamCell}

/-- Only connections of subscribers are touched, and nobody is subscribed. -/
structure Within (c c' : StreamCell) : Prop where
  browsers : ∀ conn, c.ds.subscribers.contains conn = false →
    c'.browsers.get? conn = c.browsers.get? conn
  subscribers : ∀ conn, c'.ds.subscribers.contains conn = true →
    c.ds.subscribers.contains conn = true

namespace Within

theorem refl (c : StreamCell) : Within c c := ⟨fun _ _ => rfl, fun _ subscribed => subscribed⟩

theorem trans (first : Within c mid) (rest : Within mid c') : Within c c' where
  browsers conn outside := by
    have stillOutside : mid.ds.subscribers.contains conn = false := by
      cases subscribed : mid.ds.subscribers.contains conn with
      | false => rfl
      | true => rw [first.subscribers conn subscribed] at outside; cases outside
    rw [rest.browsers conn stillOutside, first.browsers conn outside]
  subscribers conn subscribed := first.subscribers conn (rest.subscribers conn subscribed)

/-- An operation that leaves subscribers and connections alone. -/
theorem of_same (subscribers : c'.ds.subscribers = c.ds.subscribers)
    (browsers : c'.browsers = c.browsers) : Within c c' :=
  ⟨fun _ _ => by rw [browsers], fun _ subscribed => subscribers ▸ subscribed⟩

end Within

/-- An active connection is a subscriber. -/
theorem subscribed_of_active {ds : DStream} {conn : Uuid} (active : ds.active conn = true) :
    ds.subscribers.contains conn = true := by
  unfold DStream.active at active
  unfold FiniteMap.contains
  cases found : ds.subscribers.get? conn with
  | none => rw [found] at active; cases active
  | some s => rfl

theorem detachFailed_within {conns : List Uuid}
    (subscribed : ∀ conn ∈ conns, c.ds.subscribers.contains conn = true) :
    Within c (c.detachFailed ctx conns) := by
  refine ⟨fun conn outside => ?_, fun conn kept => ?_⟩
  · refine FiniteMap.get?_mapVal_of_fixed fun bc => if_neg fun member => ?_
    rw [subscribed conn (by simpa using member)] at outside
    cases outside
  · unfold detachFailed FiniteMap.contains at kept
    obtain ⟨s, found⟩ := Option.isSome_iff_exists.mp kept
    unfold FiniteMap.contains
    rw [(FiniteMap.get?_of_filter found).1]
    rfl

/-- `ResyncRequired` goes to subscribers only. -/
theorem notifyResync_within {ds : DStream} (same : ds.subscribers = c.ds.subscribers)
    {detached : List Uuid} {outgoing : List (Uuid × Envelope)} :
    Within c ⟨ds, ds.notifyResync ctx c.browsers, detached, outgoing⟩ := by
  refine ⟨fun conn outside => ?_, fun conn kept => same ▸ kept⟩
  refine FiniteMap.get?_mapVal_of_fixed fun bc => if_neg ?_
  rw [same, outside]
  exact Bool.false_ne_true

@[simp] theorem number_subscribers (frame : Frame) (ds : DStream) :
    (ds.number ctx frame).1.subscribers = ds.subscribers := rfl

/-- One event reaches subscribers only, and the slow consumers are among them. -/
theorem emitEvent_within (ctx : Ctx) (env : Envelope) (acc : StreamCell × List Uuid) (event : Event) :
    Within acc.1 (emitEvent ctx env acc event).1 ∧
      (emitEvent ctx env acc event).1.ds.subscribers = acc.1.ds.subscribers ∧
      ∀ conn ∈ (emitEvent ctx env acc event).2,
        conn ∈ acc.2 ∨ acc.1.ds.subscribers.contains conn = true := by
  unfold emitEvent
  dsimp only
  cases (acc.1.ds.number ctx (acc.1.ds.eventFrame ctx env event)).2 with
  | overflowReset =>
    exact ⟨notifyResync_within (number_subscribers _ _), rfl, fun conn member => .inl member⟩
  | buffered =>
    refine ⟨?_, rfl, ?_⟩
    · refine ⟨fun conn outside => ?_, fun conn kept => kept⟩
      refine FiniteMap.get?_mapVal_of_fixed fun bc => if_neg fun active => ?_
      have subscribed := subscribed_of_active active
      rw [number_subscribers, outside] at subscribed
      cases subscribed
    · intro conn member
      rcases List.mem_append.mp member with earlier | slow
      · exact .inl earlier
      · obtain ⟨⟨conn', bc⟩, refused, rfl⟩ := List.mem_map.mp slow
        have active := (List.mem_filter.mp refused).2
        simp only [Bool.and_eq_true] at active
        exact .inr (subscribed_of_active active.1)

theorem foldl_emitEvent_within (ctx : Ctx) (env : Envelope) (events : List Event)
    (acc : StreamCell × List Uuid) :
    Within acc.1 (events.foldl (emitEvent ctx env) acc).1 ∧
      (events.foldl (emitEvent ctx env) acc).1.ds.subscribers = acc.1.ds.subscribers ∧
      ∀ conn ∈ (events.foldl (emitEvent ctx env) acc).2,
        conn ∈ acc.2 ∨ acc.1.ds.subscribers.contains conn = true := by
  induction events generalizing acc with
  | nil => exact ⟨Within.refl _, rfl, fun conn member => .inl member⟩
  | cons event rest inductionHypothesis =>
    obtain ⟨first, same, slow⟩ := emitEvent_within ctx env acc event
    obtain ⟨later, same', slow'⟩ := inductionHypothesis (emitEvent ctx env acc event)
    refine ⟨first.trans later, same'.trans same, fun conn member => ?_⟩
    rcases slow' conn member with earlier | subscribed
    · exact slow conn earlier
    · exact .inr (same ▸ subscribed)

theorem emitEvents_within (env : Envelope) (events : List Event) (c : StreamCell) :
    Within c ((events.foldl (emitEvent ctx env) (c, [])).1.detachFailed ctx
      (events.foldl (emitEvent ctx env) (c, [])).2) := by
  obtain ⟨emitted, same, slow⟩ := foldl_emitEvent_within ctx env events (c, [])
  refine emitted.trans (detachFailed_within fun conn member => ?_)
  rcases slow conn member with absent | subscribed
  · cases absent
  · rw [same]
    exact subscribed

theorem stash_within (batch : PendingUpstreamBatch) : Within c (c.stash ctx batch) := by
  have pushed : (c.ds.pushPending ctx.codec batch).1.subscribers = c.ds.subscribers := by
    obtain ⟨batches, events, bytes, same⟩ := DStream.pushPending_frame ctx.codec c.ds batch
    rw [same]
  unfold stash
  dsimp only
  split
  · have notified : Within c ⟨(c.ds.pushPending ctx.codec batch).1,
        (c.ds.pushPending ctx.codec batch).1.notifyResync ctx c.browsers, c.detached,
        c.outgoing⟩ := notifyResync_within pushed
    refine notified.trans ⟨fun conn _ => rfl, fun conn kept => ?_⟩
    -- the refresh makes every subscriber wait and adds none
    simpa [DStream.refreshSnapshotEnvs, DStream.awaitAll, DStream.clearCache,
      DStream.clearPending, FiniteMap.contains] using kept
  · exact Within.of_same pushed rfl

theorem fanOutEvents_within (upstreamId : String) (env : Envelope) (events : List Event) :
    Within c (c.fanOutEvents ctx upstreamId env events) := by
  unfold fanOutEvents
  cases c.ds.upstreams.get? upstreamId with
  | none => exact Within.refl c
  | some binding =>
    dsimp only
    split
    · exact Within.refl c
    · split
      · exact Within.refl c
      · split
        · exact stash_within _
        · refine Within.trans ?_ (emitEvents_within env events _)
          exact Within.of_same rfl rfl

theorem handleUpstreamSubscribed_within (upstreamId : String) (sub : Subscribed) :
    Within c (c.handleUpstreamSubscribed ctx upstreamId sub) := by
  unfold handleUpstreamSubscribed
  cases c.ds.upstreams.get? upstreamId with
  | none => exact Within.refl c
  | some binding =>
    dsimp only
    split
    · exact Within.of_same rfl rfl
    · refine ⟨fun conn outside => ?_, fun conn kept => ?_⟩
      · refine FiniteMap.get?_mapVal_of_fixed fun bc => if_neg ?_
        simpa [DStream.awaitAll, DStream.clearCache, DStream.clearPending, FiniteMap.contains]
          using outside
      · simpa [DStream.awaitAll, DStream.clearCache, DStream.clearPending, FiniteMap.contains]
          using kept

theorem serveSnapshot_within (frame : Frame) : Within c (c.serveSnapshot ctx frame) := by
  unfold serveSnapshot
  dsimp only
  have absent {conn : Uuid} (outside : c.ds.subscribers.contains conn = false) :
      c.ds.subscribers.get? conn = none := by
    simpa [FiniteMap.contains] using outside
  refine Within.trans ⟨fun conn outside => ?_, fun conn kept => ?_⟩ (detachFailed_within ?_)
  · refine FiniteMap.get?_mapVal_of_fixed fun bc => ?_
    rw [absent outside]
    rfl
  · simpa [FiniteMap.contains] using kept
  · intro conn member
    obtain ⟨⟨conn', bc⟩, refused, rfl⟩ := List.mem_map.mp member
    have pushed := (List.mem_filter.mp refused).2
    dsimp only at pushed ⊢
    unfold FiniteMap.contains
    rw [FiniteMap.get?_mapVal, Option.isSome_map]
    cases found : c.ds.subscribers.get? conn' with
    | none => rw [found] at pushed; cases pushed
    | some s => rfl

theorem handleUpstreamSnapshot_within (upstreamId : String) (env : Envelope) :
    Within c (c.handleUpstreamSnapshot ctx upstreamId env) := by
  unfold handleUpstreamSnapshot
  cases c.ds.upstreams.get? upstreamId with
  | none => exact Within.refl c
  | some binding =>
    refine Within.trans ?_ (serveSnapshot_within _)
    exact Within.of_same rfl rfl

theorem handleResyncRequired_within (sender : Uuid) (upstreamId : String) :
    Within c (c.handleResyncRequired ctx sender upstreamId) := by
  unfold handleResyncRequired
  cases c.ds.upstreams.get? upstreamId with
  | none => exact Within.refl c
  | some binding => exact Within.of_same rfl rfl

end StreamCell

/-! ## A message -/

namespace HubInner

variable {ctx : Ctx} {h mid h' : HubInner} {key : DKey}

/-- The connection subscribes to the stream at `key`. -/
def subscribes (key : DKey) (conn : Uuid) (h : HubInner) : Bool :=
  (h.streams.get? key).any (·.subscribers.contains conn)

/-- Only the stream at `scope` and its subscribers are touched. -/
structure Confined (scope : Option DKey) (h h' : HubInner) : Prop where
  routes : h'.upstreamIndex = h.upstreamIndex
  streams : ∀ key, key ∉ scope → h'.streams.get? key = h.streams.get? key
  connections : ∀ conn, (∀ key ∈ scope, h.subscribes key conn = false) →
    h'.browsers.get? conn = h.browsers.get? conn
  subscribers : ∀ key ∈ scope, ∀ conn, h'.subscribes key conn = true →
    h.subscribes key conn = true
  commands : h'.commands = h.commands

namespace Confined

variable {scope : Option DKey}

theorem refl (scope : Option DKey) (h : HubInner) : Confined scope h h :=
  ⟨rfl, fun _ _ => rfl, fun _ _ => rfl, fun _ _ _ subscribed => subscribed, rfl⟩

theorem trans (first : Confined scope h mid) (rest : Confined scope mid h') :
    Confined scope h h' where
  routes := rest.routes.trans first.routes
  streams key apart := (rest.streams key apart).trans (first.streams key apart)
  connections conn outside := by
    have stillOutside : ∀ key ∈ scope, mid.subscribes key conn = false := by
      intro key within
      cases subscribed : mid.subscribes key conn with
      | false => rfl
      | true =>
        have before := first.subscribers key within conn subscribed
        rw [outside key within] at before
        cases before
    rw [rest.connections conn stillOutside, first.connections conn outside]
  subscribers key within conn subscribed :=
    first.subscribers key within conn (rest.subscribers key within conn subscribed)
  commands := rest.commands.trans first.commands

end Confined

theorem onStream_absent {op : StreamCell → StreamCell} (absent : h.streams.get? key = none) :
    h.onStream ctx key op = h := by
  simp [onStream, updateStream, absent, sendAll]

theorem onStream_confined {op : StreamCell → StreamCell}
    (within : ∀ c, StreamCell.Within c (op c)) (key : DKey) (h : HubInner) :
    Confined (some key) h (h.onStream ctx key op) := by
  cases found : h.streams.get? key with
  | none =>
    rw [onStream_absent found]
    exact .refl _ h
  | some ds =>
    have local_ := within (.ofStream ds h.browsers)
    refine ⟨onStream_upstreamIndex _ _ _, fun other apart => ?_, fun conn outside => ?_, ?_, ?_⟩
    · rw [onStream_streams_get?, if_neg (by rintro rfl; exact apart rfl)]
    · rw [onStream_browsers found]
      have outside := outside key rfl
      rw [subscribes, found] at outside
      exact local_.browsers conn outside
    · rintro _ ⟨⟩ conn subscribed
      rw [subscribes, onStream_streams_get?, if_pos rfl, found] at subscribed
      rw [subscribes, found]
      exact local_.subscribers conn subscribed
    · simp [onStream, updateStream, found]

/-- A stream operation on a bound upstream stays with its stream; on any other
id it does nothing. -/
theorem onUpstream_confined {op : StreamCell → StreamCell} {upstreamId : String}
    (within : ∀ c, StreamCell.Within c (op c))
    (unbound : ∀ c, c.ds.upstreams.get? upstreamId = none → op c = c) :
    Confined ((h.bindingOf upstreamId).map (·.1)) h (h.onUpstream ctx upstreamId op) := by
  unfold onUpstream
  cases routed : h.upstreamIndex.get? upstreamId with
  | none => exact .refl _ h
  | some key =>
    dsimp only
    cases found : h.streams.get? key with
    | none =>
      rw [onStream_absent found]
      exact .refl _ h
    | some ds =>
      cases bound : ds.upstreams.get? upstreamId with
      | some b =>
        rw [bindingOf_eq_some.mpr ⟨routed, found, bound⟩]
        exact onStream_confined within key h
      | none =>
        have idle := unbound (.ofStream ds h.browsers) bound
        refine ⟨onStream_upstreamIndex _ _ _, fun other _ => ?_, fun conn _ => ?_,
          fun other _ conn subscribed => ?_, ?_⟩
        · rw [onStream_streams_get?, found]
          split
          · next same => rw [same, found, Option.map_some, idle]; rfl
          · rfl
        · rw [onStream_browsers found, idle]; rfl
        · rw [subscribes, onStream_streams_get?, found, Option.map_some, idle] at subscribed
          split at subscribed
          · next same => rw [subscribes, same, found]; exact subscribed
          · exact subscribed
        · simp [onStream, updateStream, found]

theorem fanOutEvents_confined (upstreamId : String) (env : Envelope) (events : List Event) :
    Confined ((h.bindingOf upstreamId).map (·.1)) h
      (h.fanOutEvents ctx upstreamId env events) :=
  onUpstream_confined (fun _ => StreamCell.fanOutEvents_within _ _ _)
    (fun c unbound => by simp [StreamCell.fanOutEvents, unbound])

/-- The flush reads the route again; the ids in the stash of a stream lead back
to it. -/
theorem flushBatch_confined (ctx : Ctx) {ownerOf : Uuid → Uuid} (own : h.OwnIds ownerOf)
    {batch : PendingUpstreamBatch} (addressed : Addressed ownerOf batch.upstreamId key)
    (now : HubInner) (index : now.upstreamIndex = h.upstreamIndex) :
    Confined (some key) now (now.flushBatch ctx key batch) := by
  unfold flushBatch
  dsimp only
  split
  · exact .refl _ now
  · unfold fanOutEvents onUpstream
    cases routed : now.upstreamIndex.get? batch.upstreamId with
    | none => exact .refl _ now
    | some target =>
      have same := (own.index _ _ (index ▸ routed)).unique addressed
      subst same
      exact onStream_confined (fun _ => StreamCell.fanOutEvents_within _ _ _) target now

theorem handleUpstreamSnapshot_confined {ownerOf : Uuid → Uuid} (own : h.OwnIds ownerOf)
    (upstreamId : String) (env : Envelope) :
    Confined ((h.bindingOf upstreamId).map (·.1)) h
      (h.handleUpstreamSnapshot ctx upstreamId env) := by
  have served : Confined ((h.bindingOf upstreamId).map (·.1)) h
      (h.onUpstream ctx upstreamId (·.handleUpstreamSnapshot ctx upstreamId env)) :=
    onUpstream_confined (fun _ => StreamCell.handleUpstreamSnapshot_within _ _)
      (fun c unbound => by simp [StreamCell.handleUpstreamSnapshot, unbound])
  unfold onUpstream at served
  unfold handleUpstreamSnapshot
  cases routed : h.upstreamIndex.get? upstreamId with
  | none => exact .refl _ h
  | some key =>
    rw [routed] at served
    dsimp only at served ⊢
    cases taken : h.takenStash key upstreamId with
    | nil => exact served
    | cons batch rest =>
      -- a stash is only taken when the upstream is bound here
      obtain ⟨ds, b, found, bound, stash⟩ : ∃ ds b, h.streams.get? key = some ds ∧
          ds.upstreams.get? upstreamId = some b ∧ ds.pendingBatches = batch :: rest := by
        unfold takenStash at taken
        cases found : h.streams.get? key with
        | none => rw [found] at taken; cases taken
        | some ds =>
          rw [found] at taken
          dsimp only at taken
          split at taken
          · next bound =>
            obtain ⟨b, bound⟩ := Option.isSome_iff_exists.mp bound
            exact ⟨ds, b, rfl, bound, taken⟩
          · cases taken
      rw [bindingOf_eq_some.mpr ⟨routed, found, bound⟩] at served ⊢
      have addressed : ∀ pending ∈ batch :: rest, Addressed ownerOf pending.upstreamId key :=
        stash ▸ (own.streams key ds found).stash
      generalize batch :: rest = pending at addressed
      refine served.trans ?_
      have index := served.routes
      generalize h.onStream ctx key (·.handleUpstreamSnapshot ctx upstreamId env) = now at index
      induction pending generalizing now with
      | nil => exact .refl _ now
      | cons first rest inductionHypothesis =>
        have flushed := flushBatch_confined ctx own (addressed first (by simp)) now index
        exact flushed.trans (inductionHypothesis
          (fun pending member => addressed pending (by simp [member])) _
          (flushed.routes.trans index))

/-- A message that answers no command stays with the stream its id is bound to. -/
theorem handleBridgeEnvelope_confined (ctx : Ctx) {ownerOf : Uuid → Uuid}
    (own : h.OwnIds ownerOf) (device : Uuid) (env : Envelope) (answersNone : env.answers = none) :
    Confined ((h.bindingOf env.streamId).map (·.1)) h
      (h.handleBridgeEnvelope ctx device env) := by
  unfold handleBridgeEnvelope
  split
  · exact ⟨by simp, by simp, by simp, by simp [subscribes], by simp⟩
  · exact onUpstream_confined (fun _ => StreamCell.handleUpstreamSubscribed_within _ _)
      (fun c unbound => by simp [StreamCell.handleUpstreamSubscribed, unbound])
  · exact handleUpstreamSnapshot_confined own _ _
  · split
    · exact handleUpstreamSnapshot_confined own _ _
    · exact fanOutEvents_confined _ _ _
  · exact fanOutEvents_confined _ _ _
  · next payload => simp [Envelope.answers, payload] at answersNone
  · next payload => simp [Envelope.answers, payload] at answersNone
  · exact ⟨rfl, fun _ _ => rfl, fun _ _ => rfl, fun _ _ _ subscribed => subscribed, rfl⟩
  · exact onUpstream_confined (fun _ => StreamCell.handleResyncRequired_within _ _)
      (fun c unbound => by simp [StreamCell.handleResyncRequired, unbound])
  · exact .refl _ h

/-! ## The address decides -/

variable {device : Uuid}

theorem inAudience_of_subscribes {conn : Uuid} {ds : DStream}
    (found : h.streams.get? key = some ds) (bound : ds.boundTo device = true)
    (subscribed : h.subscribes key conn = true) : h.inAudience device conn = true := by
  unfold inAudience
  rw [Bool.or_eq_true, List.any_eq_true]
  refine .inl ⟨ds, FiniteMap.mem_values.mpr ⟨key, found⟩, ?_⟩
  rw [subscribes, found] at subscribed
  simpa [bound] using subscribed

theorem inAudience_of_command {requestId : String} {p : PendingCommand}
    (pending : h.commands.get? requestId = some p) (asked : p.device = device) :
    h.inAudience device p.connId = true := by
  unfold inAudience
  rw [Bool.or_eq_true, List.any_eq_true]
  refine .inr (List.any_eq_true.mpr ⟨p, FiniteMap.mem_values.mpr ⟨requestId, pending⟩, ?_⟩)
  simp [asked]

/-- Answering a command of `device` leaves all others alone. -/
theorem isolated_of_answer {env answer : Envelope} {requestId : String} {p : PendingCommand}
    {commands : FiniteMap String PendingCommand} (pending : h.commands.get? requestId = some p)
    (asked : p.device = device)
    (handled : h.handleBridgeEnvelope ctx device env =
      { h.reply ctx p.connId answer with commands })
    (kept : ∀ other, other ≠ requestId → commands.get? other = h.commands.get? other) :
    Isolated ctx device env h := by
  refine ⟨by rw [handled]; rfl, ?_, ?_, ?_⟩
  · intro key ds found _
    rw [handled]
    exact found
  · intro conn outside
    rw [handled]
    change (h.browsers.modify p.connId _).get? conn = _
    rw [FiniteMap.get?_modify, if_neg]
    rintro rfl
    rw [inAudience_of_command pending asked] at outside
    cases outside
  · intro other q waiting foreign
    rw [handled]
    refine (kept other ?_).trans waiting
    rintro rfl
    rw [pending] at waiting
    cases waiting
    exact foreign asked

theorem isolated_of_idle {env : Envelope} (handled : h.handleBridgeEnvelope ctx device env = h) :
    Isolated ctx device env h := by
  refine ⟨?_, ?_, ?_, ?_⟩ <;> rw [handled]
  · exact fun _ _ found _ => found
  · exact fun _ _ => rfl
  · exact fun _ _ waiting _ => waiting

/-- A message under a stream id of its sender leaves all others alone. -/
theorem isolated_of_stream {ownerOf : Uuid → Uuid} (own : h.OwnIds ownerOf) {env : Envelope}
    (stream : (h.bindingOf env.streamId).all (fun x => x.2.1.boundTo device) = true)
    (answersNone : env.answers = none) : Isolated ctx device env h := by
  have confined := handleBridgeEnvelope_confined ctx own device env answersNone
  have scope : ∀ key ∈ (h.bindingOf env.streamId).map (·.1),
      ∃ ds, h.streams.get? key = some ds ∧ ds.boundTo device = true := by
    intro key within
    obtain ⟨⟨key', ds, b⟩, bound, rfl⟩ := Option.map_eq_some_iff.mp within
    rw [bound] at stream
    exact ⟨ds, (bindingOf_eq_some.mp bound).2.1, stream⟩
  refine ⟨confined.routes, fun key ds found foreign => ?_, fun conn outside => ?_,
    fun requestId p waiting _ => by rw [confined.commands]; exact waiting⟩
  · rw [confined.streams key fun within => ?_]
    · exact found
    · obtain ⟨ds', found', bound⟩ := scope key within
      rw [found] at found'
      cases found'
      rw [foreign] at bound
      cases bound
  · refine confined.connections conn fun key within => ?_
    obtain ⟨ds, found, bound⟩ := scope key within
    cases subscribed : h.subscribes key conn with
    | false => rfl
    | true =>
      rw [inAudience_of_subscribes found bound subscribed] at outside
      cases outside

/-- A message under an address of its sender leaves all others alone. -/
theorem isolated_of_addressed {ownerOf : Uuid → Uuid} (own : h.OwnIds ownerOf) {env : Envelope}
    {requestId : String} (addressed : h.AddressedTo device env.streamId requestId)
    (names : ∀ answered ∈ env.answers, answered = requestId) : Isolated ctx device env h := by
  obtain ⟨stream, command⟩ := addressed
  cases answers : env.answers with
  | none => exact isolated_of_stream own stream answers
  | some answered =>
    have same := names answered answers
    subst same
    unfold Envelope.answers at answers
    split at answers
    · next accepted payload =>
      cases answers
      have handled : h.handleBridgeEnvelope ctx device env =
          h.onCommandAccepted ctx device accepted := by
        simp only [handleBridgeEnvelope, payload]
      unfold onCommandAccepted at handled
      cases pending : h.commands.get? accepted.requestId with
      | none => rw [pending] at handled; exact isolated_of_idle handled
      | some p =>
        rw [pending] at handled command
        exact isolated_of_answer pending (by simpa using command) handled fun _ _ => rfl
    · next result payload =>
      cases answers
      have handled : h.handleBridgeEnvelope ctx device env =
          h.onCommandResult ctx device result := by
        simp only [handleBridgeEnvelope, payload]
      unfold onCommandResult at handled
      cases pending : h.commands.get? result.requestId with
      | none => rw [pending] at handled; exact isolated_of_idle handled
      | some p =>
        rw [pending] at handled command
        dsimp only at handled
        split at handled
        · refine isolated_of_answer pending (by simpa using command) handled ?_
          intro other apart
          exact (FiniteMap.get?_erase _ _ _).trans (if_neg apart)
        · exact isolated_of_answer pending (by simpa using command) handled fun _ _ => rfl
    · cases answers

/-- A `Subscribed` that moves the base of a foreign stream. -/
theorem boundTo_of_isolated {streamId : String} {ds : DStream} {b : UpstreamBinding}
    (bound : h.bindingOf streamId = some (key, ds, b))
    (isolated : Isolated ctx device { baseEnvelope 0 "" (.subscribed ⟨streamId, b.epoch,
      b.snapshotCovers + 1⟩) with streamId } h) : ds.boundTo device = true := by
  obtain ⟨routed, found, binding⟩ := bindingOf_eq_some.mp bound
  by_contra foreign
  have same := isolated.streams key ds found (by simpa using foreign)
  simp only [handleBridgeEnvelope, baseEnvelope, onUpstream, routed] at same
  rw [onStream_streams_get?, if_pos rfl, found, Option.map_some, Option.some_inj] at same
  have covers := congrArg (fun ds => (ds.upstreams.get? streamId).map (·.snapshotCovers)) same
  simp [StreamCell.handleUpstreamSubscribed, StreamCell.ofStream, binding] at covers

/-- A result that ends the command of a foreign device. -/
theorem asked_of_isolated {streamId requestId : String} {p : PendingCommand}
    (pending : h.commands.get? requestId = some p)
    (isolated : Isolated ctx device { baseEnvelope 0 "" (.commandResult
      (outcomeUnknown requestId)) with streamId } h) : p.device = device := by
  by_contra foreign
  have kept := isolated.commands requestId p pending foreign
  simp [handleBridgeEnvelope, baseEnvelope, onCommandResult, outcomeUnknown, pending,
    ReceiptStatus.terminal] at kept

end HubInner

/-- In every reachable state, all messages of `device` under a stream id and a
request id leave everything alone that has nothing to do with `device` if and
only if these ids are free or belong to `device`. -/
theorem isolated_iff_addressed (ownerOf : Uuid → Uuid) (steps : List HubStep)
    (run : Along HubInner.step (fun _ s => s.WellAddressed ownerOf) .new steps)
    (device : Uuid) (streamId requestId : String) :
    (∀ ctx env, env.streamId = streamId → (∀ answered ∈ env.answers, answered = requestId) →
      Isolated ctx device env (HubInner.new.run steps)) ↔
    (HubInner.new.run steps).AddressedTo device streamId requestId := by
  have own : (HubInner.new.run steps).OwnIds ownerOf :=
    Along.reached (fun _ _ own promise => HubInner.OwnIds.step own promise)
      (HubInner.OwnIds.new ownerOf) run
  generalize HubInner.new.run steps = h at own
  constructor
  · intro isolated
    refine ⟨?_, ?_⟩
    · cases bound : h.bindingOf streamId with
      | none => rfl
      | some x =>
        obtain ⟨key, ds, b⟩ := x
        exact HubInner.boundTo_of_isolated bound (isolated (.idle 0) _ rfl (by simp
          [Envelope.answers, baseEnvelope]))
    · cases pending : h.commands.get? requestId with
      | none => rfl
      | some p =>
        have asked := HubInner.asked_of_isolated pending (isolated (.idle 0) { baseEnvelope 0 ""
          (.commandResult (HubInner.outcomeUnknown requestId)) with streamId } rfl
          (by simp [Envelope.answers, baseEnvelope, HubInner.outcomeUnknown]))
        simpa using asked
  · rintro addressed ctx env rfl names
    exact HubInner.isolated_of_addressed own addressed names

open StaleStash in
theorem isolated_iff_addressed_own_stream :
    Isolated (.idle 0) device (envelope 3 events) (HubInner.new.run firstEpoch) :=
  (isolated_iff_addressed (fun _ => owner) firstEpoch (by decide +kernel) device upstream "").mpr
    (by decide +kernel) (.idle 0) (envelope 3 events) rfl (by decide +kernel)

open StaleStash in
/-- A Bridge that sends a snapshot under the stream id of another owner's device
is heard by that owner's browser. -/
theorem foreign_snapshot_is_delivered :
    ¬ ∀ (ownerOf : Uuid → Uuid) (steps : List HubStep),
      Along HubInner.step (fun _ s => s.WellAddressed ownerOf) .new steps →
      ∀ ctx device env, Isolated ctx device env (HubInner.new.run steps) := by
  intro claim
  have isolated := claim (fun d => if d = device then owner else .ofLast 'f')
    (firstEpoch ++ [⟨.idle 0, .registerBridge (.ofLast 'e') (.ofLast 'f') 1⟩]) (by decide +kernel)
    (.idle 0) (.ofLast 'e') (envelope 9 (.runtimeSnapshot "forged"))
  have same := congrArg (Option.map (·.accepted.length))
    (isolated.connections (.ofLast 'b') (by decide +kernel))
  revert same
  decide +kernel

end AgentConsole.Relay
