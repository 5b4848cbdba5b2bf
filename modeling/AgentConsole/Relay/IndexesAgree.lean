import AgentConsole.Lib.Run
import AgentConsole.Relay.Indexes

/-! # The indexes agree

`Consistent` is what the maps of the hub owe each other between two locked sections.
Two sections can break it: one that binds an upstream id which is routed to another
stream, and one that subscribes a connection to a stream that an online device is not
bound to.  The second half of `browser_subscribe` is such a section when the stream was
evicted since the first half.

`register_bridge` is two sections as well, and the second one makes the bindings; `owed`
lists the registrations whose second section is still to come. -/

namespace AgentConsole.Relay

open AgentConsole.Lib

namespace HubInner

/-- Every online device the stream shows is bound to it, or is still to be bound. -/
def Supplied (owed : List (Uuid × Uuid)) (key : DKey) (h : HubInner) : Prop :=
  ∀ device owner, h.ownerOnline device = some owner → shows device owner key = true →
    (device, owner) ∈ owed ∨ h.binds key (upstreamStreamId device key.2) = true

/-- The maps of the hub agree, and every stream with a subscriber has its bindings. -/
structure Consistent (owed : List (Uuid × Uuid)) (h : HubInner) : Prop where
  routes : ∀ uid key, h.binds key uid = true ↔ h.upstreamIndex.get? uid = some key
  sets : ∀ conn key, h.subscribes key conn = true ↔ key ∈ h.setOf conn
  supplied : ∀ key conn, h.subscribes key conn = true → h.Supplied owed key

/-- The id is not routed to another stream. -/
def freeFor (key : DKey) (uid : String) (h : HubInner) : Prop :=
  ∀ other, h.upstreamIndex.get? uid = some other → other = key

/-- The connection is still subscribed when the second half of its subscription is over:
nothing is replayed to it, or its queue takes the replay. -/
def staysSubscribed (ctx : Ctx) (conn : Uuid) (correlation : String) (ds : DStream)
    (bc : BrowserConn) : Bool :=
  ds.snapshots.isEmpty || StreamCell.takesReplay ctx conn correlation ds bc

end HubInner

open HubInner in
/-- What the section needs, for the maps to agree after it. -/
def HubStep.Keeps (owed : List (Uuid × Uuid)) (h : HubInner) (s : HubStep) : Prop :=
  match s.op with
  | .subscribeBind conn key needs _ =>
    h.browsers.contains conn = true →
      ∀ need ∈ needs, h.freeFor key (upstreamStreamId need.1 need.2)
  | .ensureBindings device owner =>
    ∀ key, h.streams.contains key = true → shows device owner key = true →
      h.freeFor key (upstreamStreamId device key.2)
  | .subscribeAttach conn key correlation fresh =>
    ∀ bc, h.browsers.get? conn = some bc →
      staysSubscribed s.ctx conn correlation ((h.streams.get? key).getD (.new key fresh)) bc =
        true →
      h.Supplied owed key
  | .registerBridge device owner _ =>
    (device, owner) ∈ owed ∨ ∀ key conn, h.subscribes key conn = true →
      shows device owner key = true → h.binds key (upstreamStreamId device key.2) = true
  | _ => True

namespace HubInner

variable {ctx : Ctx} {h h' : HubInner} {key : DKey} {conn : Uuid} {owed owed' : List (Uuid × Uuid)}

/-! ## Sections that add a binding -/

theorem Supplied.mono (supplied : h.Supplied owed key)
    (owners : ∀ device, h'.ownerOnline device = h.ownerOnline device)
    (bound : ∀ uid, h.binds key uid = true → h'.binds key uid = true)
    (later : ∀ p ∈ owed, p ∈ owed') : h'.Supplied owed' key := by
  intro device owner online shown
  rw [owners] at online
  rcases supplied device owner online shown with waiting | here
  · exact .inl (later _ waiting)
  · exact .inr (bound _ here)

theorem Consistent.narrow (consistent : h.Consistent owed) (linked : h.Linked)
    (narrows : Narrows h h') (later : ∀ p ∈ owed, p ∈ owed') : h'.Consistent owed' where
  routes uid key := by
    rw [narrows.bound, narrows.routes]
    exact consistent.routes uid key
  sets := (narrows.linked linked).sets
  supplied key conn subscribed := by
    refine (consistent.supplied key conn (narrows.fewer key conn subscribed)).mono narrows.owners
      (fun uid bound => ?_) later
    rw [narrows.bound]
    exact bound

namespace Adds

variable {uid : String}

theorem grows (adds : Adds key uid h h') {k : DKey} {u : String} (bound : h.binds k u = true) :
    h'.binds k u = true := by
  rw [adds.binds, bound]
  rfl

theorem bound (adds : Adds key uid h h') : h'.binds key uid = true := by
  rw [adds.binds]
  simp

theorem linked (adds : Adds key uid h h') (linked : h.Linked) : h'.Linked := by
  refine ⟨fun conn => ?_, fun conn k => ?_⟩
  · rw [setOf, adds.sets]
    exact linked.nodup conn
  · rw [adds.subscribers, setOf, adds.sets]
    exact linked.sets conn k

/-- The routes still match the bindings if the id was not routed elsewhere. -/
theorem routes (adds : Adds key uid h h') (free : h.freeFor key uid)
    (routes : ∀ uid key, h.binds key uid = true ↔ h.upstreamIndex.get? uid = some key) :
    ∀ uid key, h'.binds key uid = true ↔ h'.upstreamIndex.get? uid = some key := by
  intro u k
  rw [adds.binds, adds.index]
  by_cases already : h.binds key uid = true
  · rw [if_pos already, ← routes u k]
    by_cases same : k = key ∧ u = uid
    · rw [same.1, same.2, already]
      simp
    · rw [← Bool.decide_and, decide_eq_false same, Bool.or_false]
  · rw [if_neg already, FiniteMap.get?_insert]
    by_cases same : u = uid
    · subst same
      rw [if_pos rfl]
      constructor
      · intro bound
        rcases (Bool.or_eq_true _ _).mp bound with before | here
        · rw [free k ((routes u k).mp before)]
        · simp only [decide_true, Bool.and_true, decide_eq_true_eq] at here
          rw [here]
      · intro here
        cases here
        simp
    · rw [if_neg same, ← routes u k]
      simp [same]

/-- An id that is free stays free, unless it is the new one. -/
theorem free (adds : Adds key uid h h') {k : DKey} {u : String} (apart : u = uid → k = key)
    (free : h.freeFor k u) : h'.freeFor k u := by
  intro other routed
  rw [adds.index] at routed
  split at routed
  · exact free other routed
  · rw [FiniteMap.get?_insert] at routed
    split at routed
    · next same =>
      cases routed
      exact (apart same).symm
    · exact free other routed

end Adds

/-- Two bindings of one id break the routes. -/
theorem eq_of_routes
    (routes : ∀ uid key, h.binds key uid = true ↔ h.upstreamIndex.get? uid = some key)
    {uid : String} {k k' : DKey} (bound : h.binds k uid = true) (bound' : h.binds k' uid = true) :
    k = k' := by
  rw [routes] at bound bound'
  rw [bound] at bound'
  exact Option.some.inj bound'

/-- A section that adds bindings one after the other. -/
structure Grown (h h' : HubInner) : Prop where
  binds : ∀ k u, h.binds k u = true → h'.binds k u = true
  owners : h'.ownerOnline = h.ownerOnline
  subscribers : ∀ k conn, h'.subscribes k conn = h.subscribes k conn
  linked : h.Linked → h'.Linked

theorem Grown.refl (h : HubInner) : Grown h h :=
  ⟨fun _ _ bound => bound, rfl, fun _ _ => rfl, fun linked => linked⟩

theorem Adds.grown {uid : String} (adds : Adds key uid h h') : Grown h h' :=
  ⟨fun _ _ bound => adds.grows bound, adds.owners, adds.subscribers, adds.linked⟩

theorem Grown.trans {mid : HubInner} (first : Grown h mid) (rest : Grown mid h') : Grown h h' where
  binds k u bound := rest.binds k u (first.binds k u bound)
  owners := rest.owners.trans first.owners
  subscribers k conn := (rest.subscribers k conn).trans (first.subscribers k conn)
  linked linked := rest.linked (first.linked linked)

/-- Consistency after such a section is a matter of the routes. -/
theorem Grown.consistent_iff (grown : Grown h h') (linked : h.Linked)
    (consistent : h.Consistent owed) (later : ∀ p ∈ owed, p ∈ owed') :
    h'.Consistent owed' ↔
      ∀ uid key, h'.binds key uid = true ↔ h'.upstreamIndex.get? uid = some key := by
  refine ⟨fun after => after.routes, fun routes => ⟨routes, (grown.linked linked).sets, ?_⟩⟩
  intro key conn subscribed
  rw [grown.subscribers] at subscribed
  exact (consistent.supplied key conn subscribed).mono (congrFun grown.owners)
    (fun uid => grown.binds key uid) later

theorem subscribeUpstreams (ctx : Ctx) (key : DKey) (fresh : Uuid) (needs : List (Uuid × TargetTag))
    (h : HubInner) :
    Grown h (needs.foldl (subscribeUpstream ctx key fresh) h) ∧
      (∀ need ∈ needs, (needs.foldl (subscribeUpstream ctx key fresh) h).binds key
        (upstreamStreamId need.1 need.2) = true) ∧
      ((∀ uid key, h.binds key uid = true ↔ h.upstreamIndex.get? uid = some key) →
        (∀ need ∈ needs, h.freeFor key (upstreamStreamId need.1 need.2)) →
        ∀ uid k, (needs.foldl (subscribeUpstream ctx key fresh) h).binds k uid = true ↔
          (needs.foldl (subscribeUpstream ctx key fresh) h).upstreamIndex.get? uid = some k) := by
  induction needs generalizing h with
  | nil => exact ⟨Grown.refl h, by simp, fun routes _ => routes⟩
  | cons need rest inductionHypothesis =>
    have adds := @subscribeUpstream_adds ctx key fresh need h
    obtain ⟨grown, bound, routes⟩ := inductionHypothesis (h.subscribeUpstream ctx key fresh need)
    refine ⟨adds.grown.trans grown, ?_, fun before free => ?_⟩
    · intro other member
      rcases List.mem_cons.mp member with rfl | later
      · exact grown.binds _ _ adds.bound
      · exact bound other later
    · refine routes (adds.routes (free need List.mem_cons_self) before) ?_
      intro other member
      exact adds.free (fun _ => rfl) (free other (List.mem_cons_of_mem _ member))

/-- First section of `browser_subscribe`. -/
theorem subscribeBind_consistent_iff (needs : List (Uuid × TargetTag)) (fresh : Uuid)
    (linked : h.Linked) (consistent : h.Consistent owed) (later : ∀ p ∈ owed, p ∈ owed') :
    (h.subscribeBind ctx conn key needs fresh).Consistent owed' ↔
      (h.browsers.contains conn = true →
        ∀ need ∈ needs, h.freeFor key (upstreamStreamId need.1 need.2)) := by
  unfold subscribeBind
  split
  · next registered =>
    obtain ⟨grown, bound, routes⟩ := subscribeUpstreams ctx key fresh needs h
    rw [grown.consistent_iff linked consistent later]
    constructor
    · intro after _ need member other routed
      -- the id is bound to both streams now
      exact eq_of_routes after
        (grown.binds _ _ ((consistent.routes _ _).mpr routed)) (bound need member)
    · intro free
      exact routes consistent.routes (free registered)
  · next absent =>
    refine ⟨fun _ registered => absurd registered absent, fun _ => ?_⟩
    exact consistent.narrow linked (Narrows.refl h) later

/-- What a device is shown in belongs to one owner. -/
theorem eq_of_shown {device owner : Uuid} {k : DKey} (shown : shows device owner key = true)
    (shown' : shows device owner k = true)
    (same : upstreamStreamId device k.2 = upstreamStreamId device key.2) : k = key := by
  obtain ⟨-, tags⟩ := upstreamStreamId_inj same
  obtain ⟨o, tag⟩ := key
  obtain ⟨o', tag'⟩ := k
  dsimp only at tags
  subst tags
  cases tag' with
  | list =>
    simp only [shows, beq_iff_eq] at shown shown'
    rw [shown, shown']
  | session d kind native =>
    simp only [shows, Bool.and_eq_true, beq_iff_eq] at shown shown'
    rw [shown.1, shown'.1]

theorem ensureBinding_keeps (device : Uuid) (acc : HubInner × List (Uuid × Envelope)) (k : DKey)
    (present : acc.1.streams.contains k = true) :
    (ensureBinding ctx device acc key).1.streams.contains k = true := by
  unfold ensureBinding
  dsimp only
  split
  · exact present
  · obtain ⟨ds, found⟩ := FiniteMap.contains_iff.mp present
    unfold FiniteMap.contains
    dsimp only
    rw [updateStream_streams_get?]
    split
    · next same =>
      rw [← same, found]
      rfl
    · rw [found]
      rfl

theorem ensureBindings_loop (ctx : Ctx) (device owner : Uuid) (keys : List DKey)
    (acc : HubInner × List (Uuid × Envelope))
    (present : ∀ key ∈ keys, acc.1.streams.contains key = true)
    (shown : ∀ key ∈ keys, shows device owner key = true) :
    Grown acc.1 (keys.foldl (ensureBinding ctx device) acc).1 ∧
      (∀ key ∈ keys, (keys.foldl (ensureBinding ctx device) acc).1.binds key
        (upstreamStreamId device key.2) = true) ∧
      ((∀ uid key, acc.1.binds key uid = true ↔ acc.1.upstreamIndex.get? uid = some key) →
        (∀ key ∈ keys, acc.1.freeFor key (upstreamStreamId device key.2)) →
        ∀ uid k, (keys.foldl (ensureBinding ctx device) acc).1.binds k uid = true ↔
          (keys.foldl (ensureBinding ctx device) acc).1.upstreamIndex.get? uid = some k) := by
  induction keys generalizing acc with
  | nil => exact ⟨Grown.refl _, by simp, fun routes _ => routes⟩
  | cons key rest inductionHypothesis =>
    have adds := @ensureBinding_adds ctx key device acc (present key List.mem_cons_self)
    obtain ⟨grown, bound, routes⟩ := inductionHypothesis (ensureBinding ctx device acc key)
      (fun k member => ensureBinding_keeps device acc k (present k (List.mem_cons_of_mem _ member)))
      (fun k member => shown k (List.mem_cons_of_mem _ member))
    refine ⟨adds.grown.trans grown, ?_, fun before free => ?_⟩
    · intro k member
      rcases List.mem_cons.mp member with rfl | later
      · exact grown.binds _ _ adds.bound
      · exact bound k later
    · refine routes (adds.routes (free key List.mem_cons_self) before) ?_
      intro k member
      refine adds.free (fun same => ?_) (free k (List.mem_cons_of_mem _ member))
      exact eq_of_shown (shown key List.mem_cons_self)
        (shown k (List.mem_cons_of_mem _ member)) same

theorem mem_shown {device owner : Uuid} {h : HubInner} :
    key ∈ h.streams.keys.filter (shows device owner) ↔
      h.streams.contains key = true ∧ shows device owner key = true := by
  rw [List.mem_filter, FiniteMap.mem_keys, FiniteMap.contains_iff]

/-- `ensure_bindings_for_device` pays what is owed to the device. -/
theorem ensureBindings_consistent_iff {device owner : Uuid} (linked : h.Linked)
    (consistent : h.Consistent owed) (later : ∀ p ∈ owed, p ∈ owed' ∨ p = (device, owner)) :
    (h.ensureBindings ctx device owner).1.Consistent owed' ↔
      ∀ key, h.streams.contains key = true → shows device owner key = true →
        h.freeFor key (upstreamStreamId device key.2) := by
  obtain ⟨grown, bound, routes⟩ := ensureBindings_loop ctx device owner
    (h.streams.keys.filter (shows device owner)) (h, []) (fun key member => (mem_shown.mp member).1)
    (fun key member => (mem_shown.mp member).2)
  constructor
  · intro after key present shown other routed
    exact eq_of_routes after.routes
      (grown.binds _ _ ((consistent.routes _ _).mpr routed))
      (bound key (mem_shown.mpr ⟨present, shown⟩))
  · intro free
    refine ⟨routes consistent.routes fun key member => ?_, (grown.linked linked).sets, ?_⟩
    · exact free key (mem_shown.mp member).1 (mem_shown.mp member).2
    · intro key conn subscribed d o online shown
      have subscribed : h.subscribes key conn = true := grown.subscribers key conn ▸ subscribed
      have online : h.ownerOnline d = some o := congrFun grown.owners d ▸ online
      rcases consistent.supplied key conn subscribed d o online shown with waiting | here
      · rcases later _ waiting with still | paid
        · exact .inl still
        · cases paid
          have present : h.streams.contains key = true := by
            unfold subscribes at subscribed
            unfold FiniteMap.contains
            cases found : h.streams.get? key with
            | none => rw [found] at subscribed; cases subscribed
            | some ds => rfl
          exact .inr (bound key (mem_shown.mpr ⟨present, shown⟩))
      · exact .inr (grown.binds _ _ here)

/-! ## A Bridge registers -/

theorem registerBridge_consistent_iff {device owner : Uuid} {session : Nat}
    (consistent : h.Consistent owed) (later : ∀ p ∈ owed, p ∈ owed') :
    (h.registerBridge device owner session).Consistent owed' ↔
      ((device, owner) ∈ owed' ∨ ∀ key conn, h.subscribes key conn = true →
        shows device owner key = true → h.binds key (upstreamStreamId device key.2) = true) := by
  have online (d : Uuid) : (h.registerBridge device owner session).ownerOnline d =
      if d = device then some owner else h.ownerOnline d := by
    unfold ownerOnline registerBridge
    rw [FiniteMap.get?_insert]
    split <;> rfl
  constructor
  · intro after
    by_cases waiting : (device, owner) ∈ owed'
    · exact .inl waiting
    · refine .inr fun key conn subscribed shown => ?_
      have online := online device
      rw [if_pos rfl] at online
      rcases after.supplied key conn subscribed device owner online shown with owes | here
      · exact absurd owes waiting
      · exact here
  · intro bound
    refine ⟨consistent.routes, consistent.sets, fun key conn subscribed d o registered shown => ?_⟩
    rw [online] at registered
    split at registered
    · next same =>
      cases registered
      subst same
      rcases bound with waiting | here
      · exact .inl waiting
      · exact .inr (here key conn subscribed shown)
    · rcases consistent.supplied key conn subscribed d o registered shown with waiting | here
      · exact .inl (later _ waiting)
      · exact .inr here

/-! ## A connection subscribes -/

theorem attachSubscriber_effect {c : StreamCell} {bc : BrowserConn}
    (registered : c.browsers.get? conn = some bc) (correlation : String) :
    (c.attachSubscriber ctx conn correlation).detached =
      c.detached ++ (if staysSubscribed ctx conn correlation c.ds bc then [] else [conn]) ∧
    (∀ uid, (c.attachSubscriber ctx conn correlation).ds.upstreams.contains uid =
      c.ds.upstreams.contains uid) ∧
    ∀ other, (c.attachSubscriber ctx conn correlation).ds.subscribers.contains other =
      if other = conn then staysSubscribed ctx conn correlation c.ds bc
      else c.ds.subscribers.contains other := by
  unfold StreamCell.attachSubscriber staysSubscribed
  rw [if_pos (FiniteMap.contains_iff.mpr ⟨bc, registered⟩)]
  dsimp only
  cases empty : c.ds.snapshots.isEmpty with
  | true =>
    refine ⟨by simp, fun _ => rfl, fun other => ?_⟩
    simp only [Bool.not_true, Bool.false_eq_true, if_false, FiniteMap.contains_insert,
      Bool.true_or]
    by_cases same : other = conn <;> simp [same]
  | false =>
    let joined : StreamCell := { c with ds := { c.ds with
      subscribers := c.ds.subscribers.insert conn
        ⟨!true, ((c.ds.subscribers.get? conn).map (·.acked)).getD 0, correlation⟩ } }
    obtain ⟨detached, bound, subscribers⟩ :=
      @StreamCell.serveReplay_detached ctx joined conn bc registered correlation
    have same : StreamCell.takesReplay ctx conn correlation joined.ds bc =
        StreamCell.takesReplay ctx conn correlation c.ds bc := rfl
    rw [same] at detached subscribers
    refine ⟨detached, bound, fun other => (subscribers other).trans ?_⟩
    rw [FiniteMap.contains_insert]
    by_cases own : other = conn
    · subst own
      simp
    · simp [own]

theorem subscribeAttach_effect {bc : BrowserConn} (registered : h.browsers.get? conn = some bc)
    (correlation : String) (fresh : Uuid) (linked : h.Linked) :
    let stays := staysSubscribed ctx conn correlation ((h.streams.get? key).getD (.new key fresh)) bc
    let h' := h.subscribeAttach ctx conn key correlation fresh
    h'.upstreamIndex = h.upstreamIndex ∧ h'.ownerOnline = h.ownerOnline ∧
      (∀ k uid, h'.binds k uid = h.binds k uid) ∧
      (∀ k other, h'.subscribes k other =
        if k = key ∧ other = conn then stays else h.subscribes k other) ∧ h'.Linked := by
  intro stays h'
  let joined : HubInner := { h.ensureStream key fresh with
    browserStreams := (h.ensureStream key fresh).browserStreams.insert conn
      ((((h.ensureStream key fresh).browserStreams.get? conn).getD []).insert key) }
  have run : h' = joined.onStream ctx key (·.attachSubscriber ctx conn correlation) :=
    if_pos (FiniteMap.contains_iff.mpr ⟨bc, registered⟩)
  have browsers : (h.ensureStream key fresh).browsers = h.browsers := by
    unfold ensureStream
    split <;> rfl
  have queued : joined.browsers.get? conn = some bc := by rw [← registered, ← browsers]
  have found : joined.streams.get? key = some ((h.streams.get? key).getD (.new key fresh)) :=
    ensureStream_get? key fresh h
  obtain ⟨detached, bound, subscribers⟩ := @attachSubscriber_effect ctx conn
    (.ofStream ((h.streams.get? key).getD (.new key fresh)) joined.browsers) bc queued correlation
  have binds (k : DKey) (uid : String) : h'.binds k uid = h.binds k uid := by
    rw [run, ← @ensureStream_binds key fresh h k uid]
    unfold HubInner.binds
    rw [onStream_streams_get?]
    split
    · next same =>
      rw [same, found]
      exact bound uid
    · rfl
  have subs (k : DKey) (other : Uuid) : h'.subscribes k other =
      if k = key ∧ other = conn then stays else h.subscribes k other := by
    rw [run, ← @ensureStream_subscribes key fresh h k other]
    unfold subscribes
    rw [onStream_streams_get?]
    by_cases same : k = key
    · rw [if_pos same, same, found]
      refine (subscribers other).trans ?_
      by_cases own : other = conn
      · rw [if_pos own, if_pos ⟨rfl, own⟩]
        rfl
      · rw [if_neg own, if_neg (fun both => own both.2)]
        rfl
    · rw [if_neg same, if_neg (fun both => same both.1)]
  have sets : h'.browserStreams = (if stays then [] else [conn]).foldl
      (fun sets conn => sets.modify conn (·.erase key)) joined.browserStreams := by
    rw [run]
    unfold onStream
    rw [sendAll_browserStreams]
    unfold updateStream
    rw [found]
    dsimp only
    rw [detached]
    rfl
  have written (other : Uuid) : (joined.browserStreams.get? other).getD [] =
      if other = conn then (h.setOf conn).insert key else h.setOf other := by
    change ((FiniteMap.insert _ _ _).get? other).getD [] = _
    rw [FiniteMap.get?_insert, ensureStream_browserStreams]
    split <;> rfl
  have nodup (other : Uuid) : ((joined.browserStreams.get? other).getD []).Nodup := by
    rw [written]
    split
    · exact (linked.nodup conn).insert
    · exact linked.nodup other
  have forgotten := mem_detached key (if stays then [] else [conn]) joined.browserStreams nodup
  refine ⟨by rw [run, onStream_upstreamIndex]; exact ensureStream_upstreamIndex key fresh h,
    by rw [run, onStream_ownerOnline]; exact ensureStream_ownerOnline key fresh h, binds, subs,
    fun other => ?_, fun other k => ?_⟩
  · rw [setOf, sets]
    exact (forgotten other).1
  · rw [subs, setOf, sets, (forgotten other).2 k, written]
    have before := linked.sets other k
    by_cases own : other = conn
    · subst own
      rw [if_pos rfl, List.mem_insert_iff, ← before]
      by_cases same : k = key
      · rw [if_pos ⟨same, rfl⟩]
        cases stays <;> simp [same]
      · rw [if_neg (fun both => same both.1)]
        simp [same]
    · rw [if_neg (fun both => own both.2), if_neg own, before]
      cases stays <;> simp [own]

/-- A connection that is gone does not subscribe. -/
theorem subscribeAttach_unregistered (absent : h.browsers.get? conn = none) {correlation : String}
    {fresh : Uuid} : h.subscribeAttach ctx conn key correlation fresh = h :=
  if_neg (by simp [FiniteMap.contains, absent])

/-- Second section of `browser_subscribe`. -/
theorem subscribeAttach_consistent_iff (correlation : String) (fresh : Uuid) (linked : h.Linked)
    (consistent : h.Consistent owed) (later : ∀ p ∈ owed, p ∈ owed') :
    (h.subscribeAttach ctx conn key correlation fresh).Consistent owed' ↔
      ∀ bc, h.browsers.get? conn = some bc →
        staysSubscribed ctx conn correlation ((h.streams.get? key).getD (.new key fresh)) bc =
          true →
        h.Supplied owed' key := by
  cases registered : h.browsers.get? conn with
  | none =>
    rw [subscribeAttach_unregistered registered]
    refine iff_of_true (consistent.narrow linked (Narrows.refl h) later) fun bc found => ?_
    cases found
  | some bc =>
    obtain ⟨index, owners, binds, subs, linked'⟩ :=
      @subscribeAttach_effect ctx h key conn bc registered correlation fresh linked
    constructor
    · intro after bc' same stays
      cases same
      have subscribed : (h.subscribeAttach ctx conn key correlation fresh).subscribes key conn =
          true := by
        rw [subs, if_pos ⟨rfl, rfl⟩]
        exact stays
      refine (after.supplied key conn subscribed).mono (fun device => (congrFun owners device).symm)
        (fun uid bound => ?_) (fun _ member => member)
      rw [← binds]
      exact bound
    · intro supplied
      refine ⟨fun uid k => ?_, linked'.sets, fun k other subscribed => ?_⟩
      · rw [binds, index]
        exact consistent.routes uid k
      · rw [subs] at subscribed
        have before : h.Supplied owed' k := by
          split at subscribed
          · next own => exact own.1 ▸ supplied bc rfl subscribed
          · exact (consistent.supplied k other subscribed).mono (fun _ => rfl)
              (fun _ bound => bound) later
        refine before.mono (congrFun owners) (fun uid bound => ?_) (fun _ member => member)
        rw [binds]
        exact bound

/-! ## A Bridge leaves, a stream is evicted -/

/-- The ids of a device are those that name it. -/
theorem ownUpstream_iff {device device' : Uuid} {tag : TargetTag} :
    ownUpstream device (upstreamStreamId device' tag) = true ↔ idDevice device' tag = device := by
  have start : ("u-" ++ device.text ++ "-").toList = "u-".toList ++ (device.text.toList ++ ['-']) := by
    simp [String.toList_append]
  have dash : ∃ rest, idSuffix tag = '-' :: rest := by
    cases tag with
    | list => exact ⟨_, rfl⟩
    | session d k n => exact ⟨_, rfl⟩
  obtain ⟨rest, suffix⟩ := dash
  unfold ownUpstream
  rw [List.isPrefixOf_iff_prefix, start, upstreamStreamId_toList, List.prefix_append_right_inj,
    suffix]
  constructor
  · rintro ⟨after, same⟩
    rw [List.append_assoc] at same
    have texts := (List.append_inj same (by rw [Uuid.length_toList, Uuid.length_toList])).1
    exact (Uuid.toList_inj texts).symm
  · rintro rfl
    exact ⟨rest, by simp⟩

/-- A stream that shows a device names it in the id. -/
theorem idDevice_of_shown {device owner : Uuid} (shown : shows device owner key = true) :
    idDevice device key.2 = device := by
  obtain ⟨o, tag⟩ := key
  cases tag with
  | list => rfl
  | session d k n =>
    simp only [shows, Bool.and_eq_true, beq_iff_eq] at shown
    exact shown.2

theorem foldl_abandonCommand_narrows (pending : List (String × PendingCommand)) (h : HubInner) :
    Narrows h (pending.foldl (abandonCommand ctx) h) :=
  Narrows.foldl (fun h _ => reply_narrows _ _ h) pending h

/-- The hub without the Bridge of `device`, its routes and its bindings. -/
def withoutBridge (device : Uuid) (h : HubInner) : HubInner :=
  let dead := h.upstreamIndex.keys.filter (ownUpstream device)
  { h with
    bridges := h.bridges.erase device
    upstreamIndex := h.upstreamIndex.filter fun uid _ => !dead.contains uid
    streams := h.streams.mapVal fun _ ds =>
      { ds with upstreams := ds.upstreams.filter fun uid _ => !dead.contains uid }
    commands := h.commands.filter fun _ p => p.device != device }

theorem removeBridge_narrows (device : Uuid) (h : HubInner) :
    Narrows (h.withoutBridge device) (h.removeBridge ctx device).1 :=
  foldl_abandonCommand_narrows _ _

theorem withoutBridge_linked (device : Uuid) (linked : h.Linked) :
    (h.withoutBridge device).Linked := by
  refine ⟨linked.nodup, fun conn key => ?_⟩
  have same : (h.withoutBridge device).subscribes key conn = h.subscribes key conn := by
    unfold subscribes withoutBridge
    rw [FiniteMap.get?_mapVal, Option.any_map]
  rw [same]
  exact linked.sets conn key

theorem withoutBridge_consistent (device : Uuid) (consistent : h.Consistent owed)
    (later : ∀ p ∈ owed, p ∈ owed') : (h.withoutBridge device).Consistent owed' := by
  have subscribers (key : DKey) (conn : Uuid) :
      (h.withoutBridge device).subscribes key conn = h.subscribes key conn := by
    unfold subscribes withoutBridge
    rw [FiniteMap.get?_mapVal, Option.any_map]
  have binds (key : DKey) (uid : String) : (h.withoutBridge device).binds key uid =
      (!(h.upstreamIndex.keys.filter (ownUpstream device)).contains uid && h.binds key uid) := by
    unfold HubInner.binds withoutBridge
    dsimp only
    rw [FiniteMap.get?_mapVal, Option.any_map]
    cases h.streams.get? key with
    | none => simp
    | some ds =>
      exact FiniteMap.contains_filter
        (fun uid => !(h.upstreamIndex.keys.filter (ownUpstream device)).contains uid) _ uid
  refine ⟨fun uid key => ?_, fun conn key => ?_, fun key conn subscribed d o online shown => ?_⟩
  · rw [binds, Bool.and_eq_true, consistent.routes uid key]
    unfold withoutBridge
    dsimp only
    rw [FiniteMap.get?_filter, Option.filter_eq_some_iff]
    exact And.comm
  · rw [subscribers]
    exact consistent.sets conn key
  · rw [subscribers] at subscribed
    unfold ownerOnline withoutBridge at online
    dsimp only at online
    rw [FiniteMap.get?_erase] at online
    split at online
    · cases online
    · next apart =>
      rcases consistent.supplied key conn subscribed d o online shown with waiting | bound
      · exact .inl (later _ waiting)
      · refine .inr ?_
        rw [binds, bound, Bool.and_true, Bool.not_eq_true']
        refine Bool.eq_false_iff.mpr fun dead => apart ?_
        have own := (List.mem_filter.mp (List.contains_iff_mem.mp dead)).2
        rw [ownUpstream_iff, idDevice_of_shown shown] at own
        exact own

theorem subscribes_reclaim (h : HubInner) (key : DKey) (conn : Uuid) :
    h.reclaimStreams.subscribes key conn = h.subscribes key conn := by
  unfold subscribes reclaimStreams
  dsimp only
  rw [FiniteMap.get?_filter]
  cases h.streams.get? key with
  | none => rfl
  | some ds =>
    cases empty : ds.subscribers.keys.isEmpty with
    | false => simp [Option.filter, empty]
    | true =>
      have nobody : ds.subscribers.contains conn = false := by
        refine Bool.eq_false_iff.mpr fun present => ?_
        have member := FiniteMap.mem_keys.mpr (FiniteMap.contains_iff.mp present)
        rw [List.isEmpty_iff.mp empty] at member
        cases member
      simp [Option.filter, empty, nobody]

theorem reclaimStreams_linked (linked : h.Linked) : h.reclaimStreams.Linked := by
  refine ⟨linked.nodup, fun conn key => ?_⟩
  rw [subscribes_reclaim]
  exact linked.sets conn key

/-- The streams without subscribers go, and their routes with them. -/
theorem reclaimStreams_consistent (consistent : h.Consistent owed)
    (later : ∀ p ∈ owed, p ∈ owed') : h.reclaimStreams.Consistent owed' := by
  -- an id of an evicted stream is bound to no stream that stays
  have dead {uid : String} : uid ∈ (h.streams.values.filter fun ds =>
      ds.subscribers.keys.isEmpty).flatMap (·.upstreams.keys) ↔
      ∃ key ds, h.streams.get? key = some ds ∧ ds.subscribers.keys.isEmpty = true ∧
        h.upstreamIndex.get? uid = some key := by
    simp only [List.mem_flatMap, List.mem_filter, FiniteMap.mem_values, FiniteMap.mem_keys]
    constructor
    · rintro ⟨ds, ⟨⟨key, found⟩, empty⟩, binding, bound⟩
      refine ⟨key, ds, found, empty, (consistent.routes uid key).mp ?_⟩
      unfold HubInner.binds
      rw [found]
      exact FiniteMap.contains_iff.mpr ⟨binding, bound⟩
    · rintro ⟨key, ds, found, empty, routed⟩
      have bound := (consistent.routes uid key).mpr routed
      unfold HubInner.binds at bound
      rw [found] at bound
      exact ⟨ds, ⟨⟨key, found⟩, empty⟩, FiniteMap.contains_iff.mp bound⟩
  have binds (key : DKey) (uid : String) : h.reclaimStreams.binds key uid = true ↔
      h.binds key uid = true ∧ ∀ ds, h.streams.get? key = some ds →
        ds.subscribers.keys.isEmpty = false := by
    unfold HubInner.binds reclaimStreams
    dsimp only
    rw [FiniteMap.get?_filter]
    cases h.streams.get? key with
    | none => simp
    | some ds =>
      cases empty : ds.subscribers.keys.isEmpty <;>
        simp [Option.filter, empty, -List.isEmpty_eq_false_iff]
  refine ⟨fun uid key => ?_, fun conn key => ?_, fun key conn subscribed d o online shown => ?_⟩
  · rw [binds, consistent.routes uid key]
    unfold reclaimStreams
    dsimp only
    rw [FiniteMap.get?_filter, Option.filter_eq_some_iff]
    refine and_congr_right fun routed => ?_
    rw [Bool.not_eq_true', ← Bool.not_eq_true, List.contains_iff_mem, dead]
    constructor
    · rintro full ⟨other, ds, found, empty, routed'⟩
      rw [routed] at routed'
      cases routed'
      rw [full ds found] at empty
      cases empty
    · intro alive ds found
      exact Bool.eq_false_iff.mpr fun empty => alive ⟨key, ds, found, empty, routed⟩
  · rw [subscribes_reclaim]
    exact consistent.sets conn key
  · rw [subscribes_reclaim] at subscribed
    rcases consistent.supplied key conn subscribed d o online shown with waiting | bound
    · exact .inl (later _ waiting)
    · refine .inr ((binds _ _).mpr ⟨bound, fun ds found => ?_⟩)
      unfold subscribes at subscribed
      rw [found] at subscribed
      refine Bool.eq_false_iff.mpr fun empty => ?_
      have member := FiniteMap.mem_keys.mpr (FiniteMap.contains_iff.mp subscribed)
      rw [List.isEmpty_iff.mp empty] at member
      cases member

theorem sweepGlobalMemory_narrows (order : List DKey) (h : HubInner) :
    Narrows h.reclaimStreams (h.sweepGlobalMemory ctx order) := by
  unfold sweepGlobalMemory
  dsimp only
  split
  · split
    · exact onStream_narrows (fun _ => StreamCell.relievePressure_narrows) _ _
    · exact Narrows.refl _
  · exact Narrows.refl _

/-! ## Every section -/

/-- A section that works on the connection of a Bridge. -/
theorem modifyBridge_narrows (f : BridgeConn → BridgeConn) (device : Uuid)
    (same : ∀ conn, (f conn).owner = conn.owner) (h : HubInner) :
    Narrows h { h with bridges := h.bridges.modify device f } := by
  refine Narrows.of_same rfl (fun other => ?_) rfl rfl
  unfold ownerOnline
  rw [FiniteMap.get?_modify]
  split
  · next own =>
    rw [own]
    cases h.bridges.get? device with
    | none => rfl
    | some conn => exact congrArg some (same conn)
  · rfl

/-- The kinds of section, as far as the indexes go. -/
inductive Section (h : HubInner) (s : HubStep) : Prop
  | narrows (narrow : Narrows h (h.step s)) (keeps : ∀ owed, s.Keeps owed h)
      (other : ∀ device owner, s.op ≠ .ensureBindings device owner)
  | bind (conn : Uuid) (key : DKey) (needs : List (Uuid × TargetTag)) (fresh : Uuid)
      (op : s = ⟨s.ctx, .subscribeBind conn key needs fresh⟩)
  | attach (conn : Uuid) (key : DKey) (correlation : String) (fresh : Uuid)
      (op : s = ⟨s.ctx, .subscribeAttach conn key correlation fresh⟩)
  | ensure (device owner : Uuid) (op : s = ⟨s.ctx, .ensureBindings device owner⟩)
  | register (device owner : Uuid) (session : Nat)
      (op : s = ⟨s.ctx, .registerBridge device owner session⟩)
  | remove (device : Uuid) (op : s = ⟨s.ctx, .removeBridge device⟩)
  | sweep (order : List DKey) (op : s = ⟨s.ctx, .sweepGlobalMemory order⟩)

theorem section_of (h : HubInner) (s : HubStep) : Section h s := by
  obtain ⟨ctx, op⟩ := s
  have plain {op : HubOp} (narrow : Narrows h (h.step ⟨ctx, op⟩))
      (keeps : ∀ owed, HubStep.Keeps owed h ⟨ctx, op⟩)
      (other : ∀ device owner, op ≠ .ensureBindings device owner) : Section h ⟨ctx, op⟩ :=
    .narrows narrow keeps other
  cases op with
  | subscribeBind conn key needs fresh => exact .bind conn key needs fresh rfl
  | subscribeAttach conn key correlation fresh => exact .attach conn key correlation fresh rfl
  | ensureBindings device owner => exact .ensure device owner rfl
  | registerBridge device owner session => exact .register device owner session rfl
  | removeBridge device => exact .remove device rfl
  | sweepGlobalMemory order => exact .sweep order rfl
  | closeBrowser conn => exact plain (closeBrowser_narrows conn h) (fun _ => trivial) (by simp)
  | closeAllBrowsers => exact plain (closeAllBrowsers_narrows h) (fun _ => trivial) (by simp)
  | removeBrowser conn => exact plain (removeBrowser_narrows conn h) (fun _ => trivial) (by simp)
  | sendToBridge device env =>
    exact plain (sendToBridge_narrows device env h) (fun _ => trivial) (by simp)
  | beginShutdown =>
    have closed : Narrows h { h with shutdown := true, commands := ∅ } :=
      Narrows.of_same rfl (fun _ => rfl) rfl rfl
    exact plain (closed.trans (foldl_abandonCommand_narrows _ _)) (fun _ => trivial) (by simp)
  | browserUnsubscribe conn streamId =>
    exact plain (browserUnsubscribe_narrows conn streamId h) (fun _ => trivial) (by simp)
  | browserResync conn streamId correlation =>
    exact plain (browserResync_narrows conn streamId correlation h) (fun _ => trivial) (by simp)
  | browserAck conn streamId sequence =>
    exact plain (browserAck_narrows conn streamId sequence h) (fun _ => trivial) (by simp)
  | bridgeEnvelope device env =>
    exact plain (handleBridgeEnvelope_narrows device env h) (fun _ => trivial) (by simp)
  | fanOutPresence device owner online =>
    exact plain (fanOutPresence_narrows device owner online h) (fun _ => trivial) (by simp)
  | heartbeatAck conn => exact plain (reply_narrows _ _ h) (fun _ => trivial) (by simp)
  | protocolError conn error => exact plain (reply_narrows _ _ h) (fun _ => trivial) (by simp)
  | commandReply conn result => exact plain (reply_narrows _ _ h) (fun _ => trivial) (by simp)
  | forceCloseBridge device =>
    have closing : Narrows h (h.forceCloseBridge device) :=
      modifyBridge_narrows (fun conn => { conn with close := true }) device (fun _ => rfl) h
    exact plain closing (fun _ => trivial) (by simp)
  | bridgeWriterGone device =>
    have gone : Narrows h { h with bridges := h.bridges.modify device fun conn =>
        { conn with sink := { conn.sink with live := false } } } :=
      modifyBridge_narrows (fun conn => { conn with sink := { conn.sink with live := false } })
        device (fun _ => rfl) h
    exact plain gone (fun _ => trivial) (by simp)
  | _ =>
    exact plain (Narrows.of_same rfl (fun _ => rfl) rfl rfl) (fun _ => trivial) (by simp)

/-- Who subscribes to what stays written down twice. -/
theorem linked_step (linked : h.Linked) (s : HubStep) : (h.step s).Linked := by
  cases section_of h s with
  | narrows narrow keeps other => exact narrow.linked linked
  | bind conn key needs fresh op =>
    rw [op]
    change (h.subscribeBind s.ctx conn key needs fresh).Linked
    unfold subscribeBind
    split
    · exact (subscribeUpstreams s.ctx key fresh needs h).1.linked linked
    · exact linked
  | attach conn key correlation fresh op =>
    rw [op]
    change (h.subscribeAttach s.ctx conn key correlation fresh).Linked
    cases registered : h.browsers.get? conn with
    | none =>
      rw [subscribeAttach_unregistered registered]
      exact linked
    | some bc => exact (subscribeAttach_effect registered correlation fresh linked).2.2.2.2
  | ensure device owner op =>
    rw [op]
    exact (ensureBindings_loop s.ctx device owner _ (h, [])
      (fun key member => (mem_shown.mp member).1)
      (fun key member => (mem_shown.mp member).2)).1.linked linked
  | register device owner session op =>
    rw [op]
    exact ⟨linked.nodup, linked.sets⟩
  | remove device op =>
    rw [op]
    exact (removeBridge_narrows device h).linked (withoutBridge_linked device linked)
  | sweep order op =>
    rw [op]
    exact (sweepGlobalMemory_narrows order h).linked (reclaimStreams_linked linked)

/-- One section keeps the maps consistent exactly when it meets its condition. -/
theorem step_consistent_iff {s : HubStep} (linked : h.Linked) (consistent : h.Consistent owed)
    (later : ∀ p ∈ owed, p ∈ owed' ∨ s.op = .ensureBindings p.1 p.2) :
    (h.step s).Consistent owed' ↔ s.Keeps owed' h := by
  have kept (other : ∀ device owner, s.op ≠ .ensureBindings device owner) :
      ∀ p ∈ owed, p ∈ owed' :=
    fun p member => (later p member).resolve_right (other p.1 p.2)
  cases section_of h s with
  | narrows narrow keeps other =>
    exact iff_of_true (consistent.narrow linked narrow (kept other)) (keeps owed')
  | bind conn key needs fresh op =>
    have kept := kept (by rw [op]; simp)
    rw [op]
    exact subscribeBind_consistent_iff needs fresh linked consistent kept
  | attach conn key correlation fresh op =>
    have kept := kept (by rw [op]; simp)
    rw [op]
    exact subscribeAttach_consistent_iff correlation fresh linked consistent kept
  | ensure device owner op =>
    rw [op] at later ⊢
    refine ensureBindings_consistent_iff linked consistent fun p member => ?_
    refine (later p member).imp_right fun paid => ?_
    cases paid
    rfl
  | register device owner session op =>
    have kept := kept (by rw [op]; simp)
    rw [op]
    exact registerBridge_consistent_iff consistent kept
  | remove device op =>
    have kept := kept (by rw [op]; simp)
    rw [op]
    refine iff_of_true ?_ trivial
    exact (withoutBridge_consistent device consistent kept).narrow
      (withoutBridge_linked device linked) (removeBridge_narrows device h) fun _ member => member
  | sweep order op =>
    have kept := kept (by rw [op]; simp)
    rw [op]
    refine iff_of_true ?_ trivial
    exact (reclaimStreams_consistent consistent kept).narrow
      (reclaimStreams_linked linked) (sweepGlobalMemory_narrows order h) fun _ member => member

theorem linked_new : HubInner.new.Linked := ⟨fun _ => List.nodup_nil, by simp [subscribes, setOf, new]⟩

theorem consistent_new (owed : List (Uuid × Uuid)) : HubInner.new.Consistent owed where
  routes := by simp [HubInner.binds, new]
  sets := linked_new.sets
  supplied key conn subscribed := by simp [subscribes, new] at subscribed

end HubInner

/-! ## Runs -/

/-- The registrations whose bindings are still to be made. -/
def owedAfter (owed : List (Uuid × Uuid)) (s : HubStep) : List (Uuid × Uuid) :=
  match s.op with
  | .registerBridge device owner _ => (device, owner) :: owed
  | .ensureBindings device owner => owed.filter (· ≠ (device, owner))
  | _ => owed

/-- A hub with the registrations that are not complete. -/
def stepOwed (w : HubInner × List (Uuid × Uuid)) (s : HubStep) :
    HubInner × List (Uuid × Uuid) :=
  (w.1.step s, owedAfter w.2 s)

theorem owedAfter_keeps {owed : List (Uuid × Uuid)} {s : HubStep} {p : Uuid × Uuid}
    (member : p ∈ owed) : p ∈ owedAfter owed s ∨ s.op = .ensureBindings p.1 p.2 := by
  unfold owedAfter
  split
  · exact .inl (List.mem_cons_of_mem _ member)
  · next device owner op =>
    by_cases same : p = (device, owner)
    · subst same
      exact .inr op
    · exact .inl (List.mem_filter.mpr ⟨member, by simpa using same⟩)
  · exact .inl member

/-- The maps of the hub agree between any two sections of a run exactly when its sections
meet their conditions; once with the registration of a Bridge counted as one section, and
once with both of its sections counted. -/
theorem indexes_consistent_iff (steps : List HubStep) :
    ((∀ before after, steps = before ++ after →
        (before.foldl HubInner.step HubInner.new).Consistent []) ↔
      Along HubInner.step (fun h s => s.Keeps [] h) .new steps) ∧
    ((∀ before after, steps = before ++ after →
        (before.foldl stepOwed (.new, [])).1.Consistent (before.foldl stepOwed (.new, [])).2) ↔
      Along stepOwed (fun w s => s.Keeps (owedAfter w.2 s) w.1) (.new, []) steps) := by
  constructor
  · have preserved (h : HubInner) (s : HubStep) (linked : h.Linked) : (h.step s).Linked :=
      HubInner.linked_step linked s
    have exact_ (h : HubInner) (s : HubStep) (linked : h.Linked) (consistent : h.Consistent []) :
        (h.step s).Consistent [] ↔ s.Keeps [] h :=
      HubInner.step_consistent_iff linked consistent (by simp)
    exact Along.iff_reached preserved exact_ HubInner.linked_new (HubInner.consistent_new [])
  · have preserved (w : HubInner × List (Uuid × Uuid)) (s : HubStep) (linked : w.1.Linked) :
        (stepOwed w s).1.Linked :=
      HubInner.linked_step linked s
    have exact_ (w : HubInner × List (Uuid × Uuid)) (s : HubStep) (linked : w.1.Linked)
        (consistent : w.1.Consistent w.2) :
        (stepOwed w s).1.Consistent (stepOwed w s).2 ↔ s.Keeps (owedAfter w.2 s) w.1 :=
      HubInner.step_consistent_iff linked consistent fun _ member => owedAfter_keeps member
    have start : ((HubInner.new, []) : HubInner × List (Uuid × Uuid)).1.Linked := HubInner.linked_new
    have first : ((HubInner.new, []) : HubInner × List (Uuid × Uuid)).1.Consistent
        ((HubInner.new, []) : HubInner × List (Uuid × Uuid)).2 := HubInner.consistent_new []
    exact Along.iff_reached preserved exact_ start first

/-- A browser asks for the list of its owner, whose device is online, and the memory sweep
comes between the two halves. -/
def sweptBetween : List HubStep :=
  let owner := Uuid.ofLast '1'
  let device := Uuid.ofLast '2'
  let browser := Uuid.ofLast '3'
  [⟨.idle 0, .registerBridge device owner 1⟩,
    ⟨.idle 0, .ensureBindings device owner⟩,
    ⟨.idle 0, .registerBrowser browser ⟨.ofLast '4', owner, 100⟩⟩,
    ⟨.idle 0, .subscribeBind browser (owner, .list) [(device, .list)] (.ofLast '5')⟩,
    ⟨.idle 0, .sweepGlobalMemory []⟩,
    ⟨.idle 0, .subscribeAttach browser (owner, .list) "" (.ofLast '6')⟩]

/-- The second half makes the stream anew and binds nothing to it: the subscriber waits
for a snapshot that no device was asked for. -/
theorem swept_subscriber_waits :
    (sweptBetween.foldl stepOwed (.new, [])).2 = [] ∧
      ¬ (HubInner.new.run sweptBetween).Consistent [] := by
  refine ⟨by decide +kernel, fun consistent => ?_⟩
  have supplied := consistent.supplied (Uuid.ofLast '1', .list) (Uuid.ofLast '3') (by decide +kernel)
    (Uuid.ofLast '2') (Uuid.ofLast '1') (by decide +kernel) (by decide +kernel)
  revert supplied
  decide +kernel

end AgentConsole.Relay
