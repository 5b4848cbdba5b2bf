import AgentConsole.Relay.Overflow

/-! # Overflow and resync

Critical frames that a reset drops are replayed to nobody any more.  Whoever is subscribed
at that time has heard of it: the frame itself or `ResyncRequired` is queued, or the
connection is closed.  Whoever is served afterwards depends on the cached snapshots, which
the reset leaves alone. -/

namespace AgentConsole.Relay

open AgentConsole.Lib

/-- Between `bc` and `bc'` the connection is sent `frame` or told to resync, unless it is
closed. -/
def Hears (streamId : String) (frame : Frame) (bc bc' : BrowserConn) : Prop :=
  bc'.closed = true ∨ ∃ more, bc'.accepted = bc.accepted ++ more ∧
    (OutItem.frame frame ∈ more ∨
      ∃ wire, OutItem.direct wire ∈ more ∧ wire.env.payload = some (.resyncRequired streamId))

namespace Hears

variable {P : Frame → Prop} {streamId : String} {frame : Frame} {bc mid bc' : BrowserConn}

theorem after (hears : Hears streamId frame bc mid) (grown : Grown P mid bc') :
    Hears streamId frame bc bc' := by
  rcases hears with closed | ⟨more, accepted, told⟩
  · exact .inl (grown.closes closed)
  · obtain ⟨later, accepted', -⟩ := grown.more
    refine .inr ⟨more ++ later, by rw [accepted', accepted, List.append_assoc], ?_⟩
    rcases told with sent | ⟨wire, sent, payload⟩
    · exact .inl (List.mem_append_left _ sent)
    · exact .inr ⟨wire, List.mem_append_left _ sent, payload⟩

theorem before (grown : Grown P bc mid) (hears : Hears streamId frame mid bc') :
    Hears streamId frame bc bc' := by
  rcases hears with closed | ⟨more, accepted, told⟩
  · exact .inl closed
  · obtain ⟨early, accepted', -⟩ := grown.more
    refine .inr ⟨early ++ more, by rw [accepted, accepted', List.append_assoc], ?_⟩
    rcases told with sent | ⟨wire, sent, payload⟩
    · exact .inl (List.mem_append_right _ sent)
    · exact .inr ⟨wire, List.mem_append_right _ sent, payload⟩

end Hears

namespace StreamCell

variable {P : Frame → Prop} {ctx : Ctx} {c : StreamCell} {key : DKey} {conn : Uuid}
  {bc : BrowserConn} {r : Reset}

end StreamCell

/-! ## On the hub -/

theorem Moved.keeps {ctx : Ctx} {allowed : Move → Prop} {ds ds' : DStream}
    (moved : Moved ctx allowed ds ds') : ds'.streamId = ds.streamId ∧ ds.log <+: ds'.log := by
  refine moved.invariant (P := fun now => now.streamId = ds.streamId ∧ ds.log <+: now.log) ?_
    ⟨rfl, List.prefix_refl _⟩
  rintro m before after - does ⟨same, sofar⟩
  cases m with
  | resubscribe => obtain ⟨subs, rfl⟩ := does; exact ⟨same, sofar⟩
  | clear => cases does; exact ⟨same, sofar⟩
  | advance => obtain ⟨-, -, rfl⟩ := does; exact ⟨same, sofar⟩
  | rebind added => obtain ⟨ups, -, rfl⟩ := does; exact ⟨same, sofar⟩
  | announce uid sub => obtain ⟨b, -, rfl⟩ := does; exact ⟨same, sofar⟩
  | watermark uid sequence => obtain ⟨b, -, rfl⟩ := does; exact ⟨same, sofar⟩
  | stash batch =>
    obtain ⟨-, rfl⟩ := does
    obtain ⟨_, _, _, frame⟩ := DStream.pushPending_frame ctx.codec before batch
    rw [frame]
    exact ⟨same, sofar⟩
  | event env e => cases does; exact ⟨same, sofar.trans (List.prefix_append _ _)⟩
  | presence device online => cases does; exact ⟨same, sofar.trans (List.prefix_append _ _)⟩
  | snapshot uid env =>
    obtain ⟨b, -, rfl⟩ := does
    exact ⟨same, sofar.trans (List.prefix_append _ _)⟩

namespace HubInner

variable {P : Frame → Prop} {ctx : Ctx} {h mid h' : HubInner} {r : Reset}

/-- The connections only take more, the streams go on, and subscribers are lost only by
closing their connection. -/
structure Spreads (P : Frame → Prop) (h h' : HubInner) : Prop where
  sends : Sends P h.browsers h'.browsers
  streams : ∀ key ds, h.streams.get? key = some ds → ∃ ds', h'.streams.get? key = some ds' ∧
    ds.log <+: ds'.log ∧ ∀ conn bc', ds.subscribers.contains conn = true →
      ds'.subscribers.contains conn = false → h'.browsers.get? conn = some bc' → bc'.closed = true
  ids : (∀ key ds, h.streams.get? key = some ds → ds.HasId) →
    ∀ key ds', h'.streams.get? key = some ds' → ds'.HasId

namespace Spreads

theorem refl (h : HubInner) : Spreads P h h where
  sends := Sends.refl _
  streams key ds found := by
    refine ⟨ds, found, List.prefix_refl _, fun conn bc' was gone _ => ?_⟩
    rw [was] at gone
    cases gone
  ids held := held

theorem trans (first : Spreads P h mid) (rest : Spreads P mid h') : Spreads P h h' where
  sends := first.sends.trans rest.sends
  streams key ds found := by
    obtain ⟨between, foundMid, logged, lost⟩ := first.streams key ds found
    obtain ⟨ds', found', logged', lost'⟩ := rest.streams key between foundMid
    refine ⟨ds', found', logged.trans logged', fun conn bc' was gone connected => ?_⟩
    cases still : between.subscribers.contains conn with
    | true => exact lost' conn bc' still gone connected
    | false =>
      obtain ⟨bc, before, grown⟩ := rest.sends.before_of connected
      exact grown.closes (lost conn bc was still before)
  ids held := rest.ids (first.ids held)

theorem onStream {key : DKey} {op : StreamCell → StreamCell}
    (fans : ∀ ds, h.streams.get? key = some ds →
      StreamCell.Fans P (.ofStream ds h.browsers) (op (.ofStream ds h.browsers)))
    (moves : ∀ c : StreamCell, Moved ctx (fun _ => True) c.ds (op c).ds) :
    Spreads P h (h.onStream ctx key op) := by
  cases found : h.streams.get? key with
  | none =>
    have idle : h.onStream ctx key op = h := by
      unfold HubInner.onStream updateStream
      rw [found]
      rfl
    rw [idle]
    exact refl h
  | some ds =>
    have browsers := @onStream_browsers ctx key op h ds found
    have after := @onStream_streams_get? ctx key op h
    rw [found] at after
    refine ⟨by rw [browsers]; exact (fans ds found).sends, fun k ds₀ before => ?_,
      fun held k ds' now => ?_⟩
    · by_cases same : k = key
      · subst same
        rw [found] at before
        cases before
        refine ⟨_, (after k).trans (if_pos rfl), (moves (.ofStream ds h.browsers)).keeps.2,
          fun conn bc' was gone there => ?_⟩
        rw [browsers] at there
        exact (fans ds found).lost conn bc' was gone there
      · refine ⟨ds₀, ((after k).trans (if_neg same)).trans before, List.prefix_refl _,
          fun conn bc' was gone _ => ?_⟩
        rw [was] at gone
        cases gone
    · rw [after k] at now
      by_cases same : k = key
      · rw [if_pos same] at now
        cases now
        obtain ⟨id, streamId⟩ := held key ds found
        exact ⟨id, (moves (.ofStream ds h.browsers)).keeps.1.trans streamId⟩
      · rw [if_neg same] at now
        exact held k ds' now

theorem fanOutEvents (upstreamId : String) (env : Envelope) (events : List Event) :
    Spreads P h (h.fanOutEvents ctx upstreamId env events) := by
  unfold HubInner.fanOutEvents onUpstream
  split
  · exact refl h
  · refine onStream (fun ds _ => StreamCell.fanOutEvents_fans upstreamId env events) fun c => ?_
    have may : StreamCell.BatchMoves (fun _ => True) upstreamId env events :=
      { resubscribe := trivial, clear := trivial, rebind := trivial, watermark := fun _ => trivial,
        stash := trivial, event := fun _ _ => trivial }
    exact StreamCell.fanOutEvents_moved upstreamId env events may c

theorem flushBatch (key : DKey) (batch : PendingUpstreamBatch) :
    Spreads P h (h.flushBatch ctx key batch) := by
  unfold HubInner.flushBatch
  dsimp only
  split
  · exact refl h
  · exact fanOutEvents _ _ _

theorem flush (key : DKey) (batches : List PendingUpstreamBatch) (h : HubInner) :
    Spreads P h (batches.foldl (HubInner.flushBatch ctx key) h) := by
  induction batches generalizing h with
  | nil => exact refl h
  | cons batch rest inductionHypothesis =>
    exact (flushBatch key batch).trans (inductionHypothesis _)

end Spreads

/-- Between `h` and `h'` every subscriber of the stream that was reset is sent the frame or
told to resync. -/
def Told (r : Reset) (h h' : HubInner) : Prop :=
  ∀ ds conn bc, h.streams.get? r.key = some ds → ds.subscribers.contains conn = true →
    h.browsers.get? conn = some bc →
    ∃ bc', h'.browsers.get? conn = some bc' ∧ Hears r.streamId r.frame bc bc'

namespace Told

theorem after (told : Told r h mid) (spreads : Spreads P mid h') : Told r h h' := by
  intro ds conn bc found subscribed connected
  obtain ⟨bc', connected', hears⟩ := told ds conn bc found subscribed connected
  obtain ⟨bc'', connected'', grown⟩ := spreads.sends.after_of connected'
  exact ⟨bc'', connected'', hears.after grown⟩

theorem before (spreads : Spreads P h mid) (told : Told r mid h') (rest : Spreads P mid h') :
    Told r h h' := by
  intro ds conn bc found subscribed connected
  obtain ⟨between, foundMid, -, lost⟩ := spreads.streams r.key ds found
  obtain ⟨bc₁, connectedMid, grown⟩ := spreads.sends.after_of connected
  cases still : between.subscribers.contains conn with
  | true =>
    obtain ⟨bc', connected', hears⟩ := told between conn bc₁ foundMid still connectedMid
    exact ⟨bc', connected', Hears.before grown hears⟩
  | false =>
    obtain ⟨bc', connected', grown'⟩ := rest.sends.after_of connectedMid
    exact ⟨bc', connected', .inl (grown'.closes (lost conn bc₁ subscribed still connectedMid))⟩

end Told

end HubInner

end AgentConsole.Relay
