import AgentConsole.Relay.Addresses

/-! # Merge keys

A frame that may be merged has a key: its stream, its epoch and the device of its envelope, and
behind them what the event is about, all joined by slashes and colons.  The device is a text that
the Relay takes from the envelope of the Bridge as it comes. -/

namespace AgentConsole.Relay

open AgentConsole.Lib

/-! ## What a key stands for -/

/-- What an event that may be merged is about.  An item is known by the text of its id, and an id
that is not given is read as the empty text. -/
inductive MergeSubject where
  | presence (device : String)
  | capability
  | background (commandId : String)
  | tokenUsage (item : String)
  | output (item : String) (channel : Int)
deriving DecidableEq

def itemText (id : Option ItemId) : String := (id.map ItemId.id).getD ""

def mergeSubject : Event → Option MergeSubject
  | .devicePresenceChanged presence =>
    some (.presence ((presence.map DevicePresence.deviceId).getD ""))
  | .capabilityChanged _ => some .capability
  | .backgroundCommandChanged command =>
    some (.background ((command.map BackgroundCommand.commandId).getD ""))
  | .itemUpsert item =>
    match item.bind Item.content with
    | some (.tokenUsage _) => some (.tokenUsage (itemText (item.bind Item.itemId)))
    | _ => none
  | .outputAppend append => some (.output (itemText append.itemId) append.channel)
  | _ => none

/-- Where the frame of an event belongs. -/
structure MergeScope where
  stream : Uuid
  epoch : Nat
  device : String
deriving DecidableEq

def MergeScope.streamId (scope : MergeScope) : String := "s-" ++ scope.stream.text

def MergeInfo.key : MergeInfo → String
  | .outputAppend key _ _ | .replaceLatest key => key

/-- A frame of the event, made by the fan-out of a batch. -/
def IsFrame (scope : MergeScope) (event : Event) (frame : Frame) : Prop :=
  ∃ (ctx : Ctx) (env : Envelope) (ds : DStream), ds.streamId = scope.streamId ∧
    ds.epoch = scope.epoch ∧ env.deviceId = scope.device ∧ frame = ds.eventFrame ctx env event

/-- Two frames of these scopes have the same key only if they belong to the same stream, epoch
and device and are about the same. -/
def KeysInjective (scope scope' : MergeScope) : Prop :=
  ∀ event event' frame frame' info info', IsFrame scope event frame → IsFrame scope' event' frame' →
    frame.merge = some info → frame'.merge = some info' → info.key = info'.key →
      scope = scope' ∧ mergeSubject event = mergeSubject event'

/-- The ids of upstream streams differ for different devices, kinds and native ids. -/
def UpstreamIdsInjective : Prop :=
  ∀ (device device' u u' : Uuid) (kind kind' : Int) (native native' : String),
    upstreamStreamId u (.session device kind native) =
        upstreamStreamId u' (.session device' kind' native') →
      device = device' ∧ kind = kind' ∧ native = native'

/-! ## Keys as texts -/

/-- The key of `classify`. -/
def MergeSubject.key : MergeSubject → String
  | presence device => "presence:" ++ device
  | capability => "capability"
  | background commandId => "bg:" ++ commandId
  | tokenUsage item => "token:" ++ item
  | output item channel => "out:" ++ item ++ ":" ++ toString channel

theorem classify_key (event : Event) :
    (classify event).2.map MergeInfo.key = (mergeSubject event).map MergeSubject.key := by
  cases event with
  | itemUpsert item =>
    simp only [classify, mergeSubject]
    cases item.bind Item.content with
    | none => rfl
    | some content =>
      cases content with
      | tokenUsage rest | question rest | approval rest | other rest => rfl
  | turnLifecycle rest | outputAppend append | outputReplace rest | outputFinal rest => rfl
  | sessionSummaryChanged summary | pendingAttentionAdded rest | pendingAttentionRemoved rest => rfl
  | queueStateChanged rest | backgroundCommandChanged command | devicePresenceChanged presence => rfl
  | capabilityChanged rest => rfl

theorem eventFrame_merge (ctx : Ctx) (env : Envelope) (ds : DStream) (event : Event) :
    (ds.eventFrame ctx env event).merge = (classify event).2.map
      (MergeInfo.scoped (ds.streamId ++ "/" ++ toString ds.epoch ++ "/" ++ env.deviceId)) := rfl

theorem MergeInfo.key_scoped (scope : String) (info : MergeInfo) :
    (info.scoped scope).key = scope ++ "/" ++ info.key := by
  cases info <;> rfl

/-- The key of a frame: the scope and the key of the subject. -/
theorem IsFrame.key {scope : MergeScope} {event : Event} {frame : Frame} {info : MergeInfo}
    (is : IsFrame scope event frame) (merges : frame.merge = some info) :
    ∃ subject, mergeSubject event = some subject ∧
      info.key.toList = "s-".toList ++ (scope.stream.text.toList ++
        '/' :: ((Nat.toDigits 10 scope.epoch) ++ '/' :: (scope.device.toList ++
          '/' :: subject.key.toList))) := by
  obtain ⟨ctx, env, ds, stream, epoch, device, rfl⟩ := is
  rw [eventFrame_merge] at merges
  obtain ⟨inner, classified, rfl⟩ := Option.map_eq_some_iff.mp merges
  have keys := classify_key event
  rw [classified, Option.map_some] at keys
  obtain ⟨subject, is, same⟩ := Option.map_eq_some_iff.mp keys.symm
  refine ⟨subject, is, ?_⟩
  rw [MergeInfo.key_scoped, stream, epoch, device, same]
  simp only [MergeScope.streamId, String.toList_append, List.append_assoc, Nat.toString_eq_repr,
    Nat.toList_repr]
  rfl

theorem exists_frame (scope : MergeScope) {event : Event} {subject : MergeSubject}
    (is : mergeSubject event = some subject) :
    ∃ frame info, IsFrame scope event frame ∧ frame.merge = some info := by
  have keys := classify_key event
  rw [is, Option.map_some] at keys
  obtain ⟨info, classified, -⟩ := Option.map_eq_some_iff.mp keys
  let ds : DStream := { DStream.new (scope.stream, .list) scope.stream with epoch := scope.epoch }
  let env : Envelope := baseEnvelope 0 scope.device .heartbeat
  refine ⟨ds.eventFrame (Ctx.idle 0) env event,
    info.scoped (ds.streamId ++ "/" ++ toString ds.epoch ++ "/" ++ env.deviceId), ?_, ?_⟩
  · exact ⟨Ctx.idle 0, env, ds, rfl, rfl, rfl, rfl⟩
  · rw [eventFrame_merge, classified, Option.map_some]

/-! ## Reading a key back -/

theorem notMem_toDigits {c : Char} (other : c.isDigit = false) (n : Nat) :
    c ∉ Nat.toDigits 10 n := by
  intro member
  have digit := Nat.isDigit_of_mem_toDigits (by decide) (by decide) member
  rw [other] at digit
  cases digit

theorem notMem_int {c : Char} (other : c.isDigit = false) (dash : c ≠ '-') (k : Int) :
    c ∉ (toString k).toList := by
  rw [int_toList]
  cases k with
  | ofNat m => exact notMem_toDigits other m
  | negSucc m =>
    intro member
    rcases List.mem_cons.mp member with same | inside
    · exact dash same
    · exact notMem_toDigits other (m + 1) inside

theorem int_inj {k k' : Int} (same : (toString k).toList = (toString k').toList) : k = k' := by
  have both : (toString k).toList ++ '-' :: [] = (toString k').toList ++ '-' :: [] := by rw [same]
  exact (int_dash_inj both).1

/-- The last separator of a text determines its parts too. -/
theorem append_last_separator_inj {α : Type} {sep : α} {as bs xs ys : List α} (left : sep ∉ xs)
    (right : sep ∉ ys) (same : as ++ sep :: xs = bs ++ sep :: ys) : as = bs ∧ xs = ys := by
  have reversed : xs.reverse ++ sep :: as.reverse = ys.reverse ++ sep :: bs.reverse := by
    have both := congrArg List.reverse same
    simpa using both
  obtain ⟨texts, rests⟩ := append_separator_inj (by simpa using left) (by simpa using right) reversed
  exact ⟨List.reverse_injective rests, List.reverse_injective texts⟩

/-- The first letters of the labels differ. -/
def MergeSubject.initial : MergeSubject → Char
  | presence _ => 'p'
  | capability => 'c'
  | background _ => 'b'
  | tokenUsage _ => 't'
  | output _ _ => 'o'

/-- The text behind the label. -/
def MergeSubject.text : MergeSubject → List Char
  | presence device => device.toList
  | capability => []
  | background commandId => commandId.toList
  | tokenUsage item => item.toList
  | output item channel => item.toList ++ ':' :: (toString channel).toList

def MergeSubject.label : MergeSubject → List Char
  | presence _ => ['p', 'r', 'e', 's', 'e', 'n', 'c', 'e', ':']
  | capability => ['c', 'a', 'p', 'a', 'b', 'i', 'l', 'i', 't', 'y']
  | background _ => ['b', 'g', ':']
  | tokenUsage _ => ['t', 'o', 'k', 'e', 'n', ':']
  | output _ _ => ['o', 'u', 't', ':']

theorem MergeSubject.key_toList (subject : MergeSubject) :
    subject.key.toList = subject.label ++ subject.text := by
  cases subject with
  | presence device => exact String.toList_append
  | capability => rfl
  | background commandId => exact String.toList_append
  | tokenUsage item => exact String.toList_append
  | output item channel =>
    rw [key, String.toList_append, String.toList_append, String.toList_append, List.append_assoc,
      List.append_assoc]
    rfl

theorem MergeSubject.key_head (subject : MergeSubject) :
    subject.key.toList.head? = some subject.initial := by
  rw [key_toList]
  cases subject with
  | presence device | capability | background command | tokenUsage item | output item channel => rfl

theorem MergeSubject.key_inj {subject subject' : MergeSubject}
    (same : subject.key.toList = subject'.key.toList) : subject = subject' := by
  have initials : subject.initial = subject'.initial := by
    have heads := congrArg List.head? same
    rw [key_head, key_head] at heads
    exact Option.some.inj heads
  rw [key_toList, key_toList] at same
  cases subject with
  | presence device =>
    cases subject' with
    | presence device' =>
      rw [String.toList_inj.mp (List.append_cancel_left same)]
    | capability | background _ | tokenUsage _ | output _ _ => simp [initial] at initials
  | capability =>
    cases subject' with
    | capability => rfl
    | presence _ | background _ | tokenUsage _ | output _ _ => simp [initial] at initials
  | background commandId =>
    cases subject' with
    | background commandId' =>
      rw [String.toList_inj.mp (List.append_cancel_left same)]
    | presence _ | capability | tokenUsage _ | output _ _ => simp [initial] at initials
  | tokenUsage item =>
    cases subject' with
    | tokenUsage item' =>
      rw [String.toList_inj.mp (List.append_cancel_left same)]
    | presence _ | capability | background _ | output _ _ => simp [initial] at initials
  | output item channel =>
    cases subject' with
    | output item' channel' =>
      have colon : ∀ k : Int, ':' ∉ (toString k).toList := notMem_int (by decide) (by decide)
      obtain ⟨items, channels⟩ := append_last_separator_inj (colon channel) (colon channel')
        (List.append_cancel_left same)
      rw [String.toList_inj.mp items, int_inj channels]
    | presence _ | capability | background _ | tokenUsage _ => simp [initial] at initials

/-- The scope up to the device can be read back. -/
theorem scope_of_keys {scope scope' : MergeScope} {rest rest' : List Char}
    (same : "s-".toList ++ (scope.stream.text.toList ++ '/' :: (Nat.toDigits 10 scope.epoch ++
        '/' :: rest)) =
      "s-".toList ++ (scope'.stream.text.toList ++ '/' :: (Nat.toDigits 10 scope'.epoch ++
        '/' :: rest'))) :
    scope.stream = scope'.stream ∧ scope.epoch = scope'.epoch ∧ rest = rest' := by
  obtain ⟨streams, tail⟩ := List.append_inj (List.append_cancel_left same)
    (by rw [Uuid.length_toList, Uuid.length_toList])
  have slash : ∀ n : Nat, '/' ∉ Nat.toDigits 10 n := notMem_toDigits (by decide)
  obtain ⟨epochs, rests⟩ := append_separator_inj (slash scope.epoch) (slash scope'.epoch)
    (List.cons.inj tail).2
  exact ⟨Uuid.toList_inj streams, toDigits_inj epochs, rests⟩

/-! ## Devices that overlap -/

/-- The labels behind which a key has a text that may contain slashes. -/
def openLabels : List (List Char) :=
  [MergeSubject.label (.presence ""), MergeSubject.label (.background ""),
    MergeSubject.label (.tokenUsage ""), MergeSubject.label (.output "" 0)]

/-- The second device is the first one, a slash, and the beginning of a key. -/
def Extends (device device' : String) : Prop :=
  ∃ label ∈ openLabels, ∃ more, device'.toList = device.toList ++ '/' :: (label ++ more)

/-- Of the same stream and epoch, and one device extends the other. -/
def MergeScope.Overlaps (scope scope' : MergeScope) : Prop :=
  scope.stream = scope'.stream ∧ scope.epoch = scope'.epoch ∧
    (Extends scope.device scope'.device ∨ Extends scope'.device scope.device)

/-- A key with a slash begins with an open label, before the slash. -/
theorem MergeSubject.key_slash {subject : MergeSubject} {front back : List Char}
    (same : subject.key.toList = front ++ '/' :: back) :
    ∃ label ∈ openLabels, ∃ more, front = label ++ more := by
  rw [key_toList] at same
  have free : '/' ∉ subject.label := by
    cases subject with
    | presence _ | capability | background _ | tokenUsage _ | output _ _ => simp [label]
  have begins : ∃ more, front = subject.label ++ more := by
    rcases List.append_eq_append_iff.mp same with ⟨more, whole, -⟩ | ⟨more, whole, rest⟩
    · exact ⟨more, whole⟩
    · cases more with
      | nil => exact ⟨[], by rw [whole, List.append_nil, List.append_nil]⟩
      | cons c more =>
        obtain ⟨rfl, -⟩ := List.cons.inj rest
        exact absurd (by rw [whole]; simp) free
  cases subject with
  | presence _ | background _ | tokenUsage _ | output _ _ =>
    exact ⟨_, by simp [openLabels, label], begins⟩
  | capability =>
    have slash : '/' ∈ label .capability ++ text .capability := by
      rw [same]
      simp
    exact absurd slash (by decide)

/-- Two devices before the same text are the same, or one extends the other. -/
theorem devices_of_keys {device device' : String} {subject subject' : MergeSubject}
    (same : device.toList ++ '/' :: subject.key.toList =
      device'.toList ++ '/' :: subject'.key.toList) :
    (device = device' ∧ subject = subject') ∨ Extends device device' ∨ Extends device' device := by
  rcases List.append_eq_append_iff.mp same with ⟨more, whole, rest⟩ | ⟨more, whole, rest⟩
  · cases more with
    | nil =>
      rw [List.append_nil] at whole
      exact .inl ⟨(String.toList_inj.mp whole).symm, MergeSubject.key_inj (List.cons.inj rest).2⟩
    | cons c more =>
      obtain ⟨rfl, keys⟩ := List.cons.inj rest
      obtain ⟨label, member, text, rfl⟩ := MergeSubject.key_slash keys
      exact .inr (.inl ⟨label, member, text, whole⟩)
  · cases more with
    | nil =>
      rw [List.append_nil] at whole
      exact .inl ⟨String.toList_inj.mp whole, (MergeSubject.key_inj (List.cons.inj rest).2).symm⟩
    | cons c more =>
      obtain ⟨rfl, keys⟩ := List.cons.inj rest
      obtain ⟨label, member, text, rfl⟩ := MergeSubject.key_slash keys
      exact .inr (.inr ⟨label, member, text, whole⟩)

theorem keysInjective_of_apart {scope scope' : MergeScope} (apart : ¬ scope.Overlaps scope') :
    KeysInjective scope scope' := by
  intro event event' frame frame' info info' is is' merges merges' same
  obtain ⟨subject, about, text⟩ := is.key merges
  obtain ⟨subject', about', text'⟩ := is'.key merges'
  rw [same, text'] at text
  obtain ⟨streams, epochs, rest⟩ := scope_of_keys text.symm
  rcases devices_of_keys rest with ⟨devices, subjects⟩ | overlap
  · refine ⟨?_, by rw [about, about', subjects]⟩
    cases scope
    cases scope'
    simp only at streams epochs devices
    rw [streams, epochs, devices]
  · exact absurd ⟨streams, epochs, overlap⟩ apart

/-! ## Keys that collide -/

theorem exists_event (subject : MergeSubject) : ∃ event, mergeSubject event = some subject := by
  cases subject with
  | presence device =>
    exact ⟨.devicePresenceChanged (some ⟨device, .online, none, ""⟩), rfl⟩
  | capability => exact ⟨.capabilityChanged "", rfl⟩
  | background commandId => exact ⟨.backgroundCommandChanged (some ⟨commandId, ""⟩), rfl⟩
  | tokenUsage item =>
    exact ⟨.itemUpsert (some ⟨some ⟨item, false⟩, some (.tokenUsage ""), ""⟩), rfl⟩
  | output item channel => exact ⟨.outputAppend ⟨some ⟨item, false⟩, 0, [], channel⟩, rfl⟩

/-- Behind a device that is extended stands a key that the other device is the beginning of. -/
theorem exists_collision {device device' : String} (extended : Extends device device') :
    ∃ subject subject' : MergeSubject, device.toList ++ '/' :: subject.key.toList =
      device'.toList ++ '/' :: subject'.key.toList := by
  obtain ⟨label, member, more, whole⟩ := extended
  -- the second frame is about the output of an item whose id is empty
  let last : MergeSubject := .output "" 0
  have subject : ∃ subject : MergeSubject,
      subject.key.toList = label ++ more ++ '/' :: last.key.toList := by
    simp only [openLabels, List.mem_cons, List.not_mem_nil, or_false] at member
    rcases member with rfl | rfl | rfl | rfl
    · refine ⟨.presence (String.ofList (more ++ '/' :: last.key.toList)), ?_⟩
      rw [MergeSubject.key_toList, List.append_assoc]
      simp only [MergeSubject.text, MergeSubject.label, String.toList_ofList]
    · refine ⟨.background (String.ofList (more ++ '/' :: last.key.toList)), ?_⟩
      rw [MergeSubject.key_toList, List.append_assoc]
      simp only [MergeSubject.text, MergeSubject.label, String.toList_ofList]
    · refine ⟨.tokenUsage (String.ofList (more ++ '/' :: last.key.toList)), ?_⟩
      rw [MergeSubject.key_toList, List.append_assoc]
      simp only [MergeSubject.text, MergeSubject.label, String.toList_ofList]
    · refine ⟨.output (String.ofList (more ++ '/' :: last.label)) 0, ?_⟩
      rw [MergeSubject.key_toList, MergeSubject.key_toList]
      simp only [MergeSubject.text, MergeSubject.label, String.toList_ofList, last,
        List.append_assoc, List.cons_append, List.nil_append]
      rfl
  obtain ⟨subject, key⟩ := subject
  refine ⟨subject, last, ?_⟩
  rw [key, whole]
  simp only [List.append_assoc, List.cons_append]

theorem device_ne_of_extends {device device' : String} (extended : Extends device device') :
    device ≠ device' := by
  obtain ⟨label, -, more, whole⟩ := extended
  rintro rfl
  have lengths := congrArg List.length whole
  simp only [List.length_append, List.length_cons] at lengths
  omega

theorem not_keysInjective {scope scope' : MergeScope} (stream : scope.stream = scope'.stream)
    (epoch : scope.epoch = scope'.epoch) (other : scope.device ≠ scope'.device)
    {subject subject' : MergeSubject} (same : scope.device.toList ++ '/' :: subject.key.toList =
      scope'.device.toList ++ '/' :: subject'.key.toList) : ¬ KeysInjective scope scope' := by
  intro injective
  obtain ⟨event, about⟩ := exists_event subject
  obtain ⟨event', about'⟩ := exists_event subject'
  obtain ⟨frame, info, is, merges⟩ := exists_frame scope about
  obtain ⟨frame', info', is', merges'⟩ := exists_frame scope' about'
  obtain ⟨found, known, text⟩ := is.key merges
  obtain ⟨found', known', text'⟩ := is'.key merges'
  obtain rfl : subject = found := by rw [about] at known; exact Option.some.inj known
  obtain rfl : subject' = found' := by rw [about'] at known'; exact Option.some.inj known'
  have keys : info.key = info'.key := by
    apply String.toList_inj.mp
    rw [text, text', stream, epoch, same]
  have scopes := (injective event event' frame frame' info info' is is' merges merges' keys).1
  exact other (congrArg MergeScope.device scopes)

theorem upstreamIds_injective : UpstreamIdsInjective := by
  intro device device' u u' kind kind' native native' same
  have tags := (upstreamStreamId_inj same).2
  simp only [TargetTag.session.injEq] at tags
  exact tags

/-- **Identifiers**: the ids of upstream streams are injective, and two merge keys are equal only
for frames of one stream, epoch and device that are about the same item and channel, exactly when
the frames are not of one stream and epoch with a device that is the other one followed by a
slash and the beginning of a key. -/
theorem identifiers_injective_iff (scope scope' : MergeScope) :
    (UpstreamIdsInjective ∧ KeysInjective scope scope') ↔ ¬ scope.Overlaps scope' := by
  constructor
  · intro ⟨_, injective⟩ ⟨stream, epoch, overlap⟩
    rcases overlap with extended | extended
    · obtain ⟨subject, subject', same⟩ := exists_collision extended
      exact not_keysInjective stream epoch (device_ne_of_extends extended) same injective
    · obtain ⟨subject, subject', same⟩ := exists_collision extended
      exact not_keysInjective stream epoch (device_ne_of_extends extended).symm same.symm injective
  · intro apart
    exact ⟨upstreamIds_injective, keysInjective_of_apart apart⟩

/-- Output of the item `a/out:b` of the device `d`, and of the item `b` of the device `d/out:a`. -/
theorem output_keys_collide :
    ¬ (UpstreamIdsInjective ∧ ∀ scope scope', KeysInjective scope scope') := by
  intro ⟨_, injective⟩
  let stream : Uuid := .ofLast '1'
  let ds : DStream := .new (stream, .list) stream
  let append : Event := .outputAppend ⟨some ⟨"a/out:b", false⟩, 0, [0x78], 0⟩
  let append' : Event := .outputAppend ⟨some ⟨"b", false⟩, 1, [0x79], 0⟩
  have collide := injective ⟨stream, 1, "d"⟩ ⟨stream, 1, "d/out:a"⟩ append append'
    (ds.eventFrame (.idle 0) (baseEnvelope 0 "d" .heartbeat) append)
    (ds.eventFrame (.idle 0) (baseEnvelope 0 "d/out:a" .heartbeat) append') _ _
    ⟨_, _, _, rfl, rfl, rfl, rfl⟩ ⟨_, _, _, rfl, rfl, rfl, rfl⟩ rfl rfl (by decide +kernel)
  exact absurd (congrArg MergeScope.device collide.1) (by decide)

end AgentConsole.Relay
