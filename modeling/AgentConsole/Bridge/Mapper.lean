import AgentConsole.Lib.Run
import AgentConsole.Bridge.Document

/-! # Command output in the mapper

The mapper keeps the last conversation state of a session and, for every item, what the
next state is compared with.  From the comparison come the output events: an output that
got longer is appended, through a buffer that is emptied when it is full or old enough;
another one is replaced; and a command that ends gets a final event.

Times are milliseconds.  The events of items, turns, attention and the summary are left
out; they depend on other fields of the state. -/

namespace AgentConsole.Bridge

open AgentConsole.Lib

/-- Items without a native id have a synthetic one. -/
structure ItemId where
  id : String
  synthetic : Bool := false
  deriving DecidableEq, Repr

/-- The output events of `DomainEvent`. -/
inductive OutputEvent where
  | append (item : ItemId) (expectedOffset : Nat) (bytes : List UInt8)
  | replace (item : ItemId) (revision : Nat) (bytes : List UInt8)
  | final (item : ItemId) (revision : Nat) (byteLength : Nat) (finalUnavailable : Bool)
  deriving DecidableEq, Repr

def OutputEvent.item : OutputEvent → ItemId
  | .append item _ _ | .replace item _ _ | .final item _ _ _ => item

/-! ## Cutting bytes -/

/-- `is_char_boundary` -/
def isCharBoundary (bytes : List UInt8) (index : Nat) : Bool :=
  match index, bytes[index]? with
  | 0, _ | _, none => true
  | _, some byte => !Utf8.isContinuation byte

/-- The last boundary up to a position. -/
def lastBoundary (bytes : List UInt8) : Nat → Nat
  | 0 => 0
  | n + 1 => if isCharBoundary bytes (n + 1) then n + 1 else lastBoundary bytes n

/-- `OutputBytes::split_utf8_safe` -/
def splitUtf8Safe (bytes : List UInt8) (max : Nat) : Option (List UInt8 × List UInt8) :=
  if bytes = [] ∨ max = 0 then none
  else
    let cut := lastBoundary bytes (min max bytes.length)
    if cut = 0 then none else some (bytes.take cut, bytes.drop cut)

/-- The loop of `take_pending_output`; no chunk is empty, so the length of the buffer is
enough fuel.  `none` is the panic of the `expect`. -/
def chunks (max : Nat) : Nat → List UInt8 → Option (List (List UInt8))
  | _, [] => some []
  | 0, _ :: _ => none
  | fuel + 1, bytes => do
    let (chunk, tail) ← splitUtf8Safe bytes max
    let rest ← chunks max fuel tail
    return chunk :: rest

/-! ## Tracks -/

structure ItemTrack where
  nativeType : String
  status : Option String
  output : List UInt8
  outputPresent : Bool
  finalEmitted : Bool := false
  deriving DecidableEq, Repr

structure PendingOutput where
  expectedOffset : Nat
  buffer : List UInt8
  queuedAt : Nat
  deriving DecidableEq, Repr

/-- The items whose output is reported. -/
def isOutputItem (nativeType : String) : Bool :=
  nativeType = "commandExecution" || nativeType = "command"

/-- The items whose content is a command status. -/
def isCommandStatus (nativeType : String) : Bool :=
  isOutputItem nativeType || nativeType = "localShellCall"

/-- `command_status_is_terminal` of the mapped status. -/
def commandStatusIsTerminal : Option String → Bool
  | some status =>
    status ∈ ["completed", "failed", "interrupted", "userStopped", "stopped"]
  | none => false

/-- `track_key` of the item's native or synthetic id. -/
def trackKey (item : Json) : String :=
  match item.nativeId? with
  | some id => if id ≠ "" then id else unnamed
  | none => unnamed
where
  unnamed := item.itemTypeOf ++ ":unnamed"

/-- The key without the suffix of unnamed items. -/
def unnamedBase? (key : String) : Option String :=
  let chars := key.toList
  let suffix := ":unnamed".toList
  if suffix <:+ chars then some (String.ofList (chars.take (chars.length - suffix.length)))
  else none

/-- `key_to_item_id` -/
def keyToItemId (key : String) : ItemId :=
  match unnamedBase? key with
  | some base => { id := base, synthetic := true }
  | none => { id := key }

def buildTrack (item : Json) : ItemTrack where
  nativeType := item.itemTypeOf
  status := (item.get? "status").bind Json.asStr?
  output := if isCommandStatus item.itemTypeOf then
    ((item.commandOutput?).map fun text => Utf8.encode text.toList).getD [] else []
  outputPresent := isCommandStatus item.itemTypeOf && item.commandOutput?.isSome

/-- The tracks of a state; of two items with one key the first counts. -/
def newItems (state : Json) : FiniteMap String ItemTrack :=
  state.items.foldl (fun tracks item =>
    if tracks.contains (trackKey item) then tracks
    else tracks.insert (trackKey item) (buildTrack item)) ∅

/-- The native ids in a state. -/
def itemIds (state : Json) : List String := state.items.filterMap Json.nativeId?

/-- A `BTreeMap` is iterated in the order of its keys. -/
def inKeyOrder {α : Type} (m : FiniteMap String α) : List (String × α) :=
  m.toList.insertionSort fun a b => a.1 ≤ b.1

/-! ## The mapper -/

structure SessionMapper where
  revision : Option Nat := none
  state : Option Json := none
  items : FiniteMap String ItemTrack := ∅
  pendingOutputs : FiniteMap String PendingOutput := ∅
  panicked : Bool := false

namespace SessionMapper

/-- `OutputMergePolicy::default` -/
def maxDelay : Nat := 75

def maxBytes : Nat := 64 * 1024

/-- The append events for the chunks of a buffer. -/
def appends (item : ItemId) : Nat → List (List UInt8) → List OutputEvent
  | _, [] => []
  | offset, chunk :: rest =>
    .append item offset chunk :: appends item (offset + chunk.length) rest

/-- `take_pending_output` -/
def takePendingOutput (m : SessionMapper) (key : String) : SessionMapper × List OutputEvent :=
  match m.pendingOutputs.get? key with
  | none => (m, [])
  | some pending =>
    let m := { m with pendingOutputs := m.pendingOutputs.erase key }
    match chunks maxBytes pending.buffer.length pending.buffer with
    | some parts => (m, appends (keyToItemId key) pending.expectedOffset parts)
    | none => ({ m with panicked := true }, [])

/-- `maybe_flush_full` -/
def maybeFlushFull (m : SessionMapper) (key : String) : SessionMapper × List OutputEvent :=
  match m.pendingOutputs.get? key with
  | some pending => if maxBytes ≤ pending.buffer.length then m.takePendingOutput key else (m, [])
  | none => (m, [])

/-- `output_events_for_new_snapshot_item` -/
def outputEventsForNewSnapshotItem (key : String) (new : ItemTrack) : List OutputEvent :=
  if isOutputItem new.nativeType then
    (if new.output ≠ [] then [.replace (keyToItemId key) 0 new.output] else []) ++
      if commandStatusIsTerminal new.status ∧ ¬ new.finalEmitted then
        [.final (keyToItemId key) 0 new.output.length (!new.outputPresent)]
      else []
  else []

/-- An extension of the output goes into the buffer. -/
def extendBuffer (m : SessionMapper) (now : Nat) (key : String) (old new : ItemTrack) :
    SessionMapper :=
  let entry := (m.pendingOutputs.get? key).getD ⟨old.output.length, [], now⟩
  let buffer := entry.buffer ++ new.output.drop old.output.length
  { m with pendingOutputs := m.pendingOutputs.insert key { entry with buffer } }

/-- The first half of `output_delta_events`: an extension is buffered, another change
replaces the output. -/
def outputChange (m : SessionMapper) (now : Nat) (key : String) (old new : ItemTrack) :
    SessionMapper × List OutputEvent :=
  if new.output.length ≠ old.output.length then
    if old.output <+: new.output then
      (m.extendBuffer now key old new).maybeFlushFull key
    else
      ({ m with pendingOutputs := m.pendingOutputs.erase key },
        [.replace (keyToItemId key) 0 new.output])
  else (m, [])

/-- `output_delta_events`; the track is the one to be stored. -/
def outputDeltaEvents (m : SessionMapper) (now : Nat) (key : String) (old new : ItemTrack) :
    SessionMapper × ItemTrack × List OutputEvent :=
  if isOutputItem new.nativeType then
    let (m, events) := m.outputChange now key old new
    if commandStatusIsTerminal new.status ∧ ¬ commandStatusIsTerminal old.status ∧
        ¬ new.finalEmitted then
      let (m, flushed) := m.takePendingOutput key
      (m, { new with finalEmitted := true },
        events ++ flushed ++ [.final (keyToItemId key) 0 new.output.length (!new.outputPresent)])
    else (m, new, events)
  else (m, new, [])

/-- One item of a new state.  The first state only registers its items. -/
def applyItem (first : Bool) (now : Nat) (state : Json) (m : SessionMapper) (key : String)
    (new : ItemTrack) : SessionMapper × List OutputEvent :=
  match m.items.get? key with
  | none =>
    ({ m with items := m.items.insert key new },
      if ¬ first ∧ key ∈ itemIds state then outputEventsForNewSnapshotItem key new else [])
  | some old =>
    let (m, new, events) := m.outputDeltaEvents now key old new
    ({ m with items := m.items.insert key new }, events)

/-- The items of a new state, one after the other. -/
def applyItems (first : Bool) (now : Nat) (state : Json) (m : SessionMapper) :
    List (String × ItemTrack) → SessionMapper × List OutputEvent
  | [] => (m, [])
  | (key, new) :: rest =>
    let (m, events) := m.applyItem first now state key new
    let (m, later) := applyItems first now state m rest
    (m, events ++ later)

/-- `apply_snapshot`; the items that are no longer in the state are dropped at the end. -/
def applySnapshot (m : SessionMapper) (now : Nat) (revision : Nat) (state : Json) :
    SessionMapper × List OutputEvent :=
  let first := m.state.isNone
  let m := { m with revision := some revision, state := some state }
  let (m, events) := m.applyItems first now state (inKeyOrder (newItems state))
  ({ m with items := m.items.filter fun key _ => key ∈ itemIds state }, events)

/-- The state after a batch of patches; `none` asks for a snapshot. -/
def patched? (m : SessionMapper) (baseRevision revision : Nat) (patches : List Json) :
    Option Json :=
  if m.revision ≠ some baseRevision ∨ revision ≤ baseRevision then none
  else m.state.bind fun previous => (previous.applyImmerPatches patches).toOption

/-- `apply_patches`; `none` is `ResyncNeeded`. -/
def applyPatches (m : SessionMapper) (now baseRevision revision : Nat) (patches : List Json) :
    Option (SessionMapper × List OutputEvent) :=
  (m.patched? baseRevision revision patches).map fun state => m.applySnapshot now revision state

/-- The keys whose buffer is old enough. -/
def dueKeys (m : SessionMapper) (now : Nat) : List String :=
  ((inKeyOrder m.pendingOutputs).filter fun entry => maxDelay ≤ now - entry.2.queuedAt).map (·.1)

/-- Take several pending outputs. -/
def takeAll (m : SessionMapper) : List String → SessionMapper × List OutputEvent
  | [] => (m, [])
  | key :: rest =>
    let (m, events) := m.takePendingOutput key
    let (m, later) := m.takeAll rest
    (m, events ++ later)

/-- `flush_due_outputs` -/
def flushDueOutputs (m : SessionMapper) (now : Nat) : SessionMapper × List OutputEvent :=
  m.takeAll (m.dueKeys now)

/-! ## Runs -/

inductive Input where
  | snapshot (now revision : Nat) (state : Json)
  | patches (now baseRevision revision : Nat) (patches : List Json)
  | flush (now : Nat)

/-- A step of the mapper, with the events it emits. -/
def perform (m : SessionMapper) : Input → SessionMapper × List OutputEvent
  | .snapshot now revision state => m.applySnapshot now revision state
  | .patches now baseRevision revision patches =>
    (m.applyPatches now baseRevision revision patches).getD (m, [])
  | .flush now => m.flushDueOutputs now

end SessionMapper
end AgentConsole.Bridge
