import AgentConsole.Lib.Run
import AgentConsole.Web.Timeline

/-! # Loading outputs again

A final event whose length is not that of the output starts a fetch of the whole text, and so
does a reader who opens an output that is to be loaded.  While a fetch runs the output is marked;
what comes back is written to the object that the fetch was started for.  The timeline keeps no
object for long: an output event copies the item of every output, and the output itself where
the event is taken; an entry that arrives again copies the item.

The run is that of one item with an entry in the timeline.  Objects are numbered as they are
made. -/

namespace AgentConsole.Web.Repair

open AgentConsole.Lib Deferred Timeline

/-- `reduceOutput` returns the output itself. -/
def ignored (state : OutputState) (event : OutputEvent) : Bool :=
  decide (event.itemId ≠ state.itemId) ||
    event.revision?.any (fun revision => decide (revision < state.revision)) ||
    (state.isFinal && event.revision?.all fun revision => decide (revision ≤ state.revision))

/-- The object that a fetch is to write to: the output that a final event left a gap in, or the
item whose output a reader asked for. -/
inductive Aim where
  | repair (output : Nat)
  | load (item : Nat)
deriving DecidableEq, Repr

/-- A fetch with the revision and the length that are known of its output. -/
structure Fetch where
  controller : Nat
  revision : Nat
  byteLength : Nat
  aim : Aim
  aborted : Bool := false
deriving DecidableEq, Repr

/-- The objects, the item in the timeline, and the fetches.  `finals` counts the final events
received, `fetches` the fetches that final events have started. -/
structure Store where
  outputs : Nat → ItemOutput
  outputOf : Nat → Nat
  live : Nat
  next : Nat
  inFlight : List Fetch
  outputLoads : Option Nat
  controllers : Nat
  finals : Nat
  fetches : Nat

inductive Input where
  /-- An output event, of this item or of another one. -/
  | output (event : OutputEvent)
  /-- The entry of the item comes again: alone, or in a newer snapshot. -/
  | upsert
  /-- A snapshot that is not newer has the entry of the item. -/
  | stale
  | cursor (cursor : OutputCursor)
  | loadOutput (cursor : OutputCursor)
  /-- The reader leaves the session. -/
  | release
  /-- The answer of a fetch; `none` is a failure. -/
  | answer (controller : Nat) (text : Option (List Char))
deriving DecidableEq, Repr

namespace Store

variable (itemId : String) (st : Store)

/-- The output in the timeline. -/
def current : ItemOutput := st.outputs (st.outputOf st.live)

/-- `output.loadState = …` -/
def mark (output : Nat) (loadState : Option LoadState) : Store :=
  { st with
    outputs := Function.update st.outputs output { st.outputs output with loadState } }

/-- `reduceTimelineOutput` copies the item, and `reduceOutput` the output unless it returns it. -/
def reduceEntry (event : OutputEvent) : Store :=
  if ignored st.current.shown event then
    { st with
      outputOf := Function.update st.outputOf st.next (st.outputOf st.live)
      live := st.next
      next := st.next + 1 }
  else
    { st with
      outputs := Function.update st.outputs (st.next + 1)
        { st.current with shown := reduceOutput st.current.shown event }
      outputOf := Function.update st.outputOf st.next (st.next + 1)
      live := st.next
      next := st.next + 2 }

def start (aim : Aim) (revision byteLength : Nat) : Store :=
  { st.mark (st.outputOf st.live) (some .loading) with
    inFlight := st.inFlight ++ [⟨st.controllers, revision, byteLength, aim, false⟩]
    outputLoads := some st.controllers
    controllers := st.controllers + 1 }

/-- A final event that leaves a gap starts a fetch. -/
def settle (event : OutputEvent) : Store :=
  if st.current.shown.hasGap then
    match event with
    | .final _ revision byteLength =>
      { st.start (.repair (st.outputOf st.live)) revision byteLength with
        fetches := st.fetches + 1 }
    | _ => st
  else if st.current.shown.isFinal then st.mark (st.outputOf st.live) none
  else st

/-- `handleEvent` for an output event. -/
def handleOutput (event : OutputEvent) : Store :=
  if event.itemId = itemId then (st.reduceEntry event).settle event else st.reduceEntry event

/-- The end of `loadOutput`: `item.output` is reduced and set. -/
def finishLoad (item : Nat) (fetch : Fetch) (text : List Char) : Store :=
  let output := st.outputs (st.outputOf item)
  let replaced := reduceOutput output.shown (.replace itemId fetch.revision text)
  let shown := reduceOutput replaced (.final itemId fetch.revision fetch.byteLength)
  if ignored output.shown (.replace itemId fetch.revision text) &&
      ignored replaced (.final itemId fetch.revision fetch.byteLength) then
    st.mark (st.outputOf item) none
  else
    { st with
      outputs := Function.update st.outputs st.next ⟨shown, none⟩
      outputOf := Function.update st.outputOf item st.next
      next := st.next + 1 }

/-- What a fetch does when its answer comes. -/
def finish (fetch : Fetch) (text : Option (List Char)) : Store :=
  let failed : Option LoadState := some (if fetch.aborted then .deferred else .failed)
  match fetch.aim, text with
  | .repair _, some text =>
    -- the final event is handled again
    (st.handleOutput itemId (.replace itemId fetch.revision text)).handleOutput itemId
      (.final itemId fetch.revision fetch.byteLength)
  | .repair output, none => st.mark output failed
  | .load item, some text => st.finishLoad itemId item fetch text
  | .load item, none => st.mark (st.outputOf item) failed

/-- The fetch is over. -/
def remove (controller : Nat) : Store :=
  { st with
    inFlight := st.inFlight.filter fun fetch => fetch.controller ≠ controller
    outputLoads := if st.outputLoads = some controller then none else st.outputLoads }

def fetchOf (controller : Nat) : Option Fetch :=
  st.inFlight.find? fun fetch => fetch.controller = controller

/-- An answer comes. -/
def answer (controller : Nat) (text : Option (List Char)) : Store :=
  match st.fetchOf controller with
  | none => st
  | some fetch => (st.remove controller).finish itemId fetch text

def isFinalOf (event : OutputEvent) : Bool :=
  match event with
  | .final id _ _ => decide (id = itemId)
  | _ => false

def step : Input → Store
  | .output event =>
    { st.handleOutput itemId event with
      finals := st.finals + (if isFinalOf itemId event then 1 else 0) }
  | .upsert =>
    { st with
      outputOf := Function.update st.outputOf st.next (st.outputOf st.live)
      live := st.next
      next := st.next + 1 }
  | .stale =>
    -- an output that counts as empty is replaced by that of the snapshot
    if isPlaceholderOutput st.current then
      { st with
        outputs := Function.update st.outputs (st.next + 1) ⟨placeholder itemId, none⟩
        outputOf := Function.update st.outputOf st.next (st.next + 1)
        live := st.next
        next := st.next + 2 }
    else st
  | .cursor cursor =>
    { st with
      outputs := Function.update st.outputs (st.outputOf st.live) (st.current.prepare cursor) }
  | .loadOutput cursor =>
    if st.current.loadState = some .loading then st
    else st.start (.load st.live) cursor.revision cursor.byteLength
  | .release =>
    match st.outputLoads with
    | none => st
    | some controller =>
      { st with
        inFlight := st.inFlight.map fun fetch =>
          if fetch.controller = controller then { fetch with aborted := true } else fetch
        outputLoads := none }
  | .answer controller text => st.answer itemId controller text

/-- The entry of an item for which nothing has come. -/
def new : Store where
  outputs := fun _ => ⟨placeholder itemId, none⟩
  outputOf := fun _ => 0
  live := 0
  next := 1
  inFlight := []
  outputLoads := none
  controllers := 0
  finals := 0
  fetches := 0

/-! ## What every step should keep, and when it does -/

/-- The final events of the item among the inputs. -/
def received : Input → Nat
  | .output event => if isFinalOf itemId event then 1 else 0
  | _ => 0

/-- A final event causes one fetch at most, and an answer none; without a fetch nothing is marked
as loading; a text that is not outdated is shown; and what is newer than the fetch stays. -/
structure Good (st : Store) (input : Input) : Prop where
  bounded : (st.step itemId input).fetches ≤ st.fetches + received itemId input
  quiet : (st.step itemId input).inFlight = [] →
    (st.step itemId input).current.loadState ≠ some .loading
  visible : ∀ controller text fetch, input = .answer controller (some text) →
    st.fetchOf controller = some fetch →
    ignored st.current.shown (.replace itemId fetch.revision text) = false →
    (st.step itemId input).current.shown.text = text
  kept : ∀ controller text fetch, input = .answer controller text →
    st.fetchOf controller = some fetch → fetch.revision < st.current.shown.revision →
    (st.step itemId input).current.shown = st.current.shown

/-- The output is not marked, or another fetch will end the mark. -/
def Unmarked (st : Store) (controller : Nat) : Prop :=
  st.current.loadState = some .loading → (st.remove controller).inFlight ≠ []

/-- The condition on an answer.  A text that the event of a repair takes has the length that the
event announced; one that comes too late finds no gap, and no mark that it should end.  A text
that a reader loads, and a failure, is written to what is in the timeline, or finds no mark
there (and the text is outdated, or shown already). -/
def Fits (st : Store) (fetch : Fetch) (text : Option (List Char)) : Prop :=
  match fetch.aim, text with
  | .repair _, some text =>
    if ignored st.current.shown (.replace itemId fetch.revision text) then
      st.current.shown.hasGap = false ∧
        (st.current.shown.isFinal = true ∨ st.Unmarked fetch.controller)
    else utf8Length text = fetch.byteLength
  | .repair output, none => output = st.outputOf st.live ∨ st.Unmarked fetch.controller
  | .load item, some text =>
    item = st.live ∨
      if ignored st.current.shown (.replace itemId fetch.revision text) then
        st.outputOf item = st.outputOf st.live ∨ st.Unmarked fetch.controller
      else st.current.shown.text = text ∧ st.Unmarked fetch.controller
  | .load item, none =>
    st.outputOf item = st.outputOf st.live ∨ st.Unmarked fetch.controller

def Regular (st : Store) : Input → Prop
  | .answer controller text => ∀ fetch, st.fetchOf controller = some fetch →
    Fits itemId st fetch text
  | _ => True

end Store

end AgentConsole.Web.Repair
