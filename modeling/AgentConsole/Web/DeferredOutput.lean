import AgentConsole.Lib.Run
import AgentConsole.Web.Output

/-! # Outputs that are loaded later

A snapshot names the commands whose final output is known, with its length, and
`prepareDeferredOutputs` writes the length and the revision into the item at once; the text
comes with a later load.  Until then the item has a length without the text.

The run here is the output of one item: the events that `reduceOutput` gets, and the cursors
that the loop of `prepareDeferredOutputs` goes through, in any order. -/

namespace AgentConsole.Web.Deferred

open AgentConsole.Lib

inductive LoadState where
  | deferred
  | loading
  | failed
deriving DecidableEq, Repr

/-- The output of an item with its load state, which `reduceOutput` copies. -/
structure ItemOutput where
  shown : OutputState
  loadState : Option LoadState := none
deriving DecidableEq, Repr

structure OutputCursor where
  itemId : String
  revision : Nat
  byteLength : Nat
  isFinal : Bool
  finalUnavailable : Bool
deriving DecidableEq, Repr

def shouldHydrateFinalOutput (state : OutputState) (cursor : OutputCursor) : Bool :=
  if !cursor.isFinal || cursor.finalUnavailable then false
  else
    !(state.isFinal && decide (state.authority = .authoritativeFinal) &&
      decide (state.byteLength = cursor.byteLength) && decide (cursor.revision ≤ state.revision))

/-- The loop body of `prepareDeferredOutputs`, for the item of the cursor. -/
def ItemOutput.prepare (output : ItemOutput) (cursor : OutputCursor) : ItemOutput :=
  if cursor.itemId ≠ output.shown.itemId then output
  else if !shouldHydrateFinalOutput output.shown cursor then output
  else
    { shown :=
        { output.shown with
          revision := cursor.revision
          byteLength := cursor.byteLength
          isFinal := false
          authority :=
            if cursor.finalUnavailable then .finalOutputUnavailable else .authoritativeFinal
          hasGap := cursor.finalUnavailable }
      loadState := some (if cursor.finalUnavailable then .failed else .deferred) }

inductive Input where
  | event (event : OutputEvent)
  | cursor (cursor : OutputCursor)
deriving DecidableEq, Repr

def ItemOutput.take (output : ItemOutput) : Input → ItemOutput
  | .event event => { output with shown := reduceOutput output.shown event }
  | .cursor cursor => output.prepare cursor

/-- The output with the last input, which may be repeated. -/
structure Held where
  output : ItemOutput
  last : Option Input
deriving DecidableEq, Repr

namespace Held

def step (st : Held) (input : Input) : Held := ⟨st.output.take input, some input⟩

/-- The empty placeholder of an item. -/
def start (itemId : String) : Held := ⟨⟨placeholder itemId, none⟩, none⟩

/-! ## What every step should keep, and when it does -/

/-- What a repeated event leaves unchanged. -/
def Repeats (before after : ItemOutput) : Input → Prop
  | .event (.append _ _ _) => after.shown.text = before.shown.text
  | .event (.replace _ _ _) | .event (.final _ _ _) => after = before
  | _ => True

/-- A final output takes newer revisions only. -/
def Keeps (before after : ItemOutput) : Input → Prop
  | .event event =>
    (∀ revision, event.revision? = some revision → revision ≤ before.shown.revision) → after = before
  | .cursor _ => True

/-- Without a load state the length is that of the text; a final text has the length that was
announced for it; revisions do not go back; a repeated event does not count twice; and a final
output is kept. -/
structure Sound (st : Held) (input : Input) : Prop where
  length : (st.step input).output.loadState = none →
    (st.step input).output.shown.byteLength = utf8Length (st.step input).output.shown.text
  final : (st.step input).output.shown.isFinal = true →
    utf8Length (st.step input).output.shown.text = (st.step input).output.shown.byteLength
  announced : (st.step input).output.shown.isFinal = true → (st.step input).output ≠ st.output →
    ∃ itemId revision,
      input = .event (.final itemId revision (st.step input).output.shown.byteLength)
  revision : st.output.shown.revision ≤ (st.step input).output.shown.revision
  repeated : st.last = some input → Repeats st.output (st.step input).output input
  kept : st.output.shown.isFinal = true → Keeps st.output (st.step input).output input

/-- A final event that is not older and announces the length the output has finds a text of
this length; an append that is repeated does not fit twice; and a cursor that is taken is not
older than the output. -/
def Regular (st : Held) (input : Input) : Prop :=
  match input with
  | .event (.final itemId revision byteLength) =>
    itemId = st.output.shown.itemId → st.output.shown.revision ≤ revision →
      byteLength = st.output.shown.byteLength → utf8Length st.output.shown.text = byteLength
  | .event (.append itemId expectedOffset text) =>
    st.last = some input → itemId = st.output.shown.itemId → st.output.shown.isFinal = false →
      expectedOffset = st.output.shown.byteLength → text = []
  | .cursor cursor =>
    cursor.itemId = st.output.shown.itemId →
      shouldHydrateFinalOutput st.output.shown cursor = true →
      st.output.shown.revision ≤ cursor.revision
  | _ => True

end Held

/-! ## One event -/

/-- What an event does that is not passed over. -/
def applyEvent (state : OutputState) : OutputEvent → OutputState
  | .append _ expectedOffset text =>
    if expectedOffset ≠ state.byteLength then { state with hasGap := true }
    else
      { state with
        text := state.text ++ text
        byteLength := utf8Length (state.text ++ text)
        authority := .livePreview }
  | .replace _ revision text =>
    { state with
      revision, text, byteLength := utf8Length text, isFinal := false,
      authority := .livePreview, hasGap := false }
  | .final _ revision byteLength =>
    if byteLength ≠ state.byteLength then
      { state with revision, isFinal := false, authority := .livePreview, hasGap := true }
    else
      { state with
        revision, byteLength, isFinal := true, authority := .authoritativeFinal, hasGap := false }
  | .unavailable _ revision =>
    { state with
      revision, isFinal := false, authority := .finalOutputUnavailable, hasGap := true }

/-- The events that are not passed over: those of the item that are not older, and for a final
output those that are newer. -/
def Taken (state : OutputState) (event : OutputEvent) : Prop :=
  event.itemId = state.itemId ∧
    (∀ revision, event.revision? = some revision → state.revision ≤ revision) ∧
    (state.isFinal = true → ∃ revision, event.revision? = some revision ∧ state.revision < revision)

theorem reduceOutput_taken {state : OutputState} {event : OutputEvent} (taken : Taken state event) :
    reduceOutput state event = applyEvent state event := by
  obtain ⟨same, fresh, newer⟩ := taken
  have old : ¬ (event.revision?.any fun revision => decide (revision < state.revision)) = true := by
    cases found : event.revision? with
    | none => simp
    | some revision =>
      have least := fresh revision found
      simp
      omega
  have numbered : ¬ (state.isFinal = true ∧ event.revision? = none) := by
    rintro ⟨isFinal, none_⟩
    obtain ⟨revision, found, -⟩ := newer isFinal
    rw [none_] at found
    cases found
  have late : ¬ (state.isFinal = true ∧
      (event.revision?.any fun revision => decide (revision ≤ state.revision)) = true) := by
    rintro ⟨isFinal, within⟩
    obtain ⟨revision, found, above⟩ := newer isFinal
    simp only [found, Option.any_some, decide_eq_true_eq] at within
    omega
  unfold reduceOutput
  rw [if_neg (not_not_intro same), if_neg old, if_neg numbered, if_neg late]
  cases event <;> rfl

theorem reduceOutput_passed {state : OutputState} {event : OutputEvent} (passed : ¬ Taken state event) :
    reduceOutput state event = state := by
  unfold reduceOutput
  split
  · rfl
  · rename_i same
    split
    · rfl
    · rename_i fresh
      split
      · rfl
      · rename_i numbered
        split
        · rfl
        · rename_i newer
          refine absurd ⟨not_not.mp same, ?_, ?_⟩ passed
          · intro revision found
            rw [found] at fresh
            simpa using fresh
          · intro isFinal
            cases found : event.revision? with
            | none => exact absurd ⟨isFinal, found⟩ numbered
            | some revision =>
              rw [found] at newer
              refine ⟨revision, rfl, ?_⟩
              simpa [isFinal] using newer

section Cases

variable {state : OutputState} {itemId : String}

theorem applyEvent_gap {expectedOffset : Nat} (misses : expectedOffset ≠ state.byteLength)
    (text : List Char) :
    applyEvent state (.append itemId expectedOffset text) = { state with hasGap := true } := by
  rw [applyEvent, if_pos misses]

theorem applyEvent_append {expectedOffset : Nat} (fits : expectedOffset = state.byteLength)
    (text : List Char) :
    applyEvent state (.append itemId expectedOffset text) =
      { state with
        text := state.text ++ text
        byteLength := utf8Length (state.text ++ text)
        authority := .livePreview } := by
  rw [applyEvent, if_neg (not_not_intro fits)]

theorem applyEvent_mismatch {byteLength : Nat} (differs : byteLength ≠ state.byteLength)
    (revision : Nat) :
    applyEvent state (.final itemId revision byteLength) =
      { state with revision, isFinal := false, authority := .livePreview, hasGap := true } := by
  rw [applyEvent, if_pos differs]

theorem applyEvent_final {byteLength : Nat} (fits : byteLength = state.byteLength)
    (revision : Nat) :
    applyEvent state (.final itemId revision byteLength) =
      { state with
        revision, byteLength, isFinal := true, authority := .authoritativeFinal,
        hasGap := false } := by
  rw [applyEvent, if_neg (not_not_intro fits)]

theorem applyEvent_append_isFinal (expectedOffset : Nat) (text : List Char) :
    (applyEvent state (.append itemId expectedOffset text)).isFinal = state.isFinal := by
  by_cases fits : expectedOffset = state.byteLength
  · rw [applyEvent_append fits]
  · rw [applyEvent_gap fits]

end Cases

/-- Events that carry a revision do not count twice. -/
theorem reduceOutput_twice (state : OutputState) {event : OutputEvent}
    (numbered : event.revision? ≠ none) :
    reduceOutput (reduceOutput state event) event = reduceOutput state event := by
  by_cases taken : Taken state event
  · rw [reduceOutput_taken taken]
    by_cases again : Taken (applyEvent state event) event
    · rw [reduceOutput_taken again]
      cases event with
      | append => exact absurd rfl numbered
      | replace itemId revision text => rfl
      | unavailable itemId revision => rfl
      | final itemId revision byteLength =>
        by_cases fits : byteLength = state.byteLength
        · rw [applyEvent_final fits, applyEvent_final rfl]
        · rw [applyEvent_mismatch fits]
          exact @applyEvent_mismatch _ itemId _ fits revision
    · exact reduceOutput_passed again
  · rw [reduceOutput_passed taken, reduceOutput_passed taken]

/-! ## One step -/

namespace Held

variable {st : Held} {input : Input}

/-- What holds as long as every step has been sound. -/
structure Inv (st : Held) : Prop where
  length : st.output.loadState = none →
    st.output.shown.byteLength = utf8Length st.output.shown.text
  final : st.output.shown.isFinal = true →
    utf8Length st.output.shown.text = st.output.shown.byteLength
  twice : ∀ event, st.last = some (.event event) → event.revision? ≠ none →
    reduceOutput st.output.shown event = st.output.shown

/-- What an event makes of the output. -/
theorem step_event (st : Held) (event : OutputEvent) :
    (Taken st.output.shown event ∧
      (st.step (.event event)).output =
        { st.output with shown := applyEvent st.output.shown event }) ∨
    (¬ Taken st.output.shown event ∧ (st.step (.event event)).output = st.output) := by
  by_cases taken : Taken st.output.shown event
  · left
    refine ⟨taken, ?_⟩
    show { st.output with shown := reduceOutput st.output.shown event } = _
    rw [reduceOutput_taken taken]
  · right
    refine ⟨taken, ?_⟩
    show { st.output with shown := reduceOutput st.output.shown event } = _
    rw [reduceOutput_passed taken]

/-- What a cursor makes of the output. -/
theorem step_cursor (st : Held) (cursor : OutputCursor) :
    (cursor.itemId = st.output.shown.itemId ∧
      shouldHydrateFinalOutput st.output.shown cursor = true ∧
      (st.step (.cursor cursor)).output.shown.revision = cursor.revision ∧
      (st.step (.cursor cursor)).output.shown.isFinal = false ∧
      (st.step (.cursor cursor)).output.loadState ≠ none) ∨
    (¬ (cursor.itemId = st.output.shown.itemId ∧
      shouldHydrateFinalOutput st.output.shown cursor = true) ∧
      (st.step (.cursor cursor)).output = st.output) := by
  show _ ∧ _ ∧ (st.output.prepare cursor).shown.revision = _ ∧ _ ∨
    _ ∧ st.output.prepare cursor = st.output
  unfold step ItemOutput.take ItemOutput.prepare
  by_cases same : cursor.itemId = st.output.shown.itemId
  · rw [if_neg (not_not_intro same)]
    cases hydrates : shouldHydrateFinalOutput st.output.shown cursor with
    | true => simp [same, hydrates]
    | false => simp [hydrates]
  · rw [if_pos same]
    simp [same]

theorem step_of_twice {event : OutputEvent}
    (twice : reduceOutput st.output.shown event = st.output.shown) :
    (st.step (.event event)).output = st.output := by
  show { st.output with shown := reduceOutput st.output.shown event } = st.output
  rw [twice]

theorem taken_append {state : OutputState} {itemId : String} {expectedOffset : Nat}
    {text : List Char} (taken : Taken state (.append itemId expectedOffset text)) :
    state.isFinal = false := by
  cases isFinal : state.isFinal with
  | false => rfl
  | true =>
    obtain ⟨revision, found, -⟩ := taken.2.2 isFinal
    cases found

/-- A regular step keeps the invariant. -/
theorem inv_step (inv : st.Inv) (regular : st.Regular input) : (st.step input).Inv := by
  have twice : ∀ event, (st.step input).last = some (.event event) → event.revision? ≠ none →
      reduceOutput (st.step input).output.shown event = (st.step input).output.shown := by
    intro event last numbered
    cases Option.some.inj last
    exact reduceOutput_twice st.output.shown numbered
  cases input with
  | cursor cursor =>
    rcases step_cursor st cursor with ⟨-, -, -, notFinal, loads⟩ | ⟨-, same⟩
    · exact ⟨fun none_ => absurd none_ loads, fun isFinal => (by rw [notFinal] at isFinal; cases isFinal),
        twice⟩
    · exact ⟨by rw [same]; exact inv.length, by rw [same]; exact inv.final, twice⟩
  | event event =>
    rcases step_event st event with ⟨taken, same⟩ | ⟨-, same⟩
    · rw [same] at twice
      refine ⟨?_, ?_, by rw [same]; exact twice⟩
      · rw [same]
        intro none_
        have before := inv.length none_
        cases event with
        | append itemId expectedOffset text =>
          by_cases fits : expectedOffset = st.output.shown.byteLength
          · rw [applyEvent_append fits]
          · rw [applyEvent_gap fits]
            exact before
        | replace itemId revision text => rfl
        | unavailable itemId revision => exact before
        | final itemId revision byteLength =>
          by_cases fits : byteLength = st.output.shown.byteLength
          · rw [applyEvent_final fits]
            exact fits.trans before
          · rw [applyEvent_mismatch fits]
            exact before
      · rw [same]
        intro isFinal
        cases event with
        | append itemId expectedOffset text =>
          have open_ := taken_append taken
          have stays : (applyEvent st.output.shown (.append itemId expectedOffset text)).isFinal =
              true := isFinal
          rw [applyEvent_append_isFinal, open_] at stays
          cases stays
        | replace itemId revision text => cases isFinal
        | unavailable itemId revision => cases isFinal
        | final itemId revision byteLength =>
          by_cases fits : byteLength = st.output.shown.byteLength
          · have right := regular taken.1 (taken.2.1 revision rfl) fits
            simpa [applyEvent, fits] using right.trans fits
          · simp [applyEvent, fits] at isFinal
    · exact ⟨by rw [same]; exact inv.length, by rw [same]; exact inv.final, twice⟩

/-- Where the invariant holds, a step is sound exactly when it is regular. -/
theorem sound_iff (inv : st.Inv) : st.Sound input ↔ st.Regular input := by
  constructor
  · intro sound
    cases input with
    | cursor cursor =>
      intro same hydrates
      rcases step_cursor st cursor with ⟨-, -, revision, -, -⟩ | ⟨other, -⟩
      · have least := sound.revision
        rwa [revision] at least
      · exact absurd ⟨same, hydrates⟩ other
    | event event =>
      cases event with
      | replace | unavailable => trivial
      | append itemId expectedOffset text =>
        intro last same notFinal fits
        have taken : Taken st.output.shown (.append itemId expectedOffset text) := by
          refine ⟨same, fun _ found => (by cases found), fun isFinal => ?_⟩
          rw [notFinal] at isFinal
          cases isFinal
        rcases step_event st (.append itemId expectedOffset text) with ⟨-, after⟩ | ⟨passed, -⟩
        · have text_ : _ = st.output.shown.text := sound.repeated last
          rw [after] at text_
          simpa [applyEvent, fits] using text_
        · exact absurd taken passed
      | final itemId revision byteLength =>
        intro same fresh fits
        rcases step_event st (.final itemId revision byteLength) with ⟨-, after⟩ | ⟨passed, -⟩
        · have length := sound.final
          rw [after] at length
          simpa [applyEvent, fits] using length (by simp [applyEvent, fits])
        · -- passed over although not older: the output is final already
          have isFinal : st.output.shown.isFinal = true := by
            by_contra notFinal
            refine passed ⟨same, fun r found => ?_, fun final => absurd final notFinal⟩
            cases found
            exact fresh
          exact (inv.final isFinal).trans fits.symm
  · intro regular
    have after := inv_step inv regular
    refine ⟨after.length, after.final, ?_, ?_, ?_, ?_⟩
    · intro isFinal changed
      cases input with
      | cursor cursor =>
        rcases step_cursor st cursor with ⟨-, -, -, notFinal, -⟩ | ⟨-, same⟩
        · rw [notFinal] at isFinal
          cases isFinal
        · exact absurd same changed
      | event event =>
        rcases step_event st event with ⟨taken, same⟩ | ⟨-, same⟩
        · rw [same] at isFinal ⊢
          cases event with
          | append itemId expectedOffset text =>
            have open_ := taken_append taken
            have stays : (applyEvent st.output.shown
                (.append itemId expectedOffset text)).isFinal = true := isFinal
            rw [applyEvent_append_isFinal, open_] at stays
            cases stays
          | replace itemId revision text => cases isFinal
          | unavailable itemId revision => cases isFinal
          | final itemId revision byteLength =>
            by_cases fits : byteLength = st.output.shown.byteLength
            · exact ⟨itemId, revision, by simp [applyEvent, fits]⟩
            · simp [applyEvent, fits] at isFinal
        · exact absurd same changed
    · cases input with
      | cursor cursor =>
        rcases step_cursor st cursor with ⟨same, hydrates, revision, -, -⟩ | ⟨-, same⟩
        · rw [revision]
          exact regular same hydrates
        · rw [same]
      | event event =>
        rcases step_event st event with ⟨taken, same⟩ | ⟨-, same⟩
        · rw [same]
          cases event with
          | append itemId expectedOffset text =>
            simp only [applyEvent]
            split <;> exact le_rfl
          | replace itemId revision text => exact taken.2.1 revision rfl
          | unavailable itemId revision => exact taken.2.1 revision rfl
          | final itemId revision byteLength =>
            have least := taken.2.1 revision rfl
            simp only [applyEvent]
            split <;> exact least
        · rw [same]
    · intro last
      cases input with
      | cursor cursor => trivial
      | event event =>
        cases event with
        | append itemId expectedOffset text =>
          show (st.step _).output.shown.text = st.output.shown.text
          rcases step_event st (.append itemId expectedOffset text) with ⟨taken, same⟩ | ⟨-, same⟩
          · rw [same]
            by_cases fits : expectedOffset = st.output.shown.byteLength
            · have empty := regular last taken.1 (taken_append taken) fits
              simp [applyEvent, fits, empty]
            · simp [applyEvent, fits]
          · rw [same]
        | replace itemId revision text =>
          exact step_of_twice (inv.twice _ last (by simp [OutputEvent.revision?]))
        | unavailable itemId revision => trivial
        | final itemId revision byteLength =>
          exact step_of_twice (inv.twice _ last (by simp [OutputEvent.revision?]))
    · intro isFinal
      cases input with
      | cursor cursor => trivial
      | event event =>
        intro older
        rcases step_event st event with ⟨taken, -⟩ | ⟨-, same⟩
        · obtain ⟨revision, found, newer⟩ := taken.2.2 isFinal
          have bound := older revision found
          omega
        · exact same

/-! ## Runs -/

theorem inv_start (itemId : String) : (start itemId).Inv where
  length _ := rfl
  final isFinal := by cases isFinal
  twice _ last := by cases last

/-- Every step of a run is sound exactly when every step is regular. -/
theorem outputs_sound (itemId : String) (inputs : List Input) :
    Along step Sound (start itemId) inputs ↔ Along step Regular (start itemId) inputs :=
  Along.iff_of_invariant (fun _ _ => inv_step) (fun _ _ => sound_iff) (inv_start itemId)

/-- A snapshot announces a final output of two bytes, and then its final event comes. -/
def announcedRun : List Input :=
  [.cursor ⟨"c", 1, 2, true, false⟩, .event (.final "c" 1 2)]

/-- The output is final without a text. -/
theorem announced_without_text :
    ¬ ∀ (itemId : String) (inputs : List Input), Along step Sound (start itemId) inputs := by
  intro every
  obtain ⟨-, sound, -⟩ := every "c" announcedRun
  have length := sound.final (by decide +kernel)
  revert length
  decide +kernel

end Held

end AgentConsole.Web.Deferred
