import AgentConsole.Web.Repair

/-! # When outputs are repaired

What is in the timeline after a step follows from the output before it, whatever objects there
are.  The fetch that a final event starts ends well if the text has the announced length and the
objects it was started for are still those in the timeline. -/

namespace AgentConsole.Web.Repair

open AgentConsole.Lib Deferred Timeline

theorem taken_of_not_ignored {state : OutputState} {event : OutputEvent}
    (heard : ignored state event = false) : Taken state event := by
  unfold ignored at heard
  simp only [Bool.or_eq_false_iff, decide_eq_false_iff_not, not_not] at heard
  obtain ⟨⟨same, fresh⟩, newer⟩ := heard
  refine ⟨same, ?_, ?_⟩
  · intro revision found
    simp only [found, Option.any_some, decide_eq_false_iff_not, not_lt] at fresh
    exact fresh
  · intro isFinal
    rw [isFinal, Bool.true_and] at newer
    cases found : event.revision? with
    | none => simp [found] at newer
    | some revision =>
      simp only [found, Option.all_some, decide_eq_false_iff_not, not_le] at newer
      exact ⟨revision, rfl, newer⟩

theorem reduceOutput_ignored {state : OutputState} {event : OutputEvent}
    (passed : ignored state event = true) : reduceOutput state event = state := by
  apply reduceOutput_passed
  rintro ⟨same, fresh, newer⟩
  unfold ignored at passed
  simp only [Bool.or_eq_true, decide_eq_true_eq, Bool.and_eq_true] at passed
  obtain (other | old) | ⟨isFinal, late⟩ := passed
  · exact other same
  · cases found : event.revision? with
    | none => simp [found] at old
    | some revision =>
      have least := fresh revision found
      simp only [found, Option.any_some, decide_eq_true_eq] at old
      omega
  · obtain ⟨revision, found, above⟩ := newer isFinal
    simp only [found, Option.all_some, decide_eq_true_eq] at late
    omega

/-- Older events are ignored. -/
theorem ignored_of_older {state : OutputState} {event : OutputEvent} {revision : Nat}
    (numbered : event.revision? = some revision) (older : revision < state.revision) :
    ignored state event = true := by
  simp [ignored, numbered, older]

namespace Store

variable {itemId : String} {st : Store}

/-! ## The output in the timeline -/

theorem current_mark (output : Nat) (loadState : Option LoadState) :
    (st.mark output loadState).current =
      if output = st.outputOf st.live then { st.current with loadState } else st.current := by
  show Function.update st.outputs output _ (st.outputOf st.live) = _
  by_cases same : output = st.outputOf st.live
  · rw [if_pos same, same, Function.update_self]
    rfl
  · rw [if_neg same, Function.update_of_ne (Ne.symm same)]
    rfl

theorem current_mark_shown (output : Nat) (loadState : Option LoadState) :
    (st.mark output loadState).current.shown = st.current.shown := by
  rw [current_mark]
  split <;> rfl

/-- The entry after an event, whichever objects are copied. -/
theorem current_reduceEntry (event : OutputEvent) :
    (st.reduceEntry event).current =
      { st.current with shown := reduceOutput st.current.shown event } := by
  unfold reduceEntry
  split
  · rename_i passed
    rw [reduceOutput_ignored passed]
    show st.outputs (Function.update st.outputOf st.next (st.outputOf st.live) st.next) = _
    rw [Function.update_self]
    rfl
  · show Function.update st.outputs (st.next + 1) _
      (Function.update st.outputOf st.next (st.next + 1) st.next) = _
    rw [Function.update_self, Function.update_self]

/-- What a copy of the entry leaves as it was. -/
theorem reduceEntry_rest (event : OutputEvent) :
    (st.reduceEntry event).inFlight = st.inFlight ∧
      (st.reduceEntry event).fetches = st.fetches ∧
      (st.reduceEntry event).finals = st.finals := by
  unfold reduceEntry
  split
  · exact ⟨rfl, rfl, rfl⟩
  · exact ⟨rfl, rfl, rfl⟩

theorem reduceEntry_fresh (event : OutputEvent) (fresh : st.outputOf st.live < st.next) :
    (st.reduceEntry event).outputOf (st.reduceEntry event).live < (st.reduceEntry event).next := by
  unfold reduceEntry
  split
  · show Function.update st.outputOf st.next (st.outputOf st.live) st.next < st.next + 1
    rw [Function.update_self]
    omega
  · show Function.update st.outputOf st.next (st.next + 1) st.next < st.next + 2
    rw [Function.update_self]
    omega

/-- A final event of the item that leaves a gap. -/
def leavesGap (itemId : String) (st : Store) (event : OutputEvent) : Prop :=
  isFinalOf itemId event = true ∧ (reduceOutput st.current.shown event).hasGap = true

/-- What an event makes of the store. -/
structure Handled (itemId : String) (st : Store) (event : OutputEvent) (st' : Store) : Prop where
  shown : st'.current.shown = reduceOutput st.current.shown event
  fresh : st.outputOf st.live < st.next → st'.outputOf st'.live < st'.next
  started : leavesGap itemId st event → st'.fetches = st.fetches + 1 ∧ st'.inFlight ≠ []
  rest : ¬ leavesGap itemId st event → st'.fetches = st.fetches ∧ st'.inFlight = st.inFlight
  cleared : event.itemId = itemId → (reduceOutput st.current.shown event).isFinal = true →
    (reduceOutput st.current.shown event).hasGap = false → st'.current.loadState = none
  marked : ¬ leavesGap itemId st event → st'.current.loadState = some .loading →
    st.current.loadState = some .loading
  unfinished : ¬ leavesGap itemId st event →
    (reduceOutput st.current.shown event).isFinal = false →
    st'.current.loadState = st.current.loadState

theorem handled_other {event : OutputEvent} (other : event.itemId ≠ itemId) :
    Handled itemId st event (st.reduceEntry event) := by
  obtain ⟨inFlight, fetches, -⟩ := @reduceEntry_rest st event
  have current := @current_reduceEntry st event
  have none_ : ¬ leavesGap itemId st event := by
    rintro ⟨isFinal, -⟩
    cases event <;> simp [isFinalOf] at isFinal
    exact other isFinal
  refine ⟨by rw [current], reduceEntry_fresh event, fun gap => absurd gap none_,
    fun _ => ⟨fetches, inFlight⟩, fun same => absurd same other, ?_, ?_⟩
  · intro _ loading
    rw [current] at loading
    exact loading
  · intro _ _
    rw [current]

theorem handled_own {event : OutputEvent} (own : event.itemId = itemId) :
    Handled itemId st event ((st.reduceEntry event).settle event) := by
  obtain ⟨inFlight, fetches, -⟩ := @reduceEntry_rest st event
  have current := @current_reduceEntry st event
  have shown : (st.reduceEntry event).current.shown = reduceOutput st.current.shown event := by
    rw [current]
  have loadState : (st.reduceEntry event).current.loadState = st.current.loadState := by
    rw [current]
  unfold settle
  rw [shown]
  cases gap : (reduceOutput st.current.shown event).hasGap with
  | true =>
    rw [if_pos rfl]
    cases event with
    | final id revision byteLength =>
      have leaves : leavesGap itemId st (.final id revision byteLength) :=
        ⟨decide_eq_true own, gap⟩
      refine ⟨?_, reduceEntry_fresh _, fun _ => ⟨?_, ?_⟩, fun none_ => absurd leaves none_, ?_,
        fun none_ => absurd leaves none_, fun none_ => absurd leaves none_⟩
      · exact (current_mark_shown _ _).trans shown
      · exact congrArg (· + 1) fetches
      · show (st.reduceEntry _).inFlight ++ _ ≠ []
        simp
      · intro _ _ noGap
        rw [gap] at noGap
        cases noGap
    | append | replace | unavailable =>
      refine ⟨shown, reduceEntry_fresh _, ?_, fun _ => ⟨fetches, inFlight⟩, ?_, ?_, ?_⟩
      · rintro ⟨isFinal, -⟩
        cases isFinal
      · intro _ _ noGap
        rw [gap] at noGap
        cases noGap
      · intro _ loading
        exact loadState.symm.trans loading
      · intro _ _
        exact loadState
  | false =>
    rw [if_neg (by simp)]
    have none_ : ¬ leavesGap itemId st event := by
      rintro ⟨-, leaves⟩
      rw [gap] at leaves
      cases leaves
    cases isFinal : (reduceOutput st.current.shown event).isFinal with
    | true =>
      rw [if_pos rfl]
      have after : ((st.reduceEntry event).mark
          ((st.reduceEntry event).outputOf (st.reduceEntry event).live) none).current =
          { (st.reduceEntry event).current with loadState := none } := by
        rw [current_mark, if_pos rfl]
      refine ⟨(current_mark_shown _ _).trans shown, reduceEntry_fresh _,
        fun leaves => absurd leaves none_, fun _ => ⟨fetches, inFlight⟩, ?_, ?_, ?_⟩
      · intro _ _ _
        rw [after]
      · intro _ loading
        rw [after] at loading
        cases loading
      · intro _ open_
        rw [isFinal] at open_
        cases open_
    | false =>
      rw [if_neg (by simp)]
      refine ⟨shown, reduceEntry_fresh _, fun leaves => absurd leaves none_,
        fun _ => ⟨fetches, inFlight⟩, ?_, ?_, ?_⟩
      · intro _ final
        rw [isFinal] at final
        cases final
      · intro _ loading
        exact loadState.symm.trans loading
      · intro _ _
        exact loadState

theorem handled (itemId : String) (st : Store) (event : OutputEvent) :
    Handled itemId st event (st.handleOutput itemId event) := by
  unfold handleOutput
  split
  · rename_i own
    exact handled_own own
  · rename_i other
    exact handled_other other

/-! ## The answer of a repair -/

section Repair

variable {revision byteLength : Nat} {text : List Char}

theorem not_leavesGap_replace : ¬ leavesGap itemId st (.replace itemId revision text) := by
  rintro ⟨isFinal, -⟩
  cases isFinal

theorem leavesGap_final :
    leavesGap itemId st (.final itemId revision byteLength) ↔
      (reduceOutput st.current.shown (.final itemId revision byteLength)).hasGap = true := by
  unfold leavesGap
  simp [isFinalOf]

/-- What handling the final event again makes of the store. -/
def repaired (itemId : String) (st : Store) (revision byteLength : Nat) (text : List Char) : Store :=
  (st.handleOutput itemId (.replace itemId revision text)).handleOutput itemId
    (.final itemId revision byteLength)

theorem repaired_fresh (fresh : st.outputOf st.live < st.next) :
    (st.repaired itemId revision byteLength text).outputOf
      (st.repaired itemId revision byteLength text).live <
        (st.repaired itemId revision byteLength text).next :=
  (handled itemId _ _).fresh ((handled itemId st _).fresh fresh)

/-- A text that comes too late: the output stays, and its gap starts another fetch. -/
theorem repaired_ignored (passed : ignored st.current.shown (.replace itemId revision text) = true) :
    let st' := st.repaired itemId revision byteLength text
    st'.current.shown = st.current.shown ∧
    (st.current.shown.hasGap = true → st'.fetches = st.fetches + 1 ∧ st'.inFlight ≠ []) ∧
    (st.current.shown.hasGap = false →
      (st'.fetches = st.fetches ∧ st'.inFlight = st.inFlight) ∧
      (st.current.shown.isFinal = true → st'.current.loadState = none) ∧
      (st.current.shown.isFinal = false → st'.current.loadState = st.current.loadState)) := by
  have first := handled itemId st (.replace itemId revision text)
  have second := handled itemId (st.handleOutput itemId (.replace itemId revision text))
    (.final itemId revision byteLength)
  obtain ⟨fetches, inFlight⟩ := first.rest not_leavesGap_replace
  have same := first.shown
  rw [reduceOutput_ignored passed] at same
  have stays : reduceOutput (st.handleOutput itemId (.replace itemId revision text)).current.shown
      (.final itemId revision byteLength) = st.current.shown := by
    rw [same]
    exact reduceOutput_ignored passed
  have leaves := @leavesGap_final itemId
    (st.handleOutput itemId (.replace itemId revision text)) revision byteLength
  rw [stays] at leaves
  refine ⟨second.shown.trans stays, ?_, ?_⟩
  · intro gap
    obtain ⟨more, some_⟩ := second.started (leaves.mpr gap)
    exact ⟨more.trans (congrArg (· + 1) fetches), some_⟩
  · intro noGap
    have none_ : ¬ leavesGap itemId (st.handleOutput itemId (.replace itemId revision text))
        (.final itemId revision byteLength) := by
      rw [leaves, noGap]
      simp
    obtain ⟨fetches', inFlight'⟩ := second.rest none_
    refine ⟨⟨fetches'.trans fetches, inFlight'.trans inFlight⟩, ?_, ?_⟩
    · intro isFinal
      exact second.cleared rfl (by rw [stays]; exact isFinal) (by rw [stays]; exact noGap)
    · intro open_
      have before := first.unfinished not_leavesGap_replace
        (by rw [reduceOutput_ignored passed]; exact open_)
      exact (second.unfinished none_ (by rw [stays]; exact open_)).trans before

/-- A text that is taken: with the announced length it is final, and otherwise another fetch
starts. -/
theorem repaired_taken (heard : ignored st.current.shown (.replace itemId revision text) = false) :
    let st' := st.repaired itemId revision byteLength text
    st'.current.shown.text = text ∧
    (utf8Length text = byteLength →
      (st'.fetches = st.fetches ∧ st'.inFlight = st.inFlight) ∧ st'.current.loadState = none) ∧
    (utf8Length text ≠ byteLength → st'.fetches = st.fetches + 1 ∧ st'.inFlight ≠ []) := by
  have first := handled itemId st (.replace itemId revision text)
  have second := handled itemId (st.handleOutput itemId (.replace itemId revision text))
    (.final itemId revision byteLength)
  obtain ⟨fetches, inFlight⟩ := first.rest not_leavesGap_replace
  have taken := taken_of_not_ignored heard
  have replaced := first.shown
  rw [reduceOutput_taken taken] at replaced
  have taken' : Taken (applyEvent st.current.shown (.replace itemId revision text))
      (.final itemId revision byteLength) := by
    refine ⟨taken.1, ?_, ?_⟩
    · intro r found
      cases found
      exact le_rfl
    · intro isFinal
      cases isFinal
  have final : reduceOutput (st.handleOutput itemId (.replace itemId revision text)).current.shown
      (.final itemId revision byteLength) =
        applyEvent (applyEvent st.current.shown (.replace itemId revision text))
          (.final itemId revision byteLength) := by
    rw [replaced]
    exact reduceOutput_taken taken'
  have leaves := @leavesGap_final itemId
    (st.handleOutput itemId (.replace itemId revision text)) revision byteLength
  by_cases fits : byteLength =
      (applyEvent st.current.shown (.replace itemId revision text)).byteLength
  · rw [applyEvent_final fits] at final
    have none_ : ¬ leavesGap itemId (st.handleOutput itemId (.replace itemId revision text))
        (.final itemId revision byteLength) := by
      rw [leaves, final]
      simp
    obtain ⟨fetches', inFlight'⟩ := second.rest none_
    refine ⟨?_, fun _ => ⟨⟨fetches'.trans fetches, inFlight'.trans inFlight⟩, ?_⟩,
      fun differs => absurd fits.symm differs⟩
    · exact (congrArg OutputState.text (second.shown.trans final))
    · exact second.cleared rfl (by rw [final]) (by rw [final])
  · rw [applyEvent_mismatch fits] at final
    obtain ⟨more, some_⟩ := second.started (leaves.mpr (by rw [final]))
    refine ⟨?_, fun same => absurd same.symm fits,
      fun _ => ⟨more.trans (congrArg (· + 1) fetches), some_⟩⟩
    exact congrArg OutputState.text (second.shown.trans final)

end Repair

/-! ## The answer of a load -/

section Load

variable {fetch : Fetch} {text : List Char} {item : Nat}

theorem finishLoad_rest :
    (st.finishLoad itemId item fetch text).fetches = st.fetches ∧
      (st.finishLoad itemId item fetch text).inFlight = st.inFlight := by
  unfold finishLoad
  dsimp only
  split
  · exact ⟨rfl, rfl⟩
  · exact ⟨rfl, rfl⟩

theorem finishLoad_fresh (fresh : st.outputOf st.live < st.next) :
    (st.finishLoad itemId item fetch text).outputOf (st.finishLoad itemId item fetch text).live <
      (st.finishLoad itemId item fetch text).next := by
  unfold finishLoad
  dsimp only
  split
  · exact fresh
  · show Function.update st.outputOf item st.next st.live < st.next + 1
    by_cases same : st.live = item
    · rw [← same, Function.update_self]
      omega
    · rw [Function.update_of_ne same]
      omega

/-- A text that is taken is shown, final or not. -/
theorem load_text {state : OutputState} {revision byteLength : Nat}
    (heard : ignored state (.replace itemId revision text) = false) :
    (reduceOutput (reduceOutput state (.replace itemId revision text))
      (.final itemId revision byteLength)).text = text := by
  have taken := taken_of_not_ignored heard
  rw [reduceOutput_taken taken]
  have taken' : Taken (applyEvent state (.replace itemId revision text))
      (.final itemId revision byteLength) := by
    refine ⟨taken.1, ?_, ?_⟩
    · intro r found
      cases found
      exact le_rfl
    · intro isFinal
      cases isFinal
  rw [reduceOutput_taken taken']
  by_cases fits : byteLength = (applyEvent state (.replace itemId revision text)).byteLength
  · rw [applyEvent_final fits]
    rfl
  · rw [applyEvent_mismatch fits]
    rfl

/-- The output of the item in the timeline takes the result. -/
theorem finishLoad_live :
    (st.finishLoad itemId st.live fetch text).current =
      ⟨reduceOutput (reduceOutput st.current.shown (.replace itemId fetch.revision text))
        (.final itemId fetch.revision fetch.byteLength), none⟩ := by
  unfold finishLoad
  dsimp only
  split
  · rename_i passed
    rw [Bool.and_eq_true] at passed
    obtain ⟨first, second⟩ := passed
    have same : reduceOutput (reduceOutput st.current.shown (.replace itemId fetch.revision text))
        (.final itemId fetch.revision fetch.byteLength) = st.current.shown :=
      (reduceOutput_ignored second).trans (reduceOutput_ignored first)
    rw [current_mark, if_pos rfl, same]
  · show Function.update st.outputs st.next _ (Function.update st.outputOf st.live st.next st.live) = _
    rw [Function.update_self, Function.update_self]
    rfl

/-- The output of another item: only the mark of a shared object that is returned as it is ends. -/
theorem finishLoad_other (other : item ≠ st.live) (fresh : st.outputOf st.live < st.next) :
    (st.finishLoad itemId item fetch text).current =
      if ignored st.current.shown (.replace itemId fetch.revision text) = true ∧
          st.outputOf item = st.outputOf st.live then
        { st.current with loadState := none }
      else st.current := by
  by_cases shared : st.outputOf item = st.outputOf st.live
  · have output : st.outputs (st.outputOf item) = st.current := by rw [shared]; rfl
    unfold finishLoad
    dsimp only
    rw [output]
    cases passed : ignored st.current.shown (.replace itemId fetch.revision text) with
    | true =>
      have again : ignored (reduceOutput st.current.shown (.replace itemId fetch.revision text))
          (.final itemId fetch.revision fetch.byteLength) = true := by
        rw [reduceOutput_ignored passed]
        exact passed
      rw [again, if_pos (by simp), if_pos ⟨rfl, shared⟩, current_mark, if_pos shared]
    | false =>
      rw [if_neg (by simp), if_neg (by simp)]
      show Function.update st.outputs st.next _ (Function.update st.outputOf item st.next st.live) = _
      rw [Function.update_of_ne (Ne.symm other), Function.update_of_ne (Nat.ne_of_lt fresh)]
      rfl
  · rw [if_neg fun both => shared both.2]
    unfold finishLoad
    dsimp only
    split
    · rw [current_mark, if_neg shared]
    · show Function.update st.outputs st.next _ (Function.update st.outputOf item st.next st.live) = _
      rw [Function.update_of_ne (Ne.symm other), Function.update_of_ne (Nat.ne_of_lt fresh)]
      rfl

end Load

/-! ## One step -/

/-- What holds of every state: a mark has a fetch, and the output in the timeline is an object
that was made. -/
structure Inv (st : Store) : Prop where
  loading : st.current.loadState = some .loading → st.inFlight ≠ []
  fresh : st.outputOf st.live < st.next

theorem inv_new (itemId : String) : (new itemId).Inv where
  loading marked := by cases marked
  fresh := Nat.zero_lt_one

/-- The step for an answer whose fetch is known. -/
theorem step_answer {controller : Nat} {text : Option (List Char)} {fetch : Fetch}
    (found : st.fetchOf controller = some fetch) :
    st.step itemId (.answer controller text) = (st.remove controller).finish itemId fetch text := by
  show st.answer itemId controller text = _
  unfold answer
  rw [found]

/-- What must hold of a step that answers this fetch, by its four parts. -/
theorem good_answer_iff {controller : Nat} {text : Option (List Char)} {fetch : Fetch}
    (found : st.fetchOf controller = some fetch) {st' : Store}
    (after : (st.remove controller).finish itemId fetch text = st') :
    Good itemId st (.answer controller text) ↔
      st'.fetches ≤ st.fetches ∧
      (st'.inFlight = [] → st'.current.loadState ≠ some .loading) ∧
      (∀ t, text = some t → ignored st.current.shown (.replace itemId fetch.revision t) = false →
        st'.current.shown.text = t) ∧
      (fetch.revision < st.current.shown.revision → st'.current.shown = st.current.shown) := by
  subst after
  have step := @step_answer itemId st controller text fetch found
  constructor
  · intro good
    rw [← step]
    refine ⟨good.bounded, good.quiet, ?_, ?_⟩
    · intro t isText heard
      subst isText
      exact good.visible controller t fetch rfl found heard
    · exact good.kept controller text fetch rfl found
  · rintro ⟨bounded, quiet, visible, kept⟩
    rw [← step] at bounded quiet visible kept
    refine ⟨bounded, quiet, ?_, ?_⟩
    · intro controller' t fetch' same found' heard
      cases same
      rw [found] at found'
      cases found'
      exact visible t rfl heard
    · intro controller' text' fetch' same found' newer
      cases same
      rw [found] at found'
      cases found'
      exact kept newer

theorem fetchOf_controller {controller : Nat} {fetch : Fetch}
    (found : st.fetchOf controller = some fetch) : fetch.controller = controller := by
  have chosen := List.find?_some found
  exact of_decide_eq_true chosen

/-- A mark that a failure ends. -/
theorem failed_iff {controller output : Nat} {loadState : Option LoadState}
    (ends : loadState ≠ some .loading) :
    (((st.remove controller).mark output loadState).inFlight = [] →
      ((st.remove controller).mark output loadState).current.loadState ≠ some .loading) ↔
        output = st.outputOf st.live ∨ st.Unmarked controller := by
  have current : ((st.remove controller).mark output loadState).current =
      if output = st.outputOf st.live then { st.current with loadState } else st.current :=
    current_mark output loadState
  rw [current]
  by_cases same : output = st.outputOf st.live
  · simp [same, ends]
  · rw [if_neg same]
    constructor
    · intro quiet
      exact .inr fun marked none_ => quiet none_ marked
    · rintro (here | unmarked)
      · exact absurd here same
      · exact fun none_ marked => unmarked marked none_

/-- An answer is good exactly when it fits. -/
theorem good_answer (inv : st.Inv) {controller : Nat} {text : Option (List Char)} {fetch : Fetch}
    (found : st.fetchOf controller = some fetch) :
    Good itemId st (.answer controller text) ↔ Fits itemId st fetch text := by
  have number : fetch.controller = controller := fetchOf_controller found
  have before : (st.remove controller).current = st.current := rfl
  have older (t : List Char) (newer : fetch.revision < st.current.shown.revision) :
      ignored st.current.shown (.replace itemId fetch.revision t) = true :=
    ignored_of_older rfl newer
  have unmarked : st.Unmarked fetch.controller ↔
      (st.current.loadState = some .loading → (st.remove controller).inFlight ≠ []) := by
    rw [number]
    rfl
  cases aim : fetch.aim with
  | repair output =>
    cases text with
    | none =>
      have after : (st.remove controller).finish itemId fetch none =
          (st.remove controller).mark output (some (if fetch.aborted then .deferred else .failed)) := by
        simp only [finish, aim]
      have ends := @failed_iff st controller output
        (some (if fetch.aborted then .deferred else .failed)) (by split <;> simp)
      rw [good_answer_iff found after]
      unfold Fits
      rw [aim, number]
      dsimp only
      rw [← ends]
      constructor
      · exact fun good => good.2.1
      · intro quiet
        refine ⟨le_rfl, quiet, fun t isText => (by cases isText), fun _ => ?_⟩
        exact current_mark_shown _ _
    | some text =>
      have after : (st.remove controller).finish itemId fetch (some text) =
          (st.remove controller).repaired itemId fetch.revision fetch.byteLength text := by
        simp only [finish, aim, repaired]
      rw [good_answer_iff found after]
      unfold Fits
      rw [aim]
      dsimp only
      cases passed : ignored st.current.shown (.replace itemId fetch.revision text) with
      | true =>
        obtain ⟨shown, gap, noGap⟩ :=
          @repaired_ignored itemId (st.remove controller) fetch.revision fetch.byteLength text passed
        rw [if_pos rfl]
        constructor
        · rintro ⟨bounded, quiet, -, -⟩
          cases hasGap : st.current.shown.hasGap with
          | true =>
            have more := (gap hasGap).1
            rw [more] at bounded
            exact absurd bounded (Nat.not_succ_le_self _)
          | false =>
            refine ⟨rfl, ?_⟩
            obtain ⟨⟨-, inFlight⟩, -, open_⟩ := noGap hasGap
            cases isFinal : st.current.shown.isFinal with
            | true => exact .inl rfl
            | false =>
              right
              rw [unmarked]
              intro marked none_
              exact quiet (inFlight.trans none_) ((open_ isFinal).trans marked)
        · rintro ⟨hasGap, ends⟩
          obtain ⟨⟨fetches, inFlight⟩, final, open_⟩ := noGap hasGap
          refine ⟨le_of_eq fetches, ?_, ?_, fun _ => shown⟩
          · intro none_ marked
            cases isFinal : st.current.shown.isFinal with
            | true =>
              rw [final isFinal] at marked
              cases marked
            | false =>
              rw [isFinal, unmarked] at ends
              obtain never | ends := ends
              · cases never
              · exact ends ((open_ isFinal).symm.trans marked) (inFlight.symm.trans none_)
          · intro t isText heard
            cases isText
            rw [passed] at heard
            cases heard
      | false =>
        obtain ⟨shown, fits, differs⟩ :=
          @repaired_taken itemId (st.remove controller) fetch.revision fetch.byteLength text passed
        rw [if_neg (by simp)]
        constructor
        · rintro ⟨bounded, -, -, -⟩
          by_contra other
          have more := (differs other).1
          rw [more] at bounded
          exact Nat.not_succ_le_self _ bounded
        · intro same
          obtain ⟨⟨fetches, -⟩, unset⟩ := fits same
          refine ⟨le_of_eq fetches, fun _ => (by rw [unset]; simp), ?_, ?_⟩
          · intro t isText _
            cases isText
            exact shown
          · intro newer
            rw [older text newer] at passed
            cases passed
  | load item =>
    cases text with
    | none =>
      have after : (st.remove controller).finish itemId fetch none =
          (st.remove controller).mark (st.outputOf item)
            (some (if fetch.aborted then .deferred else .failed)) := by
        simp only [finish, aim]
        rfl
      have ends := @failed_iff st controller (st.outputOf item)
        (some (if fetch.aborted then .deferred else .failed)) (by split <;> simp)
      rw [good_answer_iff found after]
      unfold Fits
      rw [aim, number]
      dsimp only
      rw [← ends]
      constructor
      · exact fun good => good.2.1
      · intro quiet
        refine ⟨le_rfl, quiet, fun t isText => (by cases isText), fun _ => ?_⟩
        exact current_mark_shown _ _
    | some text =>
      have after : (st.remove controller).finish itemId fetch (some text) =
          (st.remove controller).finishLoad itemId item fetch text := by
        simp only [finish, aim]
      obtain ⟨fetches, inFlight⟩ :=
        @finishLoad_rest itemId (st.remove controller) fetch text item
      rw [good_answer_iff found after]
      unfold Fits
      rw [aim]
      dsimp only
      by_cases here : item = st.live
      · have current := @finishLoad_live itemId (st.remove controller) fetch text
        have live : (st.remove controller).live = item := here.symm
        rw [live] at current
        refine ⟨fun _ => .inl here, fun _ => ⟨le_of_eq fetches, ?_, ?_, ?_⟩⟩
        · intro _ marked
          rw [current] at marked
          cases marked
        · intro t isText heard
          cases isText
          rw [current]
          exact load_text heard
        · intro newer
          rw [current, before]
          dsimp only
          have passed := older text newer
          rw [reduceOutput_ignored passed]
          exact reduceOutput_ignored passed
      · have current := @finishLoad_other itemId (st.remove controller) fetch text item here inv.fresh
        rw [before] at current
        have shown : ((st.remove controller).finishLoad itemId item fetch text).current.shown =
            st.current.shown := by
          rw [current]
          split <;> rfl
        have quiet_of {P : Prop} (marked : ((st.remove controller).finishLoad itemId item fetch
            text).current.loadState = st.current.loadState) :
            (((st.remove controller).finishLoad itemId item fetch text).inFlight = [] →
              ((st.remove controller).finishLoad itemId item fetch text).current.loadState ≠
                some .loading) ↔ st.Unmarked fetch.controller := by
          rw [unmarked, inFlight, marked]
          exact ⟨fun quiet loading none_ => quiet none_ loading,
            fun ends none_ loading => ends loading none_⟩
        cases passed : ignored st.current.shown (.replace itemId fetch.revision text) with
        | true =>
          rw [if_pos rfl]
          by_cases shared : st.outputOf item = st.outputOf st.live
          · rw [passed, if_pos ⟨rfl, shared⟩] at current
            refine ⟨fun _ => .inr (.inl shared), fun _ => ⟨le_of_eq fetches, ?_, ?_, fun _ => shown⟩⟩
            · intro _ marked
              rw [current] at marked
              cases marked
            · intro t isText heard
              cases isText
              rw [passed] at heard
              cases heard
          · rw [if_neg fun both => shared both.2] at current
            rw [quiet_of (P := True) (by rw [current])]
            constructor
            · exact fun good => .inr (.inr good.2.1)
            · rintro (live | same | ends)
              · exact absurd live here
              · exact absurd same shared
              · refine ⟨le_of_eq fetches, ends, ?_, fun _ => shown⟩
                intro t isText heard
                cases isText
                rw [passed] at heard
                cases heard
        | false =>
          rw [passed, if_neg (by simp)] at current
          rw [if_neg (by simp), quiet_of (P := True) (by rw [current])]
          constructor
          · rintro ⟨-, ends, visible, -⟩
            have text_ := visible text rfl passed
            rw [shown] at text_
            exact .inr ⟨text_, ends⟩
          · rintro (live | ⟨text_, ends⟩)
            · exact absurd live here
            · refine ⟨le_of_eq fetches, ends, ?_, fun _ => shown⟩
              intro t isText _
              cases isText
              rw [shown]
              exact text_

end Store

end AgentConsole.Web.Repair
