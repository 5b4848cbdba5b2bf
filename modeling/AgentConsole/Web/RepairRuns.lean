import AgentConsole.Web.RepairSound

/-! # Runs of repairs

Only answers can go wrong: every other step leaves a mark with its fetch.  So every step of a run
is good exactly when its answers fit. -/

namespace AgentConsole.Web.Repair

open AgentConsole.Lib Deferred Timeline

namespace Store

variable {itemId : String} {st : Store} {input : Input}

/-! ## Steps without an answer -/

theorem good_output (inv : st.Inv) (event : OutputEvent) : Good itemId st (.output event) := by
  have after := handled itemId st event
  refine ⟨?_, ?_, fun _ _ _ same => (by cases same), fun _ _ _ same => (by cases same)⟩
  · show (st.handleOutput itemId event).fetches ≤ st.fetches + if isFinalOf itemId event then 1 else 0
    by_cases leaves : leavesGap itemId st event
    · rw [(after.started leaves).1, leaves.1, if_pos rfl]
    · rw [(after.rest leaves).1]
      exact Nat.le_add_right _ _
  · show (st.handleOutput itemId event).inFlight = [] →
      (st.handleOutput itemId event).current.loadState ≠ some .loading
    intro none_ marked
    by_cases leaves : leavesGap itemId st event
    · exact (after.started leaves).2 none_
    · exact inv.loading (after.marked leaves marked) ((after.rest leaves).2.symm.trans none_)

/-- Steps that start no fetch and end none. -/
theorem good_of_same {st' : Store} (step : st.step itemId input = st')
    (answers : ∀ controller text, input ≠ .answer controller text)
    (fetches : st'.fetches = st.fetches)
    (quiet : st'.inFlight = [] → st'.current.loadState ≠ some .loading) : Good itemId st input := by
  subst step
  refine ⟨fetches ▸ Nat.le_add_right _ _, quiet, ?_, ?_⟩
  · intro controller text _ same
    exact absurd same (answers controller _)
  · intro controller text _ same
    exact absurd same (answers controller text)

theorem prepare_loadState {output : ItemOutput} {cursor : OutputCursor}
    (marked : (output.prepare cursor).loadState = some .loading) :
    output.loadState = some .loading := by
  unfold ItemOutput.prepare at marked
  split at marked
  · exact marked
  · split at marked
    · exact marked
    · split at marked <;> cases marked

theorem good_upsert (inv : st.Inv) : Good itemId st .upsert := by
  apply good_of_same rfl (fun _ _ same => (by cases same)) rfl
  show st.inFlight = [] → (st.outputs (Function.update st.outputOf st.next
    (st.outputOf st.live) st.next)).loadState ≠ some .loading
  rw [Function.update_self]
  exact fun none_ marked => inv.loading marked none_

theorem good_stale (inv : st.Inv) : Good itemId st .stale := by
  have kept : st.inFlight = [] → st.current.loadState ≠ some .loading :=
    fun none_ marked => inv.loading marked none_
  cases empty : isPlaceholderOutput st.current with
  | false =>
    have step : st.step itemId .stale = st := if_neg (by simp [empty])
    exact good_of_same step (fun _ _ same => (by cases same)) rfl kept
  | true =>
    have step : st.step itemId .stale =
        { st with
          outputs := Function.update st.outputs (st.next + 1) ⟨placeholder itemId, none⟩
          outputOf := Function.update st.outputOf st.next (st.next + 1)
          live := st.next
          next := st.next + 2 } := if_pos empty
    apply good_of_same step (fun _ _ same => (by cases same)) rfl
    intro _
    show (Function.update st.outputs (st.next + 1) _
      (Function.update st.outputOf st.next (st.next + 1) st.next)).loadState ≠ some .loading
    rw [Function.update_self, Function.update_self]
    simp

theorem good_cursor (inv : st.Inv) (cursor : OutputCursor) : Good itemId st (.cursor cursor) := by
  apply good_of_same rfl (fun _ _ same => (by cases same)) rfl
  show st.inFlight = [] → (Function.update st.outputs (st.outputOf st.live)
    (st.current.prepare cursor) (st.outputOf st.live)).loadState ≠ some .loading
  rw [Function.update_self]
  exact fun none_ marked => inv.loading (prepare_loadState marked) none_

theorem good_loadOutput (inv : st.Inv) (cursor : OutputCursor) :
    Good itemId st (.loadOutput cursor) := by
  by_cases loading : st.current.loadState = some .loading
  · have step : st.step itemId (.loadOutput cursor) = st := if_pos loading
    exact good_of_same step (fun _ _ same => (by cases same)) rfl
      fun none_ marked => inv.loading marked none_
  · have step : st.step itemId (.loadOutput cursor) =
        st.start (.load st.live) cursor.revision cursor.byteLength := if_neg loading
    apply good_of_same step (fun _ _ same => (by cases same)) rfl
    intro none_
    exact absurd none_ (by simp [start])

theorem good_release (inv : st.Inv) : Good itemId st .release := by
  cases held : st.outputLoads with
  | none =>
    have step : st.step itemId .release = st := by
      unfold Store.step
      simp only [held]
    exact good_of_same step (fun _ _ same => (by cases same)) rfl
      fun none_ marked => inv.loading marked none_
  | some controller =>
    have step : st.step itemId .release =
        { st with
          inFlight := st.inFlight.map fun fetch =>
            if fetch.controller = controller then { fetch with aborted := true } else fetch
          outputLoads := none } := by
      unfold Store.step
      simp only [held]
    apply good_of_same step (fun _ _ same => (by cases same)) rfl
    intro none_ marked
    exact inv.loading marked (List.map_eq_nil_iff.mp none_)

theorem good_unknown (inv : st.Inv) {controller : Nat} {text : Option (List Char)}
    (none_ : st.fetchOf controller = none) : Good itemId st (.answer controller text) := by
  have step : st.step itemId (.answer controller text) = st := by
    show st.answer itemId controller text = st
    unfold answer
    rw [none_]
  refine ⟨?_, ?_, ?_, ?_⟩
  · rw [step]
    exact Nat.le_add_right _ _
  · rw [step]
    exact fun empty marked => inv.loading marked empty
  · intro controller' text' fetch same found
    cases same
    rw [none_] at found
    cases found
  · intro controller' text' fetch same found
    cases same
    rw [none_] at found
    cases found

/-- A step is good exactly when it is regular. -/
theorem good_iff (inv : st.Inv) : Good itemId st input ↔ Regular itemId st input := by
  cases input with
  | output event => exact iff_of_true (good_output inv event) trivial
  | upsert => exact iff_of_true (good_upsert inv) trivial
  | stale => exact iff_of_true (good_stale inv) trivial
  | cursor cursor => exact iff_of_true (good_cursor inv cursor) trivial
  | loadOutput cursor => exact iff_of_true (good_loadOutput inv cursor) trivial
  | release => exact iff_of_true (good_release inv) trivial
  | answer controller text =>
    cases found : st.fetchOf controller with
    | none =>
      refine iff_of_true (good_unknown inv found) ?_
      intro fetch held
      rw [found] at held
      cases held
    | some fetch =>
      rw [good_answer inv found]
      constructor
      · intro fits other held
        rw [found] at held
        cases held
        exact fits
      · intro every
        exact every fetch found

/-! ## Runs -/

theorem step_fresh (fresh : st.outputOf st.live < st.next) :
    (st.step itemId input).outputOf (st.step itemId input).live < (st.step itemId input).next := by
  cases input with
  | output event => exact (handled itemId st event).fresh fresh
  | upsert =>
    show Function.update st.outputOf st.next (st.outputOf st.live) st.next < st.next + 1
    rw [Function.update_self]
    omega
  | stale =>
    unfold step
    dsimp only
    split
    · show Function.update st.outputOf st.next (st.next + 1) st.next < st.next + 2
      rw [Function.update_self]
      omega
    · exact fresh
  | cursor cursor => exact fresh
  | loadOutput cursor =>
    unfold step
    dsimp only
    split <;> exact fresh
  | release =>
    unfold step
    dsimp only
    split <;> exact fresh
  | answer controller text =>
    show (st.answer itemId controller text).outputOf (st.answer itemId controller text).live <
      (st.answer itemId controller text).next
    unfold answer
    split
    · exact fresh
    · rename_i fetch _
      unfold finish
      cases fetch.aim with
      | repair output =>
        cases text with
        | none => exact fresh
        | some text => exact @repaired_fresh itemId (st.remove controller) _ _ _ fresh
      | load item =>
        cases text with
        | none => exact fresh
        | some text => exact @finishLoad_fresh itemId (st.remove controller) fetch text item fresh

theorem inv_step (inv : st.Inv) (regular : Regular itemId st input) :
    (st.step itemId input).Inv where
  loading marked none_ := ((good_iff inv).mpr regular).quiet none_ marked
  fresh := step_fresh inv.fresh

/-- **Repairs of outputs**: every step of a run is good exactly when every answer fits. -/
theorem repairs_good (itemId : String) (inputs : List Input) :
    Along (fun st input => step itemId st input) (Good itemId) (new itemId) inputs ↔
      Along (fun st input => step itemId st input) (Regular itemId) (new itemId) inputs :=
  Along.iff_of_invariant (fun _ _ => inv_step) (fun _ _ => good_iff) (inv_new itemId)

/-! ## Answers that do not fit -/

/-- A newer output comes during the repair of an older one. -/
def outrun : List Input :=
  [.output (.final "c" 1 5), .output (.replace "c" 2 ['a', 'b']), .answer 0 (some ['h', 'e', 'l', 'l', 'o'])]

/-- The texts that are fetched are shorter than the final event said. -/
def tooShort : List Input :=
  [.output (.final "c" 1 5), .answer 0 (some []), .answer 1 (some []), .answer 2 (some [])]

/-- The output stays marked without a fetch; and each text that is too short starts the next
fetch. -/
theorem repairs_left_open :
    (¬ ∀ (itemId : String) (inputs : List Input),
      Along (fun st input => step itemId st input) (Good itemId) (new itemId) inputs) ∧
    (tooShort.foldl (fun st input => step "c" st input) (new "c")).fetches = 4 := by
  constructor
  · intro every
    obtain ⟨-, -, last, -⟩ := every "c" outrun
    exact last.quiet (by decide +kernel) (by decide +kernel)
  · decide +kernel

end Store

end AgentConsole.Web.Repair
