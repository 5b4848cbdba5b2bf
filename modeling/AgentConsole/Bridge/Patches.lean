import AgentConsole.Bridge.Mapper

/-! # Batches of patches

A batch is applied in place, patch by patch, so a batch that fails has done the part before
the patch that fails.  `apply_patches` works on a copy of the document, and takes the copy over
only when the whole batch has been applied.

A place in a document is the way to it: object keys and array positions.  A patch in an object
changes one key of it; whatever lies neither above nor below that place stays. -/

namespace AgentConsole.Bridge

namespace Json

/-! ## Places -/

def childAt (node : Json) (slot : Slot) : Option Json :=
  match node, slot with
  | .obj fields, .field key => fields.lookup key
  | .arr elements, .index position => elements[position]?
  | _, _ => none

/-- The value at a place. -/
def valueAt : List Slot → Json → Option Json
  | [], node => some node
  | slot :: rest, node => (node.childAt slot).bind (valueAt rest)

/-- The place that path segments name, and the node there. -/
def resolve : List Json → Json → Option (List Slot × Json)
  | [], node => some ([], node)
  | segment :: rest, node => do
    let (slot, child) ← node.descend segment
    let (slots, target) ← resolve rest child
    return (slot :: slots, target)

/-- The path of a patch. -/
def pathOf (patch : Json) : List Json := ((patch.get? "path").bind asArray?).getD []

/-- `apply_immer_patches` as it changes the document: an error leaves what was done before. -/
def applyInPlace : List Json → Json → Json × Except PatchError Unit
  | [], state => (state, .ok ())
  | patch :: rest, state =>
    match state.applyOne patch with
    | .ok next => applyInPlace rest next
    | .error error => (state, .error error)

/-- The batch succeeds in place exactly when it has a result, which is then the document. -/
theorem applyInPlace_eq (patches : List Json) (state : Json) :
    match state.applyImmerPatches patches with
    | .ok result => applyInPlace patches state = (result, .ok ())
    | .error error => (applyInPlace patches state).2 = .error error := by
  induction patches generalizing state with
  | nil => rfl
  | cons patch rest inductionHypothesis =>
    unfold applyImmerPatches
    rw [List.foldlM_cons, applyInPlace]
    cases state.applyOne patch with
    | error error => rfl
    | ok next => exact inductionHypothesis next

/-! ## One change in a node -/

theorem lookup_field (k name : String) (value : Json) (rest : List (String × Json)) :
    ((name, value) :: rest).lookup k = if k = name then some value else rest.lookup k := by
  rw [List.lookup_cons]
  by_cases same : k = name
  · simp [same]
  · rw [if_neg same, beq_false_of_ne same]

theorem lookup_insertField (key k : String) (value : Json) (fields : List (String × Json)) :
    (insertField key value fields).lookup k = if k = key then some value else fields.lookup k := by
  induction fields with
  | nil => exact lookup_field k key value []
  | cons field rest inductionHypothesis =>
    obtain ⟨name, old⟩ := field
    unfold insertField
    by_cases here : name = key
    · subst here
      rw [if_pos rfl, lookup_field, lookup_field]
      by_cases same : k = name <;> simp [same]
    · rw [if_neg here]
      split
      · exact lookup_field k key value _
      · rw [lookup_field, inductionHypothesis, lookup_field]
        by_cases at_ : k = name
        · subst at_
          simp [here]
        · simp [at_]

theorem lookup_eraseField {key k : String} (other : k ≠ key) (fields : List (String × Json)) :
    (eraseField key fields).lookup k = fields.lookup k := by
  induction fields with
  | nil => rfl
  | cons field rest inductionHypothesis =>
    obtain ⟨name, old⟩ := field
    unfold eraseField at inductionHypothesis ⊢
    by_cases here : name = key
    · subst here
      rw [List.filter_cons_of_neg (by simp), inductionHypothesis, lookup_field, if_neg other]
    · rw [List.filter_cons_of_pos (by simp [here]), lookup_field, lookup_field, inductionHypothesis]

theorem childAt_of_descend {node segment child : Json} {slot : Slot}
    (found : node.descend segment = some (slot, child)) : node.childAt slot = some child := by
  unfold descend at found
  split at found
  · rename_i key
    split at found
    · rename_i fields
      obtain ⟨value, held, same⟩ := Option.map_eq_some_iff.mp found
      cases same
      exact held
    · rename_i elements
      simp only [bind, Option.bind_eq_some_iff, pure, Option.some.injEq] at found
      obtain ⟨position, -, value, held, same⟩ := found
      cases same
      exact held
    · cases found
  · split at found
    · obtain ⟨value, held, same⟩ := Option.map_eq_some_iff.mp found
      cases same
      exact held
    · cases found
  · cases found

/-- Setting a child changes this child only. -/
theorem childAt_set {node child : Json} {slot : Slot} (held : node.childAt slot = some child)
    (value : Json) (other : Slot) :
    (node.set slot value).childAt other =
      if other = slot then some value else node.childAt other := by
  unfold childAt at held
  split at held
  · rename_i fields key
    cases other with
    | field k =>
      show (insertField key value fields).lookup k = _
      rw [lookup_insertField]
      simp [childAt]
    | index position => simp [childAt, set]
  · rename_i elements position
    obtain ⟨inside, -⟩ := List.getElem?_eq_some_iff.mp held
    cases other with
    | field k => simp [childAt, set]
    | index i =>
      show (elements.set position value)[i]? = _
      rw [List.getElem?_set]
      by_cases same : i = position
      · subst same
        simp [inside]
      · simp [childAt, same, Ne.symm same]
  · cases held

/-! ## The way to the container -/

theorem resolve_cons {segment : Json} {rest : List Json} {node target : Json} {slots : List Slot}
    (found : resolve (segment :: rest) node = some (slots, target)) :
    ∃ slot child more, node.descend segment = some (slot, child) ∧
      resolve rest child = some (more, target) ∧ slots = slot :: more := by
  simp only [resolve, bind, Option.bind_eq_some_iff, pure, Option.some.injEq, Prod.mk.injEq,
    Prod.exists] at found
  obtain ⟨slot, child, here, more, target', later, same, rfl⟩ := found
  exact ⟨slot, child, more, here, later, same.symm⟩

/-- A change at the end of a path: above it nothing else changes, and below it is what the
change has made. -/
theorem modifyAt_places {change : Json → Except PatchError Json} {segments : List Json}
    {depth : Nat} {node next target : Json} {slots : List Slot}
    (found : resolve segments node = some (slots, target))
    (changed : modifyAt change depth segments node = .ok next) :
    ∃ target', change target = .ok target' ∧
      (∀ rest, valueAt (slots ++ rest) node = valueAt rest target) ∧
      (∀ rest, valueAt (slots ++ rest) next = valueAt rest target') ∧
      ∀ place, ¬ place <+: slots → ¬ slots <+: place → valueAt place next = valueAt place node := by
  induction segments generalizing depth node next slots with
  | nil =>
    cases found
    refine ⟨next, changed, fun _ => rfl, fun _ => rfl, ?_⟩
    intro place _ apart
    exact absurd List.nil_prefix apart
  | cons segment rest inductionHypothesis =>
    obtain ⟨slot, child, more, here, later, rfl⟩ := resolve_cons found
    have held := childAt_of_descend here
    simp only [modifyAt, here, bind, Except.bind] at changed
    cases inner : modifyAt change (depth + 1) rest child with
    | error error =>
      rw [inner] at changed
      cases changed
    | ok child' =>
      rw [inner] at changed
      cases changed
      obtain ⟨target', done, before, after, others⟩ := inductionHypothesis later inner
      refine ⟨target', done, ?_, ?_, ?_⟩
      · intro rest
        simp only [List.cons_append, valueAt, held, Option.bind_some]
        exact before rest
      · intro rest
        simp only [List.cons_append, valueAt, childAt_set held, if_true, Option.bind_some]
        exact after rest
      · intro place above below
        cases place with
        | nil => exact absurd List.nil_prefix above
        | cons first place =>
          simp only [valueAt, childAt_set held]
          by_cases same : first = slot
          · subst same
            rw [if_pos rfl, held, Option.bind_some, Option.bind_some]
            apply others
            · exact fun within => above (List.prefix_cons_inj first |>.mpr within)
            · exact fun within => below (List.prefix_cons_inj first |>.mpr within)
          · rw [if_neg same]

/-- A change of an object below one key. -/
def Keyed (last : Json) (target target' : Json) : Prop :=
  ∀ slot, (∀ key, last = .str key → slot ≠ .field key) → target'.childAt slot = target.childAt slot

theorem put_keyed {position : Nat} {last value target' : Json} {fields : List (String × Json)}
    (done : put position last value (.obj fields) = .ok target') :
    Keyed last (.obj fields) target' := by
  cases last with
  | str key =>
    have shape : target' = .obj (insertField key value fields) := by
      unfold put descend at done
      cases held : fields.lookup key <;> simp [held, set] at done <;> exact done.symm
    subst shape
    intro slot other
    cases slot with
    | field k =>
      show (insertField key value fields).lookup k = _
      rw [lookup_insertField, if_neg fun same => other key rfl (by rw [same])]
      rfl
    | index i => rfl
  | null | bool _ | num _ | other _ | arr _ | obj _ => simp [put, descend] at done

theorem remove_keyed (last : Json) (fields : List (String × Json)) :
    Keyed last (.obj fields) (remove last (.obj fields)) := by
  intro slot other
  cases last with
  | str key =>
    cases slot with
    | field k => exact lookup_eraseField (fun same => other key rfl (by rw [same])) fields
    | index i => rfl
  | null | bool _ | num _ | other _ | arr _ | obj _ => rfl

/-- A patch that is applied is one of these two changes at the end of its path. -/
theorem applyOne_cases {state patch next : Json} (applied : state.applyOne patch = .ok next) :
    ∃ last, (pathOf patch).getLast? = some last ∧
      ((∃ position value, modifyAt (put position last value) 0 (pathOf patch).dropLast state = .ok next) ∨
        modifyAt (fun node => .ok (remove last node)) 0 (pathOf patch).dropLast state = .ok next) := by
  unfold applyOne at applied
  split at applied
  · rename_i fields
    split at applied
    · cases applied
    · rename_i op _
      split at applied
      · cases applied
      · cases applied
      · rename_i first rest path
        have segments : pathOf (.obj fields) = first :: rest := by rw [pathOf, path]; rfl
        rw [segments]
        refine ⟨_, List.getLast?_eq_getLast_of_ne_nil (by simp), ?_⟩
        simp only [bind, Except.bind] at applied
        split at applied
        · cases applied
        · split at applied
          · cases applied
          · rename_i change chosen
            split at chosen
            · cases chosen
              exact .inl ⟨_, _, applied⟩
            · cases chosen
              exact .inl ⟨_, _, applied⟩
            · cases chosen
              exact .inr applied
            · cases chosen
  · cases applied

/-- A patch whose container is an object leaves every value that lies neither above nor below
its place. -/
theorem applyOne_local {state patch next : Json} {slots : List Slot}
    {fields : List (String × Json)} (applied : state.applyOne patch = .ok next)
    (container : resolve (pathOf patch).dropLast state = some (slots, .obj fields))
    {place : List Slot} (above : ¬ place <+: slots)
    (below : ∀ key, (pathOf patch).getLast? = some (.str key) → ¬ slots ++ [.field key] <+: place) :
    valueAt place next = valueAt place state := by
  obtain ⟨last, isLast, shape⟩ := applyOne_cases applied
  obtain ⟨target', keyed, before, after, others⟩ :
      ∃ target', Keyed last (.obj fields) target' ∧
        (∀ rest, valueAt (slots ++ rest) state = valueAt rest (.obj fields)) ∧
        (∀ rest, valueAt (slots ++ rest) next = valueAt rest target') ∧
        ∀ place, ¬ place <+: slots → ¬ slots <+: place →
          valueAt place next = valueAt place state := by
    rcases shape with ⟨position, value, changed⟩ | changed
    · obtain ⟨target', done, rest⟩ := modifyAt_places container changed
      exact ⟨target', put_keyed done, rest⟩
    · obtain ⟨target', done, rest⟩ := modifyAt_places container changed
      cases done
      exact ⟨_, remove_keyed last fields, rest⟩
  by_cases inside : slots <+: place
  · obtain ⟨rest, rfl⟩ := inside
    cases rest with
    | nil => exact absurd (by simp) above
    | cons slot rest =>
      rw [before, after]
      simp only [valueAt]
      rw [keyed slot]
      intro key str same
      subst same
      rw [str] at isLast
      exact below key isLast ⟨rest, by simp⟩
  · exact others place above inside

end Json

/-! ## The mapper -/

/-- The state of a mapper: what its output depends on, the attentions, and its other fields. -/
structure FullMapper (Attention Rest : Type) where
  mapper : SessionMapper
  attentions : Lib.FiniteMap String Attention
  rest : Rest

inductive PatchOutcome (Event : Type) where
  | applied (events : List Event)
  | resyncNeeded

namespace FullMapper

variable {Attention Rest Event : Type}

/-- `apply_patches`, with `apply_snapshot` as a parameter. -/
def applyPatches (applySnapshot : FullMapper Attention Rest → Nat → Json →
      FullMapper Attention Rest × List Event)
    (m : FullMapper Attention Rest) (baseRevision revision : Nat) (patches : List Json) :
    FullMapper Attention Rest × PatchOutcome Event :=
  if m.mapper.revision ≠ some baseRevision ∨ revision ≤ baseRevision then (m, .resyncNeeded)
  else
    match m.mapper.state with
    | none => (m, .resyncNeeded)
    | some previous =>
      -- the copy is changed, also by a batch that fails
      match Json.applyInPlace patches previous with
      | (_, .error _) => (m, .resyncNeeded)
      | (patched, .ok _) =>
        let (m, events) := applySnapshot m revision patched
        (m, .applied events)

variable {applySnapshot : FullMapper Attention Rest → Nat → Json →
    FullMapper Attention Rest × List Event}
  {m : FullMapper Attention Rest} {baseRevision revision : Nat} {patches : List Json}

/-- A batch either asks for a snapshot and leaves the mapper as it is, or is taken over as the
snapshot that `SessionMapper.patched?` describes. -/
theorem applyPatches_eq :
    m.applyPatches applySnapshot baseRevision revision patches =
      match m.mapper.patched? baseRevision revision patches with
      | none => (m, .resyncNeeded)
      | some patched =>
        ((applySnapshot m revision patched).1, .applied (applySnapshot m revision patched).2) := by
  unfold applyPatches SessionMapper.patched?
  by_cases stale : m.mapper.revision ≠ some baseRevision ∨ revision ≤ baseRevision
  · rw [if_pos stale, if_pos stale]
  · rw [if_neg stale, if_neg stale]
    cases m.mapper.state with
    | none => rfl
    | some previous =>
      have inPlace := Json.applyInPlace_eq patches previous
      simp only [Option.bind_some]
      cases result : previous.applyImmerPatches patches with
      | ok patched =>
        rw [result] at inPlace
        rw [inPlace]
        rfl
      | error error =>
        rw [result] at inPlace
        obtain ⟨partly, failed⟩ : ∃ partly,
            Json.applyInPlace patches previous = (partly, .error error) :=
          ⟨_, Prod.ext rfl inPlace⟩
        rw [failed]
        rfl

end FullMapper

open Json in
/-- A batch that asks for a snapshot leaves the whole mapper unchanged; and a patch that is
applied in an object leaves every value that lies neither above nor below its place. -/
theorem patches_atomic_local {Attention Rest Event : Type}
    (applySnapshot : FullMapper Attention Rest → Nat → Json →
      FullMapper Attention Rest × List Event) :
    (∀ (m : FullMapper Attention Rest) (baseRevision revision : Nat) (patches : List Json),
      (m.applyPatches applySnapshot baseRevision revision patches).2 = .resyncNeeded →
      (m.applyPatches applySnapshot baseRevision revision patches).1 = m) ∧
    ∀ (state patch next : Json) (slots : List Slot) (fields : List (String × Json))
      (place : List Slot), state.applyOne patch = .ok next →
      resolve (pathOf patch).dropLast state = some (slots, .obj fields) →
      ¬ place <+: slots →
      (∀ key, (pathOf patch).getLast? = some (.str key) → ¬ slots ++ [.field key] <+: place) →
      valueAt place next = valueAt place state := by
  constructor
  · intro m baseRevision revision patches resync
    rw [FullMapper.applyPatches_eq] at resync ⊢
    cases patched : m.mapper.patched? baseRevision revision patches with
    | none => rfl
    | some state =>
      rw [patched] at resync
      cases resync
  · intro state patch next slots fields place applied container above below
    exact applyOne_local applied container above below

section Example

open Json

def twoKeys : Json := .obj [("a", .num 1), ("b", .num 2)]

def replaceA : Json :=
  .obj [("op", .str "replace"), ("path", .arr [.str "a"]), ("value", .num 5)]

def newMapper : FullMapper Unit Unit := ⟨{}, ∅, ()⟩

/-- A batch before the first snapshot, and a patch of one of two keys. -/
theorem patches_atomic_local_replaced :
    (newMapper.applyPatches (fun m _ _ => (m, ([] : List Unit))) 1 2 [replaceA]).1 = newMapper ∧
    valueAt [.field "b"] (.obj [("a", .num 5), ("b", .num 2)]) = valueAt [.field "b"] twoKeys := by
  have holds := patches_atomic_local fun (m : FullMapper Unit Unit) _ _ => (m, ([] : List Unit))
  constructor
  · exact holds.1 newMapper 1 2 [replaceA] rfl
  · apply holds.2 twoKeys replaceA _ [] [("a", .num 1), ("b", .num 2)] [.field "b"] (by rfl) rfl
    · simp
    · intro key last
      cases last
      simp

end Example

end AgentConsole.Bridge
