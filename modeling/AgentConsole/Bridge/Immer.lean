import AgentConsole.Bridge.Document

/-! # Immer patches

What Immer's `applyPatches` makes of a document, and when `apply_immer_patches` does the
same.  Immer is a JavaScript program: a segment is a property key, `add` and `remove` in an
array are `splice`, and `replace` is an assignment.

`Js` is what JavaScript makes of segments that Immer itself does not write, such as a word in
an array or a number in an object. -/

namespace AgentConsole.Bridge.Immer

open Json

/-! ## Patches -/

/-- A path segment: a string, a `u64`, or another number. -/
inductive Segment where
  | key (text : String)
  | index (position : Nat)
  | number (text : String)
  deriving DecidableEq, Repr

def Segment.json : Segment → Json
  | .key text => .str text
  | .index position => .num position
  | .number text => .other text

inductive Op where
  | add (value : Json)
  | replace (value : Json)
  | remove

def Op.name : Op → String
  | .add _ => "add"
  | .replace _ => "replace"
  | .remove => "remove"

structure Patch where
  op : Op
  path : List Segment

/-- `json` is the patch, perhaps with other fields. -/
structure Patch.Written (p : Patch) (json : Json) : Prop where
  object : ∃ fields, json = .obj fields
  op : json.get? "op" = some (.str p.op.name)
  path : json.get? "path" = some (.arr (p.path.map Segment.json))
  value : ∀ value, p.op = .add value ∨ p.op = .replace value → json.get? "value" = some value

/-! ## Immer -/

structure Js where
  /-- The property key of a number. -/
  numberText : Segment → String
  /-- The array index that a number names, if it is none of the `u64`s. -/
  indexOf : String → Option Nat
  /-- Where `splice` starts in an array of a length. -/
  start : Segment → Nat → Nat
  /-- `array.length = value`; a `RangeError` is `none`. -/
  setLength : Json → List Json → Option (List Json)

/-- `splice` counts from the front, to the end of the array at most; a text of digits, with a
sign or without, is the number it writes. -/
structure Js.Standard (js : Js) : Prop where
  index : ∀ position length, js.start (.index position) length = min position length
  digits : ∀ text position length, parseIndex? text = some position →
    js.start (.key text) length = min position length

def isContainer : Json → Bool
  | .obj _ | .arr _ => true
  | _ => false

namespace Js

variable (js : Js)

/-- The property key that a segment is. -/
def name : Segment → String
  | .key text => text
  | segment => js.numberText segment

/-- The array index that a segment is: a number, or its decimal text. -/
def index? : Segment → Option Nat
  | .key text => (parseIndex? text).filter fun position => toString position == text
  | .index position => some position
  | .number text => js.indexOf text

/-- `base[segment]`, on the way to the last segment. -/
def child (node : Json) (segment : Segment) : Option Json :=
  let found := match node with
    | .obj fields =>
      if js.name segment = "__proto__" ∨ js.name segment = "constructor" then none
      else fields.lookup (js.name segment)
    | .arr elements => (js.index? segment).bind fun position => elements[position]?
    | _ => none
  found.filter isContainer

/-- `base[segment]` once it is changed. -/
def putBack (node : Json) (segment : Segment) (value : Json) : Json :=
  match node with
  | .obj fields => .obj (insertField (js.name segment) value fields)
  | .arr elements => .arr (elements.set ((js.index? segment).getD 0) value)
  | _ => node

/-- `array[position] = value`; a hole is written as `null`. -/
def assign (elements : List Json) (position : Nat) (value : Json) : List Json :=
  if position < elements.length then elements.set position value
  else elements ++ List.replicate (position - elements.length) .null ++ [value]

/-- The operation in the node that the last segment is a key of. -/
def change (op : Op) (last : Segment) (node : Json) : Option Json :=
  match node, op with
  | .obj fields, .add value | .obj fields, .replace value =>
    some (.obj (insertField (js.name last) value fields))
  | .obj fields, .remove => some (.obj (eraseField (js.name last) fields))
  | .arr elements, .add value =>
    if last = .key "-" then some (.arr (elements ++ [value]))
    else some (.arr (elements.insertIdx (js.start last elements.length) value))
  | .arr elements, .replace value =>
    match js.index? last with
    | some position => some (.arr (assign elements position value))
    | none =>
      if last = .key "length" then (js.setLength value elements).map .arr
      else some (.arr elements)
  | .arr elements, .remove => some (.arr (elements.eraseIdx (js.start last elements.length)))
  | _, _ => none

/-- One patch below a node.  The last segment of no path is `undefined`. -/
def applyAt (op : Op) : List Segment → Json → Option Json
  | [], node => js.change op (.key "undefined") node
  | [last], node => js.change op last node
  | segment :: next :: rest, node =>
    (js.child node segment).bind fun child =>
      (applyAt op (next :: rest) child).map (js.putBack node segment)

/-- `replace` without a path is a document of its own. -/
def whole? (p : Patch) : Option Json :=
  match p.op, p.path with
  | .replace value, [] => some value
  | _, _ => none

def applyPatch (state : Json) (p : Patch) : Option Json :=
  (whole? p).or (js.applyAt p.op p.path state)

/-- The last patch that replaces the whole document, and what comes after it. -/
def lastWhole? : List Patch → Option (Json × List Patch)
  | [] => none
  | p :: rest => (lastWhole? rest).or ((whole? p).map fun value => (value, rest))

/-- `applyPatches` -/
def applyPatches (state : Json) (patches : List Patch) : Option Json :=
  match lastWhole? patches with
  | some (value, rest) => rest.foldlM js.applyPatch value
  | none => patches.foldlM js.applyPatch state

end Js

/-! ## When the two agree -/

/-- The array position that `apply_one` reads in a segment. -/
def Segment.position? : Segment → Option Nat
  | .key text => parseIndex? text
  | .index position => some position
  | .number _ => none

/-- `apply_one` reports an error below this node. -/
def Refuses (op : Op) : List Segment → Json → Prop
  | [], _ => True
  | [last], node =>
    match op, node with
    | .remove, _ => False
    | _, .obj _ => ∀ text, last ≠ .key text
    | _, .arr _ => last.position? = none
    | _, _ => True
  | segment :: next :: rest, node =>
    match node.descend segment.json with
    | none => True
    | some found => Refuses op (next :: rest) found.2

/-- The operation on the last segment does what Immer's does. -/
def Js.StraightLast (js : Js) (op : Op) (last : Segment) (node : Json) : Prop :=
  match node, op with
  | .obj _, .add _ | .obj _, .replace _ => ∃ text, last = .key text
  | .obj fields, .remove => (∃ text, last = .key text) ∨ ∀ field ∈ fields, field.1 ≠ js.name last
  | .arr elements, .add _ => ∃ position, last.position? = some position ∧ elements.length ≤ position
  | .arr elements, .replace value =>
    match last.position? with
    | some position =>
      if position < elements.length then
        js.index? last = some position ∨ elements[position]? = some value
      else js.index? last = some position ∧ position = elements.length
    | none => last = .key "length" ∧ js.setLength value elements = none
  | .arr elements, .remove =>
    (∃ position, last = .index position) ∨ elements.length ≤ js.start last elements.length
  | _, .remove => False
  | _, _ => True

/-- The way to the last segment and the operation there are as in Immer. -/
def Js.Straight (js : Js) (op : Op) : List Segment → Json → Prop
  | [], node => (∀ value, op ≠ .replace value) ∧ isContainer node = false
  | [last], node => js.StraightLast op last node
  | segment :: next :: rest, node =>
    match node.descend segment.json, js.child node segment with
    | some found, some _ => js.Straight op (next :: rest) found.2
    | some found, none => Refuses op (next :: rest) found.2
    | none, some child => js.applyAt op (next :: rest) child = none
    | none, none => True

/-- Each patch is straight in the document it comes to. -/
def Js.StraightAll (js : Js) : Json → List Patch → Prop
  | _, [] => True
  | state, p :: rest => js.Straight p.op p.path state ∧
    ∀ next, js.applyPatch state p = some next → js.StraightAll next rest

/-! ## The code along a path -/

/-- What `apply_one` does with the last segment. -/
def Op.atEnd (op : Op) (last : Segment) (node : Json) : Option Json :=
  match op with
  | .add value | .replace value => (put 0 last.json value node).toOption
  | .remove => some (Json.remove last.json node)

/-- `apply_one` along a path. -/
def follow (op : Op) : List Segment → Json → Option Json
  | [], _ => none
  | [last], node => op.atEnd last node
  | segment :: next :: rest, node =>
    (node.descend segment.json).bind fun found =>
      (follow op (next :: rest) found.2).map (node.set found.1)

theorem put_toOption (position : Nat) (last : Segment) (value node : Json) :
    (put position last.json value node).toOption = (put 0 last.json value node).toOption := by
  unfold put
  split
  · rfl
  · split
    · rfl
    · rfl
    · split <;> rfl
    · rfl

theorem modifyAt_follow {op : Op} {change : Json → Except PatchError Json} :
    ∀ (path : List Segment) (last : Segment) (depth : Nat) (node : Json),
      (∀ node, (change node).toOption = op.atEnd last node) →
      (modifyAt change depth (path.map Segment.json) node).toOption = follow op (path ++ [last]) node
  | [], last, depth, node, ends => ends node
  | segment :: rest, last, depth, node, ends => by
    have follows : follow op (segment :: rest ++ [last]) node =
        (node.descend segment.json).bind fun found =>
          (follow op (rest ++ [last]) found.2).map (node.set found.1) := by
      cases rest <;> rfl
    rw [follows, List.map_cons, modifyAt]
    cases found : node.descend segment.json with
    | none => rfl
    | some place =>
      obtain ⟨slot, child⟩ := place
      have below := modifyAt_follow rest last (depth + 1) child ends
      rw [Option.bind_some, ← below]
      dsimp only
      cases modifyAt change (depth + 1) (rest.map Segment.json) child <;> rfl

/-- Where the path cannot be followed, no change can be made. -/
theorem modifyAt_error {change : Json → Except PatchError Json} {error : PatchError} :
    ∀ (path : List Json) (depth : Nat) (node : Json),
      modifyAt .ok depth path node = .error error → modifyAt change depth path node = .error error
  | [], depth, node, fails => by cases fails
  | segment :: rest, depth, node, fails => by
    rw [modifyAt] at fails ⊢
    cases found : node.descend segment with
    | none => simpa [found] using fails
    | some place =>
      obtain ⟨slot, child⟩ := place
      simp only [found] at fails ⊢
      cases below : modifyAt .ok (depth + 1) rest child with
      | ok changed => simp [below, bind, Except.bind, pure, Except.pure] at fails
      | error refused =>
        rw [below] at fails
        cases fails
        rw [modifyAt_error rest (depth + 1) child below]
        rfl

/-- So following it first makes no difference. -/
theorem modifyAt_first (change : Json → Except PatchError Json) (path : List Json)
    (depth : Nat) (node : Json) :
    (do let _ ← modifyAt .ok depth path node; modifyAt change depth path node) =
      modifyAt change depth path node := by
  cases followed : modifyAt .ok depth path node with
  | ok same => rfl
  | error error => exact (modifyAt_error path depth node followed).symm

theorem applyOne_written {p : Patch} {json : Json} (written : p.Written json) (state : Json) :
    (applyOne state json).toOption = follow p.op p.path state := by
  obtain ⟨⟨fields, rfl⟩, op, path, value⟩ := written
  have opText : ((Json.obj fields).get? "op").bind asStr? = some p.op.name := by rw [op]; rfl
  have pathSegments : ((Json.obj fields).get? "path").bind asArray? =
      some (p.path.map Segment.json) := by rw [path]; rfl
  unfold applyOne
  simp only [opText, pathSegments]
  rcases p.path.eq_nil_or_concat with none_ | ⟨init, last, concat⟩
  · simp [none_, follow, Except.toOption]
  · have mapped : p.path.map Segment.json = init.map Segment.json ++ [last.json] := by
      rw [concat, List.concat_eq_append, List.map_append]
      rfl
    have whole : p.path = init ++ [last] := concat.trans (List.concat_eq_append ..)
    cases segments : p.path.map Segment.json with
    | nil => simp [segments] at mapped
    | cons first rest =>
      have same := segments.symm.trans mapped
      have ending : (first :: rest).getLast (by simp) = last.json := by
        rw [List.getLast_congr _ (by simp) same, List.getLast_append_singleton]
      have before : (first :: rest).dropLast = init.map Segment.json := by
        rw [same, List.dropLast_concat]
      -- the change that the operation is, made after the path has been followed
      have ends (change : Json → Except PatchError Json)
          (does : ∀ node, (change node).toOption = p.op.atEnd last node) :
          (do let _ ← modifyAt .ok 0 (first :: rest).dropLast state
              modifyAt (← .ok change) 0 (first :: rest).dropLast state).toOption =
            follow p.op p.path state := by
        rw [before, whole, ← modifyAt_follow init last 0 state does]
        exact congrArg Except.toOption (modifyAt_first change _ 0 state)
      cases shape : p.op with
      | add added =>
        rw [shape] at ends
        refine ends _ fun node => ?_
        rw [ending, put_toOption, value added (.inl shape)]
        rfl
      | replace replaced =>
        rw [shape] at ends
        refine ends _ fun node => ?_
        rw [ending, put_toOption, value replaced (.inr shape)]
        rfl
      | remove =>
        rw [shape] at ends
        refine ends _ fun node => ?_
        rw [ending]
        rfl

/-! ## The last segment -/

section Last

variable {js : Js}

theorem put_obj (fields : List (String × Json)) (last : Segment) (value : Json) :
    (put 0 last.json value (.obj fields)).toOption =
      match last with
      | .key text => some (.obj (insertField text value fields))
      | _ => none := by
  cases last with
  | key text =>
    simp only [put, descend, Segment.json]
    cases fields.lookup text <;> rfl
  | index position => rfl
  | number text => rfl

/-- What "add" and "replace" make of an array, at a position. -/
def stored (elements : List Json) (value : Json) (position : Nat) : List Json :=
  if position < elements.length then elements.set position value else elements ++ [value]

theorem stored_append {elements : List Json} {position : Nat} (past : elements.length ≤ position)
    (value : Json) : stored elements value position = elements ++ [value] :=
  if_neg (Nat.not_lt.mpr past)

theorem insertIdx_stored {elements : List Json} {position : Nat}
    (past : elements[position]? = none) (value : Json) :
    elements.insertIdx (min position elements.length) value = stored elements value position := by
  have beyond := List.getElem?_eq_none_iff.mp past
  rw [stored_append beyond, Nat.min_eq_right beyond, List.insertIdx_length_self]

theorem set_stored {elements : List Json} {position : Nat} {old : Json}
    (there : elements[position]? = some old) (value : Json) :
    elements.set position value = stored elements value position :=
  (if_pos (List.getElem?_eq_some_iff.mp there).1).symm

theorem put_arr (elements : List Json) (last : Segment) (value : Json) :
    (put 0 last.json value (.arr elements)).toOption =
      last.position?.map fun position => .arr (stored elements value position) := by
  cases last with
  | key text =>
    simp only [put, descend, Segment.json, Segment.position?]
    cases parseIndex? text with
    | none => rfl
    | some position =>
      cases there : elements[position]? with
      | none => simp [there, insertIdx_stored there, Except.toOption]
      | some old => simp [there, Json.set, set_stored there, Except.toOption]
  | index position =>
    simp only [put, descend, Segment.json, Segment.position?]
    cases there : elements[position]? with
    | none => simp [insertIdx_stored there, Except.toOption]
    | some old => simp [Json.set, set_stored there, Except.toOption]
  | number text => rfl

theorem atEnd_add_arr (standard : js.Standard) (elements : List Json) (last : Segment)
    (value : Json) :
    (Op.add value).atEnd last (.arr elements) = js.change (.add value) last (.arr elements) ↔
      ∃ position, last.position? = some position ∧ elements.length ≤ position := by
  have starts {position : Nat} (reads : last.position? = some position) :
      js.start last elements.length = min position elements.length := by
    cases last with
    | key text => exact standard.digits text position elements.length reads
    | index place =>
      cases reads
      exact standard.index _ elements.length
    | number text => cases reads
  have longer (result : List Json) :
      js.change (.add value) last (.arr elements) = some (.arr result) →
        js.start last elements.length ≤ elements.length → result.length = elements.length + 1 := by
    intro changed within
    simp only [Js.change] at changed
    split at changed
    · cases changed
      simp
    · cases changed
      exact List.length_insertIdx_of_le_length within value
  rw [Op.atEnd, put_arr]
  cases reads : last.position? with
  | none =>
    simp only [Option.map_none]
    constructor
    · intro fails
      simp only [Js.change] at fails
      split at fails <;> cases fails
    · rintro ⟨position, other, -⟩
      cases other
  | some position =>
    simp only [Option.map_some]
    have start := starts reads
    constructor
    · intro same
      refine ⟨position, rfl, ?_⟩
      by_contra inside
      have count := longer _ same.symm (by omega)
      rw [stored, if_pos (by omega), List.length_set] at count
      omega
    · rintro ⟨other, known, past⟩
      cases known
      have word : last ≠ .key "-" := by
        rintro rfl
        cases reads
      simp only [Js.change, if_neg word]
      rw [start, Nat.min_eq_right past, List.insertIdx_length_self, stored_append past]

/-- A text that Rust reads as a position and JavaScript does not is no index at all. -/
theorem index?_of_position (js : Js) {last : Segment} {position : Nat}
    (reads : last.position? = some position) :
    js.index? last = some position ∨ js.index? last = none ∧ last ≠ .key "length" := by
  cases last with
  | key text =>
    have parsed : parseIndex? text = some position := reads
    by_cases decimal : toString position = text
    · exact .inl (by simpa [Js.index?, parsed, Option.filter] using decimal)
    · refine .inr ⟨by simpa [Js.index?, parsed, Option.filter] using decimal, ?_⟩
      rintro ⟨⟩
      have word : parseIndex? "length" = none := by decide
      rw [word] at parsed
      cases parsed
  | index place =>
    cases reads
    exact .inl rfl
  | number text => cases reads

theorem set_eq_self_iff {elements : List Json} {position : Nat} {value : Json}
    (inside : position < elements.length) :
    elements.set position value = elements ↔ elements[position]? = some value := by
  constructor
  · intro same
    have there := List.getElem?_set_self (a := value) inside
    rwa [same] at there
  · intro there
    obtain ⟨-, rfl⟩ := List.getElem?_eq_some_iff.mp there
    exact List.set_getElem_self inside

theorem stored_eq_assign {elements : List Json} {position : Nat} {value : Json} :
    stored elements value position = Js.assign elements position value ↔
      position ≤ elements.length := by
  unfold stored Js.assign
  split
  · exact ⟨fun _ => by omega, fun _ => rfl⟩
  · constructor
    · intro same
      have count := congrArg List.length same
      simp only [List.length_append, List.length_replicate, List.length_cons, List.length_nil]
        at count
      omega
    · intro within
      rw [Nat.sub_eq_zero_of_le within]
      simp

theorem atEnd_replace_arr (elements : List Json) (last : Segment) (value : Json) :
    (Op.replace value).atEnd last (.arr elements) = js.change (.replace value) last (.arr elements) ↔
      js.StraightLast (.replace value) last (.arr elements) := by
  rw [Op.atEnd, put_arr]
  simp only [Js.StraightLast, Js.change]
  cases reads : last.position? with
  | none =>
    simp only [Option.map_none]
    by_cases named : last = .key "length"
    · subst named
      have word : js.index? (.key "length") = none := by
        have reads' : parseIndex? "length" = none := reads
        simp [Js.index?, reads']
      simp [word, eq_comm]
    · simp only [named, if_false, false_and, iff_false]
      split <;> simp
  | some position =>
    simp only [Option.map_some]
    rcases index?_of_position js reads with index | ⟨index, named⟩
    · rw [index]
      simp only [Option.some.injEq, Json.arr.injEq, stored_eq_assign, true_or, true_and]
      split
      · exact iff_of_true (by omega) trivial
      · omega
    · rw [index]
      simp only [if_neg named, Option.some.injEq, Json.arr.injEq, reduceCtorEq, false_or, false_and]
      split
      · rename_i inside
        rw [stored, if_pos inside]
        exact set_eq_self_iff inside
      · rename_i past
        rw [stored_append (by omega)]
        simp

theorem atEnd_remove_arr (standard : js.Standard) (elements : List Json) (last : Segment) :
    Op.remove.atEnd last (.arr elements) = js.change .remove last (.arr elements) ↔
      (∃ position, last = .index position) ∨ elements.length ≤ js.start last elements.length := by
  have unchanged (same : Json.remove last.json (.arr elements) = .arr elements)
      (other : ∀ position, last ≠ .index position) :
      Op.remove.atEnd last (.arr elements) = js.change .remove last (.arr elements) ↔
        (∃ position, last = .index position) ∨
          elements.length ≤ js.start last elements.length := by
    simp only [Op.atEnd, same, Js.change, Option.some.injEq, Json.arr.injEq, other, exists_false,
      false_or]
    rw [eq_comm, List.eraseIdx_eq_self]
  cases last with
  | index position =>
    refine iff_of_true ?_ (.inl ⟨position, rfl⟩)
    simp only [Op.atEnd, Js.change, Json.remove, Segment.json, standard.index, Option.some.injEq,
      Json.arr.injEq]
    rcases Nat.lt_or_ge position elements.length with inside | past
    · rw [Nat.min_eq_left (Nat.le_of_lt inside)]
    · rw [Nat.min_eq_right past, List.eraseIdx_of_length_le past,
        List.eraseIdx_of_length_le (Nat.le_refl _)]
  | key text => exact unchanged rfl fun _ same => by cases same
  | number text => exact unchanged rfl fun _ same => by cases same

theorem eraseField_eq_self {fields : List (String × Json)} {key : String} :
    eraseField key fields = fields ↔ ∀ field ∈ fields, field.1 ≠ key := by
  simp [eraseField]

/-- The operation on the last segment is Immer's exactly when it is straight. -/
theorem atEnd_iff (standard : js.Standard) (op : Op) (last : Segment) (node : Json) :
    op.atEnd last node = js.change op last node ↔ js.StraightLast op last node := by
  cases node with
  | obj fields =>
    cases op with
    | add value =>
      rw [Op.atEnd, put_obj]
      cases last <;> simp [Js.change, Js.StraightLast, Js.name]
    | replace value =>
      rw [Op.atEnd, put_obj]
      cases last <;> simp [Js.change, Js.StraightLast, Js.name]
    | remove =>
      cases last with
      | key text => simp [Op.atEnd, Js.change, Js.StraightLast, Js.name, Json.remove, Segment.json]
      | index position =>
        simp only [Op.atEnd, Js.change, Js.StraightLast, Json.remove, Segment.json,
          Option.some.injEq, Json.obj.injEq, reduceCtorEq, exists_false, false_or]
        exact eq_comm.trans eraseField_eq_self
      | number text =>
        simp only [Op.atEnd, Js.change, Js.StraightLast, Json.remove, Segment.json,
          Option.some.injEq, Json.obj.injEq, reduceCtorEq, exists_false, false_or]
        exact eq_comm.trans eraseField_eq_self
  | arr elements =>
    cases op with
    | add value => exact atEnd_add_arr standard elements last value
    | replace value => exact atEnd_replace_arr elements last value
    | remove => exact atEnd_remove_arr standard elements last
  | _ =>
    cases op <;> cases last <;> simp [Op.atEnd, Js.change, Js.StraightLast, put, descend,
      Segment.json, Except.toOption]

end Last

/-! ## Along the path -/

section Along

variable {js : Js}

theorem atEnd_eq_none (op : Op) (last : Segment) (node : Json) :
    op.atEnd last node = none ↔ Refuses op [last] node := by
  cases node with
  | obj fields =>
    cases op with
    | remove => simp [Op.atEnd, Refuses]
    | _ => rw [Op.atEnd, put_obj]; cases last <;> simp [Refuses]
  | arr elements =>
    cases op with
    | remove => simp [Op.atEnd, Refuses]
    | _ => rw [Op.atEnd, put_arr]; simp [Refuses]
  | _ =>
    cases op <;> cases last <;>
      simp [Op.atEnd, Refuses, put, descend, Segment.json, Except.toOption]

theorem follow_eq_none (op : Op) (path : List Segment) (node : Json) :
    follow op path node = none ↔ Refuses op path node := by
  induction path generalizing node with
  | nil => simp [follow, Refuses]
  | cons segment rest inductionHypothesis =>
    cases rest with
    | nil => exact atEnd_eq_none op segment node
    | cons next rest =>
      rw [follow, Refuses]
      cases node.descend segment.json with
      | none => simp
      | some found =>
        rw [Option.bind_some, Option.map_eq_none_iff]
        exact inductionHypothesis found.2

theorem lookup_insertField (key : String) (value : Json) (fields : List (String × Json)) :
    (insertField key value fields).lookup key = some value := by
  induction fields with
  | nil => simp [insertField]
  | cons field rest inductionHypothesis =>
    obtain ⟨k, v⟩ := field
    rw [insertField]
    split
    · simp
    · rename_i differs
      split
      · simp
      · have other : (key == k) = false := beq_eq_false_iff_ne.mpr fun same => differs same.symm
        rw [List.lookup_cons, other]
        exact inductionHypothesis

theorem insertField_inj {key : String} {a b : Json} {fields : List (String × Json)} :
    insertField key a fields = insertField key b fields ↔ a = b := by
  refine ⟨fun same => ?_, fun same => same ▸ rfl⟩
  have found := lookup_insertField key a fields
  rw [same, lookup_insertField] at found
  exact (Option.some.inj found).symm

theorem set_inj {elements : List Json} {position : Nat} {a b : Json}
    (inside : position < elements.length) :
    elements.set position a = elements.set position b ↔ a = b := by
  refine ⟨fun same => ?_, fun same => same ▸ rfl⟩
  have found := List.getElem?_set_self (a := a) inside
  rw [same, List.getElem?_set_self inside] at found
  exact (Option.some.inj found).symm

/-- Where both find a place, it is the same place with the same value. -/
theorem child_of_descend {node child : Json} {segment : Segment} {found : Slot × Json}
    (descends : node.descend segment.json = some found) (finds : js.child node segment = some child) :
    child = found.2 ∧ ∀ a b, node.set found.1 a = js.putBack node segment b ↔ a = b := by
  have element {elements : List Json} {position : Nat} {value : Json}
      (there : elements[position]? = some value) (index : js.index? segment = some position)
      (finds : js.child (.arr elements) segment = some child) :
      child = value ∧ ∀ a b, Json.set (.arr elements) (.index position) a =
        js.putBack (.arr elements) segment b ↔ a = b := by
    have inside := (List.getElem?_eq_some_iff.mp there).1
    simp only [Js.child, index, Option.bind_some, there, Option.filter_eq_some_iff] at finds
    refine ⟨(Option.some.inj finds.1).symm, fun a b => ?_⟩
    simp only [Json.set, Js.putBack, index, Option.getD_some, Json.arr.injEq]
    exact set_inj inside
  cases node with
  | obj fields =>
    cases segment with
    | key text =>
      obtain ⟨value, there, rfl⟩ := Option.map_eq_some_iff.mp descends
      simp only [Js.child, Option.filter_eq_some_iff] at finds
      obtain ⟨finds, -⟩ := finds
      split at finds
      · cases finds
      · rw [Js.name, there] at finds
        refine ⟨(Option.some.inj finds).symm, fun a b => ?_⟩
        simp only [Json.set, Js.putBack, Js.name, Json.obj.injEq]
        exact insertField_inj
    | index position => cases descends
    | number text => cases descends
  | arr elements =>
    cases segment with
    | key text =>
      simp only [descend, Segment.json] at descends
      cases parsed : parseIndex? text with
      | none => simp [parsed] at descends
      | some position =>
        cases there : elements[position]? with
        | none => simp [parsed, there] at descends
        | some value =>
          simp only [parsed, there, bind, Option.bind_some, pure, Option.some.injEq] at descends
          subst descends
          refine element there ?_ finds
          rcases @index?_of_position js (.key text) _ parsed with index | ⟨index, -⟩
          · exact index
          · simp [Js.child, index] at finds
    | index position =>
      obtain ⟨value, there, rfl⟩ := Option.map_eq_some_iff.mp descends
      exact element there rfl finds
    | number text => cases descends
  | _ => simp [Js.child] at finds

/-- Along a path the code does what Immer does exactly when the path is straight. -/
theorem follow_iff (standard : js.Standard) (op : Op) (path : List Segment) (node : Json)
    (segments : path ≠ []) :
    follow op path node = js.applyAt op path node ↔ js.Straight op path node := by
  induction path generalizing node with
  | nil => exact absurd rfl segments
  | cons segment rest inductionHypothesis =>
    cases rest with
    | nil => exact atEnd_iff standard op segment node
    | cons next rest =>
      rw [follow, Js.applyAt, Js.Straight]
      cases descends : node.descend segment.json with
      | none =>
        cases finds : js.child node segment with
        | none => simp
        | some child => simp [eq_comm]
      | some found =>
        cases finds : js.child node segment with
        | none => simpa using follow_eq_none op (next :: rest) found.2
        | some child =>
          obtain ⟨rfl, sameplace⟩ := child_of_descend descends finds
          dsimp only
          rw [← inductionHypothesis found.2 (by simp)]
          rw [Option.bind_some, Option.bind_some]
          cases follow op (next :: rest) found.2 <;>
            cases js.applyAt op (next :: rest) found.2 <;> simp [sameplace]

/-- One patch. -/
theorem applyOne_iff (standard : js.Standard) {p : Patch} {json : Json} (written : p.Written json)
    (state : Json) :
    (applyOne state json).toOption = js.applyPatch state p ↔ js.Straight p.op p.path state := by
  rw [applyOne_written written]
  obtain ⟨op, path⟩ := p
  cases path with
  | nil =>
    cases op <;> cases state <;>
      simp [follow, Js.applyPatch, Js.whole?, Js.applyAt, Js.change, Js.Straight, isContainer]
  | cons first rest =>
    have none_ : Js.whole? ⟨op, first :: rest⟩ = none := by cases op <;> rfl
    rw [Js.applyPatch, none_, Option.none_or]
    exact follow_iff standard op (first :: rest) state (by simp)

/-- One patch after another, up to one that both refuse. -/
theorem fold_iff (standard : js.Standard) {patches : List Patch} {jsons : List Json}
    (written : List.Forall₂ Patch.Written patches jsons) (state : Json) :
    (∀ n, (applyImmerPatches state (jsons.take n)).toOption =
        (patches.take n).foldlM js.applyPatch state) ↔ js.StraightAll state patches := by
  induction written generalizing state with
  | nil => simp [Js.StraightAll, applyImmerPatches, pure, Except.pure, Except.toOption]
  | @cons p json patches jsons first _ inductionHypothesis =>
    have one := applyOne_iff standard first state
    have code (n : Nat) : applyImmerPatches state ((json :: jsons).take (n + 1)) =
        (applyOne state json).bind fun next => applyImmerPatches next (jsons.take n) := rfl
    have immer (n : Nat) : ((p :: patches).take (n + 1)).foldlM js.applyPatch state =
        (js.applyPatch state p).bind fun next => (patches.take n).foldlM js.applyPatch next := rfl
    have later (next : Json) (n : Nat) (does : applyOne state json = .ok next)
        (applies : js.applyPatch state p = some next) :
        ((applyImmerPatches state ((json :: jsons).take (n + 1))).toOption =
            ((p :: patches).take (n + 1)).foldlM js.applyPatch state) ↔
          (applyImmerPatches next (jsons.take n)).toOption =
            (patches.take n).foldlM js.applyPatch next := by
      rw [code, immer, does, applies]
      rfl
    constructor
    · intro agree
      have same : (applyOne state json).toOption = js.applyPatch state p := by
        have once := agree 1
        rw [code, immer] at once
        cases does : applyOne state json with
        | error error =>
          cases applies : js.applyPatch state p with
          | none => rfl
          | some next => simp [does, applies, Except.bind, Except.toOption] at once
        | ok next =>
          cases applies : js.applyPatch state p with
          | none => simp [does, applies, Except.bind, Except.toOption, applyImmerPatches, pure,
              Except.pure] at once
          | some other => simpa [does, applies, Except.bind, Except.toOption, applyImmerPatches,
              pure, Except.pure] using once
      refine ⟨one.mp same, fun next applies => (inductionHypothesis next).mp fun n => ?_⟩
      cases does : applyOne state json with
      | error error =>
        rw [does, applies] at same
        cases same
      | ok changed =>
        have equal : changed = next := by
          rw [does, applies] at same
          exact Option.some.inj same
        exact (later next n (equal ▸ does) applies).mp (agree (n + 1))
    · rintro ⟨straight, after⟩ n
      have same := one.mpr straight
      cases n with
      | zero => rfl
      | succ n =>
        cases does : applyOne state json with
        | error error =>
          rw [does] at same
          rw [code, immer, does, ← same]
          rfl
        | ok next =>
          have applies : js.applyPatch state p = some next := by rw [← same, does]; rfl
          exact (later next n does applies).mpr
            ((inductionHypothesis next).mpr (after next applies) n)

end Along

/-! ## Batches -/

section Batches

variable {js : Js}

theorem lastWhole?_eq_none {patches : List Patch} :
    Js.lastWhole? patches = none ↔ ∀ p ∈ patches, Js.whole? p = none := by
  induction patches with
  | nil => simp [Js.lastWhole?]
  | cons p rest inductionHypothesis =>
    simp [Js.lastWhole?, inductionHypothesis, and_comm]

theorem applyPatches_of_parts {patches : List Patch} (parts : ∀ p ∈ patches, Js.whole? p = none)
    (state : Json) : js.applyPatches state patches = patches.foldlM js.applyPatch state := by
  rw [Js.applyPatches, lastWhole?_eq_none.mpr parts]

theorem lastWhole?_concat (patches : List Patch) {p : Patch} {value : Json}
    (whole : Js.whole? p = some value) : Js.lastWhole? (patches ++ [p]) = some (value, []) := by
  induction patches with
  | nil => simp [Js.lastWhole?, whole]
  | cons first rest inductionHypothesis =>
    rw [List.cons_append, Js.lastWhole?, inductionHypothesis]
    rfl

/-- The code refuses a patch of the whole document, and so the batch it is in. -/
theorem follow_whole {p : Patch} {value : Json} (whole : Js.whole? p = some value) (state : Json) :
    follow p.op p.path state = none := by
  obtain ⟨op, path⟩ := p
  cases path with
  | nil => rfl
  | cons first rest => cases op <;> cases whole

theorem applyImmerPatches_whole {patches : List Patch} {jsons : List Json}
    (written : List.Forall₂ Patch.Written patches jsons) {n : Nat} {p : Patch} {value : Json}
    (there : patches[n]? = some p) (whole : Js.whole? p = some value) (state : Json) :
    (applyImmerPatches state (jsons.take (n + 1))).toOption = none := by
  induction written generalizing n state with
  | nil => simp at there
  | @cons first json patches jsons isWritten _ inductionHypothesis =>
    have code : applyImmerPatches state ((json :: jsons).take (n + 1)) =
        (applyOne state json).bind fun next => applyImmerPatches next (jsons.take n) := rfl
    rw [code]
    cases n with
    | zero =>
      cases there
      have refused := (applyOne_written isWritten state).trans (follow_whole whole state)
      cases does : applyOne state json with
      | error error => rfl
      | ok next => simp [does, Except.toOption] at refused
    | succ n =>
      cases does : applyOne state json with
      | error error => rfl
      | ok next => exact inductionHypothesis there next

/-- **Patches**: after every part of a batch the code has the document that Immer has, or both
report an error, exactly when no patch replaces the whole document and each one is straight in
the document that it comes to. -/
theorem apply_immer_patches_iff (js : Js) (standard : js.Standard) (state : Json)
    (patches : List Patch) (jsons : List Json)
    (written : List.Forall₂ Patch.Written patches jsons) :
    (∀ n, (applyImmerPatches state (jsons.take n)).toOption =
        js.applyPatches state (patches.take n)) ↔
      (∀ p ∈ patches, Js.whole? p = none) ∧ js.StraightAll state patches := by
  by_cases parts : ∀ p ∈ patches, Js.whole? p = none
  · rw [← fold_iff standard written state]
    refine (forall_congr' fun n => ?_).trans (and_iff_right parts).symm
    rw [applyPatches_of_parts fun p member => parts p (List.mem_of_mem_take member)]
  · refine iff_of_false (fun agree => ?_) fun both => parts both.1
    push Not at parts
    obtain ⟨p, member, whole⟩ := parts
    obtain ⟨value, whole⟩ := Option.ne_none_iff_exists'.mp whole
    obtain ⟨n, there⟩ := List.mem_iff_getElem?.mp member
    have same := agree (n + 1)
    rw [applyImmerPatches_whole written there whole, List.take_add_one, there] at same
    rw [Js.applyPatches, Option.toList_some, lastWhole?_concat _ whole] at same
    cases same

end Batches

/-! ## An array of one element -/

namespace OneElement

/-- JavaScript on positions and on words. -/
def js : Js where
  numberText
    | .index position => toString position
    | .key text | .number text => text
  indexOf _ := none
  start
    | .index position, length => min position length
    | .key text, length => (parseIndex? text).elim 0 (min · length)
    | .number _, _ => 0
  setLength
    | .num length, elements =>
      some (elements.take length ++ List.replicate (length - elements.length) .null)
    | _, _ => none

theorem standard : js.Standard where
  index _ _ := rfl
  digits _ _ _ parsed := by simp [js, parsed]

def state : Json := .obj [("a", .arr [.num 1])]

def replace : Patch := ⟨.replace (.num 2), [.key "a", .index 0]⟩
def append : Patch := ⟨.add (.num 3), [.key "a", .index 1]⟩
def insert : Patch := ⟨.add (.num 2), [.key "a", .index 0]⟩

/-- A patch as it is sent. -/
def send (op : String) (position value : Nat) : Json :=
  .obj [("op", .str op), ("path", .arr [.str "a", .num position]), ("value", .num value)]

theorem replace_written : replace.Written (send "replace" 0 2) where
  object := ⟨_, rfl⟩
  op := rfl
  path := rfl
  value := by
    rintro value (same | same) <;> cases same
    rfl

theorem append_written : append.Written (send "add" 1 3) where
  object := ⟨_, rfl⟩
  op := rfl
  path := rfl
  value := by
    rintro value (same | same) <;> cases same
    rfl

theorem insert_written : insert.Written (send "add" 0 2) where
  object := ⟨_, rfl⟩
  op := rfl
  path := rfl
  value := by
    rintro value (same | same) <;> cases same
    rfl

end OneElement

open OneElement in
theorem apply_immer_patches_iff_replace :
    (applyImmerPatches state [send "replace" 0 2, send "add" 1 3]).toOption =
      js.applyPatches state [replace, append] := by
  refine (apply_immer_patches_iff js standard state _ _
    (.cons replace_written (.cons append_written .nil))).mpr ⟨?_, ?_⟩ 2
  · intro p member
    rcases List.mem_cons.mp member with rfl | member
    · rfl
    · rw [List.mem_singleton.mp member]
      rfl
  · refine ⟨.inl rfl, fun next applies => ?_⟩
    cases applies
    exact ⟨⟨1, rfl, Nat.le_refl _⟩, fun _ _ => trivial⟩

open OneElement in
/-- "add" before an element overwrites it. -/
theorem add_overwrites :
    ¬ ∀ (js : Js), js.Standard → ∀ (state : Json) (patches : List Patch) (jsons : List Json),
      List.Forall₂ Patch.Written patches jsons →
        (applyImmerPatches state jsons).toOption = js.applyPatches state patches := by
  intro claim
  have same := claim js standard state _ _ (.cons insert_written .nil)
  have code : (applyImmerPatches state [send "add" 0 2]).toOption =
      some (.obj [("a", .arr [.num 2])]) := rfl
  have immer : js.applyPatches state [insert] =
      some (.obj [("a", .arr [.num 2, .num 1])]) := rfl
  rw [code, immer] at same
  cases same

end AgentConsole.Bridge.Immer
