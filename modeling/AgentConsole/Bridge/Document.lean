import AgentConsole.Lib.FiniteMap
import AgentConsole.Lib.Utf8

/-! # Conversation documents

The conversation state Desktop sends is a JSON value, and a change of it a batch of Immer
patches.  `projection` finds the turns in a document and the items in a turn.

An object is the list of its fields in the order of the keys, as `serde_json` keeps it. -/

namespace AgentConsole.Bridge

open AgentConsole.Lib

/-- `serde_json::Value`; `other` is a number that is no `u64`. -/
inductive Json where
  | null
  | bool (value : Bool)
  | num (value : Nat)
  | other (text : String)
  | str (value : String)
  | arr (elements : List Json)
  | obj (fields : List (String × Json))
  deriving Repr, Inhabited

namespace Json

def asStr? : Json → Option String
  | .str value => some value
  | _ => none

def asU64? : Json → Option Nat
  | .num value => some value
  | _ => none

def asArray? : Json → Option (List Json)
  | .arr elements => some elements
  | _ => none

def asObject? : Json → Option (List (String × Json))
  | .obj fields => some fields
  | _ => none

/-- `Value::get` with a key. -/
def get? (value : Json) (key : String) : Option Json :=
  value.asObject?.bind fun fields => fields.lookup key

/-- `str::parse::<usize>` on a 64-bit machine. -/
def parseIndex? (text : String) : Option Nat :=
  let digits : List Char := match text.toList with
    | '+' :: rest => rest
    | chars => chars
  let value : Nat := digits.foldl (fun n c => 10 * n + (c.toNat - '0'.toNat)) 0
  if digits ≠ [] ∧ digits.all Char.isDigit ∧ value < 2 ^ 64 then some value else none

/-! ## Places in a document -/

/-- A place directly below a node. -/
inductive Slot where
  | field (key : String)
  | index (position : Nat)
  deriving DecidableEq, Repr

/-- `Map::insert`: the fields stay in the order of the keys. -/
def insertField (key : String) (value : Json) : List (String × Json) → List (String × Json)
  | [] => [(key, value)]
  | (k, v) :: rest =>
    if k = key then (key, value) :: rest
    else if key < k then (key, value) :: (k, v) :: rest
    else (k, v) :: insertField key value rest

def eraseField (key : String) (fields : List (String × Json)) : List (String × Json) :=
  fields.filter fun field => field.1 ≠ key

/-- `descend_mut`: the place a path segment names, with the value there. -/
def descend (node segment : Json) : Option (Slot × Json) :=
  match segment with
  | .str key =>
    match node with
    | .obj fields => (fields.lookup key).map fun value => (.field key, value)
    | .arr elements => do
      let position ← parseIndex? key
      let value ← elements[position]?
      return (.index position, value)
    | _ => none
  | .num position =>
    match node with
    | .arr elements => (elements[position]?).map fun value => (.index position, value)
    | _ => none
  | _ => none

def set (node : Json) (slot : Slot) (value : Json) : Json :=
  match node, slot with
  | .obj fields, .field key => .obj (insertField key value fields)
  | .arr elements, .index position => .arr (elements.set position value)
  | _, _ => node

/-! ## Immer patches -/

inductive PatchError where
  | notAnObject
  | unsupportedOp (op : String)
  | invalidPath (position : Nat)
  deriving DecidableEq, Repr

/-- Change the node at the end of the path `segments`, which starts at `depth`. -/
def modifyAt (change : Json → Except PatchError Json) :
    Nat → List Json → Json → Except PatchError Json
  | _, [], node => change node
  | depth, segment :: rest, node =>
    match node.descend segment with
    | none => .error (.invalidPath depth)
    | some (slot, child) => do
      let child ← modifyAt change (depth + 1) rest child
      return node.set slot child

/-- "add" and "replace" in the node that holds the last segment. -/
def put (position : Nat) (last value node : Json) : Except PatchError Json :=
  match node.descend last with
  | some (slot, _) => .ok (node.set slot value)
  | none =>
    match node, last with
    | .obj fields, .str key => .ok (.obj (insertField key value fields))
    | .arr elements, .num index => .ok (.arr (elements.insertIdx (min index elements.length) value))
    | .arr elements, .str key =>
      match parseIndex? key with
      | some index => .ok (.arr (elements.insertIdx (min index elements.length) value))
      | none => .error (.invalidPath position)
    | _, _ => .error (.invalidPath position)

/-- "remove": nothing happens where there is nothing. -/
def remove (last node : Json) : Json :=
  match node, last with
  | .obj fields, .str key => .obj (eraseField key fields)
  | .arr elements, .num index => .arr (elements.eraseIdx index)
  | _, _ => node

/-- `apply_one` -/
def applyOne (state patch : Json) : Except PatchError Json :=
  match patch with
  | .obj _ =>
    match (patch.get? "op").bind asStr? with
    | none => .error (.unsupportedOp "<missing>")
    | some op =>
      match (patch.get? "path").bind asArray? with
      | none | some [] => .error (.invalidPath 0)
      | some (first :: rest) =>
        let segments := first :: rest
        let last := segments.getLast (by simp)
        let change : Except PatchError (Json → Except PatchError Json) := match op with
          | "add" | "replace" =>
            .ok (put (segments.length - 1) last ((patch.get? "value").getD .null))
          | "remove" => .ok fun node => .ok (remove last node)
          | unknown => .error (.unsupportedOp unknown)
        -- the path is followed before the operation is looked at
        do
          let _ ← modifyAt .ok 0 segments.dropLast state
          modifyAt (← change) 0 segments.dropLast state
  | _ => .error .notAnObject

/-- `apply_immer_patches` -/
def applyImmerPatches (state : Json) (patches : List Json) : Except PatchError Json :=
  patches.foldlM applyOne state

/-! ## Turns and items -/

/-- `extract_turns`: the array of turns, or the paginated history in the order of the
starting times. -/
def extractTurns (state : Json) : List Json :=
  match (state.get? "turns").bind asArray? with
  | some (first :: rest) => first :: rest
  | _ =>
    let entities := ((((state.get? "turnHistory").bind (·.get? "history")).bind
      (·.get? "entitiesByKey")).bind asObject?).getD []
    let turns := (entities.map (·.2)).filter fun entity => (entity.get? "turnId").isSome
    let started := fun turn : Json => ((turn.get? "turnStartedAtMs").bind asU64?).getD 0
    turns.insertionSort fun a b => started a ≤ started b

/-- `turn_items_of` -/
def turnItemsOf (turn : Json) : List Json := ((turn.get? "items").bind asArray?).getD []

/-- The items of all turns, in their order. -/
def items (state : Json) : List Json := state.extractTurns.flatMap turnItemsOf

/-- `item_type_of` -/
def itemTypeOf (item : Json) : String :=
  (((item.get? "type").or (item.get? "item_type")).bind asStr?).getD "unknown"

/-- `command_output` -/
def commandOutput? (item : Json) : Option String := (item.get? "aggregatedOutput").bind asStr?

def nativeId? (item : Json) : Option String := (item.get? "id").bind asStr?

end Json
end AgentConsole.Bridge
