import AgentConsole.Lib.Binary64

/-! # JSON values as a JavaScript program reads them

A value of a JSON document and the readers of a program that takes nothing about it for
granted.  An absent field reads like `null`.  A number of the document arrives as the
nearest binary64 number.

`T` is what stands behind the text of an instant. -/

namespace AgentConsole.Lib

inductive Json (T : Type) where
  | null
  | bool (value : Bool)
  | num (value : Nat)
  | str (value : String)
  | time (value : T)
  | arr (values : List (Json T))
  | obj (fields : List (String × Json T))

namespace Json

variable {T : Type}

/-- `value.name`; only an object has fields. -/
def field : Json T → String → Json T
  | .obj fields, name => (fields.lookup name).getD .null
  | _, _ => .null

/-- `Boolean(value)` -/
def truthy : Json T → Bool
  | .null => false
  | .bool value => value
  | .num value => value != 0
  | .str value => value != ""
  | .time _ | .arr _ | .obj _ => true

/-- `recordOrUndefined` -/
def recordOrUndefined : Json T → Option (Json T)
  | .arr values => some (.arr values)
  | .obj fields => some (.obj fields)
  | _ => none

/-- `record` -/
def record (value : Json T) : Json T := value.recordOrUndefined.getD (.obj [])

/-- `Array.isArray(value) ? value : []` -/
def arrayOrEmpty : Json T → List (Json T)
  | .arr values => values
  | _ => []

/-- `stringOrEmpty`; `String(value)` of an instant or of a container is never asked for. -/
def stringOrEmpty : Json T → String
  | .str value => value
  | .bool value => toString value
  | .num value => toString (Binary64.round value)
  | .null | .time _ | .arr _ | .obj _ => ""

/-- `stringOrEmpty` where the field holds the text of an instant. -/
def timeOrEmpty : Json T → Option T
  | .time value => some value
  | _ => none

/-- `numberOrZero`, with `number` for the value a JSON number arrives as. -/
def numberOrZero (number : Nat → Nat) : Json T → Nat
  | .num value => number value
  | .bool value => value.toNat
  | _ => 0

/-- `value ?? other` -/
def coalesce : Json T → Json T → Json T
  | .null, other => other
  | value, _ => value

/-- A value the writer may leave out. -/
def orNull : Option (Json T) → Json T
  | some value => value
  | none => .null

@[simp] theorem field_cons (name key : String) (value : Json T)
    (fields : List (String × Json T)) :
    field (.obj ((key, value) :: fields)) name =
      if name = key then value else field (.obj fields) name := by
  by_cases same : name = key
  · simp [field, same]
  · have : (name == key) = false := by simpa using same
    simp [field, List.lookup_cons, same, this]

@[simp] theorem field_nil (name : String) : field (.obj [] : Json T) name = .null := rfl
@[simp] theorem field_null (name : String) : field (.null : Json T) name = .null := rfl
@[simp] theorem record_obj (fields : List (String × Json T)) :
    record (.obj fields) = .obj fields := rfl
@[simp] theorem record_null : record (.null : Json T) = .obj [] := rfl
@[simp] theorem recordOrUndefined_obj (fields : List (String × Json T)) :
    recordOrUndefined (.obj fields) = some (.obj fields) := rfl
@[simp] theorem recordOrUndefined_null : recordOrUndefined (.null : Json T) = none := rfl
@[simp] theorem coalesce_null (other : Json T) : coalesce .null other = other := rfl
@[simp] theorem coalesce_obj (fields : List (String × Json T)) (other : Json T) :
    coalesce (.obj fields) other = .obj fields := rfl
@[simp] theorem truthy_null : truthy (.null : Json T) = false := rfl
@[simp] theorem truthy_obj (fields : List (String × Json T)) : truthy (.obj fields) = true := rfl
@[simp] theorem truthy_bool (value : Bool) : truthy (.bool value : Json T) = value := rfl
@[simp] theorem truthy_str (value : String) : truthy (.str value : Json T) = (value != "") := rfl
@[simp] theorem arrayOrEmpty_arr (values : List (Json T)) :
    arrayOrEmpty (.arr values) = values := rfl
@[simp] theorem stringOrEmpty_str (value : String) :
    stringOrEmpty (.str value : Json T) = value := rfl
@[simp] theorem stringOrEmpty_null : stringOrEmpty (.null : Json T) = "" := rfl
@[simp] theorem numberOrZero_num (number : Nat → Nat) (value : Nat) :
    numberOrZero number (.num value : Json T) = number value := rfl
@[simp] theorem numberOrZero_null (number : Nat → Nat) :
    numberOrZero number (.null : Json T) = 0 := rfl
@[simp] theorem orNull_some (value : Json T) : orNull (some value) = value := rfl
@[simp] theorem orNull_none : orNull (none : Option (Json T)) = .null := rfl

end Json

/-! ## Texts -/

/-- `value.endsWith(suffix)` -/
def endsWith (value ending : String) : Bool := ending.toList.isSuffixOf value.toList

/-- `value` without `start` at its front, if it stands there. -/
def withoutPrefix (start value : String) : String :=
  if start.toList.isPrefixOf value.toList then
    String.ofList (value.toList.drop start.toList.length)
  else value

end AgentConsole.Lib
