import Mathlib

/-! # Finite maps

`FiniteMap K V` wraps Mathlib's association list with one entry per key and
hides its dependent value type.  The registries and tables of the modelled
programs are values of this type: next to `get?`, `insert` and `erase` it has
the bulk operations they use (`values_mut`, `retain`) and the `modify` of one
entry, each with its lookup lemma. -/

namespace AgentConsole.Lib

/-- A finite map from `K` to `V`. -/
structure FiniteMap (K V : Type*) where
  alist : AList (fun _ : K => V)

namespace FiniteMap

variable {K V : Type*}

instance : EmptyCollection (FiniteMap K V) := ⟨⟨∅⟩⟩

instance : Inhabited (FiniteMap K V) := ⟨∅⟩

/-- The entries as pairs, in storage order. -/
def toList (m : FiniteMap K V) : List (K × V) := m.alist.entries.map fun e => (e.1, e.2)

def keys (m : FiniteMap K V) : List K := m.alist.keys

def values (m : FiniteMap K V) : List V := m.toList.map (·.2)

/-- Replace every value; the keys stay. -/
def mapVal (f : K → V → V) (m : FiniteMap K V) : FiniteMap K V where
  alist.entries := m.alist.entries.map fun e => ⟨e.1, f e.1 e.2⟩
  alist.nodupKeys := by
    have keys : (m.alist.entries.map fun e => (⟨e.1, f e.1 e.2⟩ : Sigma fun _ : K => V)).keys =
        m.alist.entries.keys := by
      simp [List.keys, Function.comp_def]
    rw [List.NodupKeys, keys]
    exact m.alist.nodupKeys

/-- Keep the entries that satisfy `p`. -/
def filter (p : K → V → Bool) (m : FiniteMap K V) : FiniteMap K V where
  alist.entries := m.alist.entries.filter fun e => p e.1 e.2
  alist.nodupKeys := List.NodupKeys.sublist List.filter_sublist m.alist.nodupKeys

theorem nodup_fst (m : FiniteMap K V) (p : K × V → Bool) :
    ((m.toList.filter p).map (·.1)).Nodup := by
  have keys : m.toList.map (·.1) = m.alist.entries.keys := by
    simp [toList, List.keys, Function.comp_def]
  refine (List.filter_sublist.map _).nodup ?_
  rw [keys]
  exact m.alist.nodupKeys

theorem nodup_keys (m : FiniteMap K V) : m.keys.Nodup := m.alist.nodupKeys

variable [DecidableEq K]

def get? (m : FiniteMap K V) (k : K) : Option V := m.alist.lookup k

def contains (m : FiniteMap K V) (k : K) : Bool := (m.get? k).isSome

def insert (m : FiniteMap K V) (k : K) (v : V) : FiniteMap K V := ⟨m.alist.insert k v⟩

def erase (m : FiniteMap K V) (k : K) : FiniteMap K V := ⟨m.alist.erase k⟩

/-- Update the value at `k`, if there is one. -/
def modify (m : FiniteMap K V) (k : K) (f : V → V) : FiniteMap K V :=
  match m.get? k with
  | none => m
  | some v => m.insert k (f v)

@[simp] theorem get?_empty (k : K) : (∅ : FiniteMap K V).get? k = none := rfl

theorem get?_insert (m : FiniteMap K V) (k k' : K) (v : V) :
    (m.insert k v).get? k' = if k' = k then some v else m.get? k' := by
  unfold get? insert
  split
  · next same => subst same; exact AList.lookup_insert _
  · next other => exact AList.lookup_insert_ne other

theorem get?_erase (m : FiniteMap K V) (k k' : K) :
    (m.erase k).get? k' = if k' = k then none else m.get? k' := by
  unfold get? erase
  split
  · next same => subst same; exact AList.lookup_erase k' _
  · next other => exact AList.lookup_erase_ne other

@[simp] theorem get?_insert_self (m : FiniteMap K V) (k : K) (v : V) :
    (m.insert k v).get? k = some v := by
  rw [get?_insert, if_pos rfl]

@[simp] theorem get?_erase_self (m : FiniteMap K V) (k : K) : (m.erase k).get? k = none := by
  rw [get?_erase, if_pos rfl]

@[simp] theorem get?_mapVal (f : K → V → V) (m : FiniteMap K V) (k : K) :
    (m.mapVal f).get? k = (m.get? k).map (f k) :=
  List.dlookup_map₂ k

theorem get?_mapVal_of_fixed {f : K → V → V} {m : FiniteMap K V} {k : K}
    (fixed : ∀ v, f k v = v) : (m.mapVal f).get? k = m.get? k := by
  rw [get?_mapVal, funext fixed]
  exact Option.map_id'

theorem get?_filter (p : K → V → Bool) (m : FiniteMap K V) (k : K) :
    (m.filter p).get? k = (m.get? k).filter (p k) := by
  obtain ⟨⟨entries, nodup⟩⟩ := m
  change List.dlookup k (entries.filter fun e => p e.1 e.2) =
    Option.filter (p k) (List.dlookup k entries)
  induction entries with
  | nil => rfl
  | cons e rest ih =>
    obtain ⟨k', v⟩ := e
    obtain ⟨fresh, nodupRest⟩ := List.nodupKeys_cons.mp nodup
    by_cases same : k = k'
    · subst same
      rw [List.dlookup_cons_eq, Option.filter_some]
      cases kept : p k v with
      | true => simp [kept]
      | false =>
        rw [List.filter_cons, if_neg (by simp [kept]), ih nodupRest,
          List.dlookup_eq_none.mpr fresh]
        rfl
    · have skip (l : List (Sigma fun _ : K => V)) :
          List.dlookup k (⟨k', v⟩ :: l) = List.dlookup k l := List.dlookup_cons_ne l _ same
      rw [skip, ← ih nodupRest, List.filter_cons]
      split
      · exact skip _
      · rfl

theorem get?_of_filter {p : K → V → Bool} {m : FiniteMap K V} {k : K} {v : V}
    (kept : (m.filter p).get? k = some v) : m.get? k = some v ∧ p k v = true := by
  rw [get?_filter] at kept
  exact Option.filter_eq_some_iff.mp kept

@[simp] theorem get?_modify (m : FiniteMap K V) (k k' : K) (f : V → V) :
    (m.modify k f).get? k' = if k' = k then (m.get? k).map f else m.get? k' := by
  unfold modify
  cases found : m.get? k with
  | none =>
    by_cases same : k' = k
    · simp [same, found]
    · simp [same]
  | some v => simp [get?_insert]

theorem mem_toList {m : FiniteMap K V} {k : K} {v : V} :
    (k, v) ∈ m.toList ↔ m.get? k = some v := by
  have lookup : m.get? k = some v ↔ (⟨k, v⟩ : Sigma fun _ : K => V) ∈ m.alist.entries :=
    AList.mem_lookup_iff
  rw [lookup]
  simp only [toList, List.mem_map, Prod.mk.injEq]
  constructor
  · rintro ⟨⟨k', v'⟩, member, rfl, rfl⟩
    exact member
  · intro member
    exact ⟨⟨k, v⟩, member, rfl, rfl⟩

theorem mem_values {m : FiniteMap K V} {v : V} : v ∈ m.values ↔ ∃ k, m.get? k = some v := by
  simp only [values, List.mem_map, Prod.exists, exists_eq_right, mem_toList]

theorem mem_keys {m : FiniteMap K V} {k : K} : k ∈ m.keys ↔ ∃ v, m.get? k = some v := by
  rw [← Option.isSome_iff_exists]
  exact AList.lookup_isSome.symm

/-! ### Which keys are there -/

theorem contains_iff {m : FiniteMap K V} {k : K} :
    m.contains k = true ↔ ∃ v, m.get? k = some v :=
  Option.isSome_iff_exists

theorem contains_insert (m : FiniteMap K V) (k k' : K) (v : V) :
    (m.insert k v).contains k' = (decide (k' = k) || m.contains k') := by
  unfold contains
  rw [get?_insert]
  by_cases same : k' = k <;> simp [same]

theorem contains_erase (m : FiniteMap K V) (k k' : K) :
    (m.erase k).contains k' = (!decide (k' = k) && m.contains k') := by
  unfold contains
  rw [get?_erase]
  by_cases same : k' = k <;> simp [same]

theorem contains_mapVal (f : K → V → V) (m : FiniteMap K V) (k : K) :
    (m.mapVal f).contains k = m.contains k := by
  unfold contains
  rw [get?_mapVal, Option.isSome_map]

theorem contains_modify (m : FiniteMap K V) (k k' : K) (f : V → V) :
    (m.modify k f).contains k' = m.contains k' := by
  unfold contains
  rw [get?_modify]
  by_cases same : k' = k <;> simp [same]

theorem contains_filter (p : K → Bool) (m : FiniteMap K V) (k : K) :
    (m.filter fun k _ => p k).contains k = (p k && m.contains k) := by
  unfold contains
  rw [get?_filter]
  cases m.get? k with
  | none => simp
  | some v => cases p k <;> simp [Option.filter]

/-- What holds of the value at a key, if there is one, can be checked. -/
instance decidableForallGet {P : V → Prop} [∀ v, Decidable (P v)] (m : FiniteMap K V) (k : K) :
    Decidable (∀ v, m.get? k = some v → P v) :=
  decidable_of_iff (∀ v ∈ (m.get? k).toList, P v) (by simp [Option.mem_toList])

/-- What holds of all entries can be checked. -/
instance decidableForallEntry {P : K → V → Prop} [∀ k v, Decidable (P k v)]
    (m : FiniteMap K V) : Decidable (∀ k v, m.get? k = some v → P k v) :=
  decidable_of_iff (∀ e ∈ m.toList, P e.1 e.2)
    ⟨fun holds k v found => holds (k, v) (mem_toList.mpr found),
      fun holds e member => holds e.1 e.2 (mem_toList.mp member)⟩

end FiniteMap

end AgentConsole.Lib
