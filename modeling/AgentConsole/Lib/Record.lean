import Mathlib.Data.List.Nodup

/-! # Records in the order of insertion

A record maps keys to values and lists its entries in the order in which the keys were
first set; setting a key again keeps its place. -/

namespace AgentConsole.Lib

variable {K V : Type*} [DecidableEq K]

structure Record (K V : Type*) where
  entries : List (K × V)
  nodup : (entries.map Prod.fst).Nodup

namespace Record

def empty : Record K V := ⟨[], List.nodup_nil⟩

def get? (r : Record K V) (key : K) : Option V := (r.entries.find? fun e => e.1 = key).map (·.2)

def values (r : Record K V) : List V := r.entries.map (·.2)

/-- The entries after a key is set. -/
def assign (key : K) (value : V) (entries : List (K × V)) : List (K × V) :=
  if key ∈ entries.map Prod.fst then
    entries.map fun e => if e.1 = key then (key, value) else e
  else entries ++ [(key, value)]

theorem map_fst_assign (key : K) (value : V) (entries : List (K × V)) :
    (assign key value entries).map Prod.fst =
      if key ∈ entries.map Prod.fst then entries.map Prod.fst
      else entries.map Prod.fst ++ [key] := by
  unfold assign
  split
  · rw [List.map_map]
    apply List.map_congr_left
    intro e _
    simp only [Function.comp_apply]
    split
    · next same => exact same.symm
    · rfl
  · simp

theorem nodup_assign {key : K} {value : V} {entries : List (K × V)}
    (nodup : (entries.map Prod.fst).Nodup) : ((assign key value entries).map Prod.fst).Nodup := by
  rw [map_fst_assign]
  split
  · exact nodup
  · next absent =>
    apply List.Nodup.append nodup (List.nodup_singleton key)
    simpa using absent

def set (r : Record K V) (key : K) (value : V) : Record K V :=
  ⟨assign key value r.entries, nodup_assign r.nodup⟩

def erase (r : Record K V) (key : K) : Record K V :=
  ⟨r.entries.filter fun e => e.1 ≠ key, r.nodup.sublist (List.filter_sublist.map _)⟩

theorem mem_entries {r : Record K V} {key : K} {value : V} :
    (key, value) ∈ r.entries ↔ r.get? key = some value := by
  obtain ⟨entries, nodup⟩ := r
  show (key, value) ∈ entries ↔ (entries.find? fun e => e.1 = key).map (·.2) = some value
  induction entries with
  | nil => simp
  | cons e rest inductionHypothesis =>
    obtain ⟨k, v⟩ := e
    have fresh : k ∉ rest.map Prod.fst := (List.nodup_cons.mp nodup).1
    have later := inductionHypothesis (List.nodup_cons.mp nodup).2
    by_cases same : k = key
    · subst same
      have absent : (k, value) ∉ rest := fun there =>
        fresh (List.mem_map.mpr ⟨(k, value), there, rfl⟩)
      simp [absent, eq_comm]
    · simp [same, Ne.symm same, later]

theorem mem_set {r : Record K V} {key k : K} {value v : V} :
    (k, v) ∈ (r.set key value).entries ↔ (k = key ∧ v = value) ∨ (k ≠ key ∧ (k, v) ∈ r.entries) := by
  unfold set assign
  split
  · next present =>
    obtain ⟨⟨key', old⟩, there, same⟩ := List.mem_map.mp present
    simp only at same
    subst same
    constructor
    · intro member
      obtain ⟨⟨k', v'⟩, old', moved⟩ := List.mem_map.mp member
      split at moved
      · cases moved
        exact .inl ⟨rfl, rfl⟩
      · next different =>
        cases moved
        exact .inr ⟨different, old'⟩
    · rintro (⟨rfl, rfl⟩ | ⟨different, old'⟩)
      · exact List.mem_map.mpr ⟨_, there, by simp⟩
      · exact List.mem_map.mpr ⟨_, old', by simp [different]⟩
  · next absent =>
    simp only [List.mem_append, List.mem_singleton, Prod.mk.injEq]
    constructor
    · rintro (old | new)
      · refine .inr ⟨?_, old⟩
        rintro rfl
        exact absent (List.mem_map.mpr ⟨_, old, rfl⟩)
      · exact .inl new
    · rintro (new | ⟨-, old⟩)
      · exact .inr new
      · exact .inl old

@[simp] theorem get?_set (r : Record K V) (key k : K) (value : V) :
    (r.set key value).get? k = if k = key then some value else r.get? k := by
  apply Option.ext
  intro v
  show (r.set key value).get? k = some v ↔ _
  rw [← mem_entries, mem_set]
  split
  · next same => simp [same, eq_comm]
  · next different => simp [different, mem_entries]

@[simp] theorem get?_empty (key : K) : (empty : Record K V).get? key = none := rfl

theorem mem_erase {r : Record K V} {key k : K} {v : V} :
    (k, v) ∈ (r.erase key).entries ↔ k ≠ key ∧ (k, v) ∈ r.entries := by
  unfold erase
  simp [and_comm]

@[simp] theorem get?_erase (r : Record K V) (key k : K) :
    (r.erase key).get? k = if k = key then none else r.get? k := by
  apply Option.ext
  intro v
  show (r.erase key).get? k = some v ↔ _
  rw [← mem_entries, mem_erase]
  split
  · next same => simp [same]
  · next different => simp [different, mem_entries]

end Record

end AgentConsole.Lib
