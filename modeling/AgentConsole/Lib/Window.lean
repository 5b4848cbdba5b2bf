import AgentConsole.Lib.FiniteMap

/-! # Suppression by a time window

A table of the times its keys were last let through: a key is let through when its time is
absent or out of the window.  A table that has grown over its limit drops the times that are
out of the window, which changes no later answer.

Times come from a clock that does not run backwards; `Past` says that the table knows none
from the future. -/

namespace AgentConsole.Lib.Window

variable {K : Type*} [DecidableEq K] (window limit : Nat)

/-- `key` was let through within the window before `now`. -/
def Live (table : FiniteMap K Nat) (key : K) (now : Nat) : Prop :=
  ∃ time, table.get? key = some time ∧ now - time ≤ window

def Past (table : FiniteMap K Nat) (now : Nat) : Prop :=
  ∀ key time, table.get? key = some time → time ≤ now

/-- The table without the times that are out of the window, once it is over its limit. -/
def prune (table : FiniteMap K Nat) (now : Nat) : FiniteMap K Nat :=
  if table.keys.length > limit then table.filter fun _ time => now - time ≤ window else table

/-- The answer for `key` at `now`, and the table afterwards. -/
def allow (table : FiniteMap K Nat) (now : Nat) (key : K) : Bool × FiniteMap K Nat :=
  let kept := prune window limit table now
  match kept.get? key with
  | some time => if now - time ≤ window then (false, kept) else (true, kept.insert key now)
  | none => (true, kept.insert key now)

variable {window limit} {table : FiniteMap K Nat} {key other : K} {now later : Nat}

theorem prune_past (past : Past table now) : Past (prune window limit table now) now := by
  intro key time found
  unfold prune at found
  split at found
  · exact past key time (FiniteMap.get?_of_filter found).1
  · exact past key time found

/-- Pruning forgets nothing that is still live. -/
theorem live_prune (order : now ≤ later) :
    Live window (prune window limit table now) key later ↔ Live window table key later := by
  unfold prune
  split
  · simp only [Live, FiniteMap.get?_filter, Option.filter_eq_some_iff, decide_eq_true_eq]
    constructor
    · rintro ⟨time, ⟨found, _⟩, recent⟩
      exact ⟨time, found, recent⟩
    · rintro ⟨time, found, recent⟩
      exact ⟨time, ⟨found, by omega⟩, recent⟩
  · rfl

/-- Every answer is one of two: a live key is refused, any other is let through and its
time recorded. -/
theorem allow_cases (window limit : Nat) (table : FiniteMap K Nat) (now : Nat) (key : K) :
    (Live window table key now ∧
        allow window limit table now key = (false, prune window limit table now)) ∨
      (¬ Live window table key now ∧
        allow window limit table now key = (true, (prune window limit table now).insert key now)) := by
  have pruned : Live window (prune window limit table now) key now ↔ Live window table key now :=
    live_prune (Nat.le_refl now)
  rw [← pruned]
  unfold allow
  generalize prune window limit table now = kept
  cases found : kept.get? key with
  | none =>
    have quiet : ¬ Live window kept key now := fun ⟨time, stored, _⟩ =>
      nomatch found.symm.trans stored
    exact .inr ⟨quiet, by simp only [found]⟩
  | some time =>
    by_cases recent : now - time ≤ window
    · exact .inl ⟨⟨time, found, recent⟩, by simp only [found, if_pos recent]⟩
    · have quiet : ¬ Live window kept key now := by
        rintro ⟨stored, same, within⟩
        obtain rfl := Option.some.inj (found.symm.trans same)
        exact recent within
      exact .inr ⟨quiet, by simp only [found, if_neg recent]⟩

theorem allow_fst : (allow window limit table now key).1 = true ↔ ¬ Live window table key now := by
  rcases allow_cases window limit table now key with
    ⟨live, answer⟩ | ⟨quiet, answer⟩
  · simp [answer, live]
  · simp [answer, quiet]

theorem allow_past (past : Past table now) : Past (allow window limit table now key).2 now := by
  rcases allow_cases window limit table now key with
    ⟨_, answer⟩ | ⟨_, answer⟩
  · rw [answer]
    exact prune_past past
  · rw [answer]
    intro k time found
    rw [FiniteMap.get?_insert] at found
    split at found
    · exact (Option.some.inj found).ge
    · exact prune_past past k time found

/-- What is live after an answer: what was, and the key that was just let through. -/
theorem live_allow (past : Past table now) (order : now ≤ later) :
    Live window (allow window limit table now key).2 other later ↔
      Live window table other later ∨
        other = key ∧ ¬ Live window table key now ∧ later - now ≤ window := by
  rcases allow_cases window limit table now key with
    ⟨live, answer⟩ | ⟨quiet, answer⟩
  · rw [answer, live_prune order]
    simp [live]
  · rw [answer]
    by_cases same : other = key
    · subst same
      have stale : Live window table other later → False := by
        rintro ⟨time, found, recent⟩
        have := past other time found
        exact quiet ⟨time, found, by omega⟩
      simp only [Live, FiniteMap.get?_insert_self, Option.some.injEq, exists_eq_left', true_and]
      constructor
      · exact fun recent => .inr ⟨quiet, recent⟩
      · rintro (before | ⟨_, recent⟩)
        · exact (stale before).elim
        · exact recent
    · have unchanged : Live window ((prune window limit table now).insert key now) other later ↔
          Live window (prune window limit table now) other later := by
        simp only [Live, FiniteMap.get?_insert, if_neg same]
      rw [unchanged, live_prune order]
      simp [same]

theorem past_mono (past : Past table now) (order : now ≤ later) : Past table later :=
  fun key time found => Nat.le_trans (past key time found) order

end AgentConsole.Lib.Window
