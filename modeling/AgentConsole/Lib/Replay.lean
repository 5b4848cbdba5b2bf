import Mathlib

/-! # Folding a log with resets

A log is folded into a state by `apply`.  Some entries reset the state: what
they leave does not depend on what was there.  A replay that skips entries
reaches the same state as the whole log as long as it keeps every entry that no
later reset wipes out. -/

namespace AgentConsole.Lib

variable {S F : Type*} {apply : S → F → S} {reset keep : F → Bool}

/-- Every entry that no later entry wipes out is kept. -/
def Lasting (reset : F → Bool) (keep : F → Bool) (log : List F) : Prop :=
  ∀ before f after, log = before ++ f :: after → after.all (fun g => !reset g) = true →
    keep f = true

theorem Lasting.init {log : List F} {x : F} (lasting : Lasting reset keep (log ++ [x]))
    (noReset : reset x = false) : Lasting reset keep log := by
  intro before f after split quiet
  refine lasting before f (after ++ [x]) (by rw [split]; simp) ?_
  simp [quiet, noReset]

theorem Lasting.last {log : List F} {x : F} (lasting : Lasting reset keep (log ++ [x])) :
    keep x = true :=
  lasting log x [] rfl rfl

/-- The kept part of a log folds to the same state as the whole log. -/
theorem foldl_filter_of_lasting
    (resets : ∀ f, reset f = true → ∀ s s', apply s f = apply s' f) {log : List F}
    (lasting : Lasting reset keep log) (s : S) :
    (log.filter keep).foldl apply s = log.foldl apply s := by
  induction log using List.reverseRecOn with
  | nil => rfl
  | append_singleton log x inductionHypothesis =>
    rw [List.filter_append, List.foldl_append, List.foldl_append, List.filter_cons,
      if_pos lasting.last, List.filter_nil, List.foldl_cons, List.foldl_nil, List.foldl_cons,
      List.foldl_nil]
    cases isReset : reset x with
    | true => exact resets x isReset _ _
    | false => rw [inductionHypothesis (lasting.init isReset)]

/-- If the log has a reset at all, the start does not matter either. -/
theorem foldl_filter_of_reset
    (resets : ∀ f, reset f = true → ∀ s s', apply s f = apply s' f) {log : List F}
    (lasting : Lasting reset keep log) (some_reset : log.any reset = true) (s s' : S) :
    (log.filter keep).foldl apply s = log.foldl apply s' := by
  induction log using List.reverseRecOn with
  | nil => cases some_reset
  | append_singleton log x inductionHypothesis =>
    rw [List.filter_append, List.foldl_append, List.foldl_append, List.filter_cons,
      if_pos lasting.last, List.filter_nil, List.foldl_cons, List.foldl_nil, List.foldl_cons,
      List.foldl_nil]
    cases isReset : reset x with
    | true => exact resets x isReset _ _
    | false =>
      have earlier : log.any reset = true := by simpa [isReset] using some_reset
      rw [inductionHypothesis (lasting.init isReset) earlier]

/-- Two lists that both increase strictly under `key` and have the same members
are equal. -/
theorem eq_of_strictly_increasing (key : F → Nat) {l l' : List F}
    (left : (l.map key).Pairwise (· < ·)) (right : (l'.map key).Pairwise (· < ·))
    (members : ∀ f, f ∈ l ↔ f ∈ l') : l = l' := by
  have nodup {xs : List F} (increasing : (xs.map key).Pairwise (· < ·)) : xs.Nodup :=
    List.Nodup.of_map key (increasing.imp Nat.ne_of_lt)
  have perm : l.Perm l' := (List.perm_ext_iff_of_nodup (nodup left) (nodup right)).mpr members
  have increasing : l.Pairwise fun a b => key a < key b := List.pairwise_map.mp left
  have increasing' : l'.Pairwise fun a b => key a < key b := List.pairwise_map.mp right
  exact perm.eq_of_pairwise (fun a b _ _ ab ba => by omega) increasing increasing'

end AgentConsole.Lib
