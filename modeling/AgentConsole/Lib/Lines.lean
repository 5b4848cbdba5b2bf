import Mathlib

/-! # Lines

A sequence is cut after every separator.  A line keeps its separator; what follows the last
separator is a line of its own, without one. -/

namespace AgentConsole.Lib

variable {α : Type} [DecidableEq α] (sep : α)

def lines : List α → List (List α)
  | [] => []
  | x :: rest =>
    if x = sep then [x] :: lines rest
    else
      match lines rest with
      | [] => [[x]]
      | line :: more => (x :: line) :: more

/-- What stands before the first separator, and what follows it if there is one. -/
def takeLine : List α → List α × Option (List α)
  | [] => ([], none)
  | x :: rest => if x = sep then ([], some rest) else ((x :: (takeLine rest).1), (takeLine rest).2)

variable {sep} {front rest xs : List α}

theorem lines_append_sep (free : sep ∉ front) (rest : List α) :
    lines sep (front ++ sep :: rest) = (front ++ [sep]) :: lines sep rest := by
  induction front with
  | nil => simp [lines]
  | cons x tail inductionHypothesis =>
    simp only [List.mem_cons, not_or] at free
    obtain ⟨other, free⟩ := free
    rw [List.cons_append, lines, if_neg (Ne.symm other), inductionHypothesis free]
    rfl

theorem lines_of_free (free : sep ∉ front) (present : front ≠ []) : lines sep front = [front] := by
  induction front with
  | nil => exact absurd rfl present
  | cons x tail inductionHypothesis =>
    simp only [List.mem_cons, not_or] at free
    obtain ⟨other, free⟩ := free
    rw [lines, if_neg (Ne.symm other)]
    cases tail with
    | nil => rfl
    | cons y tail => rw [inductionHypothesis free (by simp)]

theorem takeLine_some (taken : takeLine sep xs = (front, some rest)) :
    xs = front ++ sep :: rest ∧ sep ∉ front := by
  induction xs generalizing front with
  | nil => cases taken
  | cons x tail inductionHypothesis =>
    rw [takeLine] at taken
    split at taken
    · cases taken
      subst x
      simp
    · rename_i other
      obtain ⟨rfl, here⟩ := Prod.mk.inj taken
      obtain ⟨split, free⟩ := inductionHypothesis (Prod.ext rfl here)
      refine ⟨?_, ?_⟩
      · rw [List.cons_append, ← split]
      · simp only [List.mem_cons, not_or]
        exact ⟨Ne.symm other, free⟩

theorem takeLine_none (taken : takeLine sep xs = (front, none)) : front = xs ∧ sep ∉ xs := by
  induction xs generalizing front with
  | nil =>
    cases taken
    simp
  | cons x tail inductionHypothesis =>
    rw [takeLine] at taken
    split at taken
    · cases taken
    · rename_i other
      obtain ⟨rfl, here⟩ := Prod.mk.inj taken
      obtain ⟨same, free⟩ := inductionHypothesis (Prod.ext rfl here)
      refine ⟨?_, ?_⟩
      · exact congrArg (x :: ·) same
      · simp only [List.mem_cons, not_or]
        exact ⟨Ne.symm other, free⟩

theorem takeLine_append (free : sep ∉ front) (rest : List α) :
    takeLine sep (front ++ sep :: rest) = (front, some rest) := by
  induction front with
  | nil => simp [takeLine]
  | cons x tail inductionHypothesis =>
    simp only [List.mem_cons, not_or] at free
    obtain ⟨other, free⟩ := free
    rw [List.cons_append, takeLine, if_neg (Ne.symm other), inductionHypothesis free]

end AgentConsole.Lib
