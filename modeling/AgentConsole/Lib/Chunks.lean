import Mathlib.Data.List.Basic

/-! # Readers that take their input in chunks

A reader takes items from the front of what has arrived.  When what it makes of the front is
not changed by what arrives later, neither how the input was cut nor when the reader was asked
shows in what it yields. -/

namespace AgentConsole.Lib

/-- What stands at the front of the input: too little to tell, an item, or nonsense. -/
inductive Front (α β ε : Type) where
  | wait
  | item (value : β) (rest : List α)
  | fail (error : ε)

/-- A way of reading the front that later input does not change. -/
structure Reader (α β ε : Type) where
  front : List α → Front α β ε
  item_append : ∀ {xs value rest}, front xs = .item value rest →
    ∀ more, front (xs ++ more) = .item value (rest ++ more)
  fail_append : ∀ {xs error}, front xs = .fail error → ∀ more, front (xs ++ more) = .fail error
  shorter : ∀ {xs value rest}, front xs = .item value rest → rest.length < xs.length

namespace Reader

variable {α β ε : Type} (r : Reader α β ε)

/-- All items of an input, and the error that ends them. -/
def all (xs : List α) : List β × Option ε :=
  match _h : r.front xs with
  | .wait => ([], none)
  | .fail error => ([], some error)
  | .item value rest => (value :: (all rest).1, (all rest).2)
termination_by xs.length
decreasing_by all_goals exact r.shorter _h

variable {r} {xs rest : List α} {value : β} {error : ε}

/-- The items of an input by what stands at its front. -/
theorem all_eq (xs : List α) : r.all xs =
    match r.front xs with
    | .wait => ([], none)
    | .fail error => ([], some error)
    | .item value rest => (value :: (r.all rest).1, (r.all rest).2) := by
  rw [all]
  split <;> simp_all

theorem all_of_wait (front : r.front xs = .wait) : r.all xs = ([], none) := by
  rw [all_eq, front]

theorem all_of_fail (front : r.front xs = .fail error) : r.all xs = ([], some error) := by
  rw [all_eq, front]

theorem all_of_item (front : r.front xs = .item value rest) :
    r.all xs = (value :: (r.all rest).1, (r.all rest).2) := by
  rw [all_eq, front]

end Reader

/-! ## Machines -/

inductive ReaderCall (α : Type) where
  | push (chunk : List α)
  | next

/-- What a list of calls pushes. -/
def ReaderCall.pushed {α : Type} : List (ReaderCall α) → List α
  | [] => []
  | .push chunk :: rest => chunk ++ pushed rest
  | .next :: rest => pushed rest

/-- A machine that keeps the input it has not read, and reads it as `r` does.  It may notice
an error when a chunk arrives, if nothing stands before it. -/
structure Machine {α β ε : Type} (r : Reader α β ε) (σ : Type) where
  unread : σ → List α
  push : σ → List α → σ × Except ε Unit
  next : σ → σ × Except ε (Option β)
  push_ok : ∀ {s chunk}, (push s chunk).2 = .ok () → unread (push s chunk).1 = unread s ++ chunk
  push_error : ∀ {s chunk error}, (push s chunk).2 = .error error →
    r.front (unread s ++ chunk) = .fail error
  next_item : ∀ {s value}, (next s).2 = .ok (some value) →
    r.front (unread s) = .item value (unread (next s).1)
  next_wait : ∀ {s}, (next s).2 = .ok none →
    r.front (unread s) = .wait ∧ unread (next s).1 = unread s
  next_error : ∀ {s error}, (next s).2 = .error error → r.front (unread s) = .fail error

namespace Machine

variable {α β ε σ : Type} {r : Reader α β ε} (m : Machine r σ)

/-- Calls in order, up to the first error: the items they yield, and the error or the state
that is left. -/
def run : σ → List (ReaderCall α) → List β × Except ε σ
  | s, [] => ([], .ok s)
  | s, .push chunk :: rest =>
    match (m.push s chunk).2 with
    | .ok _ => run (m.push s chunk).1 rest
    | .error error => ([], .error error)
  | s, .next :: rest =>
    match (m.next s).2 with
    | .ok value => (value.toList ++ (run (m.next s).1 rest).1, (run (m.next s).1 rest).2)
    | .error error => ([], .error error)

/-- What is still to come after a run. -/
def remaining : Except ε σ → List β × Option ε
  | .ok s => r.all (m.unread s)
  | .error error => ([], some error)

/-- A run ends as the input does: waiting for more, or with the error. -/
def Ends : Except ε σ → Option ε → Prop
  | .ok left, ending => ending = none ∧ r.front (m.unread left) = .wait
  | .error error, ending => ending = some error

variable {m}

theorem run_push (s : σ) (chunk : List α) (rest : List (ReaderCall α)) :
    m.run s (.push chunk :: rest) =
      match (m.push s chunk).2 with
      | .ok _ => m.run (m.push s chunk).1 rest
      | .error error => ([], .error error) := rfl

theorem run_next (s : σ) (rest : List (ReaderCall α)) :
    m.run s (.next :: rest) =
      match (m.next s).2 with
      | .ok value =>
        (value.toList ++ (m.run (m.next s).1 rest).1, (m.run (m.next s).1 rest).2)
      | .error error => ([], .error error) := rfl

theorem run_push_ok {s : σ} {chunk : List α} (rest : List (ReaderCall α))
    (ok : (m.push s chunk).2 = .ok ()) :
    m.run s (.push chunk :: rest) = m.run (m.push s chunk).1 rest := by
  rw [run_push, ok]

theorem run_push_error {s : σ} {chunk : List α} {error : ε} (rest : List (ReaderCall α))
    (fails : (m.push s chunk).2 = .error error) :
    m.run s (.push chunk :: rest) = ([], .error error) := by
  rw [run_push, fails]

theorem run_next_ok {s : σ} {value : Option β} (rest : List (ReaderCall α))
    (ok : (m.next s).2 = .ok value) :
    m.run s (.next :: rest) =
      (value.toList ++ (m.run (m.next s).1 rest).1, (m.run (m.next s).1 rest).2) := by
  rw [run_next, ok]

theorem run_next_error {s : σ} {error : ε} (rest : List (ReaderCall α))
    (fails : (m.next s).2 = .error error) :
    m.run s (.next :: rest) = ([], .error error) := by
  rw [run_next, fails]

/-- One call for an item takes it from the front. -/
theorem all_next {s : σ} {value : Option β} (ok : (m.next s).2 = .ok value) (more : List α) :
    r.all (m.unread s ++ more) = (value.toList ++ (r.all (m.unread (m.next s).1 ++ more)).1,
      (r.all (m.unread (m.next s).1 ++ more)).2) := by
  cases value with
  | none => simp [(m.next_wait ok).2]
  | some value => simp [Reader.all_of_item (r.item_append (m.next_item ok) more)]

/-- **Chunks do not show**: what a run yields, and then what is still to come, is what the
whole input has. -/
theorem run_all (s : σ) (calls : List (ReaderCall α)) :
    r.all (m.unread s ++ ReaderCall.pushed calls) =
      ((m.run s calls).1 ++ (m.remaining (m.run s calls).2).1,
        (m.remaining (m.run s calls).2).2) := by
  induction calls generalizing s with
  | nil => simp [run, remaining, ReaderCall.pushed]
  | cons call rest inductionHypothesis =>
    cases call with
    | push chunk =>
      rw [ReaderCall.pushed, ← List.append_assoc]
      cases pushes : (m.push s chunk).2 with
      | ok done =>
        rw [run_push_ok rest pushes, ← m.push_ok pushes]
        exact inductionHypothesis _
      | error error =>
        rw [run_push_error rest pushes]
        exact Reader.all_of_fail (r.fail_append (m.push_error pushes) _)
    | next =>
      rw [ReaderCall.pushed]
      cases asks : (m.next s).2 with
      | ok value =>
        rw [run_next_ok rest asks, all_next asks, inductionHypothesis, List.append_assoc]
      | error error =>
        rw [run_next_error rest asks]
        exact Reader.all_of_fail (r.fail_append (m.next_error asks) _)

/-- Asking more often than there are items gets them all, and then to the end. -/
theorem run_next_all {n : Nat} {s : σ} (enough : (r.all (m.unread s)).1.length < n) :
    (m.run s (List.replicate n .next)).1 = (r.all (m.unread s)).1 ∧
      m.Ends (m.run s (List.replicate n .next)).2 (r.all (m.unread s)).2 := by
  induction n generalizing s with
  | zero => exact absurd enough (Nat.not_lt_zero _)
  | succ n inductionHypothesis =>
    rw [List.replicate_succ]
    cases asks : (m.next s).2 with
    | error error =>
      rw [run_next_error _ asks, Reader.all_of_fail (m.next_error asks)]
      exact ⟨rfl, rfl⟩
    | ok value =>
      have front := all_next asks []
      rw [List.append_nil, List.append_nil] at front
      rw [front] at enough ⊢
      rw [run_next_ok _ asks]
      cases value with
      | some value =>
        have later := inductionHypothesis (s := (m.next s).1) (by simpa using enough)
        exact ⟨congrArg ([value] ++ ·) later.1, later.2⟩
      | none =>
        -- nothing more can come: every later call waits as well
        obtain ⟨waits, same⟩ := m.next_wait asks
        have empty : r.all (m.unread (m.next s).1) = ([], none) := by
          rw [same]; exact Reader.all_of_wait waits
        cases n with
        | zero =>
          rw [empty]
          exact ⟨rfl, rfl, by simpa [run, same] using waits⟩
        | succ n =>
          have later := inductionHypothesis (s := (m.next s).1) (by simp [empty])
          exact ⟨congrArg ([] ++ ·) later.1, later.2⟩

theorem run_append (s : σ) (a b : List (ReaderCall α)) :
    m.run s (a ++ b) =
      match (m.run s a).2 with
      | .ok left => ((m.run s a).1 ++ (m.run left b).1, (m.run left b).2)
      | .error error => ((m.run s a).1, .error error) := by
  induction a generalizing s with
  | nil => rfl
  | cons call rest inductionHypothesis =>
    cases call with
    | push chunk =>
      cases pushes : (m.push s chunk).2 with
      | ok done =>
        rw [List.cons_append, run_push_ok _ pushes, run_push_ok _ pushes, inductionHypothesis]
      | error error =>
        rw [List.cons_append, run_push_error _ pushes, run_push_error _ pushes]
    | next =>
      cases asks : (m.next s).2 with
      | ok value =>
        rw [List.cons_append, run_next_ok _ asks, run_next_ok _ asks, inductionHypothesis]
        cases (m.run (m.next s).1 rest).2 with
        | ok left => simp
        | error error => rfl
      | error error =>
        rw [List.cons_append, run_next_error _ asks, run_next_error _ asks]

/-- Calls that push an input yield a part of what it has. -/
theorem run_part (s : σ) (calls : List (ReaderCall α)) :
    (m.run s calls).1 <+: (r.all (m.unread s ++ ReaderCall.pushed calls)).1 := by
  rw [run_all]
  exact List.prefix_append _ _

/-- **Any chunks, any order of calls**: with enough calls at the end, a run yields what the
input has, and ends in the input's error or waiting for more. -/
theorem run_complete {n : Nat} (s : σ) (calls : List (ReaderCall α))
    (enough : (r.all (m.unread s ++ ReaderCall.pushed calls)).1.length < n) :
    (m.run s (calls ++ List.replicate n .next)).1 =
        (r.all (m.unread s ++ ReaderCall.pushed calls)).1 ∧
      m.Ends (m.run s (calls ++ List.replicate n .next)).2
        (r.all (m.unread s ++ ReaderCall.pushed calls)).2 := by
  rw [run_all] at enough ⊢
  rw [run_append]
  cases early : (m.run s calls).2 with
  | error error => exact ⟨(List.append_nil _).symm, rfl⟩
  | ok left =>
    rw [early] at enough
    have fewer : (r.all (m.unread left)).1.length < n := by
      simp only [remaining, List.length_append] at enough
      omega
    obtain ⟨items, ends⟩ := run_next_all fewer
    exact ⟨congrArg (_ ++ ·) items, ends⟩

end Machine

end AgentConsole.Lib
