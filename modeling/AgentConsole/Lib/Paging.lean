import Mathlib

/-! # Walking through pages

A pager answers a cursor with a page and the cursor of the next one.  `Walk` collects the
pages until there is no further cursor.  A keyset pager makes the cursor from the last
item of a page and selects what comes after it; it walks through its list once if that
selection is right wherever a page ends. -/

namespace AgentConsole.Lib

variable {α β γ : Type*}

structure Page (α γ : Type*) where
  items : List α
  next : Option γ

def Page.map (f : List α → List β) (page : Page α γ) : Page β γ where
  items := f page.items
  next := page.next

/-- Following the cursors from `c` to the end yields these pages. -/
inductive Walk (fetch : Option γ → Page α γ) : Option γ → List (List α) → Prop
  | last {c : Option γ} (done : (fetch c).next = none) : Walk fetch c [(fetch c).items]
  | more {c : Option γ} {c' : γ} {pages : List (List α)} (goesOn : (fetch c).next = some c')
      (rest : Walk fetch (some c') pages) : Walk fetch c ((fetch c).items :: pages)

namespace Walk

variable {fetch : Option γ → Page α γ} {c : Option γ} {pages : List (List α)}

theorem map (walk : Walk fetch c pages) (f : List α → List β) :
    Walk (fun c => (fetch c).map f) c (pages.map f) := by
  induction walk with
  | last done => exact .last done
  | more goesOn rest inductionHypothesis => exact .more goesOn inductionHypothesis

theorem of_map {f : List α → List β} {shown : List (List β)}
    (walk : Walk (fun c => (fetch c).map f) c shown) :
    ∃ pages, Walk fetch c pages ∧ shown = pages.map f := by
  induction walk with
  | last done => exact ⟨_, .last done, rfl⟩
  | more goesOn rest inductionHypothesis =>
    obtain ⟨pages, walk, rfl⟩ := inductionHypothesis
    exact ⟨_, .more goesOn walk, rfl⟩

theorem ne_nil (walk : Walk fetch c pages) : pages ≠ [] := by
  cases walk <;> simp

end Walk

/-! ## Keyset pagination -/

/-- Every page but the last ends in an item that `P` relates to what follows it. -/
inductive Paged (limit : Nat) (P : α → List α → Prop) : List α → Prop
  | short {items : List α} (fits : items.length ≤ limit) : Paged limit P items
  | page {front after : List α} {last : α} (full : front.length + 1 = limit)
      (goesOn : after ≠ []) (holds : P last after) (rest : Paged limit P after) :
      Paged limit P (front ++ last :: after)

theorem Paged.imp {limit : Nat} {P Q : α → List α → Prop} {items : List α}
    (paged : Paged limit P items) (all : List α) (before : List α) (same : all = before ++ items)
    (implies : ∀ before last after, all = before ++ last :: after → after ≠ [] → P last after →
      Q last after) : Paged limit Q items := by
  induction paged generalizing before with
  | short fits => exact .short fits
  | @page front after last full goesOn holds rest inductionHypothesis =>
    refine .page full goesOn (implies (before ++ front) last after (by simp [same]) goesOn holds) ?_
    exact inductionHypothesis (before ++ front ++ [last]) (by simp [same])

variable (limit : Nat) (cursor : α → γ) (select : γ → α → Bool) (all : List α)

def selected : Option γ → List α
  | none => all
  | some c => all.filter (select c)

def keyset (c : Option γ) : Page α γ where
  items := (selected select all c).take limit
  next :=
    if limit < (selected select all c).length then
      ((selected select all c).take limit).getLast?.map cursor
    else none

variable {limit cursor select all} {c : Option γ} {rest : List α}

theorem keyset_of_short (rows : selected select all c = rest) (fits : rest.length ≤ limit) :
    keyset limit cursor select all c = ⟨rest, none⟩ := by
  simp [keyset, rows, List.take_of_length_le fits, Nat.not_lt.mpr fits]

theorem keyset_of_page {front after : List α} {last : α}
    (rows : selected select all c = front ++ last :: after) (full : front.length + 1 = limit)
    (goesOn : after ≠ []) :
    keyset limit cursor select all c = ⟨front ++ [last], some (cursor last)⟩ := by
  have more : limit < (selected select all c).length := by
    have := List.length_pos_iff.mpr goesOn
    rw [rows, List.length_append, List.length_cons]
    omega
  have taken : (selected select all c).take limit = front ++ [last] := by
    rw [rows, List.append_cons, List.take_left' (by simpa using full)]
  unfold keyset
  rw [taken, if_pos more]
  simp

theorem exists_of_next {c' : γ} (goesOn : (keyset limit cursor select all c).next = some c') :
    ∃ last, c' = cursor last := by
  unfold keyset at goesOn
  split at goesOn
  · obtain ⟨last, -, rfl⟩ := Option.map_eq_some_iff.mp goesOn
    exact ⟨last, rfl⟩
  · cases goesOn

/-- A walk begins with the first selected item. -/
theorem head_flatten_walk {pages : List (List α)} (positive : 0 < limit)
    (walk : Walk (keyset limit cursor select all) c pages) :
    pages.flatten.head? = (selected select all c).head? := by
  have here : (keyset limit cursor select all c).items.head? = (selected select all c).head? := by
    rw [keyset, List.head?_take, if_neg (by omega)]
  cases walk with
  | last done => simpa using here
  | more goesOn rest =>
    rw [List.flatten_cons, List.head?_append, here]
    cases rows : selected select all c with
    | nil => simp [keyset, rows] at goesOn
    | cons first others => simp

/-- Behind the cursor of an item, pages show selected items only. -/
theorem forall_mem_walk {P : α → Prop} (selects : ∀ last x, select (cursor last) x = true → P x)
    {last : α} {pages : List (List α)}
    (walk : Walk (keyset limit cursor select all) (some (cursor last)) pages) :
    ∀ x ∈ pages.flatten, P x := by
  have here (last x) (member : x ∈ (keyset limit cursor select all (some (cursor last))).items) :
      P x :=
    selects last x (List.mem_filter.mp (List.mem_of_mem_take member)).2
  generalize start : some (cursor last) = c at walk
  induction walk generalizing last with
  | last done =>
    subst start
    simpa using here last
  | more goesOn rest inductionHypothesis =>
    subst start
    obtain ⟨next, rfl⟩ := exists_of_next goesOn
    intro x member
    rcases List.mem_append.mp (List.flatten_cons ▸ member) with now | later
    · exact here last x now
    · exact inductionHypothesis rfl x later

/-- A pager shows items of its list only. -/
theorem mem_of_walk {pages : List (List α)} (walk : Walk (keyset limit cursor select all) c pages) :
    ∀ x ∈ pages.flatten, x ∈ all := by
  have here (c : Option γ) (x : α) (member : x ∈ (keyset limit cursor select all c).items) :
      x ∈ all := by
    have chosen := List.mem_of_mem_take member
    cases c with
    | none => exact chosen
    | some c => exact List.mem_of_mem_filter chosen
  induction walk with
  | last done => simpa using here _
  | more goesOn rest inductionHypothesis =>
    intro x member
    rcases List.mem_append.mp (List.flatten_cons ▸ member) with now | later
    · exact here _ x now
    · exact inductionHypothesis x later

/-- A list of more than one page ends its first one somewhere. -/
theorem exists_page {items : List α} (positive : 0 < limit) (more : limit < items.length) :
    ∃ front last after, items = front ++ last :: after ∧ front.length + 1 = limit ∧
      after ≠ [] := by
  have inside : limit - 1 < items.length := by omega
  refine ⟨items.take (limit - 1), items[limit - 1], items.drop (limit - 1 + 1), ?_, ?_, ?_⟩
  · rw [← List.drop_eq_getElem_cons inside, List.take_append_drop]
  · rw [List.length_take]
    omega
  · exact List.ne_nil_of_length_pos (by rw [List.length_drop]; omega)

/-- If the cursor of every page selects what follows it, the walk yields every item in
its place. -/
theorem exists_walk (paged : Paged limit (fun last after => all.filter (select (cursor last)) = after)
    rest) (rows : selected select all c = rest) :
    ∃ pages, Walk (keyset limit cursor select all) c pages ∧ pages.flatten = rest := by
  induction paged generalizing c with
  | short fits =>
    have page : keyset limit cursor select all c = _ := keyset_of_short rows fits
    exact ⟨_, .last (by rw [page]), by simp [page]⟩
  | page full goesOn resumes _ inductionHypothesis =>
    have page : keyset limit cursor select all c = _ := keyset_of_page rows full goesOn
    obtain ⟨pages, walk, flat⟩ := inductionHypothesis (c := some _) resumes
    exact ⟨_, .more (by rw [page]) walk, by simp [page, flat]⟩

end AgentConsole.Lib
