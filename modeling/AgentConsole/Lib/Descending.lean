import AgentConsole.Lib.Paging

/-! # Pages in descending order

A pager asks its source for what lies below the last row it has shown, greatest first.  Rows
of one key come in any order, and maybe in another one each time.  The walk always ends and
descends; it shows every row exactly when no page ends between two rows of one key. -/

namespace AgentConsole.Lib

variable {α γ κ : Type*} [LinearOrder κ]

/-- A page of the rows a source has behind a cursor. -/
def paginate (limit : Nat) (cursor : α → γ) (rows : Option γ → List α) (c : Option γ) : Page α γ where
  items := (rows c).take limit
  next := if limit < (rows c).length then ((rows c).take limit).getLast?.map cursor else none

/-- The source has all rows at first, and below a row those of a smaller key. -/
structure Descending (key : α → κ) (cursor : α → γ) (all : List α) (rows : Option γ → List α) :
    Prop where
  first : (rows none).Perm all
  first_sorted : (rows none).Pairwise fun a b => key b ≤ key a
  next : ∀ last ∈ all, (rows (some (cursor last))).Perm (all.filter fun x => key x < key last)
  next_sorted : ∀ last ∈ all, (rows (some (cursor last))).Pairwise fun a b => key b ≤ key a

/-- No page but the last ends in a key that comes again. -/
abbrev PagedKeys (limit : Nat) (keys : List κ) : Prop :=
  Paged limit (fun last after => ∀ k ∈ after, k < last) keys

theorem paged_append_iff {limit : Nat} {P : α → List α → Prop} {front after : List α} {last : α}
    (full : front.length + 1 = limit) (goesOn : after ≠ []) :
    Paged limit P (front ++ last :: after) ↔ P last after ∧ Paged limit P after := by
  constructor
  · intro paged
    generalize same : front ++ last :: after = items at paged
    cases paged with
    | short fits =>
      have more := List.length_pos_iff.mpr goesOn
      rw [← same, List.length_append, List.length_cons] at fits
      omega
    | @page front' after' last' full' _ holds rest =>
      obtain ⟨rfl, tail⟩ := List.append_inj same (by omega)
      obtain ⟨rfl, rfl⟩ := List.cons.inj tail
      exact ⟨holds, rest⟩
  · intro ⟨holds, rest⟩
    exact .page full goesOn holds rest

/-- With keys that all differ every page ends well. -/
theorem pagedKeys_of_strict {limit : Nat} (positive : 0 < limit) (keys : List κ)
    (strict : keys.Pairwise fun a b => b < a) : PagedKeys limit keys := by
  induction length : keys.length using Nat.strongRecOn generalizing keys with
  | _ n inductionHypothesis =>
    rcases Nat.lt_or_ge limit keys.length with more | fits
    · obtain ⟨front, last, after, rfl, full, goesOn⟩ := exists_page positive more
      have tail := List.pairwise_cons.mp (List.pairwise_append.mp strict).2.1
      refine .page full goesOn tail.1 (inductionHypothesis after.length ?_ after tail.2 rfl)
      rw [← length, List.length_append, List.length_cons]
      omega
    · exact .short fits

namespace Descending

variable {key : α → κ} {cursor : α → γ} {all : List α} {rows : Option γ → List α} {limit : Nat}
  {c : Option γ} {pages : List (List α)}

/-- The cursors a walk comes to. -/
def Reached (cursor : α → γ) (all : List α) (c : Option γ) : Prop :=
  c = none ∨ ∃ last ∈ all, c = some (cursor last)

variable (source : Descending key cursor all rows)
include source

theorem sorted (reached : Reached cursor all c) : (rows c).Pairwise fun a b => key b ≤ key a := by
  rcases reached with rfl | ⟨last, member, rfl⟩
  · exact source.first_sorted
  · exact source.next_sorted last member

theorem mem_all (reached : Reached cursor all c) {x : α} (member : x ∈ rows c) : x ∈ all := by
  rcases reached with rfl | ⟨last, inside, rfl⟩
  · exact source.first.mem_iff.mp member
  · exact List.mem_of_mem_filter ((source.next last inside).mem_iff.mp member)

/-- Below a row that is shown are those rows of the page's source that have a smaller key. -/
theorem below (reached : Reached cursor all c) {last : α} (member : last ∈ rows c) :
    (rows (some (cursor last))).Perm ((rows c).filter fun x => key x < key last) := by
  refine (source.next last (source.mem_all reached member)).trans ?_
  rcases reached with rfl | ⟨earlier, inside, rfl⟩
  · exact (source.first.filter _).symm
  · have within := source.next earlier inside
    have smaller : key last < key earlier := by
      simpa using List.of_mem_filter (within.mem_iff.mp member)
    have same : (all.filter fun x => key x < key earlier).filter (fun x => key x < key last) =
        all.filter fun x => key x < key last := by
      rw [List.filter_filter]
      refine List.filter_congr fun x _ => ?_
      rw [Bool.eq_iff_iff]
      simp only [Bool.and_eq_true, decide_eq_true_eq]
      exact ⟨fun both => both.1, fun less => ⟨less, less.trans smaller⟩⟩
    rw [← same]
    exact (within.filter _).symm

theorem below_append (reached : Reached cursor all c) {front after : List α} {last : α}
    (split : rows c = front ++ last :: after) :
    (rows (some (cursor last))).Perm (after.filter fun x => key x < key last) := by
  have sorted := source.sorted reached
  rw [split, List.pairwise_append] at sorted
  have before : front.filter (fun x => decide (key x < key last)) = [] := by
    rw [List.filter_eq_nil_iff]
    intro x member
    simpa using sorted.2.2 x member last List.mem_cons_self
  have inside : last ∈ rows c := by simp [split]
  have here := source.below reached inside
  rwa [split, List.filter_append, before, List.nil_append, List.filter_cons_of_neg (by simp)] at here

/-- What stands at a cursor with more rows than a page has. -/
theorem page (reached : Reached cursor all c) (positive : 0 < limit)
    (more : limit < (rows c).length) :
    ∃ front last after, rows c = front ++ last :: after ∧ front.length + 1 = limit ∧ after ≠ [] ∧
      paginate limit cursor rows c = ⟨front ++ [last], some (cursor last)⟩ ∧
      Reached cursor all (some (cursor last)) ∧
      (rows (some (cursor last))).Perm (after.filter fun x => key x < key last) := by
  obtain ⟨front, last, after, split, full, goesOn⟩ := exists_page positive more
  have taken : (rows c).take limit = front ++ [last] := by
    rw [split, List.append_cons, List.take_left' (by simpa using full)]
  have inside : last ∈ rows c := by simp [split]
  refine ⟨front, last, after, split, full, goesOn, ?_, ?_, source.below_append reached split⟩
  · unfold paginate
    rw [taken, if_pos more]
    simp
  · exact .inr ⟨last, source.mem_all reached inside, rfl⟩

omit source in
theorem page_of_short (fits : (rows c).length ≤ limit) :
    paginate limit cursor rows c = ⟨rows c, none⟩ := by
  simp [paginate, List.take_of_length_le fits, Nat.not_lt.mpr fits]

/-- The walk ends. -/
theorem exists_walk (positive : 0 < limit) (reached : Reached cursor all c) :
    ∃ pages, Walk (paginate limit cursor rows) c pages := by
  induction length : (rows c).length using Nat.strongRecOn generalizing c with
  | _ n inductionHypothesis =>
    rcases Nat.lt_or_ge limit (rows c).length with more | fits
    · obtain ⟨front, last, after, split, full, goesOn, page, next, below⟩ :=
        source.page reached positive more
      have shorter : (rows (some (cursor last))).length < n := by
        rw [← length, split, below.length_eq, List.length_append, List.length_cons]
        have less := List.length_filter_le (fun x => decide (key x < key last)) after
        omega
      obtain ⟨pages, walk⟩ := inductionHypothesis _ shorter next rfl
      exact ⟨_, .more (by rw [page]) walk⟩
    · exact ⟨_, .last (by rw [page_of_short fits])⟩

/-- A walk shows no row twice, and none that is not in the source. -/
theorem walk_subperm (positive : 0 < limit) (reached : Reached cursor all c)
    (walk : Walk (paginate limit cursor rows) c pages) : pages.flatten.Subperm (rows c) := by
  induction walk with
  | last done => simpa [paginate] using (List.take_sublist _ _).subperm
  | @more c c' pages goesOn rest inductionHypothesis =>
    rcases Nat.lt_or_ge limit (rows c).length with more | fits
    · obtain ⟨front, last, after, split, full, -, page, next, below⟩ :=
        source.page reached positive more
      rw [page] at goesOn ⊢
      cases goesOn
      have later := (inductionHypothesis next).trans below.subperm
      have inside := later.trans List.filter_sublist.subperm
      rw [List.flatten_cons, split, List.append_cons front last after]
      exact (List.subperm_append_left _).mpr inside
    · rw [page_of_short fits] at goesOn
      cases goesOn

/-- A walk descends. -/
theorem walk_sorted (positive : 0 < limit) (reached : Reached cursor all c)
    (walk : Walk (paginate limit cursor rows) c pages) :
    pages.flatten.Pairwise fun a b => key b ≤ key a := by
  induction walk with
  | last done => simpa [paginate] using (source.sorted reached).sublist (List.take_sublist _ _)
  | @more c c' pages goesOn rest inductionHypothesis =>
    rcases Nat.lt_or_ge limit (rows c).length with more | fits
    · obtain ⟨front, last, after, split, full, -, page, next, below⟩ :=
        source.page reached positive more
      rw [page] at goesOn ⊢
      cases goesOn
      have sorted := source.sorted reached
      rw [split, List.append_cons, List.pairwise_append] at sorted
      rw [List.flatten_cons, List.pairwise_append]
      refine ⟨sorted.1, inductionHypothesis next, ?_⟩
      intro a shown b member
      have later : b ∈ after :=
        List.mem_of_mem_filter (below.mem_iff.mp ((source.walk_subperm positive next rest).subset member))
      exact sorted.2.2 a shown b later
    · rw [page_of_short fits] at goesOn
      cases goesOn

omit source in
theorem keys_eq {a b : List α} (perm : a.Perm b) (sortedA : a.Pairwise fun x y => key y ≤ key x)
    (sortedB : b.Pairwise fun x y => key y ≤ key x) : a.map key = b.map key := by
  have orderedA : (a.map key).Pairwise fun x y => y ≤ x := List.pairwise_map.mpr sortedA
  have orderedB : (b.map key).Pairwise fun x y => y ≤ x := List.pairwise_map.mpr sortedB
  exact (perm.map key).eq_of_pairwise (fun x y _ _ first second => le_antisymm second first)
    orderedA orderedB

/-- A walk shows every row exactly when no page ends between rows of one key. -/
theorem walk_perm_iff (positive : 0 < limit) (reached : Reached cursor all c)
    (walk : Walk (paginate limit cursor rows) c pages) :
    pages.flatten.Perm (rows c) ↔ PagedKeys limit ((rows c).map key) := by
  induction walk with
  | @last c done =>
    rcases Nat.lt_or_ge limit (rows c).length with more | fits
    · obtain ⟨front, last, after, -, -, -, page, -⟩ := source.page reached positive more
      rw [page] at done
      cases done
    · rw [page_of_short fits]
      simpa using Paged.short (by simpa using fits)
  | @more c c' pages goesOn rest inductionHypothesis =>
    rcases Nat.lt_or_ge limit (rows c).length with more | fits
    · obtain ⟨front, last, after, split, full, goesOn', page, next, below⟩ :=
        source.page reached positive more
      rw [page] at goesOn ⊢
      cases goesOn
      have sorted := source.sorted reached
      rw [split] at sorted
      have afterSorted := (List.pairwise_cons.mp (List.pairwise_append.mp sorted).2.1).2
      have shown := source.walk_subperm positive next rest
      have perms : ((front ++ [last]) :: pages).flatten.Perm (front ++ last :: after) ↔
          pages.flatten.Perm after := by
        rw [List.flatten_cons, List.append_cons front last after, List.perm_append_left_iff]
      rw [split, perms, PagedKeys, List.map_append, List.map_cons,
        paged_append_iff (by simpa using full) (by simpa using goesOn')]
      constructor
      · intro perm
        have all_ : after.filter (fun x => decide (key x < key last)) = after := by
          have long : after.length ≤ (after.filter fun x => decide (key x < key last)).length := by
            rw [← perm.length_eq, ← below.length_eq]
            exact shown.length_le
          exact List.filter_sublist.eq_of_length_le long
        rw [all_] at below
        refine ⟨?_, ?_⟩
        · intro k member
          obtain ⟨x, inside, rfl⟩ := List.mem_map.mp member
          rw [← all_] at inside
          simpa using (List.mem_filter.mp inside).2
        · rw [← keys_eq below (source.sorted next) afterSorted]
          exact (inductionHypothesis next).mp (perm.trans below.symm)
      · intro ⟨smaller, paged⟩
        have all_ : after.filter (fun x => decide (key x < key last)) = after := by
          rw [List.filter_eq_self]
          intro x member
          simpa using smaller (key x) (List.mem_map_of_mem member)
        rw [all_] at below
        rw [← keys_eq below (source.sorted next) afterSorted] at paged
        exact ((inductionHypothesis next).mpr paged).trans below
    · rw [page_of_short fits] at goesOn
      cases goesOn

/-- Requests that follow the cursors from `c` to the end, and none of them fails. -/
inductive Requests {ε : Type*} (request : Option γ → Except ε (Page α γ)) :
    Option γ → List (List α) → Prop
  | last {c : Option γ} {page : Page α γ} (answered : request c = .ok page) (done : page.next = none) :
      Requests request c [page.items]
  | more {c : Option γ} {c' : γ} {page : Page α γ} {pages : List (List α)}
      (answered : request c = .ok page) (goesOn : page.next = some c')
      (rest : Requests request (some c') pages) : Requests request c (page.items :: pages)

omit [LinearOrder κ] source in
theorem reached_next (inside : ∀ x ∈ rows c, x ∈ all) {c' : γ}
    (goesOn : (paginate limit cursor rows c).next = some c') : Reached cursor all (some c') := by
  unfold paginate at goesOn
  split at goesOn
  · obtain ⟨last, shown, rfl⟩ := Option.map_eq_some_iff.mp goesOn
    exact .inr ⟨last, inside last (List.mem_of_mem_take (List.mem_of_getLast? shown)), rfl⟩
  · cases goesOn

theorem requests_of_walk {ε : Type*} {request : Option γ → Except ε (Page α γ)}
    (answers : ∀ c, Reached cursor all c → request c = .ok (paginate limit cursor rows c))
    (reached : Reached cursor all c) (walk : Walk (paginate limit cursor rows) c pages) :
    Requests request c pages := by
  induction walk with
  | last done => exact .last (answers _ reached) done
  | more goesOn rest inductionHypothesis =>
    have next := reached_next (fun x => source.mem_all reached) goesOn
    exact .more (answers _ reached) goesOn (inductionHypothesis next)

/-- If no two rows have one key, requests that are answered so show all rows in their order. -/
theorem exists_requests {ε : Type*} {request : Option γ → Except ε (Page α γ)}
    (positive : 0 < limit) (distinct : (all.map key).Nodup)
    (answers : ∀ c, Reached cursor all c → request c = .ok (paginate limit cursor rows c)) :
    ∃ pages, Requests request none pages ∧ pages.flatten.Perm all ∧
      pages.flatten.Pairwise fun a b => key b < key a := by
  have start : Reached cursor all none := .inl rfl
  obtain ⟨pages, walk⟩ := source.exists_walk positive start
  have nodup : ((rows none).map key).Nodup := (source.first.map key).nodup_iff.mpr distinct
  have strict : ((rows none).map key).Pairwise fun a b => b < a :=
    (List.pairwise_map.mpr source.first_sorted).imp₂ (fun _ _ le ne => lt_of_le_of_ne le ne.symm) nodup
  have shown := (source.walk_perm_iff positive start walk).mpr (pagedKeys_of_strict positive _ strict)
  refine ⟨pages, source.requests_of_walk answers start walk, shown.trans source.first, ?_⟩
  have sorted := source.walk_sorted positive start walk
  have apart : pages.flatten.Pairwise fun a b => key a ≠ key b :=
    List.pairwise_map.mp ((shown.map key).nodup_iff.mpr nodup)
  exact sorted.imp₂ (fun _ _ le ne => lt_of_le_of_ne le ne.symm) apart

end Descending

end AgentConsole.Lib
