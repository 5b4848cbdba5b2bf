import AgentConsole.Bridge.Catalog

/-! # Walking through the list of sessions

The catalog is a keyset pager over its ordered rows.  A cursor names the time of the last
row as the page shows it, and a time that is NULL, not positive or no date is shown as
none and goes into the cursor as `0`.  What such a cursor selects need not be what
follows the row. -/

namespace AgentConsole.Bridge

open AgentConsole.Lib

/-! ## Cursors -/

theorem takeWhile_colon {digits rest : List Char} (free : ':' ∉ digits) :
    (digits ++ ':' :: rest).takeWhile (· ≠ ':') = digits := by
  rw [List.takeWhile_append_of_pos]
  · simp
  · intro c member
    have other : c ≠ ':' := fun same => free (same ▸ member)
    simpa using other

theorem dropWhile_colon {digits rest : List Char} (free : ':' ∉ digits) :
    (digits ++ ':' :: rest).dropWhile (· ≠ ':') = ':' :: rest := by
  rw [List.dropWhile_append_of_pos]
  · simp
  · intro c member
    have other : c ≠ ':' := fun same => free (same ▸ member)
    simpa using other

theorem splitOnce_append {digits rest : List Char} (free : ':' ∉ digits) :
    splitOnce (digits ++ ':' :: rest) = some (digits, rest) := by
  unfold splitOnce
  rw [if_pos (by simp), takeWhile_colon free, dropWhile_colon free]
  rfl

theorem isDigit_of_mem_toDigits {n : Nat} {c : Char} (member : c ∈ Nat.toDigits 10 n) :
    c.isDigit = true :=
  Nat.isDigit_of_mem_toDigits (by decide) (by decide) member

theorem natural_toDigits (n : Nat) : parseI64.natural (Nat.toDigits 10 n) = some n := by
  unfold parseI64.natural
  rw [if_pos ⟨Nat.toDigits_ne_nil, List.all_eq_true.mpr fun c => isDigit_of_mem_toDigits⟩,
    Nat.ofDigitChars_ten_toDigits]

theorem parseI64_toDigits {n : Nat} (small : n < 2 ^ 63) :
    parseI64 (Nat.toDigits 10 n) = some (n : Int) := by
  have natural := natural_toDigits n
  unfold parseI64
  split
  -- a number starts with no sign
  case h_1 digits signed =>
    have := isDigit_of_mem_toDigits (n := n) (c := '-') (by simp [signed])
    simp at this
  case h_2 digits signed =>
    have := isDigit_of_mem_toDigits (n := n) (c := '+') (by simp [signed])
    simp at this
  case h_3 => simpa [natural] using small

/-- A number of 64 bits is read as it was written. -/
theorem parseI64_toString {n : Int} (least : -2 ^ 63 ≤ n) (greatest : n < 2 ^ 63) :
    parseI64 (toString n).toList = some n := by
  cases n with
  | ofNat n =>
    have digits : (toString (Int.ofNat n)).toList = Nat.toDigits 10 n := by
      simp [toString, Int.repr]
    rw [digits]
    refine parseI64_toDigits ?_
    simp only [Int.ofNat_eq_natCast] at greatest
    omega
  | negSucc n =>
    have digits : (toString (Int.negSucc n)).toList = '-' :: Nat.toDigits 10 (n + 1) := by
      simp [toString, Int.repr]
    have small : n + 1 ≤ 2 ^ 63 := by omega
    rw [digits]
    simp only [parseI64, natural_toDigits, Option.bind_some, if_pos small]
    rfl

/-- The cursor of a thread reads as its time, `0` if it shows none, and its id. -/
theorem parseListCursor_listCursor {thread : CatalogThread} {n : Nat}
    (time : thread.updatedAt.getD 0 = n) (small : n < 2 ^ 63) :
    parseListCursor (Catalog.listCursor thread) = some ((n : Int), thread.id) := by
  have digits : (Catalog.listCursor thread).toList =
      Nat.toDigits 10 n ++ ':' :: thread.id.toList := by
    simp [Catalog.listCursor, time, toString, Int.repr]
  have free : ':' ∉ Nat.toDigits 10 n := by
    intro member
    have := isDigit_of_mem_toDigits member
    simp at this
  simp [parseListCursor, digits, splitOnce_append free, parseI64_toDigits small]

namespace Catalog

/-! ## Rows in their order -/

variable {c : Catalog} {row last : ThreadRow}

theorem ordered_perm (c : Catalog) : c.ordered.Perm c.rows := List.perm_insertionSort _ _

theorem ordered_ids_nodup (c : Catalog) : (c.ordered.map (·.id)).Nodup :=
  ((c.ordered_perm.map _).nodup_iff).mpr c.unique

theorem id_eq_of_sortKey_eq (same : c.sortKey row = c.sortKey last) : row.id = last.id := by
  unfold sortKey at same
  exact congrArg Prod.snd (toLex.injective same)

theorem ordered_pairwise (c : Catalog) :
    c.ordered.Pairwise fun a b => c.sortKey b < c.sortKey a := by
  have total : Std.Total fun a b : ThreadRow => c.sortKey b ≤ c.sortKey a :=
    ⟨fun a b => le_total (c.sortKey b) (c.sortKey a)⟩
  have trans : IsTrans ThreadRow fun a b => c.sortKey b ≤ c.sortKey a :=
    ⟨fun _ _ _ ab bc => le_trans bc ab⟩
  have weak : c.ordered.Pairwise fun a b => c.sortKey b ≤ c.sortKey a :=
    List.pairwise_insertionSort _ _
  have distinct : c.ordered.Pairwise fun a b => a.id ≠ b.id :=
    List.pairwise_map.mp c.ordered_ids_nodup
  refine (weak.and distinct).imp fun ⟨le, ne⟩ => lt_of_le_of_ne le fun same => ?_
  exact ne (id_eq_of_sortKey_eq same).symm

theorem visible_sublist (c : Catalog) (includeArchived : Bool) :
    (c.visible includeArchived).Sublist c.ordered := by
  unfold visible
  split
  · exact List.filter_sublist
  · exact List.nil_sublist _

theorem visible_pairwise (c : Catalog) (includeArchived : Bool) :
    (c.visible includeArchived).Pairwise fun a b => c.sortKey b < c.sortKey a :=
  c.ordered_pairwise.sublist (c.visible_sublist includeArchived)

theorem visible_ids_nodup (c : Catalog) (includeArchived : Bool) :
    ((c.visible includeArchived).map (·.id)).Nodup :=
  c.ordered_ids_nodup.sublist ((c.visible_sublist includeArchived).map _)

theorem sortKey_lt_iff {updated ms : Int} (key : c.updatedMs row = some updated)
    (key' : c.updatedMs last = some ms) :
    c.sortKey row < c.sortKey last ↔ updated < ms ∨ updated = ms ∧ row.id < last.id := by
  unfold sortKey
  rw [Prod.Lex.toLex_lt_toLex, key, key']
  exact or_congr WithBot.coe_lt_coe (and_congr_left' WithBot.coe_inj)

theorem sortKey_null_lt {ms : Int} (key : c.updatedMs row = none)
    (key' : c.updatedMs last = some ms) : c.sortKey row < c.sortKey last := by
  unfold sortKey
  rw [Prod.Lex.toLex_lt_toLex, key, key']
  exact .inl (WithBot.bot_lt_coe ms)

/-! ## What a cursor selects -/

/-- The time in the cursor of a row. -/
def cursorMs (c : Catalog) (row : ThreadRow) : Int :=
  ((c.updatedMs row).bind msToDatetime).getD 0

theorem cursorMs_eq {ms : Int} (key : c.updatedMs row = some ms) (nonneg : 0 ≤ ms)
    (date : ms ≤ maxMillis) : c.cursorMs row = ms := by
  by_cases zero : ms ≤ 0
  · have : ms = 0 := by omega
    simp [cursorMs, key, msToDatetime, this]
  · simp [cursorMs, key, msToDatetime, zero, date]

theorem cursorMs_eq_zero {ms : Int} (key : c.updatedMs row = some ms)
    (undated : ms < 0 ∨ maxMillis < ms) : c.cursorMs row = 0 := by
  by_cases negative : ms ≤ 0
  · simp [cursorMs, key, msToDatetime, negative]
  · have late : ¬ ms ≤ maxMillis := by omega
    simp [cursorMs, key, msToDatetime, negative, late]

theorem cursorMs_range (c : Catalog) (row : ThreadRow) :
    0 ≤ c.cursorMs row ∧ c.cursorMs row ≤ maxMillis := by
  cases key : c.updatedMs row with
  | none => simp [cursorMs, key, maxMillis]
  | some ms =>
    by_cases dated : 0 ≤ ms ∧ ms ≤ maxMillis
    · rw [cursorMs_eq key dated.1 dated.2]
      exact dated
    · rw [cursorMs_eq_zero key (by omega)]
      simp [maxMillis]

theorem selects_iff : c.selects (listCursor (c.thread last)) row = true ↔
    ∃ updated, c.updatedMs row = some updated ∧
      (updated < c.cursorMs last ∨ updated = c.cursorMs last ∧ row.id < last.id) := by
  obtain ⟨low, high⟩ := c.cursorMs_range last
  have time : (c.thread last).updatedAt.getD 0 = ((c.cursorMs last).toNat : Int) := by
    rw [Int.toNat_of_nonneg low]
    rfl
  have small : (c.cursorMs last).toNat < 2 ^ 63 := by
    simp only [maxMillis] at high
    omega
  unfold selects
  rw [parseListCursor_listCursor time small, Int.toNat_of_nonneg low]
  cases c.updatedMs row with
  | none => simp
  | some updated => simp [thread]

/-- The next page can start behind `last`: the rows that follow have a time, and so has
`last`, one that its cursor keeps.  Past the last date the cursor says `0`, which is right
as long as all that follows is below that. -/
def Resumable (c : Catalog) (last : ThreadRow) (after : List ThreadRow) : Prop :=
  (∀ row ∈ after, c.updatedMs row ≠ none) ∧
  ∃ ms, c.updatedMs last = some ms ∧ 0 ≤ ms ∧
    (ms ≤ maxMillis ∨ ∀ row ∈ after, ∀ updated ∈ c.updatedMs row,
      updated < 0 ∨ updated = 0 ∧ row.id < last.id)

section Resume

variable {all before after : List ThreadRow}

/-- What comes before `last` in the order has a greater key, what follows a smaller one. -/
theorem around (sorted : all.Pairwise fun a b => c.sortKey b < c.sortKey a)
    (place : all = before ++ last :: after) :
    (∀ row ∈ before, c.sortKey last < c.sortKey row) ∧
      ∀ row ∈ after, c.sortKey row < c.sortKey last := by
  rw [place, List.pairwise_append, List.pairwise_cons] at sorted
  exact ⟨fun row member => sorted.2.2 row member last (by simp), sorted.2.1.1⟩

theorem updated_of_before {ms : Int} (key : c.updatedMs last = some ms)
    (above : c.sortKey last < c.sortKey row) : ∃ updated, c.updatedMs row = some updated ∧
      (ms < updated ∨ ms = updated ∧ last.id < row.id) := by
  cases key' : c.updatedMs row with
  | none => exact absurd (sortKey_null_lt key' key) (lt_asymm above)
  | some updated => exact ⟨updated, rfl, (sortKey_lt_iff key key').mp above⟩

theorem selected_of_resumable (sorted : all.Pairwise fun a b => c.sortKey b < c.sortKey a)
    (place : all = before ++ last :: after) (resumable : c.Resumable last after) :
    all.filter (c.selects (listCursor (c.thread last))) = after := by
  obtain ⟨timed, ms, key, nonneg, keeps⟩ := resumable
  obtain ⟨above, below⟩ := around sorted place
  have skipsBefore : ∀ row ∈ before, ¬ c.selects (listCursor (c.thread last)) row = true := by
    intro row member selects
    obtain ⟨updated, key', greater⟩ := updated_of_before key (above row member)
    obtain ⟨updated', key'', least⟩ := selects_iff.mp selects
    obtain rfl : updated = updated' := Option.some.inj (key'.symm.trans key'')
    by_cases date : ms ≤ maxMillis
    · rw [cursorMs_eq key nonneg date] at least
      rcases greater with more | ⟨same, less⟩
      · omega
      · exact lt_asymm less (least.resolve_left (by omega)).2
    · rw [cursorMs_eq_zero key (.inr (by omega))] at least
      simp only [maxMillis] at date
      omega
  have skipsLast : ¬ c.selects (listCursor (c.thread last)) last = true := by
    intro selects
    obtain ⟨updated, key', least⟩ := selects_iff.mp selects
    obtain rfl : ms = updated := Option.some.inj (key.symm.trans key')
    by_cases date : ms ≤ maxMillis
    · rw [cursorMs_eq key nonneg date] at least
      exact lt_irrefl _ (least.resolve_left (by omega)).2
    · rw [cursorMs_eq_zero key (.inr (by omega))] at least
      simp only [maxMillis] at date
      omega
  have takesAfter : ∀ row ∈ after, c.selects (listCursor (c.thread last)) row = true := by
    intro row member
    obtain ⟨updated, key'⟩ := Option.ne_none_iff_exists'.mp (timed row member)
    refine selects_iff.mpr ⟨updated, key', ?_⟩
    by_cases date : ms ≤ maxMillis
    · rw [cursorMs_eq key nonneg date]
      exact (sortKey_lt_iff key' key).mp (below row member)
    · rw [cursorMs_eq_zero key (.inr (by omega))]
      exact keeps.resolve_left date row member updated key'
  rw [place, List.filter_append, List.filter_eq_nil_iff.mpr skipsBefore,
    List.filter_cons_of_neg skipsLast, List.filter_eq_self.mpr takesAfter, List.nil_append]

/-- The pager of the rows that a walk over the catalog goes through. -/
abbrev pager (c : Catalog) (limit : Nat) (all : List ThreadRow) :
    Option String → Page ThreadRow String :=
  keyset limit (fun row => listCursor (c.thread row)) c.selects all

variable {limit : Nat} {cursor : Option String} {rest : List ThreadRow}
  {pages : List (List ThreadRow)}

/-- No page behind a cursor shows a row without a time. -/
theorem timed_of_walk
    (walk : Walk (c.pager limit all) (some (listCursor (c.thread last))) pages) :
    ∀ row ∈ pages.flatten, c.updatedMs row ≠ none := by
  refine forall_mem_walk (fun _ row selects => ?_) walk
  obtain ⟨updated, key, -⟩ := selects_iff.mp selects
  simp [key]

/-- If a walk goes on behind `last` with exactly what follows it, then the next page could
start there. -/
theorem resumable_of_walk (sorted : all.Pairwise fun a b => c.sortKey b < c.sortKey a)
    (place : all = before ++ last :: after) (positive : 0 < limit) (goesOn : after ≠ [])
    (walk : Walk (c.pager limit all) (some (listCursor (c.thread last))) pages)
    (flat : pages.flatten = after) : c.Resumable last after := by
  obtain ⟨-, below⟩ := around sorted place
  have timed : ∀ row ∈ after, c.updatedMs row ≠ none := flat ▸ timed_of_walk walk
  obtain ⟨first, others, rfl⟩ := List.exists_cons_of_ne_nil goesOn
  -- the page behind `last` begins with `first`, so its cursor selects `first` before all else
  have head := head_flatten_walk positive walk
  rw [flat] at head
  obtain ⟨tail, rows⟩ : ∃ tail, all.filter (c.selects (listCursor (c.thread last))) = first :: tail := by
    cases rows : all.filter (c.selects (listCursor (c.thread last))) with
    | nil => simp [selected, rows] at head
    | cons found tail =>
      obtain rfl : first = found := by simpa [selected, rows] using head
      exact ⟨tail, rfl⟩
  have firstSelected : c.selects (listCursor (c.thread last)) first = true :=
    (List.mem_filter.mp (rows ▸ List.mem_cons_self)).2
  have leads : ∀ row ∈ all, c.selects (listCursor (c.thread last)) row = true →
      c.sortKey row ≤ c.sortKey first := by
    intro row member selects
    have inside : row ∈ first :: tail := rows ▸ List.mem_filter.mpr ⟨member, selects⟩
    have order : (first :: tail).Pairwise fun a b => c.sortKey b < c.sortKey a :=
      rows ▸ sorted.sublist List.filter_sublist
    rcases List.mem_cons.mp inside with rfl | later
    · exact le_rfl
    · exact ((List.pairwise_cons.mp order).1 row later).le
  have firstBelow := below first (by simp)
  obtain ⟨updated, key, least⟩ := selects_iff.mp firstSelected
  obtain ⟨ms, lastKey⟩ : ∃ ms, c.updatedMs last = some ms := by
    cases lastKey : c.updatedMs last with
    | none => exact absurd (sortKey_null_lt lastKey key) (lt_asymm firstBelow)
    | some ms => exact ⟨ms, rfl⟩
  have nonneg : 0 ≤ ms := by
    by_contra negative
    -- a negative time is below the cursor's `0`, so `last` would come again
    have again : c.selects (listCursor (c.thread last)) last = true := by
      refine selects_iff.mpr ⟨ms, lastKey, .inl ?_⟩
      rw [cursorMs_eq_zero lastKey (.inl (by omega))]
      omega
    exact absurd (leads last (by simp [place]) again) (not_le.mpr firstBelow)
  refine ⟨timed, ms, lastKey, nonneg, ?_⟩
  by_cases date : ms ≤ maxMillis
  · exact .inl date
  · refine .inr fun row member updated' key' => ?_
    rw [cursorMs_eq_zero lastKey (.inr (by omega))] at least
    have order : (first :: others).Pairwise fun a b => c.sortKey b < c.sortKey a := by
      rw [place, List.pairwise_append, List.pairwise_cons] at sorted
      exact sorted.2.1.2
    rcases List.mem_cons.mp member with rfl | later
    · cases key.symm.trans key'
      exact least
    · have lower := (sortKey_lt_iff key' key).mp ((List.pairwise_cons.mp order).1 row later)
      rcases lower with less | ⟨rfl, idLess⟩
      · rcases least with negative | ⟨zero, -⟩ <;> exact .inl (by omega)
      · exact least.imp_right fun ⟨zero, idLess'⟩ => ⟨zero, lt_trans idLess idLess'⟩

/-- The walks that show every row in its place are those whose pages can all be resumed. -/
theorem paged_of_walk (sorted : all.Pairwise fun a b => c.sortKey b < c.sortKey a)
    (positive : 0 < limit) (walk : Walk (c.pager limit all) cursor pages)
    (rows : selected c.selects all cursor = rest) (place : all = before ++ rest)
    (flat : pages.flatten = rest) : Paged limit c.Resumable rest := by
  induction walk generalizing before rest with
  | @last cursor done =>
    by_cases fits : rest.length ≤ limit
    · exact .short fits
    · obtain ⟨front, last, after, rfl, full, goesOn⟩ := exists_page positive (Nat.lt_of_not_le fits)
      rw [pager, keyset_of_page rows full goesOn] at done
      cases done
  | @more cursor cursor' pages goesOn walk inductionHypothesis =>
    by_cases fits : rest.length ≤ limit
    · exact .short fits
    · obtain ⟨front, last, after, rfl, full, follows⟩ := exists_page positive (Nat.lt_of_not_le fits)
      rw [pager, keyset_of_page rows full follows] at goesOn flat
      cases goesOn
      have flat : pages.flatten = after := by simpa using flat
      have place : all = (before ++ front) ++ last :: after := by simp [place]
      have resumable := resumable_of_walk sorted place positive follows walk flat
      have selects := selected_of_resumable sorted place resumable
      have whole : all = (before ++ front ++ [last]) ++ after := by simp [place]
      exact .page full follows resumable (inductionHypothesis selects whole flat)

theorem exists_walk_of_paged (sorted : all.Pairwise fun a b => c.sortKey b < c.sortKey a)
    (paged : Paged limit c.Resumable all) :
    ∃ pages, Walk (c.pager limit all) none pages ∧ pages.flatten = all := by
  refine exists_walk (paged.imp all [] rfl fun before last after place _ resumable => ?_) rfl
  exact selected_of_resumable sorted place resumable

end Resume

theorem listSessions_eq (c : Catalog) (cursor : Option String) (limit : Nat)
    (includeArchived : Bool) : c.listSessions cursor limit includeArchived =
      (c.pager (c.clampPageSize limit) (c.visible includeArchived) cursor).map
        (·.map c.thread) := by
  simp only [listSessions, query, pager, keyset, Page.map, List.take_take, List.length_take,
    Nat.min_eq_left (Nat.le_succ _), List.getLast?_map, Option.map_map]
  congr 1
  by_cases more : c.clampPageSize limit < (selected c.selects (c.visible includeArchived) cursor).length
  · rw [if_pos more, if_pos (by omega)]
    rfl
  · rw [if_neg more, if_neg (by omega)]

theorem clampPageSize_pos (c : Catalog) (limit : Nat) : 0 < c.clampPageSize limit := by
  unfold clampPageSize
  split
  · exact c.defaultPositive
  · have := c.maxPositive
    omega

end Catalog

/-! ## The adapter's pages -/

theorem mem_addKnown {known summaries : List SessionId} {id : SessionId} :
    id ∈ addKnown known summaries ↔ id ∈ summaries ∨ id ∈ known := by
  induction known generalizing summaries with
  | nil => simp [addKnown]
  | cons k rest inductionHypothesis =>
    rw [addKnown, inductionHypothesis]
    by_cases shown : k ∈ summaries
    · rw [if_pos shown, List.mem_cons]
      constructor
      · exact fun member => member.imp_right .inr
      · rintro (old | rfl | later)
        · exact .inl old
        · exact .inl shown
        · exact .inr later
    · rw [if_neg shown]
      simp only [List.mem_append, List.mem_cons, List.not_mem_nil, or_false, or_assoc]

theorem nodup_addKnown {known summaries : List SessionId} (nodup : summaries.Nodup) :
    (addKnown known summaries).Nodup := by
  induction known generalizing summaries with
  | nil => exact nodup
  | cons k rest inductionHypothesis =>
    refine inductionHypothesis ?_
    by_cases shown : k ∈ summaries
    · rwa [if_pos shown]
    · rw [if_neg shown]
      exact List.Nodup.append nodup (by simp) (by simpa using shown)

/-- What is appended was known at runtime and not on the page. -/
theorem addKnown_eq (known summaries : List SessionId) : ∃ added,
    addKnown known summaries = summaries ++ added ∧
      ∀ id ∈ added, id ∈ known ∧ id ∉ summaries := by
  induction known generalizing summaries with
  | nil => exact ⟨[], by simp [addKnown], by simp⟩
  | cons k rest inductionHypothesis =>
    rw [addKnown]
    by_cases shown : k ∈ summaries
    · rw [if_pos shown]
      obtain ⟨added, same, new⟩ := inductionHypothesis summaries
      exact ⟨added, same, fun id member => ⟨.tail _ (new id member).1, (new id member).2⟩⟩
    · rw [if_neg shown]
      obtain ⟨added, same, new⟩ := inductionHypothesis (summaries ++ [k])
      refine ⟨k :: added, by simp [same], fun id member => ?_⟩
      rcases List.mem_cons.mp member with rfl | later
      · exact ⟨.head _, shown⟩
      · obtain ⟨known, absent⟩ := new id later
        exact ⟨.tail _ known, fun old => absent (List.mem_append_left _ old)⟩

namespace CodexSessions

variable {s : CodexSessions} {c : Catalog} {limit : Nat} {includeArchived : Bool}
  {pages : List (List ThreadRow)}

/-- Archived, in a list that is to leave archived threads out. -/
def Hidden (c : Catalog) (includeArchived : Bool) (id : SessionId) : Prop :=
  includeArchived = false ∧ ∃ row ∈ c.rows, row.id = id ∧ row.archived = true

/-- The list is walked through once: every session that is not hidden comes up exactly
once, those of the catalog in its order. -/
def ListsOnce (s : CodexSessions) (c : Catalog) (limit : Nat) (includeArchived : Bool) : Prop :=
  ∃ pages, Walk (s.listSessions limit includeArchived) none pages ∧
    pages.flatten.Nodup ∧
    (∀ id, id ∈ pages.flatten ↔ ¬ Hidden c includeArchived id ∧
      (id ∈ (c.visible true).map (·.id) ∨ id ∈ s.known)) ∧
    pages.flatten.filter (· ∈ (c.visible includeArchived).map (·.id)) =
      (c.visible includeArchived).map (·.id)

/-- No session known at runtime is hidden, and either one page holds the catalog, or
nothing is known at runtime and every page can be resumed. -/
def Walkable (s : CodexSessions) (c : Catalog) (limit : Nat) (includeArchived : Bool) : Prop :=
  (∀ id ∈ s.known, ¬ Hidden c includeArchived id) ∧
  ((c.visible includeArchived).length ≤ c.clampPageSize limit ∨
    s.known = [] ∧ Paged (c.clampPageSize limit) c.Resumable (c.visible includeArchived))

theorem mem_visible {row : ThreadRow} : row ∈ c.visible includeArchived ↔
    c.sessionsListable = true ∧ row ∈ c.rows ∧ (includeArchived = true ∨ row.archived = false) := by
  unfold Catalog.visible
  split
  case isTrue listable => simp [listable, c.ordered_perm.mem_iff]
  case isFalse unlistable => simp [unlistable]

/-- The rows of a list are those of the catalog that are not hidden. -/
theorem mem_visible_ids {id : SessionId} : id ∈ (c.visible includeArchived).map (·.id) ↔
    ¬ Hidden c includeArchived id ∧ id ∈ (c.visible true).map (·.id) := by
  simp only [List.mem_map, mem_visible]
  constructor
  · rintro ⟨row, ⟨listable, member, shown⟩, rfl⟩
    refine ⟨?_, row, ⟨listable, member, .inl trivial⟩, rfl⟩
    rintro ⟨leavesOut, other, member', same, archived⟩
    obtain rfl : other = row := List.inj_on_of_nodup_map c.unique member' member same
    simp [leavesOut, archived] at shown
  · rintro ⟨shown, row, ⟨listable, member, -⟩, rfl⟩
    refine ⟨row, ⟨listable, member, ?_⟩, rfl⟩
    by_contra neither
    simp only [not_or, Bool.not_eq_true, Bool.not_eq_false] at neither
    exact shown ⟨neither.1, row, member, rfl, neither.2⟩

/-- What the adapter makes of a page of the catalog. -/
abbrev shownOn (s : CodexSessions) (rows : List ThreadRow) : List SessionId :=
  addKnown s.known (rows.map (·.id))

theorem listSessions_eq_map (catalog : s.catalog = some c) :
    s.listSessions limit includeArchived = fun cursor =>
      (c.pager (c.clampPageSize limit) (c.visible includeArchived) cursor).map s.shownOn := by
  funext cursor
  simp [listSessions, catalog, Catalog.listSessions_eq, Page.map, Catalog.thread, Function.comp_def]

theorem listsOnce_of_short (catalog : s.catalog = some c)
    (shown : ∀ id ∈ s.known, ¬ Hidden c includeArchived id)
    (fits : (c.visible includeArchived).length ≤ c.clampPageSize limit) :
    s.ListsOnce c limit includeArchived := by
  have page : c.pager (c.clampPageSize limit) (c.visible includeArchived) none =
      ⟨c.visible includeArchived, none⟩ := keyset_of_short rfl fits
  have walk : Walk (c.pager (c.clampPageSize limit) (c.visible includeArchived)) none
      [(c.pager (c.clampPageSize limit) (c.visible includeArchived) none).items] :=
    .last (by rw [page])
  rw [page] at walk
  refine ⟨_, listSessions_eq_map catalog ▸ walk.map s.shownOn, ?_⟩
  simp only [List.map_cons, List.map_nil, List.flatten_cons, List.flatten_nil, List.append_nil]
  refine ⟨nodup_addKnown (c.visible_ids_nodup includeArchived), fun id => ?_, ?_⟩
  · rw [mem_addKnown, mem_visible_ids]
    constructor
    · rintro (⟨unhidden, listed⟩ | known)
      · exact ⟨unhidden, .inl listed⟩
      · exact ⟨shown id known, .inr known⟩
    · rintro ⟨unhidden, listed | known⟩
      · exact .inl ⟨unhidden, listed⟩
      · exact .inr known
  · obtain ⟨added, same, new⟩ := addKnown_eq s.known ((c.visible includeArchived).map (·.id))
    rw [shownOn, same, List.filter_append, List.filter_eq_self.mpr (by simp),
      List.filter_eq_nil_iff.mpr (by simpa using fun id member => (new id member).2),
      List.append_nil]

theorem flatten_shownOn_nil (nothing : s.known = []) (pages : List (List ThreadRow)) :
    (pages.map s.shownOn).flatten = pages.flatten.map (·.id) := by
  have plain : s.shownOn = List.map (·.id) := by
    funext rows
    simp [shownOn, nothing, addKnown]
  rw [plain, List.map_flatten]

theorem listsOnce_of_paged (catalog : s.catalog = some c) (nothing : s.known = [])
    (paged : Paged (c.clampPageSize limit) c.Resumable (c.visible includeArchived)) :
    s.ListsOnce c limit includeArchived := by
  obtain ⟨pages, walk, flat⟩ :=
    Catalog.exists_walk_of_paged (c.visible_pairwise includeArchived) paged
  refine ⟨_, listSessions_eq_map catalog ▸ walk.map s.shownOn, ?_⟩
  rw [flatten_shownOn_nil nothing, flat]
  refine ⟨c.visible_ids_nodup includeArchived, fun id => ?_, List.filter_eq_self.mpr (by simp)⟩
  rw [mem_visible_ids, nothing]
  simp

/-- A session known at runtime is on every page. -/
theorem known_on_pages {id : SessionId} (known : id ∈ s.known) (rows : List ThreadRow) :
    id ∈ s.shownOn rows :=
  mem_addKnown.mpr (.inr known)

theorem unknown_of_nodup (walk : Walk (c.pager limit (c.visible includeArchived)) none pages)
    (positive : 0 < limit) (more : limit < (c.visible includeArchived).length)
    (nodup : (pages.map s.shownOn).flatten.Nodup) : s.known = [] := by
  obtain ⟨front, last, after, rows, full, goesOn⟩ := exists_page positive more
  have page : c.pager limit (c.visible includeArchived) none =
      ⟨front ++ [last], some (Catalog.listCursor (c.thread last))⟩ :=
    keyset_of_page rows full goesOn
  refine List.eq_nil_iff_forall_not_mem.mpr fun id known => ?_
  cases walk with
  | last done =>
    rw [page] at done
    cases done
  | more next rest =>
    -- there is a second page, and the session is on both
    obtain ⟨second, others, rfl⟩ := List.exists_cons_of_ne_nil rest.ne_nil
    simp only [List.map_cons, List.flatten_cons] at nodup
    refine (List.nodup_append.mp nodup).2.2 id (known_on_pages known _) id ?_ rfl
    exact List.mem_append_left _ (known_on_pages known second)

theorem eq_of_ids_eq {rows rows' : List ThreadRow} (inside : ∀ row ∈ rows, row ∈ c.rows)
    (inside' : ∀ row ∈ rows', row ∈ c.rows) (same : rows.map (·.id) = rows'.map (·.id)) :
    rows = rows' := by
  induction rows generalizing rows' with
  | nil => simpa using same.symm
  | cons row rest inductionHypothesis =>
    cases rows' with
    | nil => simp at same
    | cons row' rest' =>
      simp only [List.map_cons, List.cons.injEq] at same
      obtain rfl : row = row' := List.inj_on_of_nodup_map c.unique (inside row (by simp))
        (inside' row' (by simp)) same.1
      rw [inductionHypothesis (fun row member => inside row (.tail _ member))
        (fun row member => inside' row (.tail _ member)) same.2]

theorem walkable_of_listsOnce (catalog : s.catalog = some c)
    (once : s.ListsOnce c limit includeArchived) : s.Walkable c limit includeArchived := by
  obtain ⟨shown, walked, nodup, members, order⟩ := once
  rw [listSessions_eq_map catalog] at walked
  obtain ⟨pages, walk, rfl⟩ := walked.of_map
  have positive := c.clampPageSize_pos limit
  constructor
  · intro id known
    obtain ⟨first, others, rfl⟩ := List.exists_cons_of_ne_nil walk.ne_nil
    refine ((members id).mp ?_).1
    exact List.mem_append_left _ (known_on_pages known first)
  by_cases fits : (c.visible includeArchived).length ≤ c.clampPageSize limit
  · exact .inl fits
  have nothing := unknown_of_nodup walk positive (by omega) nodup
  rw [flatten_shownOn_nil nothing] at members order
  have listed : ∀ id ∈ pages.flatten.map (·.id), id ∈ (c.visible includeArchived).map (·.id) := by
    intro id member
    obtain ⟨unhidden, listed | known⟩ := (members id).mp member
    · exact mem_visible_ids.mpr ⟨unhidden, listed⟩
    · simp [nothing] at known
  rw [List.filter_eq_self.mpr (by simpa using listed)] at order
  have flat : pages.flatten = c.visible includeArchived :=
    eq_of_ids_eq (fun row member => (mem_visible.mp (mem_of_walk walk row member)).2.1)
      (fun row member => (mem_visible.mp member).2.1) order
  exact .inr ⟨nothing, Catalog.paged_of_walk (c.visible_pairwise includeArchived) positive walk
    rfl (List.nil_append _).symm flat⟩

/-- Following the cursors to the end lists every session once and in order exactly if no
session known at runtime is archived in a list without archived ones, and either one page
holds the whole catalog, or nothing is known at runtime and every page but the last ends
in a row the next page can start from. -/
theorem listsOnce_iff_walkable (s : CodexSessions) (c : Catalog) (catalog : s.catalog = some c)
    (limit : Nat) (includeArchived : Bool) :
    s.ListsOnce c limit includeArchived ↔ s.Walkable c limit includeArchived := by
  refine ⟨walkable_of_listsOnce catalog, ?_⟩
  rintro ⟨shown, fits | ⟨nothing, paged⟩⟩
  · exact listsOnce_of_short catalog shown fits
  · exact listsOnce_of_paged catalog nothing paged

def threeThreads : Catalog where
  rows := [⟨"a", some 1, none, false⟩, ⟨"b", some 3, none, false⟩, ⟨"c", some 2, none, false⟩]
  unique := by decide

theorem listsOnce_iff_walkable_threeThreads :
    (⟨some threeThreads, [], [], by decide⟩ : CodexSessions).ListsOnce threeThreads 2 false := by
  refine (listsOnce_iff_walkable _ threeThreads rfl 2 false).mpr ⟨by simp, .inr ⟨rfl, ?_⟩⟩
  have rows : threeThreads.visible false = [⟨"b", some 3, none, false⟩] ++
      ⟨"c", some 2, none, false⟩ :: [⟨"a", some 1, none, false⟩] := by decide
  have size : threeThreads.clampPageSize 2 = 2 := rfl
  rw [rows, size]
  refine .page rfl (by simp) ⟨by decide, 2000, rfl, by decide, .inl (by decide)⟩ (.short ?_)
  decide

/-- A session that is known at runtime comes up on both pages of the catalog. -/
theorem known_session_repeated :
    ¬ (⟨some threeThreads, [], ["a"], by decide⟩ : CodexSessions).ListsOnce threeThreads 2 false := by
  intro once
  obtain ⟨-, fits | ⟨nothing, -⟩⟩ := walkable_of_listsOnce rfl once
  · exact absurd fits (by decide)
  · cases nothing

end CodexSessions

end AgentConsole.Bridge
