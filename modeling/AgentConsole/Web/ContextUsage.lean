import AgentConsole.Web.Patch
import AgentConsole.Web.SnapshotAgree

/-! # The token usage read back from its text

A timeline holds a token usage only as the text of a commentary.  `applyContextUsage` finds
that commentary by its author and takes the two numbers out of its text again. -/

namespace AgentConsole.Web

open AgentConsole.Lib AgentConsole.Wire AgentConsole.SessionJson
open AgentConsole.Lib.Json
open Patch (numberOf numberOf_toDigits)

/-! ## The reader -/

namespace Usage

/-- `\s` -/
def isSpace (c : Char) : Bool :=
  c.toNat ∈ [0x09, 0x0a, 0x0b, 0x0c, 0x0d, 0x20, 0xa0, 0x1680, 0x2028, 0x2029, 0x202f, 0x205f,
    0x3000, 0xfeff] || (0x2000 ≤ c.toNat && c.toNat ≤ 0x200a)

/-- `[\d,]` -/
def isGrouped (c : Char) : Bool := c.isDigit || c = ','

/-- `([\d,]+)\s*\/\s*([\d,]+)` at the front.  The classes are apart, so no repetition has
anything to give back. -/
def usageHere (text : List Char) : Option (List Char × List Char) :=
  let used := text.takeWhile isGrouped
  match (text.dropWhile isGrouped).dropWhile isSpace with
  | '/' :: rest =>
    let window := (rest.dropWhile isSpace).takeWhile isGrouped
    if used = [] ∨ window = [] then none else some (used, window)
  | _ => none

/-- The first place where it matches. -/
def usageText : List Char → Option (List Char × List Char)
  | [] => none
  | c :: rest => (usageHere (c :: rest)).or (usageText rest)

/-- `Number(text.replace(/,/g, '')) || fallback`; `none` is `Infinity`. -/
def numberOr (text : List Char) (fallback : Nat) : Option Nat :=
  let number := numberOf (text.filter (· ≠ ','))
  if number = some 0 then some fallback else number

end Usage

/-- The two numbers of a runtime that the reader sets. -/
structure ContextUsage where
  contextUsed : Option Nat
  contextWindow : Option Nat
  deriving DecidableEq, Repr

/-- `上下文` -/
def usageAuthor : String := "上下文"

/-- One round of the loop: `none` goes on to the item before. -/
def TimelineItem.usage : TimelineItem → Option ContextUsage
  | .commentary _ _ author body =>
    if author ≠ usageAuthor then none
    else (Usage.usageText body.toList).map fun (used, window) =>
      ⟨Usage.numberOr used 0, Usage.numberOr window 1⟩
  | _ => none

/-- The loop runs from the last item to the first and stops at the first text that matches. -/
def applyContextUsage (timeline : List TimelineItem) (runtime : ContextUsage) : ContextUsage :=
  (timeline.reverse.findSome? TimelineItem.usage).getD runtime

/-! ## Timelines -/

/-- A browser's way to write a natural number: its decimal digits in groups, with one
separator between two groups. -/
structure Locale where
  separator : Char
  groups : Nat → List (List Char)
  digits : ∀ n, (groups n).flatten = Nat.toDigits 10 n
  filled : ∀ n, ∀ group ∈ groups n, group ≠ []
  visible : separator.isDigit = false
  unslashed : separator ≠ '/'

def Locale.text (locale : Locale) (n : Nat) : List Char :=
  [locale.separator].intercalate (locale.groups n)

def Locale.toLocaleString (locale : Locale) (n : Nat) : String := String.ofList (locale.text n)

/-- How an item came into the timeline. -/
inductive Source where
  | http (turn : Option TurnId)
  | stream
  deriving DecidableEq, Repr

/-- What the source makes of an integer on the wire. -/
def Source.number : Source → Nat → Nat
  | .http _ => Binary64.round
  | .stream => Binary64.clamp

/-- An item with its source and the id drawn for it, should it have none. -/
structure Entry where
  item : Item
  source : Source
  randomUUID : String
  deriving DecidableEq, Repr

section Timeline

variable (locale : Locale) (sessionId : String)

def Entry.shown (entry : Entry) : Option TimelineItem :=
  match entry.source with
  | .http turn =>
    mapHistoryEntryJson Binary64.round locale.toLocaleString entry.randomUUID
      (historyEntryJson ⟨turn, some entry.item⟩) sessionId
  | .stream =>
    mapItemProto Binary64.clamp locale.toLocaleString entry.randomUUID entry.item sessionId

def timelineOf (entries : List Entry) : List TimelineItem :=
  entries.filterMap (·.shown locale sessionId)

/-- What the reader finds in the item of an entry. -/
def Entry.read (entry : Entry) : Option ContextUsage :=
  (entry.shown locale sessionId).bind TimelineItem.usage

def Entry.tokens (entry : Entry) : Option TokenUsage :=
  match entry.item.content with
  | some (.tokenUsage usage) => some usage
  | _ => none

/-- The entry whose text the reader takes. -/
def taken (entries : List Entry) : Option Entry :=
  entries.reverse.find? fun entry => (entry.read locale sessionId).isSome

def lastUsage (entries : List Entry) : Option Entry :=
  entries.reverse.find? (·.tokens.isSome)

/-- The entries behind the last token usage, last first. -/
def behindUsage (entries : List Entry) : List Entry :=
  entries.reverse.takeWhile fun entry => !entry.tokens.isSome

/-- Only a token usage is ever taken for one, and the counts of the last one come back. -/
structure Recovers (runtime : ContextUsage) (entries : List Entry) : Prop where
  genuine : ∀ entry ∈ taken locale sessionId entries, entry.tokens.isSome
  exactly : ∀ entry ∈ lastUsage entries, ∀ usage ∈ entry.tokens,
    applyContextUsage (timelineOf locale sessionId entries) runtime =
      ⟨some usage.contextUsedTokens, some usage.contextWindowTokens⟩

/-! ## When the numbers survive -/

/-- A tool call that is named and summarized like a token usage. -/
def Entry.Poses (entry : Entry) : Prop :=
  ∃ call, entry.item.content = some (.toolCall call) ∧ call.name = usageAuthor ∧
    (Usage.usageText call.summary.toList).isSome

/-- The number shown for a count is the count. -/
def Source.Holds (source : Source) (count : Nat) : Prop :=
  Patch.number (source.number count) = some count

/-- A text the pattern takes whole. -/
def Locale.Whole (n : Nat) : Prop := locale.separator = ',' ∨ (locale.groups n).length = 1

structure Legible (source : Source) (usage : TokenUsage) : Prop where
  used : source.Holds usage.contextUsedTokens
  window : source.Holds usage.contextWindowTokens
  open_ : usage.contextWindowTokens ≠ 0
  usedWhole : locale.Whole (source.number usage.contextUsedTokens)
  windowWhole : locale.Whole (source.number usage.contextWindowTokens)

end Timeline

/-! ## The pattern -/

namespace Usage

theorem isGrouped_of_isDigit {c : Char} (digit : c.isDigit = true) : isGrouped c = true := by
  simp [isGrouped, digit]

/-- No character of a number is white space. -/
theorem isSpace_of_isGrouped {c : Char} (grouped : isGrouped c = true) : isSpace c = false := by
  have range : c.toNat = 44 ∨ (48 ≤ c.toNat ∧ c.toNat ≤ 57) := by
    simp only [isGrouped, Char.isDigit, Bool.or_eq_true, Bool.and_eq_true, decide_eq_true_eq]
      at grouped
    rcases grouped with ⟨lower, upper⟩ | comma
    · right
      exact ⟨lower, upper⟩
    · left
      subst comma
      rfl
  simp only [isSpace, List.mem_cons, List.not_mem_nil, or_false, Bool.or_eq_false_iff,
    Bool.and_eq_false_iff, decide_eq_false_iff_not]
  omega

theorem ne_slash_of_isGrouped {c : Char} (grouped : isGrouped c = true) : c ≠ '/' := by
  rintro rfl
  exact absurd grouped (by decide)

theorem isGrouped_of_isSpace {c : Char} (space : isSpace c = true) : isGrouped c = false := by
  by_contra grouped
  have := isSpace_of_isGrouped (by simpa using grouped)
  simp [this] at space

variable {used window before between tail : List Char}

/-- The run of a class that ends where the text does or where the next character is outside. -/
theorem span_run {p : Char → Bool} (run : ∀ c ∈ used, p c = true)
    (stops : ∀ c ∈ tail.head?, p c = false) :
    (used ++ tail).takeWhile p = used ∧ (used ++ tail).dropWhile p = tail := by
  have stop : tail.takeWhile p = [] ∧ tail.dropWhile p = tail := by
    cases tail with
    | nil => simp
    | cons c tail => simp [stops c rfl]
  simp [List.takeWhile_append_of_pos run, List.dropWhile_append_of_pos run, stop]

theorem usageHere_of_empty {text : List Char} (none_ : text.takeWhile isGrouped = []) :
    usageHere text = none := by
  unfold usageHere
  split <;> simp [none_]

/-- Two numbers around a slash are found whole, whatever white space is around the slash. -/
theorem usageHere_match {spaces spaces' : List Char}
    (usedRun : ∀ c ∈ used, isGrouped c = true) (someUsed : used ≠ [])
    (blank : ∀ c ∈ spaces, isSpace c = true) (blank' : ∀ c ∈ spaces', isSpace c = true)
    (windowRun : ∀ c ∈ window, isGrouped c = true) (someWindow : window ≠ [])
    (stops : ∀ c ∈ tail.head?, isGrouped c = false) :
    usageHere (used ++ (spaces ++ '/' :: (spaces' ++ (window ++ tail)))) = some (used, window) := by
  have numberStops : ∀ c ∈ (spaces ++ '/' :: (spaces' ++ (window ++ tail))).head?,
      isGrouped c = false := by
    intro c first
    cases spaces with
    | nil =>
      obtain rfl : '/' = c := by simpa using first
      decide
    | cons s spaces =>
      obtain rfl : s = c := by simpa using first
      exact isGrouped_of_isSpace (blank s (by simp))
  have slashStops : ∀ c ∈ ('/' :: (spaces' ++ (window ++ tail))).head?, isSpace c = false := by
    intro c first
    obtain rfl : '/' = c := by simpa using first
    decide
  have secondStops : ∀ c ∈ (window ++ tail).head?, isSpace c = false := by
    intro c first
    obtain ⟨d, window, rfl⟩ := List.exists_cons_of_ne_nil someWindow
    obtain rfl : d = c := by simpa using first
    exact isSpace_of_isGrouped (windowRun d (by simp))
  have number := span_run usedRun numberStops
  have slash := span_run blank slashStops
  have second := span_run blank' secondStops
  have last := span_run (p := isGrouped) windowRun stops
  simp [usageHere, number, slash, second, last, someUsed, someWindow]

theorem usageText_of_here {text : List Char} {found : List Char × List Char}
    (here : usageHere text = some found) : usageText text = some found := by
  cases text with
  | nil => simp [usageHere] at here
  | cons c rest => simp [usageText, here]

/-- The pattern is found exactly where two numbers stand around a slash. -/
theorem usageText_isSome_iff (text : List Char) :
    (usageText text).isSome ↔
      ∃ before used spaces spaces' window after,
        text = before ++ (used ++ (spaces ++ '/' :: (spaces' ++ (window ++ after)))) ∧
        used ≠ [] ∧ window ≠ [] ∧
        (∀ c ∈ used, isGrouped c = true) ∧ (∀ c ∈ window, isGrouped c = true) ∧
        (∀ c ∈ spaces, isSpace c = true) ∧ ∀ c ∈ spaces', isSpace c = true := by
  constructor
  · intro found
    induction text with
    | nil => simp [usageText] at found
    | cons c rest ih =>
      rw [usageText] at found
      cases here : usageHere (c :: rest) with
      | none =>
        obtain ⟨before, parts⟩ := ih (by simpa [here] using found)
        obtain ⟨used, spaces, spaces', window, after, rfl, parts⟩ := parts
        exact ⟨c :: before, used, spaces, spaces', window, after, rfl, parts⟩
      | some pair =>
        -- the four runs the match consists of, from the left
        generalize c :: rest = text at here ⊢
        simp only [usageHere] at here
        split at here
        next rest slash =>
          split at here
          next => simp at here
          next filled =>
            rw [not_or] at filled
            refine ⟨[], text.takeWhile isGrouped, (text.dropWhile isGrouped).takeWhile isSpace,
              rest.takeWhile isSpace, (rest.dropWhile isSpace).takeWhile isGrouped,
              (rest.dropWhile isSpace).dropWhile isGrouped, ?_, filled.1, filled.2,
              fun c member => List.mem_takeWhile_imp member,
              fun c member => List.mem_takeWhile_imp member,
              fun c member => List.mem_takeWhile_imp member,
              fun c member => List.mem_takeWhile_imp member⟩
            rw [List.takeWhile_append_dropWhile, List.takeWhile_append_dropWhile, ← slash,
              List.takeWhile_append_dropWhile, List.takeWhile_append_dropWhile, List.nil_append]
        next => simp at here
  · rintro ⟨before, used, spaces, spaces', window, after, rfl, someUsed, someWindow, usedRun,
      windowRun, blank, blank'⟩
    induction before with
    | nil =>
      -- the second number goes on into what follows it
      have longer : ∀ c ∈ window ++ after.takeWhile isGrouped, isGrouped c = true := by
        intro c member
        rcases List.mem_append.mp member with inside | behind
        · exact windowRun c inside
        · exact List.mem_takeWhile_imp behind
      have stops : ∀ c ∈ (after.dropWhile isGrouped).head?, isGrouped c = false := by
        intro c first
        have := List.head?_dropWhile_not isGrouped after
        rw [Option.mem_def.mp first] at this
        simpa using this
      have here :=
        usageHere_match usedRun someUsed blank blank' longer (by simp [someWindow]) stops
      rw [List.append_assoc, List.takeWhile_append_dropWhile] at here
      simp [usageText_of_here here]
    | cons c before ih =>
      simp only [List.cons_append, usageText]
      cases usageHere (c :: (before ++ (used ++ (spaces ++ '/' :: (spaces' ++ (window ++ after))))))
      · simpa using ih
      · simp

/-- A group with another one behind it is passed over. -/
theorem usageText_skip {separator d : Char} {group rest : List Char}
    (digits : ∀ c ∈ group, c.isDigit = true) (outside : isGrouped separator = false)
    (unslashed : separator ≠ '/') (digit : d.isDigit = true) :
    usageText (group ++ separator :: d :: rest) = usageText (d :: rest) := by
  have next : ∀ c ∈ ((separator :: d :: rest).dropWhile isSpace).head?, c ≠ '/' := by
    intro c first
    by_cases space : isSpace separator = true
    · have solid := isSpace_of_isGrouped (isGrouped_of_isDigit digit)
      obtain rfl : d = c := by simpa [space, solid] using first
      exact ne_slash_of_isGrouped (isGrouped_of_isDigit digit)
    · obtain rfl : separator = c := by simpa [space] using first
      exact unslashed
  induction group with
  | nil =>
    have here : usageHere (separator :: d :: rest) = none :=
      usageHere_of_empty (by simp [outside])
    simp [usageText, here]
  | cons c group ih =>
    have grouped : ∀ c' ∈ c :: group, isGrouped c' = true :=
      fun c' member => isGrouped_of_isDigit (digits c' member)
    have stops : ∀ c' ∈ (separator :: d :: rest).head?, isGrouped c' = false := by simp [outside]
    have run := span_run grouped stops
    have here : usageHere (c :: group ++ separator :: d :: rest) = none := by
      unfold usageHere
      rw [run.2]
      split
      next behind slash => exact absurd rfl (next '/' (by simp [slash]))
      next => rfl
    rw [List.cons_append] at here ⊢
    rw [usageText, here, Option.none_or]
    exact ih fun c member => digits c (List.mem_cons_of_mem _ member)

end Usage

/-! ## Groups of digits -/

theorem number_some {n m : Nat} (exact_ : Patch.number n = some m) : m = Binary64.round n := by
  unfold Patch.number at exact_
  split at exact_
  · exact (Option.some.inj exact_).symm
  · simp at exact_

theorem ofDigitChars_lt {digits : List Char} (isDigit : ∀ c ∈ digits, c.isDigit = true) :
    Nat.ofDigitChars 10 digits 0 < 10 ^ digits.length := by
  induction digits using List.reverseRecOn with
  | nil => simp
  | append_singleton front c ih =>
    have digit : c.toNat - '0'.toNat < 10 := by
      have := isDigit c (by simp)
      simp only [Char.isDigit, Bool.and_eq_true, decide_eq_true_eq] at this
      have upper : c.toNat ≤ 57 := this.2
      simp only [Char.reduceToNat]
      omega
    have bound := ih fun d member => isDigit d (by simp [member])
    simp only [Nat.ofDigitChars_append, Nat.ofDigitChars_cons, Nat.ofDigitChars_nil,
      List.length_append, List.length_singleton, Nat.pow_succ]
    omega

/-- A part of the digits counts for less than half of a number, which has two digits then. -/
theorem part_lt {n : Nat} {front back : List Char} (digits : front ++ back = Nat.toDigits 10 n)
    (someFront : front ≠ []) (someBack : back ≠ []) :
    10 ≤ n ∧ 2 * Nat.ofDigitChars 10 front 0 < n ∧ 2 * Nat.ofDigitChars 10 back 0 < n := by
  have isDigit : ∀ c ∈ front ++ back, c.isDigit = true := by
    intro c member
    rw [digits] at member
    exact Nat.isDigit_of_mem_toDigits (by decide) (by decide) member
  have value : 10 ^ back.length * Nat.ofDigitChars 10 front 0 + Nat.ofDigitChars 10 back 0 = n := by
    rw [← Nat.ofDigitChars_eq_ofDigitChars_zero, ← Nat.ofDigitChars_append, digits,
      Nat.ofDigitChars_ten_toDigits]
  have low := ofDigitChars_lt fun c member => isDigit c (List.mem_append_right _ member)
  -- the first digit is not zero, or the number would have fewer digits
  have large : 10 ^ back.length ≤ n := by
    by_contra small
    have short := (Nat.length_toDigits_le_iff (n := n) (b := 10) (by decide)
      (List.length_pos_iff.mpr someBack)).mpr (by omega)
    rw [← digits, List.length_append] at short
    have := List.length_pos_iff.mpr someFront
    omega
  have high : 0 < Nat.ofDigitChars 10 front 0 := by
    by_contra zero
    rw [Nat.eq_zero_of_not_pos zero] at value
    omega
  have ten : 10 ≤ 10 ^ back.length :=
    Nat.le_self_pow (by simpa using someBack) 10
  refine ⟨by omega, ?_, ?_⟩
  · calc 2 * Nat.ofDigitChars 10 front 0 < 10 * Nat.ofDigitChars 10 front 0 := by omega
      _ ≤ 10 ^ back.length * Nat.ofDigitChars 10 front 0 := Nat.mul_le_mul_right _ ten
      _ ≤ n := by omega
  · have : 10 ^ back.length ≤ 10 ^ back.length * Nat.ofDigitChars 10 front 0 :=
      Nat.le_mul_of_pos_right _ high
    omega

namespace Source

variable (source : Source)

theorem number_eq_zero_iff {count : Nat} : source.number count = 0 ↔ count = 0 := by
  cases source with
  | http turn => exact Binary64.round_eq_zero_iff
  | stream =>
    simp only [number, Binary64.clamp_eq, Binary64.maxSafe]
    omega

/-- No count that a binary64 number holds is shown larger. -/
theorem number_round_le (n : Nat) : source.number (Binary64.round n) ≤ Binary64.round n := by
  cases source with
  | http turn => exact Nat.le_of_eq (Binary64.round_round n)
  | stream =>
    rw [number, Binary64.clamp_eq]
    exact Nat.min_le_left _ _

/-- A part of the digits shown for a count is not read as the count. -/
theorem part_ne {count part : Nat} (less : 2 * part < source.number count) :
    Patch.number part ≠ some count := by
  intro read
  have same := number_some read
  subst same
  have shown := source.number_round_le part
  have double := Binary64.round_le_double part
  omega

end Source

/-! ## The text of a token usage -/

namespace Locale

variable (locale : Locale)

theorem groups_ne_nil (n : Nat) : locale.groups n ≠ [] := by
  intro none_
  have := locale.digits n
  simp [none_, Nat.toDigits_ne_nil.symm] at this

/-- What the pattern takes of the number in front of the slash. -/
def usedPart (n : Nat) : List Char :=
  if locale.separator = ',' then locale.text n
  else (locale.groups n).getLast (locale.groups_ne_nil n)

/-- What the pattern takes of the number behind it. -/
def windowPart (n : Nat) : List Char :=
  if locale.separator = ',' then locale.text n
  else (locale.groups n).head (locale.groups_ne_nil n)

theorem isDigit_of_mem {n : Nat} {group : List Char} (member : group ∈ locale.groups n) {c : Char}
    (inside : c ∈ group) : c.isDigit = true := by
  have : c ∈ Nat.toDigits 10 n := by
    rw [← locale.digits n]
    exact List.mem_flatten_of_mem member inside
  exact Nat.isDigit_of_mem_toDigits (by decide) (by decide) this

/-- The separator stands for nothing where it is taken out. -/
theorem filter_intercalate {groups : List (List Char)}
    (digits : ∀ group ∈ groups, ∀ c ∈ group, c.isDigit = true) :
    ([','].intercalate groups).filter (· ≠ ',') = groups.flatten := by
  have keep : ∀ group ∈ groups, group.filter (· ≠ ',') = group := by
    intro group member
    apply List.filter_eq_self.mpr
    intro c inside
    have digit := digits group member c inside
    simp only [ne_eq, decide_not, Bool.not_eq_eq_eq_not, Bool.not_true, decide_eq_false_iff_not]
    rintro rfl
    exact absurd digit (by decide)
  induction groups with
  | nil => simp
  | cons group groups ih =>
    have rest := ih (fun g member => digits g (List.mem_cons_of_mem _ member))
      (fun g member => keep g (List.mem_cons_of_mem _ member))
    by_cases last : groups = []
    · subst last
      simpa using keep group (by simp)
    · rw [List.intercalate_cons_of_ne_nil last]
      simp only [List.filter_append, keep group (by simp), rest, List.flatten_cons]
      simp

theorem text_of_comma (comma : locale.separator = ',') (n : Nat) :
    (∀ c ∈ locale.text n, Usage.isGrouped c = true) ∧ locale.text n ≠ [] ∧
      (locale.text n).filter (· ≠ ',') = Nat.toDigits 10 n := by
  have allDigits : ∀ group ∈ locale.groups n, ∀ c ∈ group, c.isDigit = true :=
    fun _ member _ inside => locale.isDigit_of_mem member inside
  have kept := filter_intercalate allDigits
  rw [locale.digits] at kept
  have digits : (locale.text n).filter (· ≠ ',') = Nat.toDigits 10 n := by
    rw [text, comma]
    exact kept
  refine ⟨?_, ?_, digits⟩
  · intro c member
    by_cases separator : c = ','
    · simp [Usage.isGrouped, separator]
    · have : c ∈ (locale.text n).filter (· ≠ ',') := by simp [member, separator]
      rw [digits] at this
      exact Usage.isGrouped_of_isDigit (Nat.isDigit_of_mem_toDigits (by decide) (by decide) this)
  · intro empty
    rw [empty] at digits
    exact Nat.toDigits_ne_nil digits.symm

/-- The groups before the last one are passed over. -/
theorem usageText_intercalate {separator : Char} (outside : Usage.isGrouped separator = false)
    (unslashed : separator ≠ '/') {groups : List (List Char)} (some_ : groups ≠ [])
    (filled : ∀ group ∈ groups, group ≠ [])
    (digits : ∀ group ∈ groups, ∀ c ∈ group, c.isDigit = true) (rest : List Char) :
    Usage.usageText ([separator].intercalate groups ++ rest) =
      Usage.usageText (groups.getLast some_ ++ rest) := by
  induction groups with
  | nil => exact absurd rfl some_
  | cons group groups ih =>
    by_cases last : groups = []
    · subst last
      simp
    · have go := ih last (fun g member => filled g (List.mem_cons_of_mem _ member))
        (fun g member => digits g (List.mem_cons_of_mem _ member))
      -- the rest begins with the first digit of the next group
      obtain ⟨next, groups, rfl⟩ := List.exists_cons_of_ne_nil last
      obtain ⟨d, next, rfl⟩ := List.exists_cons_of_ne_nil (filled next (by simp))
      have digit : d.isDigit = true := digits (d :: next) (by simp) d (by simp)
      obtain ⟨tail, begins⟩ : ∃ tail, [separator].intercalate ((d :: next) :: groups) = d :: tail := by
        by_cases single : groups = []
        · exact ⟨next, by simp [single]⟩
        · exact ⟨_, by rw [List.intercalate_cons_of_ne_nil single, List.cons_append, List.cons_append]⟩
      rw [List.getLast_cons last, ← go, List.intercalate_cons_of_ne_nil last, begins]
      simp only [List.append_assoc, List.cons_append, List.nil_append]
      exact Usage.usageText_skip (digits group (by simp)) outside unslashed digit

/-- The text of a usage is always taken for one: the pattern finds a part of each number. -/
theorem usageText_body (used window : Nat) :
    Usage.usageText (contextBody locale.toLocaleString used window).toList =
      some (locale.usedPart used, locale.windowPart window) := by
  have body : (contextBody locale.toLocaleString used window).toList =
      locale.text used ++ ([' '] ++ '/' :: ([' '] ++ (locale.text window ++ []))) := by
    simp [contextBody, toLocaleString]
  have blank : ∀ c ∈ [' '], Usage.isSpace c = true := by simp [Usage.isSpace]
  rw [body, usedPart, windowPart]
  by_cases comma : locale.separator = ','
  · rw [if_pos comma, if_pos comma]
    obtain ⟨usedRun, someUsed, -⟩ := locale.text_of_comma comma used
    obtain ⟨windowRun, someWindow, -⟩ := locale.text_of_comma comma window
    exact Usage.usageText_of_here (Usage.usageHere_match usedRun someUsed blank blank windowRun
      someWindow (by simp))
  · have outside : Usage.isGrouped locale.separator = false := by
      simp [Usage.isGrouped, locale.visible, comma]
    rw [if_neg comma, if_neg comma, text, usageText_intercalate outside locale.unslashed
      (locale.groups_ne_nil used) (locale.filled used)
      (fun group member c inside => locale.isDigit_of_mem member inside)]
    -- the second number ends at its first separator
    obtain ⟨tail, stops, begins⟩ : ∃ tail, (∀ c ∈ tail.head?, Usage.isGrouped c = false) ∧
        locale.text window ++ [] =
          (locale.groups window).head (locale.groups_ne_nil window) ++ tail := by
      obtain ⟨group, groups, written⟩ :=
        List.exists_cons_of_ne_nil (locale.groups_ne_nil window)
      by_cases single : groups = []
      · exact ⟨[], by simp, by simp [text, written, single]⟩
      · refine ⟨locale.separator :: [locale.separator].intercalate groups, by simp [outside], ?_⟩
        simp [text, written, List.intercalate_cons_of_ne_nil single]
    have last := List.getLast_mem (locale.groups_ne_nil used)
    have head := List.head_mem (locale.groups_ne_nil window)
    rw [begins]
    exact Usage.usageText_of_here (Usage.usageHere_match
      (fun c inside => Usage.isGrouped_of_isDigit (locale.isDigit_of_mem last inside))
      (locale.filled used _ last) blank blank
      (fun c inside => Usage.isGrouped_of_isDigit (locale.isDigit_of_mem head inside))
      (locale.filled window _ head) stops)

end Locale

namespace Locale

variable (locale : Locale)

/-- A text the pattern takes whole is read as the number it shows. -/
theorem numberOf_whole {n : Nat} (whole : locale.Whole n) :
    numberOf ((locale.usedPart n).filter (· ≠ ',')) = Patch.number n ∧
      numberOf ((locale.windowPart n).filter (· ≠ ',')) = Patch.number n := by
  by_cases comma : locale.separator = ','
  · obtain ⟨-, -, digits⟩ := locale.text_of_comma comma n
    rw [usedPart, windowPart, if_pos comma, if_pos comma, digits, numberOf_toDigits]
    exact ⟨rfl, rfl⟩
  · obtain ⟨group, single⟩ := List.length_eq_one_iff.mp (whole.resolve_left comma)
    have digits := locale.digits n
    rw [single, List.flatten_cons, List.flatten_nil, List.append_nil] at digits
    have allDigits : ∀ g ∈ [group], ∀ c ∈ g, c.isDigit = true := by
      rw [← single]
      exact fun _ member _ inside => locale.isDigit_of_mem member inside
    have kept := filter_intercalate allDigits
    simp only [List.intercalate_singleton, List.flatten_cons, List.flatten_nil,
      List.append_nil] at kept
    simp only [usedPart, windowPart, if_neg comma, single, List.getLast_singleton, List.head_cons]
    rw [kept, digits, numberOf_toDigits]
    exact ⟨rfl, rfl⟩

/-- A text the pattern does not take whole is read as less than half of the number. -/
theorem numberOf_part {n : Nat} (parted : ¬ locale.Whole n) :
    10 ≤ n ∧ (∃ part, 2 * part < n ∧
        numberOf ((locale.usedPart n).filter (· ≠ ',')) = Patch.number part) ∧
      ∃ part, 2 * part < n ∧
        numberOf ((locale.windowPart n).filter (· ≠ ',')) = Patch.number part := by
  obtain ⟨comma, several⟩ := not_or.mp parted
  have digits := locale.digits n
  have isDigit : ∀ group ∈ locale.groups n, ∀ c ∈ group, c.isDigit = true :=
    fun _ member _ inside => locale.isDigit_of_mem member inside
  have kept : ∀ group ∈ locale.groups n, group.filter (· ≠ ',') = group := by
    intro group member
    have alone : ∀ g ∈ [group], ∀ c ∈ g, c.isDigit = true := by
      intro g single
      rw [List.mem_singleton.mp single]
      exact isDigit group member
    simpa using filter_intercalate alone
  have two : 2 ≤ (locale.groups n).length := by
    have := List.length_pos_iff.mpr (locale.groups_ne_nil n)
    omega
  have last := List.getLast_mem (locale.groups_ne_nil n)
  have head := List.head_mem (locale.groups_ne_nil n)
  rw [usedPart, windowPart, if_neg comma, if_neg comma, kept _ last, kept _ head]
  have usedHalf : 10 ≤ n ∧
      2 * Nat.ofDigitChars 10 ((locale.groups n).getLast (locale.groups_ne_nil n)) 0 < n := by
    have split := List.dropLast_append_getLast (locale.groups_ne_nil n)
    have front : (locale.groups n).dropLast.flatten ≠ [] := by
      intro empty
      obtain ⟨group, member⟩ := List.exists_mem_of_ne_nil (locale.groups n).dropLast (by
        rw [← List.length_pos_iff, List.length_dropLast]
        omega)
      exact locale.filled n group (List.mem_of_mem_dropLast member)
        (List.flatten_eq_nil_iff.mp empty group member)
    rw [← split, List.flatten_append, List.flatten_singleton] at digits
    obtain ⟨ten, -, less⟩ := part_lt digits front (locale.filled n _ last)
    exact ⟨ten, less⟩
  have windowHalf :
      2 * Nat.ofDigitChars 10 ((locale.groups n).head (locale.groups_ne_nil n)) 0 < n := by
    have split := List.cons_head_tail (locale.groups_ne_nil n)
    have back : (locale.groups n).tail.flatten ≠ [] := by
      intro empty
      obtain ⟨group, member⟩ := List.exists_mem_of_ne_nil (locale.groups n).tail (by
        rw [← List.length_pos_iff, List.length_tail]
        omega)
      exact locale.filled n group (List.mem_of_mem_tail member)
        (List.flatten_eq_nil_iff.mp empty group member)
    rw [← split, List.flatten_cons] at digits
    exact (part_lt digits (locale.filled n _ head) back).2.1
  exact ⟨usedHalf.1, ⟨_, usedHalf.2, rfl⟩, ⟨_, windowHalf, rfl⟩⟩

variable (source : Source)

/-- The number in front of the slash comes back exactly if it was held and taken whole. -/
theorem used_iff (count : Nat) :
    Usage.numberOr (locale.usedPart (source.number count)) 0 = some count ↔
      source.Holds count ∧ locale.Whole (source.number count) := by
  have unchanged (text : List Char) :
      Usage.numberOr text 0 = numberOf (text.filter (· ≠ ',')) := by
    simp only [Usage.numberOr]
    split
    next zero => exact zero.symm
    next => rfl
  rw [unchanged]
  by_cases whole : locale.Whole (source.number count)
  · rw [(locale.numberOf_whole whole).1]
    simp [Source.Holds, whole]
  · obtain ⟨-, ⟨part, less, read⟩, -⟩ := locale.numberOf_part whole
    rw [read]
    simp [source.part_ne less, whole]

/-- Behind the slash a zero does not come back either: it is read as one. -/
theorem window_iff (count : Nat) :
    Usage.numberOr (locale.windowPart (source.number count)) 1 = some count ↔
      source.Holds count ∧ count ≠ 0 ∧ locale.Whole (source.number count) := by
  by_cases whole : locale.Whole (source.number count)
  · simp only [Usage.numberOr, (locale.numberOf_whole whole).2, Source.Holds, whole, and_true]
    by_cases zero : count = 0
    · subst zero
      have shown : source.number 0 = 0 := source.number_eq_zero_iff.mpr rfl
      have value : Patch.number 0 = some 0 := by
        unfold Patch.number
        rw [if_pos (by decide +kernel), Binary64.round_eq_zero_iff.mpr rfl]
      simp [shown, value]
    · have shown := mt source.number_eq_zero_iff.mp zero
      have nonzero : Patch.number (source.number count) ≠ some 0 := by
        intro read
        exact shown (Binary64.round_eq_zero_iff.mp (number_some read).symm)
      simp [nonzero, zero]
  · obtain ⟨ten, -, part, less, read⟩ := locale.numberOf_part whole
    have other : Usage.numberOr (locale.windowPart (source.number count)) 1 ≠ some count := by
      simp only [Usage.numberOr, read]
      split
      next zero =>
        -- read as one, while a number of several groups is at least ten
        intro one
        obtain rfl := Option.some.inj one
        have shown := source.number_round_le 1
        rw [Binary64.round_of_le (by decide)] at shown
        omega
      next => exact source.part_ne less
    simp [other, whole]

end Locale

/-! ## The loop -/

section Loop

variable {α : Type} {genuine recognized : α → Bool}

/-- What is recognized first is genuine exactly if nothing false is recognized before it. -/
theorem find_genuine_iff (known : ∀ a, genuine a → recognized a) (items : List α) :
    (∀ a ∈ items.find? recognized, genuine a) ↔
      ∀ a ∈ items.takeWhile (!genuine ·), recognized a = false := by
  induction items with
  | nil => simp
  | cons a items ih =>
    by_cases real : genuine a = true
    · simp [real, known a real]
    · by_cases false_ : recognized a = true
      · simp [real, false_]
      · simp only [Bool.not_eq_true] at real false_
        simpa [real, false_] using ih

/-- Then it is the first genuine one. -/
theorem find_eq_of_genuine (known : ∀ a, genuine a → recognized a) {items : List α}
    (first : ∀ a ∈ items.find? recognized, genuine a) :
    items.find? recognized = items.find? genuine := by
  induction items with
  | nil => rfl
  | cons a items ih =>
    by_cases real : genuine a = true
    · simp [real, known a real]
    · have unknown : recognized a = false := by
        by_contra recognized_
        exact real (first a (by simp [recognized_]))
      simp only [Bool.not_eq_true] at real
      simpa [real, unknown] using ih (by simpa [unknown] using first)

end Loop

section Timeline

variable (locale : Locale) (sessionId : String)

/-- An entry is read as a token usage if it is one, or a tool call that looks like one. -/
theorem Entry.read_eq (entry : Entry) :
    entry.read locale sessionId =
      match entry.item.content with
      | some (.tokenUsage usage) =>
        some ⟨Usage.numberOr (locale.usedPart (entry.source.number usage.contextUsedTokens)) 0,
          Usage.numberOr (locale.windowPart (entry.source.number usage.contextWindowTokens)) 1⟩
      | some (.toolCall call) =>
        if call.name ≠ usageAuthor then none
        else (Usage.usageText call.summary.toList).map fun (used, window) =>
          ⟨Usage.numberOr used 0, Usage.numberOr window 1⟩
      | _ => none := by
  obtain ⟨⟨itemId, turn, revision, createdAt, content⟩, source, randomUUID⟩ := entry
  have same : "上下文" = usageAuthor := rfl
  have authors : "你" ≠ usageAuthor ∧ "Reasoning" ≠ usageAuthor ∧ "Codex" ≠ usageAuthor ∧
      "文件变化" ≠ usageAuthor ∧ "子 Agent" ≠ usageAuthor ∧ "工具" ≠ usageAuthor ∧
      "" ≠ usageAuthor := by decide
  obtain ⟨user, reasoning, codex, files, subagent, tool, empty⟩ := authors
  cases source with
  | http turn =>
    cases content with
    | none => simp [read, shown, mapHistoryEntryJson, historyEntryJson, itemJson]
    | some content =>
      simp only [read, shown]
      cases content
      all_goals
        simp only [mapHistoryEntryJson, historyEntryJson, itemJson, itemContentJson,
          commandTimelineItem, Option.map_some, orNull_some, record_obj, List.cons_append,
          List.nil_append, field_cons, field_nil]
        simp [TimelineItem.usage, same, user, reasoning, codex, files, subagent, Source.number,
          locale.usageText_body]
      case toolCall call =>
        by_cases unnamed : call.name = "" <;> simp [unnamed, tool, empty]
  | stream =>
    cases content with
    | none => simp [read, shown, mapItemProto]
    | some content =>
      cases content <;>
        simp [read, shown, mapItemProto, commandTimelineItem, TimelineItem.usage, same, user,
          reasoning, codex, files, subagent, Source.number, locale.usageText_body]

theorem Entry.read_of_tokens {entry : Entry} {usage : TokenUsage} (tokens : usage ∈ entry.tokens) :
    entry.read locale sessionId =
      some ⟨Usage.numberOr (locale.usedPart (entry.source.number usage.contextUsedTokens)) 0,
        Usage.numberOr (locale.windowPart (entry.source.number usage.contextWindowTokens)) 1⟩ := by
  have content : entry.item.content = some (.tokenUsage usage) := by
    unfold Entry.tokens at tokens
    split at tokens
    next content => rw [content, Option.some.inj tokens]
    next => simp at tokens
  rw [Entry.read_eq, content]

theorem Entry.read_isSome_of_tokens {entry : Entry} (tokens : entry.tokens.isSome) :
    (entry.read locale sessionId).isSome := by
  obtain ⟨usage, tokens⟩ := Option.isSome_iff_exists.mp tokens
  simp [entry.read_of_tokens locale sessionId tokens]

theorem Entry.read_isSome_iff_poses {entry : Entry} (other : entry.tokens.isSome = false) :
    (entry.read locale sessionId).isSome ↔ entry.Poses := by
  rw [Entry.read_eq, Entry.Poses]
  unfold Entry.tokens at other
  split
  next usage content => simp [content] at other
  next call content =>
    by_cases named : call.name = usageAuthor <;> simp [content, named]
  next none_ =>
    simp only [Option.isSome_none, Bool.false_eq_true, false_iff, not_exists, not_and]
    intro call content
    exact absurd content (none_ call)

/-- The loop answers with what it reads in the entry it takes. -/
theorem applyContextUsage_eq (runtime : ContextUsage) (entries : List Entry) :
    applyContextUsage (timelineOf locale sessionId entries) runtime =
      ((taken locale sessionId entries).bind (·.read locale sessionId)).getD runtime := by
  rw [applyContextUsage, timelineOf, taken, ← List.filterMap_reverse]
  induction entries.reverse with
  | nil => rfl
  | cons entry entries ih =>
    rw [List.filterMap_cons, List.find?_cons]
    cases shown : entry.shown locale sessionId with
    | none => simpa [Entry.read, shown] using ih
    | some item =>
      cases usage : item.usage with
      | none => simpa [Entry.read, shown, usage] using ih
      | some found => simp [Entry.read, shown, usage]

theorem legible_iff {entry : Entry} {usage : TokenUsage} (tokens : usage ∈ entry.tokens) :
    entry.read locale sessionId =
        some ⟨some usage.contextUsedTokens, some usage.contextWindowTokens⟩ ↔
      Legible locale entry.source usage := by
  rw [entry.read_of_tokens locale sessionId tokens, Option.some_inj, ContextUsage.mk.injEq,
    locale.used_iff, locale.window_iff]
  constructor
  · rintro ⟨⟨used, usedWhole⟩, window, open_, windowWhole⟩
    exact ⟨used, window, open_, usedWhole, windowWhole⟩
  · intro legible
    exact ⟨⟨legible.used, legible.usedWhole⟩, legible.window, legible.open_, legible.windowWhole⟩

/-- The usage comes back exactly if no tool call behind it looks like one, and each count is
held by a number whose text the pattern takes whole, the window not being zero. -/
theorem recovers_iff (runtime : ContextUsage) (entries : List Entry) :
    Recovers locale sessionId runtime entries ↔
      (∀ entry ∈ behindUsage entries, ¬ entry.Poses) ∧
        ∀ entry ∈ lastUsage entries, ∀ usage ∈ entry.tokens,
          Legible locale entry.source usage := by
  have known (entry : Entry) (tokens : entry.tokens.isSome) :=
    entry.read_isSome_of_tokens locale sessionId tokens
  have unposed : (∀ entry ∈ taken locale sessionId entries, entry.tokens.isSome) ↔
      ∀ entry ∈ behindUsage entries, ¬ entry.Poses := by
    rw [taken, find_genuine_iff known]
    apply forall₂_congr
    intro entry behind
    have other : entry.tokens.isSome = false := by
      simpa using List.mem_takeWhile_imp behind
    rw [← Bool.not_eq_true, entry.read_isSome_iff_poses locale sessionId other]
  -- once only token usages are taken, the last one is
  have numbers (genuine : ∀ entry ∈ taken locale sessionId entries, entry.tokens.isSome)
      (entry : Entry) (last : entry ∈ lastUsage entries) (usage : TokenUsage)
      (tokens : usage ∈ entry.tokens) :
      applyContextUsage (timelineOf locale sessionId entries) runtime =
          ⟨some usage.contextUsedTokens, some usage.contextWindowTokens⟩ ↔
        Legible locale entry.source usage := by
    have taken_ : taken locale sessionId entries = some entry :=
      (find_eq_of_genuine known genuine).trans last
    rw [applyContextUsage_eq, taken_, Option.bind_some, ← legible_iff locale sessionId tokens,
      entry.read_of_tokens locale sessionId tokens, Option.getD_some, Option.some_inj]
  constructor
  · intro recovers
    refine ⟨unposed.mp recovers.genuine, ?_⟩
    intro entry last usage tokens
    exact (numbers recovers.genuine entry last usage tokens).mp
      (recovers.exactly entry last usage tokens)
  · rintro ⟨alone, legible⟩
    have genuine := unposed.mpr alone
    refine ⟨genuine, ?_⟩
    intro entry last usage tokens
    exact (numbers genuine entry last usage tokens).mpr (legible entry last usage tokens)

end Timeline

/-! ## Groups of three -/

/-- Digits in groups of three, counted from the last one. -/
def thousands : List Char → List (List Char)
  | [] => []
  | c :: rest =>
    match thousands rest with
    | [] => [[c]]
    | group :: groups =>
      if group.length < 3 then (c :: group) :: groups else [c] :: group :: groups

theorem flatten_thousands (digits : List Char) : (thousands digits).flatten = digits := by
  induction digits with
  | nil => rfl
  | cons c rest ih =>
    rw [thousands]
    split
    next none_ => simp_all
    next group groups some_ =>
      rw [some_] at ih
      split <;> simp [← ih]

theorem thousands_filled (digits : List Char) : ∀ group ∈ thousands digits, group ≠ [] := by
  induction digits with
  | nil => simp [thousands]
  | cons c rest ih =>
    rw [thousands]
    split
    next => simp
    next group groups some_ =>
      rw [some_] at ih
      split <;> simp_all

/-- Groups of three with a dot between them, as in German. -/
def german : Locale where
  separator := '.'
  groups n := thousands (Nat.toDigits 10 n)
  digits n := flatten_thousands _
  filled n := thousands_filled _
  visible := by decide
  unslashed := by decide

/-- A token usage of a history page. -/
def shownUsage (used window : Nat) : Entry where
  item :=
    { itemId := some ⟨"i-1", false⟩, turn := none, revision := 1, createdAt := none
      content := some (.tokenUsage ⟨0, 0, used, window⟩) }
  source := .http none
  randomUUID := "u-1"

/-- `12.345 / 200.000` is read as 345 of 200 tokens. -/
theorem german_usage_lost :
    ¬ Recovers german "s-1" ⟨some 0, some 1⟩ [shownUsage 12345 200000] := by
  intro recovers
  have whole := recovers.exactly (shownUsage 12345 200000) rfl ⟨0, 0, 12345, 200000⟩ rfl
  have read : applyContextUsage (timelineOf german "s-1" [shownUsage 12345 200000])
      ⟨some 0, some 1⟩ = ⟨some 345, some 200⟩ := by decide +kernel
  rw [read] at whole
  simp at whole

end AgentConsole.Web
