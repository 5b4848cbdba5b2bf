import AgentConsole.Lib.Binary64

/-! # Rows of a unified diff

`parsePatch` reads a patch line by line, with a counter for each side and a flag that says
whether it is inside a hunk.  Inside, everything that is no addition, no removal and no header
counts as a line of context. -/

namespace AgentConsole.Web.Patch

open AgentConsole.Lib

/-! ## Numbers -/

/-- The `Number` nearest to a natural number; `none` is `Infinity`. -/
@[irreducible] def number (n : Nat) : Option Nat := if n < 2 ^ 1024 - 2 ^ 970 then some (Binary64.round n) else none

/-- `++` -/
def increment (n : Option Nat) : Option Nat := n.bind fun n => number (n + 1)

/-- A number that is one. -/
def Exact (n : Nat) : Prop := number n = some n

/-! ## The parser -/

inductive RowKind where
  | context
  | add
  | remove
  | hunk
deriving DecidableEq, Repr

structure PatchRow where
  kind : RowKind
  oldLine : Option (Option Nat)
  newLine : Option (Option Nat)
  text : List Char
deriving DecidableEq, Repr

def startsWith (line start : List Char) : Bool := start.isPrefixOf line

/-- `(?:,\d+)?` -/
def skipCount (text : List Char) : List Char :=
  match text with
  | ',' :: rest => if rest.takeWhile Char.isDigit = [] then text else rest.dropWhile Char.isDigit
  | _ => text

/-- `@@ -(\d+)(?:,\d+)? \+(\d+)` at the front.  What follows the first digits is no digit, so
there is nothing to go back for. -/
def hunkRangesHere (text : List Char) : Option (List Char × List Char) :=
  match text with
  | '@' :: '@' :: ' ' :: '-' :: rest =>
    let old := rest.takeWhile Char.isDigit
    match skipCount (rest.dropWhile Char.isDigit) with
    | ' ' :: '+' :: rest =>
      let new := rest.takeWhile Char.isDigit
      if old = [] ∨ new = [] then none else some (old, new)
    | _ => none
  | _ => none

/-- The first place where it matches. -/
def hunkRanges : List Char → Option (List Char × List Char)
  | [] => none
  | c :: rest => (hunkRangesHere (c :: rest)).or (hunkRanges rest)

/-- `Number` of digits -/
def numberOf (digits : List Char) : Option Nat := number (Nat.ofDigitChars 10 digits 0)

structure Parser where
  rows : List PatchRow := []
  oldLine : Option Nat := some 0
  newLine : Option Nat := some 0
  inHunk : Bool := false

def hunkMark : List Char := ['@', '@']

def fileMark : List Char := ['d', 'i', 'f', 'f', ' ', '-', '-', 'g', 'i', 't']

namespace Parser

def context (st : Parser) (text : List Char) : Parser :=
  { st with
    rows := st.rows ++ [⟨.context, some st.oldLine, some st.newLine, text⟩]
    oldLine := increment st.oldLine
    newLine := increment st.newLine }

/-- A line inside a hunk. -/
def body (st : Parser) (line : List Char) : Parser :=
  match line with
  | '+' :: text =>
    { st with rows := st.rows ++ [⟨.add, none, some st.newLine, text⟩]
              newLine := increment st.newLine }
  | '-' :: text =>
    { st with rows := st.rows ++ [⟨.remove, some st.oldLine, none, text⟩]
              oldLine := increment st.oldLine }
  | ' ' :: text => st.context text
  | _ => st.context line

/-- The loop body of `parsePatch`. -/
def line (st : Parser) (line : List Char) : Parser :=
  if startsWith line hunkMark then
    let ranges := hunkRanges line
    { rows := st.rows ++ [⟨.hunk, none, none, line⟩]
      oldLine := (ranges.map fun r => numberOf r.1).getD (some 0)
      newLine := (ranges.map fun r => numberOf r.2).getD (some 0)
      inHunk := true }
  else if startsWith line fileMark then { st with inHunk := false }
  else if !st.inHunk then st
  else st.body line

end Parser

def parsePatch (patch : List Char) : List PatchRow :=
  ((patch.splitOn '\n').foldl Parser.line {}).rows

structure Changes where
  additions : Nat
  deletions : Nat
deriving DecidableEq, Repr

def countPatchChanges (rows : List PatchRow) : Changes :=
  rows.foldl
    (fun changes row =>
      match row.kind with
      | .add => { changes with additions := changes.additions + 1 }
      | .remove => { changes with deletions := changes.deletions + 1 }
      | _ => changes)
    ⟨0, 0⟩

/-! ## Diffs and how git writes them -/

/-- A text without a line feed. -/
abbrev Text := { text : List Char // '\n' ∉ text }

inductive LineKind where
  | context
  | add
  | remove
deriving DecidableEq, Repr

/-- A line of a hunk; the last line of a file may have no newline. -/
structure Line where
  kind : LineKind
  text : Text
  noNewline : Bool

structure Hunk where
  oldStart : Nat
  newStart : Nat
  heading : Text
  lines : List Line

/-- A line of the header of a file: it may be anything that does not look like a hunk. -/
abbrev HeaderLine := { text : List Char // '\n' ∉ text ∧ startsWith text hunkMark = false }

/-- The diff of a file: what follows `diff --git`, the rest of its header, and the hunks. -/
structure FileDiff where
  names : Text
  header : List HeaderLine
  hunks : List Hunk

namespace Line

def isOld (line : Line) : Bool := line.kind ≠ .add

def isNew (line : Line) : Bool := line.kind ≠ .remove

def sign (line : Line) : Char :=
  match line.kind with
  | .context => ' '
  | .add => '+'
  | .remove => '-'

/-- `\ No newline at end of file` -/
def marker : List Char :=
  ['\\', ' ', 'N', 'o', ' ', 'n', 'e', 'w', 'l', 'i', 'n', 'e', ' ', 'a', 't', ' ', 'e', 'n', 'd', ' ',
    'o', 'f', ' ', 'f', 'i', 'l', 'e']

def render (line : Line) : List (List Char) :=
  (line.sign :: line.text.1) :: if line.noNewline then [marker] else []

/-- The row of a line with these numbers. -/
def row (line : Line) (old new : Nat) : PatchRow :=
  match line.kind with
  | .context => ⟨.context, some (some old), some (some new), line.text⟩
  | .add => ⟨.add, none, some (some new), line.text⟩
  | .remove => ⟨.remove, some (some old), none, line.text⟩

end Line

namespace Hunk

/-- `start,count`; a count of one is left out. -/
def range (start count : Nat) : List Char :=
  Nat.toDigits 10 start ++ if count = 1 then [] else ',' :: Nat.toDigits 10 count

def header (hunk : Hunk) : List Char :=
  ['@', '@', ' ', '-'] ++ range hunk.oldStart (hunk.lines.countP Line.isOld) ++ [' ', '+'] ++
    range hunk.newStart (hunk.lines.countP Line.isNew) ++ [' ', '@', '@'] ++ hunk.heading

def render (hunk : Hunk) : List (List Char) := hunk.header :: hunk.lines.flatMap Line.render

/-- The rows of the lines from these numbers on. -/
def lineRows : Nat → Nat → List Line → List PatchRow
  | _, _, [] => []
  | old, new, line :: rest =>
    line.row old new ::
      lineRows (if line.isOld then old + 1 else old) (if line.isNew then new + 1 else new) rest

def rows (hunk : Hunk) : List PatchRow :=
  ⟨.hunk, none, none, hunk.header⟩ :: lineRows hunk.oldStart hunk.newStart hunk.lines

/-- The line numbers that are shown. -/
def Numbers (hunk : Hunk) (n : Nat) : Prop :=
  (hunk.oldStart ≤ n ∧ n < hunk.oldStart + hunk.lines.countP Line.isOld) ∨
    (hunk.newStart ≤ n ∧ n < hunk.newStart + hunk.lines.countP Line.isNew)

end Hunk

namespace FileDiff

def render (file : FileDiff) : List (List Char) :=
  (fileMark ++ file.names) :: (file.header.map (·.1) ++ file.hunks.flatMap Hunk.render)

def rows (file : FileDiff) : List PatchRow := file.hunks.flatMap Hunk.rows

end FileDiff

/-- The patch of these diffs: every line is ended by a line feed. -/
def patchOf (files : List FileDiff) : List Char :=
  (files.flatMap FileDiff.render).flatMap (· ++ ['\n'])

/-- The lines of a kind in all hunks. -/
def countLines (files : List FileDiff) (kind : LineKind) : Nat :=
  ((files.flatMap (·.hunks)).flatMap (·.lines)).countP (·.kind = kind)

/-- One row for each hunk and each line, and nothing else; the changes are counted. -/
def Parsed (files : List FileDiff) : Prop :=
  parsePatch (patchOf files) = files.flatMap FileDiff.rows ∧
    countPatchChanges (parsePatch (patchOf files)) = ⟨countLines files .add, countLines files .remove⟩

/-- No line is without a newline, the patch does not end in a hunk, and every line number is
exact. -/
structure Plain (files : List FileDiff) : Prop where
  newlines : ∀ file ∈ files, ∀ hunk ∈ file.hunks, ∀ line ∈ hunk.lines, line.noNewline = false
  last : ∀ file ∈ files.getLast?, file.hunks = []
  numbers : ∀ file ∈ files, ∀ hunk ∈ file.hunks, ∀ n, hunk.Numbers n → Exact n

/-! ## The header of a hunk -/

theorem takeWhile_toDigits (n : Nat) (rest : List Char)
    (stops : ∀ c ∈ rest.head?, c.isDigit = false) :
    (Nat.toDigits 10 n ++ rest).takeWhile Char.isDigit = Nat.toDigits 10 n ∧
      (Nat.toDigits 10 n ++ rest).dropWhile Char.isDigit = rest := by
  have digits : ∀ c ∈ Nat.toDigits 10 n, c.isDigit = true := fun c member =>
    Nat.isDigit_of_mem_toDigits (by omega) (by omega) member
  have none_ : rest.takeWhile Char.isDigit = [] ∧ rest.dropWhile Char.isDigit = rest := by
    cases rest with
    | nil => exact ⟨rfl, rfl⟩
    | cons c rest =>
      have stop := stops c rfl
      constructor
      · rw [List.takeWhile_cons, stop]
        rfl
      · rw [List.dropWhile_cons, stop]
        rfl
  constructor
  · rw [List.takeWhile_append_of_pos digits, none_.1, List.append_nil]
  · rw [List.dropWhile_append_of_pos digits, none_.2]

theorem skipCount_range (count : Nat) (rest : List Char) :
    skipCount ((if count = 1 then [] else ',' :: Nat.toDigits 10 count) ++ ' ' :: rest) =
      ' ' :: rest := by
  by_cases one : count = 1
  · rw [if_pos one]
    rfl
  · rw [if_neg one]
    obtain ⟨taken, dropped⟩ := takeWhile_toDigits count (' ' :: rest) (by simp)
    simp only [List.cons_append, skipCount, taken, dropped]
    rw [if_neg Nat.toDigits_ne_nil]

theorem hunkRanges_header (hunk : Hunk) :
    hunkRanges hunk.header = some (Nat.toDigits 10 hunk.oldStart, Nat.toDigits 10 hunk.newStart) := by
  have here : hunkRangesHere hunk.header =
      some (Nat.toDigits 10 hunk.oldStart, Nat.toDigits 10 hunk.newStart) := by
    unfold Hunk.header Hunk.range
    generalize hunk.lines.countP Line.isOld = oldCount
    generalize hunk.lines.countP Line.isNew = newCount
    simp only [List.cons_append, List.nil_append, List.append_assoc, hunkRangesHere]
    obtain ⟨old, afterOld⟩ := takeWhile_toDigits hunk.oldStart
      ((if oldCount = 1 then [] else ',' :: Nat.toDigits 10 oldCount) ++
        ' ' :: '+' :: (Nat.toDigits 10 hunk.newStart ++
          ((if newCount = 1 then [] else ',' :: Nat.toDigits 10 newCount) ++
            ' ' :: '@' :: '@' :: hunk.heading.1)))
      (by split <;> (simp; try decide))
    obtain ⟨new, -⟩ := takeWhile_toDigits hunk.newStart
      ((if newCount = 1 then [] else ',' :: Nat.toDigits 10 newCount) ++
        ' ' :: '@' :: '@' :: hunk.heading.1)
      (by split <;> (simp; try decide))
    rw [old, afterOld, skipCount_range]
    simp only [new]
    rw [if_neg]
    simp [Nat.toDigits_ne_nil]
  unfold Hunk.header at here ⊢
  simp only [List.cons_append] at here ⊢
  rw [hunkRanges, here]
  rfl

theorem numberOf_toDigits (n : Nat) : numberOf (Nat.toDigits 10 n) = number n := by
  rw [numberOf, Nat.ofDigitChars_ten_toDigits]

/-! ## One line -/

namespace Parser

variable {st : Parser}

theorem line_file (st : Parser) (names : List Char) :
    st.line (fileMark ++ names) = { st with inHunk := false } := by
  simp [line, startsWith, hunkMark, fileMark, List.isPrefixOf]

theorem line_header (outside : st.inHunk = false) (header : HeaderLine) :
    st.line header = st := by
  obtain ⟨rows, oldLine, newLine, inHunk⟩ := st
  have outside : inHunk = false := outside
  subst outside
  unfold line
  rw [header.2.2]
  simp

theorem line_hunk (st : Parser) (hunk : Hunk) :
    st.line hunk.header =
      ⟨st.rows ++ [⟨.hunk, none, none, hunk.header⟩], number hunk.oldStart, number hunk.newStart,
        true⟩ := by
  have starts : startsWith hunk.header hunkMark = true := by
    simp [startsWith, hunkMark, Hunk.header, List.isPrefixOf]
  unfold line
  rw [starts, hunkRanges_header]
  simp only [if_true, Option.map_some, Option.getD_some, numberOf_toDigits]

/-- A line of a hunk does not look like a header. -/
theorem line_body (inside : st.inHunk = true) (line : Line) :
    st.line (line.sign :: line.text.1) = st.body (line.sign :: line.text.1) := by
  have mark : startsWith (line.sign :: line.text.1) hunkMark = false := by
    unfold Line.sign
    cases line.kind <;> simp [startsWith, hunkMark, List.isPrefixOf]
  have file : startsWith (line.sign :: line.text.1) fileMark = false := by
    unfold Line.sign
    cases line.kind <;> simp [startsWith, fileMark, List.isPrefixOf]
  unfold Parser.line
  rw [mark, file, inside]
  rfl

theorem line_marker (inside : st.inHunk = true) : st.line Line.marker = st.context Line.marker := by
  have mark : startsWith Line.marker hunkMark = false := by decide
  have file : startsWith Line.marker fileMark = false := by decide
  unfold line
  rw [mark, file, inside]
  rfl

/-- The end of the text is a line as well. -/
theorem line_end (st : Parser) : st.line [] = if st.inHunk then st.context [] else st := by
  unfold line
  cases st.inHunk <;> rfl

/-! ## What lines add -/

/-- The rows that these lines add. -/
def added (st : Parser) (lines : List (List Char)) : List PatchRow :=
  (lines.foldl Parser.line { st with rows := [] }).rows

theorem line_frame (st : Parser) (rows : List PatchRow) (text : List Char) :
    Parser.line { st with rows := rows ++ st.rows } text =
      { st.line text with rows := rows ++ (st.line text).rows } := by
  unfold line
  split
  · simp
  · split
    · rfl
    · split
      · rfl
      · unfold body
        split <;> simp [context]

theorem foldl_frame (st : Parser) (rows : List PatchRow) (lines : List (List Char)) :
    lines.foldl Parser.line { st with rows := rows ++ st.rows } =
      { lines.foldl Parser.line st with rows := rows ++ (lines.foldl Parser.line st).rows } := by
  induction lines generalizing st with
  | nil => rfl
  | cons text lines inductionHypothesis =>
    simp only [List.foldl_cons]
    rw [line_frame]
    exact inductionHypothesis (st.line text)

theorem rows_foldl (st : Parser) (lines : List (List Char)) :
    (lines.foldl Parser.line st).rows = st.rows ++ st.added lines := by
  have frame := foldl_frame { st with rows := [] } st.rows lines
  simp only [List.append_nil] at frame
  exact congrArg Parser.rows frame

theorem added_append (st : Parser) (a b : List (List Char)) :
    st.added (a ++ b) = st.added a ++ (a.foldl Parser.line st).added b := by
  have whole := rows_foldl st (a ++ b)
  rw [List.foldl_append, rows_foldl, rows_foldl, List.append_assoc] at whole
  exact (List.append_cancel_left whole).symm

theorem added_cons (st : Parser) (text : List Char) (lines : List (List Char)) :
    st.added (text :: lines) = st.added [text] ++ (st.line text).added lines :=
  st.added_append [text] lines

end Parser

/-! ## Inside a hunk -/

/-- The row that is shown for a line when the counters stand here. -/
def shownRow (line : Line) (old new : Option Nat) : PatchRow :=
  match line.kind with
  | .context => ⟨.context, some old, some new, line.text⟩
  | .add => ⟨.add, none, some new, line.text⟩
  | .remove => ⟨.remove, some old, none, line.text⟩

theorem increment_some (n : Nat) : increment (some n) = number (n + 1) := by
  rw [increment, Option.bind_some]

theorem line_shown {st : Parser} (inside : st.inHunk = true) (line : Line) :
    st.line (line.sign :: line.text.1) =
      ⟨st.rows ++ [shownRow line st.oldLine st.newLine],
        if line.isOld then increment st.oldLine else st.oldLine,
        if line.isNew then increment st.newLine else st.newLine, true⟩ := by
  rw [Parser.line_body inside]
  obtain ⟨kind, text, noNewline⟩ := line
  obtain ⟨rows, old, new, inHunk⟩ := st
  have inside : inHunk = true := inside
  subst inside
  cases kind <;> rfl

theorem added_line {st : Parser} (inside : st.inHunk = true) (line : Line) :
    st.added [line.sign :: line.text.1] = [shownRow line st.oldLine st.newLine] := by
  have rows := Parser.rows_foldl st [line.sign :: line.text.1]
  rw [List.foldl_cons, List.foldl_nil, line_shown inside] at rows
  exact (List.append_cancel_left rows).symm

/-- A marker is shown as a line of context. -/
theorem added_marker {st : Parser} (inside : st.inHunk = true) :
    st.added [Line.marker] = [⟨.context, some st.oldLine, some st.newLine, Line.marker⟩] := by
  have rows := Parser.rows_foldl st [Line.marker]
  rw [List.foldl_cons, List.foldl_nil, Parser.line_marker inside] at rows
  exact (List.append_cancel_left rows).symm

/-- How many rows too many a line gives. -/
def Line.markers (line : Line) : Nat := if line.noNewline then 1 else 0

/-- After the lines of a hunk the parser is still inside, and has a row for each line and for
each marker, of which only the lines count as changes. -/
theorem lines_added {st : Parser} (inside : st.inHunk = true) (lines : List Line) :
    ((lines.flatMap Line.render).foldl Parser.line st).inHunk = true ∧
      (st.added (lines.flatMap Line.render)).length = lines.length + (lines.map Line.markers).sum ∧
      (st.added (lines.flatMap Line.render)).countP (·.kind = .add) =
        lines.countP (·.kind = .add) ∧
      (st.added (lines.flatMap Line.render)).countP (·.kind = .remove) =
        lines.countP (·.kind = .remove) := by
  induction lines generalizing st with
  | nil => exact ⟨inside, rfl, rfl, rfl⟩
  | cons line rest inductionHypothesis =>
    have first := added_line inside line
    have kinds : (decide ((shownRow line st.oldLine st.newLine).kind = .add) =
          decide (line.kind = .add)) ∧
        (decide ((shownRow line st.oldLine st.newLine).kind = .remove) =
          decide (line.kind = .remove)) := by
      unfold shownRow
      cases line.kind <;> exact ⟨rfl, rfl⟩
    have next : (st.line (line.sign :: line.text.1)).inHunk = true := by rw [line_shown inside]
    cases newline : line.noNewline with
    | false =>
      obtain ⟨stays, length, adds, removes⟩ := inductionHypothesis next
      have shape : (line :: rest).flatMap Line.render =
          (line.sign :: line.text.1) :: rest.flatMap Line.render := by
        simp [Line.render, newline]
      have none_ : line.markers = 0 := by simp [Line.markers, newline]
      rw [shape, Parser.added_cons, first]
      refine ⟨stays, ?_, ?_, ?_⟩
      · simp only [List.length_append, List.length_cons, List.length_nil, List.map_cons,
          List.sum_cons, length, none_]
        omega
      · simp only [List.countP_append, List.countP_cons, List.countP_nil, adds, kinds.1]
        omega
      · simp only [List.countP_append, List.countP_cons, List.countP_nil, removes, kinds.2]
        omega
    | true =>
      have marked : ((st.line (line.sign :: line.text.1)).line Line.marker).inHunk = true := by
        rw [Parser.line_marker next]
        exact next
      obtain ⟨stays, length, adds, removes⟩ := inductionHypothesis marked
      have shape : (line :: rest).flatMap Line.render =
          (line.sign :: line.text.1) :: Line.marker :: rest.flatMap Line.render := by
        simp [Line.render, newline]
      have one : line.markers = 1 := by simp [Line.markers, newline]
      rw [shape, Parser.added_cons, first, Parser.added_cons, added_marker next]
      refine ⟨stays, ?_, ?_, ?_⟩
      · simp only [List.length_append, List.length_cons, List.length_nil, List.map_cons,
          List.sum_cons, length, one]
        omega
      · simp only [List.countP_append, List.countP_cons, List.countP_nil, adds, kinds.1]
        simp
        omega
      · simp only [List.countP_append, List.countP_cons, List.countP_nil, removes, kinds.2]
        simp
        omega

/-- Without markers, from counters that are the nearest numbers on, the rows are right exactly
when the numbers shown are exact. -/
theorem lines_exact {st : Parser} (inside : st.inHunk = true) (lines : List Line) (old new : Nat)
    (oldLine : st.oldLine = number old) (newLine : st.newLine = number new)
    (newlines : ∀ line ∈ lines, line.noNewline = false) :
    st.added (lines.flatMap Line.render) = Hunk.lineRows old new lines ↔
      (∀ n, old ≤ n ∧ n < old + lines.countP Line.isOld → Exact n) ∧
        ∀ n, new ≤ n ∧ n < new + lines.countP Line.isNew → Exact n := by
  induction lines generalizing st old new with
  | nil =>
    simp only [List.flatMap_nil, Hunk.lineRows, List.countP_nil, Nat.add_zero]
    exact ⟨fun _ => ⟨fun n bounds => by omega, fun n bounds => by omega⟩, fun _ => rfl⟩
  | cons line rest inductionHypothesis =>
    have first := added_line inside line
    rw [oldLine, newLine] at first
    have shape : (line :: rest).flatMap Line.render =
        (line.sign :: line.text.1) :: rest.flatMap Line.render := by
      simp [Line.render, newlines line List.mem_cons_self]
    have later := fun l member => newlines l (List.mem_cons_of_mem line member)
    rw [shape, Parser.added_cons, first, Hunk.lineRows, List.cons_append, List.nil_append,
      List.cons.injEq, line_shown inside, oldLine, newLine]
    have head : shownRow line (number old) (number new) = line.row old new ↔
        (line.isOld = true → Exact old) ∧ (line.isNew = true → Exact new) := by
      unfold shownRow Line.row Line.isOld Line.isNew Exact
      cases line.kind <;> simp
    rw [head]
    -- the first number of a side is exact, and so are those that follow
    have range : ∀ (start count : Nat) (here : Bool),
        (∀ n, start ≤ n ∧ n < start + (count + if here = true then 1 else 0) → Exact n) ↔
          (here = true → Exact start) ∧ ∀ n, (if here then start + 1 else start) ≤ n ∧
            n < (if here then start + 1 else start) + count → Exact n := by
      intro start count here
      cases here with
      | false => simp
      | true =>
        simp only [if_true, forall_const]
        constructor
        · intro every
          exact ⟨every start (by omega), fun n bounds => every n (by omega)⟩
        · intro ⟨now, then_⟩ n bounds
          by_cases same : n = start
          · rw [same]
            exact now
          · exact then_ n (by omega)
    rw [List.countP_cons, List.countP_cons, range, range]
    have step : ∀ (start : Nat) (here : Bool), (here = true → Exact start) →
        (if here then increment (number start) else number start) =
          number (if here then start + 1 else start) := by
      intro start here exact_
      cases here with
      | false => simp only [Bool.false_eq_true, if_false]
      | true =>
        have same : number start = some start := exact_ rfl
        simp only [if_true, same, increment_some]
    constructor
    · intro ⟨⟨exactOld, exactNew⟩, tail⟩
      have both := (inductionHypothesis rfl (if line.isOld then old + 1 else old)
        (if line.isNew then new + 1 else new) (step old line.isOld exactOld)
        (step new line.isNew exactNew) later).mp tail
      exact ⟨⟨exactOld, both.1⟩, exactNew, both.2⟩
    · intro ⟨⟨exactOld, laterOld⟩, exactNew, laterNew⟩
      exact ⟨⟨exactOld, exactNew⟩, (inductionHypothesis rfl
        (if line.isOld then old + 1 else old) (if line.isNew then new + 1 else new)
        (step old line.isOld exactOld) (step new line.isNew exactNew) later).mpr
          ⟨laterOld, laterNew⟩⟩

/-! ## Hunks, files and patches -/

/-- The rows that a hunk adds: its header sets the parser up anew. -/
def Hunk.shown (hunk : Hunk) : List PatchRow :=
  ⟨.hunk, none, none, hunk.header⟩ ::
    Parser.added ⟨[], number hunk.oldStart, number hunk.newStart, true⟩
      (hunk.lines.flatMap Line.render)

def Hunk.markers (hunk : Hunk) : Nat := (hunk.lines.map Line.markers).sum

theorem hunk_added (st : Parser) (hunk : Hunk) :
    (hunk.render.foldl Parser.line st).inHunk = true ∧ st.added hunk.render = hunk.shown := by
  constructor
  · unfold Hunk.render
    rw [List.foldl_cons, Parser.line_hunk]
    exact (lines_added rfl hunk.lines).1
  · have rows := Parser.rows_foldl st hunk.render
    unfold Hunk.render at rows ⊢
    rw [List.foldl_cons, Parser.line_hunk, Parser.rows_foldl, List.append_assoc] at rows
    exact (List.append_cancel_left rows).symm

theorem hunks_added (st : Parser) (hunks : List Hunk) :
    ((hunks.flatMap Hunk.render).foldl Parser.line st).inHunk = (st.inHunk || !hunks.isEmpty) ∧
      st.added (hunks.flatMap Hunk.render) = hunks.flatMap Hunk.shown := by
  induction hunks generalizing st with
  | nil => exact ⟨(Bool.or_false _).symm, rfl⟩
  | cons hunk hunks inductionHypothesis =>
    obtain ⟨inside, first⟩ := hunk_added st hunk
    obtain ⟨stays, rest⟩ := inductionHypothesis (hunk.render.foldl Parser.line st)
    rw [List.flatMap_cons, List.foldl_append, Parser.added_append, first, rest, stays, inside,
      List.flatMap_cons]
    exact ⟨by simp, rfl⟩

theorem header_added {st : Parser} (outside : st.inHunk = false) (header : List HeaderLine) :
    (header.map (·.1)).foldl Parser.line st = st := by
  induction header with
  | nil => rfl
  | cons line rest inductionHypothesis =>
    rw [List.map_cons, List.foldl_cons, Parser.line_header outside]
    exact inductionHypothesis

theorem file_added (st : Parser) (file : FileDiff) :
    (file.render.foldl Parser.line st).inHunk = !file.hunks.isEmpty ∧
      st.added file.render = file.hunks.flatMap Hunk.shown := by
  have rows := Parser.rows_foldl st file.render
  unfold FileDiff.render at rows ⊢
  rw [List.foldl_cons, Parser.line_file, List.foldl_append, header_added rfl] at rows ⊢
  obtain ⟨inside, added⟩ := hunks_added { st with inHunk := false } file.hunks
  rw [Parser.rows_foldl, added] at rows
  exact ⟨inside, (List.append_cancel_left rows).symm⟩

theorem files_added (st : Parser) (files : List FileDiff) :
    ((files.flatMap FileDiff.render).foldl Parser.line st).inHunk =
        (files.getLast?.elim st.inHunk fun file => !file.hunks.isEmpty) ∧
      st.added (files.flatMap FileDiff.render) = (files.flatMap (·.hunks)).flatMap Hunk.shown := by
  induction files generalizing st with
  | nil => exact ⟨rfl, rfl⟩
  | cons file files inductionHypothesis =>
    obtain ⟨inside, first⟩ := file_added st file
    obtain ⟨stays, rest⟩ := inductionHypothesis (file.render.foldl Parser.line st)
    rw [List.flatMap_cons, List.foldl_append, Parser.added_append, first, rest, stays, inside,
      List.flatMap_cons, List.flatMap_append]
    refine ⟨?_, rfl⟩
    cases files with
    | nil => rfl
    | cons next files => rw [List.getLast?_cons_cons]; simp [List.getLast?_cons]

/-! ## The lines of a patch -/

theorem digit_ne_newline {n : Nat} : '\n' ∉ Nat.toDigits 10 n := by
  intro member
  have digit := Nat.isDigit_of_mem_toDigits (b := 10) (by omega) (by omega) member
  cases digit

theorem header_free (hunk : Hunk) : '\n' ∉ hunk.header := by
  have range : ∀ start count, '\n' ∉ Hunk.range start count := by
    intro start count
    unfold Hunk.range
    split <;> simp [digit_ne_newline]
  simp [Hunk.header, range, hunk.heading.2]

theorem render_free (files : List FileDiff) :
    ∀ line ∈ files.flatMap FileDiff.render, '\n' ∉ line := by
  intro text member
  obtain ⟨file, -, member⟩ := List.mem_flatMap.mp member
  rcases List.mem_cons.mp member with rfl | member
  · simp [fileMark, file.names.2]
  rcases List.mem_append.mp member with member | member
  · obtain ⟨header, -, rfl⟩ := List.mem_map.mp member
    exact header.2.1
  obtain ⟨hunk, -, member⟩ := List.mem_flatMap.mp member
  rcases List.mem_cons.mp member with rfl | member
  · exact header_free hunk
  obtain ⟨line, -, member⟩ := List.mem_flatMap.mp member
  rcases List.mem_cons.mp member with rfl | member
  · have sign : '\n' ≠ line.sign := by
      unfold Line.sign
      cases line.kind <;> decide
    simp [sign, line.text.2]
  · split at member
    · rw [List.mem_singleton.mp member]
      decide
    · cases member

/-- The line feed at the end leaves an empty line. -/
theorem splitOn_lines (lines : List (List Char)) (free : ∀ line ∈ lines, '\n' ∉ line) :
    (lines.flatMap (· ++ ['\n'])).splitOn '\n' = lines ++ [[]] := by
  induction lines with
  | nil => rfl
  | cons line lines inductionHypothesis =>
    have here := free line List.mem_cons_self
    rw [List.flatMap_cons, List.append_assoc, List.singleton_append, List.splitOn_eq_splitOnP,
      List.splitOnP_append_cons_of_forall_mem _ _ (by simp), ← List.splitOn_eq_splitOnP,
      inductionHypothesis fun l member => free l (List.mem_cons_of_mem _ member)]
    · rfl
    · intro c member
      simp only [beq_eq_false_iff_ne]
      intro same
      exact here (same ▸ member)

/-- The rows of a patch: those of its hunks, and one more if it ends inside a hunk. -/
theorem parsePatch_patchOf (files : List FileDiff) :
    ∃ last : List PatchRow, parsePatch (patchOf files) =
        (files.flatMap (·.hunks)).flatMap Hunk.shown ++ last ∧
      (last = [] ↔ ∀ file ∈ files.getLast?, file.hunks = []) ∧
      ∀ row ∈ last, row.kind = .context := by
  obtain ⟨inside, added⟩ := files_added {} files
  have rows := Parser.rows_foldl {} (files.flatMap FileDiff.render)
  rw [added] at rows
  unfold parsePatch patchOf
  rw [splitOn_lines _ (render_free files), List.foldl_append, List.foldl_cons, List.foldl_nil,
    Parser.line_end]
  split
  · rename_i ends
    rw [inside] at ends
    refine ⟨_, congrArg (· ++ _) rows, ?_, by simp⟩
    cases last : files.getLast? with
    | none =>
      rw [last] at ends
      cases ends
    | some file =>
      rw [last] at ends
      simp only [Option.elim_some, Bool.not_eq_true', List.isEmpty_eq_false_iff] at ends
      simp [ends]
  · rename_i ends
    rw [inside] at ends
    refine ⟨[], by rw [rows]; simp, ?_, by simp⟩
    cases last : files.getLast? with
    | none => simp
    | some file =>
      rw [last] at ends
      simpa using ends

/-! ## The counts -/

theorem countPatchChanges_eq (rows : List PatchRow) :
    countPatchChanges rows = ⟨rows.countP (·.kind = .add), rows.countP (·.kind = .remove)⟩ := by
  have every : ∀ (rows : List PatchRow) (a d : Nat),
      rows.foldl (fun changes row =>
        match row.kind with
        | .add => { changes with additions := changes.additions + 1 }
        | .remove => { changes with deletions := changes.deletions + 1 }
        | _ => changes) (⟨a, d⟩ : Changes) =
      ⟨a + rows.countP (·.kind = .add), d + rows.countP (·.kind = .remove)⟩ := by
    intro rows
    induction rows with
    | nil => exact fun _ _ => rfl
    | cons row rows inductionHypothesis =>
      intro a d
      rw [List.foldl_cons]
      cases kind : row.kind <;> simp [inductionHypothesis, kind] <;> omega
  simpa [countPatchChanges] using every rows 0 0

theorem shown_counts (hunks : List Hunk) :
    (hunks.flatMap Hunk.shown).countP (·.kind = .add) =
        (hunks.flatMap (·.lines)).countP (·.kind = .add) ∧
      (hunks.flatMap Hunk.shown).countP (·.kind = .remove) =
        (hunks.flatMap (·.lines)).countP (·.kind = .remove) := by
  induction hunks with
  | nil => exact ⟨rfl, rfl⟩
  | cons hunk hunks inductionHypothesis =>
    obtain ⟨-, -, adds, removes⟩ :=
      @lines_added ⟨[], number hunk.oldStart, number hunk.newStart, true⟩ rfl hunk.lines
    simp only [List.flatMap_cons, List.countP_append, Hunk.shown, List.countP_cons, adds, removes,
      inductionHypothesis.1, inductionHypothesis.2]
    simp

/-- The changes are counted right in any case: what is too much is context. -/
theorem changes_counted (files : List FileDiff) :
    countPatchChanges (parsePatch (patchOf files)) =
      ⟨countLines files .add, countLines files .remove⟩ := by
  obtain ⟨last, rows, -, context⟩ := parsePatch_patchOf files
  obtain ⟨adds, removes⟩ := shown_counts (files.flatMap (·.hunks))
  have none_ : ∀ kind, kind ≠ RowKind.context → last.countP (·.kind = kind) = 0 := by
    intro kind other
    rw [List.countP_eq_zero]
    intro row member
    simp [context row member, Ne.symm other]
  rw [rows, countPatchChanges_eq]
  simp only [List.countP_append, adds, removes, none_ .add (by decide), none_ .remove (by decide)]
  rfl

/-! ## When the rows are right -/

theorem length_lineRows (old new : Nat) (lines : List Line) :
    (Hunk.lineRows old new lines).length = lines.length := by
  induction lines generalizing old new with
  | nil => rfl
  | cons line lines inductionHypothesis => simp [Hunk.lineRows, inductionHypothesis]

theorem length_shown (hunk : Hunk) : hunk.shown.length = hunk.rows.length + hunk.markers := by
  obtain ⟨-, length, -, -⟩ :=
    @lines_added ⟨[], number hunk.oldStart, number hunk.newStart, true⟩ rfl hunk.lines
  simp only [Hunk.shown, Hunk.rows, List.length_cons, length, length_lineRows, Hunk.markers]
  omega

theorem markers_eq_zero (hunk : Hunk) :
    hunk.markers = 0 ↔ ∀ line ∈ hunk.lines, line.noNewline = false := by
  unfold Hunk.markers
  induction hunk.lines with
  | nil => simp
  | cons line lines inductionHypothesis =>
    simp only [List.map_cons, List.sum_cons, Nat.add_eq_zero_iff, inductionHypothesis,
      List.forall_mem_cons]
    cases newline : line.noNewline <;> simp [Line.markers, newline]

theorem shown_iff (hunk : Hunk) (newlines : ∀ line ∈ hunk.lines, line.noNewline = false) :
    hunk.shown = hunk.rows ↔ ∀ n, hunk.Numbers n → Exact n := by
  have lines := @lines_exact ⟨[], number hunk.oldStart, number hunk.newStart, true⟩ rfl hunk.lines
    hunk.oldStart hunk.newStart rfl rfl newlines
  unfold Hunk.shown Hunk.rows Hunk.Numbers
  rw [List.cons.injEq, lines]
  simp only [true_and, or_imp, forall_and]

/-- Hunks that show at least as many rows as they have are right together exactly when each
is. -/
theorem hunks_iff (hunks : List Hunk) (last : List PatchRow) :
    hunks.flatMap Hunk.shown ++ last = hunks.flatMap Hunk.rows ↔
      (∀ hunk ∈ hunks, hunk.shown = hunk.rows) ∧ last = [] := by
  constructor
  · intro same
    have lengths := congrArg List.length same
    have least : (hunks.flatMap Hunk.shown).length =
        (hunks.flatMap Hunk.rows).length + (hunks.map Hunk.markers).sum := by
      clear same lengths
      induction hunks with
      | nil => rfl
      | cons hunk hunks inductionHypothesis =>
        have here := length_shown hunk
        simp only [List.flatMap_cons, List.length_append, List.map_cons, List.sum_cons]
        omega
    rw [List.length_append, least] at lengths
    have none_ : last = [] := List.length_eq_zero_iff.mp (by omega)
    have zero : (hunks.map Hunk.markers).sum = 0 := by omega
    subst none_
    refine ⟨?_, rfl⟩
    rw [List.append_nil] at same
    clear lengths least
    induction hunks with
    | nil => simp
    | cons hunk hunks inductionHypothesis =>
      simp only [List.map_cons, List.sum_cons, Nat.add_eq_zero_iff] at zero
      have length := length_shown hunk
      obtain ⟨first, rest⟩ := List.append_inj same (by omega)
      intro h member
      rcases List.mem_cons.mp member with rfl | member
      · exact first
      · exact inductionHypothesis zero.2 rest h member
  · intro ⟨each, none_⟩
    rw [none_, List.append_nil]
    induction hunks with
    | nil => rfl
    | cons hunk hunks inductionHypothesis =>
      rw [List.flatMap_cons, List.flatMap_cons, each hunk List.mem_cons_self,
        inductionHypothesis fun h member => each h (List.mem_cons_of_mem _ member)]

/-- A patch is parsed as it is meant exactly when it is plain. -/
theorem patch_parsed (files : List FileDiff) : Parsed files ↔ Plain files := by
  obtain ⟨last, rows, ends, -⟩ := parsePatch_patchOf files
  have flat : files.flatMap FileDiff.rows = (files.flatMap (·.hunks)).flatMap Hunk.rows := by
    rw [List.flatMap_assoc]
    rfl
  have members : ∀ hunk, hunk ∈ files.flatMap (·.hunks) ↔ ∃ file ∈ files, hunk ∈ file.hunks :=
    fun hunk => List.mem_flatMap
  unfold Parsed
  rw [flat, rows, hunks_iff, ends]
  constructor
  · intro ⟨⟨each, last_⟩, _⟩
    have newlines : ∀ file ∈ files, ∀ hunk ∈ file.hunks, ∀ line ∈ hunk.lines,
        line.noNewline = false := by
      intro file among hunk member
      have same := congrArg List.length (each hunk ((members hunk).mpr ⟨file, among, member⟩))
      rw [length_shown] at same
      exact (markers_eq_zero hunk).mp (by omega)
    refine ⟨newlines, last_, ?_⟩
    intro file among hunk member
    exact (shown_iff hunk (newlines file among hunk member)).mp
      (each hunk ((members hunk).mpr ⟨file, among, member⟩))
  · intro plain
    refine ⟨⟨?_, plain.last⟩, ?_⟩
    · intro hunk member
      obtain ⟨file, among, member⟩ := (members hunk).mp member
      exact (shown_iff hunk (plain.newlines file among hunk member)).mpr
        (plain.numbers file among hunk member)
    · rw [← rows]
      exact changes_counted files

/-- One line is added to a file. -/
def oneAddition : List FileDiff :=
  [{ names := ⟨[' ', 'a', '/', 'f', ' ', 'b', '/', 'f'], by decide⟩
     header := []
     hunks := [⟨1, 1, ⟨[], by decide⟩, [⟨.add, ⟨['x'], by decide⟩, false⟩]⟩] }]

/-- The line feed that ends the patch is shown as a line of context. -/
theorem patch_end_shown : ¬ ∀ files : List FileDiff, Parsed files := by
  intro every
  obtain ⟨rows, -⟩ := every oneAddition
  obtain ⟨last, parsed, ends, -⟩ := parsePatch_patchOf oneAddition
  have flat : oneAddition.flatMap FileDiff.rows = (oneAddition.flatMap (·.hunks)).flatMap Hunk.rows := by
    rw [List.flatMap_assoc]
    rfl
  rw [flat, parsed, hunks_iff] at rows
  have none_ := ends.mp rows.2 _ rfl
  cases none_

end AgentConsole.Web.Patch
