import AgentConsole.Transfer.Ranges

/-! # The grammar of a single range

`parse_single_range` reads a header that it did not write itself.  It drops whitespace in five
places and leaves the numbers to `u64::from_str`.  Which headers it accepts is compared with the
forms `bytes=a-b`, `bytes=a-` and `bytes=-n`, and what it makes of them with the positions that
RFC 7233 assigns to these. -/

namespace AgentConsole.Transfer

open AgentConsole.Lib
open AgentConsole.Bridge.Discovery (isWhitespace trimStart trim stripPrefix)

/-! ## Whitespace around a text -/

def Spaces (text : List Char) : Prop := ∀ c ∈ text, isWhitespace c = true

/-- No whitespace at either end. -/
structure Bare (text : List Char) : Prop where
  first : ∀ c, text.head? = some c → isWhitespace c = false
  last : ∀ c, text.getLast? = some c → isWhitespace c = false

theorem spaces_nil : Spaces [] := fun _ member => absurd member List.not_mem_nil

theorem Spaces.append {left right : List Char} (before : Spaces left) (after : Spaces right) :
    Spaces (left ++ right) := by
  intro c member
  rcases List.mem_append.mp member with front | back
  · exact before c front
  · exact after c back

theorem Spaces.reverse {text : List Char} (spaces : Spaces text) : Spaces text.reverse :=
  fun c member => spaces c (List.mem_reverse.mp member)

theorem Bare.reverse {text : List Char} (bare : Bare text) : Bare text.reverse where
  first := by
    rw [List.head?_reverse]
    exact bare.last
  last := by
    rw [List.getLast?_reverse]
    exact bare.first

theorem bare_of_plain {text : List Char} (plain : ∀ c ∈ text, isWhitespace c = false) :
    Bare text where
  first c found := plain c (List.mem_of_head? found)
  last c found := plain c (List.mem_of_getLast? found)

theorem trimStart_spaces {text : List Char} (spaces : Spaces text) : trimStart text = [] :=
  List.dropWhile_eq_nil_iff.mpr spaces

theorem trimStart_append {left core : List Char} (spaces : Spaces left)
    (first : ∀ c, core.head? = some c → isWhitespace c = false) :
    trimStart (left ++ core) = core := by
  unfold trimStart
  rw [List.dropWhile_append_of_pos spaces]
  cases core with
  | nil => rfl
  | cons c rest => simp [first c rfl]

theorem trim_spaces {text : List Char} (spaces : Spaces text) : trim text = [] := by
  rw [trim, trimStart_spaces spaces]
  rfl

theorem trim_append {left core right : List Char} (before : Spaces left) (bare : Bare core)
    (after : Spaces right) : trim (left ++ core ++ right) = core := by
  cases core with
  | nil =>
    rw [List.append_nil]
    exact trim_spaces (before.append after)
  | cons c rest =>
    have front : trimStart (left ++ (c :: rest ++ right)) = c :: rest ++ right :=
      trimStart_append before bare.first
    have back : trimStart (right.reverse ++ (c :: rest).reverse) = (c :: rest).reverse :=
      trimStart_append after.reverse bare.reverse.first
    rw [trim, List.append_assoc, front, List.reverse_append, back, List.reverse_reverse]

theorem trimStart_split (text : List Char) :
    ∃ left, Spaces left ∧ text = left ++ trimStart text ∧
      ∀ c, (trimStart text).head? = some c → isWhitespace c = false := by
  refine ⟨text.takeWhile isWhitespace, ?_, List.takeWhile_append_dropWhile.symm, ?_⟩
  · intro c member
    exact List.mem_takeWhile_imp member
  · intro c found
    have stopped := List.head?_dropWhile_not isWhitespace text
    rw [show text.dropWhile isWhitespace = trimStart text from rfl, found] at stopped
    simpa using stopped

theorem trim_split (text : List Char) :
    ∃ left right, Spaces left ∧ Spaces right ∧ text = left ++ trim text ++ right ∧
      Bare (trim text) := by
  obtain ⟨left, before, shape, first⟩ := trimStart_split text
  obtain ⟨right, after, reversed, last⟩ := trimStart_split (trimStart text).reverse
  have rest : trimStart text = trim text ++ right.reverse := by
    rw [← List.reverse_reverse (trimStart text), reversed, List.reverse_append]
    rfl
  refine ⟨left, right.reverse, before, after.reverse, ?_, ?_, ?_⟩
  · rw [List.append_assoc, ← rest]
    exact shape
  · intro c found
    refine first c ?_
    rw [rest, List.head?_append, found]
    rfl
  · intro c found
    refine last c ?_
    rw [trim, List.getLast?_reverse] at found
    exact found

/-! ## Numbers with a sign -/

/-- What may stand before the digits for `u64::from_str`. -/
inductive Sign where
  | none
  | plus
deriving DecidableEq

def Sign.text : Sign → List Char
  | none => []
  | plus => ['+']

@[simp] theorem Sign.text_none : Sign.none.text = [] := rfl

theorem Digits.parseU64_small {d : Digits} (small : d.value < 2 ^ 64) :
    parseU64 d.text = some d.value := by
  rw [d.parseU64_text, if_pos small]

theorem Digits.parseU64_large {d : Digits} (large : ¬ d.value < 2 ^ 64) :
    parseU64 d.text = none := by
  rw [d.parseU64_text, if_neg large]

theorem signed_of_parseU64 {text : List Char} {n : Nat} (read : parseU64 text = some n) :
    ∃ (sign : Sign) (d : Digits), text = sign.text ++ d.text ∧ d.value = n ∧ n < 2 ^ 64 := by
  unfold parseU64 at read
  by_cases plus : text.head? = some '+'
  · rw [if_pos plus] at read
    dsimp only at read
    split at read
    next digits =>
      obtain ⟨nonempty, all, small⟩ := digits
      cases read
      refine ⟨.plus, ⟨text.tail, nonempty, all⟩, ?_, rfl, small⟩
      exact (List.cons_head?_tail plus).symm
    next => cases read
  · rw [if_neg plus] at read
    dsimp only at read
    split at read
    next digits =>
      obtain ⟨nonempty, all, small⟩ := digits
      cases read
      exact ⟨.none, ⟨text, nonempty, all⟩, rfl, rfl, small⟩
    next => cases read

/-! ## Spelling a range -/

namespace HeaderRange

/-- The text before the hyphen. -/
def startText : HeaderRange → List Char
  | between first _ | startingAt first => first.text
  | suffix _ => []

/-- The text behind the hyphen. -/
def endText : HeaderRange → List Char
  | between _ last | suffix last => last.text
  | startingAt _ => []

/-- Its numbers have 64 bits. -/
def Fits : HeaderRange → Prop
  | between first last => first.value < 2 ^ 64 ∧ last.value < 2 ^ 64
  | startingAt first => first.value < 2 ^ 64
  | suffix length => length.value < 2 ^ 64

/-- The header is the range with these signs before its numbers, up to whitespace around the
header, behind the unit and around the numbers. -/
def SpelledWith (range : HeaderRange) (startSign endSign : Sign) (header : List Char) : Prop :=
  ∃ s₁ s₂ s₃ s₄ s₅, Spaces s₁ ∧ Spaces s₂ ∧ Spaces s₃ ∧ Spaces s₄ ∧ Spaces s₅ ∧
    header = s₁ ++ ("bytes=".toList ++ (s₂ ++ (startSign.text ++ range.startText) ++ s₃ ++
      '-' :: (s₄ ++ (endSign.text ++ range.endText) ++ s₅)))

/-- The header is the range, up to whitespace. -/
def Spelled (range : HeaderRange) (header : List Char) : Prop :=
  range.SpelledWith .none .none header

/-- The header is the range with `+` before one of its numbers. -/
def Signed (range : HeaderRange) (header : List Char) : Prop :=
  range.SpelledWith .plus .none header ∨ range.SpelledWith .none .plus header ∨
    range.SpelledWith .plus .plus header

theorem SpelledWith.cases {range : HeaderRange} {startSign endSign : Sign} {header : List Char}
    (spelled : range.SpelledWith startSign endSign header) :
    range.Spelled header ∨ range.Signed header := by
  cases startSign with
  | none =>
    cases endSign with
    | none => exact .inl spelled
    | plus => exact .inr (.inr (.inl spelled))
  | plus =>
    cases endSign with
    | none => exact .inr (.inl spelled)
    | plus => exact .inr (.inr (.inr spelled))

end HeaderRange

/-! ## The parts of a header -/

/-- The texts around the hyphen, as the parser finds them. -/
def splitHeader (header : List Char) : Option (List Char × List Char) :=
  (stripPrefix "bytes=".toList (trim header)).bind fun spec =>
    if ',' ∈ spec then none else splitHyphen (trim spec)

theorem eq_of_splitHyphen {spec front back : List Char}
    (split : splitHyphen spec = some (front, back)) : spec = front ++ '-' :: back := by
  unfold splitHyphen at split
  split at split
  next hyphen =>
    obtain ⟨rfl, rfl⟩ := Prod.mk.inj (Option.some.inj split)
    have stopped := List.head?_dropWhile_not (· ≠ '-') spec
    cases tail : spec.dropWhile (fun c => decide (c ≠ '-')) with
    | nil =>
      have none_ := List.dropWhile_eq_nil_iff.mp tail '-' hyphen
      simp at none_
    | cons c rest =>
      rw [tail] at stopped
      obtain rfl : c = '-' := by simpa using stopped
      rw [List.tail_cons, ← tail]
      exact List.takeWhile_append_dropWhile.symm
  next => cases split

theorem eq_of_stripPrefix {label text rest : List Char}
    (stripped : stripPrefix label text = some rest) : text = label ++ rest := by
  unfold stripPrefix at stripped
  split at stripped
  next begins =>
    obtain ⟨more, rfl⟩ := List.isPrefixOf_iff_prefix.mp begins
    rw [List.drop_left, Option.some.injEq] at stripped
    rw [stripped]
  next => cases stripped

/-- A header with two parts is the unit, the parts and whitespace. -/
theorem shape_of_splitHeader {header startText endText : List Char}
    (split : splitHeader header = some (startText, endText)) :
    ∃ s₁ s₂ s₃, Spaces s₁ ∧ Spaces s₂ ∧ Spaces s₃ ∧
      header = s₁ ++ ("bytes=".toList ++ (s₂ ++ startText ++ '-' :: (endText ++ s₃))) := by
  obtain ⟨spec, stripped, parts⟩ := Option.bind_eq_some_iff.mp split
  by_cases comma : ',' ∈ spec
  · rw [if_pos comma] at parts
    cases parts
  · rw [if_neg comma] at parts
    obtain ⟨left, right, before, after, shape, -⟩ := trim_split header
    obtain ⟨left', right', before', after', shape', -⟩ := trim_split spec
    refine ⟨left, left', right' ++ right, before, before', after'.append after, ?_⟩
    rw [eq_of_splitHyphen parts] at shape'
    rw [eq_of_stripPrefix stripped, shape'] at shape
    rw [shape]
    simp only [List.append_assoc, List.cons_append]

/-- The parts of a spelled range. -/
theorem splitHeader_spelled {start last s₁ s₂ s₃ s₄ s₅ : List Char}
    (plainStart : ∀ c ∈ start, isWhitespace c = false ∧ c ≠ ',' ∧ c ≠ '-')
    (plainLast : ∀ c ∈ last, isWhitespace c = false ∧ c ≠ ',')
    (spaces₁ : Spaces s₁) (spaces₂ : Spaces s₂) (spaces₃ : Spaces s₃) (spaces₄ : Spaces s₄)
    (spaces₅ : Spaces s₅) :
    splitHeader (s₁ ++ ("bytes=".toList ++ (s₂ ++ start ++ s₃ ++ '-' :: (s₄ ++ last ++ s₅)))) =
      some (if start = [] then [] else start ++ s₃, if last = [] then [] else s₄ ++ last) := by
  have noComma : ∀ s : List Char, Spaces s → ',' ∉ s := by
    intro s spaces member
    exact absurd (spaces _ member) (by decide)
  have noHyphen : ∀ s : List Char, Spaces s → '-' ∉ s := by
    intro s spaces member
    exact absurd (spaces _ member) (by decide)
  -- the end of what remains of the header, and the whitespace behind it
  obtain ⟨tail, rest, tailIs, restSpaces, whole, tailBare⟩ : ∃ tail rest,
      tail = (if last = [] then [] else s₄ ++ last) ∧ Spaces rest ∧
      s₄ ++ last ++ s₅ = tail ++ rest ∧
      ∀ front : List Char, ∀ c, (front ++ '-' :: tail).getLast? = some c → isWhitespace c = false := by
    by_cases empty : last = []
    · refine ⟨[], s₄ ++ s₅, (if_pos empty).symm, spaces₄.append spaces₅, by simp [empty], ?_⟩
      intro front c found
      rw [List.getLast?_concat, Option.some.injEq] at found
      rw [← found]
      decide
    · refine ⟨s₄ ++ last, s₅, (if_neg empty).symm, spaces₅, rfl, ?_⟩
      intro front c found
      have inLast : last.getLast? = some c := by
        rw [show front ++ '-' :: (s₄ ++ last) = (front ++ '-' :: s₄) ++ last by simp,
          List.getLast?_append_of_ne_nil _ empty] at found
        exact found
      exact (plainLast c (List.mem_of_getLast? inLast)).1
  -- the beginning of the specification, and the whitespace before it
  obtain ⟨head, lead, headIs, leadSpaces, front, headBare⟩ : ∃ head lead,
      head = (if start = [] then [] else start ++ s₃) ∧ Spaces lead ∧
      s₂ ++ start ++ s₃ = lead ++ head ∧
      ∀ more : List Char, ∀ c, (head ++ '-' :: more).head? = some c → isWhitespace c = false := by
    by_cases empty : start = []
    · refine ⟨[], s₂ ++ s₃, (if_pos empty).symm, spaces₂.append spaces₃, by simp [empty], ?_⟩
      intro more c found
      rw [List.nil_append, List.head?_cons, Option.some.injEq] at found
      rw [← found]
      decide
    · refine ⟨start ++ s₃, s₂, (if_neg empty).symm, spaces₂, by simp, ?_⟩
      intro more c found
      have inStart : start.head? = some c := by
        rw [List.append_assoc, List.head?_append_of_ne_nil _ empty] at found
        exact found
      exact (plainStart c (List.mem_of_head? inStart)).1
  have trimmed : trim (s₁ ++ ("bytes=".toList ++ (s₂ ++ start ++ s₃ ++ '-' :: (s₄ ++ last ++ s₅)))) =
      "bytes=".toList ++ (lead ++ (head ++ '-' :: tail)) := by
    have bare : Bare ("bytes=".toList ++ (lead ++ (head ++ '-' :: tail))) := by
      constructor
      · intro c found
        have first : c = 'b' := by simpa using found.symm
        rw [first]
        decide
      · intro c found
        refine tailBare ("bytes=".toList ++ lead ++ head) c ?_
        rw [← found]
        simp only [List.append_assoc]
    have around := trim_append spaces₁ bare restSpaces
    rw [← around]
    simp only [front, whole, List.append_assoc, List.cons_append]
  have comma : ',' ∉ lead ++ (head ++ '-' :: tail) := by
    have inHead : ',' ∉ lead ++ head := by
      rw [← front]
      simp only [List.mem_append, not_or]
      exact ⟨⟨noComma _ spaces₂, fun member => (plainStart _ member).2.1 rfl⟩, noComma _ spaces₃⟩
    have inTail : ',' ∉ tail := by
      have all : ',' ∉ tail ++ rest := by
        rw [← whole]
        simp only [List.mem_append, not_or]
        exact ⟨⟨noComma _ spaces₄, fun member => (plainLast _ member).2 rfl⟩, noComma _ spaces₅⟩
      exact fun member => all (List.mem_append_left _ member)
    simp only [List.mem_append, List.mem_cons, not_or] at inHead ⊢
    exact ⟨inHead.1, inHead.2, by decide, inTail⟩
  have hyphen : '-' ∉ head := by
    have all : '-' ∉ lead ++ head := by
      rw [← front]
      simp only [List.mem_append, not_or]
      exact ⟨⟨noHyphen _ spaces₂, fun member => (plainStart _ member).2.2 rfl⟩, noHyphen _ spaces₃⟩
    exact fun member => all (List.mem_append_right _ member)
  have spec : trim (lead ++ (head ++ '-' :: tail)) = head ++ '-' :: tail := by
    have around := trim_append leadSpaces ⟨headBare tail, tailBare head⟩ spaces_nil
    rwa [List.append_nil] at around
  have stripped : stripPrefix "bytes=".toList ("bytes=".toList ++ (lead ++ (head ++ '-' :: tail))) =
      some (lead ++ (head ++ '-' :: tail)) := by
    rw [stripPrefix, if_pos (by simp), List.drop_left]
  rw [splitHeader, trimmed, stripped, Option.bind_some, if_neg comma, spec,
    splitHyphen_append hyphen, headIs, tailIs]

/-! ## What is made of a range -/

/-- It has this position of a file. -/
def ByteRange.Has (total position : Nat) : ByteRange → Prop
  | between first last => first ≤ position ∧ position ≤ last
  | startingAt first => first ≤ position
  | suffix length => total ≤ position + length

/-- The slice is not empty, lies in the file, and has the positions of the range there. -/
structure HttpRange.Denotes (slice : HttpRange) (total : Nat) (range : ByteRange) : Prop where
  nonempty : slice.start ≤ slice.endInclusive
  positions : ∀ position, slice.start ≤ position ∧ position ≤ slice.endInclusive ↔
    position < total ∧ range.Has total position

/-- The slice for a range, if there is one. -/
def ByteRange.slice (total : Nat) : ByteRange → Option HttpRange
  | between first last =>
    if first < total ∧ first ≤ last then some ⟨first, min last (total - 1)⟩ else none
  | startingAt first => if first < total then some ⟨first, total - 1⟩ else none
  | suffix length => if length = 0 ∨ total = 0 then none else some ⟨total - length, total - 1⟩

theorem ByteRange.slice_iff {range : ByteRange} {total : Nat} {slice : HttpRange} :
    range.slice total = some slice ↔ slice.Denotes total range := by
  obtain ⟨start, last⟩ := slice
  constructor
  · intro same
    cases range with
    | between first greatest =>
      simp only [ByteRange.slice, Option.ite_none_right_eq_some, Option.some.injEq,
        HttpRange.mk.injEq] at same
      obtain ⟨inside, rfl, rfl⟩ := same
      exact ⟨by simp only; omega, fun position => by simp only [ByteRange.Has]; omega⟩
    | startingAt first =>
      simp only [ByteRange.slice, Option.ite_none_right_eq_some, Option.some.injEq,
        HttpRange.mk.injEq] at same
      obtain ⟨inside, rfl, rfl⟩ := same
      exact ⟨by simp only; omega, fun position => by simp only [ByteRange.Has]; omega⟩
    | suffix length =>
      simp only [ByteRange.slice, Option.ite_none_left_eq_some, Option.some.injEq,
        HttpRange.mk.injEq] at same
      obtain ⟨some_, rfl, rfl⟩ := same
      exact ⟨by simp only; omega, fun position => by simp only [ByteRange.Has]; omega⟩
  · intro ⟨nonempty, positions⟩
    have atStart := (positions start).mp ⟨le_rfl, nonempty⟩
    have atLast := (positions last).mp ⟨nonempty, le_rfl⟩
    have beyond := mt (positions (last + 1)).mpr (fun inside => by simp only at inside; omega)
    simp only at nonempty positions
    cases range with
    | between first greatest =>
      simp only [ByteRange.Has] at atStart atLast beyond positions
      have least := (positions first).mpr (by omega)
      rw [ByteRange.slice, if_pos (by omega)]
      simp only [Option.some.injEq, HttpRange.mk.injEq]
      omega
    | startingAt first =>
      simp only [ByteRange.Has] at atStart atLast beyond positions
      have least := (positions first).mpr (by omega)
      rw [ByteRange.slice, if_pos (by omega)]
      simp only [Option.some.injEq, HttpRange.mk.injEq]
      omega
    | suffix length =>
      simp only [ByteRange.Has] at atStart atLast beyond positions
      have least := (positions (total - length)).mpr (by omega)
      rw [ByteRange.slice, if_neg (by omega)]
      simp only [Option.some.injEq, HttpRange.mk.injEq]
      omega

/-- The answer of the parser for a range. -/
def ByteRange.answer (total : Nat) (range : ByteRange) : Except FilesError HttpRange :=
  ((range.slice total).map Except.ok).getD (.error .rangeInvalid)

theorem ByteRange.answer_ok_iff {range : ByteRange} {total : Nat} {slice : HttpRange} :
    range.answer total = .ok slice ↔ slice.Denotes total range := by
  rw [← ByteRange.slice_iff, ByteRange.answer]
  cases range.slice total with
  | none => simp
  | some other => simp

/-! ## The parser -/

variable {header startPart endPart : List Char} {total : Nat}

theorem parseSingleRange_unsplit (split : splitHeader header = none) :
    parseSingleRange header total = some (.error .rangeInvalid) := by
  unfold parseSingleRange
  rw [show ((stripPrefix "bytes=".toList (trim header)).bind fun spec =>
    if ',' ∈ spec then none else splitHyphen (trim spec)) = splitHeader header from rfl, split]

/-- The numbers that the parser reads, and what it makes of them: the last bytes, all bytes from
a position, or those between two positions. -/
def rangeOfParts (startPart endPart : List Char) : Option ByteRange :=
  if startPart = [] then (parseU64 (trim endPart)).map ByteRange.suffix
  else (parseU64 (trim startPart)).bind fun start =>
    if endPart = [] then some (.startingAt start)
    else (parseU64 (trim endPart)).map (ByteRange.between start)

theorem parseSingleRange_parts (split : splitHeader header = some (startPart, endPart)) :
    parseSingleRange header total =
      some (((rangeOfParts startPart endPart).map (ByteRange.answer total)).getD
        (.error .rangeInvalid)) := by
  unfold parseSingleRange rangeOfParts
  rw [show ((stripPrefix "bytes=".toList (trim header)).bind fun spec =>
    if ',' ∈ spec then none else splitHyphen (trim spec)) = splitHeader header from rfl, split]
  dsimp only
  by_cases last : startPart = []
  · rw [if_pos last, if_pos last]
    cases parseU64 (trim endPart) with
    | none => rfl
    | some length =>
      by_cases nothing : length = 0 ∨ total = 0
      · simp [ByteRange.answer, ByteRange.slice, nothing]
      · have before : u64Sub total 1 = some (total - 1) := if_pos (by omega)
        simp [ByteRange.answer, ByteRange.slice, nothing, before]
  · rw [if_neg last, if_neg last]
    cases parseU64 (trim startPart) with
    | none => rfl
    | some start =>
      dsimp only [Option.bind_some]
      rcases Nat.lt_or_ge start total with inside | beyond
      · have before : u64Sub total 1 = some (total - 1) := if_pos (by omega)
        rw [if_neg (by omega)]
        by_cases open_ : endPart = []
        · rw [if_pos open_, if_pos open_]
          simp [ByteRange.answer, ByteRange.slice, inside, before]
        · rw [if_neg open_, if_neg open_]
          cases parseU64 (trim endPart) with
          | none => rfl
          | some greatest =>
            dsimp only [Option.map_some]
            rcases Nat.lt_or_ge greatest start with reversed | order
            · rw [if_pos reversed]
              have empty : ¬ (start < total ∧ start ≤ greatest) := by omega
              simp [ByteRange.answer, ByteRange.slice, empty]
            · rw [if_neg (by omega)]
              simp [ByteRange.answer, ByteRange.slice, inside, order, before]
      · rw [if_pos beyond]
        have outside : ¬ start < total := by omega
        by_cases open_ : endPart = []
        · simp [open_, ByteRange.answer, ByteRange.slice, outside]
        · cases parseU64 (trim endPart) with
          | none => simp [open_]
          | some greatest => simp [open_, ByteRange.answer, ByteRange.slice, outside]

theorem Digits.separate (d : Digits) :
    ∀ c ∈ d.text, isWhitespace c = false ∧ c ≠ ',' ∧ c ≠ '-' := by
  intro c member
  refine ⟨d.plain c member, ?_, ?_⟩
  · rintro rfl
    exact d.not_mem (by decide) member
  · rintro rfl
    exact d.not_mem (by decide) member

/-- The parts of a header that spells a range, and what their numbers are. -/
theorem parts_of_spelled {range : HeaderRange} (spelled : range.Spelled header) :
    ∃ startPart endPart, splitHeader header = some (startPart, endPart) ∧
      (range.Fits → rangeOfParts startPart endPart = some range.range) ∧
      (¬ range.Fits → rangeOfParts startPart endPart = none) := by
  obtain ⟨s₁, s₂, s₃, s₄, s₅, spaces₁, spaces₂, spaces₃, spaces₄, spaces₅, rfl⟩ := spelled
  have trimLeft : ∀ d : Digits, trim (d.text ++ s₃) = d.text := fun d =>
    trim_append spaces_nil (bare_of_plain d.plain) spaces₃
  have trimRight : ∀ d : Digits, trim (s₄ ++ d.text) = d.text := by
    intro d
    have around := trim_append spaces₄ (bare_of_plain d.plain) spaces_nil
    rwa [List.append_nil] at around
  have plainStart : ∀ c ∈ range.startText, isWhitespace c = false ∧ c ≠ ',' ∧ c ≠ '-' := by
    intro c member
    cases range with
    | between first last => exact first.separate c member
    | startingAt first => exact first.separate c member
    | suffix length => exact absurd member List.not_mem_nil
  have plainLast : ∀ c ∈ range.endText, isWhitespace c = false ∧ c ≠ ',' := by
    intro c member
    cases range with
    | between first last => exact ⟨(last.separate c member).1, (last.separate c member).2.1⟩
    | startingAt first => exact absurd member List.not_mem_nil
    | suffix length => exact ⟨(length.separate c member).1, (length.separate c member).2.1⟩
  refine ⟨_, _, splitHeader_spelled plainStart plainLast spaces₁ spaces₂ spaces₃ spaces₄ spaces₅,
    ?_, ?_⟩
  · intro fits
    cases range with
    | between first last =>
      simp [HeaderRange.startText, HeaderRange.endText, rangeOfParts, first.nonempty,
        last.nonempty, trimLeft, trimRight, Digits.parseU64_small fits.1,
        Digits.parseU64_small fits.2, HeaderRange.range]
    | startingAt first =>
      simp [HeaderRange.startText, HeaderRange.endText, rangeOfParts, first.nonempty, trimLeft,
        Digits.parseU64_small fits, HeaderRange.range]
    | suffix length =>
      simp [HeaderRange.startText, HeaderRange.endText, rangeOfParts, length.nonempty, trimRight,
        Digits.parseU64_small fits, HeaderRange.range]
  · intro large
    cases range with
    | between first last =>
      by_cases small : first.value < 2 ^ 64
      · have large' : ¬ last.value < 2 ^ 64 := fun small' => large ⟨small, small'⟩
        simp [HeaderRange.startText, HeaderRange.endText, rangeOfParts, first.nonempty,
          last.nonempty, trimLeft, trimRight, Digits.parseU64_large large']
      · simp [HeaderRange.startText, HeaderRange.endText, rangeOfParts, first.nonempty, trimLeft,
          Digits.parseU64_large small]
    | startingAt first =>
      simp [HeaderRange.startText, HeaderRange.endText, rangeOfParts, first.nonempty, trimLeft,
        Digits.parseU64_large large]
    | suffix length =>
      simp [HeaderRange.startText, HeaderRange.endText, rangeOfParts, length.nonempty, trimRight,
        Digits.parseU64_large large]

/-- A spelled range is read as what it is, if its numbers have 64 bits. -/
theorem accepted_spelled_iff {range : HeaderRange} (spelled : range.Spelled header)
    {slice : HttpRange} :
    parseSingleRange header total = some (.ok slice) ↔
      range.Fits ∧ slice.Denotes total range.range := by
  obtain ⟨startPart, endPart, split, small, large⟩ := parts_of_spelled spelled
  rw [parseSingleRange_parts split, ← ByteRange.answer_ok_iff, Option.some.injEq]
  by_cases fits : range.Fits
  · rw [small fits]
    exact ⟨fun same => ⟨fits, same⟩, fun both => both.2⟩
  · rw [large fits]
    constructor
    · intro same
      cases same
    · intro ⟨fits', _⟩
      exact absurd fits' fits

/-- What is accepted spells a range, perhaps with signs. -/
theorem spelled_of_accepted {slice : HttpRange}
    (accepted : parseSingleRange header total = some (.ok slice)) :
    ∃ (range : HeaderRange) (startSign endSign : Sign),
      range.SpelledWith startSign endSign header ∧ range.Fits := by
  cases split : splitHeader header with
  | none =>
    rw [parseSingleRange_unsplit split] at accepted
    cases accepted
  | some parts =>
    obtain ⟨startPart, endPart⟩ := parts
    obtain ⟨s₁, s₂, s₃, spaces₁, spaces₂, spaces₃, shape⟩ := shape_of_splitHeader split
    obtain ⟨left, right, before, after, startIs, -⟩ := trim_split startPart
    obtain ⟨left', right', before', after', endIs, -⟩ := trim_split endPart
    rw [parseSingleRange_parts split] at accepted
    cases read : rangeOfParts startPart endPart with
    | none =>
      rw [read] at accepted
      cases accepted
    | some range =>
      unfold rangeOfParts at read
      by_cases last : startPart = []
      · rw [if_pos last] at read
        obtain ⟨n, number, -⟩ := Option.map_eq_some_iff.mp read
        obtain ⟨sign, d, text, rfl, small⟩ := signed_of_parseU64 number
        rw [text] at endIs
        refine ⟨.suffix d, .none, sign, ⟨s₁, s₂, [], left', right' ++ s₃, spaces₁, spaces₂,
          spaces_nil, before', after'.append spaces₃, ?_⟩, small⟩
        rw [shape, last, endIs]
        simp [HeaderRange.startText, HeaderRange.endText, Sign.text]
      · rw [if_neg last] at read
        obtain ⟨n, number, rest⟩ := Option.bind_eq_some_iff.mp read
        obtain ⟨sign, d, text, rfl, small⟩ := signed_of_parseU64 number
        rw [text] at startIs
        by_cases open_ : endPart = []
        · refine ⟨.startingAt d, sign, .none, ⟨s₁, s₂ ++ left, right, [], s₃, spaces₁,
            spaces₂.append before, after, spaces_nil, spaces₃, ?_⟩, small⟩
          rw [shape, open_, startIs]
          simp [HeaderRange.startText, HeaderRange.endText, Sign.text]
        · rw [if_neg open_] at rest
          obtain ⟨m, number', -⟩ := Option.map_eq_some_iff.mp rest
          obtain ⟨sign', d', text', rfl, small'⟩ := signed_of_parseU64 number'
          rw [text'] at endIs
          refine ⟨.between d d', sign, sign', ⟨s₁, s₂ ++ left, right, left', right' ++ s₃, spaces₁,
            spaces₂.append before, after, before', after'.append spaces₃, ?_⟩, small, small'⟩
          rw [shape, startIs, endIs]
          simp [HeaderRange.startText, HeaderRange.endText]

theorem parseSingleRange_total (header : List Char) (total : Nat) :
    ∃ outcome, parseSingleRange header total = some outcome ∧
      ∀ error, outcome = .error error → error = .rangeInvalid := by
  cases split : splitHeader header with
  | none => exact ⟨_, parseSingleRange_unsplit split, fun error same => (by cases same; rfl)⟩
  | some parts =>
    refine ⟨_, parseSingleRange_parts split, ?_⟩
    intro error failed
    cases read : rangeOfParts parts.1 parts.2 with
    | none =>
      rw [read] at failed
      cases failed
      rfl
    | some range =>
      rw [read, Option.map_some, Option.getD_some, ByteRange.answer] at failed
      cases sliced : range.slice total with
      | none =>
        rw [sliced] at failed
        cases failed
        rfl
      | some slice =>
        rw [sliced] at failed
        cases failed

theorem denoted_of_accepted {slice : HttpRange}
    (accepted : parseSingleRange header total = some (.ok slice)) :
    ∃ range : ByteRange, slice.Denotes total range := by
  cases split : splitHeader header with
  | none =>
    rw [parseSingleRange_unsplit split] at accepted
    cases accepted
  | some parts =>
    rw [parseSingleRange_parts split, Option.some.injEq] at accepted
    cases read : rangeOfParts parts.1 parts.2 with
    | none =>
      rw [read] at accepted
      cases accepted
    | some range =>
      rw [read] at accepted
      exact ⟨range, ByteRange.answer_ok_iff.mp accepted⟩

/-- The length of a slice of a file whose size has 64 bits is computed exactly. -/
theorem HttpRange.Denotes.len {slice : HttpRange} {range : ByteRange}
    (denotes : slice.Denotes total range) (machine : total < 2 ^ 64) :
    slice.len = some (slice.endInclusive - slice.start + 1) := by
  have inside := ((denotes.positions slice.endInclusive).mp ⟨denotes.nonempty, le_rfl⟩).1
  have difference : u64Sub slice.endInclusive slice.start =
      some (slice.endInclusive - slice.start) := if_pos denotes.nonempty
  have sum : u64Add (slice.endInclusive - slice.start) 1 =
      some (slice.endInclusive - slice.start + 1) := if_pos (by omega)
  simp only [HttpRange.len, difference, bind, Option.bind_some, sum]

/-- **Single ranges**: no header makes the parser overflow, and what it rejects it rejects with
one error.  A slice is a part of the file whose length is computed exactly.  A header that is a
range up to whitespace is accepted exactly when its numbers have 64 bits and its positions in the
file can be a slice, and the slice has these positions.  No other header is accepted, if no `+`
stands before its numbers. -/
theorem single_range_grammar (header : List Char) (total : Nat) (machine : total < 2 ^ 64) :
    ∃ outcome, parseSingleRange header total = some outcome ∧
      (∀ error, outcome = .error error → error = .rangeInvalid) ∧
      (∀ slice, outcome = .ok slice →
        slice.start ≤ slice.endInclusive ∧ slice.endInclusive < total ∧
          slice.len = some (slice.endInclusive - slice.start + 1)) ∧
      (∀ range : HeaderRange, range.Spelled header → ∀ slice,
        outcome = .ok slice ↔ range.Fits ∧ slice.Denotes total range.range) ∧
      ∀ slice, outcome = .ok slice →
        ∃ range : HeaderRange, range.Spelled header ∨ range.Signed header := by
  obtain ⟨outcome, parsed, errors⟩ := parseSingleRange_total header total
  refine ⟨outcome, parsed, errors, ?_, ?_, ?_⟩
  · intro slice accepted
    obtain ⟨range, denotes⟩ := denoted_of_accepted (accepted ▸ parsed)
    have inside := ((denotes.positions slice.endInclusive).mp ⟨denotes.nonempty, le_rfl⟩).1
    exact ⟨denotes.nonempty, inside, denotes.len machine⟩
  · intro range spelled slice
    rw [← accepted_spelled_iff spelled, parsed, Option.some.injEq]
  · intro slice accepted
    obtain ⟨range, startSign, endSign, spelled, -⟩ := spelled_of_accepted (accepted ▸ parsed)
    exact ⟨range, spelled.cases⟩

theorem single_range_grammar_short :
    ∃ outcome, parseSingleRange "bytes=0-4".toList 10 = some outcome ∧
      (∀ error, outcome = .error error → error = .rangeInvalid) ∧
      (∀ slice, outcome = .ok slice →
        slice.start ≤ slice.endInclusive ∧ slice.endInclusive < 10 ∧
          slice.len = some (slice.endInclusive - slice.start + 1)) ∧
      (∀ range : HeaderRange, range.Spelled "bytes=0-4".toList → ∀ slice,
        outcome = .ok slice ↔ range.Fits ∧ slice.Denotes 10 range.range) ∧
      ∀ slice, outcome = .ok slice →
        ∃ range : HeaderRange, range.Spelled "bytes=0-4".toList ∨ range.Signed "bytes=0-4".toList :=
  single_range_grammar "bytes=0-4".toList 10 (by decide)

/-- Whitespace around the numbers is accepted. -/
theorem spaced_range_accepted :
    ¬ ∀ (header : List Char) (total : Nat), total < 2 ^ 64 → ∀ slice,
      parseSingleRange header total = some (.ok slice) →
        ∃ range : HeaderRange, header = "bytes=".toList ++ range.text := by
  intro every
  have accepted : parseSingleRange "bytes=0 - 4".toList 10 = some (.ok ⟨0, 4⟩) := by
    decide +kernel
  obtain ⟨range, plain⟩ := every "bytes=0 - 4".toList 10 (by decide) ⟨0, 4⟩ accepted
  have text : range.text = "0 - 4".toList := List.append_cancel_left plain.symm
  have space : ' ' ∈ range.text := by
    rw [text]
    decide
  exact absurd (range.plain ' ' space) (by decide)

end AgentConsole.Transfer
