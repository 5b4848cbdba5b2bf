import AgentConsole.Lib.Utf8Decode

/-! # UTF-8 read page by page

A text is encoded, the bytes are cut into pages, and every page is read on its own, without
what it has of a byte order mark at its front.  This gives the text again exactly when every
page is the encoding of a part of it that does not begin with the mark.

A character that is cut leaves replacement characters on both sides, so reading gains no
character other than U+FFFD; and if it loses none of these, it gains a U+FFFD wherever a
character is cut. -/

namespace AgentConsole.Lib.Utf8

def replacement : Char := '\uFFFD'

def byteOrderMark : Char := '\uFEFF'

/-- Without a byte order mark at the front. -/
def stripMark : List UInt8 → List UInt8
  | 0xEF :: 0xBB :: 0xBF :: rest => rest
  | bytes => bytes

/-- How a page is read. -/
def readPage (page : List UInt8) : List Char := lossy (stripMark page)

/-! ## Reading what has been cut -/

theorem brokenLength_pos (byte : UInt8) (rest : List UInt8) : 0 < brokenLength (byte :: rest) := by
  cases rest with
  | nil => simp [brokenLength]
  | cons second rest =>
    simp only [brokenLength]
    split
    · omega
    · split <;> omega

theorem scanLoop_enough (rounds more : Nat) (bytes : List UInt8) (enough : bytes.length ≤ rounds) :
    scanLoop (rounds + more) bytes = scanLoop rounds bytes := by
  induction rounds generalizing bytes with
  | zero =>
    have empty : bytes = [] := List.length_eq_zero_iff.mp (Nat.le_zero.mp enough)
    subst empty
    cases more <;> simp [scanLoop]
  | succ rounds inductionHypothesis =>
    rw [Nat.add_right_comm]
    cases bytes with
    | nil => rfl
    | cons byte rest =>
      cases read : decodeChar (byte :: rest) with
      | none =>
        have positive := brokenLength_pos byte rest
        simp only [scanLoop, read]
        rw [inductionHypothesis _ (by rw [List.length_drop]; omega)]
      | some c =>
        have positive := c.utf8Size_pos
        simp only [scanLoop, read]
        rw [inductionHypothesis _ (by rw [List.length_drop]; omega)]

theorem scanLoop_eq_scan {rounds : Nat} {bytes : List UInt8} (enough : bytes.length ≤ rounds) :
    scanLoop rounds bytes = scan bytes := by
  obtain ⟨more, rfl⟩ := Nat.exists_eq_add_of_le enough
  exact scanLoop_enough bytes.length more bytes le_rfl

theorem lossy_char (c : Char) (rest : List UInt8) :
    lossy (String.utf8EncodeChar c ++ rest) = c :: lossy rest := by
  obtain ⟨lead, tail, shape, -⟩ := encodeChar_shape c
  have size : c.utf8Size = (lead :: tail).length := by
    rw [← shape, String.length_utf8EncodeChar]
  have read : decodeChar (lead :: (tail ++ rest)) = some c := by
    have read := decodeChar_encode c rest
    rwa [shape] at read
  have later : (lead :: (tail ++ rest)).drop c.utf8Size = rest := by
    rw [size]
    exact List.drop_left
  have scanned : scan (lead :: (tail ++ rest)) = some c :: scan rest := by
    show scanLoop (tail ++ rest).length.succ _ = _
    rw [scanLoop]
    simp only [read, later]
    rw [scanLoop_eq_scan (by simp)]
  rw [shape, lossy, List.cons_append, scanned]
  rfl

theorem lossy_encode_append (text : List Char) (rest : List UInt8) :
    lossy (encode text ++ rest) = text ++ lossy rest := by
  induction text with
  | nil => rfl
  | cons c text inductionHypothesis =>
    rw [encode_cons, List.append_assoc, lossy_char, inductionHypothesis]
    rfl

theorem lossy_broken {byte : UInt8} {rest : List UInt8} (broken : decodeChar (byte :: rest) = none) :
    lossy (byte :: rest) =
      replacement :: lossy ((byte :: rest).drop (brokenLength (byte :: rest))) := by
  have positive := brokenLength_pos byte rest
  have scanned : scan (byte :: rest) =
      none :: scan ((byte :: rest).drop (brokenLength (byte :: rest))) := by
    show scanLoop rest.length.succ _ = _
    rw [scanLoop]
    simp only [broken]
    rw [scanLoop_eq_scan (by rw [List.length_drop, List.length_cons]; omega)]
  rw [lossy, scanned]
  rfl

theorem leads_continuation {byte : UInt8} (continued : isContinuation byte = true) :
    leads byte = none := by
  have all : ∀ n : Fin 256, isContinuation (UInt8.ofNat n) = true →
      leads (UInt8.ofNat n) = none := by
    decide +kernel
  have known := all ⟨byte.toNat, byte.toNat_lt⟩
  simp only [UInt8.ofNat_toNat] at known
  exact known continued

/-- No character begins with a continuation byte. -/
theorem decodeChar_continuation {byte : UInt8} {rest : List UInt8}
    (continued : isContinuation byte = true) : decodeChar (byte :: rest) = none := by
  cases read : decodeChar (byte :: rest) with
  | none => rfl
  | some c =>
    obtain ⟨lead, tail, shape, first, -⟩ := encodeChar_shape c
    have same := encode_of_decodeChar read
    rw [shape, List.cons_append] at same
    obtain ⟨here, -⟩ := List.cons.inj same
    rw [here, first] at continued
    cases continued

theorem lossy_tail {tail : List UInt8} (continued : ∀ byte ∈ tail, isContinuation byte = true)
    (rest : List UInt8) :
    lossy (tail ++ rest) = List.replicate tail.length replacement ++ lossy rest := by
  induction tail with
  | nil => rfl
  | cons byte tail inductionHypothesis =>
    have here := continued byte List.mem_cons_self
    have one : brokenLength (byte :: (tail ++ rest)) = 1 := by
      cases tail ++ rest with
      | nil => rfl
      | cons second more => simp [brokenLength, leads_continuation here]
    rw [List.cons_append, lossy_broken (decodeChar_continuation here), one, List.drop_one,
      List.tail_cons, inductionHypothesis fun b member => continued b (List.mem_cons_of_mem _ member)]
    rfl

/-- The front part of a character is read as replacement characters, at least one. -/
theorem lossy_part {c : Char} {front back : List UInt8} (cut : String.utf8EncodeChar c = front ++ back)
    (some_ : front ≠ []) (less : back ≠ []) :
    ∃ n, lossy front = List.replicate (n + 1) replacement := by
  obtain ⟨lead, tail, shape, -, continued, -⟩ := encodeChar_shape c
  obtain ⟨byte, rest, rfl⟩ := List.exists_cons_of_ne_nil some_
  have whole : lead :: tail = byte :: (rest ++ back) := by rw [← shape, cut]; rfl
  obtain ⟨rfl, rfl⟩ := List.cons.inj whole
  have broken : decodeChar (lead :: rest) = none := by
    cases read : decodeChar (lead :: rest) with
    | none => rfl
    | some d =>
      have same := encode_of_decodeChar read
      -- `d` would be a shorter character at the front of `c`
      have both : String.utf8EncodeChar c ++ [] =
          String.utf8EncodeChar d ++ ((lead :: rest).drop d.utf8Size ++ back) := by
        rw [List.append_nil, cut, ← List.append_assoc, ← same]
      obtain ⟨-, nothing⟩ := encodeChar_append_inj both
      have none_ : back = [] := (List.append_eq_nil_iff.mp nothing.symm).2
      exact absurd none_ less
  rw [lossy_broken broken]
  obtain ⟨k, size⟩ := Nat.exists_eq_succ_of_ne_zero (brokenLength_pos lead rest).ne'
  have inner : ∀ b ∈ rest.drop k, isContinuation b = true := fun b member =>
    continued b (List.mem_append_left _ (List.mem_of_mem_drop member))
  have marks := lossy_tail inner []
  rw [List.append_nil] at marks
  rw [size, List.drop_succ_cons, marks]
  exact ⟨(rest.drop k).length, by simp [lossy, scan, scanLoop, List.replicate_succ]⟩

/-! ## Where a page ends -/

/-- A page of a text of which `tail` is still to come: it ends in this tail, or between two
characters, or inside a character. -/
theorem page_cases {tail page rest : List UInt8} {text : List Char}
    (cut : tail ++ encode text = page ++ rest) :
    (∃ more, more ≠ [] ∧ tail = page ++ more ∧ rest = more ++ encode text) ∨
    (∃ a b, text = a ++ b ∧ page = tail ++ encode a ∧ rest = encode b) ∨
    (∃ a c b front back, text = a ++ c :: b ∧ String.utf8EncodeChar c = front ++ back ∧
      front ≠ [] ∧ back ≠ [] ∧ page = tail ++ (encode a ++ front) ∧ rest = back ++ encode b) := by
  rcases List.append_eq_append_iff.mp cut with ⟨body, rfl, split⟩ | ⟨more, rfl, rfl⟩
  · right
    clear cut
    -- the page goes beyond the tail: follow the characters of the text
    induction text generalizing body rest with
    | nil =>
      obtain ⟨rfl, rfl⟩ := List.append_eq_nil_iff.mp split.symm
      exact .inl ⟨[], [], rfl, rfl, rfl⟩
    | cons c text inductionHypothesis =>
      rw [encode_cons] at split
      rcases List.append_eq_append_iff.mp split with ⟨body, rfl, later⟩ | ⟨back, shape, rfl⟩
      · rcases inductionHypothesis body later with
          ⟨a, b, rfl, here, rfl⟩ | ⟨a, d, b, front, back, rfl, shape, some_, less, here, rfl⟩
        · refine .inl ⟨c :: a, b, rfl, ?_, rfl⟩
          rw [List.append_cancel_left here, encode_cons]
        · refine .inr ⟨c :: a, d, b, front, back, rfl, shape, some_, less, ?_, rfl⟩
          rw [List.append_cancel_left here, encode_cons, List.append_assoc]
      · by_cases none_ : body = []
        · subst none_
          exact .inl ⟨[], c :: text, rfl, rfl, by rw [encode_cons, shape]; rfl⟩
        · by_cases whole : back = []
          · subst whole
            rw [List.append_nil] at shape
            exact .inl ⟨[c], text, rfl, by simp [shape], rfl⟩
          · exact .inr ⟨[], c, text, body, back, rfl, shape, none_, whole, by simp, rfl⟩
  · by_cases none_ : more = []
    · subst none_
      exact .inr (.inl ⟨[], text, rfl, by simp, by simp⟩)
    · exact .inl ⟨more, none_, rfl, rfl⟩

/-! ## What is gained and lost -/

/-- How many characters are no replacement characters. -/
def real (text : List Char) : Nat := text.countP (· ≠ replacement)

theorem real_append (a b : List Char) : real (a ++ b) = real a + real b := List.countP_append

theorem real_replicate (n : Nat) : real (List.replicate n replacement) = 0 := by
  simp [real, List.countP_replicate]

theorem real_cons_le (c : Char) (text : List Char) : real text ≤ real (c :: text) :=
  List.Sublist.countP_le (List.sublist_cons_self c text)

/-- The characters that the pages are read as. -/
def readPages (pages : List (List UInt8)) : List Char := pages.flatMap readPage

/-- Every page is the encoding of a text that does not begin with a byte order mark. -/
def Whole (pages : List (List UInt8)) : Prop :=
  ∃ parts : List (List Char), pages = parts.map encode ∧
    ∀ part ∈ parts, part.head? ≠ some byteOrderMark

/-- What is read of `tail ++ encode text`: nothing is gained but replacement characters; when
nothing else is lost, every byte of the tail and every character of the text is accounted
for. -/
structure Accounts (tail : List UInt8) (text read : List Char) (exact_ : Prop) : Prop where
  lost : real read ≤ real text
  kept : real read = real text → tail.length + text.length ≤ read.length
  whole : tail = [] → real read = real text → read.length = text.length → exact_

/-- A page that is read as it is, before pages that account for what is left. -/
theorem accounts_page {tail page : List UInt8} {pages : List (List UInt8)} {text : List Char}
    (continued : ∀ byte ∈ tail, isContinuation byte = true)
    (cut : tail ++ encode text = page ++ pages.flatten)
    (later : ∀ tail text, (∀ byte ∈ tail, isContinuation byte = true) →
      tail ++ encode text = pages.flatten → Accounts tail text (readPages pages) (Whole pages)) :
    Accounts tail text (lossy page ++ readPages pages)
      ((∃ part, page = encode part) ∧ Whole pages) := by
  rcases page_cases cut with
    ⟨more, some_, rfl, rest⟩ | ⟨a, b, rfl, rfl, rest⟩ |
    ⟨a, c, b, front, back, rfl, shape, some_, less, rfl, rest⟩
  · -- the page is a part of the tail
    have left : ∀ byte ∈ page, isContinuation byte = true := fun b member =>
      continued b (List.mem_append_left _ member)
    have right := later more text (fun b member => continued b (List.mem_append_right _ member))
      rest.symm
    have read := lossy_tail left []
    rw [List.append_nil, show lossy [] = [] from rfl, List.append_nil] at read
    rw [read]
    constructor
    · rw [real_append, real_replicate, Nat.zero_add]
      exact right.lost
    · intro same
      rw [real_append, real_replicate, Nat.zero_add] at same
      have counted := right.kept same
      simp only [List.length_append, List.length_replicate]
      omega
    · intro none_
      exact absurd (List.append_eq_nil_iff.mp none_).2 some_
  · -- the page ends between two characters
    have right := later [] b (by simp) rest.symm
    have read := lossy_tail continued (encode a)
    rw [lossy_encode] at read
    rw [read, List.append_assoc]
    have count : real (List.replicate tail.length replacement ++ (a ++ readPages pages)) =
        real a + real (readPages pages) := by
      rw [real_append, real_append, real_replicate, Nat.zero_add]
    constructor
    · rw [count, real_append]
      exact Nat.add_le_add_left right.lost _
    · intro same
      rw [count, real_append] at same
      have counted := right.kept (Nat.add_left_cancel same)
      simp only [List.length_append, List.length_replicate, List.length_nil] at counted ⊢
      omega
    · intro none_ same length
      subst none_
      rw [count, real_append] at same
      simp only [List.length_append, List.length_replicate, List.length_nil] at length
      exact ⟨⟨a, rfl⟩, right.whole rfl (Nat.add_left_cancel same) (by omega)⟩
  · -- a character is cut: its front part counts, and what is left of it as well
    have inner : ∀ byte ∈ back, isContinuation byte = true := by
      obtain ⟨lead, rest, whole, -, follow, -⟩ := encodeChar_shape c
      obtain ⟨first, front, rfl⟩ := List.exists_cons_of_ne_nil some_
      rw [whole] at shape
      obtain ⟨-, same⟩ := List.cons.inj shape
      intro byte member
      exact follow byte (by rw [same]; exact List.mem_append_right _ member)
    have right := later back b inner rest.symm
    obtain ⟨n, part⟩ := lossy_part shape some_ less
    have read := lossy_tail continued (encode a ++ front)
    rw [lossy_encode_append, part] at read
    rw [read]
    have positive := List.length_pos_iff.mpr less
    have smaller := real_cons_le c b
    have count : real (List.replicate tail.length replacement ++
        (a ++ List.replicate (n + 1) replacement) ++ readPages pages) =
        real a + real (readPages pages) := by
      rw [real_append, real_append, real_append, real_replicate, real_replicate]
      omega
    have bound := right.lost
    have more : real a + real (readPages pages) = real (a ++ c :: b) →
        tail.length + (a ++ c :: b).length <
          (List.replicate tail.length replacement ++ (a ++ List.replicate (n + 1) replacement) ++
            readPages pages).length := by
      intro same
      rw [real_append] at same
      have counted := right.kept (by omega)
      simp only [List.length_append, List.length_replicate, List.length_cons]
      omega
    constructor
    · rw [count, real_append]
      omega
    · intro same
      rw [count] at same
      exact (more same).le
    · intro none_ same length
      subst none_
      rw [count] at same
      have strict := more same
      rw [List.length_nil, Nat.zero_add] at strict
      omega

/-- A page either does not begin with a byte order mark or is read without it. -/
theorem stripMark_cases (page : List UInt8) :
    (∃ rest, page = String.utf8EncodeChar byteOrderMark ++ rest ∧ stripMark page = rest) ∨
      stripMark page = page ∧ ∀ rest, page ≠ String.utf8EncodeChar byteOrderMark ++ rest := by
  have mark : String.utf8EncodeChar byteOrderMark = [0xEF, 0xBB, 0xBF] := by decide +kernel
  rw [mark]
  unfold stripMark
  split
  · rename_i rest
    exact .inl ⟨rest, rfl, rfl⟩
  · rename_i other
    exact .inr ⟨rfl, fun rest same => other rest same⟩

/-- The pages by induction: a byte order mark that is dropped is a character that is lost. -/
theorem accounts_pages (pages : List (List UInt8)) (tail : List UInt8) (text : List Char)
    (continued : ∀ byte ∈ tail, isContinuation byte = true)
    (cut : tail ++ encode text = pages.flatten) :
    Accounts tail text (readPages pages) (Whole pages) := by
  induction pages generalizing tail text with
  | nil =>
    obtain ⟨rfl, none_⟩ := List.append_eq_nil_iff.mp cut
    obtain rfl := encode_eq_nil.mp none_
    exact ⟨le_rfl, fun _ => le_rfl, fun _ _ _ => ⟨[], rfl, by simp⟩⟩
  | cons page pages inductionHypothesis =>
    have cut : tail ++ encode text = page ++ pages.flatten := cut
    show Accounts tail text (readPage page ++ readPages pages) _
    unfold readPage
    rcases stripMark_cases page with ⟨rest, rfl, dropped⟩ | ⟨same, other⟩
    · -- a mark is dropped, so no tail was due and the text begins with it
      rw [dropped]
      obtain ⟨lead, follow, shape, first, -⟩ := encodeChar_shape byteOrderMark
      have none_ : tail = [] := by
        cases tail with
        | nil => rfl
        | cons byte tail =>
          rw [shape] at cut
          obtain ⟨here, -⟩ := List.cons.inj cut
          have marked := continued byte List.mem_cons_self
          rw [here, first] at marked
          cases marked
      subst none_
      cases text with
      | nil =>
        rw [shape] at cut
        cases cut
      | cons c text =>
        rw [List.nil_append, encode_cons, List.append_assoc] at cut
        obtain ⟨rfl, split⟩ := encodeChar_append_inj cut
        have step : Accounts [] text (lossy rest ++ readPages pages) _ :=
          accounts_page (by simp) split inductionHypothesis
        have more : real (byteOrderMark :: text) = real text + 1 := by
          simp [real, byteOrderMark, replacement]
        have lost := step.lost
        exact ⟨by omega, fun same => by omega, fun _ same => by omega⟩
    · rw [same]
      have step := accounts_page continued cut inductionHypothesis
      refine ⟨step.lost, step.kept, ?_⟩
      intro none_ reals length
      obtain ⟨⟨part, rfl⟩, parts, rfl, good⟩ := step.whole none_ reals length
      refine ⟨part :: parts, rfl, ?_⟩
      intro p member
      rcases List.mem_cons.mp member with rfl | member
      · intro begins
        cases p with
        | nil => cases begins
        | cons c p =>
          cases begins
          exact other (encode p) (encode_cons _ _)
      · exact good p member

theorem readPage_encode {part : List Char} (plain : part.head? ≠ some byteOrderMark) :
    readPage (encode part) = part := by
  unfold readPage
  rcases stripMark_cases (encode part) with ⟨rest, same, -⟩ | ⟨same, -⟩
  · cases part with
    | nil => exact absurd same.symm (by simp [String.utf8EncodeChar_ne_nil])
    | cons c part =>
      rw [encode_cons] at same
      obtain ⟨rfl, -⟩ := encodeChar_append_inj same
      exact absurd rfl plain
  · rw [same, lossy_encode]

theorem encode_flatten (parts : List (List Char)) :
    encode parts.flatten = (parts.map encode).flatten := by
  induction parts with
  | nil => rfl
  | cons part parts inductionHypothesis => simp [inductionHypothesis]

/-- Reading page by page gives the text exactly when no page cuts a character or begins with a
byte order mark. -/
theorem readPages_iff {text : List Char} {pages : List (List UInt8)}
    (cut : encode text = pages.flatten) : readPages pages = text ↔ Whole pages := by
  constructor
  · intro same
    have accounts := accounts_pages pages [] text (by simp) cut
    exact accounts.whole rfl (by rw [same]) (by rw [same])
  · intro ⟨parts, shape, plain⟩
    have flat : parts.flatten = text := by
      apply encode_injective
      rw [cut, shape, encode_flatten]
    rw [shape, ← flat]
    clear shape flat cut
    induction parts with
    | nil => rfl
    | cons part parts inductionHypothesis =>
      have first := readPage_encode (plain part List.mem_cons_self)
      have rest := inductionHypothesis fun p member => plain p (List.mem_cons_of_mem _ member)
      simp only [readPages, List.map_cons, List.flatMap_cons, List.flatten_cons, first] at rest ⊢
      rw [rest]

end AgentConsole.Lib.Utf8
