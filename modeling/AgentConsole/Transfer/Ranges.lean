import AgentConsole.Transfer.FilePolicy

/-! # Ranges from the browser to the file

A browser asks for a range in the body of its request or in a header.  The Relay reads it and
sends a start and maybe an end to the Bridge, which writes a header of them and reads that
against the size of the file.

What a range is follows RFC 7233: two positions, a position, or a number of last bytes. -/

namespace AgentConsole.Transfer

open AgentConsole.Lib
open AgentConsole.Bridge (StableErrorCode isDigit_of_mem_toDigits)
open AgentConsole.Bridge.Discovery (isWhitespace trimStart trim stripPrefix)

/-! ## The Relay -/

structure RangeBody where
  start : UInt64
  endInclusive : Option UInt64
deriving DecidableEq

/-- Two numbers of 64 bits. -/
structure RangeSpec where
  start : Nat
  endInclusive : Option Nat
deriving DecidableEq

/-- The text of a `Range` header. -/
def parseRangeHeader (raw : List Char) : Except StableErrorCode RangeSpec :=
  match (stripPrefix "bytes=".toList (trim raw)).bind fun spec =>
    if ',' ∈ spec then none else splitHyphen spec with
  | none => .error .transferRangeInvalid
  | some (startText, endText) =>
    match parseU64 (trim startText) with
    | none => .error .transferRangeInvalid
    | some start =>
      if trim endText = [] then .ok ⟨start, none⟩
      else
        match parseU64 (trim endText) with
        | none => .error .transferRangeInvalid
        | some last => if last < start then .error .transferRangeInvalid else .ok ⟨start, some last⟩

def parseRange (body : Option RangeBody) (rangeHeader : Option (List Char)) :
    Except StableErrorCode (Option RangeSpec) :=
  match body with
  | some r =>
    if r.endInclusive.any (· < r.start) then .error .transferRangeInvalid
    else .ok (some ⟨r.start.toNat, r.endInclusive.map (·.toNat)⟩)
  | none =>
    match rangeHeader with
    | none => .ok none
    | some raw => (parseRangeHeader raw).map some

/-! ## The Bridge -/

/-- The fields of an offer about its range. -/
structure OfferRange where
  rangeStart : Nat
  rangeEndInclusive : Option Nat
deriving DecidableEq

/-- What `send_offer` writes there. -/
def offerRange (range : Option RangeSpec) : OfferRange where
  rangeStart := (range.map (·.start)).getD 0
  rangeEndInclusive := range.bind (·.endInclusive)

def rangeText (start : Nat) (endInclusive : Option Nat) : List Char :=
  "bytes=".toList ++ Nat.toDigits 10 start ++ '-' :: (endInclusive.map (Nat.toDigits 10)).getD []

def rangeHeaderOf (offer : OfferRange) (total : Nat) : Option (Option (List Char)) :=
  match offer.rangeEndInclusive with
  | none =>
    if offer.rangeStart = 0 then some none else some (some (rangeText offer.rangeStart none))
  | some last =>
    if offer.rangeStart = 0 then
      (u64Add last 1).map fun next => if total ≤ next then none else some (rangeText 0 (some last))
    else some (some (rangeText offer.rangeStart (some last)))

/-- What the Bridge opens for an offer with this range. -/
def openOffered (infer : List UInt8 → Option String) (mode : TransferMode) (content : List UInt8)
    (range : Option RangeSpec) : Option (Except FilesError FileSlice) :=
  (rangeHeaderOf (offerRange range) content.length).bind (openSlice infer content mode)

/-- From the request to the slice, or to the code of its rejection. -/
def requestSlice (infer : List UInt8 → Option String) (mode : TransferMode) (content : List UInt8)
    (body : Option RangeBody) (rangeHeader : Option (List Char)) :
    Option (Except StableErrorCode FileSlice) :=
  match parseRange body rangeHeader with
  | .error code => some (.error code)
  | .ok range => (openOffered infer mode content range).map (Except.mapError FilesError.stableCode)

/-! ## What a browser can ask for -/

/-- Decimal digits. -/
structure Digits where
  text : List Char
  nonempty : text ≠ []
  digits : text.all Char.isDigit = true

def Digits.value (d : Digits) : Nat := Nat.ofDigitChars 10 d.text 0

inductive HeaderRange where
  | between (first last : Digits)
  | startingAt (first : Digits)
  | suffix (length : Digits)

def HeaderRange.text : HeaderRange → List Char
  | between first last => first.text ++ '-' :: last.text
  | startingAt first => first.text ++ ['-']
  | suffix length => '-' :: length.text

/-- A range as positions of a file. -/
inductive ByteRange where
  | between (first last : Nat)
  | startingAt (first : Nat)
  | suffix (length : Nat)

namespace ByteRange

/-- The bytes of the file it stands for. -/
def assigned (content : List UInt8) : ByteRange → List UInt8
  | between first last => (content.drop first).take (last + 1 - first)
  | startingAt first => content.drop first
  | suffix length => content.drop (content.length - length)

/-- It is the whole file. -/
def Covers (total : Nat) : ByteRange → Prop
  | between first last => first = 0 ∧ total ≤ last + 1
  | startingAt first => first = 0
  | suffix length => 0 < length ∧ total ≤ length

/-- An offer can say it, and its end has a successor. -/
def Expressible : ByteRange → Prop
  | between _ last => last + 1 < 2 ^ 64
  | startingAt _ => True
  | suffix _ => False

end ByteRange

def HeaderRange.range : HeaderRange → ByteRange
  | between first last => .between first.value last.value
  | startingAt first => .startingAt first.value
  | suffix length => .suffix length.value

def RangeBody.range (body : RangeBody) : ByteRange :=
  (body.endInclusive.map fun last => ByteRange.between body.start.toNat last.toNat).getD
    (.startingAt body.start.toNat)

/-- A request, with at least one range in its header if it has one.  A range in the body is
asked for in the place of the header's. -/
structure RangeRequest where
  body : Option RangeBody
  header : Option (HeaderRange × List HeaderRange)

namespace RangeRequest

def headerText (request : RangeRequest) : Option (List Char) :=
  request.header.map fun (first, more) =>
    "bytes=".toList ++ first.text ++ more.flatMap fun range => ',' :: range.text

def asked (request : RangeRequest) : Option (List ByteRange) :=
  match request.body with
  | some body => some [body.range]
  | none => request.header.map fun (first, more) => first.range :: more.map HeaderRange.range

end RangeRequest

/-! ## Texts -/

theorem trimStart_of_plain {text : List Char} (plain : ∀ c ∈ text, isWhitespace c = false) :
    trimStart text = text := by
  cases text with
  | nil => rfl
  | cons c rest =>
    have first := plain c List.mem_cons_self
    simp [trimStart, first]

theorem trim_of_plain {text : List Char} (plain : ∀ c ∈ text, isWhitespace c = false) :
    trim text = text := by
  have reversed : ∀ c ∈ text.reverse, isWhitespace c = false :=
    fun c member => plain c (List.mem_reverse.mp member)
  rw [trim, trimStart_of_plain plain, trimStart_of_plain reversed, List.reverse_reverse]

theorem isWhitespace_of_isDigit {c : Char} (digit : c.isDigit = true) : isWhitespace c = false := by
  have bounds : 48 ≤ c.toNat ∧ c.toNat ≤ 57 := by
    simpa [Char.isDigit, UInt32.le_iff_toNat_le] using digit
  simp only [isWhitespace, Bool.or_eq_false_iff, decide_eq_false_iff_not]
  omega

namespace Digits

theorem isDigit (d : Digits) {c : Char} (member : c ∈ d.text) : c.isDigit = true :=
  List.all_eq_true.mp d.digits c member

theorem plain (d : Digits) : ∀ c ∈ d.text, isWhitespace c = false :=
  fun _ member => isWhitespace_of_isDigit (d.isDigit member)

theorem not_mem (d : Digits) {c : Char} (other : c.isDigit = false) : c ∉ d.text := by
  intro member
  rw [d.isDigit member] at other
  cases other

theorem parseU64_text (d : Digits) :
    parseU64 d.text = if d.value < 2 ^ 64 then some d.value else none := by
  have unsigned : ¬ d.text.head? = some '+' := by
    intro head
    exact d.not_mem (c := '+') (by decide) (List.mem_of_head? head)
  have digits : (if d.text.head? = some '+' then d.text.tail else d.text) = d.text := if_neg unsigned
  simp only [parseU64, digits]
  by_cases small : d.value < 2 ^ 64
  · rw [if_pos small]
    exact if_pos ⟨d.nonempty, d.digits, small⟩
  · rw [if_neg small]
    exact if_neg fun all => small all.2.2

/-- The digits of a number. -/
def ofNat (n : Nat) : Digits where
  text := Nat.toDigits 10 n
  nonempty := Nat.toDigits_ne_nil
  digits := List.all_eq_true.mpr fun _ => isDigit_of_mem_toDigits

@[simp] theorem value_ofNat (n : Nat) : (ofNat n).value = n := Nat.ofDigitChars_ten_toDigits

end Digits

theorem splitHyphen_append {front back : List Char} (free : '-' ∉ front) :
    splitHyphen (front ++ '-' :: back) = some (front, back) := by
  have other : ∀ c ∈ front, decide (c ≠ '-') = true := by
    intro c member
    simpa using fun same : c = '-' => free (same ▸ member)
  unfold splitHyphen
  rw [if_pos (by simp), List.takeWhile_append_of_pos other, List.dropWhile_append_of_pos other]
  simp

theorem HeaderRange.plain (range : HeaderRange) : ∀ c ∈ range.text, isWhitespace c = false := by
  have hyphen : isWhitespace '-' = false := by decide
  intro c member
  cases range with
  | between first last =>
    rcases List.mem_append.mp member with front | back
    · exact first.plain c front
    · rcases List.mem_cons.mp back with rfl | digit
      · exact hyphen
      · exact last.plain c digit
  | startingAt first =>
    rcases List.mem_append.mp member with front | back
    · exact first.plain c front
    · rw [List.mem_singleton.mp back]
      exact hyphen
  | suffix length =>
    rcases List.mem_cons.mp member with rfl | digit
    · exact hyphen
    · exact length.plain c digit

theorem HeaderRange.no_comma (range : HeaderRange) : ',' ∉ range.text := by
  cases range with
  | between first last => simp [text, first.not_mem, last.not_mem]
  | startingAt first => simp [text, first.not_mem]
  | suffix length => simp [text, length.not_mem]

/-- What stands behind the unit of a header. -/
theorem stripPrefix_header {rest : List Char} (plain : ∀ c ∈ rest, isWhitespace c = false) :
    stripPrefix "bytes=".toList (trim ("bytes=".toList ++ rest)) = some rest := by
  have unit : "bytes=".toList.all (fun c => !isWhitespace c) = true := by decide
  have all : ∀ c ∈ "bytes=".toList ++ rest, isWhitespace c = false := by
    intro c member
    rcases List.mem_append.mp member with front | back
    · simpa using List.all_eq_true.mp unit c front
    · exact plain c back
  rw [trim_of_plain all, stripPrefix, if_pos (by simp), List.drop_left]

/-! ## What the Relay reads -/

/-- The numbers the Relay makes of a range, if it can. -/
def ByteRange.spec : ByteRange → Option RangeSpec
  | .between first last => if first ≤ last ∧ last < 2 ^ 64 then some ⟨first, some last⟩ else none
  | .startingAt first => if first < 2 ^ 64 then some ⟨first, none⟩ else none
  | .suffix _ => none

theorem ByteRange.spec_between {first last : Nat} {spec : RangeSpec} :
    (between first last).spec = some spec ↔
      (first ≤ last ∧ last < 2 ^ 64) ∧ spec = ⟨first, some last⟩ := by
  show (if first ≤ last ∧ last < 2 ^ 64 then some ⟨first, some last⟩ else none) = some spec ↔ _
  by_cases order : first ≤ last ∧ last < 2 ^ 64
  · rw [if_pos order, Option.some.injEq]
    exact ⟨fun same => ⟨order, same.symm⟩, fun both => both.2.symm⟩
  · rw [if_neg order]
    exact ⟨fun same => (by cases same), fun both => (order both.1).elim⟩

theorem ByteRange.spec_startingAt {first : Nat} {spec : RangeSpec} :
    (startingAt first).spec = some spec ↔ first < 2 ^ 64 ∧ spec = ⟨first, none⟩ := by
  show (if first < 2 ^ 64 then some ⟨first, none⟩ else none) = some spec ↔ _
  by_cases small : first < 2 ^ 64
  · rw [if_pos small, Option.some.injEq]
    exact ⟨fun same => ⟨small, same.symm⟩, fun both => both.2.symm⟩
  · rw [if_neg small]
    exact ⟨fun same => (by cases same), fun both => (small both.1).elim⟩

def answerRange (range : ByteRange) : Except StableErrorCode RangeSpec :=
  (range.spec.map Except.ok).getD (.error .transferRangeInvalid)

theorem parseRangeHeader_text (range : HeaderRange) :
    parseRangeHeader ("bytes=".toList ++ range.text) = answerRange range.range := by
  unfold parseRangeHeader
  rw [stripPrefix_header range.plain, Option.bind_some, if_neg range.no_comma]
  cases range with
  | between first last =>
    have free : '-' ∉ first.text := first.not_mem (by decide)
    simp only [HeaderRange.text, splitHyphen_append free, trim_of_plain first.plain,
      trim_of_plain last.plain, first.parseU64_text, last.parseU64_text, if_neg last.nonempty,
      answerRange, ByteRange.spec, HeaderRange.range]
    rcases Nat.lt_or_ge first.value (2 ^ 64) with small | large
    · rw [if_pos small]
      dsimp only
      rcases Nat.lt_or_ge last.value (2 ^ 64) with greatest | beyond
      · rw [if_pos greatest]
        dsimp only
        rcases Nat.lt_or_ge last.value first.value with reversed | order
        · rw [if_pos reversed, if_neg (by omega)]
          rfl
        · rw [if_neg (by omega), if_pos ⟨order, greatest⟩]
          rfl
      · rw [if_neg (by omega), if_neg (by omega)]
        rfl
    · have unmet : ¬ (first.value ≤ last.value ∧ last.value < 2 ^ 64) := by omega
      rw [if_neg (Nat.not_lt.mpr large), if_neg unmet]
      rfl
  | startingAt first =>
    have free : '-' ∉ first.text := first.not_mem (by decide)
    simp only [HeaderRange.text, splitHyphen_append free, trim_of_plain first.plain,
      first.parseU64_text, answerRange, ByteRange.spec, HeaderRange.range]
    rcases Nat.lt_or_ge first.value (2 ^ 64) with small | large
    · rw [if_pos small, if_pos small]
      rfl
    · rw [if_neg (by omega), if_neg (by omega)]
      rfl
  | suffix length =>
    have free : '-' ∉ ([] : List Char) := List.not_mem_nil
    have split : splitHyphen (HeaderRange.suffix length).text = some ([], length.text) :=
      splitHyphen_append free
    simp only [split, HeaderRange.range, answerRange, ByteRange.spec]
    rfl

/-- More than one range is rejected. -/
theorem parseRangeHeader_many (first next : HeaderRange) (more : List HeaderRange) :
    parseRangeHeader ("bytes=".toList ++ first.text ++
      (next :: more).flatMap fun range => ',' :: range.text) = .error .transferRangeInvalid := by
  have plain : ∀ c ∈ first.text ++ (next :: more).flatMap fun range => ',' :: range.text,
      isWhitespace c = false := by
    intro c member
    rcases List.mem_append.mp member with front | back
    · exact first.plain c front
    · obtain ⟨range, -, inside⟩ := List.mem_flatMap.mp back
      rcases List.mem_cons.mp inside with rfl | text
      · decide
      · exact range.plain c text
  unfold parseRangeHeader
  rw [List.append_assoc, stripPrefix_header plain, Option.bind_some, if_pos (by simp)]

theorem parseRange_body (body : RangeBody) (header : Option (List Char)) :
    parseRange (some body) header = (answerRange body.range).map some := by
  cases last : body.endInclusive with
  | none =>
    have small : body.start.toNat < 2 ^ 64 := body.start.toNat_lt
    have spec : body.range.spec = some ⟨body.start.toNat, none⟩ := by
      rw [RangeBody.range, last]
      exact if_pos small
    simp [parseRange, last, answerRange, spec, Except.map]
  | some last' =>
    have small : last'.toNat < 2 ^ 64 := last'.toNat_lt
    have range : body.range = .between body.start.toNat last'.toNat := by
      rw [RangeBody.range, last]
      rfl
    rcases Nat.lt_or_ge last'.toNat body.start.toNat with reversed | order
    · have spec : body.range.spec = none := by
        rw [range]
        exact if_neg (by omega)
      have rejected : last' < body.start := UInt64.lt_iff_toNat_lt.mpr reversed
      simp [parseRange, last, answerRange, spec, rejected, Except.map]
    · have spec : body.range.spec = some ⟨body.start.toNat, some last'.toNat⟩ := by
        rw [range]
        exact if_pos ⟨order, small⟩
      have kept : ¬ last' < body.start := by
        rw [UInt64.lt_iff_toNat_lt]
        omega
      simp [parseRange, last, answerRange, spec, kept, Except.map]

/-- What the Relay makes of any request. -/
theorem parseRange_request (request : RangeRequest) :
    (request.asked = none ∧ parseRange request.body request.headerText = .ok none) ∨
    (∃ range, request.asked = some [range] ∧
      parseRange request.body request.headerText = (answerRange range).map some) ∨
    ((∀ range, request.asked ≠ some [range]) ∧ request.asked ≠ none ∧
      parseRange request.body request.headerText = .error .transferRangeInvalid) := by
  obtain ⟨body, header⟩ := request
  cases body with
  | some body => exact .inr (.inl ⟨body.range, rfl, parseRange_body body _⟩)
  | none =>
    cases header with
    | none => exact .inl ⟨rfl, rfl⟩
    | some ranges =>
      obtain ⟨first, more⟩ := ranges
      cases more with
      | nil =>
        refine .inr (.inl ⟨first.range, rfl, ?_⟩)
        have read := parseRangeHeader_text first
        simp only [parseRange, RangeRequest.headerText, Option.map_some, List.flatMap_nil,
          List.append_nil]
        rw [read]
      | cons next more =>
        refine .inr (.inr ⟨?_, ?_, ?_⟩)
        · intro range same
          simp [RangeRequest.asked] at same
        · intro same
          simp [RangeRequest.asked] at same
        · have read := parseRangeHeader_many first next more
          simp only [parseRange, RangeRequest.headerText, Option.map_some]
          rw [read]
          rfl

/-! ## What the Bridge opens -/

variable {infer : List UInt8 → Option String} {mode : TransferMode} {content : List UInt8}
  {classification : Classification} {range : ByteRange} {start total : Nat} {last : Option Nat}

/-- The header the Bridge writes is read as the numbers it was made of. -/
theorem parseSingleRange_rangeText (total : Nat) (small : start < 2 ^ 64)
    (order : ∀ l, last = some l → start ≤ l ∧ l < 2 ^ 64) :
    parseSingleRange (rangeText start last) total =
      some (if total ≤ start then .error .rangeInvalid
        else .ok ⟨start, min (last.getD (total - 1)) (total - 1)⟩) := by
  let range : HeaderRange :=
    (last.map fun l => HeaderRange.between (.ofNat start) (.ofNat l)).getD (.startingAt (.ofNat start))
  have text : rangeText start last = "bytes=".toList ++ range.text := by
    cases last <;> exact List.append_assoc _ _ _
  have free : '-' ∉ (Digits.ofNat start).text := (Digits.ofNat start).not_mem (by decide)
  have split : splitHyphen range.text =
      some ((Digits.ofNat start).text, (last.map (Nat.toDigits 10)).getD []) := by
    cases last <;> exact splitHyphen_append free
  have read : parseU64 (trim (Digits.ofNat start).text) = some start := by
    rw [trim_of_plain (Digits.plain _), Digits.parseU64_text, Digits.value_ofNat, if_pos small]
  unfold parseSingleRange
  rw [text, stripPrefix_header range.plain, Option.bind_some, if_neg range.no_comma,
    trim_of_plain range.plain, split]
  dsimp only
  rw [if_neg (Digits.nonempty _), read]
  dsimp only
  by_cases beyond : total ≤ start
  · rw [if_pos beyond, if_pos beyond]
  · have some_ : u64Sub total 1 = some (total - 1) := if_pos (by omega)
    rw [if_neg beyond, if_neg beyond]
    cases last with
    | none => simp [some_]
    | some l =>
      have digits : (Option.map (Nat.toDigits 10) (some l)).getD [] = (Digits.ofNat l).text := rfl
      have readEnd : parseU64 (trim (Digits.ofNat l).text) = some l := by
        rw [trim_of_plain (Digits.plain _), Digits.parseU64_text, Digits.value_ofNat,
          if_pos (order l rfl).2]
      have kept : ¬ l < start := Nat.not_lt.mpr (order l rfl).1
      rw [digits, if_neg (Digits.nonempty _), readEnd]
      dsimp only
      rw [if_neg kept, some_]
      rfl

theorem length_le_of_checkFile (checked : checkFile infer mode content = .ok classification) :
    content.length ≤ maxDownloadBytes := by
  unfold checkFile checkDownload at checked
  by_cases large : maxDownloadBytes < content.length
  · simp [large, bind, Except.bind] at checked
  · exact Nat.not_lt.mp large

theorem openSlice_whole (checked : checkFile infer mode content = .ok classification) :
    ∃ slice, openSlice infer content mode none = some (.ok slice) ∧ slice.body = content ∧
      slice.inline = classification.isInline := by
  refine ⟨_, by rw [openSlice, checked], ?_, rfl⟩
  simp

theorem openSlice_range (checked : checkFile infer mode content = .ok classification)
    (small : start < 2 ^ 64) (order : ∀ l, last = some l → start ≤ l ∧ l < 2 ^ 64) :
    (content.length ≤ start ∧ openSlice infer content mode (some (rangeText start last)) =
      some (.error .rangeInvalid)) ∨
    (start < content.length ∧ ∃ slice,
      openSlice infer content mode (some (rangeText start last)) = some (.ok slice) ∧
      slice.body = (content.drop start).take ((last.getD content.length) + 1 - start) ∧
      slice.inline = classification.isInline) := by
  have read := parseSingleRange_rangeText content.length small order
  have bounded := length_le_of_checkFile checked
  rcases Nat.lt_or_ge start content.length with inside | beyond
  · rw [if_neg (by omega)] at read
    refine .inr ⟨inside, ?_⟩
    have least : ∀ l, last = some l → start ≤ l := fun l is => (order l is).1
    have length : HttpRange.len ⟨start, min (last.getD (content.length - 1)) (content.length - 1)⟩ =
        some (min (last.getD (content.length - 1)) (content.length - 1) - start + 1) := by
      have above : start ≤ min (last.getD (content.length - 1)) (content.length - 1) := by
        cases last with
        | none => simp; omega
        | some l => simpa using ⟨least l rfl, by omega⟩
      have below : min (last.getD (content.length - 1)) (content.length - 1) - start + 1 < 2 ^ 64 := by
        simp only [maxDownloadBytes] at bounded
        omega
      have difference : u64Sub (min (last.getD (content.length - 1)) (content.length - 1)) start =
          some (min (last.getD (content.length - 1)) (content.length - 1) - start) := if_pos above
      have sum : u64Add (min (last.getD (content.length - 1)) (content.length - 1) - start) 1 =
          some (min (last.getD (content.length - 1)) (content.length - 1) - start + 1) := if_pos below
      simp only [HttpRange.len, difference, bind, Option.bind_some, sum]
    refine ⟨_, by rw [openSlice, checked]; dsimp only; rw [read]; dsimp only; rw [length]; rfl, ?_, rfl⟩
    show (content.drop start).take _ = (content.drop start).take _
    refine List.take_eq_take_iff.mpr ?_
    rw [List.length_drop]
    cases last with
    | none => simp; omega
    | some l =>
      have order_ := least l rfl
      simp
      omega
  · rw [if_pos beyond] at read
    refine .inl ⟨beyond, ?_⟩
    rw [openSlice, checked]
    dsimp only
    rw [read]

/-! ## From the request to the slice -/

/-- The numbers of a range are in order, and say which bytes it stands for. -/
theorem ByteRange.spec_some (content : List UInt8) {spec : RangeSpec} (is : range.spec = some spec) :
    spec.start < 2 ^ 64 ∧ (∀ l, spec.endInclusive = some l → spec.start ≤ l ∧ l < 2 ^ 64) ∧
      range.assigned content = (content.drop spec.start).take
        ((spec.endInclusive.getD content.length) + 1 - spec.start) := by
  cases range with
  | between first last =>
    obtain ⟨order, rfl⟩ := ByteRange.spec_between.mp is
    refine ⟨Nat.lt_of_le_of_lt order.1 order.2, ?_, rfl⟩
    intro l same
    cases same
    exact order
  | startingAt first =>
    obtain ⟨small, rfl⟩ := ByteRange.spec_startingAt.mp is
    refine ⟨small, fun l same => (by cases same), ?_⟩
    refine (List.take_of_length_le ?_).symm
    show (content.drop first).length ≤ content.length + 1 - first
    rw [List.length_drop]
    omega
  | suffix length => cases is

theorem ByteRange.assigned_of_covers (covers : range.Covers content.length) :
    range.assigned content = content := by
  cases range with
  | between first last =>
    obtain ⟨rfl, all⟩ := covers
    exact List.take_of_length_le all
  | startingAt first =>
    obtain rfl : first = 0 := covers
    rfl
  | suffix length =>
    have none_ : content.length - length = 0 := Nat.sub_eq_zero_of_le covers.2
    simp [ByteRange.assigned, none_]

/-- Without an overflow the Bridge writes no header for a range that covers the file, and the
numbers of the range for another one. -/
theorem rangeHeaderOf_spec {spec : RangeSpec} (is : range.spec = some spec)
    (other : range ≠ .between 0 (2 ^ 64 - 1)) (total : Nat) :
    (range.Covers total ∧ rangeHeaderOf (offerRange (some spec)) total = some none) ∨
    (¬ range.Covers total ∧ rangeHeaderOf (offerRange (some spec)) total =
      some (some (rangeText spec.start spec.endInclusive))) := by
  cases range with
  | between first last =>
    obtain ⟨⟨-, small⟩, rfl⟩ := ByteRange.spec_between.mp is
    by_cases zero : first = 0
    · subst zero
      have different : last ≠ 2 ^ 64 - 1 := fun same => other (by rw [same])
      have successor : last + 1 < 2 ^ 64 := by omega
      have sum : u64Add last 1 = some (last + 1) := if_pos successor
      by_cases all : total ≤ last + 1
      · exact .inl ⟨⟨rfl, all⟩, by simp [rangeHeaderOf, offerRange, sum, all]⟩
      · exact .inr ⟨fun covers => all covers.2, by simp [rangeHeaderOf, offerRange, sum, all]⟩
    · exact .inr ⟨fun covers => zero covers.1, by simp [rangeHeaderOf, offerRange, zero]⟩
  | startingAt first =>
    obtain ⟨-, rfl⟩ := ByteRange.spec_startingAt.mp is
    by_cases zero : first = 0
    · exact .inl ⟨zero, by simp [rangeHeaderOf, offerRange, zero]⟩
    · exact .inr ⟨zero, by simp [rangeHeaderOf, offerRange, zero]⟩
  | suffix length => cases is

theorem rangeHeaderOf_overflow (total : Nat) :
    rangeHeaderOf (offerRange (some ⟨0, some (2 ^ 64 - 1)⟩)) total = none := by
  have overflow : u64Add (2 ^ 64 - 1) 1 = none := if_neg (by decide)
  simp only [rangeHeaderOf, offerRange, Option.map_some, Option.getD_some, Option.bind_some,
    overflow, Option.map_none, if_true]

theorem openSlice_error {error : FilesError} (failed : checkFile infer mode content = .error error)
    (header : Option (List Char)) : openSlice infer content mode header = some (.error error) := by
  rw [openSlice, failed]

/-- The answer to what was asked for, which is computed without an overflow: a slice has the
bytes of the range, a rejection is the range's or the file's, and what covers the file is
answered with the file. -/
def AnswersRange (infer : List UInt8 → Option String) (mode : TransferMode) (content : List UInt8)
    (asked : Option (List ByteRange)) (answer : Option (Except StableErrorCode FileSlice)) : Prop :=
  ∃ outcome, answer = some outcome ∧
    (∀ slice, outcome = .ok slice → asked = none ∧ slice.body = content ∨
      ∃ range, asked = some [range] ∧ slice.body = range.assigned content) ∧
    (∀ code, outcome = .error code → code = .transferRangeInvalid ∨
      ∃ error, checkFile infer mode content = .error error ∧ code = error.stableCode) ∧
    ∀ classification, checkFile infer mode content = .ok classification →
      (asked = none ∨ ∃ range, asked = some [range] ∧ range.Covers content.length) →
        ∃ slice, outcome = .ok slice ∧ slice.body = content

variable {asked : Option (List ByteRange)}

theorem answersRange_rejected : AnswersRange infer mode content asked
      (some (.error .transferRangeInvalid)) ↔
    ∀ classification, checkFile infer mode content = .ok classification →
      ¬ (asked = none ∨ ∃ range, asked = some [range] ∧ range.Covers content.length) := by
  constructor
  · intro ⟨outcome, same, _, _, served⟩ classification checked covers
    cases same
    obtain ⟨slice, ok, -⟩ := served classification checked covers
    cases ok
  · intro uncovered
    refine ⟨_, rfl, ?_, ?_, ?_⟩
    · intro slice ok
      cases ok
    · intro code same
      cases same
      exact .inl rfl
    · intro classification checked covers
      exact (uncovered classification checked covers).elim

theorem answersRange_refused {error : FilesError}
    (failed : checkFile infer mode content = .error error) :
    AnswersRange infer mode content asked (some (.error error.stableCode)) := by
  refine ⟨_, rfl, ?_, ?_, ?_⟩
  · intro slice ok
    cases ok
  · intro code same
    cases same
    exact .inr ⟨error, failed, rfl⟩
  · intro classification checked
    rw [failed] at checked
    cases checked

theorem answersRange_slice {slice : FileSlice}
    (body : asked = none ∧ slice.body = content ∨
      ∃ range, asked = some [range] ∧ slice.body = range.assigned content) :
    AnswersRange infer mode content asked (some (.ok slice)) := by
  refine ⟨_, rfl, ?_, ?_, ?_⟩
  · intro other same
    cases same
    exact body
  · intro code same
    cases same
  · intro classification _ covers
    refine ⟨slice, rfl, ?_⟩
    rcases body with ⟨-, whole⟩ | ⟨range, is, part⟩
    · exact whole
    · rcases covers with none_ | ⟨other, is', covers⟩
      · rw [is] at none_
        cases none_
      · rw [is] at is'
        cases is'
        rw [part, ByteRange.assigned_of_covers covers]

/-- A range that the Relay reads is answered, if its end has a successor or its start is not 0. -/
theorem answersRange_spec {spec : RangeSpec} (is : range.spec = some spec)
    (other : range ≠ .between 0 (2 ^ 64 - 1)) (same : asked = some [range]) :
    AnswersRange infer mode content asked
      ((openOffered infer mode content (some spec)).map (Except.mapError FilesError.stableCode)) := by
  obtain ⟨small, order, bytes⟩ := ByteRange.spec_some content is
  cases checked : checkFile infer mode content with
  | error error =>
    have answer : openOffered infer mode content (some spec) = some (.error error) := by
      unfold openOffered
      rcases rangeHeaderOf_spec is other content.length with ⟨-, header⟩ | ⟨-, header⟩
      · rw [header, Option.bind_some, openSlice_error checked]
      · rw [header, Option.bind_some, openSlice_error checked]
    rw [answer]
    exact answersRange_refused checked
  | ok classification =>
    unfold openOffered
    rcases rangeHeaderOf_spec is other content.length with ⟨covers, header⟩ | ⟨uncovered, header⟩
    · obtain ⟨slice, whole, body, -⟩ := openSlice_whole checked
      rw [header, Option.bind_some, whole]
      refine answersRange_slice (.inr ⟨range, same, ?_⟩)
      rw [body, ByteRange.assigned_of_covers covers]
    · rw [header, Option.bind_some]
      rcases openSlice_range checked small order with ⟨-, rejected⟩ | ⟨-, slice, part, body, -⟩
      · rw [rejected]
        refine answersRange_rejected.mpr ?_
        intro _ _ covers
        rcases covers with none_ | ⟨other', is', covers⟩
        · rw [same] at none_
          cases none_
        · rw [same] at is'
          cases is'
          exact uncovered covers
      · rw [part]
        exact answersRange_slice (.inr ⟨range, same, body.trans bytes.symm⟩)

theorem ByteRange.not_expressible_of_spec_none (none_ : range.spec = none)
    (covers : range.Covers total) : ¬ range.Expressible := by
  cases range with
  | between first last =>
    obtain ⟨rfl, -⟩ := covers
    intro expressible
    have small : last + 1 < 2 ^ 64 := expressible
    have some_ : (ByteRange.between 0 last).spec = some ⟨0, some last⟩ :=
      ByteRange.spec_between.mpr ⟨⟨Nat.zero_le _, by omega⟩, rfl⟩
    rw [some_] at none_
    cases none_
  | startingAt first =>
    obtain rfl : first = 0 := covers
    cases none_
  | suffix length => exact id

theorem ByteRange.expressible_of_spec {spec : RangeSpec} (is : range.spec = some spec)
    (other : range ≠ .between 0 (2 ^ 64 - 1)) (covers : range.Covers total) : range.Expressible := by
  cases range with
  | between first last =>
    obtain ⟨rfl, -⟩ := covers
    obtain ⟨⟨-, small⟩, -⟩ := ByteRange.spec_between.mp is
    have different : last ≠ 2 ^ 64 - 1 := fun same => other (by rw [same])
    show last + 1 < 2 ^ 64
    omega
  | startingAt first => trivial
  | suffix length => cases is

/-- **Ranges**: for every file and every request, no arithmetic overflows, a slice that is
opened has exactly the bytes of the range, any other answer is the rejection of the range or of
the file, and no range or one that covers the file is answered with the whole file, exactly when
the range is not `0` to `2^64 - 1` and, if it covers a file that passes its checks, it is no
number of last bytes and its end has a successor of 64 bits. -/
theorem range_requests_exact (infer : List UInt8 → Option String) (mode : TransferMode)
    (content : List UInt8) (request : RangeRequest) :
    AnswersRange infer mode content request.asked
        (requestSlice infer mode content request.body request.headerText) ↔
      ∀ range, request.asked = some [range] → range ≠ .between 0 (2 ^ 64 - 1) ∧
        ∀ classification, checkFile infer mode content = .ok classification →
          range.Covers content.length → range.Expressible := by
  rcases parseRange_request request with ⟨asked, parsed⟩ | ⟨range, asked, parsed⟩ | ⟨many, some_, parsed⟩
  · -- no range is asked for
    simp only [requestSlice, parsed, asked]
    constructor
    · intro _ range same
      cases same
    · intro _
      cases checked : checkFile infer mode content with
      | error error =>
        rw [openOffered, show rangeHeaderOf (offerRange none) content.length = some none from rfl,
          Option.bind_some, openSlice_error checked]
        exact answersRange_refused checked
      | ok classification =>
        obtain ⟨slice, whole, body, -⟩ := openSlice_whole checked
        rw [openOffered, show rangeHeaderOf (offerRange none) content.length = some none from rfl,
          Option.bind_some, whole]
        exact answersRange_slice (.inl ⟨rfl, body⟩)
  · simp only [requestSlice, parsed, asked, Option.some.injEq, List.cons.injEq, and_true,
      forall_eq']
    cases is : range.spec with
    | none =>
      simp only [answerRange, is, Option.map_none, Option.getD_none, Except.map]
      rw [answersRange_rejected]
      constructor
      · intro uncovered
        refine ⟨?_, ?_⟩
        · intro overflow
          rw [overflow] at is
          exact absurd is (by decide)
        · intro classification checked covers
          exact (uncovered classification checked (.inr ⟨range, rfl, covers⟩)).elim
      · intro ⟨_, expressible⟩ classification checked covers
        rcases covers with none_ | ⟨other, same, covers⟩
        · cases none_
        · cases same
          exact ByteRange.not_expressible_of_spec_none is covers
            (expressible classification checked covers)
    | some spec =>
      simp only [answerRange, is, Option.map_some, Option.getD_some, Except.map]
      by_cases overflow : range = .between 0 (2 ^ 64 - 1)
      · -- the successor of the end is computed
        have values : spec = ⟨0, some (2 ^ 64 - 1)⟩ := by
          rw [overflow] at is
          exact (Option.some.inj is).symm
        constructor
        · intro ⟨outcome, answer, _⟩
          rw [openOffered, values, rangeHeaderOf_overflow] at answer
          cases answer
        · intro ⟨other, _⟩
          exact (other overflow).elim
      · constructor
        · intro _
          exact ⟨overflow, fun _ _ => ByteRange.expressible_of_spec is overflow⟩
        · intro _
          exact answersRange_spec is overflow rfl
  · simp only [requestSlice, parsed]
    constructor
    · intro _ range same
      exact (many range same).elim
    · intro _
      refine answersRange_rejected.mpr ?_
      intro _ _ covers
      rcases covers with none_ | ⟨range, same, -⟩
      · exact some_ none_
      · exact many range same

/-- The range from 0 to the greatest number of 64 bits. -/
def endlessRequest : RangeRequest := ⟨some ⟨0, some 0xFFFFFFFFFFFFFFFF⟩, none⟩

/-- The last five bytes. -/
def lastFiveRequest : RangeRequest := ⟨none, some (.suffix (.ofNat 5), [])⟩

/-- The first request overflows in the Bridge, and the second is rejected by the Relay although
it covers a file of three bytes. -/
theorem range_requests_inexact :
    ¬ AnswersRange (fun _ => none) .download [1, 2, 3] endlessRequest.asked
      (requestSlice (fun _ => none) .download [1, 2, 3] endlessRequest.body
        endlessRequest.headerText) ∧
    ¬ AnswersRange (fun _ => none) .download [1, 2, 3] lastFiveRequest.asked
      (requestSlice (fun _ => none) .download [1, 2, 3] lastFiveRequest.body
        lastFiveRequest.headerText) := by
  constructor
  · intro ⟨outcome, answer, _⟩
    have parsed : parseRange endlessRequest.body endlessRequest.headerText =
        .ok (some ⟨0, some (2 ^ 64 - 1)⟩) := rfl
    rw [requestSlice, parsed] at answer
    dsimp only at answer
    rw [openOffered, rangeHeaderOf_overflow] at answer
    cases answer
  · have parsed : parseRange lastFiveRequest.body lastFiveRequest.headerText =
        .error .transferRangeInvalid := by
      decide +kernel
    rw [requestSlice, parsed]
    dsimp only
    rw [answersRange_rejected]
    intro uncovered
    have covers : (ByteRange.suffix (Digits.ofNat 5).value).Covers 3 := by
      rw [Digits.value_ofNat]
      exact ⟨by decide, by decide⟩
    exact uncovered .inlineText (by decide +kernel) (.inr ⟨_, rfl, covers⟩)

end AgentConsole.Transfer
