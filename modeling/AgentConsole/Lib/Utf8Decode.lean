import AgentConsole.Lib.Utf8

/-! # Reading bytes as UTF-8

Bytes are read as characters and parts that are none.  They are the encoding of a text exactly
when no such part is among them; a lossy reading has the replacement character for each. -/

namespace AgentConsole.Lib.Utf8

/-- The character at the front. -/
def decodeChar (bytes : List UInt8) : Option Char := bytes.toByteArray.utf8DecodeChar? 0

/-- The values a second byte may have after a leading one, and how many bytes follow. -/
def leads (byte : UInt8) : Option (Nat × UInt8 × UInt8) :=
  if 0xC2 ≤ byte ∧ byte ≤ 0xDF then some (1, 0x80, 0xBF)
  else if byte = 0xE0 then some (2, 0xA0, 0xBF)
  else if byte = 0xED then some (2, 0x80, 0x9F)
  else if 0xE1 ≤ byte ∧ byte ≤ 0xEF then some (2, 0x80, 0xBF)
  else if byte = 0xF0 then some (3, 0x90, 0xBF)
  else if 0xF1 ≤ byte ∧ byte ≤ 0xF3 then some (3, 0x80, 0xBF)
  else if byte = 0xF4 then some (3, 0x80, 0x8F)
  else none

/-- The length of what is no character at the front: as much as could have begun one. -/
def brokenLength : List UInt8 → Nat
  | [] => 0
  | [_] => 1
  | lead :: second :: rest =>
    match leads lead with
    | none => 1
    | some (following, least, greatest) =>
      if least ≤ second ∧ second ≤ greatest then
        2 + ((rest.take (following - 1)).takeWhile isContinuation).length
      else 1

def scanLoop : Nat → List UInt8 → List (Option Char)
  | 0, _ => []
  | _ + 1, [] => []
  | rounds + 1, byte :: rest =>
    match decodeChar (byte :: rest) with
    | some c => some c :: scanLoop rounds ((byte :: rest).drop c.utf8Size)
    | none => none :: scanLoop rounds ((byte :: rest).drop (brokenLength (byte :: rest)))

/-- The characters of the bytes in order, `none` for each part that is no character. -/
def scan (bytes : List UInt8) : List (Option Char) := scanLoop bytes.length bytes

def isValid (bytes : List UInt8) : Bool := (scan bytes).all Option.isSome

def lossy (bytes : List UInt8) : List Char := (scan bytes).map (·.getD '\uFFFD')

/-! ## What is read of an encoding -/

theorem decodeChar_encode (c : Char) (rest : List UInt8) :
    decodeChar (String.utf8EncodeChar c ++ rest) = some c := by
  rw [decodeChar, List.toByteArray_append]
  exact ByteArray.utf8DecodeChar?_utf8EncodeChar_append

theorem encode_of_decodeChar {bytes : List UInt8} {c : Char} (read : decodeChar bytes = some c) :
    bytes = String.utf8EncodeChar c ++ bytes.drop c.utf8Size := by
  obtain ⟨rest, same⟩ := ByteArray.exists_of_utf8DecodeChar?_eq_some read
  have lists : bytes = String.utf8EncodeChar c ++ rest.data.toList := by
    have data := congrArg (fun b => b.data.toList) same
    simpa using data
  rw [lists]
  simp

theorem scanLoop_encode (text : List Char) (rounds : Nat)
    (enough : (encode text).length ≤ rounds) : scanLoop rounds (encode text) = text.map some := by
  induction text generalizing rounds with
  | nil => cases rounds <;> rfl
  | cons c text inductionHypothesis =>
    have size : (String.utf8EncodeChar c).length = c.utf8Size := String.length_utf8EncodeChar c
    have positive := c.utf8Size_pos
    rw [encode_cons, List.length_append, size] at enough
    obtain ⟨rounds, rfl⟩ := Nat.exists_eq_add_of_le' (show 1 ≤ rounds by omega)
    obtain ⟨byte, rest, shape⟩ : ∃ byte rest, encode (c :: text) = byte :: rest :=
      List.exists_cons_of_ne_nil (by simp [encode_eq_nil])
    have read : decodeChar (byte :: rest) = some c := by
      rw [← shape, encode_cons]
      exact decodeChar_encode c _
    have later : (byte :: rest).drop c.utf8Size = encode text := by
      rw [← shape, encode_cons, ← size, List.drop_left]
    rw [shape]
    simp only [scanLoop, read, later, List.map_cons]
    rw [inductionHypothesis rounds (by omega)]

theorem encode_of_scanLoop (rounds : Nat) (bytes : List UInt8) (enough : bytes.length ≤ rounds)
    (whole : (scanLoop rounds bytes).all Option.isSome = true) : ∃ text, bytes = encode text := by
  induction rounds generalizing bytes with
  | zero => exact ⟨[], List.length_eq_zero_iff.mp (Nat.le_zero.mp enough)⟩
  | succ rounds inductionHypothesis =>
    cases bytes with
    | nil => exact ⟨[], rfl⟩
    | cons byte rest =>
      cases read : decodeChar (byte :: rest) with
      | none => simp [scanLoop, read] at whole
      | some c =>
        have positive := c.utf8Size_pos
        have shorter : ((byte :: rest).drop c.utf8Size).length ≤ rounds := by
          rw [List.length_drop]
          omega
        simp only [scanLoop, read, List.all_cons, Option.isSome_some, Bool.true_and] at whole
        obtain ⟨text, same⟩ := inductionHypothesis _ shorter whole
        refine ⟨c :: text, ?_⟩
        rw [encode_cons, ← same]
        exact encode_of_decodeChar read

theorem scan_encode (text : List Char) : scan (encode text) = text.map some :=
  scanLoop_encode text _ le_rfl

/-- Bytes are valid exactly when they encode a text. -/
theorem isValid_iff {bytes : List UInt8} : isValid bytes = true ↔ ∃ text, bytes = encode text := by
  constructor
  · exact encode_of_scanLoop bytes.length bytes le_rfl
  · intro ⟨text, same⟩
    rw [same, isValid, scan_encode]
    simp

@[simp] theorem lossy_encode (text : List Char) : lossy (encode text) = text := by
  simp [lossy, scan_encode, Function.comp_def]

/-- The beginning of a text can be read exactly when it ends between two characters. -/
theorem isValid_take {text : List Char} {n : Nat} :
    isValid ((encode text).take n) = true ↔
      ∀ byte, (encode text)[n]? = some byte → isContinuation byte = false := by
  constructor
  · intro valid byte found
    obtain ⟨front, same⟩ := isValid_iff.mp valid
    have within : n < (encode text).length := (List.getElem?_eq_some_iff.mp found).1
    obtain ⟨back, rfl⟩ : front <+: text := prefix_of_encode (same ▸ List.take_prefix _ _)
    have length : (encode front).length = n := by
      rw [← same, List.length_take]
      omega
    subst length
    exact boundary_of_split front back byte found
  · intro boundary
    rcases Nat.lt_or_ge (encode text).length n with past | inside
    · rw [List.take_of_length_le past.le]
      exact isValid_iff.mpr ⟨text, rfl⟩
    · obtain ⟨front, back, rfl, length⟩ := split_of_boundary boundary inside
      refine isValid_iff.mpr ⟨front, ?_⟩
      rw [encode_append, ← length, List.take_left]

example : lossy [0x61, 0xE2, 0x82, 0x62, 0xFF] = ['a', '\uFFFD', 'b', '\uFFFD'] := by
  decide +kernel

end AgentConsole.Lib.Utf8
