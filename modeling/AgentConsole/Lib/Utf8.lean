import Mathlib

/-! # UTF-8 as bytes

The encoding of a text, and where its bytes may be cut.  A character is one leading byte
and at most three continuation bytes, so a position is between two characters exactly
when no continuation byte stands there, and one of any four consecutive positions is. -/

namespace AgentConsole.Lib.Utf8

def encode (text : List Char) : List UInt8 := text.flatMap String.utf8EncodeChar

@[simp] theorem encode_nil : encode [] = [] := rfl

@[simp] theorem encode_cons (c : Char) (text : List Char) :
    encode (c :: text) = String.utf8EncodeChar c ++ encode text := by
  simp [encode]

@[simp] theorem encode_append (a b : List Char) : encode (a ++ b) = encode a ++ encode b := by
  simp [encode]

theorem encode_eq_nil {text : List Char} : encode text = [] ↔ text = [] := by
  cases text with
  | nil => simp
  | cons c rest => simp [String.utf8EncodeChar_ne_nil]

def isContinuation (byte : UInt8) : Bool := byte &&& 0xC0 == 0x80

theorem isContinuation_tail (n : Nat) : isContinuation (UInt8.ofNat (n % 0x40 + 0x80)) = true := by
  have bound : n % 0x40 < 0x40 := Nat.mod_lt _ (by decide)
  generalize n % 0x40 = m at bound
  revert m
  decide

theorem not_isContinuation_of_firstByte {byte : UInt8} (first : byte.IsUTF8FirstByte) :
    isContinuation byte = false := by
  revert byte
  have all : ∀ n : Fin 256, (UInt8.ofNat n).IsUTF8FirstByte →
      isContinuation (UInt8.ofNat n) = false := by
    decide +kernel
  intro byte first
  have same : UInt8.ofNat byte.toNat = byte := by simp
  have known := all ⟨byte.toNat, byte.toNat_lt⟩
  simp only [same] at known
  exact known first

/-- A character is a leading byte and at most three continuation bytes. -/
theorem encodeChar_shape (c : Char) :
    ∃ lead tail, String.utf8EncodeChar c = lead :: tail ∧ isContinuation lead = false ∧
      (∀ byte ∈ tail, isContinuation byte = true) ∧ tail.length ≤ 3 := by
  have first : ∀ lead tail, String.utf8EncodeChar c = lead :: tail →
      isContinuation lead = false := by
    intro lead tail shape
    have leads := @UInt8.isUTF8FirstByte_getElem_zero_utf8EncodeChar c
    simp only [shape, List.getElem_cons_zero] at leads
    exact not_isContinuation_of_firstByte leads
  have tails : ∃ lead tail, String.utf8EncodeChar c = lead :: tail ∧
      (∀ byte ∈ tail, isContinuation byte = true) ∧ tail.length ≤ 3 := by
    simp only [String.utf8EncodeChar]
    split
    · exact ⟨_, _, rfl, by simp, by simp⟩
    · split
      · exact ⟨_, _, rfl, by simp only [List.forall_mem_cons, isContinuation_tail]; simp, by simp⟩
      · split
        · exact ⟨_, _, rfl, by simp only [List.forall_mem_cons, isContinuation_tail]; simp, by simp⟩
        · exact ⟨_, _, rfl, by simp only [List.forall_mem_cons, isContinuation_tail]; simp, by simp⟩
  obtain ⟨lead, tail, shape, continued, short⟩ := tails
  exact ⟨lead, tail, shape, first lead tail shape, continued, short⟩

/-- UTF-8 is a prefix code. -/
theorem encodeChar_append_inj {c d : Char} {a b : List UInt8}
    (same : String.utf8EncodeChar c ++ a = String.utf8EncodeChar d ++ b) : c = d ∧ a = b := by
  have decoded : ∀ (c : Char) (a : List UInt8),
      ByteArray.utf8DecodeChar? (String.utf8EncodeChar c ++ a).toByteArray 0 = some c := by
    intro c a
    rw [List.toByteArray_append]
    exact ByteArray.utf8DecodeChar?_utf8EncodeChar_append
  have chars : c = d := by
    have left := decoded c a
    rw [same, decoded d b] at left
    exact (Option.some.inj left).symm
  subst chars
  exact ⟨rfl, List.append_cancel_left same⟩

/-- A text whose bytes begin with those of another begins with it. -/
theorem prefix_of_encode {a b : List Char} (begins : encode a <+: encode b) : a <+: b := by
  induction a generalizing b with
  | nil => exact List.nil_prefix
  | cons c a inductionHypothesis =>
    obtain ⟨rest, same⟩ := begins
    cases b with
    | nil => simp [String.utf8EncodeChar_ne_nil] at same
    | cons d b =>
      simp only [encode_cons, List.append_assoc] at same
      obtain ⟨rfl, tail⟩ := encodeChar_append_inj same
      exact List.prefix_cons_inj c |>.mpr (inductionHypothesis ⟨rest, tail⟩)

theorem encode_injective {a b : List Char} (same : encode a = encode b) : a = b := by
  have left : a <+: b := prefix_of_encode (same ▸ List.prefix_rfl)
  have right : b <+: a := prefix_of_encode (same ▸ List.prefix_rfl)
  exact left.eq_of_length (le_antisymm left.length_le right.length_le)

/-! ## Cutting between characters -/

/-- A position that is the end or no continuation byte is between two characters. -/
theorem split_of_boundary {text : List Char} {n : Nat}
    (boundary : ∀ byte, (encode text)[n]? = some byte → isContinuation byte = false)
    (inside : n ≤ (encode text).length) :
    ∃ a b, text = a ++ b ∧ (encode a).length = n := by
  induction text generalizing n with
  | nil => exact ⟨[], [], rfl, by simp at inside; simp [inside]⟩
  | cons c text inductionHypothesis =>
    obtain ⟨lead, tail, shape, -, continued, -⟩ := encodeChar_shape c
    rw [encode_cons, shape] at boundary inside
    by_cases start : n = 0
    · exact ⟨[], c :: text, rfl, start.symm⟩
    by_cases within : n < (lead :: tail).length
    · -- inside a character there are continuation bytes only
      have byte : ((lead :: tail) ++ encode text)[n]? = some (lead :: tail)[n] := by
        rw [List.getElem?_append_left within, List.getElem?_eq_getElem within]
      have member : (lead :: tail)[n] ∈ tail := by
        obtain ⟨k, rfl⟩ := Nat.exists_eq_succ_of_ne_zero start
        simp
      have marked := boundary _ byte
      simp [continued _ member] at marked
    · obtain ⟨k, rfl⟩ : ∃ k, n = (lead :: tail).length + k :=
        ⟨n - (lead :: tail).length, by omega⟩
      obtain ⟨a, b, rfl, length⟩ := @inductionHypothesis k
        (by
          intro byte found
          refine boundary byte ?_
          rw [List.getElem?_append_right (by omega), Nat.add_sub_cancel_left, found])
        (by simp at inside; omega)
      exact ⟨c :: a, b, rfl, by rw [encode_cons, shape, List.length_append, length]⟩

/-- Among the positions up to `n`, the last three and `n` hold one between characters. -/
theorem exists_split {text : List Char} {n : Nat} (inside : n ≤ (encode text).length) :
    ∃ a b, text = a ++ b ∧ (encode a).length ≤ n ∧ n ≤ (encode a).length + 3 := by
  induction text generalizing n with
  | nil => exact ⟨[], [], rfl, by simp, by simp at inside; omega⟩
  | cons c text inductionHypothesis =>
    obtain ⟨lead, tail, shape, -, -, short⟩ := encodeChar_shape c
    rw [encode_cons, shape] at inside
    by_cases within : n < (lead :: tail).length
    · exact ⟨[], c :: text, rfl, by simp, by simp at within ⊢; omega⟩
    · obtain ⟨a, b, rfl, below, above⟩ := @inductionHypothesis (n - (lead :: tail).length)
        (by simp at inside ⊢; omega)
      refine ⟨c :: a, b, rfl, ?_, ?_⟩ <;> rw [encode_cons, shape, List.length_append] <;> omega

/-- Between characters stands no continuation byte. -/
theorem boundary_of_split (a b : List Char) (byte : UInt8)
    (found : (encode (a ++ b))[(encode a).length]? = some byte) : isContinuation byte = false := by
  cases b with
  | nil => simp at found
  | cons c b =>
    obtain ⟨lead, tail, shape, first, -, -⟩ := encodeChar_shape c
    rw [encode_append, encode_cons, shape, List.getElem?_append_right le_rfl] at found
    obtain rfl : lead = byte := by simpa using found
    exact first

end AgentConsole.Lib.Utf8
