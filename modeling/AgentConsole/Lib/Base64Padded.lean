import AgentConsole.Lib.Base64

/-! # Base64 with padding

The standard alphabet.  Three bytes are four digits; one or two bytes at the end are two or
three digits, and `=` fills these up to four.  Reading is forgiving: white space is skipped,
the padding may be left out, and bits that make no byte are dropped. -/

namespace AgentConsole.Lib.Base64Padded

open Base64 (groups_induction)

def alphabet : List Char :=
  "ABCDEFGHIJKLMNOPQRSTUVWXYZabcdefghijklmnopqrstuvwxyz0123456789+/".toList

def digit (n : Nat) : Char := alphabet.getD n 'A'

def value (c : Char) : Option Nat := alphabet.findIdx? (· == c)

def pad : Char := '='

/-- The values of the digits. -/
def digits : List UInt8 → List Nat
  | a :: b :: c :: rest =>
    let n := a.toNat * 65536 + b.toNat * 256 + c.toNat
    n / 262144 :: n / 4096 % 64 :: n / 64 % 64 :: n % 64 :: digits rest
  | [a, b] =>
    let n := a.toNat * 1024 + b.toNat * 4
    [n / 4096, n / 64 % 64, n % 64]
  | [a] =>
    let n := a.toNat * 16
    [n / 64, n % 64]
  | [] => []

/-- The bytes that digits make. -/
def bytes : List Nat → List UInt8
  | w :: x :: y :: z :: rest =>
    let n := ((w * 64 + x) * 64 + y) * 64 + z
    .ofNat (n / 65536) :: .ofNat (n / 256 % 256) :: .ofNat (n % 256) :: bytes rest
  | [w, x, y] =>
    let n := (w * 64 + x) * 64 + y
    [.ofNat (n / 1024), .ofNat (n / 4 % 256)]
  | [w, x] =>
    let n := w * 64 + x
    [.ofNat (n / 16)]
  | _ => []

/-- The padding of so many bytes. -/
def padding (n : Nat) : List Char := List.replicate ((3 - n % 3) % 3) pad

def encode (data : List UInt8) : List Char := (digits data).map digit ++ padding data.length

def isSpace (c : Char) : Bool := c ∈ [' ', '\t', '\n', '\r', Char.ofNat 12]

/-- Without one or two `=` at the end. -/
def dropPadding (text : List Char) : List Char :=
  match text.reverse with
  | c :: d :: rest =>
    if c = pad then (if d = pad then rest.reverse else (d :: rest).reverse) else text
  | [c] => if c = pad then [] else text
  | [] => []

/-- Padding is dropped from a text of whole groups of four. -/
def decode (text : List Char) : Option (List UInt8) :=
  let text := text.filter (!isSpace ·)
  let text := if text.length % 4 = 0 then dropPadding text else text
  if text.length % 4 = 1 then none else (text.mapM value).map bytes

/-! ## Reading what was written -/

theorem ofNat_toNat {n : Nat} (byte : UInt8) (same : n = byte.toNat) : UInt8.ofNat n = byte := by
  rw [same, UInt8.ofNat_toNat]

theorem bytes_digits (data : List UInt8) : bytes (digits data) = data := by
  induction data using groups_induction with
  | three a b c rest inductionHypothesis =>
    have first := a.toNat_lt
    have second := b.toNat_lt
    have third := c.toNat_lt
    simp only [digits]
    generalize whole : a.toNat * 65536 + b.toNat * 256 + c.toNat = n
    have joined : ((n / 262144 * 64 + n / 4096 % 64) * 64 + n / 64 % 64) * 64 + n % 64 = n := by omega
    simp only [bytes]
    rw [joined, inductionHypothesis, ofNat_toNat a (by omega),
      ofNat_toNat b (by omega), ofNat_toNat c (by omega)]
  | two a b =>
    have first := a.toNat_lt
    have second := b.toNat_lt
    simp only [digits]
    generalize whole : a.toNat * 1024 + b.toNat * 4 = n
    have joined : (n / 4096 * 64 + n / 64 % 64) * 64 + n % 64 = n := by omega
    simp only [bytes]
    rw [joined, ofNat_toNat a (by omega), ofNat_toNat b (by omega)]
  | one a =>
    have first := a.toNat_lt
    simp only [digits]
    generalize whole : a.toNat * 16 = n
    have joined : n / 64 * 64 + n % 64 = n := by omega
    simp only [bytes]
    rw [joined, ofNat_toNat a (by omega)]
  | none => rfl

theorem digits_lt (data : List UInt8) : ∀ n ∈ digits data, n < 64 := by
  induction data using groups_induction with
  | three a b c rest inductionHypothesis =>
    have first := a.toNat_lt
    have second := b.toNat_lt
    have third := c.toNat_lt
    simp only [digits, List.forall_mem_cons]
    exact ⟨by omega, by omega, by omega, by omega, inductionHypothesis⟩
  | two a b =>
    have first := a.toNat_lt
    have second := b.toNat_lt
    simp only [digits, List.forall_mem_cons]
    exact ⟨by omega, by omega, by omega, by simp⟩
  | one a =>
    have first := a.toNat_lt
    simp only [digits, List.forall_mem_cons]
    exact ⟨by omega, by omega, by simp⟩
  | none => simp [digits]

/-- Digits and padding fill whole groups of four. -/
theorem length_digits (data : List UInt8) :
    (digits data).length + (3 - data.length % 3) % 3 = (data.length + 2) / 3 * 4 := by
  induction data using groups_induction with
  | three a b c rest inductionHypothesis =>
    simp only [digits, List.length_cons]
    omega
  | two a b => simp [digits]
  | one a => simp [digits]
  | none => simp [digits]

/-- A digit is read as its value, and is neither space nor padding. -/
theorem digit_reads {n : Nat} (small : n < 64) :
    value (digit n) = some n ∧ isSpace (digit n) = false ∧ digit n ≠ pad := by
  have all : ∀ n : Fin 64, value (digit n) = some n.val ∧ isSpace (digit n) = false ∧
      digit n ≠ pad := by
    decide +kernel
  exact all ⟨n, small⟩

theorem mapM_value {ns : List Nat} (small : ∀ n ∈ ns, n < 64) :
    (ns.map digit).mapM value = some ns := by
  induction ns with
  | nil => rfl
  | cons n ns inductionHypothesis =>
    have here := (digit_reads (small n List.mem_cons_self)).1
    have rest := inductionHypothesis fun m member => small m (List.mem_cons_of_mem _ member)
    rw [List.map_cons, List.mapM_cons, here, rest]
    rfl

theorem dropPadding_digits {ns : List Nat} (small : ∀ n ∈ ns, n < 64) {k : Nat} (few : k < 3) :
    dropPadding (ns.map digit ++ List.replicate k pad) = ns.map digit := by
  have plain : ∀ c ∈ (ns.map digit).reverse, c ≠ pad := by
    intro c member
    rw [List.mem_reverse, List.mem_map] at member
    obtain ⟨n, among, rfl⟩ := member
    exact (digit_reads (small n among)).2.2
  have back : (ns.map digit).reverse.reverse = ns.map digit := List.reverse_reverse _
  unfold dropPadding
  rw [List.reverse_append, List.reverse_replicate]
  generalize (ns.map digit).reverse = front at plain back
  rw [← back]
  interval_cases k
  · rcases front with _ | ⟨c, _ | ⟨d, rest⟩⟩
    · rfl
    · simp [plain c List.mem_cons_self]
    · simp [plain c List.mem_cons_self]
  · rcases front with _ | ⟨d, rest⟩
    · rfl
    · simp [plain d List.mem_cons_self]
  · simp

theorem decode_encode (data : List UInt8) : decode (encode data) = some data := by
  have small := digits_lt data
  have few : (3 - data.length % 3) % 3 < 3 := Nat.mod_lt _ (by omega)
  have solid : (encode data).filter (!isSpace ·) = encode data := by
    rw [List.filter_eq_self]
    intro c member
    rcases List.mem_append.mp member with inDigits | inPadding
    · obtain ⟨n, among, rfl⟩ := List.mem_map.mp inDigits
      simp [(digit_reads (small n among)).2.1]
    · rw [List.eq_of_mem_replicate inPadding]
      decide
  have groups : (encode data).length % 4 = 0 := by
    have length := length_digits data
    simp only [encode, padding, List.length_append, List.length_map, List.length_replicate]
    omega
  have shorter : ((digits data).map digit).length % 4 ≠ 1 := by
    have length := length_digits data
    rw [List.length_map]
    omega
  unfold decode
  simp only [solid, groups, if_true]
  rw [show dropPadding (encode data) = (digits data).map digit from dropPadding_digits small few,
    if_neg shorter, mapM_value small, Option.map_some, bytes_digits]

end AgentConsole.Lib.Base64Padded
