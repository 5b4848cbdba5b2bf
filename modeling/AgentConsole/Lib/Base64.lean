import Mathlib

/-! # Base64 without padding

The URL-safe alphabet.  Three bytes are four digits; one or two bytes at the end are two or
three digits, whose unused bits are zero. -/

namespace AgentConsole.Lib.Base64

def alphabet : List Char :=
  "ABCDEFGHIJKLMNOPQRSTUVWXYZabcdefghijklmnopqrstuvwxyz0123456789-_".toList

def digit (n : Nat) : Char := alphabet.getD n 'A'

def value (c : Char) : Option Nat := alphabet.findIdx? (· == c)

def encode : List UInt8 → List Char
  | a :: b :: c :: rest =>
    let n := a.toNat * 65536 + b.toNat * 256 + c.toNat
    digit (n / 262144) :: digit (n / 4096 % 64) :: digit (n / 64 % 64) :: digit (n % 64) :: encode rest
  | [a, b] =>
    let n := a.toNat * 1024 + b.toNat * 4
    [digit (n / 4096), digit (n / 64 % 64), digit (n % 64)]
  | [a] =>
    let n := a.toNat * 16
    [digit (n / 64), digit (n % 64)]
  | [] => []

def decode : List Char → Option (List UInt8)
  | w :: x :: y :: z :: rest => do
    let w ← value w
    let x ← value x
    let y ← value y
    let z ← value z
    let n := ((w * 64 + x) * 64 + y) * 64 + z
    let bytes ← decode rest
    return .ofNat (n / 65536) :: .ofNat (n / 256 % 256) :: .ofNat (n % 256) :: bytes
  | [w, x, y] => do
    let w ← value w
    let x ← value x
    let y ← value y
    let n := (w * 64 + x) * 64 + y
    if n % 4 ≠ 0 then none else return [.ofNat (n / 1024), .ofNat (n / 4 % 256)]
  | [w, x] => do
    let w ← value w
    let x ← value x
    let n := w * 64 + x
    if n % 16 ≠ 0 then none else return [.ofNat (n / 16)]
  | [_] => none
  | [] => some []

theorem value_digit {n : Nat} (small : n < 64) : value (digit n) = some n := by
  have all : ∀ n : Fin 64, value (digit n) = some n.val := by decide +kernel
  exact all ⟨n, small⟩

/-- Digits are read as their values, whatever is made of these. -/
theorem value_digit_bind {β : Type} {n : Nat} (small : n < 64) (f : Nat → Option β) :
    (value (digit n)).bind f = f n := by
  rw [value_digit small, Option.bind_some]

theorem ofNat_eq {n : Nat} (byte : UInt8) (same : n = byte.toNat) : UInt8.ofNat n = byte := by
  rw [same, UInt8.ofNat_toNat]

/-- Bytes in groups of three, with one or two at the end. -/
theorem groups_induction {motive : List UInt8 → Prop}
    (three : ∀ a b c rest, motive rest → motive (a :: b :: c :: rest))
    (two : ∀ a b, motive [a, b]) (one : ∀ a, motive [a]) (none : motive []) :
    ∀ bytes, motive bytes
  | a :: b :: c :: rest => three a b c rest (groups_induction three two one none rest)
  | [a, b] => two a b
  | [a] => one a
  | [] => none

theorem decode_encode (bytes : List UInt8) : decode (encode bytes) = some bytes := by
  induction bytes using groups_induction with
  | three a b c rest inductionHypothesis =>
    have first := a.toNat_lt
    have second := b.toNat_lt
    have third := c.toNat_lt
    simp only [encode]
    generalize whole : a.toNat * 65536 + b.toNat * 256 + c.toNat = n
    have joined : ((n / 262144 * 64 + n / 4096 % 64) * 64 + n / 64 % 64) * 64 + n % 64 = n := by omega
    simp only [decode, bind, pure]
    rw [value_digit_bind (by omega), value_digit_bind (by omega), value_digit_bind (by omega),
      value_digit_bind (by omega), inductionHypothesis, joined, Option.bind_some,
      ofNat_eq a (by omega), ofNat_eq b (by omega), ofNat_eq c (by omega)]
  | two a b =>
    have first := a.toNat_lt
    have second := b.toNat_lt
    simp only [encode]
    generalize whole : a.toNat * 1024 + b.toNat * 4 = n
    have joined : (n / 4096 * 64 + n / 64 % 64) * 64 + n % 64 = n := by omega
    have unused : ¬ n % 4 ≠ 0 := by omega
    simp only [decode, bind, pure]
    rw [value_digit_bind (by omega), value_digit_bind (by omega), value_digit_bind (by omega),
      joined, if_neg unused, ofNat_eq a (by omega), ofNat_eq b (by omega)]
  | one a =>
    have first := a.toNat_lt
    simp only [encode]
    generalize whole : a.toNat * 16 = n
    have joined : n / 64 * 64 + n % 64 = n := by omega
    have unused : ¬ n % 16 ≠ 0 := by omega
    simp only [decode, bind, pure]
    rw [value_digit_bind (by omega), value_digit_bind (by omega), joined, if_neg unused,
      ofNat_eq a (by omega)]
  | none => rfl

end AgentConsole.Lib.Base64
