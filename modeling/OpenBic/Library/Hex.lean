import Mathlib.Algebra.Order.Ring.Nat

/-!
# Hexadecimal text

The number at the front of a text as `strtol` and `strtoul` read it with base 16, and the bytes
that pairs of hexadecimal digits stand for.
-/

namespace Library.Hex

open List

def digitValue (char : UInt8) : Option Nat :=
  if 0x30 ≤ char.toNat ∧ char.toNat ≤ 0x39 then some (char.toNat - 0x30)
  else if 0x41 ≤ char.toNat ∧ char.toNat ≤ 0x46 then some (char.toNat - 0x37)
  else if 0x61 ≤ char.toNat ∧ char.toNat ≤ 0x66 then some (char.toNat - 0x57)
  else none

def isSpace (char : UInt8) : Bool := char == 0x20 || (decide (0x09 ≤ char) && decide (char ≤ 0x0D))

/-- The number that digits go on from a number with, up to the first character that is none. -/
def magnitude : List UInt8 → Nat → Nat
  | [], number => number
  | char :: rest, number =>
    match digitValue char with
    | some value => magnitude rest (number * 16 + value)
    | none => number

def dropPrefix : List UInt8 → List UInt8
  | 0x30 :: mark :: digit :: rest =>
    if (mark = 0x78 ∨ mark = 0x58) ∧ (digitValue digit).isSome then digit :: rest
    else 0x30 :: mark :: digit :: rest
  | text => text

/-- The number at the front of a text: spaces, a sign, "0x" and digits, each if any. -/
def numeral (text : List UInt8) : Int :=
  match text.dropWhile isSpace with
  | 0x2D :: rest => -(magnitude (dropPrefix rest) 0 : Int)
  | 0x2B :: rest => magnitude (dropPrefix rest) 0
  | rest => magnitude (dropPrefix rest) 0

def decode : List UInt8 → Option (List UInt8)
  | [] => some []
  | [_] => none
  | high :: low :: rest => do
    let highValue ← digitValue high
    let lowValue ← digitValue low
    let bytes ← decode rest
    some (UInt8.ofNat (highValue * 16 + lowValue) :: bytes)

variable {char : UInt8} {value : Nat}

theorem digitValue_range (digit : digitValue char = some value) :
    0x30 ≤ char.toNat ∧ value < 16 := by
  unfold digitValue at digit
  split at digit
  · cases digit
    omega
  · split at digit
    · cases digit
      omega
    · split at digit
      · cases digit
        omega
      · cases digit

theorem kind_of_range (behind : 0x30 ≤ char.toNat) :
    isSpace char = false ∧ char ≠ 0x2D ∧ char ≠ 0x2B := by
  refine ⟨?_, ?_, ?_⟩
  · have blank : char ≠ 0x20 := by
      rintro rfl
      exact absurd behind (by decide)
    have control : ¬ char ≤ 0x0D := by
      show ¬ char.toNat ≤ 13
      omega
    simp [isSpace, blank, control]
  · rintro rfl
    exact absurd behind (by decide)
  · rintro rfl
    exact absurd behind (by decide)

theorem numeral_pair {high low : UInt8} {highValue lowValue : Nat}
    (first : digitValue high = some highValue) (second : digitValue low = some lowValue) :
    numeral [high, low] = (highValue * 16 + lowValue : Nat) := by
  obtain ⟨noSpace, noMinus, noPlus⟩ := kind_of_range (digitValue_range first).1
  have front : [high, low].dropWhile isSpace = [high, low] := by
    rw [dropWhile_cons_of_neg (by simp [noSpace])]
  have whole : dropPrefix [high, low] = [high, low] := by
    unfold dropPrefix
    split
    · rename_i same
      simp at same
    · rfl
  unfold numeral
  rw [front]
  split
  · rename_i same
    exact absurd (List.cons.inj same).1 noMinus
  · rename_i same
    exact absurd (List.cons.inj same).1 noPlus
  · rw [whole]
    simp only [magnitude, first, second, Nat.zero_mul, Nat.zero_add]

theorem length_decode {text bytes : List UInt8} (decoded : decode text = some bytes) :
    text.length = 2 * bytes.length := by
  induction text using decode.induct generalizing bytes with
  | case1 =>
    cases decoded
    rfl
  | case2 char => cases decoded
  | case3 high low rest ih =>
    obtain ⟨highValue, -, decoded⟩ := Option.bind_eq_some_iff.mp decoded
    obtain ⟨lowValue, -, decoded⟩ := Option.bind_eq_some_iff.mp decoded
    obtain ⟨behind, later, same⟩ := Option.bind_eq_some_iff.mp decoded
    cases same
    rw [length_cons, length_cons, length_cons, ih later]
    omega

end Library.Hex
