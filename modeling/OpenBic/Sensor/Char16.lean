import Mathlib.Algebra.Order.Ring.Nat
import Mathlib.Data.List.Basic
import Mathlib.Tactic.SplitIfs
import Mathlib.Tactic.ByContra

/-!
# Sensor names from UTF-16 to UTF-8

`char16_to_char` of `pdr.c`, and the characters that a string of UTF-16 units stands for. A unit that
is half of no pair counts as a character of its own.
-/

namespace OpenBic.Sensor.Char16

open List

/-! ## The conversion -/

/-- A string without the unit that ends it. -/
structure Char16String where
  units : List UInt16
  nonzero : ∀ unit ∈ units, unit ≠ 0

def continuation (srcData shift : Nat) : UInt8 :=
  .ofNat (0x80 ||| (srcData >>> shift &&& 0x3f))

def unitBytes (srcData : Nat) : List UInt8 :=
  if srcData < 0x80 then [.ofNat srcData]
  else if srcData < 0x800 then [.ofNat (0xc0 ||| srcData >>> 6), continuation srcData 0]
  else if srcData < 0x10000 then
    [.ofNat (0xe0 ||| srcData >>> 12), continuation srcData 6, continuation srcData 0]
  else [.ofNat (0xf0 ||| srcData >>> 18), continuation srcData 12, continuation srcData 6,
    continuation srcData 0]

def convert (maxLength : Nat) : List UInt16 → List UInt8 → List UInt8
  | [], dest => dest
  | unit :: rest, dest =>
    if dest.length < maxLength - 1 then
      -- The test for space of each branch looks at the last byte that it writes.
      if maxLength - 1 ≤ dest.length + ((unitBytes unit.toNat).length - 1) then dest
      else convert maxLength rest (dest ++ unitBytes unit.toNat)
    else dest

def char16ToChar (src : Char16String) (maxLength : Nat) : List UInt8 :=
  convert maxLength src.units [] ++ [0]

/-! ## Characters -/

def isHigh (unit : UInt16) : Bool := 0xd800 ≤ unit.toNat && unit.toNat < 0xdc00

def isLow (unit : UInt16) : Bool := 0xdc00 ≤ unit.toNat && unit.toNat < 0xe000

def points : List UInt16 → List Nat
  | [] => []
  | [unit] => [unit.toNat]
  | high :: low :: rest =>
    if isHigh high && isLow low then
      (0x10000 + (high.toNat - 0xd800) * 0x400 + (low.toNat - 0xdc00)) :: points rest
    else high.toNat :: points (low :: rest)

def utf8 (point : Nat) : List UInt8 :=
  if point ≤ 0x7f then [.ofNat point]
  else if point ≤ 0x7ff then [.ofNat (point / 64 % 0x20 + 0xc0), .ofNat (point % 0x40 + 0x80)]
  else if point ≤ 0xffff then
    [.ofNat (point / 4096 % 0x10 + 0xe0), .ofNat (point / 64 % 0x40 + 0x80),
      .ofNat (point % 0x40 + 0x80)]
  else
    [.ofNat (point / 262144 % 0x08 + 0xf0), .ofNat (point / 4096 % 0x40 + 0x80),
      .ofNat (point / 64 % 0x40 + 0x80), .ofNat (point % 0x40 + 0x80)]

def encoded (chars : List Nat) : List UInt8 := chars.flatMap utf8

/-- The output is the conversion of the first characters and ends within its capacity; it is that
of all of them where this fits. -/
def Converted (src : Char16String) (maxLength : Nat) : Prop :=
  ∃ front back, points src.units = front ++ back ∧
    char16ToChar src maxLength = encoded front ++ [0] ∧
      (encoded front).length + 1 ≤ maxLength ∧
        ((encoded (points src.units)).length + 1 ≤ maxLength → back = [])

def plainPart (chars : List Nat) : List Nat := chars.takeWhile (· < 0x10000)

/-- No pair of units is converted. -/
def PairsAway (src : Char16String) (maxLength : Nat) : Prop :=
  plainPart (points src.units) = points src.units ∨
    maxLength ≤ (encoded (plainPart (points src.units))).length + 3

instance (src : Char16String) (maxLength : Nat) : Decidable (PairsAway src maxLength) :=
  inferInstanceAs (Decidable (_ ∨ _))

/-! ## One unit -/

theorem or_eq_add {low : Nat} (high width : Nat) (small : low < 2 ^ width) :
    high <<< width ||| low = low + high <<< width := by
  rw [← Nat.shiftLeft_add_eq_or_of_lt small, Nat.add_comm]

theorem continuation_eq (srcData shift : Nat) :
    continuation srcData shift = .ofNat (srcData / 2 ^ shift % 0x40 + 0x80) := by
  unfold continuation
  have masked : srcData >>> shift &&& 0x3f = srcData / 2 ^ shift % 0x40 := by
    rw [Nat.shiftRight_eq_div_pow]
    exact Nat.and_two_pow_sub_one_eq_mod _ 6
  rw [masked]
  exact congrArg UInt8.ofNat (or_eq_add 2 6 (Nat.mod_lt _ (by decide)))

theorem unitBytes_eq (unit : UInt16) : unitBytes unit.toNat = utf8 unit.toNat := by
  have inside : unit.toNat < 0x10000 := unit.toNat_lt
  generalize unit.toNat = srcData at inside
  have two : srcData < 0x800 → 0xc0 ||| srcData >>> 6 = srcData / 64 % 0x20 + 0xc0 := by
    intro small
    rw [Nat.shiftRight_eq_div_pow, Nat.mod_eq_of_lt (by omega)]
    exact or_eq_add 3 6 (by omega)
  have three : 0xe0 ||| srcData >>> 12 = srcData / 4096 % 0x10 + 0xe0 := by
    rw [Nat.shiftRight_eq_div_pow, Nat.mod_eq_of_lt (by omega)]
    exact or_eq_add 14 4 (by omega)
  unfold unitBytes utf8
  simp only [continuation_eq, Nat.pow_zero, Nat.div_one, Nat.reducePow, three, inside, ↓reduceIte,
    Nat.lt_succ_iff.symm]
  split_ifs with one few
  · rfl
  · rw [two few]
  · rfl

theorem utf8_ne_nil (point : Nat) : 0 < (utf8 point).length := by
  unfold utf8
  split_ifs <;> exact Nat.succ_pos _

theorem length_utf8_high {unit : UInt16} (high : isHigh unit = true) :
    (utf8 unit.toNat).length = 3 ∧ (utf8 unit.toNat).head? = some 0xed := by
  rw [isHigh, Bool.and_eq_true, decide_eq_true_eq, decide_eq_true_eq] at high
  unfold utf8
  rw [if_neg (by omega), if_neg (by omega), if_pos (by omega)]
  have head : unit.toNat / 4096 % 0x10 + 0xe0 = 0xed := by omega
  rw [head]
  exact ⟨rfl, rfl⟩

theorem convert_cons (maxLength : Nat) (unit : UInt16) (rest : List UInt16) (dest : List UInt8) :
    convert maxLength (unit :: rest) dest =
      if dest.length + (utf8 unit.toNat).length + 1 ≤ maxLength then
        convert maxLength rest (dest ++ utf8 unit.toNat) else dest := by
  have some := utf8_ne_nil unit.toNat
  rw [convert, unitBytes_eq]
  split_ifs <;> first | rfl | omega

/-! ## The loop -/

theorem encoded_cons (char : Nat) (chars : List Nat) :
    encoded (char :: chars) = utf8 char ++ encoded chars := flatMap_cons

theorem encoded_append (front back : List Nat) :
    encoded (front ++ back) = encoded front ++ encoded back := flatMap_append

theorem points_cons (unit : UInt16) (rest : List UInt16) :
    (isHigh unit = true ∧ ∃ pair after, points (unit :: rest) = pair :: after ∧ 0x10000 ≤ pair) ∨
      points (unit :: rest) = unit.toNat :: points rest := by
  cases rest with
  | nil => exact .inr rfl
  | cons low rest =>
    rw [points]
    split_ifs with both
    · exact .inl ⟨(Bool.and_eq_true_iff.mp both).1, _, _, rfl, by omega⟩
    · exact .inr rfl

theorem plainPart_pair {pair : Nat} (large : 0x10000 ≤ pair) (after : List Nat) :
    plainPart (pair :: after) = [] := by
  rw [plainPart, takeWhile_cons, if_neg (by rw [decide_eq_true_eq]; omega)]

theorem plainPart_unit (unit : UInt16) (after : List Nat) :
    plainPart (unit.toNat :: after) = unit.toNat :: plainPart after := by
  have inside : unit.toNat < 0x10000 := unit.toNat_lt
  rw [plainPart, takeWhile_cons, if_pos (by rw [decide_eq_true_eq]; exact inside), plainPart]

theorem length_utf8_pair {pair : Nat} (large : 0x10000 ≤ pair) :
    (utf8 pair).length = 4 ∧ (utf8 pair).head? ≠ some 0xed := by
  unfold utf8
  rw [if_neg (by omega), if_neg (by omega), if_neg (by omega)]
  refine ⟨rfl, fun same => ?_⟩
  have head := congrArg UInt8.toNat (Option.some.inj same)
  change (pair / 262144 % 8 + 240) % 256 = 237 at head
  omega

theorem length_utf8_le (unit : UInt16) (rest : List UInt16) :
    (utf8 unit.toNat).length ≤ (encoded (points (unit :: rest))).length := by
  rcases points_cons unit rest with ⟨high, pair, after, same, large⟩ | same
  · rw [same, encoded_cons, length_append, (length_utf8_high high).1,
      (length_utf8_pair large).1]
    omega
  · rw [same, encoded_cons, length_append]
    omega

theorem convert_extends (maxLength : Nat) (units : List UInt16) (dest : List UInt8) :
    ∃ more, convert maxLength units dest = dest ++ more := by
  induction units generalizing dest with
  | nil => exact ⟨[], (append_nil dest).symm⟩
  | cons unit rest ih =>
    rw [convert_cons]
    split_ifs
    · obtain ⟨more, same⟩ := ih (dest ++ utf8 unit.toNat)
      exact ⟨utf8 unit.toNat ++ more, by rw [same, append_assoc]⟩
    · exact ⟨[], (append_nil dest).symm⟩

/-- As long as no pair is reached, characters are converted one after the other. -/
theorem convert_plain {maxLength : Nat} {units : List UInt16} {dest : List UInt8}
    (room : dest.length + 1 ≤ maxLength)
    (away : plainPart (points units) = points units ∨
      maxLength ≤ dest.length + (encoded (plainPart (points units))).length + 3) :
    ∃ front back, points units = front ++ back ∧
      convert maxLength units dest = dest ++ encoded front ∧
        dest.length + (encoded front).length + 1 ≤ maxLength ∧
          (dest.length + (encoded (points units)).length + 1 ≤ maxLength → back = []) := by
  induction units generalizing dest with
  | nil => exact ⟨[], [], rfl, (append_nil dest).symm, room, fun _ => rfl⟩
  | cons unit rest ih =>
    have first := length_utf8_le unit rest
    rw [convert_cons]
    split_ifs with fits
    · rcases points_cons unit rest with ⟨high, pair, after, same, large⟩ | same
      · rw [same, plainPart_pair large] at away
        rw [(length_utf8_high high).1] at fits
        rcases away with none | full
        · cases none
        · exact absurd full (by change ¬ maxLength ≤ dest.length + 0 + 3; omega)
      · rw [same, plainPart_unit, List.cons.injEq, encoded_cons, length_append] at away
        obtain ⟨front, back, split, converted, inside, whole⟩ :=
          @ih (dest ++ utf8 unit.toNat) (by rw [length_append]; omega) (by
            rw [length_append]
            exact away.imp (fun plain => plain.2) (by omega))
        rw [length_append] at inside whole
        refine ⟨unit.toNat :: front, back, by rw [same, split]; rfl, ?_, ?_, ?_⟩
        · rw [converted, encoded_cons, append_assoc]
        · rw [encoded_cons, length_append]
          omega
        · rw [same, encoded_cons, length_append]
          exact fun enough => whole (by omega)
    · exact ⟨[], _, rfl, (append_nil dest).symm, room, fun enough => absurd enough (by omega)⟩

theorem convert_pair {maxLength : Nat} {units : List UInt16} {dest : List UInt8}
    (pair : plainPart (points units) ≠ points units)
    (room : dest.length + (encoded (plainPart (points units))).length + 4 ≤ maxLength) :
    ∃ tail, convert maxLength units dest =
      dest ++ encoded (plainPart (points units)) ++ 0xed :: tail := by
  induction units generalizing dest with
  | nil => exact absurd rfl pair
  | cons unit rest ih =>
    rw [convert_cons]
    rcases points_cons unit rest with ⟨high, point, after, same, large⟩ | same
    · rw [same, plainPart_pair large] at room ⊢
      obtain ⟨tail, head⟩ := List.head?_eq_some_iff.mp (length_utf8_high high).2
      obtain ⟨more, extends_⟩ := convert_extends maxLength rest (dest ++ utf8 unit.toNat)
      rw [if_pos (by rw [(length_utf8_high high).1]; exact room), extends_, head]
      exact ⟨tail ++ more, by simp [encoded]⟩
    · rw [same, plainPart_unit] at pair room ⊢
      rw [encoded_cons, length_append] at room
      obtain ⟨tail, converted⟩ := @ih (dest ++ utf8 unit.toNat)
        (fun plain => pair (by rw [plain])) (by rw [length_append]; omega)
      rw [if_pos (by omega), converted, encoded_cons]
      exact ⟨tail, by simp⟩

theorem plainPart_split {chars : List Nat} (pair : plainPart chars ≠ chars) :
    ∃ point after, chars = plainPart chars ++ point :: after ∧ 0x10000 ≤ point := by
  have split : plainPart chars ++ chars.dropWhile (· < 0x10000) = chars :=
    takeWhile_append_dropWhile
  have first := head?_dropWhile_not (fun point : Nat => decide (point < 0x10000)) chars
  cases rest : chars.dropWhile (· < 0x10000) with
  | nil =>
    rw [rest, append_nil] at split
    exact absurd split pair
  | cons point after =>
    rw [rest] at split first
    exact ⟨point, after, split.symm, Nat.not_lt.mp (of_decide_eq_false first)⟩

/-- The conversion is right exactly if it reaches no pair of units. -/
theorem converted_iff (src : Char16String) (room : Nat) :
    Converted src (room + 1) ↔ PairsAway src (room + 1) := by
  constructor
  · rintro ⟨front, back, split, converted, _⟩
    by_contra reached
    obtain ⟨pair, enough⟩ := not_or.mp reached
    obtain ⟨tail, written⟩ := @convert_pair (room + 1) src.units [] pair (by
      change 0 + _ + 4 ≤ _
      omega)
    have front_eq : encoded front = encoded (plainPart (points src.units)) ++ 0xed :: tail :=
      (append_cancel_right converted).symm.trans written
    obtain ⟨point, after, parts, large⟩ := plainPart_split pair
    rcases List.append_eq_append_iff.mp (split.symm.trans parts) with
      ⟨more, plain, _⟩ | ⟨more, plain, rest⟩
    · have longer := congrArg List.length front_eq
      rw [plain, encoded_append, length_append, length_append, length_cons] at longer
      omega
    · rw [plain, encoded_append] at front_eq
      have behind := append_cancel_left front_eq
      cases more with
      | nil => cases behind
      | cons first more =>
        obtain rfl := (List.cons.inj rest).1
        rw [encoded_cons] at behind
        have head := congrArg List.head? behind
        rw [head?_append_of_ne_nil _ (ne_nil_of_length_pos (utf8_ne_nil point))] at head
        exact (length_utf8_pair large).2 head
  · intro away
    obtain ⟨front, back, split, converted, inside, whole⟩ :=
      @convert_plain (room + 1) src.units [] (Nat.le_add_left _ _) (by
        change _ ∨ _ ≤ 0 + _ + 3
        rw [Nat.zero_add]
        exact away)
    change 0 + _ + 1 ≤ _ at inside
    rw [Nat.zero_add] at inside
    refine ⟨front, back, split, congrArg (· ++ [0]) converted, inside, fun fits => whole ?_⟩
    change 0 + _ + 1 ≤ _
    omega

def smile : Char16String := ⟨[0xd83d, 0xde00], by simp⟩

/-- A character beyond the first plane is not converted. -/
theorem smile_not_converted : ¬ Converted smile 8 := by
  rw [converted_iff smile 7]
  decide

end OpenBic.Sensor.Char16
