import OpenBic.Library.Splice
import Mathlib.Data.Nat.ModEq

/-!
# Little-endian fields of a byte memory

A field of a memory is a range of bytes that holds a number, low byte first. `load` reads one
and `store` writes one; a store is read back, up to its width, and leaves every field apart
from it. The last part is about a loop over the entries of an array, each of which has its own
block of the memory.
-/

namespace Library.Field

open List Library.Splice

def load (mem : Nat → UInt8) (start : Nat) : Nat → Nat
  | 0 => 0
  | width + 1 => load mem start width + 256 ^ width * (mem (start + width)).toNat

def digit (value index : Nat) : UInt8 := UInt8.ofNat (value / 256 ^ index)

/-- Write a number into the bytes from an address on, low byte first. -/
def store (mem : Nat → UInt8) (start width value : Nat) : Nat → UInt8 :=
  overwrite mem start width (digit value)

theorem load_congr {first second : Nat → UInt8} {start width : Nat}
    (same : ∀ index < width, first (start + index) = second (start + index)) :
    load first start width = load second start width := by
  induction width with
  | zero => rfl
  | succ width ih =>
    rw [load, load, ih fun index inside => same index (Nat.lt_succ_of_lt inside),
      same width (Nat.lt_succ_self width)]

theorem load_store_part (mem : Nat → UInt8) (start value : Nat) {part width : Nat}
    (within : part ≤ width) :
    load (store mem start width value) start part = value % 256 ^ part := by
  induction part with
  | zero => rw [load, Nat.pow_zero, Nat.mod_one]
  | succ part ih =>
    have byte : store mem start width value (start + part) = digit value part :=
      overwrite_inside mem _ within
    rw [load, ih (Nat.le_of_succ_le within), byte, digit, UInt8.toNat_ofNat']
    exact (Nat.mod_pow_succ (b := 256)).symm

theorem load_store (mem : Nat → UInt8) (start : Nat) {width value : Nat}
    (fits : value < 256 ^ width) : load (store mem start width value) start width = value := by
  rw [load_store_part mem start value (Nat.le_refl width), Nat.mod_eq_of_lt fits]

theorem load_eq_of_digit {mem : Nat → UInt8} {start width value : Nat} (fits : value < 256 ^ width)
    (same : ∀ index < width, mem (start + index) = digit value index) :
    load mem start width = value := by
  have stored : load mem start width = load (store mem start width value) start width :=
    load_congr fun index inside =>
      (same index inside).trans (overwrite_inside mem (digit value) inside).symm
  rw [stored, load_store mem start fits]

theorem store_outside (mem : Nat → UInt8) {start width address : Nat} (value : Nat)
    (outside : address < start ∨ start + width ≤ address) :
    store mem start width value address = mem address :=
  overwrite_outside mem _ (by omega)

theorem load_store_apart (mem : Nat → UInt8) {start width other count : Nat} (value : Nat)
    (apart : other + count ≤ start ∨ start + width ≤ other) :
    load (store mem start width value) other count = load mem other count :=
  load_congr fun _ _ => store_outside mem value (by omega)

theorem load_view (mem : Nat → UInt8) (start offset width : Nat) :
    load (view mem start) offset width = load mem (start + offset) width := by
  induction width with
  | zero => rfl
  | succ width ih => rw [load, load, ih, view_apply, Nat.add_assoc]

theorem store_inside (mem : Nat → UInt8) (start value : Nat) {width index : Nat}
    (inside : index < width) : store mem start width value (start + index) = digit value index :=
  overwrite_inside mem _ inside

section Entries

variable {step : (Nat → UInt8) → Nat → Nat → UInt8} {block : Nat → Nat → Prop}

theorem foldl_outside {address : Nat}
    (frame : ∀ mem index, ¬ block index address → step mem index address = mem address)
    (mem : Nat → UInt8) {count : Nat} (outside : ∀ index < count, ¬ block index address) :
    (List.range count).foldl step mem address = mem address := by
  induction count with
  | zero => rfl
  | succ count ih =>
    rw [range_succ, foldl_append, foldl_cons, foldl_nil,
      frame _ _ (outside count (Nat.lt_succ_self count)),
      ih fun index inside => outside index (Nat.lt_succ_of_lt inside)]

theorem foldl_inside
    (frame : ∀ mem index address, ¬ block index address → step mem index address = mem address)
    (apart : ∀ {first second address}, block first address → block second address →
      first = second)
    (own : ∀ {first second : Nat → UInt8} {index address}, block index address →
      (∀ other, block index other → first other = second other) →
      step first index address = step second index address)
    (mem : Nat → UInt8) {count index address : Nat} (inside : index < count)
    (here : block index address) :
    (List.range count).foldl step mem address = step mem index address := by
  induction count with
  | zero => exact absurd inside (Nat.not_lt_zero _)
  | succ count ih =>
    rw [range_succ, foldl_append, foldl_cons, foldl_nil]
    by_cases last : index = count
    · subst last
      refine own here fun other listed => ?_
      exact foldl_outside (fun mem index => frame mem index other) mem fun early before both =>
        absurd (apart both listed) (Nat.ne_of_lt before)
    · have elsewhere : ¬ block count address := fun both => last (apart here both)
      rw [frame _ _ _ elsewhere, ih (by omega)]

end Entries

theorem foldl_kept {σ ι β : Type} {step : σ → ι → σ} (look : σ → β)
    {parts : List ι} (kept : ∀ state, ∀ index ∈ parts, look (step state index) = look state)
    (state : σ) : look (parts.foldl step state) = look state := by
  induction parts generalizing state with
  | nil => rfl
  | cons index rest ih =>
    have onward := ih (fun state other listed => kept state other (mem_cons_of_mem _ listed))
    exact (onward (step state index)).trans (kept state index mem_cons_self)

theorem foldl_parts {σ ι β : Type} [DecidableEq ι] {step : σ → ι → σ} {look : σ → ι → β}
    {act : β → β} {parts : List ι} {part : ι}
    (frame : ∀ state, ∀ index ∈ parts, index ≠ part →
      look (step state index) part = look state part)
    (own : ∀ state, part ∈ parts → look (step state part) part = act (look state part))
    (distinct : parts.Nodup) (state : σ) :
    look (parts.foldl step state) part =
      if part ∈ parts then act (look state part) else look state part := by
  induction parts generalizing state with
  | nil => rfl
  | cons index rest ih =>
    obtain ⟨apart, distinct⟩ := List.nodup_cons.mp distinct
    have onward := ih (fun state other listed => frame state other (mem_cons_of_mem _ listed))
      (fun state listed => own state (mem_cons_of_mem _ listed)) distinct (step state index)
    rw [foldl_cons, onward]
    by_cases here : part = index
    · subst here
      rw [if_neg apart, if_pos mem_cons_self]
      exact own state mem_cons_self
    · have kept := frame state index mem_cons_self (Ne.symm here)
      by_cases later : part ∈ rest
      · rw [if_pos later, if_pos (mem_cons_of_mem _ later), kept]
      · rw [if_neg later, if_neg (not_mem_cons_of_ne_of_not_mem here later), kept]

end Library.Field
