import Mathlib.Algebra.Order.Ring.Nat
import Mathlib.Tactic.Common
import Mathlib.Data.List.GetD

/-!
# Overwriting a range of a memory

A memory is a function from addresses to cells. `overwrite base start count source`
replaces the cells of the half-open range from `start` by the first `count` cells of
`source`. The lemmas say how overwrites of one range, of adjacent ranges and of a range
inside another compose.
-/

namespace Library.Splice

open List

variable {α : Type}

/-- Replace the cells `[start, start + count)` by the first `count` cells of the source. -/
def overwrite (base : Nat → α) (start count : Nat) (source : Nat → α) : Nat → α :=
  fun address =>
    if start ≤ address ∧ address < start + count then source (address - start)
    else base address

def view (base : Nat → α) (start : Nat) : Nat → α := fun index => base (start + index)

@[simp]
theorem view_apply (base : Nat → α) (start index : Nat) :
    view base start index = base (start + index) := rfl

@[simp]
theorem view_zero (base : Nat → α) : view base 0 = base := by
  funext index
  simp

theorem view_view (base : Nat → α) (first second : Nat) :
    view (view base first) second = view base (first + second) := by
  funext index
  simp [Nat.add_assoc]

theorem overwrite_inside (base : Nat → α) {start count index : Nat} (source : Nat → α)
    (inside : index < count) :
    overwrite base start count source (start + index) = source index := by
  simp [overwrite, inside]

theorem overwrite_outside (base : Nat → α) {start count address : Nat} (source : Nat → α)
    (outside : ¬ (start ≤ address ∧ address < start + count)) :
    overwrite base start count source address = base address :=
  if_neg outside

@[simp]
theorem overwrite_zero (base : Nat → α) (start : Nat) (source : Nat → α) :
    overwrite base start 0 source = base := by
  funext address
  exact overwrite_outside base source (by omega)

theorem overwrite_congr (base : Nat → α) (start : Nat) {count : Nat} {first second : Nat → α}
    (same : ∀ index < count, first index = second index) :
    overwrite base start count first = overwrite base start count second := by
  funext address
  by_cases inside : start ≤ address ∧ address < start + count
  · simp only [overwrite, inside, and_self, ↓reduceIte]
    exact same _ (by omega)
  · rw [overwrite_outside base first inside, overwrite_outside base second inside]

theorem overwrite_view (base : Nat → α) (start count : Nat) :
    overwrite base start count (view base start) = base := by
  funext address
  by_cases inside : start ≤ address ∧ address < start + count
  · simp only [overwrite, inside, and_self, ↓reduceIte, view]
    congr 1
    omega
  · exact overwrite_outside base _ inside

theorem overwrite_overwrite (base : Nat → α) (start count : Nat) (first second : Nat → α) :
    overwrite (overwrite base start count first) start count second =
      overwrite base start count second := by
  funext address
  by_cases inside : start ≤ address ∧ address < start + count
  · simp [overwrite, inside]
  · simp [overwrite_outside, inside]

theorem overwrite_append (base : Nat → α) (start first second : Nat) (source : Nat → α) :
    overwrite (overwrite base start first source) (start + first) second (view source first) =
      overwrite base start (first + second) source := by
  funext address
  simp only [overwrite, view]
  split <;> rename_i late
  · rw [if_pos (by omega)]
    congr 1
    omega
  · split <;> rename_i early
    · rw [if_pos (by omega)]
    · rw [if_neg (by omega)]

theorem overwrite_patch (base : Nat → α) (start size skip count : Nat) (source : Nat → α)
    (inside : skip + count ≤ size) :
    overwrite base start size (overwrite (view base start) skip count source) =
      overwrite base (start + skip) count source := by
  funext address
  simp only [overwrite, view]
  split <;> rename_i block
  · split <;> rename_i part
    · rw [if_pos (by omega)]
      congr 1
      omega
    · rw [if_neg (by omega)]
      congr 1
      omega
  · rw [if_neg (by omega)]

theorem overwrite_eq_iff (base : Nat → α) (start count : Nat) (first second : Nat → α) :
    overwrite base start count first = overwrite base start count second ↔
      ∀ index < count, first index = second index := by
  constructor
  · intro same index inside
    have cell := congrFun same (start + index)
    rwa [overwrite_inside base first inside, overwrite_inside base second inside] at cell
  · exact overwrite_congr base start

theorem overwrite_eq_self_iff (base : Nat → α) (start count : Nat) (source : Nat → α) :
    overwrite base start count source = base ↔
      ∀ index < count, source index = base (start + index) := by
  have same := overwrite_eq_iff base start count source (view base start)
  rwa [overwrite_view] at same

def cells (base : Nat → α) (count : Nat) : List α := (List.range count).map base

@[simp]
theorem length_cells (base : Nat → α) (count : Nat) : (cells base count).length = count := by
  simp [cells]

@[simp]
theorem cells_zero (base : Nat → α) : cells base 0 = [] := rfl

theorem getElem_cells (base : Nat → α) (count : Nat) {index : Nat}
    (inside : index < (cells base count).length) : (cells base count)[index] = base index := by
  simp [cells]

theorem cells_congr {first second : Nat → α} {count : Nat}
    (same : ∀ index < count, first index = second index) :
    cells first count = cells second count :=
  map_congr_left fun index listed => same index (List.mem_range.mp listed)

theorem cells_add (base : Nat → α) (first second : Nat) :
    cells base (first + second) = cells base first ++ cells (view base first) second := by
  simp [cells, range_add, view, Function.comp_def]

theorem cells_overwrite_before (base : Nat → α) {count start : Nat} (size : Nat)
    (source : Nat → α) (before : count ≤ start) :
    cells (overwrite base start size source) count = cells base count :=
  cells_congr fun _ _ => overwrite_outside base source (by omega)

theorem cells_overwrite_end (base : Nat → α) (start size : Nat) (source : Nat → α) :
    cells (overwrite base start size source) (start + size) =
      cells base start ++ cells source size := by
  rw [cells_add, cells_overwrite_before base size source (Nat.le_refl start)]
  congr 1
  exact cells_congr fun index inside => overwrite_inside base source inside

theorem cells_view (base : Nat → α) {start size count : Nat} (inside : start + size ≤ count) :
    cells (view base start) size = ((cells base count).drop start).take size := by
  obtain ⟨more, rfl⟩ := Nat.exists_eq_add_of_le inside
  rw [Nat.add_assoc, cells_add, drop_left' (length_cells _ _), cells_add,
    take_left' (length_cells _ _)]

theorem cells_getD (list : List α) (default : α) {count : Nat} (short : count ≤ list.length) :
    cells (fun index => list.getD index default) count = list.take count := by
  apply ext_getElem
  · simp [short]
  · intro index inside _
    have early : index < list.length := by
      rw [length_cells] at inside
      omega
    rw [getElem_cells, getElem_take, getD_eq_getElem list default early]

end Library.Splice
