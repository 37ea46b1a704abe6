import Mathlib.Algebra.Order.Ring.Nat
import Mathlib.Data.List.Basic

/-!
# Cutting a sequence into pieces

`piece data size index` is the index-th piece of a list cut every `size` elements; the
pieces in order give the list back. `Tiles start pieces stop` says that the pieces, each an
address and a length, follow one another without gap or overlap from `start` to `stop`.
-/

namespace Library.Tiling

variable {α : Type}

/-- The piece at an index of a list cut every `size` elements; the last one may be shorter. -/
def piece (data : List α) (size index : Nat) : List α := (data.drop (index * size)).take size

theorem flatMap_piece (data : List α) (size count : Nat) :
    (List.range count).flatMap (piece data size) = data.take (count * size) := by
  induction count with
  | zero => simp
  | succ count ih =>
    rw [List.range_succ, List.flatMap_append, ih, Nat.add_one_mul, List.take_add]
    simp [piece]

theorem flatMap_piece_all (data : List α) {size count : Nat}
    (enough : data.length ≤ count * size) :
    (List.range count).flatMap (piece data size) = data := by
  rw [flatMap_piece, List.take_of_length_le enough]

/-- The pieces follow one another from the start to the stop. -/
inductive Tiles : Nat → List (Nat × Nat) → Nat → Prop where
  | nil (start : Nat) : Tiles start [] start
  | cons {start length stop : Nat} {rest : List (Nat × Nat)}
      (onward : Tiles (start + length) rest stop) : Tiles start ((start, length) :: rest) stop

namespace Tiles

variable {start stop : Nat} {pieces : List (Nat × Nat)}

theorem le (tiles : Tiles start pieces stop) : start ≤ stop := by
  induction tiles with
  | nil start => exact Nat.le_refl start
  | cons onward ih => exact Nat.le_of_add_right_le ih

theorem snoc (tiles : Tiles start pieces stop) (length : Nat) :
    Tiles start (pieces ++ [(stop, length)]) (stop + length) := by
  induction tiles with
  | nil start => exact .cons (.nil _)
  | cons onward ih => exact .cons ih

theorem mapM {β γ : Type} {data : List α} (write : List α → List β) {span : γ → Nat × Nat}
    {pieces : List γ} {read : γ → Option (List β)} (none : write [] = [])
    (join : ∀ first second, write (first ++ second) = write first ++ write second)
    (each : ∀ piece ∈ pieces,
      read piece = some (write ((data.drop (span piece).1).take (span piece).2)))
    (tiles : Tiles start (pieces.map span) stop) :
    ∃ parts, pieces.mapM read = some parts ∧
      parts.flatten = write ((data.drop start).take (stop - start)) := by
  induction pieces generalizing start with
  | nil =>
    obtain rfl : start = stop := by
      cases tiles
      rfl
    exact ⟨[], rfl, by rw [Nat.sub_self, List.take_zero, none]; rfl⟩
  | cons piece rest ih =>
    have first := each piece List.mem_cons_self
    rw [List.map_cons] at tiles
    generalize span piece = here at first tiles
    cases tiles with
    | @cons start length stop _ onward =>
      have ordered := onward.le
      obtain ⟨parts, others, joined⟩ :=
        ih (fun piece listed => each piece (List.mem_cons_of_mem _ listed)) onward
      refine ⟨write ((data.drop start).take length) :: parts, ?_, ?_⟩
      · rw [List.mapM_cons, first, others]
        rfl
      · have size : stop - start = length + (stop - (start + length)) := by omega
        rw [List.flatten_cons, joined, size, List.take_add, List.drop_drop, join]

theorem countP_eq (tiles : Tiles start pieces stop) (address : Nat) :
    pieces.countP (fun piece => piece.1 ≤ address ∧ address < piece.1 + piece.2) =
      if start ≤ address ∧ address < stop then 1 else 0 := by
  induction tiles with
  | nil start =>
    rw [if_neg (by omega)]
    rfl
  | @cons start length stop rest onward ih =>
    have ordered := onward.le
    rw [List.countP_cons, ih]
    simp only [decide_eq_true_eq]
    by_cases first : start ≤ address ∧ address < start + length
    · rw [if_pos first, if_neg (by omega), if_pos (by omega)]
    · rw [if_neg first, Nat.add_zero]
      congr 1
      apply propext
      omega

end Tiles

end Library.Tiling

/-!
## Totals over parts

What the parts of a list hold in total, by a measure of each part. When one part is replaced, the
total changes by what the old part and the new one hold.
-/

namespace Library.Parts

variable {α : Type} {measure : α → Nat}

def total (measure : α → Nat) (parts : List α) : Nat := (parts.map measure).sum

@[simp]
theorem total_nil : total measure [] = 0 := rfl

@[simp]
theorem total_cons (part : α) (rest : List α) :
    total measure (part :: rest) = measure part + total measure rest := by
  rw [total, List.map_cons, List.sum_cons, total]

@[simp]
theorem total_append (first second : List α) :
    total measure (first ++ second) = total measure first + total measure second := by
  rw [total, List.map_append, List.sum_append, total, total]

theorem total_set {parts : List α} {index : Nat} {old : α} (here : parts[index]? = some old)
    (new : α) :
    total measure (parts.set index new) + measure old = total measure parts + measure new := by
  induction parts generalizing index with
  | nil => cases here
  | cons part rest ih =>
    cases index with
    | zero =>
      cases here
      rw [List.set_cons_zero, total_cons, total_cons]
      omega
    | succ index =>
      have inner := ih here
      rw [List.set_cons_succ, total_cons, total_cons]
      omega

end Library.Parts
