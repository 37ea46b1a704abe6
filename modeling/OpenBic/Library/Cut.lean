import Mathlib.Data.List.Basic

/-!
# A list cut into rows

A row takes members of a list one after another and keeps a state about those that it has. When it
is full for the next member, this begins a new row.
-/

namespace Library.Cut

open List

variable {σ α : Type} (full : σ → α → Bool) (add : σ → α → σ) (fresh : σ)

def taken : σ → List α → Nat
  | _, [] => 0
  | state, item :: rest => if full state item then 0 else taken (add state item) rest + 1

def push (item : α) : List (List α) → List (List α)
  | [] => [[item]]
  | row :: rows => (item :: row) :: rows

def cut : σ → List α → List (List α)
  | _, [] => [[]]
  | state, item :: rest =>
    if full state item then [] :: push item (cut (add fresh item) rest)
    else push item (cut (add state item) rest)

variable {full add fresh}

theorem taken_cons (state : σ) (item : α) (rest : List α) :
    taken full add state (item :: rest) =
      if full state item then 0 else taken full add (add state item) rest + 1 := rfl

theorem cut_cons (state : σ) (item : α) (rest : List α) :
    cut full add fresh state (item :: rest) =
      if full state item then [] :: push item (cut full add fresh (add fresh item) rest)
      else push item (cut full add fresh (add state item) rest) := rfl

theorem flatten_push (item : α) (rows : List (List α)) :
    (push item rows).flatten = item :: rows.flatten := by
  cases rows <;> rfl

theorem flatten_cut (state : σ) (items : List α) :
    (cut full add fresh state items).flatten = items := by
  induction items generalizing state with
  | nil => rfl
  | cons item rest ih =>
    rw [cut_cons]
    split
    · rw [flatten_cons, nil_append, flatten_push, ih]
    · rw [flatten_push, ih]

theorem taken_le (state : σ) (items : List α) : taken full add state items ≤ items.length := by
  induction items generalizing state with
  | nil => exact Nat.le_refl 0
  | cons item rest ih =>
    have later := ih (add state item)
    rw [taken_cons]
    rw [length_cons]
    split
    · exact Nat.zero_le _
    · omega

theorem cut_eq (opens : ∀ item, full fresh item = false) (state : σ) (items : List α) :
    cut full add fresh state items = items.take (taken full add state items) ::
      if items.drop (taken full add state items) = [] then []
      else cut full add fresh fresh (items.drop (taken full add state items)) := by
  induction items generalizing state with
  | nil => rfl
  | cons item rest ih =>
    rw [taken_cons]
    cases stuffed : full state item with
    | true =>
      have first : cut full add fresh fresh (item :: rest) =
          push item (cut full add fresh (add fresh item) rest) := by
        rw [cut_cons, opens item]
        rfl
      rw [cut_cons, stuffed]
      simp [first]
    | false =>
      have later := ih (add state item)
      rw [cut_cons, stuffed]
      rw [later]
      rfl

theorem taken_pos (opens : ∀ item, full fresh item = false) {items : List α} (some : items ≠ []) :
    0 < taken full add fresh items := by
  cases items with
  | nil => exact absurd rfl some
  | cons item rest =>
    rw [taken_cons, opens item]
    exact Nat.succ_pos _

end Library.Cut
