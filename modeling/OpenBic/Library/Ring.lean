import Mathlib.Algebra.BigOperators.Group.Finset.Basic
import Mathlib.Data.List.Basic
import Mathlib.Logic.Function.Basic

/-!
# Rings

A sequence is written into a ring of so many slots, each item to the slot of its place, so that the
ring has the latest items of the sequence. Places that are less than the size of the ring apart have
different slots. What is read from the slots of some places is a part of the sequence. The latest
items are a window, which the next item enters as the oldest one leaves it.
-/

namespace Library.Ring

open List Function

variable {α : Type} {size : Nat} {items : List α} {slots : Nat → α} {item : α}

def put (size : Nat) (slots : Nat → α) (place : Nat) (item : α) : Nat → α :=
  update slots (place % size) item

/-- The latest items stand in their slots. -/
def Recent (size : Nat) (items : List α) (slots : Nat → α) : Prop :=
  ∀ place item, items[place]? = some item → items.length ≤ place + size →
    slots (place % size) = item

theorem mod_ne {first second : Nat} (before : first < second) (near : second < first + size) :
    first % size ≠ second % size := by
  intro same
  have whole := Nat.sub_mod_eq_zero_of_mod_eq same.symm
  rw [Nat.mod_eq_of_lt (by omega)] at whole
  omega

theorem recent_nil (size : Nat) (slots : Nat → α) : Recent size [] slots := by
  intro place item found
  cases found

theorem Recent.put (recent : Recent size items slots) (item : α) :
    Recent size (items ++ [item]) (put size slots items.length item) := by
  intro place other found near
  rw [length_append, length_singleton] at near
  rcases Nat.lt_trichotomy place items.length with before | rfl | behind
  · rw [getElem?_append_left before] at found
    have apart : place % size ≠ items.length % size := mod_ne before (by omega)
    rw [Ring.put, update_of_ne apart]
    exact recent place other found (by omega)
  · rw [getElem?_concat_length] at found
    cases found
    exact update_self _ _ _
  · rw [getElem?_eq_none (by rw [length_append, length_singleton]; omega)] at found
    cases found

theorem Recent.window (recent : Recent size items slots) (start count : Nat)
    (latest : items.length ≤ start + size) (inside : start + count ≤ items.length) :
    (List.range count).map (fun index => slots ((start + index) % size)) =
      (items.drop start).take count := by
  apply ext_getElem
  · rw [length_map, length_range, length_take, length_drop]
    omega
  · intro index first second
    rw [length_map, length_range] at first
    rw [getElem_map, getElem_range, getElem_take, getElem_drop]
    exact recent (start + index) _ (getElem?_eq_getElem (by omega)) (by omega)

theorem Recent.newest (recent : Recent size items slots) (place : Nat) (near : place < size)
    (inside : place < items.length) :
    items.reverse[place]? = some (slots ((items.length - 1 - place) % size)) := by
  have found : items[items.length - 1 - place]? = some (items.get ⟨items.length - 1 - place,
      by omega⟩) := getElem?_eq_getElem (by omega)
  rw [recent (items.length - 1 - place) _ found (by omega), getElem?_reverse inside, found]

def latest (size : Nat) (items : List α) : List α := items.drop (items.length - size)

theorem Recent.latest_concat (recent : Recent size items slots) (positive : 0 < size) (item : α) :
    ∃ rest, latest size (items ++ [item]) = rest ++ [item] ∧
      (items.length < size ∧ latest size items = rest ∨
        latest size items = slots (items.length % size) :: rest) := by
  unfold latest
  rw [length_append, length_singleton]
  by_cases short : items.length < size
  · refine ⟨items, ?_, .inl ⟨short, ?_⟩⟩
    · rw [Nat.sub_eq_zero_of_le short, drop_zero]
    · rw [Nat.sub_eq_zero_of_le short.le, drop_zero]
  · have inside : items.length - size < items.length := by omega
    have oldest := recent _ _ (getElem?_eq_getElem inside) (by omega)
    rw [← Nat.mod_eq_sub_mod (Nat.le_of_not_lt short)] at oldest
    refine ⟨items.drop (items.length - size + 1), ?_, .inr ?_⟩
    · rw [show items.length + 1 - size = items.length - size + 1 by omega]
      exact drop_append_of_le_length (by omega)
    · rw [oldest]
      exact drop_eq_getElem_cons inside

theorem length_latest (size : Nat) (items : List α) : (latest size items).length ≤ size := by
  unfold latest
  rw [length_drop]
  omega

theorem sum_update {β : Type} [AddCommMonoid β] (weight : α → β) (slots : Nat → α) {index : Nat}
    (inside : index < size) (item : α) :
    weight (slots index) +
        ∑ slot ∈ Finset.range size, weight (update slots index item slot) =
      weight item + ∑ slot ∈ Finset.range size, weight (slots slot) := by
  have listed := Finset.mem_range.mpr inside
  rw [← Finset.add_sum_erase _ _ listed, ← Finset.add_sum_erase _ (fun slot => weight (slots slot))
    listed, update_self, add_left_comm]
  congr 2
  refine Finset.sum_congr rfl fun slot other => ?_
  rw [update_of_ne (Finset.ne_of_mem_erase other)]

end Library.Ring
