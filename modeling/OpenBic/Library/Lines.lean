import Mathlib.Data.List.TakeWhile

/-!
# Texts up to a mark

The part of a list in front of the first member that is a mark, and the part behind it.
-/

namespace Library.Lines

open List

variable {α : Type} [DecidableEq α] {mark : α} {text line behind : List α}

theorem split_at (listed : mark ∈ text) :
    text.takeWhile (· ≠ mark) ++ mark :: (text.dropWhile (· ≠ mark)).drop 1 = text := by
  have filled : text.dropWhile (· ≠ mark) ≠ [] := by
    intro none
    exact absurd (List.dropWhile_eq_nil_iff.mp none _ listed) (by simp)
  have head := head_dropWhile_not (· ≠ mark) filled
  have first : (text.dropWhile (· ≠ mark)).head filled = mark := by
    simpa using head
  have whole := takeWhile_append_dropWhile (p := (· ≠ mark)) (l := text)
  rw [← cons_head_tail filled, first] at whole
  rw [List.drop_one]
  exact whole

theorem not_mem_front (mark : α) (text : List α) : mark ∉ text.takeWhile (· ≠ mark) := by
  intro inside
  have other := mem_takeWhile_imp inside
  simp at other

theorem front_append (clean : mark ∉ line) :
    (line ++ mark :: behind).takeWhile (· ≠ mark) = line := by
  have passes : ∀ item ∈ line, decide (item ≠ mark) = true := by
    intro item listed
    have other : item ≠ mark := fun same => clean (same ▸ listed)
    simp [other]
  rw [takeWhile_append_of_pos passes, takeWhile_cons_of_neg (by simp), append_nil]

theorem behind_append (clean : mark ∉ line) :
    ((line ++ mark :: behind).dropWhile (· ≠ mark)).drop 1 = behind := by
  have passes : ∀ item ∈ line, decide (item ≠ mark) = true := by
    intro item listed
    have other : item ≠ mark := fun same => clean (same ▸ listed)
    simp [other]
  rw [dropWhile_append_of_pos passes, dropWhile_cons_of_neg (by simp)]
  rfl

theorem take_line {tag : List α} (clean : mark ∉ tag) :
    (line ++ mark :: behind).take tag.length = tag ↔ line.take tag.length = tag := by
  rcases Nat.lt_or_ge line.length tag.length with short | long
  · constructor
    · intro tagged
      have listed : mark ∈ (line ++ mark :: behind).take tag.length := by
        obtain ⟨more, same⟩ := Nat.exists_eq_add_of_lt short
        rw [same, Nat.add_assoc, take_length_add_append, take_succ_cons]
        exact mem_append_right _ mem_cons_self
      rw [tagged] at listed
      exact absurd listed clean
    · intro tagged
      have total := congrArg List.length tagged
      rw [length_take] at total
      omega
  · rw [take_append_of_le_length long]

theorem length_split (listed : mark ∈ text) :
    (text.takeWhile (· ≠ mark)).length + 1 + ((text.dropWhile (· ≠ mark)).drop 1).length =
      text.length := by
  have whole := congrArg List.length (split_at listed)
  rw [length_append, length_cons] at whole
  omega

theorem mem_of_mem_behind {item : α}
    (listed : item ∈ (text.dropWhile (· ≠ mark)).drop 1) : item ∈ text :=
  (dropWhile_subset _) (mem_of_mem_drop listed)

end Library.Lines
