import Mathlib.Algebra.Order.Ring.Nat
import Mathlib.Data.List.Infix

/-!
# A walk that passes over the member behind each one it removes

A walk along a list removes the members that have a property, but goes on behind the member after
the one removed, so that this one is not looked at. When it removes the last member it starts over.
Members in a row are halved by each walk, and all are removed exactly when those at the end of the
list are one less than a power of two and nowhere twice that power are in a row.
-/

namespace Library.Skim

open List

variable {α : Type}

def skim (hit : α → Bool) : List α → List α × Bool
  | [] => ([], false)
  | item :: rest =>
    if hit item then
      match rest with
      | [] => ([], true)
      | next :: rest => (next :: (skim hit rest).1, (skim hit rest).2)
    else (item :: (skim hit rest).1, (skim hit rest).2)

def skimLoop (hit : α → Bool) : Nat → List α → List α
  | 0, items => items
  | walks + 1, items =>
    if (skim hit items).2 then skimLoop hit walks (skim hit items).1 else (skim hit items).1

def front (marks : List Bool) : Nat := (marks.takeWhile id).length

/-- How many marks stand in a row at the end, when so many stand before them. -/
def endRun (before : Nat) (marks : List Bool) : Nat :=
  marks.foldl (fun count mark => if mark then count + 1 else 0) before

/-- So many marks stand in a row. -/
def InRow (count : Nat) (marks : List Bool) : Prop := List.replicate count true <:+: marks

instance (count : Nat) (marks : List Bool) : Decidable (InRow count marks) :=
  inferInstanceAs (Decidable (_ <:+: _))

/-- The marks at the end are one less than a power of two, and nowhere are twice that power in a
row. -/
def Cleared (marks : List Bool) : Prop :=
  ∃ power, endRun 0 marks + 1 = 2 ^ power ∧ ¬ InRow (2 ^ (power + 1)) marks

/-! ## Rows -/

@[simp]
theorem front_true (marks : List Bool) : front (true :: marks) = front marks + 1 := rfl

@[simp]
theorem front_false (marks : List Bool) : front (false :: marks) = 0 := rfl

theorem replicate_prefix {count : Nat} {marks : List Bool} :
    List.replicate count true <+: marks ↔ count ≤ front marks := by
  induction marks generalizing count with
  | nil => cases count <;> simp [front]
  | cons mark marks ih =>
    cases count with
    | zero => simp
    | succ count =>
      rw [replicate_succ, cons_prefix_cons, ih]
      cases mark <;> simp

theorem inRow_cons {count : Nat} {mark : Bool} {marks : List Bool} :
    InRow count (mark :: marks) ↔ count ≤ front (mark :: marks) ∨ InRow count marks := by
  unfold InRow
  rw [infix_cons_iff, replicate_prefix]

theorem not_inRow_nil {count : Nat} (some : 0 < count) : ¬ InRow count [] := by
  intro row
  have none := List.infix_nil.mp row
  rw [replicate_eq_nil_iff] at none
  omega

theorem inRow_cons_of_lt {count : Nat} {mark : Bool} {marks : List Bool}
    (short : front (mark :: marks) < count) :
    InRow count (mark :: marks) ↔ InRow count marks := by
  rw [inRow_cons]
  constructor
  · rintro (long | row)
    · omega
    · exact row
  · exact .inr

theorem InRow.mono {count few : Nat} {marks : List Bool} (row : InRow count marks)
    (fewer : few ≤ count) : InRow few marks := by
  have part : List.replicate few true <:+: List.replicate count true :=
    ⟨[], List.replicate (count - few) true, by
      rw [nil_append, replicate_append_replicate]
      congr 1
      omega⟩
  exact part.trans row

theorem replicate_suffix (before : Nat) (marks : List Bool) :
    List.replicate (endRun before marks) true <:+ List.replicate before true ++ marks := by
  induction marks generalizing before with
  | nil => exact (append_nil _).symm ▸ suffix_rfl
  | cons mark marks ih =>
    cases mark with
    | true =>
      have moved : List.replicate before true ++ true :: marks =
          List.replicate (before + 1) true ++ marks := by
        rw [replicate_succ', append_assoc, singleton_append]
      rw [moved]
      exact ih (before + 1)
    | false =>
      have later : List.replicate (endRun 0 marks) true <:+ marks := ih 0
      exact later.trans ((suffix_cons false marks).trans (suffix_append _ _))

theorem inRow_endRun (marks : List Bool) : InRow (endRun 0 marks) marks :=
  (replicate_suffix 0 marks).isInfix

/-! ## One walk -/

variable {hit : α → Bool} {items : List α}

theorem skim_last {item : α} (marked : hit item = true) : skim hit [item] = ([], true) :=
  if_pos marked

theorem skim_pair {item : α} (marked : hit item = true) (next : α) (rest : List α) :
    skim hit (item :: next :: rest) = (next :: (skim hit rest).1, (skim hit rest).2) :=
  if_pos marked

theorem skim_kept {item : α} (unmarked : hit item = false) (rest : List α) :
    skim hit (item :: rest) = (item :: (skim hit rest).1, (skim hit rest).2) := by
  have left : ¬ hit item = true := Bool.eq_false_iff.mp unmarked
  cases rest with
  | nil => exact if_neg left
  | cons next rest => exact if_neg left

theorem skim_rule {motive : List α → Prop} (hit : α → Bool) (nil : motive [])
    (last : ∀ item, hit item = true → motive [item])
    (pair : ∀ item next rest, hit item = true → motive rest → motive (item :: next :: rest))
    (kept : ∀ item rest, hit item = false → motive rest → motive (item :: rest)) :
    ∀ items, motive items
  | [] => nil
  | [item] =>
    match marked : hit item with
    | true => last item marked
    | false => kept item [] marked nil
  | item :: next :: rest =>
    match marked : hit item with
    | true => pair item next rest marked (skim_rule hit nil last pair kept rest)
    | false => kept item (next :: rest) marked (skim_rule hit nil last pair kept (next :: rest))

theorem filter_skim : (skim hit items).1.filter (fun item => !hit item) =
    items.filter fun item => !hit item := by
  induction items using skim_rule hit with
  | nil => rfl
  | last item marked => simp [skim_last, marked]
  | pair item next rest marked ih =>
    have removed : (item :: next :: rest).filter (fun item => !hit item) =
        (next :: rest).filter fun item => !hit item :=
      filter_cons_of_neg (by simp [marked])
    rw [skim_pair marked, removed, filter_cons, ih, filter_cons]
  | kept item rest unmarked ih =>
    rw [skim_kept unmarked, filter_cons, ih, filter_cons]

theorem front_skim : front ((skim hit items).1.map hit) = front (items.map hit) / 2 := by
  induction items using skim_rule hit with
  | nil => simp [skim, front]
  | last item marked => simp [skim_last, marked, front]
  | pair item next rest marked ih =>
    rw [skim_pair marked, map_cons, map_cons, map_cons, marked, front_true]
    cases hit next with
    | true =>
      rw [front_true, front_true, ih]
      omega
    | false => simp only [front_false]
  | kept item rest unmarked ih =>
    rw [skim_kept unmarked, map_cons, map_cons, unmarked, front_false, front_false]

theorem inRow_skim {count : Nat} (some : 0 < count) :
    InRow count ((skim hit items).1.map hit) ↔ InRow (2 * count) (items.map hit) := by
  induction items using skim_rule hit with
  | nil =>
    exact iff_of_false (not_inRow_nil some) (not_inRow_nil (by omega))
  | last item marked =>
    rw [skim_last marked, map_cons, marked, inRow_cons_of_lt (by simp [front]; omega)]
    exact iff_of_false (not_inRow_nil some) (not_inRow_nil (by omega))
  | pair item next rest marked ih =>
    have halved : front ((skim hit rest).1.map hit) = front (rest.map hit) / 2 := front_skim
    rw [skim_pair marked, map_cons, map_cons, map_cons, marked]
    cases hit next with
    | true =>
      have here : count ≤ front (rest.map hit) / 2 + 1 ↔
          2 * count ≤ front (rest.map hit) + 1 + 1 := by omega
      rw [inRow_cons, inRow_cons, inRow_cons, ih, front_true, front_true, front_true, halved, here]
      constructor
      · rintro (long | further)
        · exact .inl long
        · exact .inr (.inr further)
      · rintro (long | shorter | further)
        · exact .inl long
        · exact .inl (by omega)
        · exact .inr further
    | false =>
      rw [inRow_cons_of_lt (by simpa using some), ih,
        inRow_cons_of_lt (by simp only [front_true, front_false]; omega),
        inRow_cons_of_lt (by simp only [front_false]; omega)]
  | kept item rest unmarked ih =>
    rw [skim_kept unmarked, map_cons, map_cons, unmarked,
      inRow_cons_of_lt (by simpa using some), ih,
      inRow_cons_of_lt (by simp only [front_false]; omega)]

theorem endRun_skim (hit : α → Bool) (items : List α) (half : Nat) :
    endRun half ((skim hit items).1.map hit) = endRun (2 * half) (items.map hit) / 2 ∧
      ((skim hit items).2 = true ↔ endRun (2 * half) (items.map hit) % 2 = 1) := by
  induction items using skim_rule hit generalizing half with
  | nil =>
    refine ⟨?_, ?_⟩
    · show half = 2 * half / 2
      omega
    · show false = true ↔ 2 * half % 2 = 1
      simp
  | last item marked =>
    rw [skim_last marked, map_cons, marked]
    refine ⟨?_, ?_⟩
    · show half = (2 * half + 1) / 2
      omega
    · show true = true ↔ (2 * half + 1) % 2 = 1
      simp
  | pair item next rest marked ih =>
    rw [skim_pair marked, map_cons, map_cons, map_cons, marked]
    cases hit next with
    | true => exact ih (half + 1)
    | false => exact ih 0
  | kept item rest unmarked ih =>
    rw [skim_kept unmarked, map_cons, map_cons, unmarked]
    exact ih 0

theorem length_skim (hit : α → Bool) (items : List α) : (skim hit items).1.length ≤ items.length ∧
    ((skim hit items).2 = true → (skim hit items).1.length < items.length) := by
  induction items using skim_rule hit with
  | nil => exact ⟨le_rfl, nofun⟩
  | last item marked =>
    rw [skim_last marked]
    exact ⟨Nat.zero_le _, fun _ => Nat.zero_lt_one⟩
  | pair item next rest marked ih =>
    rw [skim_pair marked]
    simp only [length_cons]
    omega
  | kept item rest unmarked ih =>
    rw [skim_kept unmarked]
    obtain ⟨shorter, again⟩ := ih
    refine ⟨Nat.succ_le_succ shorter, fun last => Nat.succ_lt_succ (again last)⟩

/-! ## The walks -/

theorem filter_skimLoop (walks : Nat) : (skimLoop hit walks items).filter (fun item => !hit item) =
    items.filter fun item => !hit item := by
  induction walks generalizing items with
  | zero => rfl
  | succ walks ih =>
    unfold skimLoop
    split
    · rw [ih, filter_skim]
    · exact filter_skim

theorem inRow_one {marks : List Bool} : InRow 1 marks ↔ true ∈ marks := by
  exact singleton_infix_iff _ _

/-- The walks remove all of the members, exactly when the rows are such. -/
theorem cleared_iff {walks : Nat} (enough : items.length < walks) :
    (∀ item ∈ skimLoop hit walks items, hit item = false) ↔ Cleared (items.map hit) := by
  induction walks generalizing items with
  | zero => exact absurd enough (Nat.not_lt_zero _)
  | succ walks ih =>
    obtain ⟨halved, again⟩ := endRun_skim hit items 0
    obtain ⟨-, shorter⟩ := length_skim hit items
    rw [Nat.mul_zero] at halved again
    unfold skimLoop
    split
    · rename_i last
      have odd := again.mp last
      rw [ih (by have := shorter last; omega)]
      constructor
      · rintro ⟨power, ending, scattered⟩
        refine ⟨power + 1, ?_, ?_⟩
        · omega
        · rw [inRow_skim (Nat.two_pow_pos _)] at scattered
          rwa [Nat.pow_succ, Nat.mul_comm]
      · rintro ⟨power, ending, scattered⟩
        cases power with
        | zero => omega
        | succ power =>
          refine ⟨power, by omega, ?_⟩
          rw [inRow_skim (Nat.two_pow_pos _)]
          rwa [Nat.pow_succ, Nat.mul_comm] at scattered
    · rename_i last
      have even : ¬ endRun 0 (items.map hit) % 2 = 1 := fun odd => last (again.mpr odd)
      have left : (∀ item ∈ (skim hit items).1, hit item = false) ↔
          ¬ InRow 2 (items.map hit) := by
        rw [← inRow_skim Nat.zero_lt_one, inRow_one, List.mem_map]
        constructor
        · rintro clear ⟨item, listed, marked⟩
          rw [clear item listed] at marked
          cases marked
        · intro none item listed
          exact Bool.eq_false_iff.mpr fun marked => none ⟨item, listed, marked⟩
      rw [left]
      constructor
      · intro scattered
        have short : endRun 0 (items.map hit) < 2 := by
          by_contra long
          exact scattered ((inRow_endRun _).mono (by omega))
        exact ⟨0, by omega, scattered⟩
      · rintro ⟨power, ending, scattered⟩
        cases power with
        | zero => exact scattered
        | succ power =>
          omega

theorem skimLoop_eq_iff (hit : α → Bool) {walks : Nat} (enough : items.length < walks) :
    skimLoop hit walks items = items.filter (fun item => !hit item) ↔
      Cleared (items.map hit) := by
  rw [← cleared_iff enough, ← filter_skimLoop walks]
  constructor
  · intro same item listed
    rw [same] at listed
    simpa using (List.mem_filter.mp listed).2
  · intro clear
    exact (List.filter_eq_self.mpr fun item listed => by rw [clear item listed]; rfl).symm

end Library.Skim
