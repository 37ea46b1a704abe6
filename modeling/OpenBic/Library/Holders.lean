import Mathlib.Data.List.Nodup
import Mathlib.Logic.Function.Basic

/-!
# Marks that follow their holders

A table marks keys as in use. Tokens hold keys; `Marks` says that a key is marked exactly
when some token holds it, and that no two tokens hold one key. `Ledger` says that every
token allocated either holds or was released, and was released at most once. The lemmas
give what taking and giving back a key do to both.
-/

namespace Library.Holders

open List

open Function

variable {κ τ : Type}

/-- A key is marked exactly when a token holds it, and no two tokens hold one key. -/
structure Marks (table : κ → Bool) (holds : τ → Prop) (key : τ → κ) : Prop where
  marked : ∀ index, table index = true ↔ ∃ token, holds token ∧ key token = index
  unique : ∀ first second, holds first → holds second → key first = key second → first = second

namespace Marks

variable {table : κ → Bool} {holds later : τ → Prop} {key other : τ → κ} {token : τ}

theorem of_holds (marks : Marks table holds key) (held : holds token) :
    table (key token) = true :=
  (marks.marked _).mpr ⟨token, held, rfl⟩

theorem congr (marks : Marks table holds key) (same : ∀ token, later token ↔ holds token)
    (keys : ∀ token, holds token → other token = key token) : Marks table later other := by
  refine ⟨fun index => ?_, ?_⟩
  · rw [marks.marked]
    constructor
    · rintro ⟨token, held, rfl⟩
      exact ⟨token, (same token).mpr held, keys token held⟩
    · rintro ⟨token, held, rfl⟩
      have before := (same token).mp held
      exact ⟨token, before, (keys token before).symm⟩
  · intro first second heldFirst heldSecond equal
    have beforeFirst := (same first).mp heldFirst
    have beforeSecond := (same second).mp heldSecond
    rw [keys first beforeFirst, keys second beforeSecond] at equal
    exact marks.unique first second beforeFirst beforeSecond equal

/-- A token that takes an unmarked key marks it. -/
theorem take [DecidableEq κ] (marks : Marks table holds key) {index : κ}
    (free : table index = false)
    (same : ∀ other, later other ↔ holds other ∨ other = token)
    (keys : ∀ token, holds token → other token = key token) (own : other token = index) :
    Marks (update table index true) later other := by
  have apart : ∀ held, holds held → key held ≠ index := by
    intro held holding equal
    have marked := marks.of_holds holding
    rw [equal, free] at marked
    cases marked
  refine ⟨fun asked => ?_, ?_⟩
  · by_cases taken : asked = index
    · subst taken
      rw [update_self]
      exact ⟨fun _ => ⟨token, (same token).mpr (.inr rfl), own⟩, fun _ => rfl⟩
    · rw [update_of_ne taken, marks.marked]
      constructor
      · rintro ⟨held, holding, rfl⟩
        exact ⟨held, (same held).mpr (.inl holding), keys held holding⟩
      · rintro ⟨held, holding, rfl⟩
        rcases (same held).mp holding with before | rfl
        · exact ⟨held, before, (keys held before).symm⟩
        · exact absurd own taken
  · intro first second heldFirst heldSecond equal
    rcases (same first).mp heldFirst with beforeFirst | rfl
    · rcases (same second).mp heldSecond with beforeSecond | rfl
      · rw [keys first beforeFirst, keys second beforeSecond] at equal
        exact marks.unique first second beforeFirst beforeSecond equal
      · rw [keys first beforeFirst, own] at equal
        exact absurd equal (apart first beforeFirst)
    · rcases (same second).mp heldSecond with beforeSecond | rfl
      · rw [keys second beforeSecond, own] at equal
        exact absurd equal.symm (apart second beforeSecond)
      · rfl

theorem give [DecidableEq κ] (marks : Marks table holds key) (held : holds token)
    (same : ∀ other, later other ↔ holds other ∧ other ≠ token)
    (keys : ∀ token, later token → other token = key token) :
    Marks (update table (key token) false) later other := by
  refine ⟨fun asked => ?_, ?_⟩
  · by_cases given : asked = key token
    · subst given
      rw [update_self]
      constructor
      · intro marked
        cases marked
      · rintro ⟨left, holding, equal⟩
        obtain ⟨before, different⟩ := (same left).mp holding
        rw [keys left holding] at equal
        exact absurd (marks.unique left token before held equal) different
    · rw [update_of_ne given, marks.marked]
      constructor
      · rintro ⟨left, holding, rfl⟩
        have staying : later left :=
          (same left).mpr ⟨holding, fun equal => given (by rw [equal])⟩
        exact ⟨left, staying, keys left staying⟩
      · rintro ⟨left, holding, rfl⟩
        exact ⟨left, ((same left).mp holding).1, (keys left holding).symm⟩
  · intro first second heldFirst heldSecond equal
    rw [keys first heldFirst, keys second heldSecond] at equal
    exact marks.unique first second ((same first).mp heldFirst).1 ((same second).mp heldSecond).1
      equal

end Marks

/-- Every token allocated either holds or was released, and was released at most once. -/
structure Ledger (holds : τ → Prop) (allocated released : List τ) : Prop where
  allocated_nodup : allocated.Nodup
  released_nodup : released.Nodup
  split : ∀ token, token ∈ allocated ↔ holds token ∨ token ∈ released
  apart : ∀ token ∈ released, ¬ holds token

namespace Ledger

variable {holds later : τ → Prop} {allocated released : List τ} {token : τ}

theorem congr (ledger : Ledger holds allocated released)
    (same : ∀ token, later token ↔ holds token) : Ledger later allocated released where
  allocated_nodup := ledger.allocated_nodup
  released_nodup := ledger.released_nodup
  split := fun token => by rw [ledger.split, same]
  apart := fun token member => by rw [same]; exact ledger.apart token member

theorem take (ledger : Ledger holds allocated released) (fresh : token ∉ allocated)
    (same : ∀ other, later other ↔ holds other ∨ other = token) :
    Ledger later (allocated ++ [token]) released where
  allocated_nodup := by
    rw [nodup_append_comm]
    exact List.nodup_cons.mpr ⟨fresh, ledger.allocated_nodup⟩
  released_nodup := ledger.released_nodup
  split := fun other => by
    rw [mem_append, mem_singleton, ledger.split, same, or_right_comm]
  apart := fun other member holding => by
    rcases (same other).mp holding with before | rfl
    · exact ledger.apart other member before
    · exact fresh ((ledger.split other).mpr (.inr member))

theorem give (ledger : Ledger holds allocated released) (held : holds token)
    (same : ∀ other, later other ↔ holds other ∧ other ≠ token) :
    Ledger later allocated (released ++ [token]) where
  allocated_nodup := ledger.allocated_nodup
  released_nodup := by
    rw [nodup_append_comm]
    exact List.nodup_cons.mpr ⟨fun member => ledger.apart token member held,
      ledger.released_nodup⟩
  split := fun other => by
    rw [mem_append, mem_singleton, ledger.split, same]
    by_cases own : other = token
    · subst own
      simp [held]
    · simp [own]
  apart := fun other member holding => by
    obtain ⟨before, different⟩ := (same other).mp holding
    rcases List.mem_append.mp member with earlier | last
    · exact ledger.apart other earlier before
    · exact different (List.mem_singleton.mp last)

theorem pass (ledger : Ledger holds allocated released) (fresh : token ∉ allocated) :
    Ledger holds (allocated ++ [token]) (released ++ [token]) :=
  have idle : ¬ holds token := fun holding => fresh ((ledger.split token).mpr (.inl holding))
  have taken : Ledger (fun other => holds other ∨ other = token) (allocated ++ [token]) released :=
    ledger.take fresh fun _ => Iff.rfl
  taken.give (.inr rfl) fun other => by
    by_cases own : other = token
    · subst own
      simp [idle]
    · simp [own]

end Ledger

/-- A table marks exactly the keys on a list, and no key is listed twice. -/
structure Roster (table : κ → Bool) (keys : List κ) : Prop where
  marked : ∀ index, table index = true ↔ index ∈ keys
  nodup : keys.Nodup

namespace Roster

variable {table : κ → Bool} {keys before after : List κ} {index : κ} [DecidableEq κ]

theorem add (roster : Roster table keys) (free : table index = false) :
    Roster (update table index true) (keys ++ [index]) := by
  have fresh : index ∉ keys := by
    intro member
    rw [← roster.marked, free] at member
    cases member
  refine ⟨fun asked => ?_, ?_⟩
  · by_cases own : asked = index
    · subst own
      simp
    · rw [update_of_ne own, roster.marked]
      simp [own]
  · rw [nodup_append_comm]
    exact List.nodup_cons.mpr ⟨fresh, roster.nodup⟩

theorem drop (roster : Roster table (before ++ index :: after)) :
    Roster (update table index false) (before ++ after) := by
  have apart := List.nodup_middle.mp roster.nodup
  obtain ⟨absent, nodup⟩ := List.nodup_cons.mp apart
  refine ⟨fun asked => ?_, nodup⟩
  by_cases own : asked = index
  · subst own
    simp only [update_self, Bool.false_eq_true, false_iff]
    exact absent
  · rw [update_of_ne own, roster.marked]
    simp [own]

theorem rotate (roster : Roster table (index :: after)) :
    Roster (update table index true) (after ++ [index]) := by
  have whole : Roster table ([] ++ index :: after) := roster
  have dropped : Roster (update table index false) ([] ++ after) := whole.drop
  have added := dropped.add (update_self index false table)
  rw [update_idem] at added
  exact added

end Roster

end Library.Holders
