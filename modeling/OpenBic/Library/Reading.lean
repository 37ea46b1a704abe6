import Mathlib.Data.List.Forall2

/-!
# Reading what is at the front

A taker reads a value from the front of some data and returns the data behind it. `Reads` says
that bytes are read as a value whatever is behind them, so that values in a row are read from their
bytes in a row.
-/

namespace Library.Reading

open List Option

variable {α : Type}

/-- A reader of a value at the front of data. -/
abbrev Taker (α : Type) : Type := List UInt8 → Option (α × List UInt8)

/-- The bytes are read as the value, and what is behind them is left. -/
def Reads (read : Taker α) (bytes : List UInt8) (value : α) : Prop :=
  ∀ behind, read (bytes ++ behind) = some (value, behind)

def front (count : Nat) : Taker (List UInt8) := fun data =>
  if count ≤ data.length then some (data.take count, data.drop count) else none

def many (read : Taker α) : Nat → Taker (List α)
  | 0, data => some ([], data)
  | count + 1, data => do
    let (value, data) ← read data
    let (values, data) ← many read count data
    some (value :: values, data)

theorem reads_front {count : Nat} {bytes : List UInt8} (sized : bytes.length = count) :
    Reads (front count) bytes bytes := by
  intro behind
  have enough : count ≤ (bytes ++ behind).length := by
    rw [length_append]
    omega
  rw [front, if_pos enough, take_left' sized, drop_left' sized]

theorem length_of_front {count : Nat} {data bytes rest : List UInt8}
    (ran : front count data = some (bytes, rest)) : bytes.length = count := by
  unfold front at ran
  split at ran
  · obtain ⟨rfl, -⟩ := Prod.mk.inj (Option.some.inj ran)
    rw [length_take]
    omega
  · cases ran

variable {read : Taker α}

theorem reads_many {chunks : List (List UInt8)} {values : List α}
    (each : List.Forall₂ (Reads read) chunks values) :
    Reads (many read values.length) chunks.flatten values := by
  induction each with
  | nil => exact fun behind => rfl
  | cons first _ ih =>
    intro behind
    rw [flatten_cons, append_assoc]
    apply Option.bind_eq_some_iff.mpr
    refine ⟨_, first _, ?_⟩
    apply Option.bind_eq_some_iff.mpr
    exact ⟨_, ih behind, rfl⟩

theorem many_short {chunks : List (List UInt8)} {values : List α} {count : Nat}
    (each : List.Forall₂ (Reads read) chunks values) (stops : read [] = none)
    (few : values.length < count) : many read count chunks.flatten = none := by
  induction each generalizing count with
  | nil =>
    obtain ⟨fewer, rfl⟩ := Nat.exists_eq_succ_of_ne_zero (Nat.ne_of_gt few)
    rw [flatten_nil, many, stops, bind_eq_bind, bind_none]
  | cons first _ ih =>
    rw [length_cons] at few
    obtain ⟨fewer, rfl⟩ := Nat.exists_eq_succ_of_ne_zero (Nat.ne_zero_of_lt few)
    rw [flatten_cons, many, first, bind_eq_bind, bind_some]
    have later := ih (show _ < fewer by omega)
    simp only [later, bind_eq_bind, bind_none]

theorem exists_of_mapM {γ : Type} {act : γ → Option α} {items : List γ} {values : List α}
    (ran : items.mapM act = some values) :
    ∀ item ∈ items, ∃ value ∈ values, act item = some value := by
  induction items generalizing values with
  | nil => simp
  | cons first rest ih =>
    rw [mapM_cons] at ran
    obtain ⟨value, here, ran⟩ := Option.bind_eq_some_iff.mp ran
    obtain ⟨others, later, same⟩ := Option.bind_eq_some_iff.mp ran
    cases same
    intro item listed
    cases List.mem_cons.mp listed with
    | inl same => exact ⟨value, mem_cons_self, same ▸ here⟩
    | inr there =>
      obtain ⟨other, member, found⟩ := ih later item there
      exact ⟨other, mem_cons_of_mem _ member, found⟩

theorem forall_of_many {holds : α → Prop}
    (each : ∀ data value rest, read data = some (value, rest) → holds value) :
    ∀ {count : Nat} {data rest : List UInt8} {values : List α},
      many read count data = some (values, rest) → ∀ value ∈ values, holds value
  | 0, data, rest, values, ran => by
    cases ran
    simp
  | count + 1, data, rest, values, ran => by
    obtain ⟨⟨value, behind⟩, first, ran⟩ := Option.bind_eq_some_iff.mp ran
    obtain ⟨⟨others, last⟩, later, same⟩ := Option.bind_eq_some_iff.mp ran
    cases same
    intro other listed
    cases List.mem_cons.mp listed with
    | inl here =>
      rw [here]
      exact each data value behind first
    | inr there => exact forall_of_many each later other there

end Library.Reading
