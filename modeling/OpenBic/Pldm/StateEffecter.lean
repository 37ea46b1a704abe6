import Mathlib.Tactic.SplitIfs
import Mathlib.Tactic.ByContra
import Mathlib.Data.List.Basic
import OpenBic.Library.Rounds

/-!
# The table of state effecters

`find_state_effecter_info` of `pldm_monitor.c` on a table that
`pldm_load_state_effecter_table` has loaded. The count has sixteen bits, the index of the loop eight.
-/

namespace OpenBic.Pldm.StateEffecter

open List Library.Rounds

structure PldmStateEffecterInfo where
  entityType : UInt16
  effecterId : UInt16

/-- `pldm_state_effecter_table` and the count that goes with it. -/
structure StateEffecterTable where
  pldmStateEffecterIndex : UInt16
  entries : List PldmStateEffecterInfo
  length_eq : entries.length = pldmStateEffecterIndex.toNat

variable (table : StateEffecterTable) (effecterId : UInt16)

def round (i : UInt8) : Round UInt8 (Option PldmStateEffecterInfo) :=
  if inside : i.toNat < table.entries.length then
    if table.entries[i.toNat].effecterId = effecterId then .ends (some table.entries[i.toNat])
    else .next (i + 1)
  else .ends none

/-- `find_state_effecter_info`, with the rounds that it may take. -/
def findStateEffecterInfo (fuel : Nat) : Option (Option PldmStateEffecterInfo) :=
  loop (round table effecterId) fuel 0

/-- What is returned is the entry with the id, or nothing where there is none. -/
def Found : Option PldmStateEffecterInfo → Prop
  | some info => info ∈ table.entries ∧ info.effecterId = effecterId
  | none => ∀ info ∈ table.entries, info.effecterId ≠ effecterId

/-- What is claimed: the search ends with the entry, or with none. -/
def FindRight : Prop :=
  ∃ result, (∃ fuel, findStateEffecterInfo table effecterId fuel = some result) ∧
    Found table effecterId result

/-- No earlier entry has the id. -/
def NotBefore (index : Nat) : Prop :=
  ∀ earlier (inside : earlier < table.entries.length), earlier < index →
    table.entries[earlier].effecterId ≠ effecterId

variable {table effecterId}

theorem round_next {i next : UInt8} (moved : round table effecterId i = .next next) :
    next = i + 1 ∧ ∃ inside : i.toNat < table.entries.length,
      table.entries[i.toNat].effecterId ≠ effecterId := by
  unfold round at moved
  split_ifs at moved with inside found
  injection moved with same
  exact ⟨same.symm, inside, found⟩

theorem round_ends {i : UInt8} {result : Option PldmStateEffecterInfo}
    (ended : round table effecterId i = .ends result)
    (before : NotBefore table effecterId i.toNat) : Found table effecterId result := by
  unfold round at ended
  split_ifs at ended with inside found
  · injection ended with same
    subst same
    exact ⟨getElem_mem inside, found⟩
  · injection ended with same
    subst same
    intro info there
    obtain ⟨index, within, rfl⟩ := getElem_of_mem there
    exact before index within (by omega)

/-- A search that ends in the first 256 rounds ends with what it has to. -/
theorem findRight_of_stop {stop : Nat} (inside : stop ≤ 255)
    (stops : stop = table.entries.length ∨ ∃ within : stop < table.entries.length,
      table.entries[stop].effecterId = effecterId) : FindRight table effecterId := by
  let holds : UInt8 → Prop := fun i => i.toNat ≤ stop ∧ NotBefore table effecterId i.toNat
  have step : ∀ {i next : UInt8}, holds i → round table effecterId i = .next next →
      holds next ∧ next.toNat = i.toNat + 1 := by
    intro i next before moved
    obtain ⟨rfl, within, other⟩ := round_next moved
    have less : i.toNat < stop := by
      refine Nat.lt_of_le_of_ne before.1 fun same => ?_
      rcases stops with length | ⟨_, found⟩
      · omega
      · exact other (by simpa only [same] using found)
    have onward : (i + 1).toNat = i.toNat + 1 := by
      exact Nat.mod_eq_of_lt (by change i.toNat + 1 < 256; omega)
    refine ⟨⟨by omega, fun earlier there early => ?_⟩, onward⟩
    by_cases same : earlier = i.toNat
    · subst same
      exact other
    · exact before.2 earlier there (by omega)
  have start : holds 0 := ⟨Nat.zero_le _, fun _ _ early => absurd early (Nat.not_lt_zero _)⟩
  have ends : (loop (round table effecterId) (stop + 1) 0).isSome := by
    refine @loop_isSome _ _ _ _ _ holds (fun i => stop - i.toNat)
      (fun before moved => (step before moved).1) (fun before moved => ?_) start (by simp)
    have next := step before moved
    omega
  obtain ⟨result, ran⟩ := Option.isSome_iff_exists.mp ends
  obtain ⟨last, comes, ended⟩ := comes_of_loop ran
  have kept : holds last := Comes.rule (fun before moved => (step before moved).1) start comes
  exact ⟨result, ⟨_, ran⟩, round_ends ended kept.2⟩

theorem findStateEffecterInfo_eq_none (many : 255 < table.entries.length)
    (before : NotBefore table effecterId 256) (fuel : Nat) :
    findStateEffecterInfo table effecterId fuel = none := by
  have all : ∀ i, loop (round table effecterId) fuel i = none := by
    induction fuel with
    | zero => exact loop_zero
    | succ fuel ih =>
      intro i
      have low : i.toNat < 256 := i.toNat_lt
      have moved : round table effecterId i = .next (i + 1) := by
        unfold round
        rw [dif_pos (by omega), if_neg (before _ (by omega) low)]
      rw [loop_next moved]
      exact ih (i + 1)
  exact all 0

/-- The search is right exactly if the table has 255 entries at most or one of the first 256 has
the id. -/
theorem findRight_iff (table : StateEffecterTable) (effecterId : UInt16) :
    FindRight table effecterId ↔ table.pldmStateEffecterIndex.toNat ≤ 255 ∨
      ∃ info ∈ table.entries.take 256, info.effecterId = effecterId := by
  rw [← table.length_eq]
  constructor
  · rintro ⟨result, ⟨fuel, ran⟩, _⟩
    by_contra neither
    rw [not_or, not_exists] at neither
    have before : NotBefore table effecterId 256 := by
      intro earlier inside early found
      exact neither.2 _ ⟨List.mem_take_iff_getElem.mpr ⟨earlier, by omega, rfl⟩, found⟩
    rw [findStateEffecterInfo_eq_none (Nat.not_le.mp neither.1) before] at ran
    cases ran
  · rintro (few | ⟨info, there, found⟩)
    · exact findRight_of_stop few (.inl rfl)
    · obtain ⟨index, inside, rfl⟩ := List.mem_take_iff_getElem.mp there
      exact findRight_of_stop (by omega) (.inr ⟨by omega, found⟩)

def largeTable : StateEffecterTable :=
  ⟨256, List.replicate 256 ⟨0, 0⟩, length_replicate⟩

/-- With 256 entries the index goes round and the search does not end. -/
theorem largeTable_not_findRight : ¬ FindRight largeTable 1 := by
  rw [findRight_iff]
  rintro (few | ⟨info, there, found⟩)
  · exact Nat.not_succ_le_self 255 few
  · have same : info = ⟨0, 0⟩ := eq_of_mem_replicate (mem_of_mem_take there)
    rw [same] at found
    cases found

end OpenBic.Pldm.StateEffecter
