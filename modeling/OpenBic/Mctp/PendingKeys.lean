import OpenBic.Mctp.PendingRuns

/-!
# Who has a key

A request has its key from the moment it gets it until it leaves the list by a response or a
timeout, or its call returns from the error path. A step passes at most one key: one request gets
its key, or one gives its key up, and all others keep theirs. A protocol that marks keys in a
table needs to know no more of the requests than this.
-/

namespace OpenBic.Mctp.Pending

open Function

variable {ρ κ : Type}

/-- A request that has its key: it is about to be listed, it is listed, or its call is about to
give the key up. -/
def Call.Outstanding (call : Call ρ κ) : Prop :=
  call.place = .listed ∨ call.pc = .keyed ∨ call.pc = .releasing

/-- A step in which one request may get its key, and one may give its key up. -/
structure Passes (before after : Nat → Call ρ κ) (gives takes : Option Nat) : Prop where
  holds : ∀ other, (after other).Outstanding ↔
    (before other).Outstanding ∧ gives ≠ some other ∨ takes = some other
  keys : ∀ other, (before other).Outstanding → (after other).key = (before other).key
  had : ∀ call, gives = some call → (before call).Outstanding

section Passes

variable {calls : Nat → Call ρ κ} {call : Nat} {value : Call ρ κ}

theorem Passes.refl : Passes calls calls none none where
  holds := by simp
  keys := fun _ _ => rfl
  had := nofun

theorem Passes.keep (same : value.Outstanding ↔ (calls call).Outstanding)
    (key : (calls call).Outstanding → value.key = (calls call).key) :
    Passes calls (update calls call value) none none where
  holds := by
    intro other
    by_cases own : other = call
    · subst own
      simp [same]
    · simp [update_of_ne own]
  keys := by
    intro other held
    by_cases own : other = call
    · subst own
      rw [update_self]
      exact key held
    · rw [update_of_ne own]
  had := nofun

theorem Passes.give (had : (calls call).Outstanding) (given : ¬ value.Outstanding)
    (key : value.key = (calls call).key) :
    Passes calls (update calls call value) (some call) none where
  holds := by
    intro other
    by_cases own : other = call
    · subst own
      simp [given]
    · simp [update_of_ne own, Ne.symm own]
  keys := by
    intro other _
    by_cases own : other = call
    · subst own
      rw [update_self]
      exact key
    · rw [update_of_ne own]
  had := by
    intro other given
    cases given
    exact had

theorem Passes.take (idle : ¬ (calls call).Outstanding) (taken : value.Outstanding) :
    Passes calls (update calls call value) none (some call) where
  holds := by
    intro other
    by_cases own : other = call
    · subst own
      simp [taken]
    · simp [update_of_ne own, Ne.symm own]
  keys := by
    intro other held
    have different : other ≠ call := by
      rintro rfl
      exact idle held
    rw [update_of_ne different]
  had := nofun

end Passes

def Event.gives [DecidableEq κ] (config : Config) (s : State ρ κ) : Event ρ κ → Option Nat
  | .release call | .expire call _ => some call
  | .response reply _ =>
    if s.stuck ∨ reply.len < config.minLen then none
    else s.listed.find? (s.answers reply.key)
  | _ => none

def Event.takes : Event ρ κ → Option Nat
  | .key call _ => some call
  | _ => none

theorem Call.outstanding_of_pc {value : Call ρ κ} (keyed : value.pc ≠ .keyed)
    (releasing : value.pc ≠ .releasing) : value.Outstanding ↔ value.place = .listed := by
  simp [Call.Outstanding, keyed, releasing]

theorem Passes.unlist {config : Config} {s : State ρ κ} {call : Nat} {value : Call ρ κ}
    (sound : Sound config s) (member : call ∈ s.listed) (pc : value.pc = (s.calls call).pc)
    (place : value.place ≠ .listed) (key : value.key = (s.calls call).key) :
    Passes s.calls (update s.calls call value) (some call) none := by
  obtain ⟨listed, pending⟩ := sound.pending_of_mem member
  have quiet : value.pc ≠ .keyed ∧ value.pc ≠ .releasing := by
    rw [pc]
    rcases ((sound.counted call).of_pending pending).1 with here | here | here <;> simp [here]
  apply Passes.give
  · exact .inl listed
  · rw [Call.outstanding_of_pc quiet.1 quiet.2]
    exact place
  · exact key

theorem Call.Counted.not_listed {value : Call ρ κ} (counted : value.Counted)
    (early : value.pc = .absent ∨ value.pc = .begun ∨ value.pc = .keyed ∨ value.pc = .releasing) :
    value.place ≠ .listed := by
  intro listed
  rcases early with pc | pc | pc | pc
  all_goals simp [Call.Counted, pc, listed] at counted

theorem Passes.begin [Inhabited κ] {config : Config} {s : State ρ κ} (sound : Sound config s)
    (reader : Option Nat) (request : ρ) (found : Bool) :
    Passes s.calls (s.begin config reader request found).calls none none := by
  have absent := sound.fresh s.nextCall le_rfl
  have unlisted := (sound.counted s.nextCall).not_listed (.inl absent)
  have idle : ¬ (s.calls s.nextCall).Outstanding := by
    simp [Call.Outstanding, absent, unlisted]
  apply Passes.keep
  · cases found <;> simp [Call.Outstanding, absent, unlisted]
  · exact fun held => absurd held idle

/-- A guarded step passes keys as its event says. -/
theorem passes_step [DecidableEq κ] [Inhabited κ] {config : Config} {s t : State ρ κ}
    {event : Event ρ κ} (sound : Sound config s) (guarded : Guard config s event)
    (moved : step config s event = some t) :
    Passes s.calls t.calls (event.gives config s) event.takes := by
  cases event with
  | read request rbufLen ready =>
    cases moved
    exact .refl
  | send request found =>
    cases moved
    exact .begin sound none request found
  | attempt reader found =>
    obtain ⟨_, moved⟩ := Option.ite_none_right_eq_some.mp moved
    cases moved
    exact .begin sound _ _ found
  | key call value =>
    obtain ⟨begun, moved⟩ := Option.ite_none_right_eq_some.mp moved
    cases moved
    have unlisted := (sound.counted call).not_listed (.inr (.inl begun))
    apply Passes.take
    · simp [Call.Outstanding, begun, unlisted]
    · simp [Call.Outstanding]
  | append call node =>
    cases node with
    | none =>
      obtain ⟨keyed, moved⟩ := Option.ite_none_right_eq_some.mp moved
      cases moved
      apply Passes.keep
      · simp [Call.Outstanding, keyed]
      · exact fun _ => rfl
    | some node =>
      obtain ⟨⟨keyed, _⟩, moved⟩ := Option.ite_none_right_eq_some.mp moved
      cases moved
      apply Passes.keep
      · simp [Call.Outstanding, keyed]
      · exact fun _ => rfl
  | sent call ok =>
    obtain ⟨appended, moved⟩ := Option.ite_none_right_eq_some.mp moved
    cases ok with
    | true | false =>
      cases moved
      apply Passes.keep
      · simp [Call.Outstanding, appended]
      · exact fun _ => rfl
  | remove call during =>
    obtain ⟨failed, moved⟩ := Option.ite_none_right_eq_some.mp moved
    cases moved
    obtain ⟨place, rfl⟩ := guarded
    rw [sound.remove_eq place]
    apply Passes.keep
    · simp [Call.Outstanding, place]
    · exact fun _ => rfl
  | release call =>
    obtain ⟨releasing, moved⟩ := Option.ite_none_right_eq_some.mp moved
    cases moved
    have unlisted := (sound.counted call).not_listed (.inr (.inr (.inr releasing)))
    apply Passes.give
    · simp [Call.Outstanding, releasing]
    · simp [Call.Outstanding, unlisted]
    · rfl
  | response reply given =>
    simp only [step] at moved
    split at moved
    · rename_i passed
      cases moved
      simp only [Event.gives, if_pos passed]
      exact .refl
    · rename_i looked
      cases moved
      simp only [Event.gives, if_neg looked, State.response]
      split
      · rename_i missing
        rw [missing]
        exact .refl
      · rename_i call found
        rw [found]
        have long : config.minLen ≤ reply.len :=
          Nat.le_of_not_lt fun short => looked (.inr short)
        obtain ⟨rfl, _⟩ := guarded long call found
        exact .unlist sound (List.mem_of_find?_eq_some found) rfl (by simp) rfl
  | callback call =>
    simp only [step] at moved
    split at moved
    · rename_i reply matched
      cases moved
      apply Passes.keep
      · simp [Call.Outstanding, matched]
      · exact fun _ => rfl
    · cases moved
  | expire call given =>
    obtain ⟨member, moved⟩ := Option.ite_none_right_eq_some.mp moved
    cases moved
    obtain rfl := guarded
    exact .unlist sound member rfl (by simp) rfl
  | get reader =>
    simp only [step] at moved
    split at moved
    · cases moved
      exact .refl
    · cases moved

end OpenBic.Mctp.Pending
