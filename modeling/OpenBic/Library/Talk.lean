import Mathlib.Data.Option.Basic

/-!
# Programs that can fail

A program talks to something that has a state. It ends with a value or fails, and what it has done
to the state stays in either case. There are two rules for a sequence of programs: one for how it
can end, and one for what it leaves of the state however it ends.
-/

namespace Library.Talk

variable {σ α β : Type}

/-- A program that can fail and that leaves a state. -/
abbrev Program (σ α : Type) := OptionT (StateM σ) α

/-- The value, if the program ends with one, and the state that it leaves. -/
def Program.result (program : Program σ α) (state : σ) : Option α × σ := program.run.run state

def exchange (answer : σ → Option α × σ) : Program σ α := OptionT.mk answer

def Program.attempt (program : Program σ α) : Program σ (Option α) :=
  exchange fun state => (some (program.result state).1, (program.result state).2)

def look : Program σ σ := exchange fun state => (some state, state)

def change (update : σ → σ) : Program σ Unit := exchange fun state => (some (), update state)

section Results

variable {program : Program σ α} {next : α → Program σ β} {state : σ}

@[simp] theorem result_exchange (answer : σ → Option α × σ) :
    (exchange answer).result state = answer state := rfl

@[simp] theorem result_pure (value : α) :
    (pure value : Program σ α).result state = (some value, state) := rfl

@[simp] theorem result_failure : (failure : Program σ α).result state = (none, state) := rfl

theorem result_bind : (program >>= next).result state =
    match (program.result state).1 with
    | some value => (next value).result (program.result state).2
    | none => (none, (program.result state).2) := by
  unfold Program.result
  rw [OptionT.run_bind, Option.elimM, StateT.run_bind]
  rcases StateT.run (OptionT.run program) state with ⟨ended, after⟩
  cases ended with
  | none => rfl
  | some value => rfl

theorem result_bind_some {value : α} {after : σ}
    (first : program.result state = (some value, after)) :
    (program >>= next).result state = (next value).result after := by
  rw [result_bind, first]

theorem result_bind_none {after : σ} (first : program.result state = (none, after)) :
    (program >>= next).result state = (none, after) := by
  rw [result_bind, first]

theorem result_bind_eq_some {value : β} {final : σ} :
    (program >>= next).result state = (some value, final) ↔
      ∃ middle after, program.result state = (some middle, after) ∧
        (next middle).result after = (some value, final) := by
  rcases first : program.result state with ⟨ended, after⟩
  cases ended with
  | none =>
    rw [result_bind_none first]
    simp
  | some middle =>
    rw [result_bind_some first]
    constructor
    · intro onward
      exact ⟨middle, after, rfl, onward⟩
    · rintro ⟨other, later, same, onward⟩
      obtain ⟨sameValue, rfl⟩ := Prod.mk.inj same
      cases sameValue
      exact onward

@[simp] theorem result_bind_look {next : σ → Program σ β} :
    (look >>= next).result state = (next state).result state := result_bind_some rfl

@[simp] theorem result_bind_change {update : σ → σ} {next : Unit → Program σ β} :
    (change update >>= next).result state = (next ()).result (update state) := result_bind_some rfl

@[simp] theorem result_bind_attempt {next : Option α → Program σ β} :
    (program.attempt >>= next).result state =
      (next (program.result state).1).result (program.result state).2 := result_bind_some rfl

theorem state_bind_pure (make : α → β) :
    ((program >>= fun value => pure (make value)).result state).2 = (program.result state).2 := by
  rcases first : program.result state with ⟨ended, after⟩
  cases ended with
  | none => rw [result_bind_none first]
  | some value => rw [result_bind_some first, result_pure]

theorem result_orElse (other : Program σ α) : (program <|> other).result state =
    match program.result state with
    | (some value, after) => (some value, after)
    | (none, after) => other.result after := by
  unfold Program.result
  rw [OptionT.run_orElse, Option.elimM, StateT.run_bind]
  rcases StateT.run (OptionT.run program) state with ⟨ended, after⟩
  cases ended with
  | none => rfl
  | some value => rfl

end Results

/-! ## What a program leaves of the state -/

/-- What can be between a state and a later one. -/
structure Frame (relation : σ → σ → Prop) : Prop where
  refl : ∀ state, relation state state
  trans : ∀ {first second third}, relation first second → relation second third →
    relation first third

/-- However the program ends, the state that it leaves is related to the one before. -/
def Keeps (relation : σ → σ → Prop) (program : Program σ α) : Prop :=
  ∀ state, relation state (program.result state).2

variable {relation : σ → σ → Prop} {program : Program σ α}

theorem Frame.pure (frame : Frame relation) (value : α) :
    Keeps relation (Pure.pure value : Program σ α) := fun state => frame.refl state

theorem Frame.failure (frame : Frame relation) :
    Keeps relation (Alternative.failure : Program σ α) := fun state => frame.refl state

theorem Frame.bind (frame : Frame relation) {next : α → Program σ β}
    (first : Keeps relation program) (rest : ∀ value, Keeps relation (next value)) :
    Keeps relation (program >>= next) := by
  intro state
  have before := first state
  rcases met : program.result state with ⟨ended, after⟩
  rw [met] at before
  cases ended with
  | none =>
    rw [result_bind_none met]
    exact before
  | some value =>
    rw [result_bind_some met]
    exact frame.trans before (rest value after)

theorem Frame.look (frame : Frame relation) {next : σ → Program σ β}
    (rest : ∀ state, Keeps relation (next state)) : Keeps relation (Talk.look >>= next) :=
  frame.bind (fun state => frame.refl state) rest

theorem Frame.orElse (frame : Frame relation) {other : Program σ α}
    (first : Keeps relation program) (second : Keeps relation other) :
    Keeps relation (program <|> other) := by
  intro state
  have before := first state
  rw [result_orElse]
  rcases met : program.result state with ⟨ended, after⟩
  rw [met] at before
  cases ended with
  | none => exact frame.trans before (second after)
  | some value => exact before

end Library.Talk
