import Mathlib.Algebra.Order.Ring.Nat
import Mathlib.Data.List.Basic

/-!
# Runs of labelled machines

A machine is a partial step function: a state and an event give the next state, or
nothing when the event cannot happen there. A run is a list of events; a guard is a
condition on a state and the event taken in it. The invariant rule is the one induction
over runs that the protocol models of this development use.
-/

namespace Library.Machine

open List

variable {σ ε : Type}

/-- The state after the listed events, if each of them can happen in turn. -/
def run (step : σ → ε → Option σ) : σ → List ε → Option σ
  | state, [] => some state
  | state, event :: rest =>
    match step state event with
    | none => none
    | some next => run step next rest

/-- Every event of the run is taken in a state that meets the guard. -/
def Meets (step : σ → ε → Option σ) (guard : σ → ε → Prop) : σ → List ε → Prop
  | _, [] => True
  | state, event :: rest =>
    guard state event ∧
      match step state event with
      | none => True
      | some next => Meets step guard next rest

instance Meets.decidable (step : σ → ε → Option σ) (guard : σ → ε → Prop)
    [decided : ∀ state event, Decidable (guard state event)] :
    ∀ state events, Decidable (Meets step guard state events)
  | _, [] => .isTrue trivial
  | state, event :: rest =>
    match decided state event with
    | .isFalse refused => .isFalse fun meets => refused meets.1
    | .isTrue allowed =>
      match moved : step state event with
      | none => .isTrue ⟨allowed, by rw [moved]; trivial⟩
      | some next =>
        match Meets.decidable step guard next rest with
        | .isTrue tail => .isTrue ⟨allowed, by rw [moved]; exact tail⟩
        | .isFalse refused => .isFalse fun meets => by
            have tail := meets.2
            rw [moved] at tail
            exact refused tail

variable {step : σ → ε → Option σ} {guard : σ → ε → Prop}

/-- A run takes its first step first. -/
theorem run_cons (state : σ) (event : ε) (rest : List ε) :
    run step state (event :: rest) = match step state event with
      | none => none
      | some next => run step next rest := rfl

theorem meets_cons (state : σ) (event : ε) (rest : List ε) :
    Meets step guard state (event :: rest) ↔ guard state event ∧
      match step state event with
      | none => True
      | some next => Meets step guard next rest := Iff.rfl

theorem run_cons_eq_some {state final : σ} {event : ε} {rest : List ε} :
    run step state (event :: rest) = some final ↔
      ∃ next, step state event = some next ∧ run step next rest = some final := by
  rw [run_cons]
  cases moved : step state event with
  | none => simp only [reduceCtorEq, false_and, exists_false]
  | some next => simp only [Option.some.injEq, exists_eq_left']

/-- Two runs that meet make one. -/
theorem run_append {state middle final : σ} {first rest : List ε}
    (ran : run step state first = some middle) (onward : run step middle rest = some final) :
    run step state (first ++ rest) = some final := by
  induction first generalizing state with
  | nil =>
    cases ran
    exact onward
  | cons event others ih =>
    obtain ⟨next, moved, ran⟩ := run_cons_eq_some.mp ran
    exact run_cons_eq_some.mpr ⟨next, moved, ih ran⟩

theorem Meets.tail {state next : σ} {event : ε} {rest : List ε}
    (meets : Meets step guard state (event :: rest)) (moved : step state event = some next) :
    guard state event ∧ Meets step guard next rest := by
  rw [meets_cons, moved] at meets
  exact meets

theorem Meets.drop {state middle : σ} {first rest : List ε}
    (meets : Meets step guard state (first ++ rest)) (ran : run step state first = some middle) :
    Meets step guard middle rest := by
  induction first generalizing state with
  | nil =>
    cases ran
    exact meets
  | cons event others ih =>
    obtain ⟨next, moved, onward⟩ := run_cons_eq_some.mp ran
    exact ih (meets.tail moved).2 onward

theorem Meets.cons {state next : σ} {event : ε} {rest : List ε} (allowed : guard state event)
    (moved : step state event = some next) (onward : Meets step guard next rest) :
    Meets step guard state (event :: rest) := by
  rw [meets_cons, moved]
  exact ⟨allowed, onward⟩

theorem Meets.mono {other : σ → ε → Prop} {start : σ} {events : List ε}
    (meets : Meets step guard start events)
    (weaker : ∀ state event, guard state event → other state event) :
    Meets step other start events := by
  induction events generalizing start with
  | nil => trivial
  | cons event rest ih =>
    refine ⟨weaker start event meets.1, ?_⟩
    cases moved : step start event with
    | none => trivial
    | some next => exact ih (meets.tail moved).2

theorem invariant {holds : σ → Prop}
    (kept : ∀ {state event next}, holds state → guard state event →
      step state event = some next → holds next)
    {start final : σ} {events : List ε} (initial : holds start)
    (meets : Meets step guard start events) (ran : run step start events = some final) :
    holds final := by
  induction events generalizing start with
  | nil =>
    cases ran
    exact initial
  | cons event rest ih =>
    obtain ⟨next, moved, onward⟩ := run_cons_eq_some.mp ran
    obtain ⟨allowed, remaining⟩ := meets.tail moved
    exact ih (kept initial allowed moved) remaining onward

theorem Meets.of_invariant {holds : σ → Prop} {shows : σ → ε → Prop}
    (kept : ∀ {state event next}, holds state → guard state event →
      step state event = some next → holds next)
    (shown : ∀ {state event next}, holds state → guard state event →
      step state event = some next → shows state event)
    {start final : σ} {events : List ε} (initial : holds start)
    (meets : Meets step guard start events) (ran : run step start events = some final) :
    Meets step shows start events := by
  induction events generalizing start with
  | nil => trivial
  | cons event rest ih =>
    obtain ⟨next, moved, onward⟩ := run_cons_eq_some.mp ran
    obtain ⟨allowed, remaining⟩ := meets.tail moved
    exact .cons (shown initial allowed moved) moved
      (ih (kept initial allowed moved) remaining onward)

theorem Meets.congr_of_guarded {holds : σ → Prop} {kind : ε → Prop} {other : σ → ε → Prop}
    (kept : ∀ {state event next}, holds state → kind event → guard state event →
      step state event = some next → holds next)
    (same : ∀ {state event}, holds state → kind event → (guard state event ↔ other state event))
    {start : σ} (initial : holds start) (events : List ε) (all : ∀ event ∈ events, kind event) :
    Meets step guard start events ↔ Meets step other start events := by
  induction events generalizing start with
  | nil => exact Iff.rfl
  | cons event rest ih =>
    have here : kind event := all event mem_cons_self
    have later : ∀ event ∈ rest, kind event := fun event there =>
      all event (mem_cons_of_mem _ there)
    have first : guard start event ↔ other start event := same initial here
    rw [meets_cons, meets_cons]
    cases moved : step start event with
    | none => exact and_congr first Iff.rfl
    | some next =>
      constructor
      · intro both
        have onward := ih (kept initial here both.1 moved) later
        exact ⟨first.mp both.1, onward.mp both.2⟩
      · intro both
        have allowed := first.mpr both.1
        have onward := ih (kept initial here allowed moved) later
        exact ⟨allowed, onward.mpr both.2⟩

theorem Meets.congr_of_invariant {holds : σ → Prop} {other : σ → ε → Prop}
    (kept : ∀ {state event next}, holds state → step state event = some next → holds next)
    (same : ∀ {state event}, holds state → (guard state event ↔ other state event))
    {start : σ} (initial : holds start) (events : List ε) :
    Meets step guard start events ↔ Meets step other start events :=
  @Meets.congr_of_guarded σ ε step guard holds (fun _ => True) other
    (fun before _ _ moved => kept before moved) (fun before _ => same before) start initial events
    fun _ _ => trivial

theorem meets_of_forall (always : ∀ state event, guard state event) (state : σ)
    (events : List ε) : Meets step guard state events := by
  induction events generalizing state with
  | nil => trivial
  | cons event rest ih =>
    refine ⟨always state event, ?_⟩
    cases step state event with
    | none => trivial
    | some next => exact ih next

/-- What holds at the start and is kept by each step holds at the end. -/
theorem invariant_of_step {holds : σ → Prop}
    (kept : ∀ {state event next}, holds state → step state event = some next → holds next)
    {start final : σ} {events : List ε} (initial : holds start)
    (ran : run step start events = some final) : holds final :=
  have meets : Meets step (fun _ _ => True) start events :=
    meets_of_forall (fun _ _ => trivial) start events
  invariant (fun before _ moved => kept before moved) initial meets ran

theorem Meets.of_not_spoiled {holds spoiled : σ → Prop}
    (kept : ∀ {state event next}, holds state → step state event = some next → holds next)
    (stays : ∀ {state event next}, spoiled state → step state event = some next → spoiled next)
    (spoils : ∀ {state event next}, holds state → ¬ guard state event →
      step state event = some next → spoiled next)
    {start final : σ} {events : List ε} (initial : holds start)
    (ran : run step start events = some final) (good : ¬ spoiled final) :
    Meets step guard start events := by
  induction events generalizing start with
  | nil => trivial
  | cons event rest ih =>
    obtain ⟨next, moved, onward⟩ := run_cons_eq_some.mp ran
    have allowed : guard start event := by
      by_contra refused
      exact good (invariant_of_step stays (spoils initial refused moved) onward)
    exact .cons allowed moved (ih (kept initial moved) onward)

theorem history_runs {holds : List ε → σ → Prop}
    (moves : ∀ {past state event}, holds past state → guard state event →
      ∃ next, step state event = some next ∧ holds (past ++ [event]) next)
    {start : σ} {events : List ε} (initial : holds [] start)
    (meets : Meets step guard start events) :
    ∃ final, run step start events = some final ∧ holds events final := by
  suffices extended : ∀ past, holds past start →
      ∃ final, run step start events = some final ∧ holds (past ++ events) final from
    extended [] initial
  clear initial
  induction events generalizing start with
  | nil =>
    intro past before
    exact ⟨start, rfl, by simpa using before⟩
  | cons event rest ih =>
    intro past before
    obtain ⟨next, moved, after⟩ := moves before meets.1
    obtain ⟨final, onward, reached⟩ := ih (meets.tail moved).2 (past ++ [event]) after
    exact ⟨final, run_cons_eq_some.mpr ⟨next, moved, onward⟩, by simpa using reached⟩

theorem Meets.history_invariant {holds : List ε → σ → Prop}
    (kept : ∀ {past state event next}, holds past state → guard state event →
      step state event = some next → holds (past ++ [event]) next)
    {start final : σ} {events : List ε} (initial : holds [] start)
    (meets : Meets step guard start events) (ran : run step start events = some final) :
    holds events final := by
  suffices extended : ∀ past, holds past start → holds (past ++ events) final from
    extended [] initial
  clear initial
  induction events generalizing start with
  | nil =>
    intro past before
    cases ran
    simpa using before
  | cons event rest ih =>
    intro past before
    obtain ⟨next, moved, onward⟩ := run_cons_eq_some.mp ran
    obtain ⟨allowed, remaining⟩ := meets.tail moved
    simpa using ih remaining onward (past ++ [event]) (kept before allowed moved)

theorem history_invariant {holds : List ε → σ → Prop}
    (kept : ∀ {past state event next}, holds past state → step state event = some next →
      holds (past ++ [event]) next)
    {start final : σ} {events : List ε} (initial : holds [] start)
    (ran : run step start events = some final) : holds events final :=
  have meets : Meets step (fun _ _ => True) start events :=
    meets_of_forall (fun _ _ => trivial) start events
  meets.history_invariant (fun before _ moved => kept before moved) initial ran

theorem length_le_of_decreases {holds : σ → Prop} {measure : σ → Nat}
    (kept : ∀ {state event next}, holds state → step state event = some next → holds next)
    (decreases : ∀ {state event next}, holds state → step state event = some next →
      measure next < measure state)
    {start final : σ} {events : List ε} (initial : holds start)
    (ran : run step start events = some final) : events.length ≤ measure start := by
  induction events generalizing start with
  | nil => exact Nat.zero_le _
  | cons event rest ih =>
    obtain ⟨next, moved, onward⟩ := run_cons_eq_some.mp ran
    have shorter := ih (kept initial moved) onward
    have smaller := decreases initial moved
    rw [length_cons]
    omega

/-- An endless run whose events meet a guard. -/
def Execution (step : σ → ε → Option σ) (guard : σ → ε → Prop) (states : Nat → σ)
    (events : Nat → ε) : Prop :=
  ∀ time, guard (states time) (events time) ∧
    step (states time) (events time) = some (states (time + 1))

/-- Weak fairness: when one of the turns can be taken from some time on, one is taken. -/
def Fair (step : σ → ε → Option σ) (turn : σ → ε → Prop) (states : Nat → σ)
    (events : Nat → ε) : Prop :=
  ∀ start, (∀ time, start ≤ time →
      ∃ event, turn (states time) event ∧ step (states time) event ≠ none) →
    ∃ time, start ≤ time ∧ turn (states time) (events time)

theorem Execution.invariant {holds : σ → Prop} {states : Nat → σ} {events : Nat → ε}
    (execution : Execution step guard states events)
    (kept : ∀ {state event next}, holds state → guard state event →
      step state event = some next → holds next)
    (initial : holds (states 0)) (time : Nat) : holds (states time) := by
  induction time with
  | zero => exact initial
  | succ time ih => exact kept ih (execution time).1 (execution time).2

theorem Fair.eventually {turn : σ → ε → Prop} {goal : σ → Prop} {weight : σ → Nat}
    {states : Nat → σ} {events : Nat → ε} (fair : Fair step turn states events) {start : Nat}
    (able : ∀ time, start ≤ time → ¬ goal (states time) →
      ∃ event, turn (states time) event ∧ step (states time) event ≠ none)
    (kept : ∀ time, start ≤ time → weight (states (time + 1)) ≤ weight (states time))
    (lowered : ∀ time, start ≤ time → turn (states time) (events time) →
      weight (states (time + 1)) < weight (states time)) :
    ∃ time, start ≤ time ∧ goal (states time) := by
  by_contra missed
  have never : ∀ time, start ≤ time → ¬ goal (states time) :=
    fun time later reached => missed ⟨time, later, reached⟩
  have settled : ∀ time, start ≤ time → ∀ wait,
      weight (states (time + wait)) ≤ weight (states time) := by
    intro time later wait
    induction wait with
    | zero => exact le_rfl
    | succ wait ih =>
      exact Nat.le_trans (kept (time + wait) (Nat.le_trans later (Nat.le_add_right _ _))) ih
  have descending : ∀ bound time, start ≤ time → ¬ weight (states time) < bound := by
    intro bound
    induction bound with
    | zero => exact fun time _ => Nat.not_lt_zero _
    | succ bound ih =>
      intro time later below
      obtain ⟨turning, after, taken⟩ := fair time fun other beyond =>
        able other (Nat.le_trans later beyond) (never other (Nat.le_trans later beyond))
      have still := settled time later (turning - time)
      rw [Nat.add_sub_cancel' after] at still
      have less := lowered turning (Nat.le_trans later after) taken
      exact ih (turning + 1) (Nat.le_trans later (Nat.le_succ_of_le after)) (by omega)
  exact descending (weight (states start) + 1) start le_rfl (Nat.lt_succ_self _)

end Library.Machine
