import Mathlib.Logic.Relation

/-!
# The rounds of a loop

A loop takes a state from round to round until one of them ends it with a result. It ends when each
round makes something less, and what it ends with is the result of the last state it comes to.
-/

namespace Library.Rounds

variable {σ ρ : Type}

/-- What a round does. -/
inductive Round (σ ρ : Type) where
  | next (state : σ)
  | ends (result : ρ)

def loop (round : σ → Round σ ρ) : Nat → σ → Option ρ
  | 0, _ => none
  | fuel + 1, state =>
    match round state with
    | .next state => loop round fuel state
    | .ends result => some result

/-- A loop comes from one state to another. -/
def Comes (round : σ → Round σ ρ) : σ → σ → Prop :=
  Relation.ReflTransGen fun state next => round state = .next next

variable {round : σ → Round σ ρ} {start state next last : σ} {result : ρ} {fuel : Nat}

theorem Comes.refl (start : σ) : Comes round start start := Relation.ReflTransGen.refl

theorem loop_zero (state : σ) : loop round 0 state = none := rfl

theorem loop_succ (fuel : Nat) (state : σ) :
    loop round (fuel + 1) state = match round state with
      | .next state => loop round fuel state
      | .ends result => some result := rfl

theorem loop_next (moved : round state = .next next) (fuel : Nat) :
    loop round (fuel + 1) state = loop round fuel next := by
  rw [loop_succ, moved]

theorem loop_ends (ended : round state = .ends result) (fuel : Nat) :
    loop round (fuel + 1) state = some result := by
  rw [loop_succ, ended]

theorem comes_of_loop (ran : loop round fuel start = some result) :
    ∃ last, Comes round start last ∧ round last = .ends result := by
  induction fuel generalizing start with
  | zero => nomatch ((loop_zero _).symm.trans ran)
  | succ fuel ih =>
    cases moved : round start with
    | next state =>
      rw [loop_next moved] at ran
      obtain ⟨last, comes, ended⟩ := ih ran
      exact ⟨last, Relation.ReflTransGen.head moved comes, ended⟩
    | ends found =>
      rw [loop_ends moved] at ran
      cases ran
      exact ⟨start, Comes.refl start, moved⟩

theorem loop_of_comes (comes : Comes round start last) (ended : round last = .ends result)
    {other : ρ} (ran : loop round fuel start = some other) : other = result := by
  induction comes using Relation.ReflTransGen.head_induction_on generalizing fuel with
  | refl =>
    cases fuel with
    | zero => nomatch ((loop_zero _).symm.trans ran)
    | succ fuel =>
      rw [loop_ends ended] at ran
      exact (Option.some.inj ran).symm
  | head moved _ ih =>
    cases fuel with
    | zero => nomatch ((loop_zero _).symm.trans ran)
    | succ fuel =>
      rw [loop_next moved] at ran
      exact ih ran

theorem Comes.rule {holds : σ → Prop}
    (kept : ∀ {state next}, holds state → round state = .next next → holds next)
    (initial : holds start) (comes : Comes round start last) : holds last := by
  induction comes with
  | refl => exact initial
  | tail _ moved ih => exact kept ih moved

theorem loop_isSome (holds : σ → Prop) {measure : σ → Nat}
    (kept : ∀ {state next}, holds state → round state = .next next → holds next)
    (smaller : ∀ {state next}, holds state → round state = .next next →
      measure next < measure state)
    (initial : holds start) (enough : measure start < fuel) : (loop round fuel start).isSome := by
  induction fuel generalizing start with
  | zero => exact absurd enough (Nat.not_lt_zero _)
  | succ fuel ih =>
    cases moved : round start with
    | next state =>
      rw [loop_next moved]
      have less := smaller initial moved
      exact ih (kept initial moved) (by omega)
    | ends found =>
      rw [loop_ends moved]
      rfl

theorem loop_eq_some_iff (ends : (loop round fuel start).isSome) :
    loop round fuel start = some result ↔
      ∃ last, Comes round start last ∧ round last = .ends result := by
  constructor
  · exact comes_of_loop
  · rintro ⟨last, comes, ended⟩
    obtain ⟨other, ran⟩ := Option.isSome_iff_exists.mp ends
    rw [ran, loop_of_comes comes ended ran]

end Library.Rounds
