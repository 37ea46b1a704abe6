import Mathlib.Algebra.Order.Ring.Nat
import Mathlib.Data.List.Basic
import OpenBic.Library.Talk

/-!
# Programs that leave a trace

A program of this kind changes its state only by what it appends to a log. What is said of it is
what it appends: when it ends with a value, and when it fails. The rules follow the program.
-/

namespace Library.Trace

open List Library.Talk

/-- Parties that answer to what has happened, and the log of what has happened. -/
structure World (δ ε : Type) where
  parties : δ
  log : List ε

variable {δ ε α β : Type}

def World.add (world : World δ ε) (entries : List ε) : World δ ε :=
  { world with log := world.log ++ entries }

@[simp] theorem add_nil (world : World δ ε) : world.add [] = world := by
  unfold World.add
  rw [append_nil]

@[simp] theorem add_add (world : World δ ε) (front back : List ε) :
    (world.add front).add back = world.add (front ++ back) := by
  unfold World.add
  rw [append_assoc]

theorem add_injective (world : World δ ε) {first second : List ε}
    (same : world.add first = world.add second) : first = second :=
  append_cancel_left (congrArg World.log same)

def emit (answer : δ → List ε → Option α × ε) : Program (World δ ε) α :=
  exchange fun world => ((answer world.parties world.log).1,
    world.add [(answer world.parties world.log).2])

def note (entry : ε) : Program (World δ ε) Unit := emit fun _ _ => (some (), entry)

/-- What a program appends when it ends with a value, and when it fails. -/
def Runs (program : Program (World δ ε) α) (ends : α → List ε → Prop)
    (fails : List ε → Prop) : Prop :=
  ∀ world, (∃ value entries, program.result world = (some value, world.add entries) ∧
      ends value entries) ∨
    ∃ entries, program.result world = (none, world.add entries) ∧ fails entries

variable {program : Program (World δ ε) α} {ends : α → List ε → Prop} {fails : List ε → Prop}

theorem Runs.pure (value : α) :
    Runs (Pure.pure value : Program (World δ ε) α)
      (fun ended entries => ended = value ∧ entries = []) fun _ => False :=
  fun world => .inl ⟨value, [], by rw [result_pure, add_nil], rfl, rfl⟩

theorem Runs.failure :
    Runs (Alternative.failure : Program (World δ ε) α) (fun _ _ => False) fun entries =>
      entries = [] :=
  fun world => .inr ⟨[], by rw [result_failure, add_nil], rfl⟩

theorem Runs.emit {answer : δ → List ε → Option α × ε}
    (ended : ∀ parties log value, (answer parties log).1 = some value →
      ends value [(answer parties log).2])
    (failed : ∀ parties log, (answer parties log).1 = none → fails [(answer parties log).2]) :
    Runs (Trace.emit answer) ends fails := by
  intro world
  unfold Trace.emit
  rw [result_exchange]
  cases met : (answer world.parties world.log).1 with
  | none => exact .inr ⟨_, rfl, failed _ _ met⟩
  | some value => exact .inl ⟨value, _, rfl, ended _ _ value met⟩

theorem Runs.note (entry : ε) :
    Runs (Trace.note entry : Program (World δ ε) Unit) (fun _ entries => entries = [entry])
      fun _ => False :=
  Runs.emit (fun _ _ _ _ => rfl) fun _ _ => nofun

theorem Runs.mono {ends' : α → List ε → Prop} {fails' : List ε → Prop}
    (runs : Runs program ends fails) (ended : ∀ value entries, ends value entries →
      ends' value entries) (failed : ∀ entries, fails entries → fails' entries) :
    Runs program ends' fails' := by
  intro world
  rcases runs world with ⟨value, entries, ran, how⟩ | ⟨entries, ran, how⟩
  · exact .inl ⟨value, entries, ran, ended value entries how⟩
  · exact .inr ⟨entries, ran, failed entries how⟩

theorem Runs.bind {next : α → Program (World δ ε) β} {ends' : β → List ε → Prop}
    {fails' : List ε → Prop} {after : α → β → List ε → Prop} {stops : α → List ε → Prop}
    (first : Runs program ends fails) (rest : ∀ value, Runs (next value) (after value) (stops value))
    (ended : ∀ value front last back, ends value front → after value last back →
      ends' last (front ++ back))
    (failedFirst : ∀ entries, fails entries → fails' entries)
    (failedRest : ∀ value front back, ends value front → stops value back →
      fails' (front ++ back)) : Runs (program >>= next) ends' fails' := by
  intro world
  rcases first world with ⟨value, front, ran, how⟩ | ⟨front, ran, how⟩
  · rw [result_bind_some ran]
    rcases rest value (world.add front) with ⟨last, back, onward, then_⟩ | ⟨back, onward, then_⟩
    · exact .inl ⟨last, front ++ back, by rw [onward, add_add], ended _ _ _ _ how then_⟩
    · exact .inr ⟨front ++ back, by rw [onward, add_add], failedRest _ _ _ how then_⟩
  · exact .inr ⟨front, by rw [result_bind_none ran], failedFirst front how⟩

/-- A program that ends leaves this; where it stops is left open. -/
def Leaves (program : Program (World δ ε) α) (ends : α → List ε → Prop) : Prop :=
  Runs program ends fun _ => True

theorem Runs.leaves (runs : Runs program ends fails) : Leaves program ends :=
  runs.mono (fun _ _ => id) fun _ _ => trivial

theorem Leaves.mono {ends' : α → List ε → Prop} (leaves : Leaves program ends)
    (ended : ∀ value entries, ends value entries → ends' value entries) : Leaves program ends' :=
  Runs.mono leaves ended fun _ _ => trivial

theorem Leaves.pure {value : α} (ended : ends value []) :
    Leaves (Pure.pure value : Program (World δ ε) α) ends :=
  (Runs.pure value).mono (fun _ _ how => by rw [how.1, how.2]; exact ended) nofun

theorem Leaves.failure : Leaves (Alternative.failure : Program (World δ ε) α) ends :=
  Runs.failure.mono (fun _ _ => nofun) fun _ _ => trivial

theorem Leaves.bind {next : α → Program (World δ ε) β} {ends' : β → List ε → Prop}
    (first : Leaves program ends)
    (rest : ∀ value, Leaves (next value) fun last back =>
      ∀ front, ends value front → ends' last (front ++ back)) : Leaves (program >>= next) ends' :=
  Runs.bind first rest (fun _ _ _ _ how onward => onward _ how) (fun _ _ => trivial)
    fun _ _ _ _ _ => trivial

theorem Runs.and {ends' : α → List ε → Prop} {fails' : List ε → Prop}
    (first : Runs program ends fails) (second : Runs program ends' fails') :
    Runs program (fun value entries => ends value entries ∧ ends' value entries)
      fun entries => fails entries ∧ fails' entries := by
  intro world
  rcases first world with ⟨value, entries, ran, how⟩ | ⟨entries, ran, how⟩
  · rcases second world with ⟨other, others, same, also⟩ | ⟨others, same, also⟩
    · rw [ran] at same
      obtain ⟨sameValue, sameLog⟩ := Prod.mk.inj same
      cases sameValue
      obtain rfl := add_injective world sameLog
      exact .inl ⟨value, entries, ran, how, also⟩
    · rw [ran] at same
      nomatch (congrArg Prod.fst same)
  · rcases second world with ⟨other, others, same, also⟩ | ⟨others, same, also⟩
    · rw [ran] at same
      nomatch (congrArg Prod.fst same)
    · rw [ran] at same
      obtain rfl := add_injective world (congrArg Prod.snd same)
      exact .inr ⟨entries, ran, how, also⟩

end Library.Trace
