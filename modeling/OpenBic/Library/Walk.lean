import OpenBic.Library.Reading

/-!
# Walks over the records of some data

A walk takes the record at the front of some data, does something with it, and goes on with what is
behind it, until no record is there or a step stops it. What it does is a fold over the records,
each of which stands at its place whatever the walk does.
-/

namespace Library.Walk

open List Library.Reading

variable {α σ ε : Type}

/-- The records at the front of data, so many at most, and what is behind them. -/
def pieces (read : Taker α) : Nat → List UInt8 → List α × List UInt8
  | 0, data => ([], data)
  | fuel + 1, data =>
    match read data with
    | none => ([], data)
    | some (item, rest) => (item :: (pieces read fuel rest).1, (pieces read fuel rest).2)

def walk (read : Taker α) (step : σ → α → Except ε σ) :
    Nat → σ → List UInt8 → Except ε (σ × List UInt8)
  | 0, state, data => .ok (state, data)
  | fuel + 1, state, data =>
    match read data with
    | none => .ok (state, data)
    | some (item, rest) =>
      match step state item with
      | .error stop => .error stop
      | .ok next => walk read step fuel next rest

variable {read : Taker α} {step : σ → α → Except ε σ}

theorem map_eq_ok_iff {β : Type} {result : Except ε α} {change : α → β} {value : β} :
    result.map change = .ok value ↔ ∃ found, result = .ok found ∧ change found = value := by
  cases result <;> simp [Except.map]

theorem map_eq_error_iff {β : Type} {result : Except ε α} {change : α → β} {stop : ε} :
    result.map change = .error stop ↔ result = .error stop := by
  cases result <;> simp [Except.map]

theorem foldlM_cons_ok {state next : σ} {item : α} {rest : List α}
    (moved : step state item = .ok next) :
    (item :: rest).foldlM step state = rest.foldlM step next := by
  rw [foldlM_cons, moved]
  rfl

theorem foldlM_cons_error {state : σ} {stop : ε} {item : α} {rest : List α}
    (stopped : step state item = .error stop) :
    (item :: rest).foldlM step state = .error stop := by
  rw [foldlM_cons, stopped]
  rfl

theorem foldlM_single (state : σ) (item : α) : [item].foldlM step state = step state item := by
  exact bind_pure _

theorem foldlM_append_ok {first second : List α} {state middle : σ}
    (ran : first.foldlM step state = .ok middle) :
    (first ++ second).foldlM step state = second.foldlM step middle := by
  rw [foldlM_append, ran]
  rfl

theorem foldlM_append_error {first second : List α} {state : σ} {stop : ε}
    (stopped : first.foldlM step state = .error stop) :
    (first ++ second).foldlM step state = .error stop := by
  rw [foldlM_append, stopped]
  rfl

theorem walk_eq (fuel : Nat) (state : σ) (data : List UInt8) :
    walk read step fuel state data =
      ((pieces read fuel data).1.foldlM step state).map fun after =>
        (after, (pieces read fuel data).2) := by
  induction fuel generalizing state data with
  | zero => rfl
  | succ fuel ih =>
    unfold walk pieces
    cases read data with
    | none => rfl
    | some found =>
      dsimp only
      cases moved : step state found.1 with
      | error stop => rw [foldlM_cons_error moved]; rfl
      | ok next =>
        rw [foldlM_cons_ok moved]
        exact ih next found.2

/-- A fold stops at the first record whose step does. -/
theorem foldlM_eq_error_iff {items : List α} {state : σ} {stop : ε} :
    items.foldlM step state = .error stop ↔
      ∃ first item rest after, items = first ++ item :: rest ∧
        first.foldlM step state = .ok after ∧ step after item = .error stop := by
  induction items generalizing state with
  | nil =>
    constructor
    · intro stopped
      cases stopped
    · rintro ⟨first, item, rest, after, split, -⟩
      exact absurd (congrArg List.length split) (by simp)
  | cons head items ih =>
    cases moved : step state head with
    | error other =>
      rw [foldlM_cons_error moved]
      constructor
      · intro same
        exact ⟨[], head, items, state, rfl, rfl, moved.trans same⟩
      · rintro ⟨first, item, rest, after, split, ran, stopped⟩
        cases first with
        | nil =>
          obtain ⟨rfl, rfl⟩ := List.cons.inj split
          obtain rfl : state = after := Except.ok.inj ran
          exact moved.symm.trans stopped
        | cons other first =>
          obtain ⟨rfl, rfl⟩ := List.cons.inj split
          rw [foldlM_cons_error moved] at ran
          cases ran
    | ok next =>
      rw [foldlM_cons_ok moved, ih]
      constructor
      · rintro ⟨first, item, rest, after, rfl, ran, stopped⟩
        exact ⟨head :: first, item, rest, after, rfl, (foldlM_cons_ok moved).trans ran, stopped⟩
      · rintro ⟨first, item, rest, after, split, ran, stopped⟩
        cases first with
        | nil =>
          obtain ⟨rfl, rfl⟩ := List.cons.inj split
          obtain rfl : state = after := Except.ok.inj ran
          exact absurd (moved.symm.trans stopped) (by simp)
        | cons other first =>
          obtain ⟨rfl, rfl⟩ := List.cons.inj split
          rw [foldlM_cons_ok moved] at ran
          exact ⟨first, item, rest, after, rfl, ran, stopped⟩

theorem foldlM_rule {holds : List α → σ → Prop}
    (kept : ∀ {past state item next}, holds past state → step state item = .ok next →
      holds (past ++ [item]) next)
    {items : List α} {start final : σ} (initial : holds [] start)
    (ran : items.foldlM step start = .ok final) : holds items final := by
  suffices extended : ∀ past, holds past start → holds (past ++ items) final from
    extended [] initial
  clear initial
  induction items generalizing start with
  | nil =>
    intro past before
    obtain rfl : start = final := Except.ok.inj ran
    rw [append_nil]
    exact before
  | cons item rest ih =>
    intro past before
    cases moved : step start item with
    | error stop =>
      rw [foldlM_cons_error moved] at ran
      cases ran
    | ok next =>
      rw [foldlM_cons_ok moved] at ran
      have after := ih ran (past ++ [item]) (kept before moved)
      rw [append_assoc] at after
      exact after

theorem foldlM_keeps {holds : σ → Prop}
    (kept : ∀ {state item next}, holds state → step state item = .ok next → holds next)
    {items : List α} {start final : σ} (initial : holds start)
    (ran : items.foldlM step start = .ok final) : holds final :=
  @foldlM_rule _ _ _ _ (fun _ state => holds state) (fun before moved => kept before moved) _ _ _
    initial ran

theorem pieces_ended (smaller : ∀ data item rest, read data = some (item, rest) →
      rest.length < data.length) {fuel : Nat} {data : List UInt8} (enough : data.length < fuel) :
    read (pieces read fuel data).2 = none := by
  induction fuel generalizing data with
  | zero => exact absurd enough (Nat.not_lt_zero _)
  | succ fuel ih =>
    unfold pieces
    cases found : read data with
    | none => exact found
    | some taken =>
      have less := smaller data taken.1 taken.2 found
      exact ih (show taken.2.length < fuel by omega)

theorem pieces_split {write : α → List UInt8}
    (written : ∀ data item rest, read data = some (item, rest) → data = write item ++ rest)
    (fuel : Nat) (data : List UInt8) :
    data = (pieces read fuel data).1.flatMap write ++ (pieces read fuel data).2 := by
  induction fuel generalizing data with
  | zero => rfl
  | succ fuel ih =>
    unfold pieces
    cases found : read data with
    | none => rfl
    | some taken =>
      rw [flatMap_cons, append_assoc, ← ih taken.2]
      exact written data taken.1 taken.2 found

theorem pieces_flatMap {write : α → List UInt8} {items : List α}
    (reads : ∀ item ∈ items, Reads read (write item) item) (stops : read [] = none)
    {fuel : Nat} (enough : items.length ≤ fuel) :
    pieces read fuel (items.flatMap write) = (items, []) := by
  induction items generalizing fuel with
  | nil =>
    cases fuel with
    | zero => rfl
    | succ fuel =>
      unfold pieces
      rw [flatMap_nil, stops]
  | cons item items ih =>
    obtain ⟨fuel, rfl⟩ : ∃ less, fuel = less + 1 :=
      ⟨fuel - 1, by rw [length_cons] at enough; omega⟩
    have here := reads item mem_cons_self (items.flatMap write)
    have later := ih (fun other listed => reads other (mem_cons_of_mem _ listed))
      (Nat.le_of_succ_le_succ enough)
    unfold pieces
    rw [flatMap_cons, here]
    dsimp only
    rw [later]

theorem length_le_flatMap {write : α → List UInt8} {items : List α}
    (some : ∀ item ∈ items, 0 < (write item).length) :
    items.length ≤ (items.flatMap write).length := by
  induction items with
  | nil => exact Nat.le_refl _
  | cons item items ih =>
    have here := some item mem_cons_self
    have later := ih fun other listed => some other (mem_cons_of_mem _ listed)
    rw [flatMap_cons, length_append, length_cons]
    omega

end Library.Walk
