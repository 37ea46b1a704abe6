import OpenBic.Library.Machine
import OpenBic.Library.Tiling
import Mathlib.Data.List.Nodup
import Mathlib.Data.List.Perm.Basic

/-!
# The works of the worker

`util_worker.c`: threads add works to the queue of the worker, and its thread runs them. A step of
`add_work` ends where it allocates, asks for the mutex, hands the work over or raises the number of
works; `work_handler` ends a step where it has called the function of the work.
-/

namespace OpenBic.Worker

open List Option Library.Machine Library.Parts

/-! ## The code -/

def maxWorkCount : Nat := 32

/-- `worker_job`, without the name. -/
structure WorkerJob where
  /-- `fn`, which may be `NULL`. -/
  fn : Option Nat
  ptrArg : Nat
  ui32Arg : UInt32
  delayMs : UInt32

/-- `work_info`, without the name. -/
structure WorkInfo where
  block : Nat
  fn : Option Nat
  ptrArg : Nat
  ui32Arg : UInt32
  /-- It is handed over with `k_work_schedule_for_queue`. -/
  delayed : Bool
deriving DecidableEq

/-- What `add_work` writes into a block. -/
def WorkerJob.work (job : WorkerJob) (block : Nat) : WorkInfo where
  block := block
  fn := job.fn
  ptrArg := job.ptrArg
  ui32Arg := job.ui32Arg
  delayed := job.delayMs != 0

/-- Where a call of `add_work` is. -/
inductive Phase where
  /-- At `malloc`. -/
  | checked
  /-- At `k_mutex_lock`. -/
  | allocated (newJob : WorkInfo)
  | locked (newJob : WorkInfo)
  | queued (newJob : WorkInfo)
  | returned (ret : Int)

/-- A call of `add_work`. -/
structure AddWork where
  job : WorkerJob
  phase : Phase

/-- The worker, with what became of the works. -/
structure Workers where
  workCount : UInt8
  /-- A call of `add_work` has `mutex_use_count`. -/
  locked : Bool
  /-- The calls of `add_work`. -/
  calls : List AddWork
  queue : List WorkInfo
  /-- The work whose function `work_handler` has called. -/
  running : Option WorkInfo
  allocated : Nat
  freed : List Nat
  accepted : List WorkInfo
  called : List WorkInfo
  finished : List WorkInfo

def Workers.goes (state : Workers) (index : Nat) (call : AddWork) (phase : Phase) : Workers :=
  { state with calls := state.calls.set index { call with phase } }

/-- `add_work` up to `malloc`. -/
def Workers.addWork (state : Workers) (job : WorkerJob) : Workers := { state with
  calls := state.calls ++
    [⟨job, if maxWorkCount ≤ state.workCount.toNat then .returned (-1) else .checked⟩] }

def Workers.malloc (state : Workers) (index : Nat) (call : AddWork) (success : Bool) : Workers :=
  if success then { state.goes index call (.allocated (call.job.work state.allocated)) with
    allocated := state.allocated + 1 }
  else state.goes index call (.returned (-2))

def Workers.lock (state : Workers) (index : Nat) (call : AddWork) (newJob : WorkInfo)
    (success : Bool) : Workers :=
  if success then { state.goes index call (.locked newJob) with locked := true }
  else { state.goes index call (.returned (-3)) with freed := state.freed ++ [newJob.block] }

/-- `add_work` hands the work over. A return code that is not negative says that the work is in the
queue. -/
def Workers.submit (state : Workers) (index : Nat) (call : AddWork) (newJob : WorkInfo)
    (ret : Int) : Workers :=
  let after := if 0 ≤ ret then { state with queue := state.queue ++ [newJob] } else state
  if ret = 1 then after.goes index call (.queued newJob)
  else { after.goes index call (.returned ret) with
    freed := state.freed ++ [newJob.block]
    locked := false }

/-- `add_work` raises the number of works. -/
def Workers.count (state : Workers) (index : Nat) (call : AddWork) (newJob : WorkInfo) : Workers :=
  { state.goes index call (.returned 1) with
    workCount := state.workCount + 1
    locked := false
    accepted := state.accepted ++ [call.job.work newJob.block] }

/-- `work_handler` up to the return of the function. -/
def Workers.start (state : Workers) (place : Nat) (work : WorkInfo) : Workers := { state with
  queue := state.queue.eraseIdx place
  running := some work
  called := if work.fn = none then state.called else state.called ++ [work] }

/-- The rest of `work_handler`. -/
def Workers.finish (state : Workers) (work : WorkInfo) (success : Bool) : Workers := { state with
  workCount := if success then state.workCount - 1 else state.workCount
  running := none
  freed := state.freed ++ [work.block]
  finished := state.finished ++ [work] }

/-! ## What is claimed -/

def Workers.init : Workers := ⟨0, false, [], [], none, 0, [], [], [], []⟩

/-- What can happen; a call of `add_work` is one step for each of these. -/
inductive WorkerEvent where
  /-- A thread calls `add_work`. -/
  | add (job : WorkerJob)
  | malloc (index : Nat) (success : Bool)
  | lock (index : Nat) (success : Bool)
  | submit (index : Nat) (ret : Int)
  | count (index : Nat)
  | start (place : Nat)
  | finish (success : Bool)

def step (state : Workers) : WorkerEvent → Option Workers
  | .add job => some (state.addWork job)
  | .malloc index success => (state.calls[index]?).bind fun call =>
    match call.phase with
    | .checked => some (state.malloc index call success)
    | _ => none
  | .lock index success => (state.calls[index]?).bind fun call =>
    match call.phase with
    | .allocated newJob =>
      if success && state.locked then none else some (state.lock index call newJob success)
    | _ => none
  | .submit index ret => (state.calls[index]?).bind fun call =>
    match call.phase with
    | .locked newJob => some (state.submit index call newJob ret)
    | _ => none
  | .count index => (state.calls[index]?).bind fun call =>
    match call.phase with
    | .queued newJob => some (state.count index call newJob)
    | _ => none
  | .start place =>
    match state.running with
    | some _ => none
    | none => (state.queue[place]?).map (state.start place)
  | .finish success =>
    if success && state.locked then none
    else state.running.map fun work => state.finish work success

def Workers.outstanding (state : Workers) : List WorkInfo :=
  state.accepted.filter fun work => work ∉ state.finished

/-- What is claimed of a state. -/
structure WorkersRight (state : Workers) : Prop where
  counted : state.workCount.toNat = state.outstanding.length
  bounded : state.workCount.toNat ≤ maxWorkCount
  once : ∀ work ∈ state.accepted, state.called.filter (fun called => called.block = work.block) =
    if work ∈ state.queue ∨ work.fn = none then [] else [work]
  freed : ∀ work ∈ state.accepted, state.freed.count work.block =
    if work ∈ state.queue ∨ state.running = some work then 0 else 1

/-- The number of works is raised only below its limit, a new work is submitted or refused, and the
handler gets the mutex. -/
def Orderly (state : Workers) : WorkerEvent → Prop
  | .submit _ ret => ret = 1 ∨ ret < 0
  | .count _ => state.workCount.toNat < maxWorkCount
  | .finish success => success = true
  | _ => True

instance Orderly.decidable (state : Workers) : ∀ event, Decidable (Orderly state event)
  | .submit .. => inferInstanceAs (Decidable (_ ∨ _))
  | .count _ => inferInstanceAs (Decidable (_ < _))
  | .finish _ => inferInstanceAs (Decidable (_ = _))
  | .add _ | .malloc .. | .lock .. | .start _ => .isTrue trivial

/-! ## Steps -/

section Steps

variable {state next : Workers} {index : Nat} {old new : AddWork} {newJob work : WorkInfo}

def AddWork.blocks (call : AddWork) : List Nat :=
  match call.phase with
  | .allocated newJob => [newJob.block]
  | .locked newJob => [newJob.block]
  | _ => []

def AddWork.submitted (call : AddWork) : List WorkInfo :=
  match call.phase with
  | .queued newJob => [newJob]
  | _ => []

def AddWork.holding (call : AddWork) : Nat :=
  match call.phase with
  | .locked _ => 1
  | .queued _ => 1
  | _ => 0

/-- The work of a call is its own job's. -/
def AddWork.Own (call : AddWork) : Prop :=
  match call.phase with
  | .allocated newJob => newJob = call.job.work newJob.block
  | .locked newJob => newJob = call.job.work newJob.block
  | .queued newJob => newJob = call.job.work newJob.block
  | _ => True

def below (allocated block : Nat) : Nat := if block < allocated then 1 else 0

/-- What holds in each state that is reached. -/
structure Sound (state : Workers) : Prop where
  bounded : state.workCount.toNat ≤ maxWorkCount
  mutex : total AddWork.holding state.calls = state.locked.toNat
  own : ∀ call ∈ state.calls, call.Own
  blocks : ∀ block, total (fun call => call.blocks.count block) state.calls +
      (state.queue.map WorkInfo.block).count block +
      (state.running.toList.map WorkInfo.block).count block + state.freed.count block =
    below state.allocated block
  released : ∀ block,
    (state.finished.map WorkInfo.block).count block ≤ state.freed.count block
  works : ∀ work, state.accepted.count work +
      total (fun call => call.submitted.count work) state.calls =
    state.queue.count work + state.running.toList.count work + state.finished.count work
  accepted : ∀ work ∈ state.finished, work ∈ state.accepted
  called : ∀ work, state.called.count work =
    if work.fn = none then 0 else state.running.toList.count work + state.finished.count work
  counted : state.workCount.toNat + total (fun call => call.submitted.length) state.calls =
    state.queue.length + state.running.toList.length

/-- A step of one call keeps what holds, when the works, the blocks and the mutex are right. -/
theorem Sound.of_call (sound : Sound state) (here : state.calls[index]? = some old)
    (set : next.calls = state.calls.set index new) (own : new.Own)
    (running : next.running = state.running) (finished : next.finished = state.finished)
    (called : next.called = state.called) (bounded : next.workCount.toNat ≤ maxWorkCount)
    (mutex : next.locked.toNat + old.holding = state.locked.toNat + new.holding)
    (blocks : ∀ block, new.blocks.count block + (next.queue.map WorkInfo.block).count block +
        next.freed.count block + below state.allocated block =
      old.blocks.count block + (state.queue.map WorkInfo.block).count block +
        state.freed.count block + below next.allocated block)
    (freed : ∀ block, state.freed.count block ≤ next.freed.count block)
    (works : ∀ work, next.accepted.count work + new.submitted.count work + state.queue.count work =
      state.accepted.count work + old.submitted.count work + next.queue.count work)
    (accepted : ∀ work ∈ state.accepted, work ∈ next.accepted)
    (counted : next.workCount.toNat + new.submitted.length + state.queue.length =
      state.workCount.toNat + old.submitted.length + next.queue.length) : Sound next := by
  refine ⟨bounded, ?_, ?_, ?_, ?_, ?_, ?_, ?_, ?_⟩
  · have changed := @total_set _ AddWork.holding _ _ _ here new
    have before := sound.mutex
    rw [set]
    omega
  · intro call listed
    rw [set] at listed
    rcases mem_or_eq_of_mem_set listed with earlier | rfl
    · exact sound.own call earlier
    · exact own
  · intro block
    have changed := @total_set _ (fun call => call.blocks.count block) _ _ _ here new
    have before := sound.blocks block
    have moved := blocks block
    rw [set, running]
    omega
  · intro block
    rw [finished]
    exact Nat.le_trans (sound.released block) (freed block)
  · intro work
    have changed := @total_set _ (fun call => call.submitted.count work) _ _ _ here new
    have before := sound.works work
    have moved := works work
    rw [set, running, finished]
    omega
  · intro work listed
    rw [finished] at listed
    exact accepted work (sound.accepted work listed)
  · intro work
    rw [called, running, finished]
    exact sound.called work
  · have changed := @total_set _ (fun call => call.submitted.length) _ _ _ here new
    have before := sound.counted
    rw [set, running]
    omega

theorem Sound.append (sound : Sound state) (own : new.Own) (blocks : new.blocks = [])
    (submitted : new.submitted = []) (holding : new.holding = 0) :
    Sound { state with calls := state.calls ++ [new] } := by
  have idle : ∀ measure : AddWork → Nat, measure new = 0 →
      total measure (state.calls ++ [new]) = total measure state.calls := by
    intro measure none
    rw [total_append, total_cons, none, total_nil]
    rfl
  refine ⟨sound.bounded, (idle _ holding).trans sound.mutex, ?_, ?_, sound.released, ?_,
    sound.accepted, sound.called, ?_⟩
  · intro call listed
    rcases List.mem_append.mp listed with earlier | last
    · exact sound.own call earlier
    · rw [List.mem_singleton.mp last]
      exact own
  · intro block
    rw [idle _ (by rw [blocks]; rfl)]
    exact sound.blocks block
  · intro work
    rw [idle _ (by rw [submitted]; rfl)]
    exact sound.works work
  · rw [idle _ (by rw [submitted]; rfl)]
    exact sound.counted

theorem Sound.addWork (sound : Sound state) (job : WorkerJob) : Sound (state.addWork job) := by
  unfold Workers.addWork
  split
  · exact sound.append trivial rfl rfl rfl
  · exact sound.append trivial rfl rfl rfl

theorem below_succ (allocated block : Nat) :
    below (allocated + 1) block = below allocated block + [allocated].count block := by
  unfold below
  rw [count_singleton]
  simp only [beq_iff_eq]
  split <;> split <;> split <;> omega

theorem Sound.malloc (sound : Sound state) (here : state.calls[index]? = some old)
    (phase : old.phase = .checked) (success : Bool) :
    Sound (state.malloc index old success) := by
  unfold Workers.malloc
  cases success with
  | false =>
    rw [if_neg Bool.false_ne_true]
    refine sound.of_call here rfl trivial rfl rfl rfl sound.bounded ?_ ?_ (fun _ => le_rfl)
      ?_ (fun _ => id) ?_
    · simp only [AddWork.holding, phase, Workers.goes]
    · intro block
      simp only [AddWork.blocks, phase, Workers.goes]
    · intro work
      simp only [AddWork.submitted, phase, Workers.goes]
    · simp only [AddWork.submitted, phase, Workers.goes]
  | true =>
    rw [if_pos rfl]
    refine sound.of_call here rfl rfl rfl rfl rfl sound.bounded ?_ ?_ (fun _ => le_rfl)
      ?_ (fun _ => id) ?_
    · simp only [AddWork.holding, phase, Workers.goes]
    · intro block
      have more := below_succ state.allocated block
      simp only [AddWork.blocks, phase, Workers.goes, WorkerJob.work, count_nil]
      omega
    · intro work
      simp only [AddWork.submitted, phase, Workers.goes]
    · simp only [AddWork.submitted, phase, Workers.goes]

theorem Sound.lock (sound : Sound state) (here : state.calls[index]? = some old)
    (phase : old.phase = .allocated newJob) {success : Bool}
    (free : (success && state.locked) = false) : Sound (state.lock index old newJob success) := by
  have own := sound.own old (mem_of_getElem? here)
  unfold AddWork.Own at own
  rw [phase] at own
  unfold Workers.lock
  cases success with
  | false =>
    rw [if_neg Bool.false_ne_true]
    refine sound.of_call here rfl trivial rfl rfl rfl sound.bounded ?_ ?_ ?_ ?_ (fun _ => id) ?_
    · simp only [AddWork.holding, phase, Workers.goes]
    · intro block
      simp only [AddWork.blocks, phase, Workers.goes, count_append, count_nil]
      omega
    · intro block
      simp only [count_append]
      omega
    · intro work
      simp only [AddWork.submitted, phase, Workers.goes]
    · simp only [AddWork.submitted, phase, Workers.goes]
  | true =>
    have unlocked : state.locked = false := free
    rw [if_pos rfl]
    refine sound.of_call here rfl own rfl rfl rfl sound.bounded ?_ ?_ (fun _ => le_rfl)
      ?_ (fun _ => id) ?_
    · simp only [AddWork.holding, phase, unlocked]
      rfl
    · intro block
      simp only [AddWork.blocks, phase, Workers.goes]
    · intro work
      simp only [AddWork.submitted, phase, Workers.goes]
    · simp only [AddWork.submitted, phase, Workers.goes]

theorem Sound.locked (sound : Sound state) (here : state.calls[index]? = some old)
    (holding : old.holding = 1) : state.locked = true := by
  have changed := @total_set _ AddWork.holding _ _ _ here ⟨old.job, .checked⟩
  have before := sound.mutex
  have none : AddWork.holding ⟨old.job, .checked⟩ = 0 := rfl
  cases locked : state.locked with
  | true => rfl
  | false =>
    rw [locked] at before
    change _ = 0 at before
    omega

/-- A call hands over its work, which is submitted or refused. -/
theorem Sound.submit (sound : Sound state) (here : state.calls[index]? = some old)
    (phase : old.phase = .locked newJob) {ret : Int} (fresh : ret = 1 ∨ ret < 0) :
    Sound (state.submit index old newJob ret) := by
  have own := sound.own old (mem_of_getElem? here)
  unfold AddWork.Own at own
  rw [phase] at own
  have holding : old.holding = 1 := by simp only [AddWork.holding, phase]
  have locked := sound.locked here holding
  unfold Workers.submit
  rcases fresh with rfl | refused
  · rw [if_pos rfl, if_pos (by decide)]
    refine sound.of_call here rfl own rfl rfl rfl sound.bounded ?_ ?_ (fun _ => le_rfl)
      ?_ (fun _ => id) ?_
    · simp only [AddWork.holding, phase, Workers.goes]
    · intro block
      simp only [AddWork.blocks, phase, Workers.goes, map_append, count_append,
        map_cons, map_nil, count_nil]
      omega
    · intro work
      simp only [AddWork.submitted, phase, Workers.goes, count_append, count_nil]
      omega
    · simp only [AddWork.submitted, phase, Workers.goes, length_append, length_cons,
        length_nil]
      omega
  · rw [if_neg (by omega), if_neg (by omega)]
    refine sound.of_call here rfl trivial rfl rfl rfl sound.bounded ?_ ?_ ?_ ?_ (fun _ => id) ?_
    · simp only [AddWork.holding, phase, locked]
      rfl
    · intro block
      simp only [AddWork.blocks, phase, Workers.goes, count_append, count_nil]
      omega
    · intro block
      simp only [count_append]
      omega
    · intro work
      simp only [AddWork.submitted, phase, Workers.goes]
    · simp only [AddWork.submitted, phase, Workers.goes]

theorem Sound.count (sound : Sound state) (here : state.calls[index]? = some old)
    (phase : old.phase = .queued newJob) (room : state.workCount.toNat < maxWorkCount) :
    Sound (state.count index old newJob) := by
  have own := sound.own old (mem_of_getElem? here)
  unfold AddWork.Own at own
  rw [phase] at own
  have holding : old.holding = 1 := by simp only [AddWork.holding, phase]
  have locked := sound.locked here holding
  have raised : (state.workCount + 1).toNat = state.workCount.toNat + 1 := by
    unfold maxWorkCount at room
    change (state.workCount.toNat + 1) % 2 ^ 8 = _
    omega
  unfold Workers.count
  refine sound.of_call here rfl trivial rfl rfl rfl ?_ ?_ ?_ (fun _ => le_rfl) ?_ ?_ ?_
  · rw [raised]
    exact room
  · simp only [AddWork.holding, phase, locked]
    rfl
  · intro block
    simp only [AddWork.blocks, phase, Workers.goes]
  · intro work
    simp only [AddWork.submitted, phase, Workers.goes, count_append, count_nil, ← own]
    omega
  · exact fun work listed => mem_append_left _ listed
  · simp only [AddWork.submitted, phase, Workers.goes, raised, length_cons, length_nil]

theorem Sound.start (sound : Sound state) (idle : state.running = none) {place : Nat}
    (here : state.queue[place]? = some work) : Sound (state.start place work) := by
  obtain ⟨inside, same⟩ := List.getElem?_eq_some_iff.mp here
  have taken : List.Perm (work :: state.queue.eraseIdx place) state.queue := by
    rw [← same]
    exact getElem_cons_eraseIdx_perm inside
  refine ⟨sound.bounded, sound.mutex, sound.own, ?_, sound.released, ?_, sound.accepted, ?_, ?_⟩
  · intro block
    have before := sound.blocks block
    have moved := (taken.map WorkInfo.block).count_eq block
    rw [idle] at before
    simp only [Workers.start, toList_some, toList_none, map_cons, map_nil,
      count_cons, count_nil] at before moved ⊢
    omega
  · intro other
    have before := sound.works other
    have moved := taken.count_eq other
    rw [idle] at before
    simp only [Workers.start, toList_some, toList_none, count_cons,
      count_nil] at before moved ⊢
    omega
  · intro other
    have before := sound.called other
    rw [idle] at before
    simp only [Workers.start, toList_some, toList_none, count_nil] at before ⊢
    by_cases null : other.fn = none
    · rw [if_pos null] at before ⊢
      split
      · exact before
      next called =>
        have apart : work ≠ other := fun same => called (same ▸ null)
        rw [count_append, before, count_singleton, if_neg (by simpa using apart)]
    · rw [if_neg null] at before ⊢
      split
      next none =>
        have apart : work ≠ other := fun same => null (same ▸ none)
        rw [count_singleton, if_neg (by simpa using apart)]
        exact before
      · rw [count_append, before]
        omega
  · have before := sound.counted
    have moved := taken.length_eq
    rw [idle] at before
    simp only [Workers.start, toList_some, toList_none, length_cons,
      length_nil] at before moved ⊢
    omega

theorem Sound.uncounted (sound : Sound state) (free : state.locked = false)
    (measure : AddWork → Nat) (few : ∀ call, call.holding = 0 → measure call = 0) :
    total measure state.calls = 0 := by
  have before := sound.mutex
  rw [free] at before
  change _ = 0 at before
  generalize state.calls = calls at before
  induction calls with
  | nil => rfl
  | cons call rest ih =>
    rw [total_cons] at before ⊢
    rw [few call (by omega), ih (by omega)]

theorem submitted_eq_nil {call : AddWork} (none : call.holding = 0) : call.submitted = [] := by
  unfold AddWork.holding at none
  unfold AddWork.submitted
  split
  next here =>
    rw [here] at none
    exact absurd none Nat.one_ne_zero
  · rfl

theorem Sound.finish (sound : Sound state) (here : state.running = some work)
    (free : state.locked = false) : Sound (state.finish work true) := by
  have counted := sound.counted
  have all := sound.uncounted free (fun call => call.submitted.length)
    fun call none => by rw [submitted_eq_nil none]; rfl
  rw [here, all] at counted
  have lowered : (state.workCount - 1).toNat = state.workCount.toNat - 1 := by
    have small := state.workCount.toNat_lt
    simp only [toList_some, length_singleton] at counted
    change (2 ^ 8 - 1 + state.workCount.toNat) % 2 ^ 8 = _
    omega
  refine ⟨?_, sound.mutex, sound.own, ?_, ?_, ?_, ?_, ?_, ?_⟩
  · have before := sound.bounded
    change (state.workCount - 1).toNat ≤ maxWorkCount
    omega
  · intro block
    have before := sound.blocks block
    rw [here] at before
    simp only [Workers.finish, toList_some, toList_none, map_cons, map_nil,
      count_append, count_nil] at before ⊢
    omega
  · intro block
    have before := sound.released block
    simp only [Workers.finish, map_append, map_cons, map_nil, count_append]
    omega
  · intro other
    have before := sound.works other
    rw [here] at before
    simp only [Workers.finish, toList_some, toList_none, count_append,
      count_nil] at before ⊢
    omega
  · intro other listed
    rcases List.mem_append.mp listed with earlier | last
    · exact sound.accepted other earlier
    · rw [List.mem_singleton.mp last]
      have before := sound.works work
      have none := sound.uncounted free (fun call => call.submitted.count work)
        fun call none => by rw [submitted_eq_nil none]; rfl
      rw [here, none] at before
      simp only [toList_some, count_cons_self, count_nil] at before
      have counted : 0 < state.accepted.count work := by omega
      exact List.count_pos_iff.mp counted
  · intro other
    have before := sound.called other
    rw [here] at before
    simp only [Workers.finish, toList_some, toList_none, count_append,
      count_nil] at before ⊢
    rw [before]
    split
    · rfl
    · omega
  · simp only [Workers.finish, toList_some, toList_none, length_singleton,
      length_nil, if_true, lowered, all] at counted ⊢
    omega

/-- A step that does not go wrong keeps what holds. -/
theorem Sound.step {event : WorkerEvent} (sound : Sound state) (orderly : Orderly state event)
    (moved : step state event = some next) : Sound next := by
  cases event with
  | add job =>
    cases moved
    exact sound.addWork job
  | malloc index success =>
    obtain ⟨call, here, moved⟩ := Option.bind_eq_some_iff.mp moved
    split at moved
    next phase =>
      cases moved
      exact sound.malloc here phase success
    · cases moved
  | lock index success =>
    obtain ⟨call, here, moved⟩ := Option.bind_eq_some_iff.mp moved
    split at moved
    next newJob phase =>
      split at moved
      · cases moved
      next free =>
        cases moved
        exact sound.lock here phase (Bool.eq_false_iff.mpr free)
    · cases moved
  | submit index ret =>
    obtain ⟨call, here, moved⟩ := Option.bind_eq_some_iff.mp moved
    split at moved
    next newJob phase =>
      cases moved
      exact sound.submit here phase orderly
    · cases moved
  | count index =>
    obtain ⟨call, here, moved⟩ := Option.bind_eq_some_iff.mp moved
    split at moved
    next newJob phase =>
      cases moved
      exact sound.count here phase orderly
    · cases moved
  | start place =>
    unfold Worker.step at moved
    dsimp only at moved
    split at moved
    · cases moved
    next idle =>
      obtain ⟨work, here, rfl⟩ := Option.map_eq_some_iff.mp moved
      exact sound.start idle here
  | finish success =>
    obtain rfl : success = true := orderly
    unfold Worker.step at moved
    dsimp only at moved
    split at moved
    · cases moved
    next free =>
      obtain ⟨work, here, rfl⟩ := Option.map_eq_some_iff.mp moved
      exact sound.finish here (Bool.eq_false_iff.mpr free)

def Workers.works (state : Workers) : List WorkInfo :=
  state.queue ++ state.running.toList ++ state.finished

theorem Sound.nodup (sound : Sound state) : (state.works.map WorkInfo.block).Nodup := by
  rw [nodup_iff_count_le_one]
  intro block
  have before := sound.blocks block
  have released := sound.released block
  have one : below state.allocated block ≤ 1 := by
    unfold below
    split <;> omega
  unfold Workers.works
  rw [map_append, map_append, count_append, count_append]
  omega

theorem Sound.mem_works (sound : Sound state) (accepted : work ∈ state.accepted) :
    work ∈ state.works := by
  have before := sound.works work
  have counted : 0 < state.accepted.count work := List.count_pos_iff.mpr accepted
  have somewhere : 0 < state.works.count work := by
    unfold Workers.works
    rw [count_append, count_append]
    omega
  exact List.count_pos_iff.mp somewhere

theorem Sound.eq_of_block (sound : Sound state) {first second : WorkInfo}
    (left : first ∈ state.works) (right : second ∈ state.works)
    (same : first.block = second.block) : first = second :=
  inj_on_of_nodup_map sound.nodup left right same

theorem Sound.count_works (sound : Sound state) (listed : work ∈ state.works) :
    state.queue.count work + state.running.toList.count work + state.finished.count work = 1 := by
  have distinct : state.works.Nodup := List.Nodup.of_map _ sound.nodup
  have one := List.nodup_iff_count_eq_one.mp distinct work listed
  unfold Workers.works at one
  rw [count_append, count_append] at one
  exact one

def Workers.submitted (state : Workers) : List WorkInfo := state.calls.flatMap AddWork.submitted

theorem Sound.perm (sound : Sound state) :
    List.Perm (state.accepted ++ state.submitted) state.works := by
  rw [perm_iff_count]
  intro work
  have before := sound.works work
  have counts : total (fun call => call.submitted.count work) state.calls =
      state.submitted.count work := List.count_flatMap.symm
  unfold Workers.works
  rw [count_append, count_append, count_append, ← counts]
  exact before

/-- The number of works is that of the jobs that were accepted and have not finished. -/
theorem Sound.outstanding (sound : Sound state) :
    state.workCount.toNat = state.outstanding.length := by
  have distinct : (state.accepted ++ state.submitted).Nodup :=
    sound.perm.nodup_iff.mpr (List.Nodup.of_map _ sound.nodup)
  have apart : ∀ work ∈ state.submitted, work ∉ state.finished := by
    intro work listed finished
    exact (List.nodup_append.mp distinct).2.2 work (sound.accepted work finished) work listed rfl
  have waiting : ∀ work ∈ state.queue ++ state.running.toList, work ∉ state.finished := by
    intro work listed finished
    have all : (state.queue ++ state.running.toList ++ state.finished).Nodup :=
      List.Nodup.of_map _ sound.nodup
    exact (List.nodup_append.mp all).2.2 work listed work finished rfl
  have filtered := (sound.perm.filter fun work => work ∉ state.finished).length_eq
  have uncounted : total (fun call => call.submitted.length) state.calls =
      state.submitted.length := List.length_flatMap.symm
  have kept : state.submitted.filter (fun work => work ∉ state.finished) = state.submitted :=
    List.filter_eq_self.mpr fun work listed => decide_eq_true (apart work listed)
  have begun : (state.queue ++ state.running.toList).filter (fun work => work ∉ state.finished) =
      state.queue ++ state.running.toList :=
    List.filter_eq_self.mpr fun work listed => decide_eq_true (waiting work listed)
  have ended : state.finished.filter (fun work => work ∉ state.finished) = [] :=
    List.filter_eq_nil_iff.mpr fun work listed kept => of_decide_eq_true kept listed
  have counted := sound.counted
  unfold Workers.works at filtered
  rw [filter_append, filter_append, kept, begun, ended, append_nil,
    length_append, length_append] at filtered
  unfold Workers.outstanding
  omega

/-- The function of an accepted work that does not wait was called once. -/
theorem Sound.once (sound : Sound state) (accepted : work ∈ state.accepted) :
    state.called.filter (fun called => called.block = work.block) =
      if work ∈ state.queue ∨ work.fn = none then [] else [work] := by
  have listed := sound.mem_works accepted
  have calls : ∀ called ∈ state.called.filter (fun called => called.block = work.block),
      called = work := by
    intro called found
    obtain ⟨there, same⟩ := List.mem_filter.mp found
    have before := sound.called called
    have counted : 0 < state.called.count called := List.count_pos_iff.mpr there
    have somewhere : 0 < state.works.count called := by
      unfold Workers.works
      rw [count_append, count_append]
      split at before <;> omega
    exact sound.eq_of_block (List.count_pos_iff.mp somewhere) listed (of_decide_eq_true same)
  have all := eq_replicate_of_mem calls
  have kept : (state.called.filter (fun called => called.block = work.block)).count work =
      state.called.count work := count_filter (decide_eq_true rfl)
  have count : (state.called.filter (fun called => called.block = work.block)).length =
      state.called.count work := by
    have counted := congrArg (List.count work) all
    rw [count_replicate_self, kept] at counted
    exact counted.symm
  have one := sound.count_works listed
  rw [all, count, sound.called work]
  by_cases null : work.fn = none
  · rw [if_pos null, if_pos (.inr null)]
    rfl
  · rw [if_neg null]
    by_cases waits : work ∈ state.queue
    · have waiting : 0 < state.queue.count work := List.count_pos_iff.mpr waits
      have none : state.running.toList.count work + state.finished.count work = 0 := by omega
      rw [if_pos (.inl waits), none]
      rfl
    · have begun : state.queue.count work = 0 := List.count_eq_zero.mpr waits
      have once : state.running.toList.count work + state.finished.count work = 1 := by omega
      rw [if_neg (not_or.mpr ⟨waits, null⟩), once]
      rfl

/-- The block of an accepted work is freed once, and not before its function has returned. -/
theorem Sound.freedOnce (sound : Sound state) (accepted : work ∈ state.accepted) :
    state.freed.count work.block =
      if work ∈ state.queue ∨ state.running = some work then 0 else 1 := by
  have before := sound.blocks work.block
  have released := sound.released work.block
  have one : below state.allocated work.block ≤ 1 := by
    unfold below
    split <;> omega
  have listed := sound.mem_works accepted
  rcases List.mem_append.mp listed with begun | finished
  · rcases List.mem_append.mp begun with waits | runs
    · have there : 0 < (state.queue.map WorkInfo.block).count work.block :=
        List.count_pos_iff.mpr (List.mem_map_of_mem waits)
      rw [if_pos (.inl waits)]
      omega
    · have there : 0 < (state.running.toList.map WorkInfo.block).count work.block :=
        List.count_pos_iff.mpr (List.mem_map_of_mem runs)
      rw [if_pos (.inr (Option.mem_toList.mp runs))]
      omega
  · have there : 0 < (state.finished.map WorkInfo.block).count work.block :=
      List.count_pos_iff.mpr (List.mem_map_of_mem finished)
    have elsewhere : ¬ (work ∈ state.queue ∨ state.running = some work) := by
      intro either
      rcases either with waits | runs
      · have waiting : 0 < (state.queue.map WorkInfo.block).count work.block :=
          List.count_pos_iff.mpr (List.mem_map_of_mem waits)
        omega
      · have running : 0 < (state.running.toList.map WorkInfo.block).count work.block :=
          List.count_pos_iff.mpr (List.mem_map_of_mem (Option.mem_toList.mpr runs))
        omega
    rw [if_neg elsewhere]
    omega

theorem sound_init : Sound Workers.init :=
  ⟨Nat.zero_le _, rfl, nofun, fun block => (if_neg (Nat.not_lt_zero block)).symm,
    fun _ => Nat.le_refl 0, fun _ => rfl, nofun, fun _ => (ite_self 0).symm, rfl⟩

end Steps

/-! ## The runs -/

/-- In every run whose steps do not go wrong, each state that is reached is right. -/
theorem workersRight_run {events : List WorkerEvent} {final : Workers}
    (orderly : Meets step Orderly Workers.init events)
    (ran : run step Workers.init events = some final) : WorkersRight final := by
  have sound : Sound final :=
    invariant (fun sound orderly moved => Sound.step sound orderly moved) sound_init orderly ran
  exact ⟨sound.outstanding, sound.bounded, fun _ accepted => sound.once accepted,
    fun _ accepted => sound.freedOnce accepted⟩

def addsWork (index : Nat) : List WorkerEvent :=
  [.malloc index true, .lock index true, .submit index 1, .count index]

def twoWorks : List WorkerEvent :=
  [.add ⟨some 7, 1, 2, 0⟩, .add ⟨some 8, 3, 4, 100⟩] ++ addsWork 0 ++ addsWork 1 ++
    [.start 0, .finish true]

/-- Two works, one done and one in the queue. -/
theorem workersRight_twoWorks :
    ∃ final, run step Workers.init twoWorks = some final ∧ final.workCount = 1 ∧
      WorkersRight final := by
  have orderly : Meets step Orderly Workers.init twoWorks := by decide +kernel
  have one : (run step Workers.init twoWorks).map Workers.workCount = some 1 := by decide +kernel
  obtain ⟨final, ran, counted⟩ := Option.map_eq_some_iff.mp one
  exact ⟨final, ran, counted, workersRight_run orderly ran⟩

/-- As many works as the worker takes, but for one, and two calls that find room for it at once. -/
def crowded : List WorkerEvent :=
  (List.range (maxWorkCount - 1)).flatMap
      (fun index => .add ⟨some 7, 0, 0, 100⟩ :: addsWork index) ++
    [.add ⟨some 7, 0, 0, 100⟩, .add ⟨some 7, 0, 0, 100⟩] ++
    addsWork (maxWorkCount - 1) ++ addsWork maxWorkCount

/-- Two calls that test the count before either of them has the mutex pass the limit together. -/
theorem crowded_not_right :
    ∃ final, run step Workers.init crowded = some final ∧ ¬ WorkersRight final := by
  have many : (run step Workers.init crowded).map (fun final => final.workCount) = some 33 := by
    decide +kernel
  obtain ⟨final, ran, counted⟩ := Option.map_eq_some_iff.mp many
  refine ⟨final, ran, fun right => ?_⟩
  have bounded := right.bounded
  rw [counted] at bounded
  exact absurd bounded (by decide)

end OpenBic.Worker
