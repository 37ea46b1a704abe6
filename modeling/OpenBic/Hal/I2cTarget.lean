import OpenBic.Library.Machine

/-!
# The I2C target queue

The callbacks of `hal_i2c_target.c` for one bus and `multi_bus_i2c_target_read`. The callbacks run
in interrupt context and may come between any two steps of the reader. Beside the state stand the
write transactions that the controller acknowledged and the messages that the reader returned. A
message for a reader that waits passes through the queue here; `k_msgq_put` hands it over without, so
that a queue of one does not fill then.
-/

namespace OpenBic.Hal

open List

open Library.Machine

def maxI2cTargetBuff : Nat := 256

/-- What the controller does on the bus. -/
inductive BusPhase where
  | idle
  /-- After `write_requested`. -/
  | writing
  /-- After `read_requested`. -/
  | reading
deriving DecidableEq

/-- Where the reader is in `multi_bus_i2c_target_read`. -/
inductive ReadPhase where
  | idle
  | copied
  /-- In `do_i2c_target_register`, before the status is looked at. -/
  | status
  | space
  /-- Before `i2c_slave_register`. -/
  | hardware
  /-- Before `is_register` is set. -/
  | flag
deriving DecidableEq

/-- A message that a call of the reader returned. -/
structure Returned where
  bytes : List UInt8
  /-- The call returned `I2C_TARGET_API_NO_ERR`. -/
  ok : Bool
deriving DecidableEq

/-- A target on one bus with its reader. -/
structure I2cTarget where
  maxMsgs : Nat
  queue : List (List UInt8)
  hardware : Bool
  isRegister : Bool
  /-- The first `wr_buffer_idx` bytes of `target_wr_msg`. -/
  wrBuffer : List UInt8
  skipMsgWr : Bool
  rdMsg : List UInt8
  rdBufferIdx : Nat
  bus : BusPhase
  acked : List UInt8
  reader : ReadPhase
  copied : List UInt8
  transactions : List (List UInt8)
  returned : List Returned

/-- What happens on the bus and in the reader. -/
inductive TargetEvent where
  | writeRequested
  | writeReceived (val : UInt8)
  /-- `read_requested`, with what `rd_data_collect_func` says. -/
  | readRequested (collect : Bool)
  | readProcessed
  /-- `stop`, with whether `i2c_slave_unregister` succeeds if it is called. -/
  | stop (unregisters : Bool)
  | setRead (buff : List UInt8)
  /-- A call of the reader with a buffer of so many bytes has a message from `k_msgq_get`. -/
  | get (buffLen : Nat)
  | check
  /-- `do_i2c_target_register` looks at the status. -/
  | checkStatus
  /-- `do_i2c_target_register` looks at the free space. -/
  | checkSpace
  /-- `i2c_slave_register`, with whether it succeeds. -/
  | registerHardware (registers : Bool)
  /-- `is_register` is set. -/
  | setFlag

namespace I2cTarget

/-- `i2c_target_control` at boot: a target whose queue has room is registered. -/
def init (maxMsgs : Nat) : I2cTarget :=
  ⟨maxMsgs, [], 0 < maxMsgs, 0 < maxMsgs, [], false, [], 0, .idle, [], .idle, [], [], []⟩

def giveBack (target : I2cTarget) (ok : Bool) : I2cTarget :=
  { target with
    reader := .idle
    copied := []
    returned := target.returned ++ [⟨target.copied, ok⟩] }

/-- `do_i2c_target_unregister`. -/
def unregister (target : I2cTarget) (unregisters : Bool) : I2cTarget :=
  if target.isRegister && unregisters then { target with hardware := false, isRegister := false }
  else target

/-- `i2c_target_write_requested`: an empty buffer. -/
def writeRequested (target : I2cTarget) : I2cTarget :=
  { target with wrBuffer := [], skipMsgWr := false, bus := .writing, acked := [] }

/-- `i2c_target_write_received`: a byte behind the end of the buffer is not acknowledged. -/
def writeReceived (target : I2cTarget) (val : UInt8) : I2cTarget :=
  if maxI2cTargetBuff ≤ target.wrBuffer.length then target
  else { target with wrBuffer := target.wrBuffer ++ [val], acked := target.acked ++ [val] }

def readRequested (target : I2cTarget) (collect : Bool) : I2cTarget :=
  let target := { target with bus := .reading, skipMsgWr := target.skipMsgWr || !collect }
  if target.rdMsg.length = 0 then target else { target with rdBufferIdx := 1 }

def readProcessed (target : I2cTarget) : I2cTarget :=
  if target.rdMsg.length = target.rdBufferIdx ∨ maxI2cTargetBuff ≤ target.rdBufferIdx then target
  else { target with rdBufferIdx := target.rdBufferIdx + 1 }

/-- `i2c_target_stop` with a message to put. -/
def putMessage (target : I2cTarget) (unregisters : Bool) : I2cTarget :=
  let acknowledged := { target with transactions := target.transactions ++ [target.acked] }
  if target.maxMsgs ≤ target.queue.length then acknowledged
  else
    let put := { acknowledged with queue := target.queue ++ [target.wrBuffer] }
    if put.queue.length = put.maxMsgs then put.unregister unregisters else put

/-- `i2c_target_stop`. -/
def stop (target : I2cTarget) (unregisters : Bool) : I2cTarget :=
  let after :=
    if target.wrBuffer = [] ∨ target.skipMsgWr = true then target
    else target.putMessage unregisters
  { after with rdBufferIdx := 0, wrBuffer := [], bus := .idle, acked := [] }

/-- The reader looks at the queue: a target is registered again when the queue was full. -/
def check (target : I2cTarget) : I2cTarget :=
  if target.queue.length + 1 = target.maxMsgs then { target with reader := .status }
  else target.giveBack true

def step (target : I2cTarget) : TargetEvent → Option I2cTarget
  | .writeRequested =>
    if target.hardware ∧ target.bus = .idle then some target.writeRequested else none
  | .writeReceived val =>
    if target.hardware ∧ target.bus = .writing then some (target.writeReceived val) else none
  | .readRequested collect =>
    if target.hardware then some (target.readRequested collect) else none
  | .readProcessed =>
    if target.hardware ∧ target.bus = .reading then some target.readProcessed else none
  | .stop unregisters =>
    if target.hardware ∧ target.bus ≠ .idle then some (target.stop unregisters) else none
  | .setRead buff => some { target with rdMsg := buff.take maxI2cTargetBuff }
  | .get buffLen =>
    match target.reader, target.queue with
    | .idle, message :: rest =>
      some { target with queue := rest, reader := .copied, copied := message.take buffLen }
    | _, _ => none
  | .check => if target.reader = .copied then some target.check else none
  | .checkStatus =>
    if target.reader = .status then
      some (if target.isRegister then target.giveBack false else { target with reader := .space })
    else none
  | .checkSpace =>
    if target.reader = .space then
      some (if target.queue.length = target.maxMsgs then target.giveBack false
        else { target with reader := .hardware })
    else none
  | .registerHardware registers =>
    if target.reader = .hardware then
      some (if registers then { target with hardware := true, reader := .flag }
        else target.giveBack false)
    else none
  | .setFlag =>
    if target.reader = .flag then
      some ({ target with isRegister := true }.giveBack true)
    else none

/-! ## What the reader is promised -/

/-- A message is put in the queue by the next `stop`. -/
def Putting (target : I2cTarget) : Prop := target.wrBuffer ≠ [] ∧ target.skipMsgWr = false

/-- The condition on an event. -/
def Undisturbed (target : I2cTarget) : TargetEvent → Prop
  | .stop unregisters =>
    target.Putting →
      target.reader ≠ .flag ∧ (target.queue.length + 1 = target.maxMsgs → unregisters = true)
  | .get buffLen => ∀ message ∈ target.queue.head?, message.length ≤ buffLen
  | .check => target.queue.length + 1 = target.maxMsgs → target.isRegister = false
  | .registerHardware registers => registers = true
  | _ => True

instance (target : I2cTarget) : Decidable target.Putting :=
  inferInstanceAs (Decidable (_ ∧ _))

instance (target : I2cTarget) : (event : TargetEvent) → Decidable (target.Undisturbed event)
  | .stop _ => inferInstanceAs (Decidable (_ → _ ∧ (_ → _)))
  | .get _ => inferInstanceAs (Decidable (∀ message ∈ _, _))
  | .check => inferInstanceAs (Decidable (_ → _))
  | .registerHardware _ => inferInstanceAs (Decidable (_ = _))
  | .writeRequested | .writeReceived _ | .readRequested _ | .readProcessed | .setRead _
  | .checkStatus | .checkSpace | .setFlag => .isTrue trivial

def held (target : I2cTarget) : List (List UInt8) :=
  if target.reader = .idle then [] else [target.copied]

/-- Every acknowledged message reaches the reader, and the target answers while there is room. -/
structure Delivers (target : I2cTarget) : Prop where
  exact : target.transactions =
    target.returned.map Returned.bytes ++ target.held ++ target.queue
  success : ∀ message ∈ target.returned, message.ok = true
  full : target.queue.length = target.maxMsgs → target.hardware = false ∧ target.isRegister = false
  room : target.reader = .idle → target.queue.length < target.maxMsgs →
    target.hardware = true ∧ target.isRegister = true

/-- What the reader may rely on where it is. -/
def Stands (target : I2cTarget) : Prop :=
  match target.reader with
  | .idle => True
  | .copied =>
    target.hardware = true ∧ target.isRegister = true ∧ target.queue.length < target.maxMsgs ∨
      target.hardware = false ∧ target.isRegister = false ∧
        target.maxMsgs ≤ target.queue.length + 1
  | .status | .space | .hardware =>
    target.hardware = false ∧ target.isRegister = false ∧
      target.queue.length + 1 = target.maxMsgs
  | .flag =>
    target.hardware = true ∧ target.isRegister = false ∧
      target.queue.length + 1 = target.maxMsgs

/-- What holds in every state. -/
structure Invariant (target : I2cTarget) : Prop where
  delivers : target.Delivers
  fits : target.queue.length ≤ target.maxMsgs
  buffered : target.bus ≠ .idle → target.wrBuffer = target.acked
  settled : target.bus = .idle → target.wrBuffer = [] ∧ target.acked = []
  phase : target.Stands

theorem invariant_init (maxMsgs : Nat) : (init maxMsgs).Invariant where
  delivers :=
    { exact := rfl
      success := fun _ listed => absurd listed not_mem_nil
      full := fun full => by
        have none : ¬ 0 < maxMsgs := by
          simp only [init, length_nil] at full
          omega
        simp [init, none]
      room := fun _ room => by
        have some' : 0 < maxMsgs := room
        simp [init, some'] }
  fits := Nat.zero_le _
  buffered := fun busy => absurd rfl busy
  settled := fun _ => ⟨rfl, rfl⟩
  phase := trivial

variable {target next : I2cTarget}

theorem Invariant.room (holds : target.Invariant) (answers : target.hardware = true) :
    target.queue.length < target.maxMsgs := by
  have fits := holds.fits
  have full := holds.delivers.full
  by_contra none
  have silent := (full (by omega)).1
  simp [silent] at answers

theorem Invariant.of_bus (holds : target.Invariant) (maxMsgs : next.maxMsgs = target.maxMsgs)
    (queue : next.queue = target.queue) (hardware : next.hardware = target.hardware)
    (isRegister : next.isRegister = target.isRegister) (reader : next.reader = target.reader)
    (copied : next.copied = target.copied) (transactions : next.transactions = target.transactions)
    (returned : next.returned = target.returned)
    (buffered : next.bus ≠ .idle → next.wrBuffer = next.acked)
    (settled : next.bus = .idle → next.wrBuffer = [] ∧ next.acked = []) : next.Invariant where
  delivers :=
    { exact := by
        rw [transactions, returned, queue, held, reader, copied]
        exact holds.delivers.exact
      success := by
        rw [returned]
        exact holds.delivers.success
      full := by
        rw [queue, maxMsgs, hardware, isRegister]
        exact holds.delivers.full
      room := by
        rw [reader, queue, maxMsgs, hardware, isRegister]
        exact holds.delivers.room }
  fits := by
    rw [queue, maxMsgs]
    exact holds.fits
  buffered := buffered
  settled := settled
  phase := by
    have phase := holds.phase
    unfold Stands at phase ⊢
    rw [reader, queue, maxMsgs, hardware, isRegister]
    exact phase

theorem Invariant.registered (holds : target.Invariant) (answers : target.hardware = true)
    (still : target.reader ≠ .flag) : target.isRegister = true := by
  have phase := holds.phase
  have room := holds.room answers
  unfold Stands at phase
  cases reader : target.reader with
  | idle => exact (holds.delivers.room reader room).2
  | copied =>
    simp only [reader] at phase
    rcases phase with open' | shut
    · exact open'.2.1
    · exact absurd (answers.symm.trans shut.1) (by simp)
  | status | space | hardware =>
    simp only [reader] at phase
    exact absurd (answers.symm.trans phase.1) (by simp)
  | flag => exact absurd reader still

theorem Invariant.putMessage (holds : target.Invariant) (answers : target.hardware = true)
    (busy : target.bus ≠ .idle) {unregisters : Bool} (still : target.reader ≠ .flag)
    (succeeds : target.queue.length + 1 = target.maxMsgs → unregisters = true) :
    ({ target.putMessage unregisters with
      rdBufferIdx := 0, wrBuffer := [], bus := .idle, acked := [] } : I2cTarget).Invariant := by
  have room := holds.room answers
  have registered := holds.registered answers still
  have exact' := holds.delivers.exact
  have same := holds.buffered busy
  have phase := holds.phase
  rw [I2cTarget.putMessage, if_neg (by omega)]
  simp only [length_append, length_cons, length_nil, Nat.zero_add]
  by_cases fills : target.queue.length + 1 = target.maxMsgs
  · rw [if_pos fills, unregister, if_pos (by simp [registered, succeeds fills])]
    refine ⟨⟨?_, holds.delivers.success, fun _ => ⟨rfl, rfl⟩, fun _ less => ?_⟩, ?_,
      fun busy => absurd rfl busy, fun _ => ⟨rfl, rfl⟩, ?_⟩
    · simp only [exact', held, same, append_assoc]
    · simp only [length_append, length_cons, length_nil] at less
      omega
    · simp only [length_append, length_cons, length_nil]
      omega
    · unfold Stands at phase ⊢
      cases reader : target.reader with
      | idle => trivial
      | copied =>
        refine .inr ⟨rfl, rfl, ?_⟩
        simp only [length_append, length_cons, length_nil]
        omega
      | status | space | hardware =>
        simp only [reader] at phase
        exact absurd (answers.symm.trans phase.1) (by simp)
      | flag => exact absurd reader still
  · rw [if_neg fills]
    refine ⟨⟨?_, holds.delivers.success, fun full => ?_, fun _ _ => ⟨answers, registered⟩⟩, ?_,
      fun busy => absurd rfl busy, fun _ => ⟨rfl, rfl⟩, ?_⟩
    · simp only [exact', held, same, append_assoc]
    · simp only [length_append, length_cons, length_nil] at full
      omega
    · simp only [length_append, length_cons, length_nil]
      omega
    · unfold Stands at phase ⊢
      cases reader : target.reader with
      | idle => trivial
      | copied =>
        refine .inl ⟨answers, registered, ?_⟩
        simp only [length_append, length_cons, length_nil]
        omega
      | status | space | hardware =>
        simp only [reader] at phase
        exact absurd (answers.symm.trans phase.1) (by simp)
      | flag => exact absurd reader still

theorem Invariant.stop (holds : target.Invariant) (answers : target.hardware = true)
    (busy : target.bus ≠ .idle) {unregisters : Bool}
    (undisturbed : target.Undisturbed (.stop unregisters)) :
    (target.stop unregisters).Invariant := by
  unfold I2cTarget.stop
  by_cases empty : target.wrBuffer = [] ∨ target.skipMsgWr = true
  · rw [if_pos empty]
    exact holds.of_bus rfl rfl rfl rfl rfl rfl rfl rfl (fun busy => absurd rfl busy)
      fun _ => ⟨rfl, rfl⟩
  · rw [if_neg empty]
    rw [not_or] at empty
    have putting : target.Putting := ⟨empty.1, by simpa using empty.2⟩
    obtain ⟨still, succeeds⟩ := undisturbed putting
    exact holds.putMessage answers busy still succeeds

theorem Invariant.get (holds : target.Invariant) (idle : target.reader = .idle)
    {message : List UInt8} {rest : List (List UInt8)} (queued : target.queue = message :: rest)
    {buffLen : Nat} (fitting : message.length ≤ buffLen) :
    ({ target with queue := rest, reader := .copied, copied := message.take buffLen } :
      I2cTarget).Invariant := by
  have fits := holds.fits
  have exact' := holds.delivers.exact
  have full := holds.delivers.full
  have room := holds.delivers.room idle
  rw [queued, length_cons] at fits full room
  refine ⟨⟨?_, holds.delivers.success, fun full => ?_, fun reading => absurd reading (by simp)⟩, ?_,
    holds.buffered, holds.settled, ?_⟩
  · simp only [held, idle, if_true, append_nil] at exact'
    simp only [held, reduceCtorEq, if_false, exact', queued, take_of_length_le fitting,
      append_assoc, cons_append, nil_append]
  · simp only at full
    omega
  · simp only
    omega
  · unfold Stands
    simp only
    by_cases open' : rest.length + 1 < target.maxMsgs
    · obtain ⟨answers, registered⟩ := room open'
      exact .inl ⟨answers, registered, by omega⟩
    · obtain ⟨silent, unregistered⟩ := full (by omega)
      exact .inr ⟨silent, unregistered, by omega⟩

theorem Invariant.giveBack (holds : target.Invariant) (reading : target.reader ≠ .idle)
    (room : target.queue.length < target.maxMsgs →
      target.hardware = true ∧ target.isRegister = true) : (target.giveBack true).Invariant where
  delivers :=
    { exact := by
        have exact' := holds.delivers.exact
        simp only [held, if_neg reading] at exact'
        simp only [I2cTarget.giveBack, held, if_true, exact', map_append, map_cons,
          map_nil, append_nil]
      success := by
        intro message listed
        rcases List.mem_append.mp listed with before | now
        · exact holds.delivers.success message before
        · obtain rfl := List.mem_singleton.mp now
          rfl
      full := holds.delivers.full
      room := fun _ => room }
  fits := holds.fits
  buffered := holds.buffered
  settled := holds.settled
  phase := trivial

theorem Invariant.of_phase (holds : target.Invariant) (reading : target.reader ≠ .idle)
    {phase : ReadPhase} (onward : phase ≠ .idle)
    (stands : ({ target with reader := phase } : I2cTarget).Stands) :
    ({ target with reader := phase } : I2cTarget).Invariant where
  delivers :=
    { exact := by
        have exact' := holds.delivers.exact
        simp only [held, if_neg reading] at exact'
        simp only [held, if_neg onward]
        exact exact'
      success := holds.delivers.success
      full := holds.delivers.full
      room := fun idle => absurd idle onward }
  fits := holds.fits
  buffered := holds.buffered
  settled := holds.settled
  phase := stands

theorem Invariant.check (holds : target.Invariant) (copied : target.reader = .copied)
    (undisturbed : target.Undisturbed .check) : target.check.Invariant := by
  have phase := holds.phase
  simp only [Stands, copied] at phase
  have reading : target.reader ≠ .idle := by simp [copied]
  unfold I2cTarget.check
  split
  · rename_i one
    have unregistered := undisturbed one
    apply holds.of_phase reading (by simp)
    rcases phase with open' | shut
    · exact absurd (unregistered.symm.trans open'.2.1) (by simp)
    · exact ⟨shut.1, unregistered, one⟩
  · apply holds.giveBack reading
    intro room
    rcases phase with open' | shut
    · exact ⟨open'.1, open'.2.1⟩
    · omega

/-- Every step that meets the condition keeps the invariant. -/
theorem invariant_step {event : TargetEvent} (holds : target.Invariant)
    (undisturbed : target.Undisturbed event) (moved : target.step event = some next) :
    next.Invariant := by
  have phase := holds.phase
  unfold Stands at phase
  cases event with
  | writeRequested =>
    obtain ⟨-, moved⟩ := Option.ite_none_right_eq_some.mp moved
    cases moved
    exact holds.of_bus rfl rfl rfl rfl rfl rfl rfl rfl (fun _ => rfl) fun idle =>
      absurd idle (by simp [I2cTarget.writeRequested])
  | writeReceived val =>
    obtain ⟨⟨-, writing⟩, moved⟩ := Option.ite_none_right_eq_some.mp moved
    cases moved
    unfold I2cTarget.writeReceived
    split
    · exact holds
    · refine holds.of_bus rfl rfl rfl rfl rfl rfl rfl rfl (fun busy => ?_) fun idle => ?_
      · simp only [holds.buffered busy]
      · exact absurd (writing.symm.trans idle) (by simp)
  | readRequested collect =>
    obtain ⟨-, moved⟩ := Option.ite_none_right_eq_some.mp moved
    cases moved
    have same : target.wrBuffer = target.acked := by
      by_cases idle : target.bus = .idle
      · obtain ⟨empty, none⟩ := holds.settled idle
        rw [empty, none]
      · exact holds.buffered idle
    simp only [I2cTarget.readRequested]
    split
    · exact holds.of_bus rfl rfl rfl rfl rfl rfl rfl rfl (fun _ => same) fun idle =>
        absurd idle (by simp)
    · exact holds.of_bus rfl rfl rfl rfl rfl rfl rfl rfl (fun _ => same) fun idle =>
        absurd idle (by simp)
  | readProcessed =>
    obtain ⟨-, moved⟩ := Option.ite_none_right_eq_some.mp moved
    cases moved
    unfold I2cTarget.readProcessed
    split
    · exact holds
    · exact holds.of_bus rfl rfl rfl rfl rfl rfl rfl rfl holds.buffered holds.settled
  | stop unregisters =>
    obtain ⟨⟨answers, busy⟩, moved⟩ := Option.ite_none_right_eq_some.mp moved
    cases moved
    exact holds.stop answers busy undisturbed
  | setRead buff =>
    cases moved
    exact holds.of_bus rfl rfl rfl rfl rfl rfl rfl rfl holds.buffered holds.settled
  | get buffLen =>
    simp only [step] at moved
    split at moved
    · rename_i message rest idle queued
      cases moved
      exact holds.get idle queued (undisturbed message (by rw [queued]; rfl))
    · cases moved
  | check =>
    obtain ⟨copied, moved⟩ := Option.ite_none_right_eq_some.mp moved
    cases moved
    exact holds.check copied undisturbed
  | checkStatus =>
    obtain ⟨reading, moved⟩ := Option.ite_none_right_eq_some.mp moved
    cases moved
    simp only [reading] at phase
    rw [if_neg (by simp [phase.2.1])]
    exact holds.of_phase (by simp [reading]) (by simp) phase
  | checkSpace =>
    obtain ⟨reading, moved⟩ := Option.ite_none_right_eq_some.mp moved
    cases moved
    simp only [reading] at phase
    rw [if_neg (by omega)]
    exact holds.of_phase (by simp [reading]) (by simp) phase
  | registerHardware registers =>
    obtain ⟨reading, moved⟩ := Option.ite_none_right_eq_some.mp moved
    cases moved
    simp only [reading] at phase
    have registers' : registers = true := undisturbed
    rw [if_pos registers']
    have reading' : target.reader ≠ .idle := by simp [reading]
    refine ⟨⟨?_, holds.delivers.success, fun full => ?_, fun idle => absurd idle (by simp)⟩,
      holds.fits, holds.buffered, holds.settled, ⟨rfl, phase.2.1, phase.2.2⟩⟩
    · have exact' := holds.delivers.exact
      simp only [held, if_neg reading'] at exact'
      exact exact'
    · simp only at full
      omega
  | setFlag =>
    obtain ⟨reading, moved⟩ := Option.ite_none_right_eq_some.mp moved
    cases moved
    simp only [reading] at phase
    have reading' : target.reader ≠ .idle := by simp [reading]
    have exact' := holds.delivers.exact
    simp only [held, if_neg reading'] at exact'
    refine ⟨⟨?_, ?_, fun full => ?_, fun _ _ => ⟨phase.1, rfl⟩⟩, holds.fits, holds.buffered,
      holds.settled, trivial⟩
    · simp only [I2cTarget.giveBack, held, if_true, exact', map_append, map_cons,
        map_nil, append_nil]
    · intro message listed
      rcases List.mem_append.mp listed with before | now
      · exact holds.delivers.success message before
      · obtain rfl := List.mem_singleton.mp now
        rfl
    · simp only [I2cTarget.giveBack] at full
      omega

/-- In every run whose steps meet the condition, every acknowledged message reaches the reader once,
in order and with success, and the target answers while there is room for a message. -/
theorem delivers_run {maxMsgs : Nat} {events : List TargetEvent} {final : I2cTarget}
    (undisturbed : Meets step Undisturbed (init maxMsgs) events)
    (ran : run step (init maxMsgs) events = some final) : final.Delivers := by
  have kept : ∀ {target event next}, Invariant target → Undisturbed target event →
      step target event = some next → Invariant next := invariant_step
  exact (invariant kept (invariant_init maxMsgs) undisturbed ran).delivers

/-- A queue of two is filled while the reader waits, and read out again. -/
def fillAndRead : List TargetEvent :=
  [.writeRequested, .writeReceived 1, .stop true, .writeRequested, .writeReceived 2,
    .readRequested true, .stop true, .get 8, .check, .checkStatus, .checkSpace,
    .registerHardware true, .setFlag, .get 8, .check]

/-- A queue of two that is filled and read. -/
theorem delivers_run_fillAndRead :
    ∃ final, run step (init 2) fillAndRead = some final ∧
      final.returned = [⟨[1], true⟩, ⟨[2], true⟩] ∧ final.Delivers := by
  have reached : ∃ final ∈ run step (init 2) fillAndRead,
      final.returned = [⟨[1], true⟩, ⟨[2], true⟩] := by decide +kernel
  obtain ⟨final, ran, returned⟩ := reached
  exact ⟨final, ran, returned, delivers_run (by decide +kernel) ran⟩

/-- A message arrives between the dequeue and the look at the queue. -/
def arrivesBetween : List TargetEvent :=
  [.writeRequested, .writeReceived 1, .stop true, .get 8, .writeRequested, .writeReceived 2,
    .stop true, .check, .checkStatus]

/-- The reader has its message, and is told that the call failed. -/
theorem arrivesBetween_fails :
    ∃ final, run step (init 2) arrivesBetween = some final ∧ ¬ final.Delivers := by
  have reached : ∃ final ∈ run step (init 2) arrivesBetween,
      ⟨[1], false⟩ ∈ final.returned := by decide +kernel
  obtain ⟨final, ran, failed⟩ := reached
  refine ⟨final, ran, fun delivers => ?_⟩
  exact absurd (delivers.success _ failed) (by simp)

end I2cTarget

end OpenBic.Hal
