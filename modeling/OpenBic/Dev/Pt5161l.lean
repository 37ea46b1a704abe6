import OpenBic.Library.Trace

/-!
# Access to the PT5161L retimer

The block transfers of `pt5161l.c` and three operations under `pt5161l_mutex`: the indirect read of
the SRAM, the read of the calibration codes, and that of the temperature. Every transfer can fail
and every read can give anything; what an operation does is the log that it leaves.
-/

namespace OpenBic.Dev.Pt5161l

open List Library.Talk
open Library.Trace

/-! ## Transfers -/

/-- What happens to the bus, to the mutex and to the caller's array. -/
inductive Entry where
  | wrote (data : List UInt8)
  | read (command : UInt8) (bytes : Nat → UInt8)
  | failed
  | stored (byte : UInt8)
  | locked
  | refused
  | unlocked

/-- The retimer, and whether the mutex can be locked in time. -/
structure Parties where
  answers : List Entry → List UInt8 → Option (Nat → UInt8)
  lockable : List Entry → Bool

abbrev Port := World Parties Entry

/-- `i2c_master_write`. -/
def send (data : List UInt8) : Program Port Unit :=
  emit fun parties log => match parties.answers log data with
    | some _ => (some (), .wrote data)
    | none => (none, .failed)

/-- `i2c_master_read`. -/
def receive (command : UInt8) : Program Port (Nat → UInt8) :=
  emit fun parties log => match parties.answers log [command] with
    | some bytes => (some bytes, .read command bytes)
    | none => (none, .failed)

/-- `k_mutex_lock`. -/
def lock : Program Port Unit :=
  emit fun parties log => if parties.lockable log then (some (), .locked) else (none, .refused)

def unlock : Program Port Unit := note .unlocked

def store (byte : UInt8) : Program Port Unit := note (.stored byte)

def lowerAddr (address : Nat) : UInt8 := .ofNat (address % 256)

def upperAddr (address : Nat) : UInt8 := .ofNat (address / 256 % 256)

def writeData (address numBytes : Nat) (values : Nat → UInt8) : List UInt8 :=
  [7, .ofNat (2 + numBytes), lowerAddr address, upperAddr address] ++
    (List.range numBytes).map values

def writeChunks : Nat → Nat → Nat → (Nat → UInt8) → Program Port Unit
  | 0, _, _, _ => pure ()
  | count + 1, address, numBytes, values => do
    send (writeData address (min 4 numBytes) values)
    writeChunks count (address + 4) (numBytes - 4) fun index => values (index + 4)

/-- `pt5161l_write_block_data`, four bytes at a time. -/
def writeBlockData (address numBytes : Nat) (values : Nat → UInt8) : Program Port Unit :=
  if 0xffff < address then failure else writeChunks ((numBytes + 3) / 4) address numBytes values

def readChunks : Nat → Nat → Program Port (Nat → UInt8)
  | 0, _ => pure fun _ => 0
  | count + 1, address => do
    send [2, 2, lowerAddr address, upperAddr address]
    let bytes ← receive 1
    let rest ← readChunks count (address + 4)
    pure fun index => if index < 4 then bytes (3 + index) else rest (index - 4)

/-- `pt5161l_read_block_data`, four bytes at a time. -/
def readBlockData (address numBytes : Nat) : Program Port (Nat → UInt8) :=
  if 0xffff < address then failure else readChunks ((numBytes + 3) / 4) address

def writeByteData (address : Nat) (byte : UInt8) : Program Port Unit :=
  writeBlockData address 1 fun _ => byte

def readByteData (address : Nat) : Program Port UInt8 := do
  let values ← readBlockData address 1
  pure (values 0)

/-! ## Operations -/

/-- `PT5161L_MAIN_MICRO_INDIRECT`, the structure that all indirect reads use. -/
def mainMicroIndirect : Nat := 0xd99

def mainSramDmemOffset : Nat := 64 * 1024

def maxRetry : Nat := 5

/-- The address of a byte behind the offset, as the retimer is told it. -/
def eepromAccAddr (eepromOffset byteIndex : Nat) : Nat :=
  (eepromOffset + byteIndex + (2 ^ 32 - mainSramDmemOffset)) % 2 ^ 32

def pollCommand : Nat → Program Port Bool
  | 0 => pure false
  | count + 1 => do
    let rdata ← readByteData (mainMicroIndirect + 4)
    if rdata &&& 2 = 0 then pure true else pollCommand count

def addrByte (address index : Nat) : UInt8 := .ofNat (address / 256 ^ index % 256)

/-- The indirect read of a byte; `false` when the command was not executed in time. -/
def readIndirect (address : Nat) : Program Port Bool := do
  writeBlockData mainMicroIndirect 3 (addrByte address)
  writeByteData (mainMicroIndirect + 4) 0x16
  let executed ← pollCommand maxRetry
  if executed then do
    let rdata ← readByteData (mainMicroIndirect + 3)
    store rdata
    pure true
  else pure false

def readIndirects (eepromOffset : Nat) : Nat → Nat → Program Port Unit
  | _, 0 => pure ()
  | byteIndex, count + 1 => do
    let executed ← readIndirect (eepromAccAddr eepromOffset byteIndex)
    if executed then readIndirects eepromOffset (byteIndex + 1) count else pure ()

/-- A body between the lock of the mutex and the label that unlocks it. -/
def underMutex {α : Type} (body : Program Port α) : Program Port (Option α) := do
  lock
  let outcome ← body.attempt
  unlock
  pure outcome

/-- `pt5161l_read_block_data_to_sram`, under the mutex. -/
def readBlockDataToSram (eepromOffset numBytes : Nat) : Program Port Unit := do
  let outcome ← underMutex (readIndirects eepromOffset 0 numBytes)
  match outcome with
  | some _ => if numBytes = 0 then failure else pure ()
  | none => failure

def modifyBlock (address numBytes index : Nat) (change : UInt8 → UInt8) : Program Port Unit := do
  let values ← readBlockData address numBytes
  writeBlockData address numBytes fun other =>
    if other = index then change (values other) else values other

def readFuse (page : UInt8) : Program Port UInt8 := do
  writeByteData 0x8f6 page
  readByteData 0x8f7

def defaultCalCode : UInt8 := 84

def calCode (flag page : UInt8) : Program Port UInt8 :=
  if flag &&& 4 = 0 then pure defaultCalCode
  else do
    let code ← readFuse page
    pure (if code = 0 then defaultCalCode else code)

def calCodes (flag base : UInt8) : List UInt8 → Program Port (List UInt8)
  | [] => pure []
  | index :: rest => do
    let code ← calCode flag (base + index * 4)
    store code
    let codes ← calCodes flag base rest
    pure (code :: codes)

def average (codes : List UInt8) : UInt8 :=
  .ofNat (((codes.map UInt8.toNat).sum + 8 / 2) / 8 % 256)

/-- The load of the eFuse; the offset of its valid page and the flag of its codes. -/
def loadFuse : Program Port (UInt8 × UInt8) := do
  modifyBlock 0x8ec 5 3 (· ||| 2)
  modifyBlock 0x8f6 1 0 (· ||| 0x80)
  modifyBlock 0x8ec 5 3 (· ||| 1)
  modifyBlock 0x8ec 5 3 (· &&& 0xfe)
  modifyBlock 0x8f6 1 0 (· &&& 0x7f)
  let invalid ← readFuse 63
  let offset : UInt8 := if invalid &&& 0x80 = 0 then 0 else 64
  let flag ← readFuse (48 + offset)
  pure (offset, flag)

/-- What `get_temp_calibration_codes` does under the mutex; `false` where it returns at once. -/
def calibrate : Program Port Bool := do
  let loaded ← loadFuse
  let pmaA ← calCodes loaded.2 (34 + loaded.1) [0, 1, 2, 3]
  -- The failures of the second PMA do not go to the label that unlocks.
  let outcome ← (calCodes loaded.2 (32 + loaded.1) [0, 1, 2, 3]).attempt
  match outcome with
  | none => pure false
  | some pmaB => do
    store (average (pmaA ++ pmaB))
    pure true

/-- `get_temp_calibration_codes`, under the mutex. -/
def getTempCalibrationCodes : Program Port Unit := do
  lock
  let outcome ← calibrate.attempt
  match outcome with
  | some false => failure
  | some true => unlock
  | none => do
    unlock
    failure

def tempOffset : Nat := 0x42c

def adcCode (values : Nat → UInt8) : Int :=
  Int.bmod ((values 3).toNat * 2 ^ 24 + (values 2).toNat * 2 ^ 16 + (values 1).toNat * 2 ^ 8 +
    (values 0).toNat) (2 ^ 32)

/-- How a reading ends. -/
inductive Status where
  | readSuccess
  | unspecifiedError
  | notAccessible

/-- The middle one of three codes after `sort_bubble`. -/
def median (first second third : Int) : Int :=
  max (min first second) (min (max first second) third)

/-- The temperature in hundredths of a degree, where the code stands for one. -/
def temperature (tempCalCodeAvg : UInt8) (adc : Int) : Status × Option Int :=
  if adc = -1 then (.notAccessible, none)
  else if adc = 0 ∨ 0x3FF ≤ adc then (.notAccessible, none)
  else (.readSuccess, some (11000 - (adc - (tempCalCodeAvg.toNat + 250)) * 32))

def readTemps : Program Port Int := do
  let first ← readBlockData tempOffset 4
  let second ← readBlockData tempOffset 4
  let third ← readBlockData tempOffset 4
  pure (median (adcCode first) (adcCode second) (adcCode third))

def readAvgTemp (tempCalCodeAvg : UInt8) : Program Port (Status × Option Int) := do
  let outcome ← (underMutex readTemps).attempt
  match outcome with
  | some (some adc) => pure (temperature tempCalCodeAvg adc)
  | _ => pure (.unspecifiedError, none)

/-! ## What block transfers leave -/

def written (address : Nat) (byte : UInt8) : Entry := .wrote (writeData address 1 fun _ => byte)

def readBack (address : Nat) (bytes : Nat → UInt8) : List Entry :=
  [.wrote [2, 2, lowerAddr address, upperAddr address], .read 1 bytes]

def Entry.isTransfer : Entry → Bool
  | .wrote _ | .read _ _ | .failed => true
  | _ => false

def Entry.plain : Entry → Bool
  | .wrote _ | .read _ _ | .stored _ => true
  | _ => false

def transfers (entries : List Entry) : List Entry := entries.filter Entry.isTransfer

theorem transfers_append (front back : List Entry) :
    transfers (front ++ back) = transfers front ++ transfers back := filter_append ..

/-- No entry locks, unlocks or fails. -/
def Free (entries : List Entry) : Prop := ∀ entry ∈ entries, entry.plain = true

theorem Free.append {front back : List Entry} (first : Free front) (second : Free back) :
    Free (front ++ back) := fun entry there =>
  (List.mem_append.mp there).elim (first entry) (second entry)

/-- The last transfer fails. -/
def Broken (entries : List Entry) : Prop := ∃ front, entries = front ++ [.failed] ∧ Free front

theorem Broken.append {front back : List Entry} (broken : Broken back) (first : Free front) :
    Broken (front ++ back) := by
  obtain ⟨middle, rfl, free⟩ := broken
  exact ⟨front ++ middle, (append_assoc ..).symm, first.append free⟩

theorem send_runs (data : List UInt8) :
    Runs (send data) (fun _ entries => entries = [.wrote data]) fun entries =>
      entries = [.failed] := by
  refine .emit (fun parties log value met => ?_) fun parties log met => ?_
  · cases answer : parties.answers log data with
    | none => simp only [answer, reduceCtorEq] at met
    | some bytes => rfl
  · cases answer : parties.answers log data with
    | none => rfl
    | some bytes => simp only [answer, reduceCtorEq] at met

theorem receive_runs (command : UInt8) :
    Runs (receive command) (fun bytes entries => entries = [.read command bytes]) fun entries =>
      entries = [.failed] := by
  refine .emit (fun parties log value met => ?_) fun parties log met => ?_
  · cases answer : parties.answers log [command] with
    | none => simp only [answer, reduceCtorEq] at met
    | some bytes =>
      simp only [answer, Option.some.injEq] at met
      rw [met]
  · cases answer : parties.answers log [command] with
    | none => rfl
    | some bytes => simp only [answer, reduceCtorEq] at met

/-- A program makes so many transfers, or stops at one of them. -/
def Counted {α : Type} (program : Program Port α) (count : Nat) : Prop :=
  Runs program (fun _ entries => (transfers entries).length = count ∧ Free entries) fun entries =>
    ∃ front, entries = front ++ [.failed] ∧ (transfers front).length < count ∧ Free front

section Counting

variable {α β : Type} {program : Program Port α} {next : α → Program Port β}

theorem free_singleton {entry : Entry} (free : entry.plain = true) : Free [entry] :=
  fun _ there => List.mem_singleton.mp there ▸ free

theorem Counted.bind {first second : Nat} (front : Counted program first)
    (back : ∀ value, Counted (next value) second) :
    Counted (program >>= next) (first + second) := by
  refine Runs.bind front back ?_ ?_ ?_
  · intro value before last after counted then_
    rw [transfers_append, length_append, counted.1, then_.1]
    exact ⟨rfl, counted.2.append then_.2⟩
  · rintro entries ⟨before, rfl, few, free⟩
    exact ⟨before, rfl, by omega, free⟩
  · rintro value before entries counted ⟨after, rfl, few, free⟩
    refine ⟨before ++ after, (append_assoc ..).symm, ?_, counted.2.append free⟩
    rw [transfers_append, length_append, counted.1]
    omega

theorem Counted.pure (value : α) : Counted (pure value : Program Port α) 0 :=
  (Runs.pure value).mono (fun _ _ ended => by rw [ended.2]; exact ⟨rfl, nofun⟩) nofun

theorem counted_send (data : List UInt8) : Counted (send data) 1 :=
  (send_runs data).mono (fun _ _ ended => by rw [ended]; exact ⟨rfl, free_singleton rfl⟩)
    fun _ failed => ⟨[], failed, Nat.zero_lt_one, nofun⟩

theorem counted_receive (command : UInt8) : Counted (receive command) 1 :=
  (receive_runs command).mono (fun _ _ ended => by rw [ended]; exact ⟨rfl, free_singleton rfl⟩)
    fun _ failed => ⟨[], failed, Nat.zero_lt_one, nofun⟩

theorem counted_note {entry : Entry} (free : entry.plain = true)
    (local_ : entry.isTransfer = false) : Counted (note entry : Program Port Unit) 0 := by
  refine (Runs.note entry).mono (fun _ _ ended => ?_) nofun
  rw [ended, transfers, filter_cons_of_neg (by rw [local_]; exact nofun)]
  exact ⟨rfl, free_singleton free⟩

theorem counted_writeChunks (count address numBytes : Nat) (values : Nat → UInt8) :
    Counted (writeChunks count address numBytes values) count := by
  induction count generalizing address numBytes values with
  | zero => exact .pure _
  | succ count ih =>
    have both : count + 1 = 1 + count := Nat.add_comm ..
    unfold writeChunks
    rw [both]
    exact (counted_send _).bind fun _ => ih _ _ _

variable {address : Nat}

theorem counted_writeBlockData (inside : address ≤ 0xffff) (numBytes : Nat) (values : Nat → UInt8) :
    Counted (writeBlockData address numBytes values) ((numBytes + 3) / 4) := by
  unfold writeBlockData
  rw [if_neg (Nat.not_lt.mpr inside)]
  exact counted_writeChunks _ _ _ _

theorem counted_readChunks (count address : Nat) :
    Counted (readChunks count address) (2 * count) := by
  induction count generalizing address with
  | zero => exact .pure _
  | succ count ih =>
    have both : 2 * (count + 1) = 1 + (1 + (2 * count + 0)) := by omega
    rw [both]
    exact (counted_send _).bind fun _ => (counted_receive _).bind fun _ =>
      (ih _).bind fun _ => .pure _

theorem counted_readBlockData (inside : address ≤ 0xffff) (numBytes : Nat) :
    Counted (readBlockData address numBytes) (2 * ((numBytes + 3) / 4)) := by
  unfold readBlockData
  rw [if_neg (Nat.not_lt.mpr inside)]
  exact counted_readChunks _ _

theorem counted_readByteData (inside : address ≤ 0xffff) : Counted (readByteData address) 2 :=
  (counted_readBlockData inside 1).bind fun _ => .pure _

/-- A program stops at a transfer that fails only. -/
def Clean (program : Program Port α) : Prop :=
  Runs program (fun _ entries => Free entries) Broken

theorem Counted.clean {count : Nat} (counted : Counted program count) : Clean program :=
  Runs.mono counted (fun _ _ ended => ended.2) fun _ ⟨front, failed, _, free⟩ =>
    ⟨front, failed, free⟩

theorem Clean.bind (front : Clean program) (back : ∀ value, Clean (next value)) :
    Clean (program >>= next) :=
  Runs.bind front back (fun _ _ _ _ first second => first.append second) (fun _ => id)
    fun _ _ _ first second => second.append first

theorem Clean.pure (value : α) : Clean (pure value : Program Port α) := (Counted.pure value).clean

end Counting

variable {address : Nat} {entries : List Entry}

theorem writeBlockData_leaves (inside : address ≤ 0xffff) {numBytes : Nat}
    (some : 0 < numBytes) (few : numBytes ≤ 4) (values : Nat → UInt8) :
    Leaves (writeBlockData address numBytes values) fun _ entries =>
      entries = [.wrote (writeData address numBytes values)] := by
  have one : (numBytes + 3) / 4 = 1 := by omega
  unfold writeBlockData
  rw [if_neg (Nat.not_lt.mpr inside), one]
  refine (send_runs _).leaves.bind fun _ => .pure ?_
  rintro front rfl
  rw [Nat.min_eq_right few]
  rfl

theorem writeByteData_leaves (inside : address ≤ 0xffff) (byte : UInt8) :
    Leaves (writeByteData address byte) fun _ entries => entries = [written address byte] :=
  writeBlockData_leaves inside Nat.zero_lt_one (by decide) _

theorem readBlockData_leaves (inside : address ≤ 0xffff) {numBytes : Nat}
    (some : 0 < numBytes) (few : numBytes ≤ 4) :
    Leaves (readBlockData address numBytes) fun values entries => ∃ bytes,
      entries = readBack address bytes ∧ ∀ index, index < 4 → values index = bytes (3 + index) := by
  have one : (numBytes + 3) / 4 = 1 := by omega
  unfold readBlockData
  rw [if_neg (Nat.not_lt.mpr inside), one]
  refine (send_runs _).leaves.bind fun _ => (receive_runs 1).leaves.bind fun bytes =>
    (@Leaves.pure _ _ _ (fun _ entries => entries = []) _ rfl).bind fun rest => .pure ?_
  rintro _ rfl _ rfl _ rfl
  exact ⟨bytes, rfl, fun index small => if_pos small⟩

theorem readByteData_leaves (inside : address ≤ 0xffff) :
    Leaves (readByteData address) fun byte entries => ∃ bytes,
      entries = readBack address bytes ∧ byte = bytes 3 := by
  refine (readBlockData_leaves inside Nat.zero_lt_one (by decide)).bind fun values => .pure ?_
  rintro front ⟨bytes, rfl, copies⟩
  exact ⟨bytes, append_nil _, copies 0 (by decide)⟩

/-! ## The indirect read -/

/-- The access has not ended. -/
def IsBusy (bytes : Nat → UInt8) : Prop := bytes 3 &&& 2 ≠ 0

def poll (bytes : Nat → UInt8) : List Entry := readBack (mainMicroIndirect + 4) bytes

/-- An indirect access: the address, the command, the polls, and the byte. -/
def Accessed (address : Nat) (entries : List Entry) : Prop :=
  ∃ (busy : List (Nat → UInt8)) (ready data : Nat → UInt8), busy.length < maxRetry ∧ (∀ bytes ∈ busy, IsBusy bytes) ∧ ¬ IsBusy ready ∧
    entries = .wrote (writeData mainMicroIndirect 3 (addrByte address)) ::
      written (mainMicroIndirect + 4) 0x16 :: busy.flatMap poll ++ poll ready ++
        readBack (mainMicroIndirect + 3) data ++ [.stored (data 3)]

/-- The device stays busy for every poll. -/
def Stuck (entries : List Entry) : Prop :=
  ∃ (front : List Entry) (busy : List (Nat → UInt8)), busy.length = maxRetry ∧ (∀ bytes ∈ busy, IsBusy bytes) ∧
    entries = front ++ busy.flatMap poll

/-- So many bytes are accessed, one after another. -/
def AllAccessed (eepromOffset : Nat) : Nat → Nat → List Entry → Prop
  | _, 0, entries => entries = []
  | byteIndex, count + 1, entries => ∃ front back, entries = front ++ back ∧
    Accessed (eepromAccAddr eepromOffset byteIndex) front ∧
    AllAccessed eepromOffset (byteIndex + 1) count back

/-- The polls end when the device is ready or when they are used up. -/
def Polled (count : Nat) (executed : Bool) (entries : List Entry) : Prop :=
  ∃ busy : List (Nat → UInt8), (∀ bytes ∈ busy, IsBusy bytes) ∧
    if executed = true then busy.length < count ∧ ∃ ready, ¬ IsBusy ready ∧
      entries = busy.flatMap poll ++ poll ready
    else busy.length = count ∧ entries = busy.flatMap poll

theorem pollCommand_leaves (count : Nat) : Leaves (pollCommand count) (Polled count) := by
  induction count with
  | zero => exact .pure ⟨[], nofun, rfl, rfl⟩
  | succ count ih =>
    refine (readByteData_leaves (by decide)).bind fun rdata => ?_
    by_cases ready : rdata &&& 2 = 0
    · rw [if_pos ready]
      refine .pure ?_
      rintro front ⟨bytes, rfl, rfl⟩
      exact ⟨[], nofun, Nat.succ_pos _, bytes, not_not.mpr ready, append_nil _⟩
    · rw [if_neg ready]
      refine ih.mono ?_
      rintro executed back ⟨busy, all, shape⟩ front ⟨bytes, rfl, rfl⟩
      refine ⟨bytes :: busy, List.forall_mem_cons.mpr ⟨ready, all⟩, ?_⟩
      cases executed with
      | true =>
        obtain ⟨few, last, free, rfl⟩ := shape
        exact ⟨Nat.succ_lt_succ few, last, free, (append_assoc ..).symm⟩
      | false =>
        obtain ⟨full, rfl⟩ := shape
        exact ⟨congrArg (· + 1) full, rfl⟩

theorem clean_pollCommand (count : Nat) : Clean (pollCommand count) := by
  induction count with
  | zero => exact .pure false
  | succ count ih =>
    refine (counted_readByteData (by decide)).clean.bind fun rdata => ?_
    split
    · exact .pure true
    · exact ih

theorem readIndirect_leaves (address : Nat) : Leaves (readIndirect address)
    fun executed entries => if executed = true then Accessed address entries else Stuck entries := by
  refine (writeBlockData_leaves (by decide) (by decide) (by decide) _).bind fun _ =>
    (writeByteData_leaves (by decide) _).bind fun _ =>
      (pollCommand_leaves maxRetry).bind fun executed => ?_
  cases executed with
  | true =>
    refine (readByteData_leaves (by decide)).bind fun rdata =>
      (Runs.note (Entry.stored rdata)).leaves.bind fun _ => .pure ?_
    rintro _ rfl _ ⟨data, rfl, rfl⟩ _ ⟨busy, all, few, ready, free, rfl⟩ _ rfl _ rfl
    refine ⟨busy, ready, data, few, all, free, ?_⟩
    simp only [append_nil, cons_append, nil_append, append_assoc]
  | false =>
    refine .pure ?_
    rintro _ ⟨busy, all, full, rfl⟩ front rfl other rfl
    refine ⟨[.wrote (writeData mainMicroIndirect 3 (addrByte address)),
      written (mainMicroIndirect + 4) 0x16], busy, full, all, ?_⟩
    rw [append_nil]
    rfl

theorem clean_readIndirect (address : Nat) : Clean (readIndirect address) := by
  refine (counted_writeBlockData (by decide) 3 _).clean.bind fun _ =>
    (counted_writeBlockData (by decide) 1 _).clean.bind fun _ =>
      (clean_pollCommand maxRetry).bind fun executed => ?_
  split
  · exact (counted_readByteData (by decide)).clean.bind fun _ =>
      (counted_note rfl rfl).clean.bind fun _ => .pure true
  · exact .pure false

theorem readIndirects_leaves (eepromOffset byteIndex count : Nat) :
    Leaves (readIndirects eepromOffset byteIndex count) fun _ entries =>
      AllAccessed eepromOffset byteIndex count entries ∨ 0 < count ∧ Stuck entries := by
  induction count generalizing byteIndex with
  | zero => exact .pure (.inl rfl)
  | succ count ih =>
    refine (readIndirect_leaves _).bind fun executed => ?_
    cases executed with
    | true =>
      refine (ih (byteIndex + 1)).mono ?_
      rintro _ back (all | ⟨_, middle, busy, full, polls, rfl⟩) front accessed
      · exact .inl ⟨front, back, rfl, accessed, all⟩
      · exact .inr ⟨Nat.succ_pos _, front ++ middle, busy, full, polls,
          (append_assoc ..).symm⟩
    | false =>
      refine .pure fun front stuck => .inr ⟨Nat.succ_pos _, ?_⟩
      rw [append_nil]
      exact stuck

theorem clean_readIndirects (eepromOffset byteIndex count : Nat) :
    Clean (readIndirects eepromOffset byteIndex count) := by
  induction count generalizing byteIndex with
  | zero => exact .pure ()
  | succ count ih =>
    refine (clean_readIndirect _).bind fun executed => ?_
    split
    · exact ih _
    · exact .pure ()

theorem lock_runs : Runs lock (fun _ entries => entries = [.locked])
    fun entries => entries = [.refused] := by
  refine .emit (fun parties log value met => ?_) fun parties log met => ?_
  · cases free : parties.lockable log with
    | false => simp [free] at met
    | true => rfl
  · cases free : parties.lockable log with
    | false => rfl
    | true => simp [free] at met

theorem underMutex_runs {α : Type} {body : Program Port α} {ends : α → List Entry → Prop}
    {fails : List Entry → Prop} (runs : Runs body ends fails) :
    Runs (underMutex body) (fun outcome entries => ∃ inner,
      entries = .locked :: inner ++ [.unlocked] ∧ match outcome with
        | some value => ends value inner
        | none => fails inner) fun entries => entries = [.refused] := by
  intro world
  have result : ∀ outcome inner, body.result (world.add [.locked]) =
      (outcome, (world.add [.locked]).add inner) → lock.result world =
        (some (), world.add [.locked]) → (underMutex body).result world =
          (some outcome, world.add (.locked :: inner ++ [.unlocked])) := by
    intro outcome inner ran locked
    unfold underMutex
    rw [result_bind_some locked, result_bind_attempt, ran]
    change (some outcome, ((world.add [.locked]).add inner).add [.unlocked]) = _
    rw [add_add, add_add]
    rfl
  rcases lock_runs world with ⟨_, _, locked, rfl⟩ | ⟨_, refused, rfl⟩
  · rcases runs (world.add [.locked]) with ⟨value, inner, ran, how⟩ | ⟨inner, ran, how⟩
    · exact .inl ⟨some value, _, result _ inner ran locked, inner, rfl, how⟩
    · exact .inl ⟨none, _, result _ inner ran locked, inner, rfl, how⟩
  · exact .inr ⟨_, result_bind_none refused, rfl⟩

/-! ## What is claimed -/

/-- The mutex is left alone. -/
def Untouched (entries : List Entry) : Prop :=
  ∀ entry ∈ entries, entry ≠ .locked ∧ entry ≠ .unlocked

/-- The mutex is taken once at most, and given back. -/
def Released (entries : List Entry) : Prop :=
  Untouched entries ∨ ∃ inner, entries = .locked :: inner ++ [.unlocked] ∧ Untouched inner

theorem Free.untouched (free : Free entries) : Untouched entries := by
  refine fun entry there => ⟨?_, ?_⟩
  · rintro rfl
    nomatch (free _ there)
  · rintro rfl
    nomatch (free _ there)

theorem Broken.untouched (broken : Broken entries) : Untouched entries := by
  obtain ⟨front, rfl, free⟩ := broken
  intro entry there
  rcases List.mem_append.mp there with before | last
  · exact free.untouched entry before
  · rw [List.mem_singleton.mp last]
    exact ⟨nofun, nofun⟩

theorem untouched_refused : Untouched [.refused] := by
  intro entry there
  rw [List.mem_singleton.mp there]
  exact ⟨nofun, nofun⟩

theorem released_under {inner : List Entry} (untouched : Untouched inner) :
    Released (.locked :: inner ++ [.unlocked]) := .inr ⟨inner, rfl, untouched⟩

/-- In every world the program does what is right exactly if what has been answered to it meets the
condition. -/
def Exactly {α : Type} (program : Program Port α) (right : Option α → List Entry → Prop)
    (condition : List Entry → Prop) : Prop :=
  Runs program (fun value entries => right (some value) entries ↔ condition entries)
    fun entries => right none entries ↔ condition entries

/-- The bytes of a successful read come from commands that were executed. -/
def SramRight (eepromOffset numBytes : Nat) (outcome : Option Unit) (entries : List Entry) : Prop :=
  Released entries ∧ (outcome = some () → ∃ inner, entries = .locked :: inner ++ [.unlocked] ∧
    AllAccessed eepromOffset 0 numBytes inner)

/-- The condition: no access stays busy. -/
def SramGuarded (entries : List Entry) : Prop := ¬ Stuck (transfers entries)

theorem transfers_under (inner : List Entry) :
    transfers (.locked :: inner ++ [.unlocked]) = transfers inner := by
  rw [transfers_append]
  exact append_nil _

theorem Stuck.last (stuck : Stuck entries) : ∃ front bytes, entries = front ++ poll bytes := by
  obtain ⟨front, busy, full, _, rfl⟩ := stuck
  rcases eq_nil_or_concat busy with rfl | ⟨rest, bytes, rfl⟩
  · cases full
  · exact ⟨front ++ rest.flatMap poll, bytes, by simp⟩

theorem Stuck.transfers (stuck : Stuck entries) : Stuck (transfers entries) := by
  obtain ⟨front, busy, full, polls, rfl⟩ := stuck
  have same : ∀ rest : List (Nat → UInt8),
      Pt5161l.transfers (rest.flatMap poll) = rest.flatMap poll := by
    intro rest
    induction rest with
    | nil => rfl
    | cons bytes rest ih =>
      rw [flatMap_cons, transfers_append, ih]
      rfl
  exact ⟨_, busy, full, polls, by rw [transfers_append, same]⟩

theorem not_stuck_of_broken (broken : Broken entries) : ¬ Stuck (transfers entries) := by
  intro stuck
  obtain ⟨front, rfl, _⟩ := broken
  obtain ⟨before, bytes, same⟩ := stuck.last
  have last := congrArg List.getLast? same
  simp [transfers, Entry.isTransfer, poll, readBack] at last

theorem AllAccessed.last {eepromOffset byteIndex count : Nat}
    (all : AllAccessed eepromOffset byteIndex count entries) (some : 0 < count) :
    ∃ front data, transfers entries = front ++ readBack (mainMicroIndirect + 3) data := by
  induction count generalizing byteIndex entries with
  | zero => exact absurd some (Nat.lt_irrefl 0)
  | succ count ih =>
    obtain ⟨front, back, rfl, ⟨busy, ready, data, _, _, _, rfl⟩, rest⟩ := all
    rw [transfers_append]
    by_cases more : 0 < count
    · obtain ⟨before, last, same⟩ := ih rest more
      exact ⟨_, last, by rw [same, ← append_assoc]⟩
    · obtain rfl : count = 0 := by omega
      obtain rfl : back = [] := rest
      refine ⟨transfers (.wrote (writeData mainMicroIndirect 3
        (addrByte (eepromAccAddr eepromOffset byteIndex))) ::
          written (mainMicroIndirect + 4) 0x16 :: busy.flatMap poll ++ poll ready), data, ?_⟩
      rw [transfers_append, transfers_append, append_assoc, append_assoc]
      rfl

theorem AllAccessed.not_stuck {eepromOffset byteIndex count : Nat}
    (all : AllAccessed eepromOffset byteIndex count entries) : ¬ Stuck (transfers entries) := by
  intro stuck
  obtain ⟨before, bytes, same⟩ := stuck.last
  by_cases some : 0 < count
  · obtain ⟨front, data, ends⟩ := all.last some
    rw [ends] at same
    have last := (append_inj' same rfl).2
    exact absurd (congrArg List.head? last) (by simp [poll, readBack, lowerAddr, mainMicroIndirect])
  · obtain rfl : count = 0 := by omega
    obtain rfl : entries = [] := all
    exact absurd (congrArg List.length same) (by simp [poll, readBack, transfers])

/-- The indirect read is right exactly if no command is polled in vain. -/
theorem sram_exactly (eepromOffset numBytes : Nat) :
    Exactly (readBlockDataToSram eepromOffset numBytes) (SramRight eepromOffset numBytes)
      SramGuarded := by
  have ended : ∀ outcome : Option Unit, Runs (match outcome with
      | some _ => if numBytes = 0 then failure else pure ()
      | none => failure : Program Port Unit)
      (fun _ entries => entries = [] ∧ outcome = some () ∧ 0 < numBytes)
      fun entries => entries = [] ∧ (outcome = none ∨ numBytes = 0) := by
    intro outcome
    cases outcome with
    | none => exact Runs.failure.mono (fun _ _ => nofun) fun _ none => ⟨none, .inl rfl⟩
    | some _ =>
      by_cases zero : numBytes = 0
      · rw [if_pos zero]
        exact Runs.failure.mono (fun _ _ => nofun) fun _ none => ⟨none, .inr zero⟩
      · rw [if_neg zero]
        exact (Runs.pure ()).mono (fun _ _ how => ⟨how.2, rfl, Nat.pos_of_ne_zero zero⟩) nofun
  refine (underMutex_runs ((clean_readIndirects eepromOffset 0 numBytes).and
    (readIndirects_leaves eepromOffset 0 numBytes))).bind ended ?_ ?_ ?_
  · rintro outcome front _ back ⟨inner, rfl, how⟩ ⟨rfl, rfl, some⟩
    rw [append_nil]
    obtain ⟨free, all | ⟨_, stuck⟩⟩ := how
    · refine iff_of_true ⟨released_under free.untouched, fun _ => ⟨inner, rfl, all⟩⟩ ?_
      rw [SramGuarded, transfers_under]
      exact all.not_stuck
    · refine iff_of_false (fun right => ?_) fun guarded => ?_
      · obtain ⟨other, same, all⟩ := right.2 rfl
        have inside := append_cancel_right (List.cons.inj same).2
        exact all.not_stuck (inside ▸ stuck.transfers)
      · rw [SramGuarded, transfers_under] at guarded
        exact guarded stuck.transfers
  · rintro entries rfl
    refine iff_of_true ⟨.inl untouched_refused, nofun⟩ fun stuck => ?_
    obtain ⟨front, bytes, same⟩ := stuck.last
    exact absurd (congrArg List.length same) (by simp [poll, readBack, transfers, Entry.isTransfer])
  · rintro outcome front back ⟨inner, rfl, how⟩ ⟨rfl, none⟩
    rw [append_nil]
    cases outcome with
    | none =>
      refine iff_of_true ⟨released_under how.1.untouched, nofun⟩ ?_
      rw [SramGuarded, transfers_under]
      exact not_stuck_of_broken how.1
    | some _ =>
      refine iff_of_true ⟨released_under how.1.untouched, nofun⟩ ?_
      rw [SramGuarded, transfers_under]
      rcases how.2 with all | ⟨some, _⟩
      · exact all.not_stuck
      · exact absurd some (by simpa using none)

/-! ## The calibration -/

def fuse (page : UInt8) (bytes : Nat → UInt8) : List Entry :=
  written 0x8f6 page :: readBack 0x8f7 bytes

theorem readFuse_leaves (page : UInt8) : Leaves (readFuse page) fun byte entries => ∃ bytes,
    entries = fuse page bytes ∧ byte = bytes 3 := by
  refine (writeByteData_leaves (by decide) page).bind fun _ =>
    (readByteData_leaves (by decide)).mono ?_
  rintro byte _ ⟨bytes, rfl, rfl⟩ front rfl
  exact ⟨bytes, rfl, rfl⟩

theorem counted_readFuse (page : UInt8) : Counted (readFuse page) 3 :=
  (counted_writeBlockData (by decide) 1 _).bind fun _ => counted_readByteData (by decide)

/-- A code: the one that the retimer has, or the default where it has none. -/
def CodeRead (flag page code : UInt8) (entries : List Entry) : Prop :=
  if flag &&& 4 = 0 then code = defaultCalCode ∧ entries = []
  else ∃ bytes, entries = fuse page bytes ∧
    code = if bytes 3 = 0 then defaultCalCode else bytes 3

/-- The codes are read, one for each index. -/
def CodesRead (flag base : UInt8) : List UInt8 → List UInt8 → List Entry → Prop
  | [], codes, entries => codes = [] ∧ entries = []
  | index :: rest, codes, entries => ∃ code later front back, codes = code :: later ∧
    entries = front ++ .stored code :: back ∧ CodeRead flag (base + index * 4) code front ∧
      CodesRead flag base rest later back

/-- The fuses are read, and the average of the codes is stored. -/
def Calibrated (entries : List Entry) : Prop :=
  ∃ front pageByte flagByte pmaA pmaB partA partB,
    let offset : UInt8 := if pageByte 3 &&& 0x80 = 0 then 0 else 64
    CodesRead (flagByte 3) (34 + offset) [0, 1, 2, 3] pmaA partA ∧
      CodesRead (flagByte 3) (32 + offset) [0, 1, 2, 3] pmaB partB ∧
      entries = front ++ fuse 63 pageByte ++ fuse (48 + offset) flagByte ++ partA ++ partB ++
        [.stored (average (pmaA ++ pmaB))]

theorem calCodes_leaves (flag base : UInt8) (indices : List UInt8) :
    Leaves (calCodes flag base indices) (CodesRead flag base indices) := by
  induction indices with
  | nil => exact .pure ⟨rfl, rfl⟩
  | cons index rest ih =>
    have code : Leaves (calCode flag (base + index * 4))
        (CodeRead flag (base + index * 4)) := by
      unfold calCode CodeRead
      by_cases none : flag &&& 4 = 0
      · simp only [if_pos none]
        exact .pure ⟨rfl, rfl⟩
      · simp only [if_neg none]
        refine (readFuse_leaves _).bind fun code => .pure ?_
        rintro front ⟨bytes, rfl, rfl⟩
        exact ⟨bytes, append_nil _, rfl⟩
    refine code.bind fun code => (Runs.note (Entry.stored code)).leaves.bind fun _ =>
      ih.bind fun codes => .pure ?_
    rintro back read middle rfl front first
    rw [append_nil]
    exact ⟨code, codes, front, back, rfl, rfl, first, read⟩

def codeTransfers (flag : UInt8) : Nat := if flag &&& 4 = 0 then 0 else 3

theorem counted_calCodes (flag base : UInt8) (indices : List UInt8) :
    Counted (calCodes flag base indices) (indices.length * codeTransfers flag) := by
  induction indices with
  | nil =>
    rw [length_nil, Nat.zero_mul]
    exact .pure []
  | cons index rest ih =>
    have code : Counted (calCode flag (base + index * 4)) (codeTransfers flag) := by
      unfold calCode codeTransfers
      by_cases none : flag &&& 4 = 0
      · rw [if_pos none, if_pos none]
        exact .pure _
      · rw [if_neg none, if_neg none]
        exact (counted_readFuse _).bind fun _ => .pure _
    have sum : (index :: rest).length * codeTransfers flag =
        codeTransfers flag + (0 + (rest.length * codeTransfers flag + 0)) := by
      rw [length_cons, Nat.add_mul]
      omega
    rw [sum]
    exact code.bind fun _ => (counted_note rfl rfl).bind fun _ => ih.bind fun _ => .pure _

theorem counted_modifyBlock (inside : address ≤ 0xffff) (numBytes index : Nat)
    (change : UInt8 → UInt8) : Counted (modifyBlock address numBytes index change)
      (2 * ((numBytes + 3) / 4) + (numBytes + 3) / 4) :=
  (counted_readBlockData inside numBytes).bind fun _ => counted_writeBlockData inside numBytes _

theorem counted_loadFuse : Counted loadFuse 30 :=
  (counted_modifyBlock (by decide) 5 3 _).bind fun _ =>
    (counted_modifyBlock (by decide) 1 0 _).bind fun _ =>
      (counted_modifyBlock (by decide) 5 3 _).bind fun _ =>
        (counted_modifyBlock (by decide) 5 3 _).bind fun _ =>
          (counted_modifyBlock (by decide) 1 0 _).bind fun _ =>
            (counted_readFuse 63).bind fun _ => (counted_readFuse _).bind fun _ => .pure _

theorem loadFuse_leaves : Leaves loadFuse fun loaded entries => ∃ front pageByte flagByte,
    loaded = (if pageByte 3 &&& 0x80 = 0 then 0 else 64, flagByte 3) ∧
      entries = front ++ fuse 63 pageByte ++ fuse (48 + loaded.1) flagByte := by
  have any : ∀ address numBytes index change,
      address ≤ 0xffff → Leaves (modifyBlock address numBytes index change) fun _ _ => True :=
    fun _ numBytes index change inside =>
      (counted_modifyBlock inside numBytes index change).clean.leaves.mono fun _ _ _ => trivial
  refine (any _ _ _ _ (by decide)).bind fun _ => (any _ _ _ _ (by decide)).bind fun _ =>
    (any _ _ _ _ (by decide)).bind fun _ => (any _ _ _ _ (by decide)).bind fun _ =>
      (any _ _ _ _ (by decide)).bind fun _ => (readFuse_leaves 63).bind fun invalid =>
        (readFuse_leaves _).bind fun flag => .pure ?_
  rintro _ ⟨flagByte, rfl, rfl⟩ _ ⟨pageByte, rfl, rfl⟩ fifth _ fourth _ third _ second _ first _
  exact ⟨first ++ second ++ third ++ fourth ++ fifth, pageByte, flagByte, rfl, by simp⟩

def pmaATransfers : Nat := 42

theorem codeTransfers_cases (flag : UInt8) : codeTransfers flag = 0 ∨ codeTransfers flag = 3 := by
  unfold codeTransfers
  split_ifs
  · exact .inl rfl
  · exact .inr rfl

theorem pmaB_runs (flag base : UInt8) (pmaA : List UInt8) :
    Runs (do
      let outcome ← (calCodes flag base [0, 1, 2, 3]).attempt
      match outcome with
      | none => pure false
      | some pmaB => do
        store (average (pmaA ++ pmaB))
        pure true : Program Port Bool)
      (fun completed entries => if completed = true then ∃ pmaB partB,
          CodesRead flag base [0, 1, 2, 3] pmaB partB ∧ Free entries ∧
            entries = partB ++ [.stored (average (pmaA ++ pmaB))]
        else ∃ front, entries = front ++ [.failed] ∧ codeTransfers flag = 3 ∧ Free front)
      fun _ => False := by
  intro world
  rw [result_bind_attempt]
  rcases (Runs.and (counted_calCodes flag base [0, 1, 2, 3]) (calCodes_leaves flag base _)) world
    with ⟨pmaB, entries, ran, counted, read⟩ | ⟨entries, ran, ⟨front, rfl, few, free⟩, -⟩
  · rw [ran]
    refine .inl ⟨true, entries ++ [.stored (average (pmaA ++ pmaB))], ?_, pmaB, entries, read,
      counted.2.append (free_singleton rfl), rfl⟩
    rw [← add_add]
    rfl
  · rw [ran]
    refine .inl ⟨false, _, rfl, front, rfl, ?_, free⟩
    rcases codeTransfers_cases flag with none | three
    · rw [none] at few
      exact absurd few (Nat.not_lt_zero _)
    · exact three

theorem calibrate_runs : Runs calibrate
    (fun completed entries => if completed = true then Free entries ∧ Calibrated entries
      else ∃ front, entries = front ++ [.failed] ∧ pmaATransfers ≤ (transfers front).length)
    fun entries => ∃ front, entries = front ++ [.failed] ∧
      (transfers front).length < pmaATransfers ∧ Free front := by
  have pmaA := fun flag base : UInt8 =>
    Runs.and (counted_calCodes flag base [0, 1, 2, 3]) (calCodes_leaves flag base _)
  have loaded := Runs.and counted_loadFuse loadFuse_leaves
  intro world
  unfold calibrate
  rcases loaded world with
    ⟨⟨offset, flag⟩, front, ran, counted, before, pageByte, flagByte, same, rfl⟩ |
      ⟨_, ran, ⟨front, rfl, few, free⟩, -⟩
  · cases same
    rw [result_bind_some ran]
    generalize paged : (if pageByte 3 &&& 0x80 = 0 then (0 : UInt8) else 64) = offset at *
    have three := codeTransfers_cases (flagByte 3)
    rcases pmaA (flagByte 3) (34 + offset) (world.add _) with
      ⟨codes, partA, onward, countedA, readA⟩ | ⟨_, onward, ⟨partA, rfl, few, free⟩, -⟩
    · rw [result_bind_some onward, add_add]
      rcases pmaB_runs (flagByte 3) (32 + offset) codes (world.add _) with
        ⟨completed, rest, last, how⟩ | ⟨_, _, never⟩
      · refine .inl ⟨completed, _, by rw [last, add_add], ?_⟩
        cases completed with
        | true =>
          obtain ⟨pmaB, partB, readB, freeB, rfl⟩ := how
          refine ⟨(counted.2.append countedA.2).append freeB,
            before, pageByte, flagByte, codes, pmaB, partA, partB, ?_⟩
          rw [paged]
          exact ⟨readA, readB, by simp only [append_assoc]⟩
        | false =>
          obtain ⟨middle, rfl, on, _⟩ := how
          refine ⟨_, (append_assoc ..).symm, ?_⟩
          rw [transfers_append, transfers_append, length_append, length_append,
            counted.1, countedA.1, on]
          exact Nat.le_add_right 42 _
      · exact never.elim
    · rw [result_bind_none onward, add_add]
      refine .inr ⟨_, rfl, _, (append_assoc ..).symm, ?_, counted.2.append free⟩
      rw [transfers_append, length_append, counted.1]
      simp only [length_cons, length_nil] at few
      unfold pmaATransfers
      omega
  · rw [result_bind_none ran]
    exact .inr ⟨_, rfl, front, rfl, Nat.lt_trans few (by decide), free⟩

/-- The codes of a successful calibration are those of the retimer, or the default. -/
def CalibrationRight (outcome : Option Unit) (entries : List Entry) : Prop :=
  Released entries ∧ (outcome = some () → ∃ inner, entries = .locked :: inner ++ [.unlocked] ∧
    Calibrated inner)

/-- The condition: no transfer fails from the first codes on. -/
def CalibrationGuarded (entries : List Entry) : Prop :=
  ¬ ∃ front, transfers entries = front ++ [.failed] ∧ pmaATransfers ≤ front.length

theorem not_failed_of_free {front entries : List Entry} (free : Free entries) :
    ¬ transfers entries = front ++ [.failed] := by
  intro same
  have there : Entry.failed ∈ transfers entries := same ▸ mem_append_right _ mem_cons_self
  nomatch (free _ (List.mem_filter.mp there).1)

theorem transfers_failed (front : List Entry) :
    transfers (front ++ [.failed]) = transfers front ++ [.failed] := transfers_append ..

/-- The calibration is right exactly if no transfer for the second PMA fails. -/
theorem calibration_exactly :
    Exactly getTempCalibrationCodes CalibrationRight CalibrationGuarded := by
  intro world
  unfold getTempCalibrationCodes
  rcases lock_runs world with ⟨_, _, locked, rfl⟩ | ⟨_, refused, rfl⟩
  · rw [result_bind_some locked, result_bind_attempt]
    rcases calibrate_runs (world.add [.locked]) with
      ⟨completed, inner, ran, how⟩ | ⟨inner, ran, front, rfl, few, free⟩
    · rw [ran]
      cases completed with
      | true =>
        refine .inl ⟨(), .locked :: inner ++ [.unlocked], ?_, iff_of_true
          ⟨released_under how.1.untouched, fun _ => ⟨inner, rfl, how.2⟩⟩ ?_⟩
        · change (some (), ((world.add [.locked]).add inner).add [.unlocked]) = _
          rw [add_add, add_add]
          rfl
        · rintro ⟨front, same, _⟩
          rw [transfers_under] at same
          exact not_failed_of_free how.1 same
      | false =>
        obtain ⟨front, rfl, many⟩ := how
        refine .inr ⟨.locked :: front ++ [.failed], ?_, iff_of_false ?_ ?_⟩
        · change (none, (world.add [.locked]).add (front ++ [.failed])) = _
          rw [add_add]
          rfl
        · rintro ⟨untouched | ⟨inner, same, _⟩, _⟩
          · exact (untouched .locked mem_cons_self).1 rfl
          · exact absurd (append_inj' same rfl).2 (by simp)
        · intro guarded
          refine guarded ⟨transfers front, ?_, many⟩
          exact transfers_failed (.locked :: front)
    · rw [ran]
      refine .inr ⟨.locked :: (front ++ [.failed]) ++ [.unlocked], ?_, iff_of_true
        ⟨released_under (Broken.untouched ⟨front, rfl, free⟩), nofun⟩ ?_⟩
      · change (none, ((world.add [.locked]).add (front ++ [.failed])).add [.unlocked]) = _
        rw [add_add, add_add]
        rfl
      · rintro ⟨before, same, many⟩
        rw [transfers_under, transfers_failed] at same
        rw [← (append_inj' same rfl).1] at many
        omega
  · refine .inr ⟨_, result_bind_none refused, iff_of_true ⟨.inl untouched_refused, nofun⟩ ?_⟩
    rintro ⟨front, same, _⟩
    exact absurd (congrArg List.length same) (by simp [transfers, Entry.isTransfer])

/-! ## The temperature -/

/-- A temperature that is told comes from three reads that were done. -/
def TemperatureRight (tempCalCodeAvg : UInt8) (outcome : Option (Status × Option Int))
    (entries : List Entry) : Prop :=
  Released entries ∧ ∀ value, outcome = some (.readSuccess, value) →
    ∃ first second third : Nat → UInt8, entries = .locked :: (readBack tempOffset first ++
      readBack tempOffset second ++ readBack tempOffset third) ++ [.unlocked] ∧
        (.readSuccess, value) = temperature tempCalCodeAvg
          (median (adcCode fun index => first (3 + index))
            (adcCode fun index => second (3 + index)) (adcCode fun index => third (3 + index)))

theorem adcCode_congr {first second : Nat → UInt8}
    (same : ∀ index, index < 4 → first index = second index) : adcCode first = adcCode second := by
  unfold adcCode
  rw [same 0 (by decide), same 1 (by decide), same 2 (by decide), same 3 (by decide)]

theorem readTemps_leaves : Leaves readTemps fun adc entries =>
    ∃ first second third : Nat → UInt8, entries = readBack tempOffset first ++
      readBack tempOffset second ++ readBack tempOffset third ∧
        adc = median (adcCode fun index => first (3 + index))
          (adcCode fun index => second (3 + index)) (adcCode fun index => third (3 + index)) := by
  have inside : tempOffset ≤ 0xffff := by unfold tempOffset; omega
  have one := @readBlockData_leaves tempOffset inside 4 (by decide) (by decide)
  refine one.bind fun _ => one.bind fun _ => one.bind fun _ => .pure ?_
  rintro _ ⟨third, rfl, thirds⟩ _ ⟨second, rfl, seconds⟩ _ ⟨first, rfl, firsts⟩
  refine ⟨first, second, third, rfl, ?_⟩
  rw [adcCode_congr firsts, adcCode_congr seconds, adcCode_congr thirds]

theorem clean_readTemps : Clean readTemps :=
  (counted_readBlockData (by decide) 4).clean.bind fun _ =>
    (counted_readBlockData (by decide) 4).clean.bind fun _ =>
      (counted_readBlockData (by decide) 4).clean.bind fun _ => .pure _

theorem temperature_exactly (tempCalCodeAvg : UInt8) :
    Exactly (readAvgTemp tempCalCodeAvg) (TemperatureRight tempCalCodeAvg) fun _ => True := by
  intro world
  unfold readAvgTemp
  rw [result_bind_attempt]
  rcases underMutex_runs (clean_readTemps.and readTemps_leaves) world with
    ⟨outcome, _, ran, inner, rfl, how⟩ | ⟨_, ran, rfl⟩
  · rw [ran]
    cases outcome with
    | none =>
      exact .inl ⟨_, _, rfl, iff_of_true ⟨released_under how.1.untouched, nofun⟩ trivial⟩
    | some adc =>
      obtain ⟨free, first, second, third, rfl, codes⟩ := how
      refine .inl ⟨_, _, result_pure _, iff_of_true ⟨released_under free.untouched, ?_⟩ trivial⟩
      intro value told
      refine ⟨first, second, third, rfl, ?_⟩
      rw [← codes]
      exact (Option.some.inj told).symm
  · rw [ran]
    exact .inl ⟨_, _, rfl, iff_of_true ⟨.inl untouched_refused, nofun⟩ trivial⟩

end OpenBic.Dev.Pt5161l
