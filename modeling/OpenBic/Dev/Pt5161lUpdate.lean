import Mathlib.Data.List.GetD
import OpenBic.Dev.Pt5161l
import OpenBic.Library.Machine

/-!
# The update of the PT5161L retimer

`pcie_retimer_fw_update` of `pt5161l.c` with what it keeps between calls, down to the transfers that
write a block to the EEPROM of the retimer.
-/

namespace OpenBic.Dev.Pt5161lUpdate

open List Library.Talk
open Library.Trace
open Library.Machine
open OpenBic.Dev.Pt5161l

/-! ## The transfers -/

def i2cMstIcCmdAddr : Nat := 0xd04

def i2cMstDataAddr (index : Nat) : Nat := 0xd05 + index

def i2cMstCmdAddr : Nat := 0xd09

def i2cMstInitCtrlAddress : Nat := 0xd0a

def i2cMstBbOutputAddress : Nat := 0xd0b

def mmEepromAssistCmdAddr : Nat := 0x920

def eepromBlockBaseAddr : Nat := 0x88e7

def eepromBlockWriteSize : Nat := 32

def eepromPageSize : Nat := 256

def sectorSz64K : Nat := 0x10000

def maxTries : Nat := 30

def writeBytes : List (Nat × UInt8) → Program Port Unit
  | [] => pure ()
  | (address, byte) :: rest => do
    writeByteData address byte
    writeBytes rest

/-- `PT5161L_I2C_MST_INIT_CTRL_BIT_BANG_MODE_EN_MODIFY`. -/
def bitBangModeEnModify (register enable : UInt8) : UInt8 :=
  (enable <<< 2 &&& 0x04) ||| (register &&& 0xfb)

/-- The levels of SDA and SCL from the start sequence to the stop sequence. -/
def bitBangLevels : List UInt8 :=
  [3, 1, 0, 2] ++ (List.replicate 9 [3, 2]).flatten ++ [0, 1, 3]

/-- `pt5161l_i2c_master_soft_reset`. -/
def softReset : Program Port Unit := do
  writeByteData i2cMstBbOutputAddress 3
  let control ← readByteData i2cMstInitCtrlAddress
  writeByteData i2cMstInitCtrlAddress (bitBangModeEnModify control 1)
  writeBytes (bitBangLevels.map fun level => (i2cMstBbOutputAddress, level))
  writeByteData i2cMstInitCtrlAddress (bitBangModeEnModify (bitBangModeEnModify control 1) 0)

/-- The registers that `pt5161l_i2c_master_write_ctrl_reg` writes. -/
def ctrlReg (offset first second : UInt8) : List (Nat × UInt8) :=
  [(i2cMstIcCmdAddr, offset), (i2cMstDataAddr 0, first), (i2cMstDataAddr 1, second),
    (i2cMstDataAddr 2, 0), (i2cMstDataAddr 3, 0), (i2cMstCmdAddr, 1)]

def masterInit : Program Port Unit :=
  writeBytes (ctrlReg 0x6c 0 0 ++ ctrlReg 0 0xe5 0xf ++ ctrlReg 0x04 0x50 0 ++
    ctrlReg 0x38 0 0 ++ ctrlReg 0x3c 4 0 ++ ctrlReg 0x6c 1 0)

def pageRegs (offset : Nat) : List (Nat × UInt8) :=
  ctrlReg 0x6c 0 0 ++ ctrlReg 0x04 (.ofNat (0x50 + offset / sectorSz64K % 4)) 0 ++
    ctrlReg 0x6c 1 0

def offsetRegs (offset : Nat) : List (Nat × UInt8) :=
  [(i2cMstIcCmdAddr, 0x10), (i2cMstDataAddr 1, 0),
    (i2cMstDataAddr 0, .ofNat (offset % sectorSz64K / 256)), (i2cMstCmdAddr, 1),
    (i2cMstDataAddr 0, .ofNat (offset % 256)), (i2cMstCmdAddr, 1)]

def writeHolding (values : Nat → UInt8) (offset : Nat) : List Nat → Program Port Unit
  | [] => pure ()
  | index :: rest => do
    writeBlockData (eepromBlockBaseAddr + 4 * index) 4 fun byte => values (offset + 4 * index + byte)
    writeHolding values offset rest

def awaitCommand : Nat → Program Port Unit
  | 0 => failure
  | count + 1 => do
    let status ← readByteData mmEepromAssistCmdAddr
    if status = 0 then pure () else awaitCommand count

/-- The blocks that are left of a write, from an offset in the values on. -/
def writeBlocks (values : Nat → UInt8) : Nat → Nat → Program Port Unit
  | _, 0 => pure ()
  | offset, count + 1 => do
    writeHolding values offset (List.range (eepromBlockWriteSize / 4))
    writeByteData mmEepromAssistCmdAddr (if count = 0 then 0x82 else 0x81)
    awaitCommand maxTries
    writeBlocks values (offset + eepromBlockWriteSize) count

/-- `pt5161l_i2c_master_multi_block_write`. -/
def multiBlockWrite (offset numBytes : Nat) (values : Nat → UInt8) : Program Port Unit := do
  writeBytes (offsetRegs offset)
  writeBlocks values 0 (numBytes / eepromBlockWriteSize)

def amendLen (length : Nat) (isEnd : Bool) : Nat :=
  if isEnd = true ∧ length % eepromBlockWriteSize ≠ 0 then
    eepromBlockWriteSize - length % eepromBlockWriteSize
  else 0

/-- `pt5161l_write_eeprom_image`, of one page at most. -/
def writeEepromImage (offset : Nat) (txbuf : Nat → UInt8) (length : Nat) (isEnd : Bool) :
    Program Port Unit := do
  if eepromPageSize < length then failure
  else do
    writeBytes (pageRegs offset)
    multiBlockWrite offset (length + amendLen length isEnd) fun index =>
      if index < length then txbuf index else 0

def writeWord (address : Nat) (upper : UInt8) : Program Port Unit :=
  writeBlockData address 2 fun index => if index = 0 then 0 else upper

def preUpdate : Program Port Unit := do
  writeWord 0x600 0
  writeWord 0x602 0
  writeWord 0x602 2
  writeWord 0x602 0
  softReset
  masterInit

def postUpdate : Program Port Unit := do
  writeWord 0x600 2
  writeWord 0x602 2

def when (condition : Bool) (program : Program Port Unit) : Program Port Unit :=
  if condition then program else pure ()

/-- `pt5161l_do_update`, without the flag that it sets. -/
def doUpdate (updateOffset : Nat) (txbuf : Nat → UInt8) (length : Nat) (isEnd : Bool) :
    Program Port Unit := do
  when (updateOffset = 0) preUpdate
  writeEepromImage updateOffset txbuf length isEnd
  when isEnd postUpdate

/-! ## The calls -/

def sectorSz256 : Nat := 256

/-- What is kept between calls; a buffer that is freed is `none`. -/
structure Statics where
  isInit : Bool
  txbuf : Option (Nat → UInt8)
  startOffset : Nat
  bufOffset : Nat
  isUpdateOngoing : Bool

/-- A call with a chunk of 256 bytes at most, what its two allocations give, and whether it has the
flag of the end. -/
structure Call where
  offset : Nat
  msgLen : Nat
  msgBuf : Nat → UInt8
  sectorEnd : Bool
  mallocs : Option (Nat → UInt8) × Option (Nat → UInt8)
  len_le : msgLen ≤ sectorSz256

/-- How a call ends. -/
inductive Result where
  | success
  | updateFail
  | outOfHeap
deriving DecidableEq

def Statics.begin (statics : Statics) (call : Call) : Option Statics :=
  if statics.isInit = true then some statics
  else match call.mallocs.1 <|> call.mallocs.2 with
    | none => none
    | some fresh => some { statics with
        isInit := true
        txbuf := some fresh
        startOffset := call.offset
        bufOffset := 0 }

/-- A copy of the chunk to the buffer, where it is inside of a buffer that is not freed. -/
def Statics.stage (statics : Statics) (call : Call) : Option Statics :=
  match statics.txbuf with
  | none => none
  | some txbuf =>
    if sectorSz256 < statics.bufOffset + call.msgLen then none
    else some { statics with
      txbuf := some fun index =>
        if statics.bufOffset ≤ index ∧ index < statics.bufOffset + call.msgLen then
          call.msgBuf (index - statics.bufOffset)
        else txbuf index
      bufOffset := statics.bufOffset + call.msgLen }

def Statics.flushes (statics : Statics) (call : Call) : Bool :=
  statics.bufOffset = sectorSz256 || call.sectorEnd

/-- `is_update_ongoing` after `pt5161l_do_update`. -/
def Statics.ongoing (statics : Statics) (call : Call) (written : Bool) : Bool :=
  if written && call.sectorEnd then false
  else statics.startOffset = 0 || statics.isUpdateOngoing

/-- `pcie_retimer_fw_update`; `none` is an access outside the buffer. -/
def pcieRetimerFwUpdate (call : Call) (statics : Statics) :
    Program Port (Option (Result × Statics)) :=
  match statics.begin call with
  | none => pure (some (.outOfHeap, { statics with txbuf := none }))
  | some begun => match begun.stage call with
    | none => pure none
    | some staged =>
      if staged.flushes call = false then pure (some (.success, staged))
      else do
        let txbuf := staged.txbuf.getD fun _ => 0
        let outcome ← (underMutex
          (doUpdate staged.startOffset txbuf staged.bufOffset call.sectorEnd)).attempt
        let freed := { staged with txbuf := none }
        match outcome with
        | none => pure (some (.updateFail, freed))
        | some none => pure (some (.updateFail, { freed with
            isUpdateOngoing := staged.ongoing call false }))
        | some (some _) => pure (some (.success, { freed with
            isInit := false
            isUpdateOngoing := staged.ongoing call true }))

/-! ## What the transfers leave -/

/-- A command stays busy for every try. -/
def OutOfTries (entries : List Entry) : Prop :=
  ∃ (front : List Entry) (busy : List (Nat → UInt8)), busy.length = maxTries ∧
    (∀ bytes ∈ busy, bytes 3 ≠ 0) ∧ Free front ∧
      entries = front ++ busy.flatMap (readBack mmEepromAssistCmdAddr)

/-- A transfer fails, or a command stays busy. -/
def Stopped (entries : List Entry) : Prop := Broken entries ∨ OutOfTries entries

/-- A program ends, or is stopped by the device. -/
def Careful {α : Type} (program : Program Port α) : Prop :=
  Runs program (fun _ entries => Free entries) Stopped

section Careful

variable {α β : Type} {program : Program Port α} {next : α → Program Port β}

theorem Careful.bind (front : Careful program) (back : ∀ value, Careful (next value)) :
    Careful (program >>= next) := by
  refine Runs.bind front back (fun _ _ _ _ first second => first.append second)
    (fun _ => id) ?_
  rintro value before after free (broken | ⟨middle, busy, full, all, frees, rfl⟩)
  · exact .inl (broken.append free)
  · exact .inr ⟨before ++ middle, busy, full, all, free.append frees,
      (append_assoc ..).symm⟩

theorem careful_of_clean (clean : Clean program) : Careful program :=
  Runs.mono clean (fun _ _ => id) fun _ broken => .inl broken

theorem Careful.pure (value : α) : Careful (pure value : Program Port α) :=
  careful_of_clean (Clean.pure value)

end Careful

def regs (registers : List (Nat × UInt8)) : List Entry :=
  registers.map fun register => written register.1 register.2

theorem writeBytes_leaves {registers : List (Nat × UInt8)}
    (inside : registers.all (fun register => register.1 ≤ 0xffff) = true) :
    Leaves (writeBytes registers) fun _ entries => entries = regs registers := by
  induction registers with
  | nil => exact .pure rfl
  | cons register rest ih =>
    rw [all_cons, Bool.and_eq_true] at inside
    refine (writeByteData_leaves (of_decide_eq_true inside.1) _).bind fun _ =>
      (ih inside.2).mono ?_
    rintro _ back rfl front rfl
    rfl

theorem careful_writeBytes {registers : List (Nat × UInt8)}
    (inside : registers.all (fun register => register.1 ≤ 0xffff) = true) :
    Careful (writeBytes registers) := by
  induction registers with
  | nil => exact .pure ()
  | cons register rest ih =>
    rw [all_cons, Bool.and_eq_true] at inside
    exact (careful_of_clean (counted_writeBlockData (of_decide_eq_true inside.1) 1 _).clean).bind
      fun _ => ih inside.2

theorem careful_writeByteData {address : Nat} (inside : address ≤ 0xffff) (byte : UInt8) :
    Careful (writeByteData address byte) :=
  careful_of_clean (counted_writeBlockData inside 1 _).clean

theorem careful_softReset : Careful softReset :=
  (careful_writeByteData (by decide) _).bind fun _ =>
    (careful_of_clean (counted_readByteData (by decide)).clean).bind fun _ =>
      (careful_writeByteData (by decide) _).bind fun _ => (careful_writeBytes rfl).bind fun _ =>
        careful_writeByteData (by decide) _

theorem careful_writeWord {address : Nat} (inside : address ≤ 0xffff) (upper : UInt8) :
    Careful (writeWord address upper) :=
  careful_of_clean (counted_writeBlockData inside 2 _).clean

theorem careful_preUpdate : Careful preUpdate :=
  (careful_writeWord (by decide) _).bind fun _ => (careful_writeWord (by decide) _).bind fun _ =>
    (careful_writeWord (by decide) _).bind fun _ => (careful_writeWord (by decide) _).bind fun _ =>
      careful_softReset.bind fun _ => careful_writeBytes rfl

theorem careful_postUpdate : Careful postUpdate :=
  (careful_writeWord (by decide) _).bind fun _ => careful_writeWord (by decide) _

theorem Careful.when {program : Program Port Unit} (careful : Careful program)
    (condition : Bool) : Careful (when condition program) := by
  unfold Pt5161lUpdate.when
  split_ifs
  · exact careful
  · exact .pure ()

def holding (values : Nat → UInt8) (offset index : Nat) : Entry :=
  .wrote (writeData (eepromBlockBaseAddr + 4 * index) 4 fun byte =>
    values (offset + 4 * index + byte))

theorem writeHolding_leaves (values : Nat → UInt8) (offset : Nat) {indices : List Nat}
    (inside : indices.all (fun index => eepromBlockBaseAddr + 4 * index ≤ 0xffff) = true) :
    Leaves (writeHolding values offset indices) fun _ entries =>
      entries = indices.map (holding values offset) := by
  induction indices with
  | nil => exact .pure rfl
  | cons index rest ih =>
    rw [all_cons, Bool.and_eq_true] at inside
    refine (writeBlockData_leaves (of_decide_eq_true inside.1) (by decide) (by decide) _).bind
      fun _ => (ih inside.2).mono ?_
    rintro _ back rfl front rfl
    rfl

theorem careful_writeHolding (values : Nat → UInt8) (offset : Nat) {indices : List Nat}
    (inside : indices.all (fun index => eepromBlockBaseAddr + 4 * index ≤ 0xffff) = true) :
    Careful (writeHolding values offset indices) := by
  induction indices with
  | nil => exact .pure ()
  | cons index rest ih =>
    rw [all_cons, Bool.and_eq_true] at inside
    exact (careful_of_clean (counted_writeBlockData (of_decide_eq_true inside.1) 4 _).clean).bind
      fun _ => ih inside.2

/-- A command is polled until it has ended. -/
def Awaited (entries : List Entry) : Prop :=
  ∃ (busy : List (Nat → UInt8)) (ready : Nat → UInt8), ready 3 = 0 ∧
    entries = busy.flatMap (readBack mmEepromAssistCmdAddr) ++
      readBack mmEepromAssistCmdAddr ready

theorem awaitCommand_leaves (count : Nat) :
    Leaves (awaitCommand count) fun _ entries => Awaited entries := by
  induction count with
  | zero => exact .failure
  | succ count ih =>
    refine (readByteData_leaves (by decide)).bind fun status => ?_
    by_cases ready : status = 0
    · rw [if_pos ready]
      refine .pure ?_
      rintro front ⟨bytes, rfl, rfl⟩
      exact ⟨[], bytes, ready, append_nil _⟩
    · rw [if_neg ready]
      refine ih.mono ?_
      rintro _ back ⟨busy, bytes, zero, rfl⟩ front ⟨first, rfl, rfl⟩
      exact ⟨first :: busy, bytes, zero, (append_assoc ..).symm⟩

theorem awaitCommand_runs (count : Nat) : Runs (awaitCommand count)
    (fun _ entries => Free entries) fun entries => Broken entries ∨
      ∃ busy : List (Nat → UInt8), busy.length = count ∧ (∀ bytes ∈ busy, bytes 3 ≠ 0) ∧
        entries = busy.flatMap (readBack mmEepromAssistCmdAddr) := by
  induction count with
  | zero => exact Runs.failure.mono (fun _ _ => nofun) fun _ none => .inr ⟨[], rfl, nofun, none⟩
  | succ count ih =>
    have first := Runs.and (counted_readByteData (by decide : mmEepromAssistCmdAddr ≤ 0xffff)).clean
      (readByteData_leaves (by decide))
    intro world
    unfold awaitCommand
    rcases first world with ⟨_, _, ran, free, bytes, rfl, rfl⟩ | ⟨_, ran, broken, -⟩
    · rw [result_bind_some ran]
      by_cases ready : bytes 3 = 0
      · rw [if_pos ready]
        exact .inl ⟨(), _, rfl, free⟩
      · rw [if_neg ready]
        rcases ih (world.add _) with
          ⟨_, back, onward, frees⟩ | ⟨back, onward, broken | ⟨busy, full, all, rfl⟩⟩
        · exact .inl ⟨(), _, by rw [onward, add_add], free.append frees⟩
        · exact .inr ⟨_, by rw [onward, add_add], .inl (broken.append free)⟩
        · exact .inr ⟨(bytes :: busy).flatMap (readBack mmEepromAssistCmdAddr),
            by rw [onward, add_add]; rfl, .inr ⟨bytes :: busy, congrArg (· + 1) full,
              List.forall_mem_cons.mpr ⟨ready, all⟩, rfl⟩⟩
    · rw [result_bind_none ran]
      exact .inr ⟨_, rfl, .inl broken⟩

theorem careful_awaitCommand : Careful (awaitCommand maxTries) :=
  (awaitCommand_runs maxTries).mono (fun _ _ => id) fun _ stopped =>
    stopped.imp_right fun ⟨busy, full, all, same⟩ => ⟨[], busy, full, all, nofun, same⟩

/-- Blocks of values from an offset on, one behind the other, each with its command. -/
def BlocksWritten (values : Nat → UInt8) : Nat → Nat → List Entry → Prop
  | _, 0, entries => entries = []
  | offset, count + 1, entries => ∃ await back, Awaited await ∧
    BlocksWritten values (offset + eepromBlockWriteSize) count back ∧
    entries = (List.range (eepromBlockWriteSize / 4)).map (holding values offset) ++
      written mmEepromAssistCmdAddr (if count = 0 then 0x82 else 0x81) :: await ++ back

theorem writeBlocks_leaves (values : Nat → UInt8) (offset count : Nat) :
    Leaves (writeBlocks values offset count) fun _ => BlocksWritten values offset count := by
  induction count generalizing offset with
  | zero => exact .pure rfl
  | succ count ih =>
    refine (writeHolding_leaves values offset rfl).bind fun _ =>
      (writeByteData_leaves (by decide) _).bind fun _ => (awaitCommand_leaves maxTries).bind
        fun _ => (ih _).mono ?_
    rintro _ back blocks await awaited command rfl front rfl
    exact ⟨await, back, awaited, blocks, by simp⟩

theorem careful_writeBlocks (values : Nat → UInt8) (offset count : Nat) :
    Careful (writeBlocks values offset count) := by
  induction count generalizing offset with
  | zero => exact .pure ()
  | succ count ih =>
    exact (careful_writeHolding values offset rfl).bind fun _ =>
      (careful_writeByteData (by decide) _).bind fun _ => careful_awaitCommand.bind fun _ => ih _

/-- So many blocks of values are written at an offset of the EEPROM. -/
def WrittenAt (offset : Nat) (values : Nat → UInt8) (count : Nat) (entries : List Entry) : Prop :=
  ∃ blocks, BlocksWritten values 0 count blocks ∧
    entries = regs (pageRegs offset) ++ regs (offsetRegs offset) ++ blocks

theorem doUpdate_leaves (updateOffset : Nat) (txbuf : Nat → UInt8) (length : Nat) (isEnd : Bool) :
    Leaves (doUpdate updateOffset txbuf length isEnd) fun _ entries => ∃ front image back,
      entries = front ++ image ++ back ∧ WrittenAt updateOffset
        (fun index => if index < length then txbuf index else 0)
        ((length + amendLen length isEnd) / eepromBlockWriteSize) image := by
  have image : Leaves (writeEepromImage updateOffset txbuf length isEnd) fun _ =>
      WrittenAt updateOffset (fun index => if index < length then txbuf index else 0)
        ((length + amendLen length isEnd) / eepromBlockWriteSize) := by
    unfold writeEepromImage
    by_cases long : eepromPageSize < length
    · rw [if_pos long]
      exact .failure
    · rw [if_neg long]
      refine (writeBytes_leaves rfl).bind fun _ => (writeBytes_leaves rfl).bind fun _ =>
        (writeBlocks_leaves _ 0 _).mono ?_
      rintro _ blocks written _ rfl _ rfl
      exact ⟨blocks, written, (append_assoc ..).symm⟩
  refine (careful_preUpdate.when _).leaves.bind fun _ => image.bind fun _ =>
    (careful_postUpdate.when _).leaves.mono ?_
  rintro _ back _ middle writtenAt front _
  exact ⟨front, middle, back, (append_assoc ..).symm, writtenAt⟩

theorem careful_doUpdate {length : Nat} (updateOffset : Nat) (txbuf : Nat → UInt8) (isEnd : Bool)
    (inside : length ≤ eepromPageSize) : Careful (doUpdate updateOffset txbuf length isEnd) := by
  have image : Careful (writeEepromImage updateOffset txbuf length isEnd) := by
    unfold writeEepromImage
    rw [if_neg (Nat.not_lt.mpr inside)]
    exact (careful_writeBytes rfl).bind fun _ => (careful_writeBytes rfl).bind fun _ =>
      careful_writeBlocks _ 0 _
  exact (careful_preUpdate.when _).bind fun _ => image.bind fun _ => careful_postUpdate.when _


/-! ## The mutex -/

theorem free_flatMap_readBack (address : Nat) (answers : List (Nat → UInt8)) :
    Free (answers.flatMap (readBack address)) := by
  intro entry there
  obtain ⟨bytes, _, either⟩ := List.mem_flatMap.mp there
  rcases List.mem_pair.mp either with rfl | rfl
  · rfl
  · rfl

theorem Stopped.untouched {entries : List Entry} (stopped : Stopped entries) :
    Untouched entries := by
  rcases stopped with broken | ⟨front, busy, _, _, free, rfl⟩
  · exact broken.untouched
  · exact (free.append (free_flatMap_readBack _ busy)).untouched

theorem Statics.stage_fits {begun staged : Statics} {call : Call}
    (met : begun.stage call = some staged) : staged.bufOffset ≤ sectorSz256 := by
  unfold Statics.stage at met
  split at met
  · cases met
  · split_ifs at met with outside
    cases met
    exact Nat.not_lt.mp outside

/-- An update releases the mutex as often as it has taken it. -/
theorem update_exactly (call : Call) (statics : Statics) :
    Exactly (pcieRetimerFwUpdate call statics) (fun _ entries => Released entries)
      fun _ => True := by
  have silent : ∀ answer, Exactly (pure answer : Program Port (Option (Result × Statics)))
      (fun _ entries => Released entries) fun _ => True := fun answer =>
    (Runs.pure answer).mono (fun _ _ how => iff_of_true (.inl (how.2 ▸ nofun)) trivial) nofun
  unfold pcieRetimerFwUpdate
  split
  · exact silent _
  · split
    · exact silent _
    · rename_i staged met
      split
      · exact silent _
      · intro world
        rw [result_bind_attempt]
        rcases underMutex_runs (careful_doUpdate staged.startOffset
          (staged.txbuf.getD fun _ => 0) call.sectorEnd (Statics.stage_fits met)) world with
          ⟨outcome, _, ran, inner, rfl, how⟩ | ⟨_, ran, rfl⟩
        · rw [ran]
          cases outcome with
          | none => exact .inl ⟨_, _, result_pure _, iff_of_true
              (released_under (Stopped.untouched how)) trivial⟩
          | some _ => exact .inl ⟨_, _, result_pure _, iff_of_true
              (released_under (Free.untouched how)) trivial⟩
        · rw [ran]
          exact .inl ⟨_, _, result_pure _, iff_of_true (.inl untouched_refused) trivial⟩

/-- Each operation is right exactly as far as what has been answered to it allows. -/
theorem access_right_iff (eepromOffset numBytes : Nat) (tempCalCodeAvg : UInt8) (call : Call)
    (statics : Statics) :
    Exactly (readBlockDataToSram eepromOffset numBytes) (SramRight eepromOffset numBytes)
        SramGuarded ∧
      Exactly getTempCalibrationCodes CalibrationRight CalibrationGuarded ∧
        Exactly (readAvgTemp tempCalCodeAvg) (TemperatureRight tempCalCodeAvg) (fun _ => True) ∧
          Exactly (pcieRetimerFwUpdate call statics) (fun _ entries => Released entries)
            fun _ => True :=
  ⟨sram_exactly eepromOffset numBytes, calibration_exactly, temperature_exactly tempCalCodeAvg,
    update_exactly call statics⟩

def busyRetimer : Port := ⟨⟨fun _ _ => some fun _ => 0xff, fun _ => true⟩, []⟩

theorem stored_of_sramRight {eepromOffset count : Nat} {entries : List Entry}
    (right : SramRight eepromOffset (count + 1) (some ()) entries) :
    ∃ byte, Entry.stored byte ∈ entries := by
  obtain ⟨inner, rfl, front, back, rfl, ⟨busy, ready, data, _, _, _, rfl⟩, _⟩ := right.2 rfl
  exact ⟨data 3, by simp⟩

/-- An indirect read of a byte by a command that is never executed succeeds. -/
theorem busyRetimer_not_right :
    ¬ Exactly (readBlockDataToSram 0 1) (SramRight 0 1) fun _ => True := by
  intro always
  have succeeds : ((readBlockDataToSram 0 1).result busyRetimer).1 = some () := by decide +kernel
  have noneStored : (((readBlockDataToSram 0 1).result busyRetimer).2.log.all fun entry =>
      entry.isTransfer || !entry.plain) = true := by decide +kernel
  generalize readBlockDataToSram 0 1 = program at *
  rcases always busyRetimer with ⟨_, entries, ran, right⟩ | ⟨entries, ran, _⟩
  · obtain ⟨byte, there⟩ := stored_of_sramRight (right.mpr trivial)
    rw [ran] at noneStored
    nomatch (List.all_eq_true.mp noneStored _ there)
  · rw [ran] at succeeds
    cases succeeds

/-! ## The runs of calls -/

def Call.chunk (call : Call) : List UInt8 := (List.range call.msgLen).map call.msgBuf

/-- The driver, with the offset and the bytes of the block for which it has told success so far. -/
structure Updater where
  statics : Statics
  port : Port
  block : Option (Nat × List UInt8)

/-- The block with the bytes of a call, which starts a fresh one if there is none. -/
def Updater.staged (updater : Updater) (call : Call) : Nat × List UInt8 :=
  let block := updater.block.getD (call.offset, [])
  (block.1, block.2 ++ call.chunk)

def Updater.flushes (updater : Updater) (call : Call) : Bool :=
  (updater.staged call).2.length = sectorSz256 || call.sectorEnd

def step (updater : Updater) (call : Call) : Option Updater :=
  match (pcieRetimerFwUpdate call updater.statics).result updater.port with
  | (some (some (result, statics)), port) => some
    { statics
      port
      block := if result = .success ∧ updater.flushes call = false then some (updater.staged call)
        else none }
  | _ => none

def start (port : Port) : Updater := ⟨⟨false, none, 0, 0, false⟩, port, none⟩

/-- The buffer has a block that is not written yet. -/
structure Opened (statics : Statics) (block : Nat × List UInt8) : Prop where
  isInit : statics.isInit = true
  startOffset : statics.startOffset = block.1
  bufOffset : statics.bufOffset = block.2.length
  held : ∃ txbuf, statics.txbuf = some txbuf ∧ (List.range block.2.length).map txbuf = block.2

/-- A block is written at the offset of its first byte, and padded at the end of the image only. -/
def BlockWritten (block : Nat × List UInt8) (isEnd : Bool) (entries : List Entry) : Prop :=
  ∃ front image back count, entries = front ++ image ++ back ∧
    WrittenAt block.1 (fun index => block.2.getD index 0) count image ∧
      block.2.length ≤ count * eepromBlockWriteSize ∧
        count * eepromBlockWriteSize < block.2.length + eepromBlockWriteSize ∧
          (isEnd = false → count * eepromBlockWriteSize = block.2.length)

/-- What is claimed of a call: it stays inside a buffer that is not freed, success says that the
block is staged or written, and an update is in progress if and only if the call has succeeded and
is not the last one. -/
def CallRight (updater : Updater) (call : Call) : Prop :=
  ∃ result statics entries, (pcieRetimerFwUpdate call updater.statics).result updater.port =
      (some (some (result, statics)), updater.port.add entries) ∧
    (statics.isUpdateOngoing = true ↔ result = .success ∧ call.sectorEnd = false) ∧
      (result = .success → if updater.flushes call = true then
          BlockWritten (updater.staged call) call.sectorEnd entries
        else Opened statics (updater.staged call))

/-- The mutex is granted, no transfer fails, and no command stays busy for all the polls. -/
def Answered (entries : List Entry) : Prop :=
  entries ≠ [.refused] ∧ ∀ inner, entries = .locked :: inner ++ [.unlocked] → ¬ Stopped inner

/-- An allocation fails outside an update only. Else the chunk fits behind the staged ones, the
first block of an update is complete at once and starts at zero, and the retimer answers. -/
def Guarded (updater : Updater) (call : Call) : Prop :=
  if updater.block = none ∧ (call.mallocs.1 <|> call.mallocs.2).isNone = true then
    updater.statics.isUpdateOngoing = false
  else (updater.staged call).2.length ≤ sectorSz256 ∧
    (updater.statics.isUpdateOngoing = true ∨
      updater.flushes call = true ∧ (updater.staged call).1 = 0) ∧
    ∀ entries, ((pcieRetimerFwUpdate call updater.statics).result updater.port).2 =
      updater.port.add entries → Answered entries

/-- The statics agree with the block that is staged. -/
def Sound (updater : Updater) : Prop :=
  match updater.block with
  | none => updater.statics.isInit = false
  | some block => Opened updater.statics block

section Runs

variable {updater : Updater} {call : Call} {statics : Statics} {block : Nat × List UInt8}

theorem Sound.begin (sound : Sound updater) :
    updater.block = none ∧ (call.mallocs.1 <|> call.mallocs.2) = none ∧
        updater.statics.begin call = none ∨
      ∃ begun, updater.statics.begin call = some begun ∧
        Opened begun (updater.block.getD (call.offset, [])) ∧
          begun.isUpdateOngoing = updater.statics.isUpdateOngoing ∧
            ¬ (updater.block = none ∧ (call.mallocs.1 <|> call.mallocs.2).isNone = true) := by
  unfold Statics.begin
  unfold Sound at sound
  cases known : updater.block with
  | some block =>
    rw [known] at sound
    rw [if_pos sound.isInit]
    exact .inr ⟨_, rfl, sound, rfl, fun both => nomatch both.1⟩
  | none =>
    rw [known] at sound
    rw [if_neg (by rw [sound]; decide)]
    cases met : call.mallocs.1 <|> call.mallocs.2 with
    | none => exact .inl ⟨rfl, rfl, rfl⟩
    | some fresh =>
      exact .inr ⟨_, rfl, ⟨rfl, rfl, rfl, fresh, rfl, rfl⟩, rfl, fun both => nomatch both.2⟩

theorem Opened.stage (opened : Opened statics block)
    (fits : (block.2 ++ call.chunk).length ≤ sectorSz256) : ∃ staged,
      statics.stage call = some staged ∧ Opened staged (block.1, block.2 ++ call.chunk) ∧
        staged.isUpdateOngoing = statics.isUpdateOngoing := by
  obtain ⟨isInit, startOffset, bufOffset, txbuf, some, held⟩ := opened
  have length : (block.2 ++ call.chunk).length = statics.bufOffset + call.msgLen := by
    rw [length_append, bufOffset, Call.chunk, length_map, length_range]
  unfold Statics.stage
  rw [some]
  dsimp only
  rw [if_neg (by rw [← length]; omega)]
  refine ⟨_, rfl, ⟨isInit, startOffset, length.symm, _, rfl, ?_⟩, rfl⟩
  rw [length, range_add, map_append, List.map_map, bufOffset]
  refine congrArg₂ _ (.trans (map_congr_left fun index inside => ?_) held)
    (map_congr_left fun index inside => ?_)
  · rw [mem_range] at inside
    exact if_neg (by omega)
  · rw [mem_range] at inside
    exact (if_pos ⟨Nat.le_add_right _ _, Nat.add_lt_add_left inside _⟩).trans
      (congrArg _ (Nat.add_sub_cancel_left _ _))

/-- A flush of a whole block, or of the last one, writes it if the retimer answers. -/
theorem flush_writes (opened : Opened statics block) (fits : block.2.length ≤ sectorSz256)
    (isEnd : Bool) (flushes : (block.2.length = sectorSz256 || isEnd) = true)
    {txbuf : Nat → UInt8} (held : statics.txbuf = some txbuf) (port : Port) :
    ∃ outcome entries,
      (underMutex (doUpdate statics.startOffset txbuf statics.bufOffset isEnd)).result port =
        (outcome, port.add entries) ∧
      (Answered entries → outcome = some (some ()) ∧ BlockWritten block isEnd entries) := by
  obtain ⟨-, startOffset, bufOffset, other, same, bytes⟩ := opened
  cases held.symm.trans same
  rw [startOffset, bufOffset]
  rcases underMutex_runs ((careful_doUpdate block.1 txbuf isEnd fits).and
    (doUpdate_leaves block.1 txbuf block.2.length isEnd)) port with
    ⟨outcome, entries, ran, inner, rfl, how⟩ | ⟨entries, ran, refused⟩
  · cases outcome with
    | none => exact ⟨_, _, ran, fun answered => absurd how.1 (answered.2 inner rfl)⟩
    | some _ =>
      obtain ⟨-, front, image, back, rfl, writtenAt⟩ := how
      have values : (fun index => if index < block.2.length then txbuf index else 0) =
          fun index => block.2.getD index 0 := by
        funext index
        by_cases inside : index < block.2.length
        · rw [if_pos inside, getD_eq_getElem _ _ inside]
          conv_rhs => rw [getElem_of_eq bytes.symm]
          rw [getElem_map, getElem_range]
        · rw [if_neg inside, getD_eq_default _ _ (Nat.not_lt.mp inside)]
      rw [values] at writtenAt
      refine ⟨_, _, ran, fun _ => ⟨rfl, .locked :: front, image, back ++ [.unlocked], _,
        by simp, writtenAt, ?_⟩⟩
      unfold amendLen eepromBlockWriteSize
      unfold sectorSz256 at flushes
      cases isEnd with
      | true =>
        simp only [true_and]
        refine ⟨?_, ?_, nofun⟩
        · split_ifs <;> omega
        · split_ifs <;> omega
      | false =>
        have whole : block.2.length = 256 := by simpa using flushes
        rw [whole]
        decide
  · exact ⟨_, _, ran, fun answered => absurd refused answered.1⟩

theorem Sound.goes (sound : Sound updater) (guarded : Guarded updater call) :
    CallRight updater call ∧ ∃ next, step updater call = some next ∧ Sound next := by
  unfold Guarded at guarded
  rcases sound.begin with ⟨idle, none, met⟩ | ⟨begun, met, opened, kept, allocated⟩
  · rw [if_pos ⟨idle, by rw [none]; rfl⟩] at guarded
    have ran : (pcieRetimerFwUpdate call updater.statics).result updater.port =
        (some (some (.outOfHeap, { updater.statics with txbuf := .none })),
          updater.port.add []) := by
      unfold pcieRetimerFwUpdate
      rw [met, add_nil]
      rfl
    refine ⟨⟨_, _, _, ran, iff_of_false ?_ nofun, nofun⟩, _, by rw [step, ran], ?_⟩
    · rw [guarded]
      exact Bool.false_ne_true
    · unfold Sound at sound ⊢
      rw [idle] at sound
      exact sound
  · rw [if_neg allocated] at guarded
    obtain ⟨fits, begins, answers⟩ := guarded
    obtain ⟨staged, put, full, same⟩ := opened.stage fits
    have flag : staged.isUpdateOngoing = updater.statics.isUpdateOngoing := same.trans kept
    have flush : staged.flushes call = updater.flushes call := by
      unfold Statics.flushes
      rw [full.bufOffset]
      rfl
    cases goes : updater.flushes call with
    | false =>
      have ran : (pcieRetimerFwUpdate call updater.statics).result updater.port =
          (some (some (.success, staged)), updater.port.add []) := by
        unfold pcieRetimerFwUpdate
        simp only [met, put, flush, goes, if_pos, result_pure, add_nil]
      have going : updater.statics.isUpdateOngoing = true :=
        begins.resolve_right fun both => by rw [goes] at both; exact nomatch both.1
      have middle : call.sectorEnd = false := (Bool.or_eq_false_iff.mp goes).2
      refine ⟨⟨_, _, _, ran, iff_of_true (flag.trans going) ⟨rfl, middle⟩, fun _ => ?_⟩,
        _, by rw [step, ran], ?_⟩
      · rw [goes]
        exact full
      · rw [if_pos ⟨rfl, goes⟩]
        exact full
    | true =>
      obtain ⟨txbuf, held, -⟩ := full.held
      obtain ⟨outcome, entries, ran, writes⟩ :=
        flush_writes full fits call.sectorEnd goes held updater.port
      have reached : (pcieRetimerFwUpdate call updater.statics).result updater.port = (some (some
          (match outcome with
            | none => (.updateFail, { staged with txbuf := none })
            | some none => (.updateFail, { staged with
                txbuf := none, isUpdateOngoing := staged.ongoing call false })
            | some (some _) => (.success, { staged with
                txbuf := none, isInit := false, isUpdateOngoing := staged.ongoing call true }))),
          updater.port.add entries) := by
        unfold pcieRetimerFwUpdate
        simp only [met, put, flush, goes, held, Option.getD_some, Bool.true_eq_false, if_false,
          result_bind_attempt, ran]
        rcases outcome with _ | _ | _ <;> rfl
      obtain ⟨rfl, blockWritten⟩ := writes (answers entries (congrArg Prod.snd reached))
      have ongoing : staged.ongoing call true = true ↔ call.sectorEnd = false := by
        have begun : staged.isUpdateOngoing = true ∨ staged.startOffset = 0 :=
          begins.imp flag.trans fun both => full.startOffset.trans both.2
        unfold Statics.ongoing
        rcases begun with one | one <;> cases call.sectorEnd <;> simp [one]
      refine ⟨⟨_, _, _, reached, ongoing.trans (and_iff_right rfl).symm, fun _ => ?_⟩,
        _, by rw [step, reached], ?_⟩
      · rw [if_pos goes]
        exact blockWritten
      · unfold Sound
        rw [if_neg fun both => by rw [goes] at both; exact nomatch both.2]

end Runs

/-- Each call of a run that meets the guard keeps to the staging buffer and gives back what it took.
-/
theorem updateRight_run (port : Port) (calls : List Call)
    (meets : Meets step Guarded (start port) calls) : Meets step CallRight (start port) calls := by
  have sound : Sound (start port) := rfl
  generalize start port = updater at meets sound ⊢
  induction calls generalizing updater with
  | nil => trivial
  | cons call rest ih =>
    obtain ⟨right, next, moved, after⟩ := sound.goes meets.1
    exact .cons right moved (ih next (meets.tail moved).2 after)

def calm : Entry → Bool
  | .failed | .refused => false
  | .read _ bytes => bytes 3 == 0
  | _ => true

theorem answered_of_calm {entries : List Entry} (all : entries.all calm = true) :
    Answered entries := by
  rw [List.all_eq_true] at all
  refine ⟨fun refused => ?_, fun inner same stopped => ?_⟩
  · rw [refused] at all
    exact nomatch all _ mem_cons_self
  · have inside : ∀ entry ∈ inner, calm entry = true := fun entry there =>
      all entry (by simp [same, there])
    rcases stopped with ⟨front, rfl, -⟩ | ⟨front, busy, full, stays, -, rfl⟩
    · exact nomatch inside .failed (by simp)
    · cases busy with
      | nil => cases full
      | cons bytes rest =>
        have zero := inside (.read 1 bytes) (by simp [readBack])
        exact stays bytes mem_cons_self (eq_of_beq zero)

def readyRetimer : Port := ⟨⟨fun _ _ => some fun _ => 0, fun _ => true⟩, []⟩

def lastCall : Call := ⟨0, 40, fun _ => 7, true, (none, some fun _ => 0), by decide⟩

/-- The last call of an update, to a retimer that is ready. -/
theorem updateRight_lastCall : Meets step CallRight (start readyRetimer) [lastCall] := by
  refine updateRight_run _ _ ⟨⟨by decide, .inr (by decide), fun entries ran => ?_⟩, ?_⟩
  · have all : ((pcieRetimerFwUpdate lastCall (start readyRetimer).statics).result
        (start readyRetimer).port).2.log.all calm = true := by decide +kernel
    rw [ran] at all
    exact answered_of_calm all
  · split <;> trivial

def longChunk : Call := ⟨0, 200, fun _ => 7, false, (some fun _ => 0, none), by decide⟩

/-- Two chunks at one offset leave the staging buffer. -/
theorem longChunk_not_right : ¬ ∀ port calls, Meets step CallRight (start port) calls := by
  intro claimed
  have goes : (step (start readyRetimer) longChunk).isSome = true := by decide +kernel
  have strays : (run step (start readyRetimer) [longChunk, longChunk]).isNone = true := by
    decide +kernel
  obtain ⟨next, moved⟩ := Option.isSome_iff_exists.mp goes
  have later := ((claimed readyRetimer [longChunk, longChunk]).tail moved).2
  obtain ⟨_, _, _, ran, -⟩ := later.1
  rw [run_cons, moved] at strays
  dsimp only at strays
  rw [run_cons, step, ran] at strays
  exact nomatch strays

end OpenBic.Dev.Pt5161lUpdate
