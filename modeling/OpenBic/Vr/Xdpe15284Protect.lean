import OpenBic.Library.Machine
import OpenBic.Library.Talk
import OpenBic.Vr.Mp2971
import OpenBic.Vr.Xdpe15284

/-!
# The write protection of an XDPE15284

The three operations of `xdpe15284.c` that lift the write protection of a device for what they do:
the reading of the checksum, the reading of the remaining writes, and the programming. The bus
answers each transfer as it likes. What an operation has done with the write protection is noted
when it ends.
-/

namespace OpenBic.Xdpe15284

open Option Library.Machine Library.Talk Vr

/-! ## The bus -/

/-- A bus and an address on it. -/
abbrev Target := UInt8 × UInt8

/-- What an operation has done with the write protection of its device. -/
structure Bracket where
  target : Target
  disabled : Bool
  enabled : Option Bool
  success : Bool
  writable : Bool
deriving DecidableEq

/-- The driver and the devices on the bus. -/
structure Station where
  answers : Nat → Answer
  asked : Nat
  writeProtect : Target → UInt8
  /-- `write_protect_default_val`, one for all devices. -/
  writeProtectDefaultVal : UInt8
  disables : Nat
  brackets : List Bracket

def writeProtectCmdReg : UInt8 := 0x10

def disableWriteProtectVal : UInt8 := 0x00

/-- `XDPE15284_WRITE_PROTECT_DEFAULT_VAL`, which stands for a value that is not known yet. -/
def writeProtectUnknownVal : UInt8 := 0xFF

def Station.take (station : Station) (target : Target) (value : UInt8) : Station :=
  { station with
    writeProtect := fun other => if other = target then value else station.writeProtect other
    disables :=
      if value = disableWriteProtectVal ∧ station.writeProtect target ≠ disableWriteProtectVal
      then station.disables + 1 else station.disables }

def Station.next (station : Station) : Station := { station with asked := station.asked + 1 }

def i2cMasterWrite (target : Target) (register : UInt8) (bytes : List UInt8) :
    Program Station Unit :=
  exchange fun station =>
    let answer := station.answers station.asked
    let written := match bytes with
      | [value] => if register = writeProtectCmdReg ∧ answer.taken then
          station.next.take target value else station.next
      | _ => station.next
    (if answer.ok then some () else none, written)

def i2cMasterRead (target : Target) (register : UInt8) : Program Station (List UInt8) :=
  exchange fun station =>
    let answer := station.answers station.asked
    let data := if register = writeProtectCmdReg then [station.writeProtect target] else answer.data
    (if answer.ok then some data else none, station.next)

/-! ## The write protection -/

/-- `XDPE15284_WRITE_PROTECT_OPTIONAL`. -/
inductive WriteProtectOption where
  | enable
  | disable

def Station.setVal (station : Station) : WriteProtectOption → UInt8
  | .enable => station.writeProtectDefaultVal
  | .disable => disableWriteProtectVal

/-- `xdpe15284_set_write_protect_reg`, with its read-back. -/
def setWriteProtectReg (target : Target) (option : WriteProtectOption) : Program Station Unit := do
  let station ← look
  i2cMasterWrite target writeProtectCmdReg [station.setVal option]
  let data ← i2cMasterRead target writeProtectCmdReg
  if data.headD 0 ≠ station.setVal option then failure

def initWriteProtectDefaultVal (target : Target) : Program Station Unit := do
  let data ← i2cMasterRead target writeProtectCmdReg
  change fun station => { station with writeProtectDefaultVal := data.headD 0 }

/-- `xdpe15284_set_write_protect`. Where devices are not protected by default, nothing is done. -/
def setWriteProtect (target : Target) (option : WriteProtectOption) : Program Station Unit := do
  let station ← look
  if station.writeProtectDefaultVal ≠ disableWriteProtectVal then
    if station.writeProtectDefaultVal = writeProtectUnknownVal then
      initWriteProtectDefaultVal target
    setWriteProtectReg target option

/-! ## Commands -/

def mfrFwCmdDataReg : UInt8 := 0xFD

def mfrFwCmdReg : UInt8 := 0xFE

/-- `XDPE15284_NOP_CMD`. -/
def nopCmd : UInt8 := 0x00

def getRemainingWrCmd : UInt8 := 0x10

def otpConfSto : UInt8 := 0x11

def otpFileInvd : UInt8 := 0x12

def calculateCrcCmd : UInt8 := 0x2D

/-- One try of a command, with four bytes for it or none, and with a number of bytes to read or
none. The first byte that is read is their number. -/
def mfrFwTry (target : Target) (cmd : UInt8) (txBuf : Option (List UInt8)) (rxLen : Option Nat) :
    Program Station (List UInt8) := do
  i2cMasterWrite target mfrFwCmdReg [nopCmd]
  if let some bytes := txBuf then
    i2cMasterWrite target mfrFwCmdDataReg (4 :: bytes)
  i2cMasterWrite target mfrFwCmdReg [cmd]
  match rxLen with
  | some count =>
    let data ← i2cMasterRead target mfrFwCmdDataReg
    pure ((List.range count).map fun index => data.getD (index + 1) 0)
  | none => pure []

/-- `xdpe15284_mfr_fw_operation`: three tries. -/
def mfrFwOperation (target : Target) (cmd : UInt8) (txBuf : Option (List UInt8))
    (rxLen : Option Nat) : Program Station (List UInt8) :=
  mfrFwTry target cmd txBuf rxLen <|> mfrFwTry target cmd txBuf rxLen <|>
    mfrFwTry target cmd txBuf rxLen

/-! ## The operations -/

def mfrFwCmdDataLen : Nat := 4

def remainingWriteDataLen : Nat := 2

/-- `XDPE15284C_CONF_SIZE`. -/
def confSize : Nat := 1344

/-- How an operation ends. -/
structure Ending (α : Type) where
  reported : Option α
  enabled : Option Bool

/-- An operation returns, and is noted. It is given as it was before and after the protection was
lifted. -/
def finish {α : Type} (target : Target) (before lifted : Station) (ending : Ending α) :
    Program Station α :=
  exchange fun station => (ending.reported, { station with
    brackets := station.brackets ++ [{
      target
      disabled := decide (before.disables < lifted.disables)
      enabled := ending.enabled
      success := ending.reported.isSome
      writable := station.writeProtect target == disableWriteProtectVal }] })

/-- What `xdpe15284_get_checksum` and `xdpe15284_get_remaining_wr` have in common: a command that is
answered with bytes. The first two returns leave the protection as it is. -/
def getByCommand (target : Target) (cmd : UInt8) (rxLen : Nat) :
    Program Station (List UInt8) := do
  let before ← look
  let lifting ← (setWriteProtect target .disable).attempt
  let lifted ← look
  if lifting.isNone then finish target before lifted ⟨none, none⟩
  else
    let answered ← (mfrFwOperation target cmd none (some rxLen)).attempt
    if answered.isNone then finish target before lifted ⟨none, none⟩
    else
      let protecting ← (setWriteProtect target .enable).attempt
      finish target before lifted
        ⟨if protecting.isSome then answered else none, some protecting.isSome⟩

def getChecksum (target : Target) : Program Station (List UInt8) := do
  let checksum ← getByCommand target calculateCrcCmd mfrFwCmdDataLen
  pure checksum.reverse

def getRemainingWr (target : Target) : Program Station UInt8 := do
  let buf ← getByCommand target getRemainingWrCmd remainingWriteDataLen
  pure (UInt8.ofNat (((buf.getD 1 0).toNat * 256 + (buf.getD 0 0).toNat) / confSize))

def statusCml : UInt8 := 0x7E

/-- `CML_OTHER_MEMORY_FAULT_BIT`. -/
def otherMemoryFault : UInt8 := 0x01

/-- `XDPE15284_IFX_MFR_AHB_ADDR_REG`. -/
def ahbAddrReg : UInt8 := 0xCE

/-- `XDPE15284_IFX_MFR_REG_WRITE_REG`. -/
def regWriteReg : UInt8 := 0xDE

/-- `SCRATCHPAD_ADDRESS`, the lowest byte first. -/
def scratchpadAddress : List UInt8 := [0x00, 0xE0, 0x05, 0x20]

def dwordBytes (dword : UInt32) : List UInt8 :=
  [dword.toUInt8, (dword >>> 8).toUInt8, (dword >>> 16).toUInt8, (dword >>> 24).toUInt8]

/-- The start of the sections of one type: the old ones are made invalid. -/
def startType (target : Target) (type : UInt8) : Program Station Unit := do
  i2cMasterWrite target statusCml [0x00]
  let _ ← mfrFwOperation target otpFileInvd (some [type, 0x00, 0x00, 0x00]) none
  i2cMasterWrite target ahbAddrReg (4 :: scratchpadAddress)

def programData (target : Target) : List UInt32 → Program Station Unit
  | [] => pure ()
  | dword :: rest => do
    i2cMasterWrite target regWriteReg (4 :: dwordBytes dword)
    programData target rest

def storeType (target : Target) (size : Nat) : Program Station Unit := do
  let _ ← mfrFwOperation target otpConfSto
    (some [UInt8.ofNat size, UInt8.ofNat (size / 256), 0x00, 0x00]) none
  let data ← i2cMasterRead target statusCml
  if data.headD 0 &&& otherMemoryFault ≠ 0 then failure

/-- The loop of `program_xdpe15284`, after a section of the type `previous`, if any. -/
def programSections (target : Target) :
    Option UInt8 → Nat → List ConfigSect → Program Station Unit
  | _, _, [] => pure ()
  | previous, size, sect :: rest => do
    let starts := previous != some sect.type
    if starts then startType target sect.type
    programData target sect.data
    let size := (if starts then 0 else size) + sect.data.length * 4
    if rest.head?.map (·.type) ≠ some sect.type then storeType target size
    programSections target (some sect.type) size rest

/-- `program_xdpe15284`. That the device could not be protected again is only logged. -/
def programXdpe15284 (target : Target) (sections : List ConfigSect) : Program Station Unit := do
  let before ← look
  let lifting ← (setWriteProtect target .disable).attempt
  let lifted ← look
  if lifting.isNone then finish target before lifted ⟨none, none⟩
  else
    let written ← (programSections target none 0 sections).attempt
    let protecting ← (setWriteProtect target .enable).attempt
    finish target before lifted ⟨written, some protecting.isSome⟩

/-- `xdpe15284_fwupdate`, with what the parser makes of the image if it and the check accept it. -/
def fwupdate (target : Target) (config : Option Config) : Program Station Unit := do
  let remainWr ← getRemainingWr target
  if remainWr = 0 then failure
  else
    match config with
    | none => failure
    | some config => programXdpe15284 target config.sections

/-- What can be asked of the driver. -/
inductive Operation where
  | getChecksum (target : Target)
  | getRemainingWr (target : Target)
  | fwupdate (target : Target) (config : Option Config)

def Station.step (station : Station) : Operation → Option Station
  | .getChecksum target => some ((getChecksum target).result station).2
  | .getRemainingWr target => some ((getRemainingWr target).result station).2
  | .fwupdate target config => some ((Xdpe15284.fwupdate target config).result station).2

/-! ## What is claimed -/

/-- An operation that lifted the protection has put it back, or has tried to in vain and reports an
error. -/
def Bracket.Closed (bracket : Bracket) : Prop :=
  bracket.disabled = true →
    bracket.enabled = some true ∧ bracket.writable = false ∨
      bracket.enabled = some false ∧ bracket.success = false

def Station.lifted (station : Station) (target : Target) : Station :=
  ((setWriteProtect target .disable).result station).2

/-- The disabling takes effect. -/
def Station.Lifts (station : Station) (target : Target) : Prop :=
  station.disables < (station.lifted target).disables

/-- It is confirmed. -/
def Station.Verified (station : Station) (target : Target) : Prop :=
  ((setWriteProtect target .disable).result station).1 = some ()

/-- The enabling fails. -/
def Station.StaysOpen (station : Station) (target : Target) : Prop :=
  ((setWriteProtect target .enable).result station).1 = none

/-- The value to put back is known. -/
def Station.Known (station : Station) : Prop :=
  station.writeProtectDefaultVal ≠ writeProtectUnknownVal

/-- A command closes what it opened. -/
def Station.CommandCloses (station : Station) (target : Target) (cmd : UInt8) (rxLen : Nat) :
    Prop :=
  station.Lifts target → station.Verified target ∧
    ∃ bytes commanded, (mfrFwOperation target cmd none (some rxLen)).result
        (station.lifted target) = (some bytes, commanded) ∧
      ((station.lifted target).Known ∨ commanded.StaysOpen target)

/-- A programming fails where the device cannot be protected again. -/
def Station.ProgramCloses (station : Station) (target : Target) (sections : List ConfigSect) :
    Prop :=
  station.Lifts target → station.Verified target ∧
    ∃ ended programmed, (programSections target none 0 sections).result (station.lifted target) =
        (ended, programmed) ∧
      (programmed.StaysOpen target → ended = none) ∧
      (¬ programmed.StaysOpen target → (station.lifted target).Known)

/-- The condition on an operation. -/
def Station.Closes (station : Station) : Operation → Prop
  | .getChecksum target => station.CommandCloses target calculateCrcCmd mfrFwCmdDataLen
  | .getRemainingWr target => station.CommandCloses target getRemainingWrCmd remainingWriteDataLen
  | .fwupdate target config =>
    station.CommandCloses target getRemainingWrCmd remainingWriteDataLen ∧
      ∀ remainWr counted, (getRemainingWr target).result station = (some remainWr, counted) →
        remainWr ≠ 0 → ∀ parsed ∈ config, counted.ProgramCloses target parsed.sections

/-! ## What stays -/

/-- The protection and what the driver has of it stay. -/
structure Untouched (before after : Station) : Prop where
  writeProtect : after.writeProtect = before.writeProtect
  defaultVal : after.writeProtectDefaultVal = before.writeProtectDefaultVal
  disables : after.disables = before.disables
  brackets : after.brackets = before.brackets

theorem untouched : Frame Untouched where
  refl _ := ⟨rfl, rfl, rfl, rfl⟩
  trans earlier later :=
    ⟨later.writeProtect.trans earlier.writeProtect, later.defaultVal.trans earlier.defaultVal,
      later.disables.trans earlier.disables, later.brackets.trans earlier.brackets⟩

variable {target : Target} {register : UInt8}

theorem i2cMasterWrite_untouched (other : register ≠ writeProtectCmdReg) (bytes : List UInt8) :
    Keeps Untouched (i2cMasterWrite target register bytes) := by
  intro station
  unfold i2cMasterWrite
  rw [result_exchange]
  dsimp only
  split
  · rw [if_neg fun both => other both.1]
    exact ⟨rfl, rfl, rfl, rfl⟩
  · exact ⟨rfl, rfl, rfl, rfl⟩

theorem i2cMasterRead_untouched (target : Target) (register : UInt8) :
    Keeps Untouched (i2cMasterRead target register) :=
  fun _ => ⟨rfl, rfl, rfl, rfl⟩

theorem mfrFwTry_untouched (target : Target) (cmd : UInt8) (txBuf : Option (List UInt8))
    (rxLen : Option Nat) : Keeps Untouched (mfrFwTry target cmd txBuf rxLen) := by
  have command (bytes : List UInt8) : Keeps Untouched (i2cMasterWrite target mfrFwCmdReg bytes) :=
    i2cMasterWrite_untouched (by decide) bytes
  have data (bytes : List UInt8) :
      Keeps Untouched (i2cMasterWrite target mfrFwCmdDataReg bytes) :=
    i2cMasterWrite_untouched (by decide) bytes
  have sent : Keeps Untouched (do
      i2cMasterWrite target mfrFwCmdReg [cmd]
      match rxLen with
      | some count =>
        let data ← i2cMasterRead target mfrFwCmdDataReg
        pure ((List.range count).map fun index => data.getD (index + 1) 0)
      | none => pure []) := by
    apply untouched.bind (command [cmd])
    intro _
    cases rxLen with
    | none => exact untouched.pure _
    | some count =>
      exact untouched.bind (i2cMasterRead_untouched target mfrFwCmdDataReg)
        fun _ => untouched.pure _
  apply untouched.bind (command [nopCmd])
  intro _
  cases txBuf with
  | none => exact sent
  | some bytes => exact untouched.bind (data (4 :: bytes)) fun _ => sent

theorem mfrFwOperation_untouched (target : Target) (cmd : UInt8) (txBuf : Option (List UInt8))
    (rxLen : Option Nat) : Keeps Untouched (mfrFwOperation target cmd txBuf rxLen) := by
  have once := mfrFwTry_untouched target cmd txBuf rxLen
  exact untouched.orElse once (untouched.orElse once once)

theorem startType_untouched (target : Target) (type : UInt8) :
    Keeps Untouched (startType target type) := by
  apply untouched.bind (i2cMasterWrite_untouched (by decide) _)
  intro _
  apply untouched.bind (mfrFwOperation_untouched target _ _ _)
  intro _
  exact i2cMasterWrite_untouched (by decide) _

theorem programData_untouched (target : Target) (data : List UInt32) :
    Keeps Untouched (programData target data) := by
  induction data with
  | nil => exact untouched.pure ()
  | cons dword rest ih =>
    exact untouched.bind (i2cMasterWrite_untouched (by decide) _) fun _ => ih

theorem storeType_untouched (target : Target) (size : Nat) :
    Keeps Untouched (storeType target size) := by
  apply untouched.bind (mfrFwOperation_untouched target _ _ _)
  intro _
  apply untouched.bind (i2cMasterRead_untouched target statusCml)
  intro data
  split
  · exact untouched.failure
  · exact untouched.pure ()

theorem programSections_untouched (target : Target) (sections : List ConfigSect) :
    ∀ previous size, Keeps Untouched (programSections target previous size sections) := by
  induction sections with
  | nil => exact fun _ _ => untouched.pure ()
  | cons sect rest ih =>
    intro previous size
    have stored (size : Nat) : Keeps Untouched (do
        if rest.head?.map (·.type) ≠ some sect.type then storeType target size
        programSections target (some sect.type) size rest) := by
      split
      · exact untouched.bind (storeType_untouched target size) fun _ => ih _ _
      · exact ih _ _
    have written (size : Nat) : Keeps Untouched (do
        programData target sect.data
        if rest.head?.map (·.type) ≠ some sect.type then storeType target size
        programSections target (some sect.type) size rest) :=
      untouched.bind (programData_untouched target sect.data) fun _ => stored size
    unfold programSections
    dsimp only
    split
    · exact untouched.bind (startType_untouched target sect.type) fun _ => written _
    · exact written _

/-! ## Lifting and protecting -/

/-- What the driver has of the protection stays. -/
structure SameDriver (before after : Station) : Prop where
  defaultVal : after.writeProtectDefaultVal = before.writeProtectDefaultVal
  brackets : after.brackets = before.brackets

theorem sameDriver : Frame SameDriver where
  refl _ := ⟨rfl, rfl⟩
  trans earlier later :=
    ⟨later.defaultVal.trans earlier.defaultVal, later.brackets.trans earlier.brackets⟩

theorem i2cMasterWrite_sameDriver (target : Target) (register : UInt8) (bytes : List UInt8) :
    Keeps SameDriver (i2cMasterWrite target register bytes) := by
  intro station
  unfold i2cMasterWrite
  rw [result_exchange]
  dsimp only
  split
  · split
    · exact ⟨rfl, rfl⟩
    · exact ⟨rfl, rfl⟩
  · exact ⟨rfl, rfl⟩

theorem setWriteProtectReg_sameDriver (target : Target) (option : WriteProtectOption) :
    Keeps SameDriver (setWriteProtectReg target option) := by
  apply sameDriver.look
  intro station
  apply sameDriver.bind (i2cMasterWrite_sameDriver _ _ _)
  intro _
  apply sameDriver.bind fun _ => ⟨rfl, rfl⟩
  intro data
  split
  · exact sameDriver.failure
  · exact sameDriver.pure ()

variable {station after : Station}

theorem i2cMasterRead_eq_some {data : List UInt8}
    (read : (i2cMasterRead target writeProtectCmdReg).result station = (some data, after)) :
    data = [station.writeProtect target] ∧ after = station.next := by
  obtain ⟨ended, rfl⟩ := Prod.mk.inj read
  split at ended
  · exact ⟨(Option.some.inj ended).symm, rfl⟩
  · exact absurd ended (some_ne_none data).symm

theorem setWriteProtectReg_value {option : WriteProtectOption}
    (set : (setWriteProtectReg target option).result station = (some (), after)) :
    after.writeProtect target = station.setVal option := by
  unfold setWriteProtectReg at set
  rw [result_bind_look] at set
  obtain ⟨_, written, _, set⟩ := result_bind_eq_some.mp set
  obtain ⟨data, checked, read, set⟩ := result_bind_eq_some.mp set
  obtain ⟨rfl, rfl⟩ := i2cMasterRead_eq_some read
  split at set
  · exact absurd (congrArg Prod.fst set) (some_ne_none ()).symm
  · rename_i same
    have value : written.writeProtect target = station.setVal option := not_not.mp same
    obtain ⟨-, rfl⟩ := Prod.mk.inj set
    exact value

theorem setWriteProtect_of_default {option : WriteProtectOption}
    (unprotected : station.writeProtectDefaultVal = disableWriteProtectVal) :
    (setWriteProtect target option).result station = (some (), station) := by
  unfold setWriteProtect
  rw [result_bind_look, if_neg (not_not.mpr unprotected)]
  rfl

theorem setWriteProtect_of_known {option : WriteProtectOption}
    (isProtected : station.writeProtectDefaultVal ≠ disableWriteProtectVal)
    (known : station.Known) : (setWriteProtect target option).result station =
      (setWriteProtectReg target option).result station := by
  unfold setWriteProtect
  rw [result_bind_look, if_pos isProtected, if_neg known]

theorem setWriteProtect_of_unknown {option : WriteProtectOption} (unknown : ¬ station.Known) :
    (setWriteProtect target option).result station =
      (initWriteProtectDefaultVal target >>= fun _ => setWriteProtectReg target option).result
        station := by
  have value : station.writeProtectDefaultVal = writeProtectUnknownVal := not_not.mp unknown
  have isProtected : station.writeProtectDefaultVal ≠ disableWriteProtectVal := by
    rw [value]
    decide
  unfold setWriteProtect
  rw [result_bind_look, if_pos isProtected, if_pos value]

def Station.learn (station : Station) (target : Target) : Station :=
  { station.next with writeProtectDefaultVal := station.writeProtect target }

theorem initWriteProtectDefaultVal_result (target : Target) (station : Station) :
    (initWriteProtectDefaultVal target).result station = (none, station.next) ∨
      (initWriteProtectDefaultVal target).result station = (some (), station.learn target) := by
  cases ok : (station.answers station.asked).ok with
  | false =>
    have failed : (i2cMasterRead target writeProtectCmdReg).result station =
        (none, station.next) := by
      unfold i2cMasterRead
      rw [result_exchange]
      dsimp only
      rw [ok, if_neg Bool.false_ne_true]
    exact .inl (result_bind_none failed)
  | true =>
    have read : (i2cMasterRead target writeProtectCmdReg).result station =
        (some [station.writeProtect target], station.next) := by
      unfold i2cMasterRead
      rw [result_exchange]
      dsimp only
      rw [ok, if_pos rfl, if_pos rfl]
    exact .inr (result_bind_some read)

theorem setWriteProtect_brackets (target : Target) (option : WriteProtectOption)
    (station : Station) :
    ((setWriteProtect target option).result station).2.brackets = station.brackets := by
  by_cases unprotected : station.writeProtectDefaultVal = disableWriteProtectVal
  · rw [setWriteProtect_of_default unprotected]
  · by_cases known : station.Known
    · rw [setWriteProtect_of_known unprotected known]
      exact (setWriteProtectReg_sameDriver target option station).brackets
    · rw [setWriteProtect_of_unknown known]
      cases initWriteProtectDefaultVal_result target station with
      | inl failed => rw [result_bind_none failed]; rfl
      | inr read =>
        rw [result_bind_some read]
        exact (setWriteProtectReg_sameDriver target option _).brackets

/-- Setting a register that says already that the device is not protected lifts nothing. -/
theorem setWriteProtectReg_disables {option : WriteProtectOption}
    (unprotected : station.writeProtect target = disableWriteProtectVal) :
    ((setWriteProtectReg target option).result station).2.disables = station.disables := by
  have write (value : UInt8) : ((i2cMasterWrite target writeProtectCmdReg [value]).result
      station).2.disables = station.disables := by
    unfold i2cMasterWrite
    rw [result_exchange]
    dsimp only
    split
    · exact if_neg fun both => both.2 unprotected
    · rfl
  unfold setWriteProtectReg
  rw [result_bind_look]
  rcases written : (i2cMasterWrite target writeProtectCmdReg [station.setVal option]).result station
    with ⟨ended, after⟩
  have stays := write (station.setVal option)
  rw [written] at stays
  cases ended with
  | none =>
    rw [result_bind_none written]
    exact stays
  | some value =>
    rw [result_bind_some written]
    rcases checked : (i2cMasterRead target writeProtectCmdReg).result after with ⟨ended, last⟩
    have same : last.disables = after.disables :=
      (congrArg (·.2.disables) checked).symm
    cases ended with
    | none =>
      rw [result_bind_none checked]
      exact same.trans stays
    | some data =>
      rw [result_bind_some checked]
      split
      · exact same.trans stays
      · exact same.trans stays

theorem lifted_default (lifts : station.Lifts target) :
    (station.lifted target).writeProtectDefaultVal ≠ disableWriteProtectVal := by
  unfold Station.Lifts at lifts
  unfold Station.lifted at *
  by_cases unprotected : station.writeProtectDefaultVal = disableWriteProtectVal
  · rw [setWriteProtect_of_default unprotected] at lifts
    exact absurd lifts (Nat.lt_irrefl _)
  · by_cases known : station.Known
    · rw [setWriteProtect_of_known unprotected known,
        (setWriteProtectReg_sameDriver target .disable station).defaultVal]
      exact unprotected
    · rw [setWriteProtect_of_unknown known] at *
      cases initWriteProtectDefaultVal_result target station with
      | inl failed =>
        rw [result_bind_none failed] at lifts
        exact absurd lifts (Nat.lt_irrefl _)
      | inr read =>
        rw [result_bind_some read] at *
        rw [(setWriteProtectReg_sameDriver target .disable _).defaultVal]
        intro register
        have writable : (station.learn target).writeProtect target = disableWriteProtectVal :=
          register
        rw [setWriteProtectReg_disables writable] at lifts
        exact Nat.lt_irrefl _ lifts

theorem writable_of_enabled (known : station.Known)
    (isProtected : station.writeProtectDefaultVal ≠ disableWriteProtectVal)
    (enabled : (setWriteProtect target .enable).result station = (some (), after)) :
    (after.writeProtect target == disableWriteProtectVal) = false := by
  rw [setWriteProtect_of_known isProtected known] at enabled
  rw [setWriteProtectReg_value enabled]
  exact beq_eq_false_iff_ne.mpr isProtected

/-! ## One operation -/

/-- A program notes one bracket, closed. -/
def NotesClosed {α : Type} (program : Program Station α) (station : Station) : Prop :=
  ∃ bracket : Bracket, (program.result station).2.brackets = station.brackets ++ [bracket] ∧
    bracket.Closed

variable {α : Type} {ending : Ending α} {lifted : Station} {target : Target}

theorem finish_notes (before : Station) (noted : after.brackets = station.brackets)
    (closed : before.disables < lifted.disables →
      ending.enabled = some true ∧ (after.writeProtect target == disableWriteProtectVal) = false ∨
        ending.enabled = some false ∧ ending.reported = none) :
    ∃ bracket : Bracket, ((finish target before lifted ending).result after).2.brackets =
      station.brackets ++ [bracket] ∧ bracket.Closed := by
  refine ⟨_, congrArg (· ++ _) noted, ?_⟩
  intro disabled
  cases closed (of_decide_eq_true disabled) with
  | inl enabled => exact .inl enabled
  | inr failed =>
    have reported : ending.reported.isSome = false := by
      rw [failed.2]
      rfl
    exact .inr ⟨failed.1, reported⟩

theorem enabled_or_open (isProtected : station.writeProtectDefaultVal ≠ disableWriteProtectVal)
    (known : station.Known ∨ station.StaysOpen target) :
    ((setWriteProtect target .enable).result station).1 = some () ∧
        (((setWriteProtect target .enable).result station).2.writeProtect target ==
          disableWriteProtectVal) = false ∨
      station.StaysOpen target := by
  cases ended : ((setWriteProtect target .enable).result station).1 with
  | none => exact .inr ended
  | some value =>
    cases known with
    | inl known => exact .inl ⟨rfl, writable_of_enabled known isProtected (Prod.ext ended rfl)⟩
    | inr failed => exact absurd (ended.symm.trans failed) (some_ne_none value)

theorem mfrFwOperation_after {cmd : UInt8} {txBuf : Option (List UInt8)} {rxLen : Option Nat}
    {ended : Option (List UInt8)}
    (ran : (mfrFwOperation target cmd txBuf rxLen).result station = (ended, after)) :
    Untouched station after := by
  have kept := mfrFwOperation_untouched target cmd txBuf rxLen station
  rw [ran] at kept
  exact kept

/-- A command notes one operation, which closed what it opened. -/
theorem getByCommand_closes {cmd : UInt8} {rxLen : Nat}
    (closes : station.CommandCloses target cmd rxLen) :
    NotesClosed (getByCommand target cmd rxLen) station := by
  have noted : (station.lifted target).brackets = station.brackets :=
    setWriteProtect_brackets target .disable station
  change ∃ bracket : Bracket, (Program.result (if Option.isNone
    ((setWriteProtect target .disable).result station).1 then _ else _)
    (station.lifted target)).2.brackets = _ ∧ _
  split
  · rename_i failed
    apply finish_notes station noted
    intro lifts
    have verified := (closes lifts).1
    rw [verified] at failed
    exact absurd failed Bool.false_ne_true
  · rw [result_bind_attempt]
    rcases ran : (mfrFwOperation target cmd none (some rxLen)).result (station.lifted target)
      with ⟨answered, commanded⟩
    have kept := mfrFwOperation_after ran
    split
    · rename_i unanswered
      apply finish_notes station (kept.brackets.trans noted)
      intro lifts
      obtain ⟨-, bytes, _, answers, -⟩ := closes lifts
      rw [ran] at answers
      rw [(Prod.mk.inj answers).1] at unanswered
      exact absurd unanswered Bool.false_ne_true
    · have after := setWriteProtect_brackets target .enable commanded
      apply finish_notes station (after.trans (kept.brackets.trans noted))
      intro lifts
      obtain ⟨-, bytes, last, answers, known⟩ := closes lifts
      rw [ran] at answers
      obtain ⟨-, rfl⟩ := Prod.mk.inj answers
      have isProtected := lifted_default lifts
      rw [← kept.defaultVal] at isProtected
      have closing := enabled_or_open isProtected (known.imp_left fun known => by
        unfold Station.Known at *
        rw [kept.defaultVal]
        exact known)
      cases closing with
      | inl enabled =>
        rw [enabled.1]
        exact .inl ⟨rfl, enabled.2⟩
      | inr failed =>
        rw [failed]
        exact .inr ⟨rfl, rfl⟩

/-- A programming notes one operation, which closed what it opened. -/
theorem programXdpe15284_closes {sections : List ConfigSect}
    (closes : station.ProgramCloses target sections) :
    NotesClosed (programXdpe15284 target sections) station := by
  have noted : (station.lifted target).brackets = station.brackets :=
    setWriteProtect_brackets target .disable station
  change ∃ bracket : Bracket, (Program.result (if Option.isNone
    ((setWriteProtect target .disable).result station).1 then _ else _)
    (station.lifted target)).2.brackets = _ ∧ _
  split
  · rename_i failed
    apply finish_notes station noted
    intro lifts
    have verified := (closes lifts).1
    rw [verified] at failed
    exact absurd failed Bool.false_ne_true
  · rw [result_bind_attempt]
    rcases ran : (programSections target none 0 sections).result (station.lifted target)
      with ⟨written, programmed⟩
    have kept : Untouched (station.lifted target) programmed := by
      have kept := programSections_untouched target sections none 0 (station.lifted target)
      rw [ran] at kept
      exact kept
    have after := setWriteProtect_brackets target .enable programmed
    apply finish_notes station (after.trans (kept.brackets.trans noted))
    intro lifts
    obtain ⟨-, ended, last, ends, failing, known⟩ := closes lifts
    rw [ran] at ends
    cases ends
    have isProtected := lifted_default lifts
    rw [← kept.defaultVal] at isProtected
    have settled : programmed.Known ∨ programmed.StaysOpen target := by
      by_cases stays : programmed.StaysOpen target
      · exact .inr stays
      · have before := known stays
        unfold Station.Known at *
        rw [← kept.defaultVal] at before
        exact .inl before
    cases enabled_or_open isProtected settled with
    | inl enabled =>
      rw [enabled.1]
      exact .inl ⟨rfl, enabled.2⟩
    | inr failed =>
      have ended := failing failed
      rw [failed]
      exact .inr ⟨rfl, ended⟩

/-! ## Runs -/

/-- What is claimed: every bracket is closed. -/
def Station.Disciplined (station : Station) : Prop :=
  ∀ bracket ∈ station.brackets, bracket.Closed

theorem NotesClosed.disciplined {program : Program Station α}
    (notes : NotesClosed program station) (disciplined : station.Disciplined) :
    (program.result station).2.Disciplined := by
  obtain ⟨bracket, noted, closed⟩ := notes
  intro other listed
  rw [noted] at listed
  cases List.mem_append.mp listed with
  | inl earlier => exact disciplined other earlier
  | inr last =>
    rw [List.mem_singleton.mp last]
    exact closed

theorem getRemainingWr_closes
    (closes : station.CommandCloses target getRemainingWrCmd remainingWriteDataLen) :
    NotesClosed (getRemainingWr target) station := by
  have notes := getByCommand_closes closes
  unfold NotesClosed getRemainingWr at *
  rw [state_bind_pure]
  exact notes

theorem getChecksum_closes
    (closes : station.CommandCloses target calculateCrcCmd mfrFwCmdDataLen) :
    NotesClosed (getChecksum target) station := by
  have notes := getByCommand_closes closes
  unfold NotesClosed getChecksum at *
  rw [state_bind_pure]
  exact notes

theorem fwupdate_disciplined {config : Option Config}
    (closes : station.Closes (.fwupdate target config)) (disciplined : station.Disciplined) :
    ((fwupdate target config).result station).2.Disciplined := by
  have counting := (getRemainingWr_closes closes.1).disciplined disciplined
  unfold fwupdate
  rcases counted : (getRemainingWr target).result station with ⟨ended, after⟩
  rw [counted] at counting
  cases ended with
  | none =>
    rw [result_bind_none counted]
    exact counting
  | some remainWr =>
    rw [result_bind_some counted]
    split
    · exact counting
    · rename_i some
      cases config with
      | none => exact counting
      | some config =>
        have programming := closes.2 remainWr after counted some config rfl
        exact (programXdpe15284_closes programming).disciplined counting

variable {operation : Operation} {next : Station}

/-- An operation that closes what it opened keeps the device protected. -/
theorem disciplined_step (disciplined : station.Disciplined) (closes : station.Closes operation)
    (moved : station.step operation = some next) : next.Disciplined := by
  cases operation with
  | getChecksum target =>
    cases moved
    exact (getChecksum_closes closes).disciplined disciplined
  | getRemainingWr target =>
    cases moved
    exact (getRemainingWr_closes closes).disciplined disciplined
  | fwupdate target config =>
    cases moved
    exact fwupdate_disciplined closes disciplined

/-- In every run in which no operation returns before it puts back what it lifted, knows no value
to put back, or hides that it could not put it back, every operation is closed. -/
theorem disciplined_run {final : Station} {operations : List Operation}
    (fresh : station.brackets = [])
    (closes : Meets Station.step Station.Closes station operations)
    (ran : run Station.step station operations = some final) : final.Disciplined := by
  have initial : station.Disciplined := by
    intro bracket listed
    rw [fresh] at listed
    exact absurd listed List.not_mem_nil
  exact invariant disciplined_step initial closes ran

/-! ## A command that is not answered -/

def benchStation (answers : Nat → Answer) : Station where
  answers
  asked := 0
  writeProtect _ := 0x40
  writeProtectDefaultVal := writeProtectUnknownVal
  disables := 0
  brackets := []

def silentAfter (count : Nat) (asked : Nat) : Answer :=
  ⟨decide (asked < count), decide (asked < count), [4, 1, 2, 3, 4]⟩

/-- A device that falls silent behind the disabling write stays writable. -/
theorem silentCommand_undisciplined : ∃ final,
    run Station.step (benchStation (silentAfter 3)) [.getChecksum (1, 0x60)] = some final ∧
      ¬ final.Disciplined := by
  refine ⟨_, rfl, fun disciplined => ?_⟩
  have closed := disciplined ⟨(1, 0x60), true, none, false, true⟩ (by decide +kernel) rfl
  exact absurd closed (by decide)

/-- A checksum that is read. -/
theorem disciplined_run_answered : ∃ final,
    run Station.step (benchStation (silentAfter 100)) [.getChecksum (1, 0x60)] = some final ∧
      final.Disciplined := by
  have closes : Meets Station.step Station.Closes (benchStation (silentAfter 100))
      [.getChecksum (1, 0x60)] := by
    refine ⟨fun _ => ⟨rfl, _, _, rfl, .inl ?_⟩, trivial⟩
    unfold Station.Known
    decide +kernel
  exact ⟨_, rfl, disciplined_run rfl closes rfl⟩

end OpenBic.Xdpe15284
