import OpenBic.Pldm.Transfer
import Mathlib.Data.List.Indexes

/-!
# Recovery of the EEPROM of a retimer

`pldm_retimer_recovery` and `fw_recovery_eeprom` of `pldm_firmware_update.c`. A block of an image is
cut into chunks that stay in a page of 256 bytes, and each chunk is one write on the I2C bus, to the
device that the upper part of the offset selects.
-/

namespace OpenBic.Retimer

open List Pldm

/-! ## The code -/

def retimerImagePackageSize : Nat := 64

def sectorEndFlag : UInt8 := 0x80

def fwupdateOverLength : UInt8 := 2

def fwupdateUpdateFail : UInt8 := 4

def getEepromSlaveMask (offset : Nat) : Nat := offset / 2 ^ 16 % 16

/-- `GET_EERPOM_OFFSET`. -/
def getEepromOffset (offset : Nat) : Nat := offset % 2 ^ 16

/-- A write on the bus. -/
structure EepromWrite where
  targetAddr : UInt8
  /-- The bytes of `data` that are sent. -/
  data : List UInt8

/-- The message of the bus, and what went over the bus. -/
structure RetimerBus where
  targetAddr : UInt8
  /-- What `i2c_master_write` returns, call by call. -/
  answers : Nat → Int
  attempts : List EepromWrite
  written : List EepromWrite

def i2cMasterWrite (bus : RetimerBus) (data : List UInt8) : Int × RetimerBus :=
  let ret := bus.answers bus.attempts.length
  let write : EepromWrite := ⟨bus.targetAddr, data⟩
  (ret, { bus with
    attempts := bus.attempts ++ [write]
    written := if ret = 0 then bus.written ++ [write] else bus.written })

/-- The loop of `fw_recovery_eeprom`, for so many turns at most, and whether it comes to its end. -/
def eepromLoop (msgBuf : List UInt8) :
    Nat → Nat → Nat → Nat → Nat → RetimerBus → Option (Bool × RetimerBus)
  | 0, msgLen, _, _, _, bus => if msgLen = 0 then some (true, bus) else none
  | turns + 1, msgLen, perLen, offset, bufferOffset, bus =>
    if msgLen = 0 then some (true, bus)
    else
      let perLen := if perLen ≤ msgLen then perLen else msgLen
      if bufferOffset + perLen ≤ msgBuf.length then
        let (ret, bus) := i2cMasterWrite bus (UInt8.ofNat (offset / 256) :: UInt8.ofNat offset ::
          (msgBuf.drop bufferOffset).take perLen)
        if ret ≠ 0 then some (false, bus)
        else
          eepromLoop msgBuf turns (msgLen - perLen) perLen (offset + perLen)
            (bufferOffset + perLen) bus
      else none

def fwRecoveryEeprom (bus : RetimerBus) (offset msgLen : Nat) (msgBuf : List UInt8)
    (flag : UInt8) : Option (UInt8 × RetimerBus) :=
  let originTargetAddr := bus.targetAddr
  let bus := { bus with targetAddr := bus.targetAddr + UInt8.ofNat (getEepromSlaveMask offset) }
  let offset := getEepromOffset offset
  if retimerImagePackageSize < msgLen then some (fwupdateOverLength, bus)
  else if msgLen = retimerImagePackageSize ∨ flag &&& sectorEndFlag ≠ 0 then do
    let (done, bus) ← eepromLoop msgBuf msgLen msgLen retimerImagePackageSize offset 0 bus
    if !done then return (fwupdateUpdateFail, bus)
    else return (0, { bus with targetAddr := originTargetAddr })
  else some (0, { bus with targetAddr := originTargetAddr })

/-- The length of the next chunk. The offset and the boundaries are 32 bits wide. -/
def chunkLen (currentOffset remainingLen : Nat) : Nat :=
  let nextBoundary := (currentOffset / 2 ^ 16 * 2 ^ 16 + 0x10000) % 2 ^ 32
  let maxChunkLen := (nextBoundary + 2 ^ 32 - currentOffset) % 2 ^ 32
  let allowedLen := 256 - currentOffset % 256
  let chunkLen :=
    if retimerImagePackageSize < remainingLen then retimerImagePackageSize else remainingLen
  let chunkLen := if maxChunkLen < chunkLen then maxChunkLen % 256 else chunkLen
  if allowedLen < chunkLen then allowedLen % 256 else chunkLen

/-- The loop of `pldm_retimer_recovery`, for so many turns at most. -/
def recoveryLoop : Nat → Nat → List UInt8 → UInt8 → RetimerBus → Option (UInt8 × RetimerBus)
  | 0, _, currentData, _, bus => if currentData = [] then some (0, bus) else none
  | turns + 1, currentOffset, currentData, updateFlag, bus =>
    if currentData = [] then some (0, bus)
    else
      let chunk := chunkLen currentOffset currentData.length
      let updateFlag := if chunk ≠ retimerImagePackageSize then sectorEndFlag else updateFlag
      do
        let (ret, bus) ← fwRecoveryEeprom bus currentOffset chunk currentData updateFlag
        if ret ≠ 0 then return (1, bus)
        else
          recoveryLoop turns ((currentOffset + chunk) % 2 ^ 32) (currentData.drop chunk) updateFlag
            bus

/-- What `pldm_retimer_recovery` has of a block of the image. -/
structure RetimerBlock where
  compVersionStr : List Char
  /-- `data`, as long as `data_len`. -/
  data : List UInt8
  dataOfs : UInt32
  /-- `data_len` has 32 bits. -/
  short : data.length < 2 ^ 32

/-- The string is that of a retimer which can be recovered: `KEYWORD_RETIMER_PT5161L` or
`KEYWORD_RETIMER_PT4080L`. -/
def RetimerBlock.supported (block : RetimerBlock) : Bool :=
  "pt5161l".toList.isPrefixOf block.compVersionStr ||
    "pt4080l".toList.isPrefixOf block.compVersionStr

/-- What `pldm_retimer_recovery` gives back: its status, the next offset and length, and the bus. -/
structure Recovered where
  status : UInt8
  nextOfs : Nat
  nextLen : Nat
  bus : RetimerBus

def pldmRetimerRecovery (cfg : FwUpdateCfg) (block : RetimerBlock) (bus : RetimerBus) :
    Option Recovered :=
  let nextOfs := (block.dataOfs.toNat + block.data.length) % 2 ^ 32
  let nextLen := if nextOfs < cfg.imageSize then nextLen cfg nextOfs else 0
  let updateFlag := if nextOfs < cfg.imageSize then 0 else sectorEndFlag
  if block.supported then do
    let (status, bus) ← recoveryLoop block.data.length block.dataOfs.toNat block.data updateFlag bus
    return ⟨status, nextOfs, nextLen, bus⟩
  else some ⟨1, nextOfs, nextLen, bus⟩

/-! ## What is claimed -/

def RetimerBus.start (targetAddr : UInt8) (answers : Nat → Int) : RetimerBus :=
  ⟨targetAddr, answers, [], []⟩

def EepromWrite.address (write : EepromWrite) : Nat :=
  (write.data.getD 0 0).toNat * 256 + (write.data.getD 1 0).toNat

def EepromWrite.payload (write : EepromWrite) : List UInt8 := write.data.drop 2

def EepromWrite.places (write : EepromWrite) : List (UInt8 × Nat × UInt8) :=
  write.payload.mapIdx fun index byte => (write.targetAddr, write.address + index, byte)

def blockPlaces (targetAddr : UInt8) (dataOfs : Nat) (data : List UInt8) :
    List (UInt8 × Nat × UInt8) :=
  data.mapIdx fun index byte =>
    (targetAddr + UInt8.ofNat (getEepromSlaveMask ((dataOfs + index) % 2 ^ 32)),
      getEepromOffset ((dataOfs + index) % 2 ^ 32), byte)

/-- The bytes of the block are written in order, each to its own place, all of them when success is
returned, which it is when the bus has no error; no write leaves a page or a device; and the address
is restored. -/
structure RecoversRight (block : RetimerBlock) (targetAddr : UInt8) (answers : Nat → Int)
    (recovered : Recovered) : Prop where
  order : (recovered.bus.written.flatMap EepromWrite.places).IsPrefix
    (blockPlaces targetAddr block.dataOfs.toNat block.data)
  complete : recovered.status = 0 →
    recovered.bus.written.flatMap EepromWrite.places =
      blockPlaces targetAddr block.dataOfs.toNat block.data
  succeeds : block.supported = true → (∀ call, answers call = 0) → recovered.status = 0
  inPage : ∀ write ∈ recovered.bus.attempts,
    write.address % 256 + write.payload.length ≤ 256 ∧
      write.address + write.payload.length ≤ 2 ^ 16
  restored : recovered.bus.targetAddr = targetAddr

def chunks : Nat → Nat → Nat → List (Nat × Nat)
  | 0, _, _ => []
  | turns + 1, currentOffset, remainingLen =>
    if remainingLen = 0 then []
    else
      let chunk := chunkLen currentOffset remainingLen
      (currentOffset, chunk) ::
        chunks turns ((currentOffset + chunk) % 2 ^ 32) (remainingLen - chunk)

/-- The first chunk whose write has an error, if there is one, is in the device that needs no
mask. -/
def FailsUnmasked (answers : Nat → Int) : Nat → List (Nat × Nat) → Prop
  | _, [] => True
  | call, (offset, _) :: rest =>
    (answers call = 0 → FailsUnmasked answers (call + 1) rest) ∧
      (answers call ≠ 0 → getEepromSlaveMask offset = 0)

/-! ## A chunk -/

section Chunk

variable {currentOffset remainingLen msgLen : Nat} {msgBuf payload : List UInt8}
variable {targetAddr flag : UInt8} {bus : RetimerBus}

theorem chunkLen_eq (word : currentOffset < 2 ^ 32) :
    chunkLen currentOffset remainingLen =
      min remainingLen (min retimerImagePackageSize (256 - currentOffset % 256)) := by
  unfold chunkLen retimerImagePackageSize
  dsimp only
  split <;> split <;> split <;> omega

def chunkWrite (targetAddr : UInt8) (offset : Nat) (payload : List UInt8) : EepromWrite where
  targetAddr := targetAddr + UInt8.ofNat (getEepromSlaveMask offset)
  data := UInt8.ofNat (getEepromOffset offset / 256) :: UInt8.ofNat (getEepromOffset offset) ::
    payload

theorem address_chunkWrite (targetAddr : UInt8) (offset : Nat) (payload : List UInt8) :
    (chunkWrite targetAddr offset payload).address = getEepromOffset offset := by
  change (UInt8.ofNat (getEepromOffset offset / 256)).toNat * 256 +
    (UInt8.ofNat (getEepromOffset offset)).toNat = getEepromOffset offset
  rw [UInt8.toNat_ofNat', UInt8.toNat_ofNat']
  unfold getEepromOffset
  omega

theorem places_chunkWrite (word : currentOffset < 2 ^ 32)
    (inPage : payload.length ≤ 256 - currentOffset % 256) :
    (chunkWrite targetAddr currentOffset payload).places =
      blockPlaces targetAddr currentOffset payload := by
  have written : (chunkWrite targetAddr currentOffset payload).places =
      payload.mapIdx fun index byte => (targetAddr +
        UInt8.ofNat (getEepromSlaveMask currentOffset),
          getEepromOffset currentOffset + index, byte) := by
    unfold EepromWrite.places
    rw [address_chunkWrite]
    rfl
  rw [written, blockPlaces, mapIdx_eq_mapIdx_iff]
  intro index inside
  have mask : getEepromSlaveMask ((currentOffset + index) % 2 ^ 32) =
      getEepromSlaveMask currentOffset := by
    unfold getEepromSlaveMask
    omega
  have offset : getEepromOffset ((currentOffset + index) % 2 ^ 32) =
      getEepromOffset currentOffset + index := by
    unfold getEepromOffset
    omega
  rw [mask, offset]

theorem fwRecoveryEeprom_eq (some : 0 < msgLen) (few : msgLen ≤ retimerImagePackageSize)
    (inside : msgLen ≤ msgBuf.length)
    (goes : msgLen = retimerImagePackageSize ∨ flag &&& sectorEndFlag ≠ 0) :
    fwRecoveryEeprom bus currentOffset msgLen msgBuf flag =
      if bus.answers bus.attempts.length = 0 then
        .some (0, { bus with
          attempts := bus.attempts ++
            [chunkWrite bus.targetAddr currentOffset (msgBuf.take msgLen)]
          written := bus.written ++
            [chunkWrite bus.targetAddr currentOffset (msgBuf.take msgLen)] })
      else
        .some (fwupdateUpdateFail, { bus with
          targetAddr := bus.targetAddr + UInt8.ofNat (getEepromSlaveMask currentOffset)
          attempts := bus.attempts ++
            [chunkWrite bus.targetAddr currentOffset (msgBuf.take msgLen)] }) := by
  obtain ⟨turns, rfl⟩ : ∃ turns, msgLen = turns + 1 := ⟨msgLen - 1, by omega⟩
  have length : (if retimerImagePackageSize ≤ turns + 1 then retimerImagePackageSize
      else turns + 1) = turns + 1 := by
    split <;> omega
  unfold fwRecoveryEeprom
  rw [if_neg (Nat.not_lt_of_le few), if_pos goes, eepromLoop, if_neg (Nat.succ_ne_zero turns)]
  dsimp only
  rw [length, Nat.zero_add, if_pos inside, drop_zero]
  unfold i2cMasterWrite
  dsimp only
  by_cases answered : bus.answers bus.attempts.length = 0
  · rw [if_neg (fun apart => apart answered), if_pos answered, if_pos answered, Nat.sub_self]
    cases turns with
    | zero => rfl
    | succ turns => rfl
  · rw [if_pos answered, if_neg answered, if_neg answered]
    rfl

end Chunk

/-! ## The loop -/

section Loop

variable {bus final : RetimerBus} {currentOffset chunk turns : Nat} {data : List UInt8}
variable {ret flag : UInt8} {targetAddr : UInt8}

/-- A write stays inside its page and its EEPROM. -/
def InPage (write : EepromWrite) : Prop :=
  write.address % 256 + write.payload.length ≤ 256 ∧
    write.address + write.payload.length ≤ 2 ^ 16

theorem inPage_chunkWrite {payload : List UInt8} (targetAddr : UInt8)
    (inPage : payload.length ≤ 256 - currentOffset % 256) :
    InPage (chunkWrite targetAddr currentOffset payload) := by
  unfold InPage
  rw [address_chunkWrite]
  change _ + payload.length ≤ _ ∧ _ + payload.length ≤ _
  unfold getEepromOffset
  constructor <;> omega

/-- What the loop does to the bus with the rest of a block. -/
structure Carries (bus : RetimerBus) (currentOffset : Nat) (data : List UInt8) (turns : Nat)
    (ret : UInt8) (final : RetimerBus) : Prop where
  order : ∃ more, final.written.flatMap EepromWrite.places =
      bus.written.flatMap EepromWrite.places ++ more ∧
    more.IsPrefix (blockPlaces bus.targetAddr currentOffset data) ∧
    (ret = 0 → more = blockPlaces bus.targetAddr currentOffset data)
  succeeds : (∀ call, bus.answers call = 0) → ret = 0
  inPage : (∀ write ∈ bus.attempts, InPage write) → ∀ write ∈ final.attempts, InPage write
  restored : final.targetAddr = bus.targetAddr ↔
    FailsUnmasked bus.answers bus.attempts.length (chunks turns currentOffset data.length)

theorem blockPlaces_append (targetAddr : UInt8) (dataOfs count : Nat) (data : List UInt8)
    (inside : count ≤ data.length) :
    blockPlaces targetAddr dataOfs data = blockPlaces targetAddr dataOfs (data.take count) ++
      blockPlaces targetAddr ((dataOfs + count) % 2 ^ 32) (data.drop count) := by
  have parts : data = data.take count ++ data.drop count := (take_append_drop _ _).symm
  have length : (data.take count).length = count := length_take_of_le inside
  conv_lhs => rw [parts, blockPlaces, mapIdx_append, length]
  unfold blockPlaces
  congr 1
  rw [mapIdx_eq_mapIdx_iff]
  intro index _
  have place : (dataOfs + (index + count)) % 2 ^ 32 =
      ((dataOfs + count) % 2 ^ 32 + index) % 2 ^ 32 := by omega
  rw [place]

theorem masked_eq_iff (targetAddr : UInt8) (offset : Nat) :
    targetAddr + UInt8.ofNat (getEepromSlaveMask offset) = targetAddr ↔
      getEepromSlaveMask offset = 0 := by
  have small : getEepromSlaveMask offset < 16 := Nat.mod_lt _ (by decide)
  rw [← UInt8.toNat_inj, UInt8.toNat_add, UInt8.toNat_ofNat']
  have bound := targetAddr.toNat_lt
  omega

theorem Carries.nil (bus : RetimerBus) (currentOffset turns : Nat) :
    Carries bus currentOffset [] turns 0 bus := by
  refine ⟨⟨[], ?_, ?_, fun _ => rfl⟩, fun _ => rfl, id, ?_⟩
  · rw [append_nil]
  · exact nil_prefix
  · refine ⟨fun _ => ?_, fun _ => rfl⟩
    cases turns with
    | zero => trivial
    | succ turns => exact trivial

theorem Carries.fail (some : data ≠ []) (word : currentOffset < 2 ^ 32)
    (failed : bus.answers bus.attempts.length ≠ 0) :
    Carries bus currentOffset data (turns + 1) 1 { bus with
      targetAddr := bus.targetAddr + UInt8.ofNat (getEepromSlaveMask currentOffset)
      attempts := bus.attempts ++ [chunkWrite bus.targetAddr currentOffset
        (data.take (chunkLen currentOffset data.length))] } := by
  have length := List.length_pos_iff.mpr some
  refine ⟨⟨[], ?_, nil_prefix, fun wrong => absurd wrong (by decide)⟩,
    fun none => absurd (none _) failed, ?_, ?_⟩
  · rw [append_nil]
  · intro all write listed
    rcases List.mem_append.mp listed with before | last
    · exact all write before
    · rw [List.mem_singleton.mp last]
      apply inPage_chunkWrite
      rw [length_take, chunkLen_eq word]
      omega
  · rw [chunks, if_neg (Nat.ne_of_gt length)]
    rw [masked_eq_iff, FailsUnmasked]
    exact ⟨fun zero => ⟨fun answered => absurd answered failed, fun _ => zero⟩,
      fun fails => fails.2 failed⟩

theorem Carries.write (some : data ≠ []) (word : currentOffset < 2 ^ 32)
    (answered : bus.answers bus.attempts.length = 0)
    (onward : Carries { bus with
        attempts := bus.attempts ++ [chunkWrite bus.targetAddr currentOffset
          (data.take (chunkLen currentOffset data.length))]
        written := bus.written ++ [chunkWrite bus.targetAddr currentOffset
          (data.take (chunkLen currentOffset data.length))] }
      ((currentOffset + chunkLen currentOffset data.length) % 2 ^ 32)
      (data.drop (chunkLen currentOffset data.length)) turns ret final) :
    Carries bus currentOffset data (turns + 1) ret final := by
  have length := List.length_pos_iff.mpr some
  have inside : chunkLen currentOffset data.length ≤ data.length := by
    rw [chunkLen_eq word]
    exact Nat.min_le_left _ _
  have inPage : (data.take (chunkLen currentOffset data.length)).length ≤
      256 - currentOffset % 256 := by
    rw [length_take, chunkLen_eq word]
    omega
  obtain ⟨⟨more, wrote, front, all⟩, succeeds, inPages, restored⟩ := onward
  rw [flatMap_append, flatMap_singleton, places_chunkWrite word inPage,
    append_assoc] at wrote
  have parts := blockPlaces_append bus.targetAddr currentOffset _ data inside
  refine ⟨⟨_, wrote, ?_, ?_⟩, succeeds, ?_, ?_⟩
  · rw [parts]
    exact (prefix_append_right_inj _).mpr front
  · intro done
    rw [all done]
    exact parts.symm
  · intro before
    apply inPages
    intro write listed
    rcases List.mem_append.mp listed with early | last
    · exact before write early
    · rw [List.mem_singleton.mp last]
      exact inPage_chunkWrite _ inPage
  · rw [restored, chunks, if_neg (Nat.ne_of_gt length)]
    rw [FailsUnmasked, length_append, length_singleton, length_drop]
    exact ⟨fun later => ⟨fun _ => later, fun failed => absurd answered failed⟩,
      fun fails => fails.1 answered⟩

theorem recoveryLoop_carries (turns : Nat) (enough : data.length ≤ turns)
    (word : currentOffset < 2 ^ 32) (flag : UInt8) (bus : RetimerBus) :
    ∃ ret final, recoveryLoop turns currentOffset data flag bus = some (ret, final) ∧
      Carries bus currentOffset data turns ret final := by
  induction turns generalizing currentOffset data flag bus with
  | zero =>
    obtain rfl := List.length_eq_zero_iff.mp (Nat.le_zero.mp enough)
    exact ⟨0, bus, rfl, .nil bus currentOffset 0⟩
  | succ turns ih =>
    by_cases none : data = []
    · rw [none]
      exact ⟨0, bus, rfl, .nil bus currentOffset (turns + 1)⟩
    · have length := List.length_pos_iff.mpr none
      have size := @chunkLen_eq currentOffset data.length word
      have positive : 0 < chunkLen currentOffset data.length := by
        unfold retimerImagePackageSize at size
        omega
      have goes : chunkLen currentOffset data.length = retimerImagePackageSize ∨
          (if chunkLen currentOffset data.length ≠ retimerImagePackageSize then sectorEndFlag
            else flag) &&& sectorEndFlag ≠ 0 := by
        by_cases whole : chunkLen currentOffset data.length = retimerImagePackageSize
        · exact .inl whole
        · rw [if_pos whole]
          exact .inr (by decide)
      have chunked := @fwRecoveryEeprom_eq currentOffset _ data _ bus positive (by omega)
        (by omega) goes
      rw [recoveryLoop, if_neg none]
      dsimp only
      rw [chunked]
      by_cases answered : bus.answers bus.attempts.length = 0
      · rw [if_pos answered]
        have shorter : (data.drop (chunkLen currentOffset data.length)).length ≤ turns := by
          rw [length_drop]
          omega
        obtain ⟨ret, final, ran, carries⟩ := ih shorter (Nat.mod_lt _ (by decide)) _ _
        exact ⟨ret, final, ran, .write none word answered carries⟩
      · rw [if_neg answered]
        exact ⟨1, _, rfl, .fail none word answered⟩

end Loop

/-- For every block and all errors of the bus, the bytes are written in order to their own places,
in their pages, with success only for all of them, and the address is restored, exactly if the
component cannot be recovered or the first write that has an error, if there is one, is in the
device that needs no mask. -/
theorem recoversRight_iff (cfg : FwUpdateCfg) (block : RetimerBlock) (targetAddr : UInt8)
    (answers : Nat → Int) :
    (∃ recovered, pldmRetimerRecovery cfg block (.start targetAddr answers) = some recovered ∧
        RecoversRight block targetAddr answers recovered) ↔
      (block.supported = true →
        FailsUnmasked answers 0
          (chunks block.data.length block.dataOfs.toNat block.data.length)) := by
  unfold pldmRetimerRecovery
  by_cases known : block.supported = true
  · obtain ⟨ret, final, ran, carries⟩ := recoveryLoop_carries _ (Nat.le_refl block.data.length)
      block.dataOfs.toNat_lt
      (if (block.dataOfs.toNat + block.data.length) % 2 ^ 32 < cfg.imageSize then 0
        else sectorEndFlag) (.start targetAddr answers)
    obtain ⟨⟨more, wrote, front, all⟩, succeeds, inPages, restored⟩ := carries
    have written : final.written.flatMap EepromWrite.places = more := wrote
    rw [if_pos known, ran]
    constructor
    · rintro ⟨recovered, same, right⟩ -
      cases same
      exact restored.mp right.restored
    · intro fails
      refine ⟨_, rfl, ?_, ?_, fun _ => succeeds, ?_, restored.mpr (fails known)⟩
      · rw [written]
        exact front
      · intro done
        rw [written]
        exact all done
      · exact inPages fun write listed => absurd listed (by simp [RetimerBus.start])
  · rw [if_neg known]
    refine ⟨fun _ supported => absurd supported known, fun _ => ⟨_, rfl, ?_⟩⟩
    refine ⟨List.nil_prefix, fun (wrong : (1 : UInt8) = 0) => absurd wrong (by decide),
      fun supported => absurd supported known, ?_, rfl⟩
    exact fun write listed => absurd listed (by simp [RetimerBus.start])

def secondDevice : RetimerBlock where
  compVersionStr := "pt5161l".toList
  data := [0x5A]
  dataOfs := 0x10000
  short := by decide

/-- The bus does not take the byte, and the address is not restored. -/
theorem secondDevice_not_restored :
    ¬ ∃ recovered, pldmRetimerRecovery ⟨0x20000, 64⟩ secondDevice (.start 0x50 fun _ => -1) =
      some recovered ∧ RecoversRight secondDevice 0x50 (fun _ => -1) recovered := by
  rintro ⟨recovered, ran, right⟩
  have address : (pldmRetimerRecovery ⟨0x20000, 64⟩ secondDevice (.start 0x50 fun _ => -1)).map
      (·.bus.targetAddr) = some 0x51 := by decide +kernel
  rw [ran] at address
  exact absurd (right.restored.symm.trans (Option.some.inj address)) (by decide)

end OpenBic.Retimer
