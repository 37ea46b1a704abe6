import OpenBic.Ipmi.CmdHandle
import OpenBic.Library.Machine
import OpenBic.Library.Tiling
import Mathlib.Data.List.Induction
import Mathlib.Logic.Function.Basic

/-!
# The repository of sensor data records

`sdr.c` and the handlers `STORAGE_RSV_SDR` and `STORAGE_GET_SDR` of `storage_handler.c`. The records
of the platform are loaded into a table, their lengths take the lengths of their names, and the
BMC reads them one after another in parts.
-/

namespace OpenBic.Sdr

open List Option Function Library.Machine Library.Tiling Ipmi

/-! ## The code -/

def sensorNumMax : Nat := 0xFF

def sdrEndId : Nat := 0xFFFF

def sdrInvalidId : Nat := 0xFFFE

def ipmiSdrHeaderLen : Nat := 5

def ipmiDataMaxLength : Nat := 520

/-- `sizeof(SDR_Full_sensor)`: 48 bytes of fields and 32 of `ID_str`. -/
def sdrFullSensorSize : Nat := 80

/-- `SDR_Full_sensor`, byte by byte. -/
structure SdrFullSensor where
  bytes : List UInt8
  sized : bytes.length = sdrFullSensorSize

def SdrFullSensor.recordLen (record : SdrFullSensor) : UInt8 := record.bytes.getD 4 0

def SdrFullSensor.sensorNum (record : SdrFullSensor) : UInt8 := record.bytes.getD 7 0

def SdrFullSensor.idLen (record : SdrFullSensor) : UInt8 := record.bytes.getD 47 0

def SdrFullSensor.idStr (record : SdrFullSensor) : List UInt8 := record.bytes.drop 48

def SdrFullSensor.set (record : SdrFullSensor) (place : Nat) (byte : UInt8) : SdrFullSensor where
  bytes := record.bytes.set place byte
  sized := by rw [length_set, record.sized]

/-- `strlen`. Nothing is known when the string does not end in its array. -/
def strlen (string : List UInt8) : Option Nat := string.findIdx? (· = 0)

/-- `get_sdr_index`: the first record of the sensor. -/
def getSdrIndex (table : List SdrFullSensor) (sensorNum : UInt8) : Nat :=
  (table.findIdx? (·.sensorNum = sensorNum)).getD sensorNumMax

def addFullSdrTable (sensorConfigSize : UInt8) (table : List SdrFullSensor)
    (addItem : SdrFullSensor) : List SdrFullSensor :=
  let index := getSdrIndex table addItem.sensorNum
  if index ≠ sensorNumMax then table.set index addItem
  else if table.length + 1 ≤ sensorConfigSize.toNat then table ++ [addItem]
  else table

/-- What the platform has for the table. -/
structure SdrPlatform where
  platSdrTable : List SdrFullSensor
  /-- The records that `pal_extend_full_sdr_table` adds. -/
  extension : List SdrFullSensor
  /-- `sensor_config_size`, for which the table is allocated. -/
  sensorConfigSize : UInt8

/-- `load_sdr_table`. Nothing is known when the records of the platform are more than the table is
allocated for. -/
def loadSdrTable (platform : SdrPlatform) : Option (List SdrFullSensor) :=
  if platform.platSdrTable.length ≤ platform.sensorConfigSize.toNat then
    some (platform.extension.foldl (addFullSdrTable platform.sensorConfigSize)
      platform.platSdrTable)
  else none

/-- One turn of the loop of `sdr_init`. -/
def initRecord (record : SdrFullSensor) (i : Nat) : Option SdrFullSensor := do
  let length ← strlen record.idStr
  let record := (record.set 0 (UInt8.ofNat (i / 256))).set 1 (UInt8.ofNat i)
  let record := record.set 47 (record.idLen + UInt8.ofNat length)
  return record.set 4 (record.recordLen + UInt8.ofNat length)

/-- The loop of `sdr_init`, from a place on. -/
def initTable : List SdrFullSensor → Nat → Option (List SdrFullSensor)
  | [], _ => some []
  | record :: rest, i => do
    let record ← initRecord record i
    let rest ← initTable rest (i + 1)
    return record :: rest

def SdrFullSensor.recordId (record : SdrFullSensor) : Nat :=
  (record.bytes.getD 0 0).toNat * 256 + (record.bytes.getD 1 0).toNat

/-- The records and the reservations; `given` are all that were given out. -/
structure SdrRepository where
  /-- `full_sdr_table`, as far as `sdr_count`. -/
  fullSdrTable : List SdrFullSensor
  lastId : Nat
  /-- `RSV_ID`, of `SLOT3_BIC` and of the others. -/
  rsvId : Bool → UInt16
  given : Bool → List UInt16

def SdrRepository.start : SdrRepository := ⟨[], 0, fun _ => 0, fun _ => []⟩

/-- `sdr_init`. Nothing is known when the table has no last record. -/
def sdrInit (platform : SdrPlatform) (sdr : SdrRepository) : Option SdrRepository := do
  let loaded ← loadSdrTable platform
  let fullSdrTable ← initTable loaded 0
  let last ← fullSdrTable.getLast?
  return { sdr with
    fullSdrTable
    lastId := last.recordId }

/-- `SDR_get_record_ID`: the next one, the end, or none. -/
def SdrRepository.getRecordId (sdr : SdrRepository) (currentId : Nat) : Nat :=
  if currentId < sdr.lastId then currentId + 1
  else if currentId = sdr.lastId then sdrEndId
  else sdrInvalidId

def SdrRepository.checkRecordId (sdr : SdrRepository) (currentId : Nat) : Bool :=
  decide (currentId ≤ sdr.lastId)

/-- `SDR_get_RSV_ID`: a new reservation. -/
def SdrRepository.getRsvId (sdr : SdrRepository) (slot3 : Bool) : UInt16 × SdrRepository :=
  let id := sdr.rsvId slot3 + 1
  (id, { sdr with
    rsvId := update sdr.rsvId slot3 id
    given := update sdr.given slot3 (sdr.given slot3 ++ [id]) })

def SdrRepository.rsvIdCheck (sdr : SdrRepository) (id : UInt16) (slot3 : Bool) : Bool :=
  sdr.rsvId slot3 == id

def storageRsvSdr (sdr : SdrRepository) (slot3 : Bool) (msg : HandlerMsg) :
    HandlerMsg × SdrRepository :=
  if msg.dataLen ≠ 0 then (msg.complete .invalidLength, sdr)
  else
    let (id, sdr) := sdr.getRsvId slot3
    ({
      data := (msg.copied [UInt8.ofNat id.toNat, UInt8.ofNat (id.toNat / 256)]).data
      dataLen := 2
      completionCode := .success }, sdr)

/-- The table as it is in memory. Nothing is known of what lies behind it. -/
def SdrRepository.memcpy (sdr : SdrRepository) (offset length : Nat) : Option (List UInt8) :=
  let bytes := sdr.fullSdrTable.flatMap SdrFullSensor.bytes
  if offset + length ≤ bytes.length then some ((bytes.drop offset).take length) else none

def storageGetSdr (sdr : SdrRepository) (slot3 : Bool) (msg : HandlerMsg) : Option HandlerMsg :=
  let rsvId := UInt16.ofNat (msg.word 0)
  let recordId := msg.word 2
  let offset := (msg.data 4).toNat
  let reqLen := (msg.data 5).toNat
  if msg.dataLen ≠ 6 then some (msg.complete .invalidLength)
  else if !sdr.rsvIdCheck rsvId slot3 then some (msg.complete .invalidReservation)
  else if !sdr.checkRecordId recordId then some (msg.complete .invalidDataField)
  else if ipmiDataMaxLength < reqLen + 2 then some (msg.complete .lengthExceeded)
  else do
    let record ← sdr.fullSdrTable[recordId]?
    if ipmiSdrHeaderLen + record.recordLen.toNat < offset + reqLen then
      return msg.complete .paramOutOfRange
    else do
      let nextRecordId := sdr.getRecordId recordId
      let copied ← sdr.memcpy (recordId * sdrFullSensorSize + offset) reqLen
      return {
        data := (msg.copied (UInt8.ofNat nextRecordId :: UInt8.ofNat (nextRecordId / 256) ::
          copied)).data
        dataLen := reqLen + 2
        completionCode := .success }

/-! ## What is claimed -/

/-- What can happen. -/
inductive SdrEvent where
  | init
  /-- `SLOT3_BIC` or another one asks for a reservation. -/
  | reserve (slot3 : Bool)
deriving DecidableEq

def step (platform : SdrPlatform) (sdr : SdrRepository) : SdrEvent → Option SdrRepository
  | .init => sdrInit platform sdr
  | .reserve slot3 => some (storageRsvSdr sdr slot3 ⟨fun _ => 0, 0, .invalidCmd⟩).2

def recordsLoaded (platform : SdrPlatform) (events : List SdrEvent) : List SdrFullSensor :=
  if SdrEvent.init ∈ events then (loadSdrTable platform).getD [] else []

def request (base : Nat → UInt8) (rsvId : UInt16) (recordId : Nat) (offset reqLen : UInt8) :
    HandlerMsg :=
  HandlerMsg.copied ⟨base, 6, .invalidCmd⟩
    [UInt8.ofNat rsvId.toNat, UInt8.ofNat (rsvId.toNat / 256), UInt8.ofNat recordId,
      UInt8.ofNat (recordId / 256), offset, reqLen]

/-- The answer to a request with the reservation that was given last. -/
def SdrRepository.get (sdr : SdrRepository) (slot3 : Bool) (base : Nat → UInt8) (recordId : Nat)
    (offset reqLen : UInt8) : Option HandlerMsg :=
  storageGetSdr sdr slot3 (request base (sdr.rsvId slot3) recordId offset reqLen)

/-- The records that are visited from one on, when each answer names the next one. A walk begins with
a record: where none is loaded it goes wrong. -/
def walk (sdr : SdrRepository) (slot3 : Bool) (base : Nat → UInt8) : Nat → Nat → Option (List Nat)
  | 0, recordId => if recordId = sdrEndId then some [] else none
  | turns + 1, recordId =>
    if recordId = sdrEndId then some []
    else do
      let answer ← sdr.get slot3 base recordId 0 0
      if answer.completionCode = .success then
        let rest ← walk sdr slot3 base turns (answer.word 0)
        return recordId :: rest
      else none

def part (sdr : SdrRepository) (slot3 : Bool) (base : Nat → UInt8) (recordId : Nat)
    (piece : Nat × Nat) : Option (List UInt8) := do
  let answer ← sdr.get slot3 base recordId (UInt8.ofNat piece.1) (UInt8.ofNat piece.2)
  if answer.completionCode = .success then return answer.bytes.drop 2
  else none

/-- A loaded record can be read: it is stored with its id and with the length of its name, a read
is a part of it, or it is refused, and parts that cover it are the record. -/
structure ReadsRight (sdr : SdrRepository) (record : SdrFullSensor) (index : Nat)
    (stored : SdrFullSensor) : Prop where
  stores : initRecord record index = some stored
  length : ∃ name, strlen record.idStr = some name ∧
    stored.recordLen.toNat = record.recordLen.toNat + name
  inside : ∀ slot3 base (offset reqLen : UInt8), ∃ answer,
    sdr.get slot3 base index offset reqLen = some answer ∧
      if offset.toNat + reqLen.toNat ≤ ipmiSdrHeaderLen + stored.recordLen.toNat then
        answer.completionCode = .success ∧
          offset.toNat + reqLen.toNat ≤ sdrFullSensorSize ∧
          answer.bytes.drop 2 = (stored.bytes.drop offset.toNat).take reqLen.toNat
      else answer.completionCode = .paramOutOfRange
  parts : ∀ slot3 base pieces, Tiles 0 pieces (ipmiSdrHeaderLen + stored.recordLen.toNat) →
    ∃ read, pieces.mapM (part sdr slot3 base index) = some read ∧
      read.flatten = stored.bytes.take (ipmiSdrHeaderLen + stored.recordLen.toNat)

/-- The records that are loaded are visited once each and can be read, and a reservation that is not
the last one is refused. -/
structure RepositoryRight (loaded : List SdrFullSensor) (sdr : SdrRepository) : Prop where
  visits : ∀ slot3 base, walk sdr slot3 base loaded.length 0 = some (List.range loaded.length)
  reads : ∀ index record, loaded[index]? = some record →
    ∃ stored, ReadsRight sdr record index stored
  stale : ∀ slot3, ∀ id ∈ (sdr.given slot3).dropLast, ∀ msg : HandlerMsg, msg.dataLen = 6 →
    UInt16.ofNat (msg.word 0) = id →
    storageGetSdr sdr slot3 msg = some (msg.complete .invalidReservation)

/-- A record whose name ends in its array and that fits with its name. -/
def Fits (record : SdrFullSensor) : Prop :=
  ∃ name, strlen record.idStr = some name ∧
    ipmiSdrHeaderLen + record.recordLen.toNat + name ≤ sdrFullSensorSize

/-! ## A record -/

section Record

variable {record stored : SdrFullSensor} {name index : Nat} {byte : UInt8}

theorem getD_set_self (record : SdrFullSensor) {place : Nat} (inside : place < sdrFullSensorSize)
    (byte : UInt8) : (record.set place byte).bytes.getD place 0 = byte := by
  have within : place < record.bytes.length := by
    rw [record.sized]
    exact inside
  change (record.bytes.set place byte).getD place 0 = byte
  rw [getD_eq_getElem?_getD, getElem?_set_self within]
  rfl

theorem getD_set_ne (record : SdrFullSensor) {place other : Nat} (apart : place ≠ other)
    (byte : UInt8) : (record.set place byte).bytes.getD other 0 = record.bytes.getD other 0 := by
  change (record.bytes.set place byte).getD other 0 = record.bytes.getD other 0
  rw [getD_eq_getElem?_getD, getElem?_set_ne apart, getD_eq_getElem?_getD]

def renamed (record : SdrFullSensor) (index name : Nat) : SdrFullSensor :=
  let record := (record.set 0 (UInt8.ofNat (index / 256))).set 1 (UInt8.ofNat index)
  let record := record.set 47 (record.idLen + UInt8.ofNat name)
  record.set 4 (record.recordLen + UInt8.ofNat name)

theorem initRecord_eq (found : strlen record.idStr = some name) (index : Nat) :
    initRecord record index = some (renamed record index name) := by
  unfold initRecord
  rw [found]
  rfl

theorem recordId_renamed (record : SdrFullSensor) (name : Nat) (small : index < 2 ^ 16) :
    (renamed record index name).recordId = index := by
  unfold SdrFullSensor.recordId renamed
  rw [getD_set_ne _ (by decide), getD_set_ne _ (by decide), getD_set_ne _ (by decide),
    getD_set_self _ (by decide), getD_set_ne _ (by decide), getD_set_ne _ (by decide),
    getD_set_self _ (by decide), UInt8.toNat_ofNat', UInt8.toNat_ofNat']
  omega

theorem recordLen_renamed (record : SdrFullSensor) (index name : Nat) :
    (renamed record index name).recordLen = record.recordLen + UInt8.ofNat name := by
  unfold renamed
  rw [SdrFullSensor.recordLen, getD_set_self _ (by decide)]
  congr 1
  unfold SdrFullSensor.recordLen
  rw [getD_set_ne _ (by decide), getD_set_ne _ (by decide), getD_set_ne _ (by decide)]

theorem Fits.length (fits : Fits record) (index : Nat) :
    ∃ name, strlen record.idStr = some name ∧
      (renamed record index name).recordLen.toNat = record.recordLen.toNat + name ∧
      ipmiSdrHeaderLen + (renamed record index name).recordLen.toNat ≤ sdrFullSensorSize := by
  obtain ⟨name, found, small⟩ := fits
  have whole : (renamed record index name).recordLen.toNat = record.recordLen.toNat + name := by
    rw [recordLen_renamed, UInt8.toNat_add, UInt8.toNat_ofNat']
    unfold ipmiSdrHeaderLen sdrFullSensorSize at small
    omega
  refine ⟨name, found, whole, ?_⟩
  omega

end Record

/-! ## The table -/

section Table

variable {records table : List SdrFullSensor} {record : SdrFullSensor} {start index : Nat}

theorem initTable_some (stored : initTable records start = some table) :
    table.length = records.length ∧
      ∀ index record, records[index]? = some record →
        ∃ name, strlen record.idStr = some name ∧
          table[index]? = some (renamed record (start + index) name) := by
  induction records generalizing start table with
  | nil =>
    cases stored
    exact ⟨rfl, fun index record found => absurd found (by simp)⟩
  | cons first rest ih =>
    obtain ⟨head, one, stored⟩ := Option.bind_eq_some_iff.mp stored
    obtain ⟨tail, others, stored⟩ := Option.bind_eq_some_iff.mp stored
    cases stored
    obtain ⟨length, onward⟩ := ih others
    have named := one
    obtain ⟨name, found, -⟩ := Option.bind_eq_some_iff.mp named
    rw [initRecord_eq found] at one
    cases one
    refine ⟨congrArg Nat.succ length, fun index record here => ?_⟩
    cases index with
    | zero =>
      cases here
      exact ⟨name, found, rfl⟩
    | succ index =>
      obtain ⟨name, found, there⟩ := onward index record here
      rw [Nat.add_assoc, Nat.add_comm 1] at there
      exact ⟨name, found, there⟩

theorem initTable_isSome (named : ∀ record ∈ records, ∃ name, strlen record.idStr = some name)
    (start : Nat) : ∃ table, initTable records start = some table := by
  induction records generalizing start with
  | nil => exact ⟨[], rfl⟩
  | cons first rest ih =>
    obtain ⟨name, found⟩ := named first mem_cons_self
    obtain ⟨tail, others⟩ := ih (fun record listed =>
      named record (mem_cons_of_mem _ listed)) (start + 1)
    refine ⟨renamed first start name :: tail, ?_⟩
    rw [initTable, initRecord_eq found, others]
    rfl

/-- A table holds the records that are loaded. -/
structure Stores (records : List SdrFullSensor) (sdr : SdrRepository) : Prop where
  length : sdr.fullSdrTable.length = records.length
  stored : ∀ index record, records[index]? = some record →
    ∃ name, strlen record.idStr = some name ∧
      sdr.fullSdrTable[index]? = some (renamed record index name)
  last : sdr.lastId + 1 = records.length
  few : records.length ≤ 255

theorem drop_flatMap_bytes (table : List SdrFullSensor) (offset : Nat)
    (here : table[index]? = some record) (inside : offset ≤ sdrFullSensorSize) :
    (table.flatMap SdrFullSensor.bytes).drop (index * sdrFullSensorSize + offset) =
      record.bytes.drop offset ++ (table.drop (index + 1)).flatMap SdrFullSensor.bytes := by
  induction table generalizing index with
  | nil => cases here
  | cons first rest ih =>
    rw [flatMap_cons]
    cases index with
    | zero =>
      obtain rfl := Option.some.inj here
      rw [Nat.zero_mul, Nat.zero_add, drop_append_of_le_length (by rw [first.sized]; exact
        inside)]
      rfl
    | succ index =>
      have place : (index + 1) * sdrFullSensorSize + offset =
          first.bytes.length + (index * sdrFullSensorSize + offset) := by
        rw [first.sized, Nat.succ_mul]
        omega
      rw [place, drop_append, drop_eq_nil_of_le (Nat.le_add_right _ _), nil_append,
        Nat.add_sub_cancel_left, ih here]
      rfl

end Table

/-! ## A request -/

section Request

variable {sdr : SdrRepository} {records : List SdrFullSensor} {record stored : SdrFullSensor}
variable {slot3 : Bool} {base : Nat → UInt8} {recordId index name : Nat} {rsvId : UInt16}
variable {offset reqLen : UInt8}

theorem data_request {place : Nat} (few : place < 6) :
    (request base rsvId recordId offset reqLen).data place =
      [UInt8.ofNat rsvId.toNat, UInt8.ofNat (rsvId.toNat / 256), UInt8.ofNat recordId,
        UInt8.ofNat (recordId / 256), offset, reqLen].getD place 0 :=
  copied_data _ few

theorem rsvId_request :
    UInt16.ofNat ((request base rsvId recordId offset reqLen).word 0) = rsvId := by
  have bound := rsvId.toNat_lt
  change UInt16.ofNat ((UInt8.ofNat (rsvId.toNat / 256)).toNat * 256 +
    (UInt8.ofNat rsvId.toNat).toNat) = rsvId
  rw [UInt8.toNat_ofNat', UInt8.toNat_ofNat', ← UInt16.toNat_inj, UInt16.toNat_ofNat']
  omega

theorem recordId_request (small : recordId < 2 ^ 16) :
    (request base rsvId recordId offset reqLen).word 2 = recordId := by
  change (UInt8.ofNat (recordId / 256)).toNat * 256 + (UInt8.ofNat recordId).toNat = recordId
  rw [UInt8.toNat_ofNat', UInt8.toNat_ofNat']
  omega

theorem memcpy_record (here : sdr.fullSdrTable[index]? = some stored) {offset length : Nat}
    (inside : offset + length ≤ sdrFullSensorSize) :
    sdr.memcpy (index * sdrFullSensorSize + offset) length =
      some ((stored.bytes.drop offset).take length) := by
  have whole := drop_flatMap_bytes sdr.fullSdrTable 0 here (Nat.zero_le _)
  have size := congrArg List.length whole
  rw [length_drop, length_append, length_drop, stored.sized] at size
  have fits : index * sdrFullSensorSize + offset + length ≤
      (sdr.fullSdrTable.flatMap SdrFullSensor.bytes).length := by
    unfold sdrFullSensorSize at size inside ⊢
    omega
  unfold SdrRepository.memcpy
  rw [if_pos fits, drop_flatMap_bytes _ _ here (by omega), take_append_of_le_length]
  rw [length_drop, stored.sized]
  omega

/-- The answer to a request for a part of a record. -/
theorem Stores.get (stores : Stores records sdr) (inside : index < records.length)
    (here : sdr.fullSdrTable[index]? = some stored) (slot3 : Bool) (base : Nat → UInt8)
    (offset reqLen : UInt8) :
    sdr.get slot3 base index offset reqLen =
      if ipmiSdrHeaderLen + stored.recordLen.toNat < offset.toNat + reqLen.toNat then
        some ((request base (sdr.rsvId slot3) index offset reqLen).complete .paramOutOfRange)
      else
        (sdr.memcpy (index * sdrFullSensorSize + offset.toNat) reqLen.toNat).map fun copied => {
          data := ((request base (sdr.rsvId slot3) index offset reqLen).copied
            (UInt8.ofNat (sdr.getRecordId index) ::
              UInt8.ofNat (sdr.getRecordId index / 256) :: copied)).data
          dataLen := reqLen.toNat + 2
          completionCode := .success } := by
  have few := stores.few
  have last := stores.last
  have known : sdr.checkRecordId index = true := decide_eq_true (by omega)
  have reserved : sdr.rsvIdCheck (sdr.rsvId slot3) slot3 = true := beq_self_eq_true _
  have short : ¬ ipmiDataMaxLength < reqLen.toNat + 2 := by
    have bound := reqLen.toNat_lt
    unfold ipmiDataMaxLength
    omega
  have first : (request base (sdr.rsvId slot3) index offset reqLen).data 4 = offset :=
    data_request (by decide)
  have second : (request base (sdr.rsvId slot3) index offset reqLen).data 5 = reqLen :=
    data_request (by decide)
  have six : ¬ (request base (sdr.rsvId slot3) index offset reqLen).dataLen ≠ 6 :=
    fun apart => apart rfl
  unfold SdrRepository.get storageGetSdr
  rw [if_neg six, rsvId_request, recordId_request (by omega), first, second, reserved, known,
    Bool.not_true, if_neg Bool.false_ne_true, if_neg Bool.false_ne_true, if_neg short, here]
  simp only [bind_eq_bind, bind_some, Option.pure_def]
  split
  · rfl
  · rw [map_eq_bind]
    rfl

theorem Stores.get_inside (stores : Stores records sdr) (within : index < records.length)
    (here : sdr.fullSdrTable[index]? = some stored) (slot3 : Bool) (base : Nat → UInt8)
    (part : offset.toNat + reqLen.toNat ≤ ipmiSdrHeaderLen + stored.recordLen.toNat)
    (inside : offset.toNat + reqLen.toNat ≤ sdrFullSensorSize) :
    ∃ answer, sdr.get slot3 base index offset reqLen = some answer ∧
      answer.completionCode = .success ∧ answer.word 0 = sdr.getRecordId index % 2 ^ 16 ∧
      answer.bytes.drop 2 = (stored.bytes.drop offset.toNat).take reqLen.toNat := by
  rw [stores.get within here, if_neg (Nat.not_lt_of_le part), memcpy_record here inside]
  refine ⟨_, rfl, rfl, ?_, ?_⟩
  · change (UInt8.ofNat (sdr.getRecordId index / 256)).toNat * 256 +
      (UInt8.ofNat (sdr.getRecordId index)).toNat = _
    rw [UInt8.toNat_ofNat', UInt8.toNat_ofNat']
    omega
  · have length : ((stored.bytes.drop offset.toNat).take reqLen.toNat).length =
        reqLen.toNat := by
      rw [length_take, length_drop, stored.sized]
      omega
    unfold HandlerMsg.bytes
    have all := range_copied (request base (sdr.rsvId slot3) index offset reqLen)
      (UInt8.ofNat (sdr.getRecordId index) :: UInt8.ofNat (sdr.getRecordId index / 256) ::
        (stored.bytes.drop offset.toNat).take reqLen.toNat)
    rw [length_cons, length_cons, length] at all
    rw [all]
    rfl

theorem Stores.walk (stores : Stores records sdr) (slot3 : Bool) (base : Nat → UInt8)
    (turns index : Nat) (more : 0 < turns) (ends : index + turns = records.length) :
    walk sdr slot3 base turns index = some (List.range' index turns) := by
  have few := stores.few
  have last := stores.last
  induction turns generalizing index with
  | zero => exact absurd more (Nat.lt_irrefl 0)
  | succ turns ih =>
    have within : index < records.length := by omega
    have apart : index ≠ sdrEndId := by
      unfold sdrEndId
      omega
    have found : sdr.fullSdrTable[index]? = some (sdr.fullSdrTable.get ⟨index, by
        rw [stores.length]; exact within⟩) := getElem?_eq_getElem _
    obtain ⟨answer, got, success, next, -⟩ := @Stores.get_inside _ _ _ _ 0 0 stores within found
      slot3 base (Nat.zero_le _) (Nat.zero_le _)
    rw [Sdr.walk, if_neg apart, got]
    simp only [bind_eq_bind, bind_some, if_pos success, next, range'_succ]
    by_cases final : turns = 0
    · have ended : sdr.getRecordId index % 2 ^ 16 = sdrEndId := by
        unfold SdrRepository.getRecordId
        rw [if_neg (by omega), if_pos (by omega)]
        rfl
      rw [ended, final]
      rfl
    · have onward : sdr.getRecordId index % 2 ^ 16 = index + 1 := by
        unfold SdrRepository.getRecordId
        rw [if_pos (by omega)]
        omega
      rw [onward, ih (index + 1) (by omega) (by omega)]
      rfl

/-- The parts that cover a range of a record. -/
theorem Stores.parts (stores : Stores records sdr) (within : index < records.length)
    (here : sdr.fullSdrTable[index]? = some stored) (slot3 : Bool) (base : Nat → UInt8)
    (whole : ipmiSdrHeaderLen + stored.recordLen.toNat ≤ sdrFullSensorSize)
    {start stop : Nat} {pieces : List (Nat × Nat)} (tiles : Tiles start pieces stop)
    (inside : stop ≤ ipmiSdrHeaderLen + stored.recordLen.toNat) :
    ∃ read, pieces.mapM (part sdr slot3 base index) = some read ∧
      read.flatten = (stored.bytes.drop start).take (stop - start) := by
  induction tiles with
  | nil start => exact ⟨[], rfl, by rw [Nat.sub_self, take_zero]; rfl⟩
  | @cons start length stop rest onward ih =>
    have ordered := onward.le
    obtain ⟨read, others, joined⟩ := ih inside
    have first : (UInt8.ofNat start).toNat = start := by
      unfold sdrFullSensorSize at whole
      rw [UInt8.toNat_ofNat', Nat.mod_eq_of_lt]
      omega
    have second : (UInt8.ofNat length).toNat = length := by
      unfold sdrFullSensorSize at whole
      rw [UInt8.toNat_ofNat', Nat.mod_eq_of_lt]
      omega
    obtain ⟨answer, got, success, -, bytes⟩ := @Stores.get_inside _ _ _ _ (UInt8.ofNat start)
      (UInt8.ofNat length) stores within here slot3 base (by rw [first, second]; omega)
      (by rw [first, second]; omega)
    rw [first, second] at bytes
    have one : part sdr slot3 base index (start, length) =
        some ((stored.bytes.drop start).take length) := by
      unfold part
      rw [got, ← bytes]
      simp only [bind_eq_bind, bind_some, if_pos success, Option.pure_def]
    refine ⟨(stored.bytes.drop start).take length :: read, ?_, ?_⟩
    · rw [mapM_cons, one, others]
      rfl
    · have size : stop - start = length + (stop - (start + length)) := by omega
      rw [flatten_cons, joined, size, take_add, drop_drop]

theorem Stores.readsRight (stores : Stores records sdr) (listed : records[index]? = some record)
    (fits : Fits record) : ∃ stored, ReadsRight sdr record index stored := by
  obtain ⟨within, -⟩ := List.getElem?_eq_some_iff.mp listed
  obtain ⟨name, found, length, small⟩ := fits.length index
  obtain ⟨other, again, here⟩ := stores.stored index record listed
  cases found.symm.trans again
  refine ⟨renamed record index name, initRecord_eq found index, ⟨name, found, length⟩, ?_, ?_⟩
  · intro slot3 base offset reqLen
    by_cases part : offset.toNat + reqLen.toNat ≤
        ipmiSdrHeaderLen + (renamed record index name).recordLen.toNat
    · have inside := Nat.le_trans part small
      obtain ⟨answer, got, success, -, bytes⟩ :=
        stores.get_inside within here slot3 base part inside
      refine ⟨answer, got, ?_⟩
      rw [if_pos part]
      exact ⟨success, inside, bytes⟩
    · refine ⟨_, (stores.get within here slot3 base offset reqLen).trans
        (if_pos (Nat.lt_of_not_le part)), ?_⟩
      rw [if_neg part]
      rfl
  · intro slot3 base pieces tiles
    exact stores.parts within here slot3 base small tiles le_rfl

theorem ReadsRight.fits (reads : ReadsRight sdr record index stored) : Fits record := by
  obtain ⟨name, found, length⟩ := reads.length
  refine ⟨name, found, ?_⟩
  rw [Nat.add_assoc, ← length]
  by_contra large
  -- The byte behind the record is read as a part of it.
  have behind : (UInt8.ofNat sdrFullSensorSize).toNat + (1 : UInt8).toNat ≤
      ipmiSdrHeaderLen + stored.recordLen.toNat := Nat.lt_of_not_le large
  obtain ⟨answer, -, right⟩ := reads.inside false (fun _ => 0) (UInt8.ofNat sdrFullSensorSize) 1
  rw [if_pos behind] at right
  exact absurd right.2.1 (by decide)

end Request

/-! ## Runs -/

section Runs

variable {platform : SdrPlatform} {sdr next : SdrRepository} {loaded : List SdrFullSensor}
variable {past events : List SdrEvent} {slot3 : Bool}

theorem length_addFullSdrTable (table : List SdrFullSensor) (addItem : SdrFullSensor)
    (few : table.length ≤ platform.sensorConfigSize.toNat) :
    (addFullSdrTable platform.sensorConfigSize table addItem).length ≤
      platform.sensorConfigSize.toNat := by
  unfold addFullSdrTable
  dsimp only
  split
  · rw [length_set]
    exact few
  · split
    · rw [length_append, length_singleton]
      assumption
    · exact few

theorem length_loadSdrTable (fits : loadSdrTable platform = some loaded) :
    loaded.length ≤ platform.sensorConfigSize.toNat := by
  unfold loadSdrTable at fits
  split at fits
  · rename_i few
    obtain rfl := Option.some.inj fits
    induction platform.extension using List.reverseRecOn with
    | nil => exact few
    | append_singleton items item ih =>
      rw [foldl_append, foldl_cons, foldl_nil]
      exact length_addFullSdrTable _ item ih
  · cases fits

theorem sdrInit_some (done : sdrInit platform sdr = some next) :
    ∃ loaded, loadSdrTable platform = some loaded ∧ Stores loaded next ∧
      next.rsvId = sdr.rsvId ∧ next.given = sdr.given := by
  obtain ⟨loaded, fits, done⟩ := Option.bind_eq_some_iff.mp done
  obtain ⟨table, named, done⟩ := Option.bind_eq_some_iff.mp done
  obtain ⟨last, ends, done⟩ := Option.bind_eq_some_iff.mp done
  cases done
  obtain ⟨length, stored⟩ := initTable_some named
  have bound := platform.sensorConfigSize.toNat_lt
  have few := length_loadSdrTable fits
  refine ⟨loaded, fits, ⟨length, ?_, ?_, by omega⟩, rfl, rfl⟩
  · intro index record listed
    obtain ⟨name, found, here⟩ := stored index record listed
    rw [Nat.zero_add] at here
    exact ⟨name, found, here⟩
  · rw [getLast?_eq_getElem?] at ends
    obtain ⟨within, -⟩ := List.getElem?_eq_some_iff.mp ends
    rw [length] at within ends
    obtain ⟨name, -, here⟩ := stored (loaded.length - 1) _ (getElem?_eq_getElem within)
    cases ends.symm.trans here
    dsimp only
    rw [Nat.zero_add, recordId_renamed _ _ (by omega)]
    omega

theorem sdrInit_isSome (fits : loadSdrTable platform = some loaded) (some : loaded ≠ [])
    (named : ∀ record ∈ loaded, ∃ name, strlen record.idStr = .some name) (sdr : SdrRepository) :
    ∃ next, sdrInit platform sdr = .some next := by
  obtain ⟨table, stored⟩ := initTable_isSome named 0
  have length := (initTable_some stored).1
  cases ends : table.getLast? with
  | none =>
    rw [List.getLast?_eq_none_iff.mp ends] at length
    exact absurd (List.length_eq_zero_iff.mp length.symm) some
  | some last =>
    refine ⟨{ sdr with
      fullSdrTable := table
      lastId := last.recordId }, ?_⟩
    unfold sdrInit
    rw [fits]
    simp only [bind_eq_bind, bind_some, stored, ends]
    rfl

/-- What holds after some events. -/
structure Passed (platform : SdrPlatform) (past : List SdrEvent) (sdr : SdrRepository) : Prop where
  given : ∀ slot3, sdr.given slot3 =
    (List.range (past.count (.reserve slot3))).map fun earlier => UInt16.ofNat (earlier + 1)
  rsvId : ∀ slot3, sdr.rsvId slot3 = UInt16.ofNat (past.count (.reserve slot3))
  stores : SdrEvent.init ∈ past → Stores (recordsLoaded platform past) sdr

theorem Passed.init (passed : Passed platform past sdr)
    (done : sdrInit platform sdr = some next) : Passed platform (past ++ [.init]) next := by
  obtain ⟨loaded, fits, stores, rsvId, given⟩ := sdrInit_some done
  have counted : ∀ slot3, (past ++ [SdrEvent.init]).count (.reserve slot3) =
      past.count (.reserve slot3) := by
    intro slot3
    rw [count_append, count_singleton]
    rfl
  refine ⟨fun slot3 => ?_, fun slot3 => ?_, fun _ => ?_⟩
  · rw [given, counted]
    exact passed.given slot3
  · rw [rsvId, counted]
    exact passed.rsvId slot3
  · unfold recordsLoaded
    rw [if_pos (mem_append_right _ (mem_singleton_self _)), fits]
    exact stores

theorem Passed.reserve (passed : Passed platform past sdr) (slot3 : Bool) :
    Passed platform (past ++ [.reserve slot3]) (sdr.getRsvId slot3).2 := by
  have id : sdr.rsvId slot3 + 1 = UInt16.ofNat (past.count (.reserve slot3) + 1) := by
    rw [passed.rsvId slot3, UInt16.ofNat_add]
    rfl
  have counted : ∀ other, (past ++ [SdrEvent.reserve slot3]).count (.reserve other) =
      past.count (.reserve other) + if other = slot3 then 1 else 0 := by
    intro other
    rw [count_append, count_singleton]
    cases slot3 <;> cases other <;> rfl
  refine ⟨fun other => ?_, fun other => ?_, fun listed => ?_⟩
  · rw [counted]
    change update sdr.given slot3 _ other = _
    by_cases same : other = slot3
    · rw [same, update_self, if_pos rfl, range_succ, map_append,
        map_singleton, id, passed.given slot3]
    · rw [update_of_ne same, if_neg same, Nat.add_zero]
      exact passed.given other
  · rw [counted]
    change update sdr.rsvId slot3 _ other = _
    by_cases same : other = slot3
    · rw [same, update_self, if_pos rfl, id]
    · rw [update_of_ne same, if_neg same, Nat.add_zero]
      exact passed.rsvId other
  · have before : SdrEvent.init ∈ past := by
      rcases List.mem_append.mp listed with early | last
      · exact early
      · exact absurd (List.mem_singleton.mp last) (by simp)
    have stores := passed.stores before
    have same : recordsLoaded platform (past ++ [.reserve slot3]) =
        recordsLoaded platform past := by
      unfold recordsLoaded
      rw [if_pos listed, if_pos before]
    rw [same]
    exact ⟨stores.length, stores.stored, stores.last, stores.few⟩

theorem passed_start (platform : SdrPlatform) : Passed platform [] .start :=
  ⟨fun _ => rfl, fun _ => rfl, fun listed => absurd listed (by simp)⟩

/-- Every event keeps the repository in step with what was loaded. -/
theorem Passed.step {event : SdrEvent} (passed : Passed platform past sdr)
    (moved : step platform sdr event = some next) : Passed platform (past ++ [event]) next := by
  cases event with
  | init => exact passed.init moved
  | reserve slot3 =>
    cases moved
    exact passed.reserve slot3

theorem Passed.mem_dropLast_iff (passed : Passed platform past sdr) (slot3 : Bool) (id : UInt16) :
    id ∈ (sdr.given slot3).dropLast ↔
      ∃ earlier, earlier + 1 < past.count (.reserve slot3) ∧ UInt16.ofNat (earlier + 1) = id := by
  rw [passed.given slot3]
  cases past.count (.reserve slot3) with
  | zero => simp
  | succ count =>
    rw [range_succ, map_append, map_singleton, dropLast_concat, List.mem_map]
    simp only [mem_range, Nat.succ_lt_succ_iff]

theorem Passed.stale (passed : Passed platform past sdr)
    (few : past.count (.reserve slot3) ≤ 2 ^ 16) {id : UInt16}
    (old : id ∈ (sdr.given slot3).dropLast) {msg : HandlerMsg} (six : msg.dataLen = 6)
    (asked : UInt16.ofNat (msg.word 0) = id) :
    storageGetSdr sdr slot3 msg = some (msg.complete .invalidReservation) := by
  obtain ⟨earlier, before, rfl⟩ := (passed.mem_dropLast_iff slot3 id).mp old
  have apart : sdr.rsvIdCheck (UInt16.ofNat (msg.word 0)) slot3 = false := by
    unfold SdrRepository.rsvIdCheck
    rw [asked, passed.rsvId slot3]
    refine beq_eq_false_iff_ne.mpr fun same => ?_
    have ids := congrArg UInt16.toNat same
    rw [UInt16.toNat_ofNat', UInt16.toNat_ofNat'] at ids
    omega
  unfold storageGetSdr
  rw [if_neg (fun wrong => wrong six), apart, Bool.not_false, if_pos rfl]

theorem Passed.again (passed : Passed platform past sdr)
    (many : 2 ^ 16 < past.count (.reserve slot3)) :
    sdr.rsvId slot3 ∈ (sdr.given slot3).dropLast := by
  refine (passed.mem_dropLast_iff slot3 _).mpr
    ⟨past.count (.reserve slot3) - 2 ^ 16 - 1, by omega, ?_⟩
  rw [passed.rsvId slot3, ← UInt16.toNat_inj, UInt16.toNat_ofNat', UInt16.toNat_ofNat']
  omega

/-- A run stops at a table that cannot be loaded only. -/
theorem run_isSome (platform : SdrPlatform) (events : List SdrEvent)
    (able : SdrEvent.init ∈ events → ∃ loaded, loadSdrTable platform = some loaded ∧ loaded ≠ [] ∧
      ∀ record ∈ loaded, ∃ name, strlen record.idStr = some name) (sdr : SdrRepository) :
    ∃ final, run (step platform) sdr events = some final := by
  induction events generalizing sdr with
  | nil => exact ⟨sdr, rfl⟩
  | cons event rest ih =>
    have later := ih fun listed => able (mem_cons_of_mem _ listed)
    have moves : ∃ next, step platform sdr event = some next := by
      cases event with
      | init =>
        obtain ⟨loaded, fits, some, named⟩ := able mem_cons_self
        exact sdrInit_isSome fits some named sdr
      | reserve slot3 => exact ⟨_, rfl⟩
    obtain ⟨next, moved⟩ := moves
    obtain ⟨final, ran⟩ := later next
    exact ⟨final, run_cons_eq_some.mpr ⟨next, moved, ran⟩⟩

end Runs

/-- For every platform and every sequence of initialisations and reservations, the records that are
loaded are visited once each and can be read in parts, and a reservation that is not the last one is
refused, exactly if there is a record, each one has a name that ends and fits with it, and not more
reservations were given to one side than there are ids. -/
theorem repositoryRight_iff (platform : SdrPlatform) (events : List SdrEvent) :
    (∃ sdr, run (step platform) .start events = some sdr ∧
        RepositoryRight (recordsLoaded platform events) sdr) ↔
      recordsLoaded platform events ≠ [] ∧
        (∀ record ∈ recordsLoaded platform events, Fits record) ∧
        ∀ slot3, events.count (.reserve slot3) ≤ 2 ^ 16 := by
  constructor
  · rintro ⟨sdr, ran, right⟩
    have passed := history_invariant Passed.step (passed_start platform) ran
    have listed : SdrEvent.init ∈ events := by
      by_contra never
      have visited := right.visits false fun _ => 0
      unfold recordsLoaded at visited
      rw [if_neg never] at visited
      cases visited
    have stores := passed.stores listed
    have last := stores.last
    have within : 0 < (recordsLoaded platform events).length := by omega
    refine ⟨ne_nil_of_length_pos within, fun record loaded => ?_, fun slot3 => ?_⟩
    · obtain ⟨index, found⟩ := getElem?_of_mem loaded
      obtain ⟨stored, reads⟩ := right.reads index record found
      exact reads.fits
    · by_contra many
      obtain ⟨name, -, here⟩ := stores.stored 0 _ (getElem?_eq_getElem within)
      obtain ⟨answer, got, success, -⟩ := @Stores.get_inside _ _ _ _ 0 0 stores within here slot3
        (fun _ => 0) (Nat.zero_le _) (Nat.zero_le _)
      have refused := right.stale slot3 _ (passed.again (Nat.lt_of_not_le many))
        (request (fun _ => 0) (sdr.rsvId slot3) 0 0 0) rfl rsvId_request
      cases got.symm.trans refused
      exact CompletionCode.noConfusion success
  · rintro ⟨some, fits, few⟩
    have listed : SdrEvent.init ∈ events := by
      by_contra never
      exact some (if_neg never)
    have loads : recordsLoaded platform events = (loadSdrTable platform).getD [] := if_pos listed
    obtain ⟨loaded, load⟩ : ∃ loaded, loadSdrTable platform = .some loaded := by
      cases load : loadSdrTable platform with
      | none =>
        rw [loads, load] at some
        exact absurd rfl some
      | some loaded => exact ⟨loaded, rfl⟩
    have same : recordsLoaded platform events = loaded := by
      rw [loads, load]
      rfl
    obtain ⟨sdr, ran⟩ := run_isSome platform events (fun _ => ⟨loaded, load, by rw [← same]; exact
      some, fun record found => by
        obtain ⟨name, ends, -⟩ := fits record (by rw [same]; exact found)
        exact ⟨name, ends⟩⟩) .start
    have passed := history_invariant Passed.step (passed_start platform) ran
    have stores := passed.stores listed
    refine ⟨sdr, ran, ?_, ?_, ?_⟩
    · intro slot3 base
      rw [stores.walk slot3 base _ 0 (List.length_pos_iff.mpr some) (Nat.zero_add _),
        range_eq_range']
    · intro index record found
      exact stores.readsRight found (fits record (mem_of_getElem? found))
    · intro slot3 id old msg six asked
      exact passed.stale (few slot3) old six asked

/-- A platform with a table for one record, of which none is loaded. -/
def noRecords : SdrPlatform := ⟨[], [], 1⟩

/-- There is no last record when the repository is initialised. -/
theorem noRecords_not_right :
    ¬ ∃ sdr, run (step noRecords) .start [.init] = some sdr ∧
      RepositoryRight (recordsLoaded noRecords [.init]) sdr := by
  rintro ⟨sdr, ran, -⟩
  cases ran

end OpenBic.Sdr
