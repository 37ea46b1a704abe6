import OpenBic.Library.Checked
import OpenBic.Pldm.Command

/-!
# The PDR repository

`pdr_init` and `get_pdr_table_via_record_handle` of `pdr.c`, and `pldm_get_pdr_info` and
`pldm_get_pdr` of `pldm_monitor.c`. The records of a platform are in four tables, one for each
kind, and their handles go on from one table to the next.

`pdr_init` adds up `repository_size` through `pdr_info` before anything is allocated for it. The
pointer is null then, and the structure it points to afterwards never gets the sum.
-/

namespace OpenBic.Pldm.Pdr

open List Library.Checked Library.Field Library.Number OpenBic.Pldm.Command
open OpenBic.Pldm.Receive (hdrLen)
open OpenBic.Pldm.SensorEvent (pldmSuccess)

/-- The kinds of records that a platform may have, in the order of their handles. -/
inductive Kind where
  | stateSensor
  | numericSensor
  | sensorAuxiliaryNames
  | entityAuxiliaryNames
deriving DecidableEq

def Kind.all : List Kind :=
  [.stateSensor, .numericSensor, .sensorAuxiliaryNames, .entityAuxiliaryNames]

/-- `sizeof(PDR_common_header)`. -/
def commonHeaderSize : Nat := 10

/-- What a build and a platform make of the records. -/
structure PdrBuild extends Build where
  maxAuxSensorNameLen : Nat
  numericPdrSize : Nat
  /-- `struct pldm_get_pdr_resp` fits the response buffer. -/
  room : hdrLen + 12 + numericPdrSize ≤ maxDataSize
  entityAuxNamesSize : UInt16

/-- The size of the structure of a kind. That of `PDR_entity_auxiliary_names` ends where the name
begins. -/
def PdrBuild.structSize (build : PdrBuild) : Kind → Nat
  | .stateSensor => 27
  | .numericSensor => 105
  | .sensorAuxiliaryNames => 19 + 2 * build.maxAuxSensorNameLen
  | .entityAuxiliaryNames => 21

def PdrBuild.recordSize (build : PdrBuild) : Kind → Nat
  | .entityAuxiliaryNames => build.entityAuxNamesSize.toNat
  | kind => build.structSize kind

def Kind.nameAt : Kind → Option Nat
  | .stateSensor => none
  | .numericSensor => none
  | .sensorAuxiliaryNames => some 19
  | .entityAuxiliaryNames => some 21

/-- The two bytes of a `char16_t` are zero before the data ends. -/
def Ends : List UInt8 → Prop
  | first :: second :: rest => (first = 0 ∧ second = 0) ∨ Ends rest
  | _ => False

/-- A record of a platform. -/
structure Record (size : Nat) (nameAt : Option Nat) where
  bytes : List UInt8
  sized : bytes.length = size
  headed : commonHeaderSize ≤ size
  ended : ∀ place ∈ nameAt, Ends (bytes.drop place)

/-- The records of a platform, which `pdr_info` can count. -/
structure Platform extends PdrBuild where
  /-- The records of each kind, as `plat_load_state_sensor_pdr_table` and its like copy them. -/
  records : (kind : Kind) → List (Record (toPdrBuild.recordSize kind) kind.nameAt)
  fits : (Kind.all.map fun kind => (records kind).length * toPdrBuild.recordSize kind).sum < 2 ^ 32

/-- `plat_get_pdr_size`. -/
def Platform.count (platform : Platform) (kind : Kind) : Nat := (platform.records kind).length

def Platform.tableSize (platform : Platform) (kind : Kind) : Nat :=
  platform.count kind * platform.recordSize kind

/-- The table of a kind. -/
abbrev Platform.Table (platform : Platform) (kind : Kind) : Type := Buffer (platform.tableSize kind)

def Platform.loadedBytes (platform : Platform) (kind : Kind) : List UInt8 :=
  ((platform.records kind).map Record.bytes).flatten

theorem length_flatten_records {size : Nat} {nameAt : Option Nat}
    (records : List (Record size nameAt)) :
    ((records.map Record.bytes).flatten).length = records.length * size := by
  induction records with
  | nil => simp
  | cons record rest ih =>
    rw [map_cons, flatten_cons, length_append, ih, record.sized, length_cons,
      Nat.succ_mul, Nat.add_comm]

def Platform.loaded (platform : Platform) (kind : Kind) : platform.Table kind :=
  ⟨platform.loadedBytes kind, length_flatten_records _⟩

/-- The heap and the memory at address zero, as `pdr_init` finds them. -/
structure Memory where
  table : Kind → Bool
  /-- What the allocation of a `PDR_INFO` has for its `repository_size`, unless it fails. -/
  info : Option UInt32
  zeroPage : Bool

/-- `PDR_INFO`, as far as `pdr_init` sets it and GetPDRRepositoryInfo tells it. -/
structure PdrInfo where
  recordCount : Nat
  repositorySize : UInt32
  largestRecordSize : Nat

/-- The tables, the number of records and `pdr_info`, unless it is null. -/
structure Repository (platform : Platform) where
  tables : (kind : Kind) → Option (platform.Table kind)
  totalRecordCount : Nat
  pdrInfo : Option PdrInfo

/-! ## Initialising -/

/-- `sys_cpu_to_be16` for each `char16_t` up to one that is zero. -/
def toBe16 : List UInt8 → Option (List UInt8)
  | first :: second :: rest =>
    if first = 0 ∧ second = 0 then some (first :: second :: rest)
    else (toBe16 rest).map fun rest => second :: first :: rest
  | _ => none

variable {size : Nat}

/-- The conversion of the name of a record. It ends where the memory has a zero. -/
def convertName (table : Buffer size) (place : Nat) : Option (Buffer size) := do
  let behind ← table.read place (size - place)
  let behind ← toBe16 behind
  table.write place behind

def initRecord (recordSize : Nat) (nameAt : Option Nat) (table : Buffer size)
    (place recordHandle : Nat) : Option (Buffer size) := do
  let table ← table.write place (digits recordHandle 4)
  let dataLength ← fieldAt table.bytes (place + 8) 2
  let table ← table.write (place + 8) (digits (dataLength + (recordSize - commonHeaderSize)) 2)
  match nameAt with
  | none => some table
  | some offset => convertName table (place + offset)

def initRecords (platform : Platform) (kind : Kind) (recordHandle : Nat) :
    Nat → platform.Table kind → Option (platform.Table kind)
  | 0, table => some table
  | index + 1, table => do
    let table ← initRecords platform kind recordHandle index table
    initRecord (platform.recordSize kind) kind.nameAt table (index * platform.structSize kind)
      (recordHandle + index)

/-- Why `pdr_init` does not come to its end. -/
inductive Stop where
  | fault
  | failed

/-- `pdr_init` on its way. -/
structure Progress (platform : Platform) where
  tables : (kind : Kind) → Option (platform.Table kind)
  totalRecordCount : Nat
  recordHandle : Nat
  largestRecordSize : Nat

/-- `pdr_init` at its beginning. -/
def Progress.start (platform : Platform) : Progress platform where
  tables _ := none
  totalRecordCount := 0
  recordHandle := 0
  largestRecordSize := 0

/-- What `pdr_init` does for the records of a kind. -/
def initTable (platform : Platform) (memory : Memory) (progress : Progress platform) (kind : Kind) :
    Except Stop (Progress platform) :=
  if platform.count kind = 0 then .ok progress
  else if memory.table kind = false then
    -- the table is loaded before its pointer is looked at
    .error (if memory.zeroPage then .failed else .fault)
  -- `pdr_info->repository_size` is added to while `pdr_info` is null
  else if memory.zeroPage = false then .error .fault
  else
    match initRecords platform kind progress.recordHandle (platform.count kind)
      (platform.loaded kind) with
    | none => .error .fault
    | some table => .ok {
        tables := Function.update progress.tables kind (some table)
        totalRecordCount := progress.totalRecordCount + platform.count kind
        recordHandle := progress.recordHandle + platform.count kind
        largestRecordSize := max progress.largestRecordSize (platform.structSize kind) }

/-- `pdr_init`. Without memory for `pdr_info` it returns `false`, which is the 0 of success. -/
def pdrInit (platform : Platform) (memory : Memory) : Except Stop (Repository platform) := do
  let progress ← Kind.all.foldlM (initTable platform memory) (Progress.start platform)
  .ok {
    tables := progress.tables
    totalRecordCount := progress.totalRecordCount
    pdrInfo := memory.info.map fun repositorySize => {
      recordCount := progress.totalRecordCount
      repositorySize := repositorySize
      largestRecordSize := progress.largestRecordSize } }

/-! ## Serving -/

variable {platform : Platform}

def Platform.kindOf (platform : Platform) (recordHandle : Nat) : Option Kind :=
  if recordHandle < platform.count .stateSensor then some .stateSensor
  else if recordHandle < platform.count .numericSensor + platform.count .stateSensor then
    some .numericSensor
  else if recordHandle < platform.count .numericSensor + platform.count .sensorAuxiliaryNames +
      platform.count .stateSensor then
    some .sensorAuxiliaryNames
  else if recordHandle < platform.count .numericSensor + platform.count .sensorAuxiliaryNames +
      platform.count .entityAuxiliaryNames + platform.count .stateSensor then
    some .entityAuxiliaryNames
  else none

/-- The place of the first of the records with the handle, if any has it. -/
def search (table : Buffer size) (structSize recordHandle : Nat) :
    List Nat → Option (Option Nat)
  | [] => some none
  | index :: rest => do
    let field ← fieldAt table.bytes (index * structSize) 4
    if field = recordHandle then some (some (index * structSize))
    else search table structSize recordHandle rest

/-- The record that `get_pdr_table_via_record_handle` comes upon, if any: its kind and its place in
the table. -/
def Repository.find (repository : Repository platform) (recordHandle : Nat) :
    Option (Option (Kind × Nat)) :=
  match platform.kindOf recordHandle with
  | none => some none
  | some kind => do
    let table ← repository.tables kind
    let place ← search table (platform.structSize kind) recordHandle
      (List.range (platform.count kind))
    some (place.map fun place => (kind, place))

/-- `get_pdr_table_via_record_handle`: the record is copied to a place, and its size is returned,
or nothing for -1. -/
def getPdrTableViaRecordHandle (repository : Repository platform) (respBuf : Buffer size)
    (recordData recordHandle : Nat) : Option (Buffer size × Option Nat) := do
  match ← repository.find recordHandle with
  | none => some (respBuf, none)
  | some (kind, place) =>
    let table ← repository.tables kind
    let bytes ← table.read place (platform.recordSize kind)
    let respBuf ← respBuf.write recordData bytes
    some (respBuf, some (platform.recordSize kind))

def transferFlagStartAndEnd : UInt8 := 0x05

def Repository.nextOf (repository : Repository platform) (recordHandle : Nat) : Nat :=
  if repository.totalRecordCount ≤ recordHandle + 1 then 0 else recordHandle + 1

/-- `pldm_get_pdr`. When it returns an error, `resp_len` is still 1. -/
def pldmGetPdr (repository : Repository platform) (respBuf : Buffer size) (recordHandle : Nat) :
    Option (Response size) := do
  let (respBuf, responseCount) ←
    getPdrTableViaRecordHandle repository respBuf (hdrLen + 12) recordHandle
  match responseCount with
  | none => some ⟨respBuf, 1⟩
  | some 0 => some ⟨respBuf, 1⟩
  | some responseCount =>
    let respBuf ← respBuf.write (hdrLen + 1) (digits (repository.nextOf recordHandle) 4)
    let respBuf ← respBuf.write (hdrLen + 9) [transferFlagStartAndEnd]
    let respBuf ← respBuf.write (hdrLen + 10) (digits responseCount 2)
    complete respBuf pldmSuccess (12 + platform.numericPdrSize)

def pdrStateAvailable : UInt8 := 0x00

/-- `pldm_get_pdr_info`. When it returns an error, `resp_len` is still 1. -/
def pldmGetPdrInfo (repository : Repository platform) (respBuf : Buffer size) :
    Option (Response size) :=
  match repository.pdrInfo with
  | none => some ⟨respBuf, 1⟩
  | some pdrInfo => do
    let respBuf ← respBuf.write (hdrLen + 1) [pdrStateAvailable]
    let respBuf ← respBuf.write (hdrLen + 28) (digits pdrInfo.recordCount 4)
    let respBuf ← respBuf.write (hdrLen + 32) (digits pdrInfo.repositorySize.toNat 4)
    let respBuf ← respBuf.write (hdrLen + 36) (digits pdrInfo.largestRecordSize 4)
    complete respBuf pldmSuccess 41

/-! ## What the loop leaves -/

theorem toBe16_append {data : List UInt8} (ended : Ends data) (behind : List UInt8) :
    ∃ after, after.length = data.length ∧ toBe16 (data ++ behind) = some (after ++ behind) := by
  induction data using Ends.induct with
  | case1 first second rest ih =>
    by_cases zero : first = 0 ∧ second = 0
    · refine ⟨first :: second :: rest, rfl, ?_⟩
      rw [cons_append, cons_append, toBe16, if_pos zero]
    · have later := ended.resolve_left zero
      obtain ⟨after, sized, ran⟩ := ih later
      refine ⟨second :: first :: after, by rw [length_cons, length_cons, sized]; rfl, ?_⟩
      rw [cons_append, cons_append, toBe16, if_neg zero, ran, Option.map_some,
        cons_append, cons_append]
  | case2 data short =>
    unfold Ends at ended
    split at ended
    · exact absurd rfl (short _ _ _)
    · exact ended.elim

variable {table after : Buffer size} {place recordHandle recordSize : Nat} {nameAt : Option Nat}

theorem keptBefore_convertName (ran : convertName table place = some after) :
    table.KeptBefore place after := by
  obtain ⟨behind, -, ran⟩ := Option.bind_eq_some_iff.mp ran
  obtain ⟨converted, -, wrote⟩ := Option.bind_eq_some_iff.mp ran
  exact Buffer.keptBefore_write wrote

theorem initRecord_keeps (late : ∀ offset ∈ nameAt, commonHeaderSize ≤ offset)
    (ran : initRecord recordSize nameAt table place recordHandle = some after) :
    table.KeptBefore place after ∧ after.Holds place (digits recordHandle 4) := by
  obtain ⟨headed, wrote, ran⟩ := Option.bind_eq_some_iff.mp ran
  obtain ⟨dataLength, -, ran⟩ := Option.bind_eq_some_iff.mp ran
  obtain ⟨sized, again, ran⟩ := Option.bind_eq_some_iff.mp ran
  have first := Buffer.keptBefore_write wrote
  have second := Buffer.keptBefore_write again
  have handle := second place _ (by rw [length_digits]; omega) (Buffer.holds_write wrote)
  have kept := first.trans (second.earlier (Nat.le_add_right place 8))
  cases named : nameAt with
  | none =>
    rw [named] at ran
    obtain rfl : sized = after := Option.some.inj ran
    exact ⟨kept, handle⟩
  | some offset =>
    rw [named] at ran
    have behind := late offset named
    have ten : commonHeaderSize = 10 := rfl
    have third := keptBefore_convertName ran
    refine ⟨kept.trans (third.earlier (Nat.le_add_right place offset)), ?_⟩
    exact third place _ (by rw [length_digits]; omega) handle

theorem Kind.nameAt_behind (kind : Kind) : ∀ offset ∈ kind.nameAt, commonHeaderSize ≤ offset := by
  cases kind with
  | stateSensor => exact nofun
  | numericSensor => exact nofun
  | sensorAuxiliaryNames => exact fun offset at19 => by obtain rfl := Option.some.inj at19; decide
  | entityAuxiliaryNames => exact fun offset at21 => by obtain rfl := Option.some.inj at21; decide

theorem PdrBuild.structSize_ge (build : PdrBuild) (kind : Kind) : 4 ≤ build.structSize kind := by
  cases kind with
  | stateSensor => exact (by decide : 4 ≤ 27)
  | numericSensor => exact (by decide : 4 ≤ 105)
  | sensorAuxiliaryNames => exact Nat.le_trans (by decide : 4 ≤ 19) (Nat.le_add_right _ _)
  | entityAuxiliaryNames => exact (by decide : 4 ≤ 21)

variable {kind : Kind}

theorem initRecords_handles {first count : Nat} {table after : platform.Table kind}
    (ran : initRecords platform kind first count table = some after) :
    ∀ index < count,
      after.Holds (index * platform.structSize kind) (digits (first + index) 4) := by
  induction count generalizing after with
  | zero => exact fun index none => absurd none (Nat.not_lt_zero index)
  | succ count ih =>
    obtain ⟨earlier, began, last⟩ := Option.bind_eq_some_iff.mp ran
    obtain ⟨kept, handle⟩ := initRecord_keeps kind.nameAt_behind last
    intro index inside
    rcases Nat.lt_or_eq_of_le (Nat.le_of_lt_succ inside) with before | rfl
    · have wide := platform.structSize_ge kind
      have apart := Nat.mul_le_mul_right (platform.structSize kind) (Nat.succ_le_of_lt before)
      rw [Nat.succ_mul] at apart
      exact kept _ _ (by rw [length_digits]; omega) (ih began index before)
    · exact handle

/-! ## The loop does not fault -/

/-- The bytes from a place on: those of a record and what is behind it. -/
def Begins (table : Buffer size) (place : Nat) (record behind : List UInt8) : Prop :=
  place ≤ size ∧ table.bytes.drop place = record ++ behind

theorem Begins.inside {record behind : List UInt8} (begins : Begins table place record behind) :
    place + record.length + behind.length = size := by
  have whole := congrArg List.length begins.2
  have sized := table.sized
  have inside := begins.1
  rw [length_drop, length_append] at whole
  omega

theorem convertName_string {name behind : List UInt8} (begins : Begins table place name behind)
    (ended : Ends name) :
    ∃ after, convertName table place = some after ∧
      after.bytes.drop (place + name.length) = behind := by
  have inside := begins.inside
  have sized := table.sized
  obtain ⟨converted, same, ran⟩ := toBe16_append ended behind
  have read : table.read place (size - place) = some (name ++ behind) := by
    rw [Buffer.read_eq (by omega), begins.2]
    congr 1
    apply take_of_length_le
    rw [length_append]
    omega
  obtain ⟨after, wrote, spliced⟩ := table.write_eq (converted ++ behind)
    (show place + _ ≤ size by rw [length_append]; omega)
  refine ⟨after, Option.bind_eq_some_iff.mpr ⟨_, read,
    Option.bind_eq_some_iff.mpr ⟨_, ran, wrote⟩⟩, ?_⟩
  have front : (table.bytes.take place ++ converted).length = place + name.length := by
    rw [length_append, length_take]
    omega
  have rest : table.bytes.drop (place + (converted ++ behind).length) = [] := by
    apply drop_of_length_le
    rw [length_append]
    omega
  rw [spliced, splice, rest, append_nil, ← append_assoc, ← front, drop_left]

theorem Ends.length_pos {data : List UInt8} (ended : Ends data) : 0 < data.length := by
  cases data with
  | nil => exact ended.elim
  | cons first rest => exact Nat.succ_pos _

/-- A turn of the loop for a record that is there leaves what is behind it. -/
theorem initRecord_loaded (record : Record recordSize nameAt) {behind : List UInt8}
    (late : ∀ offset ∈ nameAt, commonHeaderSize ≤ offset)
    (begins : Begins table place record.bytes behind) (recordHandle : Nat) :
    ∃ after, initRecord recordSize nameAt table place recordHandle = some after ∧
      after.bytes.drop (place + recordSize) = behind := by
  have sized := record.sized
  have headed := record.headed
  have inside := begins.inside
  have ten : commonHeaderSize = 10 := rfl
  obtain ⟨headed, wrote, -⟩ := table.write_eq (digits recordHandle 4)
    (show place + _ ≤ size by rw [length_digits]; omega)
  have length := headed.sized
  obtain ⟨dataLength, field⟩ : ∃ dataLength, fieldAt headed.bytes (place + 8) 2 = some dataLength :=
    ⟨_, fieldAt_eq (by omega)⟩
  obtain ⟨second, again, -⟩ := headed.write_eq
    (digits (dataLength + (recordSize - commonHeaderSize)) 2)
    (show place + 8 + _ ≤ size by rw [length_digits]; omega)
  have kept : ∀ skip, 10 ≤ skip →
      second.bytes.drop (place + skip) = (record.bytes ++ behind).drop skip := by
    intro skip later
    rw [Buffer.drop_of_write again (by rw [length_digits]; omega),
      Buffer.drop_of_write wrote (by rw [length_digits]; omega), ← drop_drop, begins.2]
  have onward : ∀ after, (match nameAt with
      | none => some second
      | some offset => convertName second (place + offset)) = some after →
      initRecord recordSize nameAt table place recordHandle = some after := fun after ran =>
    Option.bind_eq_some_iff.mpr ⟨_, wrote, Option.bind_eq_some_iff.mpr ⟨_, field,
      Option.bind_eq_some_iff.mpr ⟨_, again, ran⟩⟩⟩
  cases named : nameAt with
  | none =>
    subst named
    refine ⟨second, onward second rfl, ?_⟩
    rw [kept recordSize (by omega), drop_left' sized]
  | some offset =>
    subst named
    have behindHeader := late offset rfl
    have ended := record.ended offset rfl
    have nonempty := ended.length_pos
    rw [length_drop] at nonempty
    have name : Begins second (place + offset) (record.bytes.drop offset) behind := by
      refine ⟨by omega, ?_⟩
      rw [kept offset (by omega), drop_append_of_le_length (by omega)]
    obtain ⟨after, ran, rest⟩ := convertName_string name ended
    refine ⟨after, onward after ran, ?_⟩
    rw [length_drop, show place + offset + (record.bytes.length - offset) = place + recordSize
      by omega] at rest
    exact rest

theorem initRecords_loaded (first : Nat)
    (placed : ∀ index < platform.count kind,
      index * platform.structSize kind = index * platform.recordSize kind) :
    ∀ count ≤ platform.count kind, ∃ after,
      initRecords platform kind first count (platform.loaded kind) = some after ∧
        after.bytes.drop (count * platform.recordSize kind) =
          (((platform.records kind).drop count).map Record.bytes).flatten := by
  intro count
  induction count with
  | zero =>
    intro _
    refine ⟨platform.loaded kind, rfl, ?_⟩
    rw [Nat.zero_mul, drop_zero, drop_zero]
    rfl
  | succ count ih =>
    intro inside
    obtain ⟨table, ran, behind⟩ := ih (Nat.le_of_succ_le inside)
    have step := drop_eq_getElem_cons (l := platform.records kind) inside
    have begins : Begins table (count * platform.structSize kind)
        (platform.records kind)[count].bytes
        (((platform.records kind).drop (count + 1)).map Record.bytes).flatten := by
      rw [placed count inside]
      refine ⟨Nat.mul_le_mul_right _ (Nat.le_of_succ_le inside), ?_⟩
      rw [behind, step, map_cons, flatten_cons]
    obtain ⟨after, last, rest⟩ := initRecord_loaded _ kind.nameAt_behind begins (first + count)
    refine ⟨after, Option.bind_eq_some_iff.mpr ⟨table, ran, last⟩, ?_⟩
    rw [Nat.succ_mul, ← placed count inside, rest]

end OpenBic.Pldm.Pdr
