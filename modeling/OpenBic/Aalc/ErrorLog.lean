import OpenBic.Library.Ring
import Mathlib.Data.List.Range

/-!
# The error log of the AALC RPU

`plat_log.c` of the platform. The log is a ring of records with consecutive indices in memory, and a
copy of it in the EEPROM. The newest record is found by the first break of the indices.
-/

namespace OpenBic.Aalc.ErrorLog

open Function Library.Ring

/-! ## The code -/

def logMaxIndex : Nat := 0x0FFF

def logMaxNum : Nat := 30

def aalcFruLogStart : Nat := 0x4000

structure ModbusErrLogMapping where
  index : UInt16
  errCode : UInt16
  sysTime : UInt32
  pumpDuty : UInt16
  fanDuty : UInt16
  outletTemp : UInt16
  outletPress : UInt16
  flowRate : UInt16
  volt : UInt16
  reserved : Vector UInt8 12

/-- `sizeof(modbus_err_log_mapping)`. -/
def mappingSize : Nat := 32

def blank : ModbusErrLogMapping :=
  ⟨0xFFFF, 0xFFFF, 0xFFFFFFFF, 0xFFFF, 0xFFFF, 0xFFFF, 0xFFFF, 0xFFFF, 0xFFFF,
    Vector.replicate 12 0xFF⟩

def ModbusErrLogMapping.reservedWord (record : ModbusErrLogMapping) (word : Fin 6) : UInt16 :=
  (record.reserved[2 * word.val]).toUInt16 + (record.reserved[2 * word.val + 1]).toUInt16 * 256

/-- The sixteen registers that a record is in memory, with its low halves first. -/
def ModbusErrLogMapping.registers (record : ModbusErrLogMapping) : List UInt16 :=
  [record.index, record.errCode, record.sysTime.toUInt16, (record.sysTime >>> 16).toUInt16,
    record.pumpDuty, record.fanDuty, record.outletTemp, record.outletPress, record.flowRate,
    record.volt] ++ List.ofFn record.reservedWord

structure ErrSensorMapping where
  errCode : UInt16
  senNum : UInt8

def sensorErrCodes : List ErrSensorMapping := [
  -- the leaks and the level of the water
  ⟨0x0A, 0xD0⟩, ⟨0x0B, 0xD1⟩, ⟨0x0C, 0xD2⟩, ⟨0x0D, 0xD3⟩, ⟨0x0E, 0xA2⟩, ⟨0x6E, 0xA3⟩, ⟨0x02, 0x66⟩,
  -- the pumps
  ⟨0x1F, 0x5A⟩, ⟨0x20, 0x5D⟩, ⟨0x21, 0x60⟩,
  -- pressures, the flow rate, the button, the filter and temperatures
  ⟨0xA0, 0x68⟩, ⟨0xA1, 0x6D⟩, ⟨0xA2, 0xE0⟩, ⟨0xA3, 0xC4⟩, ⟨0xA4, 0x67⟩, ⟨0xA5, 0x69⟩, ⟨0xA6, 0x6A⟩,
  ⟨0xA7, 0x6B⟩, ⟨0xA8, 0x6C⟩, ⟨0xA9, 0x81⟩, ⟨0xAA, 0x82⟩, ⟨0xAB, 0x83⟩, ⟨0xAC, 0xC6⟩,
  -- the fans
  ⟨0xAD, 0x4C⟩, ⟨0xAE, 0x4D⟩, ⟨0xAF, 0x4E⟩, ⟨0xB0, 0x4F⟩, ⟨0xB1, 0x50⟩, ⟨0xB2, 0x51⟩, ⟨0xB3, 0x52⟩,
  ⟨0xB4, 0x53⟩, ⟨0xB5, 0x54⟩, ⟨0xB6, 0x55⟩, ⟨0xB7, 0x56⟩, ⟨0xB8, 0x57⟩, ⟨0xB9, 0x58⟩, ⟨0xBA, 0x59⟩,
  -- the hot swap controller and the inlet of the air
  ⟨0xBB, 0xE1⟩, ⟨0xBC, 0x84⟩,
  -- pumps that are too slow or are not answered by, and the days of a low level
  ⟨0xBD, 0xE2⟩, ⟨0xBE, 0xE3⟩, ⟨0xBF, 0xE4⟩, ⟨0xC0, 0xE5⟩, ⟨0xC1, 0xE6⟩, ⟨0xC2, 0xE7⟩, ⟨0xC3, 0xE8⟩,
  ⟨0xC4, 0xE9⟩, ⟨0xC5, 0xEA⟩]

def sensorNormalCodes : List ErrSensorMapping := [⟨0x29, 0x5A⟩, ⟨0x2A, 0x5D⟩, ⟨0x2B, 0x60⟩]

/-- What `error_log_event` is called with, and what it reads of the platform. -/
structure Event where
  sensorNum : UInt8
  valNormal : Bool
  /-- `k_uptime_get`, in milliseconds. -/
  uptime : Nat
  manualPump : Bool × UInt8
  groupPump : UInt8
  manualFan : Bool × UInt8
  groupFan : UInt8
  outletTemp : UInt16
  outletPress : UInt16
  flowRate : UInt16
  volt : UInt16

/-- The code that an event is logged with, zero where there is none. -/
def Event.errCode (event : Event) : UInt16 :=
  let codes := if event.valNormal then sensorNormalCodes else sensorErrCodes
  (codes.find? fun mapping => event.sensorNum == mapping.senNum).elim 0 (·.errCode)

/-- `get_uptime_secs`, of the uptime in milliseconds. -/
def getUptimeSecs (uptime : Nat) : UInt32 := UInt32.ofNat (uptime / 1000 % (2 ^ 31 - 1))

/-- `err_log_data` and what the EEPROM has, in records by their address: the log reads and writes it
by whole records only. -/
structure Log where
  errLogData : Nat → ModbusErrLogMapping
  eeprom : Nat → ModbusErrLogMapping

def address (slot : Nat) : Nat := aalcFruLogStart + slot * mappingSize

/-- `error_log_count`: the records before the first empty one. -/
def Log.errorLogCount (log : Log) : Nat :=
  ((List.range logMaxNum).find? fun i => (log.errLogData i).index == 0xFFFF).getD logMaxNum

/-- A record goes on where another one ends: in its index or with the first index. -/
def continues (index next : UInt16) : Bool :=
  next.toNat == index.toNat + 1 || (next == 1 && index.toNat == logMaxIndex)

/-- The loop of `get_log_position_by_time_order`: where the indices break at first. -/
def Log.lastInRow (log : Log) : Nat :=
  ((List.range (logMaxNum - 1)).find? fun i =>
    !continues (log.errLogData i).index (log.errLogData (i + 1)).index).getD (logMaxNum - 1)

/-- `get_log_position_by_time_order`. The sum is not below zero for the order zero either. -/
def Log.getLogPositionByTimeOrder (log : Log) (order : UInt8) : Nat :=
  if logMaxNum < order.toNat then 0
  else (log.lastInRow + logMaxNum + 1 - order.toNat) % logMaxNum

/-- So many registers from a slot on. Nothing is known of what is behind the array. -/
def Log.copy (log : Log) (slot cmdSize : Nat) : Option (List UInt16) :=
  let there := (List.range (logMaxNum - slot)).flatMap fun i => (log.errLogData (slot + i)).registers
  if cmdSize ≤ there.length then some (there.take cmdSize) else none

def Log.logTransferToModbusData (log : Log) (cmdSize : UInt8) (order : UInt16) :
    Option (List UInt16) :=
  (log.copy (log.getLogPositionByTimeOrder order.toUInt8) cmdSize.toNat).map fun copied =>
    if copied.head? = some 0xFFFF then List.replicate cmdSize.toNat 0 else copied

/-- `modbus_clear_log`, with the writes that succeed. -/
def Log.modbusClearLog (log : Log) (writes : Nat → Bool) : Log where
  errLogData := fun _ => blank
  eeprom := (List.range logMaxNum).foldl (fun eeprom i =>
    if writes i then update eeprom (address i) blank else eeprom) log.eeprom

def Event.record (event : Event) (index : UInt16) (before : ModbusErrLogMapping) :
    ModbusErrLogMapping :=
  { before with
    index := index
    errCode := event.errCode
    sysTime := getUptimeSecs event.uptime
    pumpDuty := (if event.manualPump.1 then event.manualPump.2 else event.groupPump).toUInt16
    fanDuty := (if event.manualFan.1 then event.manualFan.2 else event.groupFan).toUInt16
    outletTemp := event.outletTemp
    outletPress := event.outletPress
    flowRate := event.flowRate
    volt := event.volt }

def Log.fruCount (log : Log) : Nat :=
  let newestCount := log.getLogPositionByTimeOrder 1
  if (log.errLogData newestCount).index = 0xFFFF then newestCount
  else (newestCount + 1) % logMaxNum

def Log.nextIndex (log : Log) : UInt16 :=
  let newest := (log.errLogData (log.getLogPositionByTimeOrder 1)).index
  if newest.toNat = logMaxIndex ∨ newest = 0xFFFF then 1 else newest + 1

/-- `error_log_event`, and whether its write succeeds. -/
def Log.errorLogEvent (log : Log) (event : Event) (write : Bool) : Log :=
  if event.errCode = 0 then log
  else
    let record := event.record log.nextIndex (log.errLogData log.fruCount)
    { errLogData := update log.errLogData log.fruCount record
      eeprom :=
        if write then update log.eeprom (address log.fruCount) record else log.eeprom }

/-- `init_load_eeprom_log`, with the reads that succeed. -/
def Log.initLoadEepromLog (log : Log) (reads : Nat → Bool) : Log :=
  { log with errLogData := fun i =>
      if i < logMaxNum ∧ reads i = true then log.eeprom (address i) else blank }

/-! ## What is claimed -/

/-- What happens to the log, with the accesses to the EEPROM that succeed. -/
inductive Op where
  | event (logged : Event) (write : Bool)
  | clear (writes : Nat → Bool)
  | reload (reads : Nat → Bool)

def Op.run (log : Log) : Op → Log
  | .event logged write => log.errorLogEvent logged write
  | .clear writes => log.modbusClearLog writes
  | .reload reads => log.initLoadEepromLog reads

/-- The EEPROM takes every access of the operation. -/
def Op.Succeeds : Op → Prop
  | .event _ write => write = true
  | .clear accesses | .reload accesses => ∀ slot < logMaxNum, accesses slot = true

/-- The events that are logged since the last clear, the oldest first. -/
def Op.history (events : List Event) : Op → List Event
  | .event logged _ => if logged.errCode = 0 then events else events ++ [logged]
  | .clear _ => []
  | .reload _ => events

/-- The index of the record at a place: indices are counted up from one, and again. -/
def indexAt (place : Nat) : UInt16 := UInt16.ofNat (place % logMaxIndex + 1)

def records (events : List Event) : List ModbusErrLogMapping :=
  events.mapIdx fun place event => event.record (indexAt place) blank

/-- The log tells the latest of these events. -/
structure Tells (events : List Event) (log : Log) : Prop where
  newest : ∀ order : UInt16, 0 < order.toNat → order.toNat ≤ logMaxNum →
    ∀ cmdSize : UInt8, cmdSize.toNat ≤ 16 →
      log.logTransferToModbusData cmdSize order =
        some (match (records events).reverse[order.toNat - 1]? with
          | some record => record.registers.take cmdSize.toNat
          | none => List.replicate cmdSize.toNat 0)
  count : log.errorLogCount = min events.length logMaxNum
  replaces : ∀ event write slot,
    (log.errorLogEvent event write).errLogData slot ≠ log.errLogData slot →
      log.errLogData slot = blank ∨ logMaxNum ≤ events.length ∧
        (records events)[events.length - logMaxNum]? = some (log.errLogData slot)

/-! ## Indices -/

theorem toNat_indexAt (place : Nat) : (indexAt place).toNat = place % logMaxIndex + 1 := by
  have small : place % logMaxIndex < logMaxIndex := Nat.mod_lt _ (by decide)
  rw [indexAt, UInt16.toNat_ofNat']
  unfold logMaxIndex at small ⊢
  omega

theorem blank_index : blank.index = 0xFFFF := rfl

theorem indexAt_ne (place : Nat) : indexAt place ≠ 0xFFFF := by
  intro same
  have number := congrArg UInt16.toNat same
  have small : place % logMaxIndex < logMaxIndex := Nat.mod_lt _ (by decide)
  rw [toNat_indexAt] at number
  unfold logMaxIndex at number small
  simp only [UInt16.reduceToNat] at number
  omega

theorem continues_indexAt (place other : Nat) :
    continues (indexAt place) (indexAt other) = true ↔
      other % logMaxIndex = (place + 1) % logMaxIndex := by
  have one : indexAt other = 1 ↔ other % logMaxIndex = 0 := by
    rw [← UInt16.toNat_inj, toNat_indexAt]
    simp
  unfold continues
  rw [Bool.or_eq_true, Bool.and_eq_true, beq_iff_eq, beq_iff_eq, beq_iff_eq, one, toNat_indexAt,
    toNat_indexAt]
  unfold logMaxIndex
  omega

theorem continues_blank (index : UInt16) (small : index.toNat ≤ logMaxIndex) :
    continues index 0xFFFF = false := by
  unfold continues
  unfold logMaxIndex at small ⊢
  simp
  omega

/-! ## The invariant -/

/-- The ring has the latest records, its other slots are blank, and the EEPROM has the same. -/
structure Keeps (events : List Event) (log : Log) : Prop where
  recent : Recent logMaxNum (records events) log.errLogData
  others : ∀ slot, events.length ≤ slot → log.errLogData slot = blank
  stored : ∀ slot < logMaxNum, log.eeprom (address slot) = log.errLogData slot

variable {events : List Event} {log : Log}

theorem length_records (events : List Event) : (records events).length = events.length :=
  List.length_mapIdx

theorem getElem?_records (events : List Event) (place : Nat) :
    (records events)[place]? =
      events[place]?.map fun event => event.record (indexAt place) blank :=
  List.getElem?_mapIdx

theorem records_append (events : List Event) (event : Event) :
    records (events ++ [event]) =
      records events ++ [event.record (indexAt events.length) blank] :=
  List.mapIdx_concat

theorem Keeps.slot (keeps : Keeps events log) (place : Nat) (inside : place < events.length)
    (near : events.length ≤ place + logMaxNum) :
    log.errLogData (place % logMaxNum) =
      (events.get ⟨place, inside⟩).record (indexAt place) blank := by
  apply keeps.recent place _ _ (by rw [length_records]; exact near)
  rw [getElem?_records, List.getElem?_eq_getElem inside]
  rfl

theorem Keeps.index (keeps : Keeps events log) (place : Nat) (inside : place < events.length)
    (near : events.length ≤ place + logMaxNum) :
    (log.errLogData (place % logMaxNum)).index = indexAt place := by
  rw [keeps.slot place inside near]
  rfl

/-! ## The newest record -/

theorem scan_eq {stops : Nat → Bool} {bound stop : Nat} (within : stop ≤ bound)
    (passes : ∀ i < stop, stops i = false) (ends : stop < bound → stops stop = true) :
    ((List.range bound).find? stops).getD bound = stop := by
  rcases Nat.lt_or_eq_of_le within with inside | rfl
  · have found : (List.range bound).find? stops = some stop := by
      rw [List.find?_range_eq_some]
      exact ⟨ends inside, List.mem_range.mpr inside, fun i before => by rw [passes i before]; rfl⟩
    rw [found]
    rfl
  · have nothing : (List.range stop).find? stops = none := by
      rw [List.find?_eq_none]
      intro i there
      rw [passes i (List.mem_range.mp there)]
      exact Bool.false_ne_true
    rw [nothing]
    rfl

/-- The indices break behind the newest record, and not before. -/
theorem Keeps.lastInRow (keeps : Keeps events log) :
    log.lastInRow = (events.length - 1) % logMaxNum := by
  have slots : (events.length - 1) % logMaxNum < logMaxNum := Nat.mod_lt _ (by decide)
  have least : (events.length - 1) % logMaxNum ≤ events.length - 1 := Nat.mod_le _ _
  apply scan_eq (Nat.le_sub_one_of_lt slots)
  · intro i before
    -- the records up to the newest one are those of consecutive places
    have first : (events.length - 1 - (events.length - 1) % logMaxNum + i) % logMaxNum = i := by
      unfold logMaxNum at before ⊢
      omega
    have second : (events.length - 1 - (events.length - 1) % logMaxNum + i + 1) % logMaxNum =
        i + 1 := by
      unfold logMaxNum at before ⊢
      omega
    have here := keeps.index (events.length - 1 - (events.length - 1) % logMaxNum + i)
      (by omega) (by unfold logMaxNum; omega)
    have there := keeps.index
      (events.length - 1 - (events.length - 1) % logMaxNum + i + 1)
      (by omega) (by unfold logMaxNum; omega)
    rw [first] at here
    rw [second] at there
    rw [here, there, (continues_indexAt _ _).mpr rfl]
    rfl
  · intro before
    rcases Nat.eq_zero_or_pos events.length with none | some
    · have blanks : ∀ i, log.errLogData i = blank := fun i => keeps.others i (by omega)
      rw [blanks, blanks]
      decide
    · have newest := keeps.index (events.length - 1) (by omega) (by unfold logMaxNum; omega)
      rw [newest]
      rcases Nat.lt_or_ge events.length logMaxNum with part | full
      · -- behind the newest record of a ring that is not full there is a blank one
        rw [keeps.others _ (by rw [Nat.mod_eq_of_lt (by omega)]; omega)]
        rw [blank_index, continues_blank]
        · rfl
        · rw [toNat_indexAt]
          exact Nat.mod_lt _ (by decide)
      · -- and in a full ring the oldest one, whose index is not the next
        have behind : (events.length - logMaxNum) % logMaxNum =
            (events.length - 1) % logMaxNum + 1 := by
          unfold logMaxNum at before full ⊢
          omega
        have oldest := keeps.index (events.length - logMaxNum)
          (by unfold logMaxNum at full ⊢; omega) (by omega)
        rw [← behind, oldest, Bool.not_eq_true', ← Bool.not_eq_true, continues_indexAt]
        unfold logMaxNum at full ⊢
        unfold logMaxIndex
        omega

theorem Keeps.position (keeps : Keeps events log) (order : UInt8) (some : 0 < order.toNat)
    (within : order.toNat ≤ logMaxNum) :
    log.getLogPositionByTimeOrder order =
      ((events.length - 1) % logMaxNum + (logMaxNum - (order.toNat - 1))) % logMaxNum := by
  unfold Log.getLogPositionByTimeOrder
  rw [if_neg (by omega), keeps.lastInRow]
  congr 1
  omega

theorem Keeps.newestCount (keeps : Keeps events log) :
    log.getLogPositionByTimeOrder 1 = (events.length - 1) % logMaxNum := by
  rw [keeps.position _ (by decide) (by decide)]
  exact (Nat.add_mod_right _ _).trans (Nat.mod_mod _ _)

theorem Keeps.fruCount (keeps : Keeps events log) :
    log.fruCount = events.length % logMaxNum := by
  unfold Log.fruCount
  rw [keeps.newestCount]
  dsimp only
  rcases Nat.eq_zero_or_pos events.length with none | some
  · rw [keeps.others _ (by omega), if_pos blank_index, none]
  · rw [keeps.index _ (by omega) (by unfold logMaxNum; omega), if_neg (indexAt_ne _), Nat.mod_add_mod,
      Nat.sub_add_cancel some]

theorem Keeps.nextIndex (keeps : Keeps events log) : log.nextIndex = indexAt events.length := by
  unfold Log.nextIndex
  rw [keeps.newestCount]
  dsimp only
  rcases Nat.eq_zero_or_pos events.length with none | some
  · rw [keeps.others _ (by omega), if_pos (.inr blank_index), none]
    decide
  · rw [keeps.index _ (by omega) (by unfold logMaxNum; omega), ← UInt16.toNat_inj]
    have small : (events.length - 1) % logMaxIndex < logMaxIndex := Nat.mod_lt _ (by decide)
    have before := toNat_indexAt (events.length - 1)
    have after := toNat_indexAt events.length
    unfold logMaxIndex at small before after ⊢
    split
    next last =>
      have wraps := last.resolve_right (indexAt_ne _)
      rw [after, UInt16.toNat_one]
      omega
    next inside =>
      rw [UInt16.toNat_add, UInt16.toNat_one, after]
      omega

/-! ## The steps -/

theorem address_inj {slot other : Nat} : address slot = address other ↔ slot = other := by
  unfold address mappingSize
  omega

theorem errorLogEvent_none {event : Event} (code : event.errCode = 0) (write : Bool) :
    log.errorLogEvent event write = log := by
  unfold Log.errorLogEvent
  rw [if_pos code]

theorem Keeps.reserved (keeps : Keeps events log) :
    (log.errLogData (events.length % logMaxNum)).reserved = blank.reserved := by
  rcases Nat.lt_or_ge events.length logMaxNum with part | full
  · rw [keeps.others _ (by rw [Nat.mod_eq_of_lt part])]
  · have same : (events.length - logMaxNum) % logMaxNum = events.length % logMaxNum :=
      (Nat.mod_eq_sub_mod full).symm
    rw [← same, keeps.slot _ (by unfold logMaxNum at full ⊢; omega) (by omega)]
    rfl

theorem Keeps.errLogData_event (keeps : Keeps events log) {event : Event}
    (code : event.errCode ≠ 0) (write : Bool) :
    (log.errorLogEvent event write).errLogData =
      put logMaxNum log.errLogData events.length
        (event.record (indexAt events.length) blank) := by
  unfold Log.errorLogEvent put
  rw [if_neg code, keeps.fruCount, keeps.nextIndex]
  unfold Event.record
  rw [keeps.reserved]

theorem Keeps.event (keeps : Keeps events log) {event : Event} (code : event.errCode ≠ 0) :
    Keeps (events ++ [event]) (log.errorLogEvent event true) := by
  have data := keeps.errLogData_event code true
  constructor
  · rw [data, records_append, ← length_records events]
    exact keeps.recent.put _
  · intro other free
    rw [List.length_append, List.length_singleton] at free
    have least : events.length % logMaxNum ≤ events.length := Nat.mod_le _ _
    rw [data, put, update_of_ne (by omega)]
    exact keeps.others other (by omega)
  · intro other within
    unfold Log.errorLogEvent
    rw [if_neg code]
    dsimp only
    rw [if_pos rfl]
    by_cases same : other = log.fruCount
    · rw [same, update_self, update_self]
    · rw [update_of_ne same, update_of_ne (fun equal =>
        same (address_inj.mp equal))]
      exact keeps.stored other within

theorem clear_stored (eeprom : Nat → ModbusErrLogMapping) {writes : Nat → Bool} {count : Nat}
    (succeed : ∀ slot < count, writes slot = true) {slot : Nat} (within : slot < count) :
    (List.range count).foldl (fun eeprom i =>
      if writes i then update eeprom (address i) blank else eeprom) eeprom
      (address slot) = blank := by
  induction count with
  | zero => exact absurd within (Nat.not_lt_zero slot)
  | succ count ih =>
    rw [List.range_succ, List.foldl_append, List.foldl_cons, List.foldl_nil,
      if_pos (succeed count (Nat.lt_succ_self count))]
    by_cases last : slot = count
    · rw [last, update_self]
    · rw [update_of_ne (fun equal => last (address_inj.mp equal))]
      exact ih (fun slot below => succeed slot (Nat.lt_succ_of_lt below)) (by omega)

theorem keeps_clear (log : Log) {writes : Nat → Bool}
    (succeed : ∀ slot < logMaxNum, writes slot = true) : Keeps [] (log.modbusClearLog writes) where
  recent := recent_nil _ _
  others := fun _ _ => rfl
  stored := fun _ within => clear_stored log.eeprom succeed within

theorem Keeps.reload (keeps : Keeps events log) {reads : Nat → Bool}
    (succeed : ∀ slot < logMaxNum, reads slot = true) :
    Keeps events (log.initLoadEepromLog reads) := by
  have same : ∀ slot < logMaxNum,
      (log.initLoadEepromLog reads).errLogData slot = log.errLogData slot := by
    intro slot within
    unfold Log.initLoadEepromLog
    dsimp only
    rw [if_pos ⟨within, succeed slot within⟩]
    exact keeps.stored slot within
  constructor
  · intro place record found near
    rw [same _ (Nat.mod_lt _ (by decide))]
    exact keeps.recent place record found near
  · intro slot free
    by_cases within : slot < logMaxNum
    · rw [same slot within]
      exact keeps.others slot free
    · unfold Log.initLoadEepromLog
      dsimp only
      rw [if_neg (fun both => within both.1)]
  · intro slot within
    rw [same slot within]
    exact keeps.stored slot within

/-- An operation that succeeds keeps the log in step with its history. -/
theorem Keeps.step (keeps : Keeps events log) {op : Op} (succeeds : op.Succeeds) :
    Keeps (op.history events) (op.run log) := by
  cases op with
  | event event write =>
    have writes : write = true := succeeds
    change Keeps (if event.errCode = 0 then events else events ++ [event])
      (log.errorLogEvent event write)
    by_cases code : event.errCode = 0
    · rw [if_pos code, errorLogEvent_none code]
      exact keeps
    · rw [if_neg code, writes]
      exact keeps.event code
  | clear writes => exact keeps_clear log succeeds
  | reload reads => exact keeps.reload succeeds

theorem Keeps.run (ops : List Op) (succeed : ∀ op ∈ ops, op.Succeeds)
    (keeps : Keeps events log) :
    Keeps (ops.foldl Op.history events) (ops.foldl Op.run log) := by
  induction ops generalizing events log with
  | nil => exact keeps
  | cons op ops ih =>
    have next := keeps.step (succeed op List.mem_cons_self)
    exact ih (fun later there => succeed later (List.mem_cons_of_mem op there)) next

/-! ## The log tells the latest events -/

theorem length_registers (record : ModbusErrLogMapping) : record.registers.length = 16 := by
  rfl

theorem copy_eq (log : Log) {slot cmdSize : Nat} (inside : slot < logMaxNum)
    (within : cmdSize ≤ 16) :
    log.copy slot cmdSize = some ((log.errLogData slot).registers.take cmdSize) := by
  have first : logMaxNum - slot = logMaxNum - slot - 1 + 1 := by omega
  have length := length_registers (log.errLogData slot)
  unfold Log.copy
  rw [first, List.range_succ_eq_map, List.flatMap_cons, Nat.add_zero]
  rw [if_pos (by rw [List.length_append]; omega), List.take_append_of_le_length (by omega)]

theorem transfer_eq (log : Log) {order : UInt16} {cmdSize : UInt8} (within : cmdSize.toNat ≤ 16)
    {slot : Nat} (inside : slot < logMaxNum)
    (position : log.getLogPositionByTimeOrder order.toUInt8 = slot) :
    log.logTransferToModbusData cmdSize order =
      some (if (log.errLogData slot).index = 0xFFFF then List.replicate cmdSize.toNat 0
        else (log.errLogData slot).registers.take cmdSize.toNat) := by
  unfold Log.logTransferToModbusData
  rw [position, copy_eq log inside within, Option.map_some]
  congr 1
  rcases Nat.eq_zero_or_pos cmdSize.toNat with none | some
  · rw [none, List.take_zero, List.replicate_zero, ite_self, ite_self]
  · have head : ((log.errLogData slot).registers.take cmdSize.toNat).head? =
        Option.some (log.errLogData slot).index := by
      rw [List.head?_take, if_neg (by omega)]
      rfl
    rw [head]
    exact if_congr Option.some_inj rfl rfl

/-- The event of an order is what is transferred, or zeros where there is none. -/
theorem Keeps.newest (keeps : Keeps events log) (order : UInt16) (some : 0 < order.toNat)
    (within : order.toNat ≤ logMaxNum) (cmdSize : UInt8) (registers : cmdSize.toNat ≤ 16) :
    log.logTransferToModbusData cmdSize order =
      Option.some (match (records events).reverse[order.toNat - 1]? with
        | Option.some record => record.registers.take cmdSize.toNat
        | none => List.replicate cmdSize.toNat 0) := by
  have byte : order.toUInt8.toNat = order.toNat := by
    rw [UInt16.toNat_toUInt8]
    unfold logMaxNum at within
    omega
  have place := keeps.position (order.toUInt8) (by omega) (by omega)
  rw [byte] at place
  have slot := Nat.mod_lt ((events.length - 1) % logMaxNum + (logMaxNum - (order.toNat - 1)))
    (show 0 < logMaxNum by decide)
  rw [transfer_eq log registers slot place]
  congr 1
  rcases Nat.lt_or_ge (order.toNat - 1) events.length with inside | outside
  · -- the slot of the order is that of its place
    have there : ((events.length - 1) % logMaxNum + (logMaxNum - (order.toNat - 1))) % logMaxNum =
        (events.length - 1 - (order.toNat - 1)) % logMaxNum := by
      unfold logMaxNum at within ⊢
      omega
    have found := keeps.recent.newest (order.toNat - 1) (by omega)
      (by rw [length_records]; exact inside)
    have index := keeps.index (events.length - 1 - (order.toNat - 1)) (by omega)
      (by omega)
    rw [length_records] at found
    rw [there, found, index, if_neg (indexAt_ne _)]
  · -- the slot of the order is behind the events
    have nothing : (records events).reverse[order.toNat - 1]? = Option.none := by
      rw [List.getElem?_eq_none_iff, List.length_reverse, length_records]
      exact outside
    have free := keeps.others
      (((events.length - 1) % logMaxNum + (logMaxNum - (order.toNat - 1))) % logMaxNum)
      (by unfold logMaxNum at within ⊢; omega)
    rw [nothing, free, if_pos blank_index]

theorem Keeps.count (keeps : Keeps events log) :
    log.errorLogCount = min events.length logMaxNum := by
  apply scan_eq (Nat.min_le_right _ _)
  · intro slot before
    rw [beq_eq_false_iff_ne]
    -- a slot in use has the record of a place that is in the same slot
    have place : ∃ place, place < events.length ∧ events.length ≤ place + logMaxNum ∧
        place % logMaxNum = slot := by
      refine ⟨events.length - 1 - (events.length - 1 - slot) % logMaxNum, ?_⟩
      unfold logMaxNum at before ⊢
      omega
    obtain ⟨place, inside, near, same⟩ := place
    rw [← same, keeps.index place inside near]
    exact indexAt_ne place
  · intro part
    rw [keeps.others _ (by omega), blank_index]
    rfl

theorem Keeps.replaces (keeps : Keeps events log) (event : Event) (write : Bool) (slot : Nat)
    (changes : (log.errorLogEvent event write).errLogData slot ≠ log.errLogData slot) :
    log.errLogData slot = blank ∨ logMaxNum ≤ events.length ∧
      (records events)[events.length - logMaxNum]? = some (log.errLogData slot) := by
  by_cases code : event.errCode = 0
  · rw [errorLogEvent_none code] at changes
    exact absurd rfl changes
  · rw [keeps.errLogData_event code, put] at changes
    by_cases same : slot = events.length % logMaxNum
    · rcases Nat.lt_or_ge events.length logMaxNum with part | full
      · rw [Nat.mod_eq_of_lt part] at same
        exact .inl (keeps.others slot (Nat.le_of_eq same.symm))
      · have inside : events.length - logMaxNum < events.length := by
          unfold logMaxNum at full ⊢
          omega
        have oldest := keeps.slot _ inside (by omega)
        rw [← Nat.mod_eq_sub_mod full, ← same] at oldest
        rw [oldest, getElem?_records, List.getElem?_eq_getElem inside]
        exact .inr ⟨full, rfl⟩
    · rw [update_of_ne same] at changes
      exact absurd rfl changes

/-- After every run of a cleared log it tells the latest events since the last clear. -/
theorem errorLog_tells (start : Log) (writes : Nat → Bool) (ops : List Op)
    (cleared : (Op.clear writes).Succeeds) (succeed : ∀ op ∈ ops, op.Succeeds) :
    Tells (ops.foldl Op.history []) (ops.foldl Op.run (start.modbusClearLog writes)) := by
  have keeps := Keeps.run ops succeed (keeps_clear start cleared)
  exact ⟨keeps.newest, keeps.count, keeps.replaces⟩

def leak : Event :=
  ⟨0xD0, false, 60000, (false, 0), 50, (true, 70), 0, 0, 0, 0, 0⟩

/-- A leak is told after a reload, also where there was a clear before it. -/
theorem errorLog_tells_leak :
    Tells [leak] ([.event leak true, .clear fun _ => true, .event leak true,
      .reload fun _ => true].foldl Op.run
        (Log.modbusClearLog ⟨fun _ => blank, fun _ => blank⟩ fun _ => true)) := by
  have tells := errorLog_tells ⟨fun _ => blank, fun _ => blank⟩ (fun _ => true)
    [.event leak true, .clear fun _ => true, .event leak true, .reload fun _ => true]
    (fun _ _ => rfl) (by
      intro op there
      simp only [List.mem_cons, List.not_mem_nil, or_false] at there
      rcases there with rfl | rfl | rfl | rfl
      · rfl
      · exact fun _ _ => rfl
      · rfl
      · exact fun _ _ => rfl)
  exact tells

end OpenBic.Aalc.ErrorLog
