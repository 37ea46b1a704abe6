import OpenBic.Ipmi.CmdHandle
import Mathlib.Logic.Function.Basic

/-!
# The FRU areas of the EEPROMs

`eeprom.c`, `fru.c` and the handlers `STORAGE_READ_FRUID_DATA` and `STORAGE_WRITE_FRUID_DATA` of
`storage_handler.c`. A FRU has an area of an EEPROM, from a start offset on, and the EEPROM is sent
addresses of one byte or of two. An EEPROM takes the bytes of a write one behind the other, and goes
on at its first byte behind its last one.
-/

namespace OpenBic.Fru

open List Function Library.Splice Ipmi

/-! ## The code -/

/-- `FRU_START + FRU_SIZE`. -/
def fruEnd : Nat := 0x0400

/-- The retries of `eeprom_read` and `eeprom_write`. -/
def eepromRetry : Nat := 5

inductive FruDevType where
  | nvAtmel24C02
  | nvAtmel24C64
  | nvAtmel24C128
  | puyaP24C128F
  | stM24C64W
  | stM24128Bw
  | stM24512Rdw
  | rohmBr24G512
deriving DecidableEq

/-- `eeprom_one_btye_addr_check`. -/
def FruDevType.oneByteAddr : FruDevType → Bool
  | .nvAtmel24C02 => true
  | _ => false

/-- An EEPROM on the buses. -/
structure Eeprom where
  port : UInt8
  targetAddr : UInt8
  /-- `mux_addr` and `mux_channel`, when `mux_present`. -/
  mux : Option (UInt8 × UInt8)
deriving DecidableEq

structure EepromCfg where
  devType : FruDevType
  devId : UInt8
  eeprom : Eeprom
  startOffset : UInt16
  maxSize : UInt16
  /-- There is a `bus_mutex`. -/
  busMutex : Bool
deriving DecidableEq

def EepromCfg.addresses (cfg : EepromCfg) : Nat :=
  if cfg.devType.oneByteAddr then 2 ^ 8 else 2 ^ 16

def EepromCfg.address (cfg : EepromCfg) (offset : Nat) : Nat :=
  (cfg.startOffset.toNat + offset) % cfg.addresses

/-- What the EEPROMs hold. -/
abbrev Content := Eeprom → Nat → UInt8

def writeBytes (content : Nat → UInt8) (addresses address : Nat) : List UInt8 → Nat → UInt8
  | [] => content
  | byte :: rest =>
    writeBytes (update content address byte) addresses ((address + 1) % addresses) rest

def readBytes (content : Nat → UInt8) (addresses address : Nat) : Nat → List UInt8
  | 0 => []
  | count + 1 => content address :: readBytes content addresses ((address + 1) % addresses) count

/-- How the buses answer. A transfer that has an error does nothing. -/
structure BusAnswers where
  lock : Bool
  mux : Nat → Bool
  transfer : Nat → Bool

def BusAnswers.succeeds (answers : BusAnswers) (cfg : EepromCfg) (attempt : Nat) : Bool :=
  (cfg.eeprom.mux.isNone || answers.mux attempt) && answers.transfer attempt

/-- The loop of `eeprom_read` and `eeprom_write`, for so many attempts: whether one is
successful. -/
def attempts (answers : BusAnswers) (cfg : EepromCfg) : Nat → Nat → Bool
  | 0, _ => false
  | left + 1, attempt =>
    if answers.succeeds cfg attempt then true else attempts answers cfg left (attempt + 1)

/-- The mutex, if there is one, is had, and one of the attempts is successful. -/
def BusAnswers.reach (answers : BusAnswers) (cfg : EepromCfg) : Bool :=
  (!cfg.busMutex || answers.lock) && attempts answers cfg eepromRetry 0

def eepromWrite (answers : BusAnswers) (cfg : EepromCfg) (offset : Nat) (data : List UInt8)
    (content : Content) : Bool × Content :=
  if answers.reach cfg then
    (true, update content cfg.eeprom
      (writeBytes (content cfg.eeprom) cfg.addresses (cfg.address offset) data))
  else (false, content)

/-- `eeprom_read`. A read of no bytes is refused by `i2c_master_read`. -/
def eepromRead (answers : BusAnswers) (cfg : EepromCfg) (offset dataLen : Nat)
    (content : Content) : Option (List UInt8) :=
  if dataLen ≠ 0 ∧ answers.reach cfg then
    some (readBytes (content cfg.eeprom) cfg.addresses (cfg.address offset) dataLen)
  else none

/-- What `FRU_read` and `FRU_write` return. -/
inductive FruStatus where
  | writeSuccess
  | readSuccess
  | invalidId
  | outOfRange
  | failToAccess

/-- The FRUs of a platform. -/
structure FruTable where
  fruConfig : List EepromCfg
  maxFruId : Nat

/-- `find_FRU_ID`: the configuration of a FRU. -/
def FruTable.find (table : FruTable) (devId : UInt8) : Option EepromCfg :=
  table.fruConfig.find? (·.devId = devId)

/-- `FRU_read`: its status, and the data, which is what was there when nothing is read. -/
def fruRead (table : FruTable) (answers : BusAnswers) (devId : UInt8) (offset : Nat)
    (data : List UInt8) (content : Content) : FruStatus × List UInt8 :=
  if table.maxFruId ≤ devId.toNat then (.invalidId, data)
  else if fruEnd < offset + data.length then (.outOfRange, data)
  else
    match table.find devId with
    | none => (.invalidId, data)
    | some cfg =>
      match eepromRead answers cfg offset data.length content with
      | none => (.failToAccess, data)
      | some read => (.readSuccess, read)

/-- `FRU_write`, whose bound is not the one of the read. -/
def fruWrite (table : FruTable) (answers : BusAnswers) (devId : UInt8) (offset : Nat)
    (data : List UInt8) (content : Content) : FruStatus × Content :=
  if table.maxFruId ≤ devId.toNat then (.invalidId, content)
  else if fruEnd ≤ offset + data.length then (.outOfRange, content)
  else
    match table.find devId with
    | none => (.invalidId, content)
    | some cfg =>
      match eepromWrite answers cfg offset data content with
      | (false, content) => (.failToAccess, content)
      | (true, content) => (.writeSuccess, content)

def FruStatus.completionCode : FruStatus → CompletionCode
  | .writeSuccess => .success
  | .readSuccess => .success
  | .invalidId => .invalidParam
  | .outOfRange => .paramOutOfRange
  | .failToAccess => .fruDevBusy

/-- `STORAGE_READ_FRUID_DATA`. The data of the entry is not set before it is read. -/
def storageReadFruidData (table : FruTable) (answers : BusAnswers) (stack : Nat → UInt8)
    (content : Content) (msg : HandlerMsg) : HandlerMsg :=
  if msg.dataLen ≠ 4 then msg.complete .invalidLength
  else if 32 < (msg.data 3).toNat then msg.complete .lengthExceeded
  else
    let (status, data) := fruRead table answers (msg.data 0) (msg.word 1)
      (cells stack (msg.data 3).toNat) content
    { data := (msg.copied (UInt8.ofNat data.length :: data)).data
      dataLen := data.length + 1
      completionCode := status.completionCode }

def storageWriteFruidData (table : FruTable) (answers : BusAnswers) (content : Content)
    (msg : HandlerMsg) : HandlerMsg × Content :=
  if msg.dataLen < 4 then (msg.complete .invalidLength, content)
  else if 32 < msg.dataLen - 3 then (msg.complete .lengthExceeded, content)
  else
    let (status, content) := fruWrite table answers (msg.data 0) (msg.word 1)
      (cells (view msg.data 3) (msg.dataLen - 3)) content
    ({ data := (msg.copied [UInt8.ofNat (msg.dataLen - 3)]).data
       dataLen := 1
       completionCode := status.completionCode }, content)

/-- The data of the response: `ipmi_cmd_handle` takes it away when the request is not
successful. -/
def response (msg : HandlerMsg) : List UInt8 :=
  if msg.completionCode = .success then msg.bytes else []

/-! ## What is claimed -/

/-- What a request has: the FRU, the offset and how many bytes. -/
structure FruRange where
  devId : UInt8
  offset : Nat
  count : Nat

def readRange (msg : HandlerMsg) : FruRange := ⟨msg.data 0, msg.word 1, (msg.data 3).toNat⟩

def writeRange (msg : HandlerMsg) : FruRange := ⟨msg.data 0, msg.word 1, msg.dataLen - 3⟩

/-- The range lies in the inventory. -/
def FruRange.Inside (range : FruRange) (cfg : EepromCfg) : Prop :=
  range.offset + range.count ≤ cfg.maxSize.toNat

def FruRange.place (range : FruRange) (cfg : EepromCfg) : Nat :=
  cfg.startOffset.toNat + range.offset

/-- The range is one that a request can have, of a FRU of the table whose EEPROM is reached. -/
def FruRange.Reached (range : FruRange) (table : FruTable) (answers : BusAnswers)
    (cfg : EepromCfg) : Prop :=
  range.devId.toNat < table.maxFruId ∧ table.find range.devId = some cfg ∧ 0 < range.count ∧
    range.count ≤ 32 ∧ answers.reach cfg = true

/-- A request to read is successful for a range in the area, when the EEPROM is reached, and for no
other; its response has exactly the bytes of the range, and otherwise no data. -/
structure ReadRight (table : FruTable) (answers : BusAnswers) (stack : Nat → UInt8)
    (content : Content) (msg : HandlerMsg) : Prop where
  exact : (storageReadFruidData table answers stack content msg).completionCode = .success →
    ∃ cfg, table.find (readRange msg).devId = some cfg ∧ (readRange msg).Inside cfg ∧
      response (storageReadFruidData table answers stack content msg) =
        UInt8.ofNat (readRange msg).count ::
          cells (view (content cfg.eeprom) ((readRange msg).place cfg)) (readRange msg).count
  accepted : ∀ cfg, msg.dataLen = 4 → (readRange msg).Reached table answers cfg →
    (readRange msg).Inside cfg →
    (storageReadFruidData table answers stack content msg).completionCode = .success
  refused : (storageReadFruidData table answers stack content msg).completionCode ≠ .success →
    response (storageReadFruidData table answers stack content msg) = []

def written (msg : HandlerMsg) : List UInt8 := cells (view msg.data 3) (msg.dataLen - 3)

/-- A request to write is successful for a range in the area, when the EEPROM is reached, and for no
other; it changes exactly the bytes of the range, and otherwise nothing; and what is read of the
range then is what was written. -/
structure WriteRight (table : FruTable) (answers : BusAnswers) (content : Content)
    (msg : HandlerMsg) : Prop where
  exact : (storageWriteFruidData table answers content msg).1.completionCode = .success →
    ∃ cfg, table.find (writeRange msg).devId = some cfg ∧ (writeRange msg).Inside cfg ∧
      response (storageWriteFruidData table answers content msg).1 =
        [UInt8.ofNat (writeRange msg).count] ∧
      (storageWriteFruidData table answers content msg).2 =
        update content cfg.eeprom (overwrite (content cfg.eeprom)
          ((writeRange msg).place cfg) (writeRange msg).count ((written msg).getD · 0))
  accepted : ∀ cfg, 4 ≤ msg.dataLen → (writeRange msg).Reached table answers cfg →
    (writeRange msg).Inside cfg →
    (storageWriteFruidData table answers content msg).1.completionCode = .success
  refused : (storageWriteFruidData table answers content msg).1.completionCode ≠ .success →
    response (storageWriteFruidData table answers content msg).1 = [] ∧
      (storageWriteFruidData table answers content msg).2 = content
  readBack : (storageWriteFruidData table answers content msg).1.completionCode = .success →
    ∀ (again : BusAnswers) (stack : Nat → UInt8) (request : HandlerMsg), request.dataLen = 4 →
      readRange request = writeRange msg →
      (storageReadFruidData table again stack (storageWriteFruidData table answers content msg).2
        request).completionCode = .success →
      response (storageReadFruidData table again stack
        (storageWriteFruidData table answers content msg).2 request) =
          UInt8.ofNat (writeRange msg).count :: written msg

/-- The bound of the code is that of the inventory, and no address wraps. -/
def FruRange.Agrees (range : FruRange) (limit : Prop) (cfg : EepromCfg) : Prop :=
  (range.Inside cfg ↔ limit) ∧
    (range.Inside cfg → range.place cfg + range.count ≤ cfg.addresses)

/-! ## The EEPROM -/

section Bytes

variable {content : Nat → UInt8} {addresses address count cell : Nat} {data : List UInt8}

theorem length_readBytes (content : Nat → UInt8) (addresses address count : Nat) :
    (readBytes content addresses address count).length = count := by
  induction count generalizing address with
  | zero => rfl
  | succ count ih => rw [readBytes, length_cons, ih]

theorem readBytes_eq (content : Nat → UInt8) (fits : address + count ≤ addresses) :
    readBytes content addresses address count = cells (view content address) count := by
  induction count generalizing address with
  | zero => rfl
  | succ count ih =>
    rw [readBytes, Nat.add_comm count, cells_add, view_view]
    by_cases last : count = 0
    · rw [last]
      rfl
    · rw [Nat.mod_eq_of_lt (by omega), ih (by omega)]
      rfl

theorem mem_readBytes {byte : UInt8} (some : address < addresses)
    (read : byte ∈ readBytes content addresses address count) :
    ∃ cell < addresses, byte = content cell := by
  induction count generalizing address with
  | zero => cases read
  | succ count ih =>
    rcases List.mem_cons.mp read with here | behind
    · exact ⟨address, some, here⟩
    · exact ih (Nat.mod_lt _ (Nat.zero_lt_of_lt some)) behind

/-- The bytes of a range that has addresses are written. -/
theorem writeBytes_eq (content : Nat → UInt8) (fits : address + data.length ≤ addresses) :
    writeBytes content addresses address data =
      overwrite content address data.length (data.getD · 0) := by
  induction data generalizing address content with
  | nil => rw [length_nil, overwrite_zero, writeBytes]
  | cons byte rest ih =>
    rw [length_cons] at fits
    rw [writeBytes]
    funext cell
    have next : writeBytes (update content address byte) addresses
        ((address + 1) % addresses) rest =
          overwrite (update content address byte) (address + 1) rest.length
            (rest.getD · 0) := by
      by_cases last : rest = []
      · rw [last, length_nil, overwrite_zero, writeBytes]
      · have more := List.length_pos_iff.mpr last
        rw [Nat.mod_eq_of_lt (by omega)]
        exact ih _ (by omega)
    rw [next]
    unfold overwrite
    rw [length_cons]
    by_cases here : cell = address
    · rw [if_neg (by omega), if_pos (by omega), here, update_self, Nat.sub_self]
      rfl
    · rw [update_of_ne here]
      by_cases behind : address + 1 ≤ cell ∧ cell < address + 1 + rest.length
      · obtain ⟨index, rfl⟩ := Nat.exists_eq_add_of_le behind.1
        rw [if_pos behind, if_pos (by omega), Nat.add_sub_cancel_left, Nat.add_assoc,
          Nat.add_sub_cancel_left, Nat.add_comm 1]
        rfl
      · rw [if_neg behind, if_neg (by omega)]

theorem writeBytes_outside (content : Nat → UInt8) (data : List UInt8)
    (some : address < addresses) (outside : addresses ≤ cell) :
    writeBytes content addresses address data cell = content cell := by
  induction data generalizing address content with
  | nil => rfl
  | cons byte rest ih =>
    rw [writeBytes, ih _ (Nat.mod_lt _ (Nat.zero_lt_of_lt some)),
      update_of_ne (by omega)]

end Bytes

/-! ## The commands -/

section Commands

variable {table : FruTable} {answers : BusAnswers} {stack : Nat → UInt8} {content : Content}
variable {msg : HandlerMsg} {cfg : EepromCfg}

theorem address_eq {range : FruRange} (some : 0 < range.count)
    (fits : range.place cfg + range.count ≤ cfg.addresses) :
    cfg.address range.offset = range.place cfg :=
  Nat.mod_eq_of_lt (Nat.lt_of_lt_of_le (Nat.lt_add_of_pos_right some) fits)

theorem addresses_pos (cfg : EepromCfg) : 0 < cfg.addresses := by
  unfold EepromCfg.addresses
  split
  · exact Nat.two_pow_pos 8
  · exact Nat.two_pow_pos 16

theorem address_lt (cfg : EepromCfg) (offset : Nat) : cfg.address offset < cfg.addresses :=
  Nat.mod_lt _ (addresses_pos cfg)

theorem fruRead_reached {range : FruRange} {data : List UInt8}
    (reached : range.Reached table answers cfg) (length : data.length = range.count)
    (limit : range.offset + range.count ≤ fruEnd) :
    fruRead table answers range.devId range.offset data content =
      (.readSuccess, readBytes (content cfg.eeprom) cfg.addresses (cfg.address range.offset)
        range.count) := by
  have served : eepromRead answers cfg range.offset range.count content =
      some (readBytes (content cfg.eeprom) cfg.addresses (cfg.address range.offset)
        range.count) :=
    if_pos ⟨Nat.ne_of_gt reached.2.2.1, reached.2.2.2.2⟩
  unfold fruRead
  rw [length, if_neg (Nat.not_le.mpr reached.1), if_neg (Nat.not_lt.mpr limit), reached.2.1]
  dsimp only
  rw [served]

theorem fruRead_success {devId : UInt8} {offset : Nat} {data : List UInt8}
    (success : (fruRead table answers devId offset data content).1.completionCode = .success) :
    ∃ cfg, devId.toNat < table.maxFruId ∧ table.find devId = some cfg ∧ 0 < data.length ∧
      answers.reach cfg = true ∧ offset + data.length ≤ fruEnd := by
  unfold fruRead at success
  split at success
  · cases success
  next known =>
    split at success
    · cases success
    next limit =>
      split at success
      · cases success
      next cfg found =>
        unfold eepromRead at success
        by_cases served : data.length ≠ 0 ∧ answers.reach cfg = true
        · exact ⟨cfg, Nat.not_le.mp known, found, Nat.pos_of_ne_zero served.1, served.2,
            Nat.not_lt.mp limit⟩
        · rw [if_neg served] at success
          cases success

theorem fruWrite_reached {range : FruRange} {data : List UInt8}
    (reached : range.Reached table answers cfg) (length : data.length = range.count)
    (limit : range.offset + range.count < fruEnd) :
    fruWrite table answers range.devId range.offset data content =
      (.writeSuccess, update content cfg.eeprom
        (writeBytes (content cfg.eeprom) cfg.addresses (cfg.address range.offset) data)) := by
  have served : eepromWrite answers cfg range.offset data content =
      (true, update content cfg.eeprom
        (writeBytes (content cfg.eeprom) cfg.addresses (cfg.address range.offset) data)) :=
    if_pos reached.2.2.2.2
  unfold fruWrite
  rw [length, if_neg (Nat.not_le.mpr reached.1), if_neg (Nat.not_le.mpr limit), reached.2.1]
  dsimp only
  rw [served]

theorem fruWrite_cases (devId : UInt8) (offset : Nat) (data : List UInt8) :
    ((fruWrite table answers devId offset data content).1.completionCode ≠ .success ∧
      (fruWrite table answers devId offset data content).2 = content) ∨
    ∃ cfg, devId.toNat < table.maxFruId ∧ table.find devId = some cfg ∧
      answers.reach cfg = true ∧ offset + data.length < fruEnd := by
  unfold fruWrite
  split
  · exact .inl ⟨nofun, rfl⟩
  next known =>
    split
    · exact .inl ⟨nofun, rfl⟩
    next limit =>
      split
      · exact .inl ⟨nofun, rfl⟩
      next cfg found =>
        unfold eepromWrite
        by_cases served : answers.reach cfg = true
        · exact .inr ⟨cfg, Nat.not_le.mp known, found, served, Nat.not_le.mp limit⟩
        · rw [if_neg served]
          exact .inl ⟨nofun, rfl⟩

/-- A request to read a range within the limit is successful, and has the bytes that are read. -/
theorem storageReadFruidData_reached (length : msg.dataLen = 4)
    (reached : (readRange msg).Reached table answers cfg)
    (limit : (readRange msg).offset + (readRange msg).count ≤ fruEnd) :
    (storageReadFruidData table answers stack content msg).completionCode = .success ∧
      response (storageReadFruidData table answers stack content msg) =
        UInt8.ofNat (readRange msg).count :: readBytes (content cfg.eeprom) cfg.addresses
          (cfg.address (readRange msg).offset) (readRange msg).count := by
  have read := @fruRead_reached table answers content cfg (readRange msg)
    (cells stack (msg.data 3).toNat) reached (length_cells _ _) limit
  have sized : (readBytes (content cfg.eeprom) cfg.addresses
      (cfg.address (readRange msg).offset) (readRange msg).count).length =
        (readRange msg).count := length_readBytes _ _ _ _
  have answer : storageReadFruidData table answers stack content msg =
      { data := (msg.copied (UInt8.ofNat (readRange msg).count ::
          readBytes (content cfg.eeprom) cfg.addresses (cfg.address (readRange msg).offset)
            (readRange msg).count)).data
        dataLen := (readRange msg).count + 1
        completionCode := .success } := by
    have short : ¬ 32 < (msg.data 3).toNat := Nat.not_lt.mpr reached.2.2.2.1
    unfold storageReadFruidData
    rw [if_neg (not_not.mpr length), if_neg short]
    unfold readRange at read sized ⊢
    dsimp only at read sized ⊢
    rw [read]
    rw [sized]
    rfl
  rw [answer]
  refine ⟨rfl, ?_⟩
  have whole := range_copied msg (UInt8.ofNat (readRange msg).count ::
    readBytes (content cfg.eeprom) cfg.addresses (cfg.address (readRange msg).offset)
      (readRange msg).count)
  rw [length_cons, sized] at whole
  exact whole

theorem storageReadFruidData_success
    (success : (storageReadFruidData table answers stack content msg).completionCode = .success) :
    ∃ cfg, msg.dataLen = 4 ∧ (readRange msg).Reached table answers cfg ∧
      (readRange msg).offset + (readRange msg).count ≤ fruEnd := by
  unfold storageReadFruidData at success
  split at success
  · cases success
  next length =>
    split at success
    · cases success
    next short =>
      obtain ⟨cfg, known, found, some, reach, limit⟩ := fruRead_success success
      rw [length_cells] at some limit
      exact ⟨cfg, not_not.mp length, ⟨known, found, some, Nat.not_lt.mp short, reach⟩, limit⟩

theorem storageWriteFruidData_reached (length : 4 ≤ msg.dataLen)
    (reached : (writeRange msg).Reached table answers cfg)
    (limit : (writeRange msg).offset + (writeRange msg).count < fruEnd) :
    (storageWriteFruidData table answers content msg).1.completionCode = .success ∧
      response (storageWriteFruidData table answers content msg).1 =
        [UInt8.ofNat (writeRange msg).count] ∧
      (storageWriteFruidData table answers content msg).2 =
        update content cfg.eeprom (writeBytes (content cfg.eeprom) cfg.addresses
          (cfg.address (writeRange msg).offset) (written msg)) := by
  have write := @fruWrite_reached table answers content cfg (writeRange msg)
    (written msg) reached (length_cells _ _) limit
  have answer : storageWriteFruidData table answers content msg =
      ({ data := (msg.copied [UInt8.ofNat (writeRange msg).count]).data
         dataLen := 1
         completionCode := .success },
        update content cfg.eeprom (writeBytes (content cfg.eeprom) cfg.addresses
          (cfg.address (writeRange msg).offset) (written msg))) := by
    have short : ¬ 32 < msg.dataLen - 3 := Nat.not_lt.mpr reached.2.2.2.1
    unfold storageWriteFruidData
    rw [if_neg (Nat.not_lt.mpr length), if_neg short]
    unfold writeRange written at write ⊢
    rw [write]
    rfl
  rw [answer]
  refine ⟨rfl, ?_, rfl⟩
  exact range_copied msg [UInt8.ofNat (writeRange msg).count]

theorem storageWriteFruidData_cases (table : FruTable) (answers : BusAnswers) (content : Content)
    (msg : HandlerMsg) :
    ((storageWriteFruidData table answers content msg).1.completionCode ≠ .success ∧
      (storageWriteFruidData table answers content msg).2 = content) ∨
    ∃ cfg, 4 ≤ msg.dataLen ∧ (writeRange msg).Reached table answers cfg ∧
      (writeRange msg).offset + (writeRange msg).count < fruEnd := by
  unfold storageWriteFruidData
  split
  · exact .inl ⟨nofun, rfl⟩
  next length =>
    split
    · exact .inl ⟨nofun, rfl⟩
    next short =>
      rcases @fruWrite_cases table answers content (msg.data 0) (msg.word 1) (written msg) with
        refused | ⟨cfg, known, found, reach, limit⟩
      · exact .inl refused
      · have sized : (written msg).length = msg.dataLen - 3 := length_cells _ _
        rw [sized] at limit
        have some : 0 < (writeRange msg).count := Nat.sub_pos_of_lt (Nat.not_lt.mp length)
        exact .inr ⟨cfg, Nat.not_lt.mp length, ⟨known, found, some, Nat.not_lt.mp short, reach⟩,
          limit⟩

theorem fits_of_reads (length : msg.dataLen = 4)
    (reached : (readRange msg).Reached table answers cfg)
    (limit : (readRange msg).offset + (readRange msg).count ≤ fruEnd)
    (right : ∀ stack content, ReadRight table answers stack content msg) :
    (readRange msg).place cfg + (readRange msg).count ≤ cfg.addresses := by
  by_contra beyond
  -- an EEPROM that tells the bytes that have addresses from the others
  let content : Content := fun _ cell => if cell < cfg.addresses then 0 else 1
  have reads := @storageReadFruidData_reached table answers (fun _ => 0) content msg cfg length
    reached limit
  obtain ⟨other, found, -, exact⟩ := (right (fun _ => 0) content).exact reads.1
  rw [reached.2.1] at found
  cases found
  rw [reads.2] at exact
  have same := List.cons.inj exact
  have last : content cfg.eeprom ((readRange msg).place cfg + ((readRange msg).count - 1)) ∈
      readBytes (content cfg.eeprom) cfg.addresses (cfg.address (readRange msg).offset)
        (readRange msg).count := by
    rw [same.2]
    exact List.mem_map.mpr ⟨(readRange msg).count - 1,
      List.mem_range.mpr (Nat.sub_lt reached.2.2.1 Nat.one_pos), rfl⟩
  obtain ⟨cell, some, equal⟩ := mem_readBytes (address_lt cfg _) last
  have zero : content cfg.eeprom cell = 0 := if_pos some
  have one : content cfg.eeprom
      ((readRange msg).place cfg + ((readRange msg).count - 1)) = 1 := if_neg (by omega)
  rw [zero, one] at equal
  cases equal

/-- Requests to read are right exactly when the limit is the end of the area and the area has
addresses. -/
theorem readRight_iff (table : FruTable) (answers : BusAnswers) (msg : HandlerMsg) :
    (∀ stack content, ReadRight table answers stack content msg) ↔
      ∀ cfg, msg.dataLen = 4 → (readRange msg).Reached table answers cfg →
        (readRange msg).Agrees ((readRange msg).offset + (readRange msg).count ≤ fruEnd) cfg := by
  constructor
  · intro right cfg length reached
    have accepted := (right (fun _ => 0) fun _ _ => 0).accepted cfg length reached
    have limited : (readRange msg).Inside cfg →
        (readRange msg).offset + (readRange msg).count ≤ fruEnd := by
      intro inside
      obtain ⟨_, -, -, limit⟩ := storageReadFruidData_success (accepted inside)
      exact limit
    refine ⟨⟨limited, ?_⟩, fun inside => fits_of_reads length reached (limited inside) right⟩
    intro limit
    have reads := @storageReadFruidData_reached table answers (fun _ => 0) (fun _ _ => 0) msg cfg
      length reached limit
    obtain ⟨other, found, inside, -⟩ := (right (fun _ => 0) fun _ _ => 0).exact reads.1
    rw [reached.2.1] at found
    cases found
    exact inside
  · intro agrees stack content
    constructor
    · intro success
      obtain ⟨cfg, length, reached, limit⟩ := storageReadFruidData_success success
      have inside := (agrees cfg length reached).1.mpr limit
      have fits := (agrees cfg length reached).2 inside
      refine ⟨cfg, reached.2.1, inside, ?_⟩
      have placed := address_eq reached.2.2.1 fits
      rw [(storageReadFruidData_reached length reached limit).2, placed, readBytes_eq _ fits]
    · intro cfg length reached inside
      exact (storageReadFruidData_reached length reached
        ((agrees cfg length reached).1.mp inside)).1
    · exact fun refused => if_neg refused

theorem written_read (base : Nat → UInt8) (place : Nat) (msg : HandlerMsg) :
    cells (view (overwrite base place (writeRange msg).count ((written msg).getD · 0)) place)
      (writeRange msg).count = written msg := by
  have sized : (written msg).length = (writeRange msg).count := length_cells _ _
  have same : cells (view (overwrite base place (writeRange msg).count
      ((written msg).getD · 0)) place) (writeRange msg).count =
        cells ((written msg).getD · 0) (writeRange msg).count :=
    cells_congr fun index inside => overwrite_inside base _ inside
  rw [same, cells_getD _ _ (Nat.le_of_eq sized.symm), ← sized, take_length]

theorem fits_of_writes (length : 4 ≤ msg.dataLen)
    (reached : (writeRange msg).Reached table answers cfg)
    (limit : (writeRange msg).offset + (writeRange msg).count < fruEnd)
    (right : ∀ content, WriteRight table answers content msg) :
    (writeRange msg).place cfg + (writeRange msg).count ≤ cfg.addresses := by
  by_contra beyond
  have some := reached.2.2.1
  -- an EEPROM that does not hold the last byte that is written
  let last := (written msg).getD ((writeRange msg).count - 1) 0
  let content : Content := fun _ _ => last + 1
  have writes := @storageWriteFruidData_reached table answers content msg cfg length reached limit
  obtain ⟨other, found, -, -, exact⟩ := (right content).exact writes.1
  rw [reached.2.1] at found
  cases found
  rw [writes.2.2] at exact
  have same := congrFun (congrFun exact cfg.eeprom)
    ((writeRange msg).place cfg + ((writeRange msg).count - 1))
  rw [update_self, update_self,
    writeBytes_outside _ _ (address_lt cfg _) (by omega),
    overwrite_inside _ _ (Nat.sub_lt some Nat.one_pos)] at same
  have changed : last + 1 ≠ last := by
    intro equal
    have numbers := congrArg UInt8.toNat equal
    rw [UInt8.toNat_add] at numbers
    have one : (1 : UInt8).toNat = 1 := rfl
    omega
  exact changed same

/-- Requests to write are right exactly when the limit is the end of the area and the area has
addresses. -/
theorem writeRight_iff (table : FruTable) (answers : BusAnswers) (msg : HandlerMsg) :
    (∀ content, WriteRight table answers content msg) ↔
      ∀ cfg, 4 ≤ msg.dataLen → (writeRange msg).Reached table answers cfg →
        (writeRange msg).Agrees ((writeRange msg).offset + (writeRange msg).count < fruEnd)
          cfg := by
  constructor
  · intro right cfg length reached
    have accepted := (right fun _ _ => 0).accepted cfg length reached
    have limited : (writeRange msg).Inside cfg →
        (writeRange msg).offset + (writeRange msg).count < fruEnd := by
      intro inside
      rcases storageWriteFruidData_cases table answers (fun _ _ => 0) msg with
        ⟨refused, -⟩ | ⟨_, -, -, limit⟩
      · exact absurd (accepted inside) refused
      · exact limit
    refine ⟨⟨limited, ?_⟩, fun inside => fits_of_writes length reached (limited inside) right⟩
    intro limit
    have writes := @storageWriteFruidData_reached table answers (fun _ _ => 0) msg cfg length
      reached limit
    obtain ⟨other, found, inside, -⟩ := (right fun _ _ => 0).exact writes.1
    rw [reached.2.1] at found
    cases found
    exact inside
  · intro agrees content
    rcases storageWriteFruidData_cases table answers content msg with
      ⟨refused, unchanged⟩ | ⟨cfg, length, reached, limit⟩
    · exact ⟨fun success => absurd success refused,
        fun cfg length reached inside => (storageWriteFruidData_reached length reached
          ((agrees cfg length reached).1.mp inside)).1,
        fun _ => ⟨if_neg refused, unchanged⟩, fun success => absurd success refused⟩
    · have inside := (agrees cfg length reached).1.mpr limit
      have fits := (agrees cfg length reached).2 inside
      have placed := address_eq reached.2.2.1 fits
      have sized : (written msg).length = (writeRange msg).count := length_cells _ _
      obtain ⟨success, answer, changes⟩ :=
        @storageWriteFruidData_reached table answers content msg cfg length reached limit
      rw [placed, writeBytes_eq _ (sized ▸ fits), sized] at changes
      constructor
      · exact fun _ => ⟨cfg, reached.2.1, inside, answer, changes⟩
      · exact fun _ _ _ _ => success
      · exact fun refused => absurd success refused
      · intro _ again stack request whole same read
        obtain ⟨other, -, readable, within⟩ := storageReadFruidData_success read
        have reads := (@storageReadFruidData_reached table again stack
          (storageWriteFruidData table answers content msg).2 request other whole readable within).2
        have known := readable.2.1
        rw [same, reached.2.1] at known
        cases known
        rw [reads, same, placed, changes, update_self, readBytes_eq _ fits, written_read]

/-- A read and a write of the inventory are right on every content exactly if the lengths asked for
agree with the bound that the code puts on them. -/
theorem requestsRight_iff (table : FruTable) (answers : BusAnswers) (msg : HandlerMsg) :
    ((∀ stack content, ReadRight table answers stack content msg) ↔
      ∀ cfg, msg.dataLen = 4 → (readRange msg).Reached table answers cfg →
        (readRange msg).Agrees ((readRange msg).offset + (readRange msg).count ≤ fruEnd) cfg) ∧
    ((∀ content, WriteRight table answers content msg) ↔
      ∀ cfg, 4 ≤ msg.dataLen → (writeRange msg).Reached table answers cfg →
        (writeRange msg).Agrees ((writeRange msg).offset + (writeRange msg).count < fruEnd) cfg) :=
  ⟨readRight_iff table answers msg, writeRight_iff table answers msg⟩

def wholeArea : EepromCfg := ⟨.nvAtmel24C128, 0, ⟨0, 0x50, none⟩, 0, 1024, false⟩

/-- A write of the last byte of an area of 1024 bytes is refused. -/
theorem lastByte_not_written :
    ¬ WriteRight ⟨[wholeArea], 1⟩ ⟨true, fun _ => true, fun _ => true⟩ (fun _ _ => 0)
      (HandlerMsg.copied ⟨fun _ => 0, 4, .invalidCmd⟩ [0, 0xFF, 0x03, 0x5A]) := by
  intro right
  have accepted := right.accepted wholeArea (by decide) ⟨by decide, by decide, by decide, by decide,
    by decide⟩ (by unfold FruRange.Inside; decide)
  cases accepted

end Commands

end OpenBic.Fru
