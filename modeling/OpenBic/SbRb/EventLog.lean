import OpenBic.Library.Machine
import OpenBic.Library.Ring
import Mathlib.Data.List.Range

/-!
# The event log of sb-rb

`plat_log.c` of the platform. Records are counted up in their indices and written into a ring in the
EEPROM; after a reboot the place in the ring comes from the largest index. A cache of codes decides
which calls are recorded.
-/

namespace OpenBic.SbRb.EventLog

open Function Library Library.Machine Library.Ring

/-! ## The code -/

def logMaxIndex : Nat := 0x0FFF

def logMaxNum : Nat := 50

def fruLogStart : Nat := 0x0000

structure PlatErrLogMapping where
  index : Nat
  errCode : UInt16
  sysTime : UInt64
  errorData : Vector UInt8 20
  cpldDump : Vector UInt8 72
  reserved : Vector UInt8 24

/-- `sizeof(plat_err_log_mapping)`. -/
def mappingSize : Nat := 128

def blank : PlatErrLogMapping :=
  ⟨0xFFFF, 0xFFFF, 0xFFFFFFFFFFFFFFFF, Vector.replicate 20 0xFF, Vector.replicate 72 0xFF,
    Vector.replicate 24 0xFF⟩

/-- The errors that the ASIC reports from its remote sensors. -/
inductive RemoteError where
  | hamsa
  | medha0
  | medha1
deriving DecidableEq

def remoteError (errorCode : UInt16) : Option RemoteError :=
  if errorCode = 0x86A8 then some .hamsa
  else if errorCode = 0x83A8 then some .medha0
  else if errorCode = 0x81A8 then some .medha1
  else none

/-- What `error_log_event` is called with, and what it reads of the platform. -/
structure Call where
  errorCode : UInt16
  /-- `LOG_ASSERT`, or `LOG_DEASSERT`. -/
  asserted : Bool
  /-- `k_uptime_get` where the code is found in the cache. -/
  matchTime : Nat
  /-- `k_uptime_get` where the times of remote errors are compared. -/
  currentTime : Nat
  /-- `k_uptime_get` for the record. -/
  sysTime : Nat
  /-- What `get_error_data` makes of the bytes that are there, where it succeeds. -/
  getErrorData : Vector UInt8 20 → Option (Vector UInt8 20)
  /-- What `plat_read_cpld` makes of the bytes that are there. -/
  readCpld : Vector UInt8 72 → Vector UInt8 72

/-- What decides which calls are recorded: `err_code_caches` and the last times of remote errors. -/
structure Filter where
  errCodeCaches : Nat → UInt16
  lastTimeStamp : RemoteError → Nat

/-- The first place in the cache with a code. The place zero is not used. -/
def Filter.find (filter : Filter) (errorCode : UInt16) : Option Nat :=
  (List.range' 1 199).find? fun i => filter.errCodeCaches i == errorCode

def Filter.cache (filter : Filter) (place : Nat) (errorCode : UInt16) : Filter :=
  { filter with errCodeCaches := update filter.errCodeCaches place errorCode }

def Filter.stamp (filter : Filter) (remote : RemoteError) (time : Nat) : Filter :=
  { filter with lastTimeStamp := update filter.lastTimeStamp remote time }

/-- The comparison of the times of a remote error: whether it is recorded. -/
def Filter.remoteTodo (filter : Filter) (remote : RemoteError) (currentTime : Nat) :
    Filter × Bool :=
  let last := min (filter.lastTimeStamp remote) currentTime
  if 10000 < currentTime - last then (filter.stamp remote currentTime, true)
  else (filter.stamp remote last, false)

def Filter.addNew (filter : Filter) (errorCode : UInt16) : Filter × Bool :=
  match filter.find 0 with
  | some place => (filter.cache place errorCode, true)
  | none => (filter, false)

/-- `error_log_event` up to the record: `log_todo`. -/
def Filter.logTodo (filter : Filter) (call : Call) : Filter × Bool :=
  match filter.find call.errorCode, call.asserted, remoteError call.errorCode with
  -- a code that is found is taken out, or it is known already
  | some place, false, _ => (filter.cache place 0, false)
  | some _, true, none => (filter, false)
  | some _, true, some remote =>
    (filter.stamp remote call.matchTime).remoteTodo remote call.currentTime
  -- a remote error is recorded by its time alone, and other errors when they are asserted
  | none, _, some remote => filter.remoteTodo remote call.currentTime
  | none, true, none => filter.addNew call.errorCode
  | none, false, none => (filter, false)

/-- The log in memory, and what the EEPROM has, in records by their address: the log reads and writes
it by whole records only. -/
structure Log where
  filter : Filter
  errLogData : Nat → PlatErrLogMapping
  nextLogPosition : Nat
  nextIndex : Nat
  logNum : Nat
  eeprom : Nat → PlatErrLogMapping

def Call.record (call : Call) (index : Nat) (before : PlatErrLogMapping) : PlatErrLogMapping :=
  { before with
    index := index
    errCode := call.errorCode
    sysTime := UInt64.ofNat call.sysTime
    errorData := (call.getErrorData before.errorData).getD (Vector.replicate 20 0)
    cpldDump := call.readCpld before.cpldDump }

/-- The address of a position, which is counted from one, in sixteen bits. -/
def writeAddress (fruCount : Nat) : Nat :=
  ((fruLogStart + ((fruCount : Int) - 1) * mappingSize) % 2 ^ 16).toNat

def positionAfter (position : Nat) : Nat :=
  let next := position % logMaxNum + 1
  if next = logMaxNum then 1 else next

def indexAfter (index : Nat) : Nat := index % logMaxIndex + 1

def Log.entry (log : Log) (call : Call) : PlatErrLogMapping :=
  call.record log.nextIndex (log.errLogData log.nextLogPosition)

/-- `error_log_event` from the record on, and whether its write succeeds. -/
def Log.store (log : Log) (call : Call) (write : Bool) : Log :=
  { log with
    errLogData := update log.errLogData log.nextLogPosition (log.entry call)
    nextLogPosition := positionAfter log.nextLogPosition
    nextIndex := indexAfter log.nextIndex
    logNum := if logMaxNum < log.logNum + 1 then logMaxNum else log.logNum + 1
    eeprom :=
      if write then update log.eeprom (writeAddress log.nextLogPosition) (log.entry call)
      else log.eeprom }

def Log.errorLogEvent (log : Log) (call : Call) (write : Bool) : Log :=
  let (filter, todo) := log.filter.logTodo call
  if todo then { log with filter := filter }.store call write else { log with filter := filter }

/-- A turn of `reset_error_log_event`. -/
def Log.resetTurn (errType : UInt8) (calls : Nat → Call) (write : Nat → Bool) (log : Log) (i : Nat) :
    Log :=
  let errorCode := log.filter.errCodeCaches i
  if (errorCode >>> 13).toUInt8 = errType then
    let reset := log.errorLogEvent { calls i with errorCode := errorCode, asserted := false } (write i)
    { reset with filter := reset.filter.cache i 0 }
  else log

/-- `reset_error_log_event`. The calls have what is read of the platform. -/
def Log.resetErrorLogEvent (log : Log) (errType : UInt8) (calls : Nat → Call)
    (write : Nat → Bool) : Log :=
  (List.range' 1 199).foldl (Log.resetTurn errType calls write) log

def Log.platLogGetNum (log : Log) : Nat := log.logNum

def slotAddress (slot : Nat) : Nat := fruLogStart + slot * mappingSize

def PlatErrLogMapping.valid (record : PlatErrLogMapping) : Bool :=
  record.index != 0xFFFF && record.index ≤ logMaxIndex

/-- What `find_last_log_position` has found. -/
structure Scan where
  maxIndex : Nat
  lastPosition : Nat
  allEmpty : Bool
  logNum : Nat

/-- A turn of the loop of `find_last_log_position`. -/
def Scan.turn (reads : Nat → Bool) (eeprom : Nat → PlatErrLogMapping) (scan : Scan) (i : Nat) :
    Scan :=
  let entry := eeprom (slotAddress i)
  if reads i && entry.valid then
    { maxIndex := if scan.maxIndex < entry.index then entry.index else scan.maxIndex
      lastPosition := if scan.maxIndex < entry.index then i + 1 else scan.lastPosition
      allEmpty := false
      logNum := scan.logNum + 1 }
  else scan

/-- The loop of `find_last_log_position`. -/
def scanSlots (reads : Nat → Bool) (eeprom : Nat → PlatErrLogMapping) (count : Nat) : Scan :=
  (List.range count).foldl (Scan.turn reads eeprom) ⟨0, 0, true, 0⟩

/-- `find_last_log_position`, where `log_num` is zero before. -/
def Log.findLastLogPosition (log : Log) (reads : Nat → Bool) : Log :=
  let scan := scanSlots reads log.eeprom logMaxNum
  { log with
    nextLogPosition := if scan.allEmpty then 1 else positionAfter scan.lastPosition
    nextIndex := if scan.allEmpty then 1 else indexAfter scan.maxIndex
    logNum := scan.logNum }

def Log.powerUp (log : Log) : Log where
  filter := ⟨fun _ => 0, fun _ => 0⟩
  errLogData := fun _ => ⟨0, 0, 0, Vector.replicate 20 0, Vector.replicate 72 0,
    Vector.replicate 24 0⟩
  nextLogPosition := 0
  nextIndex := 0
  logNum := 0
  eeprom := log.eeprom

/-- `init_load_eeprom_log`, with the reads that succeed in its loop and in the search. -/
def Log.initLoadEepromLog (log : Log) (loads reads : Nat → Bool) : Log :=
  { log with errLogData := fun i =>
      if i < logMaxNum ∧ loads i = true then log.eeprom (slotAddress i) else blank }
    |>.findLastLogPosition reads

/-! ## What is claimed -/

/-- What happens, with the accesses to the EEPROM that succeed. -/
inductive Op where
  | event (call : Call) (write : Bool)
  | reset (errType : UInt8) (calls : Nat → Call) (writes : Nat → Bool)
  | reboot (loads reads : Nat → Bool)
  | getNum

def Op.run (log : Log) : Op → Log
  | .event call write => log.errorLogEvent call write
  | .reset errType calls writes => log.resetErrorLogEvent errType calls writes
  | .reboot loads reads => log.powerUp.initLoadEepromLog loads reads
  | .getNum => log

/-- The EEPROM takes every access of the operation. -/
def Op.Succeeds : Op → Prop
  | .event _ write => write = true
  | .reset _ _ writes => ∀ i, writes i = true
  | .reboot loads reads => ∀ slot < logMaxNum, loads slot = true ∧ reads slot = true
  | .getNum => True

def ringSlots : Nat := logMaxNum - 1

def Log.recorded (log : Log) : Op → Option PlatErrLogMapping
  | .event call _ => if (log.filter.logTodo call).2 then some (log.entry call) else none
  | _ => none

/-- The records in the order in which they were stored, beside the log. -/
abbrev Recorded := List PlatErrLogMapping × Log

def step (state : Recorded) (op : Op) : Option Recorded :=
  some (state.1 ++ (state.2.recorded op).toList, op.run state.2)

/-- A record is stored over an empty slot or, when none is left, over the oldest record, and it has
the index that follows the one of the newest record. -/
def Stores (history : List PlatErrLogMapping) (before after : Nat → PlatErrLogMapping)
    (record : PlatErrLogMapping) : Prop :=
  record.index = history.getLast?.elim 1 (fun newest => indexAfter newest.index) ∧
    ∃ slot < ringSlots, after = update before (slotAddress slot) record ∧
      (before (slotAddress slot) = blank ∨
        (∀ other < ringSlots, before (slotAddress other) ≠ blank) ∧
          history[history.length - ringSlots]? = some (before (slotAddress slot)))

def validRecords (eeprom : Nat → PlatErrLogMapping) : Nat :=
  (List.range logMaxNum).countP fun slot => (eeprom (slotAddress slot)).valid

/-- What an operation does right: records are stored in their places, a reboot goes on where the log
was, and the number of records is that of the valid ones. -/
def Right (state : Recorded) (op : Op) : Prop :=
  let before := state.2
  let after := op.run before
  match op with
  | .event _ _ =>
    match before.recorded op with
    | some record => Stores state.1 before.eeprom after.eeprom record
    | none => after.eeprom = before.eeprom
  | .reset _ _ _ => after.eeprom = before.eeprom
  | .reboot _ _ =>
    after.nextLogPosition = before.nextLogPosition ∧ after.nextIndex = before.nextIndex
  | .getNum => before.platLogGetNum = validRecords before.eeprom

/-- The condition: at a reboot no record has a larger index than the newest one, and the number of
records is not asked for once it has run up to `LOG_MAX_NUM`. -/
def Guarded (state : Recorded) : Op → Prop
  | .reboot _ _ => state.2.nextIndex = 1 ∨ ∀ slot < logMaxNum,
      (state.2.eeprom (slotAddress slot)).valid = true →
        (state.2.eeprom (slotAddress slot)).index < state.2.nextIndex
  | .getNum => state.2.logNum ≠ logMaxNum
  | _ => True

/-- The log after the first start, with an EEPROM that has no records. -/
def started (log : Log) (loads reads : Nat → Bool) : Recorded :=
  ([], { log with eeprom := fun _ => blank }.powerUp.initLoadEepromLog loads reads)

/-! ## Places and indices -/

/-- The index of the record at a place: indices are counted up from one, and again. -/
def indexAt (place : Nat) : Nat := place % logMaxIndex + 1

theorem writeAddress_succ {slot : Nat} (inside : slot < logMaxNum) :
    writeAddress (slot + 1) = slotAddress slot := by
  unfold logMaxNum at inside
  unfold writeAddress slotAddress fruLogStart mappingSize
  omega

theorem slotAddress_inj {slot other : Nat} :
    slotAddress slot = slotAddress other ↔ slot = other := by
  unfold slotAddress mappingSize
  omega

theorem positionAfter_eq (place : Nat) :
    positionAfter (place % ringSlots + 1) = (place + 1) % ringSlots + 1 := by
  unfold positionAfter ringSlots logMaxNum
  dsimp only
  split <;> omega

theorem indexAfter_indexAt (place : Nat) : indexAfter (indexAt place) = indexAt (place + 1) := by
  unfold indexAfter indexAt logMaxIndex
  omega

theorem indexAt_le (place : Nat) : indexAt place ≤ logMaxIndex := by
  unfold indexAt logMaxIndex
  omega

theorem indexAt_ne {first second : Nat} (before : first < second)
    (near : second < first + ringSlots) : indexAt first ≠ indexAt second := by
  unfold indexAt logMaxIndex
  unfold ringSlots logMaxNum at near
  omega

theorem valid_blank : blank.valid = false := rfl

theorem valid_of_le {record : PlatErrLogMapping} (counted : record.index ≤ logMaxIndex) :
    record.valid = true := by
  have other : record.index ≠ 0xFFFF := by
    unfold logMaxIndex at counted
    omega
  unfold PlatErrLogMapping.valid
  rw [bne_iff_ne.mpr other, Bool.true_and]
  exact decide_eq_true counted

/-! ## The search for the newest record -/

section Search

variable {reads : Nat → Bool} {eeprom : Nat → PlatErrLogMapping} {count : Nat}

theorem scanSlots_succ (reads : Nat → Bool) (eeprom : Nat → PlatErrLogMapping) (count : Nat) :
    scanSlots reads eeprom (count + 1) =
      Scan.turn reads eeprom (scanSlots reads eeprom count) count := by
  unfold scanSlots
  rw [List.range_succ, List.foldl_append, List.foldl_cons, List.foldl_nil]

theorem turn_invalid (invalid : (eeprom (slotAddress count)).valid = false) (scan : Scan) :
    Scan.turn reads eeprom scan count = scan := by
  unfold Scan.turn
  dsimp only
  rw [invalid, Bool.and_false, if_neg Bool.false_ne_true]

theorem turn_valid (read : reads count = true)
    (valid : (eeprom (slotAddress count)).valid = true) (scan : Scan) :
    Scan.turn reads eeprom scan count =
      { maxIndex := if scan.maxIndex < (eeprom (slotAddress count)).index
          then (eeprom (slotAddress count)).index else scan.maxIndex
        lastPosition := if scan.maxIndex < (eeprom (slotAddress count)).index
          then count + 1 else scan.lastPosition
        allEmpty := false
        logNum := scan.logNum + 1 } := by
  unfold Scan.turn
  dsimp only
  rw [valid, read, Bool.and_true, if_pos rfl]

theorem scan_logNum (succeed : ∀ slot < count, reads slot = true) :
    (scanSlots reads eeprom count).logNum =
      (List.range count).countP fun slot => (eeprom (slotAddress slot)).valid := by
  induction count with
  | zero => rfl
  | succ count ih =>
    have before := ih fun slot below => succeed slot (Nat.lt_succ_of_lt below)
    rw [scanSlots_succ, List.range_succ, List.countP_append, List.countP_singleton, ← before]
    cases valid : (eeprom (slotAddress count)).valid with
    | false =>
      rw [turn_invalid valid, if_neg Bool.false_ne_true]
      rfl
    | true =>
      rw [turn_valid (succeed count (Nat.lt_succ_self count)) valid, if_pos rfl]

theorem scan_nothing (nothing : ∀ slot < count, (eeprom (slotAddress slot)).valid = false) :
    scanSlots reads eeprom count = ⟨0, 0, true, 0⟩ := by
  induction count with
  | zero => rfl
  | succ count ih =>
    rw [scanSlots_succ, turn_invalid (nothing count (Nat.lt_succ_self count))]
    exact ih fun slot below => nothing slot (Nat.lt_succ_of_lt below)

theorem scan_finds (succeed : ∀ slot < count, reads slot = true) {slot : Nat}
    (inside : slot < count) (valid : (eeprom (slotAddress slot)).valid = true) :
    (scanSlots reads eeprom count).allEmpty = false ∧
      (eeprom (slotAddress slot)).index ≤ (scanSlots reads eeprom count).maxIndex := by
  induction count with
  | zero => exact absurd inside (Nat.not_lt_zero slot)
  | succ count ih =>
    have here := succeed count (Nat.lt_succ_self count)
    have before := ih fun other below => succeed other (Nat.lt_succ_of_lt below)
    rw [scanSlots_succ]
    rcases Nat.lt_succ_iff_lt_or_eq.mp inside with below | rfl
    · have found := before below
      cases last : (eeprom (slotAddress count)).valid with
      | false =>
        rw [turn_invalid last]
        exact found
      | true =>
        rw [turn_valid here last]
        refine ⟨rfl, ?_⟩
        dsimp only
        split <;> omega
    · rw [turn_valid here valid]
      refine ⟨rfl, ?_⟩
      dsimp only
      split <;> omega

theorem scan_below (succeed : ∀ slot < count, reads slot = true) {bound : Nat} (some : 0 < bound)
    (below : ∀ slot < count, (eeprom (slotAddress slot)).valid = true →
      (eeprom (slotAddress slot)).index < bound) :
    (scanSlots reads eeprom count).maxIndex < bound := by
  induction count with
  | zero => exact some
  | succ count ih =>
    have before := ih (fun slot within => succeed slot (Nat.lt_succ_of_lt within))
      fun slot within => below slot (Nat.lt_succ_of_lt within)
    rw [scanSlots_succ]
    cases last : (eeprom (slotAddress count)).valid with
    | false =>
      rw [turn_invalid last]
      exact before
    | true =>
      have here := below count (Nat.lt_succ_self count) last
      rw [turn_valid (succeed count (Nat.lt_succ_self count)) last]
      split <;> omega

/-- The search finds the record whose index is larger than those of all other valid records. -/
theorem scan_newest (succeed : ∀ slot < count, reads slot = true) {newest : Nat}
    (inside : newest < count) (valid : (eeprom (slotAddress newest)).valid = true)
    (some : 0 < (eeprom (slotAddress newest)).index)
    (largest : ∀ slot < count, slot ≠ newest → (eeprom (slotAddress slot)).valid = true →
      (eeprom (slotAddress slot)).index < (eeprom (slotAddress newest)).index) :
    (scanSlots reads eeprom count).maxIndex = (eeprom (slotAddress newest)).index ∧
      (scanSlots reads eeprom count).lastPosition = newest + 1 := by
  induction count with
  | zero => exact absurd inside (Nat.not_lt_zero newest)
  | succ count ih =>
    have here := succeed count (Nat.lt_succ_self count)
    have earlier : ∀ slot < count, reads slot = true := fun slot within =>
      succeed slot (Nat.lt_succ_of_lt within)
    rw [scanSlots_succ]
    rcases Nat.lt_succ_iff_lt_or_eq.mp inside with below | rfl
    · have found := ih earlier below fun slot within => largest slot (Nat.lt_succ_of_lt within)
      cases last : (eeprom (slotAddress count)).valid with
      | false =>
        rw [turn_invalid last]
        exact found
      | true =>
        have smaller := largest count (Nat.lt_succ_self count) (Nat.ne_of_gt below) last
        rw [turn_valid here last]
        rw [if_neg (by omega), if_neg (by omega)]
        exact found
    · have smaller := scan_below earlier some fun slot within =>
        largest slot (Nat.lt_succ_of_lt within) (Nat.ne_of_lt within)
      rw [turn_valid here valid]
      rw [if_pos smaller, if_pos smaller]
      exact ⟨rfl, rfl⟩

end Search

/-! ## The invariant -/

/-- The ring in the EEPROM has the latest records, and the log is where they end. -/
structure Keeps (state : Recorded) : Prop where
  recent : Recent ringSlots state.1 fun slot => state.2.eeprom (slotAddress slot)
  counted : ∀ place record, state.1[place]? = some record → record.index = indexAt place
  others : ∀ slot < logMaxNum, min state.1.length ringSlots ≤ slot →
    state.2.eeprom (slotAddress slot) = blank
  position : state.2.nextLogPosition = state.1.length % ringSlots + 1
  index : state.2.nextIndex = indexAt state.1.length
  num : state.2.logNum = min state.1.length ringSlots ∨
    ringSlots < state.1.length ∧ state.2.logNum = logMaxNum

variable {state : Recorded}

theorem Keeps.slot (keeps : Keeps state) (place : Nat) (inside : place < state.1.length)
    (near : state.1.length ≤ place + ringSlots) :
    state.1[place]? = some (state.2.eeprom (slotAddress (place % ringSlots))) := by
  have found := List.getElem?_eq_getElem inside
  have same : state.2.eeprom (slotAddress (place % ringSlots)) = _ :=
    keeps.recent place _ found near
  rw [same]
  exact found

theorem Keeps.slot_index (keeps : Keeps state) (place : Nat) (inside : place < state.1.length)
    (near : state.1.length ≤ place + ringSlots) :
    (state.2.eeprom (slotAddress (place % ringSlots))).index = indexAt place :=
  keeps.counted place _ (keeps.slot place inside near)

theorem place_of_slot {length slot : Nat} (used : slot < min length ringSlots) :
    ∃ place < length, length ≤ place + ringSlots ∧ place % ringSlots = slot := by
  refine ⟨length - 1 - (length - 1 - slot) % ringSlots, ?_⟩
  unfold ringSlots logMaxNum at used ⊢
  omega

theorem Keeps.used_index (keeps : Keeps state) (slot : Nat)
    (used : slot < min state.1.length ringSlots) :
    ∃ place < state.1.length, state.1.length ≤ place + ringSlots ∧ place % ringSlots = slot ∧
      (state.2.eeprom (slotAddress slot)).index = indexAt place := by
  obtain ⟨place, inside, near, same⟩ := place_of_slot used
  have index := keeps.slot_index place inside near
  rw [same] at index
  exact ⟨place, inside, near, same, index⟩

theorem Keeps.valid (keeps : Keeps state) {slot : Nat} (inside : slot < logMaxNum) :
    (state.2.eeprom (slotAddress slot)).valid = decide (slot < min state.1.length ringSlots) := by
  by_cases used : slot < min state.1.length ringSlots
  · obtain ⟨place, -, -, -, index⟩ := keeps.used_index slot used
    rw [decide_eq_true used]
    apply valid_of_le
    rw [index]
    exact indexAt_le place
  · rw [keeps.others slot inside (Nat.le_of_not_lt used), decide_eq_false used]
    exact valid_blank

theorem Keeps.used (keeps : Keeps state) {slot : Nat} (inside : slot < logMaxNum)
    (valid : (state.2.eeprom (slotAddress slot)).valid = true) :
    slot < min state.1.length ringSlots := by
  rw [keeps.valid inside] at valid
  exact of_decide_eq_true valid

theorem Keeps.validRecords (keeps : Keeps state) :
    validRecords state.2.eeprom = min state.1.length ringSlots := by
  have parts : logMaxNum = min state.1.length ringSlots +
      (logMaxNum - min state.1.length ringSlots) := by
    unfold ringSlots logMaxNum
    omega
  have first : (List.range (min state.1.length ringSlots)).countP
      (fun slot => (state.2.eeprom (slotAddress slot)).valid) = min state.1.length ringSlots := by
    rw [List.countP_eq_length.mpr, List.length_range]
    intro slot there
    have used := List.mem_range.mp there
    rw [keeps.valid (by omega)]
    exact decide_eq_true used
  have second : ((List.range (logMaxNum - min state.1.length ringSlots)).map
      (min state.1.length ringSlots + ·)).countP
        (fun slot => (state.2.eeprom (slotAddress slot)).valid) = 0 := by
    rw [List.countP_eq_zero]
    intro slot there
    obtain ⟨more, within, rfl⟩ := List.mem_map.mp there
    have inside := List.mem_range.mp within
    rw [keeps.others _ (by omega) (Nat.le_add_right _ _), valid_blank]
    exact Bool.false_ne_true
  unfold EventLog.validRecords
  rw [parts, List.range_add, List.countP_append, first, second, Nat.add_zero]

/-! ## The calls -/

theorem Keeps.refilter (keeps : Keeps state) (filter : Filter) :
    Keeps (state.1, { state.2 with filter := filter }) :=
  ⟨keeps.recent, keeps.counted, keeps.others, keeps.position, keeps.index, keeps.num⟩

theorem Keeps.writeAddress (keeps : Keeps state) :
    writeAddress state.2.nextLogPosition = slotAddress (state.1.length % ringSlots) := by
  have slot : state.1.length % ringSlots < logMaxNum :=
    Nat.lt_of_lt_of_le (Nat.mod_lt _ (by decide)) (by decide)
  rw [keeps.position, writeAddress_succ slot]

theorem Keeps.stores (keeps : Keeps state) (call : Call) :
    Stores state.1 state.2.eeprom (state.2.store call true).eeprom (state.2.entry call) := by
  have slot : state.1.length % ringSlots < ringSlots := Nat.mod_lt _ (by decide)
  constructor
  · change state.2.nextIndex = _
    rw [keeps.index]
    cases last : state.1.getLast? with
    | none =>
      rw [List.getLast?_eq_none_iff.mp last]
      rfl
    | some newest =>
      have inside : 0 < state.1.length := by
        apply List.length_pos_iff.mpr
        intro nothing
        rw [nothing] at last
        exact absurd last (by simp)
      rw [List.getLast?_eq_getElem?] at last
      change _ = indexAfter newest.index
      rw [keeps.counted _ newest last, indexAfter_indexAt, Nat.sub_add_cancel inside]
  · refine ⟨state.1.length % ringSlots, slot, ?_, ?_⟩
    · rw [← keeps.writeAddress]
      rfl
    · rcases Nat.lt_or_ge state.1.length ringSlots with part | full
      · apply Or.inl
        have least : min state.1.length ringSlots ≤ state.1.length := Nat.min_le_left _ _
        rw [Nat.mod_eq_of_lt part]
        exact keeps.others _ (Nat.lt_trans part (by decide)) least
      · apply Or.inr
        constructor
        · intro other inside same
          obtain ⟨place, -, -, -, index⟩ := keeps.used_index (other) (by omega)
          have counted := indexAt_le place
          rw [same] at index
          rw [← index] at counted
          exact absurd counted (by decide)
        · have oldest := keeps.slot (state.1.length - ringSlots)
            (by unfold ringSlots logMaxNum at full ⊢; omega) (by omega)
          rw [← Nat.mod_eq_sub_mod full] at oldest
          exact oldest

/-- After a record is stored there is one record more. -/
theorem Keeps.store (keeps : Keeps state) (call : Call) :
    Keeps (state.1 ++ [state.2.entry call], state.2.store call true) := by
  have after : (state.2.store call true).eeprom = update state.2.eeprom
      (slotAddress (state.1.length % ringSlots)) (state.2.entry call) := by
    rw [← keeps.writeAddress]
    rfl
  have longer : (state.1 ++ [state.2.entry call]).length = state.1.length + 1 := List.length_append
  have slot : state.1.length % ringSlots < ringSlots := Nat.mod_lt _ (by decide)
  constructor
  · have written := keeps.recent.put (state.2.entry call)
    have same : (fun slot => (state.2.store call true).eeprom (slotAddress slot)) =
        put ringSlots (fun slot => state.2.eeprom (slotAddress slot)) state.1.length
          (state.2.entry call) := by
      funext other
      rw [after, Ring.put]
      by_cases here : other = state.1.length % ringSlots
      · rw [here, update_self, update_self]
      · rw [update_of_ne here,
          update_of_ne (fun equal => here (slotAddress_inj.mp equal))]
    rw [same]
    exact written
  · intro place record found
    rcases Nat.lt_trichotomy place state.1.length with before | rfl | behind
    · rw [List.getElem?_append_left before] at found
      exact keeps.counted place record found
    · rw [List.getElem?_concat_length] at found
      rw [← Option.some.inj found, ← keeps.index]
      rfl
    · rw [List.getElem?_eq_none (by rw [longer]; omega)] at found
      cases found
  · intro other inside unused
    dsimp only at unused ⊢
    have least : state.1.length % ringSlots ≤ state.1.length := Nat.mod_le _ _
    have apart : other ≠ state.1.length % ringSlots := by omega
    rw [after, update_of_ne (fun equal => apart (slotAddress_inj.mp equal))]
    exact keeps.others other inside (by omega)
  · rw [longer, ← positionAfter_eq, ← keeps.position]
    rfl
  · rw [longer, ← indexAfter_indexAt, ← keeps.index]
    rfl
  · dsimp only
    have num := keeps.num
    change (if logMaxNum < state.2.logNum + 1 then logMaxNum else state.2.logNum + 1) = _ ∨ _ ∧
      (if logMaxNum < state.2.logNum + 1 then logMaxNum else state.2.logNum + 1) = _
    unfold ringSlots logMaxNum at num ⊢
    split <;> omega

theorem errorLogEvent_todo {log : Log} {call : Call} (todo : (log.filter.logTodo call).2 = true)
    (write : Bool) : log.errorLogEvent call write =
      { log with filter := (log.filter.logTodo call).1 }.store call write := by
  unfold Log.errorLogEvent
  dsimp only
  rw [if_pos todo]

theorem errorLogEvent_skip {log : Log} {call : Call} (skip : (log.filter.logTodo call).2 = false)
    (write : Bool) : log.errorLogEvent call write =
      { log with filter := (log.filter.logTodo call).1 } := by
  unfold Log.errorLogEvent
  dsimp only
  rw [skip, if_neg Bool.false_ne_true]

theorem recorded_todo {log : Log} {call : Call} (todo : (log.filter.logTodo call).2 = true)
    (write : Bool) : log.recorded (.event call write) = some (log.entry call) := by
  change (if (log.filter.logTodo call).2 then some (log.entry call) else none) = _
  rw [todo, if_pos rfl]

theorem recorded_skip {log : Log} {call : Call} (skip : (log.filter.logTodo call).2 = false)
    (write : Bool) : log.recorded (.event call write) = none := by
  change (if (log.filter.logTodo call).2 then some (log.entry call) else none) = _
  rw [skip, if_neg Bool.false_ne_true]

theorem logTodo_deassert (filter : Filter) (call : Call) {i : Nat} (inside : i ∈ List.range' 1 199)
    (cached : filter.errCodeCaches i = call.errorCode) (deasserted : call.asserted = false) :
    (filter.logTodo call).2 = false := by
  have found : (filter.find call.errorCode).isSome = true := by
    unfold Filter.find
    rw [List.find?_isSome]
    exact ⟨i, inside, beq_iff_eq.mpr cached⟩
  obtain ⟨place, found⟩ := Option.isSome_iff_exists.mp found
  unfold Filter.logTodo
  rw [found, deasserted]

theorem resetTurn_eq (errType : UInt8) (calls : Nat → Call) (writes : Nat → Bool) (log : Log) {i : Nat}
    (inside : i ∈ List.range' 1 199) :
    ∃ filter, log.resetTurn errType calls writes i = { log with filter := filter } := by
  unfold Log.resetTurn
  dsimp only
  split
  next same =>
    have skip := logTodo_deassert log.filter
      { calls i with errorCode := log.filter.errCodeCaches i, asserted := false }
      inside rfl rfl
    rw [errorLogEvent_skip skip]
    exact ⟨_, rfl⟩
  next other => exact ⟨log.filter, rfl⟩

theorem reset_eq (errType : UInt8) (calls : Nat → Call) (writes : Nat → Bool) (log : Log) :
    ∃ filter, log.resetErrorLogEvent errType calls writes = { log with filter := filter } := by
  suffices turns : ∀ places : List Nat, (∀ i ∈ places, i ∈ List.range' 1 199) → ∀ log : Log,
      ∃ filter, places.foldl (Log.resetTurn errType calls writes) log =
        { log with filter := filter } from turns _ (fun _ => id) log
  intro places inside
  induction places with
  | nil => exact fun log => ⟨log.filter, rfl⟩
  | cons i places ih =>
    intro log
    obtain ⟨filter, turn⟩ := resetTurn_eq errType calls writes log (inside i List.mem_cons_self)
    obtain ⟨last, rest⟩ := ih (fun other there => inside other (List.mem_cons_of_mem i there))
      { log with filter := filter }
    rw [List.foldl_cons, turn]
    exact ⟨last, rest⟩

/-! ## The reboot -/

section Reboot

variable {loads reads : Nat → Bool}

theorem boot_fields (log : Log) (loads reads : Nat → Bool) :
    (log.powerUp.initLoadEepromLog loads reads).eeprom = log.eeprom ∧
      (log.powerUp.initLoadEepromLog loads reads).logNum =
        (scanSlots reads log.eeprom logMaxNum).logNum ∧
      (log.powerUp.initLoadEepromLog loads reads).nextLogPosition =
        (if (scanSlots reads log.eeprom logMaxNum).allEmpty then 1
        else positionAfter (scanSlots reads log.eeprom logMaxNum).lastPosition) ∧
      (log.powerUp.initLoadEepromLog loads reads).nextIndex =
        (if (scanSlots reads log.eeprom logMaxNum).allEmpty then 1
        else indexAfter (scanSlots reads log.eeprom logMaxNum).maxIndex) :=
  ⟨rfl, rfl, rfl, rfl⟩

theorem Keeps.newest (keeps : Keeps state) (some : 0 < state.1.length) :
    (state.1.length - 1) % ringSlots < logMaxNum ∧
      (state.2.eeprom (slotAddress ((state.1.length - 1) % ringSlots))).valid = true ∧
      (state.2.eeprom (slotAddress ((state.1.length - 1) % ringSlots))).index =
        indexAt (state.1.length - 1) := by
  have slot : (state.1.length - 1) % ringSlots < ringSlots := Nat.mod_lt _ (by decide)
  have index := keeps.slot_index (state.1.length - 1) (by omega) (by omega)
  refine ⟨Nat.lt_trans slot (by decide), ?_, index⟩
  apply valid_of_le
  rw [index]
  exact indexAt_le _

theorem Keeps.largest (keeps : Keeps state) (some : 0 < state.1.length)
    (guarded : Guarded state (.reboot loads reads)) {slot : Nat} (inside : slot < logMaxNum)
    (other : slot ≠ (state.1.length - 1) % ringSlots)
    (valid : (state.2.eeprom (slotAddress slot)).valid = true) :
    (state.2.eeprom (slotAddress slot)).index < indexAt (state.1.length - 1) := by
  obtain ⟨place, before, near, same, index⟩ := keeps.used_index _ (keeps.used inside valid)
  have earlier : place < state.1.length - 1 := by
    rcases Nat.lt_or_ge place (state.1.length - 1) with below | last
    · exact below
    · have latest : place = state.1.length - 1 := by omega
      exact absurd (latest ▸ same.symm) other
  have differ : indexAt place ≠ indexAt (state.1.length - 1) := indexAt_ne earlier (by omega)
  have bound := indexAt_le place
  have next := indexAfter_indexAt (state.1.length - 1)
  rw [Nat.sub_add_cancel some, ← keeps.index] at next
  rcases guarded with first | below
  · -- the newest index is the last one that there is
    have last := indexAt_le (state.1.length - 1)
    have least : 0 < indexAt (state.1.length - 1) := Nat.succ_pos _
    unfold indexAfter at next
    unfold logMaxIndex at next bound last
    omega
  · have smaller := below slot inside valid
    rw [index, ← next] at smaller
    unfold indexAfter at smaller
    have small := Nat.mod_le (indexAt (state.1.length - 1)) logMaxIndex
    omega

/-- What the search finds where the condition holds: the log goes on where it was. -/
theorem Keeps.reboot_right (keeps : Keeps state)
    (succeeds : (Op.reboot loads reads).Succeeds) (guarded : Guarded state (.reboot loads reads)) :
    Right state (.reboot loads reads) := by
  have read : ∀ slot < logMaxNum, reads slot = true := fun slot inside => (succeeds slot inside).2
  obtain ⟨-, -, position, index⟩ := boot_fields state.2 loads reads
  rcases Nat.eq_zero_or_pos state.1.length with none | some
  · have nothing : ∀ slot < logMaxNum,
        (state.2.eeprom (slotAddress slot)).valid = false := by
      intro slot inside
      rw [keeps.others slot inside (by omega)]
      exact valid_blank
    constructor
    · change (state.2.powerUp.initLoadEepromLog loads reads).nextLogPosition = _
      rw [position, scan_nothing nothing, if_pos rfl, keeps.position, none]
      rfl
    · change (state.2.powerUp.initLoadEepromLog loads reads).nextIndex = _
      rw [index, scan_nothing nothing, if_pos rfl, keeps.index, none]
      rfl
  · obtain ⟨inside, valid, newest⟩ := keeps.newest some
    have found := scan_finds read inside valid
    have last := scan_newest read inside valid (by rw [newest]; exact Nat.succ_pos _) (by
      intro slot within other counted
      rw [newest]
      exact keeps.largest some guarded within other counted)
    constructor
    · change (state.2.powerUp.initLoadEepromLog loads reads).nextLogPosition = _
      rw [position, found.1, if_neg Bool.false_ne_true, last.2, positionAfter_eq,
        Nat.sub_add_cancel some, keeps.position]
    · change (state.2.powerUp.initLoadEepromLog loads reads).nextIndex = _
      rw [index, found.1, if_neg Bool.false_ne_true, last.1, newest, indexAfter_indexAt,
        Nat.sub_add_cancel some, keeps.index]

theorem Keeps.reboot_guarded (keeps : Keeps state)
    (succeeds : (Op.reboot loads reads).Succeeds) (right : Right state (.reboot loads reads)) :
    Guarded state (.reboot loads reads) := by
  have read : ∀ slot < logMaxNum, reads slot = true := fun slot inside => (succeeds slot inside).2
  obtain ⟨-, -, -, index⟩ := boot_fields state.2 loads reads
  have same : (state.2.powerUp.initLoadEepromLog loads reads).nextIndex = state.2.nextIndex :=
    right.2
  by_cases first : state.2.nextIndex = 1
  · exact .inl first
  · apply Or.inr
    intro slot inside valid
    have found := scan_finds read inside valid
    have bound : (scanSlots reads state.2.eeprom logMaxNum).maxIndex < logMaxIndex + 1 := by
      apply scan_below read (Nat.succ_pos _)
      intro other within counted
      obtain ⟨place, -, -, -, at_place⟩ := keeps.used_index _ (keeps.used within counted)
      rw [at_place]
      exact Nat.lt_succ_of_le (indexAt_le place)
    rw [index, found.1, if_neg Bool.false_ne_true] at same
    unfold indexAfter at same
    unfold logMaxIndex at same bound
    omega

theorem Keeps.reboot (keeps : Keeps state) (succeeds : (Op.reboot loads reads).Succeeds)
    (guarded : Guarded state (.reboot loads reads)) :
    Keeps (state.1, state.2.powerUp.initLoadEepromLog loads reads) := by
  have right := keeps.reboot_right succeeds guarded
  obtain ⟨eeprom, num, -, -⟩ := boot_fields state.2 loads reads
  constructor
  · exact keeps.recent
  · exact keeps.counted
  · exact keeps.others
  · exact right.1.trans keeps.position
  · exact right.2.trans keeps.index
  · apply Or.inl
    rw [num, scan_logNum (fun slot inside => (succeeds slot inside).2)]
    exact keeps.validRecords

end Reboot

/-! ## Runs -/

theorem keeps_started (log : Log) {loads reads : Nat → Bool}
    (succeed : (Op.reboot loads reads).Succeeds) : Keeps (started log loads reads) := by
  have blanks : Keeps ([], { log with
      eeprom := fun _ => blank, nextLogPosition := 1, nextIndex := 1, logNum := 0 }) := by
    constructor
    · exact recent_nil _ _
    · intro place record found
      cases found
    · exact fun _ _ _ => rfl
    · rfl
    · rfl
    · exact .inl rfl
  exact blanks.reboot succeed (.inl rfl)

theorem Keeps.getNum (keeps : Keeps state) : Guarded state .getNum ↔ Right state .getNum := by
  have num := keeps.num
  change state.2.logNum ≠ logMaxNum ↔ state.2.logNum = EventLog.validRecords state.2.eeprom
  rw [keeps.validRecords]
  unfold ringSlots logMaxNum at num ⊢
  omega

/-- An operation is right exactly if it meets the condition. -/
theorem Keeps.guarded_iff (keeps : Keeps state) {op : Op} (succeeds : op.Succeeds) :
    Guarded state op ↔ Right state op := by
  cases op with
  | event call write =>
    have writes : write = true := succeeds
    apply iff_of_true trivial
    cases todo : (state.2.filter.logTodo call).2 with
    | true =>
      have recorded := recorded_todo todo write
      unfold Right
      dsimp only
      rw [recorded, writes]
      change Stores state.1 state.2.eeprom (state.2.errorLogEvent call true).eeprom _
      rw [errorLogEvent_todo todo]
      exact keeps.stores call
    | false =>
      have recorded := recorded_skip todo write
      unfold Right
      dsimp only
      rw [recorded]
      change (state.2.errorLogEvent call write).eeprom = _
      rw [errorLogEvent_skip todo]
  | reset errType calls writes =>
    apply iff_of_true trivial
    obtain ⟨filter, same⟩ := reset_eq errType calls writes state.2
    change (state.2.resetErrorLogEvent errType calls writes).eeprom = _
    rw [same]
  | reboot loads reads => exact ⟨keeps.reboot_right succeeds, keeps.reboot_guarded succeeds⟩
  | getNum => exact keeps.getNum

/-- The invariant is kept by the operations that meet the condition. -/
theorem Keeps.step (keeps : Keeps state) {op : Op} (succeeds : op.Succeeds)
    (guarded : Guarded state op) {next : Recorded} (moved : step state op = some next) :
    Keeps next := by
  have after := Option.some.inj moved
  rw [← after]
  cases op with
  | event call write =>
    have writes : write = true := succeeds
    cases todo : (state.2.filter.logTodo call).2 with
    | true =>
      have recorded := recorded_todo todo write
      rw [recorded, writes]
      change Keeps (state.1 ++ [state.2.entry call], state.2.errorLogEvent call true)
      have stored := (keeps.refilter (state.2.filter.logTodo call).1).store call
      rw [errorLogEvent_todo todo]
      exact stored
    | false =>
      have recorded := recorded_skip todo write
      rw [recorded, Option.toList_none, List.append_nil]
      change Keeps (state.1, state.2.errorLogEvent call write)
      rw [errorLogEvent_skip todo]
      exact keeps.refilter _
  | reset errType calls writes =>
    obtain ⟨filter, same⟩ := reset_eq errType calls writes state.2
    change Keeps (state.1 ++ [], state.2.resetErrorLogEvent errType calls writes)
    rw [same, List.append_nil]
    exact keeps.refilter filter
  | reboot loads reads =>
    change Keeps (state.1 ++ [], state.2.powerUp.initLoadEepromLog loads reads)
    rw [List.append_nil]
    exact keeps.reboot succeeds guarded
  | getNum =>
    change Keeps (state.1 ++ [], state.2)
    rw [List.append_nil]
    exact keeps

/-- In every run of a log that began without records, all operations are right exactly if all of them
meet the condition. -/
theorem eventLog_right_iff (log : Log) (loads reads : Nat → Bool)
    (starts : (Op.reboot loads reads).Succeeds) (ops : List Op)
    (succeed : ∀ op ∈ ops, op.Succeeds) :
    Meets step Right (started log loads reads) ops ↔
      Meets step Guarded (started log loads reads) ops := by
  have same := Meets.congr_of_guarded
    (fun (keeps : Keeps _) succeeds guarded moved => keeps.step succeeds guarded moved)
    (fun keeps succeeds => keeps.guarded_iff succeeds) (keeps_started log starts) ops succeed
  exact same.symm

/-! ## A log that is full -/

def fresh : Log :=
  ⟨⟨fun _ => 0, fun _ => 0⟩, fun _ => blank, 0, 0, 0, fun _ => blank⟩

/-- An alarm of the remote sensor of HAMSA, eleven seconds behind the one before it. -/
def alarm (turn : Nat) : Call where
  errorCode := 0x86A8
  asserted := true
  matchTime := 11000 * (turn + 1)
  currentTime := 11000 * (turn + 1)
  sysTime := 11000 * (turn + 1)
  getErrorData := fun _ => none
  readCpld := fun dump => dump

def alarms (count : Nat) : List Op := (List.range count).map fun turn => .event (alarm turn) true

/-- An alarm is recorded, and one record is reported. -/
theorem eventLog_right_iff_alarm : Meets step Right (started fresh (fun _ => true) fun _ => true)
    [.event (alarm 0) true, .getNum] := by
  have succeed : ∀ op ∈ [Op.event (alarm 0) true, .getNum], op.Succeeds := by
    intro op there
    simp only [List.mem_cons, List.not_mem_nil, or_false] at there
    rcases there with rfl | rfl
    · rfl
    · trivial
  have same := eventLog_right_iff fresh (fun _ => true) (fun _ => true) (fun _ _ => ⟨rfl, rfl⟩) _
    succeed
  have number : (((started fresh (fun _ => true) fun _ => true).2.errorLogEvent (alarm 0)
      true).logNum != logMaxNum) = true := by
    decide +kernel
  exact same.mpr ⟨trivial, bne_iff_ne.mp number, trivial⟩

def alarmed (count : Nat) : Filter :=
  ⟨fun _ => 0, update (fun _ => 0) RemoteError.hamsa (11000 * count)⟩

theorem logTodo_alarm (count : Nat) :
    (alarmed count).logTodo (alarm count) = (alarmed (count + 1), true) := by
  have later : (alarmed count).remoteTodo .hamsa (11000 * (count + 1)) =
      (alarmed (count + 1), true) := by
    unfold Filter.remoteTodo Filter.stamp alarmed
    dsimp only
    rw [update_self, if_pos (by omega), update_idem]
  change (match (alarmed count).find 0x86A8, true, some RemoteError.hamsa with
    | some place, false, _ => ((alarmed count).cache place 0, false)
    | some _, true, none => (alarmed count, false)
    | some _, true, some remote =>
      ((alarmed count).stamp remote (11000 * (count + 1))).remoteTodo remote (11000 * (count + 1))
    | none, _, some remote => (alarmed count).remoteTodo remote (11000 * (count + 1))
    | none, true, none => (alarmed count).addNew 0x86A8
    | none, false, none => (alarmed count, false)) = _
  exact later

/-- Alarms fill the log and then leave it full. -/
theorem alarms_run {start : Recorded} (keeps : Keeps start) (first : start.2.filter = alarmed 0)
    (empty : start.2.logNum = 0) (count : Nat) :
    ∃ final, run step start (alarms count) = some final ∧ Keeps final ∧
      final.2.filter = alarmed count ∧ final.2.logNum = min count logMaxNum := by
  induction count with
  | zero => exact ⟨start, rfl, keeps, first, empty⟩
  | succ count ih =>
    obtain ⟨middle, ran, before, filter, num⟩ := ih
    have todo : middle.2.filter.logTodo (alarm count) = (alarmed (count + 1), true) := by
      rw [filter]
      exact logTodo_alarm count
    have stored := @errorLogEvent_todo middle.2 (alarm count) (by rw [todo]) true
    have succeeds : (Op.event (alarm count) true).Succeeds := rfl
    have stepped : step middle (.event (alarm count) true) = some _ := rfl
    have moved : run step middle [.event (alarm count) true] = some _ := rfl
    have split : alarms (count + 1) = alarms count ++ [.event (alarm count) true] := by
      unfold alarms
      rw [List.range_succ, List.map_append, List.map_singleton]
    refine ⟨_, split ▸ run_append ran moved, before.step succeeds trivial stepped, ?_, ?_⟩
    · change (middle.2.errorLogEvent (alarm count) true).filter = _
      rw [stored, todo]
      rfl
    · change (middle.2.errorLogEvent (alarm count) true).logNum = _
      rw [stored]
      change (if logMaxNum < middle.2.logNum + 1 then logMaxNum else middle.2.logNum + 1) = _
      split <;> omega

/-- Not all operations are right: after fifty records one more of them is reported than there
are. -/
theorem eventLog_not_right :
    (∀ op ∈ alarms 50 ++ [.getNum], op.Succeeds) ∧
      ¬ Meets step Right (started fresh (fun _ => true) fun _ => true)
        (alarms 50 ++ [.getNum]) := by
  have starts : (Op.reboot (fun _ => true) fun _ => true).Succeeds := fun _ _ => ⟨rfl, rfl⟩
  constructor
  · intro op there
    rcases List.mem_append.mp there with alarm | last
    · obtain ⟨turn, -, rfl⟩ := List.mem_map.mp alarm
      exact rfl
    · rw [List.mem_singleton.mp last]
      trivial
  · intro right
    have keeps := keeps_started fresh starts
    have empty : (started fresh (fun _ => true) fun _ => true).2.logNum = 0 := by
      have num := keeps.num
      have none : (started fresh (fun _ => true) fun _ => true).1.length = 0 := rfl
      omega
    have same : (started fresh (fun _ => true) fun _ => true).2.filter = alarmed 0 := by
      unfold alarmed
      rw [Nat.mul_zero, update_eq_self_iff.mpr rfl]
      rfl
    obtain ⟨final, ran, after, -, num⟩ := alarms_run keeps same empty 50
    have last : Right final .getNum := (right.drop ran).1
    exact after.getNum.mpr last num

end OpenBic.SbRb.EventLog
