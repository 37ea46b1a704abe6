import Mathlib.Data.List.GetD
import Mathlib.Data.List.Induction
import OpenBic.Library.Talk
import OpenBic.Library.Walk
import OpenBic.Vr.Mp2971

/-!
# The update of an ISL69259

`isl69259_fwupdate` of `isl69259.c`. The text of an image is decoded in pairs of digits. The bytes
are records, which a walk takes one after another: the header records say which device the image is
for, and the body records are written to it.
-/

namespace OpenBic.Isl69259

open List Option Library.Reading Library.Talk Library.Walk Vr

/-! ## The device -/

def raaGen2 : UInt8 := 0

def raaGen3Legacy : UInt8 := 1

def raaGen3Production : UInt8 := 2

/-- `raa_config_t`. -/
structure RaaConfig where
  mode : UInt8
  remain : UInt16
  devid : UInt32
  rev : UInt32
  crc : UInt32
deriving DecidableEq

/-- The device and its bus. -/
structure Device where
  recordAnswers : Nat → Bool
  answers : Nat → Answer
  asked : Nat
  written : List (List UInt8)

def transfer : Program Device (List UInt8) :=
  exchange fun device =>
    let answer := device.answers device.asked
    (if answer.ok then some answer.data else none, { device with asked := device.asked + 1 })

def i2cMasterWrite (_bytes : List UInt8) : Program Device Unit := do
  let _ ← transfer
  pure ()

def i2cMasterRead (_bytes : List UInt8) : Program Device (List UInt8) := transfer

def word (first second third fourth : UInt8) : UInt32 :=
  first.toUInt32 ||| second.toUInt32 <<< 8 ||| third.toUInt32 <<< 16 ||| fourth.toUInt32 <<< 24

def byteOf (number : UInt32) (index : Nat) : UInt8 :=
  (number >>> UInt32.ofNat (8 * index)).toUInt8

def raaDmaRd (addr : UInt8) (reg : UInt16) : Program Device UInt32 := do
  i2cMasterWrite [0xC7, reg.toUInt8, (reg >>> 8).toUInt8]
  -- the address is shifted out of the byte
  let data ← i2cMasterRead [0xC5, UInt8.ofNat (addr.toNat * 256) ||| 0x01]
  pure (word (data.getD 0 0) (data.getD 1 0) (data.getD 2 0) (data.getD 3 0))

/-- The tries of `get_raa_polling_status`. -/
def pollTries (addr : UInt8) (reg : UInt16) : Nat → Program Device Unit
  | 0 => failure
  | tries + 1 => do
    let status ← raaDmaRd addr reg
    if byteOf status 0 &&& 0x01 ≠ 0 then pure () else pollTries addr reg tries

/-- `get_raa_polling_status`: three tries. -/
def getRaaPollingStatus (addr mode : UInt8) : Program Device Unit :=
  pollTries addr (if mode = raaGen2 then 0x0707 else 0x7E) 3

def getRaaRemainingWr (addr mode : UInt8) : Program Device UInt16 := do
  let count ← raaDmaRd addr (if mode = raaGen2 then 0xC2 else 0x35)
  pure (byteOf count 0).toUInt16

def getRaaCrc (addr mode : UInt8) : Program Device UInt32 :=
  raaDmaRd addr (if mode = raaGen2 then 0x3F else 0x94)

def pmbusIcDeviceId : UInt8 := 0xAD

def pmbusIcDeviceRev : UInt8 := 0xAE

def getRaaDevid : Program Device UInt32 := do
  let data ← i2cMasterRead [pmbusIcDeviceId]
  pure (word (data.getD 1 0) (data.getD 2 0) (data.getD 3 0) (data.getD 4 0))

def getRaaDevRev (mode : UInt8) : Program Device UInt32 := do
  let data ← i2cMasterRead [pmbusIcDeviceRev]
  pure (if mode = raaGen3Legacy then
      word (data.getD 1 0) (data.getD 2 0) (data.getD 3 0) (data.getD 4 0)
    else word (data.getD 4 0) (data.getD 3 0) (data.getD 2 0) (data.getD 1 0))

def getRaaHexMode (addr : UInt8) : Program Device UInt8 := do
  let deviceId ← getRaaDevid
  if byteOf deviceId 1 < 0x70 then pure raaGen2
  else
    let ret ← raaDmaRd addr 0xBD87
    pure (if byteOf ret 0 = 0 then raaGen3Legacy else raaGen3Production)

def checkDevRev (rev : UInt32) (mode : UInt8) : Bool :=
  if mode = raaGen2 then !(byteOf rev 0 < 0x02 || byteOf rev 3 < 0x03)
  else mode == raaGen3Legacy || mode == raaGen3Production

def checkDevSupport (addr : UInt8) : Program Device RaaConfig := do
  let mode ← getRaaHexMode addr
  let remain ← getRaaRemainingWr addr mode
  if remain = 0 then failure
  else
    let crc ← getRaaCrc addr mode
    let devid ← getRaaDevid
    let rev ← getRaaDevRev mode
    if checkDevRev rev mode then pure ⟨mode, remain, devid, rev, crc⟩ else failure

/-! ## The image -/

/-- `parsing_image`, into a buffer of so many bytes. A pair with a character that is no digit is
skipped. Nothing is returned where the code leaves the image or the buffer. -/
def parsingImage (capacity : Nat) : List UInt8 → List UInt8 → Option (List UInt8)
  | [], buff => some buff
  -- the partner of the last character is behind the image
  | [_], _ => none
  | high :: low :: rest, buff =>
    match asciiToVal high, asciiToVal low with
    | some hiVal, some loVal =>
      if buff.length < capacity then
        parsingImage capacity rest (buff ++ [UInt8.ofNat (hiVal * 16 + loVal)])
      else none
    | _, _ => parsingImage capacity rest buff

def decoded (image : List UInt8) : Option (List UInt8) :=
  parsingImage (image.length / 2) image []

/-- A record of the decoded image. -/
structure RaaData where
  hdr : UInt8
  /-- What is counted by `len`, from `addr` to `pec`. -/
  body : List UInt8
  fits : body.length < 256
deriving DecidableEq

def RaaData.cmd (record : RaaData) : UInt8 := record.body.getD 1 0

/-- The data between `cmd` and `pec`. -/
def RaaData.data (record : RaaData) : List UInt8 :=
  (record.body.drop 2).take (record.body.length - 3)

theorem length_take_toNat (len : UInt8) (tail : List UInt8) :
    (tail.take len.toNat).length < 256 := by
  have small := len.toNat_lt
  rw [length_take]
  omega

/-- The record at the front of the decoded image, if it is all there. -/
def takeRecord : Taker RaaData
  | hdr :: len :: tail =>
    if tail.length < len.toNat then none
    else some (⟨hdr, tail.take len.toNat, length_take_toNat len tail⟩, tail.drop len.toNat)
  | _ => none

def vrImgHdrSymbol : UInt8 := 0x49

def vrImgBodySymbol : UInt8 := 0x00

/-- The variables of the walk. -/
structure Walked where
  imgMode : UInt8
  modeCheckFlag : Bool
  /-- `cmd_line.data`, with what earlier records left in it. -/
  data : List UInt8
  written : List (List UInt8)
deriving DecidableEq

/-- Why a walk stops before the end. -/
inductive Stop where
  | strays
  | refused
deriving DecidableEq

/-- The room for the data of a record, behind `addr` and `cmd` in `raw`. -/
def dataRoom : Nat := 30

def differs (devid : UInt32) (data : List UInt8) : Bool :=
  data.getD 3 0 != byteOf devid 0 && data.getD 2 0 != byteOf devid 1 &&
    data.getD 1 0 != byteOf devid 2 && data.getD 0 0 != byteOf devid 3

def revMode (data : List UInt8) : UInt8 :=
  if data.getD 0 0 < 0x06 then raaGen3Legacy else raaGen3Production

/-- What the loop does with a record, once it has copied it. An update that is aborted has no
result. -/
def useRecord (answers : Nat → Bool) (devInfo : RaaConfig) (walked : Walked) (record : RaaData) :
    Option Walked :=
  if record.hdr = vrImgHdrSymbol then
    if record.cmd = pmbusIcDeviceId then
      if differs devInfo.devid walked.data then none else some walked
    else if record.cmd = pmbusIcDeviceRev then
      some { walked with imgMode := revMode walked.data }
    else if record.cmd = 0x00 then some { walked with imgMode := raaGen2 }
    else some walked
  else if record.hdr = vrImgBodySymbol then
    if !walked.modeCheckFlag && walked.imgMode != devInfo.mode then none
    else if answers walked.written.length then
      some { walked with
        modeCheckFlag := true
        written := walked.written ++ [record.cmd :: walked.data.take (record.body.length - 3)] }
    else none
  else none

/-- The data of the record structure once a record is copied into it. -/
def copied (record : RaaData) (data : List UInt8) : List UInt8 :=
  record.data ++ data.drop record.data.length

/-- What the loop does with a record. The length that is copied is `len` less three. -/
def takeStep (answers : Nat → Bool) (devInfo : RaaConfig) (walked : Walked) (record : RaaData) :
    Except Stop Walked :=
  if record.body.length < 3 ∨ dataRoom + 3 < record.body.length then .error .strays
  else
    match useRecord answers devInfo { walked with data := copied record walked.data } record with
    | none => .error .refused
    | some next => .ok next

def startWalk (garbage : List UInt8) : Walked := ⟨raaGen2, false, garbage, []⟩

def finishImage (addr : UInt8) (walked : Walked) : Program Device (Option Unit) := do
  change fun device => { device with written := device.written ++ walked.written }
  getRaaPollingStatus addr walked.imgMode
  pure (some ())

/-- The walk over the decoded image and the end of the update. Where the code leaves a buffer, no
value is returned. A tail that is no record ends the walk like the end of the image. -/
def programImage (addr : UInt8) (devInfo : RaaConfig) (garbage buff : List UInt8) :
    Program Device (Option Unit) := do
  let device ← look
  match walk takeRecord (takeStep device.recordAnswers devInfo) (buff.length + 1)
    (startWalk garbage) buff with
  | .error .strays => pure none
  | .error .refused => failure
  | .ok (walked, _) => finishImage addr walked

def fwupdate (addr : UInt8) (image : List UInt8) (mallocOk : Bool) (garbage : List UInt8) :
    Program Device (Option Unit) := do
  let devInfo ← checkDevSupport addr
  if !mallocOk then failure
  else
    match decoded image with
    | none => pure none
    | some buff => programImage addr devInfo garbage buff

/-! ## What is claimed -/

def RaaData.write (record : RaaData) : List UInt8 :=
  record.hdr :: UInt8.ofNat record.body.length :: record.body

/-- A record with the device id. -/
def RaaData.Identifies (record : RaaData) : Prop :=
  record.hdr = vrImgHdrSymbol ∧ record.cmd = pmbusIcDeviceId

/-- A record with the revision. -/
def RaaData.Revises (record : RaaData) : Prop :=
  record.hdr = vrImgHdrSymbol ∧ record.cmd = pmbusIcDeviceRev

def idBytes (devid : UInt32) : List UInt8 :=
  [byteOf devid 3, byteOf devid 2, byteOf devid 1, byteOf devid 0]

/-- A record that has a header or a body, an address, a command and a check byte, and fits the
record structure. A revision is not empty. -/
structure RaaData.WellFormed (record : RaaData) : Prop where
  symbol : record.hdr = vrImgHdrSymbol ∨ record.hdr = vrImgBodySymbol
  long : 3 ≤ record.body.length
  short : record.body.length ≤ dataRoom + 3
  revision : record.Revises → record.data ≠ []

def imageMode (records : List RaaData) : UInt8 :=
  records.foldl (fun mode record =>
    if record.hdr = vrImgHdrSymbol then
      if record.cmd = pmbusIcDeviceRev then revMode record.data
      else if record.cmd = 0x00 then raaGen2 else mode
    else mode) raaGen2

def bodies (records : List RaaData) : List (List UInt8) :=
  (records.filter (·.hdr = vrImgBodySymbol)).map fun record => record.cmd :: record.data

/-- A decoded image that is for the device and was written to it: well-formed records, with the
number of the device in each record that has one, and with its mode, whose bodies were written in
order and acknowledged. -/
structure Programmed (devInfo : RaaConfig) (buff : List UInt8) (written : List (List UInt8))
    (records : List RaaData) : Prop where
  whole : buff = records.flatMap RaaData.write
  wellFormed : ∀ record ∈ records, record.WellFormed
  identified : ∃ record ∈ records, record.Identifies
  device : ∀ record ∈ records, record.Identifies → record.data.take 4 = idBytes devInfo.devid
  mode : imageMode records = devInfo.mode
  written : written = bodies records

/-- An update stays in its buffers, and programs the image when it reports success. -/
def Right (addr : UInt8) (image : List UInt8) (mallocOk : Bool) (garbage : List UInt8)
    (device : Device) : Prop :=
  ((fwupdate addr image mallocOk garbage).result device).1 ≠ some none ∧
    (((fwupdate addr image mallocOk garbage).result device).1 = some (some ()) →
      ∃ devInfo ready buff records, (checkDevSupport addr).result device = (some devInfo, ready) ∧
        decoded image = some buff ∧
        ∃ written, ((fwupdate addr image mallocOk garbage).result device).2.written =
          ready.written ++ written ∧ Programmed devInfo buff written records)

def recordsOf (buff : List UInt8) : List RaaData := (pieces takeRecord (buff.length + 1) buff).1

def tailOf (buff : List UInt8) : List UInt8 := (pieces takeRecord (buff.length + 1) buff).2

/-- The walk comes to a record when the ones before it do not stop it. -/
def Reached (answers : Nat → Bool) (devInfo : RaaConfig) (garbage : List UInt8)
    (records : List RaaData) (record : RaaData) : Prop :=
  ∃ first rest walked, records = first ++ record :: rest ∧
    first.foldlM (takeStep answers devInfo) (startWalk garbage) = .ok walked

/-- The device number in a record is that of the device, or is another one in every byte. -/
def AllOrNone (devid : UInt32) (record : RaaData) : Prop :=
  record.data.take 4 = idBytes devid ∨ 4 ≤ record.data.length ∧ differs devid record.data = true

/-- What an image must be that is not aborted: nothing is behind its records, it says which device
it is for, in all bytes or in none, a revision is not empty, and the last mode that it says is that
of the device. -/
structure Distinct (devInfo : RaaConfig) (buff : List UInt8) : Prop where
  whole : tailOf buff = []
  identified : ∃ record ∈ recordsOf buff, record.Identifies
  device : ∀ record ∈ recordsOf buff, record.Identifies → AllOrNone devInfo.devid record
  revision : ∀ record ∈ recordsOf buff, record.Revises → record.data ≠ []
  mode : imageMode (recordsOf buff) = devInfo.mode

/-- What an image must be for the update to be right, where the device can be updated: it has an
even length, every record that the walk comes to has three to thirty-three bytes, and an image that
is not aborted is distinct. -/
structure Sound (answers : Nat → Bool) (devInfo : RaaConfig) (garbage image : List UInt8)
    (finishes : Walked → Prop) : Prop where
  even : image.length % 2 = 0
  lengths : ∀ buff, decoded image = some buff → ∀ record,
    Reached answers devInfo garbage (recordsOf buff) record →
      3 ≤ record.body.length ∧ record.body.length ≤ dataRoom + 3
  distinct : ∀ buff walked, decoded image = some buff →
    (recordsOf buff).foldlM (takeStep answers devInfo) (startWalk garbage) = .ok walked →
    finishes walked → Distinct devInfo buff

/-- The final poll succeeds. -/
def Finishes (addr : UInt8) (ready : Device) (walked : Walked) : Prop :=
  ((getRaaPollingStatus addr walked.imgMode).result
    { ready with written := ready.written ++ walked.written }).1 = some ()

/-! ## The decoding -/

/-- The decoding stays in its buffers when the length is even. -/
theorem parsingImage_isSome (capacity : Nat) (image buff : List UInt8)
    (room : buff.length + image.length / 2 ≤ capacity) :
    (∃ bytes, parsingImage capacity image buff = some bytes) ↔ image.length % 2 = 0 := by
  induction image using List.twoStepInduction generalizing buff with
  | nil => exact ⟨fun _ => rfl, fun _ => ⟨buff, rfl⟩⟩
  | singleton last =>
    constructor
    · rintro ⟨_, parsed⟩
      cases parsed
    · intro even
      have odd : [last].length % 2 = 1 := rfl
      omega
  | cons_cons high low rest ih _ =>
    have length : (high :: low :: rest).length = rest.length + 2 := rfl
    have parity : (high :: low :: rest).length % 2 = rest.length % 2 := by omega
    rw [parity]
    unfold parsingImage
    cases asciiToVal high with
    | none => exact ih buff (by omega)
    | some hiVal =>
      cases asciiToVal low with
      | none => exact ih buff (by omega)
      | some loVal =>
        dsimp only
        rw [if_pos (by omega)]
        apply ih
        rw [length_append, length_singleton]
        omega

theorem decoded_isSome (image : List UInt8) :
    (∃ buff, decoded image = some buff) ↔ image.length % 2 = 0 :=
  parsingImage_isSome (image.length / 2) image [] (by simp)

/-! ## The records -/

theorem reads_write (record : RaaData) : Reads takeRecord record.write record := by
  intro behind
  have fits := record.fits
  have length : (UInt8.ofNat record.body.length).toNat = record.body.length :=
    UInt8.toNat_ofNat_of_lt' fits
  show takeRecord (record.hdr :: UInt8.ofNat record.body.length :: (record.body ++ behind)) = _
  unfold takeRecord
  dsimp only
  rw [if_neg (by rw [length, length_append]; omega)]
  simp only [length, take_left, drop_left]

theorem write_of_takeRecord {data rest : List UInt8} {record : RaaData}
    (taken : takeRecord data = some (record, rest)) : data = record.write ++ rest := by
  unfold takeRecord at taken
  split at taken
  · rename_i hdr len tail
    split at taken
    · cases taken
    · cases taken
      have length : (tail.take len.toNat).length = len.toNat := by
        rw [length_take]
        omega
      unfold RaaData.write
      simp only [length, UInt8.ofNat_toNat, cons_append, take_append_drop]
  · cases taken

theorem buff_split (buff : List UInt8) :
    buff = (recordsOf buff).flatMap RaaData.write ++ tailOf buff :=
  pieces_split (fun _ _ _ taken => write_of_takeRecord taken) (buff.length + 1) buff

theorem recordsOf_flatMap {records : List RaaData} {buff : List UInt8}
    (whole : buff = records.flatMap RaaData.write) :
    recordsOf buff = records ∧ tailOf buff = [] := by
  have many : records.length ≤ buff.length := by
    rw [whole]
    exact length_le_flatMap fun record _ => Nat.succ_pos _
  have read := pieces_flatMap (fun record (_ : record ∈ records) => reads_write record) rfl
    (Nat.le_succ_of_le many)
  unfold recordsOf tailOf
  rw [← whole] at read
  rw [read]
  exact ⟨rfl, rfl⟩

/-! ## The walk -/

variable {answers : Nat → Bool} {devInfo : RaaConfig} {garbage : List UInt8}
  {walked next : Walked} {record : RaaData} {records : List RaaData}

theorem takeStep_eq_strays : takeStep answers devInfo walked record = .error .strays ↔
    ¬ (3 ≤ record.body.length ∧ record.body.length ≤ dataRoom + 3) := by
  unfold takeStep
  split
  · rename_i bad
    exact ⟨fun _ fits => by omega, fun _ => rfl⟩
  · constructor
    · intro strays
      split at strays
      · cases strays
      · cases strays
    · intro bad
      omega

theorem takeStep_eq_ok (moved : takeStep answers devInfo walked record = .ok next) :
    (3 ≤ record.body.length ∧ record.body.length ≤ dataRoom + 3) ∧
      useRecord answers devInfo { walked with data := copied record walked.data } record =
        some next := by
  unfold takeStep at moved
  split at moved
  · cases moved
  · refine ⟨by omega, ?_⟩
    split at moved
    · cases moved
    · rename_i found
      rw [found, Except.ok.inj moved]

theorem take_copied (record : RaaData) (data : List UInt8) (count : Nat)
    (few : count ≤ record.data.length) : (copied record data).take count =
      record.data.take count :=
  take_append_of_le_length few

theorem getD_copied {index : Nat} (data : List UInt8) (below : index < record.data.length) :
    (copied record data).getD index 0 = record.data.getD index 0 :=
  getD_append _ _ _ _ below

theorem length_data (record : RaaData) : record.data.length = record.body.length - 3 := by
  unfold RaaData.data
  rw [length_take, length_drop]
  omega

theorem differs_copied (data : List UInt8) (long : 4 ≤ record.data.length) (devid : UInt32) :
    differs devid (copied record data) = differs devid record.data := by
  unfold differs
  rw [getD_copied data (by omega), getD_copied data (by omega), getD_copied data (by omega),
    getD_copied data (by omega)]

theorem revMode_copied (data : List UInt8) (some : record.data ≠ []) :
    revMode (copied record data) = revMode record.data := by
  unfold revMode
  rw [getD_copied data (List.length_pos_iff.mpr some)]

theorem imageMode_append (records : List RaaData) (record : RaaData) :
    imageMode (records ++ [record]) =
      if record.hdr = vrImgHdrSymbol then
        if record.cmd = pmbusIcDeviceRev then revMode record.data
        else if record.cmd = 0x00 then raaGen2 else imageMode records
      else imageMode records := by
  unfold imageMode
  rw [foldl_append]
  rfl

theorem bodies_append (records : List RaaData) (record : RaaData) :
    bodies (records ++ [record]) = bodies records ++
      if record.hdr = vrImgBodySymbol then [record.cmd :: record.data] else [] := by
  unfold bodies
  rw [filter_append, map_append]
  by_cases body : record.hdr = vrImgBodySymbol
  · rw [if_pos body, filter_cons_of_pos (by simpa using body)]
    rfl
  · rw [if_neg body, filter_cons_of_neg (by simpa using body)]
    rfl

/-- What is known of the records that the walk has gone behind. -/
structure Past (devInfo : RaaConfig) (records : List RaaData) (walked : Walked) : Prop where
  symbol : ∀ record ∈ records, record.hdr = vrImgHdrSymbol ∨ record.hdr = vrImgBodySymbol
  fits : ∀ record ∈ records, 3 ≤ record.body.length ∧ record.body.length ≤ dataRoom + 3
  device : ∀ record ∈ records, record.Identifies → 4 ≤ record.data.length →
    differs devInfo.devid record.data = false
  mode : (∀ record ∈ records, record.Revises → record.data ≠ []) →
    walked.imgMode = imageMode records
  written : walked.written = bodies records

theorem Past.snoc {devInfo : RaaConfig} (past : Past devInfo records walked)
    (symbol : record.hdr = vrImgHdrSymbol ∨ record.hdr = vrImgBodySymbol)
    (fits : 3 ≤ record.body.length ∧ record.body.length ≤ dataRoom + 3)
    (device : record.Identifies → 4 ≤ record.data.length →
      differs devInfo.devid record.data = false)
    (mode : (record.Revises → record.data ≠ []) → walked.imgMode = imageMode records →
      next.imgMode = imageMode (records ++ [record]))
    (written : next.written = bodies (records ++ [record])) :
    Past devInfo (records ++ [record]) next where
  symbol := List.forall_mem_append.mpr ⟨past.symbol, List.forall_mem_singleton.mpr symbol⟩
  fits := List.forall_mem_append.mpr ⟨past.fits, List.forall_mem_singleton.mpr fits⟩
  device := List.forall_mem_append.mpr ⟨past.device, List.forall_mem_singleton.mpr device⟩
  mode all := by
    obtain ⟨before, here⟩ := List.forall_mem_append.mp all
    exact mode (here record (mem_singleton_self record)) (past.mode before)
  written := written

theorem ne_body_of_header (header : record.hdr = vrImgHdrSymbol) :
    record.hdr ≠ vrImgBodySymbol := by
  rw [header]
  decide

/-- What is known of the records stays known behind one more. -/
theorem Past.step (past : Past devInfo records walked)
    (moved : takeStep answers devInfo walked record = .ok next) :
    Past devInfo (records ++ [record]) next := by
  obtain ⟨fits, used⟩ := takeStep_eq_ok moved
  unfold useRecord at used
  by_cases header : record.hdr = vrImgHdrSymbol
  · rw [if_pos header] at used
    have unwritten : walked.written = bodies (records ++ [record]) := by
      rw [bodies_append, if_neg (ne_body_of_header header), append_nil]
      exact past.written
    by_cases number : record.cmd = pmbusIcDeviceId
    · rw [if_pos number] at used
      split at used
      · exact absurd used (some_ne_none next).symm
      · rename_i same
        cases used
        apply past.snoc (.inl header) fits
        · intro _ long
          rw [← differs_copied walked.data long]
          exact Bool.eq_false_iff.mpr same
        · intro _ before
          rw [imageMode_append, if_pos header, if_neg (by rw [number]; decide),
            if_neg (by rw [number]; decide)]
          exact before
        · exact unwritten
    · rw [if_neg number] at used
      have other : record.Identifies → 4 ≤ record.data.length →
          differs devInfo.devid record.data = false :=
        fun identifies => absurd identifies.2 number
      by_cases revision : record.cmd = pmbusIcDeviceRev
      · rw [if_pos revision] at used
        cases used
        apply past.snoc (.inl header) fits other
        · intro some _
          rw [imageMode_append, if_pos header, if_pos revision]
          exact revMode_copied walked.data (some ⟨header, revision⟩)
        · exact unwritten
      · rw [if_neg revision] at used
        split at used
        · rename_i zero
          cases used
          apply past.snoc (.inl header) fits other
          · intro _ _
            rw [imageMode_append, if_pos header, if_neg revision, if_pos zero]
          · exact unwritten
        · rename_i nonzero
          cases used
          apply past.snoc (.inl header) fits other
          · intro _ before
            rw [imageMode_append, if_pos header, if_neg revision, if_neg nonzero]
            exact before
          · exact unwritten
  · rw [if_neg header] at used
    split at used
    · rename_i body
      split at used
      · exact absurd used (some_ne_none next).symm
      · split at used
        · cases used
          apply past.snoc (.inr body) fits
          · exact fun identifies => absurd identifies.1 header
          · intro _ before
            rw [imageMode_append, if_neg header]
            exact before
          · have data : (copied record walked.data).take (record.body.length - 3) =
                record.data := by
              rw [take_copied record walked.data _ (Nat.le_of_eq (length_data record).symm),
                ← length_data, take_length]
            show walked.written ++ [record.cmd :: _] = _
            rw [data, bodies_append, if_pos body, past.written]
        · exact absurd used (some_ne_none next).symm
    · exact absurd used (some_ne_none next).symm

theorem past_of_foldlM
    (ran : records.foldlM (takeStep answers devInfo) (startWalk garbage) = .ok walked) :
    Past devInfo records walked := by
  have initial : Past devInfo [] (startWalk garbage) := by
    constructor
    · exact fun _ listed => absurd listed not_mem_nil
    · exact fun _ listed => absurd listed not_mem_nil
    · exact fun _ listed => absurd listed not_mem_nil
    · exact fun _ => rfl
    · rfl
  exact foldlM_rule (fun past moved => past.step moved) initial ran

theorem foldlM_eq_strays_iff :
    records.foldlM (takeStep answers devInfo) (startWalk garbage) = .error .strays ↔
      ∃ record, Reached answers devInfo garbage records record ∧
        ¬ (3 ≤ record.body.length ∧ record.body.length ≤ dataRoom + 3) := by
  rw [foldlM_eq_error_iff]
  constructor
  · rintro ⟨first, record, rest, walked, split, ran, strays⟩
    exact ⟨record, ⟨first, rest, walked, split, ran⟩, takeStep_eq_strays.mp strays⟩
  · rintro ⟨record, ⟨first, rest, walked, split, ran⟩, bad⟩
    exact ⟨first, record, rest, walked, split, ran, takeStep_eq_strays.mpr bad⟩

/-! ## The update -/

/-- Nothing was written. -/
def SameWritten (before after : Device) : Prop := after.written = before.written

theorem sameWritten : Frame SameWritten where
  refl _ := rfl
  trans earlier later := later.trans earlier

theorem transfer_same : Keeps SameWritten transfer := fun _ => rfl

theorem raaDmaRd_same (addr : UInt8) (reg : UInt16) : Keeps SameWritten (raaDmaRd addr reg) := by
  apply sameWritten.bind (sameWritten.bind transfer_same fun _ => sameWritten.pure ())
  intro _
  exact sameWritten.bind transfer_same fun _ => sameWritten.pure _

theorem pollTries_same (addr : UInt8) (reg : UInt16) (tries : Nat) :
    Keeps SameWritten (pollTries addr reg tries) := by
  induction tries with
  | zero => exact sameWritten.failure
  | succ tries ih =>
    apply sameWritten.bind (raaDmaRd_same addr reg)
    intro status
    split
    · exact sameWritten.pure ()
    · exact ih

variable {addr : UInt8} {buff image : List UInt8} {ready device : Device} {mallocOk : Bool}

theorem programImage_strays
    (stopped : (recordsOf buff).foldlM (takeStep ready.recordAnswers devInfo)
      (startWalk garbage) = .error .strays) :
    ((programImage addr devInfo garbage buff).result ready).1 = some none := by
  unfold recordsOf at stopped
  unfold programImage
  rw [result_bind_look, walk_eq, stopped]
  rfl

theorem programImage_refused
    (stopped : (recordsOf buff).foldlM (takeStep ready.recordAnswers devInfo)
      (startWalk garbage) = .error .refused) :
    ((programImage addr devInfo garbage buff).result ready).1 = none := by
  unfold recordsOf at stopped
  unfold programImage
  rw [result_bind_look, walk_eq, stopped]
  rfl

theorem finishImage_result (addr : UInt8) (walked : Walked) (ready : Device) :
    ((finishImage addr walked).result ready).2.written = ready.written ++ walked.written ∧
      ((finishImage addr walked).result ready).1 ≠ some none ∧
      (((finishImage addr walked).result ready).1 = some (some ()) ↔
        Finishes addr ready walked) := by
  unfold finishImage Finishes
  rw [result_bind_change]
  unfold getRaaPollingStatus
  have kept := pollTries_same addr (if walked.imgMode = raaGen2 then 0x0707 else 0x7E) 3
    { ready with written := ready.written ++ walked.written }
  rcases polled : (pollTries addr (if walked.imgMode = raaGen2 then 0x0707 else 0x7E) 3).result
    { ready with written := ready.written ++ walked.written } with ⟨ended, last⟩
  rw [polled] at kept
  cases ended with
  | none =>
    rw [result_bind_none polled]
    exact ⟨kept, by simp, by simp⟩
  | some value =>
    rw [result_bind_some polled]
    exact ⟨kept, by simp, by simp⟩

theorem programImage_ok (ran : (recordsOf buff).foldlM (takeStep ready.recordAnswers devInfo)
      (startWalk garbage) = .ok walked) :
    (programImage addr devInfo garbage buff).result ready =
      (finishImage addr walked).result ready := by
  unfold recordsOf at ran
  unfold programImage
  rw [result_bind_look, walk_eq, ran]
  rfl

theorem programmed_of_distinct (past : Past devInfo (recordsOf buff) walked)
    (distinct : Distinct devInfo buff) :
    Programmed devInfo buff walked.written (recordsOf buff) where
  whole := by
    have split := buff_split buff
    rw [distinct.whole, append_nil] at split
    exact split
  wellFormed record listed :=
    ⟨past.symbol record listed, (past.fits record listed).1, (past.fits record listed).2,
      distinct.revision record listed⟩
  identified := distinct.identified
  device record listed identifies := by
    cases distinct.device record listed identifies with
    | inl same => exact same
    | inr other =>
      have some := past.device record listed identifies other.1
      rw [other.2] at some
      exact absurd some Bool.true_eq_false.mp
  mode := distinct.mode
  written := past.written

theorem distinct_of_programmed {written : List (List UInt8)}
    (programmed : Programmed devInfo buff written records) : Distinct devInfo buff := by
  obtain ⟨same, whole⟩ := recordsOf_flatMap programmed.whole
  constructor
  · exact whole
  · rw [same]
    exact programmed.identified
  · rw [same]
    exact fun record listed identifies => .inl (programmed.device record listed identifies)
  · rw [same]
    exact fun record listed => (programmed.wellFormed record listed).revision
  · rw [same]
    exact programmed.mode

theorem right_iff_of_decoded (checked : (checkDevSupport addr).result device =
      (some devInfo, ready)) (parsed : decoded image = some buff) :
    Right addr image true garbage device ↔
      ((programImage addr devInfo garbage buff).result ready).1 ≠ some none ∧
        (((programImage addr devInfo garbage buff).result ready).1 = some (some ()) →
          ∃ records written, ((programImage addr devInfo garbage buff).result ready).2.written =
            ready.written ++ written ∧ Programmed devInfo buff written records) := by
  have result : (fwupdate addr image true garbage).result device =
      (programImage addr devInfo garbage buff).result ready := by
    unfold fwupdate
    rw [result_bind_some checked, parsed]
    rfl
  unfold Right
  rw [result, checked, parsed]
  apply and_congr_right
  intro _
  constructor
  · intro right success
    obtain ⟨_, _, _, records, same, sameBuff, written, noted, programmed⟩ := right success
    obtain ⟨sameInfo, rfl⟩ := Prod.mk.inj same
    cases sameInfo
    cases sameBuff
    exact ⟨records, written, noted, programmed⟩
  · intro right success
    obtain ⟨records, written, noted, programmed⟩ := right success
    exact ⟨devInfo, ready, buff, records, rfl, rfl, written, noted, programmed⟩

theorem sound_iff_of_decoded {finishes : Walked → Prop} (parsed : decoded image = some buff) :
    Sound answers devInfo garbage image finishes ↔
      (∀ record, Reached answers devInfo garbage (recordsOf buff) record →
        3 ≤ record.body.length ∧ record.body.length ≤ dataRoom + 3) ∧
      ∀ walked, (recordsOf buff).foldlM (takeStep answers devInfo) (startWalk garbage) =
        .ok walked → finishes walked → Distinct devInfo buff := by
  constructor
  · intro sound
    exact ⟨sound.lengths buff parsed, fun walked => sound.distinct buff walked parsed⟩
  · rintro ⟨lengths, distinct⟩
    constructor
    · exact (decoded_isSome image).mp ⟨buff, parsed⟩
    · intro other same
      rw [parsed] at same
      cases same
      exact lengths
    · intro other walked same
      rw [parsed] at same
      cases same
      exact distinct walked

/-- The update of a decoded image is right when the image is sound. -/
theorem right_iff_sound_of_decoded (checked : (checkDevSupport addr).result device =
      (some devInfo, ready)) (parsed : decoded image = some buff) :
    Right addr image true garbage device ↔
      Sound ready.recordAnswers devInfo garbage image (Finishes addr ready) := by
  rw [right_iff_of_decoded checked parsed, sound_iff_of_decoded parsed]
  have stray : (recordsOf buff).foldlM (takeStep ready.recordAnswers devInfo)
      (startWalk garbage) = .error .strays ↔
      ∃ record, Reached ready.recordAnswers devInfo garbage (recordsOf buff) record ∧
        ¬ (3 ≤ record.body.length ∧ record.body.length ≤ dataRoom + 3) := foldlM_eq_strays_iff
  cases ran : (recordsOf buff).foldlM (takeStep ready.recordAnswers devInfo)
    (startWalk garbage) with
  | error stop =>
    rw [ran] at stray
    cases stop with
    | strays =>
      obtain ⟨record, reached, bad⟩ := stray.mp rfl
      constructor
      · exact fun right => absurd (programImage_strays ran) right.1
      · exact fun sound => absurd (sound.1 record reached) bad
    | refused =>
      have aborted : ((programImage addr devInfo garbage buff).result ready).1 = none :=
        programImage_refused ran
      rw [aborted]
      constructor
      · intro _
        refine ⟨fun record reached => ?_, fun _ same => absurd same (by simp)⟩
        by_contra bad
        exact absurd (stray.mpr ⟨record, reached, bad⟩) (by decide)
      · exact fun _ => ⟨by simp, by simp⟩
  | ok walked =>
    rw [ran] at stray
    have fit : ∀ record, Reached ready.recordAnswers devInfo garbage (recordsOf buff) record →
        3 ≤ record.body.length ∧ record.body.length ≤ dataRoom + 3 := by
      intro record reached
      by_contra bad
      exact absurd (stray.mpr ⟨record, reached, bad⟩) (by simp)
    have past := past_of_foldlM ran
    rw [programImage_ok ran]
    obtain ⟨noted, inside, reports⟩ := finishImage_result addr walked ready
    constructor
    · intro right
      refine ⟨fit, fun other same finishes => ?_⟩
      cases same
      obtain ⟨records, written, _, programmed⟩ := right.2 (reports.mpr finishes)
      exact distinct_of_programmed programmed
    · intro sound
      refine ⟨inside, fun success => ?_⟩
      have distinct := sound.2 walked rfl (reports.mp success)
      exact ⟨recordsOf buff, walked.written, noted, programmed_of_distinct past distinct⟩

/-- An update stays in its buffers, and programs the image when it reports success, when the image
is sound for the device. -/
theorem right_iff_sound (addr : UInt8) (image : List UInt8) (mallocOk : Bool)
    (garbage : List UInt8) (device : Device) :
    Right addr image mallocOk garbage device ↔
      ∀ devInfo ready, (checkDevSupport addr).result device = (some devInfo, ready) →
        mallocOk = true →
        Sound ready.recordAnswers devInfo garbage image (Finishes addr ready) := by
  rcases checked : (checkDevSupport addr).result device with ⟨ended, ready⟩
  cases ended with
  | none =>
    have result : (fwupdate addr image mallocOk garbage).result device = (none, ready) :=
      result_bind_none checked
    unfold Right
    rw [result]
    exact ⟨fun _ _ _ same => absurd same (by simp), fun _ => ⟨by simp, by simp⟩⟩
  | some devInfo =>
    cases mallocOk with
    | false =>
      have result : (fwupdate addr image false garbage).result device = (none, ready) :=
        result_bind_some checked
      unfold Right
      rw [result]
      exact ⟨fun _ _ _ _ allocated => absurd allocated Bool.false_ne_true,
        fun _ => ⟨by simp, by simp⟩⟩
    | true =>
      cases parsed : decoded image with
      | none =>
        have result : ((fwupdate addr image true garbage).result device).1 = some none := by
          unfold fwupdate
          rw [result_bind_some checked, parsed]
          rfl
        constructor
        · exact fun right => absurd result right.1
        · intro sound
          obtain ⟨buff, some⟩ := (decoded_isSome image).mpr (sound devInfo ready rfl rfl).even
          rw [parsed] at some
          cases some
      | some buff =>
        rw [right_iff_sound_of_decoded checked parsed]
        constructor
        · intro sound other after same _
          obtain ⟨sameInfo, rfl⟩ := Prod.mk.inj same
          cases sameInfo
          exact sound
        · exact fun sound => sound devInfo ready rfl rfl

/-! ## An image for a similar device -/

def benchDevice : Device where
  recordAnswers _ := true
  answers _ := ⟨true, true, [0x01, 0x03, 0x10, 0x10, 0x05]⟩
  asked := 0
  written := []

def benchInfo : RaaConfig := ⟨raaGen2, 1, 0x05101003, 0x03101005, 0x10100301⟩

def benchReady : Device := ((checkDevSupport 0x60).result benchDevice).2

theorem bench_checked :
    (checkDevSupport 0x60).result benchDevice = (some benchInfo, benchReady) := by
  have success : ((checkDevSupport 0x60).result benchDevice).1 = some benchInfo := by
    decide +kernel
  unfold benchReady
  rw [← success]

/-- The text "490760AD05FFFFFF00", a device number that has one byte of that of the device. -/
def similarImage : List UInt8 :=
  [0x34, 0x39, 0x30, 0x37, 0x36, 0x30, 0x41, 0x44, 0x30, 0x35, 0x46, 0x46, 0x46, 0x46, 0x46, 0x46,
    0x30, 0x30]

def similarRecord : RaaData :=
  ⟨0x49, [0x60, 0xAD, 0x05, 0xFF, 0xFF, 0xFF, 0x00], by decide⟩

/-- An image that agrees with the device in one byte of its id is written. -/
theorem similarImage_wrong : ¬ Right 0x60 similarImage true [] benchDevice := by
  have parsed : decoded similarImage = some similarRecord.write := by decide +kernel
  rw [right_iff_of_decoded bench_checked parsed]
  rintro ⟨-, right⟩
  have success : ((programImage 0x60 benchInfo [] similarRecord.write).result benchReady).1 =
      some (some ()) := by decide +kernel
  obtain ⟨records, written, -, programmed⟩ := right success
  have listed : similarRecord ∈ recordsOf similarRecord.write := by decide +kernel
  have same := (distinct_of_programmed programmed).device similarRecord listed ⟨rfl, rfl⟩
  unfold AllOrNone at same
  exact absurd same (by decide +kernel)

end OpenBic.Isl69259
