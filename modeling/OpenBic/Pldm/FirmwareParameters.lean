import OpenBic.Library.Reading
import OpenBic.Obmf.Message
import OpenBic.Pldm.Command

/-!
# PLDM firmware parameters

`get_firmware_parameter` and `get_downstream_firmware_parameters` of `pldm_firmware_update.c`. Both
append a table and two version strings for one component after another. What each compares with
`PLDM_MAX_DATA_SIZE` before a component leaves out the header in front of the response, and the
version strings that the component is about to have.
-/

namespace OpenBic.Pldm.FirmwareParameters

open List Option Library.Checked Library.Reading OpenBic.Pldm.Command
open OpenBic.Obmf (bytes16 read16 ofNat_bytes16)
open OpenBic.Pldm.Receive (hdrLen)
open OpenBic.Pldm.SensorEvent (pldmSuccess pldmError pldmErrorInvalidLength)

def pldmCompVerStrTypeUnknown : UInt8 := 0

def pldmCompAscii : UInt8 := 1

/-- A version whose length fits its byte. -/
structure VersionString where
  bytes : List UInt8
  short : bytes.length ≤ 255

/-- `error_code`, which stands for the version of a component that has none to give. -/
def errorCode : VersionString :=
  { bytes := [0x45, 0x52, 0x52, 0x4F, 0x52, 0x3A, 0x30], short := by decide }

/-- What `get_fw_version_fn` does for one response. -/
structure FwVersionFn where
  told : Option UInt8
  written : VersionString
  ok : Bool

def FwVersionFn.version (fn : FwVersionFn) : VersionString :=
  if fn.ok then fn.written else errorCode

/-- `pldm_fw_update_info_t`. -/
structure Component where
  compClassification : UInt16
  compIdentifier : UInt16
  activateMethod : UInt16
  /-- `get_fw_version_fn`, if any. -/
  getFwVersionFn : Option FwVersionFn
  /-- The string at `pending_version_p`, if any. -/
  pendingVersion : Option VersionString

def Component.pending (component : Component) : List UInt8 :=
  (component.pendingVersion.map VersionString.bytes).getD []

/-- The numbers of the BIC's own version. -/
structure BicVersion where
  /-- The two characters for the FRU, in builds with `BIC_FW_VERSION_ADD_FRU_NAME`. -/
  platform : Option (UInt8 × UInt8)
  yearMsb : UInt8
  yearLsb : UInt8
  week : UInt8
  ver : UInt8

def hexDigit (nibble : UInt8) : UInt8 := if nibble < 10 then 0x30 + nibble else 0x57 + nibble

def bin2hex (bytes : List UInt8) : List UInt8 :=
  bytes.flatMap fun (byte : UInt8) => [hexDigit (byte >>> 4), hexDigit (byte &&& 0x0F)]

/-- `pldm_get_bic_fw_version`, which has both its pointers here. -/
def pldmGetBicFwVersion (version : BicVersion) : List UInt8 :=
  (version.platform.map fun name => [name.1, name.2]).getD [] ++
    bin2hex [version.yearMsb, version.yearLsb] ++ [0x2E] ++ bin2hex [version.week] ++ [0x2E] ++
    bin2hex [version.ver]

/-- What the platform has for the response. -/
structure FwPlatform extends Build where
  bicVersion : BicVersion
  compConfig : List Component
  /-- `comp_config_count` has eight bits. -/
  counted : compConfig.length < 256

/-- The two halves of a number give it back. -/
@[simp] theorem ofNat_halves (value : UInt16) :
    UInt16.ofNat (value.toNat % 256) + 256 * UInt16.ofNat (value.toNat / 256 % 256) = value := by
  apply UInt16.toNat.inj
  have bound := value.toNat_lt
  simp only [UInt16.toNat_add, UInt16.toNat_mul, UInt16.toNat_ofNat', UInt16.reduceToNat]
  omega

/-! ## The tables -/

/-- What a table says of a component besides its versions. -/
structure Identity where
  classification : Option UInt16
  identifier : UInt16
  activationMethods : UInt16

/-- The table of one component in a response. A field that is not set has the bytes that the buffer
had there. -/
structure Table where
  size : Nat
  identity : Component → Identity
  bytes : List UInt8 → Component → UInt8 → UInt8 → List UInt8
  read : List UInt8 → Identity × UInt8 × UInt8
  length_bytes : ∀ old component active pending, old.length = size →
    (bytes old component active pending).length = size
  read_bytes : ∀ old component active pending, old.length = size →
    read (bytes old component active pending) = (identity component, active, pending)

/-- `struct component_parameter_table`. -/
def componentParameterTable : Table where
  size := 39
  identity component := {
    classification := some component.compClassification
    identifier := component.compIdentifier
    activationMethods := component.activateMethod }
  bytes old component active pending :=
    bytes16 component.compClassification ++ bytes16 component.compIdentifier ++
      (old.drop 4).take 5 ++ [pldmCompAscii, active] ++ (old.drop 11).take 12 ++
      [pldmCompAscii, pending] ++ (old.drop 25).take 8 ++ bytes16 component.activateMethod ++
      (old.drop 35).take 4
  read table := ({
    classification := some (read16 table 0)
    identifier := read16 table 2
    activationMethods := read16 table 33 }, table.getD 10 0, table.getD 24 0)
  length_bytes old component active pending sized := by simp [bytes16, sized]
  read_bytes old component active pending sized := by
    simp [read16, bytes16, sized]

/-- `struct downstream_device_parameter_table`. -/
def downstreamDeviceParameterTable : Table where
  size := 36
  identity component := {
    classification := none
    identifier := component.compIdentifier
    activationMethods := component.activateMethod }
  bytes old component active pending :=
    bytes16 component.compIdentifier ++ (old.drop 2).take 4 ++ [pldmCompAscii, active] ++
      (old.drop 8).take 12 ++ [pldmCompAscii, pending] ++ (old.drop 22).take 8 ++
      bytes16 component.activateMethod ++ (old.drop 32).take 4
  read table := ({
    classification := none
    identifier := read16 table 0
    activationMethods := read16 table 30 }, table.getD 7 0, table.getD 21 0)
  length_bytes old component active pending sized := by simp [bytes16, sized]
  read_bytes old component active pending sized := by
    simp [read16, bytes16, sized]

/-! ## The code -/

/-- A response that lists components. -/
structure Report where
  fixedSize : Nat
  countAt : Nat
  table : Table
  refuses : (maxDataSize used : Nat) → Component → FwVersionFn → Bool
  behind : 0 < countAt
  within : countAt + 2 ≤ fixedSize
  small : fixedSize ≤ 12

/-- A response that is being put together. -/
structure Draft (size : Nat) where
  respBuf : Buffer size
  /-- `cnt_len` or `param_table_len`, which has sixteen bits as every length in the buffer. -/
  used : Nat

variable {size : Nat}

/-- The version of a component. A callback that fails may have written something before. -/
def storeVersion (respBuf : Buffer size) (place : Nat) (fn : FwVersionFn) :
    Option (Buffer size) := do
  let respBuf ← respBuf.write place fn.written.bytes
  if fn.ok then some respBuf else respBuf.write place errorCode.bytes

def storePending (respBuf : Buffer size) (place : Nat) : Option VersionString → Option (Buffer size)
  | none => some respBuf
  | some pendingVersion => respBuf.write place pendingVersion.bytes

/-- `comp_count++`. -/
def increment (respBuf : Buffer size) (place : Nat) : Option (Buffer size) := do
  let count ← respBuf.read place 2
  respBuf.write place (bytes16 (read16 count 0 + 1))

/-- The table of a component and its strings. The fields of the table are set at once, when both
lengths are known. -/
def storeEntry (table : Table) (respBuf : Buffer size) (place : Nat) (component : Component)
    (fn : FwVersionFn) : Option (Buffer size) := do
  let old ← respBuf.read place table.size
  let active := fn.version.bytes.length
  let respBuf ← storeVersion respBuf (place + table.size) fn
  let respBuf ← storePending respBuf (place + table.size + active) component.pendingVersion
  respBuf.write place
    (table.bytes old component (UInt8.ofNat active) (UInt8.ofNat component.pending.length))

def growth (table : Table) (component : Component) (fn : FwVersionFn) : Nat :=
  table.size + fn.version.bytes.length + component.pending.length

def append (report : Report) (draft : Draft size) (component : Component) (fn : FwVersionFn) :
    Option (Draft size) := do
  let place := hdrLen + report.fixedSize + draft.used
  let respBuf ← storeEntry report.table draft.respBuf place component fn
  let respBuf ← increment respBuf (hdrLen + report.countAt)
  some ⟨respBuf, draft.used + growth report.table component fn⟩

/-- The loop, and whether it came to its end without the size guard. -/
def appendAll (report : Report) : List Component → Draft size → Option (Draft size × Bool)
  | [], draft => some (draft, true)
  | component :: rest, draft =>
    match component.getFwVersionFn with
    | none => appendAll report rest draft
    | some fn =>
      if report.refuses size draft.used component fn then some (draft, false)
      else append report draft component fn >>= appendAll report rest

def needLen (component : Component) (fn : FwVersionFn) : Nat :=
  componentParameterTable.size + (fn.told.map UInt8.toNat).getD errorCode.bytes.length +
    component.pending.length

/-- The list of `struct pldm_get_firmware_parameters_resp`. Both size guards compare the same. -/
def firmwareReport : Report where
  fixedSize := 11
  countAt := 5
  table := componentParameterTable
  refuses maxDataSize used component fn := maxDataSize < 11 + used + needLen component fn
  behind := by decide
  within := by decide
  small := by decide

/-- The list of `struct pldm_get_downstream_firmware_parameters_resp`. -/
def downstreamReport : Report where
  fixedSize := 12
  countAt := 10
  table := downstreamDeviceParameterTable
  refuses maxDataSize used _ _ := maxDataSize < 12 + used
  behind := by decide
  within := by decide
  small := by decide

/-- What `get_firmware_parameter` writes in front of the components. -/
def imageSetVersion (platform : FwPlatform) (respBuf : Buffer platform.maxDataSize) :
    Option (Draft platform.maxDataSize) := do
  let version := pldmGetBicFwVersion platform.bicVersion
  let respBuf ← respBuf.write (hdrLen + 7)
    [pldmCompAscii, UInt8.ofNat version.length, pldmCompVerStrTypeUnknown, 0]
  let respBuf ← respBuf.write (hdrLen + firmwareReport.fixedSize) version
  some ⟨respBuf, version.length⟩

/-- `get_firmware_parameter` on a request of so many bytes. -/
def getFirmwareParameter (platform : FwPlatform) (len : Nat)
    (respBuf : Buffer platform.maxDataSize) : Option (Response platform.maxDataSize) :=
  if len ≠ 0 then complete respBuf pldmErrorInvalidLength 1
  else do
    let draft ← imageSetVersion platform respBuf
    let (draft, ended) ← appendAll firmwareReport platform.compConfig draft
    match ended with
    | true => complete draft.respBuf pldmSuccess (firmwareReport.fixedSize + draft.used)
    | false => complete draft.respBuf pldmError firmwareReport.fixedSize

/-- `get_downstream_firmware_parameters` on a request of so many bytes. It leaves out the BIC
itself. -/
def getDownstreamFirmwareParameters (platform : FwPlatform) (len : Nat)
    (respBuf : Buffer platform.maxDataSize) : Option (Response platform.maxDataSize) :=
  if len ≠ 5 then complete respBuf pldmErrorInvalidLength 1
  else do
    let (draft, ended) ← appendAll downstreamReport (platform.compConfig.drop 1) ⟨respBuf, 0⟩
    match ended with
    | true => complete draft.respBuf pldmSuccess (downstreamReport.fixedSize + draft.used)
    | false => complete draft.respBuf pldmError 1

/-! ## What is claimed -/

/-- A component as a receiver sees it. -/
structure Entry where
  identity : Identity
  active : List UInt8
  pending : List UInt8

def entry (table : Table) (component : Component) (fn : FwVersionFn) : Entry where
  identity := table.identity component
  active := fn.version.bytes
  pending := component.pending

def listed (table : Table) (components : List Component) : List Entry :=
  components.filterMap fun component => component.getFwVersionFn.map (entry table component)

/-- A receiver reads the table of a component and as many characters as it says. -/
def readEntry (table : Table) : Taker Entry := fun data => do
  let (head, data) ← front table.size data
  let (identity, activeLen, pendingLen) := table.read head
  let (active, data) ← front activeLen.toNat data
  let (pending, data) ← front pendingLen.toNat data
  some (⟨identity, active, pending⟩, data)

/-- A receiver reads as many components as a response counts, and nothing is left. -/
def readEntries (report : Report) (data behind : List UInt8) : Option (List Entry) := do
  let count ← rangeAt data report.countAt 2
  let (entries, rest) ← many (readEntry report.table) (read16 count 0).toNat behind
  if rest = [] then some entries else none

def readFirmwareParameters (data : List UInt8) : Option (List UInt8 × List Entry) := do
  let activeLen ← byteAt data 8
  let pendingLen ← byteAt data 10
  let (active, behind) ← front activeLen.toNat (data.drop 11)
  let (_, behind) ← front pendingLen.toNat behind
  let entries ← readEntries firmwareReport data behind
  some (active, entries)

def readDownstreamParameters (data : List UInt8) : Option (List Entry) :=
  readEntries downstreamReport data (data.drop 12)

/-- A command writes inside the buffer, and its response is read as it should or is an error. -/
def Reports {α : Type} (response : Option (Response size)) (read : List UInt8 → Option α)
    (right : α) : Prop :=
  Returns response fun response => ∃ data, response.sent = some data ∧
    (data.getD 0 0 ≠ pldmSuccess ∨ read data = some right)

/-- `get_firmware_parameter` reports the BIC's version and every component. -/
def FirmwareReported (platform : FwPlatform) : Prop :=
  ∀ len hdr, Reports (getFirmwareParameter platform len (respBuf platform.toBuild hdr))
    readFirmwareParameters
    (pldmGetBicFwVersion platform.bicVersion, listed componentParameterTable platform.compConfig)

/-- `get_downstream_firmware_parameters` reports every component but the BIC. -/
def DownstreamReported (platform : FwPlatform) : Prop :=
  ∀ len hdr, Reports (getDownstreamFirmwareParameters platform len (respBuf platform.toBuild hdr))
    readDownstreamParameters
    (listed downstreamDeviceParameterTable (platform.compConfig.drop 1))

/-- How far the writes for a component reach, which what a failing callback wrote may do, too. -/
def reach (table : Table) (component : Component) (fn : FwVersionFn) : Nat :=
  table.size + max fn.written.bytes.length (fn.version.bytes.length + component.pending.length)

/-- With so many bytes behind the fixed part, every component that passes the size guard is inside
the buffer, header included. -/
def Fits (report : Report) (maxDataSize : Nat) : Nat → List Component → Prop
  | _, [] => True
  | used, component :: rest =>
    match component.getFwVersionFn with
    | none => Fits report maxDataSize used rest
    | some fn =>
      report.refuses maxDataSize used component fn = true ∨
        hdrLen + report.fixedSize + used + reach report.table component fn ≤ maxDataSize ∧
          Fits report maxDataSize (used + growth report.table component fn) rest

/-! ## One component -/

variable {report : Report} {draft next : Draft size} {component : Component} {fn : FwVersionFn}
  {components : List Component} {count : UInt16} {post body : List UInt8}

@[simp]
theorem length_bytes16 (field : UInt16) : (bytes16 field).length = 2 := rfl

@[simp]
theorem read16_bytes16 (field : UInt16) : read16 (bytes16 field) 0 = field := ofNat_bytes16 field

variable {place : Nat} {table : Table}

theorem increment_eq {respBuf : Buffer size} (counted : respBuf.Holds place (bytes16 count)) :
    ∃ after, increment respBuf place = some after ∧
      respBuf.write place (bytes16 (count + 1)) = some after := by
  have inside := counted.inside
  obtain ⟨after, wrote, -⟩ := respBuf.write_eq (bytes16 (count + 1)) inside
  have read : respBuf.read place 2 = some (bytes16 count) := counted
  refine ⟨after, ?_, wrote⟩
  rw [increment, read, bind_eq_bind, bind_some, read16_bytes16, wrote]

theorem storeVersion_eq (respBuf : Buffer size) (place : Nat) (fn : FwVersionFn)
    (written : place + fn.written.bytes.length ≤ size)
    (version : place + fn.version.bytes.length ≤ size) :
    ∃ after, storeVersion respBuf place fn = some after ∧ after.Holds place fn.version.bytes ∧
      Buffer.KeptBefore place respBuf after := by
  obtain ⟨first, wrote, -⟩ := respBuf.write_eq fn.written.bytes written
  have kept := Buffer.keptBefore_write wrote
  unfold storeVersion
  rw [wrote, bind_eq_bind, bind_some]
  unfold FwVersionFn.version at version ⊢
  cases ok : fn.ok with
  | true =>
    exact ⟨first, rfl, Buffer.holds_write wrote, kept⟩
  | false =>
    rw [ok] at version
    obtain ⟨second, again, -⟩ := first.write_eq errorCode.bytes version
    refine ⟨second, again, Buffer.holds_write again, ?_⟩
    exact kept.trans (Buffer.keptBefore_write again)

theorem storeVersion_some {respBuf after : Buffer size}
    (stored : storeVersion respBuf place fn = some after) :
    place + fn.written.bytes.length ≤ size ∧ place + fn.version.bytes.length ≤ size := by
  obtain ⟨first, wrote, stored⟩ := Option.bind_eq_some_iff.mp stored
  have written := (Buffer.write_some wrote).1
  refine ⟨written, ?_⟩
  unfold FwVersionFn.version
  cases ok : fn.ok with
  | true => exact written
  | false =>
    rw [ok] at stored
    exact (Buffer.write_some stored).1

theorem storePending_eq (respBuf : Buffer size) (place : Nat) (component : Component)
    (inside : place + component.pending.length ≤ size) :
    ∃ after, storePending respBuf place component.pendingVersion = some after ∧
      after.Holds place component.pending ∧ Buffer.KeptBefore place respBuf after := by
  unfold Component.pending at inside ⊢
  cases version : component.pendingVersion with
  | none =>
    rw [version] at inside
    exact ⟨respBuf, rfl, Buffer.holds_of_eq inside rfl, fun _ _ _ => id⟩
  | some pendingVersion =>
    rw [version] at inside
    obtain ⟨after, wrote, -⟩ := respBuf.write_eq pendingVersion.bytes inside
    exact ⟨after, wrote, Buffer.holds_write wrote, Buffer.keptBefore_write wrote⟩

theorem storePending_some {respBuf after : Buffer size} (room : place ≤ size)
    (stored : storePending respBuf place component.pendingVersion = some after) :
    place + component.pending.length ≤ size := by
  unfold Component.pending
  cases version : component.pendingVersion with
  | none => exact room
  | some pendingVersion =>
    rw [version] at stored
    exact (Buffer.write_some stored).1

/-- A response with so many components in it so far. -/
structure Sound (report : Report) (draft : Draft size) (count : UInt16)
    (post body : List UInt8) : Prop where
  front : draft.respBuf.Holds (hdrLen + 1) (List.replicate (report.countAt - 1) 0)
  counted : draft.respBuf.Holds (hdrLen + report.countAt) (bytes16 count)
  listed : draft.respBuf.Holds (hdrLen + report.countAt + 2) (post ++ body)
  fixed : report.countAt + 2 + post.length = report.fixedSize
  used : body.length = draft.used

theorem Component.pending_short (component : Component) : component.pending.length ≤ 255 := by
  unfold Component.pending
  cases component.pendingVersion with
  | none => exact Nat.zero_le 255
  | some pendingVersion => exact pendingVersion.short

def chunk (table : Table) (old : List UInt8) (component : Component) (fn : FwVersionFn) :
    List UInt8 :=
  table.bytes old component (UInt8.ofNat fn.version.bytes.length)
    (UInt8.ofNat component.pending.length) ++ (fn.version.bytes ++ component.pending)

theorem reads_chunk (table : Table) {old : List UInt8} (sized : old.length = table.size) :
    Reads (readEntry table) (chunk table old component fn) (entry table component fn) := by
  intro behind
  have head := table.length_bytes old component (UInt8.ofNat fn.version.bytes.length)
    (UInt8.ofNat component.pending.length) sized
  have told := table.read_bytes old component (UInt8.ofNat fn.version.bytes.length)
    (UInt8.ofNat component.pending.length) sized
  have active : fn.version.bytes.length = (table.read (table.bytes old component
      (UInt8.ofNat fn.version.bytes.length) (UInt8.ofNat component.pending.length))).2.1.toNat := by
    rw [told]
    exact (UInt8.toNat_ofNat_of_lt' (Nat.lt_succ_of_le fn.version.short)).symm
  have pending : component.pending.length = (table.read (table.bytes old component
      (UInt8.ofNat fn.version.bytes.length) (UInt8.ofNat component.pending.length))).2.2.toNat := by
    rw [told]
    exact (UInt8.toNat_ofNat_of_lt' (Nat.lt_succ_of_le component.pending_short)).symm
  rw [chunk, append_assoc, append_assoc]
  apply Option.bind_eq_some_iff.mpr
  refine ⟨_, reads_front head _, ?_⟩
  apply Option.bind_eq_some_iff.mpr
  refine ⟨_, reads_front active _, ?_⟩
  apply Option.bind_eq_some_iff.mpr
  refine ⟨_, reads_front pending _, ?_⟩
  exact congrArg (fun identity =>
    some (Entry.mk identity fn.version.bytes component.pending, behind)) (congrArg Prod.fst told)

theorem room_of_reach (inside : place + reach table component fn ≤ size) :
    place + table.size + fn.written.bytes.length ≤ size ∧
      place + table.size + fn.version.bytes.length + component.pending.length ≤ size := by
  unfold reach at inside
  omega

/-- The bytes of a component are in the buffer, and what is before them is kept. -/
theorem storeEntry_eq (table : Table) (respBuf : Buffer size) (place : Nat) (component : Component)
    (fn : FwVersionFn) (inside : place + reach table component fn ≤ size) :
    ∃ old after, old.length = table.size ∧
      storeEntry table respBuf place component fn = some after ∧
      after.Holds place (chunk table old component fn) ∧
      Buffer.KeptBefore place respBuf after := by
  obtain ⟨written, version⟩ := room_of_reach inside
  have read : respBuf.read place table.size = some ((respBuf.bytes.drop place).take table.size) :=
    Buffer.read_eq (by omega)
  have sized : ((respBuf.bytes.drop place).take table.size).length = table.size :=
    length_of_rangeAt read
  generalize (respBuf.bytes.drop place).take table.size = old at read sized
  have tableSize := table.length_bytes old component
    (UInt8.ofNat fn.version.bytes.length) (UInt8.ofNat component.pending.length) sized
  -- The strings come first, then the table in front of them.
  obtain ⟨first, stored, holdsVersion, keptFirst⟩ :=
    storeVersion_eq respBuf (place + table.size) fn written (by omega)
  obtain ⟨second, pended, holdsPending, keptSecond⟩ :=
    storePending_eq first (place + table.size + fn.version.bytes.length) component version
  have strings := (keptSecond _ _ le_rfl holdsVersion).append holdsPending
  obtain ⟨after, tabled, -⟩ := second.write_eq _
    (show place + _ ≤ size by rw [tableSize]; omega)
  have behindTable : after.Holds (place + (table.bytes old component
      (UInt8.ofNat fn.version.bytes.length) (UInt8.ofNat component.pending.length)).length)
      (fn.version.bytes ++ component.pending) := by
    rw [tableSize]
    exact strings.write_apart tabled (.inl (by rw [tableSize]))
  have kept : Buffer.KeptBefore place respBuf second :=
    (keptFirst.earlier (Nat.le_add_right place _)).trans (keptSecond.earlier (by omega))
  refine ⟨old, after, sized, ?_, (Buffer.holds_write tabled).append behindTable,
    kept.trans (Buffer.keptBefore_write tabled)⟩
  refine Option.bind_eq_some_iff.mpr ⟨old, read, ?_⟩
  refine Option.bind_eq_some_iff.mpr ⟨first, stored, ?_⟩
  exact Option.bind_eq_some_iff.mpr ⟨second, pended, tabled⟩

theorem length_chunk (table : Table) {old : List UInt8} (sized : old.length = table.size) :
    (chunk table old component fn).length = growth table component fn := by
  rw [chunk, length_append, length_append, table.length_bytes _ _ _ _ sized, growth]
  omega

theorem append_sound (sound : Sound report draft count post body)
    (inside : hdrLen + report.fixedSize + draft.used + reach report.table component fn ≤ size) :
    Returns (append report draft component fn) fun next =>
      next.used = draft.used + growth report.table component fn ∧
      ∃ bytes, Reads (readEntry report.table) bytes (entry report.table component fn) ∧
        Sound report next (count + 1) post (body ++ bytes) := by
  have fixed := sound.fixed
  have used := sound.used
  have ends : hdrLen + report.countAt + 2 + (post ++ body).length =
      hdrLen + report.fixedSize + draft.used := by
    rw [length_append]
    omega
  have behind := report.behind
  obtain ⟨old, after, sized, stored, whole, kept⟩ :=
    storeEntry_eq report.table draft.respBuf _ component fn inside
  have front := kept _ _ (by rw [length_replicate]; omega) sound.front
  have counted := kept _ _ (by rw [length_bytes16]; omega) sound.counted
  have listed := kept _ _ (Nat.le_of_eq ends) sound.listed
  rw [← ends] at whole
  obtain ⟨last, counts, wrote⟩ := increment_eq counted
  have grown := (listed.append whole).write_apart wrote (.inl (by rw [length_bytes16]))
  rw [append_assoc] at grown
  refine ⟨⟨last, draft.used + growth report.table component fn⟩, ?_, rfl,
    chunk report.table old component fn, reads_chunk report.table sized, ?_⟩
  · refine Option.bind_eq_some_iff.mpr ⟨after, stored, ?_⟩
    exact Option.bind_eq_some_iff.mpr ⟨last, counts, rfl⟩
  · refine ⟨front.write_apart wrote (.inr (by rw [length_replicate]; omega)),
      Buffer.holds_write wrote, grown, fixed, ?_⟩
    rw [length_append, length_chunk report.table sized, used]

theorem append_some (appended : append report draft component fn = some next) :
    hdrLen + report.fixedSize + draft.used + reach report.table component fn ≤ size ∧
      next.used = draft.used + growth report.table component fn := by
  obtain ⟨after, stored, appended⟩ := Option.bind_eq_some_iff.mp appended
  obtain ⟨last, -, made⟩ := Option.bind_eq_some_iff.mp appended
  cases made
  refine ⟨?_, rfl⟩
  obtain ⟨old, -, stored⟩ := Option.bind_eq_some_iff.mp stored
  obtain ⟨first, versioned, stored⟩ := Option.bind_eq_some_iff.mp stored
  obtain ⟨second, pended, -⟩ := Option.bind_eq_some_iff.mp stored
  obtain ⟨written, version⟩ := storeVersion_some versioned
  have pending := storePending_some version pended
  unfold reach
  omega

/-! ## The loop -/

theorem listed_cons_none (none : component.getFwVersionFn = none) :
    listed table (component :: components) = listed table components := by
  simp [listed, none]

theorem listed_cons_some (some : component.getFwVersionFn = some fn) :
    listed table (component :: components) =
      entry table component fn :: listed table components := by
  simp [listed, some]

/-- When every component that passes the size guard fits, the loop returns, and if it came to its
end every component with a callback is in the response. -/
theorem appendAll_sound (sound : Sound report draft count post body)
    (fits : Fits report size draft.used components) :
    Returns (appendAll report components draft) fun result => result.2 = true →
      ∃ chunks, List.Forall₂ (Reads (readEntry report.table)) chunks
          (listed report.table components) ∧
        Sound report result.1 (count + UInt16.ofNat (listed report.table components).length) post
          (body ++ chunks.flatten) := by
  induction components generalizing draft count body with
  | nil =>
    refine .intro fun _ => ⟨[], .nil, ?_⟩
    show Sound report draft (count + 0) post (body ++ [])
    rw [UInt16.add_zero, append_nil]
    exact sound
  | cons component rest ih =>
    unfold appendAll
    unfold Fits at fits
    cases callback : component.getFwVersionFn with
    | none =>
      rw [callback] at fits
      rw [listed_cons_none callback]
      exact ih sound fits
    | some fn =>
      rw [callback] at fits
      rw [listed_cons_some callback]
      refine Returns.ite (fun _ => .intro nofun) fun passed => ?_
      have inside := fits.resolve_left passed
      refine (append_sound sound inside.1).bind fun next appended => ?_
      obtain ⟨used, bytes, reads, grown⟩ := appended
      have later := inside.2
      rw [← used] at later
      refine (ih grown later).mono fun result ended complete => ?_
      obtain ⟨chunks, each, whole⟩ := ended complete
      refine ⟨bytes :: chunks, .cons reads each, ?_⟩
      rw [length_cons, flatten_cons, ← append_assoc, Nat.add_comm _ 1,
        UInt16.ofNat_add, ← UInt16.add_assoc]
      exact whole

theorem fits_of_appendAll {result : Draft size × Bool}
    (ran : appendAll report components draft = some result) :
    Fits report size draft.used components := by
  induction components generalizing draft with
  | nil => trivial
  | cons component rest ih =>
    unfold appendAll at ran
    unfold Fits
    cases callback : component.getFwVersionFn with
    | none =>
      rw [callback] at ran
      exact ih ran
    | some fn =>
      rw [callback] at ran
      dsimp only at ran ⊢
      cases refused : report.refuses size draft.used component fn with
      | true => exact .inl rfl
      | false =>
        rw [refused] at ran
        obtain ⟨next, appended, ran⟩ := Option.bind_eq_some_iff.mp ran
        obtain ⟨inside, used⟩ := append_some appended
        refine .inr ⟨inside, ?_⟩
        rw [← used]
        exact ih ran

/-! ## The responses -/

theorem complete_sound (sound : Sound report draft count post body) (code : UInt8) :
    Returns (complete draft.respBuf code (report.fixedSize + draft.used)) fun response =>
      response.sent = some ([code] ++ (List.replicate (report.countAt - 1) 0 ++
        (bytes16 count ++ (post ++ body)))) := by
  have fixed := sound.fixed
  have used := sound.used
  have before := report.behind
  have inside := sound.counted.inside
  have hdr : hdrLen + [code].length = hdrLen + 1 := rfl
  have zeros : hdrLen + 1 + (List.replicate (report.countAt - 1) (0 : UInt8)).length =
      hdrLen + report.countAt := by
    rw [length_replicate]
    omega
  obtain ⟨after, wrote, -⟩ := draft.respBuf.write_eq [code] (show hdrLen + 1 ≤ size by omega)
  have front := sound.front.write_apart wrote (.inl (Nat.le_of_eq hdr))
  have counted := sound.counted.write_apart wrote (.inl (by rw [hdr]; omega))
  have listed := sound.listed.write_apart wrote (.inl (by rw [hdr]; omega))
  have third := counted.append listed
  rw [← zeros] at third
  have second := front.append third
  have whole := (Buffer.holds_write wrote).append second
  have long : ([code] ++ (List.replicate (report.countAt - 1) 0 ++
      (bytes16 count ++ (post ++ body)))).length = report.fixedSize + draft.used := by
    simp only [length_append, length_replicate, length_bytes16, length_singleton]
    omega
  refine ⟨⟨after, report.fixedSize + draft.used⟩,
    Option.bind_eq_some_iff.mpr ⟨after, wrote, rfl⟩, ?_⟩
  show after.read hdrLen (report.fixedSize + draft.used) = some _
  rw [← long]
  exact whole

variable {chunks : List (List UInt8)} {entries : List Entry}

theorem readEntries_eq {data : List UInt8}
    (each : List.Forall₂ (Reads (readEntry report.table)) chunks entries)
    (few : entries.length < 2 ^ 16)
    (counted : rangeAt data report.countAt 2 = some (bytes16 (UInt16.ofNat entries.length))) :
    readEntries report data chunks.flatten = some entries := by
  have whole := reads_many each []
  rw [append_nil] at whole
  refine Option.bind_eq_some_iff.mpr ⟨_, counted, ?_⟩
  rw [read16_bytes16, UInt16.toNat_ofNat_of_lt' few]
  exact Option.bind_eq_some_iff.mpr ⟨_, whole, if_pos rfl⟩

theorem length_listed_le (table : Table) (components : List Component) :
    (listed table components).length ≤ components.length :=
  length_filterMap_le _ _

variable {platform : FwPlatform}

theorem length_pldmGetBicFwVersion (version : BicVersion) :
    (pldmGetBicFwVersion version).length ≤ 12 := by
  unfold pldmGetBicFwVersion
  cases version.platform <;> simp [bin2hex]

theorem imageSetVersion_sound (platform : FwPlatform) (hdr : Header) :
    Returns (imageSetVersion platform (respBuf platform.toBuild hdr)) fun draft =>
      draft.used = (pldmGetBicFwVersion platform.bicVersion).length ∧
      Sound firmwareReport draft 0
        [pldmCompAscii, UInt8.ofNat (pldmGetBicFwVersion platform.bicVersion).length,
          pldmCompVerStrTypeUnknown, 0] (pldmGetBicFwVersion platform.bicVersion) := by
  have enough := platform.enough
  have short := length_pldmGetBicFwVersion platform.bicVersion
  have eleven : firmwareReport.fixedSize = 11 := rfl
  have four : hdrLen = 4 := rfl
  unfold imageSetVersion
  generalize pldmGetBicFwVersion platform.bicVersion = version at short
  have front : (respBuf platform.toBuild hdr).Holds (hdrLen + 1) (List.replicate 4 0) :=
    holds_respBuf hdr (Nat.le_succ _) (by omega)
  have counted : (respBuf platform.toBuild hdr).Holds (hdrLen + 5) (bytes16 0) :=
    holds_respBuf hdr (Nat.le_add_right _ _) (show hdrLen + 5 + 2 ≤ _ by omega)
  obtain ⟨first, wrote, -⟩ := (respBuf platform.toBuild hdr).write_eq
    [pldmCompAscii, UInt8.ofNat version.length, pldmCompVerStrTypeUnknown, 0]
    (show hdrLen + 7 + 4 ≤ _ by omega)
  obtain ⟨second, again, -⟩ := first.write_eq version
    (show hdrLen + firmwareReport.fixedSize + _ ≤ _ by omega)
  have kept := (Buffer.keptBefore_write wrote).trans
    ((Buffer.keptBefore_write again).earlier (show hdrLen + 7 ≤ hdrLen + 11 by omega))
  have fields := (Buffer.holds_write wrote).write_apart again (.inr le_rfl)
  refine ⟨⟨second, version.length⟩, ?_, rfl,
    kept _ _ (show hdrLen + 1 + 4 ≤ hdrLen + 7 by omega) front,
    kept _ _ (show hdrLen + 5 + 2 ≤ hdrLen + 7 by omega) counted,
    fields.append (Buffer.holds_write again), rfl, rfl⟩
  exact Option.bind_eq_some_iff.mpr ⟨first, wrote,
    Option.bind_eq_some_iff.mpr ⟨second, again, rfl⟩⟩

theorem reports_error {α : Type} {respBuf : Buffer size} {read : List UInt8 → Option α} {right : α}
    {code : UInt8} {respLen : Nat} (room : hdrLen + respLen ≤ size) (nonempty : 0 < respLen)
    (error : code ≠ pldmSuccess) : Reports (complete respBuf code respLen) read right := by
  refine (complete_code code room nonempty).mono fun response sent => ?_
  obtain ⟨data, sent, first⟩ := sent
  exact ⟨data, sent, .inl (by rw [first]; exact error)⟩

theorem readFirmwareParameters_eq {version : List UInt8} (short : version.length ≤ 12) (few : entries.length < 2 ^ 16)
    (each : List.Forall₂ (Reads (readEntry componentParameterTable)) chunks entries) :
    readFirmwareParameters ([pldmSuccess] ++ (List.replicate 4 0 ++
      (bytes16 (UInt16.ofNat entries.length) ++
        ([pldmCompAscii, UInt8.ofNat version.length, pldmCompVerStrTypeUnknown, 0] ++
          (version ++ chunks.flatten))))) = some (version, entries) := by
  have told : version.length = (UInt8.ofNat version.length).toNat :=
    (UInt8.toNat_ofNat_of_lt' (Nat.lt_of_le_of_lt short (by decide))).symm
  unfold readFirmwareParameters
  generalize shape : [pldmSuccess] ++ (List.replicate 4 0 ++
    (bytes16 (UInt16.ofNat entries.length) ++
      ([pldmCompAscii, UInt8.ofNat version.length, pldmCompVerStrTypeUnknown, 0] ++
        (version ++ chunks.flatten)))) = data
  have activeLen : byteAt data 8 = some (UInt8.ofNat version.length) := by
    rw [← shape]
    rfl
  have pendingLen : byteAt data 10 = some 0 := by
    rw [← shape]
    rfl
  have behind : data.drop 11 = version ++ chunks.flatten := by
    rw [← shape]
    rfl
  have counted : rangeAt data 5 2 = some (bytes16 (UInt16.ofNat entries.length)) := by
    rw [← shape]
    rfl
  rw [activeLen, bind_eq_bind, bind_some, pendingLen, bind_eq_bind,
    bind_some, behind]
  refine Option.bind_eq_some_iff.mpr ⟨_, reads_front told chunks.flatten, ?_⟩
  have none : ([] : List UInt8).length = (0 : UInt8).toNat := rfl
  refine Option.bind_eq_some_iff.mpr ⟨_, reads_front none chunks.flatten, ?_⟩
  exact Option.bind_eq_some_iff.mpr ⟨entries, readEntries_eq each few counted, rfl⟩

theorem firmwareReported (fits : Fits firmwareReport platform.maxDataSize
    (pldmGetBicFwVersion platform.bicVersion).length platform.compConfig) :
    FirmwareReported platform := by
  intro len hdr
  have enough := platform.enough
  have eleven : firmwareReport.fixedSize = 11 := rfl
  have four : hdrLen = 4 := rfl
  have few := length_listed_le componentParameterTable platform.compConfig
  have counted := platform.counted
  refine Returns.ite (fun _ => reports_error (by omega) Nat.one_pos (by decide)) fun _ => ?_
  refine (imageSetVersion_sound platform hdr).bind fun draft begun => ?_
  obtain ⟨used, sound⟩ := begun
  rw [← used] at fits
  refine (appendAll_sound sound fits).bind fun result ran => ?_
  obtain ⟨next, ended⟩ := result
  cases ended with
  | false => exact reports_error (by omega) (by omega) (by decide)
  | true =>
    obtain ⟨chunks, each, whole⟩ := ran rfl
    rw [UInt16.zero_add] at whole
    refine (complete_sound whole pldmSuccess).mono fun _ sent => ⟨_, sent, .inr ?_⟩
    exact readFirmwareParameters_eq (length_pldmGetBicFwVersion _)
      (show (listed componentParameterTable platform.compConfig).length < 2 ^ 16 by omega) each

theorem readDownstreamParameters_eq (few : entries.length < 2 ^ 16)
    (each : List.Forall₂ (Reads (readEntry downstreamDeviceParameterTable)) chunks entries) :
    readDownstreamParameters ([pldmSuccess] ++ (List.replicate 9 0 ++
      (bytes16 (UInt16.ofNat entries.length) ++ ([] ++ ([] ++ chunks.flatten))))) = some entries :=
  readEntries_eq each few rfl

/-- The downstream parameters are reported when every component that passes the size guard fits. -/
theorem downstreamReported
    (fits : Fits downstreamReport platform.maxDataSize 0 (platform.compConfig.drop 1)) :
    DownstreamReported platform := by
  intro len hdr
  have enough := platform.enough
  have four : hdrLen = 4 := rfl
  have few := length_listed_le downstreamDeviceParameterTable (platform.compConfig.drop 1)
  have counted := platform.counted
  rw [length_drop] at few
  refine Returns.ite (fun _ => reports_error (by omega) Nat.one_pos (by decide)) fun _ => ?_
  have front : (respBuf platform.toBuild hdr).Holds (hdrLen + 1) (List.replicate 9 0) :=
    holds_respBuf hdr (Nat.le_succ _) (by omega)
  have counts : (respBuf platform.toBuild hdr).Holds (hdrLen + 10) (bytes16 0) :=
    holds_respBuf hdr (Nat.le_add_right _ _) (show hdrLen + 10 + 2 ≤ platform.maxDataSize by omega)
  have nothing : (respBuf platform.toBuild hdr).Holds (hdrLen + 12) (List.replicate 0 0) :=
    holds_respBuf hdr (Nat.le_add_right _ _) (by omega)
  have sound : Sound downstreamReport ⟨respBuf platform.toBuild hdr, 0⟩ 0 [] [] :=
    ⟨front, counts, nothing, rfl, rfl⟩
  refine (appendAll_sound sound fits).bind fun result ran => ?_
  obtain ⟨next, ended⟩ := result
  cases ended with
  | false => exact reports_error (by omega) Nat.one_pos (by decide)
  | true =>
    obtain ⟨chunks, each, whole⟩ := ran rfl
    rw [UInt16.zero_add] at whole
    refine (complete_sound whole pldmSuccess).mono fun _ sent => ⟨_, sent, .inr ?_⟩
    exact readDownstreamParameters_eq (show (listed downstreamDeviceParameterTable
      (platform.compConfig.drop 1)).length < 2 ^ 16 by omega) each

theorem fits_of_firmwareReported (reported : FirmwareReported platform) :
    Fits firmwareReport platform.maxDataSize (pldmGetBicFwVersion platform.bicVersion).length
      platform.compConfig := by
  obtain ⟨draft, begun, used, -⟩ := imageSetVersion_sound platform Header.zero
  obtain ⟨response, ran, -⟩ := reported 0 Header.zero
  obtain ⟨same, began, ran⟩ := Option.bind_eq_some_iff.mp ran
  obtain rfl : draft = same := mem_unique begun began
  obtain ⟨result, ran, -⟩ := Option.bind_eq_some_iff.mp ran
  rw [← used]
  exact fits_of_appendAll ran

theorem fits_of_downstreamReported (reported : DownstreamReported platform) :
    Fits downstreamReport platform.maxDataSize 0 (platform.compConfig.drop 1) := by
  obtain ⟨response, ran, -⟩ := reported 5 Header.zero
  obtain ⟨result, ran, -⟩ := Option.bind_eq_some_iff.mp ran
  exact fits_of_appendAll ran

/-- The firmware parameters and the downstream parameters of a platform are reported exactly when
every component that passes the size guards fits. -/
theorem reported_iff (platform : FwPlatform) :
    FirmwareReported platform ∧ DownstreamReported platform ↔
      Fits firmwareReport platform.maxDataSize (pldmGetBicFwVersion platform.bicVersion).length
          platform.compConfig ∧
        Fits downstreamReport platform.maxDataSize 0 (platform.compConfig.drop 1) :=
  ⟨fun reported => ⟨fits_of_firmwareReported reported.1, fits_of_downstreamReported reported.2⟩,
    fun fits => ⟨firmwareReported fits.1, downstreamReported fits.2⟩⟩

def longVersion (char : UInt8) : VersionString where
  bytes := List.replicate 240 char
  short := by
    rw [length_replicate]
    decide

/-- A platform with one component, both of whose versions are long. Its callback has nothing to
tell without a buffer, as the callbacks of the repository. -/
def longVersions : FwPlatform where
  toBuild := Build.default
  bicVersion := { platform := none, yearMsb := 0x20, yearLsb := 0x25, week := 0x01, ver := 0x01 }
  compConfig := [{
    compClassification := 0x000A
    compIdentifier := 0x0001
    activateMethod := 0x0002
    getFwVersionFn := some { told := none, written := longVersion 0x41, ok := true }
    pendingVersion := some (longVersion 0x42) }]
  counted := by decide

/-- They pass the size guard and do not fit. -/
theorem longVersions_overrun :
    ¬ (FirmwareReported longVersions ∧ DownstreamReported longVersions) := by
  intro reported
  have fits := fits_of_firmwareReported reported.1
  cases fits with
  | inl refused => exact absurd refused (by decide +kernel)
  | inr inside => exact absurd inside.1 (by decide +kernel)

end OpenBic.Pldm.FirmwareParameters
