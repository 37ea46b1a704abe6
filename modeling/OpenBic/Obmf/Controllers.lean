import OpenBic.Obmf.Accounting
import OpenBic.Obmf.Answer

/-!
# Serial and bus controllers

`handle_serial_request`, `handle_i2c_request` and `handle_i3c_request`, which hand what the host
sends to the platform, and that each answers its requests. Beside a handler stand the ranges of the
request that it reads.
-/

namespace OpenBic.Obmf

open List Library.Checked Library.Splice Library.Field

variable {req : List UInt8}

/-! ## Serial -/

def serialReqHdrSize : Nat := 3

/-- `char_count`. -/
def serialCharCount (req : List UInt8) : UInt16 := read16 (payload req) 1

/-- `handle_serial_request`, with the callback of the channel if one is registered. -/
def handleSerialRequest (rxCb : Option (List UInt8 → UInt16)) (req : List UInt8) : List UInt8 :=
  let charCount := serialCharCount req
  if (payload req).length < serialReqHdrSize then buildErrResponse req statusInvalidCmd
  else if (payload req).length - serialReqHdrSize < charCount.toNat then
    buildErrResponse req statusInvalidCmd
  else
    let charData := ((payload req).drop serialReqHdrSize).take charCount.toNat
    let accepted :=
      match rxCb with
      | some rxCb => if 0 < charCount then rxCb charData else charCount
      | none => charCount
    response req statusSuccess ((if accepted < charCount then 1 else 0) :: bytes16 accepted)

/-- What `handle_serial_request` reads behind the common header: the count and the characters. -/
def serialReads (req : List UInt8) : List (Nat × Nat) :=
  if (payload req).length < serialReqHdrSize then []
  else if (payload req).length - serialReqHdrSize < (serialCharCount req).toNat then
    [(headerSize + 1, 2)]
  else [(headerSize + 1, 2), (headerSize + serialReqHdrSize, (serialCharCount req).toNat)]

theorem covers_serialReads (req : List UInt8) : Covers req (serialReads req) := by
  have length : (payload req).length = req.length - headerSize := length_drop
  unfold headerSize at length
  unfold serialReads headerSize serialReqHdrSize
  split
  · exact covers_nil req
  · split
    · simp only [covers_cons, covers_nil, and_true]
      omega
    · simp only [covers_cons, covers_nil, and_true]
      omega

theorem wellFormed_handleSerialRequest (rxCb : Option (List UInt8 → UInt16)) (req : List UInt8) :
    WellFormed req (handleSerialRequest rxCb req) := by
  unfold handleSerialRequest
  dsimp only
  split
  · exact wellFormed_buildErrResponse req _
  · split
    · exact wellFormed_buildErrResponse req _
    · exact wellFormed_response (show headerSize + 3 ≤ rspBufSize by decide)

/-! ## I2C -/

def i2cReqHdrSize : Nat := 4

def i2cRspHdrSize : Nat := 4

def i2cMaxReadLen : Nat := rspBufSize - headerSize - i2cRspHdrSize

def i2cMaxXferLen : Nat := 255

def i2cCmdRead : UInt8 := 0

def i2cCmdWrite : UInt8 := 1

def i2cCmdSmbusWriteRead : UInt8 := 3

def Errno.i2cStatus : Errno → UInt8
  | .nxio => 0x43
  | .timedOut => 0x40
  | .busy => 0x42
  | _ => statusPermanentError

/-- `i2c_master_read` and `i2c_master_write` on a bus, with their retries; `δ` is the state of the
buses. -/
structure I2cMaster (δ : Type) where
  /-- A write of some bytes to an address, and then a read of so many: what is in the buffer of the
  message afterwards. -/
  read : δ → UInt8 → UInt8 → List UInt8 → Nat → Except Errno (Nat → UInt8) × δ
  write : δ → UInt8 → UInt8 → List UInt8 → Option Errno × δ

def i2cCommandByte (req : List UInt8) : UInt8 := (payload req).getD 0 0

def i2cCommand (req : List UInt8) : UInt8 := i2cCommandByte req &&& 0x7F

/-- `read_length`. -/
def i2cReadLen (req : List UInt8) : Nat := (read16 (payload req) 2).toNat

/-- `write_len`, which has sixteen bits. -/
def i2cWriteLen (req : List UInt8) : Nat := ((payload req).length - i2cReqHdrSize) % 2 ^ 16

def i2cWriteData (req : List UInt8) : List UInt8 :=
  ((payload req).drop i2cReqHdrSize).take (i2cWriteLen req)

def buildI2cResponse (req : List UInt8) (status command : UInt8) (readData : List UInt8) :
    List UInt8 :=
  let readData := if status ≠ statusSuccess then [] else readData
  response req status
    ((command &&& 0x7F) :: (bytes16 (UInt16.ofNat readData.length) ++ (0 :: readData)))

section I2c

variable {δ : Type}

def i2cReadResponse (req : List UInt8) (result : Except Errno (Nat → UInt8)) : List UInt8 :=
  match result with
  | .error errno => buildI2cResponse req errno.i2cStatus (i2cCommandByte req) []
  | .ok data =>
    buildI2cResponse req statusSuccess (i2cCommandByte req) (cells data (i2cReadLen req))

/-- `handle_i2c_request`, with the bus of the channel, which is `0xFF` when it has none. -/
def handleI2cRequest (master : I2cMaster δ) (bus : UInt8) (driver : δ) (req : List UInt8) :
    List UInt8 × δ :=
  let refuse (status command : UInt8) := (buildI2cResponse req status command [], driver)
  let address := (payload req).getD 1 0 &&& 0x7F
  if bus = 0xFF then refuse statusInvalidCmd 0
  else if (payload req).length < i2cReqHdrSize then refuse statusInvalidCmd 0
  else if i2cMaxReadLen < i2cReadLen req ∨ i2cMaxXferLen < i2cWriteLen req then
    refuse statusSizeNotSupported (i2cCommandByte req)
  else if i2cCommand req = i2cCmdRead then
    if i2cReadLen req = 0 then refuse statusInvalidCmd (i2cCommandByte req)
    else
      let (result, driver) := master.read driver bus address [] (i2cReadLen req)
      (i2cReadResponse req result, driver)
  else if i2cCommand req = i2cCmdWrite then
    let (result, driver) := master.write driver bus address (i2cWriteData req)
    let status := result.elim statusSuccess Errno.i2cStatus
    (buildI2cResponse req status (i2cCommandByte req) [], driver)
  else if i2cCommand req = i2cCmdSmbusWriteRead then
    if i2cReadLen req = 0 then refuse statusInvalidCmd (i2cCommandByte req)
    else
      let (result, driver) := master.read driver bus address (i2cWriteData req) (i2cReadLen req)
      (i2cReadResponse req result, driver)
  else refuse statusInvalidCmd (i2cCommandByte req)

end I2c

/-- What `handle_i2c_request` reads behind the common header: the rest of the header, and the data
of a command that writes. -/
def i2cReads (bus : UInt8) (req : List UInt8) : List (Nat × Nat) :=
  if bus = 0xFF ∨ (payload req).length < i2cReqHdrSize then []
  else if i2cMaxReadLen < i2cReadLen req ∨ i2cMaxXferLen < i2cWriteLen req then
    [(headerSize, i2cReqHdrSize)]
  else if i2cCommand req = i2cCmdWrite ∨
      (i2cCommand req = i2cCmdSmbusWriteRead ∧ i2cReadLen req ≠ 0) then
    [(headerSize, i2cReqHdrSize), (headerSize + i2cReqHdrSize, i2cWriteLen req)]
  else [(headerSize, i2cReqHdrSize)]

theorem covers_i2cReads (bus : UInt8) (req : List UInt8) : Covers req (i2cReads bus req) := by
  have length : (payload req).length = req.length - headerSize := length_drop
  have part : i2cWriteLen req ≤ (payload req).length - i2cReqHdrSize := Nat.mod_le _ _
  unfold headerSize at length
  unfold i2cReqHdrSize at part
  unfold i2cReads headerSize i2cReqHdrSize
  split
  · exact covers_nil req
  split
  · simp only [covers_cons, covers_nil, and_true]
    omega
  split
  · simp only [covers_cons, covers_nil, and_true]
    omega
  · simp only [covers_cons, covers_nil, and_true]
    omega

theorem wellFormed_buildI2cResponse {status command : UInt8} {readData : List UInt8}
    (few : readData.length ≤ i2cMaxReadLen) :
    WellFormed req (buildI2cResponse req status command readData) := by
  have fewer : (if status ≠ statusSuccess then [] else readData).length ≤ i2cMaxReadLen := by
    split
    · exact Nat.zero_le _
    · exact few
  unfold i2cMaxReadLen at fewer
  apply wellFormed_response
  rw [length_cons, length_append, length_cons]
  unfold headerSize i2cRspHdrSize rspBufSize at *
  have two (field : UInt16) : (bytes16 field).length = 2 := rfl
  rw [two]
  omega

theorem wellFormed_i2cReadResponse (result : Except Errno (Nat → UInt8))
    (few : i2cReadLen req ≤ i2cMaxReadLen) : WellFormed req (i2cReadResponse req result) := by
  unfold i2cReadResponse
  split
  · exact wellFormed_buildI2cResponse (Nat.zero_le _)
  · apply wellFormed_buildI2cResponse
    rwa [length_cells]

theorem wellFormed_handleI2cRequest {δ : Type} (master : I2cMaster δ) (bus : UInt8) (driver : δ)
    (req : List UInt8) : WellFormed req (handleI2cRequest master bus driver req).1 := by
  have bare (status command : UInt8) : WellFormed req (buildI2cResponse req status command []) :=
    wellFormed_buildI2cResponse (Nat.zero_le _)
  unfold handleI2cRequest
  split
  · exact bare _ _
  split
  · exact bare _ _
  split
  · exact bare _ _
  rename_i sized
  have few : i2cReadLen req ≤ i2cMaxReadLen := Nat.le_of_not_lt fun large => sized (.inl large)
  split
  · split
    · exact bare _ _
    · exact wellFormed_i2cReadResponse _ few
  split
  · exact bare _ _
  split
  · split
    · exact bare _ _
    · exact wellFormed_i2cReadResponse _ few
  · exact bare _ _

/-! ## I3C -/

def i3cReqHdrSize : Nat := 6

def i3cMaxNum : Nat := 8

def i3cCmdExecuteSequence : UInt8 := 0

def i3cCmdDoDaa : UInt8 := 1

def i3cCmdBusRecovery : UInt8 := 2

def i3cCmdSetAssociatedI2c : UInt8 := 3

def i3cCmdGetStats : UInt8 := 4

/-- `i3c_errno_to_chan_status` of an error. -/
def Errno.chanStatus : Errno → UInt8
  | .nxio | .nodev => 0x43
  | .busy => 0x42
  | .timedOut => 0x40
  | .io => 0x44
  | .again | .other => statusPermanentError

/-- A device that a dynamic address assignment found. -/
structure DaaDevice where
  dynamicAddr : UInt8
  pid : List UInt8
  pidSized : pid.length = 6
  bcr : UInt8
  dcr : UInt8
  ibi : Bool

/-- `obmf_i3c_daa_dev_t`. -/
def DaaDevice.bytes (device : DaaDevice) : List UInt8 :=
  device.dynamicAddr :: (device.pid ++ [device.bcr, device.dcr])

/-- The driver of an I3C bus with what is not a transfer. -/
structure I3cMaster (δ : Type) extends I3cBus δ where
  refresh : δ → δ
  /-- `i3c_brocast_ccc` of `I3C_CCC_RSTDAA`: its error, if any. -/
  rstdaa : δ → Option Errno × δ
  /-- `i3c_master_do_daa`, and what `handle_daa` does for each device that it found. -/
  doDaa : δ → Except Errno (List DaaDevice) × δ

/-- The I3C buses, as the platform set them up. -/
structure I3cBuses where
  /-- `i3c_controller_bus`, which is `0xFF` for a channel without a bus. -/
  controllerBus : UInt8 → UInt8
  /-- The bus has a device in `dev_i3c`. -/
  initialised : UInt8 → Bool

/-- `i3c_channel_of_bus`. -/
def I3cBuses.channelOf (buses : I3cBuses) (bus : UInt8) : UInt8 :=
  if buses.controllerBus 18 = bus then 18 else if buses.controllerBus 19 = bus then 19 else 0

/-- `build_i3c_response`, with what was put behind the header. -/
def buildI3cResponse (req : List UInt8) (status command resultCount : UInt8)
    (extra : List UInt8) : List UInt8 :=
  response req status (command :: resultCount :: extra)

/-- `IBI_PAYLOAD_SIZE`. -/
def ibiBufSize : UInt16 := 256

/-- `obmf_i3c_request_ibi` for a device that can send IBIs: its target is published. -/
def publishIbi (channel : UInt8) (service : Service) (device : DaaDevice) : Service :=
  if device.bcr &&& 0x02 ≠ 0 ∧ device.ibi then
    service.ibiTargetSet channel device.dynamicAddr ibiBufSize
  else service

/-- What `handle_i3c_request` changes: the association with an I2C channel and the targets in the
configuration space. -/
structure I3cState where
  associatedI2cChannel : UInt16
  service : Service

section I3c

variable {δ : Type}

/-- `handle_daa`, behind the reset of the addresses. -/
def handleDaa (buses : I3cBuses) (bus : UInt8) (req : List UInt8) (state : I3cState) :
    Except Errno (List DaaDevice) → List UInt8 × I3cState
  | .error errno => (buildI3cResponse req errno.chanStatus i3cCmdDoDaa 0 [], state)
  | .ok devices =>
    if i3cMaxNum < devices.length then
      (buildI3cResponse req statusPermanentError i3cCmdDoDaa 0 [], state)
    else
      (buildI3cResponse req statusSuccess i3cCmdDoDaa (UInt8.ofNat devices.length)
        (devices.flatMap DaaDevice.bytes),
        { state with service := devices.foldl (publishIbi (buses.channelOf bus)) state.service })

/-- `handle_i3c_request`. It comes to nothing when a sequence reads past the end of the message. -/
def handleI3cRequest (master : I3cMaster δ) (buses : I3cBuses) (state : I3cState) (driver : δ)
    (req : List UInt8) : Option (List UInt8 × I3cState × δ) :=
  let bus := buses.controllerBus (readHeader req).channel
  let refuse (status : UInt8) := buildI3cResponse req status 0 0 []
  if bus = 0xFF then some (refuse statusInvalidCmd, state, driver)
  else if buses.initialised bus = false then some (refuse statusNotReady, state, driver)
  else if (payload req).length < 2 then some (refuse statusInvalidCmd, state, driver)
  else
    let command := (payload req).getD 0 0
    let parameter := (payload req).getD 1 0
    if command = i3cCmdDoDaa then
      let (_, driver) := master.rstdaa driver
      let (result, driver) := master.doDaa driver
      let (rsp, state) := handleDaa buses bus req state result
      some (rsp, state, driver)
    else
      let driver := master.refresh driver
      if command = i3cCmdExecuteSequence then do
        let (_, body, driver) ←
          handleExecuteSequence master.toI3cBus driver parameter ((payload req).drop 2)
        some (response req statusSuccess body, state, driver)
      else if command = i3cCmdBusRecovery then
        let (result, driver) := master.rstdaa driver
        let status := result.elim statusSuccess Errno.chanStatus
        some (buildI3cResponse req status command 0 [], state, driver)
      else if command = i3cCmdSetAssociatedI2c then
        if (payload req).length < i3cReqHdrSize then
          some (buildI3cResponse req statusInvalidCmd command 0 [], state, driver)
        else
          some (buildI3cResponse req statusSuccess command 0 [],
            { state with associatedI2cChannel := read16 (payload req) 2 }, driver)
      else if command = i3cCmdGetStats then
        some (buildI3cResponse req statusSuccess command 0 [], state, driver)
      else some (buildI3cResponse req statusInvalidCmd command 0 [], state, driver)

end I3c

/-- What `handle_i3c_request` reads behind the common header, apart from the operations of a
sequence: the command with its parameter, and the channel to be associated. -/
def i3cReads (buses : I3cBuses) (req : List UInt8) : List (Nat × Nat) :=
  let bus := buses.controllerBus (readHeader req).channel
  if bus = 0xFF ∨ buses.initialised bus = false ∨ (payload req).length < 2 then []
  else if (payload req).getD 0 0 = i3cCmdSetAssociatedI2c ∧
      i3cReqHdrSize ≤ (payload req).length then
    [(headerSize, 2), (headerSize + 2, 2)]
  else [(headerSize, 2)]

theorem covers_i3cReads (buses : I3cBuses) (req : List UInt8) :
    Covers req (i3cReads buses req) := by
  have length : (payload req).length = req.length - headerSize := length_drop
  unfold headerSize at length
  unfold i3cReads headerSize i3cReqHdrSize
  dsimp only
  split
  · exact covers_nil req
  split
  · simp only [covers_cons, covers_nil, and_true]
    omega
  · simp only [covers_cons, covers_nil, and_true]
    omega

/-- The request runs a sequence on a bus that is there. -/
def RunsSequence (buses : I3cBuses) (req : List UInt8) : Prop :=
  buses.controllerBus (readHeader req).channel ≠ 0xFF ∧
    buses.initialised (buses.controllerBus (readHeader req).channel) = true ∧
    2 ≤ (payload req).length ∧ (payload req).getD 0 0 = i3cCmdExecuteSequence

def sequenceTransfers (req : List UInt8) : List BusTransfer :=
  transfers ((payload req).getD 1 0).toNat ((payload req).drop 2)

/-- The data written by the operations that a sequence can reach lies in the message. -/
def SequenceInside (req : List UInt8) : Prop := Walk Op.Inside (sequenceTransfers req) 0 0

theorem returns_handleExecuteSequence {δ : Type} (bus : I3cBus δ) (driver : δ) {numOps : UInt8}
    {opsData : List UInt8} (inside : Walk Op.Inside (transfers numOps.toNat opsData) 0 0) :
    Returns (handleExecuteSequence bus driver numOps opsData) fun outcome =>
      headerSize + outcome.2.1.length ≤ rspBufSize := by
  have ran : Returns (runTransfers bus driver 0 (transfers numOps.toNat opsData)) _ :=
    supplies_inside.returns (paired_transfers _ _) driver inside le_rfl le_rfl
  refine ran.bind fun ⟨ran, driver⟩ few => .intro ?_
  have few : (ran.flatten.flatMap Done.bytes).length ≤ i3cMaxRspPayload - 0 := few
  rw [length_cons, length_cons]
  unfold i3cMaxRspPayload at few
  unfold headerSize rspBufSize
  omega

section Answers

variable {δ : Type} (master : I3cMaster δ) (buses : I3cBuses) (state : I3cState) (driver : δ)

theorem wellFormed_buildI3cResponse {status command resultCount : UInt8} {extra : List UInt8}
    (few : extra.length ≤ i3cMaxRspPayload) :
    WellFormed req (buildI3cResponse req status command resultCount extra) := by
  apply wellFormed_response
  rw [length_cons, length_cons]
  unfold i3cMaxRspPayload at few
  unfold headerSize rspBufSize
  omega

theorem length_flatMap_daaDevice (devices : List DaaDevice) :
    (devices.flatMap DaaDevice.bytes).length = 9 * devices.length := by
  induction devices with
  | nil => rfl
  | cons device rest ih =>
    rw [flatMap_cons, length_append, ih, length_cons, DaaDevice.bytes,
      length_cons, length_append, device.pidSized]
    simp only [length_cons, length_nil]
    omega

theorem wellFormed_handleDaa (bus : UInt8) (result : Except Errno (List DaaDevice)) :
    WellFormed req (handleDaa buses bus req state result).1 := by
  unfold handleDaa
  split
  · exact wellFormed_buildI3cResponse (Nat.zero_le _)
  · split
    · exact wellFormed_buildI3cResponse (Nat.zero_le _)
    · rename_i devices few
      unfold i3cMaxNum at few
      apply wellFormed_buildI3cResponse
      rw [length_flatMap_daaDevice]
      unfold i3cMaxRspPayload
      omega

/-- A request on an I3C controller channel is answered, if the data of its sequence lies in the
message. -/
theorem wellFormed_handleI3cRequest (inside : RunsSequence buses req → SequenceInside req) :
    Returns (handleI3cRequest master buses state driver req) fun outcome =>
      WellFormed req outcome.1 := by
  have bare (status command : UInt8) :
      WellFormed req (buildI3cResponse req status command 0 []) :=
    wellFormed_buildI3cResponse (Nat.zero_le _)
  unfold handleI3cRequest
  dsimp only
  split
  · exact .intro (bare _ _)
  rename_i bound
  split
  · exact .intro (bare _ _)
  rename_i initialised
  split
  · exact .intro (bare _ _)
  rename_i long
  split
  · exact .intro (wellFormed_handleDaa buses state _ _)
  split
  · rename_i executes
    have runs : RunsSequence buses req :=
      ⟨bound, by simpa using initialised, Nat.le_of_not_lt long, executes⟩
    refine (returns_handleExecuteSequence master.toI3cBus _ (inside runs)).bind
      fun ⟨ran, body, driver⟩ fits => .intro ?_
    exact wellFormed_response fits
  split
  · exact .intro (bare _ _)
  split
  · split
    · exact .intro (bare _ _)
    · exact .intro (bare _ _)
  split
  · exact .intro (bare _ _)
  · exact .intro (bare _ _)

end Answers

/-! ## What every bus shows -/

/-- The scripted bus, on which an address assignment finds no device. -/
def scriptedMaster : I3cMaster (List Nat) :=
  { scriptedBus with
    refresh := id
    rstdaa := fun script => (none, script)
    doDaa := fun script => (.ok [], script) }

theorem sequenceInside_of_returns {buses : I3cBuses} {state : I3cState}
    (runs : RunsSequence buses req)
    (returns : ∀ script, Returns (handleI3cRequest scriptedMaster buses state script req)
      fun _ => True) :
    SequenceInside req := by
  obtain ⟨bound, initialised, long, executes⟩ := runs
  apply demands_inside.walk (paired_transfers _ _) le_rfl
  intro offset script _ atMost _
  obtain rfl : offset = 0 := by omega
  have returned := returns script
  have unassigned : i3cCmdExecuteSequence ≠ i3cCmdDoDaa := by decide
  simp only [handleI3cRequest, if_neg bound, initialised, Bool.true_eq_false, if_false,
    if_neg (Nat.not_lt_of_le long), executes, if_neg unassigned, if_true] at returned
  obtain ⟨⟨ran, body, driver⟩, answered, -⟩ := returned.of_bind
  obtain ⟨outcome, moved, -⟩ := Option.bind_eq_some_iff.mp answered
  exact ⟨outcome, moved, trivial⟩

end OpenBic.Obmf
