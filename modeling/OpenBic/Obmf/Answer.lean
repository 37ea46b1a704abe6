import OpenBic.Library.Checked
import OpenBic.Obmf.Gpio
import OpenBic.Obmf.Mmio
import OpenBic.Obmf.Reassembly
import OpenBic.Obmf.Spi

/-!
# Answers to requests

What a well-formed answer is, and that the handlers of Channel 0, MMIO, port I/O, GPIO and SPI give
one. Beside a handler stand the ranges of the request that it reads, each with its start and its
length.
-/

namespace OpenBic.Obmf

open List

open Library.Checked Library.Splice

/-- A well-formed answer to a request. -/
structure WellFormed (req rsp : List UInt8) : Prop where
  channel : (readHeader rsp).channel = (readHeader req).channel
  responds : (readHeader rsp).isResponse = true
  sizeSaid : SizeSaid rsp
  fits : rsp.length ≤ rspBufSize

variable {req : List UInt8}

theorem wellFormed_bytes {channel status : UInt8} {size : UInt16} {body : List UInt8}
    (same : channel = (readHeader req).channel) (sized : size.toNat = body.length)
    (fits : headerSize + body.length ≤ rspBufSize) :
    WellFormed req (Header.bytes ⟨channel, responseStatus status, size⟩ ++ body) where
  channel := by rw [readHeader_bytes, same]
  responds := by rw [readHeader_bytes, isResponse_responseStatus]
  sizeSaid := by rw [SizeSaid, readHeader_bytes, sized, length_append, Header.length_bytes]
  fits := by rwa [length_append, Header.length_bytes]

theorem toNat_ofNat_size {size : Nat} (fits : headerSize + size ≤ rspBufSize) :
    (UInt16.ofNat size).toNat = size := by
  unfold rspBufSize at fits
  rw [UInt16.toNat_ofNat', Nat.mod_eq_of_lt (by omega)]

theorem wellFormed_response {status : UInt8} {body : List UInt8}
    (fits : headerSize + body.length ≤ rspBufSize) : WellFormed req (response req status body) :=
  wellFormed_bytes rfl (toNat_ofNat_size fits) fits

/-! ## Error responses -/

/-- What `obmf_build_err_response` reads: the channel, and the transaction that it echoes. -/
def errReads (req : List UInt8) : List (Nat × Nat) :=
  if (transMask (readHeader req).channel).isSome then [(0, 1), (headerSize, 1)] else [(0, 1)]

theorem wellFormed_buildErrResponse (req : List UInt8) (errorCode : UInt8) :
    WellFormed req (buildErrResponse req errorCode) := by
  have two : headerSize + 2 ≤ rspBufSize := by decide
  have one : headerSize + 1 ≤ rspBufSize := by decide
  simp only [buildErrResponse]
  split
  · exact wellFormed_bytes rfl rfl two
  · split
    · exact wellFormed_bytes rfl rfl one
    · have plain := @wellFormed_bytes req _ errorCode 0 [] rfl rfl (by decide)
      rwa [append_nil] at plain

theorem covers_errReads (typed : 0 < req.length)
    (echoed : (transMask (readHeader req).channel).isSome = true → headerSize < req.length) :
    Covers req (errReads req) := by
  unfold headerSize at echoed
  unfold errReads headerSize
  split
  · rename_i sub
    have long := echoed sub
    simp only [covers_cons, covers_nil, and_true]
    omega
  · simp only [covers_cons, covers_nil, and_true]
    omega

/-! ## Channel 0 and MMIO -/

/-- What `handle_ch0_read_req` and `handle_mmio_read_req` read: the address and the size. -/
def readReqReads (msg : List UInt8) : List (Nat × Nat) :=
  if (mmioPayload msg).length < addrSize msg + sizeFieldLen then []
  else
    [(headerSize + mmioSubHdrSize, addrSize msg),
      (headerSize + mmioSubHdrSize + addrSize msg, sizeFieldLen)]

/-- What `handle_ch0_write_req` and `handle_mmio_write_req` read: the address and the data. -/
def writeReqReads (msg : List UInt8) : List (Nat × Nat) :=
  if (mmioPayload msg).length < addrSize msg + 1 then []
  else
    [(headerSize + mmioSubHdrSize, addrSize msg),
      (headerSize + mmioSubHdrSize + addrSize msg, ch0WriteSize msg)]

/-- What a request with an MMIO header makes `obmf_get_response` and its handlers read behind the
common header: the transaction, and what the handler reads. -/
def mmioReads (msg : List UInt8) : List (Nat × Nat) :=
  (headerSize, 1) ::
    if mmioTrans msg = transShortRead ∨ mmioTrans msg = transLongRead then readReqReads msg
    else if mmioTrans msg = transShortWrite ∨ mmioTrans msg = transLongWrite then
      writeReqReads msg
    else []

theorem covers_mmioReads {msg : List UInt8} (long : headerSize < msg.length) :
    Covers msg (mmioReads msg) := by
  have length : (mmioPayload msg).length = msg.length - (headerSize + mmioSubHdrSize) :=
    length_drop
  have size : ch0WriteSize msg ≤ (mmioPayload msg).length - addrSize msg := Nat.mod_le _ _
  have wide : 0 < addrSize msg := by
    unfold addrSize
    split <;> decide
  unfold headerSize mmioSubHdrSize at length
  unfold headerSize at long
  unfold mmioReads readReqReads writeReqReads headerSize mmioSubHdrSize
  split
  · split
    · simp only [covers_cons, covers_nil, and_true]
      omega
    · simp only [covers_cons, covers_nil, and_true]
      omega
  · split
    · split
      · simp only [covers_cons, covers_nil, and_true]
        omega
      · simp only [covers_cons, covers_nil, and_true]
        omega
    · simp only [covers_cons, covers_nil, and_true]
      omega

theorem wellFormed_ch0Response {msg data : List UInt8} {status : UInt8}
    (fits : headerSize + (mmioSubHdrSize + data.length) ≤ rspBufSize) :
    WellFormed msg (ch0Response msg status data) := by
  unfold ch0Response
  rw [append_assoc]
  have length : ([mmioTrans msg, 0] ++ data).length = mmioSubHdrSize + data.length := by
    rw [length_append]
    rfl
  refine wellFormed_bytes rfl ?_ ?_
  · rw [length, toNat_ofNat_size fits]
  · rwa [length]

theorem wellFormed_handleCh0ReadReq (service : Service) (msg : List UInt8) :
    WellFormed msg (service.handleCh0ReadReq msg) := by
  unfold Service.handleCh0ReadReq
  split
  · exact wellFormed_buildErrResponse msg _
  split
  · exact wellFormed_buildErrResponse msg _
  split
  · exact wellFormed_buildErrResponse msg _
  rename_i small
  split
  · exact wellFormed_buildErrResponse msg _
  · apply wellFormed_ch0Response
    rw [length_cells]
    unfold ch0MaxTransSize at small
    unfold headerSize mmioSubHdrSize rspBufSize
    omega

theorem wellFormed_handleCh0WriteReq (service : Service) (msg : List UInt8) :
    WellFormed msg (service.handleCh0WriteReq msg).2 := by
  have bare : headerSize + (mmioSubHdrSize + 0) ≤ rspBufSize := by decide
  unfold Service.handleCh0WriteReq
  split
  · exact wellFormed_buildErrResponse msg _
  split
  · exact wellFormed_buildErrResponse msg _
  split
  · exact wellFormed_buildErrResponse msg _
  split
  · exact wellFormed_ch0Response bare
  · exact wellFormed_ch0Response bare

theorem wellFormed_controlRequest (service : Service) (msg : List UInt8) :
    WellFormed msg (service.controlRequest msg).2 := by
  unfold Service.controlRequest
  split
  · exact wellFormed_handleCh0ReadReq service msg
  · split
    · exact wellFormed_handleCh0WriteReq service msg
    · exact wellFormed_buildErrResponse msg _

namespace Mmio

/-- The branch of `obmf_get_response` for requests on the MMIO channel. -/
def mmioRequest (mmio : MmioLocal) (msg : List UInt8) : List UInt8 × MmioLocal :=
  if mmioTrans msg = transShortRead ∨ mmioTrans msg = transLongRead then
    (handleMmioReadReq mmio msg, mmio)
  else if mmioTrans msg = transShortWrite ∨ mmioTrans msg = transLongWrite then
    handleMmioWriteReq mmio msg
  else (buildErrResponse msg statusInvalidCmd, mmio)

theorem wellFormed_mmioResponse {msg data : List UInt8} (few : data.length ≤ 12) :
    WellFormed msg (mmioResponse msg data) := by
  apply wellFormed_response
  rw [length_cons, length_cons]
  unfold headerSize rspBufSize
  omega

theorem wellFormed_handleMmioReadReq (mmio : MmioLocal) (msg : List UInt8) :
    WellFormed msg (handleMmioReadReq mmio msg) := by
  unfold handleMmioReadReq
  split
  · exact wellFormed_buildErrResponse msg _
  · split
    · exact wellFormed_buildErrResponse msg _
    · rename_i src off _
      split
      · exact wellFormed_buildErrResponse msg _
      · have small : src.size ≤ 12 := by cases src <;> decide
        apply wellFormed_mmioResponse
        rw [length_cells]
        omega

theorem wellFormed_mmioRequest (mmio : MmioLocal) (msg : List UInt8) :
    WellFormed msg (mmioRequest mmio msg).1 := by
  unfold mmioRequest
  split
  · exact wellFormed_handleMmioReadReq mmio msg
  · split
    · unfold handleMmioWriteReq
      split
      · exact wellFormed_buildErrResponse msg _
      · split
        · exact wellFormed_buildErrResponse msg _
        · exact wellFormed_mmioResponse (Nat.zero_le _)
    · exact wellFormed_buildErrResponse msg _

end Mmio

/-! ## Port I/O -/

namespace Io

/-- What `handle_io_request` reads behind the common header: the transaction, the port with the
size, and the data of a write. -/
def ioReads (msg : List UInt8) : List (Nat × Nat) :=
  (headerSize, 1) ::
    if IoTrans.ofCode (ioTrans msg) = none ∨ (ioPayload msg).length < 3 then []
    else
      (headerSize + ioSubHdrSize, 3) ::
        match IoAccess.parse msg with
        | some access =>
          if access.trans.isWrite ∧ 3 + access.size ≤ (ioPayload msg).length then
            [(headerSize + ioSubHdrSize + 3, access.size)]
          else []
        | none => []

theorem covers_ioReads {msg : List UInt8} (long : headerSize < msg.length) :
    Covers msg (ioReads msg) := by
  have length : (ioPayload msg).length = msg.length - (headerSize + ioSubHdrSize) :=
    length_drop
  unfold headerSize ioSubHdrSize at length
  unfold ioReads headerSize ioSubHdrSize
  refine covers_cons.mpr ⟨long, ?_⟩
  split
  · exact covers_nil msg
  · have three : 4 + 1 + 3 ≤ msg.length := by omega
    refine covers_cons.mpr ⟨three, ?_⟩
    split
    · split
      · simp only [covers_cons, covers_nil, and_true]
        omega
      · exact covers_nil msg
    · exact covers_nil msg

theorem wellFormed_handleIoRequest (io : IoLocal) (msg : List UInt8) :
    WellFormed msg (handleIoRequest io msg).1 := by
  unfold handleIoRequest
  split
  · exact wellFormed_buildErrResponse msg _
  rename_i access _
  split
  · exact wellFormed_buildErrResponse msg _
  rename_i room
  split
  · split
    · exact wellFormed_buildErrResponse msg _
    split
    · exact wellFormed_buildErrResponse msg _
    · exact wellFormed_response (show headerSize + 1 ≤ rspBufSize by decide)
  · rename_i reads
    split
    · exact wellFormed_buildErrResponse msg _
    · rename_i data collected
      have length : data.length = access.size := by
        rw [length_of_mapM collected, length_range]
      have small : headerSize + ioSubHdrSize + access.size ≤ rspBufSize :=
        Nat.le_of_not_lt fun large => room ⟨reads, large⟩
      apply wellFormed_response
      rw [length_cons, length]
      unfold ioSubHdrSize at small
      omega

end Io

/-! ## GPIO -/

namespace Gpio

/-- What `handle_gpio_request` reads behind the common header: the command and the entries. -/
def gpioReads (req : List UInt8) : List (Nat × Nat) :=
  let payloadLen := (payload req).length
  if payloadLen < gpioHdrSize ∨ (payloadLen - gpioHdrSize) % 2 ≠ 0 then []
  else
    [(headerSize, gpioHdrSize),
      (headerSize + gpioHdrSize, 2 * ((payloadLen - gpioHdrSize) / 2 % 2 ^ 16))]

theorem covers_gpioReads (req : List UInt8) : Covers req (gpioReads req) := by
  have length : (payload req).length = req.length - headerSize := length_drop
  unfold headerSize at length
  unfold gpioReads headerSize gpioHdrSize
  dsimp only
  split
  · exact covers_nil req
  · simp only [covers_cons, covers_nil, and_true]
    omega

theorem length_applyIntEntries (command : UInt8) (rsp : List UInt16) (intCfg : UInt16 → UInt8)
    (entries : List UInt16) :
    (applyIntEntries command rsp intCfg entries).1.length ≤ rsp.length + entries.length := by
  induction entries generalizing rsp intCfg with
  | nil => exact le_rfl
  | cons entry rest ih =>
    rw [applyIntEntries, length_cons]
    split
    · have later := ih rsp (setInt intCfg entry)
      omega
    · have later := ih (rsp ++ [entrySet (entryIndex entry) (intCfg (entryIndex entry))]) intCfg
      rw [length_append, length_singleton] at later
      omega

theorem length_gpioHandleIntConfig (intCfg : UInt16 → UInt8) (command : UInt8)
    (entries : List UInt16) :
    (gpioHandleIntConfig intCfg command entries).2.1.length ≤ entries.length := by
  simp only [gpioHandleIntConfig]
  split
  · exact Nat.zero_le _
  · have few := length_applyIntEntries command [] intCfg entries
    rwa [length_nil, Nat.zero_add] at few

theorem wellFormed_values {req : List UInt8} {status command : UInt8} {values : List UInt16}
    (room : headerSize + gpioHdrSize + 2 * values.length ≤ rspBufSize) :
    WellFormed req (response req status (command :: values.flatMap bytes16)) := by
  apply wellFormed_response
  rw [length_cons, length_flatMap_bytes16]
  unfold gpioHdrSize at room
  omega

theorem wellFormed_handleGpioRequest (gpio : Channel) (req : List UInt8) :
    WellFormed req (handleGpioRequest gpio req).1 := by
  have bare (status command : UInt8) : WellFormed req (response req status [command]) :=
    wellFormed_response (show headerSize + 1 ≤ rspBufSize by decide)
  unfold handleGpioRequest
  dsimp only
  split
  · exact wellFormed_buildErrResponse req _
  split
  · exact wellFormed_buildErrResponse req _
  rename_i room
  generalize (payload req).getD 0 0 = command at room ⊢
  generalize listed : (entriesOf ((payload req).drop gpioHdrSize)).take
    (((payload req).length - gpioHdrSize) / 2 % 2 ^ 16) = entries
  have count : entries.length ≤ ((payload req).length - gpioHdrSize) / 2 := by
    rw [← listed]
    exact (length_take_le _ _).trans (Nat.mod_le _ _)
  generalize (if command ≤ setIntConfig then gpioCheckEntries gpio.config command entries
    else statusSuccess) = checked
  split
  · exact bare _ _
  split
  · rename_i gets
    have small := Nat.le_of_not_lt fun large => room ⟨.inl gets, large⟩
    split
    · exact bare _ _
    · apply wellFormed_values
      rw [length_map]
      omega
  split
  · split
    · split
      · exact bare _ _
      · exact bare _ _
    · exact bare _ _
  split
  · apply wellFormed_values
    split
    · rename_i got
      have small := Nat.le_of_not_lt fun large => room ⟨.inr got.2, large⟩
      have few := length_gpioHandleIntConfig gpio.intCfg command entries
      omega
    · decide
  · exact bare _ _

end Gpio

/-! ## SPI -/

namespace Spi

/-- What `handle_spi_request` reads behind the common header: the rest of the header, and the write
data. -/
def spiReads (shdDev : Option Flash) (req : List UInt8) : List (Nat × Nat) :=
  let payloadLen := (payload req).length
  if payloadLen < spiReqHdrSize ∨ shdDev.isNone then []
  else
    let writeSize := (SpiRequest.parse (payload req)).writeDataSize.toNat
    (headerSize, spiReqHdrSize) ::
      if payloadLen < spiReqHdrSize + writeSize then []
      else [(headerSize + spiReqHdrSize, writeSize)]

theorem covers_spiReads (shdDev : Option Flash) (req : List UInt8) :
    Covers req (spiReads shdDev req) := by
  have length : (payload req).length = req.length - headerSize := length_drop
  unfold headerSize at length
  unfold spiReads headerSize spiReqHdrSize
  dsimp only
  split
  · exact covers_nil req
  · have header : 4 + 5 ≤ req.length := by omega
    refine covers_cons.mpr ⟨header, ?_⟩
    split
    · exact covers_nil req
    · simp only [covers_cons, covers_nil, and_true]
      omega

theorem wellFormed_buildSpiResponse {req readData : List UInt8} {status spiCmd : UInt8}
    (channel : (readHeader req).channel = spiChannel) (few : readData.length ≤ spiMaxReadLen) :
    WellFormed req (buildSpiResponse status spiCmd readData) := by
  have length : (spiCmd :: (bytes16 (UInt16.ofNat readData.length) ++ readData)).length =
      spiRspHdrSize + readData.length := by
    rw [length_cons, length_append]
    have two : (bytes16 (UInt16.ofNat readData.length)).length = 2 := rfl
    unfold spiRspHdrSize
    omega
  have fits : headerSize + (spiRspHdrSize + readData.length) ≤ rspBufSize := by
    unfold spiMaxReadLen at few
    unfold headerSize spiRspHdrSize rspBufSize at few ⊢
    omega
  refine wellFormed_bytes channel.symm ?_ ?_
  · rw [length, toNat_ofNat_size fits]
  · rwa [length]

theorem wellFormed_serveOpcode {req : List UInt8} (flash : Flash) (pending : Pending)
    {request : SpiRequest} (channel : (readHeader req).channel = spiChannel)
    (few : request.readDataSize.toNat ≤ spiMaxReadLen) :
    WellFormed req (serveOpcode flash pending request).1 := by
  have bare (status : UInt8) : WellFormed req (buildSpiResponse status request.command []) :=
    wellFormed_buildSpiResponse channel (Nat.zero_le _)
  unfold serveOpcode
  dsimp only
  split
  · exact bare _
  split
  · apply wellFormed_buildSpiResponse channel
    exact (length_take_le' _ _).trans (by decide)
  split
  · split
    · exact bare _
    · rename_i id _
      split
      · exact bare _
      · apply wellFormed_buildSpiResponse channel
        exact (length_take_le' _ _).trans (by rw [id.property]; decide)
  split
  · split
    · exact bare _
    · split
      · exact bare _
      · rename_i data read
        apply wellFormed_buildSpiResponse channel
        rwa [flash.read_length read]
  split
  · split
    · exact bare _
    · exact bare _
  split
  · split
    · exact bare _
    · exact bare _
  · exact bare _

theorem wellFormed_handleSpiRequest {req : List UInt8} (shdDev : Option Flash) (pending : Pending)
    (channel : (readHeader req).channel = spiChannel) :
    WellFormed req (handleSpiRequest shdDev pending req).1 := by
  have bare (status spiCmd : UInt8) : WellFormed req (buildSpiResponse status spiCmd []) :=
    wellFormed_buildSpiResponse channel (Nat.zero_le _)
  unfold handleSpiRequest
  dsimp only
  split
  · exact bare _ _
  split
  · exact bare _ _
  rename_i flash
  split
  · exact bare _ _
  split
  · exact bare _ _
  rename_i small
  split
  · unfold servePhased
    split
    · apply wellFormed_buildSpiResponse channel
      exact (length_take_le' _ _).trans (by rw [pending.buf.property]; decide)
    · exact bare _ _
  · exact wellFormed_serveOpcode flash pending channel (Nat.le_of_not_lt small)

end Spi

end OpenBic.Obmf
