import Mathlib.Algebra.Order.Ring.Nat
import Mathlib.Data.List.GetD

/-!
# OBMF messages

The common header of `obmf_icp_header_t`, its four bytes on the wire, and the error response
that every part of the service builds with `obmf_build_err_response`. A message is read at the
start of a zeroed buffer, so what lies behind its end reads as zero.
-/

namespace OpenBic.Obmf

open List

def headerSize : Nat := 4

def mmioSubHdrSize : Nat := 2

def ioSubHdrSize : Nat := 1

def rspBufSize : Nat := 256

def fragBufSize : Nat := 1024

def maxChannels : UInt8 := 19

def controlChannel : UInt8 := 0

def mmioChannel : UInt8 := 1

def ioChannel : UInt8 := 9

def statusSuccess : UInt8 := 0x00

def statusInvalidCmd : UInt8 := 0x01

def statusNotReady : UInt8 := 0x03

def statusUnknownChannel : UInt8 := 0x05

def statusSizeNotSupported : UInt8 := 0x06

/-- `OBMF_ICP_ERR_ADDR_OUT_OF_RANGE`. -/
def statusAddrOutOfRange : UInt8 := 0x40

/-- `OBMF_ICP_ERR_INSUFFICIENT_PRIVILEGE`. -/
def statusAccessDenied : UInt8 := 0x41

/-- `obmf_icp_header_t`. -/
structure Header where
  channel : UInt8
  /-- `rqresp_status`: the response bit above the status. -/
  rqrespStatus : UInt8
  size : UInt16

def bytes16 (field : UInt16) : List UInt8 :=
  [UInt8.ofNat field.toNat, UInt8.ofNat (field.toNat / 256)]

def read16 (bytes : List UInt8) (offset : Nat) : UInt16 :=
  UInt16.ofNat ((bytes.getD offset 0).toNat + 256 * (bytes.getD (offset + 1) 0).toNat)

def Header.bytes (hdr : Header) : List UInt8 :=
  hdr.channel :: hdr.rqrespStatus :: bytes16 hdr.size

/-- The header at the start of a zeroed buffer into which the bytes were read. -/
def readHeader (bytes : List UInt8) : Header where
  channel := bytes.getD 0 0
  rqrespStatus := bytes.getD 1 0
  size := read16 bytes 2

/-- `OBMF_ICP_GET_RQRESP`: the message is a response. -/
def Header.isResponse (hdr : Header) : Bool := hdr.rqrespStatus >>> 7 &&& 0x01 = 1

/-- `OBMF_ICP_SET_RQRESP_STATUS` for a response. -/
def responseStatus (status : UInt8) : UInt8 := 0x80 ||| (status &&& 0x7F)

theorem forall_byte {holds : UInt8 → Prop} (all : ∀ index : Fin 256, holds (UInt8.ofFin index))
    (byte : UInt8) : holds byte :=
  all byte.toFin

@[simp]
theorem Header.length_bytes (hdr : Header) : hdr.bytes.length = headerSize := rfl

theorem ofNat_bytes16 (field : UInt16) :
    UInt16.ofNat ((UInt8.ofNat field.toNat).toNat +
      256 * (UInt8.ofNat (field.toNat / 256)).toNat) = field := by
  have small := field.toNat_lt
  apply UInt16.toNat_inj.mp
  simp only [UInt16.toNat_ofNat', UInt8.toNat_ofNat', Nat.reducePow]
  omega

@[simp]
theorem readHeader_bytes (hdr : Header) (data : List UInt8) :
    readHeader (hdr.bytes ++ data) = hdr := by
  simp only [readHeader, Header.bytes, bytes16, read16, cons_append, nil_append,
    getD_cons_zero, getD_cons_succ, ofNat_bytes16]

theorem readHeader_append {data : List UInt8} (suffix : List UInt8)
    (whole : headerSize ≤ data.length) : readHeader (data ++ suffix) = readHeader data := by
  obtain ⟨channel, status, low, high, tail, rfl⟩ :
      ∃ channel status low high tail, data = channel :: status :: low :: high :: tail := by
    match data, whole with
    | channel :: status :: low :: high :: tail, _ => exact ⟨channel, status, low, high, tail, rfl⟩
  rfl

def payload (bytes : List UInt8) : List UInt8 := bytes.drop headerSize

@[simp]
theorem payload_bytes (hdr : Header) (data : List UInt8) : payload (hdr.bytes ++ data) = data :=
  rfl

/-- A channel whose messages have a sub-header with a transaction, and the transaction's bits. -/
def transMask (channel : UInt8) : Option UInt8 :=
  if channel ≤ mmioChannel then some 0x07
  else if channel = ioChannel then some 0x0F
  else none

/-- `obmf_build_err_response`: the bytes written into the response buffer. -/
def buildErrResponse (req : List UInt8) (errorCode : UInt8) : List UInt8 :=
  let channel := (readHeader req).channel
  if channel ≤ mmioChannel then
    Header.bytes ⟨channel, responseStatus errorCode, 2⟩ ++ [req.getD headerSize 0 &&& 0x07, 0]
  else if channel = ioChannel then
    Header.bytes ⟨channel, responseStatus errorCode, 1⟩ ++ [req.getD headerSize 0 &&& 0x0F]
  else Header.bytes ⟨channel, responseStatus errorCode, 0⟩

theorem readHeader_buildErrResponse (req : List UInt8) (errorCode : UInt8) :
    (readHeader (buildErrResponse req errorCode)).channel = (readHeader req).channel ∧
      (readHeader (buildErrResponse req errorCode)).rqrespStatus = responseStatus errorCode ∧
      (readHeader (buildErrResponse req errorCode)).size.toNat + headerSize =
        (buildErrResponse req errorCode).length := by
  simp only [buildErrResponse]
  split
  · rw [readHeader_bytes]
    exact ⟨rfl, rfl, rfl⟩
  · split
    · rw [readHeader_bytes]
      exact ⟨rfl, rfl, rfl⟩
    · rw [← append_nil (Header.bytes _), readHeader_bytes]
      exact ⟨rfl, rfl, rfl⟩

theorem buildErrResponse_of_transMask {req : List UInt8} (errorCode : UInt8)
    (plain : transMask (readHeader req).channel = none) :
    buildErrResponse req errorCode =
      Header.bytes ⟨(readHeader req).channel, responseStatus errorCode, 0⟩ := by
  by_cases below : (readHeader req).channel ≤ mmioChannel
  · simp [transMask, below] at plain
  · by_cases inputOutput : (readHeader req).channel = ioChannel
    · rw [transMask, if_neg below, if_pos inputOutput] at plain
      cases plain
    · simp only [buildErrResponse, below, inputOutput, ↓reduceIte]

end OpenBic.Obmf

/-!
## Responses of the channel handlers

The handlers of the device's channels fill the response buffer in one way: the common header with
the channel of the request, the response bit, the status and the size of what follows.
-/

namespace OpenBic.Obmf

def statusPermanentError : UInt8 := 0x04

/-- A response to a request, with a status and what follows the header. -/
def response (req : List UInt8) (status : UInt8) (body : List UInt8) : List UInt8 :=
  Header.bytes ⟨(readHeader req).channel, responseStatus status, UInt16.ofNat body.length⟩ ++ body

/-- A response says that the request succeeded. -/
def Succeeded (rsp : List UInt8) : Prop :=
  (readHeader rsp).rqrespStatus = responseStatus statusSuccess

instance (rsp : List UInt8) : Decidable (Succeeded rsp) := inferInstanceAs (Decidable (_ = _))

variable {req body : List UInt8} {status : UInt8}

@[simp]
theorem readHeader_response (req : List UInt8) (status : UInt8) (body : List UInt8) :
    readHeader (response req status body) =
      ⟨(readHeader req).channel, responseStatus status, UInt16.ofNat body.length⟩ :=
  readHeader_bytes _ _

@[simp]
theorem payload_response (req : List UInt8) (status : UInt8) (body : List UInt8) :
    payload (response req status body) = body :=
  payload_bytes _ _

theorem succeeded_response :
    Succeeded (response req status body) ↔
      responseStatus status = responseStatus statusSuccess := by
  unfold Succeeded
  rw [readHeader_response]

theorem succeeded_buildErrResponse :
    Succeeded (buildErrResponse req status) ↔
      responseStatus status = responseStatus statusSuccess := by
  unfold Succeeded
  rw [(readHeader_buildErrResponse req status).2.1]

end OpenBic.Obmf
