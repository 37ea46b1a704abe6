import OpenBic.Library.Checked
import Mathlib.Tactic.IntervalCases

/-!
# IPMB frames

`ipmb_encode`, `ipmb_decode` and the checksums between them. A frame is a header of six bytes, the
completion code of a response, the data and a checksum. The encoder counts its bytes, and the
transmit task the frame's, in eight bits. Of an `ipmi_msg`, only what is framed is kept here, and of
its array only the `data_len` bytes in use.
-/

namespace OpenBic.Ipmb.Frame

open List Option Library.Checked

def ipmbReqHeaderLength : Nat := 6

def ipmbRespHeaderLength : Nat := 7

/-- `IPMI_MSG_MAX_LENGTH`, with an `IPMI_DATA_MAX_LENGTH` of 520. -/
def ipmiMsgMaxLength : Nat := 520 + ipmbRespHeaderLength

/-- The size of `ipmb_buffer_tx`. -/
def txBufferSize : Nat := ipmiMsgMaxLength + ipmbRespHeaderLength

/-- What the framing returns of `ipmb_error`. -/
inductive IpmbError where
  | success
  | hdrChecksum
  | msgChecksum
deriving DecidableEq

/-- `IS_RESPONSE` of a net function. -/
def isResponse (netfn : UInt8) : Bool := netfn &&& 0x01 = 1

/-- What is framed of an `ipmi_msg`. -/
structure Message where
  destAddr : UInt8
  netfn : UInt8
  destLun : UInt8
  hdrChksum : UInt8
  srcAddr : UInt8
  seq : UInt8
  srcLun : UInt8
  cmd : UInt8
  completionCode : UInt8
  /-- The first `data_len` bytes of `data`. -/
  data : List UInt8
  fits : data.length ≤ ipmiMsgMaxLength
  msgChksum : UInt8

/-- Where the data begins, behind the completion code of a response. -/
def dataAt (netfn : UInt8) : UInt8 := if isResponse netfn then 7 else 6

def calculateChecksum (buffer : List UInt8) (range : UInt8) : Option UInt8 := do
  let first ← byteAt buffer 0
  let others ← rangeAt buffer 1 (range.toNat - 1)
  pure (others.foldl (· - ·) ((0 : UInt8) - first <<< 1))

/-- `buffer[len - 1]`, which lies in front of the buffer when there is no byte. -/
def lastByte (buffer : List UInt8) (len : UInt8) : Option UInt8 :=
  if len = 0 then none else byteAt buffer (len.toNat - 1)

def validateChecksum (buffer : List UInt8) (bufferLen : UInt8) : Option IpmbError := do
  let headerChecksum ← byteAt buffer 2
  let msgChecksum ← lastByte buffer bufferLen
  let calcHeaderChecksum ← calculateChecksum buffer 2
  let calcMsgChecksum ← calculateChecksum buffer (bufferLen - 1)
  pure (if headerChecksum = calcHeaderChecksum then
      if msgChecksum = calcMsgChecksum then .success else .hdrChecksum
    else .msgChecksum)

/-- `ipmb_encode`, where `i` is the place of the data and then that of the checksum. -/
def ipmbEncode (buffer : Buffer txBufferSize) (msg : Message) :
    Option (IpmbError × Buffer txBufferSize) := do
  let buffer ← buffer.write 0
    [msg.destAddr, (msg.netfn <<< 2 &&& 0xFC) ||| (msg.destLun &&& 0x03)]
  let hdrChksum ← calculateChecksum buffer.bytes 2
  let buffer ← buffer.write 2
    ([hdrChksum, msg.srcAddr, (msg.seq <<< 2 &&& 0xFC) ||| (msg.srcLun &&& 0x03), msg.cmd] ++
      if isResponse msg.netfn then [msg.completionCode] else [])
  let i := dataAt msg.netfn
  let buffer ← buffer.write i.toNat msg.data
  let i := i + UInt8.ofNat msg.data.length
  let checksum ← calculateChecksum buffer.bytes i
  let buffer ← buffer.write i.toNat [checksum]
  pure (.success, buffer)

/-- The completion code of a response; a request leaves the one that was there. -/
def completionAt (msg : Message) (netfn : UInt8) (buffer : List UInt8) : Option UInt8 :=
  if isResponse netfn then byteAt buffer 6 else some msg.completionCode

/-- The `data_len` that `ipmb_decode` computes. -/
def decodedLen (netfn len : UInt8) : Nat :=
  if (dataAt netfn).toNat + 1 < len.toNat then len.toNat - (dataAt netfn).toNat - 1 else 0

/-- `ipmb_decode` into a message. -/
def ipmbDecode (msg : Message) (buffer : List UInt8) (len : UInt8) :
    Option (IpmbError × Message) := do
  let destAddr ← byteAt buffer 0
  let netfnLun ← byteAt buffer 1
  let hdrChksum ← byteAt buffer 2
  let srcAddr ← byteAt buffer 3
  let seqLun ← byteAt buffer 4
  let cmd ← byteAt buffer 5
  let netfn := netfnLun >>> 2
  let completionCode ← completionAt msg netfn buffer
  let data ← rangeAt buffer (dataAt netfn).toNat (decodedLen netfn len)
  let msgChksum ← lastByte buffer len
  if fits : data.length ≤ ipmiMsgMaxLength then
    pure (.success,
      { destAddr, netfn, destLun := netfnLun &&& 0x03, hdrChksum, srcAddr, seq := seqLun >>> 2,
        srcLun := seqLun &&& 0x03, cmd, completionCode, data, fits, msgChksum })
  -- the copy would leave the array
  else none

/-- What `IPMB_TXTask` takes for the size of a frame behind its first byte, which is sent as the
address. -/
def txSize (msg : Message) : UInt8 :=
  UInt8.ofNat msg.data.length +
    if isResponse msg.netfn then UInt8.ofNat ipmbRespHeaderLength
    else UInt8.ofNat ipmbReqHeaderLength

def sent (msg : Message) (buffer : Buffer txBufferSize) : List UInt8 :=
  buffer.bytes.take ((txSize msg).toNat + 1)

/-- What `IPMB_RXTask` does with the bytes it has received and their number: a message whose
checksums do not fit is dropped. -/
def ipmbRxTask (msg : Message) (buffer : List UInt8) (rxLen : UInt8) :
    Option (Option Message) := do
  let valid ← validateChecksum buffer rxLen
  if valid ≠ .success then pure none
  else
    let (_, msg) ← ipmbDecode msg buffer rxLen
    pure (some msg)

/-! ## Checksums -/

/-- The checksum of bytes that begin with an address of seven bits. -/
def checksum : List UInt8 → UInt8
  | [] => 0
  | first :: others => others.foldl (· - ·) ((0 : UInt8) - first <<< 1)

theorem calculateChecksum_append {body rest : List UInt8} {range : UInt8} (some : body ≠ [])
    (sized : range.toNat = body.length) :
    calculateChecksum (body ++ rest) range = Option.some (checksum body) := by
  cases body with
  | nil => exact absurd rfl some
  | cons first others =>
    rw [length_cons] at sized
    have inside : 1 + (range.toNat - 1) ≤ (first :: others ++ rest).length := by
      simp only [length_append, length_cons]
      omega
    have ranged : ((first :: others ++ rest).drop 1).take (range.toNat - 1) = others := by
      rw [sized, Nat.add_sub_cancel]
      exact take_left
    unfold calculateChecksum
    rw [rangeAt_eq inside, ranged]
    rfl

/-- Both checksums are right. -/
def Sealed (frame : List UInt8) : Prop :=
  frame.getD 2 0 = checksum (frame.take 2) ∧
    frame.getD (frame.length - 1) 0 = checksum (frame.take (frame.length - 1))

instance (frame : List UInt8) : Decidable (Sealed frame) := instDecidableAnd

theorem calculateChecksum_take {frame : List UInt8} {range : UInt8} (some : 0 < range.toNat)
    (inside : range.toNat ≤ frame.length) :
    calculateChecksum frame range = Option.some (checksum (frame.take range.toNat)) := by
  have front : (frame.take range.toNat).length = range.toNat := by
    rw [length_take]
    omega
  have nonempty : frame.take range.toNat ≠ [] := by
    intro empty
    rw [empty, length_nil] at front
    omega
  conv_lhs => rw [← take_append_drop range.toNat frame]
  exact calculateChecksum_append nonempty front.symm

/-- What `validate_checksum` finds in a frame of three bytes and more. -/
def verdict (frame : List UInt8) : IpmbError :=
  if frame.getD 2 0 = checksum (frame.take 2) then
    if frame.getD (frame.length - 1) 0 = checksum (frame.take (frame.length - 1)) then .success
    else .hdrChecksum
  else .msgChecksum

theorem verdict_success {frame : List UInt8} : verdict frame = .success ↔ Sealed frame := by
  unfold verdict
  split
  · rename_i head
    split
    · rename_i last
      exact iff_of_true rfl ⟨head, last⟩
    · rename_i last
      exact iff_of_false nofun fun both => last both.2
  · rename_i head
    exact iff_of_false nofun fun both => head both.1

theorem lastByte_eq {frame : List UInt8} {len : UInt8} (sized : len.toNat = frame.length)
    (some : 0 < frame.length) :
    lastByte frame len = Option.some (frame.getD (frame.length - 1) 0) := by
  have present : len ≠ 0 := by
    intro zero
    rw [zero] at sized
    have empty : 0 = frame.length := sized
    omega
  rw [lastByte, if_neg present, sized, byteAt_eq (by omega)]

theorem validateChecksum_eq {frame : List UInt8} {len : UInt8} (sized : len.toNat = frame.length)
    (long : 3 ≤ frame.length) : validateChecksum frame len = some (verdict frame) := by
  have before : (len - 1).toNat = frame.length - 1 := by
    have one : (1 : UInt8) ≤ len := UInt8.le_iff_toNat_le.mpr (by
      show 1 ≤ len.toNat
      omega)
    rw [UInt8.toNat_sub_of_le _ _ one, sized]
    rfl
  have header : calculateChecksum frame 2 = some (checksum (frame.take 2)) :=
    calculateChecksum_take (by decide) (show 2 ≤ frame.length by omega)
  have whole : calculateChecksum frame (len - 1) =
      some (checksum (frame.take (frame.length - 1))) := by
    rw [calculateChecksum_take (by omega) (by omega), before]
  unfold validateChecksum
  rw [byteAt_eq (show 2 < frame.length by omega), lastByte_eq sized (by omega), header, whole]
  rfl

/-! ## Two fields in a byte -/

theorem upper_six (high low : UInt8) :
    ((high <<< 2 &&& 0xFC) ||| (low &&& 0x03)) >>> 2 = high &&& 0x3F := by
  apply UInt8.toBitVec_inj.mp
  ext i inside
  interval_cases i <;> simp

theorem lower_two (high low : UInt8) :
    ((high <<< 2 &&& 0xFC) ||| (low &&& 0x03)) &&& 0x03 = low &&& 0x03 := by
  apply UInt8.toBitVec_inj.mp
  ext i inside
  interval_cases i <;> simp

theorem and_mask (value : UInt8) {mask : UInt8} {width : Nat}
    (lowest : mask.toNat = 2 ^ width - 1) :
    (value &&& mask).toNat = value.toNat % 2 ^ width := by
  rw [UInt8.toNat_and, lowest]
  exact Nat.and_two_pow_sub_one_eq_mod _ _

theorem and_mask_eq {value mask : UInt8} {width : Nat} (lowest : mask.toNat = 2 ^ width - 1)
    (small : value.toNat < 2 ^ width) : value &&& mask = value := by
  apply UInt8.toNat_inj.mp
  rw [and_mask value lowest]
  exact Nat.mod_eq_of_lt small

theorem shift_lt (value : UInt8) : (value >>> 2).toNat < 64 := by
  have small := value.toNat_lt
  show value.toNat >>> 2 < 64
  omega

/-! ## The frame of a message -/

def overhead (netfn : UInt8) : Nat :=
  (if isResponse netfn then ipmbRespHeaderLength else ipmbReqHeaderLength) + 1

def Message.head (msg : Message) : List UInt8 :=
  let netfnLun := (msg.netfn <<< 2 &&& 0xFC) ||| (msg.destLun &&& 0x03)
  [msg.destAddr, netfnLun, checksum [msg.destAddr, netfnLun], msg.srcAddr,
    (msg.seq <<< 2 &&& 0xFC) ||| (msg.srcLun &&& 0x03), msg.cmd] ++
    if isResponse msg.netfn then [msg.completionCode] else []

def Message.body (msg : Message) : List UInt8 := msg.head ++ msg.data

def Message.frame (msg : Message) : List UInt8 := msg.body ++ [checksum msg.body]

variable {msg old got : Message}

theorem overhead_eq (netfn : UInt8) : overhead netfn = (dataAt netfn).toNat + 1 := by
  unfold overhead dataAt
  split <;> rfl

theorem overhead_le (netfn : UInt8) : 7 ≤ overhead netfn ∧ overhead netfn ≤ 8 := by
  unfold overhead
  split <;> decide

theorem decodedLen_le (netfn len : UInt8) : decodedLen netfn len + overhead netfn ≤ 255 := by
  have small := len.toNat_lt
  have place := overhead_eq netfn
  have few := overhead_le netfn
  unfold decodedLen
  split <;> omega

theorem Message.length_head (msg : Message) : msg.head.length + 1 = overhead msg.netfn := by
  unfold Message.head overhead
  split <;> rfl

theorem Message.length_frame (msg : Message) :
    msg.frame.length = msg.data.length + overhead msg.netfn := by
  have head := msg.length_head
  simp only [Message.frame, Message.body, length_append, length_singleton]
  omega

/-- A message that a frame can carry. -/
structure Frameable (msg : Message) : Prop where
  netfn : msg.netfn < 64
  destLun : msg.destLun < 4
  seq : msg.seq < 64
  srcLun : msg.srcLun < 4
  short : msg.data.length + overhead msg.netfn ≤ 255

/-- A decoded message is the one that was encoded. -/
structure Same (msg old got : Message) : Prop where
  netfn : got.netfn = msg.netfn
  destLun : got.destLun = msg.destLun
  cmd : got.cmd = msg.cmd
  seq : got.seq = msg.seq
  srcLun : got.srcLun = msg.srcLun
  destAddr : got.destAddr = msg.destAddr
  srcAddr : got.srcAddr = msg.srcAddr
  completionCode : got.completionCode =
    if isResponse msg.netfn then msg.completionCode else old.completionCode
  data : got.data = msg.data

/-- A frame is accepted and decoded to the message it was made of, over any other. -/
structure RoundTrip (msg : Message) (frame : List UInt8) : Prop where
  valid : validateChecksum frame (UInt8.ofNat frame.length) = some .success
  decoded : ∀ old, ∃ got,
    ipmbDecode old frame (UInt8.ofNat frame.length) = some (.success, got) ∧ Same msg old got

/-- A message is rejected, or it comes back from the frame that is sent. -/
def Framed (msg : Message) : Prop :=
  ∀ buffer, ∃ error after, ipmbEncode buffer msg = some (error, after) ∧
    (error = .success → RoundTrip msg (sent msg after))

theorem frameable_of_decode {buffer : List UInt8} {len : UInt8} {error : IpmbError}
    (decoded : ipmbDecode old buffer len = some (error, got)) : Frameable got := by
  unfold ipmbDecode at decoded
  simp only [bind_eq_bind, bind_eq_some_iff] at decoded
  obtain ⟨destAddr, -, netfnLun, -, hdrChksum, -, srcAddr, -, seqLun, -, cmd, -, cc, -, data,
    ranged, msgChksum, -, decoded⟩ := decoded
  split at decoded
  · obtain ⟨-, rfl⟩ := Prod.mk.inj (Option.some.inj decoded)
    have counted := length_of_rangeAt ranged
    have netfn := shift_lt netfnLun
    refine ⟨netfn, ?_, shift_lt seqLun, ?_, ?_⟩
    · show (netfnLun &&& 0x03).toNat < 4
      rw [and_mask netfnLun (show (0x03 : UInt8).toNat = 2 ^ 2 - 1 from rfl)]
      omega
    · show (seqLun &&& 0x03).toNat < 4
      rw [and_mask seqLun (show (0x03 : UInt8).toNat = 2 ^ 2 - 1 from rfl)]
      omega
    · show data.length + overhead (netfnLun >>> 2) ≤ 255
      have few := decodedLen_le (netfnLun >>> 2) len
      omega
  · cases decoded

theorem frameable_of_same (frameable : Frameable got) (same : Same msg old got) :
    Frameable msg where
  netfn := same.netfn ▸ frameable.netfn
  destLun := same.destLun ▸ frameable.destLun
  seq := same.seq ▸ frameable.seq
  srcLun := same.srcLun ▸ frameable.srcLun
  short := by
    have short := frameable.short
    rw [same.netfn, same.data] at short
    exact short

theorem toNat_add_ofNat {place : UInt8} {count : Nat} (small : place.toNat + count < 256) :
    (place + UInt8.ofNat count).toNat = place.toNat + count := by
  rw [UInt8.toNat_add, UInt8.toNat_ofNat_of_lt' (show count < 256 by omega)]
  exact Nat.mod_eq_of_lt small

theorem txSize_toNat (short : msg.data.length + overhead msg.netfn ≤ 255) :
    (txSize msg).toNat + 1 = msg.data.length + overhead msg.netfn := by
  have place := overhead_eq msg.netfn
  have size : txSize msg = dataAt msg.netfn + UInt8.ofNat msg.data.length := by
    rw [UInt8.add_comm]
    rfl
  rw [size, toNat_add_ofNat (by omega)]
  omega

/-- What is sent of a message that is short enough is its frame. -/
theorem ipmbEncode_eq (buffer : Buffer txBufferSize)
    (short : msg.data.length + overhead msg.netfn ≤ 255) :
    ∃ after, ipmbEncode buffer msg = some (.success, after) ∧ sent msg after = msg.frame := by
  have place := overhead_eq msg.netfn
  have headed := msg.length_head
  let netfnLun := (msg.netfn <<< 2 &&& 0xFC) ||| (msg.destLun &&& 0x03)
  let first := [msg.destAddr, netfnLun]
  let others := [checksum first, msg.srcAddr,
    (msg.seq <<< 2 &&& 0xFC) ||| (msg.srcLun &&& 0x03), msg.cmd] ++
    if isResponse msg.netfn then [msg.completionCode] else []
  have parts : first ++ others = msg.head := rfl
  have rest : others.length + 3 = overhead msg.netfn := by
    have both := congrArg List.length parts
    rw [length_append] at both
    have two : first.length = 2 := rfl
    omega
  obtain ⟨one, wroteFirst, bytesFirst⟩ :=
    buffer.write_eq first (show 0 + 2 ≤ 534 by decide)
  have hdrChksum : calculateChecksum one.bytes 2 = some (checksum first) := by
    rw [bytesFirst, splice_zero]
    exact calculateChecksum_append (by simp [first]) rfl
  obtain ⟨two, wroteOthers, bytesOthers⟩ :=
    one.write_behind 2 others bytesFirst buffer.sized rfl
      (show 2 + others.length ≤ 534 by omega)
  rw [parts] at bytesOthers
  obtain ⟨three, wroteData, bytesData⟩ :=
    two.write_behind (dataAt msg.netfn).toNat msg.data bytesOthers buffer.sized (by omega)
      (show (dataAt msg.netfn).toNat + msg.data.length ≤ 534 by omega)
  have behind : (dataAt msg.netfn + UInt8.ofNat msg.data.length).toNat = msg.body.length := by
    rw [toNat_add_ofNat (by omega), Message.body, length_append]
    omega
  have chksum : calculateChecksum three.bytes (dataAt msg.netfn + UInt8.ofNat msg.data.length) =
      some (checksum msg.body) := by
    rw [bytesData, splice_zero]
    exact calculateChecksum_append (by simp [Message.head]) behind
  have whole : msg.body.length + 1 = msg.data.length + overhead msg.netfn := by
    rw [Message.body, length_append]
    omega
  obtain ⟨four, wroteChksum, bytesChksum⟩ :=
    three.write_behind _ [checksum msg.body] bytesData buffer.sized
      (behind.trans (Nat.zero_add _).symm) (show _ + 1 ≤ 534 by omega)
  refine ⟨four, ?_, ?_⟩
  · refine Option.bind_eq_some_iff.mpr ⟨one, wroteFirst, ?_⟩
    refine Option.bind_eq_some_iff.mpr ⟨checksum first, hdrChksum, ?_⟩
    refine Option.bind_eq_some_iff.mpr ⟨two, wroteOthers, ?_⟩
    refine Option.bind_eq_some_iff.mpr ⟨three, wroteData, ?_⟩
    refine Option.bind_eq_some_iff.mpr ⟨checksum msg.body, chksum, ?_⟩
    exact Option.bind_eq_some_iff.mpr ⟨four, wroteChksum, rfl⟩
  · have counted : (txSize msg).toNat + 1 = msg.frame.length := by
      rw [msg.length_frame, txSize_toNat short]
    unfold sent
    rw [bytesChksum, counted, splice_zero]
    exact take_left

/-! ## Decoding a frame -/

/-- What `ipmb_decode` takes from a frame that has room for the overhead. -/
structure Taken (old : Message) (frame : List UInt8) (got : Message) : Prop where
  destAddr : got.destAddr = frame.getD 0 0
  netfn : got.netfn = frame.getD 1 0 >>> 2
  destLun : got.destLun = frame.getD 1 0 &&& 0x03
  srcAddr : got.srcAddr = frame.getD 3 0
  seq : got.seq = frame.getD 4 0 >>> 2
  srcLun : got.srcLun = frame.getD 4 0 &&& 0x03
  cmd : got.cmd = frame.getD 5 0
  completionCode : got.completionCode =
    if isResponse got.netfn then frame.getD 6 0 else old.completionCode
  data : got.data =
    (frame.drop (dataAt got.netfn).toNat).take (frame.length - overhead got.netfn)

/-- A frame that has room for the overhead is decoded. -/
theorem ipmbDecode_eq (old : Message) {frame : List UInt8} {len : UInt8}
    (sized : len.toNat = frame.length)
    (room : overhead (frame.getD 1 0 >>> 2) ≤ frame.length) :
    ∃ got, ipmbDecode old frame len = some (.success, got) ∧ Taken old frame got := by
  have bounds := overhead_le (frame.getD 1 0 >>> 2)
  have place := overhead_eq (frame.getD 1 0 >>> 2)
  have small := len.toNat_lt
  have counted : decodedLen (frame.getD 1 0 >>> 2) len =
      frame.length - overhead (frame.getD 1 0 >>> 2) := by
    unfold decodedLen
    split <;> omega
  have code : completionAt old (frame.getD 1 0 >>> 2) frame = some
      (if isResponse (frame.getD 1 0 >>> 2) then frame.getD 6 0 else old.completionCode) := by
    unfold completionAt overhead at *
    split
    · rename_i response
      rw [if_pos response] at room
      exact byteAt_eq (show 6 < frame.length from Nat.lt_of_lt_of_le (by decide) room)
    · rfl
  have data : rangeAt frame (dataAt (frame.getD 1 0 >>> 2)).toNat
      (frame.length - overhead (frame.getD 1 0 >>> 2)) = some _ := rangeAt_eq (by omega)
  have fits : ((frame.drop (dataAt (frame.getD 1 0 >>> 2)).toNat).take
      (frame.length - overhead (frame.getD 1 0 >>> 2))).length ≤ ipmiMsgMaxLength := by
    rw [length_take]
    show _ ≤ 527
    omega
  refine ⟨?_, ?_, ?_⟩
  rotate_left
  · refine Option.bind_eq_some_iff.mpr ⟨_, byteAt_eq (show 0 < frame.length by omega), ?_⟩
    refine Option.bind_eq_some_iff.mpr ⟨_, byteAt_eq (show 1 < frame.length by omega), ?_⟩
    refine Option.bind_eq_some_iff.mpr ⟨_, byteAt_eq (show 2 < frame.length by omega), ?_⟩
    refine Option.bind_eq_some_iff.mpr ⟨_, byteAt_eq (show 3 < frame.length by omega), ?_⟩
    refine Option.bind_eq_some_iff.mpr ⟨_, byteAt_eq (show 4 < frame.length by omega), ?_⟩
    refine Option.bind_eq_some_iff.mpr ⟨_, byteAt_eq (show 5 < frame.length by omega), ?_⟩
    refine Option.bind_eq_some_iff.mpr ⟨_, code, ?_⟩
    rw [counted]
    refine Option.bind_eq_some_iff.mpr ⟨_, data, ?_⟩
    refine Option.bind_eq_some_iff.mpr ⟨_, lastByte_eq sized (by omega), ?_⟩
    exact dif_pos fits
  · exact ⟨rfl, rfl, rfl, rfl, rfl, rfl, rfl, rfl, rfl⟩

theorem Message.sealed_frame (msg : Message) : Sealed msg.frame := by
  have behind : msg.frame.length - 1 = msg.body.length := by
    rw [Message.frame, length_append, length_singleton, Nat.add_sub_cancel]
  refine ⟨rfl, ?_⟩
  rw [behind, Message.frame, take_left, getD_append_right _ _ _ _ le_rfl,
    Nat.sub_self]
  rfl

theorem Message.take_frame (msg : Message) :
    (msg.frame.drop (dataAt msg.netfn).toNat).take (msg.frame.length - overhead msg.netfn) =
      msg.data := by
  have place := overhead_eq msg.netfn
  have headed := msg.length_head
  have start : (dataAt msg.netfn).toNat = msg.head.length := by omega
  rw [msg.length_frame, Nat.add_sub_cancel, start, Message.frame, Message.body, append_assoc,
    drop_left, take_left]

theorem roundTrip_frame (frameable : Frameable msg) : RoundTrip msg msg.frame := by
  have bounds := overhead_le msg.netfn
  have counted := msg.length_frame
  have short := frameable.short
  have sized : (UInt8.ofNat msg.frame.length).toNat = msg.frame.length :=
    UInt8.toNat_ofNat_of_lt' (show msg.frame.length < 256 by omega)
  have six : (0x3F : UInt8).toNat = 2 ^ 6 - 1 := rfl
  have two : (0x03 : UInt8).toNat = 2 ^ 2 - 1 := rfl
  have netfn : msg.frame.getD 1 0 >>> 2 = msg.netfn :=
    (upper_six msg.netfn msg.destLun).trans (and_mask_eq six frameable.netfn)
  have destLun : msg.frame.getD 1 0 &&& 0x03 = msg.destLun :=
    (lower_two msg.netfn msg.destLun).trans (and_mask_eq two frameable.destLun)
  have seq : msg.frame.getD 4 0 >>> 2 = msg.seq :=
    (upper_six msg.seq msg.srcLun).trans (and_mask_eq six frameable.seq)
  have srcLun : msg.frame.getD 4 0 &&& 0x03 = msg.srcLun :=
    (lower_two msg.seq msg.srcLun).trans (and_mask_eq two frameable.srcLun)
  refine ⟨?_, fun old => ?_⟩
  · rw [validateChecksum_eq sized (by omega), verdict_success.mpr msg.sealed_frame]
  · obtain ⟨got, decoded, taken⟩ := ipmbDecode_eq old sized (by rw [netfn]; omega)
    have same := taken.netfn.trans netfn
    refine ⟨got, decoded, ?_⟩
    exact
      { netfn := same
        destLun := taken.destLun.trans destLun
        cmd := taken.cmd
        seq := taken.seq.trans seq
        srcLun := taken.srcLun.trans srcLun
        destAddr := taken.destAddr
        srcAddr := taken.srcAddr
        completionCode := by
          rw [taken.completionCode, same]
          unfold Message.frame Message.body Message.head
          split <;> rfl
        data := by rw [taken.data, same, msg.take_frame] }

theorem success_of_encode {buffer after : Buffer txBufferSize} {error : IpmbError}
    (encoded : ipmbEncode buffer msg = some (error, after)) : error = .success := by
  unfold ipmbEncode at encoded
  simp only [bind_eq_bind, bind_eq_some_iff] at encoded
  obtain ⟨_, _, _, _, _, _, _, _, _, _, _, _, same⟩ := encoded
  exact (Prod.mk.inj (Option.some.inj same)).1.symm

theorem Framed.frameable (framed : Framed msg) : Frameable msg := by
  obtain ⟨error, after, encoded, back⟩ := framed (Buffer.zero txBufferSize)
  obtain ⟨got, decoded, same⟩ := (back (success_of_encode encoded)).decoded msg
  exact frameable_of_same (frameable_of_decode decoded) same

/-- A message is rejected or comes back from what is sent, exactly when a frame can carry it. -/
theorem framed_iff (msg : Message) : Framed msg ↔ Frameable msg := by
  constructor
  · exact Framed.frameable
  · intro frameable buffer
    obtain ⟨after, encoded, same⟩ := ipmbEncode_eq buffer frameable.short
    refine ⟨.success, after, encoded, fun _ => ?_⟩
    rw [same]
    exact roundTrip_frame frameable

def longResponse (count : Nat) (fits : count ≤ ipmiMsgMaxLength) : Message :=
  { destAddr := 0x20, netfn := 0x07, destLun := 0, hdrChksum := 0, srcAddr := 0x40, seq := 1,
    srcLun := 0, cmd := 0x01, completionCode := 0, data := List.replicate count 0,
    fits := by rwa [length_replicate], msgChksum := 0 }

theorem length_longResponse (count : Nat) (fits : count ≤ ipmiMsgMaxLength) :
    (longResponse count fits).data.length = count :=
  length_replicate

/-- A response of 248 bytes is neither rejected nor framed. -/
theorem not_framed_longResponse : ¬ Framed (longResponse 248 (by decide)) := by
  intro framed
  have short := framed.frameable.short
  have counted := length_longResponse 248 (by decide)
  have added : overhead (longResponse 248 (by decide)).netfn = 8 := rfl
  omega

/-! ## Receiving -/

/-- The bytes of a message received on a channel: `ipmb_slave_read` gives their number in eight
bits. -/
structure Received where
  bytes : List UInt8
  some : 0 < bytes.length
  short : bytes.length < 256

def Received.rxLen (received : Received) : UInt8 := UInt8.ofNat received.bytes.length

/-- Only bytes that were received are read, and the data that is accepted is what they leave behind
the overhead. -/
structure Confined (received : Received) : Prop where
  inside : ∀ old, (ipmbRxTask old received.bytes received.rxLen).isSome
  exact : ∀ old got, ipmbRxTask old received.bytes received.rxLen = some (some got) →
    got.data.length + overhead got.netfn = received.bytes.length

/-- The header checksum is there, and a message whose checksums fit has room for the overhead. -/
structure Whole (received : Received) : Prop where
  header : 3 ≤ received.bytes.length
  room : Sealed received.bytes → overhead (received.bytes.getD 1 0 >>> 2) ≤ received.bytes.length

instance (received : Received) : Decidable (Whole received) :=
  decidable_of_iff (3 ≤ received.bytes.length ∧ (Sealed received.bytes →
      overhead (received.bytes.getD 1 0 >>> 2) ≤ received.bytes.length))
    ⟨fun both => ⟨both.1, both.2⟩, fun whole => ⟨whole.header, whole.room⟩⟩

theorem Received.rxLen_toNat (received : Received) :
    received.rxLen.toNat = received.bytes.length :=
  UInt8.toNat_ofNat_of_lt' received.short

theorem long_of_validate {buffer : List UInt8} {len : UInt8} {error : IpmbError}
    (validated : validateChecksum buffer len = some error) : 3 ≤ buffer.length := by
  obtain ⟨headerChecksum, read, -⟩ := Option.bind_eq_some_iff.mp validated
  exact lt_of_byteAt read

theorem netfn_of_decode {buffer : List UInt8} {len : UInt8} {error : IpmbError}
    (decoded : ipmbDecode old buffer len = some (error, got)) :
    got.netfn = buffer.getD 1 0 >>> 2 := by
  unfold ipmbDecode at decoded
  simp only [bind_eq_bind, bind_eq_some_iff] at decoded
  obtain ⟨_, _, netfnLun, read, _, _, _, _, _, _, _, _, _, _, _, _, _, _, decoded⟩ := decoded
  have inside := lt_of_byteAt read
  rw [byteAt_eq inside] at read
  cases read
  split at decoded
  · obtain ⟨-, rfl⟩ := Prod.mk.inj (Option.some.inj decoded)
    rfl
  · cases decoded

/-- The receive task reads only what was received, and takes exactly the data, when the message has
room for the overhead, and only then. -/
theorem confined_iff (received : Received) : Confined received ↔ Whole received := by
  have sized := received.rxLen_toNat
  constructor
  · intro confined
    obtain ⟨answer, ran⟩ := Option.isSome_iff_exists.mp
      (confined.inside (longResponse 0 (by decide)))
    obtain ⟨error, validated, ran'⟩ := Option.bind_eq_some_iff.mp ran
    have long := long_of_validate validated
    refine ⟨long, fun sealed => ?_⟩
    have valid := validateChecksum_eq sized long
    rw [verdict_success.mpr sealed, validated] at valid
    cases valid
    obtain ⟨⟨error, got⟩, decoded, same⟩ := Option.bind_eq_some_iff.mp ran'
    cases same
    have exact := confined.exact _ got ran
    rw [netfn_of_decode decoded] at exact
    omega
  · intro whole
    have valid := validateChecksum_eq sized whole.header
    refine ⟨fun old => ?_, fun old got ran => ?_⟩
    · unfold ipmbRxTask
      rw [valid, bind_eq_bind, bind_some]
      split
      · rfl
      · rename_i success
        have sealed := verdict_success.mp (not_not.mp success)
        obtain ⟨got, decoded, -⟩ := ipmbDecode_eq old sized (whole.room sealed)
        rw [decoded]
        rfl
    · unfold ipmbRxTask at ran
      rw [valid, bind_eq_bind, bind_some] at ran
      split at ran
      · cases Option.some.inj ran
      · rename_i success
        have room := whole.room (verdict_success.mp (not_not.mp success))
        obtain ⟨other, decoded, taken⟩ := ipmbDecode_eq old sized room
        rw [decoded] at ran
        obtain rfl := Option.some.inj (Option.some.inj ran)
        have place := overhead_eq other.netfn
        rw [← taken.netfn] at room
        rw [taken.data, length_take, length_drop]
        omega

/-- Three bytes: an address, a net function and their checksum, which is the last byte as well. -/
def threeBytes : Received :=
  { bytes := [0x10, 0x18, 0xC8], some := by decide, short := by decide }

/-- Three bytes whose header checksum is their last byte as well are read past their end. -/
theorem not_confined_threeBytes : ¬ Confined threeBytes := by
  intro confined
  have ran := confined.inside (longResponse 0 (by decide))
  cases ran

end OpenBic.Ipmb.Frame
