import OpenBic.Library.Checked
import OpenBic.Mctp.RoundTrip

/-!
# The SMBus binding

`make_send_buf` puts an MCTP packet into an SMBus frame, and `mctp_smbus_read` takes it out of a
received one. Before it looks at a frame the reader rewrites it when the byte count is not the
length less the header, which is the case for every frame without a PEC byte. The CRC that makes
the PEC is a parameter. A message whose packets fit their frames crosses the binding.
-/

namespace OpenBic.Mctp.Smbus

open List

/-- `MCTP_SMBUS_CMD_CODE`. -/
def cmdCode : UInt8 := 0x0F

/-- `sizeof(smbus_hdr)`: command code, byte count, source address. -/
def smbusHdrSize : Nat := 3

/-- `sizeof(rdata)`. -/
def rdataSize : Nat := 256

/-- What `mctp_smbus_read` hands on when it takes a frame. -/
structure Read where
  /-- `rt_size`, the length it returns. -/
  rtSize : Nat
  data : List UInt8
  addr : UInt8

section Code

variable (crc8 : List UInt8 → UInt8)

/-- `make_send_buf`, for a buffer of the packet's length and four bytes. -/
def makeSendBuf (addr dest : UInt8) (packet : List UInt8) : Option (List UInt8) :=
  if packet.length = 0 then none
  else
    let body := [cmdCode, UInt8.ofNat (1 + packet.length), addr + 1] ++ packet
    some (body ++ [crc8 (dest :: body)])

/-- `memcpy(data, data + count, len)` inside one buffer. -/
def moveDown (data : List UInt8) (count len : Nat) : List UInt8 :=
  (data.drop count).take len ++ data.drop len

/-- `mctp_smbus_read_hook`, for a length that is not less than the header. -/
def mctpSmbusReadHook (data : List UInt8) (len : Nat) : List UInt8 × Nat :=
  if (data.getD 1 0).toNat ≠ len - smbusHdrSize then
    if data.getD 1 0 = 0x0F then (moveDown data 1 (len - 1), len - 1)
    else (moveDown data 2 (len - 2), len - 2)
  else (data, len)

def rdata (frame : List UInt8) : List UInt8 :=
  frame ++ List.replicate (rdataSize - frame.length) 0

/-- `mctp_smbus_read` on what the hook has left; `rt_size` is a `uint8_t`. -/
def take (addr : UInt8) (data : List UInt8) (len : Nat) : Option Read :=
  let isPecExist := decide ((data.getD 1 0).toNat + 3 = len)
  if isPecExist ∧ crc8 (addr :: data.take (len - 1)) ≠ data.getD (len - 1) 0 then none
  else if data.getD 0 0 ≠ cmdCode then none
  else
    let rtSize := (len + 2 ^ 8 - smbusHdrSize - isPecExist.toNat) % 2 ^ 8
    some ⟨rtSize, (data.drop smbusHdrSize).take rtSize, data.getD 2 0 - 1⟩

/-- `mctp_smbus_read`, on a frame received at an address; without a result it returns zero. -/
def mctpSmbusRead (addr : UInt8) (frame : List UInt8) : Option Read :=
  if frame.length < smbusHdrSize then none
  else
    let hooked := mctpSmbusReadHook (rdata frame) frame.length
    take crc8 addr hooked.1 hooked.2

/-- The length that `mctp_smbus_read` returns. -/
def returned (addr : UInt8) (frame : List UInt8) : Nat :=
  match mctpSmbusRead crc8 addr frame with
  | none => 0
  | some read => read.rtSize

/-- The frame of a packet, with its PEC byte or without it, is read back as that packet from that
sender. -/
def ReadsBack (sender receiver : UInt8) (packet : List UInt8) (withPec : Bool) : Prop :=
  ∃ frame, makeSendBuf crc8 sender receiver packet = some frame ∧
    mctpSmbusRead crc8 receiver (if withPec then frame else frame.dropLast) =
      some ⟨packet.length, packet, sender⟩

/-- Frames of three to five bytes that are taken although they have no room for a header, and for
a PEC byte where they say there is one. -/
def Underflows (addr : UInt8) : List UInt8 → Prop
  | [first, count, third] =>
    first = cmdCode ∧ count = 0 ∧ third = crc8 [addr, cmdCode, 0] ∨ count = 0x0F ∨
      count ≠ 0 ∧ third = cmdCode
  | [_, count, third, fourth] =>
    count = 0x0F ∧ third = 0 ∧ fourth = crc8 [addr, cmdCode, 0] ∨
      count ≠ 1 ∧ count ≠ 0x0F ∧ third = cmdCode
  | [_, count, third, fourth, fifth] =>
    count ≠ 2 ∧ count ≠ 0x0F ∧ third = cmdCode ∧ fourth = 0 ∧ fifth = crc8 [addr, cmdCode, 0]
  | _ => False

end Code

/-- A packet fits the buffer, with its headers. -/
def Fits (packet : List UInt8) (withPec : Bool) : Prop :=
  0 < packet.length ∧ smbusHdrSize + packet.length + withPec.toNat ≤ rdataSize

section Read

variable {crc8 : List UInt8 → UInt8} {addr : UInt8}

theorem take_rtSize {data : List UInt8} {len : Nat} {read : Read}
    (taken : take crc8 addr data len = some read) :
    read.rtSize = (len + 2 ^ 8 - smbusHdrSize -
      (decide ((data.getD 1 0).toNat + 3 = len)).toNat) % 2 ^ 8 := by
  unfold take at taken
  dsimp only at taken
  split at taken
  · cases taken
  · split at taken
    · cases taken
    · cases taken
      rfl

theorem returned_le_of_long {frame : List UInt8} (long : 6 ≤ frame.length)
    (fits : frame.length ≤ rdataSize) : returned crc8 addr frame ≤ frame.length := by
  unfold returned mctpSmbusRead
  rw [if_neg (by unfold smbusHdrSize; omega)]
  unfold rdataSize at fits
  have kept : (mctpSmbusReadHook (rdata frame) frame.length).2 ≤ frame.length ∧
      4 ≤ (mctpSmbusReadHook (rdata frame) frame.length).2 := by
    unfold mctpSmbusReadHook
    split
    · split
      · omega
      · omega
    · omega
  split
  · exact Nat.zero_le _
  · rename_i read taken
    have size := take_rtSize taken
    have bit := Bool.toNat_lt (decide (((mctpSmbusReadHook (rdata frame) frame.length).1.getD 1
      0).toNat + 3 = (mctpSmbusReadHook (rdata frame) frame.length).2))
    unfold smbusHdrSize at size
    omega

theorem rdata_eq (frame : List UInt8) : ∃ zeros, rdata frame = frame ++ zeros := ⟨_, rfl⟩

theorem toNat_ne {one other : UInt8} (different : one ≠ other) : one.toNat ≠ other.toNat :=
  fun same => different (UInt8.toNat_inj.mp same)

theorem underflows_three (first count third : UInt8) :
    Underflows crc8 addr [first, count, third] ↔
      first = cmdCode ∧ count = 0 ∧ third = crc8 [addr, cmdCode, 0] ∨ count = 0x0F ∨
        count ≠ 0 ∧ third = cmdCode := Iff.rfl

theorem underflows_four (first count third fourth : UInt8) :
    Underflows crc8 addr [first, count, third, fourth] ↔
      count = 0x0F ∧ third = 0 ∧ fourth = crc8 [addr, cmdCode, 0] ∨
        count ≠ 1 ∧ count ≠ 0x0F ∧ third = cmdCode := Iff.rfl

theorem underflows_five (first count third fourth fifth : UInt8) :
    Underflows crc8 addr [first, count, third, fourth, fifth] ↔
      count ≠ 2 ∧ count ≠ 0x0F ∧ third = cmdCode ∧ fourth = 0 ∧ fifth = crc8 [addr, cmdCode, 0] :=
  Iff.rfl

theorem returned_three (first count third : UInt8) :
    returned crc8 addr [first, count, third] ≤ 3 ↔
      ¬ Underflows crc8 addr [first, count, third] := by
  obtain ⟨zeros, filled⟩ := rdata_eq [first, count, third]
  simp only [returned, mctpSmbusRead, filled, underflows_three]
  by_cases none : count = 0
  · subst none
    by_cases command : first = 0x0F
    · subst command
      by_cases valid : crc8 [addr, 0x0F, 0] = third
      · simp [mctpSmbusReadHook, take, smbusHdrSize, cmdCode, ← valid]
      · simp [mctpSmbusReadHook, take, smbusHdrSize, cmdCode, valid, Ne.symm valid]
    · by_cases valid : crc8 [addr, first, 0] = third
      · simp [mctpSmbusReadHook, take, smbusHdrSize, cmdCode, command, ← valid]
      · simp [mctpSmbusReadHook, take, smbusHdrSize, cmdCode, command, valid]
  · by_cases full : count = 0x0F
    · subst full
      simp [mctpSmbusReadHook, take, smbusHdrSize, cmdCode, moveDown]
    · have more : count.toNat ≠ 0 := toNat_ne none
      by_cases command : third = 0x0F
      · simp [mctpSmbusReadHook, take, smbusHdrSize, cmdCode, moveDown, none, full, more, command]
      · simp [mctpSmbusReadHook, take, smbusHdrSize, cmdCode, moveDown, none, full, more, command]

theorem returned_four (first count third fourth : UInt8) :
    returned crc8 addr [first, count, third, fourth] ≤ 4 ↔
      ¬ Underflows crc8 addr [first, count, third, fourth] := by
  obtain ⟨zeros, filled⟩ := rdata_eq [first, count, third, fourth]
  simp only [returned, mctpSmbusRead, filled, underflows_four]
  by_cases one : count = 1
  · subst one
    by_cases valid : crc8 [addr, first, 1, third] = fourth
    · by_cases command : first = 0x0F
      · simp [mctpSmbusReadHook, take, smbusHdrSize, cmdCode, command, ← valid]
      · simp [mctpSmbusReadHook, take, smbusHdrSize, cmdCode, command, ← valid]
    · simp [mctpSmbusReadHook, take, smbusHdrSize, cmdCode, valid]
  · have more : count.toNat ≠ 1 := toNat_ne one
    by_cases full : count = 0x0F
    · subst full
      by_cases zero : third = 0
      · subst zero
        by_cases valid : crc8 [addr, 0x0F, 0] = fourth
        · simp [mctpSmbusReadHook, take, smbusHdrSize, cmdCode, moveDown, ← valid]
        · simp [mctpSmbusReadHook, take, smbusHdrSize, cmdCode, moveDown, valid, Ne.symm valid]
      · have some : third.toNat ≠ 0 := toNat_ne zero
        simp [mctpSmbusReadHook, take, smbusHdrSize, cmdCode, moveDown, zero, some]
    · by_cases command : third = 0x0F
      · simp [mctpSmbusReadHook, take, smbusHdrSize, cmdCode, moveDown, one, full, more, command]
      · simp [mctpSmbusReadHook, take, smbusHdrSize, cmdCode, moveDown, one, full, more, command]

/-- What a frame of five bytes is taken for. -/
theorem returned_five (first count third fourth fifth : UInt8) :
    returned crc8 addr [first, count, third, fourth, fifth] ≤ 5 ↔
      ¬ Underflows crc8 addr [first, count, third, fourth, fifth] := by
  obtain ⟨zeros, filled⟩ := rdata_eq [first, count, third, fourth, fifth]
  simp only [returned, mctpSmbusRead, filled, underflows_five]
  by_cases two : count = 2
  · subst two
    by_cases valid : crc8 [addr, first, 2, third, fourth] = fifth
    · by_cases command : first = 0x0F
      · simp [mctpSmbusReadHook, take, smbusHdrSize, cmdCode, command, ← valid]
      · simp [mctpSmbusReadHook, take, smbusHdrSize, cmdCode, command, ← valid]
    · simp [mctpSmbusReadHook, take, smbusHdrSize, cmdCode, valid]
  · have more : count.toNat ≠ 2 := toNat_ne two
    by_cases full : count = 0x0F
    · subst full
      by_cases one : third = 1
      · subst one
        by_cases valid : crc8 [addr, 0x0F, 1, fourth] = fifth
        · simp [mctpSmbusReadHook, take, smbusHdrSize, cmdCode, moveDown, ← valid]
        · simp [mctpSmbusReadHook, take, smbusHdrSize, cmdCode, moveDown, valid]
      · have some : third.toNat ≠ 1 := toNat_ne one
        simp [mctpSmbusReadHook, take, smbusHdrSize, cmdCode, moveDown, some]
    · by_cases zero : fourth = 0
      · subst zero
        by_cases command : third = 0x0F
        · subst command
          by_cases valid : crc8 [addr, 0x0F, 0] = fifth
          · simp [mctpSmbusReadHook, take, smbusHdrSize, cmdCode, moveDown, two, full, more,
              ← valid]
          · simp [mctpSmbusReadHook, take, smbusHdrSize, cmdCode, moveDown, full, more, valid,
              Ne.symm valid]
        · by_cases valid : crc8 [addr, third, 0] = fifth
          · simp [mctpSmbusReadHook, take, smbusHdrSize, cmdCode, moveDown, full, more, command,
              ← valid]
          · simp [mctpSmbusReadHook, take, smbusHdrSize, cmdCode, moveDown, full, more, command,
              valid]
      · have some : fourth.toNat ≠ 0 := toNat_ne zero
        by_cases command : third = 0x0F
        · simp [mctpSmbusReadHook, take, smbusHdrSize, cmdCode, moveDown, full, more, command,
            zero, some]
        · simp [mctpSmbusReadHook, take, smbusHdrSize, cmdCode, moveDown, full, more, command,
            some]

theorem returned_le_iff {frame : List UInt8} (fits : frame.length ≤ rdataSize) :
    returned crc8 addr frame ≤ frame.length ↔ ¬ Underflows crc8 addr frame := by
  match frame, fits with
  | [], _ => simp [returned, mctpSmbusRead, smbusHdrSize, Underflows]
  | [_], _ => simp [returned, mctpSmbusRead, smbusHdrSize, Underflows]
  | [_, _], _ => simp [returned, mctpSmbusRead, smbusHdrSize, Underflows]
  | [first, count, third], _ => exact returned_three first count third
  | [first, count, third, fourth], _ => exact returned_four first count third fourth
  | [first, count, third, fourth, fifth], _ => exact returned_five first count third fourth fifth
  | first :: count :: third :: fourth :: fifth :: sixth :: rest, fits =>
    have long : 6 ≤ (first :: count :: third :: fourth :: fifth :: sixth :: rest).length := by
      simp only [length_cons]
      omega
    exact ⟨fun _ => id, fun _ => returned_le_of_long long fits⟩

theorem count_toNat {packet : List UInt8} {withPec : Bool} (fits : Fits packet withPec) :
    (UInt8.ofNat (1 + packet.length)).toNat = 1 + packet.length := by
  have most := fits.2
  unfold smbusHdrSize rdataSize at most
  exact Nat.mod_eq_of_lt (by omega)

/-- A frame with its PEC byte is read back. -/
theorem readsBack_pec {sender receiver : UInt8} {packet : List UInt8} (fits : Fits packet true) :
    ReadsBack crc8 sender receiver packet true := by
  have count := count_toNat fits
  obtain ⟨some, most⟩ := fits
  have small : packet.length < 2 ^ 8 := by
    unfold smbusHdrSize rdataSize at most
    omega
  let head := [cmdCode, UInt8.ofNat (1 + packet.length), sender + 1]
  let pec := crc8 (receiver :: (head ++ packet))
  have built : makeSendBuf crc8 sender receiver packet = .some (head ++ packet ++ [pec]) :=
    if_neg (Nat.ne_of_gt some)
  refine ⟨_, built, ?_⟩
  obtain ⟨zeros, filled⟩ := rdata_eq (head ++ packet ++ [pec])
  have length : (head ++ packet ++ [pec]).length = packet.length + 4 := by
    simp [head]
  have body : (head ++ packet).length = packet.length + 3 := by
    simp [head]
  have counted : (head ++ packet ++ [pec] ++ zeros).getD 1 0 = UInt8.ofNat (1 + packet.length) :=
    rfl
  have hooked : mctpSmbusReadHook (head ++ packet ++ [pec] ++ zeros) (packet.length + 4) =
      (head ++ packet ++ [pec] ++ zeros, packet.length + 4) := by
    unfold mctpSmbusReadHook
    rw [if_neg]
    rw [counted, count, smbusHdrSize, not_not]
    omega
  have front : (head ++ packet ++ [pec] ++ zeros).take (packet.length + 4 - 1) =
      head ++ packet := by
    rw [append_assoc, show packet.length + 4 - 1 = (head ++ packet).length by omega,
      take_left]
  have last : (head ++ packet ++ [pec] ++ zeros).getD (packet.length + 4 - 1) 0 = pec := by
    rw [append_assoc, show packet.length + 4 - 1 = (head ++ packet).length by omega]
    simp [getD_eq_getElem?_getD]
  have room : ¬ (head ++ packet ++ [pec]).length < smbusHdrSize := by
    unfold smbusHdrSize
    omega
  have marked : (1 + packet.length) + 3 = packet.length + 4 := by omega
  have size : (packet.length + 4 + 2 ^ 8 - smbusHdrSize - true.toNat) % 2 ^ 8 = packet.length := by
    unfold smbusHdrSize
    simp only [Bool.toNat_true]
    omega
  have code : (head ++ packet ++ [pec] ++ zeros).getD 0 0 = cmdCode := rfl
  have source : (head ++ packet ++ [pec] ++ zeros).getD 2 0 = sender + 1 := rfl
  have data : ((head ++ packet ++ [pec] ++ zeros).drop smbusHdrSize).take packet.length =
      packet := by
    simp [head, smbusHdrSize]
  rw [if_pos rfl, mctpSmbusRead, if_neg room, filled, length]
  rw [hooked]
  unfold take
  dsimp only
  rw [counted, count, marked, decide_eq_true rfl, front, last, code, source, size, data,
    if_neg (fun bad => bad.2 rfl), if_neg (fun bad => bad rfl)]
  congr 2
  exact UInt8.add_sub_cancel sender 1

/-- A frame without its PEC byte is rewritten before it is looked at, and not read back. -/
theorem not_readsBack_plain {sender receiver : UInt8} {packet : List UInt8}
    (fits : Fits packet false) : ¬ ReadsBack crc8 sender receiver packet false := by
  have count := count_toNat fits
  obtain ⟨some, most⟩ := fits
  rintro ⟨frame, built, back⟩
  rw [makeSendBuf, if_neg (Nat.ne_of_gt some)] at built
  cases built
  let head := [cmdCode, UInt8.ofNat (1 + packet.length), sender + 1]
  have body : (head ++ packet).length = packet.length + 3 := by
    simp [head]
  have back : mctpSmbusRead crc8 receiver (head ++ packet) =
      .some ⟨packet.length, packet, sender⟩ := by
    rw [← back, if_neg (by decide)]
    exact congrArg _ (@dropLast_concat _ (head ++ packet) _).symm
  obtain ⟨zeros, filled⟩ := rdata_eq (head ++ packet)
  have counted : (head ++ packet ++ zeros).getD 1 0 = UInt8.ofNat (1 + packet.length) := rfl
  have room : ¬ packet.length + 3 < smbusHdrSize := by
    unfold smbusHdrSize
    omega
  have shorter : (mctpSmbusReadHook (head ++ packet ++ zeros) (packet.length + 3)).2 =
        packet.length + 2 ∨
      (mctpSmbusReadHook (head ++ packet ++ zeros) (packet.length + 3)).2 =
        packet.length + 1 := by
    unfold mctpSmbusReadHook
    rw [if_pos]
    · split
      · exact .inl rfl
      · exact .inr rfl
    · rw [counted, count, smbusHdrSize]
      omega
  simp only [mctpSmbusRead, body, filled, if_neg room] at back
  have size := take_rtSize back
  have bit := Bool.toNat_lt (decide (((mctpSmbusReadHook (head ++ packet ++ zeros)
    (packet.length + 3)).1.getD 1 0).toNat + 3 =
      (mctpSmbusReadHook (head ++ packet ++ zeros) (packet.length + 3)).2))
  unfold smbusHdrSize at size
  dsimp only at size
  omega

/-- A packet is read back from its frame exactly when the frame has its PEC byte, and a received
frame is taken for no more bytes than it has exactly when it is not one of the short ones that are
taken all the same. -/
theorem mctpSmbusRead_iff (crc8 : List UInt8 → UInt8) (sender receiver : UInt8) :
    (∀ packet withPec, Fits packet withPec →
      (ReadsBack crc8 sender receiver packet withPec ↔ withPec = true)) ∧
    ∀ frame, frame.length ≤ rdataSize →
      (returned crc8 receiver frame ≤ frame.length ↔ ¬ Underflows crc8 receiver frame) := by
  constructor
  · intro packet withPec fits
    cases withPec with
    | true => exact ⟨fun _ => rfl, fun _ => readsBack_pec fits⟩
    | false =>
      exact ⟨fun back => absurd back (not_readsBack_plain fits), nofun⟩
  · intro frame fits
    exact returned_le_iff fits

/-- A packet of five bytes is not read back from its frame without PEC, and three bytes are taken
for 255, whatever the CRC is. -/
theorem shortFrame_underflows :
    (∀ crc8 : List UInt8 → UInt8,
      ¬ ReadsBack crc8 0x20 0x40 [0x01, 0x0A, 0x08, 0xC8, 0x00] false) ∧
    ∀ crc8 : List UInt8 → UInt8, returned crc8 0x40 [0x0F, 0x0F, 0x21] = 255 := by
  constructor
  · intro crc8
    exact not_readsBack_plain ⟨by decide, by decide⟩
  · intro crc8
    obtain ⟨zeros, filled⟩ := rdata_eq [0x0F, 0x0F, 0x21]
    simp [returned, mctpSmbusRead, filled, mctpSmbusReadHook, take, smbusHdrSize, cmdCode, moveDown]

end Read

/-! ## Messages -/

section Message

open Library.Checked Library.Machine

/-- The packets written for a message are read from their frames as they were, and these packets,
however they are interleaved with others, are handed on once, as the message. -/
def Crosses (crc8 : List UInt8 → UInt8) (sender receiver : UInt8) (port : TxPort)
    (extParams : ExtParams) (message : List UInt8) : Prop :=
  ∃ outcome packets,
    mctpTxTask port ⟨false, some message, extParams⟩ (fun _ => 0) = some outcome ∧
    outcome.written.mapM (fun packet =>
        makeSendBuf crc8 sender receiver packet >>= mctpSmbusRead crc8 receiver) =
      some (packets.map fun packet => ⟨packet.bytes.length, packet.bytes, sender⟩) ∧
    ∀ (rx : Port) (arrivals : List Arrival), rx.rxCb = true →
      (extParams.ep = rx.endpoint ∨ extParams.ep = nullEid) →
      rx.tempMsgBuf (txKey port extParams) = none →
      Interleaved (txKey port extParams) packets arrivals →
      ∃ final, run mctpRxTask rx arrivals = some final ∧
        final.tempMsgBuf (txKey port extParams) = none ∧
        final.calls (txKey port extParams) = rx.calls (txKey port extParams) ++ [message]

theorem crosses_of_sizes {crc8 : List UInt8 → UInt8} {sender receiver : UInt8} {port : TxPort}
    {extParams : ExtParams} {message : List UInt8} (nonempty : message ≠ [])
    (fits : message.length ≤ msgAssemblyBufSize) (small : min message.length port.maxMsgSize ≤ 248)
    (few : message.length ≤ 255 * port.maxMsgSize) :
    Crosses crc8 sender receiver port extParams message := by
  have long := length_pos_of_ne_nil nonempty
  have positive : 0 < port.maxMsgSize := by omega
  obtain ⟨outcome, packets, done, written, delivers⟩ : RoundTrips port extParams message :=
    roundTrips_of_sizes nonempty fits (by omega) few
  refine ⟨outcome, packets, done, ?_, delivers⟩
  rw [mctpTxTask_all nonempty positive] at done
  cases done
  rw [written, mapM_map]
  refine mapM_eq_map fun packet member => ?_
  obtain ⟨index, inside, bytes⟩ := sent_index written.symm member
  have size := @txPacket_length port extParams message index positive inside
  have within := cpMsgSize_within positive inside
  have most : cpMsgSize message.length port.maxMsgSize index ≤ _ := cpMsgSize_le positive
  rw [← bytes] at size
  have framed : Fits packet.bytes true := by
    unfold Fits smbusHdrSize rdataSize
    unfold hdrSize at size
    rw [size, Bool.toNat_true]
    omega
  obtain ⟨frame, built, back⟩ : ReadsBack crc8 sender receiver packet.bytes true :=
    readsBack_pec framed
  dsimp only [Function.comp_apply]
  rw [built]
  exact back

/-- A message of 300 bytes crosses in packets of 64. -/
theorem crosses_of_sizes_300 :
    Crosses (fun _ => 0) 0x20 0x40 ⟨0x0A, 64, 0⟩ ⟨1, 0, 0x0A⟩ (List.replicate 300 0x55) :=
  crosses_of_sizes (ne_nil_of_length_pos (by rw [length_replicate]; decide))
    (by rw [length_replicate]; decide) (by rw [length_replicate]; decide)
    (by rw [length_replicate]; decide)

end Message

end OpenBic.Mctp.Smbus
