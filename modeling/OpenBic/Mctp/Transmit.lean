import OpenBic.Mctp.Packet

/-!
# `mctp_tx_task`: splitting a message into packets

The transmit task cuts a message every `max_msg_size` bytes. The number of packets and the
size of a packet's data are kept in `uint8_t` variables, although the message length and
`max_msg_size` are `uint16_t`; the model reduces them where the source does.
-/

namespace OpenBic.Mctp

open List

def mctpSuccess : UInt8 := 0

def mctpError : UInt8 := 1

/-- What the transmit task reads of an MCTP instance. -/
structure TxPort where
  endpoint : UInt8
  maxMsgSize : Nat
  msgTag : UInt8

/-- An entry of the transmit queue. -/
structure TxMsg where
  isBridgePacket : Bool
  /-- `buf`, of `len` bytes, unless it is `NULL`. -/
  buf : Option (List UInt8)
  extParams : ExtParams

/-- What the task did with a message. -/
structure TxOutcome where
  /-- The packets passed to `write_data`, in order. -/
  written : List (List UInt8)
  response : UInt8
  /-- `msg_tag` of the instance afterwards. -/
  msgTag : UInt8

def splitPktNum (len maxMsgSize : Nat) : Nat :=
  (len / maxMsgSize + if len % maxMsgSize = 0 then 0 else 1) % 2 ^ 8

/-- `cp_msg_size` of the packet with index `i`. -/
def cpMsgSize (len maxMsgSize i : Nat) : Nat :=
  if i + 1 = splitPktNum len maxMsgSize then
    let remain := len % maxMsgSize % 2 ^ 8
    if remain = 0 then maxMsgSize % 2 ^ 8 else remain
  else maxMsgSize % 2 ^ 8

/-- `hdr->to`, one bit of `tag_owner`. -/
def txTagOwner (extParams : ExtParams) : Bool := extParams.tagOwner.toNat % 2 == 1

/-- `hdr->msg_tag`: a response keeps the tag of its parameters. -/
def txMsgTag (port : TxPort) (extParams : ExtParams) : Fin 8 :=
  if txTagOwner extParams then ⟨port.msgTag.toNat % 8, Nat.mod_lt _ (by decide)⟩
  else ⟨extParams.msgTag.toNat % 8, Nat.mod_lt _ (by decide)⟩

def txKey (port : TxPort) (extParams : ExtParams) : Key :=
  (txMsgTag port extParams, txTagOwner extParams)

/-- The header of the packet with index `i`. -/
def txHdr (port : TxPort) (extParams : ExtParams) (len i : Nat) : Hdr :=
  { hdrVer := hdrVersion
    destEp := extParams.ep
    srcEp := port.endpoint
    msgTag := txMsgTag port extParams
    tagOwner := txTagOwner extParams
    pktSeq := ⟨i % 4, Nat.mod_lt _ (by decide)⟩
    eom := i + 1 == splitPktNum len port.maxMsgSize
    som := i == 0 }

/-- The packet with index `i`, as it is passed to `write_data`. -/
def txPacket (port : TxPort) (extParams : ExtParams) (buf : List UInt8) (i : Nat) : List UInt8 :=
  (txHdr port extParams buf.length i).bytes ++
    (buf.drop (i * port.maxMsgSize)).take (cpMsgSize buf.length port.maxMsgSize i)

/-- The loop over the packets: it stops at the first packet that is not written. The result is
the packets written and the index at which it stopped. -/
def txLoop (packet : Nat → List UInt8) (writeData : Nat → UInt16) :
    Nat → Nat → List (List UInt8) × Nat
  | 0, i => ([], i)
  | left + 1, i =>
    if writeData i = 0 then
      (packet i :: (txLoop packet writeData left (i + 1)).1,
        (txLoop packet writeData left (i + 1)).2)
    else ([packet i], i)

/-- One turn of `mctp_tx_task`, given the return codes of `write_data`. A `max_msg_size` of zero
divides by zero. -/
def mctpTxTask (port : TxPort) (msg : TxMsg) (writeData : Nat → UInt16) : Option TxOutcome :=
  match msg.buf with
  | none => some ⟨[], mctpError, port.msgTag⟩
  | some buf =>
    if buf.length = 0 then some ⟨[], mctpError, port.msgTag⟩
    else if msg.isBridgePacket then some ⟨[buf], (writeData 0).toUInt8, port.msgTag⟩
    else if port.maxMsgSize = 0 then none
    else
      let splitPktNum := splitPktNum buf.length port.maxMsgSize
      let sent := txLoop (txPacket port msg.extParams buf) writeData splitPktNum 0
      some
        { written := sent.1
          response := if sent.2 = splitPktNum then mctpSuccess else mctpError
          msgTag := if msg.extParams.tagOwner = 0 then port.msgTag else port.msgTag + 1 }

theorem txLoop_all (packet : Nat → List UInt8) (left i : Nat) :
    txLoop packet (fun _ => 0) left i = ((List.range' i left).map packet, i + left) := by
  induction left generalizing i with
  | zero => rfl
  | succ left ih =>
    simp only [txLoop, ↓reduceIte, ih, range'_succ, map_cons, Prod.mk.injEq, true_and]
    omega

theorem mctpTxTask_all {port : TxPort} {extParams : ExtParams} {message : List UInt8}
    (nonempty : message ≠ []) (positive : 0 < port.maxMsgSize) :
    mctpTxTask port ⟨false, some message, extParams⟩ (fun _ => 0) = some
      { written := (List.range (splitPktNum message.length port.maxMsgSize)).map
          (txPacket port extParams message)
        response := mctpSuccess
        msgTag := if extParams.tagOwner = 0 then port.msgTag else port.msgTag + 1 } := by
  have long : message.length ≠ 0 := by simpa using nonempty
  simp [mctpTxTask, long, Nat.pos_iff_ne_zero.mp positive, txLoop_all, range_eq_range']

section Sizes

variable {len maxMsgSize i : Nat}

theorem splitPktNum_le (len maxMsgSize : Nat) :
    splitPktNum len maxMsgSize ≤ len / maxMsgSize + if len % maxMsgSize = 0 then 0 else 1 :=
  Nat.mod_le _ _

/-- The data of every packet lies within the message. -/
theorem cpMsgSize_within (positive : 0 < maxMsgSize) (sent : i < splitPktNum len maxMsgSize) :
    i * maxMsgSize + cpMsgSize len maxMsgSize i ≤ len := by
  have pieces := splitPktNum_le len maxMsgSize
  have division := Nat.div_add_mod' len maxMsgSize
  have small := Nat.mod_le maxMsgSize (2 ^ 8)
  by_cases whole : i + 1 ≤ len / maxMsgSize
  · have inside := Nat.mul_le_mul_right maxMsgSize whole
    rw [Nat.add_one_mul] at inside
    have size : cpMsgSize len maxMsgSize i ≤ maxMsgSize := by
      have short := Nat.mod_lt len positive
      unfold cpMsgSize
      dsimp only
      split
      · split <;> omega
      · exact small
    omega
  · have remains : len % maxMsgSize ≠ 0 := by
      intro none
      rw [if_pos none] at pieces
      omega
    rw [if_neg remains] at pieces
    obtain rfl : i = len / maxMsgSize := by omega
    have size : cpMsgSize len maxMsgSize (len / maxMsgSize) ≤ len % maxMsgSize := by
      have last : len / maxMsgSize + 1 = splitPktNum len maxMsgSize := by omega
      simp only [cpMsgSize, if_pos last]
      split
      · omega
      · exact Nat.mod_le _ _
    omega

theorem cpMsgSize_le (positive : 0 < maxMsgSize) : cpMsgSize len maxMsgSize i ≤ maxMsgSize := by
  have small := Nat.mod_le maxMsgSize (2 ^ 8)
  have short := Nat.mod_lt len positive
  unfold cpMsgSize
  dsimp only
  split
  · split <;> omega
  · exact small

end Sizes

theorem txPacket_length {port : TxPort} {extParams : ExtParams} {message : List UInt8} {i : Nat}
    (positive : 0 < port.maxMsgSize) (sent : i < splitPktNum message.length port.maxMsgSize) :
    (txPacket port extParams message i).length =
      hdrSize + cpMsgSize message.length port.maxMsgSize i := by
  have within := cpMsgSize_within positive sent
  simp only [txPacket, Hdr.bytes, hdrSize, length_append, length_cons, length_nil,
    length_take, length_drop]
  omega

end OpenBic.Mctp
