import OpenBic.Library.Tiling
import OpenBic.Mctp.Receive
import OpenBic.Mctp.Transmit
import Mathlib.Algebra.Order.BigOperators.Group.List

/-!
# Splitting and assembling a message

A message sent by `mctp_tx_task` and received by `mctp_rx_task`, its packets in order and
interleaved with packets of other slots. `roundTrips_iff` says for which message lengths and
packet sizes the receiver hands on exactly the message.
-/

namespace OpenBic.Mctp

open List Library.Machine Library.Tiling

def Port.calls (port : Port) (key : Key) : List (List UInt8) :=
  (port.delivered.filter fun delivery => delivery.key == key).map Delivery.payload

/-- The arrivals are the packets in order, interleaved with whole packets of other slots, and the
packets get the memory they need. -/
structure Interleaved (key : Key) (packets : List Packet) (arrivals : List Arrival) : Prop where
  own : (arrivals.map Arrival.packet).filter (fun packet => packet.key == key) = packets
  granted : ∀ arrival ∈ arrivals, arrival.packet.key = key → arrival.mallocOk = true
  wellFormed : ∀ arrival ∈ arrivals, arrival.packet.key ≠ key →
    hdrSize ≤ arrival.packet.bytes.length

/-- A message comes back exactly: its packets can be received, and however they are interleaved
with others the receiver calls the callback once for their slot, with the message. -/
def RoundTrips (port : TxPort) (extParams : ExtParams) (message : List UInt8) : Prop :=
  ∃ outcome packets,
    mctpTxTask port ⟨false, some message, extParams⟩ (fun _ => 0) = some outcome ∧
    outcome.written = packets.map Packet.bytes ∧
    ∀ (receiver : Port) (arrivals : List Arrival), receiver.rxCb = true →
      (extParams.ep = receiver.endpoint ∨ extParams.ep = nullEid) →
      receiver.tempMsgBuf (txKey port extParams) = none →
      Interleaved (txKey port extParams) packets arrivals →
      ∃ final, run mctpRxTask receiver arrivals = some final ∧
        final.tempMsgBuf (txKey port extParams) = none ∧
        final.calls (txKey port extParams) = receiver.calls (txKey port extParams) ++ [message]

/-- The packets after the first one: middle packets and a last one. -/
inductive Continuation : List Packet → Prop where
  | last {packet : Packet} (inner : packet.hdr.som = false) (ends : packet.hdr.eom = true) :
      Continuation [packet]
  | middle {packet : Packet} {rest : List Packet} (inner : packet.hdr.som = false)
      (more : packet.hdr.eom = false) (onward : Continuation rest) : Continuation (packet :: rest)

/-- The packets of one message. -/
inductive MessagePackets : List Packet → Prop where
  | single {packet : Packet} (som : packet.hdr.som = true) (eom : packet.hdr.eom = true) :
      MessagePackets [packet]
  | several {packet : Packet} {rest : List Packet} (som : packet.hdr.som = true)
      (more : packet.hdr.eom = false) (onward : Continuation rest) :
      MessagePackets (packet :: rest)

/-- Two ports agree on what one slot and its messages depend on. -/
structure SameFor (key : Key) (port next : Port) : Prop where
  endpoint : next.endpoint = port.endpoint
  rxCb : next.rxCb = port.rxCb
  slot : next.tempMsgBuf key = port.tempMsgBuf key
  calls : next.calls key = port.calls key

@[simp]
theorem Port.setSlot_calls (port : Port) (changed key : Key) (slot : Slot) :
    (port.setSlot changed slot).calls key = port.calls key := rfl

variable {packet : Packet} {key : Key} {arrival : Arrival} {filled : List UInt8}
  {arrivals : List Arrival} {packets : List Packet}

theorem Port.deliver_calls_other (port : Port) (slot : Slot)
    (other : packet.key ≠ key) : (port.deliver packet slot).calls key = port.calls key := by
  unfold Port.deliver
  split
  · simp [Port.calls, other]
  · rfl

theorem Port.deliver_calls (port : Port) (packet : Packet) (slot : Slot)
    (registered : port.rxCb = true) : (port.deliver packet slot).calls packet.key =
      port.calls packet.key ++ [slot.getD packet.payload] := by
  simp [Port.deliver, registered, Port.calls]

theorem mctpPktAssembling_whole (slot : Slot) (mallocOk : Bool)
    (whole : hdrSize ≤ packet.bytes.length) : mctpPktAssembling slot packet mallocOk ≠ .fault := by
  unfold mctpPktAssembling
  dsimp only
  repeat' split
  all_goals first | omega | simp

theorem mctpRxTask_other (port : Port)
    (other : arrival.packet.key ≠ key) (whole : hdrSize ≤ arrival.packet.bytes.length) :
    ∃ next, mctpRxTask port arrival = some next ∧ SameFor key port next := by
  have slotKept (slot : Slot) : SameFor key port (port.setSlot arrival.packet.key slot) :=
    ⟨rfl, rfl, port.setSlot_other slot other.symm, rfl⟩
  unfold mctpRxTask
  dsimp only
  split
  · split
    · rename_i faulted
      exact absurd faulted (mctpPktAssembling_whole _ _ whole)
    · exact ⟨_, rfl, slotKept none⟩
    · rename_i slot assembled
      split
      · refine ⟨_, rfl, by simp, by simp, ?_, ?_⟩
        · rw [Port.setSlot_other _ _ other.symm, Port.deliver_tempMsgBuf]
        · rw [Port.setSlot_calls, Port.deliver_calls_other _ _ other]
      · exact ⟨_, rfl, slotKept slot⟩
  · exact ⟨port, rfl, rfl, rfl, rfl, rfl⟩

theorem mctpPktAssembling_append {slot : Slot} {mallocOk : Bool} (whole : hdrSize ≤ packet.bytes.length)
    (several : (packet.hdr.som && packet.hdr.eom) = false)
    (opened : openSlot slot packet.hdr mallocOk = some filled)
    (room : filled.length + packet.payload.length ≤ msgAssemblyBufSize) :
    mctpPktAssembling slot packet mallocOk = .success (some (filled ++ packet.payload)) := by
  have offset : (filled.length + packet.bytes.length + 2 ^ 16 - hdrSize) % 2 ^ 16 =
      filled.length + packet.payload.length := by
    simp only [Packet.payload, length_drop, hdrSize, msgAssemblyBufSize] at *
    omega
  simp only [mctpPktAssembling, several, opened, offset]
  rw [if_neg (by simp), if_neg (by omega), if_neg (by omega)]

theorem mctpPktAssembling_continue {mallocOk : Bool}
    (whole : hdrSize ≤ packet.bytes.length) (inner : packet.hdr.som = false)
    (room : filled.length + packet.payload.length ≤ msgAssemblyBufSize) :
    mctpPktAssembling (some filled) packet mallocOk = .success (some (filled ++ packet.payload)) :=
  mctpPktAssembling_append whole (by simp [inner]) (by simp [openSlot, inner]) room

/-- What follows in a run of packets for the endpoint, and the room they need. -/
structure Fits (endpoint : UInt8) (filled : List UInt8) (packets : List Packet) : Prop where
  mine : ∀ packet ∈ packets, accepts endpoint packet = true
  whole : ∀ packet ∈ packets, hdrSize ≤ packet.bytes.length
  room : (filled ++ packets.flatMap Packet.payload).length ≤ msgAssemblyBufSize

theorem Fits.tail {endpoint : UInt8} {rest : List Packet}
    (fits : Fits endpoint filled (packet :: rest)) :
    Fits endpoint (filled ++ packet.payload) rest :=
  ⟨fun other member => fits.mine other (by simp [member]),
    fun other member => fits.whole other (by simp [member]), by simpa using fits.room⟩

theorem Fits.head {endpoint : UInt8} {rest : List Packet}
    (fits : Fits endpoint filled (packet :: rest)) : accepts endpoint packet = true ∧
      hdrSize ≤ packet.bytes.length ∧
      filled.length + packet.payload.length ≤ msgAssemblyBufSize := by
  refine ⟨fits.mine packet (by simp), fits.whole packet (by simp), ?_⟩
  have room := fits.room
  simp only [flatMap_cons, length_append] at room
  omega

theorem Interleaved.cons (interleaved : Interleaved key packets (arrival :: arrivals)) :
    (arrival.packet.key ≠ key ∧ hdrSize ≤ arrival.packet.bytes.length ∧
        Interleaved key packets arrivals) ∨ (arrival.packet.key = key ∧ arrival.mallocOk = true ∧
        ∃ rest, packets = arrival.packet :: rest ∧ Interleaved key rest arrivals) := by
  obtain ⟨own, granted, wellFormed⟩ := interleaved
  have grantedRest : ∀ other ∈ arrivals, other.packet.key = key → other.mallocOk = true :=
    fun other member => granted other (by simp [member])
  have wellFormedRest : ∀ other ∈ arrivals, other.packet.key ≠ key →
      hdrSize ≤ other.packet.bytes.length :=
    fun other member => wellFormed other (by simp [member])
  by_cases mine : arrival.packet.key = key
  · refine .inr ⟨mine, granted arrival (by simp) mine, _, ?_, rfl, grantedRest, wellFormedRest⟩
    simpa [mine] using own.symm
  · refine .inl ⟨mine, wellFormed arrival (by simp) mine, ?_, grantedRest, wellFormedRest⟩
    simpa [mine] using own

/-- Packets of other keys leave a slot alone. -/
theorem run_others (port : Port) (interleaved : Interleaved key [] arrivals) :
    ∃ final, run mctpRxTask port arrivals = some final ∧ SameFor key port final := by
  induction arrivals generalizing port with
  | nil => exact ⟨port, rfl, rfl, rfl, rfl, rfl⟩
  | cons arrival arrivals ih =>
    rcases interleaved.cons with ⟨other, whole, onward⟩ | ⟨-, -, rest, absent, -⟩
    · obtain ⟨next, moved, same⟩ := mctpRxTask_other port other whole
      obtain ⟨final, ran, later⟩ := ih next onward
      exact ⟨final, run_cons_eq_some.mpr ⟨next, moved, ran⟩, later.endpoint.trans same.endpoint,
        later.rxCb.trans same.rxCb, later.slot.trans same.slot, later.calls.trans same.calls⟩
    · cases absent

/-- The last packet of a message hands it over and frees its slot. -/
theorem run_ended {port : Port} {slot : Slot}
    (registered : port.rxCb = true) (mine : accepts port.endpoint arrival.packet = true)
    (assembled : mctpPktAssembling (port.tempMsgBuf arrival.packet.key) arrival.packet
      arrival.mallocOk = .success slot) (ends : arrival.packet.hdr.eom = true)
    (interleaved : Interleaved arrival.packet.key [] arrivals) :
    ∃ final, run mctpRxTask port (arrival :: arrivals) = some final ∧
      final.tempMsgBuf arrival.packet.key = none ∧ final.calls arrival.packet.key =
        port.calls arrival.packet.key ++ [slot.getD arrival.packet.payload] := by
  have moved : mctpRxTask port arrival = some
      ((port.deliver arrival.packet slot).setSlot arrival.packet.key none) := by
    simp [mctpRxTask, mine, assembled, ends]
  obtain ⟨final, ran, same⟩ := run_others
    ((port.deliver arrival.packet slot).setSlot arrival.packet.key none) interleaved
  refine ⟨final, run_cons_eq_some.mpr ⟨_, moved, ran⟩, ?_, ?_⟩
  · rw [same.slot, Port.setSlot_same]
  · rw [same.calls, Port.setSlot_calls, Port.deliver_calls _ _ _ registered]

/-- A begun message is handed on once its remaining packets have arrived. -/
theorem run_continuation (port : Port) (registered : port.rxCb = true)
    (interleaved : Interleaved key packets arrivals) (onward : Continuation packets)
    (fits : Fits port.endpoint filled packets) (holding : port.tempMsgBuf key = some filled) :
    ∃ final, run mctpRxTask port arrivals = some final ∧ final.tempMsgBuf key = none ∧
      final.calls key = port.calls key ++ [filled ++ packets.flatMap Packet.payload] := by
  induction arrivals generalizing packets filled port with
  | nil =>
    have none := interleaved.own
    cases onward <;> cases none
  | cons arrival arrivals ih =>
    rcases interleaved.cons with ⟨other, whole, apart⟩ | ⟨rfl, -, rest, rfl, apart⟩
    · obtain ⟨next, moved, same⟩ := mctpRxTask_other port other whole
      obtain ⟨final, ran, emptied, handed⟩ := ih next (by rw [same.rxCb, registered]) apart onward
        (by rw [same.endpoint]; exact fits) (by rw [same.slot, holding])
      exact ⟨final, run_cons_eq_some.mpr ⟨next, moved, ran⟩, emptied, by rw [handed, same.calls]⟩
    · obtain ⟨mine, whole, room⟩ := fits.head
      have assembled (inner : arrival.packet.hdr.som = false) :
          mctpPktAssembling (port.tempMsgBuf arrival.packet.key) arrival.packet
            arrival.mallocOk = .success (some (filled ++ arrival.packet.payload)) := by
        rw [holding]
        exact mctpPktAssembling_continue whole inner room
      cases onward with
      | last inner ends =>
        simpa using run_ended registered mine (assembled inner) ends apart
      | middle inner more onward =>
        have moved : mctpRxTask port arrival = some (port.setSlot arrival.packet.key
            (some (filled ++ arrival.packet.payload))) := by
          simp [mctpRxTask, mine, assembled inner, more]
        obtain ⟨final, ran, emptied, handed⟩ := ih (port.setSlot arrival.packet.key
          (some (filled ++ arrival.packet.payload))) registered apart onward fits.tail (by simp)
        exact ⟨final, run_cons_eq_some.mpr ⟨_, moved, ran⟩, emptied, by simpa using handed⟩

/-- The packets of a message, received in order into an empty slot, are handed on as one message
of their payloads. -/
theorem run_message {port : Port}
    (registered : port.rxCb = true) (interleaved : Interleaved key packets arrivals)
    (shape : MessagePackets packets) (fits : Fits port.endpoint [] packets)
    (empty : port.tempMsgBuf key = none) :
    ∃ final, run mctpRxTask port arrivals = some final ∧ final.tempMsgBuf key = none ∧
      final.calls key = port.calls key ++ [packets.flatMap Packet.payload] := by
  induction arrivals generalizing port with
  | nil =>
    have none := interleaved.own
    cases shape <;> cases none
  | cons arrival arrivals ih =>
    rcases interleaved.cons with ⟨other, whole, apart⟩ | ⟨rfl, granted, rest, rfl, apart⟩
    · obtain ⟨next, moved, same⟩ := mctpRxTask_other port other whole
      obtain ⟨final, ran, emptied, handed⟩ := ih (by rw [same.rxCb, registered]) apart
        (by rw [same.endpoint]; exact fits) (by rw [same.slot, empty])
      exact ⟨final, run_cons_eq_some.mpr ⟨next, moved, ran⟩, emptied, by rw [handed, same.calls]⟩
    · obtain ⟨mine, whole, room⟩ := fits.head
      cases shape with
      | single som eom =>
        have assembled : mctpPktAssembling (port.tempMsgBuf arrival.packet.key) arrival.packet
            arrival.mallocOk = .success none := by
          simp [mctpPktAssembling, som, eom, empty]
        simpa using run_ended registered mine assembled eom apart
      | several som more onward =>
        have assembled : mctpPktAssembling (port.tempMsgBuf arrival.packet.key) arrival.packet
            arrival.mallocOk = .success (some ([] ++ arrival.packet.payload)) :=
          mctpPktAssembling_append whole (by simp [more])
            (by simp [openSlot, som, more, granted]) room
        have moved : mctpRxTask port arrival = some (port.setSlot arrival.packet.key
            (some arrival.packet.payload)) := by
          simp [mctpRxTask, mine, assembled, more]
        obtain ⟨final, ran, emptied, handed⟩ := run_continuation (port.setSlot
          arrival.packet.key (some arrival.packet.payload)) registered apart onward
          (by simpa using fits.tail) (by simp)
        exact ⟨final, run_cons_eq_some.mpr ⟨_, moved, ran⟩, emptied, by simpa using handed⟩

theorem splitPktNum_eq {len maxMsgSize : Nat} (few : len ≤ 255 * maxMsgSize) :
    splitPktNum len maxMsgSize = len / maxMsgSize + if len % maxMsgSize = 0 then 0 else 1 := by
  have division := Nat.div_add_mod' len maxMsgSize
  have bound : len / maxMsgSize ≤ 255 := Nat.div_le_of_le_mul (by rwa [Nat.mul_comm])
  apply Nat.mod_eq_of_lt
  split
  · omega
  · have notLast : len / maxMsgSize ≠ 255 := by
      intro last
      rw [last] at division
      omega
    omega

theorem splitPktNum_covers {len maxMsgSize : Nat} (positive : 0 < maxMsgSize)
    (few : len ≤ 255 * maxMsgSize) : len ≤ splitPktNum len maxMsgSize * maxMsgSize := by
  have division := Nat.div_add_mod' len maxMsgSize
  have short := Nat.mod_lt len positive
  rw [splitPktNum_eq few]
  split
  · rw [Nat.add_zero]
    omega
  · rw [Nat.add_one_mul]
    omega

/-- A packet of such a message carries its piece. -/
theorem cpMsgSize_piece {message : List UInt8} {maxMsgSize i : Nat} (positive : 0 < maxMsgSize)
    (small : min message.length maxMsgSize ≤ 255) (few : message.length ≤ 255 * maxMsgSize)
    (sent : i < splitPktNum message.length maxMsgSize) :
    (message.drop (i * maxMsgSize)).take (cpMsgSize message.length maxMsgSize i) =
      piece message maxMsgSize i := by
  have count := splitPktNum_eq few
  have division := Nat.div_add_mod' message.length maxMsgSize
  have short := Nat.mod_lt message.length positive
  have size : cpMsgSize message.length maxMsgSize i =
      min maxMsgSize (message.length - i * maxMsgSize) := by
    by_cases whole : i + 1 ≤ message.length / maxMsgSize
    · have inside := Nat.mul_le_mul_right maxMsgSize whole
      rw [Nat.add_one_mul] at inside
      have full : maxMsgSize % 2 ^ 8 = maxMsgSize := Nat.mod_eq_of_lt (by omega)
      unfold cpMsgSize
      split
      · have none : message.length % maxMsgSize = 0 := by
          split at count
          · assumption
          · omega
        rw [none, full]
        simp only [Nat.zero_mod, ↓reduceIte]
        omega
      · omega
    · have remains : message.length % maxMsgSize ≠ 0 := by
        intro none
        rw [if_pos none] at count
        omega
      rw [if_neg remains] at count
      obtain rfl : i = message.length / maxMsgSize := by omega
      have byte : message.length % maxMsgSize % 2 ^ 8 = message.length % maxMsgSize :=
        Nat.mod_eq_of_lt (by omega)
      simp only [cpMsgSize, if_pos count.symm, byte, if_neg remains]
      omega
  rw [piece, take_eq_take_iff, size, length_drop]
  omega

section Sent

variable {port : TxPort} {extParams : ExtParams} {message : List UInt8}

variable {packet : Packet} {packets : List Packet}

theorem hdr_of_sent {i : Nat} (bytes : packet.bytes = txPacket port extParams message i) :
    packet.hdr = txHdr port extParams message.length i := by
  rw [Packet.hdr, bytes, txPacket, readHdr_bytes]

theorem key_of_sent {i : Nat} (bytes : packet.bytes = txPacket port extParams message i) :
    packet.key = txKey port extParams := by
  rw [Packet.key, hdr_of_sent bytes]
  rfl

theorem packets_of_bytes {written : List (List UInt8)}
    (sized : ∀ bytes ∈ written, 0 < bytes.length ∧ bytes.length ≤ readBufSize) :
    ∃ packets : List Packet, written = packets.map Packet.bytes := by
  induction written with
  | nil => exact ⟨[], rfl⟩
  | cons bytes rest ih =>
    obtain ⟨packets, rfl⟩ := ih fun other member => sized other (by simp [member])
    have fits := sized bytes (by simp)
    exact ⟨⟨bytes, fits.1, fits.2⟩ :: packets, rfl⟩

theorem sent_continuation {i left : Nat} (later : 0 < i)
    (several : 0 < left) (ends : i + left = splitPktNum message.length port.maxMsgSize)
    (sent : packets.map Packet.bytes =
      (List.range' i left).map (txPacket port extParams message)) : Continuation packets := by
  induction left generalizing packets i with
  | zero => omega
  | succ left ih =>
    simp only [range'_succ, map_cons, map_eq_cons_iff] at sent
    obtain ⟨packet, rest, rfl, bytes, onward⟩ := sent
    have inner : packet.hdr.som = false := by
      rw [hdr_of_sent bytes]
      simpa [txHdr] using Nat.pos_iff_ne_zero.mp later
    by_cases last : left = 0
    · subst last
      obtain rfl : rest = [] := by simpa using onward
      refine .last inner ?_
      rw [hdr_of_sent bytes]
      simpa [txHdr] using ends
    · refine .middle inner ?_ (ih (by omega) (by omega) (by omega) onward)
      rw [hdr_of_sent bytes]
      simp only [txHdr, beq_eq_false_iff_ne]
      omega

theorem sent_messagePackets (several : 0 < splitPktNum message.length port.maxMsgSize)
    (sent : packets.map Packet.bytes = (List.range (splitPktNum message.length
      port.maxMsgSize)).map (txPacket port extParams message)) : MessagePackets packets := by
  obtain ⟨count, counted⟩ := Nat.exists_eq_add_of_lt several
  rw [range_eq_range', counted, Nat.zero_add] at sent
  simp only [range'_succ, map_cons, map_eq_cons_iff] at sent
  obtain ⟨packet, rest, rfl, bytes, onward⟩ := sent
  have som : packet.hdr.som = true := by
    rw [hdr_of_sent bytes]
    rfl
  by_cases single : count = 0
  · subst single
    obtain rfl : rest = [] := by simpa using onward
    refine .single som ?_
    rw [hdr_of_sent bytes]
    simpa [txHdr] using counted.symm
  · refine .several som ?_ (sent_continuation (by omega) (by omega) (by omega) onward)
    rw [hdr_of_sent bytes]
    simp only [txHdr, beq_eq_false_iff_ne]
    omega

theorem sent_payloads {count : Nat} (sent : packets.map Packet.bytes =
      (List.range count).map (txPacket port extParams message)) :
    packets.flatMap Packet.payload = (List.range count).flatMap fun i =>
      (message.drop (i * port.maxMsgSize)).take (cpMsgSize message.length port.maxMsgSize i) := by
  have dropped : packets.flatMap Packet.payload =
      (packets.map Packet.bytes).flatMap (List.drop hdrSize) := by
    rw [flatMap_map]
    rfl
  rw [dropped, sent, flatMap_map]
  rfl

theorem sent_index {count : Nat} (sent : packets.map Packet.bytes =
      (List.range count).map (txPacket port extParams message)) (member : packet ∈ packets) :
    ∃ i < count, packet.bytes = txPacket port extParams message i := by
  have mapped : packet.bytes ∈ packets.map Packet.bytes := List.mem_map_of_mem member
  rw [sent] at mapped
  obtain ⟨i, inside, bytes⟩ := List.mem_map.mp mapped
  exact ⟨i, List.mem_range.mp inside, bytes.symm⟩

end Sent

/-- The bytes of a slot: those of its messages handed on and those it holds. -/
def Port.slotBytes (port : Port) (key : Key) : Nat :=
  (port.calls key).flatten.length + ((port.tempMsgBuf key).getD []).length

theorem mctpPktAssembling_length {slot after : Slot} {packet : Packet} {mallocOk : Bool}
    (assembled : mctpPktAssembling slot packet mallocOk = .success after) :
    (after.getD []).length ≤ (slot.getD []).length + packet.payload.length ∧
      (after.getD packet.payload).length ≤ (slot.getD []).length + packet.payload.length := by
  rcases mctpPktAssembling_success assembled with
    ⟨-, -, rfl⟩ | ⟨-, -, rfl⟩ | ⟨-, filled, rfl, rfl⟩
  · cases after <;> simp
  · simp
  · simp

/-- A packet adds at most its data to the bytes of its slot, and nothing to those of others. -/
theorem mctpRxTask_slotBytes {port next : Port} {arrival : Arrival} (key : Key)
    (received : mctpRxTask port arrival = some next) :
    next.slotBytes key ≤ port.slotBytes key +
      if arrival.packet.key = key then arrival.packet.payload.length else 0 := by
  by_cases own : arrival.packet.key = key
  · subst own
    rw [if_pos rfl]
    rcases mctpRxTask_eq_some received with
      ⟨-, rfl⟩ | ⟨-, rfl⟩ | ⟨slot, -, assembled, ⟨-, rfl⟩ | ⟨-, rfl⟩⟩
    · omega
    · simp [Port.slotBytes]
      omega
    · have bound := (mctpPktAssembling_length assembled).1
      simp only [Port.slotBytes, Port.setSlot_calls, Port.setSlot_same]
      omega
    · have bound := (mctpPktAssembling_length assembled).2
      simp only [Port.slotBytes, Port.setSlot_calls, Port.setSlot_same]
      by_cases registered : port.rxCb = true
      · rw [Port.deliver_calls _ _ _ registered]
        simp only [flatten_append, length_append, flatten_singleton,
          Option.getD_none, length_nil]
        omega
      · simp only [Port.deliver, registered, Option.getD_none, length_nil]
        simp
        omega
  · rw [if_neg own]
    have slotKept (slot : Slot) : (port.setSlot arrival.packet.key slot).slotBytes key =
        port.slotBytes key := by
      rw [Port.slotBytes, Port.setSlot_calls, Port.setSlot_other _ _ (Ne.symm own)]
      rfl
    rcases mctpRxTask_eq_some received with
      ⟨-, rfl⟩ | ⟨-, rfl⟩ | ⟨slot, -, -, ⟨-, rfl⟩ | ⟨-, rfl⟩⟩
    · omega
    · rw [slotKept]
      omega
    · rw [slotKept]
      omega
    · rw [Port.slotBytes, Port.setSlot_calls, Port.setSlot_other _ _ (Ne.symm own),
        Port.deliver_tempMsgBuf, Port.deliver_calls_other _ _ own]
      exact le_rfl

/-- A slot holds no more than the packets of its key brought. -/
theorem run_slotBytes (key : Key) {arrivals : List Arrival} {port final : Port}
    (ran : run mctpRxTask port arrivals = some final) :
    final.slotBytes key ≤ port.slotBytes key +
      ((arrivals.map fun arrival =>
        if arrival.packet.key = key then arrival.packet.payload.length else 0).sum) := by
  induction arrivals generalizing port with
  | nil =>
    cases ran
    simp
  | cons arrival arrivals ih =>
    obtain ⟨next, moved, onward⟩ := run_cons_eq_some.mp ran
    have first := mctpRxTask_slotBytes key moved
    have rest := ih onward
    rw [map_cons, sum_cons]
    omega

theorem sum_sizes_le {size : Nat → Nat} {count bound : Nat}
    (each : ∀ i < count, size i ≤ bound) :
    ((List.range count).map size).sum ≤ count * bound := by
  have most := sum_le_card_nsmul ((List.range count).map size) bound (by simpa using each)
  simpa using most

/-- Packets of bounded size that together carry the message are small and few. -/
theorem sizes_of_carried {len maxMsgSize bound : Nat} (positive : 0 < maxMsgSize)
    (bounded : ∀ i < splitPktNum len maxMsgSize, cpMsgSize len maxMsgSize i ≤ bound)
    (carried : len ≤ ((List.range (splitPktNum len maxMsgSize)).map
      (cpMsgSize len maxMsgSize)).sum) :
    min len maxMsgSize ≤ bound ∧ len ≤ 255 * maxMsgSize := by
  constructor
  · by_contra large
    cases count : splitPktNum len maxMsgSize with
    | zero =>
      rw [count] at carried
      simp only [range_zero, map_nil, sum_nil] at carried
      omega
    | succ before =>
      -- The last packet ends within the message, and those before it are too short to reach it.
      have last : before * maxMsgSize + cpMsgSize len maxMsgSize before ≤ len :=
        cpMsgSize_within positive (by omega)
      have lastSmall := bounded before (by omega)
      have early : ((List.range before).map (cpMsgSize len maxMsgSize)).sum ≤ before * bound :=
        sum_sizes_le fun i inside => bounded i (by omega)
      have scaled := Nat.mul_le_mul_left before (show bound + 1 ≤ maxMsgSize by omega)
      rw [Nat.mul_succ] at scaled
      rw [count, range_succ, map_append, sum_append] at carried
      simp only [map_cons, map_nil, sum_cons, sum_nil, Nat.add_zero] at carried
      obtain rfl : before = 0 := by omega
      omega
  · have byte : splitPktNum len maxMsgSize ≤ 255 := Nat.le_of_lt_succ (Nat.mod_lt _ (by decide))
    have most : ((List.range (splitPktNum len maxMsgSize)).map (cpMsgSize len maxMsgSize)).sum ≤
        splitPktNum len maxMsgSize * maxMsgSize :=
      sum_sizes_le fun i _ => cpMsgSize_le positive
    have scaled := Nat.mul_le_mul_right maxMsgSize byte
    omega

section Main

variable {port : TxPort} {extParams : ExtParams} {message : List UInt8}

/-- A message of small and few pieces that fits the assembly buffer comes back exactly. -/
theorem roundTrips_of_sizes (nonempty : message ≠ [])
    (fits : message.length ≤ msgAssemblyBufSize)
    (small : min message.length port.maxMsgSize ≤ 252)
    (few : message.length ≤ 255 * port.maxMsgSize) : RoundTrips port extParams message := by
  have long : 0 < message.length := length_pos_of_ne_nil nonempty
  have positive : 0 < port.maxMsgSize := by omega
  have pieces {i : Nat} (sent : i < splitPktNum message.length port.maxMsgSize) :=
    cpMsgSize_piece positive (Nat.le_trans small (by decide)) few sent
  have covers := splitPktNum_covers positive few
  have several : 0 < splitPktNum message.length port.maxMsgSize := by
    by_contra none
    rw [Nat.eq_zero_of_not_pos none] at covers
    omega
  have sized (i : Nat) (sent : i < splitPktNum message.length port.maxMsgSize) :
      cpMsgSize message.length port.maxMsgSize i ≤ 252 := by
    have within := cpMsgSize_within positive sent
    have most : cpMsgSize message.length port.maxMsgSize i ≤ port.maxMsgSize :=
      cpMsgSize_le positive
    omega
  have received : ∀ bytes ∈ (List.range (splitPktNum message.length port.maxMsgSize)).map
      (txPacket port extParams message), 0 < bytes.length ∧ bytes.length ≤ readBufSize := by
    intro bytes member
    obtain ⟨i, inside, rfl⟩ := List.mem_map.mp member
    have size := sized i (List.mem_range.mp inside)
    rw [txPacket_length positive (List.mem_range.mp inside)]
    simp only [hdrSize, readBufSize]
    omega
  obtain ⟨packets, sent⟩ := packets_of_bytes received
  have carried : packets.flatMap Packet.payload = message := calc
    packets.flatMap Packet.payload = _ := sent_payloads sent.symm
    _ = (List.range (splitPktNum message.length port.maxMsgSize)).flatMap
        (piece message port.maxMsgSize) :=
      flatMap_congr fun i inside => pieces (List.mem_range.mp inside)
    _ = message := flatMap_piece_all message covers
  refine ⟨_, packets, mctpTxTask_all nonempty positive, sent, ?_⟩
  intro receiver arrivals registered addressed empty interleaved
  have accepted : Fits receiver.endpoint [] packets := by
    refine ⟨?_, ?_, by simpa [carried] using fits⟩
    · intro packet member
      obtain ⟨i, -, bytes⟩ := sent_index sent.symm member
      simpa [accepts, hdr_of_sent bytes, txHdr] using addressed
    · intro packet member
      obtain ⟨i, inside, bytes⟩ := sent_index sent.symm member
      rw [bytes, txPacket_length positive inside]
      omega
  obtain ⟨final, ran, emptied, handed⟩ := run_message registered interleaved
    (sent_messagePackets several sent.symm) accepted empty
  exact ⟨final, ran, emptied, by rw [handed, carried]⟩

theorem sent_sizes {packets : List Packet} (positive : 0 < port.maxMsgSize)
    (sent : packets.map Packet.bytes = (List.range (splitPktNum message.length
      port.maxMsgSize)).map (txPacket port extParams message)) :
    packets.map (fun packet => packet.payload.length) =
      (List.range (splitPktNum message.length port.maxMsgSize)).map
        (cpMsgSize message.length port.maxMsgSize) := by
  have dropped : packets.map (fun packet => packet.payload.length) =
      (packets.map Packet.bytes).map fun bytes => bytes.length - hdrSize := by
    simp [Packet.payload]
  rw [dropped, sent, List.map_map]
  refine map_congr_left fun i inside => ?_
  simp only [Function.comp_apply, txPacket_length positive (List.mem_range.mp inside)]
  omega

/-- A message that comes back exactly was cut into small and few pieces. -/
theorem sizes_of_roundTrips (nonempty : message ≠ []) (back : RoundTrips port extParams message) :
    min message.length port.maxMsgSize ≤ 252 ∧ message.length ≤ 255 * port.maxMsgSize := by
  obtain ⟨outcome, packets, done, sent, delivers⟩ := back
  have positive : 0 < port.maxMsgSize := by
    by_contra none
    have long : message.length ≠ 0 := by simpa using nonempty
    simp [mctpTxTask, long, Nat.eq_zero_of_not_pos none] at done
  rw [mctpTxTask_all nonempty positive] at done
  cases done
  have indexed {packet : Packet} (member : packet ∈ packets) := sent_index sent.symm member
  have keys (packet : Packet) (member : packet ∈ packets) :
      packet.key = txKey port extParams := by
    obtain ⟨i, -, bytes⟩ := indexed member
    exact key_of_sent bytes
  have direct : Interleaved (txKey port extParams) packets
      (packets.map fun packet => ⟨packet, true⟩) := by
    refine ⟨?_, by simp, ?_⟩
    · simpa [Function.comp_def] using keys
    · intro arrival member other
      obtain ⟨packet, inside, rfl⟩ := List.mem_map.mp member
      exact absurd (keys packet inside) other
  obtain ⟨final, ran, -, handed⟩ := delivers (Port.start extParams.ep true) _ rfl (.inl rfl) rfl
    direct
  have bytes := run_slotBytes (txKey port extParams) ran
  have brought : ((packets.map fun packet => (⟨packet, true⟩ : Arrival)).map fun arrival =>
      if arrival.packet.key = txKey port extParams then arrival.packet.payload.length
      else 0) = packets.map fun packet => packet.payload.length := by
    rw [List.map_map]
    exact map_congr_left fun packet member => if_pos (keys packet member)
  have arrived : message.length ≤ final.slotBytes (txKey port extParams) := by
    simp [Port.slotBytes, handed]
    omega
  have fresh : (Port.start extParams.ep true).slotBytes (txKey port extParams) = 0 := rfl
  rw [brought, sent_sizes positive sent.symm, fresh] at bytes
  refine sizes_of_carried positive ?_ (by omega)
  intro i inside
  have written : txPacket port extParams message i ∈ packets.map Packet.bytes := by
    rw [← sent]
    exact List.mem_map_of_mem (List.mem_range.mpr inside)
  obtain ⟨packet, -, same⟩ := List.mem_map.mp written
  have size := packet.fits
  rw [same, txPacket_length positive inside] at size
  simp only [hdrSize, readBufSize] at size
  omega

/-- A message that fits the receiver's buffer comes out as it went in exactly if its packets fit a
byte count and their number fits the counter of one byte. -/
theorem roundTrips_iff (port : TxPort) (extParams : ExtParams) (message : List UInt8)
    (nonempty : message ≠ []) (fits : message.length ≤ msgAssemblyBufSize) :
    RoundTrips port extParams message ↔
      min message.length port.maxMsgSize ≤ 252 ∧ message.length ≤ 255 * port.maxMsgSize :=
  ⟨sizes_of_roundTrips nonempty, fun sizes => roundTrips_of_sizes nonempty fits sizes.1 sizes.2⟩

end Main

/-- A message of 300 bytes cut every 64 bytes comes back exactly. -/
theorem roundTrips_iff_300 :
    RoundTrips ⟨0x0A, 64, 0⟩ ⟨1, 0, 0x0A⟩ (List.replicate 300 0x55) :=
  have size := length_replicate (n := 300) (a := (0x55 : UInt8))
  (roundTrips_iff ⟨0x0A, 64, 0⟩ ⟨1, 0, 0x0A⟩ (List.replicate 300 0x55)
    (ne_nil_of_length_pos (by rw [size]; decide)) (by rw [size]; decide)).mpr
    (by rw [size]; decide)

/-- A message of 1024 bytes cut every 4 bytes needs 256 packets, and none is sent. -/
theorem not_roundTrips_1024 :
    ¬ ∀ (port : TxPort) (extParams : ExtParams) (message : List UInt8), message ≠ [] →
      message.length ≤ msgAssemblyBufSize → RoundTrips port extParams message := by
  intro always
  have size := length_replicate (n := 1024) (a := (0x55 : UInt8))
  have nonempty := ne_nil_of_length_pos (l := List.replicate 1024 (0x55 : UInt8))
    (by rw [size]; decide)
  have sizes := sizes_of_roundTrips nonempty (always ⟨0x0A, 4, 0⟩ ⟨1, 0, 0x0A⟩ _ nonempty
    (by rw [size]; decide))
  rw [size] at sizes
  exact absurd sizes.2 (by decide)

end OpenBic.Mctp
