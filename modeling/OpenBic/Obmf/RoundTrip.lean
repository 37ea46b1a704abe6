import OpenBic.Obmf.Reassembly
import OpenBic.Obmf.Transmit

/-!
# From the packets of an OBMF message back to the message

The ring buffer and the receive task together. The packets come out of the ring buffer as they
were put in, and the messages of a channel depend on the packets of that channel alone; so what
`obmf_tx_thread` makes of a message is put together to that message, unless it needs several
packets and the last of them does not fit the buffer with its header.
-/

namespace OpenBic.Obmf

open List Option

open Library.Machine Library.Tiling

/-- A message to send: its size is that of its payload. -/
structure Sendable (msg : List UInt8) : Prop where
  whole : headerSize ≤ msg.length
  /-- `size` is the length of the payload. -/
  sized : (readHeader msg).size.toNat + headerSize = msg.length
  exist : (readHeader msg).channel ≤ maxChannels
  /-- Header and payload fit `OBMF_FRAG_BUF_SIZE`. -/
  fits : msg.length ≤ fragBufSize

/-- The messages that the packets of one channel make as long as they come in time: the unfinished
one and those completed. -/
def assembleStep (mps : Nat) (state : Option Unfinished × List (List UInt8))
    (bytes : List UInt8) : Option Unfinished × List (List UInt8) :=
  let message := Unfinished.follow state.1 bytes 0
  (message.rest mps bytes,
    match message.outcome mps bytes with
    | .complete whole => state.2 ++ [whole]
    | _ => state.2)

def assemble (mps : Nat) (packets : List (List UInt8)) : Option Unfinished × List (List UInt8) :=
  packets.foldl (assembleStep mps) (none, [])

theorem assemble_concat (mps : Nat) (packets : List (List UInt8)) (bytes : List UInt8) :
    assemble mps (packets ++ [bytes]) = assembleStep mps (assemble mps packets) bytes := by
  simp [assemble]

theorem bytes_readHeader {msg : List UInt8} (whole : headerSize ≤ msg.length) :
    (readHeader msg).bytes = msg.take headerSize := by
  match msg, whole with
  | channel :: status :: low :: high :: tail, _ =>
    have lowSmall := low.toNat_lt
    have highSmall := high.toNat_lt
    have lowByte : UInt8.ofNat (UInt16.ofNat (low.toNat + 256 * high.toNat)).toNat = low := by
      apply UInt8.toNat_inj.mp
      simp only [UInt8.toNat_ofNat', UInt16.toNat_ofNat', Nat.reducePow] at lowSmall highSmall ⊢
      omega
    have highByte :
        UInt8.ofNat ((UInt16.ofNat (low.toNat + 256 * high.toNat)).toNat / 256) = high := by
      apply UInt8.toNat_inj.mp
      simp only [UInt8.toNat_ofNat', UInt16.toNat_ofNat', Nat.reducePow] at lowSmall highSmall ⊢
      omega
    simp only [readHeader, Header.bytes, bytes16, read16, getD_cons_zero,
      getD_cons_succ, lowByte, highByte]
    rfl

section Fragments

variable {mps : Nat} {msg : List UInt8} {index : Nat}

theorem payload_fragment (mps : Nat) (msg : List UInt8) (index : Nat) :
    payload (fragment mps msg index) = piece (payload msg) (maxPayloadPerFragment mps) index := by
  rw [fragment, payload_bytes, fragPayloadLen_eq, piece, ← length_drop]
  rcases Nat.le_total (maxPayloadPerFragment mps)
    ((payload msg).drop (index * maxPayloadPerFragment mps)).length with short | long
  · rw [Nat.min_eq_right short]
  · rw [Nat.min_eq_left long, take_length, take_of_length_le long]

theorem length_fragment (mps : Nat) (msg : List UInt8) (index : Nat) :
    (fragment mps msg index).length = headerSize +
      fragPayloadLen mps (payload msg).length index := by
  rw [fragment, length_append, Header.length_bytes, length_take, length_drop,
    fragPayloadLen_eq]
  omega

theorem readHeader_fragment (mps : Nat) (msg : List UInt8) (index : Nat) :
    readHeader (fragment mps msg index) = fragHdr mps msg index :=
  readHeader_bytes _ _

theorem isResponse_fragment (mps : Nat) (msg : List UInt8) (index : Nat) :
    (readHeader (fragment mps msg index)).isResponse = (readHeader msg).isResponse := by
  rw [readHeader_fragment, fragHdr]
  split <;> rfl

theorem fragment_zero (whole : headerSize ≤ msg.length) :
    fragment mps msg 0 = msg.take (headerSize + maxPayloadPerFragment mps) := by
  have start := payload_fragment mps msg 0
  rw [piece, Nat.zero_mul, drop_zero] at start
  have split : fragment mps msg 0 =
      (readHeader msg).bytes ++ payload (fragment mps msg 0) := by
    rfl
  rw [split, start, bytes_readHeader whole, take_add]
  rfl

theorem take_append_fragment (mps : Nat) (msg : List UInt8) (index : Nat) :
    msg.take (headerSize + index * maxPayloadPerFragment mps) ++ payload (fragment mps msg index) =
      msg.take (headerSize + (index + 1) * maxPayloadPerFragment mps) := by
  rw [payload_fragment, piece, payload, drop_drop, Nat.add_one_mul, ← Nat.add_assoc,
    ← take_add]

end Fragments

theorem readHeader_take {msg : List UInt8} (whole : headerSize ≤ msg.length) (count : Nat) :
    readHeader (msg.take (headerSize + count)) = readHeader msg := by
  have start : headerSize ≤ (msg.take (headerSize + count)).length := by
    rw [length_take]
    omega
  conv_rhs => rw [← take_append_drop (headerSize + count) msg]
  exact (readHeader_append _ start).symm

/-- The packets so far have made the start of the message, and if one was too large then the message
and one more header are. -/
structure Midway (mps : Nat) (msg : List UInt8) (count : Nat) (message : Unfinished) : Prop where
  data : message.data = msg.take (headerSize + count * maxPayloadPerFragment mps)
  large : message.large = true → fragBufSize < msg.length + headerSize

section Assembly

variable {endpoint : Endpoint} {msg : List UInt8} {index : Nat}

theorem Endpoint.positive (endpoint : Endpoint) : 0 < maxPayloadPerFragment endpoint.mps := by
  have room := endpoint.room
  unfold maxPayloadPerFragment
  omega

theorem not_ended_of_not_last (sendable : Sendable msg)
    (early : index + 1 < numFragments endpoint.mps (payload msg).length) {message : Unfinished}
    (data : message.data =
      msg.take (headerSize + (index + 1) * maxPayloadPerFragment endpoint.mps)) :
    ¬ message.Ended endpoint.mps (fragment endpoint.mps msg index) := by
  have positive := endpoint.positive
  have more := full_of_not_last index positive early
  have payloadLength : (payload msg).length = msg.length - headerSize := length_drop
  have sized := sendable.sized
  have whole : fragPayloadLen endpoint.mps (payload msg).length index =
      maxPayloadPerFragment endpoint.mps := by
    rw [fragPayloadLen_eq, Nat.add_one_mul] at *
    omega
  rw [Unfinished.Ended, data, readHeader_take sendable.whole, length_fragment, whole,
    length_take]
  unfold maxPayloadPerFragment at *
  omega

theorem ended_of_last (sendable : Sendable msg)
    (last : index + 1 = numFragments endpoint.mps (payload msg).length) {message : Unfinished}
    (data : message.data =
      msg.take (headerSize + (index + 1) * maxPayloadPerFragment endpoint.mps)) :
    message.data = msg ∧ message.Ended endpoint.mps (fragment endpoint.mps msg index) := by
  have covers := covered (payload msg).length endpoint.positive
  have payloadLength : (payload msg).length = msg.length - headerSize := length_drop
  have whole : message.data = msg := by
    rw [data, last, take_of_length_le]
    omega
  refine ⟨whole, .inl ?_⟩
  rw [whole]
  have sized := sendable.sized
  omega

theorem midway_first (endpoint : Endpoint) (sendable : Sendable msg) :
    Midway endpoint.mps msg 1 (.follow none (fragment endpoint.mps msg 0) 0) :=
  ⟨by rw [Nat.one_mul]; exact fragment_zero sendable.whole, nofun⟩

/-- The message after one more packet: it is too large if the others and the packet are. -/
theorem midway_next (sendable : Sendable msg)
    (within : index + 1 < numFragments endpoint.mps (payload msg).length) {message : Unfinished}
    (midway : Midway endpoint.mps msg (index + 1) message) :
    Midway endpoint.mps msg (index + 2)
        (.follow (some message) (fragment endpoint.mps msg (index + 1)) 0) ∧
      (index + 2 = numFragments endpoint.mps (payload msg).length →
        ((Unfinished.follow (some message) (fragment endpoint.mps msg (index + 1)) 0).large = true ↔
          fragBufSize < msg.length + headerSize)) := by
  have more := full_of_not_last index endpoint.positive within
  have covers := covered (payload msg).length endpoint.positive
  have payloadLength : (payload msg).length = msg.length - headerSize := length_drop
  have whole := sendable.whole
  have continued : message.Continued (fragment endpoint.mps msg (index + 1)) 0 := by
    refine ⟨Nat.zero_le _, ?_⟩
    rw [midway.data, readHeader_take whole, isResponse_fragment]
  have size : message.data.length + (fragment endpoint.mps msg (index + 1)).length =
      headerSize + (index + 1) * maxPayloadPerFragment endpoint.mps + (headerSize +
        min ((payload msg).length - (index + 1) * maxPayloadPerFragment endpoint.mps)
          (maxPayloadPerFragment endpoint.mps)) := by
    rw [midway.data, length_fragment, fragPayloadLen_eq, length_take]
    omega
  simp only [Unfinished.follow, if_pos continued]
  refine ⟨⟨?_, fun large => ?_⟩, fun last => ⟨fun large => ?_, fun large => ?_⟩⟩
  · simp only [Unfinished.extended, midway.data, take_append_fragment]
  · rcases Bool.or_eq_true_iff.mp large with before | latest
    · exact midway.large before
    · have overrun := of_decide_eq_true latest
      omega
  · rcases Bool.or_eq_true_iff.mp large with before | latest
    · exact midway.large before
    · have overrun := of_decide_eq_true latest
      omega
  · refine Bool.or_eq_true_iff.mpr (.inr (decide_eq_true ?_))
    rw [← last, show index + 2 = (index + 1) + 1 from rfl, Nat.add_one_mul] at covers
    omega

theorem assemble_midway (endpoint : Endpoint) (index : Nat) (sendable : Sendable msg)
    (within : index + 1 < numFragments endpoint.mps (payload msg).length) :
    ∃ message, assemble endpoint.mps
        ((List.range (index + 1)).map (fragment endpoint.mps msg)) = (some message, []) ∧
      Midway endpoint.mps msg (index + 1) message := by
  induction index with
  | zero =>
    have midway := midway_first endpoint sendable
    refine ⟨_, ?_, midway⟩
    have going := not_ended_of_not_last sendable within midway.data
    simp only [Nat.zero_add, range_one, map_cons, map_nil, assemble,
      foldl_cons, foldl_nil, assembleStep, Unfinished.rest, Unfinished.outcome,
      if_neg going]
  | succ index ih =>
    obtain ⟨message, assembled, before⟩ := ih (Nat.lt_of_succ_lt within)
    have midway := (midway_next sendable (Nat.lt_of_succ_lt within) before).1
    refine ⟨_, ?_, midway⟩
    have going := not_ended_of_not_last sendable within midway.data
    rw [range_succ, map_append, map_singleton, assemble_concat, assembled]
    simp only [assembleStep, Unfinished.rest, Unfinished.outcome, if_neg going]

/-- The packets of a message make the message, if it is one packet or fits the buffer with one more
header; otherwise they make nothing. -/
theorem assemble_fragments (sendable : Sendable msg) :
    assemble endpoint.mps (fragments endpoint.mps msg) =
      (none, if msg.length ≤ endpoint.mps ∨ msg.length + headerSize ≤ fragBufSize
        then [msg] else []) := by
  have room := endpoint.room
  have covers := covered (payload msg).length endpoint.positive
  have payloadLength : (payload msg).length = msg.length - headerSize := length_drop
  unfold fragments
  obtain ⟨before, count⟩ := Nat.exists_eq_succ_of_ne_zero
    (Nat.pos_iff_ne_zero.mp (numFragments_pos endpoint.mps (payload msg).length))
  cases before with
  | zero =>
    have single : msg.length ≤ endpoint.mps := by
      rw [count, Nat.one_mul] at covers
      unfold maxPayloadPerFragment at covers
      omega
    have midway := midway_first endpoint sendable
    obtain ⟨complete, ended⟩ := ended_of_last sendable count.symm midway.data
    have small : (Unfinished.follow none (fragment endpoint.mps msg 0) 0).large = false := rfl
    rw [count, if_pos (.inl single)]
    simp only [Nat.succ_eq_add_one, Nat.zero_add, range_one, map_cons, map_nil,
      assemble, foldl_cons, foldl_nil, assembleStep, Unfinished.rest,
      Unfinished.outcome, if_pos ended, small, complete]
    rfl
  | succ index =>
    have several : (0 + 1) * maxPayloadPerFragment endpoint.mps < (payload msg).length :=
      full_of_not_last 0 endpoint.positive (by omega)
    have long : ¬ msg.length ≤ endpoint.mps := by
      unfold maxPayloadPerFragment at several
      omega
    obtain ⟨message, assembled, before⟩ := assemble_midway endpoint index
      sendable (by omega)
    obtain ⟨midway, large⟩ := midway_next sendable (by omega) before
    obtain ⟨complete, ended⟩ := ended_of_last sendable count.symm midway.data
    rw [count, Nat.succ_eq_add_one, range_succ, map_append, map_singleton,
      assemble_concat, assembled]
    simp only [assembleStep, Unfinished.rest, Unfinished.outcome, if_pos ended, complete]
    by_cases overrun : fragBufSize < msg.length + headerSize
    · rw [if_pos ((large count.symm).mpr overrun), if_neg (by omega)]
    · have small := Bool.eq_false_iff.mpr fun taken => overrun ((large count.symm).mp taken)
      have fits : msg.length + headerSize ≤ fragBufSize := Nat.le_of_not_lt overrun
      simp only [small, Bool.false_eq_true, ↓reduceIte, fits, or_true]
      rfl

end Assembly

/-- The receiving end: the ring buffer, the receive task and what has gone through them. -/
structure Receiver where
  /-- What is in `obmf_ringbuf`. -/
  ring : List UInt8
  /-- The state of `obmf_rx_task`. -/
  rx : Rx
  arrived : List (List UInt8)
  /-- The packets that `obmf_ringbuf_read` has returned so far. -/
  framed : List (List UInt8)
  /-- The messages passed to `obmf_get_response` so far, with their channels. -/
  dispatched : List (UInt8 × List UInt8)

/-- What can happen at the receiving end. -/
inductive Receiver.Event (endpoint : Endpoint) where
  | put (packets : List (List UInt8))
  | wake
  | read (turn : Turn endpoint)

namespace Receiver

variable {endpoint : Endpoint}

def start (rx : Rx) : Receiver := ⟨[], rx, [], [], []⟩

def passOn (receiver : Receiver) (turn : Turn endpoint) : List (UInt8 × List UInt8) :=
  match turn.outcome receiver.rx with
  | .complete whole => receiver.dispatched ++ [(turn.channel, whole)]
  | _ => receiver.dispatched

def step (receiver : Receiver) : Event endpoint → Option Receiver
  | .put packets =>
    some { receiver with
      ring := outCb receiver.ring packets.flatten
      arrived := receiver.arrived ++ packets }
  | .wake =>
    if (ringbufRead endpoint.mps receiver.ring endpoint.mps).1 = [] then
      some { receiver with ring := (ringbufRead endpoint.mps receiver.ring endpoint.mps).2 }
    else none
  | .read turn =>
    if turn.Lawful ∧ (ringbufRead endpoint.mps receiver.ring endpoint.mps).1 = turn.bytes then
      some
        { ring := (ringbufRead endpoint.mps receiver.ring endpoint.mps).2
          rx := turn.next receiver.rx
          arrived := receiver.arrived
          framed := receiver.framed ++ [turn.bytes]
          dispatched := receiver.passOn turn }
    else none

def onChannel (channel : UInt8) (packets : List (List UInt8)) : List (List UInt8) :=
  packets.filter fun bytes => (readHeader bytes).channel = channel

def messagesOn (channel : UInt8) (dispatched : List (UInt8 × List UInt8)) : List (List UInt8) :=
  (dispatched.filter fun message => message.1 = channel).map Prod.snd

/-- Nothing comes in the way of the messages of a channel: packets are put whole into a ring buffer
with room for them, no bus reset and no write on Channel 0 drops what the channel has, there is
memory for a buffer, and the packets of a message come in time. -/
def Undisturbed (channel : UInt8) (receiver : Receiver) : Event endpoint → Prop
  | .put packets => (∀ bytes ∈ packets, Framed endpoint.mps bytes) ∧
      receiver.ring.length + packets.flatten.length ≤ ringbufSize
  | .wake => True
  | .read turn => turn.busReset = false ∧ channel ∉ turn.resets ∧
      (turn.channel = channel → turn.heap = true ∧
        ((receiver.rx.slots channel).midMsg →
          turn.now ≤ (receiver.rx.slots channel).lastMs + fragTimeoutMs))

/-- Everything arrived has been framed as it came, the message has been passed on once, and its
channel holds nothing any more. -/
structure Delivered (msg : List UInt8) (receiver : Receiver) : Prop where
  framed : receiver.framed = receiver.arrived
  once : messagesOn (readHeader msg).channel receiver.dispatched = [msg]
  empty : (receiver.rx.slots (readHeader msg).channel).buf = none
  kept : (receiver.rx.slots (readHeader msg).channel).discarding = false

end Receiver

def Unfinished.seenAt (message : Unfinished) (time : Nat) : Unfinished :=
  { message with lastMs := time }

theorem Unfinished.follow_seenAt {message : Option Unfinished} {last now : Nat}
    (bytes : List UInt8) (timely : message ≠ none → now ≤ last + fragTimeoutMs) :
    follow (message.map (seenAt · last)) bytes now = (follow message bytes 0).seenAt now := by
  cases message with
  | none => rfl
  | some message =>
    have inTime := timely (some_ne_none message)
    by_cases same : (readHeader message.data).isResponse = (readHeader bytes).isResponse
    · have continued : message.Continued bytes 0 := ⟨Nat.zero_le _, same⟩
      have onward : (message.seenAt last).Continued bytes now := ⟨inTime, same⟩
      simp only [map_some, follow, if_pos continued, if_pos onward]
      rfl
    · have other : ¬ message.Continued bytes 0 := fun continued => same continued.2
      have another : ¬ (message.seenAt last).Continued bytes now := fun onward => same onward.2
      simp only [map_some, follow, if_neg other, if_neg another]
      rfl

theorem Unfinished.rest_seenAt (mps time : Nat) (message : Unfinished) (bytes : List UInt8) :
    (message.seenAt time).rest mps bytes = (message.rest mps bytes).map (seenAt · time) := by
  by_cases ended : message.Ended mps bytes
  · have same : (message.seenAt time).Ended mps bytes := ended
    rw [rest, rest, if_pos same, if_pos ended]
    rfl
  · have same : ¬ (message.seenAt time).Ended mps bytes := ended
    rw [rest, rest, if_neg same, if_neg ended]
    rfl

theorem FragSlot.Holds.seenAt {slot : FragSlot} {message : Option Unfinished} {time : Nat}
    (holds : slot.Holds (message.map (Unfinished.seenAt · time))) :
    slot.Holds (message.map (Unfinished.seenAt · slot.lastMs)) := by
  cases message with
  | none => exact holds
  | some message =>
    have same : slot.lastMs = time := by
      cases holds with
      | collecting _ _ _ _ _ last => exact last
      | discarded _ _ _ _ _ _ _ last => exact last
    rw [same]
    exact holds

theorem FragSlot.Holds.midMsg {slot : FragSlot} {message : Unfinished}
    (holds : slot.Holds (some message)) : slot.midMsg := by
  cases holds with
  | collecting buffered => exact .inl (by simp [buffered])
  | discarded _ dropped => exact .inr dropped

namespace Turn

variable {endpoint : Endpoint} {turn : Turn endpoint} {rx : Rx} {channel : UInt8}

theorem slots_next (calm : turn.busReset = false) (spared : channel ∉ turn.resets) :
    (turn.next rx).slots channel =
      (rx.collect endpoint.mps turn.bytes turn.now turn.heap).1.slots channel := by
  have settled : turn.settled rx = rx := by simp [Turn.settled, calm]
  unfold next
  split
  · simp only [Rx.resetChannels, if_neg spared, collected, settled]
  · simp only [collected, settled]

theorem slots_next_of_ne (calm : turn.busReset = false) (spared : channel ∉ turn.resets)
    (other : turn.channel ≠ channel) : (turn.next rx).slots channel = rx.slots channel := by
  rw [slots_next calm spared, Rx.collect]
  split
  · rfl
  · exact Function.update_of_ne (Ne.symm other) _ _

theorem slots_next_self (rx : Rx) (calm : turn.busReset = false)
    (spared : turn.channel ∉ turn.resets)
    (known : turn.channel ≤ maxChannels) :
    (turn.next rx).slots turn.channel =
        ((rx.slots turn.channel).receive endpoint.mps turn.bytes turn.now turn.heap).1 ∧
      turn.outcome rx =
        ((rx.slots turn.channel).receive endpoint.mps turn.bytes turn.now turn.heap).2 := by
  have settled : turn.settled rx = rx := by simp [Turn.settled, calm]
  have within : ¬ maxChannels < (readHeader turn.bytes).channel := UInt8.not_lt.mpr known
  rw [slots_next calm spared]
  simp only [outcome, collected, settled, Rx.collect, if_neg within]
  exact ⟨Function.update_self _ _ _, rfl⟩

end Turn

namespace Receiver

variable {endpoint : Endpoint} {channel : UInt8} {receiver next : Receiver}

/-- What is in the ring buffer is packets, and the channel has what its packets have made. -/
structure Assembling (endpoint : Endpoint) (channel : UInt8) (receiver : Receiver) : Prop where
  pending : ∃ pending : List (List UInt8), (∀ bytes ∈ pending, Framed endpoint.mps bytes) ∧
    receiver.ring = pending.flatten ∧ receiver.arrived = receiver.framed ++ pending
  held : (receiver.rx.slots channel).Holds
    ((assemble endpoint.mps (onChannel channel receiver.framed)).1.map
      (Unfinished.seenAt · (receiver.rx.slots channel).lastMs))
  passed : messagesOn channel receiver.dispatched =
    (assemble endpoint.mps (onChannel channel receiver.framed)).2

theorem Assembling.put {packets : List (List UInt8)} (before : Assembling endpoint channel receiver)
    (whole : ∀ bytes ∈ packets, Framed endpoint.mps bytes)
    (room : receiver.ring.length + packets.flatten.length ≤ ringbufSize) :
    Assembling endpoint channel { receiver with
      ring := outCb receiver.ring packets.flatten
      arrived := receiver.arrived ++ packets } := by
  obtain ⟨pending, framed, ring, arrived⟩ := before.pending
  have put : outCb receiver.ring packets.flatten = receiver.ring ++ packets.flatten := by
    rw [outCb, take_of_length_le (by omega)]
  refine ⟨⟨pending ++ packets, ?_, ?_, ?_⟩, before.held, before.passed⟩
  · intro bytes listed
    exact (List.mem_append.mp listed).elim (framed bytes) (whole bytes)
  · rw [put, ring, flatten_append]
  · rw [arrived, append_assoc]

theorem Assembling.read_pending {turn : Turn endpoint}
    (before : Assembling endpoint channel receiver)
    (returned : (ringbufRead endpoint.mps receiver.ring endpoint.mps).1 = turn.bytes) :
    ∃ rest : List (List UInt8), (∀ bytes ∈ rest, Framed endpoint.mps bytes) ∧
      (ringbufRead endpoint.mps receiver.ring endpoint.mps).2 = rest.flatten ∧
      receiver.arrived = receiver.framed ++ turn.bytes :: rest := by
  obtain ⟨pending, framed, ring, arrived⟩ := before.pending
  cases pending with
  | nil =>
    rw [ring] at returned
    have none : turn.bytes = [] := returned.symm
    have long := turn.long
    rw [none] at long
    cases long
  | cons bytes rest =>
    have whole := framed bytes mem_cons_self
    have read := ringbufRead_framed endpoint rest.flatten whole
    rw [← flatten_cons, ← ring] at read
    rw [read] at returned
    obtain rfl : bytes = turn.bytes := returned
    exact ⟨rest, fun other listed => framed other (mem_cons_of_mem _ listed),
      congrArg Prod.snd read, arrived⟩

/-- A packet of the channel is put to its message, and a message it completes is passed on. -/
theorem Assembling.held_self {turn : Turn endpoint}
    (before : Assembling endpoint turn.channel receiver)
    (known : turn.channel ≤ maxChannels) (calm : turn.busReset = false)
    (spared : turn.channel ∉ turn.resets) (heap : turn.heap = true)
    (timely : (receiver.rx.slots turn.channel).midMsg →
      turn.now ≤ (receiver.rx.slots turn.channel).lastMs + fragTimeoutMs) :
    let assembled := assemble endpoint.mps
      (onChannel turn.channel (receiver.framed ++ [turn.bytes]))
    ((turn.next receiver.rx).slots turn.channel).Holds
        (assembled.1.map (Unfinished.seenAt ·
          ((turn.next receiver.rx).slots turn.channel).lastMs)) ∧
      messagesOn turn.channel (receiver.passOn turn) = assembled.2 := by
  intro assembled
  obtain ⟨slot, outcome⟩ := Turn.slots_next_self receiver.rx calm spared known
  have received := FragSlot.holds_receive turn.now before.held turn.long turn.fits
  have inTime : (assemble endpoint.mps (onChannel turn.channel receiver.framed)).1 ≠ none →
      turn.now ≤ (receiver.rx.slots turn.channel).lastMs + fragTimeoutMs := by
    intro some
    obtain ⟨message, unfinished⟩ := ne_none_iff_exists'.mp some
    have held := before.held
    rw [unfinished] at held
    exact timely held.midMsg
  rw [Unfinished.follow_seenAt turn.bytes inTime, Unfinished.rest_seenAt] at received
  have assembledIs : assembled = assembleStep endpoint.mps
      (assemble endpoint.mps (onChannel turn.channel receiver.framed)) turn.bytes := by
    have own : onChannel turn.channel (receiver.framed ++ [turn.bytes]) =
        onChannel turn.channel receiver.framed ++ [turn.bytes] := by
      simp [onChannel, Turn.channel]
    exact (congrArg (assemble endpoint.mps) own).trans (assemble_concat _ _ _)
  rw [heap] at slot outcome
  rw [slot, assembledIs]
  refine ⟨received.1.seenAt, ?_⟩
  have same : ∀ message : Unfinished, (message.seenAt turn.now).outcome endpoint.mps turn.bytes =
      message.outcome endpoint.mps turn.bytes := fun _ => rfl
  rw [passOn, outcome, received.2, same, assembleStep, ← before.passed]
  cases Unfinished.outcome endpoint.mps (Unfinished.follow
      (assemble endpoint.mps (onChannel turn.channel receiver.framed)).1 turn.bytes 0)
      turn.bytes with
  | complete whole => simp [messagesOn]
  | pending | noMemory | tooLarge | unknownChannel => rfl

theorem Assembling.held_of_ne {turn : Turn endpoint}
    (before : Assembling endpoint channel receiver) (other : turn.channel ≠ channel)
    (calm : turn.busReset = false) (spared : channel ∉ turn.resets) :
    let assembled := assemble endpoint.mps (onChannel channel (receiver.framed ++ [turn.bytes]))
    ((turn.next receiver.rx).slots channel).Holds
        (assembled.1.map (Unfinished.seenAt · ((turn.next receiver.rx).slots channel).lastMs)) ∧
      messagesOn channel (receiver.passOn turn) = assembled.2 := by
  have foreign : onChannel channel (receiver.framed ++ [turn.bytes]) =
      onChannel channel receiver.framed := by
    have away : (readHeader turn.bytes).channel ≠ channel := other
    simp [onChannel, away]
  have passed : messagesOn channel (receiver.passOn turn) =
      messagesOn channel receiver.dispatched := by
    unfold passOn
    split
    · simp [messagesOn, other]
    · rfl
  simp only [foreign, passed, Turn.slots_next_of_ne calm spared other]
  exact ⟨before.held, before.passed⟩

/-- An undisturbed event keeps the packets in order and the channel's messages with them. -/
theorem Assembling.step {event : Event endpoint} (known : channel ≤ maxChannels)
    (before : Assembling endpoint channel receiver)
    (undisturbed : Undisturbed channel receiver event)
    (moved : receiver.step event = some next) : Assembling endpoint channel next := by
  cases event with
  | put packets =>
    cases moved
    exact before.put undisturbed.1 undisturbed.2
  | wake =>
    obtain ⟨none, reached⟩ := Option.ite_none_right_eq_some.mp moved
    cases reached
    obtain ⟨pending, framed, ring, arrived⟩ := before.pending
    cases pending with
    | nil =>
      have still : (ringbufRead endpoint.mps receiver.ring endpoint.mps).2 = [] := by
        rw [ring]
        rfl
      exact ⟨⟨[], framed, still, arrived⟩, before.held, before.passed⟩
    | cons bytes rest =>
      have whole := framed bytes mem_cons_self
      rw [ring, flatten_cons, ringbufRead_framed endpoint _ whole] at none
      have long := whole.1
      rw [show bytes = [] from none] at long
      cases long
  | read turn =>
    obtain ⟨⟨-, returned⟩, reached⟩ := Option.ite_none_right_eq_some.mp moved
    cases reached
    obtain ⟨rest, framed, left, arrived⟩ := before.read_pending returned
    obtain ⟨calm, spared, own⟩ := undisturbed
    have pending : ∃ pending : List (List UInt8), (∀ bytes ∈ pending, Framed endpoint.mps bytes) ∧
        (ringbufRead endpoint.mps receiver.ring endpoint.mps).2 = pending.flatten ∧
        receiver.arrived = receiver.framed ++ [turn.bytes] ++ pending :=
      ⟨rest, framed, left, by rw [arrived, append_assoc]; rfl⟩
    by_cases same : turn.channel = channel
    · subst same
      obtain ⟨heap, timely⟩ := own rfl
      obtain ⟨held, passed⟩ := before.held_self known calm spared heap timely
      exact ⟨pending, held, passed⟩
    · obtain ⟨held, passed⟩ := before.held_of_ne same calm spared
      exact ⟨pending, held, passed⟩

end Receiver

theorem eq_fragments_of_txThread {mps : Nat} {msg : List UInt8} {sends : Nat → Bool}
    {packets : List (List UInt8)} (sent : txThread mps msg sends = some (packets, false)) :
    packets = fragments mps msg := by
  unfold txThread at sent
  split at sent
  · cases sent
  · simp only [Option.some.injEq, Prod.mk.injEq, decide_eq_false_iff_not, Nat.not_lt] at sent
    obtain ⟨rfl, all⟩ := sent
    have start := takeWhile_prefix (l := List.range (numFragments mps (payload msg).length))
      sends
    rw [start.eq_of_length_le (by rwa [length_range]), fragments]

namespace Receiver

variable {endpoint : Endpoint} {msg : List UInt8} {rx : Rx} {final : Receiver}

theorem assembling_start {channel : UInt8} (empty : (rx.slots channel).buf = none)
    (kept : (rx.slots channel).discarding = false) : Assembling endpoint channel (start rx) :=
  ⟨⟨[], fun _ listed => absurd listed not_mem_nil, rfl, rfl⟩, .idle empty kept, rfl⟩

/-- In every undisturbed run that brings the packets of a message, and other packets, in any
grouping and reads them all, the message is delivered exactly if it is one packet or fits the buffer
with one more header. -/
theorem delivered_iff {events : List (Event endpoint)} {sends : Nat → Bool}
    {packets : List (List UInt8)} (sendable : Sendable msg)
    (sent : txThread endpoint.mps msg sends = some (packets, false))
    (empty : (rx.slots (readHeader msg).channel).buf = none)
    (kept : (rx.slots (readHeader msg).channel).discarding = false)
    (ran : run step (start rx) events = some final)
    (undisturbed : Meets step (Undisturbed (readHeader msg).channel) (start rx) events)
    (arrived : onChannel (readHeader msg).channel final.arrived = packets)
    (drained : final.ring = []) :
    Delivered msg final ↔ msg.length ≤ endpoint.mps ∨ msg.length + headerSize ≤ fragBufSize := by
  have onward : ∀ {receiver : Receiver} {event : Event endpoint} {next : Receiver},
      Assembling endpoint (readHeader msg).channel receiver →
        Undisturbed (readHeader msg).channel receiver event →
        receiver.step event = some next →
        Assembling endpoint (readHeader msg).channel next :=
    fun before calm moved => before.step sendable.exist calm moved
  obtain ⟨⟨pending, framed, ring, order⟩, held, passed⟩ :=
    invariant onward (assembling_start empty kept) undisturbed ran
  have none : pending = [] := by
    rw [drained] at ring
    cases pending with
    | nil => rfl
    | cons bytes rest =>
      have long := (framed bytes mem_cons_self).1
      rw [(List.append_eq_nil_iff.mp ring.symm).1] at long
      cases long
  subst none
  rw [append_nil] at order
  rw [← order, arrived, eq_fragments_of_txThread sent, assemble_fragments sendable] at held passed
  constructor
  · intro delivered
    by_contra large
    have once := delivered.once
    rw [passed, if_neg large] at once
    cases once
  · intro fits
    rw [if_pos fits] at passed
    cases held with
    | idle bare still => exact ⟨order.symm, passed, bare, still⟩

end Receiver

namespace Receiver

instance {endpoint : Endpoint} (channel : UInt8) (receiver : Receiver) :
    (event : Event endpoint) → Decidable (Undisturbed channel receiver event)
  | .put _ => inferInstanceAs (Decidable ((∀ bytes ∈ _, _) ∧ _))
  | .wake => .isTrue trivial
  | .read _ => inferInstanceAs (Decidable (_ ∧ _ ∧ (_ → _ ∧ (_ → _))))

end Receiver

def plainTurn {endpoint : Endpoint} (bytes : List UInt8) (now : Nat) (answer : List UInt8)
    (size : headerSize ≤ bytes.length ∧ bytes.length ≤ endpoint.mps) : Turn endpoint where
  bytes := bytes
  long := size.1
  fits := size.2
  now := now
  busReset := false
  heap := true
  queued := true
  answer := answer
  resets := []

def tinyEndpoint : Endpoint := ⟨8, by decide, by decide⟩

def tinyResponse : List UInt8 := [4, 0x80, 6, 0, 1, 2, 3, 4, 5, 6]

/-- Its two packets come at once with a packet on Channel 2 between them. -/
def tinyEvents : List (Receiver.Event tinyEndpoint) :=
  [.put [[4, 0x80, 6, 0, 1, 2, 3, 4], [2, 0, 1, 0, 9], [4, 0x80, 2, 0, 5, 6]],
    .read (plainTurn [4, 0x80, 6, 0, 1, 2, 3, 4] 10 [] (by decide)),
    .read (plainTurn [2, 0, 1, 0, 9] 20 [2, 0x86, 0, 0] (by decide)),
    .read (plainTurn [4, 0x80, 2, 0, 5, 6] 30 [] (by decide))]

/-- A response of one packet. -/
theorem delivered_iff_tiny : ∃ final : Receiver,
    run Receiver.step (.start .init) tinyEvents = some final ∧
      Receiver.Delivered tinyResponse final := by
  obtain ⟨final, ran, arrived, drained⟩ :
      ∃ final ∈ run Receiver.step (.start .init) tinyEvents,
        Receiver.onChannel 4 final.arrived = fragments 8 tinyResponse ∧ final.ring = [] := by
    decide +kernel
  have sent : txThread tinyEndpoint.mps tinyResponse (fun _ => true) =
      some (fragments 8 tinyResponse, false) := txThread_all 8 (by decide)
  have sendable : Sendable tinyResponse := ⟨by decide, by decide, by decide, by decide⟩
  have delivered := Receiver.delivered_iff sendable sent rfl rfl ran (by decide +kernel) arrived
    drained
  exact ⟨final, ran, delivered.mpr (.inr (by decide))⟩

def fullResponse : List UInt8 := Header.bytes ⟨4, 0x80, 1020⟩ ++ List.replicate 1020 0xFF

def fullEvents : List (Receiver.Event highSpeed) :=
  [.put (fragments 512 fullResponse),
    .read (plainTurn (fragment 512 fullResponse 0) 0 [] (by decide +kernel)),
    .read (plainTurn (fragment 512 fullResponse 1) 0 [] (by decide +kernel)),
    .read (plainTurn (fragment 512 fullResponse 2) 0 [] (by decide +kernel))]

/-- A message of 1024 bytes fits the buffer, but is not delivered in packets of 512 bytes. -/
theorem fullResponse_not_delivered : Sendable fullResponse ∧
    ∃ final : Receiver, run Receiver.step (.start .init) fullEvents = some final ∧
      Meets Receiver.step (Receiver.Undisturbed 4) (.start .init) fullEvents ∧
      Receiver.onChannel 4 final.arrived = fragments 512 fullResponse ∧ final.ring = [] ∧
      ¬ Receiver.Delivered fullResponse final := by
  obtain ⟨final, ran, arrived, drained, nothing⟩ :
      ∃ final ∈ run Receiver.step (.start .init) fullEvents,
        Receiver.onChannel 4 final.arrived = fragments 512 fullResponse ∧ final.ring = [] ∧
          final.dispatched = [] := by
    decide +kernel
  refine ⟨⟨by decide +kernel, by decide +kernel, by decide +kernel, by decide +kernel⟩, final,
    ran, by decide +kernel, arrived, drained, fun delivered => ?_⟩
  have once := delivered.once
  rw [nothing] at once
  cases once

end OpenBic.Obmf
