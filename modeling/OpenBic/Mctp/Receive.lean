import OpenBic.Library.Machine
import OpenBic.Mctp.Packet
import Mathlib.Logic.Function.Basic

/-!
# `mctp_rx_task`: assembling received packets

The receive task keeps one buffer for every message tag and tag owner. The model keeps, for
each of them, the filled part of the buffer, so that `offset` is its length. The theorem
says what a message handed to the receive callback consists of, for every sequence of
received packets. The task compares neither packet sequence numbers nor source endpoints.
-/

namespace OpenBic.Mctp

open List Library.Machine

/-- One entry of `temp_msg_buf`: no buffer, or the filled part of it. -/
abbrev Slot := Option (List UInt8)

/-- One call of `rx_cb`. -/
structure Delivery where
  key : Key
  extParams : ExtParams
  payload : List UInt8

/-- What the receive task reads and writes of an MCTP instance. -/
structure Port where
  endpoint : UInt8
  /-- Whether `rx_cb` is set. -/
  rxCb : Bool
  tempMsgBuf : Key → Slot
  /-- The calls of `rx_cb` so far. -/
  delivered : List Delivery

/-- A packet arrives; a buffer is granted or refused should the packet need one. -/
structure Arrival where
  packet : Packet
  /-- The result of `malloc`. -/
  mallocOk : Bool

/-- How `mctp_pkt_assembling` ends, and what the slot then holds. -/
inductive Assembling where
  /-- The copy runs off the buffers: its size is negative and becomes a huge `size_t`. -/
  | fault
  | error (slot : Slot)
  | success (slot : Slot)

def openSlot (slot : Slot) (hdr : Hdr) (mallocOk : Bool) : Slot :=
  if hdr.som && !hdr.eom then if mallocOk then some [] else none else slot

/-- `mctp_pkt_assembling`, for the slot of the packet's tag and tag owner. -/
def mctpPktAssembling (slot : Slot) (packet : Packet) (mallocOk : Bool) : Assembling :=
  if packet.hdr.som && packet.hdr.eom then .success slot
  else
    match openSlot slot packet.hdr mallocOk with
    | none => .error none
    | some filled =>
      let offsetNew := (filled.length + packet.bytes.length + 2 ^ 16 - hdrSize) % 2 ^ 16
      if msgAssemblyBufSize < offsetNew then .error (some filled)
      else if packet.bytes.length < hdrSize then .fault
      else .success (some (filled ++ packet.payload))

/-- The packet is for this endpoint; otherwise it is handed to the bridge. -/
def accepts (endpoint : UInt8) (packet : Packet) : Bool :=
  packet.hdr.destEp == endpoint || packet.hdr.destEp == nullEid

/-- The parameters handed to `rx_cb` with a message that ends with the packet. -/
def rxExtParams (packet : Packet) : ExtParams :=
  { tagOwner := 0, msgTag := UInt8.ofNat packet.hdr.msgTag, ep := packet.hdr.srcEp }

/-- Replace one entry of `temp_msg_buf`. -/
def Port.setSlot (port : Port) (key : Key) (slot : Slot) : Port :=
  { port with tempMsgBuf := Function.update port.tempMsgBuf key slot }

/-- The call of `rx_cb` for a message that ends with the packet. -/
def Port.deliver (port : Port) (packet : Packet) (slot : Slot) : Port :=
  if port.rxCb then
    { port with
      delivered := port.delivered ++
        [{ key := packet.key
           extParams := rxExtParams packet
           payload := slot.getD packet.payload }] }
  else port

/-- One turn of `mctp_rx_task`, unless it faults. -/
def mctpRxTask (port : Port) (arrival : Arrival) : Option Port :=
  let packet := arrival.packet
  if accepts port.endpoint packet then
    match mctpPktAssembling (port.tempMsgBuf packet.key) packet arrival.mallocOk with
    | .fault => none
    | .error _ => some (port.setSlot packet.key none)
    | .success slot =>
      if packet.hdr.eom then some ((port.deliver packet slot).setSlot packet.key none)
      else some (port.setSlot packet.key slot)
  else some port

def Port.start (endpoint : UInt8) (rxCb : Bool) : Port :=
  { endpoint, rxCb, tempMsgBuf := fun _ => none, delivered := [] }

/-- The packets of one slot among those that arrived for the endpoint. -/
def ownPackets (endpoint : UInt8) (key : Key) (past : List Arrival) : List Packet :=
  (past.map Arrival.packet).filter fun packet => accepts endpoint packet && packet.key == key

/-- The packets end with those of a message that has begun and not ended: a first packet,
the latest one, and nothing but middle packets after it. -/
structure Begun (own message : List Packet) : Prop where
  latest : message <:+ own
  shape : ∃ first middle, message = first :: middle ∧
    (first.hdr.som = true ∧ first.hdr.eom = false) ∧
    ∀ packet ∈ middle, packet.hdr.som = false ∧ packet.hdr.eom = false

/-- What a message that ends with the last packet consists of. The packets of a message are
required to be linked pairwise. -/
inductive Whole (linked : Packet → Packet → Prop) (own : List Packet) (last : Packet) :
    List UInt8 → Prop where
  | single (som : last.hdr.som = true) (eom : last.hdr.eom = true) :
      Whole linked own last last.payload
  | assembled {message : List Packet} (begun : Begun own message) (eom : last.hdr.eom = true)
      (chain : (message ++ [last]).IsChain linked) :
      Whole linked own last ((message ++ [last]).flatMap Packet.payload)

/-- A packet continues another: same source endpoint, next sequence number. -/
def Continues (packet next : Packet) : Prop :=
  next.hdr.srcEp = packet.hdr.srcEp ∧ next.hdr.pktSeq = packet.hdr.pktSeq + 1

@[simp]
theorem Port.setSlot_endpoint (port : Port) (key : Key) (slot : Slot) :
    (port.setSlot key slot).endpoint = port.endpoint := rfl

@[simp]
theorem Port.setSlot_rxCb (port : Port) (key : Key) (slot : Slot) :
    (port.setSlot key slot).rxCb = port.rxCb := rfl

@[simp]
theorem Port.setSlot_delivered (port : Port) (key : Key) (slot : Slot) :
    (port.setSlot key slot).delivered = port.delivered := rfl

@[simp]
theorem Port.setSlot_same (port : Port) (key : Key) (slot : Slot) :
    (port.setSlot key slot).tempMsgBuf key = slot :=
  Function.update_self ..

theorem Port.setSlot_other (port : Port) {key other : Key} (slot : Slot) (different : other ≠ key) :
    (port.setSlot key slot).tempMsgBuf other = port.tempMsgBuf other :=
  Function.update_of_ne different ..

@[simp]
theorem Port.deliver_endpoint (port : Port) (packet : Packet) (slot : Slot) :
    (port.deliver packet slot).endpoint = port.endpoint := by
  unfold Port.deliver
  split <;> rfl

@[simp]
theorem Port.deliver_rxCb (port : Port) (packet : Packet) (slot : Slot) :
    (port.deliver packet slot).rxCb = port.rxCb := by
  unfold Port.deliver
  split <;> rfl

@[simp]
theorem Port.deliver_tempMsgBuf (port : Port) (packet : Packet) (slot : Slot) :
    (port.deliver packet slot).tempMsgBuf = port.tempMsgBuf := by
  unfold Port.deliver
  split <;> rfl

variable {packet : Packet} {port next : Port} {past : List Arrival} {endpoint : UInt8}
  {last : Arrival}

/-- When assembling succeeds, a single packet leaves the slot alone, a first packet starts it
afresh and any other packet is appended to what the slot holds. -/
theorem mctpPktAssembling_success {slot after : Slot} {mallocOk : Bool}
    (assembled : mctpPktAssembling slot packet mallocOk = .success after) :
    (packet.hdr.som = true ∧ packet.hdr.eom = true ∧ after = slot) ∨
      (packet.hdr.som = true ∧ packet.hdr.eom = false ∧ after = some packet.payload) ∨
      (packet.hdr.som = false ∧ ∃ filled, slot = some filled ∧
        after = some (filled ++ packet.payload)) := by
  unfold mctpPktAssembling at assembled
  split at assembled
  · rename_i single
    simp only [Bool.and_eq_true] at single
    cases assembled
    exact .inl ⟨single.1, single.2, rfl⟩
  · rename_i several
    split at assembled
    · cases assembled
    · rename_i filled opened
      dsimp only at assembled
      split at assembled
      · cases assembled
      split at assembled
      · cases assembled
      cases assembled
      unfold openSlot at opened
      split at opened
      · rename_i first
        simp only [Bool.and_eq_true, Bool.not_eq_true'] at first
        split at opened
        · cases opened
          exact .inr (.inl ⟨first.1, first.2, rfl⟩)
        · cases opened
      · rename_i notFirst
        have middle : packet.hdr.som = false := by
          cases som : packet.hdr.som <;> simp_all
        exact .inr (.inr ⟨middle, filled, opened, rfl⟩)

theorem mctpRxTask_eq_some {arrival : Arrival} (received : mctpRxTask port arrival = some next) :
    (accepts port.endpoint arrival.packet = false ∧ next = port) ∨
      (accepts port.endpoint arrival.packet = true ∧ next = port.setSlot arrival.packet.key none) ∨
      ∃ slot, accepts port.endpoint arrival.packet = true ∧
        mctpPktAssembling (port.tempMsgBuf arrival.packet.key) arrival.packet arrival.mallocOk =
          .success slot ∧
        ((arrival.packet.hdr.eom = false ∧ next = port.setSlot arrival.packet.key slot) ∨
          (arrival.packet.hdr.eom = true ∧
            next = (port.deliver arrival.packet slot).setSlot arrival.packet.key none)) := by
  unfold mctpRxTask at received
  dsimp only at received
  split at received
  · rename_i mine
    split at received
    · cases received
    · cases received
      exact .inr (.inl ⟨mine, rfl⟩)
    · rename_i slot assembled
      split at received
      · rename_i ends
        cases received
        exact .inr (.inr ⟨slot, mine, assembled, .inr ⟨ends, rfl⟩⟩)
      · rename_i goesOn
        cases received
        exact .inr (.inr ⟨slot, mine, assembled, .inl ⟨by simpa using goesOn, rfl⟩⟩)
  · rename_i foreign
    cases received
    exact .inl ⟨by simpa using foreign, rfl⟩

theorem ownPackets_append (endpoint : UInt8) (key : Key) (past : List Arrival) (last : Arrival) :
    ownPackets endpoint key (past ++ [last]) =
      if accepts endpoint last.packet = true ∧ last.packet.key = key then
        ownPackets endpoint key past ++ [last.packet]
      else ownPackets endpoint key past := by
  by_cases own : accepts endpoint last.packet = true ∧ last.packet.key = key
  · simp [ownPackets, own]
  · rw [if_neg own]
    have dropped : (accepts endpoint last.packet && last.packet.key == key) = false := by
      simpa using own
    simp [ownPackets, dropped]

theorem Begun.first (own : List Packet) (som : packet.hdr.som = true)
    (more : packet.hdr.eom = false) : Begun (own ++ [packet]) [packet] :=
  ⟨suffix_append own [packet], packet, [], rfl, ⟨som, more⟩, by simp⟩

theorem Begun.middle {own message : List Packet} (begun : Begun own message)
    (inner : packet.hdr.som = false) (more : packet.hdr.eom = false) :
    Begun (own ++ [packet]) (message ++ [packet]) := by
  obtain ⟨⟨before, latest⟩, first, middle, rfl, opened, inside⟩ := begun
  refine ⟨⟨before, by rw [← latest, append_assoc]⟩, first, middle ++ [packet], rfl, opened, ?_⟩
  intro other member
  rcases List.mem_append.mp member with earlier | latestOne
  · exact inside other earlier
  · obtain rfl := List.mem_singleton.mp latestOne
    exact ⟨inner, more⟩

/-- Every slot in use holds exactly the payloads of the message begun last in it. -/
structure HoldsBegun (endpoint : UInt8) (past : List Arrival) (port : Port) : Prop where
  endpoint_eq : port.endpoint = endpoint
  slots : ∀ key held, port.tempMsgBuf key = some held →
    ∃ message, Begun (ownPackets endpoint key past) message ∧
      held = message.flatMap Packet.payload

theorem HoldsBegun.setSlot {port : Port} (before : HoldsBegun endpoint past port) (slot : Slot)
    (own : ∀ held, slot = some held →
      ∃ message, Begun (ownPackets endpoint last.packet.key (past ++ [last])) message ∧
        held = message.flatMap Packet.payload) :
    HoldsBegun endpoint (past ++ [last]) (port.setSlot last.packet.key slot) := by
  refine ⟨before.endpoint_eq, ?_⟩
  intro key held filled
  by_cases same : key = last.packet.key
  · subst same
    exact own held (by simpa using filled)
  · rw [Port.setSlot_other _ _ same] at filled
    rw [ownPackets_append, if_neg (fun mine => same mine.2.symm)]
    exact before.slots key held filled

theorem HoldsBegun.deliver {port : Port}
    (before : HoldsBegun endpoint past port) (packet : Packet) (slot : Slot) :
    HoldsBegun endpoint past (port.deliver packet slot) := by
  refine ⟨(port.deliver_endpoint packet slot).trans before.endpoint_eq, ?_⟩
  rw [Port.deliver_tempMsgBuf]
  exact before.slots

theorem mctpRxTask_holdsBegun (before : HoldsBegun endpoint past port)
    (received : mctpRxTask port last = some next) : HoldsBegun endpoint (past ++ [last]) next := by
  rcases mctpRxTask_eq_some received with
    ⟨foreign, rfl⟩ | ⟨-, rfl⟩ | ⟨slot, mine, assembled, ⟨more, rfl⟩ | ⟨-, rfl⟩⟩
  · refine ⟨before.endpoint_eq, fun key held filled => ?_⟩
    rw [before.endpoint_eq] at foreign
    rw [ownPackets_append, if_neg (by simp [foreign])]
    exact before.slots key held filled
  · exact before.setSlot none (by simp)
  · rw [before.endpoint_eq] at mine
    refine before.setSlot slot fun held kept => ?_
    rw [ownPackets_append, if_pos ⟨mine, rfl⟩]
    rcases mctpPktAssembling_success assembled with
      ⟨-, ends, -⟩ | ⟨som, -, opened⟩ | ⟨inner, filled, holding, extended⟩
    · simp [more] at ends
    · refine ⟨[last.packet], .first _ som more, ?_⟩
      rw [opened] at kept
      simpa using (Option.some.inj kept).symm
    · obtain ⟨message, begun, rfl⟩ := before.slots _ _ holding
      refine ⟨message ++ [last.packet], begun.middle inner more, ?_⟩
      rw [extended] at kept
      simpa using (Option.some.inj kept).symm
  · exact (before.deliver last.packet slot).setSlot none (by simp)

/-- A slot holds what its packets brought since the latest first one. -/
theorem run_holdsBegun {rxCb : Bool} {port : Port}
    (ran : run mctpRxTask (Port.start endpoint rxCb) past = some port) :
    HoldsBegun endpoint past port :=
  history_invariant mctpRxTask_holdsBegun ⟨rfl, by simp [Port.start]⟩ ran

theorem mctpRxTask_delivers {message : Delivery} (received : mctpRxTask port last = some next)
    (handed : next.delivered = port.delivered ++ [message]) :
    ∃ slot, mctpPktAssembling (port.tempMsgBuf last.packet.key) last.packet last.mallocOk =
        .success slot ∧ last.packet.hdr.eom = true ∧
      message = ⟨last.packet.key, rxExtParams last.packet, slot.getD last.packet.payload⟩ := by
  rcases mctpRxTask_eq_some received with
    ⟨-, rfl⟩ | ⟨-, rfl⟩ | ⟨slot, -, assembled, ⟨-, rfl⟩ | ⟨ends, rfl⟩⟩
  · simp at handed
  · simp at handed
  · simp at handed
  · refine ⟨slot, assembled, ends, ?_⟩
    unfold Port.deliver at handed
    split at handed
    · simpa [eq_comm] using handed
    · simp at handed

/-- Every message handed to the callback is the payload of one packet that is first and last, or
the payloads of all packets of one tag and tag owner from the latest first packet to the last
one, provided that no single-packet message comes while a message of its slot is begun. -/
theorem mctpRxTask_delivers_whole {endpoint : UInt8} {rxCb : Bool} {past : List Arrival}
    {last : Arrival} {port next : Port} {message : Delivery}
    (ran : run mctpRxTask (Port.start endpoint rxCb) past = some port)
    (received : mctpRxTask port last = some next)
    (handed : next.delivered = port.delivered ++ [message])
    (clear : last.packet.hdr.som = true → last.packet.hdr.eom = true →
      port.tempMsgBuf last.packet.key = none) :
    message.key = last.packet.key ∧ message.extParams = rxExtParams last.packet ∧
      Whole (fun _ _ => True) (ownPackets endpoint message.key past) last.packet
        message.payload := by
  obtain ⟨slot, assembled, ends, rfl⟩ := mctpRxTask_delivers received handed
  refine ⟨rfl, rfl, ?_⟩
  rcases mctpPktAssembling_success assembled with
    ⟨som, -, rfl⟩ | ⟨-, more, -⟩ | ⟨-, filled, holding, rfl⟩
  · rw [clear som ends]
    exact .single som ends
  · simp [more] at ends
  · obtain ⟨begunMessage, begun, rfl⟩ := (run_holdsBegun ran).slots _ _ holding
    have whole : Whole (fun _ _ => True) _ last.packet _ := .assembled begun ends
      (List.Pairwise.isChain (pairwise_of_forall fun _ _ => trivial))
    simpa using whole

def firstFrom20 : Packet := ⟨[1, 0x0A, 0x20, 0x80, 0x11], by decide, by decide⟩

/-- A last packet of one byte 0x22 from the same endpoint, with sequence number 1. -/
def lastFrom20 : Packet := ⟨[1, 0x0A, 0x20, 0x50, 0x22], by decide, by decide⟩

/-- A last packet of one byte 0x22 from endpoint 0x30, with sequence number 2. -/
def lastFrom30 : Packet := ⟨[1, 0x0A, 0x30, 0x60, 0x22], by decide, by decide⟩

def portAfterFirst : Port := (Port.start 0x0A true).setSlot (0, false) (some [0x11])

/-- The two packets of a message are handed on as one message. -/
theorem mctpRxTask_delivers_whole_two :
    Whole (fun _ _ => True) (ownPackets 0x0A (0, false) [⟨firstFrom20, true⟩]) lastFrom20
      [0x11, 0x22] :=
  have ran : run mctpRxTask (Port.start 0x0A true) [⟨firstFrom20, true⟩] =
      some portAfterFirst := rfl
  have received : mctpRxTask portAfterFirst ⟨lastFrom20, true⟩ = some
      ((portAfterFirst.deliver lastFrom20 (some [0x11, 0x22])).setSlot (0, false) none) := rfl
  have handed : ((portAfterFirst.deliver lastFrom20 (some [0x11, 0x22])).setSlot
      (0, false) none).delivered =
        portAfterFirst.delivered ++ [⟨(0, false), ⟨0, 0, 0x20⟩, [0x11, 0x22]⟩] := rfl
  (mctpRxTask_delivers_whole ran received handed (fun som => absurd som (by decide))).2.2

/-- A first packet of one endpoint and a last packet of another, a sequence number left out, are
handed on as one message. -/
theorem mctpRxTask_joins_endpoints :
    ¬ ∀ (endpoint : UInt8) (rxCb : Bool) (past : List Arrival) (last : Arrival)
        (port next : Port) (message : Delivery),
      run mctpRxTask (Port.start endpoint rxCb) past = some port →
      mctpRxTask port last = some next →
      next.delivered = port.delivered ++ [message] →
      Whole Continues (ownPackets endpoint message.key past) last.packet message.payload := by
  intro always
  have whole := always 0x0A true [⟨firstFrom20, true⟩] ⟨lastFrom30, true⟩ portAfterFirst
    ((portAfterFirst.deliver lastFrom30 (some [0x11, 0x22])).setSlot (0, false) none)
    ⟨(0, false), ⟨0, 0, 0x30⟩, [0x11, 0x22]⟩ rfl rfl rfl
  generalize received : ([0x11, 0x22] : List UInt8) = payload at whole
  cases whole with
  | single som eom => cases som
  | @assembled message begun eom chain =>
    obtain ⟨latest, first, middle, rfl, -, -⟩ := begun
    obtain ⟨rfl, rfl⟩ : first = firstFrom20 ∧ middle = [] := by
      rcases List.suffix_cons_iff.mp latest with same | shorter
      · simpa using same
      · simp at shorter
    have continues : Continues firstFrom20 lastFrom30 := by simpa using chain
    cases continues.1

end OpenBic.Mctp
