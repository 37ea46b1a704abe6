import OpenBic.Mctp.Receive

/-!
# Lengths and buffers of `mctp_rx_task`

The receive task subtracts the header size from the length of a packet that it has not compared
with the header size. A packet shorter than the header has no SOM and no EOM, since the read
buffer is zeroed, so the length goes wrong only where such a packet meets a message being
assembled. Where none does, no length is negative, nothing is copied outside a buffer, and a slot
has a buffer exactly while a message is being assembled in it.
-/

namespace OpenBic.Mctp

open List Option Library.Machine

def ownArrivals (endpoint : UInt8) (key : Key) (past : List Arrival) : List Arrival :=
  past.filter fun arrival => accepts endpoint arrival.packet && arrival.packet.key == key

def arrivedBytes (message : List Arrival) : List UInt8 :=
  message.flatMap fun arrival => arrival.packet.payload

/-- A message that is being assembled: the arrivals end with a first packet that got its buffer,
and nothing but middle packets after it, and together they fit the buffer. -/
structure Assembled (own message : List Arrival) : Prop where
  latest : message <:+ own
  shape : ∃ first middle, message = first :: middle ∧
    (first.packet.hdr.som = true ∧ first.packet.hdr.eom = false ∧ first.mallocOk = true) ∧
    ∀ arrival ∈ middle, arrival.packet.hdr.som = false ∧ arrival.packet.hdr.eom = false
  fits : (arrivedBytes message).length ≤ msgAssemblyBufSize

/-- The payload length that a turn computes for a packet for the endpoint, if it computes one. -/
def payloadLen (slot : Slot) (packet : Packet) (mallocOk : Bool) : Option Int :=
  if packet.hdr.som && packet.hdr.eom then some (packet.bytes.length - hdrSize)
  else
    match openSlot slot packet.hdr mallocOk with
    | none => none
    | some _ => some (packet.bytes.length - hdrSize)

/-- No payload has a negative length. -/
def Measures (port : Port) (arrival : Arrival) : Prop :=
  accepts port.endpoint arrival.packet = true →
    ∀ length ∈ payloadLen (port.tempMsgBuf arrival.packet.key) arrival.packet arrival.mallocOk,
      0 ≤ length

/-- A packet for the endpoint that meets a message being assembled has a header. -/
def LongEnough (port : Port) (arrival : Arrival) : Prop :=
  accepts port.endpoint arrival.packet = true → port.tempMsgBuf arrival.packet.key ≠ none →
    hdrSize ≤ arrival.packet.bytes.length

instance LongEnough.decidable (port : Port) (arrival : Arrival) :
    Decidable (LongEnough port arrival) :=
  inferInstanceAs (Decidable (accepts port.endpoint arrival.packet = true →
    port.tempMsgBuf arrival.packet.key ≠ none → hdrSize ≤ arrival.packet.bytes.length))

/-- What holds of the slots after the arrivals. -/
structure Bounded (endpoint : UInt8) (past : List Arrival) (port : Port) : Prop where
  offset : ∀ key held, port.tempMsgBuf key = some held → held.length ≤ msgAssemblyBufSize
  buffer : ∀ key, port.tempMsgBuf key ≠ none ↔
    ∃ message, Assembled (ownArrivals endpoint key past) message

theorem long_of_flag {packet : Packet}
    (flag : packet.hdr.som = true ∨ packet.hdr.eom = true) : hdrSize ≤ packet.bytes.length := by
  by_contra short
  have zero : packet.bytes.getD 3 0 = 0 := by
    rw [getD_eq_getElem?_getD, getElem?_eq_none]
    · rfl
    · unfold hdrSize at short
      omega
  simp only [Packet.hdr, readHdr, zero] at flag
  exact absurd flag (by decide)

variable {port : Port} {last : Arrival} {slot : Slot} {own : List Arrival}

theorem measures_of_longEnough {arrival : Arrival}
    (long : LongEnough port arrival) : Measures port arrival := by
  intro mine length computed
  have header : hdrSize ≤ arrival.packet.bytes.length → 0 ≤ length := by
    intro enough
    unfold payloadLen at computed
    have same : some ((arrival.packet.bytes.length : Int) - hdrSize) = some length := by
      split at computed
      · exact computed
      · split at computed
        · cases computed
        · exact computed
    cases same
    omega
  apply header
  unfold payloadLen at computed
  split at computed
  · rename_i single
    rw [Bool.and_eq_true] at single
    exact long_of_flag (.inl single.1)
  · unfold openSlot at computed
    split at computed
    · cases computed
    · rename_i filled opened
      split at opened
      · rename_i first
        rw [Bool.and_eq_true] at first
        exact long_of_flag (.inl first.1)
      · exact long mine (by rw [opened]; exact some_ne_none filled)

theorem ownArrivals_append (endpoint : UInt8) (key : Key) (past : List Arrival) (last : Arrival) :
    ownArrivals endpoint key (past ++ [last]) =
      if accepts endpoint last.packet = true ∧ last.packet.key = key then
        ownArrivals endpoint key past ++ [last]
      else ownArrivals endpoint key past := by
  by_cases own : accepts endpoint last.packet = true ∧ last.packet.key = key
  · simp [ownArrivals, own]
  · rw [if_neg own]
    have dropped : (accepts endpoint last.packet && last.packet.key == key) = false := by
      simpa using own
    simp [ownArrivals, dropped]

theorem arrivedBytes_append (message : List Arrival) (last : Arrival) :
    arrivedBytes (message ++ [last]) = arrivedBytes message ++ last.packet.payload := by
  simp [arrivedBytes]

theorem payload_length_le (packet : Packet) : packet.payload.length ≤ msgAssemblyBufSize := by
  have fits := packet.fits
  simp only [Packet.payload, length_drop, msgAssemblyBufSize, readBufSize, hdrSize] at *
  omega

/-- What is being assembled after one more packet: a message that it begins, or one that was
being assembled and that it continues. -/
theorem assembled_append {own message : List Arrival} : Assembled (own ++ [last]) message ↔
      (message = [last] ∧ last.packet.hdr.som = true ∧ last.packet.hdr.eom = false ∧
        last.mallocOk = true) ∨ ∃ before, message = before ++ [last] ∧ Assembled own before ∧
        last.packet.hdr.som = false ∧ last.packet.hdr.eom = false ∧
        (arrivedBytes before ++ last.packet.payload).length ≤ msgAssemblyBufSize := by
  constructor
  · rintro ⟨⟨earlier, latest⟩, ⟨first, middle, rfl, opened, inside⟩, fits⟩
    rcases eq_nil_or_concat middle with rfl | ⟨rest, other, rfl⟩
    · have split := append_inj' latest rfl
      obtain rfl := List.singleton_inj.mp split.2
      exact .inl ⟨rfl, opened⟩
    · rw [concat_eq_append, ← cons_append, ← append_assoc] at latest
      have split := append_inj' latest rfl
      obtain rfl := List.singleton_inj.mp split.2
      rw [concat_eq_append, ← cons_append] at fits ⊢
      rw [arrivedBytes_append] at fits
      have last := inside other (by simp)
      refine .inr ⟨first :: rest, rfl, ⟨⟨earlier, split.1⟩, ⟨first, rest, rfl, opened, ?_⟩, ?_⟩,
        last.1, last.2, fits⟩
      · exact fun arrival member => inside arrival (by simp [member])
      · rw [length_append] at fits
        exact Nat.le_trans (Nat.le_add_right _ _) fits
  · rintro (⟨rfl, som, more, granted⟩ | ⟨before, rfl, ⟨⟨earlier, latest⟩, shape, _⟩, inner, more,
      fits⟩)
    · refine ⟨suffix_append own [last], ⟨last, [], rfl, ⟨som, more, granted⟩, by simp⟩, ?_⟩
      have size := payload_length_le last.packet
      simpa [arrivedBytes] using size
    · obtain ⟨first, middle, rfl, opened, inside⟩ := shape
      refine ⟨⟨earlier, by rw [← latest, append_assoc]⟩,
        ⟨first, middle ++ [last], rfl, opened, ?_⟩, by rwa [arrivedBytes_append]⟩
      intro arrival member
      rcases List.mem_append.mp member with before | now
      · exact inside arrival before
      · obtain rfl := List.mem_singleton.mp now
        exact ⟨inner, more⟩

/-- A slot holds exactly the payloads of the message being assembled in it. -/
def Holding (own : List Arrival) (slot : Slot) : Prop :=
  ∀ held, slot = some held ↔ ∃ message, Assembled own message ∧ held = arrivedBytes message

def slotAfter (slot : Slot) (arrival : Arrival) : Option Slot :=
  match mctpPktAssembling slot arrival.packet arrival.mallocOk with
  | .fault => none
  | .error _ => some none
  | .success after => some (if arrival.packet.hdr.eom then none else after)

theorem mctpRxTask_slotAfter {arrival : Arrival}
    (mine : accepts port.endpoint arrival.packet = true)
    (left : slotAfter (port.tempMsgBuf arrival.packet.key) arrival = some slot) :
    ∃ next, mctpRxTask port arrival = some next ∧ next.endpoint = port.endpoint ∧
      next.tempMsgBuf = Function.update port.tempMsgBuf arrival.packet.key slot := by
  unfold slotAfter at left
  unfold mctpRxTask
  rw [if_pos mine]
  cases assembled : mctpPktAssembling (port.tempMsgBuf arrival.packet.key) arrival.packet
      arrival.mallocOk with
  | fault =>
    rw [assembled] at left
    cases left
  | error held =>
    rw [assembled] at left
    cases left
    exact ⟨_, rfl, rfl, rfl⟩
  | success after =>
    rw [assembled] at left
    cases left
    dsimp only
    by_cases ends : arrival.packet.hdr.eom = true
    · rw [if_pos ends, if_pos ends]
      exact ⟨_, rfl, by simp, by simp [Port.setSlot]⟩
    · rw [if_neg ends, if_neg ends]
      exact ⟨_, rfl, rfl, rfl⟩

theorem not_assembled_append (ends : last.packet.hdr.eom = true ∨
      last.packet.hdr.som = true ∧ last.mallocOk = false) (message : List Arrival) :
    ¬ Assembled (own ++ [last]) message := by
  rw [assembled_append]
  rintro (⟨_, som, more, granted⟩ | ⟨_, _, _, inner, more, _⟩)
  · rcases ends with eom | ⟨_, refused⟩
    · rw [more] at eom
      cases eom
    · rw [granted] at refused
      cases refused
  · rcases ends with eom | ⟨som, _⟩
    · rw [more] at eom
      cases eom
    · rw [inner] at som
      cases som

theorem Holding.idle (idle : ∀ message, ¬ Assembled own message) : Holding own none := by
  intro held
  constructor
  · intro filled
    cases filled
  · rintro ⟨message, assembled, _⟩
    exact absurd assembled (idle message)

theorem Holding.first (som : last.packet.hdr.som = true)
    (more : last.packet.hdr.eom = false) (granted : last.mallocOk = true) :
    Holding (own ++ [last]) (some last.packet.payload) := by
  intro held
  constructor
  · rintro ⟨⟩
    exact ⟨[last], assembled_append.mpr (.inl ⟨rfl, som, more, granted⟩), by simp [arrivedBytes]⟩
  · rintro ⟨message, assembled, rfl⟩
    rcases assembled_append.mp assembled with ⟨rfl, _⟩ | ⟨_, _, _, inner, _⟩
    · simp [arrivedBytes]
    · rw [som] at inner
      cases inner

theorem Holding.middle (holding : Holding own slot) (inner : last.packet.hdr.som = false)
    (more : last.packet.hdr.eom = false) : Holding (own ++ [last]) (slot.bind fun filled =>
      if (filled ++ last.packet.payload).length ≤ msgAssemblyBufSize then
        some (filled ++ last.packet.payload) else none) := by
  intro held
  rw [bind_eq_some_iff]
  constructor
  · rintro ⟨filled, before, kept⟩
    obtain ⟨fits, same⟩ := Option.ite_none_right_eq_some.mp kept
    cases same
    obtain ⟨message, assembled, rfl⟩ := (holding filled).mp before
    exact ⟨message ++ [last],
      assembled_append.mpr (.inr ⟨message, rfl, assembled, inner, more, fits⟩),
      (arrivedBytes_append message last).symm⟩
  · rintro ⟨message, assembled, rfl⟩
    rcases assembled_append.mp assembled with ⟨_, som, _⟩ | ⟨before, rfl, earlier, _, _, fits⟩
    · rw [inner] at som
      cases som
    · refine ⟨arrivedBytes before, (holding _).mpr ⟨before, earlier, rfl⟩, ?_⟩
      rw [if_pos fits, arrivedBytes_append]

theorem mctpPktAssembling_of_long {packet : Packet} {mallocOk : Bool}
    {filled : List UInt8} (several : ¬ (packet.hdr.som && packet.hdr.eom) = true)
    (opened : openSlot slot packet.hdr mallocOk = some filled)
    (small : filled.length ≤ msgAssemblyBufSize) (long : hdrSize ≤ packet.bytes.length) :
    mctpPktAssembling slot packet mallocOk =
      if (filled ++ packet.payload).length ≤ msgAssemblyBufSize then
        .success (some (filled ++ packet.payload)) else .error (some filled) := by
  have most := packet.fits
  have size : (filled.length + packet.bytes.length + 2 ^ 16 - hdrSize) % 2 ^ 16 =
      (filled ++ packet.payload).length := by
    simp only [Packet.payload, length_append, length_drop, hdrSize, readBufSize,
      msgAssemblyBufSize] at *
    omega
  simp only [mctpPktAssembling, if_neg several, opened, size, if_neg (Nat.not_lt.mpr long)]
  by_cases fits : (filled ++ packet.payload).length ≤ msgAssemblyBufSize
  · rw [if_pos fits, if_neg (Nat.not_lt.mpr fits)]
  · rw [if_neg fits, if_pos (Nat.lt_of_not_le fits)]

theorem Holding.small (holding : Holding own slot)
    {filled : List UInt8} (held : slot = some filled) : filled.length ≤ msgAssemblyBufSize := by
  obtain ⟨message, assembled, rfl⟩ := (holding filled).mp held
  exact assembled.fits

/-- A turn whose packet has a header where it meets a message comes to an end, and the slot holds
what is being assembled then. -/
theorem Holding.turn (holding : Holding own slot)
    (long : slot ≠ none → hdrSize ≤ last.packet.bytes.length) :
    ∃ after, slotAfter slot last = some after ∧ Holding (own ++ [last]) after := by
  unfold slotAfter
  by_cases single : (last.packet.hdr.som && last.packet.hdr.eom) = true
  · have both := single
    rw [Bool.and_eq_true] at both
    simp only [mctpPktAssembling, if_pos single, if_pos both.2]
    exact ⟨none, rfl, .idle (not_assembled_append (.inl both.2))⟩
  · cases opened : openSlot slot last.packet.hdr last.mallocOk with
    | none =>
      simp only [mctpPktAssembling, if_neg single, opened]
      refine ⟨none, rfl, ?_⟩
      unfold openSlot at opened
      split at opened
      · rename_i first
        rw [Bool.and_eq_true] at first
        split at opened
        · cases opened
        · rename_i refused
          exact .idle (not_assembled_append (.inr ⟨first.1, by simpa using refused⟩))
      · rename_i notFirst
        subst opened
        by_cases ends : last.packet.hdr.eom = true
        · exact .idle (not_assembled_append (.inl ends))
        · have inner : last.packet.hdr.som = false := by
            simpa [Bool.eq_false_iff.mpr ends] using notFirst
          exact holding.middle inner (Bool.eq_false_iff.mpr ends)
    | some filled =>
      have enough : hdrSize ≤ last.packet.bytes.length ∧ filled.length ≤ msgAssemblyBufSize := by
        unfold openSlot at opened
        split at opened
        · rename_i first
          rw [Bool.and_eq_true] at first
          split at opened
          · cases opened
            exact ⟨long_of_flag (.inl first.1), Nat.zero_le _⟩
          · cases opened
        · exact ⟨long (by rw [opened]; exact some_ne_none filled), holding.small opened⟩
      rw [mctpPktAssembling_of_long single opened enough.2 enough.1]
      by_cases ends : last.packet.hdr.eom = true
      · refine ⟨none, ?_, .idle (not_assembled_append (.inl ends))⟩
        split
        · rename_i faulted
          split at faulted <;> cases faulted
        · rfl
        · rw [if_pos ends]
      · have more := Bool.eq_false_iff.mpr ends
        by_cases first : last.packet.hdr.som = true
        · have fits := payload_length_le last.packet
          simp only [openSlot, first, more, Bool.not_false, Bool.and_self, if_true] at opened
          split at opened
          · rename_i granted
            cases opened
            rw [nil_append, if_pos fits]
            simp only [more, Bool.false_eq_true, if_false]
            exact ⟨_, rfl, .first first more granted⟩
          · cases opened
        · have inner := Bool.eq_false_iff.mpr first
          simp only [openSlot, inner, Bool.false_and, Bool.false_eq_true, if_false] at opened
          subst opened
          have kept := holding.middle inner more
          rw [bind_some] at kept
          refine ⟨_, ?_, kept⟩
          split
          · rename_i faulted
            split at faulted <;> cases faulted
          · rename_i erred
            split at erred
            · cases erred
            · rename_i large
              rw [if_neg large]
          · rename_i assembled
            split at assembled
            · rename_i fits
              obtain rfl := Assembling.success.inj assembled
              simp only [more, Bool.false_eq_true, if_false, if_pos fits]
            · cases assembled

/-- After the arrivals every slot holds what is being assembled in it. -/
structure Holds (endpoint : UInt8) (past : List Arrival) (port : Port) : Prop where
  endpoint_eq : port.endpoint = endpoint
  slots : ∀ key, Holding (ownArrivals endpoint key past) (port.tempMsgBuf key)

theorem mctpRxTask_holds {endpoint : UInt8} {past : List Arrival}
    (before : Holds endpoint past port) (long : LongEnough port last) :
    ∃ next, mctpRxTask port last = some next ∧ Holds endpoint (past ++ [last]) next := by
  obtain ⟨rfl, slots⟩ := before
  by_cases mine : accepts port.endpoint last.packet = true
  · obtain ⟨after, left, holding⟩ := (slots last.packet.key).turn (long mine)
    obtain ⟨next, received, same, buffers⟩ := mctpRxTask_slotAfter mine left
    refine ⟨next, received, same, fun key => ?_⟩
    rw [buffers, ownArrivals_append]
    by_cases own : last.packet.key = key
    · subst own
      rw [if_pos ⟨mine, rfl⟩, Function.update_self]
      exact holding
    · rw [if_neg fun both => own both.2, Function.update_of_ne (Ne.symm own)]
      exact slots key
  · refine ⟨port, if_neg mine, rfl, fun key => ?_⟩
    rw [ownArrivals_append, if_neg fun both => mine both.1]
    exact slots key

theorem holds_start (endpoint : UInt8) (rxCb : Bool) :
    Holds endpoint [] (Port.start endpoint rxCb) := by
  refine ⟨rfl, fun key => .idle fun message assembled => ?_⟩
  obtain ⟨first, middle, rfl, _⟩ := assembled.shape
  exact cons_ne_nil first middle (List.suffix_nil.mp assembled.latest)

theorem Holds.bounded {endpoint : UInt8} {past : List Arrival}
    (holds : Holds endpoint past port) : Bounded endpoint past port where
  offset := fun key _ held => (holds.slots key).small held
  buffer := by
    intro key
    constructor
    · intro used
      obtain ⟨held, filled⟩ := ne_none_iff_exists'.mp used
      obtain ⟨message, assembled, _⟩ := (holds.slots key held).mp filled
      exact ⟨message, assembled⟩
    · rintro ⟨message, assembled⟩
      rw [(holds.slots key _).mpr ⟨message, assembled, rfl⟩]
      exact some_ne_none _

/-- Where no packet shorter than the header meets a message being assembled, no payload length is
negative, every turn comes to an end without copying outside a buffer, no offset exceeds the
buffer, and a slot has a buffer exactly while a message is being assembled in it. -/
theorem mctpRxTask_bounded {endpoint : UInt8} {rxCb : Bool} {past : List Arrival}
    (long : Meets mctpRxTask LongEnough (Port.start endpoint rxCb) past) :
    Meets mctpRxTask Measures (Port.start endpoint rxCb) past ∧
      ∃ port, run mctpRxTask (Port.start endpoint rxCb) past = some port ∧
        Bounded endpoint past port := by
  have moves : ∀ {earlier port last}, Holds endpoint earlier port → LongEnough port last →
      ∃ next, mctpRxTask port last = some next ∧ Holds endpoint (earlier ++ [last]) next :=
    mctpRxTask_holds
  obtain ⟨port, ran, holds⟩ := history_runs moves (holds_start endpoint rxCb) long
  let always : Port → Prop := fun _ => True
  have kept : ∀ {port last next}, always port → LongEnough port last →
      mctpRxTask port last = some next → always next := fun _ _ _ => trivial
  have shown : ∀ {port last next}, always port → LongEnough port last →
      mctpRxTask port last = some next → Measures port last :=
    fun _ enough _ => measures_of_longEnough enough
  have initial : always (Port.start endpoint rxCb) := trivial
  exact ⟨.of_invariant kept shown initial long ran, port, ran, holds.bounded⟩

def threeBytes : Packet := ⟨[1, 0x0A, 0x20], by decide, by decide⟩

/-- A frame of three bytes, and a first packet. -/
theorem mctpRxTask_bounded_short :
    ∃ port, run mctpRxTask (Port.start 0x0A true)
        [⟨threeBytes, true⟩, ⟨firstFrom20, true⟩] = some port ∧
      Bounded 0x0A [⟨threeBytes, true⟩, ⟨firstFrom20, true⟩] port :=
  (mctpRxTask_bounded (by decide)).2

/-- A short packet that meets a message with a byte in its buffer has a payload length of -1, and
the copy of that many bytes runs off. -/
theorem threeBytes_faults :
    ¬ ∀ (endpoint : UInt8) (rxCb : Bool) (past : List Arrival),
      Meets mctpRxTask Measures (Port.start endpoint rxCb) past ∧
        ∃ port, run mctpRxTask (Port.start endpoint rxCb) past = some port ∧
          Bounded endpoint past port := by
  intro always
  obtain ⟨_, port, ran, _⟩ := always 0x0A true [⟨firstFrom20, true⟩, ⟨threeBytes, true⟩]
  cases ran

end OpenBic.Mctp
