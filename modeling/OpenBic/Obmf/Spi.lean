import OpenBic.Library.Machine
import OpenBic.Obmf.Message

/-!
# Requests on the SPI channel

`handle_spi_request` runs a flash opcode of the host. A client may split one operation into a
request with the opcode and a later READ without write data, which is served from the result kept by
`READ_ID`. The flash driver is a parameter of each request.
-/

namespace OpenBic.Obmf.Spi

open List

open Library.Machine

def spiChannel : UInt8 := 17

def spiReqHdrSize : Nat := 5

def spiRspHdrSize : Nat := 3

def spiCmdRead : UInt8 := 1

def opcodeWren : UInt8 := 0x06

def opcodeRdsr : UInt8 := 0x05

def opcodeRead : UInt8 := 0x03

def opcodePageProg : UInt8 := 0x02

def opcodeReadId : UInt8 := 0x9F

def opcodeSectorErase4k : UInt8 := 0x20

def opcodeBlockErase32k : UInt8 := 0x52

def opcodeBlockErase64k : UInt8 := 0xD8

def opcodeAddrHdrLen : Nat := 5

def spiMaxReadLen : Nat := rspBufSize - headerSize - spiRspHdrSize

def spiPendingRdMax : Nat := 3

def getCommand (command : UInt8) : UInt8 := command &&& 0x0F

abbrev JedecId : Type := { id : List UInt8 // id.length = spiPendingRdMax }

/-- What the flash driver would do at the time of a request. -/
structure Flash where
  /-- `flash_read_jedec_id`, or an error. -/
  readJedecId : Option JedecId
  /-- `flash_read` at an address, or an error. -/
  read : Nat → Nat → Option (List UInt8)
  /-- `flash_read` reads what was asked for. -/
  read_length : ∀ {addr size data}, read addr size = some data → data.length = size
  /-- `flash_write` at an address succeeds. -/
  write : Nat → List UInt8 → Bool
  /-- `flash_erase` at an address succeeds. -/
  erase : Nat → Nat → Bool

/-- The result of the first phase. -/
structure Pending where
  buf : JedecId
  len : Nat
  /-- The opcode it is the result of, which the code does not keep: it is there for the claim. -/
  opcode : UInt8
  whole : len = 0 ∨ len = spiPendingRdMax

/-- `obmf_spi_request_t` with the data behind it. -/
structure SpiRequest where
  command : UInt8
  writeDataSize : UInt16
  readDataSize : UInt16
  writeData : List UInt8

def SpiRequest.parse (payload : List UInt8) : SpiRequest where
  command := getCommand (payload.getD 0 0)
  writeDataSize := read16 payload 1
  readDataSize := read16 payload 3
  writeData := payload.drop spiReqHdrSize

def SpiRequest.opcode (request : SpiRequest) : UInt8 := request.writeData.getD 0 0

def SpiRequest.addr (request : SpiRequest) : Nat :=
  2 ^ 24 * (request.writeData.getD 1 0).toNat + 2 ^ 16 * (request.writeData.getD 2 0).toNat +
    2 ^ 8 * (request.writeData.getD 3 0).toNat + (request.writeData.getD 4 0).toNat

def SpiRequest.progData (request : SpiRequest) : List UInt8 :=
  (request.writeData.take request.writeDataSize.toNat).drop opcodeAddrHdrLen

def buildSpiResponse (status spiCmd : UInt8) (readData : List UInt8) : List UInt8 :=
  Header.bytes ⟨spiChannel, responseStatus status,
      UInt16.ofNat (spiRspHdrSize + readData.length)⟩ ++
    spiCmd :: (bytes16 (UInt16.ofNat readData.length) ++ readData)

def eraseSize (opcode : UInt8) : Nat :=
  if opcode = opcodeSectorErase4k then 0x1000
  else if opcode = opcodeBlockErase32k then 0x8000
  else 0x10000

/-- The status behind the switch of `handle_spi_request`. -/
def finalStatus (done : Bool) : UInt8 := if done then statusSuccess else statusPermanentError

/-- The switch of `handle_spi_request`. -/
def serveOpcode (flash : Flash) (pending : Pending) (request : SpiRequest) :
    List UInt8 × Pending :=
  let respond (status : UInt8) (readData : List UInt8) :=
    buildSpiResponse status request.command readData
  let readSize := request.readDataSize.toNat
  if request.opcode = opcodeWren then (respond (finalStatus true) [], pending)
  else if request.opcode = opcodeRdsr then
    (respond statusSuccess (List.take (min 1 readSize) [0x00]), pending)
  else if request.opcode = opcodeReadId then
    match flash.readJedecId with
    | none => (respond statusPermanentError [], pending)
    | some id =>
      if readSize = 0 then
        (respond statusSuccess [], ⟨id, spiPendingRdMax, opcodeReadId, .inr rfl⟩)
      else (respond statusSuccess (id.val.take (min spiPendingRdMax readSize)), pending)
  else if request.opcode = opcodeRead then
    if request.writeDataSize.toNat < opcodeAddrHdrLen then (respond statusInvalidCmd [], pending)
    else
      match flash.read request.addr readSize with
      | none => (respond statusPermanentError [], pending)
      | some data => (respond statusSuccess data, pending)
  else if request.opcode = opcodePageProg then
    if request.writeDataSize.toNat < opcodeAddrHdrLen then (respond statusInvalidCmd [], pending)
    else (respond (finalStatus (flash.write request.addr request.progData)) [], pending)
  else if request.opcode = opcodeSectorErase4k ∨ request.opcode = opcodeBlockErase32k ∨
      request.opcode = opcodeBlockErase64k then
    if request.writeDataSize.toNat < opcodeAddrHdrLen then (respond statusInvalidCmd [], pending)
    else (respond (finalStatus (flash.erase request.addr (eraseSize request.opcode))) [], pending)
  else (respond statusInvalidCmd [], pending)

def servePhased (pending : Pending) (request : SpiRequest) : List UInt8 × Pending :=
  if request.command = spiCmdRead ∧ 0 < pending.len then
    (buildSpiResponse statusSuccess request.command
      (pending.buf.val.take (min pending.len request.readDataSize.toNat)),
      ⟨pending.buf, 0, pending.opcode, .inl rfl⟩)
  else (buildSpiResponse statusInvalidCmd request.command [], pending)

/-- `handle_spi_request`, on a whole message, with the flash if it is ready. -/
def handleSpiRequest (shdDev : Option Flash) (pending : Pending) (req : List UInt8) :
    List UInt8 × Pending :=
  let payloadLen := (payload req).length
  if payloadLen < spiReqHdrSize then (buildSpiResponse statusInvalidCmd 0 [], pending)
  else
    match shdDev with
    | none => (buildSpiResponse statusNotReady 0 [], pending)
    | some flash =>
      let request := SpiRequest.parse (payload req)
      let writeSize := request.writeDataSize.toNat
      if 0 < writeSize ∧ payloadLen < spiReqHdrSize + writeSize then
        (buildSpiResponse statusInvalidCmd request.command [], pending)
      else if spiMaxReadLen < request.readDataSize.toNat then
        (buildSpiResponse statusSizeNotSupported request.command [], pending)
      else if writeSize = 0 then servePhased pending request
      else serveOpcode flash pending request

/-- A request, with the flash at its time. -/
structure Event where
  shdDev : Option Flash
  req : List UInt8

def Event.request (event : Event) : SpiRequest := SpiRequest.parse (payload event.req)

/-- A request that carries an opcode. -/
def Event.CarriesOpcode (event : Event) : Prop :=
  0 < event.request.writeDataSize.toNat ∧
    spiReqHdrSize + event.request.writeDataSize.toNat ≤ (payload event.req).length

/-- A READ that comes for the result of an earlier request. -/
def Event.PhaseTwo (event : Event) : Prop :=
  spiReqHdrSize ≤ (payload event.req).length ∧ event.request.writeDataSize.toNat = 0 ∧
    event.request.command = spiCmdRead

instance (event : Event) : Decidable event.CarriesOpcode := inferInstanceAs (Decidable (_ ∧ _))

instance (event : Event) : Decidable event.PhaseTwo := inferInstanceAs (Decidable (_ ∧ _))

def withReadDataSize (req : List UInt8) (size : UInt16) : List UInt8 :=
  (req.set 7 (UInt8.ofNat size.toNat)).set 8 (UInt8.ofNat (size.toNat / 256))

/-- `spi_pending_phased_buf` and `spi_pending_phased_len` at boot. -/
def Pending.init : Pending := ⟨⟨[0, 0, 0], rfl⟩, 0, 0, .inl rfl⟩

def Event.inOnePhase (event : Event) (size : UInt16) : List UInt8 :=
  (handleSpiRequest event.shdDev Pending.init (withReadDataSize event.req size)).1

def resultOf (rsp : List UInt8) : UInt8 × List UInt8 :=
  ((readHeader rsp).rqrespStatus, (payload rsp).drop 1)

/-- The handler between two requests. -/
structure SpiRun where
  pending : Pending
  latest : Option Event

namespace SpiRun

def init : SpiRun := ⟨Pending.init, none⟩

def respond (state : SpiRun) (event : Event) : List UInt8 :=
  (handleSpiRequest event.shdDev state.pending event.req).1

def step (state : SpiRun) (event : Event) : Option SpiRun :=
  some
    { pending := (handleSpiRequest event.shdDev state.pending event.req).2
      latest := if event.CarriesOpcode then some event else state.latest }

/-- A READ without write data fails, or returns what the most recent request with an opcode would
have returned in one phase, out of what was kept for this opcode. -/
def Agrees (state : SpiRun) (event : Event) : Prop :=
  event.PhaseTwo → Succeeded (state.respond event) →
    ∃ source ∈ state.latest,
      resultOf (state.respond event) =
          resultOf (source.inOnePhase event.request.readDataSize) ∧
        state.pending.opcode = source.request.opcode

instance (state : SpiRun) (event : Event) : Decidable (state.Agrees event) :=
  inferInstanceAs (Decidable (_ → _ → _))

/-- Such a READ finds a result. -/
def Finds (state : SpiRun) (event : Event) : Prop :=
  event.PhaseTwo ∧ event.shdDev.isSome ∧
    event.request.readDataSize.toNat ≤ spiMaxReadLen ∧ state.pending.len ≠ 0

/-- The most recent request with an opcode is a `READ_ID` that the flash answered with the ID that
is kept, as far as it is read. -/
def LatestIsKept (state : SpiRun) (size : Nat) : Prop :=
  ∃ source ∈ state.latest, source.request.opcode = opcodeReadId ∧
    ∃ flash ∈ source.shdDev, ∃ id ∈ flash.readJedecId,
      id.val.take size = state.pending.buf.val.take size

/-- A READ that finds a result comes right after the opcode it was kept for. -/
def Fresh (state : SpiRun) (event : Event) : Prop :=
  state.Finds event → state.LatestIsKept event.request.readDataSize.toNat

/-- Only `READ_ID` is kept. -/
structure Keeps (state : SpiRun) : Prop where
  opcode : state.pending.len ≠ 0 → state.pending.opcode = opcodeReadId
  carried : ∀ source ∈ state.latest, source.CarriesOpcode

end SpiRun

variable {state next : SpiRun} {event source : Event} {size : UInt16} {events : List Event}

@[simp]
theorem resultOf_buildSpiResponse (status spiCmd : UInt8) (readData : List UInt8) :
    resultOf (buildSpiResponse status spiCmd readData) =
      (responseStatus status, bytes16 (UInt16.ofNat readData.length) ++ readData) := by
  unfold resultOf buildSpiResponse
  rw [readHeader_bytes, payload_bytes, drop_succ_cons, drop_zero]

theorem resultOf_inj {status other spiCmd otherCmd : UInt8} {readData otherData : List UInt8}
    (same : resultOf (buildSpiResponse status spiCmd readData) =
      resultOf (buildSpiResponse other otherCmd otherData)) :
    responseStatus status = responseStatus other ∧ readData = otherData := by
  obtain ⟨statuses, bytes⟩ := Prod.mk.inj same
  exact ⟨statuses, congrArg (List.drop 2) bytes⟩

theorem succeeded_buildSpiResponse {status spiCmd : UInt8} {readData : List UInt8} :
    Succeeded (buildSpiResponse status spiCmd readData) ↔
      responseStatus status = responseStatus statusSuccess := by
  unfold Succeeded buildSpiResponse
  rw [readHeader_bytes]

theorem parse_withReadDataSize {req : List UInt8} (long : spiReqHdrSize ≤ (payload req).length)
    (size : UInt16) :
    SpiRequest.parse (payload (withReadDataSize req size)) =
      { SpiRequest.parse (payload req) with readDataSize := size } := by
  obtain ⟨h0, h1, h2, h3, command, w0, w1, r0, r1, data, rfl⟩ :
      ∃ h0 h1 h2 h3 command w0 w1 r0 r1 data,
        req = h0 :: h1 :: h2 :: h3 :: command :: w0 :: w1 :: r0 :: r1 :: data := by
    match req, long with
    | h0 :: h1 :: h2 :: h3 :: command :: w0 :: w1 :: r0 :: r1 :: data, _ =>
      exact ⟨h0, h1, h2, h3, command, w0, w1, r0, r1, data, rfl⟩
  let bytes := h0 :: h1 :: h2 :: h3 :: command :: w0 :: w1 :: r0 :: r1 :: data
  exact congrArg (fun field => { SpiRequest.parse (payload bytes) with readDataSize := field })
    (ofNat_bytes16 size)

theorem length_payload_withReadDataSize (req : List UInt8) (size : UInt16) :
    (payload (withReadDataSize req size)).length = (payload req).length := by
  simp only [payload, withReadDataSize, length_drop, length_set]

theorem take_min_jedecId (id : JedecId) (size : Nat) :
    id.val.take (min spiPendingRdMax size) = id.val.take size := by
  have all : id.val.take spiPendingRdMax = id.val :=
    take_of_length_le (Nat.le_of_eq id.property)
  rw [Nat.min_comm, ← take_take, all]

theorem Event.inOnePhase_readId (carries : source.CarriesOpcode)
    (readId : source.request.opcode = opcodeReadId) (fits : size.toNat ≤ spiMaxReadLen) :
    source.inOnePhase size =
      match source.shdDev with
      | none => buildSpiResponse statusNotReady 0 []
      | some flash =>
        match flash.readJedecId with
        | none => buildSpiResponse statusPermanentError source.request.command []
        | some id =>
          buildSpiResponse statusSuccess source.request.command (id.val.take size.toNat) := by
  obtain ⟨writes, inside⟩ := carries
  have long : spiReqHdrSize ≤ (payload source.req).length := by omega
  have parsed : SpiRequest.parse (payload (withReadDataSize source.req size)) =
      { source.request with readDataSize := size } := parse_withReadDataSize long size
  unfold Event.inOnePhase handleSpiRequest
  rw [length_payload_withReadDataSize, parsed]
  cases source.shdDev with
  | none => simp only [if_neg (Nat.not_lt.mpr long)]
  | some flash =>
    have whole : ¬ (0 < source.request.writeDataSize.toNat ∧
        (payload source.req).length < spiReqHdrSize + source.request.writeDataSize.toNat) := by
      omega
    have others : opcodeReadId ≠ opcodeWren ∧ opcodeReadId ≠ opcodeRdsr := by decide
    have same : SpiRequest.opcode { source.request with readDataSize := size } = opcodeReadId :=
      readId
    simp only [if_neg (Nat.not_lt.mpr long), if_neg whole, if_neg (Nat.not_lt.mpr fits),
      if_neg (Nat.ne_of_gt writes), serveOpcode, same, if_neg others.1, if_neg others.2, if_true]
    cases flash.readJedecId with
    | none => rfl
    | some id =>
      dsimp only
      split
      · rename_i zero
        rw [zero, take_zero]
      · rw [take_min_jedecId]

/-- A READ without write data that finds nothing fails. -/
theorem SpiRun.not_succeeded_respond (phaseTwo : event.PhaseTwo) (missed : ¬ state.Finds event) :
    ¬ Succeeded (state.respond event) := by
  have failed {status : UInt8} (refused : responseStatus status ≠ responseStatus statusSuccess)
      (spiCmd : UInt8) (readData : List UInt8) :
      ¬ Succeeded (buildSpiResponse status spiCmd readData) :=
    fun success => refused (succeeded_buildSpiResponse.mp success)
  obtain ⟨long, empty, read⟩ := phaseTwo
  have parsed : SpiRequest.parse (payload event.req) = event.request := rfl
  unfold respond handleSpiRequest
  simp only [parsed, if_neg (Nat.not_lt.mpr long)]
  cases ready : event.shdDev with
  | none => exact failed (by decide) 0 []
  | some flash =>
    have whole : ¬ (0 < event.request.writeDataSize.toNat ∧
        (payload event.req).length < spiReqHdrSize + event.request.writeDataSize.toNat) := by
      omega
    simp only [if_neg whole, if_pos empty]
    split
    · exact failed (by decide) event.request.command []
    · rename_i fits
      have nothing : ¬ (event.request.command = spiCmdRead ∧ 0 < state.pending.len) := by
        intro both
        refine missed ⟨⟨long, empty, read⟩, ?_, Nat.le_of_not_lt fits, Nat.ne_of_gt both.2⟩
        rw [ready]
        rfl
      rw [servePhased, if_neg nothing]
      exact failed (by decide) event.request.command []

theorem SpiRun.respond_finds (finds : state.Finds event) :
    state.respond event = buildSpiResponse statusSuccess event.request.command
      (state.pending.buf.val.take event.request.readDataSize.toNat) := by
  obtain ⟨⟨long, empty, read⟩, ready, fits, kept⟩ := finds
  obtain ⟨flash, ready⟩ := Option.isSome_iff_exists.mp ready
  have parsed : SpiRequest.parse (payload event.req) = event.request := rfl
  have whole : ¬ (0 < event.request.writeDataSize.toNat ∧
      (payload event.req).length < spiReqHdrSize + event.request.writeDataSize.toNat) := by
    omega
  have full : state.pending.len = spiPendingRdMax := state.pending.whole.resolve_left kept
  have some : event.request.command = spiCmdRead ∧ 0 < state.pending.len :=
    ⟨read, Nat.pos_of_ne_zero kept⟩
  unfold respond handleSpiRequest
  simp only [parsed, ready, if_neg (Nat.not_lt.mpr long), if_neg whole,
    if_neg (Nat.not_lt.mpr fits), if_pos empty]
  rw [servePhased, if_pos some, full, take_min_jedecId]

theorem serveOpcode_pending (flash : Flash) (pending : Pending) (request : SpiRequest) :
    (serveOpcode flash pending request).2 = pending ∨
      (serveOpcode flash pending request).2.opcode = opcodeReadId := by
  unfold serveOpcode
  dsimp only
  repeat' split
  all_goals first | exact .inl rfl | exact .inr rfl

theorem servePhased_pending (pending : Pending) (request : SpiRequest) :
    (servePhased pending request).2 = pending ∨ (servePhased pending request).2.len = 0 := by
  unfold servePhased
  split
  · exact .inr rfl
  · exact .inl rfl

theorem handleSpiRequest_pending (shdDev : Option Flash) (pending : Pending) (req : List UInt8) :
    (handleSpiRequest shdDev pending req).2 = pending ∨
      (handleSpiRequest shdDev pending req).2.len = 0 ∨
      (handleSpiRequest shdDev pending req).2.opcode = opcodeReadId := by
  simp only [handleSpiRequest]
  split
  · exact .inl rfl
  · cases shdDev with
    | none => exact .inl rfl
    | some flash =>
      dsimp only
      split
      · exact .inl rfl
      · split
        · exact .inl rfl
        · split
          · exact (servePhased_pending pending _).imp_right .inl
          · exact (serveOpcode_pending flash pending _).imp_right .inr

namespace SpiRun

theorem keeps_init : Keeps init where
  opcode kept := absurd rfl kept
  carried _ member := nomatch member

/-- Every request keeps the pending result in step with its opcode. -/
theorem keeps_step (keeps : Keeps state) (moved : step state event = some next) : Keeps next := by
  cases moved
  constructor
  · intro kept
    rcases handleSpiRequest_pending event.shdDev state.pending event.req with
      same | nothing | readId
    · rw [same] at kept ⊢
      exact keeps.opcode kept
    · exact absurd nothing kept
    · exact readId
  · intro source member
    split at member
    · rename_i carries
      cases member
      exact carries
    · exact keeps.carried source member

/-- A READ without write data agrees with one phase exactly when it does not find the result of an
earlier opcode. -/
theorem agrees_iff_fresh (keeps : Keeps state) : state.Agrees event ↔ state.Fresh event := by
  constructor
  · intro agrees finds
    have answer := respond_finds finds
    have success : Succeeded (state.respond event) := by
      rw [answer]
      exact succeeded_buildSpiResponse.mpr rfl
    obtain ⟨source, latest, same, opcode⟩ := agrees finds.1 success
    have readId : source.request.opcode = opcodeReadId :=
      opcode.symm.trans (keeps.opcode finds.2.2.2)
    refine ⟨source, latest, readId, ?_⟩
    rw [answer, Event.inOnePhase_readId (keeps.carried source latest) readId finds.2.2.1] at same
    cases ready : source.shdDev with
    | none =>
      rw [ready] at same
      exact absurd (resultOf_inj same).1 (by decide)
    | some flash =>
      cases read : flash.readJedecId with
      | none =>
        simp only [ready, read] at same
        exact absurd (resultOf_inj same).1 (by decide)
      | some id =>
        simp only [ready, read] at same
        exact ⟨flash, rfl, id, read, (resultOf_inj same).2.symm⟩
  · intro fresh phaseTwo success
    by_cases finds : state.Finds event
    · obtain ⟨source, latest, readId, flash, ready, id, read, same⟩ := fresh finds
      have inOnePhase := Event.inOnePhase_readId (keeps.carried source latest) readId finds.2.2.1
      simp only [Option.mem_def.mp ready, Option.mem_def.mp read] at inOnePhase
      refine ⟨source, latest, ?_, ?_⟩
      · rw [respond_finds finds, inOnePhase, same, resultOf_buildSpiResponse,
          resultOf_buildSpiResponse]
      · rw [keeps.opcode finds.2.2.2, readId]
    · exact absurd success (not_succeeded_respond phaseTwo finds)

/-- No request stops a run. -/
theorem run_isSome (state : SpiRun) (events : List Event) :
    ∃ final, run step state events = some final := by
  induction events generalizing state with
  | nil => exact ⟨state, rfl⟩
  | cons event rest ih =>
    obtain ⟨final, ran⟩ := ih _
    exact ⟨final, run_cons_eq_some.mpr ⟨_, rfl, ran⟩⟩

/-- In a sequence of requests, every READ without write data agrees with one phase exactly when none
finds the result of an earlier opcode. -/
theorem run_agrees (events : List Event) :
    Meets step Agrees init events ↔ Meets step Fresh init events := by
  obtain ⟨final, ran⟩ := run_isSome init events
  have kept : ∀ {guard : SpiRun → Event → Prop} {state event next}, Keeps state →
      guard state event → step state event = some next → Keeps next :=
    fun keeps _ moved => keeps_step keeps moved
  constructor
  · intro agrees
    have shown : ∀ {state event next}, Keeps state → Agrees state event →
        step state event = some next → Fresh state event :=
      fun keeps agrees _ => (agrees_iff_fresh keeps).mp agrees
    exact agrees.of_invariant kept shown keeps_init ran
  · intro fresh
    have shown : ∀ {state event next}, Keeps state → Fresh state event →
        step state event = some next → Agrees state event :=
      fun keeps fresh _ => (agrees_iff_fresh keeps).mpr fresh
    exact fresh.of_invariant kept shown keeps_init ran

/-- After `READ_ID` and a read of the status register, each in its first phase, a READ returns the
ID. -/
theorem not_agrees_stale : ¬ ∀ events : List Event, Meets step Agrees init events := by
  intro always
  let flash : Flash := ⟨some ⟨[0xEF, 0x40, 0x18], rfl⟩, fun _ _ => none, nofun, fun _ _ => true,
    fun _ _ => true⟩
  let readId : Event := ⟨some flash, [17, 0, 6, 0, 2, 1, 0, 0, 0, 0x9F]⟩
  let readStatus : Event := ⟨some flash, [17, 0, 6, 0, 2, 1, 0, 0, 0, 0x05]⟩
  let read : Event := ⟨some flash, [17, 0, 5, 0, 1, 0, 0, 3, 0]⟩
  have stale : ¬ Meets step Agrees init [readId, readStatus, read] := by decide +kernel
  exact stale (always [readId, readStatus, read])

end SpiRun

end OpenBic.Obmf.Spi
