import OpenBic.Obmf.ControlChannel
import OpenBic.Obmf.Io

/-!
# MMIO

`handle_mmio_read_req` and `handle_mmio_write_req` read and write the regions that the device keeps
for the host, and `obmf_mmio_read` and `obmf_mmio_write` send requests of the same layout. The
handlers take address and size from a request as those of Channel 0 do.
-/

namespace OpenBic.Obmf.Mmio

open List Option

open Function Library.Splice Library.Field

/-- The regions of `mmio_local_get_buf`. -/
inductive Region where
  | postCode
  | uart
  | vw
  | flashErase
deriving DecidableEq

namespace Region

def base : Region → Nat
  | postCode => 0x1C000
  | uart => 0x10000
  | vw => 0x8000
  | flashErase => 0x4000 + 0x1000

def size : Region → Nat
  | postCode => 2
  | uart => 8
  | vw => 12
  | flashErase => 8

def all : List Region := [postCode, uart, vw, flashErase]

end Region

/-- The regions and what was reported of them. -/
structure MmioLocal where
  mem : Region → Nat → UInt8
  /-- `mmio_write_cb` is registered. -/
  mmioWriteCb : Bool
  /-- The calls of `mmio_write_cb`. -/
  calls : List (Nat × List UInt8)

/-- `mmio_local_get_buf`: the region of an address and the place in it. -/
def mmioLocalGetBuf (addr : Nat) : Option (Region × Nat) :=
  (Region.all.find? fun region => region.base ≤ addr ∧ addr < region.base + region.size).map
    fun region => (region, addr - region.base)

def mmioLocalUpdate (mem : Region → Nat → UInt8) (offset len : Nat) (data : Nat → UInt8) :
    Option (Region → Nat → UInt8) :=
  match mmioLocalGetBuf offset with
  | none => none
  | some (dst, off) =>
    if dst.size - off < len then none
    else some (update mem dst (overwrite (mem dst) off len data))

/-- The address and the size that `handle_mmio_read_req` reads, unless it refuses the request. -/
def readParse (msg : List UInt8) : Option (Nat × Nat) :=
  if (mmioPayload msg).length < addrSize msg + sizeFieldLen then none
  else if ch0ReadSize msg = 0 then none
  else some (ch0Addr msg, ch0ReadSize msg)

/-- The address and the data that `handle_mmio_write_req` reads, unless it refuses the request. -/
def writeParse (msg : List UInt8) : Option (Nat × List UInt8) :=
  if (mmioPayload msg).length < addrSize msg + 1 then none
  else some (ch0Addr msg, cells (ch0WriteData msg) (ch0WriteSize msg))

def mmioResponse (msg : List UInt8) (data : List UInt8) : List UInt8 :=
  response msg statusSuccess (mmioTrans msg :: 0 :: data)

/-- `handle_mmio_read_req`, for a short or long read. -/
def handleMmioReadReq (mmio : MmioLocal) (msg : List UInt8) : List UInt8 :=
  match readParse msg with
  | none => buildErrResponse msg statusInvalidCmd
  | some (addr, readSize) =>
    match mmioLocalGetBuf addr with
    | none => buildErrResponse msg statusAddrOutOfRange
    | some (src, off) =>
      if src.size - off < readSize then buildErrResponse msg statusAddrOutOfRange
      else mmioResponse msg (cells (view (mmio.mem src) off) readSize)

/-- `handle_mmio_write_req`, for a short or long write. -/
def handleMmioWriteReq (mmio : MmioLocal) (msg : List UInt8) : List UInt8 × MmioLocal :=
  match writeParse msg with
  | none => (buildErrResponse msg statusInvalidCmd, mmio)
  | some (addr, data) =>
    match mmioLocalUpdate mmio.mem addr data.length fun index => data.getD index 0 with
    | none => (buildErrResponse msg statusAddrOutOfRange, mmio)
    | some mem =>
      let calls :=
        if mmio.mmioWriteCb then mmio.calls ++ [(addr % 2 ^ 32, data)] else mmio.calls
      (mmioResponse msg [], ⟨mem, mmio.mmioWriteCb, calls⟩)

def obmfMmioRead (offset len : UInt32) (sends : Nat → SendResult) : SendOutcome :=
  obmfSendRequest mmioChannel (transLongRead :: 0 :: (cells (digit offset.toNat) 8 ++
    bytes16 (UInt16.ofNat len.toNat))) sends

/-- `obmf_mmio_write`. The size of the allocation has 32 bits. -/
def obmfMmioWrite (offset len : UInt32) (buf : Nat → UInt8) (malloc : Bool)
    (sends : Nat → SendResult) : SendOutcome :=
  if malloc then
    if 2 ^ 32 ≤ headerSize + mmioSubHdrSize + 8 + len.toNat then .overrun
    else
      obmfSendRequest mmioChannel (transLongWrite :: 0 :: (cells (digit offset.toNat) 8 ++
        cells buf len.toNat)) sends
  else .error

/-- The handler understands the message as a read of so many bytes from the address. -/
structure AsksRead (addr len : Nat) (msg : List UInt8) : Prop where
  request : IsRequest mmioChannel msg
  trans : mmioTrans msg = transLongRead
  parsed : readParse msg = some (addr, len)

/-- The handler understands the message as a write of the data to the address. -/
structure AsksWrite (addr : Nat) (data msg : List UInt8) : Prop where
  request : IsRequest mmioChannel msg
  trans : mmioTrans msg = transLongWrite
  parsed : writeParse msg = some (addr, data)

def MmioLocal.byte (mmio : MmioLocal) (addr : Nat) : Option UInt8 :=
  (mmioLocalGetBuf addr).map fun place => mmio.mem place.1 place.2

/-- The data were written to the address, and nowhere else. -/
structure Written (before after : MmioLocal) (addr : Nat) (data : List UInt8) : Prop where
  written : ∀ index < data.length, after.byte (addr + index) = data[index]?
  others : ∀ other, other < addr ∨ addr + data.length ≤ other →
    after.byte other = before.byte other

/-- A write is applied to all of its bytes, so that a read of them returns what was written, or it
fails and changes nothing. -/
def AllOrNothing (mmio : MmioLocal) (msg : List UInt8) : Prop :=
  let data := (mmioPayload msg).drop (addrSize msg)
  (¬ Succeeded (handleMmioWriteReq mmio msg).1 ∧ (handleMmioWriteReq mmio msg).2 = mmio) ∨
  (Succeeded (handleMmioWriteReq mmio msg).1 ∧
    Written mmio (handleMmioWriteReq mmio msg).2 (ch0Addr msg) data ∧
    ∀ read, readParse read = some (ch0Addr msg, data.length) →
      handleMmioReadReq (handleMmioWriteReq mmio msg).2 read = mmioResponse read data)

variable {mmio : MmioLocal} {msg data : List UInt8} {region : Region} {addr off : Nat}

theorem Region.eq_of_within {first second : Region}
    (one : first.base ≤ addr ∧ addr < first.base + first.size)
    (other : second.base ≤ addr ∧ addr < second.base + second.size) : first = second := by
  cases first <;> cases second <;> simp only [Region.base, Region.size] at one other <;>
    first | rfl | omega

theorem mmioLocalGetBuf_base (inside : off < region.size) :
    mmioLocalGetBuf (region.base + off) = some (region, off) := by
  have within : region.base ≤ region.base + off ∧
      region.base + off < region.base + region.size := by
    omega
  have listed : region ∈ Region.all := by cases region <;> decide
  unfold mmioLocalGetBuf
  cases searched : Region.all.find? fun other =>
      decide (other.base ≤ region.base + off ∧ region.base + off < other.base + other.size) with
  | none => exact absurd (decide_eq_true within) (List.find?_eq_none.mp searched region listed)
  | some other =>
    have found := find?_some searched
    rw [decide_eq_true_eq] at found
    obtain rfl := Region.eq_of_within found within
    rw [map_some, Nat.add_sub_cancel_left]

theorem eq_of_mmioLocalGetBuf (found : mmioLocalGetBuf addr = some (region, off)) :
    addr = region.base + off ∧ off < region.size := by
  obtain ⟨other, searched, same⟩ := Option.map_eq_some_iff.mp found
  have within := find?_some searched
  rw [decide_eq_true_eq] at within
  cases same
  omega

theorem written_update {calls : List (Nat × List UInt8)}
    (fits : off + data.length ≤ region.size) :
    Written mmio ⟨update mmio.mem region (overwrite (mmio.mem region) off data.length
      fun index => data.getD index 0), mmio.mmioWriteCb, calls⟩ (region.base + off) data where
  written index inside := by
    have place : mmioLocalGetBuf (region.base + off + index) = some (region, off + index) := by
      rw [Nat.add_assoc]
      exact mmioLocalGetBuf_base (by omega)
    rw [MmioLocal.byte, place, map_some]
    dsimp only
    rw [update_self, overwrite_inside _ _ inside, getD_eq_getElem?_getD,
      getElem?_eq_getElem inside,
      getD_some]
  others other outside := by
    unfold MmioLocal.byte
    cases place : mmioLocalGetBuf other with
    | none => rfl
    | some found =>
      obtain ⟨holder, spot⟩ := found
      obtain ⟨same, -⟩ := eq_of_mmioLocalGetBuf place
      rw [map_some, map_some]
      dsimp only
      by_cases here : holder = region
      · subst here
        rw [update_self, overwrite_outside _ _ (by omega)]
      · rw [update_of_ne here]

theorem handleMmioReadReq_update {read : List UInt8} {calls : List (Nat × List UInt8)}
    (parsed : readParse read = some (region.base + off, data.length)) (inside : off < region.size)
    (fits : off + data.length ≤ region.size) :
    handleMmioReadReq ⟨update mmio.mem region (overwrite (mmio.mem region) off data.length
      fun index => data.getD index 0), mmio.mmioWriteCb, calls⟩ read = mmioResponse read data := by
  have enough : ¬ region.size - off < data.length := by omega
  have stored : cells (view (overwrite (mmio.mem region) off data.length
      fun index => data.getD index 0) off) data.length = data := by
    have same : cells (view (overwrite (mmio.mem region) off data.length
        fun index => data.getD index 0) off) data.length =
          cells (fun index => data.getD index 0) data.length :=
      cells_congr fun index below => overwrite_inside _ (fun index => data.getD index 0) below
    rw [same, cells_getD data 0 le_rfl, take_length]
  simp only [handleMmioReadReq, parsed, mmioLocalGetBuf_base inside, if_neg enough,
    update_self, stored]

/-- Every write is applied as a whole or not at all. -/
theorem handleMmioWriteReq_allOrNothing (mmio : MmioLocal) (received : msg.length ≤ fragBufSize) :
    AllOrNothing mmio msg := by
  have failed {status : UInt8} (refused : responseStatus status ≠ responseStatus statusSuccess) :
      ¬ Succeeded (buildErrResponse msg status) :=
    fun success => refused (succeeded_buildErrResponse.mp success)
  have size : ch0WriteSize msg = ((mmioPayload msg).drop (addrSize msg)).length := by
    have length : (mmioPayload msg).length = msg.length - (headerSize + mmioSubHdrSize) :=
      length_drop
    unfold fragBufSize at received
    rw [ch0WriteSize, length_drop]
    exact Nat.mod_eq_of_lt (by omega)
  let data := (mmioPayload msg).drop (addrSize msg)
  have carried : cells (ch0WriteData msg) (ch0WriteSize msg) = data := by
    have bytes (index : Nat) : ch0WriteData msg index = data.getD index 0 := by
      rw [getD_eq_getElem?_getD, getElem?_drop, ← getD_eq_getElem?_getD]
      rfl
    have same : cells (ch0WriteData msg) (ch0WriteSize msg) =
        cells (fun index => data.getD index 0) (ch0WriteSize msg) :=
      cells_congr fun index _ => bytes index
    rw [same, size, cells_getD data 0 le_rfl, take_length]
  show (_ ∧ _) ∨ (_ ∧ Written mmio _ (ch0Addr msg) data ∧ _)
  by_cases short : (mmioPayload msg).length < addrSize msg + 1
  · have handled : handleMmioWriteReq mmio msg = (buildErrResponse msg statusInvalidCmd, mmio) := by
      simp only [handleMmioWriteReq, writeParse, if_pos short]
    rw [handled]
    exact .inl ⟨failed (by decide), rfl⟩
  · cases place : mmioLocalGetBuf (ch0Addr msg) with
    | none =>
      have handled : handleMmioWriteReq mmio msg =
          (buildErrResponse msg statusAddrOutOfRange, mmio) := by
        simp only [handleMmioWriteReq, writeParse, if_neg short, mmioLocalUpdate, place]
      rw [handled]
      exact .inl ⟨failed (by decide), rfl⟩
    | some found =>
      obtain ⟨region, off⟩ := found
      obtain ⟨address, inside⟩ := eq_of_mmioLocalGetBuf place
      by_cases outside : region.size - off < data.length
      · have handled : handleMmioWriteReq mmio msg =
            (buildErrResponse msg statusAddrOutOfRange, mmio) := by
          simp only [handleMmioWriteReq, writeParse, if_neg short, carried, mmioLocalUpdate, place,
            if_pos outside]
        rw [handled]
        exact .inl ⟨failed (by decide), rfl⟩
      · have fits : off + data.length ≤ region.size := by omega
        have handled : handleMmioWriteReq mmio msg = (mmioResponse msg [],
            ⟨update mmio.mem region (overwrite (mmio.mem region) off data.length
              fun index => data.getD index 0), mmio.mmioWriteCb,
              if mmio.mmioWriteCb then mmio.calls ++ [(ch0Addr msg % 2 ^ 32, data)]
              else mmio.calls⟩) := by
          simp only [handleMmioWriteReq, writeParse, if_neg short, carried, mmioLocalUpdate, place,
            if_neg outside]
        rw [handled, address]
        exact .inr ⟨succeeded_response.mpr rfl, written_update fits,
          fun read parsed => handleMmioReadReq_update parsed inside fits⟩

theorem getD_cells_append (base : Nat → UInt8) (rest : List UInt8) {count index : Nat}
    (inside : index < count) : (cells base count ++ rest).getD index 0 = base index := by
  have early : index < (cells base count).length := by
    rw [length_cells]
    exact inside
  rw [getD_append _ _ _ _ early, getD_eq_getElem _ _ early, getElem_cells]

theorem getD_cells_append_right (base : Nat → UInt8) (rest : List UInt8) (count index : Nat) :
    (cells base count ++ rest).getD (count + index) 0 = rest.getD index 0 := by
  have late : (cells base count).length ≤ count + index := by
    rw [length_cells]
    exact Nat.le_add_right _ _
  rw [getD_append_right _ _ _ _ late, length_cells, Nat.add_sub_cancel_left]

theorem bytes16_ofNat {number : Nat} (small : number < 2 ^ 16) :
    bytes16 (UInt16.ofNat number) = cells (digit number) 2 := by
  have same : (UInt16.ofNat number).toNat = number := by
    rw [UInt16.toNat_ofNat', Nat.mod_eq_of_lt small]
  have low : digit number 0 = UInt8.ofNat number := by
    rw [digit, Nat.pow_zero, Nat.div_one]
  have high : digit number 1 = UInt8.ofNat (number / 256) := by
    rw [digit, Nat.pow_one]
  rw [bytes16, same, ← low, ← high]
  rfl

def longRequest (trans : UInt8) (offset : UInt32) (rest : List UInt8) : List UInt8 :=
  requestBytes mmioChannel (trans :: 0 :: (cells (digit offset.toNat) 8 ++ rest))

theorem mmioTrans_longRequest {trans : UInt8}
    (long : trans = transLongRead ∨ trans = transLongWrite)
    (offset : UInt32) (rest : List UInt8) : mmioTrans (longRequest trans offset rest) = trans := by
  have first : (longRequest trans offset rest).getD headerSize 0 = trans := rfl
  rw [mmioTrans, first]
  rcases long with rfl | rfl
  · decide
  · decide

theorem ch0Addr_longRequest {trans : UInt8} {offset : UInt32} {rest : List UInt8}
    (long : addrSize (longRequest trans offset rest) = 8) :
    ch0Addr (longRequest trans offset rest) = offset.toNat := by
  rw [ch0Addr, long]
  refine load_eq_of_digit (Nat.lt_trans offset.toNat_lt (by decide)) fun index inside => ?_
  rw [Nat.zero_add]
  exact getD_cells_append _ _ inside

/-- A read whose length is not zero and has 16 bits means what it says. -/
theorem obmfMmioRead_means (offset : UInt32) {len : UInt32} (sends : Nat → SendResult)
    (positive : 0 < len.toNat) (small : len.toNat < 2 ^ 16) :
    (obmfMmioRead offset len sends).Means (AsksRead offset.toNat len.toNat) := by
  let rest := cells (digit len.toNat) 2
  let msg := longRequest transLongRead offset rest
  have trans : mmioTrans msg = transLongRead := mmioTrans_longRequest (.inl rfl) offset rest
  have long : addrSize msg = 8 := if_pos (.inl trans)
  have address : ch0Addr msg = offset.toNat := ch0Addr_longRequest long
  have size : ch0ReadSize msg = len.toNat := by
    rw [ch0ReadSize, long]
    refine load_eq_of_digit small fun index inside => ?_
    have behind : payloadByte msg (8 + index) = rest.getD index 0 :=
      getD_cells_append_right (digit offset.toNat) rest 8 index
    rw [behind, ← append_nil rest]
    exact getD_cells_append _ _ inside
  have behind : mmioPayload msg = cells (digit offset.toNat) 8 ++ rest := rfl
  have length : (mmioPayload msg).length = 8 + 2 := by
    rw [behind, length_append, length_cells, length_cells]
  have enough : ¬ (mmioPayload msg).length < addrSize msg + sizeFieldLen := by
    rw [length, long]
    decide
  refine obmfSendRequest_means sends ?_
  rw [bytes16_ofNat small]
  refine ⟨isRequest_requestBytes mmioChannel ?_, trans, ?_⟩
  · rw [length_cons, length_cons, length_append, length_cells, length_cells]
    decide
  show readParse msg = some (offset.toNat, len.toNat)
  rw [readParse, if_neg enough, size, if_neg (Nat.ne_of_gt positive), address]

/-- A write whose length is not zero and that the size in the header covers means what it says. -/
theorem obmfMmioWrite_means (offset : UInt32) {len : UInt32} (buf : Nat → UInt8) (malloc : Bool)
    (sends : Nat → SendResult) (positive : 0 < len.toNat)
    (small : mmioSubHdrSize + 8 + len.toNat < 2 ^ 16) :
    (obmfMmioWrite offset len buf malloc sends).Means
      (AsksWrite offset.toNat (cells buf len.toNat)) := by
  cases malloc with
  | false => trivial
  | true =>
    have room : ¬ 2 ^ 32 ≤ headerSize + mmioSubHdrSize + 8 + len.toNat := by
      unfold headerSize
      omega
    simp only [obmfMmioWrite, if_true, if_neg room]
    let data := cells buf len.toNat
    let msg := longRequest transLongWrite offset data
    have trans : mmioTrans msg = transLongWrite := mmioTrans_longRequest (.inr rfl) offset data
    have long : addrSize msg = 8 := if_pos (.inr trans)
    have address : ch0Addr msg = offset.toNat := ch0Addr_longRequest long
    have behind : mmioPayload msg = cells (digit offset.toNat) 8 ++ data := rfl
    have length : (mmioPayload msg).length = 8 + len.toNat := by
      rw [behind, length_append, length_cells, length_cells]
    have enough : ¬ (mmioPayload msg).length < addrSize msg + 1 := by
      omega
    have size : ch0WriteSize msg = len.toNat := by
      rw [ch0WriteSize, length, long, Nat.add_sub_cancel_left]
      exact Nat.mod_eq_of_lt (by omega)
    have carried : cells (ch0WriteData msg) len.toNat = data := by
      refine cells_congr fun index inside => ?_
      have byte : ch0WriteData msg index = data.getD index 0 := by
        rw [ch0WriteData, long, view_apply]
        exact getD_cells_append_right (digit offset.toNat) data 8 index
      rw [byte, ← append_nil data]
      exact getD_cells_append _ _ inside
    refine obmfSendRequest_means sends ⟨isRequest_requestBytes mmioChannel ?_, trans, ?_⟩
    · rw [length_cons, length_cons, length_append, length_cells, length_cells]
      unfold mmioSubHdrSize at small
      omega
    · show writeParse msg = some (offset.toNat, data)
      rw [writeParse, if_neg enough, address, size, carried]

/-- The requests of the device for port I/O and MMIO, of lengths that their fields hold, mean what
they say, and the handlers apply every write as a whole or not at all. -/
theorem io_mmio_means (port ioLen : UInt16) (ioBuf : Option (Nat → UInt8)) (fixed : Bool)
    (offset readLen writeLen : UInt32) (mmioBuf : Nat → UInt8) (malloc : Bool)
    (sends : Nat → SendResult) (io : Io.IoLocal) (mmio : MmioLocal) (ioMsg mmioMsg : List UInt8)
    (ioSmall : ioLen.toNat < 256) (readPositive : 0 < readLen.toNat)
    (readSmall : readLen.toNat < 2 ^ 16) (writePositive : 0 < writeLen.toNat)
    (writeSmall : mmioSubHdrSize + 8 + writeLen.toNat < 2 ^ 16)
    (received : mmioMsg.length ≤ fragBufSize) :
    ((Io.obmfIoWrite port ioLen ioBuf fixed malloc sends).Means fun msg =>
        Io.Asks true fixed port ioLen.toNat msg ∧
          ∀ bytes ∈ ioBuf, Io.writeData msg = cells bytes ioLen.toNat) ∧
      (Io.obmfIoRead port ioLen fixed sends).Means (Io.Asks false fixed port ioLen.toNat) ∧
      (obmfMmioRead offset readLen sends).Means (AsksRead offset.toNat readLen.toNat) ∧
      (obmfMmioWrite offset writeLen mmioBuf malloc sends).Means
        (AsksWrite offset.toNat (cells mmioBuf writeLen.toNat)) ∧
      Io.AllOrNothing io ioMsg ∧ AllOrNothing mmio mmioMsg :=
  ⟨Io.obmfIoWrite_means port ioBuf fixed malloc sends ioSmall,
    Io.obmfIoRead_means port fixed sends ioSmall,
    obmfMmioRead_means offset sends readPositive readSmall,
    obmfMmioWrite_means offset mmioBuf malloc sends writePositive writeSmall,
    Io.handleIoRequest_allOrNothing io ioMsg, handleMmioWriteReq_allOrNothing mmio received⟩

/-- Four POST codes and a byte for the UART. -/
theorem io_mmio_means_postCode :
    let io : Io.IoLocal := ⟨fun _ => 0, false, []⟩
    let mmio : MmioLocal := ⟨fun _ _ => 0, false, []⟩
    let codes : Nat → UInt8 := fun index => UInt8.ofNat (index + 1)
    let ioMsg : List UInt8 := [9, 0, 8, 0, 5, 0x80, 0, 4, 1, 2, 3, 4]
    let mmioMsg : List UInt8 := [1, 0, 7, 0, 1, 0, 0, 0, 1, 0, 0x41]
    Succeeded (Io.handleIoRequest io ioMsg).1 ∧ Succeeded (handleMmioWriteReq mmio mmioMsg).1 ∧
    ((Io.obmfIoWrite 0x80 4 (some codes) false true fun _ => .ok).Means fun msg =>
        Io.Asks true false 0x80 4 msg ∧ ∀ bytes ∈ some codes, Io.writeData msg = cells bytes 4) ∧
      (Io.obmfIoRead 0x80 4 false fun _ => .ok).Means (Io.Asks false false 0x80 4) ∧
      (obmfMmioRead 0x10000 1 fun _ => .ok).Means (AsksRead 0x10000 1) ∧
      (obmfMmioWrite 0x10000 1 codes true fun _ => .ok).Means
        (AsksWrite 0x10000 (cells codes 1)) ∧
      Io.AllOrNothing io ioMsg ∧ AllOrNothing mmio mmioMsg :=
  ⟨by decide, by decide, io_mmio_means 0x80 4 _ false 0x10000 1 1 _ true _ _ _ _ _ (by decide)
    (by decide) (by decide) (by decide) (by decide) (by decide)⟩

/-- A burst to one port leaves its last byte there. Lengths that the fields do not hold are sent
with other sizes. -/
theorem not_io_mmio_means :
    (¬ ∀ (io : Io.IoLocal) (write read : List UInt8) (access again : Io.IoAccess),
      Io.IoAccess.parse write = some access → access.trans.isWrite = true →
        Succeeded (Io.handleIoRequest io write).1 → Io.ReadsBack access read again →
          payload (Io.handleIoRequest (Io.handleIoRequest io write).2 read).1 =
            Io.ioTrans read :: (Io.writeData write).take access.size) ∧
    (¬ ∀ (port len : UInt16) (buf : Option (Nat → UInt8)) (fixed malloc : Bool)
      (sends : Nat → SendResult), (Io.obmfIoWrite port len buf fixed malloc sends).Means
        (Io.Asks true fixed port len.toNat)) ∧
    ¬ ∀ (offset len : UInt32) (sends : Nat → SendResult),
      (obmfMmioRead offset len sends).Means (AsksRead offset.toNat len.toNat) := by
  refine ⟨fun always => ?_, fun always => ?_, fun always => ?_⟩
  · let write : List UInt8 := [9, 0, 6, 0, 9, 0x80, 0, 2, 1, 2]
    let read : List UInt8 := [9, 0, 4, 0, 8, 0x80, 0, 2]
    have returned := always ⟨fun _ => 0, false, []⟩ write read ⟨.fixedWrite16, 0x80, 2⟩
      ⟨.fixedRead16, 0x80, 2⟩ (by decide) rfl (by decide)
      ⟨by decide, rfl, rfl, rfl, rfl, fun _ => by decide⟩
    exact absurd returned (by decide)
  · have asks := always 0x80 256 (some fun _ => 0) false true fun _ => .ok
    obtain ⟨trans, parsed, -⟩ := Io.Asks.parsed asks
    have refused : Io.IoAccess.parse (requestBytes ioChannel ((Io.writeTrans 256 false).code ::
        (bytes16 0x80 ++ UInt8.ofNat 256 :: cells (fun _ => 0) 256))) = none := by
      decide +kernel
    exact (some_ne_none _).symm (refused.symm.trans parsed)
  · have asks := always 0x10000 0x10000 fun _ => .ok
    exact absurd (AsksRead.parsed asks) (by decide +kernel)

end OpenBic.Obmf.Mmio
