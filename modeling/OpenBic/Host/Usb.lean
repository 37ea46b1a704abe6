import OpenBic.Library.Machine
import OpenBic.Library.Splice

/-!
# IPMI commands over USB

`handle_usb_data` and `usb_handler` of `usb.c`. A command comes in a packet, but for the command
that brings a part of a firmware image, which comes in as many packets as its length needs.
-/

namespace OpenBic.Usb

open List Library.Machine Library.Splice

/-! ## The code -/

def rxBuffSize : Nat := 64

def fwupdateHeaderSize : Nat := 12

def sizeNetfnCmd : Nat := 2

def ipmiDataMaxLength : Nat := 520

/-- `IPMI_MSG_MAX_LENGTH`, the size of `data`. -/
def ipmiMsgMaxLength : Nat := 527

/-- `NETFN_OEM_1S_REQ << 2`. -/
def netfnOem1sReq : UInt8 := (0x38 : UInt8) <<< 2

def cmdOem1sFwUpdate : UInt8 := 0x09

/-- A message that is handed on to the IPMI task, from `BMC_USB`. -/
structure UsbMsg where
  netfn : UInt8
  cmd : UInt8
  /-- The bytes of `data`. -/
  data : List UInt8
deriving DecidableEq

/-- A packet as `ring_buf_get` gives it. -/
structure UsbPacket where
  bytes : List UInt8
  begins : Bool
  nonempty : 0 < bytes.length
  fits : bytes.length ≤ rxBuffSize

/-- The buffer of `usb_handler`, the static variables of `handle_usb_data`, and the messages that
were handed on. -/
structure UsbState where
  rxBuff : Nat → UInt8
  netfn : UInt8
  cmd : UInt8
  dataLen : Nat
  data : Nat → UInt8
  fwupdateKeepData : Bool
  keepDataLen : Nat
  fwupdateDataLen : Nat
  submitted : List UsbMsg

/-- `memcpy` from the buffer into the data, of a length that is a `size_t`. Nothing is known when it
leaves one of them. -/
def UsbState.memcpy (state : UsbState) (offset source : Nat) (length : Int) :
    Option (Nat → UInt8) :=
  if 0 ≤ length ∧ offset + length ≤ ipmiMsgMaxLength ∧ source + length ≤ rxBuffSize then
    some (overwrite state.data offset length.toNat (view state.rxBuff source))
  else none

def UsbState.tryIpmiMessage (state : UsbState) : UsbState := { state with
  submitted := state.submitted ++ [⟨state.netfn, state.cmd, cells state.data state.dataLen⟩] }

def UsbState.firstPacket (state : UsbState) (rxLen : Nat) : Option UsbState := do
  let data ← state.memcpy 0 sizeNetfnCmd (rxLen - sizeNetfnCmd)
  return { state with
    netfn := state.rxBuff 0 >>> 2
    cmd := state.rxBuff 1
    dataLen := (((rxLen : Int) - sizeNetfnCmd) % 2 ^ 16).toNat
    fwupdateDataLen := (state.rxBuff 11).toNat * 256 + (state.rxBuff 10).toNat
    data
    keepDataLen := (((rxLen : Int) - fwupdateHeaderSize) % 2 ^ 16).toNat }

def UsbState.nextPacket (state : UsbState) (rxLen : Nat) : Option UsbState := do
  let recordOffset := (state.keepDataLen + fwupdateHeaderSize - sizeNetfnCmd) % 2 ^ 16
  let data ← state.memcpy recordOffset 0 rxLen
  return { state with
    data
    dataLen := (state.dataLen + rxLen) % 2 ^ 16
    keepDataLen := (state.keepDataLen + rxLen) % 2 ^ 16 }

def UsbState.endUpdate (state : UsbState) : UsbState :=
  if state.keepDataLen = state.fwupdateDataLen then
    { state.tryIpmiMessage with
      keepDataLen := 0
      fwupdateDataLen := 0
      fwupdateKeepData := false }
  else state

def UsbState.otherCommand (state : UsbState) (rxLen : Nat) : Option UsbState := do
  let dataLen : Nat := (((rxLen : Int) - sizeNetfnCmd) % 2 ^ 16).toNat
  let data ← state.memcpy 0 2 dataLen
  return UsbState.tryIpmiMessage { state with
    netfn := state.rxBuff 0 >>> 2
    cmd := state.rxBuff 1
    dataLen
    data }

/-- `handle_usb_data`, of one packet. -/
def handleUsbData (state : UsbState) (rxLen : Nat) : Option UsbState :=
  let fwupdateKeepData := state.fwupdateKeepData ||
    (state.rxBuff 0 == netfnOem1sReq && state.rxBuff 1 == cmdOem1sFwUpdate)
  let state := { state with fwupdateKeepData }
  if fwupdateKeepData then
    if ipmiDataMaxLength < state.keepDataLen + rxLen then
      some { state with
        keepDataLen := 0
        fwupdateKeepData := false }
    else if state.keepDataLen = 0 then (state.firstPacket rxLen).map UsbState.endUpdate
    else (state.nextPacket rxLen).map UsbState.endUpdate
  else state.otherCommand rxLen

/-- One turn of `usb_handler`: the packet is read into the buffer, behind which the last ones
stay. -/
def usbHandler (state : UsbState) (packet : UsbPacket) : Option UsbState :=
  handleUsbData { state with
    rxBuff := overwrite state.rxBuff 0 packet.bytes.length (packet.bytes.getD · 0) }
    packet.bytes.length

/-- The handler when it is started, with a buffer that is not cleared. -/
def UsbState.start (rxBuff : Nat → UInt8) : UsbState :=
  ⟨rxBuff, 0, 0, 0, fun _ => 0, false, 0, 0, []⟩

/-! ## What is claimed -/

def isUpdate (bytes : List UInt8) : Bool :=
  bytes.getD 0 0 == netfnOem1sReq && bytes.getD 1 0 == cmdOem1sFwUpdate

def announced (bytes : List UInt8) : Nat := (bytes.getD 11 0).toNat * 256 + (bytes.getD 10 0).toNat

def message (bytes : List UInt8) : UsbMsg :=
  ⟨bytes.getD 0 0 >>> 2, bytes.getD 1 0, bytes.drop sizeNetfnCmd⟩

/-- What has come of a command of which more may come. Nothing comes of one that is complete or
malformed. -/
abbrev Incoming := Option (List UInt8)

/-- What to do with the bytes of a command: they are a message, or more has to come, or neither. An
update is as long as it announces and fits the data; another command is in one packet. -/
def judge (bytes : List UInt8) : Incoming × List UsbMsg :=
  if isUpdate bytes then
    if bytes.length < fwupdateHeaderSize then (some bytes, [])
    else if ipmiMsgMaxLength < announced bytes + fwupdateHeaderSize - sizeNetfnCmd then (none, [])
    else if bytes.length = fwupdateHeaderSize + announced bytes then (none, [message bytes])
    else if bytes.length < fwupdateHeaderSize + announced bytes then (some bytes, [])
    else (none, [])
  else if bytes = [netfnOem1sReq] then (some bytes, [])
  else if sizeNetfnCmd ≤ bytes.length then (none, [message bytes])
  else (none, [])

def accept (incoming : Incoming) (packet : UsbPacket) : Incoming × List UsbMsg :=
  if packet.begins then judge packet.bytes
  else
    match incoming with
    | some bytes => judge (bytes ++ packet.bytes)
    | none => (none, [])

def messages : Incoming → List UsbPacket → List UsbMsg
  | _, [] => []
  | incoming, packet :: rest =>
    (accept incoming packet).2 ++ messages (accept incoming packet).1 rest

/-- Nothing is written outside the data, and what is handed on is a message for each command that is
complete, of the bytes of its packets. -/
def HandsOnRight (rxBuff : Nat → UInt8) (packets : List UsbPacket) : Prop :=
  ∃ final, run usbHandler (.start rxBuff) packets = some final ∧
    final.submitted = messages none packets

/-- A command begins when there is no data of an update, and an update then with its whole header;
and an update that does not fit the data ends with the packet that is refused. -/
def Orderly (state : UsbState) (packet : UsbPacket) : Prop :=
  if state.keepDataLen = 0 then
    packet.begins = true ∧
      if isUpdate packet.bytes then fwupdateHeaderSize ≤ packet.bytes.length
      else state.fwupdateKeepData = false ∧ sizeNetfnCmd ≤ packet.bytes.length
  else
    packet.begins = false ∧
      (state.keepDataLen + packet.bytes.length + fwupdateHeaderSize - sizeNetfnCmd ≤
          ipmiMsgMaxLength ∨
        ipmiDataMaxLength < state.keepDataLen + packet.bytes.length)

instance Orderly.decidable (state : UsbState) (packet : UsbPacket) :
    Decidable (Orderly state packet) := by
  unfold Orderly
  infer_instance

/-! ## A packet -/

section Packet

variable {state next : UsbState} {packet : UsbPacket} {bytes : List UInt8} {incoming : Incoming}

def UsbState.read (state : UsbState) (packet : UsbPacket) : UsbState := { state with
  rxBuff := overwrite state.rxBuff 0 packet.bytes.length (packet.bytes.getD · 0) }

theorem rxBuff_read (state : UsbState) (packet : UsbPacket) {index : Nat}
    (inside : index < packet.bytes.length) :
    (state.read packet).rxBuff index = packet.bytes.getD index 0 := by
  have here := @overwrite_inside _ state.rxBuff 0 packet.bytes.length index
    (packet.bytes.getD · 0) inside
  rw [Nat.zero_add] at here
  exact here

theorem cells_read (state : UsbState) (packet : UsbPacket) {skip : Nat}
    (inside : skip ≤ packet.bytes.length) :
    cells (view (state.read packet).rxBuff skip) (packet.bytes.length - skip) =
      packet.bytes.drop skip := by
  apply ext_getElem
  · rw [length_cells, length_drop]
  · intro index first second
    rw [length_cells] at first
    rw [getElem_cells, getElem_drop, view_apply, rxBuff_read state packet (by omega),
      getD_eq_getElem]

theorem isUpdate_read (state : UsbState) (packet : UsbPacket) (two : 2 ≤ packet.bytes.length) :
    ((state.read packet).rxBuff 0 == netfnOem1sReq &&
      (state.read packet).rxBuff 1 == cmdOem1sFwUpdate) = isUpdate packet.bytes := by
  rw [rxBuff_read state packet (by omega), rxBuff_read state packet (by omega)]
  rfl

theorem announced_read (state : UsbState) (packet : UsbPacket)
    (header : fwupdateHeaderSize ≤ packet.bytes.length) :
    ((state.read packet).rxBuff 11).toNat * 256 + ((state.read packet).rxBuff 10).toNat =
      announced packet.bytes := by
  unfold fwupdateHeaderSize at header
  rw [rxBuff_read state packet (by omega), rxBuff_read state packet (by omega)]
  rfl

/-- The message has the bytes of an update that come so far. -/
structure Keeps (state : UsbState) (bytes : List UInt8) : Prop where
  update : isUpdate bytes = true
  length : bytes.length = state.keepDataLen + fwupdateHeaderSize
  size : state.fwupdateDataLen = announced bytes
  netfn : state.netfn = bytes.getD 0 0 >>> 2 ∧ state.cmd = bytes.getD 1 0
  data : state.dataLen = bytes.length - sizeNetfnCmd ∧
    cells state.data state.dataLen = bytes.drop sizeNetfnCmd

/-- What the handler keeps is what comes of the command, unless the command is malformed, and then
the handler keeps on. -/
def Follows (incoming : Incoming) (state : UsbState) : Prop :=
  state.keepDataLen ≠ 0 → state.fwupdateKeepData = true ∧
    state.keepDataLen + fwupdateHeaderSize - sizeNetfnCmd ≤ ipmiMsgMaxLength ∧
    match incoming with
    | some bytes => Keeps state bytes ∧ state.keepDataLen < state.fwupdateDataLen ∧
        state.fwupdateDataLen + fwupdateHeaderSize - sizeNetfnCmd ≤ ipmiMsgMaxLength
    | none => state.fwupdateDataLen < state.keepDataLen ∨
        ipmiMsgMaxLength < state.fwupdateDataLen + fwupdateHeaderSize - sizeNetfnCmd

theorem Keeps.message (keeps : Keeps state bytes) :
    (⟨state.netfn, state.cmd, cells state.data state.dataLen⟩ : UsbMsg) = message bytes := by
  rw [keeps.netfn.1, keeps.netfn.2, keeps.data.2]
  rfl

/-- The end of a packet of an update of which all bytes are kept, as it is judged. -/
theorem Keeps.endUpdate (keeps : Keeps state bytes) (flagged : state.fwupdateKeepData = true)
    (fits : state.keepDataLen + fwupdateHeaderSize - sizeNetfnCmd ≤ ipmiMsgMaxLength) :
    state.endUpdate.submitted = state.submitted ++ (judge bytes).2 ∧
      Follows (judge bytes).1 state.endUpdate := by
  have length := keeps.length
  have header : ¬ bytes.length < fwupdateHeaderSize := by omega
  unfold judge
  rw [if_pos keeps.update, if_neg header]
  unfold UsbState.endUpdate
  rw [keeps.size]
  by_cases large : ipmiMsgMaxLength < announced bytes + fwupdateHeaderSize - sizeNetfnCmd
  · have apart : state.keepDataLen ≠ announced bytes := by omega
    rw [if_pos large, if_neg apart, append_nil]
    refine ⟨rfl, fun _ => ⟨flagged, fits, .inr ?_⟩⟩
    rw [keeps.size]
    exact large
  · rw [if_neg large]
    by_cases whole : state.keepDataLen = announced bytes
    · rw [if_pos whole, if_pos (by omega)]
      refine ⟨?_, fun kept => absurd rfl kept⟩
      unfold UsbState.tryIpmiMessage
      rw [keeps.message]
    · rw [if_neg whole, if_neg (by omega)]
      by_cases short : bytes.length < fwupdateHeaderSize + announced bytes
      · rw [if_pos short, append_nil]
        refine ⟨rfl, fun _ => ⟨flagged, fits, keeps, ?_, ?_⟩⟩
        · rw [keeps.size]
          omega
        · rw [keeps.size]
          omega
      · rw [if_neg short, append_nil]
        refine ⟨rfl, fun _ => ⟨flagged, fits, .inl ?_⟩⟩
        rw [keeps.size]
        omega

theorem first_read (state : UsbState) (packet : UsbPacket) (update : isUpdate packet.bytes = true)
    (header : fwupdateHeaderSize ≤ packet.bytes.length) :
    ∃ next, { state.read packet with fwupdateKeepData := true }.firstPacket packet.bytes.length =
        some next ∧
      Keeps next packet.bytes ∧ next.fwupdateKeepData = true ∧
      next.keepDataLen + fwupdateHeaderSize - sizeNetfnCmd ≤ ipmiMsgMaxLength ∧
      next.submitted = state.submitted := by
  have fits := packet.fits
  have copied := cells_read state packet (Nat.le_trans (by decide : sizeNetfnCmd ≤ _) header)
  have told := announced_read state packet header
  have first := rxBuff_read state packet (by unfold fwupdateHeaderSize at header; omega : 0 < _)
  have second := rxBuff_read state packet (by unfold fwupdateHeaderSize at header; omega : 1 < _)
  unfold fwupdateHeaderSize at header
  unfold rxBuffSize at fits
  have length : (((packet.bytes.length : Int) - (2 : Nat)) % 2 ^ 16).toNat =
      packet.bytes.length - 2 := by omega
  unfold UsbState.firstPacket UsbState.memcpy sizeNetfnCmd fwupdateHeaderSize ipmiMsgMaxLength
    rxBuffSize
  rw [if_pos (by omega)]
  refine ⟨_, rfl, ⟨update, ?_, told, ⟨?_, second⟩, ?_, ?_⟩, rfl, ?_, rfl⟩
  · dsimp only
    unfold fwupdateHeaderSize
    omega
  · rw [first]
  · exact length
  · have size : ((packet.bytes.length : Int) - (2 : Nat)).toNat = packet.bytes.length - 2 := by
      omega
    rw [length, size]
    have ends := cells_overwrite_end state.data 0 (packet.bytes.length - 2)
      (view (state.read packet).rxBuff 2)
    rw [Nat.zero_add, cells_zero, nil_append] at ends
    exact ends.trans copied
  · dsimp only
    omega

theorem getD_header (bytes more : List UInt8) (header : fwupdateHeaderSize ≤ bytes.length)
    {index : Nat} (early : index < fwupdateHeaderSize) :
    (bytes ++ more).getD index 0 = bytes.getD index 0 :=
  getD_append _ _ _ _ (Nat.lt_of_lt_of_le early header)

theorem isUpdate_append (bytes more : List UInt8) (header : fwupdateHeaderSize ≤ bytes.length) :
    isUpdate (bytes ++ more) = isUpdate bytes := by
  unfold isUpdate
  rw [getD_header _ _ header (by decide), getD_header _ _ header (by decide)]

theorem announced_append (bytes more : List UInt8) (header : fwupdateHeaderSize ≤ bytes.length) :
    announced (bytes ++ more) = announced bytes := by
  unfold announced
  rw [getD_header _ _ header (by decide), getD_header _ _ header (by decide)]

theorem next_read (state : UsbState) (packet : UsbPacket)
    (fits : state.keepDataLen + packet.bytes.length + fwupdateHeaderSize - sizeNetfnCmd ≤
      ipmiMsgMaxLength) :
    ∃ next, { state.read packet with fwupdateKeepData := true }.nextPacket packet.bytes.length =
        some next ∧
      (∀ bytes, Keeps state bytes → Keeps next (bytes ++ packet.bytes)) ∧
      next.keepDataLen = state.keepDataLen + packet.bytes.length ∧
      next.fwupdateDataLen = state.fwupdateDataLen ∧ next.fwupdateKeepData = true ∧
      next.submitted = state.submitted := by
  have buffer := packet.fits
  have copied := cells_read state packet (Nat.zero_le _)
  rw [view_zero, Nat.sub_zero, drop_zero] at copied
  unfold fwupdateHeaderSize sizeNetfnCmd ipmiMsgMaxLength at fits
  unfold rxBuffSize at buffer
  have offset : (state.keepDataLen + 12 - 2) % 2 ^ 16 = state.keepDataLen + 10 := by omega
  have kept : (state.keepDataLen + packet.bytes.length) % 2 ^ 16 =
      state.keepDataLen + packet.bytes.length := by omega
  unfold UsbState.nextPacket UsbState.memcpy sizeNetfnCmd fwupdateHeaderSize ipmiMsgMaxLength
    rxBuffSize
  dsimp only [UsbState.read]
  rw [offset, if_pos (by omega)]
  refine ⟨_, rfl, ?_, kept, rfl, rfl, rfl⟩
  rintro bytes ⟨update, length, size, ⟨netfn, cmd⟩, dataLen, data⟩
  have header : fwupdateHeaderSize ≤ bytes.length := by omega
  unfold fwupdateHeaderSize at length
  unfold sizeNetfnCmd at dataLen data
  have longer : (state.dataLen + packet.bytes.length) % 2 ^ 16 =
      state.dataLen + packet.bytes.length := by omega
  refine ⟨?_, ?_, ?_, ⟨?_, ?_⟩, ?_, ?_⟩
  · rw [isUpdate_append _ _ header]
    exact update
  · dsimp only
    rw [length_append, length, kept]
    unfold fwupdateHeaderSize
    omega
  · rw [announced_append _ _ header]
    exact size
  · rw [getD_header _ _ header (by decide)]
    exact netfn
  · rw [getD_header _ _ header (by decide)]
    exact cmd
  · dsimp only
    rw [longer, length_append, dataLen]
    unfold sizeNetfnCmd
    omega
  · have place : state.keepDataLen + 10 = state.dataLen := by omega
    rw [longer, place, Int.toNat_natCast, cells_overwrite_end, data, view_zero]
    unfold sizeNetfnCmd
    rw [drop_append_of_le_length (by omega)]
    exact congrArg (bytes.drop 2 ++ ·) copied

theorem other_read (state : UsbState) (packet : UsbPacket)
    (two : sizeNetfnCmd ≤ packet.bytes.length) :
    ∃ next, (state.read packet).otherCommand packet.bytes.length = some next ∧
      next.keepDataLen = state.keepDataLen ∧
      next.submitted = state.submitted ++ [message packet.bytes] := by
  have fits := packet.fits
  have copied := cells_read state packet two
  unfold sizeNetfnCmd at two
  unfold rxBuffSize at fits
  have first := rxBuff_read state packet (by omega : 0 < _)
  have second := rxBuff_read state packet (by omega : 1 < _)
  have length : (((packet.bytes.length : Int) - (2 : Nat)) % 2 ^ 16).toNat =
      packet.bytes.length - 2 := by omega
  unfold UsbState.otherCommand UsbState.memcpy sizeNetfnCmd ipmiMsgMaxLength rxBuffSize
  rw [length]
  dsimp only
  rw [if_pos (by omega)]
  refine ⟨_, rfl, rfl, ?_⟩
  have ends := cells_overwrite_end state.data 0 (packet.bytes.length - 2)
    (view (state.read packet).rxBuff 2)
  rw [Nat.zero_add, cells_zero, nil_append] at ends
  rw [Int.toNat_natCast, first, second]
  change state.submitted ++ [_] = _
  congr 2
  congr 1
  exact ends.trans copied

theorem usbHandler_update (state : UsbState) (packet : UsbPacket)
    (flagged : ((state.read packet).fwupdateKeepData ||
      ((state.read packet).rxBuff 0 == netfnOem1sReq &&
        (state.read packet).rxBuff 1 == cmdOem1sFwUpdate)) = true) :
    usbHandler state packet =
      if ipmiDataMaxLength < state.keepDataLen + packet.bytes.length then
        some { state.read packet with
          keepDataLen := 0
          fwupdateKeepData := false }
      else if state.keepDataLen = 0 then
        ({ state.read packet with fwupdateKeepData := true }.firstPacket packet.bytes.length).map
          UsbState.endUpdate
      else
        ({ state.read packet with fwupdateKeepData := true }.nextPacket packet.bytes.length).map
          UsbState.endUpdate := by
  change handleUsbData (state.read packet) packet.bytes.length = _
  unfold handleUsbData
  rw [flagged]
  rfl

theorem usbHandler_other (state : UsbState) (packet : UsbPacket)
    (quiet : ((state.read packet).fwupdateKeepData ||
      ((state.read packet).rxBuff 0 == netfnOem1sReq &&
        (state.read packet).rxBuff 1 == cmdOem1sFwUpdate)) = false) :
    usbHandler state packet =
      ({ state with fwupdateKeepData := false }.read packet).otherCommand packet.bytes.length := by
  change handleUsbData (state.read packet) packet.bytes.length = _
  unfold handleUsbData
  rw [quiet]
  rfl

theorem step_begins (begins : packet.begins = true) (empty : state.keepDataLen = 0)
    (whole : if isUpdate packet.bytes then fwupdateHeaderSize ≤ packet.bytes.length
      else state.fwupdateKeepData = false ∧ sizeNetfnCmd ≤ packet.bytes.length) :
    ∃ next, usbHandler state packet = some next ∧
      next.submitted = state.submitted ++ (accept incoming packet).2 ∧
      Follows (accept incoming packet).1 next := by
  have fits := packet.fits
  have few : ¬ ipmiDataMaxLength < state.keepDataLen + packet.bytes.length := by
    unfold rxBuffSize at fits
    unfold ipmiDataMaxLength
    omega
  have two : sizeNetfnCmd ≤ packet.bytes.length := by
    split at whole
    · exact Nat.le_trans (by decide) whole
    · exact whole.2
  unfold accept
  rw [if_pos begins]
  by_cases update : isUpdate packet.bytes = true
  · rw [if_pos update] at whole
    obtain ⟨next, first, keeps, flagged, inside, same⟩ := first_read state packet update whole
    have ends := keeps.endUpdate flagged inside
    rw [usbHandler_update state packet (by rw [isUpdate_read state packet two, update,
      Bool.or_true]), if_neg few, if_pos empty, first]
    refine ⟨next.endUpdate, rfl, ?_, ends.2⟩
    rw [ends.1, same]
  · rw [if_neg update] at whole
    obtain ⟨next, other, kept, submitted⟩ := other_read { state with fwupdateKeepData := false }
      packet two
    have quiet : ((state.read packet).fwupdateKeepData || isUpdate packet.bytes) = false := by
      rw [eq_false_of_ne_true update, Bool.or_false]
      exact whole.1
    have short : packet.bytes ≠ [netfnOem1sReq] := by
      intro same
      rw [same] at two
      exact absurd two (by decide)
    have judged : judge packet.bytes = (none, [message packet.bytes]) := by
      unfold judge
      rw [if_neg update, if_neg short, if_pos two]
    rw [usbHandler_other state packet (by rw [isUpdate_read state packet two, quiet]), judged]
    refine ⟨next, other, submitted, fun some => absurd ?_ some⟩
    rw [kept]
    exact empty

theorem Follows.step_next (follows : Follows incoming state) (goes : packet.begins = false)
    (some : state.keepDataLen ≠ 0)
    (fits : state.keepDataLen + packet.bytes.length + fwupdateHeaderSize - sizeNetfnCmd ≤
      ipmiMsgMaxLength) :
    ∃ next, usbHandler state packet = .some next ∧
      next.submitted = state.submitted ++ (accept incoming packet).2 ∧
      Follows (accept incoming packet).1 next := by
  obtain ⟨flagged, -, comes⟩ := follows some
  have few : ¬ ipmiDataMaxLength < state.keepDataLen + packet.bytes.length := by
    unfold fwupdateHeaderSize sizeNetfnCmd ipmiMsgMaxLength at fits
    unfold ipmiDataMaxLength
    omega
  obtain ⟨next, read, keeps, kept, size, still, same⟩ := next_read state packet fits
  have inside : next.keepDataLen + fwupdateHeaderSize - sizeNetfnCmd ≤ ipmiMsgMaxLength := by
    rw [kept]
    exact fits
  have flag : (state.read packet).fwupdateKeepData = true := flagged
  have handled : usbHandler state packet = .some next.endUpdate := by
    rw [usbHandler_update state packet (by rw [flag, Bool.true_or]), if_neg few, if_neg some, read]
    rfl
  refine ⟨next.endUpdate, handled, ?_⟩
  unfold accept
  rw [goes, if_neg Bool.false_ne_true]
  cases incoming with
  | some bytes =>
    obtain ⟨before, -, -⟩ := comes
    have ends := (keeps bytes before).endUpdate still inside
    rw [same] at ends
    exact ends
  | none =>
    have apart : ¬ next.keepDataLen = next.fwupdateDataLen := by
      omega
    have stays : next.endUpdate = next := if_neg apart
    rw [stays, append_nil]
    refine ⟨same, fun _ => ⟨still, inside, ?_⟩⟩
    omega

theorem Follows.step_refused (follows : Follows incoming state) (goes : packet.begins = false)
    (some : state.keepDataLen ≠ 0)
    (large : ipmiDataMaxLength < state.keepDataLen + packet.bytes.length) :
    ∃ next, usbHandler state packet = .some next ∧
      next.submitted = state.submitted ++ (accept incoming packet).2 ∧
      Follows (accept incoming packet).1 next := by
  obtain ⟨flagged, -, comes⟩ := follows some
  have flag : (state.read packet).fwupdateKeepData = true := flagged
  rw [usbHandler_update state packet (by rw [flag, Bool.true_or]), if_pos large]
  have none : (accept incoming packet).2 = [] := by
    unfold accept
    rw [goes, if_neg Bool.false_ne_true]
    cases incoming with
    | none => rfl
    | some bytes =>
      obtain ⟨before, -, small⟩ := comes
      have length := before.length
      have header : fwupdateHeaderSize ≤ bytes.length := by omega
      rw [before.size] at small
      unfold ipmiMsgMaxLength fwupdateHeaderSize sizeNetfnCmd at small
      unfold fwupdateHeaderSize at length
      unfold ipmiDataMaxLength at large
      dsimp only
      unfold judge fwupdateHeaderSize sizeNetfnCmd ipmiMsgMaxLength
      rw [isUpdate_append _ _ header, announced_append _ _ header, if_pos before.update,
        length_append, if_neg (by omega), if_neg (by omega), if_neg (by omega),
        if_neg (by omega)]
  refine ⟨_, rfl, ?_, fun some => absurd rfl some⟩
  rw [none, append_nil]
  rfl

/-- An orderly packet is taken as the protocol takes it. -/
theorem Follows.step (follows : Follows incoming state) (orderly : Orderly state packet) :
    ∃ next, usbHandler state packet = some next ∧
      next.submitted = state.submitted ++ (accept incoming packet).2 ∧
      Follows (accept incoming packet).1 next := by
  unfold Orderly at orderly
  split at orderly
  · rename_i empty
    exact step_begins orderly.1 empty orderly.2
  · rename_i some
    rcases orderly.2 with fits | large
    · exact follows.step_next orderly.1 some fits
    · exact follows.step_refused orderly.1 some large

theorem Follows.run {packets : List UsbPacket} (follows : Follows incoming state)
    (meets : Meets usbHandler Orderly state packets) :
    ∃ final, run usbHandler state packets = some final ∧
      final.submitted = state.submitted ++ messages incoming packets := by
  induction packets generalizing state incoming with
  | nil => exact ⟨state, rfl, (append_nil _).symm⟩
  | cons packet rest ih =>
    obtain ⟨next, handled, submitted, onward⟩ := follows.step meets.1
    obtain ⟨final, ran, ends⟩ := ih onward (meets.tail handled).2
    refine ⟨final, run_cons_eq_some.mpr ⟨next, handled, ran⟩, ?_⟩
    rw [ends, submitted, append_assoc, messages]

end Packet

/-- In every orderly sequence of packets nothing is written outside the data, and a message is
handed on for each command that is complete, of the bytes of its packets. -/
theorem handsOnRight_run {rxBuff : Nat → UInt8} {packets : List UsbPacket}
    (orderly : Meets usbHandler Orderly (.start rxBuff) packets) : HandsOnRight rxBuff packets := by
  have empty : Follows none (.start rxBuff) := fun some => absurd rfl some
  obtain ⟨final, ran, submitted⟩ := empty.run orderly
  exact ⟨final, ran, submitted⟩

def threeBytes : UsbPacket where
  bytes := [0xE0, 0x09, 0x15, 0xA0, 0x00, 0x00, 0, 0, 0, 0, 3, 0, 0x11]
  begins := true
  nonempty := by decide
  fits := by decide

def lastTwo : UsbPacket where
  bytes := [0x22, 0x33]
  begins := false
  nonempty := by decide
  fits := by decide

def getDeviceId : UsbPacket where
  bytes := [0x18, 0x01]
  begins := true
  nonempty := by decide
  fits := by decide

/-- A message in two packets. -/
theorem handsOnRight_threeBytes :
    HandsOnRight (fun _ => 0) [threeBytes, lastTwo, getDeviceId] ∧
      (messages none [threeBytes, lastTwo, getDeviceId]).length = 2 :=
  ⟨handsOnRight_run (by decide +kernel), by decide +kernel⟩

/-- The update is abandoned, and the command is taken for the rest of it. -/
theorem abandoned_not_handsOnRight : ¬ HandsOnRight (fun _ => 0) [threeBytes, getDeviceId] := by
  rintro ⟨final, ran, submitted⟩
  have mixed : (run usbHandler (.start fun _ => 0) [threeBytes, getDeviceId]).map
      UsbState.submitted = some [message (threeBytes.bytes ++ getDeviceId.bytes)] := by
    decide +kernel
  rw [ran] at mixed
  rw [Option.some.inj mixed] at submitted
  exact absurd submitted (by decide +kernel)

end OpenBic.Usb
