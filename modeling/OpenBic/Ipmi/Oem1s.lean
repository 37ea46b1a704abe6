import OpenBic.Ipmi.CmdHandle

/-!
# OEM requests that reach devices and other interfaces

The handlers of `oem_1s_handler.c` for JTAG, PECI, messages to other interfaces and to the BMC, and
GPIOs. A handler comes to nothing as soon as it reads a byte that was not received, an entry behind
the end of a table, or copies more into an array than it holds.
-/

namespace OpenBic.Oem1s

open List Library.Checked Library.Splice Ipmi

/-! ## The code -/

/-- `RESERVED` of `Channel_Target`, which is the size of `IPMB_inf_index_map` too. -/
def reserved : Nat := 0x71

def bmcIpmb : UInt8 := 0x02

def slot1Bic : UInt8 := 0x07

def slot3Bic : UInt8 := 0x08

def peerBmcIpmb : UInt8 := 0x1A

def pldm : UInt8 := 0x40

def mctp : UInt8 := 0x41

def netfnStorageReq : UInt8 := 0x0A

def peciGetTemp0Cmd : UInt8 := 0x01

def peciGetDibCmd : UInt8 := 0xF7

/-- The size of `tdi` and of `tdo` of a `jtag_xfer`. -/
def jtagBufferSize : Nat := 512

def globalGpioIdxKey : UInt8 := 0xFF

/-- An entry of `IPMB_config_table`. -/
structure IpmbConfig where
  channel : UInt8
  /-- `interface` is `RESERVED_IF`. -/
  reservedIf : Bool
  enableStatus : Bool

/-- What a platform has. -/
structure OemPlatform where
  /-- `IPMB_config_table`, with `MAX_IPMB_IDX` entries. -/
  ipmbConfigTable : List IpmbConfig
  jtagHwMode : Bool
  totalGpioNum : Nat
  gpioIndToNumTable : List UInt8
  /-- It has `TOTAL_GPIO_NUM` entries. -/
  tableSized : gpioIndToNumTable.length = totalGpioNum
  gpioCfg : List Bool
  cfgSized : totalGpioNum ≤ gpioCfg.length

/-- `IPMB_inf_index_map`, as `channel_index_mapping` fills it. -/
def OemPlatform.infIndexMap (platform : OemPlatform) : List Nat :=
  platform.ipmbConfigTable.zipIdx.foldl (fun map entry => map.set entry.1.channel.toNat entry.2)
    (List.replicate reserved reserved)

/-- A request, as far as its handler reads it. -/
structure OemRequest where
  bytes : List UInt8
  /-- They fit into `data` of an `ipmi_msg`. -/
  fits : bytes.length ≤ ipmiMsgMaxLength
  infSource : UInt8
  /-- `completion_code` is `CC_INVALID_IANA`. -/
  invalidIana : Bool

/-- What a shift is asked for. -/
structure JtagXfer where
  op : UInt8
  length : Nat
  tdi : List UInt8
  tdiBits : Nat
  tdoBits : Nat
  endTapState : UInt8

/-- What `ipmb_read` has from the BMC. -/
structure IpmbResponse where
  completionCode : UInt8
  data : List UInt8
  /-- `ipmb_decode` takes its length from one byte. -/
  short : data.length < 2 ^ 8

/-- How memory, the devices and the other interfaces answer. -/
structure OemAnswers where
  /-- There is memory for `xfer`, or for `bridge_msg`. -/
  malloc : Bool
  /-- There is memory for `readBuf` and for `writeBuf`. -/
  mallocPeci : Bool
  jtag : Option (JtagXfer → Nat → UInt8)
  peciPing : UInt8
  /-- What `peci_write` reads. -/
  peciWrite : Option (Nat → UInt8)
  /-- `pal_extend_msg_out_interface_handler` takes the request. -/
  extendMsgOut : Bool
  /-- `ipmb_send_request` is successful. -/
  ipmbSendRequest : Bool
  ipmbRead : Option IpmbResponse
  gpioGet : UInt8 → UInt8
  gpioGetDirection : UInt8 → UInt8

/-- A request that is sent to another interface. -/
structure BridgeRequest where
  infTarget : UInt8
  netfn : UInt8
  cmd : UInt8
  data : List UInt8

/-- What a handler leaves. -/
structure OemReply where
  completionCode : CompletionCode
  dataLen : Nat
  /-- The bytes that it put into `data`. -/
  produced : List UInt8
  sent : Option BridgeRequest

def OemRequest.complete (request : OemRequest) (completionCode : CompletionCode) : OemReply :=
  ⟨completionCode, request.bytes.length, [], none⟩

/-- Bytes are put into `data`, and they are the reply. -/
def replied (bytes : List UInt8) (sent : Option BridgeRequest) : Option OemReply := do
  let produced ← fitting ipmiMsgMaxLength bytes
  some ⟨.success, produced.length, produced, sent⟩

def bytesFor (bits : Nat) : Nat := (bits + 7) / 8

/-- An array that is all zero but for the bytes that are copied to its front. -/
def zeroed (size : Nat) (bytes : List UInt8) : Option (List UInt8) := do
  let copied ← fitting size bytes
  some (copied ++ List.replicate (size - copied.length) 0)

/-- `jtag_shift_data`, without the hardware mode: bit by bit. -/
def JtagXfer.shift (xfer : JtagXfer) (answers : OemAnswers) : Option (List UInt8) :=
  match answers.jtag with
  | none => some (List.replicate jtagBufferSize 0)
  | some device =>
    if bytesFor xfer.tdiBits ≤ jtagBufferSize ∧ bytesFor xfer.tdoBits ≤ jtagBufferSize then
      some (cells (device xfer) jtagBufferSize)
    else none

/-- `jtag_shift_data`, in hardware mode: the operations are `JTAG_OP_IR` and `JTAG_OP_DR`. -/
def JtagXfer.scan (xfer : JtagXfer) (answers : OemAnswers) : Option (List UInt8) :=
  match answers.jtag with
  | none => some (List.replicate jtagBufferSize 0)
  | some device =>
    if xfer.op = 0 ∨ xfer.op = 1 then
      if bytesFor xfer.length ≤ jtagBufferSize then some (cells (device xfer) jtagBufferSize)
      else none
    else some (List.replicate jtagBufferSize 0)

/-- `OEM_1S_JTAG_DATA_SHIFT`, without the hardware mode, behind the check of the length. -/
def shiftSw (answers : OemAnswers) (request : OemRequest) (writebitlen readbitlen : Nat)
    (endTapState : UInt8) : Option OemReply := do
  let data ← rangeAt request.bytes 2 (bytesFor writebitlen)
  let tdi ← zeroed jtagBufferSize data
  let tdo ← JtagXfer.shift ⟨0, 0, tdi, writebitlen, readbitlen, endTapState⟩ answers
  let out ← rangeAt tdo 0 (bytesFor readbitlen)
  replied out none

/-- `OEM_1S_JTAG_DATA_SHIFT`, without the hardware mode. -/
def jtagDataShiftSw (answers : OemAnswers) (request : OemRequest) : Option OemReply :=
  if !answers.malloc then some (request.complete .outOfSpace)
  else do
    let writebitlen ← fieldAt request.bytes 0 2
    let tdiBytes := bytesFor writebitlen
    let readbitlen ← fieldAt request.bytes (2 + tdiBytes) 2
    let endTapState ← byteAt request.bytes (4 + tdiBytes)
    if request.bytes.length ≠ 5 + tdiBytes then some (request.complete .invalidLength)
    else shiftSw answers request writebitlen readbitlen endTapState

/-- `OEM_1S_JTAG_DATA_SHIFT`, in hardware mode, behind the check of the length. -/
def shiftHw (answers : OemAnswers) (request : OemRequest) (op : UInt8) (length : Nat)
    (endTapState : UInt8) : Option OemReply := do
  let data ← rangeAt request.bytes 3 (bytesFor length)
  let tdi ← zeroed jtagBufferSize data
  let tdo ← JtagXfer.scan ⟨op, length, tdi, 0, 0, endTapState⟩ answers
  let out ← rangeAt tdo 0 (bytesFor length)
  replied out none

/-- `OEM_1S_JTAG_DATA_SHIFT`, in hardware mode. -/
def jtagDataShiftHw (answers : OemAnswers) (request : OemRequest) : Option OemReply :=
  if !answers.malloc then some (request.complete .outOfSpace)
  else do
    let op ← byteAt request.bytes 0
    let length ← fieldAt request.bytes 1 2
    let tdiBytes := bytesFor length
    let endTapState ← byteAt request.bytes (3 + tdiBytes)
    let _pretck ← byteAt request.bytes (4 + tdiBytes)
    let _posttck ← byteAt request.bytes (5 + tdiBytes)
    let _xferStatus ← byteAt request.bytes (6 + tdiBytes)
    if request.bytes.length ≠ 7 + tdiBytes then some (request.complete .invalidLength)
    else shiftHw answers request op length endTapState

def peciAccess (answers : OemAnswers) (request : OemRequest) : Option OemReply :=
  let length := request.bytes.length
  if length < 3 then some (request.complete .invalidLength)
  else do
    let _addr ← byteAt request.bytes 0
    let writeLen ← byteAt request.bytes 1
    let readLen ← byteAt request.bytes 2
    let cmd ← byteAt request.bytes 3
    if length - 3 ≠ writeLen.toNat ∧ length - 3 + 1 ≠ writeLen.toNat then
      some (request.complete .invalidLength)
    else if length = 3 then
      if writeLen = 0 ∧ readLen = 0 then replied [answers.peciPing] none
      else some (request.complete .invalidLength)
    else if !answers.mallocPeci then some (request.complete .outOfSpace)
    else do
      let readBufSize := if cmd = peciGetDibCmd ∨ cmd = peciGetTemp0Cmd then readLen.toNat + 1
        else readLen.toNat
      let data ← rangeAt request.bytes 4 writeLen.toNat
      let _writeBuf ← fitting writeLen.toNat data
      match answers.peciWrite with
      | none => some (request.complete .unspecifiedError)
      | some read => do
        let readBuf ← fitting readBufSize (cells read readLen.toNat)
        replied readBuf none

def OemPlatform.blocked (platform : OemPlatform) (target : UInt8) : Option Bool := do
  let index ← platform.infIndexMap[target.toNat]?
  if index = reserved then some true
  else do
    let config ← platform.ipmbConfigTable[index]?
    some (config.reservedIf || !config.enableStatus)

def OemPlatform.send (platform : OemPlatform) (target : UInt8) : Option IpmbConfig := do
  let index ← platform.infIndexMap[target.toNat]?
  platform.ipmbConfigTable[index]?

def OemRequest.target (request : OemRequest) (asked : UInt8) (completionCode : CompletionCode) :
    UInt8 × CompletionCode :=
  if asked = peerBmcIpmb then
    if request.infSource = slot1Bic then (slot3Bic, completionCode)
    else if request.infSource = slot3Bic then (slot1Bic, completionCode)
    else (asked, .invalidDataField)
  else (asked, completionCode)

/-- The completion code that `OEM_1S_MSG_OUT` begins with. -/
def OemRequest.begun (request : OemRequest) : CompletionCode :=
  if request.bytes.length ≤ 2 then .invalidLength
  else if request.invalidIana then .invalidIana
  else .success

def OemRequest.bridge (request : OemRequest) (platform : OemPlatform) (answers : OemAnswers)
    (asked target : UInt8) (completionCode : CompletionCode) :
    Option (CompletionCode × Option BridgeRequest) :=
  if completionCode ≠ .success then some (completionCode, none)
  else if !answers.malloc then some (.outOfSpace, none)
  else do
    let netfn ← byteAt request.bytes 1
    let netfn := if asked = peerBmcIpmb ∧ netfn = netfnStorageReq then netfn <<< 2 else netfn
    let cmd ← byteAt request.bytes 2
    let data ← rangeAt request.bytes 3 (request.bytes.length - 3)
    let data ← fitting ipmiMsgMaxLength data
    let _config ← platform.send target
    if answers.ipmbSendRequest then
      some (.success, some ⟨target, netfn >>> 2, cmd, data⟩)
    else some (.bridgeMsgErr, none)

def OemRequest.answerBridge (request : OemRequest) (platform : OemPlatform)
    (completionCode : CompletionCode) (sent : Option BridgeRequest) : Option OemReply :=
  if completionCode = .success then some ⟨.success, 0, [], sent⟩
  else if request.infSource = pldm ∨ request.infSource = mctp then
    some ⟨completionCode, 0, [], none⟩
  else do
    let _config ← platform.send request.infSource
    some ⟨completionCode, 0, [], none⟩

def msgOut (platform : OemPlatform) (answers : OemAnswers) (request : OemRequest) :
    Option OemReply :=
  if platform.ipmbConfigTable = [] then some (request.complete .unspecifiedError)
  else do
    let asked ← byteAt request.bytes 0
    let routed := request.target asked request.begun
    let _netfn ← (if asked = peerBmcIpmb then byteAt request.bytes 1 else some 0)
    let blocked ← platform.blocked routed.1
    if blocked && answers.extendMsgOut then some ⟨routed.2, 0, [], none⟩
    else do
      let bridged ← request.bridge platform answers asked routed.1
        (if blocked then .notSuppInCurrState else routed.2)
      request.answerBridge platform bridged.1 bridged.2

def bmcIpmbAccess (platform : OemPlatform) (answers : OemAnswers) (request : OemRequest) :
    Option OemReply :=
  if platform.ipmbConfigTable = [] then some (request.complete .unspecifiedError)
  else if request.bytes.length < 2 then some (request.complete .invalidLength)
  else do
    let blocked ← platform.blocked bmcIpmb
    if blocked then some (request.complete .notSuppInCurrState)
    else do
      let netfn ← byteAt request.bytes 0
      let cmd ← byteAt request.bytes 1
      let data ← rangeAt request.bytes 2 (request.bytes.length - 2)
      let data ← fitting ipmiMsgMaxLength data
      let _config ← platform.send bmcIpmb
      match answers.ipmbRead with
      | none => some (request.complete .unspecifiedError)
      | some response =>
        replied (response.completionCode :: response.data) (some ⟨bmcIpmb, netfn, cmd, data⟩)

/-- The switch of `gpio_idx_exchange`: the length, and whether the index is to be exchanged. -/
def gpioNeedChange (request : OemRequest) : Option (Nat × Bool) := do
  let length := request.bytes.length
  let option ← byteAt request.bytes 0
  if (option = 0 ∨ option = 2) ∧ length = 3 then
    let key ← byteAt request.bytes 2
    some (length - 1, key != globalGpioIdxKey)
  else if (option = 1 ∨ option = 3) ∧ length = 4 then
    let key ← byteAt request.bytes 3
    some (length - 1, key != globalGpioIdxKey)
  else some (length, true)

/-- What `gpio_idx_exchange` leaves: the length and the number of the GPIO, or an error. -/
def gpioIdxExchange (platform : OemPlatform) (request : OemRequest) :
    Option (Option (Nat × UInt8)) :=
  if request.bytes.length < 2 then some none
  else do
    let (length, needChange) ← gpioNeedChange request
    let index ← byteAt request.bytes 1
    if needChange then do
      let number ← platform.gpioIndToNumTable[index.toNat]?
      some (some (length, number))
    else some (some (length, index))

/-- What `OEM_1S_GET_SET_GPIO` does with a GPIO, by its options. -/
def gpioOption (answers : OemAnswers) (request : OemRequest) (length : Nat)
    (number : UInt8) : Option OemReply := do
  let option ← byteAt request.bytes 0
  if option = 0 then
    if length = 2 then replied [number, answers.gpioGet number] none
    else some ⟨.invalidLength, 0, [], none⟩
  else if option = 1 then
    if length = 3 then do
      let _value ← byteAt request.bytes 2
      replied [number, answers.gpioGet number] none
    else some ⟨.invalidLength, 0, [], none⟩
  else if option = 2 then
    if length = 2 then replied [number, answers.gpioGetDirection number] none
    else some ⟨.invalidLength, 0, [], none⟩
  else if option = 3 then
    if length = 3 then do
      let direction ← byteAt request.bytes 2
      replied [number, direction] none
    else some ⟨.invalidLength, 0, [], none⟩
  -- the completion code is the one that `ipmi_cmd_handle` begins with
  else some ⟨.invalidCmd, length, [], none⟩

def getSetGpio (platform : OemPlatform) (answers : OemAnswers) (request : OemRequest) :
    Option OemReply := do
  match ← gpioIdxExchange platform request with
  | none => some ⟨.paramOutOfRange, 0, [], none⟩
  | some (length, number) =>
    if platform.totalGpioNum ≤ number.toNat then some ⟨.invalidLength, 0, [], none⟩
    else do
      let isInit ← platform.gpioCfg[number.toNat]?
      if !isInit then some ⟨.invalidDataField, 0, [], none⟩
      else gpioOption answers request length number

/-- The commands that take a length from the request. -/
inductive OemCommand where
  | jtagDataShift
  | peciAccess
  | msgOut
  | bmcIpmbAccess
  | getSetGpio

def handle (platform : OemPlatform) (answers : OemAnswers) (request : OemRequest) :
    OemCommand → Option OemReply
  | .jtagDataShift =>
    if platform.jtagHwMode then jtagDataShiftHw answers request
    else jtagDataShiftSw answers request
  | .peciAccess => Oem1s.peciAccess answers request
  | .msgOut => Oem1s.msgOut platform answers request
  | .bmcIpmbAccess => Oem1s.bmcIpmbAccess platform answers request
  | .getSetGpio => Oem1s.getSetGpio platform answers request

/-! ## What is claimed -/

/-- The reply is no longer than what was produced; without success it has no data. -/
def OemReply.Fits (reply : OemReply) : Prop :=
  reply.completionCode = .success → reply.dataLen ≤ reply.produced.length

/-- A request is handled without reading what was not received or is not in a table and without
copying more into an array than it holds, and its reply is what was produced. -/
def Honest (platform : OemPlatform) (answers : OemAnswers) (request : OemRequest)
    (command : OemCommand) : Prop :=
  Returns (handle platform answers request command) OemReply.Fits

def OemRequest.byte (request : OemRequest) (index : Nat) : UInt8 := request.bytes.getD index 0

def OemRequest.word (request : OemRequest) (index : Nat) : Nat :=
  Library.Field.load request.byte index 2

/-- A message does not go out. -/
def OemRequest.Unsent (platform : OemPlatform) (answers : OemAnswers) (request : OemRequest)
    (target : UInt8) : Prop :=
  request.begun ≠ .success ∨
    (request.byte 0 = peerBmcIpmb ∧ request.infSource ≠ slot1Bic ∧
      request.infSource ≠ slot3Bic) ∨
    platform.blocked target = some true ∨ answers.malloc = false ∨ answers.ipmbSendRequest = false

/-- A request for a pin of the platform that carries the key. -/
def OemRequest.Keyed (request : OemRequest) : Prop :=
  ((request.byte 0 = 0 ∨ request.byte 0 = 2) ∧ request.bytes.length = 3 ∧
    request.byte 2 = globalGpioIdxKey) ∨
  ((request.byte 0 = 1 ∨ request.byte 0 = 3) ∧ request.bytes.length = 4 ∧
    request.byte 3 = globalGpioIdxKey)

/-- The lengths and the indices of a request are within their bounds. -/
def Bounded (platform : OemPlatform) (answers : OemAnswers) (request : OemRequest) :
    OemCommand → Prop
  | .jtagDataShift => answers.malloc = true →
    if platform.jtagHwMode then
      let tdiBytes := bytesFor (request.word 1)
      7 + tdiBytes ≤ request.bytes.length ∧
        (request.bytes.length = 7 + tdiBytes → tdiBytes ≤ jtagBufferSize)
    else
      let tdiBytes := bytesFor (request.word 0)
      5 + tdiBytes ≤ request.bytes.length ∧
        (request.bytes.length = 5 + tdiBytes → tdiBytes ≤ jtagBufferSize ∧
          bytesFor (request.word (2 + tdiBytes)) ≤ jtagBufferSize)
  | .peciAccess => request.bytes.length < 3 ∨ (3 < request.bytes.length ∧
    (answers.mallocPeci = true → request.bytes.length - 3 ≠ (request.byte 1).toNat ∧
      request.bytes.length - 3 + 1 ≠ (request.byte 1).toNat))
  | .msgOut => platform.ipmbConfigTable ≠ [] →
    let target := (request.target (request.byte 0) .success).1
    0 < request.bytes.length ∧ (request.byte 0 = peerBmcIpmb → 1 < request.bytes.length) ∧
      target.toNat < reserved ∧
      (request.Unsent platform answers target →
        ¬ (platform.blocked target = some true ∧ answers.extendMsgOut = true) →
        request.infSource = pldm ∨ request.infSource = mctp ∨
          (platform.send request.infSource).isSome)
  | .bmcIpmbAccess => True
  | .getSetGpio => 2 ≤ request.bytes.length → ¬ request.Keyed →
    (request.byte 1).toNat < platform.totalGpioNum

/-! ## The tables -/

section Tables

variable {platform : OemPlatform} {target : UInt8}

theorem infIndexMap_spec (platform : OemPlatform) :
    platform.infIndexMap.length = reserved ∧
      ∀ index ∈ platform.infIndexMap,
        index = reserved ∨ index < platform.ipmbConfigTable.length := by
  unfold OemPlatform.infIndexMap
  have listed : ∀ entry ∈ platform.ipmbConfigTable.zipIdx,
      entry.2 < platform.ipmbConfigTable.length := by
    intro entry here
    exact snd_lt_of_mem_zipIdx here
  generalize platform.ipmbConfigTable.zipIdx = entries at listed ⊢
  suffices kept : ∀ map : List Nat, map.length = reserved →
      (∀ index ∈ map, index = reserved ∨ index < platform.ipmbConfigTable.length) →
      (entries.foldl (fun map entry => map.set entry.1.channel.toNat entry.2) map).length =
          reserved ∧
        ∀ index ∈ entries.foldl (fun map entry => map.set entry.1.channel.toNat entry.2) map,
          index = reserved ∨ index < platform.ipmbConfigTable.length from
    kept _ length_replicate fun index here => .inl (eq_of_mem_replicate here)
  induction entries with
  | nil => exact fun map sized valid => ⟨sized, valid⟩
  | cons entry rest ih =>
    intro map sized valid
    apply ih (fun other here => listed other (mem_cons_of_mem _ here))
    · rw [length_set, sized]
    · intro index here
      rcases mem_or_eq_of_mem_set here with earlier | rfl
      · exact valid index earlier
      · exact .inr (listed entry mem_cons_self)

theorem blocked_some (inside : target.toNat < reserved) :
    ∃ blocked, platform.blocked target = some blocked ∧
      (blocked = false → (platform.send target).isSome) := by
  obtain ⟨sized, valid⟩ := infIndexMap_spec platform
  obtain ⟨index, here⟩ : ∃ index, platform.infIndexMap[target.toNat]? = some index :=
    ⟨_, getElem?_eq_getElem (sized ▸ inside)⟩
  have entry := valid index (mem_of_getElem? here)
  unfold OemPlatform.blocked OemPlatform.send
  rw [here]
  by_cases none : index = reserved
  · refine ⟨true, ?_, nofun⟩
    exact if_pos none
  · obtain ⟨config, row⟩ : ∃ config, platform.ipmbConfigTable[index]? = some config :=
      ⟨_, getElem?_eq_getElem (entry.resolve_left none)⟩
    refine ⟨config.reservedIf || !config.enableStatus, ?_, fun _ => ?_⟩
    · refine (if_neg none).trans ?_
      rw [row]
      rfl
    · exact Option.isSome_iff_exists.mpr ⟨config, row⟩

theorem lt_of_blocked {blocked : Bool} (found : platform.blocked target = some blocked) :
    target.toNat < reserved := by
  obtain ⟨index, here, -⟩ := Option.bind_eq_some_iff.mp found
  rw [← (infIndexMap_spec platform).1]
  exact (List.getElem?_eq_some_iff.mp here).1

end Tables

/-! ## The handlers -/

section Handlers

variable {platform : OemPlatform} {answers : OemAnswers} {request : OemRequest}

theorem returns_complete (request : OemRequest) {completionCode : CompletionCode}
    (error : completionCode ≠ .success) :
    Returns (some (request.complete completionCode)) OemReply.Fits :=
  .intro fun success => absurd success error

theorem byteAt_byte {index : Nat} (inside : index < request.bytes.length) :
    byteAt request.bytes index = some (request.byte index) := byteAt_eq inside

theorem returns_byte_iff {index : Nat} {next : UInt8 → Option OemReply} :
    Returns (byteAt request.bytes index >>= next) OemReply.Fits ↔
      index < request.bytes.length ∧ Returns (next (request.byte index)) OemReply.Fits :=
  returns_byteAt_iff

theorem returns_word_iff {index : Nat} {next : Nat → Option OemReply} :
    Returns (fieldAt request.bytes index 2 >>= next) OemReply.Fits ↔
      index + 2 ≤ request.bytes.length ∧ Returns (next (request.word index)) OemReply.Fits :=
  returns_fieldAt_iff

theorem returns_replied_iff {bytes : List UInt8} {sent : Option BridgeRequest} :
    Returns (replied bytes sent) OemReply.Fits ↔ bytes.length ≤ ipmiMsgMaxLength := by
  unfold replied
  rw [returns_fitting_iff]
  refine and_iff_left_of_imp fun _ => ?_
  exact .intro fun _ => le_rfl

theorem returns_zeroed_iff {size : Nat} {bytes : List UInt8} {β : Type}
    {next : List UInt8 → Option β} {post : β → Prop} :
    Returns (zeroed size bytes >>= next) post ↔ bytes.length ≤ size ∧
      Returns (next (bytes ++ List.replicate (size - bytes.length) 0)) post := by
  unfold zeroed
  rw [bind_assoc, returns_fitting_iff]
  exact Iff.rfl

theorem shift_some (xfer : JtagXfer) (answers : OemAnswers)
    (tdi : bytesFor xfer.tdiBits ≤ jtagBufferSize) :
    (∃ tdo, xfer.shift answers = some tdo ∧ tdo.length = jtagBufferSize) ∨
      (xfer.shift answers = none ∧ jtagBufferSize < bytesFor xfer.tdoBits) := by
  unfold JtagXfer.shift
  cases answers.jtag with
  | none => exact .inl ⟨_, rfl, length_replicate⟩
  | some device =>
    by_cases tdo : bytesFor xfer.tdoBits ≤ jtagBufferSize
    · exact .inl ⟨_, if_pos ⟨tdi, tdo⟩, length_cells _ _⟩
    · exact .inr ⟨if_neg fun both => tdo both.2, Nat.not_le.mp tdo⟩

theorem scan_some (xfer : JtagXfer) (answers : OemAnswers)
    (fits : bytesFor xfer.length ≤ jtagBufferSize) :
    ∃ tdo, xfer.scan answers = some tdo ∧ tdo.length = jtagBufferSize := by
  unfold JtagXfer.scan
  cases answers.jtag with
  | none => exact ⟨_, rfl, length_replicate⟩
  | some device =>
    dsimp only
    split
    · exact ⟨_, rfl, length_cells _ _⟩
    · exact ⟨_, rfl, length_replicate⟩

theorem length_shifted {start bits : Nat} (inside : start + bytesFor bits ≤ request.bytes.length) :
    ((request.bytes.drop start).take (bytesFor bits)).length = bytesFor bits := by
  rw [length_take, length_drop]
  omega

theorem shiftSw_iff {writebitlen readbitlen : Nat} (endTapState : UInt8)
    (inside : 2 + bytesFor writebitlen ≤ request.bytes.length) :
    Returns (shiftSw answers request writebitlen readbitlen endTapState) OemReply.Fits ↔
      bytesFor writebitlen ≤ jtagBufferSize ∧ bytesFor readbitlen ≤ jtagBufferSize := by
  unfold shiftSw
  rw [returns_rangeAt_iff, returns_zeroed_iff, length_shifted inside, returns_bind_iff]
  constructor
  · rintro ⟨-, few, tdo, shifted, returns⟩
    refine ⟨few, ?_⟩
    rcases shift_some ⟨0, 0, _, writebitlen, readbitlen, endTapState⟩ answers few with
      ⟨same, here, sized⟩ | ⟨none, -⟩
    · cases here.symm.trans shifted
      have read := (returns_rangeAt_iff.mp returns).1
      rw [sized, Nat.zero_add] at read
      exact read
    · cases none.symm.trans shifted
  · rintro ⟨few, fewOut⟩
    refine ⟨inside, few, ?_⟩
    rcases shift_some ⟨0, 0, _, writebitlen, readbitlen, endTapState⟩ answers few with
      ⟨tdo, here, sized⟩ | ⟨-, many⟩
    · refine ⟨tdo, here, ?_⟩
      rw [returns_rangeAt_iff, returns_replied_iff, sized, Nat.zero_add]
      refine ⟨fewOut, ?_⟩
      have size : jtagBufferSize ≤ ipmiMsgMaxLength := by decide
      exact Nat.le_trans (length_take_le _ _) (Nat.le_trans fewOut size)
    · exact absurd fewOut (Nat.not_le.mpr many)

theorem jtagDataShiftSw_iff (memory : answers.malloc = true) :
    Returns (jtagDataShiftSw answers request) OemReply.Fits ↔
      5 + bytesFor (request.word 0) ≤ request.bytes.length ∧
        (request.bytes.length = 5 + bytesFor (request.word 0) →
          bytesFor (request.word 0) ≤ jtagBufferSize ∧
            bytesFor (request.word (2 + bytesFor (request.word 0))) ≤ jtagBufferSize) := by
  unfold jtagDataShiftSw
  rw [memory, Bool.not_true, if_neg Bool.false_ne_true, returns_word_iff]
  rw [returns_word_iff, returns_byte_iff]
  by_cases whole : request.bytes.length = 5 + bytesFor (request.word 0)
  · rw [if_neg (not_not.mpr whole), shiftSw_iff _ (by omega)]
    constructor
    · rintro ⟨-, -, -, fits⟩
      exact ⟨by omega, fun _ => fits⟩
    · rintro ⟨-, fits⟩
      exact ⟨by omega, by omega, by omega, fits whole⟩
  · rw [if_pos whole]
    constructor
    · rintro ⟨-, -, long, -⟩
      exact ⟨by omega, fun same => absurd same whole⟩
    · rintro ⟨long, -⟩
      exact ⟨by omega, by omega, by omega, returns_complete request nofun⟩

theorem shiftHw_iff (op : UInt8) {length : Nat} (endTapState : UInt8)
    (inside : 3 + bytesFor length ≤ request.bytes.length) :
    Returns (shiftHw answers request op length endTapState) OemReply.Fits ↔
      bytesFor length ≤ jtagBufferSize := by
  unfold shiftHw
  rw [returns_rangeAt_iff, returns_zeroed_iff, length_shifted inside, returns_bind_iff]
  refine ⟨fun returns => returns.2.1, fun few => ⟨inside, few, ?_⟩⟩
  obtain ⟨tdo, here, sized⟩ := scan_some ⟨op, length, _, 0, 0, endTapState⟩ answers few
  refine ⟨tdo, here, ?_⟩
  rw [returns_rangeAt_iff, returns_replied_iff, sized, Nat.zero_add]
  refine ⟨few, ?_⟩
  have size : jtagBufferSize ≤ ipmiMsgMaxLength := by decide
  exact Nat.le_trans (length_take_le _ _) (Nat.le_trans few size)

theorem jtagDataShiftHw_iff (memory : answers.malloc = true) :
    Returns (jtagDataShiftHw answers request) OemReply.Fits ↔
      7 + bytesFor (request.word 1) ≤ request.bytes.length ∧
        (request.bytes.length = 7 + bytesFor (request.word 1) →
          bytesFor (request.word 1) ≤ jtagBufferSize) := by
  unfold jtagDataShiftHw
  rw [memory, Bool.not_true, if_neg Bool.false_ne_true, returns_byte_iff, returns_word_iff]
  rw [returns_byte_iff, returns_byte_iff, returns_byte_iff, returns_byte_iff]
  by_cases whole : request.bytes.length = 7 + bytesFor (request.word 1)
  · rw [if_neg (not_not.mpr whole), shiftHw_iff _ _ (by omega)]
    constructor
    · rintro ⟨-, -, -, -, -, -, fits⟩
      exact ⟨by omega, fun _ => fits⟩
    · rintro ⟨-, fits⟩
      exact ⟨by omega, by omega, by omega, by omega, by omega, by omega, fits whole⟩
  · rw [if_pos whole]
    constructor
    · rintro ⟨-, -, -, -, -, long, -⟩
      exact ⟨by omega, fun same => absurd same whole⟩
    · rintro ⟨long, -⟩
      exact ⟨by omega, by omega, by omega, by omega, by omega, by omega,
        returns_complete request nofun⟩

theorem peciAccess_iff :
    Returns (peciAccess answers request) OemReply.Fits ↔
      request.bytes.length < 3 ∨ (3 < request.bytes.length ∧
        (answers.mallocPeci = true → request.bytes.length - 3 ≠ (request.byte 1).toNat ∧
          request.bytes.length - 3 + 1 ≠ (request.byte 1).toNat)) := by
  unfold peciAccess
  by_cases short : request.bytes.length < 3
  · rw [if_pos short]
    exact iff_of_true (returns_complete request nofun) (.inl short)
  · rw [if_neg short, returns_byte_iff, returns_byte_iff, returns_byte_iff, returns_byte_iff]
    by_cases mismatch : request.bytes.length - 3 ≠ (request.byte 1).toNat ∧
        request.bytes.length - 3 + 1 ≠ (request.byte 1).toNat
    · rw [if_pos mismatch]
      constructor
      · rintro ⟨-, -, -, long, -⟩
        exact .inr ⟨long, fun _ => mismatch⟩
      · rintro (few | ⟨long, -⟩)
        · exact absurd few short
        · exact ⟨by omega, by omega, by omega, long, returns_complete request nofun⟩
    · rw [if_neg mismatch]
      constructor
      · rintro ⟨-, -, -, long, returns⟩
        refine .inr ⟨long, fun memory => ?_⟩
        rw [if_neg (by omega), memory, Bool.not_true, if_neg Bool.false_ne_true,
          returns_rangeAt_iff] at returns
        -- as many bytes are copied as PECI writes, and one of these is the command
        omega
      · rintro (few | ⟨long, memory⟩)
        · exact absurd few short
        · have none : answers.mallocPeci = false :=
            Bool.eq_false_iff.mpr fun some => mismatch (memory some)
          refine ⟨by omega, by omega, by omega, long, ?_⟩
          rw [if_neg (by omega), none, Bool.not_false, if_pos rfl]
          exact returns_complete request nofun

theorem bmcIpmbAccess_returns (platform : OemPlatform) (answers : OemAnswers)
    (request : OemRequest) :
    Returns (bmcIpmbAccess platform answers request) OemReply.Fits := by
  unfold bmcIpmbAccess
  split
  · exact returns_complete request nofun
  · split
    · exact returns_complete request nofun
    next short =>
      obtain ⟨blocked, here, sends⟩ := @blocked_some platform bmcIpmb (by decide)
      rw [here]
      change Returns (if blocked = true then _ else _) _
      cases blocked with
      | true => exact returns_complete request nofun
      | false =>
        obtain ⟨config, listed⟩ := Option.isSome_iff_exists.mp (sends rfl)
        rw [if_neg Bool.false_ne_true, returns_byte_iff, returns_byte_iff,
          returns_rangeAt_iff, returns_fitting_iff, listed]
        refine ⟨by omega, by omega, by omega, ?_, ?_⟩
        · exact Nat.le_trans (length_take_le _ _) (Nat.le_trans (Nat.sub_le _ _) request.fits)
        · change Returns (match answers.ipmbRead with | none => _ | some response => _) _
          cases answers.ipmbRead with
          | none => exact returns_complete request nofun
          | some response =>
            apply returns_replied_iff.mpr
            have size : 2 ^ 8 ≤ ipmiMsgMaxLength := by decide
            exact Nat.le_trans response.short size

/-- The switch for a request that has an index. -/
theorem gpioNeedChange_some (two : 2 ≤ request.bytes.length) :
    ∃ length needChange, gpioNeedChange request = some (length, needChange) ∧
      length ≤ request.bytes.length ∧ (needChange = false ↔ request.Keyed) := by
  unfold gpioNeedChange OemRequest.Keyed
  rw [byteAt_byte (Nat.lt_of_lt_of_le Nat.zero_lt_two two), Option.bind_eq_bind, Option.bind_some]
  by_cases get : (request.byte 0 = 0 ∨ request.byte 0 = 2) ∧ request.bytes.length = 3
  · rw [if_pos get, byteAt_byte (by omega)]
    refine ⟨_, _, rfl, Nat.sub_le _ _, ?_⟩
    rw [bne_eq_false_iff_eq]
    constructor
    · exact fun key => .inl ⟨get.1, get.2, key⟩
    · rintro (⟨-, -, key⟩ | ⟨-, four, -⟩)
      · exact key
      · omega
  · rw [if_neg get]
    by_cases set : (request.byte 0 = 1 ∨ request.byte 0 = 3) ∧ request.bytes.length = 4
    · rw [if_pos set, byteAt_byte (by omega)]
      refine ⟨_, _, rfl, Nat.sub_le _ _, ?_⟩
      rw [bne_eq_false_iff_eq]
      constructor
      · exact fun key => .inr ⟨set.1, set.2, key⟩
      · rintro (⟨-, three, -⟩ | ⟨-, -, key⟩)
        · omega
        · exact key
    · rw [if_neg set]
      refine ⟨_, _, rfl, le_rfl, nofun, ?_⟩
      rintro (⟨option, three, -⟩ | ⟨option, four, -⟩)
      · exact absurd ⟨option, three⟩ get
      · exact absurd ⟨option, four⟩ set

theorem gpioIdxExchange_cases (platform : OemPlatform) (two : 2 ≤ request.bytes.length) :
    (∃ length number, gpioIdxExchange platform request = some (some (length, number)) ∧
      length ≤ request.bytes.length ∧
      (¬ request.Keyed → (request.byte 1).toNat < platform.totalGpioNum)) ∨
    (gpioIdxExchange platform request = none ∧ ¬ request.Keyed ∧
      platform.totalGpioNum ≤ (request.byte 1).toNat) := by
  obtain ⟨length, needChange, here, short, keyed⟩ := gpioNeedChange_some two
  have exchange : gpioIdxExchange platform request =
      if needChange then (platform.gpioIndToNumTable[(request.byte 1).toNat]?).bind
        fun number => some (some (length, number)) else some (some (length, request.byte 1)) := by
    unfold gpioIdxExchange
    rw [if_neg (Nat.not_lt.mpr two), here, byteAt_byte two]
    rfl
  rw [exchange]
  cases needChange with
  | false =>
    exact .inl ⟨length, request.byte 1, rfl, short, fun unkeyed => absurd (keyed.mp rfl) unkeyed⟩
  | true =>
    have unkeyed : ¬ request.Keyed := fun key => Bool.noConfusion (keyed.mpr key)
    by_cases inside : (request.byte 1).toNat < platform.totalGpioNum
    · have entry := getElem?_eq_getElem (platform.tableSized.symm ▸ inside)
      rw [entry]
      exact .inl ⟨length, _, rfl, short, fun _ => inside⟩
    · have beyond := Nat.not_lt.mp inside
      rw [getElem?_eq_none (platform.tableSized.trans_le beyond)]
      exact .inr ⟨rfl, unkeyed, beyond⟩

theorem gpioOption_returns (number : UInt8) {length : Nat} (short : length ≤ request.bytes.length)
    (some : 0 < request.bytes.length) :
    Returns (gpioOption answers request length number) OemReply.Fits := by
  have error : ∀ completionCode length, completionCode ≠ .success →
      Returns (Option.some (⟨completionCode, length, [], none⟩ : OemReply)) OemReply.Fits :=
    fun _ _ error => .intro fun success => absurd success error
  have pair : ∀ first second : UInt8, Returns (replied [first, second] none) OemReply.Fits :=
    fun _ _ => returns_replied_iff.mpr (by decide : 2 ≤ 527)
  unfold gpioOption
  rw [returns_byteAt_iff]
  refine ⟨some, ?_⟩
  split
  · split
    · exact pair _ _
    · exact error _ _ nofun
  · split
    · split
      · exact returns_byteAt_iff.mpr ⟨by omega, pair _ _⟩
      · exact error _ _ nofun
    · split
      · split
        · exact pair _ _
        · exact error _ _ nofun
      · split
        · split
          · exact returns_byteAt_iff.mpr ⟨by omega, pair _ _⟩
          · exact error _ _ nofun
        · exact error _ _ nofun

theorem getSetGpio_iff :
    Returns (getSetGpio platform answers request) OemReply.Fits ↔
      (2 ≤ request.bytes.length → ¬ request.Keyed →
        (request.byte 1).toNat < platform.totalGpioNum) := by
  have error : ∀ completionCode, completionCode ≠ .success →
      Returns (some (⟨completionCode, 0, [], none⟩ : OemReply)) OemReply.Fits :=
    fun _ error => .intro fun success => absurd success error
  unfold getSetGpio
  by_cases two : 2 ≤ request.bytes.length
  · rcases gpioIdxExchange_cases platform two with
      ⟨length, number, here, short, inside⟩ | ⟨none, unkeyed, beyond⟩
    · rw [here]
      refine iff_of_true ?_ fun _ => inside
      change Returns (if platform.totalGpioNum ≤ number.toNat then _ else _) _
      split
      · exact error _ nofun
      next known =>
        have listed := Nat.lt_of_lt_of_le (Nat.not_le.mp known) platform.cfgSized
        rw [getElem?_eq_getElem listed]
        change Returns (if _ then _ else _) _
        split
        · exact error _ nofun
        · exact gpioOption_returns number short (Nat.lt_of_lt_of_le Nat.zero_lt_two two)
    · rw [none]
      exact iff_of_false not_returns_none fun bounded =>
        absurd (bounded two unkeyed) (Nat.not_lt.mpr beyond)
  · have none : gpioIdxExchange platform request = some none := if_pos (Nat.not_le.mp two)
    rw [none]
    exact iff_of_true (error _ nofun) fun long => absurd long two

theorem target_fst (request : OemRequest) (asked : UInt8) (completionCode : CompletionCode) :
    (request.target asked completionCode).1 = (request.target asked .success).1 := by
  unfold OemRequest.target
  split
  · split
    · rfl
    · split
      · rfl
      · rfl
  · rfl

theorem target_snd (request : OemRequest) (asked : UInt8) (completionCode : CompletionCode) :
    (request.target asked completionCode).2 = .success ↔ completionCode = .success ∧
      ¬ (asked = peerBmcIpmb ∧ request.infSource ≠ slot1Bic ∧ request.infSource ≠ slot3Bic) := by
  unfold OemRequest.target
  by_cases peer : asked = peerBmcIpmb
  · rw [if_pos peer]
    by_cases slot1 : request.infSource = slot1Bic
    · rw [if_pos slot1]
      exact (and_iff_left fun other => other.2.1 slot1).symm
    · rw [if_neg slot1]
      by_cases slot3 : request.infSource = slot3Bic
      · rw [if_pos slot3]
        exact (and_iff_left fun other => other.2.2 slot3).symm
      · rw [if_neg slot3]
        exact iff_of_false nofun fun both => both.2 ⟨peer, slot1, slot3⟩
  · rw [if_neg peer]
    exact (and_iff_left fun other => peer other.1).symm

theorem bridge_some (asked target : UInt8) (completionCode : CompletionCode)
    (valid : completionCode = .success →
      2 < request.bytes.length ∧ (platform.send target).isSome) :
    ∃ code sent, request.bridge platform answers asked target completionCode = some (code, sent) ∧
      (code = .success ↔ completionCode = .success ∧ answers.malloc = true ∧
        answers.ipmbSendRequest = true) := by
  unfold OemRequest.bridge
  by_cases success : completionCode = .success
  · obtain ⟨long, listed⟩ := valid success
    obtain ⟨config, here⟩ := Option.isSome_iff_exists.mp listed
    rw [if_neg (not_not.mpr success)]
    cases answers.malloc with
    | false => exact ⟨_, _, rfl, nofun, fun sends => Bool.noConfusion sends.2.1⟩
    | true =>
      have room : ((request.bytes.drop 3).take (request.bytes.length - 3)).length ≤
          ipmiMsgMaxLength :=
        Nat.le_trans (length_take_le _ _) (Nat.le_trans (Nat.sub_le _ _) request.fits)
      rw [Bool.not_true, if_neg Bool.false_ne_true, byteAt_byte (by omega), byteAt_byte long,
        rangeAt_eq (by omega), here]
      simp only [Option.bind_eq_bind, Option.bind_some, fitting, if_pos room]
      cases answers.ipmbSendRequest with
      | false => exact ⟨_, _, rfl, nofun, fun sends => Bool.noConfusion sends.2.2⟩
      | true => exact ⟨_, _, rfl, fun _ => ⟨success, trivial, rfl⟩, fun _ => rfl⟩
  · rw [if_pos success]
    exact ⟨_, _, rfl, fun same => absurd same success, fun sends => absurd sends.1 success⟩

theorem answerBridge_iff (completionCode : CompletionCode) (sent : Option BridgeRequest) :
    Returns (request.answerBridge platform completionCode sent) OemReply.Fits ↔
      (completionCode ≠ .success → request.infSource = pldm ∨ request.infSource = mctp ∨
        (platform.send request.infSource).isSome) := by
  unfold OemRequest.answerBridge
  by_cases success : completionCode = .success
  · rw [if_pos success]
    exact iff_of_true (.intro fun _ => Nat.zero_le _) fun error => absurd success error
  · rw [if_neg success]
    by_cases other : request.infSource = pldm ∨ request.infSource = mctp
    · rw [if_pos other]
      exact iff_of_true (.intro fun _ => Nat.zero_le _) fun _ =>
        other.elim .inl fun source => .inr (.inl source)
    · rw [if_neg other, returns_bind_iff]
      constructor
      · rintro ⟨config, listed, -⟩
        exact fun _ => .inr (.inr (Option.isSome_iff_exists.mpr ⟨config, listed⟩))
      · intro known
        rcases known success with source | source | listed
        · exact absurd (.inl source) other
        · exact absurd (.inr source) other
        · obtain ⟨config, here⟩ := Option.isSome_iff_exists.mp listed
          exact ⟨config, here, .intro fun _ => Nat.zero_le _⟩

theorem msgOut_inside (blocked : Bool) (long : 0 < request.bytes.length)
    (peer : request.byte 0 = peerBmcIpmb → 1 < request.bytes.length)
    (here : platform.blocked (request.target (request.byte 0) .success).1 = some blocked)
    (some : platform.ipmbConfigTable ≠ []) :
    msgOut platform answers request =
      if blocked && answers.extendMsgOut then
        Option.some ⟨(request.target (request.byte 0) request.begun).2, 0, [], none⟩
      else
        request.bridge platform answers (request.byte 0)
          (request.target (request.byte 0) .success).1
          (if blocked then .notSuppInCurrState
            else (request.target (request.byte 0) request.begun).2) >>= fun bridged =>
          request.answerBridge platform bridged.1 bridged.2 := by
  unfold msgOut
  rw [if_neg some, byteAt_byte long, Option.bind_eq_bind, Option.bind_some]
  dsimp only
  rw [target_fst, here]
  by_cases asked : request.byte 0 = peerBmcIpmb
  · rw [if_pos asked, byteAt_byte (peer asked)]
    rfl
  · rw [if_neg asked]
    rfl

theorem lt_of_begun (success : request.begun = .success) : 2 < request.bytes.length := by
  unfold OemRequest.begun at success
  by_contra short
  rw [if_pos (Nat.not_lt.mp short)] at success
  cases success

/-- A message whose target is inside the map is handled when its source is known or it is sent. -/
theorem msgOut_inside_iff (long : 0 < request.bytes.length)
    (peer : request.byte 0 = peerBmcIpmb → 1 < request.bytes.length)
    (inside : (request.target (request.byte 0) .success).1.toNat < reserved)
    (some : platform.ipmbConfigTable ≠ []) :
    Returns (msgOut platform answers request) OemReply.Fits ↔
      (request.Unsent platform answers (request.target (request.byte 0) .success).1 →
        ¬ (platform.blocked (request.target (request.byte 0) .success).1 = Option.some true ∧
          answers.extendMsgOut = true) →
        request.infSource = pldm ∨ request.infSource = mctp ∨
          (platform.send request.infSource).isSome) := by
  obtain ⟨blocked, here, sends⟩ := @blocked_some platform _ inside
  rw [msgOut_inside blocked long peer here some, here, Option.some_inj]
  by_cases extended : blocked = true ∧ answers.extendMsgOut = true
  · rw [if_pos (Bool.and_eq_true_iff.mpr extended)]
    exact iff_of_true (.intro fun _ => Nat.zero_le _) fun _ other => absurd extended other
  · rw [if_neg fun both => extended (Bool.and_eq_true_iff.mp both)]
    generalize asked : (if blocked then CompletionCode.notSuppInCurrState
      else (request.target (request.byte 0) request.begun).2) = completionCode
    have valid : completionCode = .success ↔ blocked = false ∧ request.begun = .success ∧
        ¬ (request.byte 0 = peerBmcIpmb ∧ request.infSource ≠ slot1Bic ∧
          request.infSource ≠ slot3Bic) := by
      rw [← asked, ← target_snd]
      cases blocked with
      | true => exact ⟨nofun, fun both => Bool.noConfusion both.1⟩
      | false => exact (and_iff_right rfl).symm
    obtain ⟨code, sent, bridged, success⟩ :=
      @bridge_some platform answers request (request.byte 0)
        (request.target (request.byte 0) .success).1 completionCode fun success =>
          ⟨lt_of_begun (valid.mp success).2.1, sends (valid.mp success).1⟩
    rw [bridged, Option.bind_eq_bind, Option.bind_some, answerBridge_iff]
    have unsent : code ≠ .success ↔
        request.Unsent platform answers (request.target (request.byte 0) .success).1 := by
      unfold OemRequest.Unsent
      rw [here, Option.some_inj]
      constructor
      · intro failed
        by_contra sentOut
        simp only [not_or] at sentOut
        obtain ⟨begun, known, unblocked, memory, taken⟩ := sentOut
        exact failed (success.mpr ⟨valid.mpr ⟨Bool.eq_false_iff.mpr unblocked, not_not.mp begun,
          known⟩, Bool.eq_true_of_not_eq_false memory, Bool.eq_true_of_not_eq_false taken⟩)
      · intro unsent good
        obtain ⟨sound, memory, taken⟩ := success.mp good
        obtain ⟨unblocked, begun, known⟩ := valid.mp sound
        rcases unsent with other | other | other | other | other
        · exact other begun
        · exact known other
        · exact Bool.noConfusion (other.symm.trans unblocked)
        · exact Bool.noConfusion (memory.symm.trans other)
        · exact Bool.noConfusion (taken.symm.trans other)
    rw [unsent, imp_iff_right extended]

theorem msgOut_iff :
    Returns (msgOut platform answers request) OemReply.Fits ↔
      Bounded platform answers request .msgOut := by
  unfold Bounded
  by_cases some : platform.ipmbConfigTable = []
  · refine iff_of_true ?_ fun other => absurd some other
    unfold msgOut
    rw [if_pos some]
    exact returns_complete request nofun
  · rw [imp_iff_right some]
    constructor
    · intro returns
      have reads := returns
      unfold msgOut at reads
      rw [if_neg some, returns_byte_iff] at reads
      obtain ⟨long, reads⟩ := reads
      obtain ⟨netfn, asked, reads⟩ := returns_bind_iff.mp reads
      obtain ⟨blocked, found, -⟩ := returns_bind_iff.mp reads
      have peer : request.byte 0 = peerBmcIpmb → 1 < request.bytes.length := by
        intro same
        rw [if_pos same] at asked
        exact lt_of_byteAt asked
      have inside := lt_of_blocked found
      rw [target_fst] at inside
      exact ⟨long, peer, inside, (msgOut_inside_iff long peer inside some).mp returns⟩
    · rintro ⟨long, peer, inside, answered⟩
      exact (msgOut_inside_iff long peer inside some).mpr answered

/-- Requests are handled without reaching too far exactly when their lengths and indices are within
their bounds. -/
theorem honest_iff (platform : OemPlatform) (answers : OemAnswers) (request : OemRequest)
    (command : OemCommand) :
    Honest platform answers request command ↔ Bounded platform answers request command := by
  cases command with
  | jtagDataShift =>
    change Returns (if platform.jtagHwMode = true then jtagDataShiftHw answers request
      else jtagDataShiftSw answers request) _ ↔ (answers.malloc = true → _)
    cases memory : answers.malloc with
    | false =>
      refine iff_of_true ?_ nofun
      split
      · unfold jtagDataShiftHw
        rw [memory, Bool.not_false, if_pos rfl]
        exact returns_complete request nofun
      · unfold jtagDataShiftSw
        rw [memory, Bool.not_false, if_pos rfl]
        exact returns_complete request nofun
    | true =>
      rw [imp_iff_right rfl]
      cases platform.jtagHwMode with
      | true => exact jtagDataShiftHw_iff memory
      | false => exact jtagDataShiftSw_iff memory
  | peciAccess => exact peciAccess_iff
  | msgOut => exact msgOut_iff
  | bmcIpmbAccess => exact iff_of_true (bmcIpmbAccess_returns platform answers request) trivial
  | getSetGpio => exact getSetGpio_iff

end Handlers

def bare : OemPlatform := ⟨[], false, 0, [], rfl, [], Nat.le_refl 0⟩

def allWell : OemAnswers :=
  ⟨true, true, none, 0, some fun _ => 0, false, true, none, fun _ => 0, fun _ => 0⟩

/-- A request for a temperature by PECI: the address, one byte to write and two to read, and the
command. -/
def getTemp : OemRequest := ⟨[0x30, 1, 2, peciGetTemp0Cmd], by decide, 0, false⟩

/-- A PECI access of four bytes is read behind its end. -/
theorem getTemp_not_honest : ¬ Honest bare allWell getTemp .peciAccess := by
  rintro ⟨reply, handled, -⟩
  have beyond : handle bare allWell getTemp .peciAccess = none := by decide
  cases handled.symm.trans beyond

end OpenBic.Oem1s
