import OpenBic.Library.Checked

/-!
# IPMI commands: one array for request, response and return address

`ipmi_cmd_handle` of `ipmi.c`, with `ipmi_cmd` of `pldm_oem.c` that puts a PLDM request through it
and the encoders that answer. The array of a message holds the request's data, then the response's,
and for a PLDM source the MCTP instance, the MCTP parameters and the PLDM header of the request in
its last bytes. A write or read outside the array or outside the buffer of an encoder comes to
nothing.
-/

namespace OpenBic.Ipmi

open Option

open Library.Checked

def ipmiMsgMaxLength : Nat := 527

def kcsBuffSize : Nat := 256

/-- `RX_BUFF_SIZE` of `usb.h`, which is the size of the buffer a response is packed into. -/
def rxBuffSize : Nat := 64

def ccSuccess : UInt8 := 0x00

def ccInvalidIana : UInt8 := 0x84

def ccInvalidCmd : UInt8 := 0xC1

/-- `NETFN_OEM_1S_REQ`. -/
def netfnOem1s : UInt8 := 0x38

/-- The net functions whose commands have a handler: chassis, sensor, application, storage, OEM. -/
def handledNetfns : List UInt8 := [0x00, 0x04, 0x06, 0x0A, 0x30]

/-- The net functions with an empty case: bridge, firmware, transport, DCMI, node manager. -/
def emptyNetfns : List UInt8 := [0x02, 0x08, 0x0C, 0x2C, 0x2E]

def bmcUsb : UInt8 := 0x20

/-- `PLDM`. -/
def pldmSource : UInt8 := 0x40

def hostKcs1 : UInt8 := 0x50

def hostKcs4 : UInt8 := 0x53

def hostSsif1 : UInt8 := 0x60

/-- `SELF`. -/
def selfSource : UInt8 := 0x00

def pldmSuccess : UInt8 := 0x00

def pldmError : UInt8 := 0x01

def pldmLaterResp : UInt8 := 0x30

def mctpInstSize : Nat := 4

/-- The size of a `pldm_hdr`. -/
def pldmHdrSize : Nat := 4

/-- What the platform decides. -/
structure Platform where
  /-- Whether `get_iana` knows three bytes as an IANA. -/
  getIana : List UInt8 → Bool
  /-- `IANA_ID`, as `set_iana` writes it. -/
  ianaId : List UInt8
  ianaSized : ianaId.length = 3
  isNotReturnCmd : UInt8 → UInt8 → Bool
  usb : Bool
  /-- `CONFIG_IPMI_KCS_NPCM4XX` or `CONFIG_IPMI_KCS_ASPEED`. -/
  kcs : Bool
  ssif : Bool
  /-- Whether `IPMB_inf_index_map` leads a source to a channel. -/
  ipmb : UInt8 → Bool
  pldmMaxDataSize : Nat
  /-- The size of `mctp_ext_params`. -/
  extParamsSize : Nat
  room : mctpInstSize + extParamsSize + pldmHdrSize ≤ ipmiMsgMaxLength

/-- The state of the services that answer, when a response reaches them. -/
structure Services where
  /-- One of the two allocations of `kcs_buff` succeeds. -/
  malloc : Bool
  /-- `ssif_set_data` knows the channel and takes its mutex. -/
  ssifReady : Bool
  /-- `self_ipmi_msgq` takes a message. -/
  selfRoom : Bool
  /-- `ipmb_send_response` takes its mutex and its queue takes the message. -/
  ipmbRoom : Bool

/-- `data` of an `ipmi_msg`. -/
abbrev IpmiData : Type := Buffer ipmiMsgMaxLength

/-- What `ipmi_cmd_handle` reads of an `ipmi_msg`. -/
structure IpmiMsg where
  netfn : UInt8
  cmd : UInt8
  seq : UInt8
  infSource : UInt8
  completionCode : UInt8
  dataLen : Nat
  data : IpmiData

/-- Where a PLDM response goes, and its header. -/
structure PldmContext where
  mctpInst : List UInt8
  extParams : List UInt8
  hdr : List UInt8

/-- `rq` cleared, the top bit of the header's second byte. -/
def PldmContext.response (context : PldmContext) : PldmContext :=
  { context with hdr := context.hdr.modify 1 (· &&& 0x7F) }

def Platform.mctpInstOfs (platform : Platform) : Nat :=
  ipmiMsgMaxLength - pldmHdrSize - platform.extParamsSize - mctpInstSize

def Platform.extParamsOfs (platform : Platform) : Nat :=
  ipmiMsgMaxLength - pldmHdrSize - platform.extParamsSize

def pldmHdrOfs : Nat := ipmiMsgMaxLength - pldmHdrSize

def IpmiData.pldmContext (platform : Platform) (data : IpmiData) : Option PldmContext := do
  let mctpInst ← data.read platform.mctpInstOfs mctpInstSize
  let hdr ← data.read pldmHdrOfs pldmHdrSize
  let extParams ← data.read platform.extParamsOfs platform.extParamsSize
  some { mctpInst, extParams, hdr }

/-! ## Requests -/

/-- A request in `ipmi_msgq`. -/
structure IpmiRequest (platform : Platform) where
  msg : IpmiMsg
  admitted : msg.dataLen ≤ ipmiMsgMaxLength
  /-- `notify_ipmi_client` drops what is not a request. -/
  requests : msg.netfn % 2 = 0
  context : PldmContext
  stashed : msg.infSource = pldmSource → msg.data.pldmContext platform = some context

/-- A PLDM request that carries an IPMI command. -/
structure PldmRequest (platform : Platform) where
  context : PldmContext
  instSized : context.mctpInst.length = mctpInstSize
  extSized : context.extParams.length = platform.extParamsSize
  hdrSized : context.hdr.length = pldmHdrSize
  buf : List UInt8

variable {platform : Platform}

/-- The message that `ipmi_cmd` sets up, its array as the copies left it. -/
def PldmRequest.msg (request : PldmRequest platform) (data : IpmiData) :
    IpmiMsg :=
  { netfn := request.buf.getD 3 0 >>> 2, cmd := request.buf.getD 4 0, seq := 0,
    infSource := pldmSource, completionCode := 0, dataLen := request.buf.length - 5, data }

/-- The copies of `ipmi_cmd` into the array: the command's data, then the return address. -/
def PldmRequest.copied (request : PldmRequest platform) : Option IpmiData := do
  let data ← (Buffer.zero ipmiMsgMaxLength).write 0 (request.buf.drop 5)
  let data ← data.write platform.mctpInstOfs request.context.mctpInst
  let data ← data.write platform.extParamsOfs request.context.extParams
  data.write pldmHdrOfs request.context.hdr

theorem PldmRequest.copied_bytes {request : PldmRequest platform} {data : IpmiData}
    (copied : request.copied = some data) :
    ∃ before : IpmiData, request.buf.length - 5 ≤ ipmiMsgMaxLength ∧
      before.bytes = splice (List.replicate ipmiMsgMaxLength 0) 0 (request.buf.drop 5) ∧
      data.bytes = splice before.bytes platform.mctpInstOfs (request.context.mctpInst ++
        request.context.extParams ++ request.context.hdr) := by
  obtain ⟨first, wroteFirst, copied⟩ := Option.bind_eq_some_iff.mp copied
  obtain ⟨second, wroteSecond, copied⟩ := Option.bind_eq_some_iff.mp copied
  obtain ⟨third, wroteThird, copied⟩ := Option.bind_eq_some_iff.mp copied
  obtain ⟨commandInside, commandBytes⟩ := Buffer.write_some wroteFirst
  obtain ⟨instInside, instBytes⟩ := Buffer.write_some wroteSecond
  obtain ⟨extInside, extBytes⟩ := Buffer.write_some wroteThird
  obtain ⟨hdrInside, hdrBytes⟩ := Buffer.write_some copied
  have room := platform.room
  refine ⟨first, ?_, commandBytes, ?_⟩
  · rw [List.length_drop] at commandInside
    omega
  · have extBehind : platform.extParamsOfs =
        platform.mctpInstOfs + request.context.mctpInst.length := by
      rw [request.instSized]
      unfold Platform.extParamsOfs Platform.mctpInstOfs
      omega
    have hdrBehind : pldmHdrOfs = platform.mctpInstOfs +
        (request.context.mctpInst ++ request.context.extParams).length := by
      rw [List.length_append, request.instSized, request.extSized]
      unfold pldmHdrOfs Platform.mctpInstOfs
      omega
    rw [← first.sized] at extInside hdrInside
    rw [hdrBytes, extBytes, instBytes, splice_behind extBehind (by omega),
      splice_behind hdrBehind (by omega)]

/-- The return address of a PLDM request is in the array. -/
theorem PldmRequest.copied_context {request : PldmRequest platform} {data : IpmiData}
    (copied : request.copied = some data) :
    data.pldmContext platform = some request.context := by
  obtain ⟨before, -, -, bytes⟩ := copied_bytes copied
  have room := platform.room
  have inside : platform.mctpInstOfs + (request.context.mctpInst ++ request.context.extParams ++
      request.context.hdr).length ≤ before.bytes.length := by
    simp only [List.length_append, request.instSized, request.extSized, request.hdrSized,
      before.sized, Platform.mctpInstOfs]
    omega
  have inst : data.read platform.mctpInstOfs mctpInstSize = some request.context.mctpInst := by
    rw [Buffer.read, bytes]
    apply rangeAt_splice [] _ _ inside
    · rw [List.nil_append, List.append_assoc]
    · rfl
    · exact request.instSized.symm
  have hdr : data.read pldmHdrOfs pldmHdrSize = some request.context.hdr := by
    rw [Buffer.read, bytes]
    apply rangeAt_splice _ _ [] inside
    · rw [List.append_nil]
    · rw [List.length_append, request.instSized, request.extSized]
      unfold pldmHdrOfs Platform.mctpInstOfs
      omega
    · exact request.hdrSized.symm
  have ext : data.read platform.extParamsOfs platform.extParamsSize =
      some request.context.extParams := by
    rw [Buffer.read, bytes]
    apply rangeAt_splice _ _ _ inside rfl
    · rw [request.instSized]
      unfold Platform.extParamsOfs Platform.mctpInstOfs
      omega
    · exact request.extSized.symm
  simp only [IpmiData.pldmContext, inst, hdr, ext, bind_eq_bind, bind_some]

theorem PldmRequest.copied_admitted {request : PldmRequest platform} {data : IpmiData}
    (copied : request.copied = some data) : request.buf.length - 5 ≤ ipmiMsgMaxLength := by
  obtain ⟨before, admitted, -, -⟩ := copied_bytes copied
  exact admitted

/-- `ipmi_cmd` and `notify_ipmi_client`: the code returned to the PLDM service, and what is put into
`ipmi_msgq`. -/
def ipmiCmd (request : PldmRequest platform) : Option (UInt8 × List (IpmiRequest platform)) :=
  if request.buf.length < 5 then some (pldmError, [])
  else if request.buf.take 3 ≠ platform.ianaId then some (pldmSuccess, [])
  else
    match copied : request.copied with
    | none => none
    | some data =>
      if requests : (request.msg data).netfn % 2 = 0 then
        some (pldmLaterResp, [{ msg := request.msg data,
                                admitted := PldmRequest.copied_admitted copied,
                                requests, context := request.context,
                                stashed := fun _ => PldmRequest.copied_context copied }])
      else some (pldmLaterResp, [])

theorem ipmiCmd_context {request : PldmRequest platform} {code : UInt8}
    {queued : List (IpmiRequest platform)} (ran : ipmiCmd request = some (code, queued)) :
    ∀ put ∈ queued, put.msg.infSource = pldmSource ∧ put.context = request.context := by
  intro put listed
  unfold ipmiCmd at ran
  split at ran
  · cases ran
    exact absurd listed List.not_mem_nil
  split at ran
  · cases ran
    exact absurd listed List.not_mem_nil
  split at ran
  · cases ran
  split at ran
  · cases ran
    obtain rfl := List.mem_singleton.mp listed
    exact ⟨rfl, rfl⟩
  · cases ran
    exact absurd listed List.not_mem_nil

/-! ## The handlers -/

/-- What a command handler leaves in the message. -/
structure Handled where
  completionCode : UInt8
  /-- The response's data, whose length is `data_len`. -/
  data : List UInt8
  admitted : data.length ≤ ipmiMsgMaxLength

def IpmiMsg.leave (msg : IpmiMsg) (handled : Handled) : Option IpmiMsg := do
  let data ← msg.data.write 0 handled.data
  some { msg with completionCode := handled.completionCode, dataLen := handled.data.length, data }

/-- The switch over the net functions: the message, and the IANA of an OEM 1S command. -/
def dispatch (platform : Platform) (handled : Handled) (msg : IpmiMsg) :
    Option (IpmiMsg × List UInt8) := do
  if msg.netfn ∈ handledNetfns then
    let msg ← msg.leave handled
    some (msg, [0, 0, 0])
  else if msg.netfn ∈ emptyNetfns then some ({ msg with completionCode := ccInvalidCmd }, [0, 0, 0])
  else if msg.netfn = netfnOem1s then
    let iana ← msg.data.read 0 3
    if 3 ≤ msg.dataLen ∧ platform.getIana iana then
      let command ← msg.data.read 3 (msg.dataLen - 3)
      let data ← msg.data.write 0 command
      let msg ← { msg with dataLen := msg.dataLen - 3, data }.leave handled
      some (msg, iana)
    else if platform.isNotReturnCmd msg.netfn msg.cmd then
      let msg ← msg.leave handled
      some (msg, [0, 0, 0])
    else some ({ msg with completionCode := ccInvalidIana, dataLen := 0 }, [0, 0, 0])
  else some ({ msg with completionCode := ccInvalidCmd, dataLen := 0 }, [0, 0, 0])

/-- No data on failure, and the IANA in front of an OEM 1S command's data. -/
def finish (iana : List UInt8) (msg : IpmiMsg) : Option IpmiMsg := do
  if msg.completionCode ≠ ccSuccess then some { msg with dataLen := 0 }
  else if msg.netfn = netfnOem1s then
    let copyData ← msg.data.read 0 msg.dataLen
    let data ← msg.data.write 3 copyData
    let data ← data.write 0 iana
    some { msg with dataLen := msg.dataLen + 3, data }
  else some msg

/-! ## The encoders -/

structure IpmiResponse where
  netfn : UInt8
  cmd : UInt8
  seq : UInt8
  completionCode : UInt8
  data : List UInt8

def IpmiResponse.wire (response : IpmiResponse) : List UInt8 :=
  [response.netfn <<< 2, response.cmd, response.completionCode] ++ response.data

/-- What goes out to an interface. -/
inductive Sent where
  | usb (bytes : List UInt8)
  | kcs (channel : UInt8) (bytes : List UInt8)
  | ssif (channel : UInt8) (bytes : List UInt8)
  | pldm (context : PldmContext) (bytes : List UInt8)
  /-- A message in `self_ipmi_msgq`. -/
  | self (response : IpmiResponse)
  | ipmb (source : UInt8) (response : IpmiResponse)

/-- Where a response goes. -/
inductive Route where
  | usb
  | kcs (channel : UInt8)
  | ssif
  | pldm
  | self
  | ipmb

/-- The switch over `InF_source`. -/
def Platform.route (platform : Platform) (source : UInt8) : Route :=
  if source = bmcUsb ∧ platform.usb then .usb
  else if hostKcs1 ≤ source ∧ source ≤ hostKcs4 ∧ platform.kcs then .kcs (source - hostKcs1)
  else if source = hostSsif1 ∧ platform.ssif then .ssif
  else if source = pldmSource then .pldm
  else if source = selfSource then .self
  else .ipmb

/-- A header and data put into a buffer of so many bytes, of which `count` are sent. -/
def packed (size : Nat) (header data : List UInt8) (count : Nat) : Option (List UInt8) := do
  let buf ← writeAt (List.replicate size 0) 0 header
  let buf ← writeAt buf header.length data
  rangeAt buf 0 count

def usbWriteByIpmi (msg : IpmiMsg) : Option (List Sent) := do
  let data ← msg.data.read 0 msg.dataLen
  let bytes ← packed rxBuffSize [(msg.netfn + 1) <<< 2, msg.cmd, msg.completionCode] data
    (msg.dataLen + 3)
  some [.usb bytes]

/-- A service that copies as much of the data as its buffer takes, and sends as many bytes as the
response has. -/
def copyAndSend (ready : Bool) (size : Nat) (send : List UInt8 → Sent) (msg : IpmiMsg) :
    Option (List Sent) := do
  if ready then
    let data ← msg.data.read 0 (min msg.dataLen (size - 3))
    let bytes ← packed size [(msg.netfn + 1) <<< 2, msg.cmd, msg.completionCode] data
      (msg.dataLen + 3)
    some [send bytes]
  else some []

def kcsCase (services : Services) (channel : UInt8) : IpmiMsg → Option (List Sent) :=
  copyAndSend services.malloc kcsBuffSize (.kcs channel)

/-- `ssif_set_data`: the host is offered `rsp_buf_len` bytes of `rsp_buff`. -/
def ssifSetData (services : Services) : IpmiMsg → Option (List Sent) :=
  copyAndSend services.ssifReady ipmiMsgMaxLength (.ssif 0)

def sendMsgByPldm (platform : Platform) (msg : IpmiMsg) : Option (List Sent) := do
  let context ← msg.data.pldmContext platform
  let data ← msg.data.read 0 msg.dataLen
  let bytes ← packed platform.pldmMaxDataSize ([pldmSuccess] ++ platform.ianaId ++
    [(msg.netfn ||| 1) <<< 2, msg.cmd, msg.completionCode]) data (7 + msg.dataLen)
  some [.pldm context.response bytes]

def IpmiMsg.response (msg : IpmiMsg) (netfn : UInt8) (data : List UInt8) : IpmiResponse :=
  { netfn, cmd := msg.cmd, seq := msg.seq, completionCode := msg.completionCode, data }

/-- The queue of the self test takes the message as it is; a full queue is purged. -/
def selfCase (services : Services) (msg : IpmiMsg) : Option (List Sent) := do
  if services.selfRoom then
    let data ← msg.data.read 0 msg.dataLen
    some [.self (msg.response msg.netfn data)]
  else some []

/-- `ipmb_send_response`, at an index from `IPMB_inf_index_map`. -/
def ipmbSendResponse (platform : Platform) (services : Services) (msg : IpmiMsg) :
    Option (List Sent) := do
  if platform.ipmb msg.infSource then
    let data ← msg.data.read 0 msg.dataLen
    if services.ipmbRoom then some [.ipmb msg.infSource (msg.response (msg.netfn + 1) data)]
    else some []
  else none

def respond (platform : Platform) (services : Services) (msg : IpmiMsg) : Option (List Sent) :=
  match platform.route msg.infSource with
  | .usb => usbWriteByIpmi msg
  | .kcs channel => kcsCase services channel msg
  | .ssif => ssifSetData services msg
  | .pldm => sendMsgByPldm platform msg
  | .self => selfCase services msg
  | .ipmb => ipmbSendResponse platform services msg

def ipmiCmdHandle (platform : Platform) (services : Services) (handled : Handled) (msg : IpmiMsg) :
    Option (List Sent) := do
  let (msg, iana) ← dispatch platform handled msg
  if platform.isNotReturnCmd msg.netfn msg.cmd then some []
  else
    let msg ← finish iana msg
    respond platform services msg

/-! ## What a command is to be answered with -/

def IpmiMsg.iana (msg : IpmiMsg) : List UInt8 := msg.data.bytes.take 3

/-- An OEM 1S request with an IANA that `get_iana` knows. -/
def IpmiMsg.Known (platform : Platform) (msg : IpmiMsg) : Prop :=
  3 ≤ msg.dataLen ∧ platform.getIana msg.iana = true

instance (platform : Platform) (msg : IpmiMsg) : Decidable (msg.Known platform) :=
  inferInstanceAs (Decidable (_ ∧ _))

/-- The data of the answer: on success the handler's, none on failure. -/
def Handled.answer (handled : Handled) (front : List UInt8) : List UInt8 :=
  if handled.completionCode = ccSuccess then front ++ handled.data else []

def answer (platform : Platform) (handled : Handled) (msg : IpmiMsg) : UInt8 × List UInt8 :=
  if msg.netfn ∈ handledNetfns then (handled.completionCode, handled.answer [])
  else if msg.netfn = netfnOem1s then
    if msg.Known platform then (handled.completionCode, handled.answer msg.iana)
    else (ccInvalidIana, [])
  else (ccInvalidCmd, [])

def expected (platform : Platform) (handled : Handled) (msg : IpmiMsg) : IpmiResponse :=
  { netfn := msg.netfn + 1, cmd := msg.cmd, seq := msg.seq,
    completionCode := (answer platform handled msg).1, data := (answer platform handled msg).2 }

def IpmiResponse.sentTo (response : IpmiResponse) (platform : Platform) (source : UInt8)
    (context : PldmContext) : Sent :=
  match platform.route source with
  | .usb => .usb response.wire
  | .kcs channel => .kcs channel response.wire
  | .ssif => .ssif 0 response.wire
  | .pldm => .pldm context.response ([pldmSuccess] ++ platform.ianaId ++ response.wire)
  | .self => .self response
  | .ipmb => .ipmb source response

def IpmiRequest.answered {platform : Platform} (request : IpmiRequest platform)
    (handled : Handled) : Sent :=
  (expected platform handled request.msg).sentTo platform request.msg.infSource request.context

/-- The array with a handler's data at its beginning, on success behind the IANA. -/
def Handled.into (handled : Handled) (front array : List UInt8) : List UInt8 :=
  if handled.completionCode = ccSuccess then
    splice (splice array 0 handled.data) 0 (front ++ handled.data)
  else splice array 0 handled.data

/-- The array, once the command is done: the request's data moved up over its IANA, and the
response's over that. -/
def arrayAfter (platform : Platform) (handled : Handled) (msg : IpmiMsg) : List UInt8 :=
  if msg.netfn ∈ handledNetfns then splice msg.data.bytes 0 handled.data
  else if msg.netfn = netfnOem1s ∧ msg.Known platform then
    handled.into msg.iana
      (splice msg.data.bytes 0 ((msg.data.bytes.drop 3).take (msg.dataLen - 3)))
  else msg.data.bytes

def Platform.contextOf (platform : Platform) (array : List UInt8) : PldmContext :=
  { mctpInst := (array.drop platform.mctpInstOfs).take mctpInstSize
    extParams := (array.drop platform.extParamsOfs).take platform.extParamsSize
    hdr := (array.drop pldmHdrOfs).take pldmHdrSize }

/-- The answer fits the array and the encoder's buffer, the encoder takes it, and for PLDM the data
of request and response stay off the return address. -/
def Fits (platform : Platform) (services : Services) (handled : Handled)
    (request : IpmiRequest platform) : Prop :=
  let count := (answer platform handled request.msg).2.length
  count ≤ ipmiMsgMaxLength ∧
    match platform.route request.msg.infSource with
    | .usb => count + 3 ≤ rxBuffSize
    | .kcs _ => services.malloc = true ∧ count + 3 ≤ kcsBuffSize
    | .ssif => services.ssifReady = true ∧ count + 3 ≤ ipmiMsgMaxLength
    | .pldm => 7 + count ≤ platform.pldmMaxDataSize ∧
        (platform.contextOf (arrayAfter platform handled request.msg)).response =
          request.context.response
    | .self => False
    | .ipmb => platform.ipmb request.msg.infSource = true ∧ services.ipmbRoom = true

/-! ## The message that is answered -/

def settle (platform : Platform) (handled : Handled) (msg : IpmiMsg) : Option IpmiMsg := do
  let (msg, iana) ← dispatch platform handled msg
  finish iana msg

/-- A message holds the answer to another. -/
structure Settled (platform : Platform) (handled : Handled) (msg after : IpmiMsg) : Prop where
  netfn : after.netfn = msg.netfn
  cmd : after.cmd = msg.cmd
  seq : after.seq = msg.seq
  infSource : after.infSource = msg.infSource
  code : after.completionCode = (answer platform handled msg).1
  dataLen : after.dataLen = (answer platform handled msg).2.length
  content : after.data.bytes.take after.dataLen = (answer platform handled msg).2
  array : after.data.bytes = arrayAfter platform handled msg

theorem IpmiMsg.leave_eq (msg : IpmiMsg) (handled : Handled) :
    ∃ data : IpmiData, msg.leave handled = some { msg with completionCode := handled.completionCode,
                                                           dataLen := handled.data.length, data } ∧
      data.bytes = splice msg.data.bytes 0 handled.data := by
  obtain ⟨data, wrote, bytes⟩ := msg.data.write_eq handled.data
    (show 0 + _ ≤ _ by rw [Nat.zero_add]; exact handled.admitted)
  refine ⟨data, ?_, bytes⟩
  simp only [IpmiMsg.leave, wrote, bind_eq_bind, bind_some]

theorem take_splice_zero (data bytes : List UInt8) :
    (splice data 0 bytes).take bytes.length = bytes := by
  rw [splice_zero, List.take_left]

theorem finish_failed {iana : List UInt8} {msg : IpmiMsg}
    (failed : msg.completionCode ≠ ccSuccess) :
    finish iana msg = some { msg with dataLen := 0 } :=
  if_pos failed

theorem finish_plain {iana : List UInt8} {msg : IpmiMsg}
    (success : msg.completionCode = ccSuccess) (plain : msg.netfn ≠ netfnOem1s) :
    finish iana msg = some msg := by
  unfold finish
  rw [if_neg (not_not_intro success), if_neg plain]

theorem settle_handled {platform : Platform} {handled : Handled} {msg : IpmiMsg}
    (listed : msg.netfn ∈ handledNetfns) :
    ∃ after, settle platform handled msg = some after ∧ Settled platform handled msg after := by
  have plain : msg.netfn ≠ netfnOem1s := by
    intro oem
    rw [oem] at listed
    exact absurd listed (by decide)
  obtain ⟨data, left, bytes⟩ := msg.leave_eq handled
  let done : IpmiMsg := { msg with completionCode := handled.completionCode,
                                   dataLen := handled.data.length, data }
  have settles : settle platform handled msg = finish [0, 0, 0] done := by
    simp only [settle, dispatch, if_pos listed, left, bind_eq_bind, bind_some, done]
  have answers : answer platform handled msg = (handled.completionCode, handled.answer []) :=
    if_pos listed
  have array : arrayAfter platform handled msg = splice msg.data.bytes 0 handled.data :=
    if_pos listed
  by_cases success : handled.completionCode = ccSuccess
  · have whole : handled.answer [] = handled.data := if_pos success
    refine ⟨done, settles.trans (finish_plain success plain), rfl, rfl, rfl, rfl, ?_, ?_, ?_, ?_⟩
    · rw [answers]
    · rw [answers, whole]
    · rw [answers, whole]
      exact (congrArg (List.take handled.data.length) bytes).trans (take_splice_zero _ _)
    · rw [array]
      exact bytes
  · have nothing : handled.answer [] = [] := if_neg success
    refine ⟨_, settles.trans (finish_failed success), rfl, rfl, rfl, rfl, ?_, ?_, ?_, ?_⟩
    · rw [answers]
    · rw [answers, nothing, List.length_nil]
    · rw [answers, nothing, List.take_zero]
    · rw [array]
      exact bytes

theorem settled_code {platform : Platform} {handled : Handled} {msg : IpmiMsg} {code : UInt8}
    (answers : answer platform handled msg = (code, []))
    (array : arrayAfter platform handled msg = msg.data.bytes) :
    Settled platform handled msg { msg with completionCode := code, dataLen := 0 } := by
  refine ⟨rfl, rfl, rfl, rfl, ?_, ?_, ?_, ?_⟩
  · rw [answers]
  · rw [answers, List.length_nil]
  · rw [answers, List.take_zero]
  · rw [array]

theorem settle_invalid {platform : Platform} {handled : Handled} {msg : IpmiMsg}
    (unlisted : msg.netfn ∉ handledNetfns) (plain : msg.netfn ≠ netfnOem1s) :
    ∃ after, settle platform handled msg = some after ∧ Settled platform handled msg after := by
  have answers : answer platform handled msg = (ccInvalidCmd, []) := by
    rw [answer, if_neg unlisted, if_neg plain]
  have array : arrayAfter platform handled msg = msg.data.bytes := by
    rw [arrayAfter, if_neg unlisted, if_neg (fun oem => plain oem.1)]
  refine ⟨_, ?_, settled_code answers array⟩
  have failed : ccInvalidCmd ≠ ccSuccess := by decide
  by_cases empty : msg.netfn ∈ emptyNetfns
  · simp only [settle, dispatch, if_neg unlisted, if_pos empty, bind_eq_bind,
      bind_some]
    exact finish_failed failed
  · simp only [settle, dispatch, if_neg unlisted, if_neg empty, if_neg plain, bind_eq_bind,
      bind_some]
    exact finish_failed failed

theorem settle_unknown {platform : Platform} {handled : Handled} {msg : IpmiMsg}
    (oem : msg.netfn = netfnOem1s) (unknown : ¬ msg.Known platform)
    (returns : platform.isNotReturnCmd msg.netfn msg.cmd = false) :
    ∃ after, settle platform handled msg = some after ∧ Settled platform handled msg after := by
  have unlisted : msg.netfn ∉ handledNetfns := by
    rw [oem]
    decide
  have filled : msg.netfn ∉ emptyNetfns := by
    rw [oem]
    decide
  have answers : answer platform handled msg = (ccInvalidIana, []) := by
    rw [answer, if_neg unlisted, if_pos oem, if_neg unknown]
  have array : arrayAfter platform handled msg = msg.data.bytes := by
    rw [arrayAfter, if_neg unlisted, if_neg (fun both => unknown both.2)]
  have read : msg.data.read 0 3 = some msg.iana := Buffer.read_eq (by decide)
  refine ⟨_, ?_, settled_code answers array⟩
  have failed : ccInvalidIana ≠ ccSuccess := by decide
  have fails : ¬ (3 ≤ msg.dataLen ∧ platform.getIana msg.iana = true) := unknown
  simp only [settle, dispatch, if_neg unlisted, if_neg filled, if_pos oem, read, fails, returns,
    bind_eq_bind, bind_some, if_false, Bool.false_eq_true]
  exact finish_failed failed

theorem IpmiMsg.length_iana (msg : IpmiMsg) : msg.iana.length = 3 := by
  rw [IpmiMsg.iana, List.length_take, msg.data.sized]
  rfl

/-- The handler is reached with the request's data moved up over its IANA. -/
theorem settle_known {platform : Platform} (handled : Handled) {msg : IpmiMsg}
    (oem : msg.netfn = netfnOem1s) (known : msg.Known platform)
    (admitted : msg.dataLen ≤ ipmiMsgMaxLength) :
    ∃ done : IpmiMsg, settle platform handled msg = finish msg.iana done ∧
      done = { msg with completionCode := handled.completionCode,
                        dataLen := handled.data.length, data := done.data } ∧
      done.data.bytes = splice (splice msg.data.bytes 0
        ((msg.data.bytes.drop 3).take (msg.dataLen - 3))) 0 handled.data := by
  have unlisted : msg.netfn ∉ handledNetfns := by
    rw [oem]
    decide
  have filled : msg.netfn ∉ emptyNetfns := by
    rw [oem]
    decide
  have readIana : msg.data.read 0 3 = some msg.iana := Buffer.read_eq (by decide)
  have longEnough : 3 ≤ msg.dataLen := known.1
  have readCommand : msg.data.read 3 (msg.dataLen - 3) =
      some ((msg.data.bytes.drop 3).take (msg.dataLen - 3)) :=
    Buffer.read_eq (by omega)
  obtain ⟨moved, wrote, movedBytes⟩ := msg.data.write_eq
    ((msg.data.bytes.drop 3).take (msg.dataLen - 3)) (show 0 + _ ≤ _ by
      rw [List.length_take]
      omega)
  obtain ⟨data, left, bytes⟩ :=
    IpmiMsg.leave_eq { msg with dataLen := msg.dataLen - 3, data := moved } handled
  have reached : 3 ≤ msg.dataLen ∧ platform.getIana msg.iana = true := known
  refine ⟨{ msg with completionCode := handled.completionCode, dataLen := handled.data.length,
                     data }, ?_, rfl, ?_⟩
  · simp only [settle, dispatch, if_neg unlisted, if_neg filled, if_pos oem, readIana,
      if_pos reached, readCommand, wrote, left, bind_eq_bind, bind_some]
  · rw [← movedBytes]
    exact bytes

theorem finish_prefixed {iana : List UInt8} {msg : IpmiMsg} (sized : iana.length = 3)
    (success : msg.completionCode = ccSuccess) (oem : msg.netfn = netfnOem1s)
    (room : msg.dataLen + 3 ≤ ipmiMsgMaxLength) :
    ∃ data : IpmiData, finish iana msg = some { msg with dataLen := msg.dataLen + 3, data } ∧
      data.bytes = splice msg.data.bytes 0 (iana ++ msg.data.bytes.take msg.dataLen) := by
  have read : msg.data.read 0 msg.dataLen = some (msg.data.bytes.take msg.dataLen) :=
    Buffer.read_eq (by omega)
  have copied : (msg.data.bytes.take msg.dataLen).length = msg.dataLen := by
    rw [List.length_take, msg.data.sized]
    omega
  obtain ⟨shifted, wroteData, shiftedBytes⟩ := msg.data.write_eq
    (msg.data.bytes.take msg.dataLen) (show 3 + _ ≤ _ by omega)
  obtain ⟨data, wroteIana, dataBytes⟩ := shifted.write_eq iana
    (show 0 + _ ≤ _ by rw [sized]; decide)
  refine ⟨data, ?_, ?_⟩
  · simp only [finish, if_neg (not_not_intro success), if_pos oem, read, wroteData, wroteIana,
      bind_eq_bind, bind_some]
  · rw [dataBytes, shiftedBytes, splice_before sized (by rw [msg.data.sized]; decide)]

theorem finish_overflow {iana : List UInt8} {msg : IpmiMsg}
    (success : msg.completionCode = ccSuccess) (oem : msg.netfn = netfnOem1s)
    (admitted : msg.dataLen ≤ ipmiMsgMaxLength) (full : ipmiMsgMaxLength < msg.dataLen + 3) :
    finish iana msg = none := by
  have read : msg.data.read 0 msg.dataLen = some (msg.data.bytes.take msg.dataLen) :=
    Buffer.read_eq (by omega)
  have copied : (msg.data.bytes.take msg.dataLen).length = msg.dataLen := by
    rw [List.length_take, msg.data.sized]
    omega
  have lost : msg.data.write 3 (msg.data.bytes.take msg.dataLen) = none :=
    Buffer.write_eq_none (by omega)
  simp only [finish, if_neg (not_not_intro success), if_pos oem, read, lost, bind_eq_bind,
    bind_some, bind_none]

/-- An OEM 1S command with an IANA that is known. -/
theorem settle_prefixed {platform : Platform} {handled : Handled} {msg : IpmiMsg}
    (oem : msg.netfn = netfnOem1s) (known : msg.Known platform)
    (admitted : msg.dataLen ≤ ipmiMsgMaxLength)
    (room : (answer platform handled msg).2.length ≤ ipmiMsgMaxLength) :
    ∃ after, settle platform handled msg = some after ∧ Settled platform handled msg after := by
  obtain ⟨done, settles, shape, bytes⟩ := settle_known handled oem known admitted
  have unlisted : msg.netfn ∉ handledNetfns := by
    rw [oem]
    decide
  have answers :
      answer platform handled msg = (handled.completionCode, handled.answer msg.iana) := by
    rw [answer, if_neg unlisted, if_pos oem, if_pos known]
  have array : arrayAfter platform handled msg = handled.into msg.iana
      (splice msg.data.bytes 0 ((msg.data.bytes.drop 3).take (msg.dataLen - 3))) := by
    rw [arrayAfter, if_neg unlisted, if_pos ⟨oem, known⟩]
  have doneCode : done.completionCode = handled.completionCode := by rw [shape]
  have doneNetfn : done.netfn = netfnOem1s := by rw [shape]; exact oem
  have doneLen : done.dataLen = handled.data.length := by rw [shape]
  by_cases success : handled.completionCode = ccSuccess
  · have whole : handled.answer msg.iana = msg.iana ++ handled.data := if_pos success
    have count : (msg.iana ++ handled.data).length = handled.data.length + 3 := by
      rw [List.length_append, msg.length_iana, Nat.add_comm]
    rw [answers, whole, count] at room
    obtain ⟨data, finished, dataBytes⟩ := finish_prefixed msg.length_iana
      (doneCode.trans success) doneNetfn (by omega)
    have handledData : done.data.bytes.take done.dataLen = handled.data := by
      rw [bytes, doneLen, take_splice_zero]
    rw [handledData] at dataBytes
    refine ⟨_, settles.trans finished, ?_, ?_, ?_, ?_, ?_, ?_, ?_, ?_⟩
    · rw [shape]
    · rw [shape]
    · rw [shape]
    · rw [shape]
    · rw [answers]
      exact doneCode
    · rw [answers, whole, count, doneLen]
    · rw [answers, whole, doneLen, dataBytes, ← count, take_splice_zero]
    · rw [array, dataBytes, bytes, Handled.into, if_pos success]
  · have nothing : handled.answer msg.iana = [] := if_neg success
    have failed : done.completionCode ≠ ccSuccess := by
      rw [doneCode]
      exact success
    refine ⟨_, settles.trans (finish_failed failed), ?_, ?_, ?_, ?_, ?_, ?_, ?_, ?_⟩
    · rw [shape]
    · rw [shape]
    · rw [shape]
    · rw [shape]
    · rw [answers]
      exact doneCode
    · rw [answers, nothing, List.length_nil]
    · rw [answers, nothing, List.take_zero]
    · rw [array, Handled.into, if_neg success]
      exact bytes

/-- Data that the IANA pushes out of the array is written outside it. -/
theorem settle_overflow {platform : Platform} {handled : Handled} {msg : IpmiMsg}
    (admitted : msg.dataLen ≤ ipmiMsgMaxLength)
    (full : ipmiMsgMaxLength < (answer platform handled msg).2.length) :
    settle platform handled msg = none := by
  have handledFits := handled.admitted
  unfold answer at full
  split at full
  · unfold Handled.answer at full
    split at full
    · exact absurd full (Nat.not_lt.mpr handledFits)
    · cases full
  split at full
  · rename_i oem
    split at full
    · rename_i known
      obtain ⟨done, settles, shape, bytes⟩ := settle_known handled oem known admitted
      have doneLen : done.dataLen = handled.data.length := by rw [shape]
      have doneCode : done.completionCode = handled.completionCode := by rw [shape]
      unfold Handled.answer at full
      split at full
      · rename_i success
        rw [List.length_append, msg.length_iana] at full
        rw [settles]
        apply finish_overflow
        · exact doneCode.trans success
        · rw [shape]
          exact oem
        · omega
        · omega
      · cases full
    · cases full
  · cases full

theorem settle_settled {platform : Platform} {handled : Handled} {msg : IpmiMsg}
    (admitted : msg.dataLen ≤ ipmiMsgMaxLength)
    (returns : platform.isNotReturnCmd msg.netfn msg.cmd = false)
    (room : (answer platform handled msg).2.length ≤ ipmiMsgMaxLength) :
    ∃ after, settle platform handled msg = some after ∧ Settled platform handled msg after := by
  by_cases listed : msg.netfn ∈ handledNetfns
  · exact settle_handled listed
  by_cases oem : msg.netfn = netfnOem1s
  · by_cases known : msg.Known platform
    · exact settle_prefixed oem known admitted room
    · exact settle_unknown oem known returns
  · exact settle_invalid listed oem

/-- The switch keeps the net function and the command. -/
theorem dispatch_keeps {platform : Platform} {handled : Handled} {msg after : IpmiMsg}
    {iana : List UInt8} (ran : dispatch platform handled msg = some (after, iana)) :
    after.netfn = msg.netfn ∧ after.cmd = msg.cmd := by
  have leaves : ∀ {front left : IpmiMsg}, front.leave handled = some left →
      left.netfn = front.netfn ∧ left.cmd = front.cmd := by
    intro front left ran
    obtain ⟨data, leaves, -⟩ := front.leave_eq handled
    cases leaves.symm.trans ran
    exact ⟨rfl, rfl⟩
  unfold dispatch at ran
  split at ran
  · obtain ⟨left, leave, ran⟩ := Option.bind_eq_some_iff.mp ran
    cases ran
    exact leaves leave
  split at ran
  · cases ran
    exact ⟨rfl, rfl⟩
  split at ran
  · obtain ⟨read, -, ran⟩ := Option.bind_eq_some_iff.mp ran
    split at ran
    · obtain ⟨command, -, ran⟩ := Option.bind_eq_some_iff.mp ran
      obtain ⟨data, -, ran⟩ := Option.bind_eq_some_iff.mp ran
      obtain ⟨left, leave, ran⟩ := Option.bind_eq_some_iff.mp ran
      cases ran
      obtain ⟨netfn, cmd⟩ := leaves leave
      exact ⟨netfn, cmd⟩
    split at ran
    · obtain ⟨left, leave, ran⟩ := Option.bind_eq_some_iff.mp ran
      cases ran
      exact leaves leave
    · cases ran
      exact ⟨rfl, rfl⟩
  · cases ran
    exact ⟨rfl, rfl⟩

theorem ipmiCmdHandle_eq {platform : Platform} {services : Services} {handled : Handled}
    {msg : IpmiMsg} (returns : platform.isNotReturnCmd msg.netfn msg.cmd = false) :
    ipmiCmdHandle platform services handled msg =
      (settle platform handled msg).bind (respond platform services) := by
  unfold ipmiCmdHandle settle
  cases ran : dispatch platform handled msg with
  | none => rfl
  | some result =>
    obtain ⟨netfn, cmd⟩ := dispatch_keeps ran
    simp only [bind_eq_bind, bind_some, netfn, cmd, returns, Bool.false_eq_true,
      if_false]

/-! ## What the encoders send -/

theorem packed_eq {size count : Nat} {header data : List UInt8}
    (whole : count = header.length + data.length) (inside : count ≤ size) :
    packed size header data count = some (header ++ data) := by
  have blank : (List.replicate size (0 : UInt8)).length = size := List.length_replicate
  have headerInside : 0 + header.length ≤ (List.replicate size (0 : UInt8)).length := by omega
  have filled : (splice (List.replicate size 0) 0 header).length = size := by
    rw [length_splice headerInside, blank]
  have both : splice (splice (List.replicate size 0) 0 header) header.length data =
      splice (List.replicate size 0) 0 (header ++ data) :=
    splice_behind (Nat.zero_add _).symm (by omega)
  unfold packed
  rw [writeAt_eq headerInside, bind_eq_bind, bind_some, writeAt_eq (by omega),
    bind_some, both]
  apply rangeAt_splice [] (header ++ data) []
  · rw [List.length_append]
    omega
  · rw [List.nil_append, List.append_nil]
  · rfl
  · rw [List.length_append, whole]

theorem packed_eq_none {size count : Nat} {header data : List UInt8} (outside : size < count) :
    packed size header data count = none := by
  unfold packed
  cases wroteHeader : writeAt (List.replicate size 0) 0 header with
  | none => rfl
  | some first =>
    cases wroteData : writeAt first header.length data with
    | none => simp only [bind_eq_bind, bind_some, wroteData, bind_none]
    | some second =>
      have sized : second.length = size := by
        rw [length_of_writeAt wroteData, length_of_writeAt wroteHeader, List.length_replicate]
      simp only [bind_eq_bind, bind_some, wroteData]
      exact rangeAt_eq_none (by omega)

variable {services : Services} {handled : Handled} {msg after : IpmiMsg}

theorem Settled.read (settled : Settled platform handled msg after)
    (room : (answer platform handled msg).2.length ≤ ipmiMsgMaxLength) :
    after.data.read 0 after.dataLen = some (answer platform handled msg).2 := by
  rw [Buffer.read_eq (by rw [settled.dataLen]; omega), List.drop_zero, settled.content]

theorem Settled.packed (settled : Settled platform handled msg after) (size : Nat) :
    packed size [(after.netfn + 1) <<< 2, after.cmd, after.completionCode]
        (answer platform handled msg).2 (after.dataLen + 3) =
      if (answer platform handled msg).2.length + 3 ≤ size then
        some (expected platform handled msg).wire
      else none := by
  split
  · rename_i inside
    rw [packed_eq _ (by rw [settled.dataLen]; exact inside), settled.netfn, settled.cmd,
      settled.code]
    · rfl
    · rw [settled.dataLen, Nat.add_comm]
      rfl
  · exact packed_eq_none (by rw [settled.dataLen]; omega)

theorem Settled.usbWriteByIpmi (settled : Settled platform handled msg after)
    (room : (answer platform handled msg).2.length ≤ ipmiMsgMaxLength) :
    usbWriteByIpmi after = some [.usb (expected platform handled msg).wire] ↔
      (answer platform handled msg).2.length + 3 ≤ rxBuffSize := by
  simp only [Ipmi.usbWriteByIpmi, settled.read room, settled.packed, bind_eq_bind,
    bind_some]
  split
  · rename_i inside
    exact iff_of_true rfl inside
  · rename_i outside
    exact iff_of_false (by simp) outside

theorem Settled.copyAndSend (settled : Settled platform handled msg after) {ready : Bool}
    {size : Nat} {send : List UInt8 → Sent} (small : size ≤ ipmiMsgMaxLength)
    (room : (answer platform handled msg).2.length ≤ ipmiMsgMaxLength) :
    copyAndSend ready size send after = some [send (expected platform handled msg).wire] ↔
      ready = true ∧ (answer platform handled msg).2.length + 3 ≤ size := by
  unfold Ipmi.copyAndSend
  by_cases isReady : ready = true
  · by_cases inside : (answer platform handled msg).2.length + 3 ≤ size
    · have whole : min after.dataLen (size - 3) = after.dataLen :=
        Nat.min_eq_left (by rw [settled.dataLen]; omega)
      simp only [if_pos isReady, whole, settled.read room, settled.packed, bind_eq_bind,
        bind_some, if_pos inside]
      exact iff_of_true trivial ⟨isReady, inside⟩
    · have outside : size < after.dataLen + 3 := by
        rw [settled.dataLen]
        omega
      have part : after.data.read 0 (min after.dataLen (size - 3)) =
          some ((after.data.bytes.drop 0).take (min after.dataLen (size - 3))) :=
        Buffer.read_eq (by omega)
      simp only [if_pos isReady, part, packed_eq_none outside, bind_eq_bind,
        bind_some, bind_none]
      exact iff_of_false (by simp) (fun both => inside both.2)
  · rw [if_neg isReady]
    exact iff_of_false (by simp) (fun both => isReady both.1)

theorem netfn_or_one {netfn : UInt8} (requests : netfn % 2 = 0) : netfn ||| 1 = netfn + 1 := by
  have all : ∀ value : Fin 256, (UInt8.ofFin value) % 2 = 0 →
      (UInt8.ofFin value) ||| 1 = (UInt8.ofFin value) + 1 := by decide +kernel
  exact all netfn.toFin requests

theorem IpmiData.pldmContext_eq (platform : Platform) (data : IpmiData) :
    data.pldmContext platform = some (platform.contextOf data.bytes) := by
  have room := platform.room
  have inst : data.read platform.mctpInstOfs mctpInstSize = some _ :=
    Buffer.read_eq (by unfold Platform.mctpInstOfs; omega)
  have hdr : data.read pldmHdrOfs pldmHdrSize = some _ := Buffer.read_eq (by decide)
  have ext : data.read platform.extParamsOfs platform.extParamsSize = some _ :=
    Buffer.read_eq (by unfold Platform.extParamsOfs; omega)
  simp only [IpmiData.pldmContext, inst, hdr, ext, bind_eq_bind, bind_some]
  rfl

theorem Settled.sendMsgByPldm (settled : Settled platform handled msg after)
    (context : PldmContext) (requests : msg.netfn % 2 = 0)
    (room : (answer platform handled msg).2.length ≤ ipmiMsgMaxLength) :
    sendMsgByPldm platform after = some [.pldm context.response ([pldmSuccess] ++ platform.ianaId ++
        (expected platform handled msg).wire)] ↔
      7 + (answer platform handled msg).2.length ≤ platform.pldmMaxDataSize ∧
        (platform.contextOf (arrayAfter platform handled msg)).response = context.response := by
  have header : ([pldmSuccess] ++ platform.ianaId ++
      [(after.netfn ||| 1) <<< 2, after.cmd, after.completionCode]).length = 7 := by
    simp only [List.length_append, platform.ianaSized, List.length_cons, List.length_nil]
  have wire : [pldmSuccess] ++ platform.ianaId ++
      [(after.netfn ||| 1) <<< 2, after.cmd, after.completionCode] ++
        (answer platform handled msg).2 =
      [pldmSuccess] ++ platform.ianaId ++ (expected platform handled msg).wire := by
    rw [settled.netfn, netfn_or_one requests, settled.cmd, settled.code, List.append_assoc]
    rfl
  unfold Ipmi.sendMsgByPldm
  rw [IpmiData.pldmContext_eq, settled.array, bind_eq_bind, bind_some,
    settled.read room, bind_eq_bind, bind_some]
  by_cases inside : 7 + (answer platform handled msg).2.length ≤ platform.pldmMaxDataSize
  · rw [packed_eq (by rw [header, settled.dataLen]) (by rw [settled.dataLen]; exact inside), wire,
      bind_some]
    constructor
    · intro same
      have same := Option.some.inj same
      simp only [List.cons.injEq, Sent.pldm.injEq, and_true] at same
      exact ⟨inside, same⟩
    · intro both
      rw [both.2]
  · rw [packed_eq_none (by rw [settled.dataLen]; omega)]
    exact iff_of_false (by simp) (fun both => inside both.1)

theorem Settled.selfCase (settled : Settled platform handled msg after) :
    selfCase services after ≠ some [.self (expected platform handled msg)] := by
  unfold Ipmi.selfCase
  split
  · intro same
    obtain ⟨data, -, same⟩ := Option.bind_eq_some_iff.mp same
    have responses := Option.some.inj same
    simp only [List.cons.injEq, Sent.self.injEq, and_true] at responses
    have netfns : after.netfn = msg.netfn + 1 := congrArg IpmiResponse.netfn responses
    rw [settled.netfn] at netfns
    simp at netfns
  · simp

theorem Settled.ipmbSendResponse (settled : Settled platform handled msg after)
    (room : (answer platform handled msg).2.length ≤ ipmiMsgMaxLength) :
    ipmbSendResponse platform services after =
        some [.ipmb msg.infSource (expected platform handled msg)] ↔
      platform.ipmb msg.infSource = true ∧ services.ipmbRoom = true := by
  have response : after.response (after.netfn + 1) (answer platform handled msg).2 =
      expected platform handled msg := by
    unfold IpmiMsg.response expected
    rw [settled.netfn, settled.cmd, settled.seq, settled.code]
  unfold Ipmi.ipmbSendResponse
  rw [settled.infSource, settled.read room]
  by_cases listed : platform.ipmb msg.infSource = true
  · rw [if_pos listed, bind_eq_bind, bind_some, response]
    by_cases taken : services.ipmbRoom = true
    · rw [if_pos taken]
      exact iff_of_true rfl ⟨listed, taken⟩
    · rw [if_neg taken]
      exact iff_of_false (by simp) (fun both => taken both.2)
  · rw [if_neg listed]
    exact iff_of_false (by simp) (fun both => listed both.1)

theorem Settled.respond {request : IpmiRequest platform}
    (settled : Settled platform handled request.msg after)
    (room : (answer platform handled request.msg).2.length ≤ ipmiMsgMaxLength) :
    respond platform services after = some [request.answered handled] ↔
      Fits platform services handled request := by
  unfold Ipmi.respond IpmiRequest.answered IpmiResponse.sentTo Fits
  rw [settled.infSource]
  cases platform.route request.msg.infSource with
  | usb => exact (settled.usbWriteByIpmi room).trans (and_iff_right room).symm
  | kcs channel => exact (settled.copyAndSend (by decide) room).trans (and_iff_right room).symm
  | ssif => exact (settled.copyAndSend le_rfl room).trans (and_iff_right room).symm
  | pldm =>
    exact (settled.sendMsgByPldm request.context request.requests room).trans
      (and_iff_right room).symm
  | self => exact iff_of_false settled.selfCase (fun both => both.2)
  | ipmb => exact (settled.ipmbSendResponse room).trans (and_iff_right room).symm

/-! ## Every command -/

/-- A command that returns is answered with its answer, at the interface it came from, exactly if
the answer fits. -/
theorem ipmiCmdHandle_answers (platform : Platform) (services : Services) (handled : Handled)
    (request : IpmiRequest platform)
    (returns : platform.isNotReturnCmd request.msg.netfn request.msg.cmd = false) :
    ipmiCmdHandle platform services handled request.msg = some [request.answered handled] ↔
      Fits platform services handled request := by
  rw [ipmiCmdHandle_eq returns]
  by_cases room : (answer platform handled request.msg).2.length ≤ ipmiMsgMaxLength
  · obtain ⟨after, settles, settled⟩ := settle_settled request.admitted returns room
    rw [settles, bind_some]
    exact settled.respond room
  · rw [settle_overflow request.admitted (by omega), bind_none]
    exact iff_of_false (by simp) (fun fits => room fits.1)

/-- A platform with a USB link to its BMC, KCS, SSIF and the BMC's IPMB channel. -/
def benchPlatform : Platform where
  getIana iana := iana == [0x15, 0xA0, 0x00]
  ianaId := [0x15, 0xA0, 0x00]
  ianaSized := rfl
  isNotReturnCmd netfn cmd := netfn == netfnOem1s && (cmd == 0x01 || cmd == 0x02)
  usb := true
  kcs := true
  ssif := true
  ipmb source := source == 0x02
  pldmMaxDataSize := 512
  extParamsSize := 12
  room := by decide

def readyServices : Services :=
  { malloc := true, ssifReady := true, selfRoom := true, ipmbRoom := true }

def handledBytes (count : Nat) (admitted : count ≤ ipmiMsgMaxLength) : Handled where
  completionCode := ccSuccess
  data := List.replicate count 0xA5
  admitted := by rw [List.length_replicate]; exact admitted

/-- A request of the application net function from the first KCS channel. -/
def kcsRequest : IpmiRequest benchPlatform where
  msg := { netfn := 0x06, cmd := 0x01, seq := 0, infSource := hostKcs1, completionCode := 0,
           dataLen := 0, data := Buffer.zero ipmiMsgMaxLength }
  admitted := by decide
  requests := by decide
  context := { mctpInst := [], extParams := [], hdr := [] }
  stashed source := absurd source (by decide)

/-- Two bytes for a KCS channel are answered with five. -/
theorem ipmiCmdHandle_answers_kcs :
    ipmiCmdHandle benchPlatform readyServices (handledBytes 2 (by decide)) kcsRequest.msg =
      some [.kcs 0 [0x1C, 0x01, 0x00, 0xA5, 0xA5]] :=
  (ipmiCmdHandle_answers benchPlatform readyServices (handledBytes 2 (by decide)) kcsRequest
    (by decide)).mpr (by
      show 2 ≤ ipmiMsgMaxLength ∧ readyServices.malloc = true ∧ 2 + 3 ≤ kcsBuffSize
      decide)

/-- A handler's 254 bytes for a KCS channel are sent from a buffer that holds 253. -/
theorem kcsAnswer_overread :
    ipmiCmdHandle benchPlatform readyServices (handledBytes 254 (by decide)) kcsRequest.msg =
        none ∧
      ipmiCmdHandle benchPlatform readyServices (handledBytes 254 (by decide)) kcsRequest.msg ≠
        some [kcsRequest.answered (handledBytes 254 (by decide))] := by
  have overread : ipmiCmdHandle benchPlatform readyServices (handledBytes 254 (by decide))
      kcsRequest.msg = none := by
    decide +kernel
  exact ⟨overread, by rw [overread]; simp⟩

/-! ## A command of a PLDM request -/

theorem contextOf_splice {array bytes : List UInt8} (few : bytes.length ≤ platform.mctpInstOfs) :
    platform.contextOf (splice array 0 bytes) = platform.contextOf array := by
  have behind : ∀ place, platform.mctpInstOfs ≤ place →
      (splice array 0 bytes).drop place = array.drop place := by
    intro place later
    rw [splice_zero, List.drop_append, List.drop_eq_nil_of_le (by omega), List.nil_append,
      List.drop_drop, Nat.add_sub_cancel' (by omega)]
  unfold Platform.contextOf
  rw [behind _ le_rfl, behind _ (by unfold Platform.extParamsOfs Platform.mctpInstOfs; omega),
    behind _ (by unfold pldmHdrOfs Platform.mctpInstOfs; omega)]

/-- Data of request and response in front of the return address leave it as it is. -/
theorem contextOf_arrayAfter (short : msg.dataLen ≤ platform.mctpInstOfs)
    (few : handled.data.length + 3 ≤ platform.mctpInstOfs) :
    platform.contextOf (arrayAfter platform handled msg) = platform.contextOf msg.data.bytes := by
  unfold arrayAfter Handled.into
  split
  · exact contextOf_splice (by omega)
  split
  · have moved : ((msg.data.bytes.drop 3).take (msg.dataLen - 3)).length ≤ msg.dataLen - 3 :=
      List.length_take_le _ _
    have front : (msg.iana ++ handled.data).length = 3 + handled.data.length := by
      rw [List.length_append, msg.length_iana]
    split
    · rw [contextOf_splice (by omega), contextOf_splice (by omega), contextOf_splice (by omega)]
    · rw [contextOf_splice (by omega), contextOf_splice (by omega)]
  · rfl

theorem carried_answered {request : PldmRequest platform} {code : UInt8}
    {queued : List (IpmiRequest platform)} {put : IpmiRequest platform}
    (ran : ipmiCmd request = some (code, queued)) (listed : put ∈ queued)
    (returns : platform.isNotReturnCmd put.msg.netfn put.msg.cmd = false)
    (short : put.msg.dataLen ≤ platform.mctpInstOfs)
    (few : handled.data.length + 3 ≤ platform.mctpInstOfs)
    (room : handled.data.length + 10 ≤ platform.pldmMaxDataSize) :
    ipmiCmdHandle platform services handled put.msg =
      some [.pldm request.context.response ([pldmSuccess] ++ platform.ianaId ++
        (expected platform handled put.msg).wire)] := by
  obtain ⟨source, context⟩ := ipmiCmd_context ran put listed
  have address := put.stashed source
  rw [IpmiData.pldmContext_eq, context] at address
  have count : (answer platform handled put.msg).2.length ≤ handled.data.length + 3 := by
    have iana := put.msg.length_iana
    unfold answer Handled.answer
    split_ifs
    all_goals
      simp only [List.length_append, List.length_nil]
      omega
  have fits : handled.data.length + 3 ≤ ipmiMsgMaxLength := by
    unfold Platform.mctpInstOfs at few
    omega
  obtain ⟨after, settles, settled⟩ := settle_settled put.admitted returns (count.trans fits)
  have route : platform.route pldmSource = .pldm := rfl
  rw [ipmiCmdHandle_eq returns, settles, bind_some, respond, settled.infSource, source,
    route]
  refine (settled.sendMsgByPldm request.context put.requests (count.trans fits)).mpr
    ⟨by omega, ?_⟩
  rw [contextOf_arrayAfter short few, Option.some.inj address]

/-- A command without data, of the application net function. -/
def carried : PldmRequest benchPlatform where
  context := ⟨[1, 2, 3, 4], List.replicate 12 0, [0x81, 0x3F, 0x01, 0x00]⟩
  instSized := rfl
  extSized := rfl
  hdrSized := rfl
  buf := benchPlatform.ianaId ++ [0x18, 0x01]

theorem carried_answered_bytes :
    ∃ bytes, ∃ put : IpmiRequest benchPlatform, put.msg.cmd = 0x01 ∧
      ipmiCmdHandle benchPlatform readyServices (handledBytes 2 (by decide)) put.msg =
        some [.pldm carried.context.response bytes] := by
  have sent : (ipmiCmd carried).map (fun sent => sent.2.map fun put =>
      (put.msg.netfn, put.msg.cmd, put.msg.dataLen)) = some [(0x06, 0x01, 0)] := by decide +kernel
  obtain ⟨⟨code, queued⟩, ran, same⟩ := Option.map_eq_some_iff.mp sent
  obtain ⟨put, rest, rfl, shape, -⟩ := List.map_eq_cons_iff.mp same
  obtain ⟨netfn, cmd, dataLen⟩ : put.msg.netfn = _ ∧ put.msg.cmd = _ ∧ put.msg.dataLen = _ := by
    simpa only [Prod.mk.injEq] using shape
  exact ⟨_, put, cmd, carried_answered ran List.mem_cons_self (by rw [netfn, cmd]; decide)
    (by rw [dataLen]; decide) (by decide) (by decide)⟩

end OpenBic.Ipmi

/-!
## Messages that a handler answers

What the handlers of IPMI commands have of an `ipmi_msg`: its data, of which the first bytes are the
request's and then the response's, and the completion code.
-/

namespace OpenBic.Ipmi

open Library.Splice

/-- The completion codes that the handlers set. -/
inductive CompletionCode where
  | success
  | invalidParam
  | fruDevBusy
  | bridgeMsgErr
  | invalidIana
  | invalidCmd
  | outOfSpace
  | invalidReservation
  | invalidLength
  | lengthExceeded
  | paramOutOfRange
  | invalidDataField
  | notSuppInCurrState
  | unspecifiedError
deriving DecidableEq

/-- What a handler has of an `ipmi_msg`. -/
structure HandlerMsg where
  data : Nat → UInt8
  dataLen : Nat
  completionCode : CompletionCode

def HandlerMsg.bytes (msg : HandlerMsg) : List UInt8 := (List.range msg.dataLen).map msg.data

def HandlerMsg.complete (msg : HandlerMsg) (completionCode : CompletionCode) : HandlerMsg :=
  { msg with completionCode }

def HandlerMsg.copied (msg : HandlerMsg) (bytes : List UInt8) : HandlerMsg :=
  { msg with data := overwrite msg.data 0 bytes.length (bytes.getD · 0) }

def HandlerMsg.word (msg : HandlerMsg) (place : Nat) : Nat :=
  (msg.data (place + 1)).toNat * 256 + (msg.data place).toNat

theorem copied_data (msg : HandlerMsg) {bytes : List UInt8} {index : Nat}
    (inside : index < bytes.length) : (msg.copied bytes).data index = bytes.getD index 0 := by
  have here := @overwrite_inside _ msg.data 0 bytes.length index (bytes.getD · 0) inside
  rw [Nat.zero_add] at here
  exact here

theorem range_copied (msg : HandlerMsg) (bytes : List UInt8) :
    (List.range bytes.length).map (msg.copied bytes).data = bytes := by
  apply List.ext_getElem
  · rw [List.length_map, List.length_range]
  · intro index first second
    rw [List.getElem_map, List.getElem_range, copied_data msg second]
    exact List.getD_eq_getElem _ _ second

end OpenBic.Ipmi
