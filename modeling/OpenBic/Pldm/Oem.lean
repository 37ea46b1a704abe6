import OpenBic.Ipmi.CmdHandle
import OpenBic.Pldm.Receive

/-!
# PLDM OEM requests

`cmd_echo` and `ipmi_cmd` of `pldm_oem.c`. `cmd_echo` copies behind the IANA as many bytes as the
whole request has; `ipmi_cmd` puts the IPMI data into the array in whose last bytes it then keeps
where the response goes. A write outside the response buffer or outside the array comes to nothing.
-/

namespace OpenBic.Pldm.Oem

open List Library.Checked OpenBic.Ipmi OpenBic.Mctp
open OpenBic.Pldm.Receive (Memory hdrLen)

def pldmErrorInvalidData : UInt8 := 0x02

def pldmErrorInvalidLength : UInt8 := 0x03

/-- A platform whose response buffer holds a header, a completion code and an IANA. -/
structure OemPlatform extends Platform where
  /-- `PLDM_MAX_DATA_SIZE` is that large. -/
  enough : hdrLen + 4 ≤ pldmMaxDataSize

/-- A request behind its header: the memory it begins in and its length. -/
structure EchoRequest where
  buf : Memory
  len : Nat
  bounded : hdrLen + len ≤ msgAssemblyBufSize

def Memory.bytes (buf : Memory) (count : Nat) : List UInt8 := (List.range count).map buf

def checkIana (platform : OemPlatform) (buf : Memory) : Bool :=
  Memory.bytes buf 3 = platform.ianaId

abbrev RespBuf (platform : OemPlatform) : Type := Buffer platform.pldmMaxDataSize

/-- A response: the buffer and `resp_len`. -/
structure Response (platform : OemPlatform) where
  respBuf : RespBuf platform
  respLen : Nat

def Response.data {platform : OemPlatform} (response : Response platform) : List UInt8 :=
  (response.respBuf.bytes.drop hdrLen).take response.respLen

def completion {platform : OemPlatform} (respBuf : RespBuf platform) (code : UInt8) :
    Option (Response platform) := do
  let respBuf ← respBuf.write hdrLen [code]
  pure ⟨respBuf, 1⟩

def cmdEcho (platform : OemPlatform) (request : EchoRequest) (respBuf : RespBuf platform) :
    Option (Response platform) :=
  if checkIana platform request.buf = false then completion respBuf pldmErrorInvalidData
  else if platform.pldmMaxDataSize < hdrLen + 1 + request.len then
    completion respBuf pldmErrorInvalidLength
  else do
    let respBuf ← respBuf.write hdrLen (pldmSuccess :: platform.ianaId)
    let respBuf ← respBuf.write (hdrLen + 4) (Memory.bytes (request.buf.from 3) request.len)
    pure ⟨respBuf, request.len + 1⟩

/-- What `ipmi_cmd` leads to. -/
inductive IpmiAnswer where
  | response (data : List UInt8)
  /-- A message for `notify_ipmi_client`. -/
  | notified (msg : IpmiMsg)

/-- `ipmi_cmd`. -/
def ipmiCmdAnswer {platform : Platform} (request : PldmRequest platform) : Option IpmiAnswer :=
  if request.buf.length < 5 then
    some (.response (pldmErrorInvalidLength :: platform.ianaId))
  else if request.buf.take 3 ≠ platform.ianaId then some (.response [pldmErrorInvalidData])
  else do
    let data ← request.copied
    pure (.notified (request.msg data))

/-- A response that is no success. -/
def Refused (data : List UInt8) : Prop := ∃ code rest, data = code :: rest ∧ code ≠ pldmSuccess

/-- What is claimed of an echo. -/
def EchoHonest (platform : OemPlatform) (request : EchoRequest) : Prop :=
  ∀ respBuf, Returns (cmdEcho platform request respBuf) fun response =>
    response.data = pldmSuccess :: platform.ianaId ++
        Memory.bytes (request.buf.from 3) (request.len - 3) ∨
      Refused response.data

/-- The request has an IANA and the response has room for the header, a completion code, the IANA
and as many bytes as the request; or it is refused. -/
def EchoFits (platform : OemPlatform) (request : EchoRequest) : Prop :=
  checkIana platform request.buf = false ∨
    platform.pldmMaxDataSize < hdrLen + 1 + request.len ∨
    3 ≤ request.len ∧ hdrLen + 4 + request.len ≤ platform.pldmMaxDataSize

/-- The message has exactly the data of the request, apart from where the response goes. -/
structure Copied {platform : Platform} (request : PldmRequest platform) (msg : IpmiMsg) : Prop where
  dataLen : msg.dataLen = request.buf.length - 5
  data : msg.data.bytes.take msg.dataLen = request.buf.drop 5
  apart : msg.dataLen ≤ platform.mctpInstOfs
  context : msg.data.pldmContext platform = some request.context

/-- The data of a request is copied inside the array, or the request is refused. -/
def IpmiHonest {platform : Platform} (request : PldmRequest platform) : Prop :=
  Returns (ipmiCmdAnswer request) fun answer =>
    match answer with
    | .response data => Refused data
    | .notified msg => Copied request msg

/-- The data ends before the MCTP instance, or the request is refused. -/
def IpmiFits {platform : Platform} (request : PldmRequest platform) : Prop :=
  request.buf.length < 5 ∨ request.buf.take 3 ≠ platform.ianaId ∨
    request.buf.length - 5 ≤ platform.mctpInstOfs

/-! ## `cmd_echo` -/

variable {oem : OemPlatform} {request : EchoRequest}

theorem completion_returns (respBuf : RespBuf oem) (code : UInt8) :
    Returns (completion respBuf code) fun response => response.data = [code] := by
  have enough := oem.enough
  obtain ⟨after, wrote, -⟩ := respBuf.write_eq [code] (show hdrLen + 1 ≤ _ by omega)
  unfold completion
  rw [wrote]
  exact .intro (Buffer.take_drop_write wrote)

theorem refused_of_completion {respBuf : RespBuf oem} {code : UInt8} (failed : code ≠ pldmSuccess) :
    Returns (completion respBuf code) fun response =>
      response.data = pldmSuccess :: oem.ianaId ++
          Memory.bytes (request.buf.from 3) (request.len - 3) ∨ Refused response.data :=
  (completion_returns respBuf code).mono fun _ same => .inr ⟨code, [], same, failed⟩

theorem length_bytes (buf : Memory) (count : Nat) : (Memory.bytes buf count).length = count := by
  rw [Memory.bytes, length_map, length_range]

theorem take_bytes (buf : Memory) {few count : Nat} (fewer : few ≤ count) :
    (Memory.bytes buf count).take few = Memory.bytes buf few := by
  rw [Memory.bytes, ← map_take, take_range, Nat.min_eq_left fewer]
  rfl

theorem cmdEcho_overruns (known : checkIana oem request.buf = true)
    (admitted : hdrLen + 1 + request.len ≤ oem.pldmMaxDataSize)
    (long : oem.pldmMaxDataSize < hdrLen + 4 + request.len) (respBuf : RespBuf oem) :
    cmdEcho oem request respBuf = none := by
  have enough := oem.enough
  have four : (pldmSuccess :: oem.ianaId).length = 4 := by
    rw [length_cons, oem.ianaSized]
  obtain ⟨first, wrote, -⟩ :=
    respBuf.write_eq (pldmSuccess :: oem.ianaId) (show hdrLen + _ ≤ _ by omega)
  unfold cmdEcho
  rw [if_neg (by rw [known]; decide), if_neg (by omega), wrote]
  have overrun : first.write (hdrLen + 4) (Memory.bytes (request.buf.from 3) request.len) = none :=
    Buffer.write_eq_none (by rw [length_bytes]; exact long)
  exact Option.bind_eq_none_iff.mpr fun buffer same => by
    cases same
    exact Option.bind_eq_none_iff.mpr fun after wrong => by
      rw [overrun] at wrong
      cases wrong

theorem cmdEcho_echoes (known : checkIana oem request.buf = true)
    (fits : hdrLen + 4 + request.len ≤ oem.pldmMaxDataSize) (respBuf : RespBuf oem) :
    Returns (cmdEcho oem request respBuf) fun response =>
      response.data = (pldmSuccess :: oem.ianaId ++
        Memory.bytes (request.buf.from 3) request.len).take (request.len + 1) := by
  have four : (pldmSuccess :: oem.ianaId).length = 4 := by
    rw [length_cons, oem.ianaSized]
  obtain ⟨first, wroteFirst, bytesFirst⟩ :=
    respBuf.write_eq (pldmSuccess :: oem.ianaId) (show hdrLen + _ ≤ _ by omega)
  obtain ⟨second, wroteSecond, bytesSecond⟩ :=
    first.write_behind (hdrLen + 4) (Memory.bytes (request.buf.from 3) request.len) bytesFirst
      respBuf.sized (by omega) (by rw [length_bytes]; exact fits)
  unfold cmdEcho
  rw [if_neg (by rw [known]; decide), if_neg (by omega), wroteFirst]
  refine ⟨⟨second, request.len + 1⟩, Option.bind_eq_some_iff.mpr ⟨first, rfl,
    Option.bind_eq_some_iff.mpr ⟨second, wroteSecond, rfl⟩⟩, ?_⟩
  have whole : rangeAt (splice respBuf.bytes hdrLen (pldmSuccess :: oem.ianaId ++
      Memory.bytes (request.buf.from 3) request.len)) hdrLen (4 + request.len) = some _ :=
    rangeAt_splice [] (pldmSuccess :: oem.ianaId ++ Memory.bytes (request.buf.from 3) request.len)
      [] (by rw [length_append, four, length_bytes, respBuf.sized]; omega) (by simp) rfl
      (by rw [length_append, four, length_bytes])
  have inside := le_of_rangeAt whole
  rw [rangeAt_eq inside, ← bytesSecond] at whole
  show (second.bytes.drop hdrLen).take (request.len + 1) = _
  rw [← Option.some.inj whole, take_take, Nat.min_eq_left (by omega)]

/-- A request is echoed or refused when the response has room for it, and only then. -/
theorem echoHonest_iff (oem : OemPlatform) (request : EchoRequest) :
    EchoHonest oem request ↔ EchoFits oem request := by
  cases known : checkIana oem request.buf with
  | false =>
    refine iff_of_true (fun respBuf => ?_) (.inl known)
    unfold cmdEcho
    rw [if_pos known]
    exact refused_of_completion (by decide)
  | true =>
    by_cases long : oem.pldmMaxDataSize < hdrLen + 1 + request.len
    · refine iff_of_true (fun respBuf => ?_) (.inr (.inl long))
      unfold cmdEcho
      rw [if_neg (by rw [known]; decide), if_pos long]
      exact refused_of_completion (by decide)
    constructor
    · intro honest
      have respBuf := Buffer.zero oem.pldmMaxDataSize
      have echoed := honest respBuf
      by_cases fits : hdrLen + 4 + request.len ≤ oem.pldmMaxDataSize
      · obtain ⟨response, -, data, same⟩ := (cmdEcho_echoes known fits respBuf).and echoed
        rcases same with same | ⟨code, rest, starts, failed⟩
        · have length := congrArg List.length (data.symm.trans same)
          simp only [length_take, length_append, length_cons, oem.ianaSized,
            length_bytes] at length
          exact .inr (.inr ⟨by omega, fits⟩)
        · rw [data, cons_append, take_succ_cons] at starts
          exact absurd (List.cons.inj starts).1.symm failed
      · rw [cmdEcho_overruns known (by omega) (by omega)] at echoed
        obtain ⟨response, ran, -⟩ := echoed
        cases ran
    · rintro (unknown | refused | ⟨iana, fits⟩) respBuf
      · rw [known] at unknown
        cases unknown
      · exact absurd refused long
      · refine (cmdEcho_echoes known fits respBuf).mono fun response data => .inl ?_
        have four : (pldmSuccess :: oem.ianaId).length = 4 := by
          rw [length_cons, oem.ianaSized]
        rw [data, take_append, four, take_of_length_le (by omega)]
        have left : request.len + 1 - 4 = request.len - 3 := by omega
        rw [left, take_bytes _ (by omega)]

/-! ## `ipmi_cmd` -/

variable {platform : Platform} {command : PldmRequest platform}

/-- Data that ends before the MCTP instance is copied with it. -/
theorem copied_returns (fits : command.buf.length - 5 ≤ platform.mctpInstOfs) :
    Returns command.copied fun _ => True := by
  have room := platform.room
  have inst : platform.mctpInstOfs + mctpInstSize ≤ ipmiMsgMaxLength := by
    unfold Platform.mctpInstOfs
    omega
  have ext : platform.extParamsOfs + platform.extParamsSize ≤ ipmiMsgMaxLength := by
    unfold Platform.extParamsOfs
    omega
  have hdr : pldmHdrOfs + pldmHdrSize ≤ ipmiMsgMaxLength := by decide
  obtain ⟨first, wroteFirst, -⟩ :=
    (Buffer.zero ipmiMsgMaxLength).write_eq (command.buf.drop 5) (show 0 + _ ≤ _ by
      rw [length_drop]
      omega)
  obtain ⟨second, wroteSecond, -⟩ :=
    first.write_eq command.context.mctpInst (show platform.mctpInstOfs + _ ≤ _ by
      rw [command.instSized]
      exact inst)
  obtain ⟨third, wroteThird, -⟩ :=
    second.write_eq command.context.extParams (show platform.extParamsOfs + _ ≤ _ by
      rw [command.extSized]
      exact ext)
  obtain ⟨fourth, wroteFourth, -⟩ :=
    third.write_eq command.context.hdr (show pldmHdrOfs + _ ≤ _ by
      rw [command.hdrSized]
      exact hdr)
  refine ⟨fourth, ?_, trivial⟩
  refine Option.bind_eq_some_iff.mpr ⟨first, wroteFirst, ?_⟩
  refine Option.bind_eq_some_iff.mpr ⟨second, wroteSecond, ?_⟩
  exact Option.bind_eq_some_iff.mpr ⟨third, wroteThird, wroteFourth⟩

theorem copied_msg {data : IpmiData} (copied : command.copied = some data)
    (fits : command.buf.length - 5 ≤ platform.mctpInstOfs) : Copied command (command.msg data) := by
  obtain ⟨before, -, first, bytes⟩ := PldmRequest.copied_bytes copied
  have room : platform.mctpInstOfs ≤ before.bytes.length := by
    rw [before.sized]
    unfold Platform.mctpInstOfs
    omega
  refine ⟨rfl, ?_, fits, PldmRequest.copied_context copied⟩
  show data.bytes.take (command.buf.length - 5) = _
  have counted : (command.buf.drop 5).length = command.buf.length - 5 := length_drop
  rw [bytes, take_splice room fits, first, ← counted, take_splice_zero]

theorem ipmiHonest_iff (command : PldmRequest platform) :
    IpmiHonest command ↔ IpmiFits command := by
  unfold IpmiHonest ipmiCmdAnswer
  by_cases short : command.buf.length < 5
  · rw [if_pos short]
    exact iff_of_true (.intro ⟨pldmErrorInvalidLength, _, rfl, by decide⟩) (.inl short)
  rw [if_neg short]
  by_cases unknown : command.buf.take 3 ≠ platform.ianaId
  · rw [if_pos unknown]
    exact iff_of_true (.intro ⟨pldmErrorInvalidData, [], rfl, by decide⟩) (.inr (.inl unknown))
  rw [if_neg unknown]
  constructor
  · intro honest
    obtain ⟨data, copied, answered⟩ := honest.of_bind
    have exact : Copied command (command.msg data) := answered.of_some
    exact .inr (.inr (exact.dataLen ▸ exact.apart))
  · rintro (wrong | wrong | fits)
    · exact absurd wrong short
    · exact absurd wrong unknown
    · obtain ⟨data, copied, -⟩ := copied_returns fits
      have ran : command.copied = some data := copied
      rw [ran]
      exact .intro (copied_msg copied fits)

/-- Each of the two commands keeps to its buffers exactly if its request fits them. -/
theorem oem_honest (oem : OemPlatform) :
    (∀ request, EchoHonest oem request ↔ EchoFits oem request) ∧
      ∀ command : PldmRequest oem.toPlatform, IpmiHonest command ↔ IpmiFits command :=
  ⟨echoHonest_iff oem, ipmiHonest_iff⟩

def benchOem : OemPlatform := { benchPlatform with enough := by decide }

def longEcho : EchoRequest :=
  { buf := fun index => benchPlatform.ianaId.getD index 0, len := 505, bounded := by decide }

def longCommand : PldmRequest benchOem.toPlatform :=
  { context := ⟨[0, 0, 0, 0], List.replicate 12 0, [0, 0, 0, 0]⟩
    instSized := rfl
    extSized := rfl
    hdrSized := rfl
    buf := benchPlatform.ianaId ++ [0x18, 0x01] ++ List.replicate 528 0 }

/-- An echo and a command that are copied past the end of their buffers. -/
theorem long_overrun : ¬ EchoHonest benchOem longEcho ∧ ¬ IpmiHonest longCommand := by
  have length : longCommand.buf.length = 5 + 528 := by
    simp only [longCommand, length_append, length_replicate]
    rfl
  constructor
  · rw [echoHonest_iff]
    rintro (unknown | refused | ⟨-, fits⟩)
    · cases unknown
    · exact absurd refused (by decide)
    · exact absurd fits (by decide)
  · rw [ipmiHonest_iff]
    rintro (short | unknown | fits)
    · omega
    · exact unknown rfl
    · rw [length] at fits
      exact absurd fits (by decide)

end OpenBic.Pldm.Oem
