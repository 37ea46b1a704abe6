import OpenBic.Ipmi.CmdHandle
import Mathlib.Tactic.IntervalCases

/-!
# IPMI over PLDM between two BICs

`pldm_send_ipmi_response` builds the response of the OEM command `PLDM_OEM_IPMI_BRIDGE` after
`struct _ipmi_cmd_resp`, with an IANA behind the completion code. `pldm_send_ipmi_request` reads the
response after `struct _pldm_ipmi_cmd_resp`, which has none, and counts it in eight bits.
-/

namespace OpenBic.Pldm.IpmiBridge

open Library.Checked OpenBic.Ipmi

def ccUnspecifiedError : UInt8 := 0xFF

/-- What the bridge reads and writes of an `ipmi_msg`. -/
structure Message where
  netfn : UInt8
  cmd : UInt8
  completionCode : UInt8
  /-- The first `data_len` bytes of `data`. -/
  data : List UInt8
  fits : data.length ≤ ipmiMsgMaxLength

/-- A request: its net function is even. -/
structure Request extends Message where
  requests : netfn &&& 0x01 = 0

/-- A buffer of `PLDM_MAX_DATA_SIZE` bytes. -/
abbrev DataBuffer (platform : Platform) : Type := Buffer platform.pldmMaxDataSize

/-- The data of the PLDM message that `pldm_send_ipmi_response` sends. -/
def pldmSendIpmiResponse (platform : Platform) (msg : Message) : Option (List UInt8) := do
  let respBuf ← (Buffer.zero platform.pldmMaxDataSize : DataBuffer platform).write 0
    (pldmSuccess :: platform.ianaId ++
      [(msg.netfn ||| 0x01) <<< 2, msg.cmd, msg.completionCode] ++ msg.data)
  respBuf.read 0 (7 + msg.data.length)

/-- The data of the PLDM message that `pldm_send_ipmi_request` sends. -/
def requestData (platform : Platform) (msg : Message) : Option (List UInt8) := do
  let reqBuf ← (Buffer.zero platform.pldmMaxDataSize : DataBuffer platform).write 0
    (platform.ianaId ++ [msg.netfn <<< 2, msg.cmd] ++ msg.data)
  reqBuf.read 0 (5 + msg.data.length)

/-- The data behind the four bytes of `struct _pldm_ipmi_cmd_resp`. -/
def respData {platform : Platform} (rbuf : DataBuffer platform) (resLen : UInt8) :
    Option (List UInt8) :=
  if 4 < resLen.toNat then rbuf.read 4 (resLen.toNat - 4) else some []

/-- What `pldm_send_ipmi_request` takes from a response of `res_len` bytes in `rbuf`. -/
def decodeResponse {platform : Platform} (rbuf : DataBuffer platform) (resLen : UInt8) :
    Option Message := do
  let completionCode ← byteAt rbuf.bytes 0
  let netfnLun ← byteAt rbuf.bytes 1
  let cmd ← byteAt rbuf.bytes 2
  let ipmiCompCode ← byteAt rbuf.bytes 3
  let data ← respData rbuf resLen
  if fits : data.length ≤ ipmiMsgMaxLength then
    pure { netfn := netfnLun >>> 2, cmd,
           completionCode := if completionCode ≠ pldmSuccess then ccUnspecifiedError
             else ipmiCompCode,
           data, fits }
  else none

/-- `pldm_send_ipmi_request` with the peer that answers; without a response it returns `false`. -/
def pldmSendIpmiRequest (platform : Platform) (peer : List UInt8 → Option (List UInt8))
    (msg : Message) : Option (Int × Message) := do
  let sent ← requestData platform msg
  match peer sent with
  | none => pure (0, msg)
  | some resp =>
    -- `mctp_pldm_read` copies what its buffer holds
    let received := resp.take platform.pldmMaxDataSize
    let rbuf ← (Buffer.zero platform.pldmMaxDataSize : DataBuffer platform).write 0 received
    let resLen := UInt8.ofNat received.length
    if resLen = 0 then pure (0, msg)
    else
      let got ← decodeResponse rbuf resLen
      pure (0, got)

/-- The response of one BIC comes back on the other, with the net function of a response, and the
call returns success. -/
def RoundTrip (platform : Platform) (request : Request) (response : Message) : Prop :=
  ∃ data got, pldmSendIpmiResponse platform response = some data ∧
    pldmSendIpmiRequest platform (fun _ => some data) request.toMessage = some (0, got) ∧
    got.completionCode = response.completionCode ∧ got.netfn = response.netfn ||| 0x01 ∧
    got.cmd = response.cmd ∧ got.data = response.data

variable {platform : Platform} {request response got : Message}

theorem length_response {data : List UInt8}
    (built : pldmSendIpmiResponse platform response = some data) :
    data.length = 7 + response.data.length ∧ data.length ≤ platform.pldmMaxDataSize := by
  obtain ⟨respBuf, wrote, read⟩ := Option.bind_eq_some_iff.mp built
  have counted := length_of_rangeAt read
  have inside := le_of_rangeAt read
  rw [respBuf.sized] at inside
  omega

theorem length_decoded {rbuf : DataBuffer platform} {resLen : UInt8}
    (decoded : decodeResponse rbuf resLen = some got) :
    got.data.length = resLen.toNat - 4 := by
  unfold decodeResponse at decoded
  simp only [Option.bind_eq_bind, Option.bind_eq_some_iff] at decoded
  obtain ⟨_, _, _, _, _, _, _, _, data, read, decoded⟩ := decoded
  have counted : data.length = resLen.toNat - 4 := by
    unfold respData at read
    split at read
    · exact length_of_rangeAt read
    · cases read
      rw [List.length_nil]
      omega
  split at decoded
  · cases decoded
    exact counted
  · cases decoded

theorem or_one_and_one (netfn : UInt8) : (netfn ||| 0x01) &&& 0x01 = 1 := by
  apply UInt8.toBitVec_inj.mp
  ext i inside
  interval_cases i <;> simp

theorem data_ne {data : List UInt8} {request : Request}
    (built : pldmSendIpmiResponse platform response = some data)
    (ran : pldmSendIpmiRequest platform (fun _ => some data) request.toMessage = some (0, got))
    (netfn : got.netfn = response.netfn ||| 0x01) : got.data ≠ response.data := by
  intro same
  obtain ⟨counted, fits⟩ := length_response built
  obtain ⟨sent, -, ran⟩ := Option.bind_eq_some_iff.mp ran
  obtain ⟨rbuf, -, ran⟩ := Option.bind_eq_some_iff.mp ran
  rw [List.take_of_length_le fits] at ran
  dsimp only at ran
  split at ran
  · -- nothing is decoded, and the message is still the request
    obtain ⟨-, rfl⟩ := Prod.mk.inj (Option.some.inj ran)
    have odd := or_one_and_one response.netfn
    rw [← netfn, request.requests] at odd
    cases odd
  · obtain ⟨other, decoded, ran⟩ := Option.bind_eq_some_iff.mp ran
    obtain ⟨-, rfl⟩ := Prod.mk.inj (Option.some.inj ran)
    have length := length_decoded decoded
    rw [same, UInt8.toNat_ofNat'] at length
    omega

/-- No response comes back as the device gave it, for any platform, request or response. -/
theorem not_roundTrip (platform : Platform) (request : Request) (response : Message) :
    ¬ RoundTrip platform request response := by
  rintro ⟨data, got, built, ran, -, netfn, -, same⟩
  exact data_ne built ran netfn same

def deviceId : Request :=
  { netfn := 0x06, cmd := 0x01, completionCode := 0, data := [], fits := by decide,
    requests := by decide }

def completed : Message :=
  { netfn := 0x07, cmd := 0x01, completionCode := ccSuccess, data := [], fits := by decide }

/-- The completion code of a response is lost on the way back. -/
theorem completed_lost : ¬ RoundTrip benchPlatform deviceId completed := by
  rintro ⟨data, got, built, ran, -, netfn, -, same⟩
  exact data_ne built ran netfn same

end OpenBic.Pldm.IpmiBridge
