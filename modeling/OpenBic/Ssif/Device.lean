import OpenBic.Library.Splice
import OpenBic.Library.Machine

/-!
# The SSIF device

One SSIF channel as `ssif.c` keeps it: the state of the SMBus protocol, the request that is
being assembled, the response buffer with its semaphore, and the address lock. The functions
are those of the read task (`ssif_read_task`), of the read callback (`ssif_collect_data`) and
of the response side (`ssif_set_data`). A buffer is a memory from its first byte on; what lies
behind it is left open.
-/

namespace OpenBic.Ssif

open Library.Splice

/-- `IPMI_MSG_MAX_LENGTH`: the bytes of `ipmi_msg.data` and of `rsp_buff`. -/
def ipmiMsgMaxLength : Nat := 527

def ssifMaxIpmiDataSize : Nat := 32

def ssifBuffSize : Nat := 50

def netfnStorageReq : UInt8 := 0x0A

def netfnDcmiReq : UInt8 := 0x2C

def cmdStorageAddSel : UInt8 := 0x44

def ccSuccess : UInt8 := 0x00

/-- `ssif_status_t`. -/
inductive SsifStatus where
  | waitForWrStart
  | waitForWrNext
  | waitForRdStart
  | waitForRdNext
  | wrSingleStart
  | wrMultiStart
  | wrMiddle
  | wrEnd
  | rdStart
  | rdMiddle
  | rdRetry
  | rdEnd
deriving DecidableEq

/-- `ssif_err_status_t`. -/
inductive SsifErrStatus where
  | noErr
  | invalidCmd
  | invalidCmdInCurStatus
  | invalidPec
  | invalidLen
  | addrLckTimeout
  | addrLockErr
  | rspMsgTimeout
  | rspNotReady
  | targetWrRdError
  | unknownErr

/-- `enum ssif_cmd`. -/
inductive SsifCmd where
  | wrSingle
  | wrMultiStart
  | wrMultiMiddle
  | wrMultiEnd
  | rdStart
  | rdNext
  | rdRetry
deriving DecidableEq

def SsifCmd.byte : SsifCmd → UInt8
  | .wrSingle => 0x02
  | .wrMultiStart => 0x06
  | .wrMultiMiddle => 0x07
  | .wrMultiEnd => 0x08
  | .rdStart => 0x03
  | .rdNext => 0x09
  | .rdRetry => 0x0A

def SsifCmd.ofByte (byte : UInt8) : Option SsifCmd :=
  if byte = 0x02 then some .wrSingle
  else if byte = 0x06 then some .wrMultiStart
  else if byte = 0x07 then some .wrMultiMiddle
  else if byte = 0x08 then some .wrMultiEnd
  else if byte = 0x03 then some .rdStart
  else if byte = 0x09 then some .rdNext
  else if byte = 0x0A then some .rdRetry
  else none

/-- A message the host writes: the SMBus command, a length byte, that many bytes and, if there
is one byte more, its PEC. -/
abbrev Frame := List UInt8

def smbCmd (frame : Frame) : Option SsifCmd := SsifCmd.ofByte (frame.getD 0 0)

def lengthByte (frame : Frame) : Nat := (frame.getD 1 0).toNat

def block (frame : Frame) : List UInt8 := (frame.drop 2).take (lengthByte frame)

/-- What `ssif.c` keeps in `current_ipmi_msg.buffer`. -/
structure IpmiMsg where
  netfn : UInt8
  cmd : UInt8
  completionCode : UInt8
  /-- `data_len`, of 16 bits. -/
  dataLen : Nat
  /-- `data`, from its first byte on. -/
  data : Nat → UInt8

def IpmiMsg.zero : IpmiMsg := ⟨0, 0, 0, 0, fun _ => 0⟩

/-- A request as the IPMI layer gets it. -/
structure Request where
  /-- `netfn`, without the LUN. -/
  netfn : UInt8
  cmd : UInt8
  /-- The first `data_len` bytes of `data`. -/
  data : List UInt8
deriving DecidableEq

def IpmiMsg.request (m : IpmiMsg) : Request := ⟨m.netfn, m.cmd, cells m.data m.dataLen⟩

/-- A response of the IPMI layer. -/
structure Response where
  /-- `netfn`, as it goes to the host. -/
  netfn : UInt8
  cmd : UInt8
  completionCode : UInt8
  /-- The first `data_len` bytes of `data`. -/
  data : List UInt8
  /-- They are in the buffer of an `ipmi_msg`. -/
  fits : data.length ≤ ipmiMsgMaxLength

def Response.bytes (r : Response) : List UInt8 := r.netfn :: r.cmd :: r.completionCode :: r.data

def IpmiMsg.answer (m : IpmiMsg) (r : Response) : IpmiMsg :=
  ⟨r.netfn, r.cmd, r.completionCode, r.data.length,
    overwrite m.data 0 r.data.length fun index => r.data.getD index 0⟩

/-- What a platform chooses and the functions outside the service. -/
structure Platform where
  /-- The target address, `ssif_dev.addr`. -/
  addr : UInt8
  /-- `crc8` with polynomial `0x07`, initial value 0 and no reversal. -/
  crc8 : List UInt8 → UInt8
  rspPec : Bool
  requestMsgToBicFromHost : UInt8 → UInt8 → Bool
  immediateRespondFromHost : UInt8 → UInt8 → Bool
  /-- `smbr_cmd_handler`, where `ENABLE_SBMR` is defined. -/
  smbrCmdHandler : Option (Request → Option Response)

/-- One byte of a CRC with polynomial `0x07`, from its highest bit on. -/
def crc8Byte (crc byte : UInt8) : UInt8 :=
  (List.range 8).foldl (fun crc _ => if crc &&& 0x80 = 0 then crc <<< 1 else (crc <<< 1) ^^^ 0x07)
    (crc ^^^ byte)

/-- A platform that answers every request to itself by an IPMI handler. -/
def handlerPlatform : Platform where
  addr := 0x10
  crc8 bytes := bytes.foldl crc8Byte 0
  rspPec := false
  requestMsgToBicFromHost _ _ := true
  immediateRespondFromHost _ _ := false
  smbrCmdHandler := none

/-- One that leaves every request to the BMC and answers it at once. -/
def immediatePlatform : Platform :=
  { handlerPlatform with
    requestMsgToBicFromHost := fun _ _ => false
    immediateRespondFromHost := fun _ _ => true }

/-- `ssif_dev`, with the address that is set in the bus controller. -/
structure SsifDev where
  curStatus : SsifStatus
  currentIpmiMsg : IpmiMsg
  /-- `rsp_buff`, from its first byte on. -/
  rspBuff : Nat → UInt8
  rspBufLen : Nat
  remainDataLen : Nat
  curRdBlck : Nat
  /-- `rsp_buff_sem`, whose count is at most 1. -/
  rspBuffSem : Bool
  addrLock : Bool
  addressed : Bool
  errStatus : SsifErrStatus

/-- The device after `ssif_device_init`. -/
def SsifDev.init : SsifDev :=
  ⟨.waitForWrStart, .zero, fun _ => 0, 0, 0, 0, false, false, true, .noErr⟩

def SsifDev.errorRecord (d : SsifDev) (error : SsifErrStatus) : SsifDev :=
  { d with errStatus := error }

def SsifDev.reset (d : SsifDev) : SsifDev :=
  { d with curStatus := .waitForWrStart, currentIpmiMsg := .zero }

/-- `ssif_lock_ctl`, where `i2c_addr_set` succeeds or not. -/
def SsifDev.lockCtl (d : SsifDev) (lock addrSet : Bool) : SsifDev :=
  { d with
    addrLock := lock
    addressed := if addrSet then !lock else d.addressed }

/-- `ssif_lock_ctl` with the error that its callers record. -/
def SsifDev.lockOrRecord (d : SsifDev) (lock addrSet : Bool) : SsifDev :=
  if addrSet then d.lockCtl lock addrSet else (d.lockCtl lock addrSet).errorRecord .addrLockErr

/-- The end of a turn of `ssif_read_task` from `cold_reset` on. -/
def SsifDev.coldReset (d : SsifDev) (addrSet : Bool) : SsifDev :=
  (if d.addrLock then d.lockOrRecord false addrSet else d).reset

@[simp]
theorem SsifDev.lockOrRecord_curStatus (d : SsifDev) (lock addrSet : Bool) :
    (d.lockOrRecord lock addrSet).curStatus = d.curStatus := by
  unfold SsifDev.lockOrRecord
  split <;> rfl

@[simp]
theorem SsifDev.lockOrRecord_currentIpmiMsg (d : SsifDev) (lock addrSet : Bool) :
    (d.lockOrRecord lock addrSet).currentIpmiMsg = d.currentIpmiMsg := by
  unfold SsifDev.lockOrRecord
  split <;> rfl

@[simp]
theorem SsifDev.lockOrRecord_rspBuffSem (d : SsifDev) (lock addrSet : Bool) :
    (d.lockOrRecord lock addrSet).rspBuffSem = d.rspBuffSem := by
  unfold SsifDev.lockOrRecord
  split <;> rfl

@[simp]
theorem SsifDev.lockOrRecord_rspBufLen (d : SsifDev) (lock addrSet : Bool) :
    (d.lockOrRecord lock addrSet).rspBufLen = d.rspBufLen := by
  unfold SsifDev.lockOrRecord
  split <;> rfl

@[simp]
theorem SsifDev.reset_curStatus (d : SsifDev) : d.reset.curStatus = .waitForWrStart := rfl

@[simp]
theorem SsifDev.reset_currentIpmiMsg (d : SsifDev) : d.reset.currentIpmiMsg = .zero := rfl

@[simp]
theorem SsifDev.coldReset_curStatus (d : SsifDev) (addrSet : Bool) :
    (d.coldReset addrSet).curStatus = .waitForWrStart := rfl

@[simp]
theorem SsifDev.coldReset_currentIpmiMsg (d : SsifDev) (addrSet : Bool) :
    (d.coldReset addrSet).currentIpmiMsg = .zero := rfl

@[simp]
theorem SsifDev.coldReset_rspBuffSem (d : SsifDev) (addrSet : Bool) :
    (d.coldReset addrSet).rspBuffSem = d.rspBuffSem := by
  unfold SsifDev.coldReset
  split
  · exact d.lockOrRecord_rspBuffSem false addrSet
  · rfl

@[simp]
theorem SsifDev.coldReset_rspBufLen (d : SsifDev) (addrSet : Bool) :
    (d.coldReset addrSet).rspBufLen = d.rspBufLen := by
  unfold SsifDev.coldReset
  split
  · exact d.lockOrRecord_rspBufLen false addrSet
  · rfl

/-! ## Writing a request -/

/-- `ssif_status_check`: the state a command leads to, where it is expected. -/
def SsifDev.statusCheck (d : SsifDev) : Option SsifCmd → Except SsifErrStatus SsifStatus
  | some .wrSingle =>
    if d.curStatus ≠ .waitForWrStart ∧ d.curStatus ≠ .waitForRdStart then
      .error .invalidCmdInCurStatus
    else .ok .wrSingleStart
  | some .wrMultiStart =>
    if d.curStatus ≠ .waitForWrStart ∧ d.curStatus ≠ .waitForRdStart then
      .error .invalidCmdInCurStatus
    else .ok .wrMultiStart
  | some .wrMultiMiddle =>
    if d.curStatus ≠ .waitForWrNext then .error .invalidCmdInCurStatus else .ok .wrMiddle
  | some .wrMultiEnd =>
    if d.curStatus ≠ .waitForWrNext then .error .invalidCmdInCurStatus else .ok .wrEnd
  | some .rdStart =>
    if d.curStatus ≠ .waitForRdStart then .error .invalidCmdInCurStatus else .ok .rdStart
  | some .rdNext =>
    if d.curStatus ≠ .waitForRdNext then .error .invalidCmdInCurStatus else .ok .rdMiddle
  | some .rdRetry =>
    if d.curStatus ≠ .waitForRdNext then .error .invalidCmdInCurStatus else .ok .rdRetry
  | none => .error .invalidCmd

def SsifDev.dataPreHandle (d : SsifDev) (cmd : Option SsifCmd) : Except SsifErrStatus SsifStatus :=
  if cmd = some .rdStart ∨ cmd = some .rdNext ∨ cmd = some .rdRetry then .error .unknownErr
  else d.statusCheck cmd

/-- `ssif_pec_check`: whether there is a PEC, unless the message is too short or it is wrong. -/
def Platform.pecCheck (p : Platform) (rdata : Frame) : Option Bool :=
  if rdata.length < 2 then none
  else if (rdata.length : Int) - lengthByte rdata - 2 = 0 then some false
  else if rdata.getD (rdata.length - 1) 0 ≠
      p.crc8 ((p.addr <<< 1) :: rdata.take (rdata.length - 1)) then none
  else some true

def lengthCheck (rdata : Frame) (isPecExist : Bool) (size : Nat) : Bool :=
  rdata.length - 1 - isPecExist.toNat ≤ size ∧
    (lengthByte rdata : Int) = rdata.length - 2 - isPecExist.toNat

/-- The request after an accepted `SSIF_WR_SINGLE` or `SSIF_WR_MULTI_START`. -/
def IpmiMsg.start (m : IpmiMsg) (rdata : Frame) : IpmiMsg :=
  let dataLen := (lengthByte rdata + 2 ^ 16 - 2) % 2 ^ 16
  { m with
    netfn := rdata.getD 2 0 >>> 2
    cmd := rdata.getD 3 0
    dataLen := dataLen
    data := overwrite m.data 0 dataLen fun index => rdata.getD (4 + index) 0 }

/-- The request after an accepted `SSIF_WR_MULTI_MIDDLE` or `SSIF_WR_MULTI_END`. -/
def IpmiMsg.append (m : IpmiMsg) (rdata : Frame) : IpmiMsg :=
  { m with
    dataLen := (m.dataLen + lengthByte rdata) % 2 ^ 16
    data := overwrite m.data m.dataLen (lengthByte rdata) fun index => rdata.getD (2 + index) 0 }

/-- `sizeof(struct ssif_wr_start)`. -/
def sizeofSsifWrStart : Nat := 33

/-- `sizeof(struct ssif_wr_middle)`. -/
def sizeofSsifWrMiddle : Nat := 33

/-- What one message does to the request before `ssif_data_handle`, and whether it completes
it. -/
def SsifDev.assemble (p : Platform) (d : SsifDev) (rdata : Frame) :
    Except SsifErrStatus (SsifDev × Bool) :=
  if rdata.length = 0 then .error .invalidLen
  else
    match d.dataPreHandle (smbCmd rdata), p.pecCheck rdata with
    | .error error, _ => .error error
    | .ok _, none => .error .invalidPec
    | .ok status, some isPecExist =>
      match smbCmd rdata with
      | some .wrSingle =>
        if lengthCheck rdata isPecExist sizeofSsifWrStart then
          .ok ({ d with curStatus := status, currentIpmiMsg := d.currentIpmiMsg.start rdata }, true)
        else .error .invalidLen
      | some .wrMultiStart =>
        if lengthCheck rdata isPecExist sizeofSsifWrStart then
          .ok ({ d with
            curStatus := .waitForWrNext
            currentIpmiMsg := d.currentIpmiMsg.start rdata
            errStatus := .noErr }, false)
        else .error .invalidLen
      | some .wrMultiMiddle =>
        if lengthCheck rdata isPecExist sizeofSsifWrMiddle then
          if lengthByte rdata ≠ ssifMaxIpmiDataSize then .error .invalidLen
          else if d.currentIpmiMsg.dataLen = 0 then .error .invalidCmdInCurStatus
          else .ok ({ d with
            curStatus := .waitForWrNext
            currentIpmiMsg := d.currentIpmiMsg.append rdata
            errStatus := .noErr }, false)
        else .error .invalidLen
      | some .wrMultiEnd =>
        if lengthCheck rdata isPecExist sizeofSsifWrMiddle then
          if d.currentIpmiMsg.dataLen = 0 then .error .invalidCmdInCurStatus
          else
            .ok ({ d with
              curStatus := status, currentIpmiMsg := d.currentIpmiMsg.append rdata }, true)
        else .error .invalidLen
      | _ => .error .unknownErr

/-! ## Reading a response -/

def SsifDev.setData (d : SsifDev) (r : Response) : SsifDev :=
  let header := overwrite d.rspBuff 0 3 fun index =>
    [r.netfn, r.cmd, r.completionCode].getD index 0
  let copied :=
    if r.data.length ≤ ipmiMsgMaxLength - 3 then r.data.length else ipmiMsgMaxLength - 3
  { d with
    rspBuff := overwrite header 3 copied fun index => r.data.getD index 0
    rspBufLen := (r.data.length + 3) % 2 ^ 16
    rspBuffSem := true }

@[simp]
theorem SsifDev.setData_curStatus (d : SsifDev) (r : Response) :
    (d.setData r).curStatus = d.curStatus := rfl

@[simp]
theorem SsifDev.setData_currentIpmiMsg (d : SsifDev) (r : Response) :
    (d.setData r).currentIpmiMsg = d.currentIpmiMsg := rfl

/-- A block with its length in front and, where the platform wants one, its PEC behind. -/
def Platform.framed (p : Platform) (cmd : SsifCmd) (wdata : List UInt8) : List UInt8 :=
  let message := UInt8.ofNat wdata.length :: wdata
  if p.rspPec then
    message ++ [p.crc8 ((p.addr <<< 1) :: cmd.byte :: ((p.addr <<< 1) + 1) :: message)]
  else message

/-- `ssif_data_handle` with `SSIF_COLLECT_DATA`: the block for the host and the state after it.
The bus is initialised before the channel's task starts, so `i2c_target_write` takes it. -/
def SsifDev.collect (p : Platform) (d : SsifDev) (cmd : SsifCmd) :
    Except SsifErrStatus (SsifDev × List UInt8) :=
  if d.rspBufLen = 0 then .error .rspNotReady
  else
    match cmd with
    | .rdStart =>
      if ssifMaxIpmiDataSize < d.rspBufLen then
        .ok ({ d with
          curStatus := .waitForRdNext
          remainDataLen := d.rspBufLen - (ssifMaxIpmiDataSize - 2)
          curRdBlck := 0 },
          p.framed cmd (0x00 :: 0x01 :: cells d.rspBuff (ssifMaxIpmiDataSize - 2)))
      else
        .ok ({ d with
          curStatus := .waitForWrStart
          remainDataLen := 0
          curRdBlck := 0 },
          p.framed cmd (cells d.rspBuff d.rspBufLen))
    | .rdNext =>
      let rest := view d.rspBuff (d.rspBufLen - d.remainDataLen)
      if ssifMaxIpmiDataSize - 1 < d.remainDataLen then
        .ok ({ d with
          curStatus := .waitForRdNext
          remainDataLen := d.remainDataLen - (ssifMaxIpmiDataSize - 1)
          curRdBlck := (d.curRdBlck + 1) % 2 ^ 16 },
          p.framed cmd (UInt8.ofNat d.curRdBlck :: cells rest (ssifMaxIpmiDataSize - 1)))
      else
        .ok ({ d with
          curStatus := .waitForWrStart
          remainDataLen := 0
          curRdBlck := (d.curRdBlck + 1) % 2 ^ 16 },
          p.framed cmd (0xFF :: cells rest d.remainDataLen))
    | _ => .error .invalidCmd

/-- `ssif_collect_data`: the device and the message put before the bus controller, if one is. -/
def SsifDev.collectData (p : Platform) (d : SsifDev) (cmd : SsifCmd) :
    SsifDev × Option (List UInt8) :=
  if cmd = .rdStart ∨ cmd = .rdNext then
    match d.statusCheck (some cmd) with
    | .error error => ((d.errorRecord error).reset, none)
    | .ok status =>
      match ({ d with curStatus := status } : SsifDev).collect p cmd with
      | .error error => ((d.errorRecord error).reset, none)
      | .ok (next, message) =>
        if next.curStatus = .waitForWrStart then ((next.errorRecord .noErr).reset, some message)
        else (next, some message)
  else if cmd = .rdRetry then (d.reset, none)
  else (d, none)

theorem SsifDev.collect_curStatus {p : Platform} {d next : SsifDev} {cmd : SsifCmd}
    {message : List UInt8} (collected : d.collect p cmd = .ok (next, message)) :
    (next.curStatus = .waitForRdNext ∨ next.curStatus = .waitForWrStart) ∧
      next.currentIpmiMsg = d.currentIpmiMsg ∧ next.rspBuffSem = d.rspBuffSem := by
  unfold SsifDev.collect at collected
  split at collected
  · cases collected
  · cases cmd <;> simp only at collected
    case rdStart | rdNext =>
      split at collected <;> obtain ⟨rfl, rfl⟩ := Prod.mk.inj (Except.ok.inj collected) <;> simp
    all_goals cases collected

theorem SsifDev.collectData_curStatus (p : Platform) (d : SsifDev) {cmd : SsifCmd}
    (reading : cmd = .rdStart ∨ cmd = .rdNext ∨ cmd = .rdRetry) :
    ((d.collectData p cmd).1.curStatus = .waitForRdNext ∨
        (d.collectData p cmd).1.curStatus = .waitForWrStart) ∧
      ((d.collectData p cmd).1.currentIpmiMsg = d.currentIpmiMsg ∨
        (d.collectData p cmd).1.currentIpmiMsg = .zero) ∧
      (d.collectData p cmd).1.rspBuffSem = d.rspBuffSem := by
  unfold SsifDev.collectData
  split
  · split
    · exact ⟨.inr rfl, .inr rfl, rfl⟩
    · split
      · exact ⟨.inr rfl, .inr rfl, rfl⟩
      · rename_i collected
        obtain ⟨status, message, sem⟩ := SsifDev.collect_curStatus collected
        split
        · exact ⟨.inr rfl, .inr rfl, sem⟩
        · exact ⟨status, .inl message, sem⟩
  · rename_i other
    have retry : cmd = .rdRetry := by tauto
    rw [if_pos retry]
    exact ⟨.inr rfl, .inr rfl, rfl⟩

end OpenBic.Ssif
