import OpenBic.Library.Checked
import OpenBic.Pldm.FirmwareParameters
import OpenBic.Pldm.UpdateState

/-!
# Requests of the firmware update

The handlers in `pldm_fw_update_cmd_tbl` of `pldm_firmware_update.c`, on the bytes of a request. A
read that is not inside the request, or a copy that is not inside `cur_update_comp_str`, has no
result. What a handler does to the state machine is `handle` of the command that its bytes say.
-/

namespace OpenBic.Pldm.UpdateRequest

open List Option Library.Checked Library.Machine Library.Number

/-! ## The device -/

/-- What `verify_comp` looks at in an entry of `comp_config`. -/
structure ComponentInfo where
  enable : Bool
  compClassification : Nat
  compIdentifier : Nat
  compClassificationIndex : Nat

/-- What the platform has for an update. -/
structure UpdatePlatform where
  maxFwupdateRspBufSize : Nat
  compConfig : List ComponentInfo
  findUpdateInfoWork : Nat → Nat
  /-- `plat_pldm_pass_component_table_check`, with `ENABLE_PLDM_PASS_COMPONENT_CHECK`. -/
  passComponentTableCheck : Option (Nat → List UInt8 → UInt8)
  /-- `plat_pldm_query_device_identifiers`, which has no result when it reads past a request. -/
  queryDeviceIdentifiers : List UInt8 → Option (List UInt8)
  queryDownstreamDevices : List UInt8 → Option (List UInt8)
  queryDownstreamIdentifiers : List UInt8 → Option (List UInt8)
  parameters : FirmwareParameters.FwPlatform

/-- The variables of the firmware update. -/
structure UpdateDevice where
  fd : Fd
  maxBuffSize : Nat
  imageSize : Nat
  compId : Nat
  compStr : Buffer 100

/-- What does not depend on a request. -/
structure Circumstances (platform : UpdatePlatform) where
  mallocOk : Bool
  /-- Whether `do_self_activate` of a component succeeds. -/
  selfActivated : Nat → Bool
  respBuf : Buffer platform.parameters.maxDataSize

/-- The commands of `pldm_fw_update_cmd_tbl`. -/
inductive UpdateCommand where
  | queryDeviceIdentifiers
  | getFirmwareParameters
  | queryDownstreamDevices
  | queryDownstreamIdentifiers
  | getDownstreamFirmwareParameters
  | requestUpdate
  | passComponentTable
  | updateComponent
  | activateFirmware
  | getStatus
  | cancelUpdate
deriving DecidableEq

/-- What a handler leaves: the device, and a response if one is inside its buffer. -/
structure Handled where
  device : UpdateDevice
  response : Option (List UInt8)

/-! ## The code -/

def answered (device : UpdateDevice) (response : List UInt8) : Handled := ⟨device, some response⟩

def compRspFdNotSupport : UInt8 := 0x06

def compRspUnknownErr : UInt8 := 0xD0

def verifyComp (platform : UpdatePlatform) (compClass compId compClassIdx : Nat) : UInt8 :=
  if platform.compConfig.length = 0 then compRspUnknownErr
  else
    let componentId := platform.findUpdateInfoWork compId
    if platform.compConfig.any fun info => info.enable && compClass == info.compClassification &&
        componentId == info.compIdentifier && compClassIdx == info.compClassificationIndex
    then 0x00
    else compRspFdNotSupport

def requestUpdate (platform : UpdatePlatform) (device : UpdateDevice) (request : List UInt8) :
    Option Handled := do
  let compImageSetVerStrLen ← byteAt request 10
  if request.length ≠ 11 + compImageSetVerStrLen.toNat then
    return answered device [ccInvalidLength]
  if device.fd.current ≠ .idle then return answered device [ccAlreadyInUpdateMode]
  let maxTransferSize ← fieldAt request 0 4
  -- The field has thirty-two bits and the variable has sixteen.
  let maxBuffSize := min (maxTransferSize % 2 ^ 16) platform.maxFwupdateRspBufSize
  let pkgDataLen ← fieldAt request 7 2
  let fdWillSendPkgData : UInt8 := if pkgDataLen ≠ 0 then 1 else 0
  let numOfComp ← fieldAt request 4 2
  let _ ← rangeAt request 11 compImageSetVerStrLen.toNat
  let (fd, code) := Pldm.requestUpdate device.fd true numOfComp
  return ⟨{ device with fd, maxBuffSize }, some [code, 0, 0, fdWillSendPkgData]⟩

def acceptable (compClassification compIdentifier compClassificationIndex : Nat) : Bool :=
  compClassification == compDownstreamDevice && decide (compIdentifier ≤ 0x0FFF) &&
    compClassificationIndex == 0

def passComponentTable (platform : UpdatePlatform) (device : UpdateDevice)
    (request : List UInt8) : Option Handled := do
  let compVerStrLen ← byteAt request 11
  if request.length ≠ 12 + compVerStrLen.toNat then return answered device [ccInvalidLength]
  let compClassification ← fieldAt request 1 2
  let compIdentifier ← fieldAt request 3 2
  let compVerStr ← rangeAt request 12 compVerStrLen.toNat
  let checkResult := match platform.passComponentTableCheck with
    | none => ccSuccess
    | some check => check compIdentifier compVerStr
  if checkResult ≠ ccSuccess then return answered device [checkResult]
  if device.fd.current ≠ .learnComp then return answered device [ccInvalidStateForCommand]
  let transferFlag ← byteAt request 0
  if transferFlag.toNat ≠ startAndEnd then return answered device [ccInvalidData]
  let compClassificationIndex ← byteAt request 5
  if !acceptable compClassification compIdentifier compClassificationIndex.toNat then
    return answered device [ccInvalidData]
  let compRespCode :=
    verifyComp platform compClassification compIdentifier compClassificationIndex.toNat
  let compResp : UInt8 := if compRespCode ≠ 0 then 1 else 0
  let rcvCnt := (device.fd.rcvCnt + 1) % 2 ^ 16
  let fd := if rcvCnt = device.fd.compCnt then { device.fd.stateUpdate .rdyXfer with rcvCnt := 0 }
    else { device.fd with rcvCnt }
  return ⟨{ device with fd }, some [ccSuccess, compResp, compRespCode]⟩

/-- The copy of a version into `cur_update_comp_str`, and the zero behind it. -/
def storeVersion (compStr : Buffer 100) (version : List UInt8) : Option (Buffer 100) := do
  let compStr ← compStr.write 0 version
  compStr.write version.length [0]

def updateComponent (platform : UpdatePlatform) (circumstances : Circumstances platform)
    (device : UpdateDevice) (request : List UInt8) : Option Handled := do
  let compVerStrLen ← byteAt request 18
  if request.length ≠ 19 + compVerStrLen.toNat then return answered device [ccInvalidLength]
  if device.fd.current ≠ .rdyXfer then return answered device [ccNotInUpdateMode]
  let compClassification ← fieldAt request 0 2
  let compIdentifier ← fieldAt request 2 2
  let compClassificationIndex ← byteAt request 4
  if !acceptable compClassification compIdentifier compClassificationIndex.toNat then
    return answered device [ccInvalidData]
  let compRespCode :=
    verifyComp platform compClassification compIdentifier compClassificationIndex.toNat
  let compResp : UInt8 := if compRespCode ≠ 0 then 1 else 0
  let imageSize ← fieldAt request 9 4
  let updateOptionFlags ← rangeAt request 13 4
  let compVerStr ← rangeAt request 19 compVerStrLen.toNat
  let device := { device with imageSize }
  let behind := [compResp, compRespCode] ++ updateOptionFlags ++ digits 1 2
  -- The component is not supported.
  if compResp ≠ 0 then return answered device (ccSuccess :: behind)
  let compStr ← storeVersion device.compStr compVerStr
  let device := { device with compId := compIdentifier, compStr }
  if !circumstances.mallocOk then return answered device (ccError :: behind)
  let fd := Fd.stateUpdate { device.fd with threads := device.fd.threads ++ [.created] } .download
  return ⟨{ device with fd }, some (ccSuccess :: behind)⟩

def unknown : List UInt8 := [0x75, 0x6E, 0x6B, 0x6E, 0x6F, 0x77, 0x6E, 0]

/-- `pldm_status_reset` sets the record of the component, too. -/
def UpdateDevice.statusReset (device : UpdateDevice) (fd : Fd) : Option UpdateDevice := do
  let compStr ← device.compStr.write 0 unknown
  return { device with fd := fd.statusReset, compId := 0xFFFF, compStr }

def activateFirmware {platform : UpdatePlatform} (circumstances : Circumstances platform)
    (device : UpdateDevice) (request : List UInt8) : Option Handled := do
  if request.length ≠ 1 then return answered device [ccInvalidLength]
  if device.fd.current ≠ .rdyXfer then return answered device [ccInvalidStateForCommand]
  let selfContainedActivationRequest ← byteAt request 0
  if selfContainedActivationRequest ≠ 0 then return answered device [ccInvalidData]
  let fd := device.fd.stateUpdate .activate
  if !circumstances.selfActivated device.compId then
    return answered { device with fd := { fd with aux := .failed } }
      [ccSelfContainedActivationNotPermitted]
  let device ← device.statusReset { fd with aux := .success }
  return answered device [ccSuccess, 0, 0]

def State.code : State → UInt8
  | .idle => 0
  | .learnComp => 1
  | .rdyXfer => 2
  | .download => 3
  | .verify => 4
  | .apply => 5
  | .activate => 6

def AuxState.code : AuxState → UInt8
  | .inProgress => 0
  | .success => 1
  | .failed => 2
  | .notInUpdate => 3

def getStatus (device : UpdateDevice) (request : List UInt8) : Option Handled :=
  match Pldm.getStatus device.fd (request.length == 0) with
  | (code, none) => some (answered device [code])
  | (code, some status) => some (answered device
      ([code, State.code status.curState, State.code status.preState,
        AuxState.code status.auxState, status.auxStateStatus, 0x65, 0] ++ digits 0 4))

def cancelUpdate (device : UpdateDevice) (request : List UInt8) : Option Handled := do
  if request.length ≠ 0 then return answered device [ccInvalidLength]
  if device.fd.current = .idle then return answered device [ccNotInUpdateMode]
  let device ← device.statusReset device.fd
  return answered device ([ccSuccess, 0] ++ digits 0 8)

/-- The handler of a command. The reports of firmware parameters look at the length of a request,
and what they write is looked at with them. -/
def handleRequest (platform : UpdatePlatform) (circumstances : Circumstances platform)
    (device : UpdateDevice) (request : List UInt8) : UpdateCommand → Option Handled
  | .queryDeviceIdentifiers => (platform.queryDeviceIdentifiers request).map (answered device)
  | .getFirmwareParameters => some ⟨device, (FirmwareParameters.getFirmwareParameter
      platform.parameters request.length circumstances.respBuf).bind (·.sent)⟩
  | .queryDownstreamDevices => (platform.queryDownstreamDevices request).map (answered device)
  | .queryDownstreamIdentifiers =>
    (platform.queryDownstreamIdentifiers request).map (answered device)
  | .getDownstreamFirmwareParameters =>
    some ⟨device, (FirmwareParameters.getDownstreamFirmwareParameters platform.parameters
      request.length circumstances.respBuf).bind (·.sent)⟩
  | .requestUpdate => requestUpdate platform device request
  | .passComponentTable => passComponentTable platform device request
  | .updateComponent => updateComponent platform circumstances device request
  | .activateFirmware => activateFirmware circumstances device request
  | .getStatus => getStatus device request
  | .cancelUpdate => cancelUpdate device request

/-! ## What is claimed -/

def byteOf (request : List UInt8) (index : Nat) : Nat := (request.getD index 0).toNat

def fieldOf (request : List UInt8) (start width : Nat) : Nat :=
  Library.Field.load (fun index => request.getD index 0) start width

/-- The length of a version disagrees with the request, or the version is longer than
`cur_update_comp_str`, where it is copied. -/
def Misdeclares (request : List UInt8) : UpdateCommand → Prop
  | .requestUpdate => request.length ≠ 11 + byteOf request 10
  | .passComponentTable => request.length ≠ 12 + byteOf request 11
  | .updateComponent => request.length ≠ 19 + byteOf request 18 ∨ 100 ≤ byteOf request 18
  | _ => False

/-- A response refuses a request: with an error, or because the component cannot be updated. -/
def Refuses (command : UpdateCommand) (response : List UInt8) : Prop :=
  response.getD 0 0 ≠ ccSuccess ∨ command = .updateComponent ∧ response.getD 1 0 ≠ 0

/-- The update state and the component that is recorded are the same. `imageSize` is left out:
`update_component` overwrites `fw_update_cfg.image_size` for an unsupported component, too. -/
structure SameRecord (after device : UpdateDevice) : Prop where
  fd : after.fd = device.fd
  /-- `cur_update_comp_id` is. -/
  compId : after.compId = device.compId
  /-- `cur_update_comp_str` is. -/
  compStr : after.compStr = device.compStr

/-- What is right about a handled request. -/
structure Proper (device : UpdateDevice) (command : UpdateCommand) (request : List UInt8)
    (handled : Handled) : Prop where
  refused : Misdeclares request command → ∃ response ∈ handled.response, Refuses command response
  record : ∀ response ∈ handled.response, Refuses command response →
    SameRecord handled.device device
  unchanged : ∀ response ∈ handled.response, response.getD 0 0 ≠ ccSuccess →
    handled.device = device

/-- A request is read inside its bytes, a version is copied inside its buffer, and the rest is
right, too. -/
def Sound (platform : UpdatePlatform) (circumstances : Circumstances platform)
    (device : UpdateDevice) (command : UpdateCommand) (request : List UInt8) : Prop :=
  Returns (handleRequest platform circumstances device request command)
    (Proper device command request)

/-- The component is taken. -/
def Takes (platform : UpdatePlatform) (device : UpdateDevice) (request : List UInt8) : Prop :=
  request.length = 19 + byteOf request 18 ∧ device.fd.current = .rdyXfer ∧
    acceptable (fieldOf request 0 2) (fieldOf request 2 2) (byteOf request 4) = true ∧
      verifyComp platform (fieldOf request 0 2) (fieldOf request 2 2) (byteOf request 4) = 0

def versionOf (request : List UInt8) : List UInt8 := (request.drop 19).take (byteOf request 18)

/-- The device already has on record what a request of UpdateComponent says. -/
def OnRecord (device : UpdateDevice) (request : List UInt8) : Prop :=
  device.imageSize = fieldOf request 9 4 ∧ device.compId = fieldOf request 2 2 ∧
    storeVersion device.compStr (versionOf request) = some device.compStr

/-- The request has the bytes that its handler reads. -/
def Safe (platform : UpdatePlatform) (circumstances : Circumstances platform)
    (device : UpdateDevice) (request : List UInt8) : UpdateCommand → Prop
  | .queryDeviceIdentifiers => (platform.queryDeviceIdentifiers request).isSome
  | .queryDownstreamDevices => (platform.queryDownstreamDevices request).isSome
  | .queryDownstreamIdentifiers => (platform.queryDownstreamIdentifiers request).isSome
  | .requestUpdate => 11 ≤ request.length
  | .passComponentTable => 12 ≤ request.length
  | .updateComponent => 19 ≤ request.length ∧ (Takes platform device request →
      byteOf request 18 < 100 ∧ (circumstances.mallocOk = true ∨ OnRecord device request))
  | .activateFirmware => device.fd.current = .rdyXfer → request = [0] →
      circumstances.selfActivated device.compId = true
  | _ => True

/-! ## What the handlers do with a request that is long enough -/

variable {platform : UpdatePlatform} {circumstances : Circumstances platform}
  {device : UpdateDevice} {request : List UInt8}

theorem fieldAt_request {start width : Nat} (inside : start + width ≤ request.length) :
    fieldAt request start width = some (fieldOf request start width) := fieldAt_eq inside

theorem requestUpdate_eq (long : 11 ≤ request.length) :
    requestUpdate platform device request = some (
      if request.length ≠ 11 + byteOf request 10 then answered device [ccInvalidLength]
      else if device.fd.current ≠ .idle then answered device [ccAlreadyInUpdateMode]
      else ⟨{ device with
          fd := (Pldm.requestUpdate device.fd true (fieldOf request 4 2)).1
          maxBuffSize := min (fieldOf request 0 4 % 2 ^ 16) platform.maxFwupdateRspBufSize },
        some [(Pldm.requestUpdate device.fd true (fieldOf request 4 2)).2, 0, 0,
          if fieldOf request 7 2 ≠ 0 then 1 else 0]⟩) := by
  unfold requestUpdate byteOf
  rw [byteAt_eq (by omega), fieldAt_request (by omega), fieldAt_request (by omega),
    fieldAt_request (by omega)]
  generalize request.getD 10 0 = strLen
  by_cases sized : request.length = 11 + strLen.toNat
  · by_cases idle : device.fd.current = .idle
    · have version : rangeAt request 11 strLen.toNat =
          some ((request.drop 11).take strLen.toNat) := rangeAt_eq (by omega)
      simp only [bind_eq_bind, bind_some, ne_eq, sized, idle, not_true_eq_false,
        if_false, version]
      rfl
    · simp only [bind_eq_bind, bind_some, ne_eq, sized, idle, not_true_eq_false,
        not_false_eq_true, if_true, if_false]
      rfl
  · simp only [bind_eq_bind, bind_some, ne_eq, sized, not_false_eq_true, if_true]
    rfl

def tableVersionOf (request : List UInt8) : List UInt8 :=
  (request.drop 12).take (byteOf request 11)

/-- What the platform says of a component in a request of PassComponentTable. -/
def checkResult (platform : UpdatePlatform) (request : List UInt8) : UInt8 :=
  match platform.passComponentTableCheck with
  | none => ccSuccess
  | some check => check (fieldOf request 3 2) (tableVersionOf request)

def countComponent (fd : Fd) : Fd :=
  if (fd.rcvCnt + 1) % 2 ^ 16 = fd.compCnt then { fd.stateUpdate .rdyXfer with rcvCnt := 0 }
  else { fd with rcvCnt := (fd.rcvCnt + 1) % 2 ^ 16 }

theorem passComponentTable_eq (long : 12 ≤ request.length) :
    passComponentTable platform device request = some (
      if request.length ≠ 12 + byteOf request 11 then answered device [ccInvalidLength]
      else if checkResult platform request ≠ ccSuccess then
        answered device [checkResult platform request]
      else if device.fd.current ≠ .learnComp then answered device [ccInvalidStateForCommand]
      else if byteOf request 0 ≠ startAndEnd then answered device [ccInvalidData]
      else if !acceptable (fieldOf request 1 2) (fieldOf request 3 2) (byteOf request 5) then
        answered device [ccInvalidData]
      else ⟨{ device with fd := countComponent device.fd },
        some [ccSuccess,
          if verifyComp platform (fieldOf request 1 2) (fieldOf request 3 2)
            (byteOf request 5) ≠ 0 then 1 else 0,
          verifyComp platform (fieldOf request 1 2) (fieldOf request 3 2)
            (byteOf request 5)]⟩) := by
  unfold passComponentTable checkResult tableVersionOf byteOf
  rw [byteAt_eq (by omega), byteAt_eq (by omega), byteAt_eq (by omega),
    fieldAt_request (by omega),
    fieldAt_request (by omega)]
  generalize request.getD 11 0 = strLen
  by_cases sized : request.length = 12 + strLen.toNat
  · have version : rangeAt request 12 strLen.toNat =
        some ((request.drop 12).take strLen.toNat) := rangeAt_eq (by omega)
    simp only [bind_eq_bind, bind_some, ne_eq, sized, not_true_eq_false, if_false,
      version, apply_ite some]
    rfl
  · simp only [bind_eq_bind, bind_some, ne_eq, sized, not_false_eq_true, if_true]
    rfl

/-- What `update_component` answers behind the completion code. -/
def compatibility (platform : UpdatePlatform) (request : List UInt8) : List UInt8 :=
  [if verifyComp platform (fieldOf request 0 2) (fieldOf request 2 2) (byteOf request 4) ≠ 0
    then 1 else 0,
    verifyComp platform (fieldOf request 0 2) (fieldOf request 2 2) (byteOf request 4)] ++
    (request.drop 13).take 4 ++ digits 1 2

/-- What `update_component` does with a component that it takes. -/
def takeComponent (circumstances : Circumstances platform) (device : UpdateDevice)
    (request : List UInt8) : Option Handled :=
  (storeVersion device.compStr (versionOf request)).map fun compStr =>
    let device := { device with
      imageSize := fieldOf request 9 4, compId := fieldOf request 2 2, compStr }
    if !circumstances.mallocOk then answered device (ccError :: compatibility platform request)
    else ⟨{ device with
      fd := Fd.stateUpdate
        { device.fd with threads := device.fd.threads ++ [.created] } .download },
      some (ccSuccess :: compatibility platform request)⟩

theorem updateComponent_eq (long : 19 ≤ request.length) :
    updateComponent platform circumstances device request =
      if request.length ≠ 19 + byteOf request 18 then some (answered device [ccInvalidLength])
      else if device.fd.current ≠ .rdyXfer then some (answered device [ccNotInUpdateMode])
      else if !acceptable (fieldOf request 0 2) (fieldOf request 2 2) (byteOf request 4) then
        some (answered device [ccInvalidData])
      else if verifyComp platform (fieldOf request 0 2) (fieldOf request 2 2)
          (byteOf request 4) ≠ 0 then
        some (answered { device with imageSize := fieldOf request 9 4 }
          (ccSuccess :: compatibility platform request))
      else takeComponent circumstances device request := by
  unfold updateComponent takeComponent compatibility versionOf byteOf
  have flags : rangeAt request 13 4 =
      some ((request.drop 13).take 4) := rangeAt_eq (by omega)
  rw [byteAt_eq (by omega), byteAt_eq (by omega), fieldAt_request (by omega),
    fieldAt_request (by omega), fieldAt_request (by omega), flags]
  generalize request.getD 18 0 = strLen
  by_cases sized : request.length = 19 + strLen.toNat
  · have version : rangeAt request 19 strLen.toNat =
        some ((request.drop 19).take strLen.toNat) := rangeAt_eq (by omega)
    simp only [bind_eq_bind, bind_some, ne_eq, sized, not_true_eq_false, if_false,
      version]
    by_cases supported : verifyComp platform (fieldOf request 0 2) (fieldOf request 2 2)
      (request.getD 4 0).toNat = 0
    · simp only [supported, not_true_eq_false, if_false]
      cases stored : storeVersion device.compStr ((request.drop 19).take strLen.toNat) with
      | none => rfl
      | some compStr =>
        simp only [bind_some, map_some, apply_ite some]
        rfl
    · simp only [supported, not_false_eq_true, if_true]
      rfl
  · simp only [bind_eq_bind, bind_some, ne_eq, sized, not_false_eq_true, if_true]
    rfl

/-! ## When it is right -/

variable {command : UpdateCommand} {handled : Handled}

theorem proper_same (same : handled.device = device)
    (refused : Misdeclares request command →
      ∃ response ∈ handled.response, Refuses command response) :
    Proper device command request handled where
  refused := refused
  record _ _ _ := by
    rw [same]
    exact ⟨rfl, rfl, rfl⟩
  unchanged _ _ _ := same

theorem refuses_error {code : UInt8} {behind : List UInt8} (error : code ≠ ccSuccess) :
    Refuses command (code :: behind) := .inl error

theorem proper_error {code : UInt8} (error : code ≠ ccSuccess) :
    Proper device command request (answered device [code]) :=
  proper_same rfl fun _ => ⟨[code], rfl, refuses_error error⟩

theorem proper_success {response : List UInt8} (answer : handled.response = some response)
    (well : ¬ Misdeclares request command) (taken : ¬ Refuses command response) :
    Proper device command request handled where
  refused wrong := absurd wrong well
  record other given refusal := by
    obtain rfl : response = other := Option.some.inj (answer ▸ given)
    exact absurd refusal taken
  unchanged other given error := by
    obtain rfl : response = other := Option.some.inj (answer ▸ given)
    exact absurd (.inl error) taken

theorem sound_requestUpdate :
    Sound platform circumstances device .requestUpdate request ↔ 11 ≤ request.length := by
  constructor
  · intro sound
    obtain ⟨strLen, read, -⟩ := sound.of_bind
    exact lt_of_byteAt read
  · intro long
    unfold Sound handleRequest
    rw [requestUpdate_eq long]
    apply Returns.intro
    by_cases sized : request.length = 11 + byteOf request 10
    · by_cases idle : device.fd.current = .idle
      · rw [if_neg (not_not.mpr sized), if_neg (not_not.mpr idle)]
        have code : (Pldm.requestUpdate device.fd true (fieldOf request 4 2)).2 = ccSuccess := by
          simp [Pldm.requestUpdate, idle]
        apply proper_success rfl fun (wrong : Misdeclares request .requestUpdate) => wrong sized
        simp [Refuses, code]
      · rw [if_neg (not_not.mpr sized), if_pos idle]
        exact proper_error (by decide)
    · rw [if_pos sized]
      exact proper_error (by decide)

/-- PassComponentTable is handled as it should exactly when it has the length of its version. -/
theorem sound_passComponentTable :
    Sound platform circumstances device .passComponentTable request ↔ 12 ≤ request.length := by
  constructor
  · intro sound
    obtain ⟨strLen, read, -⟩ := sound.of_bind
    exact lt_of_byteAt read
  · intro long
    unfold Sound handleRequest
    rw [passComponentTable_eq long]
    apply Returns.intro
    by_cases sized : request.length = 12 + byteOf request 11
    · rw [if_neg (not_not.mpr sized)]
      by_cases checked : checkResult platform request = ccSuccess
      · rw [if_neg (not_not.mpr checked)]
        split
        · exact proper_error (by decide)
        · split
          · exact proper_error (by decide)
          · split
            · exact proper_error (by decide)
            · apply proper_success rfl
                fun (wrong : Misdeclares request .passComponentTable) => wrong sized
              simp [Refuses]
      · rw [if_pos checked]
        exact proper_error checked
    · rw [if_pos sized]
      exact proper_error (by decide)

theorem storeVersion_some (compStr : Buffer 100) (version : List UInt8)
    (short : version.length < 100) : (storeVersion compStr version).isSome := by
  obtain ⟨middle, wrote, -⟩ := compStr.write_eq version (show 0 + version.length ≤ 100 by omega)
  obtain ⟨after, ended, -⟩ := middle.write_eq [0] (show version.length + [0].length ≤ 100 by
    rw [length_singleton]
    omega)
  rw [storeVersion, wrote, bind_eq_bind, bind_some, ended]
  rfl

theorem storeVersion_none (compStr : Buffer 100) {version : List UInt8}
    (long : 100 ≤ version.length) : storeVersion compStr version = none := by
  cases wrote : compStr.write 0 version with
  | none => rw [storeVersion, wrote, bind_eq_bind, bind_none]
  | some middle =>
    rw [storeVersion, wrote, bind_eq_bind, bind_some]
    exact Buffer.write_eq_none (by rw [length_singleton]; omega)

theorem length_versionOf (sized : request.length = 19 + byteOf request 18) :
    (versionOf request).length = byteOf request 18 := by
  rw [versionOf, length_take, length_drop]
  omega

theorem compatibility_head (supported : verifyComp platform (fieldOf request 0 2)
    (fieldOf request 2 2) (byteOf request 4) = 0) :
    (compatibility platform request).getD 0 0 = 0 := by
  rw [compatibility, if_neg (not_not.mpr supported)]
  rfl

theorem proper_refusedMemory {compStr : Buffer 100}
    (stored : storeVersion device.compStr (versionOf request) = some compStr)
    (behind : List UInt8) :
    Proper device .updateComponent request (answered
      { device with imageSize := fieldOf request 9 4, compId := fieldOf request 2 2, compStr }
      (ccError :: behind)) ↔ OnRecord device request := by
  constructor
  · intro proper
    have same := proper.unchanged _ rfl (show ccError ≠ ccSuccess by decide)
    have sameStr : compStr = device.compStr := congrArg UpdateDevice.compStr same
    exact ⟨(congrArg UpdateDevice.imageSize same).symm, (congrArg UpdateDevice.compId same).symm,
      sameStr ▸ stored⟩
  · rintro ⟨sameSize, sameId, sameStr⟩
    obtain rfl : compStr = device.compStr := Option.some.inj (stored.symm.trans sameStr)
    rw [← sameSize, ← sameId]
    exact proper_same rfl fun _ => ⟨_, rfl, refuses_error (by decide)⟩

/-- A component that is taken is handled as it should exactly when its version fits and memory is
given, or nothing new is recorded. -/
theorem takeComponent_proper (takes : Takes platform device request) :
    Returns (takeComponent circumstances device request)
      (Proper device .updateComponent request) ↔
    byteOf request 18 < 100 ∧ (circumstances.mallocOk = true ∨ OnRecord device request) := by
  obtain ⟨sized, -, -, supported⟩ := takes
  have length := length_versionOf sized
  by_cases short : byteOf request 18 < 100
  · obtain ⟨compStr, stored⟩ := Option.isSome_iff_exists.mp
      (storeVersion_some device.compStr (versionOf request) (by omega))
    have memory := proper_refusedMemory stored (compatibility platform request)
    unfold takeComponent
    rw [stored, map_some]
    cases circumstances.mallocOk with
    | false =>
      simp only [Bool.not_false, if_true, short, true_and, Bool.false_eq_true, false_or, ← memory]
      exact ⟨Returns.of_some, Returns.intro⟩
    | true =>
      simp only [Bool.not_true, Bool.false_eq_true, if_false, short, true_or, and_self, iff_true]
      apply Returns.intro
      have well : ¬ Misdeclares request .updateComponent := by
        rintro (wrong | long)
        · exact wrong sized
        · omega
      apply proper_success rfl well
      rintro (error | ⟨-, incompatible⟩)
      · exact error rfl
      · exact incompatible (compatibility_head supported)
  · have long : storeVersion device.compStr (versionOf request) = none :=
      storeVersion_none device.compStr (by omega)
    unfold takeComponent
    rw [long, map_none]
    constructor
    · rintro ⟨handled, ran, -⟩
      cases ran
    · rintro ⟨fits, -⟩
      exact absurd fits short

theorem refuses_unsupported (supported : verifyComp platform (fieldOf request 0 2)
    (fieldOf request 2 2) (byteOf request 4) ≠ 0) :
    Refuses .updateComponent (ccSuccess :: compatibility platform request) := by
  refine .inr ⟨rfl, ?_⟩
  rw [compatibility, if_pos supported]
  show (1 : UInt8) ≠ 0
  decide

theorem untaken_refused (long : 19 ≤ request.length) (untaken : ¬ Takes platform device request) :
    Returns (updateComponent platform circumstances device request) fun handled =>
      ∃ imageSize response, handled = answered { device with imageSize } response ∧
        Refuses .updateComponent response ∧
          (response.getD 0 0 ≠ ccSuccess → imageSize = device.imageSize) := by
  rw [updateComponent_eq long]
  by_cases sized : request.length = 19 + byteOf request 18
  · rw [if_neg (not_not.mpr sized)]
    by_cases ready : device.fd.current = .rdyXfer
    · rw [if_neg (not_not.mpr ready)]
      cases taken : acceptable (fieldOf request 0 2) (fieldOf request 2 2) (byteOf request 4) with
      | false => exact .intro ⟨_, _, rfl, refuses_error (by decide), fun _ => rfl⟩
      | true =>
        have supported : verifyComp platform (fieldOf request 0 2) (fieldOf request 2 2)
            (byteOf request 4) ≠ 0 := fun zero => untaken ⟨sized, ready, taken, zero⟩
        rw [Bool.not_true, if_neg Bool.false_ne_true, if_pos supported]
        exact .intro ⟨_, _, rfl, refuses_unsupported supported, fun error => absurd rfl error⟩
    · rw [if_pos ready]
      exact .intro ⟨_, _, rfl, refuses_error (by decide), fun _ => rfl⟩
  · rw [if_pos sized]
    exact .intro ⟨_, _, rfl, refuses_error (by decide), fun _ => rfl⟩

theorem untaken_proper (long : 19 ≤ request.length) (untaken : ¬ Takes platform device request) :
    Returns (updateComponent platform circumstances device request)
      (Proper device .updateComponent request) := by
  refine (untaken_refused long untaken).mono ?_
  rintro handled ⟨imageSize, response, rfl, refusal, kept⟩
  constructor
  · exact fun _ => ⟨response, rfl, refusal⟩
  · exact fun _ _ _ => ⟨rfl, rfl, rfl⟩
  · intro given same error
    cases same
    rw [kept error]
    rfl

theorem sound_updateComponent :
    Sound platform circumstances device .updateComponent request ↔
      Safe platform circumstances device request .updateComponent := by
  by_cases long : 19 ≤ request.length
  · unfold Sound handleRequest Safe
    by_cases takes : Takes platform device request
    · obtain ⟨sized, ready, taken, supported⟩ := takes
      rw [updateComponent_eq long, if_neg (not_not.mpr sized), if_neg (not_not.mpr ready), taken,
        Bool.not_true, if_neg Bool.false_ne_true, if_neg (not_not.mpr supported)]
      rw [takeComponent_proper ⟨sized, ready, taken, supported⟩]
      exact ⟨fun fits => ⟨long, fun _ => fits⟩, fun safe => safe.2 ⟨sized, ready, taken, supported⟩⟩
    · exact ⟨fun _ => ⟨long, fun accepted => absurd accepted takes⟩,
        fun _ => untaken_proper long takes⟩
  · constructor
    · intro sound
      obtain ⟨strLen, read, -⟩ := sound.of_bind
      exact absurd (lt_of_byteAt read) long
    · rintro ⟨enough, -⟩
      exact absurd enough long

theorem statusReset_eq (device : UpdateDevice) (fd : Fd) :
    ∃ after, device.statusReset fd = some after := by
  obtain ⟨compStr, wrote, -⟩ := device.compStr.write_eq unknown (show 0 + unknown.length ≤ 100 by
    decide)
  exact ⟨_, by rw [UpdateDevice.statusReset, wrote]; rfl⟩

theorem proper_reset {after : UpdateDevice} (behind : List UInt8)
    (well : ¬ Misdeclares request command) (other : command ≠ .updateComponent) :
    Proper device command request (answered after (ccSuccess :: behind)) := by
  apply proper_success rfl well
  rintro (error | ⟨same, -⟩)
  · exact error rfl
  · exact other same

theorem failedActivation_changes (fd : Fd) (ready : device.fd = fd) :
    ¬ Proper device .activateFirmware request (answered
      { device with fd := { fd.stateUpdate .activate with aux := .failed } }
      [ccSelfContainedActivationNotPermitted]) := by
  intro proper
  have same := proper.unchanged _ rfl
    (show ccSelfContainedActivationNotPermitted ≠ ccSuccess by decide)
  have sameLog : Obs.state fd.current .activate :: fd.log = fd.log :=
    (congrArg (fun device => device.fd.log) same).trans (congrArg Fd.log ready)
  have sameLength := congrArg List.length sameLog
  rw [length_cons] at sameLength
  omega

/-- ActivateFirmware is handled as it should exactly when an activation that begins succeeds. -/
theorem sound_activateFirmware :
    Sound platform circumstances device .activateFirmware request ↔
      Safe platform circumstances device request .activateFirmware := by
  unfold Sound handleRequest Safe activateFirmware
  by_cases begins : device.fd.current = .rdyXfer ∧ request = [0]
  · obtain ⟨ready, rfl⟩ := begins
    simp only [ready, length_singleton, ne_eq, not_true_eq_false, if_false, forall_const]
    cases succeeds : circumstances.selfActivated device.compId with
    | false =>
      simp only [Bool.false_eq_true, iff_false]
      exact fun sound => failedActivation_changes device.fd rfl sound.of_some
    | true =>
      obtain ⟨after, reset⟩ := statusReset_eq device
        { device.fd.stateUpdate .activate with aux := .success }
      refine ⟨fun _ => rfl, fun _ => ?_⟩
      show Returns (device.statusReset { device.fd.stateUpdate .activate with aux := .success } >>=
        fun after => some (answered after [ccSuccess, 0, 0])) _
      rw [reset]
      exact .intro (proper_reset [0, 0] id (by decide))
  · have vacuous : device.fd.current = .rdyXfer → request = [0] →
        circumstances.selfActivated device.compId = true :=
      fun ready zero => absurd ⟨ready, zero⟩ begins
    refine ⟨fun _ => vacuous, fun _ => ?_⟩
    by_cases sized : request.length = 1
    · obtain ⟨byte, rfl⟩ := List.length_eq_one_iff.mp sized
      by_cases ready : device.fd.current = .rdyXfer
      · have nonzero : byte ≠ 0 := fun zero => begins ⟨ready, by rw [zero]⟩
        rw [if_neg (not_not.mpr ready)]
        show Returns (if byte ≠ 0 then some (answered device [ccInvalidData]) else _) _
        rw [if_pos nonzero]
        exact .intro (proper_error (by decide))
      · rw [if_pos ready]
        exact .intro (proper_error (by decide))
    · rw [if_pos sized]
      exact .intro (proper_error (by decide))

theorem sound_getStatus : Sound platform circumstances device .getStatus request := by
  show Returns (getStatus device request) (Proper device .getStatus request)
  unfold getStatus
  have well : ¬ Misdeclares request .getStatus := id
  split <;> exact .intro (proper_same rfl fun wrong => absurd wrong well)

theorem sound_cancelUpdate : Sound platform circumstances device .cancelUpdate request := by
  unfold Sound handleRequest cancelUpdate
  by_cases empty : request.length = 0
  · rw [if_neg (not_not.mpr empty)]
    by_cases idle : device.fd.current = .idle
    · rw [if_pos idle]
      exact .intro (proper_error (by decide))
    · obtain ⟨after, reset⟩ := statusReset_eq device device.fd
      rw [if_neg idle, reset]
      exact .intro (proper_reset _ id (by decide))
  · rw [if_pos empty]
    exact .intro (proper_error (by decide))

theorem sound_query (answer : Option (List UInt8)) (well : ¬ Misdeclares request command) :
    Returns (answer.map (answered device)) (Proper device command request) ↔
      answer.isSome = true := by
  cases answer with
  | none =>
    simp only [map_none, isSome_none, Bool.false_eq_true, iff_false]
    rintro ⟨handled, ran, -⟩
    cases ran
  | some response =>
    simp only [map_some, isSome_some, iff_true]
    exact .intro (proper_same rfl fun wrong => absurd wrong well)

/-- A request is handled as it should exactly when it has the length of its version, a component
that is taken fits and is given memory, and an activation that begins succeeds. -/
theorem sound_iff_safe (platform : UpdatePlatform) (circumstances : Circumstances platform)
    (device : UpdateDevice) (command : UpdateCommand) (request : List UInt8) :
    Sound platform circumstances device command request ↔
      Safe platform circumstances device request command := by
  cases command with
  | queryDeviceIdentifiers => exact sound_query _ id
  | queryDownstreamDevices => exact sound_query _ id
  | queryDownstreamIdentifiers => exact sound_query _ id
  | getFirmwareParameters =>
    exact ⟨fun _ => trivial, fun _ => .intro (proper_same rfl False.elim)⟩
  | getDownstreamFirmwareParameters =>
    exact ⟨fun _ => trivial, fun _ => .intro (proper_same rfl False.elim)⟩
  | requestUpdate => exact sound_requestUpdate
  | passComponentTable => exact sound_passComponentTable
  | updateComponent => exact sound_updateComponent
  | activateFirmware => exact sound_activateFirmware
  | getStatus => exact ⟨fun _ => trivial, fun _ => sound_getStatus⟩
  | cancelUpdate => exact ⟨fun _ => trivial, fun _ => sound_cancelUpdate⟩

/-! ## The state machine -/

def commandOf (platform : UpdatePlatform) (circumstances : Circumstances platform)
    (device : UpdateDevice) (request : List UInt8) : UpdateCommand → Option Command
  | .requestUpdate =>
    some (.requestUpdate (request.length == 11 + byteOf request 10) (fieldOf request 4 2))
  | .passComponentTable => some (.passComponentTable
      { lengthOk := request.length == 12 + byteOf request 11
        classification := fieldOf request 1 2
        identifier := fieldOf request 3 2
        classificationIndex := byteOf request 5 }
      (byteOf request 0) (checkResult platform request))
  | .updateComponent => some (.updateComponent
      { lengthOk := request.length == 19 + byteOf request 18
        classification := fieldOf request 0 2
        identifier := fieldOf request 2 2
        classificationIndex := byteOf request 4 }
      (verifyComp platform (fieldOf request 0 2) (fieldOf request 2 2) (byteOf request 4) == 0)
      circumstances.mallocOk)
  | .activateFirmware => some (.activateFirmware (request.length == 1) (byteOf request 0 != 0)
      (circumstances.selfActivated device.compId))
  | .getStatus => some (.getStatus (request.length == 0))
  | .cancelUpdate => some (.cancelUpdate (request.length == 0))
  | _ => none

/-- A handled request is a step of the state machine, or leaves it alone. -/
def Steps (command : Option Command) (before after : Fd) : Prop :=
  match command with
  | some command => step before (.command command) = some after
  | none => after = before

theorem steps_of_handle {command : Command} {before after : Fd}
    (comes : (handle before command).1 = after) : Steps (some command) before after :=
  congrArg some comes

theorem requestUpdate_steps (ran : requestUpdate platform device request = some handled) :
    Steps (commandOf platform circumstances device request .requestUpdate) device.fd
      handled.device.fd := by
  obtain ⟨strLen, read, -⟩ := Option.bind_eq_some_iff.mp ran
  have long := lt_of_byteAt read
  rw [requestUpdate_eq long] at ran
  cases ran
  apply steps_of_handle
  change (Pldm.requestUpdate device.fd _ _).1 = _
  by_cases sized : request.length = 11 + byteOf request 10
  · by_cases idle : device.fd.current = .idle
    · simp [sized, idle]
    · simp [sized, idle, Pldm.requestUpdate, answered]
  · simp [sized, Pldm.requestUpdate, answered]

theorem passComponentTable_steps
    (ran : passComponentTable platform device request = some handled) :
    Steps (commandOf platform circumstances device request .passComponentTable) device.fd
      handled.device.fd := by
  obtain ⟨strLen, read, -⟩ := Option.bind_eq_some_iff.mp ran
  have long := lt_of_byteAt read
  rw [passComponentTable_eq long] at ran
  cases ran
  apply steps_of_handle
  change (Pldm.passComponentTable device.fd _ _ _).1 = _
  unfold Pldm.passComponentTable
  by_cases sized : request.length = 12 + byteOf request 11
  · simp only [sized, beq_self_eq_true, Bool.not_true, Bool.false_eq_true, if_false, ne_eq,
      not_true_eq_false, ComponentReq.valid, acceptable, countComponent, apply_ite Prod.fst,
      apply_ite Handled.device, apply_ite UpdateDevice.fd]
    rfl
  · simp [sized, answered]

theorem updateComponent_untaken {fd : Fd} {req : ComponentReq} {supported mallocOk : Bool}
    (untaken : ¬ (req.lengthOk = true ∧ fd.current = .rdyXfer ∧ req.valid = true ∧
      supported = true)) : (Pldm.updateComponent fd req supported mallocOk).1 = fd := by
  unfold Pldm.updateComponent
  split
  · rfl
  · split
    · rfl
    · split
      · rfl
      · split
        · rfl
        · refine absurd ?_ untaken
          simp_all

theorem updateComponent_steps
    (ran : updateComponent platform circumstances device request = some handled) :
    Steps (commandOf platform circumstances device request .updateComponent) device.fd
      handled.device.fd := by
  obtain ⟨strLen, read, -⟩ := Option.bind_eq_some_iff.mp ran
  have long := lt_of_byteAt read
  apply steps_of_handle
  change (Pldm.updateComponent device.fd _ _ _).1 = _
  by_cases takes : Takes platform device request
  · obtain ⟨sized, ready, taken, supported⟩ := takes
    rw [updateComponent_eq long, if_neg (not_not.mpr sized), if_neg (not_not.mpr ready), taken,
      Bool.not_true, if_neg Bool.false_ne_true, if_neg (not_not.mpr supported)] at ran
    obtain ⟨compStr, stored, same⟩ := Option.map_eq_some_iff.mp ran
    rw [← same]
    have valid := taken
    simp only [acceptable] at valid
    simp only [Pldm.updateComponent, ComponentReq.valid, sized, ready, valid, supported,
      beq_self_eq_true, Bool.not_true, Bool.false_eq_true, if_false, ne_eq, not_true_eq_false,
      apply_ite Prod.fst, apply_ite Handled.device, apply_ite UpdateDevice.fd]
    rfl
  · obtain ⟨imageSize, response, same, -⟩ := (ran ▸ untaken_refused long takes).of_some
    rw [same]
    apply updateComponent_untaken
    rintro ⟨sized, ready, taken, supported⟩
    exact takes ⟨by simpa using sized, ready, taken, by simpa using supported⟩

theorem statusReset_fd {fd : Fd} {after : UpdateDevice}
    (reset : device.statusReset fd = some after) : after.fd = fd.statusReset := by
  obtain ⟨compStr, -, same⟩ := Option.bind_eq_some_iff.mp reset
  rw [← Option.some.inj same]

theorem activateFirmware_steps
    (ran : activateFirmware circumstances device request = some handled) :
    Steps (commandOf platform circumstances device request .activateFirmware) device.fd
      handled.device.fd := by
  apply steps_of_handle
  change (Pldm.activateFirmware device.fd _ _ _).1 = _
  unfold activateFirmware at ran
  unfold Pldm.activateFirmware
  by_cases sized : request.length = 1
  · obtain ⟨byte, rfl⟩ := List.length_eq_one_iff.mp sized
    by_cases ready : device.fd.current = .rdyXfer
    · rw [if_neg (not_not.mpr ready)] at ran
      replace ran : (if byte ≠ 0 then _ else _) = some handled := ran
      have same : byteOf [byte] 0 = 0 ↔ byte = 0 :=
        ⟨fun zero => UInt8.toNat.inj zero, fun zero => by rw [zero]; rfl⟩
      by_cases zero : byte = 0
      · rw [if_neg (not_not.mpr zero)] at ran
        simp only [length_singleton, beq_self_eq_true, Bool.not_true, Bool.false_eq_true,
          if_false, ready, ne_eq, not_true_eq_false, same.mpr zero, bne_self_eq_false]
        cases succeeds : circumstances.selfActivated device.compId with
        | false =>
          rw [succeeds, Bool.not_false, if_pos rfl] at ran
          rw [← Option.some.inj ran]
          rfl
        | true =>
          rw [succeeds, Bool.not_true, if_neg Bool.false_ne_true] at ran
          obtain ⟨after, reset, answer⟩ := Option.bind_eq_some_iff.mp ran
          rw [← Option.some.inj answer]
          exact (statusReset_fd reset).symm
      · rw [if_pos zero] at ran
        rw [← Option.some.inj ran]
        have nonzero : byteOf [byte] 0 ≠ 0 := fun none => zero (same.mp none)
        simp [ready, nonzero, answered]
    · rw [if_pos ready] at ran
      rw [← Option.some.inj ran]
      simp [ready, answered]
  · rw [if_pos sized] at ran
    rw [← Option.some.inj ran]
    simp [sized, answered]

theorem cancelUpdate_steps (ran : cancelUpdate device request = some handled) :
    Steps (commandOf platform circumstances device request .cancelUpdate) device.fd
      handled.device.fd := by
  apply steps_of_handle
  change (Pldm.cancelUpdate device.fd _).1 = _
  unfold cancelUpdate at ran
  unfold Pldm.cancelUpdate
  by_cases empty : request.length = 0
  · obtain rfl := List.length_eq_zero_iff.mp empty
    by_cases idle : device.fd.current = .idle
    · rw [if_pos idle] at ran
      rw [← Option.some.inj ran]
      simp [idle, answered]
    · rw [if_neg idle] at ran
      obtain ⟨after, reset, answer⟩ := Option.bind_eq_some_iff.mp ran
      rw [← Option.some.inj answer]
      simp [idle, answered, statusReset_fd reset]
  · rw [if_pos empty] at ran
    rw [← Option.some.inj ran]
    simp [empty, answered]

theorem query_steps {answer : Option (List UInt8)}
    (ran : answer.map (answered device) = some handled) :
    Steps none device.fd handled.device.fd := by
  obtain ⟨response, -, same⟩ := Option.map_eq_some_iff.mp ran
  rw [← same]
  rfl

theorem handleRequest_steps
    (ran : handleRequest platform circumstances device request command = some handled) :
    Steps (commandOf platform circumstances device request command) device.fd
      handled.device.fd := by
  cases command with
  | queryDeviceIdentifiers => exact query_steps ran
  | queryDownstreamDevices => exact query_steps ran
  | queryDownstreamIdentifiers => exact query_steps ran
  | getFirmwareParameters =>
    rw [← Option.some.inj ran]
    rfl
  | getDownstreamFirmwareParameters =>
    rw [← Option.some.inj ran]
    rfl
  | requestUpdate => exact requestUpdate_steps ran
  | passComponentTable => exact passComponentTable_steps ran
  | updateComponent => exact updateComponent_steps ran
  | activateFirmware => exact activateFirmware_steps ran
  | getStatus =>
    have same : handled.device = device := by
      replace ran : getStatus device request = some handled := ran
      unfold getStatus at ran
      split at ran <;> rw [← Option.some.inj ran] <;> rfl
    rw [same]
    rfl
  | cancelUpdate => exact cancelUpdate_steps ran

/-! ## A version that does not fit -/

def benchPlatform : UpdatePlatform where
  maxFwupdateRspBufSize := 256
  compConfig := [{ enable := true, compClassification := 0xFFFF, compIdentifier := 1,
                   compClassificationIndex := 0 }]
  findUpdateInfoWork compId := compId
  passComponentTableCheck := none
  queryDeviceIdentifiers _ := some [ccUnsupportedCmd]
  queryDownstreamDevices _ := some [ccUnsupportedCmd]
  queryDownstreamIdentifiers _ := some [ccUnsupportedCmd]
  parameters := FirmwareParameters.longVersions

def benchCircumstances : Circumstances benchPlatform where
  mallocOk := true
  selfActivated _ := true
  respBuf := Buffer.zero _

def benchDevice : UpdateDevice where
  fd := { Fd.start with current := .rdyXfer, keepUpdate := true, timer := true, compCnt := 1 }
  maxBuffSize := 256
  imageSize := 0
  compId := 0xFFFF
  compStr := Buffer.zero 100

/-- UpdateComponent for component 1, whose version has a hundred characters. -/
def longVersionRequest : List UInt8 :=
  [0xFF, 0xFF, 0x01, 0x00, 0x00, 0, 0, 0, 0, 0, 0x10, 0, 0, 0, 0, 0, 0, 0x01, 100] ++
    List.replicate 100 0x41

/-- The zero behind the version is written behind `cur_update_comp_str`. -/
theorem longVersionRequest_overruns :
    ¬ Sound benchPlatform benchCircumstances benchDevice .updateComponent longVersionRequest := by
  rw [sound_updateComponent]
  rintro ⟨-, fits⟩
  have takes : Takes benchPlatform benchDevice longVersionRequest :=
    ⟨by decide +kernel, by decide +kernel, by decide +kernel, by decide +kernel⟩
  have short := (fits takes).1
  exact absurd short (by decide +kernel)

/-! ## Runs of requests -/

/-- What can happen next: a request is handled, the timer expires, or a thread takes a step. -/
inductive Turn (platform : UpdatePlatform) where
  | request (circumstances : Circumstances platform) (command : UpdateCommand)
      (request : List UInt8)
  | timeout
  | thread (index : Nat) (outcome : Outcome)

/-- A thread that finds no function for its component calls `pldm_status_reset`, as the timer
does. -/
def turn (device : UpdateDevice) : Turn platform → Option UpdateDevice
  | .request circumstances command request =>
    (handleRequest platform circumstances device request command).map Handled.device
  | .timeout => if device.fd.timer then device.statusReset device.fd else none
  | .thread index outcome =>
    (step device.fd (.thread index outcome)).bind fun fd =>
      (if device.fd.threads[index]? = some .created ∧ outcome = .failed then
        device.statusReset fd else some device).map fun device => { device with fd }

def Turn.event (device : UpdateDevice) : Turn platform → Option Event
  | .request circumstances command request =>
    (commandOf platform circumstances device request command).map .command
  | .timeout => some .timeout
  | .thread index outcome => some (.thread index outcome)

/-- `Guard`, on the bytes of a request. -/
def TurnGuard (device : UpdateDevice) (next : Turn platform) : Prop :=
  ∀ event ∈ next.event device, Guard device.fd event

/-- A turn is a step of the state machine, or leaves it alone. -/
theorem turn_step {next : Turn platform} {after : UpdateDevice}
    (moved : turn device next = some after) :
    match next.event device with
    | some event => step device.fd event = some after.fd
    | none => after.fd = device.fd := by
  cases next with
  | request circumstances command request =>
    obtain ⟨handled, ran, rfl⟩ := Option.map_eq_some_iff.mp moved
    have steps := handleRequest_steps ran
    dsimp only [Turn.event]
    cases known : commandOf platform circumstances device request command with
    | none =>
      rw [known] at steps
      exact steps
    | some command =>
      rw [known] at steps
      exact steps
  | timeout =>
    dsimp only [turn] at moved
    dsimp only [Turn.event, step]
    by_cases running : device.fd.timer = true
    · rw [if_pos running] at moved
      rw [if_pos running, statusReset_fd moved]
    · rw [if_neg running] at moved
      cases moved
  | thread index outcome =>
    obtain ⟨fd, stepped, onward⟩ := Option.bind_eq_some_iff.mp moved
    obtain ⟨other, -, rfl⟩ := Option.map_eq_some_iff.mp onward
    exact stepped

theorem turn_safe {next : Turn platform} {after : UpdateDevice} (safe : Pldm.Safe device.fd)
    (guard : TurnGuard device next) (moved : turn device next = some after) :
    Pldm.Safe after.fd := by
  have steps := turn_step moved
  split at steps
  next event known => exact step_safe safe (guard event known) steps
  next => exact steps ▸ safe

/-- In every guarded run of requests, whatever their bytes, of timeouts and of thread steps the
state machine behaves. -/
theorem turns_wellBehaved {turns : List (Turn platform)} {final : UpdateDevice}
    (fresh : device.fd = .start) (guarded : Meets turn TurnGuard device turns)
    (ran : run turn device turns = some final) : WellBehaved final.fd := by
  have safe : Pldm.Safe final.fd := invariant turn_safe (fresh ▸ start_safe) guarded ran
  exact
    { orderly := safe.consistent.orderly
      latest := safe.consistent.latest
      few := safe.thread.few
      refused := fun _ refused => handle_refused refused }

instance TurnGuard.decidable (device : UpdateDevice) (next : Turn platform) :
    Decidable (TurnGuard device next) :=
  inferInstanceAs (Decidable (∀ event ∈ next.event device, Guard device.fd event))

/-- An update of component 1, which is left by the timer. -/
def leftUpdate : List (Turn benchPlatform) :=
  [.request benchCircumstances .requestUpdate [0, 2, 0, 0, 1, 0, 1, 0, 0, 1, 0],
    .request benchCircumstances .passComponentTable [5, 0xFF, 0xFF, 1, 0, 0, 0, 0, 0, 0, 1, 0],
    .request benchCircumstances .updateComponent (longVersionRequest.take 18 ++ [0]),
    .thread 0 .done, .timeout]

theorem turns_wellBehaved_leftUpdate :
    ∃ final, run turn { benchDevice with fd := .start } leftUpdate = some final ∧
      WellBehaved final.fd := by
  have guarded : Meets turn TurnGuard { benchDevice with fd := .start } leftUpdate := by
    decide +kernel
  exact ⟨_, rfl, turns_wellBehaved rfl guarded rfl⟩

end OpenBic.Pldm.UpdateRequest
