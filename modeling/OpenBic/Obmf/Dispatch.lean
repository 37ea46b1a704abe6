import OpenBic.Obmf.Controllers

/-!
# Every request is answered

`obmf_get_response`, which refuses a message or hands it to the handler of its channel, and when
every request is answered without reading past its end. Beside the state of the handlers it has the
platform's callbacks and drivers as parameters. What the response handlers do is a parameter as
well, as they have no response buffer.
-/

namespace OpenBic.Obmf

open Option Library.Checked Library.Field

/-! ## The device -/

def serialChannels : List UInt8 := [2, 16]

/-- The channels on which the device is the consumer: IPMI, the memory device and the I2C
targets. -/
def consumerChannels : List UInt8 := [3, 4, 14, 15]

/-- The channels of the platform's GPIOs, SGPIO0, SGPIO1 and the virtual wires. -/
def gpioChannels : List UInt8 := [5, 6, 7, 8]

def i2cControllerChannels : List UInt8 := [10, 11, 12, 13]

def i3cControllerChannels : List UInt8 := [18, 19]

/-- The state that `obmf_get_response` and the handlers of requests use. -/
structure Device where
  service : Service
  mmio : Mmio.MmioLocal
  io : Io.IoLocal
  gpio : UInt8 → Gpio.Channel
  spi : Spi.Pending
  /-- `i2c_controller_buses`, which is `0xFF` for a channel without a bus. -/
  i2cControllerBus : UInt8 → UInt8
  i3cBuses : I3cBuses
  associatedI2cChannel : UInt16

/-- The platform's callbacks and drivers; `δ` is the state of the buses. -/
structure Platform (δ : Type) where
  /-- `rx_cb` of a serial channel. -/
  rxCb : UInt8 → Option (List UInt8 → UInt16)
  /-- `shd_dev`, if it is ready. -/
  shdDev : Option Spi.Flash
  i2cMaster : I2cMaster δ
  i3cMaster : UInt8 → I3cMaster δ
  handleResponse : Device → List UInt8 → Device

def Service.gpioChannelConfig (service : Service) (channel : UInt8) : Option Gpio.ConfigData :=
  let data := chanBase channel + configDataOffset
  let entry (index : Nat) := data + arrayOffset .gpio + index * gpioEntrySize
  if channel ∉ spaceOrder ∨ service.mem (chanBase channel) ≠ ChannelType.code .gpio then none
  else
    some
      { gpioCount := load service.mem data 2
        entries := (List.range gpioMaxEntries).map fun index =>
          { gpioIndex := UInt16.ofNat (load service.mem (entry index) 2)
            gpioDirection := service.mem (entry index + 0x22) } }

def Device.gpioChannel (device : Device) (channel : UInt8) : Gpio.Channel :=
  { device.gpio channel with config := device.service.gpioChannelConfig channel }

/-- `max_request_payload_size`. -/
def Service.maxReqPayload (service : Service) (channel : UInt8) : Nat :=
  load service.mem (chanBase channel + maxReqPayloadOffset) 2

/-! ## The dispatcher -/

section Dispatch

variable {δ : Type} (platform : Platform δ) (device : Device) (driver : δ) (msg : List UInt8)

/-- The checks of `obmf_get_response` before it hands a request to a handler: the status with which
it refuses the request. -/
def Service.refusal (service : Service) (msg : List UInt8) : Option UInt8 :=
  let channel := (readHeader msg).channel
  if msg.length < headerSize then some statusInvalidCmd
  else if service.present channel = false then some statusUnknownChannel
  else if (chanCfgHdr channel).isSome ∧ service.maxReqPayload channel < msg.length - headerSize then
    some statusSizeNotSupported
  else if channel ≠ controlChannel ∧ service.isEnabled channel = false then some statusNotReady
  else none

/-- `obmf_build_err_response` as the whole answer. -/
def refuse (status : UInt8) : Option (List UInt8 × Device × δ) :=
  reading msg (errReads msg) (buildErrResponse msg status, device, driver)

def serveRequest : Option (List UInt8 × Device × δ) :=
  let channel := (readHeader msg).channel
  if channel = controlChannel then
    let (service, rsp) := device.service.controlRequest msg
    reading msg (mmioReads msg) (rsp, { device with service }, driver)
  else if channel = mmioChannel then
    let (rsp, mmio) := Mmio.mmioRequest device.mmio msg
    reading msg (mmioReads msg) (rsp, { device with mmio }, driver)
  else if channel ∈ serialChannels then
    reading msg (serialReads msg) (handleSerialRequest (platform.rxCb channel) msg, device, driver)
  else if channel ∈ consumerChannels then refuse device driver msg statusInvalidCmd
  else if channel = Spi.spiChannel then
    let (rsp, spi) := Spi.handleSpiRequest platform.shdDev device.spi msg
    reading msg (Spi.spiReads platform.shdDev msg) (rsp, { device with spi }, driver)
  else if channel ∈ gpioChannels then
    let (rsp, gpio) := Gpio.handleGpioRequest (device.gpioChannel channel) msg
    reading msg (Gpio.gpioReads msg)
      (rsp, { device with gpio := Function.update device.gpio channel gpio }, driver)
  else if channel = ioChannel then
    let (rsp, io) := Io.handleIoRequest device.io msg
    reading msg (Io.ioReads msg) (rsp, { device with io }, driver)
  else if channel ∈ i2cControllerChannels then
    let bus := device.i2cControllerBus channel
    let (rsp, driver) := handleI2cRequest platform.i2cMaster bus driver msg
    reading msg (i2cReads bus msg) (rsp, device, driver)
  else if channel ∈ i3cControllerChannels then do
    let bus := device.i3cBuses.controllerBus channel
    let state : I3cState := ⟨device.associatedI2cChannel, device.service⟩
    let (rsp, state, driver) ←
      handleI3cRequest (platform.i3cMaster bus) device.i3cBuses state driver msg
    reading msg (i3cReads device.i3cBuses msg)
      (rsp, { device with
        service := state.service
        associatedI2cChannel := state.associatedI2cChannel }, driver)
  else refuse device driver msg statusUnknownChannel

/-- `obmf_get_response` on a message that is a response. -/
def receiveResponse : Device :=
  let channel := (readHeader msg).channel
  if msg.length < headerSize ∨ device.service.present channel = false ∨
      (device.service.tags channel).isOutstanding = false then
    device
  else platform.handleResponse device msg

/-- `obmf_get_response`: the bytes in the response buffer, none without a response. It comes to
nothing when it reads past the end of the message. -/
def obmfGetResponse : Option (List UInt8 × Device × δ) := do
  let hdr ← reading msg [(0, 2)] (readHeader msg)
  if hdr.isResponse then some ([], receiveResponse platform device msg, driver)
  else
    match device.service.refusal msg with
    | some status => refuse device driver msg status
    | none => serveRequest platform device driver msg

end Dispatch

/-! ## What is answered -/

/-- A response gets no answer, a request a well-formed one. -/
def ProperAnswer (msg rsp : List UInt8) : Prop :=
  if (readHeader msg).isResponse then rsp = [] else WellFormed msg rsp

/-- A message that nothing makes `obmf_get_response` read past its end. -/
structure Safe (device : Device) (msg : List UInt8) : Prop where
  typed : 2 ≤ msg.length
  echoed : (readHeader msg).isResponse = false →
    (transMask (readHeader msg).channel).isSome = true → headerSize < msg.length
  carried : (readHeader msg).isResponse = false → device.service.refusal msg = none →
    (readHeader msg).channel ∈ i3cControllerChannels → RunsSequence device.i3cBuses msg →
      SequenceInside msg

section Answers

variable {δ : Type} {platform : Platform δ} {device : Device} {driver : δ} {msg : List UInt8}

theorem returns_refuse (status : UInt8) (covers : Covers msg (errReads msg)) :
    Returns (refuse device driver msg status) fun outcome => WellFormed msg outcome.1 :=
  .reading covers (wellFormed_buildErrResponse msg status)

theorem transMask_isSome {channel : UInt8} : (transMask channel).isSome = true ↔
    channel = controlChannel ∨ channel = mmioChannel ∨ channel = ioChannel := by
  have below : channel ≤ mmioChannel ↔ channel = controlChannel ∨ channel = mmioChannel := by
    rw [UInt8.le_iff_toNat_le, ← UInt8.toNat_inj, ← UInt8.toNat_inj]
    change channel.toNat ≤ 1 ↔ channel.toNat = 0 ∨ channel.toNat = 1
    omega
  unfold transMask
  split <;> rename_i low
  · exact iff_of_true rfl ((below.mp low).imp id .inl)
  · have high := not_or.mp (mt below.mpr low)
    split <;> simp [*]

/-- A request that is handed to a handler is answered. -/
theorem returns_serveRequest (typed : 0 < msg.length)
    (echoed : (transMask (readHeader msg).channel).isSome = true → headerSize < msg.length)
    (carried : (readHeader msg).channel ∈ i3cControllerChannels →
      RunsSequence device.i3cBuses msg → SequenceInside msg) :
    Returns (serveRequest platform device driver msg) fun outcome => WellFormed msg outcome.1 := by
  have refused (status : UInt8) := @returns_refuse δ device driver msg status
    (covers_errReads typed echoed)
  unfold serveRequest
  dsimp only
  split
  · rename_i control
    have long := echoed (transMask_isSome.mpr (.inl control))
    exact .reading (covers_mmioReads long) (wellFormed_controlRequest device.service msg)
  split
  · rename_i mmio
    have long := echoed (transMask_isSome.mpr (.inr (.inl mmio)))
    exact .reading (covers_mmioReads long) (Mmio.wellFormed_mmioRequest device.mmio msg)
  split
  · exact .reading (covers_serialReads msg) (wellFormed_handleSerialRequest _ msg)
  split
  · exact refused _
  split
  · rename_i channel
    exact .reading (Spi.covers_spiReads _ msg) (Spi.wellFormed_handleSpiRequest _ _ channel)
  split
  · exact .reading (Gpio.covers_gpioReads msg) (Gpio.wellFormed_handleGpioRequest _ msg)
  split
  · rename_i io
    have long := echoed (transMask_isSome.mpr (.inr (.inr io)))
    exact .reading (Io.covers_ioReads long) (Io.wellFormed_handleIoRequest device.io msg)
  split
  · exact .reading (covers_i2cReads _ msg) (wellFormed_handleI2cRequest _ _ driver msg)
  split
  · rename_i i3c
    refine (wellFormed_handleI3cRequest _ _ _ _ (carried i3c)).bind fun outcome formed => ?_
    exact .reading (covers_i3cReads _ msg) formed
  · exact refused _

/-! ## When a request is answered -/

theorem typed_of_returns {post : List UInt8 × Device × δ → Prop}
    (returns : Returns (obmfGetResponse platform device driver msg) post) : 2 ≤ msg.length := by
  obtain ⟨hdr, read, -⟩ := returns.of_bind
  have returned : Returns (reading msg [(0, 2)] (readHeader msg)) fun _ => True :=
    ⟨hdr, read, trivial⟩
  exact (covers_cons.mp (covers_of_reading returned)).1

theorem returns_request {post : List UInt8 × Device × δ → Prop}
    (request : (readHeader msg).isResponse = false) (typed : 2 ≤ msg.length) :
    Returns (obmfGetResponse platform device driver msg) post ↔
      Returns (match device.service.refusal msg with
        | some status => refuse device driver msg status
        | none => serveRequest platform device driver msg) post := by
  have covers : Covers msg [(0, 2)] := covers_cons.mpr ⟨typed, covers_nil msg⟩
  rw [obmfGetResponse, reading, if_pos covers, bind_eq_bind, bind_some,
    if_neg (by rw [request]; decide)]

theorem echoed_of_returns {post : List UInt8 × Device × δ → Prop}
    (request : (readHeader msg).isResponse = false)
    (listed : (transMask (readHeader msg).channel).isSome = true)
    (returns : Returns (obmfGetResponse platform device driver msg) post) :
    headerSize < msg.length := by
  rw [returns_request request (typed_of_returns returns)] at returns
  split at returns
  · have covers := covers_of_reading returns
    rw [errReads, if_pos listed, covers_cons, covers_cons] at covers
    exact covers.2.1
  · unfold serveRequest at returns
    rcases transMask_isSome.mp listed with control | mmio | io
    · rw [if_pos control] at returns
      exact (covers_cons.mp (covers_of_reading returns)).1
    · have other : ¬ mmioChannel = controlChannel := by decide
      rw [mmio, if_neg other, if_pos rfl] at returns
      exact (covers_cons.mp (covers_of_reading returns)).1
    · have others : ¬ ioChannel = controlChannel ∧ ¬ ioChannel = mmioChannel ∧
          ioChannel ∉ serialChannels ∧ ioChannel ∉ consumerChannels ∧
            ¬ ioChannel = Spi.spiChannel ∧ ioChannel ∉ gpioChannels := by decide +kernel
      obtain ⟨control, mmio, serial, consumer, spi, gpio⟩ := others
      rw [io, if_neg control, if_neg mmio, if_neg serial, if_neg consumer, if_neg spi,
        if_neg gpio, if_pos rfl] at returns
      exact (covers_cons.mp (covers_of_reading returns)).1

theorem Safe.returns (safe : Safe device msg) :
    Returns (obmfGetResponse platform device driver msg) fun outcome =>
      ProperAnswer msg outcome.1 := by
  have covers : Covers msg [(0, 2)] := covers_cons.mpr ⟨safe.typed, covers_nil msg⟩
  have some' : 0 < msg.length := Nat.lt_of_lt_of_le (by decide) safe.typed
  cases response : (readHeader msg).isResponse with
  | true =>
    rw [obmfGetResponse, reading, if_pos covers, bind_eq_bind, bind_some,
      if_pos response]
    have silent : ProperAnswer msg [] := by rw [ProperAnswer, if_pos response]
    exact .intro silent
  | false =>
    have formed : ∀ outcome : List UInt8 × Device × δ, WellFormed msg outcome.1 →
        ProperAnswer msg outcome.1 := fun outcome formed => by
      rwa [ProperAnswer, if_neg (by rw [response]; decide)]
    rw [returns_request response safe.typed]
    split
    · exact (returns_refuse _ (covers_errReads some' (safe.echoed response))).mono formed
    · rename_i accepted
      exact (returns_serveRequest some' (safe.echoed response)
        (safe.carried response accepted)).mono formed

end Answers

/-- The platform whose I3C buses are scripted, without callbacks and flash. -/
def scriptedPlatform : Platform (List Nat) where
  rxCb _ := none
  shdDev := none
  i2cMaster :=
    { read := fun script _ _ _ _ => (.ok fun _ => 0, script)
      write := fun script _ _ _ => (none, script) }
  i3cMaster _ := scriptedMaster
  handleResponse device _ := device

theorem carried_of_returns {device : Device} {msg : List UInt8}
    (request : (readHeader msg).isResponse = false) (accepted : device.service.refusal msg = none)
    (channel : (readHeader msg).channel ∈ i3cControllerChannels)
    (runs : RunsSequence device.i3cBuses msg)
    (returns : ∀ script, Returns (obmfGetResponse scriptedPlatform device script msg)
      fun _ => True) :
    SequenceInside msg := by
  have others : ∀ channel ∈ i3cControllerChannels, ¬ channel = controlChannel ∧
      ¬ channel = mmioChannel ∧ channel ∉ serialChannels ∧ channel ∉ consumerChannels ∧
        ¬ channel = Spi.spiChannel ∧ channel ∉ gpioChannels ∧ ¬ channel = ioChannel ∧
          channel ∉ i2cControllerChannels := by decide +kernel
  obtain ⟨control, mmio, serial, consumer, spi, gpio, io, i2c⟩ := others _ channel
  have typed := typed_of_returns (returns [])
  let state : I3cState := ⟨device.associatedI2cChannel, device.service⟩
  have answered : ∀ script,
      Returns (handleI3cRequest scriptedMaster device.i3cBuses state script msg) fun _ => True := by
    intro script
    have returned := (returns_request request typed).mp (returns script)
    rw [accepted] at returned
    unfold serveRequest at returned
    rw [if_neg control, if_neg mmio, if_neg serial, if_neg consumer, if_neg spi, if_neg gpio,
      if_neg io, if_neg i2c, if_pos channel] at returned
    obtain ⟨outcome, ran, -⟩ := returned.of_bind
    exact ⟨outcome, ran, trivial⟩
  exact sequenceInside_of_returns runs answered

/-- Every platform leads to one well-formed answer to a request and none to a response, and the
message is not read past its end, if and only if the message is safe. -/
theorem properAnswer_iff_safe (device : Device) (msg : List UInt8) :
    (∀ (δ : Type) (platform : Platform δ) (driver : δ),
      Returns (obmfGetResponse platform device driver msg) fun outcome =>
        ProperAnswer msg outcome.1) ↔ Safe device msg := by
  constructor
  · intro answered
    have returned (script : List Nat) := answered _ scriptedPlatform script
    exact
      { typed := typed_of_returns (returned [])
        echoed := fun request listed => echoed_of_returns request listed (returned [])
        carried := fun request accepted channel runs =>
          carried_of_returns request accepted channel runs fun script =>
            (returned script).mono fun _ _ => trivial }
  · intro safe δ platform driver
    exact safe.returns

/-- The device that starts with a platform without channels and callbacks. -/
def bareDevice : Device where
  service := .init ⟨[], 0, 0, []⟩
  mmio := ⟨fun _ _ => 0, false, []⟩
  io := ⟨fun _ => 0, false, []⟩
  gpio _ := ⟨none, none, false, [], fun _ => 0⟩
  spi := .init
  i2cControllerBus _ := 0xFF
  i3cBuses := ⟨fun _ => 0xFF, fun _ => false⟩
  associatedI2cChannel := 0

/-- A request on Channel 0 that is only a header is read past its end. -/
theorem obmfGetResponse_bareHeader :
    ¬ Returns (obmfGetResponse scriptedPlatform bareDevice [] [0, 0, 0, 0]) fun outcome =>
      ProperAnswer [0, 0, 0, 0] outcome.1 := by
  intro returns
  have long : headerSize < [0, 0, 0, 0].length :=
    echoed_of_returns (by decide) (by decide) returns
  exact absurd long (by decide)

end OpenBic.Obmf
