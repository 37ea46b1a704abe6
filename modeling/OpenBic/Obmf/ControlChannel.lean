import OpenBic.Obmf.ConfigSpace
import OpenBic.Obmf.Link

/-!
# Requests on Channel 0

How `obmf_get_response` reads and writes the discovery structure for the host, and what else changes
it: the platform, the link and a bus reset.
-/

namespace OpenBic.Obmf

open List

open Function Library.Machine Library.Splice Library.Field

/-! ## Messages -/

def ch0MaxTransSize : Nat := 64

def sizeFieldLen : Nat := 2

/-- `OBMF_ICP_MMIO_GET_TRANS`. -/
def mmioTrans (msg : List UInt8) : UInt8 := msg.getD headerSize 0 &&& 0x07

def transShortRead : UInt8 := 0x00

def transShortWrite : UInt8 := 0x01

def transLongRead : UInt8 := 0x02

def transLongWrite : UInt8 := 0x03

/-- `OBMF_LONG_ADDR_SIZE` for a long transaction, else `OBMF_SHORT_ADDR_SIZE`. -/
def addrSize (msg : List UInt8) : Nat :=
  if mmioTrans msg = transLongRead ∨ mmioTrans msg = transLongWrite then 8 else 4

def mmioPayload (msg : List UInt8) : List UInt8 := msg.drop (headerSize + mmioSubHdrSize)

def payloadByte (msg : List UInt8) (index : Nat) : UInt8 := (mmioPayload msg).getD index 0

/-- `addr`. -/
def ch0Addr (msg : List UInt8) : Nat := load (payloadByte msg) 0 (addrSize msg)

/-- `read_size`. -/
def ch0ReadSize (msg : List UInt8) : Nat := load (payloadByte msg) (addrSize msg) sizeFieldLen

/-- `write_size`, which has 16 bits. -/
def ch0WriteSize (msg : List UInt8) : Nat := ((mmioPayload msg).length - addrSize msg) % 2 ^ 16

/-- `write_data`. -/
def ch0WriteData (msg : List UInt8) : Nat → UInt8 := view (payloadByte msg) (addrSize msg)

def ch0Response (msg : List UInt8) (status : UInt8) (data : List UInt8) : List UInt8 :=
  Header.bytes ⟨(readHeader msg).channel, responseStatus status,
    UInt16.ofNat (mmioSubHdrSize + data.length)⟩ ++ [mmioTrans msg, 0] ++ data

theorem DataSound.of_readOnly {type : ChannelType} {first second : Nat → UInt8} {data size : Nat}
    (sound : DataSound type first data size)
    (same : ∀ index, ¬ HostWritable type (configDataOffset + index) ∨ size ≤ index →
      second (data + index) = first (data + index)) : DataSound type second data size := by
  cases type
  case gpio =>
    have count : load second data 2 = load first data 2 := load_congr fun index inside =>
      same index (.inl (@not_hostWritable_of_roField .gpio (0x20, 2) index
        (mem_append_right _ mem_cons_self) inside))
    simpa only [DataSound, count] using sound
  case i3cController =>
    have count : second (data + 14) = first (data + 14) :=
      same 14 (.inl (@not_hostWritable_of_roField .i3cController (0x2E, 1) 0 (by decide)
        (by decide)))
    simp only [DataSound, count] at sound ⊢
    obtain ⟨few, sized, unused⟩ := sound
    refine ⟨few, sized, fun index inside beyond => ?_⟩
    rw [Nat.add_assoc, same _ (.inr (sized ▸ Nat.add_le_add_left beyond _)), ← Nat.add_assoc]
    exact unused index inside beyond
  case i2cTarget =>
    have count : second (data + 2) = first (data + 2) :=
      same 2 (.inl (@not_hostWritable_of_roField .i2cTarget (0x22, 1) 0 (by decide)
        (by decide)))
    simpa only [DataSound, count] using sound
  all_goals exact sound

theorem DataSound.lt_of_clamped {type : ChannelType} {mem raw : Nat → UInt8} {data size index : Nat}
    (sound : DataSound type mem data size)
    (behind : ∀ index, size ≤ index → raw (data + index) = mem (data + index))
    (changed : clamped type (view raw data) index ≠ view raw data index) : index < size := by
  have inArray : index < arrayOffset type + entryCount type * entrySize type := by
    simp only [clamped] at changed
    split at changed
    · omega
    · exact absurd rfl changed
  cases type
  case gpio =>
    rw [sound.2]
    exact inArray
  case io =>
    rw [show size = configDataSize .io from sound]
    exact inArray
  case i3cController =>
    obtain ⟨-, sized, unused⟩ := sound
    by_contra beyond
    refine changed (@clamped_of_zero _ (mem (data + 14)).toNat index ?_ (by omega))
    intro entry inside after
    rw [view_apply, behind _ (by omega), ← Nat.add_assoc]
    exact unused entry inside after
  all_goals
    refine absurd ?_ changed
    simp [clamped, entryCount]

namespace Service

def handleCh0ReadReq (service : Service) (msg : List UInt8) : List UInt8 :=
  if (mmioPayload msg).length < addrSize msg + sizeFieldLen then
    buildErrResponse msg statusInvalidCmd
  else if ch0ReadSize msg = 0 then buildErrResponse msg statusInvalidCmd
  else if ch0MaxTransSize < ch0ReadSize msg then buildErrResponse msg statusSizeNotSupported
  else if structureSize ≤ ch0Addr msg ∨ structureSize - ch0Addr msg < ch0ReadSize msg then
    buildErrResponse msg statusAddrOutOfRange
  else
    ch0Response msg statusSuccess (cells (view service.mem (ch0Addr msg)) (ch0ReadSize msg))

/-- Where the configuration space of a channel ends: `end`, which has 32 bits. -/
def spaceEnd (service : Service) (channel : UInt8) : Nat :=
  (chanBase channel + configDataOffset + load service.mem (chanBase channel + configSizeOffset) 4) %
    2 ^ 32

def channelAt (service : Service) (addr : Nat) : Option UInt8 :=
  channels.find? fun channel =>
    service.present channel && decide (chanBase channel ≤ addr ∧ addr < service.spaceEnd channel)

/-- The turn of the loop in `handle_ch0_write_req` for the channel that contains the address,
unless the write is denied. -/
def writeChannel (service : Service) (channel : UInt8) (addr size : Nat) (data : Nat → UInt8) :
    Option Service :=
  let base := chanBase channel
  let rel := addr - base
  if rel = controlOffset ∧ size = 1 then some (service.controlWrite base (data 0))
  else if service.spaceEnd channel - addr < size then none
  else if ∀ index < size, ch0CfgByteWritable (service.mem base) (rel + index) then
    some { service with mem := ch0CfgSanitize (overwrite service.mem addr size data) base }
  else none

/-- The write of `handle_ch0_write_req` once its address and size are valid, unless it is denied. -/
def writeFields (service : Service) (addr size : Nat) (data : Nat → UInt8) : Option Service :=
  match service.channelAt addr with
  | some channel => service.writeChannel channel addr size data
  | none => if addr = configStatusOffset ∧ size = 1 then some service else none

def handleCh0WriteReq (service : Service) (msg : List UInt8) : Service × List UInt8 :=
  if (mmioPayload msg).length < addrSize msg + 1 then
    (service, buildErrResponse msg statusInvalidCmd)
  else if ch0MaxTransSize < ch0WriteSize msg then
    (service, buildErrResponse msg statusSizeNotSupported)
  else if structureSize ≤ ch0Addr msg ∨ structureSize - ch0Addr msg < ch0WriteSize msg then
    (service, buildErrResponse msg statusAddrOutOfRange)
  else
    match service.writeFields (ch0Addr msg) (ch0WriteSize msg) (ch0WriteData msg) with
    | some next => (next, ch0Response msg statusSuccess [])
    | none => (service, ch0Response msg statusAccessDenied [])

/-- The branch of `obmf_get_response` for requests on Channel 0. -/
def controlRequest (service : Service) (msg : List UInt8) : Service × List UInt8 :=
  if mmioTrans msg = transShortRead ∨ mmioTrans msg = transLongRead then
    (service, service.handleCh0ReadReq msg)
  else if mmioTrans msg = transShortWrite ∨ mmioTrans msg = transLongWrite then
    service.handleCh0WriteReq msg
  else (service, buildErrResponse msg statusInvalidCmd)

/-! ## The platform -/

/-- `obmf_i3c_ibi_target_set`, without its result. -/
def ibiTargetSet (service : Service) (channel dynamicAddr : UInt8) (maxLen : UInt16) : Service :=
  let data := chanBase channel + configDataOffset
  let count := min (service.mem (data + 14)).toNat i3cMaxIbiTargets
  let entry (index : Nat) := data + arrayOffset .i3cController + index * ibiTargetSize
  if channel ∉ spaceOrder ∨ service.mem (chanBase channel) ≠ ChannelType.code .i3cController then
    service
  else
    match (List.range count).find? fun index => service.mem (entry index) = dynamicAddr with
    | some index =>
      { service with mem := store service.mem (entry index + 2) 2 maxLen.toNat }
    | none =>
      if count = i3cMaxIbiTargets then service
      else
        let added := overwrite service.mem (entry count) ibiTargetSize fun index =>
          if index = 0 then dynamicAddr
          else if index = 1 then 0 else digit maxLen.toNat (index - 2)
        let counted := update added (data + 14) (UInt8.ofNat (count + 1))
        { service with
          mem := store counted (chanBase channel + configSizeOffset) 4
            (arrayOffset .i3cController + (count + 1) * ibiTargetSize) }

/-- `obmf_i2c_target_set_address`, without its result. -/
def i2cTargetSetAddress (service : Service) (channel address : UInt8) : Service :=
  let data := chanBase channel + configDataOffset
  if channel ∉ [14, 15] ∨ service.present channel = false then service
  else
    let listed := update service.mem (data + arrayOffset .i2cTarget) address
    let counted := update listed (data + 2) 1
    { service with
      mem := store counted (chanBase channel + configSizeOffset) 4 (arrayOffset .i2cTarget + 1) }

/-- `obmf_sgpio0_set_config_count` and its like for SGPIO1 and the platform's GPIOs, with the
channel of each. -/
def gpioSetConfigCount (service : Service) (channel : UInt8) (count : UInt16) : Service :=
  { service with
    mem := store service.mem (chanBase channel + configDataOffset) 2
      (min count.toNat gpioMaxEntries) }

/-- A byte of an entry that the platform reached with `obmf_gpio_get_config_entries` or its like for
another channel. -/
def gpioEntryWrite (service : Service) (channel : UInt8) (offset : Nat) (byte : UInt8) : Service :=
  { service with
    mem := update service.mem
      (chanBase channel + configDataOffset + arrayOffset .gpio + offset) byte }

def specificStatusSet (service : Service) (channel bits : UInt8) (set : Bool) : Service :=
  let status := chanBase channel + specificStatusOffset
  if channel ∉ spaceOrder then service
  else
    { service with
      mem := update service.mem status
        (if set then service.mem status ||| bits else service.mem status &&& ~~~bits) }

def resetChannelState (service : Service) : Service :=
  { service with
    slots := fun channel =>
      if channel ≤ maxChannels then (service.slots channel).reset else service.slots channel
    tags := fun channel =>
      if channel ≤ maxChannels then { service.tags channel with isOutstanding := false }
      else service.tags channel
    suspendedMask := 0 }

/-! ## What holds of the configuration spaces -/

/-- What holds of the space of a channel in every state. -/
structure SpaceSound (service : Service) (channel : UInt8) : Prop where
  absent : service.present channel = false → service.mem (chanBase channel) = 0
  typed : service.present channel = true →
    service.mem (chanBase channel) = (channelType channel).code
  data : service.present channel = true →
    DataSound (channelType channel) service.mem (chanBase channel + configDataOffset)
      (load service.mem (chanBase channel + configSizeOffset) 4)

variable {service next : Service} {channel : UInt8}

theorem present_congr (mask : next.presentMask = service.presentMask) (channel : UInt8) :
    next.present channel = service.present channel := by
  rw [present, present, mask]

theorem SpaceSound.congr (sound : service.SpaceSound channel)
    (mask : next.presentMask = service.presentMask)
    (same : ∀ off < spaceSize channel, off = 0 ∨ configSizeOffset ≤ off →
      next.mem (chanBase channel + off) = service.mem (chanBase channel + off)) :
    next.SpaceSound channel := by
  have header : configDataOffset ≤ spaceSize channel := Nat.le_add_right _ _
  have type : next.mem (chanBase channel) = service.mem (chanBase channel) :=
    same 0 (Nat.lt_of_lt_of_le (by decide) header) (.inl rfl)
  have size : load next.mem (chanBase channel + configSizeOffset) 4 =
      load service.mem (chanBase channel + configSizeOffset) 4 := load_congr fun index inside => by
    rw [Nat.add_assoc]
    exact same _ (Nat.lt_of_lt_of_le (Nat.add_lt_add_left inside _) header)
      (.inr (Nat.le_add_right _ _))
  refine ⟨fun missing => ?_, fun here => ?_, fun here => ?_⟩
  · rw [type]
    exact sound.absent (present_congr mask channel ▸ missing)
  · rw [type]
    exact sound.typed (present_congr mask channel ▸ here)
  · rw [size]
    refine (sound.data (present_congr mask channel ▸ here)).congr fun index inside => ?_
    rw [Nat.add_assoc]
    exact same _ (Nat.add_lt_add_left inside _)
      (.inr (Nat.le_trans (by decide) (Nat.le_add_right configDataOffset index)))

theorem spaceEnd_eq (listed : channel ∈ spaceOrder) (here : service.present channel = true)
    (sound : service.SpaceSound channel) :
    service.spaceEnd channel = chanBase channel + configDataOffset +
        load service.mem (chanBase channel + configSizeOffset) 4 ∧
      service.spaceEnd channel ≤ chanBase channel + spaceSize channel := by
  have bounded := (sound.data here).size_le
  have within := (chanBase_within listed).2
  have small : structureSize < 2 ^ 32 := by decide +kernel
  have whole : service.spaceEnd channel = chanBase channel + configDataOffset +
      load service.mem (chanBase channel + configSizeOffset) 4 := by
    simp only [spaceSize] at within
    exact Nat.mod_eq_of_lt (by omega)
  refine ⟨whole, ?_⟩
  rw [whole, spaceSize]
  omega

theorem spaceByte_ne {first second : UInt8} {left right : Nat} (firstListed : first ∈ spaceOrder)
    (secondListed : second ∈ spaceOrder) (leftInside : left < spaceSize first)
    (rightInside : right < spaceSize second) (other : first ≠ second ∨ left ≠ right) :
    chanBase first + left ≠ chanBase second + right := by
  by_cases same : first = second
  · subst same
    have different : left ≠ right := other.resolve_left (· rfl)
    omega
  · have apart := chanBase_apart firstListed secondListed same
    omega

/-- A change that is confined to what the host writes in the space of a channel. -/
def Confined (service next : Service) (channel : UInt8) : Prop :=
  ∀ address, next.mem address ≠ service.mem address → ∃ off,
    address = chanBase channel + off ∧ address < service.spaceEnd channel ∧
      HostWritable (channelType channel) off

theorem Confined.kept (confined : service.Confined next channel) {off : Nat}
    (hidden : ¬ HostWritable (channelType channel) off ∨
      service.spaceEnd channel ≤ chanBase channel + off) :
    next.mem (chanBase channel + off) = service.mem (chanBase channel + off) := by
  by_contra changed
  obtain ⟨other, same, below, writable⟩ := confined _ changed
  obtain rfl := Nat.add_left_cancel same
  rcases hidden with readOnly | behind
  · exact readOnly writable
  · exact Nat.not_lt_of_le behind below

theorem not_hostWritable_header {type : ChannelType} {off : Nat} (inside : off < configDataOffset)
    (notName : ¬ (nameOffset ≤ off ∧ off < nameOffset + 16)) : ¬ HostWritable type off := by
  rintro (name | ⟨field, -, above, -⟩)
  · exact notName name
  · omega


/-- A confined change keeps what holds of every space. -/
theorem SpaceSound.of_confined {other : UInt8} (sound : service.SpaceSound other)
    (mask : next.presentMask = service.presentMask) (listed : channel ∈ spaceOrder)
    (otherListed : other ∈ spaceOrder) (here : service.present channel = true)
    (ownSound : service.SpaceSound channel) (confined : service.Confined next channel) :
    next.SpaceSound other := by
  obtain ⟨ends, within⟩ := spaceEnd_eq listed here ownSound
  by_cases own : channel = other
  · subst own
    have header : ∀ off < configDataOffset, ¬ (nameOffset ≤ off ∧ off < nameOffset + 16) →
        next.mem (chanBase channel + off) = service.mem (chanBase channel + off) :=
      fun off inside notName => confined.kept (.inl (not_hostWritable_header inside notName))
    have type : next.mem (chanBase channel) = service.mem (chanBase channel) :=
      header 0 (by decide) (by decide)
    have size : load next.mem (chanBase channel + configSizeOffset) 4 =
        load service.mem (chanBase channel + configSizeOffset) 4 :=
      load_congr fun index inside => by
        rw [Nat.add_assoc]
        refine header _ (Nat.add_lt_add_left inside configSizeOffset) ?_
        simp only [nameOffset, configSizeOffset]
        omega
    refine ⟨fun missing => ?_, fun _ => ?_, fun _ => ?_⟩
    · rw [present_congr mask, here] at missing
      cases missing
    · rw [type]
      exact ownSound.typed here
    · rw [size]
      refine (ownSound.data here).of_readOnly fun index hidden => ?_
      rw [Nat.add_assoc]
      refine confined.kept (hidden.imp id fun behind => ?_)
      omega
  · refine sound.congr mask fun off inside _ => ?_
    by_contra changed
    obtain ⟨ownOff, same, below, -⟩ := confined _ changed
    exact spaceByte_ne otherListed listed inside (by omega) (.inl (Ne.symm own)) same

theorem channelAt_spec {addr : Nat} (found : service.channelAt addr = some channel) :
    channel ∈ spaceOrder ∧ service.present channel = true ∧ chanBase channel ≤ addr ∧
      addr < service.spaceEnd channel := by
  have held := find?_some found
  simp only [Bool.and_eq_true, decide_eq_true_eq] at held
  exact ⟨mem_channels.mp (mem_of_find?_eq_some found), held.1, held.2.1, held.2.2⟩

theorem writeChannel_cases {addr size : Nat} {data : Nat → UInt8}
    (moved : service.writeChannel channel addr size data = some next) :
    (addr - chanBase channel = controlOffset ∧ size = 1 ∧
        next = service.controlWrite (chanBase channel) (data 0)) ∨
      (¬ (addr - chanBase channel = controlOffset ∧ size = 1) ∧
        size ≤ service.spaceEnd channel - addr ∧
        (∀ index < size, ch0CfgByteWritable (service.mem (chanBase channel))
          (addr - chanBase channel + index) = true) ∧
        next = { service with
          mem := ch0CfgSanitize (overwrite service.mem addr size data) (chanBase channel) }) := by
  simp only [writeChannel] at moved
  split at moved
  · rename_i control
    exact .inl ⟨control.1, control.2, (Option.some.inj moved).symm⟩
  rename_i notControl
  split at moved
  · cases moved
  rename_i fits
  split at moved
  · rename_i writable
    exact .inr ⟨notControl, Nat.le_of_not_lt fits, writable, (Option.some.inj moved).symm⟩
  · cases moved

section Fields

variable {addr size : Nat}

theorem overwrite_type (data : Nat → UInt8) (reaches : chanBase channel ≤ addr)
    (writable : ∀ index < size, ch0CfgByteWritable (service.mem (chanBase channel))
      (addr - chanBase channel + index) = true) :
    overwrite service.mem addr size data (chanBase channel) = service.mem (chanBase channel) := by
  refine overwrite_outside _ _ fun inside => ?_
  have first := writable 0 (by omega)
  rw [show addr - chanBase channel + 0 = 0 by omega] at first
  simp [ch0CfgByteWritable, nameOffset, configDataOffset] at first

/-- A write to the fields of a channel is confined to what the host writes. -/
theorem confined_fields (data : Nat → UInt8) (listed : channel ∈ spaceOrder)
    (here : service.present channel = true)
    (sound : service.SpaceSound channel) (reaches : chanBase channel ≤ addr)
    (fits : size ≤ service.spaceEnd channel - addr)
    (writable : ∀ index < size, ch0CfgByteWritable (service.mem (chanBase channel))
      (addr - chanBase channel + index) = true) :
    service.Confined { service with
      mem := ch0CfgSanitize (overwrite service.mem addr size data) (chanBase channel) }
        channel := by
  obtain ⟨ends, within⟩ := spaceEnd_eq listed here sound
  have typed := (overwrite_type data reaches writable).trans (sound.typed here)
  have written : ∀ address, overwrite service.mem addr size data address ≠ service.mem address →
      ∃ off, address = chanBase channel + off ∧ address < service.spaceEnd channel ∧
        HostWritable (channelType channel) off := by
    intro address changed
    have inside : addr ≤ address ∧ address < addr + size := by
      by_contra outside
      exact changed (overwrite_outside _ _ outside)
    have allowed := writable (address - addr) (by omega)
    rw [sound.typed here] at allowed
    refine ⟨addr - chanBase channel + (address - addr), by omega, by omega,
      hostWritable_of_byteWritable ?_ allowed⟩
    simp only [spaceSize] at within
    omega
  intro address changed
  by_cases untouched : ch0CfgSanitize (overwrite service.mem addr size data) (chanBase channel)
      address = overwrite service.mem addr size data address
  · exact written address (untouched ▸ changed)
  refine ⟨address - chanBase channel, ?_⟩
  have inArray : chanBase channel + configDataOffset ≤ address := by
    by_contra before
    exact untouched (ch0CfgSanitize_outside typed (by omega))
  obtain ⟨index, rfl⟩ := Nat.exists_eq_add_of_le inArray
  rw [ch0CfgSanitize_inside typed index] at untouched
  have below := (sound.data here).lt_of_clamped (fun other beyond =>
    overwrite_outside service.mem data (by omega)) untouched
  have offset : chanBase channel + configDataOffset + index - chanBase channel =
      configDataOffset + index := by omega
  rw [offset]
  exact ⟨Nat.add_assoc _ _ _, by omega, hostWritable_of_clamped untouched⟩

theorem written_fields (data : Nat → UInt8) (here : service.present channel = true)
    (sound : service.SpaceSound channel) (reaches : chanBase channel ≤ addr)
    (writable : ∀ index < size, ch0CfgByteWritable (service.mem (chanBase channel))
      (addr - chanBase channel + index) = true) {address : Nat} (above : addr ≤ address) :
    ch0CfgSanitize (overwrite service.mem addr size data) (chanBase channel) address =
      if address < chanBase channel + configDataOffset then
        overwrite service.mem addr size data address
      else
        clamped (channelType channel)
          (view (overwrite service.mem addr size data) (chanBase channel + configDataOffset))
          (address - (chanBase channel + configDataOffset)) := by
  have typed := (overwrite_type data reaches writable).trans (sound.typed here)
  split
  · exact ch0CfgSanitize_outside typed (by omega)
  · rename_i behind
    obtain ⟨index, rfl⟩ := Nat.exists_eq_add_of_le (Nat.le_of_not_lt behind)
    rw [ch0CfgSanitize_inside typed index, Nat.add_sub_cancel_left]

end Fields

/-! ## One write request -/

/-- An answer with `OBMF_ICP_SUCCESS`. -/
def Succeeds (answer : List UInt8) : Prop :=
  (readHeader answer).rqrespStatus = responseStatus statusSuccess

/-- A write to the configuration space. -/
def IsCh0Write (msg : List UInt8) : Prop :=
  mmioTrans msg = transShortWrite ∨ mmioTrans msg = transLongWrite

/-- A read of the configuration space. -/
def IsCh0Read (msg : List UInt8) : Prop :=
  (mmioTrans msg = transShortRead ∨ mmioTrans msg = transLongRead) ∧
    addrSize msg + sizeFieldLen ≤ (mmioPayload msg).length

/-- A request that writes `CHANNEL_CONTROL` of a channel. -/
def WritesControl (service : Service) (msg : List UInt8) : Prop :=
  ch0WriteSize msg = 1 ∧ ∃ channel, service.channelAt (ch0Addr msg) = some channel ∧
    ch0Addr msg = chanBase channel + controlOffset

/-- What is read back where a request wrote: only the enable bit of `CHANNEL_CONTROL`, the name as
it was written, the configuration data after clamping, and `config_status` as it was. -/
def readBack (service : Service) (msg : List UInt8) (address : Nat) : UInt8 :=
  let raw := overwrite service.mem (ch0Addr msg) (ch0WriteSize msg) (ch0WriteData msg)
  match service.channelAt (ch0Addr msg) with
  | none => service.mem address
  | some channel =>
    if address = chanBase channel + controlOffset then raw address &&& 0x01
    else if address < chanBase channel + configDataOffset then raw address
    else
      clamped (channelType channel) (view raw (chanBase channel + configDataOffset))
        (address - (chanBase channel + configDataOffset))

/-- What holds of a write request and its answer. -/
structure WriteControlled (service : Service) (msg : List UInt8) (next : Service)
    (answer : List UInt8) : Prop where
  refused : ¬ Succeeds answer → next = service
  /-- Only bytes that the host writes change, in the space of the channel that contains the
  address, and no other state. -/
  confined : Succeeds answer → ¬ service.WritesControl msg →
    next = { service with mem := next.mem } ∧
      match service.channelAt (ch0Addr msg) with
      | some channel => service.Confined next channel
      | none => next = service
  readOnly : Succeeds answer → ¬ service.WritesControl msg →
    (∀ address < baseSize, next.mem address = service.mem address) ∧
      ∀ channel ∈ spaceOrder, ∀ field ∈ roFields (channelType channel),
        load next.mem (chanBase channel + field.1) field.2 =
          load service.mem (chanBase channel + field.1) field.2
  reads : Succeeds answer → ∀ readMsg, IsCh0Read readMsg → 0 < ch0ReadSize readMsg →
    ch0Addr msg ≤ ch0Addr readMsg →
    ch0Addr readMsg + ch0ReadSize readMsg ≤ ch0Addr msg + ch0WriteSize msg →
    (next.controlRequest readMsg).2 = ch0Response readMsg statusSuccess
      (cells (view (service.readBack msg) (ch0Addr readMsg)) (ch0ReadSize readMsg))

theorem status_ch0Response (msg : List UInt8) (status : UInt8) (data : List UInt8) :
    (readHeader (ch0Response msg status data)).rqrespStatus = responseStatus status := by
  rw [ch0Response, append_assoc, readHeader_bytes]

theorem controlRequest_read {msg : List UInt8} (reads : IsCh0Read msg)
    (some' : 0 < ch0ReadSize msg) (few : ch0ReadSize msg ≤ ch0MaxTransSize)
    (inside : ch0Addr msg + ch0ReadSize msg ≤ structureSize) :
    (service.controlRequest msg).2 = ch0Response msg statusSuccess
      (cells (view service.mem (ch0Addr msg)) (ch0ReadSize msg)) := by
  have within : ¬ (structureSize ≤ ch0Addr msg ∨
      structureSize - ch0Addr msg < ch0ReadSize msg) := by omega
  simp only [controlRequest, if_pos reads.1, handleCh0ReadReq, if_neg (Nat.not_lt_of_le reads.2),
    if_neg (Nat.ne_of_gt some'), if_neg (Nat.not_lt_of_le few), if_neg within]

theorem handleCh0WriteReq_cases (service : Service) (msg : List UInt8) :
    ((service.handleCh0WriteReq msg).1 = service ∧
        ¬ Succeeds (service.handleCh0WriteReq msg).2) ∨
      (service.writeFields (ch0Addr msg) (ch0WriteSize msg) (ch0WriteData msg) =
          some (service.handleCh0WriteReq msg).1 ∧
        Succeeds (service.handleCh0WriteReq msg).2 ∧ ch0WriteSize msg ≤ ch0MaxTransSize ∧
        ch0Addr msg + ch0WriteSize msg ≤ structureSize) := by
  have failure : ∀ code, responseStatus code ≠ responseStatus statusSuccess →
      ¬ Succeeds (buildErrResponse msg code) := by
    intro code error
    rw [Succeeds, (readHeader_buildErrResponse msg code).2.1]
    exact error
  simp only [handleCh0WriteReq]
  split
  · exact .inl ⟨rfl, failure _ (by decide)⟩
  split
  · exact .inl ⟨rfl, failure _ (by decide)⟩
  rename_i few
  split
  · exact .inl ⟨rfl, failure _ (by decide)⟩
  split
  · rename_i next written
    exact .inr ⟨written, status_ch0Response _ _ _, Nat.le_of_not_lt few, by omega⟩
  · refine .inl ⟨rfl, ?_⟩
    rw [Succeeds, status_ch0Response]
    decide

theorem Confined.readOnly (confined : service.Confined next channel) (listed : channel ∈ spaceOrder)
    (here : service.present channel = true) (sound : service.SpaceSound channel) :
    (∀ address < baseSize, next.mem address = service.mem address) ∧
      ∀ other ∈ spaceOrder, ∀ field ∈ roFields (channelType other),
        load next.mem (chanBase other + field.1) field.2 =
          load service.mem (chanBase other + field.1) field.2 := by
  obtain ⟨-, within⟩ := spaceEnd_eq listed here sound
  refine ⟨fun address base => ?_, fun other otherListed field reads => ?_⟩
  · by_contra changed
    obtain ⟨off, rfl, -, -⟩ := confined address changed
    have behind := (chanBase_within listed).1
    omega
  · refine load_congr fun index inside => ?_
    rw [Nat.add_assoc]
    by_cases own : channel = other
    · subst own
      exact confined.kept (.inl (not_hostWritable_of_roField reads inside))
    · by_contra changed
      obtain ⟨off, same, below, -⟩ := confined _ changed
      have inOther := roField_within reads
      refine spaceByte_ne otherListed listed ?_ (by omega) (.inl (Ne.symm own)) same
      simp only [spaceSize]
      omega

theorem controlRequest_write {msg : List UInt8} (writes : IsCh0Write msg) :
    service.controlRequest msg = service.handleCh0WriteReq msg := by
  have notRead : ¬ (mmioTrans msg = transShortRead ∨ mmioTrans msg = transLongRead) := by
    rcases writes with short | long
    · rw [short]
      decide
    · rw [long]
      decide
  simp only [IsCh0Write] at writes
  rw [controlRequest, if_neg notRead, if_pos writes]

/-- A byte that was written is as it is read back. -/
theorem mem_eq_readBack {msg : List UInt8} (sounds : ∀ channel ∈ spaceOrder,
      service.SpaceSound channel)
    (moved : service.writeFields (ch0Addr msg) (ch0WriteSize msg) (ch0WriteData msg) = some next)
    {address : Nat} (above : ch0Addr msg ≤ address)
    (below : address < ch0Addr msg + ch0WriteSize msg) :
    next.mem address = service.readBack msg address := by
  simp only [writeFields] at moved
  simp only [readBack]
  split at moved
  · rename_i channel found
    obtain ⟨listed, here, reaches, -⟩ := channelAt_spec found
    rw [found]
    rcases writeChannel_cases moved with ⟨control, single, rfl⟩ | ⟨-, fits, writable, rfl⟩
    · obtain rfl : address = chanBase channel + controlOffset := by omega
      have apart : chanBase channel + controlOffset ≠ chanBase channel + statusOffset :=
        headerByte_ne listed listed (by decide) (by decide) (.inr (by decide))
      have start : chanBase channel + controlOffset = ch0Addr msg + 0 := by omega
      have raw : overwrite service.mem (ch0Addr msg) (ch0WriteSize msg) (ch0WriteData msg)
          (chanBase channel + controlOffset) = ch0WriteData msg 0 := by
        rw [start]
        exact overwrite_inside _ _ (by omega)
      simp only [if_pos, raw, controlWrite]
      rw [update_of_ne apart]
      split
      · rw [update_of_ne (headerByte_ne_configStatus controlOffset listed),
          update_self]
      · rw [update_self]
    · have notControl : address ≠ chanBase channel + controlOffset := by
        rintro rfl
        have allowed := writable (chanBase channel + controlOffset - ch0Addr msg) (by omega)
        rw [show ch0Addr msg - chanBase channel +
          (chanBase channel + controlOffset - ch0Addr msg) = controlOffset by omega] at allowed
        simp [ch0CfgByteWritable, nameOffset, deviceRoleOffset, controlOffset, configDataOffset]
          at allowed
      simp only [if_neg notControl]
      exact written_fields (ch0WriteData msg) here (sounds channel listed) reaches writable above
  · rename_i missing
    split at moved
    · rw [missing, Option.some.inj moved]
    · cases moved

/-- What holds of every write request in a state whose spaces are sound. -/
theorem writeControlled_of_sound {msg : List UInt8}
    (sounds : ∀ channel ∈ spaceOrder, service.SpaceSound channel) (writes : IsCh0Write msg) :
    WriteControlled service msg (service.controlRequest msg).1 (service.controlRequest msg).2 := by
  rw [controlRequest_write writes]
  rcases service.handleCh0WriteReq_cases msg with ⟨same, failed⟩ | ⟨moved, success, few, inside⟩
  · exact ⟨fun _ => same, fun success => absurd success failed, fun success =>
      absurd success failed, fun success => absurd success failed⟩
  have back : ∀ address, ch0Addr msg ≤ address → address < ch0Addr msg + ch0WriteSize msg →
      (service.handleCh0WriteReq msg).1.mem address = service.readBack msg address :=
    fun address above below => mem_eq_readBack sounds moved above below
  generalize (service.handleCh0WriteReq msg).1 = next at moved back ⊢
  generalize (service.handleCh0WriteReq msg).2 = answer at success ⊢
  have fields : ¬ service.WritesControl msg → next = { service with mem := next.mem } ∧
      match service.channelAt (ch0Addr msg) with
      | some channel => service.Confined next channel
      | none => next = service := by
    intro notControl
    simp only [writeFields] at moved
    split at moved
    · rename_i channel found
      obtain ⟨listed, here, reaches, -⟩ := channelAt_spec found
      rcases writeChannel_cases moved with ⟨control, single, rfl⟩ | ⟨-, fits, writable, rfl⟩
      · exact absurd ⟨single, channel, found, by omega⟩ notControl
      · exact ⟨rfl, confined_fields (ch0WriteData msg) listed here (sounds channel listed) reaches
          fits writable⟩
    · split at moved
      · cases moved
        exact ⟨rfl, rfl⟩
      · cases moved
  refine ⟨fun failed => absurd success failed, fun _ => fields, fun _ notControl => ?_,
    fun _ readMsg reads some' above below => ?_⟩
  · obtain ⟨-, confined⟩ := fields notControl
    split at confined
    · rename_i channel found
      obtain ⟨listed, here, -, -⟩ := channelAt_spec found
      exact confined.readOnly listed here (sounds channel listed)
    · rw [confined]
      exact ⟨fun _ _ => rfl, fun _ _ _ _ => rfl⟩
  · rw [controlRequest_read reads some' (by omega) (by omega)]
    congr 1
    exact cells_congr fun index few => back _ (by omega) (by omega)

end Service

end OpenBic.Obmf
