import OpenBic.Obmf.Discovery

/-!
# The state of the OBMF service

The discovery structure with the state of the channels beside it, how the service starts from the
platform's table, and what changes the enable bit of a channel: the link going down and up, and a
`CHANNEL_CONTROL` write of the host.
-/

namespace OpenBic.Obmf

open Function Library.Splice Library.Field

/-- The outstanding request of a channel. -/
structure ChannelTags where
  isOutstanding : Bool
  sentAt : Nat

/-- The device: its memory, its masks and the state of its channels. -/
structure Service where
  /-- The bytes of `discovery_struct`. -/
  mem : Nat → UInt8
  presentMask : BitVec 32
  suspendedMask : BitVec 32
  tags : UInt8 → ChannelTags
  slots : UInt8 → FragSlot
  /-- The messages in `obmf_tx_msgq`. -/
  txQueue : List (List UInt8)

def bit (channel : UInt8) : BitVec 32 := .twoPow 32 channel.toNat

theorem getLsbD_bit {first second : UInt8} (exists' : first ≤ maxChannels) :
    (bit first).getLsbD second.toNat = decide (first = second) := by
  have small : first.toNat < 32 :=
    Nat.lt_of_le_of_lt (UInt8.le_iff_toNat_le.mp exists') (by decide)
  rw [bit, BitVec.getLsbD_twoPow, decide_eq_true small, Bool.true_and]
  exact decide_eq_decide.mpr UInt8.toNat_inj

/-! ## The platform's table -/

/-- `struct obmf_plat_channel`. -/
structure PlatChannel where
  channel : UInt8
  /-- `name`, without the final NUL. -/
  name : Option (List UInt8)
  /-- The bytes of the union `cfg`. -/
  cfg : Nat → UInt8
  /-- IBI targets come from `obmf_i3c_ibi_target_set`; the table leaves their array zero, as
  `OBMF_I3C_DEFAULT_CONFIG` does. -/
  noTargets : channelType channel = .i3cController →
    ∀ index < i3cMaxIbiTargets * ibiTargetSize, cfg (arrayOffset .i3cController + index) = 0

/-- `struct obmf_plat_config`. -/
structure PlatConfig where
  /-- `device_name`, or the default, without the final NUL. -/
  deviceName : List UInt8
  vendorId : UInt16
  deviceId : UInt16
  channels : List PlatChannel

def enabledRanges (ranges : Nat → UInt8) : Nat :=
  (List.range ioMaxRanges).foldl
    (fun count index => if ranges (index * ioRangeSize) &&& 0x01 ≠ 0 then index + 1 else count) 0

/-- `obmf_channel_config_fill` at an address: the memory after it, and the `CONFIG_SIZE` to
advertise unless it fails. -/
def configFill (type : ChannelType) (cfg mem : Nat → UInt8) (data : Nat) :
    (Nat → UInt8) × Option Nat :=
  match type with
  | .mmio | .serial | .spiController | .memDevice | .i2cController =>
    (overwrite mem data (configDataSize type) cfg, some (configDataSize type))
  | .ipmi => (mem, some 0)
  | .gpio =>
    if gpioMaxEntries < load cfg 0 2 then (mem, none)
    else (store mem data 2 (load cfg 0 2), some (configDataSize .gpio))
  | .io =>
    let copied := overwrite mem data (configDataSize .io) cfg
    let count :=
      if load cfg 2 2 = 0 then enabledRanges (view cfg (arrayOffset .io)) else load cfg 2 2
    (store copied (data + 2) 2 count,
      if ioMaxRanges < count then none else some (configDataSize .io))
  | .i2cTarget =>
    (overwrite mem data 3 fun index => if index = 0 then cfg 0 else if index = 1 then 255 else 0,
      some (arrayOffset .i2cTarget))
  | .i3cController =>
    (store (overwrite mem data (configDataSize .i3cController) cfg) (data + 14) 1 0,
      some (arrayOffset .i3cController))
  | .config => (mem, none)

/-- `obmf_channel_device_role`: 1 is a consumer. -/
def deviceRole (channel : UInt8) : UInt8 :=
  match channel with
  | 3 | 4 | 14 | 15 => 1
  | _ => 0

def decimal (number : Nat) : List UInt8 :=
  if number < 10 then [UInt8.ofNat (48 + number)]
  else [UInt8.ofNat (48 + number / 10), UInt8.ofNat (48 + number % 10)]

/-- The bytes written to `channel_name`: at most 15 of a name, padded, or `CH` and the number with a
NUL. -/
def channelName (channel : UInt8) : Option (List UInt8) → List UInt8
  | some name => (name ++ List.replicate 15 0).take 15
  | none => [67, 72] ++ decimal channel.toNat ++ [0]

def headerFill (mem : Nat → UInt8) (channel : UInt8) (name : Option (List UInt8)) (size : Nat) :
    Nat → UInt8 :=
  let base := chanBase channel
  let typed := store mem base 2 ((channelType channel).code.toNat + 256 * channel.toNat)
  let named := overwrite typed (base + nameOffset) (channelName channel name).length
    fun index => (channelName channel name).getD index 0
  -- Device role, status (disabled, configuration valid) and control.
  let ready := store named (base + deviceRoleOffset) 3 ((deviceRole channel).toNat + 256 * 0x22)
  let sized := store ready (base + maxReqPayloadOffset) 2 rspBufSize
  let limited := store sized (base + maxRspPayloadOffset) 2 (rspBufSize - headerSize)
  store limited (base + configSizeOffset) 4 size

/-- `obmf_channel_is_present`. -/
def isPresent (presentMask : BitVec 32) (channel : UInt8) : Bool :=
  channel ≤ maxChannels && presentMask.getLsbD channel.toNat

def channelAdd (state : (Nat → UInt8) × BitVec 32) (entry : PlatChannel) :
    (Nat → UInt8) × BitVec 32 :=
  match chanCfgHdr entry.channel with
  | none => state
  | some base =>
    if isPresent state.2 entry.channel then state
    else
      match configFill (channelType entry.channel) entry.cfg state.1 (base + configDataOffset) with
      | (mem, none) => (mem, state.2)
      | (mem, some size) =>
        (store (headerFill mem entry.channel entry.name size)
          (44 + (entry.channel.toNat - 1) * 4) 4 base, state.2 ||| bit entry.channel)

/-- `obmf_ch0_base_t` when the service starts. -/
def baseFill (config : PlatConfig) : Nat → UInt8 :=
  let versioned := store (fun _ => 0) 0 2 0x0100
  let identified := store (store versioned 2 2 config.vendorId.toNat) 4 2 config.deviceId.toNat
  let named := overwrite identified 6 31 fun index => config.deviceName.getD index 0
  store named 0x26 1 maxChannels.toNat

/-- `obmf_discovery_init` and the state `obmf_service_init` starts from. -/
def Service.init (config : PlatConfig) : Service :=
  let filled := config.channels.foldl channelAdd (baseFill config, bit controlChannel)
  { mem := filled.1
    presentMask := filled.2
    suspendedMask := 0
    tags := fun _ => ⟨false, 0⟩
    slots := fun _ => .init
    txQueue := [] }

/-! ## The headers of the channels that are added -/

theorem length_channelName_le {channel : UInt8} (name : Option (List UInt8))
    (listed : channel ∈ spaceOrder) : (channelName channel name).length ≤ 15 := by
  have digits : spaceOrder.all (fun channel => (channelName channel none).length ≤ 15) = true := by
    decide +kernel
  cases name with
  | none => exact of_decide_eq_true (List.all_eq_true.mp digits channel listed)
  | some name => exact List.length_take_le 15 _

theorem headerFill_outside (mem : Nat → UInt8) {channel : UInt8} (name : Option (List UInt8))
    (size : Nat) {address : Nat} (listed : channel ∈ spaceOrder)
    (outside : address < chanBase channel ∨ chanBase channel + configDataOffset ≤ address) :
    headerFill mem channel name size address = mem address := by
  have short := length_channelName_le name listed
  simp only [configDataOffset] at outside
  simp only [headerFill, nameOffset, deviceRoleOffset, maxReqPayloadOffset, maxRspPayloadOffset,
    configSizeOffset]
  rw [store_outside _ _ (by omega), store_outside _ _ (by omega), store_outside _ _ (by omega),
    store_outside _ _ (by omega), overwrite_outside _ _ (by omega), store_outside _ _ (by omega)]

/-- What a filled header says. -/
structure HeaderFilled (mem : Nat → UInt8) (channel : UInt8) (size : Nat) : Prop where
  type : mem (chanBase channel) = (channelType channel).code
  number : mem (chanBase channel + 1) = channel
  status : mem (chanBase channel + statusOffset) = 0x22
  control : mem (chanBase channel + controlOffset) = 0
  sized : load mem (chanBase channel + configSizeOffset) 4 = size

theorem headerFill_filled (mem : Nat → UInt8) {channel : UInt8} (name : Option (List UInt8))
    {size : Nat} (listed : channel ∈ spaceOrder) (fits : size < 256 ^ 4) :
    HeaderFilled (headerFill mem channel name size) channel size := by
  have typed : ∀ channel ∈ spaceOrder,
      digit ((channelType channel).code.toNat + 256 * channel.toNat) 0 =
          (channelType channel).code ∧
        digit ((channelType channel).code.toNat + 256 * channel.toNat) 1 = channel := by
    decide +kernel
  have ready : ∀ channel ∈ spaceOrder,
      digit ((deviceRole channel).toNat + 256 * 0x22) 1 = 0x22 ∧
        digit ((deviceRole channel).toNat + 256 * 0x22) 2 = 0 := by
    decide +kernel
  refine ⟨?_, ?_, ?_, ?_, ?_⟩
  all_goals simp only [headerFill, nameOffset, deviceRoleOffset, statusOffset, controlOffset,
    maxReqPayloadOffset, maxRspPayloadOffset, configSizeOffset]
  · rw [store_outside _ _ (by omega), store_outside _ _ (by omega), store_outside _ _ (by omega),
      store_outside _ _ (by omega), overwrite_outside _ _ (by omega)]
    exact (store_inside mem _ _ (by decide)).trans (typed channel listed).1
  · rw [store_outside _ _ (by omega), store_outside _ _ (by omega), store_outside _ _ (by omega),
      store_outside _ _ (by omega), overwrite_outside _ _ (by omega)]
    exact (store_inside mem _ _ (by decide)).trans (typed channel listed).2
  · rw [store_outside _ _ (by omega), store_outside _ _ (by omega), store_outside _ _ (by omega)]
    exact (@store_inside _ _ _ 3 1 (by decide)).trans (ready channel listed).1
  · rw [store_outside _ _ (by omega), store_outside _ _ (by omega), store_outside _ _ (by omega)]
    exact (@store_inside _ _ _ 3 2 (by decide)).trans (ready channel listed).2
  · exact load_store _ _ fits

/-! ## The configuration data of the channels that are added -/

/-- What holds of the configuration data of a type at an address, with the `config_size` beside it:
the counts are within their maxima, and the size is that of the counted entries. -/
def DataSound (type : ChannelType) (mem : Nat → UInt8) (data size : Nat) : Prop :=
  match type with
  | .gpio => load mem data 2 ≤ gpioMaxEntries ∧ size = configDataSize .gpio
  | .i3cController =>
    (mem (data + 14)).toNat ≤ i3cMaxIbiTargets ∧
      size = arrayOffset .i3cController + (mem (data + 14)).toNat * ibiTargetSize ∧
      ∀ index < i3cMaxIbiTargets * ibiTargetSize, (mem (data + 14)).toNat * ibiTargetSize ≤ index →
        mem (data + arrayOffset .i3cController + index) = 0
  | .i2cTarget =>
    (mem (data + 2)).toNat ≤ 4 ∧ size = arrayOffset .i2cTarget + (mem (data + 2)).toNat
  | type => size = configDataSize type

theorem DataSound.congr {type : ChannelType} {first second : Nat → UInt8} {data size : Nat}
    (sound : DataSound type first data size)
    (same : ∀ index < configDataSize type, second (data + index) = first (data + index)) :
    DataSound type second data size := by
  cases type
  case gpio =>
    have count : load second data 2 = load first data 2 := load_congr fun index inside =>
      same index (Nat.lt_of_lt_of_le inside (by decide))
    simpa only [DataSound, count] using sound
  case i3cController =>
    have count := same 14 (by decide)
    simp only [DataSound, count] at sound ⊢
    refine ⟨sound.1, sound.2.1, fun index inside beyond => ?_⟩
    have entry := same (arrayOffset .i3cController + index) (Nat.add_lt_add_left inside _)
    rw [← Nat.add_assoc] at entry
    rw [entry]
    exact sound.2.2 index inside beyond
  case i2cTarget =>
    have count := same 2 (by decide)
    simpa only [DataSound, count] using sound
  all_goals exact sound

theorem DataSound.size_le {type : ChannelType} {mem : Nat → UInt8} {data size : Nat}
    (sound : DataSound type mem data size) : size ≤ configDataSize type := by
  cases type
  case gpio => exact Nat.le_of_eq sound.2
  case i3cController =>
    obtain ⟨few, sized, -⟩ := sound
    simp only [sized, configDataSize]
    exact Nat.add_le_add_left (Nat.mul_le_mul_right _ few) _
  case i2cTarget =>
    obtain ⟨few, sized⟩ := sound
    simp only [sized, configDataSize]
    exact Nat.add_le_add_left few _
  all_goals exact Nat.le_of_eq sound

theorem configDataSize_lt (type : ChannelType) : configDataSize type < 256 ^ 4 := by
  cases type <;> decide

theorem configFill_outside (type : ChannelType) (cfg mem : Nat → UInt8) (data : Nat)
    {address : Nat} (outside : address < data ∨ data + configDataSize type ≤ address) :
    (configFill type cfg mem data).1 address = mem address := by
  have elsewhere : ¬ (data ≤ address ∧ address < data + configDataSize type) := by omega
  cases type
  case gpio =>
    simp only [configDataSize, arrayOffset] at outside
    simp only [configFill]
    split
    · rfl
    · exact store_outside mem _ (by omega)
  case io =>
    have copied := overwrite_outside mem cfg elsewhere
    simp only [configDataSize, arrayOffset] at outside
    simp only [configFill]
    rw [store_outside _ _ (by omega), copied]
  case i2cTarget =>
    simp only [configDataSize, arrayOffset] at outside
    simp only [configFill]
    exact overwrite_outside mem _ (by omega)
  case i3cController =>
    have copied := overwrite_outside mem cfg elsewhere
    simp only [configDataSize, arrayOffset] at outside
    simp only [configFill]
    rw [store_outside _ _ (by omega), copied]
  case config => rfl
  case ipmi => rfl
  all_goals exact overwrite_outside mem cfg elsewhere

/-- Configuration data is sound when it is filled with an entry of the platform's table. -/
theorem configFill_sound (entry : PlatChannel) (mem : Nat → UInt8) (data : Nat) {size : Nat}
    (filled : (configFill (channelType entry.channel) entry.cfg mem data).2 = some size) :
    DataSound (channelType entry.channel)
      (configFill (channelType entry.channel) entry.cfg mem data).1 data size := by
  cases kind : channelType entry.channel
  case gpio =>
    simp only [kind, configFill] at filled ⊢
    split at filled
    · cases filled
    · rename_i few
      cases filled
      rw [if_neg few]
      refine ⟨?_, rfl⟩
      rw [load_store mem data (Nat.lt_of_le_of_lt (Nat.le_of_not_lt few) (by decide))]
      exact Nat.le_of_not_lt few
  case i3cController =>
    simp only [kind, configFill] at filled ⊢
    cases filled
    have none : store (overwrite mem data (configDataSize .i3cController) entry.cfg)
        (data + 14) 1 0 (data + 14) = 0 := @store_inside _ (data + 14) 0 1 0 (by decide)
    simp only [DataSound, none]
    refine ⟨Nat.zero_le _, rfl, fun index inside _ => ?_⟩
    have within : arrayOffset .i3cController + index < configDataSize .i3cController :=
      Nat.add_lt_add_left inside _
    have behind : data + 14 + 1 ≤ data + arrayOffset .i3cController + index := Nat.le_add_right _ _
    rw [store_outside _ _ (.inr behind), Nat.add_assoc, overwrite_inside mem _ within]
    exact entry.noTargets kind index inside
  case i2cTarget =>
    simp only [kind, configFill] at filled ⊢
    cases filled
    have none : overwrite mem data 3
        (fun index => if index = 0 then entry.cfg 0 else if index = 1 then 255 else 0)
        (data + 2) = 0 := overwrite_inside mem _ (by decide)
    simp only [DataSound, none]
    exact ⟨Nat.zero_le _, rfl⟩
  case io =>
    simp only [kind, configFill] at filled
    generalize (if load entry.cfg 2 2 = 0 then enabledRanges (view entry.cfg (arrayOffset .io))
      else load entry.cfg 2 2) = count at filled
    split at filled
    · cases filled
    · exact (Option.some.inj filled).symm
  case config =>
    simp only [kind, configFill] at filled
    cases filled
  all_goals
    simp only [kind, configFill] at filled
    exact (Option.some.inj filled).symm

/-- What holds of a channel while the platform's table is gone through: the header of a channel that
is not present is zero, and the space of one that is is filled. -/
structure Started (state : (Nat → UInt8) × BitVec 32) (channel : UInt8) : Prop where
  absent : isPresent state.2 channel = false →
    ∀ offset < configDataOffset, state.1 (chanBase channel + offset) = 0
  filled : isPresent state.2 channel = true →
    ∃ size, HeaderFilled state.1 channel size ∧
      DataSound (channelType channel) state.1 (chanBase channel + configDataOffset) size

theorem HeaderFilled.congr {first second : Nat → UInt8} {channel : UInt8} {size : Nat}
    (filled : HeaderFilled first channel size)
    (same : ∀ offset < configDataOffset,
      second (chanBase channel + offset) = first (chanBase channel + offset)) :
    HeaderFilled second channel size where
  type := (same 0 (by decide)).trans filled.type
  number := (same 1 (by decide)).trans filled.number
  status := (same statusOffset (by decide)).trans filled.status
  control := (same controlOffset (by decide)).trans filled.control
  sized := by
    rw [← filled.sized]
    refine load_congr fun index inside => ?_
    rw [Nat.add_assoc]
    exact same _ (Nat.lt_of_lt_of_le (Nat.add_lt_add_left inside _) (by decide))

theorem Started.congr {first second : (Nat → UInt8) × BitVec 32} {channel : UInt8}
    (started : Started first channel)
    (present : isPresent second.2 channel = isPresent first.2 channel)
    (same : ∀ index < spaceSize channel,
      second.1 (chanBase channel + index) = first.1 (chanBase channel + index)) :
    Started second channel where
  absent := fun missing offset inside => by
    rw [same offset (Nat.lt_of_lt_of_le inside (Nat.le_add_right _ _))]
    exact started.absent (present ▸ missing) offset inside
  filled := fun here => by
    obtain ⟨size, header, data⟩ := started.filled (present ▸ here)
    refine ⟨size, header.congr fun offset inside =>
      same offset (Nat.lt_of_lt_of_le inside (Nat.le_add_right _ _)), data.congr ?_⟩
    intro index inside
    rw [Nat.add_assoc]
    exact same _ (Nat.add_lt_add_left inside _)

theorem isPresent_or_bit {mask : BitVec 32} {added channel : UInt8}
    (addedListed : added ∈ spaceOrder)
    (listed : channel ∈ spaceOrder) :
    isPresent (mask ||| bit added) channel =
      (isPresent mask channel || decide (added = channel)) := by
  have known := (mem_spaceOrder_iff.mp listed).2
  rw [isPresent, isPresent, BitVec.getLsbD_or, getLsbD_bit (mem_spaceOrder_iff.mp addedListed).2,
    decide_eq_true known, Bool.true_and, Bool.true_and]

theorem added_outside (mem : Nat → UInt8) {channel : UInt8} (name : Option (List UInt8))
    (size value : Nat) {address : Nat} (listed : channel ∈ spaceOrder) (behind : baseSize ≤ address)
    (outside : address < chanBase channel ∨ chanBase channel + configDataOffset ≤ address) :
    store (headerFill mem channel name size) (44 + (channel.toNat - 1) * 4) 4 value address =
      mem address := by
  have table : spaceOrder.all (fun channel => 44 + (channel.toNat - 1) * 4 + 4 ≤ baseSize) = true := by
    decide +kernel
  have inside := of_decide_eq_true (List.all_eq_true.mp table channel listed)
  rw [store_outside _ _ (.inr (Nat.le_trans inside behind)),
    headerFill_outside mem name size listed outside]

theorem started_added {mem : Nat → UInt8} {mask : BitVec 32} {channel : UInt8}
    (name : Option (List UInt8)) {size : Nat} (value : Nat) (listed : channel ∈ spaceOrder)
    (sound : DataSound (channelType channel) mem (chanBase channel + configDataOffset) size) :
    Started (store (headerFill mem channel name size) (44 + (channel.toNat - 1) * 4) 4 value,
      mask ||| bit channel) channel := by
  have fits := Nat.lt_of_le_of_lt sound.size_le (configDataSize_lt _)
  have behind := (chanBase_within listed).1
  have table : ∀ channel ∈ spaceOrder, 44 + (channel.toNat - 1) * 4 + 4 ≤ baseSize := by
    decide +kernel
  have before := table channel listed
  refine ⟨fun missing => ?_, fun _ => ⟨size, ?_, sound.congr fun index _ => ?_⟩⟩
  · rw [isPresent_or_bit listed listed, decide_eq_true rfl, Bool.or_true] at missing
    cases missing
  · exact (headerFill_filled mem name listed fits).congr fun offset _ =>
      store_outside _ _ (by omega)
  · exact added_outside mem name size value listed (by omega) (by omega)

/-- An entry of the platform's table keeps what holds of every channel. -/
theorem started_channelAdd {state : (Nat → UInt8) × BitVec 32} (entry : PlatChannel)
    {channel : UInt8} (listed : channel ∈ spaceOrder) (started : Started state channel) :
    Started (channelAdd state entry) channel := by
  by_cases known : entry.channel ∈ spaceOrder
  swap
  · simp only [channelAdd, chanCfgHdr, if_neg known]
    exact started
  simp only [channelAdd, chanCfgHdr, if_pos known]
  split
  · exact started
  rename_i missing
  split
  · rename_i mem failed
    have outside : ∀ address, _ := fun address apart =>
      @configFill_outside (channelType entry.channel) entry.cfg state.1
        (chanBase entry.channel + configDataOffset) address apart
    rw [failed] at outside
    by_cases own : entry.channel = channel
    · subst own
      refine ⟨fun _ offset inside => ?_, fun here => absurd here missing⟩
      rw [outside _ (.inl (Nat.add_lt_add_left inside _))]
      exact started.absent (Bool.eq_false_iff.mpr missing) offset inside
    · have apart := chanBase_apart known listed own
      refine started.congr rfl fun index inside => outside _ ?_
      simp only [spaceSize] at apart inside
      omega
  · rename_i mem size copied
    have outside : ∀ address, _ := fun address apart =>
      @configFill_outside (channelType entry.channel) entry.cfg state.1
        (chanBase entry.channel + configDataOffset) address apart
    have sound := @configFill_sound entry state.1 (chanBase entry.channel + configDataOffset) size
    rw [copied] at outside sound
    by_cases own : entry.channel = channel
    · subst own
      exact started_added entry.name _ known (sound rfl)
    · have apart := chanBase_apart known listed own
      have behind := (chanBase_within listed).1
      refine started.congr ?_ fun index inside => ?_
      · rw [isPresent_or_bit known listed, decide_eq_false own, Bool.or_false]
      · simp only [spaceSize] at apart inside
        exact (added_outside mem entry.name size _ known (by omega) (by omega)).trans
          (outside _ (by omega))

theorem started_foldl {state : (Nat → UInt8) × BitVec 32} (entries : List PlatChannel)
    {channel : UInt8} (listed : channel ∈ spaceOrder) (started : Started state channel) :
    Started (entries.foldl channelAdd state) channel := by
  induction entries generalizing state with
  | nil => exact started
  | cons entry rest ih => exact ih (started_channelAdd entry listed started)

theorem started_init (config : PlatConfig) {channel : UInt8} (listed : channel ∈ spaceOrder) :
    Started ((Service.init config).mem, (Service.init config).presentMask) channel := by
  have alone : ∀ channel ∈ spaceOrder, isPresent (bit controlChannel) channel = false := by
    decide +kernel
  have blank : Started (baseFill config, bit controlChannel) channel := by
    refine ⟨fun _ offset _ => ?_, fun here => ?_⟩
    · have behind := (chanBase_within listed).1
      simp only [baseSize] at behind
      simp only [baseFill]
      rw [store_outside _ _ (by omega), overwrite_outside _ _ (by omega),
        store_outside _ _ (by omega), store_outside _ _ (by omega), store_outside _ _ (by omega)]
    · rw [alone channel listed] at here
      cases here
  exact started_foldl config.channels listed blank

/-! ## Channels -/

namespace Service

/-- `obmf_channel_is_present`. -/
def present (service : Service) (channel : UInt8) : Bool := isPresent service.presentMask channel

/-- `CHAN_CONTROL_ENABLE` of the `CHANNEL_CONTROL` of a channel. -/
def enableBit (service : Service) (channel : UInt8) : Bool :=
  service.mem (chanBase channel + controlOffset) &&& 0x01 ≠ 0

/-- `obmf_channel_is_enabled`. -/
def isEnabled (service : Service) (channel : UInt8) : Bool :=
  (chanCfgHdr channel).isSome && service.enableBit channel

/-- `CHAN_STATUS_HEALTH_MASK` of the `CHANNEL_STATUS` of a channel. -/
def health (service : Service) (channel : UInt8) : UInt8 :=
  service.mem (chanBase channel + statusOffset) &&& 0x0F

def healthReady : UInt8 := 1

/-- One turn of the loop in `obmf_channels_link_down`. -/
def suspend (service : Service) (channel : UInt8) : Service :=
  let control := service.mem (chanBase channel + controlOffset)
  if control &&& 0x01 = 0 then service
  else
    { service with
      suspendedMask := service.suspendedMask ||| bit channel
      mem := update
        (update service.mem (chanBase channel + controlOffset) (control &&& ~~~0x01))
        (chanBase channel + statusOffset) 3
      tags := update service.tags channel
        { service.tags channel with isOutstanding := false } }

/-- `obmf_channels_link_down`. -/
def linkDown (service : Service) : Service :=
  { channels.foldl suspend { service with suspendedMask := 0 } with txQueue := [] }

/-- One turn of the loop in `obmf_channels_link_up`: ready, and the configuration valid. -/
def restore (service : Service) (channel : UInt8) : Service :=
  if service.suspendedMask &&& bit channel = 0 then service
  else
    { service with
      mem := update
        (update service.mem (chanBase channel + controlOffset)
          (service.mem (chanBase channel + controlOffset) ||| 0x01))
        (chanBase channel + statusOffset) 0x21 }

/-- `obmf_channels_link_up`. -/
def linkUp (service : Service) : Service :=
  if service.suspendedMask = 0 then service
  else { channels.foldl restore service with suspendedMask := 0 }

/-- The `CHANNEL_STATUS` after a `CHANNEL_CONTROL` write. -/
def statusAfter (status newCtrl : UInt8) : UInt8 :=
  let reset := if newCtrl &&& 0x02 ≠ 0 then status ||| 0x10 else status
  let applied := if newCtrl &&& 0x04 ≠ 0 then reset ||| 0x20 else reset
  let cleared := if newCtrl &&& 0x10 ≠ 0 then applied &&& ~~~0x80 else applied
  if cleared &&& 0x80 = 0 then
    (cleared &&& ~~~0x0F) ||| if newCtrl &&& 0x01 ≠ 0 then healthReady else 2
  else cleared

/-- `obmf_channel_control_write` on the configuration space at an address. -/
def controlWrite (service : Service) (base : Nat) (newCtrl : UInt8) : Service :=
  let channel := service.mem (base + 1)
  let control := service.mem (base + controlOffset)
  let reset := newCtrl &&& 0x02 ≠ 0
  let controlled := update service.mem (base + controlOffset) (newCtrl &&& 0x01)
  let applied :=
    if newCtrl &&& 0x04 ≠ 0 then
      update controlled configStatusOffset (controlled configStatusOffset ||| 0x10)
    else controlled
  { service with
    mem := update applied (base + statusOffset)
      (statusAfter (service.mem (base + statusOffset)) newCtrl)
    suspendedMask := service.suspendedMask &&& ~~~bit channel
    tags :=
      if reset ∨ (control &&& 0x01 ≠ 0) ≠ (newCtrl &&& 0x01 ≠ 0) then
        update service.tags channel
          { service.tags channel with isOutstanding := false }
      else service.tags
    slots :=
      if reset then update service.slots channel (service.slots channel).reset
      else service.slots }

end Service

end OpenBic.Obmf
