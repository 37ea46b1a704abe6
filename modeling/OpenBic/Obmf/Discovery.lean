import OpenBic.Library.Field
import OpenBic.Obmf.Receive

/-!
# The discovery structure

The bytes of `obmf_discovery_structure_t`, where each channel has its configuration space in them,
and how `obmf_discovery_init` fills it from the platform's table of channels. The structure is a
memory that starts at 0 and the spaces follow one another in it in the order of the C structure.
-/

namespace OpenBic.Obmf

open Library.Splice Library.Field

/-- `OBMF_ICP_CHANNEL_TYPE_*`. -/
inductive ChannelType where
  | config
  | mmio
  | gpio
  | serial
  | i2cController
  | i2cTarget
  | i3cController
  | ipmi
  | spiController
  | io
  | memDevice
deriving DecidableEq

def ChannelType.code : ChannelType → UInt8
  | .config => 0x00
  | .mmio => 0x01
  | .gpio => 0x02
  | .serial => 0x03
  | .i2cController => 0x04
  | .i2cTarget => 0x05
  | .i3cController => 0x06
  | .ipmi => 0x07
  | .spiController => 0x08
  | .io => 0x09
  | .memDevice => 0x0A

def ChannelType.ofCode (code : UInt8) : Option ChannelType :=
  [config, mmio, gpio, serial, i2cController, i2cTarget, i3cController, ipmi, spiController, io,
    memDevice].find? (·.code = code)

@[simp]
theorem ChannelType.ofCode_code (type : ChannelType) : ofCode type.code = some type := by
  cases type <;> decide

def channelType (channel : UInt8) : ChannelType :=
  match channel with
  | 0 => .config
  | 1 => .mmio
  | 2 | 16 => .serial
  | 3 => .ipmi
  | 17 => .spiController
  | 4 => .memDevice
  | 5 | 6 | 7 | 8 => .gpio
  | 9 => .io
  | 10 | 11 | 12 | 13 => .i2cController
  | 14 | 15 => .i2cTarget
  | 18 | 19 => .i3cController
  | _ => .mmio

/-! ## Layout -/

/-- `sizeof(obmf_gpio_config_entry_t)`. -/
def gpioEntrySize : Nat := 50

def gpioMaxEntries : Nat := 128

/-- `sizeof(obmf_io_range_cfg_t)`. -/
def ioRangeSize : Nat := 10

def ioMaxRanges : Nat := 4

/-- `sizeof(obmf_i3c_ibi_target_cfg_t)`. -/
def ibiTargetSize : Nat := 6

def i3cMaxIbiTargets : Nat := 8

/-- Where the array of a type's configuration data starts: GPIO entries, I/O ranges, IBI targets and
I2C target addresses. -/
def arrayOffset : ChannelType → Nat
  | .gpio => 2
  | .io => 4
  | .i3cController => 15
  | .i2cTarget => 3
  | _ => 0

/-- The size of the `obmf_*_config_data_t` of a type. -/
def configDataSize : ChannelType → Nat
  | .config => 0
  | .mmio => 12
  | .gpio => arrayOffset .gpio + gpioMaxEntries * gpioEntrySize
  | .serial => 7
  | .i2cController => 2
  | .i2cTarget => arrayOffset .i2cTarget + 4
  | .i3cController => arrayOffset .i3cController + i3cMaxIbiTargets * ibiTargetSize
  | .ipmi => 0
  | .spiController => 20
  | .io => arrayOffset .io + ioMaxRanges * ioRangeSize
  | .memDevice => 16

/-- `CHAN_CFG_CONFIG_DATA_OFFSET`, the size of `obmf_channel_config_header_t`. -/
def configDataOffset : Nat := 0x20

def nameOffset : Nat := 0x02

def deviceRoleOffset : Nat := 0x12

def statusOffset : Nat := 0x13

def controlOffset : Nat := 0x14

def specificStatusOffset : Nat := 0x15

def maxReqPayloadOffset : Nat := 0x17

def maxRspPayloadOffset : Nat := 0x19

def configSizeOffset : Nat := 0x1C

/-- The size of `obmf_ch0_base_t` and the table of channel offsets behind it. -/
def baseSize : Nat := 44 + 19 * 4

/-- The offset of `config_status` in `obmf_ch0_base_t`. -/
def configStatusOffset : Nat := 0x27

/-- The channels in the order of their configuration spaces in the structure. -/
def spaceOrder : List UInt8 := [1, 2, 16, 3, 17, 8, 7, 5, 6, 9, 10, 11, 12, 13, 14, 15, 18, 4, 19]

def spaceSize (channel : UInt8) : Nat := configDataOffset + configDataSize (channelType channel)

def chanBase (channel : UInt8) : Nat :=
  baseSize + ((spaceOrder.takeWhile (· ≠ channel)).map spaceSize).sum

/-- `obmf_chan_cfg_hdr`: Channel 0 and channels that do not exist have no configuration space. -/
def chanCfgHdr (channel : UInt8) : Option Nat :=
  if channel ∈ spaceOrder then some (chanBase channel) else none

/-- `sizeof(discovery_struct)`. -/
def structureSize : Nat := baseSize + (spaceOrder.map spaceSize).sum

/-- The channels from 1 to `OBMF_MAX_CHANNELS`, as the loops of the service go through them. -/
def channels : List UInt8 := (List.range' 1 19).map UInt8.ofNat

/-- The offsets of the C structure. -/
example : structureSize = 26590 ∧ chanBase 9 = 26062 ∧ chanBase 19 = 26495 := by decide +kernel

theorem mem_channels {channel : UInt8} : channel ∈ channels ↔ channel ∈ spaceOrder := by
  have same : channels.Perm spaceOrder := by decide
  exact same.mem_iff

theorem mem_spaceOrder_iff {channel : UInt8} :
    channel ∈ spaceOrder ↔ channel ≠ controlChannel ∧ channel ≤ maxChannels := by
  rw [← mem_channels, channels, List.mem_map]
  constructor
  · rintro ⟨number, listed, rfl⟩
    have range := List.mem_range'_1.mp listed
    have value : (UInt8.ofNat number).toNat = number :=
      UInt8.toNat_ofNat_of_lt' (Nat.lt_trans range.2 (by decide))
    constructor
    · intro same
      have zero : number = 0 := value.symm.trans (congrArg UInt8.toNat same)
      omega
    · apply UInt8.le_iff_toNat_le.mpr
      rw [value]
      exact Nat.le_of_lt_succ range.2
  · rintro ⟨other, few⟩
    have last : channel.toNat ≤ 19 := UInt8.le_iff_toNat_le.mp few
    have first : channel.toNat ≠ 0 := fun zero => other (UInt8.toNat_inj.mp zero)
    exact ⟨channel.toNat, List.mem_range'_1.mpr (by omega), UInt8.ofNat_toNat⟩

theorem chanBase_within {channel : UInt8} (listed : channel ∈ spaceOrder) :
    baseSize ≤ chanBase channel ∧ chanBase channel + spaceSize channel ≤ structureSize := by
  have all : spaceOrder.all (fun channel =>
      baseSize ≤ chanBase channel ∧ chanBase channel + spaceSize channel ≤ structureSize) = true := by
    decide +kernel
  exact of_decide_eq_true (List.all_eq_true.mp all channel listed)

theorem chanBase_apart {first second : UInt8} (firstListed : first ∈ spaceOrder)
    (secondListed : second ∈ spaceOrder) (other : first ≠ second) :
    chanBase first + spaceSize first ≤ chanBase second ∨
      chanBase second + spaceSize second ≤ chanBase first := by
  have all : spaceOrder.all (fun first => spaceOrder.all fun second => first = second ∨
      chanBase first + spaceSize first ≤ chanBase second ∨
        chanBase second + spaceSize second ≤ chanBase first) = true := by
    decide +kernel
  have both := List.all_eq_true.mp (List.all_eq_true.mp all first firstListed) second secondListed
  exact (of_decide_eq_true both).resolve_left other

theorem headerByte_ne {first second : UInt8} {left right : Nat} (firstListed : first ∈ spaceOrder)
    (secondListed : second ∈ spaceOrder) (leftInside : left < configDataOffset)
    (rightInside : right < configDataOffset) (other : first ≠ second ∨ left ≠ right) :
    chanBase first + left ≠ chanBase second + right := by
  by_cases same : first = second
  · subst same
    have different : left ≠ right := other.resolve_left (· rfl)
    omega
  · have apart := chanBase_apart firstListed secondListed same
    simp only [spaceSize] at apart
    omega

end OpenBic.Obmf
