import Mathlib.Tactic.IntervalCases
import OpenBic.Obmf.Discovery

/-!
# What the host may write in a channel configuration space

`ch0_cfg_byte_writable` says it byte by byte and `ch0_cfg_sanitize` forces read-only bits back after
a write. Beside them stand the fields that the structures mark as written by the host and the
clamping that their comments describe; the two agree.
-/

namespace OpenBic.Obmf

open List Function Library.Splice Library.Field

/-! ## Writable bytes -/

def ch0CfgByteWritable (code : UInt8) (off : Nat) : Bool :=
  if nameOffset ≤ off ∧ off < deviceRoleOffset then true
  else if off < configDataOffset then false
  else
    let o := off - configDataOffset
    match ChannelType.ofCode code with
    | some .mmio => o < 4
    | some .gpio =>
      if o < arrayOffset .gpio then false else (o - arrayOffset .gpio) % gpioEntrySize < 0x2F
    | some .serial => true
    | some .i2cController => o = 0
    | some .i2cTarget => o ≠ 2
    | some .i3cController => o < 2 || arrayOffset .i3cController ≤ o
    | some .spiController => (4 ≤ o && o < 9) || 12 ≤ o
    | some .io =>
      if o < arrayOffset .io then false else (o - arrayOffset .io) % ioRangeSize ≠ 1
    | _ => false

/-- The fields of a type's configuration data that the host writes: where each starts, and its
size. -/
def rwFields : ChannelType → List (Nat × Nat)
  | .mmio => [(0, 2), (2, 2)]
  | .gpio => (List.range gpioMaxEntries).map fun entry => (2 + entry * gpioEntrySize, 0x2F)
  | .serial => [(0, 4), (4, 1), (5, 1), (6, 1)]
  | .i2cController => [(0, 1)]
  | .i2cTarget => [(0, 1), (1, 1), (3, 4)]
  | .i3cController => [(0, 2), (15, i3cMaxIbiTargets * ibiTargetSize)]
  | .spiController => [(4, 4), (8, 1), (12, 4), (16, 4)]
  | .io =>
    (List.range ioMaxRanges).map (fun entry => (4 + entry * ioRangeSize, 1)) ++
      (List.range ioMaxRanges).map (fun entry => (4 + entry * ioRangeSize + 2, 8))
  | .config | .ipmi | .memDevice => []

/-- A byte of a configuration space that the host writes: one of `channel_name`, or of a field of
the configuration data. -/
def HostWritable (type : ChannelType) (off : Nat) : Prop :=
  (nameOffset ≤ off ∧ off < nameOffset + 16) ∨
    ∃ field ∈ rwFields type, configDataOffset + field.1 ≤ off ∧
      off < configDataOffset + field.1 + field.2

/-- A byte that the code lets the host write is one that the host writes. -/
theorem hostWritable_of_byteWritable {type : ChannelType} {off : Nat}
    (inside : off < configDataOffset + configDataSize type)
    (writable : ch0CfgByteWritable type.code off = true) : HostWritable type off := by
  simp only [ch0CfgByteWritable, ChannelType.ofCode_code] at writable
  split at writable
  · rename_i name
    exact .inl name
  split at writable
  · exact absurd writable Bool.false_ne_true
  rename_i behind
  refine .inr ?_
  cases type
  case gpio =>
    simp only at writable
    split at writable
    · exact absurd writable Bool.false_ne_true
    rename_i entries
    simp only [decide_eq_true_eq] at writable
    simp only [configDataOffset, configDataSize, arrayOffset, gpioMaxEntries, gpioEntrySize]
      at inside writable behind entries
    refine ⟨(2 + (off - 32 - 2) / 50 * gpioEntrySize, 0x2F), List.mem_map.mpr
      ⟨(off - 32 - 2) / 50, List.mem_range.mpr ?_, rfl⟩, ?_⟩
    · simp only [gpioMaxEntries]
      omega
    · simp only [configDataOffset, gpioEntrySize]
      omega
  case io =>
    simp only at writable
    split at writable
    · exact absurd writable Bool.false_ne_true
    rename_i ranges
    simp only [decide_eq_true_eq] at writable
    simp only [configDataOffset, configDataSize, arrayOffset, ioMaxRanges, ioRangeSize]
      at inside writable behind ranges
    have few : (off - 32 - 4) / 10 < ioMaxRanges := by
      simp only [ioMaxRanges]
      omega
    by_cases flags : (off - 32 - 4) % 10 = 0
    · refine ⟨(4 + (off - 32 - 4) / 10 * ioRangeSize, 1), mem_append_left _
        (List.mem_map.mpr ⟨_, List.mem_range.mpr few, rfl⟩), ?_⟩
      simp only [configDataOffset, ioRangeSize]
      omega
    · refine ⟨(4 + (off - 32 - 4) / 10 * ioRangeSize + 2, 8), mem_append_right _
        (List.mem_map.mpr ⟨_, List.mem_range.mpr few, rfl⟩), ?_⟩
      simp only [configDataOffset, ioRangeSize]
      omega
  case config | ipmi | memDevice => exact absurd writable Bool.false_ne_true
  all_goals
    simp only [decide_eq_true_eq, Bool.or_eq_true, Bool.and_eq_true] at writable
    simp only [configDataOffset, configDataSize, arrayOffset, i3cMaxIbiTargets, ibiTargetSize]
      at inside writable behind
    simp only [rwFields, mem_cons, not_mem_nil, or_false, exists_eq_or_imp,
      exists_eq_left, configDataOffset, i3cMaxIbiTargets, ibiTargetSize]
    omega

/-- The fields of a configuration space that the host only reads, but for `channel_control`: where
each starts in the space, and its size. -/
def roFields (type : ChannelType) : List (Nat × Nat) :=
  [(0x00, 1), (0x01, 1), (deviceRoleOffset, 1), (statusOffset, 1), (specificStatusOffset, 1),
    (0x16, 1), (maxReqPayloadOffset, 2), (maxRspPayloadOffset, 2), (0x1B, 1),
    (configSizeOffset, 4)] ++
  match type with
  | .mmio => [(0x24, 4), (0x28, 4)]
  | .gpio =>
    (0x20, 2) :: (List.range gpioMaxEntries).map fun entry =>
      (0x22 + entry * gpioEntrySize + 0x2F, 3)
  | .i2cController => [(0x21, 1)]
  | .i2cTarget => [(0x22, 1)]
  | .i3cController =>
    [(0x22, 1), (0x23, 1), (0x24, 2), (0x26, 2), (0x28, 2), (0x2A, 2), (0x2C, 2), (0x2E, 1)]
  | .spiController => [(0x20, 4), (0x29, 3)]
  | .io =>
    (0x20, 2) :: (0x22, 2) ::
      (List.range ioMaxRanges).map fun entry => (0x24 + entry * ioRangeSize + 1, 1)
  | .memDevice => [(0x20, 4), (0x24, 4), (0x28, 2), (0x2A, 2), (0x2C, 2), (0x2E, 2)]
  | .config | .serial | .ipmi => []

/-- The fields that the host only reads are apart from those that it writes. -/
theorem not_hostWritable_of_roField {type : ChannelType} {field : Nat × Nat} {index : Nat}
    (listed : field ∈ roFields type) (inside : index < field.2) :
    ¬ HostWritable type (field.1 + index) := by
  intro writable
  simp only [HostWritable, nameOffset, configDataOffset] at writable
  rcases List.mem_append.mp listed with header | data
  · simp only [deviceRoleOffset, statusOffset, specificStatusOffset, maxReqPayloadOffset,
      maxRspPayloadOffset, configSizeOffset, mem_cons, not_mem_nil, or_false] at header
    obtain ⟨offset, size⟩ := field
    simp only [Prod.mk.injEq] at header inside writable
    rcases writable with name | ⟨other, -, above, -⟩
    · omega
    · omega
  · obtain ⟨offset, size⟩ := field
    cases type
    case gpio =>
      simp only [rwFields, List.mem_map, mem_cons, mem_range, gpioMaxEntries,
        gpioEntrySize, Prod.mk.injEq] at data writable inside
      obtain name | ⟨other, ⟨entry, -, rfl⟩, above, below⟩ := writable
      · obtain ⟨rfl, rfl⟩ | ⟨entry, -, rfl, rfl⟩ := data
        · omega
        · omega
      · obtain ⟨rfl, rfl⟩ | ⟨second, -, rfl, rfl⟩ := data
        · omega
        · omega
    case io =>
      simp only [rwFields, mem_append, List.mem_map, mem_cons, mem_range,
        ioMaxRanges, ioRangeSize, Prod.mk.injEq] at data writable inside
      obtain name | ⟨other, ⟨entry, -, rfl⟩ | ⟨entry, -, rfl⟩, above, below⟩ := writable
      all_goals
        all_goals omega
    all_goals
      simp only [rwFields, mem_cons, not_mem_nil, or_false, exists_eq_or_imp,
        exists_eq_left, Prod.mk.injEq, false_and, exists_false, i3cMaxIbiTargets,
        ibiTargetSize] at data writable inside
    all_goals omega

theorem roField_within {type : ChannelType} {field : Nat × Nat} (listed : field ∈ roFields type) :
    field.1 + field.2 ≤ configDataOffset + configDataSize type := by
  have all : ∀ field ∈ roFields type,
      field.1 + field.2 ≤ configDataOffset + configDataSize type := by
    cases type <;> decide +kernel
  exact all field listed

/-! ## Clamping -/

def entrySize : ChannelType → Nat
  | .gpio => gpioEntrySize
  | .io => ioRangeSize
  | .i3cController => ibiTargetSize
  | _ => 1

/-- The number of entries of a type's array that `ch0_cfg_sanitize` goes through. -/
def entryCount : ChannelType → Nat
  | .gpio => gpioMaxEntries
  | .io => ioMaxRanges
  | .i3cController => i3cMaxIbiTargets
  | _ => 0

def ibiPayloadSize : Nat := 256

/-- `GPIO_INDEX[15:12]` of an entry read as 0. -/
def sanitizeGpioEntry (mem : Nat → UInt8) (entry : Nat) : Nat → UInt8 :=
  store mem entry 2 (load mem entry 2 &&& 0x0FFF)

/-- `IO_RANGE_FLAGS[15:1]` of a range are reserved. -/
def sanitizeIoRange (mem : Nat → UInt8) (range : Nat) : Nat → UInt8 :=
  update mem range (mem range &&& 0x01)

/-- One turn of the loop in `obmf_i3c_config_written`. -/
def sanitizeIbiTarget (mem : Nat → UInt8) (target : Nat) : Nat → UInt8 :=
  let addressed := update mem target (mem target &&& 0x7F)
  let plain := update addressed (target + 1) 0
  let limited := store plain (target + 2) 2 (min (load plain (target + 2) 2) ibiPayloadSize)
  store limited (target + 4) 2 (min (load limited (target + 4) 2) ibiPayloadSize)

/-- What `ch0_cfg_sanitize` does to an entry of a type. -/
def sanitizeEntry : ChannelType → (Nat → UInt8) → Nat → Nat → UInt8
  | .gpio => sanitizeGpioEntry
  | .io => sanitizeIoRange
  | .i3cController => sanitizeIbiTarget
  | _ => fun mem _ => mem

/-- `ch0_cfg_sanitize` on the configuration space at an address. -/
def ch0CfgSanitize (mem : Nat → UInt8) (base : Nat) : Nat → UInt8 :=
  match ChannelType.ofCode (mem base) with
  | none => mem
  | some type =>
    (List.range (entryCount type)).foldl
      (fun mem index => sanitizeEntry type mem
        (base + configDataOffset + arrayOffset type + index * entrySize type)) mem

/-- A byte of an entry after clamping: a GPIO index has 12 bits, the flags of a range have one, an
IBI target has a 7-bit address, no flags, and lengths that the producer can do. -/
def clampedEntry (type : ChannelType) (entry : Nat → UInt8) (index : Nat) : UInt8 :=
  match type, index with
  | .gpio, 1 => entry 1 &&& 0x0F
  | .io, 0 => entry 0 &&& 0x01
  | .i3cController, 0 => entry 0 &&& 0x7F
  | .i3cController, 1 => 0
  | .i3cController, 2 => digit (min (load entry 2 2) ibiPayloadSize) 0
  | .i3cController, 3 => digit (min (load entry 2 2) ibiPayloadSize) 1
  | .i3cController, 4 => digit (min (load entry 4 2) ibiPayloadSize) 0
  | .i3cController, 5 => digit (min (load entry 4 2) ibiPayloadSize) 1
  | _, index => entry index

def clamped (type : ChannelType) (data : Nat → UInt8) (index : Nat) : UInt8 :=
  let inArray := index - arrayOffset type
  if arrayOffset type ≤ index ∧ inArray < entryCount type * entrySize type then
    clampedEntry type (view data (arrayOffset type + inArray / entrySize type * entrySize type))
      (inArray % entrySize type)
  else data index

theorem sanitizeEntry_outside (type : ChannelType) (mem : Nat → UInt8) {entry address : Nat}
    (outside : address < entry ∨ entry + entrySize type ≤ address) :
    sanitizeEntry type mem entry address = mem address := by
  cases type
  case gpio =>
    simp only [entrySize, gpioEntrySize] at outside
    exact store_outside mem _ (by omega)
  case io =>
    simp only [entrySize, ioRangeSize] at outside
    exact update_of_ne (by omega) _ _
  case i3cController =>
    simp only [entrySize, ibiTargetSize] at outside
    simp only [sanitizeEntry, sanitizeIbiTarget]
    rw [store_outside _ _ (by omega), store_outside _ _ (by omega),
      update_of_ne (by omega), update_of_ne (by omega)]
  all_goals rfl

theorem sanitizeGpioEntry_inside (mem : Nat → UInt8) (entry : Nat) :
    sanitizeGpioEntry mem entry entry = mem entry ∧
      sanitizeGpioEntry mem entry (entry + 1) = mem (entry + 1) &&& 0x0F := by
  have low := (mem entry).toNat_lt
  have masked : load mem entry 2 &&& 0x0FFF =
      ((mem entry).toNat + 256 * (mem (entry + 1)).toNat) % 4096 := by
    rw [show (0x0FFF : Nat) = 2 ^ 12 - 1 from rfl, Nat.and_two_pow_sub_one_eq_mod]
    simp [load]
  have first : sanitizeGpioEntry mem entry entry = digit (load mem entry 2 &&& 0x0FFF) 0 :=
    @store_inside mem entry _ 2 0 (by decide)
  have second : sanitizeGpioEntry mem entry (entry + 1) = digit (load mem entry 2 &&& 0x0FFF) 1 :=
    @store_inside mem entry _ 2 1 (by decide)
  have nibble : (mem (entry + 1)).toNat &&& 15 = (mem (entry + 1)).toNat % 16 :=
    Nat.and_two_pow_sub_one_eq_mod _ 4
  rw [first, second, masked]
  constructor
  · apply UInt8.toNat_inj.mp
    simp only [digit, UInt8.toNat_ofNat', Nat.pow_zero, Nat.div_one]
    omega
  · apply UInt8.toNat_inj.mp
    rw [UInt8.toNat_and]
    simp only [digit, UInt8.toNat_ofNat', Nat.pow_one, UInt8.reduceToNat, nibble]
    omega

theorem sanitizeIbiTarget_inside (mem : Nat → UInt8) (target : Nat) {index : Nat}
    (inside : index < ibiTargetSize) :
    sanitizeIbiTarget mem target (target + index) =
      clampedEntry .i3cController (view mem target) index := by
  simp only [ibiTargetSize] at inside
  have ibiLimit : load (update (update mem target (mem target &&& 0x7F))
      (target + 1) 0) (target + 2) 2 = load (view mem target) 2 2 := by
    refine load_congr fun byte _ => ?_
    rw [update_of_ne (by omega), update_of_ne (by omega)]
  have readLimit : ∀ value, load (store (update (update mem target
      (mem target &&& 0x7F)) (target + 1) 0) (target + 2) 2 value) (target + 4) 2 =
        load (view mem target) 4 2 := by
    intro value
    rw [load_view, load_store_apart _ _ (by omega)]
    refine load_congr fun byte _ => ?_
    rw [update_of_ne (by omega), update_of_ne (by omega)]
  simp only [sanitizeIbiTarget, ibiLimit, readLimit]
  interval_cases index
  · rw [store_outside _ _ (by omega), store_outside _ _ (by omega),
      update_of_ne (by omega), Nat.add_zero, update_self]
    simp [clampedEntry]
  · rw [store_outside _ _ (by omega), store_outside _ _ (by omega), update_self]
    rfl
  · rw [store_outside _ _ (by omega)]
    exact @store_inside _ (target + 2) _ 2 0 (by decide)
  · rw [store_outside _ _ (by omega)]
    exact @store_inside _ (target + 2) _ 2 1 (by decide)
  · exact @store_inside _ (target + 4) _ 2 0 (by decide)
  · exact @store_inside _ (target + 4) _ 2 1 (by decide)

theorem sanitizeEntry_inside (type : ChannelType) (mem : Nat → UInt8) (entry : Nat) {index : Nat}
    (inside : index < entrySize type) :
    sanitizeEntry type mem entry (entry + index) = clampedEntry type (view mem entry) index := by
  cases type
  case gpio =>
    obtain ⟨low, high⟩ := sanitizeGpioEntry_inside mem entry
    match index with
    | 0 => simpa [sanitizeEntry, clampedEntry] using low
    | 1 => simpa [sanitizeEntry, clampedEntry] using high
    | index + 2 => exact store_outside mem _ (by omega)
  case io =>
    match index with
    | 0 => simp [sanitizeEntry, sanitizeIoRange, clampedEntry]
    | index + 1 => exact update_of_ne (by omega) _ _
  case i3cController => exact sanitizeIbiTarget_inside mem entry inside
  all_goals rfl

theorem clampedEntry_congr (type : ChannelType) {first second : Nat → UInt8} {index : Nat}
    (inside : index < entrySize type) (same : ∀ byte < entrySize type, first byte = second byte) :
    clampedEntry type first index = clampedEntry type second index := by
  have here := same index inside
  cases type
  case gpio =>
    match index with
    | 0 => exact here
    | 1 => exact congrArg (· &&& 0x0F) here
    | index + 2 => exact here
  case io =>
    match index with
    | 0 => exact congrArg (· &&& 0x01) here
    | index + 1 => exact here
  case i3cController =>
    have field : ∀ offset ≤ 4, load first offset 2 = load second offset 2 := fun offset few =>
      load_congr fun byte _ => same (offset + byte) (by simp only [entrySize, ibiTargetSize]; omega)
    simp only [entrySize, ibiTargetSize] at inside
    interval_cases index
    · exact congrArg (· &&& 0x7F) here
    · rfl
    all_goals simp only [clampedEntry, field 2 (by decide), field 4 (by decide)]
  all_goals exact here

/-- Where an entry of the array of a type starts, in the configuration space at an address. -/
def entryStart (type : ChannelType) (base index : Nat) : Nat :=
  base + configDataOffset + arrayOffset type + index * entrySize type

/-- An address inside an entry. -/
def InEntry (type : ChannelType) (base index address : Nat) : Prop :=
  entryStart type base index ≤ address ∧ address < entryStart type base index + entrySize type

theorem inEntry_unique {type : ChannelType} {base first second address : Nat}
    (inFirst : InEntry type base first address) (inSecond : InEntry type base second address) :
    first = second := by
  have ordered : ∀ {low high}, InEntry type base low address → InEntry type base high address →
      ¬ low < high := by
    intro low high inLow inHigh before
    have step : (low + 1) * entrySize type ≤ high * entrySize type := Nat.mul_le_mul_right _ before
    rw [Nat.add_mul, Nat.one_mul] at step
    simp only [InEntry, entryStart] at inLow inHigh
    omega
  exact Nat.le_antisymm (Nat.le_of_not_lt (ordered inSecond inFirst))
    (Nat.le_of_not_lt (ordered inFirst inSecond))

theorem sanitizeEntry_apart (type : ChannelType) (base : Nat) (mem : Nat → UInt8)
    (index address : Nat) (apart : ¬ InEntry type base index address) :
    sanitizeEntry type mem (entryStart type base index) address = mem address := by
  simp only [InEntry] at apart
  exact sanitizeEntry_outside type mem (by omega)

theorem sanitizeEntry_own (type : ChannelType) (base : Nat) {first second : Nat → UInt8}
    {index address : Nat} (inside : InEntry type base index address)
    (same : ∀ other, InEntry type base index other → first other = second other) :
    sanitizeEntry type first (entryStart type base index) address =
      sanitizeEntry type second (entryStart type base index) address := by
  obtain ⟨offset, rfl⟩ := Nat.exists_eq_add_of_le inside.1
  have within : offset < entrySize type := Nat.lt_of_add_lt_add_left inside.2
  rw [sanitizeEntry_inside type first _ within, sanitizeEntry_inside type second _ within]
  exact clampedEntry_congr type within fun byte few =>
    same _ ⟨Nat.le_add_right _ _, Nat.add_lt_add_left few _⟩

theorem ch0CfgSanitize_eq {mem : Nat → UInt8} {base : Nat} {type : ChannelType}
    (typed : mem base = type.code) :
    ch0CfgSanitize mem base = (List.range (entryCount type)).foldl
      (fun mem index => sanitizeEntry type mem (entryStart type base index)) mem := by
  simp only [ch0CfgSanitize, typed, ChannelType.ofCode_code, entryStart]

theorem ch0CfgSanitize_outside {mem : Nat → UInt8} {base address : Nat} {type : ChannelType}
    (typed : mem base = type.code)
    (outside : address < base + configDataOffset + arrayOffset type ∨
      base + configDataOffset + arrayOffset type + entryCount type * entrySize type ≤ address) :
    ch0CfgSanitize mem base address = mem address := by
  rw [ch0CfgSanitize_eq typed]
  refine foldl_outside (fun mem index => sanitizeEntry_apart type base mem index address) mem ?_
  intro index inside ⟨above, below⟩
  have last : (index + 1) * entrySize type ≤ entryCount type * entrySize type :=
    Nat.mul_le_mul_right _ inside
  rw [Nat.add_mul, Nat.one_mul] at last
  simp only [entryStart] at above below
  omega

theorem ch0CfgSanitize_inside {mem : Nat → UInt8} {base : Nat} {type : ChannelType}
    (typed : mem base = type.code) (index : Nat) :
    ch0CfgSanitize mem base (base + configDataOffset + index) =
      clamped type (view mem (base + configDataOffset)) index := by
  simp only [clamped]
  split
  swap
  · exact ch0CfgSanitize_outside typed (by omega)
  rename_i inArray
  obtain ⟨offset, rfl⟩ := Nat.exists_eq_add_of_le inArray.1
  simp only [Nat.add_sub_cancel_left] at inArray ⊢
  have positive : 0 < entrySize type := by cases type <;> decide
  have entry : offset / entrySize type < entryCount type :=
    Nat.div_lt_of_lt_mul (Nat.mul_comm _ _ ▸ inArray.2)
  have within : offset % entrySize type < entrySize type := Nat.mod_lt _ positive
  have address : base + configDataOffset + (arrayOffset type + offset) =
      entryStart type base (offset / entrySize type) + offset % entrySize type := by
    have parts := Nat.div_add_mod' offset (entrySize type)
    simp only [entryStart]
    omega
  have turned := foldl_inside (sanitizeEntry_apart type base) inEntry_unique
    (sanitizeEntry_own type base) mem entry
    ⟨Nat.le_add_right _ (offset % entrySize type), Nat.add_lt_add_left within _⟩
  rw [ch0CfgSanitize_eq typed, address, turned, sanitizeEntry_inside type mem _ within, view_view,
    ← Nat.add_assoc, entryStart]

/-- A byte that clamping changes is one that the host writes. -/
theorem hostWritable_of_clamped {type : ChannelType} {data : Nat → UInt8} {index : Nat}
    (changed : clamped type data index ≠ data index) :
    HostWritable type (configDataOffset + index) := by
  simp only [clamped] at changed
  split at changed
  swap
  · exact absurd rfl changed
  rename_i inArray
  obtain ⟨behind, inside⟩ := inArray
  have parts := Nat.div_add_mod' (index - arrayOffset type) (entrySize type)
  have same : view data (arrayOffset type +
      (index - arrayOffset type) / entrySize type * entrySize type)
        ((index - arrayOffset type) % entrySize type) = data index := by
    rw [view_apply]
    congr 1
    omega
  rw [← same] at changed
  refine .inr ?_
  cases type
  case gpio =>
    have second : (index - arrayOffset .gpio) % entrySize .gpio = 1 := by
      by_contra other
      refine changed ?_
      generalize (index - arrayOffset .gpio) % entrySize .gpio = byte at other
      match byte, other with
      | 0, _ => rfl
      | byte + 2, _ => rfl
    simp only [arrayOffset, entrySize, gpioEntrySize, entryCount, gpioMaxEntries]
      at second behind inside
    refine ⟨(2 + (index - 2) / 50 * gpioEntrySize, 0x2F), List.mem_map.mpr
      ⟨(index - 2) / 50, List.mem_range.mpr ?_, rfl⟩, ?_⟩
    · simp only [gpioMaxEntries]
      omega
    · simp only [gpioEntrySize]
      omega
  case io =>
    have first : (index - arrayOffset .io) % entrySize .io = 0 := by
      by_contra other
      refine changed ?_
      generalize (index - arrayOffset .io) % entrySize .io = byte at other
      match byte, other with
      | byte + 1, _ => rfl
    simp only [arrayOffset, entrySize, ioRangeSize, entryCount, ioMaxRanges]
      at first behind inside
    refine ⟨(4 + (index - 4) / 10 * ioRangeSize, 1), mem_append_left _
      (List.mem_map.mpr ⟨(index - 4) / 10, List.mem_range.mpr ?_, rfl⟩), ?_⟩
    · simp only [ioMaxRanges]
      omega
    · simp only [ioRangeSize]
      omega
  case i3cController =>
    refine ⟨(15, i3cMaxIbiTargets * ibiTargetSize),
      mem_cons_of_mem _ mem_cons_self, ?_⟩
    simp only [arrayOffset, entrySize, entryCount] at behind inside
    omega
  all_goals exact absurd rfl changed

theorem clamped_of_zero {data : Nat → UInt8} {count index : Nat}
    (zero : ∀ index < i3cMaxIbiTargets * ibiTargetSize, count * ibiTargetSize ≤ index →
      data (arrayOffset .i3cController + index) = 0)
    (beyond : arrayOffset .i3cController + count * ibiTargetSize ≤ index) :
    clamped .i3cController data index = data index := by
  simp only [clamped]
  split
  swap
  · rfl
  rename_i inArray
  obtain ⟨offset, rfl⟩ := Nat.exists_eq_add_of_le inArray.1
  simp only [Nat.add_sub_cancel_left, entrySize, entryCount] at inArray ⊢
  have first : count ≤ offset / ibiTargetSize :=
    (Nat.le_div_iff_mul_le (by decide)).mpr (Nat.le_of_add_le_add_left beyond)
  have block : ∀ byte < ibiTargetSize, view data (arrayOffset .i3cController +
      offset / ibiTargetSize * ibiTargetSize) byte = (fun _ => 0) byte := by
    intro byte few
    rw [view_apply, Nat.add_assoc]
    have lower := Nat.mul_le_mul_right ibiTargetSize first
    refine zero _ ?_ (Nat.le_trans lower (Nat.le_add_right _ _))
    simp only [ibiTargetSize, i3cMaxIbiTargets] at few inArray ⊢
    omega
  have clear : ∀ byte < ibiTargetSize, clampedEntry .i3cController (fun _ => 0) byte = 0 := by
    decide
  have within : offset % ibiTargetSize < ibiTargetSize := Nat.mod_lt _ (by decide)
  rw [clampedEntry_congr .i3cController within block, clear _ within,
    zero offset inArray.2 (Nat.le_of_add_le_add_left beyond)]

end OpenBic.Obmf
