import OpenBic.Obmf.ControlChannel

/-!
# The discovery structure over runs

What the platform, the link and the requests of the host do to the configuration spaces. In every
state that the service reaches the counts are within their maxima and the sizes agree with them, so
every write of the host is controlled.
-/

namespace OpenBic.Obmf

open Function Library.Machine Library.Splice Library.Field

theorem DataSound.ibiLength {mem : Nat → UInt8} {data size index : Nat}
    (sound : DataSound .i3cController mem data size) (value : Nat)
    (registered : index < (mem (data + 14)).toNat) :
    DataSound .i3cController
      (store mem (data + arrayOffset .i3cController + index * ibiTargetSize + 2) 2 value) data
      size := by
  obtain ⟨few, sized, unused⟩ := sound
  have count : store mem (data + arrayOffset .i3cController + index * ibiTargetSize + 2) 2 value
      (data + 14) = mem (data + 14) := store_outside _ _ (.inl (by simp only [arrayOffset]; omega))
  have before : (index + 1) * ibiTargetSize ≤ (mem (data + 14)).toNat * ibiTargetSize :=
    Nat.mul_le_mul_right _ registered
  simp only [DataSound, count]
  refine ⟨few, sized, fun other inside beyond => ?_⟩
  rw [store_outside _ _ (.inr (by simp only [ibiTargetSize] at before beyond ⊢; omega))]
  exact unused other inside beyond

theorem DataSound.ibiAdded {mem : Nat → UInt8} {data size : Nat}
    (sound : DataSound .i3cController mem data size) (target : Nat → UInt8)
    (space : (mem (data + 14)).toNat < i3cMaxIbiTargets) :
    DataSound .i3cController
      (update
        (overwrite mem (data + arrayOffset .i3cController + (mem (data + 14)).toNat * ibiTargetSize)
          ibiTargetSize target)
        (data + 14) (UInt8.ofNat ((mem (data + 14)).toNat + 1)))
      data (arrayOffset .i3cController + ((mem (data + 14)).toNat + 1) * ibiTargetSize) := by
  obtain ⟨-, -, unused⟩ := sound
  generalize (mem (data + 14)).toNat = count at space unused ⊢
  have next : (UInt8.ofNat (count + 1)).toNat = count + 1 := by
    rw [UInt8.toNat_ofNat', Nat.mod_eq_of_lt]
    exact Nat.lt_of_le_of_lt (Nat.succ_le_of_lt space) (by decide)
  simp only [DataSound, update_self, next]
  refine ⟨space, trivial, fun index inside beyond => ?_⟩
  rw [Nat.add_mul] at beyond
  rw [update_of_ne (by simp only [arrayOffset]; omega),
    overwrite_outside _ _ (by simp only [ibiTargetSize] at beyond ⊢; omega)]
  exact unused index inside (by omega)

namespace Service

variable {service next : Service} {channel : UInt8}

/-! ## What the rest of the service changes -/

/-- A change to the base of the structure and to the headers, but for their types and sizes. -/
def HeaderOnly (service next : Service) : Prop :=
  ∀ address, next.mem address ≠ service.mem address → address < baseSize ∨
    ∃ channel ∈ spaceOrder, ∃ off, 0 < off ∧ off < configSizeOffset ∧
      address = chanBase channel + off

theorem SpaceSound.of_header (sound : service.SpaceSound channel) (listed : channel ∈ spaceOrder)
    (mask : next.presentMask = service.presentMask) (header : service.HeaderOnly next) :
    next.SpaceSound channel := by
  refine sound.congr mask fun off inside place => ?_
  by_contra changed
  rcases header _ changed with base | ⟨other, otherListed, otherOff, positive, below, same⟩
  · have behind := (chanBase_within listed).1
    omega
  · have within : otherOff < spaceSize other :=
      Nat.lt_of_lt_of_le below (Nat.le_trans (by decide) (Nat.le_add_right configDataOffset _))
    exact spaceByte_ne listed otherListed inside within (.inr (by omega)) same

theorem headerOnly_controlWrite (newCtrl : UInt8) (listed : channel ∈ spaceOrder) :
    service.HeaderOnly (service.controlWrite (chanBase channel) newCtrl) := by
  intro address changed
  by_cases base : address < baseSize
  · exact .inl base
  refine .inr ⟨channel, listed, ?_⟩
  by_contra none
  refine changed (service.controlWrite_mem newCtrl (fun control => ?_) (fun status => ?_)
    (fun config => ?_))
  · exact none ⟨controlOffset, by decide, by decide, control⟩
  · exact none ⟨statusOffset, by decide, by decide, status⟩
  · exact base (config ▸ by decide)

theorem update_update_kept (mem : Nat → UInt8) (control status : UInt8) {base address : Nat}
    (apart : ∀ off, 0 < off → off < configSizeOffset → address ≠ base + off) :
    update (update mem (base + controlOffset) control) (base + statusOffset)
      status address = mem address := by
  rw [update_of_ne (apart statusOffset (by decide) (by decide)),
    update_of_ne (apart controlOffset (by decide) (by decide))]

theorem headerOnly_linkDown (service : Service) : service.HeaderOnly service.linkDown := by
  intro address changed
  refine .inr ?_
  by_contra none
  refine changed (foldl_kept (fun service => service.mem address)
    (fun service channel listed => ?_) { service with suspendedMask := 0 })
  simp only [suspend]
  split
  · rfl
  · exact update_update_kept service.mem _ _ fun off positive below same =>
      none ⟨channel, mem_channels.mp listed, off, positive, below, same⟩

theorem headerOnly_linkUp (service : Service) : service.HeaderOnly service.linkUp := by
  intro address changed
  refine .inr ?_
  by_contra none
  refine changed ?_
  simp only [linkUp]
  split
  · rfl
  refine foldl_kept (fun service => service.mem address) (fun service channel listed => ?_) service
  simp only [restore]
  split
  · rfl
  · exact update_update_kept service.mem _ _ fun off positive below same =>
      none ⟨channel, mem_channels.mp listed, off, positive, below, same⟩

theorem headerOnly_specificStatusSet (service : Service) (channel bits : UInt8) (set : Bool) :
    service.HeaderOnly (service.specificStatusSet channel bits set) := by
  intro address changed
  refine .inr ?_
  by_contra none
  refine changed ?_
  simp only [specificStatusSet]
  split
  · rfl
  rename_i listed
  refine update_of_ne (fun same => none ⟨channel, not_not.mp listed,
    specificStatusOffset, by decide, by decide, same⟩) _ _

theorem SpaceSound.of_within {other : UInt8} (sound : service.SpaceSound other)
    (mask : next.presentMask = service.presentMask) (listed : channel ∈ spaceOrder)
    (otherListed : other ∈ spaceOrder) (own : next.SpaceSound channel)
    (within : ∀ address, next.mem address ≠ service.mem address →
      ∃ off < spaceSize channel, address = chanBase channel + off) : next.SpaceSound other := by
  by_cases same : channel = other
  · subst same
    exact own
  refine sound.congr mask fun off inside _ => ?_
  by_contra changed
  obtain ⟨ownOff, ownInside, equal⟩ := within _ changed
  exact spaceByte_ne otherListed listed inside ownInside (.inl (Ne.symm same)) equal

theorem SpaceSound.of_type (sound : service.SpaceSound channel)
    (mask : next.presentMask = service.presentMask)
    (type : next.mem (chanBase channel) = service.mem (chanBase channel))
    (data : service.present channel = true →
      DataSound (channelType channel) next.mem (chanBase channel + configDataOffset)
        (load next.mem (chanBase channel + configSizeOffset) 4)) : next.SpaceSound channel where
  absent := fun missing => type.trans (sound.absent (present_congr mask channel ▸ missing))
  typed := fun here => type.trans (sound.typed (present_congr mask channel ▸ here))
  data := fun here => data (present_congr mask channel ▸ here)

theorem gpio_channels {channel : UInt8} (gpio : channel ∈ [(5 : UInt8), 6, 7, 8]) :
    channel ∈ spaceOrder ∧ channelType channel = .gpio := by
  have all : ∀ channel ∈ [(5 : UInt8), 6, 7, 8],
      channel ∈ spaceOrder ∧ channelType channel = .gpio := by decide +kernel
  exact all channel gpio

theorem sound_gpioSetConfigCount {other : UInt8} (count : UInt16)
    (gpio : channel ∈ [(5 : UInt8), 6, 7, 8]) (otherListed : other ∈ spaceOrder)
    (sounds : ∀ channel ∈ spaceOrder, service.SpaceSound channel) :
    (service.gpioSetConfigCount channel count).SpaceSound other := by
  obtain ⟨listed, kind⟩ := gpio_channels gpio
  refine (sounds other otherListed).of_within rfl listed otherListed ?_ fun address changed => ?_
  · refine (sounds channel listed).of_type rfl ?_ fun here => ?_
    · exact store_outside _ _ (.inl (Nat.lt_add_of_pos_right (by decide)))
    · have data := (sounds channel listed).data here
      rw [kind] at data ⊢
      have size := @load_store_apart service.mem (chanBase channel + configDataOffset) 2
        (chanBase channel + configSizeOffset) 4 (min count.toNat gpioMaxEntries)
        (.inl (Nat.le_of_eq (Nat.add_assoc _ _ _)))
      have few : min count.toNat gpioMaxEntries ≤ gpioMaxEntries := Nat.min_le_right _ _
      refine ⟨?_, size.trans data.2⟩
      rw [gpioSetConfigCount, load_store _ _ (Nat.lt_of_le_of_lt few (by decide))]
      exact few
  · by_contra none
    refine changed (store_outside _ _ ?_)
    by_contra inside
    refine none ⟨address - chanBase channel, ?_, by omega⟩
    simp only [spaceSize, kind, configDataSize, arrayOffset]
    omega

/-- A write to a GPIO entry keeps what holds of every space. -/
theorem sound_gpioEntryWrite {other : UInt8} (byte : UInt8) {offset : Nat}
    (gpio : channel ∈ [(5 : UInt8), 6, 7, 8]) (inside : offset < gpioMaxEntries * gpioEntrySize)
    (otherListed : other ∈ spaceOrder)
    (sounds : ∀ channel ∈ spaceOrder, service.SpaceSound channel) :
    (service.gpioEntryWrite channel offset byte).SpaceSound other := by
  obtain ⟨listed, kind⟩ := gpio_channels gpio
  have kept : ∀ address < chanBase channel + configDataOffset + arrayOffset .gpio,
      (service.gpioEntryWrite channel offset byte).mem address = service.mem address :=
    fun address before => update_of_ne (by omega) _ _
  refine (sounds other otherListed).of_within rfl listed otherListed ?_ fun address changed => ?_
  · refine (sounds channel listed).of_type rfl ?_ fun here => ?_
    · refine kept _ ?_
      simp only [configDataOffset]
      omega
    · have data := (sounds channel listed).data here
      rw [kind] at data ⊢
      have size : load (service.gpioEntryWrite channel offset byte).mem
          (chanBase channel + configSizeOffset) 4 =
            load service.mem (chanBase channel + configSizeOffset) 4 :=
        load_congr fun index few => kept _ (by
          simp only [configSizeOffset, configDataOffset]
          omega)
      have count : load (service.gpioEntryWrite channel offset byte).mem
          (chanBase channel + configDataOffset) 2 =
            load service.mem (chanBase channel + configDataOffset) 2 :=
        load_congr fun index few => kept _ (Nat.add_lt_add_left few _)
      simp only [DataSound, size, count]
      exact data
  · obtain rfl : address = chanBase channel + configDataOffset + arrayOffset .gpio + offset := by
      by_contra apart
      exact changed (update_of_ne apart _ _)
    refine ⟨configDataOffset + arrayOffset .gpio + offset, ?_, by omega⟩
    simp only [spaceSize, kind, configDataSize]
    omega

theorem i2cTarget_channels {channel : UInt8} (target : channel ∈ [(14 : UInt8), 15]) :
    channel ∈ spaceOrder ∧ channelType channel = .i2cTarget := by
  have all : ∀ channel ∈ [(14 : UInt8), 15],
      channel ∈ spaceOrder ∧ channelType channel = .i2cTarget := by decide +kernel
  exact all channel target

/-- Setting an I2C target address keeps what holds of every space. -/
theorem sound_i2cTargetSetAddress {other : UInt8} (channel address : UInt8)
    (otherListed : other ∈ spaceOrder)
    (sounds : ∀ channel ∈ spaceOrder, service.SpaceSound channel) :
    (service.i2cTargetSetAddress channel address).SpaceSound other := by
  simp only [i2cTargetSetAddress]
  split
  · exact sounds other otherListed
  rename_i accepted
  obtain ⟨listed, kind⟩ := i2cTarget_channels (not_not.mp fun missing => accepted (.inl missing))
  refine (sounds other otherListed).of_within rfl listed otherListed ?_ fun place changed => ?_
  · refine (sounds channel listed).of_type rfl ?_ fun _ => ?_
    · have before : chanBase channel < chanBase channel + configSizeOffset :=
        Nat.lt_add_of_pos_right (by decide)
      simp only [configDataOffset]
      rw [store_outside _ _ (.inl before), update_of_ne (by omega),
        update_of_ne (by simp only [arrayOffset]; omega)]
    · have count : store (update (update service.mem
          (chanBase channel + configDataOffset + arrayOffset .i2cTarget) address)
            (chanBase channel + configDataOffset + 2) 1) (chanBase channel + configSizeOffset) 4
              (arrayOffset .i2cTarget + 1) (chanBase channel + configDataOffset + 2) = 1 := by
        rw [store_outside _ _ (.inr (by simp only [configSizeOffset, configDataOffset]; omega)),
          update_self]
      rw [kind, load_store _ _ (by decide)]
      simp only [DataSound, count]
      decide
  · by_contra none
    refine changed ?_
    have apart : ∀ off < spaceSize channel, place ≠ chanBase channel + off :=
      fun off inside same => none ⟨off, inside, same⟩
    simp only [spaceSize, kind, configDataSize, configDataOffset, arrayOffset] at apart
    have outside : ¬ (chanBase channel ≤ place ∧ place < chanBase channel + 39) := fun inside =>
      apart (place - chanBase channel) (by omega) (by omega)
    simp only [configSizeOffset, configDataOffset, arrayOffset]
    rw [store_outside _ _ (by omega), update_of_ne (by omega),
      update_of_ne (by omega)]

theorem code_injective {first second : ChannelType} (same : first.code = second.code) :
    first = second := by
  have told := congrArg ChannelType.ofCode same
  simpa using told

theorem SpaceSound.i3c (sound : service.SpaceSound channel)
    (typed : service.mem (chanBase channel) = ChannelType.code .i3cController) :
    service.present channel = true ∧ channelType channel = .i3cController := by
  cases here : service.present channel with
  | false =>
    rw [sound.absent here] at typed
    cases typed
  | true => exact ⟨rfl, code_injective ((sound.typed here).symm.trans typed)⟩

/-- Registering an IBI target keeps what holds of every space. -/
theorem sound_ibiTargetSet {other : UInt8} (channel dynamicAddr : UInt8) (maxLen : UInt16)
    (otherListed : other ∈ spaceOrder)
    (sounds : ∀ channel ∈ spaceOrder, service.SpaceSound channel) :
    (service.ibiTargetSet channel dynamicAddr maxLen).SpaceSound other := by
  simp only [ibiTargetSet]
  split
  · exact sounds other otherListed
  rename_i accepted
  have listed : channel ∈ spaceOrder := not_not.mp fun missing => accepted (.inl missing)
  have typed : service.mem (chanBase channel) = ChannelType.code .i3cController :=
    not_not.mp fun wrong => accepted (.inr wrong)
  obtain ⟨here, kind⟩ := (sounds channel listed).i3c typed
  have data := (sounds channel listed).data here
  rw [kind] at data
  have few := data.1
  have space : spaceSize channel = configDataOffset + configDataSize .i3cController := by
    rw [spaceSize, kind]
  rw [Nat.min_eq_left few]
  split
  · rename_i index found
    have registered := List.mem_range.mp (List.mem_of_find?_eq_some found)
    have last : (index + 1) * ibiTargetSize ≤ i3cMaxIbiTargets * ibiTargetSize :=
      Nat.mul_le_mul_right _ (Nat.le_trans registered few)
    refine (sounds other otherListed).of_within rfl listed otherListed ?_ fun place changed => ?_
    · refine (sounds channel listed).of_type rfl ?_ fun _ => ?_
      · exact store_outside _ _ (.inl (by simp only [configDataOffset]; omega))
      · rw [kind, load_store_apart _ _
          (.inl (by simp only [configDataOffset, configSizeOffset]; omega))]
        exact data.ibiLength _ registered
    · by_contra none
      refine changed (store_outside _ _ ?_)
      by_contra inside
      refine none ⟨place - chanBase channel, ?_, by omega⟩
      rw [space]
      simp only [configDataSize, Nat.add_mul, ibiTargetSize] at last inside ⊢
      omega
  · by_cases full : (service.mem (chanBase channel + configDataOffset + 14)).toNat =
      i3cMaxIbiTargets
    · rw [if_pos full]
      exact sounds other otherListed
    rw [if_neg full]
    have last : ((service.mem (chanBase channel + configDataOffset + 14)).toNat + 1) *
        ibiTargetSize ≤ i3cMaxIbiTargets * ibiTargetSize :=
      Nat.mul_le_mul_right _ (Nat.lt_of_le_of_ne few full)
    refine (sounds other otherListed).of_within rfl listed otherListed ?_ fun place changed => ?_
    · refine (sounds channel listed).of_type rfl ?_ fun _ => ?_
      · have before : chanBase channel < chanBase channel + configSizeOffset :=
          Nat.lt_add_of_pos_right (by decide)
        refine (store_outside _ _ (.inl before)).trans ?_
        rw [update_of_ne (by simp only [configDataOffset]; omega),
          overwrite_outside _ _ (by simp only [configDataOffset]; omega)]
      · rw [kind, load_store _ _ (Nat.lt_of_le_of_lt (Nat.add_le_add_left last _) (by decide))]
        have added := data.ibiAdded (fun index => if index = 0 then dynamicAddr
          else if index = 1 then 0 else digit maxLen.toNat (index - 2))
          (Nat.lt_of_le_of_ne few full)
        exact added.congr fun index _ => store_outside _ _
          (.inr (by simp only [configDataOffset, configSizeOffset]; omega))
    · by_contra none
      refine changed ?_
      have apart : ¬ (chanBase channel ≤ place ∧ place < chanBase channel + spaceSize channel) :=
        fun inside => none ⟨place - chanBase channel, by omega, by omega⟩
      rw [space] at apart
      simp only [configDataSize, configDataOffset, Nat.add_mul, ibiTargetSize, arrayOffset]
        at last apart ⊢
      refine (store_outside _ _ (by simp only [configSizeOffset]; omega)).trans ?_
      rw [update_of_ne (by omega), overwrite_outside _ _ (by omega)]

/-! ## Runs of the service -/

/-- What changes the service. -/
inductive ServiceEvent where
  | control (msg : List UInt8)
  | ibiTarget (channel dynamicAddr : UInt8) (maxLen : UInt16)
  | targetAddress (channel address : UInt8)
  | gpioCount (channel : UInt8) (count : UInt16)
  | gpioEntry (channel : UInt8) (offset : Nat) (byte : UInt8)
  | specificStatus (channel bits : UInt8) (set : Bool)
  /-- `obmf_link_down_work` runs. -/
  | linkDown
  /-- `obmf_link_up_work` runs. -/
  | linkUp
  | busReset
  | traffic (tags : UInt8 → ChannelTags) (slots : UInt8 → FragSlot) (txQueue : List (List UInt8))

/-- An event. Only the GPIO channels have entries, and only three of them a count that is set. -/
def step (service : Service) : ServiceEvent → Option Service
  | .control msg => some (service.controlRequest msg).1
  | .ibiTarget channel dynamicAddr maxLen => some (service.ibiTargetSet channel dynamicAddr maxLen)
  | .targetAddress channel address => some (service.i2cTargetSetAddress channel address)
  | .gpioCount channel count =>
    if channel ∈ [(5 : UInt8), 6, 7] then some (service.gpioSetConfigCount channel count) else none
  | .gpioEntry channel offset byte =>
    if channel ∈ [(5 : UInt8), 6, 7, 8] ∧ offset < gpioMaxEntries * gpioEntrySize then
      some (service.gpioEntryWrite channel offset byte)
    else none
  | .specificStatus channel bits set => some (service.specificStatusSet channel bits set)
  | .linkDown => some service.linkDown
  | .linkUp => some service.linkUp
  | .busReset => some service.resetChannelState
  | .traffic tags slots txQueue =>
    some { service with tags := tags, slots := slots, txQueue := txQueue }

/-- The configuration space of every channel is sound. -/
def Sound (service : Service) : Prop := ∀ channel ∈ spaceOrder, service.SpaceSound channel

theorem sound_init (config : PlatConfig) : (init config).Sound := by
  intro channel listed
  have started := started_init config listed
  refine ⟨fun missing => started.absent missing 0 (by decide), fun here => ?_, fun here => ?_⟩
  · obtain ⟨size, header, -⟩ := started.filled here
    exact header.type
  · obtain ⟨size, header, data⟩ := started.filled here
    rw [header.sized]
    exact data

/-- A request on Channel 0 keeps what holds of every space. -/
theorem sound_controlRequest (msg : List UInt8) (sounds : service.Sound) :
    (service.controlRequest msg).1.Sound := by
  intro other otherListed
  by_cases writes : IsCh0Write msg
  swap
  · simp only [IsCh0Write] at writes
    simp only [controlRequest, if_neg writes]
    split
    · exact sounds other otherListed
    · exact sounds other otherListed
  rw [controlRequest_write writes]
  rcases service.handleCh0WriteReq_cases msg with ⟨same, -⟩ | ⟨moved, -, -, -⟩
  · rw [same]
    exact sounds other otherListed
  generalize (service.handleCh0WriteReq msg).1 = next at moved ⊢
  simp only [writeFields] at moved
  split at moved
  · rename_i channel found
    obtain ⟨listed, here, reaches, -⟩ := channelAt_spec found
    rcases writeChannel_cases moved with ⟨-, -, rfl⟩ | ⟨-, fits, writable, rfl⟩
    · exact (sounds other otherListed).of_header otherListed rfl
        (headerOnly_controlWrite _ listed)
    · exact (sounds other otherListed).of_confined rfl listed otherListed here
        (sounds channel listed) (confined_fields (ch0WriteData msg) listed here
          (sounds channel listed) reaches fits writable)
  · split at moved
    · cases moved
      exact sounds other otherListed
    · cases moved

/-- Every event keeps the service sound. -/
theorem sound_step {event : ServiceEvent} (sounds : service.Sound)
    (moved : service.step event = some next) : next.Sound := by
  intro other listed
  cases event with
  | control msg =>
    cases moved
    exact sound_controlRequest msg sounds other listed
  | ibiTarget channel dynamicAddr maxLen =>
    cases moved
    exact sound_ibiTargetSet channel dynamicAddr maxLen listed sounds
  | targetAddress channel address =>
    cases moved
    exact sound_i2cTargetSetAddress channel address listed sounds
  | gpioCount channel count =>
    simp only [step, Option.ite_none_right_eq_some, Option.some.injEq] at moved
    obtain ⟨gpio, rfl⟩ := moved
    exact sound_gpioSetConfigCount count (List.mem_append_left [8] gpio) listed sounds
  | gpioEntry channel offset byte =>
    simp only [step, Option.ite_none_right_eq_some, Option.some.injEq] at moved
    obtain ⟨⟨gpio, inside⟩, rfl⟩ := moved
    exact sound_gpioEntryWrite byte gpio inside listed sounds
  | specificStatus channel bits set =>
    cases moved
    refine (sounds other listed).of_header listed ?_
      (service.headerOnly_specificStatusSet channel bits set)
    simp only [specificStatusSet]
    split <;> rfl
  | linkDown =>
    cases moved
    exact (sounds other listed).of_header listed service.presentMask_linkDown
      service.headerOnly_linkDown
  | linkUp =>
    cases moved
    exact (sounds other listed).of_header listed service.presentMask_linkUp
      service.headerOnly_linkUp
  | busReset =>
    cases moved
    exact (sounds other listed).congr rfl fun _ _ _ => rfl
  | traffic tags slots txQueue =>
    cases moved
    exact (sounds other listed).congr rfl fun _ _ _ => rfl

/-- In every state that the service reaches the counts are within their maxima and the sizes agree
with them, and every write request on Channel 0 is controlled. -/
theorem writeControlled_run (config : PlatConfig) {events : List ServiceEvent}
    (ran : run step (init config) events = some service) :
    service.Sound ∧ ∀ msg, IsCh0Write msg →
      WriteControlled service msg (service.controlRequest msg).1
        (service.controlRequest msg).2 := by
  have sounds : service.Sound := invariant_of_step sound_step (sound_init config) ran
  exact ⟨sounds, fun msg writes => writeControlled_of_sound sounds writes⟩

def nameWrite : List UInt8 := [0, 0, 7, 0, 1, 0, 122, 0, 0, 0, 65]

/-- The name of channel 1 is written, and the write is controlled. -/
theorem writeControlled_run_name :
    ∃ service ∈ run step (init Watched.mmioOnly) [.control nameWrite],
      service.Sound ∧ service.mem 122 = 65 ∧ WriteControlled service nameWrite
        (service.controlRequest nameWrite).1 (service.controlRequest nameWrite).2 := by
  obtain ⟨service, ran, written⟩ :
      ∃ service ∈ run step (init Watched.mmioOnly) [.control nameWrite], service.mem 122 = 65 := by
    decide +kernel
  obtain ⟨sounds, controlled⟩ := writeControlled_run Watched.mmioOnly ran
  exact ⟨service, ran, sounds, written, controlled nameWrite (.inl (by decide))⟩

end Service

end OpenBic.Obmf
