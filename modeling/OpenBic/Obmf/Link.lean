import OpenBic.Obmf.Service

/-!
# The link of the OBMF service

What the link going down and up does for the channels the host has enabled. A channel is seen as its
control and status bytes and its bit in `obmf_suspended_mask`; the loops over the channels change
each of them once.
-/

namespace OpenBic.Obmf

open Library.Machine Library.Field

theorem and_bit_eq_zero_iff {mask : BitVec 32} {channel : UInt8} (exists' : channel ≤ maxChannels) :
    mask &&& bit channel = 0 ↔ mask.getLsbD channel.toNat = false := by
  constructor
  · intro none
    have clear := congrArg (·.getLsbD channel.toNat) none
    simpa [getLsbD_bit exists'] using clear
  · intro clear
    apply BitVec.eq_of_getLsbD_eq
    intro index inside
    rw [BitVec.getLsbD_and, bit, BitVec.getLsbD_twoPow]
    by_cases same : channel.toNat = index
    · rw [← same, clear]
      simp
    · simp [same]

/-- What the link sees of a channel. -/
structure Facet where
  number : UInt8
  control : UInt8
  status : UInt8
  /-- The bit of the channel in `obmf_suspended_mask`. -/
  pending : Bool

namespace Facet

def enabled (facet : Facet) : Bool := facet.control &&& 0x01 ≠ 0

def suspended (facet : Facet) : Facet :=
  if facet.control &&& 0x01 = 0 then facet
  else { facet with control := facet.control &&& ~~~0x01, status := 3, pending := true }

def restored (facet : Facet) : Facet :=
  if facet.pending then { facet with control := facet.control ||| 0x01, status := 0x21 } else facet

/-- The channel after a `CHANNEL_CONTROL` write. -/
def controlled (facet : Facet) (newCtrl : UInt8) : Facet :=
  { facet with
    control := newCtrl &&& 0x01
    status := Service.statusAfter facet.status newCtrl
    pending := false }

/-- No error is flagged, and the health is ready exactly if the channel is enabled. -/
structure Healthy (facet : Facet) : Prop where
  /-- `CHAN_STATUS_ERROR_INDICATOR` is clear. -/
  sound : facet.status &&& 0x80 = 0
  agrees : facet.status &&& 0x0F = Service.healthReady ↔ facet.enabled = true

theorem healthy_of_zero (facet : Facet) (control : facet.control = 0)
    (status : facet.status = 0 ∨ facet.status = 0x22) : facet.Healthy ∧ facet.enabled = false := by
  have off : facet.enabled = false := by
    simp only [enabled, control]
    decide
  have sound : facet.status &&& 0x80 = 0 := by
    rcases status with status | status
    all_goals
      rw [status]
      decide
  have notReady : facet.status &&& 0x0F ≠ Service.healthReady := by
    rcases status with status | status
    all_goals
      rw [status]
      decide
  exact ⟨⟨sound, iff_of_false notReady (by simp [off])⟩, off⟩

theorem healthy_suspended {facet : Facet} (healthy : facet.Healthy) :
    facet.suspended.Healthy ∧ facet.suspended.enabled = false := by
  have cleared : ∀ control : UInt8, control &&& ~~~0x01 &&& 0x01 = 0 :=
    forall_byte (by decide +kernel)
  unfold suspended
  split
  · rename_i off
    exact ⟨healthy, by simp [enabled, off]⟩
  · have still : Facet.enabled ⟨facet.number, facet.control &&& ~~~0x01, 3, true⟩ = false := by
      simp [enabled, cleared]
    have noError : (3 : UInt8) &&& 0x80 = 0 := by decide
    have notReady : (3 : UInt8) &&& 0x0F ≠ Service.healthReady := by decide
    exact ⟨⟨noError, iff_of_false notReady (by simp [still])⟩, still⟩

theorem healthy_restored {facet : Facet} (healthy : facet.Healthy) :
    facet.restored.Healthy ∧ facet.restored.enabled = (facet.enabled || facet.pending) := by
  have raised : ∀ control : UInt8, (control ||| 0x01) &&& 0x01 ≠ 0 :=
    forall_byte (by decide +kernel)
  unfold restored
  cases waiting : facet.pending with
  | false => exact ⟨healthy, by simp⟩
  | true =>
    have on : Facet.enabled ⟨facet.number, facet.control ||| 0x01, 0x21, true⟩ = true := by
      simp [enabled, raised]
    have noError : (0x21 : UInt8) &&& 0x80 = 0 := by decide
    have ready : (0x21 : UInt8) &&& 0x0F = Service.healthReady := by decide
    simp only [↓reduceIte, Bool.or_true]
    exact ⟨⟨noError, iff_of_true ready on⟩, on⟩

/-- The health after a control write, when no error is flagged. -/
theorem statusAfter_spec {status : UInt8} (newCtrl : UInt8) (sound : status &&& 0x80 = 0) :
    Service.statusAfter status newCtrl &&& 0x80 = 0 ∧
      (Service.statusAfter status newCtrl &&& 0x0F = Service.healthReady ↔
        newCtrl &&& 0x01 ≠ 0) := by
  have kept : ∀ status : UInt8, status &&& 0x80 = 0 → (status ||| 0x10) &&& 0x80 = 0 ∧
      (status ||| 0x20) &&& 0x80 = 0 ∧ status &&& ~~~0x80 &&& 0x80 = 0 :=
    forall_byte (by decide +kernel)
  have health : ∀ status : UInt8, status &&& 0x80 = 0 →
      ((status &&& ~~~0x0F) ||| 1) &&& 0x80 = 0 ∧ ((status &&& ~~~0x0F) ||| 1) &&& 0x0F = 1 ∧
        ((status &&& ~~~0x0F) ||| 2) &&& 0x80 = 0 ∧ ((status &&& ~~~0x0F) ||| 2) &&& 0x0F = 2 :=
    forall_byte (by decide +kernel)
  have reset : (if newCtrl &&& 0x02 ≠ 0 then status ||| 0x10 else status) &&& 0x80 = 0 := by
    split
    · exact (kept _ sound).1
    · exact sound
  have applied : (if newCtrl &&& 0x04 ≠ 0 then
      (if newCtrl &&& 0x02 ≠ 0 then status ||| 0x10 else status) ||| 0x20
      else if newCtrl &&& 0x02 ≠ 0 then status ||| 0x10 else status) &&& 0x80 = 0 := by
    split
    · exact (kept _ reset).2.1
    · exact reset
  simp only [Service.statusAfter]
  generalize (if newCtrl &&& 0x04 ≠ 0 then
      (if newCtrl &&& 0x02 ≠ 0 then status ||| 0x10 else status) ||| 0x20
      else if newCtrl &&& 0x02 ≠ 0 then status ||| 0x10 else status) = before at applied ⊢
  have cleared : (if newCtrl &&& 0x10 ≠ 0 then before &&& ~~~0x80 else before) &&& 0x80 = 0 := by
    split
    · exact (kept _ applied).2.2
    · exact applied
  rw [if_pos cleared]
  obtain ⟨readySound, ready, offSound, off⟩ := health _ cleared
  by_cases enable : newCtrl &&& 0x01 = 0
  · simp only [enable, ne_eq, not_true_eq_false, ↓reduceIte, iff_false]
    exact ⟨offSound, by rw [off]; decide⟩
  · simp only [enable, ne_eq, not_false_eq_true, ↓reduceIte, iff_true]
    exact ⟨readySound, ready⟩

theorem healthy_controlled {facet : Facet} (newCtrl : UInt8) (healthy : facet.Healthy) :
    (facet.controlled newCtrl).Healthy ∧
      (facet.controlled newCtrl).enabled = decide (newCtrl &&& 0x01 ≠ 0) := by
  have twice : ∀ value : UInt8, value &&& 0x01 &&& 0x01 = value &&& 0x01 :=
    forall_byte (by decide +kernel)
  have written : (facet.controlled newCtrl).enabled = decide (newCtrl &&& 0x01 ≠ 0) := by
    simp [controlled, enabled, twice]
  obtain ⟨sound, agrees⟩ := statusAfter_spec newCtrl healthy.sound
  refine ⟨⟨sound, ?_⟩, written⟩
  rw [written, decide_eq_true_iff]
  exact agrees

theorem suspended_pending (facet : Facet) :
    facet.suspended.pending = (facet.enabled || facet.pending) := by
  unfold suspended
  split
  · rename_i off
    simp [enabled, off]
  · rename_i on
    simp [enabled, on]

@[simp]
theorem suspended_number (facet : Facet) : facet.suspended.number = facet.number := by
  unfold suspended
  split <;> rfl

@[simp]
theorem restored_number (facet : Facet) : facet.restored.number = facet.number := by
  unfold restored
  split <;> rfl

/-- How a channel stands to what the host last asked for, and to whether it was enabled since the
link went down. -/
structure Tracked (facet : Facet) (wanted raised isDown : Bool) : Prop where
  healthy : facet.Healthy
  up : isDown = false → facet.enabled = wanted ∧ facet.pending = false
  down : isDown = true → (facet.enabled || facet.pending) = wanted ∧
    (facet.enabled = true → raised = true)

variable {facet : Facet} {wanted raised isDown : Bool}

theorem Tracked.settled (tracked : facet.Tracked wanted raised isDown)
    (settled : facet.pending = false) : facet.enabled = wanted := by
  cases isDown with
  | false => exact (tracked.up rfl).1
  | true => simpa [settled] using (tracked.down rfl).1

theorem Tracked.suspended (tracked : facet.Tracked wanted raised isDown)
    (settled : facet.pending = false) : facet.suspended.Tracked wanted false true := by
  obtain ⟨healthy, off⟩ := healthy_suspended tracked.healthy
  refine ⟨healthy, fun up => absurd up (by decide), fun _ => ⟨?_, fun on => ?_⟩⟩
  · rw [off, suspended_pending, settled, tracked.settled settled, Bool.or_false, Bool.false_or]
  · rw [off] at on
    exact on

theorem Tracked.restored (tracked : facet.Tracked wanted raised isDown) :
    Tracked { facet.restored with pending := false } wanted raised false := by
  obtain ⟨healthy, restores⟩ := healthy_restored tracked.healthy
  refine ⟨⟨healthy.sound, healthy.agrees⟩, fun _ => ⟨?_, rfl⟩, fun down => absurd down (by decide)⟩
  refine restores.trans ?_
  cases isDown with
  | false =>
    obtain ⟨same, settled⟩ := tracked.up rfl
    rw [settled, same, Bool.or_false]
  | true => exact (tracked.down rfl).1

theorem Tracked.controlled (tracked : facet.Tracked wanted raised isDown) (newCtrl : UInt8) :
    (facet.controlled newCtrl).Tracked (newCtrl &&& 0x01 ≠ 0) (newCtrl &&& 0x01 ≠ 0) isDown := by
  obtain ⟨healthy, written⟩ := healthy_controlled newCtrl tracked.healthy
  refine ⟨healthy, fun _ => ⟨written, rfl⟩, fun _ => ⟨?_, fun on => ?_⟩⟩
  · rw [written]
    exact Bool.or_false _
  · rw [written] at on
    exact on

end Facet

namespace Service

variable {service : Service} {channel : UInt8}

def facet (service : Service) (channel : UInt8) : Facet where
  number := service.mem (chanBase channel + 1)
  control := service.mem (chanBase channel + controlOffset)
  status := service.mem (chanBase channel + statusOffset)
  pending := service.suspendedMask.getLsbD channel.toNat

theorem channels_nodup : channels.Nodup := by decide +kernel

theorem update_update_apart (mem : Nat → UInt8) {other : UInt8} (control status : UInt8)
    {offset : Nat} (listed : channel ∈ spaceOrder) (otherListed : other ∈ spaceOrder)
    (inside : offset < configDataOffset)
    (apart : channel ≠ other ∨ (offset ≠ controlOffset ∧ offset ≠ statusOffset)) :
    Function.update (Function.update mem (chanBase channel + controlOffset) control)
      (chanBase channel + statusOffset) status (chanBase other + offset) =
        mem (chanBase other + offset) := by
  have statusByte : chanBase other + offset ≠ chanBase channel + statusOffset :=
    headerByte_ne otherListed listed inside (by decide)
      (apart.imp Ne.symm And.right)
  have controlByte : chanBase other + offset ≠ chanBase channel + controlOffset :=
    headerByte_ne otherListed listed inside (by decide)
      (apart.imp Ne.symm And.left)
  rw [Function.update_of_ne statusByte, Function.update_of_ne controlByte]

theorem update_update_self (mem : Nat → UInt8) (control status : UInt8)
    (listed : channel ∈ spaceOrder) :
    Function.update (Function.update mem (chanBase channel + controlOffset) control)
        (chanBase channel + statusOffset) status (chanBase channel + controlOffset) = control ∧
      Function.update (Function.update mem (chanBase channel + controlOffset) control)
        (chanBase channel + statusOffset) status (chanBase channel + statusOffset) = status := by
  have apart : chanBase channel + controlOffset ≠ chanBase channel + statusOffset :=
    headerByte_ne listed listed (by decide) (by decide) (.inr (by decide))
  exact ⟨by rw [Function.update_of_ne apart, Function.update_self], Function.update_self _ _ _⟩

theorem facet_written (service : Service) (mask : BitVec 32) (control status : UInt8)
    (tags : UInt8 → ChannelTags) (slots : UInt8 → FragSlot) (listed : channel ∈ spaceOrder) :
    facet { service with
        mem := Function.update
          (Function.update service.mem (chanBase channel + controlOffset) control)
          (chanBase channel + statusOffset) status
        suspendedMask := mask, tags := tags, slots := slots } channel =
      { service.facet channel with
        control := control, status := status, pending := mask.getLsbD channel.toNat } := by
  have number := @update_update_apart channel service.mem channel control status 1 listed listed
    (by decide) (.inr (by decide))
  obtain ⟨controlByte, statusByte⟩ := update_update_self service.mem control status listed
  simp only [facet, number, controlByte, statusByte]

theorem facet_written_apart (service : Service) (mask : BitVec 32) (control status : UInt8)
    (tags : UInt8 → ChannelTags) (slots : UInt8 → FragSlot) {other : UInt8}
    (listed : channel ∈ spaceOrder) (otherListed : other ∈ spaceOrder) (apart : channel ≠ other) :
    facet { service with
        mem := Function.update
          (Function.update service.mem (chanBase channel + controlOffset) control)
          (chanBase channel + statusOffset) status
        suspendedMask := mask, tags := tags, slots := slots } other =
      { service.facet other with pending := mask.getLsbD other.toNat } := by
  have kept : ∀ offset < configDataOffset, _ := fun offset inside =>
    @update_update_apart channel service.mem other control status offset listed otherListed inside
      (.inl apart)
  simp only [facet, kept 1 (by decide), kept controlOffset (by decide),
    kept statusOffset (by decide)]

theorem facet_suspend_self (service : Service) (listed : channel ∈ spaceOrder) :
    (service.suspend channel).facet channel = (service.facet channel).suspended := by
  have known := (mem_spaceOrder_iff.mp listed).2
  by_cases off : service.mem (chanBase channel + controlOffset) &&& 0x01 = 0
  · simp only [suspend, Facet.suspended, facet, off, ↓reduceIte]
  · have marked : (service.suspendedMask ||| bit channel).getLsbD channel.toNat = true := by
      rw [BitVec.getLsbD_or, getLsbD_bit known, decide_eq_true rfl, Bool.or_true]
    have written := facet_written service (service.suspendedMask ||| bit channel)
      (service.mem (chanBase channel + controlOffset) &&& ~~~0x01) 3
      (Function.update service.tags channel
        { service.tags channel with isOutstanding := false }) service.slots listed
    rw [marked] at written
    simp only [suspend, Facet.suspended, if_neg off]
    rw [written, facet, if_neg off]

theorem facet_suspend_apart (service : Service) {index : UInt8} (indexListed : index ∈ spaceOrder)
    (listed : channel ∈ spaceOrder) (apart : index ≠ channel) :
    (service.suspend index).facet channel = service.facet channel := by
  have known := (mem_spaceOrder_iff.mp indexListed).2
  have unmarked : (service.suspendedMask ||| bit index).getLsbD channel.toNat =
      service.suspendedMask.getLsbD channel.toNat := by
    rw [BitVec.getLsbD_or, getLsbD_bit known, decide_eq_false apart, Bool.or_false]
  by_cases off : service.mem (chanBase index + controlOffset) &&& 0x01 = 0
  · simp only [suspend, if_pos off]
  · have written := facet_written_apart service (service.suspendedMask ||| bit index)
      (service.mem (chanBase index + controlOffset) &&& ~~~0x01) 3
      (Function.update service.tags index
        { service.tags index with isOutstanding := false }) service.slots indexListed listed apart
    rw [unmarked] at written
    simp only [suspend, if_neg off]
    exact written

theorem facet_linkDown (service : Service) (listed : channel ∈ spaceOrder) :
    service.linkDown.facet channel =
      Facet.suspended { service.facet channel with pending := false } := by
  have folded := foldl_parts
    (fun state index indexListed apart =>
      facet_suspend_apart state (mem_channels.mp indexListed) listed apart)
    (fun state _ => facet_suspend_self state listed) channels_nodup
    { service with suspendedMask := 0 }
  rw [if_pos (mem_channels.mpr listed)] at folded
  have cleared : facet { service with suspendedMask := 0 } channel =
      { service.facet channel with pending := false } := by
    simp [facet]
  rw [← cleared, ← folded]
  rfl

theorem facet_restore_self (service : Service) (listed : channel ∈ spaceOrder) :
    (service.restore channel).facet channel = (service.facet channel).restored := by
  have known := (mem_spaceOrder_iff.mp listed).2
  cases waiting : service.suspendedMask.getLsbD channel.toNat with
  | false =>
    simp only [restore, if_pos ((and_bit_eq_zero_iff known).mpr waiting), Facet.restored, facet,
      waiting, Bool.false_eq_true, ↓reduceIte]
  | true =>
    have marked : service.suspendedMask &&& bit channel ≠ 0 := fun none => by
      rw [(and_bit_eq_zero_iff known).mp none] at waiting
      exact Bool.false_ne_true waiting
    have written := facet_written service service.suspendedMask
      (service.mem (chanBase channel + controlOffset) ||| 0x01) 0x21 service.tags service.slots
      listed
    simp only [restore, if_neg marked, Facet.restored]
    rw [written, facet, waiting, if_pos rfl]

theorem facet_restore_apart (service : Service) {index : UInt8} (indexListed : index ∈ spaceOrder)
    (listed : channel ∈ spaceOrder) (apart : index ≠ channel) :
    (service.restore index).facet channel = service.facet channel := by
  by_cases unmarked : service.suspendedMask &&& bit index = 0
  · simp only [restore, if_pos unmarked]
  · simp only [restore, if_neg unmarked]
    exact facet_written_apart service service.suspendedMask
      (service.mem (chanBase index + controlOffset) ||| 0x01) 0x21 service.tags service.slots
      indexListed listed apart

theorem facet_linkUp (service : Service) (listed : channel ∈ spaceOrder) :
    service.linkUp.facet channel = { (service.facet channel).restored with pending := false } := by
  have folded := foldl_parts
    (fun state index indexListed apart =>
      facet_restore_apart state (mem_channels.mp indexListed) listed apart)
    (fun state _ => facet_restore_self state listed) channels_nodup service
  rw [if_pos (mem_channels.mpr listed)] at folded
  by_cases empty : service.suspendedMask = 0
  · have unmarked : (service.facet channel).pending = false := by simp [facet, empty]
    simp only [linkUp, if_pos empty, Facet.restored, unmarked, Bool.false_eq_true, ↓reduceIte]
    rw [← unmarked]
  · simp only [linkUp, if_neg empty]
    rw [← folded]
    simp [facet]

theorem controlWrite_mem (service : Service) (newCtrl : UInt8) {base address : Nat}
    (notControl : address ≠ base + controlOffset) (notStatus : address ≠ base + statusOffset)
    (notConfig : address ≠ configStatusOffset) :
    (service.controlWrite base newCtrl).mem address = service.mem address := by
  simp only [controlWrite]
  rw [Function.update_of_ne notStatus]
  split
  · rw [Function.update_of_ne notConfig, Function.update_of_ne notControl]
  · rw [Function.update_of_ne notControl]

theorem headerByte_ne_configStatus (offset : Nat) (listed : channel ∈ spaceOrder) :
    chanBase channel + offset ≠ configStatusOffset := by
  have behind := (chanBase_within listed).1
  simp only [baseSize] at behind
  simp only [configStatusOffset]
  omega

theorem getLsbD_clear (mask : BitVec 32) {other : UInt8} (known : channel ≤ maxChannels)
    (otherKnown : other ≤ maxChannels) :
    (mask &&& ~~~bit channel).getLsbD other.toNat =
      (mask.getLsbD other.toNat && !decide (channel = other)) := by
  have small : other.toNat < 32 :=
    Nat.lt_of_le_of_lt (UInt8.le_iff_toNat_le.mp otherKnown) (by decide)
  rw [BitVec.getLsbD_and, BitVec.getLsbD_not, getLsbD_bit known, decide_eq_true small,
    Bool.true_and]

theorem facet_controlWrite_self (service : Service) (newCtrl : UInt8)
    (listed : channel ∈ spaceOrder)
    (named : (service.facet channel).number = channel) :
    (service.controlWrite (chanBase channel) newCtrl).facet channel =
      (service.facet channel).controlled newCtrl := by
  have known := (mem_spaceOrder_iff.mp listed).2
  have number := service.controlWrite_mem newCtrl
    (@headerByte_ne channel channel 1 controlOffset listed listed (by decide) (by decide)
      (.inr (by decide)))
    (@headerByte_ne channel channel 1 statusOffset listed listed (by decide) (by decide)
      (.inr (by decide)))
    (headerByte_ne_configStatus 1 listed)
  have apart : chanBase channel + controlOffset ≠ chanBase channel + statusOffset :=
    headerByte_ne listed listed (by decide) (by decide) (.inr (by decide))
  have control : (service.controlWrite (chanBase channel) newCtrl).mem
      (chanBase channel + controlOffset) = newCtrl &&& 0x01 := by
    simp only [controlWrite]
    rw [Function.update_of_ne apart]
    split
    · rw [Function.update_of_ne (headerByte_ne_configStatus controlOffset listed),
        Function.update_self]
    · rw [Function.update_self]
  have status : (service.controlWrite (chanBase channel) newCtrl).mem
      (chanBase channel + statusOffset) =
        statusAfter (service.mem (chanBase channel + statusOffset)) newCtrl :=
    Function.update_self _ _ _
  have mask : (service.controlWrite (chanBase channel) newCtrl).suspendedMask =
      service.suspendedMask &&& ~~~bit channel := by
    simp only [facet] at named
    simp only [controlWrite, named]
  have cleared := getLsbD_clear service.suspendedMask known known
  rw [decide_eq_true rfl, Bool.not_true, Bool.and_false] at cleared
  simp only [facet, Facet.controlled, number, control, status, mask, cleared]

theorem facet_controlWrite_apart (service : Service) (newCtrl : UInt8) {other : UInt8}
    (listed : channel ∈ spaceOrder) (otherListed : other ∈ spaceOrder)
    (named : (service.facet channel).number = channel) (apart : channel ≠ other) :
    (service.controlWrite (chanBase channel) newCtrl).facet other = service.facet other := by
  have kept : ∀ offset < configDataOffset,
      (service.controlWrite (chanBase channel) newCtrl).mem (chanBase other + offset) =
        service.mem (chanBase other + offset) := fun offset inside =>
    service.controlWrite_mem newCtrl
      (headerByte_ne otherListed listed inside (by decide) (.inl (Ne.symm apart)))
      (headerByte_ne otherListed listed inside (by decide) (.inl (Ne.symm apart)))
      (headerByte_ne_configStatus offset otherListed)
  have mask : (service.controlWrite (chanBase channel) newCtrl).suspendedMask =
      service.suspendedMask &&& ~~~bit channel := by
    simp only [facet] at named
    simp only [controlWrite, named]
  have same := getLsbD_clear service.suspendedMask (mem_spaceOrder_iff.mp listed).2
    (mem_spaceOrder_iff.mp otherListed).2
  rw [decide_eq_false apart, Bool.not_false, Bool.and_true] at same
  simp only [facet, kept 1 (by decide), kept controlOffset (by decide),
    kept statusOffset (by decide), mask, same]

theorem presentMask_linkDown (service : Service) :
    service.linkDown.presentMask = service.presentMask := by
  refine foldl_kept presentMask (fun service channel _ => ?_) { service with suspendedMask := 0 }
  simp only [suspend]
  split <;> rfl

theorem presentMask_linkUp (service : Service) :
    service.linkUp.presentMask = service.presentMask := by
  simp only [linkUp]
  split
  · rfl
  · refine foldl_kept presentMask (fun service channel _ => ?_) service
    simp only [restore]
    split <;> rfl

theorem facet_init (config : PlatConfig) (listed : channel ∈ spaceOrder) :
    ((init config).facet channel).Healthy ∧ ((init config).facet channel).enabled = false ∧
      ((init config).facet channel).pending = false ∧
      ((init config).present channel = true →
        ((init config).facet channel).number = channel) := by
  have started := started_init config listed
  have pending : ((init config).facet channel).pending = false := by simp [facet, init]
  cases here : (init config).present channel with
  | false =>
    have zero := started.absent here
    obtain ⟨healthy, off⟩ := ((init config).facet channel).healthy_of_zero
      (zero controlOffset (by decide)) (.inl (zero statusOffset (by decide)))
    exact ⟨healthy, off, pending, fun impossible => absurd impossible (by decide)⟩
  | true =>
    obtain ⟨size, header, -⟩ := started.filled here
    obtain ⟨healthy, off⟩ := ((init config).facet channel).healthy_of_zero
      header.control (.inr header.status)
    exact ⟨healthy, off, pending, fun _ => header.number⟩

end Service

/-! ## Runs of the link -/

/-- What happens to the channels, but for a bus reset. -/
inductive LinkEvent where
  /-- `obmf_link_down_work` runs. -/
  | down
  /-- `obmf_link_up_work` runs. -/
  | up
  /-- The host writes `CHANNEL_CONTROL` of a channel. -/
  | control (channel newCtrl : UInt8)
deriving DecidableEq

/-- The service, and what was last asked of it. -/
structure Watched where
  service : Service
  /-- Whether the last `CHANNEL_CONTROL` write of the host to a channel enabled it. -/
  wanted : UInt8 → Bool
  raised : UInt8 → Bool
  isDown : Bool

namespace Watched

def init (config : PlatConfig) : Watched := ⟨.init config, fun _ => false, fun _ => false, false⟩

/-- An event. A control write reaches the channels that are present. -/
def step (watched : Watched) : LinkEvent → Option Watched
  | .down =>
    some { watched with
      service := watched.service.linkDown
      raised := fun _ => false
      isDown := true }
  | .up => some { watched with service := watched.service.linkUp, isDown := false }
  | .control channel newCtrl =>
    if channel ∈ spaceOrder ∧ watched.service.present channel then
      some { watched with
        service := watched.service.controlWrite (chanBase channel) newCtrl
        wanted := Function.update watched.wanted channel (newCtrl &&& 0x01 ≠ 0)
        raised := Function.update watched.raised channel (newCtrl &&& 0x01 ≠ 0) }
    else none

/-- The channels agree with what was asked of them. -/
structure Agrees (watched : Watched) : Prop where
  restored : watched.isDown = false →
    ∀ channel ∈ channels, watched.service.isEnabled channel = watched.wanted channel
  held : watched.isDown = true →
    ∀ channel ∈ channels, watched.service.isEnabled channel = true → watched.raised channel = true
  health : ∀ channel ∈ channels,
    watched.service.health channel = Service.healthReady ↔ watched.service.isEnabled channel = true

/-- The condition: the link goes down with no channel suspended. -/
def NotSuspended (watched : Watched) (event : LinkEvent) : Prop :=
  event = .down → watched.service.suspendedMask = 0

instance (watched : Watched) (event : LinkEvent) : Decidable (NotSuspended watched event) :=
  inferInstanceAs (Decidable (_ → _))

/-- What holds in every state of such a run. -/
structure Invariant (watched : Watched) : Prop where
  tracked : ∀ channel ∈ spaceOrder, (watched.service.facet channel).Tracked
    (watched.wanted channel) (watched.raised channel) watched.isDown
  named : ∀ channel ∈ spaceOrder, watched.service.present channel = true →
    (watched.service.facet channel).number = channel

theorem invariant_init (config : PlatConfig) : (init config).Invariant where
  tracked := fun channel listed => by
    obtain ⟨healthy, off, settled, -⟩ := Service.facet_init config listed
    exact ⟨healthy, fun _ => ⟨off, settled⟩, fun down => absurd down Bool.false_ne_true⟩
  named := fun channel listed => (Service.facet_init config listed).2.2.2

theorem Invariant.of_facets {before after : Watched} (holds : before.Invariant)
    (present : after.service.presentMask = before.service.presentMask)
    (tracked : ∀ channel ∈ spaceOrder, (after.service.facet channel).Tracked
      (after.wanted channel) (after.raised channel) after.isDown)
    (number : ∀ channel ∈ spaceOrder,
      (after.service.facet channel).number = (before.service.facet channel).number) :
    after.Invariant where
  tracked := tracked
  named := fun channel listed here => by
    rw [number channel listed]
    refine holds.named channel listed ?_
    rw [Service.present, ← present]
    exact here

/-- A change of the link with no channel suspended keeps the invariant. -/
theorem invariant_step {watched next : Watched} {event : LinkEvent} (holds : watched.Invariant)
    (guarded : NotSuspended watched event) (moved : watched.step event = some next) :
    next.Invariant := by
  cases event with
  | down =>
    cases moved
    have none := guarded rfl
    refine holds.of_facets watched.service.presentMask_linkDown (fun channel listed => ?_)
        (fun channel listed => ?_)
    · have settled : (watched.service.facet channel).pending = false := by
        simp [Service.facet, none]
      have same : { watched.service.facet channel with pending := false } =
          watched.service.facet channel := by
        rw [← settled]
      simp only [Service.facet_linkDown _ listed, same]
      exact (holds.tracked channel listed).suspended settled
    · rw [Service.facet_linkDown _ listed]
      simp
  | up =>
    cases moved
    refine holds.of_facets watched.service.presentMask_linkUp (fun channel listed => ?_)
      (fun channel listed => ?_)
    · simp only [Service.facet_linkUp _ listed]
      exact (holds.tracked channel listed).restored
    · rw [Service.facet_linkUp _ listed]
      simp
  | control channel newCtrl =>
    simp only [step, Option.ite_none_right_eq_some] at moved
    obtain ⟨⟨listed, here⟩, moved⟩ := moved
    cases moved
    have named := holds.named channel listed here
    refine holds.of_facets rfl (fun other otherListed => ?_) (fun other otherListed => ?_)
    · by_cases own : channel = other
      · subst own
        simp only [Service.facet_controlWrite_self _ newCtrl listed named, Function.update_self]
        exact (holds.tracked channel listed).controlled newCtrl
      · simp only [Service.facet_controlWrite_apart _ newCtrl listed otherListed named own,
          Function.update_of_ne (Ne.symm own)]
        exact holds.tracked other otherListed
    · by_cases own : channel = other
      · subst own
        rw [Service.facet_controlWrite_self _ newCtrl listed named]
        rfl
      · rw [Service.facet_controlWrite_apart _ newCtrl listed otherListed named own]

theorem Invariant.agrees {watched : Watched} (holds : watched.Invariant) : watched.Agrees := by
  have seen : ∀ channel ∈ channels, watched.service.isEnabled channel =
      (watched.service.facet channel).enabled := by
    intro channel listed
    simp only [Service.isEnabled, chanCfgHdr, if_pos (mem_channels.mp listed), Option.isSome_some,
      Bool.true_and]
    rfl
  refine ⟨fun up channel listed => ?_, fun down channel listed on => ?_, fun channel listed => ?_⟩
  · rw [seen channel listed]
    exact ((holds.tracked channel (mem_channels.mp listed)).up up).1
  · rw [seen channel listed] at on
    exact ((holds.tracked channel (mem_channels.mp listed)).down down).2 on
  · rw [seen channel listed]
    exact (holds.tracked channel (mem_channels.mp listed)).healthy.agrees

/-- Along every run in which no change of the link meets a suspended channel, the mask and the link
agree. -/
theorem agrees_run (config : PlatConfig) {final : Watched} {events : List LinkEvent}
    (meets : Meets step NotSuspended (init config) events)
    (ran : run step (init config) events = some final) : final.Agrees :=
  (invariant invariant_step (invariant_init config) meets ran).agrees

def mmioOnly : PlatConfig where
  deviceName := []
  vendorId := 0
  deviceId := 0
  channels := [⟨1, none, fun _ => 0, fun _ _ _ => rfl⟩]

/-- Two suspends with a resume after each, of a channel that the host enabled. -/
theorem agrees_run_resumed :
    ∃ final ∈ run step (init mmioOnly) [.control 1 1, .down, .up, .down, .up],
      final.Agrees ∧ final.service.isEnabled 1 = true := by
  obtain ⟨final, ran, enabled⟩ :
      ∃ final ∈ run step (init mmioOnly) [.control 1 1, .down, .up, .down, .up],
        final.service.isEnabled 1 = true := by decide +kernel
  exact ⟨final, ran, agrees_run mmioOnly (by decide +kernel) ran, enabled⟩

/-- Two suspends in a row: the second forgets the channel that the first took down, and the resume
leaves it disabled. -/
theorem agrees_fails :
    ¬ ∀ (config : PlatConfig) (events : List LinkEvent) (final : Watched),
      run step (init config) events = some final → final.Agrees := by
  intro always
  obtain ⟨final, ran, up, disabled, wanted⟩ :
      ∃ final ∈ run step (init mmioOnly) [.control 1 1, .down, .down, .up],
        final.isDown = false ∧ final.service.isEnabled 1 = false ∧ final.wanted 1 = true := by
    decide +kernel
  have restored := (always mmioOnly _ final ran).restored up 1 (by decide +kernel)
  rw [disabled, wanted] at restored
  cases restored

end Watched

end OpenBic.Obmf
