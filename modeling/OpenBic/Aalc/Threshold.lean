import Mathlib.Tactic.SplitIfs
import OpenBic.Library.Machine

/-!
# The thresholds of sensors

An entry of `threshold_tbl` in `plat_threshold.c` of the AALC RPU: what `plat_sensor_poll_post` does
with it at each poll, how its thresholds move, and when its handler is called. Readings are of any
type with a comparison.
-/

namespace OpenBic.Aalc.Threshold

open List Library.Machine

/-! ## An entry -/

inductive ThresholdType where
  | disable
  | enableLcr
  | enableUcr
  | enableBoth
  | enableDiscrete
deriving DecidableEq

def statusNormal : UInt32 := 0

def statusLcr : UInt32 := 1

def statusUcr : UInt32 := 2

def statusNotAccess : UInt32 := 3

/-- `sensor_threshold`, with whether it has a handler. -/
structure SensorThreshold (ν : Type) where
  type : ThresholdType
  lcr : ν
  ucr : ν
  hasFn : Bool
  retry : UInt8
  lastStatus : UInt32
  lastValue : UInt32
  retryCount : UInt8

variable {ν : Type} [LT ν] [DecidableLT ν]

/-- The status that a reading stands for under the thresholds of the entry. -/
def SensorThreshold.classify (entry : SensorThreshold ν) (val : ν) : UInt32 :=
  match entry.type with
  | .enableLcr => if val < entry.lcr then statusLcr else statusNormal
  | .enableUcr => if entry.ucr < val then statusUcr else statusNormal
  | .enableBoth =>
    if val < entry.lcr then statusLcr else if entry.ucr < val then statusUcr else statusNormal
  | .disable | .enableDiscrete => statusNormal

/-- `set_threshold_status`, and whether the status has changed. -/
def SensorThreshold.setThresholdStatus (entry : SensorThreshold ν) (val : ν) :
    SensorThreshold ν × Bool :=
  if entry.lastStatus = entry.classify val then ({ entry with retryCount := 0 }, false)
  else if entry.retryCount + 1 < entry.retry then
    ({ entry with retryCount := entry.retryCount + 1 }, false)
  else ({ entry with retryCount := 0, lastStatus := entry.classify val }, true)

/-- The entry in the loop of `plat_sensor_poll_post`, and whether its handler is due. The two
readings are those of `get_sensor_reading_to_real_val` and of `get_sensor_reading`. -/
def SensorThreshold.poll (entry : SensorThreshold ν) (val : Option ν) (reading : Option UInt32) :
    SensorThreshold ν × Bool :=
  if entry.type = .enableDiscrete then
    match reading with
    | none => (entry, false)
    | some reading =>
      if entry.lastValue = reading then (entry, false)
      else ({ entry with lastStatus := entry.lastValue ^^^ reading, lastValue := reading }, true)
  else match val with
    | none => ({ entry with lastStatus := statusNotAccess }, true)
    | some val => entry.setThresholdStatus val

/-- `yfilter_change_threshold`, with the threshold that the flow asks for. -/
def SensorThreshold.yfilterChangeThreshold (entry : SensorThreshold ν) (ucr : ν) :
    SensorThreshold ν := { entry with ucr }

/-- `pump_change_threshold`, with the thresholds that the duty asks for. -/
def SensorThreshold.pumpChangeThreshold (entry : SensorThreshold ν) (debug : Bool) (lcr ucr : ν) :
    SensorThreshold ν :=
  if entry.lastStatus ≠ statusNormal ∨ debug = true then entry else { entry with lcr, ucr }

/-! ## Runs -/

/-- What can happen to an entry of the table. -/
inductive Event (ν : Type) where
  | poll (val : Option ν) (reading : Option UInt32)
  | yfilterChangeThreshold (ucr : ν)
  | pumpChangeThreshold (debug : Bool) (lcr ucr : ν)
  /-- The status is put to normal: by `set_threshold_status_to_normal`, or by a handler. -/
  | toNormal

/-- The entry, with what its polls have found, the last one first: the status that each reading
stood for when it was read, and the readings of a discrete sensor. -/
structure State (ν : Type) where
  entry : SensorThreshold ν
  polls : List (Option UInt32)
  readings : List UInt32

def State.next (state : State ν) : Event ν → State ν × Option UInt32
  | .poll val reading =>
    let polled := state.entry.poll val reading
    (⟨polled.1, val.map state.entry.classify :: state.polls, reading.toList ++ state.readings⟩,
      if polled.2 && polled.1.hasFn then some polled.1.lastStatus else none)
  | .yfilterChangeThreshold ucr =>
    ({ state with entry := state.entry.yfilterChangeThreshold ucr }, none)
  | .pumpChangeThreshold debug lcr ucr =>
    ({ state with entry := state.entry.pumpChangeThreshold debug lcr ucr }, none)
  | .toNormal => ({ state with entry := { state.entry with lastStatus := statusNormal } }, none)

def step (state : State ν) (event : Event ν) : Option (State ν) := some (state.next event).1

def start (type : ThresholdType) (lcr ucr : ν) (hasFn : Bool) (retry : UInt8) : State ν :=
  ⟨⟨type, lcr, ucr, hasFn, retry, statusNormal, 0, 0⟩, [], []⟩

/-- A new status is that of the last polls, so many as the entry has retries, or an access has
failed. -/
def Becomes (state next : State ν) : Prop :=
  next.entry.lastStatus ≠ state.entry.lastStatus →
    next.polls.length = state.polls.length + 1 ∧
      if next.entry.lastStatus = statusNotAccess then next.polls.head? = some none
      else next.polls.take next.entry.retry.toNat =
        List.replicate next.entry.retry.toNat (some next.entry.lastStatus)

/-- The handler is called with the new status exactly if the status changes; that of a discrete
sensor with the bits in which its reading changes, exactly if it does. -/
def Told (state next : State ν) (call : Option UInt32) : Prop :=
  state.entry.hasFn = true → call =
    if state.entry.type = .enableDiscrete then
      if next.readings.headD 0 = state.readings.headD 0 then none
      else some (state.readings.headD 0 ^^^ next.readings.headD 0)
    else if next.entry.lastStatus = state.entry.lastStatus then none
    else some next.entry.lastStatus

/-- The status follows the polls, and its changes are told. -/
def StatusRight (state : State ν) (event : Event ν) : Prop :=
  (state.entry.type ≠ .enableDiscrete → Becomes state (state.next event).1) ∧
    Told state (state.next event).1 (state.next event).2

/-- While deviations are counted, the next one is the same as the poll before it; an access that
has failed does not fail again for an entry with a handler; and the status is not put to normal
from outside. -/
def Guarded (state : State ν) (event : Event ν) : Prop :=
  state.entry.type ≠ .enableDiscrete → match event with
    | .poll (some val) _ => state.entry.lastStatus = state.entry.classify val ∨
        state.entry.retryCount = 0 ∨ state.polls.head? = some (some (state.entry.classify val))
    | .poll none _ => state.entry.hasFn = true → state.entry.lastStatus ≠ statusNotAccess
    | .toNormal => state.entry.lastStatus = statusNormal
    | _ => True

/-! ## What a step keeps -/

/-- The latest polls agree, as many as are counted. -/
def Counts (count : Nat) (polls : List (Option UInt32)) : Prop :=
  ∀ status, polls.head? = some (some status) →
    polls.take count = List.replicate count (some status)

/-- What every step keeps. -/
structure Sound (state : State ν) : Prop where
  below : state.entry.retryCount.toNat = 0 ∨
    state.entry.retryCount.toNat < state.entry.retry.toNat
  counts : state.entry.type ≠ .enableDiscrete →
    Counts state.entry.retryCount.toNat state.polls
  value : state.entry.type = .enableDiscrete → state.entry.lastValue = state.readings.headD 0

theorem counts_zero (polls : List (Option UInt32)) : Counts 0 polls := fun _ _ => rfl

theorem Counts.cons {count : Nat} {polls : List (Option UInt32)} {status : UInt32}
    (counts : Counts count polls) (same : count = 0 ∨ polls.head? = some (some status)) :
    (some status :: polls).take (count + 1) = List.replicate (count + 1) (some status) := by
  rw [take_succ_cons, replicate_succ]
  rcases same with rfl | head
  · rfl
  · rw [counts status head]

theorem classify_ne_notAccess (entry : SensorThreshold ν) (val : ν) :
    entry.classify val ≠ statusNotAccess := by
  unfold SensorThreshold.classify
  cases entry.type with
  | disable => exact (by decide : statusNormal ≠ statusNotAccess)
  | enableDiscrete => exact (by decide : statusNormal ≠ statusNotAccess)
  | enableLcr =>
    split_ifs <;> decide
  | enableUcr =>
    split_ifs <;> decide
  | enableBoth =>
    split_ifs <;> decide

omit [LT ν] [DecidableLT ν] in
theorem told_none {state next : State ν} (plain : state.entry.type ≠ .enableDiscrete)
    (same : next.entry.lastStatus = state.entry.lastStatus) : Told state next none := by
  intro _
  rw [if_neg plain, if_pos same]

variable {state : State ν}

theorem Sound.pollDiscrete (sound : Sound state) (discrete : state.entry.type = .enableDiscrete)
    (val : Option ν) (reading : Option UInt32) :
    Sound (state.next (.poll val reading)).1 ∧ StatusRight state (.poll val reading) := by
  have value := sound.value discrete
  unfold StatusRight Told State.next SensorThreshold.poll
  simp only [discrete, ne_eq, not_true_eq_false, false_implies, true_and, if_true]
  cases reading with
  | none => exact ⟨⟨sound.below, fun plain => absurd discrete plain, sound.value⟩, fun _ => by simp⟩
  | some reading =>
    by_cases same : state.entry.lastValue = reading
    · simp only [if_pos same]
      refine ⟨⟨sound.below, fun plain => absurd discrete plain, fun _ => same⟩, fun _ => ?_⟩
      rw [← value, same]
      simp
    · simp only [if_neg same]
      refine ⟨⟨sound.below, fun plain => absurd rfl plain, fun _ => rfl⟩, fun hasFn => ?_⟩
      rw [← value]
      simp [hasFn, Ne.symm same]

theorem Sound.pollFailed (sound : Sound state) (plain : state.entry.type ≠ .enableDiscrete)
    {reading : Option UInt32} (guarded : Guarded state (.poll none reading)) :
    Sound (state.next (.poll none reading)).1 ∧ StatusRight state (.poll none reading) := by
  have other := guarded plain
  unfold StatusRight Becomes Told State.next SensorThreshold.poll
  simp only [if_neg plain]
  refine ⟨⟨sound.below, fun _ _ => nofun, fun discrete => absurd discrete plain⟩,
    fun _ _ => ⟨rfl, rfl⟩, fun hasFn => ?_⟩
  rw [if_neg (Ne.symm (other hasFn)), hasFn]
  rfl

/-- A reading, counted or not. -/
theorem Sound.pollRead (sound : Sound state) (plain : state.entry.type ≠ .enableDiscrete)
    {val : ν} {reading : Option UInt32} (guarded : Guarded state (.poll (some val) reading)) :
    Sound (state.next (.poll (some val) reading)).1 ∧
      StatusRight state (.poll (some val) reading) := by
  have counts := sound.counts plain
  unfold StatusRight State.next SensorThreshold.poll SensorThreshold.setThresholdStatus
  simp only [if_neg plain]
  by_cases same : state.entry.lastStatus = state.entry.classify val
  · simp only [if_pos same]
    exact ⟨⟨.inl rfl, fun _ => counts_zero _, fun discrete => absurd discrete plain⟩,
      fun _ changed => absurd rfl changed, told_none plain rfl⟩
  · have alike : state.entry.retryCount.toNat = 0 ∨
        state.polls.head? = some (some (state.entry.classify val)) := by
      rcases guarded plain with equal | none | alike
      · exact absurd equal same
      · exact .inl (by rw [none]; rfl)
      · exact .inr alike
    have counted := counts.cons alike
    have few : state.entry.retryCount.toNat + 1 < 256 := by
      have fits := state.entry.retry.toNat_lt
      rcases sound.below with zero | below <;> omega
    have onward : (state.entry.retryCount + 1).toNat = state.entry.retryCount.toNat + 1 := by
      exact Nat.mod_eq_of_lt few
    by_cases below : state.entry.retryCount + 1 < state.entry.retry
    · simp only [if_neg same, if_pos below]
      refine ⟨⟨.inr (UInt8.lt_iff_toNat_lt.mp below), fun _ status head => ?_,
        fun discrete => absurd discrete plain⟩, fun _ changed => absurd rfl changed,
        told_none plain rfl⟩
      obtain rfl : state.entry.classify val = status :=
        Option.some.inj (Option.some.inj head)
      rw [onward]
      exact counted
    · simp only [if_neg same, if_neg below]
      refine ⟨⟨.inl rfl, fun _ => counts_zero _, fun discrete => absurd discrete plain⟩,
        fun _ _ => ⟨rfl, ?_⟩, fun hasFn => ?_⟩
      · rw [if_neg (classify_ne_notAccess _ _)]
        have enough : state.entry.retry.toNat ≤ state.entry.retryCount.toNat + 1 := by
          rw [← onward]
          exact Nat.not_lt.mp fun less => below (UInt8.lt_iff_toNat_lt.mpr less)
        have front := congrArg (List.take state.entry.retry.toNat) counted
        rw [take_take, take_replicate, Nat.min_eq_left enough] at front
        exact front
      · rw [if_neg plain, if_neg (Ne.symm same), hasFn]
        rfl

theorem Sound.next {event : Event ν} (sound : Sound state) (guarded : Guarded state event) :
    Sound (state.next event).1 ∧ StatusRight state event := by
  have quiet : ∀ {entry : SensorThreshold ν}, entry.type = state.entry.type →
      entry.lastStatus = state.entry.lastStatus → entry.lastValue = state.entry.lastValue →
        entry.retry = state.entry.retry → entry.retryCount = state.entry.retryCount →
          Sound { state with entry } ∧ (state.entry.type ≠ .enableDiscrete →
            Becomes state { state with entry }) ∧ Told state { state with entry } none := by
    intro entry type status value retry count
    refine ⟨⟨?_, ?_, ?_⟩, fun _ changed => absurd status changed, fun _ => ?_⟩
    · rw [count, retry]
      exact sound.below
    · rw [type, count]
      exact sound.counts
    · rw [type, value]
      exact sound.value
    · rw [if_pos status, if_pos rfl, ite_self]
  cases event with
  | poll val reading =>
    by_cases discrete : state.entry.type = .enableDiscrete
    · exact sound.pollDiscrete discrete val reading
    · cases val with
      | none => exact sound.pollFailed discrete guarded
      | some val => exact sound.pollRead discrete guarded
  | yfilterChangeThreshold ucr => exact quiet rfl rfl rfl rfl rfl
  | pumpChangeThreshold debug lcr ucr =>
    have same : state.entry.pumpChangeThreshold debug lcr ucr = state.entry ∨
        state.entry.pumpChangeThreshold debug lcr ucr = { state.entry with lcr, ucr } := by
      unfold SensorThreshold.pumpChangeThreshold
      split_ifs
      · exact .inl rfl
      · exact .inr rfl
    rcases same with same | same
    · exact quiet (by rw [same]) (by rw [same]) (by rw [same]) (by rw [same]) (by rw [same])
    · exact quiet (by rw [same]) (by rw [same]) (by rw [same]) (by rw [same]) (by rw [same])
  | toNormal =>
    by_cases discrete : state.entry.type = .enableDiscrete
    · refine ⟨⟨sound.below, fun plain => absurd discrete plain, sound.value⟩,
        fun plain => absurd discrete plain, fun _ => ?_⟩
      exact ((if_pos discrete).trans (if_pos rfl)).symm
    · exact quiet rfl (guarded discrete).symm rfl rfl rfl

/-! ## Runs -/

/-- Where the guard is met, each new status is that of the last polls and is told once. -/
theorem statusRight_run {type : ThresholdType} {lcr ucr : ν} {hasFn : Bool} {retry : UInt8}
    {events : List (Event ν)} {final : State ν}
    (meets : Meets step Guarded (start type lcr ucr hasFn retry) events)
    (ran : run step (start type lcr ucr hasFn retry) events = some final) :
    Meets step StatusRight (start type lcr ucr hasFn retry) events := by
  have initial : Sound (start type lcr ucr hasFn retry) :=
    ⟨.inl rfl, fun _ => counts_zero _, fun _ => rfl⟩
  refine Meets.of_invariant ?_ (fun sound guarded _ => (sound.next guarded).2) initial meets ran
  intro state event next sound guarded moved
  rw [← Option.some.inj moved]
  exact (sound.next guarded).1

/-- Two low readings in a row make the status of an entry with two retries low. -/
theorem statusRight_twoLow :
    Meets step StatusRight (start .enableBoth 10 20 true 2)
      [Event.poll (some 5) none, .poll (some 4) none] := by
  refine statusRight_run ?_ rfl
  exact ⟨fun _ => .inr (.inl rfl), fun _ => .inr (.inr rfl), trivial⟩

/-- A low reading and a high one after it make the status high. -/
theorem lowAndHigh_not_statusRight :
    ¬ Meets step StatusRight (start .enableBoth 10 20 true 2)
      [Event.poll (some 5) none, .poll (some 25) none] := by
  rintro ⟨_, right, _⟩
  exact absurd (right.1 (by decide) (by decide)).2 (by decide)

end OpenBic.Aalc.Threshold
