import Mathlib
import OpenBic.Library.Machine
import OpenBic.Library.Ring

/-!
# The moving averages of the power

The rings of `plat_adc.c` of the Rainbow board, into which the polling handler puts the samples of
the converters or of the VRs, and the over-power status that it makes of their averages. The values
with a point are exact here.
-/

namespace OpenBic.SbRb.Adc

open List Library Library.Machine Library.Ring

/-! ## The levels -/

def adcAvergeTimesMin : Nat := 1

def adcAvergeTimesMax : Nat := 1000

/-- `adc_info_t`. -/
structure AdcInfo where
  avgTimes : Nat
  buf : Nat → UInt16
  bufIdx : Nat
  avgVal : Nat
  sum : Nat
  ucr : UInt16
  vrVoltageBuf : Nat → UInt16
  pwrAvgVal : Rat
  vrSum : Rat
  ucrStatus : Bool

/-- A conversion to eight bits. Out of their range it is undefined; the target's keeps the low bits,
and gives zero for a negative value. -/
def toUint8 (value : Rat) : UInt8 := UInt8.ofNat value.floor.toNat

def toUint16 (value : Rat) : UInt16 := UInt16.ofNat value.floor.toNat

def floatVoltageTransferToUint16 (voltage : Rat) : UInt16 :=
  let upper := toUint8 (voltage * 100)
  let lowerRaw := toUint16 (voltage * 10000 - upper.toNat * 100)
  let lower := (lowerRaw &&& 0xff).toUInt8
  upper.toUInt16 <<< 8 ||| lower.toUInt16

def uint16VoltageTransferToFloat (packed : UInt16) : Rat :=
  let upper := (packed >>> 8 &&& 0xff).toUInt8
  let lower := (packed &&& 0xff).toUInt8
  upper.toNat / 100 + lower.toNat / 10000

/-- `adc_raw_v_to_apms` with the reference voltage of both converters. -/
def adcRawVToApms (mps : Bool) (v : Nat) : Rat :=
  let voltage : Rat := v / 65535 * (25 / 10)
  if mps then 1000 * voltage * (796 / 1000) else 1000 * voltage * (797 / 1000)

def AdcInfo.reset (info : AdcInfo) : AdcInfo :=
  { info with
    sum := 0, bufIdx := 0, avgVal := 0, vrSum := 0, pwrAvgVal := 0
    buf := fun _ => 0, vrVoltageBuf := fun _ => 0 }

def AdcInfo.addSample (info : AdcInfo) (raw : UInt16) : AdcInfo :=
  let without := (info.sum + 2 ^ 32 - (info.buf info.bufIdx).toNat) % 2 ^ 32
  let sum := (without + raw.toNat) % 2 ^ 32
  { info with
    buf := Function.update info.buf info.bufIdx raw
    sum
    avgVal := sum / info.avgTimes % 2 ^ 16 }

def AdcInfo.addVoltage (info : AdcInfo) (mps : Bool) (voltage : Rat) : AdcInfo :=
  let packed := floatVoltageTransferToUint16 voltage
  let vrSum := info.vrSum - uint16VoltageTransferToFloat (info.vrVoltageBuf info.bufIdx) +
    uint16VoltageTransferToFloat packed
  { info with
    vrVoltageBuf := Function.update info.vrVoltageBuf info.bufIdx packed
    vrSum
    pwrAvgVal := vrSum / info.avgTimes * adcRawVToApms mps info.avgVal }

def AdcInfo.advance (info : AdcInfo) (ucrStatus : Bool) : AdcInfo :=
  { info with bufIdx := (info.bufIdx + 1) % info.avgTimes, ucrStatus }

/-- What `update_adc_info` does to a level. -/
def AdcInfo.updateAdc (mps : Bool) (raw : UInt16) (voltage : Rat) (info : AdcInfo) : AdcInfo :=
  let info := (info.addSample raw).addVoltage mps voltage
  info.advance (info.ucr.toNat ≤ info.pwrAvgVal)

/-- What `update_vr_base_power_info` does to a level. -/
def AdcInfo.updateVr (val : UInt16) (info : AdcInfo) : AdcInfo :=
  let info := info.addSample val
  info.advance (info.ucr.toNat ≤ info.avgVal)

def vrVal (reading : Int) : UInt16 := UInt16.ofInt ((reading + 500).tdiv 1000)

/-! ## The handler -/

/-- `CAPPING_SOURCE`. -/
inductive Source where
  | vr
  | adc
deriving DecidableEq

/-- The two chips, each with a converter. -/
inductive Medha where
  | medha0
  | medha1
deriving DecidableEq

local instance index_neZero : NeZero 4 := ⟨by decide⟩

/-- The indices at which `update_adc_info` comes by. -/
def Medha.levels : Medha → List (Fin 4)
  | .medha0 => [0, 2]
  | .medha1 => [1, 3]

/-- The polling handler waits for the transfer from a converter. -/
inductive Handler where
  | idle
  | reading (medha : Medha)
deriving DecidableEq

/-- The levels, the status, and where the polling handler is. -/
structure State where
  info : Fin 4 → AdcInfo
  finalUcrStatus : UInt8
  source : Source
  adcPollFlag : Bool
  handler : Handler

def bit (index : Fin 4) : UInt8 := 1 <<< (7 - UInt8.ofNat index)

def State.updateLevel (update : Fin 4 → AdcInfo → AdcInfo) (state : State) (index : Fin 4) :
    State :=
  let info := update index (state.info index)
  { state with
    info := Function.update state.info index info
    finalUcrStatus :=
      if info.ucrStatus then state.finalUcrStatus ||| bit index
      else state.finalUcrStatus &&& ~~~ bit index }

/-- `update_adc_info`, of one converter. -/
def State.updateAdcInfo (mps : Bool) (medha : Medha) (raw : UInt16) (reading : Int)
    (state : State) : State :=
  medha.levels.foldl (State.updateLevel fun _ info => info.updateAdc mps raw (reading / 1000)) state

def valOf (medha0 medha1 : Int) (index : Fin 4) : UInt16 :=
  vrVal (if index = 0 ∨ index = 2 then medha0 else medha1)

def State.updateVrBasePowerInfo (medha0 medha1 : Int) (state : State) : State :=
  [0, 1, 2, 3].foldl
    (State.updateLevel fun index info => info.updateVr (valOf medha0 medha1 index)) state

/-- `adc_poll_init`: the rings, not the status. -/
def State.adcPollInit (state : State) : State :=
  { state with info := fun index => (state.info index).reset }

def Handler.onward : Medha → Handler
  | .medha0 => .reading .medha1
  | .medha1 => .idle

/-- What can happen. The readings are the cached ones of the sensors, one for a sample of a converter,
which the code reads once for each of its levels. -/
inductive Event where
  | look
  | adc (medha : Medha) (raw : UInt16) (reading : Int)
  | failed
  | vr (medha0 medha1 : Int)
  | setAvergeTimes (index : Fin 4) (time : Nat)
  | setPowerCappingSource (source : Source)
  | setPollFlag (onoff : Bool)

/-- A window length in its range. -/
def Valid (time : Nat) : Prop := adcAvergeTimesMin ≤ time ∧ time ≤ adcAvergeTimesMax

instance (time : Nat) : Decidable (Valid time) := instDecidableAnd

def step (mps : Bool) (state : State) : Event → Option State
  | .look =>
    if state.handler = .idle ∧ state.source = .adc ∧ state.adcPollFlag = true then
      some { state with handler := .reading .medha0 }
    else none
  | .adc medha raw reading =>
    if state.handler = .reading medha then
      some { state.updateAdcInfo mps medha raw reading with handler := .onward medha }
    else none
  | .failed =>
    match state.handler with
    | .idle => none
    | .reading medha => some { state with handler := .onward medha }
  | .vr medha0 medha1 =>
    if state.handler = .idle ∧ state.source = .vr then
      some (state.updateVrBasePowerInfo medha0 medha1)
    else none
  | .setAvergeTimes index time =>
    if Valid time then
      let info := { state.info index with avgTimes := time }
      some { state with info := Function.update state.info index info }.adcPollInit
    else some state
  | .setPowerCappingSource source => some { state with source }.adcPollInit
  | .setPollFlag onoff =>
    let state := { state with adcPollFlag := onoff }
    some (if onoff then state else state.adcPollInit)

def avgTimesOf : Fin 4 → Nat
  | 0 => 20
  | 1 => 60
  | 2 => 600
  | 3 => 800

/-- The state behind `plat_power_capping_init`, with the thresholds of the levels. -/
def start (ucr : Fin 4 → UInt16) : State where
  info index := ⟨avgTimesOf index, fun _ => 0, 0, 0, 0, ucr index, fun _ => 0, 0, 0, false⟩
  finalUcrStatus := 0
  source := .vr
  adcPollFlag := true
  handler := .idle

/-! ## What is claimed -/

/-- A sample, with the source that it came from. -/
structure Sample where
  source : Source
  value : UInt16

def Event.resets : Event → Bool
  | .setAvergeTimes _ time => Valid time
  | .setPowerCappingSource _ => true
  | .setPollFlag onoff => !onoff
  | _ => false

def record (index : Fin 4) (samples : List Sample) (event : Event) : List Sample :=
  match event with
  | .adc medha raw _ => if index ∈ medha.levels then samples ++ [⟨.adc, raw⟩] else samples
  | .vr medha0 medha1 => samples ++ [⟨.vr, valOf medha0 medha1 index⟩]
  | event => if event.resets then [] else samples

def samplesOf (index : Fin 4) (past : List Event) : List Sample := past.foldl (record index) []

def AdcInfo.average (info : AdcInfo) : Source → Rat
  | .vr => info.avgVal
  | .adc => info.pwrAvgVal

def State.average (state : State) (index : Fin 4) : Rat := (state.info index).average state.source

/-- The bit of a level is set. -/
def State.Over (state : State) (index : Fin 4) : Prop := state.finalUcrStatus &&& bit index ≠ 0

instance (state : State) (index : Fin 4) : Decidable (state.Over index) := instDecidableNot

/-- A voltage is packed within 0.0001 V. -/
def Event.Packed : Event → Prop
  | .adc _ _ reading =>
    let voltage : Rat := reading / 1000
    |uint16VoltageTransferToFloat (floatVoltageTransferToUint16 voltage) - voltage| < 1 / 10000
  | _ => True

/-- What is claimed of a level, but for its status before the first sample. The sums as natural
numbers have not wrapped. -/
structure LevelRight (state : State) (index : Fin 4) (samples : List Sample) : Prop where
  inside : (state.info index).bufIdx < (state.info index).avgTimes
  times : Valid (state.info index).avgTimes
  sum : (state.info index).sum =
    ∑ slot ∈ Finset.range adcAvergeTimesMax, ((state.info index).buf slot).toNat
  vrSum : (state.info index).vrSum = ∑ slot ∈ Finset.range adcAvergeTimesMax,
    uint16VoltageTransferToFloat ((state.info index).vrVoltageBuf slot)
  average : (state.info index).avgVal = ((latest (state.info index).avgTimes samples).map
    fun sample => sample.value.toNat).sum / (state.info index).avgTimes
  alike : ∀ first ∈ samples, ∀ second ∈ samples, first.source = second.source
  status : samples ≠ [] →
    (state.Over index ↔ (state.info index).ucr.toNat ≤ state.average index)

/-- What is claimed of the averages. -/
def AveragesRight (past : List Event) (state : State) : Prop :=
  (∀ index, LevelRight state index (samplesOf index past)) ∧ ∀ event ∈ past, event.Packed

/-- No level is told to be over without an average that has reached its threshold. -/
def StatusRight (past : List Event) (state : State) : Prop :=
  ∀ index, state.Over index ↔
    samplesOf index past ≠ [] ∧ (state.info index).ucr.toNat ≤ state.average index

/-- A sample of a converter comes while its source is still chosen, with a voltage that two bytes
have room for. -/
def Sampled (state : State) : Event → Prop
  | .adc _ _ reading => state.source = .adc ∧ 0 ≤ reading ∧ reading < 2560
  | _ => True

/-- The condition on an event. -/
def Guarded (state : State) (event : Event) : Prop :=
  Sampled state event ∧ (event.resets = true → ∀ index, ¬ state.Over index)

instance (state : State) : ∀ event, Decidable (Sampled state event)
  | .adc _ _ _ => instDecidableAnd
  | .look | .failed | .vr _ _ | .setAvergeTimes _ _ | .setPowerCappingSource _ | .setPollFlag _ =>
    .isTrue trivial

instance (state : State) (event : Event) : Decidable (Guarded state event) := instDecidableAnd

/-! ## The packed voltage -/

theorem packed_eq (upper lower : UInt8) :
    (upper.toUInt16 <<< 8 ||| lower.toUInt16).toNat = 256 * upper.toNat + lower.toNat := by
  have high := upper.toNat_lt
  have low := lower.toNat_lt
  change (upper.toNat <<< 8 % 2 ^ 16) ||| lower.toNat = _
  rw [Nat.shiftLeft_eq, Nat.mod_eq_of_lt (by omega), ← Nat.shiftLeft_eq,
    ← Nat.shiftLeft_add_eq_or_of_lt low, Nat.shiftLeft_eq]
  omega

theorem transferToFloat_packed (upper lower : UInt8) :
    uint16VoltageTransferToFloat (upper.toUInt16 <<< 8 ||| lower.toUInt16) =
      upper.toNat / 100 + lower.toNat / 10000 := by
  have whole := packed_eq upper lower
  have high := upper.toNat_lt
  have low := lower.toNat_lt
  unfold uint16VoltageTransferToFloat
  generalize upper.toUInt16 <<< 8 ||| lower.toUInt16 = packed at whole ⊢
  have front : (packed >>> 8 &&& 0xff).toUInt8.toNat = upper.toNat := by
    change (packed.toNat >>> 8 &&& 2 ^ 8 - 1) % 2 ^ 8 = _
    rw [Nat.and_two_pow_sub_one_eq_mod, Nat.shiftRight_eq_div_pow]
    omega
  have back : (packed &&& 0xff).toUInt8.toNat = lower.toNat := by
    change (packed.toNat &&& 2 ^ 8 - 1) % 2 ^ 8 = _
    rw [Nat.and_two_pow_sub_one_eq_mod]
    omega
  dsimp only
  rw [front, back]

theorem toUint8_near {value : Rat} (positive : 0 ≤ value) (small : value < 256) :
    ((toUint8 value).toNat : Rat) ≤ value ∧ value < (toUint8 value).toNat + 1 := by
  have least : 0 ≤ value.floor := Int.floor_nonneg.mpr positive
  have most : value.floor < 256 := Int.floor_lt.mpr small
  have floor : ((toUint8 value).toNat : Int) = value.floor := by
    unfold toUint8
    rw [UInt8.toNat_ofNat']
    omega
  have cast : ((toUint8 value).toNat : Rat) = ⌊value⌋ :=
    congrArg (fun whole : Int => (whole : Rat)) floor
  rw [cast]
  exact ⟨Int.floor_le value, Int.lt_floor_add_one value⟩

theorem packed_near {voltage : Rat} (positive : 0 ≤ voltage) (small : voltage < 256 / 100) :
    |uint16VoltageTransferToFloat (floatVoltageTransferToUint16 voltage) - voltage| < 1 / 10000 := by
  obtain ⟨above, below⟩ := @toUint8_near (voltage * 100) (by linarith) (by linarith)
  unfold floatVoltageTransferToUint16
  generalize toUint8 (voltage * 100) = upper at above below ⊢
  set rest := voltage * 10000 - upper.toNat * 100 with made
  have positiveRest : 0 ≤ rest := by linarith
  have smallRest : rest < 100 := by linarith
  have least : 0 ≤ rest.floor := Int.floor_nonneg.mpr positiveRest
  have most : rest.floor < 100 := Int.floor_lt.mpr smallRest
  have lower : (((toUint16 rest &&& 0xff).toUInt8).toNat : Int) = rest.floor := by
    change ((rest.floor.toNat % 2 ^ 16 &&& 2 ^ 8 - 1) % 2 ^ 8 : Nat) = rest.floor
    rw [Nat.and_two_pow_sub_one_eq_mod]
    omega
  have cast : (((toUint16 rest &&& 0xff).toUInt8).toNat : Rat) = ⌊rest⌋ :=
    congrArg (fun whole : Int => (whole : Rat)) lower
  have under := Int.floor_le rest
  have beyond := Int.lt_floor_add_one rest
  rw [transferToFloat_packed, cast, abs_lt]
  constructor
  · linarith
  · linarith

/-! ## The status -/

variable {state next : State} {update : Fin 4 → AdcInfo → AdcInfo}

theorem over_iff (status : UInt8) (index : Fin 4) :
    status &&& bit index ≠ 0 ↔ status.toNat.testBit (7 - index) = true := by
  have all : ∀ byte : Fin 256, ∀ index : Fin 4, UInt8.ofNat byte &&& bit index ≠ 0 ↔
      byte.val.testBit (7 - index) = true := by decide +kernel
  have here := all ⟨status.toNat, status.toNat_lt⟩ index
  rwa [UInt8.ofNat_toNat] at here

theorem over_set (index other : Fin 4) (status : UInt8) :
    (status ||| bit index) &&& bit other ≠ 0 ↔ other = index ∨ status &&& bit other ≠ 0 := by
  have own : ∀ index other : Fin 4, (bit index).toNat.testBit (7 - other) = decide (other = index) :=
    by decide
  rw [over_iff, over_iff, UInt8.toNat_or, Nat.testBit_or, Bool.or_eq_true, own, decide_eq_true_iff,
    or_comm]

theorem over_cleared (index other : Fin 4) (status : UInt8) :
    (status &&& ~~~ bit index) &&& bit other ≠ 0 ↔ other ≠ index ∧ status &&& bit other ≠ 0 := by
  have own : ∀ index other : Fin 4,
      (~~~ bit index).toNat.testBit (7 - other) = decide (other ≠ index) := by decide
  rw [over_iff, over_iff, UInt8.toNat_and, Nat.testBit_and, Bool.and_eq_true, own,
    decide_eq_true_iff, and_comm]

theorem updateLevel_over (index other : Fin 4) : (state.updateLevel update index).Over other ↔
    if other = index then (update index (state.info index)).ucrStatus = true
    else state.Over other := by
  change ite _ _ _ &&& bit other ≠ 0 ↔ _
  by_cases own : other = index
  · split_ifs with reached
    · exact iff_of_true ((over_set index other _).mpr (.inl own)) reached
    · exact iff_of_false (fun told => ((over_cleared index other _).mp told).1 own) reached
  · split_ifs
    · exact (over_set index other _).trans (or_iff_right own)
    · exact (over_cleared index other _).trans (and_iff_right own)

theorem foldl_updateLevel (update : Fin 4 → AdcInfo → AdcInfo) {levels : List (Fin 4)}
    (apart : levels.Nodup) (state : State) (index : Fin 4) :
    let after := levels.foldl (State.updateLevel update) state
    (after.info index = if index ∈ levels then update index (state.info index)
      else state.info index) ∧
    (after.Over index ↔ if index ∈ levels then (update index (state.info index)).ucrStatus = true
      else state.Over index) := by
  induction levels generalizing state with
  | nil => exact ⟨rfl, Iff.rfl⟩
  | cons level rest ih =>
    obtain ⟨info, told⟩ := ih (List.nodup_cons.mp apart).2 (state.updateLevel update level)
    have absent := (List.nodup_cons.mp apart).1
    rw [foldl_cons]
    dsimp only
    by_cases own : index = level
    · subst own
      rw [if_neg absent] at info told
      rw [if_pos mem_cons_self, if_pos mem_cons_self, info, told, updateLevel_over,
        if_pos rfl]
      exact ⟨Function.update_self _ _ _, Iff.rfl⟩
    · have same : (state.updateLevel update level).info index = state.info index :=
        Function.update_of_ne own _ _
      rw [same] at info told
      rw [updateLevel_over, if_neg own] at told
      simp only [mem_cons, own, false_or]
      exact ⟨info, told⟩

/-! ## The rings -/

/-- A level has the samples since the last reset. -/
structure Tracks (info : AdcInfo) (values : List UInt16) : Prop where
  times : Valid info.avgTimes
  index : info.bufIdx = values.length % info.avgTimes
  recent : Recent info.avgTimes values info.buf
  blank : ∀ slot, values.length ≤ slot → info.buf slot = 0
  window : info.sum = ((latest info.avgTimes values).map UInt16.toNat).sum
  sum : info.sum = ∑ slot ∈ Finset.range adcAvergeTimesMax, (info.buf slot).toNat
  average : info.avgVal = info.sum / info.avgTimes
  vrSum : info.vrSum = ∑ slot ∈ Finset.range adcAvergeTimesMax,
    uint16VoltageTransferToFloat (info.vrVoltageBuf slot)

variable {info : AdcInfo} {values : List UInt16}

theorem Tracks.positive (tracks : Tracks info values) : 0 < info.avgTimes := tracks.times.1

theorem Tracks.slot (tracks : Tracks info values) : info.bufIdx < adcAvergeTimesMax := by
  rw [tracks.index]
  exact Nat.lt_of_lt_of_le (Nat.mod_lt _ tracks.positive) tracks.times.2

theorem sum_latest_le (size : Nat) (values : List UInt16) :
    ((latest size values).map UInt16.toNat).sum ≤ size * 65535 := by
  have each : ∀ value ∈ (latest size values).map UInt16.toNat, value ≤ 65535 := by
    intro value listed
    obtain ⟨sample, -, rfl⟩ := List.mem_map.mp listed
    exact Nat.le_of_lt_succ sample.toNat_lt
  have most := sum_le_card_nsmul _ _ each
  rw [length_map] at most
  change _ ≤ _ * 65535 at most
  exact most.trans (Nat.mul_le_mul_right _ (length_latest size values))

theorem toFloat_zero : uint16VoltageTransferToFloat 0 = 0 := by decide +kernel

theorem tracks_reset (times : Valid info.avgTimes) : Tracks info.reset [] where
  times := times
  index := (Nat.zero_mod _).symm
  recent := recent_nil _ _
  blank _ _ := rfl
  window := by
    rw [latest, drop_nil]
    rfl
  sum := (Finset.sum_const_zero).symm
  average := (Nat.zero_div _).symm
  vrSum := by
    change (0 : Rat) = ∑ _ ∈ _, uint16VoltageTransferToFloat 0
    rw [toFloat_zero, Finset.sum_const_zero]

theorem Tracks.addSample (tracks : Tracks info values) (raw : UInt16) :
    (info.addSample raw).sum = ((latest info.avgTimes (values ++ [raw])).map UInt16.toNat).sum ∧
      (info.buf info.bufIdx).toNat + (info.addSample raw).sum = raw.toNat + info.sum := by
  obtain ⟨rest, after, before⟩ := tracks.recent.latest_concat tracks.positive raw
  have bound := sum_latest_le info.avgTimes (values ++ [raw])
  have times : info.avgTimes ≤ 1000 := tracks.times.2
  have whole : info.sum = (info.buf info.bufIdx).toNat + (rest.map UInt16.toNat).sum := by
    rw [tracks.window, tracks.index]
    rcases before with ⟨short, same⟩ | same
    · rw [same, Nat.mod_eq_of_lt short, tracks.blank _ le_rfl]
      exact (Nat.zero_add _).symm
    · rw [same, map_cons, sum_cons]
  rw [after, map_append, sum_append, map_singleton, sum_singleton] at bound ⊢
  change ((info.sum + 2 ^ 32 - _) % 2 ^ 32 + raw.toNat) % 2 ^ 32 = _ ∧
    _ + ((info.sum + 2 ^ 32 - _) % 2 ^ 32 + raw.toNat) % 2 ^ 32 = _
  omega

theorem Tracks.add (tracks : Tracks info values) (raw : UInt16) {after : AdcInfo}
    (times : after.avgTimes = info.avgTimes)
    (index : after.bufIdx = (info.bufIdx + 1) % info.avgTimes)
    (buf : after.buf = (info.addSample raw).buf) (sum : after.sum = (info.addSample raw).sum)
    (average : after.avgVal = (info.addSample raw).avgVal)
    (vrSum : after.vrSum = ∑ slot ∈ Finset.range adcAvergeTimesMax,
      uint16VoltageTransferToFloat (after.vrVoltageBuf slot)) : Tracks after (values ++ [raw]) := by
  obtain ⟨window, exchanged⟩ := tracks.addSample raw
  have wide : values.length % info.avgTimes ≤ values.length := Nat.mod_le _ _
  refine ⟨times ▸ tracks.times, ?_, ?_, ?_, ?_, ?_, ?_, vrSum⟩
  · rw [index, times, tracks.index, length_append, length_singleton, Nat.mod_add_mod]
  · rw [times, buf]
    have put := tracks.recent.put raw
    unfold Ring.put at put
    rw [← tracks.index] at put
    exact put
  · intro slot behind
    rw [length_append, length_singleton] at behind
    rw [buf]
    have apart : slot ≠ info.bufIdx := by
      rw [tracks.index]
      omega
    exact (Function.update_of_ne apart _ _).trans (tracks.blank slot (by omega))
  · rw [times, sum]
    exact window
  · have entries := sum_update UInt16.toNat info.buf tracks.slot raw
    rw [← tracks.sum, ← exchanged] at entries
    rw [sum, buf]
    exact (Nat.add_left_cancel entries).symm
  · have bound := sum_latest_le info.avgTimes (values ++ [raw])
    rw [average, sum, times]
    change (info.addSample raw).sum / info.avgTimes % 2 ^ 16 = _
    rw [← window] at bound
    exact Nat.mod_eq_of_lt (Nat.lt_succ_of_le (Nat.div_le_of_le_mul bound))

theorem Tracks.updateVr (tracks : Tracks info values) (val : UInt16) :
    Tracks (info.updateVr val) (values ++ [val]) := by
  refine tracks.add val rfl rfl rfl rfl rfl ?_
  exact tracks.vrSum

theorem Tracks.updateAdc (tracks : Tracks info values) (mps : Bool) (raw : UInt16)
    (voltage : Rat) : Tracks (info.updateAdc mps raw voltage) (values ++ [raw]) := by
  refine tracks.add raw rfl rfl rfl rfl rfl ?_
  have entries := sum_update uint16VoltageTransferToFloat info.vrVoltageBuf tracks.slot
    (floatVoltageTransferToUint16 voltage)
  rw [← tracks.vrSum] at entries
  have voltages : (info.updateAdc mps raw voltage).vrVoltageBuf = Function.update info.vrVoltageBuf
    info.bufIdx (floatVoltageTransferToUint16 voltage) := rfl
  have sum : (info.updateAdc mps raw voltage).vrSum =
    info.vrSum - uint16VoltageTransferToFloat (info.vrVoltageBuf info.bufIdx) +
      uint16VoltageTransferToFloat (floatVoltageTransferToUint16 voltage) := rfl
  rw [voltages, sum]
  linarith

/-! ## The runs -/

variable {mps : Bool} {strict : Prop} {past : List Event} {event : Event}

theorem samplesOf_concat (index : Fin 4) (past : List Event) (event : Event) :
    samplesOf index (past ++ [event]) = record index (samplesOf index past) event := by
  unfold samplesOf
  rw [foldl_append]
  rfl

/-- What a run keeps, with the strict guard or without. -/
structure Sound (strict : Prop) (past : List Event) (state : State) : Prop where
  tracks : ∀ index, Tracks (state.info index) ((samplesOf index past).map Sample.value)
  alike : ∀ index, ∀ sample ∈ samplesOf index past, sample.source = state.source
  status : ∀ index, samplesOf index past ≠ [] →
    (state.Over index ↔ (state.info index).ucr.toNat ≤ state.average index)
  calm : strict → ∀ index, samplesOf index past = [] → ¬ state.Over index
  packed : ∀ event ∈ past, event.Packed

theorem packed_concat (all : ∀ event ∈ past, event.Packed) (here : event.Packed) :
    ∀ other ∈ past ++ [event], other.Packed := by
  intro other listed
  rcases List.mem_append.mp listed with before | last
  · exact all other before
  · rw [List.mem_singleton.mp last]
    exact here

theorem Sound.right (sound : Sound strict past state) : AveragesRight past state := by
  refine ⟨fun index => ?_, sound.packed⟩
  have tracks := sound.tracks index
  refine ⟨?_, tracks.times, tracks.sum, tracks.vrSum, ?_, ?_, sound.status index⟩
  · rw [tracks.index]
    exact Nat.mod_lt _ tracks.positive
  · rw [tracks.average, tracks.window]
    unfold latest
    rw [length_map, ← map_drop, List.map_map]
    rfl
  · intro first one second two
    exact (sound.alike index first one).trans (sound.alike index second two).symm

theorem Sound.still (sound : Sound strict past state) (none : event.Packed)
    (recorded : ∀ index samples, record index samples event = samples)
    (info : next.info = state.info) (source : next.source = state.source)
    (final : next.finalUcrStatus = state.finalUcrStatus) : Sound strict (past ++ [event]) next := by
  have samples : ∀ index, samplesOf index (past ++ [event]) = samplesOf index past :=
    fun index => (samplesOf_concat index past event).trans (recorded index _)
  have told : ∀ index, next.Over index ↔ state.Over index := by
    intro index
    unfold State.Over
    rw [final]
  refine ⟨?_, ?_, ?_, ?_, packed_concat sound.packed none⟩
  · intro index
    rw [samples, info]
    exact sound.tracks index
  · intro index
    rw [samples, source]
    exact sound.alike index
  · intro index
    rw [samples, told, State.average, info, source]
    exact sound.status index
  · intro strictly index
    rw [samples, told]
    exact sound.calm strictly index

theorem Sound.reset (sound : Sound strict past state) (none : event.Packed)
    (recorded : ∀ index samples, record index samples event = []) (changed : State)
    (times : ∀ index, Valid (changed.info index).avgTimes)
    (quiet : strict → ∀ index, ¬ changed.Over index) :
    Sound strict (past ++ [event]) changed.adcPollInit := by
  have samples : ∀ index, samplesOf index (past ++ [event]) = [] :=
    fun index => (samplesOf_concat index past event).trans (recorded index _)
  refine ⟨?_, ?_, ?_, fun strictly index _ => quiet strictly index,
    packed_concat sound.packed none⟩
  · intro index
    rw [samples]
    exact tracks_reset (times index)
  · intro index
    rw [samples]
    exact nofun
  · intro index some
    exact absurd (samples index) some

/-- A loop puts a sample of the chosen source into some levels. -/
theorem Sound.sampled (sound : Sound strict past state) (here : event.Packed) (levels : List (Fin 4))
    (apart : levels.Nodup) (value : Fin 4 → UInt16) (update : Fin 4 → AdcInfo → AdcInfo)
    (recorded : ∀ index samples, record index samples event =
      if index ∈ levels then samples ++ [⟨state.source, value index⟩] else samples)
    (tracked : ∀ index info values, Tracks info values →
      Tracks (update index info) (values ++ [value index]))
    (status : ∀ index info, (update index info).ucrStatus = true ↔
      (update index info).ucr.toNat ≤ (update index info).average state.source)
    (source : next.source = state.source)
    (info : next.info = (levels.foldl (State.updateLevel update) state).info)
    (final : next.finalUcrStatus = (levels.foldl (State.updateLevel update) state).finalUcrStatus) :
    Sound strict (past ++ [event]) next := by
  have samples := fun index => (samplesOf_concat index past event).trans (recorded index _)
  have updated := foldl_updateLevel update apart state
  have told : ∀ index, next.Over index ↔
      (levels.foldl (State.updateLevel update) state).Over index := by
    intro index
    unfold State.Over
    rw [final]
  refine ⟨?_, ?_, ?_, ?_, packed_concat sound.packed here⟩
  · intro index
    rw [samples, info, (updated index).1]
    split_ifs
    · rw [map_append]
      exact tracked index _ _ (sound.tracks index)
    · exact sound.tracks index
  · intro index sample listed
    rw [samples] at listed
    rw [source]
    split_ifs at listed
    · rcases List.mem_append.mp listed with before | last
      · exact sound.alike index sample before
      · rw [List.mem_singleton.mp last]
    · exact sound.alike index sample listed
  · intro index some
    rw [samples] at some
    rw [told, (updated index).2, State.average, info, (updated index).1, source]
    split_ifs at some ⊢
    · exact status index _
    · exact sound.status index some
  · intro strictly index none
    rw [samples] at none
    rw [told, (updated index).2]
    split_ifs at none ⊢
    · exact absurd none (concat_ne_nil _ _)
    · exact sound.calm strictly index none

/-- An event that meets the conditions keeps the sums and the averages. -/
theorem Sound.step (sound : Sound strict past state) (sampled : Sampled state event)
    (quiet : strict → event.resets = true → ∀ index, ¬ state.Over index)
    (moved : step mps state event = some next) : Sound strict (past ++ [event]) next := by
  cases event with
  | look =>
    simp only [step] at moved
    split_ifs at moved
    cases moved
    exact sound.still trivial (fun _ _ => rfl) rfl rfl rfl
  | failed =>
    simp only [step] at moved
    split at moved
    · cases moved
    · cases moved
      exact sound.still trivial (fun _ _ => rfl) rfl rfl rfl
  | adc medha raw reading =>
    obtain ⟨source, positive, small⟩ := sampled
    simp only [step] at moved
    split_ifs at moved
    cases moved
    have least : (0 : Rat) ≤ reading := by exact_mod_cast positive
    have most : (reading : Rat) < 2560 := by exact_mod_cast small
    refine sound.sampled (packed_near (by linarith) (by linarith)) medha.levels
      (by cases medha <;> decide) (fun _ => raw)
      (fun _ info => info.updateAdc mps raw (reading / 1000)) ?_
      (fun _ _ _ tracks => tracks.updateAdc mps raw _) ?_ (by cases medha <;> rfl) rfl rfl
    · intro index samples
      rw [source]
      rfl
    · intro index info
      rw [source]
      exact decide_eq_true_iff
  | vr medha0 medha1 =>
    simp only [step] at moved
    split_ifs at moved with chosen
    cases moved
    refine sound.sampled trivial [0, 1, 2, 3] (by decide) (valOf medha0 medha1)
      (fun index info => info.updateVr (valOf medha0 medha1 index)) ?_
      (fun _ _ _ tracks => tracks.updateVr _) ?_ rfl rfl rfl
    · intro index samples
      have listed : index ∈ [0, 1, 2, 3] := by revert index; decide
      rw [if_pos listed, chosen.2]
      rfl
    · intro index info
      rw [chosen.2]
      exact decide_eq_true_iff.trans Nat.cast_le.symm
  | setAvergeTimes index time =>
    simp only [step] at moved
    split_ifs at moved with valid
    · cases moved
      refine sound.reset (by trivial) ?_ _ (fun other => ?_) fun strictly =>
        quiet strictly (decide_eq_true valid)
      · exact fun _ _ => if_pos (decide_eq_true valid)
      dsimp only
      by_cases own : other = index
      · rw [own, Function.update_self]
        exact valid
      · rw [Function.update_of_ne own]
        exact (sound.tracks other).times
    · cases moved
      refine sound.still trivial (fun _ _ => if_neg ?_) rfl rfl rfl
      exact fun resets => valid (of_decide_eq_true resets)
  | setPowerCappingSource source =>
    cases moved
    exact sound.reset (by trivial) (fun _ _ => rfl) _ (fun index => (sound.tracks index).times)
      fun strictly => quiet strictly rfl
  | setPollFlag onoff =>
    cases moved
    cases onoff with
    | false =>
      exact sound.reset (by trivial) (fun _ _ => rfl) _ (fun index => (sound.tracks index).times)
        fun strictly => quiet strictly rfl
    | true => exact sound.still trivial (fun _ _ => rfl) rfl rfl rfl

theorem sound_start (ucr : Fin 4 → UInt16) : Sound strict [] (start ucr) where
  tracks index := by
    have times : ∀ index, Valid (avgTimesOf index) := by decide
    exact @tracks_reset ((start ucr).info index) (times index)
  alike _ _ := nofun
  status _ some := absurd rfl some
  calm _ index _ := by
    have clear : ∀ index, ¬ (0 : UInt8) &&& bit index ≠ 0 := by decide
    exact clear index
  packed _ := nofun

/-- In every run in which converters are sampled as the condition says, the averages are right, and
the status of every level that has samples; if no reset comes while a level is over, the status is
right throughout. -/
theorem averagesRight_run (mps : Bool) {ucr : Fin 4 → UInt16} {events : List Event} {final : State}
    (ran : run (step mps) (start ucr) events = some final)
    (meets : Meets (step mps) Sampled (start ucr) events) : AveragesRight events final ∧
      (Meets (step mps) Guarded (start ucr) events → StatusRight events final) := by
  constructor
  · have sound : Sound False events final := meets.history_invariant
      (fun sound sampled moved => Sound.step sound sampled False.elim moved) (sound_start ucr) ran
    exact sound.right
  · intro guarded index
    have sound : Sound True events final := guarded.history_invariant
      (fun sound guarded moved => Sound.step sound guarded.1 (fun _ => guarded.2) moved)
      (sound_start ucr) ran
    by_cases none : samplesOf index events = []
    · exact iff_of_false (sound.calm trivial index none) fun both => both.1 none
    · exact (sound.status index none).trans (and_iff_right none).symm

def initialUcr (index : Fin 4) : UInt16 := if index < 2 then 1600 else 1070

/-- A sample of the VRs, and one of a converter after its source is chosen. -/
def twoSources : List Event :=
  [.vr 850000 910000, .setPowerCappingSource .adc, .look, .adc .medha0 100 850, .failed]

/-- A run over both sources. -/
theorem averagesRight_twoSources : ∃ final,
    run (step true) (start initialUcr) twoSources = some final ∧ AveragesRight twoSources final ∧
      StatusRight twoSources final := by
  have runs : (run (step true) (start initialUcr) twoSources).isSome = true := by decide +kernel
  obtain ⟨final, ran⟩ := Option.isSome_iff_exists.mp runs
  have right := averagesRight_run true ran (by decide +kernel)
  exact ⟨final, ran, right.1, right.2 (by decide +kernel)⟩

def noVoltage : List Event := [.setPowerCappingSource .adc, .look, .adc .medha0 100 (-1)]

/-- A sample taken while the voltage sensor is not available. -/
theorem noVoltage_not_right : ¬ ∀ events final,
    run (step true) (start initialUcr) events = some final →
      AveragesRight events final ∧ StatusRight events final := by
  intro claimed
  have runs : (run (step true) (start initialUcr) noVoltage).isSome = true := by decide +kernel
  obtain ⟨final, ran⟩ := Option.isSome_iff_exists.mp runs
  have near := (claimed noVoltage final ran).1.2 (.adc .medha0 100 (-1)) (by simp [noVoltage])
  exact absurd near (by unfold Event.Packed; decide +kernel)

end OpenBic.SbRb.Adc
