import Mathlib.Data.Rat.Floor
import Mathlib.Tactic.Linarith
import OpenBic.Library.Machine

/-!
# The fan and pump speed control of the AALC RPU

`calculateStepwise`, `calculatePID`, `zone_init` and the loop of `fsc_thread_handler` from
`plat_fsc.c`. Readings and the terms of the control are rational numbers; duties are computed in the
widths of the source. What a conversion of a number out of the range of its type gives is left open.
-/

namespace OpenBic.Aalc.Fsc

open List Option Library.Machine

/-! ## The code -/

def sensorNumSbHexAirInletAvgTempC : Nat := 0xC6

def sensorNumBpbRpuCoolantFlowRateLpm : Nat := 0x6D

def fscTempInvalid : ℚ := 0x8000

/-- What conversions give outside the range of the type. -/
structure Casts where
  uint8 : ℚ → Fin 256
  int16 : ℚ → Int

def Casts.toUint8 (casts : Casts) (value : ℚ) : Nat :=
  if -1 < value ∧ value < 256 then ⌊value⌋.toNat else casts.uint8 value

def Casts.toInt16 (casts : Casts) (value : ℚ) : Int :=
  if -32769 < value ∧ value < 32768 then if 0 ≤ value then ⌊value⌋ else ⌈value⌉
  else casts.int16 value

/-- `stepwise_dict`: up to this temperature, this duty. -/
structure StepwiseDict where
  temp : ℚ
  duty : Nat

/-- `stepwise_cfg`. -/
structure Stepwise where
  sensorNum : Nat
  step : List StepwiseDict
  posHyst : Nat
  negHyst : Nat
  lastTemp : ℚ

/-- `pid_cfg`. -/
structure Pid where
  sensorNum : Nat
  setpoint : ℚ
  kp : ℚ
  ki : ℚ
  kd : ℚ
  iLimitMin : Int
  iLimitMax : Int
  posHyst : Nat
  negHyst : Nat
  integral : ℚ
  lastError : ℚ
  lastTemp : ℚ

/-- Limits and slew rates in percent. -/
structure Limits where
  outLimitMin : Nat
  outLimitMax : Nat
  slewNeg : Nat
  slewPos : Nat
  min_le : outLimitMin ≤ 100
  max_le : outLimitMax ≤ 100
  neg_le : slewNeg ≤ 100
  pos_le : slewPos ≤ 100

/-- `zone_cfg`, and what `set_duty` was called with. -/
structure Zone where
  swTbl : Option (List Stepwise)
  pidTbl : Option (List Pid)
  limits : Limits
  interval : Nat
  hasSetDuty : Bool
  fscPollCount : Nat
  lastDuty : Nat
  isInit : Bool
  commanded : Option Nat

/-- What the sensors of the two tables of a zone read, where they can be read. -/
structure Readings where
  stepwise : Nat → Option ℚ
  pid : Nat → Option ℚ

def assumed (reading : Option ℚ) : ℚ := reading.getD 100

def hysteresis (posHyst negHyst : Nat) (lastTemp temp : ℚ) : ℚ :=
  if posHyst ≠ 0 ∨ negHyst ≠ 0 then
    if lastTemp = fscTempInvalid then temp
    else if (posHyst : ℚ) < temp - lastTemp then temp
    else if (negHyst : ℚ) < lastTemp - temp then temp
    else lastTemp
  else temp

def dutyOf (temp : ℚ) : List StepwiseDict → Option Nat → Nat
  | [], _ => 100
  | entry :: rest, previous =>
    if entry.temp = 0 then previous.getD 100
    else if temp ≤ entry.temp then entry.duty
    else dutyOf temp rest (some entry.duty)

def Stepwise.read (stepwise : Stepwise) (reading : Option ℚ) : Stepwise :=
  { stepwise with
    lastTemp := hysteresis stepwise.posHyst stepwise.negHyst stepwise.lastTemp (assumed reading) }

/-- The duty of the ambient sensor, and the largest one of the others. -/
def addDuty (duties : Nat × Nat) (stepwise : Stepwise) : Nat × Nat :=
  if stepwise.sensorNum = sensorNumSbHexAirInletAvgTempC then
    (dutyOf stepwise.lastTemp stepwise.step none, duties.2)
  else (duties.1, max duties.2 (dutyOf stepwise.lastTemp stepwise.step none))

def readStepwise (table : List Stepwise) (readings : Nat → Option ℚ) : List Stepwise :=
  table.mapIdx fun index stepwise => stepwise.read (readings index)

/-- `calculateStepwise`, with a duty of 0 where the table is empty. -/
def calculateStepwise (table : List Stepwise) (readings : Nat → Option ℚ) :
    Nat × List Stepwise :=
  let read := readStepwise table readings
  let duties := read.foldl addDuty (0, 0)
  ((duties.1 + duties.2) % 2 ^ 8, read)

/-- The temperature that a control uses; that of the pumps is truncated. -/
def Casts.controlled (casts : Casts) (truncates : Bool) (reading : Option ℚ) : ℚ :=
  if truncates then casts.toInt16 (assumed reading) else assumed reading

def Pid.iterm (pid : Pid) (error : ℚ) : ℚ :=
  if pid.integral + pid.ki * error ≤ pid.iLimitMin then pid.iLimitMin
  else min (pid.integral + pid.ki * error) pid.iLimitMax

def Pid.output (pid : Pid) (temp : ℚ) : ℚ :=
  pid.kp * (pid.setpoint - temp) + pid.iterm (pid.setpoint - temp) +
    pid.kd * (pid.setpoint - temp - pid.lastError)

def Pid.read (pid : Pid) (temp : ℚ) : Pid :=
  { pid with
    lastTemp := hysteresis pid.posHyst pid.negHyst pid.lastTemp temp
    integral := pid.iterm (pid.setpoint - temp)
    lastError := pid.setpoint - temp }

def truncates (table : List Pid) : Bool :=
  table.head?.any fun pid => pid.sensorNum = sensorNumBpbRpuCoolantFlowRateLpm

def pidOutputs (casts : Casts) (table : List Pid) (readings : Nat → Option ℚ) : List ℚ :=
  table.mapIdx fun index pid => pid.output (casts.controlled (truncates table) (readings index))

def calculatePID (casts : Casts) (table : List Pid) (readings : Nat → Option ℚ) :
    Nat × List Pid :=
  (((pidOutputs casts table readings).map casts.toUint8).foldl max 0,
    table.mapIdx fun index pid => pid.read (casts.controlled (truncates table) (readings index)))

def Zone.demanded (casts : Casts) (zone : Zone) (readings : Readings) : Nat :=
  ((zone.swTbl.elim 0 fun table => (calculateStepwise table readings.stepwise).1) +
    zone.pidTbl.elim 0 fun table => (calculatePID casts table readings.pid).1) % 2 ^ 16

def Zone.duty (casts : Casts) (zone : Zone) (readings : Readings) : Nat :=
  let duty := zone.demanded casts readings
  let minOut := (((zone.lastDuty : Int) - zone.limits.slewNeg) % 2 ^ 8).toNat
  let duty :=
    if zone.isInit = true ∧ zone.limits.slewNeg ≠ 0 ∧ duty < minOut then minOut else duty
  let maxOut := (zone.lastDuty + zone.limits.slewPos) % 2 ^ 8
  let duty :=
    if zone.isInit = true ∧ zone.limits.slewPos ≠ 0 ∧ maxOut < duty then maxOut else duty
  if duty ≤ zone.limits.outLimitMin then zone.limits.outLimitMin
  else min duty zone.limits.outLimitMax

def fixedDuty : Nat := 70

def Zone.poll (casts : Casts) (fscTblEnable : Bool) (zone : Zone) (readings : Readings) : Zone :=
  if (zone.fscPollCount + 1) % 2 ^ 16 < zone.interval then
    { zone with fscPollCount := (zone.fscPollCount + 1) % 2 ^ 16 }
  else
    { zone with
      fscPollCount := 0
      swTbl := zone.swTbl.map fun table => (calculateStepwise table readings.stepwise).2
      pidTbl := zone.pidTbl.map fun table => (calculatePID casts table readings.pid).2
      lastDuty := zone.duty casts readings
      isInit := true
      commanded :=
        if zone.hasSetDuty then
          some (if fscTblEnable then zone.duty casts readings else fixedDuty)
        else zone.commanded }

/-- A zone in `zone_init`. -/
def Zone.init (zone : Zone) : Zone :=
  { zone with
    isInit := false
    swTbl := zone.swTbl.map fun table =>
      table.map fun stepwise => { stepwise with lastTemp := fscTempInvalid }
    pidTbl := zone.pidTbl.map fun table =>
      table.map fun pid => { pid with integral := 0, lastError := 0, lastTemp := fscTempInvalid }
    fscPollCount := 0
    lastDuty := 0 }

/-- The thread of `FSC_DEVICE`: its two switches and its zones. -/
structure Thread where
  fscPollFlag : Bool
  fscTblEnable : Bool
  zones : List Zone

/-- A round of the loop of `fsc_thread_handler`. -/
def Thread.round (casts : Casts) (thread : Thread) (readings : Nat → Readings) : Thread :=
  if thread.fscPollFlag = false then thread
  else { thread with
    zones := thread.zones.mapIdx fun index zone =>
      zone.poll casts thread.fscTblEnable (readings index) }

/-- `controlFSC`; to enable is to start every zone anew. -/
def Thread.controlFSC (thread : Thread) (enable : Bool) : Thread :=
  { thread with
    fscPollFlag := enable
    zones := if enable then thread.zones.map Zone.init else thread.zones }

def fscInit (zones : List Zone) : Thread :=
  { fscPollFlag := true, fscTblEnable := true, zones := zones.map Zone.init }

/-! ## What is claimed -/

/-- What happens. -/
inductive Op where
  | round (readings : Nat → Readings)
  | control (enable : Bool)

def step (casts : Casts) (thread : Thread) : Op → Option Thread
  | .round readings => some (thread.round casts readings)
  | .control enable => some (thread.controlFSC enable)

def exactStepwise (table : List Stepwise) (readings : Nat → Option ℚ) : Nat :=
  ((readStepwise table readings).foldl addDuty (0, 0)).1 +
    ((readStepwise table readings).foldl addDuty (0, 0)).2

/-- The demand of the control without a width, which is not below 0. -/
def exactPid (casts : Casts) (table : List Pid) (readings : Nat → Option ℚ) : Nat :=
  ((pidOutputs casts table readings).map fun output => ⌊output⌋.toNat).foldl max 0

def Zone.demand (casts : Casts) (zone : Zone) (readings : Readings) : Nat :=
  (zone.swTbl.elim 0 fun table => exactStepwise table readings.stepwise) +
    zone.pidTbl.elim 0 fun table => exactPid casts table readings.pid

def Zone.limited (zone : Zone) (demand : Nat) : Int :=
  let slowed := if zone.isInit = true ∧ zone.limits.slewNeg ≠ 0 then
    max (demand : Int) (zone.lastDuty - zone.limits.slewNeg) else demand
  let raised := if zone.isInit = true ∧ zone.limits.slewPos ≠ 0 then
    min slowed (zone.lastDuty + zone.limits.slewPos) else slowed
  max (zone.limits.outLimitMin : Int) (min raised zone.limits.outLimitMax)

/-- The condition on a zone and its readings: the limits are in order, the duties of the stepwise
table add up to a byte at most, the outputs of the control are in the range of a byte, and the last
duty can be lowered by the slew rate. -/
structure NoWrap (casts : Casts) (zone : Zone) (readings : Readings) : Prop where
  limits : zone.limits.outLimitMin ≤ zone.limits.outLimitMax
  stepwise : ∀ table, zone.swTbl = some table → exactStepwise table readings.stepwise < 2 ^ 8
  pid : ∀ table, zone.pidTbl = some table →
    ∀ output ∈ pidOutputs casts table readings.pid, -1 < output ∧ output < 256
  slew : zone.isInit = true → zone.limits.slewNeg ≤ zone.lastDuty

/-- The duties rise and are percentages. -/
def Stepwise.Ordered (stepwise : Stepwise) : Prop :=
  (stepwise.step.map StepwiseDict.duty).Pairwise (· ≤ ·) ∧
    ∀ entry ∈ stepwise.step, entry.duty ≤ 100

/-- Other readings, of which no one is hotter, and with the same demand of the control. -/
structure Cooler (casts : Casts) (zone : Zone) (other readings : Readings) : Prop where
  ordered : ∀ table, zone.swTbl = some table → ∀ stepwise ∈ table, stepwise.Ordered
  stepwise : ∀ index, assumed (other.stepwise index) ≤ assumed (readings.stepwise index)
  pid : ∀ table, zone.pidTbl = some table →
    exactPid casts table other.pid = exactPid casts table readings.pid

/-- What is right in a polled period. -/
structure PeriodRight (casts : Casts) (zone : Zone) (readings : Readings) (next : Zone) : Prop where
  within : zone.limits.outLimitMin ≤ next.lastDuty ∧ next.lastDuty ≤ zone.limits.outLimitMax
  up : zone.isInit = true → zone.limits.slewPos ≠ 0 →
    next.lastDuty ≤ max (zone.lastDuty + zone.limits.slewPos) zone.limits.outLimitMin
  down : zone.isInit = true → zone.limits.slewNeg ≠ 0 →
    min zone.lastDuty (zone.limits.outLimitMax + zone.limits.slewNeg) ≤
      next.lastDuty + zone.limits.slewNeg
  exact : (next.lastDuty : Int) = zone.limited (zone.demand casts readings)
  lower : ∀ other, NoWrap casts zone other → zone.demand casts other ≤ zone.demand casts readings →
    zone.duty casts other ≤ next.lastDuty
  cooler : ∀ other, NoWrap casts zone other → Cooler casts zone other readings →
    zone.duty casts other ≤ next.lastDuty
  set : zone.hasSetDuty = true → next.commanded = some next.lastDuty

/-- A zone is polled in the next round. -/
def Thread.Polls (thread : Thread) (index : Nat) (zone : Zone) : Prop :=
  thread.fscPollFlag = true ∧ thread.zones[index]? = some zone ∧
    zone.interval ≤ (zone.fscPollCount + 1) % 2 ^ 16

/-- What is claimed: every zone that a round polls has its period right. -/
def Right (casts : Casts) (thread : Thread) : Op → Prop
  | .round readings => ∀ index zone, thread.Polls index zone →
    ∃ next, (thread.round casts readings).zones[index]? = some next ∧
      PeriodRight casts zone (readings index) next
  | _ => True

/-- The condition: no value wraps in a zone that is polled. -/
def Guarded (casts : Casts) (thread : Thread) : Op → Prop
  | .round readings => ∀ index zone, thread.Polls index zone →
    NoWrap casts zone (readings index)
  | _ => True

/-! ## Demands -/

theorem hysteresis_le (posHyst negHyst : Nat) (lastTemp : ℚ) {cool hot : ℚ} (cooler : cool ≤ hot) :
    hysteresis posHyst negHyst lastTemp cool ≤ hysteresis posHyst negHyst lastTemp hot := by
  unfold hysteresis
  split_ifs <;> linarith

theorem le_dutyOf {least : Nat} (temp : ℚ) {entries : List StepwiseDict} {previous : Nat}
    (before : least ≤ previous) (full : least ≤ 100)
    (all : ∀ entry ∈ entries, least ≤ entry.duty) :
    least ≤ dutyOf temp entries (some previous) := by
  induction entries generalizing previous with
  | nil => exact full
  | cons entry rest ih =>
    have here : least ≤ entry.duty := all entry mem_cons_self
    have onward := ih here fun entry there => all entry (mem_cons_of_mem _ there)
    unfold dutyOf
    split_ifs
    · exact before
    · exact here
    · exact onward

theorem dutyOf_le {cool hot : ℚ} (cooler : cool ≤ hot) {entries : List StepwiseDict}
    (ordered : (entries.map StepwiseDict.duty).Pairwise (· ≤ ·))
    (full : ∀ entry ∈ entries, entry.duty ≤ 100) (previous : Option Nat) :
    dutyOf cool entries previous ≤ dutyOf hot entries previous := by
  induction entries generalizing previous with
  | nil => exact le_rfl
  | cons entry rest ih =>
    rw [map_cons, pairwise_cons] at ordered
    have above : ∀ later ∈ rest, entry.duty ≤ later.duty := fun later there =>
      ordered.1 later.duty (List.mem_map_of_mem there)
    have onward := ih ordered.2 (fun later there => full later (mem_cons_of_mem _ there))
      (some entry.duty)
    have least := le_dutyOf hot (Nat.le_refl entry.duty) (full entry mem_cons_self) above
    unfold dutyOf
    by_cases ends : entry.temp = 0
    · rw [if_pos ends, if_pos ends]
    · rw [if_neg ends, if_neg ends]
      by_cases coolHere : cool ≤ entry.temp
      · by_cases hotHere : hot ≤ entry.temp
        · rw [if_pos coolHere, if_pos hotHere]
        · rw [if_pos coolHere, if_neg hotHere]
          exact least
      · rw [if_neg coolHere, if_neg fun hotHere => coolHere (cooler.trans hotHere)]
        exact onward

theorem readStepwise_cons (stepwise : Stepwise) (table : List Stepwise)
    (readings : Nat → Option ℚ) : readStepwise (stepwise :: table) readings =
      stepwise.read (readings 0) :: readStepwise table fun index => readings (index + 1) :=
  mapIdx_cons

theorem foldl_addDuty_le {table : List Stepwise} {other readings : Nat → Option ℚ}
    {first second : Nat × Nat} (ordered : ∀ stepwise ∈ table, stepwise.Ordered)
    (cooler : ∀ index, assumed (other index) ≤ assumed (readings index)) (before : first ≤ second) :
    (readStepwise table other).foldl addDuty first ≤
      (readStepwise table readings).foldl addDuty second := by
  induction table generalizing other readings first second with
  | nil => exact before
  | cons stepwise rest ih =>
    rw [readStepwise_cons, readStepwise_cons, foldl_cons, foldl_cons]
    refine ih (fun later there => ordered later (mem_cons_of_mem _ there))
      (fun index => cooler (index + 1)) ?_
    have orderedHere := ordered stepwise mem_cons_self
    have temps := hysteresis_le stepwise.posHyst stepwise.negHyst stepwise.lastTemp (cooler 0)
    have duties := dutyOf_le temps orderedHere.1 orderedHere.2 none
    unfold addDuty Stepwise.read
    split_ifs
    · exact Prod.mk_le_mk.mpr ⟨duties, before.2⟩
    · exact Prod.mk_le_mk.mpr ⟨before.1, max_le_max before.2 duties⟩

variable {casts : Casts} {zone : Zone} {readings : Readings}

theorem demand_le_of_cooler {other readings : Readings}
    (cooler : Cooler casts zone other readings) :
    zone.demand casts other ≤ zone.demand casts readings := by
  refine Nat.add_le_add ?_ ?_
  · cases present : zone.swTbl with
    | none => exact le_rfl
    | some table =>
      have duties := foldl_addDuty_le (cooler.ordered table present) cooler.stepwise
        (le_refl ((0, 0) : Nat × Nat))
      exact Nat.add_le_add duties.1 duties.2
  · cases present : zone.pidTbl with
    | none => exact le_rfl
    | some table => exact (cooler.pid table present).le

theorem foldl_max_lt {bound : Nat} {values : List Nat} (all : ∀ value ∈ values, value < bound)
    {start : Nat} (small : start < bound) : values.foldl max start < bound := by
  induction values generalizing start with
  | nil => exact small
  | cons value rest ih =>
    exact ih (fun later there => all later (mem_cons_of_mem _ there))
      (max_lt small (all value mem_cons_self))

/-- Where nothing wraps the sum is that of the exact demands. -/
theorem demanded_eq (noWrap : NoWrap casts zone readings) :
    zone.demanded casts readings = zone.demand casts readings := by
  have stepwise : (zone.swTbl.elim 0 fun table => (calculateStepwise table readings.stepwise).1) =
      zone.swTbl.elim 0 fun table => exactStepwise table readings.stepwise := by
    cases present : zone.swTbl with
    | none => rfl
    | some table => exact Nat.mod_eq_of_lt (noWrap.stepwise table present)
  have stepwiseLt : (zone.swTbl.elim 0 fun table => exactStepwise table readings.stepwise) <
      2 ^ 8 := by
    cases present : zone.swTbl with
    | none => exact Nat.two_pow_pos 8
    | some table => exact noWrap.stepwise table present
  have pid : ∀ table, zone.pidTbl = some table →
      (calculatePID casts table readings.pid).1 = exactPid casts table readings.pid ∧
        exactPid casts table readings.pid < 2 ^ 8 := by
    intro table present
    have inside := noWrap.pid table present
    constructor
    · have same : (pidOutputs casts table readings.pid).map casts.toUint8 =
          (pidOutputs casts table readings.pid).map fun output => ⌊output⌋.toNat :=
        map_congr_left fun output there => if_pos (inside output there)
      unfold calculatePID exactPid
      rw [same]
    · refine foldl_max_lt (fun value there => ?_) (Nat.two_pow_pos 8)
      obtain ⟨output, listed, rfl⟩ := List.mem_map.mp there
      have below : ⌊output⌋ < 256 := Int.floor_lt.mpr (by exact_mod_cast (inside output listed).2)
      omega
  unfold Zone.demanded Zone.demand
  rw [stepwise]
  cases present : zone.pidTbl with
  | none => exact Nat.mod_eq_of_lt (by simp only [elim_none]; omega)
  | some table =>
    have both := pid table present
    simp only [elim_some]
    rw [both.1]
    exact Nat.mod_eq_of_lt (by omega)

/-! ## Duties -/

theorem limited_mono (zone : Zone) {low high : Nat} (le : low ≤ high) :
    zone.limited low ≤ zone.limited high := by
  unfold Zone.limited
  dsimp only
  split_ifs <;> omega

theorem duty_eq (noWrap : NoWrap casts zone readings) (last : zone.lastDuty ≤ 100) :
    (zone.duty casts readings : Int) = zone.limited (zone.demand casts readings) := by
  have pos := zone.limits.pos_le
  have slew := noWrap.slew
  have limits := noWrap.limits
  unfold Zone.duty Zone.limited
  rw [demanded_eq noWrap]
  generalize zone.demand casts readings = demand
  cases init : zone.isInit with
  | false =>
    simp only [Bool.false_eq_true, false_and, if_false]
    split_ifs <;> omega
  | true =>
    have low : (((zone.lastDuty : Int) - zone.limits.slewNeg) % 2 ^ 8).toNat =
        zone.lastDuty - zone.limits.slewNeg := by
      have enough := slew init
      omega
    simp only [true_and]
    split_ifs <;> omega

theorem duty_le (casts : Casts) (zone : Zone) (readings : Readings) :
    zone.duty casts readings ≤ 100 := by
  have low := zone.limits.min_le
  have high := zone.limits.max_le
  unfold Zone.duty
  dsimp only
  split_ifs <;> omega

theorem limited_within (zone : Zone) (demand : Nat)
    (limits : zone.limits.outLimitMin ≤ zone.limits.outLimitMax) :
    (zone.limits.outLimitMin : Int) ≤ zone.limited demand ∧
      zone.limited demand ≤ zone.limits.outLimitMax := by
  unfold Zone.limited
  dsimp only
  omega

/-- A polled period in which nothing wraps is right. -/
theorem poll_right (noWrap : NoWrap casts zone readings) (last : zone.lastDuty ≤ 100)
    (polls : zone.interval ≤ (zone.fscPollCount + 1) % 2 ^ 16) :
    PeriodRight casts zone readings (zone.poll casts true readings) := by
  have polled : (zone.poll casts true readings).lastDuty = zone.duty casts readings := by
    unfold Zone.poll
    rw [if_neg (Nat.not_lt.mpr polls)]
  have exact := duty_eq noWrap last
  have within := limited_within zone (zone.demand casts readings) noWrap.limits
  have monotone : ∀ other, NoWrap casts zone other →
      zone.demand casts other ≤ zone.demand casts readings →
      zone.duty casts other ≤ zone.duty casts readings := by
    intro other otherNoWrap le
    have mono := limited_mono zone le
    rw [← duty_eq otherNoWrap last, ← exact] at mono
    exact_mod_cast mono
  refine ⟨?_, fun init slews => ?_, fun init slews => ?_, ?_, fun other otherNoWrap le => ?_,
    fun other otherNoWrap cooler => ?_, fun has => ?_⟩
  · omega
  · unfold Zone.limited at exact
    rw [init] at exact
    simp only [true_and, if_pos slews] at exact
    omega
  · unfold Zone.limited at exact
    rw [init] at exact
    simp only [true_and, if_pos slews] at exact
    split_ifs at exact <;> omega
  · rw [polled]
    exact exact
  · rw [polled]
    exact monotone other otherNoWrap le
  · rw [polled]
    exact monotone other otherNoWrap (demand_le_of_cooler cooler)
  · unfold Zone.poll
    rw [if_neg (Nat.not_lt.mpr polls), has]
    rfl

/-! ## Runs -/

/-- What every round keeps. -/
structure Sound (thread : Thread) : Prop where
  enabled : thread.fscTblEnable = true
  duties : ∀ zone ∈ thread.zones, zone.lastDuty ≤ 100

theorem step_sound {thread next : Thread} {op : Op} (sound : Sound thread)
    (_ : Guarded casts thread op) (moved : step casts thread op = some next) : Sound next := by
  cases op with
  | round readings =>
    cases moved
    unfold Thread.round
    split_ifs
    · exact sound
    · refine ⟨sound.enabled, fun zone there => ?_⟩
      obtain ⟨index, inside, rfl⟩ := List.mem_mapIdx.mp there
      have before := sound.duties _ (getElem_mem inside)
      unfold Zone.poll
      by_cases waits : (thread.zones[index].fscPollCount + 1) % 2 ^ 16 <
          thread.zones[index].interval
      · rw [if_pos waits]
        exact before
      · rw [if_neg waits]
        exact duty_le _ _ _
  | control enable =>
    cases moved
    refine ⟨sound.enabled, fun zone there => ?_⟩
    cases enable with
    | false => exact sound.duties zone there
    | true =>
      obtain ⟨old, listed, rfl⟩ := List.mem_map.mp there
      exact Nat.zero_le _

theorem step_right {thread next : Thread} {op : Op} (sound : Sound thread)
    (guarded : Guarded casts thread op) (_ : step casts thread op = some next) :
    Right casts thread op := by
  cases op with
  | round readings =>
    intro index zone polls
    refine ⟨zone.poll casts true (readings index), ?_, poll_right (guarded index zone polls)
      (sound.duties zone (mem_of_getElem? polls.2.1)) polls.2.2⟩
    unfold Thread.round
    rw [if_neg (by rw [polls.1]; exact nofun), sound.enabled]
    simp only [getElem?_mapIdx, polls.2.1, map_some]
  | control enable => trivial

theorem fscInit_sound (zones : List Zone) : Sound (fscInit zones) := by
  refine ⟨rfl, fun zone there => ?_⟩
  obtain ⟨old, listed, rfl⟩ := List.mem_map.mp there
  exact Nat.zero_le _

/-- No operation stops a run. -/
theorem run_total (casts : Casts) (thread : Thread) (ops : List Op) :
    ∃ final, run (step casts) thread ops = some final := by
  induction ops generalizing thread with
  | nil => exact ⟨thread, rfl⟩
  | cons op rest ih =>
    cases op with
    | round readings => exact ih _
    | control enable => exact ih _

/-- In every run in which nothing wraps, every polled period of every zone is right. -/
theorem fsc_right (casts : Casts) (zones : List Zone) (ops : List Op)
    (meets : Meets (step casts) (Guarded casts) (fscInit zones) ops) :
    Meets (step casts) (Right casts) (fscInit zones) ops := by
  obtain ⟨final, ran⟩ := run_total casts (fscInit zones) ops
  exact .of_invariant step_sound step_right (fscInit_sound zones) meets ran

/-- A zone with one sensor, one step at 50 degrees, and slew rates of 10 percent. -/
def oneStep (duty : Nat) : Zone where
  swTbl := some [⟨1, [⟨50, duty⟩, ⟨0, 0⟩], 0, 0, 0⟩]
  pidTbl := none
  limits := ⟨0, 100, 10, 10, by decide, by decide, by decide, by decide⟩
  interval := 1
  hasSetDuty := true
  fscPollCount := 0
  lastDuty := 0
  isInit := false
  commanded := none

def fortyDegrees : Nat → Readings := fun _ => ⟨fun _ => some 40, fun _ => none⟩

/-- One round at forty degrees on a curve of one step. -/
theorem fsc_right_oneStep : Meets (step ⟨fun _ => 0, fun _ => 0⟩)
    (Right ⟨fun _ => 0, fun _ => 0⟩) (fscInit [oneStep 5]) [.round fortyDegrees] := by
  refine fsc_right _ _ _ ⟨fun index zone polls => ?_, trivial⟩
  cases index with
  | zero =>
    cases polls.2.1
    refine ⟨by decide, fun table present => ?_, nofun, nofun⟩
    cases present
    decide +kernel
  | succ index => nomatch polls.2.1

/-- At 40 degrees all along the duty of 5 percent is raised to 15 in the second period. -/
theorem fsc_not_right : ¬ ∀ (casts : Casts) (zones : List Zone) (ops : List Op),
    Meets (step casts) (Right casts) (fscInit zones) ops := by
  intro claimed
  have right := claimed ⟨fun _ => 0, fun _ => 0⟩ [oneStep 5]
    [.round fortyDegrees, .round fortyDegrees]
  obtain ⟨next, stored, period⟩ := right.2.1 0 _ ⟨rfl, rfl, by decide +kernel⟩
  cases stored
  exact absurd period.exact (by decide +kernel)

end OpenBic.Aalc.Fsc
