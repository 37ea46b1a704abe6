import OpenBic.Library.Machine

/-!
# The hand-over between the pumps of the AALC RPU

`ctl_pwm_pump` and `reset_redundant_transform_status` of `plat_pwm.c`, and what changes the mode of
the redundancy: its timer, pumps that fail, and the shell. Of three pumps one rests; before another
one rests, all of them run for some calls.
-/

namespace OpenBic.Aalc.PumpHandOver

open Library.Machine

/-! ## The code -/

def maxFanDutyValue : Nat := 100

def redundantStep1Retry : Nat := 6

def redundantStep2aRetry : Nat := 12

def redundantStep2bRetry : Nat := 12

/-- `PWM_DEVICE_E_PB_PUMB_1` and the next two. -/
inductive Pump where
  | one
  | two
  | three
deriving DecidableEq

/-- The pump that rests in a mode, of `PUMP_REDUNDANT_12`, `PUMP_REDUNDANT_13` and
`PUMP_REDUNDANT_23`; `PWM_DEVICE_E_MAX` is `none`. -/
def redundantDev (mode : Nat) : Option Pump :=
  if mode = 1 then some .three
  else if mode = 2 then some .two
  else if mode = 3 then some .one
  else none

/-- `REDUNDANCY_TRANSFORM_E`. -/
inductive Phase where
  | disable
  | step1
  | step2a
  | step2b
deriving DecidableEq

/-- The state of the control, of which the device latched for a hand-over is a part. -/
structure Control where
  /-- `STATUS_FLAG_PUMP_REDUNDANT`. -/
  mode : Nat
  redundantDevNow : Option Pump
  redundantDevPre : Option Pump
  phase : Phase
  step1Count : Nat
  step2aCount : Nat
  step2bCount : Nat
  isRedundantTransforming : Bool
  /-- `fan_duty_cache` of the pumps: what they were commanded last. -/
  duties : Pump → Nat

def Control.latch (control : Control) : Control :=
  if control.isRedundantTransforming then control
  else { control with redundantDevNow := redundantDev control.mode }

/-- `REDUNDANCY_TRANSFORM_DISABLE`: all pumps run. -/
def Control.allRun (control : Control) : Control :=
  { control with
    isRedundantTransforming := true
    duties := fun _ => 55
    phase := if control.step1Count - 1 = 0 then .step1 else control.phase
    step1Count :=
      if control.step1Count - 1 = 0 then redundantStep1Retry else control.step1Count - 1 }

/-- `REDUNDANCY_TRANSFORM_STEP_1`: the pump that is to rest slows down. -/
def Control.slowDown (control : Control) : Control :=
  { control with
    duties := fun pump => if control.redundantDevNow = some pump then 20 else 100
    phase := if control.step2aCount - 1 = 0 then .step2a else control.phase
    step2aCount :=
      if control.step2aCount - 1 = 0 then redundantStep2aRetry else control.step2aCount - 1 }

/-- `REDUNDANCY_TRANSFORM_STEP_2A`: it stops. -/
def Control.halt (control : Control) : Control :=
  { control with
    duties := fun pump => if control.redundantDevNow = some pump then 0 else 100
    phase := if control.step2bCount - 1 = 0 then .step2b else control.phase
    step2bCount :=
      if control.step2bCount - 1 = 0 then redundantStep2bRetry else control.step2bCount - 1 }

/-- The commands at the end of `ctl_pwm_pump`. -/
def Control.command (control : Control) (duty : Pump → Nat) : Control :=
  { control with duties := fun pump => match pump with
      | .one => if control.mode = 3 then 0 else duty .one
      | .two => if control.mode = 2 then 0 else duty .two
      | .three => if control.mode = 1 then 0 else duty .three }

/-- `ctl_pwm_pump` behind the check of the duties. -/
def Control.transform (control : Control) (duty : Pump → Nat) : Control :=
  if control.redundantDevNow ≠ none ∧ control.redundantDevPre ≠ control.redundantDevNow then
    match control.phase with
    | .disable =>
      if control.redundantDevPre ≠ none then control.allRun
      else { control with redundantDevPre := control.redundantDevNow }.command duty
    | .step1 => control.slowDown
    | .step2a => control.halt
    | .step2b => { control with redundantDevPre := control.redundantDevNow }.command duty
  else
    { control with
      isRedundantTransforming := false
      phase := .disable
      redundantDevPre :=
        if control.redundantDevNow = none then none else control.redundantDevPre }.command duty

/-- `ctl_pwm_pump`, which refuses a duty that is too large. -/
def Control.ctlPwmPump (control : Control) (duty : Pump → Nat) : Option Control :=
  if maxFanDutyValue < duty .one ∨ maxFanDutyValue < duty .two ∨ maxFanDutyValue < duty .three then
    none
  else some (control.latch.transform duty)

def Control.resetRedundantTransformStatus (control : Control) : Control :=
  { control with
    phase := .disable
    redundantDevNow := none
    redundantDevPre := none
    step1Count := redundantStep1Retry
    step2aCount := redundantStep2aRetry
    step2bCount := redundantStep2bRetry
    isRedundantTransforming := false }

/-- `pump_redundant_handler`: the modes go round. -/
def pumpRedundantHandler (mode : Nat) : Nat := if mode + 1 = 4 then 1 else mode + 1

/-- `abnormal_pump_redundant_transform`, with whether the pumps work and which of them are beyond
their thresholds. -/
def abnormalPumpRedundantTransform (mode : Nat) (existPumpWork : Bool) (abnormal : Pump → Bool) :
    Nat :=
  if mode ≠ 0 ∧ existPumpWork = true then
    if abnormal .three then 1
    else if abnormal .two then 2
    else if abnormal .one then 3
    else mode
  else mode

/-! ## What is claimed -/

/-- Duties of at least one percent. -/
structure Duties where
  duty : Pump → Nat
  runs : ∀ pump, 0 < duty pump

/-- What happens. -/
inductive Op where
  | timer
  | disable
  /-- `abnormal_pump_redundant_transform`. -/
  | abnormal (existPumpWork : Bool) (abnormal : Pump → Bool)
  | shell (mode : Nat)
  /-- `reset_redundant_transform_status`. -/
  | reset
  /-- `ctl_pwm_pump`. -/
  | control (duties : Duties)

/-- A hand-over is under way and not at its end. -/
def Control.HandsOver (control : Control) : Prop :=
  control.redundantDevNow ≠ none ∧ control.redundantDevPre ≠ control.redundantDevNow ∧
    control.redundantDevPre ≠ none ∧ control.phase ≠ .step2b

instance (control : Control) : Decidable control.HandsOver := instDecidableAnd

/-- The control, and for each pump how many calls have driven it since it rested, unless it has not
rested since the redundancy was off. -/
structure Watched where
  control : Control
  driven : Pump → Option Nat

/-- A pump that is driven has been for so many calls. -/
def Watched.AtLeast (watched : Watched) (pump : Pump) (calls : Nat) : Prop :=
  ∀ count, watched.driven pump = some count → calls ≤ count

def Watched.call (watched : Watched) (next : Control) : Watched where
  control := next
  driven := fun pump =>
    if redundantDev watched.control.mode = none ∧ ¬ watched.control.latch.HandsOver then none
    else if next.duties pump = 0 then some 0
    else (watched.driven pump).map (· + 1)

def step (watched : Watched) (op : Op) : Option Watched :=
  let control := watched.control
  some (match op with
    | .timer => { watched with control.mode := pumpRedundantHandler control.mode }
    | .disable => { watched with control.mode := 0 }
    | .abnormal existPumpWork abnormal => { watched with
        control.mode := abnormalPumpRedundantTransform control.mode existPumpWork abnormal }
    | .shell mode => { watched with control.mode := mode }
    | .reset => { watched with control := control.resetRedundantTransformStatus }
    | .control duties =>
      match control.ctlPwmPump duties.duty with
      | none => watched
      | some next => watched.call next)

/-- The calls of the intermediate steps of a hand-over, up to the stop of a pump. -/
def intermediateCalls : Nat := redundantStep1Retry + redundantStep2aRetry

def handOverCalls : Nat := intermediateCalls + redundantStep2bRetry + 1

def Control.left (control : Control) : Nat :=
  if control.isRedundantTransforming = true ∧ control.redundantDevPre ≠ control.redundantDevNow then
    match control.phase with
    | .disable => control.step1Count + control.step2aCount + control.step2bCount + 1
    | .step1 => control.step2aCount + control.step2bCount + 1
    | .step2a => control.step2bCount + 1
    | .step2b => 1
  else 0

/-- What a call does right. -/
structure CallRight (watched : Watched) (next : Control) : Prop where
  two : ∃ first second, first ≠ second ∧ next.duties first ≠ 0 ∧ next.duties second ≠ 0
  stops : ∀ pump, next.duties pump = 0 → watched.control.duties pump ≠ 0 →
    ∀ other, other ≠ pump → watched.AtLeast other intermediateCalls
  begins : watched.control.left = 0 → watched.control.latch.HandsOver →
    next.left + 1 = handOverCalls
  goesOn : ∀ left, watched.control.left = left + 1 → next.left = left
  ends : watched.control.left = 1 →
    ∀ pump, next.duties pump = 0 ↔ redundantDev watched.control.mode = some pump

/-- What is claimed, of the next call. -/
def Right (watched : Watched) : Op → Prop
  | .control duties => ∀ next, watched.control.ctlPwmPump duties.duty = some next →
      CallRight watched next
  | _ => True

/-- The condition on the state before a control call. At the end of a hand-over the mode names the
pump that has come to rest, or none, or no pump has rested since the redundancy was off. Outside a
hand-over, where none begins, the pump that the mode names rests already, or no other one has
rested in the last calls. -/
def Guarded (watched : Watched) : Op → Prop
  | .control _ =>
    (watched.control.isRedundantTransforming = true → watched.control.phase = .step2b →
      redundantDev watched.control.mode = watched.control.redundantDevNow ∨
        redundantDev watched.control.mode = none ∨ ∀ pump, watched.driven pump = none) ∧
    (watched.control.isRedundantTransforming = false →
      watched.control.redundantDevPre = none ∨
        watched.control.redundantDevPre = redundantDev watched.control.mode →
      ∀ pump, redundantDev watched.control.mode = some pump → watched.control.duties pump = 0 ∨
        ∀ other, other ≠ pump → watched.AtLeast other intermediateCalls)
  | _ => True

def start : Watched where
  control := ⟨0, none, none, .disable, redundantStep1Retry, redundantStep2aRetry,
    redundantStep2bRetry, false, fun _ => 0⟩
  driven := fun _ => none

/-! ## Calls -/

variable {control : Control} {watched : Watched} {next : Control} {old new : Pump}

theorem transforming_latch
    (transforming : control.isRedundantTransforming = true) : control.latch = control := by
  unfold Control.latch
  rw [if_pos transforming]

theorem idle_latch (idle : control.isRedundantTransforming = false) :
    control.latch = { control with redundantDevNow := redundantDev control.mode } := by
  unfold Control.latch
  rw [if_neg (by rw [idle]; exact Bool.false_ne_true)]

theorem command_rests (control : Control) (duties : Duties) (pump : Pump) :
    (control.command duties.duty).duties pump = 0 ↔ redundantDev control.mode = some pump := by
  have driven : duties.duty pump ≠ 0 := Nat.pos_iff_ne_zero.mp (duties.runs pump)
  unfold redundantDev
  cases pump
  all_goals
    simp only [Control.command]
    split_ifs <;> simp_all

theorem two_of_rests {duties : Pump → Nat} {rest : Option Pump}
    (rests : ∀ pump, duties pump = 0 → rest = some pump) :
    ∃ first second, first ≠ second ∧ duties first ≠ 0 ∧ duties second ≠ 0 := by
  have other : ∀ pump, rest ≠ some pump → duties pump ≠ 0 := fun pump not zero =>
    not (rests pump zero)
  cases rest with
  | none => exact ⟨.one, .two, by decide, other .one (by decide), other .two (by decide)⟩
  | some resting =>
    cases resting with
    | one => exact ⟨.two, .three, by decide, other .two (by decide), other .three (by decide)⟩
    | two => exact ⟨.one, .three, by decide, other .one (by decide), other .three (by decide)⟩
    | three => exact ⟨.one, .two, by decide, other .one (by decide), other .two (by decide)⟩

theorem call_driven {pump : Pump}
    (handsOver : watched.control.latch.HandsOver) (drives : next.duties pump ≠ 0) :
    (watched.call next).driven pump = (watched.driven pump).map (· + 1) := by
  change (if _ then none else if next.duties pump = 0 then _ else _) = _
  rw [if_neg (fun off : _ ∧ ¬ watched.control.latch.HandsOver => off.2 handsOver), if_neg drives]

theorem Watched.AtLeast.call {pump : Pump} {calls : Nat}
    (before : watched.AtLeast pump calls) (handsOver : watched.control.latch.HandsOver)
    (drives : next.duties pump ≠ 0) : (watched.call next).AtLeast pump (calls + 1) := by
  intro count counted
  rw [call_driven handsOver drives] at counted
  cases known : watched.driven pump with
  | none =>
    rw [known] at counted
    cases counted
  | some old =>
    have least : calls ≤ old := before old known
    rw [known] at counted
    have same : old + 1 = count := Option.some.inj counted
    omega

theorem call_stopped {pump : Pump}
    (goes : redundantDev watched.control.mode ≠ none ∨ watched.control.latch.HandsOver)
    (stopped : next.duties pump = 0) : (watched.call next).driven pump = some 0 := by
  change (if _ then none else if next.duties pump = 0 then _ else _) = _
  rw [if_neg, if_pos stopped]
  intro off
  cases goes with
  | inl named => exact named off.1
  | inr handsOver => exact off.2 handsOver

theorem Watched.AtLeast.of_none (pump : Pump) (calls : Nat)
    (never : ∀ pump, watched.driven pump = none) : watched.AtLeast pump calls := by
  intro count counted
  rw [never pump] at counted
  cases counted

/-! ## The stages of a hand-over -/

/-- What holds of the control between two calls. -/
inductive Sound (watched : Watched) : Prop where
  | idle (transforming : watched.control.isRedundantTransforming = false)
      (phase : watched.control.phase = .disable)
      (first : watched.control.step1Count = redundantStep1Retry)
      (second : watched.control.step2aCount = redundantStep2aRetry)
      (third : watched.control.step2bCount = redundantStep2bRetry)
  | allRun (transforming : watched.control.isRedundantTransforming = true)
      (old new : Pump) (apart : old ≠ new)
      (pre : watched.control.redundantDevPre = some old)
      (now : watched.control.redundantDevNow = some new)
      (phase : watched.control.phase = .disable)
      (first : 0 < watched.control.step1Count)
      (second : watched.control.step2aCount = redundantStep2aRetry)
      (third : watched.control.step2bCount = redundantStep2bRetry)
      (driven : ∀ pump, watched.AtLeast pump (redundantStep1Retry - watched.control.step1Count))
  | slowDown (transforming : watched.control.isRedundantTransforming = true)
      (old new : Pump) (apart : old ≠ new)
      (pre : watched.control.redundantDevPre = some old)
      (now : watched.control.redundantDevNow = some new)
      (phase : watched.control.phase = .step1)
      (first : watched.control.step1Count = redundantStep1Retry)
      (second : 0 < watched.control.step2aCount)
      (third : watched.control.step2bCount = redundantStep2bRetry)
      (driven : ∀ pump, watched.AtLeast pump (intermediateCalls - watched.control.step2aCount))
  | halt (transforming : watched.control.isRedundantTransforming = true)
      (old new : Pump) (apart : old ≠ new)
      (pre : watched.control.redundantDevPre = some old)
      (now : watched.control.redundantDevNow = some new)
      (phase : watched.control.phase = .step2a)
      (first : watched.control.step1Count = redundantStep1Retry)
      (second : watched.control.step2aCount = redundantStep2aRetry)
      (third : 0 < watched.control.step2bCount)
      (driven : ∀ pump, pump ≠ new → watched.AtLeast pump intermediateCalls)
  | finish (transforming : watched.control.isRedundantTransforming = true)
      (old new : Pump)
      (pre : watched.control.redundantDevPre = some old)
      (now : watched.control.redundantDevNow = some new)
      (phase : watched.control.phase = .step2b)
      (first : watched.control.step1Count = redundantStep1Retry)
      (second : watched.control.step2aCount = redundantStep2aRetry)
      (third : watched.control.step2bCount = redundantStep2bRetry)
      (rests : watched.control.duties new = 0 ∧ watched.driven new = some 0 ∨
        old = new ∧ ∀ pump, watched.driven pump = none)

/-! ## What a call does in each stage -/

theorem left_of_apart (transforming : control.isRedundantTransforming = true)
    (apart : control.redundantDevPre ≠ control.redundantDevNow) : control.left =
      match control.phase with
      | .disable => control.step1Count + control.step2aCount + control.step2bCount + 1
      | .step1 => control.step2aCount + control.step2bCount + 1 | .step2a => control.step2bCount + 1
      | .step2b => 1 := by
  unfold Control.left
  rw [if_pos ⟨transforming, apart⟩]

theorem left_of_idle (idle : control.isRedundantTransforming = false) : control.left = 0 := by
  unfold Control.left
  rw [if_neg]
  intro both
  rw [idle] at both
  exact Bool.false_ne_true both.1

theorem left_allRun (first : 0 < control.step1Count) (phase : control.phase = .disable)
    (apart : control.redundantDevPre ≠ control.redundantDevNow) :
    control.allRun.left = control.step1Count + control.step2aCount + control.step2bCount := by
  rw [show control.allRun.left = _ from left_of_apart rfl apart]
  unfold Control.allRun
  by_cases last : control.step1Count - 1 = 0
  · simp only [if_pos last]
    omega
  · simp only [if_neg last, phase]
    omega

theorem left_slowDown (second : 0 < control.step2aCount)
    (phase : control.phase = .step1) (transforming : control.isRedundantTransforming = true)
    (apart : control.redundantDevPre ≠ control.redundantDevNow) :
    control.slowDown.left = control.step2aCount + control.step2bCount := by
  rw [show control.slowDown.left = _ from left_of_apart transforming apart]
  unfold Control.slowDown
  by_cases last : control.step2aCount - 1 = 0
  · simp only [if_pos last]
    omega
  · simp only [if_neg last, phase]
    omega

theorem left_halt (third : 0 < control.step2bCount)
    (phase : control.phase = .step2a) (transforming : control.isRedundantTransforming = true)
    (apart : control.redundantDevPre ≠ control.redundantDevNow) :
    control.halt.left = control.step2bCount := by
  rw [show control.halt.left = _ from left_of_apart transforming apart]
  unfold Control.halt
  by_cases last : control.step2bCount - 1 = 0
  · simp only [if_pos last]
    omega
  · simp only [if_neg last, phase]
    omega

theorem transform_allRun (duty : Pump → Nat) (handsOver : control.HandsOver)
    (phase : control.phase = .disable) : control.transform duty = control.allRun := by
  unfold Control.transform
  rw [if_pos ⟨handsOver.1, handsOver.2.1⟩]
  simp only [phase]
  exact if_pos handsOver.2.2.1

/-- A call is right and leaves the control sound. -/
def Goes (watched : Watched) (next : Control) : Prop :=
  CallRight watched next ∧ Sound (watched.call next)

/-- A call in which all pumps run. -/
theorem allRun_goes (apart : old ≠ new) (pre : watched.control.latch.redundantDevPre = some old)
    (now : watched.control.latch.redundantDevNow = some new)
    (phase : watched.control.latch.phase = .disable) (first : 0 < watched.control.latch.step1Count)
    (second : watched.control.latch.step2aCount = redundantStep2aRetry)
    (third : watched.control.latch.step2bCount = redundantStep2bRetry) (driven : ∀ pump,
      watched.AtLeast pump (redundantStep1Retry - watched.control.latch.step1Count))
    (begins : watched.control.left = 0 → watched.control.latch.step1Count = redundantStep1Retry)
    (goesOn : ∀ left, watched.control.left = left + 1 →
      left = watched.control.latch.step1Count + redundantStep2aRetry + redundantStep2bRetry) :
    Goes watched watched.control.latch.allRun := by
  have differ : watched.control.latch.redundantDevPre ≠ watched.control.latch.redundantDevNow := by
    rw [pre, now]
    exact fun same => apart (Option.some.inj same)
  have handsOver : watched.control.latch.HandsOver :=
    ⟨by rw [now]; exact nofun, differ, by rw [pre]; exact nofun, by rw [phase]; exact nofun⟩
  have drives : ∀ pump, watched.control.latch.allRun.duties pump ≠ 0 := fun _ => nofun
  have left := left_allRun first phase differ
  rw [second, third] at left
  have counted := fun pump => (driven pump).call handsOver (drives pump)
  refine ⟨⟨⟨.one, .two, by decide, drives .one, drives .two⟩,
    fun pump zero => absurd zero (drives pump), fun idle _ => ?_, fun count goes => ?_,
    fun last => ?_⟩, ?_⟩
  · rw [left, begins idle]
    rfl
  · rw [left, goesOn count goes]
  · have none := goesOn 0 last
    omega
  · by_cases last : watched.control.latch.step1Count - 1 = 0
    · refine .slowDown rfl old new apart pre now (if_pos last) (if_pos last) ?_ third ?_
      · change 0 < watched.control.latch.step2aCount
        rw [second]
        decide
      · intro pump count known
        have least := counted pump count known
        change intermediateCalls - watched.control.latch.step2aCount ≤ count
        unfold intermediateCalls
        omega
    · refine .allRun rfl old new apart pre now ((if_neg last).trans phase) ?_ second third ?_
      · change 0 < ite _ _ _
        rw [if_neg last]
        omega
      · intro pump count known
        have least := counted pump count known
        change redundantStep1Retry - ite _ _ _ ≤ count
        rw [if_neg last]
        omega

/-- A call in which the pump that is to rest slows down. -/
theorem slowDown_goes (apart : old ≠ new)
    (transforming : watched.control.isRedundantTransforming = true)
    (pre : watched.control.redundantDevPre = some old)
    (now : watched.control.redundantDevNow = some new) (phase : watched.control.phase = .step1)
    (first : watched.control.step1Count = redundantStep1Retry)
    (second : 0 < watched.control.step2aCount)
    (third : watched.control.step2bCount = redundantStep2bRetry)
    (driven : ∀ pump, watched.AtLeast pump (intermediateCalls - watched.control.step2aCount)) :
    Goes watched watched.control.slowDown := by
  have differ : watched.control.redundantDevPre ≠ watched.control.redundantDevNow := by
    rw [pre, now]
    exact fun same => apart (Option.some.inj same)
  have handsOver : watched.control.latch.HandsOver := by
    rw [transforming_latch transforming]
    exact ⟨by rw [now]; exact nofun, differ, by rw [pre]; exact nofun, by rw [phase]; exact nofun⟩
  have drives : ∀ pump, watched.control.slowDown.duties pump ≠ 0 := by
    intro pump
    change ite _ _ _ ≠ 0
    split_ifs <;> decide
  have before : watched.control.left =
      watched.control.step2aCount + watched.control.step2bCount + 1 := by
    rw [left_of_apart transforming differ, phase]
  have left := left_slowDown second phase transforming differ
  have counted := fun pump => (driven pump).call handsOver (drives pump)
  refine ⟨⟨⟨.one, .two, by decide, drives .one, drives .two⟩,
    fun pump zero => absurd zero (drives pump), fun idle _ => ?_, fun count goes => ?_,
    fun last => ?_⟩, ?_⟩
  · omega
  · omega
  · omega
  · by_cases last : watched.control.step2aCount - 1 = 0
    · refine .halt transforming old new apart pre now (if_pos last) first (if_pos last) ?_ ?_
      · change 0 < watched.control.step2bCount
        rw [third]
        decide
      · intro pump _ count known
        have least := counted pump count known
        omega
    · refine .slowDown transforming old new apart pre now ((if_neg last).trans phase) first ?_
        third ?_
      · change 0 < ite _ _ _
        rw [if_neg last]
        omega
      · intro pump count known
        have least := counted pump count known
        change intermediateCalls - ite _ _ _ ≤ count
        rw [if_neg last]
        omega

/-- A call in which it stops. -/
theorem halt_goes (apart : old ≠ new)
    (transforming : watched.control.isRedundantTransforming = true)
    (pre : watched.control.redundantDevPre = some old)
    (now : watched.control.redundantDevNow = some new) (phase : watched.control.phase = .step2a)
    (first : watched.control.step1Count = redundantStep1Retry)
    (second : watched.control.step2aCount = redundantStep2aRetry)
    (third : 0 < watched.control.step2bCount)
    (driven : ∀ pump, pump ≠ new → watched.AtLeast pump intermediateCalls) :
    Goes watched watched.control.halt := by
  have differ : watched.control.redundantDevPre ≠ watched.control.redundantDevNow := by
    rw [pre, now]
    exact fun same => apart (Option.some.inj same)
  have handsOver : watched.control.latch.HandsOver := by
    rw [transforming_latch transforming]
    exact ⟨by rw [now]; exact nofun, differ, by rw [pre]; exact nofun, by rw [phase]; exact nofun⟩
  have rests : ∀ pump, watched.control.halt.duties pump = 0 → some new = some pump := by
    intro pump zero
    by_contra other
    rw [← now] at other
    change ite _ _ _ = 0 at zero
    rw [if_neg other] at zero
    cases zero
  have before : watched.control.left = watched.control.step2bCount + 1 := by
    rw [left_of_apart transforming differ, phase]
  have left := left_halt third phase transforming differ
  refine ⟨⟨two_of_rests rests, fun pump zero _ other different => ?_, fun idle _ => ?_,
    fun count goes => ?_, fun last => ?_⟩, ?_⟩
  · rw [← Option.some.inj (rests pump zero)] at different
    exact driven other different
  · omega
  · omega
  · omega
  · by_cases last : watched.control.step2bCount - 1 = 0
    · exact .finish transforming old new pre now (if_pos last) first second (if_pos last)
        (.inl ⟨if_pos now, call_stopped (.inr handsOver) (if_pos now)⟩)
    · refine .halt transforming old new apart pre now ((if_neg last).trans phase) first second ?_ ?_
      · change 0 < ite _ _ _
        rw [if_neg last]
        omega
      · intro pump different count known
        have drives : watched.control.halt.duties pump ≠ 0 := fun zero =>
          different (Option.some.inj (rests pump zero)).symm
        have least := (driven pump different).call handsOver drives count known
        omega

theorem command_right (duties : Duties)
    (mode : control.mode = watched.control.mode) (settled : ¬ watched.control.latch.HandsOver)
    (known : ∀ pump, redundantDev watched.control.mode = some pump →
      watched.control.duties pump = 0 ∨
        ∀ other, other ≠ pump → watched.AtLeast other intermediateCalls)
    (goesOn : ∀ left, watched.control.left = left + 1 → (control.command duties.duty).left = left) :
    CallRight watched (control.command duties.duty) := by
  have rests := command_rests control duties
  rw [mode] at rests
  refine ⟨two_of_rests fun pump zero => (rests pump).mp zero, fun pump zero drove => ?_,
    fun _ handsOver => absurd handsOver settled, goesOn, fun _ => rests⟩
  cases known pump ((rests pump).mp zero) with
  | inl resting => exact absurd resting drove
  | inr driven => exact driven

/-- A call at the end of a hand-over, and the one after it. -/
theorem finish_goes (duties : Duties)
    (transforming : watched.control.isRedundantTransforming = true)
    (pre : watched.control.redundantDevPre = some old)
    (now : watched.control.redundantDevNow = some new) (phase : watched.control.phase = .step2b)
    (first : watched.control.step1Count = redundantStep1Retry)
    (second : watched.control.step2aCount = redundantStep2aRetry)
    (third : watched.control.step2bCount = redundantStep2bRetry)
    (rests : watched.control.duties new = 0 ∧ watched.driven new = some 0 ∨
      old = new ∧ ∀ pump, watched.driven pump = none)
    (named : redundantDev watched.control.mode = watched.control.redundantDevNow ∨
      redundantDev watched.control.mode = none ∨ ∀ pump, watched.driven pump = none) :
    Goes watched (watched.control.transform duties.duty) := by
  have settled : ¬ watched.control.latch.HandsOver := by
    rw [transforming_latch transforming]
    exact fun handsOver => handsOver.2.2.2 phase
  have known : ∀ pump, redundantDev watched.control.mode = some pump →
      watched.control.duties pump = 0 ∨
        ∀ other, other ≠ pump → watched.AtLeast other intermediateCalls := by
    intro pump mode
    cases rests with
    | inr never => exact .inr fun other _ => .of_none other _ never.2
    | inl stopped =>
      rcases named with same | off | never
      · rw [mode, now] at same
        exact .inl (Option.some.inj same ▸ stopped.1)
      · rw [mode] at off
        cases off
      · nomatch ((never new).symm.trans stopped.2)
  by_cases apart : old = new
  · have done : watched.control.transform duties.duty = { watched.control with
        isRedundantTransforming := false
        phase := .disable }.command duties.duty := by
      unfold Control.transform
      rw [if_neg (fun both => both.2 (by rw [pre, now, apart])),
        if_neg (by rw [now]; exact nofun)]
    rw [done]
    refine ⟨command_right duties rfl settled known fun left goes => ?_,
      .idle rfl rfl first second third⟩
    unfold Control.left at goes
    rw [if_neg (fun both => both.2 (by rw [pre, now, apart]))] at goes
    exact absurd goes (Nat.succ_ne_zero left).symm
  · have differ : watched.control.redundantDevPre ≠ watched.control.redundantDevNow := by
      rw [pre, now]
      exact fun same => apart (Option.some.inj same)
    have done : watched.control.transform duties.duty =
        { watched.control with
          redundantDevPre := watched.control.redundantDevNow }.command duties.duty := by
      unfold Control.transform
      rw [if_pos ⟨by rw [now]; exact nofun, differ⟩]
      simp only [phase]
    rw [done]
    refine ⟨command_right duties rfl settled known fun left goes => ?_,
      .finish transforming new new now now phase first second third ?_⟩
    · rw [left_of_apart transforming differ, phase] at goes
      have none : left = 0 := by
        change 1 = left + 1 at goes
        omega
      rw [none]
      exact if_neg fun both => both.2 rfl
    · rcases named with same | off | never
      · have zero := (command_rests { watched.control with
          redundantDevPre := watched.control.redundantDevNow } duties new).mpr (same.trans now)
        exact .inl ⟨zero, call_stopped (.inl (by rw [same, now]; exact nofun)) zero⟩
      · exact .inr ⟨rfl, fun pump => if_pos ⟨off, settled⟩⟩
      · cases rests with
        | inl stopped => nomatch ((never new).symm.trans stopped.2)
        | inr same => exact absurd same.1 apart

/-- A call outside a hand-over in which none begins. -/
theorem idle_goes (duties : Duties) (idle : watched.control.isRedundantTransforming = false)
    (phase : watched.control.phase = .disable)
    (first : watched.control.step1Count = redundantStep1Retry)
    (second : watched.control.step2aCount = redundantStep2aRetry)
    (third : watched.control.step2bCount = redundantStep2bRetry)
    (settled : ¬ watched.control.latch.HandsOver) (known : watched.control.redundantDevPre = none ∨
        watched.control.redundantDevPre = redundantDev watched.control.mode →
      ∀ pump, redundantDev watched.control.mode = some pump → watched.control.duties pump = 0 ∨
        ∀ other, other ≠ pump → watched.AtLeast other intermediateCalls) :
    Goes watched (watched.control.latch.transform duties.duty) := by
  have done : watched.control.latch.transform duties.duty = { watched.control with
      redundantDevNow := redundantDev watched.control.mode
      redundantDevPre := redundantDev watched.control.mode
      isRedundantTransforming := false
      phase := .disable }.command duties.duty := by
    rw [idle_latch idle]
    rw [idle_latch idle] at settled
    unfold Control.transform
    by_cases begins : redundantDev watched.control.mode ≠ none ∧
        watched.control.redundantDevPre ≠ redundantDev watched.control.mode
    · have none : watched.control.redundantDevPre = none := by
        by_contra some
        exact settled ⟨begins.1, begins.2, some, by rw [phase]; exact nofun⟩
      rw [if_pos begins]
      simp only [phase]
      rw [if_neg (fun some => some none), idle]
    · rw [if_neg begins]
      congr 2
      by_cases off : redundantDev watched.control.mode = none
      · rw [if_pos off, off]
      · rw [if_neg off]
        by_contra other
        exact begins ⟨off, other⟩
  rw [done]
  refine ⟨command_right duties rfl settled (fun pump named => ?_) fun left goes => ?_,
    .idle rfl rfl first second third⟩
  · refine known ?_ pump named
    by_contra neither
    rw [idle_latch idle] at settled
    refine settled ⟨?_, fun same => neither (.inr same), fun none => neither (.inl none), ?_⟩
    · rw [named]
      exact nofun
    · rw [phase]
      exact nofun
  · rw [left_of_idle idle] at goes
    exact absurd goes (Nat.succ_ne_zero left).symm

theorem call_goes (duties : Duties) (sound : Sound watched)
    (guarded : Guarded watched (.control duties)) :
    Goes watched (watched.control.latch.transform duties.duty) := by
  cases sound with
  | idle idle phase first second third =>
    by_cases handsOver : watched.control.latch.HandsOver
    · rw [transform_allRun _ handsOver ((idle_latch idle).symm ▸ phase)]
      rw [idle_latch idle] at handsOver
      cases pre : watched.control.redundantDevPre with
      | none => exact absurd pre handsOver.2.2.1
      | some old =>
        cases now : redundantDev watched.control.mode with
        | none => exact absurd now handsOver.1
        | some new =>
          have apart : old ≠ new := fun same => handsOver.2.1 (by rw [pre, same]; exact now.symm)
          have latched := idle_latch idle
          refine allRun_goes apart (latched ▸ pre) (latched ▸ now) (latched ▸ phase) ?_
            (latched ▸ second) (latched ▸ third) (fun pump count _ => ?_) (fun _ => latched ▸ first)
            fun left goes => ?_
          · rw [latched]
            change 0 < watched.control.step1Count
            rw [first]
            decide
          · rw [latched]
            change redundantStep1Retry - watched.control.step1Count ≤ count
            rw [first, Nat.sub_self]
            exact Nat.zero_le count
          · rw [left_of_idle idle] at goes
            exact absurd goes (Nat.succ_ne_zero left).symm
    · exact idle_goes duties idle phase first second third handsOver (guarded.2 idle)
  | allRun transforming old new apart pre now phase first second third driven =>
    have latched := transforming_latch transforming
    have differ : watched.control.redundantDevPre ≠ watched.control.redundantDevNow := by
      rw [pre, now]
      exact fun same => apart (Option.some.inj same)
    have left := left_of_apart transforming differ
    simp only [phase, second, third] at left
    have handsOver : watched.control.latch.HandsOver := by
      rw [latched]
      exact ⟨by rw [now]; exact nofun, differ, by rw [pre]; exact nofun, by rw [phase]; exact nofun⟩
    rw [transform_allRun _ handsOver (latched.symm ▸ phase)]
    refine allRun_goes apart ?_ ?_ ?_ ?_ ?_ ?_ ?_ ?_ ?_
    all_goals rw [latched]
    · exact pre
    · exact now
    · exact phase
    · exact first
    · exact second
    · exact third
    · exact driven
    · intro none
      omega
    · intro count goes
      omega
  | slowDown transforming old new apart pre now phase first second third driven =>
    rw [transforming_latch transforming]
    have done : watched.control.transform duties.duty = watched.control.slowDown := by
      unfold Control.transform
      rw [if_pos ⟨by rw [now]; exact nofun,
        by rw [pre, now]; exact fun same => apart (Option.some.inj same)⟩]
      simp only [phase]
    rw [done]
    exact slowDown_goes apart transforming pre now phase first second third driven
  | halt transforming old new apart pre now phase first second third driven =>
    rw [transforming_latch transforming]
    have done : watched.control.transform duties.duty = watched.control.halt := by
      unfold Control.transform
      rw [if_pos ⟨by rw [now]; exact nofun,
        by rw [pre, now]; exact fun same => apart (Option.some.inj same)⟩]
      simp only [phase]
    rw [done]
    exact halt_goes apart transforming pre now phase first second third driven
  | finish transforming old new pre now phase first second third rests =>
    rw [transforming_latch transforming]
    exact finish_goes duties transforming pre now phase first second third rests
      (guarded.1 transforming phase)

/-! ## Runs -/

theorem Sound.of_mode (sound : Sound watched) (mode : Nat) :
    Sound { watched with control.mode := mode } := by
  cases sound with
  | idle transforming phase first second third =>
    exact .idle transforming phase first second third
  | allRun transforming old new apart pre now phase first second third driven =>
    exact .allRun transforming old new apart pre now phase first second third driven
  | slowDown transforming old new apart pre now phase first second third driven =>
    exact .slowDown transforming old new apart pre now phase first second third driven
  | halt transforming old new apart pre now phase first second third driven =>
    exact .halt transforming old new apart pre now phase first second third driven
  | finish transforming old new pre now phase first second third rests =>
    exact .finish transforming old new pre now phase first second third rests

theorem step_sound {watched next : Watched} {op : Op} (sound : Sound watched)
    (guarded : Guarded watched op) (moved : step watched op = some next) : Sound next := by
  cases moved
  cases op with
  | timer => exact sound.of_mode _
  | disable => exact sound.of_mode _
  | abnormal existPumpWork abnormal => exact sound.of_mode _
  | shell mode => exact sound.of_mode mode
  | reset => exact .idle rfl rfl rfl rfl rfl
  | control duties =>
    change Sound (match watched.control.ctlPwmPump duties.duty with
      | none => watched
      | some next => watched.call next)
    unfold Control.ctlPwmPump
    by_cases refused : maxFanDutyValue < duties.duty .one ∨ maxFanDutyValue < duties.duty .two ∨
        maxFanDutyValue < duties.duty .three
    · rw [if_pos refused]
      exact sound
    · rw [if_neg refused]
      exact (call_goes duties sound guarded).2

theorem step_right {watched next : Watched} {op : Op} (sound : Sound watched)
    (guarded : Guarded watched op) (_ : step watched op = some next) : Right watched op := by
  cases op with
  | timer => trivial
  | disable => trivial
  | abnormal existPumpWork abnormal => trivial
  | shell mode => trivial
  | reset => trivial
  | control duties =>
    intro next called
    unfold Control.ctlPwmPump at called
    split_ifs at called
    cases called
    exact (call_goes duties sound guarded).1

/-- No operation stops a run. -/
theorem run_total (watched : Watched) (ops : List Op) :
    ∃ final, run step watched ops = some final := by
  induction ops generalizing watched with
  | nil => exact ⟨watched, rfl⟩
  | cons op rest ih => exact ih _

/-- In every run in which each control call finds the pumps as the condition says, each control call
is right. -/
theorem handOver_right (ops : List Op) (meets : Meets step Guarded start ops) :
    Meets step Right start ops := by
  obtain ⟨final, ran⟩ := run_total start ops
  exact .of_invariant step_sound step_right (.idle rfl rfl rfl rfl rfl) meets ran

def half : Duties := ⟨fun _ => 50, fun _ => by decide⟩

/-- The begin of a hand-over. -/
theorem handOver_right_first :
    Meets step Right start [.shell 1, .control half, .timer, .control half] := by
  refine handOver_right _ ⟨trivial, ⟨nofun, fun _ _ pump _ => .inl rfl⟩, trivial, ⟨nofun, ?_⟩,
    trivial⟩
  intro _ pre
  exact absurd pre (by decide)

/-- Pump three rests, pump two is to rest next, and the timer expires again when it has stopped. -/
def expired : List Op :=
  [.shell 1, .control half, .timer] ++ List.replicate 30 (.control half) ++ [.timer]

def expiredWatched : Watched := (run step start expired).getD start

/-- The call at the end of the hand-over stops pump one while pump two stands still. -/
theorem handOver_not_right : ¬ ∀ ops, Meets step Right start ops := by
  intro claimed
  obtain ⟨final, ran⟩ := run_total start expired
  have reached : final = expiredWatched := by
    unfold expiredWatched
    rw [ran]
    rfl
  have last := ((claimed (expired ++ [.control half])).drop ran).1
  rw [reached] at last
  have right := last _ rfl
  have stopped := right.stops .one (by decide +kernel) (by decide +kernel) .two (by decide)
  exact absurd (stopped 0 (by decide +kernel)) (by decide)

end OpenBic.Aalc.PumpHandOver
