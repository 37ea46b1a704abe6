import Mathlib.Data.BitVec
import Mathlib.Tactic.Abel
import OpenBic.Library.Machine

/-!
# The running time of the pumps of the AALC RPU

The part of `plat_hwmon.c` that keeps how long the pumps have run, and the save of
`shutdown_save_uptime_action`. The time is a stored sum, and for the current boot the difference of
two times of the clock; a ghost counts the seconds that it stands for.
-/

namespace OpenBic.Aalc.PumpTime

open Library.Machine

/-! ## The code -/

/-- The four bytes of a number in the EEPROM, the most significant one first. -/
structure Stored where
  first : BitVec 8
  second : BitVec 8
  third : BitVec 8
  fourth : BitVec 8

def Stored.read (stored : Stored) : BitVec 32 :=
  BitVec.ofNat 32 (stored.first.toNat * 2 ^ 24 + stored.second.toNat * 2 ^ 16 +
    stored.third.toNat * 2 ^ 8 + stored.fourth.toNat)

def Stored.write (value : BitVec 32) : Stored where
  first := BitVec.ofNat 8 (value.toNat / 2 ^ 24)
  second := BitVec.ofNat 8 (value.toNat / 2 ^ 16)
  third := BitVec.ofNat 8 (value.toNat / 2 ^ 8)
  fourth := BitVec.ofNat 8 value.toNat

def pumpMaxNum : Nat := 3

/-- The times of the pumps, and what the EEPROM has of them. -/
structure Times where
  /-- `k_uptime_get`, in milliseconds. -/
  uptime : Nat
  /-- `STATUS_FLAG_AUTO_TUNE`. -/
  autoTune : Bool
  lastAutoTuneFlag : Bool
  lastSwitchTime : Fin pumpMaxNum → BitVec 32
  currentBootUnrunningTime : Fin pumpMaxNum → BitVec 32
  eepromPump : Fin pumpMaxNum → Stored
  /-- The minutes at `EEPROM_UPTIME_OFFSET`. -/
  eepromUptime : Stored

def Times.nowSec (times : Times) : BitVec 32 := BitVec.ofNat 32 (times.uptime / 1000)

def Times.getPumpUptimeSecs (times : Times) (pumpNum : Nat) : Option (BitVec 32) :=
  if known : pumpNum < pumpMaxNum then
    let pump : Fin pumpMaxNum := ⟨pumpNum, known⟩
    if times.autoTune then
      some ((times.eepromPump pump).read +
        (times.nowSec - times.currentBootUnrunningTime pump))
    else
      some ((times.eepromPump pump).read +
        (times.lastSwitchTime pump - times.currentBootUnrunningTime pump))
  else none

/-- `set_pump_uptime_secs`, for all pumps. -/
def Times.setPumpUptimeSecs (times : Times) : Times :=
  if times.autoTune = times.lastAutoTuneFlag then times
  else
    { times with
      currentBootUnrunningTime := fun pump =>
        if times.autoTune then
          times.currentBootUnrunningTime pump + (times.nowSec - times.lastSwitchTime pump)
        else times.currentBootUnrunningTime pump
      lastSwitchTime := fun _ => times.nowSec
      lastAutoTuneFlag := times.autoTune }

/-- `pump_setting_set_auto_tune_flag`, with whether the system is ready and the manual flags from
`MANUAL_PWM_E_HEX_FAN` to `MANUAL_PWM_E_RPU_FAN`. -/
def Times.pumpSettingSetAutoTuneFlag (times : Times) (systemReady : Bool) (manual : Fin 3 → Bool)
    (bitVal : Bool) : Bool × Times :=
  if systemReady = false then (false, times)
  else if bitVal = true ∧ ∃ index, manual index = true then (false, times)
  else
    let flagged := { times with autoTune := bitVal }
    if bitVal ≠ times.lastAutoTuneFlag then
      (true, { flagged.setPumpUptimeSecs with lastAutoTuneFlag := bitVal })
    else (true, flagged)

/-- `modbus_clear_pump_running_time_function`. -/
def Times.clearPumpRunningTime (times : Times) (bitVal : Bool) : Times :=
  if bitVal = false then times
  else
    { times with
      eepromPump := fun _ => ⟨0, 0, 0, 0⟩
      lastSwitchTime := fun _ => times.nowSec
      currentBootUnrunningTime := fun _ => times.nowSec }

def Times.shutdownSaveUptimeAction (times : Times) : Times :=
  { times with
    eepromUptime :=
      .write (BitVec.ofNat 32 (times.uptime / 60000) + times.eepromUptime.read)
    eepromPump := fun pump =>
      match times.getPumpUptimeSecs pump with
      | some secs => .write secs
      | none => ⟨0, 0, 0, 0⟩ }

def Times.reboot (times : Times) : Times :=
  { times with
    uptime := 0
    autoTune := false
    lastAutoTuneFlag := false
    lastSwitchTime := fun _ => 0
    currentBootUnrunningTime := fun _ => 0 }

/-! ## What is claimed -/

/-- What happens. -/
inductive Op where
  | pass (milliseconds : Nat)
  | setAutoTune (systemReady : Bool) (manual : Fin 3 → Bool) (bitVal : Bool)
  | clear (bitVal : Bool)
  | shutdown
  | save

/-- The times, and the seconds that ended with auto-tune on since the last clear. -/
structure Watched where
  times : Times
  total : Nat

def Watched.pass (watched : Watched) (milliseconds : Nat) : Watched where
  times := { watched.times with uptime := watched.times.uptime + milliseconds }
  total := watched.total +
    if watched.times.autoTune then
      (watched.times.uptime + milliseconds) / 1000 - watched.times.uptime / 1000
    else 0

def Watched.after (watched : Watched) : Op → Watched
  | .pass milliseconds => watched.pass milliseconds
  | .setAutoTune systemReady manual bitVal => { watched with
      times := (watched.times.pumpSettingSetAutoTuneFlag systemReady manual bitVal).2 }
  | .clear bitVal => ⟨watched.times.clearPumpRunningTime bitVal,
      if bitVal then 0 else watched.total⟩
  | .shutdown => { watched with times := watched.times.shutdownSaveUptimeAction.reboot }
  | .save => { watched with times := watched.times.shutdownSaveUptimeAction }

def step (watched : Watched) (op : Op) : Option Watched := some (watched.after op)

/-- The pumps' uptimes are what they have served. -/
def Watched.Told (watched : Watched) : Prop :=
  ∀ pump, pump < pumpMaxNum →
    (watched.times.getPumpUptimeSecs pump).map BitVec.toNat = some watched.total

/-- What is claimed of an operation. -/
def Right (watched : Watched) (op : Op) : Prop := (watched.after op).Told

def Times.bootShare (times : Times) (pump : Fin pumpMaxNum) : BitVec 32 :=
  (if times.autoTune then times.nowSec else times.lastSwitchTime pump) -
    times.currentBootUnrunningTime pump

/-- The condition on the state before an operation: auto-tune has added no time in this boot when a
save is not followed by a reboot, and the time that passes fits in 32 bits. -/
def Guarded (watched : Watched) : Op → Prop
  | .pass milliseconds => (watched.pass milliseconds).total < 2 ^ 32
  | .save => ∀ pump, watched.times.bootShare pump = 0
  | _ => True

def start (eepromUptime : Stored) : Watched where
  times := ⟨0, false, false, fun _ => 0, fun _ => 0, fun _ => ⟨0, 0, 0, 0⟩, eepromUptime⟩
  total := 0

/-! ## The times -/

theorem read_write (value : BitVec 32) : (Stored.write value).read = value := by
  unfold Stored.read Stored.write
  apply BitVec.eq_of_toNat_eq
  simp only [BitVec.toNat_ofNat]
  omega

theorem getPumpUptimeSecs_eq (times : Times) (pump : Fin pumpMaxNum) :
    times.getPumpUptimeSecs pump =
      some ((times.eepromPump pump).read + times.bootShare pump) := by
  unfold Times.getPumpUptimeSecs Times.bootShare
  rw [dif_pos pump.isLt]
  cases times.autoTune with
  | false => rfl
  | true => rfl

theorem told_iff (watched : Watched) : watched.Told ↔
    ∀ pump, ((watched.times.eepromPump pump).read + watched.times.bootShare pump).toNat =
      watched.total := by
  constructor
  · intro told pump
    have here := told pump pump.isLt
    rw [getPumpUptimeSecs_eq] at here
    exact Option.some.inj here
  · intro sums pump known
    rw [getPumpUptimeSecs_eq watched.times ⟨pump, known⟩, Option.map_some, sums]

/-- What holds between two operations. -/
structure Sound (watched : Watched) : Prop where
  flags : watched.times.lastAutoTuneFlag = watched.times.autoTune
  told : watched.Told

theorem Sound.sum {watched : Watched} (sound : Sound watched) (pump : Fin pumpMaxNum) :
    (watched.times.eepromPump pump).read + watched.times.bootShare pump =
      BitVec.ofNat 32 watched.total := by
  rw [← (told_iff watched).mp sound.told pump, BitVec.ofNat_toNat, BitVec.setWidth_eq]

theorem Sound.fits {watched : Watched} (sound : Sound watched) : watched.total < 2 ^ 32 := by
  have sum := (told_iff watched).mp sound.told ⟨0, by decide⟩
  rw [← sum]
  exact BitVec.isLt _

theorem told_of_sums {watched : Watched} (fits : watched.total < 2 ^ 32)
    (sums : ∀ pump, (watched.times.eepromPump pump).read + watched.times.bootShare pump =
      BitVec.ofNat 32 watched.total) : watched.Told := by
  refine (told_iff watched).mpr fun pump => ?_
  rw [sums pump, BitVec.toNat_ofNat, Nat.mod_eq_of_lt fits]

/-! ## What an operation does -/

theorem pass_sum {watched : Watched} (sound : Sound watched) (milliseconds : Nat)
    (pump : Fin pumpMaxNum) :
    ((watched.pass milliseconds).times.eepromPump pump).read +
        (watched.pass milliseconds).times.bootShare pump =
      BitVec.ofNat 32 (watched.pass milliseconds).total := by
  have before := sound.sum pump
  unfold Times.bootShare at before
  unfold Watched.pass Times.bootShare
  cases on : watched.times.autoTune with
  | false =>
    rw [on, if_neg Bool.false_ne_true] at before
    exact before
  | true =>
    rw [on, if_pos rfl] at before
    simp only [if_true]
    have later : watched.times.uptime / 1000 ≤ (watched.times.uptime + milliseconds) / 1000 :=
      Nat.div_le_div_right (Nat.le_add_right _ _)
    have clock : BitVec.ofNat 32 ((watched.times.uptime + milliseconds) / 1000) =
        watched.times.nowSec + BitVec.ofNat 32
          ((watched.times.uptime + milliseconds) / 1000 - watched.times.uptime / 1000) := by
      unfold Times.nowSec
      rw [← BitVec.ofNat_add, Nat.add_sub_cancel' later]
    rw [BitVec.ofNat_add, ← before]
    change _ + (BitVec.ofNat 32 ((watched.times.uptime + milliseconds) / 1000) - _) = _
    rw [clock]
    abel

theorem setPumpUptimeSecs_share {times : Times} (pump : Fin pumpMaxNum) (bitVal : Bool)
    (differs : bitVal ≠ times.autoTune) (flags : times.lastAutoTuneFlag = times.autoTune) :
    ({ times with autoTune := bitVal }.setPumpUptimeSecs).bootShare pump =
      times.bootShare pump := by
  have changes : ¬ bitVal = times.lastAutoTuneFlag := fun same => differs (same.trans flags)
  unfold Times.setPumpUptimeSecs
  rw [if_neg changes]
  unfold Times.bootShare
  cases bitVal with
  | false =>
    have on : times.autoTune = true := Bool.not_eq_false _ ▸ differs.symm
    rw [on]
    rfl
  | true =>
    have off : times.autoTune = false := Bool.not_eq_true _ ▸ differs.symm
    rw [off]
    change times.nowSec - (_ + (times.nowSec - _)) = times.lastSwitchTime pump - _
    abel

theorem setting_kept {times : Times} (flags : times.lastAutoTuneFlag = times.autoTune)
    (systemReady : Bool) (manual : Fin 3 → Bool) (bitVal : Bool) :
    (times.pumpSettingSetAutoTuneFlag systemReady manual bitVal).2.lastAutoTuneFlag =
        (times.pumpSettingSetAutoTuneFlag systemReady manual bitVal).2.autoTune ∧
      (times.pumpSettingSetAutoTuneFlag systemReady manual bitVal).2.eepromPump =
        times.eepromPump ∧
      (times.pumpSettingSetAutoTuneFlag systemReady manual bitVal).2.bootShare =
        times.bootShare := by
  unfold Times.pumpSettingSetAutoTuneFlag
  by_cases ready : systemReady = false
  · rw [if_pos ready]
    exact ⟨flags, rfl, rfl⟩
  · rw [if_neg ready]
    by_cases held : bitVal = true ∧ ∃ index, manual index = true
    · rw [if_pos held]
      exact ⟨flags, rfl, rfl⟩
    · rw [if_neg held]
      by_cases differs : bitVal ≠ times.lastAutoTuneFlag
      · simp only [if_pos differs]
        have share := fun pump =>
          setPumpUptimeSecs_share pump bitVal (fun same => differs (same.trans flags.symm)) flags
        refine ⟨?_, ?_, funext share⟩
        · unfold Times.setPumpUptimeSecs
          rw [if_neg differs]
        · unfold Times.setPumpUptimeSecs
          rw [if_neg differs]
      · simp only [if_neg differs]
        have same : bitVal = times.autoTune := (not_not.mp differs).trans flags
        rw [same]
        exact ⟨flags, trivial, rfl⟩

theorem clear_sum (times : Times) (pump : Fin pumpMaxNum) :
    ((times.clearPumpRunningTime true).eepromPump pump).read +
      (times.clearPumpRunningTime true).bootShare pump = 0 := by
  change (⟨0, 0, 0, 0⟩ : Stored).read + (ite _ times.nowSec times.nowSec - times.nowSec) = 0
  rw [ite_self, sub_self]
  rfl

theorem save_stored (times : Times) (pump : Fin pumpMaxNum) :
    (times.shutdownSaveUptimeAction.eepromPump pump).read =
      (times.eepromPump pump).read + times.bootShare pump := by
  unfold Times.shutdownSaveUptimeAction
  simp only [getPumpUptimeSecs_eq]
  exact read_write _

theorem shutdown_sum {watched : Watched} (sound : Sound watched) (pump : Fin pumpMaxNum) :
    (watched.times.shutdownSaveUptimeAction.reboot.eepromPump pump).read +
        watched.times.shutdownSaveUptimeAction.reboot.bootShare pump =
      BitVec.ofNat 32 watched.total := by
  change (watched.times.shutdownSaveUptimeAction.eepromPump pump).read + (0 - 0) = _
  rw [save_stored, sub_zero, add_zero]
  exact sound.sum pump

theorem save_told_iff {watched : Watched} (sound : Sound watched) :
    (watched.after .save).Told ↔ ∀ pump, watched.times.bootShare pump = 0 := by
  have stored := fun pump => (save_stored watched.times pump).trans (sound.sum pump)
  constructor
  · intro told pump
    have twice := (told_iff _).mp told pump
    change ((watched.times.shutdownSaveUptimeAction.eepromPump pump).read +
      watched.times.bootShare pump).toNat = watched.total at twice
    rw [stored pump] at twice
    have same : BitVec.ofNat 32 watched.total + watched.times.bootShare pump =
        BitVec.ofNat 32 watched.total := by
      apply BitVec.eq_of_toNat_eq
      rw [twice, BitVec.toNat_ofNat, Nat.mod_eq_of_lt sound.fits]
    exact add_eq_left.mp same
  · intro none
    refine told_of_sums sound.fits fun pump => ?_
    change (watched.times.shutdownSaveUptimeAction.eepromPump pump).read +
      watched.times.bootShare pump = _
    rw [stored pump, none pump, add_zero]
    rfl

/-! ## Runs -/

theorem guarded_iff {watched : Watched} (sound : Sound watched) (op : Op) :
    Guarded watched op ↔ Right watched op := by
  cases op with
  | pass milliseconds =>
    constructor
    · exact fun fits => told_of_sums fits (pass_sum sound milliseconds)
    · intro told
      have sum := (told_iff _).mp told ⟨0, by decide⟩
      change (watched.pass milliseconds).total < 2 ^ 32
      rw [← show _ = (watched.pass milliseconds).total from sum]
      exact BitVec.isLt _
  | setAutoTune systemReady manual bitVal =>
    have kept := setting_kept sound.flags systemReady manual bitVal
    refine iff_of_true trivial (told_of_sums sound.fits fun pump => ?_)
    change ((watched.times.pumpSettingSetAutoTuneFlag systemReady manual bitVal).2.eepromPump
      pump).read + (watched.times.pumpSettingSetAutoTuneFlag systemReady manual bitVal).2.bootShare
        pump = _
    rw [kept.2.1, kept.2.2]
    exact sound.sum pump
  | clear bitVal =>
    refine iff_of_true trivial ?_
    cases bitVal with
    | false => exact sound.told
    | true => exact told_of_sums (Nat.two_pow_pos 32) (clear_sum watched.times)
  | shutdown => exact iff_of_true trivial (told_of_sums sound.fits (shutdown_sum sound))
  | save => exact (save_told_iff sound).symm

theorem step_sound {watched next : Watched} {op : Op} (sound : Sound watched)
    (guarded : Guarded watched op) (moved : step watched op = some next) : Sound next := by
  cases moved
  refine ⟨?_, (guarded_iff sound op).mp guarded⟩
  cases op with
  | pass milliseconds => exact sound.flags
  | setAutoTune systemReady manual bitVal =>
    exact (setting_kept sound.flags systemReady manual bitVal).1
  | clear bitVal =>
    cases bitVal with
    | false => exact sound.flags
    | true => exact sound.flags
  | shutdown => rfl
  | save => exact sound.flags

theorem start_sound (eepromUptime : Stored) : Sound (start eepromUptime) := by
  refine ⟨rfl, told_of_sums (Nat.two_pow_pos 32) fun _ => ?_⟩
  change (⟨0, 0, 0, 0⟩ : Stored).read + ((0 : BitVec 32) - 0) = 0
  rfl

/-- In a run over any number of boots the time of each pump is told right after every operation
exactly if each save that no reboot follows finds no time of the current boot, and the time fits in
32 bits. -/
theorem pumpTime_right_iff (eepromUptime : Stored) (ops : List Op) :
    Meets step Guarded (start eepromUptime) ops ↔ Meets step Right (start eepromUptime) ops :=
  Meets.congr_of_guarded (fun sound _ guarded moved => step_sound sound guarded moved)
    (fun sound _ => guarded_iff sound _) (start_sound eepromUptime) ops
    (fun _ _ => trivial : ∀ op ∈ ops, (fun _ => True) op)

/-- Auto-tune is on for a second, and the warning of a shutdown comes to nothing. -/
theorem pumpTime_not_right : ¬ ∀ (eepromUptime : Stored) (ops : List Op),
    Meets step Right (start eepromUptime) ops := by
  intro claimed
  have right := claimed ⟨0, 0, 0, 0⟩ [.setAutoTune true (fun _ => false) true, .pass 1000, .save]
  have none := right.2.2.1 0 (by decide)
  exact absurd none (by decide +kernel)

end OpenBic.Aalc.PumpTime
