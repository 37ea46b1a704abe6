import OpenBic.Library.Checked
import Mathlib.Tactic.IntervalCases

/-!
# PLDM sensor events

`pldm_encode_sensor_event_data`, which builds the data of a sensor event, and
`pldm_event_len_check`, which looks at an event from its class on when one is received. The check
counts the byte of the sensor event class with the class data.
-/

namespace OpenBic.Pldm.SensorEvent

open List Option Library.Checked

def pldmSuccess : UInt8 := 0x00

def pldmError : UInt8 := 0x01

def pldmErrorInvalidData : UInt8 := 0x02

def pldmErrorInvalidLength : UInt8 := 0x03

def pldmSensorEvent : UInt8 := 0x00

def pldmSensorOpState : UInt8 := 0

def pldmStateSensorState : UInt8 := 1

def pldmNumericSensorState : UInt8 := 2

/-- `PLDM_MONITOR_SENSOR_EVENT_SENSOR_OP_STATE_DATA_LENGTH`. -/
def opStateDataLength : Nat := 2

/-- `PLDM_MONITOR_SENSOR_EVENT_STATE_SENSOR_STATE_DATA_LENGTH`. -/
def stateDataLength : Nat := 3

/-- `PLDM_MONITOR_SENSOR_EVENT_NUMERIC_SENSOR_STATE_MIN_DATA_LENGTH`. -/
def numericMinDataLength : Nat := 4

/-- `PLDM_MONITOR_SENSOR_EVENT_NUMERIC_SENSOR_STATE_MAX_DATA_LENGTH`. -/
def numericMaxDataLength : Nat := 7

/-- `sizeof(struct pldm_sensor_event_op_exp_data)`. -/
def opExpDataSize : Nat := 2

/-- `sizeof(struct pldm_sensor_event_state_exp_data)`, whose offset has two bytes. -/
def stateExpDataSize : Nat := 4

/-- `sizeof(struct pldm_sensor_event_numeric_exp_data)`. -/
def numericExpDataSize : Nat := 4

/-- An event to be sent. -/
structure Event where
  sensorId : UInt16
  sensorEventClass : UInt8
  data : List UInt8
  /-- `event_data_length` has eight bits. -/
  short : data.length < 256

/-- The bytes of `struct pldm_sensor_event_data`. -/
def Event.layout (event : Event) : List UInt8 :=
  [event.sensorId.toUInt8, (event.sensorId >>> 8).toUInt8, event.sensorEventClass] ++ event.data

def pldmEncodeSensorEventData (event : Event) : Except UInt8 (List UInt8) :=
  if event.sensorEventClass = pldmSensorOpState then
    if event.data.length ≠ opStateDataLength then .error pldmErrorInvalidLength
    else .ok event.layout
  else if event.sensorEventClass = pldmStateSensorState then
    if event.data.length ≠ stateDataLength then .error pldmErrorInvalidLength
    else .ok event.layout
  else if event.sensorEventClass = pldmNumericSensorState then
    if event.data.length < numericMinDataLength ∨ numericMaxDataLength < event.data.length then
      .error pldmErrorInvalidLength
    else .ok event.layout
  else .error pldmErrorInvalidData

/-- `pldm_event_len_check` on what was received from the event class on. -/
def pldmEventLenCheck (buf : List UInt8) : Option UInt8 :=
  if buf.length = 0 then some pldmErrorInvalidLength
  else do
    let eventClass ← byteAt buf 0
    let len := buf.length - 1
    if eventClass = pldmSensorEvent then
      if len ≤ 3 then some pldmErrorInvalidLength
      else do
        let sensorEventClass ← byteAt buf 3
        let len := len - 2
        if sensorEventClass = pldmSensorOpState then
          some (if len ≠ opExpDataSize then pldmErrorInvalidLength else pldmSuccess)
        else if sensorEventClass = pldmStateSensorState then
          some (if len ≠ stateExpDataSize then pldmErrorInvalidLength else pldmSuccess)
        else if sensorEventClass = pldmNumericSensorState then
          some (if len < numericExpDataSize then pldmErrorInvalidLength else pldmSuccess)
        else some pldmError
    else some pldmError

def sensorIdOf (buf : List UInt8) : UInt16 :=
  (buf.getD 1 0).toUInt16 ||| (buf.getD 2 0).toUInt16 <<< 8

/-- What was built passes the check, and the receiver reads the same. -/
def Passes (event : Event) : Prop :=
  ∀ bytes, pldmEncodeSensorEventData event = .ok bytes →
    pldmEventLenCheck (pldmSensorEvent :: bytes) = some pldmSuccess ∧
      sensorIdOf (pldmSensorEvent :: bytes) = event.sensorId ∧
      (pldmSensorEvent :: bytes).getD 3 0 = event.sensorEventClass ∧
      (pldmSensorEvent :: bytes).drop 4 = event.data

/-- What was received is a sensor event with the length of its class. -/
def Matches (buf : List UInt8) : Prop :=
  buf.getD 0 0 = pldmSensorEvent ∧
    (buf.getD 3 0 = pldmSensorOpState ∧ buf.length = 4 + opStateDataLength ∨
      buf.getD 3 0 = pldmStateSensorState ∧ buf.length = 4 + stateDataLength ∨
      buf.getD 3 0 = pldmNumericSensorState ∧ 4 + numericMinDataLength ≤ buf.length ∧
        buf.length ≤ 4 + numericMaxDataLength)

/-- What is claimed of a message that is no event. -/
def Rejects (buf : List UInt8) : Prop :=
  ¬ Matches buf → ∃ code, pldmEventLenCheck buf = some code ∧ code ≠ pldmSuccess

/-- A sensor event that is an operational state of one byte, or a numeric one without a reading or
with more than seven bytes. -/
def Slips (buf : List UInt8) : Prop :=
  buf.getD 0 0 = pldmSensorEvent ∧
    (buf.getD 3 0 = pldmSensorOpState ∧ buf.length = 4 + 1 ∨
      buf.getD 3 0 = pldmNumericSensorState ∧
        (buf.length = 4 + 3 ∨ 4 + numericMaxDataLength < buf.length))

variable {event : Event} {buf : List UInt8}

theorem length_layout (event : Event) :
    (pldmSensorEvent :: event.layout).length = 4 + event.data.length := by
  simp only [Event.layout, length_cons, length_append, length_nil]
  omega

theorem pldmEncodeSensorEventData_eq_ok {bytes : List UInt8}
    (built : pldmEncodeSensorEventData event = .ok bytes) :
    bytes = event.layout ∧ Matches (pldmSensorEvent :: event.layout) := by
  have counted := length_layout event
  unfold pldmEncodeSensorEventData at built
  split at built
  · rename_i op
    split at built
    · cases built
    · rename_i exact
      refine ⟨(Except.ok.inj built).symm, rfl, .inl ⟨op, ?_⟩⟩
      rw [counted, not_not.mp exact]
  split at built
  · rename_i state
    split at built
    · cases built
    · rename_i exact
      refine ⟨(Except.ok.inj built).symm, rfl, .inr (.inl ⟨state, ?_⟩)⟩
      rw [counted, not_not.mp exact]
  split at built
  · rename_i numeric
    split at built
    · cases built
    · refine ⟨(Except.ok.inj built).symm, rfl, .inr (.inr ⟨numeric, ?_, ?_⟩)⟩ <;> omega
  · cases built

/-- What the length check lets pass. -/
def Admitted (buf : List UInt8) : Prop :=
  buf.getD 0 0 = pldmSensorEvent ∧
    (buf.getD 3 0 = pldmSensorOpState ∧ buf.length = 3 + opExpDataSize ∨
      buf.getD 3 0 = pldmStateSensorState ∧ buf.length = 3 + stateExpDataSize ∨
      buf.getD 3 0 = pldmNumericSensorState ∧ 3 + numericExpDataSize ≤ buf.length)

theorem code_iff {wrong admitted : Prop} [Decidable wrong] (same : ¬ wrong ↔ admitted) :
    (if wrong then pldmErrorInvalidLength else pldmSuccess) = pldmSuccess ↔ admitted := by
  split
  · rename_i refused
    exact iff_of_false (by decide) fun holds => same.mpr holds refused
  · rename_i passed
    exact iff_of_true rfl (same.mp passed)

/-- The check returns, with success for what it lets pass. -/
theorem pldmEventLenCheck_eq (buf : List UInt8) :
    ∃ code, pldmEventLenCheck buf = some code ∧ (code = pldmSuccess ↔ Admitted buf) := by
  have refused : pldmErrorInvalidLength ≠ pldmSuccess := by decide
  have failed : pldmError ≠ pldmSuccess := by decide
  have two : opExpDataSize = 2 := rfl
  have four : stateExpDataSize = 4 ∧ numericExpDataSize = 4 := ⟨rfl, rfl⟩
  unfold pldmEventLenCheck
  by_cases empty : buf.length = 0
  · refine ⟨pldmErrorInvalidLength, if_pos empty, iff_of_false refused fun admitted => ?_⟩
    rcases admitted.2 with ⟨-, length⟩ | ⟨-, length⟩ | ⟨-, length⟩ <;> omega
  rw [if_neg empty, byteAt_eq (show 0 < buf.length by omega), bind_eq_bind, bind_some]
  by_cases sensor : buf.getD 0 0 = pldmSensorEvent
  swap
  · exact ⟨pldmError, if_neg sensor, iff_of_false failed fun admitted => sensor admitted.1⟩
  rw [if_pos sensor]
  by_cases short : buf.length - 1 ≤ 3
  · refine ⟨pldmErrorInvalidLength, if_pos short, iff_of_false refused fun admitted => ?_⟩
    rcases admitted.2 with ⟨-, length⟩ | ⟨-, length⟩ | ⟨-, length⟩ <;> omega
  rw [if_neg short, byteAt_eq (show 3 < buf.length by omega), bind_some]
  unfold Admitted
  have stateOp : pldmStateSensorState ≠ pldmSensorOpState := by decide
  have numericOp : pldmNumericSensorState ≠ pldmSensorOpState := by decide
  have numericState : pldmNumericSensorState ≠ pldmStateSensorState := by decide
  by_cases op : buf.getD 3 0 = pldmSensorOpState
  · rw [if_pos op]
    refine ⟨_, rfl, code_iff ?_⟩
    simp only [sensor, op, true_and, stateOp.symm, numericOp.symm, false_and, or_false]
    omega
  rw [if_neg op]
  by_cases state : buf.getD 3 0 = pldmStateSensorState
  · rw [if_pos state]
    refine ⟨_, rfl, code_iff ?_⟩
    simp only [sensor, state, true_and, stateOp, numericState.symm, false_and, false_or, or_false]
    omega
  rw [if_neg state]
  by_cases numeric : buf.getD 3 0 = pldmNumericSensorState
  · rw [if_pos numeric]
    refine ⟨_, rfl, code_iff ?_⟩
    simp only [sensor, numeric, true_and, numericOp, numericState, false_and, false_or]
    omega
  · refine ⟨pldmError, if_neg numeric, iff_of_false failed fun admitted => ?_⟩
    rcases admitted.2 with ⟨wrong, -⟩ | ⟨wrong, -⟩ | ⟨wrong, -⟩
    · exact op wrong
    · exact state wrong
    · exact numeric wrong

theorem sensorId_bytes (id : UInt16) :
    id.toUInt8.toUInt16 ||| (id >>> 8).toUInt8.toUInt16 <<< 8 = id := by
  apply UInt16.toBitVec_inj.mp
  ext i inside
  interval_cases i <;> simp [-UInt16.toUInt16_toUInt8]

/-- What was built passes the check unless it is an operational state. -/
theorem passes_iff (event : Event) :
    Passes event ↔ (event.sensorEventClass = pldmSensorOpState →
      event.data.length ≠ opStateDataLength) := by
  have counted := length_layout event
  constructor
  · intro passes op exact
    have built : pldmEncodeSensorEventData event = .ok event.layout := by
      unfold pldmEncodeSensorEventData
      rw [if_pos op, if_neg (not_not.mpr exact)]
    obtain ⟨code, checked, success⟩ := pldmEventLenCheck_eq (pldmSensorEvent :: event.layout)
    have passed := (passes _ built).1
    rw [checked] at passed
    have admitted := success.mp (Option.some.inj passed)
    have two : opStateDataLength = 2 := rfl
    rcases admitted.2 with ⟨-, length⟩ | ⟨state, -⟩ | ⟨numeric, -⟩
    · have three : 3 + opExpDataSize = 5 := rfl
      omega
    · exact absurd (op.symm.trans state) (by decide)
    · exact absurd (op.symm.trans numeric) (by decide)
  · intro other bytes built
    obtain ⟨rfl, -, lengths⟩ := pldmEncodeSensorEventData_eq_ok built
    obtain ⟨code, checked, success⟩ := pldmEventLenCheck_eq (pldmSensorEvent :: event.layout)
    refine ⟨?_, sensorId_bytes event.sensorId, rfl, rfl⟩
    rw [checked]
    refine congrArg some (success.mpr ⟨rfl, ?_⟩)
    rcases lengths with ⟨op, length⟩ | ⟨state, length⟩ | ⟨numeric, least, -⟩
    · exact absurd (by omega) (other op)
    · exact .inr (.inl ⟨state, length⟩)
    · exact .inr (.inr ⟨numeric, Nat.le_trans (by decide) least⟩)

/-- What does not match its class is rejected unless it slips through. -/
theorem rejects_iff (buf : List UInt8) : Rejects buf ↔ ¬ Slips buf := by
  obtain ⟨code, checked, success⟩ := pldmEventLenCheck_eq buf
  have lengths : opExpDataSize = 2 ∧ stateExpDataSize = 4 ∧ numericExpDataSize = 4 :=
    ⟨rfl, rfl, rfl⟩
  have own : opStateDataLength = 2 ∧ stateDataLength = 3 ∧ numericMinDataLength = 4 ∧
      numericMaxDataLength = 7 := ⟨rfl, rfl, rfl, rfl⟩
  have stateOp : pldmStateSensorState ≠ pldmSensorOpState := by decide
  have numericOp : pldmNumericSensorState ≠ pldmSensorOpState := by decide
  have numericState : pldmNumericSensorState ≠ pldmStateSensorState := by decide
  constructor
  · rintro rejects ⟨sensor, slips⟩
    have unmatched : ¬ Matches buf := by
      rintro ⟨-, matching⟩
      rcases slips with ⟨op, length⟩ | ⟨numeric, length⟩
      · rcases matching with ⟨-, exact⟩ | ⟨state, -⟩ | ⟨numeric, -⟩
        · omega
        · exact stateOp (state.symm.trans op)
        · exact numericOp (numeric.symm.trans op)
      · rcases matching with ⟨op, -⟩ | ⟨state, -⟩ | ⟨-, least, most⟩
        · exact numericOp (numeric.symm.trans op)
        · exact numericState (numeric.symm.trans state)
        · omega
    obtain ⟨other, ran, refused⟩ := rejects unmatched
    rw [checked] at ran
    cases ran
    refine refused (success.mpr ⟨sensor, ?_⟩)
    rcases slips with ⟨op, length⟩ | ⟨numeric, length⟩
    · exact .inl ⟨op, by omega⟩
    · exact .inr (.inr ⟨numeric, by omega⟩)
  · intro caught unmatched
    refine ⟨code, checked, fun passed => ?_⟩
    obtain ⟨sensor, admitted⟩ := success.mp passed
    rcases admitted with ⟨op, length⟩ | ⟨state, length⟩ | ⟨numeric, least⟩
    · exact caught ⟨sensor, .inl ⟨op, by omega⟩⟩
    · exact unmatched ⟨sensor, .inr (.inl ⟨state, by omega⟩)⟩
    · by_cases bounded : 4 + numericMinDataLength ≤ buf.length ∧
          buf.length ≤ 4 + numericMaxDataLength
      · exact unmatched ⟨sensor, .inr (.inr ⟨numeric, bounded⟩)⟩
      · exact caught ⟨sensor, .inr ⟨numeric, by omega⟩⟩

/-- Which built events the length check lets pass, and which received ones it rejects. -/
theorem sensorEvents_checked (event : Event) (buf : List UInt8) :
    (Passes event ↔ (event.sensorEventClass = pldmSensorOpState →
        event.data.length ≠ opStateDataLength)) ∧
      (Rejects buf ↔ ¬ Slips buf) :=
  ⟨passes_iff event, rejects_iff buf⟩

def opState : Event :=
  { sensorId := 0x30, sensorEventClass := 0, data := [0, 1], short := by decide }

/-- It does not pass, and half of one is not rejected. -/
theorem opState_fails : ¬ Passes opState ∧ ¬ Rejects [0x00, 0x30, 0x00, 0x00, 0x00] := by
  constructor
  · rw [passes_iff]
    exact fun passes => passes rfl rfl
  · rw [rejects_iff]
    exact not_not.mpr ⟨rfl, .inl ⟨rfl, rfl⟩⟩

end OpenBic.Pldm.SensorEvent
