import OpenBic.Library.Machine

/-!
# Sensor readings

`get_sensor_reading` of `sensor.c`. A reading is taken from the device, between two hooks of the
platform, or from the cache. What the hooks and the driver do is given with each call. The value of
the last device read that succeeded is kept beside the sensor, to compare readings with.
-/

namespace OpenBic.Sensor

open List Library.Machine

/-! ## The sensors -/

def readSuccess : UInt8 := 0

def readAcurSuccess : UInt8 := 1

def notAccessible : UInt8 := 3

def initStatus : UInt8 := 5

def unspecifiedError : UInt8 := 6

def pollingDisable : UInt8 := 7

def preReadError : UInt8 := 8

def postReadError : UInt8 := 9

def read4ByteAcurSuccess : UInt8 := 11

def notPresent : UInt8 := 12

def unavailable : UInt8 := 15

def sensorFail : Int := 0xFF

def sensorReadRetryMax : Nat := 3

def getFromCache : UInt8 := 0

def getFromSensor : UInt8 := 1

/-- What a sensor has in its cache. -/
structure Cached where
  value : Int
  /-- `cache_status`, a byte that the statuses of two services share. -/
  status : UInt8

structure SensorCfg where
  num : UInt8
  /-- Whether there is a `pre_sensor_read_hook`. -/
  hasPre : Bool
  /-- Whether there is a `read`. -/
  hasRead : Bool
  /-- Whether there is a `post_sensor_read_hook`. -/
  hasPost : Bool
  /-- `cache` and `cache_status`. -/
  cached : Cached
  retry : Nat
  last : Option Int

/-- What the callbacks of a sensor do during one call. The hooks and the driver have the sensor,
and may change what is in its cache. -/
structure Callbacks where
  accessible : Bool
  /-- `access_checker`, when it is asked again. -/
  accessibleAgain : Bool
  /-- `pre_sensor_read_hook`: what is in the cache then, and whether it succeeds. -/
  pre : Cached → Cached × Bool
  /-- `read`: its status, and what it leaves in the reading, which is zero before. -/
  read : Cached → Cached × UInt8 × Int
  /-- `post_sensor_read_hook` of a reading, if there is one: whether it succeeds, and what it leaves
  in the reading. -/
  post : Cached → Option Int → Cached × Bool × Int

/-- A call of a hook. -/
inductive HookCall where
  /-- `pre_sensor_read_hook`, and whether it succeeds. -/
  | pre (ok : Bool)
  | post
deriving DecidableEq

/-- What a call leaves. -/
structure Outcome where
  sensor : SensorCfg
  status : UInt8
  reading : Int
  hooks : List HookCall

/-! ## The code -/

def SensorCfg.returns (sensor : SensorCfg) (reading : Int) (hooks : List HookCall) : Outcome :=
  ⟨sensor, sensor.cached.status, reading, hooks⟩

def SensorCfg.setStatus (sensor : SensorCfg) (status : UInt8) : SensorCfg :=
  { sensor with cached := { sensor.cached with status } }

def SensorCfg.setValue (sensor : SensorCfg) (value : Int) : SensorCfg :=
  { sensor with cached := { sensor.cached with value } }

/-- `clear_unaccessible_sensor_cache`. -/
def SensorCfg.clear (sensor : SensorCfg) : SensorCfg :=
  if sensor.cached.status ≠ initStatus then (sensor.setValue sensorFail).setStatus initStatus
  else sensor

def isRead (status : UInt8) : Bool := status == readSuccess || status == readAcurSuccess

def isSuccess (status : UInt8) : Bool := isRead status || status == read4ByteAcurSuccess

def callPre (sensor : SensorCfg) (callbacks : Callbacks) : SensorCfg × Bool × List HookCall :=
  if sensor.hasPre then
    let (cached, ok) := callbacks.pre sensor.cached
    ({ sensor with cached }, ok, [.pre ok])
  else (sensor, true, [])

def callRead (sensor : SensorCfg) (callbacks : Callbacks) : SensorCfg × UInt8 × Int :=
  if sensor.hasRead then
    let (cached, status, reading) := callbacks.read sensor.cached
    ({ sensor with cached }, status, reading)
  else (sensor, unspecifiedError, 0)

/-- The post-read hook, if there is one, with a reading or without. -/
def callPost (sensor : SensorCfg) (callbacks : Callbacks) (reading : Option Int) :
    SensorCfg × Bool × Int × List HookCall :=
  if sensor.hasPost then
    let (cached, ok, changed) := callbacks.post sensor.cached reading
    ({ sensor with cached }, ok, changed, [.post])
  else (sensor, true, reading.getD 0, [])

def readSucceeded (sensor : SensorCfg) (callbacks : Callbacks) (reading : Int)
    (hooks : List HookCall) : Outcome :=
  let (sensor, postRet, reading, called) :=
    callPost { sensor with retry := 0 } callbacks (some reading)
  if !callbacks.accessibleAgain then
    (sensor.clear.setStatus notAccessible).returns reading (hooks ++ called)
  else if sensor.hasPost && !postRet then
    (sensor.setStatus postReadError).returns reading (hooks ++ called)
  else
    { (sensor.setValue reading).setStatus read4ByteAcurSuccess with last := some reading }.returns
      reading (hooks ++ called)

/-- A device read that failed. The status of the cache stays until enough of them have. -/
def readFailed (sensor : SensorCfg) (callbacks : Callbacks) (currentStatus : UInt8) (reading : Int)
    (hooks : List HookCall) : Outcome :=
  let sensor := if sensorReadRetryMax ≤ sensor.retry then sensor.setStatus currentStatus
    else { sensor with retry := sensor.retry + 1 }
  let (sensor, _, _, called) := callPost sensor callbacks none
  sensor.returns reading (hooks ++ called)

def isSkipped (status : UInt8) : Bool := status == notPresent || status == pollingDisable

def readFromSensor (sensor : SensorCfg) (callbacks : Callbacks) : Outcome :=
  let (sensor, ok, hooks) := callPre sensor callbacks
  if !ok then (sensor.setStatus preReadError).returns 0 hooks
  else if sensor.hasPre && isSkipped sensor.cached.status then sensor.returns 0 hooks
  else
    let (sensor, currentStatus, reading) := callRead sensor callbacks
    if isRead currentStatus then readSucceeded sensor callbacks reading hooks
    else readFailed sensor callbacks currentStatus reading hooks

def readFromCache (sensor : SensorCfg) (callbacks : Callbacks) : Outcome :=
  let status := sensor.cached.status
  if isSuccess status then
    let reading := sensor.cached.value
    if callbacks.accessibleAgain then sensor.returns reading []
    else (sensor.setStatus notAccessible).returns reading []
  else if status = unavailable then sensor.returns 0 []
  else (sensor.setValue sensorFail).returns 0 []

/-- `get_sensor_reading` of a sensor that was found. -/
def getSensorReading (sensor : SensorCfg) (readMode : UInt8) (callbacks : Callbacks) : Outcome :=
  if sensor.cached.status = notPresent then sensor.returns 0 []
  else if !callbacks.accessible then (sensor.clear.setStatus notAccessible).returns 0 []
  else if readMode = getFromSensor then readFromSensor sensor callbacks
  else if readMode = getFromCache then readFromCache sensor callbacks
  else (sensor.setStatus unspecifiedError).returns 0 []

/-- `find_sensor_cfg_via_sensor_num`, as a place in the table. -/
def findSensorCfgViaSensorNum (sensors : List SensorCfg) (sensorNum : UInt8) : Option Nat :=
  sensors.findIdx? fun sensor => sensor.num == sensorNum

/-- What can happen to the sensors of a table. -/
inductive SensorEvent where
  | getSensorReading (sensorNum readMode : UInt8) (callbacks : Callbacks)
  /-- `control_sensor_polling` with a status. -/
  | controlSensorPolling (sensorNum cacheStatus : UInt8)
  /-- `sensor_poll_handler` finds the polling of a sensor disabled. -/
  | pollDisabled (sensorNum : UInt8)
  /-- A device that answers later, `cpu_power_write` and its like, with a value. -/
  | mailboxWrite (sensorNum : UInt8) (value : Int)

def SensorEvent.sensorNum : SensorEvent → UInt8
  | .getSensorReading sensorNum _ _ => sensorNum
  | .controlSensorPolling sensorNum _ => sensorNum
  | .pollDisabled sensorNum => sensorNum
  | .mailboxWrite sensorNum _ => sensorNum

def SensorCfg.after (sensor : SensorCfg) : SensorEvent → SensorCfg
  | .getSensorReading _ readMode callbacks => (getSensorReading sensor readMode callbacks).sensor
  | .controlSensorPolling _ cacheStatus => sensor.setStatus cacheStatus
  | .pollDisabled _ =>
    if sensor.cached.status = notPresent then sensor
    else (sensor.setValue sensorFail).setStatus pollingDisable
  | .mailboxWrite _ value =>
    { (sensor.setValue value).setStatus read4ByteAcurSuccess with last := some value }

/-- One step of the table. Nothing happens to a number that is not in it. -/
def step (sensors : List SensorCfg) (event : SensorEvent) : Option (List SensorCfg) :=
  match findSensorCfgViaSensorNum sensors event.sensorNum with
  | none => some sensors
  | some index => some (sensors.modify index (·.after event))

/-! ## What is claimed -/

/-- A call tells the value of the last device read that succeeded when it tells a success. -/
def Outcome.Honest (outcome : Outcome) : Prop :=
  isSuccess outcome.status = true → outcome.sensor.last = some outcome.reading

/-- A property of the sensor that an event is about. -/
def About (sensors : List SensorCfg) (event : SensorEvent) (holds : SensorCfg → Prop) : Prop :=
  ∀ index ∈ findSensorCfgViaSensorNum sensors event.sensorNum, ∀ sensor ∈ sensors[index]?,
    holds sensor

/-- An event that is a call of `get_sensor_reading` is honest about the sensor. -/
def SensorCfg.Honest (sensor : SensorCfg) : SensorEvent → Prop
  | .getSensorReading _ readMode callbacks =>
    (getSensorReading sensor readMode callbacks).Honest
  | _ => True

/-- What is claimed of the next event. -/
def Honest (sensors : List SensorCfg) (event : SensorEvent) : Prop :=
  About sensors event fun sensor => sensor.Honest event

/-- The cache is kept, or has no success. -/
def Keeps (before after : Cached) : Prop := after = before ∨ isSuccess after.status = false

/-- Callbacks that change what is in the cache leave an error there. -/
structure Callbacks.Harmless (callbacks : Callbacks) : Prop where
  pre : ∀ cached, Keeps cached (callbacks.pre cached).1
  read : ∀ cached, Keeps cached (callbacks.read cached).1
  post : ∀ cached reading, Keeps cached (callbacks.post cached reading).1

def afterRead (sensor : SensorCfg) (callbacks : Callbacks) : SensorCfg :=
  (callRead (callPre sensor callbacks).1 callbacks).1

def readStatus (sensor : SensorCfg) (callbacks : Callbacks) : UInt8 :=
  (callRead (callPre sensor callbacks).1 callbacks).2.1

/-- A device is read during the call. -/
structure ReadsDevice (sensor : SensorCfg) (readMode : UInt8) (callbacks : Callbacks) : Prop where
  present : sensor.cached.status ≠ notPresent
  accessible : callbacks.accessible = true
  mode : readMode = getFromSensor
  hook : (callPre sensor callbacks).2.1 = true
  enabled : ((callPre sensor callbacks).1.hasPre &&
    isSkipped (callPre sensor callbacks).1.cached.status) = false

/-- A device read that fails leaves no success in the cache: it has failed often enough before, or
the cache said an error. -/
def FailsOpenly (sensor : SensorCfg) (readMode : UInt8) (callbacks : Callbacks) : Prop :=
  ReadsDevice sensor readMode callbacks → isRead (readStatus sensor callbacks) = false →
    isSuccess (if sensorReadRetryMax ≤ (afterRead sensor callbacks).retry
      then readStatus sensor callbacks else (afterRead sensor callbacks).cached.status) = false

/-- The condition, of one sensor. -/
def SensorCfg.Careful (sensor : SensorCfg) : SensorEvent → Prop
  | .getSensorReading _ readMode callbacks =>
    callbacks.Harmless ∧ FailsOpenly sensor readMode callbacks
  | .controlSensorPolling _ cacheStatus => isSuccess cacheStatus = false
  | _ => True

/-- The condition on an event. -/
def Careful (sensors : List SensorCfg) (event : SensorEvent) : Prop :=
  About sensors event fun sensor => sensor.Careful event

/-- A success in the cache is about the value of the last device read that succeeded. -/
def Consistent (sensor : SensorCfg) : Prop :=
  isSuccess sensor.cached.status = true → sensor.last = some sensor.cached.value

/-! ## One call -/

variable {sensor : SensorCfg} {callbacks : Callbacks} {readMode : UInt8} {reading : Int}
  {hooks : List HookCall}

theorem consistent_of_error (error : isSuccess sensor.cached.status = false) :
    Consistent sensor := by
  intro success
  rw [error] at success
  exact absurd success Bool.false_ne_true

/-- What is right about an outcome. -/
structure Right (outcome : Outcome) : Prop where
  consistent : Consistent outcome.sensor
  honest : outcome.Honest

theorem right_error (error : isSuccess sensor.cached.status = false) :
    Right (sensor.returns reading hooks) where
  consistent := consistent_of_error error
  honest success := by
    have same : isSuccess sensor.cached.status = true := success
    rw [error] at same
    exact absurd same Bool.false_ne_true

theorem readSucceeded_right (sensor : SensorCfg) (callbacks : Callbacks) (reading : Int)
    (hooks : List HookCall) : Right (readSucceeded sensor callbacks reading hooks) := by
  unfold readSucceeded
  dsimp only
  split
  · exact right_error rfl
  · split
    · exact right_error rfl
    · exact ⟨fun _ => rfl, fun _ => rfl⟩

theorem callPost_error (harmless : callbacks.Harmless)
    (error : isSuccess sensor.cached.status = false) :
    isSuccess (callPost sensor callbacks none).1.cached.status = false := by
  unfold callPost
  split
  · cases harmless.post sensor.cached none with
    | inl same =>
      dsimp only
      rw [same]
      exact error
    | inr fails => exact fails
  · exact error

theorem readFailed_right (harmless : callbacks.Harmless) {currentStatus : UInt8}
    (openly : isSuccess (if sensorReadRetryMax ≤ sensor.retry then currentStatus
      else sensor.cached.status) = false) :
    Right (readFailed sensor callbacks currentStatus reading hooks) := by
  apply right_error
  apply callPost_error harmless
  by_cases often : sensorReadRetryMax ≤ sensor.retry
  · rw [if_pos often] at openly ⊢
    exact openly
  · rw [if_neg often] at openly ⊢
    exact openly

theorem readFromCache_right (consistent : Consistent sensor) :
    Right (readFromCache sensor callbacks) := by
  unfold readFromCache
  by_cases success : isSuccess sensor.cached.status = true
  · rw [if_pos success]
    split
    · exact ⟨consistent, fun _ => consistent success⟩
    · exact right_error rfl
  · have error : isSuccess sensor.cached.status = false := Bool.eq_false_iff.mpr success
    rw [if_neg success]
    split
    · exact right_error error
    · exact right_error error

theorem error_of_isSkipped {status : UInt8} (skipped : isSkipped status = true) :
    isSuccess status = false := by
  cases (Bool.or_eq_true _ _).mp skipped with
  | inl absent =>
    rw [eq_of_beq absent]
    rfl
  | inr disabled =>
    rw [eq_of_beq disabled]
    rfl

theorem readFromSensor_right (harmless : callbacks.Harmless)
    (openly : (callPre sensor callbacks).2.1 = true →
      ((callPre sensor callbacks).1.hasPre &&
        isSkipped (callPre sensor callbacks).1.cached.status) = false →
      isRead (readStatus sensor callbacks) = false →
      isSuccess (if sensorReadRetryMax ≤ (afterRead sensor callbacks).retry
        then readStatus sensor callbacks else (afterRead sensor callbacks).cached.status) = false) :
    Right (readFromSensor sensor callbacks) := by
  unfold readFromSensor
  dsimp only
  split
  · exact right_error rfl
  · rename_i hook
    split
    · rename_i skipped
      exact right_error (error_of_isSkipped (Bool.and_eq_true_iff.mp skipped).2)
    · rename_i enabled
      split
      · exact readSucceeded_right _ _ _ _
      · rename_i fails
        apply readFailed_right harmless
        apply openly
        · simpa using hook
        · exact Bool.eq_false_iff.mpr enabled
        · exact Bool.eq_false_iff.mpr fails

theorem getSensorReading_right (consistent : Consistent sensor) (harmless : callbacks.Harmless)
    (openly : FailsOpenly sensor readMode callbacks) :
    Right (getSensorReading sensor readMode callbacks) := by
  unfold getSensorReading
  split
  · rename_i absent
    apply right_error
    rw [absent]
    rfl
  · rename_i present
    split
    · exact right_error rfl
    · rename_i accessible
      split
      · rename_i mode
        apply readFromSensor_right harmless
        intro hook enabled
        exact openly ⟨present, by simpa using accessible, mode, hook, enabled⟩
      · split
        · exact readFromCache_right consistent
        · exact right_error rfl

/-! ## Runs -/

theorem consistent_after {event : SensorEvent} (consistent : Consistent sensor)
    (careful : sensor.Careful event) : Consistent (sensor.after event) := by
  cases event with
  | getSensorReading sensorNum readMode callbacks =>
    exact (getSensorReading_right consistent careful.1 careful.2).consistent
  | controlSensorPolling sensorNum cacheStatus => exact consistent_of_error careful
  | pollDisabled sensorNum =>
    unfold SensorCfg.after
    dsimp only
    split
    · exact consistent
    · exact consistent_of_error rfl
  | mailboxWrite sensorNum value => exact fun _ => rfl

theorem honest_about {event : SensorEvent} (consistent : Consistent sensor)
    (careful : sensor.Careful event) : sensor.Honest event := by
  cases event with
  | getSensorReading sensorNum readMode callbacks =>
    exact (getSensorReading_right consistent careful.1 careful.2).honest
  | controlSensorPolling sensorNum cacheStatus => trivial
  | pollDisabled sensorNum => trivial
  | mailboxWrite sensorNum value => trivial

theorem forall_modify {α : Type} {items : List α} {index : Nat} {change : α → α} {holds : α → Prop}
    (all : ∀ item ∈ items, holds item) (changed : ∀ item ∈ items[index]?, holds (change item)) :
    ∀ item ∈ items.modify index change, holds item := by
  intro item listed
  obtain ⟨place, here⟩ := mem_iff_getElem?.mp listed
  rw [getElem?_modify] at here
  split at here
  · rename_i same
    obtain ⟨before, found, rfl⟩ := Option.map_eq_some_iff.mp here
    exact changed before (same ▸ found)
  · obtain ⟨before, found, rfl⟩ := Option.map_eq_some_iff.mp here
    exact all before (mem_iff_getElem?.mpr ⟨place, found⟩)

variable {sensors next : List SensorCfg} {event : SensorEvent}

/-- A careful event keeps each sensor consistent. -/
theorem consistent_step (consistent : ∀ sensor ∈ sensors, Consistent sensor)
    (careful : Careful sensors event) (moved : step sensors event = some next) :
    ∀ sensor ∈ next, Consistent sensor := by
  unfold step at moved
  cases found : findSensorCfgViaSensorNum sensors event.sensorNum with
  | none =>
    rw [found] at moved
    cases moved
    exact consistent
  | some index =>
    rw [found] at moved
    cases moved
    apply forall_modify consistent
    intro sensor here
    have listed : sensor ∈ sensors := mem_iff_getElem?.mpr ⟨index, here⟩
    exact consistent_after (consistent sensor listed) (careful index found sensor here)

/-- A careful event on consistent sensors is reported as it went. -/
theorem honest_step (consistent : ∀ sensor ∈ sensors, Consistent sensor)
    (careful : Careful sensors event) : Honest sensors event := by
  intro index found sensor here
  have listed : sensor ∈ sensors := mem_iff_getElem?.mpr ⟨index, here⟩
  exact honest_about (consistent sensor listed) (careful index found sensor here)

theorem step_isSome (sensors : List SensorCfg) (event : SensorEvent) :
    ∃ next, step sensors event = some next := by
  unfold step
  split
  · exact ⟨_, rfl⟩
  · exact ⟨_, rfl⟩

/-- No event stops a run. -/
theorem run_isSome (sensors : List SensorCfg) (events : List SensorEvent) :
    ∃ final, run step sensors events = some final := by
  induction events generalizing sensors with
  | nil => exact ⟨sensors, rfl⟩
  | cons event rest ih =>
    obtain ⟨next, moved⟩ := step_isSome sensors event
    obtain ⟨final, ran⟩ := ih next
    exact ⟨final, run_cons_eq_some.mpr ⟨next, moved, ran⟩⟩

/-- No sensor's cache has a success. -/
def Fresh (sensors : List SensorCfg) : Prop :=
  ∀ sensor ∈ sensors, isSuccess sensor.cached.status = false

/-- In every run from fresh sensors in which callbacks leave no success in the cache, and no device
read fails while the cache says a success, every call is honest. -/
theorem honest_run {events : List SensorEvent} (fresh : Fresh sensors)
    (careful : Meets step Careful sensors events) : Meets step Honest sensors events := by
  obtain ⟨final, ran⟩ := run_isSome sensors events
  have initial : ∀ sensor ∈ sensors, Consistent sensor :=
    fun sensor listed => consistent_of_error (fresh sensor listed)
  apply Meets.of_invariant consistent_step ?_ initial careful ran
  exact fun consistent careful _ => honest_step consistent careful

/-! ## A read that fails after one that succeeds -/

def benchSensor : SensorCfg where
  num := 0x10
  hasPre := false
  hasRead := true
  hasPost := false
  cached := ⟨sensorFail, initStatus⟩
  retry := 0
  last := none

def answering (status : UInt8) (value : Int) : Callbacks where
  accessible := true
  accessibleAgain := true
  pre cached := (cached, true)
  read cached := (cached, status, value)
  post cached reading := (cached, true, reading.getD 0)

def failingSecond : List SensorEvent :=
  [.getSensorReading 0x10 getFromSensor (answering readSuccess 25),
    .getSensorReading 0x10 getFromSensor (answering unspecifiedError 0)]

theorem answering_harmless (status : UInt8) (value : Int) : (answering status value).Harmless where
  pre _ := .inl rfl
  read _ := .inl rfl
  post _ _ := .inl rfl

/-- A second reading that fails reports the success of the first. -/
theorem failingSecond_dishonest : ¬ Meets step Honest [benchSensor] failingSecond := by
  rintro ⟨-, second, -⟩
  have reading := second 0 rfl _ rfl rfl
  cases reading

theorem careful_fromCache (sensors : List SensorCfg) (sensorNum status : UInt8) (value : Int) :
    Careful sensors (.getSensorReading sensorNum getFromCache (answering status value)) :=
  fun _ _ _ _ => ⟨answering_harmless status value,
    fun reads => absurd reads.mode (by decide)⟩

theorem careful_answered (value : Int) : Careful [benchSensor]
    (.getSensorReading 0x10 getFromSensor (answering readSuccess value)) := by
  intro index found sensor here
  obtain rfl : 0 = index := Option.some.inj found
  obtain rfl : benchSensor = sensor := Option.some.inj here
  refine ⟨answering_harmless readSuccess value, fun _ fails => ?_⟩
  exact absurd fails Bool.true_eq_false.mp

/-- A device that answers and is then read from the cache. -/
theorem honest_run_answered : Meets step Honest [benchSensor]
    [.getSensorReading 0x10 getFromSensor (answering readSuccess 25),
      .getSensorReading 0x10 getFromCache (answering readSuccess 25)] := by
  have fresh : Fresh [benchSensor] := by
    intro sensor listed
    rw [List.mem_singleton.mp listed]
    rfl
  exact honest_run fresh ⟨careful_answered 25, careful_fromCache _ 0x10 readSuccess 25, trivial⟩

end OpenBic.Sensor
