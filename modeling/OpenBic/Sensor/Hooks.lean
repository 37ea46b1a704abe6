import OpenBic.Sensor.Reading

/-!
# Read hooks

The two services that read sensors: `get_sensor_reading` of `sensor.c`, and the polling of
`pldm_sensor.c`, which first initialises a sensor and then reads it. Both call the hooks of a
sensor, which lock what the reading needs and unlock it. The calls are kept beside each sensor. A
hook that has locked is to be followed by one that unlocks.
-/

namespace OpenBic.Sensor

open List Library.Machine

/-! ## The sensors of the two services -/

def openCircuit : UInt8 := 16

/-- `PLDM_SENSOR_ENABLED`. -/
def pldmEnabled : UInt8 := 0

/-- `PLDM_SENSOR_DISABLED`. -/
def pldmDisabled : UInt8 := 1

/-- `PLDM_SENSOR_UNAVAILABLE`. -/
def pldmUnavailable : UInt8 := 2

/-- `PLDM_SENSOR_FAILED`. -/
def pldmFailed : UInt8 := 4

/-- `PLDM_SENSOR_INITIALIZING`. -/
def pldmInitializing : UInt8 := 5

/-- `PLDM_SENSOR_OPEN_CIRCUIT`. -/
def pldmOpenCircuit : UInt8 := 8

/-- A sensor of `sensor_config`. -/
structure Watched where
  cfg : SensorCfg
  hooks : List HookCall

structure PldmSensorInfo where
  cfg : SensorCfg
  /-- Whether the type is `sensor_dev_apml_mailbox`. -/
  isMailbox : Bool
  /-- Whether the driver has an `init`. -/
  hasInit : Bool
  /-- Whether `sensor_init` is `PDR_SENSOR_ENABLE`. -/
  sensorInit : Bool
  hooks : List HookCall

/-- What the callbacks of a sensor do during one poll. -/
structure PollCallbacks where
  /-- The access checker and the hooks around `init`. -/
  check : Callbacks
  /-- `init`: what is in the cache then, and whether it succeeds. -/
  init : Cached → Cached × Bool
  intervalReady : Bool
  reading : Callbacks

/-! ## The polling of PLDM sensors -/

def pldmRead (sensor : SensorCfg) (callbacks : Callbacks) (reading : Int)
    (hooks : List HookCall) : SensorCfg × List HookCall :=
  let (sensor, ok, reading, called) := callPost sensor callbacks (some reading)
  if !ok then
    (sensor.setStatus (if sensor.cached.status = openCircuit then pldmOpenCircuit
      else pldmFailed), hooks ++ called)
  else if !callbacks.accessibleAgain then (sensor.setStatus pldmUnavailable, hooks ++ called)
  else
    ({ (sensor.setValue reading).setStatus pldmEnabled with last := some reading },
      hooks ++ called)

/-- The end of a poll that has no reading. What the hook returns is only logged. -/
def pldmUnread (sensor : SensorCfg) (callbacks : Callbacks) (hooks : List HookCall) :
    SensorCfg × List HookCall :=
  let (sensor, _, _, called) := callPost sensor callbacks none
  (sensor, hooks ++ called)

/-- `pldm_sensor_get_reading`. A sensor without a driver has the reading zero. -/
def pldmSensorGetReading (sensor : SensorCfg) (isMailbox : Bool) (callbacks : Callbacks) :
    SensorCfg × List HookCall :=
  if !callbacks.accessible then (sensor.setStatus pldmUnavailable, [])
  else
    let (sensor, ok, hooks) := callPre sensor callbacks
    if !ok then (sensor.setStatus pldmFailed, hooks)
    else if !sensor.hasRead then pldmRead sensor callbacks 0 hooks
    else
      let (sensor, status, reading) := callRead sensor callbacks
      if isMailbox then pldmUnread sensor callbacks hooks
      else if !isRead status then pldmUnread (sensor.setStatus pldmFailed) callbacks hooks
      else pldmRead sensor callbacks reading hooks

/-- The call of `init`. -/
def PldmSensorInfo.init (info : PldmSensorInfo) (callbacks : PollCallbacks) : PldmSensorInfo :=
  let (cached, ok) := callbacks.init info.cfg.cached
  let cfg := { info.cfg with cached }
  if ok then { info with cfg, sensorInit := true }
  else { info with cfg := cfg.setStatus pldmFailed }

/-- `pldm_sensor_polling_pre_check`: whether it succeeds, and the hooks that are called. -/
def pldmSensorPollingPreCheck (info : PldmSensorInfo) (callbacks : PollCallbacks) :
    PldmSensorInfo × Bool × List HookCall :=
  if !callbacks.check.accessible then (info, false, [])
  else
    let (cfg, ok, hooks) := callPre info.cfg callbacks.check
    if !ok then ({ info with cfg := cfg.setStatus pldmFailed }, false, hooks)
    else if !info.hasInit then ({ info with cfg }, false, hooks)
    else
      let info := PldmSensorInfo.init { info with cfg } callbacks
      let (cfg, ok, _, called) := callPost info.cfg callbacks.check none
      if !ok then ({ info with cfg := cfg.setStatus pldmFailed }, false, hooks ++ called)
      else ({ info with cfg }, true, hooks ++ called)

/-- What `pldm_polling_sensor_reading_optional_check` does before the reading: whether it goes on
to read, and the hooks that are called. -/
def beforeReading (info : PldmSensorInfo) (callbacks : PollCallbacks) :
    PldmSensorInfo × Bool × List HookCall :=
  let (info, ok, hooks) :=
    if info.cfg.cached.status = pldmInitializing then pldmSensorPollingPreCheck info callbacks
    else (info, true, [])
  if !ok then (info, false, hooks)
  else if !info.sensorInit then
    ({ info with cfg := info.cfg.setStatus pldmDisabled }, false, hooks)
  else (info, callbacks.intervalReady, hooks)

def pldmPollingSensorReadingOptionalCheck (info : PldmSensorInfo) (callbacks : PollCallbacks) :
    PldmSensorInfo × List HookCall :=
  let (info, ready, hooks) := beforeReading info callbacks
  if !ready then (info, hooks)
  else
    let (cfg, called) := pldmSensorGetReading info.cfg info.isMailbox callbacks.reading
    ({ info with cfg }, hooks ++ called)

/-! ## The two services -/

def SensorCfg.hookCalls (sensor : SensorCfg) : SensorEvent → List HookCall
  | .getSensorReading _ readMode callbacks => (getSensorReading sensor readMode callbacks).hooks
  | _ => []

def Watched.after (watched : Watched) (event : SensorEvent) : Watched :=
  ⟨watched.cfg.after event, watched.hooks ++ watched.cfg.hookCalls event⟩

def PldmSensorInfo.after (info : PldmSensorInfo) (callbacks : PollCallbacks) : PldmSensorInfo :=
  let (polled, called) := pldmPollingSensorReadingOptionalCheck info callbacks
  { polled with hooks := info.hooks ++ called }

/-- The sensors of both services. -/
structure Services where
  sensorConfig : List Watched
  pldmSensorList : List PldmSensorInfo

/-- What can happen to the sensors. -/
inductive ServiceEvent where
  | sensor (event : SensorEvent)
  /-- `pldm_sensor_polling_handler` comes to a sensor. -/
  | poll (index : Nat) (callbacks : PollCallbacks)

/-- `find_sensor_cfg_via_sensor_num` in the table of the first service. -/
def Services.find (services : Services) (sensorNum : UInt8) : Option Nat :=
  findSensorCfgViaSensorNum (services.sensorConfig.map (·.cfg)) sensorNum

def Services.step (services : Services) : ServiceEvent → Option Services
  | .sensor event =>
    match services.find event.sensorNum with
    | none => some services
    | some index => some { services with
        sensorConfig := services.sensorConfig.modify index (·.after event) }
  | .poll index callbacks => some { services with
      pldmSensorList := services.pldmSensorList.modify index (·.after callbacks) }

/-! ## What is claimed -/

/-- How often the post-read hook is called before the next pre-read hook. -/
def postsBefore (hooks : List HookCall) : Nat := (hooks.takeWhile (· == .post)).length

/-- Every pre-read hook that succeeded is followed by exactly one post-read hook before the next
pre-read hook. -/
def Paired : List HookCall → Prop
  | [] => True
  | .pre true :: rest => postsBefore rest = 1 ∧ Paired rest
  | .pre false :: rest => Paired rest
  | .post :: rest => Paired rest

/-- The hooks of all sensors are paired. -/
structure Services.Paired (services : Services) : Prop where
  sensors : ∀ watched ∈ services.sensorConfig, Sensor.Paired watched.hooks
  pldm : ∀ info ∈ services.pldmSensorList, Sensor.Paired info.hooks

/-- A call of `get_sensor_reading` whose pre-read hook succeeds has a post-read hook, and the
pre-read hook does not say that the sensor is absent or disabled. -/
def SensorCfg.Releases (sensor : SensorCfg) : SensorEvent → Prop
  | .getSensorReading _ readMode callbacks =>
    sensor.cached.status ≠ notPresent → callbacks.accessible = true → readMode = getFromSensor →
      sensor.hasPre = true → (callbacks.pre sensor.cached).2 = true →
      sensor.hasPost = true ∧ isSkipped (callbacks.pre sensor.cached).1.status = false
  | _ => True

/-- The same for a poll. -/
structure PldmSensorInfo.Releases (info : PldmSensorInfo) (callbacks : PollCallbacks) :
    Prop where
  /-- Where a sensor is initialised and its pre-read hook succeeds, there are an `init` and a
  post-read hook. -/
  check : info.cfg.cached.status = pldmInitializing → callbacks.check.accessible = true →
    info.cfg.hasPre = true → (callbacks.check.pre info.cfg.cached).2 = true →
    info.hasInit = true ∧ info.cfg.hasPost = true
  reading : (beforeReading info callbacks).2.1 = true → callbacks.reading.accessible = true →
    info.cfg.hasPre = true →
    (callbacks.reading.pre (beforeReading info callbacks).1.cfg.cached).2 = true →
    info.cfg.hasPost = true

/-- The condition: what a pre-read hook took is given back. -/
def Services.Releases (services : Services) : ServiceEvent → Prop
  | .sensor event => ∀ index ∈ services.find event.sensorNum,
    ∀ watched ∈ services.sensorConfig[index]?, watched.cfg.Releases event
  | .poll index callbacks => ∀ info ∈ services.pldmSensorList[index]?, info.Releases callbacks

/-! ## Brackets -/

/-- Each pre-read hook that succeeded is followed by one post-read hook, and no others are called.
-/
def Bracketed : List HookCall → Prop
  | [] => True
  | .pre false :: rest => Bracketed rest
  | .pre true :: .post :: rest => Bracketed rest
  | _ => False

theorem Bracketed.append {first second : List HookCall} (front : Bracketed first)
    (back : Bracketed second) : Bracketed (first ++ second) := by
  induction first using Bracketed.induct with
  | case1 => exact back
  | case2 rest ih =>
    have inner : Bracketed rest := front
    exact ih inner
  | case3 rest ih =>
    have inner : Bracketed rest := front
    exact ih inner
  | case4 hooks notEmpty notFailed notBracket =>
    unfold Bracketed at front
    split at front
    · exact absurd rfl notEmpty
    · exact absurd rfl (notFailed _)
    · exact absurd rfl (notBracket _)
    · exact front.elim

theorem Bracketed.postsBefore {hooks : List HookCall} (bracketed : Bracketed hooks) :
    postsBefore hooks = 0 := by
  unfold Bracketed at bracketed
  split at bracketed
  · rfl
  · rfl
  · rfl
  · exact bracketed.elim

theorem Bracketed.paired {hooks : List HookCall} (bracketed : Bracketed hooks) :
    Paired hooks := by
  induction hooks using Bracketed.induct with
  | case1 => trivial
  | case2 rest ih => exact ih bracketed
  | case3 rest ih =>
    have inner : Bracketed rest := bracketed
    have one : Sensor.postsBefore (.post :: rest) = Sensor.postsBefore rest + 1 := rfl
    rw [inner.postsBefore] at one
    exact ⟨one, ih inner⟩
  | case4 hooks notEmpty notFailed notBracket =>
    unfold Bracketed at bracketed
    split at bracketed
    · trivial
    · exact absurd rfl (notFailed _)
    · exact absurd rfl (notBracket _)
    · exact bracketed.elim

theorem paired_of_posts {hooks : List HookCall} (posts : ∀ call ∈ hooks, call = .post) :
    Paired hooks := by
  induction hooks with
  | nil => trivial
  | cons call rest ih =>
    obtain rfl := posts call mem_cons_self
    exact ih fun other listed => posts other (mem_cons_of_mem _ listed)

/-- The hooks of a sensor are called in brackets, or its pre-read hook does not exist. -/
def Orderly (hasPre : Bool) (hooks : List HookCall) : Prop :=
  if hasPre then Bracketed hooks else ∀ call ∈ hooks, call = .post

variable {hasPre hasPost : Bool} {first second : List HookCall}

theorem orderly_nil (hasPre : Bool) : Orderly hasPre [] := by
  cases hasPre with
  | false => exact forall_mem_nil _
  | true => trivial

theorem Orderly.append (front : Orderly hasPre first) (back : Orderly hasPre second) :
    Orderly hasPre (first ++ second) := by
  cases hasPre with
  | false => exact List.forall_mem_append.mpr ⟨front, back⟩
  | true => exact Bracketed.append front back

theorem Orderly.paired (orderly : Orderly hasPre first) : Paired first := by
  cases hasPre with
  | false => exact paired_of_posts orderly
  | true => exact Bracketed.paired orderly

/-! ## The hooks of one call -/

def postCalls (hasPost : Bool) : List HookCall := if hasPost then [.post] else []

def preCalls (hasPre ok : Bool) : List HookCall := if hasPre then [.pre ok] else []

theorem orderly_bracket (closes : hasPre = true → hasPost = true) :
    Orderly hasPre (preCalls hasPre true ++ postCalls hasPost) := by
  cases hasPre with
  | true =>
    rw [closes rfl]
    trivial
  | false =>
    cases hasPost with
    | true => exact fun call listed => List.mem_singleton.mp listed
    | false => exact forall_mem_nil _

theorem orderly_failed (hasPre : Bool) : Orderly hasPre (preCalls hasPre false) := by
  cases hasPre with
  | true => trivial
  | false => exact forall_mem_nil _

/-- Which hooks a sensor has stays. -/
structure SameHooks (before after : SensorCfg) : Prop where
  hasPre : after.hasPre = before.hasPre
  hasPost : after.hasPost = before.hasPost

theorem SameHooks.trans {before middle after : SensorCfg} (earlier : SameHooks before middle)
    (later : SameHooks middle after) : SameHooks before after :=
  ⟨later.hasPre.trans earlier.hasPre, later.hasPost.trans earlier.hasPost⟩

theorem callPre_same (sensor : SensorCfg) (callbacks : Callbacks) :
    SameHooks sensor (callPre sensor callbacks).1 := by
  unfold callPre
  split
  · exact ⟨rfl, rfl⟩
  · exact ⟨rfl, rfl⟩

theorem callRead_same (sensor : SensorCfg) (callbacks : Callbacks) :
    SameHooks sensor (callRead sensor callbacks).1 := by
  unfold callRead
  split
  · exact ⟨rfl, rfl⟩
  · exact ⟨rfl, rfl⟩

theorem callPost_same (sensor : SensorCfg) (callbacks : Callbacks) (reading : Option Int) :
    SameHooks sensor (callPost sensor callbacks reading).1 := by
  unfold callPost
  split
  · exact ⟨rfl, rfl⟩
  · exact ⟨rfl, rfl⟩

theorem callPre_hooks (sensor : SensorCfg) (callbacks : Callbacks) :
    (callPre sensor callbacks).2.2 = preCalls sensor.hasPre (callPre sensor callbacks).2.1 := by
  unfold callPre preCalls
  split
  · rfl
  · rfl

theorem callPost_hooks (sensor : SensorCfg) (callbacks : Callbacks) (reading : Option Int) :
    (callPost sensor callbacks reading).2.2.2 = postCalls sensor.hasPost := by
  unfold callPost postCalls
  split
  · rfl
  · rfl

theorem callPre_ok {sensor : SensorCfg} {callbacks : Callbacks} (hook : sensor.hasPre = true) :
    (callPre sensor callbacks).2.1 = (callbacks.pre sensor.cached).2 := by
  unfold callPre
  rw [if_pos hook]

theorem callPre_cached {sensor : SensorCfg} {callbacks : Callbacks}
    (hook : sensor.hasPre = true) :
    (callPre sensor callbacks).1.cached = (callbacks.pre sensor.cached).1 := by
  unfold callPre
  rw [if_pos hook]

theorem readSucceeded_hooks (cfg : SensorCfg) (callbacks : Callbacks) (reading : Int)
    (hooks : List HookCall) : (readSucceeded cfg callbacks reading hooks).hooks =
      hooks ++ postCalls cfg.hasPost := by
  have called := callPost_hooks { cfg with retry := 0 } callbacks (some reading)
  unfold readSucceeded
  dsimp only
  split
  · exact congrArg (hooks ++ ·) called
  · split
    · exact congrArg (hooks ++ ·) called
    · exact congrArg (hooks ++ ·) called

theorem readFailed_hooks (cfg : SensorCfg) (callbacks : Callbacks) (currentStatus : UInt8)
    (reading : Int) (hooks : List HookCall) :
    (readFailed cfg callbacks currentStatus reading hooks).hooks =
      hooks ++ postCalls cfg.hasPost := by
  unfold readFailed
  dsimp only [SensorCfg.returns]
  rw [callPost_hooks]
  split
  · rfl
  · rfl

theorem pldmRead_hooks (cfg : SensorCfg) (callbacks : Callbacks) (reading : Int)
    (hooks : List HookCall) : (pldmRead cfg callbacks reading hooks).2 =
      hooks ++ postCalls cfg.hasPost := by
  have called := callPost_hooks cfg callbacks (some reading)
  unfold pldmRead
  dsimp only
  split
  · exact congrArg (hooks ++ ·) called
  · split
    · exact congrArg (hooks ++ ·) called
    · exact congrArg (hooks ++ ·) called

theorem pldmUnread_hooks (cfg : SensorCfg) (callbacks : Callbacks) (hooks : List HookCall) :
    (pldmUnread cfg callbacks hooks).2 = hooks ++ postCalls cfg.hasPost :=
  congrArg (hooks ++ ·) (callPost_hooks cfg callbacks none)

theorem readSucceeded_same (cfg : SensorCfg) (callbacks : Callbacks) (reading : Int)
    (hooks : List HookCall) :
    SameHooks cfg (readSucceeded cfg callbacks reading hooks).sensor := by
  have called := callPost_same { cfg with retry := 0 } callbacks (some reading)
  unfold readSucceeded
  dsimp only
  split
  · unfold SensorCfg.clear
    split
    · exact ⟨called.hasPre, called.hasPost⟩
    · exact ⟨called.hasPre, called.hasPost⟩
  · split
    · exact ⟨called.hasPre, called.hasPost⟩
    · exact ⟨called.hasPre, called.hasPost⟩

theorem readFailed_same (cfg : SensorCfg) (callbacks : Callbacks) (currentStatus : UInt8)
    (reading : Int) (hooks : List HookCall) :
    SameHooks cfg (readFailed cfg callbacks currentStatus reading hooks).sensor := by
  unfold readFailed
  split
  · have called := callPost_same (cfg.setStatus currentStatus) callbacks none
    exact ⟨called.hasPre, called.hasPost⟩
  · have called := callPost_same { cfg with retry := cfg.retry + 1 } callbacks none
    exact ⟨called.hasPre, called.hasPost⟩

/-! ## A whole call -/

/-- A call calls hooks in order, and does not change which there are. -/
structure Tidy (before after : SensorCfg) (hooks : List HookCall) : Prop where
  same : SameHooks before after
  orderly : Orderly before.hasPre hooks

variable {cfg : SensorCfg} {callbacks : Callbacks}

theorem tidy_nil {after : SensorCfg} (same : SameHooks cfg after) : Tidy cfg after [] :=
  ⟨same, orderly_nil _⟩

theorem tidy_failed {after : SensorCfg} (failed : (callPre cfg callbacks).2.1 = false)
    (same : SameHooks cfg after) : Tidy cfg after (callPre cfg callbacks).2.2 := by
  have calls := callPre_hooks cfg callbacks
  rw [failed] at calls
  rw [calls]
  exact ⟨same, orderly_failed _⟩

theorem tidy_bracket {after : SensorCfg} (ok : (callPre cfg callbacks).2.1 = true)
    (closes : cfg.hasPre = true → cfg.hasPost = true) (same : SameHooks cfg after) :
    Tidy cfg after ((callPre cfg callbacks).2.2 ++ postCalls cfg.hasPost) := by
  have calls := callPre_hooks cfg callbacks
  rw [ok] at calls
  rw [calls]
  exact ⟨same, orderly_bracket closes⟩

theorem callRead_callPre_same (cfg : SensorCfg) (callbacks : Callbacks) :
    SameHooks cfg (callRead (callPre cfg callbacks).1 callbacks).1 :=
  (callPre_same cfg callbacks).trans (callRead_same _ callbacks)

theorem readFromSensor_tidy (releases : cfg.hasPre = true →
      (callbacks.pre cfg.cached).2 = true →
      cfg.hasPost = true ∧ isSkipped (callbacks.pre cfg.cached).1.status = false) :
    Tidy cfg (readFromSensor cfg callbacks).sensor (readFromSensor cfg callbacks).hooks := by
  have called := callPre_same cfg callbacks
  have read := callRead_callPre_same cfg callbacks
  unfold readFromSensor
  dsimp only
  split
  · rename_i failed
    have failed : (callPre cfg callbacks).2.1 = false := by simpa using failed
    exact tidy_failed failed ⟨called.hasPre, called.hasPost⟩
  · rename_i success
    have success : (callPre cfg callbacks).2.1 = true := by simpa using success
    have unlocked (hook : cfg.hasPre = true) := releases hook ((callPre_ok hook).symm.trans success)
    split
    · rename_i skipped
      have both := Bool.and_eq_true_iff.mp skipped
      have hook : cfg.hasPre = true := called.hasPre.symm.trans both.1
      have status := both.2
      rw [callPre_cached hook, (unlocked hook).2] at status
      exact absurd status Bool.false_ne_true
    · have closes (hook : cfg.hasPre = true) := (unlocked hook).1
      split
      · rw [readSucceeded_hooks, read.hasPost]
        exact tidy_bracket success closes (read.trans (readSucceeded_same _ _ _ _))
      · rw [readFailed_hooks, read.hasPost]
        exact tidy_bracket success closes (read.trans (readFailed_same _ _ _ _ _))

theorem readFromCache_tidy (cfg : SensorCfg) (callbacks : Callbacks) :
    Tidy cfg (readFromCache cfg callbacks).sensor (readFromCache cfg callbacks).hooks := by
  unfold readFromCache
  dsimp only
  split
  · split
    · exact tidy_nil ⟨rfl, rfl⟩
    · exact tidy_nil ⟨rfl, rfl⟩
  · split
    · exact tidy_nil ⟨rfl, rfl⟩
    · exact tidy_nil ⟨rfl, rfl⟩

theorem clear_same (cfg : SensorCfg) : SameHooks cfg cfg.clear := by
  unfold SensorCfg.clear
  split
  · exact ⟨rfl, rfl⟩
  · exact ⟨rfl, rfl⟩

theorem after_tidy {event : SensorEvent} (releases : cfg.Releases event) :
    Tidy cfg (cfg.after event) (cfg.hookCalls event) := by
  cases event with
  | getSensorReading sensorNum readMode callbacks =>
    dsimp only [SensorCfg.after, SensorCfg.hookCalls]
    unfold getSensorReading
    split
    · exact tidy_nil ⟨rfl, rfl⟩
    · rename_i present
      split
      · have cleared := clear_same cfg
        exact tidy_nil ⟨cleared.hasPre, cleared.hasPost⟩
      · rename_i accessible
        split
        · rename_i mode
          exact readFromSensor_tidy (releases present (by simpa using accessible) mode)
        · split
          · exact readFromCache_tidy cfg callbacks
          · exact tidy_nil ⟨rfl, rfl⟩
  | controlSensorPolling sensorNum cacheStatus => exact tidy_nil ⟨rfl, rfl⟩
  | pollDisabled sensorNum =>
    dsimp only [SensorCfg.after, SensorCfg.hookCalls]
    split
    · exact tidy_nil ⟨rfl, rfl⟩
    · exact tidy_nil ⟨rfl, rfl⟩
  | mailboxWrite sensorNum value => exact tidy_nil ⟨rfl, rfl⟩

/-! ## A whole poll -/

theorem pldmRead_same (cfg : SensorCfg) (callbacks : Callbacks) (reading : Int)
    (hooks : List HookCall) : SameHooks cfg (pldmRead cfg callbacks reading hooks).1 := by
  have called := callPost_same cfg callbacks (some reading)
  unfold pldmRead
  dsimp only
  split
  · exact ⟨called.hasPre, called.hasPost⟩
  · split
    · exact ⟨called.hasPre, called.hasPost⟩
    · exact ⟨called.hasPre, called.hasPost⟩

/-- The reading of a poll is tidy when what the pre-read hook locks is unlocked. -/
theorem pldmSensorGetReading_tidy (cfg : SensorCfg) (isMailbox : Bool) (callbacks : Callbacks)
    (releases : callbacks.accessible = true → cfg.hasPre = true →
      (callbacks.pre cfg.cached).2 = true → cfg.hasPost = true) :
    Tidy cfg (pldmSensorGetReading cfg isMailbox callbacks).1
      (pldmSensorGetReading cfg isMailbox callbacks).2 := by
  have called := callPre_same cfg callbacks
  have read := callRead_callPre_same cfg callbacks
  unfold pldmSensorGetReading
  dsimp only
  split
  · exact tidy_nil ⟨rfl, rfl⟩
  · rename_i accessible
    split
    · rename_i failed
      have failed : (callPre cfg callbacks).2.1 = false := by simpa using failed
      exact tidy_failed failed ⟨called.hasPre, called.hasPost⟩
    · rename_i success
      have success : (callPre cfg callbacks).2.1 = true := by simpa using success
      have closes (hook : cfg.hasPre = true) : cfg.hasPost = true :=
        releases (by simpa using accessible) hook ((callPre_ok hook).symm.trans success)
      split
      · rw [pldmRead_hooks, called.hasPost]
        exact tidy_bracket success closes (called.trans (pldmRead_same _ _ _ _))
      · split
        · rw [pldmUnread_hooks, read.hasPost]
          exact tidy_bracket success closes (read.trans (callPost_same _ _ _))
        · split
          · rw [pldmUnread_hooks]
            have status := callPost_same ((callRead (callPre cfg callbacks).1 callbacks).1.setStatus
              pldmFailed) callbacks none
            have posts := tidy_bracket success closes
              (read.trans ⟨status.hasPre, status.hasPost⟩)
            rw [← read.hasPost] at posts
            exact posts
          · rw [pldmRead_hooks, read.hasPost]
            exact tidy_bracket success closes (read.trans (pldmRead_same _ _ _ _))

variable {info : PldmSensorInfo} {polling : PollCallbacks}

theorem init_same (info : PldmSensorInfo) (polling : PollCallbacks) :
    SameHooks info.cfg (info.init polling).cfg := by
  unfold PldmSensorInfo.init
  dsimp only
  split
  · exact ⟨rfl, rfl⟩
  · exact ⟨rfl, rfl⟩

/-- The check before a poll is tidy when what the pre-read hook locks is unlocked. -/
theorem pldmSensorPollingPreCheck_tidy (releases : polling.check.accessible = true →
      info.cfg.hasPre = true → (polling.check.pre info.cfg.cached).2 = true →
      info.hasInit = true ∧ info.cfg.hasPost = true) :
    Tidy info.cfg (pldmSensorPollingPreCheck info polling).1.cfg
      (pldmSensorPollingPreCheck info polling).2.2 := by
  have called := callPre_same info.cfg polling.check
  unfold pldmSensorPollingPreCheck
  dsimp only
  split
  · exact tidy_nil ⟨rfl, rfl⟩
  · rename_i accessible
    split
    · rename_i failed
      have failed : (callPre info.cfg polling.check).2.1 = false := by simpa using failed
      exact tidy_failed failed ⟨called.hasPre, called.hasPost⟩
    · rename_i success
      have success : (callPre info.cfg polling.check).2.1 = true := by simpa using success
      have unlocked (hook : info.cfg.hasPre = true) :=
        releases (by simpa using accessible) hook ((callPre_ok hook).symm.trans success)
      split
      · rename_i missing
        -- no `init`: there is no pre-read hook either, so that nothing was locked
        have unhooked : info.cfg.hasPre = false := by
          by_contra hook
          have present := (unlocked (by simpa using hook)).1
          rw [present] at missing
          cases missing
        have calls := callPre_hooks info.cfg polling.check
        rw [unhooked] at calls
        rw [calls]
        exact tidy_nil called
      · have closes (hook : info.cfg.hasPre = true) := (unlocked hook).2
        have inited := called.trans
          (init_same { info with cfg := (callPre info.cfg polling.check).1 } polling)
        have post := inited.trans (callPost_same _ polling.check none)
        rw [callPost_hooks, inited.hasPost]
        split
        · exact tidy_bracket success closes ⟨post.hasPre, post.hasPost⟩
        · exact tidy_bracket success closes post

theorem beforeReading_tidy (releases : info.Releases polling) :
    Tidy info.cfg (beforeReading info polling).1.cfg (beforeReading info polling).2.2 := by
  unfold beforeReading
  dsimp only
  by_cases initialising : info.cfg.cached.status = pldmInitializing
  · rw [if_pos initialising]
    have checked := pldmSensorPollingPreCheck_tidy (releases.check initialising)
    split
    · exact checked
    · split
      · exact ⟨⟨checked.same.hasPre, checked.same.hasPost⟩, checked.orderly⟩
      · exact checked
  · rw [if_neg initialising]
    split
    · exact tidy_nil ⟨rfl, rfl⟩
    · split
      · exact tidy_nil ⟨rfl, rfl⟩
      · exact tidy_nil ⟨rfl, rfl⟩

theorem poll_tidy (releases : info.Releases polling) :
    Tidy info.cfg (pldmPollingSensorReadingOptionalCheck info polling).1.cfg
      (pldmPollingSensorReadingOptionalCheck info polling).2 := by
  have before := beforeReading_tidy releases
  unfold pldmPollingSensorReadingOptionalCheck
  dsimp only
  split
  · exact before
  · rename_i ready
    have ready : (beforeReading info polling).2.1 = true := by simpa using ready
    have read := pldmSensorGetReading_tidy (beforeReading info polling).1.cfg
      (beforeReading info polling).1.isMailbox polling.reading fun accessible hook success => by
        rw [before.same.hasPre] at hook
        rw [before.same.hasPost]
        exact releases.reading ready accessible hook success
    refine ⟨before.same.trans read.same, before.orderly.append ?_⟩
    rw [← before.same.hasPre]
    exact read.orderly

/-! ## Runs -/

/-- The hooks of all sensors are called in order. -/
structure Services.Orderly (services : Services) : Prop where
  sensors : ∀ watched ∈ services.sensorConfig, Sensor.Orderly watched.cfg.hasPre watched.hooks
  pldm : ∀ info ∈ services.pldmSensorList, Sensor.Orderly info.cfg.hasPre info.hooks

theorem Tidy.extend {before after : SensorCfg} {past hooks : List HookCall}
    (tidy : Tidy before after hooks) (orderly : Orderly before.hasPre past) :
    Orderly after.hasPre (past ++ hooks) := by
  rw [tidy.same.hasPre]
  exact orderly.append tidy.orderly

variable {services next : Services} {event : ServiceEvent}

/-- An event that releases what it took keeps the services orderly. -/
theorem orderly_step (orderly : services.Orderly) (releases : services.Releases event)
    (moved : services.step event = some next) : next.Orderly := by
  cases event with
  | sensor event =>
    unfold Services.step at moved
    dsimp only at moved
    cases found : services.find event.sensorNum with
    | none =>
      rw [found] at moved
      cases moved
      exact orderly
    | some index =>
      rw [found] at moved
      cases moved
      refine ⟨forall_modify orderly.sensors ?_, orderly.pldm⟩
      intro watched here
      have listed := mem_iff_getElem?.mpr ⟨index, here⟩
      exact (after_tidy (releases index found watched here)).extend
        (orderly.sensors watched listed)
  | poll index callbacks =>
    cases moved
    refine ⟨orderly.sensors, forall_modify orderly.pldm ?_⟩
    intro info here
    have listed := mem_iff_getElem?.mpr ⟨index, here⟩
    exact (poll_tidy (releases info here)).extend (orderly.pldm info listed)

/-- No hook has been called yet. -/
structure Services.Fresh (services : Services) : Prop where
  sensors : ∀ watched ∈ services.sensorConfig, watched.hooks = []
  pldm : ∀ info ∈ services.pldmSensorList, info.hooks = []

/-- In every run of both services in which no successful pre-read hook is left without the
post-read hook, the hooks of every sensor are paired. -/
theorem paired_run {final : Services} {events : List ServiceEvent} (fresh : services.Fresh)
    (releases : Meets Services.step Services.Releases services events)
    (ran : run Services.step services events = some final) : final.Paired := by
  have initial : services.Orderly := by
    constructor
    · intro watched listed
      rw [fresh.sensors watched listed]
      exact orderly_nil _
    · intro info listed
      rw [fresh.pldm info listed]
      exact orderly_nil _
  have orderly : final.Orderly := invariant orderly_step initial releases ran
  constructor
  · exact fun watched listed => (orderly.sensors watched listed).paired
  · exact fun info listed => (orderly.pldm info listed).paired

/-! ## A hook that disables its sensor -/

def lockedSensor : SensorCfg :=
  { benchSensor with hasPre := true, hasPost := true }

def benchServices : Services where
  sensorConfig := [⟨lockedSensor, []⟩]
  pldmSensorList := [⟨{ lockedSensor with cached := ⟨0, pldmInitializing⟩ },
    false, true, false, []⟩]

/-- A pre-read hook that finds its device powered off and disables the polling of the sensor. -/
def disabling : Callbacks :=
  { answering readSuccess 25 with pre := fun cached => (⟨cached.value, pollingDisable⟩, true) }

def answeringPoll : PollCallbacks where
  check := answering readSuccess 25
  init cached := (cached, true)
  intervalReady := true
  reading := answering readSuccess 25

/-- A pre-read hook that disables the polling leaves the post-read hook out. -/
theorem disabling_unpaired : ∃ final,
    run Services.step benchServices [.sensor (.getSensorReading 0x10 getFromSensor disabling)] =
      some final ∧ ¬ final.Paired := by
  refine ⟨_, rfl, fun paired => ?_⟩
  have one := (paired.sensors _ mem_cons_self).1
  cases one

def readServices : Services :=
  { benchServices with
    sensorConfig := [⟨{ lockedSensor with cached := ⟨25, read4ByteAcurSuccess⟩, last := some 25 },
      [.pre true, .post]⟩] }

theorem answered_releases : Meets Services.step Services.Releases benchServices
    [.sensor (.getSensorReading 0x10 getFromSensor (answering readSuccess 25)),
      .poll 0 answeringPoll] := by
  have moved : benchServices.step (.sensor (.getSensorReading 0x10 getFromSensor
      (answering readSuccess 25))) = some readServices := rfl
  apply Meets.cons ?_ moved
  · refine ⟨?_, trivial⟩
    intro info here
    cases here
    exact ⟨fun _ _ _ _ => ⟨rfl, rfl⟩, fun _ _ _ _ => rfl⟩
  · intro index found watched here
    obtain rfl : 0 = index := Option.some.inj found
    obtain rfl : ⟨lockedSensor, []⟩ = watched := Option.some.inj here
    exact fun _ _ _ _ _ => ⟨rfl, rfl⟩

/-- A reading that is answered, and a poll. -/
theorem paired_run_answered : ∃ final, run Services.step benchServices
    [.sensor (.getSensorReading 0x10 getFromSensor (answering readSuccess 25)),
      .poll 0 answeringPoll] = some final ∧ final.Paired := by
  have fresh : benchServices.Fresh := ⟨by decide, by decide⟩
  exact ⟨_, rfl, paired_run fresh answered_releases rfl⟩

end OpenBic.Sensor
