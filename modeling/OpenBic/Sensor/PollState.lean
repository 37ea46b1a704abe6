import OpenBic.Library.Machine
import Mathlib.Data.List.Nodup

/-!
# Notifications of sensor polling

`check_sensor_poll_state_change` of `sensor.c`, which tells the platform when the global flag of the
polling or the flags of sensors have changed, while these are set and the configurations of sensors
are added or replaced.
-/

namespace OpenBic.PollState

open List Library.Machine

/-! ## The code -/

def sensorPollAllSensors : UInt8 := 0xFF

def sensorPollGlobalFlag : UInt8 := 0xFE

/-- What polling has of a `sensor_cfg`. -/
structure SensorCfg where
  num : UInt8
  isEnablePolling : Bool
  lastIsEnablePolling : Bool

/-- A call of `plat_sensor_poll_state_changed`. -/
structure StateChanged where
  sensorNum : UInt8
  enabled : Bool
deriving DecidableEq

/-- What the checks look at. The number of configurations is a byte. -/
structure Polling where
  sensorPollEnableFlag : Bool
  /-- `sensor_config`, which may be `NULL`, as far as `sensor_config_count`. -/
  sensorConfig : Option (List SensorCfg)
  sdrCount : UInt8
  isStateRecorded : Bool
  lastPollEnableFlag : Bool

def SensorCfg.changed (config : SensorCfg) : Bool :=
  config.isEnablePolling != config.lastIsEnablePolling

def SensorCfg.record (config : SensorCfg) : SensorCfg :=
  { config with lastIsEnablePolling := config.isEnablePolling }

/-- What is told of sensors: those that have changed, or all of them at once. -/
def sensorsChanged (config : List SensorCfg) : List StateChanged :=
  let changed := config.filter SensorCfg.changed
  let changedCount := changed.length
  let changedToEnabledCount := (changed.filter SensorCfg.isEnablePolling).length
  if changedCount = config.length ∧
      (changedToEnabledCount = 0 ∨ changedToEnabledCount = config.length) then
    [⟨sensorPollAllSensors, changedToEnabledCount = config.length⟩]
  else changed.map fun config => ⟨config.num, config.isEnablePolling⟩

def Polling.globalChanged (polling : Polling) : List StateChanged :=
  if polling.sensorPollEnableFlag != polling.lastPollEnableFlag then
    [⟨sensorPollGlobalFlag, polling.sensorPollEnableFlag⟩]
  else []

def Polling.record (polling : Polling) (config : List SensorCfg) : Polling := { polling with
  sensorConfig := some (config.map SensorCfg.record)
  isStateRecorded := true
  lastPollEnableFlag := polling.sensorPollEnableFlag }

def checkSensorPollStateChange (polling : Polling) : Polling × List StateChanged :=
  match polling.sensorConfig with
  | none => (polling, [])
  | some config =>
    if config.length = 0 then (polling, [])
    else if polling.isStateRecorded then
      (polling.record config, polling.globalChanged ++ sensorsChanged config)
    else (polling.record config, [])

def getSensorConfigIndex (config : List SensorCfg) (sensorNum : UInt8) : Option Nat :=
  config.findIdx? fun other => sensorNum = other.num

def addSensorConfig (polling : Polling) (config : List SensorCfg) (added : SensorCfg) : Polling :=
  match getSensorConfigIndex config added.num with
  | some index => { polling with sensorConfig := some (config.set index added) }
  | none =>
    if config.length + 1 ≤ polling.sdrCount.toNat then
      { polling with sensorConfig := some (config ++ [added]) }
    else polling

/-- The flag of a sensor is set, as `control_sensor_polling` does. -/
def enablePolling (polling : Polling) (config : List SensorCfg) (index : Nat) (enable : Bool) :
    Polling := { polling with
  sensorConfig := some (config.modify index fun config =>
    { config with isEnablePolling := enable }) }

/-! ## What is claimed -/

/-- The flags that are told of. -/
structure Flags where
  global : Bool
  sensors : List (UInt8 × Bool)

def Flags.apply (flags : Flags) (told : StateChanged) : Flags :=
  if told.sensorNum = sensorPollAllSensors then
    { flags with sensors := flags.sensors.map fun sensor => (sensor.1, told.enabled) }
  else if told.sensorNum = sensorPollGlobalFlag then { flags with global := told.enabled }
  else { flags with sensors := flags.sensors.map fun sensor =>
    if sensor.1 = told.sensorNum then (sensor.1, told.enabled) else sensor }

def Flags.replay (flags : Flags) (told : List StateChanged) : Flags := told.foldl Flags.apply flags

/-- What is told is a change. -/
def Flags.Changes (flags : Flags) (told : StateChanged) : Prop :=
  if told.sensorNum = sensorPollAllSensors then
    ∀ sensor ∈ flags.sensors, sensor.2 ≠ told.enabled
  else if told.sensorNum = sensorPollGlobalFlag then flags.global ≠ told.enabled
  else (∃ sensor ∈ flags.sensors, sensor.1 = told.sensorNum) ∧
    ∀ sensor ∈ flags.sensors, sensor.1 = told.sensorNum → sensor.2 ≠ told.enabled

/-- Each of these is, after those before it. -/
def Flags.AllChange (flags : Flags) : List StateChanged → Prop
  | [] => True
  | told :: rest => flags.Changes told ∧ (flags.apply told).AllChange rest

def Polling.flags (polling : Polling) : Flags where
  global := polling.sensorPollEnableFlag
  sensors := (polling.sensorConfig.getD []).map fun config => (config.num, config.isEnablePolling)

/-- The polling, with the flags at the first check and at the last one. -/
structure Watched where
  polling : Polling
  first : Option Flags
  last : Option Flags
  told : List StateChanged

/-- What can happen. -/
inductive PollEvent where
  | setGlobal (enable : Bool)
  | setSensor (index : Nat) (enable : Bool)
  | add (added : SensorCfg)
  | check

def Watched.checked (watched : Watched) (after : Polling × List StateChanged) : Watched where
  polling := after.1
  first := if after.1.isStateRecorded then watched.first <|> some watched.polling.flags else none
  last := if after.1.isStateRecorded then some watched.polling.flags else none
  told := watched.told ++ after.2

def step (watched : Watched) : PollEvent → Option Watched
  | .setGlobal enable =>
    some { watched with polling := { watched.polling with sensorPollEnableFlag := enable } }
  | .setSensor index enable => watched.polling.sensorConfig.map fun config =>
    { watched with polling := enablePolling watched.polling config index enable }
  | .add added => watched.polling.sensorConfig.map fun config =>
    { watched with polling := addSensorConfig watched.polling config added }
  | .check => some (watched.checked (checkSensorPollStateChange watched.polling))

/-- The notifications give the flags of the last check from those of the first one, and each of them
tells a change. -/
def ReplaysRight (watched : Watched) : Prop :=
  ∀ first ∈ watched.first, watched.last = some (first.replay watched.told) ∧
    first.AllChange watched.told

/-- The sensors of a table can be told apart from each other and from what else is told of. -/
structure Distinct (config : List SensorCfg) : Prop where
  nodup : (config.map SensorCfg.num).Nodup
  all : ∀ sensor ∈ config, sensor.num ≠ sensorPollAllSensors
  global : ∀ sensor ∈ config, sensor.num ≠ sensorPollGlobalFlag

instance Distinct.decidable (config : List SensorCfg) : Decidable (Distinct config) :=
  decidable_of_iff ((config.map SensorCfg.num).Nodup ∧
      (∀ sensor ∈ config, sensor.num ≠ sensorPollAllSensors) ∧
      ∀ sensor ∈ config, sensor.num ≠ sensorPollGlobalFlag)
    ⟨fun both => ⟨both.1, both.2.1, both.2.2⟩,
      fun distinct => ⟨distinct.nodup, distinct.all, distinct.global⟩⟩

/-- A configuration replaces one with the flag that was recorded, or it finds no room. -/
def Keeps (polling : Polling) (config : List SensorCfg) (added : SensorCfg) : Prop :=
  match getSensorConfigIndex config added.num with
  | some index => (config[index]?).map SensorCfg.lastIsEnablePolling =
      some added.lastIsEnablePolling
  | none => polling.sdrCount.toNat < config.length + 1

/-- After the first check a configuration that is added keeps what was recorded; and at a check the
sensors can be told apart. -/
def Orderly (watched : Watched) : PollEvent → Prop
  | .add added => watched.polling.isStateRecorded = true →
    ∀ config ∈ watched.polling.sensorConfig, Keeps watched.polling config added
  | .check => Distinct (watched.polling.sensorConfig.getD [])
  | _ => True

instance Keeps.decidable (polling : Polling) (config : List SensorCfg) (added : SensorCfg) :
    Decidable (Keeps polling config added) :=
  match place : getSensorConfigIndex config added.num with
  | some index =>
    decidable_of_iff ((config[index]?).map SensorCfg.lastIsEnablePolling =
      some added.lastIsEnablePolling) (by unfold Keeps; rw [place])
  | none =>
    decidable_of_iff (polling.sdrCount.toNat < config.length + 1) (by unfold Keeps; rw [place])

instance Orderly.decidable (watched : Watched) : ∀ event, Decidable (Orderly watched event)
  | .add _ => inferInstanceAs (Decidable (_ → ∀ config ∈ _, Keeps _ _ _))
  | .check => Distinct.decidable _
  | .setGlobal _ | .setSensor .. => .isTrue trivial

/-! ## Replays -/

section Replays

variable {flags : Flags} {config : List SensorCfg}

theorem replay_append (first second : List StateChanged) :
    flags.replay (first ++ second) = (flags.replay first).replay second :=
  foldl_append

theorem allChange_append {first second : List StateChanged} (left : flags.AllChange first)
    (right : (flags.replay first).AllChange second) : flags.AllChange (first ++ second) := by
  induction first generalizing flags with
  | nil => exact right
  | cons told rest ih => exact ⟨left.1, ih left.2 right⟩

theorem map_apart {sensors : List (UInt8 × Bool)} {sensorNum : UInt8} {enabled : Bool}
    (apart : ∀ sensor ∈ sensors, sensor.1 ≠ sensorNum) :
    (sensors.map fun sensor => if sensor.1 = sensorNum then (sensor.1, enabled) else sensor) =
      sensors := by
  have same : ∀ sensor ∈ sensors, (if sensor.1 = sensorNum then (sensor.1, enabled) else sensor) =
      sensor := fun sensor listed => if_neg (apart sensor listed)
  rw [map_congr_left same, List.map_id']

def SensorCfg.recorded (config : SensorCfg) : UInt8 × Bool :=
  (config.num, config.lastIsEnablePolling)

def SensorCfg.current (config : SensorCfg) : UInt8 × Bool := (config.num, config.isEnablePolling)

def SensorCfg.told (config : SensorCfg) : StateChanged := ⟨config.num, config.isEnablePolling⟩

/-- What is told of the sensors that have changed, one by one, gives their flags from what was
recorded. -/
theorem replay_changed (flag : Bool) (done rest : List SensorCfg)
    (distinct : Distinct (done ++ rest)) :
    let before : Flags := ⟨flag, done.map SensorCfg.current ++ rest.map SensorCfg.recorded⟩
    let told := (rest.filter SensorCfg.changed).map SensorCfg.told
    before.replay told = ⟨flag, (done ++ rest).map SensorCfg.current⟩ ∧
      before.AllChange told := by
  induction rest generalizing done with
  | nil =>
    rw [map_nil, append_nil, append_nil]
    exact ⟨rfl, trivial⟩
  | cons config rest ih =>
    have joined : done ++ config :: rest = (done ++ [config]) ++ rest := by
      rw [append_assoc, singleton_append]
    have onward := ih (done ++ [config]) (joined ▸ distinct)
    rw [map_append, map_singleton] at onward
    rw [joined]
    by_cases changed : config.changed = true
    · have listed : config ∈ done ++ config :: rest :=
        mem_append_right _ mem_cons_self
      have all := distinct.all config listed
      have global := distinct.global config listed
      have nodup := distinct.nodup
      rw [map_append, map_cons] at nodup
      have apart := List.nodup_middle.mp nodup
      have elsewhere := (List.nodup_cons.mp apart).1
      rw [mem_append, not_or] at elsewhere
      have before : ∀ sensor ∈ done.map SensorCfg.current, sensor.1 ≠ config.num := by
        intro sensor found same
        obtain ⟨other, there, rfl⟩ := List.mem_map.mp found
        exact elsewhere.1 (same ▸ List.mem_map_of_mem there)
      have behind : ∀ sensor ∈ rest.map SensorCfg.recorded, sensor.1 ≠ config.num := by
        intro sensor found same
        obtain ⟨other, there, rfl⟩ := List.mem_map.mp found
        exact elsewhere.2 (same ▸ List.mem_map_of_mem there)
      have applied : Flags.apply ⟨flag, done.map SensorCfg.current ++
          (config :: rest).map SensorCfg.recorded⟩ config.told =
          ⟨flag, done.map SensorCfg.current ++ [config.current] ++
            rest.map SensorCfg.recorded⟩ := by
        unfold Flags.apply SensorCfg.told
        rw [if_neg all, if_neg global, map_append, map_apart before, map_cons,
          map_cons, map_apart behind, append_assoc, singleton_append]
        unfold SensorCfg.recorded SensorCfg.current
        rw [if_pos rfl]
      have changes : Flags.Changes ⟨flag, done.map SensorCfg.current ++
          (config :: rest).map SensorCfg.recorded⟩ config.told := by
        unfold Flags.Changes SensorCfg.told
        rw [if_neg all, if_neg global]
        refine ⟨⟨config.recorded, mem_append_right _ mem_cons_self, rfl⟩, ?_⟩
        intro sensor found same
        rcases List.mem_append.mp found with earlier | later
        · exact absurd same (before sensor earlier)
        · rcases List.mem_cons.mp later with rfl | last
          · exact (bne_iff_ne.mp changed).symm
          · exact absurd same (behind sensor last)
      rw [← applied] at onward
      rw [filter_cons_of_pos changed]
      exact ⟨onward.1, changes, onward.2⟩
    · have same : config.isEnablePolling = config.lastIsEnablePolling := by
        unfold SensorCfg.changed at changed
        simpa using changed
      have kept : config.recorded = config.current := by
        unfold SensorCfg.recorded SensorCfg.current
        rw [same]
      rw [filter_cons_of_neg changed, map_cons, kept, ← singleton_append,
        ← append_assoc]
      exact onward

/-- What is told of the sensors gives their flags from what was recorded, and tells changes. -/
theorem replay_sensorsChanged (global : Bool) (distinct : Distinct config) (some : config ≠ []) :
    let before : Flags := ⟨global, config.map SensorCfg.recorded⟩
    before.replay (sensorsChanged config) = ⟨global, config.map SensorCfg.current⟩ ∧
      before.AllChange (sensorsChanged config) := by
  unfold sensorsChanged
  dsimp only
  split
  next every =>
    obtain ⟨counted, alike⟩ := every
    have changed := List.length_filter_eq_length_iff.mp counted
    have all : config.filter SensorCfg.changed = config := List.filter_eq_self.mpr changed
    rw [all] at alike ⊢
    -- They are all enabled, or none of them is.
    have enabled : ∀ sensor ∈ config, sensor.isEnablePolling =
        decide ((config.filter SensorCfg.isEnablePolling).length = config.length) := by
      intro sensor listed
      rcases alike with none | every
      · have disabled := List.filter_eq_nil_iff.mp (eq_nil_of_length_eq_zero none)
        have fewer : ¬ (config.filter SensorCfg.isEnablePolling).length = config.length := by
          have positive := List.length_pos_iff.mpr some
          omega
        rw [decide_eq_false fewer]
        exact Bool.eq_false_iff.mpr (disabled sensor listed)
      · rw [decide_eq_true every]
        exact List.length_filter_eq_length_iff.mp every sensor listed
    generalize decide ((config.filter SensorCfg.isEnablePolling).length = config.length) = enable
      at enabled ⊢
    refine ⟨?_, ?_, trivial⟩
    · unfold Flags.replay Flags.apply
      rw [foldl_cons, foldl_nil, if_pos rfl, List.map_map]
      congr 1
      apply map_congr_left
      intro sensor listed
      unfold SensorCfg.current
      rw [enabled sensor listed]
      rfl
    · intro flag found
      obtain ⟨sensor, listed, rfl⟩ := List.mem_map.mp found
      rw [← enabled sensor listed]
      exact (bne_iff_ne.mp (changed sensor listed)).symm
  · exact replay_changed global [] config distinct

theorem replay_globalChanged (polling : Polling) (sensors : List (UInt8 × Bool)) :
    let before : Flags := ⟨polling.lastPollEnableFlag, sensors⟩
    before.replay polling.globalChanged = ⟨polling.sensorPollEnableFlag, sensors⟩ ∧
      before.AllChange polling.globalChanged := by
  unfold Polling.globalChanged
  split
  next changed => exact ⟨rfl, (bne_iff_ne.mp changed).symm, trivial⟩
  next same =>
    have kept : polling.sensorPollEnableFlag = polling.lastPollEnableFlag := by simpa using same
    rw [kept]
    exact ⟨rfl, trivial⟩

end Replays

/-! ## Steps -/

section Steps

variable {watched next : Watched} {config : List SensorCfg}

def Polling.recorded (polling : Polling) (config : List SensorCfg) : Flags :=
  ⟨polling.lastPollEnableFlag, config.map SensorCfg.recorded⟩

/-- After the first check what was recorded is what the platform was told. -/
structure Follows (watched : Watched) (config : List SensorCfg) (flags : Flags) : Prop where
  here : watched.polling.sensorConfig = some config
  nonempty : config ≠ []
  first : watched.first = some flags
  last : watched.last = some (watched.polling.recorded config)
  replays : flags.replay watched.told = watched.polling.recorded config
  changes : flags.AllChange watched.told

/-- What holds in each state that is reached. -/
structure Tracks (watched : Watched) : Prop where
  before : watched.polling.isStateRecorded = false → watched.first = none ∧ watched.told = []
  after : watched.polling.isStateRecorded = true → ∃ config flags, Follows watched config flags

theorem map_modify_eq {α β : Type} (measure : α → β) (change : α → α)
    (same : ∀ item, measure (change item) = measure item) (items : List α) (index : Nat) :
    (items.modify index change).map measure = items.map measure := by
  apply ext_getElem?
  intro place
  rw [getElem?_map, getElem?_map, getElem?_modify]
  cases items[place]? with
  | none => rfl
  | some item =>
    change some (measure (if index = place then change item else item)) = some (measure item)
    split
    · rw [same]
    · rfl

theorem map_set_eq {α β : Type} {measure : α → β} {items : List α} {index : Nat} {new : α}
    (same : (items[index]?).map measure = some (measure new)) :
    (items.set index new).map measure = items.map measure := by
  apply ext_getElem?
  intro place
  rw [getElem?_map, getElem?_map, getElem?_set]
  by_cases here : index = place
  · subst here
    rw [if_pos rfl, same]
    split
    · rfl
    next outside =>
      rw [getElem?_eq_none (Nat.le_of_not_lt outside)] at same
      cases same
  · rw [if_neg here]

theorem Tracks.kept (tracks : Tracks watched) {polling : Polling}
    (recorded : polling.isStateRecorded = watched.polling.isStateRecorded)
    (same : watched.polling.isStateRecorded = true →
      ∀ config ∈ watched.polling.sensorConfig, ∃ after, polling.sensorConfig = some after ∧
        after.length = config.length ∧ polling.recorded after = watched.polling.recorded config) :
    Tracks { watched with polling := polling } := by
  refine ⟨?_, ?_⟩
  · intro before
    rw [recorded] at before
    exact tracks.before before
  · intro after
    rw [recorded] at after
    obtain ⟨config, flags, follows⟩ := tracks.after after
    obtain ⟨later, here, long, unchanged⟩ := same after config follows.here
    refine ⟨later, flags, here, ?_, follows.first, ?_, ?_, follows.changes⟩
    · intro none
      rw [none, length_nil] at long
      exact follows.nonempty (eq_nil_of_length_eq_zero long.symm)
    · rw [unchanged]
      exact follows.last
    · rw [unchanged]
      exact follows.replays

theorem Tracks.setSensor (tracks : Tracks watched) (here : watched.polling.sensorConfig = some config)
    (index : Nat) (enable : Bool) :
    Tracks { watched with polling := enablePolling watched.polling config index enable } := by
  refine tracks.kept rfl ?_
  intro _ same found
  cases here.symm.trans found
  refine ⟨_, rfl, length_modify _ _ _, ?_⟩
  have same := map_modify_eq SensorCfg.recorded
    (fun config => { config with isEnablePolling := enable }) (fun _ => rfl) config index
  unfold Polling.recorded enablePolling
  rw [same]

/-- A configuration is added that keeps what was recorded. -/
theorem Tracks.add (tracks : Tracks watched) (here : watched.polling.sensorConfig = some config)
    {added : SensorCfg} (keeps : watched.polling.isStateRecorded = true →
      Keeps watched.polling config added) :
    Tracks { watched with polling := addSensorConfig watched.polling config added } := by
  have recorded : (addSensorConfig watched.polling config added).isStateRecorded =
      watched.polling.isStateRecorded := by
    unfold addSensorConfig
    split
    · rfl
    · split <;> rfl
  apply tracks.kept recorded
  intro after same found
  cases here.symm.trans found
  have kept := keeps after
  unfold Keeps at kept
  unfold addSensorConfig
  cases place : getSensorConfigIndex config added.num with
  | none =>
    rw [place] at kept
    rw [if_neg (by omega)]
    exact ⟨config, here, rfl, rfl⟩
  | some index =>
    rw [place] at kept
    obtain ⟨inside, same, -⟩ := List.findIdx?_eq_some_iff_getElem.mp place
    dsimp only at kept ⊢
    refine ⟨_, rfl, length_set, ?_⟩
    unfold Polling.recorded
    have recorded : (config[index]?).map SensorCfg.recorded = some added.recorded := by
      rw [getElem?_eq_getElem inside] at kept ⊢
      have last := Option.some.inj kept
      have num := of_decide_eq_true same
      rw [Option.map_some]
      unfold SensorCfg.recorded
      rw [last, num]
    rw [map_set_eq recorded]

theorem recorded_record (polling : Polling) (config : List SensorCfg) :
    (polling.record config).recorded (config.map SensorCfg.record) =
      ⟨polling.sensorPollEnableFlag, config.map SensorCfg.current⟩ := by
  unfold Polling.recorded Polling.record
  rw [List.map_map]
  rfl

theorem Tracks.idle (tracks : Tracks watched) (idle : watched.polling.isStateRecorded = false) :
    Tracks (watched.checked (watched.polling, [])) := by
  have none := (tracks.before idle).2
  unfold Watched.checked
  rw [idle, append_nil]
  exact ⟨fun _ => ⟨rfl, none⟩, fun after => absurd (idle.symm.trans after) nofun⟩

theorem flags_eq_recorded (here : watched.polling.sensorConfig = some config) :
    watched.polling.flags =
      (watched.polling.record config).recorded (config.map SensorCfg.record) := by
  rw [recorded_record]
  unfold Polling.flags
  rw [here]
  rfl

theorem Tracks.begin (tracks : Tracks watched) (here : watched.polling.sensorConfig = some config)
    (nonempty : config ≠ []) (idle : watched.polling.isStateRecorded = false) :
    Tracks (watched.checked (watched.polling.record config, [])) := by
  obtain ⟨first, told⟩ := tracks.before idle
  have flags := flags_eq_recorded here
  have later : config.map SensorCfg.record ≠ [] :=
    fun none => nonempty (List.map_eq_nil_iff.mp none)
  refine ⟨nofun, fun _ => ⟨config.map SensorCfg.record, watched.polling.flags, rfl, later, ?_, ?_,
    ?_, ?_⟩⟩
  · unfold Watched.checked
    rw [first]
    rfl
  · unfold Watched.checked
    rw [flags]
    rfl
  · unfold Watched.checked
    rw [told, flags]
    rfl
  · unfold Watched.checked
    rw [told]
    trivial

theorem Tracks.again (tracks : Tracks watched) (here : watched.polling.sensorConfig = some config)
    (distinct : Distinct config) (recorded : watched.polling.isStateRecorded = true) :
    Tracks (watched.checked (watched.polling.record config,
      watched.polling.globalChanged ++ sensorsChanged config)) := by
  obtain ⟨other, before, follows⟩ := tracks.after recorded
  cases here.symm.trans follows.here
  have flags := flags_eq_recorded here
  have later : config.map SensorCfg.record ≠ [] :=
    fun none => follows.nonempty (List.map_eq_nil_iff.mp none)
  have global := replay_globalChanged watched.polling (config.map SensorCfg.recorded)
  have sensors :=
    replay_sensorsChanged watched.polling.sensorPollEnableFlag distinct follows.nonempty
  have replays := follows.replays
  unfold Polling.recorded at replays
  refine ⟨nofun, fun _ => ⟨config.map SensorCfg.record, before, rfl, later, ?_, ?_, ?_, ?_⟩⟩
  · unfold Watched.checked
    rw [follows.first]
    rfl
  · unfold Watched.checked
    rw [flags]
    rfl
  · unfold Watched.checked
    rw [recorded_record, replay_append, replay_append, replays, global.1, sensors.1]
  · apply allChange_append follows.changes
    rw [replays]
    apply allChange_append global.2
    rw [global.1]
    exact sensors.2

/-- A check of sensors that can be told apart. -/
theorem Tracks.check (tracks : Tracks watched)
    (distinct : Distinct (watched.polling.sensorConfig.getD [])) :
    Tracks (watched.checked (checkSensorPollStateChange watched.polling)) := by
  have recording : watched.polling.isStateRecorded = true →
      ∃ config ∈ watched.polling.sensorConfig, config ≠ [] := by
    intro recorded
    obtain ⟨config, flags, follows⟩ := tracks.after recorded
    exact ⟨config, follows.here, follows.nonempty⟩
  unfold checkSensorPollStateChange
  cases here : watched.polling.sensorConfig with
  | none =>
    rw [here] at recording
    apply tracks.idle
    rw [Bool.eq_false_iff]
    intro recorded
    obtain ⟨config, listed, -⟩ := recording recorded
    cases listed
  | some config =>
    rw [here] at recording distinct
    dsimp only
    split
    next empty =>
      apply tracks.idle
      rw [Bool.eq_false_iff]
      intro recorded
      obtain ⟨other, listed, nonempty⟩ := recording recorded
      cases listed
      exact nonempty (eq_nil_of_length_eq_zero empty)
    next some =>
      split
      next recorded => exact tracks.again here distinct recorded
      next idle =>
        apply tracks.begin here _ (Bool.eq_false_iff.mpr idle)
        intro none
        exact some (congrArg List.length none)

/-- An orderly event keeps what was reported in step with the states. -/
theorem Tracks.step {event : PollEvent} (tracks : Tracks watched) (orderly : Orderly watched event)
    (moved : step watched event = some next) : Tracks next := by
  cases event with
  | setGlobal enable =>
    cases moved
    refine tracks.kept rfl ?_
    intro _ config here
    exact ⟨config, here, rfl, rfl⟩
  | setSensor index enable =>
    obtain ⟨config, here, rfl⟩ := Option.map_eq_some_iff.mp moved
    exact tracks.setSensor here index enable
  | add added =>
    obtain ⟨config, here, rfl⟩ := Option.map_eq_some_iff.mp moved
    exact tracks.add here fun recorded => orderly recorded config here
  | check =>
    cases moved
    exact tracks.check orderly

theorem Tracks.right (tracks : Tracks watched) : ReplaysRight watched := by
  intro first here
  cases recorded : watched.polling.isStateRecorded with
  | false =>
    rw [(tracks.before recorded).1] at here
    cases here
  | true =>
    obtain ⟨config, flags, follows⟩ := tracks.after recorded
    cases follows.first.symm.trans here
    rw [follows.replays]
    exact ⟨follows.last, follows.changes⟩

end Steps

/-! ## The runs -/

def start (global : Bool) (config : Option (List SensorCfg)) (sdrCount : UInt8) : Watched :=
  ⟨⟨global, config, sdrCount, false, false⟩, none, none, []⟩

/-- In every run in order the notifications can be replayed. -/
theorem replaysRight_run {global : Bool} {config : Option (List SensorCfg)} {sdrCount : UInt8}
    {events : List PollEvent} {final : Watched}
    (orderly : Meets step Orderly (start global config sdrCount) events)
    (ran : run step (start global config sdrCount) events = some final) : ReplaysRight final := by
  have first : Tracks (start global config sdrCount) := ⟨fun _ => ⟨rfl, rfl⟩, nofun⟩
  have tracks : Tracks final :=
    invariant (fun tracks orderly moved => Tracks.step tracks orderly moved) first orderly ran
  exact tracks.right

def polled : Watched := start true (some [⟨1, true, false⟩, ⟨2, true, false⟩]) 2

/-- One sensor is disabled and enabled again, then both of them and the polling are disabled. -/
def disabled : List PollEvent :=
  [.check, .setSensor 0 false, .check, .setSensor 0 true, .check, .setGlobal false,
    .setSensor 0 false, .setSensor 1 false, .check]

/-- The notifications of the sensors that are disabled can be replayed. -/
theorem replaysRight_disabled :
    ∃ final, run step polled disabled = some final ∧
      final.told = [⟨1, false⟩, ⟨1, true⟩, ⟨0xFE, false⟩, ⟨0xFF, false⟩] ∧ ReplaysRight final := by
  have orderly : Meets step Orderly polled disabled := by decide +kernel
  have told : (run step polled disabled).map Watched.told =
      some [⟨1, false⟩, ⟨1, true⟩, ⟨0xFE, false⟩, ⟨0xFF, false⟩] := by decide +kernel
  obtain ⟨final, ran, here⟩ := Option.map_eq_some_iff.mp told
  exact ⟨final, ran, here, replaysRight_run orderly ran⟩

def replaced : List PollEvent := [.check, .add ⟨1, true, false⟩, .check]

/-- The platform is told of a sensor that has not changed. -/
theorem replaced_not_right :
    ∃ final, run step polled replaced = some final ∧ ¬ ReplaysRight final := by
  refine ⟨_, rfl, fun right => ?_⟩
  have changes := (right _ rfl).2
  have told := changes.1.2 (1, true) (by decide) rfl
  exact told rfl

end OpenBic.PollState
