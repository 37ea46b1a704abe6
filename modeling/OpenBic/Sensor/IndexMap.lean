import OpenBic.Library.Checked
import OpenBic.Storage.Sdr
import Mathlib.Data.List.Perm.Subperm

/-!
# The index maps of sensors

`sensor_init` of `sensor.c` up to the maps from the numbers of sensors to their places in the table
of records and in the table of configurations, and `control_sensor_polling`, which goes by the
map.
-/

namespace OpenBic.IndexMap

open List Option Library.Checked OpenBic.Sdr

/-! ## The code -/

/-- `SENSOR_NULL`, `SENSOR_FAIL` and `SENSOR_NOT_SUPPORT`. -/
def sensorNull : UInt8 := 0xFF

def disableSensorPolling : UInt8 := 0

def enableSensorPolling : UInt8 := 1

/-- What the maps and the control have of a `sensor_cfg`. -/
structure SensorCfg where
  num : UInt8
  isEnablePolling : Bool
  cacheStatus : UInt8

/-- What the platform has for the tables. -/
structure SensorPlatform where
  platSdrTable : List SdrFullSensor
  /-- The records that `pal_extend_full_sdr_table` adds. -/
  sdrExtension : List SdrFullSensor
  extendSdr : UInt8
  platSensorConfig : List SensorCfg
  /-- The configurations that `pal_extend_sensor_config` adds. -/
  configExtension : List SensorCfg
  extendSensorConfig : UInt8
  sdrMemory : Bool
  configMemory : Bool

/-- The tables, as far as their counts, and the maps. -/
structure SensorTables where
  fullSdrTable : List SdrFullSensor
  sensorConfig : List SensorCfg
  sdrIndexMap : List UInt8
  sensorConfigIndexMap : List UInt8

/-- `init_sensor_num`, before there are tables. -/
def initSensorNum : SensorTables :=
  ⟨[], [], List.replicate sensorNumMax 0xFF, List.replicate sensorNumMax 0xFF⟩

/-- `check_init_sensor_size`: `sensor_config_size`, which stays zero when the sizes differ. -/
def checkInitSensorSize (platform : SensorPlatform) : UInt8 :=
  let initSdrSize := UInt8.ofNat platform.platSdrTable.length + platform.extendSdr
  let initSensorConfigSize :=
    UInt8.ofNat platform.platSensorConfig.length + platform.extendSensorConfig
  if initSdrSize ≠ initSensorConfigSize then 0 else initSdrSize

/-- `get_sensor_config_index`: the first entry of the number. -/
def getSensorConfigIndex (config : List SensorCfg) (sensorNum : UInt8) : Nat :=
  (config.findIdx? (·.num = sensorNum)).getD sensorNumMax

def addSensorConfig (sdrCount : Nat) (config : List SensorCfg) (added : SensorCfg) :
    List SensorCfg :=
  let index := getSensorConfigIndex config added.num
  if index ≠ sensorNumMax then config.set index added
  else if config.length + 1 ≤ sdrCount then config ++ [added]
  else config

/-- `load_sensor_config`. Nothing is known when the configurations of the platform are more than the
table is allocated for. -/
def loadSensorConfig (platform : SensorPlatform) (sdrCount : Nat) : Option (List SensorCfg) :=
  if platform.platSensorConfig.length ≤ sdrCount then
    some (platform.configExtension.foldl (addSensorConfig sdrCount) platform.platSensorConfig)
  else none

/-- The inner loop of `map_sensor_num_to_sdr_cfg`, for so many turns, from an entry on. Nothing is
known of an entry behind those of the table. -/
def mapLoop {α : Type} (num : α → UInt8) (sdrCount i : UInt8) :
    Nat → List α → Nat → UInt8 → Option UInt8
  | 0, _, _, value => some value
  | _ + 1, [], _, _ => none
  | turns + 1, entry :: rest, j, value =>
    if num entry = i then some (UInt8.ofNat j)
    else mapLoop num sdrCount i turns rest (j + 1) (if i = sdrCount then sensorNull else value)

/-- `map_sensor_num_to_sdr_cfg`, for one of the tables. -/
def mapSensorNum {α : Type} (num : α → UInt8) (sdrCount : Nat) (entries : List α) :
    Option (List UInt8) :=
  (List.range sensorNumMax).mapM fun i =>
    mapLoop num (UInt8.ofNat sdrCount) (UInt8.ofNat i) sdrCount entries 0 0xFF

/-- `sensor_init` up to the maps, with what it returns. -/
def sensorInit (platform : SensorPlatform) : Option (Bool × SensorTables) :=
  let sensorConfigSize := checkInitSensorSize platform
  if sensorConfigSize = 0 then some (false, initSensorNum)
  else if platform.sdrMemory = false then some (false, initSensorNum)
  else do
    let sdr ← sdrInit ⟨platform.platSdrTable, platform.sdrExtension, sensorConfigSize⟩ .start
    let sdrCount := sdr.fullSdrTable.length
    if sdrCount = 0 then some (false, { initSensorNum with fullSdrTable := sdr.fullSdrTable })
    else if platform.configMemory = false then some (false, initSensorNum)
    else do
      let sensorConfig ← loadSensorConfig platform sdrCount
      let sdrIndexMap ← mapSensorNum SdrFullSensor.sensorNum sdrCount sdr.fullSdrTable
      let sensorConfigIndexMap ← mapSensorNum SensorCfg.num sdrCount sensorConfig
      some (true, ⟨sdr.fullSdrTable, sensorConfig, sdrIndexMap, sensorConfigIndexMap⟩)

def SensorCfg.control (optional cacheStatus : UInt8) (config : SensorCfg) : SensorCfg :=
  { config with
    isEnablePolling := optional != 0
    cacheStatus := cacheStatus }

/-- `control_sensor_polling`. Nothing is known of an entry behind those of the table. -/
def controlSensorPolling (tables : SensorTables) (sensorNum optional cacheStatus : UInt8) :
    Option SensorTables :=
  if sensorNum = sensorNull then some tables
  else do
    let index ← tables.sensorConfigIndexMap[sensorNum.toNat]?
    if index = sensorNull then some tables
    else if optional ≠ disableSensorPolling ∧ optional ≠ enableSensorPolling then some tables
    else do
      let config ← tables.sensorConfig[index.toNat]?
      some { tables with
        sensorConfig := tables.sensorConfig.set index.toNat (config.control optional cacheStatus) }

/-! ## What is claimed -/

/-- A map has the place of each number in the table, or the null index. -/
def MapRight {α : Type} (num : α → UInt8) (entries : List α) (map : List UInt8) : Prop :=
  ∀ sensorNum : UInt8, sensorNum ≠ sensorNull → ∃ index, map[sensorNum.toNat]? = some index ∧
    index.toNat = (entries.findIdx? (num · = sensorNum)).getD sensorNumMax

def controlled (tables : SensorTables) (sensorNum optional cacheStatus : UInt8) : SensorTables :=
  if sensorNum ≠ sensorNull ∧
      (optional = disableSensorPolling ∨ optional = enableSensorPolling) then
    match tables.sensorConfig.findIdx? (·.num = sensorNum) with
    | some index => { tables with
      sensorConfig := tables.sensorConfig.modify index (SensorCfg.control optional cacheStatus) }
    | none => tables
  else tables

/-- The maps have the places of the sensors, and the control changes the entry of its sensor. -/
structure TablesRight (tables : SensorTables) : Prop where
  sdr : MapRight SdrFullSensor.sensorNum tables.fullSdrTable tables.sdrIndexMap
  config : MapRight SensorCfg.num tables.sensorConfig tables.sensorConfigIndexMap
  control : ∀ sensorNum optional cacheStatus,
    controlSensorPolling tables sensorNum optional cacheStatus =
      some (controlled tables sensorNum optional cacheStatus)

/-- `sensor_init` stays within the tables, and the maps are right after it. -/
def InitRight (platform : SensorPlatform) : Prop :=
  ∃ result, sensorInit platform = some result ∧ TablesRight result.2

/-- The records of the platform fit into the table, there are some, and their names end; and there
are as many configurations in the end as records, of which the platform's are not more. -/
def Matching (platform : SensorPlatform) : Prop :=
  ∃ records, loadSdrTable ⟨platform.platSdrTable, platform.sdrExtension,
      checkInitSensorSize platform⟩ = some records ∧ records ≠ [] ∧
    (∀ record ∈ records, ∃ name, strlen record.idStr = some name) ∧
    (platform.configMemory = true →
      platform.platSensorConfig.length ≤ records.length ∧
      (platform.configExtension.foldl (addSensorConfig records.length)
        platform.platSensorConfig).length = records.length)

/-- The sizes differ or are zero, there is no memory, or the tables match. -/
def Sound (platform : SensorPlatform) : Prop :=
  checkInitSensorSize platform = 0 ∨ platform.sdrMemory = false ∨ Matching platform

/-! ## The maps -/

section Maps

variable {α : Type} {num : α → UInt8} {entries : List α} {sdrCount : Nat}

/-- The loop finds the first entry of a number within its turns, and goes astray when the entries
end before it does. -/
theorem mapLoop_eq (count i : UInt8) (turns : Nat) (rest : List α) (j : Nat) :
    mapLoop num count i turns rest j 0xFF =
      match rest.findIdx? (num · = i) with
      | some place => some (if place < turns then UInt8.ofNat (j + place) else 0xFF)
      | none => if turns ≤ rest.length then some 0xFF else none := by
  induction turns generalizing rest j with
  | zero =>
    cases rest.findIdx? (num · = i) with
    | none => rfl
    | some place => rfl
  | succ turns ih =>
    cases rest with
    | nil => rfl
    | cons entry rest =>
      have same : (if i = count then sensorNull else 0xFF) = (0xFF : UInt8) := ite_self _
      have onward := ih rest (j + 1)
      rw [mapLoop, findIdx?_cons, same]
      by_cases here : num entry = i
      · rw [if_pos here, if_pos (decide_eq_true here)]
        dsimp only
        rw [if_pos (Nat.succ_pos turns), Nat.add_zero]
      · rw [if_neg here, if_neg (by simpa using here), onward, length_cons]
        cases rest.findIdx? (num · = i) with
        | none =>
          dsimp only [map_none]
          congr 1
          exact propext Nat.succ_le_succ_iff.symm
        | some place =>
          dsimp only [map_some]
          rw [Nat.add_right_comm, Nat.add_assoc]
          congr 2
          exact propext Nat.succ_lt_succ_iff.symm

def placeOf (num : α → UInt8) (entries : List α) (i : UInt8) : UInt8 :=
  UInt8.ofNat ((entries.findIdx? (num · = i)).getD sensorNumMax)

theorem mapSensorNum_eq (length : entries.length = sdrCount) :
    mapSensorNum num sdrCount entries =
      some ((List.range sensorNumMax).map fun i => placeOf num entries (UInt8.ofNat i)) := by
  apply mapM_eq_map
  intro i _
  rw [mapLoop_eq]
  unfold placeOf
  cases found : entries.findIdx? (num · = UInt8.ofNat i) with
  | none =>
    rw [if_pos (Nat.le_of_eq length.symm)]
    rfl
  | some place =>
    obtain ⟨inside, -⟩ := List.findIdx?_eq_some_iff_getElem.mp found
    dsimp only
    rw [if_pos (by omega), Nat.zero_add]
    rfl

theorem mapRight_placeOf (few : entries.length ≤ sensorNumMax) :
    MapRight num entries
      ((List.range sensorNumMax).map fun i => placeOf num entries (UInt8.ofNat i)) := by
  intro sensorNum present
  have inside : sensorNum.toNat < sensorNumMax := by
    have small := sensorNum.toNat_lt
    have apart : sensorNum.toNat ≠ 255 := fun same => present (UInt8.toNat_inj.mp same)
    unfold sensorNumMax
    omega
  refine ⟨placeOf num entries sensorNum, ?_, ?_⟩
  · rw [getElem?_map, getElem?_range inside, map_some, UInt8.ofNat_toNat]
  · unfold placeOf
    rw [UInt8.toNat_ofNat', Nat.mod_eq_of_lt]
    cases found : entries.findIdx? (num · = sensorNum) with
    | none => decide
    | some place =>
      obtain ⟨within, -⟩ := List.findIdx?_eq_some_iff_getElem.mp found
      unfold sensorNumMax at few
      change place < 2 ^ 8
      omega

theorem exists_absent (num : α → UInt8) (few : entries.length < sensorNumMax) :
    ∃ i ∈ List.range sensorNumMax, entries.findIdx? (num · = UInt8.ofNat i) = none := by
  by_contra all
  have covered : List.range sensorNumMax ⊆ entries.map fun entry => (num entry).toNat := by
    intro i listed
    have found : entries.findIdx? (num · = UInt8.ofNat i) ≠ none :=
      fun absent => all ⟨i, listed, absent⟩
    obtain ⟨place, here⟩ := ne_none_iff_exists'.mp found
    obtain ⟨inside, same, -⟩ := List.findIdx?_eq_some_iff_getElem.mp here
    have number := of_decide_eq_true same
    have small := List.mem_range.mp listed
    unfold sensorNumMax at small
    refine List.mem_map.mpr ⟨entries[place], getElem_mem inside, ?_⟩
    rw [number, UInt8.toNat_ofNat', Nat.mod_eq_of_lt (by omega)]
  have long := ((nodup_range).subperm covered).length_le
  rw [length_range, length_map] at long
  omega

theorem mapSensorNum_eq_none (short : entries.length < sdrCount) (few : sdrCount ≤ sensorNumMax) :
    mapSensorNum num sdrCount entries = none := by
  obtain ⟨i, listed, absent⟩ := exists_absent num (Nat.lt_of_lt_of_le short few)
  apply mapM_eq_none listed
  rw [mapLoop_eq, absent]
  exact if_neg (Nat.not_le_of_lt short)

end Maps

/-! ## The tables -/

section Tables

variable {platform : SensorPlatform} {tables : SensorTables} {sdrCount : Nat}

theorem length_addSensorConfig (config : List SensorCfg) (added : SensorCfg)
    (few : config.length ≤ sdrCount) :
    (addSensorConfig sdrCount config added).length ≤ sdrCount := by
  unfold addSensorConfig
  dsimp only
  split
  · rw [length_set]
    exact few
  · split
    next room =>
      rw [length_append, length_singleton]
      exact room
    · exact few

theorem length_foldl_addSensorConfig (config extension : List SensorCfg)
    (few : config.length ≤ sdrCount) :
    (extension.foldl (addSensorConfig sdrCount) config).length ≤ sdrCount := by
  induction extension generalizing config with
  | nil => exact few
  | cons added rest ih => exact ih _ (length_addSensorConfig config added few)

/-- With a right map the control changes the entry of its sensor. -/
theorem control_of_map
    (map : MapRight SensorCfg.num tables.sensorConfig tables.sensorConfigIndexMap)
    (few : tables.sensorConfig.length ≤ sensorNumMax) (sensorNum optional cacheStatus : UInt8) :
    controlSensorPolling tables sensorNum optional cacheStatus =
      some (controlled tables sensorNum optional cacheStatus) := by
  unfold controlSensorPolling controlled
  by_cases unsupported : sensorNum = sensorNull
  · rw [if_pos unsupported, if_neg fun both => both.1 unsupported]
  · obtain ⟨index, mapped, place⟩ := map sensorNum unsupported
    rw [if_neg unsupported, mapped]
    dsimp only [bind_eq_bind, bind_some]
    cases found : tables.sensorConfig.findIdx? (·.num = sensorNum) with
    | none =>
      rw [found] at place
      have null : index = sensorNull := UInt8.toNat_inj.mp place
      rw [if_pos null]
      rw [ite_self]
    | some entry =>
      rw [found] at place
      obtain ⟨inside, -⟩ := List.findIdx?_eq_some_iff_getElem.mp found
      have present : index ≠ sensorNull := by
        intro null
        have last : index.toNat = 255 := congrArg UInt8.toNat null
        unfold sensorNumMax at few
        rw [last] at place
        change 255 = entry at place
        omega
      have same : index.toNat = entry := place
      rw [if_neg present, same]
      dsimp only
      by_cases known : optional = disableSensorPolling ∨ optional = enableSensorPolling
      · have supported : ¬(optional ≠ disableSensorPolling ∧ optional ≠ enableSensorPolling) :=
          fun both => known.elim both.1 both.2
        rw [if_neg supported, if_pos ⟨unsupported, known⟩, getElem?_eq_getElem inside,
          modify_eq_set_getElem?, getElem?_eq_getElem inside]
        rfl
      · have refused := not_or.mp known
        rw [if_pos refused, if_neg fun both => known both.2]

theorem tablesRight (sdr : MapRight SdrFullSensor.sensorNum tables.fullSdrTable tables.sdrIndexMap)
    (config : MapRight SensorCfg.num tables.sensorConfig tables.sensorConfigIndexMap)
    (few : tables.sensorConfig.length ≤ sensorNumMax) : TablesRight tables :=
  ⟨sdr, config, control_of_map config few⟩

theorem tablesRight_init : TablesRight initSensorNum := by
  have map : ∀ {α : Type} (num : α → UInt8),
      MapRight num [] (List.replicate sensorNumMax 0xFF) := by
    intro α num sensorNum present
    have inside : sensorNum.toNat < sensorNumMax := by
      have small := sensorNum.toNat_lt
      have apart : sensorNum.toNat ≠ 255 := fun same => present (UInt8.toNat_inj.mp same)
      unfold sensorNumMax
      omega
    refine ⟨0xFF, ?_, rfl⟩
    rw [getElem?_replicate, if_pos inside]
  exact tablesRight (map _) (map _) (Nat.zero_le _)

theorem loadSensorConfig_some {sensorConfig : List SensorCfg}
    (loaded : loadSensorConfig platform sdrCount = some sensorConfig) :
    platform.platSensorConfig.length ≤ sdrCount ∧
      platform.configExtension.foldl (addSensorConfig sdrCount) platform.platSensorConfig =
        sensorConfig ∧
      sensorConfig.length ≤ sdrCount := by
  unfold loadSensorConfig at loaded
  split at loaded
  next few =>
    have same := Option.some.inj loaded
    have bounded := length_foldl_addSensorConfig platform.platSensorConfig
      platform.configExtension few
    rw [same] at bounded
    exact ⟨few, same, bounded⟩
  · cases loaded

/-- When the initialisation stays within the tables, it gives up early or the tables match. -/
theorem sound_of_sensorInit {result : Bool × SensorTables}
    (done : sensorInit platform = some result) : Sound platform := by
  by_cases size : checkInitSensorSize platform = 0
  · exact .inl size
  by_cases memory : platform.sdrMemory = false
  · exact .inr (.inl memory)
  unfold sensorInit at done
  rw [if_neg size, if_neg memory] at done
  obtain ⟨sdr, stored, done⟩ := Option.bind_eq_some_iff.mp done
  obtain ⟨records, loads, stores, -⟩ := sdrInit_some stored
  have length := stores.length
  have last := stores.last
  have few := stores.few
  refine .inr (.inr ⟨records, loads, ne_nil_of_length_pos (by omega), ?_, ?_⟩)
  · intro record listed
    obtain ⟨index, here⟩ := getElem?_of_mem listed
    obtain ⟨name, found, -⟩ := stores.stored index record here
    exact ⟨name, found⟩
  · intro configMemory
    rw [if_neg (by omega), if_neg (by rw [configMemory]; decide)] at done
    obtain ⟨sensorConfig, loadsConfig, done⟩ := Option.bind_eq_some_iff.mp done
    obtain ⟨sdrIndexMap, -, done⟩ := Option.bind_eq_some_iff.mp done
    obtain ⟨sensorConfigIndexMap, mapped, -⟩ := Option.bind_eq_some_iff.mp done
    obtain ⟨fits, same, bounded⟩ := loadSensorConfig_some loadsConfig
    rw [length] at fits same bounded mapped
    refine ⟨fits, ?_⟩
    rw [same]
    by_contra differ
    have short : sensorConfig.length < records.length := by omega
    rw [mapSensorNum_eq_none short few] at mapped
    cases mapped

/-- When the tables match, they are made with their maps. -/
theorem initRight_of_matching (size : checkInitSensorSize platform ≠ 0)
    (memory : platform.sdrMemory ≠ false) (matching : Matching platform) :
    InitRight platform := by
  obtain ⟨records, loads, some, named, configs⟩ := matching
  obtain ⟨sdr, stored⟩ := sdrInit_isSome loads some named .start
  obtain ⟨again, loadsAgain, stores, -⟩ := sdrInit_some stored
  cases loads.symm.trans loadsAgain
  have length := stores.length
  have last := stores.last
  have few := stores.few
  unfold InitRight sensorInit
  rw [if_neg size, if_neg memory, stored]
  dsimp only [bind_eq_bind, bind_some]
  rw [if_neg (by omega)]
  by_cases configMemory : platform.configMemory = false
  · rw [if_pos configMemory]
    exact ⟨_, rfl, tablesRight_init⟩
  · obtain ⟨fits, same⟩ := configs (by simpa using configMemory)
    have sdrMap := @mapSensorNum_eq _ SdrFullSensor.sensorNum _ _ (Eq.refl sdr.fullSdrTable.length)
    have configMap := @mapSensorNum_eq _ SensorCfg.num _ _ (same.trans length.symm)
    rw [if_neg configMemory, loadSensorConfig, length, if_pos fits]
    rw [length] at sdrMap configMap
    dsimp only [bind_some]
    have fewRecords : sdr.fullSdrTable.length ≤ sensorNumMax := length ▸ few
    have fewConfigs : (platform.configExtension.foldl (addSensorConfig records.length)
        platform.platSensorConfig).length ≤ sensorNumMax := same.le.trans few
    rw [sdrMap, configMap]
    exact ⟨_, rfl, tablesRight (mapRight_placeOf fewRecords) (mapRight_placeOf fewConfigs)
      fewConfigs⟩

end Tables

/-- For all tables of the platform, the initialisation stays within the tables and the maps have the
places of the sensors, by which the control changes only the entry of its sensor, exactly if it
gives up early, or the records fit into their table, and the configurations into theirs, and there
are as many of them in the end. -/
theorem initRight_iff (platform : SensorPlatform) : InitRight platform ↔ Sound platform := by
  constructor
  · rintro ⟨result, done, -⟩
    exact sound_of_sensorInit done
  · intro sound
    by_cases size : checkInitSensorSize platform = 0
    · refine ⟨(false, initSensorNum), ?_, tablesRight_init⟩
      exact if_pos size
    by_cases memory : platform.sdrMemory = false
    · refine ⟨(false, initSensorNum), ?_, tablesRight_init⟩
      unfold sensorInit
      rw [if_neg size, if_pos memory]
    rcases sound with none | without | matching
    · exact absurd none size
    · exact absurd without memory
    · exact initRight_of_matching size memory matching

def recordOf (sensorNum : UInt8) : SdrFullSensor where
  bytes := (List.replicate sdrFullSensorSize 0).set 7 sensorNum
  sized := by rw [length_set, length_replicate]

/-- A platform with one record, which its extension replaces, and two configurations. -/
def replacedRecord : SensorPlatform where
  platSdrTable := [recordOf 1]
  sdrExtension := [recordOf 1]
  extendSdr := 1
  platSensorConfig := [⟨1, true, 0⟩, ⟨2, true, 0⟩]
  configExtension := []
  extendSensorConfig := 0
  sdrMemory := true
  configMemory := true

/-- The configurations are more than the table is allocated for, although the sizes are the same. -/
theorem replacedRecord_not_right : ¬ InitRight replacedRecord := by
  rintro ⟨result, done, -⟩
  cases done

end OpenBic.IndexMap
