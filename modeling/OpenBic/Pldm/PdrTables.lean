import OpenBic.Pldm.Pdr

/-!
# The tables of the PDR repository

What `pdr_init` leaves when it succeeds: the tables as its loops leave them, with handles that go on
from one table to the next, and what `get_pdr_table_via_record_handle` comes upon in them.
-/

namespace OpenBic.Pldm.Pdr

open List Option Library.Checked Library.Number

/-! ## The records -/

/-- A record: its kind, and how many of this kind are before it. -/
structure Entry where
  kind : Kind
  index : Nat

def Platform.entries (platform : Platform) : List Entry :=
  Kind.all.flatMap fun kind => (List.range (platform.count kind)).map (Entry.mk kind)

def Platform.place (platform : Platform) (entry : Entry) : Nat :=
  entry.index * platform.recordSize entry.kind

variable {platform : Platform}

def Repository.handleOf (repository : Repository platform) (entry : Entry) : Option Nat := do
  let table ← repository.tables entry.kind
  fieldAt table.bytes (platform.place entry) 4

def Repository.bytesOf (repository : Repository platform) (entry : Entry) :
    Option (List UInt8) := do
  let table ← repository.tables entry.kind
  table.read (platform.place entry) (platform.recordSize entry.kind)

def Platform.totalSize (platform : Platform) : Nat :=
  (Kind.all.map fun kind => platform.count kind * platform.recordSize kind).sum

def Platform.largestSize (platform : Platform) : Nat :=
  (platform.entries.map fun entry => platform.recordSize entry.kind).foldr max 0

/-! ## What `pdr_init` leaves -/

def Platform.base (platform : Platform) : Kind → Nat
  | .stateSensor => 0
  | .numericSensor => platform.count .stateSensor
  | .sensorAuxiliaryNames => platform.count .stateSensor + platform.count .numericSensor
  | .entityAuxiliaryNames => platform.count .stateSensor + platform.count .numericSensor +
      platform.count .sensorAuxiliaryNames

def Platform.total (platform : Platform) : Nat :=
  platform.base .entityAuxiliaryNames + platform.count .entityAuxiliaryNames

variable {memory : Memory} {progress next : Progress platform} {kind : Kind}

/-- What `pdr_init` has done for a kind. -/
structure Loaded (memory : Memory) (progress next : Progress platform) (kind : Kind) : Prop where
  available : platform.count kind ≠ 0 → memory.zeroPage = true ∧ memory.table kind = true
  stored : platform.count kind ≠ 0 → ∃ table, next.tables kind = some table ∧
    initRecords platform kind progress.recordHandle (platform.count kind)
      (platform.loaded kind) = some table
  others : ∀ other, other ≠ kind → next.tables other = progress.tables other
  recordHandle : next.recordHandle = progress.recordHandle + platform.count kind
  totalRecordCount : next.totalRecordCount = progress.totalRecordCount + platform.count kind
  largest : ∀ bound, next.largestRecordSize ≤ bound ↔
    progress.largestRecordSize ≤ bound ∧
      (platform.count kind ≠ 0 → platform.structSize kind ≤ bound)

/-- What `pdr_init` does for a kind when it goes on. -/
theorem loaded_of_initTable (ran : initTable platform memory progress kind = .ok next) :
    Loaded memory progress next kind := by
  unfold initTable at ran
  split at ran
  · rename_i absent
    obtain rfl : progress = next := Except.ok.inj ran
    exact {
      available := fun present => absurd absent present
      stored := fun present => absurd absent present
      others := fun _ _ => rfl
      recordHandle := by omega
      totalRecordCount := by omega
      largest := fun bound =>
        ⟨fun small => ⟨small, fun present => absurd absent present⟩, fun small => small.1⟩ }
  · rename_i present
    split at ran
    · cases ran
    · rename_i allocated
      split at ran
      · cases ran
      · rename_i mapped
        split at ran
        · cases ran
        · rename_i table loop
          cases ran
          exact {
            available := fun _ => ⟨by simpa using mapped, by simpa using allocated⟩
            stored := fun _ => ⟨table, Function.update_self .., loop⟩
            others := fun other different => Function.update_of_ne different ..
            recordHandle := rfl
            totalRecordCount := rfl
            largest := fun bound => by
              rw [max_le_iff]
              exact ⟨fun small => ⟨small.1, fun _ => small.2⟩,
                fun small => ⟨small.1, small.2 present⟩⟩ }

theorem initTable_ok
    (available : platform.count kind ≠ 0 → memory.zeroPage = true ∧ memory.table kind = true)
    (loop : ∃ table, initRecords platform kind progress.recordHandle (platform.count kind)
      (platform.loaded kind) = some table) :
    ∃ next, initTable platform memory progress kind = .ok next := by
  obtain ⟨table, ran⟩ := loop
  unfold initTable
  by_cases absent : platform.count kind = 0
  · exact ⟨progress, if_pos absent⟩
  · obtain ⟨mapped, allocated⟩ := available absent
    rw [if_neg absent, if_neg (by simp [allocated]), if_neg (by simp [mapped]), ran]
    exact ⟨_, rfl⟩

theorem bind_eq_ok {ε α β : Type} {first : Except ε α} {next : α → Except ε β} {result : β} :
    first >>= next = .ok result ↔ ∃ value, first = .ok value ∧ next value = .ok result := by
  cases first with
  | error stop =>
    constructor
    · intro ran
      cases ran
    · rintro ⟨_, ran, _⟩
      cases ran
  | ok value =>
    constructor
    · exact fun ran => ⟨value, rfl, ran⟩
    · rintro ⟨same, ran, later⟩
      cases ran
      exact later

/-- What `pdr_init` leaves when it succeeds. -/
structure Initialised (memory : Memory) (repository : Repository platform) : Prop where
  available : ∀ kind, platform.count kind ≠ 0 → memory.zeroPage = true ∧ memory.table kind = true
  stored : ∀ kind, platform.count kind ≠ 0 → ∃ table, repository.tables kind = some table ∧
    initRecords platform kind (platform.base kind) (platform.count kind) (platform.loaded kind) =
      some table
  total : repository.totalRecordCount = platform.total
  told : ∃ largest, (∀ bound, largest ≤ bound ↔
      ∀ kind, platform.count kind ≠ 0 → platform.structSize kind ≤ bound) ∧
    repository.pdrInfo = memory.info.map fun repositorySize =>
      ⟨platform.total, repositorySize, largest⟩

theorem forall_kind {holds : Kind → Prop} : (∀ kind, holds kind) ↔
    holds .stateSensor ∧ holds .numericSensor ∧ holds .sensorAuxiliaryNames ∧
      holds .entityAuxiliaryNames := by
  constructor
  · exact fun all => ⟨all _, all _, all _, all _⟩
  · rintro ⟨state, numeric, names, entity⟩ kind
    cases kind with
    | stateSensor => exact state
    | numericSensor => exact numeric
    | sensorAuxiliaryNames => exact names
    | entityAuxiliaryNames => exact entity

theorem initialised_of_pdrInit {repository : Repository platform}
    (ran : pdrInit platform memory = .ok repository) : Initialised memory repository := by
  obtain ⟨last, loop, made⟩ := bind_eq_ok.mp ran
  cases made
  obtain ⟨first, state, loop⟩ := bind_eq_ok.mp loop
  obtain ⟨second, numeric, loop⟩ := bind_eq_ok.mp loop
  obtain ⟨third, names, loop⟩ := bind_eq_ok.mp loop
  obtain ⟨fourth, entity, loop⟩ := bind_eq_ok.mp loop
  obtain rfl := Except.ok.inj loop
  have state := loaded_of_initTable state
  have numeric := loaded_of_initTable numeric
  have names := loaded_of_initTable names
  have entity := loaded_of_initTable entity
  have secondHandle : first.recordHandle = platform.base .numericSensor :=
    state.recordHandle.trans (Nat.zero_add _)
  have thirdHandle : second.recordHandle = platform.base .sensorAuxiliaryNames := by
    rw [numeric.recordHandle, secondHandle]
    rfl
  have fourthHandle : third.recordHandle = platform.base .entityAuxiliaryNames := by
    rw [names.recordHandle, thirdHandle]
    rfl
  have counted : fourth.totalRecordCount = platform.total := by
    rw [entity.totalRecordCount, names.totalRecordCount, numeric.totalRecordCount,
      state.totalRecordCount]
    show 0 + _ + _ + _ + _ = _ + _
    rw [Nat.zero_add]
    rfl
  have namesTable : fourth.tables .sensorAuxiliaryNames = third.tables .sensorAuxiliaryNames :=
    entity.others _ (by decide)
  have numericTable : fourth.tables .numericSensor = second.tables .numericSensor :=
    (entity.others _ (by decide)).trans (names.others _ (by decide))
  have stateTable : fourth.tables .stateSensor = first.tables .stateSensor :=
    ((entity.others _ (by decide)).trans (names.others _ (by decide))).trans
      (numeric.others _ (by decide))
  refine ⟨?_, ?_, counted, fourth.largestRecordSize, ?_, ?_⟩
  · exact forall_kind.mpr
      ⟨state.available, numeric.available, names.available, entity.available⟩
  · refine forall_kind.mpr ⟨fun present => ?_, fun present => ?_, fun present => ?_,
      fun present => ?_⟩
    · obtain ⟨table, stored, loop⟩ := state.stored present
      exact ⟨table, stateTable.trans stored, loop⟩
    · obtain ⟨table, stored, loop⟩ := numeric.stored present
      rw [secondHandle] at loop
      exact ⟨table, numericTable.trans stored, loop⟩
    · obtain ⟨table, stored, loop⟩ := names.stored present
      rw [thirdHandle] at loop
      exact ⟨table, namesTable.trans stored, loop⟩
    · obtain ⟨table, stored, loop⟩ := entity.stored present
      rw [fourthHandle] at loop
      exact ⟨table, stored, loop⟩
  · intro bound
    have start : (Progress.start platform).largestRecordSize ≤ bound := Nat.zero_le bound
    rw [entity.largest, names.largest, numeric.largest, state.largest, forall_kind]
    tauto
  · rw [← counted]

theorem pdrInit_ok
    (available : ∀ kind, platform.count kind ≠ 0 →
      memory.zeroPage = true ∧ memory.table kind = true)
    (loop : ∀ kind first, ∃ table, initRecords platform kind first (platform.count kind)
      (platform.loaded kind) = some table) :
    ∃ repository, pdrInit platform memory = .ok repository := by
  have each : ∀ progress kind, ∃ next, initTable platform memory progress kind = .ok next :=
    fun progress kind => initTable_ok (available kind) (loop kind _)
  obtain ⟨first, state⟩ := each (Progress.start platform) .stateSensor
  obtain ⟨second, numeric⟩ := each first .numericSensor
  obtain ⟨third, names⟩ := each second .sensorAuxiliaryNames
  obtain ⟨fourth, entity⟩ := each third .entityAuxiliaryNames
  refine ⟨_, bind_eq_ok.mpr ⟨fourth, ?_, rfl⟩⟩
  exact bind_eq_ok.mpr ⟨first, state, bind_eq_ok.mpr ⟨second, numeric,
    bind_eq_ok.mpr ⟨third, names, bind_eq_ok.mpr ⟨fourth, entity, rfl⟩⟩⟩⟩

/-! ## The handles -/

theorem PdrBuild.recordSize_eq (build : PdrBuild) (other : kind ≠ .entityAuxiliaryNames) :
    build.recordSize kind = build.structSize kind := by
  cases kind with
  | stateSensor => rfl
  | numericSensor => rfl
  | sensorAuxiliaryNames => rfl
  | entityAuxiliaryNames => exact absurd rfl other

theorem Platform.record_of_count (present : platform.count kind ≠ 0) :
    Nonempty (Record (platform.recordSize kind) kind.nameAt) := by
  have nonempty : platform.records kind ≠ [] := fun none =>
    present (congrArg List.length none)
  obtain ⟨record, rest, listed⟩ := exists_cons_of_ne_nil nonempty
  exact ⟨record⟩

theorem Platform.recordSize_ge (present : platform.count kind ≠ 0) :
    commonHeaderSize ≤ platform.recordSize kind := by
  obtain ⟨record⟩ := Platform.record_of_count present
  exact record.headed

theorem Platform.entity_large (present : platform.count .entityAuxiliaryNames ≠ 0) :
    platform.structSize .entityAuxiliaryNames < platform.recordSize .entityAuxiliaryNames := by
  obtain ⟨record⟩ := Platform.record_of_count present
  have behind := (record.ended 21 rfl).length_pos
  rw [length_drop, record.sized] at behind
  have begins : platform.structSize .entityAuxiliaryNames = 21 := rfl
  omega

theorem Platform.count_le (platform : Platform) (kind : Kind) :
    platform.count kind ≤ platform.count kind * platform.recordSize kind := by
  by_cases present : platform.count kind = 0
  · rw [present]
    exact Nat.zero_le _
  · have large := Platform.recordSize_ge present
    have ten : commonHeaderSize = 10 := rfl
    exact Nat.le_mul_of_pos_right _ (by omega)

theorem Platform.totalSize_eq (platform : Platform) : platform.totalSize =
    platform.count .stateSensor * platform.recordSize .stateSensor +
      (platform.count .numericSensor * platform.recordSize .numericSensor +
        (platform.count .sensorAuxiliaryNames * platform.recordSize .sensorAuxiliaryNames +
          platform.count .entityAuxiliaryNames * platform.recordSize .entityAuxiliaryNames)) :=
  rfl

theorem Platform.totalSize_lt (platform : Platform) : platform.totalSize < 2 ^ 32 := platform.fits

theorem Platform.total_lt (platform : Platform) : platform.total < 2 ^ 32 := by
  have fits := platform.totalSize_lt
  have state := platform.count_le .stateSensor
  have numeric := platform.count_le .numericSensor
  have names := platform.count_le .sensorAuxiliaryNames
  have entity := platform.count_le .entityAuxiliaryNames
  rw [platform.totalSize_eq] at fits
  have sum : platform.total = platform.count .stateSensor + platform.count .numericSensor +
    platform.count .sensorAuxiliaryNames + platform.count .entityAuxiliaryNames := rfl
  omega

theorem Platform.base_le (platform : Platform) (kind : Kind) :
    platform.base kind + platform.count kind ≤ platform.total := by
  cases kind <;> unfold Platform.total <;> simp only [Platform.base] <;> omega

theorem Platform.mem_entries {entry : Entry} :
    entry ∈ platform.entries ↔ entry.index < platform.count entry.kind := by
  obtain ⟨kind, index⟩ := entry
  have listed : kind ∈ Kind.all := by cases kind <;> decide
  constructor
  · intro member
    obtain ⟨same, -, member⟩ := List.mem_flatMap.mp member
    obtain ⟨number, inside, equal⟩ := List.mem_map.mp member
    obtain ⟨rfl, rfl⟩ := Entry.mk.inj equal
    exact List.mem_range.mp inside
  · intro inside
    exact List.mem_flatMap.mpr
      ⟨kind, listed, List.mem_map.mpr ⟨index, List.mem_range.mpr inside, rfl⟩⟩

/-- Each record stands where it is looked for. -/
def Platform.Placed (platform : Platform) : Prop := ∀ kind, ∀ index < platform.count kind,
  index * platform.structSize kind = index * platform.recordSize kind

theorem Platform.placed_of_single (single : platform.count .entityAuxiliaryNames ≤ 1) :
    platform.Placed := by
  intro kind index inside
  by_cases named : kind = .entityAuxiliaryNames
  · subst named
    have first : index = 0 := by omega
    rw [first, Nat.zero_mul, Nat.zero_mul]
  · rw [platform.recordSize_eq named]

variable {repository : Repository platform} {index : Nat}

theorem bytesOf_eq (initialised : Initialised memory repository)
    (inside : index < platform.count kind) :
    ∃ bytes, repository.bytesOf ⟨kind, index⟩ = some bytes ∧
      bytes.length = platform.recordSize kind := by
  obtain ⟨table, stored, -⟩ := initialised.stored kind (by omega)
  have rows := Nat.mul_le_mul_right (platform.recordSize kind) (Nat.succ_le_of_lt inside)
  rw [Nat.succ_mul] at rows
  have read := table.read_eq (show index * platform.recordSize kind + platform.recordSize kind ≤
    platform.tableSize kind from rows)
  exact ⟨_, Option.bind_eq_some_iff.mpr ⟨table, stored, read⟩, length_of_rangeAt read⟩

theorem handleOf_eq (initialised : Initialised memory repository) (placed : platform.Placed)
    (inside : index < platform.count kind) :
    repository.handleOf ⟨kind, index⟩ = some (platform.base kind + index) := by
  obtain ⟨table, stored, loop⟩ := initialised.stored kind (by omega)
  have holds := initRecords_handles loop index inside
  rw [placed kind index inside] at holds
  have before := platform.base_le kind
  have small := platform.total_lt
  exact Option.bind_eq_some_iff.mpr ⟨table, stored,
    fieldAt_of_holds holds (show platform.base kind + index < 2 ^ 32 by omega)⟩

theorem map_handleOf_kind (initialised : Initialised memory repository)
    (placed : platform.Placed) (kind : Kind) :
    ((List.range (platform.count kind)).map (Entry.mk kind)).map repository.handleOf =
      (List.range' (platform.base kind) (platform.count kind)).map some := by
  rw [range'_eq_map_range, List.map_map, List.map_map]
  apply map_congr_left
  intro index member
  exact handleOf_eq initialised placed (List.mem_range.mp member)

theorem map_handleOf (initialised : Initialised memory repository) (placed : platform.Placed) :
    platform.entries.map repository.handleOf = (List.range' 0 platform.total).map some := by
  have rows := map_handleOf_kind initialised placed
  have behind : ∀ first second, List.range' 0 first ++ List.range' first second =
      List.range' 0 (first + second) := fun first second => by
    have joined := range'_append_1 (s := 0) (m := first) (n := second)
    rwa [Nat.zero_add] at joined
  have joined : List.range' (platform.base .stateSensor) (platform.count .stateSensor) ++
      (List.range' (platform.base .numericSensor) (platform.count .numericSensor) ++
        (List.range' (platform.base .sensorAuxiliaryNames) (platform.count .sensorAuxiliaryNames) ++
          List.range' (platform.base .entityAuxiliaryNames)
            (platform.count .entityAuxiliaryNames))) = List.range' 0 platform.total := by
    simp only [Platform.base, Platform.total, ← append_assoc, behind]
  have listed : platform.entries.map repository.handleOf = _ :=
    map_flatMap ..
  rw [listed, ← joined]
  simp only [rows, Kind.all, flatMap_cons, flatMap_nil, append_nil,
    map_append]

theorem exists_base (initialised : Initialised memory repository) (placed : platform.Placed)
    {recordHandle : Nat} (below : recordHandle < platform.total) :
    ∃ kind index, index < platform.count kind ∧ recordHandle = platform.base kind + index := by
  have member : some recordHandle ∈ platform.entries.map repository.handleOf := by
    rw [map_handleOf initialised placed]
    exact List.mem_map_of_mem (mem_range'_1.mpr ⟨Nat.zero_le _, by omega⟩)
  obtain ⟨⟨kind, index⟩, listed, same⟩ := List.mem_map.mp member
  have inside := Platform.mem_entries.mp listed
  rw [handleOf_eq initialised placed inside] at same
  exact ⟨kind, index, inside, (Option.some.inj same).symm⟩

/-! ## The search -/

section Search

variable {size structSize recordHandle place : Nat} {table : Buffer size}

theorem search_range {first count : Nat}
    (holds : ∀ index < count, table.Holds (index * structSize) (digits (first + index) 4))
    (small : first + count ≤ 2 ^ 32) {index : Nat} (inside : index < count) :
    ∀ length start, start + length = count → start ≤ index →
      search table structSize (first + index) (List.range' start length) =
        some (some (index * structSize)) := by
  intro length
  induction length with
  | zero => exact fun start whole before => absurd inside (by omega)
  | succ length ih =>
    intro start whole before
    have field := fieldAt_of_holds (holds start (by omega))
      (show first + start < 256 ^ 4 by omega)
    rw [range'_succ, search, field, bind_eq_bind, bind_some]
    by_cases here : start = index
    · rw [here, if_pos rfl]
    · rw [if_neg (by omega)]
      exact ih (start + 1) (by omega) (by omega)

theorem place_of_search {indices : List Nat}
    (found : search table structSize recordHandle indices = some (some place)) :
    ∃ index ∈ indices, place = index * structSize := by
  induction indices with
  | nil => cases found
  | cons index rest ih =>
    obtain ⟨field, -, found⟩ := Option.bind_eq_some_iff.mp found
    split at found
    · cases Option.some.inj found
      exact ⟨index, mem_cons_self, rfl⟩
    · obtain ⟨later, listed, there⟩ := ih found
      exact ⟨later, mem_cons_of_mem _ listed, there⟩

end Search

theorem Platform.kindOf_eq (inside : index < platform.count kind) :
    platform.kindOf (platform.base kind + index) = some kind := by
  unfold Platform.kindOf
  cases kind with
  | stateSensor =>
    have here : platform.base .stateSensor = 0 := rfl
    rw [if_pos (by omega)]
  | numericSensor =>
    have here : platform.base .numericSensor = platform.count .stateSensor := rfl
    rw [if_neg (by omega), if_pos (by omega)]
  | sensorAuxiliaryNames =>
    have here : platform.base .sensorAuxiliaryNames =
      platform.count .stateSensor + platform.count .numericSensor := rfl
    rw [if_neg (by omega), if_neg (by omega), if_pos (by omega)]
  | entityAuxiliaryNames =>
    have here : platform.base .entityAuxiliaryNames = platform.count .stateSensor +
      platform.count .numericSensor + platform.count .sensorAuxiliaryNames := rfl
    rw [if_neg (by omega), if_neg (by omega), if_neg (by omega), if_pos (by omega)]

theorem Platform.kindOf_none {recordHandle : Nat} (outside : platform.total ≤ recordHandle) :
    platform.kindOf recordHandle = none := by
  have sum : platform.total = platform.count .stateSensor + platform.count .numericSensor +
    platform.count .sensorAuxiliaryNames + platform.count .entityAuxiliaryNames := rfl
  unfold Platform.kindOf
  rw [if_neg (by omega), if_neg (by omega), if_neg (by omega), if_neg (by omega)]

theorem find_eq (initialised : Initialised memory repository)
    (inside : index < platform.count kind) :
    repository.find (platform.base kind + index) =
      some (some (kind, index * platform.structSize kind)) := by
  obtain ⟨table, stored, loop⟩ := initialised.stored kind (by omega)
  have before := platform.base_le kind
  have small := platform.total_lt
  have found := search_range (initRecords_handles loop) (by omega) inside _ 0 (Nat.zero_add _)
    (Nat.zero_le _)
  unfold Repository.find
  rw [Platform.kindOf_eq inside]
  dsimp only
  rw [stored, bind_eq_bind, bind_some, range_eq_range', found,
    bind_eq_bind, bind_some, map_some]

theorem place_of_find {recordHandle place : Nat}
    (found : repository.find recordHandle = some (some (kind, place))) :
    ∃ index < platform.count kind, place = index * platform.structSize kind := by
  unfold Repository.find at found
  cases selected : platform.kindOf recordHandle with
  | none =>
    rw [selected] at found
    cases found
  | some other =>
    rw [selected] at found
    obtain ⟨table, -, found⟩ := Option.bind_eq_some_iff.mp found
    obtain ⟨result, ran, found⟩ := Option.bind_eq_some_iff.mp found
    cases result with
    | none => cases found
    | some there =>
      obtain ⟨rfl, rfl⟩ := Prod.mk.inj (Option.some.inj (Option.some.inj found))
      obtain ⟨index, listed, here⟩ := place_of_search ran
      exact ⟨index, List.mem_range.mp listed, here⟩

end OpenBic.Pldm.Pdr
