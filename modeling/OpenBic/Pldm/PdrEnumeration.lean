import OpenBic.Pldm.PdrTables
import Mathlib.Data.List.Nodup

/-!
# The enumeration of the PDR repository

A requester learns from GetPDRRepositoryInfo how much there is, and gets one record after another
with GetPDR, from handle 0 on and then with the handle that comes with each record. This is what it
gets after `pdr_init`, and when it is the records of the platform.
-/

namespace OpenBic.Pldm.Pdr

open List Option Library.Checked Library.Field Library.Number OpenBic.Pldm.Command
open OpenBic.Pldm.Receive (hdrLen)
open OpenBic.Pldm.SensorEvent (pldmSuccess)

variable {platform : Platform}

/-! ## What is claimed -/

/-- What a requester reads in the response to GetPDR: the next handle and the record. -/
def readPdr (data : List UInt8) : Option (Nat × List UInt8) := do
  let completionCode ← byteAt data 0
  let next ← fieldAt data 1 4
  let responseCount ← fieldAt data 10 2
  let record ← rangeAt data 12 responseCount
  if completionCode = pldmSuccess then some (next, record) else none

/-- What it reads in the response to GetPDRRepositoryInfo: the number of records, their size and
the size of the largest. -/
def readPdrInfo (data : List UInt8) : Option (Nat × Nat × Nat) := do
  let completionCode ← byteAt data 0
  let recordCount ← fieldAt data 28 4
  let repositorySize ← fieldAt data 32 4
  let largestRecordSize ← fieldAt data 36 4
  if completionCode = pldmSuccess then some (recordCount, repositorySize, largestRecordSize)
  else none

def answer (repository : Repository platform) (hdr : Header) (recordHandle : Nat) :
    Option (Nat × List UInt8) := do
  let response ← pldmGetPdr repository (respBuf platform.toBuild hdr) recordHandle
  let data ← response.sent
  readPdr data

def answerInfo (repository : Repository platform) (hdr : Header) : Option (Nat × Nat × Nat) := do
  let response ← pldmGetPdrInfo repository (respBuf platform.toBuild hdr)
  let data ← response.sent
  readPdrInfo data

/-- The handles from one on, each told with the record before it, in at most so many requests. -/
def walk (repository : Repository platform) (hdrs : Nat → Header) : Nat → Nat → Option (List Nat)
  | 0, _ => none
  | fuel + 1, recordHandle => do
    let (next, _) ← answer repository (hdrs recordHandle) recordHandle
    if next = 0 then some [recordHandle]
    else do
      let visited ← walk repository hdrs fuel next
      some (recordHandle :: visited)

/-- A requester gets the records of the platform. -/
structure Enumerates (repository : Repository platform) : Prop where
  distinct : (platform.entries.map repository.handleOf).Nodup
  visits : ∀ hdrs, platform.entries ≠ [] → ∃ fuel visited,
    walk repository hdrs fuel 0 = some visited ∧
      (visited.map some).Perm (platform.entries.map repository.handleOf)
  ends : ∀ hdr, platform.entries = [] → answer repository hdr 0 = none
  serves : ∀ hdr, ∀ entry ∈ platform.entries, ∃ recordHandle next bytes,
    repository.handleOf entry = some recordHandle ∧
      repository.find recordHandle = some (some (entry.kind, platform.place entry)) ∧
      repository.bytesOf entry = some bytes ∧
      answer repository hdr recordHandle = some (next, bytes)
  tells : ∀ hdr, answerInfo repository hdr =
    some (platform.entries.length, platform.totalSize, platform.largestSize)

/-- `pdr_init` succeeds, and a requester then gets the records of the platform. -/
def Served (platform : Platform) (memory : Memory) : Prop :=
  ∃ repository, pdrInit platform memory = .ok repository ∧ Enumerates repository

/-- What `pdr_init` and GetPDR take for granted. -/
structure Assumed (platform : Platform) (memory : Memory) : Prop where
  /-- When there are records, the memory at address zero can be written, and there is memory for
  their tables. -/
  available : ∀ kind, platform.count kind ≠ 0 → memory.zeroPage = true ∧ memory.table kind = true
  /-- The memory for `pdr_info` happens to have the size of all records. -/
  info : memory.info = some (UInt32.ofNat platform.totalSize)
  single : platform.count .entityAuxiliaryNames ≤ 1
  larger : platform.count .entityAuxiliaryNames ≠ 0 → ∃ kind, kind ≠ .entityAuxiliaryNames ∧
    platform.count kind ≠ 0 ∧
    platform.recordSize .entityAuxiliaryNames ≤ platform.recordSize kind
  short : ∀ kind, platform.count kind ≠ 0 → platform.recordSize kind ≤ platform.numericPdrSize

variable {memory : Memory} {repository : Repository platform} {kind : Kind} {index : Nat}

/-! ## The answers -/

variable {hdr : Header} {recordHandle nextHandle : Nat} {bytes : List UInt8}

theorem Repository.nextOf_lt (small : repository.totalRecordCount < 2 ^ 32) :
    repository.nextOf recordHandle < 2 ^ 32 := by
  unfold Repository.nextOf
  split
  · decide
  · omega

/-- A record that is found, and is not longer than the response has room for, is answered. -/
theorem answer_eq {table : platform.Table kind} {place : Nat}
    (counted : repository.totalRecordCount < 2 ^ 32)
    (found : repository.find recordHandle = some (some (kind, place)))
    (stored : repository.tables kind = some table)
    (read : table.read place (platform.recordSize kind) = some bytes)
    (nonempty : platform.recordSize kind ≠ 0)
    (short : platform.recordSize kind ≤ platform.numericPdrSize) :
    answer repository hdr recordHandle = some (repository.nextOf recordHandle, bytes) := by
  have sized := length_of_rangeAt read
  have room := platform.room
  have narrow := platform.narrow
  have next : repository.nextOf recordHandle < 2 ^ 32 := repository.nextOf_lt counted
  obtain ⟨first, copied, -⟩ := (respBuf platform.toBuild hdr).write_eq bytes
    (show hdrLen + 12 + _ ≤ platform.maxDataSize by omega)
  obtain ⟨second, linked, -⟩ := first.write_eq (digits (repository.nextOf recordHandle) 4)
    (show hdrLen + 1 + 4 ≤ platform.maxDataSize by omega)
  obtain ⟨third, flagged, -⟩ := second.write_eq [transferFlagStartAndEnd]
    (show hdrLen + 9 + 1 ≤ platform.maxDataSize by omega)
  obtain ⟨fourth, told, -⟩ := third.write_eq (digits (platform.recordSize kind) 2)
    (show hdrLen + 10 + 2 ≤ platform.maxDataSize by omega)
  obtain ⟨last, completed, -⟩ := fourth.write_eq [pldmSuccess]
    (show hdrLen + 1 ≤ platform.maxDataSize by omega)
  have record := ((((Buffer.holds_write copied).write_apart linked
    (.inl (by rw [length_digits]; omega))).write_apart flagged
    (.inl (by rw [length_singleton]; omega))).write_apart told
    (.inl (by rw [length_digits]))).write_apart completed
    (.inl (by rw [length_singleton]; omega))
  have link := (((Buffer.holds_write linked).write_apart flagged
    (.inr (by rw [length_digits]; omega))).write_apart told
    (.inr (by rw [length_digits]; omega))).write_apart completed
    (.inl (by rw [length_singleton]))
  have size := (Buffer.holds_write told).write_apart completed
    (.inl (by rw [length_singleton]; omega))
  have code : last.Holds (hdrLen + 0) [pldmSuccess] := Buffer.holds_write completed
  have sent := last.read_eq (show hdrLen + (12 + platform.numericPdrSize) ≤ platform.maxDataSize
    by omega)
  have codeRead := byteAt_of_rangeAt (rangeAt_of_holds sent code
    (by rw [length_singleton]; omega))
  have linkRead := rangeAt_of_holds sent link (by rw [length_digits]; omega)
  have sizeRead := rangeAt_of_holds sent size (by rw [length_digits]; omega)
  have recordRead := rangeAt_of_holds sent record (by omega)
  rw [sized] at recordRead
  have response : pldmGetPdr repository (respBuf platform.toBuild hdr) recordHandle =
      some ⟨last, 12 + platform.numericPdrSize⟩ := by
    have copy : getPdrTableViaRecordHandle repository (respBuf platform.toBuild hdr) (hdrLen + 12)
        recordHandle = some (first, some (platform.recordSize kind)) :=
      Option.bind_eq_some_iff.mpr ⟨_, found, Option.bind_eq_some_iff.mpr ⟨_, stored,
        Option.bind_eq_some_iff.mpr ⟨_, read, Option.bind_eq_some_iff.mpr ⟨_, copied, rfl⟩⟩⟩⟩
    obtain ⟨before, positive⟩ := Nat.exists_eq_succ_of_ne_zero nonempty
    rw [positive] at copy told
    exact Option.bind_eq_some_iff.mpr ⟨_, copy, Option.bind_eq_some_iff.mpr ⟨_, linked,
      Option.bind_eq_some_iff.mpr ⟨_, flagged, Option.bind_eq_some_iff.mpr ⟨_, told,
        Option.bind_eq_some_iff.mpr ⟨_, completed, rfl⟩⟩⟩⟩⟩
  refine Option.bind_eq_some_iff.mpr ⟨_, response, Option.bind_eq_some_iff.mpr ⟨_, sent, ?_⟩⟩
  exact Option.bind_eq_some_iff.mpr ⟨_, codeRead, Option.bind_eq_some_iff.mpr
    ⟨_, fieldAt_of_rangeAt linkRead next, Option.bind_eq_some_iff.mpr
      ⟨_, fieldAt_of_rangeAt sizeRead (by omega), Option.bind_eq_some_iff.mpr
        ⟨_, recordRead, if_pos rfl⟩⟩⟩⟩

theorem respLen_le {respBuf : Buffer platform.maxDataSize}
    {response : Response platform.maxDataSize}
    (ran : pldmGetPdr repository respBuf recordHandle = some response) :
    response.respLen ≤ 12 + platform.numericPdrSize := by
  obtain ⟨⟨copied, responseCount⟩, -, ran⟩ := Option.bind_eq_some_iff.mp ran
  cases responseCount with
  | none =>
    cases ran
    exact Nat.le_trans (by decide : 1 ≤ 12) (Nat.le_add_right _ _)
  | some count =>
    cases count with
    | zero =>
      cases ran
      exact Nat.le_trans (by decide : 1 ≤ 12) (Nat.le_add_right _ _)
    | succ count =>
      obtain ⟨linked, -, ran⟩ := Option.bind_eq_some_iff.mp ran
      obtain ⟨flagged, -, ran⟩ := Option.bind_eq_some_iff.mp ran
      obtain ⟨told, -, ran⟩ := Option.bind_eq_some_iff.mp ran
      obtain ⟨completed, -, ran⟩ := Option.bind_eq_some_iff.mp ran
      cases ran
      exact le_rfl

theorem length_answer (answered : answer repository hdr recordHandle = some (nextHandle, bytes)) :
    bytes.length ≤ platform.numericPdrSize := by
  obtain ⟨response, ran, answered⟩ := Option.bind_eq_some_iff.mp answered
  obtain ⟨data, sent, answered⟩ := Option.bind_eq_some_iff.mp answered
  obtain ⟨code, -, answered⟩ := Option.bind_eq_some_iff.mp answered
  obtain ⟨following, -, answered⟩ := Option.bind_eq_some_iff.mp answered
  obtain ⟨responseCount, -, answered⟩ := Option.bind_eq_some_iff.mp answered
  obtain ⟨record, read, answered⟩ := Option.bind_eq_some_iff.mp answered
  have short := respLen_le ran
  have whole := length_of_rangeAt sent
  have inside := le_of_rangeAt read
  have sized := length_of_rangeAt read
  split at answered
  · obtain ⟨-, rfl⟩ := Prod.mk.inj (Option.some.inj answered)
    omega
  · cases answered

/-- What the repository holds of its records is told. -/
theorem answerInfo_eq {info : PdrInfo} (known : repository.pdrInfo = some info)
    (counted : info.recordCount < 2 ^ 32) (sized : info.largestRecordSize < 2 ^ 32) :
    answerInfo repository hdr =
      some (info.recordCount, info.repositorySize.toNat, info.largestRecordSize) := by
  have enough := platform.enough
  have four : hdrLen = 4 := rfl
  obtain ⟨first, state, -⟩ := (respBuf platform.toBuild hdr).write_eq [pdrStateAvailable]
    (show hdrLen + 1 + 1 ≤ platform.maxDataSize by omega)
  obtain ⟨second, count, -⟩ := first.write_eq (digits info.recordCount 4)
    (show hdrLen + 28 + 4 ≤ platform.maxDataSize by omega)
  obtain ⟨third, whole, -⟩ := second.write_eq (digits info.repositorySize.toNat 4)
    (show hdrLen + 32 + 4 ≤ platform.maxDataSize by omega)
  obtain ⟨fourth, large, -⟩ := third.write_eq (digits info.largestRecordSize 4)
    (show hdrLen + 36 + 4 ≤ platform.maxDataSize by omega)
  obtain ⟨last, completed, -⟩ := fourth.write_eq [pldmSuccess]
    (show hdrLen + 1 ≤ platform.maxDataSize by omega)
  have countHeld := (((Buffer.holds_write count).write_apart whole
    (.inr (by rw [length_digits]))).write_apart large
    (.inr (by rw [length_digits]; omega))).write_apart completed
    (.inl (by rw [length_singleton]; omega))
  have wholeHeld := ((Buffer.holds_write whole).write_apart large
    (.inr (by rw [length_digits]))).write_apart completed
    (.inl (by rw [length_singleton]; omega))
  have largeHeld := (Buffer.holds_write large).write_apart completed
    (.inl (by rw [length_singleton]; omega))
  have code : last.Holds (hdrLen + 0) [pldmSuccess] := Buffer.holds_write completed
  have sent := last.read_eq (show hdrLen + 41 ≤ platform.maxDataSize by omega)
  have codeRead := byteAt_of_rangeAt (rangeAt_of_holds sent code
    (by rw [length_singleton]; omega))
  have countRead := rangeAt_of_holds sent countHeld (by rw [length_digits]; omega)
  have wholeRead := rangeAt_of_holds sent wholeHeld (by rw [length_digits]; omega)
  have largeRead := rangeAt_of_holds sent largeHeld (by rw [length_digits]; omega)
  have response : pldmGetPdrInfo repository (respBuf platform.toBuild hdr) = some ⟨last, 41⟩ := by
    unfold pldmGetPdrInfo
    rw [known]
    exact Option.bind_eq_some_iff.mpr ⟨_, state, Option.bind_eq_some_iff.mpr ⟨_, count,
      Option.bind_eq_some_iff.mpr ⟨_, whole, Option.bind_eq_some_iff.mpr ⟨_, large,
        Option.bind_eq_some_iff.mpr ⟨_, completed, rfl⟩⟩⟩⟩⟩
  refine Option.bind_eq_some_iff.mpr ⟨_, response, Option.bind_eq_some_iff.mpr ⟨_, sent, ?_⟩⟩
  exact Option.bind_eq_some_iff.mpr ⟨_, codeRead, Option.bind_eq_some_iff.mpr
    ⟨_, fieldAt_of_rangeAt countRead counted, Option.bind_eq_some_iff.mpr
      ⟨_, fieldAt_of_rangeAt wholeRead info.repositorySize.toNat_lt, Option.bind_eq_some_iff.mpr
        ⟨_, fieldAt_of_rangeAt largeRead sized, if_pos rfl⟩⟩⟩⟩

theorem answerInfo_none (unknown : repository.pdrInfo = none) :
    answerInfo repository hdr = none := by
  cases told : answerInfo repository hdr with
  | none => rfl
  | some values =>
    obtain ⟨response, ran, told⟩ := Option.bind_eq_some_iff.mp told
    obtain ⟨data, sent, told⟩ := Option.bind_eq_some_iff.mp told
    obtain ⟨code, -, told⟩ := Option.bind_eq_some_iff.mp told
    obtain ⟨count, read, -⟩ := Option.bind_eq_some_iff.mp told
    unfold pldmGetPdrInfo at ran
    rw [unknown] at ran
    cases ran
    have short : data.length = 1 := length_of_rangeAt sent
    rw [fieldAt, if_neg (by omega)] at read
    cases read

theorem answer_none (outside : platform.total ≤ recordHandle) :
    answer repository hdr recordHandle = none := by
  cases answered : answer repository hdr recordHandle with
  | none => rfl
  | some values =>
    obtain ⟨response, ran, answered⟩ := Option.bind_eq_some_iff.mp answered
    obtain ⟨data, sent, answered⟩ := Option.bind_eq_some_iff.mp answered
    obtain ⟨code, -, answered⟩ := Option.bind_eq_some_iff.mp answered
    obtain ⟨following, read, -⟩ := Option.bind_eq_some_iff.mp answered
    have missing : repository.find recordHandle = some none := by
      unfold Repository.find
      rw [Platform.kindOf_none outside]
    obtain ⟨copied, copy, ran⟩ := Option.bind_eq_some_iff.mp ran
    obtain ⟨found, same, copy⟩ := Option.bind_eq_some_iff.mp copy
    obtain rfl := mem_unique missing same
    cases copy
    cases ran
    have short : data.length = 1 := length_of_rangeAt sent
    rw [fieldAt, if_neg (by omega)] at read
    cases read

theorem walk_eq {hdrs : Nat → Header} (counted : repository.totalRecordCount = platform.total)
    (answers : ∀ recordHandle < platform.total, ∃ bytes,
      answer repository (hdrs recordHandle) recordHandle =
        some (repository.nextOf recordHandle, bytes)) :
    ∀ count recordHandle, recordHandle + (count + 1) = platform.total →
      walk repository hdrs (count + 1) recordHandle =
        some (List.range' recordHandle (count + 1)) := by
  intro count
  induction count with
  | zero =>
    intro recordHandle last
    obtain ⟨bytes, answered⟩ := answers recordHandle (by omega)
    have ended : repository.nextOf recordHandle = 0 := if_pos (by omega)
    rw [ended] at answered
    exact Option.bind_eq_some_iff.mpr ⟨_, answered, if_pos rfl⟩
  | succ count ih =>
    intro recordHandle before
    obtain ⟨bytes, answered⟩ := answers recordHandle (by omega)
    have onward : repository.nextOf recordHandle = recordHandle + 1 := if_neg (by omega)
    have later := ih (recordHandle + 1) (by omega)
    rw [onward] at answered
    refine Option.bind_eq_some_iff.mpr ⟨_, answered, ?_⟩
    dsimp only
    rw [if_neg (Nat.succ_ne_zero recordHandle), later]
    rfl

/-! ## The sizes -/

theorem Platform.length_entries (platform : Platform) :
    platform.entries.length = platform.total := by
  have sum : platform.total = platform.count .stateSensor + platform.count .numericSensor +
    platform.count .sensorAuxiliaryNames + platform.count .entityAuxiliaryNames := rfl
  simp only [Platform.entries, Kind.all, flatMap_cons, flatMap_nil, length_append,
    length_map, length_range, length_nil]
  omega

theorem Platform.recordSize_le (present : platform.count kind ≠ 0) :
    platform.recordSize kind ≤ platform.totalSize := by
  have one := Nat.le_mul_of_pos_left (platform.recordSize kind) (Nat.pos_of_ne_zero present)
  rw [platform.totalSize_eq]
  cases kind <;> omega

theorem Platform.structSize_le (present : platform.count kind ≠ 0) :
    platform.structSize kind ≤ platform.recordSize kind := by
  by_cases named : kind = .entityAuxiliaryNames
  · subst named
    exact Nat.le_of_lt (Platform.entity_large present)
  · exact Nat.le_of_eq (platform.recordSize_eq named).symm

theorem foldr_max_le {numbers : List Nat} {bound : Nat} :
    numbers.foldr max 0 ≤ bound ↔ ∀ number ∈ numbers, number ≤ bound := by
  induction numbers with
  | nil => simp
  | cons number rest ih => rw [foldr_cons, max_le_iff, ih, forall_mem_cons]

theorem Platform.largestSize_le {bound : Nat} : platform.largestSize ≤ bound ↔
    ∀ kind, platform.count kind ≠ 0 → platform.recordSize kind ≤ bound := by
  unfold Platform.largestSize
  rw [foldr_max_le, List.forall_mem_map]
  constructor
  · intro each kind present
    exact each ⟨kind, 0⟩ (Platform.mem_entries.mpr (Nat.pos_of_ne_zero present))
  · intro each entry listed
    have inside := Platform.mem_entries.mp listed
    exact each entry.kind (by omega)

theorem largestSize_lt (platform : Platform) : platform.largestSize < 2 ^ 32 := by
  have bits := platform.totalSize_lt
  have below : platform.largestSize ≤ platform.totalSize :=
    Platform.largestSize_le.mpr fun _ present => Platform.recordSize_le present
  omega

/-- The largest structure is the largest record exactly when one with the name of an entity is not
larger than every other. -/
theorem largest_iff {largest : Nat} (bounds : ∀ bound, largest ≤ bound ↔
      ∀ kind, platform.count kind ≠ 0 → platform.structSize kind ≤ bound) :
    largest = platform.largestSize ↔ (platform.count .entityAuxiliaryNames ≠ 0 →
      ∃ kind, kind ≠ .entityAuxiliaryNames ∧ platform.count kind ≠ 0 ∧
        platform.recordSize .entityAuxiliaryNames ≤ platform.recordSize kind) := by
  constructor
  · intro same present
    by_contra none
    have smaller : ∀ kind, kind ≠ .entityAuxiliaryNames → platform.count kind ≠ 0 →
        platform.recordSize kind < platform.recordSize .entityAuxiliaryNames :=
      fun kind different there =>
        Nat.lt_of_not_le fun larger => none ⟨kind, different, there, larger⟩
    have large := Platform.entity_large present
    have below : largest ≤ platform.recordSize .entityAuxiliaryNames - 1 := by
      rw [bounds]
      intro kind there
      by_cases named : kind = .entityAuxiliaryNames
      · subst named
        omega
      · have bounded := smaller kind named there
        rw [← platform.recordSize_eq named]
        omega
    rw [same, Platform.largestSize_le] at below
    have absurdly := below _ present
    omega
  · intro larger
    apply eq_of_forall_ge_iff
    intro bound
    rw [bounds, Platform.largestSize_le]
    constructor
    · intro each kind present
      by_cases named : kind = .entityAuxiliaryNames
      · subst named
        obtain ⟨other, different, there, larger⟩ := larger present
        have bounded := each other there
        rw [← platform.recordSize_eq different] at bounded
        omega
      · rw [platform.recordSize_eq named]
        exact each kind present
    · intro each kind present
      exact Nat.le_trans (Platform.structSize_le present) (each kind present)

/-! ## When the records are served -/

/-- The records are served when what is taken for granted holds. -/
theorem served_of_assumed (assumed : Assumed platform memory) : Served platform memory := by
  have placed := Platform.placed_of_single assumed.single
  have loop : ∀ kind first, ∃ table, initRecords platform kind first (platform.count kind)
      (platform.loaded kind) = some table := fun kind first => by
    obtain ⟨table, ran, -⟩ := initRecords_loaded first (placed kind) _ le_rfl
    exact ⟨table, ran⟩
  obtain ⟨repository, ran⟩ := pdrInit_ok assumed.available loop
  have initialised := initialised_of_pdrInit ran
  have handles := map_handleOf initialised placed
  have counted := initialised.total
  have small := platform.total_lt
  have answers : ∀ hdr kind index, index < platform.count kind → ∃ bytes,
      repository.bytesOf ⟨kind, index⟩ = some bytes ∧
        answer repository hdr (platform.base kind + index) =
          some (repository.nextOf (platform.base kind + index), bytes) := by
    intro hdr kind index inside
    have present : platform.count kind ≠ 0 := by omega
    obtain ⟨bytes, read, -⟩ := bytesOf_eq initialised inside
    have found := find_eq initialised inside
    have large := Platform.recordSize_ge present
    have ten : commonHeaderSize = 10 := rfl
    obtain ⟨table, stored, row⟩ := Option.bind_eq_some_iff.mp read
    rw [placed kind index inside] at found
    exact ⟨bytes, read, answer_eq (by omega) found stored row (by omega)
      (assumed.short kind present)⟩
  refine ⟨repository, ran, ?_, ?_, ?_, ?_, ?_⟩
  · rw [handles]
    exact List.Nodup.map (some_injective _) (nodup_range' ..)
  · intro hdrs some
    have positive := List.length_pos_iff.mpr some
    rw [platform.length_entries] at positive
    obtain ⟨last, whole⟩ := Nat.exists_eq_succ_of_ne_zero (Nat.ne_of_gt positive)
    have each : ∀ recordHandle < platform.total, ∃ bytes,
        answer repository (hdrs recordHandle) recordHandle =
          Option.some (repository.nextOf recordHandle, bytes) := by
      intro recordHandle below
      obtain ⟨kind, index, inside, rfl⟩ := exists_base initialised placed below
      obtain ⟨bytes, -, answered⟩ := answers (hdrs _) kind index inside
      exact ⟨bytes, answered⟩
    refine ⟨last + 1, _, walk_eq counted each last 0 (by omega), ?_⟩
    rw [handles, whole]
  · intro hdr none
    have empty := platform.length_entries
    rw [none] at empty
    exact answer_none (Nat.le_of_eq empty.symm)
  · intro hdr entry listed
    obtain ⟨kind, index⟩ := entry
    have inside := Platform.mem_entries.mp listed
    obtain ⟨bytes, read, answered⟩ := answers hdr kind index inside
    have found := find_eq initialised inside
    rw [placed kind index inside] at found
    exact ⟨_, _, bytes, handleOf_eq initialised placed inside, found, read, answered⟩
  · intro hdr
    obtain ⟨largest, bounds, known⟩ := initialised.told
    have same := (largest_iff bounds).mpr assumed.larger
    have bits := platform.totalSize_lt
    have narrow := largestSize_lt platform
    rw [assumed.info, map_some] at known
    rw [answerInfo_eq known small (by rw [same]; exact narrow), platform.length_entries, ← same]
    rw [UInt32.toNat_ofNat_of_lt' bits]

/-- What is taken for granted holds when the records are served. -/
theorem assumed_of_served (served : Served platform memory) : Assumed platform memory := by
  obtain ⟨repository, ran, enumerates⟩ := served
  have initialised := initialised_of_pdrInit ran
  have small := platform.total_lt
  obtain ⟨largest, bounds, known⟩ := initialised.told
  have tells := enumerates.tells Header.zero
  cases allocated : memory.info with
  | none =>
    rw [allocated, map_none] at known
    rw [answerInfo_none known] at tells
    cases tells
  | some repositorySize =>
    rw [allocated, map_some] at known
    have narrow : largest < 2 ^ 32 := by
      have below : largest ≤ 2 ^ 32 - 1 := (bounds _).mpr fun kind present => by
        have structure' := Platform.structSize_le present
        have record := Platform.recordSize_le present
        have bits := platform.totalSize_lt
        omega
      omega
    rw [answerInfo_eq known small narrow] at tells
    obtain ⟨-, tells⟩ := Prod.mk.inj (Option.some.inj tells)
    obtain ⟨size, same⟩ := Prod.mk.inj tells
    refine ⟨initialised.available, ?_, ?_, (largest_iff bounds).mp same, ?_⟩
    · rw [allocated, ← size, UInt32.ofNat_toNat]
    · by_contra several
      have last : platform.count .entityAuxiliaryNames - 1 <
        platform.count .entityAuxiliaryNames := by omega
      obtain ⟨recordHandle, following, bytes, -, found, -⟩ := enumerates.serves Header.zero
        ⟨.entityAuxiliaryNames, _⟩ (Platform.mem_entries.mpr last)
      obtain ⟨index, before, place⟩ := place_of_find found
      have before : index < platform.count .entityAuxiliaryNames := before
      have large := Platform.entity_large (show platform.count .entityAuxiliaryNames ≠ 0 by omega)
      have upTo := Nat.mul_le_mul_right (platform.structSize .entityAuxiliaryNames)
        (show index ≤ platform.count .entityAuxiliaryNames - 1 by omega)
      have beyond := Nat.mul_lt_mul_of_pos_left large
        (show 0 < platform.count .entityAuxiliaryNames - 1 by omega)
      exact Nat.ne_of_gt (Nat.lt_of_le_of_lt upTo beyond) place
    · intro kind present
      have inside := Nat.pos_of_ne_zero present
      obtain ⟨bytes, read, sized⟩ := bytesOf_eq initialised inside
      obtain ⟨recordHandle, following, same, -, -, again, answered⟩ :=
        enumerates.serves Header.zero ⟨kind, 0⟩ (Platform.mem_entries.mpr inside)
      obtain rfl := mem_unique read again
      rw [← sized]
      exact length_answer answered

/-- The records are served as they are counted exactly under the assumptions on the memory and on
the sizes. -/
theorem served_iff (platform : Platform) (memory : Memory) :
    Served platform memory ↔ Assumed platform memory :=
  ⟨assumed_of_served, served_of_assumed⟩

def oneSensor : Platform where
  toBuild := Build.default
  maxAuxSensorNameLen := 40
  numericPdrSize := 118
  room := by decide
  entityAuxNamesSize := 0
  records
    | .numericSensor => [{
        bytes := List.replicate 105 0
        sized := by rw [length_replicate]; rfl
        headed := by decide
        ended := fun _ none => by cases none }]
    | _ => []
  fits := by decide

def zeroMemory : Memory where
  table _ := true
  info := some 0
  zeroPage := true

/-- It is served by memory that happens to have the size of its record. -/
example : Served oneSensor { zeroMemory with info := some 105 } :=
  served_of_assumed {
    available := fun _ _ => ⟨rfl, rfl⟩
    info := by decide
    single := by decide
    larger := fun present => absurd rfl present
    short := fun kind present => by
      cases kind with
      | numericSensor => decide
      | stateSensor => exact absurd rfl present
      | sensorAuxiliaryNames => exact absurd rfl present
      | entityAuxiliaryNames => exact absurd rfl present }

/-- One sensor record, whose size is added through the null pointer. -/
theorem oneSensor_unserved : ¬ Served oneSensor zeroMemory := by
  intro served
  have info := (assumed_of_served served).info
  cases info

end OpenBic.Pldm.Pdr
