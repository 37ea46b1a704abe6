import Mathlib.Data.List.Chain
import Mathlib.Data.List.TakeWhile
import OpenBic.Library.Talk

/-!
# The update of an MP2971

`mp2971_fwupdate` of `mp2971.c`. The records of an image are written in two passes, first those of
the pages 0 and 1, then those of page 2, and each goes to the page that the device has selected. The
bus answers each transfer as it likes. What the drivers of the voltage regulators share stands in front.
-/

namespace OpenBic.Vr

/-- How a transfer ends, its retries included. -/
structure Answer where
  ok : Bool
  taken : Bool
  data : List UInt8

/-- `ascii_to_val`, nothing for -1. Small letters are no digits. -/
def asciiToVal (asciiByte : UInt8) : Option Nat :=
  if 0x30 ≤ asciiByte ∧ asciiByte < 0x3A then some (asciiByte.toNat - 0x30)
  else if 0x41 ≤ asciiByte ∧ asciiByte < 0x47 then some (asciiByte.toNat - 0x41 + 10)
  else none

end OpenBic.Vr

namespace OpenBic.Mp2971

open Library.Talk Vr

/-! ## The records and the device -/

/-- `struct mp2856_data`. -/
structure Mp2856Data where
  cfgId : UInt16
  page : UInt8
  regAddr : UInt8
  regData : List UInt8
  regLen : UInt8
deriving DecidableEq

/-- The bytes of `reg_data` that are sent. -/
def Mp2856Data.bytes (record : Mp2856Data) : List UInt8 := record.regData.take record.regLen.toNat

/-- The `memcpy` of `reg_len` bytes stays inside `reg_data`; else what lies behind is sent too. -/
def Mp2856Data.fits (record : Mp2856Data) : Bool := record.regLen.toNat ≤ record.regData.length

/-- What an update does to the device for its records. -/
inductive Entry where
  /-- A record is written, with the page that the device has selected, whether nothing but its bytes
  is sent, and whether it is acknowledged. -/
  | record (selected regAddr : UInt8) (bytes : List UInt8) (only acknowledged : Bool)
  | stored
deriving DecidableEq

/-- The device and its bus. -/
structure Device where
  recordAnswers : Nat → Answer
  answers : Nat → Answer
  records : Nat
  asked : Nat
  page : UInt8
  trace : List Entry

def pmbusPage : UInt8 := 0x00

/-- The page after a write. A byte that the device takes for `PMBUS_PAGE` selects a page, and what
is acknowledged has been taken. -/
def pageAfter (page : UInt8) (answer : Answer) (register : UInt8) (bytes : List UInt8) : UInt8 :=
  if (answer.ok || answer.taken) && register == pmbusPage then bytes.headD page else page

/-- `i2c_master_write`, of anything but a record. -/
def i2cMasterWrite (register : UInt8) (bytes : List UInt8) : Program Device Unit :=
  exchange fun device =>
    let answer := device.answers device.asked
    (if answer.ok then some () else none, { device with
      asked := device.asked + 1
      page := pageAfter device.page answer register bytes })

def i2cMasterRead (_register : UInt8) : Program Device (List UInt8) :=
  exchange fun device =>
    let answer := device.answers device.asked
    (if answer.ok then some answer.data else none, { device with asked := device.asked + 1 })

/-! ## The code -/

def setPage (page : UInt8) : Program Device Unit := i2cMasterWrite pmbusPage [page]

def writeData (record : Mp2856Data) : Program Device Unit :=
  exchange fun device =>
    let answer := device.recordAnswers device.records
    (if answer.ok then some () else none, { device with
      records := device.records + 1
      page := pageAfter device.page answer record.regAddr record.bytes
      trace := device.trace ++
        [.record device.page record.regAddr record.bytes record.fits answer.ok] })

def isPwdUnlock : Program Device Unit := do
  setPage 0
  let data ← i2cMasterRead 0x7E
  if data.getD 0 0 &&& 0x08 = 0 then failure

/-- The write protect register is set, unless it has the value already. -/
def unlockWith (value : UInt8) : Program Device Unit := do
  setPage 0
  let data ← i2cMasterRead 0x10
  if data.getD 0 0 ≠ value then i2cMasterWrite 0x10 [value]

def unlockWriteProtectMode : Program Device Unit := do
  setPage 1
  let data ← i2cMasterRead 0x35
  if data.getD 1 0 &&& 0x04 = 0 then unlockWith 0x63 else unlockWith 0x00

def enableMtpPageRw : Program Device Unit := do
  setPage 1
  let rsp ← i2cMasterRead 0x4F
  if rsp.getD 0 0 &&& 0x20 = 0 then
    i2cMasterWrite 0x4F [rsp.getD 0 0 ||| 0x20, rsp.getD 1 0]

def storeNormalCode : Program Device Unit := do
  i2cMasterWrite 0xF1 []
  change fun device => { device with trace := device.trace ++ [.stored] }

/-- The loop over the records of the pages 0 and 1, from the line `lineIdx`, with the page that was
selected last. It returns where page 2 starts, 0 if it does not. -/
def programNormal : UInt8 → Nat → List Mp2856Data → Program Device Nat
  | _, _, [] => pure 0
  | page, lineIdx, record :: rest => do
    if record.page = 2 then pure lineIdx
    else
      if page ≠ record.page then setPage record.page
      -- the result of the write is not looked at
      let _ ← (writeData record).attempt
      programNormal record.page (lineIdx + 1) rest

def programMulti : List Mp2856Data → Program Device Unit
  | [] => pure ()
  | record :: rest => do
    if record.page ≠ 2 then pure ()
    else
      let _ ← (writeData record).attempt
      programMulti rest

/-- `mp2971_fwupdate`, with the records that the parser makes of the image. -/
def fwupdate (records : List Mp2856Data) : Program Device Unit := do
  isPwdUnlock
  unlockWriteProtectMode
  setPage 0
  let page2Start ← programNormal 0 0 records
  setPage 0
  storeNormalCode
  enableMtpPageRw
  setPage 0x02
  i2cMasterWrite 0xF3 []
  setPage 0x2A
  programMulti (records.drop page2Start)
  setPage 0x01

/-! ## What is claimed -/

/-- The page that a record names. The records of page 2 go to the page `0x2A`. -/
def Mp2856Data.selected (record : Mp2856Data) : UInt8 :=
  if record.page = 2 then 0x2A else record.page

/-- A record is written to the page that it names, as it is, and acknowledged. -/
def Mp2856Data.entry (record : Mp2856Data) : Entry :=
  .record record.selected record.regAddr record.bytes true true

/-- The records of the pages 0 and 1 are written to their pages and acknowledged, then stored, then
those of page 2 are written to theirs and acknowledged. -/
def faithful (records : List Mp2856Data) : List Entry :=
  (records.filter (·.page ≠ 2)).map Mp2856Data.entry ++
    .stored :: (records.filter (·.page = 2)).map Mp2856Data.entry

/-- Behind the first record of page 2 there are only such. -/
def Ordered (records : List Mp2856Data) : Prop :=
  ∀ record ∈ records.dropWhile (·.page ≠ 2), record.page = 2

/-- The device acknowledges each record. -/
def Acknowledged (device : Device) (records : List Mp2856Data) : Prop :=
  ∀ index < records.length, (device.recordAnswers (device.records + index)).ok = true

/-- Every record's length is in its four bytes. -/
def Fitting (records : List Mp2856Data) : Prop := ∀ record ∈ records, record.fits = true

/-- A record is not a write to the page register that selects another page. -/
def Mp2856Data.Stays (record : Mp2856Data) : Prop :=
  record.regAddr = pmbusPage → record.bytes.headD record.selected = record.selected

/-- A record does not select another page for a record of its page behind it. -/
def StaysFor (record next : Mp2856Data) : Prop := next.page = record.page → record.Stays

/-! ## What stays -/

/-- No record is written, and nothing is stored. -/
structure SameRecords (before after : Device) : Prop where
  recordAnswers : after.recordAnswers = before.recordAnswers
  records : after.records = before.records
  trace : after.trace = before.trace

theorem sameRecords : Frame SameRecords where
  refl _ := ⟨rfl, rfl, rfl⟩
  trans earlier later :=
    ⟨later.recordAnswers.trans earlier.recordAnswers, later.records.trans earlier.records,
      later.trace.trans earlier.trace⟩

theorem i2cMasterWrite_same (register : UInt8) (bytes : List UInt8) :
    Keeps SameRecords (i2cMasterWrite register bytes) := fun _ => ⟨rfl, rfl, rfl⟩

theorem i2cMasterRead_same (register : UInt8) : Keeps SameRecords (i2cMasterRead register) :=
  fun _ => ⟨rfl, rfl, rfl⟩

theorem setPage_same (page : UInt8) : Keeps SameRecords (setPage page) :=
  i2cMasterWrite_same pmbusPage [page]

theorem isPwdUnlock_same : Keeps SameRecords isPwdUnlock := by
  apply sameRecords.bind (setPage_same 0)
  intro _
  apply sameRecords.bind (i2cMasterRead_same 0x7E)
  intro data
  split
  · exact sameRecords.failure
  · exact sameRecords.pure ()

theorem unlockWith_same (value : UInt8) : Keeps SameRecords (unlockWith value) := by
  apply sameRecords.bind (setPage_same 0)
  intro _
  apply sameRecords.bind (i2cMasterRead_same 0x10)
  intro data
  split
  · exact i2cMasterWrite_same 0x10 [value]
  · exact sameRecords.pure ()

theorem unlockWriteProtectMode_same : Keeps SameRecords unlockWriteProtectMode := by
  apply sameRecords.bind (setPage_same 1)
  intro _
  apply sameRecords.bind (i2cMasterRead_same 0x35)
  intro data
  split
  · exact unlockWith_same 0x63
  · exact unlockWith_same 0x00

theorem enableMtpPageRw_same : Keeps SameRecords enableMtpPageRw := by
  apply sameRecords.bind (setPage_same 1)
  intro _
  apply sameRecords.bind (i2cMasterRead_same 0x4F)
  intro rsp
  split
  · exact i2cMasterWrite_same 0x4F _
  · exact sameRecords.pure ()

variable {before middle after : Device} {records : List Mp2856Data}

theorem same_of_result {α : Type} {program : Program Device α} {value : Option α}
    (same : Keeps SameRecords program) (ran : program.result before = (value, after)) :
    SameRecords before after := by
  have kept := same before
  rw [ran] at kept
  exact kept

theorem setPage_page {page : UInt8} (ran : (setPage page).result before = (some (), after)) :
    after.page = page := by
  obtain ⟨ended, rfl⟩ := Prod.mk.inj ran
  split at ended
  · rename_i ok
    dsimp only [pageAfter]
    rw [ok, Bool.true_or]
    rfl
  · exact absurd ended (Option.some_ne_none ()).symm

theorem storeNormalCode_trace
    (ran : storeNormalCode.result before = (some (), after)) :
    after.recordAnswers = before.recordAnswers ∧ after.records = before.records ∧
      after.trace = before.trace ++ [.stored] := by
  obtain ⟨_, written, sent, ran⟩ := result_bind_eq_some.mp ran
  have same := same_of_result (i2cMasterWrite_same 0xF1 []) sent
  obtain ⟨-, rfl⟩ := Prod.mk.inj ran
  exact ⟨same.recordAnswers, same.records, congrArg (· ++ [.stored]) same.trace⟩

/-! ## The writes of records -/

def Device.wrote (device : Device) (record : Mp2856Data) : Device :=
  ((writeData record).result device).2

def Device.nextOk (device : Device) : Bool := (device.recordAnswers device.records).ok

variable {record : Mp2856Data} {rest : List Mp2856Data}

theorem wrote_page (placed : middle.page = record.selected) (ok : middle.nextOk = true) :
    (middle.wrote record).page = record.selected ↔ record.Stays := by
  have page : (middle.wrote record).page =
      if record.regAddr = pmbusPage then record.bytes.headD record.selected
      else record.selected := by
    have acknowledged : (middle.recordAnswers middle.records).ok = true := ok
    rw [← placed]
    show pageAfter _ _ _ _ = _
    unfold pageAfter
    rw [acknowledged, Bool.true_or, Bool.true_and]
    simp only [beq_iff_eq]
  rw [page]
  split
  · rename_i here
    exact ⟨fun same _ => same, fun stays => stays here⟩
  · rename_i other
    exact ⟨fun _ here => absurd here other, fun _ => rfl⟩

/-- What a loop does that writes some records: as many entries as records, which are the right ones
when all fit and are acknowledged, the first one goes to the right page, and none selects another
page for the next one. -/
structure Writes (before after : Device) (records : List Mp2856Data) (placed : Prop) : Prop where
  recordAnswers : after.recordAnswers = before.recordAnswers
  count : after.records = before.records + records.length
  trace : ∃ entries, after.trace = before.trace ++ entries ∧ .stored ∉ entries ∧
    entries.length = records.length ∧
    (entries = records.map Mp2856Data.entry ↔
      Acknowledged before records ∧ placed ∧ List.IsChain StaysFor records ∧ Fitting records)

theorem writes_nil {placed : Prop} (same : SameRecords before after) (holds : placed) :
    Writes before after [] placed where
  recordAnswers := same.recordAnswers
  count := same.records
  trace := by
    refine ⟨[], ?_, List.not_mem_nil, rfl, ?_⟩
    · rw [List.append_nil]
      exact same.trace
    · refine ⟨fun _ => ⟨?_, holds, .nil, ?_⟩, fun _ => rfl⟩
      · exact fun _ below => absurd below (Nat.not_lt_zero _)
      · exact fun _ listed => absurd listed List.not_mem_nil

theorem acknowledged_cons (same : SameRecords before middle) :
    Acknowledged before (record :: rest) ↔
      middle.nextOk = true ∧ Acknowledged (middle.wrote record) rest := by
  unfold Acknowledged Device.nextOk
  show (∀ index < rest.length + 1, _) ↔ _ ∧ ∀ index < rest.length,
    (middle.recordAnswers (middle.records + 1 + index)).ok = true
  rw [same.recordAnswers, same.records]
  constructor
  · intro all
    refine ⟨all 0 (Nat.succ_pos _), fun index below => ?_⟩
    have later := all (index + 1) (Nat.succ_lt_succ below)
    rw [Nat.add_assoc, Nat.add_comm 1 index]
    exact later
  · rintro ⟨first, others⟩ index below
    cases index with
    | zero => exact first
    | succ index =>
      have later := others index (Nat.lt_of_succ_lt_succ below)
      rw [Nat.add_assoc, Nat.add_comm 1 index] at later
      exact later

/-- A loop that writes a record and goes on. -/
theorem writes_cons {placed onward : Prop}
    (same : SameRecords before middle) (placing : placed ↔ middle.page = record.selected)
    (tail : Writes (middle.wrote record) after rest onward)
    (linked : middle.page = record.selected → middle.nextOk = true →
      (onward ↔ ∀ next ∈ rest.head?, StaysFor record next)) :
    Writes before after (record :: rest) placed where
  recordAnswers := tail.recordAnswers.trans same.recordAnswers
  count := by
    have here : (middle.wrote record).records = middle.records + 1 := rfl
    have later := tail.count
    rw [here, same.records] at later
    rw [later, List.length_cons]
    omega
  trace := by
    obtain ⟨entries, trace, unstored, length, right⟩ := tail.trace
    refine ⟨.record middle.page record.regAddr record.bytes record.fits middle.nextOk :: entries,
      ?_, ?_, ?_, ?_⟩
    · have here : (middle.wrote record).trace = middle.trace ++
          [.record middle.page record.regAddr record.bytes record.fits middle.nextOk] := rfl
      rw [trace, here, same.trace, List.append_assoc]
      rfl
    · intro listed
      cases listed with
      | tail _ listed => exact unstored listed
    · rw [List.length_cons, length, List.length_cons]
    · rw [List.map_cons, List.cons_eq_cons, right, acknowledged_cons same, placing,
        List.isChain_cons, Fitting, Fitting, List.forall_mem_cons]
      have head : Entry.record middle.page record.regAddr record.bytes record.fits middle.nextOk =
          record.entry ↔
            middle.page = record.selected ∧ record.fits = true ∧ middle.nextOk = true := by
        unfold Mp2856Data.entry
        simp only [Entry.record.injEq, true_and]
      rw [head]
      constructor
      · rintro ⟨⟨page, fits, ok⟩, acknowledged, further, chain, others⟩
        exact ⟨⟨ok, acknowledged⟩, page, ⟨(linked page ok).mp further, chain⟩, fits, others⟩
      · rintro ⟨⟨ok, acknowledged⟩, page, ⟨links, chain⟩, fits, others⟩
        exact ⟨⟨page, fits, ok⟩, acknowledged, (linked page ok).mpr links, chain, others⟩

/-! ## The two loops -/

theorem selected_of_ne (other : record.page ≠ 2) : record.selected = record.page := if_neg other

theorem selected_of_eq (two : record.page = 2) : record.selected = 0x2A :=
  if_pos two

theorem head_takeWhile {wanted : Mp2856Data → Bool} {next : Mp2856Data}
    (first : next ∈ (rest.takeWhile wanted).head?) : wanted next = true := by
  cases rest with
  | nil => exact absurd first (Option.not_mem_none next)
  | cons record rest =>
    rw [List.takeWhile_cons] at first
    split at first
    · rename_i holds
      cases first
      exact holds
    · exact absurd first (Option.not_mem_none next)

/-- The loop over the records of the pages 0 and 1 writes those before the first of page 2, and
returns where that is. -/
theorem programNormal_writes {start : Nat} (records : List Mp2856Data) (page : UInt8)
    (lineIdx : Nat)
    (ran : (programNormal page lineIdx records).result before = (some start, after)) :
    Writes before after (records.takeWhile (·.page ≠ 2))
        (∀ record ∈ (records.takeWhile (·.page ≠ 2)).head?,
          record.page = page → before.page = page) ∧
      (start = 0 ∧ records.dropWhile (·.page ≠ 2) = [] ∨
        start = lineIdx + (records.takeWhile (·.page ≠ 2)).length) := by
  induction records generalizing before page lineIdx with
  | nil =>
    obtain ⟨same, rfl⟩ := Prod.mk.inj ran
    cases same
    have none : ∀ record ∈ ([] : List Mp2856Data).head?, record.page = page →
        before.page = page := fun _ listed => absurd listed (Option.not_mem_none _)
    exact ⟨writes_nil (sameRecords.refl _) none, .inl ⟨rfl, rfl⟩⟩
  | cons record rest ih =>
    unfold programNormal at ran
    split at ran
    · rename_i two
      obtain ⟨same, rfl⟩ := Prod.mk.inj ran
      cases same
      have stops : (record :: rest).takeWhile (·.page ≠ 2) = [] :=
        List.takeWhile_cons_of_neg (by simpa using two)
      rw [stops]
      have none : ∀ record ∈ ([] : List Mp2856Data).head?, record.page = page →
          before.page = page := fun _ listed => absurd listed (Option.not_mem_none _)
      exact ⟨writes_nil (sameRecords.refl _) none, .inr rfl⟩
    · rename_i other
      have goes : (record :: rest).takeWhile (·.page ≠ 2) =
          record :: rest.takeWhile (·.page ≠ 2) :=
        List.takeWhile_cons_of_pos (by simpa using other)
      have drops : (record :: rest).dropWhile (·.page ≠ 2) = rest.dropWhile (·.page ≠ 2) :=
        List.dropWhile_cons_of_pos (by simpa using other)
      rw [goes, drops]
      -- the device when the record is written, with the page that is then selected
      obtain ⟨middle, same, placed, onward⟩ : ∃ middle, SameRecords before middle ∧
          ((record.page = page → before.page = page) ↔ middle.page = record.selected) ∧
          (programNormal record.page (lineIdx + 1) rest).result (middle.wrote record) =
            (some start, after) := by
        rw [selected_of_ne other]
        split at ran
        · rename_i changes
          obtain ⟨_, middle, set, ran⟩ := result_bind_eq_some.mp ran
          have here := setPage_page set
          exact ⟨middle, same_of_result (setPage_same _) set,
            ⟨fun _ => here, fun _ again => absurd again.symm changes⟩, ran⟩
        · rename_i unchanged
          have cached : page = record.page := not_not.mp unchanged
          refine ⟨before, sameRecords.refl _, ?_, ran⟩
          rw [cached]
          exact ⟨fun holds => holds rfl, fun holds _ => holds⟩
      obtain ⟨tail, found⟩ := ih record.page (lineIdx + 1) onward
      constructor
      · apply writes_cons same ?_ tail
        · intro page ok
          constructor
          · intro links next first named
            apply (wrote_page page ok).mp
            rw [selected_of_ne other]
            exact links next first named
          · intro links next first named
            rw [← selected_of_ne other]
            exact (wrote_page page ok).mpr (links next first named)
        · rw [← placed]
          constructor
          · exact fun all => all record rfl
          · intro holds next first
            cases first
            exact holds
      · cases found with
        | inl never => exact .inl never
        | inr found =>
          rw [List.length_cons, Nat.add_comm _ 1, ← Nat.add_assoc]
          exact .inr found

/-- The loop over the records of page 2 writes those before the first of another page. -/
theorem programMulti_writes (records : List Mp2856Data)
    (ran : (programMulti records).result before = (some (), after)) :
    Writes before after (records.takeWhile (·.page = 2))
      (∀ record ∈ (records.takeWhile (·.page = 2)).head?, before.page = 0x2A) := by
  induction records generalizing before with
  | nil =>
    obtain ⟨-, rfl⟩ := Prod.mk.inj ran
    exact writes_nil (sameRecords.refl _) fun _ listed => absurd listed (Option.not_mem_none _)
  | cons record rest ih =>
    unfold programMulti at ran
    split at ran
    · rename_i other
      obtain ⟨-, rfl⟩ := Prod.mk.inj ran
      rw [List.takeWhile_cons_of_neg (by simpa using other)]
      exact writes_nil (sameRecords.refl _) fun _ listed => absurd listed (Option.not_mem_none _)
    · rename_i same
      have two : record.page = 2 := not_not.mp same
      rw [List.takeWhile_cons_of_pos (by simpa using two)]
      apply writes_cons (sameRecords.refl _) ?_ (ih ran)
      · intro page ok
        constructor
        · intro links next first _
          apply (wrote_page page ok).mp
          rw [selected_of_eq two]
          exact links next first
        · intro links next first
          have also : next.page = 2 := by simpa using head_takeWhile first
          rw [← selected_of_eq two]
          exact (wrote_page page ok).mpr (links next first (also.trans two.symm))
      · rw [selected_of_eq two]
        constructor
        · exact fun all => all record rfl
        · exact fun holds _ _ => holds

/-! ## The update -/

def front (records : List Mp2856Data) : List Mp2856Data := records.takeWhile (·.page ≠ 2)

def back (records : List Mp2856Data) : List Mp2856Data := records.dropWhile (·.page ≠ 2)

theorem front_append_back (records : List Mp2856Data) : front records ++ back records = records :=
  List.takeWhile_append_dropWhile

theorem ne_of_mem_front (listed : record ∈ front records) : record.page ≠ 2 := by
  have holds := List.mem_takeWhile_imp listed
  simpa using holds

theorem filter_front (records : List Mp2856Data) :
    records.filter (·.page ≠ 2) = front records ++ (back records).filter (·.page ≠ 2) := by
  have all : (front records).filter (·.page ≠ 2) = front records :=
    List.filter_eq_self.mpr fun record listed => by simpa using ne_of_mem_front listed
  have split := congrArg (List.filter (·.page ≠ 2)) (front_append_back records)
  rw [List.filter_append, all] at split
  exact split.symm

theorem ordered_of_length (length : (records.filter (·.page ≠ 2)).length = (front records).length) :
    Ordered records := by
  rw [filter_front, List.length_append] at length
  have none : (back records).filter (·.page ≠ 2) = [] :=
    List.eq_nil_of_length_eq_zero (by omega)
  intro record listed
  have missing := List.filter_eq_nil_iff.mp none record listed
  simpa using missing

theorem Ordered.filter_ne (ordered : Ordered records) :
    records.filter (·.page ≠ 2) = front records := by
  have none : (back records).filter (·.page ≠ 2) = [] := by
    apply List.filter_eq_nil_iff.mpr
    intro record listed
    simpa using ordered record listed
  rw [filter_front, none, List.append_nil]

theorem Ordered.filter_eq (ordered : Ordered records) :
    records.filter (·.page = 2) = back records := by
  have none : (front records).filter (·.page = 2) = [] := by
    apply List.filter_eq_nil_iff.mpr
    intro record listed
    simpa using ne_of_mem_front listed
  have all : (back records).filter (·.page = 2) = back records :=
    List.filter_eq_self.mpr fun record listed => by simpa using ordered record listed
  have split := congrArg (List.filter (·.page = 2)) (front_append_back records)
  rw [List.filter_append, none, all] at split
  exact split.symm

theorem Ordered.takeWhile_back (ordered : Ordered records) :
    (back records).takeWhile (·.page = 2) = back records :=
  List.takeWhile_eq_self_iff.mpr fun record listed => by simpa using ordered record listed

theorem acknowledged_append {device later : Device} (first second : List Mp2856Data)
    (answers : later.recordAnswers = device.recordAnswers)
    (count : later.records = device.records + first.length) :
    Acknowledged device (first ++ second) ↔
      Acknowledged device first ∧ Acknowledged later second := by
  unfold Acknowledged
  rw [answers, count, List.length_append]
  constructor
  · intro all
    refine ⟨fun index below => all index (by omega), fun index below => ?_⟩
    rw [Nat.add_assoc]
    exact all (first.length + index) (by omega)
  · rintro ⟨front, back⟩ index below
    by_cases early : index < first.length
    · exact front index early
    · have later := back (index - first.length) (by omega)
      rw [Nat.add_assoc, Nat.add_sub_cancel' (Nat.le_of_not_lt early)] at later
      exact later

theorem isChain_front_back (ordered : Ordered records) : List.IsChain StaysFor records ↔
    List.IsChain StaysFor (front records) ∧ List.IsChain StaysFor (back records) := by
  have between : ∀ record ∈ (front records).getLast?, ∀ next ∈ (back records).head?,
      StaysFor record next := by
    intro record last next first named
    have two := ordered next (List.mem_of_mem_head? first)
    exact absurd (named.symm.trans two) (ne_of_mem_front (List.mem_of_mem_getLast? last))
  have split : List.IsChain StaysFor (front records ++ back records) ↔ _ := List.isChain_append
  rw [front_append_back] at split
  rw [split]
  exact ⟨fun parts => ⟨parts.1, parts.2.1⟩, fun parts => ⟨parts.1, parts.2, between⟩⟩

theorem entries_eq_faithful {first second : List Entry} (unstoredFirst : .stored ∉ first)
    (unstoredSecond : .stored ∉ second) (length : first.length = (front records).length) :
    first ++ .stored :: second = faithful records ↔ Ordered records ∧
      first = (front records).map Mp2856Data.entry ∧
      second = (back records).map Mp2856Data.entry := by
  unfold faithful
  rw [List.append_cons_inj_of_notMem unstoredFirst unstoredSecond]
  constructor
  · rintro ⟨sameFirst, -, sameSecond⟩
    have ordered : Ordered records := by
      apply ordered_of_length
      rw [← length, sameFirst, List.length_map]
    rw [ordered.filter_ne] at sameFirst
    rw [ordered.filter_eq] at sameSecond
    exact ⟨ordered, sameFirst, sameSecond⟩
  · rintro ⟨ordered, sameFirst, sameSecond⟩
    rw [ordered.filter_ne, ordered.filter_eq]
    exact ⟨sameFirst, rfl, sameSecond⟩

theorem Writes.of_placed {placed : Prop} (writes : Writes before after records placed)
    (holds : placed) : Writes before after records True where
  recordAnswers := writes.recordAnswers
  count := writes.count
  trace := by
    obtain ⟨entries, trace, unstored, length, right⟩ := writes.trace
    refine ⟨entries, trace, unstored, length, right.trans ?_⟩
    exact ⟨fun parts => ⟨parts.1, trivial, parts.2.2⟩, fun parts => ⟨parts.1, holds, parts.2.2⟩⟩

theorem takeWhile_drop_start {start : Nat} (found : start = 0 ∧ back records = [] ∨
      start = (front records).length) :
    (records.drop start).takeWhile (·.page = 2) = (back records).takeWhile (·.page = 2) := by
  cases found with
  | inl none =>
    obtain ⟨rfl, none⟩ := none
    have all : records = front records := by
      have split := front_append_back records
      rw [none, List.append_nil] at split
      exact split.symm
    rw [none, List.drop_zero, List.takeWhile_nil]
    rw [all]
    cases listed : front records with
    | nil => rfl
    | cons record rest =>
      have here : record ∈ front records := by
        rw [listed]
        exact List.mem_cons_self
      have other := ne_of_mem_front here
      exact List.takeWhile_cons_of_neg (by simpa using other)
  | inr found =>
    have split := congrArg (List.drop start) (front_append_back records)
    rw [found, List.drop_left] at split
    rw [found, ← split]

/-- What an update that reports success has done: the two loops, around the storing. -/
theorem fwupdate_writes {device final : Device}
    (succeeded : (fwupdate records).result device = (some (), final)) :
    ∃ first stored second third,
      SameRecords device first ∧ Writes first stored (front records) True ∧
      second.recordAnswers = stored.recordAnswers ∧ second.records = stored.records ∧
      second.trace = stored.trace ++ [.stored] ∧
      Writes second third ((back records).takeWhile (·.page = 2)) True ∧
      SameRecords third final := by
  obtain ⟨_, unlocked, ran, succeeded⟩ := result_bind_eq_some.mp succeeded
  have same := same_of_result isPwdUnlock_same ran
  obtain ⟨_, writable, ran, succeeded⟩ := result_bind_eq_some.mp succeeded
  have same := sameRecords.trans same (same_of_result unlockWriteProtectMode_same ran)
  obtain ⟨_, opened, ran, succeeded⟩ := result_bind_eq_some.mp succeeded
  have same := sameRecords.trans same (same_of_result (setPage_same 0) ran)
  have page := setPage_page ran
  -- the first loop
  obtain ⟨start, written, ran, succeeded⟩ := result_bind_eq_some.mp succeeded
  obtain ⟨normal, found⟩ := programNormal_writes records 0 0 ran
  rw [Nat.zero_add] at found
  have normal := normal.of_placed fun _ _ _ => page
  -- the storing
  obtain ⟨_, closed, ran, succeeded⟩ := result_bind_eq_some.mp succeeded
  have closing := same_of_result (setPage_same 0) ran
  obtain ⟨_, stored, ran, succeeded⟩ := result_bind_eq_some.mp succeeded
  obtain ⟨storedAnswers, storedCount, storedTrace⟩ := storeNormalCode_trace ran
  obtain ⟨_, enabled, ran, succeeded⟩ := result_bind_eq_some.mp succeeded
  have between := same_of_result enableMtpPageRw_same ran
  obtain ⟨_, second, ran, succeeded⟩ := result_bind_eq_some.mp succeeded
  have between := sameRecords.trans between (same_of_result (setPage_same 2) ran)
  obtain ⟨_, multi, ran, succeeded⟩ := result_bind_eq_some.mp succeeded
  have between := sameRecords.trans between (same_of_result (i2cMasterWrite_same 0xF3 []) ran)
  obtain ⟨_, paged, ran, succeeded⟩ := result_bind_eq_some.mp succeeded
  have between := sameRecords.trans between (same_of_result (setPage_same 0x2A) ran)
  have page := setPage_page ran
  -- the second loop
  obtain ⟨_, third, ran, last⟩ := result_bind_eq_some.mp succeeded
  have multi := (programMulti_writes _ ran).of_placed fun _ _ => page
  rw [takeWhile_drop_start found] at multi
  refine ⟨opened, written, paged, third, same, normal, ?_, ?_, ?_, multi,
    same_of_result (setPage_same 1) last⟩
  · exact between.recordAnswers.trans (storedAnswers.trans closing.recordAnswers)
  · exact between.records.trans (storedCount.trans closing.records)
  · rw [between.trace, storedTrace, closing.trace]

/-- An update that reports success has written every record to its page, with an acknowledgement,
and stored those of the pages 0 and 1 before those of page 2, when the records are ordered, all
writes of records are acknowledged, none selects another page for the next one, and none is longer
than its field. -/
theorem fwupdate_faithful_iff {device final : Device}
    (succeeded : (fwupdate records).result device = (some (), final)) :
    final.trace = device.trace ++ faithful records ↔
      Ordered records ∧ Acknowledged device records ∧ List.IsChain StaysFor records ∧
        Fitting records := by
  obtain ⟨first, stored, second, third, starts, normal, answers, count, storing, multi, ends⟩ :=
    fwupdate_writes succeeded
  obtain ⟨before, traceBefore, unstoredBefore, lengthBefore, rightBefore⟩ := normal.trace
  obtain ⟨behind, traceBehind, unstoredBehind, lengthBehind, rightBehind⟩ := multi.trace
  have trace : final.trace = device.trace ++ (before ++ .stored :: behind) := by
    rw [ends.trace, traceBehind, storing, traceBefore, starts.trace]
    simp only [List.append_assoc, List.cons_append, List.nil_append]
  rw [trace, List.append_cancel_left_eq,
    entries_eq_faithful unstoredBefore unstoredBehind lengthBefore]
  apply and_congr_right
  intro ordered
  rw [ordered.takeWhile_back] at rightBehind
  have acknowledged : Acknowledged device records ↔
      Acknowledged first (front records) ∧ Acknowledged second (back records) := by
    have split : Acknowledged first (front records ++ back records) ↔
        Acknowledged first (front records) ∧ Acknowledged second (back records) :=
      acknowledged_append (front records) (back records) (answers.trans normal.recordAnswers)
        (count.trans normal.count)
    rw [front_append_back] at split
    rw [← split]
    unfold Acknowledged
    rw [starts.recordAnswers, starts.records]
  have fitting : Fitting records ↔ Fitting (front records) ∧ Fitting (back records) := by
    have split : Fitting (front records ++ back records) ↔ _ := List.forall_mem_append
    rw [front_append_back] at split
    exact split
  rw [rightBefore, rightBehind, acknowledged, isChain_front_back ordered, fitting]
  constructor
  · exact fun ⟨⟨ackFront, _, chainFront, fitFront⟩, ackBack, _, chainBack, fitBack⟩ =>
      ⟨⟨ackFront, ackBack⟩, ⟨chainFront, chainBack⟩, fitFront, fitBack⟩
  · exact fun ⟨⟨ackFront, ackBack⟩, ⟨chainFront, chainBack⟩, fitFront, fitBack⟩ =>
      ⟨⟨ackFront, trivial, chainFront, fitFront⟩, ackBack, trivial, chainBack, fitBack⟩

/-! ## A record that is not acknowledged -/

/-- A device that can be updated, with the writes of records ending as given. -/
def benchDevice (recordOk : Bool) : Device where
  recordAnswers _ := ⟨recordOk, recordOk, []⟩
  answers _ := ⟨true, true, [0x0C, 0x04]⟩
  records := 0
  asked := 0
  page := 0
  trace := []

def benchRecords : List Mp2856Data := [⟨1, 0, 0x21, [0x34, 0x12, 0, 0], 2⟩,
  ⟨1, 2, 0x22, [0x56, 0, 0, 0], 1⟩]

def benchFinal (recordOk : Bool) : Device :=
  ((fwupdate benchRecords).result (benchDevice recordOk)).2

theorem bench_succeeds (recordOk : Bool) :
    (fwupdate benchRecords).result (benchDevice recordOk) = (some (), benchFinal recordOk) := by
  have success : ((fwupdate benchRecords).result (benchDevice recordOk)).1 = some () := by
    cases recordOk with
    | false => decide +kernel
    | true => decide +kernel
  unfold benchFinal
  rw [← success]

/-- An update whose records the device does not acknowledge succeeds. -/
theorem unacknowledged_unfaithful : ∃ final,
    (fwupdate benchRecords).result (benchDevice false) = (some (), final) ∧
      final.trace ≠ (benchDevice false).trace ++ faithful benchRecords :=
  ⟨benchFinal false, bench_succeeds false, by decide +kernel⟩

/-- The update of a device that acknowledges is faithful. -/
theorem acknowledged_faithful :
    (benchFinal true).trace = (benchDevice true).trace ++ faithful benchRecords := by
  apply (fwupdate_faithful_iff (bench_succeeds true)).mpr
  refine ⟨?_, ?_, ?_, ?_⟩
  · unfold Ordered
    decide
  · exact fun _ _ => rfl
  · exact .cons_cons (fun named => absurd named (by decide)) (.singleton _)
  · unfold Fitting
    decide

end OpenBic.Mp2971
