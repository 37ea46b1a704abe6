import OpenBic.Ipmi.CmdHandle
import OpenBic.Library.Ring

/-!
# The POST codes of a host

`snoop_read` and `copy_snoop_read_buffer` of `snoop.c`, and `OEM_1S_GET_POST_CODE` of
`oem_1s_handler.c`. The codes that are snooped are written into a ring, and the handler copies the
latest ones out of it. A copy that leaves the ring comes to nothing.
-/

namespace OpenBic.Snoop

open List Function Library Library.Ring Library.Splice Ipmi

/-! ## The code -/

def snoopMaxLen : Nat := 244

/-- The codes that were snooped. -/
structure SnoopRing where
  buffer : Nat → UInt8
  /-- `snoop_read_num`, an `int`. -/
  readNum : Nat

/-- A code that `snoop_read` has, with or without the lock. The number of codes is an `int`, so that
nothing is known when there are more than it can count. -/
def snoopRead (ring : SnoopRing) (snoopData : UInt8) (locked : Bool) : Option SnoopRing :=
  if !locked then some ring
  else if ring.readNum + 1 < 2 ^ 31 then
    some ⟨put snoopMaxLen ring.buffer ring.readNum snoopData, ring.readNum + 1⟩
  else none

/-- `memcpy` out of the ring, of a length that is a `size_t`. -/
def memcpyRing (buffer : Nat → UInt8) (offset : Nat) (length : Int) : Option (List UInt8) :=
  if 0 ≤ length ∧ offset + length ≤ snoopMaxLen then
    some ((List.range length.toNat).map (view buffer offset))
  else none

/-- `POSTCODE_COPY_TYPES`. -/
inductive CopyMode where
  | allPostcode
  | specificPostcode

/-- `copy_snoop_read_buffer`: what is copied to the front of the buffer. -/
def copySnoopReadBuffer (ring : SnoopRing) (offset : UInt8) (sizeNum : Int) (copyMode : CopyMode)
    (locked : Bool) : Option (List UInt8) :=
  if (snoopMaxLen : Int) < sizeNum then some []
  else if !locked then some []
  else
    match copyMode with
    | .allPostcode => do
      let first ← memcpyRing ring.buffer offset.toNat (sizeNum - offset.toNat)
      let second ← memcpyRing ring.buffer 0 offset.toNat
      return first ++ second
    | .specificPostcode =>
      if (snoopMaxLen : Int) < offset.toNat + sizeNum then do
        let first ← memcpyRing ring.buffer offset.toNat (snoopMaxLen - offset.toNat)
        let second ← memcpyRing ring.buffer 0 (sizeNum - (snoopMaxLen - offset.toNat))
        return first ++ second
      else memcpyRing ring.buffer offset.toNat sizeNum

/-- What the build enables. -/
structure Build where
  enablePldm : Bool

def Build.postCodeBufSize (build : Build) : Nat := if build.enablePldm then 240 else snoopMaxLen

def Build.copyOffset (build : Build) (readNum : Nat) : UInt8 :=
  if build.postCodeBufSize < readNum then
    if snoopMaxLen < readNum then
      UInt8.ofNat (readNum % snoopMaxLen + snoopMaxLen - build.postCodeBufSize)
    else UInt8.ofNat (readNum % snoopMaxLen + readNum - build.postCodeBufSize)
  else 0

def Build.postcodeNum (build : Build) (readNum : Nat) : Nat := min readNum build.postCodeBufSize

def swap (data : Nat → UInt8) (first second : Nat) : Nat → UInt8 :=
  update (update data first (data second)) second (data first)

def turnAround (data : Nat → UInt8) (postcodeNum : Nat) : Nat → UInt8 :=
  (List.range (postcodeNum / 2)).foldl (fun data i => swap data i (postcodeNum - i - 1)) data

def oem1sGetPostCode (build : Build) (ring : SnoopRing) (locked : Bool) (msg : HandlerMsg) :
    Option HandlerMsg :=
  if msg.dataLen ≠ 0 then some (msg.complete .invalidLength)
  else do
    let postcodeNum := build.postcodeNum ring.readNum
    let copied ←
      if ring.readNum ≠ 0 then
        copySnoopReadBuffer ring (build.copyOffset ring.readNum) postcodeNum .specificPostcode
          locked
      else some []
    return {
      data := turnAround (msg.copied copied).data postcodeNum
      dataLen := postcodeNum
      completionCode := .success }

/-! ## What is claimed -/

def snoopAll : SnoopRing → List UInt8 → Option SnoopRing
  | ring, [] => some ring
  | ring, snoopData :: rest => (snoopRead ring snoopData true).bind fun next => snoopAll next rest

/-- The handler answers with the last codes that were snooped, newest first. -/
def AnswersLast (build : Build) (buffer : Nat → UInt8) (codes : List UInt8) (locked : Bool)
    (data : Nat → UInt8) : Prop :=
  ∃ ring answer, snoopAll ⟨buffer, 0⟩ codes = some ring ∧
    oem1sGetPostCode build ring locked ⟨data, 0, .invalidCmd⟩ = some answer ∧
    answer.completionCode = .success ∧
    answer.bytes = codes.reverse.take build.postCodeBufSize

/-! ## The loop -/

section Loop

variable {data : Nat → UInt8} {num count : Nat}

theorem swaps_apply (few : 2 * count ≤ num) (index : Nat) :
    (List.range count).foldl (fun data i => swap data i (num - i - 1)) data index =
      if index < count ∨ num - count ≤ index ∧ index < num then data (num - index - 1)
      else data index := by
  induction count generalizing index with
  | zero =>
    have outside : ¬ (index < 0 ∨ num - 0 ≤ index ∧ index < num) := by omega
    rw [if_neg outside]
    rfl
  | succ count ih =>
    rw [range_succ, foldl_append, foldl_cons, foldl_nil, swap,
      ih (by omega) count, ih (by omega) (num - count - 1),
      if_neg (by omega), if_neg (by omega)]
    by_cases last : index = num - count - 1
    · rw [last, update_self, if_pos (by omega)]
      congr 1
      omega
    · rw [update_of_ne last]
      by_cases first : index = count
      · rw [first, update_self, if_pos (by omega)]
      · rw [update_of_ne first, ih (by omega) index]
        have same : (index < count ∨ num - count ≤ index ∧ index < num) ↔
            (index < count + 1 ∨ num - (count + 1) ≤ index ∧ index < num) := by omega
        rw [if_congr same rfl rfl]

theorem range_turnAround (data : Nat → UInt8) (num : Nat) :
    (List.range num).map (turnAround data num) = ((List.range num).map data).reverse := by
  apply ext_getElem
  · simp
  · intro index first second
    rw [length_map, length_range] at first
    rw [getElem_map, getElem_range, getElem_reverse, getElem_map,
      getElem_range, length_map, length_range, turnAround, swaps_apply (by omega)]
    have place : num - 1 - index = num - index - 1 := by omega
    rw [place]
    split
    · rfl
    · congr 1
      omega

end Loop

/-! ## The ring -/

section Ring

variable {ring : SnoopRing} {past : List UInt8}

/-- The ring has the latest codes when an `int` counts them, and else nothing is known. -/
theorem snoopAll_from (codes : List UInt8) (recent : Recent snoopMaxLen past ring.buffer)
    (counted : ring.readNum = past.length) :
    (past.length + codes.length < 2 ^ 31 → ∃ after, snoopAll ring codes = some after ∧
      after.readNum = past.length + codes.length ∧
        Recent snoopMaxLen (past ++ codes) after.buffer) ∧
      (past.length < 2 ^ 31 → 2 ^ 31 ≤ past.length + codes.length →
        snoopAll ring codes = none) := by
  induction codes generalizing ring past with
  | nil =>
    constructor
    · intro _
      refine ⟨ring, rfl, counted, ?_⟩
      rw [append_nil]
      exact recent
    · intro few many
      rw [length_nil] at many
      omega
  | cons code rest ih =>
    rw [length_cons]
    unfold snoopAll snoopRead
    rw [Bool.not_true, if_neg Bool.false_ne_true, counted]
    by_cases room : past.length + 1 < 2 ^ 31
    · rw [if_pos room, Option.bind_some]
      have onward := @ih ⟨put snoopMaxLen ring.buffer past.length code, past.length + 1⟩
        (past ++ [code]) (recent.put code) (by rw [length_append, length_singleton])
      rw [length_append, length_singleton, append_assoc] at onward
      constructor
      · intro few
        obtain ⟨after, ran, number, latest⟩ := onward.1 (by omega)
        exact ⟨after, ran, by omega, latest⟩
      · intro _ many
        exact onward.2 room (by omega)
    · rw [if_neg room, Option.bind_none]
      exact ⟨fun few => by omega, fun _ _ => rfl⟩

/-- What is copied from a place in the ring on, around its end. -/
theorem copySpecific_eq {offset : UInt8} {count : Nat} (inside : offset.toNat ≤ snoopMaxLen)
    (few : count ≤ snoopMaxLen) :
    copySnoopReadBuffer ring offset count .specificPostcode true =
      some ((List.range count).map fun index =>
        ring.buffer ((offset.toNat + index) % snoopMaxLen)) := by
  unfold snoopMaxLen at inside few
  unfold copySnoopReadBuffer memcpyRing snoopMaxLen
  rw [if_neg (by omega), Bool.not_true, if_neg Bool.false_ne_true]
  dsimp only
  by_cases wraps : ((244 : Nat) : Int) < (offset.toNat : Int) + (count : Int)
  · rw [if_pos wraps, if_pos (by omega), if_pos (by omega)]
    have first : (((244 : Nat) : Int) - offset.toNat).toNat = 244 - offset.toNat := by omega
    have second : ((count : Int) - (((244 : Nat) : Int) - offset.toNat)).toNat =
        count - (244 - offset.toNat) := by omega
    rw [first, second]
    have total : count = 244 - offset.toNat + (count - (244 - offset.toNat)) := by omega
    conv_rhs => rw [total, range_add, map_append, List.map_map]
    refine congrArg some (congrArg₂ _ ?_ ?_)
    · apply map_congr_left
      intro index listed
      have less := List.mem_range.mp listed
      rw [view_apply, Nat.mod_eq_of_lt (by omega)]
    · apply map_congr_left
      intro index listed
      have less := List.mem_range.mp listed
      have place : offset.toNat + (244 - offset.toNat + index) = index + 244 := by omega
      rw [view_apply, Nat.zero_add, Function.comp_apply, place, Nat.add_mod_right,
        Nat.mod_eq_of_lt (by omega)]
  · rw [if_neg wraps, if_pos (by omega)]
    refine congrArg some (map_congr_left ?_)
    intro index listed
    have less := List.mem_range.mp listed
    rw [view_apply, Nat.mod_eq_of_lt (by omega)]

end Ring

/-! ## The handler -/

section Handler

variable {build : Build} {ring : SnoopRing} {codes copied : List UInt8} {num : Nat}
  {data : Nat → UInt8}

theorem postCodeBufSize_le (build : Build) :
    0 < build.postCodeBufSize ∧ build.postCodeBufSize ≤ snoopMaxLen := by
  unfold Build.postCodeBufSize snoopMaxLen
  split <;> omega

theorem copyOffset_toNat (fits : build.enablePldm = true → num % snoopMaxLen ≤ 240) :
    (build.copyOffset num).toNat ≤ snoopMaxLen ∧
      ∀ index, ((build.copyOffset num).toNat + index) % snoopMaxLen =
        (num - build.postCodeBufSize + index) % snoopMaxLen := by
  unfold Build.copyOffset Build.postCodeBufSize snoopMaxLen at *
  cases pldm : build.enablePldm with
  | true =>
    have small := fits pldm
    rw [if_pos rfl]
    split
    · split
      · rw [UInt8.toNat_ofNat']
        exact ⟨by omega, fun index => by omega⟩
      · rw [UInt8.toNat_ofNat']
        exact ⟨by omega, fun index => by omega⟩
    · exact ⟨by decide, fun index => by rw [UInt8.toNat_zero]; omega⟩
  | false =>
    rw [if_neg Bool.false_ne_true]
    split
    · rw [UInt8.toNat_ofNat']
      exact ⟨by omega, fun index => by omega⟩
    · exact ⟨by decide, fun index => by rw [UInt8.toNat_zero]; omega⟩

theorem oem1sGetPostCode_eq {locked : Bool} (some : ring.readNum ≠ 0) :
    oem1sGetPostCode build ring locked ⟨data, 0, .invalidCmd⟩ =
      (copySnoopReadBuffer ring (build.copyOffset ring.readNum)
        (build.postcodeNum ring.readNum : Nat) .specificPostcode locked).map fun copied =>
          ⟨turnAround (HandlerMsg.copied ⟨data, 0, .invalidCmd⟩ copied).data
            (build.postcodeNum ring.readNum), build.postcodeNum ring.readNum, .success⟩ := by
  unfold oem1sGetPostCode
  rw [if_neg (by simp), if_pos some]
  cases copySnoopReadBuffer ring (build.copyOffset ring.readNum)
    (build.postcodeNum ring.readNum : Nat) .specificPostcode locked <;> rfl

theorem bytes_turned {completionCode : CompletionCode} (length : copied.length = num) :
    HandlerMsg.bytes ⟨turnAround (HandlerMsg.copied ⟨data, 0, .invalidCmd⟩ copied).data num, num,
      completionCode⟩ = copied.reverse := by
  rw [HandlerMsg.bytes, range_turnAround, ← length, range_copied]

theorem last_codes (codes : List UInt8) (size : Nat) :
    ((codes.drop (codes.length - size)).take (min codes.length size)).reverse =
      codes.reverse.take size := by
  rw [take_of_length_le (by rw [length_drop]; omega), take_reverse]

theorem snoopAll_few (buffer : Nat → UInt8) (codes : List UInt8) (few : codes.length < 2 ^ 31) :
    ∃ ring, snoopAll ⟨buffer, 0⟩ codes = some ring ∧ ring.readNum = codes.length ∧
      Recent snoopMaxLen codes ring.buffer := by
  have whole := (@snoopAll_from ⟨buffer, 0⟩ [] codes (recent_nil snoopMaxLen buffer) rfl).1
  rw [length_nil, Nat.zero_add, nil_append] at whole
  exact whole few

theorem copies_last (counted : ring.readNum = codes.length)
    (recent : Recent snoopMaxLen codes ring.buffer)
    (fits : build.enablePldm = true → codes.length % snoopMaxLen ≤ 240) :
    copySnoopReadBuffer ring (build.copyOffset ring.readNum)
        (build.postcodeNum ring.readNum : Nat) .specificPostcode true =
      some ((codes.drop (codes.length - build.postCodeBufSize)).take
        (min codes.length build.postCodeBufSize)) := by
  have size := postCodeBufSize_le build
  have place := copyOffset_toNat fits
  have number : build.postcodeNum ring.readNum = min codes.length build.postCodeBufSize := by
    rw [Build.postcodeNum, counted]
  have window := recent.window (codes.length - build.postCodeBufSize)
    (min codes.length build.postCodeBufSize) (by omega) (by omega)
  rw [number, counted, copySpecific_eq place.1 (by omega), ← window]
  simp only [place.2]

theorem answersLast_of_fits (few : codes.length < 2 ^ 31)
    (fits : build.enablePldm = true → codes.length % snoopMaxLen ≤ 240) (buffer : Nat → UInt8)
    (data : Nat → UInt8) {locked : Bool} (lock : codes.length ≠ 0 → locked = true) :
    AnswersLast build buffer codes locked data := by
  obtain ⟨ring, ran, counted, recent⟩ := snoopAll_few buffer codes few
  by_cases none : codes.length = 0
  · have empty := List.length_eq_zero_iff.mp none
    have zero : ring.readNum = 0 := counted.trans none
    refine ⟨ring, ⟨turnAround (HandlerMsg.copied ⟨data, 0, .invalidCmd⟩ []).data 0, 0, .success⟩,
      ran, ?_, rfl, ?_⟩
    · unfold oem1sGetPostCode Build.postcodeNum
      rw [if_neg (by simp), if_neg (by simp [zero]), zero, Nat.zero_min]
      rfl
    · rw [empty, reverse_nil, take_nil]
      rfl
  · have some : ring.readNum ≠ 0 := by
      rw [counted]
      exact none
    have copies := copies_last counted recent fits
    have answer := @oem1sGetPostCode_eq build ring data locked some
    rw [lock none, copies] at answer
    rw [lock none]
    refine ⟨ring, _, ran, answer, rfl, ?_⟩
    rw [Build.postcodeNum, counted, bytes_turned, last_codes]
    rw [length_take, length_drop]
    omega

def firstOne (num : Nat) : List UInt8 := 1 :: List.replicate (num - 1) 0

theorem first_not_last (build : Build) {num : Nat} (more : build.postCodeBufSize < num) :
    (1 : UInt8) ∉ (firstOne num).reverse.take build.postCodeBufSize := by
  have split : (firstOne num).reverse = List.replicate (num - 1) 0 ++ [1] := by
    rw [firstOne, reverse_cons, reverse_replicate]
  rw [split, take_append_of_le_length (by rw [length_replicate]; omega)]
  intro listed
  have zero := eq_of_mem_replicate (mem_of_mem_take listed)
  cases zero

/-- Between the sizes of the reply and of the ring, the handler answers with the first code, or
leaves the ring. -/
theorem not_answersLast_between (pldm : build.enablePldm = true)
    (between : 240 < num % snoopMaxLen) (few : num < 2 ^ 31) (buffer data : Nat → UInt8) :
    ¬ AnswersLast build buffer (firstOne num) true data := by
  rintro ⟨ring, answer, ran, answered, -, same⟩
  have length : (firstOne num).length = num := by
    have some : num ≠ 0 := by
      rintro rfl
      cases between
    rw [firstOne, length_cons, length_replicate]
    omega
  obtain ⟨other, ran', counted, recent⟩ :=
    snoopAll_few buffer (firstOne num) (by rw [length]; exact few)
  cases ran.symm.trans ran'
  rw [length] at counted
  have size : build.postCodeBufSize = 240 := if_pos pldm
  have number : build.postcodeNum num = 240 := by
    unfold snoopMaxLen at between
    rw [Build.postcodeNum, size]
    omega
  have some : ring.readNum ≠ 0 := by
    unfold snoopMaxLen at between
    omega
  rw [oem1sGetPostCode_eq some, counted, number] at answered
  by_cases leaves : snoopMaxLen < (build.copyOffset num).toNat
  · have strays : copySnoopReadBuffer ring (build.copyOffset num) (240 : Nat) .specificPostcode
        true = none := by
      unfold copySnoopReadBuffer memcpyRing
      unfold snoopMaxLen at leaves ⊢
      rw [if_neg (by omega), Bool.not_true, if_neg Bool.false_ne_true]
      dsimp only
      rw [if_pos (by omega), if_neg (by omega)]
      rfl
    rw [strays] at answered
    cases answered
  · rw [copySpecific_eq (by omega) (by decide)] at answered
    cases answered
    rw [bytes_turned (by rw [length_map, length_range])] at same
    apply @first_not_last build num
    · unfold snoopMaxLen at between
      omega
    · rw [← same, mem_reverse, List.mem_map]
      have place : (build.copyOffset num).toNat = 242 ∧ num = 241 ∨
          (build.copyOffset num).toNat = 244 ∧ num = 242 := by
        unfold Build.copyOffset at leaves ⊢
        unfold snoopMaxLen at between leaves ⊢
        by_cases more : 244 < num
        · rw [if_pos (by omega), if_pos more, UInt8.toNat_ofNat'] at leaves
          omega
        · rw [if_pos (by omega), if_neg more, UInt8.toNat_ofNat'] at leaves ⊢
          omega
      have zeroth : ring.buffer 0 = 1 := by
        apply recent 0 1 rfl
        omega
      rcases place with ⟨offset, -⟩ | ⟨offset, -⟩
      · refine ⟨2, List.mem_range.mpr (by decide), ?_⟩
        rw [offset]
        exact zeroth
      · refine ⟨0, List.mem_range.mpr (by decide), ?_⟩
        rw [offset]
        exact zeroth

/-- Without the lock the handler answers with what the message has. -/
theorem not_answersLast_unlocked (some : num ≠ 0) (few : num < 2 ^ 31) (buffer : Nat → UInt8) :
    ¬ AnswersLast build buffer (List.replicate num 0) false fun _ => 1 := by
  rintro ⟨ring, answer, ran, answered, -, same⟩
  obtain ⟨other, ran', counted, -⟩ :=
    snoopAll_few buffer (List.replicate num 0) (by rw [length_replicate]; exact few)
  cases ran.symm.trans ran'
  rw [length_replicate] at counted
  have size := postCodeBufSize_le build
  rw [oem1sGetPostCode_eq (by rw [counted]; exact some), counted] at answered
  have nothing : copySnoopReadBuffer ring (build.copyOffset num) (build.postcodeNum num : Nat)
      .specificPostcode false = Option.some [] := by
    unfold copySnoopReadBuffer
    split <;> rfl
  rw [nothing] at answered
  cases answered
  have stale : (HandlerMsg.copied ⟨fun _ => 1, 0, .invalidCmd⟩ []).data = fun _ => 1 :=
    overwrite_zero (fun _ => 1) 0 fun index => ([] : List UInt8).getD index 0
  rw [HandlerMsg.bytes, range_turnAround, stale, reverse_replicate] at same
  have listed : (1 : UInt8) ∈ ((List.range (build.postcodeNum num)).map
      fun _ => (1 : UInt8)).reverse := by
    rw [mem_reverse, List.mem_map]
    refine ⟨0, List.mem_range.mpr ?_, rfl⟩
    rw [Build.postcodeNum]
    omega
  rw [same] at listed
  exact absurd (eq_of_mem_replicate (mem_of_mem_take listed)) (by decide)

/-- The handler answers with the last codes, whatever these are, when an `int` counts them, the
lock is had, and the reply is as large as the ring or the next code to be written is not behind the
first bytes of the ring, as many as the reply has. -/
theorem answersLast_iff (build : Build) (num : Nat) (locked : Bool) :
    (∀ buffer codes data, codes.length = num → AnswersLast build buffer codes locked data) ↔
      num < 2 ^ 31 ∧ (num ≠ 0 → locked = true) ∧
        (build.enablePldm = true → num % snoopMaxLen ≤ 240) := by
  constructor
  · intro right
    have zeros := right (fun _ => 0) (List.replicate num 0) (fun _ => 1) length_replicate
    have few : num < 2 ^ 31 := by
      by_contra many
      obtain ⟨ring, answer, ran, -⟩ := zeros
      have none := (@snoopAll_from ⟨fun _ => 0, 0⟩ [] (List.replicate num 0)
        (recent_nil snoopMaxLen _) rfl).2 (by decide)
          (by rw [length_nil, length_replicate]; omega)
      exact absurd (ran.symm.trans none) (by simp)
    have lock : num ≠ 0 → locked = true := by
      intro some
      by_contra unlocked
      rw [Bool.not_eq_true] at unlocked
      rw [unlocked] at right
      exact not_answersLast_unlocked some few (fun _ => 0)
        (right _ _ _ length_replicate)
    refine ⟨few, lock, ?_⟩
    intro pldm
    by_contra between
    have some : num ≠ 0 := by
      rintro rfl
      exact between (by decide)
    have length : (firstOne num).length = num := by
      rw [firstOne, length_cons, length_replicate]
      omega
    rw [lock some] at right
    exact not_answersLast_between pldm (Nat.lt_of_not_le between) few (fun _ => 0) (fun _ => 0)
      (right _ _ _ length)
  · rintro ⟨few, lock, fits⟩ buffer codes data rfl
    exact answersLast_of_fits few fits buffer data lock

/-- Of 241 codes the answer is not the last 240. -/
theorem firstOne_241_answered :
    ¬ AnswersLast ⟨true⟩ (fun _ => 0) (firstOne 241) true fun _ => 0 :=
  not_answersLast_between rfl (by decide) (by decide) _ _

end Handler

end OpenBic.Snoop
