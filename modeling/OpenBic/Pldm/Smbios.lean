import OpenBic.Library.Cut
import OpenBic.Obmf.Message
import OpenBic.Pldm.Command

/-!
# SMBIOS structures

`get_smbios_structure_data_by_type` of `pldm_smbios.c` with what it calls. It collects pointers to
the structures of a type in a block that it lets grow, and returns as many of the structures as it
takes for a page. What does not have the memory it reads, or reads a block that was freed, comes to
nothing.
-/

namespace OpenBic.Pldm.Smbios

open List Option Library.Checked Library.Cut OpenBic.Pldm.Command
open OpenBic.Obmf (bytes16 read16)
open OpenBic.Pldm.Receive (hdrLen)
open OpenBic.Pldm.SensorEvent (pldmSuccess pldmErrorInvalidLength)

def maximumStructureSize : Nat := 65535

def maximumHandleNum : Nat := 0xFEFF

/-- The type of the structure with the BIOS information. -/
def smbiosBiosInformation : UInt8 := 0

def invalidDataTransferHandle : UInt8 := 0x80

def invalidTransferOperationFlag : UInt8 := 0x81

def noSmbiosStructures : UInt8 := 0x86

def invalidSmbiosStructureType : UInt8 := 0x87

def invalidSmbiosStructureInstanceId : UInt8 := 0x89

def transferFlagStart : UInt8 := 0x01

def transferFlagMiddle : UInt8 := 0x02

def transferFlagEnd : UInt8 := 0x04

def transferFlagStartAndEnd : UInt8 := 0x05

/-- `PLDM_SMBIOS_TRANSFER_OPERATION_FLAG_GET_NEXT_PART`. -/
def getNextPart : UInt8 := 0x00

/-- `PLDM_SMBIOS_TRANSFER_OPERATION_FLAG_GET_FIRST_PART`. -/
def getFirstPart : UInt8 := 0x01

/-- `GET_ALL_INSTANCES_OF_SPECIFIC_TYPE`. -/
def allInstances : UInt16 := 0xFFFF

/-- `sizeof(smbios_bios_information) - sizeof(char *)`. -/
def biosInformationSize : Nat := 26

/-- `sizeof(pldm_get_smbios_structure_by_type_resp)`. -/
def respSize : Nat := 6

/-! ## Structures -/

def ends : List UInt8 → Bool
  | first :: second :: rest =>
    if first = 0 ∧ second = 0 then rest.isEmpty else ends (second :: rest)
  | _ => false

/-- The text strings of a structure. -/
structure TextStrings where
  bytes : List UInt8
  ended : ends bytes = true
deriving DecidableEq

/-- `type` of the header of a structure. -/
def typeOf (area : List UInt8) : UInt8 := area.getD 0 0

/-- A structure as it is stored. -/
structure Structure where
  area : List UInt8
  header : 4 ≤ area.length
  bios : typeOf area = smbiosBiosInformation → area.length = biosInformationSize
  /-- Its `text_strings`, if it has any. -/
  textStrings : Option TextStrings
deriving DecidableEq

/-- `header.type`. -/
def Structure.type (item : Structure) : UInt8 := typeOf item.area

/-- `header.handle`. -/
def Structure.handle (item : Structure) : UInt16 := read16 item.area 2

def Structure.text (item : Structure) : List UInt8 :=
  (item.textStrings.map TextStrings.bytes).getD []

def Structure.bytes (item : Structure) : List UInt8 := item.area ++ item.text

/-- `structures`. -/
structure Stored where
  structures : List Structure
  /-- `structures_count` has eight bits. -/
  counted : structures.length < 256

/-! ## Text strings -/

def strlen : List UInt8 → Option Nat
  | [] => none
  | char :: rest => if char = 0 then some 0 else (strlen rest).map Nat.succ

/-- A turn of the loop over text strings: `len`, and whether the last string was found. -/
def turn (iter : List UInt8) : Option (UInt8 × Bool) := do
  let count ← strlen iter
  let len := UInt8.ofNat count
  let char ← byteAt iter len.toNat
  if char = 0 then (byteAt iter (len.toNat + 1)).map fun next => (len, next = 0)
  else some (len, false)

def sizeLoop : Nat → List UInt8 → UInt8 → UInt8 → Option UInt8
  | 0, _, _, _ => none
  | turns + 1, iter, size, i => do
    let (len, ended) ← turn iter
    if ended then some (size + (len + 1) + 1)
    else if maximumStructureSize < (i + 1).toNat then some 0
    else sizeLoop turns (iter.drop (len.toNat + 1)) (size + (len + 1)) (i + 1)

def textStringsSize : Option TextStrings → Option UInt8
  | none => some 0
  | some text => sizeLoop text.bytes.length text.bytes 0 0

/-! ## The structures of a type -/

/-- How an allocation that extends one ends. -/
inductive Grown where
  | inPlace
  | moved
  | failed
deriving DecidableEq

/-- What the allocator does for one request. -/
structure Heap where
  malloc : Bool
  /-- The type that is read through the pointer of such a block before it is set, unless that read
  faults. -/
  unset : Option UInt8
  /-- What `realloc` does for so many pointers. -/
  realloc : Nat → Grown

/-- The block of pointers as the caller sees it. -/
inductive Block where
  | alive (cells : List Structure)
  | freed

def Block.push (item : Structure) : Block → Block
  | .alive cells => .alive (cells ++ [item])
  | .freed => .freed

def Block.cell : Block → Nat → Option Structure
  | .alive cells, index => cells[index]?
  | .freed, _ => none

def Block.firstType (heap : Heap) : Block → Option UInt8
  | .alive [] => heap.unset
  | .alive (first :: _) => some first.type
  | .freed => none

/-- `filterStructureDataByType`, which has its own copy of the pointer to the block. -/
def filterStructureDataByType (heap : Heap) (type : UInt8) :
    List Structure → Nat → Block → Nat × Block
  | [], count, block => (count, block)
  | first :: rest, count, block =>
    if first.type = type then
      match heap.realloc (count + 1) with
      | .inPlace => filterStructureDataByType heap type rest (count + 1) (block.push first)
      | .moved => filterStructureDataByType heap type rest (count + 1) .freed
      | .failed => (0, block)
    else filterStructureDataByType heap type rest count block

/-- `get_structure_data_index_by_handle` from an index on; its `-1` is `none`. -/
def indexByHandle (target : UInt16) (block : Block) : Nat → Nat → Option (Option Nat)
  | 0, _ => some none
  | left + 1, i => do
    let first ← block.cell i
    if first.handle = target then some (some i) else indexByHandle target block left (i + 1)

def formattedAreaSize (type : UInt8) : UInt8 :=
  if type = smbiosBiosInformation then UInt8.ofNat biosInformationSize else 0

def textString (item : Structure) : Option TextStrings :=
  if item.type = smbiosBiosInformation then item.textStrings else none

/-- The loop of `get_maximum_data_count_under_size`. -/
def countLoop (maximum : Nat) (formatted : UInt8) (block : Block) :
    Nat → Nat → UInt8 → UInt8 → Option UInt8
  | 0, _, _, result => some result
  | left + 1, i, total, result => do
    let first ← block.cell i
    let size ← textStringsSize (textString first)
    if maximum < total.toNat + (formatted + size).toNat then some result
    else countLoop maximum formatted block left (i + 1) (total + (formatted + size)) (result + 1)

/-- `get_maximum_data_count_under_size`; its `-1` is `none`. -/
def maximumDataCount (heap : Heap) (maximum : Nat) (block : Block) (count start : Nat) :
    Option (Option UInt8) := do
  let type ← block.firstType heap
  let formatted := formattedAreaSize type
  if formatted = 0 then some none
  else (countLoop maximum formatted block (count - start) start 0 0).map some

/-! ## The response -/

variable {size : Nat}

/-- The text strings of a structure are copied as far as their size says. -/
def copyText (respBuf : Buffer size) (place : Nat) (count : UInt8) :
    Option TextStrings → Option (Buffer size)
  | none => some respBuf
  | some text => do
    let bytes ← rangeAt text.bytes 0 count.toNat
    respBuf.write place bytes

/-- `copy_structure_data` from an index and a place on. It returns where the data ends; its `-1` is
`none`. -/
def copyLoop (block : Block) : Nat → Nat → Nat → Buffer size → Option (Buffer size × Option Nat)
  | 0, _, place, respBuf => some (respBuf, some place)
  | left + 1, i, place, respBuf => do
    let first ← block.cell i
    if first.type = smbiosBiosInformation then do
      let unformatted ← textStringsSize first.textStrings
      let respBuf ← respBuf.write place first.area
      let respBuf ← copyText respBuf (place + biosInformationSize) unformatted first.textStrings
      copyLoop block left (i + 1) (place + biosInformationSize + unformatted.toNat) respBuf
    else some (respBuf, none)

/-- `pldm_get_smbios_structure_by_type_req`. -/
structure Request where
  dataTransferHandle : UInt32
  transferOperationFlag : UInt8
  type : UInt8
  structureInstanceId : UInt16

/-- The structures that a request is for: the index of the first, which is `none` for `-1`, and how
many, of which `-1` becomes 255; or a completion code. -/
def select (build : Build) (heap : Heap) (req : Request) (count : Nat) (block : Block) :
    Option (Except UInt8 (Option Nat × UInt8)) :=
  if req.structureInstanceId ≠ allInstances then
    (indexByHandle req.structureInstanceId block count 0).map fun start => .ok (start, 1)
  else if req.transferOperationFlag = getFirstPart then
    (maximumDataCount heap (build.maxDataSize - hdrLen) block count 0).map fun result =>
      .ok (some 0, result.getD 255)
  else if req.transferOperationFlag = getNextPart then do
    let start ← indexByHandle req.dataTransferHandle.toUInt16 block count 0
    let result ← maximumDataCount heap (build.maxDataSize - hdrLen) block count (start.getD 255)
    some (.ok (start, result.getD 255))
  else some (.error invalidTransferOperationFlag)

/-- The transfer flag, and the handle to go on with, if any. A flag that is not set is zero, as the
buffer is. -/
def transferPart (block : Block) (count start result : Nat) : Option (UInt8 × Option UInt16) :=
  if start = 0 then
    if result = count then some (transferFlagStartAndEnd, none)
    else (block.cell result).map fun next => (transferFlagStart, some next.handle)
  else if start + result = count then some (transferFlagEnd, none)
  else if start + result < count then
    (block.cell (start + result)).map fun next => (transferFlagMiddle, some next.handle)
  else some (0, none)

/-- `next_data_transfer_handle` is set when there is a next part. -/
def storeNext (respBuf : Buffer size) : Option UInt16 → Option (Buffer size)
  | none => some respBuf
  | some handle => respBuf.write (hdrLen + 1) (bytes16 handle ++ [0, 0])

/-- A response with structures. `resp_len` has the length of the data, or the `-1` in its stead. -/
def structuresResponse (respBuf : Buffer size) (block : Block) (count start result : Nat) :
    Option (Response size) := do
  let respBuf ← respBuf.write hdrLen [pldmSuccess]
  let (flag, next) ← transferPart block count start result
  let respBuf ← respBuf.write (hdrLen + 5) [flag]
  let respBuf ← storeNext respBuf next
  let (respBuf, last) ← copyLoop block result start (hdrLen + respSize) respBuf
  match last with
  | none => some ⟨respBuf, respSize - 1⟩
  | some place =>
    if place = hdrLen + respSize then complete respBuf invalidSmbiosStructureType 1
    else some ⟨respBuf, place - hdrLen⟩

def getSmbiosStructureDataByType (build : Build) (heap : Heap) (stored : Stored) (req : Request)
    (respBuf : Buffer build.maxDataSize) : Option (Response build.maxDataSize) :=
  if heap.malloc = false then some ⟨respBuf, 1⟩
  else if maximumHandleNum < req.dataTransferHandle.toNat then
    complete respBuf invalidDataTransferHandle 1
  else if maximumHandleNum < req.structureInstanceId.toNat ∧
      req.structureInstanceId ≠ allInstances then
    complete respBuf invalidSmbiosStructureInstanceId 1
  else do
    let (count, block) := filterStructureDataByType heap req.type stored.structures 0 (.alive [])
    let selected ← select build heap req count block
    match selected with
    | .error code => complete respBuf code 1
    | .ok (none, _) => complete respBuf noSmbiosStructures 1
    | .ok (some start, result) =>
      if count = 0 then complete respBuf noSmbiosStructures 1
      else if result = 0 then complete respBuf pldmErrorInvalidLength 1
      else structuresResponse respBuf block count start result.toNat

/-- What a requester reads from a response. -/
inductive Reply where
  | refused (code : UInt8)
  | page (next : UInt32) (flag : UInt8) (data : List UInt8)

def readReply (data : List UInt8) : Option Reply := do
  let code ← byteAt data 0
  if code = pldmSuccess then do
    let next ← fieldAt data 1 4
    let flag ← byteAt data 5
    some (.page (UInt32.ofNat next) flag (data.drop respSize))
  else some (.refused code)

/-! ## Sizes of text strings -/

variable {iter : List UInt8} {item : Structure} {start result : Nat}

theorem ends_drop (ended : ends iter = true) {count : Nat}
    (two : count + 2 ≤ iter.length) : ends (iter.drop count) = true := by
  induction count generalizing iter with
  | zero => exact ended
  | succ count ih =>
    match iter with
    | [] => cases two
    | [_] => simp at two
    | first :: second :: rest =>
      unfold ends at ended
      rw [length_cons] at two
      split at ended
      · have none : rest = [] := List.isEmpty_iff.mp ended
        rw [none, length_singleton] at two
        omega
      · exact ih ended (by omega)

theorem two_le_of_ends (ended : ends iter = true) : 2 ≤ iter.length := by
  match iter with
  | [] => cases ended
  | [_] => cases ended
  | _ :: _ :: _ => exact Nat.le_add_left _ _

theorem ends_two (ended : ends iter = true) (two : iter.length = 2) : iter = [0, 0] := by
  match iter with
  | [first, second] =>
    unfold ends at ended
    split at ended
    · rename_i zeros
      rw [zeros.1, zeros.2]
    · cases ended

theorem length_of_zeros (ended : ends iter = true) (first : iter.getD 0 0 = 0)
    (second : iter.getD 1 0 = 0) : iter.length = 2 := by
  match iter with
  | [] => cases ended
  | [_] => cases ended
  | one :: other :: rest =>
    have zeros : one = 0 ∧ other = 0 := ⟨first, second⟩
    unfold ends at ended
    rw [if_pos zeros] at ended
    rw [List.isEmpty_iff.mp ended]
    rfl

theorem strlen_ends (ended : ends iter = true) :
    ∃ count, strlen iter = some count ∧ count + 2 ≤ iter.length := by
  induction iter with
  | nil => cases ended
  | cons char rest ih =>
    have two := two_le_of_ends ended
    unfold strlen
    split
    · exact ⟨0, rfl, two⟩
    · rename_i plain
      match rest with
      | [] => simp at two
      | next :: rest =>
        unfold ends at ended
        rw [if_neg fun zeros => plain zeros.1] at ended
        obtain ⟨count, same, inside⟩ := ih ended
        exact ⟨count + 1, by rw [same]; rfl, by rw [length_cons]; omega⟩

/-- A turn stays inside the text strings, and finds the last string exactly where they end. -/
theorem turn_ends (ended : ends iter = true) :
    ∃ len last, turn iter = some (len, last) ∧ len.toNat + 2 ≤ iter.length ∧
      (last = true ↔ iter.length = len.toNat + 2) := by
  obtain ⟨count, same, inside⟩ := strlen_ends ended
  have short : (UInt8.ofNat count).toNat ≤ count := by
    exact Nat.mod_le _ _
  have ran : turn iter = (do
      let char ← byteAt iter (UInt8.ofNat count).toNat
      if char = 0 then (byteAt iter ((UInt8.ofNat count).toNat + 1)).map fun next =>
        (UInt8.ofNat count, decide (next = 0))
      else some (UInt8.ofNat count, false)) := by
    rw [turn, same]
    rfl
  generalize UInt8.ofNat count = len at short ran
  have behind := ends_drop ended (show len.toNat + 2 ≤ iter.length by omega)
  have long : (iter.drop len.toNat).length = iter.length - len.toNat := length_drop
  have first : (iter.drop len.toNat).getD 0 0 = iter.getD len.toNat 0 := by
    rw [getD_eq_getElem?_getD, getElem?_drop, getD_eq_getElem?_getD, Nat.add_zero]
  have second : (iter.drop len.toNat).getD 1 0 = iter.getD (len.toNat + 1) 0 := by
    rw [getD_eq_getElem?_getD, getElem?_drop, getD_eq_getElem?_getD]
  rw [byteAt_eq (by omega), bind_eq_bind, bind_some, byteAt_eq (by omega),
    map_some] at ran
  rw [ran, ← first, ← second]
  refine ⟨len, decide ((iter.drop len.toNat).getD 0 0 = 0 ∧ (iter.drop len.toNat).getD 1 0 = 0),
    ?_, by omega, ?_⟩
  · split
    · rename_i zero
      simp only [zero, true_and]
    · rename_i plain
      simp only [plain, false_and, decide_false]
  · rw [decide_eq_true_iff]
    constructor
    · intro zeros
      have two := length_of_zeros behind zeros.1 zeros.2
      omega
    · intro last
      rw [ends_two behind (by omega)]
      exact ⟨rfl, rfl⟩

/-- The loop adds up as many bytes as the text strings have. -/
theorem sizeLoop_eq (ended : ends iter = true) {turns : Nat}
    (enough : iter.length ≤ turns) (size i : UInt8) :
    sizeLoop turns iter size i = some (size + UInt8.ofNat iter.length) := by
  induction turns generalizing iter size i with
  | zero =>
    have two := two_le_of_ends ended
    omega
  | succ turns ih =>
    obtain ⟨len, last, ran, inside, found⟩ := turn_ends ended
    unfold sizeLoop
    rw [ran, bind_eq_bind, bind_some]
    dsimp only
    cases last with
    | true =>
      rw [if_pos rfl, found.mp rfl, UInt8.ofNat_add, UInt8.ofNat_toNat, UInt8.add_assoc,
        UInt8.add_assoc]
      rfl
    | false =>
      have more : iter.length ≠ len.toNat + 2 := fun same => absurd (found.mpr same) nofun
      have small : ¬ maximumStructureSize < (i + 1).toNat := by
        have byte := (i + 1).toNat_lt
        unfold maximumStructureSize
        omega
      have rest := ends_drop ended (show len.toNat + 1 + 2 ≤ iter.length by omega)
      have long : iter.length = len.toNat + 1 + (iter.drop (len.toNat + 1)).length := by
        rw [length_drop]
        omega
      rw [if_neg nofun, if_neg small, ih rest (by omega), long, UInt8.ofNat_add, UInt8.ofNat_add,
        UInt8.ofNat_toNat, UInt8.add_assoc]
      rfl

theorem textStringsSize_eq (textStrings : Option TextStrings) :
    textStringsSize textStrings =
      some (UInt8.ofNat ((textStrings.map TextStrings.bytes).getD []).length) := by
  cases textStrings with
  | none => rfl
  | some text =>
    rw [textStringsSize, sizeLoop_eq text.ended le_rfl]
    simp

/-! ## The block of pointers -/

def ofType (type : UInt8) (items : List Structure) : List Structure :=
  items.filter fun item => item.type = type

/-- Every extension succeeds in place. -/
def Heap.Grows (heap : Heap) (count : Nat) : Prop :=
  ∀ pointers, 0 < pointers → pointers ≤ count → heap.realloc pointers = .inPlace

variable {heap : Heap} {type : UInt8} {items cells : List Structure}

theorem ofType_cons_of_eq (same : item.type = type) (rest : List Structure) :
    ofType type (item :: rest) = item :: ofType type rest := by
  simp [ofType, same]

theorem ofType_cons_of_ne (other : item.type ≠ type) (rest : List Structure) :
    ofType type (item :: rest) = ofType type rest := by
  simp [ofType, other]

theorem filter_of_grows (grows : heap.Grows (cells.length + (ofType type items).length)) :
    filterStructureDataByType heap type items cells.length (.alive cells) =
      (cells.length + (ofType type items).length, .alive (cells ++ ofType type items)) := by
  induction items generalizing cells with
  | nil => simp [filterStructureDataByType, ofType]
  | cons item rest ih =>
    unfold filterStructureDataByType
    by_cases same : item.type = type
    · rw [ofType_cons_of_eq same, length_cons] at grows ⊢
      have here := grows (cells.length + 1) (Nat.succ_pos _) (by omega)
      have longer : (cells ++ [item]).length = cells.length + 1 := by
        rw [length_append, length_singleton]
      rw [if_pos same, here]
      dsimp only [Block.push]
      rw [← longer, ih (by rw [longer, Nat.add_right_comm]; exact grows), longer,
        append_assoc, singleton_append, Nat.add_right_comm]
      rfl
    · rw [ofType_cons_of_ne same] at grows ⊢
      rw [if_neg same]
      exact ih grows

theorem filter_freed (count : Nat) :
    (filterStructureDataByType heap type items count .freed).2 = .freed := by
  induction items generalizing count with
  | nil => rfl
  | cons item rest ih =>
    unfold filterStructureDataByType
    split
    · split
      · exact ih _
      · exact ih _
      · rfl
    · exact ih _

/-- A block that does not grow where it is leaves no pointers that can be used. -/
theorem filter_of_not_grows (alive : heap.Grows cells.length)
    (fails : ¬ heap.Grows (cells.length + (ofType type items).length)) :
    (filterStructureDataByType heap type items cells.length (.alive cells)).1 = 0 ∨
      (filterStructureDataByType heap type items cells.length (.alive cells)).2 = .freed := by
  induction items generalizing cells with
  | nil => exact absurd alive fails
  | cons item rest ih =>
    unfold filterStructureDataByType
    by_cases same : item.type = type
    · rw [ofType_cons_of_eq same, length_cons] at fails
      rw [if_pos same]
      cases grown : heap.realloc (cells.length + 1) with
      | moved => exact .inr (filter_freed _)
      | failed => exact .inl rfl
      | inPlace =>
        have longer : (cells ++ [item]).length = cells.length + 1 := by
          rw [length_append, length_singleton]
        rw [← longer]
        apply ih
        · intro pointers some few
          by_cases last : pointers = cells.length + 1
          · rw [last]
            exact grown
          · exact alive pointers some (by omega)
        · rw [longer, Nat.add_right_comm]
          exact fails
    · rw [ofType_cons_of_ne same] at fails
      rw [if_neg same]
      exact ih alive fails

/-! ## A page -/

/-- The structures are in the order of their handles, which tell them apart. -/
def Ordered (items : List Structure) : Prop :=
  items.Pairwise fun one other => one.handle < other.handle

theorem indexByHandle_eq (ordered : Ordered items) {start left i : Nat}
    (found : items[start]? = some item) (before : i ≤ start) (reached : start < i + left) :
    indexByHandle item.handle (.alive items) left i = some (some start) := by
  obtain ⟨inside, rfl⟩ := List.getElem?_eq_some_iff.mp found
  induction left generalizing i with
  | zero => omega
  | succ left ih =>
    have here : Block.cell (.alive items) i = some items[i] := getElem?_eq_getElem (by omega)
    unfold indexByHandle
    rw [here, bind_eq_bind, bind_some]
    by_cases same : i = start
    · subst same
      rw [if_pos rfl]
    · have less := List.pairwise_iff_getElem.mp ordered i start (by omega) inside (by omega)
      have other : items[i].handle ≠ items[start].handle := fun equal => by
        rw [equal] at less
        exact UInt16.lt_irrefl _ less
      rw [if_neg other]
      exact ih (by omega) (by omega)

def size8 (item : Structure) : UInt8 := UInt8.ofNat item.bytes.length

/-- A page of so many bytes, as the code counts them, has no room for a structure more. -/
def pageFull (maximum : Nat) (total : UInt8) (item : Structure) : Bool :=
  maximum < total.toNat + (size8 item).toNat

def pageAdd (total : UInt8) (item : Structure) : UInt8 := total + size8 item

theorem size8_eq (bios : item.type = smbiosBiosInformation) :
    formattedAreaSize smbiosBiosInformation + UInt8.ofNat item.text.length = size8 item := by
  rw [size8, Structure.bytes, length_append, item.bios bios, UInt8.ofNat_add]
  rfl

theorem countLoop_eq (bios : ∀ item ∈ items, item.type = smbiosBiosInformation) (maximum : Nat)
    {left i : Nat} (all : i + left = items.length) (total result : UInt8) :
    countLoop maximum (formattedAreaSize smbiosBiosInformation) (.alive items) left i total result =
      some (result + UInt8.ofNat (taken (pageFull maximum) pageAdd total (items.drop i))) := by
  induction left generalizing i total result with
  | zero =>
    rw [drop_of_length_le (by omega)]
    exact congrArg some (UInt8.add_zero result).symm
  | succ left ih =>
    have inside : i < items.length := by omega
    have here : Block.cell (.alive items) i = some items[i] := getElem?_eq_getElem inside
    have known := bios items[i] (getElem_mem inside)
    have text : textString items[i] = items[i].textStrings := if_pos known
    have current : formattedAreaSize smbiosBiosInformation +
        UInt8.ofNat (((items[i].textStrings.map TextStrings.bytes).getD []).length) =
        size8 items[i] := size8_eq known
    unfold countLoop
    rw [here, bind_eq_bind, bind_some, text, textStringsSize_eq,
      bind_eq_bind, bind_some, current, drop_eq_getElem_cons inside, taken]
    by_cases stuffed : maximum < total.toNat + (size8 items[i]).toNat
    · have full : pageFull maximum total items[i] = true := decide_eq_true stuffed
      rw [if_pos stuffed, full, if_pos rfl]
      exact congrArg some (UInt8.add_zero result).symm
    · have room : pageFull maximum total items[i] = false := decide_eq_false stuffed
      rw [if_neg stuffed, room, if_neg nofun, ih (by omega), UInt8.ofNat_add, UInt8.add_assoc,
        UInt8.add_comm 1]
      rfl

def copied (item : Structure) : List UInt8 :=
  item.area ++ item.text.take (UInt8.ofNat item.text.length).toNat

theorem toNat_ofNat_le (count : Nat) : (UInt8.ofNat count).toNat ≤ count := by
  exact Nat.mod_le _ _

theorem length_copied (bios : item.type = smbiosBiosInformation) :
    (copied item).length = biosInformationSize + (UInt8.ofNat item.text.length).toNat := by
  rw [copied, length_append, item.bios bios, length_take,
    Nat.min_eq_left (toNat_ofNat_le _)]

theorem copyText_eq (respBuf : Buffer size) (place : Nat) (item : Structure)
    (inside : place + (UInt8.ofNat item.text.length).toNat ≤ size) :
    ∃ after, copyText respBuf place (UInt8.ofNat item.text.length) item.textStrings = some after ∧
      after.Holds place (item.text.take (UInt8.ofNat item.text.length).toNat) ∧
      Buffer.KeptBefore place respBuf after := by
  unfold Structure.text at inside ⊢
  cases strings : item.textStrings with
  | none =>
    rw [strings] at inside
    exact ⟨respBuf, rfl, Buffer.holds_of_eq inside rfl, fun _ _ _ => id⟩
  | some text =>
    rw [strings] at inside
    have short := toNat_ofNat_le text.bytes.length
    have read : rangeAt text.bytes 0 (UInt8.ofNat text.bytes.length).toNat =
        some (text.bytes.take (UInt8.ofNat text.bytes.length).toNat) :=
      rangeAt_eq (by omega)
    have long : (text.bytes.take (UInt8.ofNat text.bytes.length).toNat).length =
        (UInt8.ofNat text.bytes.length).toNat := by
      rw [length_take, Nat.min_eq_left short]
    obtain ⟨after, wrote, -⟩ := respBuf.write_eq
      (text.bytes.take (UInt8.ofNat text.bytes.length).toNat)
      (show place + _ ≤ size by rw [long]; exact inside)
    exact ⟨after, Option.bind_eq_some_iff.mpr ⟨_, read, wrote⟩, Buffer.holds_write wrote,
      Buffer.keptBefore_write wrote⟩

theorem copyText_some {respBuf after : Buffer size} {place : Nat} (room : place ≤ size)
    (ran : copyText respBuf place (UInt8.ofNat item.text.length) item.textStrings = some after) :
    place + (UInt8.ofNat item.text.length).toNat ≤ size := by
  unfold Structure.text at ran ⊢
  cases strings : item.textStrings with
  | none => exact room
  | some text =>
    rw [strings] at ran
    obtain ⟨bytes, read, wrote⟩ := Option.bind_eq_some_iff.mp ran
    have long := length_of_rangeAt read
    have inside := (Buffer.write_some wrote).1
    rw [long] at inside
    exact inside

def pageOf (items : List Structure) (start count : Nat) : List Structure :=
  (items.drop start).take count

theorem pageOf_succ {start : Nat} (inside : start < items.length) (count : Nat) :
    pageOf items start (count + 1) = items[start] :: pageOf items (start + 1) count := by
  rw [pageOf, drop_eq_getElem_cons inside, take_succ_cons, pageOf]

theorem copyLoop_succ {i : Nat} (here : Block.cell (.alive items) i = some item)
    (known : item.type = smbiosBiosInformation) (left place : Nat) (respBuf : Buffer size) :
    copyLoop (.alive items) (left + 1) i place respBuf =
      (respBuf.write place item.area).bind fun respBuf =>
        (copyText respBuf (place + biosInformationSize) (UInt8.ofNat item.text.length)
          item.textStrings).bind (copyLoop (.alive items) left (i + 1)
          (place + biosInformationSize + (UInt8.ofNat item.text.length).toNat)) := by
  have sized : textStringsSize item.textStrings = some (UInt8.ofNat item.text.length) :=
    textStringsSize_eq item.textStrings
  rw [copyLoop, here, bind_eq_bind, bind_some, if_pos known, sized]
  rfl

/-- Structures that fit into the buffer are in it. -/
theorem copyLoop_eq (bios : ∀ item ∈ items, item.type = smbiosBiosInformation)
    (left i place : Nat) (respBuf : Buffer size) (all : i + left ≤ items.length)
    (inside : place + ((pageOf items i left).flatMap copied).length ≤ size) :
    ∃ after, copyLoop (.alive items) left i place respBuf =
        some (after, some (place + ((pageOf items i left).flatMap copied).length)) ∧
      after.Holds place ((pageOf items i left).flatMap copied) ∧
      Buffer.KeptBefore place respBuf after := by
  induction left generalizing i place respBuf with
  | zero => exact ⟨respBuf, rfl, Buffer.holds_of_eq inside rfl, fun _ _ _ => id⟩
  | succ left ih =>
    have index : i < items.length := by omega
    have here : Block.cell (.alive items) i = some items[i] := getElem?_eq_getElem index
    have known := bios items[i] (getElem_mem index)
    have long := length_copied known
    have area := items[i].bios known
    rw [pageOf_succ index, flatMap_cons, length_append] at inside ⊢
    obtain ⟨first, wrote, -⟩ := respBuf.write_eq items[i].area (show place + _ ≤ size by omega)
    obtain ⟨second, copies, holdsText, keptText⟩ :=
      copyText_eq first (place + biosInformationSize) items[i] (by omega)
    obtain ⟨after, ran, holdsRest, keptRest⟩ := ih (i + 1)
      (place + biosInformationSize + (UInt8.ofNat items[i].text.length).toNat) second
      (by omega) (by omega)
    have holdsArea := keptText _ _ (by rw [area]) (Buffer.holds_write wrote)
    have holdsFirst : second.Holds place (copied items[i]) :=
      holdsArea.append (by rw [area]; exact holdsText)
    have behind : place + biosInformationSize + (UInt8.ofNat items[i].text.length).toNat =
        place + (copied items[i]).length := by
      rw [long, Nat.add_assoc]
    rw [behind] at ran holdsRest keptRest
    refine ⟨after, ?_, (keptRest _ _ le_rfl holdsFirst).append holdsRest, ?_⟩
    · rw [← Nat.add_assoc, ← ran, ← behind]
      refine (copyLoop_succ here known left place respBuf).trans ?_
      rw [wrote, bind_some]
      exact (congrArg (· >>= _) copies).trans (bind_some _ _)
    · have kept := (Buffer.keptBefore_write wrote).trans (keptText.earlier (Nat.le_add_right _ _))
      exact kept.trans (keptRest.earlier (Nat.le_add_right _ _))

theorem copyLoop_some (bios : ∀ item ∈ items, item.type = smbiosBiosInformation)
    {left i place : Nat} {respBuf : Buffer size} {result : Buffer size × Option Nat}
    (all : i + left ≤ items.length) (room : place ≤ size)
    (ran : copyLoop (.alive items) left i place respBuf = some result) :
    place + ((pageOf items i left).flatMap copied).length ≤ size := by
  induction left generalizing i place respBuf with
  | zero => exact room
  | succ left ih =>
    have index : i < items.length := by omega
    have here : Block.cell (.alive items) i = some items[i] := getElem?_eq_getElem index
    have known := bios items[i] (getElem_mem index)
    have long := length_copied known
    have area := items[i].bios known
    rw [copyLoop_succ here known] at ran
    obtain ⟨first, wrote, ran⟩ := Option.bind_eq_some_iff.mp ran
    obtain ⟨second, copies, ran⟩ := Option.bind_eq_some_iff.mp ran
    have areaInside := (Buffer.write_some wrote).1
    rw [area] at areaInside
    have textInside := copyText_some areaInside copies
    have later := ih (by omega) textInside ran
    rw [pageOf_succ index, flatMap_cons, length_append]
    omega

/-! ## A reply with a page -/

/-- The flag of a last part. -/
def LastPart (flag : UInt8) : Prop := flag = transferFlagEnd ∨ flag = transferFlagStartAndEnd

theorem transferPart_eq (inside : start + result ≤ items.length) :
    ∃ flag next, transferPart (.alive items) items.length start result = some (flag, next) ∧
      (LastPart flag ↔ start + result = items.length) ∧
      ∀ item, items[start + result]? = some item → next = some item.handle := by
  unfold transferPart LastPart
  by_cases last : start + result = items.length
  · have none : items[start + result]? = none := getElem?_eq_none (Nat.le_of_eq last.symm)
    rw [none]
    by_cases front : start = 0
    · rw [if_pos front, if_pos (by omega)]
      exact ⟨_, _, rfl, iff_of_true (.inr rfl) last, nofun⟩
    · rw [if_neg front, if_pos last]
      exact ⟨_, _, rfl, iff_of_true (.inl rfl) last, nofun⟩
  · obtain ⟨item, here⟩ : ∃ item, items[start + result]? = some item :=
      ⟨_, getElem?_eq_getElem (show start + result < items.length by omega)⟩
    by_cases front : start = 0
    · have first : Block.cell (.alive items) result = some item := by
        rw [front, Nat.zero_add] at here
        exact here
      rw [if_pos front, if_neg (by omega), first]
      refine ⟨_, _, rfl, iff_of_false (by decide) last, fun other same => ?_⟩
      rw [here] at same
      rw [Option.some.inj same]
    · have later : Block.cell (.alive items) (start + result) = some item := here
      rw [if_neg front, if_neg last, if_pos (by omega), later]
      refine ⟨_, _, rfl, iff_of_false (by decide) last, fun other same => ?_⟩
      rw [here] at same
      rw [Option.some.inj same]

/-- The bytes of `next_data_transfer_handle`, which are zero in the last part. -/
def nextBytes : Option UInt16 → List UInt8
  | none => [0, 0, 0, 0]
  | some handle => bytes16 handle ++ [0, 0]

theorem length_nextBytes (next : Option UInt16) : (nextBytes next).length = 4 := by
  cases next <;> rfl

def nextHandle (next : Option UInt16) : UInt32 := (next.map UInt16.toUInt32).getD 0

theorem readReply_eq (next : Option UInt16) (flag : UInt8) (data : List UInt8) :
    readReply ([pldmSuccess] ++ (nextBytes next ++ ([flag] ++ data))) =
      some (.page (nextHandle next) flag data) := by
  cases next with
  | none => simp [readReply, nextBytes, nextHandle, byteAt, fieldAt, respSize, Library.Field.load]
  | some handle =>
    simp [readReply, nextBytes, nextHandle, byteAt, fieldAt, respSize, Library.Field.load, bytes16]
    have small := handle.toNat_lt
    apply UInt32.toNat_inj.mp
    simp
    omega

theorem storeNext_eq {respBuf : Buffer size} (next : Option UInt16)
    (unset : respBuf.Holds (hdrLen + 1) (List.replicate 4 0)) :
    ∃ after, storeNext respBuf next = some after ∧ after.Holds (hdrLen + 1) (nextBytes next) ∧
      ∀ place bytes, respBuf.Holds place bytes →
        (hdrLen + 5 ≤ place ∨ place + bytes.length ≤ hdrLen + 1) → after.Holds place bytes := by
  cases next with
  | none => exact ⟨respBuf, rfl, unset, fun _ _ holds _ => holds⟩
  | some handle =>
    obtain ⟨after, wrote, -⟩ := respBuf.write_eq (bytes16 handle ++ [0, 0]) unset.inside
    exact ⟨after, wrote, Buffer.holds_write wrote,
      fun place bytes holds apart => holds.write_apart wrote apart⟩

variable {build : Build}

theorem page_pos (bios : ∀ item ∈ items, item.type = smbiosBiosInformation)
    (some' : 0 < result) (inside : start + result ≤ items.length) :
    0 < ((pageOf items start result).flatMap copied).length := by
  obtain ⟨count, rfl⟩ := Nat.exists_eq_succ_of_ne_zero (Nat.ne_of_gt some')
  have index : start < items.length := by omega
  have long := length_copied (bios items[start] (getElem_mem index))
  have size : biosInformationSize = 26 := rfl
  rw [pageOf_succ index, flatMap_cons, length_append]
  omega

theorem structuresResponse_eq (bios : ∀ item ∈ items, item.type = smbiosBiosInformation)
    (hdr : Header) (some' : 0 < result) (inside : start + result ≤ items.length)
    (room : hdrLen + respSize + ((pageOf items start result).flatMap copied).length ≤
      build.maxDataSize) :
    ∃ response flag next, structuresResponse (respBuf build hdr) (.alive items) items.length start
        result = some response ∧
      response.sent = some ([pldmSuccess] ++ (nextBytes next ++ ([flag] ++
        (pageOf items start result).flatMap copied))) ∧
      (LastPart flag ↔ start + result = items.length) ∧
      ∀ item, items[start + result]? = some item → next = some item.handle := by
  have six : respSize = 6 := rfl
  obtain ⟨flag, next, part, last, more⟩ := transferPart_eq inside
  obtain ⟨first, wroteCode, -⟩ := (respBuf build hdr).write_eq [pldmSuccess]
    (show hdrLen + 1 ≤ build.maxDataSize by omega)
  obtain ⟨second, wroteFlag, -⟩ := first.write_eq [flag]
    (show hdrLen + 5 + 1 ≤ build.maxDataSize by omega)
  have zeros : (respBuf build hdr).Holds (hdrLen + 1) (List.replicate 4 0) :=
    holds_respBuf hdr (Nat.le_succ _) (by omega)
  have unset := (zeros.write_apart wroteCode (.inl le_rfl)).write_apart wroteFlag
    (.inr le_rfl)
  have codeSecond := (Buffer.holds_write wroteCode).write_apart wroteFlag
    (.inr (show hdrLen + 1 ≤ hdrLen + 5 by omega))
  obtain ⟨third, storedNext, holdsNext, keptNext⟩ := storeNext_eq next unset
  have codeThird := keptNext _ _ codeSecond (.inr le_rfl)
  have flagThird := keptNext _ _ (Buffer.holds_write wroteFlag) (.inl le_rfl)
  obtain ⟨after, ran, holdsPage, kept⟩ :=
    copyLoop_eq bios result start (hdrLen + respSize) third inside room
  have codeLast := kept _ _ (show hdrLen + 1 ≤ hdrLen + respSize by omega) codeThird
  have nextLast := kept _ _ (by rw [length_nextBytes]; omega) holdsNext
  have flagLast := (kept _ _ le_rfl flagThird).append holdsPage
  have behindNext : hdrLen + 5 = hdrLen + 1 + (nextBytes next).length := by
    rw [length_nextBytes]
  rw [behindNext] at flagLast
  have whole := codeLast.append (nextLast.append flagLast)
  have long : ([pldmSuccess] ++ (nextBytes next ++ ([flag] ++
      (pageOf items start result).flatMap copied))).length =
      hdrLen + respSize + ((pageOf items start result).flatMap copied).length - hdrLen := by
    simp only [length_append, length_nextBytes, length_singleton]
    omega
  have nonempty := page_pos bios some' inside
  refine ⟨⟨after, hdrLen + respSize + ((pageOf items start result).flatMap copied).length -
    hdrLen⟩, flag, next, ?_, ?_, last, more⟩
  · refine Option.bind_eq_some_iff.mpr ⟨first, wroteCode, ?_⟩
    refine Option.bind_eq_some_iff.mpr ⟨_, part, ?_⟩
    refine Option.bind_eq_some_iff.mpr ⟨second, wroteFlag, ?_⟩
    refine Option.bind_eq_some_iff.mpr ⟨third, storedNext, ?_⟩
    refine Option.bind_eq_some_iff.mpr ⟨_, ran, ?_⟩
    exact if_neg (by omega)
  · show after.read hdrLen _ = some _
    rw [← long]
    exact whole

theorem structuresResponse_some (bios : ∀ item ∈ items, item.type = smbiosBiosInformation)
    {respBuf : Buffer build.maxDataSize}
    {response : Response build.maxDataSize} (inside : start + result ≤ items.length)
    (ran : structuresResponse respBuf (.alive items) items.length start result = some response) :
    hdrLen + respSize + ((pageOf items start result).flatMap copied).length ≤
      build.maxDataSize := by
  obtain ⟨first, -, ran⟩ := Option.bind_eq_some_iff.mp ran
  obtain ⟨part, -, ran⟩ := Option.bind_eq_some_iff.mp ran
  obtain ⟨second, wroteFlag, ran⟩ := Option.bind_eq_some_iff.mp ran
  obtain ⟨third, -, ran⟩ := Option.bind_eq_some_iff.mp ran
  obtain ⟨copies, ran, -⟩ := Option.bind_eq_some_iff.mp ran
  have enough := (Buffer.write_some wroteFlag).1
  exact copyLoop_some bios inside enough ran

end OpenBic.Pldm.Smbios
