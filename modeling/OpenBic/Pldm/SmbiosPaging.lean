import OpenBic.Pldm.Smbios

/-!
# Paging of SMBIOS structures

A requester asks for the first part of the structures of a type, and then for the part with the
transfer handle that it was told, until a part is flagged as the last one. The code counts the bytes
of a page in eight bits, and leaves out the fixed part of the response.
-/

namespace OpenBic.Pldm.Smbios

open List Option Library.Checked Library.Cut OpenBic.Pldm.Command
open OpenBic.Pldm.Receive (hdrLen)
open OpenBic.Pldm.SensorEvent (pldmSuccess pldmErrorInvalidLength)

/-! ## What is claimed -/

/-- How a requester's paging ends. -/
inductive Ending where
  | ended
  | refused (code : UInt8)
deriving DecidableEq

/-- A device as a requester of all structures of a type finds it. -/
structure Device where
  build : Build
  hdr : Header
  heaps : Nat → Heap
  stored : Stored
  type : UInt8

def Device.reply (device : Device) (round : Nat) (req : Request) : Option Reply := do
  let response ← getSmbiosStructureDataByType device.build (device.heaps round) device.stored req
    (respBuf device.build device.hdr)
  let data ← response.sent
  readReply data

def Device.first (device : Device) : Request where
  dataTransferHandle := 0
  transferOperationFlag := getFirstPart
  type := device.type
  structureInstanceId := allInstances

def Device.next (device : Device) (handle : UInt32) : Request where
  dataTransferHandle := handle
  transferOperationFlag := getNextPart
  type := device.type
  structureInstanceId := allInstances

/-- The pages that a requester gets with at most so many requests, from one on. -/
def Device.paging (device : Device) : Nat → Nat → Request → Option (List (List UInt8) × Ending)
  | 0, _, _ => none
  | turns + 1, round, req => do
    let reply ← device.reply round req
    match reply with
    | .refused code => some ([], .refused code)
    | .page next flag data =>
      if flag = transferFlagEnd ∨ flag = transferFlagStartAndEnd then some ([data], .ended)
      else (device.paging turns (round + 1) (device.next next)).map fun later =>
        (data :: later.1, later.2)

def Device.structures (device : Device) : List Structure :=
  ofType device.type device.stored.structures

/-- The paging ends, with pages that hold the structures of the type byte for byte and in the order
of their handles, which tell them apart; or there are none and this is what the device says. -/
def Device.Paged (device : Device) : Prop :=
  ∃ turns pages ending, device.paging turns 0 device.first = some (pages, ending) ∧
    ((device.structures = [] ∧ pages = [] ∧ ending = .refused noSmbiosStructures) ∨
      ending = .ended ∧ device.structures.Pairwise (fun one other => one.handle < other.handle) ∧
        ∃ rows : List (List Structure), rows.flatten = device.structures ∧
          pages = rows.map fun row => row.flatMap Structure.bytes)

/-! ## Requests of a paging -/

/-- The allocator serves a request for so many structures where its block is. -/
structure Heap.Serves (heap : Heap) (count : Nat) : Prop where
  malloc : heap.malloc = true
  grows : heap.Grows count

variable {build : Build} {device : Device} {round : Nat}

def Device.limit (device : Device) : Nat := device.build.maxDataSize - hdrLen

/-- The structures of the type, cut into pages as the code counts them. -/
def Device.rows (device : Device) (items : List Structure) : List (List Structure) :=
  cut (pageFull device.limit) pageAdd 0 0 items

def Device.pageLen (device : Device) (start : Nat) : Nat :=
  taken (pageFull device.limit) pageAdd 0 (device.structures.drop start)

theorem Device.opens (device : Device) (item : Structure) :
    pageFull device.limit 0 item = false := by
  have enough := device.build.enough
  have byte := (size8 item).toNat_lt
  have four : hdrLen = 4 := rfl
  have zero : (0 : UInt8).toNat = 0 := rfl
  apply decide_eq_false
  rw [Device.limit, zero]
  omega

theorem Device.length_structures (device : Device) : device.structures.length < 256 :=
  Nat.lt_of_le_of_lt (length_filter_le _ _) device.stored.counted

theorem Device.pageLen_le (device : Device) (start : Nat) :
    device.pageLen start ≤ device.structures.length - start := by
  rw [← length_drop]
  exact taken_le 0 _

variable {start : Nat} {item : Structure} {req : Request} {page : List UInt8} {next : UInt32}
  {flag : UInt8} {code : UInt8}

theorem Device.pageLen_pos (inside : start < device.structures.length) :
    0 < device.pageLen start := by
  apply taken_pos device.opens
  rw [drop_eq_getElem_cons inside]
  exact cons_ne_nil _ _

theorem Device.type_of_mem (listed : item ∈ device.structures) : item.type = device.type :=
  of_decide_eq_true (List.mem_filter.mp listed).2

theorem Device.filtered (grows : (device.heaps round).Grows device.structures.length) :
    filterStructureDataByType (device.heaps round) device.type device.stored.structures 0
      (.alive []) = (device.structures.length, .alive device.structures) := by
  rw [← Nat.zero_add device.structures.length] at grows
  have all := @filter_of_grows _ device.type device.stored.structures [] grows
  rw [nil_append, length_nil, Nat.zero_add] at all
  exact all

theorem Device.maximumDataCount_eq (round : Nat) (bios : device.type = smbiosBiosInformation)
    (inside : start < device.structures.length) :
    maximumDataCount (device.heaps round) device.limit (.alive device.structures)
      device.structures.length start = some (some (UInt8.ofNat (device.pageLen start))) := by
  have all (item : Structure) (listed : item ∈ device.structures) :
      item.type = smbiosBiosInformation := (Device.type_of_mem listed).trans bios
  have first : Block.firstType (device.heaps round) (.alive device.structures) =
      some smbiosBiosInformation := by
    cases items : device.structures with
    | nil =>
      rw [items] at inside
      exact absurd inside (Nat.not_lt_zero _)
    | cons item rest =>
      rw [items] at all
      exact congrArg some (all item mem_cons_self)
  have counted := countLoop_eq all device.limit
    (show start + (device.structures.length - start) = device.structures.length by omega) 0 0
  rw [maximumDataCount, first, bind_eq_bind, bind_some]
  rw [if_neg (by decide), counted, UInt8.zero_add]
  rfl

def Device.pageReply (device : Device) (start : Nat) : Option Reply := do
  let response ← structuresResponse (respBuf device.build device.hdr) (.alive device.structures)
    device.structures.length start (device.pageLen start)
  let data ← response.sent
  readReply data

theorem Device.reply_eq (type : req.type = device.type)
    (instances : req.structureInstanceId = allInstances)
    (serves : (device.heaps round).Serves device.structures.length)
    (inside : start < device.structures.length)
    (handle : req.dataTransferHandle.toNat ≤ maximumHandleNum)
    (selected : select device.build (device.heaps round) req device.structures.length
      (.alive device.structures) = some (.ok (some start, UInt8.ofNat (device.pageLen start)))) :
    device.reply round req = device.pageReply start := by
  have counted := device.length_structures
  have few := device.pageLen_le start
  have some' := Device.pageLen_pos inside
  have small : (UInt8.ofNat (device.pageLen start)).toNat = device.pageLen start :=
    UInt8.toNat_ofNat_of_lt' (show _ < 256 by omega)
  have nonzero : UInt8.ofNat (device.pageLen start) ≠ 0 := fun zero => by
    rw [zero] at small
    have none : (0 : UInt8).toNat = 0 := rfl
    omega
  have filtered := Device.filtered serves.grows
  rw [← type] at filtered
  unfold Device.reply getSmbiosStructureDataByType Device.pageReply
  rw [if_neg (by rw [serves.malloc]; decide), if_neg (Nat.not_lt.mpr handle),
    if_neg (fun both => both.2 instances), filtered]
  dsimp only
  rw [selected]
  show (if device.structures.length = 0 then _ else if _ then _ else _) >>= _ = _
  rw [if_neg (by omega), if_neg nonzero, small]

theorem Device.select_first (bios : device.type = smbiosBiosInformation)
    (nonempty : 0 < device.structures.length) :
    select device.build (device.heaps round) device.first device.structures.length
      (.alive device.structures) = some (.ok (some 0, UInt8.ofNat (device.pageLen 0))) := by
  have counted := Device.maximumDataCount_eq round bios nonempty
  have instances : device.first.structureInstanceId = allInstances := rfl
  have first : device.first.transferOperationFlag = getFirstPart := rfl
  unfold Device.limit at counted
  rw [select, if_neg (not_not_intro instances), if_pos first, counted]
  rfl

theorem Device.select_next (bios : device.type = smbiosBiosInformation)
    (ordered : Ordered device.structures) (found : device.structures[start]? = some item) :
    select device.build (device.heaps round) (device.next item.handle.toUInt32)
      device.structures.length (.alive device.structures) =
      some (.ok (some start, UInt8.ofNat (device.pageLen start))) := by
  have inside := (List.getElem?_eq_some_iff.mp found).1
  have counted := Device.maximumDataCount_eq round bios inside
  have index := indexByHandle_eq ordered found (Nat.zero_le start)
    (show start < 0 + device.structures.length by omega)
  have handle : (device.next item.handle.toUInt32).dataTransferHandle.toUInt16 = item.handle :=
    UInt16.toUInt16_toUInt32 item.handle
  have instances : (device.next item.handle.toUInt32).structureInstanceId = allInstances := rfl
  have first : (device.next item.handle.toUInt32).transferOperationFlag ≠ getFirstPart :=
    show getNextPart ≠ getFirstPart by decide
  have next : (device.next item.handle.toUInt32).transferOperationFlag = getNextPart := rfl
  unfold Device.limit at counted
  rw [select, if_neg (not_not_intro instances), if_neg first, if_pos next, handle, index,
    bind_eq_bind, bind_some]
  dsimp only [getD_some]
  rw [counted]
  rfl

/-- A response has room for the bytes of a page behind the header and its fixed part. -/
def Device.Holds (device : Device) (bytes : Structure → List UInt8) (row : List Structure) : Prop :=
  hdrLen + respSize + (row.flatMap bytes).length ≤ device.build.maxDataSize

theorem Device.pageReply_eq (bios : device.type = smbiosBiosInformation)
    (inside : start < device.structures.length)
    (room : device.Holds copied (pageOf device.structures start (device.pageLen start))) :
    ∃ flag next, device.pageReply start = some (.page (nextHandle next) flag
        ((pageOf device.structures start (device.pageLen start)).flatMap copied)) ∧
      (LastPart flag ↔ start + device.pageLen start = device.structures.length) ∧
      ∀ item, device.structures[start + device.pageLen start]? = some item →
        next = some item.handle := by
  have few := device.pageLen_le start
  have all (item : Structure) (listed : item ∈ device.structures) :
      item.type = smbiosBiosInformation := (Device.type_of_mem listed).trans bios
  obtain ⟨response, flag, next, ran, sent, last, more⟩ := structuresResponse_eq all device.hdr
    (Device.pageLen_pos inside) (show start + _ ≤ device.structures.length by omega) room
  refine ⟨flag, next, ?_, last, more⟩
  refine Option.bind_eq_some_iff.mpr ⟨response, ran, ?_⟩
  exact Option.bind_eq_some_iff.mpr ⟨_, sent, readReply_eq next flag _⟩

theorem Device.pageReply_some (bios : device.type = smbiosBiosInformation)
    {reply : Reply} (inside : start < device.structures.length)
    (replied : device.pageReply start = some reply) :
    device.Holds copied (pageOf device.structures start (device.pageLen start)) := by
  have few := device.pageLen_le start
  have all (item : Structure) (listed : item ∈ device.structures) :
      item.type = smbiosBiosInformation := (Device.type_of_mem listed).trans bios
  obtain ⟨response, ran, -⟩ := Option.bind_eq_some_iff.mp replied
  exact structuresResponse_some all (show start + _ ≤ device.structures.length by omega) ran

/-! ## Requests that get no page -/

theorem readReply_short {data : List UInt8}
    (short : data.length ≤ 5) : readReply data ≠ some (.page next flag page) := by
  intro replied
  obtain ⟨code, -, replied⟩ := Option.bind_eq_some_iff.mp replied
  split at replied
  · obtain ⟨field, -, replied⟩ := Option.bind_eq_some_iff.mp replied
    obtain ⟨byte, read, -⟩ := Option.bind_eq_some_iff.mp replied
    have inside := lt_of_byteAt read
    omega
  · cases replied

theorem complete_no_page {respBuf : Buffer build.maxDataSize}
    {response : Response build.maxDataSize} (ran : complete respBuf code 1 = some response)
    {sent : List UInt8} (sends : response.sent = some sent) :
    readReply sent ≠ some (.page next flag page) := by
  obtain ⟨after, -, made⟩ := Option.bind_eq_some_iff.mp ran
  cases made
  have long : sent.length = 1 := length_of_rangeAt sends
  exact readReply_short (by omega)

theorem select_lost (instances : req.structureInstanceId = allInstances)
    {count start : Nat} {block : Block} {result : UInt8} (lost : count = 0 ∨ block = .freed)
    (selected : select build heap req count block = some (.ok (some start, result))) :
    count = 0 := by
  cases lost with
  | inl none => exact none
  | inr freed =>
    subst freed
    cases count with
    | zero => rfl
    | succ count =>
      rw [select, if_neg (not_not_intro instances)] at selected
      split at selected
      · cases selected
      · split at selected
        · cases selected
        · cases selected

/-- A page is only returned when there is a block that grew where it is. -/
theorem Device.serves_of_page (type : req.type = device.type)
    (instances : req.structureInstanceId = allInstances) (replied : device.reply round req = some (.page next flag page)) :
    (device.heaps round).Serves device.structures.length ∧ device.structures ≠ [] ∧
      req.dataTransferHandle.toNat ≤ maximumHandleNum := by
  obtain ⟨response, ran, rest⟩ := Option.bind_eq_some_iff.mp replied
  obtain ⟨sent, sends, read⟩ := Option.bind_eq_some_iff.mp rest
  unfold getSmbiosStructureDataByType at ran
  cases malloc : (device.heaps round).malloc with
  | false =>
    rw [if_pos malloc] at ran
    cases ran
    have long : sent.length = 1 := length_of_rangeAt sends
    exact absurd read (readReply_short (by omega))
  | true =>
    rw [if_neg (by rw [malloc]; decide)] at ran
    by_cases handle : maximumHandleNum < req.dataTransferHandle.toNat
    · rw [if_pos handle] at ran
      exact absurd read (complete_no_page ran sends)
    · rw [if_neg handle, if_neg (fun both => both.2 instances), type] at ran
      have found : ¬ ((filterStructureDataByType (device.heaps round) device.type
          device.stored.structures 0 (.alive [])).1 = 0 ∨
          (filterStructureDataByType (device.heaps round) device.type
          device.stored.structures 0 (.alive [])).2 = .freed) := by
        intro lost
        generalize filterStructureDataByType (device.heaps round) device.type
          device.stored.structures 0 (.alive []) = found at ran lost
        obtain ⟨count, block⟩ := found
        obtain ⟨selected, selects, ran⟩ := Option.bind_eq_some_iff.mp ran
        match selected with
        | .error code => exact complete_no_page ran sends read
        | .ok (none, _) => exact complete_no_page ran sends read
        | .ok (some start, result) =>
          have none : count = 0 := select_lost instances lost selects
          dsimp only at ran
          rw [if_pos none] at ran
          exact complete_no_page ran sends read
      have grows : (device.heaps round).Grows device.structures.length := by
        by_contra fails
        rw [← Nat.zero_add device.structures.length] at fails
        have start : (device.heaps round).Grows 0 := fun pointers some few => by omega
        exact found (@filter_of_not_grows _ _ device.stored.structures [] start fails)
      refine ⟨⟨malloc, grows⟩, fun nothing => ?_, Nat.not_lt.mp handle⟩
      have all := Device.filtered grows
      rw [all, nothing] at found
      exact found (.inl rfl)

theorem structuresResponse_other {rest : List Structure}
    (other : item.type ≠ smbiosBiosInformation) {respBuf : Buffer build.maxDataSize}
    {count : Nat} {response : Response build.maxDataSize}
    (ran : structuresResponse respBuf (.alive (item :: rest)) count 0 255 = some response)
    {sent : List UInt8} (sends : response.sent = some sent) : readReply sent ≠ some (.page next flag page) := by
  obtain ⟨first, -, ran⟩ := Option.bind_eq_some_iff.mp ran
  obtain ⟨part, -, ran⟩ := Option.bind_eq_some_iff.mp ran
  obtain ⟨second, -, ran⟩ := Option.bind_eq_some_iff.mp ran
  obtain ⟨third, -, ran⟩ := Option.bind_eq_some_iff.mp ran
  have none : copyLoop (.alive (item :: rest)) 255 0 (hdrLen + respSize) third =
      some (third, none) := by
    have here : Block.cell (.alive (item :: rest)) 0 = some item := rfl
    rw [copyLoop, here, bind_eq_bind, bind_some, if_neg other]
  obtain ⟨copies, copied, ran⟩ := Option.bind_eq_some_iff.mp ran
  rw [none] at copied
  cases copied
  cases ran
  have long : sent.length = 5 := length_of_rangeAt sends
  exact readReply_short (by omega)

theorem Device.bios_of_page
    (replied : device.reply round device.first = some (.page next flag page)) :
    device.type = smbiosBiosInformation := by
  by_contra other
  obtain ⟨serves, nonempty, handle⟩ := Device.serves_of_page rfl rfl replied
  have filtered := Device.filtered serves.grows
  obtain ⟨item, rest, items⟩ := exists_cons_of_ne_nil nonempty
  have known : item.type = device.type :=
    Device.type_of_mem (by rw [items]; exact mem_cons_self)
  have unknown : item.type ≠ smbiosBiosInformation := fun bios => other (known.symm.trans bios)
  have zero : formattedAreaSize item.type = 0 := if_neg unknown
  have instances : device.first.structureInstanceId = allInstances := rfl
  have flagFirst : device.first.transferOperationFlag = getFirstPart := rfl
  have type : device.first.type = device.type := rfl
  have counted : maximumDataCount (device.heaps round) (device.build.maxDataSize - hdrLen)
      (.alive (item :: rest)) (item :: rest).length 0 = some none := if_pos zero
  have selected : select device.build (device.heaps round) device.first (item :: rest).length
      (.alive (item :: rest)) = some (.ok (some 0, 255)) := by
    rw [select, if_neg (not_not_intro instances), if_pos flagFirst, counted]
    rfl
  obtain ⟨response, ran, later⟩ := Option.bind_eq_some_iff.mp replied
  obtain ⟨sent, sends, read⟩ := Option.bind_eq_some_iff.mp later
  unfold getSmbiosStructureDataByType at ran
  rw [items] at filtered
  rw [if_neg (by rw [serves.malloc]; decide), if_neg (Nat.not_lt.mpr handle),
    if_neg (fun both => both.2 instances), type, filtered] at ran
  dsimp only at ran
  rw [selected, bind_eq_bind, bind_some] at ran
  exact structuresResponse_other unknown ran sends read

/-! ## Pagings -/

/-- From a round on, every page has an allocator that serves it and room for its bytes, and is gone
on with at a handle that the code takes. -/
def Device.Served (device : Device) (bytes : Structure → List UInt8) :
    Nat → List (List Structure) → Prop
  | _, [] => True
  | round, row :: rows =>
    (device.heaps round).Serves device.structures.length ∧ device.Holds bytes row ∧
      (∀ next ∈ rows.head?, ∀ item ∈ next.head?, item.handle.toNat ≤ maximumHandleNum) ∧
      device.Served bytes (round + 1) rows

theorem Device.Served.congr {one other : Structure → List UInt8} {rows : List (List Structure)}
    (served : device.Served one round rows) (same : ∀ item ∈ rows.flatten, one item = other item) :
    device.Served other round rows := by
  induction rows generalizing round with
  | nil => trivial
  | cons row rest ih =>
    obtain ⟨serves, room, handles, later⟩ := served
    have here : row.flatMap one = row.flatMap other := by
      have each (item : Structure) (inRow : item ∈ row) : one item = other item :=
        same item (mem_append_left _ inRow)
      rw [flatMap_def, flatMap_def, map_congr_left each]
    refine ⟨serves, ?_, handles, ih later fun item listed =>
      same item (mem_append_right _ listed)⟩
    unfold Device.Holds at room ⊢
    rw [← here]
    exact room

theorem Device.rows_drop (device : Device) (start : Nat) :
    device.rows (device.structures.drop start) =
      pageOf device.structures start (device.pageLen start) ::
        if start + device.pageLen start < device.structures.length then
          device.rows (device.structures.drop (start + device.pageLen start))
        else [] := by
  unfold Device.rows
  rw [cut_eq device.opens, drop_drop]
  congr 1
  by_cases more : start + device.pageLen start < device.structures.length
  · rw [if_pos more, if_neg]
    · rfl
    · intro nothing
      exact Nat.not_le.mpr more (List.drop_eq_nil_iff.mp nothing)
  · rw [if_neg more, if_pos]
    exact List.drop_eq_nil_iff.mpr (Nat.not_lt.mp more)

/-- A request that is answered with the page from an index on, when the allocator serves it. -/
def Device.Asks (device : Device) (start : Nat) (req : Request) : Prop :=
  ∀ round, (device.heaps round).Serves device.structures.length →
    device.reply round req = device.pageReply start

theorem Device.asks_first (bios : device.type = smbiosBiosInformation)
    (nonempty : 0 < device.structures.length) : device.Asks 0 device.first :=
  fun _ serves => Device.reply_eq rfl rfl serves nonempty (Nat.zero_le _)
    (Device.select_first bios nonempty)

theorem Device.asks_next (bios : device.type = smbiosBiosInformation)
    (ordered : Ordered device.structures) (found : device.structures[start]? = some item)
    (handle : item.handle.toNat ≤ maximumHandleNum) :
    device.Asks start (device.next item.handle.toUInt32) := by
  intro round serves
  have inside := (List.getElem?_eq_some_iff.mp found).1
  have same : (device.next item.handle.toUInt32).dataTransferHandle.toNat = item.handle.toNat :=
    UInt16.toNat_toUInt32 item.handle
  exact Device.reply_eq rfl rfl serves inside (by rw [same]; exact handle)
    (Device.select_next bios ordered found)

theorem Device.head_rows (found : device.structures[start]? = some item) :
    ∃ row, (device.rows (device.structures.drop start)).head? = some row ∧
      row.head? = some item := by
  obtain ⟨inside, rfl⟩ := List.getElem?_eq_some_iff.mp found
  obtain ⟨count, same⟩ := Nat.exists_eq_succ_of_ne_zero
    (Nat.ne_of_gt (Device.pageLen_pos inside))
  refine ⟨_, by rw [device.rows_drop start]; rfl, ?_⟩
  rw [same, pageOf_succ inside]
  rfl

/-- A paging whose pages are served comes to its end with all of them. -/
theorem Device.paging_eq (bios : device.type = smbiosBiosInformation)
    (ordered : Ordered device.structures) (turns round : Nat)
    (asks : device.Asks start req) (inside : start < device.structures.length)
    (served : device.Served copied round (device.rows (device.structures.drop start)))
    (enough : device.structures.length - start ≤ turns) : device.paging turns round req = some
      ((device.rows (device.structures.drop start)).map fun row => row.flatMap copied, .ended) := by
  induction turns generalizing round start req with
  | zero => omega
  | succ turns ih =>
    have some' := Device.pageLen_pos inside
    have few := device.pageLen_le start
    rw [device.rows_drop start] at served ⊢
    obtain ⟨serves, room, handles, later⟩ := served
    obtain ⟨flag, next, replied, last, more⟩ := Device.pageReply_eq bios inside room
    unfold Device.paging
    rw [asks round serves, replied, bind_eq_bind, bind_some]
    dsimp only
    by_cases ends : start + device.pageLen start = device.structures.length
    · have flagged : flag = transferFlagEnd ∨ flag = transferFlagStartAndEnd := last.mpr ends
      rw [if_pos flagged, if_neg (by omega)]
      rfl
    · have unflagged : ¬ (flag = transferFlagEnd ∨ flag = transferFlagStartAndEnd) :=
        fun flagged => ends (last.mp flagged)
      have goesOn : start + device.pageLen start < device.structures.length := by omega
      have found := getElem?_eq_getElem goesOn
      obtain ⟨row, first, head⟩ := Device.head_rows found
      rw [if_pos goesOn] at handles later ⊢
      have handle := handles row first _ head
      rw [if_neg unflagged, more _ found]
      have onward := ih (round + 1) (Device.asks_next bios ordered found handle) goesOn later
        (by omega)
      exact congrArg (Option.map _) onward

theorem Device.page_of_paging {turns : Nat} {pages : List (List UInt8)}
    (ran : device.paging turns round req = some (pages, .ended)) :
    ∃ next flag data, device.reply round req = some (.page next flag data) := by
  cases turns with
  | zero => cases ran
  | succ turns =>
    obtain ⟨reply, replied, ran⟩ := Option.bind_eq_some_iff.mp ran
    cases reply with
    | refused code => cases ran
    | page next flag data => exact ⟨next, flag, data, replied⟩

/-- The pages of a paging that comes to its end are served. -/
theorem Device.paging_some (bios : device.type = smbiosBiosInformation)
    (ordered : Ordered device.structures) {turns round start : Nat}
    (type : req.type = device.type) (instances : req.structureInstanceId = allInstances)
    (asks : device.Asks start req) (inside : start < device.structures.length)
    {pages : List (List UInt8)} (ran : device.paging turns round req = some (pages, .ended)) :
    device.Served copied round (device.rows (device.structures.drop start)) ∧
      pages = (device.rows (device.structures.drop start)).map fun row => row.flatMap copied := by
  induction turns generalizing round start req pages with
  | zero => cases ran
  | succ turns ih =>
    have few := device.pageLen_le start
    obtain ⟨reply, replied, ran⟩ := Option.bind_eq_some_iff.mp ran
    cases reply with
    | refused code => cases ran
    | page handle flag data =>
      obtain ⟨serves, -, -⟩ := Device.serves_of_page type instances replied
      rw [asks round serves] at replied
      have room := Device.pageReply_some bios inside replied
      obtain ⟨_, next, same, last, more⟩ := Device.pageReply_eq bios inside room
      rw [same] at replied
      cases replied
      rw [device.rows_drop start]
      by_cases ends : start + device.pageLen start = device.structures.length
      · have flagged : flag = transferFlagEnd ∨ flag = transferFlagStartAndEnd := last.mpr ends
        dsimp only at ran
        rw [if_pos flagged] at ran
        rw [if_neg (by omega)]
        cases ran
        exact ⟨⟨serves, room, nofun, trivial⟩, rfl⟩
      · have unflagged : ¬ (flag = transferFlagEnd ∨ flag = transferFlagStartAndEnd) :=
          fun flagged => ends (last.mp flagged)
        have goesOn : start + device.pageLen start < device.structures.length := by omega
        have found := getElem?_eq_getElem goesOn
        obtain ⟨row, first, head⟩ := Device.head_rows found
        dsimp only at ran
        rw [if_neg unflagged, more _ found] at ran
        obtain ⟨⟨later, ending⟩, onward, made⟩ := Option.map_eq_some_iff.mp ran
        cases made
        obtain ⟨_, _, _, nextReply⟩ := Device.page_of_paging onward
        obtain ⟨-, -, handle⟩ := Device.serves_of_page rfl rfl nextReply
        have small : device.structures[start + device.pageLen start].handle.toNat ≤
            maximumHandleNum := by
          exact handle
        obtain ⟨served, rfl⟩ := ih rfl rfl (Device.asks_next bios ordered found small) goesOn onward
        rw [if_pos goesOn]
        refine ⟨⟨serves, room, fun other listed item inRow => ?_, served⟩, rfl⟩
        rw [first] at listed
        cases listed
        rw [head] at inRow
        cases inRow
        exact small

/-! ## Exactly when -/

/-- The device is asked for structures that it pages: BIOS information, stored in the order of
their handles with text strings of at most 255 bytes, whose pages are served; or it has none of the
type, and memory to find that out. -/
def Device.Pageable (device : Device) : Prop :=
  if device.structures = [] then
    (device.heaps 0).malloc = true ∧ (device.heaps 0).unset.isSome = true
  else
    device.type = smbiosBiosInformation ∧ Ordered device.structures ∧
      (∀ item ∈ device.structures, item.text.length < 256) ∧
      device.Served Structure.bytes 0 (device.rows device.structures)

theorem copied_eq (short : item.text.length < 256) : copied item = item.bytes := by
  rw [copied, UInt8.toNat_ofNat_of_lt' short, take_length, Structure.bytes]

theorem length_copied_le (item : Structure) :
    (copied item).length ≤ item.bytes.length ∧
      ((copied item).length = item.bytes.length → item.text.length < 256) := by
  have byte := (UInt8.ofNat item.text.length).toNat_lt
  rw [copied, Structure.bytes, length_append, length_append, length_take]
  omega

theorem short_of_length {items : List Structure}
    (same : (items.flatMap Structure.bytes).length ≤ (items.flatMap copied).length) :
    ∀ item ∈ items, item.text.length < 256 := by
  have fewer (items : List Structure) :
      (items.flatMap copied).length ≤ (items.flatMap Structure.bytes).length := by
    induction items with
    | nil => exact Nat.le_refl 0
    | cons item rest ih =>
      have first := (length_copied_le item).1
      rw [flatMap_cons, flatMap_cons, length_append, length_append]
      omega
  induction items with
  | nil => exact nofun
  | cons item rest ih =>
    rw [flatMap_cons, flatMap_cons, length_append, length_append] at same
    obtain ⟨less, short⟩ := length_copied_le item
    have others := fewer rest
    intro other listed
    cases List.mem_cons.mp listed with
    | inl here =>
      rw [here]
      exact short (by omega)
    | inr later => exact ih (by omega) other later

theorem flatten_rows {α : Type} (rows : List (List α)) (bytes : α → List UInt8) :
    (rows.map fun row => row.flatMap bytes).flatten = rows.flatten.flatMap bytes := by
  induction rows with
  | nil => rfl
  | cons row rest ih =>
    rw [map_cons, flatten_cons, flatten_cons, flatMap_append, ih]

theorem reply_of_complete (respBuf : Buffer build.maxDataSize) (error : code ≠ pldmSuccess) : (do
      let response ← complete respBuf code 1 let data ← response.sent
      readReply data) = some (.refused code) := by
  have enough := build.enough
  obtain ⟨after, wrote, -⟩ := respBuf.write_eq [code]
    (show hdrLen + 1 ≤ build.maxDataSize by rw [hdrLen]; omega)
  have sent : Response.sent ⟨after, 1⟩ = some [code] := Buffer.holds_write wrote
  refine Option.bind_eq_some_iff.mpr
    ⟨⟨after, 1⟩, Option.bind_eq_some_iff.mpr ⟨after, wrote, rfl⟩, ?_⟩
  refine Option.bind_eq_some_iff.mpr ⟨_, sent, ?_⟩
  show (if code = pldmSuccess then _ else some (Reply.refused code)) = _
  exact if_neg error

/-- Without structures of the type the device says so, if it has the memory to find that out. -/
theorem Device.reply_none (nothing : device.structures = []) (code : UInt8) :
    device.reply 0 device.first = some (.refused code) ↔
      (device.heaps 0).malloc = true ∧ (device.heaps 0).unset.isSome = true ∧
        code = noSmbiosStructures := by
  have grows : (device.heaps 0).Grows device.structures.length := fun pointers some few => by
    rw [nothing, length_nil] at few
    omega
  have filtered := Device.filtered grows
  rw [nothing] at filtered
  have enough := device.build.enough
  have instances : device.first.structureInstanceId = allInstances := rfl
  have flagFirst : device.first.transferOperationFlag = getFirstPart := rfl
  have handle : ¬ maximumHandleNum < device.first.dataTransferHandle.toNat :=
    Nat.not_lt.mpr (Nat.zero_le _)
  have type : device.first.type = device.type := rfl
  unfold Device.reply getSmbiosStructureDataByType
  cases malloc : (device.heaps 0).malloc with
  | false =>
    have sent : Response.sent ⟨respBuf device.build device.hdr, 1⟩ = some [0] :=
      show (respBuf device.build device.hdr).Holds hdrLen (List.replicate 1 0) from
        holds_respBuf device.hdr le_rfl (by rw [hdrLen]; omega)
    have none : readReply [0] = none := rfl
    rw [if_pos rfl, bind_eq_bind, bind_some, sent, bind_eq_bind,
      bind_some, none]
    exact iff_of_false nofun fun all => nomatch all.1
  | true =>
    rw [if_neg nofun, if_neg handle, if_neg (fun both => both.2 instances), type, filtered]
    dsimp only
    rw [select, if_neg (not_not_intro instances), if_pos flagFirst]
    cases unset : (device.heaps 0).unset with
    | none =>
      have lost : maximumDataCount (device.heaps 0) (device.build.maxDataSize - hdrLen) (.alive [])
          ([] : List Structure).length 0 = none := by
        rw [maximumDataCount, Block.firstType, unset]
        rfl
      rw [lost]
      exact iff_of_false nofun fun all => nomatch all.2.1
    | some other =>
      obtain ⟨result, counted⟩ : ∃ result, maximumDataCount (device.heaps 0)
          (device.build.maxDataSize - hdrLen) (.alive []) ([] : List Structure).length 0 =
          some result := by
        rw [maximumDataCount, Block.firstType, unset, bind_eq_bind, bind_some]
        dsimp only
        split
        · exact ⟨_, rfl⟩
        · exact ⟨_, rfl⟩
      rw [counted]
      have refused := reply_of_complete (respBuf device.build device.hdr)
        (show noSmbiosStructures ≠ pldmSuccess by decide)
      constructor
      · intro replied
        refine ⟨rfl, rfl, ?_⟩
        have same := replied.symm.trans refused
        cases same
        rfl
      · rintro ⟨-, -, rfl⟩
        exact refused

theorem Device.refused_of_paging {turns : Nat}
    (ran : device.paging turns round req = some ([], .refused code)) :
    device.reply round req = some (.refused code) := by
  cases turns with
  | zero => cases ran
  | succ turns =>
    obtain ⟨reply, replied, ran⟩ := Option.bind_eq_some_iff.mp ran
    cases reply with
    | refused other =>
      cases ran
      exact replied
    | page next flag data =>
      dsimp only at ran
      split at ran
      · cases ran
      · obtain ⟨later, -, made⟩ := Option.map_eq_some_iff.mp ran
        cases made

/-- A paging that is right is one of structures that the device pages. -/
theorem Device.Paged.pageable (paged : device.Paged) : device.Pageable := by
  obtain ⟨turns, pages, ending, ran, outcome⟩ := paged
  unfold Device.Pageable
  cases outcome with
  | inl none =>
    obtain ⟨nothing, rfl, rfl⟩ := none
    have refused := Device.refused_of_paging ran
    obtain ⟨malloc, unset, -⟩ := (Device.reply_none nothing _).mp refused
    rw [if_pos nothing]
    exact ⟨malloc, unset⟩
  | inr all =>
    obtain ⟨rfl, ordered, rows, flat, same⟩ := all
    obtain ⟨next, flag, data, replied⟩ := Device.page_of_paging ran
    obtain ⟨-, some', -⟩ := Device.serves_of_page rfl rfl replied
    have bios := Device.bios_of_page replied
    have nonempty : 0 < device.structures.length := length_pos_of_ne_nil some'
    obtain ⟨served, made⟩ := Device.paging_some bios ordered rfl rfl
      (Device.asks_first bios nonempty) nonempty ran
    rw [drop_zero] at served made
    have bytes : device.structures.flatMap copied = device.structures.flatMap Structure.bytes := by
      have flatCopied := flatten_rows (device.rows device.structures) copied
      have flatBytes := flatten_rows rows Structure.bytes
      rw [← made, same, flatBytes, flat, Device.rows, flatten_cut] at flatCopied
      exact flatCopied.symm
    have short := short_of_length (Nat.le_of_eq (congrArg List.length bytes.symm))
    have whole : (device.rows device.structures).flatten = device.structures :=
      flatten_cut 0 device.structures
    rw [if_neg some']
    refine ⟨bios, ordered, short, served.congr fun item listed => ?_⟩
    rw [whole] at listed
    exact copied_eq (short item listed)

/-- A paging of structures that the device pages is right. -/
theorem Device.Pageable.paged (pageable : device.Pageable) : device.Paged := by
  unfold Device.Pageable at pageable
  by_cases nothing : device.structures = []
  · rw [if_pos nothing] at pageable
    have refused := (Device.reply_none nothing noSmbiosStructures).mpr
      ⟨pageable.1, pageable.2, rfl⟩
    refine ⟨1, [], .refused noSmbiosStructures, ?_, .inl ⟨nothing, rfl, rfl⟩⟩
    exact Option.bind_eq_some_iff.mpr ⟨_, refused, rfl⟩
  · rw [if_neg nothing] at pageable
    obtain ⟨bios, ordered, short, served⟩ := pageable
    have nonempty : 0 < device.structures.length := length_pos_of_ne_nil nothing
    have whole : (device.rows device.structures).flatten = device.structures :=
      flatten_cut 0 device.structures
    have servedCopied : device.Served copied 0 (device.rows device.structures) := by
      apply served.congr
      intro item listed
      rw [whole] at listed
      exact (copied_eq (short item listed)).symm
    have ran := Device.paging_eq bios ordered device.structures.length 0
      (Device.asks_first bios nonempty) nonempty servedCopied le_rfl
    refine ⟨_, _, _, ran, .inr ⟨rfl, ordered, device.rows device.structures, whole, ?_⟩⟩
    apply map_congr_left
    intro row listed
    have all (item : Structure) (inRow : item ∈ row) : copied item = item.bytes := by
      apply copied_eq
      apply short
      rw [← whole]
      exact List.mem_flatten.mpr ⟨row, listed, inRow⟩
    rw [flatMap_def, flatMap_def, map_congr_left all]

/-- A structure is read back page by page exactly if each of its pages can be sent. -/
theorem paged_iff (device : Device) : device.Paged ↔ device.Pageable :=
  ⟨Device.Paged.pageable, Device.Pageable.paged⟩

def longText (handle : UInt8) : Structure where
  area := [0, 26, handle, 0] ++ List.replicate 22 0
  header := Nat.le_of_ble_eq_true rfl
  bios _ := rfl
  textStrings := some { bytes := List.replicate 228 0x41 ++ [0, 0], ended := by decide +kernel }

/-- A device with two of them, whose allocator has all the memory that is asked for. -/
def twoLong : Device where
  build := Build.default
  hdr := Header.zero
  heaps _ := { malloc := true, unset := some 0, realloc := fun _ => .inPlace }
  stored := { structures := [longText 0, longText 1], counted := by decide }
  type := smbiosBiosInformation

/-- The sum of their sizes is zero in eight bits, so both are put into the first page. -/
theorem twoLong_overrun : ¬ twoLong.Paged := by
  intro paged
  have pageable := paged.pageable
  have two : twoLong.structures = [longText 0, longText 1] := by decide +kernel
  have one : twoLong.rows [longText 0, longText 1] = [[longText 0, longText 1]] := by decide +kernel
  have large : ¬ twoLong.Holds Structure.bytes [longText 0, longText 1] := by
    unfold Device.Holds
    decide +kernel
  unfold Device.Pageable at pageable
  rw [if_neg (by rw [two]; exact cons_ne_nil _ _), two, one] at pageable
  exact large pageable.2.2.2.2.1

end OpenBic.Pldm.Smbios
