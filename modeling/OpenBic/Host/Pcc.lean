import OpenBic.Ipmi.CmdHandle
import OpenBic.Library.Ring
import OpenBic.Library.Tiling
import Mathlib.Data.List.Induction
import Mathlib.Data.List.Forall2
import Mathlib.Tactic.IntervalCases

/-!
# The 4-byte POST codes of a host

`pcc_rx_callback` and `copy_pcc_read_buffer` of `pcc.c`, and `OEM_1S_GET_4BYTE_POST_CODE` of
`oem_1s_handler.c`. A host writes bytes to four ports, and a byte to the last port completes a code.
The codes are written into a ring, and the handler copies pages of the latest ones out of it.
-/

namespace OpenBic.Pcc

open List Option Library Library.Ring Library.Splice Library.Tiling Ipmi

/-! ## The code -/

def pccBufferLen : Nat := 1024

def fourBytePostCodePageSize : Nat := 60

def ipmiMsgMaxLength : Nat := 527

/-- A byte that the host writes to a port. -/
structure PccEvent where
  data : UInt8
  addr : UInt8
  /-- What `pcc_platform_filter_postcode` answers when the byte completes a code. -/
  kept : Bool
deriving DecidableEq

def PccEvent.port (event : PccEvent) : Nat := (event.addr &&& 0x0F).toNat

/-- The codes, and the code that is not complete. -/
structure PccState where
  readBuffer : Nat → UInt32
  readLen : Nat
  readIndex : Nat
  fourByteData : UInt32

def PccState.start (readBuffer : Nat → UInt32) : PccState := ⟨readBuffer, 0, 0, 0⟩

/-- One turn of the loop of `pcc_rx_callback`, and the code that is stored in it. Nothing is known
of a shift by 32 bits or more, nor of a place behind the ring. -/
def pccRead (pcc : PccState) (event : PccEvent) : Option (PccState × List UInt32) :=
  if 4 ≤ event.port then none
  else
    let fourByteData := pcc.fourByteData |||
      (event.data.toUInt32 <<< UInt32.ofNat (8 * event.port))
    if event.port = 3 then
      if event.kept then
        if pcc.readIndex < pccBufferLen then
          some ({
            readBuffer := Function.update pcc.readBuffer pcc.readIndex fourByteData
            fourByteData := 0
            readLen := if pcc.readLen < pccBufferLen then pcc.readLen + 1 else pcc.readLen
            readIndex := if pcc.readIndex + 1 = pccBufferLen then 0 else pcc.readIndex + 1 },
            [fourByteData])
        else none
      else some ({ pcc with fourByteData := 0 }, [])
    else some ({ pcc with fourByteData }, [])

/-- What the driver calls back with: a ring of pairs of a byte and an address, and the pairs in it
that are new. -/
structure Delivery where
  rb : Nat → UInt8
  rbSz : Nat
  stIdx : Nat
  edIdx : Nat
  /-- What `pcc_platform_filter_postcode` answers at each place. -/
  kept : Nat → Bool
  pairs : rbSz % 2 = 0
  stInside : stIdx < rbSz ∧ stIdx % 2 = 0
  edInside : edIdx < rbSz ∧ edIdx % 2 = 0

def Delivery.event (delivery : Delivery) (i : Nat) : PccEvent :=
  ⟨delivery.rb i, delivery.rb (i + 1), delivery.kept i⟩

/-- The loop of `pcc_rx_callback`, for so many turns at most, and the codes that are stored. -/
def rxLoop (delivery : Delivery) : Nat → Nat → PccState → Option (PccState × List UInt32)
  | 0, _, _ => none
  | turns + 1, i, pcc => do
    let (pcc, stored) ← pccRead pcc (delivery.event i)
    let next := (i + 2) % delivery.rbSz
    if next ≠ delivery.edIdx then
      let (pcc, more) ← rxLoop delivery turns next pcc
      return (pcc, stored ++ more)
    else return (pcc, stored)

/-- `pcc_rx_callback`. The loop comes to its end before it has made a turn for each place. -/
def pccRxCallback (pcc : PccState) (delivery : Delivery) : Option (PccState × List UInt32) :=
  rxLoop delivery delivery.rbSz delivery.stIdx pcc

def codeByte (code : UInt32) (port : Nat) : UInt8 := (code >>> UInt32.ofNat (8 * port)).toUInt8

def codeBytes (code : UInt32) : List UInt8 := (List.range 4).map (codeByte code)

/-- The loop of `copy_pcc_read_buffer`, for so many turns at most. -/
def copyLoop (pcc : PccState) (start : Nat) : Nat → Nat → Nat → Option (List UInt8)
  | 0, _, _ => some []
  | turns + 1, i, currentIndex =>
    if i + start < pcc.readLen then
      if currentIndex < pccBufferLen then do
        let rest ← copyLoop pcc start turns (i + 1)
          (if currentIndex = 0 then pccBufferLen - 1 else currentIndex - 1)
        return codeBytes (pcc.readBuffer currentIndex) ++ rest
      else none
    else some []

/-- `copy_pcc_read_buffer`: what is copied to the front of the buffer. -/
def copyPccReadBuffer (pcc : PccState) (start length bufferLen : UInt16) : Option (List UInt8) :=
  if bufferLen.toNat < length.toNat * 4 then some []
  else
    let currentIndex : Int :=
      if start.toNat < pcc.readIndex then pcc.readIndex - start.toNat - 1
      else pcc.readIndex + pccBufferLen - start.toNat - 1
    copyLoop pcc start.toNat length.toNat 0 (currentIndex % 2 ^ 16).toNat

def oem1sGet4bytePostCode (pcc : PccState) (msg : HandlerMsg) : Option HandlerMsg :=
  if msg.dataLen ≠ 1 then some (msg.complete .invalidLength)
  else if 17 < msg.data 0 then some (msg.complete .invalidDataField)
  else do
    let copied ← copyPccReadBuffer pcc
      (UInt16.ofNat ((msg.data 0).toNat * fourBytePostCodePageSize))
      (UInt16.ofNat fourBytePostCodePageSize) (UInt16.ofNat ipmiMsgMaxLength)
    return {
      data := (msg.copied copied).data
      dataLen := copied.length % 256
      completionCode := .success }

/-! ## What is claimed -/

def callbacks : PccState → List Delivery → Option (PccState × List UInt32)
  | pcc, [] => some (pcc, [])
  | pcc, delivery :: rest => do
    let (pcc, stored) ← pccRxCallback pcc delivery
    let (pcc, more) ← callbacks pcc rest
    return (pcc, stored ++ more)

def Delivery.count (delivery : Delivery) : Nat :=
  if delivery.stIdx < delivery.edIdx then (delivery.edIdx - delivery.stIdx) / 2
  else (delivery.edIdx + delivery.rbSz - delivery.stIdx) / 2

def Delivery.events (delivery : Delivery) : List PccEvent :=
  (List.range delivery.count).map fun turn =>
    delivery.event ((delivery.stIdx + 2 * turn) % delivery.rbSz)

/-- The bytes that are written for each code that is stored, behind those that were written before:
they begin behind the last code that was complete. -/
def rounds (pending : List PccEvent) : List PccEvent → List (List PccEvent)
  | [] => []
  | event :: rest =>
    if event.port = 3 then
      if event.kept then (pending ++ [event]) :: rounds [] rest else rounds [] rest
    else rounds (pending ++ [event]) rest

def bytesTo (port : Nat) (writes : List PccEvent) : List UInt8 :=
  (writes.filter (·.port = port)).map (·.data)

/-- A code is composed of bytes that are written to the four ports, and of zeros for the ports to
which none is written. -/
def Composed (writes : List PccEvent) (code : UInt32) : Prop :=
  ∀ port < 4, codeByte code port ∈ bytesTo port writes ∨
    bytesTo port writes = [] ∧ codeByte code port = 0

def latest (stored : List UInt32) : List UInt32 := stored.reverse.take pccBufferLen

/-- The pages of a size, one behind the other, have the latest codes, each in its buffer, and the
page behind them is empty. -/
def PagesRight (pcc : PccState) (stored : List UInt32) (size bufferLen : UInt16) : Prop :=
  ∃ pages : List (List UInt8),
    (∀ page (inside : page < pages.length),
      copyPccReadBuffer pcc (UInt16.ofNat (page * size.toNat)) size bufferLen =
        some (pages.get ⟨page, inside⟩)) ∧
    (∀ page ∈ pages, page.length ≤ bufferLen.toNat) ∧
    pages.flatten = (latest stored).flatMap codeBytes ∧
    copyPccReadBuffer pcc (UInt16.ofNat (pages.length * size.toNat)) size bufferLen = some []

/-- Each page is answered with its codes, the latest first. -/
def AnswersPage (pcc : PccState) (stored : List UInt32) : Prop :=
  ∀ data : Nat → UInt8, data 0 ≤ 17 → ∃ answer,
    oem1sGet4bytePostCode pcc ⟨data, 1, .invalidCmd⟩ = some answer ∧
      answer.completionCode = .success ∧
      answer.bytes = (((latest stored).drop ((data 0).toNat * fourBytePostCodePageSize)).take
        fourBytePostCodePageSize).flatMap codeBytes

/-- Each code that is stored is composed of the bytes written for it, and the pages have the latest
codes. -/
def CodesRight (readBuffer : Nat → UInt32) (deliveries : List Delivery) : Prop :=
  ∃ pcc stored, callbacks (PccState.start readBuffer) deliveries = some (pcc, stored) ∧
    List.Forall₂ Composed (rounds [] (deliveries.flatMap Delivery.events)) stored ∧
    (∀ size bufferLen : UInt16, 0 < size.toNat → size.toNat * 4 ≤ bufferLen.toNat →
      PagesRight pcc stored size bufferLen) ∧
    AnswersPage pcc stored

/-- One of the bytes has every bit of the others. -/
def Covers (bytes : List UInt8) : Prop := ∃ byte ∈ bytes, ∀ other ∈ bytes, other ||| byte = byte

/-! ## The bytes of a code -/

section Bytes

variable {bytes : List UInt8} {writes : List PccEvent} {port : Nat}

def orAll (bytes : List UInt8) : UInt8 := bytes.foldl (· ||| ·) 0

def joined (code : UInt32) (event : PccEvent) : UInt32 :=
  code ||| (event.data.toUInt32 <<< UInt32.ofNat (8 * event.port))

def assembled (writes : List PccEvent) : UInt32 := writes.foldl joined 0

theorem codeByte_shifted (byte : UInt8) {place : Nat} (inside : place < 4) (few : port < 4) :
    codeByte (byte.toUInt32 <<< UInt32.ofNat (8 * port)) place =
      if port = place then byte else 0 := by
  have small := byte.toNat_lt
  have first : 8 * port % 2 ^ 32 % 32 = 8 * port := by omega
  have second : 8 * place % 2 ^ 32 % 32 = 8 * place := by omega
  have value : (codeByte (byte.toUInt32 <<< UInt32.ofNat (8 * port)) place).toNat =
      byte.toNat * 2 ^ (8 * port) % 2 ^ 32 / 2 ^ (8 * place) % 2 ^ 8 := by
    rw [codeByte, UInt32.toNat_toUInt8, UInt32.toNat_shiftRight, UInt32.toNat_shiftLeft,
      UInt8.toNat_toUInt32, UInt32.toNat_ofNat', UInt32.toNat_ofNat', Nat.shiftLeft_eq,
      Nat.shiftRight_eq_div_pow, first, second]
  apply UInt8.toNat_inj.mp
  rw [value]
  interval_cases port <;> interval_cases place <;> simp <;> omega

theorem codeByte_joined (code : UInt32) (event : PccEvent) (few : event.port < 4)
    (inside : port < 4) :
    codeByte (joined code event) port =
      codeByte code port ||| if event.port = port then event.data else 0 := by
  rw [← codeByte_shifted event.data inside few]
  unfold joined codeByte
  rw [UInt32.shiftRight_or, UInt32.toUInt8_or]

theorem bytesTo_append (event : PccEvent) :
    bytesTo port (writes ++ [event]) =
      bytesTo port writes ++ if event.port = port then [event.data] else [] := by
  unfold bytesTo
  rw [filter_append, map_append]
  by_cases same : event.port = port
  · rw [if_pos same, filter_cons_of_pos (by simpa using same), filter_nil, map_cons,
      map_nil]
  · rw [if_neg same, filter_cons_of_neg (by simpa using same), filter_nil, map_nil]

theorem orAll_append (byte : UInt8) : orAll (bytes ++ [byte]) = orAll bytes ||| byte := by
  unfold orAll
  rw [foldl_append, foldl_cons, foldl_nil]

theorem codeByte_assembled (few : ∀ event ∈ writes, event.port < 4) (inside : port < 4) :
    codeByte (assembled writes) port = orAll (bytesTo port writes) := by
  induction writes using List.reverseRecOn with
  | nil =>
    have all : ∀ place : Fin 4, codeByte 0 place = 0 := by decide
    exact all ⟨port, inside⟩
  | append_singleton writes event ih =>
    have last := few event (mem_append_right _ (mem_singleton_self _))
    have before := ih fun other listed => few other (mem_append_left _ listed)
    have more : assembled (writes ++ [event]) = joined (assembled writes) event := by
      unfold assembled
      rw [foldl_append, foldl_cons, foldl_nil]
    rw [more, codeByte_joined _ _ last inside, before, bytesTo_append]
    by_cases same : event.port = port
    · rw [if_pos same, if_pos same, orAll_append]
    · rw [if_neg same, if_neg same, append_nil, UInt8.or_zero]

theorem or_orAll {byte : UInt8} (listed : byte ∈ bytes) : byte ||| orAll bytes = orAll bytes := by
  induction bytes using List.reverseRecOn with
  | nil => cases listed
  | append_singleton bytes last ih =>
    rw [orAll_append]
    rcases List.mem_append.mp listed with before | here
    · rw [← UInt8.or_assoc, ih before]
    · obtain rfl := List.mem_singleton.mp here
      rw [UInt8.or_comm (orAll bytes), ← UInt8.or_assoc, UInt8.or_self]

theorem orAll_or {byte : UInt8} (covered : ∀ other ∈ bytes, other ||| byte = byte) :
    orAll bytes ||| byte = byte := by
  induction bytes using List.reverseRecOn with
  | nil => exact UInt8.zero_or
  | append_singleton bytes last ih =>
    have before := ih fun other listed => covered other (mem_append_left _ listed)
    have here := covered last (mem_append_right _ (mem_singleton_self _))
    rw [orAll_append, UInt8.or_assoc, here, before]

theorem orAll_mem_iff : orAll bytes ∈ bytes ↔ Covers bytes := by
  constructor
  · exact fun listed => ⟨orAll bytes, listed, fun other => or_orAll⟩
  · rintro ⟨byte, listed, covered⟩
    have same : orAll bytes = byte := by
      rw [← or_orAll listed, UInt8.or_comm, orAll_or covered]
    rw [same]
    exact listed

theorem composed_assembled_iff (few : ∀ event ∈ writes, event.port < 4) :
    Composed writes (assembled writes) ↔
      ∀ port < 4, bytesTo port writes = [] ∨ Covers (bytesTo port writes) := by
  refine forall₂_congr fun port inside => ?_
  rw [codeByte_assembled few inside, orAll_mem_iff, or_comm]
  have zero : bytesTo port writes = [] → orAll (bytesTo port writes) = 0 := fun none => by
    rw [none]
    rfl
  exact or_congr_left (and_iff_left_of_imp zero)

end Bytes

/-! ## The callback -/

section Callback

variable {pcc next : PccState} {pending : List PccEvent} {stored more : List UInt32}
variable {event : PccEvent} {events : List PccEvent} {delivery : Delivery}

def reads : PccState → List PccEvent → Option (PccState × List UInt32)
  | pcc, [] => some (pcc, [])
  | pcc, event :: rest => do
    let (pcc, stored) ← pccRead pcc event
    let (pcc, more) ← reads pcc rest
    return (pcc, stored ++ more)

theorem reads_append (pcc : PccState) (first second : List PccEvent) :
    reads pcc (first ++ second) = do
      let (pcc, stored) ← reads pcc first
      let (pcc, more) ← reads pcc second
      return (pcc, stored ++ more) := by
  induction first generalizing pcc with
  | nil =>
    simp only [nil_append, reads, bind_eq_bind, bind_some]
    cases reads pcc second with
    | none => rfl
    | some answer => rfl
  | cons event rest ih =>
    rw [cons_append, reads, reads]
    cases pccRead pcc event with
    | none => rfl
    | some answer =>
      simp only [bind_eq_bind, bind_some]
      rw [ih]
      cases reads answer.1 rest with
      | none => rfl
      | some between =>
        simp only [bind_eq_bind, bind_some, Option.pure_def]
        cases reads between.1 second with
        | none => rfl
        | some last =>
          simp only [bind_some, append_assoc]

/-- The loop reads the pairs from its place up to the last one. -/
theorem rxLoop_eq (delivery : Delivery) (turns count i : Nat) (enough : count < turns)
    (within : i < delivery.rbSz)
    (last : (i + 2 * (count + 1)) % delivery.rbSz = delivery.edIdx)
    (before : ∀ turn < count, (i + 2 * (turn + 1)) % delivery.rbSz ≠ delivery.edIdx)
    (pcc : PccState) :
    rxLoop delivery turns i pcc = reads pcc ((List.range (count + 1)).map fun turn =>
      delivery.event ((i + 2 * turn) % delivery.rbSz)) := by
  induction count generalizing turns i pcc with
  | zero =>
    obtain ⟨turns, rfl⟩ := Nat.exists_eq_add_of_lt enough
    have here : (i + 2 * 0) % delivery.rbSz = i := Nat.mod_eq_of_lt within
    rw [Nat.zero_add, Nat.zero_add, range_one, map_singleton, here, rxLoop, reads]
    cases pccRead pcc (delivery.event i) with
    | none => rfl
    | some answer =>
      have ends : ¬ (i + 2) % delivery.rbSz ≠ delivery.edIdx := fun apart => apart last
      simp only [bind_eq_bind, bind_some, if_neg ends, reads, append_nil,
        Option.pure_def]
  | succ count ih =>
    obtain ⟨turns, rfl⟩ : ∃ rest, turns = rest + 1 := ⟨turns - 1, by omega⟩
    have goes : (i + 2) % delivery.rbSz ≠ delivery.edIdx := before 0 (Nat.succ_pos _)
    have inside : (i + 2) % delivery.rbSz < delivery.rbSz := Nat.mod_lt _ (by omega)
    have place : ∀ turn, ((i + 2) % delivery.rbSz + 2 * turn) % delivery.rbSz =
        (i + 2 * (turn + 1)) % delivery.rbSz := by
      intro turn
      rw [Nat.mod_add_mod]
      congr 1
      omega
    have onward := ih turns ((i + 2) % delivery.rbSz) (by omega) inside
      (by rw [place]; exact last)
      (fun turn few => by rw [place]; exact before (turn + 1) (by omega))
    have here : (i + 2 * 0) % delivery.rbSz = i := Nat.mod_eq_of_lt within
    rw [range_succ_eq_map, map_cons, List.map_map, here, rxLoop, reads]
    cases pccRead pcc (delivery.event i) with
    | none => rfl
    | some answer =>
      simp only [bind_eq_bind, bind_some, if_pos goes, onward, place]
      rfl

theorem pccRxCallback_eq (pcc : PccState) (delivery : Delivery) :
    pccRxCallback pcc delivery = reads pcc delivery.events := by
  have whole := delivery.pairs
  obtain ⟨startInside, startEven⟩ := delivery.stInside
  obtain ⟨endInside, endEven⟩ := delivery.edInside
  unfold Delivery.events pccRxCallback
  obtain ⟨count, counted⟩ : ∃ count, delivery.count = count + 1 := by
    refine ⟨delivery.count - 1, ?_⟩
    unfold Delivery.count
    split <;> omega
  rw [counted]
  unfold Delivery.count at counted
  -- The place of the last pair and the places before it differ by less than the ring.
  apply rxLoop_eq delivery delivery.rbSz count delivery.stIdx ?_ startInside ?_ ?_ pcc
  · split at counted <;> omega
  · split at counted
    · rw [Nat.mod_eq_of_lt (by omega)]
      omega
    · rw [Nat.mod_eq_sub_mod (by omega), Nat.mod_eq_of_lt (by omega)]
      omega
  · intro turn few
    split at counted
    · rw [Nat.mod_eq_of_lt (by omega)]
      omega
    · by_cases wraps : delivery.stIdx + 2 * (turn + 1) < delivery.rbSz
      · rw [Nat.mod_eq_of_lt wraps]
        omega
      · rw [Nat.mod_eq_sub_mod (by omega), Nat.mod_eq_of_lt (by omega)]
        omega

theorem callbacks_eq (pcc : PccState) (deliveries : List Delivery) :
    callbacks pcc deliveries = reads pcc (deliveries.flatMap Delivery.events) := by
  induction deliveries generalizing pcc with
  | nil => rfl
  | cons delivery rest ih =>
    rw [flatMap_cons, reads_append, callbacks, pccRxCallback_eq]
    simp only [ih]

/-- The ring has the latest codes that are stored, and the code that is not complete has the bytes
that are written for it. -/
structure Holds (stored : List UInt32) (pending : List PccEvent) (pcc : PccState) : Prop where
  index : pcc.readIndex = stored.length % pccBufferLen
  len : pcc.readLen = min stored.length pccBufferLen
  recent : Recent pccBufferLen stored pcc.readBuffer
  data : pcc.fourByteData = assembled pending

theorem holds_start (readBuffer : Nat → UInt32) : Holds [] [] (PccState.start readBuffer) :=
  ⟨rfl, rfl, recent_nil _ _, rfl⟩

theorem Holds.joined (holds : Holds stored pending pcc) (event : PccEvent) :
    pcc.fourByteData ||| (event.data.toUInt32 <<< UInt32.ofNat (8 * event.port)) =
      assembled (pending ++ [event]) := by
  unfold assembled
  rw [foldl_append, foldl_cons, foldl_nil, holds.data]
  rfl

theorem Holds.store (holds : Holds stored pending pcc) (last : event.port = 3)
    (kept : event.kept = true) :
    ∃ next, pccRead pcc event = some (next, [assembled (pending ++ [event])]) ∧
      Holds (stored ++ [assembled (pending ++ [event])]) [] next := by
  have place : pcc.readIndex < pccBufferLen := by
    rw [holds.index]
    exact Nat.mod_lt _ (by decide)
  have few : ¬ 4 ≤ event.port := by omega
  have longer : (stored ++ [assembled (pending ++ [event])]).length = stored.length + 1 := by
    rw [length_append, length_singleton]
  unfold pccRead
  rw [if_neg few, holds.joined]
  rw [if_pos last, if_pos kept, if_pos place]
  refine ⟨_, rfl, ?_, ?_, ?_, rfl⟩
  · have index := holds.index
    unfold pccBufferLen at index ⊢
    dsimp only
    split <;> omega
  · have len := holds.len
    dsimp only
    split <;> omega
  · rw [holds.index]
    exact holds.recent.put _

theorem Holds.drop (holds : Holds stored pending pcc) (last : event.port = 3)
    (dropped : ¬ event.kept = true) :
    ∃ next, pccRead pcc event = some (next, []) ∧ Holds stored [] next := by
  have few : ¬ 4 ≤ event.port := by omega
  unfold pccRead
  rw [if_neg few]
  rw [if_pos last, if_neg dropped]
  exact ⟨_, rfl, holds.index, holds.len, holds.recent, rfl⟩

theorem Holds.join (holds : Holds stored pending pcc) (few : event.port < 4)
    (before : ¬ event.port = 3) :
    ∃ next, pccRead pcc event = some (next, []) ∧ Holds stored (pending ++ [event]) next := by
  unfold pccRead
  rw [if_neg (Nat.not_le_of_lt few), holds.joined]
  rw [if_neg before]
  exact ⟨_, rfl, holds.index, holds.len, holds.recent, rfl⟩

/-- The codes that are stored are those that are assembled from the bytes written for each. -/
theorem Holds.reads (holds : Holds stored pending pcc) (few : ∀ event ∈ events, event.port < 4) :
    ∃ next left, reads pcc events = some (next, (rounds pending events).map assembled) ∧
      Holds (stored ++ (rounds pending events).map assembled) left next := by
  induction events generalizing pcc stored pending with
  | nil =>
    refine ⟨pcc, pending, rfl, ?_⟩
    rw [rounds, map_nil, append_nil]
    exact holds
  | cons event rest ih =>
    have others : ∀ other ∈ rest, other.port < 4 := fun other listed =>
      few other (mem_cons_of_mem _ listed)
    rw [Pcc.reads, rounds]
    by_cases last : event.port = 3
    · rw [if_pos last]
      by_cases kept : event.kept = true
      · obtain ⟨between, read, after⟩ := holds.store last kept
        obtain ⟨next, left, ran, ends⟩ := ih after others
        rw [read, if_pos kept]
        rw [append_assoc] at ends
        refine ⟨next, left, ?_, ends⟩
        simp only [bind_eq_bind, bind_some, ran]
        rfl
      · obtain ⟨between, read, after⟩ := holds.drop last kept
        obtain ⟨next, left, ran, ends⟩ := ih after others
        rw [read, if_neg kept]
        refine ⟨next, left, ?_, ends⟩
        simp only [bind_eq_bind, bind_some, ran]
        rfl
    · obtain ⟨between, read, after⟩ := holds.join (few event mem_cons_self) last
      obtain ⟨next, left, ran, ends⟩ := ih after others
      rw [read, if_neg last]
      refine ⟨next, left, ?_, ends⟩
      simp only [bind_eq_bind, bind_some, ran]
      rfl

theorem port_of_reads {last : PccState × List UInt32} (ran : reads pcc events = some last) :
    ∀ event ∈ events, event.port < 4 := by
  induction events generalizing pcc last with
  | nil => exact fun event listed => absurd listed (by simp)
  | cons event rest ih =>
    obtain ⟨answer, read, ran⟩ := Option.bind_eq_some_iff.mp ran
    obtain ⟨more, onward, -⟩ := Option.bind_eq_some_iff.mp ran
    intro other listed
    rcases List.mem_cons.mp listed with rfl | behind
    · by_contra far
      unfold pccRead at read
      rw [if_pos (Nat.le_of_not_lt far)] at read
      exact Option.noConfusion rfl (heq_of_eq read)
    · exact ih onward other behind

theorem port_of_rounds {writes : List PccEvent} (before : ∀ event ∈ pending, event.port < 4)
    (few : ∀ event ∈ events, event.port < 4) (listed : writes ∈ rounds pending events) :
    ∀ event ∈ writes, event.port < 4 := by
  induction events generalizing pending with
  | nil => cases listed
  | cons event rest ih =>
    have others : ∀ other ∈ rest, other.port < 4 := fun other behind =>
      few other (mem_cons_of_mem _ behind)
    have grown : ∀ other ∈ pending ++ [event], other.port < 4 := by
      intro other inside
      rcases List.mem_append.mp inside with early | here
      · exact before other early
      · rw [List.mem_singleton.mp here]
        exact few event mem_cons_self
    have none : ∀ other ∈ ([] : List PccEvent), other.port < 4 := fun other inside =>
      absurd inside (by simp)
    rw [rounds] at listed
    split at listed
    · split at listed
      · rcases List.mem_cons.mp listed with rfl | behind
        · exact grown
        · exact ih none others behind
      · exact ih none others listed
    · exact ih grown others listed

end Callback

/-! ## The pages -/

section Pages

variable {pcc : PccState} {pending : List PccEvent} {stored : List UInt32}

theorem length_latest (stored : List UInt32) :
    (latest stored).length = min stored.length pccBufferLen := by
  rw [latest, length_take, length_reverse, Nat.min_comm]

theorem Holds.newest (holds : Holds stored pending pcc) {place : Nat}
    (inside : place < pcc.readLen) :
    (latest stored).drop place =
      pcc.readBuffer ((stored.length - 1 - place) % pccBufferLen) ::
        (latest stored).drop (place + 1) := by
  rw [holds.len, Nat.lt_min] at inside
  have found := holds.recent.newest place inside.2 inside.1
  have there : (latest stored)[place]? = some (pcc.readBuffer
      ((stored.length - 1 - place) % pccBufferLen)) := by
    rw [latest, getElem?_take, if_pos inside.2, found]
  obtain ⟨within, same⟩ := List.getElem?_eq_some_iff.mp there
  rw [← same]
  exact drop_eq_getElem_cons within

theorem Holds.copyLoop (holds : Holds stored pending pcc) (start turns i currentIndex : Nat)
    (place : i + start < pcc.readLen →
      currentIndex = (stored.length - 1 - (i + start)) % pccBufferLen) :
    copyLoop pcc start turns i currentIndex =
      some ((((latest stored).drop (i + start)).take turns).flatMap codeBytes) := by
  induction turns generalizing i currentIndex with
  | zero => rfl
  | succ turns ih =>
    rw [Pcc.copyLoop]
    split
    · rename_i inside
      have here := place inside
      have within : currentIndex < pccBufferLen := by
        rw [here]
        exact Nat.mod_lt _ (by decide)
      have onward := ih (i + 1) (if currentIndex = 0 then pccBufferLen - 1 else currentIndex - 1)
        (by
          intro more
          have len := holds.len
          unfold pccBufferLen at here len ⊢
          split <;> omega)
      rw [if_pos within, onward, holds.newest inside, take_succ_cons, flatMap_cons, here,
        Nat.add_right_comm]
      rfl
    · rename_i outside
      rw [drop_eq_nil_of_le, take_nil, flatMap_nil]
      rw [length_latest, ← holds.len]
      exact Nat.le_of_not_lt outside

theorem Holds.copyPccReadBuffer (holds : Holds stored pending pcc) {start length bufferLen : UInt16}
    (fits : length.toNat * 4 ≤ bufferLen.toNat) :
    copyPccReadBuffer pcc start length bufferLen =
      some ((((latest stored).drop start.toNat).take length.toNat).flatMap codeBytes) := by
  unfold Pcc.copyPccReadBuffer
  rw [if_neg (Nat.not_lt_of_le fits)]
  have copied := holds.copyLoop start.toNat length.toNat 0
  rw [Nat.zero_add] at copied
  apply copied
  intro inside
  have index := holds.index
  have len := holds.len
  unfold pccBufferLen at index len ⊢
  split <;> omega

theorem length_flatMap_codeBytes (codes : List UInt32) :
    (codes.flatMap codeBytes).length = codes.length * 4 := by
  induction codes with
  | nil => rfl
  | cons code rest ih =>
    rw [flatMap_cons, length_append, ih, length_cons, Nat.succ_mul, Nat.add_comm]
    rfl

/-- The pages of a size have the latest codes. -/
theorem Holds.pages (holds : Holds stored pending pcc) {size bufferLen : UInt16}
    (positive : 0 < size.toNat) (fits : size.toNat * 4 ≤ bufferLen.toNat) :
    PagesRight pcc stored size bufferLen := by
  have all : (latest stored).length ≤ 1024 := by
    rw [length_latest]
    exact Nat.min_le_right _ _
  let codes := latest stored
  let count := (codes.length + size.toNat - 1) / size.toNat
  have under : count * size.toNat ≤ codes.length + size.toNat - 1 := Nat.div_mul_le_self _ _
  have above : codes.length ≤ count * size.toNat := by
    have next := Nat.lt_mul_div_succ (codes.length + size.toNat - 1) positive
    rw [Nat.mul_add, Nat.mul_one, Nat.mul_comm] at next
    change _ < count * size.toNat + size.toNat at next
    omega
  have small : ∀ page ≤ count, (UInt16.ofNat (page * size.toNat)).toNat = page * size.toNat := by
    intro page before
    have below := Nat.mul_le_mul_right size.toNat before
    have bound := bufferLen.toNat_lt
    rw [UInt16.toNat_ofNat', Nat.mod_eq_of_lt]
    change codes.length ≤ 1024 at all
    omega
  have copied : ∀ page ≤ count, Pcc.copyPccReadBuffer pcc (UInt16.ofNat (page * size.toNat)) size
      bufferLen = some ((piece codes size.toNat page).flatMap codeBytes) := by
    intro page before
    rw [holds.copyPccReadBuffer fits, small page before]
    rfl
  refine ⟨(List.range count).map fun page => (piece codes size.toNat page).flatMap codeBytes,
    ?_, ?_, ?_, ?_⟩
  · intro page inside
    rw [length_map, length_range] at inside
    rw [copied page (Nat.le_of_lt inside), get_eq_getElem, getElem_map,
      getElem_range]
  · intro page listed
    obtain ⟨number, -, rfl⟩ := List.mem_map.mp listed
    rw [length_flatMap_codeBytes]
    refine Nat.le_trans (Nat.mul_le_mul_right 4 ?_) fits
    exact length_take_le _ _
  · rw [← flatMap_def, ← flatMap_assoc, flatMap_piece_all _ above]
  · rw [length_map, length_range, copied count le_rfl, piece,
      drop_eq_nil_of_le above, take_nil, flatMap_nil]

theorem Holds.answersPage (holds : Holds stored pending pcc) : AnswersPage pcc stored := by
  intro data inside
  have page : (data 0).toNat ≤ 17 := UInt8.le_iff_toNat_le.mp inside
  have start : (UInt16.ofNat ((data 0).toNat * fourBytePostCodePageSize)).toNat =
      (data 0).toNat * fourBytePostCodePageSize := by
    unfold fourBytePostCodePageSize
    rw [UInt16.toNat_ofNat', Nat.mod_eq_of_lt]
    omega
  have size : (UInt16.ofNat fourBytePostCodePageSize).toNat = fourBytePostCodePageSize := by decide
  have copied := @Holds.copyPccReadBuffer _ _ _ holds
    (UInt16.ofNat ((data 0).toNat * fourBytePostCodePageSize))
    (UInt16.ofNat fourBytePostCodePageSize) (UInt16.ofNat ipmiMsgMaxLength) (by decide)
  rw [start, size] at copied
  have short : ((((latest stored).drop ((data 0).toNat * fourBytePostCodePageSize)).take
      fourBytePostCodePageSize).flatMap codeBytes).length < 256 := by
    rw [length_flatMap_codeBytes]
    have few := length_take_le fourBytePostCodePageSize
      ((latest stored).drop ((data 0).toNat * fourBytePostCodePageSize))
    unfold fourBytePostCodePageSize at few ⊢
    omega
  unfold oem1sGet4bytePostCode
  rw [if_neg (fun apart => apart rfl), if_neg (UInt8.not_lt.mpr inside), copied]
  refine ⟨_, rfl, rfl, ?_⟩
  unfold HandlerMsg.bytes
  rw [Nat.mod_eq_of_lt short, range_copied]

end Pages

/-- For every sequence of callbacks, each code is composed of the bytes written for it and the pages
have the latest codes exactly if the bytes come from the four ports and, of those written to a port
for a code that is stored, one has all the bits of the others. -/
theorem codesRight_iff (readBuffer : Nat → UInt32) (deliveries : List Delivery) :
    CodesRight readBuffer deliveries ↔
      (∀ event ∈ deliveries.flatMap Delivery.events, event.port < 4) ∧
      ∀ writes ∈ rounds [] (deliveries.flatMap Delivery.events), ∀ port < 4,
        bytesTo port writes = [] ∨ Covers (bytesTo port writes) := by
  unfold CodesRight
  rw [callbacks_eq]
  have none : ∀ event ∈ ([] : List PccEvent), event.port < 4 := fun event listed =>
    absurd listed (by simp)
  constructor
  · rintro ⟨pcc, stored, ran, composed, -, -⟩
    have few := port_of_reads ran
    refine ⟨few, fun writes listed => ?_⟩
    obtain ⟨next, left, read, -⟩ := (holds_start readBuffer).reads few
    rw [ran] at read
    obtain ⟨-, rfl⟩ := Prod.mk.inj (Option.some.inj read)
    rw [List.forall₂_map_right_iff, List.forall₂_same] at composed
    exact (composed_assembled_iff (port_of_rounds none few listed)).mp (composed writes listed)
  · rintro ⟨few, covered⟩
    obtain ⟨next, left, read, holds⟩ := (holds_start readBuffer).reads few
    refine ⟨next, _, read, ?_, fun _ _ => holds.pages, holds.answersPage⟩
    rw [List.forall₂_map_right_iff, List.forall₂_same]
    intro writes listed
    exact (composed_assembled_iff (port_of_rounds none few listed)).mpr (covered writes listed)

/-- A ring with the bytes of one code, of which two are written to the first port. -/
def twiceFirst : Delivery where
  rb place := [0x0F, 0x40, 0xF0, 0x40, 0x00, 0x41, 0x00, 0x42, 0x00, 0x43].getD place 0
  rbSz := 12
  stIdx := 0
  edIdx := 10
  kept _ := true
  pairs := rfl
  stInside := by decide
  edInside := by decide

/-- The host writes `0x0F` and `0xF0` to the first port, and the code has `0xFF` there. -/
theorem twiceFirst_mixed : ¬ CodesRight (fun _ => 0) [twiceFirst] := by
  rintro ⟨pcc, stored, ran, composed, -, -⟩
  have mixed : (callbacks (PccState.start fun _ => 0) [twiceFirst]).map (·.2) = some [0xFF] := by
    decide +kernel
  rw [ran] at mixed
  cases mixed
  cases composed with
  | cons first rest => exact absurd (first 0 (by decide)) (by decide +kernel)

end OpenBic.Pcc
