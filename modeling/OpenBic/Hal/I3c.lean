import OpenBic.Library.Machine
import Mathlib.Data.List.Count
import Mathlib.Data.List.Nodup
import Mathlib.Logic.Function.Basic

/-!
# The table of I3C devices

`i3c_attach` and `i3c_detach` of `hal_i3c.c`, which keep the descriptors of the devices in a table,
and `i3c_controller_ibi_init`, `i3c_controller_ibi_read` and the callbacks, by which an in-band
interrupt of a device wakes its reader. The driver, which is another one's, has pointers into the
table. A reader ends a step where it waits for the semaphore, and one where it has it. A bus has a
mutex and the table has none; calls on two buses are taken not to overlap.
-/

namespace OpenBic.I3c

open List Option Function Library.Machine

/-! ## The code -/

def i3cMaxNum : Nat := 8

/-- `i3c_dev_desc`, without what no one reads. -/
structure I3cDevDesc where
  /-- The number of `bus`, unless it is a null pointer. -/
  bus : Option Nat
  assignedDynamicAddr : UInt8
  staticAddr : UInt8
  dynamicAddr : UInt8
  i2cMode : UInt8

/-- `k_sem`, with the readers that wait for it, of which the first one is woken first. -/
structure Semaphore where
  count : Nat
  waiters : List Nat

/-- `k_sem_init`, which drops those that wait. -/
def Semaphore.init : Semaphore := ⟨0, []⟩

/-- Where a reader is. -/
inductive Reader where
  | idle
  | waiting (device : Nat × UInt8) (idx : Nat)
  | woken (device : Nat × UInt8) (idx : Nat)

/-- The device that a reader reads from, and the place of its semaphore. -/
def Reader.reads : Reader → Option ((Nat × UInt8) × Nat)
  | .idle => none
  | .waiting device idx => some (device, idx)
  | .woken device idx => some (device, idx)

/-- The table, the semaphores and the readers, and what the driver has. -/
structure I3cState where
  descTable : List I3cDevDesc
  descCount : Nat
  /-- `ibi_complete` of `i3c_ibi_dev_table`, where it was initialised. -/
  ibiComplete : Nat → Option Semaphore
  readers : Nat → Reader
  registered : Nat × UInt8 → Option Nat
  attached : List (Nat × UInt8)

/-- The driver. -/
structure I3cMaster where
  /-- What `i3c_master_attach_device` makes of the descriptor of a device that it takes. -/
  attachDevice : Nat → I3cDevDesc → I3cDevDesc

/-- What the driver does with a device: it takes it, or leaves these values in its descriptor. -/
inductive Answer where
  | taken
  | refused (bus : Option Nat) (dynamicAddr : UInt8)

def I3cDevDesc.key (desc : I3cDevDesc) : Option (Nat × UInt8) :=
  desc.bus.map fun bus => (bus, desc.dynamicAddr)

/-- `find_matching_desc`, with the place. It looks at the whole table. -/
def findMatchingDesc (table : List I3cDevDesc) (bus : Nat) (addr : UInt8) : Option Nat :=
  table.findIdx? fun desc => desc.key = some (bus, addr)

/-- `get_bus_id`; its `-1` is `none`. Nothing is known of the name of a null pointer. -/
def getBusId (desc : I3cDevDesc) : Option (Option Nat) :=
  desc.bus.map fun bus => if i3cMaxNum < bus then none else some bus

/-- The loop of `find_dev_i3c_idx`, for so many turns, from a place on; its `-1` is `none`. -/
def devLoop (table : List I3cDevDesc) (busId : Nat) (addr : UInt8) :
    Nat → Nat → Option (Option Nat)
  | 0, _ => some none
  | turns + 1, i => do
    let desc ← table[i]?
    let tableBusId ← getBusId desc
    match tableBusId with
    | none => some none
    | some tableBusId =>
      if tableBusId = busId ∧ addr = desc.dynamicAddr then some (some i)
      else devLoop table busId addr turns (i + 1)

/-- `find_dev_i3c_idx` of a descriptor of the table. A negative index is used like any other, and
nothing is known of what is there. -/
def I3cState.findDevI3cIdx (state : I3cState) (place : Nat) : Option Nat := do
  let desc ← state.descTable[place]?
  let busId ← getBusId desc
  let busId ← busId
  let idx ← devLoop state.descTable busId desc.dynamicAddr state.descCount 0
  idx

def I3cState.attach (master : I3cMaster) (defined : Nat → Bool) (state : I3cState) (bus : Nat)
    (targetAddr : UInt8) (locked : Bool) (answer : Answer) : Option I3cState :=
  if i3cMaxNum ≤ bus then none
  else if defined bus = false then some state
  else if locked = false then some state
  else match findMatchingDesc state.descTable bus targetAddr with
    | some _ => some state
    | none => do
      let desc ← state.descTable[state.descCount]?
      let desc := { desc with
        assignedDynamicAddr := targetAddr
        staticAddr := targetAddr
        i2cMode := 0 }
      match answer with
      | .taken => some { state with
        descTable := state.descTable.set state.descCount (master.attachDevice bus desc)
        descCount := state.descCount + 1
        attached := state.attached ++ [(bus, targetAddr)] }
      | .refused bus dynamicAddr => some { state with
        descTable := state.descTable.set state.descCount { desc with bus, dynamicAddr } }

/-- The loop of `i3c_detach`, for so many turns, from a place on. -/
def shiftLoop : Nat → Nat → List I3cDevDesc → Option (List I3cDevDesc)
  | 0, _, table => some table
  | turns + 1, i, table => do
    let next ← table[i + 1]?
    shiftLoop turns (i + 1) (table.set i next)

/-- `i3c_detach`. The driver forgets the device that it lets go. -/
def I3cState.detach (defined : Nat → Bool) (state : I3cState) (bus : Nat) (targetAddr : UInt8)
    (locked accepted : Bool) : Option I3cState :=
  if i3cMaxNum ≤ bus then none
  else if defined bus = false then some state
  else if locked = false then some state
  else match findMatchingDesc state.descTable bus targetAddr with
    | none => some state
    | some pos =>
      if accepted = false then some state
      else do
        let descTable ← shiftLoop (state.descCount - pos) pos state.descTable
        some { state with
          descTable
          descCount := state.descCount - 1
          registered := update state.registered (bus, targetAddr) none
          attached := state.attached.erase (bus, targetAddr) }

def I3cState.setComplete (state : I3cState) (idx : Nat) (complete : Semaphore) : I3cState :=
  { state with ibiComplete := update state.ibiComplete idx (some complete) }

def I3cState.setReader (state : I3cState) (reader : Nat) (place : Reader) : I3cState :=
  { state with readers := update state.readers reader place }

/-- `i3c_controller_ibi_init`. -/
def I3cState.ibiInit (defined : Nat → Bool) (state : I3cState) (bus : Nat) (targetAddr : UInt8)
    (locked accepted : Bool) : Option I3cState :=
  if i3cMaxNum ≤ bus then none
  else if defined bus = false then some state
  else if locked = false then some state
  else match findMatchingDesc state.descTable bus targetAddr with
    | none => some state
    | some place => do
      let idx ← state.findDevI3cIdx place
      let state := state.setComplete idx .init
      if accepted then some { state with
        registered := update state.registered (bus, targetAddr) (some place) }
      else some state

/-- `i3c_controller_ibi_read` up to the semaphore, and on from there when it can be taken. -/
def I3cState.ibiRead (defined : Nat → Bool) (state : I3cState) (reader bus : Nat)
    (targetAddr : UInt8) : Option I3cState :=
  if i3cMaxNum ≤ bus then none
  else if defined bus = false then some state
  else match findMatchingDesc state.descTable bus targetAddr with
    | none => some state
    | some place => do
      let idx ← state.findDevI3cIdx place
      let complete ← state.ibiComplete idx
      if complete.count ≠ 0 then
        some ((state.setComplete idx { complete with count := 0 }).setReader reader
          (.woken (bus, targetAddr) idx))
      else
        let complete := { complete with waiters := complete.waiters ++ [reader] }
        some ((state.setComplete idx complete).setReader reader (.waiting (bus, targetAddr) idx))

/-- The rest of `i3c_controller_ibi_read`, as far as the semaphore. -/
def I3cState.resume (state : I3cState) (reader idx : Nat) : I3cState :=
  (state.setComplete idx .init).setReader reader .idle

def Reader.wake : Reader → Reader
  | .waiting device idx => .woken device idx
  | reader => reader

def I3cState.semGive (state : I3cState) (idx : Nat) : Option I3cState := do
  let complete ← state.ibiComplete idx
  match complete.waiters with
  | [] => some (state.setComplete idx { complete with count := 1 })
  | reader :: waiters =>
    some ((state.setComplete idx { complete with waiters }).setReader reader
      (state.readers reader).wake)

/-- The driver calls `ibi_write_requested` and `ibi_write_done` with a descriptor. -/
def I3cState.callBack (state : I3cState) (place : Nat) : Option I3cState := do
  let _ ← state.findDevI3cIdx place
  let idx ← state.findDevI3cIdx place
  state.semGive idx

/-- A device raises an in-band interrupt, which the driver takes from those it was told of. -/
def I3cState.raise (state : I3cState) (bus : Nat) (addr : UInt8) : Option I3cState :=
  match state.registered (bus, addr) with
  | none => some state
  | some place => state.callBack place

/-! ## What is claimed -/

def I3cState.start : I3cState where
  descTable := List.replicate i3cMaxNum ⟨none, 0, 0, 0, 0⟩
  descCount := 0
  ibiComplete := fun _ => none
  readers := fun _ => .idle
  registered := fun _ => none
  attached := []

/-- What can happen. -/
inductive I3cEvent where
  /-- `i3c_attach`, which gets the mutex or not, with what the driver does. -/
  | attach (bus : Nat) (addr : UInt8) (locked : Bool) (answer : Answer)
  /-- `i3c_detach`, which gets the mutex or not, and the driver does it or not. -/
  | detach (bus : Nat) (addr : UInt8) (locked accepted : Bool)
  /-- `i3c_controller_ibi_init`, which gets the mutex or not, and the driver does it or not. -/
  | ibiInit (bus : Nat) (addr : UInt8) (locked accepted : Bool)
  /-- A reader that does not read calls `i3c_controller_ibi_read`. -/
  | ibiRead (reader bus : Nat) (addr : UInt8)
  | resume (reader : Nat)
  | raise (bus : Nat) (addr : UInt8)

/-- One step. Nothing is known behind a use of what is not in a table. -/
def step (master : I3cMaster) (defined : Nat → Bool) (state : I3cState) :
    I3cEvent → Option I3cState
  | .attach bus addr locked answer => state.attach master defined bus addr locked answer
  | .detach bus addr locked accepted => state.detach defined bus addr locked accepted
  | .ibiInit bus addr locked accepted => state.ibiInit defined bus addr locked accepted
  | .ibiRead reader bus addr =>
    match state.readers reader with
    | .idle => state.ibiRead defined reader bus addr
    | _ => some state
  | .resume reader =>
    match state.readers reader with
    | .woken _ idx => some (state.resume reader idx)
    | _ => some state
  | .raise bus addr => state.raise bus addr

/-- The table has each attached device once and nothing else, and an interrupt of a device wakes the
reader that waits for it. -/
structure I3cRight (state : I3cState) : Prop where
  few : state.descCount ≤ i3cMaxNum
  once : ∀ bus addr, (state.descTable.take state.descCount).countP
    (fun desc => desc.key = some (bus, addr)) = if (bus, addr) ∈ state.attached then 1 else 0
  others : ∀ bus addr, (findMatchingDesc state.descTable bus addr).isSome ↔
    (bus, addr) ∈ state.attached
  wakes : ∀ reader bus addr idx, state.readers reader = .waiting (bus, addr) idx →
    state.registered (bus, addr) ≠ none →
    ∃ next, state.raise bus addr = some next ∧ next.readers reader = .woken (bus, addr) idx

/-- No one reads from a device. -/
def I3cState.Unread (state : I3cState) (device : Nat × UInt8) : Prop :=
  ∀ reader idx, (state.readers reader).reads ≠ some (device, idx)

/-- What the driver does with the descriptor of a device that it takes. -/
structure Documented (master : I3cMaster) : Prop where
  bus : ∀ bus desc, (master.attachDevice bus desc).bus = some bus
  dynamicAddr : ∀ bus desc,
    (master.attachDevice bus desc).dynamicAddr = desc.assignedDynamicAddr

/-- A step does not go wrong: the bus is one of those there are; a device that is not known is only
attached when there is room, and a refusing driver leaves no bus in the descriptor; a device is only
detached from a table that is not full, when no one reads from it and the driver was not told of a
device behind it; a device that is read from is not initialised again; and a device is read from
when the driver was told of it, and by one reader. -/
def Orderly (defined : Nat → Bool) (state : I3cState) : I3cEvent → Prop
  | .attach bus addr locked answer => bus < i3cMaxNum ∧
    (defined bus = true → locked = true → findMatchingDesc state.descTable bus addr = none →
      state.descCount < i3cMaxNum ∧
      ∀ left dynamicAddr, answer = .refused left dynamicAddr → left = none)
  | .detach bus addr locked accepted => bus < i3cMaxNum ∧
    (defined bus = true → locked = true → accepted = true →
      ∀ pos, findMatchingDesc state.descTable bus addr = some pos →
        state.descCount < i3cMaxNum ∧ state.Unread (bus, addr) ∧
        ∀ device place, state.registered device = some place → place ≤ pos)
  | .ibiInit bus addr locked _ => bus < i3cMaxNum ∧
    (defined bus = true → locked = true → state.Unread (bus, addr))
  | .ibiRead reader bus addr => bus < i3cMaxNum ∧
    (state.readers reader = .idle → defined bus = true →
      (findMatchingDesc state.descTable bus addr).isSome →
        state.registered (bus, addr) ≠ none ∧ state.Unread (bus, addr))
  | .resume _ => True
  | .raise _ _ => True

/-! ## The table -/

section Table

variable {table : List I3cDevDesc} {attached : List (Nat × UInt8)} {count place turns : Nat}
  {device : Nat × UInt8} {desc : I3cDevDesc}

/-- A table has the descriptors of the devices in its first entries, and no others. -/
structure Describes (table : List I3cDevDesc) (attached : List (Nat × UInt8)) : Prop where
  sized : table.length = i3cMaxNum
  few : attached.length ≤ i3cMaxNum
  keys : ∀ (place : Nat) device, attached[place]? = some device →
    ∃ desc : I3cDevDesc, table[place]? = some desc ∧ desc.key = some device
  nodup : attached.Nodup
  free : ∀ (place : Nat) (desc : I3cDevDesc), attached.length ≤ place → table[place]? = some desc →
    desc.bus = none
  buses : ∀ device ∈ attached, device.1 < i3cMaxNum

theorem key_eq_some_iff : desc.key = some device ↔
    desc.bus = some device.1 ∧ desc.dynamicAddr = device.2 := by
  unfold I3cDevDesc.key
  rw [map_eq_some_iff]
  constructor
  · rintro ⟨bus, here, rfl⟩
    exact ⟨here, rfl⟩
  · rintro ⟨here, same⟩
    exact ⟨device.1, here, Prod.ext rfl same⟩

/-- The place of a device in the table is its place among the devices. -/
theorem Describes.find_iff (describes : Describes table attached) :
    findMatchingDesc table device.1 device.2 = some place ↔ attached[place]? = some device := by
  have entry : ∀ (other : Nat) (desc : I3cDevDesc), table[other]? = some desc →
      desc.key = some device → attached[other]? = some device := by
    intro other desc here same
    by_cases inside : other < attached.length
    · obtain ⟨found, there, key⟩ := describes.keys other _ (getElem?_eq_getElem inside)
      have one : found = desc := Option.some.inj (there.symm.trans here)
      rw [getElem?_eq_getElem inside, ← key, one, same]
    · have free := describes.free other desc (by omega) here
      have bus := (key_eq_some_iff.mp same).1
      rw [free] at bus
      cases bus
  unfold findMatchingDesc
  rw [findIdx?_eq_some_iff_getElem]
  constructor
  · rintro ⟨inside, same, -⟩
    exact entry place _ (getElem?_eq_getElem inside) (of_decide_eq_true same)
  · intro here
    obtain ⟨desc, there, key⟩ := describes.keys place device here
    obtain ⟨inside, same⟩ := List.getElem?_eq_some_iff.mp there
    refine ⟨inside, decide_eq_true (same ▸ key), fun other before found => ?_⟩
    have earlier := entry other _ (getElem?_eq_getElem (Nat.lt_trans before inside))
      (of_decide_eq_true found)
    obtain ⟨firstInside, first⟩ := List.getElem?_eq_some_iff.mp earlier
    obtain ⟨lastInside, last⟩ := List.getElem?_eq_some_iff.mp here
    have equal := (describes.nodup.getElem_inj_iff).mp (first.trans last.symm)
    omega

theorem Describes.find_none_iff (describes : Describes table attached) :
    findMatchingDesc table device.1 device.2 = none ↔ device ∉ attached := by
  constructor
  · intro none listed
    obtain ⟨place, here⟩ := getElem?_of_mem listed
    rw [describes.find_iff.mpr here] at none
    cases none
  · intro absent
    cases found : findMatchingDesc table device.1 device.2 with
    | none => rfl
    | some place => exact absurd (mem_of_getElem? (describes.find_iff.mp found)) absent

theorem Describes.getBusId_eq (describes : Describes table attached)
    (here : attached[place]? = some device) (key : desc.key = some device) :
    getBusId desc = some (some device.1) := by
  have bus := (key_eq_some_iff.mp key).1
  have small := describes.buses device (mem_of_getElem? here)
  unfold getBusId
  rw [bus, map_some, if_neg (by omega)]

/-- The loop over the table finds a device behind the places that it has passed. -/
theorem Describes.devLoop_eq (describes : Describes table attached)
    (here : attached[place]? = some device) {i : Nat} (passed : i ≤ place)
    (whole : i + turns = attached.length) :
    devLoop table device.1 device.2 turns i = some (some place) := by
  have inside : place < attached.length := (List.getElem?_eq_some_iff.mp here).1
  induction turns generalizing i with
  | zero => omega
  | succ turns ih =>
    have within : i < attached.length := by omega
    have other := getElem?_eq_getElem within
    obtain ⟨desc, there, key⟩ := describes.keys i _ other
    have busId := describes.getBusId_eq other key
    rw [devLoop, there]
    dsimp only [bind_eq_bind, bind_some]
    rw [busId, bind_some]
    dsimp only
    by_cases same : attached[i].1 = device.1 ∧ device.2 = desc.dynamicAddr
    · have address := (key_eq_some_iff.mp key).2
      have equal : attached[i] = device :=
        Prod.ext same.1 (address.symm.trans same.2.symm)
      obtain ⟨_, last⟩ := List.getElem?_eq_some_iff.mp here
      have place : i = place := (describes.nodup.getElem_inj_iff).mp (equal.trans last.symm)
      rw [if_pos same, place]
    · have apart : i ≠ place := by
        rintro rfl
        obtain ⟨_, last⟩ := List.getElem?_eq_some_iff.mp here
        have address := (key_eq_some_iff.mp key).2
        exact same ⟨congrArg Prod.fst last, (congrArg Prod.snd last).symm.trans address.symm⟩
      rw [if_neg same]
      exact ih (by omega) (by omega)

theorem Describes.countP_eq (describes : Describes table attached) (device : Nat × UInt8) :
    (table.take attached.length).countP (fun desc => desc.key = some device) =
      if device ∈ attached then 1 else 0 := by
  have keys : (table.take attached.length).map I3cDevDesc.key = attached.map some := by
    apply ext_getElem?
    intro place
    rw [getElem?_map, getElem?_map, getElem?_take]
    by_cases inside : place < attached.length
    · have here := getElem?_eq_getElem inside
      obtain ⟨desc, there, key⟩ := describes.keys place _ here
      rw [if_pos inside, there, here, map_some, map_some, key]
    · rw [if_neg inside, getElem?_eq_none (by omega)]
      rfl
  have counted : (table.take attached.length).countP (fun desc => desc.key = some device) =
      ((table.take attached.length).map I3cDevDesc.key).count (some device) := by
    rw [List.count, countP_map]
    refine countP_congr fun desc _ => ?_
    rw [decide_eq_true_iff, Function.comp_apply, beq_iff_eq]
  rw [counted, keys, count_map_of_injective _ _ (fun _ _ => Option.some.inj),
    describes.nodup.count]

/-- A device that is attached is in the table. -/
theorem Describes.attach (describes : Describes table attached) (absent : device ∉ attached)
    (room : attached.length < i3cMaxNum) (bus : device.1 < i3cMaxNum)
    (key : desc.key = some device) :
    Describes (table.set attached.length desc) (attached ++ [device]) := by
  have length : (attached ++ [device]).length = attached.length + 1 := by
    rw [length_append, length_singleton]
  have inside : attached.length < table.length := by
    rw [describes.sized]
    exact room
  refine ⟨?_, by omega, ?_, ?_, ?_, ?_⟩
  · rw [length_set]
    exact describes.sized
  · intro place other here
    by_cases before : place < attached.length
    · rw [getElem?_append_left before] at here
      rw [getElem?_set_ne (by omega)]
      exact describes.keys place other here
    · have last : place = attached.length := by
        have within := (List.getElem?_eq_some_iff.mp here).1
        omega
      rw [last, getElem?_concat_length] at here
      rw [last, getElem?_set_self inside, ← Option.some.inj here]
      exact ⟨desc, rfl, key⟩
  · exact describes.nodup.append (nodup_singleton _) (by simpa using absent)
  · intro place other behind here
    rw [getElem?_set_ne (by omega)] at here
    exact describes.free place other (by omega) here
  · intro other listed
    rcases List.mem_append.mp listed with before | last
    · exact describes.buses other before
    · rw [List.mem_singleton.mp last]
      exact bus

theorem Describes.refuse (describes : Describes table attached) (bus : desc.bus = none) :
    Describes (table.set attached.length desc) attached := by
  refine ⟨?_, describes.few, ?_, describes.nodup, ?_, describes.buses⟩
  · rw [length_set]
    exact describes.sized
  · intro place other here
    have inside := (List.getElem?_eq_some_iff.mp here).1
    rw [getElem?_set_ne (by omega)]
    exact describes.keys place other here
  · intro place other behind here
    by_cases same : attached.length = place
    · rw [← same] at here
      have one : desc = other := by
        rw [getElem?_set] at here
        rw [if_pos rfl] at here
        split at here
        · exact Option.some.inj here
        · cases here
      rw [← one]
      exact bus
    · rw [getElem?_set_ne same] at here
      exact describes.free place other behind here

theorem shiftLoop_eq (i : Nat) (inside : i + turns < table.length) :
    ∃ shifted, shiftLoop turns i table = some shifted ∧ shifted.length = table.length ∧
      ∀ place, shifted[place]? =
        if i ≤ place ∧ place < i + turns then table[place + 1]? else table[place]? := by
  induction turns generalizing i table with
  | zero =>
    refine ⟨table, rfl, rfl, fun place => ?_⟩
    rw [if_neg (by omega)]
  | succ turns ih =>
    have next : table[i + 1]? = some table[i + 1] :=
      getElem?_eq_getElem (show i + 1 < table.length by omega)
    obtain ⟨shifted, ran, length, entries⟩ :=
      @ih (table.set i table[i + 1]) (i + 1) (by rw [length_set]; omega)
    rw [length_set] at length
    refine ⟨shifted, ?_, length, fun place => ?_⟩
    · rw [shiftLoop, next]
      exact ran
    · rw [entries place]
      by_cases first : place = i
      · rw [first, if_neg (by omega), if_pos (by omega), next,
          getElem?_set_self (by omega)]
      · have apart : i ≠ place := fun same => first same.symm
        rw [getElem?_set_ne apart]
        by_cases within : i + 1 ≤ place ∧ place < i + 1 + turns
        · rw [if_pos within, if_pos (by omega), getElem?_set_ne (by omega)]
        · rw [if_neg within, if_neg (by omega)]

theorem Describes.detach (describes : Describes table attached)
    (here : attached[place]? = some device) (room : attached.length < i3cMaxNum) :
    ∃ shifted, shiftLoop (attached.length - place) place table = some shifted ∧
      Describes shifted (attached.eraseIdx place) := by
  have inside := (List.getElem?_eq_some_iff.mp here).1
  have size := describes.sized
  have length : (attached.eraseIdx place).length = attached.length - 1 :=
    length_eraseIdx_of_lt inside
  obtain ⟨shifted, ran, sized, entries⟩ :=
    @shiftLoop_eq table (attached.length - place) place (by omega)
  refine ⟨shifted, ran, by omega, by omega, ?_, ?_, ?_, ?_⟩
  · intro other found there
    rw [getElem?_eraseIdx] at there
    rw [entries]
    split at there
    · rw [if_neg (by omega)]
      exact describes.keys other found there
    · have within := (List.getElem?_eq_some_iff.mp there).1
      rw [if_pos (by omega)]
      exact describes.keys (other + 1) found there
  · exact describes.nodup.eraseIdx place
  · intro other desc behind there
    rw [entries] at there
    split at there
    · exact describes.free (other + 1) desc (by omega) there
    · exact describes.free other desc (by omega) there
  · intro other listed
    exact describes.buses other (mem_of_mem_eraseIdx listed)

end Table

/-! ## Steps -/

/-- The table describes the attached devices, the driver has the places of those that it was told
of, and a semaphore has the reader that waits for its device. -/
structure Sound (state : I3cState) : Prop where
  describes : Describes state.descTable state.attached
  counted : state.descCount = state.attached.length
  registered : ∀ device place, state.registered device = some place →
    state.attached[place]? = some device ∧ (state.ibiComplete place).isSome
  reading : ∀ reader device idx, (state.readers reader).reads = some (device, idx) →
    state.registered device = some idx
  alone : ∀ reader other device first second,
    (state.readers reader).reads = some (device, first) →
    (state.readers other).reads = some (device, second) → reader = other
  waiters : ∀ device place complete, state.registered device = some place →
    state.ibiComplete place = some complete →
    complete.waiters.length ≤ 1 ∧
      ∀ reader, reader ∈ complete.waiters ↔ state.readers reader = .waiting device place

section Steps

variable {state next : I3cState} {master : I3cMaster} {defined : Nat → Bool} {place : Nat}
  {device : Nat × UInt8} {desc : I3cDevDesc}

theorem Sound.registered_inj (sound : Sound state) {other : Nat × UInt8}
    (first : state.registered device = some place)
    (second : state.registered other = some place) : device = other := by
  have here := (sound.registered device place first).1
  have there := (sound.registered other place second).1
  exact Option.some.inj (here.symm.trans there)

theorem Sound.findDevI3cIdx_eq (sound : Sound state)
    (here : state.attached[place]? = some device) : state.findDevI3cIdx place = some place := by
  obtain ⟨desc, there, key⟩ := sound.describes.keys place device here
  have busId := sound.describes.getBusId_eq here key
  have found := sound.describes.devLoop_eq here (Nat.zero_le _) (Nat.zero_add _)
  have address := (key_eq_some_iff.mp key).2
  unfold I3cState.findDevI3cIdx
  rw [there]
  dsimp only [bind_eq_bind, bind_some]
  rw [busId, bind_some, bind_some, address, sound.counted, found, bind_some]

theorem Sound.waiters_eq (sound : Sound state) {reader : Nat} {complete : Semaphore}
    (waits : state.readers reader = .waiting device place)
    (here : state.ibiComplete place = some complete) : complete.waiters = [reader] := by
  have registered := sound.reading reader device place (by rw [waits]; rfl)
  obtain ⟨few, listed⟩ := sound.waiters device place complete registered here
  have member := (listed reader).mpr waits
  obtain ⟨other, single⟩ : ∃ other, complete.waiters = [other] :=
    List.length_eq_one_iff.mp (Nat.le_antisymm few (length_pos_of_mem member))
  rw [single] at member ⊢
  rw [List.mem_singleton.mp member]

theorem Sound.wakes (sound : Sound state) {reader bus : Nat} {addr : UInt8}
    (waits : state.readers reader = .waiting (bus, addr) place) :
    ∃ next, state.raise bus addr = some next ∧
      next.readers reader = .woken (bus, addr) place := by
  have registered := sound.reading reader (bus, addr) place (by rw [waits]; rfl)
  obtain ⟨here, initialised⟩ := sound.registered (bus, addr) place registered
  obtain ⟨complete, there⟩ := Option.isSome_iff_exists.mp initialised
  have idx := sound.findDevI3cIdx_eq here
  have queue := sound.waiters_eq waits there
  unfold I3cState.raise I3cState.callBack I3cState.semGive
  rw [registered]
  dsimp only [bind_eq_bind]
  rw [idx, bind_some, bind_some, there, bind_some, queue]
  refine ⟨_, rfl, ?_⟩
  change update state.readers reader _ reader = _
  rw [update_self, waits]
  rfl

theorem Sound.right (sound : Sound state) : I3cRight state := by
  refine ⟨?_, fun bus addr => ?_, fun bus addr => ?_, ?_⟩
  · rw [sound.counted]
    exact sound.describes.few
  · rw [sound.counted]
    exact sound.describes.countP_eq (bus, addr)
  · have absent := @Describes.find_none_iff _ _ (bus, addr) sound.describes
    rw [isSome_iff_ne_none, ne_eq, absent, not_not]
  · exact fun reader bus addr idx waits _ => sound.wakes waits

/-- A step of a semaphore and of a reader keeps the rest. -/
theorem Sound.setComplete (sound : Sound state) {complete : Semaphore} {reader : Nat}
    {after : Reader} (registered : state.registered device = some place)
    (few : complete.waiters.length ≤ 1)
    (others : ∀ other, other ≠ reader → ∀ idx,
      (state.readers other).reads = some (device, idx) → False)
    (mine : ∀ other idx, (state.readers reader).reads = some (other, idx) → other = device)
    (here : ∀ found idx, after.reads = some (found, idx) → found = device ∧ idx = place)
    (queue : ∀ other, other ∈ complete.waiters ↔
      other = reader ∧ after = .waiting device place) :
    Sound ((state.setComplete place complete).setReader reader after) := by
  have readers : ∀ other,
      ((state.setComplete place complete).setReader reader after).readers other =
        if other = reader then after else state.readers other := by
    intro other
    by_cases same : other = reader
    · rw [same, if_pos rfl]
      exact update_self _ _ _
    · rw [if_neg same]
      exact update_of_ne same _ _
  refine ⟨sound.describes, sound.counted, ?_, ?_, ?_, ?_⟩
  · intro found idx told
    obtain ⟨attached, initialised⟩ := sound.registered found idx told
    refine ⟨attached, ?_⟩
    change (update state.ibiComplete place (some complete) idx).isSome
    by_cases same : idx = place
    · rw [same, update_self]
      rfl
    · rw [update_of_ne same]
      exact initialised
  · intro other found idx reads
    rw [readers] at reads
    split at reads
    · obtain ⟨rfl, rfl⟩ := here found idx reads
      exact registered
    · exact sound.reading other found idx reads
  · intro first second found firstIdx secondIdx firstReads secondReads
    rw [readers] at firstReads secondReads
    split at firstReads
    next same =>
      split at secondReads
      next again => exact same.trans again.symm
      next apart =>
        obtain ⟨rfl, -⟩ := here found firstIdx firstReads
        exact (others second apart secondIdx secondReads).elim
    next apart =>
      split at secondReads
      next again =>
        obtain ⟨rfl, -⟩ := here found secondIdx secondReads
        exact (others first apart firstIdx firstReads).elim
      · exact sound.alone first second found firstIdx secondIdx firstReads secondReads
  · intro found idx semaphore told there
    change update state.ibiComplete place (some complete) idx = some semaphore at there
    by_cases same : idx = place
    · rw [same] at told there ⊢
      rw [update_self] at there
      cases there
      obtain rfl := sound.registered_inj told registered
      refine ⟨few, fun other => ?_⟩
      rw [queue, readers]
      by_cases self : other = reader
      · rw [if_pos self]
        exact and_iff_right self
      · rw [if_neg self]
        exact iff_of_false (fun both => self both.1) fun waits =>
          others other self place (by rw [waits]; rfl)
    · rw [update_of_ne same] at there
      obtain ⟨short, listed⟩ := sound.waiters found idx semaphore told there
      refine ⟨short, fun other => ?_⟩
      rw [readers, listed]
      by_cases self : other = reader
      · rw [if_pos self, self]
        have apart : found ≠ device := by
          rintro rfl
          exact same (Option.some.inj (told.symm.trans registered))
        refine iff_of_false (fun waits => ?_) fun waits => ?_
        · exact apart (mine found idx (by rw [waits]; rfl))
        · exact apart (here found idx (by rw [waits]; rfl)).1
      · rw [if_neg self]

theorem Sound.setCount (sound : Sound state) {complete : Semaphore}
    (here : state.ibiComplete place = some complete) (count : Nat) :
    Sound (state.setComplete place { complete with count }) := by
  refine ⟨sound.describes, sound.counted, ?_, sound.reading, sound.alone, ?_⟩
  · intro found idx told
    obtain ⟨attached, initialised⟩ := sound.registered found idx told
    refine ⟨attached, ?_⟩
    change (update state.ibiComplete place _ idx).isSome
    by_cases same : idx = place
    · rw [same, update_self]
      rfl
    · rw [update_of_ne same]
      exact initialised
  · intro found idx semaphore told there
    change update state.ibiComplete place _ idx = some semaphore at there
    by_cases same : idx = place
    · rw [same] at told there ⊢
      rw [update_self] at there
      rw [← Option.some.inj there]
      exact sound.waiters found place complete told here
    · rw [update_of_ne same] at there
      exact sound.waiters found idx semaphore told there

theorem Sound.attach (documented : Documented master) (sound : Sound state) {bus : Nat}
    {addr : UInt8} {locked : Bool} {answer : Answer}
    (orderly : Orderly defined state (.attach bus addr locked answer)) :
    ∃ next, state.attach master defined bus addr locked answer = some next ∧ Sound next := by
  obtain ⟨small, able⟩ := orderly
  unfold I3cState.attach
  rw [if_neg (by omega)]
  by_cases undefined : defined bus = false
  · rw [if_pos undefined]
    exact ⟨state, rfl, sound⟩
  by_cases unlocked : locked = false
  · rw [if_neg undefined, if_pos unlocked]
    exact ⟨state, rfl, sound⟩
  rw [if_neg undefined, if_neg unlocked]
  cases found : findMatchingDesc state.descTable bus addr with
  | some place => exact ⟨state, rfl, sound⟩
  | none =>
    obtain ⟨room, left⟩ := able (by simpa using undefined) (by simpa using unlocked) found
    have absent : (bus, addr) ∉ state.attached := sound.describes.find_none_iff.mp found
    have counted := sound.counted
    have sized := sound.describes.sized
    obtain ⟨old, entry⟩ : ∃ old, state.descTable[state.descCount]? = some old :=
      ⟨_, getElem?_eq_getElem (show state.descCount < state.descTable.length by omega)⟩
    rw [entry]
    cases answer with
    | taken =>
      refine ⟨_, rfl, ?_, ?_, ?_, sound.reading, sound.alone, sound.waiters⟩
      · rw [counted]
        exact sound.describes.attach absent (by omega) small
          (key_eq_some_iff.mpr ⟨documented.bus bus _, documented.dynamicAddr bus _⟩)
      · rw [counted, length_append, length_singleton]
      · intro device place told
        obtain ⟨here, initialised⟩ := sound.registered device place told
        refine ⟨?_, initialised⟩
        rw [getElem?_append_left (List.getElem?_eq_some_iff.mp here).1]
        exact here
    | refused left' dynamicAddr =>
      have none := left left' dynamicAddr rfl
      refine ⟨_, rfl, ?_, counted, sound.registered, sound.reading, sound.alone, sound.waiters⟩
      rw [counted]
      exact sound.describes.refuse none

/-- `i3c_detach` keeps the table, and the places of the devices before the one that goes. -/
theorem Sound.detach (sound : Sound state) {bus : Nat} {addr : UInt8} {locked accepted : Bool}
    (orderly : Orderly defined state (.detach bus addr locked accepted)) :
    ∃ next, state.detach defined bus addr locked accepted = some next ∧ Sound next := by
  obtain ⟨small, able⟩ := orderly
  unfold I3cState.detach
  rw [if_neg (by omega)]
  by_cases undefined : defined bus = false
  · rw [if_pos undefined]
    exact ⟨state, rfl, sound⟩
  by_cases unlocked : locked = false
  · rw [if_neg undefined, if_pos unlocked]
    exact ⟨state, rfl, sound⟩
  rw [if_neg undefined, if_neg unlocked]
  cases found : findMatchingDesc state.descTable bus addr with
  | none => exact ⟨state, rfl, sound⟩
  | some pos =>
    dsimp only
    by_cases declined : accepted = false
    · rw [if_pos declined]
      exact ⟨state, rfl, sound⟩
    obtain ⟨room, unread, before⟩ := able (by simpa using undefined) (by simpa using unlocked)
      (by simpa using declined) pos found
    have here : state.attached[pos]? = some (bus, addr) := sound.describes.find_iff.mp found
    obtain ⟨inside, same⟩ := List.getElem?_eq_some_iff.mp here
    have counted := sound.counted
    obtain ⟨shifted, ran, describes⟩ := sound.describes.detach here (by omega)
    have erased : state.attached.erase (bus, addr) = state.attached.eraseIdx pos := by
      rw [← same]
      exact sound.describes.nodup.erase_getElem pos inside
    have told : ∀ device place,
        update state.registered (bus, addr) none device = some place →
        device ≠ (bus, addr) ∧ state.registered device = some place := by
      intro device place known
      by_cases gone : device = (bus, addr)
      · rw [gone, update_self] at known
        cases known
      · rw [update_of_ne gone] at known
        exact ⟨gone, known⟩
    rw [if_neg declined, counted, ran]
    refine ⟨_, rfl, ?_, ?_, ?_, ?_, sound.alone, ?_⟩
    · rw [erased]
      exact describes
    · rw [erased, length_eraseIdx_of_lt inside]
    · intro device place known
      obtain ⟨other, registered⟩ := told device place known
      obtain ⟨there, initialised⟩ := sound.registered device place registered
      have earlier := before device place registered
      have apart : place ≠ pos := by
        rintro rfl
        exact other (Option.some.inj (there.symm.trans here))
      refine ⟨?_, initialised⟩
      rw [erased, getElem?_eraseIdx_of_lt (by omega)]
      exact there
    · intro reader device idx reads
      have other : device ≠ (bus, addr) := by
        rintro rfl
        exact unread reader idx reads
      dsimp only
      rw [update_of_ne other]
      exact sound.reading reader device idx reads
    · intro device place complete known there
      exact sound.waiters device place complete (told device place known).2 there

/-- `i3c_controller_ibi_init` keeps the places, when no one reads from its device. -/
theorem Sound.ibiInit (sound : Sound state) {bus : Nat} {addr : UInt8} {locked accepted : Bool}
    (orderly : Orderly defined state (.ibiInit bus addr locked accepted)) :
    ∃ next, state.ibiInit defined bus addr locked accepted = some next ∧ Sound next := by
  obtain ⟨small, able⟩ := orderly
  unfold I3cState.ibiInit
  rw [if_neg (by omega)]
  by_cases undefined : defined bus = false
  · rw [if_pos undefined]
    exact ⟨state, rfl, sound⟩
  by_cases unlocked : locked = false
  · rw [if_neg undefined, if_pos unlocked]
    exact ⟨state, rfl, sound⟩
  rw [if_neg undefined, if_neg unlocked]
  cases found : findMatchingDesc state.descTable bus addr with
  | none => exact ⟨state, rfl, sound⟩
  | some place =>
    have unread := able (by simpa using undefined) (by simpa using unlocked)
    have here : state.attached[place]? = some (bus, addr) := sound.describes.find_iff.mp found
    have idx := sound.findDevI3cIdx_eq here
    have initialise : ∀ registered : Nat × UInt8 → Option Nat,
        (∀ device idx, registered device = some idx →
          state.registered device = some idx ∨ (device = (bus, addr) ∧ idx = place)) →
        (∀ device idx, state.registered device = some idx → registered device = some idx) →
        Sound { state.setComplete place .init with registered } := by
      intro registered new old
      have at_place : ∀ device idx, registered device = some idx →
          state.attached[idx]? = some device := by
        intro device idx known
        rcases new device idx known with before | ⟨rfl, rfl⟩
        · exact (sound.registered device idx before).1
        · exact here
      refine ⟨sound.describes, sound.counted, ?_, ?_, sound.alone, ?_⟩
      · intro device idx known
        refine ⟨at_place device idx known, ?_⟩
        change (update state.ibiComplete place _ idx).isSome
        by_cases same : idx = place
        · rw [same, update_self]
          rfl
        · rw [update_of_ne same]
          rcases new device idx known with before | ⟨-, rfl⟩
          · exact (sound.registered device idx before).2
          · exact absurd rfl same
      · exact fun reader device idx reads => old device idx (sound.reading reader device idx reads)
      · intro device idx complete known there
        change update state.ibiComplete place _ idx = some complete at there
        by_cases same : idx = place
        · rw [same] at known there
          rw [update_self] at there
          have one : device = (bus, addr) :=
            Option.some.inj ((at_place device place known).symm.trans here)
          rw [← Option.some.inj there, one]
          refine ⟨Nat.zero_le _, fun reader => iff_of_false (by simp [Semaphore.init]) ?_⟩
          intro waits
          change state.readers reader = _ at waits
          exact unread reader idx (by rw [waits]; rfl)
        · rw [update_of_ne same] at there
          rcases new device idx known with before | ⟨-, rfl⟩
          · exact sound.waiters device idx complete before there
          · exact absurd rfl same
    dsimp only [bind_eq_bind]
    rw [idx, bind_some]
    cases accepted with
    | false =>
      exact ⟨_, rfl, initialise state.registered (fun _ _ => .inl) fun _ _ => id⟩
    | true =>
      refine ⟨_, rfl, initialise (update state.registered (bus, addr) (some place)) ?_ ?_⟩
      · intro device idx known
        by_cases same : device = (bus, addr)
        · rw [same, update_self] at known
          exact .inr ⟨same, (Option.some.inj known).symm⟩
        · rw [update_of_ne same] at known
          exact .inl known
      · intro device idx before
        by_cases same : device = (bus, addr)
        · have there := (sound.registered device idx before).1
          rw [same] at there
          have place := sound.describes.find_iff.mpr there
          rw [same, update_self, ← found, place]
        · rw [update_of_ne same]
          exact before

/-- `i3c_controller_ibi_read` takes the semaphore of its device or waits for it. -/
theorem Sound.ibiRead (sound : Sound state) {reader bus : Nat} {addr : UInt8}
    (idle : state.readers reader = .idle)
    (orderly : Orderly defined state (.ibiRead reader bus addr)) :
    ∃ next, state.ibiRead defined reader bus addr = some next ∧ Sound next := by
  obtain ⟨small, able⟩ := orderly
  unfold I3cState.ibiRead
  rw [if_neg (by omega)]
  by_cases undefined : defined bus = false
  · rw [if_pos undefined]
    exact ⟨state, rfl, sound⟩
  rw [if_neg undefined]
  cases found : findMatchingDesc state.descTable bus addr with
  | none => exact ⟨state, rfl, sound⟩
  | some place =>
    obtain ⟨told, unread⟩ := able idle (by simpa using undefined) (by rw [found]; rfl)
    obtain ⟨known, registered⟩ := ne_none_iff_exists'.mp told
    obtain ⟨here, initialised⟩ := sound.registered (bus, addr) known registered
    have same : place = known :=
      Option.some.inj (found.symm.trans (sound.describes.find_iff.mpr here))
    subst same
    obtain ⟨complete, there⟩ := Option.isSome_iff_exists.mp initialised
    have waiting := (sound.waiters (bus, addr) place complete registered there).2
    have empty : complete.waiters = [] := by
      refine List.eq_nil_iff_forall_not_mem.mpr fun other listed => ?_
      exact unread other place (by rw [(waiting other).mp listed]; rfl)
    have idx := sound.findDevI3cIdx_eq here
    have mine : ∀ other idx, (state.readers reader).reads = some (other, idx) →
        other = (bus, addr) := by
      intro other idx reads
      rw [idle] at reads
      cases reads
    have others : ∀ other, other ≠ reader → ∀ idx,
        (state.readers other).reads = some ((bus, addr), idx) → False :=
      fun other _ idx reads => unread other idx reads
    dsimp only [bind_eq_bind]
    rw [idx, bind_some, there, bind_some]
    by_cases given : complete.count ≠ 0
    · rw [if_pos given]
      refine ⟨_, rfl, sound.setComplete registered ?_ others mine ?_ ?_⟩
      · rw [empty]
        exact Nat.zero_le _
      · intro found idx reads
        cases reads
        exact ⟨rfl, rfl⟩
      · intro other
        rw [empty]
        exact iff_of_false not_mem_nil fun both => absurd both.2 nofun
    · rw [if_neg given]
      refine ⟨_, rfl, sound.setComplete registered ?_ others mine ?_ ?_⟩
      · rw [empty]
        exact le_rfl
      · intro found idx reads
        cases reads
        exact ⟨rfl, rfl⟩
      · intro other
        rw [empty, nil_append, mem_singleton]
        exact (and_iff_left rfl).symm

theorem Sound.resume (sound : Sound state) {reader idx : Nat}
    (woken : state.readers reader = .woken device idx) : Sound (state.resume reader idx) := by
  have reads : (state.readers reader).reads = some (device, idx) := by
    rw [woken]
    rfl
  refine sound.setComplete (sound.reading reader device idx reads) (Nat.zero_le _) ?_ ?_ nofun ?_
  · intro other apart place theirs
    exact apart (sound.alone other reader device place idx theirs reads)
  · intro other place mine
    exact congrArg Prod.fst (Option.some.inj (mine.symm.trans reads))
  · exact fun other => iff_of_false not_mem_nil fun both => absurd both.2 nofun

theorem Sound.raise (sound : Sound state) (bus : Nat) (addr : UInt8) :
    ∃ next, state.raise bus addr = some next ∧ Sound next := by
  unfold I3cState.raise
  cases registered : state.registered (bus, addr) with
  | none => exact ⟨state, rfl, sound⟩
  | some place =>
    obtain ⟨here, initialised⟩ := sound.registered (bus, addr) place registered
    obtain ⟨complete, there⟩ := Option.isSome_iff_exists.mp initialised
    have idx := sound.findDevI3cIdx_eq here
    obtain ⟨few, waiting⟩ := sound.waiters (bus, addr) place complete registered there
    unfold I3cState.callBack I3cState.semGive
    dsimp only [bind_eq_bind]
    rw [idx, bind_some, bind_some, there, bind_some]
    cases queue : complete.waiters with
    | nil =>
      have kept := sound.setCount there 1
      rw [queue] at kept
      exact ⟨_, rfl, kept⟩
    | cons reader rest =>
      have waits : state.readers reader = .waiting (bus, addr) place :=
        (waiting reader).mp (by rw [queue]; exact mem_cons_self)
      have reads : (state.readers reader).reads = some ((bus, addr), place) := by
        rw [waits]
        rfl
      have none : rest = [] := by
        rw [queue, length_cons] at few
        exact eq_nil_of_length_eq_zero (by omega)
      dsimp only
      rw [waits, none]
      refine ⟨_, rfl, sound.setComplete registered (Nat.zero_le _) ?_ ?_ ?_ ?_⟩
      · intro other apart idx theirs
        exact apart (sound.alone other reader (bus, addr) idx place theirs reads)
      · intro other idx mine
        exact congrArg Prod.fst (Option.some.inj (mine.symm.trans reads))
      · intro found idx same
        cases same
        exact ⟨rfl, rfl⟩
      · exact fun other => iff_of_false not_mem_nil fun both => absurd both.2 nofun

/-- An orderly event finds its place in the table and leaves it sound. -/
theorem Sound.step (documented : Documented master) (sound : Sound state) {event : I3cEvent}
    (orderly : Orderly defined state event) :
    ∃ next, step master defined state event = some next ∧ Sound next := by
  cases event with
  | attach bus addr locked answer => exact sound.attach documented orderly
  | detach bus addr locked accepted => exact sound.detach orderly
  | ibiInit bus addr locked accepted => exact sound.ibiInit orderly
  | ibiRead reader bus addr =>
    unfold I3c.step
    cases place : state.readers reader with
    | idle =>
      dsimp only
      rw [place]
      exact sound.ibiRead place orderly
    | waiting device idx =>
      dsimp only
      rw [place]
      exact ⟨state, rfl, sound⟩
    | woken device idx =>
      dsimp only
      rw [place]
      exact ⟨state, rfl, sound⟩
  | resume reader =>
    unfold I3c.step
    cases place : state.readers reader with
    | idle =>
      dsimp only
      rw [place]
      exact ⟨state, rfl, sound⟩
    | waiting device idx =>
      dsimp only
      rw [place]
      exact ⟨state, rfl, sound⟩
    | woken device idx =>
      dsimp only
      rw [place]
      exact ⟨_, rfl, sound.resume place⟩
  | raise bus addr => exact sound.raise bus addr

theorem sound_start : Sound .start := by
  refine ⟨⟨rfl, Nat.zero_le _, nofun, nodup_nil, ?_, nofun⟩, rfl, nofun, nofun, nofun, nofun⟩
  intro place desc _ here
  rw [(List.mem_replicate.mp (mem_of_getElem? here)).2]

end Steps

/-! ## The runs -/

/-- With a driver that sets the bus and the address of a device that it takes, a run whose steps do
not go wrong stays within the tables, and each state that is reached is right. -/
theorem i3cRight_run {master : I3cMaster} (documented : Documented master)
    (defined : Nat → Bool) {events : List I3cEvent}
    (orderly : Meets (step master defined) (Orderly defined) .start events) :
    ∃ final, run (step master defined) .start events = some final ∧ I3cRight final := by
  obtain ⟨final, ran, sound⟩ := @history_runs _ _ (step master defined) (Orderly defined)
    (fun _ => Sound) (fun sound orderly => sound.step documented orderly) _ _ sound_start orderly
  exact ⟨final, ran, sound.right⟩

def settingMaster : I3cMaster where
  attachDevice bus desc := { desc with
    bus := some bus
    dynamicAddr := desc.assignedDynamicAddr }

/-- A device is read from, and another one behind it is detached before its interrupt. -/
def readAndDetached : List I3cEvent :=
  [.attach 0 9 true .taken, .attach 1 9 true .taken, .ibiInit 0 9 true true, .ibiRead 5 0 9,
    .detach 1 9 true true, .raise 0 9]

/-- A read that is answered, and its device detached. -/
theorem i3cRight_readAndDetached :
    ∃ final, run (step settingMaster fun _ => true) .start readAndDetached = some final ∧
      final.readers 5 = .woken (0, 9) 0 ∧ I3cRight final := by
  have documented : Documented settingMaster := ⟨fun _ _ => rfl, fun _ _ => rfl⟩
  have orderly : Meets (step settingMaster fun _ => true) (Orderly fun _ => true) .start
      readAndDetached := by
    refine .cons ⟨by decide, fun _ _ _ => ⟨by decide, nofun⟩⟩ rfl ?_
    refine .cons ⟨by decide, fun _ _ _ => ⟨by decide, nofun⟩⟩ rfl ?_
    refine .cons ⟨by decide, fun _ _ _ _ => nofun⟩ rfl ?_
    refine .cons ⟨by decide, fun _ _ _ => ⟨nofun, fun _ _ => nofun⟩⟩ rfl ?_
    refine .cons ⟨by decide, fun _ _ _ pos found => ?_⟩ rfl ?_
    · refine ⟨by decide, fun reader idx reads => ?_, fun device place told => ?_⟩
      · change (update (fun _ => Reader.idle) 5 (.waiting (0, 9) 0) reader).reads = _
          at reads
        by_cases same : reader = 5
        · rw [same, update_self] at reads
          have other : ((0, 9) : Nat × UInt8) = (1, 9) :=
            congrArg Prod.fst (Option.some.inj reads)
          cases other
        · rw [update_of_ne same] at reads
          cases reads
      · change update (fun _ => none) (0, 9) (some 0) device = some place at told
        by_cases same : device = (0, 9)
        · rw [same, update_self] at told
          have first : 0 = place := Option.some.inj told
          omega
        · rw [update_of_ne same] at told
          cases told
    · exact .cons trivial rfl trivial
  obtain ⟨final, ran, right⟩ := i3cRight_run documented (fun _ => true) orderly
  have woken : (run (step settingMaster fun _ => true) .start readAndDetached).map
      (fun final => final.readers 5) = some (.woken (0, 9) 0) := by rfl
  rw [ran] at woken
  exact ⟨final, ran, Option.some.inj woken, right⟩

def nineDevices : List I3cEvent :=
  (List.range 9).map fun index => .attach 0 (UInt8.ofNat index) true .taken

/-- The ninth device of a bus gets no place in the table. -/
theorem nineDevices_not_right :
    ¬ ∃ final, run (step settingMaster fun _ => true) .start nineDevices = some final ∧
      I3cRight final := by
  rintro ⟨final, ran, -⟩
  have astray : (run (step settingMaster fun _ => true) .start nineDevices).isNone = true := by
    rfl
  rw [ran] at astray
  cases astray

end OpenBic.I3c
