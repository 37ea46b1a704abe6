import Mathlib.Tactic.SplitIfs
import OpenBic.Library.Machine
import OpenBic.Library.Checked
import OpenBic.Library.Rounds

/-!
# The firmware download of the ASICs

`iris_data_write` of `plat_pldm_fw_update.c` of the Rainbow board, with the address that it keeps
between calls, and the packets of `sb_write_fwblock`. The device may refuse any packet and any read.
-/

namespace OpenBic.SbRb.IrisWrite

open List Library.Checked
open Library.Machine
open Library.Number
open Library.Rounds

/-! ## Packets -/

def smbusMaxPktLen : Nat := 32

def msgRdwrDataStart : Nat := 6

def bytesPerWord : Nat := 4

def addrDataLenSz : Nat := 5

def maxDataPktSize : Nat := 24

def maxRetries : Nat := 3

def hamsaBoot1AsicMemAddr : UInt32 := 0x94008000

/-- The words that the loop of `sb_write_fwblock` copies from a place of the data on, where the
buffer has room for so many; `none` where it leaves the buffer or the data. A word that is read and
written low byte first is its four bytes. -/
def packWords (data : List UInt8) : Nat → Nat → UInt32 → Option (List UInt8)
  | 0, _, dataLen => if dataLen = 0 then some [] else none
  | room + 1, place, dataLen =>
    if dataLen = 0 then some []
    else do
      let word ← rangeAt data place bytesPerWord
      let rest ← packWords data room (place + bytesPerWord) (dataLen - .ofNat bytesPerWord)
      pure (word ++ rest)

def header (addr dataLen : UInt32) : List UInt8 :=
  .ofNat (addrDataLenSz + dataLen.toNat) :: digits addr.toNat 4 ++ [dataLen.toUInt8]

/-- What `sb_write_fwblock` sends. -/
def sbWriteFwblock (addr : UInt32) (data : List UInt8) (place : Nat) (dataLen : UInt32) :
    Option (List UInt8) := do
  let words ← packWords data ((smbusMaxPktLen - msgRdwrDataStart) / bytesPerWord) place dataLen
  pure ((header addr dataLen ++ words).take (addrDataLenSz + dataLen.toNat + 1))

/-! ## A call -/

/-- A block with what each try to write it has met, or a read of the status. -/
inductive Entry where
  | block (packet : List UInt8) (results : List Bool)
  | status (read : Bool)

structure Device where
  accepts : List Entry → List UInt8 → List Bool → Bool
  reads : List Entry → Bool

/-- `sb_write_block`: one block, until a try gets through. -/
def tryBlock (accepts : List Bool → Bool) : Nat → List Bool → List Bool
  | 0, results => results
  | tries + 1, results =>
    if accepts results then results ++ [true] else tryBlock accepts tries (results ++ [false])

/-- The locals of the loop, and what was sent. -/
structure Progress where
  idx : Nat
  size : Nat
  writeSize : Nat
  writeAddr : UInt32
  log : List Entry

/-- How a call ends; one that strays leaves its data. -/
inductive Outcome where
  | strays
  | done (log : List Entry) (success : Bool) (writeAddr : UInt32)

def chunkSize (size : Nat) : Nat := if maxDataPktSize < size then maxDataPktSize else size

def round (device : Device) (data : List UInt8) (now : Progress) : Round Progress Outcome :=
  if now.size = 0 then .ends (.done now.log true now.writeAddr)
  else
    let offset := now.writeSize * now.idx
    let writeSize := chunkSize now.size
    match sbWriteFwblock now.writeAddr data offset (.ofNat writeSize) with
    | none => .ends .strays
    | some packet =>
      let results := tryBlock (device.accepts now.log packet) maxRetries []
      let log := now.log ++ [.block packet results]
      let next (log : List Entry) : Progress :=
        ⟨now.idx + 1, now.size - writeSize, writeSize, now.writeAddr + .ofNat writeSize, log⟩
      if results.contains true = false then .ends (.done log false now.writeAddr)
      else if now.writeAddr ≠ hamsaBoot1AsicMemAddr then .next (next log)
      else if device.reads log then .next (next (log ++ [.status true]))
      else .ends (.done (log ++ [.status false]) false now.writeAddr)

/-- `iris_data_write`, with the rounds that it may take. -/
def irisDataWrite (device : Device) (data : List UInt8) (writeAddr : UInt32) (fuel : Nat) :
    Option Outcome :=
  loop (round device data) fuel ⟨0, data.length, maxDataPktSize, writeAddr, []⟩

/-! ## Runs -/

/-- A call. -/
structure Call where
  device : Device
  data : List UInt8
  fits : data.length < 2 ^ 32

/-- `write_addr`, and the address behind what the successful calls have written. -/
structure State where
  writeAddr : UInt32
  expected : UInt32

def start : State := ⟨hamsaBoot1AsicMemAddr, hamsaBoot1AsicMemAddr⟩

def step (state : State) (call : Call) : Option State :=
  match irisDataWrite call.device call.data state.writeAddr (call.data.length + 1) with
  | some (.done _ success writeAddr) => some ⟨writeAddr,
      if success then state.expected + .ofNat call.data.length else state.expected⟩
  | _ => none

def packetOf (addr : UInt32) (payload : List UInt8) : List UInt8 :=
  .ofNat (addrDataLenSz + payload.length) :: digits addr.toNat 4 ++ .ofNat payload.length :: payload

def placed : UInt32 → List (List UInt8) → List (List UInt8)
  | _, [] => []
  | addr, payload :: rest => packetOf addr payload :: placed (addr + .ofNat payload.length) rest

def Entry.accepted : Entry → Option (List UInt8)
  | .block packet results => if results.contains true then some packet else none
  | .status _ => none

/-- A block that is refused at all its tries, or a read that fails. -/
def Entry.Fails : Entry → Prop
  | .block _ results => results = List.replicate maxRetries false
  | .status read => read = false

/-- A block is a packet of a piece of the data. -/
def Formed (data : List UInt8) (entry : Entry) : Prop :=
  ∀ packet results, entry = .block packet results → packet.length ≤ smbusMaxPktLen ∧
    ∃ addr payload, payload <:+: data ∧ packet = packetOf addr payload

/-- A call ends, with packets in their bounds; when it succeeds they cover the data behind what has
been written before, and it fails exactly if something has failed. -/
def WriteRight (state : State) (call : Call) : Prop :=
  ∃ fuel log success writeAddr,
    irisDataWrite call.device call.data state.writeAddr fuel = some (.done log success writeAddr) ∧
      (∀ entry ∈ log, Formed call.data entry) ∧
        (success = true → ∃ payloads, payloads.flatten = call.data ∧
          log.filterMap Entry.accepted = placed state.expected payloads) ∧
            (success = false ↔ ∃ entry ∈ log, entry.Fails)

/-- The data are whole words, and no call that failed has left blocks behind. -/
def Guarded (state : State) (call : Call) : Prop :=
  call.data.length % bytesPerWord = 0 ∧ state.writeAddr = state.expected

/-! ## One block -/

theorem packWords_eq {data : List UInt8} {count room place : Nat} (fits : count ≤ room)
    (inside : place + bytesPerWord * count ≤ data.length) (small : count < 2 ^ 30) :
    packWords data room place (.ofNat (bytesPerWord * count)) =
      some ((data.drop place).take (bytesPerWord * count)) := by
  unfold bytesPerWord at *
  induction count generalizing room place with
  | zero => cases room <;> rfl
  | succ count ih =>
    obtain ⟨room, rfl⟩ := Nat.exists_eq_add_of_lt fits
    have some : UInt32.ofNat (4 * (count + 1)) ≠ 0 := by
      intro zero
      have lost := congrArg UInt32.toNat zero
      rw [UInt32.toNat_ofNat', Nat.mod_eq_of_lt (by omega)] at lost
      exact Nat.succ_ne_zero _ lost
    have less : UInt32.ofNat (4 * (count + 1)) - .ofNat 4 = .ofNat (4 * count) := by
      rw [Nat.mul_succ, UInt32.ofNat_add, UInt32.add_sub_cancel]
    have onward := @ih (count + room) (place + 4) (Nat.le_add_right _ _) (by omega) (by omega)
    rw [packWords, if_neg some]
    unfold bytesPerWord
    rw [rangeAt_eq (by omega), less, onward]
    change Option.some _ = Option.some _
    rw [← drop_drop, ← take_add, Nat.add_comm, Nat.mul_succ]

theorem length_packetOf (addr : UInt32) (payload : List UInt8) :
    (packetOf addr payload).length = msgRdwrDataStart + payload.length := by
  unfold packetOf msgRdwrDataStart
  rw [cons_append, length_cons, length_append, length_digits, length_cons]
  omega

theorem sbWriteFwblock_eq {data : List UInt8} {count place : Nat} (addr : UInt32)
    (fits : count ≤ 6) (inside : place + bytesPerWord * count ≤ data.length) :
    sbWriteFwblock addr data place (.ofNat (bytesPerWord * count)) =
      some (packetOf addr ((data.drop place).take (bytesPerWord * count))) := by
  have length : ((data.drop place).take (bytesPerWord * count)).length = bytesPerWord * count := by
    rw [length_take, length_drop]
    omega
  have small : (UInt32.ofNat (bytesPerWord * count)).toNat = bytesPerWord * count := by
    unfold bytesPerWord
    rw [UInt32.toNat_ofNat', Nat.mod_eq_of_lt (by omega)]
  have packet : header addr (.ofNat (bytesPerWord * count)) ++
      (data.drop place).take (bytesPerWord * count) =
        packetOf addr ((data.drop place).take (bytesPerWord * count)) := by
    unfold header packetOf UInt32.toUInt8
    rw [length, small]
    simp only [cons_append, append_assoc, nil_append]
  unfold sbWriteFwblock
  rw [show (smbusMaxPktLen - msgRdwrDataStart) / bytesPerWord = 6 from rfl,
    packWords_eq fits inside (by omega)]
  change Option.some (List.take _ (_ ++ _)) = _
  rw [packet, take_of_length_le]
  rw [length_packetOf, length, small]
  unfold msgRdwrDataStart addrDataLenSz
  omega

theorem tryBlock_fails (accepts : List Bool → Bool) :
    (tryBlock accepts maxRetries []).contains true = false ↔
      tryBlock accepts maxRetries [] = List.replicate maxRetries false := by
  unfold maxRetries tryBlock tryBlock tryBlock tryBlock
  split_ifs <;> decide

/-! ## The loop -/

theorem placed_append (first : UInt32) (payloads : List (List UInt8)) (payload : List UInt8) :
    placed first (payloads ++ [payload]) =
      placed first payloads ++ [packetOf (first + .ofNat payloads.flatten.length) payload] := by
  induction payloads generalizing first with
  | nil => simp [placed]
  | cons front rest ih =>
    rw [cons_append, placed, ih, placed, flatten_cons, length_append,
      UInt32.ofNat_add, UInt32.add_assoc]
    rfl

/-- What has been written when a round begins. -/
structure Written (first : UInt32) (data : List UInt8) (now : Progress) : Prop where
  inside : now.size ≤ data.length
  words : now.size % bytesPerWord = 0
  full : now.size = 0 ∨ now.writeSize = maxDataPktSize ∧
    now.writeSize * now.idx = data.length - now.size
  addr : now.writeAddr = first + .ofNat (data.length - now.size)
  covers : ∃ payloads, payloads.flatten = data.take (data.length - now.size) ∧
    now.log.filterMap Entry.accepted = placed first payloads
  formed : ∀ entry ∈ now.log, Formed data entry
  smooth : ∀ entry ∈ now.log, ¬ entry.Fails

section Loop

variable {first : UInt32} {data : List UInt8} {now : Progress}

def chunk (data : List UInt8) (size : Nat) : List UInt8 :=
  (data.drop (data.length - size)).take (chunkSize size)

theorem length_chunk (inside : now.size ≤ data.length) :
    (chunk data now.size).length = chunkSize now.size := by
  unfold chunk chunkSize
  rw [length_take, length_drop]
  split_ifs <;> omega

theorem Written.block (written : Written first data now) (left : now.size ≠ 0) :
    sbWriteFwblock now.writeAddr data (now.writeSize * now.idx) (.ofNat (chunkSize now.size)) =
      some (packetOf now.writeAddr (chunk data now.size)) := by
  have inside := written.inside
  have words := written.words
  have place := (written.full.resolve_left left).2
  obtain ⟨count, some, fits, whole⟩ : ∃ count, chunkSize now.size = bytesPerWord * count ∧
      count ≤ 6 ∧ bytesPerWord * count ≤ now.size := by
    unfold bytesPerWord at *
    refine ⟨chunkSize now.size / 4, ?_⟩
    unfold chunkSize maxDataPktSize
    split_ifs <;> omega
  rw [chunk, some, place]
  exact sbWriteFwblock_eq _ fits (by omega)

theorem Written.formed_block (written : Written first data now) (results : List Bool) :
    Formed data (.block (packetOf now.writeAddr (chunk data now.size)) results) := by
  rintro _ _ ⟨⟩
  refine ⟨?_, _, _, ?_, rfl⟩
  · rw [length_packetOf, length_chunk written.inside]
    unfold msgRdwrDataStart chunkSize smbusMaxPktLen maxDataPktSize
    split_ifs <;> omega
  · exact (List.take_prefix _ _).isInfix.trans (drop_suffix _ _).isInfix

/-- A block that is accepted. -/
theorem Written.next (written : Written first data now) (left : now.size ≠ 0)
    {entries : List Entry} (accepted : entries.filterMap Entry.accepted =
      [packetOf now.writeAddr (chunk data now.size)])
    (formed : ∀ entry ∈ entries, Formed data entry) (smooth : ∀ entry ∈ entries, ¬ entry.Fails) :
    Written first data ⟨now.idx + 1, now.size - chunkSize now.size, chunkSize now.size,
      now.writeAddr + .ofNat (chunkSize now.size), now.log ++ entries⟩ := by
  have inside := written.inside
  have words := written.words
  obtain ⟨sized, place⟩ := written.full.resolve_left left
  have onward : data.length - (now.size - chunkSize now.size) =
      data.length - now.size + chunkSize now.size := by
    unfold chunkSize
    split_ifs <;> omega
  obtain ⟨payloads, flat, listed⟩ := written.covers
  refine ⟨Nat.le_trans (Nat.sub_le _ _) inside, ?_, ?_, ?_, ?_, ?_, ?_⟩
  · unfold bytesPerWord chunkSize maxDataPktSize at *
    dsimp only
    split_ifs <;> omega
  · rw [sized] at place
    unfold chunkSize at *
    split_ifs at * with more
    · exact .inr ⟨rfl, by rw [Nat.mul_succ, place, onward]⟩
    · exact .inl (Nat.sub_self _)
  · rw [onward, written.addr, UInt32.ofNat_add, UInt32.add_assoc]
  · refine ⟨payloads ++ [chunk data now.size], ?_, ?_⟩
    · rw [flatten_append, flat, flatten_singleton]
      rw [onward, take_add, chunk]
    · rw [filterMap_append, listed, accepted, placed_append, flat, written.addr,
        length_take, Nat.min_eq_left (Nat.sub_le _ _)]
  · exact fun entry there => (List.mem_append.mp there).elim (written.formed entry) (formed entry)
  · exact fun entry there => (List.mem_append.mp there).elim (written.smooth entry) (smooth entry)

/-- What is claimed of how a call ends. -/
def Ended (first : UInt32) (data : List UInt8) : Outcome → Prop
  | .strays => False
  | .done log success _ => (∀ entry ∈ log, Formed data entry) ∧
      (success = true → ∃ payloads, payloads.flatten = data ∧
        log.filterMap Entry.accepted = placed first payloads) ∧
          (success = false ↔ ∃ entry ∈ log, entry.Fails)

theorem Written.fails (written : Written first data now) {entries : List Entry} {entry : Entry}
    (formed : ∀ entry ∈ entries, Formed data entry) (there : entry ∈ entries)
    (fails : entry.Fails) (writeAddr : UInt32) :
    Ended first data (.done (now.log ++ entries) false writeAddr) :=
  ⟨fun entry there => (List.mem_append.mp there).elim (written.formed entry) (formed entry),
    nofun, iff_of_true rfl ⟨entry, mem_append_right _ there, fails⟩⟩

/-- A round goes on with a shorter rest, or the call ends. -/
theorem Written.round (device : Device) (written : Written first data now) :
    match round device data now with
    | .next next => Written first data next ∧ next.size < now.size
    | .ends outcome => Ended first data outcome := by
  unfold IrisWrite.round
  by_cases left : now.size = 0
  · rw [if_pos left]
    obtain ⟨payloads, flat, listed⟩ := written.covers
    rw [left, Nat.sub_zero, take_length] at flat
    exact ⟨written.formed, fun _ => ⟨payloads, flat, listed⟩,
      iff_of_false nofun fun ⟨entry, there, fails⟩ => written.smooth entry there fails⟩
  · have block := written.block left
    have results := tryBlock_fails
      (device.accepts now.log (packetOf now.writeAddr (chunk data now.size)))
    have shorter : now.size - chunkSize now.size < now.size := by
      unfold chunkSize maxDataPktSize
      split_ifs <;> omega
    have formed := written.formed_block
    dsimp only
    rw [block]
    dsimp only
    generalize tryBlock _ maxRetries [] = tried at results ⊢
    have one : ∀ entry ∈ [Entry.block (packetOf now.writeAddr (chunk data now.size)) tried],
        Formed data entry := fun entry there => List.mem_singleton.mp there ▸ formed tried
    have two : ∀ read, ∀ entry ∈ [Entry.block (packetOf now.writeAddr (chunk data now.size)) tried,
        .status read], Formed data entry := by
      intro read entry there
      rcases List.mem_pair.mp there with rfl | rfl
      · exact formed tried
      · exact nofun
    split_ifs with refused apart reads
    · exact written.fails one mem_cons_self (results.mp refused) _
    · have taken : tried.contains true = true := by simpa using refused
      refine ⟨written.next left (by simp only [filterMap_cons, Entry.accepted, taken,
        if_true, filterMap_nil]) one ?_, shorter⟩
      intro entry there
      rw [List.mem_singleton.mp there]
      exact fun fails => refused (results.mpr fails)
    · have taken : tried.contains true = true := by simpa using refused
      rw [append_assoc]
      refine ⟨written.next left (by simp only [cons_append, nil_append,
        filterMap_cons, Entry.accepted, taken, if_true, filterMap_nil]) (two true) ?_,
        shorter⟩
      intro entry there
      rcases List.mem_pair.mp there with rfl | rfl
      · exact fun fails => refused (results.mpr fails)
      · exact nofun
    · rw [append_assoc]
      exact written.fails (two false) (mem_cons_of_mem _ mem_cons_self) rfl _

end Loop

theorem writeRight_of_guarded {state : State} {call : Call} (guarded : Guarded state call) :
    WriteRight state call := by
  let first : Progress := ⟨0, call.data.length, maxDataPktSize, state.writeAddr, []⟩
  have begins : Written state.expected call.data first :=
    ⟨le_rfl, guarded.1, .inr ⟨rfl, by simp [first]⟩, by simp [first, guarded.2],
      ⟨[], by simp [first], rfl⟩, nofun, nofun⟩
  have kept : ∀ {now next}, Written state.expected call.data now →
      round call.device call.data now = .next next →
        Written state.expected call.data next ∧ next.size < now.size := by
    intro now next written moved
    have goes := written.round call.device
    rw [moved] at goes
    exact goes
  have ends := loop_isSome (Written state.expected call.data)
    (fun written moved => (kept written moved).1) (fun written moved => (kept written moved).2)
    begins (Nat.lt_succ_self call.data.length)
  obtain ⟨outcome, ran⟩ := Option.isSome_iff_exists.mp ends
  obtain ⟨last, comes, ended⟩ := comes_of_loop ran
  have right := (Comes.rule (fun written moved => (kept written moved).1) begins comes).round
    call.device
  rw [ended] at right
  cases outcome with
  | strays => exact right.elim
  | done log success writeAddr => exact ⟨_, log, success, writeAddr, ran, right⟩

/-! ## Runs of calls -/

/-- Where the guard is met, each call is right. -/
theorem writeRight_run {calls : List Call} (meets : Meets step Guarded start calls) :
    Meets step WriteRight start calls :=
  meets.mono fun _ _ guarded => writeRight_of_guarded guarded

def willing : Device := ⟨fun _ _ _ => true, fun _ => true⟩

/-- A word is written. -/
theorem writeRight_run_oneWord :
    Meets step WriteRight start [⟨willing, [1, 2, 3, 4], by decide⟩] :=
  writeRight_run ⟨⟨rfl, rfl⟩, by split <;> trivial⟩

/-- A single byte makes the loop leave its buffer. -/
theorem oneByte_not_writeRight :
    ¬ Meets step WriteRight start [⟨willing, [1], by decide⟩] := by
  rintro ⟨⟨fuel, log, success, writeAddr, ran, _⟩, _⟩
  cases fuel with
  | zero => cases ran
  | succ fuel =>
    have strays : round willing [1] ⟨0, 1, maxDataPktSize, hamsaBoot1AsicMemAddr, []⟩ =
        .ends .strays := rfl
    nomatch ((loop_ends strays fuel).symm.trans ran)

end OpenBic.SbRb.IrisWrite
