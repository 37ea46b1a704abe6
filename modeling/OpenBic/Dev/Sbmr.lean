import OpenBic.Dev.CodeRing
import OpenBic.Ipmi.CmdHandle
import OpenBic.Library.Machine

/-!
# The boot progress codes of SBMR

`sbmr.c`: the ring of the codes, the commands that send and get a boot progress code, and the pages of
the latest codes.
-/

namespace OpenBic.Sbmr

open List Library.Machine Library.Splice OpenBic.PostCode

/-! ## The code -/

def sbmrPostcodeLen : Nat := 128

def sbmrPostcodeSize : Nat := 9

def smbrGroupDefBodeCode : UInt8 := 0xAE

def smbrCcErr : UInt8 := 0x80

def ccSuccess : UInt8 := 0x00

/-- `sbmr_boot_progress_code_t` in its bytes: the status code, the EFI status code and the
instance. -/
structure BootProgressCode where
  bytes : List UInt8
  sized : bytes.length = sbmrPostcodeSize

def BootProgressCode.zero : BootProgressCode := ⟨List.replicate sbmrPostcodeSize 0, rfl⟩

/-- What the commands have of an `ipmi_msg`. -/
structure SbmrMsg where
  data : Nat → UInt8
  dataLen : Nat
  completionCode : UInt8

def SbmrMsg.bytes (msg : SbmrMsg) : List UInt8 := (List.range msg.dataLen).map msg.data

def SbmrMsg.answered (msg : SbmrMsg) (bytes : List UInt8) : SbmrMsg where
  data := overwrite msg.data 0 bytes.length (bytes.getD · 0)
  dataLen := bytes.length
  completionCode := ccSuccess

/-- `req->code`. -/
def SbmrMsg.code (msg : SbmrMsg) : BootProgressCode where
  bytes := (List.range sbmrPostcodeSize).map fun index => msg.data (1 + index)
  sized := by rw [length_map, length_range]

def sbmrPostcodeInsert (ring : CodeRing BootProgressCode) (code : BootProgressCode) :
    Option (CodeRing BootProgressCode) :=
  ring.insert sbmrPostcodeLen code

/-- `reset_sbmr_postcode_buffer`: the length, not the index. -/
def resetSbmrPostcodeBuffer (ring : CodeRing BootProgressCode) : CodeRing BootProgressCode :=
  { ring with readLen := 0 }

def copySbmrReadBuffer (ring : CodeRing BootProgressCode) (start length bufferLen : UInt16) :
    Option (List UInt8) :=
  copyReadBuffer sbmrPostcodeLen sbmrPostcodeSize BootProgressCode.bytes ring start length bufferLen

def sbmrSendBootProgressCode (ring : CodeRing BootProgressCode) (msg : SbmrMsg) :
    Option (CodeRing BootProgressCode × SbmrMsg) :=
  if msg.dataLen ≠ 1 + sbmrPostcodeSize then some (ring, { msg with completionCode := smbrCcErr })
  else if msg.data 0 ≠ smbrGroupDefBodeCode then
    some (ring, { msg with completionCode := smbrCcErr })
  else (sbmrPostcodeInsert ring msg.code).map fun next =>
    (next, msg.answered [smbrGroupDefBodeCode])

/-- `SBMR_GET_BOOT_PROGRESS_CODE`. Nothing is known of a slot behind the buffer. -/
def sbmrGetBootProgressCode (ring : CodeRing BootProgressCode) (msg : SbmrMsg) : Option SbmrMsg :=
  if msg.dataLen ≠ 1 then some { msg with dataLen := 0, completionCode := smbrCcErr }
  else if msg.data 0 ≠ smbrGroupDefBodeCode then
    some { msg with dataLen := 0, completionCode := smbrCcErr }
  else if ring.readLen = 0 then
    some (msg.answered (smbrGroupDefBodeCode :: BootProgressCode.zero.bytes))
  else if ring.readLen < sbmrPostcodeLen then
    some (msg.answered (smbrGroupDefBodeCode :: (ring.buffer ring.readLen).bytes))
  else none

/-! ## What is claimed -/

/-- The ring, with the codes that were sent since the reset. -/
structure Progress where
  ring : CodeRing BootProgressCode
  codes : List BootProgressCode

def Progress.start : Progress := ⟨⟨fun _ => .zero, 0, 0⟩, []⟩

/-- The commands, and the reset of the host. -/
inductive ProgressEvent where
  | send (msg : SbmrMsg)
  | get (msg : SbmrMsg)
  | reset

/-- The code that a request sends, if it is a request of the command. -/
def sentCode : List UInt8 → Option BootProgressCode
  | [] => none
  | group :: rest =>
    if sized : rest.length = sbmrPostcodeSize then
      if group = smbrGroupDefBodeCode then some ⟨rest, sized⟩ else none
    else none

def step (progress : Progress) : ProgressEvent → Option Progress
  | .send msg => (sbmrSendBootProgressCode progress.ring msg).map fun after =>
    ⟨after.1, progress.codes ++ (sentCode msg.bytes).toList⟩
  | .get _ => some progress
  | .reset => some ⟨resetSbmrPostcodeBuffer progress.ring, []⟩

def mostRecent (codes : List BootProgressCode) : BootProgressCode := codes.getLast?.getD .zero

/-- What is claimed: the code that is read is the one that was sent last. -/
def Right (progress : Progress) : ProgressEvent → Prop
  | .get msg => msg.bytes = [smbrGroupDefBodeCode] →
    ∃ answer, sbmrGetBootProgressCode progress.ring msg = some answer ∧
      answer.completionCode = ccSuccess ∧
      answer.bytes = smbrGroupDefBodeCode :: (mostRecent progress.codes).bytes
  | _ => True

/-- The slot at the length is in the buffer, and it has what the slot before the index has. -/
def AtLength (ring : CodeRing BootProgressCode) : Prop :=
  ring.readLen < sbmrPostcodeLen ∧
    ring.buffer ring.readLen =
      ring.buffer ((ring.readIndex + (sbmrPostcodeLen - 1)) % sbmrPostcodeLen)

/-- A Get comes while there are no codes, or when the slot at the length has the latest one. -/
def Timely (progress : Progress) : ProgressEvent → Prop
  | .get msg => msg.bytes = [smbrGroupDefBodeCode] →
    progress.ring.readLen = 0 ∨ AtLength progress.ring
  | _ => True

/-! ## Steps -/

section Steps

variable {progress : Progress} {msg : SbmrMsg}

/-- The ring holds the codes. -/
def Tracks (progress : Progress) : Prop :=
  ∃ earlier, Holds sbmrPostcodeLen earlier progress.codes progress.ring

theorem SbmrMsg.bytes_succ {count : Nat} (long : msg.dataLen = count + 1) :
    msg.bytes = msg.data 0 :: (List.range count).map fun index => msg.data (1 + index) := by
  unfold SbmrMsg.bytes
  rw [long, range_succ_eq_map, map_cons, List.map_map]
  congr 1
  apply map_congr_left
  intro index _
  rw [Function.comp_apply, Nat.add_comm]

theorem bytes_answered (msg : SbmrMsg) (bytes : List UInt8) : (msg.answered bytes).bytes = bytes :=
  OpenBic.Ipmi.range_copied ⟨msg.data, msg.dataLen, .success⟩ bytes

theorem bytes_singleton (group : UInt8) :
    msg.bytes = [group] ↔ msg.dataLen = 1 ∧ msg.data 0 = group := by
  constructor
  · intro bytes
    have long : msg.dataLen = 1 := by
      have lengths := congrArg List.length bytes
      unfold SbmrMsg.bytes at lengths
      rw [length_map, length_range, length_singleton] at lengths
      exact lengths
    rw [SbmrMsg.bytes_succ long] at bytes
    exact ⟨long, (List.cons.inj bytes).1⟩
  · intro wellFormed
    rw [SbmrMsg.bytes_succ wellFormed.1, wellFormed.2]
    rfl

/-- A request that sends no code leaves the ring as it is, and one that sends a code inserts it. -/
theorem sbmrSendBootProgressCode_cases (ring : CodeRing BootProgressCode) (msg : SbmrMsg) :
    (sentCode msg.bytes = none ∧ sbmrSendBootProgressCode ring msg =
      some (ring, { msg with completionCode := smbrCcErr })) ∨
    (sentCode msg.bytes = some msg.code ∧ sbmrSendBootProgressCode ring msg =
      (sbmrPostcodeInsert ring msg.code).map fun next =>
        (next, msg.answered [smbrGroupDefBodeCode])) := by
  unfold sbmrSendBootProgressCode
  by_cases long : msg.dataLen = 1 + sbmrPostcodeSize
  · have bytes := SbmrMsg.bytes_succ (long.trans (Nat.add_comm _ _))
    have sized : ((List.range sbmrPostcodeSize).map fun index => msg.data (1 + index)).length =
        sbmrPostcodeSize := by rw [length_map, length_range]
    rw [if_neg (not_not.mpr long), bytes]
    unfold sentCode
    dsimp only
    rw [dif_pos sized]
    by_cases group : msg.data 0 = smbrGroupDefBodeCode
    · rw [if_neg (not_not.mpr group), if_pos group]
      exact .inr ⟨rfl, rfl⟩
    · rw [if_pos group, if_neg group]
      exact .inl ⟨rfl, rfl⟩
  · rw [if_pos long]
    refine .inl ⟨?_, rfl⟩
    have length : msg.bytes.length = msg.dataLen := by
      unfold SbmrMsg.bytes
      rw [length_map, length_range]
    cases bytes : msg.bytes with
    | nil => rfl
    | cons group rest =>
      rw [bytes, length_cons] at length
      unfold sentCode
      dsimp only
      rw [dif_neg (by omega)]

/-- Every event has a next state, and the ring still tracks what was sent. -/
theorem Tracks.step (tracks : Tracks progress) (event : ProgressEvent) :
    ∃ next, step progress event = some next ∧ Tracks next := by
  obtain ⟨earlier, holds⟩ := tracks
  cases event with
  | send msg =>
    unfold Sbmr.step
    dsimp only
    rcases sbmrSendBootProgressCode_cases progress.ring msg with ⟨none, same⟩ | ⟨sent, inserts⟩
    · rw [same, none]
      refine ⟨_, rfl, earlier, ?_⟩
      rw [Option.toList_none, append_nil]
      exact holds
    · have stored := holds.insert (by decide) msg.code
      obtain ⟨next, inserted, after⟩ := stored
      rw [inserts, sent]
      unfold sbmrPostcodeInsert
      rw [inserted]
      exact ⟨_, rfl, earlier, after⟩
  | get msg => exact ⟨progress, rfl, earlier, holds⟩
  | reset => exact ⟨_, rfl, earlier ++ progress.codes, holds.reset⟩

theorem mostRecent_eq {earlier codes : List BootProgressCode} {ring : CodeRing BootProgressCode}
    (holds : Holds sbmrPostcodeLen earlier codes ring) (some : ring.readLen ≠ 0) :
    mostRecent codes =
      ring.buffer ((ring.readIndex + (sbmrPostcodeLen - 1)) % sbmrPostcodeLen) := by
  have newest := holds.newest (Nat.pos_of_ne_zero some)
  have index := holds.index
  have len := holds.len
  have longer : (earlier ++ codes).length = earlier.length + codes.length := length_append
  have slot : ((earlier ++ codes).length - 1 - 0) % sbmrPostcodeLen =
      (ring.readIndex + (sbmrPostcodeLen - 1)) % sbmrPostcodeLen := by
    unfold sbmrPostcodeLen at index len ⊢
    omega
  rw [slot, drop_zero] at newest
  have first := congrArg List.head? newest
  unfold latest at first
  rw [head?_take, if_neg (by decide), head?_reverse, head?_cons] at first
  unfold mostRecent
  rw [first, Option.getD_some]

/-- A Get returns the most recent code when it comes in time, and not otherwise. -/
theorem Tracks.right_iff (tracks : Tracks progress) (event : ProgressEvent) :
    Right progress event ↔ Timely progress event := by
  obtain ⟨earlier, holds⟩ := tracks
  cases event with
  | send msg => exact Iff.rfl
  | reset => exact Iff.rfl
  | get msg =>
    apply forall_congr'
    intro request
    obtain ⟨long, group⟩ := (bytes_singleton _).mp request
    unfold sbmrGetBootProgressCode
    rw [if_neg (not_not.mpr long), if_neg (not_not.mpr group)]
    by_cases empty : progress.ring.readLen = 0
    · rw [if_pos empty]
      have none : progress.codes = [] := by
        have len := holds.len
        unfold sbmrPostcodeLen at len
        exact eq_nil_of_length_eq_zero (by omega)
      have zeros : mostRecent progress.codes = .zero := by
        rw [none]
        rfl
      rw [zeros]
      exact iff_of_true ⟨_, rfl, rfl, bytes_answered _ _⟩ (.inl empty)
    · have latest := mostRecent_eq holds empty
      rw [if_neg empty, latest]
      by_cases inside : progress.ring.readLen < sbmrPostcodeLen
      · rw [if_pos inside]
        constructor
        · intro returned
          obtain ⟨answer, here, -, bytes⟩ := returned
          cases here
          rw [bytes_answered] at bytes
          have same := (List.cons.inj bytes).2
          refine .inr ⟨inside, ?_⟩
          cases first : progress.ring.buffer progress.ring.readLen
          cases second : progress.ring.buffer
            ((progress.ring.readIndex + (sbmrPostcodeLen - 1)) % sbmrPostcodeLen)
          rw [first, second] at same
          exact BootProgressCode.mk.injEq _ _ _ _ ▸ same
        · intro timely
          have same := (timely.resolve_left empty).2
          exact ⟨_, rfl, rfl, by rw [bytes_answered, same]⟩
      · rw [if_neg inside]
        apply iff_of_false
        · intro returned
          obtain ⟨answer, here, -⟩ := returned
          cases here
        · intro timely
          exact inside (timely.resolve_left empty).1

end Steps

/-! ## The runs -/

/-- In every run the pages have the latest codes, and the Gets return the most recent code if and
only if they come in time. -/
theorem progressRight_iff (events : List ProgressEvent) :
    ∃ final, run step Progress.start events = some final ∧
      PagesRight sbmrPostcodeLen sbmrPostcodeSize BootProgressCode.bytes
        (copySbmrReadBuffer final.ring) final.codes ∧
      (Meets step Right Progress.start events ↔ Meets step Timely Progress.start events) := by
  have first : Tracks Progress.start := ⟨[], holds_start _ _⟩
  have always : Meets step (fun _ _ => True) Progress.start events :=
    meets_of_forall (fun _ _ => trivial) _ _
  have goes : ∃ final, run step Progress.start events = some final ∧ Tracks final :=
    @history_runs _ _ step (fun _ _ => True) (fun _ => Tracks)
      (fun tracks _ => tracks.step _) _ _ first always
  have kept : ∀ {state event next}, Tracks state → step state event = some next → Tracks next := by
    intro state event next tracks moved
    obtain ⟨other, here, after⟩ := tracks.step event
    cases here.symm.trans moved
    exact after
  obtain ⟨final, ran, earlier, holds⟩ := goes
  have pages := holds.pages (by decide) sbmrPostcodeSize BootProgressCode.bytes
  have timely : Meets step Right Progress.start events ↔ Meets step Timely Progress.start events :=
    Meets.congr_of_invariant kept (fun tracks => tracks.right_iff _) first events
  exact ⟨final, ran, pages, timely⟩

def requestOf (bytes : List UInt8) : SbmrMsg := SbmrMsg.answered ⟨fun _ => 0, 0, 0⟩ bytes

def sentAndAsked : List ProgressEvent :=
  [.send (requestOf [0xAE, 1, 0, 0, 0, 5, 0, 1, 2, 0]), .get (requestOf [0xAE])]

/-- A code that was sent is not the one that is read back. -/
theorem sentAndAsked_not_right : ¬ Meets step Right Progress.start sentAndAsked := by
  intro right
  obtain ⟨answer, here, -, bytes⟩ := right.2.1 rfl
  cases here
  exact absurd bytes (by decide +kernel)

end OpenBic.Sbmr
