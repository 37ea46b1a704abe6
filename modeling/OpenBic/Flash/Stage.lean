import OpenBic.Flash.Update
import OpenBic.Library.Machine
import Mathlib.Logic.Function.Basic

/-!
# `fw_update`: an image staged in 64 KiB buffers

The static variables of `fw_update` and the flashes it writes to. A call puts its bytes into the
buffer, and hands the buffer to `do_update` when it is full or the call has the end flag. The
state also keeps what was received last for each address of each flash, and of the buffer up to
where it holds received bytes without a gap and for which flash they are.
-/

namespace OpenBic.Flash

open List Function Library.Splice Library.Machine

def sectorSz64k : Nat := 0x10000

def fwupdateSuccess : UInt8 := 0

def fwupdateOutOfHeap : UInt8 := 1

def fwupdateOverLength : UInt8 := 2

def fwupdateRepeatedUpdated : UInt8 := 3

def ccUnspecifiedError : UInt8 := 0xFF

/-- An error code as the `uint8_t` that `fw_update` returns. -/
def returnCode (code : Int) : UInt8 := UInt8.ofNat (code % 256).toNat

/-- The arguments of a call of `fw_update`. -/
structure FwCall where
  offset : UInt32
  /-- The `msg_len` bytes at `msg_buf`. -/
  msg : List UInt8
  /-- `msg_len` is a `uint16_t`. -/
  short : msg.length < 2 ^ 16
  flag : UInt8
  position : Nat

def FwCall.ends (call : FwCall) : Bool := call.flag &&& 0x80 != 0

def FwCall.forces (call : FwCall) : Bool := call.flag &&& 0x02 != 0

/-- The call begins an update: offset zero, or `FORCE_INIT_FLAG`. -/
def FwCall.begins (call : FwCall) : Bool := call.offset == 0 || call.forces

/-- The bytes at `msg_buf`. -/
def FwCall.bytes (call : FwCall) : Memory := fun index => call.msg.getD index 0

/-- What other code answers during a call. -/
structure FwEnv where
  /-- `malloc`: what the memory holds. -/
  malloc : Option Memory
  /-- `malloc` again, after a refusal. -/
  mallocAgain : Option Memory
  /-- `device_get_binding` finds the device. -/
  bound : Bool
  reInit : Int

/-- The buffer of an update. -/
structure Session where
  txbuf : Memory
  startOffset : Nat
  bufOffset : Nat
  position : Nat
  collected : Nat

/-- The static variables and the flashes. -/
structure Stager where
  /-- The buffer, when `is_init` is set. -/
  session : Option Session
  fwUpdateRetry : Int
  defaultRetryCount : Int
  isinit : Nat → Bool
  devices : Nat → Device
  received : Nat → Nat → Option UInt8

def Stager.content (s : Stager) (position : Nat) : Memory := (s.devices position).content

def Stager.receive (s : Stager) (call : FwCall) : Stager :=
  { s with
    received := update s.received call.position fun address =>
      if call.offset.toNat ≤ address ∧ address < call.offset.toNat + call.msg.length then
        some (call.bytes (address - call.offset.toNat))
      else s.received call.position address }

def FwCall.fresh (call : FwCall) (txbuf : Memory) : Session :=
  { txbuf
    startOffset := call.offset.toNat
    bufOffset := 0
    position := call.position
    collected := 0 }

def Stager.prepare (s : Stager) (call : FwCall) (env : FwEnv) : Stager :=
  let s := if call.begins then { s with fwUpdateRetry := s.defaultRetryCount, session := none }
    else s
  match s.session with
  | some _ => s
  | none => { s with session := (env.malloc <|> env.mallocAgain).map call.fresh }

def Session.recorded (session : Session) : Nat :=
  (session.startOffset + session.bufOffset) % 2 ^ 32

def Session.seek (session : Session) (call : FwCall) : Session :=
  if call.offset.toNat < session.startOffset then call.fresh session.txbuf
  else { session with bufOffset := call.offset.toNat - session.startOffset }

def Session.store (session : Session) (call : FwCall) : Session :=
  { session with
    txbuf := overwrite session.txbuf session.bufOffset call.msg.length call.bytes
    bufOffset := (session.bufOffset + call.msg.length) % 2 ^ 32
    collected := if session.bufOffset ≤ session.collected then
        max session.collected (session.bufOffset + call.msg.length)
      else session.collected }

def Stager.flush (geometry : Nat → Geometry) (s : Stager) (session : Session) (call : FwCall)
    (env : FwEnv) : UInt8 × Stager :=
  if env.bound = false then (ccUnspecifiedError, { s with session := some session })
  else if s.isinit call.position = false ∧ env.reInit ≠ 0 then
    (returnCode env.reInit, { s with session := none })
  else
    let s := { s with isinit := update s.isinit call.position true, session := none }
    match doUpdate (geometry call.position) session.startOffset session.txbuf session.bufOffset
        (s.devices call.position) with
    | .ok _ device =>
      (fwupdateSuccess, { s with devices := update s.devices call.position device })
    | .error code device =>
      (returnCode code, { s with devices := update s.devices call.position device })

/-- The bytes go into the buffer at its place, if there is room, and the buffer to the flash when
it is full or the call is the last. -/
def Stager.collect (geometry : Nat → Geometry) (s : Stager) (session : Session) (call : FwCall)
    (env : FwEnv) : UInt8 × Stager :=
  if sectorSz64k < (session.bufOffset + call.msg.length) % 2 ^ 32 then
    (fwupdateOverLength, { s with session := none })
  else
    let session := session.store call
    if session.bufOffset = sectorSz64k ∨ call.ends then s.flush geometry session call env
    else (fwupdateSuccess, { s with session := some session })

/-- `fw_update`: one call, with what its surroundings grant. -/
def fwUpdate (geometry : Nat → Geometry) (s : Stager) (call : FwCall) (env : FwEnv) :
    UInt8 × Stager :=
  let s := (s.receive call).prepare call env
  match s.session with
  | none => (fwupdateOutOfHeap, s)
  | some session =>
    if call.offset.toNat ≠ session.recorded then
      let s := { s with fwUpdateRetry := s.fwUpdateRetry - 1 }
      if s.fwUpdateRetry < (0 : Int) then (fwupdateRepeatedUpdated, { s with session := none })
      else s.collect geometry (session.seek call) call env
    else
      let s := { s with fwUpdateRetry := s.defaultRetryCount }
      s.collect geometry session call env

def setDefaultRetryCount (s : Stager) (count : Int) : Stager :=
  { s with defaultRetryCount := count }

/-- What can happen next. -/
inductive FwEvent where
  /-- A call of `fw_update`. -/
  | update (call : FwCall) (env : FwEnv)
  /-- A call of `set_default_retry_count`. -/
  | setRetry (count : Int)

def fwStep (geometry : Nat → Geometry) (s : Stager) : FwEvent → Option Stager
  | .update call env => some (fwUpdate geometry s call env).2
  | .setRetry count => some (setDefaultRetryCount s count)

/-- The buffer a call's bytes are for, moved to their place, unless the call is refused before. -/
def Stager.aim (s : Stager) (call : FwCall) (env : FwEnv) : Option Session :=
  match if call.begins then none else s.session with
  | none => (env.malloc <|> env.mallocAgain).map call.fresh
  | some session =>
    if call.offset.toNat = session.recorded then some session
    else if 0 < s.fwUpdateRetry then some (session.seek call)
    else none

/-- The condition on a call: its bytes go to a buffer of the same flash, with no gap before them,
and end below 2^32; when the buffer is then written, its range is one that `do_update` replaces
exactly; and no error code is a multiple of 256. -/
structure CallGuard (geometry : Nat → Geometry) (s : Stager) (call : FwCall) (env : FwEnv) :
    Prop where
  same : ∀ x ∈ s.aim call env, x.position = call.position
  joins : ∀ x ∈ s.aim call env, x.bufOffset ≤ x.collected
  word : ∀ x ∈ s.aim call env, x.startOffset + x.bufOffset + call.msg.length < 2 ^ 32
  exact : ∀ x ∈ s.aim call env,
    call.ends = true ∨ x.bufOffset + call.msg.length = sectorSz64k →
    x.bufOffset + call.msg.length ≤ sectorSz64k →
    WritesExactly (geometry call.position) (s.content call.position) x.txbuf x.startOffset
      (x.bufOffset + call.msg.length)
  errors : ∀ index, (256 : Int) ∣ (s.devices call.position).answers index →
    (s.devices call.position).answers index = 0
  /-- So does the code of `spi_nor_re_init`. -/
  reInit : (256 : Int) ∣ env.reInit → env.reInit = 0

/-- The condition on an event. -/
def FwGuard (geometry : Nat → Geometry) (s : Stager) : FwEvent → Prop
  | .update call env => CallGuard geometry s call env
  | .setRetry _ => True

/-- The buffer holds the bytes received last for its addresses. -/
structure Session.Holds (x : Session) (received : Nat → Nat → Option UInt8) : Prop where
  joins : x.bufOffset ≤ x.collected
  short : x.collected ≤ sectorSz64k
  word : x.startOffset + x.collected < 2 ^ 32
  bytes : ∀ index < x.collected,
    received x.position (x.startOffset + index) = some (x.txbuf index)

/-- What is staged is what was received. -/
def Staged (s : Stager) : Prop := ∀ x ∈ s.session, x.Holds s.received

/-- A call of `fw_update` that reports success, and the state after it. -/
def fwSucceed (geometry : Nat → Geometry) (s : Stager) (call : FwCall × FwEnv) : Option Stager :=
  let updated := fwUpdate geometry s call.1 call.2
  if updated.1 = fwupdateSuccess then some updated.2 else none

def imageOf (calls : List (FwCall × FwEnv)) : List UInt8 := calls.flatMap fun call => call.1.msg

/-- Calls that deliver an image to a flash in order, from this offset on: the last has the end flag
and no other, and none but the first starts anew. -/
def InOrder (position : Nat) : Nat → List (FwCall × FwEnv) → Prop
  | _, [] => False
  | next, [last] =>
    last.1.position = position ∧ last.1.offset.toNat = next ∧ last.1.ends = true
  | next, call :: later :: rest =>
    call.1.position = position ∧ call.1.offset.toNat = next ∧ call.1.ends = false ∧
      later.1.forces = false ∧ InOrder position (next + call.1.msg.length) (later :: rest)

/-- The flash has an image at an offset. -/
def HoldsImage (content : Memory) (offset : Nat) (image : List UInt8) : Prop :=
  ∀ index byte, image[index]? = some byte → content (offset + index) = byte

/-- The start of an image is delivered to the flash and, from where it starts on, to the buffer. -/
structure Session.Carries (x : Session) (content : Memory) (offset : Nat) (image : List UInt8) :
    Prop where
  place : x.startOffset + x.bufOffset = offset + image.length
  bytes : ∀ index byte, image[index]? = some byte →
    if offset + index < x.startOffset then content (offset + index) = byte
    else x.txbuf (offset + index - x.startOffset) = byte

/-- The image is on the flash, as far as it is not staged. -/
def Stager.Delivered (s : Stager) (position offset : Nat) (image : List UInt8) : Prop :=
  match s.session with
  | none => HoldsImage (s.content position) offset image
  | some x => x.Carries (s.content position) offset image

section Steps

variable {geometry : Nat → Geometry} {s t : Stager} {x : Session} {call : FwCall} {env : FwEnv}

/-- What a call of `fw_update` may come to: it is refused and the buffer gone, its bytes are kept in
the buffer, or the buffer is written. -/
inductive Outcome (geometry : Nat → Geometry) (s : Stager) (call : FwCall) (env : FwEnv) :
    UInt8 → Stager → Prop where
  | refused {code : UInt8} {t : Stager} (failed : code ≠ fwupdateSuccess)
      (session : t.session = none) : Outcome geometry s call env code t
  | kept {code : UInt8} {t : Stager} {x : Session} (aimed : s.aim call env = some x)
      (fits : (x.bufOffset + call.msg.length) % 2 ^ 32 ≤ sectorSz64k)
      (session : t.session = some (x.store call)) (devices : t.devices = s.devices)
      (received : t.received = (s.receive call).received)
      (last : code = fwupdateSuccess → call.ends = false) : Outcome geometry s call env code t
  | flushed {t : Stager} {x : Session} {device : Device} (aimed : s.aim call env = some x)
      (fits : (x.bufOffset + call.msg.length) % 2 ^ 32 ≤ sectorSz64k)
      (full : call.ends = true ∨ (x.store call).bufOffset = sectorSz64k)
      (done : doUpdate (geometry call.position) x.startOffset (x.store call).txbuf
        (x.store call).bufOffset (s.devices call.position) = .ok () device)
      (session : t.session = none)
      (devices : t.devices = update s.devices call.position device)
      (received : t.received = (s.receive call).received) :
      Outcome geometry s call env fwupdateSuccess t

theorem returnCode_ne {code : Int} (survives : ¬ (256 : Int) ∣ code) :
    returnCode code ≠ fwupdateSuccess := by
  intro same
  have value : (code % 256).toNat % 256 = 0 := congrArg UInt8.toNat same
  exact survives (Int.dvd_of_emod_eq_zero (by omega))

theorem Stager.flush_outcome (guarded : CallGuard geometry s call env)
    (aimed : s.aim call env = some x)
    (fits : (x.bufOffset + call.msg.length) % 2 ^ 32 ≤ sectorSz64k)
    (full : call.ends = true ∨ (x.store call).bufOffset = sectorSz64k)
    (devices : t.devices = s.devices) (received : t.received = (s.receive call).received) :
    Outcome geometry s call env (t.flush geometry (x.store call) call env).1
      (t.flush geometry (x.store call) call env).2 := by
  unfold Stager.flush
  split
  · exact .kept aimed fits rfl devices received nofun
  · split
    · rename_i failing
      exact .refused (returnCode_ne fun divides => failing.2 (guarded.reInit divides)) rfl
    · dsimp only
      split
      · rename_i device done
        rw [devices] at done
        exact .flushed aimed fits full done rfl (by rw [← devices]) received
      · rename_i code device raised
        rw [devices] at raised
        refine .refused (returnCode_ne fun divides => ?_) rfl
        rcases Reporting.doUpdate.error _ _ _ raised with rfl | ⟨index, nonzero, rfl⟩
        · exact absurd divides (by decide)
        · exact nonzero (guarded.errors index divides)

theorem Stager.collect_outcome (guarded : CallGuard geometry s call env)
    (aimed : s.aim call env = some x) (devices : t.devices = s.devices)
    (received : t.received = (s.receive call).received) :
    Outcome geometry s call env (t.collect geometry x call env).1
      (t.collect geometry x call env).2 := by
  unfold Stager.collect
  split
  · exact .refused (show fwupdateOverLength ≠ fwupdateSuccess by decide) rfl
  · rename_i fits
    dsimp only
    split
    · rename_i full
      exact Stager.flush_outcome guarded aimed (Nat.not_lt.mp fits) full.symm devices received
    · rename_i later
      exact .kept aimed (Nat.not_lt.mp fits) rfl devices received fun _ =>
        Bool.eq_false_iff.mpr fun ends => later (.inr ends)

theorem FwCall.fresh_recorded (call : FwCall) (txbuf : Memory) :
    (call.fresh txbuf).recorded = call.offset.toNat :=
  Nat.mod_eq_of_lt call.offset.toNat_lt

theorem fwUpdate_outcome (guarded : CallGuard geometry s call env) :
    Outcome geometry s call env (fwUpdate geometry s call env).1
      (fwUpdate geometry s call env).2 := by
  cases continued : if call.begins then none else s.session with
  | none =>
    have aimed : s.aim call env = (env.malloc <|> env.mallocAgain).map call.fresh := by
      rw [Stager.aim, continued]
    have prepared : ∃ retry, (s.receive call).prepare call env = { s.receive call with
        fwUpdateRetry := retry
        session := (env.malloc <|> env.mallocAgain).map call.fresh } := by
      unfold Stager.prepare
      split at continued
      · rename_i begins
        exact ⟨s.defaultRetryCount, by simp only [begins, if_true]; rfl⟩
      · rename_i begins
        refine ⟨s.fwUpdateRetry, ?_⟩
        have empty : (s.receive call).session = none := continued
        simp only [begins, Bool.false_eq_true, if_false, empty]
        rfl
    obtain ⟨retry, prepared⟩ := prepared
    unfold fwUpdate
    rw [prepared]
    cases heap : env.malloc <|> env.mallocAgain with
    | none => exact .refused (show fwupdateOutOfHeap ≠ fwupdateSuccess by decide) rfl
    | some txbuf =>
      rw [heap] at aimed
      dsimp only [Option.map_some]
      rw [if_neg (not_not.mpr (call.fresh_recorded txbuf).symm)]
      exact Stager.collect_outcome guarded aimed rfl rfl
  | some x =>
    have prepared : (s.receive call).prepare call env = s.receive call := by
      split at continued
      · cases continued
      · rename_i begins
        have present : (s.receive call).session = some x := continued
        simp only [Stager.prepare, begins, Bool.false_eq_true, if_false, present]
    have present : (s.receive call).session = some x := by
      split at continued
      · cases continued
      · exact continued
    unfold fwUpdate
    rw [prepared]
    dsimp only
    rw [present]
    dsimp only
    split
    · rename_i elsewhere
      split
      · exact .refused (show fwupdateRepeatedUpdated ≠ fwupdateSuccess by decide) rfl
      · have retry : 0 < s.fwUpdateRetry := by
          have kept : (s.receive call).fwUpdateRetry = s.fwUpdateRetry := rfl
          omega
        have aimed : s.aim call env = some (x.seek call) := by
          rw [Stager.aim, continued]
          dsimp only
          rw [if_neg elsewhere, if_pos retry]
        exact Stager.collect_outcome guarded aimed rfl rfl
    · rename_i recorded
      have aimed : s.aim call env = some x := by
        rw [Stager.aim, continued]
        dsimp only
        rw [if_pos (not_not.mp recorded)]
      exact Stager.collect_outcome guarded aimed rfl rfl

/-- The buffer a call's bytes go to holds what was received, and its place is the call's offset. -/
theorem Staged.aim (staged : Staged s) (guarded : CallGuard geometry s call env)
    (aimed : s.aim call env = some x) :
    x.Holds s.received ∧ x.startOffset + x.bufOffset = call.offset.toNat := by
  have joins := guarded.joins x aimed
  have offset := call.offset.toNat_lt
  have fresh : ∀ txbuf, (call.fresh txbuf).Holds s.received ∧
      (call.fresh txbuf).startOffset + (call.fresh txbuf).bufOffset = call.offset.toNat :=
    fun _ => ⟨⟨le_rfl, Nat.zero_le _, offset, fun _ none => absurd none (Nat.not_lt_zero _)⟩,
      rfl⟩
  unfold Stager.aim at aimed
  split at aimed
  · obtain ⟨txbuf, _, rfl⟩ := Option.map_eq_some_iff.mp aimed
    exact fresh txbuf
  · rename_i y continued
    have present : s.session = some y := by
      split at continued
      · cases continued
      · exact continued
    have holds := staged y present
    split at aimed
    · rename_i recorded
      cases aimed
      refine ⟨holds, ?_⟩
      rw [recorded, Session.recorded, Nat.mod_eq_of_lt]
      have word := holds.word
      omega
    · obtain ⟨_, same⟩ := Option.ite_none_right_eq_some.mp aimed
      cases same
      unfold Session.seek at joins ⊢
      split
      · exact fresh y.txbuf
      · rename_i behind
        rw [if_neg behind] at joins
        refine ⟨⟨joins, holds.short, holds.word, holds.bytes⟩, ?_⟩
        show y.startOffset + (call.offset.toNat - y.startOffset) = call.offset.toNat
        omega

theorem Session.store_bufOffset (word : x.startOffset + x.bufOffset + call.msg.length < 2 ^ 32) :
    (x.store call).bufOffset = x.bufOffset + call.msg.length :=
  Nat.mod_eq_of_lt (by omega)

theorem Session.store_txbuf (place : x.startOffset + x.bufOffset = call.offset.toNat)
    (index : Nat) :
    (x.store call).txbuf index =
      if call.offset.toNat ≤ x.startOffset + index ∧
          x.startOffset + index < call.offset.toNat + call.msg.length then
        call.bytes (x.startOffset + index - call.offset.toNat)
      else x.txbuf index := by
  show overwrite x.txbuf x.bufOffset call.msg.length call.bytes index = _
  unfold overwrite
  by_cases inside : x.bufOffset ≤ index ∧ index < x.bufOffset + call.msg.length
  · rw [if_pos inside, if_pos (by omega)]
    congr 1
    omega
  · rw [if_neg inside, if_neg (by omega)]

/-- The buffer with a call's bytes holds what was received last. -/
theorem Session.Holds.store (holds : x.Holds s.received) (same : x.position = call.position)
    (place : x.startOffset + x.bufOffset = call.offset.toNat)
    (word : x.startOffset + x.bufOffset + call.msg.length < 2 ^ 32)
    (fits : (x.bufOffset + call.msg.length) % 2 ^ 32 ≤ sectorSz64k) :
    (x.store call).Holds (s.receive call).received := by
  have joins := holds.joins
  have short := holds.short
  have before := holds.word
  have stored := Session.store_bufOffset word
  rw [Nat.mod_eq_of_lt (by omega)] at fits
  have collected : (x.store call).collected =
      max x.collected (x.bufOffset + call.msg.length) := if_pos holds.joins
  refine ⟨?_, ?_, ?_, ?_⟩
  · rw [stored, collected]
    exact Nat.le_max_right ..
  · rw [collected]
    exact Nat.max_le.mpr ⟨short, fits⟩
  · show x.startOffset + (x.store call).collected < 2 ^ 32
    omega
  · intro index inside
    rw [Session.store_txbuf place]
    show update s.received call.position _ x.position (x.startOffset + index) = _
    rw [same, update_self]
    split
    · rfl
    · rw [← same]
      exact holds.bytes index (by omega)

theorem Outcome.staged {code : UInt8} (outcome : Outcome geometry s call env code t)
    (staged : Staged s) (guarded : CallGuard geometry s call env) : Staged t := by
  intro x present
  cases outcome with
  | refused failed session =>
    rw [session] at present
    cases present
  | kept aimed fits session devices received last =>
    rw [session] at present
    cases present
    obtain ⟨holds, place⟩ := staged.aim guarded aimed
    rw [received]
    exact holds.store (guarded.same _ aimed) place (guarded.word _ aimed) fits
  | flushed aimed fits full done session devices received =>
    rw [session] at present
    cases present

theorem CallGuard.written (guarded : CallGuard geometry s call env)
    (aimed : s.aim call env = some x)
    (fits : (x.bufOffset + call.msg.length) % 2 ^ 32 ≤ sectorSz64k)
    (full : call.ends = true ∨ (x.store call).bufOffset = sectorSz64k) {device : Device}
    (done : doUpdate (geometry call.position) x.startOffset (x.store call).txbuf
      (x.store call).bufOffset (s.devices call.position) = .ok () device) :
    device.content = overwrite (s.content call.position) x.startOffset
      (x.bufOffset + call.msg.length) (x.store call).txbuf := by
  have word := guarded.word x aimed
  have stored := Session.store_bufOffset word
  rw [Nat.mod_eq_of_lt (by omega)] at fits
  rw [stored] at done full
  have condition : WritesExactly (geometry call.position) (s.devices call.position).content
      (x.store call).txbuf x.startOffset (x.bufOffset + call.msg.length) := by
    rcases guarded.exact x aimed full fits with aligned | reaches | last | held
    · exact .inl aligned
    · exact .inr (.inl reaches)
    · exact .inr (.inr (.inl last))
    · refine .inr (.inr (.inr fun index behind => ?_))
      have untouched : (x.store call).txbuf (x.bufOffset + call.msg.length + index) =
          x.txbuf (x.bufOffset + call.msg.length + index) :=
        overwrite_outside _ _ (by omega)
      rw [untouched]
      exact held index behind
  have inFlash := doUpdate_fits (by omega) done
  exact doUpdate_writes inFlash condition done

/-- After a call that reports success, what changed in a flash is what was received last. -/
theorem Outcome.honours (outcome : Outcome geometry s call env fwupdateSuccess t)
    (staged : Staged s) (guarded : CallGuard geometry s call env) (position address : Nat) :
    t.content position address = s.content position address ∨
      t.received position address = some (t.content position address) := by
  cases outcome with
  | refused failed session => exact absurd rfl failed
  | kept aimed fits session devices received last =>
    left
    rw [Stager.content, devices, Stager.content]
  | @flushed t x device aimed fits full done session devices received =>
    by_cases other : position = call.position
    · subst other
      have content : t.content call.position = device.content := by
        rw [Stager.content, devices, update_self]
      rw [content, guarded.written aimed fits full done]
      by_cases inside : x.startOffset ≤ address ∧
          address < x.startOffset + (x.bufOffset + call.msg.length)
      · right
        obtain ⟨holds, place⟩ := staged.aim guarded aimed
        have word := guarded.word x aimed
        have same := guarded.same x aimed
        have stored := holds.store same place word fits
        obtain ⟨index, rfl⟩ := Nat.exists_eq_add_of_le inside.1
        rw [overwrite_inside _ _ (by omega), received]
        have collected : index < (x.store call).collected := by
          have joins := stored.joins
          rw [Session.store_bufOffset word] at joins
          omega
        have bytes := stored.bytes index collected
        rw [show (x.store call).position = call.position from same] at bytes
        exact bytes
      · left
        exact overwrite_outside _ _ inside
    · left
      rw [Stager.content, devices, update_of_ne other, Stager.content]

section Delivery

variable {offset : Nat} {image : List UInt8}

/-- The buffer the next bytes go to carries what was delivered before. -/
theorem Stager.aim_carries (delivered : image = [] ∨ s.Delivered call.position offset image)
    (next : call.offset.toNat = offset + image.length)
    (plain : image = [] ∨ call.forces = false) (aimed : s.aim call env = some x)
    (place : x.startOffset + x.bufOffset = call.offset.toNat) :
    x.Carries (s.content call.position) offset image := by
  refine ⟨place.trans next, ?_⟩
  cases image with
  | nil => exact nofun
  | cons first rest =>
    have here := delivered.resolve_left (cons_ne_nil _ _)
    have unforced := plain.resolve_left (cons_ne_nil _ _)
    have nonzero : call.offset ≠ 0 := by
      intro zero
      rw [zero] at next
      simp at next
    have continues : call.begins = false := by
      rw [FwCall.begins, unforced, Bool.or_false]
      exact beq_eq_false_iff_ne.mpr nonzero
    unfold Stager.Delivered at here
    unfold Stager.aim at aimed
    simp only [continues, Bool.false_eq_true, if_false] at aimed
    cases session : s.session with
    | none =>
      rw [session] at aimed here
      obtain ⟨txbuf, _, rfl⟩ := Option.map_eq_some_iff.mp aimed
      intro index byte present
      have inside := (List.getElem?_eq_some_iff.mp present).1
      have before : offset + index < (call.fresh txbuf).startOffset := by
        show offset + index < call.offset.toNat
        omega
      rw [if_pos before]
      exact here index byte present
    | some y =>
      rw [session] at aimed here
      have recorded : call.offset.toNat = y.recorded := by
        rw [Session.recorded, here.place, ← next, Nat.mod_eq_of_lt call.offset.toNat_lt]
      dsimp only at aimed
      rw [if_pos recorded] at aimed
      cases aimed
      exact here.bytes

/-- The buffer with a call's bytes carries these too. -/
theorem Session.Carries.store {content : Memory} (carries : x.Carries content offset image)
    (next : call.offset.toNat = offset + image.length)
    (word : x.startOffset + x.bufOffset + call.msg.length < 2 ^ 32) :
    (x.store call).Carries content offset (image ++ call.msg) := by
  have place := carries.place
  refine ⟨?_, fun index byte present => ?_⟩
  · rw [Session.store_bufOffset word, length_append]
    show x.startOffset + (x.bufOffset + call.msg.length) = _
    omega
  · show if offset + index < x.startOffset then content (offset + index) = byte
      else (x.store call).txbuf (offset + index - x.startOffset) = byte
    by_cases early : index < image.length
    · rw [getElem?_append_left early] at present
      have before := carries.bytes index byte present
      split
      · rename_i flushed
        rw [if_pos flushed] at before
        exact before
      · rename_i buffered
        rw [if_neg buffered] at before
        rw [Session.store_txbuf (place.trans next.symm), if_neg (by omega)]
        exact before
    · rw [getElem?_append_right (Nat.not_lt.mp early)] at present
      have inside := (List.getElem?_eq_some_iff.mp present).1
      rw [if_neg (by omega), Session.store_txbuf (place.trans next.symm), if_pos (by omega)]
      have shifted : x.startOffset + (offset + index - x.startOffset) - call.offset.toNat =
          index - image.length := by omega
      rw [shifted, FwCall.bytes, getD_eq_getElem?_getD, present]
      rfl

theorem Session.Carries.written {content : Memory} (carries : x.Carries content offset image) :
    HoldsImage (overwrite content x.startOffset x.bufOffset x.txbuf) offset image := by
  have place := carries.place
  intro index byte present
  have inside := (List.getElem?_eq_some_iff.mp present).1
  have before := carries.bytes index byte present
  split at before
  · rw [overwrite_outside _ _ (by omega)]
    exact before
  · have within : offset + index = x.startOffset + (offset + index - x.startOffset) := by omega
    rw [within, overwrite_inside _ _ (by omega)]
    exact before

theorem Outcome.delivers (outcome : Outcome geometry s call env fwupdateSuccess t)
    (staged : Staged s) (guarded : CallGuard geometry s call env)
    (delivered : image = [] ∨ s.Delivered call.position offset image)
    (next : call.offset.toNat = offset + image.length)
    (plain : image = [] ∨ call.forces = false) :
    t.Delivered call.position offset (image ++ call.msg) ∧
      (call.ends = true → t.session = none) := by
  cases outcome with
  | refused failed session => exact absurd rfl failed
  | kept aimed fits session devices received last =>
    obtain ⟨_, place⟩ := staged.aim guarded aimed
    have carries := Stager.aim_carries delivered next plain aimed place
    refine ⟨?_, fun ends => by rw [last rfl] at ends; cases ends⟩
    unfold Stager.Delivered
    rw [session, Stager.content, devices]
    exact carries.store next (guarded.word _ aimed)
  | @flushed t x device aimed fits full done session devices received =>
    obtain ⟨_, place⟩ := staged.aim guarded aimed
    have carries := Stager.aim_carries delivered next plain aimed place
    have word := guarded.word _ aimed
    refine ⟨?_, fun _ => session⟩
    unfold Stager.Delivered
    rw [session, Stager.content, devices, update_self,
      guarded.written aimed fits full done, ← Session.store_bufOffset word]
    exact (carries.store next word).written

/-- Calls in order that report success throughout leave the image in the flash. -/
theorem deliver_run {position : Nat} {calls : List (FwCall × FwEnv)} (staged : Staged s)
    (delivered : image = [] ∨ s.Delivered position offset image)
    (inOrder : InOrder position (offset + image.length) calls)
    (plain : image = [] ∨ ∀ call ∈ calls.head?, call.1.forces = false)
    (guarded : Meets (fwSucceed geometry) (fun s call => CallGuard geometry s call.1 call.2)
      s calls)
    (ran : run (fwSucceed geometry) s calls = some t) :
    HoldsImage (t.content position) offset (image ++ imageOf calls) := by
  induction calls generalizing s image with
  | nil => exact absurd inOrder not_false
  | cons call rest ih =>
    obtain ⟨s', moved, onward⟩ := run_cons_eq_some.mp ran
    obtain ⟨allowed, remaining⟩ := guarded.tail moved
    obtain ⟨success, same⟩ := Option.ite_none_right_eq_some.mp moved
    have outcome := fwUpdate_outcome allowed
    rw [success, Option.some.inj same] at outcome
    have here : call.1.position = position ∧ call.1.offset.toNat = offset + image.length := by
      cases rest with
      | nil => exact ⟨inOrder.1, inOrder.2.1⟩
      | cons later rest => exact ⟨inOrder.1, inOrder.2.1⟩
    obtain ⟨rfl, next⟩ := here
    obtain ⟨more, ended⟩ := outcome.delivers staged allowed delivered next
      (plain.imp_right fun first => first call rfl)
    cases rest with
    | nil =>
      cases onward
      unfold Stager.Delivered at more
      rw [ended inOrder.2.2] at more
      rw [show imageOf [call] = call.1.msg from append_nil _]
      exact more
    | cons later rest =>
      obtain ⟨_, _, _, unforced, following⟩ := inOrder
      rw [show imageOf (call :: later :: rest) = call.1.msg ++ imageOf (later :: rest) from rfl,
        ← append_assoc]
      apply ih (outcome.staged staged allowed) (.inr more) ?_ (.inr ?_) remaining onward
      · rw [length_append, ← Nat.add_assoc]
        exact following
      · intro head same
        cases same
        exact unforced

end Delivery

end Steps

/-- A guarded call keeps what is staged. -/
theorem staged_step {geometry : Nat → Geometry} {s t : Stager} {event : FwEvent}
    (staged : Staged s) (guarded : FwGuard geometry s event)
    (moved : fwStep geometry s event = some t) : Staged t := by
  cases event with
  | update call env =>
    cases moved
    exact (fwUpdate_outcome guarded).staged staged guarded
  | setRetry count =>
    cases moved
    exact staged

def Stager.start (devices : Nat → Device) (isinit : Nat → Bool) (retryCount : Int) : Stager :=
  { session := none
    fwUpdateRetry := 0
    defaultRetryCount := retryCount
    isinit
    devices
    received := fun _ _ => none }

/-- If the call reports success, every byte of a flash that it changed is the byte received last for
its address. -/
def Honours (geometry : Nat → Geometry) (s : Stager) (call : FwCall) (env : FwEnv) : Prop :=
  let updated := fwUpdate geometry s call env
  updated.1 = fwupdateSuccess → ∀ position address,
    updated.2.content position address = s.content position address ∨
      updated.2.received position address = some (updated.2.content position address)

/-- The update does what it says with the calls that meet the condition. -/
structure StagedExact (geometry : Nat → Geometry) (s : Stager) : Prop where
  honours : ∀ call env, CallGuard geometry s call env → Honours geometry s call env
  delivers : ∀ position offset calls t, InOrder position offset calls →
    Meets (fwSucceed geometry) (fun s call => CallGuard geometry s call.1 call.2) s calls →
    run (fwSucceed geometry) s calls = some t →
    HoldsImage (t.content position) offset (imageOf calls)

/-- After every guarded run, the next calls write only bytes received last, and an image delivered
in order is left in the flash. -/
theorem stagedExact_run {geometry : Nat → Geometry} {devices : Nat → Device} {isinit : Nat → Bool}
    {retryCount : Int} {events : List FwEvent} {s : Stager}
    (guarded : Meets (fwStep geometry) (FwGuard geometry)
      (Stager.start devices isinit retryCount) events)
    (ran : run (fwStep geometry) (Stager.start devices isinit retryCount) events = some s) :
    StagedExact geometry s := by
  have initial : Staged (Stager.start devices isinit retryCount) :=
    nofun
  have kept : ∀ {s event t}, Staged s → FwGuard geometry s event →
      fwStep geometry s event = some t → Staged t := staged_step
  have staged : Staged s := invariant kept initial guarded ran
  refine ⟨fun call env allowed success position address => ?_,
    fun position offset calls t inOrder meets delivered => ?_⟩
  · have outcome := fwUpdate_outcome allowed
    rw [success] at outcome
    exact outcome.honours staged allowed position address
  · exact deliver_run staged (.inl rfl) inOrder (.inl rfl) meets delivered

def zeroedFlash : Device := ⟨fun _ => 0, fun _ => 0, 0⟩

def plainEnv : FwEnv :=
  { malloc := some fun _ => 0x55, mallocAgain := none, bound := true, reInit := 0 }

def firstByte : FwCall := ⟨0, [0xAA], by decide, 0, 0⟩

def lastByte : FwCall := ⟨1, [0xBB], by decide, 0x80, 0⟩

def byteAfterGap : FwCall := ⟨2, [0xBB], by decide, 0x80, 0⟩

def retrying : Stager := Stager.start (fun _ => zeroedFlash) (fun _ => true) 4

def firstBuffer : Session := (firstByte.fresh fun _ => 0x55).store firstByte

def afterFirst : Stager := (fwUpdate (fun _ => twoSectors) retrying firstByte plainEnv).2

theorem zeroedFlash_takes (buf : Memory) {len : Nat} (short : len < 4096) :
    ∃ final, doUpdate twoSectors 0 buf len zeroedFlash = .ok () final ∧
      final.content = overwrite (fun _ => 0) 0 len buf := by
  obtain ⟨final, done⟩ := doUpdate_completes_aligned (fun _ => 0) buf
    (show 0 % twoSectors.sectorSz = 0 from rfl) short (by decide)
  refine ⟨final, done, doUpdate_replaces ?_ (.inl rfl) done⟩
  show 0 + len ≤ 8192
  omega

theorem Stager.flush_ok {geometry : Nat → Geometry} {s : Stager} {x : Session} {call : FwCall}
    {env : FwEnv} {device : Device} (bound : env.bound = true)
    (initialised : s.isinit call.position = true)
    (done : doUpdate (geometry call.position) x.startOffset x.txbuf x.bufOffset
      (s.devices call.position) = .ok () device) :
    s.flush geometry x call env = (fwupdateSuccess, { s with
      session := none
      isinit := update s.isinit call.position true
      devices := update s.devices call.position device }) := by
  unfold Stager.flush
  rw [if_neg (by rw [bound]; decide), if_neg (by rw [initialised]; simp)]
  dsimp only
  rw [done]

section Evaluation

variable {geometry : Nat → Geometry} {s : Stager} {x : Session} {call : FwCall} {env : FwEnv}

theorem Stager.collect_last (fits : (x.bufOffset + call.msg.length) % 2 ^ 32 ≤ sectorSz64k)
    (last : call.ends = true) :
    s.collect geometry x call env = s.flush geometry (x.store call) call env := by
  unfold Stager.collect
  rw [if_neg (Nat.not_lt.mpr fits)]
  exact if_pos (.inr last)

theorem fwUpdate_continues (continues : call.begins = false) (present : s.session = some x) :
    fwUpdate geometry s call env =
      if call.offset.toNat ≠ x.recorded then
        if s.fwUpdateRetry - 1 < 0 then (fwupdateRepeatedUpdated, { s.receive call with
          fwUpdateRetry := s.fwUpdateRetry - 1
          session := none })
        else { s.receive call with fwUpdateRetry := s.fwUpdateRetry - 1 }.collect geometry
          (x.seek call) call env
      else { s.receive call with fwUpdateRetry := s.defaultRetryCount }.collect geometry x call
        env := by
  have held : (s.receive call).session = some x := present
  have prepared : (s.receive call).prepare call env = s.receive call := by
    simp only [Stager.prepare, continues, Bool.false_eq_true, if_false, held]
  unfold fwUpdate
  rw [prepared]
  dsimp only
  rw [held]
  rfl

end Evaluation

/-- After a gap of one byte, the buffer is written with what the allocated memory held there. -/
theorem byteAfterGap_writes :
    ∃ events s call env,
      run (fwStep fun _ => twoSectors) retrying events = some s ∧
        ¬ Honours (fun _ => twoSectors) s call env := by
  have ran : run (fwStep fun _ => twoSectors) retrying [.update firstByte plainEnv] =
      some afterFirst := rfl
  refine ⟨_, afterFirst, byteAfterGap, plainEnv, ran, fun honours => ?_⟩
  obtain ⟨final, done, content⟩ := zeroedFlash_takes
    ((firstBuffer.seek byteAfterGap).store byteAfterGap).txbuf (show 3 < 4096 by decide)
  unfold Honours at honours
  rw [fwUpdate_continues rfl (show afterFirst.session = some firstBuffer from rfl),
    if_pos (by decide), if_neg (by decide), Stager.collect_last (by decide) rfl,
    Stager.flush_ok rfl rfl done] at honours
  have written : final.content 1 = 0x55 := by
    rw [content]
    exact overwrite_inside _ _ (show 1 < 3 by decide)
  rcases honours rfl 0 1 with same | received
  · have unchanged : final.content 1 = 0 := same
    rw [written] at unchanged
    cases unchanged
  · cases received

theorem callGuard_plain {s : Stager} {x : Session} {call : FwCall}
    (aimed : s.aim call plainEnv = some x) (devices : s.devices call.position = zeroedFlash)
    (start : x.startOffset = 0) (same : x.position = call.position)
    (joins : x.bufOffset ≤ x.collected) (short : x.bufOffset + call.msg.length < 2 ^ 32) :
    CallGuard (fun _ => twoSectors) s call plainEnv := by
  refine ⟨?_, ?_, ?_, ?_, ?_, fun _ => rfl⟩
  · intro y also
    cases aimed.symm.trans also
    exact same
  · intro y also
    cases aimed.symm.trans also
    exact joins
  · intro y also
    cases aimed.symm.trans also
    omega
  · intro y also _ _
    cases aimed.symm.trans also
    exact .inl (by rw [start]; rfl)
  · intro index _
    rw [devices]
    rfl

/-- Two bytes delivered in order are in the flash. -/
theorem stagedExact_run_twoBytes :
    ∃ t, run (fwSucceed fun _ => twoSectors) retrying
        [(firstByte, plainEnv), (lastByte, plainEnv)] = some t ∧
      HoldsImage (t.content 0) 0 [0xAA, 0xBB] := by
  have idle : Meets (fwStep fun _ => twoSectors) (FwGuard fun _ => twoSectors) retrying [] :=
    trivial
  have exact : StagedExact (fun _ => twoSectors) retrying := stagedExact_run idle rfl
  obtain ⟨final, done, _⟩ := zeroedFlash_takes (firstBuffer.store lastByte).txbuf
    (show 2 < 4096 by decide)
  have begun : fwSucceed (fun _ => twoSectors) retrying (firstByte, plainEnv) = some afterFirst :=
    rfl
  obtain ⟨t, updated⟩ : ∃ t, fwUpdate (fun _ => twoSectors) afterFirst lastByte plainEnv =
      (fwupdateSuccess, t) := by
    rw [fwUpdate_continues rfl (show afterFirst.session = some firstBuffer from rfl),
      if_neg (by decide), Stager.collect_last (by decide) rfl, Stager.flush_ok rfl rfl done]
    exact ⟨_, rfl⟩
  have ended : fwSucceed (fun _ => twoSectors) afterFirst (lastByte, plainEnv) = some t := by
    unfold fwSucceed
    rw [updated]
    exact if_pos rfl
  have ran : run (fwSucceed fun _ => twoSectors) retrying
      [(firstByte, plainEnv), (lastByte, plainEnv)] = some t :=
    run_cons_eq_some.mpr ⟨afterFirst, begun, run_cons_eq_some.mpr ⟨t, ended, rfl⟩⟩
  have first : CallGuard (fun _ => twoSectors) retrying firstByte plainEnv :=
    callGuard_plain (show _ = some (firstByte.fresh fun _ => 0x55) from rfl) rfl rfl rfl
      le_rfl (by decide)
  have last : CallGuard (fun _ => twoSectors) afterFirst lastByte plainEnv :=
    callGuard_plain (show _ = some firstBuffer from rfl) rfl rfl rfl (by decide) (by decide)
  refine ⟨t, ran, exact.delivers 0 0 _ t ?_ ?_ ran⟩
  · exact ⟨rfl, rfl, rfl, rfl, rfl, rfl, rfl⟩
  · exact .cons first begun (.cons last ended trivial)

end OpenBic.Flash
