import OpenBic.Flash.Device
import Mathlib.Tactic.Ring

/-!
# `do_update`: rewriting a byte range of the flash

The routine reads, patches and rewrites the first sector when the range starts inside it,
rewrites whole sectors in a loop, and patches the last sector when the range ends inside
it. `doUpdate_exact_iff` says for which ranges a reported success means that exactly the
range was replaced. A range that starts and ends strictly inside one sector is the
exception: the head already wrote it, and the tail then patches the sector after it.
-/

namespace OpenBic.Flash

open Library.Splice

/-- `memcmp(first, second, count) == 0`. -/
def memcmpEqual (first second : Memory) (count : Nat) : Bool :=
  decide (∀ index < count, first index = second index)

def doEraseWriteVerify (geometry : Geometry) (opAddr : Nat) (writeBuf : Memory) (eraseSz : Nat) :
    Driver Unit := do
  flashErase geometry opAddr eraseSz
  flashWrite geometry opAddr writeBuf eraseSz
  let readBackBuf ← flashRead geometry opAddr eraseSz
  if memcmpEqual writeBuf readBackBuf eraseSz then pure () else throw einval

/-- The start part of `do_update`, which is not a multiple of the sector size. It returns
`op_addr` and how far `update_ptr` has moved into the buffer. -/
def updateHead (geometry : Geometry) (flashOffset opAddr : Nat) (buf : Memory) (len : Nat) :
    Driver (Nat × Nat) :=
  if flashOffset % geometry.sectorSz ≠ 0 then do
    let opBuf ← flashRead geometry opAddr geometry.sectorSz
    let remain := min (geometry.sectorSz - flashOffset % geometry.sectorSz) len
    doEraseWriteVerify geometry opAddr
      (overwrite opBuf (flashOffset % geometry.sectorSz) remain buf) geometry.sectorSz
    pure (opAddr + geometry.sectorSz, remain)
  else pure (opAddr, 0)

/-- One sector of the body: skipped while it already holds the data. -/
def updateSector (geometry : Geometry) (buf : Memory) (opAddr updatePtr : Nat) (updateIt : Bool) :
    Driver Bool := do
  let opBuf ← flashRead geometry opAddr geometry.sectorSz
  if updateIt || !memcmpEqual opBuf (view buf updatePtr) geometry.sectorSz then do
    doEraseWriteVerify geometry opAddr (view buf updatePtr) geometry.sectorSz
    pure true
  else pure false

/-- The body of `do_update`: the loop over whole sectors. -/
def updateBody (geometry : Geometry) (buf : Memory) (endSectorAddr opAddr updatePtr : Nat)
    (updateIt : Bool) : Driver (Nat × Nat) :=
  if opAddr < endSectorAddr then do
    let updateIt ← updateSector geometry buf opAddr updatePtr updateIt
    updateBody geometry buf endSectorAddr (opAddr + geometry.sectorSz)
      (updatePtr + geometry.sectorSz) updateIt
  else pure (opAddr, updatePtr)
termination_by endSectorAddr - opAddr
decreasing_by have := geometry.positive; omega

/-- The remaining part of `do_update`, up to `endAddr = flash_offset + len`. -/
def updateTail (geometry : Geometry) (buf : Memory) (endSectorAddr endAddr opAddr updatePtr : Nat) :
    Driver Unit :=
  if endSectorAddr < endAddr then do
    let opBuf ← flashRead geometry opAddr geometry.sectorSz
    let remain := endAddr - endSectorAddr
    doEraseWriteVerify geometry opAddr (overwrite opBuf 0 remain (view buf updatePtr))
      geometry.sectorSz
  else pure ()

/-- The boundary check of `do_update`. -/
def checkBoundary (geometry : Geometry) (endAddr : Nat) : Driver Unit :=
  if geometry.flashSz < endAddr then throw einval else pure ()

/-- `do_update`. The buffer is the memory from `buf` on: its first `len` bytes are the data,
and what lies behind them is whatever the memory holds there. -/
def doUpdate (geometry : Geometry) (offset : Nat) (buf : Memory) (len : Nat) : Driver Unit := do
  let flashOffset := offset % 2 ^ 32
  let endAddr := (flashOffset + len) % 2 ^ 32
  checkBoundary geometry endAddr
  malloc
  malloc
  let head ← updateHead geometry flashOffset
    (flashOffset / geometry.sectorSz * geometry.sectorSz) buf len
  let endSectorAddr := endAddr / geometry.sectorSz * geometry.sectorSz
  let body ← updateBody geometry buf endSectorAddr head.1 head.2 false
  updateTail geometry buf endSectorAddr endAddr body.1 body.2

variable {geometry : Geometry} {buf : Memory}

variable {device final : Device} {opAddr eraseSz : Nat} {updateIt : Bool} {result : Nat × Nat}
  {offset len : Nat}

theorem doEraseWriteVerify_ok {writeBuf : Memory}
    (done : doEraseWriteVerify geometry opAddr writeBuf eraseSz device = .ok () final) :
    final.content = overwrite device.content opAddr eraseSz writeBuf := by
  obtain ⟨_, erased, erasing, done⟩ := bind_eq_ok.mp done
  obtain ⟨_, written, writing, done⟩ := bind_eq_ok.mp done
  obtain ⟨readBack, checked, reading, done⟩ := bind_eq_ok.mp done
  obtain rfl := flashErase_ok erasing
  obtain rfl := flashWrite_ok writing
  obtain ⟨-, -, rfl⟩ := flashRead_ok reading
  split at done
  · cases done
    rw [overwrite_overwrite]
  · cases done

theorem doEraseWriteVerify_answering (writeBuf : Memory) (device : Device)
    (answering : ∀ index, device.answers index = 0) (fits : opAddr + eraseSz ≤ geometry.flashSz) :
    doEraseWriteVerify geometry opAddr writeBuf eraseSz device = .ok () { device with
      content := overwrite device.content opAddr eraseSz writeBuf
      calls := device.calls + 3 } := by
  refine bind_eq_ok.mpr ⟨(), _, flashErase_answering answering fits, ?_⟩
  refine bind_eq_ok.mpr ⟨(), _, flashWrite_answering (by exact answering) fits, ?_⟩
  refine bind_eq_ok.mpr ⟨_, _, flashRead_answering (by exact answering) fits, ?_⟩
  have verified : memcmpEqual writeBuf
      (view (overwrite (overwrite device.content opAddr eraseSz fun _ => 0xFF)
        opAddr eraseSz writeBuf) opAddr) eraseSz = true := by
    simp only [memcmpEqual, decide_eq_true_eq]
    intro index inside
    exact (overwrite_inside _ writeBuf inside).symm
  rw [if_pos verified, overwrite_overwrite]
  rfl

theorem updateSector_ok {opAddr updatePtr : Nat} {updateIt again : Bool}
    (done : updateSector geometry buf opAddr updatePtr updateIt device = .ok again final) :
    final.content = overwrite device.content opAddr geometry.sectorSz (view buf updatePtr) := by
  obtain ⟨opBuf, read, reading, done⟩ := bind_eq_ok.mp done
  obtain ⟨-, rfl, rfl⟩ := flashRead_ok reading
  split at done
  · obtain ⟨_, rewritten, rewriting, done⟩ := bind_eq_ok.mp done
    cases done
    exact (doEraseWriteVerify_ok rewriting).trans rfl
  · rename_i skipped
    cases done
    simp only [Bool.or_eq_true, Bool.not_eq_true', not_or, Bool.not_eq_false, memcmpEqual,
      decide_eq_true_eq] at skipped
    rw [← overwrite_congr device.content opAddr skipped.2, overwrite_view]

theorem updateBody_ok (sectors : Nat) {opAddr endSectorAddr updatePtr : Nat}
    (aligned : endSectorAddr = opAddr + sectors * geometry.sectorSz)
    (done : updateBody geometry buf endSectorAddr opAddr updatePtr updateIt device =
      .ok result final) : result = (endSectorAddr, updatePtr + sectors * geometry.sectorSz) ∧
      final.content =
        overwrite device.content opAddr (sectors * geometry.sectorSz) (view buf updatePtr) := by
  induction sectors generalizing opAddr updatePtr updateIt device with
  | zero =>
    rw [updateBody, if_neg (by omega)] at done
    cases done
    simp [aligned]
  | succ sectors ih =>
    have size : (sectors + 1) * geometry.sectorSz =
        geometry.sectorSz + sectors * geometry.sectorSz := by ring
    have positive := geometry.positive
    rw [updateBody, if_pos (by omega)] at done
    obtain ⟨again, rewritten, rewriting, done⟩ := bind_eq_ok.mp done
    obtain ⟨returned, content⟩ := ih (by omega) done
    refine ⟨by rw [returned, size, Nat.add_assoc], ?_⟩
    rw [content, updateSector_ok rewriting, size, ← overwrite_append, view_view]

theorem updateRest_ok {opAddr endAddr updatePtr : Nat} {device bodied final : Device} (sectors : Nat)
    (aligned : endAddr / geometry.sectorSz * geometry.sectorSz =
      opAddr + sectors * geometry.sectorSz)
    (body : updateBody geometry buf (endAddr / geometry.sectorSz * geometry.sectorSz) opAddr
      updatePtr false device = .ok result bodied)
    (tail : updateTail geometry buf (endAddr / geometry.sectorSz * geometry.sectorSz) endAddr
      result.1 result.2 bodied = .ok () final) :
    final.content = overwrite device.content opAddr (endAddr - opAddr) (view buf updatePtr) := by
  obtain ⟨rfl, content⟩ := updateBody_ok sectors aligned body
  have short := Nat.mod_lt endAddr geometry.positive
  have split := Nat.div_add_mod' endAddr geometry.sectorSz
  unfold updateTail at tail
  split at tail
  · obtain ⟨opBuf, read, reading, tail⟩ := bind_eq_ok.mp tail
    obtain ⟨-, rfl, rfl⟩ := flashRead_ok reading
    have size : endAddr - opAddr = sectors * geometry.sectorSz +
        (endAddr - endAddr / geometry.sectorSz * geometry.sectorSz) := by omega
    rw [doEraseWriteVerify_ok tail, overwrite_patch _ _ _ _ _ _ (by omega), content, size,
      ← overwrite_append, view_view, aligned, Nat.add_zero]
  · cases tail
    rw [content]
    congr 1
    omega

theorem sectors_between (geometry : Geometry) {first endAddr : Nat}
    (before : first ≤ endAddr / geometry.sectorSz) :
    endAddr / geometry.sectorSz * geometry.sectorSz = first * geometry.sectorSz +
      (endAddr / geometry.sectorSz - first) * geometry.sectorSz := by
  rw [← Nat.add_mul, Nat.add_sub_cancel' before]

theorem doUpdate_parts (fits : offset + len ≤ geometry.flashSz)
    (done : doUpdate geometry offset buf len device = .ok () final) :
    ∃ start headed bodied : Device, ∃ head body : Nat × Nat, start.content = device.content ∧
      updateHead geometry offset (offset / geometry.sectorSz * geometry.sectorSz) buf len start =
        .ok head headed ∧
      updateBody geometry buf ((offset + len) / geometry.sectorSz * geometry.sectorSz) head.1
        head.2 false headed = .ok body bodied ∧
      updateTail geometry buf ((offset + len) / geometry.sectorSz * geometry.sectorSz)
        (offset + len) body.1 body.2 bodied = .ok () final := by
  have word := geometry.word
  have low : offset % 2 ^ 32 = offset := Nat.mod_eq_of_lt (by omega)
  have high : (offset + len) % 2 ^ 32 = offset + len := Nat.mod_eq_of_lt (by omega)
  simp only [doUpdate, low, high] at done
  obtain ⟨_, checked, checking, done⟩ := bind_eq_ok.mp done
  obtain ⟨_, opAllocated, opAllocating, done⟩ := bind_eq_ok.mp done
  obtain ⟨_, backAllocated, backAllocating, done⟩ := bind_eq_ok.mp done
  obtain ⟨head, headed, heading, done⟩ := bind_eq_ok.mp done
  obtain ⟨body, bodied, bodying, tailing⟩ := bind_eq_ok.mp done
  obtain rfl := malloc_ok opAllocating
  obtain rfl := malloc_ok backAllocating
  rw [checkBoundary, if_neg (by omega)] at checking
  cases checking
  refine ⟨_, headed, bodied, head, body, ?_, heading, bodying, tailing⟩
  rfl

theorem updateHead_ok (unaligned : offset % geometry.sectorSz ≠ 0)
    (done : updateHead geometry offset (offset / geometry.sectorSz * geometry.sectorSz) buf len
      device = .ok result final) :
    result = (offset / geometry.sectorSz * geometry.sectorSz + geometry.sectorSz,
        min (geometry.sectorSz - offset % geometry.sectorSz) len) ∧
      final.content = overwrite device.content offset
        (min (geometry.sectorSz - offset % geometry.sectorSz) len) buf := by
  rw [updateHead, if_pos unaligned] at done
  obtain ⟨opBuf, read, reading, patching⟩ := bind_eq_ok.mp done
  obtain ⟨-, rfl, rfl⟩ := flashRead_ok reading
  obtain ⟨_, rewritten, rewriting, returning⟩ := bind_eq_ok.mp patching
  cases returning
  refine ⟨rfl, (doEraseWriteVerify_ok rewriting).trans ?_⟩
  have short := Nat.mod_lt offset geometry.positive
  rw [overwrite_patch _ _ _ _ _ _ (by omega), Nat.div_add_mod']

/-- A range that starts on a sector boundary or reaches the end of its first sector is
replaced exactly. -/
theorem doUpdate_replaces (fits : offset + len ≤ geometry.flashSz)
    (reaches : offset % geometry.sectorSz = 0 ∨
      geometry.sectorSz ≤ offset % geometry.sectorSz + len)
    (done : doUpdate geometry offset buf len device = .ok () final) :
    final.content = overwrite device.content offset len buf := by
  obtain ⟨start, headed, bodied, head, body, content, heading, bodying, tailing⟩ :=
    doUpdate_parts fits done
  have split := Nat.div_add_mod' offset geometry.sectorSz
  have short := Nat.mod_lt offset geometry.positive
  by_cases aligned : offset % geometry.sectorSz = 0
  · rw [updateHead, if_neg (by simpa using aligned)] at heading
    cases heading
    have rest := updateRest_ok _ (sectors_between geometry
      (Nat.div_le_div_right (Nat.le_add_right offset len))) bodying tailing
    have boundary : offset / geometry.sectorSz * geometry.sectorSz = offset := by omega
    rw [rest, content, view_zero, boundary, Nat.add_sub_cancel_left]
  · obtain ⟨rfl, patched⟩ := updateHead_ok aligned heading
    have remain : min (geometry.sectorSz - offset % geometry.sectorSz) len =
        geometry.sectorSz - offset % geometry.sectorSz := by omega
    have next : offset / geometry.sectorSz * geometry.sectorSz + geometry.sectorSz =
        (offset / geometry.sectorSz + 1) * geometry.sectorSz := by ring
    have before : offset / geometry.sectorSz + 1 ≤ (offset + len) / geometry.sectorSz := by
      rw [Nat.le_div_iff_mul_le geometry.positive, ← next]
      omega
    rw [remain, next] at bodying
    have rest := updateRest_ok _ (sectors_between geometry before) bodying tailing
    have size : len = (geometry.sectorSz - offset % geometry.sectorSz) +
        (offset + len - (offset / geometry.sectorSz + 1) * geometry.sectorSz) := by omega
    have boundary : (offset / geometry.sectorSz + 1) * geometry.sectorSz =
        offset + (geometry.sectorSz - offset % geometry.sectorSz) := by omega
    rw [rest, patched, remain, content]
    conv_rhs => rw [size, ← overwrite_append]
    rw [← boundary]

def nextSector (geometry : Geometry) (offset : Nat) : Nat :=
  (offset / geometry.sectorSz + 1) * geometry.sectorSz

/-- A range that starts and ends inside one sector, touching neither of its boundaries. -/
structure InsideOneSector (geometry : Geometry) (offset len : Nat) : Prop where
  unaligned : offset % geometry.sectorSz ≠ 0
  short : offset % geometry.sectorSz + len < geometry.sectorSz

theorem InsideOneSector.end_eq (inside : InsideOneSector geometry offset len) :
    (offset + len) / geometry.sectorSz = offset / geometry.sectorSz := by
  have split := Nat.div_add_mod' offset geometry.sectorSz
  rw [Nat.div_eq_iff geometry.positive]
  have := inside.short
  omega

theorem InsideOneSector.before_next (inside : InsideOneSector geometry offset len) :
    offset + len < nextSector geometry offset ∧ nextSector geometry offset =
      offset / geometry.sectorSz * geometry.sectorSz + geometry.sectorSz := by
  have split := Nat.div_add_mod' offset geometry.sectorSz
  have next : nextSector geometry offset =
      offset / geometry.sectorSz * geometry.sectorSz + geometry.sectorSz := by
    unfold nextSector
    ring
  have := inside.short
  exact ⟨by omega, next⟩

theorem updateBody_none {endSectorAddr opAddr updatePtr : Nat} (behind : endSectorAddr ≤ opAddr) :
    updateBody geometry buf endSectorAddr opAddr updatePtr updateIt = pure (opAddr, updatePtr) := by
  rw [updateBody, if_neg (by omega)]

theorem doUpdate_overruns
    (fits : offset + len ≤ geometry.flashSz) (inside : InsideOneSector geometry offset len)
    (done : doUpdate geometry offset buf len device = .ok () final) :
    nextSector geometry offset + geometry.sectorSz ≤ geometry.flashSz ∧
      final.content = overwrite (overwrite device.content offset len buf)
        (nextSector geometry offset) (offset % geometry.sectorSz + len) (view buf len) := by
  obtain ⟨start, headed, bodied, head, body, content, heading, bodying, tailing⟩ :=
    doUpdate_parts fits done
  obtain ⟨rfl, patched⟩ := updateHead_ok inside.unaligned heading
  have split := Nat.div_add_mod' offset geometry.sectorSz
  have remain : min (geometry.sectorSz - offset % geometry.sectorSz) len = len := by
    have := inside.short
    omega
  obtain ⟨-, next⟩ := inside.before_next
  rw [inside.end_eq, remain] at bodying
  rw [updateBody_none (by omega)] at bodying
  cases bodying
  have positive : 0 < offset % geometry.sectorSz := Nat.pos_of_ne_zero inside.unaligned
  rw [inside.end_eq, updateTail, if_pos (by omega)] at tailing
  obtain ⟨opBuf, read, reading, rewriting⟩ := bind_eq_ok.mp tailing
  obtain ⟨room, rfl, rfl⟩ := flashRead_ok reading
  refine ⟨by omega, ?_⟩
  have size : offset + len - offset / geometry.sectorSz * geometry.sectorSz =
      offset % geometry.sectorSz + len := by omega
  rw [doEraseWriteVerify_ok rewriting, size,
    overwrite_patch _ _ _ _ _ _ (by have := inside.short; omega), patched, remain, content,
    Nat.add_zero, next]

theorem updateHead_answering (buf : Memory) (device : Device)
    (answering : ∀ index, device.answers index = 0) (inside : InsideOneSector geometry offset len)
    (room : nextSector geometry offset ≤ geometry.flashSz) :
    ∃ headed, updateHead geometry offset (offset / geometry.sectorSz * geometry.sectorSz) buf len
      device = .ok (nextSector geometry offset, len) headed ∧
        ∀ index, headed.answers index = 0 := by
  obtain ⟨-, next⟩ := inside.before_next
  have remain : min (geometry.sectorSz - offset % geometry.sectorSz) len = len := by
    have := inside.short
    omega
  have inFlash : offset / geometry.sectorSz * geometry.sectorSz + geometry.sectorSz ≤
      geometry.flashSz := by omega
  have reading := flashRead_answering answering inFlash
  have rewriting := doEraseWriteVerify_answering
    (overwrite (view device.content (offset / geometry.sectorSz * geometry.sectorSz))
      (offset % geometry.sectorSz) len buf)
    { device with calls := device.calls + 1 } answering inFlash
  rw [updateHead, if_pos inside.unaligned, ← next]
  simp only [remain]
  exact ⟨_, bind_eq_ok.mpr ⟨_, _, reading, bind_eq_ok.mpr ⟨(), _, rewriting, rfl⟩⟩,
    by exact answering⟩

theorem updateTail_answering (buf : Memory) (endSectorAddr endAddr updatePtr : Nat)
    {opAddr : Nat} {device : Device}
    (answering : ∀ index, device.answers index = 0)
    (room : opAddr + geometry.sectorSz ≤ geometry.flashSz) :
    ∃ final, updateTail geometry buf endSectorAddr endAddr opAddr updatePtr device =
      .ok () final := by
  by_cases remains : endSectorAddr < endAddr
  · rw [updateTail, if_pos remains]
    exact ⟨_, bind_eq_ok.mpr ⟨_, _, flashRead_answering answering room,
      doEraseWriteVerify_answering _ _ (by exact answering) room⟩⟩
  · rw [updateTail, if_neg remains]
    exact ⟨device, rfl⟩

theorem doUpdate_completes (content buf : Memory) (inside : InsideOneSector geometry offset len)
    (room : nextSector geometry offset + geometry.sectorSz ≤ geometry.flashSz) :
    ∃ final, doUpdate geometry offset buf len ⟨content, fun _ => 0, 0⟩ = .ok () final := by
  obtain ⟨before, -⟩ := inside.before_next
  have word := geometry.word
  have low : offset % 2 ^ 32 = offset := Nat.mod_eq_of_lt (by omega)
  have high : (offset + len) % 2 ^ 32 = offset + len := Nat.mod_eq_of_lt (by omega)
  have within : checkBoundary geometry (offset + len) ⟨content, fun _ => 0, 0⟩ =
      .ok () ⟨content, fun _ => 0, 0⟩ := by
    rw [checkBoundary, if_neg (by omega)]
    rfl
  obtain ⟨headed, heading, answering⟩ := updateHead_answering buf
    ⟨content, fun _ => 0, 2⟩ (fun _ => rfl) inside (by omega)
  obtain ⟨final, tailing⟩ := updateTail_answering buf
    (offset / geometry.sectorSz * geometry.sectorSz) (offset + len) len answering room
  have bodying : updateBody geometry buf (offset / geometry.sectorSz * geometry.sectorSz)
      (nextSector geometry offset) len false headed =
        .ok (nextSector geometry offset, len) headed := by
    rw [updateBody_none (by have := Nat.div_mul_le_self offset geometry.sectorSz; omega)]
    rfl
  refine ⟨final, ?_⟩
  simp only [doUpdate, low, high, inside.end_eq]
  exact bind_eq_ok.mpr ⟨(), _, within, bind_eq_ok.mpr ⟨(), _, malloc_answering (fun _ => rfl),
    bind_eq_ok.mpr ⟨(), _, malloc_answering (fun _ => rfl), bind_eq_ok.mpr ⟨_, _, heading,
    bind_eq_ok.mpr ⟨_, _, bodying, tailing⟩⟩⟩⟩⟩

/-- It completes an update of the first bytes of a sector. -/
theorem doUpdate_completes_aligned (content buf : Memory)
    (aligned : offset % geometry.sectorSz = 0) (short : len < geometry.sectorSz)
    (room : offset + geometry.sectorSz ≤ geometry.flashSz) :
    ∃ final, doUpdate geometry offset buf len ⟨content, fun _ => 0, 0⟩ = .ok () final := by
  have word := geometry.word
  have low : offset % 2 ^ 32 = offset := Nat.mod_eq_of_lt (by omega)
  have high : (offset + len) % 2 ^ 32 = offset + len := Nat.mod_eq_of_lt (by omega)
  have split := Nat.div_add_mod' offset geometry.sectorSz
  have ends : (offset + len) / geometry.sectorSz = offset / geometry.sectorSz := by
    rw [Nat.div_eq_iff geometry.positive]
    omega
  have within : checkBoundary geometry (offset + len) ⟨content, fun _ => 0, 0⟩ =
      .ok () ⟨content, fun _ => 0, 0⟩ := by
    rw [checkBoundary, if_neg (by omega)]
    rfl
  have heading : updateHead geometry offset (offset / geometry.sectorSz * geometry.sectorSz) buf len
      ⟨content, fun _ => 0, 2⟩ =
        .ok (offset / geometry.sectorSz * geometry.sectorSz, 0) ⟨content, fun _ => 0, 2⟩ := by
    rw [updateHead, if_neg (by simpa using aligned)]
    rfl
  have bodying : updateBody geometry buf (offset / geometry.sectorSz * geometry.sectorSz)
      (offset / geometry.sectorSz * geometry.sectorSz) 0 false ⟨content, fun _ => 0, 2⟩ =
        .ok (offset / geometry.sectorSz * geometry.sectorSz, 0) ⟨content, fun _ => 0, 2⟩ := by
    rw [updateBody_none le_rfl]
    rfl
  have answering : ∀ index, (⟨content, fun _ => 0, 2⟩ : Device).answers index = 0 := fun _ => rfl
  have inFlash : offset / geometry.sectorSz * geometry.sectorSz + geometry.sectorSz ≤
      geometry.flashSz := by omega
  obtain ⟨final, tailing⟩ := updateTail_answering buf
    (offset / geometry.sectorSz * geometry.sectorSz) (offset + len) 0 answering inFlash
  refine ⟨final, ?_⟩
  simp only [doUpdate, low, high, ends]
  exact bind_eq_ok.mpr ⟨(), _, within, bind_eq_ok.mpr ⟨(), _, malloc_answering (fun _ => rfl),
    bind_eq_ok.mpr ⟨(), _, malloc_answering (fun _ => rfl), bind_eq_ok.mpr ⟨_, _, heading,
    bind_eq_ok.mpr ⟨_, _, bodying, tailing⟩⟩⟩⟩⟩

theorem Reporting.doEraseWriteVerify {writeBuf : Memory} :
    Reporting (doEraseWriteVerify geometry opAddr writeBuf eraseSz) := by
  refine Reporting.flashErase.bind fun _ => Reporting.flashWrite.bind fun _ =>
    Reporting.flashRead.bind fun _ => ?_
  split
  · exact .pure ()
  · exact .refuse

theorem Reporting.updateHead {flashOffset opAddr len : Nat} :
    Reporting (updateHead geometry flashOffset opAddr buf len) := by
  unfold Flash.updateHead
  split
  · exact Reporting.flashRead.bind fun _ => Reporting.doEraseWriteVerify.bind fun _ => .pure _
  · exact .pure _

theorem Reporting.updateSector {opAddr updatePtr : Nat} :
    Reporting (updateSector geometry buf opAddr updatePtr updateIt) := by
  refine Reporting.flashRead.bind fun _ => ?_
  split
  · exact Reporting.doEraseWriteVerify.bind fun _ => .pure _
  · exact .pure _

theorem Reporting.updateBody {endSectorAddr opAddr updatePtr : Nat} :
    Reporting (updateBody geometry buf endSectorAddr opAddr updatePtr updateIt) := by
  fun_induction Flash.updateBody geometry buf endSectorAddr opAddr updatePtr updateIt with
  | case1 opAddr updatePtr updateIt before ih =>
    exact Reporting.updateSector.bind fun updateIt => ih updateIt
  | case2 opAddr updatePtr updateIt behind => exact .pure _

theorem Reporting.updateTail {endSectorAddr endAddr opAddr updatePtr : Nat} :
    Reporting (updateTail geometry buf endSectorAddr endAddr opAddr updatePtr) := by
  unfold Flash.updateTail
  split
  · exact Reporting.flashRead.bind fun _ => Reporting.doEraseWriteVerify
  · exact .pure ()

theorem Reporting.doUpdate : Reporting (doUpdate geometry offset buf len) := by
  have checked : Reporting (checkBoundary geometry ((offset % 2 ^ 32 + len) % 2 ^ 32)) := by
    unfold checkBoundary
    split
    · exact .refuse
    · exact .pure ()
  exact checked.bind fun _ => Reporting.malloc.bind fun _ => Reporting.malloc.bind fun _ =>
    Reporting.updateHead.bind fun _ => Reporting.updateBody.bind fun _ => Reporting.updateTail

/-- Every reported success of the update leaves exactly the requested range replaced. -/
def UpdatesExactly (geometry : Geometry) (content buf : Memory) (offset len : Nat) : Prop :=
  ∀ device final : Device, device.content = content →
    doUpdate geometry offset buf len device = .ok () final →
    final.content = overwrite content offset len buf

/-- The sector after the range already holds the bytes that lie behind the buffer. -/
def NextSectorHolds (geometry : Geometry) (content buf : Memory) (offset len : Nat) : Prop :=
  ∀ index < offset % geometry.sectorSz + len,
    buf (len + index) = content (nextSector geometry offset + index)

theorem exact_of_inside {content : Memory} (inside : InsideOneSector geometry offset len)
    (room : nextSector geometry offset + geometry.sectorSz ≤ geometry.flashSz)
    (updates : UpdatesExactly geometry content buf offset len) :
    NextSectorHolds geometry content buf offset len := by
  obtain ⟨before, -⟩ := inside.before_next
  obtain ⟨final, done⟩ := doUpdate_completes content buf inside room
  obtain ⟨-, overrun⟩ := doUpdate_overruns (by omega) inside done
  have same := (updates _ final rfl done).symm.trans overrun
  intro index behind
  have cell := (overwrite_eq_self_iff _ _ _ _).mp same.symm index behind
  rwa [overwrite_outside _ _ (by omega)] at cell

/-- The ranges that an update replaces exactly: those that start on a sector boundary, reach the end
of their first sector or lie in the last sector, and those whose next sector already holds the
bytes behind the buffer. -/
def WritesExactly (geometry : Geometry) (content buf : Memory) (offset len : Nat) : Prop :=
  offset % geometry.sectorSz = 0 ∨ geometry.sectorSz ≤ offset % geometry.sectorSz + len ∨
    geometry.flashSz < nextSector geometry offset + geometry.sectorSz ∨
    NextSectorHolds geometry content buf offset len

theorem doUpdate_writes (fits : offset + len ≤ geometry.flashSz)
    (condition : WritesExactly geometry device.content buf offset len)
    (done : doUpdate geometry offset buf len device = .ok () final) :
    final.content = overwrite device.content offset len buf := by
  by_cases reaches : offset % geometry.sectorSz = 0 ∨
      geometry.sectorSz ≤ offset % geometry.sectorSz + len
  · exact doUpdate_replaces fits reaches done
  have inside : InsideOneSector geometry offset len := ⟨by tauto, by omega⟩
  obtain ⟨room, overrun⟩ := doUpdate_overruns fits inside done
  have held : NextSectorHolds geometry device.content buf offset len := by
    rcases condition with aligned | reached | last | held
    · exact absurd (.inl aligned) reaches
    · exact absurd (.inr reached) reaches
    · omega
    · exact held
  obtain ⟨before, -⟩ := inside.before_next
  rw [overrun, overwrite_eq_self_iff]
  intro index behind
  rw [overwrite_outside _ _ (by omega)]
  exact held index behind

theorem doUpdate_fits (word : offset + len < 2 ^ 32)
    (done : doUpdate geometry offset buf len device = .ok () final) :
    offset + len ≤ geometry.flashSz := by
  obtain ⟨_, checked, checking, _⟩ := bind_eq_ok.mp done
  rw [Nat.mod_eq_of_lt (by omega : offset < 2 ^ 32), Nat.mod_eq_of_lt word] at checking
  unfold checkBoundary at checking
  split at checking
  · cases checking
  · rename_i inside
    exact Nat.not_lt.mp inside

/-- A reported success replaces exactly the range, for ranges of the flash, if and only if the
range starts on a sector boundary, or reaches the end of its first sector, or lies in the last
sector, or the next sector already holds the bytes behind the buffer. -/
theorem doUpdate_exact_iff (geometry : Geometry) (content buf : Memory) (offset len : Nat)
    (fits : offset + len ≤ geometry.flashSz) :
    UpdatesExactly geometry content buf offset len ↔
      offset % geometry.sectorSz = 0 ∨ geometry.sectorSz ≤ offset % geometry.sectorSz + len ∨
        geometry.flashSz < nextSector geometry offset + geometry.sectorSz ∨
        NextSectorHolds geometry content buf offset len := by
  constructor
  · intro updates
    by_cases aligned : offset % geometry.sectorSz = 0
    · exact .inl aligned
    by_cases reaches : geometry.sectorSz ≤ offset % geometry.sectorSz + len
    · exact .inr (.inl reaches)
    by_cases last : geometry.flashSz < nextSector geometry offset + geometry.sectorSz
    · exact .inr (.inr (.inl last))
    exact .inr (.inr (.inr (exact_of_inside ⟨aligned, by omega⟩ (by omega) updates)))
  · intro condition device final start done
    subst start
    exact doUpdate_writes fits condition done

def twoSectors : Geometry := ⟨8192, 4096, by decide, by decide, by decide⟩

/-- One byte at offset 1 of an erased flash of two sectors: the update is exact when an erased
byte value lies behind the buffer. -/
theorem doUpdate_exact_iff_twoSectors :
    1 + 1 ≤ twoSectors.flashSz ∧
      UpdatesExactly twoSectors (fun _ => 0xFF) (fun _ => 0xFF) 1 1 :=
  ⟨by decide, (doUpdate_exact_iff twoSectors (fun _ => 0xFF) (fun _ => 0xFF) 1 1 (by decide)).mpr
    (.inr (.inr (.inr fun _ _ => rfl)))⟩

/-- One byte 0xAA at offset 1 of a zeroed flash of two sectors, with 0x55 behind it in memory:
the update reports success and the second sector is changed. -/
theorem doUpdate_overruns_nextSector :
    ¬ ∀ (geometry : Geometry) (content buf : Memory) (offset len : Nat),
      offset + len ≤ geometry.flashSz → UpdatesExactly geometry content buf offset len := by
  intro always
  have inside : InsideOneSector twoSectors 1 1 := ⟨by decide, by decide⟩
  have held := exact_of_inside inside (by decide)
    (always twoSectors (fun _ => 0) (fun index => if index = 0 then 0xAA else 0x55) 1 1
      (by decide))
  exact absurd (held 0 (by decide)) (by decide)

end OpenBic.Flash
