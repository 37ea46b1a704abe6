import OpenBic.Ssif.Device

/-!
# The response read back in blocks

The host reads a response by a read start and as many read nexts as the device waits for. The
blocks, without what marks them, are the response, unless it is longer than the response buffer
allows: `ssif_set_data` then copies less than the length it keeps.
-/

namespace OpenBic.Ssif

open List Library.Splice

/-! ## Messages and blocks -/

/-- The block in a message of the device: as many bytes as its length byte says. -/
def unframed (message : List UInt8) : List UInt8 :=
  (message.drop 1).take (message.getD 0 0).toNat

theorem unframed_framed (p : Platform) (cmd : SsifCmd) {block : List UInt8}
    (short : block.length < 256) : unframed (p.framed cmd block) = block := by
  have length : (UInt8.ofNat block.length).toNat = block.length := by
    simpa using Nat.mod_eq_of_lt short
  unfold Platform.framed unframed
  split <;> simp only [cons_append, getD_cons_zero, drop_succ_cons, drop_zero,
    length]
  · exact take_left
  · exact take_length

/-- The host's read of a response: a read start, and a read next as long as the device waits for
one; the blocks read. -/
inductive Reads (p : Platform) : SsifDev → SsifCmd → List (List UInt8) → SsifDev → Prop where
  | last {d next : SsifDev} {cmd : SsifCmd} {message : List UInt8}
      (collected : d.collectData p cmd = (next, some message))
      (done : next.curStatus = .waitForWrStart) : Reads p d cmd [unframed message] next
  | more {d next final : SsifDev} {cmd : SsifCmd} {message : List UInt8}
      {blocks : List (List UInt8)} (collected : d.collectData p cmd = (next, some message))
      (waiting : next.curStatus = .waitForRdNext) (rest : Reads p next .rdNext blocks final) :
      Reads p d cmd (unframed message :: blocks) final

theorem Reads.unique {p : Platform} {d first second : SsifDev} {cmd : SsifCmd}
    {blocks others : List (List UInt8)} (reads : Reads p d cmd blocks first)
    (again : Reads p d cmd others second) : blocks = others ∧ first = second := by
  induction reads generalizing others second with
  | last collected done =>
    cases again with
    | last same _ =>
      obtain ⟨rfl, found⟩ := Prod.mk.inj (collected.symm.trans same)
      cases found
      exact ⟨rfl, rfl⟩
    | more same waiting _ =>
      obtain ⟨rfl, -⟩ := Prod.mk.inj (collected.symm.trans same)
      rw [done] at waiting
      cases waiting
  | more collected waiting rest ih =>
    cases again with
    | last same done =>
      obtain ⟨rfl, -⟩ := Prod.mk.inj (collected.symm.trans same)
      rw [done] at waiting
      cases waiting
    | more same _ onward =>
      obtain ⟨rfl, found⟩ := Prod.mk.inj (collected.symm.trans same)
      cases found
      obtain ⟨rfl, rfl⟩ := ih onward
      exact ⟨rfl, rfl⟩

/-- The bytes of a response in blocks, without the start key and the block numbers. -/
def stripped : List (List UInt8) → List UInt8
  | [] => []
  | [block] => block
  | first :: rest => first.drop 2 ++ rest.flatMap (List.drop 1)

/-- The blocks after the first are numbered from `number` on, and exactly the last one has
`0xFF` in place of its number. -/
def NumberedFrom : Nat → List (List UInt8) → Prop
  | _, [] => False
  | _, [block] => block.head? = some 0xFF
  | number, block :: rest =>
    block.head? = some (UInt8.ofNat number) ∧ number < 0xFF ∧ NumberedFrom (number + 1) rest

/-- A single block has no marks; of several the first has the start key, and the others are
numbered from zero with the end marked on the last. -/
def Marked : List (List UInt8) → Prop
  | [] => False
  | [_] => True
  | first :: rest => first.take 2 = [0x00, 0x01] ∧ NumberedFrom 0 rest

/-- The host reads these bytes, in marked blocks, and the device waits for a request again. -/
def ReadsBack (p : Platform) (d : SsifDev) (bytes : List UInt8) : Prop :=
  ∃ blocks final, Reads p d .rdStart blocks final ∧ stripped blocks = bytes ∧ Marked blocks ∧
    final.curStatus = .waitForWrStart

/-! ## The blocks of a buffer -/

theorem SsifDev.collectData_middle (p : Platform) {d : SsifDev}
    (expected : d.curStatus = .waitForRdNext) (ready : d.rspBufLen ≠ 0)
    (more : 31 < d.remainDataLen) :
    d.collectData p .rdNext =
      ({ d with
        remainDataLen := d.remainDataLen - 31
        curRdBlck := (d.curRdBlck + 1) % 2 ^ 16 },
        some (p.framed .rdNext (UInt8.ofNat d.curRdBlck ::
          cells (view d.rspBuff (d.rspBufLen - d.remainDataLen)) 31))) := by
  simp [SsifDev.collectData, SsifDev.statusCheck, SsifDev.collect, expected, ready, more,
    ssifMaxIpmiDataSize]

theorem SsifDev.collectData_last (p : Platform) {d : SsifDev}
    (expected : d.curStatus = .waitForRdNext) (ready : d.rspBufLen ≠ 0)
    (last : d.remainDataLen ≤ 31) :
    ∃ next, d.collectData p .rdNext =
      (next, some (p.framed .rdNext (0xFF ::
        cells (view d.rspBuff (d.rspBufLen - d.remainDataLen)) d.remainDataLen))) ∧
      next.curStatus = .waitForWrStart := by
  have few : ¬ 31 < d.remainDataLen := Nat.not_lt.mpr last
  simp [SsifDev.collectData, SsifDev.statusCheck, SsifDev.collect, expected, ready, few,
    ssifMaxIpmiDataSize]

/-- The blocks after the first hold what is left of the buffer. -/
theorem reads_rest (p : Platform) (d : SsifDev) (number left : Nat)
    (expected : d.curStatus = .waitForRdNext) (ready : d.rspBufLen ≠ 0)
    (inside : left ≤ d.rspBufLen) (remain : d.remainDataLen = left)
    (count : d.curRdBlck = number) (few : 31 * number + left ≤ 31 * 0xFF) :
    ∃ blocks final, Reads p d .rdNext blocks final ∧
      blocks.flatMap (List.drop 1) = cells (view d.rspBuff (d.rspBufLen - left)) left ∧
      NumberedFrom number blocks ∧ final.curStatus = .waitForWrStart := by
  induction left using Nat.strongRecOn generalizing d number with
  | ind left ih =>
    by_cases more : 31 < left
    · have collected := d.collectData_middle p expected ready (remain.symm ▸ more)
      have smaller : left - 31 < left := by omega
      obtain ⟨blocks, final, reads, bytes, numbered, done⟩ :=
        ih (left - 31) smaller
          { d with remainDataLen := d.remainDataLen - 31, curRdBlck := (d.curRdBlck + 1) % 2 ^ 16 }
          (number + 1) expected ready (by dsimp only; omega) (by dsimp only; omega)
          (by dsimp only; omega) (by omega)
      have block : unframed (p.framed .rdNext (UInt8.ofNat d.curRdBlck ::
          cells (view d.rspBuff (d.rspBufLen - d.remainDataLen)) 31)) =
          UInt8.ofNat number :: cells (view d.rspBuff (d.rspBufLen - left)) 31 := by
        rw [unframed_framed p .rdNext (by simp), count, remain]
      have reads' := Reads.more collected expected reads
      rw [block] at reads'
      refine ⟨_, final, reads', ?_, ?_, done⟩
      · have split : left = 31 + (left - 31) := by omega
        have shift : d.rspBufLen - (left - 31) = d.rspBufLen - left + 31 := by omega
        conv_rhs => rw [split, cells_add, view_view]
        rw [flatMap_cons, bytes, shift]
        simp [← split]
      · cases blocks with
        | nil => exact absurd numbered id
        | cons next rest => exact ⟨rfl, by omega, numbered⟩
    · obtain ⟨final, collected, done⟩ := d.collectData_last p expected ready (by omega)
      have block : unframed (p.framed .rdNext (0xFF ::
          cells (view d.rspBuff (d.rspBufLen - d.remainDataLen)) d.remainDataLen)) =
          0xFF :: cells (view d.rspBuff (d.rspBufLen - left)) left := by
        rw [unframed_framed p .rdNext (by simp; omega), remain]
      have reads' := Reads.last collected done
      rw [block] at reads'
      exact ⟨_, final, reads', by simp, rfl, done⟩

/-- The host reads exactly the first `rsp_buf_len` bytes of the buffer and what follows it. -/
theorem readsBack_buffer (p : Platform) {d : SsifDev} (expected : d.curStatus = .waitForRdStart)
    (ready : d.rspBufLen ≠ 0) (short : d.rspBufLen ≤ 30 + 31 * 0xFF) :
    ReadsBack p d (cells d.rspBuff d.rspBufLen) := by
  by_cases several : 32 < d.rspBufLen
  · have collected : d.collectData p .rdStart =
        ({ d with
          curStatus := .waitForRdNext
          remainDataLen := d.rspBufLen - 30
          curRdBlck := 0 },
          some (p.framed .rdStart (0x00 :: 0x01 :: cells d.rspBuff 30))) := by
      simp [SsifDev.collectData, SsifDev.statusCheck, SsifDev.collect, expected, ready, several,
        ssifMaxIpmiDataSize]
    obtain ⟨blocks, final, reads, bytes, numbered, done⟩ :=
      reads_rest p
        { d with
          curStatus := .waitForRdNext
          remainDataLen := d.rspBufLen - 30
          curRdBlck := 0 } 0 (d.rspBufLen - 30) rfl ready
        (Nat.sub_le _ _) rfl rfl (by omega)
    have reads' := Reads.more collected rfl reads
    rw [unframed_framed p .rdStart (by simp)] at reads'
    cases blocks with
    | nil => exact absurd numbered id
    | cons next rest =>
      refine ⟨_, final, reads', ?_, ⟨rfl, numbered⟩, done⟩
      have split : d.rspBufLen = 30 + (d.rspBufLen - 30) := by omega
      have shift : d.rspBufLen - (d.rspBufLen - 30) = 30 := by omega
      conv_rhs => rw [split, cells_add]
      simp only [stripped, bytes, shift, drop_succ_cons, drop_zero]
  · have collected : ∃ next, d.collectData p .rdStart =
        (next, some (p.framed .rdStart (cells d.rspBuff d.rspBufLen))) ∧
        next.curStatus = .waitForWrStart := by
      simp [SsifDev.collectData, SsifDev.statusCheck, SsifDev.collect, expected, ready, several,
        ssifMaxIpmiDataSize]
    obtain ⟨next, collected, done⟩ := collected
    have reads := Reads.last collected done
    rw [unframed_framed p .rdStart (by simp; omega)] at reads
    exact ⟨_, next, reads, rfl, trivial, done⟩

/-! ## The response in the buffer -/

theorem SsifDev.setData_rspBuff (d : SsifDev) (r : Response) :
    (d.setData r).rspBuff =
      overwrite (overwrite d.rspBuff 0 3 fun index =>
        [r.netfn, r.cmd, r.completionCode].getD index 0) 3 (min r.data.length 524)
        fun index => r.data.getD index 0 := by
  have copied : (if r.data.length ≤ ipmiMsgMaxLength - 3 then r.data.length
      else ipmiMsgMaxLength - 3) = min r.data.length 524 := by
    have size : ipmiMsgMaxLength = 527 := rfl
    split <;> omega
  simp only [SsifDev.setData]
  rw [copied]

theorem SsifDev.cells_setData (d : SsifDev) (r : Response) :
    cells (d.setData r).rspBuff (3 + min r.data.length 524) =
      r.netfn :: r.cmd :: r.completionCode :: r.data.take 524 := by
  have header : cells (overwrite d.rspBuff 0 3 fun index =>
      [r.netfn, r.cmd, r.completionCode].getD index 0) 3 =
      [r.netfn, r.cmd, r.completionCode] := by
    have written := cells_overwrite_end d.rspBuff 0 3 fun index =>
      [r.netfn, r.cmd, r.completionCode].getD index 0
    exact written
  rw [d.setData_rspBuff, cells_overwrite_end, header, cells_getD _ _ (Nat.min_le_left _ _),
    Nat.min_comm, ← take_eq_take_min]
  rfl

theorem SsifDev.setData_behind (d : SsifDev) (r : Response) {place : Nat} (behind : 527 ≤ place) :
    (d.setData r).rspBuff place = d.rspBuff place := by
  rw [d.setData_rspBuff, overwrite_outside _ _ (by omega), overwrite_outside _ _ (by omega)]

theorem SsifDev.setData_rspBufLen (d : SsifDev) (r : Response) :
    (d.setData r).rspBufLen = r.bytes.length := by
  have fits : r.data.length ≤ 527 := r.fits
  simp only [SsifDev.setData, Response.bytes, length_cons]
  omega

theorem readsBack_setData (p : Platform) {d : SsifDev} (expected : d.curStatus = .waitForRdStart)
    (r : Response) :
    ReadsBack p (d.setData r) (cells (d.setData r).rspBuff r.bytes.length) := by
  have fits : r.data.length ≤ 527 := r.fits
  have length := d.setData_rspBufLen r
  rw [← length]
  refine readsBack_buffer p expected ?_ ?_ <;> rw [length] <;>
    simp only [Response.bytes, length_cons] <;> omega

theorem readsBack_of_short (p : Platform) {d : SsifDev} (expected : d.curStatus = .waitForRdStart)
    {r : Response} (short : r.data.length ≤ 524) : ReadsBack p (d.setData r) r.bytes := by
  have whole := d.cells_setData r
  rw [Nat.min_eq_left short, take_of_length_le short] at whole
  have length : r.bytes.length = 3 + r.data.length := by
    simp only [Response.bytes, length_cons]
    omega
  have result := readsBack_setData p expected r
  rw [length, whole] at result
  exact result

theorem not_readsBack_of_long {p : Platform} {d : SsifDev}
    (expected : d.curStatus = .waitForRdStart) {r : Response} (long : 524 < r.data.length)
    (stale : d.rspBuff 527 ≠ r.data[524]) : ¬ ReadsBack p (d.setData r) r.bytes := by
  intro exact
  have bytes527 : 527 < r.bytes.length := by
    simp only [Response.bytes, length_cons]
    omega
  obtain ⟨blocks, final, got, bytes, -, -⟩ := exact
  obtain ⟨others, last, again, cellsRead, -, -⟩ := readsBack_setData p expected r
  obtain ⟨rfl, -⟩ := got.unique again
  have same : r.bytes = cells (d.setData r).rspBuff r.bytes.length := bytes.symm.trans cellsRead
  have byte : r.bytes[527]? = (cells (d.setData r).rspBuff r.bytes.length)[527]? :=
    congrArg (·[527]?) same
  have wanted : r.bytes[527]? = some r.data[524] := by
    simp [Response.bytes, long]
  have behind : (cells (d.setData r).rspBuff r.bytes.length)[527]? = some (d.rspBuff 527) := by
    have inside : 527 < (cells (d.setData r).rspBuff r.bytes.length).length := by
      rw [length_cells]
      exact bytes527
    rw [getElem?_eq_getElem inside, getElem_cells, d.setData_behind r le_rfl]
  rw [wanted, behind] at byte
  exact stale (Option.some.inj byte).symm

/-- The host reads a response exactly, whatever was in the memory before, when and only when it
is short enough to be copied whole. -/
theorem readsBack_iff (p : Platform) (r : Response) :
    (∀ d : SsifDev, d.curStatus = .waitForRdStart → ReadsBack p (d.setData r) r.bytes) ↔
      r.data.length ≤ ipmiMsgMaxLength - 3 := by
  constructor
  · intro exact
    by_contra long
    have place : 524 < r.data.length := Nat.not_le.mp long
    let d : SsifDev := { SsifDev.init with
      curStatus := .waitForRdStart
      rspBuff := fun _ => r.data[524] + 1 }
    have stale : d.rspBuff 527 ≠ r.data[524] := by simp [d]
    exact not_readsBack_of_long rfl place stale (exact d rfl)
  · intro short d expected
    exact readsBack_of_short p expected short

def longResponse : Response :=
  ⟨0x1C, 0x01, 0x00, List.replicate 525 0xAB, by rw [length_replicate]; decide⟩

/-- The host does not read it: its last byte comes from behind the buffer. -/
theorem longResponse_notReadBack :
    ¬ ReadsBack handlerPlatform
      ({ SsifDev.init with curStatus := .waitForRdStart }.setData longResponse)
      longResponse.bytes := by
  have long : 524 < longResponse.data.length := by
    rw [longResponse, length_replicate]
    decide
  have byte : longResponse.data[524] = 0xAB := getElem_replicate _
  exact not_readsBack_of_long rfl long (by rw [byte]; decide)

end OpenBic.Ssif
