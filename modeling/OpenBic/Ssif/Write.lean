import OpenBic.Ssif.Channel

/-!
# The request assembled from write messages

A request is handed to the IPMI layer with exactly the bytes of the messages that make it up,
from its single or start message on, as long as no accepted start is shorter than its netfn and
command, no accepted block runs over the data buffer and the worker finds a request answered at
once still in the message buffer. Nothing in the driver checks these three.
-/

namespace OpenBic.Ssif

open List Library.Machine Library.Splice

/-! ## The bytes of a request -/

/-- The request in the bytes that the host sent for it: netfn and LUN, command, data. -/
def Request.ofBytes (bytes : List UInt8) : Request :=
  ⟨bytes.getD 0 0 >>> 2, bytes.getD 1 0, bytes.drop 2⟩

/-- A start and the middles after it. -/
inductive Opened : List Frame → Prop where
  | start {first : Frame} (command : smbCmd first = some .wrMultiStart) : Opened [first]
  | middle {frames : List Frame} {frame : Frame} (before : Opened frames)
      (command : smbCmd frame = some .wrMultiMiddle) : Opened (frames ++ [frame])

/-- The messages of one request. -/
inductive Whole : List Frame → Prop where
  | single {frame : Frame} (command : smbCmd frame = some .wrSingle) : Whole [frame]
  | multi {frames : List Frame} {last : Frame} (before : Opened frames)
      (command : smbCmd last = some .wrMultiEnd) : Whole (frames ++ [last])

def payload (frames : List Frame) : List UInt8 := frames.flatMap block

/-- A request is the one whose bytes are these, netfn and command among them. -/
def Request.Of (r : Request) (bytes : List UInt8) : Prop :=
  2 ≤ bytes.length ∧ r = Request.ofBytes bytes

@[simp]
theorem payload_singleton (frame : Frame) : payload [frame] = block frame := by
  simp [payload]

@[simp]
theorem payload_append_singleton (frames : List Frame) (frame : Frame) :
    payload (frames ++ [frame]) = payload frames ++ block frame := by
  simp [payload]

variable {bytes : List UInt8} {rdata : Frame} {isPecExist : Bool} {size : Nat} {p : Platform}
  {complete : Bool} {c next : Channel} {event : Event}

theorem Request.ofBytes_append (more : List UInt8) (long : 2 ≤ bytes.length) :
    Request.ofBytes (bytes ++ more) =
      { Request.ofBytes bytes with data := (Request.ofBytes bytes).data ++ more } := by
  have first : 0 < bytes.length := by omega
  have second : 1 < bytes.length := by omega
  simp only [Request.ofBytes, Request.mk.injEq]
  refine ⟨?_, getD_append _ _ _ _ second, drop_append_of_le_length long⟩
  rw [getD_append _ _ _ _ first]

theorem length_of_lengthCheck (checked : lengthCheck rdata isPecExist size = true) :
    rdata.length = lengthByte rdata + 2 + isPecExist.toNat ∧ lengthByte rdata + 1 ≤ size := by
  simp only [lengthCheck, Bool.decide_and, Bool.and_eq_true, decide_eq_true_eq] at checked
  omega

theorem short_of_lengthCheck
    (checked : lengthCheck rdata isPecExist size = true) : rdata.length ≤ size + 2 := by
  have extent := length_of_lengthCheck checked
  have pec : isPecExist.toNat ≤ 1 := Bool.toNat_le isPecExist
  omega

theorem length_block (checked : lengthCheck rdata isPecExist size = true) :
    (block rdata).length = lengthByte rdata := by
  have long := (length_of_lengthCheck checked).1
  simp only [block, length_take, length_drop]
  omega

theorem cells_frame (rdata : Frame) {skip count : Nat} (inside : skip + count ≤ rdata.length) :
    cells (fun index => rdata.getD (skip + index) 0) count = (rdata.drop skip).take count := by
  have shifted : (fun index => rdata.getD (skip + index) 0) =
      fun index => (rdata.drop skip).getD index 0 := by
    funext index
    simp [getD_eq_getElem?_getD, getElem?_drop]
  have short : count ≤ (rdata.drop skip).length := by
    rw [length_drop]
    omega
  rw [shifted, cells_getD _ _ short]

/-- The request that an assembled message holds, with its length. -/
structure IpmiMsg.Exact (m : IpmiMsg) (bytes : List UInt8) : Prop where
  length : m.dataLen + 2 = bytes.length
  request : m.request = Request.ofBytes bytes

theorem IpmiMsg.Exact.of {m : IpmiMsg} (exact : m.Exact bytes) : m.request.Of bytes := by
  refine ⟨?_, exact.request⟩
  have length := exact.length
  omega

/-- A start that holds netfn and command is taken over exactly. -/
theorem IpmiMsg.exact_start (m : IpmiMsg)
    (checked : lengthCheck rdata isPecExist size = true) (long : 2 ≤ lengthByte rdata) :
    (m.start rdata).Exact (block rdata) := by
  have extent := (length_of_lengthCheck checked).1
  have byte : lengthByte rdata < 256 := UInt8.toNat_lt _
  have dataLen : (m.start rdata).dataLen = lengthByte rdata - 2 := by
    simp only [IpmiMsg.start]
    omega
  have position : ∀ index, index < lengthByte rdata →
      (block rdata).getD index 0 = rdata.getD (2 + index) 0 := by
    intro index inside
    simp [block, getD_eq_getElem?_getD, inside]
  refine ⟨?_, ?_⟩
  · rw [dataLen, length_block checked]
    omega
  · have data : cells (m.start rdata).data (m.start rdata).dataLen = (block rdata).drop 2 := by
      have stored : (m.start rdata).data = overwrite m.data 0 (m.start rdata).dataLen
          fun index => rdata.getD (4 + index) 0 := by
        simp only [IpmiMsg.start]
      have copied := cells_overwrite_end m.data 0 (m.start rdata).dataLen
        fun index => rdata.getD (4 + index) 0
      rw [Nat.zero_add, cells_zero, nil_append] at copied
      rw [stored, copied, dataLen, cells_frame rdata (by omega)]
      simp [block, drop_take]
    simp only [IpmiMsg.request, Request.ofBytes, Request.mk.injEq]
    refine ⟨?_, ?_, data⟩
    · rw [position 0 (by omega)]
      rfl
    · rw [position 1 (by omega)]
      rfl

theorem IpmiMsg.Exact.append {m : IpmiMsg} (exact : m.Exact bytes)
    (checked : lengthCheck rdata isPecExist size = true)
    (inside : m.dataLen + lengthByte rdata ≤ ipmiMsgMaxLength) :
    (m.append rdata).Exact (bytes ++ block rdata) := by
  have extent := (length_of_lengthCheck checked).1
  have long := exact.of.1
  have dataLen : (m.append rdata).dataLen = m.dataLen + lengthByte rdata := by
    exact Nat.mod_eq_of_lt (Nat.lt_of_le_of_lt inside (by decide))
  have data : cells (m.append rdata).data (m.append rdata).dataLen =
      cells m.data m.dataLen ++ block rdata := by
    rw [dataLen]
    have copied := cells_overwrite_end m.data m.dataLen (lengthByte rdata)
      fun index => rdata.getD (2 + index) 0
    rw [cells_frame rdata (by omega)] at copied
    exact copied
  refine ⟨?_, ?_⟩
  · rw [dataLen, length_append, length_block checked, ← exact.length]
    omega
  · have before := exact.request
    rw [Request.ofBytes_append _ long, ← before]
    simp only [IpmiMsg.request, data]
    rfl

/-! ## What an accepted message does -/

/-- What a message accepted by all checks makes of the device, and whether it completes the
request. -/
inductive Accepted (d : SsifDev) (rdata : Frame) : SsifDev → Bool → Prop where
  | single {isPecExist : Bool} (command : smbCmd rdata = some .wrSingle)
      (checked : lengthCheck rdata isPecExist sizeofSsifWrStart = true) :
      Accepted d rdata
        { d with
          curStatus := .wrSingleStart, currentIpmiMsg := d.currentIpmiMsg.start rdata } true
  | start {isPecExist : Bool} (command : smbCmd rdata = some .wrMultiStart)
      (checked : lengthCheck rdata isPecExist sizeofSsifWrStart = true) :
      Accepted d rdata
        { d with
          curStatus := .waitForWrNext
          currentIpmiMsg := d.currentIpmiMsg.start rdata
          errStatus := .noErr } false
  | middle {isPecExist : Bool} (command : smbCmd rdata = some .wrMultiMiddle)
      (opened : d.curStatus = .waitForWrNext)
      (checked : lengthCheck rdata isPecExist sizeofSsifWrMiddle = true) :
      Accepted d rdata
        { d with
          curStatus := .waitForWrNext
          currentIpmiMsg := d.currentIpmiMsg.append rdata
          errStatus := .noErr } false
  | last {isPecExist : Bool} (command : smbCmd rdata = some .wrMultiEnd)
      (opened : d.curStatus = .waitForWrNext)
      (checked : lengthCheck rdata isPecExist sizeofSsifWrMiddle = true) :
      Accepted d rdata
        { d with curStatus := .wrEnd, currentIpmiMsg := d.currentIpmiMsg.append rdata } true

/-- Every message that the read task does not refuse is accepted in one of the four ways. -/
theorem accepted {d next : SsifDev}
    (assembled : d.assemble p rdata = .ok (next, complete)) : Accepted d rdata next complete := by
  unfold SsifDev.assemble at assembled
  split at assembled
  · cases assembled
  split at assembled
  · cases assembled
  · cases assembled
  rename_i status isPecExist expected _
  cases command : smbCmd rdata with
  | none => simp [command] at assembled
  | some cmd =>
    cases cmd <;>
      simp only [command, SsifDev.dataPreHandle, SsifDev.statusCheck, reduceCtorEq, or_self,
        Option.some.injEq, if_false] at assembled expected
    case wrSingle =>
      split at assembled
      · split at expected
        · cases expected
        · cases expected
          cases assembled
          exact .single command ‹_›
      · cases assembled
    case wrMultiStart =>
      split at assembled
      · cases assembled
        exact .start command ‹_›
      · cases assembled
    case wrMultiMiddle =>
      split at assembled
      · split at assembled
        · cases assembled
        · split at assembled
          · cases assembled
          · split at expected
            · cases expected
            · cases assembled
              exact .middle command (not_not.mp ‹_›) ‹_›
      · cases assembled
    case wrMultiEnd =>
      split at assembled
      · split at assembled
        · cases assembled
        · split at expected
          · cases expected
          · cases expected
            cases assembled
            exact .last command (not_not.mp ‹_›) ‹_›
      · cases assembled

/-- The block of a message leaves the request in order: a start holds netfn and command, a later
block ends inside the data buffer. -/
def SsifDev.BlockFits (d : SsifDev) (rdata : Frame) : Prop :=
  if smbCmd rdata = some .wrSingle ∨ smbCmd rdata = some .wrMultiStart then
    2 ≤ lengthByte rdata
  else d.currentIpmiMsg.dataLen + lengthByte rdata ≤ ipmiMsgMaxLength

instance (d : SsifDev) (rdata : Frame) : Decidable (d.BlockFits rdata) := by
  unfold SsifDev.BlockFits
  infer_instance

theorem Accepted.inside_iff {d next : SsifDev}
    (outcome : Accepted d rdata next complete) (inside : d.Inside) :
    next.Inside ↔ d.BlockFits rdata := by
  have bound : d.currentIpmiMsg.dataLen ≤ 527 := inside
  cases outcome with
  | single command checked | start command checked =>
    have short : lengthByte rdata + 1 ≤ 33 := (length_of_lengthCheck checked).2
    simp only [SsifDev.Inside, SsifDev.BlockFits, IpmiMsg.start, command, ipmiMsgMaxLength,
      true_or, or_true, if_true]
    omega
  | middle command _ checked | last command _ checked =>
    have short : lengthByte rdata + 1 ≤ 33 := (length_of_lengthCheck checked).2
    simp only [SsifDev.Inside, SsifDev.BlockFits, IpmiMsg.append, command, ipmiMsgMaxLength,
      Option.some.injEq, reduceCtorEq, or_self, if_false]
    omega

theorem Accepted.frame_eq {d next : SsifDev} {frame : Frame}
    (outcome : Accepted d (frame.take ssifBuffSize) next complete) :
    frame.take ssifBuffSize = frame := by
  have short : (frame.take ssifBuffSize).length ≤ 35 := by
    cases outcome with
    | single _ checked | start _ checked | middle _ _ checked | last _ _ checked =>
      exact short_of_lengthCheck checked
  have size : ssifBuffSize = 50 := rfl
  apply take_of_length_le
  rw [length_take] at short
  omega

/-! ## The request over a run -/

/-- A block that is accepted fits. -/
def SsifDev.Admits (p : Platform) (d : SsifDev) (rdata : Frame) : Prop :=
  (d.assemble p rdata).isOk = true → d.BlockFits rdata

instance (p : Platform) (d : SsifDev) (rdata : Frame) : Decidable (d.Admits p rdata) := by
  unfold SsifDev.Admits
  infer_instance

/-- No accepted block is too short to start a request or too long to be added to it. -/
def Fits (p : Platform) (c : Channel) : Event → Prop
  | .receive _ => ∀ frame ∈ c.queue.head?, c.dev.Admits p (frame.take ssifBuffSize)
  | _ => True

instance (p : Platform) (c : Channel) : ∀ event, Decidable (Fits p c event)
  | .receive _ => inferInstanceAs (Decidable (∀ frame ∈ c.queue.head?, _))
  | .write _ _ | .read _ | .receiveFailed _ | .bridged _ | .work _ | .respond _ _ | .take _
  | .timeOut | .expire _ => instDecidableTrue

/-- The worker finds in `current_ipmi_msg` the request that its job was added for. -/
def Finds (c : Channel) : Event → Prop
  | .work request => c.dev.currentIpmiMsg.request = request
  | _ => True

instance (c : Channel) : ∀ event, Decidable (Finds c event)
  | .work _ => inferInstanceAs (Decidable (_ = _))
  | .write _ _ | .read _ | .receive _ | .receiveFailed _ | .bridged _ | .respond _ _ | .take _
  | .timeOut | .expire _ => instDecidableTrue

def Event.written : Event → List Frame
  | .write frame _ => [frame]
  | _ => []

/-- The request is exactly the messages of one that the task has taken. -/
def Channel.Took (c : Channel) (request : Request) : Prop :=
  ∃ before frames after, c.taken = before ++ frames ++ after ∧ Whole frames ∧
    request.Of (payload frames)

/-- While a request is being assembled, it is exactly the messages taken for it; so is each
request that the worker has yet to hand over. -/
structure Channel.Writing (c : Channel) : Prop where
  inside : c.dev.Inside
  works : ∀ request ∈ c.works, c.Took request
  part : c.dev.curStatus = .waitForWrNext → ∃ before frames,
    c.taken = before ++ frames ∧ Opened frames ∧ c.dev.currentIpmiMsg.Exact (payload frames)

/-- A step that takes no message leaves the request as it is or gives it up. -/
structure Channel.Rests (c next : Channel) : Prop where
  taken : next.taken = c.taken
  handed : next.handed = c.handed
  works : next.works = c.works
  message : next.dev.currentIpmiMsg = c.dev.currentIpmiMsg ∨ next.dev.currentIpmiMsg = .zero
  status : next.dev.curStatus = .waitForWrNext →
    c.dev.curStatus = .waitForWrNext ∧ next.dev.currentIpmiMsg = c.dev.currentIpmiMsg

/-- Every event other than taking a message or working off a job leaves the request as it is or
gives it up. -/
theorem Channel.move_rests (other : ∀ addrSet, event ≠ .receive addrSet)
    (noWork : ∀ request, event ≠ .work request) (moved : c.move p event = some next) :
    c.Rests next := by
  cases event with
  | receive addrSet => exact absurd rfl (other addrSet)
  | work request => exact absurd rfl (noWork request)
  | write frame addrSet =>
    obtain ⟨-, reached⟩ := Option.ite_none_right_eq_some.mp moved
    cases reached
    refine ⟨rfl, rfl, rfl, ?_, ?_⟩ <;> dsimp only <;> split <;> simp
  | read cmd =>
    obtain ⟨⟨-, reading⟩, moved⟩ := Option.ite_none_right_eq_some.mp moved
    obtain ⟨status, message, -⟩ := c.dev.collectData_curStatus p reading
    split at moved <;> rename_i dev _ collected <;> obtain rfl := Option.some.inj moved <;>
      rw [collected] at status message <;>
      exact ⟨rfl, rfl, rfl, message, fun waiting => by simp_all⟩
  | receiveFailed addrSet =>
    obtain ⟨-, reached⟩ := Option.ite_none_right_eq_some.mp moved
    cases reached
    exact ⟨rfl, rfl, rfl, .inr rfl, fun waiting => by simp at waiting⟩
  | bridged response =>
    simp only [Channel.move] at moved
    split at moved
    · cases moved
      exact ⟨rfl, rfl, rfl, .inl rfl, fun waiting => ⟨waiting, rfl⟩⟩
    · cases moved
      exact ⟨rfl, rfl, rfl, .inl rfl, fun waiting => ⟨waiting, rfl⟩⟩
    · cases moved
  | respond number response =>
    obtain ⟨-, reached⟩ := Option.ite_none_right_eq_some.mp moved
    cases reached
    exact ⟨rfl, rfl, rfl, .inl rfl, fun waiting => ⟨waiting, rfl⟩⟩
  | take addrSet =>
    simp only [Channel.move] at moved
    split at moved
    · cases moved
      cases addrSet with
      | true =>
        refine ⟨rfl, rfl, rfl, .inl ?_, fun waiting => ?_⟩
        · simp [SsifDev.errorRecord]
        · simp at waiting
      | false => exact ⟨rfl, rfl, rfl, .inr rfl, fun waiting => by simp at waiting⟩
    · cases moved
  | timeOut =>
    simp only [Channel.move] at moved
    split at moved
    · cases moved
      exact ⟨rfl, rfl, rfl, .inr rfl, fun waiting => by simp at waiting⟩
    · cases moved
  | expire addrSet =>
    obtain ⟨-, reached⟩ := Option.ite_none_right_eq_some.mp moved
    cases reached
    exact ⟨rfl, rfl, rfl, .inr rfl, fun waiting => by simp at waiting⟩

theorem Channel.Rests.writing (rests : c.Rests next) (before : c.Writing) : next.Writing := by
  refine ⟨?_, ?_, fun waiting => ?_⟩
  · rcases rests.message with same | cleared
    · simp only [SsifDev.Inside, same]
      exact before.inside
    · simp [SsifDev.Inside, cleared, IpmiMsg.zero]
  · rw [rests.works]
    simp only [Channel.Took, rests.taken]
    exact before.works
  · obtain ⟨was, same⟩ := rests.status waiting
    rw [rests.taken, same]
    exact before.part was

/-- What handing a request over adds and keeps. -/
structure Channel.Sends (c next : Channel) : Prop where
  handed : next.handed = c.handed ++ [c.dev.currentIpmiMsg.request] ∧ next.works = c.works ∨
    next.handed = c.handed ∧ next.works = c.works ++ [c.dev.currentIpmiMsg.request]
  taken : next.taken = c.taken
  queue : next.queue = c.queue
  status : next.dev.curStatus = c.dev.curStatus
  inside : c.dev.Inside → next.dev.Inside

theorem Channel.sendIpmi_sends (p : Platform) (c : Channel) (number : Nat) :
    c.Sends (c.sendIpmi p number) := by
  unfold Channel.sendIpmi
  dsimp only
  split
  · split
    · split
      · split
        · rename_i response _
          exact ⟨.inl ⟨rfl, rfl⟩, rfl, rfl, rfl, fun _ => response.fits⟩
        · exact ⟨.inl ⟨rfl, rfl⟩, rfl, rfl, rfl, id⟩
      · exact ⟨.inl ⟨rfl, rfl⟩, rfl, rfl, rfl, id⟩
    · exact ⟨.inl ⟨rfl, rfl⟩, rfl, rfl, rfl, id⟩
  · split
    · exact ⟨.inr ⟨rfl, rfl⟩, rfl, rfl, rfl, id⟩
    · exact ⟨.inl ⟨rfl, rfl⟩, rfl, rfl, rfl, id⟩

/-- What a channel hands over in a step: nothing, or one request, which is exactly the messages
taken for it. They are the last ones taken, or the request has waited for the worker. -/
def Channel.HandsExactly (c next : Channel) : Prop :=
  next.handed = c.handed ∨
    ∃ before frames after request, next.taken = before ++ frames ++ after ∧ Whole frames ∧
      request.Of (payload frames) ∧ next.handed = c.handed ++ [request] ∧
      (after = [] ∨ request ∈ c.works)

/-- An accepted message that fits continues or completes the request exactly. -/
theorem Channel.Writing.assembled {c : Channel} (before : c.Writing) {frame : Frame}
    {dev : SsifDev} (outcome : Accepted c.dev frame dev complete) (fits : c.dev.BlockFits frame) :
    ∃ earlier frames, c.taken ++ [frame] = earlier ++ frames ∧
      dev.currentIpmiMsg.Exact (payload frames) ∧
      if complete then Whole frames ∧ dev.curStatus ≠ .waitForWrNext else Opened frames := by
  cases outcome with
  | single command checked =>
    have long : 2 ≤ lengthByte frame := by simpa [SsifDev.BlockFits, command] using fits
    refine ⟨c.taken, [frame], rfl, ?_, .single command, by simp⟩
    rw [payload_singleton]
    exact c.dev.currentIpmiMsg.exact_start checked long
  | start command checked =>
    have long : 2 ≤ lengthByte frame := by simpa [SsifDev.BlockFits, command] using fits
    refine ⟨c.taken, [frame], rfl, ?_, .start command⟩
    rw [payload_singleton]
    exact c.dev.currentIpmiMsg.exact_start checked long
  | middle command opened checked =>
    have room : c.dev.currentIpmiMsg.dataLen + lengthByte frame ≤ ipmiMsgMaxLength := by
      simpa [SsifDev.BlockFits, command] using fits
    obtain ⟨earlier, frames, taken, started, exact⟩ := before.part opened
    refine ⟨earlier, frames ++ [frame], by simp [taken], ?_, .middle started command⟩
    rw [payload_append_singleton]
    exact exact.append checked room
  | last command opened checked =>
    have room : c.dev.currentIpmiMsg.dataLen + lengthByte frame ≤ ipmiMsgMaxLength := by
      simpa [SsifDev.BlockFits, command] using fits
    obtain ⟨earlier, frames, taken, started, exact⟩ := before.part opened
    refine ⟨earlier, frames ++ [frame], by simp [taken], ?_, .multi started command, by simp⟩
    rw [payload_append_singleton]
    exact exact.append checked room

/-- Taking a message keeps the request in its buffer exactly when the message is refused or its
block fits, and then what is assembled and what is handed over is exact. -/
theorem Channel.Writing.handle {c : Channel} (before : c.Writing) (frame : Frame)
    (rest : List Frame) (addrSet : Bool) :
    let next := { c with queue := rest, taken := c.taken ++ [frame] }.handle p frame addrSet
    (next.dev.Inside ↔ c.dev.Admits p (frame.take ssifBuffSize)) ∧
      (next.dev.Inside → next.Writing ∧ c.HandsExactly next) := by
  have stillTook : ∀ next : Channel, next.taken = c.taken ++ [frame] →
      ∀ request ∈ c.works, next.Took request := by
    intro next taken request waits
    obtain ⟨earlier, frames, after, made, whole, of⟩ := before.works request waits
    exact ⟨earlier, frames, after ++ [frame], by simp [taken, made], whole, of⟩
  unfold Channel.handle
  split
  · rename_i error refused
    have cleared : ((c.dev.errorRecord error).coldReset addrSet).Inside := Nat.zero_le _
    refine ⟨⟨fun _ accepted => ?_, fun _ => cleared⟩,
      fun _ => ⟨⟨cleared, stillTook _ rfl, ?_⟩, .inl rfl⟩⟩
    · simp [refused, Except.isOk, Except.toBool] at accepted
    · intro waiting
      simp at waiting
  · rename_i dev complete ok
    have outcome : Accepted c.dev (frame.take ssifBuffSize) dev complete := accepted ok
    have whole := outcome.frame_eq
    rw [whole] at outcome ok ⊢
    have same : dev.Inside ↔ c.dev.Admits p frame := by
      rw [outcome.inside_iff before.inside]
      simp [SsifDev.Admits, ok, Except.isOk, Except.toBool]
    by_cases inside : dev.Inside
    · have fits := (outcome.inside_iff before.inside).mp inside
      obtain ⟨earlier, frames, taken, exact, phase⟩ := before.assembled outcome fits
      cases complete with
      | true =>
        rw [if_pos ⟨inside, rfl⟩]
        obtain ⟨whole, status⟩ := phase
        let c' := { c with dev := dev, queue := rest, taken := c.taken ++ [frame] }
        have sends := c'.sendIpmi_sends p (c'.taken.length - 1)
        have made : (c'.sendIpmi p (c'.taken.length - 1)).taken = earlier ++ frames ++ [] := by
          rw [append_nil]
          exact sends.taken.trans taken
        have took : (c'.sendIpmi p (c'.taken.length - 1)).Took dev.currentIpmiMsg.request :=
          ⟨earlier, frames, [], made, whole, exact.of⟩
        refine ⟨⟨fun _ => same.mp inside, fun _ => sends.inside inside⟩,
          fun stays => ⟨⟨stays, ?_, fun waiting => ?_⟩, ?_⟩⟩
        · rcases sends.handed with ⟨-, works⟩ | ⟨-, works⟩
          · exact fun request waits => stillTook _ sends.taken request (works ▸ waits)
          · intro request waits
            rcases List.mem_append.mp (works ▸ waits) with earlier | added
            · exact stillTook _ sends.taken request earlier
            · exact List.mem_singleton.mp added ▸ took
        · exact absurd (sends.status.symm.trans waiting) status
        · rcases sends.handed with ⟨handed, -⟩ | ⟨handed, -⟩
          · exact .inr ⟨earlier, frames, [], dev.currentIpmiMsg.request, made, whole, exact.of,
              handed, .inl rfl⟩
          · exact .inl handed
      | false =>
        rw [if_neg (by simp)]
        exact ⟨same, fun stays => ⟨⟨stays, stillTook _ rfl,
          fun _ => ⟨earlier, frames, taken, phase, exact⟩⟩, .inl rfl⟩⟩
    · rw [if_neg fun both => inside both.1]
      exact ⟨same, fun stays => absurd stays inside⟩

/-- A job worked off leaves the request in assembly alone. -/
theorem Channel.Writing.work (before : c.Writing) {request : Request}
    (moved : c.move p (.work request) = some next) :
    next.Writing ∧ (Finds c (.work request) → c.HandsExactly next) := by
  obtain ⟨waits, reached⟩ := Option.ite_none_right_eq_some.mp moved
  cases reached
  refine ⟨⟨before.inside, fun other still => ?_, before.part⟩, fun (found : _ = request) => .inr ?_⟩
  · exact before.works other (mem_of_mem_erase still)
  · obtain ⟨earlier, frames, after, made, whole, of⟩ := before.works request waits
    exact ⟨earlier, frames, after, request, made, whole, of, by simp only [found], .inr waits⟩

/-- An event leaves the buffers exactly if it does not fit them, and hands on what was written
exactly if the worker finds it. -/
theorem Channel.Writing.step (before : c.Writing) (moved : c.step p event = some next) :
    (next.dev.Inside ↔ Fits p c event) ∧
      (next.dev.Inside → next.Writing ∧ (Finds c event → c.HandsExactly next)) := by
  obtain ⟨-, moved⟩ := Option.ite_none_right_eq_some.mp moved
  by_cases receiving : ∃ addrSet, event = .receive addrSet
  · obtain ⟨addrSet, rfl⟩ := receiving
    simp only [Channel.move] at moved
    split at moved
    · rename_i frame rest _ queue
      cases moved
      have result := before.handle (p := p) frame rest addrSet
      simpa [Fits, Finds, queue] using result
    · cases moved
  by_cases working : ∃ request, event = .work request
  · obtain ⟨request, rfl⟩ := working
    have result := before.work moved
    exact ⟨⟨fun _ => trivial, fun _ => result.1.inside⟩, fun _ => result⟩
  · have other : ∀ addrSet, event ≠ .receive addrSet :=
      fun addrSet same => receiving ⟨addrSet, same⟩
    have rests := Channel.move_rests other (fun request same => working ⟨request, same⟩) moved
    have fits : Fits p c event := by
      cases event with
      | receive addrSet => exact absurd rfl (other addrSet)
      | _ => trivial
    have writing := rests.writing before
    exact ⟨⟨fun _ => fits, fun _ => writing.inside⟩, fun _ => ⟨writing, fun _ => .inl rests.handed⟩⟩

theorem Channel.handle_frames (p : Platform) (c : Channel) (frame : Frame) (addrSet : Bool) :
    (c.handle p frame addrSet).taken = c.taken ∧ (c.handle p frame addrSet).queue = c.queue := by
  unfold Channel.handle
  split
  · exact ⟨rfl, rfl⟩
  · rename_i dev _ _
    split
    · have sends := { c with dev := dev }.sendIpmi_sends p (c.taken.length - 1)
      exact ⟨sends.taken, sends.queue⟩
    · exact ⟨rfl, rfl⟩

/-- The messages taken and waiting are those the host has written. -/
theorem Channel.step_written (moved : c.step p event = some next) :
    next.taken ++ next.queue = c.taken ++ c.queue ++ event.written := by
  obtain ⟨-, moved⟩ := Option.ite_none_right_eq_some.mp moved
  cases event with
  | write frame addrSet =>
    obtain ⟨-, reached⟩ := Option.ite_none_right_eq_some.mp moved
    cases reached
    simp [Event.written]
  | receive addrSet =>
    simp only [Channel.move] at moved
    split at moved
    · rename_i frame rest _ queue
      cases moved
      obtain ⟨taken, still⟩ := Channel.handle_frames p
        { c with queue := rest, taken := c.taken ++ [frame] } frame addrSet
      simp [taken, still, queue, Event.written]
    · cases moved
  | read cmd =>
    obtain ⟨-, moved⟩ := Option.ite_none_right_eq_some.mp moved
    split at moved <;> obtain rfl := Option.some.inj moved <;> simp [Event.written]
  | receiveFailed addrSet | work request | respond number response | expire addrSet =>
    obtain ⟨-, reached⟩ := Option.ite_none_right_eq_some.mp moved
    cases reached
    simp [Event.written, Channel.setData]
  | bridged response | take addrSet | timeOut =>
    simp only [Channel.move] at moved
    split at moved <;> cases moved <;> simp [Event.written, Channel.setData]

/-- What was taken and what is queued is what was written, in order. -/
theorem Channel.run_written {events : List Event} {c : Channel}
    (ran : run (Channel.step p) .init events = some c) :
    c.taken ++ c.queue = events.flatMap Event.written := by
  have kept : ∀ {past state event next}, state.taken ++ state.queue = past.flatMap Event.written →
      Channel.step p state event = some next →
      next.taken ++ next.queue = (past ++ [event]).flatMap Event.written := by
    intro past state event next before moved
    rw [Channel.step_written moved, before, flatMap_append, flatMap_singleton]
  exact @history_invariant _ _ _
    (fun past state => state.taken ++ state.queue = past.flatMap Event.written) kept _ _ _ rfl ran

def twoPartWrite : List Event :=
  [.write ([0x06, 32, 0x18, 0x58] ++ List.replicate 30 0xAB) true, .receive true,
    .write [0x08, 3, 0x01, 0x02, 0x03] true, .receive true]

end OpenBic.Ssif
