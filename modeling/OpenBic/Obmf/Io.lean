import Mathlib.Data.List.Induction
import OpenBic.Obmf.Message
import OpenBic.Obmf.SerialSend

/-!
# Port I/O

`handle_io_request` reads and writes the POST code ports for the host, and `obmf_io_write` and
`obmf_io_read` send requests of the same layout. A request reads or writes some ports in sequence,
or one port again and again.
-/

namespace OpenBic.Obmf

open List Option

open Library.Splice SerialSend

/-- What a function that sends a request comes to. -/
inductive SendOutcome where
  | error
  | sent (msg : List UInt8)
  | overrun

/-- What is sent, if it is, means this. -/
def SendOutcome.Means : SendOutcome → (List UInt8 → Prop) → Prop
  | .error, _ => True
  | .sent msg, meaning => meaning msg
  | .overrun, _ => False

/-- The request in a zeroed buffer, with the header that `obmf_send_request` fills in. -/
def requestBytes (channel : UInt8) (body : List UInt8) : List UInt8 :=
  Header.bytes ⟨channel, 0, UInt16.ofNat body.length⟩ ++ body

/-- The loop around `obmf_send_request`, with what it returns each time. -/
def obmfSendRequest (channel : UInt8) (body : List UInt8) (sends : Nat → SendResult) :
    SendOutcome :=
  match sendTries sends 0 (requestMaxRetry - 1) with
  | .ok => .sent (requestBytes channel body)
  | _ => .error

/-- A message is as long as its header says. -/
def SizeSaid (msg : List UInt8) : Prop := headerSize + (readHeader msg).size.toNat = msg.length

instance (msg : List UInt8) : Decidable (SizeSaid msg) := inferInstanceAs (Decidable (_ = _))

/-- The message is a whole request on the channel. -/
structure IsRequest (channel : UInt8) (msg : List UInt8) : Prop where
  channel : (readHeader msg).channel = channel
  requests : (readHeader msg).isResponse = false
  sizeSaid : SizeSaid msg

theorem isRequest_requestBytes (channel : UInt8) {body : List UInt8}
    (small : body.length < 2 ^ 16) : IsRequest channel (requestBytes channel body) where
  channel := by rw [requestBytes, readHeader_bytes]
  requests := by
    rw [requestBytes, readHeader_bytes]
    have plain : ¬ (0 : UInt8) >>> 7 &&& 0x01 = 1 := by decide
    exact decide_eq_false plain
  sizeSaid := by
    rw [SizeSaid, requestBytes, readHeader_bytes, length_append, Header.length_bytes,
      UInt16.toNat_ofNat', Nat.mod_eq_of_lt small]

theorem obmfSendRequest_means {channel : UInt8} {body : List UInt8} {meaning : List UInt8 → Prop}
    (sends : Nat → SendResult) (means : meaning (requestBytes channel body)) :
    (obmfSendRequest channel body sends).Means meaning := by
  unfold obmfSendRequest
  split
  · exact means
  · trivial

namespace Io

def ioPostCodePort : Nat := 0x80

def ioPostCodeSize : Nat := 4

/-- `OBMF_ICP_IO_TRANS_*`. -/
inductive IoTrans where
  | seqRead8
  | seqWrite8
  | seqRead16
  | seqWrite16
  | seqRead32
  | seqWrite32
  | fixedRead8
  | fixedWrite8
  | fixedRead16
  | fixedWrite16
  | fixedRead32
  | fixedWrite32
deriving DecidableEq

namespace IoTrans

def code : IoTrans → UInt8
  | seqRead8 => 0
  | seqWrite8 => 1
  | seqRead16 => 2
  | seqWrite16 => 3
  | seqRead32 => 4
  | seqWrite32 => 5
  | fixedRead8 => 6
  | fixedWrite8 => 7
  | fixedRead16 => 8
  | fixedWrite16 => 9
  | fixedRead32 => 10
  | fixedWrite32 => 11

def all : List IoTrans :=
  [seqRead8, seqWrite8, seqRead16, seqWrite16, seqRead32, seqWrite32, fixedRead8, fixedWrite8,
    fixedRead16, fixedWrite16, fixedRead32, fixedWrite32]

def ofCode (code : UInt8) : Option IoTrans := all.find? (·.code = code)

def isWrite : IoTrans → Bool
  | seqWrite8 | seqWrite16 | seqWrite32 | fixedWrite8 | fixedWrite16 | fixedWrite32 => true
  | _ => false

def isFixed : IoTrans → Bool
  | fixedRead8 | fixedWrite8 | fixedRead16 | fixedWrite16 | fixedRead32 | fixedWrite32 => true
  | _ => false

def width : IoTrans → Nat
  | seqRead8 | seqWrite8 | fixedRead8 | fixedWrite8 => 1
  | seqRead16 | seqWrite16 | fixedRead16 | fixedWrite16 => 2
  | seqRead32 | seqWrite32 | fixedRead32 | fixedWrite32 => 4

end IoTrans

/-- A request as the handler understands it. -/
structure IoAccess where
  trans : IoTrans
  portAddr : UInt16
  size : Nat
deriving DecidableEq

def ioPayload (msg : List UInt8) : List UInt8 := msg.drop (headerSize + ioSubHdrSize)

/-- `OBMF_ICP_IO_GET_TRANS`. -/
def ioTrans (msg : List UInt8) : UInt8 := msg.getD headerSize 0 &&& 0x0F

/-- The first checks of `handle_io_request`. -/
def IoAccess.parse (msg : List UInt8) : Option IoAccess :=
  match IoTrans.ofCode (ioTrans msg) with
  | none => none
  | some trans =>
    if (ioPayload msg).length < 3 then none
    else
      let size := ((ioPayload msg).getD 2 0).toNat
      if size = 0 ∨ size % trans.width ≠ 0 then none
      else some ⟨trans, read16 (ioPayload msg) 0, size⟩

def writeData (msg : List UInt8) : List UInt8 := (ioPayload msg).drop 3

def IoAccess.target (access : IoAccess) (index : Nat) : UInt16 :=
  if access.trans.isFixed then access.portAddr else access.portAddr + UInt16.ofNat index

/-- The ports and what was reported of them. -/
structure IoLocal where
  ioPostCode : Nat → UInt8
  /-- `io_write_cb` is registered. -/
  ioWriteCb : Bool
  /-- The calls of `io_write_cb`. -/
  calls : List (UInt16 × List UInt8 × Bool)

/-- `io_local_get_buf`: the place of a port in `io_post_code`. -/
def ioLocalGetBuf (port : UInt16) : Option Nat :=
  if ioPostCodePort ≤ port.toNat ∧ port.toNat < ioPostCodePort + ioPostCodeSize then
    some (port.toNat - ioPostCodePort)
  else none

/-- The turns of the loop of `io_local_write` for so many bytes. -/
def ioLocalWrite (access : IoAccess) (data : List UInt8) (ioPostCode : Nat → UInt8) :
    Nat → Nat → UInt8
  | 0 => ioPostCode
  | size + 1 =>
    let written := ioLocalWrite access data ioPostCode size
    match ioLocalGetBuf (access.target size) with
    | some off => overwrite written off 1 fun _ => data.getD size 0
    | none => written

def IoLocal.write (io : IoLocal) (access : IoAccess) (data : List UInt8) : IoLocal where
  ioPostCode := ioLocalWrite access data io.ioPostCode access.size
  ioWriteCb := io.ioWriteCb
  calls :=
    if io.ioWriteCb then
      io.calls ++ [(access.portAddr, data.take access.size, access.trans.isFixed)]
    else io.calls

def IoLocal.byte (io : IoLocal) (port : UInt16) : Option UInt8 :=
  (ioLocalGetBuf port).map io.ioPostCode

/-- `handle_io_request`, on a whole message. -/
def handleIoRequest (io : IoLocal) (msg : List UInt8) : List UInt8 × IoLocal :=
  match IoAccess.parse msg with
  | none => (buildErrResponse msg statusInvalidCmd, io)
  | some access =>
    if ¬ access.trans.isWrite ∧ rspBufSize < headerSize + ioSubHdrSize + access.size then
      (buildErrResponse msg statusSizeNotSupported, io)
    else if access.trans.isWrite then
      if (List.range access.size).any fun index => ioLocalGetBuf (access.target index) = none then
        (buildErrResponse msg statusAddrOutOfRange, io)
      else if (ioPayload msg).length < 3 + access.size then
        (buildErrResponse msg statusInvalidCmd, io)
      else (response msg statusSuccess [ioTrans msg], io.write access (writeData msg))
    else
      match (List.range access.size).mapM fun index => io.byte (access.target index) with
      | none => (buildErrResponse msg statusAddrOutOfRange, io)
      | some data => (response msg statusSuccess (ioTrans msg :: data), io)

/-- The access width that `len` implies. -/
def impliedWidth (len : Nat) : Nat :=
  if len % 4 = 0 then 4 else if len % 2 = 0 then 2 else 1

/-- The transaction type of `obmf_io_write`. -/
def writeTrans (len : Nat) (fixed : Bool) : IoTrans :=
  if len % 4 = 0 then if fixed then .fixedWrite32 else .seqWrite32
  else if len % 2 = 0 then if fixed then .fixedWrite16 else .seqWrite16
  else if fixed then .fixedWrite8 else .seqWrite8

/-- The transaction type of `obmf_io_read`. -/
def readTrans (len : Nat) (fixed : Bool) : IoTrans :=
  if len % 4 = 0 then if fixed then .fixedRead32 else .seqRead32
  else if len % 2 = 0 then if fixed then .fixedRead16 else .seqRead16
  else if fixed then .fixedRead8 else .seqRead8

/-- `obmf_io_write`, with no data for a null pointer. -/
def obmfIoWrite (port len : UInt16) (buf : Option (Nat → UInt8)) (fixed malloc : Bool)
    (sends : Nat → SendResult) : SendOutcome :=
  match buf with
  | none => .error
  | some buf =>
    if len.toNat = 0 then .error
    else if malloc then
      obmfSendRequest ioChannel ((writeTrans len.toNat fixed).code :: (bytes16 port ++
        UInt8.ofNat len.toNat :: cells buf len.toNat)) sends
    else .error

def obmfIoRead (port len : UInt16) (fixed : Bool) (sends : Nat → SendResult) : SendOutcome :=
  if len.toNat = 0 then .error
  else
    obmfSendRequest ioChannel ((readTrans len.toNat fixed).code :: (bytes16 port ++
      [UInt8.ofNat len.toNat])) sends

/-- What a write leaves at the ports of its bytes: each byte, or the last one at a fixed port. -/
def IoAccess.stored (access : IoAccess) (data : List UInt8) : List UInt8 :=
  if access.trans.isFixed then List.replicate access.size (data.getD (access.size - 1) 0)
  else data.take access.size

/-- The write was applied to every port of the access, and to no other. -/
structure Written (before after : IoLocal) (access : IoAccess) (data : List UInt8) : Prop where
  whole : access.size ≤ data.length
  written : ∀ index < access.size,
    after.byte (access.target index) = (access.stored data)[index]?
  others : ∀ port, (∀ index < access.size, access.target index ≠ port) →
    after.byte port = before.byte port

/-- A read of the same ports. -/
structure ReadsBack (access : IoAccess) (read : List UInt8) (again : IoAccess) : Prop where
  parsed : IoAccess.parse read = some again
  reads : again.trans.isWrite = false
  isFixed : again.trans.isFixed = access.trans.isFixed
  portAddr : again.portAddr = access.portAddr
  size : again.size = access.size
  fits : access.trans.isFixed = true → headerSize + ioSubHdrSize + access.size ≤ rspBufSize

/-- A write is applied to all of its ports, so that a read of them returns what was left there, or
it fails and changes nothing. -/
def AllOrNothing (io : IoLocal) (msg : List UInt8) : Prop :=
  ∀ access, IoAccess.parse msg = some access → access.trans.isWrite = true →
    (¬ Succeeded (handleIoRequest io msg).1 ∧ (handleIoRequest io msg).2 = io) ∨
    (Succeeded (handleIoRequest io msg).1 ∧
      Written io (handleIoRequest io msg).2 access (writeData msg) ∧
      ∀ read again, ReadsBack access read again →
        (handleIoRequest (handleIoRequest io msg).2 read).1 =
          response read statusSuccess (ioTrans read :: access.stored (writeData msg)))

/-- The handler understands the message as an access of this kind to so many bytes from the port,
with the width that the length implies. -/
structure Asks (isWrite fixed : Bool) (port : UInt16) (len : Nat) (msg : List UInt8) : Prop where
  request : IsRequest ioChannel msg
  parsed : ∃ trans, IoAccess.parse msg = some ⟨trans, port, len⟩ ∧ trans.isWrite = isWrite ∧
    trans.isFixed = fixed ∧ trans.width = impliedWidth len

variable {io : IoLocal} {msg : List UInt8} {access : IoAccess} {data : List UInt8}
  {ioPostCode : Nat → UInt8}

theorem ioLocalGetBuf_inj {first second : UInt16} {off : Nat}
    (one : ioLocalGetBuf first = some off) (other : ioLocalGetBuf second = some off) :
    first = second := by
  unfold ioLocalGetBuf at one other
  split at one
  · split at other
    · have firstOff := Option.some.inj one
      have secondOff := Option.some.inj other
      apply UInt16.toNat_inj.mp
      omega
    · cases other
  · cases one

theorem ioLocalWrite_last {count index off : Nat} (inside : index < count)
    (last : ∀ later, index < later → later < count → access.target later ≠ access.target index)
    (place : ioLocalGetBuf (access.target index) = some off) :
    ioLocalWrite access data ioPostCode count off = data.getD index 0 := by
  induction count with
  | zero => omega
  | succ count ih =>
    rw [ioLocalWrite]
    by_cases newest : index = count
    · subst newest
      simp only [place]
      exact overwrite_inside _ (fun _ => data.getD index 0) Nat.zero_lt_one
    · have before : index < count := by omega
      have kept := ih before fun later above below => last later above (by omega)
      cases reached : ioLocalGetBuf (access.target count) with
      | none => exact kept
      | some other =>
        have apart : other ≠ off := by
          rintro rfl
          exact last count before (Nat.lt_succ_self count) (ioLocalGetBuf_inj reached place)
        dsimp only
        rw [overwrite_outside _ _ (by omega)]
        exact kept

theorem ioLocalWrite_other {count off : Nat}
    (missed : ∀ index < count, ioLocalGetBuf (access.target index) ≠ some off) :
    ioLocalWrite access data ioPostCode count off = ioPostCode off := by
  induction count with
  | zero => rfl
  | succ count ih =>
    have kept := ih fun index inside => missed index (Nat.lt_succ_of_lt inside)
    rw [ioLocalWrite]
    cases reached : ioLocalGetBuf (access.target count) with
    | none => exact kept
    | some other =>
      have apart : other ≠ off := by
        rintro rfl
        exact missed count (Nat.lt_succ_self count) reached
      dsimp only
      rw [overwrite_outside _ _ (by omega)]
      exact kept

theorem target_injective (sequential : access.trans.isFixed = false) {first second : Nat}
    (below : first < 2 ^ 16) (small : second < 2 ^ 16)
    (same : access.target first = access.target second) : first = second := by
  simp only [IoAccess.target, sequential, Bool.false_eq_true, if_false] at same
  have numbers := congrArg UInt16.toNat same
  rw [UInt16.toNat_add, UInt16.toNat_add, UInt16.toNat_ofNat', UInt16.toNat_ofNat'] at numbers
  omega

theorem size_of_parse (parsed : IoAccess.parse msg = some access) :
    0 < access.size ∧ access.size < 256 := by
  unfold IoAccess.parse at parsed
  split at parsed
  · cases parsed
  · split at parsed
    · cases parsed
    · dsimp only at parsed
      split at parsed
      · cases parsed
      · cases parsed
        have byte := ((ioPayload msg).getD 2 0).toNat_lt
        dsimp only
        omega

theorem length_stored (whole : access.size ≤ data.length) :
    (access.stored data).length = access.size := by
  unfold IoAccess.stored
  split
  · exact length_replicate
  · rw [length_take, Nat.min_eq_left whole]

theorem written_write (small : access.size < 256) (whole : access.size ≤ data.length)
    (served : ∀ index < access.size, ioLocalGetBuf (access.target index) ≠ none) :
    Written io (io.write access data) access data where
  whole := whole
  written index inside := by
    obtain ⟨off, place⟩ := ne_none_iff_exists'.mp (served index inside)
    rw [IoLocal.byte, place, map_some, IoAccess.stored]
    cases kind : access.trans.isFixed with
    | false =>
      have left : (io.write access data).ioPostCode off = data.getD index 0 := by
        refine ioLocalWrite_last inside (fun later above below same => ?_) place
        have one := target_injective kind (by omega) (by omega) same
        omega
      rw [left, if_neg Bool.false_ne_true, getElem?_take_of_lt inside,
        getD_eq_getElem?_getD, getElem?_eq_getElem (Nat.lt_of_lt_of_le inside whole),
        getD_some]
    | true =>
      have one : access.target (access.size - 1) = access.target index := by
        simp only [IoAccess.target, kind, if_true]
      have left : (io.write access data).ioPostCode off = data.getD (access.size - 1) 0 := by
        refine ioLocalWrite_last (by omega) (fun later above below => by omega) ?_
        rw [one]
        exact place
      rw [left, if_pos rfl, getElem?_replicate_of_lt inside]
  others port missed := by
    unfold IoLocal.byte
    cases place : ioLocalGetBuf port with
    | none => rfl
    | some off =>
      have kept : (io.write access data).ioPostCode off = io.ioPostCode off :=
        ioLocalWrite_other fun index inside reached =>
          missed index inside (ioLocalGetBuf_inj reached place)
      rw [map_some, map_some, kept]

theorem mapM_eq_some {bytes : Nat → Option UInt8} {values : List UInt8}
    (found : ∀ index < values.length, bytes index = values[index]?) :
    (List.range values.length).mapM bytes = some values := by
  induction values using List.reverseRecOn with
  | nil => rfl
  | append_singleton values value ih =>
    have before : (List.range values.length).mapM bytes = some values := ih fun index inside => by
      rw [found index (by rw [length_append]; omega), getElem?_append_left inside]
    have last : bytes values.length = some value := by
      rw [found values.length (by rw [length_append, length_singleton]; omega),
        getElem?_concat_length]
    rw [length_append, length_singleton, range_succ, mapM_append, before,
      mapM_cons, last]
    rfl

theorem size_le_of_served (sequential : access.trans.isFixed = false)
    (served : ∀ index < access.size, ioLocalGetBuf (access.target index) ≠ none) :
    access.size ≤ ioPostCodeSize := by
  by_contra long
  have first := served 0 (by omega)
  have fifth := served ioPostCodeSize (by omega)
  simp only [ioLocalGetBuf, ioPostCodePort, ioPostCodeSize, IoAccess.target, sequential,
    Bool.false_eq_true, if_false, ne_eq, ite_eq_right_iff, reduceCtorEq, imp_false,
    not_not, UInt16.toNat_add, UInt16.toNat_ofNat'] at first fifth
  omega

theorem handleIoRequest_readsBack {after : IoLocal} {read : List UInt8} {again : IoAccess}
    (written : Written io after access data) (reads : ReadsBack access read again)
    (served : ∀ index < access.size, ioLocalGetBuf (access.target index) ≠ none) :
    (handleIoRequest after read).1 =
      response read statusSuccess (ioTrans read :: access.stored data) := by
  have targets (index : Nat) : again.target index = access.target index := by
    simp only [IoAccess.target, reads.isFixed, reads.portAddr]
  have collected : ((List.range access.size).mapM fun index => after.byte (access.target index)) =
      some (access.stored data) := by
    rw [← length_stored written.whole]
    refine mapM_eq_some fun index inside => ?_
    rw [length_stored written.whole] at inside
    exact written.written index inside
  have room : headerSize + ioSubHdrSize + access.size ≤ rspBufSize := by
    cases kind : access.trans.isFixed with
    | true => exact reads.fits kind
    | false =>
      have short := size_le_of_served kind served
      simp only [ioPostCodeSize] at short
      simp only [headerSize, ioSubHdrSize, rspBufSize]
      omega
  have fits : ¬ (¬ again.trans.isWrite = true ∧
      rspBufSize < headerSize + ioSubHdrSize + access.size) := fun both => by omega
  have readsOnly : ¬ again.trans.isWrite = true := by
    rw [reads.reads]
    exact Bool.false_ne_true
  simp only [handleIoRequest, reads.parsed, reads.size, if_neg fits, if_neg readsOnly, targets,
    collected]

/-- Every write is applied as a whole or not at all. -/
theorem handleIoRequest_allOrNothing (io : IoLocal) (msg : List UInt8) : AllOrNothing io msg := by
  intro access parsed writes
  obtain ⟨-, small⟩ := size_of_parse parsed
  have writesOnly : ¬ (¬ access.trans.isWrite = true ∧
      rspBufSize < headerSize + ioSubHdrSize + access.size) := fun both => both.1 writes
  have failed {status : UInt8} (refused : responseStatus status ≠ responseStatus statusSuccess) :
      ¬ Succeeded (buildErrResponse msg status) :=
    fun success => refused (succeeded_buildErrResponse.mp success)
  by_cases outside : ((List.range access.size).any fun index =>
      ioLocalGetBuf (access.target index) = none) = true
  · have handled : handleIoRequest io msg = (buildErrResponse msg statusAddrOutOfRange, io) := by
      simp only [handleIoRequest, parsed, if_neg writesOnly, if_pos writes, if_pos outside]
    rw [handled]
    exact .inl ⟨failed (by decide), rfl⟩
  · by_cases short : (ioPayload msg).length < 3 + access.size
    · have handled : handleIoRequest io msg = (buildErrResponse msg statusInvalidCmd, io) := by
        simp only [handleIoRequest, parsed, if_neg writesOnly, if_pos writes, if_neg outside,
          if_pos short]
      rw [handled]
      exact .inl ⟨failed (by decide), rfl⟩
    · have handled : handleIoRequest io msg = (response msg statusSuccess [ioTrans msg],
          io.write access (writeData msg)) := by
        simp only [handleIoRequest, parsed, if_neg writesOnly, if_pos writes, if_neg outside,
          if_neg short]
      have served : ∀ index < access.size, ioLocalGetBuf (access.target index) ≠ none := by
        intro index inside missing
        exact outside (List.any_eq_true.mpr
          ⟨index, List.mem_range.mpr inside, decide_eq_true missing⟩)
      have whole : access.size ≤ (writeData msg).length := by
        rw [writeData, length_drop]
        omega
      have written : Written io (io.write access (writeData msg)) access (writeData msg) :=
        written_write small whole served
      rw [handled]
      exact .inr ⟨succeeded_response.mpr rfl, written, fun read again reads =>
        handleIoRequest_readsBack written reads served⟩

theorem ofCode_code (trans : IoTrans) : IoTrans.ofCode (trans.code &&& 0x0F) = some trans := by
  cases trans <;> rfl

theorem mod_impliedWidth (len : Nat) : len % impliedWidth len = 0 := by
  unfold impliedWidth
  split
  · assumption
  · split
    · assumption
    · exact Nat.mod_one len

theorem asks_requestBytes {trans : IoTrans} (port : UInt16) {len : Nat} (data : List UInt8)
    (width : trans.width = impliedWidth len) (positive : 0 < len) (small : len < 256)
    (fits : data.length < 256) :
    Asks trans.isWrite trans.isFixed port len
      (requestBytes ioChannel (trans.code :: (bytes16 port ++ UInt8.ofNat len :: data))) where
  request := by
    refine isRequest_requestBytes ioChannel ?_
    have two : (bytes16 port).length = 2 := rfl
    rw [length_cons, length_append, length_cons, two]
    omega
  parsed := by
    refine ⟨trans, ?_, rfl, rfl, width⟩
    let msg := requestBytes ioChannel (trans.code :: (bytes16 port ++ UInt8.ofNat len :: data))
    have kind : IoTrans.ofCode (ioTrans msg) = some trans := ofCode_code trans
    have behind : ioPayload msg = bytes16 port ++ UInt8.ofNat len :: data := rfl
    have number : (UInt8.ofNat len).toNat = len := by
      rw [UInt8.toNat_ofNat', Nat.mod_eq_of_lt small]
    have place : read16 (ioPayload msg) 0 = port := ofNat_bytes16 port
    have long : ¬ (ioPayload msg).length < 3 := by
      have two : (bytes16 port).length = 2 := rfl
      rw [behind, length_append, length_cons, two]
      omega
    have size : ((ioPayload msg).getD 2 0).toNat = len := number
    have valid : ¬ (len = 0 ∨ len % trans.width ≠ 0) := by
      rw [width, mod_impliedWidth]
      omega
    show IoAccess.parse msg = some ⟨trans, port, len⟩
    simp only [IoAccess.parse, kind, if_neg long, size, if_neg valid, place]

theorem writeTrans_spec (len : Nat) (fixed : Bool) :
    (writeTrans len fixed).isWrite = true ∧ (writeTrans len fixed).isFixed = fixed ∧
      (writeTrans len fixed).width = impliedWidth len := by
  unfold writeTrans impliedWidth
  split
  · cases fixed <;> exact ⟨rfl, rfl, rfl⟩
  · split
    · cases fixed <;> exact ⟨rfl, rfl, rfl⟩
    · cases fixed <;> exact ⟨rfl, rfl, rfl⟩

theorem readTrans_spec (len : Nat) (fixed : Bool) :
    (readTrans len fixed).isWrite = false ∧ (readTrans len fixed).isFixed = fixed ∧
      (readTrans len fixed).width = impliedWidth len := by
  unfold readTrans impliedWidth
  split
  · cases fixed <;> exact ⟨rfl, rfl, rfl⟩
  · split
    · cases fixed <;> exact ⟨rfl, rfl, rfl⟩
    · cases fixed <;> exact ⟨rfl, rfl, rfl⟩

theorem obmfIoWrite_means (port : UInt16) {len : UInt16} (buf : Option (Nat → UInt8))
    (fixed malloc : Bool) (sends : Nat → SendResult) (small : len.toNat < 256) :
    (obmfIoWrite port len buf fixed malloc sends).Means fun msg =>
      Asks true fixed port len.toNat msg ∧
        ∀ bytes ∈ buf, writeData msg = cells bytes len.toNat := by
  cases buf with
  | none => trivial
  | some bytes =>
    by_cases positive : len.toNat = 0
    · simp only [obmfIoWrite, if_pos positive]
      trivial
    · simp only [obmfIoWrite, if_neg positive]
      cases malloc with
      | false => trivial
      | true =>
        obtain ⟨writes, kind, width⟩ := writeTrans_spec len.toNat fixed
        have asks := asks_requestBytes port (cells bytes len.toNat) width (by omega) small
          (by rw [length_cells]; exact small)
        rw [writes, kind] at asks
        refine obmfSendRequest_means sends ⟨asks, fun other same => ?_⟩
        cases same
        rfl

theorem obmfIoRead_means (port : UInt16) {len : UInt16} (fixed : Bool)
    (sends : Nat → SendResult) (small : len.toNat < 256) :
    (obmfIoRead port len fixed sends).Means (Asks false fixed port len.toNat) := by
  by_cases positive : len.toNat = 0
  · simp only [obmfIoRead, if_pos positive]
    trivial
  · simp only [obmfIoRead, if_neg positive]
    obtain ⟨reads, kind, width⟩ := readTrans_spec len.toNat fixed
    have asks := asks_requestBytes port [] width (by omega) small (by decide)
    rw [reads, kind] at asks
    exact obmfSendRequest_means sends asks

end Io

end OpenBic.Obmf
