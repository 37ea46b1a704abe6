import OpenBic.Library.Checked
import OpenBic.Mctp.Packet

/-!
# PLDM messages received over MCTP

`mctp_pldm_cmd_handler` and what it calls: `pldm_resp_msg_process`, which hands a response to the
callback of the request it answers, and `pldm_read_resp_handler`, the callback of `mctp_pldm_read`.
A message is the memory from its first byte on and a length, so that a header that was not received
is read from what lies behind. What the tables of handlers hold is a parameter.
-/

namespace OpenBic.Pldm.Receive

open List Library.Checked OpenBic.Mctp

/-- The bytes from an address on. -/
abbrev Memory := Nat → UInt8

def Memory.from (buf : Memory) (place : Nat) : Memory := fun index => buf (place + index)

/-- A message: the memory it begins in and its length, at most that of the assembly buffer. -/
structure Message where
  buf : Memory
  len : Nat
  bounded : len ≤ msgAssemblyBufSize

/-- `sizeof(pldm_hdr)`. -/
def hdrLen : Nat := 4

def pldmSuccess : UInt8 := 0x00

def pldmError : UInt8 := 0x01

def pldmErrorUnsupportedPldmCmd : UInt8 := 0x05

/-- `hdr->rq`. -/
def Memory.isRequest (buf : Memory) : Bool := buf 1 >>> 7 = 1

/-- `hdr->inst_id`. -/
def Memory.instId (buf : Memory) : UInt8 := buf 1 &&& 0x1F

/-- `hdr->pldm_type`. -/
def Memory.pldmType (buf : Memory) : UInt8 := buf 2 &&& 0x3F

/-- `hdr->cmd`. -/
def Memory.cmd (buf : Memory) : UInt8 := buf 3

/-- The header of the response: the request's, with `rq` cleared. -/
def Memory.respHeader (buf : Memory) : List UInt8 := [buf 0, buf 1 &&& 0x7F, buf 2, buf 3]

/-- The length that handlers and callbacks are given, in sixteen bits. -/
def payloadLen (len : Nat) : UInt16 := (UInt32.ofNat len - UInt32.ofNat hdrLen).toUInt16

/-- `pldm_recv_resp_arg`, with the buffer of the reader. -/
structure RecvArg where
  rbufLen : UInt16
  rbuf : Buffer rbufLen.toNat
  returnLen : UInt16

/-- Which `recv_resp_cb_fn` a request has. -/
inductive Callback where
  | absent
  | reader (arg : RecvArg)
  | other

/-- What is read of a `wait_msg`. -/
structure WaitMsg where
  mctpInst : Nat
  instId : UInt8
  pldmType : UInt8
  cmd : UInt8
  /-- `msg.recv_resp_cb_fn` and its arguments. -/
  callback : Callback

/-- The requests that wait for a response, and the instance ids. -/
structure Pending where
  waiting : List WaitMsg
  /-- `pldm_inst_table` of each MCTP instance. -/
  instTable : Nat → UInt8 → Bool

/-- What becomes of a message outside of the list. -/
inductive Effect where
  | handler (len : UInt16)
  | callback (len : UInt16)
  | filled (arg : RecvArg)
  | sent (bytes : List UInt8)

/-- What a message leaves behind. -/
structure Outcome where
  pending : Pending
  effects : List Effect
  rc : UInt8

/-- What a handler answers. -/
structure Answer where
  /-- `PLDM_LATER_RESP`: the response is sent later. -/
  later : Bool
  data : List UInt8

/-- The tables of handlers, and `mctp_send_msg`. -/
structure Service where
  /-- `query_tbl` and the tables it leads to. -/
  handlerQuery : UInt8 → Option (UInt8 → Option (Memory → UInt16 → UInt8 → Answer))
  mctpSendMsg : List UInt8 → UInt8

/-- `pldm_read_resp_handler`; an empty response is no response. -/
def pldmReadRespHandler (arg : RecvArg) (rbuf : Memory) (rlen : UInt16) :
    Option (List Effect) :=
  if rlen = 0 then some []
  else do
    let returnLen := if rlen > arg.rbufLen then arg.rbufLen else rlen
    let filled ← arg.rbuf.write 0 ((List.range returnLen.toNat).map rbuf)
    pure [.filled { arg with rbuf := filled, returnLen }]

def WaitMsg.awaits (node : WaitMsg) (mctpInst : Nat) (buf : Memory) : Bool :=
  node.instId == buf.instId && node.pldmType == buf.pldmType && node.cmd == buf.cmd &&
    node.mctpInst == mctpInst

def Callback.run (callback : Callback) (message : Message) : Option (List Effect) :=
  match callback with
  | .absent => some []
  | .other => some [.callback (payloadLen message.len)]
  | .reader arg => do
    let filled ← pldmReadRespHandler arg (message.buf.from hdrLen) (payloadLen message.len)
    pure (.callback (payloadLen message.len) :: filled)

/-- `pldm_resp_msg_process`, which may not get its mutex. -/
def pldmRespMsgProcess (s : Pending) (locked : Bool) (mctpInst : Nat) (message : Message) :
    Option Outcome :=
  if message.len = 0 then some ⟨s, [], pldmError⟩
  else if locked = false then some ⟨s, [], pldmError⟩
  else
    match s.waiting.find? (·.awaits mctpInst message.buf) with
    | none => some ⟨s, [], pldmSuccess⟩
    | some node =>
      let removed := { s with waiting := s.waiting.eraseP (·.awaits mctpInst message.buf) }
      if s.instTable mctpInst node.instId then do
        let effects ← node.callback.run message
        let freed := Function.update (s.instTable mctpInst) node.instId false
        pure ⟨{ removed with instTable := Function.update s.instTable mctpInst freed }, effects,
          pldmSuccess⟩
      else some ⟨removed, [], pldmError⟩

def Service.send (service : Service) (s : Pending) (message : Message) (effects : List Effect)
    (data : List UInt8) : Outcome :=
  let resp := message.buf.respHeader ++ data
  ⟨s, effects ++ [.sent resp], service.mctpSendMsg resp⟩

def Service.mctpPldmCmdHandler (service : Service) (s : Pending) (locked : Bool) (mctpInst : Nat)
    (message : Message) : Option Outcome :=
  if message.len = 0 then some ⟨s, [], pldmError⟩
  else if message.buf.isRequest = false then pldmRespMsgProcess s locked mctpInst message
  else
    match service.handlerQuery message.buf.pldmType with
    | none => some (service.send s message [] [pldmErrorUnsupportedPldmCmd])
    | some commands =>
      match commands message.buf.cmd with
      | none => some (service.send s message [] [pldmErrorUnsupportedPldmCmd])
      | some handler =>
        let answer := handler (message.buf.from hdrLen) (payloadLen message.len)
          message.buf.instId
        let called := [.handler (payloadLen message.len)]
        if answer.later then some ⟨s, called, pldmSuccess⟩
        else some (service.send s message called answer.data)

/-- What becomes of a message is sound. -/
structure Sound (s : Pending) (message : Message) (outcome : Outcome) : Prop where
  exact : ∀ len, .handler len ∈ outcome.effects ∨ .callback len ∈ outcome.effects →
    len.toNat + hdrLen = message.len
  dropped : message.len < hdrLen → outcome.pending = s ∧ outcome.effects = []
  copied : ∀ arg, .filled arg ∈ outcome.effects → arg.returnLen ≤ arg.rbufLen

/-- No request waits for the message. -/
def Unawaited (s : Pending) (locked : Bool) (mctpInst : Nat) (message : Message) : Prop :=
  locked = true → ∀ node ∈ s.waiting, node.awaits mctpInst message.buf = false

/-- The message has a header, or is empty, or its header, read from what lies behind it, is that
of a response that no request waits for. -/
def Headed (s : Pending) (locked : Bool) (mctpInst : Nat) (message : Message) : Prop :=
  hdrLen ≤ message.len ∨ message.len = 0 ∨ message.buf.isRequest = false ∧
    (locked = true → ∀ node ∈ s.waiting, node.awaits mctpInst message.buf = false)

variable {s : Pending} {locked : Bool} {mctpInst : Nat} {message : Message} {arg : RecvArg}
  {outcome : Outcome} {service : Service}

theorem payloadLen_toNat (message : Message) (headed : hdrLen ≤ message.len) :
    (payloadLen message.len).toNat + hdrLen = message.len := by
  have bounded : message.len ≤ 1024 := message.bounded
  have four : hdrLen = 4 := rfl
  have whole : (UInt32.ofNat message.len).toNat = message.len :=
    UInt32.toNat_ofNat_of_lt' (show message.len < 2 ^ 32 by omega)
  have least : UInt32.ofNat hdrLen ≤ UInt32.ofNat message.len := by
    rw [UInt32.le_iff_toNat_le, whole]
    exact headed
  unfold payloadLen
  rw [UInt32.toNat_toUInt16, UInt32.toNat_sub_of_le _ _ least, whole]
  show (message.len - 4) % 2 ^ 16 + hdrLen = message.len
  omega

theorem pldmReadRespHandler_returns (arg : RecvArg) (rbuf : Memory) (rlen : UInt16) :
    Returns (pldmReadRespHandler arg rbuf rlen) fun effects =>
      ∀ effect ∈ effects, ∃ filled,
        effect = .filled filled ∧ filled.returnLen ≤ filled.rbufLen := by
  unfold pldmReadRespHandler
  split
  · exact .intro nofun
  · have fits : (if rlen > arg.rbufLen then arg.rbufLen else rlen) ≤ arg.rbufLen := by
      split
      · exact UInt16.le_refl _
      · rename_i short
        exact UInt16.not_lt.mp short
    obtain ⟨filled, wrote, -⟩ := arg.rbuf.write_eq
      ((List.range (if rlen > arg.rbufLen then arg.rbufLen else rlen).toNat).map rbuf)
      (show 0 + _ ≤ _ by
        rw [length_map, length_range, Nat.zero_add]
        exact UInt16.le_iff_toNat_le.mp fits)
    dsimp only
    rw [wrote]
    refine .intro fun effect listed => ?_
    rw [List.mem_singleton.mp listed]
    exact ⟨_, rfl, fits⟩

/-- What a callback leads to: it is called with the length of the message, and a reader is filled
inside its buffer. -/
structure Called (message : Message) (effects : List Effect) : Prop where
  handler : ∀ len, .handler len ∉ effects
  callback : ∀ len, .callback len ∈ effects → len = payloadLen message.len
  copied : ∀ arg, .filled arg ∈ effects → arg.returnLen ≤ arg.rbufLen

/-- A callback returns, and was called with the message. -/
theorem Callback.run_returns (callback : Callback) (message : Message) :
    Returns (callback.run message) (Called message) := by
  cases callback with
  | absent => exact .intro ⟨nofun, nofun, nofun⟩
  | other =>
    refine .intro ⟨fun len listed => ?_, fun len listed => ?_, fun arg listed => ?_⟩
    · cases List.mem_singleton.mp listed
    · exact Effect.callback.inj (List.mem_singleton.mp listed)
    · cases List.mem_singleton.mp listed
  | reader arg =>
    refine (pldmReadRespHandler_returns arg _ _).bind fun filled each => .intro ?_
    refine ⟨fun len listed => ?_, fun len listed => ?_, fun got listed => ?_⟩
    · rcases List.mem_cons.mp listed with same | later
      · cases same
      · obtain ⟨other, same, -⟩ := each _ later
        cases same
    · rcases List.mem_cons.mp listed with same | later
      · exact Effect.callback.inj same
      · obtain ⟨other, same, -⟩ := each _ later
        cases same
    · rcases List.mem_cons.mp listed with same | later
      · cases same
      · obtain ⟨other, same, fits⟩ := each _ later
        rw [Effect.filled.inj same]
        exact fits

/-- Nothing happens. -/
def Outcome.Untouched (outcome : Outcome) (s : Pending) : Prop :=
  outcome.pending = s ∧ outcome.effects = []

/-- A response is handed to the callback of the request that waits for it, if one does. -/
theorem pldmRespMsgProcess_returns (s : Pending) (locked : Bool) (mctpInst : Nat)
    (message : Message) (some : message.len ≠ 0) :
    Returns (pldmRespMsgProcess s locked mctpInst message) fun outcome =>
      Called message outcome.effects ∧
        (outcome.Untouched s ↔ Unawaited s locked mctpInst message) := by
  have nothing : Called message [] := ⟨nofun, nofun, nofun⟩
  unfold pldmRespMsgProcess
  rw [if_neg some]
  split
  · rename_i unlocked
    refine .intro ⟨nothing, iff_of_true ⟨rfl, rfl⟩ fun held => ?_⟩
    rw [unlocked] at held
    cases held
  · rename_i held
    split
    · rename_i unfound
      have none := List.find?_eq_none.mp unfound
      refine .intro ⟨nothing, iff_of_true ⟨rfl, rfl⟩ fun _ node listed => ?_⟩
      exact Bool.eq_false_iff.mpr (none node listed)
    · rename_i node found
      have listed := mem_of_find?_eq_some found
      have awaits := find?_some found
      have awaited : ¬ Unawaited s locked mctpInst message := by
        intro none
        rw [none (Bool.of_not_eq_false held) node listed] at awaits
        cases awaits
      have shorter : (s.waiting.eraseP (·.awaits mctpInst message.buf)).length <
          s.waiting.length := by
        have one := length_eraseP_of_mem (p := (·.awaits mctpInst message.buf)) listed awaits
        have some := length_pos_of_mem listed
        omega
      split
      · refine (node.callback.run_returns message).bind fun effects called => .intro ⟨called, ?_⟩
        refine iff_of_false (fun untouched => ?_) awaited
        have same := congrArg (fun pending => pending.waiting.length) untouched.1
        exact Nat.ne_of_lt shorter same
      · refine .intro ⟨nothing, iff_of_false (fun untouched => ?_) awaited⟩
        have same := congrArg (fun pending => pending.waiting.length) untouched.1
        exact Nat.ne_of_lt shorter same

theorem mctpPldmCmdHandler_request (service : Service) (s : Pending) (locked : Bool)
    (mctpInst : Nat) (message : Message) (some : message.len ≠ 0)
    (request : message.buf.isRequest = true) :
    Returns (service.mctpPldmCmdHandler s locked mctpInst message) fun outcome =>
      outcome.effects ≠ [] ∧ (∀ len, .callback len ∉ outcome.effects) ∧
        (∀ len, .handler len ∈ outcome.effects → len = payloadLen message.len) ∧
        ∀ arg, .filled arg ∉ outcome.effects := by
  have sent : ∀ data, ([] ++ [Effect.sent (message.buf.respHeader ++ data)] ≠ []) ∧
      (∀ len, .callback len ∉ [Effect.sent (message.buf.respHeader ++ data)]) ∧
      (∀ len, .handler len ∈ [Effect.sent (message.buf.respHeader ++ data)] →
        len = payloadLen message.len) ∧
      ∀ arg, .filled arg ∉ [Effect.sent (message.buf.respHeader ++ data)] := by
    intro data
    simp
  unfold Service.mctpPldmCmdHandler
  rw [if_neg some, if_neg (by rw [request]; decide)]
  split
  · exact .intro (sent _)
  · split
    · exact .intro (sent _)
    · dsimp only
      split
      · exact .intro (by simp)
      · exact .intro (by simp [Service.send])

/-- What becomes of a message is sound when it has a header, is empty or is taken for a response
that no request waits for, and only then. -/
theorem mctpPldmCmdHandler_sound (service : Service) (s : Pending) (locked : Bool)
    (mctpInst : Nat) (message : Message) :
    Returns (service.mctpPldmCmdHandler s locked mctpInst message) (Sound s message) ↔
      Headed s locked mctpInst message := by
  by_cases empty : message.len = 0
  · refine iff_of_true ?_ (.inr (.inl empty))
    unfold Service.mctpPldmCmdHandler
    rw [if_pos empty]
    refine .intro ⟨fun len listed => ?_, fun _ => ⟨rfl, rfl⟩, nofun⟩
    rcases listed with listed | listed <;> cases listed
  cases kind : message.buf.isRequest with
  | true =>
    have request := mctpPldmCmdHandler_request service s locked mctpInst message empty kind
    constructor
    · intro sound
      obtain ⟨outcome, -, ⟨happened, -⟩, sound⟩ := request.and sound
      left
      by_contra short
      exact happened (sound.dropped (Nat.not_le.mp short)).2
    · intro headed
      have long : hdrLen ≤ message.len := by
        rcases headed with long | zero | ⟨response, -⟩
        · exact long
        · exact absurd zero empty
        · rw [kind] at response
          cases response
      refine request.mono fun outcome ⟨_, callback, handler, filled⟩ => ?_
      refine ⟨fun len listed => ?_, fun short => absurd long (Nat.not_le.mpr short),
        fun arg listed => absurd listed (filled arg)⟩
      rcases listed with listed | listed
      · rw [handler len listed]
        exact payloadLen_toNat message long
      · exact absurd listed (callback len)
  | false =>
    have same : service.mctpPldmCmdHandler s locked mctpInst message =
        pldmRespMsgProcess s locked mctpInst message := by
      unfold Service.mctpPldmCmdHandler
      rw [if_neg empty, if_pos kind]
    have response := pldmRespMsgProcess_returns s locked mctpInst message empty
    rw [same]
    constructor
    · intro sound
      obtain ⟨outcome, -, ⟨-, untouched⟩, sound⟩ := response.and sound
      by_cases long : hdrLen ≤ message.len
      · exact .inl long
      · exact .inr (.inr ⟨kind, untouched.mp (sound.dropped (Nat.not_le.mp long))⟩)
    · intro headed
      refine response.mono fun outcome ⟨called, untouched⟩ => ?_
      refine ⟨fun len listed => ?_, fun short => ?_, called.copied⟩
      · rcases listed with listed | listed
        · exact absurd listed (called.handler len)
        · rw [called.callback len listed]
          rcases headed with long | zero | ⟨-, unawaited⟩
          · exact payloadLen_toNat message long
          · exact absurd zero empty
          · rw [(untouched.mpr unawaited).2] at listed
            cases listed
      · rcases headed with long | zero | ⟨-, unawaited⟩
        · omega
        · exact absurd zero empty
        · exact untouched.mpr unawaited

/-- A message of one byte, behind which the header of a request stands in memory. -/
def oneByte : Message :=
  { buf := fun index => if index = 1 then 0x80 else 0x02, len := 1, bounded := by decide }

def oneHandler : Service :=
  { handlerQuery := fun _ => some fun _ => some fun _ _ _ => ⟨false, [pldmSuccess]⟩
    mctpSendMsg := fun _ => 0 }

/-- Its handler is called with a length of 65533. -/
theorem not_sound_oneByte :
    ¬ Returns (oneHandler.mctpPldmCmdHandler ⟨[], fun _ _ => false⟩ true 0 oneByte)
      (Sound ⟨[], fun _ _ => false⟩ oneByte) := by
  rintro ⟨outcome, ran, sound⟩
  cases ran
  have length := sound.exact 65533 (.inl mem_cons_self)
  cases length

end OpenBic.Pldm.Receive
