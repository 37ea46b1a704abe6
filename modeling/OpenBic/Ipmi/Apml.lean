import OpenBic.Ipmi.CmdHandle
import OpenBic.Library.Machine
import Mathlib.Data.List.Range
import Mathlib.Logic.Function.Basic

/-!
# Requests by APML

`apml.c`, whose thread `apml_handler` takes messages from a queue and accesses the processor, and the
handlers `OEM_1S_SEND_APML_REQUEST` and `OEM_1S_GET_APML_RESPONSE` of `oem_1s_handler.c`, which put
requests into the queue and look for their responses in a ring. A step of a mailbox access ends where
a register is read or written, or where it sets or looks at the flag of fatal errors.
-/

namespace OpenBic.Apml

open List Function Library.Machine Ipmi

/-! ## The code -/

def apmlMsgTypeMailbox : UInt8 := 0

def apmlMsgTypeCpuid : UInt8 := 1

def apmlMsgTypeMca : UInt8 := 2

def retryMax : Nat := 3

def mailboxCompleteRetryMax : Nat := 200

def apmlRespBufferSize : Nat := 10

def apmlMsgqLen : Nat := 32

/-- The size of `WrData`. -/
def wrDataSize : Nat := 7

/-- The size of `RdData`. -/
def rdDataSize : Nat := 9

/-- `RdData`. -/
structure RdData where
  bytes : List UInt8
  sized : bytes.length = rdDataSize

def RdData.fill (byte : UInt8) : RdData :=
  ⟨List.replicate rdDataSize byte, length_replicate⟩

def RdData.set (rdData : RdData) (place : Nat) (byte : UInt8) : RdData where
  bytes := rdData.bytes.set place byte
  sized := by rw [length_set, rdData.sized]

/-- `apml_msg`, without where the processor is. -/
structure ApmlMsg where
  msgType : UInt8
  wrData : List UInt8
  rdData : RdData
  /-- `cb_fn` is `apml_request_callback`. -/
  requestCallback : Bool
  ui32Arg : UInt32
  request : Nat

/-- `apml_buffer`: a response and the index it was stored under. -/
structure ApmlBuffer where
  index : UInt8
  msg : ApmlMsg

/-- The register access that is next. -/
inductive Phase where
  /-- A turn of `check_mailbox_command_complete`. -/
  | complete (i : Nat)
  /-- `write_mailbox_request` reads `SBRMI_INBANDMSG_INST7`. -/
  | indicate
  /-- It writes `SBRMI_INBANDMSG_INST7`. -/
  | service
  | write (i : Nat)
  /-- It notifies the processor by `SBRMI_SOFTWARE_INTERRUPT`. -/
  | notify
  /-- It sets `is_fatal_error_happened`. -/
  | clear
  | wait (i : Nat)
  /-- It looks at `is_fatal_error_happened`. -/
  | check
  /-- `read_mailbox_response` reads a byte. -/
  | read (i : Nat)
  /-- It clears `SwAlertSts`. -/
  | clearAlert
deriving DecidableEq

/-- What `apml_handler` is about. -/
inductive Handler where
  | idle
  /-- `access_RMI_mailbox`, with whether a fatal error was signalled since it notified the processor,
  until it has read the response. -/
  | mailbox (msg : ApmlMsg) (phase : Phase) (signalled : Bool)
  /-- `access_CPUID` or `access_MCA`. -/
  | access (msg : ApmlMsg)

/-- The queue, the thread and the ring, with what was given and answered. -/
structure ApmlState where
  index : UInt8
  msgq : List ApmlMsg
  handler : Handler
  respBuffer : List ApmlBuffer
  respIndex : Nat
  isFatalErrorHappened : Bool
  given : List UInt8
  answered : Nat → Option ApmlMsg
  /-- Whether a fatal error was signalled between the notification and the response, for each mailbox
  access that succeeded. -/
  succeeded : List Bool

/-- The number of bytes of a request, by `msg_type` and `command_code_len`. -/
def requestLen (twoByte : Bool) (msgType : UInt8) : Option Nat :=
  if msgType = apmlMsgTypeMailbox then some 5
  else if msgType = apmlMsgTypeCpuid then some (if twoByte then 7 else 6)
  else if msgType = apmlMsgTypeMca then some (if twoByte then 6 else 5)
  else none

/-- `apml_read`: a message is put into the queue. -/
def ApmlState.apmlRead (state : ApmlState) (msg : ApmlMsg) : Option ApmlState :=
  if state.msgq.length < apmlMsgqLen then some { state with msgq := state.msgq ++ [msg] } else none

/-- `apml_data` of a request. -/
def requestMsg (state : ApmlState) (msg : HandlerMsg) (wrLen : Nat) : ApmlMsg where
  msgType := msg.data 0
  wrData := (List.range wrLen).map (fun place => msg.data (1 + place)) ++
    List.replicate (wrDataSize - wrLen) 0
  rdData := .fill 0
  requestCallback := true
  ui32Arg := UInt32.ofNat state.index.toNat
  request := state.given.length

def oem1sSendApmlRequest (twoByte : Bool) (state : ApmlState) (msg : HandlerMsg) :
    HandlerMsg × ApmlState :=
  if msg.dataLen < 1 then (msg.complete .invalidLength, state)
  else match requestLen twoByte (msg.data 0) with
    | none => (msg.complete .unspecifiedError, state)
    | some wrLen =>
      if msg.dataLen ≠ 1 + wrLen then (msg.complete .invalidLength, state)
      else match state.apmlRead (requestMsg state msg wrLen) with
        | none => (msg.complete .unspecifiedError, state)
        | some after => ({
            data := (msg.copied [state.index]).data
            dataLen := 1
            completionCode := .success }, { after with
            index := state.index + 1
            given := state.given ++ [state.index] })

def getApmlResponseByIndex (state : ApmlState) (index : UInt8) : Option ApmlMsg :=
  (state.respBuffer.find? (·.index = index)).map ApmlBuffer.msg

/-- What `OEM_1S_GET_APML_RESPONSE` copies of a message. -/
def ApmlMsg.response (msg : ApmlMsg) : Option (List UInt8) :=
  if msg.msgType = apmlMsgTypeMailbox then some (msg.rdData.bytes.take 6)
  else if msg.msgType = apmlMsgTypeCpuid then some (msg.rdData.bytes.take 9)
  else if msg.msgType = apmlMsgTypeMca then some (msg.rdData.bytes.take 9)
  else none

def oem1sGetApmlResponse (state : ApmlState) (msg : HandlerMsg) : HandlerMsg :=
  if msg.dataLen ≠ 1 then msg.complete .invalidLength
  else match getApmlResponseByIndex state (msg.data 0) with
    | none => msg.complete .unspecifiedError
    | some apmlData =>
      match apmlData.response with
      | none => msg.complete .unspecifiedError
      | some response => {
          data := (msg.copied response).data
          dataLen := response.length
          completionCode := .success }

/-- `apml_request_callback`. It stores the index before it copies the message; no
`OEM_1S_GET_APML_RESPONSE` is taken to come in between. -/
def ApmlState.apmlRequestCallback (state : ApmlState) (msg : ApmlMsg) : ApmlState := { state with
  respBuffer := state.respBuffer.set state.respIndex ⟨(msg.ui32Arg &&& 0xFF).toUInt8, msg⟩
  respIndex := if apmlRespBufferSize ≤ state.respIndex + 1 then 0 else state.respIndex + 1
  answered := update state.answered msg.request (some msg) }

/-- `apml_handler` is done with a message. -/
def ApmlState.done (state : ApmlState) (msg : ApmlMsg) (success : Bool) : ApmlState :=
  let state := { state with handler := .idle }
  if success && msg.requestCallback then state.apmlRequestCallback msg else state

/-- `apml_handler` takes a message. -/
def ApmlState.take (state : ApmlState) (msg : ApmlMsg) (postStatus : Bool) : ApmlState :=
  if postStatus = false then state.done msg false
  else if msg.msgType = apmlMsgTypeMailbox then
    { state with handler := .mailbox msg (.complete 0) false }
  else if msg.msgType = apmlMsgTypeCpuid ∨ msg.msgType = apmlMsgTypeMca then
    { state with handler := .access msg }
  else state.done msg false

/-- Where a step of a mailbox access leads. -/
inductive Turn where
  | goes (phase : Phase)
  | reads (place : Nat) (byte : UInt8) (phase : Phase)
  | returns (success : Bool)
  | readsLast (place : Nat) (byte : UInt8)

/-- A step of `access_RMI_mailbox`: what was read or written, if that did not fail, and
`get_post_status`. -/
def accessRmiMailbox (twoByte isFatalErrorHappened : Bool) (answer : Option UInt8)
    (postStatus : Bool) : Phase → Turn
  | .complete i =>
    match answer with
    | some status =>
      if status &&& 0x01 = 0 then .goes .indicate
      else if i + 1 < retryMax then .goes (.complete (i + 1)) else .returns false
    | none => if i + 1 < retryMax then .goes (.complete (i + 1)) else .returns false
  | .indicate =>
    match answer with
    | none => .returns false
    | some read => if read &&& 0x80 = 0 then .goes .service else .goes (.write 0)
  | .service => if answer.isNone then .returns false else .goes (.write 0)
  | .write i =>
    if answer.isNone then .returns false
    else if i + 1 < 5 then .goes (.write (i + 1)) else .goes .notify
  | .notify => if answer.isNone then .returns false else .goes .clear
  | .clear => .goes (.wait 0)
  | .wait i =>
    match answer with
    | none => .returns false
    | some status =>
      if (if twoByte then status &&& 0x01 = 0 else status &&& 0x02 ≠ 0) then .goes .check
      else if postStatus = false then .returns false
      else if i + 1 < mailboxCompleteRetryMax then .goes (.wait (i + 1)) else .returns false
  | .check => if isFatalErrorHappened then .returns false else .goes (.read 0)
  | .read i =>
    match answer with
    | none => .returns false
    | some byte =>
      if i + 1 < 6 then .reads i byte (.read (i + 1))
      else if twoByte then .readsLast i byte else .reads i byte .clearAlert
  | .clearAlert => .returns answer.isSome

def ApmlMsg.setRdData (msg : ApmlMsg) (place : Nat) (byte : UInt8) : ApmlMsg :=
  { msg with rdData := msg.rdData.set place byte }

def ApmlState.returns (state : ApmlState) (msg : ApmlMsg) (success signalled : Bool) :
    ApmlState := { state.done msg success with
  succeeded := if success then state.succeeded ++ [signalled] else state.succeeded }

def ApmlState.proceed (twoByte : Bool) (state : ApmlState) (msg : ApmlMsg) (phase : Phase)
    (signalled : Bool) (answer : Option UInt8) (postStatus : Bool) : ApmlState :=
  let after := { state with
    isFatalErrorHappened := decide (phase ≠ Phase.clear) && state.isFatalErrorHappened }
  match accessRmiMailbox twoByte state.isFatalErrorHappened answer postStatus phase with
  | .goes next => { after with handler := .mailbox msg next signalled }
  | .reads place byte next => { after with
      handler := .mailbox (msg.setRdData place byte) next signalled }
  | .returns success => after.returns msg success signalled
  | .readsLast place byte => after.returns (msg.setRdData place byte) true signalled

def Phase.notified : Phase → Bool
  | .clear | .wait _ | .check | .read _ => true
  | _ => false

def ApmlState.fatalErrorHappened (state : ApmlState) : ApmlState := { state with
  isFatalErrorHappened := true
  handler :=
    match state.handler with
    | .mailbox msg phase signalled => .mailbox msg phase (signalled || phase.notified)
    | handler => handler }

/-! ## What is claimed -/

/-- The start, as `apml_init` sets it. -/
def ApmlState.start : ApmlState where
  index := 0
  msgq := []
  handler := .idle
  respBuffer := List.replicate apmlRespBufferSize
    ⟨0xFF, 0xFF, List.replicate wrDataSize 0xFF, .fill 0xFF, false, 0xFFFFFFFF, 0⟩
  respIndex := 0
  isFatalErrorHappened := false
  given := []
  answered := fun _ => none
  succeeded := []

/-- What can happen. -/
inductive ApmlEvent where
  | send (msg : HandlerMsg)
  | put (msgType : UInt8) (wrData : List UInt8)
  /-- `apml_handler` takes a message. -/
  | take (postStatus : Bool)
  | proceed (answer : Option UInt8) (postStatus : Bool)
  /-- `access_CPUID` or `access_MCA` returns, with a response when it succeeds. -/
  | access (rdData : Option RdData)
  | fatal

def step (twoByte : Bool) (state : ApmlState) : ApmlEvent → Option ApmlState
  | .send msg => some (oem1sSendApmlRequest twoByte state msg).2
  | .put msgType wrData =>
    some ((state.apmlRead ⟨msgType, wrData, .fill 0, false, 0, 0⟩).getD state)
  | .take postStatus =>
    match state.handler, state.msgq with
    | .idle, msg :: rest => some ({ state with msgq := rest }.take msg postStatus)
    | _, _ => none
  | .proceed answer postStatus =>
    match state.handler with
    | .mailbox msg phase signalled =>
      some (state.proceed twoByte msg phase signalled answer postStatus)
    | _ => none
  | .access rdData =>
    match state.handler with
    | .access msg => some (state.done { msg with rdData := rdData.getD msg.rdData } rdData.isSome)
    | _ => none
  | .fatal => some state.fatalErrorHappened

/-- A request is the last one of its index. -/
def Latest (given : List UInt8) (index : UInt8) (request : Nat) : Prop :=
  given[request]? = some index ∧ ∀ later, request < later → given[later]? ≠ some index

/-- A response is that of the last request with its index, and no mailbox access succeeded with a
fatal error. -/
structure ApmlRight (state : ApmlState) : Prop where
  pairs : ∀ msg : HandlerMsg, msg.dataLen = 1 →
    (oem1sGetApmlResponse state msg).completionCode = .success →
    ∃ request answered, Latest state.given (msg.data 0) request ∧
      state.answered request = some answered ∧
      answered.response = some (oem1sGetApmlResponse state msg).bytes
  safe : ∀ signalled ∈ state.succeeded, signalled = false

/-- A step does not go wrong: when a request is accepted, there is no response with its index any
more; and a fatal error is not signalled between the notification of the processor and the setting of
the flag, nor while the response is read. -/
def Orderly (twoByte : Bool) (state : ApmlState) : ApmlEvent → Prop
  | .send msg => ∀ wrLen, requestLen twoByte (msg.data 0) = some wrLen →
    msg.dataLen = 1 + wrLen → state.msgq.length < apmlMsgqLen →
    ∀ slot ∈ state.respBuffer, slot.msg.response ≠ none → slot.index ≠ state.index
  | .fatal => ∀ msg phase signalled, state.handler = .mailbox msg phase signalled →
    phase ≠ .clear ∧ ∀ i, phase ≠ .read i
  | _ => True

/-! ## Steps -/

def Handler.msg : Handler → Option ApmlMsg
  | .idle => none
  | .mailbox msg _ _ => some msg
  | .access msg => some msg

def ApmlState.pending (state : ApmlState) : List (Nat × UInt32) :=
  ((state.handler.msg.toList ++ state.msgq).filter ApmlMsg.requestCallback).map
    fun msg => (msg.request, msg.ui32Arg)

def Phase.watches : Phase → Bool
  | .wait _ | .check => true
  | _ => false

def indexOf (request : Nat) : UInt8 := UInt8.ofNat request

/-- The requests that wait are the last ones, and a response is that of an earlier request, since
which each index was given at most once. -/
structure Paired (state : ApmlState) (first : Nat) : Prop where
  index : state.index = indexOf state.given.length
  given : state.given = (List.range state.given.length).map indexOf
  room : state.msgq.length ≤ apmlMsgqLen
  counted : first + state.pending.length = state.given.length
  pending : state.pending.map Prod.fst = List.range' first state.pending.length
  arguments : ∀ waiting ∈ state.pending, (waiting.2 &&& 0xFF).toUInt8 = indexOf waiting.1
  slots : ∀ slot ∈ state.respBuffer, slot.msg.response ≠ none →
    slot.index = indexOf slot.msg.request ∧ slot.msg.request < first ∧
      state.given.length ≤ slot.msg.request + 256 ∧
      state.answered slot.msg.request = some slot.msg

/-- A fatal error that was signalled will be seen, and none was signalled in an access that
succeeded. -/
structure Watched (state : ApmlState) : Prop where
  seen : ∀ msg phase, state.handler = .mailbox msg phase true →
    phase.watches = true ∧ state.isFatalErrorHappened = true
  safe : ∀ signalled ∈ state.succeeded, signalled = false

section Steps

variable {state : ApmlState} {first request : Nat} {msg : ApmlMsg} {twoByte : Bool}

theorem Paired.getElem?_given (paired : Paired state first) (inside : request < state.given.length) :
    state.given[request]? = some (indexOf request) := by
  have same := paired.given
  rw [same, getElem?_map, getElem?_range (by simpa using inside)]
  rfl

theorem Paired.latest (paired : Paired state first) (inside : request < state.given.length)
    (recent : state.given.length ≤ request + 256) :
    Latest state.given (indexOf request) request := by
  refine ⟨paired.getElem?_given inside, fun later after same => ?_⟩
  obtain ⟨within, -⟩ := List.getElem?_eq_some_iff.mp same
  have index := Option.some.inj ((paired.getElem?_given within).symm.trans same)
  have numbers := congrArg UInt8.toNat index
  unfold indexOf at numbers
  rw [UInt8.toNat_ofNat', UInt8.toNat_ofNat'] at numbers
  omega

/-- A response is that of the last request with its index. -/
theorem Paired.pairs (paired : Paired state first) {msg : HandlerMsg} (one : msg.dataLen = 1)
    (success : (oem1sGetApmlResponse state msg).completionCode = .success) :
    ∃ request answered, Latest state.given (msg.data 0) request ∧
      state.answered request = some answered ∧
      answered.response = some (oem1sGetApmlResponse state msg).bytes := by
  unfold oem1sGetApmlResponse getApmlResponseByIndex at success ⊢
  rw [if_neg (fun wrong => wrong one)] at success ⊢
  cases found : state.respBuffer.find? (·.index = msg.data 0) with
  | none =>
    rw [found] at success
    cases success
  | some slot =>
    have listed := mem_of_find?_eq_some found
    have index : slot.index = msg.data 0 := by simpa using find?_some found
    rw [found] at success
    dsimp only [Option.map_some] at success ⊢
    cases response : slot.msg.response with
    | none =>
      rw [response] at success
      cases success
    | some bytes =>
      have present : slot.msg.response ≠ none := by
        rw [response]
        exact nofun
      obtain ⟨same, before, recent, answered⟩ := paired.slots slot listed present
      have counted := paired.counted
      have latest := paired.latest (show slot.msg.request < _ by omega) recent
      rw [← same, index] at latest
      refine ⟨slot.msg.request, slot.msg, latest, answered, ?_⟩
      rw [response]
      exact congrArg some (range_copied msg bytes).symm

theorem Paired.congr (paired : Paired state first) {next : ApmlState}
    (index : next.index = state.index) (given : next.given = state.given)
    (room : next.msgq.length ≤ apmlMsgqLen) (pending : next.pending = state.pending)
    (respBuffer : next.respBuffer = state.respBuffer)
    (answered : next.answered = state.answered) : Paired next first := by
  refine ⟨?_, ?_, room, ?_, ?_, ?_, ?_⟩
  · rw [index, given]
    exact paired.index
  · rw [given]
    exact paired.given
  · rw [pending, given]
    exact paired.counted
  · rw [pending]
    exact paired.pending
  · rw [pending]
    exact paired.arguments
  · rw [respBuffer, given, answered]
    exact paired.slots

theorem Paired.done (paired : Paired state first) {old : ApmlMsg}
    (here : state.handler.msg = some old) (request : msg.request = old.request)
    (callback : msg.requestCallback = old.requestCallback) (ui32Arg : msg.ui32Arg = old.ui32Arg)
    (success : Bool) : ∃ first, Paired (state.done msg success) first := by
  have waiting : state.pending =
      ((old :: state.msgq).filter ApmlMsg.requestCallback).map
        fun msg => (msg.request, msg.ui32Arg) := by
    unfold ApmlState.pending
    rw [here]
    rfl
  have idle : { state with handler := Handler.idle }.pending =
      (state.msgq.filter ApmlMsg.requestCallback).map fun msg => (msg.request, msg.ui32Arg) := rfl
  cases mine : old.requestCallback with
  | false =>
    have same : { state with handler := Handler.idle }.pending = state.pending := by
      rw [waiting, filter_cons, if_neg (by rw [mine]; decide), idle]
    have left : state.done msg success = { state with handler := .idle } := by
      unfold ApmlState.done
      rw [callback, mine, Bool.and_false]
      rfl
    rw [left]
    exact ⟨first, paired.congr rfl rfl paired.room same rfl rfl⟩
  | true =>
    have same : state.pending =
        (old.request, old.ui32Arg) :: { state with handler := Handler.idle }.pending := by
      rw [waiting, filter_cons, if_pos mine, map_cons, idle]
    have counted := paired.counted
    have order := paired.pending
    rw [same, length_cons] at counted order
    obtain ⟨head, tail⟩ := List.cons.inj order
    have argument := paired.arguments (old.request, old.ui32Arg)
      (by rw [same]; exact mem_cons_self)
    have short : { state with handler := Handler.idle }.pending.length ≤ apmlMsgqLen := by
      have few := length_filter_le ApmlMsg.requestCallback state.msgq
      have room := paired.room
      rw [idle, length_map]
      omega
    have left : Paired { state with handler := .idle } (first + 1) := by
      have others : first + 1 + { state with handler := Handler.idle }.pending.length =
          state.given.length := by omega
      refine ⟨paired.index, paired.given, paired.room, others, tail, ?_, ?_⟩
      · intro waiting listed
        exact paired.arguments waiting (by rw [same]; exact mem_cons_of_mem _ listed)
      · intro slot listed present
        obtain ⟨index, before, recent, answered⟩ := paired.slots slot listed present
        exact ⟨index, by omega, recent, answered⟩
    cases success with
    | false => exact ⟨first + 1, left⟩
    | true =>
      have stored : state.done msg true =
          { state with handler := Handler.idle }.apmlRequestCallback msg := by
        unfold ApmlState.done
        rw [callback, mine]
        rfl
      rw [stored]
      refine ⟨first + 1, left.index, left.given, left.room, left.counted, left.pending,
        left.arguments, ?_⟩
      intro slot listed present
      change slot.index = _ ∧ _ ∧ _ ∧ update state.answered msg.request (some msg) _ = _
      rcases mem_or_eq_of_mem_set listed with before | rfl
      · obtain ⟨index, earlier, recent, answered⟩ := paired.slots slot before present
        have apart : slot.msg.request ≠ msg.request := by omega
        rw [update_of_ne apart]
        exact ⟨index, by omega, recent, answered⟩
      · rw [update_self, request, ui32Arg]
        unfold apmlMsgqLen at short
        refine ⟨argument, by omega, ?_, rfl⟩
        change state.given.length ≤ _
        omega

/-- A request is accepted when there is no response with its index any more. -/
theorem Paired.send (paired : Paired state first) {msg : HandlerMsg}
    (orderly : Orderly twoByte state (.send msg)) :
    Paired (oem1sSendApmlRequest twoByte state msg).2 first := by
  unfold oem1sSendApmlRequest
  by_cases short : msg.dataLen < 1
  · rw [if_pos short]
    exact paired
  rw [if_neg short]
  cases size : requestLen twoByte (msg.data 0) with
  | none => exact paired
  | some wrLen =>
    dsimp only
    by_cases length : msg.dataLen ≠ 1 + wrLen
    · rw [if_pos length]
      exact paired
    rw [if_neg length, ApmlState.apmlRead]
    by_cases full : ¬ state.msgq.length < apmlMsgqLen
    · rw [if_neg full]
      exact paired
    have room : state.msgq.length < apmlMsgqLen := not_not.mp full
    have free := orderly wrLen size (not_not.mp length) room
    rw [if_pos room]
    generalize made : requestMsg state msg wrLen = added
    have callback : added.requestCallback = true := by
      rw [← made]
      rfl
    have number : (added.request, added.ui32Arg) =
        (state.given.length, UInt32.ofNat state.index.toNat) := by
      rw [← made]
      rfl
    have waiting : ((state.handler.msg.toList ++ (state.msgq ++ [added])).filter
        ApmlMsg.requestCallback).map (fun msg => (msg.request, msg.ui32Arg)) =
        state.pending ++ [(state.given.length, UInt32.ofNat state.index.toNat)] := by
      rw [← append_assoc, filter_append, map_append, filter_cons,
        if_pos callback, filter_nil, map_singleton, number]
      rfl
    have counted := paired.counted
    have longer : (state.given ++ [state.index]).length = state.given.length + 1 := by
      rw [length_append, length_singleton]
    refine ⟨?_, ?_, ?_, ?_, ?_, ?_, ?_⟩
    · change state.index + 1 = indexOf (state.given ++ [state.index]).length
      rw [longer, paired.index, indexOf, indexOf, UInt8.ofNat_add]
      rfl
    · change state.given ++ [state.index] =
        (List.range (state.given ++ [state.index]).length).map indexOf
      rw [longer, range_succ, map_append, ← paired.given, map_singleton,
        ← paired.index]
    · change (state.msgq ++ [added]).length ≤ _
      rw [length_append, length_singleton]
      exact room
    · unfold ApmlState.pending
      rw [waiting, longer, length_append, length_singleton]
      omega
    · unfold ApmlState.pending
      rw [waiting, map_append, length_append, length_singleton, paired.pending,
        range'_concat, map_singleton, Nat.one_mul, counted]
    · unfold ApmlState.pending
      rw [waiting]
      intro other listed
      rcases List.mem_append.mp listed with before | last
      · exact paired.arguments other before
      · rw [List.mem_singleton.mp last, ← paired.index]
        have byte := state.index.toNat_lt
        apply UInt8.toNat_inj.mp
        have small : UInt32.ofNat state.index.toNat &&& 0xFF = UInt32.ofNat state.index.toNat := by
          apply UInt32.toNat_inj.mp
          rw [UInt32.toNat_and, UInt32.toNat_ofNat', Nat.mod_eq_of_lt (by omega)]
          exact Nat.and_two_pow_sub_one_of_lt_two_pow byte
        rw [small, UInt32.toNat_toUInt8, UInt32.toNat_ofNat', Nat.mod_mod_of_dvd _ (by decide),
          Nat.mod_eq_of_lt byte]
    · intro slot listed present
      obtain ⟨index, before, recent, answered⟩ := paired.slots slot listed present
      refine ⟨index, before, ?_, answered⟩
      change (state.given ++ [state.index]).length ≤ _
      have apart := free slot listed present
      by_contra last
      have whole : state.given.length = slot.msg.request + 256 := by omega
      apply apart
      rw [index, paired.index, whole, indexOf, indexOf, UInt8.ofNat_add]
      exact (UInt8.add_zero _).symm

theorem Paired.put (paired : Paired state first) (other : msg.requestCallback = false) :
    Paired ((state.apmlRead msg).getD state) first := by
  unfold ApmlState.apmlRead
  by_cases room : state.msgq.length < apmlMsgqLen
  · rw [if_pos room]
    refine paired.congr rfl rfl ?_ ?_ rfl rfl
    · change (state.msgq ++ [msg]).length ≤ _
      rw [length_append, length_singleton]
      exact room
    · unfold ApmlState.pending
      change ((state.handler.msg.toList ++ (state.msgq ++ [msg])).filter _).map _ = _
      rw [← append_assoc, filter_append, filter_cons, if_neg (by rw [other]; decide),
        filter_nil, append_nil]
  · rw [if_neg room]
    exact paired

theorem Paired.take (paired : Paired state first) {rest : List ApmlMsg}
    (idle : state.handler = .idle) (queue : state.msgq = msg :: rest) (postStatus : Bool) :
    ∃ first, Paired ({ state with msgq := rest }.take msg postStatus) first := by
  have room : rest.length ≤ apmlMsgqLen := by
    have before := paired.room
    rw [queue, length_cons] at before
    omega
  have taken : ∀ handler : Handler, handler.msg = some msg →
      Paired { state with msgq := rest, handler } first := by
    intro handler here
    refine paired.congr rfl rfl room ?_ rfl rfl
    unfold ApmlState.pending
    rw [here, idle, queue]
    rfl
  have dropped : ∃ first, Paired ({ state with msgq := rest }.done msg false) first :=
    (taken (.access msg) rfl).done rfl rfl rfl rfl false
  unfold ApmlState.take
  split
  · exact dropped
  · split
    · exact ⟨first, taken _ rfl⟩
    · split
      · exact ⟨first, taken _ rfl⟩
      · exact dropped

theorem Paired.proceed (paired : Paired state first) {phase : Phase} {signalled : Bool}
    (here : state.handler = .mailbox msg phase signalled) (answer : Option UInt8)
    (postStatus : Bool) :
    ∃ first, Paired (state.proceed twoByte msg phase signalled answer postStatus) first := by
  have flagged : ∀ flag, Paired { state with isFatalErrorHappened := flag } first := fun _ =>
    paired.congr rfl rfl paired.room rfl rfl rfl
  have same : state.handler.msg = some msg := by
    rw [here]
    rfl
  have kept : ∀ (flag : Bool) (handler : Handler) (other : ApmlMsg), handler.msg = some other →
      other.request = msg.request → other.requestCallback = msg.requestCallback →
      other.ui32Arg = msg.ui32Arg →
      Paired { state with isFatalErrorHappened := flag, handler } first := by
    intro flag handler other there request callback ui32Arg
    refine paired.congr rfl rfl paired.room ?_ rfl rfl
    unfold ApmlState.pending
    rw [there, same]
    dsimp only [Option.toList]
    rw [singleton_append, singleton_append, filter_cons, filter_cons, callback]
    split
    · rw [map_cons, map_cons, request, ui32Arg]
    · rfl
  unfold ApmlState.proceed
  cases accessRmiMailbox twoByte state.isFatalErrorHappened answer postStatus phase with
  | goes next => exact ⟨first, kept _ _ msg rfl rfl rfl rfl⟩
  | reads place byte next => exact ⟨first, kept _ _ (msg.setRdData place byte) rfl rfl rfl rfl⟩
  | returns success =>
    obtain ⟨first, done⟩ := (flagged (decide (phase ≠ Phase.clear) &&
      state.isFatalErrorHappened)).done same rfl rfl rfl success
    exact ⟨first, done.congr rfl rfl done.room rfl rfl rfl⟩
  | readsLast place byte =>
    obtain ⟨first, done⟩ := (flagged (decide (phase ≠ Phase.clear) &&
      state.isFatalErrorHappened)).done same
      (show (msg.setRdData place byte).request = _ from rfl) rfl rfl true
    exact ⟨first, done.congr rfl rfl done.room rfl rfl rfl⟩

theorem accessRmiMailbox_watches {phase : Phase} (watches : phase.watches = true)
    (answer : Option UInt8) (postStatus : Bool) :
    (∃ next, accessRmiMailbox twoByte true answer postStatus phase = .goes next ∧
      next.watches = true) ∨
      accessRmiMailbox twoByte true answer postStatus phase = .returns false := by
  cases phase with
  | wait i =>
    unfold accessRmiMailbox
    cases answer with
    | none => exact .inr rfl
    | some status =>
      dsimp only
      by_cases ready : if twoByte then status &&& 0x01 = 0 else status &&& 0x02 ≠ 0
      · rw [if_pos ready]
        exact .inl ⟨_, rfl, rfl⟩
      rw [if_neg ready]
      by_cases off : postStatus = false
      · rw [if_pos off]
        exact .inr rfl
      rw [if_neg off]
      by_cases more : i + 1 < mailboxCompleteRetryMax
      · rw [if_pos more]
        exact .inl ⟨_, rfl, rfl⟩
      · rw [if_neg more]
        exact .inr rfl
  | check => exact .inr rfl
  | _ => cases watches

theorem succeeded_done (state : ApmlState) (msg : ApmlMsg) (success : Bool) :
    (state.done msg success).succeeded = state.succeeded := by
  unfold ApmlState.done
  split
  · rfl
  · rfl

theorem handler_done (state : ApmlState) (msg : ApmlMsg) (success : Bool) :
    (state.done msg success).handler = .idle := by
  unfold ApmlState.done
  split
  · rfl
  · rfl

theorem Watched.done (safe : ∀ signalled ∈ state.succeeded, signalled = false) (success : Bool) :
    Watched (state.done msg success) := by
  refine ⟨fun other phase here => ?_, ?_⟩
  · rw [handler_done] at here
    cases here
  · rw [succeeded_done]
    exact safe

theorem Watched.returns (safe : ∀ signalled ∈ state.succeeded, signalled = false)
    {success signalled : Bool} (unsignalled : success = true → signalled = false) :
    Watched (state.returns msg success signalled) := by
  refine ⟨fun other phase here => ?_, ?_⟩
  · have idle : (state.returns msg success signalled).handler = .idle := handler_done _ _ _
    rw [idle] at here
    cases here
  · intro found listed
    change found ∈ (if success then state.succeeded ++ [signalled] else state.succeeded) at listed
    split at listed
    next succeeded =>
      rcases List.mem_append.mp listed with before | last
      · exact safe found before
      · rw [List.mem_singleton.mp last]
        exact unsignalled succeeded
    · exact safe found listed

theorem Watched.proceed (watched : Watched state) {phase : Phase} {signalled : Bool}
    (here : state.handler = .mailbox msg phase signalled) (answer : Option UInt8)
    (postStatus : Bool) :
    Watched (state.proceed twoByte msg phase signalled answer postStatus) := by
  unfold ApmlState.proceed
  cases signalled with
  | true =>
    obtain ⟨watches, flag⟩ := watched.seen msg phase here
    have apart : phase ≠ .clear := by
      rintro rfl
      cases watches
    rw [flag, decide_eq_true apart]
    rcases @accessRmiMailbox_watches twoByte phase watches answer postStatus with
      ⟨next, goes, onward⟩ | fails
    · rw [goes]
      refine ⟨fun other place same => ?_, watched.safe⟩
      obtain ⟨rfl, rfl, -⟩ := Handler.mailbox.inj same
      exact ⟨onward, rfl⟩
    · rw [fails]
      exact @Watched.returns { state with isFatalErrorHappened := true } msg watched.safe false true
        nofun
  | false =>
    have safe : ∀ signalled ∈ { state with
        isFatalErrorHappened := decide (phase ≠ Phase.clear) &&
          state.isFatalErrorHappened }.succeeded, signalled = false := watched.safe
    cases accessRmiMailbox twoByte state.isFatalErrorHappened answer postStatus phase with
    | goes next => exact ⟨fun other place same => absurd (Handler.mailbox.inj same).2.2 nofun,
        watched.safe⟩
    | reads place byte next =>
      exact ⟨fun other place same => absurd (Handler.mailbox.inj same).2.2 nofun, watched.safe⟩
    | returns success => exact Watched.returns safe fun _ => rfl
    | readsLast place byte => exact Watched.returns safe fun _ => rfl

theorem Watched.congr (watched : Watched state) {next : ApmlState}
    (handler : next.handler = state.handler)
    (flag : next.isFatalErrorHappened = state.isFatalErrorHappened)
    (succeeded : next.succeeded = state.succeeded) : Watched next := by
  refine ⟨?_, ?_⟩
  · rw [handler, flag]
    exact watched.seen
  · rw [succeeded]
    exact watched.safe

theorem Watched.send (watched : Watched state) (msg : HandlerMsg) :
    Watched (oem1sSendApmlRequest twoByte state msg).2 := by
  unfold oem1sSendApmlRequest
  split
  · exact watched
  · split
    · exact watched
    · split
      · exact watched
      next size _ =>
        unfold ApmlState.apmlRead
        by_cases room : state.msgq.length < apmlMsgqLen
        · rw [if_pos room]
          exact watched.congr rfl rfl rfl
        · rw [if_neg room]
          exact watched

theorem Watched.put (watched : Watched state) (msg : ApmlMsg) :
    Watched ((state.apmlRead msg).getD state) := by
  unfold ApmlState.apmlRead
  split
  · exact watched.congr rfl rfl rfl
  · exact watched

theorem Watched.take (safe : ∀ signalled ∈ state.succeeded, signalled = false)
    (postStatus : Bool) : Watched (state.take msg postStatus) := by
  unfold ApmlState.take
  split
  · exact Watched.done safe false
  · split
    · exact ⟨fun other phase same => absurd (Handler.mailbox.inj same).2.2 nofun, safe⟩
    · split
      · exact ⟨fun other phase same => absurd same nofun, safe⟩
      · exact Watched.done safe false

theorem Watched.fatal (watched : Watched state) (orderly : Orderly twoByte state .fatal) :
    Watched state.fatalErrorHappened := by
  refine ⟨fun msg phase here => ⟨?_, rfl⟩, watched.safe⟩
  unfold ApmlState.fatalErrorHappened at here
  cases handler : state.handler with
  | idle =>
    rw [handler] at here
    cases here
  | access other =>
    rw [handler] at here
    cases here
  | mailbox other place signalled =>
    rw [handler] at here
    obtain ⟨rfl, rfl, signal⟩ := Handler.mailbox.inj here
    cases signalled with
    | true => exact (watched.seen other place handler).1
    | false =>
      obtain ⟨cleared, reading⟩ := orderly other place false handler
      cases place with
      | clear => exact absurd rfl cleared
      | read i => exact absurd rfl (reading i)
      | wait i => rfl
      | check => rfl
      | _ => cases signal

theorem Paired.fatal (paired : Paired state first) : Paired state.fatalErrorHappened first := by
  refine paired.congr rfl rfl paired.room ?_ rfl rfl
  unfold ApmlState.pending ApmlState.fatalErrorHappened
  cases state.handler with
  | idle => rfl
  | mailbox msg phase signalled => rfl
  | access msg => rfl

/-- The requests are paired with their responses, and fatal errors are watched. -/
def Sound (state : ApmlState) : Prop := (∃ first, Paired state first) ∧ Watched state

/-- An orderly event keeps requests and responses paired. -/
theorem Sound.step (sound : Sound state) {event : ApmlEvent} {next : ApmlState}
    (orderly : Orderly twoByte state event) (moved : step twoByte state event = some next) :
    Sound next := by
  obtain ⟨⟨first, paired⟩, watched⟩ := sound
  unfold Apml.step at moved
  cases event with
  | send msg =>
    rw [← Option.some.inj moved]
    exact ⟨⟨first, paired.send orderly⟩, watched.send msg⟩
  | put msgType wrData =>
    rw [← Option.some.inj moved]
    exact ⟨⟨first, paired.put rfl⟩, watched.put _⟩
  | take postStatus =>
    dsimp only at moved
    split at moved
    next msg rest idle queue =>
      rw [← Option.some.inj moved]
      have safe : ∀ signalled ∈ { state with msgq := rest }.succeeded, signalled = false :=
        watched.safe
      exact ⟨paired.take idle queue postStatus, Watched.take safe postStatus⟩
    · cases moved
  | proceed answer postStatus =>
    dsimp only at moved
    split at moved
    next msg phase signalled here =>
      rw [← Option.some.inj moved]
      exact ⟨paired.proceed here answer postStatus, watched.proceed here answer postStatus⟩
    · cases moved
  | access rdData =>
    dsimp only at moved
    split at moved
    next msg here =>
      rw [← Option.some.inj moved]
      have same : state.handler.msg = some msg := by
        rw [here]
        rfl
      have request : { msg with rdData := rdData.getD msg.rdData }.request = msg.request := rfl
      exact ⟨paired.done same request rfl rfl rdData.isSome,
        Watched.done watched.safe rdData.isSome⟩
    · cases moved
  | fatal =>
    rw [← Option.some.inj moved]
    exact ⟨⟨first, paired.fatal⟩, watched.fatal orderly⟩

theorem sound_start : Sound .start := by
  refine ⟨⟨0, rfl, rfl, Nat.zero_le _, rfl, rfl, nofun, ?_⟩, ⟨nofun, nofun⟩⟩
  intro slot listed present
  rw [(List.mem_replicate.mp listed).2] at present
  exact absurd rfl present

end Steps

/-! ## The runs -/

/-- In every run whose steps do not go wrong, a response is that of the last request with its index,
and no mailbox access succeeds with a fatal error, in each state that is reached. -/
theorem apmlRight_run {twoByte : Bool} {events : List ApmlEvent} {final : ApmlState}
    (orderly : Meets (step twoByte) (Orderly twoByte) .start events)
    (ran : run (step twoByte) .start events = some final) : ApmlRight final := by
  obtain ⟨⟨first, paired⟩, watched⟩ : Sound final :=
    invariant (fun sound orderly moved => sound.step orderly moved) sound_start orderly ran
  exact ⟨fun msg one success => paired.pairs one success, watched.safe⟩

def mailboxRequest (command : UInt8) : HandlerMsg :=
  HandlerMsg.copied ⟨fun _ => 0, 6, .invalidCmd⟩ [apmlMsgTypeMailbox, command, 0, 0, 0, 0]

def toNotification : List ApmlEvent :=
  [.send (mailboxRequest 0x40), .take true, .proceed (some 0) true, .proceed (some 0x80) true] ++
    List.replicate 6 (.proceed (some 0) true)

def fromNotification : List ApmlEvent :=
  [.proceed none true, .proceed (some 0x02) true, .proceed none true] ++
    List.replicate 6 (.proceed (some 0x11) true) ++ [.proceed (some 0) true]

def firstResponse : HandlerMsg := ⟨fun _ => 0, 1, .invalidCmd⟩

/-- A request is answered, and its response is found. -/
theorem apmlRight_answered :
    ∃ final, run (step false) .start (toNotification ++ fromNotification) = some final ∧
      (oem1sGetApmlResponse final firstResponse).bytes = List.replicate 6 0x11 ∧
      ApmlRight final := by
  have orderly : Meets (step false) (Orderly false) .start (toNotification ++ fromNotification) := by
    refine .cons (fun wrLen _ _ _ slot listed present => ?_) rfl ?_
    · rw [(List.mem_replicate.mp listed).2] at present
      exact absurd rfl present
    · iterate 19 refine .cons trivial rfl ?_
      exact trivial
  have found : (run (step false) .start (toNotification ++ fromNotification)).map
      (fun final => (oem1sGetApmlResponse final firstResponse).bytes) =
        some (List.replicate 6 0x11) := by rfl
  obtain ⟨final, ran, bytes⟩ := Option.map_eq_some_iff.mp found
  exact ⟨final, ran, bytes, apmlRight_run orderly ran⟩

/-- A fatal error right after the notification is forgotten. -/
theorem forgotten_not_right :
    ∃ final, run (step false) .start (toNotification ++ .fatal :: fromNotification) = some final ∧
      ¬ ApmlRight final := by
  have forgotten : (run (step false) .start (toNotification ++ .fatal :: fromNotification)).map
      ApmlState.succeeded = some [true] := by rfl
  obtain ⟨final, ran, signalled⟩ := Option.map_eq_some_iff.mp forgotten
  refine ⟨final, ran, fun right => ?_⟩
  have wrong := right.safe true (by rw [signalled]; exact mem_singleton_self _)
  cases wrong

end OpenBic.Apml
