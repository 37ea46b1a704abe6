import OpenBic.Library.Machine
import Mathlib.Logic.Function.Basic

/-!
# PLDM requests: instance ids, the pending list and `mctp_pldm_read`

The shared state of `pldm.c` and the threads that work on it: calls of `mctp_pldm_send_msg`,
the receive task, the timeout monitor and calls of `mctp_pldm_read`. A step is what a thread
does between two points where another may come in: the two halves of `register_instid`,
which takes no lock, and each section under the mutex. A `WRITE_BIT` of a table is at its store;
what the store of an older word undoes is a step of its own. A call and its `wait_msg` are known
by one number, given out in order and never again; the address of a `wait_msg` may be used
again once it is freed. Time is left out: any pending request may be the one whose time has
come. A message without the request bit touches none of this.
-/

namespace OpenBic.Pldm

open Function

/-- An instance id, five bits. -/
abbrev InstId := Fin 32

instance instId_neZero : NeZero 32 := ⟨by decide⟩

/-- The key of an instance id: the MCTP instance and the id. -/
abbrev IdKey := Nat × InstId

/-- How often `mctp_pldm_read` tries; a platform may choose the numbers. -/
structure Retries where
  msg : Nat
  fwUpdate : Nat
  bridge : Nat

def Retries.default : Retries := { msg := 3, fwUpdate := 3, bridge := 3 }

def pldmTypeFwUpdate : Nat := 0x05

def pldmOemIpmiBridge : Nat := 0x01

/-- `max_retry`, by type and command. -/
def Retries.maxRetry (retries : Retries) (pldmType cmd : Nat) : Nat :=
  if pldmType = pldmTypeFwUpdate then retries.fwUpdate
  else if cmd = pldmOemIpmiBridge then retries.bridge
  else retries.msg

/-- `sizeof(pldm_hdr)`. -/
def pldmHdrSize : Nat := 4

/-- Where a call of `mctp_pldm_send_msg` is about to go on. -/
inductive CallPc where
  | absent
  /-- `register_instid` has found a free id and not yet marked it. -/
  | scanned
  | claimed
  | appended
  /-- `mctp_send_msg` has failed; the request is looked up in the list next. -/
  | sendFailed
  /-- The error path: the id is unregistered next. The call may have removed its request from
  the list, or never listed it; or the request was already gone. -/
  | releasing (own : Bool)
  | ended (sent : Bool)
deriving DecidableEq

/-- A call of `mctp_pldm_send_msg`, and the `wait_msg` it makes. -/
structure Call where
  /-- The call of `mctp_pldm_read` that makes this call, if one does. -/
  reader : Option Nat
  inst : Nat
  pldmType : Nat
  cmd : Nat
  instId : InstId
  /-- The address of its `wait_msg`. -/
  node : Nat
  pc : CallPc

def Call.key (call : Call) : IdKey := (call.inst, call.instId)

/-- An event in the queue of a reader, with the call it is about. -/
structure ReadEvent where
  call : Nat
  /-- `PLDM_READ_EVENT_SUCCESS`, not `PLDM_READ_EVENT_TIMEOUT`. -/
  success : Bool

/-- Where a call of `mctp_pldm_read` is about to go on. -/
inductive ReadPc where
  | absent
  | attempting
  /-- In `mctp_pldm_send_msg`. -/
  | sending (call : Nat)
  /-- In `k_msgq_get`, after the call succeeded. -/
  | waiting (call : Nat)
  | returned (length : Nat)
deriving DecidableEq

/-- A call of `mctp_pldm_read`. -/
structure Reader where
  inst : Nat
  pldmType : Nat
  cmd : Nat
  rbufLen : Nat
  returnLen : Nat
  maxRetry : Nat
  /-- `retry_count`, counted when an attempt begins. -/
  attempts : Nat
  queue : Option ReadEvent
  pc : ReadPc

/-- The instance ids, the pending list and the calls. -/
structure Ids where
  /-- `pldm_inst_table` of every MCTP instance. -/
  table : IdKey → Bool
  curInstNum : InstId
  stuck : Bool
  listed : List Nat
  /-- The calls whose `wait_msg` is allocated. -/
  heap : List Nat
  /-- The calls of `mctp_pldm_send_msg`. -/
  calls : Nat → Call
  nextCall : Nat
  allocated : List Nat
  released : List Nat

/-- What became of the requests that left the list. -/
structure Signals where
  /-- Requests matched by a response whose handler has not run yet, with its `rlen`. -/
  inFlight : Nat → Option Nat
  completed : List Nat
  signalled : List Nat
  consumed : List (Nat × Nat)

/-- The shared state, the calls and the readers, and what happened. -/
structure Requests extends Ids, Signals where
  /-- The calls of `mctp_pldm_read`. -/
  readers : Nat → Reader
  nextReader : Nat

def Requests.start : Requests :=
  { table := fun _ => false
    curInstNum := 0
    stuck := false
    listed := []
    heap := []
    calls := fun _ => ⟨none, 0, 0, 0, 0, 0, .absent⟩
    nextCall := 0
    allocated := []
    released := []
    inFlight := fun _ => none
    readers := fun _ => ⟨0, 0, 0, 0, 0, 0, 0, none, .absent⟩
    nextReader := 0
    completed := []
    signalled := []
    consumed := [] }

/-- The loop of `register_instid`: the first free id from `cur_inst_num` on, in so many tries. -/
def findFree (table : InstId → Bool) : Nat → InstId → Option InstId
  | 0, _ => none
  | tries + 1, cur => if table cur then findFree table tries (cur + 1) else some cur

def Ids.goto (s : Ids) (call : Nat) (pc : CallPc) : Ids :=
  { s with calls := update s.calls call { s.calls call with pc } }

theorem Ids.goto_calls_self (s : Ids) (call : Nat) (pc : CallPc) :
    (s.goto call pc).calls call = { s.calls call with pc } :=
  update_self ..

theorem Ids.goto_calls_of_ne (s : Ids) {call other : Nat} (pc : CallPc) (different : other ≠ call) :
    (s.goto call pc).calls other = s.calls other :=
  update_of_ne different ..

/-- The first half of `register_instid`, for a new call; it fails when no id is free. -/
def Ids.scan (s : Ids) (reader : Option Nat) (inst pldmType cmd : Nat) : Ids × Bool :=
  let call := s.nextCall
  let s := { s with
    nextCall := call + 1
    calls := update s.calls call ⟨reader, inst, pldmType, cmd, 0, 0, .absent⟩ }
  match findFree (fun id => s.table (inst, id)) 32 s.curInstNum with
  | none => (s.goto call (.ended false), false)
  | some id => ({ s with curInstNum := id }.goto call .scanned, true)

theorem Ids.scan_eq (s : Ids) (reader : Option Nat) (inst pldmType cmd : Nat) :
    ∃ found cur, s.scan reader inst pldmType cmd =
      ({ s with
        nextCall := s.nextCall + 1
        curInstNum := cur
        calls := update s.calls s.nextCall
          ⟨reader, inst, pldmType, cmd, 0, 0, if found then .scanned else .ended false⟩ },
        found) := by
  unfold Ids.scan
  dsimp only
  split
  · exact ⟨false, s.curInstNum, by simp [Ids.goto]⟩
  · rename_i id _
    exact ⟨true, id, by simp [Ids.goto]⟩

/-- The second half of `register_instid`: mark `cur_inst_num` and step it. -/
def Ids.claim (s : Ids) (call : Nat) : Ids :=
  { s with
    table := update s.table ((s.calls call).inst, s.curInstNum) true
    curInstNum := s.curInstNum + 1
    calls := update s.calls call
      { s.calls call with instId := s.curInstNum, pc := .claimed }
    allocated := s.allocated ++ [call] }

/-- `unregister_instid`, on behalf of a call; it fails when the id is not registered. -/
def Ids.unregister (s : Ids) (call : Nat) : Ids × Bool :=
  if s.table (s.calls call).key then
    ({ s with
        table := update s.table (s.calls call).key false
        released := s.released ++ [call] }, true)
  else (s, false)

/-- A call lists its request, at the address `malloc` gave it, if it gave one. -/
def Ids.append (s : Ids) (call : Nat) : Option Nat → Ids
  | some node =>
    { s with
      calls := update s.calls call { s.calls call with node, pc := .appended }
      listed := s.listed ++ [call]
      heap := s.heap ++ [call] }
  | none => s.goto call (.releasing true)

def Ids.free (s : Ids) (call : Nat) : Ids :=
  { s with heap := s.heap.erase call }

/-- The error path takes the request at its address off the list, if there is one. -/
def Ids.remove (s : Ids) (call : Nat) : Ids :=
  match s.listed.find? fun other => (s.calls other).node == (s.calls call).node with
  | some found =>
    { s.goto call (.releasing true) with listed := s.listed.erase found }.free found
  | none => s.goto call (.releasing false)

/-- A request is taken off the list and its id unregistered, by a response or a timeout. -/
def Ids.unlink (s : Ids) (call : Nat) : Ids × Bool :=
  { s with listed := s.listed.erase call }.unregister call

def Ids.answers (s : Ids) (inst : Nat) (instId : InstId) (pldmType cmd call : Nat) : Bool :=
  (s.calls call).instId == instId && (s.calls call).pldmType == pldmType &&
    (s.calls call).cmd == cmd && (s.calls call).inst == inst

def Requests.setReader (s : Requests) (reader : Nat) (value : Reader) : Requests :=
  { s with readers := update s.readers reader value }

@[simp]
theorem Requests.setReader_toIds (s : Requests) (reader : Nat) (value : Reader) :
    (s.setReader reader value).toIds = s.toIds := rfl

/-- An attempt of a reader is over without a response: the next one, or the end. -/
def Reader.retry (reader : Reader) : Reader :=
  if reader.attempts < reader.maxRetry then { reader with pc := .attempting }
  else { reader with pc := .returned 0 }

/-- The reader of a call, if it has one, learns that the call has returned. -/
def Requests.tellReader (s : Requests) (call : Nat) (sent : Bool) : Requests :=
  match (s.calls call).reader with
  | none => s
  | some reader =>
    if sent then s.setReader reader { s.readers reader with pc := .waiting call }
    else s.setReader reader (s.readers reader).retry

@[simp]
theorem Requests.tellReader_toIds (s : Requests) (call : Nat) (sent : Bool) :
    (s.tellReader call sent).toIds = s.toIds := by
  unfold Requests.tellReader
  split
  · rfl
  · split <;> rfl

@[simp]
theorem Requests.tellReader_toSignals (s : Requests) (call : Nat) (sent : Bool) :
    (s.tellReader call sent).toSignals = s.toSignals := by
  unfold Requests.tellReader
  split
  · rfl
  · split <;> rfl

def Requests.begin (s : Requests) (reader : Option Nat) (inst pldmType cmd : Nat) : Requests :=
  let scanned := s.scan reader inst pldmType cmd
  let next := { s with toIds := scanned.1 }
  if scanned.2 then next else next.tellReader s.nextCall false

@[simp]
theorem Requests.begin_toIds (s : Requests) (reader : Option Nat) (inst pldmType cmd : Nat) :
    (s.begin reader inst pldmType cmd).toIds = (s.scan reader inst pldmType cmd).1 := by
  unfold Requests.begin
  dsimp only
  split
  · rfl
  · rw [Requests.tellReader_toIds]

@[simp]
theorem Requests.begin_toSignals (s : Requests) (reader : Option Nat) (inst pldmType cmd : Nat) :
    (s.begin reader inst pldmType cmd).toSignals = s.toSignals := by
  unfold Requests.begin
  dsimp only
  split
  · rfl
  · rw [Requests.tellReader_toSignals]

def Requests.return (s : Requests) (call : Nat) (sent : Bool) : Requests :=
  { s with toIds := s.goto call (.ended sent) }.tellReader call sent

@[simp]
theorem Requests.return_toIds (s : Requests) (call : Nat) (sent : Bool) :
    (s.return call sent).toIds = s.goto call (.ended sent) := by
  rw [Requests.return, Requests.tellReader_toIds]

@[simp]
theorem Requests.return_toSignals (s : Requests) (call : Nat) (sent : Bool) :
    (s.return call sent).toSignals = s.toSignals := by
  rw [Requests.return, Requests.tellReader_toSignals]

/-- `k_msgq_put` into the queue of a reader, without waiting; a full queue drops the event. -/
def Requests.put (s : Requests) (reader : Nat) (event : ReadEvent) : Requests :=
  match (s.readers reader).queue with
  | none =>
    { s.setReader reader { s.readers reader with queue := some event } with
      signalled := s.signalled ++ [event.call] }
  | some _ => s

@[simp]
theorem Requests.put_toIds (s : Requests) (reader : Nat) (event : ReadEvent) :
    (s.put reader event).toIds = s.toIds := by
  unfold Requests.put
  split <;> rfl

/-- The response handler of a call runs, `pldm_read_resp_handler` for a reader. -/
def Requests.handle (s : Requests) (call rlen : Nat) : Requests :=
  match (s.calls call).reader with
  | none => { s with signalled := s.signalled ++ [call] }
  | some reader =>
    if rlen = 0 then s
    else
      (s.setReader reader
        { s.readers reader with returnLen := min rlen (s.readers reader).rbufLen }).put reader
        ⟨call, true⟩

@[simp]
theorem Requests.handle_toIds (s : Requests) (call rlen : Nat) :
    (s.handle call rlen).toIds = s.toIds := by
  unfold Requests.handle
  split
  · rfl
  · split
    · rfl
    · rw [Requests.put_toIds, Requests.setReader_toIds]

/-- The timeout handler of a call runs, `pldm_read_timeout_handler` for a reader. -/
def Requests.timeOut (s : Requests) (call : Nat) : Requests :=
  match (s.calls call).reader with
  | none => { s with signalled := s.signalled ++ [call] }
  | some reader => s.put reader ⟨call, false⟩

/-- What can happen next. -/
inductive ReqEvent where
  /-- `mctp_pldm_send_msg` is called with a request, not by `mctp_pldm_read`. -/
  | send (inst pldmType cmd : Nat)
  /-- `mctp_pldm_read` is called, and gets its queue and arguments allocated or not. -/
  | read (inst pldmType cmd rbufLen : Nat) (mallocOk : Bool)
  | attempt (reader : Nat)
  /-- `register_instid` marks the id it found. -/
  | claim (call : Nat)
  | append (call : Nat) (node : Option Nat)
  /-- `mctp_send_msg` returns. -/
  | sent (call : Nat) (ok : Bool)
  | remove (call : Nat)
  | release (call : Nat)
  /-- `pldm_resp_msg_process` looks for the request a response answers. -/
  | response (inst : Nat) (instId : InstId) (pldmType cmd len : Nat)
  | callback (call : Nat)
  /-- `pldm_msg_timeout_check` comes to a request whose time has passed. -/
  | expire (call : Nat)
  /-- `k_msgq_get` returns to a reader. -/
  | get (reader : Nat)
  /-- Two calls of `register_instid` and `unregister_instid` overlap: the `WRITE_BIT` of one has
  loaded the word before the other stored it, and its store undoes what that did to an id. -/
  | undo (inst : Nat) (instId : InstId)

/-- `mctp_pldm_read` begins: it may return at once, or comes to its loop. -/
def Requests.beginRead (s : Requests) (retries : Retries) (inst pldmType cmd rbufLen : Nat)
    (mallocOk : Bool) : Requests :=
  let maxRetry := retries.maxRetry pldmType cmd
  let pc := if rbufLen = 0 ∨ mallocOk = false ∨ maxRetry = 0 then .returned 0 else .attempting
  { s.setReader s.nextReader ⟨inst, pldmType, cmd, rbufLen, 0, maxRetry, 0, none, pc⟩ with
    nextReader := s.nextReader + 1 }

/-- A reader's attempt: it calls `mctp_pldm_send_msg`. -/
def Requests.attempt (s : Requests) (reader : Nat) : Requests :=
  let value := s.readers reader
  (s.setReader reader
      { value with attempts := value.attempts + 1, pc := .sending s.nextCall }).begin
    (some reader) value.inst value.pldmType value.cmd

/-- `pldm_resp_msg_process`, up to the handler. -/
def Requests.response (s : Requests) (inst : Nat) (instId : InstId) (pldmType cmd len : Nat) :
    Requests :=
  match s.listed.find? (s.answers inst instId pldmType cmd) with
  | none => s
  | some call =>
    let unlinked := s.unlink call
    let next := { s with toIds := unlinked.1, completed := s.completed ++ [call] }
    if unlinked.2 then
      { next with
        inFlight := update s.inFlight call (some ((len + 2 ^ 16 - pldmHdrSize) % 2 ^ 16)) }
    else next

/-- `pldm_msg_timeout_check` at a request whose time has passed. -/
def Requests.expire (s : Requests) (call : Nat) : Requests :=
  let unlinked := s.unlink call
  let next := { s with toIds := unlinked.1, completed := s.completed ++ [call] }
  if unlinked.2 then { next.timeOut call with toIds := unlinked.1.free call }
  else { next with stuck := true }

/-- `k_msgq_get` returns the event in the queue to a reader that waits for a call. -/
def Requests.get (s : Requests) (reader call : Nat) (event : ReadEvent) : Requests :=
  let value := { s.readers reader with queue := none }
  let s := { s with consumed := s.consumed ++ [(call, event.call)] }
  if event.success then s.setReader reader { value with pc := .returned value.returnLen }
  else s.setReader reader value.retry

@[simp]
theorem Requests.get_toIds (s : Requests) (reader call : Nat) (event : ReadEvent) :
    (s.get reader call event).toIds = s.toIds := by
  unfold Requests.get
  split <;> rfl

def reqStep (retries : Retries) (s : Requests) : ReqEvent → Option Requests
  | .send inst pldmType cmd => some (s.begin none inst pldmType cmd)
  | .read inst pldmType cmd rbufLen mallocOk =>
    some (s.beginRead retries inst pldmType cmd rbufLen mallocOk)
  | .attempt reader =>
    if (s.readers reader).pc = .attempting then some (s.attempt reader) else none
  | .claim call =>
    if (s.calls call).pc = .scanned then some { s with toIds := s.claim call } else none
  | .append call node =>
    if (s.calls call).pc = .claimed ∧ s.stuck = false ∧
        ∀ other ∈ s.heap, some (s.calls other).node ≠ node then
      some { s with toIds := s.append call node }
    else none
  | .sent call ok =>
    if (s.calls call).pc = .appended then
      if ok then some (s.return call true) else some { s with toIds := s.goto call .sendFailed }
    else none
  | .remove call =>
    if (s.calls call).pc = .sendFailed ∧ s.stuck = false then
      some { s with toIds := s.remove call }
    else none
  | .release call =>
    match (s.calls call).pc with
    | .releasing _ => some ({ s with toIds := (s.unregister call).1 }.return call false)
    | _ => none
  | .response inst instId pldmType cmd len =>
    if s.stuck ∨ len = 0 then some s else some (s.response inst instId pldmType cmd len)
  | .callback call =>
    match s.inFlight call with
    | some rlen =>
      some ({ s with
        toIds := s.free call
        inFlight := update s.inFlight call none }.handle call rlen)
    | none => none
  -- the monitor may lock a mutex again that it holds itself
  | .expire call => if call ∈ s.listed then some (s.expire call) else none
  | .get reader =>
    match (s.readers reader).pc, (s.readers reader).queue with
    | .waiting call, some event => some (s.get reader call event)
    | _, _ => none
  | .undo inst instId =>
    some { s with
      table := update s.table (inst, instId) !s.table (inst, instId) }

end OpenBic.Pldm
