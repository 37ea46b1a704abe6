import OpenBic.Library.Machine
import Mathlib.Logic.Function.Basic

/-!
# Requests that wait for a response

What `ncsi.c` and `cci.c` share: a send function that keys a request, puts a `wait_msg` on
`wait_recv_resp_list` and hands the message to the transport; a response handler that looks the
request up by its key; a timeout monitor; and a read function that tries several times with one
queue and one argument block. They differ in how a request is keyed and in the numbers of
`Config`.

A step is what a thread does between two points where another may come in; a section under the
mutex is one step. The error path of the send function takes no lock when it unlinks its request.
A call of the send function and its `wait_msg` are known by one number, given out in order and
never again; the address of a `wait_msg` may be used again once it is freed. Time is left out: any
listed request may be the one whose time has come.
-/

namespace OpenBic.Mctp.Pending

open Function

/-- What the two protocols set differently. -/
structure Config where
  header : Nat
  minLen : Nat
  maxRetry : Nat
  silentEmpty : Bool

/-- Where a call of the send function is about to go on. -/
inductive CallPc where
  | absent
  | begun
  | keyed
  | appended
  | sendFailed
  | releasing
  | ended (sent : Bool)
deriving DecidableEq

/-- A response as it arrives. -/
structure Reply (κ : Type) where
  key : κ
  len : Nat
  ok : Bool
  answer : Nat
deriving DecidableEq

/-- Where a request is. -/
inductive Place (κ : Type) where
  | unlisted
  | listed
  | matched (reply : Reply κ)
  | gone
  | lost
deriving DecidableEq

def Place.pending {κ : Type} : Place κ → Bool
  | .listed | .matched _ => true
  | _ => false

def Place.allocated {κ : Type} : Place κ → Bool
  | .listed | .matched _ | .lost => true
  | _ => false

/-- A call of the send function, and the `wait_msg` it makes. -/
structure Call (ρ κ : Type) where
  reader : Option Nat
  request : ρ
  key : κ
  /-- The address of its `wait_msg`. -/
  node : Nat
  pc : CallPc
  place : Place κ
  completions : Nat
  /-- How often its `wait_msg` was freed. -/
  frees : Nat

/-- An event in the queue of a reader. -/
structure ReadEvent where
  call : Nat
  success : Bool

/-- Where a call of the read function is about to go on. -/
inductive ReadPc where
  | absent
  | attempting
  | sending (call : Nat)
  /-- In `k_msgq_get`, after the call succeeded. -/
  | waiting (call : Nat)
  | returned (length : Nat)
deriving DecidableEq

def ReadPc.call : ReadPc → Option Nat
  | .sending call | .waiting call => some call
  | _ => none

/-- A call of the read function. -/
structure Reader (ρ : Type) where
  request : ρ
  rbufLen : Nat
  returnLen : Nat
  /-- The call that the response last copied to `rbuf` answers. -/
  payload : Option Nat
  /-- `retry_count`, counted when an attempt begins. -/
  attempts : Nat
  queue : Option ReadEvent
  pc : ReadPc

/-- An event that a reader took from its queue. -/
structure Taken where
  waited : Nat
  event : ReadEvent
  payload : Option Nat

/-- The list, the calls and the readers, and what happened. -/
structure State (ρ κ : Type) where
  stuck : Bool
  raced : Bool
  listed : List Nat
  calls : Nat → Call ρ κ
  nextCall : Nat
  readers : Nat → Reader ρ
  nextReader : Nat
  lengths : List (Nat × Nat)
  taken : List Taken

variable {ρ κ : Type}

def State.start [Inhabited ρ] [Inhabited κ] : State ρ κ :=
  { stuck := false
    raced := false
    listed := []
    calls := fun _ => ⟨none, default, default, 0, .absent, .unlisted, 0, 0⟩
    nextCall := 0
    readers := fun _ => ⟨default, 0, 0, none, 0, none, .absent⟩
    nextReader := 0
    lengths := []
    taken := [] }

/-- An attempt of a reader is over without a response: the next one, or the end. -/
def Reader.retry (config : Config) (reader : Reader ρ) : Reader ρ :=
  if reader.attempts < config.maxRetry then { reader with pc := .attempting }
  else { reader with pc := .returned 0 }

/-- A reader calls the send function, which fails at once or goes on. -/
def Reader.attempt (config : Config) (call : Nat) (found : Bool) (reader : Reader ρ) : Reader ρ :=
  let counted := { reader with attempts := reader.attempts + 1 }
  if found then { counted with pc := .sending call } else counted.retry config

/-- `k_msgq_put` without waiting; a full queue drops the event. -/
def Reader.put (event : ReadEvent) (reader : Reader ρ) : Reader ρ :=
  match reader.queue with
  | none => { reader with queue := some event }
  | some _ => reader

/-- The length that a response handler is given, a `uint16_t`. -/
def Config.payloadLen (config : Config) (len : Nat) : Nat := (len + 2 ^ 16 - config.header) % 2 ^ 16

def Reader.handle (config : Config) (call : Nat) (reply : Reply κ) (reader : Reader ρ) :
    Reader ρ :=
  let rlen := config.payloadLen reply.len
  if config.silentEmpty ∧ rlen = 0 then reader
  else
    { reader with returnLen := min rlen reader.rbufLen, payload := some reply.answer }.put
      ⟨call, reply.ok⟩

/-- `k_msgq_get` returns to a reader: it returns what it has, or tries again. -/
def Reader.got (config : Config) (event : ReadEvent) (reader : Reader ρ) : Reader ρ :=
  let emptied := { reader with queue := none }
  if event.success then { emptied with pc := .returned emptied.returnLen } else emptied.retry config

def tell (owner : Option Nat) (change : Reader ρ → Reader ρ) (readers : Nat → Reader ρ) :
    Nat → Reader ρ :=
  match owner with
  | none => readers
  | some reader => update readers reader (change (readers reader))

/-- A call goes on, and the reader that makes it, if one does, with it. -/
def State.advance (s : State ρ κ) (call : Nat) (value : Call ρ κ)
    (change : Reader ρ → Reader ρ) : State ρ κ :=
  { s with
    calls := update s.calls call value
    readers := tell value.reader change s.readers }

/-- The send function is called; it may fail before the request has a key. -/
def State.begin [Inhabited κ] (config : Config) (s : State ρ κ) (reader : Option Nat) (request : ρ)
    (found : Bool) : State ρ κ :=
  let value : Call ρ κ :=
    if found then ⟨reader, request, default, 0, .begun, .unlisted, 0, 0⟩
    else ⟨reader, request, default, 0, .ended false, .unlisted, 1, 0⟩
  { s.advance s.nextCall value (Reader.attempt config s.nextCall found) with
    nextCall := s.nextCall + 1 }

/-- The error path takes the request at its address off the list, if there is one, and frees it. -/
def State.remove (s : State ρ κ) (call : Nat) (during : Bool) : State ρ κ :=
  match s.listed.find? fun other => (s.calls other).node == (s.calls call).node with
  | some found =>
    let unlinked := s.advance found
      { s.calls found with place := .gone, frees := (s.calls found).frees + 1 } id
    { unlinked.advance call { unlinked.calls call with pc := .releasing } id with
      raced := s.raced || during
      listed := s.listed.erase found }
  | none =>
    s.advance call { s.calls call with pc := .releasing, frees := (s.calls call).frees + 1 } id

def State.answers [DecidableEq κ] (s : State ρ κ) (key : κ) (call : Nat) : Bool :=
  (s.calls call).key = key

/-- What can happen next. -/
inductive Event (ρ κ : Type) where
  | read (request : ρ) (rbufLen : Nat) (ready : Bool)
  | send (request : ρ) (found : Bool)
  | attempt (reader : Nat) (found : Bool)
  | key (call : Nat) (value : κ)
  | append (call : Nat) (node : Option Nat)
  /-- `mctp_send_msg` returns. -/
  | sent (call : Nat) (ok : Bool)
  /-- The error path unlinks its request, `during` the work of another thread on the list: of one that
  has the mutex, or of another error path. -/
  | remove (call : Nat) (during : Bool)
  | release (call : Nat)
  | response (reply : Reply κ) (given : Bool)
  | callback (call : Nat)
  | expire (call : Nat) (given : Bool)
  /-- `k_msgq_get` returns to a reader. -/
  | get (reader : Nat)

variable [DecidableEq κ]

/-- The response handler, up to the handler of the request it finds. -/
def State.response (s : State ρ κ) (reply : Reply κ) (given : Bool) : State ρ κ :=
  match s.listed.find? (s.answers reply.key) with
  | none => s
  | some call =>
    { s.advance call
        { s.calls call with place := if given then .matched reply else .lost } id with
      listed := s.listed.erase call }

def State.expire (s : State ρ κ) (call : Nat) (given : Bool) : State ρ κ :=
  let value := s.calls call
  if given then
    { s.advance call
        { value with
          place := .gone
          completions := value.completions + 1
          frees := value.frees + 1 } (Reader.put ⟨call, false⟩) with
      listed := s.listed.erase call }
  else
    { s.advance call { value with place := .lost } id with
      listed := s.listed.erase call
      stuck := true }

/-- The handler of a matched request runs, and the request is freed. -/
def State.callback (config : Config) (s : State ρ κ) (call : Nat) (reply : Reply κ) : State ρ κ :=
  let value := s.calls call
  { s.advance call
      { value with
        place := .gone
        completions := value.completions + 1
        frees := value.frees + 1 } (Reader.handle config call reply) with
    lengths := s.lengths ++ [(reply.len, config.payloadLen reply.len)] }

def step [Inhabited κ] (config : Config) (s : State ρ κ) : Event ρ κ → Option (State ρ κ)
  | .read request rbufLen ready =>
    let pc := if ready ∧ 0 < config.maxRetry then .attempting else .returned 0
    some { s with
      readers := update s.readers s.nextReader ⟨request, rbufLen, 0, none, 0, none, pc⟩
      nextReader := s.nextReader + 1 }
  | .send request found => some (s.begin config none request found)
  | .attempt reader found =>
    if (s.readers reader).pc = .attempting then
      some (s.begin config (some reader) (s.readers reader).request found)
    else none
  | .key call value =>
    if (s.calls call).pc = .begun then
      some (s.advance call { s.calls call with key := value, pc := .keyed } id)
    else none
  | .append call none =>
    if (s.calls call).pc = .keyed then
      some (s.advance call { s.calls call with pc := .releasing } id)
    else none
  | .append call (some node) =>
    if (s.calls call).pc = .keyed ∧ s.stuck = false ∧
        ∀ other < s.nextCall, (s.calls other).place.allocated = true →
          (s.calls other).node ≠ node then
      some { s.advance call { s.calls call with node, pc := .appended, place := .listed } id with
        listed := s.listed ++ [call] }
    else none
  | .sent call ok =>
    if (s.calls call).pc = .appended then
      if ok then
        some (s.advance call { s.calls call with pc := .ended true }
          fun reader => { reader with pc := .waiting call })
      else some (s.advance call { s.calls call with pc := .sendFailed } id)
    else none
  | .remove call during =>
    if (s.calls call).pc = .sendFailed then some (s.remove call during) else none
  | .release call =>
    if (s.calls call).pc = .releasing then
      some (s.advance call
        { s.calls call with pc := .ended false, completions := (s.calls call).completions + 1 }
        (Reader.retry config))
    else none
  | .response reply given =>
    if s.stuck ∨ reply.len < config.minLen then some s else some (s.response reply given)
  | .callback call =>
    match (s.calls call).place with
    | .matched reply => some (s.callback config call reply)
    | _ => none
  -- the monitor may lock a mutex again that it holds itself
  | .expire call given => if call ∈ s.listed then some (s.expire call given) else none
  | .get reader =>
    match (s.readers reader).pc, (s.readers reader).queue with
    | .waiting call, some event =>
      some { s with
        readers := update s.readers reader ((s.readers reader).got config event)
        taken := s.taken ++ [⟨call, event, (s.readers reader).payload⟩] }
    | _, _ => none

end OpenBic.Mctp.Pending
