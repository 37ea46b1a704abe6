import OpenBic.Obmf.Message
import OpenBic.Library.Machine
import Mathlib.Logic.Function.Basic

/-!
# Reassembly of OBMF messages

`obmf_rx_task` on one packet: the reassembly slot of each channel, the tracker of messages on
channels that do not exist, and the responses that the task builds itself. Beside them is what
a message is: the packets of one channel from a first one on, as long as they follow each other
in time and are of the same kind, up to the packet that brings the rest or is short.
-/

namespace OpenBic.Obmf

def fragTimeoutMs : Nat := 1000

/-- An endpoint whose fragments have room for a header. -/
structure Endpoint where
  mps : Nat
  room : headerSize < mps
  small : mps ≤ fragBufSize

/-- `obmf_frag_msg_buf`. -/
structure FragSlot where
  /-- The bytes collected in `buf`, as long as there is a buffer. -/
  buf : Option (List UInt8)
  lastMs : Nat
  rqresp : Bool
  discarding : Bool
  discardSeen : Nat
  discardExpected : Nat

/-- What a packet does for its message. -/
inductive Outcome where
  | pending
  | noMemory
  | tooLarge
  | unknownChannel
  | complete (message : List UInt8)

namespace FragSlot

def init : FragSlot := ⟨none, 0, false, false, 0, 0⟩

def offset (slot : FragSlot) : Nat := (slot.buf.getD []).length

/-- A message is under way in a slot. -/
def midMsg (slot : FragSlot) : Prop := slot.buf ≠ none ∨ slot.discarding = true

instance (slot : FragSlot) : Decidable slot.midMsg := by
  unfold midMsg
  infer_instance

def reset (slot : FragSlot) : FragSlot := { slot with buf := none, discarding := false }

/-- The slot once a stale partial message, or one of the other kind, is dropped. -/
def dropStale (slot : FragSlot) (rqresp : Bool) (now : Nat) : FragSlot :=
  if slot.midMsg ∧ (slot.lastMs + fragTimeoutMs < now ∨ slot.rqresp ≠ rqresp) then slot.reset
  else slot

def discard (mps : Nat) (slot : FragSlot) (length : Nat) : FragSlot × Outcome :=
  let seen := slot.discardSeen + (length - headerSize)
  if slot.discardExpected ≤ seen ∨ length < mps then
    ({ slot with discardSeen := seen, discarding := false }, .tooLarge)
  else ({ slot with discardSeen := seen }, .pending)

def overflow (mps : Nat) (slot : FragSlot) (data : List UInt8) (length : Nat) :
    FragSlot × Outcome :=
  { slot with
    buf := none
    discarding := true
    discardSeen := data.length - headerSize
    discardExpected := (readHeader data).size.toNat }.discard mps length

def extend (data bytes : List UInt8) : List UInt8 :=
  if data = [] then bytes else data ++ payload bytes

def append (mps : Nat) (slot : FragSlot) (data bytes : List UInt8) : FragSlot × Outcome :=
  let whole := extend data bytes
  if headerSize + (readHeader whole).size.toNat ≤ whole.length ∨ bytes.length < mps then
    ({ slot with buf := none }, .complete whole)
  else ({ slot with buf := some whole }, .pending)

def collect (mps : Nat) (slot : FragSlot) (data bytes : List UInt8) : FragSlot × Outcome :=
  if fragBufSize < data.length + bytes.length then slot.overflow mps data bytes.length
  else slot.append mps data bytes

/-- `obmf_rx_task` on a packet of the slot's channel. -/
def receive (mps : Nat) (slot : FragSlot) (bytes : List UInt8) (now : Nat) (heap : Bool) :
    FragSlot × Outcome :=
  let response := (readHeader bytes).isResponse
  let current := { slot.dropStale response now with lastMs := now }
  if current.discarding then current.discard mps bytes.length
  else
    match current.buf with
    | some data => current.collect mps data bytes
    | none =>
      if heap then { current with rqresp := response }.collect mps [] bytes
      else (current, .noMemory)

end FragSlot

/-- `obmf_unk`. -/
structure Unk where
  active : Bool
  channel : UInt8
  rqresp : Bool
  lastMs : Nat
  seen : Nat
  expected : Nat

namespace Unk

def init : Unk := ⟨false, 0, false, 0, 0, 0⟩

/-- `unk_cont`: the packet is of the message that is tracked. -/
def Continued (unk : Unk) (bytes : List UInt8) (now : Nat) : Prop :=
  unk.active = true ∧ unk.channel = (readHeader bytes).channel ∧
    unk.rqresp = (readHeader bytes).isResponse ∧ now ≤ unk.lastMs + fragTimeoutMs

instance (unk : Unk) (bytes : List UInt8) (now : Nat) : Decidable (unk.Continued bytes now) := by
  unfold Continued
  infer_instance

/-- `obmf_rx_task` on a packet of a channel that does not exist. -/
def receive (mps : Nat) (unk : Unk) (bytes : List UInt8) (now : Nat) : Unk × Outcome :=
  let hdr := readHeader bytes
  let current :=
    if unk.Continued bytes now then unk
    else
      { unk with
        channel := hdr.channel
        rqresp := hdr.isResponse
        expected := hdr.size.toNat
        seen := 0 }
  let seen := current.seen + (bytes.length - headerSize)
  let ended := current.expected ≤ seen ∨ bytes.length < mps
  ({ current with lastMs := now, seen := seen, active := !ended },
    if ended then .unknownChannel else .pending)

end Unk

/-- The state of `obmf_rx_task`: `obmf_frag_bufs` and `obmf_unk`. -/
structure Rx where
  /-- `obmf_frag_bufs`, one slot for each channel. -/
  slots : UInt8 → FragSlot
  unk : Unk

namespace Rx

def init : Rx := ⟨fun _ => .init, .init⟩

/-- `obmf_reset_channel_state`, as far as it concerns reassembly. -/
def resetChannelState (rx : Rx) : Rx :=
  ⟨fun channel => (rx.slots channel).reset, { rx.unk with active := false }⟩

/-- The partial messages of the listed channels are dropped, as a `CHANNEL_CONTROL` write with
RESET does. -/
def resetChannels (rx : Rx) (channels : List UInt8) : Rx :=
  { rx with
    slots := fun channel =>
      if channel ∈ channels then (rx.slots channel).reset else rx.slots channel }

def collect (mps : Nat) (rx : Rx) (bytes : List UInt8) (now : Nat) (heap : Bool) :
    Rx × Outcome :=
  let channel := (readHeader bytes).channel
  if maxChannels < channel then
    let next := rx.unk.receive mps bytes now
    ({ rx with unk := next.1 }, next.2)
  else
    let next := (rx.slots channel).receive mps bytes now heap
    ({ rx with slots := Function.update rx.slots channel next.1 }, next.2)

end Rx

/-- One turn of `obmf_rx_task`: the packet it reads and what the calls in it come to. -/
structure Turn (endpoint : Endpoint) where
  /-- The packet that `obmf_usb_read` returns. -/
  bytes : List UInt8
  long : headerSize ≤ bytes.length
  fits : bytes.length ≤ endpoint.mps
  now : Nat
  /-- `obmf_reset_pending` is set. -/
  busReset : Bool
  heap : Bool
  /-- `obmf_queue_response` finds memory and room in the queue. -/
  queued : Bool
  /-- What `obmf_get_response` leaves in the response buffer if it is called. -/
  answer : List UInt8
  /-- The channels that `obmf_get_response` resets if it is called. -/
  resets : List UInt8

/-- A response and the size of the buffer it was built in. -/
structure Response where
  capacity : Nat
  bytes : List UInt8
deriving DecidableEq

namespace Turn

variable {endpoint : Endpoint}

def channel (turn : Turn endpoint) : UInt8 := (readHeader turn.bytes).channel

def isRequest (turn : Turn endpoint) : Bool := !(readHeader turn.bytes).isResponse

/-- `obmf_get_response` answers requests and nothing else, and only a message on Channel 0 resets
channels, those that have a configuration space. -/
structure Lawful (turn : Turn endpoint) : Prop where
  answers : turn.answer ≠ [] ↔ turn.isRequest = true
  control : turn.resets ≠ [] → turn.channel = controlChannel
  /-- Channel 0 has no `CHANNEL_CONTROL`. -/
  others : ∀ channel ∈ turn.resets, channel ≠ controlChannel ∧ channel ≤ maxChannels

instance (turn : Turn endpoint) : Decidable turn.Lawful :=
  haveI := List.decidableBAll (fun channel => channel ≠ controlChannel ∧ channel ≤ maxChannels)
    turn.resets
  decidable_of_iff ((turn.answer ≠ [] ↔ turn.isRequest = true) ∧
      (turn.resets ≠ [] → turn.channel = controlChannel) ∧
      ∀ channel ∈ turn.resets, channel ≠ controlChannel ∧ channel ≤ maxChannels)
    ⟨fun ⟨answers, control, others⟩ => ⟨answers, control, others⟩,
      fun ⟨answers, control, others⟩ => ⟨answers, control, others⟩⟩

def built (turn : Turn endpoint) : Outcome → List Response
  | .pending | .noMemory => []
  | .tooLarge =>
    if turn.isRequest then
      [⟨headerSize, buildErrResponse turn.bytes statusSizeNotSupported⟩]
    else []
  | .unknownChannel =>
    if turn.isRequest then [⟨headerSize, buildErrResponse turn.bytes statusUnknownChannel⟩]
    else []
  | .complete _ => if turn.answer = [] then [] else [⟨rspBufSize, turn.answer⟩]

def responses (turn : Turn endpoint) (outcome : Outcome) : List Response :=
  if turn.queued then turn.built outcome else []

def settled (turn : Turn endpoint) (rx : Rx) : Rx :=
  if turn.busReset then rx.resetChannelState else rx

def collected (turn : Turn endpoint) (rx : Rx) : Rx × Outcome :=
  (turn.settled rx).collect endpoint.mps turn.bytes turn.now turn.heap

def outcome (turn : Turn endpoint) (rx : Rx) : Outcome := (turn.collected rx).2

def next (turn : Turn endpoint) (rx : Rx) : Rx :=
  match turn.outcome rx with
  | .complete _ => (turn.collected rx).1.resetChannels turn.resets
  | _ => (turn.collected rx).1

end Turn

end OpenBic.Obmf
