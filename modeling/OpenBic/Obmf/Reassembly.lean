import OpenBic.Obmf.Receive

/-!
# What the reassembly of OBMF messages answers

The messages of each channel as their packets tell them, beside the slots of `obmf_rx_task`. A
slot holds the message of its channel as long as it fits the buffer and discards it from then
on; at the end of a request there is one response.
-/

namespace OpenBic.Obmf

open List

open Function Library.Machine

/-- A message of which packets have come. -/
structure Unfinished where
  data : List UInt8
  lastMs : Nat
  large : Bool

namespace Unfinished

/-- A packet is of the message: it comes in time and is of the same kind. -/
def Continued (message : Unfinished) (bytes : List UInt8) (now : Nat) : Prop :=
  now ≤ message.lastMs + fragTimeoutMs ∧
    (readHeader message.data).isResponse = (readHeader bytes).isResponse

instance (message : Unfinished) (bytes : List UInt8) (now : Nat) :
    Decidable (message.Continued bytes now) := by
  unfold Continued
  infer_instance

def first (bytes : List UInt8) (now : Nat) : Unfinished := ⟨bytes, now, false⟩

def extended (message : Unfinished) (bytes : List UInt8) (now : Nat) : Unfinished where
  data := message.data ++ payload bytes
  lastMs := now
  large := message.large || decide (fragBufSize < message.data.length + bytes.length)

/-- The message a packet is of: the one that is unfinished, or a new one. -/
def follow (message : Option Unfinished) (bytes : List UInt8) (now : Nat) : Unfinished :=
  match message with
  | some message => if message.Continued bytes now then message.extended bytes now
    else first bytes now
  | none => first bytes now

/-- The packet that was last is the end of the message: it brings the rest, or it is short. -/
def Ended (mps : Nat) (message : Unfinished) (bytes : List UInt8) : Prop :=
  headerSize + (readHeader message.data).size.toNat ≤ message.data.length ∨ bytes.length < mps

instance (mps : Nat) (message : Unfinished) (bytes : List UInt8) :
    Decidable (message.Ended mps bytes) := by
  unfold Ended
  infer_instance

def rest (mps : Nat) (message : Unfinished) (bytes : List UInt8) : Option Unfinished :=
  if message.Ended mps bytes then none else some message

/-- What the last packet does for the message on a channel that exists. -/
def outcome (mps : Nat) (message : Unfinished) (bytes : List UInt8) : Outcome :=
  if message.Ended mps bytes then
    if message.large then .tooLarge else .complete message.data
  else .pending

end Unfinished

namespace FragSlot

/-- The slot of a channel holds the unfinished message of the channel. -/
inductive Holds (slot : FragSlot) : Option Unfinished → Prop where
  | idle (empty : slot.buf = none) (kept : slot.discarding = false) : Holds slot none
  | collecting {message : Unfinished} (buffered : slot.buf = some message.data)
    (kept : slot.discarding = false) (small : message.large = false)
    (whole : headerSize ≤ message.data.length)
    (kind : slot.rqresp = (readHeader message.data).isResponse)
    (last : slot.lastMs = message.lastMs) : Holds slot (some message)
  | discarded {message : Unfinished} (empty : slot.buf = none) (dropped : slot.discarding = true)
    (large : message.large = true) (whole : headerSize ≤ message.data.length)
    (seen : slot.discardSeen + headerSize = message.data.length)
    (expected : slot.discardExpected = (readHeader message.data).size.toNat)
    (kind : slot.rqresp = (readHeader message.data).isResponse)
    (last : slot.lastMs = message.lastMs) : Holds slot (some message)

/-- The slot is in bounds and does one thing at a time. -/
structure Bounded (slot : FragSlot) : Prop where
  /-- `offset` is in the buffer. -/
  inside : slot.offset ≤ fragBufSize
  apart : slot.discarding = true → slot.buf = none

end FragSlot

namespace FragSlot

variable {endpoint : Endpoint} {slot : FragSlot} {bytes : List UInt8} {now : Nat}

theorem dropStale_of_idle (empty : slot.buf = none) (kept : slot.discarding = false)
    (response : Bool) (now : Nat) : slot.dropStale response now = slot :=
  if_neg fun stale => stale.1.elim (· empty) (by simp [kept])

theorem dropStale_of_continued {response : Bool} (timely : now ≤ slot.lastMs + fragTimeoutMs)
    (same : slot.rqresp = response) : slot.dropStale response now = slot :=
  if_neg fun stale => stale.2.elim (by omega) (· same)

theorem dropStale_of_not_continued {response : Bool} (inside : slot.midMsg)
    (other : ¬ (now ≤ slot.lastMs + fragTimeoutMs ∧ slot.rqresp = response)) :
    slot.dropStale response now = slot.reset :=
  if_pos ⟨inside, by
    by_cases timely : now ≤ slot.lastMs + fragTimeoutMs
    · exact .inr fun same => other ⟨timely, same⟩
    · exact .inl (by omega)⟩

theorem holds_append {message : Unfinished} {data : List UInt8} (mps : Nat)
    (kept : slot.discarding = false) (small : message.large = false)
    (whole : headerSize ≤ message.data.length)
    (kind : slot.rqresp = (readHeader message.data).isResponse)
    (last : slot.lastMs = message.lastMs) (extended : extend data bytes = message.data) :
    (slot.append mps data bytes).1.Holds (message.rest mps bytes) ∧
      (slot.append mps data bytes).2 = message.outcome mps bytes := by
  unfold append
  rw [extended, Unfinished.rest, Unfinished.outcome, small]
  by_cases ended : message.Ended mps bytes
  · rw [if_pos ended, if_pos ended]
    simp only [Unfinished.Ended] at ended
    rw [if_pos ended]
    exact ⟨.idle rfl kept, rfl⟩
  · rw [if_neg ended, if_neg ended]
    simp only [Unfinished.Ended] at ended
    rw [if_neg ended]
    exact ⟨.collecting rfl kept small whole kind last, rfl⟩

theorem holds_discard {message : Unfinished} (mps : Nat) (empty : slot.buf = none)
    (dropped : slot.discarding = true) (large : message.large = true)
    (whole : headerSize ≤ message.data.length)
    (seen : slot.discardSeen + (bytes.length - headerSize) + headerSize = message.data.length)
    (expected : slot.discardExpected = (readHeader message.data).size.toNat)
    (kind : slot.rqresp = (readHeader message.data).isResponse)
    (last : slot.lastMs = message.lastMs) :
    (slot.discard mps bytes.length).1.Holds (message.rest mps bytes) ∧
      (slot.discard mps bytes.length).2 = message.outcome mps bytes := by
  have same : slot.discardExpected ≤ slot.discardSeen + (bytes.length - headerSize) ↔
      headerSize + (readHeader message.data).size.toNat ≤ message.data.length := by omega
  unfold discard
  rw [Unfinished.rest, Unfinished.outcome, large]
  by_cases ended : message.Ended mps bytes
  · rw [if_pos ended, if_pos ended]
    simp only [Unfinished.Ended, ← same] at ended
    rw [if_pos ended]
    exact ⟨.idle empty rfl, rfl⟩
  · rw [if_neg ended, if_neg ended]
    simp only [Unfinished.Ended, ← same] at ended
    rw [if_neg ended]
    exact ⟨.discarded empty dropped large whole seen expected kind last, rfl⟩

theorem holds_first {dropped : FragSlot} (long : headerSize ≤ bytes.length)
    (fits : bytes.length ≤ endpoint.mps) (empty : dropped.buf = none)
    (kept : dropped.discarding = false)
    (stale : slot.dropStale (readHeader bytes).isResponse now = dropped) :
    (slot.receive endpoint.mps bytes now true).1.Holds
        ((Unfinished.first bytes now).rest endpoint.mps bytes) ∧
      (slot.receive endpoint.mps bytes now true).2 =
        (Unfinished.first bytes now).outcome endpoint.mps bytes := by
  have inside : ¬ fragBufSize < ([] : List UInt8).length + bytes.length := by
    have small := endpoint.small
    rw [length_nil]
    omega
  simp only [receive, stale, kept, empty, Bool.false_eq_true, ↓reduceIte, collect,
    if_neg inside]
  exact holds_append _ rfl rfl long rfl rfl rfl

/-- A packet of the message that the slot holds goes to the buffer, or the message is discarded
from there on. -/
theorem holds_extended {message : Unfinished} (holds : slot.Holds (some message))
    (continued : message.Continued bytes now) (heap : Bool) :
    (slot.receive endpoint.mps bytes now heap).1.Holds
        ((message.extended bytes now).rest endpoint.mps bytes) ∧
      (slot.receive endpoint.mps bytes now heap).2 =
        (message.extended bytes now).outcome endpoint.mps bytes := by
  obtain ⟨timely, sameKind⟩ := continued
  have payloadLength : (payload bytes).length = bytes.length - headerSize := length_drop
  cases holds with
  | collecting buffered kept small whole kind last =>
    have stays : slot.dropStale (readHeader bytes).isResponse now = slot :=
      dropStale_of_continued (last ▸ timely) (kind.trans sameKind)
    have header := readHeader_append (payload bytes) whole
    have filled : message.data ≠ [] := by
      intro none
      rw [none] at whole
      cases whole
    simp only [receive, stays, kept, buffered, Bool.false_eq_true, ↓reduceIte, collect]
    split
    · rename_i overrun
      refine holds_discard _ rfl rfl ?_ ?_ ?_ ?_ ?_ rfl
      · simp [Unfinished.extended, overrun]
      · simp only [Unfinished.extended, length_append]
        omega
      · simp only [Unfinished.extended, length_append, payloadLength]
        omega
      · exact congrArg (·.size.toNat) header.symm
      · exact kind.trans (congrArg (·.isResponse) header.symm)
    · rename_i inside
      refine holds_append _ rfl ?_ ?_ ?_ rfl (if_neg filled)
      · simp [Unfinished.extended, small, inside]
      · simp only [Unfinished.extended, length_append]
        omega
      · exact kind.trans (congrArg (·.isResponse) header.symm)
  | discarded empty dropped large whole seen expected kind last =>
    have stays : slot.dropStale (readHeader bytes).isResponse now = slot :=
      dropStale_of_continued (last ▸ timely) (kind.trans sameKind)
    have header := readHeader_append (payload bytes) whole
    simp only [receive, stays, dropped, ↓reduceIte]
    refine holds_discard _ empty rfl ?_ ?_ ?_ ?_ ?_ rfl
    · simp [Unfinished.extended, large]
    · simp only [Unfinished.extended, length_append]
      omega
    · simp only [Unfinished.extended, length_append, payloadLength]
      omega
    · exact expected.trans (congrArg (·.size.toNat) header.symm)
    · exact kind.trans (congrArg (·.isResponse) header.symm)

theorem holds_receive {message : Option Unfinished} (now : Nat) (holds : slot.Holds message)
    (long : headerSize ≤ bytes.length) (fits : bytes.length ≤ endpoint.mps) :
    (slot.receive endpoint.mps bytes now true).1.Holds
        ((Unfinished.follow message bytes now).rest endpoint.mps bytes) ∧
      (slot.receive endpoint.mps bytes now true).2 =
        (Unfinished.follow message bytes now).outcome endpoint.mps bytes := by
  match message, holds with
  | none, .idle empty kept =>
    exact holds_first long fits empty kept (dropStale_of_idle empty kept _ _)
  | some message, holds =>
    by_cases continued : message.Continued bytes now
    · simp only [Unfinished.follow, if_pos continued]
      exact holds_extended holds continued true
    · simp only [Unfinished.follow, if_neg continued]
      have other : slot.dropStale (readHeader bytes).isResponse now = slot.reset := by
        cases holds with
        | collecting buffered kept small whole kind last =>
          exact dropStale_of_not_continued (.inl (by simp [buffered]))
            (by rwa [last, kind])
        | discarded empty dropped large whole seen expected kind last =>
          exact dropStale_of_not_continued (.inr dropped) (by rwa [last, kind])
      exact holds_first long fits rfl rfl other

theorem bounded_init : init.Bounded := ⟨Nat.zero_le _, fun _ => rfl⟩

theorem bounded_reset (slot : FragSlot) : slot.reset.Bounded := ⟨Nat.zero_le _, fun _ => rfl⟩

theorem bounded_discard (mps length : Nat) (empty : slot.buf = none) :
    (slot.discard mps length).1.Bounded := by
  simp only [discard]
  split <;> exact ⟨by simp [offset, empty], fun _ => empty⟩

theorem bounded_append (mps : Nat) {data : List UInt8} (kept : slot.discarding = false)
    (inside : data.length + bytes.length ≤ fragBufSize) :
    (slot.append mps data bytes).1.Bounded := by
  have notDropped : slot.discarding = true → False := by simp [kept]
  have short : (extend data bytes).length ≤ data.length + bytes.length := by
    unfold extend
    split
    · exact Nat.le_add_left _ _
    · simp only [payload, length_append, length_drop]
      omega
  simp only [append]
  split
  · exact ⟨Nat.zero_le _, fun _ => rfl⟩
  · exact ⟨Nat.le_trans short inside, fun dropped => absurd dropped notDropped⟩

theorem bounded_collect (mps : Nat) (data bytes : List UInt8) (kept : slot.discarding = false) :
    (slot.collect mps data bytes).1.Bounded := by
  unfold collect
  split
  · exact bounded_discard mps _ rfl
  · exact bounded_append mps kept (by omega)

theorem bounded_receive (mps : Nat) (bounded : slot.Bounded) (bytes : List UInt8) (now : Nat)
    (heap : Bool) : (slot.receive mps bytes now heap).1.Bounded := by
  have still : (slot.dropStale (readHeader bytes).isResponse now).Bounded := by
    unfold dropStale
    split
    · exact bounded_reset slot
    · exact bounded
  simp only [receive]
  by_cases dropped : (slot.dropStale (readHeader bytes).isResponse now).discarding = true
  · rw [if_pos dropped]
    exact bounded_discard mps _ (still.apart dropped)
  · rw [if_neg dropped]
    have kept := Bool.eq_false_iff.mpr dropped
    split
    · exact bounded_collect mps _ _ kept
    · split
      · exact bounded_collect mps _ _ kept
      · exact ⟨still.inside, still.apart⟩

end FragSlot

namespace Unk

/-- While the tracker is active it holds the unfinished message of its channel. -/
def Holds (unk : Unk) (messages : UInt8 → Option Unfinished) : Prop :=
  unk.active = true → maxChannels < unk.channel ∧
    ∃ message, messages unk.channel = some message ∧ headerSize ≤ message.data.length ∧
      unk.rqresp = (readHeader message.data).isResponse ∧ unk.lastMs = message.lastMs ∧
      unk.seen + headerSize = message.data.length ∧
      unk.expected = (readHeader message.data).size.toNat

end Unk

/-- The receive task and the unfinished messages of all channels. -/
structure Observed where
  rx : Rx
  messages : UInt8 → Option Unfinished

def Observed.init : Observed := ⟨.init, fun _ => none⟩

namespace Turn

variable {endpoint : Endpoint}

def settledMessages (turn : Turn endpoint) (messages : UInt8 → Option Unfinished) :
    UInt8 → Option Unfinished :=
  if turn.busReset then fun _ => none else messages

def message (turn : Turn endpoint) (messages : UInt8 → Option Unfinished) : Unfinished :=
  .follow (turn.settledMessages messages turn.channel) turn.bytes turn.now

/-- The message of a turn is whole. -/
def Ends (turn : Turn endpoint) (messages : UInt8 → Option Unfinished) : Prop :=
  (turn.message messages).Ended endpoint.mps turn.bytes

instance (turn : Turn endpoint) (messages : UInt8 → Option Unfinished) :
    Decidable (turn.Ends messages) := by
  unfold Ends
  infer_instance

/-- The packet completes a message for `obmf_get_response`. -/
def Dispatches (turn : Turn endpoint) (messages : UInt8 → Option Unfinished) : Prop :=
  turn.channel ≤ maxChannels ∧ turn.Ends messages ∧ (turn.message messages).large = false

instance (turn : Turn endpoint) (messages : UInt8 → Option Unfinished) :
    Decidable (turn.Dispatches messages) := by
  unfold Dispatches
  infer_instance

def put (turn : Turn endpoint) (messages : UInt8 → Option Unfinished) :
    UInt8 → Option Unfinished :=
  update (turn.settledMessages messages) turn.channel
    ((turn.message messages).rest endpoint.mps turn.bytes)

def watched (turn : Turn endpoint) (messages : UInt8 → Option Unfinished) :
    UInt8 → Option Unfinished :=
  fun channel =>
    if turn.Dispatches messages ∧ channel ∈ turn.resets then none
    else turn.put messages channel

end Turn

def Observed.step {endpoint : Endpoint} (observed : Observed) (turn : Turn endpoint) :
    Option Observed :=
  if turn.Lawful then some ⟨turn.next observed.rx, turn.watched observed.messages⟩ else none

/-- A response of the task itself to a message on a channel. -/
structure ErrorAnswer (channel : UInt8) (message : Unfinished) (response : Response) : Prop where
  fits : response.bytes.length ≤ response.capacity
  onChannel : (readHeader response.bytes).channel = channel
  isResponse : (readHeader response.bytes).isResponse = true
  echoes : ∀ mask ∈ transMask channel,
    response.bytes.getD headerSize 0 = message.data.getD headerSize 0 &&& mask

/-- A turn leaves one response if its packet ends a request and none otherwise; a response that
`obmf_get_response` did not make is an error response to the message. -/
structure Answered {endpoint : Endpoint} (observed : Observed) (turn : Turn endpoint) : Prop where
  once : (turn.responses (turn.outcome observed.rx)).length =
    if turn.Ends observed.messages ∧ turn.isRequest then 1 else 0
  errors : ¬ turn.Dispatches observed.messages →
    ∀ response ∈ turn.responses (turn.outcome observed.rx),
      ErrorAnswer turn.channel (turn.message observed.messages) response

/-- Nothing keeps a turn from answering its message: there is memory and room in the queue, a
request that is too large is not on a channel with transactions, and a packet that goes on with a
message on a channel that does not exist finds it tracked. -/
structure Orderly {endpoint : Endpoint} (observed : Observed) (turn : Turn endpoint) : Prop where
  heap : turn.heap = true
  queued : turn.queued = true
  plain : turn.Ends observed.messages → turn.isRequest = true →
    (turn.message observed.messages).large = true → transMask turn.channel = none
  alone : maxChannels < turn.channel →
    ∀ message ∈ turn.settledMessages observed.messages turn.channel,
      message.Continued turn.bytes turn.now →
      (turn.settled observed.rx).unk.active = true ∧
        (turn.settled observed.rx).unk.channel = turn.channel

/-- A packet of a channel that does not exist does for the tracker what it does for the message,
if no other message came between. -/
theorem Unk.holds_receive {unk : Unk} {messages : UInt8 → Option Unfinished}
    {bytes : List UInt8} {now : Nat} (mps : Nat) (holds : unk.Holds messages)
    (long : headerSize ≤ bytes.length) (unknown : maxChannels < (readHeader bytes).channel)
    (alone : ∀ message ∈ messages (readHeader bytes).channel, message.Continued bytes now →
      unk.active = true ∧ unk.channel = (readHeader bytes).channel) :
    (unk.receive mps bytes now).1.Holds
        (update messages (readHeader bytes).channel
          ((Unfinished.follow (messages (readHeader bytes).channel) bytes now).rest mps bytes)) ∧
      (unk.receive mps bytes now).2 =
        if (Unfinished.follow (messages (readHeader bytes).channel) bytes now).Ended mps bytes
        then .unknownChannel else .pending := by
  have payloadLength : (payload bytes).length = bytes.length - headerSize := length_drop
  by_cases continued : unk.Continued bytes now
  · obtain ⟨active, same, kind, timely⟩ := continued
    obtain ⟨-, message, unfinished, whole, kindOf, last, seen, expected⟩ := holds active
    rw [same] at unfinished
    have header := readHeader_append (payload bytes) whole
    have onward : message.Continued bytes now := ⟨last ▸ timely, kindOf ▸ kind⟩
    have followed : Unfinished.follow (messages (readHeader bytes).channel) bytes now =
        message.extended bytes now := by
      simp only [unfinished, Unfinished.follow, if_pos onward]
    have atEnd : (unk.expected ≤ unk.seen + (bytes.length - headerSize) ∨ bytes.length < mps) ↔
        (message.extended bytes now).Ended mps bytes := by
      simp only [Unfinished.Ended, Unfinished.extended, header, length_append,
        payloadLength, expected]
      omega
    have kept : unk.Continued bytes now := ⟨active, same, kind, timely⟩
    simp only [receive, if_pos kept, followed, atEnd, Unfinished.rest]
    refine ⟨fun stillActive => ⟨same ▸ unknown, message.extended bytes now, ?_, ?_, ?_, rfl,
      ?_, ?_⟩,
      trivial⟩
    · have going : ¬ (message.extended bytes now).Ended mps bytes := by simpa using stillActive
      simp only [same, update_self, if_neg going]
    · simp only [Unfinished.extended, length_append]
      omega
    · exact kindOf.trans (congrArg (·.isResponse) header.symm)
    · simp only [Unfinished.extended, length_append, payloadLength]
      omega
    · exact expected.trans (congrArg (·.size.toNat) header.symm)
  · have followed : Unfinished.follow (messages (readHeader bytes).channel) bytes now =
        Unfinished.first bytes now := by
      cases unfinished : messages (readHeader bytes).channel with
      | none => rfl
      | some message =>
        refine if_neg fun onward => continued ?_
        obtain ⟨active, same⟩ := alone message unfinished onward
        obtain ⟨-, tracked, found, -, kindOf, last, -⟩ := holds active
        rw [same, unfinished] at found
        cases found
        exact ⟨active, same, kindOf.trans onward.2, last ▸ onward.1⟩
    have atEnd : ((readHeader bytes).size.toNat ≤ 0 + (bytes.length - headerSize) ∨
        bytes.length < mps) ↔ (Unfinished.first bytes now).Ended mps bytes := by
      simp only [Unfinished.Ended, Unfinished.first]
      omega
    simp only [receive, if_neg continued, followed, atEnd, Unfinished.rest]
    refine ⟨fun stillActive => ⟨unknown, Unfinished.first bytes now, ?_, long, rfl, rfl, ?_, rfl⟩,
      trivial⟩
    · have going : ¬ (Unfinished.first bytes now).Ended mps bytes := by simpa using stillActive
      simp only [update_self, if_neg going]
    · simp only [Unfinished.first]
      omega

/-- The slots and the tracker hold the unfinished messages. -/
structure Observed.Follows (observed : Observed) : Prop where
  slots : ∀ channel ≤ maxChannels,
    (observed.rx.slots channel).Holds (observed.messages channel)
  unk : observed.rx.unk.Holds observed.messages

theorem Observed.follows_init : Observed.init.Follows :=
  ⟨fun _ _ => .idle rfl rfl, fun active => absurd active (by decide)⟩

namespace Turn

variable {endpoint : Endpoint} {turn : Turn endpoint} {observed : Observed}

theorem follows_settled (turn : Turn endpoint) (follows : observed.Follows) :
    Observed.Follows ⟨turn.settled observed.rx, turn.settledMessages observed.messages⟩ := by
  by_cases busReset : turn.busReset = true
  · simp only [settled, settledMessages, busReset, ↓reduceIte]
    exact ⟨fun _ _ => .idle rfl rfl, fun active => absurd active (by simp [Rx.resetChannelState])⟩
  · simp only [settled, settledMessages, if_neg busReset]
    exact follows

theorem follows_collected_slot (follows : observed.Follows) (heap : turn.heap = true)
    (known : turn.channel ≤ maxChannels) :
    Observed.Follows ⟨(turn.collected observed.rx).1, turn.put observed.messages⟩ ∧
      turn.outcome observed.rx =
        (turn.message observed.messages).outcome endpoint.mps turn.bytes := by
  obtain ⟨slots, unk⟩ := turn.follows_settled follows
  have received := FragSlot.holds_receive turn.now (slots turn.channel known)
    turn.long turn.fits
  have exists' : ¬ maxChannels < (readHeader turn.bytes).channel := UInt8.not_lt.mpr known
  simp only [outcome, collected, Rx.collect, if_neg exists', heap]
  refine ⟨⟨fun channel within => ?_, fun active => ?_⟩, received.2⟩
  · by_cases same : channel = turn.channel
    · subst same
      simp only [put, Turn.channel, update_self]
      exact received.1
    · have other : channel ≠ (readHeader turn.bytes).channel := same
      simp only [put, Turn.channel, update_of_ne other]
      exact slots channel within
  · obtain ⟨beyond, tracked⟩ := unk active
    have other : (turn.settled observed.rx).unk.channel ≠ turn.channel := by
      rintro same
      exact UInt8.not_lt.mpr known (same ▸ beyond)
    refine ⟨beyond, ?_⟩
    simp only [put, update_of_ne other]
    exact tracked

theorem follows_collected_unk (follows : observed.Follows) (orderly : Orderly observed turn)
    (unknown : maxChannels < turn.channel) :
    Observed.Follows ⟨(turn.collected observed.rx).1, turn.put observed.messages⟩ ∧
      turn.outcome observed.rx =
        if turn.Ends observed.messages then .unknownChannel else .pending := by
  obtain ⟨slots, unk⟩ := turn.follows_settled follows
  have received := Unk.holds_receive endpoint.mps unk turn.long unknown (orderly.alone unknown)
  have absent : maxChannels < (readHeader turn.bytes).channel := unknown
  simp only [outcome, collected, Rx.collect, if_pos absent]
  refine ⟨⟨fun channel within => ?_, received.1⟩, received.2⟩
  have other : channel ≠ turn.channel := by
    rintro rfl
    exact UInt8.not_lt.mpr within unknown
  simp only [put, update_of_ne other]
  exact slots channel within

theorem follows_resetChannels {channels : List UInt8} (follows : observed.Follows)
    (exist : ∀ channel ∈ channels, channel ≤ maxChannels) :
    Observed.Follows ⟨observed.rx.resetChannels channels,
      fun channel => if channel ∈ channels then none else observed.messages channel⟩ := by
  refine ⟨fun channel within => ?_, fun active => ?_⟩
  · simp only [Rx.resetChannels]
    split
    · exact .idle rfl rfl
    · exact follows.slots channel within
  · obtain ⟨beyond, tracked⟩ := follows.unk active
    have spared : observed.rx.unk.channel ∉ channels := fun listed =>
      UInt8.not_lt.mpr (exist _ listed) beyond
    obtain ⟨message, unfinished, facts⟩ := tracked
    exact ⟨beyond, message, (if_neg spared).trans unfinished, facts⟩

end Turn

namespace Turn

variable {endpoint : Endpoint} {turn : Turn endpoint} {observed : Observed}

theorem outcome_of_orderly (follows : observed.Follows) (orderly : Orderly observed turn) :
    Observed.Follows ⟨(turn.collected observed.rx).1, turn.put observed.messages⟩ ∧
      turn.outcome observed.rx =
        if turn.Ends observed.messages then
          if maxChannels < turn.channel then .unknownChannel
          else if (turn.message observed.messages).large then .tooLarge
          else .complete (turn.message observed.messages).data
        else .pending := by
  by_cases unknown : maxChannels < turn.channel
  · simp only [unknown, ↓reduceIte]
    exact follows_collected_unk follows orderly unknown
  · simp only [unknown, ↓reduceIte]
    exact follows_collected_slot follows orderly.heap (UInt8.not_lt.mp unknown)

theorem complete_of_dispatches (follows : observed.Follows) (orderly : Orderly observed turn)
    (dispatches : turn.Dispatches observed.messages) :
    turn.outcome observed.rx = .complete (turn.message observed.messages).data := by
  obtain ⟨known, ends, fits⟩ := dispatches
  rw [(outcome_of_orderly follows orderly).2, if_pos ends, if_neg (UInt8.not_lt.mpr known), fits]
  rfl

theorem dispatches_of_complete (follows : observed.Follows) (orderly : Orderly observed turn)
    {whole : List UInt8} (completed : turn.outcome observed.rx = .complete whole) :
    turn.Dispatches observed.messages := by
  rw [(outcome_of_orderly follows orderly).2] at completed
  split at completed
  · rename_i ends
    split at completed
    · cases completed
    · rename_i known
      split at completed
      · cases completed
      · rename_i fits
        exact ⟨UInt8.not_lt.mp known, ends, Bool.eq_false_iff.mpr fits⟩
  · cases completed

theorem watched_of_dispatches (dispatches : turn.Dispatches observed.messages) :
    turn.watched observed.messages =
      fun channel =>
        if channel ∈ turn.resets then none else turn.put observed.messages channel := by
  funext channel
  simp only [watched, dispatches, true_and]

theorem watched_of_not_dispatches (waits : ¬ turn.Dispatches observed.messages) :
    turn.watched observed.messages = turn.put observed.messages := by
  funext channel
  exact if_neg fun both => waits both.1

theorem follows_next (lawful : turn.Lawful) (follows : observed.Follows)
    (orderly : Orderly observed turn) :
    Observed.Follows ⟨turn.next observed.rx, turn.watched observed.messages⟩ := by
  have collected := (outcome_of_orderly follows orderly).1
  by_cases dispatches : turn.Dispatches observed.messages
  · rw [watched_of_dispatches dispatches, next, complete_of_dispatches follows orderly dispatches]
    exact follows_resetChannels collected fun channel listed => (lawful.others channel listed).2
  · have same : turn.next observed.rx = (turn.collected observed.rx).1 := by
      unfold next
      split
      · rename_i whole completed
        exact absurd (dispatches_of_complete follows orderly completed) dispatches
      · rfl
    rw [watched_of_not_dispatches dispatches, same]
    exact collected

end Turn

theorem isResponse_responseStatus (channel status : UInt8) (size : UInt16) :
    Header.isResponse ⟨channel, responseStatus status, size⟩ = true := by
  have bits : ∀ status : UInt8, responseStatus status >>> 7 &&& 0x01 = 1 :=
    forall_byte (by decide +kernel)
  exact decide_eq_true (bits status)

theorem transMask_of_unknown {channel : UInt8} (unknown : maxChannels < channel) :
    transMask channel = none := by
  have plain : ∀ channel : UInt8, maxChannels < channel → transMask channel = none :=
    forall_byte (by decide +kernel)
  exact plain channel unknown

theorem errorAnswer_of_plain {endpoint : Endpoint} (turn : Turn endpoint) (message : Unfinished)
    (errorCode : UInt8) (plain : transMask turn.channel = none) :
    ErrorAnswer turn.channel message ⟨headerSize, buildErrResponse turn.bytes errorCode⟩ := by
  have bare := buildErrResponse_of_transMask errorCode plain
  have header : readHeader (buildErrResponse turn.bytes errorCode) =
      ⟨turn.channel, responseStatus errorCode, 0⟩ := by
    rw [bare, ← append_nil (Header.bytes _), readHeader_bytes]
    rfl
  refine ⟨?_, congrArg (·.channel) header, ?_, ?_⟩
  · rw [bare]
    exact Nat.le_refl headerSize
  · rw [header]
    exact isResponse_responseStatus _ _ _
  · intro mask masked
    rw [plain] at masked
    cases masked

theorem answered_of_orderly {endpoint : Endpoint} {turn : Turn endpoint} {observed : Observed}
    (lawful : turn.Lawful) (follows : observed.Follows) (orderly : Orderly observed turn) :
    Answered observed turn := by
  have outcome := (turn.outcome_of_orderly follows orderly).2
  have queued := orderly.queued
  constructor
  · rw [outcome, Turn.responses, if_pos queued]
    by_cases ends : turn.Ends observed.messages
    · have complete : ∀ whole : List UInt8, (turn.built (.complete whole)).length =
          if turn.isRequest then 1 else 0 := by
        intro whole
        by_cases request : turn.isRequest = true
        · simp [Turn.built, request, lawful.answers.mpr request]
        · have silent : turn.answer = [] := by
            by_contra answer
            exact request (lawful.answers.mp answer)
          simp [Turn.built, request, silent]
      simp only [ends, ↓reduceIte, true_and]
      split
      · by_cases request : turn.isRequest = true <;> simp [Turn.built, request]
      · split
        · by_cases request : turn.isRequest = true <;> simp [Turn.built, request]
        · exact complete _
    · simp [ends, Turn.built]
  · intro waits response listed
    have incomplete : ∀ whole, turn.outcome observed.rx ≠ .complete whole := fun whole completed =>
      waits (Turn.dispatches_of_complete follows orderly completed)
    rw [Turn.responses, if_pos queued, outcome] at listed
    rw [outcome] at incomplete
    split at listed
    · rename_i ends
      split at listed
      · rename_i unknown
        simp only [Turn.built] at listed
        split at listed
        · obtain rfl := List.mem_singleton.mp listed
          exact errorAnswer_of_plain turn _ _ (transMask_of_unknown unknown)
        · cases listed
      · split at listed
        · rename_i large
          simp only [Turn.built] at listed
          split at listed
          · rename_i request
            obtain rfl := List.mem_singleton.mp listed
            exact errorAnswer_of_plain turn _ _ (orderly.plain ends request large)
          · cases listed
        · rename_i known small
          exact absurd (by simp only [ends, known, small]; rfl) (incomplete _)
    · cases listed

namespace Rx

/-- Every slot keeps to its buffer. -/
def Bounded (rx : Rx) : Prop := ∀ channel, (rx.slots channel).Bounded

theorem bounded_resetChannels {rx : Rx} (bounded : rx.Bounded) (channels : List UInt8) :
    (rx.resetChannels channels).Bounded := by
  intro channel
  simp only [resetChannels]
  split
  · exact FragSlot.bounded_reset _
  · exact bounded channel

theorem bounded_collect {rx : Rx} (bounded : rx.Bounded) (mps : Nat) (bytes : List UInt8)
    (now : Nat) (heap : Bool) : (rx.collect mps bytes now heap).1.Bounded := by
  intro channel
  simp only [collect]
  split
  · exact bounded channel
  · by_cases same : channel = (readHeader bytes).channel
    · subst same
      simp only [update_self]
      exact FragSlot.bounded_receive mps (bounded _) bytes now heap
    · simp only [update_of_ne same]
      exact bounded channel

end Rx

theorem Turn.bounded_next {endpoint : Endpoint} (turn : Turn endpoint) {rx : Rx}
    (bounded : rx.Bounded) : (turn.next rx).Bounded := by
  have settled : (turn.settled rx).Bounded := by
    unfold Turn.settled
    split
    · exact fun channel => FragSlot.bounded_reset _
    · exact bounded
  have collected : (turn.collected rx).1.Bounded := Rx.bounded_collect settled _ _ _ _
  unfold Turn.next
  split
  · exact Rx.bounded_resetChannels collected _
  · exact collected

theorem Observed.step_eq_some {endpoint : Endpoint} {observed next : Observed}
    {turn : Turn endpoint} (moved : observed.step turn = some next) :
    turn.Lawful ∧ ⟨turn.next observed.rx, turn.watched observed.messages⟩ = next := by
  obtain ⟨lawful, reached⟩ := Option.ite_none_right_eq_some.mp moved
  exact ⟨lawful, Option.some.inj reached⟩

/-- The reassembly keeps to its buffer along every run. -/
theorem bounded_of_run {endpoint : Endpoint} {turns : List (Turn endpoint)} {final : Observed}
    (ran : run Observed.step .init turns = some final) : final.rx.Bounded := by
  have kept : ∀ {observed : Observed} {turn : Turn endpoint} {next : Observed},
      observed.rx.Bounded → observed.step turn = some next → next.rx.Bounded := by
    intro observed turn next bounded moved
    obtain ⟨-, rfl⟩ := Observed.step_eq_some moved
    exact turn.bounded_next bounded
  exact invariant_of_step kept (fun _ => FragSlot.bounded_init) ran

/-- In every orderly run the slots stay in bounds, and every turn answers the message of its
packet: one response at the end of a request, none otherwise, and every error response fits its
buffer and echoes the transaction of the first packet. -/
theorem answered_run {endpoint : Endpoint} {turns : List (Turn endpoint)} {final : Observed}
    (ran : run Observed.step .init turns = some final)
    (orderly : Meets Observed.step Orderly .init turns) :
    final.rx.Bounded ∧ Meets Observed.step Answered .init turns := by
  refine ⟨bounded_of_run ran, ?_⟩
  have kept : ∀ {observed : Observed} {turn : Turn endpoint} {next : Observed},
      observed.Follows → Orderly observed turn → observed.step turn = some next →
        next.Follows := by
    intro observed turn next follows orderly moved
    obtain ⟨lawful, rfl⟩ := Observed.step_eq_some moved
    exact Turn.follows_next lawful follows orderly
  have shown : ∀ {observed : Observed} {turn : Turn endpoint} {next : Observed},
      observed.Follows → Orderly observed turn → observed.step turn = some next →
        Answered observed turn := by
    intro observed turn next follows orderly moved
    exact answered_of_orderly (Observed.step_eq_some moved).1 follows orderly
  exact .of_invariant kept shown Observed.follows_init orderly ran

instance {endpoint : Endpoint} (observed : Observed) (turn : Turn endpoint) :
    Decidable (Orderly observed turn) :=
  decidable_of_iff (turn.heap = true ∧ turn.queued = true ∧
      (turn.Ends observed.messages → turn.isRequest = true →
        (turn.message observed.messages).large = true → transMask turn.channel = none) ∧
      (maxChannels < turn.channel →
        ∀ message ∈ turn.settledMessages observed.messages turn.channel,
          message.Continued turn.bytes turn.now →
          (turn.settled observed.rx).unk.active = true ∧
            (turn.settled observed.rx).unk.channel = turn.channel))
    ⟨fun ⟨heap, queued, plain, alone⟩ => ⟨heap, queued, plain, alone⟩,
      fun ⟨heap, queued, plain, alone⟩ => ⟨heap, queued, plain, alone⟩⟩

def highSpeed : Endpoint := ⟨512, by decide, by decide⟩

def controlPacket (size : UInt16) (data : List UInt8) (now : Nat)
    (short : data.length ≤ 508) (answer : List UInt8) : Turn highSpeed where
  bytes := Header.bytes ⟨controlChannel, 0, size⟩ ++ data
  long := by simp
  fits := by
    rw [length_append, Header.length_bytes]
    exact Nat.add_le_add_left short headerSize
  now := now
  busReset := false
  heap := true
  queued := true
  answer := answer
  resets := []

def readPacket : Turn highSpeed :=
  controlPacket 8 [0, 0, 0, 0, 0, 0, 4, 0] 0 (by decide) [0, 0x80, 2, 0, 0, 0]

/-- One packet that asks for a read. -/
theorem answered_run_read : ∃ final : Observed,
    final.rx.Bounded ∧ Meets Observed.step Answered .init [readPacket] := by
  have reached : (run Observed.step .init [readPacket]).isSome = true := by decide +kernel
  obtain ⟨final, ran⟩ := Option.isSome_iff_exists.mp reached
  exact ⟨final, answered_run ran (by decide +kernel)⟩

def oversizeWrite : List (Turn highSpeed) :=
  [controlPacket 1100 (3 :: 0 :: List.replicate 506 0xFF) 0 (by decide +kernel)
      [0, 0x80, 2, 0, 3, 0],
    controlPacket 508 (List.replicate 508 0xFF) 1 (by decide +kernel) [0, 0x80, 2, 0, 3, 0],
    controlPacket 84 (List.replicate 84 0xFF) 2 (by decide +kernel) [0, 0x80, 2, 0, 3, 0]]

/-- The error response to a write that is too large overruns its buffer of four bytes, and has a
transaction from the data of the last packet instead of that of the write. -/
theorem oversizeWrite_misanswered :
    (∃ before ∈ run Observed.step .init (oversizeWrite.take 2),
      ∃ last ∈ oversizeWrite[2]?, (before.step last).isSome = true ∧
        (last.message before.messages).data.getD headerSize 0 = 3 ∧
        last.responses (last.outcome before.rx) = [⟨4, [0, 0x86, 2, 0, 7, 0]⟩]) ∧
      ¬ Meets Observed.step Answered .init oversizeWrite := by
  refine ⟨by decide +kernel, fun answered => ?_⟩
  obtain ⟨afterFirst, movedFirst, afterSecond, movedSecond, waits, responses⟩ :
      ∃ afterFirst ∈ Observed.init.step (oversizeWrite.get ⟨0, by decide⟩),
        ∃ afterSecond ∈ afterFirst.step (oversizeWrite.get ⟨1, by decide⟩),
          ¬ (oversizeWrite.get ⟨2, by decide⟩).Dispatches afterSecond.messages ∧
          (oversizeWrite.get ⟨2, by decide⟩).responses
              ((oversizeWrite.get ⟨2, by decide⟩).outcome afterSecond.rx) =
            [⟨4, [0, 0x86, 2, 0, 7, 0]⟩] := by
    decide +kernel
  have second := (answered.tail movedFirst).2
  have third := (second.tail movedSecond).2
  have listed : (⟨4, [0, 0x86, 2, 0, 7, 0]⟩ : Response) ∈
      (oversizeWrite.get ⟨2, by decide⟩).responses
        ((oversizeWrite.get ⟨2, by decide⟩).outcome afterSecond.rx) := by
    rw [responses]
    exact mem_singleton_self _
  have fits := (third.1.errors waits _ listed).fits
  exact absurd fits (by decide)

end OpenBic.Obmf
