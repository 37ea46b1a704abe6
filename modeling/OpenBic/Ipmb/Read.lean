import OpenBic.Ipmb.Table

/-!
# `ipmb_read` gets the response to its own request

One channel with its transmit task, its receive task, its two queues and the holder of
`mutex_read`. A step is what one of them does between two points where another may come in.
A call of `ipmb_read` reads on the channel its request names as the target, as all callers do.
It gets a number when its request is in the transmit queue, and the request and every response
matched to it carry that number. Other senders' requests and responses pass through the same
tasks. Beside the channel stand the requests that the target has and has not answered; its
responses carry the number of the call they answer.
-/

namespace OpenBic.Ipmb

open List Option Library.Machine

def self : UInt8 := 0x00

def ipmbTxRetryTime : Nat := 5

def ipmbRxqueueLen : Nat := 2

def IpmiMsg.isResponse (msg : IpmiMsg) : Bool := msg.netfn &&& 0x01 == 1

/-- What the service reads of an `ipmi_msg_cfg`. -/
structure IpmiMsgCfg where
  buffer : IpmiMsg
  retries : Nat

/-- Where the transmit task is about to go on. -/
inductive TxPc where
  | idle
  | taken (msg : IpmiMsgCfg)
  /-- It is in `i2c_master_write`. -/
  | writing (msg : IpmiMsgCfg)
  | failed (msg : IpmiMsgCfg)
  | requeue (msg : IpmiMsgCfg)

/-- Where the holder of `mutex_read` is about to go on. -/
inductive IpmbReadPc where
  | free
  | locked (msg : IpmiMsg)
  | purged (msg : IpmiMsg)
  | sending (msg : IpmiMsg)
  | waiting (call : Nat) (msg : IpmiMsg)
  | clearing (call : Nat) (msg : IpmiMsg)

/-- A channel with its tasks. -/
structure Bus where
  channel : Channel
  /-- `ipmb_txqueue`, of one entry. -/
  txQueue : Option IpmiMsgCfg
  txTask : TxPc
  /-- `IPMB_RXTask`: the response it has matched and not yet put into the queue. -/
  rxTask : Option IpmiMsg
  rxQueue : List IpmiMsg
  /-- The holder of `mutex_read`. -/
  reader : IpmbReadPc
  nextCall : Nat
  returns : List (Nat × IpmiMsg × IpmiMsg)

def Bus.start : Bus :=
  { channel := Channel.start
    txQueue := none
    txTask := .idle
    rxTask := none
    rxQueue := []
    reader := .free
    nextCall := 0
    returns := [] }

/-- What can happen next. -/
inductive BusEvent where
  /-- `ipmb_read` gets `mutex_read`. -/
  | lock (msg : IpmiMsg)
  | purge
  /-- `ipmb_send_request` builds the request, or cannot lock its mutex. -/
  | build (locked : Bool)
  /-- `k_msgq_put` of the request, into an empty queue or not in time. -/
  | put (ok : Bool)
  /-- `k_msgq_get` of a response. -/
  | get
  /-- `k_msgq_get` times out. -/
  | timeOut
  /-- `clear_req_ipmi_msg`, which may not get its mutex. -/
  | clear (locked : Bool)
  | bridge (msg : IpmiMsg)
  | respond (msg : IpmiMsg)
  | take (disabled : Bool)
  | drop
  | transmit (now : UInt32) (locked mallocOk : Bool)
  /-- `i2c_master_write` returns. -/
  | written (ok : Bool)
  | unlink (locked : Bool)
  | requeue
  | receive (msg : IpmiMsg)
  | deliver
  | sweep (clock : Nat → UInt32)

/-- `ipmb_send_request` builds a request: it has a new number, and no call's number yet. -/
def Bus.build (s : Bus) (msg : IpmiMsg) : Channel × IpmiMsg :=
  let channel := s.channel.getFreeSeq
  (channel, { msg with seq := channel.currentSeq, call := none })

/-- `IPMB_TXTask` inserts a request and goes on to write it; a response it just writes. -/
def Bus.transmit (s : Bus) (msg : IpmiMsgCfg) (now : UInt32) (locked mallocOk : Bool) :
    Option Bus :=
  if msg.buffer.isResponse then some { s with txTask := .writing msg }
  else
    let buffer := { msg.buffer with seqTarget := msg.buffer.seq }
    let next := { s with txTask := .writing { msg with buffer } }
    if locked then
      (s.channel.insertReq buffer now mallocOk).map fun channel => { next with channel }
    else some next

def Bus.again (s : Bus) (msg : IpmiMsgCfg) : Bus :=
  if ipmbTxRetryTime < msg.retries then { s with txTask := .idle }
  else { s with txTask := .requeue msg }

/-- `IPMB_TXTask` looks the request up that it could not write, and counts the try. The lookup fills
in the source of the request found; the message is still that of its own call. -/
def Bus.unlink (s : Bus) (msg : IpmiMsgCfg) (locked : Bool) : Option Bus :=
  if locked then
    (s.channel.findReq msg.buffer).map fun found =>
      { s with channel := found.1 }.again
        { buffer := { found.2.getD msg.buffer with call := msg.buffer.call }
          retries := msg.retries + 1 }
  else some (s.again { msg with retries := msg.retries + 1 })

/-- `IPMB_RXTask` with a message from the bus; a response to a request of this BIC itself is kept
for the queue, others go elsewhere. -/
def Bus.receive (s : Bus) (msg : IpmiMsg) : Option Bus :=
  if msg.isResponse then
    (s.channel.findReq { msg with seqTarget := msg.seq }).map fun found =>
      { s with
        channel := found.1
        rxTask := found.2.filter fun response => response.infSource == self }
  else some s

def busStep (ticks : Ticks) (s : Bus) : BusEvent → Option Bus
  | .lock msg =>
    match s.reader with
    | .free => some { s with reader := .locked msg }
    | _ => none
  | .purge =>
    match s.reader with
    | .locked msg => some { s with rxQueue := [], reader := .purged msg }
    | _ => none
  | .build locked =>
    match s.reader with
    | .purged msg =>
      if locked then
        some { s with channel := (s.build msg).1, reader := .sending (s.build msg).2 }
      else some { s with reader := .free }
    | _ => none
  | .put ok =>
    match s.reader with
    | .sending msg =>
      if ok then
        if s.txQueue = none then
          some { s with
            txQueue := some ⟨{ msg with call := some s.nextCall }, 0⟩
            reader := .waiting s.nextCall msg
            nextCall := s.nextCall + 1 }
        else none
      else some { s with reader := .free }
    | _ => none
  | .get =>
    match s.reader, s.rxQueue with
    | .waiting call msg, response :: rest =>
      some { s with
        rxQueue := rest
        reader := .free
        returns := s.returns ++ [(call, msg, response)] }
    | _, _ => none
  | .timeOut =>
    match s.reader, s.rxQueue with
    | .waiting call msg, [] => some { s with reader := .clearing call msg }
    | _, _ => none
  | .clear locked =>
    match s.reader with
    | .clearing _ msg =>
      if locked then
        (s.channel.clearReq msg).map fun channel => { s with channel, reader := .free }
      else some { s with reader := .free }
    | _ => none
  | .bridge msg =>
    if s.txQueue = none then
      some { s with channel := (s.build msg).1, txQueue := some ⟨(s.build msg).2, 0⟩ }
    else none
  | .respond msg =>
    if s.txQueue = none ∧ msg.isResponse then
      some { s with txQueue := some ⟨{ msg with call := none }, 0⟩ }
    else none
  | .take disabled =>
    match s.txTask, s.txQueue with
    | .idle, some msg =>
      some { s with txQueue := none, txTask := if disabled then .idle else .taken msg }
    | _, _ => none
  | .drop =>
    match s.txTask with
    | .taken _ => some { s with txTask := .idle }
    | _ => none
  | .transmit now locked mallocOk =>
    match s.txTask with
    | .taken msg => s.transmit msg now locked mallocOk
    | _ => none
  | .written ok =>
    match s.txTask with
    | .writing msg =>
      if ok then some { s with txTask := .idle }
      else if msg.buffer.isResponse then
        some { s with txTask := .requeue { msg with retries := msg.retries + 1 } }
      else some { s with txTask := .failed msg }
    | _ => none
  | .unlink locked =>
    match s.txTask with
    | .failed msg => s.unlink msg locked
    | _ => none
  | .requeue =>
    match s.txTask with
    | .requeue msg =>
      some { s with
        txTask := .idle
        txQueue := if s.txQueue = none then some msg else s.txQueue }
    | _ => none
  | .receive msg =>
    match s.rxTask with
    | none => s.receive msg
    | some _ => none
  | .deliver =>
    match s.rxTask with
    | some response =>
      some { s with
        rxTask := none
        rxQueue := if s.rxQueue.length < ipmbRxqueueLen then s.rxQueue ++ [response]
          else s.rxQueue }
    | none => none
  | .sweep clock => (s.channel.sweep ticks clock).map fun channel => { s with channel }

/-- The call that waits for a response, or has just stopped to, with its request. -/
def IpmbReadPc.active : IpmbReadPc → Option (Nat × IpmiMsg)
  | .waiting call msg | .clearing call msg => some (call, msg)
  | _ => none

/-- What `clear_req_ipmi_msg` leaves on the list. -/
def Channel.cleared (s : Channel) (msg : IpmiMsg) : List IpmiMsg :=
  match takeFirst msg.isSame s.listed with
  | some found => found.2
  | none => s.listed

/-- Nothing of a call is left on its way. -/
def Bus.Settled (s : Bus) (listed : List IpmiMsg) (call : Nat) : Prop :=
  (∀ response ∈ s.rxTask, response.call ≠ some call) ∧ ∀ msg ∈ listed, msg.call ≠ some call

instance Bus.Settled.decidable (s : Bus) (listed : List IpmiMsg) (call : Nat) :
    Decidable (s.Settled listed call) :=
  inferInstanceAs (Decidable
    ((∀ response ∈ s.rxTask, response.call ≠ some call) ∧ ∀ msg ∈ listed, msg.call ≠ some call))

def TxPc.inHand : TxPc → Option IpmiMsgCfg
  | .idle => none
  | .taken msg | .writing msg | .failed msg | .requeue msg => some msg

/-- The condition on a step: other senders do not send in the name of the BIC itself, a request of
`ipmb_read` is inserted only while its call waits, a request that could not be written is not taken
for another call's, and a call returns only when nothing of it is left on the list or with the
receive task. -/
def BusGuard (s : Bus) : BusEvent → Prop
  | .bridge msg => msg.infSource ≠ self
  | .transmit _ locked _ => ∀ msg ∈ s.txTask.inHand, locked = true →
      ∀ call ∈ msg.buffer.call, s.reader.active.map Prod.fst = some call
  | .unlink locked => ∀ msg ∈ s.txTask.inHand, locked = true →
      ∀ found ∈ takeFirst msg.buffer.answers s.channel.listed, found.1.call = msg.buffer.call
  | .get => ∀ caller ∈ s.reader.active, s.Settled s.channel.listed caller.1
  | .clear locked => ∀ caller ∈ s.reader.active,
      s.Settled (if locked then s.channel.cleared caller.2 else s.channel.listed) caller.1
  | _ => True

instance BusGuard.decidable (s : Bus) : (event : BusEvent) → Decidable (BusGuard s event)
  | .bridge _ => inferInstanceAs (Decidable (_ ≠ _))
  | .transmit .. | .unlink _ => inferInstanceAs (Decidable (∀ msg ∈ _, _))
  | .get | .clear _ => inferInstanceAs (Decidable (∀ caller ∈ _, _))
  | .lock _ | .purge | .build _ | .put _ | .timeOut | .respond _ | .take _ | .drop | .written _
  | .requeue | .receive _ | .deliver | .sweep _ => .isTrue trivial

/-- Two requests that a response cannot tell apart. -/
def IpmiMsg.Same (request msg : IpmiMsg) : Prop :=
  msg.netfn = request.netfn ∧ msg.cmd = request.cmd ∧ msg.seq = request.seq

instance (request msg : IpmiMsg) : Decidable (request.Same msg) :=
  inferInstanceAs (Decidable (_ ∧ _ ∧ _))

/-- A message is a response to a request. -/
def IpmiMsg.Answers (request msg : IpmiMsg) : Prop :=
  msg.netfn = request.netfn + 1 ∧ msg.cmd = request.cmd ∧ msg.seq = request.seq

instance (request msg : IpmiMsg) : Decidable (request.Answers msg) :=
  inferInstanceAs (Decidable (_ ∧ _ ∧ _))

/-- What holds of a message that is yet to be sent, when this call waits and these are taken. -/
def Sendable (active : Option (Nat × IpmiMsg)) (taken : Nat) (msg : IpmiMsg) : Prop :=
  (msg.isResponse = false → msg.infSource = self → msg.call ≠ none) ∧
    ∀ call ∈ msg.call, call < taken ∧ ∀ request, active = some (call, request) → request.Same msg

/-- A listed request is the active call's, or another sender's. -/
def Pending (active : Option (Nat × IpmiMsg)) (msg : IpmiMsg) : Prop :=
  (msg.infSource = self → msg.call ≠ none) ∧
    ∀ call ∈ msg.call, ∃ request, active = some (call, request) ∧ request.Same msg ∧
      msg.seqTarget = request.seq

/-- What holds of a response that was matched to a request of this BIC itself. -/
def Matched (active : Option (Nat × IpmiMsg)) (response : IpmiMsg) : Prop :=
  ∃ call request, active = some (call, request) ∧ response.call = some call ∧
    request.Answers response

/-- What the transmit task has in hand. -/
def TxPc.Holds (task : TxPc) (active : Option (Nat × IpmiMsg)) (taken : Nat) : Prop :=
  match task with
  | .idle => True
  | .taken msg | .requeue msg => Sendable active taken msg.buffer
  | .writing msg =>
    Sendable active taken msg.buffer ∧
      (msg.buffer.isResponse = false → msg.buffer.seqTarget = msg.buffer.seq)
  | .failed msg =>
    Sendable active taken msg.buffer ∧ msg.buffer.isResponse = false ∧
      msg.buffer.seqTarget = msg.buffer.seq

/-- What may be in the queue of the caller. -/
def IpmbReadPc.Receives (reader : IpmbReadPc) (queue : List IpmiMsg) : Prop :=
  match reader with
  | .free | .locked _ => True
  | .purged _ | .sending _ => queue = []
  | .waiting call request | .clearing call request =>
    ∀ response ∈ queue, response.call = some call ∧ request.Answers response

/-- What holds in every state. -/
structure Own (s : Bus) : Prop where
  queued : ∀ msg ∈ s.txQueue, Sendable s.reader.active s.nextCall msg.buffer
  task : s.txTask.Holds s.reader.active s.nextCall
  listed : ∀ msg ∈ s.channel.listed, Pending s.reader.active msg
  held : ∀ response ∈ s.rxTask, Matched s.reader.active response
  received : s.reader.Receives s.rxQueue
  taken : ∀ call request, s.reader.active = some (call, request) → call < s.nextCall
  returned : ∀ entry ∈ s.returns,
    entry.2.2.call = some entry.1 ∧ entry.2.1.Answers entry.2.2

theorem own_start : Own Bus.start where
  queued := nofun
  task := trivial
  listed := nofun
  held := nofun
  received := trivial
  taken := nofun
  returned := nofun

section Steps

variable {s t : Bus} {active : Option (Nat × IpmiMsg)} {taken : Nat} {msg request : IpmiMsg}

theorem netfn_succ {request response : UInt8} (odd : response &&& 0x01 = 1)
    (same : request = response &&& 0xFE) : response = request + 1 := by
  have checked : ∀ number : BitVec 8, number &&& 0x01 = 1 → number = (number &&& 0xFE) + 1 := by
    decide
  rw [same]
  exact UInt8.toBitVec_inj.mp (checked response.toBitVec (UInt8.toBitVec_inj.mpr odd))

theorem Sendable.begin (sendable : Sendable none taken msg) :
    Sendable (some (taken, request)) (taken + 1) msg := by
  refine ⟨sendable.1, fun call own => ?_⟩
  have earlier : call < taken := (sendable.2 call own).1
  refine ⟨Nat.lt_succ_of_lt earlier, fun other same => ?_⟩
  obtain ⟨rfl, -⟩ := Prod.mk.inj (Option.some.inj same)
  exact absurd earlier (Nat.lt_irrefl _)

theorem Sendable.finish (sendable : Sendable active taken msg) : Sendable none taken msg :=
  ⟨sendable.1, fun call own => ⟨(sendable.2 call own).1, nofun⟩⟩

theorem TxPc.Holds.imp {task : TxPc} {later : Option (Nat × IpmiMsg)} {bound : Nat}
    (holds : task.Holds active taken)
    (kept : ∀ msg, Sendable active taken msg → Sendable later bound msg) :
    task.Holds later bound := by
  cases task with
  | idle => trivial
  | taken msg => exact kept _ holds
  | writing msg => exact ⟨kept _ holds.1, holds.2⟩
  | failed msg => exact ⟨kept _ holds.1, holds.2⟩
  | requeue msg => exact kept _ holds

theorem Pending.begin (pending : Pending none msg) : Pending active msg := by
  refine ⟨pending.1, fun call own => ?_⟩
  obtain ⟨_, waiting, _⟩ := pending.2 call own
  cases waiting

theorem Pending.finish {call : Nat} (pending : Pending (some (call, request)) msg)
    (other : msg.call ≠ some call) : Pending none msg := by
  refine ⟨pending.1, fun asked own => ?_⟩
  obtain ⟨_, waiting, _⟩ := pending.2 asked own
  obtain ⟨rfl, -⟩ := Prod.mk.inj (Option.some.inj waiting)
  exact absurd own other

theorem listed_hereditary {holds : IpmiMsg → Prop} :
    Hereditary fun channel => ∀ node ∈ channel.listed, holds node := by
  intro channel node before after all listed other member
  have kept : other ∈ before ++ after := member
  apply all
  rw [listed]
  rcases List.mem_append.mp kept with early | late
  · exact mem_append_left _ early
  · exact mem_append_right _ (mem_cons_of_mem _ late)

theorem Channel.mem_insertReq {channel later : Channel} {now : UInt32} {mallocOk : Bool}
    {node : IpmiMsg} (moved : channel.insertReq msg now mallocOk = some later)
    (member : node ∈ later.listed) :
    node ∈ channel.listed ∨ node = { msg with timestamp := now } := by
  obtain ⟨room, evicted, rfl⟩ := Option.map_eq_some_iff.mp moved
  have fewer : ∀ {node}, node ∈ room.listed → node ∈ channel.listed := by
    intro node inRoom
    unfold Channel.evict at evicted
    split at evicted
    · split at evicted
      · obtain ⟨_, same⟩ := Option.ite_none_left_eq_some.mp evicted
        cases same
        exact inRoom
      · rename_i listed
        cases evicted
        rw [listed]
        exact mem_cons_of_mem _ inRoom
    · cases evicted
      exact inRoom
  unfold Channel.link at member
  split at member
  · exact .inl (fewer member)
  · split at member
    · rcases List.mem_append.mp member with before | last
      · exact .inl (fewer before)
      · exact .inr (List.mem_singleton.mp last)
    · exact .inl (fewer member)

theorem Channel.clearReq_listed {channel later : Channel}
    (moved : channel.clearReq msg = some later) : later.listed = channel.cleared msg := by
  unfold Channel.clearReq at moved
  unfold Channel.cleared
  split at moved
  · rename_i found
    cases moved
    rw [found]
    rfl
  · rename_i missing
    obtain ⟨_, same⟩ := Option.ite_none_right_eq_some.mp moved
    cases same
    rw [missing]

theorem Channel.findReq_found {channel later : Channel} {filled : IpmiMsg}
    (moved : channel.findReq msg = some (later, some filled)) :
    ∃ node ∈ channel.listed, msg.answers node = true ∧
      (∃ left, takeFirst msg.answers channel.listed = some (node, left)) ∧
      filled = { msg with
        seqSource := node.seqSource
        pldmInstId := node.pldmInstId
        infSource := node.infSource
        infTarget := node.infTarget
        call := node.call } := by
  unfold Channel.findReq at moved
  split at moved
  · rename_i node left found
    obtain ⟨_, same⟩ := Prod.mk.inj (Option.some.inj moved)
    cases same
    obtain ⟨fits, before, after, listed, _⟩ := takeFirst_eq_some found
    refine ⟨node, ?_, fits, ⟨left, found⟩, rfl⟩
    rw [listed]
    exact mem_append_right _ mem_cons_self
  · obtain ⟨_, same⟩ := Option.ite_none_right_eq_some.mp moved
    cases (Prod.mk.inj (Option.some.inj same)).2

theorem matched_of_find {channel later : Channel} {response : IpmiMsg}
    (pending : ∀ node ∈ channel.listed, Pending active node) (odd : msg.isResponse = true)
    (moved : channel.findReq { msg with seqTarget := msg.seq } = some (later, some response))
    (own : response.infSource = self) : Matched active response := by
  obtain ⟨node, member, fits, _, rfl⟩ := Channel.findReq_found moved
  simp only [IpmiMsg.answers, Bool.and_eq_true, beq_iff_eq] at fits
  obtain ⟨⟨netfn, cmd⟩, seq⟩ := fits
  simp only [IpmiMsg.isResponse, beq_iff_eq] at odd
  have calling : node.call ≠ none := (pending node member).1 own
  obtain ⟨call, isCall⟩ := ne_none_iff_exists'.mp calling
  obtain ⟨request, waiting, same, target⟩ := (pending node member).2 call isCall
  refine ⟨call, request, waiting, isCall, ?_, ?_, ?_⟩
  · show msg.netfn = request.netfn + 1
    rw [← same.1]
    exact netfn_succ odd netfn
  · show msg.cmd = request.cmd
    rw [← cmd, same.2.1]
  · show msg.seq = request.seq
    rw [← seq, target]

theorem Own.finish (own : Own s) {call : Nat} (active : s.reader.active = some (call, request))
    {channel : Channel} (pending : ∀ node ∈ channel.listed, Pending s.reader.active node)
    (settled : s.Settled channel.listed call) (queue : List IpmiMsg)
    {returns : List (Nat × IpmiMsg × IpmiMsg)}
    (returned : ∀ entry ∈ returns,
      entry.2.2.call = some entry.1 ∧ entry.2.1.Answers entry.2.2) :
    Own { s with channel, rxQueue := queue, reader := .free, returns } where
  queued := fun msg member => (own.queued msg member).finish
  task := own.task.imp fun _ => Sendable.finish
  listed := fun node member => by
    have before := pending node member
    rw [active] at before
    exact before.finish (settled.2 node member)
  held := fun response member => by
    obtain ⟨other, _, waiting, same, _⟩ := own.held response member
    rw [active] at waiting
    obtain ⟨rfl, -⟩ := Prod.mk.inj (Option.some.inj waiting)
    exact absurd same (settled.1 response member)
  received := trivial
  taken := nofun
  returned := returned

theorem Own.goto (own : Own s) {reader : IpmbReadPc} {queue : List IpmiMsg}
    (before : s.reader.active = none) (after : reader.active = none)
    (received : reader.Receives queue) : Own { s with reader, rxQueue := queue } := by
  have same : reader.active = s.reader.active := after.trans before.symm
  refine ⟨?_, ?_, ?_, ?_, received, ?_, own.returned⟩
  · show ∀ msg ∈ s.txQueue, Sendable reader.active s.nextCall msg.buffer
    rw [same]
    exact own.queued
  · show s.txTask.Holds reader.active s.nextCall
    rw [same]
    exact own.task
  · show ∀ msg ∈ s.channel.listed, Pending reader.active msg
    rw [same]
    exact own.listed
  · show ∀ response ∈ s.rxTask, Matched reader.active response
    rw [same]
    exact own.held
  · show ∀ call request, reader.active = some (call, request) → call < s.nextCall
    rw [same]
    exact own.taken

theorem Own.relist (own : Own s) {channel : Channel}
    (pending : ∀ node ∈ channel.listed, Pending s.reader.active node) :
    Own { s with channel } :=
  ⟨own.queued, own.task, pending, own.held, own.received, own.taken, own.returned⟩

theorem Own.retask (own : Own s) {task : TxPc} (holds : task.Holds s.reader.active s.nextCall) :
    Own { s with txTask := task } :=
  ⟨own.queued, holds, own.listed, own.held, own.received, own.taken, own.returned⟩

theorem Own.enqueue (own : Own s) {cfg : IpmiMsgCfg}
    (sendable : Sendable s.reader.active s.nextCall cfg.buffer) :
    Own { s with txQueue := some cfg } where
  queued := fun msg member => by
    cases member
    exact sendable
  task := own.task
  listed := own.listed
  held := own.held
  received := own.received
  taken := own.taken
  returned := own.returned

theorem Own.put (own : Own s) (sending : s.reader = .sending msg) :
    Own { s with
      txQueue := some ⟨{ msg with call := some s.nextCall }, 0⟩
      reader := .waiting s.nextCall msg
      nextCall := s.nextCall + 1 } := by
  obtain ⟨queued, task, listed, held, received, taken, returned⟩ := own
  rw [sending] at queued task listed held received
  refine ⟨fun sent member => ?_, task.imp fun _ => Sendable.begin,
    fun node member => (listed node member).begin, fun response member => ?_,
    fun response member => ?_, fun call request waiting => ?_, returned⟩
  · cases member
    refine ⟨fun _ _ => some_ne_none _, fun call same => ?_⟩
    cases same
    refine ⟨Nat.lt_succ_self _, fun request waiting => ?_⟩
    obtain ⟨-, rfl⟩ := Prod.mk.inj (Option.some.inj waiting)
    exact ⟨rfl, rfl, rfl⟩
  · obtain ⟨_, _, waiting, _⟩ := held response member
    cases waiting
  · have empty : s.rxQueue = [] := received
    rw [empty] at member
    cases member
  · obtain ⟨rfl, -⟩ := Prod.mk.inj (Option.some.inj waiting)
    exact Nat.lt_succ_self _

/-- The transmit task inserts a request and goes on to write it. -/
theorem Own.transmit (own : Own s) {cfg : IpmiMsgCfg} {now : UInt32} {locked mallocOk : Bool}
    (inHand : s.txTask = .taken cfg)
    (waits : locked = true → ∀ call ∈ cfg.buffer.call, s.reader.active.map Prod.fst = some call)
    (moved : s.transmit cfg now locked mallocOk = some t) : Own t := by
  have sendable : Sendable s.reader.active s.nextCall cfg.buffer := by
    have task := own.task
    rw [inHand] at task
    exact task
  unfold Bus.transmit at moved
  split at moved
  · rename_i response
    cases moved
    exact own.retask ⟨sendable, fun request => by rw [response] at request; cases request⟩
  · rename_i request
    have written : Own { s with
        txTask := .writing { cfg with
          buffer := { cfg.buffer with seqTarget := cfg.buffer.seq } } } :=
      own.retask ⟨sendable, fun _ => rfl⟩
    split at moved
    · rename_i mutex
      obtain ⟨channel, inserted, rfl⟩ := Option.map_eq_some_iff.mp moved
      apply written.relist
      intro node member
      rcases Channel.mem_insertReq inserted member with before | rfl
      · exact own.listed node before
      · refine ⟨sendable.1 (Bool.of_not_eq_true request), fun call isCall => ?_⟩
        obtain ⟨⟨waiting, asked⟩, active, same⟩ :=
          Option.map_eq_some_iff.mp (waits mutex call isCall)
        obtain rfl : waiting = call := same
        have fits : asked.Same cfg.buffer := (sendable.2 waiting isCall).2 asked active
        exact ⟨asked, active, fits, fits.2.2⟩
    · cases moved
      exact written

theorem Own.again (own : Own s) {cfg : IpmiMsgCfg}
    (sendable : Sendable s.reader.active s.nextCall cfg.buffer) : Own (s.again cfg) := by
  unfold Bus.again
  split
  · have idle : TxPc.idle.Holds s.reader.active s.nextCall := trivial
    exact own.retask idle
  · have back : (TxPc.requeue cfg).Holds s.reader.active s.nextCall := sendable
    exact own.retask back

theorem Own.unlink (own : Own s) {cfg : IpmiMsgCfg} {locked : Bool}
    (failed : s.txTask = .failed cfg)
    (alone : locked = true →
      ∀ found ∈ takeFirst cfg.buffer.answers s.channel.listed, found.1.call = cfg.buffer.call)
    (moved : s.unlink cfg locked = some t) : Own t := by
  have sendable : Sendable s.reader.active s.nextCall cfg.buffer := by
    have task := own.task
    rw [failed] at task
    exact task.1
  unfold Bus.unlink at moved
  split at moved
  · rename_i mutex
    obtain ⟨⟨channel, filled⟩, looked, rfl⟩ := Option.map_eq_some_iff.mp moved
    have relisted : Own { s with channel } :=
      own.relist (listed_hereditary.find own.listed looked)
    apply relisted.again
    cases filled with
    | none => exact sendable
    | some filled =>
      obtain ⟨node, member, _, ⟨left, found⟩, rfl⟩ := Channel.findReq_found looked
      have same : node.call = cfg.buffer.call := alone mutex _ found
      refine ⟨fun _ self => ?_, sendable.2⟩
      show cfg.buffer.call ≠ none
      rw [← same]
      exact (own.listed node member).1 self
  · cases moved
    exact own.again sendable

theorem Own.receive (own : Own s) (moved : s.receive msg = some t) : Own t := by
  unfold Bus.receive at moved
  split at moved
  · rename_i odd
    obtain ⟨⟨channel, filled⟩, looked, rfl⟩ := Option.map_eq_some_iff.mp moved
    have relisted : Own { s with channel } :=
      own.relist (listed_hereditary.find own.listed looked)
    refine ⟨relisted.queued, relisted.task, relisted.listed, fun response member => ?_,
      relisted.received, relisted.taken, relisted.returned⟩
    obtain ⟨rfl, addressed⟩ := Option.filter_eq_some_iff.mp member
    exact matched_of_find own.listed odd looked (beq_iff_eq.mp addressed)
  · cases moved
    exact own

theorem Own.deliver (own : Own s) {response : IpmiMsg} (held : s.rxTask = some response) :
    Own { s with
      rxTask := none
      rxQueue := if s.rxQueue.length < ipmbRxqueueLen then s.rxQueue ++ [response]
        else s.rxQueue } := by
  refine ⟨own.queued, own.task, own.listed, fun _ member => (by cases member), ?_, own.taken,
    own.returned⟩
  show s.reader.Receives _
  split
  · obtain ⟨call, request, active, same, answers⟩ := own.held response held
    have received := own.received
    cases reader : s.reader with
    | free | locked msg | purged msg | sending msg =>
      rw [reader] at active
      cases active
    | waiting asked asking | clearing asked asking =>
      rw [reader] at active received
      cases active
      intro other member
      rcases List.mem_append.mp member with before | last
      · exact received other before
      · rw [List.mem_singleton.mp last]
        exact ⟨same, answers⟩
  · exact own.received

end Steps

/-- A guarded event keeps every caller with its own request. -/
theorem own_step {ticks : Ticks} {s t : Bus} {event : BusEvent} (own : Own s)
    (guarded : BusGuard s event) (moved : busStep ticks s event = some t) : Own t := by
  cases event with
  | lock msg =>
    simp only [busStep] at moved
    split at moved
    · rename_i free
      cases moved
      exact own.goto (by rw [free]; rfl) rfl trivial
    · cases moved
  | purge =>
    simp only [busStep] at moved
    split at moved
    · rename_i msg locked
      cases moved
      exact own.goto (by rw [locked]; rfl) rfl rfl
    · cases moved
  | build locked =>
    simp only [busStep] at moved
    split at moved
    · rename_i msg purged
      have idle : s.reader.active = none := by rw [purged]; rfl
      have received := own.received
      rw [purged] at received
      split at moved
      · cases moved
        have sent : IpmbReadPc.Receives (.sending (s.build msg).2) s.rxQueue := received
        have pending : ∀ node ∈ (s.build msg).1.listed, Pending none node := by
          rw [← idle]
          exact own.listed
        exact (own.goto idle rfl sent).relist pending
      · cases moved
        exact own.goto idle rfl trivial
    · cases moved
  | put ok =>
    simp only [busStep] at moved
    split at moved
    · rename_i msg sending
      split at moved
      · obtain ⟨_, same⟩ := Option.ite_none_right_eq_some.mp moved
        cases same
        exact own.put sending
      · cases moved
        exact own.goto (by rw [sending]; rfl) rfl trivial
    · cases moved
  | get =>
    simp only [busStep] at moved
    split at moved
    · rename_i call msg response rest waiting queue
      cases moved
      have active : s.reader.active = some (call, msg) := by rw [waiting]; rfl
      apply own.finish active own.listed (guarded _ active) rest
      intro entry member
      rcases List.mem_append.mp member with before | last
      · exact own.returned entry before
      · obtain rfl := List.mem_singleton.mp last
        have received := own.received
        rw [waiting, queue] at received
        exact received response mem_cons_self
    · cases moved
  | timeOut =>
    simp only [busStep] at moved
    split at moved
    · rename_i call msg waiting queue
      cases moved
      obtain ⟨queued, task, listed, held, received, taken, returned⟩ := own
      rw [waiting] at queued task listed held received taken
      exact ⟨queued, task, listed, held, received, taken, returned⟩
    · cases moved
  | clear locked =>
    simp only [busStep] at moved
    split at moved
    · rename_i call msg clearing
      have active : s.reader.active = some (call, msg) := by rw [clearing]; rfl
      have settled := guarded _ active
      split at moved
      · rename_i mutex
        obtain ⟨channel, cleared, rfl⟩ := Option.map_eq_some_iff.mp moved
        rw [if_pos mutex, ← Channel.clearReq_listed cleared] at settled
        exact own.finish active (listed_hereditary.clear own.listed cleared) settled s.rxQueue
          own.returned
      · rename_i mutex
        cases moved
        rw [if_neg mutex] at settled
        exact own.finish active own.listed settled s.rxQueue own.returned
    · cases moved
  | bridge msg =>
    obtain ⟨_, same⟩ := Option.ite_none_right_eq_some.mp moved
    cases same
    have sendable : Sendable s.reader.active s.nextCall (s.build msg).2 :=
      ⟨fun _ self => absurd self guarded, nofun⟩
    have listed : ∀ node ∈ (s.build msg).1.listed, Pending s.reader.active node := own.listed
    exact (own.enqueue sendable).relist listed
  | respond msg =>
    obtain ⟨⟨_, response⟩, same⟩ := Option.ite_none_right_eq_some.mp moved
    cases same
    apply own.enqueue
    refine ⟨fun request => ?_, nofun⟩
    rw [show ({ msg with call := none } : IpmiMsg).isResponse = msg.isResponse from rfl,
      response] at request
    cases request
  | take disabled =>
    simp only [busStep] at moved
    split at moved
    · rename_i msg idle queue
      cases moved
      refine ⟨fun _ member => (by cases member), ?_, own.listed, own.held, own.received, own.taken,
        own.returned⟩
      cases disabled with
      | true => trivial
      | false => exact own.queued msg queue
    · cases moved
  | drop =>
    simp only [busStep] at moved
    split at moved
    · cases moved
      have idle : TxPc.idle.Holds s.reader.active s.nextCall := trivial
      exact own.retask idle
    · cases moved
  | transmit now locked mallocOk =>
    simp only [busStep] at moved
    split at moved
    · rename_i msg taken
      exact own.transmit taken (guarded msg (by rw [taken]; rfl)) moved
    · cases moved
  | written ok =>
    simp only [busStep] at moved
    split at moved
    · rename_i msg writing
      have task := own.task
      rw [writing] at task
      split at moved
      · cases moved
        have idle : TxPc.idle.Holds s.reader.active s.nextCall := trivial
        exact own.retask idle
      · split at moved
        · cases moved
          exact own.retask task.1
        · rename_i request
          cases moved
          have even := Bool.of_not_eq_true request
          exact own.retask ⟨task.1, even, task.2 even⟩
    · cases moved
  | unlink locked =>
    simp only [busStep] at moved
    split at moved
    · rename_i msg failed
      exact own.unlink failed (guarded msg (by rw [failed]; rfl)) moved
    · cases moved
  | requeue =>
    simp only [busStep] at moved
    split at moved
    · rename_i msg back
      cases moved
      have idle : TxPc.idle.Holds s.reader.active s.nextCall := trivial
      have task := own.task
      rw [back] at task
      split
      · exact (own.enqueue task).retask idle
      · exact own.retask idle
    · cases moved
  | receive msg =>
    simp only [busStep] at moved
    split at moved
    · exact own.receive moved
    · cases moved
  | deliver =>
    simp only [busStep] at moved
    split at moved
    · rename_i response held
      cases moved
      exact own.deliver held
    · cases moved
  | sweep clock =>
    obtain ⟨channel, swept, rfl⟩ := Option.map_eq_some_iff.mp moved
    exact own.relist (listed_hereditary.sweep own.listed swept)

/-! ## The target -/

/-- A channel and its target. -/
structure Line where
  bus : Bus
  /-- The target has the message that is in `i2c_master_write`. -/
  reached : Bool
  /-- The requests that the target has and has not answered. -/
  asked : List IpmiMsg

def Line.start : Line := ⟨.start, false, []⟩

/-- What can happen on a channel with a target. -/
inductive LineEvent where
  /-- Everything but a message from the bus. -/
  | task (event : BusEvent)
  /-- The target gets the request that is written. -/
  | reach
  | answer (asked : IpmiMsg)
  /-- The target, or the bus, drops a request or its response. -/
  | lose (asked : IpmiMsg)
  /-- A message that answers no request the target has. -/
  | stray (msg : IpmiMsg)

def BusEvent.begins : BusEvent → Bool
  | .transmit .. => true
  | _ => false

def BusEvent.receives : BusEvent → Bool
  | .receive _ => true
  | _ => false

def decoded (netfn cmd : UInt8) (seq : Seq) : IpmiMsg :=
  { netfn, cmd, seq, seqSource := 0, seqTarget := seq, pldmInstId := 0, infSource := 0,
    infTarget := 0, timestamp := 0, call := none }

/-- The target's response to a request. -/
def IpmiMsg.reply (asked : IpmiMsg) : IpmiMsg :=
  { decoded (asked.netfn + 1) asked.cmd asked.seq with origin := asked.call }

def lineStep (ticks : Ticks) (s : Line) : LineEvent → Option Line
  | .task event =>
    if event.receives then none
    else
      (busStep ticks s.bus event).map fun bus =>
        { s with bus, reached := s.reached && !event.begins }
  | .reach =>
    match s.bus.txTask with
    | .writing msg =>
      if s.reached ∨ msg.buffer.isResponse then none
      else some { s with reached := true, asked := s.asked ++ [msg.buffer] }
    | _ => none
  | .answer asked =>
    if asked ∈ s.asked then
      (busStep ticks s.bus (.receive asked.reply)).map fun bus =>
        { s with bus, asked := s.asked.erase asked }
    else none
  | .lose asked => if asked ∈ s.asked then some { s with asked := s.asked.erase asked } else none
  | .stray msg =>
    (busStep ticks s.bus (.receive { msg with origin := none })).map fun bus => { s with bus }

/-- The condition on a step with the target: besides the one on the tasks, a request is written
only while no request of another call with its net function, command and number is pending or may
still be answered, and the target sends nothing that it was not asked for and that fits a pending
request of `ipmb_read`. -/
def LineGuard (s : Line) : LineEvent → Prop
  | .task event => BusGuard s.bus event ∧ (event.begins = true →
      ∀ cfg ∈ s.bus.txTask.inHand, cfg.buffer.isResponse = false →
        ∀ other ∈ s.bus.channel.listed ++ s.asked, cfg.buffer.Same other →
          other.call = cfg.buffer.call)
  | .stray msg => msg.isResponse = true →
      ∀ found ∈ takeFirst { msg with seqTarget := msg.seq }.answers s.bus.channel.listed,
        found.1.infSource ≠ self
  | _ => True

instance LineGuard.decidable (s : Line) : (event : LineEvent) → Decidable (LineGuard s event)
  | .task _ => inferInstanceAs (Decidable (BusGuard _ _ ∧ (_ → ∀ cfg ∈ _, _)))
  | .stray _ => inferInstanceAs (Decidable (_ → ∀ found ∈ _, _))
  | .reach | .answer _ | .lose _ => .isTrue trivial

/-- The responses that were matched to a request of this BIC itself. -/
def Bus.responses (s : Bus) : List IpmiMsg :=
  s.rxTask.toList ++ s.rxQueue ++ s.returns.map fun entry => entry.2.2

/-- What every step but an insertion and a message from the bus leaves: nothing is added to the
list, no write is begun and no response is matched. -/
structure Bus.Leaves (s t : Bus) : Prop where
  listed : ∀ node ∈ t.channel.listed, node ∈ s.channel.listed
  writing : ∀ cfg, t.txTask = .writing cfg → s.txTask = .writing cfg
  responses : ∀ response ∈ t.responses, response ∈ s.responses

section Leaving

variable {s t : Bus}

/-- A step that turns to another place in the code of the transmit task. -/
theorem Bus.leaves_retask {channel : Channel} {queue : Option IpmiMsgCfg} {task : TxPc}
    (listed : ∀ node ∈ channel.listed, node ∈ s.channel.listed)
    (elsewhere : ∀ cfg, task ≠ .writing cfg) :
    s.Leaves { s with channel, txQueue := queue, txTask := task } :=
  ⟨listed, fun cfg same => absurd same (elsewhere cfg), fun _ => id⟩

theorem Bus.leaves_unlink {cfg : IpmiMsgCfg} {locked : Bool}
    (moved : s.unlink cfg locked = some t) : s.Leaves t := by
  have again : ∀ (channel : Channel) (back : IpmiMsgCfg),
      (∀ node ∈ channel.listed, node ∈ s.channel.listed) →
      s.Leaves ({ s with channel }.again back) := by
    intro channel back listed
    unfold Bus.again
    split
    · exact leaves_retask listed nofun
    · exact leaves_retask listed nofun
  unfold Bus.unlink at moved
  split at moved
  · obtain ⟨⟨channel, filled⟩, looked, rfl⟩ := Option.map_eq_some_iff.mp moved
    exact again channel _ (listed_hereditary.find (fun _ => id) looked)
  · cases moved
    exact again s.channel _ fun _ => id

/-- The step of a reader that loses responses or hands one to its call. -/
theorem Bus.leaves_read {channel : Channel} {reader : IpmbReadPc} {queue : List IpmiMsg}
    {returns : List (Nat × IpmiMsg × IpmiMsg)}
    (listed : ∀ node ∈ channel.listed, node ∈ s.channel.listed)
    (fewer : ∀ response ∈ queue ++ returns.map fun entry => entry.2.2,
      response ∈ s.responses) :
    s.Leaves { s with channel, reader, rxQueue := queue, returns } := by
  refine ⟨listed, fun _ => id, fun response member => ?_⟩
  have split : response ∈ s.rxTask.toList ++ queue ++ returns.map fun entry => entry.2.2 := member
  rw [append_assoc] at split
  rcases List.mem_append.mp split with held | later
  · exact mem_append_left _ (mem_append_left _ held)
  · exact fewer response later

/-- An event that neither begins a call nor receives leaves the requests that were made. -/
theorem Bus.leaves_step {ticks : Ticks} {event : BusEvent} (later : event.begins = false)
    (own : event.receives = false) (moved : busStep ticks s event = some t) : s.Leaves t := by
  have kept : ∀ response ∈ s.rxQueue ++ s.returns.map fun entry => entry.2.2,
      response ∈ s.responses := by
    intro response member
    rw [Bus.responses, append_assoc]
    exact mem_append_right _ member
  cases event with
  | transmit now locked mallocOk => cases later
  | receive msg => cases own
  | lock msg | timeOut =>
    simp only [busStep] at moved
    split at moved
    · cases moved
      exact leaves_read (fun _ => id) kept
    · cases moved
  | build locked =>
    simp only [busStep] at moved
    split at moved
    · split at moved <;> cases moved <;> exact leaves_read (fun _ => id) kept
    · cases moved
  | purge =>
    simp only [busStep] at moved
    split at moved
    · cases moved
      refine leaves_read (fun _ => id) fun response member => ?_
      exact kept response (mem_append_right _ member)
    · cases moved
  | put ok =>
    simp only [busStep] at moved
    split at moved
    · split at moved
      · obtain ⟨_, same⟩ := Option.ite_none_right_eq_some.mp moved
        cases same
        exact ⟨fun _ => id, fun _ => id, fun _ => id⟩
      · cases moved
        exact leaves_read (fun _ => id) kept
    · cases moved
  | get =>
    simp only [busStep] at moved
    split at moved
    · rename_i call msg response rest waiting queue
      cases moved
      refine leaves_read (fun _ => id) fun other member => kept other ?_
      rw [queue]
      simp only [map_append, map_cons, map_nil, mem_append, mem_cons,
        not_mem_nil, or_false] at member ⊢
      tauto
    · cases moved
  | clear locked =>
    simp only [busStep] at moved
    split at moved
    · split at moved
      · obtain ⟨channel, cleared, rfl⟩ := Option.map_eq_some_iff.mp moved
        exact leaves_read (listed_hereditary.clear (fun _ => id) cleared) kept
      · cases moved
        exact leaves_read (fun _ => id) kept
    · cases moved
  | bridge msg | respond msg =>
    obtain ⟨_, same⟩ := Option.ite_none_right_eq_some.mp moved
    cases same
    exact ⟨fun _ => id, fun _ => id, fun _ => id⟩
  | take disabled =>
    simp only [busStep] at moved
    split at moved
    · cases moved
      refine leaves_retask (fun _ => id) fun cfg same => ?_
      cases disabled <;> cases same
    · cases moved
  | drop | requeue =>
    simp only [busStep] at moved
    split at moved
    · cases moved
      exact leaves_retask (fun _ => id) nofun
    · cases moved
  | written ok =>
    simp only [busStep] at moved
    split at moved
    · split at moved
      · cases moved
        exact leaves_retask (fun _ => id) nofun
      · split at moved <;> cases moved <;>
          exact leaves_retask (fun _ => id) nofun
    · cases moved
  | unlink locked =>
    simp only [busStep] at moved
    split at moved
    · exact leaves_unlink moved
    · cases moved
  | deliver =>
    simp only [busStep] at moved
    split at moved
    · rename_i response held
      cases moved
      refine ⟨fun _ => id, fun _ => id, fun other member => ?_⟩
      simp only [Bus.responses, held, toList_none, toList_some, nil_append,
        mem_append] at member ⊢
      rcases member with queued | returned
      · split at queued
        · rcases List.mem_append.mp queued with before | last
          · exact .inl (.inr before)
          · exact .inl (.inl last)
        · exact .inl (.inr queued)
      · exact .inr returned
    · cases moved
  | sweep clock =>
    obtain ⟨channel, swept, rfl⟩ := Option.map_eq_some_iff.mp moved
    exact leaves_read (listed_hereditary.sweep (fun _ => id) swept) kept

end Leaving

/-- What holds in every state of a channel with its target. -/
structure Traced (s : Line) : Prop where
  own : Own s.bus
  /-- A pending request that an answer of the target fits is the one that it answers. -/
  paired : ∀ item ∈ s.asked, ∀ node ∈ s.bus.channel.listed, item.Same node → node.call = item.call
  alone : ∀ cfg, s.bus.txTask = .writing cfg → cfg.buffer.isResponse = false →
    ∀ node ∈ s.bus.channel.listed, cfg.buffer.Same node → node.call = cfg.buffer.call
  origins : ∀ response ∈ s.bus.responses, response.origin = response.call

theorem traced_start : Traced Line.start where
  own := own_start
  paired := nofun
  alone := nofun
  origins := nofun

section Tracing

variable {s : Line} {bus : Bus}

theorem Traced.leave (traced : Traced s) (own : Own bus) (leaves : s.bus.Leaves bus)
    (reached : Bool) : Traced { s with bus, reached } where
  own := own
  paired := fun item asked node member => traced.paired item asked node (leaves.listed node member)
  alone := fun cfg writing request node member =>
    traced.alone cfg (leaves.writing cfg writing) request node (leaves.listed node member)
  origins := fun response member => traced.origins response (leaves.responses response member)

/-- A request is written only while every other that fits it is of the same call. -/
theorem Traced.transmit (traced : Traced s) {cfg : IpmiMsgCfg} {now : UInt32}
    {locked mallocOk : Bool} (own : Own bus)
    (only : cfg.buffer.isResponse = false →
      ∀ other ∈ s.bus.channel.listed ++ s.asked, cfg.buffer.Same other →
        other.call = cfg.buffer.call)
    (moved : s.bus.transmit cfg now locked mallocOk = some bus) (reached : Bool) :
    Traced { s with bus, reached } := by
  unfold Bus.transmit at moved
  split at moved
  · rename_i response
    cases moved
    refine ⟨own, traced.paired, fun other same request => ?_, traced.origins⟩
    cases same
    exact absurd (response.symm.trans request) (by decide)
  · rename_i request
    have apart := only (Bool.of_not_eq_true request)
    split at moved
    · obtain ⟨channel, inserted, rfl⟩ := Option.map_eq_some_iff.mp moved
      refine ⟨own, fun item asked node member same => ?_, fun other same _ node member fits => ?_,
        traced.origins⟩
      · rcases Channel.mem_insertReq inserted member with old | rfl
        · exact traced.paired item asked node old same
        · have back : cfg.buffer.Same item := ⟨same.1.symm, same.2.1.symm, same.2.2.symm⟩
          exact (apart item (mem_append_right _ asked) back).symm
      · cases same
        rcases Channel.mem_insertReq inserted member with old | rfl
        · exact apart node (mem_append_left _ old) fits
        · rfl
    · cases moved
      refine ⟨own, traced.paired, fun other same _ node member fits => ?_, traced.origins⟩
      cases same
      exact apart node (mem_append_left _ member) fits

/-- A message from the bus leaves all but the response that is matched to a request of this BIC
itself, and that one is of the call whose request the target answered. -/
theorem Traced.receive (traced : Traced s) {msg : IpmiMsg} (own : Own bus) {asked : List IpmiMsg}
    (fewer : ∀ item ∈ asked, item ∈ s.asked)
    (answers : msg.isResponse = true → ∀ node ∈ s.bus.channel.listed, node.infSource = self →
      (∃ left, takeFirst { msg with seqTarget := msg.seq }.answers s.bus.channel.listed =
        some (node, left)) → msg.origin = node.call)
    (moved : s.bus.receive msg = some bus) : Traced { s with bus, asked } := by
  unfold Bus.receive at moved
  split at moved
  · rename_i odd
    obtain ⟨⟨channel, filled⟩, looked, rfl⟩ := Option.map_eq_some_iff.mp moved
    have listed : ∀ node ∈ channel.listed, node ∈ s.bus.channel.listed :=
      listed_hereditary.find (fun _ => id) looked
    refine ⟨own, fun item member node there => traced.paired item (fewer item member) node
      (listed node there), fun cfg writing request node there => traced.alone cfg writing request
      node (listed node there), fun response member => ?_⟩
    rw [Bus.responses, append_assoc] at member
    rcases List.mem_append.mp member with matched | old
    · obtain ⟨rfl, addressed⟩ := Option.filter_eq_some_iff.mp (Option.mem_toList.mp matched)
      obtain ⟨node, there, -, found, rfl⟩ := Channel.findReq_found looked
      exact answers odd node there (beq_iff_eq.mp addressed) found
    · apply traced.origins
      rw [Bus.responses, append_assoc]
      exact mem_append_right _ old
  · cases moved
    exact ⟨own, fun item member => traced.paired item (fewer item member), traced.alone,
      traced.origins⟩

/-- The target's response to a request fits no pending request of this BIC itself but those of the
same call. -/
theorem Traced.answer (traced : Traced s) {item node : IpmiMsg} {left : List IpmiMsg}
    (asked : item ∈ s.asked) (odd : item.reply.isResponse = true)
    (there : node ∈ s.bus.channel.listed) (addressed : node.infSource = self)
    (found : takeFirst { item.reply with seqTarget := item.reply.seq }.answers
      s.bus.channel.listed = some (node, left)) : item.reply.origin = node.call := by
  have fits := (takeFirst_eq_some found).1
  simp only [IpmiMsg.answers, Bool.and_eq_true, beq_iff_eq] at fits
  obtain ⟨⟨netfn, cmd⟩, seq⟩ := fits
  have pending := traced.own.listed node there
  obtain ⟨call, isCall⟩ := ne_none_iff_exists'.mp (pending.1 addressed)
  obtain ⟨request, -, same, target⟩ := pending.2 call isCall
  have number : node.seqTarget = node.seq := target.trans same.2.2.symm
  simp only [IpmiMsg.isResponse, beq_iff_eq] at odd
  have next : item.netfn + 1 = node.netfn + 1 := netfn_succ odd netfn
  have fitting : item.Same node := ⟨((UInt8.add_left_inj _).mp next).symm, cmd, number.symm.trans seq⟩
  exact (traced.paired item asked node there fitting).symm

end Tracing

/-- A guarded event of the line keeps each response with the request it answers. -/
theorem traced_step {ticks : Ticks} {s t : Line} {event : LineEvent} (traced : Traced s)
    (guarded : LineGuard s event) (moved : lineStep ticks s event = some t) : Traced t := by
  cases event with
  | task event =>
    obtain ⟨own, same⟩ := Option.ite_none_left_eq_some.mp moved
    obtain ⟨bus, stepped, rfl⟩ := Option.map_eq_some_iff.mp same
    have kept := own_step traced.own guarded.1 stepped
    by_cases begins : event.begins = true
    · cases event with
      | transmit now locked mallocOk =>
        simp only [busStep] at stepped
        split at stepped
        · rename_i cfg taken
          exact traced.transmit kept (guarded.2 rfl cfg (by rw [taken]; rfl)) stepped _
        · cases stepped
      | _ => cases begins
    · exact traced.leave kept (Bus.leaves_step (Bool.of_not_eq_true begins)
        (Bool.of_not_eq_true own) stepped) _
  | reach =>
    simp only [lineStep] at moved
    split at moved
    · rename_i cfg writing
      obtain ⟨first, same⟩ := Option.ite_none_left_eq_some.mp moved
      cases same
      rw [not_or, Bool.not_eq_true, Bool.not_eq_true] at first
      refine ⟨traced.own, fun item member node there same => ?_, traced.alone, traced.origins⟩
      rcases List.mem_append.mp member with before | last
      · exact traced.paired item before node there same
      · obtain rfl := List.mem_singleton.mp last
        exact traced.alone cfg writing first.2 node there same
    · cases moved
  | answer item =>
    obtain ⟨asked, same⟩ := Option.ite_none_right_eq_some.mp moved
    obtain ⟨bus, stepped, rfl⟩ := Option.map_eq_some_iff.mp same
    have kept : Own bus := @own_step ticks s.bus bus (.receive item.reply) traced.own trivial stepped
    simp only [busStep] at stepped
    split at stepped
    · exact traced.receive kept (fun _ member => mem_of_mem_erase member)
        (fun odd node there addressed ⟨_, found⟩ =>
          traced.answer asked odd there addressed found) stepped
    · cases stepped
  | lose item =>
    obtain ⟨asked, same⟩ := Option.ite_none_right_eq_some.mp moved
    cases same
    exact ⟨traced.own, fun item member => traced.paired item (mem_of_mem_erase member),
      traced.alone, traced.origins⟩
  | stray msg =>
    obtain ⟨bus, stepped, rfl⟩ := Option.map_eq_some_iff.mp moved
    have kept : Own bus := @own_step ticks s.bus bus (.receive _) traced.own trivial stepped
    simp only [busStep] at stepped
    split at stepped
    · refine traced.receive kept (fun _ => id) ?_ stepped
      rintro odd node - addressed ⟨_, found⟩
      exact absurd addressed (guarded odd _ found)
    · cases stepped

/-- In every guarded run, a call that returns success returns the response to its own request: one
with the request's net function, command and number, which the target gave to that request. -/
theorem ipmbRead_own {ticks : Ticks} {events : List LineEvent} {s : Line}
    (guarded : Meets (lineStep ticks) LineGuard Line.start events)
    (ran : run (lineStep ticks) Line.start events = some s) :
    ∀ call request response, (call, request, response) ∈ s.bus.returns →
      response.call = some call ∧ request.Answers response ∧ response.origin = some call := by
  have kept : ∀ {s event t}, Traced s → LineGuard s event → lineStep ticks s event = some t →
      Traced t := traced_step
  have traced := invariant kept traced_start guarded ran
  intro call request response member
  obtain ⟨own, answers⟩ := traced.own.returned _ member
  have there : response ∈ s.bus.responses :=
    mem_append_right _ (List.mem_map.mpr ⟨_, member, rfl⟩)
  exact ⟨own, answers, (traced.origins response there).trans own⟩

/-- The steps of `ipmb_read` up to the wait. -/
def asked (msg : IpmiMsg) : List LineEvent :=
  [.task (.lock msg), .task .purge, .task (.build true), .task (.put true)]

def sent : List LineEvent :=
  [.task (.take false), .task (.transmit 10 true true), .reach, .task (.written true)]

/-- The request of a call with its number, as the target has it. -/
def askedOf (call : Nat) : IpmiMsg := { request (Fin.ofNat 64 (call + 1)) with call := some call }

def answered (call : Nat) : List LineEvent :=
  asked (request 0) ++ sent ++ [.answer (askedOf call), .task .deliver, .task .get]

/-- One call gets its response, in the second try; another times out, and its response is late. -/
def twoCalls : List LineEvent :=
  asked (request 0) ++ [.task (.take false), .task (.transmit 10 true true),
    .task (.written false), .task (.unlink true), .task .requeue] ++
    sent ++ [.answer (askedOf 0), .task .deliver, .task .get] ++
    asked (request 0) ++ sent ++ [.task .timeOut, .task (.clear true), .answer (askedOf 1)]

/-- The first call returned the response to its request. -/
theorem ipmbRead_own_twoCalls :
    ∃ s, run (lineStep Ticks.thousand) Line.start twoCalls = some s ∧ s.bus.returns.length = 1 ∧
      ∀ call request response, (call, request, response) ∈ s.bus.returns →
        response.call = some call ∧ request.Answers response ∧ response.origin = some call := by
  have guarded : Meets (lineStep Ticks.thousand) LineGuard Line.start twoCalls := by
    decide +kernel
  have reached : ∃ s ∈ run (lineStep Ticks.thousand) Line.start twoCalls,
      s.bus.returns.length = 1 := by
    decide +kernel
  obtain ⟨s, ran, returned⟩ := reached
  exact ⟨s, ran, returned, ipmbRead_own guarded ran⟩

/-- A call times out before the transmit task inserts its request; the response comes when the next
call waits. -/
def lateInsertion : List LineEvent :=
  asked (request 0) ++ [.task (.take false), .task .timeOut, .task (.clear true),
    .task (.transmit 10 true true), .reach, .task (.written true)] ++
    asked (request 0) ++ [.answer (askedOf 0), .task .deliver, .task .get]

/-- The target is slow: a call times out, sixty-three others are answered, the next has the number
again, and then the target answers the first. -/
def numberReused : List LineEvent :=
  asked (request 0) ++ sent ++ [.task .timeOut, .task (.clear true)] ++
    ((List.range 63).flatMap fun index => answered (index + 1)) ++
    asked (request 0) ++ sent ++ [.answer (askedOf 0), .task .deliver, .task .get]

/-- The next call returns the response to the request that timed out. -/
theorem lateInsertion_stale :
    (∃ s, run (lineStep Ticks.thousand) Line.start lateInsertion = some s ∧
      ∃ entry ∈ s.bus.returns, ¬ entry.2.1.Answers entry.2.2 ∧ entry.1 = 1 ∧
        entry.2.2.origin = some 0) ∧
    ∃ s, run (lineStep Ticks.thousand) Line.start numberReused = some s ∧
      ∃ entry ∈ s.bus.returns, entry.2.1.Answers entry.2.2 ∧ entry.1 = 64 ∧
        entry.2.2.origin = some 0 := by
  have first : ∃ s ∈ run (lineStep Ticks.thousand) Line.start lateInsertion,
      ∃ entry ∈ s.bus.returns, ¬ entry.2.1.Answers entry.2.2 ∧ entry.1 = 1 ∧
        entry.2.2.origin = some 0 := by
    decide +kernel
  have second : ∃ s ∈ run (lineStep Ticks.thousand) Line.start numberReused,
      ∃ entry ∈ s.bus.returns, entry.2.1.Answers entry.2.2 ∧ entry.1 = 64 ∧
        entry.2.2.origin = some 0 := by
    decide +kernel
  exact ⟨first, second⟩

end OpenBic.Ipmb
