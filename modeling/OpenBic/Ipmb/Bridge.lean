import OpenBic.Ipmb.Read

/-!
# Bridged requests

Requests of several interfaces on one channel, and the responses that `IPMB_RXTask` forwards to
them. The transmit task is the one of `Ipmb.Read`. Beside the state stand the requests in the order
they were accepted, those that the target has and has not answered, and what was forwarded; a
request's mark is its place in that order.
-/

namespace OpenBic.Ipmb

open List Option

open Library.Machine

def meIpmb : UInt8 := 0x01

def pldm : UInt8 := 0x40

def mctp : UInt8 := 0x41

def mproPldm : UInt8 := 0x42

def hostKcs1 : UInt8 := 0x50

def netfnOem1sReq : UInt8 := 0x38

def cmdOem1sMsgOut : UInt8 := 0x02

/-- A response from the target. -/
structure IpmbResponse where
  msg : IpmiMsg
  completionCode : UInt8
  /-- The first `data_len` bytes of `data`. -/
  data : List UInt8

/-- Where a response goes. -/
inductive Route where
  /-- `ipmb_rxqueue` of the channel of this interface. -/
  | rxQueue (infTarget : UInt8)
  | kcs (index : UInt8)
  | mpro (instId : UInt8)
  /-- `ipmb_send_response` on the channel of this interface. -/
  | ipmb (interface seq : UInt8)
  | pldm (interface instId : UInt8)

/-- A response on its way to the source of a request. -/
structure Outgoing where
  route : Route
  netfn : UInt8
  cmd : UInt8
  completionCode : UInt8
  data : List UInt8

/-- What the platform sets for a channel. -/
structure BridgeConfig where
  /-- The bytes of `IANA_ID`. -/
  iana : List UInt8
  /-- `channel`, in the channel's `IPMB_config`. -/
  channel : UInt8
  netfnShift : Bool
  kcs : Bool
  mpro : Bool
  immediate : UInt8 → UInt8 → Bool

def BridgeConfig.innerNetfn (config : BridgeConfig) (netfn : UInt8) : UInt8 :=
  if config.netfnShift then netfn <<< 2 else netfn

/-- The data of `pal_encode_response_bridge_cmd`. -/
def BridgeConfig.encode (config : BridgeConfig) (netfn cmd cc : UInt8) (data : List UInt8) :
    List UInt8 :=
  config.iana ++ config.channel :: config.innerNetfn netfn :: cmd :: cc :: data

/-- `IPMB_RXTask` with a response whose request it found; some need memory or room in a queue. -/
def forward (config : BridgeConfig) (response : IpmbResponse) (room : Bool) : Option Outgoing :=
  let msg := response.msg
  let cc := response.completionCode
  let data := response.data
  if msg.infSource = self then
    if room then some ⟨.rxQueue msg.infTarget, msg.netfn, msg.cmd, cc, data⟩ else none
  else if msg.infSource &&& 0xF0 = hostKcs1 then
    if config.kcs = false ∨ config.immediate (msg.netfn &&& 0xFE) msg.cmd ∨ room = false then none
    else some ⟨.kcs (msg.infSource - hostKcs1), msg.netfn, msg.cmd, cc, data⟩
  else if msg.infSource = mproPldm then
    if config.mpro then some ⟨.mpro msg.pldmInstId, msg.netfn, msg.cmd, cc, data⟩ else none
  else if room = false then none
  else if msg.infSource = meIpmb then
    some ⟨.ipmb msg.infSource msg.seqSource, msg.netfn - 1 + 1, msg.cmd, cc, data⟩
  else if msg.infSource = pldm ∨ msg.infSource = mctp then
    some ⟨.pldm msg.infSource msg.pldmInstId, netfnOem1sReq, cmdOem1sMsgOut, 0,
      config.encode msg.netfn msg.cmd cc data⟩
  else
    some ⟨.ipmb msg.infSource msg.seqSource, netfnOem1sReq + 1, cmdOem1sMsgOut, 0,
      config.encode msg.netfn msg.cmd cc data⟩

/-- The interface that a forwarded request is answered at. -/
def Outgoing.interface (out : Outgoing) : UInt8 :=
  match out.route with
  | .rxQueue _ => self
  | .kcs index => hostKcs1 + index
  | .mpro _ => mproPldm
  | .ipmb interface _ | .pldm interface _ => interface

/-- A response carries a completion code and data as they are, under the net function and the
command of the request. -/
def Outgoing.Plain (out : Outgoing) (request : IpmiMsg) (cc : UInt8) (data : List UInt8) : Prop :=
  out.netfn = request.netfn + 1 ∧ out.cmd = request.cmd ∧ out.completionCode = cc ∧ out.data = data

/-- A response inside the answer to the command that bridged it. -/
def Outgoing.Wrapped (config : BridgeConfig) (out : Outgoing) (request : IpmiMsg) (cc : UInt8)
    (data : List UInt8) : Prop :=
  out.completionCode = 0 ∧
    out.data = config.iana ++
      config.channel :: config.innerNetfn (request.netfn + 1) :: request.cmd :: cc :: data

/-- What is sent where is the answer to the request. -/
def Outgoing.Carries (config : BridgeConfig) (out : Outgoing) (request : IpmiMsg) (cc : UInt8)
    (data : List UInt8) : Prop :=
  match out.route with
  | .rxQueue infTarget => infTarget = request.infTarget ∧ out.Plain request cc data
  | .kcs _ => out.Plain request cc data
  | .mpro instId => instId = request.pldmInstId ∧ out.Plain request cc data
  | .ipmb interface seq =>
    seq = request.seqSource ∧
      if interface = meIpmb then out.Plain request cc data
      else out.Wrapped config request cc data
  | .pldm _ instId => instId = request.pldmInstId ∧ out.Wrapped config request cc data

/-- A response that was forwarded. -/
structure Forward where
  answers : Option Nat
  completionCode : UInt8
  data : List UInt8
  out : Outgoing

/-- A channel with its requests and the target. -/
structure Bridge where
  bus : Bus
  reached : Bool
  requests : List IpmiMsg
  asked : List IpmiMsg
  forwards : List Forward

/-- What can happen next. -/
inductive BridgeEvent where
  /-- `ipmb_send_request` puts a request into the transmit queue. -/
  | request (msg : IpmiMsg)
  /-- `ipmb_send_request` fails to. -/
  | refused (msg : IpmiMsg)
  | task (event : BusEvent)
  | reach
  | answer (asked : IpmiMsg) (cc : UInt8) (data : List UInt8) (room : Bool)
  | lose (asked : IpmiMsg)
  | stray (msg : IpmiMsg) (cc : UInt8) (data : List UInt8) (room : Bool)
  | clear (msg : IpmiMsg)

/-- What the transmit task, the timeout handler and senders of responses do. -/
def BusEvent.ofTask : BusEvent → Bool
  | .respond _ | .take _ | .drop | .transmit .. | .written _ | .unlink _ | .requeue | .sweep _ =>
    true
  | .lock _ | .purge | .build _ | .put _ | .get | .timeOut | .clear _ | .bridge _ | .receive _
  | .deliver => false

namespace Bridge

def start : Bridge := ⟨.start, false, [], [], []⟩

def sendRequest (s : Bridge) (msg : IpmiMsg) : Bridge :=
  let built := s.bus.build msg
  let request := { built.2 with call := some s.requests.length }
  { s with
    bus := { s.bus with channel := built.1, txQueue := some ⟨request, 0⟩ }
    requests := s.requests ++ [request] }

/-- `IPMB_RXTask` with a response. -/
def receive (config : BridgeConfig) (s : Bridge) (msg : IpmiMsg) (cc : UInt8) (data : List UInt8)
    (room : Bool) (answers : Option Nat) : Option Bridge :=
  (s.bus.channel.findReq { msg with seqTarget := msg.seq }).map fun found =>
    let out := found.2.bind fun response => forward config ⟨response, cc, data⟩ room
    { s with
      bus := { s.bus with channel := found.1 }
      forwards := s.forwards ++ (out.map fun out => ⟨answers, cc, data, out⟩).toList }

def step (ticks : Ticks) (config : BridgeConfig) (s : Bridge) : BridgeEvent → Option Bridge
  | .request msg => if s.bus.txQueue = none then some (s.sendRequest msg) else none
  | .refused msg => some { s with bus := { s.bus with channel := (s.bus.build msg).1 } }
  | .task event =>
    if event.ofTask then
      (busStep ticks s.bus event).map fun bus =>
        { s with bus := bus, reached := s.reached && !event.begins }
    else none
  | .reach =>
    match s.bus.txTask with
    | .writing msg =>
      if s.reached ∨ msg.buffer.isResponse then none
      else some { s with reached := true, asked := s.asked ++ [msg.buffer] }
    | _ => none
  | .answer asked cc data room =>
    if asked ∈ s.asked then
      receive config { s with asked := s.asked.erase asked }
        (decoded (asked.netfn + 1) asked.cmd asked.seq) cc data room asked.call
    else none
  | .lose asked => if asked ∈ s.asked then some { s with asked := s.asked.erase asked } else none
  | .stray msg cc data room =>
    if msg.isResponse then receive config s msg cc data room none else none
  | .clear msg =>
    (s.bus.channel.clearReq msg).map fun channel => { s with bus := { s.bus with channel } }

/-! ## What the sources are promised -/

/-- What holds of the responses that were forwarded. -/
structure Bridged (config : BridgeConfig) (s : Bridge) : Prop where
  routed : ∀ sent ∈ s.forwards, ∃ mark, sent.answers = some mark ∧
    ∃ request, s.requests[mark]? = some request ∧
      sent.out.interface = request.infSource ∧
        sent.out.Carries config request sent.completionCode sent.data
  once : (s.forwards.map Forward.answers).Nodup
  dropped : ∀ msg cc data room answers,
    (∀ node ∈ s.bus.channel.listed, { msg with seqTarget := msg.seq }.answers node = false) →
      receive config s msg cc data room answers = some s

/-- The condition on a step: a request is written, and its record allocated, only while no other
request with its net function, command and number is pending or may still be answered; a write that
fails has not reached the target; and the target sends no response that it was not asked for and
that fits a pending request. -/
def Apart (s : Bridge) : BridgeEvent → Prop
  | .task (.transmit _ locked mallocOk) =>
    ∀ cfg ∈ s.bus.txTask.inHand, cfg.buffer.isResponse = false →
      (locked = true → mallocOk = true) ∧
        ∀ other ∈ s.bus.channel.listed ++ s.asked, cfg.buffer.Same other →
          other.call = cfg.buffer.call
  | .task (.written ok) => ok = false → s.reached = false
  | .stray msg _ _ _ =>
    ∀ node ∈ s.bus.channel.listed, { msg with seqTarget := msg.seq }.answers node = false
  | _ => True

instance (s : Bridge) : (event : BridgeEvent) → Decidable (s.Apart event)
  | .task (.transmit ..) => inferInstanceAs (Decidable (∀ cfg ∈ _, _))
  | .task (.written _) => inferInstanceAs (Decidable (_ → _))
  | .stray .. => inferInstanceAs (Decidable (∀ node ∈ _, _))
  | .task (.lock _) | .task .purge | .task (.build _) | .task (.put _) | .task .get
  | .task .timeOut | .task (.clear _) | .task (.bridge _) | .task (.respond _) | .task (.take _)
  | .task .drop | .task (.unlink _) | .task .requeue | .task (.receive _) | .task .deliver
  | .task (.sweep _) | .request _ | .refused _ | .reach | .answer .. | .lose _ | .clear _ =>
    .isTrue trivial

/-! ## What holds in every state -/

end Bridge

/-- A message is this request, under a number and with a timestamp. -/
def IpmiMsg.Stamped (request msg : IpmiMsg) : Prop :=
  msg = { request with seqTarget := msg.seqTarget, timestamp := msg.timestamp }

/-- A message comes of one of the requests. -/
def Tagged (requests : List IpmiMsg) (msg : IpmiMsg) : Prop :=
  ∃ request ∈ requests, request.Stamped msg

theorem Tagged.mono {requests more : List IpmiMsg} {msg : IpmiMsg} (tagged : Tagged requests msg) :
    Tagged (requests ++ more) msg := by
  obtain ⟨request, member, stamped⟩ := tagged
  exact ⟨request, mem_append_left _ member, stamped⟩

/-- A message of the transmit task is a response or one of these requests. -/
def Sends (requests : List IpmiMsg) (msg : IpmiMsg) : Prop :=
  msg.isResponse = false → Tagged requests msg

/-- A listed request is one of these, under its own number. -/
structure Listed (requests : List IpmiMsg) (msg : IpmiMsg) : Prop where
  tagged : Tagged requests msg
  number : msg.seqTarget = msg.seq
  request : msg.isResponse = false

/-- The request in hand that was written is the only one of its kind on the list. -/
def TxPc.Alone (task : TxPc) (listed : List IpmiMsg) : Prop :=
  match task with
  | .writing cfg | .failed cfg =>
    cfg.buffer.isResponse = false → cfg.buffer.seqTarget = cfg.buffer.seq ∧
      ∀ node ∈ listed, cfg.buffer.Same node → node.call = cfg.buffer.call
  | .idle | .taken _ | .requeue _ => True

def TxPc.unsent (task : TxPc) (reached : Bool) : Option IpmiMsgCfg :=
  match task with
  | .writing cfg => if reached then none else some cfg
  | .taken cfg | .failed cfg | .requeue cfg => some cfg
  | .idle => none

def tally (cfg : Option IpmiMsgCfg) (mark : Nat) : Nat :=
  if (cfg.bind fun cfg => cfg.buffer.call) = some mark then 1 else 0

theorem tally_none (mark : Nat) : tally none mark = 0 := rfl

theorem tally_some (cfg : IpmiMsgCfg) (mark : Nat) :
    tally (some cfg) mark = if cfg.buffer.call = some mark then 1 else 0 := rfl

namespace Bridge

/-- How often a mark is in the queue, in hand, at the target and forwarded. -/
def places (s : Bridge) (mark : Nat) : Nat :=
  tally s.bus.txQueue mark + tally (s.bus.txTask.unsent s.reached) mark +
    (s.asked.map IpmiMsg.call).count (some mark) +
    (s.forwards.map Forward.answers).count (some mark)

/-- What holds in every state. -/
structure Invariant (config : BridgeConfig) (s : Bridge) : Prop where
  closed : s.bus.channel.closed = true
  numbered : ∀ (mark : Nat) (request : IpmiMsg), s.requests[mark]? = some request →
    request.call = some mark
  queued : ∀ cfg ∈ s.bus.txQueue, Sends s.requests cfg.buffer
  inHand : ∀ cfg ∈ s.bus.txTask.inHand, Sends s.requests cfg.buffer
  listed : ∀ node ∈ s.bus.channel.listed, Listed s.requests node
  asked : ∀ item ∈ s.asked, Tagged s.requests item ∧ item.isResponse = false
  paired : ∀ item ∈ s.asked, ∀ node ∈ s.bus.channel.listed, item.Same node → node.call = item.call
  alone : s.bus.txTask.Alone s.bus.channel.listed
  once : ∀ mark, s.places mark ≤ 1
  known : ∀ mark, s.requests.length ≤ mark → s.places mark = 0
  routed : ∀ sent ∈ s.forwards, ∃ mark, sent.answers = some mark ∧
    ∃ request, s.requests[mark]? = some request ∧
      sent.out.interface = request.infSource ∧
        sent.out.Carries config request sent.completionCode sent.data

variable {config : BridgeConfig} {s t : Bridge}

theorem invariant_start (config : BridgeConfig) : Invariant config start where
  closed := rfl
  numbered := nofun
  queued := nofun
  inHand := nofun
  listed := nofun
  asked := nofun
  paired := nofun
  alone := trivial
  once := fun _ => Nat.zero_le _
  known := fun _ _ => rfl
  routed := nofun

/-- A channel from which nodes were only taken. -/
structure Shrinks (before after : Channel) : Prop where
  closed : after.closed = true
  listed : ∀ node ∈ after.listed, node ∈ before.listed

theorem shrinks_hereditary {before : Channel} : Hereditary (Shrinks before) := by
  intro channel node first last shrinks listed
  refine ⟨shrinks.closed, fun other member => shrinks.listed other ?_⟩
  have kept : other ∈ first ++ last := member
  rw [listed]
  rcases List.mem_append.mp kept with early | late
  · exact mem_append_left _ early
  · exact mem_append_right _ (mem_cons_of_mem _ late)

theorem Shrinks.refl {channel : Channel} (closed : channel.closed = true) :
    Shrinks channel channel :=
  ⟨closed, fun _ => id⟩

theorem alone_of_subset {task : TxPc} {before after : List IpmiMsg}
    (alone : task.Alone before) (subset : ∀ node ∈ after, node ∈ before) : task.Alone after := by
  cases task with
  | idle | taken _ | requeue _ => trivial
  | writing cfg | failed cfg =>
    intro request
    obtain ⟨number, only⟩ := alone request
    exact ⟨number, fun node member => only node (subset node member)⟩

theorem Invariant.shrink (holds : Invariant config s) {channel : Channel}
    (shrinks : Shrinks s.bus.channel channel) :
    Invariant config { s with bus := { s.bus with channel } } where
  closed := shrinks.closed
  numbered := holds.numbered
  queued := holds.queued
  inHand := holds.inHand
  listed := fun node member => holds.listed node (shrinks.listed node member)
  asked := holds.asked
  paired := fun item there node member => holds.paired item there node (shrinks.listed node member)
  alone := alone_of_subset holds.alone shrinks.listed
  once := holds.once
  known := holds.known
  routed := holds.routed

theorem Invariant.retask (holds : Invariant config s) {queue : Option IpmiMsgCfg} {task : TxPc}
    {reached : Bool} (queued : ∀ cfg ∈ queue, Sends s.requests cfg.buffer)
    (inHand : ∀ cfg ∈ task.inHand, Sends s.requests cfg.buffer)
    (alone : task.Alone s.bus.channel.listed)
    (fewer : ∀ mark, tally queue mark + tally (task.unsent reached) mark ≤
      tally s.bus.txQueue mark + tally (s.bus.txTask.unsent s.reached) mark) :
    Invariant config { s with
      bus := { s.bus with txQueue := queue, txTask := task }
      reached := reached } where
  closed := holds.closed
  numbered := holds.numbered
  queued := queued
  inHand := inHand
  listed := holds.listed
  asked := holds.asked
  paired := holds.paired
  alone := alone
  once := fun mark => by
    have before := holds.once mark
    have less := fewer mark
    simp only [places] at before ⊢
    omega
  known := fun mark beyond => by
    have before := holds.known mark beyond
    have less := fewer mark
    simp only [places] at before ⊢
    omega
  routed := holds.routed

theorem count_erase {items : List IpmiMsg} {item : IpmiMsg} (member : item ∈ items) (mark : Nat) :
    (items.map IpmiMsg.call).count (some mark) =
      ((items.erase item).map IpmiMsg.call).count (some mark) +
        if item.call = some mark then 1 else 0 := by
  have same := (perm_cons_erase member).map IpmiMsg.call
  rw [same.count_eq, map_cons, count_cons]
  simp only [beq_iff_eq]

theorem Invariant.lose (holds : Invariant config s) {item : IpmiMsg} (member : item ∈ s.asked) :
    Invariant config { s with asked := s.asked.erase item } where
  closed := holds.closed
  numbered := holds.numbered
  queued := holds.queued
  inHand := holds.inHand
  listed := holds.listed
  asked := fun other there => holds.asked other (mem_of_mem_erase there)
  paired := fun other there => holds.paired other (mem_of_mem_erase there)
  alone := holds.alone
  once := fun mark => by
    have before := holds.once mark
    have erased := count_erase member mark
    simp only [places] at before ⊢
    omega
  known := fun mark beyond => by
    have before := holds.known mark beyond
    have erased := count_erase member mark
    simp only [places] at before ⊢
    omega
  routed := holds.routed

theorem Invariant.sendRequest (holds : Invariant config s) (msg : IpmiMsg)
    (empty : s.bus.txQueue = none) : Invariant config (s.sendRequest msg) where
  closed := holds.closed
  numbered := by
    intro mark request found
    simp only [Bridge.sendRequest] at found
    rcases Nat.lt_or_ge mark s.requests.length with inside | beyond
    · rw [getElem?_append_left inside] at found
      exact holds.numbered mark request found
    · rw [getElem?_append_right beyond, getElem?_singleton] at found
      obtain ⟨last, same⟩ := Option.ite_none_right_eq_some.mp found
      cases same
      exact congrArg some (by omega)
  queued := by
    intro cfg member request
    cases member
    exact ⟨_, mem_append_right _ (List.mem_singleton.mpr rfl), rfl⟩
  inHand := fun cfg member request => (holds.inHand cfg member request).mono
  listed := fun node member =>
    have before := holds.listed node member
    ⟨before.tagged.mono, before.number, before.request⟩
  asked := fun item member => ⟨(holds.asked item member).1.mono, (holds.asked item member).2⟩
  paired := holds.paired
  alone := holds.alone
  once := fun mark => by
    have before := holds.once mark
    have beyond := holds.known mark
    simp only [places, Bridge.sendRequest, empty, tally_none, tally_some,
      Option.some.injEq] at before beyond ⊢
    split
    · have absent := beyond (by omega)
      omega
    · omega
  known := fun mark beyond => by
    simp only [Bridge.sendRequest, length_append, length_singleton] at beyond
    have absent := holds.known mark (by omega)
    simp only [places, Bridge.sendRequest, empty, tally_none, tally_some,
      Option.some.injEq] at absent ⊢
    rw [if_neg (by omega)]
    omega
  routed := by
    intro sent member
    obtain ⟨mark, answers, request, found, right⟩ := holds.routed sent member
    obtain ⟨inside, -⟩ := List.getElem?_eq_some_iff.mp found
    exact ⟨mark, answers, request, (getElem?_append_left inside).trans found, right⟩

/-- The target gets the request that is being written. -/
theorem Invariant.reach (holds : Invariant config s) {cfg : IpmiMsgCfg}
    (writing : s.bus.txTask = .writing cfg) (first : s.reached = false)
    (request : cfg.buffer.isResponse = false) :
    Invariant config { s with reached := true, asked := s.asked ++ [cfg.buffer] } where
  closed := holds.closed
  numbered := holds.numbered
  queued := holds.queued
  inHand := holds.inHand
  listed := holds.listed
  asked := by
    intro item member
    rcases List.mem_append.mp member with before | last
    · exact holds.asked item before
    · obtain rfl := List.mem_singleton.mp last
      have there : cfg ∈ s.bus.txTask.inHand := by
        rw [writing]
        rfl
      exact ⟨holds.inHand cfg there request, request⟩
  paired := by
    intro item member node listed same
    rcases List.mem_append.mp member with before | last
    · exact holds.paired item before node listed same
    · obtain rfl := List.mem_singleton.mp last
      have alone := holds.alone
      rw [writing] at alone
      exact (alone request).2 node listed same
  alone := holds.alone
  once := fun mark => by
    have before := holds.once mark
    simp only [places, writing, TxPc.unsent, first, Bool.false_eq_true, if_false, if_true,
      tally_none, tally_some, map_append, count_append, map_cons, map_nil,
      count_singleton, beq_iff_eq] at before ⊢
    omega
  known := fun mark beyond => by
    have before := holds.known mark beyond
    simp only [places, writing, TxPc.unsent, first, Bool.false_eq_true, if_false, if_true,
      tally_none, tally_some, map_append, count_append, map_cons, map_nil,
      count_singleton, beq_iff_eq] at before ⊢
    omega
  routed := holds.routed

theorem netfn_answered {netfn : UInt8} (even : (netfn &&& 0x01 == 1) = false) :
    (netfn + 1) &&& 0xFE = netfn := by
  have checked : ∀ number : BitVec 8, ¬ number &&& 0x01 = 1 → (number + 1) &&& 0xFE = number := by
    decide
  apply UInt8.toBitVec_inj.mp
  exact checked netfn.toBitVec fun odd =>
    absurd (UInt8.toBitVec_inj.mp odd) (by simpa using even)

theorem netfn_even {netfn : UInt8} (even : (netfn &&& 0x01 == 1) = false) :
    netfn &&& 0xFE = netfn := by
  have checked : ∀ number : BitVec 8, ¬ number &&& 0x01 = 1 → number &&& 0xFE = number := by
    decide
  apply UInt8.toBitVec_inj.mp
  exact checked netfn.toBitVec fun odd =>
    absurd (UInt8.toBitVec_inj.mp odd) (by simpa using even)

theorem Invariant.unique (holds : Invariant config s) {first second request other : IpmiMsg}
    (isFirst : request ∈ s.requests) (firstStamped : request.Stamped first)
    (isSecond : other ∈ s.requests) (secondStamped : other.Stamped second)
    (same : first.call = second.call) : request = other := by
  obtain ⟨mark, found⟩ := mem_iff_getElem?.mp isFirst
  obtain ⟨place, there⟩ := mem_iff_getElem?.mp isSecond
  have firstCall : first.call = some mark := by
    rw [firstStamped]
    exact holds.numbered mark request found
  have secondCall : second.call = some place := by
    rw [secondStamped]
    exact holds.numbered place other there
  obtain rfl : mark = place := Option.some.inj (firstCall.symm.trans (same.trans secondCall))
  exact Option.some.inj (found.symm.trans there)

/-- A response goes to the interface it is for. -/
theorem forward_interface {response : IpmbResponse} {room : Bool} {out : Outgoing}
    (sent : forward config response room = some out) : out.interface = response.msg.infSource := by
  simp only [forward] at sent
  split at sent
  · rename_i own
    obtain ⟨-, same⟩ := Option.ite_none_right_eq_some.mp sent
    cases same
    exact own.symm
  split at sent
  · obtain ⟨-, same⟩ := Option.ite_none_left_eq_some.mp sent
    cases same
    simp only [Outgoing.interface]
    rw [UInt8.add_comm, UInt8.sub_add_cancel]
  split at sent
  · rename_i mpro
    obtain ⟨-, same⟩ := Option.ite_none_right_eq_some.mp sent
    cases same
    exact mpro.symm
  obtain ⟨-, sent⟩ := Option.ite_none_left_eq_some.mp sent
  split at sent
  · cases sent
    rfl
  split at sent
  · cases sent
    rfl
  · cases sent
    rfl

/-- A response with a request's header carries what the request's source has to be given. -/
theorem forward_carries {response : IpmbResponse} {room : Bool} {out : Outgoing}
    {request : IpmiMsg} (sent : forward config response room = some out)
    (netfn : response.msg.netfn = request.netfn + 1) (cmd : response.msg.cmd = request.cmd)
    (seqSource : response.msg.seqSource = request.seqSource)
    (pldmInstId : response.msg.pldmInstId = request.pldmInstId)
    (infTarget : response.msg.infTarget = request.infTarget) :
    out.Carries config request response.completionCode response.data := by
  simp only [forward] at sent
  split at sent
  · obtain ⟨-, same⟩ := Option.ite_none_right_eq_some.mp sent
    cases same
    exact ⟨infTarget, netfn, cmd, rfl, rfl⟩
  split at sent
  · obtain ⟨-, same⟩ := Option.ite_none_left_eq_some.mp sent
    cases same
    exact ⟨netfn, cmd, rfl, rfl⟩
  split at sent
  · obtain ⟨-, same⟩ := Option.ite_none_right_eq_some.mp sent
    cases same
    exact ⟨pldmInstId, netfn, cmd, rfl, rfl⟩
  obtain ⟨-, sent⟩ := Option.ite_none_left_eq_some.mp sent
  split at sent
  · rename_i me
    cases sent
    refine ⟨seqSource, ?_⟩
    rw [if_pos me]
    refine ⟨?_, cmd, rfl, rfl⟩
    rw [← netfn]
    exact UInt8.sub_add_cancel _ _
  rename_i other
  have wrapped : config.encode response.msg.netfn response.msg.cmd response.completionCode
      response.data = config.iana ++ config.channel :: config.innerNetfn (request.netfn + 1) ::
        request.cmd :: response.completionCode :: response.data := by
    rw [BridgeConfig.encode, netfn, cmd]
  split at sent
  · cases sent
    exact ⟨pldmInstId, rfl, wrapped⟩
  · cases sent
    refine ⟨seqSource, ?_⟩
    rw [if_neg other]
    exact ⟨rfl, wrapped⟩

theorem takeFirst_eq_none {fits : IpmiMsg → Bool} {list : List IpmiMsg}
    (none : ∀ node ∈ list, fits node = false) : takeFirst fits list = .none := by
  induction list with
  | nil => rfl
  | cons node rest ih =>
    rw [takeFirst, none node mem_cons_self]
    rw [ih fun other member => none other (mem_cons_of_mem _ member)]
    rfl

theorem receive_unmatched {msg : IpmiMsg} {cc : UInt8} {data : List UInt8} {room : Bool}
    {answers : Option Nat} (closed : s.bus.channel.closed = true)
    (none : ∀ node ∈ s.bus.channel.listed, { msg with seqTarget := msg.seq }.answers node = false) :
    receive config s msg cc data room answers = some s := by
  simp only [receive, Channel.findReq, takeFirst_eq_none none, closed, if_true, map_some,
    bind_none, map_none, toList_none, append_nil]

theorem Invariant.answer (holds : Invariant config s) {item : IpmiMsg} (member : item ∈ s.asked)
    {cc : UInt8} {data : List UInt8} {room : Bool}
    (moved : receive config { s with asked := s.asked.erase item }
      (decoded (item.netfn + 1) item.cmd item.seq) cc data room item.call = some t) :
    Invariant config t := by
  have lost := holds.lose member
  obtain ⟨⟨channel, filled⟩, looked, rfl⟩ := Option.map_eq_some_iff.mp moved
  have shrinks : Shrinks s.bus.channel channel :=
    shrinks_hereditary.find (.refl holds.closed) looked
  have shrunk := lost.shrink shrinks
  obtain ⟨tagged, even⟩ := holds.asked item member
  cases out : filled.bind fun response => forward config ⟨response, cc, data⟩ room with
  | none =>
    simp only [map_none, toList_none, append_nil]
    exact shrunk
  | some out' =>
    obtain ⟨response, rfl, sent⟩ := Option.bind_eq_some_iff.mp out
    obtain ⟨node, listed, fits, -, rfl⟩ := Channel.findReq_found looked
    simp only [IpmiMsg.answers, decoded, Bool.and_eq_true, beq_iff_eq] at fits
    obtain ⟨⟨netfn, cmd⟩, seq⟩ := fits
    rw [netfn_answered even] at netfn
    have known := holds.listed node listed
    have same : item.Same node := ⟨netfn, cmd, known.number.symm.trans seq⟩
    have call := holds.paired item member node listed same
    obtain ⟨request, isRequest, stamped⟩ := known.tagged
    obtain ⟨other, isOther, otherStamped⟩ := tagged
    obtain rfl := holds.unique isRequest stamped isOther otherStamped call
    obtain ⟨mark, found⟩ := mem_iff_getElem?.mp isRequest
    have marked : item.call = some mark := by
      rw [otherStamped]
      exact holds.numbered mark request found
    simp only [map_some, toList_some]
    refine ⟨shrunk.closed, shrunk.numbered, shrunk.queued, shrunk.inHand, shrunk.listed,
      shrunk.asked, shrunk.paired, shrunk.alone, fun place => ?_, fun place beyond => ?_, ?_⟩
    · have before := holds.once place
      have erased := count_erase member place
      simp only [places, map_append, count_append, map_cons, map_nil,
        count_singleton, beq_iff_eq] at before ⊢
      omega
    · have before := holds.known place beyond
      have erased := count_erase member place
      simp only [places, map_append, count_append, map_cons, map_nil,
        count_singleton, beq_iff_eq] at before ⊢
      omega
    · intro forwarded there
      rcases List.mem_append.mp there with before | last
      · exact holds.routed forwarded before
      · obtain rfl := List.mem_singleton.mp last
        refine ⟨mark, marked, request, found, ?_, ?_⟩
        · rw [forward_interface sent]
          show node.infSource = request.infSource
          rw [stamped]
        · apply forward_carries sent
          · show item.netfn + 1 = request.netfn + 1
            rw [otherStamped]
          · show item.cmd = request.cmd
            rw [otherStamped]
          · show node.seqSource = request.seqSource
            rw [stamped]
          · show node.pldmInstId = request.pldmInstId
            rw [stamped]
          · show node.infTarget = request.infTarget
            rw [stamped]

theorem insertReq_closed {channel later : Channel} {msg : IpmiMsg} {now : UInt32}
    (closed : channel.closed = true) (moved : channel.insertReq msg now true = some later) :
    later.closed = true := by
  obtain ⟨room, evicted, rfl⟩ := Option.map_eq_some_iff.mp moved
  have kept : room.closed = true := by
    unfold Channel.evict at evicted
    split at evicted
    · simp only [closed] at evicted
      split at evicted
      · cases evicted
      · cases evicted
        exact rfl
    · cases evicted
      exact closed
  simp only [Channel.link, kept, Bool.true_eq_false, if_false, if_true]

/-- The transmit task inserts a request and goes on to write it. -/
theorem Invariant.transmit (holds : Invariant config s) {cfg : IpmiMsgCfg} {now : UInt32}
    {locked mallocOk : Bool} {bus : Bus} (taken : s.bus.txTask = .taken cfg)
    (apart : s.Apart (.task (.transmit now locked mallocOk)))
    (moved : s.bus.transmit cfg now locked mallocOk = some bus) :
    Invariant config { s with bus := bus, reached := false } := by
  have there : cfg ∈ s.bus.txTask.inHand := by
    rw [taken]
    rfl
  have sends := holds.inHand cfg there
  unfold Bus.transmit at moved
  split at moved
  · rename_i response
    cases moved
    apply holds.retask holds.queued
    · intro other same
      cases same
      exact sends
    · exact fun request => absurd (response.symm.trans request) (by decide)
    · intro mark
      simp only [taken, TxPc.unsent, Bool.false_eq_true, if_false, le_refl]
  · rename_i notResponse
    have request := Bool.of_not_eq_true notResponse
    obtain ⟨granted, only⟩ := apart cfg there request
    obtain ⟨original, isRequest, stamped⟩ := sends request
    have stampedHere : original.Stamped { cfg.buffer with seqTarget := cfg.buffer.seq } := by
      rw [IpmiMsg.Stamped] at stamped ⊢
      rw [stamped]
    have written : Invariant config { s with
        bus := { s.bus with
          txTask :=
            .writing { cfg with buffer := { cfg.buffer with seqTarget := cfg.buffer.seq } } }
        reached := false } := by
      apply holds.retask holds.queued
      · intro other same
        cases same
        exact fun _ => ⟨original, isRequest, stampedHere⟩
      · exact fun _ => ⟨rfl, fun node listed same =>
          only node (mem_append_left _ listed) same⟩
      · intro mark
        simp only [taken, TxPc.unsent, Bool.false_eq_true, if_false, tally_some, le_refl]
    split at moved
    · rename_i mutex
      obtain ⟨channel, inserted, rfl⟩ := Option.map_eq_some_iff.mp moved
      obtain rfl := granted mutex
      have before := fun node => @Channel.mem_insertReq _ _ channel now true node inserted
      refine ⟨insertReq_closed holds.closed inserted, written.numbered, written.queued,
        written.inHand, ?_, written.asked, ?_, ?_, written.once, written.known, written.routed⟩
      · intro node member
        rcases before node member with old | rfl
        · exact holds.listed node old
        · refine ⟨⟨original, isRequest, ?_⟩, rfl, request⟩
          rw [IpmiMsg.Stamped] at stamped ⊢
          rw [stamped]
      · intro item asked node member same
        rcases before node member with old | rfl
        · exact holds.paired item asked node old same
        · have back : cfg.buffer.Same item := ⟨same.1.symm, same.2.1.symm, same.2.2.symm⟩
          exact (only item (mem_append_right _ asked) back).symm
      · intro _
        refine ⟨rfl, fun node member same => ?_⟩
        rcases before node member with old | rfl
        · exact only node (mem_append_left _ old) same
        · rfl
    · cases moved
      exact written

theorem Invariant.again (holds : Invariant config s) {cfg back : IpmiMsgCfg}
    (failed : s.bus.txTask = .failed cfg) (sends : Sends s.requests back.buffer)
    (call : back.buffer.call = cfg.buffer.call) :
    Invariant config { s with bus := s.bus.again back } := by
  unfold Bus.again
  split
  · apply holds.retask holds.queued
    · exact nofun
    · trivial
    · intro mark
      simp only [TxPc.unsent, tally_none]
      omega
  · apply holds.retask holds.queued
    · intro other same
      cases same
      exact sends
    · trivial
    · intro mark
      simp only [failed, TxPc.unsent, tally_some, call, le_refl]

/-- The transmit task looks up a request that it could not write. -/
theorem Invariant.unlink (holds : Invariant config s) {cfg : IpmiMsgCfg} {locked : Bool} {bus : Bus}
    (failed : s.bus.txTask = .failed cfg) (moved : s.bus.unlink cfg locked = some bus) :
    Invariant config { s with bus := bus } := by
  have there : cfg ∈ s.bus.txTask.inHand := by
    rw [failed]
    rfl
  have sends := holds.inHand cfg there
  unfold Bus.unlink at moved
  split at moved
  · obtain ⟨⟨channel, filled⟩, looked, rfl⟩ := Option.map_eq_some_iff.mp moved
    have shrunk := holds.shrink (shrinks_hereditary.find (.refl holds.closed) looked)
    refine @Invariant.again _ _ shrunk cfg _ failed ?_ rfl
    cases filled with
    | none => exact sends
    | some filled =>
      obtain ⟨node, listed, fits, -, rfl⟩ := Channel.findReq_found looked
      intro request
      have even : cfg.buffer.isResponse = false := request
      simp only [IpmiMsg.answers, Bool.and_eq_true, beq_iff_eq] at fits
      obtain ⟨⟨netfn, cmd⟩, seq⟩ := fits
      have alone := holds.alone
      rw [failed] at alone
      obtain ⟨number, only⟩ := alone even
      have known := holds.listed node listed
      have same : cfg.buffer.Same node := by
        refine ⟨netfn.trans (netfn_even even), cmd, ?_⟩
        rw [← known.number, seq, number]
      obtain ⟨request, isRequest, stamped⟩ := known.tagged
      obtain ⟨other, isOther, otherStamped⟩ := sends even
      obtain rfl := holds.unique isRequest stamped isOther otherStamped (only node listed same)
      refine ⟨_, isOther, ?_⟩
      rw [stamped, otherStamped]
      rfl
  · cases moved
    exact holds.again failed sends rfl

theorem Invariant.task (holds : Invariant config s) {ticks : Ticks} {event : BusEvent} {bus : Bus}
    (own : event.ofTask = true) (apart : s.Apart (.task event))
    (moved : busStep ticks s.bus event = some bus) :
    Invariant config { s with bus := bus, reached := s.reached && !event.begins } := by
  cases event with
  | transmit now locked mallocOk =>
    simp only [busStep] at moved
    split at moved
    · rename_i cfg taken
      simp only [BusEvent.begins, Bool.not_true, Bool.and_false]
      exact holds.transmit taken apart moved
    · cases moved
  | respond msg =>
    obtain ⟨⟨empty, response⟩, same⟩ := Option.ite_none_right_eq_some.mp moved
    cases same
    simp only [BusEvent.begins, Bool.not_false, Bool.and_true]
    apply holds.retask _ holds.inHand holds.alone
    · intro mark
      simp only [empty, tally_none, tally_some, reduceCtorEq, if_false, le_refl]
    · intro cfg there request
      cases there
      have even : msg.isResponse = false := request
      exact absurd (response.symm.trans even) (by decide)
  | take disabled =>
    simp only [busStep] at moved
    split at moved
    · rename_i cfg idle queue
      cases moved
      apply holds.retask (fun _ there => by cases there)
      · intro other there
        cases disabled with
        | true => cases there
        | false =>
          cases there
          exact holds.queued cfg queue
      · cases disabled <;> trivial
      · intro mark
        cases disabled with
        | true => simp [TxPc.unsent, tally_none]
        | false => simp [TxPc.unsent, tally_none, idle, queue]
    · cases moved
  | drop =>
    simp only [busStep] at moved
    split at moved
    · cases moved
      apply holds.retask
      case queued => exact holds.queued
      case inHand => exact fun _ there => by cases there
      case alone => trivial
      case fewer =>
        intro mark
        simp only [TxPc.unsent, tally_none]
        omega
    · cases moved
  | written ok =>
    simp only [busStep] at moved
    split at moved
    · rename_i cfg writing
      have there : cfg ∈ s.bus.txTask.inHand := by
        rw [writing]
        rfl
      have sends := holds.inHand cfg there
      have alone := holds.alone
      rw [writing] at alone
      split at moved
      · cases moved
        apply holds.retask
        case queued => exact holds.queued
        case inHand => exact fun _ there => by cases there
        case alone => trivial
        case fewer =>
          intro mark
          simp only [TxPc.unsent, tally_none]
          omega
      · rename_i failed
        have before : s.reached = false := apart (Bool.of_not_eq_true failed)
        split at moved
        · cases moved
          apply holds.retask
          case queued => exact holds.queued
          case inHand =>
            intro other same
            cases same
            exact sends
          case alone => trivial
          case fewer =>
            intro mark
            simp only [writing, before, TxPc.unsent, tally_some, Bool.false_eq_true, if_false,
              le_refl]
        · cases moved
          apply holds.retask
          case queued => exact holds.queued
          case inHand =>
            intro other same
            cases same
            exact sends
          case alone => exact alone
          case fewer =>
            intro mark
            simp only [writing, before, TxPc.unsent, Bool.false_eq_true, if_false, le_refl]
    · cases moved
  | unlink locked =>
    simp only [busStep] at moved
    split at moved
    · rename_i cfg failed
      simp only [BusEvent.begins, Bool.not_false, Bool.and_true]
      exact holds.unlink failed moved
    · cases moved
  | requeue =>
    simp only [busStep] at moved
    split at moved
    · rename_i cfg back
      have there : cfg ∈ s.bus.txTask.inHand := by
        rw [back]
        rfl
      have sends := holds.inHand cfg there
      cases moved
      apply holds.retask
      case queued =>
        intro other queued
        split at queued
        · cases queued
          exact sends
        · exact holds.queued other queued
      case inHand => exact fun _ there => by cases there
      case alone => trivial
      case fewer =>
        intro mark
        split
        · rename_i empty
          simp [empty, back, TxPc.unsent, tally_none]
        · simp only [TxPc.unsent, tally_none]
          omega
    · cases moved
  | sweep clock =>
    obtain ⟨channel, swept, rfl⟩ := Option.map_eq_some_iff.mp moved
    simp only [BusEvent.begins, Bool.not_false, Bool.and_true]
    exact holds.shrink (shrinks_hereditary.sweep (.refl holds.closed) swept)
  | lock _ | purge | build _ | put _ | get | timeOut | clear _ | bridge _ | receive _ | deliver =>
    cases own

/-- An event that comes apart from other threads keeps the invariant. -/
theorem invariant_step {ticks : Ticks} {event : BridgeEvent} (holds : Invariant config s)
    (apart : s.Apart event) (moved : step ticks config s event = some t) :
    Invariant config t := by
  cases event with
  | request msg =>
    obtain ⟨empty, same⟩ := Option.ite_none_right_eq_some.mp moved
    cases same
    exact holds.sendRequest msg empty
  | refused msg =>
    cases moved
    exact holds.shrink ⟨holds.closed, fun _ => id⟩
  | task event =>
    obtain ⟨own, same⟩ := Option.ite_none_right_eq_some.mp moved
    obtain ⟨bus, stepped, rfl⟩ := Option.map_eq_some_iff.mp same
    exact holds.task own apart stepped
  | reach =>
    simp only [step] at moved
    split at moved
    · rename_i cfg writing
      obtain ⟨first, same⟩ := Option.ite_none_left_eq_some.mp moved
      cases same
      rw [not_or, Bool.not_eq_true, Bool.not_eq_true] at first
      exact holds.reach writing first.1 first.2
    · cases moved
  | answer item cc data room =>
    obtain ⟨member, received⟩ := Option.ite_none_right_eq_some.mp moved
    exact holds.answer member received
  | lose item =>
    obtain ⟨member, same⟩ := Option.ite_none_right_eq_some.mp moved
    cases same
    exact holds.lose member
  | stray msg cc data room =>
    obtain ⟨-, received⟩ := Option.ite_none_right_eq_some.mp moved
    rw [receive_unmatched holds.closed apart] at received
    cases received
    exact holds
  | clear msg =>
    obtain ⟨channel, cleared, rfl⟩ := Option.map_eq_some_iff.mp moved
    exact holds.shrink (shrinks_hereditary.clear (.refl holds.closed) cleared)

theorem Invariant.bridged (holds : Invariant config s) : s.Bridged config where
  routed := holds.routed
  once := by
    apply List.nodup_iff_count_le_one.mpr
    intro answers
    cases answers with
    | none =>
      rw [count_eq_zero_of_not_mem]
      · exact Nat.zero_le 1
      · intro member
        obtain ⟨sent, there, none⟩ := List.mem_map.mp member
        obtain ⟨mark, some, -⟩ := holds.routed sent there
        exact absurd (none.symm.trans some) (by simp)
    | some mark =>
      have once := holds.once mark
      simp only [places] at once
      omega
  dropped := fun _ _ _ _ _ none => receive_unmatched holds.closed none

/-- In every guarded run, each response that is forwarded goes to the source of the request it
answers, as it has to, no request has two, and what fits no pending request is dropped. -/
theorem bridged_run {ticks : Ticks} (config : BridgeConfig) {events : List BridgeEvent}
    (apart : Meets (step ticks config) Apart start events)
    (ran : run (step ticks config) start events = some s) : s.Bridged config := by
  have kept : ∀ {state event next}, Invariant config state → Apart state event →
      step ticks config state event = some next → Invariant config next := invariant_step
  have final := invariant kept (invariant_start config) apart ran
  exact final.bridged

/-- A platform with KCS channels, for the channel of `ME_IPMB`. -/
def withKcs : BridgeConfig := ⟨[0x15, 0xA0, 0x00], meIpmb, false, true, false, fun _ _ => false⟩

def requestOf (infSource seqSource : UInt8) (mark : Nat) (seq : Seq) : IpmiMsg :=
  { request seq with infSource, seqSource, call := some mark }

def asks (infSource seqSource : UInt8) : List BridgeEvent :=
  [.request (requestOf infSource seqSource 0 0), .task (.take false),
    .task (.transmit 10 true true), .reach, .task (.written true)]

/-- Two interfaces with the same source number, answered the other way round. -/
def crossed : List BridgeEvent :=
  asks hostKcs1 7 ++ asks 0x02 7 ++
    [.answer (requestOf 0x02 7 1 2) 0xC1 [2] true, .answer (requestOf hostKcs1 7 0 1) 0x00 [1] true,
      .stray { request 1 with netfn := 0x07 } 0x00 [] true]

/-- Two forwarded requests whose answers arrive the other way round. -/
theorem bridged_run_crossed :
    ∃ s, run (step Ticks.thousand withKcs) start crossed = some s ∧
      s.forwards.map (Outgoing.interface ∘ Forward.out) = [0x02, hostKcs1] ∧ s.Bridged withKcs := by
  have reached : ∃ s ∈ run (step Ticks.thousand withKcs) start crossed,
      s.forwards.map (Outgoing.interface ∘ Forward.out) = [0x02, hostKcs1] := by decide +kernel
  obtain ⟨s, ran, forwards⟩ := reached
  exact ⟨s, ran, forwards, bridged_run withKcs (by decide +kernel) ran⟩

def answered (mark : Nat) : List BridgeEvent :=
  asks hostKcs1 0 ++ [.answer (requestOf hostKcs1 0 mark (Fin.ofNat 64 (mark + 1))) 0x00 [] true]

/-- The target is slow: the request times out, sixty-three others are answered, another interface's
request has the number again, and then the first is answered. -/
def numberAgain : List BridgeEvent :=
  asks hostKcs1 7 ++ [.task (.sweep fun _ => 5000)] ++
    ((List.range 63).flatMap fun index => answered (index + 1)) ++ asks 0x02 9 ++
    [.answer (requestOf hostKcs1 7 0 1) 0x00 [1] true]

/-- The other interface has the response to the request that timed out. -/
theorem numberAgain_misrouted :
    ∃ s, run (step Ticks.thousand withKcs) start numberAgain = some s ∧ ¬ s.Bridged withKcs := by
  have reached : ∃ s ∈ run (step Ticks.thousand withKcs) start numberAgain,
      (∃ sent ∈ s.forwards, sent.answers = some 0 ∧ sent.out.interface = 0x02) ∧
        ∀ request ∈ s.requests[0]?, request.infSource = hostKcs1 := by
    decide +kernel
  obtain ⟨s, ran, ⟨sent, member, answers, interface⟩, source⟩ := reached
  refine ⟨s, ran, fun bridged => ?_⟩
  obtain ⟨mark, same, request, found, right, -⟩ := bridged.routed sent member
  obtain rfl : mark = 0 := Option.some.inj (same.symm.trans answers)
  rw [interface, source request found] at right
  cases right

end Bridge

end OpenBic.Ipmb
