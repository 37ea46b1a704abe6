import OpenBic.Obmf.Request

/-!
# KCS over OBMF

The host's requests on the KCS channels, bridged to the BMC: `kcs_read_task`, a thread for each KCS
channel, `obmf_ipmi_send`, and `handle_ipmi_response` with its callback. All threads share one
response context and one semaphore. The OBMF channel below is the one of `Obmf.Request`. Beside the
state stand the responses that the BMC gave and what was written to the KCS channels.
-/

namespace OpenBic.Obmf

open List

open Library.Machine

def kcsBuffSize : Nat := 256

def obmfRequestMaxRetry : Nat := 2

def kcsResponseTimeoutMs : Nat := 5000

/-- A request as a KCS thread reads it into `ibuf`. -/
structure KcsRequest where
  netfnLun : UInt8
  cmd : UInt8
  data : List UInt8
deriving DecidableEq

/-- `netfn_no_lun`. -/
def KcsRequest.netfn (request : KcsRequest) : UInt8 := request.netfnLun >>> 2

/-- What a response carries, as in `obmf_ipmi_rsp_ctx`. -/
structure IpmiReply where
  netfnLun : UInt8
  cmd : UInt8
  cc : UInt8
  /-- The first `data_len` bytes of `data`. -/
  data : List UInt8

/-- `handle_ipmi_response` up to the callback: nothing for an error status or a short payload. -/
def handleIpmiResponse (status : UInt8) (payload : List UInt8) : Option IpmiReply :=
  if status ≠ 0 then none
  else
    match payload with
    | _ :: netfnLun :: cmd :: rest => some ⟨netfnLun, cmd, rest.headD 0, rest.tail⟩
    | _ => none

/-- The data that `kcs_obmf_ipmi_rsp_cb` keeps. -/
def IpmiReply.kept (reply : IpmiReply) : List UInt8 :=
  reply.data.take (min (reply.data.length % 65536) kcsBuffSize)

/-- The net function that is written back for the one of a request or of a response. -/
def replyNetfn (netfn : UInt8) : UInt8 := (netfn ||| 1) <<< 2

/-- A response that carries the net function and the command of a request. -/
def IpmiReply.Answers (reply : IpmiReply) (request : KcsRequest) : Prop :=
  replyNetfn (reply.netfnLun >>> 2) = replyNetfn request.netfn ∧ reply.cmd = request.cmd

instance (reply : IpmiReply) (request : KcsRequest) : Decidable (reply.Answers request) :=
  inferInstanceAs (Decidable (_ ∧ _))

def IpmiReply.bytes (reply : IpmiReply) : List UInt8 :=
  replyNetfn (reply.netfnLun >>> 2) :: reply.cmd :: reply.cc :: reply.data

/-- A response of the BMC. -/
structure IpmiAnswer where
  id : Nat
  request : KcsRequest
  payload : List UInt8

/-- What the host has to read for a response: net function and command of its request, then the
completion code and the data of the response. -/
def IpmiAnswer.bytes (answer : IpmiAnswer) : List UInt8 :=
  replyNetfn answer.request.netfn :: answer.request.cmd :: answer.payload.drop 3

/-- Where a KCS thread is. -/
inductive KcsPhase where
  /-- Before `kcs_nuvoton_read`. -/
  | polling
  /-- In `obmf_ipmi_send`, with the tries that are left. -/
  | sending (retries : Nat)
  /-- In `k_sem_take`, for the response to a request sent at that time. -/
  | waiting (id since : Nat)
  /-- Behind `k_sem_take`. -/
  | taken (id : Nat)
  | copied (id : Nat) (netfnLun cmd cc : UInt8) (size : Nat)

def KcsPhase.inFlight : KcsPhase → Bool
  | .polling | .sending _ => false
  | .waiting .. | .taken _ | .copied .. => true

def KcsPhase.waitsFor (phase : KcsPhase) (id : Nat) : Bool :=
  match phase with
  | .waiting expected _ => expected == id
  | _ => false

/-- A KCS channel with its thread. -/
structure Kcs where
  lastRead : KcsRequest
  phase : KcsPhase

/-- A response written to a KCS channel. -/
structure KcsWrite where
  index : Nat
  request : KcsRequest
  id : Nat
  bytes : List UInt8
deriving DecidableEq

/-- What the platform decides about requests. -/
structure KcsPlatform where
  toBic : UInt8 → UInt8 → Bool
  immediate : UInt8 → UInt8 → Bool

/-- The KCS channels over their OBMF channel. -/
structure KcsBridge where
  channel : Requests KcsRequest
  kcs : List Kcs
  given : Bool
  ctx : IpmiReply
  filling : Option (Nat × IpmiReply)
  answers : List IpmiAnswer
  written : List KcsWrite

/-- What happens on the KCS channels and below. -/
inductive KcsEvent where
  | obmf (event : RequestEvent KcsRequest)
  | read (index : Nat) (request : KcsRequest)
  | fail (index : Nat)
  /-- A thread calls `obmf_send_request`, with whether memory is left and the queue is full. -/
  | send (index : Nat) (heap full : Bool)
  | response (id : Nat) (status : UInt8) (payload : List UInt8)
  | deliver
  | take (index : Nat)
  | giveUp (index : Nat)
  | copy (index : Nat) (heap : Bool)
  | write (index : Nat)

namespace Requests

variable {ρ : Type} {channel after : Requests ρ}

theorem getResponse_ne (channel : Requests ρ) (id : Nat) (clears : Bool) :
    ∀ item ∈ (channel.getResponse id clears).items, item.id ≠ id := by
  have dropped : ∀ item ∈ (channel.drop id).items, item.id ≠ id := fun item listed =>
    of_decide_eq_true (List.mem_filter.mp listed).2
  simp only [Requests.getResponse]
  split
  · exact dropped
  · split <;> exact dropped

theorem follows_sendRequest {request : ρ} {heap full : Bool}
    (refused : (channel.sendRequest request heap full).2 ≠ .ok) :
    channel.Follows (channel.sendRequest request heap full).1 := by
  have given : channel.Follows
      (if channel.tag.isOutstanding then channel.abandon (channel.next - 1) else channel) := by
    split
    · exact follows_abandon ..
    · exact .refl _
  simp only [sendRequest, commit] at refused ⊢
  split
  · exact .refl _
  rename_i enabled
  split
  · exact .refl _
  rename_i idle
  split
  · exact ⟨given.next, given.items⟩
  rename_i memory
  split
  · exact ⟨given.next, given.items⟩
  · rename_i room
    rw [if_neg enabled, if_neg idle, if_neg memory, if_neg room] at refused
    exact absurd rfl refused

theorem sendRequest_ok {request : ρ} {heap full : Bool}
    (accepted : (channel.sendRequest request heap full).2 = .ok) :
    (channel.sendRequest request heap full).1.next = channel.next + 1 ∧
      ∀ item ∈ (channel.sendRequest request heap full).1.items,
        (∃ old ∈ channel.items, old.id = item.id ∧ old.request = item.request) ∨
          item.id = channel.next ∧ item.request = request := by
  have given : channel.Follows
      (if channel.tag.isOutstanding then channel.abandon (channel.next - 1) else channel) := by
    split
    · exact follows_abandon ..
    · exact .refl _
  simp only [sendRequest, commit] at accepted ⊢
  split at accepted
  · cases accepted
  rename_i enabled
  split at accepted
  · cases accepted
  rename_i idle
  split at accepted
  · cases accepted
  rename_i memory
  split at accepted
  · cases accepted
  rename_i room
  rw [if_neg enabled, if_neg idle, if_neg memory, if_neg room]
  refine ⟨congrArg (· + 1) given.next, fun item listed => ?_⟩
  rcases List.mem_append.mp listed with before | new
  · exact .inl (given.items item before)
  · obtain rfl := List.mem_singleton.mp new
    exact .inr ⟨given.next, rfl⟩

end Requests

namespace KcsBridge

/-- `kcs_device_init` with some KCS channels. -/
def init (count : Nat) : KcsBridge :=
  ⟨.init, List.replicate count ⟨⟨0, 0, []⟩, .polling⟩, false, ⟨0, 0, 0, []⟩, none, [], []⟩

def setKcs (bridge : KcsBridge) (index : Nat) (kcs : Kcs) : KcsBridge :=
  { bridge with kcs := bridge.kcs.set index kcs }

/-- One try of `obmf_ipmi_send`. -/
def trySend (bridge : KcsBridge) (index : Nat) (kcs : Kcs) (retries : Nat) (heap full : Bool) :
    KcsBridge :=
  let sent := bridge.channel.sendRequest kcs.lastRead heap full
  let after := { bridge with channel := sent.1 }
  match sent.2 with
  | .ok => after.setKcs index { kcs with phase := .waiting bridge.channel.next sent.1.now }
  | .busy =>
    if retries ≤ 1 then
      { after with channel := sent.1.clear }.setKcs index { kcs with phase := .polling }
    else after.setKcs index { kcs with phase := .sending (retries - 1) }
  | .netDown | .noMem | .noBufs => after.setKcs index { kcs with phase := .polling }

/-- `obmf_get_response` with a response on the channel, up to the header of the context. -/
def getResponse (bridge : KcsBridge) (id : Nat) (request : KcsRequest) (payload : List UInt8) :
    Option IpmiReply → KcsBridge
  | none => { bridge with channel := bridge.channel.getResponse id true }
  | some reply =>
    let answered := { bridge with
      channel := bridge.channel.getResponse id false
      answers := bridge.answers ++ [⟨id, request, payload⟩] }
    if bridge.channel.tag.isOutstanding = false then answered
    else { answered with
      ctx := { bridge.ctx with netfnLun := reply.netfnLun, cmd := reply.cmd, cc := reply.cc }
      filling := some (id, reply) }

/-- The rest of `kcs_obmf_ipmi_rsp_cb` and of `handle_ipmi_response`. -/
def deliver (bridge : KcsBridge) (reply : IpmiReply) : KcsBridge :=
  { bridge with
    ctx := { bridge.ctx with data := reply.kept }
    given := true
    filling := none
    channel := bridge.channel.clear }

/-- The bytes at the data of the response buffer after `memcpy`; what does not fit is lost, and what
`malloc` left is taken as zero. -/
def copyData (size : Nat) (data : List UInt8) : List UInt8 :=
  data.take size ++ List.replicate (size - data.length) 0

def writeBack (pal : KcsPlatform) (bridge : KcsBridge) (index : Nat) (kcs : Kcs) (id : Nat)
    (netfnLun cmd cc : UInt8) (size : Nat) : KcsBridge :=
  let bytes := replyNetfn (netfnLun >>> 2) :: cmd :: cc :: copyData size bridge.ctx.data
  let after := bridge.setKcs index { kcs with phase := .polling }
  if pal.immediate kcs.lastRead.netfn kcs.lastRead.cmd then after
  else { after with written := bridge.written ++ [⟨index, kcs.lastRead, id, bytes⟩] }

def stepKcs (pal : KcsPlatform) (bridge : KcsBridge) (index : Nat) (kcs : Kcs) :
    KcsEvent → Option KcsBridge
  | .read _ request =>
    match kcs.phase with
    | .polling =>
      some (bridge.setKcs index ⟨request,
        if pal.toBic request.netfn request.cmd then .polling else .sending obmfRequestMaxRetry⟩)
    | _ => none
  | .fail _ =>
    match kcs.phase with
    | .sending _ => some (bridge.setKcs index { kcs with phase := .polling })
    | _ => none
  | .send _ heap full =>
    match kcs.phase with
    | .sending retries => some (bridge.trySend index kcs retries heap full)
    | _ => none
  | .take _ =>
    match kcs.phase, bridge.given with
    | .waiting id _, true =>
      some ({ bridge with given := false }.setKcs index { kcs with phase := .taken id })
    | _, _ => none
  | .giveUp _ =>
    match kcs.phase, bridge.given with
    | .waiting _ since, false =>
      if since + kcsResponseTimeoutMs ≤ bridge.channel.now then
        some (bridge.setKcs index { kcs with phase := .polling })
      else none
    | _, _ => none
  | .copy _ heap =>
    match kcs.phase with
    | .taken id =>
      some (bridge.setKcs index { kcs with
        phase :=
          if heap then
            .copied id bridge.ctx.netfnLun bridge.ctx.cmd bridge.ctx.cc bridge.ctx.data.length
          else .polling })
    | _ => none
  | .write _ =>
    match kcs.phase with
    | .copied id netfnLun cmd cc size =>
      some (writeBack pal bridge index kcs id netfnLun cmd cc size)
    | _ => none
  | .obmf _ | .response .. | .deliver => none

def step (pal : KcsPlatform) (bridge : KcsBridge) : KcsEvent → Option KcsBridge
  | .obmf event =>
    if event.ofChannel then
      (bridge.channel.step event).map fun channel => { bridge with channel := channel }
    else none
  | .response id status payload =>
    match bridge.filling, bridge.channel.items.find? fun item => item.id = id with
    | none, some item =>
      if item.stage = .unanswered then
        some (bridge.getResponse id item.request payload (handleIpmiResponse status payload))
      else none
    | _, _ => none
  | .deliver => bridge.filling.map fun filled => bridge.deliver filled.2
  | .read index request => bridge.kcs[index]?.bind
    (stepKcs pal bridge index · (.read index request))
  | .fail index => bridge.kcs[index]?.bind (stepKcs pal bridge index · (.fail index))
  | .send index heap full =>
    bridge.kcs[index]?.bind (stepKcs pal bridge index · (.send index heap full))
  | .take index => bridge.kcs[index]?.bind (stepKcs pal bridge index · (.take index))
  | .giveUp index => bridge.kcs[index]?.bind (stepKcs pal bridge index · (.giveUp index))
  | .copy index heap => bridge.kcs[index]?.bind (stepKcs pal bridge index · (.copy index heap))
  | .write index => bridge.kcs[index]?.bind (stepKcs pal bridge index · (.write index))

/-! ## What the host is promised -/

/-- Each response that was written is the one that the BMC gave to the request that the channel had
last read. -/
def Truthful (bridge : KcsBridge) : Prop :=
  ∀ write ∈ bridge.written, ∃ answer ∈ bridge.answers,
    answer.id = write.id ∧ answer.request = write.request ∧ write.bytes = answer.bytes

/-- A response that the host can be given: it carries net function and command of its request and a
completion code, and its data fits in the buffer. -/
def Complete (bridge : KcsBridge) (id : Nat) (status : UInt8) (payload : List UInt8) : Prop :=
  4 ≤ payload.length ∧ payload.length ≤ 4 + kcsBuffSize ∧
    ∀ item ∈ bridge.channel.items, item.id = id →
      ∀ reply ∈ handleIpmiResponse status payload, reply.Answers item.request

/-- The condition on a step: a request is sent while no other waits for its response, a response
that is taken is complete and is waited for, and no wait ends while a response is filled in. -/
def OnTime (bridge : KcsBridge) : KcsEvent → Prop
  | .send index heap full =>
    ∀ kcs ∈ bridge.kcs[index]?, (bridge.channel.sendRequest kcs.lastRead heap full).2 = .ok →
      ∀ other ∈ bridge.kcs, other.phase.inFlight = false
  | .response id status payload =>
    bridge.channel.tag.isOutstanding = true → handleIpmiResponse status payload ≠ none →
      (∃ kcs ∈ bridge.kcs, kcs.phase.waitsFor id = true) ∧ bridge.Complete id status payload
  | .giveUp _ => bridge.filling = none
  | .obmf _ | .read .. | .fail _ | .deliver | .take _ | .copy .. | .write _ => True

instance (bridge : KcsBridge) (id : Nat) (status : UInt8) (payload : List UInt8) :
    Decidable (bridge.Complete id status payload) :=
  inferInstanceAs (Decidable (_ ∧ _ ∧ _))

instance (bridge : KcsBridge) : (event : KcsEvent) → Decidable (bridge.OnTime event)
  | .send .. => inferInstanceAs (Decidable (∀ kcs ∈ _, _))
  | .response .. => inferInstanceAs (Decidable (_ → _ → (∃ kcs ∈ _, _) ∧ _))
  | .giveUp _ => inferInstanceAs (Decidable (_ = _))
  | .obmf _ | .read .. | .fail _ | .deliver | .take _ | .copy .. | .write _ => .isTrue trivial

/-! ## What holds in every state -/

/-- A request that was queued is the one that the host wrote. -/
def Sent (bridge : KcsBridge) (kcs : Kcs) (id : Nat) : Prop :=
  id < bridge.channel.next ∧
    ∀ item ∈ bridge.channel.items, item.id = id → item.request = kcs.lastRead

/-- A reply is the answer to the request of a channel. -/
def Carries (bridge : KcsBridge) (kcs : Kcs) (id : Nat) (reply : IpmiReply) : Prop :=
  ∃ answer ∈ bridge.answers,
    answer.id = id ∧ answer.request = kcs.lastRead ∧ reply.bytes = answer.bytes

/-- No answer is filled in or given. -/
def Quiet (bridge : KcsBridge) : Prop := bridge.filling = none ∧ bridge.given = false

/-- What may be in the context while a channel waits. -/
def Awaits (bridge : KcsBridge) (kcs : Kcs) (id : Nat) : Prop :=
  match bridge.filling, bridge.given with
  | none, false => True
  | none, true => bridge.Carries kcs id bridge.ctx
  | some (filled, reply), false =>
    filled = id ∧ bridge.Carries kcs id reply ∧ reply.kept = reply.data ∧
      bridge.ctx = { reply with data := bridge.ctx.data }
  | some _, true => False

/-- What a channel may rely on where it is. -/
def Stands (bridge : KcsBridge) (kcs : Kcs) : Prop :=
  match kcs.phase with
  | .polling | .sending _ => True
  | .waiting id _ => bridge.Sent kcs id ∧ bridge.Awaits kcs id
  | .taken id => bridge.Quiet ∧ bridge.Carries kcs id bridge.ctx
  | .copied id netfnLun cmd cc size =>
    bridge.Quiet ∧ bridge.Carries kcs id ⟨netfnLun, cmd, cc, bridge.ctx.data⟩ ∧
      size = bridge.ctx.data.length

/-- The requests are numbered, and an answered one is no longer under way. -/
structure Numbered (bridge : KcsBridge) : Prop where
  fresh : ∀ item ∈ bridge.channel.items, item.id < bridge.channel.next
  answered : ∀ answer ∈ bridge.answers, answer.id < bridge.channel.next ∧
    ∀ item ∈ bridge.channel.items, item.id ≠ answer.id

/-- What holds in every state. -/
structure Invariant (bridge : KcsBridge) : Prop where
  numbered : bridge.Numbered
  alone : ∀ (i j : Nat) (one other : Kcs), bridge.kcs[i]? = some one →
    bridge.kcs[j]? = some other → one.phase.inFlight = true → other.phase.inFlight = true → i = j
  stands : ∀ (i : Nat) (kcs : Kcs), bridge.kcs[i]? = some kcs → bridge.Stands kcs
  quiet : (∀ (i : Nat) (kcs : Kcs), bridge.kcs[i]? = some kcs → kcs.phase.inFlight = false) →
    bridge.Quiet
  truthful : bridge.Truthful

variable {bridge after : KcsBridge}

theorem invariant_init (count : Nat) : (init count).Invariant where
  numbered := ⟨fun _ listed => absurd listed not_mem_nil,
    fun _ listed => absurd listed not_mem_nil⟩
  alone := by
    intro i j one other found _ flying _
    have idle := eq_of_mem_replicate (mem_of_getElem? found)
    rw [idle] at flying
    cases flying
  stands := by
    intro i kcs found
    obtain rfl := eq_of_mem_replicate (mem_of_getElem? found)
    trivial
  quiet := fun _ => ⟨rfl, rfl⟩
  truthful := fun _ listed => absurd listed not_mem_nil

theorem stands_of_idle {kcs : Kcs} (idle : kcs.phase.inFlight = false) : bridge.Stands kcs := by
  obtain ⟨lastRead, phase⟩ := kcs
  cases phase with
  | polling | sending retries => trivial
  | waiting id since => cases idle
  | taken id => cases idle
  | copied id netfnLun cmd cc size => cases idle

theorem getElem?_moved {index i : Nat} {next found : Kcs}
    (threads : after.kcs = bridge.kcs.set index next) (there : after.kcs[i]? = some found) :
    index = i ∧ found = next ∨ index ≠ i ∧ bridge.kcs[i]? = some found := by
  rw [threads] at there
  by_cases same : index = i
  · rw [same, getElem?_set_self'] at there
    obtain ⟨old, -, rfl⟩ := Option.map_eq_some_iff.mp there
    exact .inl ⟨same, rfl⟩
  · rw [getElem?_set_ne same] at there
    exact .inr ⟨same, there⟩

theorem getElem?_moved_self {index : Nat} {kcs next : Kcs}
    (threads : after.kcs = bridge.kcs.set index next) (found : bridge.kcs[index]? = some kcs) :
    after.kcs[index]? = some next := by
  obtain ⟨inside, -⟩ := List.getElem?_eq_some_iff.mp found
  rw [threads]
  exact getElem?_set_self inside

theorem Numbered.follows (holds : bridge.Numbered)
    (follows : bridge.channel.Follows after.channel) (answers : after.answers = bridge.answers) :
    after.Numbered where
  fresh := by
    intro item listed
    obtain ⟨old, oldListed, same, -⟩ := follows.items item listed
    rw [follows.next, ← same]
    exact holds.fresh old oldListed
  answered := by
    intro answer given
    rw [answers] at given
    obtain ⟨used, gone⟩ := holds.answered answer given
    refine ⟨follows.next ▸ used, fun item listed => ?_⟩
    obtain ⟨old, oldListed, same, -⟩ := follows.items item listed
    exact same ▸ gone old oldListed

theorem Sent.follows {kcs : Kcs} {id : Nat} (sent : bridge.Sent kcs id)
    (follows : bridge.channel.Follows after.channel) : after.Sent kcs id := by
  refine ⟨follows.next ▸ sent.1, fun item listed same => ?_⟩
  obtain ⟨old, oldListed, sameId, sameRequest⟩ := follows.items item listed
  exact sameRequest ▸ sent.2 old oldListed (sameId.trans same)

theorem Carries.mono {kcs : Kcs} {id : Nat} {reply : IpmiReply}
    (carries : bridge.Carries kcs id reply) (answers : bridge.answers ⊆ after.answers) :
    after.Carries kcs id reply := by
  obtain ⟨answer, given, same⟩ := carries
  exact ⟨answer, answers given, same⟩

/-- What a thread expects stays when no request is added and no response is lost. -/
theorem Stands.follows {kcs : Kcs} (stands : bridge.Stands kcs)
    (follows : bridge.channel.Follows after.channel) (given : after.given = bridge.given)
    (ctx : after.ctx = bridge.ctx) (filling : after.filling = bridge.filling)
    (answers : bridge.answers ⊆ after.answers) : after.Stands kcs := by
  obtain ⟨lastRead, phase⟩ := kcs
  have quiet : bridge.Quiet → after.Quiet := fun quiet =>
    ⟨filling.trans quiet.1, given.trans quiet.2⟩
  cases phase with
  | polling | sending retries => trivial
  | waiting id since =>
    obtain ⟨sent, awaits⟩ := stands
    refine ⟨sent.follows follows, ?_⟩
    simp only [Awaits, filling, given, ctx] at awaits ⊢
    split
    · trivial
    · rename_i empty full
      simp only [empty, full] at awaits
      exact awaits.mono answers
    · rename_i filled reply there waits
      simp only [there, waits] at awaits
      exact ⟨awaits.1, awaits.2.1.mono answers, awaits.2.2⟩
    · rename_i there full
      simp only [there, full] at awaits
  | taken id =>
    obtain ⟨before, carries⟩ := stands
    exact ⟨quiet before, ctx ▸ carries.mono answers⟩
  | copied id netfnLun cmd cc size =>
    obtain ⟨before, carries, length⟩ := stands
    exact ⟨quiet before, ctx ▸ carries.mono answers, ctx ▸ length⟩

theorem Invariant.extend (holds : bridge.Invariant) (numbered : after.Numbered)
    (follows : bridge.channel.Follows after.channel) (kcs : after.kcs = bridge.kcs)
    (given : after.given = bridge.given) (ctx : after.ctx = bridge.ctx)
    (filling : after.filling = bridge.filling) (answers : bridge.answers ⊆ after.answers)
    (written : after.written = bridge.written) : after.Invariant where
  numbered := numbered
  alone := kcs ▸ holds.alone
  stands := fun i thread found =>
    (holds.stands i thread (kcs ▸ found)).follows follows given ctx filling answers
  quiet := fun idle => by
    have quiet := holds.quiet (kcs ▸ idle)
    exact ⟨filling.trans quiet.1, given.trans quiet.2⟩
  truthful := by
    intro write listed
    obtain ⟨answer, old, same⟩ := holds.truthful write (written ▸ listed)
    exact ⟨answer, answers old, same⟩

theorem Invariant.follows (holds : bridge.Invariant) {channel : Requests KcsRequest}
    (follows : bridge.channel.Follows channel) :
    Invariant { bridge with channel := channel } :=
  holds.extend (holds.numbered.follows follows rfl) follows rfl rfl rfl rfl
    (List.Subset.refl _) rfl

theorem Invariant.setIdle (holds : bridge.Invariant) {index : Nat} {kcs next : Kcs}
    (found : bridge.kcs[index]? = some kcs) (before : kcs.phase.inFlight = false)
    (idle : next.phase.inFlight = false) : (bridge.setKcs index next).Invariant where
  numbered := holds.numbered.follows (.refl _) rfl
  alone := by
    intro i j one other oneFound otherFound oneFlies otherFlies
    rcases getElem?_moved rfl oneFound with ⟨-, rfl⟩ | ⟨-, oneBefore⟩
    · exact absurd (idle.symm.trans oneFlies) (by decide)
    rcases getElem?_moved rfl otherFound with ⟨-, rfl⟩ | ⟨-, otherBefore⟩
    · exact absurd (idle.symm.trans otherFlies) (by decide)
    exact holds.alone i j one other oneBefore otherBefore oneFlies otherFlies
  stands := by
    intro i thread threadFound
    rcases getElem?_moved rfl threadFound with ⟨-, rfl⟩ | ⟨-, threadBefore⟩
    · exact stands_of_idle idle
    · have before := holds.stands i thread threadBefore
      exact before.follows (.refl _) rfl rfl rfl (List.Subset.refl _)
  quiet := by
    intro allIdle
    refine holds.quiet fun i thread threadFound => ?_
    by_cases same : index = i
    · obtain rfl : kcs = thread := Option.some.inj (found.symm.trans (same ▸ threadFound))
      exact before
    · refine allIdle i thread ?_
      rw [setKcs, getElem?_set_ne same]
      exact threadFound
  truthful := holds.truthful

/-- No other channel is in flight. -/
def Only (bridge : KcsBridge) (index : Nat) : Prop :=
  ∀ (i : Nat) (other : Kcs), bridge.kcs[i]? = some other → index ≠ i → other.phase.inFlight = false

theorem Invariant.only (holds : bridge.Invariant) {index : Nat} {kcs : Kcs}
    (found : bridge.kcs[index]? = some kcs) (flies : kcs.phase.inFlight = true) :
    bridge.Only index := by
  intro i other otherFound different
  by_contra otherFlies
  rw [Bool.not_eq_false] at otherFlies
  exact different (holds.alone index i kcs other found otherFound flies otherFlies)

theorem Invariant.setOnly {index : Nat} {kcs next : Kcs} (only : bridge.Only index)
    (found : bridge.kcs[index]? = some kcs) (threads : after.kcs = bridge.kcs.set index next)
    (numbered : after.Numbered) (stands : after.Stands next)
    (quiet : next.phase.inFlight = false → after.Quiet) (truthful : after.Truthful) :
    after.Invariant where
  numbered := numbered
  alone := by
    intro i j one other oneFound otherFound oneFlies otherFlies
    rcases getElem?_moved threads oneFound with ⟨rfl, -⟩ | ⟨oneOther, oneBefore⟩
    · rcases getElem?_moved threads otherFound with ⟨rfl, -⟩ | ⟨otherOther, otherBefore⟩
      · rfl
      · simp [only j other otherBefore otherOther] at otherFlies
    · simp [only i one oneBefore oneOther] at oneFlies
  stands := by
    intro i thread threadFound
    rcases getElem?_moved threads threadFound with ⟨-, rfl⟩ | ⟨different, threadBefore⟩
    · exact stands
    · exact stands_of_idle (only i thread threadBefore different)
  quiet := fun allIdle => quiet (allIdle index next (getElem?_moved_self threads found))
  truthful := truthful

theorem Invariant.refused (holds : bridge.Invariant) {index : Nat} {kcs next : Kcs}
    {channel : Requests KcsRequest} (found : bridge.kcs[index]? = some kcs)
    (before : kcs.phase.inFlight = false) (idle : next.phase.inFlight = false)
    (follows : bridge.channel.Follows channel) :
    ({ bridge with channel := channel }.setKcs index next).Invariant := by
  have moved := holds.follows follows
  exact moved.setIdle found before idle

theorem Numbered.accepted (holds : bridge.Numbered) {request : KcsRequest}
    (next : after.channel.next = bridge.channel.next + 1)
    (items : ∀ item ∈ after.channel.items,
      (∃ old ∈ bridge.channel.items, old.id = item.id ∧ old.request = item.request) ∨
        item.id = bridge.channel.next ∧ item.request = request)
    (answers : after.answers = bridge.answers) : after.Numbered where
  fresh := by
    intro item listed
    rw [next]
    rcases items item listed with ⟨old, oldListed, same, -⟩ | ⟨new, -⟩
    · have below := holds.fresh old oldListed
      omega
    · omega
  answered := by
    intro answer given
    rw [answers] at given
    obtain ⟨used, gone⟩ := holds.answered answer given
    rw [next]
    refine ⟨by omega, fun item listed => ?_⟩
    rcases items item listed with ⟨old, oldListed, same, -⟩ | ⟨new, -⟩
    · exact same ▸ gone old oldListed
    · omega

theorem Numbered.sent (holds : bridge.Numbered) {kcs : Kcs}
    (next : after.channel.next = bridge.channel.next + 1)
    (items : ∀ item ∈ after.channel.items,
      (∃ old ∈ bridge.channel.items, old.id = item.id ∧ old.request = item.request) ∨
        item.id = bridge.channel.next ∧ item.request = kcs.lastRead) :
    after.Sent kcs bridge.channel.next := by
  refine ⟨by omega, fun item listed same => ?_⟩
  rcases items item listed with ⟨old, oldListed, sameOld, -⟩ | ⟨-, request⟩
  · have below := holds.fresh old oldListed
    omega
  · exact request

theorem Invariant.accepted (holds : bridge.Invariant) {index : Nat} {kcs : Kcs} {heap full : Bool}
    (found : bridge.kcs[index]? = some kcs)
    (idle : ∀ (i : Nat) (other : Kcs), bridge.kcs[i]? = some other → other.phase.inFlight = false)
    (ok : (bridge.channel.sendRequest kcs.lastRead heap full).2 = .ok) (since : Nat) :
    ({ bridge with channel := (bridge.channel.sendRequest kcs.lastRead heap full).1 }.setKcs index
      { kcs with phase := .waiting bridge.channel.next since }).Invariant := by
  obtain ⟨next, items⟩ := Requests.sendRequest_ok ok
  obtain ⟨filling, given⟩ := holds.quiet idle
  have numbered := holds.numbered
  apply Invariant.setOnly (fun i other otherFound _ => idle i other otherFound) found rfl
  case numbered => exact numbered.accepted next items rfl
  case stands =>
    refine ⟨numbered.sent next items, ?_⟩
    simp only [Awaits, setKcs, filling, given]
  case quiet => exact fun flies => absurd flies (by simp [KcsPhase.inFlight])
  case truthful => exact holds.truthful

theorem Invariant.trySend (holds : bridge.Invariant) {index retries : Nat} {kcs : Kcs}
    {heap full : Bool} (found : bridge.kcs[index]? = some kcs)
    (before : kcs.phase = .sending retries) (onTime : bridge.OnTime (.send index heap full)) :
    (bridge.trySend index kcs retries heap full).Invariant := by
  have between : kcs.phase.inFlight = false := by
    rw [before]
    rfl
  have follows : (bridge.channel.sendRequest kcs.lastRead heap full).2 ≠ .ok →
      bridge.channel.Follows (bridge.channel.sendRequest kcs.lastRead heap full).1 :=
    Requests.follows_sendRequest
  simp only [KcsBridge.trySend]
  cases result : (bridge.channel.sendRequest kcs.lastRead heap full).2 with
  | ok =>
    apply holds.accepted found _ result
    intro i other otherFound
    exact onTime kcs found result other (mem_of_getElem? otherFound)
  | busy =>
    have same := follows (by simp [result])
    simp only
    split
    · exact holds.refused found between rfl ⟨same.next, same.items⟩
    · exact holds.refused found between rfl same
  | netDown => exact holds.refused found between rfl (follows (by simp [result]))
  | noMem => exact holds.refused found between rfl (follows (by simp [result]))
  | noBufs => exact holds.refused found between rfl (follows (by simp [result]))

theorem Invariant.take (holds : bridge.Invariant) {index id since : Nat} {kcs : Kcs}
    (found : bridge.kcs[index]? = some kcs) (before : kcs.phase = .waiting id since)
    (given : bridge.given = true) :
    ({ bridge with given := false }.setKcs index { kcs with phase := .taken id }).Invariant := by
  have flies : kcs.phase.inFlight = true := by
    rw [before]
    rfl
  have stands := holds.stands index kcs found
  simp only [Stands, before] at stands
  have awaits := stands.2
  simp only [Awaits, given] at awaits
  cases filling : bridge.filling with
  | some filled =>
    rw [filling] at awaits
    exact awaits.elim
  | none =>
    rw [filling] at awaits
    apply Invariant.setOnly (holds.only found flies) found rfl
    case numbered => exact holds.numbered.follows (.refl _) rfl
    case stands => exact ⟨⟨rfl, rfl⟩, awaits⟩
    case quiet => exact fun _ => ⟨rfl, rfl⟩
    case truthful => exact holds.truthful

theorem Invariant.giveUp (holds : bridge.Invariant) {index id since : Nat} {kcs : Kcs}
    (found : bridge.kcs[index]? = some kcs) (before : kcs.phase = .waiting id since)
    (given : bridge.given = false) (filling : bridge.filling = none) :
    (bridge.setKcs index { kcs with phase := .polling }).Invariant := by
  have flies : kcs.phase.inFlight = true := by
    rw [before]
    rfl
  apply Invariant.setOnly (holds.only found flies) found rfl
  case numbered => exact holds.numbered.follows (.refl _) rfl
  case stands => trivial
  case quiet => exact fun _ => ⟨filling, given⟩
  case truthful => exact holds.truthful

theorem Invariant.copy (holds : bridge.Invariant) {index id : Nat} {kcs : Kcs}
    (found : bridge.kcs[index]? = some kcs) (before : kcs.phase = .taken id) (heap : Bool) :
    (bridge.setKcs index { kcs with
      phase :=
        if heap then
          .copied id bridge.ctx.netfnLun bridge.ctx.cmd bridge.ctx.cc bridge.ctx.data.length
        else .polling }).Invariant := by
  have flies : kcs.phase.inFlight = true := by
    rw [before]
    rfl
  have stands := holds.stands index kcs found
  simp only [Stands, before] at stands
  obtain ⟨quiet, carries⟩ := stands
  apply Invariant.setOnly (holds.only found flies) found rfl
  case numbered => exact holds.numbered.follows (.refl _) rfl
  case stands =>
    cases heap with
    | false => trivial
    | true => exact ⟨quiet, carries, rfl⟩
  case quiet => exact fun _ => quiet
  case truthful => exact holds.truthful

theorem copyData_self (data : List UInt8) : copyData data.length data = data := by
  rw [copyData, take_length, Nat.sub_self, replicate_zero, append_nil]

theorem Invariant.writeBack (pal : KcsPlatform) (holds : bridge.Invariant) {index id size : Nat}
    {kcs : Kcs} {netfnLun cmd cc : UInt8} (found : bridge.kcs[index]? = some kcs)
    (before : kcs.phase = .copied id netfnLun cmd cc size) :
    (KcsBridge.writeBack pal bridge index kcs id netfnLun cmd cc size).Invariant := by
  have flies : kcs.phase.inFlight = true := by
    rw [before]
    rfl
  have stands := holds.stands index kcs found
  simp only [Stands, before] at stands
  obtain ⟨quiet, carries, rfl⟩ := stands
  have only := holds.only found flies
  simp only [KcsBridge.writeBack, copyData_self]
  split
  · apply Invariant.setOnly only found rfl
    case numbered => exact holds.numbered.follows (.refl _) rfl
    case stands => trivial
    case quiet => exact fun _ => quiet
    case truthful => exact holds.truthful
  · apply Invariant.setOnly only found rfl
    case numbered => exact holds.numbered.follows (.refl _) rfl
    case stands => trivial
    case quiet => exact fun _ => quiet
    case truthful =>
      intro write listed
      rcases List.mem_append.mp listed with old | new
      · exact holds.truthful write old
      · obtain rfl := List.mem_singleton.mp new
        exact carries

theorem Invariant.keepOnly {index : Nat} {kcs : Kcs} (only : bridge.Only index)
    (found : bridge.kcs[index]? = some kcs) (flies : kcs.phase.inFlight = true)
    (threads : after.kcs = bridge.kcs) (numbered : after.Numbered) (stands : after.Stands kcs)
    (truthful : after.Truthful) : after.Invariant := by
  have same : after.kcs = bridge.kcs.set index kcs := by
    obtain ⟨inside, rfl⟩ := List.getElem?_eq_some_iff.mp found
    rw [threads, set_getElem_self]
  exact .setOnly only found same numbered stands
    (fun idle => absurd (flies.symm.trans idle) (by decide)) truthful

theorem bytes_of_complete {id : Nat} {status : UInt8} {payload : List UInt8} {reply : IpmiReply}
    {item : Item KcsRequest} (complete : bridge.Complete id status payload)
    (read : handleIpmiResponse status payload = some reply)
    (listed : item ∈ bridge.channel.items) (same : item.id = id) :
    reply.bytes = IpmiAnswer.bytes ⟨id, item.request, payload⟩ ∧ reply.kept = reply.data := by
  obtain ⟨least, most, answers⟩ := complete
  obtain ⟨netfn, cmd⟩ := answers item listed same reply read
  rw [IpmiReply.bytes, netfn, cmd]
  simp only [handleIpmiResponse] at read
  split at read
  · cases read
  match payload, read with
  | command :: netfnLun :: code :: cc :: data, read =>
    cases read
    simp only [length_cons] at most
    refine ⟨rfl, ?_⟩
    simp only [IpmiReply.kept, tail_cons]
    apply take_of_length_le
    rw [Nat.mod_eq_of_lt (by simp only [kcsBuffSize] at most; omega)]
    omega
  | [_, _, _], _ => simp at least

theorem Numbered.getResponse (holds : bridge.Numbered) {id : Nat} {item : Item KcsRequest}
    (listed : item ∈ bridge.channel.items) (same : item.id = id) {payload : List UInt8}
    {clears : Bool} (channel : after.channel = bridge.channel.getResponse id clears)
    (answers : after.answers = bridge.answers ++ [⟨id, item.request, payload⟩]) :
    after.Numbered where
  fresh := by
    have kept : Numbered { bridge with channel := after.channel } :=
      holds.follows (channel ▸ bridge.channel.follows_getResponse id clears) rfl
    exact kept.fresh
  answered := by
    intro answer given
    have follows := bridge.channel.follows_getResponse id clears
    have next : after.channel.next = bridge.channel.next := channel ▸ follows.next
    rw [answers] at given
    rcases List.mem_append.mp given with old | new
    · have kept : Numbered { bridge with channel := after.channel } :=
        holds.follows (channel ▸ follows) rfl
      exact kept.answered answer old
    · obtain rfl := List.mem_singleton.mp new
      refine ⟨?_, ?_⟩
      · rw [next, ← same]
        exact holds.fresh item listed
      · rw [channel]
        exact bridge.channel.getResponse_ne id clears

theorem Invariant.unanswered (holds : bridge.Invariant) {kcs : Kcs} {id : Nat}
    {item : Item KcsRequest} (listed : item ∈ bridge.channel.items) (same : item.id = id)
    (awaits : bridge.Awaits kcs id) (empty : bridge.filling = none) : bridge.given = false := by
  by_contra full
  rw [Bool.not_eq_false] at full
  simp only [Awaits, empty, full] at awaits
  obtain ⟨answer, given, id, -⟩ := awaits
  exact (holds.numbered.answered answer given).2 item listed (same.trans id.symm)

theorem Invariant.getResponse (holds : bridge.Invariant) {id : Nat} {status : UInt8}
    {payload : List UInt8} {item : Item KcsRequest} (listed : item ∈ bridge.channel.items)
    (same : item.id = id) (empty : bridge.filling = none)
    (onTime : bridge.OnTime (.response id status payload)) :
    (bridge.getResponse id item.request payload (handleIpmiResponse status payload)).Invariant := by
  have follows := bridge.channel.follows_getResponse id
  cases read : handleIpmiResponse status payload with
  | none => exact holds.follows (follows true)
  | some reply =>
    have more : bridge.answers ⊆ bridge.answers ++ [⟨id, item.request, payload⟩] :=
      subset_append_left _ _
    simp only [KcsBridge.getResponse]
    split
    · exact holds.extend (holds.numbered.getResponse listed same rfl rfl) (follows false) rfl rfl
        rfl rfl more rfl
    · rename_i outstanding
      rw [Bool.not_eq_false] at outstanding
      obtain ⟨⟨kcs, member, waits⟩, complete⟩ := onTime outstanding (by simp [read])
      obtain ⟨index, found⟩ := mem_iff_getElem?.mp member
      obtain ⟨lastRead, phase⟩ := kcs
      match phase, waits with
      | .waiting expected since, waits =>
        obtain rfl : expected = id := by simpa [KcsPhase.waitsFor] using waits
        obtain ⟨sent, awaits⟩ := holds.stands index _ found
        have given := holds.unanswered listed same awaits empty
        obtain ⟨bytes, kept⟩ := bytes_of_complete complete read listed same
        apply Invariant.keepOnly (holds.only found rfl) found rfl
        case threads => rfl
        case numbered => exact holds.numbered.getResponse listed same rfl rfl
        case stands =>
          refine ⟨sent.follows (follows false), ?_⟩
          simp only [Awaits, given]
          refine ⟨trivial, ⟨_, mem_append_right _ (List.mem_singleton.mpr rfl), rfl,
            ?_, bytes⟩,
            kept, trivial⟩
          exact sent.2 item listed same
        case truthful =>
          intro write written
          obtain ⟨answer, old, right⟩ := holds.truthful write written
          exact ⟨answer, more old, right⟩

theorem Invariant.busy (holds : bridge.Invariant) (loud : ¬ bridge.Quiet) :
    ∃ (index : Nat) (kcs : Kcs), bridge.kcs[index]? = some kcs ∧ kcs.phase.inFlight = true := by
  by_contra none
  refine loud (holds.quiet fun i kcs found => ?_)
  by_contra flies
  rw [Bool.not_eq_false] at flies
  exact none ⟨i, kcs, found, flies⟩

theorem Invariant.deliver (holds : bridge.Invariant) {id : Nat} {reply : IpmiReply}
    (filling : bridge.filling = some (id, reply)) : (bridge.deliver reply).Invariant := by
  have loud : ¬ bridge.Quiet := fun quiet => by
    rw [Quiet, filling] at quiet
    cases quiet.1
  obtain ⟨index, ⟨lastRead, phase⟩, found, flies⟩ := holds.busy loud
  have stands := holds.stands index _ found
  cases phase with
  | polling | sending retries => cases flies
  | taken id => exact absurd stands.1 loud
  | copied id netfnLun cmd cc size => exact absurd stands.1 loud
  | waiting expected since =>
    obtain ⟨sent, awaits⟩ := stands
    apply Invariant.keepOnly (holds.only found flies) found flies
    case threads => rfl
    case numbered => exact holds.numbered.follows (.of_subset rfl (List.Subset.refl _)) rfl
    case stands =>
      refine ⟨sent.follows (.of_subset rfl (List.Subset.refl _)), ?_⟩
      cases full : bridge.given with
      | true =>
        simp only [Awaits, filling, full] at awaits
      | false =>
        simp only [Awaits, filling, full] at awaits
        obtain ⟨-, carries, kept, header⟩ := awaits
        simp only [Awaits, KcsBridge.deliver]
        rw [header, kept]
        exact carries
    case truthful => exact holds.truthful

theorem Invariant.stepKcs (pal : KcsPlatform) (holds : bridge.Invariant) {index : Nat} {kcs : Kcs}
    {event : KcsEvent} (found : bridge.kcs[index]? = some kcs) (onTime : bridge.OnTime event)
    (own : ∀ other heap full, event = .send other heap full → other = index)
    (moved : stepKcs pal bridge index kcs event = some after) : after.Invariant := by
  have rest : ∀ {next : Kcs}, (∃ retries, kcs.phase = .sending retries) ∨ kcs.phase = .polling →
      next.phase.inFlight = false → (bridge.setKcs index next).Invariant := by
    intro next between idle
    apply holds.setIdle found _ idle
    rcases between with ⟨retries, phase⟩ | phase
    · rw [phase]
      rfl
    · rw [phase]
      rfl
  cases event with
  | obmf _ | response _ _ _ | deliver => cases moved
  | read _ request =>
    simp only [KcsBridge.stepKcs] at moved
    split at moved
    · rename_i polling
      cases moved
      apply rest (.inr polling)
      split <;> rfl
    · cases moved
  | fail _ =>
    simp only [KcsBridge.stepKcs] at moved
    split at moved
    · rename_i retries sending
      cases moved
      exact rest (.inl ⟨retries, sending⟩) rfl
    · cases moved
  | send other heap full =>
    obtain rfl := own other heap full rfl
    simp only [KcsBridge.stepKcs] at moved
    split at moved
    · rename_i retries sending
      cases moved
      exact holds.trySend found sending onTime
    · cases moved
  | take _ =>
    simp only [KcsBridge.stepKcs] at moved
    split at moved
    · rename_i id since waiting given
      cases moved
      exact holds.take found waiting given
    · cases moved
  | giveUp _ =>
    simp only [KcsBridge.stepKcs] at moved
    split at moved
    · rename_i id since waiting given
      split at moved
      · cases moved
        exact holds.giveUp found waiting given onTime
      · cases moved
    · cases moved
  | copy _ heap =>
    simp only [KcsBridge.stepKcs] at moved
    split at moved
    · rename_i id taken
      cases moved
      exact holds.copy found taken heap
    · cases moved
  | write _ =>
    simp only [KcsBridge.stepKcs] at moved
    split at moved
    · rename_i id netfnLun cmd cc size copied
      cases moved
      exact holds.writeBack pal found copied
    · cases moved

/-- An event in time keeps the bridge's invariant. -/
theorem invariant_step (pal : KcsPlatform) {event : KcsEvent} (holds : bridge.Invariant)
    (onTime : bridge.OnTime event) (moved : step pal bridge event = some after) :
    after.Invariant := by
  have thread : ∀ index, (∀ other heap full, event = .send other heap full → other = index) →
      bridge.kcs[index]?.bind (KcsBridge.stepKcs pal bridge index · event) = some after →
      after.Invariant := by
    intro index own turned
    obtain ⟨kcs, found, stepped⟩ := Option.bind_eq_some_iff.mp turned
    exact holds.stepKcs pal found onTime own stepped
  cases event with
  | obmf event =>
    simp only [step] at moved
    split at moved
    · rename_i own
      obtain ⟨channel, changed, rfl⟩ := Option.map_eq_some_iff.mp moved
      exact holds.follows ((Requests.fades_step own changed).toFollows)
    · cases moved
  | response id status payload =>
    simp only [step] at moved
    split at moved
    · rename_i item empty there
      split at moved
      · cases moved
        have same : item.id = id := by simpa using find?_some there
        exact holds.getResponse (mem_of_find?_eq_some there) same empty onTime
      · cases moved
    · cases moved
  | deliver =>
    obtain ⟨⟨id, reply⟩, filling, rfl⟩ := Option.map_eq_some_iff.mp moved
    exact holds.deliver filling
  | read index request => exact thread index (by simp) moved
  | fail index => exact thread index (by simp) moved
  | send index heap full =>
    refine thread index (fun other heap full same => ?_) moved
    exact (KcsEvent.send.inj same).1.symm
  | take index => exact thread index (by simp) moved
  | giveUp index => exact thread index (by simp) moved
  | copy index heap => exact thread index (by simp) moved
  | write index => exact thread index (by simp) moved

/-- In every run whose steps are on time, each response that is written to a KCS channel is the one
that the BMC gave to the request the channel had last read. -/
theorem writes_truthful (pal : KcsPlatform) (count : Nat) {events : List KcsEvent}
    {bridge : KcsBridge} (ran : run (step pal) (init count) events = some bridge)
    (onTime : Meets (step pal) OnTime (init count) events) : bridge.Truthful := by
  have kept : ∀ {state event next}, state.Invariant → OnTime state event →
      step pal state event = some next → next.Invariant := invariant_step pal
  have final := invariant kept (invariant_init count) onTime ran
  exact final.truthful

def bridging : KcsPlatform := ⟨fun _ _ => false, fun _ _ => false⟩

/-- A thread reads a request and sends it, and the request goes out to the BMC. -/
def ask (index : Nat) (request : KcsRequest) : List KcsEvent :=
  [.read index request, .send index true false, .obmf .take, .obmf (.sent true)]

/-- Two KCS channels, one after the other, each with its response in time. -/
def oneAfterTheOther : List KcsEvent :=
  [.obmf .linkUp] ++ ask 0 ⟨0x18, 0x01, []⟩ ++
    [.response 0 0 [0, 0x1C, 0x01, 0x00, 0xAA], .deliver, .take 0, .copy 0 true, .write 0] ++
    ask 1 ⟨0x28, 0x10, [1]⟩ ++
    [.response 1 0 [0, 0x2C, 0x10, 0xC1], .deliver, .take 1, .copy 1 true, .write 1]

/-- Two requests of the host, one after the other. -/
theorem writes_truthful_oneAfterTheOther :
    ∃ bridge, run (step bridging) (init 2) oneAfterTheOther = some bridge ∧
      bridge.written.map KcsWrite.bytes = [[0x1C, 0x01, 0x00, 0xAA], [0x2C, 0x10, 0xC1]] ∧
        bridge.Truthful := by
  have reached : ∃ bridge ∈ run (step bridging) (init 2) oneAfterTheOther,
      bridge.written.map KcsWrite.bytes = [[0x1C, 0x01, 0x00, 0xAA], [0x2C, 0x10, 0xC1]] := by
    decide +kernel
  obtain ⟨bridge, ran, written⟩ := reached
  exact ⟨bridge, ran, written, writes_truthful bridging 2 ran (by decide +kernel)⟩

/-- A response comes after the wait for it; then the channel reads another request. -/
def lateResponse : List KcsEvent :=
  [.obmf .linkUp] ++ ask 0 ⟨0x18, 0x01, []⟩ ++
    [.obmf (.tick 5000), .giveUp 0, .response 0 0 [0, 0x1C, 0x01, 0x00, 0xAA], .deliver] ++
    ask 0 ⟨0x28, 0x10, [1]⟩ ++ [.take 0, .copy 0 true, .write 0]

/-- The late response is written for the later request. -/
theorem lateResponse_written :
    ∃ bridge, run (step bridging) (init 1) lateResponse = some bridge ∧ ¬ bridge.Truthful := by
  have reached : ∃ bridge ∈ run (step bridging) (init 1) lateResponse,
      ⟨0, ⟨0x28, 0x10, [1]⟩, 1, [0x1C, 0x01, 0x00, 0xAA]⟩ ∈ bridge.written ∧
        ∀ answer ∈ bridge.answers, answer.id ≠ 1 := by
    decide +kernel
  obtain ⟨bridge, ran, written, unanswered⟩ := reached
  refine ⟨bridge, ran, fun truthful => ?_⟩
  obtain ⟨answer, given, id, -⟩ := truthful _ written
  exact unanswered answer given id

end KcsBridge

end OpenBic.Obmf
