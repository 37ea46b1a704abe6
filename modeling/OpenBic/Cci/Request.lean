import OpenBic.Mctp.PendingRuns

/-!
# CCI requests

`cci.c` keys a request by `cci_msg_tag`, a `uint8_t` that every request of an MCTP instance counts
up and that nobody gives back, so that a tag is used again after 256 requests. The rest is the
pending list of `OpenBic.Mctp.Pending`.
-/

namespace OpenBic.Cci

open Library.Machine Mctp

abbrev MsgTag := Fin 256

/-- What is asked of whom. -/
structure Request where
  inst : Nat
  op : Nat
deriving DecidableEq, Inhabited

/-- What a response is compared by. -/
structure Key where
  inst : Nat
  msgTag : MsgTag
  op : Nat
deriving DecidableEq, Inhabited

/-- `sizeof(mctp_cci_hdr)` is 13, `CCI_MSG_MAX_RETRY` 3; no length is refused. -/
def config : Pending.Config := { header := 13, minLen := 0, maxRetry := 3, silentEmpty := false }

/-- `wait_recv_resp_list` and the calls, and the tags. -/
structure State where
  pending : Pending.State Request Key
  /-- `cci_msg_tag` of every MCTP instance. -/
  cciMsgTag : Nat → MsgTag

def State.start : State := { pending := .start, cciMsgTag := fun _ => 0 }

/-- What can happen next. -/
inductive Event where
  /-- `mctp_cci_read` is called, and gets its queue and arguments allocated or not. -/
  | read (inst op rbufLen : Nat) (mallocOk : Bool)
  /-- `mctp_cci_send_msg` is called with a request, not by `mctp_cci_read`. -/
  | send (inst op : Nat)
  | attempt (reader : Nat)
  | tag (call : Nat)
  | append (call : Nat) (node : Option Nat)
  /-- `mctp_send_msg` returns. -/
  | sent (call : Nat) (ok : Bool)
  | remove (call : Nat) (during : Bool)
  | release (call : Nat)
  /-- `mctp_cci_cmd_resp_process` looks for the request. -/
  | response (reply : Pending.Reply Key)
  | callback (call : Nat)
  /-- `mctp_cci_msg_timeout_check` comes to a request whose time has passed. -/
  | expire (call : Nat)
  /-- `k_msgq_get` returns to a reader. -/
  | get (reader : Nat)

/-- What an event is to the tags, and what it is then to the pending list. -/
def State.split (s : State) : Event → State × Pending.Event Request Key
  | .read inst op rbufLen mallocOk => (s, .read ⟨inst, op⟩ rbufLen mallocOk)
  | .send inst op => (s, .send ⟨inst, op⟩ true)
  | .attempt reader => (s, .attempt reader true)
  | .tag call =>
    let request := (s.pending.calls call).request
    let msgTag := s.cciMsgTag request.inst
    ({ s with cciMsgTag := Function.update s.cciMsgTag request.inst (msgTag + 1) },
      .key call ⟨request.inst, msgTag, request.op⟩)
  | .append call node => (s, .append call node)
  | .sent call ok => (s, .sent call ok)
  | .remove call during => (s, .remove call during)
  | .release call => (s, .release call)
  | .response reply => (s, .response reply true)
  | .callback call => (s, .callback call)
  | .expire call => (s, .expire call true)
  | .get reader => (s, .get reader)

def step (s : State) (event : Event) : Option State :=
  (Pending.step config s.pending (s.split event).2).map fun pending =>
    { (s.split event).1 with pending }

/-- The condition on a step: a failed send finds its request listed and nobody else at work on the
list; a response that is matched suits the request. -/
def Guard (s : State) : Event → Prop
  | .remove call during => (s.pending.calls call).place = .listed ∧ during = false
  | .response reply =>
    ∀ call ∈ s.pending.listed.find? (s.pending.answers reply.key),
      Pending.Suits config call (s.pending.calls call).reader reply
  | _ => True

instance Guard.decidable (s : State) : (event : Event) → Decidable (Guard s event)
  | .remove .. => inferInstanceAs (Decidable (_ ∧ _))
  | .response _ => inferInstanceAs (Decidable (∀ call ∈ _, _))
  | .read .. | .send .. | .attempt .. | .tag .. | .append .. | .sent .. | .release ..
  | .callback .. | .expire .. | .get .. => .isTrue trivial

theorem Guard.pending {s : State} {event : Event} (guarded : Guard s event) :
    Pending.Guard config s.pending (s.split event).2 := by
  cases event with
  | remove call during => exact guarded
  | response reply => exact fun _ call found => ⟨rfl, guarded call found⟩
  | expire call => exact rfl
  | read | send | attempt | tag | append | sent | release | callback | get => trivial

theorem step_pending {s t : State} {event : Event} (moved : step s event = some t) :
    Pending.step config s.pending (s.split event).2 = some t.pending := by
  obtain ⟨pending, stepped, rfl⟩ := Option.map_eq_some_iff.mp moved
  exact stepped

/-- In every guarded run, however often the tags wrap, requests are completed and freed once, and
reads get what belongs to them. -/
theorem mctpCciRead_settles {events : List Event} {s : State}
    (guarded : Meets step Guard State.start events)
    (ran : run step State.start events = some s) : Pending.Settles config s.pending := by
  let holds : State → Prop := fun s => Pending.Sound config s.pending
  have kept : ∀ {s event t}, holds s → Guard s event → step s event = some t → holds t :=
    fun sound guarded moved => (Pending.sound_step sound guarded.pending (step_pending moved)).1
  have initial : holds State.start := Pending.sound_start config
  have sound : holds s := invariant kept initial guarded ran
  exact sound.settles

/-- A read whose first attempt is answered with an error, whose second cannot be sent, and whose
third is answered with 31 bytes; the answer is sent twice. -/
def threeAttempts : List Event :=
  [.read 0 0x4200 18 true, .attempt 0, .tag 0, .append 0 (some 64), .sent 0 true,
    .response ⟨⟨0, 0, 0x4200⟩, 13, false, 0⟩, .callback 0, .get 0, .attempt 0, .tag 1,
    .append 1 (some 64), .sent 1 false, .remove 1 false, .release 1, .attempt 0, .tag 2,
    .append 2 (some 64), .sent 2 true, .response ⟨⟨0, 2, 0x4200⟩, 31, true, 2⟩,
    .response ⟨⟨0, 2, 0x4200⟩, 31, true, 2⟩, .callback 2, .get 0]

/-- After it the read has returned the 18 bytes behind the header, and all is settled. -/
theorem mctpCciRead_settles_threeAttempts :
    ∃ s, run step State.start threeAttempts = some s ∧
      (s.pending.readers 0).pc = .returned 18 ∧ Pending.Settles config s.pending := by
  have guarded : Meets step Guard State.start threeAttempts := by decide +kernel
  have reached : ∃ s ∈ run step State.start threeAttempts,
      (s.pending.readers 0).pc = .returned 18 := by decide +kernel
  obtain ⟨s, ran, returned⟩ := reached
  exact ⟨s, ran, returned, mctpCciRead_settles guarded ran⟩

/-- A request that times out while the transport still works on it, and then fails to be sent. -/
def expiredThenFailed : List Event :=
  [.read 0 0x4200 18 true, .attempt 0, .tag 0, .append 0 (some 64), .expire 0, .sent 0 false,
    .remove 0 false, .release 0, .attempt 0, .tag 1, .append 1 (some 64), .sent 1 true, .get 0,
    .attempt 0, .tag 2, .append 2 (some 96), .sent 2 false, .remove 2 false, .release 2]

/-- It is completed and freed twice; its event is taken for that of the second attempt, and the
read returns while that attempt is still listed. -/
theorem expiredThenFailed_twice :
    ∃ s, run step State.start expiredThenFailed = some s ∧
      (s.pending.calls 0).completions = 2 ∧ (s.pending.calls 0).frees = 2 ∧
      (s.pending.readers 0).pc = .returned 0 ∧ 1 ∈ s.pending.listed ∧
      ¬ Pending.Settles config s.pending := by
  have reached : ∃ s ∈ run step State.start expiredThenFailed,
      (s.pending.calls 0).completions = 2 ∧ (s.pending.calls 0).frees = 2 ∧
      (s.pending.readers 0).pc = .returned 0 ∧ 1 ∈ s.pending.listed := by decide +kernel
  obtain ⟨s, ran, completed, freed, returned, listed⟩ := reached
  refine ⟨s, ran, completed, freed, returned, listed, fun settles => ?_⟩
  have once := (settles.once 0).1
  omega

end OpenBic.Cci
