import OpenBic.Library.Holders
import OpenBic.Library.Machine

/-!
# MCTP control requests

The shared state of `mctp_ctrl.c` and the threads that work on it: calls of
`mctp_ctrl_send_msg`, the receive tasks and the timeout monitor. A step is what a thread does
between two points where another may come in. The loops over the list run under the mutex, a
node at a time; the failure path of a call changes the list without it, also in the middle of
such a loop. A call and its `wait_msg` are known by one number; the address of a `wait_msg` may
be used again once it is freed, and until then what was freed can still be read. A callback that
is not set is one that does nothing. A message without the request bit touches none of this.
-/

namespace OpenBic.Mctp

open List Function Library.Machine Library.Holders

def ctrlInstIdMask : UInt8 := 0x3F

def defaultWaitToMs : Nat := 3000

/-- An instance id, five bits in the header. -/
abbrev CtrlInstId := Fin 32

/-- The header's instance id for a value of the counter: six bits put into five. -/
def ctrlHdrInstId (counter : UInt8) : CtrlInstId :=
  Fin.ofNat 32 (counter &&& ctrlInstIdMask).toNat

/-- How a request is completed. -/
inductive Completion where
  | response
  | timeout
  /-- `mctp_ctrl_send_msg` returns `MCTP_ERROR` to the caller. -/
  | failure
deriving DecidableEq

/-- Where a call of `mctp_ctrl_send_msg` is about to go on. -/
inductive CtrlPc where
  | absent
  /-- It has read `inst_id`, and not yet stored it one higher. -/
  | loaded (counter : UInt8)
  | numbered
  /-- The request is listed; it is in `mctp_send_msg` next. -/
  | appended
  /-- `mctp_send_msg` has failed; the request is taken off the list next. -/
  | failed
  | removed
  | ended (sent : Bool)
deriving DecidableEq

/-- A call of `mctp_ctrl_send_msg`, and the `wait_msg` it makes. -/
structure CtrlCall where
  inst : Nat
  cmd : UInt8
  timeoutMs : Nat
  instId : CtrlInstId
  /-- The address of its `wait_msg`. -/
  node : Nat
  expToMs : Nat
  pc : CtrlPc

/-- A response to a control request. -/
structure CtrlResp where
  inst : Nat
  instId : CtrlInstId
  cmd : UInt8
deriving DecidableEq

/-- A response matched to a request, with the list it was found on. -/
structure CtrlMatch where
  response : CtrlResp
  call : Nat
  listed : List Nat

/-- `wait_recv_resp_mutex`: what its holder does, with the nodes its loop has yet to come to. -/
inductive CtrlMutex where
  | free
  /-- `mctp_ctrl_msg_timeout_check` goes on with its loop. -/
  | checking (curUptime : Nat) (rest : List Nat)
  | expiring (curUptime : Nat) (rest : List Nat)
  /-- `mctp_ctrl_cmd_resp_process` goes on with its loop. -/
  | matching (response : CtrlResp) (rest : List Nat)
deriving DecidableEq

def CtrlMutex.rest : CtrlMutex → List Nat
  | .free => []
  | .checking _ rest | .expiring _ rest | .matching _ rest => rest

/-- The pending list, the calls, and what happened. -/
structure Control where
  instId : UInt8
  listed : List Nat
  mutex : CtrlMutex
  taken : List (Nat × Completion)
  /-- The calls whose `wait_msg` is allocated. -/
  heap : List Nat
  /-- The calls of `mctp_ctrl_send_msg`. -/
  calls : Nat → CtrlCall
  nextCall : Nat
  appended : List Nat
  unlinked : List Nat
  completed : List (Nat × Completion)
  /-- The requests whose `wait_msg` was passed to `free`, in order. -/
  freed : List Nat
  matched : List CtrlMatch

def Control.start : Control :=
  { instId := 0
    listed := []
    mutex := .free
    taken := []
    heap := []
    calls := fun _ => ⟨0, 0, 0, 0, 0, 0, .absent⟩
    nextCall := 0
    appended := []
    unlinked := []
    completed := []
    freed := []
    matched := [] }

/-- What can happen next. -/
inductive CtrlEvent where
  /-- `mctp_ctrl_send_msg` is called with a request and reads `inst_id`. -/
  | send (inst : Nat) (cmd : UInt8) (timeoutMs : Nat)
  /-- It stores `inst_id`, one higher than it read it. -/
  | store (call : Nat)
  | append (call : Nat) (node : Option Nat) (uptime : Nat)
  /-- `mctp_send_msg` returns. -/
  | sent (call : Nat) (ok : Bool)
  /-- The failure path calls `sys_slist_find_and_remove`, without the mutex: when another failure
  path or a holder of the mutex works on the list `during` this, any list may be left. -/
  | remove (call : Nat) (during : Option (List Nat))
  /-- `mctp_ctrl_msg_timeout_check` gets the mutex. -/
  | check (curUptime : Nat)
  /-- `mctp_ctrl_cmd_resp_process` gets the mutex. -/
  | respond (response : CtrlResp)
  | visit
  | unlock
  | complete (call : Nat) (how : Completion)

def CtrlEvent.monitor : CtrlEvent → Bool
  | .check _ | .visit | .unlock | .complete _ .timeout => true
  | _ => false

def Control.goto (s : Control) (call : Nat) (pc : CtrlPc) : Control :=
  { s with calls := update s.calls call { s.calls call with pc } }

theorem Control.goto_calls_self (s : Control) (call : Nat) (pc : CtrlPc) :
    (s.goto call pc).calls call = { s.calls call with pc } :=
  update_self ..

theorem Control.goto_calls_of_ne (s : Control) {call other : Nat} (pc : CtrlPc)
    (different : other ≠ call) : (s.goto call pc).calls other = s.calls other :=
  update_of_ne different ..

/-- A request is allocated at an address and listed; `exp_to_ms` is made. -/
def Control.append (s : Control) (call node uptime : Nat) : Control :=
  let value := s.calls call
  let timeoutMs := if value.timeoutMs = 0 then defaultWaitToMs else value.timeoutMs
  { s with
    calls := update s.calls call
      { value with node, expToMs := uptime + timeoutMs, pc := .appended }
    listed := s.listed ++ [call]
    heap := s.heap ++ [call]
    appended := s.appended ++ [call] }

def Control.take (s : Control) (call : Nat) (how : Completion) : Control :=
  { s with
    listed := s.listed.erase call
    unlinked := s.unlinked ++ [call]
    taken := s.taken ++ [(call, how)] }

/-- The failure path looks for its node, by the address, and does not look at the result. -/
def Control.remove (s : Control) (call : Nat) : Control :=
  match s.listed.find? fun other => (s.calls other).node == (s.calls call).node with
  | some found =>
    { s with
      listed := s.listed.erase found
      unlinked := s.unlinked ++ [found]
      taken := s.taken ++ [(call, .failure)] }
  | none => { s with taken := s.taken ++ [(call, .failure)] }

def Control.answers (s : Control) (response : CtrlResp) (call : Nat) : Bool :=
  (s.calls call).instId == response.instId && (s.calls call).inst == response.inst &&
    (s.calls call).cmd == response.cmd

def Control.visit (s : Control) : Option Control :=
  match s.mutex with
  | .checking curUptime (call :: rest) =>
    if (s.calls call).expToMs ≤ curUptime then
      some { s.take call .timeout with mutex := .expiring curUptime rest }
    else some { s with mutex := .checking curUptime rest }
  | .matching response (call :: rest) =>
    if s.answers response call then
      some { s.take call .response with
        mutex := .free
        matched := s.matched ++ [⟨response, call, s.listed⟩] }
    else some { s with mutex := .matching response rest }
  | _ => none

/-- A thread has called the callback or is about to return, and frees the request. -/
def Control.complete (s : Control) (call : Nat) (how : Completion) : Control :=
  { s with
    taken := s.taken.erase (call, how)
    heap := s.heap.filter fun other => (s.calls other).node != (s.calls call).node
    completed := s.completed ++ [(call, how)]
    freed := s.freed ++ [call] }

def Control.resume (s : Control) (call : Nat) : Completion → Option Control
  | .response => some s
  | .timeout =>
    match s.mutex with
    | .expiring curUptime rest => some { s with mutex := .checking curUptime rest }
    | _ => none
  | .failure => some (s.goto call (.ended false))

def ctrlStep (s : Control) : CtrlEvent → Option Control
  | .send inst cmd timeoutMs =>
    some { s with
      calls := update s.calls s.nextCall
        ⟨inst, cmd, timeoutMs, ctrlHdrInstId s.instId, 0, 0, .loaded s.instId⟩
      nextCall := s.nextCall + 1 }
  | .store call =>
    match (s.calls call).pc with
    | .loaded counter => some { s.goto call .numbered with instId := counter + 1 }
    | _ => none
  | .append call node uptime =>
    if (s.calls call).pc = .numbered then
      match node with
      | some node =>
        if s.mutex = .free ∧ ∀ other ∈ s.heap, (s.calls other).node ≠ node then
          some (s.append call node uptime)
        else none
      | none => some (s.goto call (.ended false))
    else none
  | .sent call ok =>
    if (s.calls call).pc = .appended then
      some (s.goto call (if ok then .ended true else .failed))
    else none
  | .remove call during =>
    if (s.calls call).pc = .failed then
      let unlinked := s.remove call
      some ({ unlinked with listed := during.getD unlinked.listed }.goto call .removed)
    else none
  | .check curUptime =>
    if s.mutex = .free then some { s with mutex := .checking curUptime s.listed } else none
  | .respond response =>
    if s.mutex = .free then some { s with mutex := .matching response s.listed } else none
  | .visit => s.visit
  | .unlock =>
    match s.mutex with
    | .checking _ [] | .matching _ [] => some { s with mutex := .free }
    | _ => none
  | .complete call how =>
    if (call, how) ∈ s.taken then (s.complete call how).resume call how else none

/-- The condition on a step: a request is listed with an id that no listed request of its MCTP
instance has, and a send failure takes its request off the list while it is still there, nobody
holds the mutex and no other thread works on the list. -/
def CtrlGuard (s : Control) : CtrlEvent → Prop
  | .append call node _ => node.isSome = true → ∀ other ∈ s.listed,
      (s.calls other).inst = (s.calls call).inst → (s.calls other).instId ≠ (s.calls call).instId
  | .remove call during => call ∈ s.listed ∧ s.mutex = .free ∧ during = none
  | _ => True

instance CtrlGuard.decidable (s : Control) : (event : CtrlEvent) → Decidable (CtrlGuard s event)
  | .append .. => inferInstanceAs (Decidable (_ → ∀ other ∈ _, _))
  | .remove .. => inferInstanceAs (Decidable (_ ∧ _ ∧ _))
  | .send .. | .store _ | .sent .. | .check _ | .respond _ | .visit | .unlock | .complete .. =>
    .isTrue trivial

/-- The requests not yet completed: those listed, and those a thread has taken. -/
def Control.pending (s : Control) : List Nat := s.listed ++ s.taken.map Prod.fst

def CtrlPc.listed : CtrlPc → Bool
  | .absent | .loaded _ | .numbered => false
  | .appended | .failed | .removed | .ended _ => true

/-- The request has the instance and the id of the response, and no other of these has. -/
def CtrlMatch.Sole (found : CtrlMatch) (calls : Nat → CtrlCall) : Prop :=
  found.call ∈ found.listed ∧ ∀ other ∈ found.listed,
    (calls other).inst = found.response.inst ∧ (calls other).instId = found.response.instId ↔
      other = found.call

/-- What holds in every state. -/
structure Sound (s : Control) : Prop where
  listing : Ledger (· ∈ s.listed) s.appended s.unlinked
  completing : Ledger (· ∈ s.pending) s.appended s.freed
  together : s.freed = s.completed.map Prod.fst
  nodup : s.pending.Nodup
  heap : ∀ call, call ∈ s.heap ↔ call ∈ s.pending
  addresses : ∀ first ∈ s.heap, ∀ second ∈ s.heap,
    (s.calls first).node = (s.calls second).node → first = second
  alone : ∀ first ∈ s.listed, ∀ second ∈ s.listed, (s.calls first).inst = (s.calls second).inst →
    (s.calls first).instId = (s.calls second).instId → first = second
  walk : s.mutex.rest.Sublist s.listed
  past : ∀ call ∈ s.appended, (s.calls call).pc.listed = true
  fresh : ∀ call, s.nextCall ≤ call → (s.calls call).pc = .absent
  matched : ∀ found ∈ s.matched, found.Sole s.calls ∧ ∀ call ∈ found.listed, call ∈ s.appended

theorem sound_start : Sound Control.start where
  listing := ⟨nodup_nil, nodup_nil, by simp [Control.start], by simp [Control.start]⟩
  completing := ⟨nodup_nil, nodup_nil, by simp [Control.start, Control.pending],
    by simp [Control.start]⟩
  together := rfl
  nodup := nodup_nil
  heap := fun _ => Iff.rfl
  addresses := nofun
  alone := nofun
  walk := List.Sublist.refl _
  past := nofun
  fresh := fun _ _ => rfl
  matched := nofun

section Steps

variable {s : Control} {call : Nat} {how : Completion}

theorem Sound.appended_of_listed (sound : Sound s) (member : call ∈ s.listed) :
    call ∈ s.appended :=
  (sound.listing.split call).mpr (.inl member)

theorem Sound.appended_of_heap (sound : Sound s) (member : call ∈ s.heap) : call ∈ s.appended :=
  (sound.completing.split call).mpr (.inl ((sound.heap call).mp member))

/-- Calls that go on without touching a listed request change nothing else. -/
theorem Sound.recall (sound : Sound s) {calls : Nat → CtrlCall} {next : Nat} {counter : UInt8}
    (same : ∀ call ∈ s.appended, (calls call).inst = (s.calls call).inst ∧
      (calls call).instId = (s.calls call).instId ∧ (calls call).node = (s.calls call).node ∧
      (calls call).pc.listed = true)
    (fresh : ∀ call, next ≤ call → (calls call).pc = .absent) :
    Sound { s with calls := calls, nextCall := next, instId := counter } where
  listing := sound.listing
  completing := sound.completing
  together := sound.together
  nodup := sound.nodup
  heap := sound.heap
  addresses := fun first one second two => by
    show (calls first).node = (calls second).node → first = second
    rw [(same first (sound.appended_of_heap one)).2.2.1,
      (same second (sound.appended_of_heap two)).2.2.1]
    exact sound.addresses first one second two
  alone := fun first one second two => by
    show (calls first).inst = (calls second).inst →
      (calls first).instId = (calls second).instId → first = second
    obtain ⟨instFirst, idFirst, _⟩ := same first (sound.appended_of_listed one)
    obtain ⟨instSecond, idSecond, _⟩ := same second (sound.appended_of_listed two)
    rw [instFirst, idFirst, instSecond, idSecond]
    exact sound.alone first one second two
  walk := sound.walk
  past := fun call member => (same call member).2.2.2
  fresh := fresh
  matched := fun found member => by
    obtain ⟨⟨present, sole⟩, appended⟩ := sound.matched found member
    refine ⟨⟨present, fun other inList => ?_⟩, appended⟩
    obtain ⟨inst, instId, _⟩ := same other (appended other inList)
    rw [inst, instId]
    exact sole other inList

theorem Sound.counted (sound : Sound s) (present : (s.calls call).pc ≠ .absent) :
    call < s.nextCall := by
  by_contra beyond
  exact present (sound.fresh call (Nat.not_lt.mp beyond))

theorem Sound.goto (sound : Sound s) {pc : CtrlPc} (present : (s.calls call).pc ≠ .absent)
    (past : call ∈ s.appended → pc.listed = true) (counter : UInt8) :
    Sound { s.goto call pc with instId := counter } := by
  apply sound.recall
  · intro other member
    by_cases own : other = call
    · subst own
      rw [s.goto_calls_self]
      exact ⟨rfl, rfl, rfl, past member⟩
    · rw [s.goto_calls_of_ne pc own]
      exact ⟨rfl, rfl, rfl, sound.past other member⟩
  · intro other beyond
    have different : other ≠ call := by
      rintro rfl
      exact Nat.not_lt.mpr beyond (sound.counted present)
    rw [s.goto_calls_of_ne pc different]
    exact sound.fresh other beyond

theorem Sound.relock (sound : Sound s) {mutex : CtrlMutex} (walk : mutex.rest.Sublist s.listed) :
    Sound { s with mutex } :=
  { sound with walk }

theorem Sound.send (sound : Sound s) {value : CtrlCall} :
    Sound { s with
      calls := update s.calls s.nextCall value
      nextCall := s.nextCall + 1 } := by
  have absent := sound.fresh s.nextCall le_rfl
  apply sound.recall
  · intro other member
    have different : other ≠ s.nextCall := by
      rintro rfl
      have past := sound.past _ member
      rw [absent] at past
      cases past
    rw [update_of_ne different]
    exact ⟨rfl, rfl, rfl, sound.past other member⟩
  · intro other beyond
    have different : other ≠ s.nextCall := Nat.ne_of_gt beyond
    rw [update_of_ne different]
    exact sound.fresh other (Nat.le_of_succ_le beyond)

theorem Control.take_pending (member : call ∈ s.listed) :
    (s.take call how).pending.Perm s.pending := by
  have split : s.listed.Perm (call :: s.listed.erase call) := perm_cons_erase member
  have moved : (s.take call how).pending.Perm
      (call :: (s.listed.erase call ++ s.taken.map Prod.fst)) := by
    rw [Control.pending, Control.take, map_append, ← append_assoc]
    exact perm_append_singleton ..
  exact moved.trans (split.append_right _).symm

theorem Sound.take (sound : Sound s) (member : call ∈ s.listed) {mutex : CtrlMutex}
    (walk : mutex.rest.Sublist (s.listed.erase call)) :
    Sound { s.take call how with mutex } := by
  have listedNodup : s.listed.Nodup := (List.nodup_append.mp sound.nodup).1
  have fewer : ∀ other, other ∈ s.listed.erase call ↔ other ∈ s.listed ∧ other ≠ call := by
    intro other
    rw [listedNodup.mem_erase_iff]
    exact And.comm
  have pending : (s.take call how).pending.Perm s.pending := Control.take_pending member
  refine ⟨sound.listing.give member fewer, sound.completing.congr fun _ => pending.mem_iff,
    sound.together, pending.nodup_iff.mpr sound.nodup,
    fun other => (sound.heap other).trans pending.mem_iff.symm, sound.addresses, ?_, walk,
    sound.past, sound.fresh, sound.matched⟩
  intro first one second two
  exact sound.alone first ((fewer first).mp one).1 second ((fewer second).mp two).1

/-- A thread completes a request it has taken, and frees it. -/
theorem Sound.complete (sound : Sound s) (member : (call, how) ∈ s.taken) :
    Sound (s.complete call how) := by
  have split : s.pending.Perm (call :: (s.complete call how).pending) := by
    have apart := ((perm_cons_erase member).map Prod.fst).append_left s.listed
    exact apart.trans perm_middle
  have nodup := split.nodup_iff.mp sound.nodup
  obtain ⟨absent, rest⟩ := List.nodup_cons.mp nodup
  have fewer : ∀ other, other ∈ (s.complete call how).pending ↔
      other ∈ s.pending ∧ other ≠ call := by
    intro other
    rw [split.mem_iff, mem_cons]
    constructor
    · intro left
      exact ⟨.inr left, fun own => absent (own ▸ left)⟩
    · rintro ⟨own | left, different⟩
      · exact absurd own different
      · exact left
  have held : call ∈ s.pending := split.mem_iff.mpr mem_cons_self
  have heap : ∀ other, other ∈ (s.complete call how).heap ↔ other ∈ s.heap ∧ other ≠ call := by
    intro other
    rw [Control.complete, mem_filter, bne_iff_ne]
    refine and_congr_right fun allocated => not_congr ⟨fun same => ?_, fun own => by rw [own]⟩
    exact sound.addresses other allocated call ((sound.heap call).mpr held) same
  refine ⟨sound.listing, sound.completing.give held fewer, ?_, rest, ?_, ?_,
    sound.alone, sound.walk,
    sound.past, sound.fresh, sound.matched⟩
  · show s.freed ++ [call] = (s.completed ++ [(call, how)]).map Prod.fst
    rw [map_append, sound.together]
    rfl
  · intro other
    rw [heap, fewer, sound.heap]
  · intro first one second two
    exact sound.addresses first ((heap first).mp one).1 second ((heap second).mp two).1

/-- A call lists its request, at an address of its own and with an id of its own. -/
theorem Sound.append (sound : Sound s) {node uptime : Nat}
    (numbered : (s.calls call).pc = .numbered)
    (unused : ∀ other ∈ s.heap, (s.calls other).node ≠ node)
    (own : ∀ other ∈ s.listed, (s.calls other).inst = (s.calls call).inst →
      (s.calls other).instId ≠ (s.calls call).instId) : Sound (s.append call node uptime) := by
  have new : call ∉ s.appended := by
    intro member
    have past := sound.past call member
    rw [numbered] at past
    cases past
  have apart : ∀ other ∈ s.appended, other ≠ call := fun other member same => new (same ▸ member)
  have elsewhere : ∀ other ∈ s.appended, (s.append call node uptime).calls other = s.calls other :=
    fun other member => update_of_ne (apart other member) ..
  obtain ⟨value, here, inst, instId, nodeHere, pc⟩ :
      ∃ value, (s.append call node uptime).calls call = value ∧ value.inst = (s.calls call).inst ∧
        value.instId = (s.calls call).instId ∧ value.node = node ∧ value.pc = .appended :=
    ⟨_, update_self .., rfl, rfl, rfl, rfl⟩
  have pending : (s.append call node uptime).pending.Perm (call :: s.pending) := by
    rw [Control.pending, Control.append, append_assoc]
    exact perm_middle
  have more : ∀ other, other ∈ (s.append call node uptime).pending ↔
      other ∈ s.pending ∨ other = call := by
    intro other
    rw [pending.mem_iff, mem_cons]
    exact or_comm
  have listed : ∀ other, other ∈ s.listed ++ [call] ↔ other ∈ s.listed ∨ other = call := by
    intro other
    rw [mem_append, mem_singleton]
  have heap : ∀ other, other ∈ s.heap ++ [call] ↔ other ∈ s.heap ∨ other = call := by
    intro other
    rw [mem_append, mem_singleton]
  refine ⟨sound.listing.take new listed, sound.completing.take new more, sound.together, ?_, ?_, ?_,
    ?_, ?_, ?_, ?_, ?_⟩
  · rw [pending.nodup_iff]
    refine List.nodup_cons.mpr ⟨fun held => new ?_, sound.nodup⟩
    exact (sound.completing.split call).mpr (.inl held)
  · intro other
    rw [more, ← sound.heap]
    exact heap other
  · intro first one second two
    rcases (heap first).mp one with before | rfl <;> rcases (heap second).mp two with earlier | rfl
    · rw [elsewhere first (sound.appended_of_heap before),
        elsewhere second (sound.appended_of_heap earlier)]
      exact sound.addresses first before second earlier
    · rw [elsewhere first (sound.appended_of_heap before), here, nodeHere]
      exact fun same => absurd same (unused first before)
    · rw [elsewhere second (sound.appended_of_heap earlier), here, nodeHere]
      exact fun same => absurd same.symm (unused second earlier)
    · exact fun _ => rfl
  · intro first one second two
    rcases (listed first).mp one with before | rfl <;>
      rcases (listed second).mp two with earlier | rfl
    · rw [elsewhere first (sound.appended_of_listed before),
        elsewhere second (sound.appended_of_listed earlier)]
      exact sound.alone first before second earlier
    · rw [elsewhere first (sound.appended_of_listed before), here, inst, instId]
      exact fun sameInst sameId => absurd sameId (own first before sameInst)
    · rw [elsewhere second (sound.appended_of_listed earlier), here, inst, instId]
      exact fun sameInst sameId => absurd sameId.symm (own second earlier sameInst.symm)
    · exact fun _ _ => rfl
  · show s.mutex.rest.Sublist (s.listed ++ [call])
    exact sound.walk.trans (sublist_append_left ..)
  · intro other member
    rcases List.mem_append.mp member with before | last
    · rw [elsewhere other before]
      exact sound.past other before
    · rw [List.mem_singleton.mp last, here, pc]
      rfl
  · intro other beyond
    have different : other ≠ call := by
      rintro rfl
      have absent := sound.fresh other beyond
      rw [numbered] at absent
      cases absent
    have kept : (s.append call node uptime).calls other = s.calls other :=
      update_of_ne different ..
    rw [kept]
    exact sound.fresh other beyond
  · intro found member
    obtain ⟨⟨present, sole⟩, appended⟩ := sound.matched found member
    refine ⟨⟨present, fun other inList => ?_⟩,
      fun other inList => mem_append_left _ (appended other inList)⟩
    rw [elsewhere other (appended other inList)]
    exact sole other inList

theorem Sound.remove (sound : Sound s) (member : call ∈ s.listed) :
    s.remove call = s.take call .failure := by
  unfold Control.remove
  split
  · rename_i found looked
    have inList : found ∈ s.listed := mem_of_find?_eq_some looked
    have node := find?_some looked
    have allocated : ∀ {other}, other ∈ s.listed → other ∈ s.heap := fun inList =>
      (sound.heap _).mpr (mem_append_left _ inList)
    obtain rfl := sound.addresses found (allocated inList) call (allocated member)
      (by simpa using node)
    rfl
  · rename_i missed
    have differs := List.find?_eq_none.mp missed call member
    simp at differs

/-- The holder of the mutex comes to the next node of its loop. -/
theorem Sound.visit (sound : Sound s) {t : Control} (moved : s.visit = some t) : Sound t := by
  have walk := sound.walk
  have onward : ∀ {head rest}, (head :: rest).Sublist s.listed →
      rest.Sublist (s.listed.erase head) := by
    intro head rest whole
    have erased := whole.erase head
    rw [erase_cons_head] at erased
    exact erased
  unfold Control.visit at moved
  split at moved
  · rename_i curUptime head rest checking
    rw [checking] at walk
    split at moved
    · cases moved
      exact sound.take (walk.subset mem_cons_self) (onward walk)
    · cases moved
      exact sound.relock ((sublist_cons_self _ _).trans walk)
  · rename_i response head rest matching
    rw [matching] at walk
    split at moved
    · rename_i answered
      cases moved
      have member : head ∈ s.listed := walk.subset mem_cons_self
      have taken : Sound { s.take head .response with mutex := .free } :=
        sound.take member (nil_sublist _)
      simp only [Control.answers, Bool.and_eq_true, beq_iff_eq] at answered
      obtain ⟨⟨instId, inst⟩, _⟩ := answered
      refine { taken with matched := fun found inMatched => ?_ }
      rcases List.mem_append.mp inMatched with before | last
      · exact sound.matched found before
      · rw [List.mem_singleton.mp last]
        refine ⟨⟨member, fun other inList => ⟨?_, ?_⟩⟩,
          fun other inList => sound.appended_of_listed inList⟩
        · rintro ⟨sameInst, sameId⟩
          exact sound.alone other inList head member (sameInst.trans inst.symm)
            (sameId.trans instId.symm)
        · rintro rfl
          exact ⟨inst, instId⟩
    · cases moved
      exact sound.relock ((sublist_cons_self _ _).trans walk)
  · cases moved

theorem Sound.resume (sound : Sound s) {t : Control} (past : how = .failure → call ∈ s.appended)
    (moved : s.resume call how = some t) : Sound t := by
  cases how with
  | response =>
    cases moved
    exact sound
  | timeout =>
    simp only [Control.resume] at moved
    split at moved
    · rename_i curUptime rest expiring
      cases moved
      have walk := sound.walk
      rw [expiring] at walk
      exact sound.relock walk
    · cases moved
  | failure =>
    cases moved
    have present : (s.calls call).pc ≠ .absent := by
      intro absent
      have listed := sound.past call (past rfl)
      rw [absent] at listed
      cases listed
    exact sound.goto present (fun _ => rfl) s.instId

/-- The monitor's loop completes every request in it whose time has come. -/
theorem checking_completes {curUptime : Nat} {rest : List Nat}
    (checking : s.mutex = .checking curUptime rest) :
    ∃ events t, (∀ event ∈ events, event.monitor = true) ∧ run ctrlStep s events = some t ∧
      (∀ entry ∈ s.completed, entry ∈ t.completed) ∧
      ∀ call ∈ rest, (s.calls call).expToMs ≤ curUptime → (call, .timeout) ∈ t.completed := by
  induction rest generalizing s with
  | nil =>
    refine ⟨[.unlock], { s with mutex := .free }, by simp [CtrlEvent.monitor], ?_,
      fun _ => id, nofun⟩
    simp [run, ctrlStep, checking]
  | cons head rest ih =>
    by_cases expired : (s.calls head).expToMs ≤ curUptime
    · obtain ⟨s₁, visited, expiring, taken, calls₁, completed₁⟩ :
          ∃ s₁, s.visit = some s₁ ∧ s₁.mutex = .expiring curUptime rest ∧
            (head, Completion.timeout) ∈ s₁.taken ∧ s₁.calls = s.calls ∧
            s₁.completed = s.completed :=
        ⟨{ s.take head .timeout with mutex := .expiring curUptime rest },
          by simp only [Control.visit, checking, if_pos expired], rfl,
          mem_append_right _ mem_cons_self, rfl, rfl⟩
      obtain ⟨s₂, finished, again, calls₂, completed₂⟩ :
          ∃ s₂, ctrlStep s₁ (.complete head .timeout) = some s₂ ∧
            s₂.mutex = .checking curUptime rest ∧ s₂.calls = s.calls ∧
            s₂.completed = s.completed ++ [(head, .timeout)] :=
        ⟨{ s₁.complete head .timeout with mutex := .checking curUptime rest },
          by simp [ctrlStep, taken, Control.resume, Control.complete, expiring], rfl, calls₁,
          by rw [← completed₁]; rfl⟩
      obtain ⟨events, t, monitors, ran, kept, done⟩ := ih again
      refine ⟨.visit :: .complete head .timeout :: events, t, ?_, ?_, ?_, ?_⟩
      · intro event member
        rcases List.mem_cons.mp member with rfl | later
        · rfl
        · rcases List.mem_cons.mp later with rfl | later
          · rfl
          · exact monitors event later
      · exact run_cons_eq_some.mpr ⟨s₁, visited, run_cons_eq_some.mpr ⟨s₂, finished, ran⟩⟩
      · intro entry member
        apply kept
        rw [completed₂]
        exact mem_append_left _ member
      · intro call member due
        rcases List.mem_cons.mp member with rfl | later
        · apply kept
          rw [completed₂]
          exact mem_append_right _ mem_cons_self
        · rw [← calls₂] at due
          exact done call later due
    · obtain ⟨s₁, visited, again, calls₁, completed₁⟩ :
          ∃ s₁, s.visit = some s₁ ∧ s₁.mutex = .checking curUptime rest ∧ s₁.calls = s.calls ∧
            s₁.completed = s.completed :=
        ⟨{ s with mutex := .checking curUptime rest },
          by simp only [Control.visit, checking, if_neg expired], rfl, rfl, rfl⟩
      obtain ⟨events, t, monitors, ran, kept, done⟩ := ih again
      refine ⟨.visit :: events, t, ?_, run_cons_eq_some.mpr ⟨s₁, visited, ran⟩, ?_, ?_⟩
      · intro event member
        rcases List.mem_cons.mp member with rfl | later
        · rfl
        · exact monitors event later
      · intro entry member
        apply kept
        rw [completed₁]
        exact member
      · intro call member due
        rcases List.mem_cons.mp member with rfl | later
        · exact absurd due expired
        · rw [← calls₁] at due
          exact done call later due

end Steps

/-- A guarded event keeps the list sound. -/
theorem sound_step {s t : Control} {event : CtrlEvent} (sound : Sound s)
    (guarded : CtrlGuard s event) (moved : ctrlStep s event = some t) : Sound t := by
  cases event with
  | send inst cmd timeoutMs =>
    cases moved
    exact sound.send
  | store call =>
    simp only [ctrlStep] at moved
    split at moved
    · rename_i counter loaded
      cases moved
      apply sound.goto
      · rw [loaded]
        exact nofun
      · intro member
        have past := sound.past call member
        rw [loaded] at past
        cases past
    · cases moved
  | append call node uptime =>
    obtain ⟨numbered, moved⟩ := Option.ite_none_right_eq_some.mp moved
    have present : (s.calls call).pc ≠ .absent := by
      rw [numbered]
      exact nofun
    cases node with
    | none =>
      cases moved
      exact sound.goto present (fun _ => rfl) s.instId
    | some node =>
      obtain ⟨⟨_, unused⟩, moved⟩ := Option.ite_none_right_eq_some.mp moved
      cases moved
      exact sound.append numbered unused (guarded rfl)
  | sent call ok =>
    obtain ⟨appended, moved⟩ := Option.ite_none_right_eq_some.mp moved
    cases moved
    apply sound.goto (by rw [appended]; exact CtrlPc.noConfusion) ?_ s.instId
    cases ok with
    | true => exact fun _ => rfl
    | false => exact fun _ => rfl
  | remove call during =>
    obtain ⟨failed, moved⟩ := Option.ite_none_right_eq_some.mp moved
    cases moved
    obtain ⟨member, free, rfl⟩ := guarded
    have walk : s.mutex.rest.Sublist (s.listed.erase call) := by
      rw [free]
      exact nil_sublist _
    have taken : Sound (s.take call .failure) := sound.take member walk
    rw [sound.remove member]
    apply taken.goto
    · show (s.calls call).pc ≠ .absent
      rw [failed]
      exact nofun
    · exact fun _ => rfl
  | check curUptime =>
    obtain ⟨_, moved⟩ := Option.ite_none_right_eq_some.mp moved
    cases moved
    exact sound.relock (List.Sublist.refl _)
  | respond response =>
    obtain ⟨_, moved⟩ := Option.ite_none_right_eq_some.mp moved
    cases moved
    exact sound.relock (List.Sublist.refl _)
  | visit => exact sound.visit moved
  | unlock =>
    simp only [ctrlStep] at moved
    split at moved
    · cases moved
      exact sound.relock (nil_sublist _)
    · cases moved
      exact sound.relock (nil_sublist _)
    · cases moved
  | complete call how =>
    obtain ⟨member, moved⟩ := Option.ite_none_right_eq_some.mp moved
    have held : call ∈ s.pending :=
      mem_append_right _ (List.mem_map_of_mem member)
    exact (sound.complete member).resume
      (fun _ => (sound.completing.split call).mpr (.inl held)) moved

/-- Every listed request is completed, unlinked and freed exactly once, and responses go to the only
request they can be to. -/
structure ControlExact (s : Control) : Prop where
  completedOnce : (s.completed.map Prod.fst).Nodup ∧ ∀ call,
    call ∈ s.completed.map Prod.fst ↔
      call ∈ s.appended ∧ call ∉ s.listed ∧ call ∉ s.taken.map Prod.fst
  takenOnce : (s.taken.map Prod.fst).Nodup ∧ ∀ call ∈ s.taken.map Prod.fst,
    call ∈ s.appended ∧ call ∉ s.listed
  unlinkedOnce : s.unlinked.Nodup ∧ ∀ call, call ∈ s.unlinked ↔ call ∈ s.appended ∧ call ∉ s.listed
  freedOnce : s.freed.Nodup ∧ ∀ call, call ∈ s.freed ↔ call ∈ s.completed.map Prod.fst
  alone : ∀ first ∈ s.listed, ∀ second ∈ s.listed, (s.calls first).inst = (s.calls second).inst →
    (s.calls first).instId = (s.calls second).instId → first = second
  matched : ∀ found ∈ s.matched, found.Sole s.calls
  timely : s.mutex = .free → ∀ curUptime, ∃ events t,
    (∀ event ∈ events, event.monitor = true) ∧ run ctrlStep s events = some t ∧
      ∀ call ∈ s.listed, (s.calls call).expToMs ≤ curUptime → (call, .timeout) ∈ t.completed

theorem Sound.exact {s : Control} (sound : Sound s) : ControlExact s where
  completedOnce := by
    rw [← sound.together]
    refine ⟨sound.completing.released_nodup, fun call => ?_⟩
    have pending : call ∈ s.pending ↔ call ∈ s.listed ∨ call ∈ s.taken.map Prod.fst :=
      mem_append
    rw [sound.completing.split, ← not_or, ← pending]
    constructor
    · exact fun freed => ⟨.inr freed, sound.completing.apart call freed⟩
    · rintro ⟨held | freed, idle⟩
      · exact absurd held idle
      · exact freed
  takenOnce := by
    obtain ⟨_, nodup, apart⟩ := List.nodup_append.mp sound.nodup
    refine ⟨nodup, fun call member => ⟨?_, fun listed => apart call listed call member rfl⟩⟩
    exact (sound.completing.split call).mpr (.inl (mem_append_right _ member))
  unlinkedOnce := by
    refine ⟨sound.listing.released_nodup, fun call => ?_⟩
    rw [sound.listing.split]
    constructor
    · exact fun unlinked => ⟨.inr unlinked, sound.listing.apart call unlinked⟩
    · rintro ⟨listed | unlinked, absent⟩
      · exact absurd listed absent
      · exact unlinked
  freedOnce := ⟨sound.completing.released_nodup, fun call => by rw [sound.together]⟩
  alone := sound.alone
  matched := fun found member => (sound.matched found member).1
  timely := fun free curUptime => by
    have locked : ctrlStep s (.check curUptime) =
        some { s with mutex := .checking curUptime s.listed } := if_pos free
    have checking : ({ s with mutex := .checking curUptime s.listed } : Control).mutex =
        .checking curUptime s.listed := rfl
    obtain ⟨events, t, monitors, ran, _, done⟩ := checking_completes checking
    refine ⟨.check curUptime :: events, t, fun event member => ?_,
      run_cons_eq_some.mpr ⟨_, locked, ran⟩, done⟩
    rcases List.mem_cons.mp member with rfl | later
    · rfl
    · exact monitors event later

/-- In every guarded run, each request that was listed is completed, unlinked and freed exactly
once, and each response goes to the only listed request it can be to. -/
theorem controlExact_run {events : List CtrlEvent} {s : Control}
    (guarded : Meets ctrlStep CtrlGuard Control.start events)
    (ran : run ctrlStep Control.start events = some s) : ControlExact s :=
  have kept : ∀ {s event t}, Sound s → CtrlGuard s event → ctrlStep s event = some t → Sound t :=
    sound_step
  (invariant kept sound_start guarded ran).exact

def listRequest (call node uptime : Nat) : List CtrlEvent :=
  [.send 0 0x02 1000, .store call, .append call (some node) uptime]

/-- A request answered, one whose transport fails, and one that times out. -/
def threeCalls : List CtrlEvent :=
  listRequest 0 64 10 ++ listRequest 1 128 20 ++ [.sent 0 true, .sent 1 false] ++
    [.respond ⟨0, 0, 0x02⟩, .visit, .complete 0 .response, .remove 1 none, .complete 1 .failure] ++
    listRequest 2 64 30 ++ [.check 2000, .visit, .complete 2 .timeout, .unlock, .sent 2 true]

/-- Three calls: one answered, one whose send fails, one that times out. -/
theorem controlExact_run_threeCalls :
    ∃ s, run ctrlStep Control.start threeCalls = some s ∧
      s.completed = [(0, .response), (1, .failure), (2, .timeout)] ∧ ControlExact s := by
  have guarded : Meets ctrlStep CtrlGuard Control.start threeCalls := by decide +kernel
  have reached : ∃ s ∈ run ctrlStep Control.start threeCalls,
      s.completed = [(0, .response), (1, .failure), (2, .timeout)] := by decide +kernel
  obtain ⟨s, ran, completed⟩ := reached
  exact ⟨s, ran, completed, controlExact_run guarded ran⟩

/-- A request times out while the transport holds its call, which then fails. -/
def lateError : List CtrlEvent :=
  listRequest 0 64 10 ++ [.check 2000, .visit, .complete 0 .timeout, .unlock, .sent 0 false,
    .remove 0 none, .complete 0 .failure]

/-- A send that fails after the monitor has completed its call completes it again. -/
theorem lateError_twice :
    ∃ s, run ctrlStep Control.start lateError = some s ∧ ¬ ControlExact s := by
  have reached : ∃ s ∈ run ctrlStep Control.start lateError,
      s.completed = [(0, .timeout), (0, .failure)] ∧ s.freed = [0, 0] := by decide +kernel
  obtain ⟨s, ran, completed, freed⟩ := reached
  refine ⟨s, ran, fun exact => ?_⟩
  have once := exact.freedOnce.1
  rw [freed] at once
  exact absurd once (by decide)

end OpenBic.Mctp
