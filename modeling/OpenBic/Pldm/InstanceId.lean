import OpenBic.Library.Holders
import OpenBic.Pldm.Request

/-!
# Instance ids follow the outstanding requests

A request is outstanding from the moment its id is registered until it is released: its call
is about to list it, it is listed, or its call is about to give the id back. As long as
`register_instid` marks an id that is still free, no `WRITE_BIT` of the table undoes another, and
the error path of a call that lost its request finds neither another request at the freed address
nor its old id in use again, the table marks exactly the ids of the outstanding requests.
-/

namespace OpenBic.Pldm

open List Library.Machine Library.Holders

/-- A request that has its id. -/
def Ids.Outstanding (s : Ids) (call : Nat) : Prop :=
  call ∈ s.listed ∨ (s.calls call).pc = .claimed ∨ (s.calls call).pc = .releasing true

def CallPc.sent : CallPc → Bool
  | .appended | .sendFailed | .ended true => true
  | _ => false

/-- The condition on a step: the id marked is free, a send failure takes no other request off the
list, what it unregisters after its own request was completed is not registered again, and calls of
`register_instid` and `unregister_instid` do not overlap so that one undoes the other. -/
def IdGuard (s : Requests) : ReqEvent → Prop
  | .claim call => s.table ((s.calls call).inst, s.curInstNum) = false
  | .remove call =>
    ∀ other ∈ s.listed, (s.calls other).node = (s.calls call).node → other = call
  | .release call => (s.calls call).pc = .releasing false → s.table (s.calls call).key = false
  | .undo .. => False
  | _ => True

instance IdGuard.decidable (s : Requests) : (event : ReqEvent) → Decidable (IdGuard s event)
  | .claim _ => inferInstanceAs (Decidable (_ = _))
  | .remove _ => inferInstanceAs (Decidable (∀ other ∈ _, _))
  | .release _ => inferInstanceAs (Decidable (_ → _))
  | .send .. | .read .. | .attempt .. | .append .. | .sent .. | .response .. | .callback ..
  | .expire .. | .get .. => .isTrue trivial
  | .undo .. => .isFalse id

/-- What holds of the instance ids in every state. -/
structure Owned (s : Ids) : Prop where
  marks : Marks s.table s.Outstanding fun call => (s.calls call).key
  ledger : Ledger s.Outstanding s.allocated s.released
  running : s.stuck = false
  fresh : ∀ call, s.nextCall ≤ call → (s.calls call).pc = .absent
  listed_nodup : s.listed.Nodup
  listed_sent : ∀ call ∈ s.listed, (s.calls call).pc.sent = true
  registered : ∀ call ∈ s.allocated, (s.calls call).pc ≠ .absent ∧ (s.calls call).pc ≠ .scanned

theorem owned_start : Owned Requests.start.toIds where
  marks := ⟨by simp [Requests.start, Ids.Outstanding], by simp [Requests.start, Ids.Outstanding]⟩
  ledger := ⟨by simp [Requests.start], by simp [Requests.start],
    by simp [Requests.start, Ids.Outstanding], by simp [Requests.start]⟩
  running := rfl
  fresh := fun _ _ => rfl
  listed_nodup := nodup_nil
  listed_sent := by simp [Requests.start]
  registered := by simp [Requests.start]

section Steps

variable {s : Ids} {call : Nat}

theorem Ids.Outstanding.pc_ne (outstanding : s.Outstanding call) (owned : Owned s) :
    (s.calls call).pc ≠ .absent ∧ (s.calls call).pc ≠ .scanned :=
  owned.registered call ((owned.ledger.split call).mpr (.inl outstanding))

/-- A call whose record changes, outstanding as before, leaves the ids as they were, also when it
enters or leaves the list meanwhile. -/
theorem Owned.update (owned : Owned s) {value : Call} {next : Nat} {cur : InstId}
    {list heap : List Nat} (later : s.nextCall ≤ next) (counted : call < next)
    (others : ∀ other, other ≠ call → (other ∈ list ↔ other ∈ s.listed)) (nodup : list.Nodup)
    (outstanding : s.Outstanding call ↔
      call ∈ list ∨ value.pc = .claimed ∨ value.pc = .releasing true)
    (key : s.Outstanding call → value.key = (s.calls call).key)
    (listed : call ∈ list → value.pc.sent = true)
    (registered : call ∈ s.allocated → value.pc ≠ .absent ∧ value.pc ≠ .scanned) :
    Owned { s with
      calls := Function.update s.calls call value
      nextCall := next
      curInstNum := cur
      listed := list
      heap := heap } := by
  have elsewhere : ∀ other, other ≠ call →
      Function.update s.calls call value other = s.calls other :=
    fun other different => Function.update_of_ne different value s.calls
  have same : ∀ other, Ids.Outstanding { s with
      calls := Function.update s.calls call value
      nextCall := next
      curInstNum := cur
      listed := list
      heap := heap } other ↔ s.Outstanding other := by
    intro other
    by_cases own : other = call
    · subst own
      rw [outstanding]
      simp [Ids.Outstanding]
    · simp [Ids.Outstanding, elsewhere other own, others other own]
  have keys : ∀ other, s.Outstanding other →
      (Function.update s.calls call value other).key = (s.calls other).key := by
    intro other holding
    by_cases own : other = call
    · subst own
      rw [Function.update_self]
      exact key holding
    · rw [elsewhere other own]
  refine ⟨owned.marks.congr same keys, owned.ledger.congr same, owned.running, ?_, nodup, ?_, ?_⟩
  · intro other absent
    have different : other ≠ call := fun own =>
      absurd counted (Nat.not_lt.mpr (own ▸ absent))
    show (Function.update s.calls call value other).pc = .absent
    rw [elsewhere other different]
    exact owned.fresh other (Nat.le_trans later absent)
  · intro other member
    show (Function.update s.calls call value other).pc.sent = true
    by_cases own : other = call
    · subst own
      rw [Function.update_self]
      exact listed member
    · rw [elsewhere other own]
      exact owned.listed_sent other ((others other own).mp member)
  · intro other member
    show (Function.update s.calls call value other).pc ≠ .absent ∧
      (Function.update s.calls call value other).pc ≠ .scanned
    by_cases own : other = call
    · subst own
      rw [Function.update_self]
      exact registered member
    · rw [elsewhere other own]
      exact owned.registered other member

theorem Owned.counted (owned : Owned s) (present : (s.calls call).pc ≠ .absent) :
    call < s.nextCall := by
  by_contra beyond
  exact present (owned.fresh call (Nat.not_lt.mp beyond))

theorem Owned.goto (owned : Owned s) {pc : CallPc} (present : (s.calls call).pc ≠ .absent)
    (outstanding : s.Outstanding call ↔ call ∈ s.listed ∨ pc = .claimed ∨ pc = .releasing true)
    (listed : call ∈ s.listed → pc.sent = true) (past : pc ≠ .absent ∧ pc ≠ .scanned) :
    Owned (s.goto call pc) :=
  owned.update le_rfl (owned.counted present) (fun _ _ => Iff.rfl) owned.listed_nodup
    outstanding (fun _ => rfl) listed fun _ => past

theorem Owned.scan (owned : Owned s) (reader : Option Nat) (inst pldmType cmd : Nat) :
    Owned (s.scan reader inst pldmType cmd).1 := by
  have absent := owned.fresh s.nextCall le_rfl
  have idle : ¬ s.Outstanding s.nextCall := fun outstanding => (outstanding.pc_ne owned).1 absent
  have unlisted : s.nextCall ∉ s.listed := fun member => idle (.inl member)
  have unregistered : s.nextCall ∉ s.allocated := fun member =>
    (owned.registered s.nextCall member).1 absent
  obtain ⟨found, cur, scanned⟩ := s.scan_eq reader inst pldmType cmd
  rw [scanned]
  apply owned.update (Nat.le_succ _) (Nat.lt_succ_self _) (fun _ _ => Iff.rfl) owned.listed_nodup
  · apply iff_of_false idle
    cases found with
    | true => simp [unlisted]
    | false => simp [unlisted]
  · exact fun outstanding => absurd outstanding idle
  · exact fun member => absurd member unlisted
  · exact fun member => absurd member unregistered

/-- A call that marks a free id takes it. -/
theorem Owned.claim (owned : Owned s) (scanned : (s.calls call).pc = .scanned)
    (free : s.table ((s.calls call).inst, s.curInstNum) = false) : Owned (s.claim call) := by
  have idle : ¬ s.Outstanding call := fun outstanding => (outstanding.pc_ne owned).2 scanned
  have unregistered : call ∉ s.allocated := fun member =>
    (owned.registered call member).2 scanned
  have own : (s.claim call).calls call =
      { s.calls call with instId := s.curInstNum, pc := .claimed } := Function.update_self ..
  have elsewhere : ∀ other, other ≠ call → (s.claim call).calls other = s.calls other :=
    fun other different => Function.update_of_ne different _ _
  have same : ∀ other, (s.claim call).Outstanding other ↔ s.Outstanding other ∨ other = call := by
    intro other
    by_cases self : other = call
    · subst self
      simp [Ids.Outstanding, own]
    · simp only [self, or_false]
      rw [Ids.Outstanding, elsewhere other self]
      rfl
  have apart : ∀ other, s.Outstanding other → other ≠ call := by
    rintro other outstanding rfl
    exact idle outstanding
  refine ⟨?_, owned.ledger.take unregistered same, owned.running, ?_, owned.listed_nodup, ?_, ?_⟩
  · apply owned.marks.take free same
    · intro other outstanding
      rw [elsewhere other (apart other outstanding)]
    · rw [own]
      rfl
  · intro other absent
    have before := owned.fresh other absent
    have different : other ≠ call := by
      rintro rfl
      rw [scanned] at before
      cases before
    rw [elsewhere other different]
    exact before
  · intro other member
    rw [elsewhere other (apart other (.inl member))]
    exact owned.listed_sent other member
  · intro other member
    rcases List.mem_append.mp member with before | last
    · have different : other ≠ call := by
        rintro rfl
        exact unregistered before
      rw [elsewhere other different]
      exact owned.registered other before
    · obtain rfl := List.mem_singleton.mp last
      rw [own]
      simp

theorem Owned.listed_pc (owned : Owned s) (member : call ∈ s.listed) :
    (s.calls call).pc ≠ .claimed ∧ ∀ own, (s.calls call).pc ≠ .releasing own := by
  have sent := owned.listed_sent call member
  constructor
  · intro claimed
    rw [claimed] at sent
    cases sent
  · intro own releasing
    rw [releasing] at sent
    cases sent

theorem Owned.erase_iff (owned : Owned s) (member : call ∈ s.listed) (other : Nat) :
    Ids.Outstanding { s with listed := s.listed.erase call } other ↔
      s.Outstanding other ∧ other ≠ call := by
  simp only [Ids.Outstanding, owned.listed_nodup.mem_erase_iff]
  by_cases self : other = call
  · subst self
    have pc := owned.listed_pc member
    simp [pc.1, pc.2 true]
  · simp [self]

theorem Owned.unlink (owned : Owned s) (member : call ∈ s.listed) :
    (s.unlink call).2 = true ∧ Owned (s.unlink call).1 := by
  have outstanding : s.Outstanding call := .inl member
  have marked : s.table (s.calls call).key = true := owned.marks.of_holds outstanding
  have unlinked : s.unlink call =
      ({ s with
        listed := s.listed.erase call
        table := Function.update s.table (s.calls call).key false
        released := s.released ++ [call] }, true) := if_pos marked
  rw [unlinked]
  have same := owned.erase_iff member
  refine ⟨rfl, owned.marks.give outstanding same fun _ _ => rfl, owned.ledger.give outstanding same,
    owned.running, owned.fresh, owned.listed_nodup.erase call, ?_, owned.registered⟩
  intro other left
  exact owned.listed_sent other (mem_of_mem_erase left)

/-- A call that gives its id back, or finds its old id free, returns. -/
theorem Owned.release (owned : Owned s) {own : Bool}
    (releasing : (s.calls call).pc = .releasing own)
    (guarded : own = false → s.table (s.calls call).key = false) :
    Owned ((s.unregister call).1.goto call (.ended false)) := by
  have present : (s.calls call).pc ≠ .absent := by
    rw [releasing]
    exact nofun
  have unlisted : call ∉ s.listed := fun member => (owned.listed_pc member).2 own releasing
  cases own with
  | false =>
    have unmarked : s.unregister call = (s, false) := by
      unfold Ids.unregister
      rw [guarded rfl]
      rfl
    rw [unmarked]
    apply owned.goto present
    · simp [Ids.Outstanding, unlisted, releasing]
    · exact fun member => absurd member unlisted
    · simp
  | true =>
    have outstanding : s.Outstanding call := .inr (.inr releasing)
    have marked : s.table (s.calls call).key = true := owned.marks.of_holds outstanding
    have given : s.unregister call =
        ({ s with
          table := Function.update s.table (s.calls call).key false
          released := s.released ++ [call] }, true) := if_pos marked
    rw [given]
    have same : ∀ other, (s.goto call (.ended false)).Outstanding other ↔
        s.Outstanding other ∧ other ≠ call := by
      intro other
      by_cases mine : other = call
      · subst mine
        simp [Ids.Outstanding, Ids.goto, unlisted]
      · simp [Ids.Outstanding, Ids.goto, mine]
    have keys : ∀ other, (s.goto call (.ended false)).Outstanding other →
        ((s.goto call (.ended false)).calls other).key = (s.calls other).key := by
      intro other holding
      rw [s.goto_calls_of_ne _ ((same other).mp holding).2]
    refine ⟨owned.marks.give outstanding same keys, owned.ledger.give outstanding same,
      owned.running, ?_, owned.listed_nodup, ?_, ?_⟩
    · intro other absent
      have before := owned.fresh other absent
      have different : other ≠ call := by
        rintro rfl
        exact present before
      show ((s.goto call (.ended false)).calls other).pc = .absent
      rw [s.goto_calls_of_ne _ different]
      exact before
    · intro other member
      have different : other ≠ call := by
        rintro rfl
        exact unlisted member
      show ((s.goto call (.ended false)).calls other).pc.sent = true
      rw [s.goto_calls_of_ne _ different]
      exact owned.listed_sent other member
    · intro other member
      show ((s.goto call (.ended false)).calls other).pc ≠ .absent ∧
        ((s.goto call (.ended false)).calls other).pc ≠ .scanned
      by_cases mine : other = call
      · subst mine
        rw [s.goto_calls_self]
        simp
      · rw [s.goto_calls_of_ne _ mine]
        exact owned.registered other member

theorem Owned.free (owned : Owned s) : Owned (s.free call) :=
  ⟨owned.marks, owned.ledger, owned.running, owned.fresh, owned.listed_nodup, owned.listed_sent,
    owned.registered⟩

theorem Owned.append (owned : Owned s) (claimed : (s.calls call).pc = .claimed)
    (node : Option Nat) : Owned (s.append call node) := by
  have present : (s.calls call).pc ≠ .absent := by
    rw [claimed]
    exact nofun
  have outstanding : s.Outstanding call := .inr (.inl claimed)
  have unlisted : call ∉ s.listed := fun member => (owned.listed_pc member).1 claimed
  cases node with
  | none =>
    apply owned.goto present
    · simp [outstanding]
    · exact fun member => absurd member unlisted
    · simp
  | some node =>
    apply owned.update le_rfl (owned.counted present)
    · intro other different
      simp [different]
    · rw [nodup_append_comm]
      exact List.nodup_cons.mpr ⟨unlisted, owned.listed_nodup⟩
    · simp [outstanding]
    · exact fun _ => rfl
    · exact fun _ => rfl
    · simp

/-- The error path of a call that finds no request but its own takes that off the list and keeps
the id for now. -/
theorem Owned.remove (owned : Owned s) (failed : (s.calls call).pc = .sendFailed)
    (guarded : ∀ other ∈ s.listed, (s.calls other).node = (s.calls call).node → other = call) :
    Owned (s.remove call) := by
  have present : (s.calls call).pc ≠ .absent := by
    rw [failed]
    exact nofun
  unfold Ids.remove
  split
  · rename_i found looked
    have member : found ∈ s.listed := mem_of_find?_eq_some looked
    have node := find?_some looked
    obtain rfl := guarded found member (by simpa using node)
    apply owned.update le_rfl (owned.counted present)
    · intro other different
      simp [different]
    · exact owned.listed_nodup.erase found
    · simp [Ids.Outstanding, member]
    · exact fun _ => rfl
    · intro left
      exact absurd left (fun left => ((owned.listed_nodup.mem_erase_iff).mp left).1 rfl)
    · simp
  · rename_i missed
    have unlisted : call ∉ s.listed := by
      intro member
      have differs := List.find?_eq_none.mp missed call member
      simp at differs
    apply owned.goto present
    · simp [Ids.Outstanding, unlisted, failed]
    · exact fun member => absurd member unlisted
    · simp

end Steps

/-- Every guarded step leaves the ids with the outstanding requests. -/
theorem owned_step {retries : Retries} {s t : Requests} {event : ReqEvent} (owned : Owned s.toIds)
    (guarded : IdGuard s event) (moved : reqStep retries s event = some t) : Owned t.toIds := by
  cases event with
  | send inst pldmType cmd =>
    cases moved
    rw [Requests.begin_toIds]
    exact owned.scan none inst pldmType cmd
  | read inst pldmType cmd rbufLen mallocOk =>
    cases moved
    exact owned
  | attempt reader =>
    obtain ⟨_, moved⟩ := Option.ite_none_right_eq_some.mp moved
    cases moved
    rw [Requests.attempt, Requests.begin_toIds]
    exact owned.scan (some reader) _ _ _
  | claim call =>
    obtain ⟨scanned, moved⟩ := Option.ite_none_right_eq_some.mp moved
    cases moved
    exact owned.claim scanned guarded
  | append call node =>
    obtain ⟨allowed, moved⟩ := Option.ite_none_right_eq_some.mp moved
    cases moved
    exact owned.append allowed.1 node
  | sent call ok =>
    obtain ⟨appended, moved⟩ := Option.ite_none_right_eq_some.mp moved
    have present : (s.calls call).pc ≠ .absent := by
      rw [appended]
      exact nofun
    cases ok with
    | true =>
      cases moved
      rw [Requests.return_toIds]
      apply owned.goto present
      · simp [Ids.Outstanding, appended]
      · exact fun _ => rfl
      · simp
    | false =>
      cases moved
      apply owned.goto present
      · simp [Ids.Outstanding, appended]
      · exact fun _ => rfl
      · simp
  | remove call =>
    obtain ⟨allowed, moved⟩ := Option.ite_none_right_eq_some.mp moved
    cases moved
    exact owned.remove allowed.1 guarded
  | release call =>
    simp only [reqStep] at moved
    split at moved
    · rename_i own releasing
      cases moved
      rw [Requests.return_toIds]
      apply owned.release releasing
      rintro rfl
      exact guarded releasing
    · cases moved
  | response inst instId pldmType cmd len =>
    simp only [reqStep] at moved
    split at moved
    · cases moved
      exact owned
    · cases moved
      unfold Requests.response
      split
      · exact owned
      · rename_i call found
        have kept := owned.unlink (mem_of_find?_eq_some found)
        rw [if_pos kept.1]
        exact kept.2
  | callback call =>
    simp only [reqStep] at moved
    split at moved
    · cases moved
      rw [Requests.handle_toIds]
      exact owned.free
    · cases moved
  | expire call =>
    obtain ⟨member, moved⟩ := Option.ite_none_right_eq_some.mp moved
    cases moved
    have kept := owned.unlink member
    unfold Requests.expire
    rw [if_pos kept.1]
    exact kept.2.free
  | get reader =>
    simp only [reqStep] at moved
    split at moved
    · cases moved
      rw [Requests.get_toIds]
      exact owned
    · cases moved
  | undo inst instId => exact guarded.elim

/-- Every id that is marked has an owner along every guarded run. -/
theorem owned_run {retries : Retries} {events : List ReqEvent} {s : Requests}
    (guarded : Meets (reqStep retries) IdGuard Requests.start events)
    (ran : run (reqStep retries) Requests.start events = some s) : Owned s.toIds :=
  have kept : ∀ {s event t}, Owned s.toIds → IdGuard s event → reqStep retries s event = some t →
      Owned t.toIds := owned_step
  invariant kept owned_start guarded ran

/-- The table marks the outstanding requests, each alone with its id, and every id is released
once. -/
structure IdsExact (s : Requests) : Prop where
  marked : ∀ inst instId, s.table (inst, instId) = true ↔
    ∃! call, s.Outstanding call ∧ (s.calls call).inst = inst ∧ (s.calls call).instId = instId
  alone : ∀ first second, s.Outstanding first → s.Outstanding second →
    (s.calls first).inst = (s.calls second).inst →
    (s.calls first).instId = (s.calls second).instId → first = second
  allocatedOnce : s.allocated.Nodup
  releasedOnce : s.released.Nodup ∧
    ∀ call, call ∈ s.released ↔ call ∈ s.allocated ∧ ¬ s.Outstanding call

theorem Owned.exact {s : Requests} (owned : Owned s.toIds) : IdsExact s := by
  have key : ∀ call inst instId, (s.calls call).key = (inst, instId) ↔
      (s.calls call).inst = inst ∧ (s.calls call).instId = instId :=
    fun _ _ _ => Prod.mk.injEq .. ▸ Iff.rfl
  refine ⟨?_, ?_, owned.ledger.allocated_nodup, owned.ledger.released_nodup, ?_⟩
  · intro inst instId
    rw [owned.marks.marked]
    constructor
    · rintro ⟨call, outstanding, held⟩
      refine ⟨call, ⟨outstanding, (key _ _ _).mp held⟩, ?_⟩
      rintro other ⟨also, same⟩
      exact owned.marks.unique other call also outstanding (((key _ _ _).mpr same).trans held.symm)
    · rintro ⟨call, ⟨outstanding, held⟩, _⟩
      exact ⟨call, outstanding, (key _ _ _).mpr held⟩
  · intro first second one two inst instId
    exact owned.marks.unique first second one two (Prod.ext inst instId)
  · intro call
    rw [owned.ledger.split]
    constructor
    · exact fun released => ⟨.inr released, owned.ledger.apart call released⟩
    · rintro ⟨holds | released, idle⟩
      · exact absurd holds idle
      · exact released

/-- A request answered, one timed out while the transport held its call, and one whose transport
failed. -/
def threeRequests : List ReqEvent :=
  [.send 0 2 0x11, .send 0 2 0x12, .claim 0, .claim 1, .append 0 (some 64), .append 1 (some 128),
    .sent 0 true, .response 0 0 2 0x11 12, .expire 1, .callback 0, .sent 1 false, .remove 1,
    .send 0 2 0x13, .claim 2, .append 2 (some 64), .sent 2 false, .release 1, .remove 2, .release 2]

/-- The first request times out while the transport holds its call; thirty-one more come and go
until its id is given out again; then the first call's failure is reported and clears it. -/
def lateFailure : List ReqEvent :=
  [.send 0 2 0x11, .claim 0, .append 0 (some 64), .expire 0, .sent 0 false, .remove 0] ++
    (List.range' 1 31).flatMap (fun call =>
      [.send 0 2 0x11, .claim call, .append call (some 64), .sent call true, .expire call]) ++
    [.send 0 2 0x11, .claim 32, .append 32 (some 64), .sent 32 true, .release 0]

end OpenBic.Pldm
