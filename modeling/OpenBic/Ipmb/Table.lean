import OpenBic.Library.Holders
import OpenBic.Library.Machine
import Mathlib.Data.ZMod.Defs

/-!
# IPMB requests: the pending list and the table of sequence numbers

One channel of `ipmb.c`: the circular list behind `P_start`, the count of its nodes, the table
of sequence numbers in use and the current number. A list whose last allocation failed ends in
a null pointer instead of closing; code that follows that pointer has no next state. Each
operation runs under the channel's mutex and is one step.
-/

namespace OpenBic.Ipmb

open List Function Library.Machine Library.Holders

/-- A sequence number, six bits. -/
abbrev Seq := Fin 64

instance seq_neZero : NeZero 64 := ⟨by decide⟩

/-- `MAX_SEQ_QUENE`. -/
def maxSeqQueue : Nat := 15

def seqNum : Nat := 64

/-- What the service reads of an `ipmi_msg`. -/
structure IpmiMsg where
  netfn : UInt8
  cmd : UInt8
  seq : Seq
  seqSource : UInt8
  seqTarget : Seq
  pldmInstId : UInt8
  infSource : UInt8
  infTarget : UInt8
  timestamp : UInt32
  /-- Which request this is, for a call of `ipmb_read` or a bridged request; the source keeps no
  such field. -/
  call : Option Nat
  /-- The call whose request the target has answered with this response. The source has no such
  field either. -/
  origin : Option Nat := none
deriving DecidableEq

/-- The list of pending requests of a channel with the table of its numbers. -/
structure Channel where
  /-- The nodes behind `P_start`, in order. -/
  listed : List IpmiMsg
  /-- The last node leads back to `P_start`. -/
  closed : Bool
  count : Nat
  seqTable : Seq → Bool
  currentSeq : Seq

def Channel.start : Channel :=
  { listed := [], closed := true, count := 0, seqTable := fun _ => false, currentSeq := 0 }

/-- The loop of `get_free_seq`, in so many tries. -/
def freeSeq (table : Seq → Bool) : Nat → Seq → Seq
  | 0, current => current
  | tries + 1, current =>
    if table (current + 1) then freeSeq table tries (current + 1) else current + 1

def Channel.getFreeSeq (s : Channel) : Channel :=
  { s with currentSeq := freeSeq s.seqTable seqNum s.currentSeq }

def registerSeq (table : Seq → Bool) (seq : Seq) : Seq → Bool := update table seq true

def unregisterSeq (table : Seq → Bool) (seq : Seq) : Seq → Bool := update table seq false

def Channel.evict (s : Channel) : Option Channel :=
  if s.count = maxSeqQueue then
    match s.listed with
    -- the node freed would be `P_start` itself
    | [] => if s.closed then none else some s
    | _ :: rest => some { s with listed := rest, count := s.count - 1 }
  else some s

/-- A node is allocated at the end of the list, or the allocation fails. -/
def Channel.link (s : Channel) (msg : IpmiMsg) (now : UInt32) (mallocOk : Bool) : Channel :=
  if s.closed = false then s
  else if mallocOk then
    { s with
      listed := s.listed ++ [{ msg with timestamp := now }]
      seqTable := registerSeq s.seqTable msg.seqTarget
      count := s.count + 1 }
  else { s with closed := false }

/-- `insert_req_ipmi_msg`. -/
def Channel.insertReq (s : Channel) (msg : IpmiMsg) (now : UInt32) (mallocOk : Bool) :
    Option Channel :=
  s.evict.map fun s => s.link msg now mallocOk

/-- A node is unlinked, its number unregistered and its memory freed; the others are left. -/
def Channel.unlink (s : Channel) (node : IpmiMsg) (left : List IpmiMsg) : Channel :=
  { s with
    listed := left
    seqTable := unregisterSeq s.seqTable node.seqTarget
    count := s.count - 1 }

/-- The loop that looks for a node: the first that fits, and the others. -/
def takeFirst (fits : IpmiMsg → Bool) : List IpmiMsg → Option (IpmiMsg × List IpmiMsg)
  | [] => none
  | node :: rest =>
    if fits node then some (node, rest)
    else (takeFirst fits rest).map fun found => (found.1, node :: found.2)

def IpmiMsg.answers (msg node : IpmiMsg) : Bool :=
  node.netfn == (msg.netfn &&& 0xFE) && node.cmd == msg.cmd && node.seqTarget == msg.seqTarget

/-- `find_req_ipmi_msg`, with the response it fills in when it finds the request. -/
def Channel.findReq (s : Channel) (msg : IpmiMsg) : Option (Channel × Option IpmiMsg) :=
  match takeFirst msg.answers s.listed with
  | some (node, left) =>
    some (s.unlink node left, some { msg with
      seqSource := node.seqSource
      pldmInstId := node.pldmInstId
      infSource := node.infSource
      infTarget := node.infTarget
      call := node.call })
  | none => if s.closed then some (s, none) else none

def IpmiMsg.isSame (msg node : IpmiMsg) : Bool :=
  node.netfn == msg.netfn && node.cmd == msg.cmd && node.seq == msg.seq

/-- `clear_req_ipmi_msg`. -/
def Channel.clearReq (s : Channel) (msg : IpmiMsg) : Option Channel :=
  match takeFirst msg.isSame s.listed with
  | some (node, left) => some (s.unlink node left)
  | none => if s.closed then some s else none

/-- The conversion of ticks to milliseconds. -/
structure Ticks where
  tickFix : UInt32
  sysTickFreq : UInt32

def Ticks.old (ticks : Ticks) (now : UInt32) (node : IpmiMsg) : Bool :=
  let age := now + ticks.tickFix - node.timestamp
  decide (age > 3000 / 1000 * ticks.sysTickFreq) || age &&& 0x80000000 != 0

/-- The loop of `IPMB_SeqTimeout_handler` up to the end of the list: the nodes passed, those not
yet seen, and how often the clock was read. The node after one that is removed is passed unseen;
after the last, when it is removed, the loop starts over. -/
def sweepPass (old : Nat → IpmiMsg → Bool) :
    Nat → List IpmiMsg → List IpmiMsg → Channel → Nat × Bool × Channel
  | turn, _, [], s => (turn, false, s)
  | turn, passed, node :: rest, s =>
    if old turn node then
      match rest with
      | [] => (turn + 1, true, s.unlink node passed)
      | next :: rest =>
        sweepPass old (turn + 1) (passed ++ [next]) rest (s.unlink node (passed ++ next :: rest))
    else sweepPass old (turn + 1) (passed ++ [node]) rest s

def sweepLoop (old : Nat → IpmiMsg → Bool) : Nat → Nat → Channel → Channel
  | 0, _, s => s
  | starts + 1, turn, s =>
    let passed := sweepPass old turn [] s.listed s
    if passed.2.1 then sweepLoop old starts passed.1 passed.2.2 else passed.2.2

/-- `IPMB_SeqTimeout_handler` on one channel; on a list that is not closed it never ends well. -/
def Channel.sweep (s : Channel) (ticks : Ticks) (clock : Nat → UInt32) : Option Channel :=
  if s.closed then
    some (sweepLoop (fun turn => ticks.old (clock turn)) (s.listed.length + 1) 0 s)
  else none

/-- What can happen next. -/
inductive TableEvent where
  | insert (msg : IpmiMsg) (now : UInt32) (mallocOk : Bool)
  | find (msg : IpmiMsg)
  | clear (msg : IpmiMsg)
  | sweep (clock : Nat → UInt32)
  | getFreeSeq

def tableStep (ticks : Ticks) (s : Channel) : TableEvent → Option Channel
  | .insert msg now mallocOk => s.insertReq msg now mallocOk
  | .find msg => (s.findReq msg).map Prod.fst
  | .clear msg => s.clearReq msg
  | .sweep clock => s.sweep ticks clock
  | .getFreeSeq => some s.getFreeSeq

/-- The condition on a step: a request is inserted with a number that is not in use, or, when the
oldest is evicted for it, with that one's number. -/
def TableGuard (s : Channel) : TableEvent → Prop
  | .insert msg _ mallocOk =>
    if s.count = maxSeqQueue then
      s.closed = true ∧ mallocOk = true ∧
        s.listed.head?.map IpmiMsg.seqTarget = some msg.seqTarget
    else s.closed = true → mallocOk = true → s.seqTable msg.seqTarget = false
  | _ => True

instance TableGuard.decidable (s : Channel) : (event : TableEvent) → Decidable (TableGuard s event)
  | .insert msg _ mallocOk =>
    if full : s.count = maxSeqQueue then
      decidable_of_iff (s.closed = true ∧ mallocOk = true ∧
        s.listed.head?.map IpmiMsg.seqTarget = some msg.seqTarget) (by simp [TableGuard, full])
    else
      decidable_of_iff (s.closed = true → mallocOk = true → s.seqTable msg.seqTarget = false)
        (by simp [TableGuard, full])
  | .find _ | .clear _ | .sweep _ | .getFreeSeq => .isTrue trivial

/-- The count and the table follow the list. -/
structure Tracked (s : Channel) : Prop where
  counted : s.count = s.listed.length
  bounded : s.listed.length ≤ maxSeqQueue
  roster : Roster s.seqTable (s.listed.map IpmiMsg.seqTarget)

theorem tracked_start : Tracked Channel.start where
  counted := rfl
  bounded := Nat.zero_le _
  roster := ⟨by simp [Channel.start], nodup_nil⟩

section Steps

variable {s t : Channel} {node msg : IpmiMsg} {before after left : List IpmiMsg}

theorem takeFirst_eq_some {fits : IpmiMsg → Bool} {list : List IpmiMsg}
    (found : takeFirst fits list = some (node, left)) :
    fits node = true ∧ ∃ before after, list = before ++ node :: after ∧ left = before ++ after := by
  induction list generalizing left with
  | nil => cases found
  | cons head rest ih =>
    unfold takeFirst at found
    split at found
    · rename_i fit
      cases found
      exact ⟨fit, [], rest, rfl, rfl⟩
    · obtain ⟨⟨other, others⟩, inRest, same⟩ := Option.map_eq_some_iff.mp found
      cases same
      obtain ⟨fit, before, after, whole, remains⟩ := ih inRest
      exact ⟨fit, head :: before, after, by rw [whole]; rfl, by rw [remains]; rfl⟩

theorem Tracked.unlink (tracked : Tracked s) (listed : s.listed = before ++ node :: after) :
    Tracked (s.unlink node (before ++ after)) := by
  obtain ⟨counted, bounded, roster⟩ := tracked
  rw [listed] at counted bounded roster
  rw [length_append, length_cons] at counted bounded
  refine ⟨?_, ?_, ?_⟩
  · show s.count - 1 = (before ++ after).length
    rw [length_append]
    omega
  · show (before ++ after).length ≤ maxSeqQueue
    rw [length_append]
    omega
  · rw [map_append, map_cons] at roster
    show Roster (update s.seqTable node.seqTarget false)
      ((before ++ after).map IpmiMsg.seqTarget)
    rw [map_append]
    exact roster.drop

/-- A property that unlinking keeps. -/
def Hereditary (holds : Channel → Prop) : Prop :=
  ∀ {s : Channel} {node : IpmiMsg} {before after : List IpmiMsg}, holds s →
    s.listed = before ++ node :: after → holds (s.unlink node (before ++ after))

section Unlinking

variable {holds : Channel → Prop}

theorem Hereditary.find (kept : Hereditary holds) (initial : holds s) {response : Option IpmiMsg}
    (moved : s.findReq msg = some (t, response)) : holds t := by
  unfold Channel.findReq at moved
  split at moved
  · rename_i node left found
    cases moved
    obtain ⟨_, before, after, listed, rfl⟩ := takeFirst_eq_some found
    exact kept initial listed
  · obtain ⟨_, same⟩ := Option.ite_none_right_eq_some.mp moved
    cases same
    exact initial

theorem Hereditary.clear (kept : Hereditary holds) (initial : holds s)
    (moved : s.clearReq msg = some t) : holds t := by
  unfold Channel.clearReq at moved
  split at moved
  · rename_i node left found
    cases moved
    obtain ⟨_, before, after, listed, rfl⟩ := takeFirst_eq_some found
    exact kept initial listed
  · obtain ⟨_, same⟩ := Option.ite_none_right_eq_some.mp moved
    cases same
    exact initial

theorem Hereditary.pass (kept : Hereditary holds) {old : Nat → IpmiMsg → Bool} {turn : Nat}
    {passed rest : List IpmiMsg} (initial : holds s) (listed : s.listed = passed ++ rest) :
    holds (sweepPass old turn passed rest s).2.2 := by
  fun_induction sweepPass old turn passed rest s with
  | case1 turn passed s => exact initial
  | case2 turn passed node s stale =>
    have unlinked := kept initial listed
    rw [append_nil] at unlinked
    exact unlinked
  | case3 turn passed node s stale next rest ih =>
    exact ih (kept initial listed) (append_cons passed next rest)
  | case4 turn passed node rest s fresh ih =>
    exact ih initial (listed.trans (append_cons passed node rest))

theorem Hereditary.sweepLoop (kept : Hereditary holds) (initial : holds s)
    (old : Nat → IpmiMsg → Bool) (starts turn : Nat) : holds (sweepLoop old starts turn s) := by
  induction starts generalizing turn s with
  | zero => exact initial
  | succ starts ih =>
    have passed : holds (sweepPass old turn [] s.listed s).2.2 :=
      kept.pass initial (nil_append _).symm
    unfold Ipmb.sweepLoop
    dsimp only
    split
    · exact ih passed _
    · exact passed

theorem Hereditary.sweep (kept : Hereditary holds) (initial : holds s) {ticks : Ticks}
    {clock : Nat → UInt32} (moved : s.sweep ticks clock = some t) : holds t := by
  obtain ⟨_, swept⟩ := Option.ite_none_right_eq_some.mp moved
  cases swept
  exact kept.sweepLoop initial _ _ _

end Unlinking

/-- A guarded insertion keeps count and table with the list. -/
theorem Tracked.insert (tracked : Tracked s) {now : UInt32} {mallocOk : Bool}
    (guarded : TableGuard s (.insert msg now mallocOk))
    (moved : s.insertReq msg now mallocOk = some t) : Tracked t := by
  obtain ⟨counted, bounded, roster⟩ := tracked
  simp only [TableGuard] at guarded
  obtain ⟨room, evicted, rfl⟩ := Option.map_eq_some_iff.mp moved
  unfold Channel.evict at evicted
  split at guarded
  · rename_i full
    rw [if_pos full] at evicted
    obtain ⟨closed, granted, oldest⟩ := guarded
    cases listed : s.listed with
    | nil =>
      rw [listed] at oldest
      cases oldest
    | cons head rest =>
      simp only [listed] at evicted
      cases evicted
      rw [listed] at oldest counted bounded roster
      have same : head.seqTarget = msg.seqTarget := Option.some.inj oldest
      rw [length_cons] at counted bounded
      rw [map_cons, same] at roster
      simp only [Channel.link, closed, granted, Bool.true_eq_false, if_false, if_true]
      refine ⟨?_, ?_, ?_⟩
      · show s.count - 1 + 1 = (rest ++ [{ msg with timestamp := now }]).length
        rw [length_append, length_singleton]
        omega
      · show (rest ++ [{ msg with timestamp := now }]).length ≤ maxSeqQueue
        rw [length_append, length_singleton]
        exact bounded
      · show Roster (update s.seqTable msg.seqTarget true)
          ((rest ++ [{ msg with timestamp := now }]).map IpmiMsg.seqTarget)
        rw [map_append]
        exact roster.rotate
  · rename_i spare
    rw [if_neg spare] at evicted
    cases evicted
    unfold Channel.link
    split
    · exact ⟨counted, bounded, roster⟩
    · rename_i closed
      split
      · rename_i granted
        have free := guarded (Bool.of_not_eq_false closed) granted
        refine ⟨?_, ?_, ?_⟩
        · show s.count + 1 = (s.listed ++ [{ msg with timestamp := now }]).length
          rw [length_append, length_singleton, counted]
        · show (s.listed ++ [{ msg with timestamp := now }]).length ≤ maxSeqQueue
          rw [length_append, length_singleton]
          omega
        · show Roster (update s.seqTable msg.seqTarget true)
            ((s.listed ++ [{ msg with timestamp := now }]).map IpmiMsg.seqTarget)
          rw [map_append]
          exact roster.add free
      · exact ⟨counted, bounded, roster⟩

theorem freeSeq_free {table : Seq → Bool} {tries : Nat} {current : Seq} {ahead : Nat}
    (near : ahead < tries) (free : table (current + 1 + Fin.ofNat 64 ahead) = false) :
    table (freeSeq table tries current) = false := by
  induction tries generalizing current ahead with
  | zero => exact absurd near (Nat.not_lt_zero _)
  | succ tries ih =>
    unfold freeSeq
    split
    · rename_i used
      cases ahead with
      | zero =>
        have here : current + 1 + Fin.ofNat 64 0 = current + 1 := add_zero _
        rw [here, used] at free
        cases free
      | succ ahead =>
        have further : current + 1 + Fin.ofNat 64 (ahead + 1) =
            current + 1 + 1 + Fin.ofNat 64 ahead := by
          apply Fin.ext
          simp only [Fin.val_add, Fin.val_ofNat, Fin.val_one]
          omega
        rw [further] at free
        exact ih (Nat.lt_of_succ_lt_succ near) free
    · rename_i unused
      exact Bool.of_not_eq_true unused

theorem Channel.getFreeSeq_free {seq : Seq} (free : s.seqTable seq = false) :
    s.seqTable s.getFreeSeq.currentSeq = false := by
  have reached : s.currentSeq + 1 + Fin.ofNat 64 (seq - (s.currentSeq + 1)).val = seq := by
    apply Fin.ext
    simp only [Fin.val_add, Fin.val_sub, Fin.val_ofNat, Fin.val_one]
    omega
  apply freeSeq_free (seq - (s.currentSeq + 1)).isLt
  rw [reached]
  exact free

end Steps

/-- A guarded event keeps the table in step with the list. -/
theorem tracked_step {ticks : Ticks} {s t : Channel} {event : TableEvent} (tracked : Tracked s)
    (guarded : TableGuard s event) (moved : tableStep ticks s event = some t) : Tracked t := by
  have unlinking : Hereditary Tracked := Tracked.unlink
  cases event with
  | insert msg now mallocOk => exact tracked.insert guarded moved
  | find msg =>
    obtain ⟨⟨found, response⟩, looked, rfl⟩ := Option.map_eq_some_iff.mp moved
    exact unlinking.find tracked looked
  | clear msg => exact unlinking.clear tracked moved
  | sweep clock => exact unlinking.sweep tracked moved
  | getFreeSeq =>
    cases moved
    exact ⟨tracked.counted, tracked.bounded, tracked.roster⟩

/-- The count, the table and the list say the same. -/
structure TableExact (s : Channel) : Prop where
  counted : s.count = s.listed.length
  /-- It is at most `MAX_SEQ_QUENE`. -/
  bounded : s.count ≤ maxSeqQueue
  marked : ∀ seq, s.seqTable seq = true ↔ ∃ msg ∈ s.listed, msg.seqTarget = seq
  distinct : s.listed.Pairwise fun first second => first.seqTarget ≠ second.seqTarget
  /-- `get_free_seq` finds a free number when there is one. -/
  free : (∃ seq, s.seqTable seq = false) → s.seqTable s.getFreeSeq.currentSeq = false

theorem Tracked.exact {s : Channel} (tracked : Tracked s) : TableExact s where
  counted := tracked.counted
  bounded := by
    rw [tracked.counted]
    exact tracked.bounded
  marked := fun seq => by rw [tracked.roster.marked, List.mem_map]
  distinct := List.pairwise_map.mp tracked.roster.nodup
  free := fun ⟨_, free⟩ => Channel.getFreeSeq_free free

/-- In every guarded run, the count and the table follow the list of pending requests. -/
theorem tableExact_run {ticks : Ticks} {events : List TableEvent} {s : Channel}
    (guarded : Meets (tableStep ticks) TableGuard Channel.start events)
    (ran : run (tableStep ticks) Channel.start events = some s) : TableExact s :=
  have kept : ∀ {s event t}, Tracked s → TableGuard s event → tableStep ticks s event = some t →
      Tracked t := tracked_step
  (invariant kept tracked_start guarded ran).exact

def Ticks.thousand : Ticks := { tickFix := 1, sysTickFreq := 1000 }

def request (seq : Seq) : IpmiMsg :=
  { netfn := 0x06, cmd := 0x01, seq, seqSource := 0, seqTarget := seq, pldmInstId := 0,
    infSource := 0, infTarget := 0x01, timestamp := 0, call := none }

def threeInserted : List TableEvent :=
  [.getFreeSeq, .insert (request 1) 10 true, .getFreeSeq, .insert (request 2) 20 true, .getFreeSeq,
    .insert (request 3) 30 true, .find { request 2 with netfn := 0x07 }, .clear (request 1),
    .sweep fun _ => 5000]

/-- Count and table are exact after the three requests. -/
theorem tableExact_run_threeInserted :
    ∃ s, run (tableStep Ticks.thousand) Channel.start threeInserted = some s ∧ TableExact s := by
  have guarded : Meets (tableStep Ticks.thousand) TableGuard Channel.start threeInserted := by
    decide +kernel
  have finished : (run (tableStep Ticks.thousand) Channel.start threeInserted).isSome = true := by
    decide +kernel
  obtain ⟨s, ran⟩ := Option.isSome_iff_exists.mp finished
  exact ⟨s, ran, tableExact_run guarded ran⟩

/-- Sixteen requests, with sixteen numbers, before any is answered. -/
def sixteenInserted : List TableEvent :=
  (List.finRange 16).map fun index => .insert (request (index.castLE (by decide) + 1)) 10 true

/-- The oldest is evicted, and its number stays marked. -/
theorem sixteenInserted_leaks :
    ∃ s, run (tableStep Ticks.thousand) Channel.start sixteenInserted = some s ∧
      ¬ TableExact s := by
  have reached : ∃ s ∈ run (tableStep Ticks.thousand) Channel.start sixteenInserted,
      s.seqTable 1 = true ∧ ∀ msg ∈ s.listed, msg.seqTarget ≠ 1 := by decide +kernel
  obtain ⟨s, ran, marked, unlisted⟩ := reached
  refine ⟨s, ran, fun exact => ?_⟩
  obtain ⟨msg, member, same⟩ := (exact.marked 1).mp marked
  exact unlisted msg member same

end OpenBic.Ipmb
