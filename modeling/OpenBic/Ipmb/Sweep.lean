import OpenBic.Ipmb.Table
import OpenBic.Library.Skim

/-!
# One sweep of the timeout handler

`IPMB_SeqTimeout_handler` on the list of one channel, at one value of the tick counter. The counter
has 32 bits, and a request's age is what it has advanced since, however often it wrapped. What the
loop removes is what `Library.Skim` removes.
-/

namespace OpenBic.Ipmb

open List Library.Skim

/-- The timer of a platform: three seconds of it are counted in 31 bits. -/
structure Timer where
  freq : UInt32
  slow : 3 * freq.toNat < 2 ^ 31

/-- `tick_fix` and `sys_tick_freq`, as `ipmb_init` sets them. -/
def Timer.ticks (timer : Timer) : Ticks :=
  { tickFix := timer.freq / 1000, sysTickFreq := timer.freq }

def IpmiMsg.age (now : UInt32) (node : IpmiMsg) : Nat := (now - node.timestamp).toNat

/-- A request's age has reached the timeout of three seconds, which `tick_fix` brings forward by a
millisecond. -/
def Timer.expired (timer : Timer) (now : UInt32) (node : IpmiMsg) : Bool :=
  3 * timer.freq.toNat < node.age now + timer.freq.toNat / 1000

/-- Exactly the requests that have timed out are gone, with their numbers. -/
structure Swept (expired : IpmiMsg → Bool) (s t : Channel) : Prop where
  listed : t.listed = s.listed.filter fun node => !expired node
  count : t.count = s.count - (s.listed.filter expired).length
  free : ∀ node ∈ s.listed, expired node = true → t.seqTable node.seqTarget = false
  kept : ∀ seq, (∀ node ∈ s.listed, expired node = true → node.seqTarget ≠ seq) →
    t.seqTable seq = s.seqTable seq

/-- The requests that have timed out are all come by. -/
structure Sweepable (timer : Timer) (now : UInt32) (s : Channel) : Prop where
  closed : s.closed = true
  /-- No request is so old that its age wraps when `tick_fix` is added. -/
  recent : ∀ node ∈ s.listed, node.age now + timer.freq.toNat / 1000 < 2 ^ 32
  /-- For some power of two, the requests timed out at the end of the list are one less, and
  nowhere are twice as many in a row. -/
  rows : Cleared (s.listed.map (timer.expired now))

variable {timer : Timer} {now : UInt32} {s t : Channel} {node : IpmiMsg}

/-! ## The comparison -/

theorem Timer.age_toNat (timer : Timer) (now : UInt32) (node : IpmiMsg) :
    (now + timer.ticks.tickFix - node.timestamp).toNat =
      (node.age now + timer.freq.toNat / 1000) % 2 ^ 32 := by
  have moved : now + timer.ticks.tickFix - node.timestamp =
      (now - node.timestamp) + timer.freq / 1000 := by
    show now + timer.freq / 1000 - node.timestamp = _
    rw [UInt32.sub_eq_add_neg, UInt32.sub_eq_add_neg, UInt32.add_assoc, UInt32.add_assoc,
      UInt32.add_comm (timer.freq / 1000)]
  rw [moved, UInt32.toNat_add, UInt32.toNat_div]
  rfl

theorem Timer.limit_toNat (timer : Timer) :
    (3000 / 1000 * timer.ticks.sysTickFreq : UInt32).toNat = 3 * timer.freq.toNat := by
  have slow := timer.slow
  show (3000 / 1000 * timer.freq : UInt32).toNat = _
  show 3 * timer.freq.toNat % 2 ^ 32 = _
  omega

theorem sign_eq_zero {age : UInt32} (small : age.toNat < 2 ^ 31) : age &&& 0x80000000 = 0 := by
  apply UInt32.toNat_inj.mp
  show age.toNat &&& 2 ^ 31 = 0
  apply Nat.eq_of_testBit_eq
  intro place
  rw [Nat.testBit_and, Nat.testBit_two_pow, Nat.zero_testBit]
  by_cases sign : 31 = place
  · rw [← sign, Nat.testBit_lt_two_pow small, Bool.false_and]
  · rw [decide_eq_false sign, Bool.and_false]

theorem Timer.old_iff (timer : Timer) (now : UInt32) (node : IpmiMsg) :
    timer.ticks.old now node = true ↔ timer.expired now node = true ∧
      node.age now + timer.freq.toNat / 1000 < 2 ^ 32 := by
  have slow := timer.slow
  have small : node.age now < 2 ^ 32 := (now - node.timestamp).toNat_lt
  have aged := timer.age_toNat now node
  have limit := timer.limit_toNat
  unfold Ticks.old Timer.expired
  rw [Bool.or_eq_true, decide_eq_true_iff, decide_eq_true_iff, gt_iff_lt, UInt32.lt_iff_toNat_lt,
    limit, aged]
  constructor
  · rintro (old | sign)
    · omega
    · by_contra young
      refine absurd (sign_eq_zero ?_) (bne_iff_ne.mp sign)
      omega
  · rintro ⟨old, unwrapped⟩
    left
    omega

/-! ## The loop -/

theorem sweepPass_skim (old : IpmiMsg → Bool) (turn : Nat) {passed rest : List IpmiMsg}
    (listed : s.listed = passed ++ rest) :
    (sweepPass (fun _ => old) turn passed rest s).2.2.listed = passed ++ (skim old rest).1 ∧
      (sweepPass (fun _ => old) turn passed rest s).2.1 = (skim old rest).2 := by
  fun_induction sweepPass (fun _ => old) turn passed rest s with
  | case1 turn passed s => exact ⟨listed, rfl⟩
  | case2 turn passed node s stale =>
    rw [skim_last stale]
    exact ⟨(append_nil _).symm, rfl⟩
  | case3 turn passed node s stale next rest ih =>
    rw [skim_pair stale]
    obtain ⟨same, again⟩ := ih (append_cons passed next rest)
    exact ⟨same.trans (append_cons passed next _).symm, again⟩
  | case4 turn passed node rest s fresh ih =>
    rw [skim_kept (Bool.eq_false_iff.mpr fresh)]
    obtain ⟨same, again⟩ := ih (listed.trans (append_cons passed node rest))
    exact ⟨same.trans (append_cons passed node _).symm, again⟩

theorem sweepLoop_skim {old : IpmiMsg → Bool} (starts turn : Nat) :
    (sweepLoop (fun _ => old) starts turn s).listed = skimLoop old starts s.listed := by
  induction starts generalizing turn s with
  | zero => rfl
  | succ starts ih =>
    obtain ⟨listed, again⟩ := sweepPass_skim old turn
      (nil_append s.listed).symm
    rw [nil_append] at listed
    unfold sweepLoop skimLoop
    dsimp only
    rw [again]
    split
    · rw [ih, listed]
    · exact listed

/-- What unlinking leaves: the nodes that are gone are counted, and their numbers are free. -/
def Unlinked (s t : Channel) : Prop :=
  ∃ gone : List IpmiMsg, s.listed.Perm (gone ++ t.listed) ∧ t.count = s.count - gone.length ∧
    ∀ seq, t.seqTable seq = (s.seqTable seq && !gone.any fun node => node.seqTarget == seq)

theorem hereditary_unlinked (s : Channel) : Hereditary (Unlinked s) := by
  intro t node before after unlinked listed
  obtain ⟨gone, same, counted, marked⟩ := unlinked
  refine ⟨node :: gone, ?_, ?_, fun seq => ?_⟩
  · rw [listed] at same
    have moved : (gone ++ (before ++ node :: after)).Perm
        (node :: (gone ++ (before ++ after))) := by
      rw [← append_assoc, ← append_assoc]
      exact perm_middle
    exact same.trans moved
  · show t.count - 1 = s.count - (gone.length + 1)
    omega
  · show Function.update t.seqTable node.seqTarget false seq = _
    rw [any_cons, Function.update_apply]
    split
    · rename_i own
      simp [own]
    · rename_i other
      have unequal : (node.seqTarget == seq) = false := beq_eq_false_iff_ne.mpr (Ne.symm other)
      rw [marked seq, unequal, Bool.false_or]

theorem Unlinked.swept {expired : IpmiMsg → Bool} (unlinked : Unlinked s t)
    (listed : t.listed = s.listed.filter fun node => !expired node) : Swept expired s t := by
  obtain ⟨gone, same, counted, marked⟩ := unlinked
  have apart : (s.listed.filter expired).Perm gone := by
    have split := filter_append_perm expired s.listed
    rw [listed] at same
    exact (perm_append_right_iff _).mp (split.trans same)
  refine ⟨listed, ?_, fun node member old => ?_, fun seq others => ?_⟩
  · rw [counted, apart.length_eq]
  · have removed : node ∈ gone := apart.mem_iff.mp (List.mem_filter.mpr ⟨member, old⟩)
    have found : gone.any (fun other => other.seqTarget == node.seqTarget) = true :=
      List.any_eq_true.mpr ⟨node, removed, beq_self_eq_true _⟩
    rw [marked, found, Bool.not_true, Bool.and_false]
  · have unfound : gone.any (fun other => other.seqTarget == seq) = false := by
      rw [List.any_eq_false]
      intro node removed own
      obtain ⟨member, old⟩ := List.mem_filter.mp (apart.mem_iff.mpr removed)
      exact others node member old (beq_iff_eq.mp own)
    rw [marked, unfound, Bool.not_false, Bool.and_true]

theorem Timer.old_eq
    (recent : ∀ node ∈ s.listed, node.age now + timer.freq.toNat / 1000 < 2 ^ 32) :
    ∀ node ∈ s.listed, timer.ticks.old now node = timer.expired now node := by
  intro node listed
  rw [Bool.eq_iff_iff, timer.old_iff]
  exact ⟨And.left, fun old => ⟨old, recent node listed⟩⟩

theorem sweep_listed (moved : s.sweep timer.ticks (fun _ => now) = some t) :
    s.closed = true ∧
      t.listed = skimLoop (timer.ticks.old now) (s.listed.length + 1) s.listed := by
  obtain ⟨closed, same⟩ := Option.ite_none_right_eq_some.mp moved
  cases same
  exact ⟨closed, sweepLoop_skim _ _⟩

theorem Swept.recent (moved : s.sweep timer.ticks (fun _ => now) = some t)
    (swept : Swept (timer.expired now) s t) :
    ∀ node ∈ s.listed, node.age now + timer.freq.toNat / 1000 < 2 ^ 32 := by
  intro node listed
  by_contra wrapped
  have young : ¬ timer.ticks.old now node = true := fun old =>
    wrapped ((timer.old_iff now node).mp old).2
  have stays : node ∈ t.listed := by
    have left : node ∈ s.listed.filter fun node => !timer.ticks.old now node :=
      List.mem_filter.mpr ⟨listed, by simpa using young⟩
    rw [← filter_skimLoop (s.listed.length + 1), ← (sweep_listed moved).2] at left
    exact (List.mem_filter.mp left).1
  rw [swept.listed] at stays
  have unexpired := (List.mem_filter.mp stays).2
  have slow := timer.slow
  have old : timer.expired now node = true := decide_eq_true (by omega)
  rw [old] at unexpired
  cases unexpired

/-- After a sweep exactly the requests that have timed out are gone, when they are all come by, and
only then. -/
theorem sweep_iff (timer : Timer) (now : UInt32) (s : Channel) :
    (∃ t, s.sweep timer.ticks (fun _ => now) = some t ∧ Swept (timer.expired now) s t) ↔
      Sweepable timer now s := by
  have whole := skimLoop_eq_iff (timer.ticks.old now) (Nat.lt_succ_self s.listed.length)
  constructor
  · rintro ⟨t, moved, swept⟩
    obtain ⟨closed, left⟩ := sweep_listed moved
    have recent := swept.recent moved
    have old := timer.old_eq recent
    refine ⟨closed, recent, ?_⟩
    rw [← map_congr_left old, ← whole, ← left, swept.listed]
    exact filter_congr fun node listed => by rw [old node listed]
  · rintro ⟨closed, recent, rows⟩
    have old := timer.old_eq recent
    obtain ⟨t, moved⟩ : ∃ t, s.sweep timer.ticks (fun _ => now) = some t :=
      ⟨_, if_pos closed⟩
    have untouched : Unlinked s s := ⟨[], List.Perm.refl _, rfl, fun seq => by simp⟩
    have unlinked : Unlinked s t := Hereditary.sweep (hereditary_unlinked s) untouched moved
    refine ⟨t, moved, unlinked.swept ?_⟩
    rw [← map_congr_left old, ← whole, ← (sweep_listed moved).2] at rows
    rw [rows]
    exact filter_congr fun node listed => by rw [old node listed]

def twoListed : Channel :=
  { Channel.start with
    listed := [request 1, request 2]
    count := 2
    seqTable := fun seq => seq = 1 ∨ seq = 2 }

def Timer.thousand : Timer := { freq := 1000, slow := by decide }

/-- Of two timed-out requests that stand side by side one is kept. -/
theorem twoListed_kept :
    ¬ ∃ t, twoListed.sweep Timer.thousand.ticks (fun _ => 5000) = some t ∧
      Swept (Timer.thousand.expired 5000) twoListed t := by
  rintro ⟨t, moved, swept⟩
  cases moved
  cases swept.listed

end OpenBic.Ipmb
