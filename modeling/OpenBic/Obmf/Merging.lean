import OpenBic.Obmf.Accounting

/-!
# Merged transfers

A private write without a stop and the private read behind it are merged into one transfer. On a
target to which a repeated start is no different from a stop and a start, the merged transfer is
compared with the two operations run one after the other.
-/

namespace OpenBic.Obmf

open List Option Library.Checked

/-- A bus whose targets do not tell a repeated start from a stop and a start. -/
structure Target (τ : Type) where
  free : τ → Bool
  known : τ → UInt8 → Bool
  cccWrite : τ → UInt8 → UInt8 → (data : List UInt8) → Except Errno (Fin (data.length + 1)) × τ
  cccRead : τ → UInt8 → UInt8 → (asked : Nat) → Except Errno (Received asked) × τ
  write : τ → UInt8 → (data : List UInt8) → Except Errno (Fin (data.length + 1)) × τ
  read : τ → UInt8 → (asked : Nat) → Except Errno (Received asked) × τ

variable {τ : Type}

def Target.writeRead (target : Target τ) (state : τ) (addr : UInt8) (data : List UInt8)
    (asked : Nat) : Except Errno (Fin (data.length + 1) × Received asked) × τ :=
  match target.write state addr data with
  | (.error errno, state) => (.error errno, state)
  | (.ok sent, state) =>
    match target.read state addr asked with
    | (.error errno, state) => (.error errno, state)
    | (.ok received, state) => (.ok (sent, received), state)

def Target.bus (target : Target τ) : I3cBus τ where
  lock state := (target.free state, state)
  known := target.known
  cccWrite := target.cccWrite
  cccRead := target.cccRead
  privWrite := target.write
  privRead := target.read
  privWriteRead := target.writeRead

def plainSequence {δ : Type} (bus : I3cBus δ) (driver : δ) (numOps : UInt8)
    (opsData : List UInt8) : Option (List (List Done) × List UInt8 × δ) := do
  let (ran, driver) ← runTransfers bus driver 0 ((operations numOps.toNat opsData).map .single)
  let dones := ran.flatten
  some (ran, 0 :: UInt8.ofNat dones.length :: dones.flatMap Done.bytes, driver)

/-- What a host and the operations that follow see of a sequence: the operations that were run
with their results, the response, and the state of the bus. -/
def seen {δ : Type} (outcome : List (List Done) × List UInt8 × δ) : List Done × List UInt8 × δ :=
  (outcome.1.flatten, outcome.2)

/-- At every merged pair that is reached, running the operations one after the other, there is
room for no result or for two, and both operations succeed. -/
def Smooth (target : Target τ) : τ → Nat → List BusTransfer → Prop
  | _, _, [] => True
  | state, offset, .single op :: rest =>
    i3cMaxRspPayload < offset + i3cOpResultSize ∨
      ∀ outcome ∈ execOp target.bus state op (i3cMaxRspPayload - (offset + i3cOpResultSize)),
        outcome.1.status = i3cOpSuccess →
          Smooth target outcome.2 (offset + i3cOpResultSize + outcome.1.data.length) rest
  | state, offset, .pair write read :: rest =>
    i3cMaxRspPayload < offset + i3cOpResultSize ∨
      (offset + 2 * i3cOpResultSize ≤ i3cMaxRspPayload ∧
        ∀ wrote ∈ execOp target.bus state (some write) 0, wrote.1.status = i3cOpSuccess ∧
          ∀ got ∈ execOp target.bus wrote.2 (some read)
              (i3cMaxRspPayload - (offset + 2 * i3cOpResultSize)),
            got.1.status = i3cOpSuccess ∧
              Smooth target got.2 (offset + 2 * i3cOpResultSize + got.1.data.length) rest)

/-! ## One pair -/

/-- How a merged transfer compares with its two operations. -/
inductive Compared (target : Target τ) (state : τ) (write read : Op) (space : Nat) : Prop where
  | unread (plain : execOp target.bus state (some write) 0 = none)
      (merged : execPrivateSdrWr target.bus state write read space = none)
  | stopped {wrote first second : Done} {next next' : τ}
      (plain : execOp target.bus state (some write) 0 = some (wrote, next))
      (fails : wrote.status ≠ i3cOpSuccess)
      (merged : execPrivateSdrWr target.bus state write read space = some (first, second, next'))
      (failsToo : second.status ≠ i3cOpSuccess)
  | halted {wrote got first second : Done} {next last next' : τ}
      (plain : execOp target.bus state (some write) 0 = some (wrote, next))
      (success : wrote.status = i3cOpSuccess)
      (plainRead : execOp target.bus next (some read) space = some (got, last))
      (fails : got.status ≠ i3cOpSuccess)
      (merged : execPrivateSdrWr target.bus state write read space = some (first, second, next'))
      (together : first.status = second.status)
  | served {wrote got : Done} {next last : τ}
      (plain : execOp target.bus state (some write) 0 = some (wrote, next))
      (success : wrote.status = i3cOpSuccess)
      (plainRead : execOp target.bus next (some read) space = some (got, last))
      (successToo : got.status = i3cOpSuccess)
      (merged : execPrivateSdrWr target.bus state write read space = some (wrote, got, last))

theorem execOp_write {target : Target τ} {state : τ} {write : Op} (space : Nat)
    (kind : write.kind = .privateSdr) (writes : write.isWrite = true) :
    execOp target.bus state (some write) space =
      if target.free state = false then some (.refused write i3cOpTimeout, state)
      else if target.known state write.addr = false then some (.refused write i3cOpNack, state)
      else write.writeData.map fun data =>
        (.wrote write data (target.write state write.addr data).1,
          (target.write state write.addr data).2) := by
  simp only [execOp, kind, execPrivateSdr, writes, if_true, Target.bus]
  cases write.writeData <;> rfl

theorem execOp_read {target : Target τ} {state : τ} {read : Op} (space : Nat)
    (kind : read.kind = .privateSdr) (readsOnly : read.isWrite = false) :
    execOp target.bus state (some read) space =
      if target.free state = false then some (.refused read i3cOpTimeout, state)
      else if target.known state read.addr = false then some (.refused read i3cOpNack, state)
      else some (.read read space (target.read state read.addr read.size).1,
        (target.read state read.addr read.size).2) := by
  simp only [execOp, kind, execPrivateSdr, readsOnly, Bool.false_eq_true, if_false, Target.bus]

theorem execPrivateSdrWr_eq {target : Target τ} {state : τ} {write read : Op} (space : Nat) :
    execPrivateSdrWr target.bus state write read space =
      if target.free state = false then
        some (.refused write i3cOpTimeout, .refused read i3cOpTimeout, state)
      else if target.known state write.addr = false then
        some (.refused write i3cOpNack, .refused read i3cOpNack, state)
      else write.writeData.bind fun data =>
        match target.writeRead state write.addr data read.size with
        | (.ok (sent, received), state) =>
          some (.wrote write data (.ok sent), .read read space (.ok received), state)
        | (.error errno, state) =>
          some (.wrote write data (.error errno), .read read space (.error errno), state) := by
  simp only [execPrivateSdrWr, Target.bus]
  cases write.writeData with
  | none => rfl
  | some data =>
    simp only [bind_eq_bind, bind_some]
    obtain ⟨result, moved⟩ := target.writeRead state write.addr data read.size
    cases result <;> rfl

/-- Every merged transfer compares with its two operations in one of these ways. -/
theorem compared (target : Target τ) (state : τ) {write read : Op}
    (paired : BusTransfer.Paired (.pair write read)) (space : Nat) :
    Compared target state write read space := by
  obtain ⟨writeKind, writes, readKind, readsOnly, sameAddr⟩ := paired
  have timeout : i3cOpTimeout ≠ i3cOpSuccess := by decide
  have nack : i3cOpNack ≠ i3cOpSuccess := by decide
  have plain := @execOp_write _ target state _ 0 writeKind writes
  have merged := @execPrivateSdrWr_eq _ target state write read space
  cases free : target.free state with
  | false =>
    rw [if_pos free] at plain merged
    exact .stopped plain timeout merged timeout
  | true =>
    rw [if_neg (by simp [free])] at plain merged
    cases known : target.known state write.addr with
    | false =>
      rw [if_pos known] at plain merged
      exact .stopped plain nack merged nack
    | true =>
      rw [if_neg (by simp [known])] at plain merged
      cases drawn : write.writeData with
      | none =>
        rw [drawn] at plain merged
        exact .unread plain merged
      | some data =>
        rw [drawn, map_some] at plain
        rw [drawn, bind_some, Target.writeRead] at merged
        have plainRead := @execOp_read _ target (target.write state write.addr data).2 _ space
          readKind readsOnly
        rw [sameAddr] at plainRead
        revert plain merged plainRead
        rcases target.write state write.addr data with ⟨result | sent, next⟩
        · intro merged plain _
          exact .stopped plain (Errno.opStatus_ne _) merged (Errno.opStatus_ne _)
        · intro merged plain plainRead
          revert merged
          simp only at plainRead ⊢
          cases freeNext : target.free next with
          | false =>
            rw [if_pos freeNext] at plainRead
            rcases target.read next write.addr read.size with ⟨errno | received, last⟩
            · exact fun merged => .halted plain rfl plainRead timeout merged rfl
            · exact fun merged => .halted plain rfl plainRead timeout merged rfl
          | true =>
            rw [if_neg (by simp [freeNext])] at plainRead
            cases knownNext : target.known next write.addr with
            | false =>
              rw [if_pos knownNext] at plainRead
              rcases target.read next write.addr read.size with ⟨errno | received, last⟩
              · exact fun merged => .halted plain rfl plainRead nack merged rfl
              · exact fun merged => .halted plain rfl plainRead nack merged rfl
            | true =>
              rw [if_neg (by simp [knownNext])] at plainRead
              revert plainRead
              rcases target.read next write.addr read.size with ⟨errno | received, last⟩
              · intro plainRead merged
                exact .halted plain rfl plainRead (Errno.opStatus_ne _) merged rfl
              · intro plainRead merged
                exact .served plain rfl plainRead rfl merged

/-! ## The run -/

section Flat

variable {δ : Type} {bus : I3cBus δ}

def flat (outcome : List (List Done) × δ) : List Done × δ := (outcome.1.flatten, outcome.2)

def ahead (dones : List Done) (outcome : List Done × δ) : List Done × δ :=
  (dones ++ outcome.1, outcome.2)

theorem map_ahead_inj {dones : List Done} {left right : Option (List Done × δ)} :
    left.map (ahead dones) = right.map (ahead dones) ↔ left = right := by
  constructor
  · intro same
    apply map_injective _ same
    rintro ⟨first, state⟩ ⟨second, state'⟩ joined
    simp only [ahead, Prod.mk.injEq, append_cancel_left_eq] at joined
    exact Prod.ext joined.1 joined.2
  · rintro rfl
    rfl

theorem map_ahead_ahead (first second : List Done) (outcome : Option (List Done × δ)) :
    (outcome.map (ahead second)).map (ahead first) = outcome.map (ahead (first ++ second)) := by
  rw [Option.map_map]
  congr 1
  funext outcome
  simp [ahead]

theorem flat_single (driver : δ) (offset : Nat) (op : Option Op) (rest : List BusTransfer) :
    (runTransfers bus driver offset (.single op :: rest)).map flat =
      if i3cMaxRspPayload < offset + i3cOpResultSize then some ([], driver)
      else (execOp bus driver op (i3cMaxRspPayload - (offset + i3cOpResultSize))).bind
        fun outcome =>
          if outcome.1.status = i3cOpSuccess then
            ((runTransfers bus outcome.2 (offset + i3cOpResultSize + outcome.1.data.length)
              rest).map flat).map (ahead [outcome.1])
          else some ([outcome.1], outcome.2) := by
  simp only [runTransfers]
  split
  · rfl
  cases execOp bus driver op (i3cMaxRspPayload - (offset + i3cOpResultSize)) with
  | none => rfl
  | some outcome =>
    simp only [bind_eq_bind, bind_some]
    split
    · cases runTransfers bus outcome.2 (offset + i3cOpResultSize + outcome.1.data.length) rest <;>
        rfl
    · rfl

theorem flat_pair (driver : δ) (offset : Nat) (write read : Op) (rest : List BusTransfer) :
    (runTransfers bus driver offset (.pair write read :: rest)).map flat =
      if i3cMaxRspPayload < offset + 2 * i3cOpResultSize then some ([], driver)
      else (execPrivateSdrWr bus driver write read
          (i3cMaxRspPayload - (offset + 2 * i3cOpResultSize))).bind fun outcome =>
        if outcome.2.1.status = i3cOpSuccess then
          ((runTransfers bus outcome.2.2 (offset + 2 * i3cOpResultSize +
            outcome.2.1.data.length) rest).map flat).map (ahead [outcome.1, outcome.2.1])
        else some ([outcome.1, outcome.2.1], outcome.2.2) := by
  simp only [runTransfers]
  split
  · rfl
  cases execPrivateSdrWr bus driver write read
      (i3cMaxRspPayload - (offset + 2 * i3cOpResultSize)) with
  | none => rfl
  | some outcome =>
    simp only [bind_eq_bind, bind_some]
    split
    · cases runTransfers bus outcome.2.2
        (offset + 2 * i3cOpResultSize + outcome.2.1.data.length) rest <;> rfl
    · rfl

end Flat

theorem execOp_write_data {target : Target τ} {state next : τ} {write : Op} {wrote : Done}
    (kind : write.kind = .privateSdr) (writes : write.isWrite = true)
    (plain : execOp target.bus state (some write) 0 = some (wrote, next)) (space : Nat) :
    execOp target.bus state (some write) space = some (wrote, next) ∧ wrote.data = [] := by
  have same := @execOp_write _ target state _ space kind writes
  rw [← execOp_write 0 kind writes] at same
  refine ⟨same.trans plain, ?_⟩
  rw [execOp_write 0 kind writes] at plain
  split at plain
  · obtain ⟨rfl, -⟩ := Prod.mk.inj (Option.some.inj plain)
    rfl
  split at plain
  · obtain ⟨rfl, -⟩ := Prod.mk.inj (Option.some.inj plain)
    rfl
  obtain ⟨data, -, wrote⟩ := Option.map_eq_some_iff.mp plain
  obtain ⟨rfl, -⟩ := Prod.mk.inj wrote
  cases (target.write state write.addr data).1 <;> rfl

theorem flat_two {target : Target τ} {state next : τ} {offset : Nat} {write read : Op}
    {wrote : Done} {rest : List BusTransfer}
    (paired : BusTransfer.Paired (.pair write read))
    (room : offset + i3cOpResultSize ≤ i3cMaxRspPayload)
    (plain : execOp target.bus state (some write) 0 = some (wrote, next)) :
    (runTransfers target.bus state offset
      (.single (some write) :: .single (some read) :: rest)).map flat =
        if wrote.status = i3cOpSuccess then
          ((runTransfers target.bus next (offset + i3cOpResultSize)
            (.single (some read) :: rest)).map flat).map (ahead [wrote])
        else some ([wrote], next) := by
  obtain ⟨kind, writes, -⟩ := paired
  obtain ⟨same, alone⟩ := execOp_write_data kind writes plain
    (i3cMaxRspPayload - (offset + i3cOpResultSize))
  rw [flat_single, if_neg (by omega), same, bind_some]
  simp only [alone, length_nil, Nat.add_zero]

/-- Whether a merged transfer and what follows it give what the two operations and what follows
them give. -/
theorem pair_iff {target : Target τ} {state : τ} {offset : Nat} {write read : Op}
    {merged plain : List BusTransfer} (paired : BusTransfer.Paired (.pair write read))
    (onward : ∀ (state : τ) (offset : Nat),
      (runTransfers target.bus state offset merged).map flat =
        (runTransfers target.bus state offset plain).map flat ↔
          Smooth target state offset merged) :
    (runTransfers target.bus state offset (.pair write read :: merged)).map flat =
      (runTransfers target.bus state offset
        (.single (some write) :: .single (some read) :: plain)).map flat ↔
        Smooth target state offset (.pair write read :: merged) := by
  rw [flat_pair, Smooth]
  by_cases full : i3cMaxRspPayload < offset + i3cOpResultSize
  · rw [if_pos (by omega), flat_single, if_pos full]
    exact iff_of_true rfl (.inl full)
  have shift : offset + i3cOpResultSize + i3cOpResultSize = offset + 2 * i3cOpResultSize := by
    omega
  by_cases tight : i3cMaxRspPayload < offset + 2 * i3cOpResultSize
  · rw [if_pos tight]
    refine iff_of_false ?_ (fun smooth => smooth.elim full fun fits => absurd fits.1 (by omega))
    intro same
    cases first : execOp target.bus state (some write) 0 with
    | none =>
      rw [flat_single, if_neg full,
        execOp_write _ paired.1 paired.2.1, ← execOp_write 0 paired.1 paired.2.1, first] at same
      simp at same
    | some outcome =>
      have late : i3cMaxRspPayload < offset + i3cOpResultSize + i3cOpResultSize := by omega
      rw [flat_two paired (by omega) first, flat_single, if_pos late] at same
      split at same <;> simp [ahead] at same
  have room : ¬ i3cMaxRspPayload < offset + i3cOpResultSize + i3cOpResultSize := by omega
  rw [if_neg tight]
  cases compared target state paired
    (i3cMaxRspPayload - (offset + 2 * i3cOpResultSize)) with
  | unread first merged =>
    rw [merged, flat_single, if_neg full,
      execOp_write _ paired.1 paired.2.1, ← execOp_write 0 paired.1 paired.2.1, first]
    refine iff_of_true rfl (.inr ⟨by omega, fun wrote listed => ?_⟩)
    simp at listed
  | stopped first fails merged failsToo =>
    rw [merged, bind_some, if_neg failsToo, flat_two paired (by omega) first, if_neg fails]
    refine iff_of_false (by simp) ?_
    rintro (late | ⟨-, both⟩)
    · exact full late
    · exact fails (both _ first).1
  | halted first success second fails merged together =>
    rw [merged, bind_some, flat_two paired (by omega) first, if_pos success, flat_single,
      if_neg room, shift, second, bind_some, if_neg fails]
    refine iff_of_false ?_ ?_
    · intro same
      split at same
      · rename_i succeeded
        obtain ⟨outcome, -, same⟩ := Option.map_eq_some_iff.mp same
        simp only [ahead, Prod.mk.injEq, cons_append, nil_append, List.cons.injEq] at same
        exact fails (same.1.2.1 ▸ succeeded)
      · rename_i failed
        simp only [map_some, ahead, Option.some.injEq, Prod.mk.injEq, cons_append,
          nil_append, List.cons.injEq] at same
        exact failed (together ▸ same.1.1 ▸ success)
    · rintro (late | ⟨-, both⟩)
      · exact full late
      · exact fails ((both _ first).2 _ second).1
  | @served wrote got next last first success second successToo merged =>
    rw [merged, bind_some, if_pos successToo, flat_two paired (by omega) first,
      if_pos success, flat_single, if_neg room, shift, second, bind_some, if_pos successToo,
      map_ahead_ahead, cons_append, nil_append]
    refine map_ahead_inj.trans ((onward _ _).trans ⟨fun smooth => .inr ⟨by omega, ?_⟩, ?_⟩)
    · intro outcome listed
      cases first.symm.trans listed
      refine ⟨success, fun outcome listed => ?_⟩
      cases second.symm.trans listed
      exact ⟨successToo, smooth⟩
    · rintro (late | ⟨-, both⟩)
      · exact absurd late full
      · exact ((both _ first).2 _ second).2

/-- Merging gives what the operations give one after the other if and only if the run is
smooth. -/
theorem merged_iff {target : Target τ} {list : List BusTransfer}
    (paired : ∀ transfer ∈ list, transfer.Paired) (state : τ) (offset : Nat) :
    (runTransfers target.bus state offset list).map flat =
      (runTransfers target.bus state offset
        ((list.flatMap BusTransfer.ops).map .single)).map flat ↔
          Smooth target state offset list := by
  induction list generalizing state offset with
  | nil => exact iff_of_true rfl trivial
  | cons transfer rest ih =>
    have onward := ih fun other listed => paired other (mem_cons_of_mem _ listed)
    cases transfer with
    | pair write read => exact pair_iff (paired _ mem_cons_self) onward
    | single op =>
      rw [flatMap_cons, BusTransfer.ops, cons_append, nil_append, map_cons,
        flat_single, flat_single, Smooth]
      by_cases full : i3cMaxRspPayload < offset + i3cOpResultSize
      · rw [if_pos full, if_pos full]
        exact iff_of_true rfl (.inl full)
      rw [if_neg full, if_neg full]
      cases ran : execOp target.bus state op (i3cMaxRspPayload - (offset + i3cOpResultSize)) with
      | none =>
        refine iff_of_true rfl (.inr fun outcome listed => ?_)
        simp at listed
      | some outcome =>
        simp only [bind_some]
        by_cases success : outcome.1.status = i3cOpSuccess
        · rw [if_pos success, if_pos success, map_ahead_inj, onward]
          refine ⟨fun smooth => .inr fun other listed _ => ?_, fun smooth => ?_⟩
          · cases listed
            exact smooth
          · exact (smooth.resolve_left full) outcome rfl success
        · rw [if_neg success, if_neg success]
          refine iff_of_true rfl (.inr fun other listed succeeds => ?_)
          cases listed
          exact absurd succeeds success

theorem map_seen {δ : Type} (run : Option (List (List Done) × δ)) :
    (run >>= fun outcome => some (outcome.1, 0 :: UInt8.ofNat outcome.1.flatten.length ::
      outcome.1.flatten.flatMap Done.bytes, outcome.2)).map seen =
        (run.map flat).map fun outcome => (outcome.1, 0 :: UInt8.ofNat outcome.1.length ::
          outcome.1.flatMap Done.bytes, outcome.2) := by
  cases run <;> rfl

/-- On a target that does not tell a repeated start from a stop and a start, merging shows what
running the operations one after the other shows if and only if at every merged pair that is
reached there is room for no result or for two and both operations succeed. -/
theorem merging_transparent (target : Target τ) (state : τ) (numOps : UInt8)
    (opsData : List UInt8) :
    (handleExecuteSequence target.bus state numOps opsData).map seen =
      (plainSequence target.bus state numOps opsData).map seen ↔
        Smooth target state 0 (transfers numOps.toNat opsData) := by
  rw [← merged_iff (paired_transfers _ _), flatMap_transfers]
  have told := @map_seen τ
  simp only [handleExecuteSequence, plainSequence]
  rw [told, told]
  constructor
  · intro same
    apply map_injective _ same
    rintro ⟨first, state⟩ ⟨second, state'⟩ both
    simp only [Prod.mk.injEq] at both
    exact Prod.ext both.1 both.2.2
  · intro same
    rw [same]

/-- A write of one byte and a read of one byte from the same target, without a stop. -/
def writeThenRead : List UInt8 :=
  [2, 0, 0, 0, 0, 0, 5, 0, 0x08, 1, 1, 0, 0xAA, 2, 1, 0, 0, 0, 0, 4, 0, 0x08, 0, 1, 0]

def deafTarget : Target Unit where
  free _ := true
  known _ _ := true
  cccWrite _ _ _ _ := (.error .nxio, ())
  cccRead _ _ _ _ := (.error .nxio, ())
  write _ _ _ := (.ok (Fin.last _), ())
  read _ _ _ := (.error .nxio, ())

/-- A merged pair reports its write as failed too when the read is refused. -/
theorem merging_blames_write :
    (handleExecuteSequence deafTarget.bus () 2 writeThenRead).map seen ≠
      (plainSequence deafTarget.bus () 2 writeThenRead).map seen := by
  decide +kernel

end OpenBic.Obmf
