import OpenBic.Obmf.Sequence

/-!
# What an execute sequence answers

The response of an execute sequence, read back by a host that knows the operations it sent, and
the operations arrays for which it says what happened on the bus. How far the results reach when
an operation is run depends on what the reads before it returned; `Walk` follows the array with
the interval of the offsets that can be reached.
-/

namespace OpenBic.Obmf

open List Option Library.Checked

/-! ## The host -/

/-- A result as a host reads it. -/
structure HostResult where
  status : UInt8
  actual : Nat
  data : List UInt8
deriving DecidableEq

def asksRead (op : Option Op) : Bool := op.any fun op => !op.isWrite

/-- A host reads the results of the operations it sent: behind the descriptor of a successful
read come `actual_len` bytes of data, and behind the last result comes nothing. -/
def hostReads : List (Option Op) → Nat → List UInt8 → Option (List HostResult)
  | _, 0, [] => some []
  | op :: ops, count + 1, status :: low :: high :: behind =>
    let actual := length16 low high
    let size := if asksRead op && status == i3cOpSuccess then actual else 0
    if behind.length < size then none
    else (hostReads ops count (behind.drop size)).map
      (⟨status, actual, behind.take size⟩ :: ·)
  | _, _, _ => none

def Done.result (done : Done) : HostResult := ⟨done.status, done.actual, done.delivered⟩

def Op.lead (op : Op) : List UInt8 :=
  match op.kind with
  | .cccWDb _ definingByte => [definingByte]
  | _ => []

/-- The operations run are accounted for by a response with so many results in these bytes. -/
structure Accounted (ops : List (Option Op)) (ran : List (List Done)) (count : Nat)
    (bytes : List UInt8) : Prop where
  own : ∀ done ∈ ran.flatten, ∀ written ∈ done.written, ∃ op ∈ done.op,
    written <+: op.lead ++ op.own
  order : ran.flatten.map Done.op <+: ops
  stops : ∀ transfer ∈ ran.dropLast, ∀ done ∈ transfer, done.status = i3cOpSuccess
  parsed : hostReads ops count bytes = some (ran.flatten.map Done.result)

/-! ## The offsets reached -/

def Op.readSize (op : Op) : Nat := if op.reads then op.size else 0

/-- The operations that can be run fit, when the results reach to some offset from `low` to
`high`: an operation is run where its descriptor has room, and the offsets reached behind it
depend on how much it reads. -/
def Walk (fits : Op → Nat → Prop) : List BusTransfer → Nat → Nat → Prop
  | [], _, _ => True
  | .single none :: _, _, _ => True
  | .single (some op) :: rest, low, high =>
    low + i3cOpResultSize ≤ i3cMaxRspPayload →
      fits op (min high 247 + i3cOpResultSize) ∧
        Walk fits rest (low + i3cOpResultSize) (min high 247 + i3cOpResultSize + op.readSize)
  | .pair write read :: rest, low, high =>
    low + 2 * i3cOpResultSize ≤ i3cMaxRspPayload →
      fits write (min high 244 + 2 * i3cOpResultSize) ∧
        fits read (min high 244 + 2 * i3cOpResultSize) ∧
          Walk fits rest (low + 2 * i3cOpResultSize)
            (min high 244 + 2 * i3cOpResultSize + read.readSize)

/-- An operation whose descriptor has the data it writes, and which returns the data it reads,
with room for it behind `start`. -/
def Op.Carried (op : Op) (start : Nat) : Prop :=
  (op.isWrite = true → op.size ≤ op.own.length) ∧
    (op.isWrite = false → op.reads = true ∧ start + op.size ≤ i3cMaxRspPayload)

/-- The data of a write are all there. -/
def Op.Inside (op : Op) (_ : Nat) : Prop := op.isWrite = true → op.size ≤ op.tail.length

/-- The two operations of a merged transfer are a private write and a private read. -/
def BusTransfer.Paired : BusTransfer → Prop
  | .single _ => True
  | .pair write read => write.kind = .privateSdr ∧ write.isWrite = true ∧
      read.kind = .privateSdr ∧ read.isWrite = false ∧ read.addr = write.addr

/-! ## The operations array -/

theorem Entry.of_merged {entry : Entry} {write read : Op} {next : List UInt8}
    (merged : entry.merged = some (write, read, next)) :
    BusTransfer.Paired (.pair write read) ∧ entry.op = some write ∧
      ∃ follower, readEntry entry.next = some follower ∧ follower.op = some read ∧
        follower.next = next := by
  unfold Entry.merged at merged
  split at merged
  case h_2 => exact absurd merged (by simp)
  case h_1 first follower isWrite behind =>
    split at merged
    case h_2 => exact absurd merged (by simp)
    case h_1 second isRead =>
      split at merged
      case isFalse => exact absurd merged (by simp)
      case isTrue holds =>
        obtain ⟨rfl, rfl, rfl⟩ := merged
        exact ⟨holds.2, isWrite, follower, behind, isRead, rfl⟩

theorem flatMap_transfers (numOps : Nat) (ptr : List UInt8) :
    (transfers numOps ptr).flatMap BusTransfer.ops = operations numOps ptr := by
  induction numOps, ptr using transfers.induct with
  | case1 ptr => rfl
  | case2 ptr truncated => simp [transfers, operations, truncated]
  | case3 ptr entry found => simp [transfers, operations, found, BusTransfer.ops]
  | case4 left ptr truncated => simp [transfers, operations, truncated]
  | case5 left ptr entry found write read next merged ih =>
    obtain ⟨-, first, follower, behind, second, rfl⟩ := Entry.of_merged merged
    simp [transfers, operations, found, merged, BusTransfer.ops, ih, first, behind, second]
  | case6 left ptr entry found alone ih =>
    simp [transfers, operations, found, alone, BusTransfer.ops, ih]

theorem paired_transfers (numOps : Nat) (ptr : List UInt8) :
    ∀ transfer ∈ transfers numOps ptr, transfer.Paired := by
  induction numOps, ptr using transfers.induct with
  | case1 ptr => simp [transfers]
  | case2 ptr truncated => simp [transfers, truncated]
  | case3 ptr entry found => simp [transfers, found, BusTransfer.Paired]
  | case4 left ptr truncated => simp [transfers, truncated]
  | case5 left ptr entry found write read next merged ih =>
    have paired := (Entry.of_merged merged).1
    simpa [transfers, found, merged] using And.intro paired ih
  | case6 left ptr entry found alone ih =>
    simpa [transfers, found, alone, BusTransfer.Paired] using ih

/-! ## One operation -/

theorem Errno.opStatus_ne (errno : Errno) : errno.opStatus ≠ i3cOpSuccess := by
  cases errno <;> decide

def Op.sent (op : Op) : List UInt8 :=
  op.lead ++ if op.isWrite then op.tail.take op.size else []

/-- What running an operation with so much space left for its data comes to. -/
structure Ran (op : Op) (space : Nat) (done : Done) : Prop where
  same : done.op = some op
  written : ∀ bytes ∈ done.written, bytes = op.sent
  data : done.data = done.delivered.take space
  short : done.delivered.length ≤ op.readSize
  returned : op.reads = true → done.status = i3cOpSuccess → done.actual = done.delivered.length
  silent : done.status ≠ i3cOpSuccess → done.delivered = []
  small : done.actual ≤ i3cMaxDataSize + 1

theorem Ran.refused {op : Op} {space : Nat} {status : UInt8} (fails : status ≠ i3cOpSuccess) :
    Ran op space (.refused op status) where
  same := rfl
  written := by simp [Done.refused]
  data := by simp [Done.refused]
  short := by simp [Done.refused]
  returned _ success := absurd success fails
  silent _ := rfl
  small := by simp [Done.refused]

theorem Ran.wrote {op : Op} {space : Nat} {data : List UInt8} (alone : op.reads = false)
    (sent : data = op.sent) (small : data.length ≤ i3cMaxDataSize + 1)
    (result : Except Errno (Fin (data.length + 1))) : Ran op space (.wrote op data result) where
  same := by cases result <;> rfl
  written := by cases result <;> simp [Done.wrote, sent]
  data := by cases result <;> simp [Done.wrote]
  short := by cases result <;> simp [Done.wrote]
  returned reads := absurd reads (by simp [alone])
  silent _ := by cases result <;> rfl
  small := by
    cases result with
    | ok sent =>
      have bound := sent.isLt
      simp only [Done.wrote]
      omega
    | error errno => simp [Done.wrote]

theorem Ran.read {op : Op} {space : Nat} (reads : op.reads = true)
    (result : Except Errno (Received op.size)) : Ran op space (.read op space result) := by
  cases result with
  | error errno => exact .refused errno.opStatus_ne
  | ok received =>
    have within := received.within
    have small : op.size ≤ i3cMaxDataSize := Nat.min_le_right _ _
    exact
      { same := rfl
        written := by simp [Done.read]
        data := rfl
        short := by simpa [Done.read, Op.readSize, reads] using within
        returned := fun _ _ => rfl
        silent := fun fails => absurd rfl fails
        small := by
          simp only [Done.read]
          omega }

theorem Op.reads_of_isWrite {op : Op} (writes : op.isWrite = true) : op.reads = false := by
  unfold Op.reads
  split <;> simp [writes]

theorem Op.writeData_eq {op : Op} (inside : op.size ≤ op.tail.length) :
    op.writeData = some (op.tail.take op.size) := by
  rw [Op.writeData, rangeAt, if_pos (by omega), drop_zero]

theorem Op.sent_of_isWrite {op : Op} (writes : op.isWrite = true) :
    op.sent = op.lead ++ op.tail.take op.size := by
  rw [Op.sent, if_pos writes]

theorem Op.length_sent_le (op : Op) : op.sent.length ≤ i3cMaxDataSize + 1 := by
  have lead : op.lead.length ≤ 1 := by
    unfold Op.lead
    split <;> simp
  have data : (if op.isWrite then op.tail.take op.size else []).length ≤ i3cMaxDataSize := by
    have size : op.size ≤ i3cMaxDataSize := Nat.min_le_right _ _
    split
    · rw [length_take]
      omega
    · simp
  rw [Op.sent, length_append]
  omega

section Exec

variable {δ : Type} {bus : I3cBus δ}

theorem execCcc_ran {op : Op} {id : UInt8} (kind : op.kind = .ccc id) (driver : δ)
    (space start : Nat)
    (inside : op.Inside start) :
    Returns (execCcc bus driver id op space) fun outcome => Ran op space outcome.1 := by
  simp only [execCcc]
  by_cases writes : op.isWrite = true
  · simp only [writes, if_true, Op.writeData_eq (inside writes), bind_eq_bind,
      bind_some]
    split
    · apply Returns.intro
      apply Ran.wrote (Op.reads_of_isWrite writes)
      · rw [Op.sent_of_isWrite writes]
        simp [Op.lead, kind]
      · have bound := op.length_sent_le
        rw [Op.sent_of_isWrite writes, length_append] at bound
        omega
    · exact .intro (.refused (by decide))
  · simp only [writes]
    have reads : op.reads = true := by simp [Op.reads, kind, writes]
    simp only [Bool.false_eq_true, if_false]
    split
    · exact .intro (.read reads _)
    · exact .intro (.refused (by decide))

theorem execCccWDb_ran {op : Op} {id definingByte : UInt8}
    (kind : op.kind = .cccWDb id definingByte)
    (driver : δ) (space start : Nat) (inside : op.Inside start) :
    Returns (execCccWDb bus driver id definingByte op) fun outcome => Ran op space outcome.1 := by
  have alone : op.reads = false := by simp [Op.reads, kind]
  have data : (if op.isWrite then op.writeData else some []) =
      some (if op.isWrite then op.tail.take op.size else []) := by
    split
    · rename_i writes
      exact Op.writeData_eq (inside writes)
    · rfl
  have sent : definingByte :: (if op.isWrite then op.tail.take op.size else []) = op.sent := by
    simp [Op.sent, Op.lead, kind]
  simp only [execCccWDb, data, bind_eq_bind, bind_some]
  split
  · apply Returns.intro
    exact .wrote alone sent (by rw [sent]; exact op.length_sent_le) _
  · exact .intro (.refused (by decide))

theorem execPrivateSdr_ran {op : Op} (kind : op.kind = .privateSdr) (driver : δ)
    (space start : Nat) (inside : op.Inside start) :
    Returns (execPrivateSdr bus driver op space) fun outcome => Ran op space outcome.1 := by
  simp only [execPrivateSdr]
  split
  · exact .intro (.refused (by decide))
  split
  · exact .intro (.refused (by decide))
  split
  · rename_i writes
    have sent : op.tail.take op.size = op.sent := by
      rw [Op.sent_of_isWrite writes]
      simp [Op.lead, kind]
    simp only [Op.writeData_eq (inside writes), bind_eq_bind, bind_some]
    apply Returns.intro
    exact .wrote (Op.reads_of_isWrite writes) sent (by rw [sent]; exact op.length_sent_le) _
  · rename_i readsOnly
    have reads : op.reads = true := by simp [Op.reads, kind, readsOnly]
    exact .intro (.read reads _)

theorem execPrivateSdrWr_ran {write read : Op} (paired : BusTransfer.Paired (.pair write read))
    (driver : δ) (space start : Nat) (inside : write.Inside start) :
    Returns (execPrivateSdrWr bus driver write read space) fun outcome =>
      Ran write space outcome.1 ∧ Ran read space outcome.2.1 ∧
        outcome.1.status = outcome.2.1.status := by
  obtain ⟨writeKind, writes, readKind, readsOnly, -⟩ := paired
  have reads : read.reads = true := by simp [Op.reads, readKind, readsOnly]
  have sent : write.tail.take write.size = write.sent := by
    rw [Op.sent_of_isWrite writes]
    simp [Op.lead, writeKind]
  have small := write.length_sent_le
  rw [← sent] at small
  simp only [execPrivateSdrWr]
  split
  · exact .intro ⟨.refused (by decide), .refused (by decide), rfl⟩
  split
  · exact .intro ⟨.refused (by decide), .refused (by decide), rfl⟩
  simp only [Op.writeData_eq (inside writes), bind_eq_bind, bind_some]
  split
  · rename_i bytesSent received _
    have wrote := @Ran.wrote write space _ (Op.reads_of_isWrite writes) sent small (.ok bytesSent)
    exact .intro ⟨wrote, .read reads (.ok received), rfl⟩
  · rename_i errno _
    have wrote := @Ran.wrote write space _ (Op.reads_of_isWrite writes) sent small (.error errno)
    exact .intro ⟨wrote, .read reads (.error errno), rfl⟩

theorem execOp_ran {op : Op} (driver : δ) (space start : Nat) (inside : op.Inside start) :
    Returns (execOp bus driver (some op) space) fun outcome => Ran op space outcome.1 := by
  simp only [execOp]
  split
  · rename_i id kind
    exact execCcc_ran kind driver space start inside
  · rename_i id definingByte kind
    exact execCccWDb_ran kind driver space start inside
  · rename_i kind
    exact execPrivateSdr_ran kind driver space start inside

end Exec

/-! ## The results read back -/

/-- A result whose data follows it in full. -/
structure Done.Shown (done : Done) (op : Option Op) : Prop where
  same : done.op = op
  own : ∀ written ∈ done.written, ∃ op ∈ done.op, written <+: op.lead ++ op.own
  size : (if asksRead op && done.status == i3cOpSuccess then done.actual else 0) =
    done.delivered.length
  full : done.data = done.delivered
  small : done.actual ≤ i3cMaxDataSize + 1

theorem length16_bytes16 {length : Nat} (small : length ≤ i3cMaxDataSize + 1) :
    ∃ low high, bytes16 (UInt16.ofNat length) = [low, high] ∧ length16 low high = length := by
  refine ⟨_, _, rfl, ?_⟩
  have bound : length ≤ 257 := small
  simp only [length16, UInt16.toNat_ofNat', UInt8.toNat_ofNat', Nat.reducePow]
  omega

theorem Done.Shown.hostReads {done : Done} {op : Option Op} (shown : done.Shown op)
    (ops : List (Option Op)) (count : Nat) (behind : List UInt8) :
    hostReads (op :: ops) (count + 1) (done.bytes ++ behind) =
      (hostReads ops count behind).map (done.result :: ·) := by
  obtain ⟨low, high, field, length⟩ := length16_bytes16 shown.small
  have bytes : done.bytes ++ behind =
      done.status :: low :: high :: (done.delivered ++ behind) := by
    rw [Done.bytes, field, shown.full]
    simp
  rw [bytes, Obmf.hostReads]
  simp only [length, shown.size]
  rw [if_neg (by rw [length_append]; omega), drop_left, take_left]
  rfl

theorem hostReads_shown {dones : List Done} {first : List (Option Op)}
    (shown : List.Forall₂ Done.Shown dones first) (ops : List (Option Op)) (count : Nat)
    (behind : List UInt8) :
    hostReads (first ++ ops) (dones.length + count) (dones.flatMap Done.bytes ++ behind) =
      (hostReads ops count behind).map (dones.map Done.result ++ ·) := by
  induction shown with
  | nil =>
    simp only [length_nil, Nat.zero_add, flatMap_nil, map_nil, nil_append]
    exact Option.map_id'.symm
  | @cons done op dones first head _ ih =>
    have count' : (done :: dones).length + count = dones.length + count + 1 := by
      rw [length_cons]
      omega
    rw [count', flatMap_cons, append_assoc, cons_append, head.hostReads, ih,
      Option.map_map]
    rfl

theorem map_op_shown {dones : List Done} {first : List (Option Op)}
    (shown : List.Forall₂ Done.Shown dones first) : dones.map Done.op = first := by
  induction shown with
  | nil => rfl
  | cons head _ ih => rw [map_cons, head.same, ih]

theorem exists_shown {dones : List Done} {first : List (Option Op)} {done : Done}
    (shown : List.Forall₂ Done.Shown dones first) (listed : done ∈ dones) :
    ∃ op, done.Shown op := by
  induction shown with
  | nil => simp at listed
  | cons head _ ih =>
    rcases List.mem_cons.mp listed with rfl | later
    · exact ⟨_, head⟩
    · exact ih later

/-- The results account for the operations. -/
def Answers (ops : List (Option Op)) (ran : List (List Done)) : Prop :=
  Accounted ops ran ran.flatten.length (ran.flatten.flatMap Done.bytes)

theorem Answers.nil (ops : List (Option Op)) : Answers ops [] where
  own := by simp
  order := by simp
  stops := by simp
  parsed := by cases ops <;> rfl

theorem Answers.cons {dones : List Done} {first ops : List (Option Op)}
    {more : List (List Done)} (shown : List.Forall₂ Done.Shown dones first)
    (goesOn : more = [] ∨ ∀ done ∈ dones, done.status = i3cOpSuccess)
    (onward : Answers ops more) : Answers (first ++ ops) (dones :: more) where
  own ran listed := by
    rw [flatten_cons, mem_append] at listed
    rcases listed with now | later
    · obtain ⟨op, shownDone⟩ := exists_shown shown now
      exact shownDone.own
    · exact onward.own ran later
  order := by
    rw [flatten_cons, map_append, map_op_shown shown]
    exact (prefix_append_right_inj first).mpr onward.order
  stops transfer listed := by
    rcases goesOn with rfl | success
    · simp at listed
    · cases more with
      | nil => simp at listed
      | cons next rest =>
        rw [dropLast_cons_of_ne_nil (by simp), mem_cons] at listed
        rcases listed with rfl | later
        · exact success
        · exact onward.stops transfer later
  parsed := by
    rw [flatten_cons, length_append, flatMap_append, hostReads_shown shown,
      onward.parsed, map_append]
    rfl

theorem Answers.onward {dones : List Done} {first ops : List (Option Op)}
    {more : List (List Done)} (shown : List.Forall₂ Done.Shown dones first)
    (answers : Answers (first ++ ops) (dones :: more)) : Answers ops more where
  own ran listed := answers.own ran (by simp [listed])
  order := by
    have order := answers.order
    rw [flatten_cons, map_append, map_op_shown shown] at order
    exact (prefix_append_right_inj first).mp order
  stops transfer listed := by
    cases more with
    | nil => simp at listed
    | cons next rest => exact answers.stops transfer (by simp [listed])
  parsed := by
    have parsed := answers.parsed
    rw [flatten_cons, length_append, flatMap_append, hostReads_shown shown,
      map_append] at parsed
    obtain ⟨results, read, same⟩ := Option.map_eq_some_iff.mp parsed
    rw [read, append_cancel_left same]

theorem Op.Carried.inside {op : Op} {start : Nat} (carried : op.Carried start) :
    op.Inside start := by
  intro writes
  have enough := carried.1 writes
  rw [Op.own, length_take] at enough
  omega

/-- An operation that was carried is shown in full. -/
theorem Ran.shown {op : Op} {space start : Nat} {done : Done} (ran : Ran op space done)
    (carried : op.Carried start) (room : i3cMaxRspPayload - start ≤ space) :
    done.Shown (some op) where
  same := ran.same
  own written handed := by
    refine ⟨op, ran.same, ?_⟩
    rw [ran.written written handed, Op.sent]
    apply prefix_append_right_inj _ |>.mpr
    split
    · rename_i writes
      have enough := carried.1 writes
      rw [Op.own, length_take] at enough
      exact take_prefix_take_left (by omega)
    · exact nil_prefix
  size := by
    have short := ran.short
    by_cases success : done.status = i3cOpSuccess
    · by_cases writes : op.isWrite = true
      · rw [Op.readSize, if_neg (by simp [Op.reads_of_isWrite writes])] at short
        simp only [asksRead, any_some, writes, success]
        simp only [Bool.not_true, Bool.false_and, Bool.false_eq_true, if_false]
        omega
      · have reads := (carried.2 (by simpa using writes)).1
        simp only [asksRead, any_some, writes, success, beq_self_eq_true, Bool.not_false,
          Bool.and_self, if_true]
        exact ran.returned reads success
    · rw [ran.silent success]
      simp [success]
  full := by
    rw [ran.data]
    apply take_of_length_le
    have short := ran.short
    by_cases writes : op.isWrite = true
    · rw [Op.readSize, if_neg (by simp [Op.reads_of_isWrite writes])] at short
      omega
    · have fits := (carried.2 (by simpa using writes)).2
      have bound : op.readSize ≤ op.size := by
        unfold Op.readSize
        split <;> omega
      omega
  small := ran.small

theorem Done.shown_refused (status : UInt8) : (Done.refused none status).Shown none where
  same := rfl
  own := by simp [Done.refused]
  size := by simp [asksRead, Done.refused]
  full := rfl
  small := by simp [Done.refused]

/-! ## The run -/

theorem Ran.offset_le {op : Op} {space : Nat} {done : Done} (ran : Ran op space done) :
    done.data.length ≤ op.readSize ∧ done.data.length ≤ space := by
  have short := ran.short
  rw [ran.data, length_take]
  omega

theorem runTransfers_count {δ : Type} {bus : I3cBus δ} {list : List BusTransfer} {driver : δ}
    {offset : Nat} {outcome : List (List Done) × δ}
    (ran : runTransfers bus driver offset list = some outcome) :
    3 * outcome.1.flatten.length ≤ i3cMaxRspPayload - offset := by
  have width : i3cOpResultSize = 3 := rfl
  induction list generalizing driver offset outcome with
  | nil =>
    cases ran
    simp
  | cons transfer rest ih =>
    cases transfer with
    | single op =>
      simp only [runTransfers] at ran
      split at ran
      · cases ran
        simp
      obtain ⟨⟨done, moved⟩, -, ran⟩ := Option.bind_eq_some_iff.mp ran
      split at ran
      · obtain ⟨⟨more, moved'⟩, later, ran⟩ := Option.bind_eq_some_iff.mp ran
        cases ran
        have count : 3 * more.flatten.length ≤
          i3cMaxRspPayload - (offset + i3cOpResultSize + done.data.length) := ih later
        simp only [flatten_cons, length_append, length_cons, length_nil]
        omega
      · cases ran
        simp only [flatten_cons, flatten_nil, length_append, length_cons,
          length_nil]
        omega
    | pair write read =>
      simp only [runTransfers] at ran
      split at ran
      · cases ran
        simp
      obtain ⟨⟨wrote, got, moved⟩, -, ran⟩ := Option.bind_eq_some_iff.mp ran
      split at ran
      · obtain ⟨⟨more, moved'⟩, later, ran⟩ := Option.bind_eq_some_iff.mp ran
        cases ran
        have count : 3 * more.flatten.length ≤
          i3cMaxRspPayload - (offset + 2 * i3cOpResultSize + got.data.length) := ih later
        simp only [flatten_cons, length_append, length_cons, length_nil]
        omega
      · cases ran
        simp only [flatten_cons, flatten_nil, length_append, length_cons,
          length_nil]
        omega

/-- Operations that fit make a run good: what a run of transfers from an offset on shows follows
from what each of its transfers does. -/
structure Supplies (fits : Op → Nat → Prop)
    (good : Nat → List (Option Op) → List (List Done) → Prop) : Prop where
  inside : ∀ {op start}, fits op start → op.Inside start
  nil : ∀ offset ops, good offset ops []
  unknown : ∀ {offset ops}, offset + i3cOpResultSize ≤ i3cMaxRspPayload →
    good offset (none :: ops) [[.refused none i3cOpBusErr]]
  single : ∀ {op offset start done ops more}, offset + i3cOpResultSize ≤ start →
    offset + i3cOpResultSize ≤ i3cMaxRspPayload → fits op start →
      Ran op (i3cMaxRspPayload - (offset + i3cOpResultSize)) done →
        (more = [] ∨ done.status = i3cOpSuccess) →
          good (offset + i3cOpResultSize + done.data.length) ops more →
            good offset (some op :: ops) ([done] :: more)
  pair : ∀ {write read offset start wrote got ops more}, BusTransfer.Paired (.pair write read) →
    offset + 2 * i3cOpResultSize ≤ start →
    offset + 2 * i3cOpResultSize ≤ i3cMaxRspPayload → fits write start → fits read start →
      Ran write (i3cMaxRspPayload - (offset + 2 * i3cOpResultSize)) wrote →
        Ran read (i3cMaxRspPayload - (offset + 2 * i3cOpResultSize)) got →
          wrote.status = got.status → (more = [] ∨ got.status = i3cOpSuccess) →
            good (offset + 2 * i3cOpResultSize + got.data.length) ops more →
              good offset (some write :: some read :: ops) ([wrote, got] :: more)

theorem Supplies.returns {fits : Op → Nat → Prop}
    {good : Nat → List (Option Op) → List (List Done) → Prop} (supplies : Supplies fits good)
    {δ : Type} {bus : I3cBus δ} {list : List BusTransfer}
    (paired : ∀ transfer ∈ list, transfer.Paired) {low high offset : Nat} (driver : δ)
    (walk : Walk fits list low high) (above : low ≤ offset) (below : offset ≤ high) :
    Returns (runTransfers bus driver offset list) fun outcome =>
      good offset (list.flatMap BusTransfer.ops) outcome.1 := by
  have bound : i3cMaxRspPayload = 250 := rfl
  have width : i3cOpResultSize = 3 := rfl
  induction list generalizing low high offset driver with
  | nil => exact .intro (supplies.nil offset [])
  | cons transfer rest ih =>
    have pairedRest := fun other listed => paired other (mem_cons_of_mem _ listed)
    cases transfer with
    | single op =>
      simp only [runTransfers]
      split
      · exact .intro (supplies.nil offset _)
      rename_i room
      cases op with
      | none => exact .intro (supplies.unknown (by omega))
      | some op =>
        have reached : low + i3cOpResultSize ≤ i3cMaxRspPayload := by omega
        obtain ⟨fit, onward⟩ := walk reached
        refine (execOp_ran driver _ _ (supplies.inside fit)).bind fun ⟨done, driver⟩ ran => ?_
        have shift : done.data.length ≤ op.readSize ∧
            done.data.length ≤ i3cMaxRspPayload - (offset + i3cOpResultSize) := ran.offset_le
        split
        · rename_i success
          have later := @ih pairedRest _ _ (offset + i3cOpResultSize + done.data.length)
            driver onward (by omega) (by omega)
          refine later.bind fun ⟨more, driver⟩ goodMore => .intro ?_
          exact supplies.single (by omega) (by omega) fit ran (.inr success) goodMore
        · refine .intro ?_
          exact supplies.single (by omega) (by omega) fit ran (.inl rfl) (supplies.nil _ _)
    | pair write read =>
      simp only [runTransfers]
      split
      · exact .intro (supplies.nil offset _)
      have reached : low + 2 * i3cOpResultSize ≤ i3cMaxRspPayload := by omega
      obtain ⟨fit, fitRead, onward⟩ := walk reached
      have merged := paired _ mem_cons_self
      refine (execPrivateSdrWr_ran merged driver _ _ (supplies.inside fit)).bind
        fun ⟨wrote, got, driver⟩ ⟨ran, ranRead, together⟩ => ?_
      have shift : got.data.length ≤ read.readSize ∧
          got.data.length ≤ i3cMaxRspPayload - (offset + 2 * i3cOpResultSize) := ranRead.offset_le
      split
      · rename_i success
        have later := @ih pairedRest _ _ (offset + 2 * i3cOpResultSize + got.data.length)
          driver onward (by omega) (by omega)
        refine later.bind fun ⟨more, driver⟩ goodMore => .intro ?_
        exact supplies.pair merged (by omega) (by omega) fit fitRead ran ranRead together
          (.inr success) goodMore
      · refine .intro ?_
        exact supplies.pair merged (by omega) (by omega) fit fitRead ran ranRead together
          (.inl rfl) (supplies.nil _ _)

theorem supplies_carried : Supplies Op.Carried fun _ => Answers where
  inside := Op.Carried.inside
  nil _ := Answers.nil
  unknown _ := .cons (.cons (Done.shown_refused _) .nil) (.inl rfl) (.nil _)
  single above _ carried ran goesOn accounted := by
    refine .cons (.cons (ran.shown carried (by omega)) .nil) ?_ accounted
    exact goesOn.imp_right fun success => by simpa using success
  pair _ above _ carried carriedRead ran ranRead together goesOn accounted := by
    refine .cons (.cons (ran.shown carried (by omega))
      (.cons (ranRead.shown carriedRead (by omega)) .nil)) ?_ accounted
    exact goesOn.imp_right fun success => by simp [together, success]

theorem Done.length_bytes (done : Done) :
    done.bytes.length = i3cOpResultSize + done.data.length := by
  rw [Done.bytes, length_append, length_cons]
  rfl

theorem supplies_inside : Supplies Op.Inside fun offset _ ran =>
    (ran.flatten.flatMap Done.bytes).length ≤ i3cMaxRspPayload - offset where
  inside := id
  nil _ _ := Nat.zero_le _
  unknown room := by
    have short : (Done.refused none i3cOpBusErr).bytes.length = i3cOpResultSize := rfl
    simp only [flatten_cons, flatten_nil, append_nil, flatMap_cons,
      flatMap_nil, short]
    omega
  single _ room _ ran _ few := by
    have shift := ran.offset_le.2
    simp only [flatten_cons, cons_append, nil_append, flatMap_cons,
      length_append, Done.length_bytes]
    omega
  pair merged _ room _ _ ran ranRead _ _ few := by
    have shift := ranRead.offset_le.2
    have silent := ran.offset_le.1
    rw [Op.readSize, if_neg (by simp [Op.reads_of_isWrite merged.2.1])] at silent
    simp only [flatten_cons, cons_append, nil_append, flatMap_cons,
      length_append, Done.length_bytes]
    omega

/-! ## A scripted bus -/

def scriptedBytes (script : List Nat) (asked : Nat) : Received asked where
  bytes := List.replicate (min (script.headD 0) asked) 0
  within := by
    rw [length_replicate]
    omega

/-- A bus on which everything succeeds, and each read returns as many bytes as the script says. -/
def scriptedBus : I3cBus (List Nat) where
  lock script := (true, script)
  known _ _ := true
  cccWrite script _ _ _ := (.ok (Fin.last _), script)
  cccRead script _ _ asked := (.ok (scriptedBytes script asked), script.tail)
  privWrite script _ _ := (.ok (Fin.last _), script)
  privRead script _ asked := (.ok (scriptedBytes script asked), script.tail)
  privWriteRead script _ _ asked :=
    (.ok (Fin.last _, scriptedBytes script asked), script.tail)

theorem execOp_scripted_alone {op : Op} (alone : op.reads = false) (script : List Nat)
    (space : Nat) :
    execOp scriptedBus script (some op) space =
      (if op.isWrite then op.writeData else some []).map fun data =>
        (Done.wrote op (op.lead ++ data) (.ok (Fin.last _)), script) := by
  cases kind : op.kind with
  | ccc id =>
    have writes : op.isWrite = true := by simpa [Op.reads, kind] using alone
    have lead : op.lead = [] := by simp [Op.lead, kind]
    rw [lead]
    simp only [execOp, kind, execCcc, writes, if_true, scriptedBus]
    cases op.writeData <;> rfl
  | cccWDb id definingByte =>
    have lead : op.lead = [definingByte] := by simp [Op.lead, kind]
    rw [lead]
    simp only [execOp, kind, execCccWDb, scriptedBus, if_true]
    cases (if op.isWrite then op.writeData else some []) <;> rfl
  | privateSdr =>
    have writes : op.isWrite = true := by simpa [Op.reads, kind] using alone
    have lead : op.lead = [] := by simp [Op.lead, kind]
    rw [lead]
    simp only [execOp, kind, execPrivateSdr, writes, if_true, scriptedBus, Bool.true_eq_false,
      if_false]
    cases op.writeData <;> rfl

theorem execOp_scripted_reads {op : Op} (reads : op.reads = true) (script : List Nat)
    (space : Nat) :
    execOp scriptedBus script (some op) space =
      some (.read op space (.ok (scriptedBytes script op.size)), script.tail) := by
  cases kind : op.kind with
  | ccc id =>
    have readsOnly : op.isWrite = false := by simpa [Op.reads, kind] using reads
    simp [execOp, kind, execCcc, readsOnly, scriptedBus]
  | cccWDb id definingByte => simp [Op.reads, kind] at reads
  | privateSdr =>
    have readsOnly : op.isWrite = false := by simpa [Op.reads, kind] using reads
    simp [execOp, kind, execPrivateSdr, readsOnly, scriptedBus]

theorem execPrivateSdrWr_scripted (write read : Op) (script : List Nat) (space : Nat) :
    execPrivateSdrWr scriptedBus script write read space = write.writeData.map fun data =>
      (Done.wrote write data (.ok (Fin.last _)),
        Done.read read space (.ok (scriptedBytes script read.size)), script.tail) := by
  simp only [execPrivateSdrWr, scriptedBus]
  cases write.writeData <;> rfl

/-- The script for an operation that returns `count` bytes of data, if it returns data. -/
def Op.script (op : Op) (count : Nat) (later : List Nat) : List Nat :=
  if op.reads then count :: later else later

theorem execOp_script {op : Op} {start count space : Nat} (inside : op.Inside start)
    (within : count ≤ op.readSize) (room : count ≤ space) (later : List Nat) :
    ∃ done, execOp scriptedBus (op.script count later) (some op) space = some (done, later) ∧
      done.status = i3cOpSuccess ∧ done.data.length = count := by
  cases reads : op.reads with
  | true =>
    rw [execOp_scripted_reads reads, Op.script, if_pos reads]
    refine ⟨_, rfl, rfl, ?_⟩
    rw [Op.readSize, if_pos reads] at within
    simp only [Done.read, scriptedBytes, headD_cons, length_take,
      length_replicate]
    omega
  | false =>
    rw [execOp_scripted_alone reads, Op.script, if_neg (by simp [reads])]
    rw [Op.readSize, if_neg (by simp [reads])] at within
    have data : ∃ data, (if op.isWrite then op.writeData else some []) = some data := by
      split
      · rename_i writes
        exact ⟨_, Op.writeData_eq (inside writes)⟩
      · exact ⟨_, rfl⟩
    obtain ⟨data, read⟩ := data
    rw [read]
    refine ⟨_, rfl, rfl, ?_⟩
    simp only [Done.wrote, length_nil]
    omega

theorem execPrivateSdrWr_script {write read : Op} {start count space : Nat}
    (paired : BusTransfer.Paired (.pair write read)) (inside : write.Inside start)
    (within : count ≤ read.readSize) (room : count ≤ space) (later : List Nat) :
    ∃ wrote got, execPrivateSdrWr scriptedBus (count :: later) write read space =
        some (wrote, got, later) ∧ got.status = i3cOpSuccess ∧ got.data.length = count := by
  obtain ⟨-, writes, readKind, readsOnly, -⟩ := paired
  have reads : read.reads = true := by simp [Op.reads, readKind, readsOnly]
  rw [execPrivateSdrWr_scripted, Op.writeData_eq (inside writes)]
  refine ⟨_, _, rfl, rfl, ?_⟩
  rw [Op.readSize, if_pos reads] at within
  simp only [Done.read, scriptedBytes, headD_cons, length_take, length_replicate]
  omega

/-! ## What every bus shows -/

/-- The runs on the scripted bus are good from every offset that can be reached. -/
def GoodFrom (good : List (Option Op) → List (List Done) → Prop) (list : List BusTransfer)
    (low high : Nat) : Prop :=
  ∀ offset script, low ≤ offset → offset ≤ high → offset ≤ i3cMaxRspPayload →
    Returns (runTransfers scriptedBus script offset list) fun outcome =>
      good (list.flatMap BusTransfer.ops) outcome.1

/-- Good runs show that the operations fit. -/
structure Demands (fits : Op → Nat → Prop) (good : List (Option Op) → List (List Done) → Prop) :
    Prop where
  inside : ∀ {op start}, fits op start → op.Inside start
  single : ∀ {op rest offset}, offset + i3cOpResultSize ≤ i3cMaxRspPayload →
    GoodFrom good (.single (some op) :: rest) offset offset → fits op (offset + i3cOpResultSize)
  pair : ∀ {write read rest offset}, BusTransfer.Paired (.pair write read) →
    offset + 2 * i3cOpResultSize ≤ i3cMaxRspPayload →
    GoodFrom good (.pair write read :: rest) offset offset →
      fits write (offset + 2 * i3cOpResultSize) ∧ fits read (offset + 2 * i3cOpResultSize)
  onward : ∀ {op start space done ops more}, fits op start → i3cMaxRspPayload - start ≤ space →
    Ran op space done → good (some op :: ops) ([done] :: more) → good ops more
  onwardPair : ∀ {write read start space wrote got ops more}, fits write start →
    fits read start → i3cMaxRspPayload - start ≤ space → Ran write space wrote →
    Ran read space got → good (some write :: some read :: ops) ([wrote, got] :: more) →
      good ops more

variable {fits : Op → Nat → Prop} {good : List (Option Op) → List (List Done) → Prop}

theorem GoodFrom.mono {list : List BusTransfer} {low high lower higher : Nat}
    (goodFrom : GoodFrom good list low high) (above : low ≤ lower) (below : higher ≤ high) :
    GoodFrom good list lower higher := by
  intro offset script atLeast atMost room
  exact goodFrom offset script (by omega) (by omega) room

theorem Demands.single_rest (demands : Demands fits good) {op : Op} {rest : List BusTransfer}
    {low high : Nat} (ordered : low ≤ high)
    (goodFrom : GoodFrom good (.single (some op) :: rest) low high)
    (reached : low + i3cOpResultSize ≤ i3cMaxRspPayload)
    (fit : fits op (min high 247 + i3cOpResultSize)) :
    GoodFrom good rest (low + i3cOpResultSize)
      (min high 247 + i3cOpResultSize + op.readSize) := by
  have bound : i3cMaxRspPayload = 250 := rfl
  have width : i3cOpResultSize = 3 := rfl
  intro offset script atLeast atMost room
  have start : ∃ earlier count, low ≤ earlier ∧ earlier ≤ min high 247 ∧ count ≤ op.readSize ∧
      earlier + i3cOpResultSize + count = offset :=
    ⟨min (min high 247) (offset - 3), offset - 3 - min (min high 247) (offset - 3), by omega,
      by omega, by omega, by omega⟩
  obtain ⟨earlier, count, above, below, within, rfl⟩ := start
  have returned := goodFrom earlier (op.script count script) above (by omega) (by omega)
  have space : count ≤ i3cMaxRspPayload - (earlier + i3cOpResultSize) := by omega
  obtain ⟨done, ran, success, length⟩ := execOp_script (demands.inside fit) within space script
  have specified := @execOp_ran _ scriptedBus _ (op.script count script)
    (i3cMaxRspPayload - (earlier + i3cOpResultSize)) _ (demands.inside fit)
  rw [ran] at specified
  have spec := specified.of_some
  simp only [runTransfers, if_neg (show ¬ i3cMaxRspPayload < earlier + i3cOpResultSize by omega),
    ran, bind_eq_bind, bind_some, success, if_true, length] at returned
  obtain ⟨⟨more, left⟩, moved, result⟩ := returned.of_bind
  exact ⟨_, moved, demands.onward fit (by omega) spec result.of_some⟩

theorem Demands.pair_rest (demands : Demands fits good) {write read : Op}
    {rest : List BusTransfer} {low high : Nat} (ordered : low ≤ high)
    (paired : BusTransfer.Paired (.pair write read))
    (goodFrom : GoodFrom good (.pair write read :: rest) low high)
    (reached : low + 2 * i3cOpResultSize ≤ i3cMaxRspPayload)
    (fit : fits write (min high 244 + 2 * i3cOpResultSize))
    (fitRead : fits read (min high 244 + 2 * i3cOpResultSize)) :
    GoodFrom good rest (low + 2 * i3cOpResultSize)
      (min high 244 + 2 * i3cOpResultSize + read.readSize) := by
  have bound : i3cMaxRspPayload = 250 := rfl
  have width : i3cOpResultSize = 3 := rfl
  intro offset script atLeast atMost room
  have start : ∃ earlier count, low ≤ earlier ∧ earlier ≤ min high 244 ∧ count ≤ read.readSize ∧
      earlier + 2 * i3cOpResultSize + count = offset :=
    ⟨min (min high 244) (offset - 6), offset - 6 - min (min high 244) (offset - 6), by omega,
      by omega, by omega, by omega⟩
  obtain ⟨earlier, count, above, below, within, rfl⟩ := start
  have returned := goodFrom earlier (count :: script) above (by omega) (by omega)
  have space : count ≤ i3cMaxRspPayload - (earlier + 2 * i3cOpResultSize) := by omega
  obtain ⟨wrote, got, ran, success, length⟩ :=
    execPrivateSdrWr_script paired (demands.inside fit) within space script
  have specified := @execPrivateSdrWr_ran _ scriptedBus _ _ paired (count :: script)
    (i3cMaxRspPayload - (earlier + 2 * i3cOpResultSize)) _ (demands.inside fit)
  rw [ran] at specified
  obtain ⟨spec, specRead, -⟩ := specified.of_some
  simp only [runTransfers,
    if_neg (show ¬ i3cMaxRspPayload < earlier + 2 * i3cOpResultSize by omega),
    ran, bind_eq_bind, bind_some, success, if_true, length] at returned
  obtain ⟨⟨more, left⟩, moved, result⟩ := returned.of_bind
  exact ⟨_, moved, demands.onwardPair fit fitRead (by omega) spec specRead result.of_some⟩

theorem Demands.walk (demands : Demands fits good) {list : List BusTransfer}
    (paired : ∀ transfer ∈ list, transfer.Paired) {low high : Nat} (ordered : low ≤ high)
    (goodFrom : GoodFrom good list low high) : Walk fits list low high := by
  have bound : i3cMaxRspPayload = 250 := rfl
  have width : i3cOpResultSize = 3 := rfl
  induction list generalizing low high with
  | nil => trivial
  | cons transfer rest ih =>
    have pairedRest := fun other listed => paired other (mem_cons_of_mem _ listed)
    cases transfer with
    | single op =>
      cases op with
      | none => trivial
      | some op =>
        intro reached
        have topmost : GoodFrom good _ (min high 247) (min high 247) :=
          goodFrom.mono (by omega) (by omega)
        have fit := demands.single (by omega) topmost
        exact ⟨fit, ih pairedRest (by omega) (demands.single_rest ordered goodFrom reached fit)⟩
    | pair write read =>
      intro reached
      have paired := paired _ mem_cons_self
      have topmost : GoodFrom good _ (min high 244) (min high 244) :=
        goodFrom.mono (by omega) (by omega)
      obtain ⟨fit, fitRead⟩ := demands.pair paired (by omega) topmost
      exact ⟨fit, fitRead, ih pairedRest (by omega)
        (demands.pair_rest ordered paired goodFrom reached fit fitRead)⟩

/-! ## When the host reads what the bus gave -/

theorem runTransfers_full {δ : Type} {bus : I3cBus δ} {driver : δ} {offset : Nat}
    (full : i3cMaxRspPayload < offset + i3cOpResultSize) (list : List BusTransfer) :
    runTransfers bus driver offset list = some ([], driver) := by
  cases list with
  | nil => rfl
  | cons transfer rest =>
    cases transfer with
    | single op => rw [runTransfers, if_pos full]
    | pair write read =>
      have fuller : i3cMaxRspPayload < offset + 2 * i3cOpResultSize := by omega
      rw [runTransfers, if_pos fuller]

theorem taken_of_hostReads {op : Option Op} {ops : List (Option Op)} {count : Nat} {done : Done}
    {behind : List UInt8} {results : List HostResult} (small : done.actual ≤ i3cMaxDataSize + 1)
    (parsed : hostReads (op :: ops) (count + 1) (done.bytes ++ behind) =
      some (done.result :: results))
    (expects : asksRead op = true) (success : done.status = i3cOpSuccess) :
    done.actual ≤ (done.data ++ behind).length ∧
      (done.data ++ behind).take done.actual = done.delivered := by
  obtain ⟨low, high, field, length⟩ := length16_bytes16 small
  have bytes : done.bytes ++ behind = done.status :: low :: high :: (done.data ++ behind) := by
    rw [Done.bytes, field]
    simp
  rw [bytes, hostReads] at parsed
  simp only [length, expects, success, beq_self_eq_true, Bool.and_self, if_true] at parsed
  split at parsed
  · cases parsed
  · obtain ⟨later, -, same⟩ := Option.map_eq_some_iff.mp parsed
    have data := congrArg HostResult.data (List.cons.inj same).1
    exact ⟨by omega, data⟩

theorem Op.carried_of_own {op : Op} {data : List UInt8} (read : op.writeData = some data)
    (own : op.lead ++ data <+: op.lead ++ op.own) : op.size ≤ op.own.length := by
  have inside := le_of_rangeAt read
  have same := @Op.writeData_eq op (by omega)
  obtain rfl : data = op.tail.take op.size := Option.some.inj (read.symm.trans same)
  have short := ((prefix_append_right_inj _).mp own).length_le
  rw [length_take] at short
  omega

theorem own_of_answers {op : Op} {ops : List (Option Op)} {data : List UInt8}
    {dones : List Done} {more : List (List Done)} (read : op.writeData = some data)
    (answers : Answers ops (dones :: more))
    (listed : Done.wrote op (op.lead ++ data) (.ok (Fin.last _)) ∈ dones) :
    op.size ≤ op.own.length := by
  have present : Done.wrote op (op.lead ++ data) (.ok (Fin.last _)) ∈ (dones :: more).flatten := by
    simp [listed]
  obtain ⟨same, listedOp, drawn⟩ := answers.own _ present (op.lead ++ data) rfl
  obtain rfl : op = same := Option.some.inj listedOp
  exact op.carried_of_own read drawn

def fullRead (op : Op) (space : Nat) : Done :=
  .read op space (.ok (scriptedBytes [op.size] op.size))

theorem fullRead_lengths (op : Op) (space : Nat) :
    (fullRead op space).actual = op.size ∧
      (fullRead op space).delivered.length = op.size ∧
        (fullRead op space).data.length = min space op.size := by
  simp [fullRead, Done.read, scriptedBytes]

theorem room_of_hostReads {op : Op} {ops : List (Option Op)} {offset count : Nat}
    {behind : List UInt8} {results : List HostResult} (readsOnly : op.isWrite = false)
    (parsed : hostReads (some op :: ops) (count + 1)
      ((fullRead op (i3cMaxRspPayload - offset)).bytes ++ behind) =
        some ((fullRead op (i3cMaxRspPayload - offset)).result :: results))
    (last : i3cMaxRspPayload ≤ offset + op.size → behind = [])
    (within : offset ≤ i3cMaxRspPayload) :
    offset + op.size ≤ i3cMaxRspPayload := by
  have small : op.size ≤ i3cMaxDataSize := Nat.min_le_right _ _
  obtain ⟨actual, -, length⟩ := fullRead_lengths op (i3cMaxRspPayload - offset)
  have enough := (taken_of_hostReads (by omega) parsed (by simp [asksRead, readsOnly]) rfl).1
  by_contra beyond
  rw [last (by omega), append_nil] at enough
  omega

theorem unread_of_wrote {op : Op} {ops : List (Option Op)} {data : List UInt8} {count : Nat}
    {behind : List UInt8} {results : List HostResult} (readsOnly : op.isWrite = false)
    (some' : 0 < data.length) (small : data.length ≤ i3cMaxDataSize + 1)
    (parsed : hostReads (some op :: ops) (count + 1)
      ((Done.wrote op data (.ok (Fin.last _))).bytes ++ behind) =
        some ((Done.wrote op data (.ok (Fin.last _))).result :: results)) : False := by
  have actual : (Done.wrote op data (.ok (Fin.last _))).actual = data.length := rfl
  obtain ⟨enough, taken⟩ := taken_of_hostReads (by omega) parsed (by simp [asksRead, readsOnly]) rfl
  have length := congrArg List.length taken
  simp only [Done.wrote, nil_append, length_take, length_nil] at length enough
  simp only [Fin.val_last] at length enough
  omega

theorem inside_of_goodFrom {op : Op} {rest : List BusTransfer} {offset : Nat}
    (fits : offset + i3cOpResultSize ≤ i3cMaxRspPayload)
    (goodFrom : GoodFrom (fun _ _ => True) (.single (some op) :: rest) offset offset) :
    op.Inside (offset + i3cOpResultSize) := by
  intro writes
  have room : ¬ i3cMaxRspPayload < offset + i3cOpResultSize := by omega
  have returned := goodFrom offset [] le_rfl le_rfl (by omega)
  simp only [runTransfers, if_neg room, execOp_scripted_alone (Op.reads_of_isWrite writes),
    if_pos writes] at returned
  obtain ⟨outcome, ran, -⟩ := returned.of_bind
  obtain ⟨data, read, -⟩ := Option.map_eq_some_iff.mp ran
  have inside := le_of_rangeAt read
  omega

theorem inside_of_goodFrom_pair {write read : Op} {rest : List BusTransfer} {offset : Nat}
    (paired : BusTransfer.Paired (.pair write read))
    (fits : offset + 2 * i3cOpResultSize ≤ i3cMaxRspPayload)
    (goodFrom : GoodFrom (fun _ _ => True) (.pair write read :: rest) offset offset) :
    write.Inside (offset + 2 * i3cOpResultSize) ∧ read.Inside (offset + 2 * i3cOpResultSize) := by
  obtain ⟨-, -, -, readsOnly, -⟩ := paired
  refine ⟨fun _ => ?_, fun writes => absurd (readsOnly.symm.trans writes) (by simp)⟩
  have room : ¬ i3cMaxRspPayload < offset + 2 * i3cOpResultSize := by omega
  have returned := goodFrom offset [] le_rfl le_rfl (by omega)
  simp only [runTransfers, if_neg room, execPrivateSdrWr_scripted] at returned
  obtain ⟨outcome, ran, -⟩ := returned.of_bind
  obtain ⟨data, drawn, -⟩ := Option.map_eq_some_iff.mp ran
  have inside := le_of_rangeAt drawn
  omega

theorem demands_inside : Demands Op.Inside fun _ _ => True where
  inside := id
  single := inside_of_goodFrom
  pair := inside_of_goodFrom_pair
  onward _ _ _ _ := trivial
  onwardPair _ _ _ _ _ _ := trivial

/-- A response that accounts for every run shows that an operation is carried. -/
theorem carried_of_goodFrom {op : Op} {rest : List BusTransfer} {offset : Nat}
    (fits : offset + i3cOpResultSize ≤ i3cMaxRspPayload)
    (goodFrom : GoodFrom Answers (.single (some op) :: rest) offset offset) :
    op.Carried (offset + i3cOpResultSize) := by
  have width : i3cOpResultSize = 3 := rfl
  have returned := goodFrom offset [op.size] le_rfl le_rfl (by omega)
  have room : ¬ i3cMaxRspPayload < offset + i3cOpResultSize := by omega
  simp only [runTransfers, if_neg room, flatMap_cons, BusTransfer.ops] at returned
  cases reads : op.reads with
  | true =>
    have readsOnly : op.isWrite = false := by
      by_contra writes
      simp [Op.reads_of_isWrite (by simpa using writes)] at reads
    refine ⟨fun writes => absurd (readsOnly.symm.trans writes) (by simp), fun _ => ⟨reads, ?_⟩⟩
    rw [execOp_scripted_reads reads] at returned
    change Returns (do
      let (more, driver) ← runTransfers scriptedBus [] (offset + i3cOpResultSize +
        (fullRead op (i3cMaxRspPayload - (offset + i3cOpResultSize))).data.length) rest
      some ([fullRead op (i3cMaxRspPayload - (offset + i3cOpResultSize))] :: more, driver)) _
      at returned
    obtain ⟨⟨more, left⟩, moved, returned⟩ := returned.of_bind
    have parsed := returned.of_some.parsed
    refine room_of_hostReads readsOnly parsed ?_ fits
    intro beyond
    have length := (fullRead_lengths op (i3cMaxRspPayload - (offset + i3cOpResultSize))).2.2
    rw [runTransfers_full (by omega)] at moved
    obtain ⟨rfl, -⟩ := Prod.mk.inj (Option.some.inj moved)
    rfl
  | false =>
    rw [execOp_scripted_alone reads] at returned
    obtain ⟨⟨done, left⟩, ran, returned⟩ := returned.of_bind
    obtain ⟨data, read, same⟩ := Option.map_eq_some_iff.mp ran
    cases same
    obtain ⟨⟨more, left⟩, -, returned⟩ := returned.of_bind
    have answers : Answers _ _ := returned.of_some
    constructor
    · intro writes
      rw [if_pos writes] at read
      exact own_of_answers read answers (mem_singleton_self _)
    · intro readsOnly
      obtain rfl : [] = data := by simpa [readsOnly] using read
      have length : op.lead.length = 1 := by
        cases kind : op.kind with
        | ccc id => simp [Op.reads, kind, readsOnly] at reads
        | cccWDb id definingByte => simp [Op.lead, kind]
        | privateSdr => simp [Op.reads, kind, readsOnly] at reads
      have parsed := answers.parsed
      refine (unread_of_wrote readsOnly ?_ ?_ parsed).elim
      · rw [length_append]
        omega
      · rw [append_nil]
        omega

/-- A response that accounts for every run shows that two merged operations are carried. -/
theorem carried_of_goodFrom_pair {write read : Op} {rest : List BusTransfer} {offset : Nat}
    (paired : BusTransfer.Paired (.pair write read))
    (fits : offset + 2 * i3cOpResultSize ≤ i3cMaxRspPayload)
    (goodFrom : GoodFrom Answers (.pair write read :: rest) offset offset) :
    write.Carried (offset + 2 * i3cOpResultSize) ∧
      read.Carried (offset + 2 * i3cOpResultSize) := by
  have width : i3cOpResultSize = 3 := rfl
  have returned := goodFrom offset [read.size] le_rfl le_rfl (by omega)
  have room : ¬ i3cMaxRspPayload < offset + 2 * i3cOpResultSize := by omega
  obtain ⟨writeKind, writes, readKind, readsOnly, -⟩ := id paired
  have reads : read.reads = true := by simp [Op.reads, readKind, readsOnly]
  have lead : write.lead = [] := by simp [Op.lead, writeKind]
  simp only [runTransfers, if_neg room, flatMap_cons, BusTransfer.ops,
    execPrivateSdrWr_scripted] at returned
  obtain ⟨⟨wrote, got, left⟩, ran, returned⟩ := returned.of_bind
  obtain ⟨data, drawn, same⟩ := Option.map_eq_some_iff.mp ran
  obtain ⟨rfl, others⟩ := Prod.mk.inj same
  cases others
  change Returns (do
    let (more, driver) ← runTransfers scriptedBus [] (offset + 2 * i3cOpResultSize +
      (fullRead read (i3cMaxRspPayload - (offset + 2 * i3cOpResultSize))).data.length) rest
    some ([Done.wrote write data (.ok (Fin.last _)),
      fullRead read (i3cMaxRspPayload - (offset + 2 * i3cOpResultSize))] :: more, driver)) _
    at returned
  obtain ⟨⟨more, left⟩, moved, returned⟩ := returned.of_bind
  have answers : Answers _ _ := returned.of_some
  have enough : write.size ≤ write.own.length := by
    apply own_of_answers drawn answers
    rw [lead]
    exact mem_cons_self
  have carried : write.Carried (offset + 2 * i3cOpResultSize) :=
    ⟨fun _ => enough, fun readsOnly => absurd (readsOnly.symm.trans writes) (by simp)⟩
  refine ⟨carried, fun writes => absurd (readsOnly.symm.trans writes) (by simp),
    fun _ => ⟨reads, ?_⟩⟩
  have specified := @execPrivateSdrWr_ran _ scriptedBus _ _ paired [read.size]
    (i3cMaxRspPayload - (offset + 2 * i3cOpResultSize)) _ carried.inside
  rw [execPrivateSdrWr_scripted, drawn] at specified
  have shown := specified.of_some.1.shown carried le_rfl
  have parsed := answers.parsed
  have counted : ∀ more : List (List Done), (([Done.wrote write data (.ok (Fin.last _)),
      fullRead read (i3cMaxRspPayload - (offset + 2 * i3cOpResultSize))] :: more).flatten).length =
        more.flatten.length + 1 + 1 := fun more => by simp
  rw [counted] at parsed
  simp only [flatten_cons, cons_append, nil_append,
    flatMap_cons, map_cons] at parsed
  rw [shown.hostReads] at parsed
  obtain ⟨results, parsed, same⟩ := Option.map_eq_some_iff.mp parsed
  rw [(List.cons.inj same).2] at parsed
  refine room_of_hostReads readsOnly parsed ?_ fits
  intro beyond
  have length := (fullRead_lengths read (i3cMaxRspPayload - (offset + 2 * i3cOpResultSize))).2.2
  rw [runTransfers_full (by omega)] at moved
  obtain ⟨rfl, -⟩ := Prod.mk.inj (Option.some.inj moved)
  rfl

theorem demands_carried : Demands Op.Carried Answers where
  inside := Op.Carried.inside
  single := carried_of_goodFrom
  pair := carried_of_goodFrom_pair
  onward carried room ran answers :=
    @Answers.onward _ [some _] _ _ (.cons (ran.shown carried room) .nil) answers
  onwardPair carried carriedRead room ran ranRead answers :=
    @Answers.onward _ [some _, some _] _ _
      (.cons (ran.shown carried room) (.cons (ranRead.shown carriedRead room) .nil)) answers

/-- The response accounts for the run: `result_count` in its second byte, the results behind. -/
def ResponseAccounts (ops : List (Option Op)) (ran : List (List Done)) (body : List UInt8) : Prop :=
  Accounted ops ran (body.getD 1 0).toNat (body.drop 2)

theorem responseAccounts_iff {δ : Type} {bus : I3cBus δ} {list : List BusTransfer}
    {driver driver' : δ} {ops : List (Option Op)} {ran : List (List Done)}
    (moved : runTransfers bus driver 0 list = some (ran, driver')) :
    ResponseAccounts ops ran
      (0 :: UInt8.ofNat ran.flatten.length :: ran.flatten.flatMap Done.bytes) ↔
        Answers ops ran := by
  have bound : i3cMaxRspPayload = 250 := rfl
  have count : 3 * ran.flatten.length ≤ i3cMaxRspPayload - 0 := runTransfers_count moved
  have whole : (UInt8.ofNat ran.flatten.length).toNat = ran.flatten.length := by
    rw [UInt8.toNat_ofNat', Nat.mod_eq_of_lt]
    omega
  simp only [ResponseAccounts, Answers, getD_cons_succ, getD_cons_zero, whole,
    drop_succ_cons, drop_zero]

/-- The response accounts for what happened on every bus if and only if the operations that can be
run have the data they write in their own descriptors, return the data they read, and have room
for it. -/
theorem handleExecuteSequence_accounts (numOps : UInt8) (opsData : List UInt8) :
    (∀ (δ : Type) (bus : I3cBus δ) (driver : δ),
      Returns (handleExecuteSequence bus driver numOps opsData) fun outcome =>
        ResponseAccounts (operations numOps.toNat opsData) outcome.1 outcome.2.1) ↔
      Walk Op.Carried (transfers numOps.toNat opsData) 0 0 := by
  constructor
  · intro accounts
    apply demands_carried.walk (paired_transfers _ _) le_rfl
    intro offset script _ atMost _
    obtain rfl : offset = 0 := by omega
    obtain ⟨⟨ran, driver⟩, moved, returned⟩ := (accounts _ scriptedBus script).of_bind
    refine ⟨_, moved, ?_⟩
    have answers := (responseAccounts_iff moved).mp returned.of_some
    rwa [← flatMap_transfers] at answers
  · intro walk δ bus driver
    have accounted : Returns (runTransfers bus driver 0 _) _ :=
      supplies_carried.returns (paired_transfers _ _) driver walk le_rfl le_rfl
    obtain ⟨⟨ran, driver⟩, moved, answers⟩ := accounted
    rw [flatMap_transfers] at answers
    rw [handleExecuteSequence, Option.mem_def.mp moved]
    exact .intro ((responseAccounts_iff moved).mpr answers)

def twoReads : List UInt8 :=
  [2, 1, 0, 0, 0, 0, 4, 0, 0x08, 0, 200, 0, 2, 1, 0, 0, 0, 0, 4, 0, 0x08, 0, 200, 0]

/-- The data of the second read is cut off, and the host finds fewer bytes than its result says. -/
theorem handleExecuteSequence_truncates :
    ¬ Returns (handleExecuteSequence scriptedBus [200, 200] 2 twoReads) fun outcome =>
      ResponseAccounts (operations 2 twoReads) outcome.1 outcome.2.1 := by
  intro returns
  obtain ⟨outcome, ran, accounts⟩ := returns
  have read : (handleExecuteSequence scriptedBus [200, 200] 2 twoReads).map (fun outcome =>
      hostReads (operations 2 twoReads) (outcome.2.1.getD 1 0).toNat (outcome.2.1.drop 2)) =
        some none := by
    decide +kernel
  rw [Option.mem_def.mp ran, map_some, accounts.parsed] at read
  cases read

end OpenBic.Obmf
