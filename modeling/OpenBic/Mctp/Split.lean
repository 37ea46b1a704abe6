import OpenBic.Mctp.RoundTrip

/-!
# What `mctp_tx_task` reports as sent

`Sent` says what the packets of a message must be, read off their bytes. The number of packets and
the size of a packet's data are `uint8_t`; `mctpTxTask_sends_iff` says for which message lengths
and packet sizes a report of success means that the whole message was sent.
-/

namespace OpenBic.Mctp

open List Library.Tiling

/-- The packets written are those of a message: they carry it in order, none more than the port
allows; the first alone has SOM and the last alone EOM; their sequence numbers count up, and they
have one message tag and tag owner. -/
structure Sent (maxMsgSize : Nat) (message : List UInt8) (written : List (List UInt8)) : Prop where
  whole : written.flatMap (List.drop hdrSize) = message
  sized : ∀ bytes ∈ written,
    hdrSize ≤ bytes.length ∧ (bytes.drop hdrSize).length ≤ maxMsgSize
  nonempty : written ≠ []
  som : ∀ i bytes, written[i]? = some bytes → ((readHdr bytes).som = true ↔ i = 0)
  eom : ∀ i bytes, written[i]? = some bytes →
    ((readHdr bytes).eom = true ↔ i + 1 = written.length)
  pktSeq : ∀ i bytes later, written[i]? = some bytes → written[i + 1]? = some later →
    (readHdr later).pktSeq = (readHdr bytes).pktSeq + 1
  common : ∃ key : Key, ∀ bytes ∈ written,
    ((readHdr bytes).msgTag, (readHdr bytes).tagOwner) = key

/-- The task comes to an end, and what it reports as sent was sent. -/
def Reports (port : TxPort) (extParams : ExtParams) (message : List UInt8)
    (writeData : Nat → UInt16) : Prop :=
  ∃ outcome, mctpTxTask port ⟨false, some message, extParams⟩ writeData = some outcome ∧
    (outcome.response = mctpSuccess → Sent port.maxMsgSize message outcome.written)

theorem txLoop_end {packet : Nat → List UInt8} {writeData : Nat → UInt16} {left i : Nat}
    (ended : (txLoop packet writeData left i).2 = i + left) :
    (txLoop packet writeData left i).1 = (List.range' i left).map packet ∧
      ∀ index, i ≤ index → index < i + left → writeData index = 0 := by
  induction left generalizing i with
  | zero => exact ⟨rfl, fun index least most => by omega⟩
  | succ left ih =>
    unfold txLoop at ended ⊢
    by_cases accepted : writeData i = 0
    · rw [if_pos accepted] at ended ⊢
      have onward : (txLoop packet writeData left (i + 1)).2 = i + 1 + left := by omega
      obtain ⟨written, all⟩ := ih onward
      refine ⟨by rw [written, range'_succ, map_cons], fun index least most => ?_⟩
      by_cases first : index = i
      · rw [first]
        exact accepted
      · exact all index (by omega) (by omega)
    · rw [if_neg accepted] at ended
      omega

theorem txLoop_end_of_accepted {packet : Nat → List UInt8} {writeData : Nat → UInt16}
    {left i : Nat} (accepted : ∀ index, i ≤ index → index < i + left → writeData index = 0) :
    (txLoop packet writeData left i).2 = i + left := by
  induction left generalizing i with
  | zero => rfl
  | succ left ih =>
    unfold txLoop
    rw [if_pos (accepted i (by omega) (by omega))]
    rw [ih fun index least most => accepted index (by omega) (by omega)]
    omega

section Reports

variable {port : TxPort} {extParams : ExtParams} {message : List UInt8}
  {writeData : Nat → UInt16}

/-- The packets of a message that is cut as it should be are those of the message. -/
theorem sent_of_sizes (nonempty : message ≠ [])
    (small : min message.length port.maxMsgSize ≤ 255)
    (few : message.length ≤ 255 * port.maxMsgSize) :
    Sent port.maxMsgSize message ((List.range (splitPktNum message.length port.maxMsgSize)).map
      (txPacket port extParams message)) := by
  have long : 0 < message.length := length_pos_of_ne_nil nonempty
  have positive : 0 < port.maxMsgSize := by omega
  have covers := splitPktNum_covers positive few
  have several : 0 < splitPktNum message.length port.maxMsgSize := by
    by_contra none
    rw [Nat.eq_zero_of_not_pos none] at covers
    omega
  have indexed : ∀ i bytes, ((List.range (splitPktNum message.length port.maxMsgSize)).map
      (txPacket port extParams message))[i]? = some bytes →
      i < splitPktNum message.length port.maxMsgSize ∧
        readHdr bytes = txHdr port extParams message.length i := by
    intro i bytes found
    rw [getElem?_map, Option.map_eq_some_iff] at found
    obtain ⟨index, inside, rfl⟩ := found
    obtain ⟨below, rfl⟩ := List.getElem?_eq_some_iff.mp inside
    rw [getElem_range]
    rw [length_range] at below
    exact ⟨below, readHdr_bytes _ _⟩
  constructor
  · rw [flatMap_map]
    calc
      _ = (List.range (splitPktNum message.length port.maxMsgSize)).flatMap
          (piece message port.maxMsgSize) :=
        flatMap_congr fun i inside =>
          cpMsgSize_piece positive small few (List.mem_range.mp inside)
      _ = message := flatMap_piece_all message covers
  · intro bytes member
    obtain ⟨i, inside, rfl⟩ := List.mem_map.mp member
    have length := @txPacket_length port extParams message i positive (List.mem_range.mp inside)
    have most : cpMsgSize message.length port.maxMsgSize i ≤ port.maxMsgSize :=
      cpMsgSize_le positive
    rw [length_drop]
    omega
  · intro none
    rw [map_eq_nil_iff, range_eq_nil] at none
    omega
  · intro i bytes found
    rw [(indexed i bytes found).2]
    simp [txHdr]
  · intro i bytes found
    rw [(indexed i bytes found).2]
    simp [txHdr]
  · intro i bytes later found next
    rw [(indexed i bytes found).2, (indexed (i + 1) later next).2]
    simp only [txHdr, Fin.ext_iff, Fin.val_add]
    omega
  · refine ⟨txKey port extParams, fun bytes member => ?_⟩
    obtain ⟨i, _, rfl⟩ := List.mem_map.mp member
    rw [txPacket, readHdr_bytes]
    rfl

theorem sizes_of_sent (positive : 0 < port.maxMsgSize)
    (sent : Sent port.maxMsgSize message
      ((List.range (splitPktNum message.length port.maxMsgSize)).map
        (txPacket port extParams message))) :
    min message.length port.maxMsgSize ≤ 255 ∧ message.length ≤ 255 * port.maxMsgSize := by
  apply sizes_of_carried positive
  · intro i _
    have most : cpMsgSize message.length port.maxMsgSize i < 2 ^ 8 := by
      unfold cpMsgSize
      dsimp only
      split
      · split
        · exact Nat.mod_lt _ (by decide)
        · exact Nat.mod_lt _ (by decide)
      · exact Nat.mod_lt _ (by decide)
    omega
  · have length := congrArg List.length sent.whole
    rw [flatMap_map, length_flatMap] at length
    refine Nat.le_of_eq (length.symm.trans (congrArg List.sum ?_))
    refine map_congr_left fun i inside => ?_
    have size := @txPacket_length port extParams message i positive (List.mem_range.mp inside)
    rw [length_drop]
    omega

/-- The task reports success exactly when every packet is accepted, and all are written then. -/
theorem mctpTxTask_reports (nonempty : message ≠ []) (positive : 0 < port.maxMsgSize) :
    ∃ outcome, mctpTxTask port ⟨false, some message, extParams⟩ writeData = some outcome ∧
      (outcome.response = mctpSuccess ↔
        ∀ i < splitPktNum message.length port.maxMsgSize, writeData i = 0) ∧
      (outcome.response = mctpSuccess →
        outcome.written = (List.range (splitPktNum message.length port.maxMsgSize)).map
          (txPacket port extParams message)) := by
  have long : message.length ≠ 0 := by simpa using nonempty
  have error : ¬ mctpError = mctpSuccess := by decide
  simp only [mctpTxTask, if_neg long, if_neg (Nat.pos_iff_ne_zero.mp positive),
    Bool.false_eq_true, if_false]
  refine ⟨_, rfl, ?_, ?_⟩
  · constructor
    · intro success i inside
      split at success
      · rename_i ended
        exact (txLoop_end (by rw [ended, Nat.zero_add])).2 i (Nat.zero_le i) (by omega)
      · exact absurd success error
    · intro accepted
      have ended : (txLoop (txPacket port extParams message) writeData
          (splitPktNum message.length port.maxMsgSize) 0).2 =
          0 + splitPktNum message.length port.maxMsgSize :=
        txLoop_end_of_accepted fun index _ most => accepted index (by omega)
      rw [Nat.zero_add] at ended
      exact if_pos ended
  · intro success
    split at success
    · rename_i ended
      rw [(txLoop_end (by rw [ended, Nat.zero_add])).1, range_eq_range']
    · exact absurd success error

/-- A report of success means that the whole message was sent exactly when the packets are at most
255 bytes of data and at most 255 in number, or one of the packets written is not accepted. -/
theorem mctpTxTask_sends_iff (port : TxPort) (extParams : ExtParams) (message : List UInt8)
    (writeData : Nat → UInt16) (nonempty : message ≠ []) :
    Reports port extParams message writeData ↔
      0 < port.maxMsgSize ∧
      (min message.length port.maxMsgSize ≤ 255 ∧ message.length ≤ 255 * port.maxMsgSize ∨
        ∃ i < (message.length / port.maxMsgSize +
          if message.length % port.maxMsgSize = 0 then 0 else 1) % 256, writeData i ≠ 0) := by
  by_cases none : port.maxMsgSize = 0
  · have long : message.length ≠ 0 := by simpa using nonempty
    have stuck : mctpTxTask port ⟨false, some message, extParams⟩ writeData = .none := by
      simp [mctpTxTask, long, none]
    constructor
    · rintro ⟨outcome, done, _⟩
      rw [stuck] at done
      cases done
    · rintro ⟨positive, _⟩
      omega
  have positive : 0 < port.maxMsgSize := Nat.pos_of_ne_zero none
  obtain ⟨outcome, done, succeeds, writes⟩ :=
    @mctpTxTask_reports port extParams message writeData nonempty positive
  constructor
  · rintro ⟨other, ended, reports⟩
    cases done.symm.trans ended
    refine ⟨positive, ?_⟩
    by_cases refused : ∃ i < splitPktNum message.length port.maxMsgSize, writeData i ≠ 0
    · exact .inr refused
    · have success := succeeds.mpr fun i inside =>
        not_not.mp fun failed => refused ⟨i, inside, failed⟩
      have sent := reports success
      rw [writes success] at sent
      exact .inl (sizes_of_sent positive sent)
  · rintro ⟨_, condition⟩
    refine ⟨outcome, done, fun success => ?_⟩
    rw [writes success]
    rcases condition with ⟨small, few⟩ | ⟨i, inside, failed⟩
    · exact sent_of_sizes nonempty small few
    · exact absurd (succeeds.mp success i inside) failed

/-- A message of 16320 bytes cut every 64 bytes is sent in 255 packets. -/
theorem mctpTxTask_sends_iff_16320 :
    Reports ⟨0x0A, 64, 0⟩ ⟨1, 0, 0x0A⟩ (List.replicate 16320 0x55) fun _ => 0 :=
  have size := length_replicate (n := 16320) (a := (0x55 : UInt8))
  (mctpTxTask_sends_iff ⟨0x0A, 64, 0⟩ ⟨1, 0, 0x0A⟩ (List.replicate 16320 0x55) (fun _ => 0)
    (ne_nil_of_length_pos (by rw [size]; decide))).mpr
    (by rw [size]; exact ⟨by decide, .inl (by decide)⟩)

end Reports

/-- A message of 16384 bytes cut every 64 bytes needs 256 packets; none is sent, and success is
reported. -/
theorem not_reports_16384 :
    ¬ ∀ (port : TxPort) (extParams : ExtParams) (message : List UInt8)
      (writeData : Nat → UInt16), message ≠ [] → message.length < 2 ^ 16 → 0 < port.maxMsgSize →
        Reports port extParams message writeData := by
  intro always
  have size := length_replicate (n := 16384) (a := (0x55 : UInt8))
  have nonempty := ne_nil_of_length_pos (l := List.replicate 16384 (0x55 : UInt8))
    (by rw [size]; decide)
  obtain ⟨outcome, done, reports⟩ := always ⟨0x0A, 64, 0⟩ ⟨1, 0, 0x0A⟩ _ (fun _ => 0) nonempty
    (by rw [size]; decide) (by decide)
  rw [mctpTxTask_all nonempty (by decide), size] at done
  cases done
  exact (reports rfl).nonempty (by decide)

end OpenBic.Mctp
