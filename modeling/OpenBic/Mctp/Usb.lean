import Mathlib.Data.List.Infix
import OpenBic.Library.Machine

/-!
# The USB stream

`mctp_usb_rx` puts what arrives into a ring buffer, whole or not at all, and `mctp_ringbuf_read`
takes frames out of it. A header whose length is out of range costs one byte; a header whose length
is in range is believed before its id is looked at. The ring buffer is a queue of bytes. The layout
of the header belongs to the USB stack and is a parameter.
-/

namespace OpenBic.Mctp.Usb

open List Option

open Library.Machine

/-- `struct mctp_usb_hdr` and the limits that come with it. -/
structure Layout where
  hdrSize : Nat
  btu : Nat
  len : List UInt8 → Nat
  /-- The id is `MCTP_USB_DMTF_ID`. -/
  isDmtf : List UInt8 → Bool
  hdrSize_pos : 0 < hdrSize
  small : btu <<< 4 < 2 ^ 16

namespace Layout

variable (layout : Layout)

/-- The size of `mctp_ringbuf`. -/
def capacity : Nat := layout.btu <<< 4

/-- `ring_buf_space_get`. -/
def space (ring : List UInt8) : Nat := layout.capacity - ring.length

def header (bytes : List UInt8) : List UInt8 := bytes.take layout.hdrSize

/-- The length in the header at the front is one that a frame can have. -/
def Likely (bytes : List UInt8) : Prop :=
  layout.hdrSize < layout.len (layout.header bytes) ∧
    layout.len (layout.header bytes) ≤ layout.btu

instance (bytes : List UInt8) : Decidable (layout.Likely bytes) :=
  inferInstanceAs (Decidable (_ ∧ _))

/-- `mctp_ringbuf_read`: the payload that is returned, if any, and what stays in the buffer. -/
def mctpRingbufRead (ring : List UInt8) : Option (List UInt8) × List UInt8 :=
  let rxLen := (layout.capacity - layout.space ring) % 2 ^ 16
  if rxLen < layout.hdrSize then (none, ring)
  else
    let len := layout.len (layout.header ring)
    if len ≤ layout.hdrSize ∨ layout.btu < len then (none, ring.drop 1)
    else if rxLen < len then (none, ring)
    else if layout.isDmtf (layout.header ring) then
      (some ((ring.take len).drop layout.hdrSize), ring.drop len)
    else (none, ring.drop len)

def mctpUsbRx (ring data : List UInt8) : List UInt8 :=
  if layout.space ring < data.length then ring else ring ++ data

/-- A frame that the receiver takes as one. -/
structure Frame where
  bytes : List UInt8
  likely : layout.Likely bytes
  dmtf : layout.isDmtf (layout.header bytes) = true
  whole : layout.len (layout.header bytes) = bytes.length

def Frame.payload {layout : Layout} (frame : layout.Frame) : List UInt8 :=
  frame.bytes.drop layout.hdrSize

/-- Nothing in the bytes looks like a frame. -/
def Clean (bytes : List UInt8) : Prop :=
  ∀ rest, rest <:+ bytes → layout.hdrSize ≤ rest.length → layout.Likely rest →
    layout.isDmtf (layout.header rest) = false

/-- A scan of the garbage in front of a frame comes to the frame: from byte to byte where the length
found there is out of range, by that length where it is in range. -/
inductive Scans (frame : List UInt8) : List UInt8 → Prop
  | there : Scans frame []
  | byte {first : UInt8} {garbage : List UInt8}
    (unlikely : ¬ layout.Likely (first :: garbage ++ frame)) (on : Scans frame garbage) :
    Scans frame (first :: garbage)
  | skip {garbage : List UInt8} (likely : layout.Likely (garbage ++ frame))
    (inside : layout.len (layout.header (garbage ++ frame)) ≤ garbage.length)
    (on : Scans frame (garbage.drop (layout.len (layout.header (garbage ++ frame))))) :
    Scans frame garbage

/-- The stream and what became of it. -/
structure State where
  /-- The content of `mctp_ringbuf`. -/
  ring : List UInt8
  accepted : List layout.Frame
  trailing : List UInt8
  returned : List (List UInt8)

/-- What happens to the stream. -/
inductive Event where
  | frame (frame : layout.Frame)
  | garbage (bytes : List UInt8)
  /-- `mctp_ringbuf_read` is called. -/
  | read

variable {layout}

def step (state : layout.State) : layout.Event → Option layout.State
  | .frame frame =>
    let ring := layout.mctpUsbRx state.ring frame.bytes
    if layout.space state.ring < frame.bytes.length then some { state with ring }
    else some { state with ring, accepted := state.accepted ++ [frame], trailing := [] }
  | .garbage bytes =>
    let ring := layout.mctpUsbRx state.ring bytes
    if layout.space state.ring < bytes.length then some { state with ring }
    else some { state with ring, trailing := state.trailing ++ bytes }
  | .read =>
    let (payload, ring) := layout.mctpRingbufRead state.ring
    some { state with ring, returned := state.returned ++ payload.toList }

def initial : layout.State := ⟨[], [], [], []⟩

/-- What is no frame does not look like one. -/
def Noise (state : layout.State) : layout.Event → Prop
  | .garbage bytes => layout.Clean (state.trailing ++ bytes)
  | _ => True

/-- A frame that is put into the buffer is what a scan of the garbage in front of it comes to. -/
def Reached (state : layout.State) : layout.Event → Prop
  | .frame frame =>
    frame.bytes.length ≤ layout.space state.ring → layout.Scans frame.bytes state.trailing
  | _ => True

/-- What was returned are the payloads of the accepted frames in order, and the remaining ones are
returned too when the buffer is read on. -/
def Delivers (state : layout.State) : Prop :=
  state.returned <+: state.accepted.map Frame.payload ∧
    ∀ count, state.ring.length ≤ count →
      ∃ final ∈ run step state (List.replicate count .read),
        final.returned = state.accepted.map Frame.payload

theorem header_append {bytes : List UInt8} (there : layout.hdrSize ≤ bytes.length)
    (more : List UInt8) : layout.header (bytes ++ more) = layout.header bytes :=
  take_append_of_le_length there

theorem likely_append {bytes : List UInt8} (there : layout.hdrSize ≤ bytes.length)
    (more : List UInt8) : layout.Likely (bytes ++ more) ↔ layout.Likely bytes := by
  unfold Likely
  rw [header_append there]

theorem Clean.suffix {bytes rest : List UInt8} (clean : layout.Clean bytes)
    (part : rest <:+ bytes) : layout.Clean rest :=
  fun last ends => clean last (ends.trans part)

theorem clean_nil : layout.Clean [] := by
  intro rest part there
  obtain rfl := List.suffix_nil.mp part
  exact absurd there (Nat.not_le_of_gt layout.hdrSize_pos)

theorem Frame.hdrSize_lt (frame : layout.Frame) : layout.hdrSize < frame.bytes.length := by
  have lower := frame.likely.1
  rw [frame.whole] at lower
  exact lower

theorem mctpRingbufRead_eq {ring : List UInt8} (fits : ring.length ≤ layout.capacity) :
    layout.mctpRingbufRead ring =
      if ring.length < layout.hdrSize then (none, ring)
      else if ¬ layout.Likely ring then (none, ring.drop 1)
      else if ring.length < layout.len (layout.header ring) then (none, ring)
      else if layout.isDmtf (layout.header ring) then
        (some ((ring.take (layout.len (layout.header ring))).drop layout.hdrSize),
          ring.drop (layout.len (layout.header ring)))
      else (none, ring.drop (layout.len (layout.header ring))) := by
  have small : layout.capacity < 2 ^ 16 := layout.small
  have length : (layout.capacity - layout.space ring) % 2 ^ 16 = ring.length := by
    unfold space
    rw [Nat.sub_sub_self fits]
    exact Nat.mod_eq_of_lt (Nat.lt_of_le_of_lt fits small)
  have range : layout.len (layout.header ring) ≤ layout.hdrSize ∨
      layout.btu < layout.len (layout.header ring) ↔ ¬ layout.Likely ring := by
    unfold Likely
    omega
  unfold mctpRingbufRead
  simp only [length, range]

theorem mctpRingbufRead_frame (frame : layout.Frame) {rest : List UInt8}
    (fits : (frame.bytes ++ rest).length ≤ layout.capacity) :
    layout.mctpRingbufRead (frame.bytes ++ rest) = (some frame.payload, rest) := by
  have there := Nat.le_of_lt frame.hdrSize_lt
  have length : (frame.bytes ++ rest).length = frame.bytes.length + rest.length :=
    length_append
  rw [mctpRingbufRead_eq fits, header_append there, frame.whole, if_neg (by omega),
    if_neg (not_not.mpr ((likely_append there rest).mpr frame.likely)), if_neg (by omega),
    if_pos frame.dmtf, take_left, drop_left]
  rfl

theorem mctpRingbufRead_byte {ring : List UInt8} (fits : ring.length ≤ layout.capacity)
    (there : layout.hdrSize ≤ ring.length) (unlikely : ¬ layout.Likely ring) :
    layout.mctpRingbufRead ring = (none, ring.drop 1) := by
  rw [mctpRingbufRead_eq fits, if_neg (Nat.not_lt.mpr there), if_pos unlikely]

theorem mctpRingbufRead_skip {ring : List UInt8} (fits : ring.length ≤ layout.capacity)
    (likely : layout.Likely ring)
    (arrived : layout.len (layout.header ring) ≤ ring.length)
    (other : layout.isDmtf (layout.header ring) = false) :
    layout.mctpRingbufRead ring = (none, ring.drop (layout.len (layout.header ring))) := by
  have lower := likely.1
  rw [mctpRingbufRead_eq fits, if_neg (by omega), if_neg (not_not.mpr likely),
    if_neg (by omega), if_neg (by rw [other]; exact Bool.false_ne_true)]

/-- What a buffer of frames with garbage in front of each of them holds. -/
def content (pending : List (List UInt8 × layout.Frame)) : List UInt8 :=
  pending.flatMap fun (garbage, frame) => garbage ++ frame.bytes

/-- Whatever arrives next, a scan of the old garbage that comes to a frame goes on as a scan of the
new garbage. -/
def Follows (layout : Layout) (old new : List UInt8) : Prop :=
  ∀ more frame, layout.Scans frame (old ++ more) → layout.Scans frame (new ++ more)

/-- The buffer holds the frames that were accepted and not returned, garbage in front of them that a
scan takes, and what a scan has left of the garbage behind them. -/
structure Parses (state : layout.State) (pending : List (List UInt8 × layout.Frame))
    (left : List UInt8) : Prop where
  fits : state.ring.length ≤ layout.capacity
  ring : state.ring = content pending ++ left
  frames : state.returned ++ pending.map (fun (_, frame) => frame.payload) =
    state.accepted.map Frame.payload
  clean : ∀ item ∈ pending, layout.Clean item.1
  scans : ∀ item ∈ pending, layout.Scans item.2.bytes item.1
  trailing : layout.Clean state.trailing
  part : left <:+ state.trailing
  follows : layout.Follows state.trailing left

theorem Scans.drop_one {frame bytes : List UInt8}
    (scans : layout.Scans frame bytes) (unlikely : ¬ layout.Likely (bytes ++ frame)) :
    layout.Scans frame (bytes.drop 1) := by
  cases scans with
  | there => exact .there
  | byte _ on => exact on
  | skip likely _ _ => exact absurd likely unlikely

theorem Scans.drop_len {frame bytes : List UInt8}
    (scans : layout.Scans frame bytes) (likely : layout.Likely (bytes ++ frame)) :
    layout.Scans frame (bytes.drop (layout.len (layout.header (bytes ++ frame)))) := by
  cases scans with
  | there =>
    rw [drop_nil]
    exact .there
  | byte unlikely _ => exact absurd likely unlikely
  | skip _ _ on => exact on

theorem Follows.drop_one {left : List UInt8} (there : layout.hdrSize ≤ left.length)
    (unlikely : ¬ layout.Likely left) : layout.Follows left (left.drop 1) := by
  intro more frame scans
  cases left with
  | nil => exact scans
  | cons first rest =>
    apply scans.drop_one
    rw [append_assoc, likely_append there]
    exact unlikely

theorem Follows.drop_len {left : List UInt8} (likely : layout.Likely left)
    (arrived : layout.len (layout.header left) ≤ left.length) :
    layout.Follows left (left.drop (layout.len (layout.header left))) := by
  intro more frame scans
  have there : layout.hdrSize ≤ left.length := Nat.le_of_lt (Nat.lt_of_lt_of_le likely.1 arrived)
  have same : layout.header (left ++ more ++ frame) = layout.header left := by
    rw [append_assoc, header_append there]
  have onward := scans.drop_len (by
    rw [append_assoc, likely_append there]
    exact likely)
  rw [same, drop_append_of_le_length arrived] at onward
  exact onward

theorem Follows.trans {old middle new : List UInt8} (first : layout.Follows old middle)
    (second : layout.Follows middle new) : layout.Follows old new :=
  fun more frame scans => second more frame (first more frame scans)

theorem read_left {left : List UInt8} (fits : left.length ≤ layout.capacity)
    (clean : layout.Clean left) :
    ∃ rest, layout.mctpRingbufRead left = (none, rest) ∧ rest <:+ left ∧
      layout.Follows left rest := by
  by_cases there : left.length < layout.hdrSize
  · refine ⟨left, ?_, suffix_rfl, fun _ _ => id⟩
    rw [mctpRingbufRead_eq fits, if_pos there]
  · have there : layout.hdrSize ≤ left.length := Nat.le_of_not_lt there
    by_cases likely : layout.Likely left
    · by_cases waits : left.length < layout.len (layout.header left)
      · refine ⟨left, ?_, suffix_rfl, fun _ _ => id⟩
        rw [mctpRingbufRead_eq fits, if_neg (Nat.not_lt.mpr there),
          if_neg (not_not.mpr likely), if_pos waits]
      · have arrived := Nat.le_of_not_lt waits
        have other := clean left suffix_rfl there likely
        exact ⟨_, mctpRingbufRead_skip fits likely arrived other, drop_suffix _ _,
          .drop_len likely arrived⟩
    · exact ⟨_, mctpRingbufRead_byte fits there likely, drop_suffix _ _,
        .drop_one there likely⟩

/-- A read in front of a frame returns the frame's payload, or nothing and goes on with the scan to
the frame. -/
theorem read_pending {garbage rest : List UInt8} {frame : layout.Frame}
    (fits : (garbage ++ frame.bytes ++ rest).length ≤ layout.capacity)
    (clean : layout.Clean garbage) (scans : layout.Scans frame.bytes garbage) :
    (garbage = [] ∧
      layout.mctpRingbufRead (garbage ++ frame.bytes ++ rest) = (some frame.payload, rest)) ∨
    ∃ onward, layout.mctpRingbufRead (garbage ++ frame.bytes ++ rest) =
        (none, onward ++ frame.bytes ++ rest) ∧
      onward.length < garbage.length ∧ onward <:+ garbage ∧ layout.Scans frame.bytes onward := by
  have behind : layout.hdrSize ≤ (garbage ++ frame.bytes).length := by
    have more := frame.hdrSize_lt
    rw [length_append]
    omega
  have there : layout.hdrSize ≤ (garbage ++ frame.bytes ++ rest).length := by
    rw [length_append]
    omega
  cases scans with
  | there => exact .inl ⟨rfl, mctpRingbufRead_frame frame fits⟩
  | byte unlikely on =>
    rename_i first garbage
    refine .inr ⟨garbage, ?_, Nat.lt_succ_self _, suffix_cons first garbage, on⟩
    exact mctpRingbufRead_byte fits there (fun likely =>
      unlikely ((likely_append behind rest).mp likely))
  | skip likely inside on =>
    have same := header_append behind rest
    have lower := likely.1
    have room : layout.hdrSize ≤ garbage.length := by omega
    have other : layout.isDmtf (layout.header (garbage ++ frame.bytes)) = false := by
      rw [header_append room]
      exact clean garbage suffix_rfl room ((likely_append room _).mp likely)
    refine .inr ⟨_, ?_, ?_, drop_suffix _ _, on⟩
    · have skipped := mctpRingbufRead_skip fits ((likely_append behind rest).mpr likely)
        (by
          rw [same, length_append, length_append]
          omega)
        (by
          rw [same]
          exact other)
      rw [skipped, same, append_assoc, drop_append_of_le_length inside,
        append_assoc]
    · rw [length_drop]
      omega

theorem parses_initial : Parses (initial : layout.State) [] [] where
  fits := Nat.zero_le _
  ring := rfl
  frames := rfl
  clean _ member := absurd member not_mem_nil
  scans _ member := absurd member not_mem_nil
  trailing := clean_nil
  part := suffix_rfl
  follows _ _ scans := scans

/-- A read keeps the parse, and comes closer to the next frame where one is pending. -/
theorem parses_read {state : layout.State} {pending : List (List UInt8 × layout.Frame)}
    {left : List UInt8} (parses : Parses state pending left) :
    ∃ next rest behind, step state .read = some next ∧ Parses next rest behind ∧
      next.accepted = state.accepted ∧ (pending = [] → rest = []) ∧
      (pending ≠ [] → next.ring.length < state.ring.length) := by
  obtain ⟨fits, ring, frames, clean, scans, trailing, part, follows⟩ := parses
  cases pending with
  | nil =>
    have alone : state.ring = left := ring
    rw [alone] at fits
    obtain ⟨rest, taken, ends, onward⟩ := read_left fits (trailing.suffix part)
    refine ⟨{ state with ring := rest }, [], rest, ?_, ?_, rfl, fun _ => rfl,
      fun some => absurd rfl some⟩
    · simp only [step, alone, taken, toList_none, append_nil]
    · exact ⟨Nat.le_trans ends.length_le fits, rfl, frames, clean, scans, trailing,
        ends.trans part, follows.trans onward⟩
  | cons item others =>
    obtain ⟨garbage, frame⟩ := item
    have whole : state.ring = garbage ++ frame.bytes ++ (content others ++ left) := by
      rw [ring, content, flatMap_cons, ← content, append_assoc]
    rw [whole] at fits
    have more := frame.hdrSize_lt
    have othersClean := fun item member => clean item (mem_cons_of_mem _ member)
    have othersScans := fun item member => scans item (mem_cons_of_mem _ member)
    rcases read_pending fits (clean _ mem_cons_self) (scans _ mem_cons_self) with
      ⟨rfl, taken⟩ | ⟨onward, taken, shorter, ends, scanned⟩
    · refine ⟨⟨content others ++ left, state.accepted, state.trailing,
        state.returned ++ [frame.payload]⟩, others, left, ?_, ?_, rfl,
        fun none => absurd none (cons_ne_nil _ _), fun _ => ?_⟩
      · simp only [step, whole, taken, toList_some]
      · refine ⟨?_, rfl, ?_, othersClean, othersScans, trailing, part, follows⟩
        · simp only [length_append] at fits ⊢
          omega
        · rw [← frames, append_assoc]
          rfl
      · rw [whole]
        simp only [length_append]
        omega
    · refine ⟨{ state with ring := onward ++ frame.bytes ++ (content others ++ left) },
        (onward, frame) :: others, left, ?_, ?_, rfl,
        fun none => absurd none (cons_ne_nil _ _), fun _ => ?_⟩
      · simp only [step, whole, taken, toList_none, append_nil]
      · refine ⟨?_, ?_, frames, ?_, ?_, trailing, part, follows⟩
        · simp only [length_append] at fits ⊢
          omega
        · simp only [content, flatMap_cons, append_assoc]
        · intro item member
          rcases List.mem_cons.mp member with rfl | member
          · exact (clean _ mem_cons_self).suffix ends
          · exact othersClean item member
        · intro item member
          rcases List.mem_cons.mp member with rfl | member
          · exact scanned
          · exact othersScans item member
      · rw [whole]
        simp only [length_append]
        omega

/-- When the buffer is read on, the payloads of the pending frames are returned. -/
theorem reads_return (count : Nat) : ∀ {state : layout.State}
    {pending : List (List UInt8 × layout.Frame)} {left : List UInt8},
    Parses state pending left → (pending = [] ∨ state.ring.length ≤ count) →
    ∃ final ∈ run step state (List.replicate count .read),
      final.returned = state.accepted.map Frame.payload := by
  induction count with
  | zero =>
    intro state pending left parses enough
    have none : pending = [] := by
      rcases enough with none | empty
      · exact none
      · have nothing := eq_nil_of_length_eq_zero (Nat.le_zero.mp empty)
        rw [parses.ring, append_eq_nil_iff] at nothing
        cases pending with
        | nil => rfl
        | cons item others =>
          have more := item.2.hdrSize_lt
          have front := List.append_eq_nil_iff.mp nothing.1
          rw [(List.append_eq_nil_iff.mp front.1).2] at more
          exact absurd more (Nat.not_lt_zero _)
    subst none
    refine ⟨state, rfl, ?_⟩
    rw [← parses.frames, map_nil, append_nil]
  | succ count ih =>
    intro state pending left parses enough
    obtain ⟨next, rest, behind, moved, kept, same, ended, closer⟩ := parses_read parses
    have enough : rest = [] ∨ next.ring.length ≤ count := by
      by_cases none : pending = []
      · exact .inl (ended none)
      · have shorter := closer none
        have bound := enough.resolve_left none
        exact .inr (by omega)
    obtain ⟨final, ran, returned⟩ := ih kept enough
    refine ⟨final, ?_, ?_⟩
    · exact run_cons_eq_some.mpr ⟨next, moved, ran⟩
    · rw [returned, same]

/-- An allowed event keeps the parser where the frames are. -/
theorem parses_step {state next : layout.State} {event : layout.Event}
    (parses : ∃ pending left, Parses state pending left)
    (allowed : Noise state event ∧ Reached state event)
    (moved : step state event = some next) : ∃ pending left, Parses next pending left := by
  obtain ⟨pending, left, parses⟩ := parses
  cases event with
  | read =>
    obtain ⟨after, rest, behind, took, kept, _⟩ := parses_read parses
    cases took.symm.trans moved
    exact ⟨rest, behind, kept⟩
  | frame frame =>
    by_cases full : layout.space state.ring < frame.bytes.length
    · simp only [step, mctpUsbRx, if_pos full, Option.some.injEq] at moved
      subst moved
      exact ⟨pending, left, parses⟩
    · simp only [step, mctpUsbRx, if_neg full, Option.some.injEq] at moved
      subst moved
      have scans := parses.follows [] frame.bytes (by
        rw [append_nil]
        exact allowed.2 (Nat.le_of_not_lt full))
      rw [append_nil] at scans
      refine ⟨pending ++ [(left, frame)], [], ⟨?_, ?_, ?_, ?_, ?_, clean_nil, suffix_rfl,
        fun _ _ => id⟩⟩
      · have fits := parses.fits
        unfold space at full
        simp only [length_append]
        omega
      · simp only [parses.ring, content, flatMap_append, flatMap_singleton,
          append_nil, append_assoc]
      · simp only [map_append, ← parses.frames, append_assoc, map_cons,
          map_nil]
      · intro item member
        rcases List.mem_append.mp member with member | member
        · exact parses.clean item member
        · obtain rfl := List.mem_singleton.mp member
          exact parses.trailing.suffix parses.part
      · intro item member
        rcases List.mem_append.mp member with member | member
        · exact parses.scans item member
        · obtain rfl := List.mem_singleton.mp member
          exact scans
  | garbage bytes =>
    by_cases full : layout.space state.ring < bytes.length
    · simp only [step, mctpUsbRx, if_pos full, Option.some.injEq] at moved
      subst moved
      exact ⟨pending, left, parses⟩
    · simp only [step, mctpUsbRx, if_neg full, Option.some.injEq] at moved
      subst moved
      refine ⟨pending, left ++ bytes, ⟨?_, ?_, parses.frames, parses.clean, parses.scans,
        allowed.1, ?_, ?_⟩⟩
      · have fits := parses.fits
        unfold space at full
        simp only [length_append]
        omega
      · rw [parses.ring, append_assoc]
      · obtain ⟨front, split⟩ := parses.part
        exact ⟨front, by rw [← split, append_assoc]⟩
      · intro more frame scans
        rw [append_assoc] at scans ⊢
        exact parses.follows (bytes ++ more) frame scans

/-- In a run in which the garbage contains no valid header, and a scan of it comes to each frame,
the frames are delivered. -/
theorem run_delivers {events : List layout.Event} {state : layout.State}
    (meets : Meets step (fun state event => Noise state event ∧ Reached state event) initial events)
    (ran : run step initial events = some state) : Delivers state := by
  have kept : ∀ {state : layout.State} {event next}, (∃ pending left, Parses state pending left) →
      Noise state event ∧ Reached state event → step state event = some next →
      ∃ pending left, Parses next pending left := parses_step
  obtain ⟨pending, left, parses⟩ := invariant kept ⟨[], [], parses_initial⟩ meets ran
  constructor
  · exact ⟨_, parses.frames⟩
  · intro count enough
    exact reads_return count parses (.inr enough)

/-- Two bytes of id, a reserved byte and a byte of length, in packets of at most 68 bytes. -/
def usual : Layout where
  hdrSize := 4
  btu := 68
  len bytes := (bytes.getD 3 0).toNat
  isDmtf bytes := bytes.getD 0 0 = 0x1A ∧ bytes.getD 1 0 = 0xB4
  hdrSize_pos := by decide
  small := by decide

def single : usual.Frame where
  bytes := [0x1A, 0xB4, 0x00, 0x05, 0xAA]
  likely := by decide
  dmtf := by decide
  whole := by decide

/-- A byte of garbage whose length byte is the frame's reserved one is scanned, and the frame behind
it is delivered. -/
theorem run_delivers_single :
    ∃ state ∈ run step initial [.garbage [0x00], .frame single, .read, .read],
      state.returned = [[0xAA]] ∧ Delivers state := by
  refine ⟨_, rfl, by decide, ?_⟩
  have meets : Meets step (fun state event => Noise state event ∧ Reached state event) initial
      [.garbage [0x00], .frame single, .read, .read] := by
    refine ⟨⟨?_, trivial⟩, ⟨trivial, ?_⟩, ⟨trivial, trivial⟩, ⟨trivial, trivial⟩, trivial⟩
    · intro rest part there
      have short : rest.length ≤ 1 := part.length_le
      have long : 4 ≤ rest.length := there
      omega
    · intro _
      exact .byte (by decide) .there
  exact run_delivers meets rfl

/-- Three bytes of garbage take the id of the frame behind them for a length: five frames are
lost. -/
theorem not_delivers : ¬ ∀ {events : List usual.Event} {state : usual.State},
    Meets step Noise initial events → run step initial events = some state → Delivers state := by
  intro always
  let events : List usual.Event := .garbage [0x00, 0x00, 0x00] :: List.replicate 5 (.frame single)
  have meets : Meets step Noise initial events := by
    refine ⟨?_, trivial, trivial, trivial, trivial, trivial, trivial⟩
    intro rest part there
    have short : rest.length ≤ 3 := part.length_le
    have long : 4 ≤ rest.length := there
    omega
  have lost : ∃ state ∈ run step initial events, state.ring.length ≤ 28 ∧
      ∃ final ∈ run step state (List.replicate 28 .read),
        final.returned ≠ state.accepted.map Frame.payload := by
    decide +kernel
  obtain ⟨state, ran, short, final, read, differs⟩ := lost
  obtain ⟨other, same, returned⟩ := (always meets ran).2 28 short
  cases same.symm.trans read
  exact differs returned

end Layout

end OpenBic.Mctp.Usb
