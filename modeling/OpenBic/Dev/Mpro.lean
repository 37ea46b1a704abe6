import OpenBic.Dev.CodeRing
import OpenBic.Host.SnoopSend
import Mathlib.Logic.Function.Iterate

/-!
# The stream of POST codes of Mpro

`mpro.c`: codes are inserted into a ring, and the thread `process_postcode` sends them to the BMC. The
insertion of a code can be interrupted between the raise of the index and its return to the first
slot, and codes can be inserted between any two turns of the thread.
-/

namespace OpenBic.Mpro

open List Library.Machine Library.Ring OpenBic.PostCode
open OpenBic.Snoop (IpmbError Exchange)

/-! ## The code -/

def mproPostcodeLen : Nat := 1024

def postcodeBytes (postcode : UInt32) : List UInt8 :=
  [(postcode &&& 0xFF).toUInt8, ((postcode >>> 8) &&& 0xFF).toUInt8,
    ((postcode >>> 16) &&& 0xFF).toUInt8, ((postcode >>> 24) &&& 0xFF).toUInt8]

/-- The data of a request, with `IANA_ID` and the number of bytes of a code. -/
def postcodeRequest (postcode : UInt32) : List UInt8 :=
  [0x15, 0xA0, 0x00, 4] ++ postcodeBytes postcode

def copyMproReadBuffer (ring : CodeRing UInt32) (start length bufferLen : UInt16) :
    Option (List UInt8) :=
  copyReadBuffer mproPostcodeLen 4 postcodeBytes ring start length bufferLen

/-- Where the thread is. -/
inductive Phase where
  | asleep
  /-- It is at the head of its loop, with `current_read_index`. -/
  | sending (currentReadIndex : Nat)
deriving DecidableEq

/-- The ring and the thread, with what was inserted and what was sent. -/
structure Stream where
  /-- `mpro_read_buffer`, `mpro_read_len` and `mpro_read_index`. -/
  ring : CodeRing UInt32
  /-- `mpro_postcode_insert` has raised the index and has not looked at it yet. -/
  storing : Bool
  /-- `get_postcode_sem`, whose limit is one. -/
  getPostcodeSem : Bool
  sendIndex : Nat
  phase : Phase
  inserted : List UInt32
  sent : List (List UInt8)
  overran : Bool

def turnIndex (sendIndex : Nat) : Nat :=
  if sendIndex = mproPostcodeLen - 1 then 0 else sendIndex

/-- `send_index` after a turn of the loop. -/
def nextIndex (sendIndex : Nat) : Nat := turnIndex sendIndex + 1

/-- `mpro_postcode_insert` up to the raise of the index. -/
def Stream.store (stream : Stream) (postcode : UInt32) : Option Stream :=
  (stream.ring.store mproPostcodeLen postcode).map fun ring => { stream with
    ring := ring
    storing := true
    inserted := stream.inserted ++ [postcode]
    overran := stream.overran || mproPostcodeLen ≤ stream.inserted.length + 1 - stream.sent.length }

/-- The rest of `mpro_postcode_insert`. -/
def Stream.wrap (stream : Stream) : Stream := { stream with
  ring := stream.ring.wrap mproPostcodeLen
  storing := false
  getPostcodeSem := true }

/-- `process_postcode` takes the semaphore and allocates a message. -/
def Stream.wake (stream : Stream) (malloc : Bool) : Stream := { stream with
  getPostcodeSem := false
  phase := if malloc then .sending stream.ring.readIndex else .asleep }

/-- `process_postcode` at the head of its loop. -/
def Stream.turn (stream : Stream) (currentReadIndex : Nat) (status : IpmbError) : Stream :=
  if stream.sendIndex = currentReadIndex then { stream with phase := .asleep }
  else { stream with
    sendIndex := nextIndex stream.sendIndex
    sent := if (Exchange.ipmb status).transmits then
        stream.sent ++ [postcodeRequest (stream.ring.buffer (turnIndex stream.sendIndex))]
      else stream.sent }

/-! ## What is claimed -/

def Stream.start : Stream := ⟨⟨fun _ => 0, 0, 0⟩, false, false, 0, .asleep, [], [], false⟩

/-- What can happen; an insertion stores first and then wraps. -/
inductive MproEvent where
  | store (postcode : UInt32)
  | wrap
  | reset
  | wake (malloc : Bool)
  | turn (status : IpmbError)

def step (stream : Stream) : MproEvent → Option Stream
  | .store postcode => if stream.storing then none else stream.store postcode
  | .wrap => if stream.storing then some stream.wrap else none
  | .reset => some { stream with ring := { stream.ring with readLen := 0 } }
  | .wake malloc =>
    if stream.phase = .asleep ∧ stream.getPostcodeSem then some (stream.wake malloc) else none
  | .turn status =>
    match stream.phase with
    | .asleep => none
    | .sending currentReadIndex => some (stream.turn currentReadIndex status)

/-- What is claimed of a state. -/
structure Right (stream : Stream) : Prop where
  ends : ∀ currentReadIndex, stream.phase = .sending currentReadIndex →
    ∃ turns, nextIndex^[turns] stream.sendIndex = currentReadIndex
  order : stream.overran = false → stream.sent <+: stream.inserted.map postcodeRequest
  all : stream.overran = false → stream.phase = .asleep → stream.getPostcodeSem = false →
    stream.storing = false → stream.sent = stream.inserted.map postcodeRequest

/-- The thread wakes up while the index has not come back to the first slot since it slept, nor is
about to, and there is memory; and every request goes out. -/
def Clean (stream : Stream) : MproEvent → Prop
  | .wake malloc => malloc = true ∧ stream.sendIndex ≤ stream.ring.readIndex ∧
    stream.ring.readIndex < mproPostcodeLen
  | .turn status => stream.phase ≠ .sending stream.sendIndex → (Exchange.ipmb status).transmits = true
  | _ => True

instance Clean.decidable (stream : Stream) : ∀ event, Decidable (Clean stream event)
  | .wake _ => inferInstanceAs (Decidable (_ ∧ _ ∧ _))
  | .turn _ => inferInstanceAs (Decidable (_ → _))
  | .store _ | .wrap | .reset => .isTrue trivial

/-! ## Steps -/

section Steps

variable {stream : Stream}

/-- The ring is a ring of the codes that were inserted, but that its index may be behind its end. -/
structure Stored (stream : Stream) : Prop where
  holds : ∃ earlier codes, earlier ++ codes = stream.inserted ∧
    Holds mproPostcodeLen earlier codes (stream.ring.wrap mproPostcodeLen)
  inside : stream.storing = false → stream.ring.readIndex < mproPostcodeLen

/-- What holds of the thread in a clean run. -/
structure Sends (stream : Stream) : Prop where
  index : stream.sendIndex ≤ stream.inserted.length
  sent : stream.sent = (stream.inserted.take stream.sendIndex).map postcodeRequest
  few : stream.inserted.length < stream.sendIndex + mproPostcodeLen
  sending : ∀ currentReadIndex, stream.phase = .sending currentReadIndex →
    currentReadIndex ≤ stream.inserted.length ∧
      (stream.getPostcodeSem = false → stream.storing = false →
        currentReadIndex = stream.inserted.length)
  asleep : stream.phase = .asleep → stream.getPostcodeSem = false → stream.storing = false →
    stream.sendIndex = stream.inserted.length

/-- What holds in a clean run. -/
structure Tracks (stream : Stream) : Prop where
  stored : Stored stream
  before : ∀ currentReadIndex, stream.phase = .sending currentReadIndex →
    stream.sendIndex ≤ currentReadIndex ∧ currentReadIndex < mproPostcodeLen
  sends : stream.overran = false → Sends stream

theorem turnIndex_of_lt {sendIndex currentReadIndex : Nat} (before : sendIndex < currentReadIndex)
    (inside : currentReadIndex < mproPostcodeLen) : turnIndex sendIndex = sendIndex := by
  unfold turnIndex
  rw [if_neg (by omega)]

theorem loop_ends {sendIndex currentReadIndex : Nat} (before : sendIndex ≤ currentReadIndex)
    (inside : currentReadIndex < mproPostcodeLen) :
    ∃ turns, nextIndex^[turns] sendIndex = currentReadIndex := by
  obtain ⟨turns, rfl⟩ := Nat.exists_eq_add_of_le before
  refine ⟨turns, ?_⟩
  clear before
  induction turns with
  | zero => rfl
  | succ turns ih =>
    have earlier := ih (by omega)
    have index : turnIndex (sendIndex + turns) = sendIndex + turns :=
      turnIndex_of_lt (Nat.lt_succ_self _) inside
    rw [Function.iterate_succ_apply', earlier, nextIndex, index, Nat.add_assoc]

theorem Sends.length (sends : Sends stream) : stream.sent.length = stream.sendIndex := by
  have index := sends.index
  rw [sends.sent, length_map, length_take]
  omega

theorem Stored.slot (stored : Stored stream) {place : Nat} (inside : place < mproPostcodeLen)
    (few : stream.inserted.length < place + mproPostcodeLen)
    (within : place < stream.inserted.length) :
    stream.ring.buffer place = stream.inserted[place] := by
  obtain ⟨earlier, codes, same, holds⟩ := stored.holds
  have recent := holds.recent place stream.inserted[place]
    (by rw [same]; exact getElem?_eq_getElem within) (by rw [same]; omega)
  rw [Nat.mod_eq_of_lt inside] at recent
  exact recent

theorem Stored.index (stored : Stored stream) (inside : stream.ring.readIndex < mproPostcodeLen) :
    stream.ring.readIndex = stream.inserted.length % mproPostcodeLen := by
  obtain ⟨earlier, codes, same, holds⟩ := stored.holds
  have index := holds.index
  rw [wrap_eq inside, same] at index
  exact index

theorem Stored.store (stored : Stored stream) (idle : stream.storing = false)
    (postcode : UInt32) : ∃ ring, stream.ring.store mproPostcodeLen postcode = some ring ∧
      ∃ earlier codes, earlier ++ codes = stream.inserted ++ [postcode] ∧
        Holds mproPostcodeLen earlier codes (ring.wrap mproPostcodeLen) := by
  obtain ⟨earlier, codes, same, holds⟩ := stored.holds
  rw [wrap_eq (stored.inside idle)] at holds
  obtain ⟨next, inserted, after⟩ := holds.insert (by decide) postcode
  obtain ⟨ring, put, rfl⟩ := Option.map_eq_some_iff.mp inserted
  have joined : earlier ++ (codes ++ [postcode]) = stream.inserted ++ [postcode] := by
    rw [← append_assoc, same]
  exact ⟨ring, put, earlier, codes ++ [postcode], joined, after⟩

theorem Stored.wrap (stored : Stored stream) : Stored stream.wrap := by
  obtain ⟨earlier, codes, same, holds⟩ := stored.holds
  have inside := holds.inside (by decide)
  refine ⟨⟨earlier, codes, same, ?_⟩, fun _ => inside⟩
  unfold Stream.wrap
  rw [wrap_eq inside]
  exact holds

theorem Stored.reset (stored : Stored stream) :
    Stored { stream with ring := { stream.ring with readLen := 0 } } := by
  obtain ⟨earlier, codes, same, holds⟩ := stored.holds
  have none : stream.inserted ++ [] = stream.inserted := append_nil _
  have held := holds.reset
  rw [same] at held
  exact ⟨⟨stream.inserted, [], none, held⟩, stored.inside⟩

/-- Every event keeps what is stored. -/
theorem Stored.step {next : Stream} {event : MproEvent} (stored : Stored stream)
    (moved : step stream event = some next) : Stored next := by
  unfold Mpro.step at moved
  cases event with
  | store postcode =>
    dsimp only at moved
    split at moved
    · cases moved
    next idle =>
      obtain ⟨ring, put, held⟩ := stored.store (Bool.eq_false_iff.mpr idle) postcode
      unfold Stream.store at moved
      rw [put] at moved
      cases moved
      exact ⟨held, nofun⟩
  | wrap =>
    dsimp only at moved
    split at moved
    · cases moved
      exact stored.wrap
    · cases moved
  | reset =>
    cases moved
    exact stored.reset
  | wake malloc =>
    dsimp only at moved
    split at moved
    · cases moved
      exact ⟨stored.holds, stored.inside⟩
    · cases moved
  | turn status =>
    dsimp only at moved
    split at moved
    · cases moved
    · cases moved
      unfold Stream.turn
      split
      · exact ⟨stored.holds, stored.inside⟩
      · exact ⟨stored.holds, stored.inside⟩

theorem Tracks.store (tracks : Tracks stream) (idle : stream.storing = false) (postcode : UInt32) :
    ∃ next, stream.store postcode = some next ∧ Tracks next := by
  obtain ⟨ring, put, held⟩ := tracks.stored.store idle postcode
  unfold Stream.store
  rw [put, Option.map_some]
  refine ⟨_, rfl, ⟨held, nofun⟩, tracks.before, ?_⟩
  · intro kept
    obtain ⟨before, room⟩ := Bool.or_eq_false_iff.mp kept
    have sends := tracks.sends before
    have index := sends.index
    have fits : ¬ mproPostcodeLen ≤ stream.inserted.length + 1 - stream.sent.length :=
      of_decide_eq_false room
    have longer : (stream.inserted ++ [postcode]).length = stream.inserted.length + 1 := by
      rw [length_append, length_singleton]
    rw [sends.length] at fits
    refine ⟨?_, ?_, ?_, ?_, nofun⟩
    · dsimp only
      omega
    · rw [take_append_of_le_length index]
      exact sends.sent
    · dsimp only
      omega
    · intro currentReadIndex here
      have known := (sends.sending currentReadIndex here).1
      refine ⟨?_, nofun⟩
      dsimp only
      omega

theorem Tracks.wrap (tracks : Tracks stream) : Tracks stream.wrap := by
  refine ⟨tracks.stored.wrap, tracks.before, ?_⟩
  intro kept
  have sends := tracks.sends kept
  refine ⟨sends.index, sends.sent, sends.few, ?_, nofun⟩
  intro currentReadIndex here
  exact ⟨(sends.sending currentReadIndex here).1, nofun⟩

theorem Tracks.wake (tracks : Tracks stream) (behind : stream.sendIndex ≤ stream.ring.readIndex)
    (inside : stream.ring.readIndex < mproPostcodeLen) : Tracks (stream.wake true) := by
  refine ⟨⟨tracks.stored.holds, tracks.stored.inside⟩, ?_, ?_⟩
  · intro currentReadIndex here
    obtain rfl := Phase.sending.inj here
    exact ⟨behind, inside⟩
  · intro kept
    have sends := tracks.sends kept
    have few := sends.few
    have index := tracks.stored.index inside
    have whole := Nat.div_add_mod stream.inserted.length mproPostcodeLen
    -- More codes than the ring has slots would put the index before that of the thread.
    have once : stream.inserted.length / mproPostcodeLen = 0 := by
      rcases Nat.eq_zero_or_pos (stream.inserted.length / mproPostcodeLen) with none | some
      · exact none
      · have more := Nat.mul_le_mul_left mproPostcodeLen some
        omega
    rw [once] at whole
    have all : stream.ring.readIndex = stream.inserted.length := by omega
    refine ⟨sends.index, sends.sent, sends.few, ?_, nofun⟩
    intro currentReadIndex here
    obtain rfl := Phase.sending.inj here
    exact ⟨Nat.le_of_eq all, fun _ _ => all⟩

/-- A turn of the loop whose request goes out, or which is the last one. -/
theorem Tracks.turn (tracks : Tracks stream) {currentReadIndex : Nat} {status : IpmbError}
    (here : stream.phase = .sending currentReadIndex)
    (transmits : stream.sendIndex ≠ currentReadIndex →
      (Exchange.ipmb status).transmits = true) : Tracks (stream.turn currentReadIndex status) := by
  obtain ⟨before, inside⟩ := tracks.before currentReadIndex here
  unfold Stream.turn
  by_cases last : stream.sendIndex = currentReadIndex
  · rw [if_pos last]
    refine ⟨⟨tracks.stored.holds, tracks.stored.inside⟩, nofun, ?_⟩
    intro kept
    have sends := tracks.sends kept
    refine ⟨sends.index, sends.sent, sends.few, nofun, ?_⟩
    intro _ taken idle
    rw [last]
    exact (sends.sending currentReadIndex here).2 taken idle
  · have more : stream.sendIndex < currentReadIndex := Nat.lt_of_le_of_ne before last
    have index := turnIndex_of_lt more inside
    rw [if_neg last, if_pos (transmits last)]
    refine ⟨⟨tracks.stored.holds, tracks.stored.inside⟩, ?_, ?_⟩
    · intro other same
      obtain rfl := Phase.sending.inj (here.symm.trans same)
      rw [nextIndex, index]
      exact ⟨more, inside⟩
    · intro kept
      have sends := tracks.sends kept
      have few := sends.few
      have known := (sends.sending currentReadIndex here).1
      have within : stream.sendIndex < stream.inserted.length := by omega
      have code := tracks.stored.slot (by omega) few within
      refine ⟨?_, ?_, ?_, sends.sending, ?_⟩
      · rw [nextIndex, index]
        exact within
      · rw [nextIndex, index, code, sends.sent, take_succ_eq_append_getElem within,
          map_append, map_singleton]
      · dsimp only
        rw [nextIndex, index]
        omega
      · intro asleep
        nomatch (here.symm.trans asleep)

/-- A clean step can be taken where it is due, and what holds is kept. -/
theorem Tracks.step {next : Stream} {event : MproEvent} (tracks : Tracks stream)
    (clean : Clean stream event) (moved : step stream event = some next) : Tracks next := by
  unfold Mpro.step at moved
  cases event with
  | store postcode =>
    dsimp only at moved
    split at moved
    · cases moved
    next idle =>
      obtain ⟨after, stores, held⟩ := tracks.store (Bool.eq_false_iff.mpr idle) postcode
      cases stores.symm.trans moved
      exact held
  | wrap =>
    dsimp only at moved
    split at moved
    · cases moved
      exact tracks.wrap
    · cases moved
  | reset =>
    cases moved
    refine ⟨tracks.stored.reset, tracks.before, ?_⟩
    intro kept
    have sends := tracks.sends kept
    exact ⟨sends.index, sends.sent, sends.few, sends.sending, sends.asleep⟩
  | wake malloc =>
    dsimp only at moved
    split at moved
    · cases moved
      obtain ⟨rfl, behind, inside⟩ := clean
      exact tracks.wake behind inside
    · cases moved
  | turn status =>
    cases here : stream.phase with
    | asleep =>
      rw [here] at moved
      cases moved
    | sending currentReadIndex =>
      rw [here] at moved
      cases moved
      apply tracks.turn here
      intro more
      apply clean
      intro same
      exact more (Phase.sending.inj (same.symm.trans here))

theorem Tracks.right (tracks : Tracks stream) : Right stream := by
  refine ⟨?_, ?_, ?_⟩
  · intro currentReadIndex here
    obtain ⟨before, inside⟩ := tracks.before currentReadIndex here
    exact loop_ends before inside
  · intro kept
    rw [(tracks.sends kept).sent]
    exact (List.take_prefix _ _).map _
  · intro kept asleep taken idle
    have sends := tracks.sends kept
    rw [sends.sent, sends.asleep asleep taken idle, take_length]

end Steps

/-! ## The runs -/

theorem tracks_start : Tracks Stream.start :=
  ⟨⟨⟨[], [], rfl, holds_start _ _⟩, fun _ => Nat.zero_lt_of_lt (by decide : 0 < mproPostcodeLen)⟩,
    nofun, fun _ => ⟨Nat.le_refl 0, rfl, by decide, nofun, fun _ _ _ => rfl⟩⟩

/-- Along every run whose wake-ups find no index that wraps and whose requests all get out, what is
sent is what was captured, in order. -/
theorem streamRight_run {events : List MproEvent} {final : Stream}
    (clean : Meets step Clean Stream.start events)
    (ran : run step Stream.start events = some final) : Right final :=
  (invariant (fun tracks clean moved => Tracks.step tracks clean moved) tracks_start clean ran).right

/-- Pages that cover the ring have the latest codes that were inserted, as many as `mpro_read_len`
says, newest first. -/
theorem pages_run {events : List MproEvent} {final : Stream}
    (ran : run step Stream.start events = some final) (idle : final.storing = false) :
    PagesRight mproPostcodeLen 4 postcodeBytes (copyMproReadBuffer final.ring)
      (final.inserted.drop (final.inserted.length - final.ring.readLen)) := by
  have stored : Stored final :=
    invariant_of_step (fun stored moved => Stored.step stored moved) tracks_start.stored ran
  obtain ⟨earlier, codes, same, holds⟩ := stored.holds
  rw [wrap_eq (stored.inside idle)] at holds
  have kept : PostCode.latest mproPostcodeLen
      (final.inserted.drop (final.inserted.length - final.ring.readLen)) =
        PostCode.latest mproPostcodeLen codes := by
    unfold PostCode.latest
    rw [← take_reverse, ← same, reverse_append, take_take, holds.len,
      take_append_of_le_length (by rw [length_reverse]; omega), take_eq_take_iff,
      length_reverse]
    omega
  have right := holds.pages (by decide) 4 postcodeBytes
  unfold PagesRight at right ⊢
  rw [kept]
  exact right

def inserts (postcode : UInt32) : List MproEvent := [.store postcode, .wrap]

/-- Two codes, of which one is inserted while the thread is in its loop. -/
def twoCodes : List MproEvent :=
  inserts 0x11 ++ [.wake true, .turn .success] ++ inserts 0x22 ++
    [.turn .success, .wake true, .turn .success, .turn .success]

/-- Two codes, captured and sent. -/
theorem streamRight_twoCodes :
    ∃ final, run step Stream.start twoCodes = some final ∧ final.sent.length = 2 ∧
      Right final := by
  have clean : Meets step Clean Stream.start twoCodes := by decide +kernel
  have two : (run step Stream.start twoCodes).map (fun final => final.sent.length) = some 2 := by
    decide +kernel
  obtain ⟨final, ran, sent⟩ := Option.map_eq_some_iff.mp two
  exact ⟨final, ran, sent, streamRight_run clean ran⟩

/-- Two codes, read page by page. -/
theorem pages_run_twoCodes :
    ∃ final, run step Stream.start twoCodes = some final ∧
      PagesRight mproPostcodeLen 4 postcodeBytes (copyMproReadBuffer final.ring)
        (final.inserted.drop (final.inserted.length - final.ring.readLen)) := by
  have idle : (run step Stream.start twoCodes).map Stream.storing = some false := by decide +kernel
  obtain ⟨final, ran, same⟩ := Option.map_eq_some_iff.mp idle
  exact ⟨final, ran, pages_run ran same⟩

/-- A code that is sent, and codes up to the last slot of the ring. -/
def fullRing : List MproEvent :=
  inserts 0 ++ [.wake true, .turn .success, .turn .success] ++
    (List.range (mproPostcodeLen - 1)).flatMap (fun _ => inserts 1) ++ [.wake true]

/-- The thread wakes up to end its loop at the first slot, where it never comes. -/
theorem fullRing_not_right :
    ∃ final, run step Stream.start fullRing = some final ∧ ¬ Right final := by
  have stuck : (run step Stream.start fullRing).map (fun final =>
      (final.sendIndex, final.phase)) = some (1, .sending 0) := by decide +kernel
  obtain ⟨final, ran, there⟩ := Option.map_eq_some_iff.mp stuck
  obtain ⟨index, phase⟩ := Prod.mk.inj there
  refine ⟨final, ran, fun right => ?_⟩
  obtain ⟨turns, ends⟩ := right.ends 0 phase
  rw [index] at ends
  cases turns with
  | zero => cases ends
  | succ turns =>
    rw [Function.iterate_succ_apply'] at ends
    exact Nat.succ_ne_zero _ ends

end OpenBic.Mpro
