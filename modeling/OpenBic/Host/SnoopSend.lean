import OpenBic.Host.Snoop
import OpenBic.Library.Machine

/-!
# The stream of POST codes to the BMC

The thread `send_post_code_to_BMC` of `snoop.c`, while codes are snooped. The thread looks at the
number of codes, copies those that it has not sent out of the ring, and sends them; codes can arrive
between any two of these.
-/

namespace OpenBic.Snoop

open List Library Library.Machine Library.Ring

/-! ## The code -/

/-- `ipmb_error`, as far as the sender can get it. -/
inductive IpmbError where
  | success
  /-- `IPMB_ERROR_UNKNOWN`: the queue or the mutex is not there. -/
  | unknown
  /-- `IPMB_ERROR_FAILURE`: the request is not sent. -/
  | failure
  /-- `IPMB_ERROR_GET_MESSAGE_QUEUE`: the request is sent and has no response. -/
  | getMessageQueue
  | mutexLock
deriving DecidableEq

/-- What comes of a message. -/
inductive Exchange where
  | ipmb (status : IpmbError)
  | pldm (transmitted : Bool)

def Exchange.transmits : Exchange → Bool
  | .ipmb status => status == .success || status == .getMessageQueue
  | .pldm transmitted => transmitted

def Exchange.advances : Exchange → Bool
  | .ipmb status => status != .failure && status != .getMessageQueue
  | .pldm _ => true

/-- Where the thread is. -/
inductive Phase where
  | asleep
  | allocated (endPosition : Nat)
  | copied (endPosition : Nat) (codes : List UInt8)
  | returned
  | strayed

/-- The thread, the ring, and what came in and went out. -/
structure Sending where
  ring : SnoopRing
  startPosition : Nat
  allocRetry : Nat
  phase : Phase
  snooped : List UInt8
  sent : List UInt8
  messages : List (List UInt8 × List UInt8)
  overran : Bool

/-- What can happen; the thread's steps end where it waits or calls. -/
inductive SendEvent where
  | snooped (code : UInt8) (locked : Bool)
  /-- The thread wakes, and the DC is on, a message is allocated, the POST is complete, and the
  power of the CPU is good, or not. -/
  | wake (dcOn malloc postComplete cpuGood : Bool)
  | copy (locked : Bool)
  | send (exchange : Exchange)

/-- `send_post_code_to_BMC`, from the wake-up to the copy. -/
def Sending.wake (sending : Sending) (dcOn malloc postComplete cpuGood : Bool) : Sending :=
  let endPosition := sending.ring.readNum
  if !dcOn then { sending with phase := .returned }
  else if sending.startPosition ≠ endPosition then
    if !malloc then
      if postComplete then
        if 3 < sending.allocRetry + 1 then
          { sending with allocRetry := sending.allocRetry + 1, phase := .returned }
        else { sending with allocRetry := sending.allocRetry + 1 }
      else sending
    else if snoopMaxLen < endPosition - sending.startPosition then
      { sending with
        allocRetry := 0, phase := .allocated (sending.startPosition + snoopMaxLen) }
    else { sending with allocRetry := 0, phase := .allocated endPosition }
  else if !cpuGood then { sending with phase := .returned }
  else sending

/-- The codes of a message, which is all zero before they are copied into it. -/
def filled (count : Nat) (copied : List UInt8) : List UInt8 :=
  copied ++ List.replicate (count - copied.length) 0

/-- `send_post_code_to_BMC`, the copy of the codes. -/
def Sending.copy (sending : Sending) (endPosition : Nat) (locked : Bool) : Sending :=
  let count := endPosition - sending.startPosition
  match copySnoopReadBuffer sending.ring (UInt8.ofNat (sending.startPosition % snoopMaxLen)) count
      .specificPostcode locked with
  | none => { sending with phase := .strayed }
  | some copied => { sending with
      phase := .copied endPosition (filled count copied)
      messages := sending.messages ++ [(filled count copied,
        sending.snooped.drop (sending.snooped.length - snoopMaxLen))] }

/-- `send_post_code_to_BMC`, the message. -/
def Sending.send (sending : Sending) (endPosition : Nat) (codes : List UInt8)
    (exchange : Exchange) : Sending := { sending with
  sent := if exchange.transmits then sending.sent ++ codes else sending.sent
  startPosition := if exchange.advances then endPosition else sending.startPosition
  phase := .asleep }

def Sending.snoop (sending : Sending) (code : UInt8) (locked : Bool) : Option Sending :=
  (snoopRead sending.ring code locked).map fun ring => { sending with
    ring
    snooped := sending.snooped ++ [code]
    overran := sending.overran || decide (snoopMaxLen < ring.readNum - sending.startPosition) }

def step (sending : Sending) : SendEvent → Option Sending
  | .snooped code locked => sending.snoop code locked
  | .wake dcOn malloc postComplete cpuGood =>
    match sending.phase with
    | .asleep => some (sending.wake dcOn malloc postComplete cpuGood)
    | _ => none
  | .copy locked =>
    match sending.phase with
    | .allocated endPosition => some (sending.copy endPosition locked)
    | _ => none
  | .send exchange =>
    match sending.phase with
    | .copied endPosition codes => some (sending.send endPosition codes exchange)
    | _ => none

def Sending.start (buffer : Nat → UInt8) : Sending :=
  ⟨⟨buffer, 0⟩, 0, 0, .asleep, [], [], [], false⟩

/-! ## What is claimed -/

/-- The codes that are sent are snooped ones in order, none twice and none for another, all of them
unless the ring overran, and those of each message were in the ring. -/
structure SendsRight (sending : Sending) : Prop where
  order : sending.sent.Sublist sending.snooped
  complete : sending.overran = false → sending.sent = sending.snooped.take sending.startPosition
  inRing : ∀ message ∈ sending.messages, message.1.Sublist message.2
  inside : sending.phase ≠ .strayed

/-- The ring has a place for each code that is snooped and has all codes that are copied, its lock
is had, and what comes of a message is known to the thread. -/
def Timely (sending : Sending) : SendEvent → Prop
  | .snooped _ locked => locked = true ∧ sending.ring.readNum + 1 < 2 ^ 31
  | .wake .. => True
  | .copy locked => locked = true ∧ sending.ring.readNum ≤ sending.startPosition + snoopMaxLen
  | .send exchange => exchange.transmits = exchange.advances

instance Timely.decidable (sending : Sending) : ∀ event, Decidable (Timely sending event)
  | .snooped .. | .copy _ => inferInstanceAs (Decidable (_ ∧ _))
  | .wake .. => .isTrue trivial
  | .send _ => inferInstanceAs (Decidable (_ = _))

/-! ## Runs -/

section Runs

variable {sending next : Sending} {endPosition : Nat} {codes : List UInt8}

/-- What the sender has read is what was snooped. -/
def Has (snooped : List UInt8) (startPosition : Nat) : Phase → Prop
  | .allocated endPosition =>
    startPosition ≤ endPosition ∧ endPosition ≤ snooped.length ∧
      endPosition ≤ startPosition + snoopMaxLen
  | .copied endPosition codes =>
    startPosition ≤ endPosition ∧ endPosition ≤ snooped.length ∧
      codes = (snooped.drop startPosition).take (endPosition - startPosition)
  | .strayed => False
  | _ => True

/-- The ring has the latest codes, and the thread has sent the first ones. -/
structure Tracks (sending : Sending) : Prop where
  counted : sending.ring.readNum = sending.snooped.length
  recent : Recent snoopMaxLen sending.snooped sending.ring.buffer
  behind : sending.startPosition ≤ sending.snooped.length
  sent : sending.sent = sending.snooped.take sending.startPosition
  inRing : ∀ message ∈ sending.messages, message.1.Sublist message.2
  phase : Has sending.snooped sending.startPosition sending.phase

theorem Has.snoop {snooped : List UInt8} {startPosition : Nat} {phase : Phase}
    (has : Has snooped startPosition phase) (code : UInt8) :
    Has (snooped ++ [code]) startPosition phase := by
  have longer : (snooped ++ [code]).length = snooped.length + 1 := by
    rw [length_append, length_singleton]
  cases phase with
  | allocated endPosition =>
    exact ⟨has.1, by rw [longer]; exact Nat.le_succ_of_le has.2.1, has.2.2⟩
  | copied endPosition codes =>
    refine ⟨has.1, by rw [longer]; exact Nat.le_succ_of_le has.2.1, ?_⟩
    have inside := has.2.1
    have before := has.1
    rw [drop_append_of_le_length (by omega), take_append_of_le_length, has.2.2]
    rw [length_drop]
    omega
  | asleep => trivial
  | returned => trivial
  | strayed => exact has

theorem Tracks.snoop (tracks : Tracks sending) {code : UInt8}
    (moved : sending.snoop code true = some next) : Tracks next := by
  unfold Sending.snoop snoopRead at moved
  rw [Bool.not_true, if_neg Bool.false_ne_true] at moved
  split at moved
  · cases moved
    have longer : (sending.snooped ++ [code]).length = sending.snooped.length + 1 := by
      rw [length_append, length_singleton]
    constructor
    · rw [longer, tracks.counted]
    · rw [tracks.counted]
      exact tracks.recent.put code
    · rw [longer]
      exact Nat.le_succ_of_le tracks.behind
    · rw [take_append_of_le_length tracks.behind]
      exact tracks.sent
    · exact tracks.inRing
    · exact tracks.phase.snoop code
  · cases moved

theorem has_allocated {snooped : List UInt8} {startPosition : Nat}
    (first : startPosition ≤ endPosition) (second : endPosition ≤ snooped.length)
    (third : endPosition ≤ startPosition + snoopMaxLen) :
    Has snooped startPosition (.allocated endPosition) :=
  ⟨first, second, third⟩

theorem Tracks.goes (tracks : Tracks sending) (allocRetry : Nat) {phase : Phase}
    (has : Has sending.snooped sending.startPosition phase) :
    Tracks { sending with allocRetry, phase } :=
  ⟨tracks.counted, tracks.recent, tracks.behind, tracks.sent, tracks.inRing, has⟩

theorem Tracks.wake (tracks : Tracks sending) (dcOn malloc postComplete cpuGood : Bool) :
    Tracks (sending.wake dcOn malloc postComplete cpuGood) := by
  have behind := tracks.behind
  unfold Sending.wake
  dsimp only
  split
  · exact tracks.goes _ trivial
  · split
    · split
      · split
        · split
          · exact tracks.goes _ trivial
          · exact tracks.goes _ tracks.phase
        · exact tracks
      · split
        · rename_i more
          rw [tracks.counted] at more
          exact tracks.goes 0 (has_allocated (by omega) (by omega) (by omega))
        · rename_i few
          rw [tracks.counted] at few ⊢
          exact tracks.goes 0 (has_allocated behind (by omega) (by omega))
    · split
      · exact tracks.goes _ trivial
      · exact tracks

theorem Tracks.copied (tracks : Tracks sending)
    (has : Has sending.snooped sending.startPosition (.allocated endPosition))
    (latest : sending.ring.readNum ≤ sending.startPosition + snoopMaxLen) :
    copySnoopReadBuffer sending.ring (UInt8.ofNat (sending.startPosition % snoopMaxLen))
        (endPosition - sending.startPosition : Nat) .specificPostcode true =
      some ((sending.snooped.drop sending.startPosition).take
        (endPosition - sending.startPosition)) := by
  obtain ⟨first, second, third⟩ := has
  rw [tracks.counted] at latest
  have small : sending.startPosition % snoopMaxLen < snoopMaxLen := Nat.mod_lt _ (by decide)
  have place : (UInt8.ofNat (sending.startPosition % snoopMaxLen)).toNat =
      sending.startPosition % snoopMaxLen := by
    rw [UInt8.toNat_ofNat', Nat.mod_eq_of_lt]
    exact Nat.lt_trans small (by decide)
  have window := tracks.recent.window sending.startPosition
    (endPosition - sending.startPosition) latest (by omega)
  rw [copySpecific_eq (by rw [place]; exact Nat.le_of_lt small) (by omega), place, ← window]
  simp only [Nat.mod_add_mod]

theorem Tracks.copy (tracks : Tracks sending)
    (has : Has sending.snooped sending.startPosition (.allocated endPosition))
    (latest : sending.ring.readNum ≤ sending.startPosition + snoopMaxLen) :
    Tracks (sending.copy endPosition true) := by
  have length : ((sending.snooped.drop sending.startPosition).take
      (endPosition - sending.startPosition)).length = endPosition - sending.startPosition := by
    obtain ⟨first, second, -⟩ := has
    rw [length_take, length_drop]
    omega
  unfold Sending.copy
  dsimp only
  rw [tracks.copied has latest]
  dsimp only
  rw [filled, length, Nat.sub_self, replicate_zero, append_nil]
  refine ⟨tracks.counted, tracks.recent, tracks.behind, tracks.sent, ?_, has.1, has.2.1, rfl⟩
  intro message listed
  rcases List.mem_append.mp listed with earlier | last
  · exact tracks.inRing message earlier
  · obtain rfl := List.mem_singleton.mp last
    rw [tracks.counted] at latest
    have near : sending.snooped.length - snoopMaxLen ≤ sending.startPosition := by omega
    dsimp only
    exact (take_sublist _ _).trans (drop_sublist_drop_left _ near)

theorem Tracks.send (tracks : Tracks sending) {exchange : Exchange}
    (has : Has sending.snooped sending.startPosition (.copied endPosition codes))
    (known : exchange.transmits = exchange.advances) :
    Tracks (sending.send endPosition codes exchange) := by
  obtain ⟨first, second, rfl⟩ := has
  unfold Sending.send
  rw [known]
  cases exchange.advances with
  | false =>
    exact ⟨tracks.counted, tracks.recent, tracks.behind, tracks.sent, tracks.inRing, trivial⟩
  | true =>
    refine ⟨tracks.counted, tracks.recent, second, ?_, tracks.inRing, trivial⟩
    dsimp only
    rw [if_pos rfl, if_pos rfl, tracks.sent, ← take_add]
    congr 1
    omega

/-- A timely event keeps the sender's position in step with what was sent. -/
theorem Tracks.step {event : SendEvent} (tracks : Tracks sending) (timely : Timely sending event)
    (moved : step sending event = some next) : Tracks next := by
  cases event with
  | snooped code locked =>
    obtain ⟨rfl, -⟩ := timely
    exact tracks.snoop moved
  | wake dcOn malloc postComplete cpuGood =>
    unfold Snoop.step at moved
    dsimp only at moved
    split at moved
    · cases moved
      exact tracks.wake dcOn malloc postComplete cpuGood
    · cases moved
  | copy locked =>
    obtain ⟨rfl, latest⟩ := timely
    unfold Snoop.step at moved
    dsimp only at moved
    split at moved
    · rename_i endPosition here
      cases moved
      have has := tracks.phase
      rw [here] at has
      exact tracks.copy has latest
    · cases moved
  | send exchange =>
    unfold Snoop.step at moved
    dsimp only at moved
    split at moved
    · rename_i endPosition codes here
      cases moved
      have has := tracks.phase
      rw [here] at has
      exact tracks.send has timely
    · cases moved

theorem tracks_start (buffer : Nat → UInt8) : Tracks (Sending.start buffer) :=
  ⟨rfl, recent_nil _ _, le_rfl, rfl, fun _ listed => absurd listed (by simp [Sending.start]),
    trivial⟩

theorem Tracks.right (tracks : Tracks sending) : SendsRight sending := by
  refine ⟨?_, fun _ => tracks.sent, tracks.inRing, ?_⟩
  · rw [tracks.sent]
    exact take_sublist _ _
  · intro strayed
    have has := tracks.phase
    rw [strayed] at has
    exact has

/-- In every run in which the ring has the codes that are copied and the thread knows what comes of
its messages, the codes are sent in order. -/
theorem sendsRight_run {buffer : Nat → UInt8} {events : List SendEvent} {final : Sending}
    (meets : Meets step Timely (Sending.start buffer) events)
    (ran : run step (Sending.start buffer) events = some final) : SendsRight final :=
  (invariant (fun before timely moved => Tracks.step before timely moved) (tracks_start buffer)
    meets ran).right

def twoCodes : List SendEvent :=
  [.snooped 1 true, .snooped 2 true, .wake true true true true, .copy true, .send (.ipmb .success)]

/-- Two codes, captured and sent. -/
theorem sendsRight_two :
    ∃ final, run step (Sending.start fun _ => 0) twoCodes = some final ∧
      final.sent = [1, 2] ∧ SendsRight final := by
  have meets : Meets step Timely (Sending.start fun _ => 0) twoCodes := by decide +kernel
  have sent : (run step (Sending.start fun _ => 0) twoCodes).map Sending.sent = some [1, 2] := by
    decide +kernel
  obtain ⟨final, ran, both⟩ := Option.map_eq_some_iff.mp sent
  exact ⟨final, ran, both, sendsRight_run meets ran⟩

def overrun : List SendEvent :=
  .snooped 1 true :: List.replicate 243 (.snooped 0 true) ++
    [.snooped 2 true, .wake true true true true, .copy true, .send (.ipmb .success)]

/-- The last code is sent in the place of the first one. -/
theorem overrun_not_sendsRight :
    ∃ final, run step (Sending.start fun _ => 0) overrun = some final ∧ ¬ SendsRight final := by
  have wrong : (run step (Sending.start fun _ => 0) overrun).map
      (fun final => final.sent.isSublist final.snooped) = some false := by decide +kernel
  obtain ⟨final, ran, apart⟩ := Option.map_eq_some_iff.mp wrong
  refine ⟨final, ran, fun right => ?_⟩
  rw [List.isSublist_iff_sublist.mpr right.order] at apart
  exact Bool.noConfusion apart

end Runs

end OpenBic.Snoop
