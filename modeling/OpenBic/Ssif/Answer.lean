import OpenBic.Ssif.Write
import Mathlib.Data.List.Induction

/-!
# Whose response the host reads

The response buffer, its semaphore and the driver's read buffer outlive the request they were
filled for. The host reads the response to the request it wrote last as long as no wait for a
response begins with the semaphore already given, no handler answers another request while one
is waited for or offered, and the host asks for a block only when the device offers one for that
request.
-/

namespace OpenBic.Ssif

open Library.Machine

/-- The host may read a response. -/
def SsifDev.Offers (d : SsifDev) : Prop :=
  d.curStatus = .waitForRdStart ∨ d.curStatus = .waitForRdNext

instance (d : SsifDev) : Decidable d.Offers := by
  unfold SsifDev.Offers
  infer_instance

/-- The read that comes next. -/
def SsifDev.Expects (d : SsifDev) (cmd : SsifCmd) : Prop :=
  d.curStatus = .waitForRdStart ∧ cmd = .rdStart ∨ d.curStatus = .waitForRdNext ∧ cmd = .rdNext

instance (d : SsifDev) (cmd : SsifCmd) : Decidable (d.Expects cmd) := by
  unfold SsifDev.Expects
  infer_instance

/-- The number of the last request that the task has taken from the queue. -/
def Channel.lastTaken (c : Channel) : Option Nat := (tally c.taken).2

/-- `ssif_data_handle` comes to its wait for a request with no response to it yet. -/
def Platform.leavesOpen (p : Platform) (r : Request) : Bool :=
  p.requestMsgToBicFromHost r.netfn r.cmd &&
    match p.smbrCmdHandler with
    | some handler => r.netfn ≠ netfnDcmiReq || (handler r).isNone
    | none => true

/-- The host reads a block of the response to the request it wrote last, or nothing. -/
def Channel.ReadsOwn (c : Channel) : Prop := c.rdMsg = [] ∨ c.rdMsgOf = c.lastWritten

instance (c : Channel) : Decidable c.ReadsOwn := by
  unfold Channel.ReadsOwn
  infer_instance

/-- The task waits for no other request. -/
def Channel.AwaitsOnly (c : Channel) (number : Nat) : Prop :=
  match c.task with
  | .waiting other => other = number
  | _ => True

instance (c : Channel) (number : Nat) : Decidable (c.AwaitsOnly number) := by
  unfold Channel.AwaitsOnly
  split <;> infer_instance

/-- The semaphore is not given when a message completes a request that is then waited for with
no response to it yet. -/
def SsifDev.WaitsClear (p : Platform) (d : SsifDev) (rdata : Frame) : Prop :=
  match d.assemble p rdata with
  | .ok (next, true) => p.leavesOpen next.currentIpmiMsg.request = true → d.rspBuffSem = false
  | _ => True

instance (p : Platform) (d : SsifDev) (rdata : Frame) : Decidable (d.WaitsClear p rdata) := by
  unfold SsifDev.WaitsClear
  split <;> infer_instance

/-- The condition: what one request is about does not meet the next. -/
def Apart (p : Platform) (c : Channel) : Event → Prop
  | .receive _ => ∀ frame ∈ c.queue.head?, c.dev.WaitsClear p (frame.take ssifBuffSize)
  | .bridged none => c.dev.rspBuffSem = false
  | .respond number _ => c.AwaitsOnly number ∧ ¬ c.dev.Offers
  | .read cmd => if c.dev.Expects cmd then c.lastTaken = c.lastWritten else c.ReadsOwn
  | _ => True

instance (p : Platform) (c : Channel) : ∀ event, Decidable (Apart p c event)
  | .receive _ => inferInstanceAs (Decidable (∀ frame ∈ c.queue.head?, _))
  | .bridged none => inferInstanceAs (Decidable (c.dev.rspBuffSem = false))
  | .respond number _ => inferInstanceAs (Decidable (c.AwaitsOnly number ∧ ¬ c.dev.Offers))
  | .read cmd => inferInstanceAs (Decidable (if c.dev.Expects cmd then _ else _))
  | .write _ _ | .receiveFailed _ | .bridged (some _) | .work _ | .take _ | .timeOut
  | .expire _ => instDecidableTrue

theorem tally_append_singleton (frames : List Frame) (frame : Frame) :
    tally (frames ++ [frame]) =
      ((tally frames).1 + 1,
        if completes frame then some (tally frames).1 else (tally frames).2) := by
  simp [tally, List.foldl_append]

theorem tally_count (frames : List Frame) : (tally frames).1 = frames.length := by
  induction frames using List.reverseRecOn with
  | nil => rfl
  | append_singleton frames frame ih =>
    rw [tally_append_singleton, ih, List.length_append]
    rfl

theorem lastTaken_of_completes {frames : List Frame} {frame : Frame}
    (complete : completes frame = true) :
    (tally (frames ++ [frame])).2 = some frames.length := by
  rw [tally_append_singleton, if_pos complete, tally_count]

theorem Accepted.apart {d next : SsifDev} {rdata : Frame} {complete : Bool}
    (outcome : Accepted d rdata next complete) :
    ¬ next.Offers ∧ next.rspBuffSem = d.rspBuffSem ∧ next.rspBufLen = d.rspBufLen ∧
      (complete = true → completes rdata = true) := by
  cases outcome with
  | single command _ | start command _ | middle command _ _ | last command _ _ =>
    simp [SsifDev.Offers, completes, command]

theorem SsifDev.collectData_of_expects (p : Platform) {d : SsifDev} {cmd : SsifCmd}
    (expects : d.Expects cmd) (ready : d.rspBufLen ≠ 0) :
    ∃ next message, d.collectData p cmd = (next, some message) ∧ message ≠ [] ∧
      next.rspBufLen = d.rspBufLen := by
  have framed : ∀ block, p.framed cmd block ≠ [] := by
    intro block
    unfold Platform.framed
    split <;> simp
  rcases expects with ⟨status, rfl⟩ | ⟨status, rfl⟩
  · by_cases several : ssifMaxIpmiDataSize < d.rspBufLen <;>
      simp [SsifDev.collectData, SsifDev.statusCheck, SsifDev.collect, status, ready, several,
        framed, SsifDev.errorRecord, SsifDev.reset]
  · by_cases several : ssifMaxIpmiDataSize - 1 < d.remainDataLen <;>
      simp [SsifDev.collectData, SsifDev.statusCheck, SsifDev.collect, status, ready, several,
        framed, SsifDev.errorRecord, SsifDev.reset]

theorem SsifDev.collectData_of_not_expects (p : Platform) {d : SsifDev} {cmd : SsifCmd}
    (reading : cmd = .rdStart ∨ cmd = .rdNext ∨ cmd = .rdRetry) (refused : ¬ d.Expects cmd) :
    ∃ next, d.collectData p cmd = (next, none) ∧ next.rspBufLen = d.rspBufLen ∧ ¬ next.Offers := by
  rcases reading with rfl | rfl | rfl
  · have status : d.curStatus ≠ .waitForRdStart := fun same => refused (.inl ⟨same, rfl⟩)
    simp [SsifDev.collectData, SsifDev.statusCheck, status, SsifDev.errorRecord, SsifDev.reset,
      SsifDev.Offers]
  · have status : d.curStatus ≠ .waitForRdNext := fun same => refused (.inr ⟨same, rfl⟩)
    simp [SsifDev.collectData, SsifDev.statusCheck, status, SsifDev.errorRecord, SsifDev.reset,
      SsifDev.Offers]
  · simp [SsifDev.collectData, SsifDev.reset, SsifDev.Offers]

/-- What the buffers hold is of the request that is waited for or offered. -/
structure Channel.Answers (c : Channel) : Prop where
  bridging : ∀ number, c.task = .bridging number → c.lastTaken = some number ∧ ¬ c.dev.Offers
  /-- A request waited for is the last one taken, nothing is offered, and a given semaphore is
  its own. -/
  waiting : ∀ number, c.task = .waiting number → c.lastTaken = some number ∧ ¬ c.dev.Offers ∧
    (c.dev.rspBuffSem = true → c.rspOf = some number)
  offered : c.dev.Offers → c.rspOf = c.lastTaken ∧ c.rspOf ≠ none
  ready : c.rspOf ≠ none → c.dev.rspBufLen ≠ 0

theorem Channel.Answers.congr {c next : Channel} (before : c.Answers) (task : next.task = c.task)
    (taken : next.taken = c.taken) (rspOf : next.rspOf = c.rspOf)
    (sem : next.dev.rspBuffSem = c.dev.rspBuffSem)
    (length : next.dev.rspBufLen = c.dev.rspBufLen) (offers : next.dev.Offers → c.dev.Offers) :
    next.Answers := by
  have last : next.lastTaken = c.lastTaken := congrArg (fun frames => (tally frames).2) taken
  constructor
  · rw [task, last]
    exact fun number sent => ⟨(before.bridging number sent).1,
      fun offered => (before.bridging number sent).2 (offers offered)⟩
  · rw [task, last, sem, rspOf]
    exact fun number waits => ⟨(before.waiting number waits).1,
      fun offered => (before.waiting number waits).2.1 (offers offered),
      (before.waiting number waits).2.2⟩
  · rw [last, rspOf]
    exact fun offered => before.offered (offers offered)
  · rw [rspOf, length]
    exact before.ready

theorem SsifDev.setData_ready (d : SsifDev) (r : Response) : (d.setData r).rspBufLen ≠ 0 := by
  have fits : r.data.length ≤ 527 := r.fits
  simp only [SsifDev.setData]
  omega

/-- What handing a request over makes of the response side. -/
theorem Channel.sendIpmi_apart (p : Platform) (c : Channel) (number : Nat) :
    let next := c.sendIpmi p number
    next.task = .bridging number ∧ next.rspOf = c.rspOf ∧
        next.dev.rspBufLen = c.dev.rspBufLen ∨
      next.task = .waiting number ∧
        (next.rspOf = some number ∧ next.dev.rspBufLen ≠ 0 ∨
          p.leavesOpen c.dev.currentIpmiMsg.request = true ∧ next.rspOf = c.rspOf ∧
            next.dev.rspBuffSem = c.dev.rspBuffSem ∧ next.dev.rspBufLen = c.dev.rspBufLen) := by
  unfold Channel.sendIpmi Platform.leavesOpen
  dsimp only
  split
  · rename_i toBic
    split
    · rename_i handler sbmr
      split
      · split
        · exact .inr ⟨rfl, .inl ⟨rfl, SsifDev.setData_ready _ _⟩⟩
        · rename_i refused
          exact .inr ⟨rfl, .inr ⟨by simp [toBic, sbmr, refused], rfl, rfl, rfl⟩⟩
      · rename_i other
        exact .inr ⟨rfl, .inr ⟨by simp [toBic, sbmr, other], rfl, rfl, rfl⟩⟩
    · rename_i plain
      exact .inr ⟨rfl, .inr ⟨by simp [toBic, plain], rfl, rfl, rfl⟩⟩
  · split
    · exact .inr ⟨rfl, .inl ⟨rfl, SsifDev.setData_ready _ _⟩⟩
    · exact .inl ⟨rfl, rfl, rfl⟩

/-- The parts of a channel that a message taken from the queue leaves to the task. -/
theorem Channel.Answers.handle {p : Platform} {c : Channel} (before : c.Answers)
    (idle : c.task = .idle) {frame : Frame} (rest : List Frame) (addrSet : Bool)
    (apart : c.dev.WaitsClear p (frame.take ssifBuffSize)) :
    ({ c with queue := rest, taken := c.taken ++ [frame] }.handle p frame addrSet).Answers := by
  have quiet : ∀ dev : SsifDev, ¬ dev.Offers → dev.rspBufLen = c.dev.rspBufLen →
      ({ c with dev := dev, queue := rest, taken := c.taken ++ [frame] } : Channel).Answers := by
    intro dev silent length
    refine ⟨fun number sent => ?_, fun number waits => ?_, fun offered => absurd offered silent,
      fun found => ?_⟩
    · simp [idle] at sent
    · simp [idle] at waits
    · exact fun empty => before.ready found (length.symm.trans empty)
  unfold Channel.handle
  split
  · exact quiet _ (by simp [SsifDev.Offers]) (by simp [SsifDev.errorRecord])
  · rename_i dev complete ok
    have outcome : Accepted c.dev (frame.take ssifBuffSize) dev complete := accepted ok
    obtain ⟨silent, sem, length, completing⟩ := outcome.apart
    rw [outcome.frame_eq] at completing
    split
    · rename_i both
      have complete' : complete = true := both.2
      subst complete'
      rw [SsifDev.WaitsClear, ok] at apart
      let c' : Channel := { c with dev := dev, queue := rest, taken := c.taken ++ [frame] }
      have sends := c'.sendIpmi_sends p (c'.taken.length - 1)
      have number : c'.taken.length - 1 = c.taken.length := by simp [c']
      have last : (c'.sendIpmi p (c'.taken.length - 1)).lastTaken = some c.taken.length := by
        rw [Channel.lastTaken, sends.taken]
        exact lastTaken_of_completes (completing rfl)
      have quietly : ¬ (c'.sendIpmi p (c'.taken.length - 1)).dev.Offers := by
        rw [SsifDev.Offers, sends.status]
        exact silent
      have result := c'.sendIpmi_apart p (c'.taken.length - 1)
      change (c'.sendIpmi p (c'.taken.length - 1)).Answers
      rw [number] at last quietly result ⊢
      rcases result with ⟨task, rspOf, length'⟩ | ⟨task, own | ⟨opened, rspOf, sem', length'⟩⟩
      · refine ⟨fun other sent => ?_, fun other waits => ?_,
          fun offered => absurd offered quietly, fun found => ?_⟩
        · obtain rfl := Task.bridging.inj (task.symm.trans sent)
          exact ⟨last, quietly⟩
        · cases task.symm.trans waits
        · rw [length', show c'.dev.rspBufLen = c.dev.rspBufLen from length]
          exact before.ready (rspOf ▸ found)
      · refine ⟨fun other sent => ?_, fun other waits => ?_,
          fun offered => absurd offered quietly, fun _ => own.2⟩
        · cases task.symm.trans sent
        · obtain rfl := Task.waiting.inj (task.symm.trans waits)
          exact ⟨last, quietly, fun _ => own.1⟩
      · refine ⟨fun other sent => ?_, fun other waits => ?_,
          fun offered => absurd offered quietly, fun found => ?_⟩
        · cases task.symm.trans sent
        · obtain rfl := Task.waiting.inj (task.symm.trans waits)
          refine ⟨last, quietly, fun given => ?_⟩
          have clear : c.dev.rspBuffSem = false := apart opened
          rw [sem', show c'.dev.rspBuffSem = c.dev.rspBuffSem from sem, clear] at given
          cases given
        · rw [length', show c'.dev.rspBufLen = c.dev.rspBufLen from length]
          exact before.ready (rspOf ▸ found)
    · exact quiet dev silent length

theorem Channel.Answers.respond {c : Channel} (before : c.Answers) {number : Nat}
    (response : Response) (unanswered : List Nat) (awaited : c.AwaitsOnly number)
    (silent : ¬ c.dev.Offers) :
    { c.setData number response with unanswered := unanswered }.Answers := by
  refine ⟨before.bridging, fun other waits => ?_, fun offered => absurd offered silent,
    fun _ => SsifDev.setData_ready _ _⟩
  have task : c.task = .waiting other := waits
  have same : other = number := by simpa [Channel.AwaitsOnly, task] using awaited
  exact ⟨(before.waiting other task).1, (before.waiting other task).2.1,
    fun _ => congrArg some same.symm⟩

theorem Channel.Answers.rest {c : Channel} (before : c.Answers) {dev : SsifDev}
    (silent : ¬ dev.Offers) (length : dev.rspBufLen = c.dev.rspBufLen) :
    { c with dev := dev, task := .idle }.Answers := by
  refine ⟨fun _ sent => ?_, fun _ waits => ?_, fun offered => absurd offered silent,
    fun found => ?_⟩
  · cases sent
  · cases waits
  · exact fun empty => before.ready found (length.symm.trans empty)

/-- An event apart from other requests keeps each answer with its request. -/
theorem Channel.Answers.step {p : Platform} {c next : Channel} {event : Event}
    (before : c.Answers) (apart : Apart p c event) (moved : c.step p event = some next) :
    next.Answers := by
  obtain ⟨-, moved⟩ := Option.ite_none_right_eq_some.mp moved
  cases event with
  | write frame addrSet =>
    obtain ⟨-, reached⟩ := Option.ite_none_right_eq_some.mp moved
    cases reached
    refine before.congr rfl rfl rfl ?_ ?_ ?_ <;> dsimp only <;> split <;>
      simp [SsifDev.Offers]
  | read cmd =>
    obtain ⟨⟨-, reading⟩, moved⟩ := Option.ite_none_right_eq_some.mp moved
    have sem := (c.dev.collectData_curStatus p reading).2.2
    by_cases expects : c.dev.Expects cmd
    · have offers : c.dev.Offers := by
        rcases expects with ⟨status, -⟩ | ⟨status, -⟩
        · exact .inl status
        · exact .inr status
      have ready := before.ready (before.offered offers).2
      obtain ⟨dev, message, collected, -, length⟩ := SsifDev.collectData_of_expects p expects ready
      rw [collected] at moved sem
      cases moved
      exact before.congr rfl rfl rfl sem length fun _ => offers
    · obtain ⟨dev, collected, length, silent⟩ :=
        SsifDev.collectData_of_not_expects p reading expects
      rw [collected] at moved sem
      cases moved
      exact before.congr rfl rfl rfl sem length fun offered => absurd offered silent
  | receive addrSet =>
    simp only [Channel.move] at moved
    split at moved
    · rename_i frame rest idle queue
      cases moved
      exact before.handle idle rest addrSet (apart frame (by simp [queue]))
    · cases moved
  | receiveFailed addrSet =>
    obtain ⟨idle, reached⟩ := Option.ite_none_right_eq_some.mp moved
    cases reached
    exact before.congr rfl rfl rfl (by simp [SsifDev.errorRecord])
      (by simp [SsifDev.errorRecord]) (by simp [SsifDev.Offers])
  | bridged response =>
    simp only [Channel.move] at moved
    split at moved
    · rename_i number _ task _
      cases moved
      obtain ⟨last, silent⟩ := before.bridging number task
      refine ⟨fun _ sent => ?_, fun other waits => ?_, fun offered => absurd offered silent,
        fun _ => SsifDev.setData_ready _ _⟩
      · cases sent
      · obtain rfl := Task.waiting.inj waits
        exact ⟨last, silent, fun _ => rfl⟩
    · rename_i number task _
      cases moved
      obtain ⟨last, silent⟩ := before.bridging number task
      have clear : c.dev.rspBuffSem = false := apart
      refine ⟨fun _ sent => ?_, fun other waits => ?_, fun offered => absurd offered silent,
        before.ready⟩
      · cases sent
      · obtain rfl := Task.waiting.inj waits
        exact ⟨last, silent, fun given => absurd (clear.symm.trans given) (by simp)⟩
    · cases moved
  | work request =>
    obtain ⟨-, reached⟩ := Option.ite_none_right_eq_some.mp moved
    cases reached
    exact before.congr rfl rfl rfl rfl rfl id
  | respond number response =>
    obtain ⟨-, reached⟩ := Option.ite_none_right_eq_some.mp moved
    cases reached
    exact before.respond response _ apart.1 apart.2
  | take addrSet =>
    simp only [Channel.move] at moved
    split at moved
    · rename_i number task given
      cases moved
      obtain ⟨last, silent, own⟩ := before.waiting number task
      have mine := own given
      cases addrSet with
      | true =>
        refine ⟨fun _ sent => ?_, fun _ waits => ?_, fun _ => ⟨mine.trans last.symm, ?_⟩,
          fun found => ?_⟩
        · cases sent
        · cases waits
        · simp [mine]
        · have ready := before.ready found
          simpa [SsifDev.errorRecord] using ready
      | false =>
        refine before.rest (by simp [SsifDev.Offers]) ?_
        simp [SsifDev.reset]
    · cases moved
  | timeOut =>
    simp only [Channel.move] at moved
    split at moved
    · cases moved
      exact before.rest (by simp [SsifDev.Offers]) rfl
    · cases moved
  | expire addrSet =>
    obtain ⟨-, reached⟩ := Option.ite_none_right_eq_some.mp moved
    cases reached
    exact before.congr rfl rfl rfl (by simp [SsifDev.reset, SsifDev.errorRecord])
      (by simp [SsifDev.reset, SsifDev.errorRecord]) (by simp [SsifDev.Offers])

theorem Channel.Answers.readsOwn_iff {p : Platform} {c next : Channel} {cmd : SsifCmd}
    (before : c.Answers) (moved : c.step p (.read cmd) = some next) :
    next.ReadsOwn ↔ Apart p c (.read cmd) := by
  obtain ⟨-, moved⟩ := Option.ite_none_right_eq_some.mp moved
  obtain ⟨⟨-, reading⟩, moved⟩ := Option.ite_none_right_eq_some.mp moved
  by_cases expects : c.dev.Expects cmd
  · have offers : c.dev.Offers := by
      rcases expects with ⟨status, -⟩ | ⟨status, -⟩
      · exact .inl status
      · exact .inr status
    obtain ⟨own, found⟩ := before.offered offers
    obtain ⟨dev, message, collected, something, -⟩ :=
      SsifDev.collectData_of_expects p expects (before.ready found)
    rw [collected] at moved
    cases moved
    simp only [Apart, if_pos expects, ← own]
    exact or_iff_right something
  · obtain ⟨dev, collected, -, -⟩ := SsifDev.collectData_of_not_expects p reading expects
    rw [collected] at moved
    cases moved
    simp only [Apart, if_neg expects]
    rfl

/-- In every run in which the responses are kept apart, each read of the host gets a block of the
response to the request it wrote last, or nothing; the next read does so exactly when the block
it asks for is offered for that request or was left over from it. -/
theorem readsOwn_run {p : Platform} {events : List Event} {c : Channel}
    (meets : Meets (Channel.step p) (Apart p) .init events)
    (ran : run (Channel.step p) .init events = some c) {cmd : SsifCmd} {next : Channel}
    (moved : c.step p (.read cmd) = some next) : next.ReadsOwn ↔ Apart p c (.read cmd) := by
  have kept : ∀ {state event next}, state.Answers → Apart p state event →
      Channel.step p state event = some next → next.Answers :=
    fun before apart moved => before.step apart moved
  have initial : Channel.init.Answers := by
    refine ⟨fun _ sent => ?_, fun _ waits => ?_, fun offered => ?_, fun found => ?_⟩
    · cases sent
    · cases waits
    · rcases offered with status | status <;> cases status
    · exact absurd rfl found
  exact (invariant kept initial meets ran).readsOwn_iff moved

def emptyResponse (netfn cmd : UInt8) : Response := ⟨netfn, cmd, 0x00, [], Nat.zero_le _⟩

def answeredRequest : List Event :=
  [.write [0x02, 0x02, 0x18, 0x01] true, .receive true, .respond 0 (emptyResponse 0x1C 0x01),
    .take true]

/-- A request that is answered, and read. -/
theorem readsOwn_run_answered : ∃ c next,
    run (Channel.step handlerPlatform) .init answeredRequest = some c ∧
      c.step handlerPlatform (.read .rdStart) = some next ∧ next.ReadsOwn ∧
      next.rdMsg = [0x03, 0x1C, 0x01, 0x00] := by
  have reached : ∃ c ∈ run (Channel.step handlerPlatform) .init answeredRequest,
      ∃ next ∈ c.step handlerPlatform (.read .rdStart),
        next.rdMsg = [0x03, 0x1C, 0x01, 0x00] ∧ Apart handlerPlatform c (.read .rdStart) := by
    decide +kernel
  obtain ⟨c, ran, next, moved, message, apart⟩ := reached
  have meets : Meets (Channel.step handlerPlatform) (Apart handlerPlatform) .init
      answeredRequest := by
    decide +kernel
  exact ⟨c, next, ran, moved, (readsOwn_run meets ran moved).mpr apart, message⟩

/-- The answer to a request that expired is read by the next one, whether it comes late or stands
from before. -/
theorem lateResponse_readByNext :
    (∃ c ∈ run (Channel.step handlerPlatform) .init
      [.write [0x02, 0x02, 0x18, 0x01] true, .receive true, .timeOut, .expire true,
        .respond 0 (emptyResponse 0x1C 0x01), .write [0x02, 0x02, 0x18, 0x04] true, .receive true,
        .take true, .read .rdStart],
      c.rdMsg = [0x03, 0x1C, 0x01, 0x00] ∧ c.rdMsgOf = some 0 ∧ c.lastWritten = some 1 ∧
        ¬ c.ReadsOwn) ∧
    (∃ c ∈ run (Channel.step handlerPlatform) .init
      (answeredRequest ++ [.read .rdStart, .write [0x02, 0x02, 0x18, 0x04] true, .receive true,
        .timeOut, .expire true, .read .rdStart]),
      c.rdMsg = [0x03, 0x1C, 0x01, 0x00] ∧ c.rdMsgOf = some 0 ∧ c.lastWritten = some 1 ∧
        ¬ c.ReadsOwn) := by
  decide +kernel

end OpenBic.Ssif
