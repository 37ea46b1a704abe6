import OpenBic.Ipmi.CmdHandle
import OpenBic.Library.Machine

/-!
# The FRB2 watchdog timer

`APP_SET_WATCHDOG_TIMER`, `APP_RESET_WATCHDOG_TIMER` and `APP_GET_WATCHDOG_TIMER` of `app_handler.c`,
with the thread that counts down. The countdown is in ticks of 100 ms; the thread sleeps a hundred of
them and takes them off at once.
-/

namespace OpenBic.Watchdog

open List Library.Machine OpenBic.Ipmi

/-! ## The code -/

def frb2WdtDelayMs : Nat := 10 * 1000

def delayTicks : Nat := frb2WdtDelayMs / 100

/-- The thread, as `frb2_wdt_tid` and `k_thread_state_str` show it. -/
inductive Thread where
  /-- `frb2_wdt_tid` is `NULL`. -/
  | absent
  | created (countdownValue : UInt16)
  /-- It has its `timer` and has slept some ticks. -/
  | asleep (timer : UInt8) (slept : Nat)
  | dead
deriving DecidableEq

def Thread.alive : Thread → Bool
  | .created _ => true
  | .asleep _ _ => true
  | _ => false

@[simp]
theorem Thread.alive_created (countdownValue : UInt16) : (created countdownValue).alive = true :=
  rfl

@[simp]
theorem Thread.alive_asleep (timer : UInt8) (slept : Nat) : (asleep timer slept).alive = true :=
  rfl

/-- The variables of the watchdog. -/
structure Wdt where
  timerUse : UInt8
  timerAction : UInt8
  preTimeoutInSec : UInt8
  timerUseExpireFlagsClear : UInt8
  timerUseExpireFlags : UInt8
  initCountdownValueLsb : UInt8
  initCountdownValueMsb : UInt8
  presentCountdownValue : UInt16
  setCountdownValue : UInt16
  isWdtSet : Bool
  thread : Thread

/-- A call of `frb2_wdt_timer_action`. -/
structure TimerAction where
  action : UInt8
  timer : UInt8

/-- `frb2_wdt_handler` at the head of its loop: it goes to sleep, or the countdown is over. -/
def Wdt.countDown (wdt : Wdt) (timer : UInt8) : Wdt × Option TimerAction :=
  if 0 < wdt.presentCountdownValue then ({ wdt with thread := .asleep timer 0 }, none)
  else ({ wdt with
      timerUseExpireFlags := wdt.timerUseExpireFlags ||| (1 <<< (wdt.timerUse &&& 0x07))
      thread := .dead }, some ⟨wdt.timerAction, timer⟩)

/-- `frb2_wdt_handler` up to its loop. -/
def Wdt.begin (wdt : Wdt) (countdownValue : UInt16) : Wdt × Option TimerAction :=
  Wdt.countDown { wdt with presentCountdownValue := countdownValue } (wdt.timerUse &&& 0x07)

/-- `frb2_wdt_handler` after a sleep. -/
def Wdt.wake (wdt : Wdt) (timer : UInt8) : Wdt × Option TimerAction :=
  Wdt.countDown { wdt with presentCountdownValue :=
    if wdt.presentCountdownValue < 100 then 0 else wdt.presentCountdownValue - 100 } timer

def Wdt.tick (wdt : Wdt) : Wdt × Option TimerAction :=
  match wdt.thread with
  | .asleep timer slept =>
    if slept + 1 < delayTicks then ({ wdt with thread := .asleep timer (slept + 1) }, none)
    else wdt.wake timer
  | _ => (wdt, none)

/-- `init_frb2_wdt_thread`. The countdown is passed as an `int16_t` and then as a pointer, and its
sixteen bits stay as they are. -/
def Wdt.initFrb2WdtThread (wdt : Wdt) (initCountdownValue : UInt16) : Wdt :=
  if wdt.thread.alive then { wdt with presentCountdownValue := wdt.setCountdownValue }
  else { wdt with thread := .created initCountdownValue }

def Wdt.abortFrb2WdtThread (wdt : Wdt) : Wdt :=
  if wdt.thread.alive then { wdt with
    thread := .absent
    setCountdownValue := 0
    presentCountdownValue := 0
    isWdtSet := false }
  else wdt

def emptyResponse (msg : HandlerMsg) (completionCode : CompletionCode) : HandlerMsg :=
  { msg with dataLen := 0, completionCode }

def appResetWatchdogTimer (wdt : Wdt) (msg : HandlerMsg) : Wdt × HandlerMsg :=
  if wdt.isWdtSet then
    (wdt.initFrb2WdtThread wdt.setCountdownValue, emptyResponse msg .success)
  else (wdt, emptyResponse msg .invalidParam)

def Wdt.parse (wdt : Wdt) (msg : HandlerMsg) : Wdt := { wdt with
  timerUse := msg.data 0
  timerAction := msg.data 1
  preTimeoutInSec := msg.data 2
  timerUseExpireFlagsClear := msg.data 3
  initCountdownValueLsb := msg.data 4
  initCountdownValueMsb := msg.data 5
  timerUseExpireFlags := wdt.timerUseExpireFlags &&& ~~~(msg.data 3)
  setCountdownValue := UInt16.ofNat (msg.word 4) }

/-- `APP_SET_WATCHDOG_TIMER`. The length of the request is not looked at. -/
def appSetWatchdogTimer (wdt : Wdt) (msg : HandlerMsg) : Wdt × HandlerMsg :=
  let parsed := wdt.parse msg
  let set :=
    if parsed.thread.alive then { parsed.abortFrb2WdtThread with isWdtSet := false }
    else { parsed with presentCountdownValue := parsed.setCountdownValue, isWdtSet := true }
  (set, emptyResponse msg .success)

def appGetWatchdogTimer (wdt : Wdt) (msg : HandlerMsg) : HandlerMsg :=
  if msg.dataLen ≠ 0 then msg.complete .invalidLength
  else
    { msg.copied [if wdt.thread.alive then wdt.timerUse ||| 0x40 else wdt.timerUse,
        wdt.timerAction, wdt.preTimeoutInSec, wdt.timerUseExpireFlags,
        wdt.initCountdownValueLsb, wdt.initCountdownValueMsb,
        UInt8.ofNat wdt.presentCountdownValue.toNat,
        UInt8.ofNat (wdt.presentCountdownValue.toNat / 256)] with
      dataLen := 8
      completionCode := .success }

/-! ## What is claimed -/

/-- What a Set gives. -/
structure Given where
  use : UInt8
  action : UInt8
  countdown : Nat

def Given.of (request : List UInt8) : Given where
  use := request.getD 0 0 &&& 0x07
  action := request.getD 1 0
  countdown := (request.getD 5 0).toNat * 256 + (request.getD 4 0).toNat

/-- The watchdog, with what was asked of it. -/
structure Watched where
  wdt : Wdt
  given : Option Given
  running : Bool
  elapsed : Nat

def Watched.start : Watched := ⟨⟨0, 0, 0, 0, 0, 0, 0, 0, 0, false, .absent⟩, none, false, 0⟩

/-- The commands, the begin of the thread, and a tick of its sleep. -/
inductive WatchEvent where
  | set (msg : HandlerMsg)
  | reset (msg : HandlerMsg)
  | get (msg : HandlerMsg)
  | begin
  | tick

def Watched.later (watched : Watched) : Nat :=
  if watched.running then watched.elapsed + 1 else watched.elapsed

def Watched.ran (watched : Watched) (elapsed : Nat) (after : Wdt × Option TimerAction) : Watched where
  wdt := after.1
  given := watched.given
  running := watched.running && after.2.isNone
  elapsed := elapsed

def step (watched : Watched) : WatchEvent → Option Watched
  | .set msg =>
    some ⟨(appSetWatchdogTimer watched.wdt msg).1, some (.of msg.bytes), false, 0⟩
  | .reset msg =>
    let after := (appResetWatchdogTimer watched.wdt msg).1
    match watched.given with
    | some given => some ⟨after, some given, true, 0⟩
    | none => some { watched with wdt := after }
  | .get _ => some watched
  | .begin =>
    match watched.wdt.thread with
    | .created countdownValue =>
      some (watched.ran watched.elapsed (watched.wdt.begin countdownValue))
    | _ => none
  | .tick => some (watched.ran watched.later watched.wdt.tick)

/-- The action runs only when the countdown of the latest Set is over, with the use and the action
of this Set. -/
def ActsRight (watched : Watched) (elapsed : Nat) (called : Option TimerAction) : Prop :=
  ∀ action ∈ called, watched.running = true ∧ ∃ given ∈ watched.given,
    given.countdown ≤ elapsed ∧ action = ⟨given.action, given.use⟩

/-- The timer counts down from a value. -/
def StartsFrom (wdt : Wdt) (countdown : Nat) : Prop :=
  match wdt.thread with
  | .created countdownValue => countdownValue.toNat = countdown
  | .asleep _ _ => wdt.presentCountdownValue.toNat = countdown
  | _ => False

def Watched.remaining (watched : Watched) : Nat :=
  ((watched.given.map Given.countdown).getD 0) - watched.elapsed

/-- An answer reports what remains and whether the countdown runs. -/
structure Reports (watched : Watched) (answer : HandlerMsg) : Prop where
  success : answer.completionCode = .success ∧ answer.dataLen = 8
  running : (answer.data 0 &&& 0x40 ≠ 0) ↔ watched.running = true
  remaining : answer.word 6 = watched.remaining

/-- What is claimed of the next event. -/
def Right (watched : Watched) : WatchEvent → Prop
  | .set msg =>
    (appSetWatchdogTimer watched.wdt msg).2.completionCode ≠ .success →
      (appSetWatchdogTimer watched.wdt msg).1 = watched.wdt
  | .reset msg => ∀ given ∈ watched.given,
    (appResetWatchdogTimer watched.wdt msg).2.completionCode = .success ∧
      StartsFrom (appResetWatchdogTimer watched.wdt msg).1 given.countdown
  | .get msg => msg.dataLen = 0 → Reports watched (appGetWatchdogTimer watched.wdt msg)
  | .begin => ∀ countdownValue, watched.wdt.thread = .created countdownValue →
    ActsRight watched watched.elapsed (watched.wdt.begin countdownValue).2
  | .tick => ActsRight watched watched.later watched.wdt.tick.2

/-- The counter is what remains, and the running state can be told from the timer use. -/
def Reportable (watched : Watched) : Prop :=
  match watched.wdt.thread with
  | .created countdownValue => watched.wdt.presentCountdownValue = countdownValue
  | .asleep _ _ => watched.elapsed % delayTicks = 0
  | _ => watched.wdt.timerUse &&& 0x40 = 0

/-- What is left of the sleep is not less than the last part of the countdown. -/
def Restartable (wdt : Wdt) : Prop :=
  match wdt.thread with
  | .asleep _ slept => (wdt.setCountdownValue.toNat - 1) % delayTicks + slept < delayTicks
  | _ => True

/-- A Set is complete and comes while no countdown runs, a Reset does not cut the last part of the
countdown short, a Get comes when the counter is what remains, and a thread that is created runs
within the tick. -/
def Orderly (watched : Watched) : WatchEvent → Prop
  | .set msg => watched.wdt.thread.alive = false ∧ 6 ≤ msg.dataLen
  | .reset _ => Restartable watched.wdt
  | .get msg => msg.dataLen = 0 → Reportable watched
  | .begin => True
  | .tick => ∀ countdownValue, watched.wdt.thread ≠ .created countdownValue

instance Reportable.decidable (watched : Watched) : Decidable (Reportable watched) :=
  match here : watched.wdt.thread with
  | .created countdownValue =>
    decidable_of_iff (watched.wdt.presentCountdownValue = countdownValue)
      (by unfold Reportable; rw [here])
  | .asleep _ _ =>
    decidable_of_iff (watched.elapsed % delayTicks = 0) (by unfold Reportable; rw [here])
  | .absent =>
    decidable_of_iff (watched.wdt.timerUse &&& 0x40 = 0) (by unfold Reportable; rw [here])
  | .dead =>
    decidable_of_iff (watched.wdt.timerUse &&& 0x40 = 0) (by unfold Reportable; rw [here])

instance Restartable.decidable (wdt : Wdt) : Decidable (Restartable wdt) :=
  match here : wdt.thread with
  | .asleep _ slept =>
    decidable_of_iff ((wdt.setCountdownValue.toNat - 1) % delayTicks + slept < delayTicks)
      (by unfold Restartable; rw [here])
  | .created _ => .isTrue (by unfold Restartable; rw [here]; trivial)
  | .absent => .isTrue (by unfold Restartable; rw [here]; trivial)
  | .dead => .isTrue (by unfold Restartable; rw [here]; trivial)

instance Thread.decidableStarted : (thread : Thread) →
    Decidable (∀ countdownValue, thread ≠ .created countdownValue)
  | .created countdownValue => .isFalse fun started => started countdownValue rfl
  | .asleep _ _ => .isTrue nofun
  | .absent => .isTrue nofun
  | .dead => .isTrue nofun

instance Orderly.decidable (watched : Watched) : ∀ event, Decidable (Orderly watched event)
  | .set _ => inferInstanceAs (Decidable (_ ∧ _))
  | .reset _ => Restartable.decidable watched.wdt
  | .get msg => inferInstanceAs (Decidable (msg.dataLen = 0 → Reportable watched))
  | .begin => .isTrue trivial
  | .tick => watched.wdt.thread.decidableStarted

/-! ## Steps -/

section Steps

variable {watched after : Watched} {msg : HandlerMsg}

/-- The counter is behind the countdown by the sleeps that are over, and the ticks since the latest
Reset are those of these sleeps and of the present one, but for the ticks of a sleep that had passed
when the Reset came. -/
def Counts (countdown present elapsed slept : Nat) : Prop :=
  ∃ sleeps offset, present + delayTicks * sleeps = countdown ∧
    elapsed + offset = delayTicks * sleeps + slept ∧ 0 < present ∧ offset < delayTicks ∧
      slept < delayTicks ∧ (countdown - 1) % delayTicks + offset < delayTicks

/-- What the thread has to do with the timer. -/
def Has (watched : Watched) : Prop :=
  match watched.wdt.thread with
  | .created countdownValue =>
    watched.running = true ∧ watched.elapsed = 0 ∧
      countdownValue = watched.wdt.setCountdownValue
  | .asleep timer slept =>
    watched.running = true ∧ timer = watched.wdt.timerUse &&& 0x07 ∧
      Counts watched.wdt.setCountdownValue.toNat watched.wdt.presentCountdownValue.toNat
        watched.elapsed slept
  | _ =>
    watched.running = false ∧ watched.wdt.presentCountdownValue.toNat =
      watched.wdt.setCountdownValue.toNat - watched.elapsed

/-- The variables have what the latest Set gave. -/
structure Tracks (watched : Watched) : Prop where
  unset : watched.given = none → watched.wdt.isWdtSet = false ∧
    watched.wdt.thread.alive = false ∧ watched.wdt.setCountdownValue = 0
  given : ∀ given ∈ watched.given, watched.wdt.isWdtSet = true ∧
    given = ⟨watched.wdt.timerUse &&& 0x07, watched.wdt.timerAction,
      watched.wdt.setCountdownValue.toNat⟩
  has : Has watched

theorem Tracks.remaining (tracks : Tracks watched) :
    watched.remaining = watched.wdt.setCountdownValue.toNat - watched.elapsed := by
  unfold Watched.remaining
  cases here : watched.given with
  | none =>
    have zero := (tracks.unset here).2.2
    rw [zero]
    rfl
  | some given =>
    have same := (tracks.given given here).2
    rw [same]
    rfl

theorem countDown_cases (wdt : Wdt) (timer : UInt8) :
    (0 < wdt.presentCountdownValue.toNat ∧
      wdt.countDown timer = ({ wdt with thread := .asleep timer 0 }, none)) ∨
    (wdt.presentCountdownValue.toNat = 0 ∧ ∃ flags,
      wdt.countDown timer = ({ wdt with timerUseExpireFlags := flags, thread := .dead },
        some ⟨wdt.timerAction, timer⟩)) := by
  unfold Wdt.countDown
  by_cases more : 0 < wdt.presentCountdownValue
  · rw [if_pos more]
    exact .inl ⟨UInt16.lt_iff_toNat_lt.mp more, rfl⟩
  · rw [if_neg more]
    have zero : ¬ 0 < wdt.presentCountdownValue.toNat :=
      fun less => more (UInt16.lt_iff_toNat_lt.mpr less)
    exact .inr ⟨by omega, _, rfl⟩

theorem lowered_toNat (present : UInt16) :
    (if present < 100 then 0 else present - 100).toNat = present.toNat - 100 := by
  have hundred : (100 : UInt16).toNat = 100 := rfl
  by_cases few : present < 100
  · have less := UInt16.lt_iff_toNat_lt.mp few
    rw [if_pos few, UInt16.toNat_zero]
    omega
  · have more : (100 : UInt16) ≤ present := UInt16.le_iff_toNat_le.mpr
      (Nat.le_of_not_lt fun less => few (UInt16.lt_iff_toNat_lt.mpr less))
    rw [if_neg few, UInt16.toNat_sub_of_le _ _ more, hundred]

theorem counts_first {countdown : Nat} (some : 0 < countdown) : Counts countdown countdown 0 0 := by
  have ticks : delayTicks = 100 := rfl
  refine ⟨0, 0, by omega, by omega, some, by omega, by omega, ?_⟩
  have part := Nat.mod_lt (countdown - 1) (show 0 < delayTicks by omega)
  omega

theorem counts_restarted {countdown slept : Nat} (some : 0 < countdown)
    (fits : (countdown - 1) % delayTicks + slept < delayTicks) :
    Counts countdown countdown 0 slept :=
  ⟨0, slept, by omega, by omega, some, by omega, by omega, fits⟩

theorem Counts.tick {countdown present elapsed slept : Nat}
    (counts : Counts countdown present elapsed slept) (more : slept + 1 < delayTicks) :
    Counts countdown present (elapsed + 1) (slept + 1) := by
  obtain ⟨sleeps, offset, level, passed, positive, inside, -, fits⟩ := counts
  exact ⟨sleeps, offset, level, by omega, positive, inside, more, fits⟩

theorem Counts.next {countdown present elapsed slept : Nat}
    (counts : Counts countdown present elapsed slept) (last : ¬ slept + 1 < delayTicks)
    (more : 0 < present - 100) : Counts countdown (present - 100) (elapsed + 1) 0 := by
  have ticks : delayTicks = 100 := rfl
  obtain ⟨sleeps, offset, level, passed, positive, inside, bounded, fits⟩ := counts
  rw [ticks] at level passed inside bounded fits last
  have one : delayTicks * (sleeps + 1) = 100 * sleeps + 100 := by rw [ticks, Nat.mul_succ]
  have part : (countdown - 1) % 100 + offset < 100 := fits
  exact ⟨sleeps + 1, offset, by omega, by omega, more, by omega, by omega,
    by rw [ticks]; exact part⟩

theorem Counts.over {countdown present elapsed slept : Nat}
    (counts : Counts countdown present elapsed slept) (last : ¬ slept + 1 < delayTicks)
    (none : present - 100 = 0) : countdown ≤ elapsed + 1 := by
  have ticks : delayTicks = 100 := rfl
  obtain ⟨sleeps, offset, level, passed, positive, inside, bounded, fits⟩ := counts
  rw [ticks] at level passed inside bounded fits last
  omega

theorem Counts.level {countdown present elapsed slept : Nat}
    (counts : Counts countdown present elapsed slept) (whole : elapsed % delayTicks = 0) :
    present = countdown - elapsed := by
  have ticks : delayTicks = 100 := rfl
  obtain ⟨sleeps, offset, level, passed, positive, inside, bounded, fits⟩ := counts
  rw [ticks] at level passed inside bounded fits whole
  omega

theorem tracks_start : Tracks Watched.start :=
  ⟨fun _ => ⟨rfl, rfl, rfl⟩, nofun, rfl, rfl⟩

theorem Tracks.set (idle : watched.wdt.thread.alive = false) (whole : 6 ≤ msg.dataLen) :
    Tracks ⟨(appSetWatchdogTimer watched.wdt msg).1, some (.of msg.bytes), false, 0⟩ := by
  have quiet : (watched.wdt.parse msg).thread.alive = false := idle
  have set : (appSetWatchdogTimer watched.wdt msg).1 = { watched.wdt.parse msg with
      presentCountdownValue := (watched.wdt.parse msg).setCountdownValue, isWdtSet := true } := by
    unfold appSetWatchdogTimer
    dsimp only
    rw [if_neg (by rw [quiet]; exact Bool.false_ne_true)]
  have byte : ∀ place, place < 6 → msg.bytes.getD place 0 = msg.data place := by
    intro place inside
    have within : place < msg.dataLen := by omega
    unfold HandlerMsg.bytes
    rw [getD_eq_getElem _ _ (by simpa using within), getElem_map, getElem_range]
  have word : (UInt16.ofNat (msg.word 4)).toNat = msg.word 4 := by
    have high := (msg.data (4 + 1)).toNat_lt
    have low := (msg.data 4).toNat_lt
    rw [UInt16.toNat_ofNat', Nat.mod_eq_of_lt]
    unfold HandlerMsg.word
    omega
  rw [set]
  refine ⟨nofun, ?_, ?_⟩
  · intro given here
    cases here
    refine ⟨rfl, ?_⟩
    unfold Given.of
    rw [byte 0 (by decide), byte 1 (by decide), byte 4 (by decide), byte 5 (by decide)]
    dsimp only [Wdt.parse]
    rw [word]
    rfl
  · unfold Has
    have rest : ∀ thread, thread = watched.wdt.thread → thread.alive = false := by
      rintro _ rfl
      exact idle
    split
    next here => exact absurd (rest _ here.symm) (by simp [Thread.alive])
    next here => exact absurd (rest _ here.symm) (by simp [Thread.alive])
    · exact ⟨rfl, (Nat.sub_zero _).symm⟩

/-- A Reset that does not cut the countdown short. -/
theorem Tracks.reset (tracks : Tracks watched) (fits : Restartable watched.wdt) {given : Given}
    (here : watched.given = some given) :
    Tracks ⟨(appResetWatchdogTimer watched.wdt msg).1, some given, true, 0⟩ ∧
      StartsFrom (appResetWatchdogTimer watched.wdt msg).1 given.countdown := by
  obtain ⟨set, same⟩ := tracks.given given here
  have kept : ∀ other ∈ some given, watched.wdt.isWdtSet = true ∧
      other = ⟨watched.wdt.timerUse &&& 0x07, watched.wdt.timerAction,
        watched.wdt.setCountdownValue.toNat⟩ := by
    intro other found
    cases found
    exact ⟨set, same⟩
  have countdown : given.countdown = watched.wdt.setCountdownValue.toNat := by rw [same]
  have has := tracks.has
  unfold Has at has
  unfold Restartable at fits
  unfold appResetWatchdogTimer Wdt.initFrb2WdtThread
  rw [if_pos set, countdown]
  cases thread : watched.wdt.thread with
  | created countdownValue =>
    rw [thread] at has
    have same := has.2.2
    exact ⟨⟨nofun, kept, rfl, rfl, same⟩, congrArg UInt16.toNat same⟩
  | asleep timer slept =>
    rw [thread] at has fits
    obtain ⟨-, use, counts⟩ := has
    have some : 0 < watched.wdt.setCountdownValue.toNat := by
      obtain ⟨sleeps, offset, level, -, positive, -⟩ := counts
      omega
    exact ⟨⟨nofun, kept, rfl, use, counts_restarted some fits⟩, rfl⟩
  | absent =>
    exact ⟨⟨nofun, kept, rfl, rfl, rfl⟩, rfl⟩
  | dead =>
    exact ⟨⟨nofun, kept, rfl, rfl, rfl⟩, rfl⟩

/-- The head of the loop, when the counter is as the sleeps say. -/
theorem Tracks.countDown (tracks : Tracks watched) (running : watched.running = true)
    (present : UInt16) (elapsed : Nat)
    (counts : 0 < present.toNat →
      Counts watched.wdt.setCountdownValue.toNat present.toNat elapsed 0)
    (ended : present.toNat = 0 → watched.wdt.setCountdownValue.toNat ≤ elapsed) :
    let after := Wdt.countDown { watched.wdt with presentCountdownValue := present }
      (watched.wdt.timerUse &&& 0x07)
    Tracks (watched.ran elapsed after) ∧ ActsRight watched elapsed after.2 := by
  have given : watched.given ≠ none := by
    intro none
    have idle := (tracks.unset none).2.1
    have has := tracks.has
    unfold Has at has
    cases thread : watched.wdt.thread with
    | created _ => exact absurd idle (by rw [thread, Thread.alive_created]; decide)
    | asleep _ _ => exact absurd idle (by rw [thread, Thread.alive_asleep]; decide)
    | absent =>
      rw [thread] at has
      exact absurd running (by rw [has.1]; decide)
    | dead =>
      rw [thread] at has
      exact absurd running (by rw [has.1]; decide)
  obtain ⟨more, stays⟩ | ⟨none, flags, ends⟩ :=
    countDown_cases { watched.wdt with presentCountdownValue := present }
      (watched.wdt.timerUse &&& 0x07)
  · rw [stays]
    refine ⟨⟨fun none => absurd none given, tracks.given, ?_⟩, nofun⟩
    exact ⟨by rw [Watched.ran, running]; rfl, rfl, counts more⟩
  · rw [ends]
    have reached := ended none
    refine ⟨⟨fun none => absurd none given, tracks.given, ?_⟩, ?_⟩
    · refine ⟨by rw [Watched.ran, running]; rfl, ?_⟩
      have level := none
      dsimp only [Watched.ran] at level ⊢
      omega
    · intro action called
      cases called
      obtain ⟨found, here⟩ := Option.ne_none_iff_exists'.mp given
      obtain ⟨-, same⟩ := tracks.given found here
      exact ⟨running, found, here, by rw [same]; exact reached, by rw [same]⟩

theorem Tracks.begin (tracks : Tracks watched) {countdownValue : UInt16}
    (here : watched.wdt.thread = .created countdownValue) :
    Tracks (watched.ran watched.elapsed (watched.wdt.begin countdownValue)) ∧
      ActsRight watched watched.elapsed (watched.wdt.begin countdownValue).2 := by
  have has := tracks.has
  unfold Has at has
  rw [here] at has
  obtain ⟨running, none, rfl⟩ := has
  have counts := tracks.countDown running watched.wdt.setCountdownValue watched.elapsed
    (by rw [none]; exact counts_first) (by omega)
  exact counts

theorem Tracks.tick (tracks : Tracks watched)
    (started : ∀ countdownValue, watched.wdt.thread ≠ .created countdownValue) :
    Tracks (watched.ran watched.later watched.wdt.tick) ∧
      ActsRight watched watched.later watched.wdt.tick.2 := by
  have has := tracks.has
  unfold Has at has
  unfold Wdt.tick
  cases thread : watched.wdt.thread with
  | created countdownValue => exact absurd thread (started countdownValue)
  | asleep timer slept =>
    rw [thread] at has
    obtain ⟨running, rfl, counts⟩ := has
    have later : watched.later = watched.elapsed + 1 := if_pos running
    rw [later]
    dsimp only
    by_cases more : slept + 1 < delayTicks
    · rw [if_pos more]
      refine ⟨⟨?_, tracks.given, by rw [Watched.ran, running]; rfl, rfl, counts.tick more⟩, nofun⟩
      intro none
      have idle := (tracks.unset none).2.1
      exact absurd idle (by rw [thread, Thread.alive_asleep]; decide)
    · rw [if_neg more]
      have lowered := lowered_toNat watched.wdt.presentCountdownValue
      apply tracks.countDown running
      · rw [lowered]
        exact counts.next more
      · rw [lowered]
        exact counts.over more
  | absent =>
    rw [thread] at has
    have later : watched.later = watched.elapsed := if_neg (by rw [has.1]; decide)
    rw [later]
    refine ⟨⟨tracks.unset, tracks.given, ?_⟩, nofun⟩
    unfold Has Watched.ran
    rw [thread]
    exact ⟨by rw [has.1]; rfl, has.2⟩
  | dead =>
    rw [thread] at has
    have later : watched.later = watched.elapsed := if_neg (by rw [has.1]; decide)
    rw [later]
    refine ⟨⟨tracks.unset, tracks.given, ?_⟩, nofun⟩
    unfold Has Watched.ran
    rw [thread]
    exact ⟨by rw [has.1]; rfl, has.2⟩

theorem running_bit (use : UInt8) : (use ||| 0x40) &&& 0x40 ≠ 0 := by
  intro none
  have bits : ∀ bits : BitVec 8, (bits ||| 0x40#8) &&& 0x40#8 ≠ 0#8 := by decide +kernel
  exact bits use.toBitVec (congrArg UInt8.toBitVec none)

theorem Tracks.level (tracks : Tracks watched) (timely : Reportable watched) :
    watched.wdt.presentCountdownValue.toNat = watched.remaining := by
  have has := tracks.has
  unfold Has at has
  unfold Reportable at timely
  rw [tracks.remaining]
  cases thread : watched.wdt.thread with
  | created countdownValue =>
    rw [thread] at has timely
    rw [timely, has.2.2, has.2.1, Nat.sub_zero]
  | asleep timer slept =>
    rw [thread] at has timely
    exact has.2.2.level timely
  | absent =>
    rw [thread] at has
    exact has.2
  | dead =>
    rw [thread] at has
    exact has.2

theorem Tracks.tells (tracks : Tracks watched) (timely : Reportable watched) :
    ((if watched.wdt.thread.alive then watched.wdt.timerUse ||| 0x40 else watched.wdt.timerUse) &&&
      0x40 ≠ 0) ↔ watched.running = true := by
  have has := tracks.has
  unfold Has at has
  unfold Reportable at timely
  cases thread : watched.wdt.thread with
  | created countdownValue =>
    rw [thread] at has
    exact iff_of_true (running_bit _) has.1
  | asleep timer slept =>
    rw [thread] at has
    exact iff_of_true (running_bit _) has.1
  | absent =>
    rw [thread] at has timely
    rw [if_neg (by exact Bool.false_ne_true), has.1]
    exact iff_of_false (not_not.mpr timely) Bool.false_ne_true
  | dead =>
    rw [thread] at has timely
    rw [if_neg (by exact Bool.false_ne_true), has.1]
    exact iff_of_false (not_not.mpr timely) Bool.false_ne_true

theorem Tracks.get (tracks : Tracks watched) (timely : Reportable watched)
    (empty : msg.dataLen = 0) : Reports watched (appGetWatchdogTimer watched.wdt msg) := by
  have small := watched.wdt.presentCountdownValue.toNat_lt
  unfold appGetWatchdogTimer
  rw [if_neg (not_not.mpr empty)]
  refine ⟨⟨rfl, rfl⟩, ?_, ?_⟩
  · exact tracks.tells timely
  · unfold HandlerMsg.word
    rw [copied_data msg (by simp), copied_data msg (by simp), ← tracks.level timely]
    simp only [getD_cons_succ, getD_cons_zero, UInt8.toNat_ofNat']
    omega

/-- An orderly event keeps the timer in step with its configuration. -/
theorem Tracks.step {event : WatchEvent} (tracks : Tracks watched)
    (orderly : Orderly watched event) (moved : step watched event = some after) : Tracks after := by
  cases event with
  | set msg =>
    cases moved
    exact Tracks.set orderly.1 orderly.2
  | reset msg =>
    unfold Watchdog.step at moved
    cases here : watched.given with
    | none =>
      rw [here] at moved
      cases moved
      have unset := (tracks.unset here).1
      have same : (appResetWatchdogTimer watched.wdt msg).1 = watched.wdt := by
        unfold appResetWatchdogTimer
        rw [if_neg (by rw [unset]; exact Bool.false_ne_true)]
      rw [same, ← here]
      exact tracks
    | some given =>
      rw [here] at moved
      cases moved
      exact (tracks.reset orderly here).1
  | get msg =>
    cases moved
    exact tracks
  | begin =>
    unfold Watchdog.step at moved
    dsimp only at moved
    split at moved
    next countdownValue here =>
      cases moved
      exact (tracks.begin here).1
    · cases moved
  | tick =>
    cases moved
    exact (tracks.tick orderly).1

theorem Tracks.right {event : WatchEvent} (tracks : Tracks watched)
    (orderly : Orderly watched event) : Right watched event := by
  cases event with
  | set msg =>
    intro refused
    exact absurd rfl refused
  | reset msg =>
    intro given here
    have set := (tracks.given given here).1
    have answered : (appResetWatchdogTimer watched.wdt msg).2.completionCode = .success := by
      unfold appResetWatchdogTimer
      rw [if_pos set]
      rfl
    exact ⟨answered, (tracks.reset orderly here).2⟩
  | get msg => exact fun empty => tracks.get (orderly empty) empty
  | begin => exact fun countdownValue here => (tracks.begin here).2
  | tick => exact (tracks.tick orderly).2

end Steps

/-! ## The runs -/

/-- Along every orderly run of commands and ticks the timer does what its configuration says, at
every step. -/
theorem watchdogRight_run {events : List WatchEvent} {final : Watched}
    (meets : Meets step Orderly Watched.start events)
    (ran : run step Watched.start events = some final) :
    Meets step Right Watched.start events :=
  Meets.of_invariant (fun tracks orderly moved => Tracks.step tracks orderly moved)
    (fun tracks orderly _ => Tracks.right tracks orderly) tracks_start meets ran

def requestOf (bytes : List UInt8) : HandlerMsg :=
  { HandlerMsg.copied ⟨fun _ => 0, 0, .success⟩ bytes with dataLen := bytes.length }

/-- A countdown of five ticks with an action, which runs after a sleep. -/
def fiveTicks : List WatchEvent :=
  [.set (requestOf [1, 3, 0, 0, 5, 0]), .get (requestOf []), .reset (requestOf []), .begin,
    .get (requestOf [])] ++ List.replicate 100 .tick

/-- A timer of five ticks that runs out. -/
theorem watchdogRight_fiveTicks :
    ∃ final, run step Watched.start fiveTicks = some final ∧ final.wdt.thread = .dead ∧
      Meets step Right Watched.start fiveTicks := by
  have meets : Meets step Orderly Watched.start fiveTicks := by decide +kernel
  have dead : (run step Watched.start fiveTicks).map (fun final => final.wdt.thread) =
      some .dead := by decide +kernel
  obtain ⟨final, ran, ended⟩ := Option.map_eq_some_iff.mp dead
  exact ⟨final, ran, ended, watchdogRight_run meets ran⟩

def lateSet : List WatchEvent :=
  [.set (requestOf [1, 3, 0, 0, 0xE8, 3]), .reset (requestOf []), .begin,
    .set (requestOf [1, 3, 0, 0, 0xD0, 7]), .reset (requestOf [])]

/-- A Set while the countdown runs is undone by its own abort. -/
theorem lateSet_not_right :
    ∃ final, run step Watched.start lateSet = some final ∧
      ¬ Meets step Right Watched.start lateSet := by
  refine ⟨_, rfl, fun right => ?_⟩
  have last := right.2.2.2.2.1 _ rfl
  cases last.1

end OpenBic.Watchdog
