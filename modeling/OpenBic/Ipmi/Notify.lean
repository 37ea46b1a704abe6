import OpenBic.Host.SnoopSend

/-!
# The queue of IPMI messages

`notify_ipmi_client` of `ipmi.c`, which puts a request into the queue of the IPMI thread. Between any
two of its calls of the kernel, other threads put messages, take them and purge the queue.
-/

namespace OpenBic.IpmiQueue

open List Library.Machine
open OpenBic.Snoop (IpmbError)

/-! ## The code -/

/-- `IPMI_BUF_LEN`, the messages that the queue can have. -/
def ipmiBufLen : Nat := 10

/-- An `ipmi_msg_cfg`, with the network function of its message. -/
structure IpmiMsgCfg where
  netfn : UInt8
  rest : List UInt8
deriving DecidableEq

def IpmiMsgCfg.isResponse (msgCfg : IpmiMsgCfg) : Bool := msgCfg.netfn &&& 0x01 != 0

/-- Where a caller of `notify_ipmi_client` is. -/
inductive Place where
  /-- At its first `k_msgq_put`. -/
  | put
  /-- At `k_mutex_lock`. -/
  | lock
  /-- At `k_msgq_num_free_get`. -/
  | look
  /-- At `k_msgq_purge`. -/
  | purge
  /-- At `k_mutex_unlock`. -/
  | unlock
  /-- At the `k_msgq_put` of the loop. -/
  | putAgain
  | returned (error : IpmbError)
deriving DecidableEq

/-- `ipmi_msgq` and a call of `notify_ipmi_client`. -/
structure Notify where
  /-- `ipmi_msgq`, the oldest message first. -/
  queue : List IpmiMsgCfg
  /-- `msg_cfg`, which may be `NULL`. -/
  msgCfg : Option IpmiMsgCfg
  place : Place
  retry : Nat
  foundFull : Bool
  puts : Nat
deriving DecidableEq

def Notify.finish (notify : Notify) : Notify :=
  { notify with place := .returned (if notify.retry = 0 then .mutexLock else .success) }

/-- The condition of the loop, with what `k_msgq_put` returned last. -/
def Notify.loop (notify : Notify) (ret : Bool) : Notify :=
  if ret = false ∧ 0 < notify.retry then { notify with place := .lock, foundFull := false }
  else notify.finish

def notifyIpmiClient (queue : List IpmiMsgCfg) (msgCfg : Option IpmiMsgCfg) : Notify :=
  let called : Notify := ⟨queue, msgCfg, .put, 3, false, 0⟩
  match msgCfg with
  | none => { called with place := .returned .unknown }
  | some msgCfg => if msgCfg.isResponse then called.finish else called

/-- `k_msgq_put` of the message, and whether it returned zero. -/
def Notify.put (notify : Notify) : Notify × Bool :=
  if notify.queue.length < ipmiBufLen then
    ({ notify with queue := notify.queue ++ notify.msgCfg.toList, puts := notify.puts + 1 }, true)
  else (notify, false)

def Notify.goes (notify : Notify) (locked : Bool) : Option Notify :=
  match notify.place with
  | .put => some (notify.put.1.loop notify.put.2)
  | .lock =>
    if locked then some { notify with place := .look }
    else some ({ notify with retry := notify.retry - 1 }.loop false)
  | .look =>
    if ipmiBufLen ≤ notify.queue.length then
      some { notify with place := .purge, foundFull := true }
    else some { notify with place := .unlock }
  | .purge => some { notify with queue := [], place := .unlock }
  | .unlock => some { notify with place := .putAgain }
  | .putAgain => some ({ notify.put.1 with retry := notify.retry - 1 }.loop notify.put.2)
  | .returned _ => none

/-! ## What is claimed -/

/-- What can happen while a call is under way. -/
inductive NotifyEvent where
  | goes (locked : Bool)
  | otherPuts (msgCfg : IpmiMsgCfg)
  | taken
  | otherPurges

def step (notify : Notify) : NotifyEvent → Option Notify
  | .goes locked => notify.goes locked
  | .otherPuts msgCfg =>
    if notify.queue.length < ipmiBufLen then
      some { notify with queue := notify.queue ++ [msgCfg] }
    else some notify
  | .taken => some { notify with queue := notify.queue.tail }
  | .otherPurges => some { notify with queue := [] }

/-- The call returns success if and only if the message is a response or was put into the queue, and
it is put there once at most. -/
structure ReturnsRight (notify : Notify) : Prop where
  success : ∀ error, notify.place = .returned error →
    (error = .success ↔ ∃ msgCfg ∈ notify.msgCfg, msgCfg.isResponse = true ∨ notify.puts ≠ 0)
  once : notify.puts ≤ 1

/-- What is claimed: messages are discarded when the queue was found full only. -/
def DiscardsRight (notify : Notify) : NotifyEvent → Prop
  | .goes locked => ∀ next, notify.goes locked = some next →
    notify.queue <+: next.queue ∨ notify.foundFull = true
  | _ => True

/-- The condition: the queue is full still at the second try. -/
def Timely (notify : Notify) : NotifyEvent → Prop
  | .goes _ => notify.place = .putAgain → notify.retry = 1 → ipmiBufLen ≤ notify.queue.length
  | _ => True

instance Timely.decidable (notify : Notify) : ∀ event, Decidable (Timely notify event)
  | .goes _ => inferInstanceAs (Decidable (_ → _ → _))
  | .otherPuts _ | .taken | .otherPurges => .isTrue trivial

/-! ## Steps -/

section Steps

variable {notify next : Notify} {event : NotifyEvent}

/-- How often a call that has ended has put its message. -/
def Ended (notify : Notify) : IpmbError → Prop
  | .success => notify.puts ≤ 1 ∧
    ∃ msgCfg ∈ notify.msgCfg, msgCfg.isResponse = true ∨ notify.puts = 1
  | .mutexLock => notify.puts ≤ 1 ∧ ∃ msgCfg ∈ notify.msgCfg, msgCfg.isResponse = false
  | .unknown => notify.puts = 0 ∧ notify.msgCfg = none
  | _ => False

/-- What holds in every run. -/
structure Tracks (notify : Notify) : Prop where
  waits : (∀ error, notify.place ≠ .returned error) → notify.puts = 0 ∧ 0 < notify.retry ∧
    ∃ msgCfg ∈ notify.msgCfg, msgCfg.isResponse = false
  full : notify.place = .purge → notify.foundFull = true
  returned : ∀ error, notify.place = .returned error → Ended notify error

/-- The call has returned an error, and the message was put into the queue. -/
def Spoiled (notify : Notify) : Prop :=
  notify.place = .returned .mutexLock ∧ notify.puts = 1

theorem loop_put (notify : Notify) : notify.loop true = notify.finish := by
  unfold Notify.loop
  rw [if_neg nofun]

theorem loop_retry (some : 0 < notify.retry) :
    notify.loop false = { notify with place := .lock, foundFull := false } := by
  unfold Notify.loop
  rw [if_pos ⟨rfl, some⟩]

theorem loop_over (none : notify.retry = 0) : notify.loop false = notify.finish := by
  unfold Notify.loop
  rw [if_neg (by omega)]

theorem finish_success (some : 0 < notify.retry) :
    notify.finish = { notify with place := .returned .success } := by
  unfold Notify.finish
  rw [if_neg (Nat.ne_of_gt some)]

theorem finish_mutexLock (none : notify.retry = 0) :
    notify.finish = { notify with place := .returned .mutexLock } := by
  unfold Notify.finish
  rw [if_pos none]

theorem put_cases (notify : Notify) :
    (notify.queue.length < ipmiBufLen ∧ notify.put = ({ notify with
      queue := notify.queue ++ notify.msgCfg.toList, puts := notify.puts + 1 }, true)) ∨
    (ipmiBufLen ≤ notify.queue.length ∧ notify.put = (notify, false)) := by
  unfold Notify.put
  by_cases room : notify.queue.length < ipmiBufLen
  · rw [if_pos room]
    exact .inl ⟨room, rfl⟩
  · rw [if_neg room]
    exact .inr ⟨Nat.le_of_not_lt room, rfl⟩

theorem loop_failed (notify : Notify) : ∃ place foundFull,
    notify.loop false = { notify with place := place, foundFull := foundFull } ∧
      ((place = .lock ∧ 0 < notify.retry) ∨
        (place = .returned .mutexLock ∧ notify.retry = 0)) := by
  rcases Nat.eq_zero_or_pos notify.retry with none | some
  · rw [loop_over none, finish_mutexLock none]
    exact ⟨_, notify.foundFull, rfl, .inr ⟨rfl, none⟩⟩
  · rw [loop_retry some]
    exact ⟨_, _, rfl, .inl ⟨rfl, some⟩⟩

theorem Tracks.failed (request : ∃ msgCfg ∈ notify.msgCfg, msgCfg.isResponse = false)
    (none : notify.puts = 0) : Tracks (notify.loop false) ∧ ¬ Spoiled (notify.loop false) := by
  obtain ⟨place, foundFull, failed, ended⟩ := loop_failed notify
  rw [failed]
  have clean : ¬ Spoiled { notify with place := place, foundFull := foundFull } := by
    intro spoiled
    have put := spoiled.2
    dsimp only at put
    omega
  refine ⟨?_, clean⟩
  rcases ended with ⟨rfl, some⟩ | ⟨rfl, -⟩
  · exact ⟨fun _ => ⟨none, some, request⟩, nofun, nofun⟩
  · refine ⟨fun waits => absurd rfl (waits .mutexLock), nofun, ?_⟩
    intro error here
    obtain rfl := Place.returned.inj here
    exact ⟨Nat.le_succ_of_le (Nat.le_of_eq none), request⟩

theorem Tracks.onward (tracks : Tracks notify) (waiting : ∀ error, notify.place ≠ .returned error)
    {place : Place} {foundFull : Bool} (inLoop : ∀ error, place ≠ .returned error)
    (full : place = .purge → foundFull = true) :
    Tracks { notify with place := place, foundFull := foundFull } ∧
      ¬ Spoiled { notify with place := place, foundFull := foundFull } := by
  have waits := tracks.waits waiting
  exact ⟨⟨fun _ => waits, full, fun error here => absurd here (inLoop error)⟩,
    fun spoiled => inLoop _ spoiled.1⟩

theorem Tracks.success (request : ∃ msgCfg ∈ notify.msgCfg, msgCfg.isResponse = false)
    (once : notify.puts = 1) (some : 0 < notify.retry) :
    Tracks (notify.loop true) ∧ ¬ Spoiled (notify.loop true) := by
  rw [loop_put, finish_success some]
  refine ⟨⟨fun waits => absurd rfl (waits .success), nofun, ?_⟩, nofun⟩
  intro error same
  obtain rfl := Place.returned.inj same
  obtain ⟨msgCfg, given, -⟩ := request
  exact ⟨Nat.le_of_eq once, msgCfg, given, .inr once⟩

theorem Tracks.late (request : ∃ msgCfg ∈ notify.msgCfg, msgCfg.isResponse = false)
    (once : notify.puts = 1) (spent : notify.retry = 0) :
    Tracks (notify.loop true) ∧ Spoiled (notify.loop true) := by
  rw [loop_put, finish_mutexLock spent]
  refine ⟨⟨fun waits => absurd rfl (waits .mutexLock), nofun, ?_⟩, rfl, once⟩
  intro error same
  obtain rfl := Place.returned.inj same
  exact ⟨Nat.le_of_eq once, request⟩

/-- A step of a call that is not at the put of its loop keeps what holds. -/
theorem Tracks.goes_before {locked : Bool} (tracks : Tracks notify)
    (before : notify.place ≠ .putAgain) (moved : notify.goes locked = some next) :
    Tracks next ∧ ¬ Spoiled next := by
  unfold Notify.goes at moved
  cases here : notify.place with
  | putAgain => exact absurd here before
  | returned error =>
    rw [here] at moved
    cases moved
  | put =>
    have waiting : ∀ error, notify.place ≠ .returned error := by rw [here]; exact nofun
    obtain ⟨none, some, request⟩ := tracks.waits waiting
    rw [here] at moved
    cases moved
    rcases put_cases notify with ⟨room, put⟩ | ⟨full, put⟩
    · rw [put]
      exact Tracks.success request (congrArg Nat.succ none) some
    · rw [put]
      exact Tracks.failed request none
  | lock =>
    have waiting : ∀ error, notify.place ≠ .returned error := by rw [here]; exact nofun
    obtain ⟨none, -, request⟩ := tracks.waits waiting
    rw [here] at moved
    dsimp only at moved
    split at moved
    · cases moved
      exact tracks.onward waiting nofun nofun
    · cases moved
      exact @Tracks.failed { notify with retry := notify.retry - 1 } request none
  | look =>
    have waiting : ∀ error, notify.place ≠ .returned error := by rw [here]; exact nofun
    rw [here] at moved
    dsimp only at moved
    split at moved
    · cases moved
      exact tracks.onward waiting nofun fun _ => rfl
    · cases moved
      exact tracks.onward waiting nofun nofun
  | purge =>
    have waiting : ∀ error, notify.place ≠ .returned error := by rw [here]; exact nofun
    obtain ⟨kept, clean⟩ :=
      @Tracks.onward notify tracks waiting .unlock notify.foundFull nofun nofun
    rw [here] at moved
    cases moved
    exact ⟨⟨kept.waits, kept.full, kept.returned⟩, clean⟩
  | unlock =>
    have waiting : ∀ error, notify.place ≠ .returned error := by rw [here]; exact nofun
    rw [here] at moved
    cases moved
    exact tracks.onward waiting nofun nofun

theorem Tracks.goes_again {locked : Bool} (tracks : Tracks notify)
    (here : notify.place = .putAgain) (moved : notify.goes locked = some next) :
    Tracks next ∧ (Spoiled next ↔ notify.retry = 1 ∧ notify.queue.length < ipmiBufLen) := by
  have waiting : ∀ error, notify.place ≠ .returned error := by rw [here]; exact nofun
  obtain ⟨none, some, request⟩ := tracks.waits waiting
  have once : notify.puts + 1 = 1 := congrArg Nat.succ none
  unfold Notify.goes at moved
  rw [here] at moved
  cases moved
  rcases put_cases notify with ⟨room, put⟩ | ⟨full, put⟩
  · rw [put]
    by_cases last : notify.retry = 1
    · obtain ⟨kept, spoiled⟩ := @Tracks.late { notify with
        queue := notify.queue ++ notify.msgCfg.toList
        puts := notify.puts + 1
        retry := notify.retry - 1 } request once (by dsimp only; omega)
      exact ⟨kept, iff_of_true spoiled ⟨last, room⟩⟩
    · obtain ⟨kept, clean⟩ := @Tracks.success { notify with
        queue := notify.queue ++ notify.msgCfg.toList
        puts := notify.puts + 1
        retry := notify.retry - 1 } request once (by dsimp only; omega)
      exact ⟨kept, iff_of_false clean fun spoils => last spoils.1⟩
  · rw [put]
    obtain ⟨kept, clean⟩ := @Tracks.failed { notify with retry := notify.retry - 1 } request none
    exact ⟨kept, iff_of_false clean fun spoils => absurd spoils.2 (Nat.not_lt_of_le full)⟩

theorem step_others (elsewhere : ∀ locked, event ≠ .goes locked)
    (moved : step notify event = some next) : ∃ queue, next = { notify with queue := queue } := by
  unfold step at moved
  cases event with
  | goes locked => exact absurd rfl (elsewhere locked)
  | otherPuts msgCfg =>
    dsimp only at moved
    split at moved
    · exact ⟨_, (Option.some.inj moved).symm⟩
    · exact ⟨notify.queue, (Option.some.inj moved).symm⟩
  | taken => exact ⟨_, (Option.some.inj moved).symm⟩
  | otherPurges => exact ⟨_, (Option.some.inj moved).symm⟩

/-- Every step keeps what holds, and only a put of the last retry spoils a call. -/
theorem Tracks.step (tracks : Tracks notify) (moved : step notify event = some next) :
    Tracks next ∧ (Spoiled next ↔ Spoiled notify ∨ ¬ Timely notify event) := by
  have others : (∀ locked, event ≠ .goes locked) → Timely notify event →
      Tracks next ∧ (Spoiled next ↔ Spoiled notify ∨ ¬ Timely notify event) := by
    intro elsewhere timely
    obtain ⟨queue, rfl⟩ := step_others elsewhere moved
    exact ⟨⟨tracks.waits, tracks.full, tracks.returned⟩, (or_iff_left (not_not.mpr timely)).symm⟩
  cases event with
  | goes locked =>
    have waiting : ¬ Spoiled notify := by
      intro spoiled
      unfold IpmiQueue.step Notify.goes at moved
      rw [spoiled.1] at moved
      cases moved
    rw [or_iff_right waiting]
    by_cases again : notify.place = .putAgain
    · obtain ⟨kept, spoils⟩ := tracks.goes_again again moved
      refine ⟨kept, spoils.trans ?_⟩
      rw [← Nat.not_le]
      constructor
      · intro late timely
        exact late.2 (timely again late.1)
      · intro late
        by_contra other
        apply late
        intro _ last
        by_contra room
        exact other ⟨last, room⟩
    · obtain ⟨kept, clean⟩ := tracks.goes_before again moved
      exact ⟨kept, iff_of_false clean (not_not.mpr fun here => absurd here again)⟩
  | otherPuts msgCfg => exact others nofun trivial
  | taken => exact others nofun trivial
  | otherPurges => exact others nofun trivial

/-- The call discards messages only when it has found the queue full. -/
theorem Tracks.discardsRight (tracks : Tracks notify) (event : NotifyEvent) :
    DiscardsRight notify event := by
  cases event with
  | otherPuts msgCfg => trivial
  | taken => trivial
  | otherPurges => trivial
  | goes locked =>
    intro next moved
    have looped : ∀ (notify : Notify) (ret : Bool), (notify.loop ret).queue = notify.queue := by
      intro notify ret
      unfold Notify.loop Notify.finish
      split <;> rfl
    have put : notify.queue <+: notify.put.1.queue := by
      unfold Notify.put
      split
      · exact prefix_append _ _
      · exact prefix_rfl
    unfold Notify.goes at moved
    cases here : notify.place with
    | purge => exact .inr (tracks.full here)
    | returned error =>
      rw [here] at moved
      cases moved
    | put =>
      rw [here] at moved
      cases moved
      rw [looped]
      exact .inl put
    | lock =>
      rw [here] at moved
      dsimp only at moved
      split at moved
      · cases moved
        exact .inl prefix_rfl
      · cases moved
        rw [looped]
        exact .inl prefix_rfl
    | look =>
      rw [here] at moved
      dsimp only at moved
      split at moved
      · cases moved
        exact .inl prefix_rfl
      · cases moved
        exact .inl prefix_rfl
    | unlock =>
      rw [here] at moved
      cases moved
      exact .inl prefix_rfl
    | putAgain =>
      rw [here] at moved
      cases moved
      rw [looped]
      exact .inl put

theorem Tracks.returnsRight_iff (tracks : Tracks notify) : ReturnsRight notify ↔ ¬ Spoiled notify := by
  constructor
  · intro right spoiled
    obtain ⟨returned, once⟩ := spoiled
    obtain ⟨-, msgCfg, given, -⟩ := tracks.returned _ returned
    have success := (right.success _ returned).mpr
      ⟨msgCfg, given, .inr (by rw [once]; exact Nat.one_ne_zero)⟩
    cases success
  · intro clean
    refine ⟨?_, ?_⟩
    · intro error here
      have ended := tracks.returned error here
      cases error with
      | success =>
        obtain ⟨-, msgCfg, given, done⟩ := ended
        exact iff_of_true rfl ⟨msgCfg, given, done.imp_right fun once => by omega⟩
      | unknown =>
        obtain ⟨-, null⟩ := ended
        apply iff_of_false nofun
        intro sent
        obtain ⟨msgCfg, given, -⟩ := sent
        rw [null] at given
        cases given
      | mutexLock =>
        obtain ⟨once, msgCfg, given, asks⟩ := ended
        apply iff_of_false nofun
        intro sent
        obtain ⟨other, same, done⟩ := sent
        obtain rfl := Option.mem_unique given same
        rcases done with response | put
        · nomatch (response.symm.trans asks)
        · exact clean ⟨here, by omega⟩
      | failure => exact ended.elim
      | getMessageQueue => exact ended.elim
    · by_cases waiting : ∀ error, notify.place ≠ .returned error
      · have none := (tracks.waits waiting).1
        omega
      · have returned : ∃ error, notify.place = .returned error := by
          by_contra never
          exact waiting fun error here => never ⟨error, here⟩
        obtain ⟨error, here⟩ := returned
        have ended := tracks.returned error here
        cases error with
        | success => exact ended.1
        | unknown => exact Nat.le_succ_of_le (Nat.le_of_eq ended.1)
        | mutexLock => exact ended.1
        | failure => exact ended.elim
        | getMessageQueue => exact ended.elim

end Steps

/-! ## The runs -/

theorem tracks_notifyIpmiClient (queue : List IpmiMsgCfg) (msgCfg : Option IpmiMsgCfg) :
    Tracks (notifyIpmiClient queue msgCfg) ∧ ¬ Spoiled (notifyIpmiClient queue msgCfg) := by
  unfold notifyIpmiClient
  cases msgCfg with
  | none =>
    refine ⟨⟨fun waits => absurd rfl (waits .unknown), nofun, ?_⟩, nofun⟩
    intro error here
    obtain rfl := Place.returned.inj here
    exact ⟨rfl, rfl⟩
  | some msgCfg =>
    dsimp only
    cases response : msgCfg.isResponse with
    | true =>
      refine ⟨⟨fun waits => absurd rfl (waits .success), nofun, ?_⟩, nofun⟩
      intro error here
      obtain rfl := Place.returned.inj here
      exact ⟨Nat.zero_le 1, msgCfg, rfl, .inl response⟩
    | false =>
      exact ⟨⟨fun _ => ⟨rfl, Nat.succ_pos 2, msgCfg, rfl, response⟩, nofun, nofun⟩, nofun⟩

/-- In every run messages are discarded only when the queue was found full, and the call returns
success for what it was to put if and only if the last retry finds no room. -/
theorem notifyRight_iff {queue : List IpmiMsgCfg} {msgCfg : Option IpmiMsgCfg}
    {events : List NotifyEvent} {final : Notify}
    (ran : run step (notifyIpmiClient queue msgCfg) events = some final) :
    Meets step DiscardsRight (notifyIpmiClient queue msgCfg) events ∧
      (ReturnsRight final ↔ Meets step Timely (notifyIpmiClient queue msgCfg) events) := by
  obtain ⟨tracks, clean⟩ := tracks_notifyIpmiClient queue msgCfg
  have kept : ∀ {state event next}, Tracks state → step state event = some next → Tracks next :=
    fun tracks moved => (Tracks.step tracks moved).1
  have always : Meets step (fun _ _ => True) (notifyIpmiClient queue msgCfg) events :=
    meets_of_forall (fun _ _ => trivial) _ _
  have discards : Meets step DiscardsRight (notifyIpmiClient queue msgCfg) events :=
    Meets.of_invariant (fun tracks _ moved => kept tracks moved)
      (fun tracks _ _ => tracks.discardsRight _) tracks always ran
  have reached : Tracks final := invariant_of_step kept tracks ran
  refine ⟨discards, reached.returnsRight_iff.trans ⟨?_, ?_⟩⟩
  · have stays : ∀ {state event next}, Tracks state ∧ Spoiled state →
        step state event = some next → Tracks next ∧ Spoiled next := by
      intro state event next spoiled moved
      obtain ⟨after, spoils⟩ := Tracks.step spoiled.1 moved
      exact ⟨after, spoils.mpr (.inl spoiled.2)⟩
    have spoils : ∀ {state event next}, Tracks state → ¬ Timely state event →
        step state event = some next → Tracks next ∧ Spoiled next := by
      intro state event next tracks late moved
      obtain ⟨after, spoils⟩ := Tracks.step tracks moved
      exact ⟨after, spoils.mpr (.inr late)⟩
    intro good
    exact Meets.of_not_spoiled kept stays spoils tracks ran fun spoiled => good spoiled.2
  · intro timely
    have goes : ∀ {state event next}, Tracks state ∧ ¬ Spoiled state → Timely state event →
        step state event = some next → Tracks next ∧ ¬ Spoiled next := by
      intro state event next good inTime moved
      obtain ⟨after, spoils⟩ := Tracks.step good.1 moved
      refine ⟨after, fun spoiled => ?_⟩
      rcases spoils.mp spoiled with before | late
      · exact good.2 before
      · exact late inTime
    exact (invariant goes ⟨tracks, clean⟩ timely ran).2

def request (byte : UInt8) : IpmiMsgCfg := ⟨0x06, [byte]⟩

def purgeFull : List NotifyEvent := List.replicate 6 (.goes true)

/-- The call that purges a full queue returns success. -/
theorem notifyRight_purgeFull : ∃ final,
    run step (notifyIpmiClient (List.replicate 10 (request 0)) (request 1)) purgeFull =
      some final ∧ final.queue = [request 1] ∧ ReturnsRight final := by
  have ran : run step (notifyIpmiClient (List.replicate 10 (request 0)) (request 1)) purgeFull =
      some ⟨[request 1], request 1, .returned .success, 2, true, 1⟩ := by decide +kernel
  have timely : Meets step Timely (notifyIpmiClient (List.replicate 10 (request 0)) (request 1))
      purgeFull := by decide +kernel
  exact ⟨_, ran, rfl, (notifyRight_iff ran).2.mpr timely⟩

def lockedTwice : List NotifyEvent :=
  [.goes true, .goes false, .goes false] ++ List.replicate 5 (.goes true)

/-- The call puts the message into the queue and returns an error. -/
theorem lockedTwice_not_right : ∃ final,
    run step (notifyIpmiClient (List.replicate 10 (request 0)) (request 1)) lockedTwice =
      some final ∧ ¬ ReturnsRight final := by
  have ran : run step (notifyIpmiClient (List.replicate 10 (request 0)) (request 1)) lockedTwice =
      some ⟨[request 1], request 1, .returned .mutexLock, 0, true, 1⟩ := by decide +kernel
  refine ⟨_, ran, fun right => ?_⟩
  have success := (right.success _ rfl).mpr ⟨request 1, rfl, .inr Nat.one_ne_zero⟩
  cases success

end OpenBic.IpmiQueue
