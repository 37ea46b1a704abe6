import OpenBic.Obmf.Request

/-!
# Interrupt notifications of a GPIO channel

`obmf_gpio_report_level` marks an index and sets the status bit; `gpio_notify_work_handler` takes
the marked indices, sends them and marks them again when they were refused. Both go step by step, so
that a report may come between any two steps of a run of the work. Beside the bitmap stands what is
due: what was accepted in a report and neither sent nor dropped.
-/

namespace OpenBic.Obmf.GpioNotify

open List

open Library.Machine

/-- An index below `OBMF_GPIO_MAX_INT_INDEX`. -/
abbrev Index := Fin 128

def notifyMax : Nat := 64

/-- The words of `gpio_notify_pending` for a channel. -/
def words : Nat := 4

def wordOf (index : Index) : Nat := index.val / 32

/-- Where a run of `gpio_notify_work_handler` is with the channel. -/
inductive Phase where
  | idle
  /-- In front of `atomic_test_and_clear_bit` of an index, with those that were taken. -/
  | scanning (next : Nat) (taken : List Index)
  /-- In front of `gpio_send_notify`. -/
  | sending (taken : List Index)
  /-- In front of `atomic_set_bit` of those that are left. -/
  | restoring (left : List Index)
  | dropping (word : Nat)
  /-- In front of the look at a word in `gpio_notify_any_pending`, and of the clearing of the status
  bit behind the last word. -/
  | checking (word : Nat)
deriving DecidableEq

def Phase.held : Phase → List Index
  | .scanning _ taken => taken
  | .sending taken => taken
  | .restoring left => left
  | _ => []

def Phase.unsent : Phase → List Index
  | .scanning _ taken => taken
  | .sending taken => taken
  | _ => []

/-- A run that is about to clear the status bit has looked at the word of the index. -/
def Phase.passed (index : Index) : Phase → Bool
  | .checking word => wordOf index < word
  | _ => false

/-- A GPIO channel with its notifications. -/
structure Notify where
  intCfg : Index → UInt8
  enabled : Bool
  outstanding : Bool
  pending : Index → Bool
  status : Bool
  marking : List Index
  phase : Phase
  due : Index → Bool
  /-- Reported behind the back of a run that was about to clear the status bit, and neither sent nor
  dropped since. -/
  late : Index → Bool

/-- What can happen to the channel. -/
inductive Event where
  /-- `obmf_gpio_report_level`, to the marking of the index. -/
  | report (index : Nat) (high : Bool)
  | flag (index : Index)
  | run
  /-- A run of the work goes on, with what `obmf_send_request` returns if it is called. -/
  | turn (result : SendResult)
  | response
  | control (on : Bool)
  | config (index : Index) (code : UInt8)

def setBit (bits : Index → Bool) (index : Index) (value : Bool) : Index → Bool :=
  fun other => if other = index then value else bits other

def clearBits (bits : Index → Bool) (indices : List Index) : Index → Bool :=
  fun other => if other ∈ indices then false else bits other

def clearWord (bits : Index → Bool) (word : Nat) : Index → Bool :=
  fun other => if wordOf other = word then false else bits other

def anyIn (bits : Index → Bool) (word : Nat) : Bool :=
  (List.finRange 128).any fun index => wordOf index = word && bits index

def notifies (code : UInt8) (high : Bool) : Bool :=
  if code = 2 ∨ code = 3 then high
  else if code = 1 ∨ code = 4 then !high
  else code = 5

/-- What `obmf_send_request` may return, and `is_outstanding` after it. -/
def sendRequest (enabled outstanding : Bool) : SendResult → Option Bool
  | .ok => if enabled then some true else none
  | .netDown => if enabled then none else some outstanding
  | .busy => if enabled ∧ outstanding then some true else none
  | .noMem => if enabled then some false else none
  | .noBufs => if enabled then some false else none

namespace Notify

def init : Notify :=
  ⟨fun _ => 0, false, false, fun _ => false, false, [], .idle, fun _ => false, fun _ => false⟩

def mark (channel : Notify) (index : Index) : Notify :=
  { channel with
    pending := setBit channel.pending index true
    marking := channel.marking ++ [index]
    due := setBit channel.due index true
    late := if channel.phase.passed index then setBit channel.late index true else channel.late }

/-- `obmf_gpio_report_level`, to the marking of the index. -/
def report (channel : Notify) (index : Nat) (high : Bool) : Notify :=
  if inside : index < 128 then
    if notifies (channel.intCfg ⟨index, inside⟩) high ∧ channel.enabled then
      channel.mark ⟨index, inside⟩
    else channel
  else channel

def settle (channel : Notify) (taken : List Index) (phase : Phase) : Notify :=
  { channel with
    phase
    due := clearBits channel.due taken
    late := clearBits channel.late taken }

def turn (channel : Notify) (result : SendResult) : Option Notify :=
  match channel.phase with
  | .idle => none
  | .scanning next taken =>
    if inside : next < 128 ∧ taken.length < notifyMax then
      let index : Index := ⟨next, inside.1⟩
      if channel.pending index then
        some { channel with
          pending := setBit channel.pending index false
          phase := .scanning (next + 1) (taken ++ [index]) }
      else some { channel with phase := .scanning (next + 1) taken }
    else some { channel with phase := if taken = [] then .idle else .sending taken }
  | .sending taken => do
    let outstanding ← sendRequest channel.enabled channel.outstanding result
    let channel := { channel with outstanding }
    match result with
    | .ok => some (channel.settle taken (.checking 0))
    | .netDown => some (channel.settle taken (.dropping 0))
    | _ => some { channel with phase := .restoring taken }
  | .restoring [] => some { channel with phase := .idle }
  | .restoring (index :: left) =>
    some { channel with
      pending := setBit channel.pending index true
      phase := .restoring left }
  | .dropping word =>
    if word < words then
      some { channel with
        pending := clearWord channel.pending word
        phase := .dropping (word + 1)
        due := clearWord channel.due word
        late := clearWord channel.late word }
    else some { channel with phase := .checking 0 }
  | .checking word =>
    if word < words then
      some { channel with
        phase := if anyIn channel.pending word then .idle else .checking (word + 1) }
    else some { channel with status := false, phase := .idle }

def step (channel : Notify) : Event → Option Notify
  | .report index high => some (channel.report index high)
  | .flag index =>
    if index ∈ channel.marking then
      some { channel with status := true, marking := channel.marking.erase index }
    else none
  | .run =>
    if channel.phase = .idle then some { channel with phase := .scanning 0 [] } else none
  | .turn result => channel.turn result
  | .response => some { channel with outstanding := false }
  | .control on => some { channel with enabled := on }
  | .config index code =>
    some { channel with
      intCfg := fun other => if other = index then code else channel.intCfg other }

/-- A change that is due is pending or in hand. -/
def NotLost (channel : Notify) : Prop :=
  ∀ index, channel.due index = true →
    channel.pending index = true ∨ index ∈ channel.phase.held

/-- The status bit is set while an index is marked, but for reports that have not come to it and for
those behind the back of a run. -/
def Flagged (channel : Notify) : Prop :=
  ∀ index, channel.pending index = true →
    channel.status = true ∨ index ∈ channel.marking ∨ channel.late index = true

/-- What every step keeps. -/
structure Tracks (channel : Notify) : Prop where
  due : channel.NotLost
  flagged : ∀ index, channel.pending index = true ∨ index ∈ channel.phase.held →
    channel.status = true ∨ index ∈ channel.marking ∨ channel.late index = true
  again : ∀ index, channel.pending index = true → index ∈ channel.phase.unsent →
    channel.status = true ∨ index ∈ channel.marking
  passed : ∀ index, channel.pending index = true → channel.phase.passed index = true →
    channel.late index = true

variable {channel next : Notify} {index : Index}

theorem setBit_eq_true {bits : Index → Bool} {value : Bool} {other : Index} :
    setBit bits index value other = true ↔
      (other = index ∧ value = true) ∨ (other ≠ index ∧ bits other = true) := by
  unfold setBit
  split
  · rename_i same
    simp [same]
  · rename_i different
    simp [different]

theorem clearBits_eq_true {bits : Index → Bool} {indices : List Index} {other : Index} :
    clearBits bits indices other = true ↔ other ∉ indices ∧ bits other = true := by
  unfold clearBits
  split
  · rename_i member
    simp [member]
  · rename_i absent
    simp [absent]

theorem clearWord_eq_true {bits : Index → Bool} {word : Nat} {other : Index} :
    clearWord bits word other = true ↔ wordOf other ≠ word ∧ bits other = true := by
  unfold clearWord
  split
  · rename_i inside
    simp [inside]
  · rename_i outside
    simp [outside]

theorem anyIn_eq_false {bits : Index → Bool} {word : Nat} (none : anyIn bits word = false)
    (marked : bits index = true) : wordOf index ≠ word := by
  intro inside
  have found : anyIn bits word = true :=
    List.any_eq_true.mpr ⟨index, mem_finRange index, by simp [inside, marked]⟩
  rw [none] at found
  cases found

theorem passed_checking {word : Nat} :
    (Phase.checking word).passed index = true ↔ wordOf index < word := by
  simp [Phase.passed]

theorem Tracks.mark (tracks : Tracks channel) : Tracks (channel.mark index) where
  due other due := by
    rcases setBit_eq_true.mp due with ⟨same, -⟩ | ⟨different, due⟩
    · exact .inl (setBit_eq_true.mpr (.inl ⟨same, rfl⟩))
    · rcases tracks.due other due with marked | held
      · exact .inl (setBit_eq_true.mpr (.inr ⟨different, marked⟩))
      · exact .inr held
  flagged other marked := by
    by_cases same : other = index
    · subst same
      exact .inr (.inl (mem_append_right _ (List.mem_singleton.mpr rfl)))
    · have before : channel.pending other = true ∨ other ∈ channel.phase.held := by
        rcases marked with marked | held
        · rcases setBit_eq_true.mp marked with ⟨equal, -⟩ | ⟨-, marked⟩
          · exact absurd equal same
          · exact .inl marked
        · exact .inr held
      rcases tracks.flagged other before with status | marking | late
      · exact .inl status
      · exact .inr (.inl (mem_append_left _ marking))
      · refine .inr (.inr ?_)
        unfold Notify.mark
        dsimp only
        split
        · exact setBit_eq_true.mpr (.inr ⟨same, late⟩)
        · exact late
  again other marked unsent := by
    rcases setBit_eq_true.mp marked with ⟨same, -⟩ | ⟨-, marked⟩
    · exact .inr (mem_append_right _ (List.mem_singleton.mpr same))
    · rcases tracks.again other marked unsent with status | marking
      · exact .inl status
      · exact .inr (mem_append_left _ marking)
  passed other marked passed := by
    unfold Notify.mark at passed ⊢
    dsimp only at passed ⊢
    rcases setBit_eq_true.mp marked with ⟨same, -⟩ | ⟨different, marked⟩
    · subst same
      rw [if_pos passed]
      exact setBit_eq_true.mpr (.inl ⟨rfl, rfl⟩)
    · have late := tracks.passed other marked passed
      split
      · exact setBit_eq_true.mpr (.inr ⟨different, late⟩)
      · exact late

theorem Tracks.settle {taken : List Index} {phase : Phase} (tracks : Tracks channel)
    (was : channel.phase = .sending taken) (held : phase.held = []) (unsent : phase.unsent = [])
    (early : ∀ index, phase.passed index = false) : Tracks (channel.settle taken phase) where
  due index due := by
    obtain ⟨outside, due⟩ := clearBits_eq_true.mp due
    rcases tracks.due index due with marked | member
    · exact .inl marked
    · rw [was] at member
      exact absurd member outside
  flagged index marked := by
    rcases marked with marked | member
    · by_cases member : index ∈ taken
      · have again := tracks.again index marked (by rw [was]; exact member)
        exact again.imp_right .inl
      · rcases tracks.flagged index (.inl marked) with status | marking | late
        · exact .inl status
        · exact .inr (.inl marking)
        · exact .inr (.inr (clearBits_eq_true.mpr ⟨member, late⟩))
    · rw [show (channel.settle taken phase).phase.held = [] from held] at member
      cases member
  again index _ member := by
    rw [show (channel.settle taken phase).phase.unsent = [] from unsent] at member
    cases member
  passed index _ passed := by
    rw [show (channel.settle taken phase).phase.passed index = false from early index] at passed
    cases passed

theorem Tracks.move {phase : Phase} (tracks : Tracks channel)
    (held : phase.held = channel.phase.held)
    (unsent : ∀ index ∈ phase.unsent, index ∈ channel.phase.unsent)
    (passed : ∀ index, channel.pending index = true → phase.passed index = true →
      channel.phase.passed index = true) : Tracks { channel with phase } where
  due index due := by
    rcases tracks.due index due with marked | member
    · exact .inl marked
    · exact .inr (held ▸ member)
  flagged index marked := by
    refine tracks.flagged index (marked.imp_right fun member => ?_)
    rw [← held]
    exact member
  again index marked member := tracks.again index marked (unsent index member)
  passed index marked behind := tracks.passed index marked (passed index marked behind)

theorem Tracks.other (tracks : Tracks channel) (intCfg : Index → UInt8)
    (enabled outstanding : Bool) :
    Tracks { channel with intCfg, enabled, outstanding } where
  due := tracks.due
  flagged := tracks.flagged
  again := tracks.again
  passed := tracks.passed

theorem Tracks.take {place : Nat} {taken : List Index} (tracks : Tracks channel)
    (was : channel.phase = .scanning place taken) (marked : channel.pending index = true) :
    Tracks { channel with
      pending := setBit channel.pending index false
      phase := .scanning (place + 1) (taken ++ [index]) } where
  due other due := by
    rcases tracks.due other due with pending | member
    · by_cases same : other = index
      · exact .inr (mem_append_right _ (List.mem_singleton.mpr same))
      · exact .inl (setBit_eq_true.mpr (.inr ⟨same, pending⟩))
    · rw [was] at member
      exact .inr (mem_append_left _ member)
  flagged other either := by
    refine tracks.flagged other ?_
    rcases either with pending | member
    · rcases setBit_eq_true.mp pending with ⟨-, cleared⟩ | ⟨-, pending⟩
      · cases cleared
      · exact .inl pending
    · rcases List.mem_append.mp member with member | last
      · rw [was]
        exact .inr member
      · rw [List.mem_singleton.mp last]
        exact .inl marked
  again other pending member := by
    rcases setBit_eq_true.mp pending with ⟨-, cleared⟩ | ⟨different, pending⟩
    · cases cleared
    · rcases List.mem_append.mp member with member | last
      · exact tracks.again other pending (by rw [was]; exact member)
      · exact absurd (List.mem_singleton.mp last) different
  passed _ _ behind := by cases behind

theorem Tracks.restore {left : List Index} (tracks : Tracks channel)
    (was : channel.phase = .restoring (index :: left)) :
    Tracks { channel with
      pending := setBit channel.pending index true
      phase := .restoring left } where
  due other due := by
    by_cases same : other = index
    · exact .inl (setBit_eq_true.mpr (.inl ⟨same, rfl⟩))
    · rcases tracks.due other due with pending | member
      · exact .inl (setBit_eq_true.mpr (.inr ⟨same, pending⟩))
      · rw [was] at member
        exact .inr ((List.mem_cons.mp member).resolve_left same)
  flagged other either := by
    refine tracks.flagged other ?_
    rw [was]
    rcases either with pending | member
    · rcases setBit_eq_true.mp pending with ⟨same, -⟩ | ⟨-, pending⟩
      · exact .inr (same ▸ mem_cons_self)
      · exact .inl pending
    · exact .inr (mem_cons_of_mem _ member)
  again _ _ member := by cases member
  passed _ _ behind := by cases behind

theorem Tracks.drop {word : Nat} (tracks : Tracks channel)
    (was : channel.phase = .dropping word) :
    Tracks { channel with
      pending := clearWord channel.pending word
      phase := .dropping (word + 1)
      due := clearWord channel.due word
      late := clearWord channel.late word } where
  due other due := by
    obtain ⟨outside, due⟩ := clearWord_eq_true.mp due
    rcases tracks.due other due with pending | member
    · exact .inl (clearWord_eq_true.mpr ⟨outside, pending⟩)
    · rw [was] at member
      cases member
  flagged other either := by
    rcases either with pending | member
    · obtain ⟨outside, pending⟩ := clearWord_eq_true.mp pending
      rcases tracks.flagged other (.inl pending) with status | marking | late
      · exact .inl status
      · exact .inr (.inl marking)
      · exact .inr (.inr (clearWord_eq_true.mpr ⟨outside, late⟩))
    · cases member
  again _ _ member := by cases member
  passed _ _ behind := by cases behind

theorem Tracks.clear {word : Nat} (tracks : Tracks channel)
    (was : channel.phase = .checking word) (last : words ≤ word) :
    Tracks { channel with status := false, phase := .idle } where
  due other due := by
    rcases tracks.due other due with pending | member
    · exact .inl pending
    · rw [was] at member
      cases member
  flagged other either := by
    rcases either with pending | member
    · refine .inr (.inr (tracks.passed other pending ?_))
      rw [was, passed_checking]
      have inside := other.isLt
      unfold wordOf
      unfold words at last
      omega
    · cases member
  again _ _ member := by cases member
  passed _ _ behind := by cases behind

theorem Tracks.turn {result : SendResult} (tracks : Tracks channel)
    (moved : channel.turn result = some next) : Tracks next := by
  unfold Notify.turn at moved
  cases was : channel.phase with
  | idle =>
    rw [was] at moved
    cases moved
  | scanning place taken =>
    rw [was] at moved
    dsimp only at moved
    split at moved
    · split at moved
      · rename_i marked
        cases moved
        exact tracks.take was marked
      · cases moved
        refine tracks.move ?_ ?_ nofun
        · rw [was]
          rfl
        · rw [was]
          exact fun _ => id
    · cases moved
      split
      · rename_i none
        subst none
        refine tracks.move ?_ nofun nofun
        rw [was]
        rfl
      · refine tracks.move ?_ ?_ nofun
        · rw [was]
          rfl
        · rw [was]
          exact fun _ => id
  | sending taken =>
    rw [was] at moved
    obtain ⟨outstanding, -, moved⟩ := Option.bind_eq_some_iff.mp moved
    have sent : Tracks { channel with outstanding } :=
      tracks.other channel.intCfg channel.enabled outstanding
    have refused : Tracks { channel with outstanding, phase := .restoring taken } := by
      refine sent.move ?_ nofun nofun
      rw [was]
      rfl
    cases result with
    | ok =>
      cases moved
      refine sent.settle was rfl rfl fun index => ?_
      exact decide_eq_false (Nat.not_lt_zero (wordOf index))
    | netDown =>
      cases moved
      exact sent.settle was rfl rfl fun _ => rfl
    | busy =>
      cases moved
      exact refused
    | noMem =>
      cases moved
      exact refused
    | noBufs =>
      cases moved
      exact refused
  | restoring left =>
    rw [was] at moved
    cases left with
    | nil =>
      cases moved
      refine tracks.move ?_ nofun nofun
      rw [was]
      rfl
    | cons index left =>
      cases moved
      exact tracks.restore was
  | dropping word =>
    rw [was] at moved
    dsimp only at moved
    split at moved
    · cases moved
      exact tracks.drop was
    · cases moved
      refine tracks.move ?_ nofun fun _ _ behind => ?_
      · rw [was]
        rfl
      · exact absurd (passed_checking.mp behind) (Nat.not_lt_zero _)
  | checking word =>
    rw [was] at moved
    dsimp only at moved
    split at moved
    · cases moved
      split
      · refine tracks.move ?_ nofun nofun
        rw [was]
        rfl
      · rename_i none
        refine tracks.move ?_ nofun fun index marked behind => ?_
        · rw [was]
          rfl
        · have other := anyIn_eq_false (Bool.eq_false_of_not_eq_true none) marked
          have below := passed_checking.mp behind
          rw [was, passed_checking]
          omega
    · rename_i last
      cases moved
      exact tracks.clear was (Nat.le_of_not_lt last)

/-- Every event keeps the channel in step with the pins. -/
theorem tracks_step {event : Event} (tracks : Tracks channel)
    (moved : step channel event = some next) : Tracks next := by
  cases event with
  | report index high =>
    cases moved
    unfold Notify.report
    split
    · split
      · exact tracks.mark
      · exact tracks
    · exact tracks
  | flag index =>
    simp only [step] at moved
    split at moved
    · cases moved
      exact ⟨tracks.due, fun _ _ => .inl rfl, fun _ _ _ => .inl rfl, tracks.passed⟩
    · cases moved
  | run =>
    simp only [step] at moved
    split at moved
    · rename_i was
      cases moved
      refine tracks.move ?_ nofun nofun
      rw [was]
      rfl
    · cases moved
  | turn result => exact tracks.turn moved
  | response =>
    cases moved
    exact tracks.other channel.intCfg channel.enabled false
  | control on =>
    cases moved
    exact tracks.other channel.intCfg on channel.outstanding
  | config index code =>
    cases moved
    exact tracks.other _ channel.enabled channel.outstanding

theorem tracks_init : Tracks init where
  due _ due := by cases due
  flagged _ either := by
    rcases either with marked | member
    · cases marked
    · cases member
  again _ marked := by cases marked
  passed _ marked := by cases marked

/-- In every run, what is due is marked or in the hands of a run of the work, and the status bit is
set while an index is marked, but for reports that have not come to it and for those behind the back
of a run. -/
theorem run_notLost {events : List Event} {channel : Notify}
    (ran : run step init events = some channel) : channel.NotLost ∧ channel.Flagged := by
  have kept : ∀ {channel : Notify} {event next}, Tracks channel →
      step channel event = some next → Tracks next := tracks_step
  have tracks := invariant_of_step kept tracks_init ran
  exact ⟨tracks.due, fun index marked => tracks.flagged index (.inl marked)⟩

/-- Index 3 is reported twice, sent in between, and marked once more. -/
theorem run_notLost_twice :
    ∃ channel ∈ run step init ([.config 3 5, .control true, .report 3 true, .flag 3, .run] ++
        List.replicate 129 (.turn .ok) ++ [.report 3 false]),
      channel.due 3 = true ∧ channel.NotLost ∧ channel.Flagged := by
  have ran : ∃ channel ∈ run step init ([.config 3 5, .control true, .report 3 true, .flag 3,
      .run] ++ List.replicate 129 (.turn .ok) ++ [.report 3 false]), channel.due 3 = true := by
    decide +kernel
  obtain ⟨channel, ran, due⟩ := ran
  exact ⟨channel, ran, due, run_notLost ran⟩

/-- An index that a run has taken is neither marked nor sent, and an index that is reported behind
the back of a run that clears the status bit stays marked without it after the run. -/
theorem not_marked_not_flagged :
    (¬ ∀ {events : List Event} {channel : Notify}, run step init events = some channel →
      ∀ index, channel.due index = true → channel.pending index = true) ∧
    ¬ ∀ {events : List Event} {channel : Notify}, run step init events = some channel →
      channel.phase = .idle → channel.marking = [] →
        ∀ index, channel.pending index = true → channel.status = true := by
  constructor
  · intro always
    have taken : ∃ channel ∈ run step init
        [.config 0 5, .control true, .report 0 true, .flag 0, .run, .turn .ok],
        channel.due 0 = true ∧ channel.pending 0 = false := by
      decide +kernel
    obtain ⟨channel, ran, due, cleared⟩ := taken
    have marked := always ran 0 due
    rw [cleared] at marked
    cases marked
  · intro always
    have raced : ∃ channel ∈ run step init ([.config 0 5, .config 1 5, .control true,
          .report 0 true, .flag 0, .run] ++ List.replicate 134 (.turn .ok) ++
          [.report 1 true, .flag 1, .turn .ok]),
        channel.phase = .idle ∧ channel.marking = [] ∧ channel.pending 1 = true ∧
          channel.status = false := by
      decide +kernel
    obtain ⟨channel, ran, idle, none, marked, cleared⟩ := raced
    have status := always ran idle none 1 marked
    rw [cleared] at status
    cases status

end Notify

end OpenBic.Obmf.GpioNotify
