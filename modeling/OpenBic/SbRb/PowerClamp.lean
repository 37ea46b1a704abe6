import Mathlib.Tactic.SplitIfs
import Mathlib.Tactic.ByContra
import OpenBic.Library.Machine

/-!
# The power clamp register

The threads of the Rainbow board that write `CPLD_OFFSET_POWER_CLAMP`: `power_capping_handler` and
`set_power_capping_method` of `plat_power_capping.c`, and the throttle switches of the shell. They
take turns where they wait, at each access to the register and at each store to what they share.
Any number of setters is at work at a time, each at its place in the code.
-/

namespace OpenBic.SbRb.PowerClamp

open Library.Machine

/-! ## The threads -/

/-- `CAPPING_METHOD`. -/
inductive Method where
  | lookUpTable
  | creditBase
deriving DecidableEq

/-- Where `power_capping_handler` is. -/
inductive Handler where
  | waiting
  | taken
  | looking
  | writing (data finalUcrStatus : UInt8)
  /-- It has written the register. -/
  | storing (finalUcrStatus : UInt8)
deriving DecidableEq

/-- Where a call of `set_power_capping_method`, which has stored the method, or a switch command
is; the data are those that it has read and those that it is to write or store. -/
inductive Setter where
  | readMethod (method : Method)
  | storeSwitches (method : Method) (read : UInt8)
  | writeMethod (read data : UInt8)
  | clearPrev
  | readSwitch (enable : Bool) (switches : UInt8)
  | writeSwitch (data : UInt8)
  | storeSwitch (data : UInt8)
deriving DecidableEq

/-- The register, what the threads share and where each of them is. -/
structure State where
  method : Method
  lvSwitchEnVal : UInt8
  prevSetUcrStatus : UInt8
  finalUcrStatus : UInt8
  clamp : UInt8
  sem : Bool
  /-- Whether the latest access to the register has succeeded. -/
  accessed : Bool
  handler : Handler
  setters : List Setter

def State.getFinalUcrStatus (state : State) : UInt8 := state.finalUcrStatus &&& 0xf0

def setPowerCappingLvSwitchEnVal (val : UInt8) : UInt8 := val &&& 0x0f

def methodData (method : Method) (data : UInt8) : UInt8 :=
  match method with
  | .lookUpTable => (data &&& 0x09) ||| 0x06
  | .creditBase => data &&& 0x09

/-- `cmd_throttle_status_en` and `cmd_throttle_status_dis`, for some of the three switches. -/
def switchData (enable : Bool) (switches data : UInt8) : UInt8 :=
  if enable then data ||| (switches &&& 0x0e) else data &&& ~~~(switches &&& 0x0e)

/-- A setter goes on, to its next place or to its end; an access succeeds or not. -/
def Setter.next (state : State) (ok : Bool) : Setter → State × Option Setter
  | .readMethod method =>
    ({ state with accessed := ok }, if ok then some (.storeSwitches method state.clamp) else none)
  | .storeSwitches method read =>
    ({ state with lvSwitchEnVal := setPowerCappingLvSwitchEnVal (methodData method read) },
      some (.writeMethod read (methodData method read)))
  | .writeMethod _ data =>
    ({ state with clamp := if ok then data else state.clamp, accessed := ok }, some .clearPrev)
  | .clearPrev => ({ state with prevSetUcrStatus := 0 }, none)
  | .readSwitch enable switches =>
    ({ state with accessed := ok },
      if ok then some (.writeSwitch (switchData enable switches state.clamp)) else none)
  | .writeSwitch data =>
    ({ state with clamp := if ok then data else state.clamp, accessed := ok },
      if ok then some (.storeSwitch data) else none)
  | .storeSwitch data =>
    ({ state with lvSwitchEnVal := setPowerCappingLvSwitchEnVal data }, none)

/-- What can happen next. -/
inductive Event where
  | status (finalUcrStatus : UInt8)
  | give
  | take
  | checkMethod
  | look
  | write (written : Bool)
  | storePrev
  | setMethod (method : Method)
  | switchCommand (enable : Bool) (switches : UInt8)
  /-- The setter at this place of the list goes on. -/
  | setter (index : Nat) (ok : Bool)

def step (state : State) : Event → Option State
  -- A change of the status comes with a give.
  | .status finalUcrStatus => some { state with finalUcrStatus, sem := true }
  | .give => some { state with sem := true }
  | .take =>
    if state.handler = .waiting ∧ state.sem = true then
      some { state with sem := false, handler := .taken }
    else none
  | .checkMethod =>
    if state.handler = .taken then some { state with
      handler := if state.method = .lookUpTable then .looking else .waiting }
    else none
  | .look =>
    if state.handler = .looking then some { state with
      handler := if state.prevSetUcrStatus ≠ state.getFinalUcrStatus then
          .writing ((state.lvSwitchEnVal &&& 0x0f) ||| state.getFinalUcrStatus)
            state.getFinalUcrStatus
        else .waiting }
    else none
  | .write written =>
    match state.handler with
    | .writing data finalUcrStatus => some { state with
        clamp := if written then data else state.clamp
        accessed := written
        handler := if written then .storing finalUcrStatus else .waiting }
    | _ => none
  | .storePrev =>
    match state.handler with
    | .storing finalUcrStatus =>
      some { state with prevSetUcrStatus := finalUcrStatus, handler := .waiting }
    | _ => none
  | .setMethod method =>
    some { state with method, setters := state.setters ++ [.readMethod method] }
  | .switchCommand enable switches =>
    some { state with setters := state.setters ++ [.readSwitch enable switches] }
  | .setter index ok =>
    match state.setters[index]? with
    | none => none
    | some setter =>
      let (after, place) := setter.next state ok
      some { after with
        setters := match place with
          | some place => state.setters.set index place
          | none => state.setters.eraseIdx index }

/-- The threads behind `plat_power_capping_init`, with the switches that the register has. -/
def start (switches : UInt8) : State :=
  ⟨.lookUpTable, switches &&& 0x0f, 0, 0, switches &&& 0x0f, false, true, .waiting, []⟩

/-! ## What is claimed -/

def State.due (state : State) : UInt8 :=
  if state.method = .lookUpTable then state.getFinalUcrStatus else 0

/-- The switches that a setter between its store and its access leaves in the register:
`set_power_capping_method` stores them just before it writes them, a switch command just after. -/
def Setter.configured : Setter → Option UInt8
  | .writeMethod read _ => some (read &&& 0x0f)
  | .storeSwitch data => some (data &&& 0x0f)
  | .readMethod _ | .storeSwitches .. | .clearPrev | .readSwitch .. | .writeSwitch _ => none

/-- The configured switches. A change of them counts from its write on. -/
def State.configured (state : State) : UInt8 :=
  (state.setters.findSome? Setter.configured).getD state.lvSwitchEnVal

/-- When the handler waits, no give is pending and the last access has succeeded, the register has
the bits that are due and the switches that are configured. -/
def ClampRight (state : State) : Prop :=
  state.handler = .waiting → state.sem = false → state.accessed = true →
    state.clamp &&& 0xf0 = state.due ∧ state.clamp &&& 0x0f = state.configured

/-- Only one thread is at work, each from its start to its end. A change of the method finds no
over-power bit in the register, and none that is due for the look-up table without a give, and its
write succeeds; a switch command begins when no failed write of the handler is still to be made up
for. -/
def Guarded (state : State) : Event → Prop
  | .take => state.setters = []
  | .setMethod method => state.handler = .waiting ∧ state.setters = [] ∧
      state.prevSetUcrStatus = 0 ∧
        (method = .lookUpTable → state.getFinalUcrStatus = 0 ∨ state.sem = true)
  | .switchCommand _ _ => state.handler = .waiting ∧ state.setters = [] ∧
      (state.prevSetUcrStatus = state.due ∨ state.sem = true)
  | .setter index ok => ∀ read data,
      state.setters[index]? = some (.writeMethod read data) → ok = true
  | _ => True

/-! ## The bits -/

theorem eq_of_bits {first second : UInt8} (same : ∀ index (inside : index < 8),
    first.toBitVec[index] = second.toBitVec[index]) : first = second :=
  UInt8.toBitVec_inj.mp (BitVec.eq_of_getElem_eq same)

theorem bit_cases {index : Nat} (inside : index < 8) : index = 0 ∨ index = 1 ∨ index = 2 ∨
    index = 3 ∨ index = 4 ∨ index = 5 ∨ index = 6 ∨ index = 7 := by omega

theorem high_or (low high : UInt8) :
    ((low &&& 0x0f) ||| (high &&& 0xf0)) &&& 0xf0 = high &&& 0xf0 := by
  refine eq_of_bits fun index inside => ?_
  rcases bit_cases inside with rfl | rfl | rfl | rfl | rfl | rfl | rfl | rfl <;> simp

theorem low_or (low high : UInt8) :
    ((low &&& 0x0f) ||| (high &&& 0xf0)) &&& 0x0f = low &&& 0x0f := by
  refine eq_of_bits fun index inside => ?_
  rcases bit_cases inside with rfl | rfl | rfl | rfl | rfl | rfl | rfl | rfl <;> simp

theorem high_methodData (method : Method) (data : UInt8) :
    methodData method data &&& 0xf0 = 0 := by
  refine eq_of_bits fun index inside => ?_
  cases method with
  | lookUpTable =>
    rcases bit_cases inside with rfl | rfl | rfl | rfl | rfl | rfl | rfl | rfl <;> simp [methodData]
  | creditBase =>
    rcases bit_cases inside with rfl | rfl | rfl | rfl | rfl | rfl | rfl | rfl <;> simp [methodData]

theorem high_switchData (enable : Bool) (switches data : UInt8) :
    switchData enable switches data &&& 0xf0 = data &&& 0xf0 := by
  refine eq_of_bits fun index inside => ?_
  cases enable with
  | false =>
    rcases bit_cases inside with rfl | rfl | rfl | rfl | rfl | rfl | rfl | rfl <;> simp [switchData]
  | true =>
    rcases bit_cases inside with rfl | rfl | rfl | rfl | rfl | rfl | rfl | rfl <;> simp [switchData]

theorem and_again (byte mask : UInt8) : byte &&& mask &&& mask = byte &&& mask := by
  rw [UInt8.and_assoc, UInt8.and_self]

/-! ## What a step keeps -/

/-- What the handler may rely on where it is. -/
def Handler.Holds (state : State) : Handler → Prop
  | .waiting | .taken => True
  | .looking => state.method = .lookUpTable
  | .writing data finalUcrStatus => state.method = .lookUpTable ∧
      data &&& 0xf0 = finalUcrStatus ∧ data &&& 0x0f = state.lvSwitchEnVal ∧
        (finalUcrStatus = state.getFinalUcrStatus ∨ state.sem = true)
  | .storing finalUcrStatus => state.method = .lookUpTable ∧
      (finalUcrStatus = state.getFinalUcrStatus ∨ state.sem = true)

/-- What a setter may rely on where it is. -/
def Setter.Holds (state : State) : Setter → Prop
  | .readMethod _ | .clearPrev => state.prevSetUcrStatus = 0
  | .storeSwitches _ read =>
    state.prevSetUcrStatus = 0 ∧ read &&& 0x0f = state.lvSwitchEnVal
  | .writeMethod _ data =>
    state.prevSetUcrStatus = 0 ∧ data &&& 0xf0 = 0 ∧ data &&& 0x0f = state.lvSwitchEnVal
  | .writeSwitch data => data &&& 0xf0 = state.prevSetUcrStatus
  | .readSwitch .. | .storeSwitch _ => True

/-- The over-power bits that the threads take the register to have. -/
def State.shown (state : State) : UInt8 :=
  match state.handler with
  | .storing finalUcrStatus => finalUcrStatus
  | _ => state.prevSetUcrStatus

/-- What holds in every state. -/
structure Sound (state : State) : Prop where
  high : state.clamp &&& 0xf0 = state.shown
  low : state.clamp &&& 0x0f = state.configured
  credit : state.method = .creditBase → state.prevSetUcrStatus = 0
  one : state.setters.length ≤ 1
  alone : state.handler ≠ .waiting → state.setters = []
  setter : ∀ setter ∈ state.setters, setter.Holds state
  works : state.handler.Holds state
  ready : state.handler = .waiting → state.sem = false →
    state.accessed = true ∨ state.setters ≠ [] → state.prevSetUcrStatus = state.due

variable {state next : State}

theorem shown_of_waiting (waits : state.handler = .waiting) :
    state.shown = state.prevSetUcrStatus := by
  simp [State.shown, waits]

theorem configured_of_idle (idle : state.setters = []) :
    state.configured = state.lvSwitchEnVal := by
  simp [State.configured, idle]

theorem Sound.right (sound : Sound state) : ClampRight state := by
  refine fun waits quiet accessed => ⟨?_, sound.low⟩
  rw [sound.high, shown_of_waiting waits]
  exact sound.ready waits quiet (.inl accessed)

theorem Sound.waits (sound : Sound state) (works : state.setters ≠ []) :
    state.handler = .waiting := by
  by_contra elsewhere
  exact works (sound.alone elsewhere)

theorem due_of_creditBase (credit : state.method = .creditBase) : state.due = 0 :=
  if_neg (by rw [credit]; decide)

theorem Sound.take (sound : Sound state) (guarded : Guarded state .take)
    (moved : step state .take = some next) : Sound next := by
  simp only [step] at moved
  split_ifs at moved with takes
  cases moved
  have high := sound.high
  rw [shown_of_waiting takes.1] at high
  exact ⟨high, sound.low, sound.credit, sound.one, fun _ => guarded, sound.setter, trivial, nofun⟩

theorem Sound.checkMethod (sound : Sound state) (moved : step state .checkMethod = some next) :
    Sound next := by
  simp only [step] at moved
  split_ifs at moved with taken table
  all_goals
    cases moved
    have idle := sound.alone (by rw [taken]; nofun)
    have high := sound.high
    rw [State.shown, taken] at high
  · exact ⟨high, sound.low, sound.credit, sound.one, fun _ => idle, sound.setter, table, nofun⟩
  · have credit : state.method = .creditBase := by
      cases method : state.method with
      | lookUpTable => exact absurd method table
      | creditBase => rfl
    exact ⟨high, sound.low, sound.credit, sound.one, fun works => absurd rfl works, sound.setter,
      trivial, fun _ _ _ => (sound.credit credit).trans (due_of_creditBase credit).symm⟩

theorem Sound.look (sound : Sound state) (moved : step state .look = some next) :
    Sound next := by
  simp only [step] at moved
  split_ifs at moved with looking other
  all_goals
    have table : state.method = .lookUpTable := by
      have works := sound.works
      rw [looking] at works
      exact works
    have idle := sound.alone (by rw [looking]; nofun)
    have high := sound.high
    rw [State.shown, looking] at high
    cases moved
  · refine ⟨high, sound.low, sound.credit, sound.one, fun _ => idle, sound.setter,
      ⟨table, high_or _ _, ?_, .inl rfl⟩, nofun⟩
    have low := sound.low
    rw [configured_of_idle idle] at low
    rw [State.getFinalUcrStatus, low_or, ← low, and_again]
  · exact ⟨high, sound.low, sound.credit, sound.one, fun works => absurd rfl works, sound.setter,
      trivial, fun _ _ _ => (not_not.mp other).trans (if_pos table).symm⟩

theorem Sound.write (sound : Sound state) {written : Bool}
    (moved : step state (.write written) = some next) : Sound next := by
  simp only [step] at moved
  split at moved
  · rename_i data finalUcrStatus writing
    have holds := sound.works
    rw [writing] at holds
    obtain ⟨table, high, low, latest⟩ := holds
    have idle := sound.alone (by rw [writing]; nofun)
    have before := sound.high
    rw [State.shown, writing] at before
    cases moved
    cases written with
    | true =>
      exact ⟨high, low.trans (configured_of_idle idle).symm, sound.credit, sound.one,
        fun _ => idle, fun _ member => by simp [idle] at member, ⟨table, latest⟩, nofun⟩
    | false =>
      refine ⟨before, sound.low, sound.credit, sound.one, fun waits => absurd rfl waits,
        fun _ member => by simp [idle] at member, trivial, fun _ _ accessed => ?_⟩
      rcases accessed with done | works
      · cases done
      · exact absurd idle works
  · cases moved

theorem Sound.storePrev (sound : Sound state) (moved : step state .storePrev = some next) :
    Sound next := by
  simp only [step] at moved
  split at moved
  · rename_i finalUcrStatus storing
    have holds := sound.works
    rw [storing] at holds
    obtain ⟨table, latest⟩ := holds
    have idle := sound.alone (by rw [storing]; nofun)
    have high := sound.high
    rw [State.shown, storing] at high
    cases moved
    refine ⟨high, sound.low, fun credit => ?_, sound.one, fun waits => absurd rfl waits,
      fun _ member => by simp [idle] at member, trivial, fun _ quiet _ => ?_⟩
    · nomatch (table.symm.trans credit)
    · refine (latest.resolve_right ?_).trans (if_pos table).symm
      rw [show state.sem = false from quiet]
      decide
  · cases moved

theorem Sound.pend (sound : Sound state) (finalUcrStatus : UInt8) :
    Sound { state with finalUcrStatus, sem := true } := by
  refine ⟨sound.high, sound.low, sound.credit, sound.one, sound.alone, ?_, ?_, nofun⟩
  · intro setter member
    have holds := sound.setter setter member
    cases setter <;> exact holds
  have works := sound.works
  change state.handler.Holds _
  cases handler : state.handler with
  | waiting => trivial
  | taken => trivial
  | looking => exact (handler ▸ works :)
  | writing data status =>
    rw [handler] at works
    exact ⟨works.1, works.2.1, works.2.2.1, .inr rfl⟩
  | storing status =>
    rw [handler] at works
    exact ⟨works.1, .inr rfl⟩

/-- A setter begins while no other thread is at work. -/
theorem Sound.begin (sound : Sound state) (waits : state.handler = .waiting)
    (idle : state.setters = []) (method : Method) {setter : Setter}
    (outside : setter.configured = none) (credit : method = .creditBase → state.prevSetUcrStatus = 0)
    (holds : setter.Holds { state with method, setters := state.setters ++ [setter] })
    (ready : state.sem = false → state.prevSetUcrStatus = { state with method }.due) :
    Sound { state with method, setters := state.setters ++ [setter] } := by
  have high := sound.high
  rw [shown_of_waiting waits] at high
  have low := sound.low
  refine ⟨?_, ?_, credit, ?_, fun works => absurd waits works, ?_, ?_, fun _ quiet _ => ready quiet⟩
  · exact high.trans (shown_of_waiting waits).symm
  · simpa [State.configured, idle, outside] using low
  · simp [idle]
  · intro other member
    obtain rfl : other = setter := by simpa [idle] using member
    exact holds
  · change state.handler.Holds _
    rw [waits]
    trivial

/-- The only setter goes on. -/
theorem Sound.go (sound : Sound state) {setter : Setter} (only : state.setters = [setter])
    {after : State} (handler : after.handler = state.handler) (method : after.method = state.method)
    (status : after.finalUcrStatus = state.finalUcrStatus) (sem : after.sem = state.sem)
    (setters : after.setters.length ≤ 1) (prev : after.prevSetUcrStatus = state.prevSetUcrStatus)
    (high : after.clamp &&& 0xf0 = state.prevSetUcrStatus)
    (low : after.clamp &&& 0x0f = after.configured)
    (holds : ∀ other ∈ after.setters, other.Holds after) : Sound after := by
  have some : state.setters ≠ [] := by simp [only]
  have waits := sound.waits some
  have waits' : after.handler = .waiting := handler.trans waits
  refine ⟨?_, low, ?_, setters, fun works => absurd waits' works, holds, ?_, fun _ quiet _ => ?_⟩
  · rw [high, shown_of_waiting waits', prev]
  · rw [method, prev]
    exact sound.credit
  · rw [waits']
    trivial
  · rw [prev, sound.ready waits (sem.symm.trans quiet) (.inr some)]
    simp only [State.due, State.getFinalUcrStatus, method, status]

theorem Sound.goOn (sound : Sound state) {index : Nat} {ok : Bool}
    (guarded : Guarded state (.setter index ok))
    (moved : step state (.setter index ok) = some next) : Sound next := by
  simp only [step] at moved
  split at moved
  · cases moved
  rename_i setter found
  obtain ⟨inside, same⟩ := List.getElem?_eq_some_iff.mp found
  have one := sound.one
  obtain rfl : index = 0 := by omega
  obtain ⟨only, single⟩ := List.length_eq_one_iff.mp (show state.setters.length = 1 by omega)
  obtain rfl : only = setter := by simpa [single] using same
  have holds := sound.setter only (by simp [single])
  have high := sound.high
  rw [shown_of_waiting (sound.waits (by simp [single]))] at high
  have low := sound.low
  simp only [State.configured, single, List.findSome?_cons, List.findSome?_nil] at low
  simp only [single] at moved
  cases moved
  cases only with
  | readMethod method =>
    refine sound.go single rfl rfl rfl rfl ?_ rfl high ?_ ?_
    all_goals cases ok
    · exact Nat.zero_le _
    · exact le_rfl
    · exact low
    · exact low
    · exact nofun
    · intro other member
      obtain rfl := List.mem_singleton.mp member
      exact ⟨holds, low⟩
  | storeSwitches method read =>
    refine sound.go single rfl rfl rfl rfl le_rfl rfl high ?_ ?_
    · exact low.trans holds.2.symm
    · intro other member
      obtain rfl := List.mem_singleton.mp member
      exact ⟨holds.1, high_methodData _ _, rfl⟩
  | writeMethod read data =>
    obtain rfl : ok = true := guarded read data found
    refine sound.go single rfl rfl rfl rfl le_rfl rfl ?_ holds.2.2 ?_
    · exact holds.2.1.trans holds.1.symm
    · intro other member
      obtain rfl := List.mem_singleton.mp member
      exact holds.1
  | clearPrev =>
    have zero : state.prevSetUcrStatus = 0 := holds
    exact sound.go single rfl rfl rfl rfl (Nat.zero_le _) zero.symm high low
      nofun
  | readSwitch enable switches =>
    refine sound.go single rfl rfl rfl rfl ?_ rfl high ?_ ?_
    all_goals cases ok
    · exact Nat.zero_le _
    · exact le_rfl
    · exact low
    · exact low
    · exact nofun
    · intro other member
      obtain rfl := List.mem_singleton.mp member
      exact (high_switchData _ _ _).trans high
  | writeSwitch data =>
    refine sound.go single rfl rfl rfl rfl ?_ rfl ?_ ?_ ?_
    all_goals cases ok
    · exact Nat.zero_le _
    · exact le_rfl
    · exact high
    · exact holds
    · exact low
    · rfl
    · exact nofun
    · intro other member
      obtain rfl := List.mem_singleton.mp member
      trivial
  | storeSwitch data =>
    exact sound.go single rfl rfl rfl rfl (Nat.zero_le _) rfl high low
      nofun

/-- A guarded event keeps the register in step with the setting. -/
theorem Sound.step {event : Event} (sound : Sound state) (guarded : Guarded state event)
    (moved : step state event = some next) : Sound next := by
  cases event with
  | status finalUcrStatus =>
    rw [← Option.some.inj moved]
    exact sound.pend finalUcrStatus
  | give =>
    rw [← Option.some.inj moved]
    exact sound.pend state.finalUcrStatus
  | take => exact sound.take guarded moved
  | checkMethod => exact sound.checkMethod moved
  | look => exact sound.look moved
  | write written => exact sound.write moved
  | storePrev => exact sound.storePrev moved
  | setMethod method =>
    obtain ⟨waits, idle, zero, quiet⟩ := guarded
    cases moved
    refine sound.begin waits idle method rfl (fun _ => zero) zero fun calm => ?_
    cases method with
    | creditBase => exact zero
    | lookUpTable =>
      refine zero.trans ((quiet rfl).resolve_right ?_).symm
      rw [calm]
      decide
  | switchCommand enable switches =>
    obtain ⟨waits, idle, ready⟩ := guarded
    cases moved
    refine sound.begin waits idle state.method rfl sound.credit trivial fun quiet => ?_
    refine ready.resolve_right ?_
    rw [quiet]
    decide
  | setter index ok => exact sound.goOn guarded moved

/-! ## Runs -/

theorem sound_start (switches : UInt8) : Sound (start switches) := by
  have ready : (0 : UInt8) = 0 &&& 0xf0 := by decide
  refine ⟨?_, and_again _ _, fun _ => rfl, Nat.zero_le _, fun works => absurd rfl works,
    nofun, trivial, fun _ _ _ => ready⟩
  refine eq_of_bits fun index inside => ?_
  rcases bit_cases inside with rfl | rfl | rfl | rfl | rfl | rfl | rfl | rfl <;>
    simp [start, State.shown]

/-- Where the guard is met, the register is right in every state. -/
theorem clampRight_run {switches : UInt8} {events : List Event} {final : State}
    (meets : Meets step Guarded (start switches) events)
    (ran : run step (start switches) events = some final) : ClampRight final :=
  (invariant Sound.step (sound_start switches) meets ran).right

def handles : List Event := [.take, .checkMethod, .look, .write true, .storePrev]

def levelBegins : List Event := .status 0x80 :: handles

/-- A level that begins. -/
theorem clampRight_run_levelBegins : ∃ final,
    run step (start 0x0e) levelBegins = some final ∧ ClampRight final := by
  refine ⟨_, rfl, @clampRight_run 0x0e levelBegins _ ?_ rfl⟩
  exact ⟨trivial, rfl, trivial, trivial, trivial, trivial, trivial⟩

/-- A setter comes to its end, and each of its accesses succeeds. -/
def sets (places : Nat) : List Event := List.replicate places (.setter 0 true)

/-- The credit method is set while the handler has a bit to write, which stays clamped. -/
def setMeanwhile : List Event :=
  [.status 0x80, .take, .checkMethod, .look, .setMethod .creditBase] ++ sets 4 ++
    [.write true, .storePrev]

/-- A level begins, and is handled, after the method has been written and before its setter clears
`prev_set_ucr_status`; when the level ends its bit stays clamped. -/
def clearedLate : List Event :=
  .setMethod .lookUpTable :: sets 3 ++ levelBegins ++ sets 1 ++
    [.status 0x00, .take, .checkMethod, .look]

/-- A setter that runs while a level ends, and one that clears what the handler stored. -/
theorem setMeanwhile_not_clampRight :
    (∃ final, run step (start 0x0e) setMeanwhile = some final ∧ ¬ ClampRight final) ∧
      ∃ final, run step (start 0x0e) clearedLate = some final ∧ ¬ ClampRight final := by
  refine ⟨⟨_, rfl, fun right => ?_⟩, ⟨_, rfl, fun right => ?_⟩⟩
  · exact absurd (right rfl rfl rfl).1 (by decide)
  · exact absurd (right rfl rfl rfl).1 (by decide)

end OpenBic.SbRb.PowerClamp
