import OpenBic.Library.Machine

/-!
# The firmware update state machine

The commands of the update agent, the update mode timer and the transfer thread write one
state variable and one flag. A command and the expiry of the timer are one step each (the timer, whose
expiry runs in the interrupt, is taken not to expire inside the handler of a command); the
thread runs in steps between its reads and writes of the shared variables, and any of the
others may come between two of them. What happens is observed in a log, newest first.
-/

namespace OpenBic.Pldm

open Library.Machine

/-- `pldm_firmware_update_state`. -/
inductive State where
  | idle
  | learnComp
  | rdyXfer
  | download
  | verify
  | apply
  | activate
deriving DecidableEq

/-- `pldm_firmware_update_aux_state`. -/
inductive AuxState where
  | inProgress
  | success
  | failed
  | notInUpdate
deriving DecidableEq

/-- Where a transfer thread, `req_fw_update_handler`, is about to go on. -/
inductive ThreadPc where
  | created
  | preUpdate
  | loopHead
  | requesting
  | writing
  | rearm
  | reportFailure
  /-- All data was taken; `TransferComplete` is next. -/
  | reportTransfer
  /-- The state becomes `STATE_VERIFY` next. -/
  | setVerify
  /-- `VerifyComplete` is next. -/
  | reportVerify
  /-- The state becomes `STATE_APPLY` next. -/
  | setApply
  /-- `ApplyComplete` is next. -/
  | reportApply
  /-- The state becomes `STATE_RDY_XFER` next. -/
  | setRdyXfer
  | exiting
deriving DecidableEq

/-- What is observed of a run. -/
inductive Obs where
  /-- `RequestUpdate` is accepted. -/
  | accepted
  /-- `pldm_status_reset`: the update is cancelled or update mode is left. -/
  | exited
  /-- `state_update`, from a state to a state. -/
  | state (before after : State)
  | write

/-- The variables of the firmware device, its live transfer threads, and the log. -/
structure Fd where
  current : State
  previous : State
  aux : AuxState
  keepUpdate : Bool
  /-- Whether `update_mode_timer` runs. -/
  timer : Bool
  compCnt : Nat
  rcvCnt : Nat
  threads : List ThreadPc
  log : List Obs

def Fd.start : Fd :=
  { current := .idle, previous := .idle, aux := .notInUpdate, keepUpdate := false, timer := false,
    compCnt := 0, rcvCnt := 0, threads := [], log := [] }

def Fd.stateUpdate (fd : Fd) (state : State) : Fd :=
  { fd with
    previous := fd.current
    current := state
    timer := state != .idle
    log := .state fd.current state :: fd.log }

def Fd.statusReset (fd : Fd) : Fd :=
  { Fd.stateUpdate { fd with log := .exited :: fd.log } .idle with
    aux := .notInUpdate
    compCnt := 0
    rcvCnt := 0
    keepUpdate := false }

def ccSuccess : UInt8 := 0x00

/-- `PLDM_ERROR`. -/
def ccError : UInt8 := 0x01

/-- `PLDM_ERROR_INVALID_DATA`. -/
def ccInvalidData : UInt8 := 0x02

/-- `PLDM_ERROR_INVALID_LENGTH`. -/
def ccInvalidLength : UInt8 := 0x03

/-- `PLDM_ERROR_UNSUPPORTED_PLDM_CMD`. -/
def ccUnsupportedCmd : UInt8 := 0x05

def ccNotInUpdateMode : UInt8 := 0x80

def ccAlreadyInUpdateMode : UInt8 := 0x81

def ccInvalidStateForCommand : UInt8 := 0x84

def ccSelfContainedActivationNotPermitted : UInt8 := 0x8C

def startAndEnd : Nat := 0x05

def compDownstreamDevice : Nat := 0xFFFF

/-- What the commands about a component carry of it. -/
structure ComponentReq where
  lengthOk : Bool
  classification : Nat
  identifier : Nat
  classificationIndex : Nat

/-- Whether the component is one the device takes: a downstream device of the range allowed. -/
def ComponentReq.valid (req : ComponentReq) : Bool :=
  req.classification == compDownstreamDevice && decide (req.identifier ≤ 0x0FFF) &&
    req.classificationIndex == 0

/-- A command, with what the platform answers while it is handled. -/
inductive Command where
  | requestUpdate (lengthOk : Bool) (numOfComp : Nat)
  /-- `PassComponentTable`; the platform's own check is a success when it has none. -/
  | passComponentTable (req : ComponentReq) (transferFlag : Nat) (platformCheck : UInt8)
  /-- `UpdateComponent`; the component may not be supported, and memory may be refused. -/
  | updateComponent (req : ComponentReq) (supported mallocOk : Bool)
  /-- `ActivateFirmware`; the activation may fail. -/
  | activateFirmware (lengthOk selfContained activated : Bool)
  | cancelUpdate (lengthOk : Bool)
  /-- `CancelUpdateComponent`, which has no handler. -/
  | cancelUpdateComponent
  | getStatus (lengthOk : Bool)

/-- `request_update`, as far as the state goes. -/
def requestUpdate (fd : Fd) (lengthOk : Bool) (numOfComp : Nat) : Fd × UInt8 :=
  if !lengthOk then (fd, ccInvalidLength)
  else if fd.current ≠ .idle then (fd, ccAlreadyInUpdateMode)
  else
    ({ Fd.stateUpdate { fd with compCnt := numOfComp, log := .accepted :: fd.log } .learnComp with
        keepUpdate := true }, ccSuccess)

/-- `pass_component_table`, as far as the state goes. -/
def passComponentTable (fd : Fd) (req : ComponentReq) (transferFlag : Nat)
    (platformCheck : UInt8) : Fd × UInt8 :=
  if !req.lengthOk then (fd, ccInvalidLength)
  else if platformCheck ≠ ccSuccess then (fd, platformCheck)
  else if fd.current ≠ .learnComp then (fd, ccInvalidStateForCommand)
  else if transferFlag ≠ startAndEnd then (fd, ccInvalidData)
  else if !req.valid then (fd, ccInvalidData)
  else
    let rcvCnt := (fd.rcvCnt + 1) % 2 ^ 16
    if rcvCnt = fd.compCnt then ({ fd.stateUpdate .rdyXfer with rcvCnt := 0 }, ccSuccess)
    else ({ fd with rcvCnt }, ccSuccess)

/-- `update_component`, as far as the state goes. -/
def updateComponent (fd : Fd) (req : ComponentReq) (supported mallocOk : Bool) : Fd × UInt8 :=
  if !req.lengthOk then (fd, ccInvalidLength)
  else if fd.current ≠ .rdyXfer then (fd, ccNotInUpdateMode)
  else if !req.valid then (fd, ccInvalidData)
  else if !supported then (fd, ccSuccess)
  else if !mallocOk then (fd, ccError)
  else (Fd.stateUpdate { fd with threads := fd.threads ++ [.created] } .download, ccSuccess)

/-- `activate_firmware`, as far as the state goes. -/
def activateFirmware (fd : Fd) (lengthOk selfContained activated : Bool) : Fd × UInt8 :=
  if !lengthOk then (fd, ccInvalidLength)
  else if fd.current ≠ .rdyXfer then (fd, ccInvalidStateForCommand)
  else if selfContained then (fd, ccInvalidData)
  else if !activated then
    ({ fd.stateUpdate .activate with aux := .failed }, ccSelfContainedActivationNotPermitted)
  else (Fd.statusReset { fd.stateUpdate .activate with aux := .success }, ccSuccess)

/-- `cancel_update`, as far as the state goes. -/
def cancelUpdate (fd : Fd) (lengthOk : Bool) : Fd × UInt8 :=
  if !lengthOk then (fd, ccInvalidLength)
  else if fd.current = .idle then (fd, ccNotInUpdateMode)
  else (fd.statusReset, ccSuccess)

/-- The part of `pldm_get_status_resp` that is not constant. -/
structure GetStatusResp where
  curState : State
  preState : State
  auxState : AuxState
  /-- `aux_state_status`: a generic error after a failure. -/
  auxStateStatus : UInt8

/-- `get_status`, which reads the state. -/
def getStatus (fd : Fd) (lengthOk : Bool) : UInt8 × Option GetStatusResp :=
  if !lengthOk then (ccInvalidLength, none)
  else
    (ccSuccess, some
      { curState := fd.current
        preState := fd.previous
        auxState := fd.aux
        auxStateStatus := if fd.aux = .failed then 0x0A else 0 })

def handle (fd : Fd) : Command → Fd × UInt8
  | .requestUpdate lengthOk numOfComp => requestUpdate fd lengthOk numOfComp
  | .passComponentTable req transferFlag platformCheck =>
    passComponentTable fd req transferFlag platformCheck
  | .updateComponent req supported mallocOk => updateComponent fd req supported mallocOk
  | .activateFirmware lengthOk selfContained activated =>
    activateFirmware fd lengthOk selfContained activated
  | .cancelUpdate lengthOk => cancelUpdate fd lengthOk
  | .cancelUpdateComponent => (fd, ccUnsupportedCmd)
  | .getStatus lengthOk => (fd, (getStatus fd lengthOk).1)

/-- How a step of a thread turns out. -/
inductive Outcome where
  | failed
  | again
  | done
deriving DecidableEq

def Fd.goto (fd : Fd) (index : Nat) (pc : ThreadPc) : Fd :=
  { fd with threads := fd.threads.set index pc }

/-- `report_tranfer` fails: the state is one it reports in, and its request fails. -/
def Fd.reportFails (fd : Fd) (outcome : Outcome) : Bool :=
  (fd.current == .download || fd.current == .verify || fd.current == .apply) &&
    outcome == .failed

def Fd.giveUp (fd : Fd) (index : Nat) : Fd := { fd.goto index .exiting with aux := .failed }

/-- One step of the thread at an index, `req_fw_update_handler`. -/
def threadStep (fd : Fd) (index : Nat) (outcome : Outcome) : ThreadPc → Fd
  | .created =>
    if outcome = .failed then { fd.statusReset with threads := fd.threads.eraseIdx index }
    else fd.goto index .preUpdate
  | .preUpdate =>
    if outcome = .failed then fd.goto index .exiting
    else { fd.goto index .loopHead with aux := .inProgress }
  | .loopHead => if fd.keepUpdate then fd.goto index .requesting else fd.giveUp index
  | .requesting =>
    match outcome with
    | .failed => fd.giveUp index
    | .again => fd.goto index .loopHead
    | .done => fd.goto index .writing
  | .writing =>
    match outcome with
    | .failed => { fd.goto index .reportFailure with log := .write :: fd.log }
    | .again => { fd.goto index .rearm with log := .write :: fd.log }
    | .done => { fd.goto index .reportTransfer with log := .write :: fd.log, aux := .success }
  | .rearm => { fd.goto index .loopHead with timer := true }
  | .reportFailure => fd.giveUp index
  | .reportTransfer =>
    if fd.reportFails outcome then fd.giveUp index else fd.goto index .setVerify
  | .setVerify => (fd.goto index .reportVerify).stateUpdate .verify
  | .reportVerify => if fd.reportFails outcome then fd.giveUp index else fd.goto index .setApply
  | .setApply => (fd.goto index .reportApply).stateUpdate .apply
  | .reportApply =>
    if fd.reportFails outcome then fd.giveUp index else fd.goto index .setRdyXfer
  | .setRdyXfer => { (fd.goto index .exiting).stateUpdate .rdyXfer with aux := .success }
  | .exiting => { fd with threads := fd.threads.eraseIdx index }

/-- What can happen next. -/
inductive Event where
  | command (command : Command)
  /-- The update mode timer expires, `exit_update_mode`. -/
  | timeout
  | thread (index : Nat) (outcome : Outcome)

def step (fd : Fd) : Event → Option Fd
  | .command command => some (handle fd command).1
  | .timeout => if fd.timer then some fd.statusReset else none
  | .thread index outcome => (fd.threads[index]?).map (threadStep fd index outcome)

def hasExited : List Obs → Bool
  | [] => true
  | .accepted :: _ => false
  | .exited :: _ => true
  | _ :: rest => hasExited rest

def latestState : List Obs → State
  | [] => .idle
  | .state _ after :: _ => after
  | _ :: rest => latestState rest

/-- The legal order of the states; every state may be left for `STATE_IDLE`. -/
def legalNext : State → State → Bool
  | _, .idle => true
  | .idle, .learnComp => true
  | .learnComp, .rdyXfer => true
  | .rdyXfer, .download => true
  | .download, .verify => true
  | .verify, .apply => true
  | .apply, .rdyXfer => true
  | .rdyXfer, .activate => true
  | _, _ => false

/-- What may be observed after a log: states in their order, and neither a write nor a state other
than `STATE_IDLE` once the update is left, until one is accepted. -/
def MayFollow (log : List Obs) : Obs → Prop
  | .accepted => True
  | .exited => True
  | .state before after =>
    before = latestState log ∧ legalNext before after = true ∧
      (after = .idle ∨ hasExited log = false)
  | .write => hasExited log = false

/-- Every observation may follow those before it. -/
def Orderly : List Obs → Prop
  | [] => True
  | obs :: log => MayFollow log obs ∧ Orderly log

instance MayFollow.decidable (log : List Obs) : ∀ obs, Decidable (MayFollow log obs)
  | .accepted => .isTrue trivial
  | .exited => .isTrue trivial
  | .state .. => inferInstanceAs (Decidable (_ ∧ _ ∧ (_ ∨ _)))
  | .write => inferInstanceAs (Decidable (_ = _))

instance Orderly.decidable : ∀ log, Decidable (Orderly log)
  | [] => .isTrue trivial
  | obs :: log =>
    have := Orderly.decidable log
    inferInstanceAs (Decidable (MayFollow log obs ∧ Orderly log))

def Command.allowedIn (state : State) : Command → Bool
  | .requestUpdate .. => state == .idle
  | .passComponentTable .. => state == .learnComp
  | .updateComponent .. => state == .rdyXfer
  | .activateFirmware .. => state == .rdyXfer
  | .cancelUpdate .. => state != .idle
  | .cancelUpdateComponent => false
  | .getStatus .. => true

/-- A thread that checks the flag, or ends, before it writes or changes the state. -/
def ThreadPc.cancellable : ThreadPc → Bool
  | .created | .preUpdate | .loopHead | .rearm | .reportFailure | .exiting => true
  | _ => false

def ThreadPc.harmless : ThreadPc → Bool
  | .reportFailure | .exiting => true
  | _ => false

/-- An update is cancelled or times out only while no thread is between its check of the flag and
its next one, a new update is accepted only when no thread of the old one can still go on, and a
component is accepted only when no thread is live. -/
def Guard (fd : Fd) : Event → Prop
  | .command (.requestUpdate lengthOk _) =>
    lengthOk = true → fd.current = .idle → ∀ pc ∈ fd.threads, pc.harmless = true
  | .command (.updateComponent req supported mallocOk) =>
    fd.current = .rdyXfer → (req.lengthOk && req.valid && supported && mallocOk) = true →
      fd.threads = []
  | .command (.cancelUpdate lengthOk) =>
    lengthOk = true → ∀ pc ∈ fd.threads, pc.cancellable = true
  | .timeout => ∀ pc ∈ fd.threads, pc.cancellable = true
  | _ => True

def ThreadPc.fits (state : State) : ThreadPc → Bool
  | .created | .preUpdate | .loopHead | .rearm => state == .download || state == .idle
  | .requesting | .writing | .reportTransfer | .setVerify => state == .download
  | .reportVerify | .setApply => state == .verify
  | .reportApply | .setRdyXfer => state == .apply
  | .reportFailure | .exiting => true

/-- The variables agree with the log, which is orderly. -/
structure Consistent (fd : Fd) : Prop where
  latest : fd.current = latestState fd.log
  exited : hasExited fd.log = (fd.current == .idle)
  keep : fd.keepUpdate = (fd.current != .idle)
  orderly : Orderly fd.log

/-- At most one thread is live, where the state allows. -/
structure OneThread (threads : List ThreadPc) (state : State) : Prop where
  few : threads.length ≤ 1
  fits : ∀ pc ∈ threads, pc.fits state = true

variable {fd : Fd}

/-- A command that is not allowed in the current state changes nothing. -/
theorem handle_refused {command : Command}
    (refused : command.allowedIn fd.current = false) : (handle fd command).1 = fd := by
  cases command with
  | requestUpdate lengthOk numOfComp =>
    have busy : fd.current ≠ .idle := by simpa [Command.allowedIn] using refused
    simp only [handle, requestUpdate, if_pos busy]
    split <;> rfl
  | passComponentTable req transferFlag platformCheck =>
    have other : fd.current ≠ .learnComp := by simpa [Command.allowedIn] using refused
    simp only [handle, passComponentTable, if_pos other]
    split
    · rfl
    · split <;> rfl
  | updateComponent req supported mallocOk =>
    have other : fd.current ≠ .rdyXfer := by simpa [Command.allowedIn] using refused
    simp only [handle, updateComponent, if_pos other]
    split <;> rfl
  | activateFirmware lengthOk selfContained activated =>
    have other : fd.current ≠ .rdyXfer := by simpa [Command.allowedIn] using refused
    simp only [handle, activateFirmware, if_pos other]
    split <;> rfl
  | cancelUpdate lengthOk =>
    have idle : fd.current = .idle := by simpa [Command.allowedIn] using refused
    simp only [handle, cancelUpdate, if_pos idle]
    split <;> rfl
  | cancelUpdateComponent => rfl
  | getStatus lengthOk => rfl

theorem Consistent.statusReset (consistent : Consistent fd) : Consistent fd.statusReset where
  latest := rfl
  exited := rfl
  keep := rfl
  orderly := ⟨⟨consistent.latest, by cases fd.current <;> rfl, .inl rfl⟩, trivial,
    consistent.orderly⟩

theorem Consistent.stateUpdate (consistent : Consistent fd) (state : State)
    (legal : legalNext fd.current state = true) (busy : fd.current ≠ .idle)
    (goes : state ≠ .idle) : Consistent (fd.stateUpdate state) where
  latest := rfl
  exited := by
    have during : hasExited fd.log = false := by simpa [consistent.exited] using busy
    simpa [Fd.stateUpdate, hasExited, during] using goes
  keep := by
    have set : fd.keepUpdate = true := by simpa [consistent.keep] using busy
    simpa [Fd.stateUpdate, set] using goes
  orderly := by
    have during : hasExited fd.log = false := by simpa [consistent.exited] using busy
    exact ⟨⟨consistent.latest, legal, .inr during⟩, consistent.orderly⟩

theorem Consistent.write (consistent : Consistent fd) (busy : fd.current ≠ .idle) :
    Consistent { fd with log := .write :: fd.log } where
  latest := consistent.latest
  exited := consistent.exited
  keep := consistent.keep
  orderly := ⟨by simpa [MayFollow, consistent.exited] using busy, consistent.orderly⟩

theorem Consistent.congr {fd other : Fd} (consistent : Consistent fd)
    (current : other.current = fd.current) (keep : other.keepUpdate = fd.keepUpdate)
    (log : other.log = fd.log) : Consistent other where
  latest := by rw [current, log]; exact consistent.latest
  exited := by rw [current, log]; exact consistent.exited
  keep := by rw [current, keep]; exact consistent.keep
  orderly := by rw [log]; exact consistent.orderly

/-- What every guarded run keeps. -/
structure Safe (fd : Fd) : Prop where
  consistent : Consistent fd
  thread : OneThread fd.threads fd.current

namespace OneThread

variable {threads : List ThreadPc} {state : State}

theorem none (state : State) : OneThread [] state := ⟨by simp, by simp⟩

theorem single {pc : ThreadPc} (fits : pc.fits state = true) : OneThread [pc] state :=
  ⟨by simp, by simpa using fits⟩

theorem of_getElem? (thread : OneThread threads state) {index : Nat} {pc : ThreadPc}
    (live : threads[index]? = some pc) : threads = [pc] ∧ index = 0 ∧ pc.fits state = true := by
  have fits := thread.fits pc (List.mem_of_getElem? live)
  have few := thread.few
  obtain ⟨inside, -⟩ := List.getElem?_eq_some_iff.mp live
  obtain ⟨only, rfl⟩ := List.length_eq_one_iff.mp (by omega : threads.length = 1)
  obtain rfl : index = 0 := by simpa using inside
  obtain rfl : only = pc := by simpa using live
  exact ⟨rfl, rfl, fits⟩

theorem toIdle (thread : OneThread threads state)
    (cancellable : ∀ pc ∈ threads, pc.cancellable = true) : OneThread threads .idle := by
  refine ⟨thread.few, fun pc member => ?_⟩
  have stops := cancellable pc member
  cases pc <;> first | rfl | cases stops

theorem toAny (thread : OneThread threads state)
    (harmless : ∀ pc ∈ threads, pc.harmless = true) (other : State) : OneThread threads other := by
  refine ⟨thread.few, fun pc member => ?_⟩
  have ends := harmless pc member
  cases pc <;> first | rfl | cases ends

theorem harmless_of_state (thread : OneThread threads state)
    (outside : state = .learnComp ∨ state = .rdyXfer ∨ state = .activate) :
    ∀ pc ∈ threads, pc.harmless = true := by
  intro pc member
  have fits := thread.fits pc member
  rcases outside with rfl | rfl | rfl
  all_goals cases pc <;> first | rfl | cases fits

end OneThread

variable {fd : Fd} {pc : ThreadPc}

theorem Safe.statusReset (safe : Safe fd)
    (cancellable : ∀ pc ∈ fd.threads, pc.cancellable = true) : Safe fd.statusReset :=
  ⟨safe.consistent.statusReset, safe.thread.toIdle cancellable⟩

theorem handle_safe {command : Command} (safe : Safe fd)
    (guard : Guard fd (.command command)) : Safe (handle fd command).1 := by
  obtain ⟨consistent, thread⟩ := safe
  have same : Safe fd := ⟨consistent, thread⟩
  cases command with
  | requestUpdate lengthOk numOfComp =>
    simp only [handle, requestUpdate]
    split
    · exact same
    rename_i length
    split
    · exact same
    rename_i idle
    have idle : fd.current = .idle := by simpa using idle
    have harmless := guard (by simpa using length) idle
    refine ⟨⟨rfl, rfl, rfl, ⟨consistent.latest, ?_, .inr rfl⟩, trivial, consistent.orderly⟩,
      thread.toAny harmless _⟩
    change legalNext fd.current .learnComp = true
    rw [idle]
    rfl
  | passComponentTable req transferFlag platformCheck =>
    simp only [handle, passComponentTable]
    split
    · exact same
    split
    · exact same
    split
    · exact same
    rename_i learn
    have learn : fd.current = .learnComp := by simpa using learn
    split
    · exact same
    split
    · exact same
    split
    · have moved := consistent.stateUpdate .rdyXfer (by rw [learn]; rfl)
        (by simp [learn]) (by decide)
      exact ⟨moved.congr rfl rfl rfl, thread.toAny (thread.harmless_of_state (.inl learn)) _⟩
    · exact ⟨consistent.congr rfl rfl rfl, thread⟩
  | updateComponent req supported mallocOk =>
    simp only [handle, updateComponent]
    split
    · exact same
    rename_i length
    split
    · exact same
    rename_i ready
    have ready : fd.current = .rdyXfer := by simpa using ready
    split
    · exact same
    split
    · exact same
    split
    · exact same
    have none := guard ready (by simp_all)
    have created : Consistent { fd with threads := fd.threads ++ [.created] } :=
      consistent.congr rfl rfl rfl
    refine ⟨created.stateUpdate .download ?_ ?_ (by decide), ?_⟩
    · change legalNext fd.current .download = true
      rw [ready]
      rfl
    · change fd.current ≠ .idle
      simp [ready]
    change OneThread (fd.threads ++ [.created]) .download
    rw [none]
    exact .single rfl
  | activateFirmware lengthOk selfContained activated =>
    simp only [handle, activateFirmware]
    split
    · exact same
    split
    · exact same
    rename_i ready
    have ready : fd.current = .rdyXfer := by simpa using ready
    have harmless := thread.harmless_of_state (.inr (.inl ready))
    have moved := consistent.stateUpdate .activate (by rw [ready]; rfl)
      (by simp [ready]) (by decide)
    split
    · exact same
    split
    · exact ⟨moved.congr rfl rfl rfl, thread.toAny harmless _⟩
    · have activated : Consistent { fd.stateUpdate .activate with aux := .success } :=
        moved.congr rfl rfl rfl
      exact ⟨activated.statusReset, thread.toAny harmless _⟩
  | cancelUpdate lengthOk =>
    simp only [handle, cancelUpdate]
    split
    · exact same
    rename_i length
    split
    · exact same
    · exact same.statusReset (guard (by simpa using length))
  | cancelUpdateComponent => exact same
  | getStatus lengthOk => exact same

theorem Safe.goto (safe : Safe fd) (only : fd.threads = [pc])
    (next : ThreadPc) (fits : next.fits fd.current = true) : Safe (fd.goto 0 next) := by
  refine ⟨safe.consistent.congr rfl rfl rfl, ?_⟩
  change OneThread (fd.threads.set 0 next) fd.current
  rw [only]
  exact .single fits

theorem Safe.congr {fd other : Fd} (safe : Safe fd) (current : other.current = fd.current)
    (keep : other.keepUpdate = fd.keepUpdate) (threads : other.threads = fd.threads)
    (log : other.log = fd.log) : Safe other :=
  ⟨safe.consistent.congr current keep log, by rw [threads, current]; exact safe.thread⟩

theorem Safe.giveUp (safe : Safe fd) (only : fd.threads = [pc]) : Safe (fd.giveUp 0) :=
  (safe.goto only .exiting rfl).congr rfl rfl rfl rfl

theorem Safe.advance (safe : Safe fd) (only : fd.threads = [pc])
    (next : ThreadPc) (state : State) (legal : legalNext fd.current state = true)
    (busy : fd.current ≠ .idle) (goes : state ≠ .idle) (fits : next.fits state = true) :
    Safe ((fd.goto 0 next).stateUpdate state) := by
  have moved : Consistent (fd.goto 0 next) := safe.consistent.congr rfl rfl rfl
  refine ⟨moved.stateUpdate state legal busy goes, ?_⟩
  change OneThread (fd.threads.set 0 next) state
  rw [only]
  exact .single fits

theorem Safe.end (safe : Safe fd) (only : fd.threads = [pc]) :
    Safe { fd with threads := fd.threads.eraseIdx 0 } := by
  refine ⟨safe.consistent.congr rfl rfl rfl, ?_⟩
  change OneThread (fd.threads.eraseIdx 0) fd.current
  rw [only]
  exact .none _

theorem Safe.write (safe : Safe fd) (only : fd.threads = [pc])
    (next : ThreadPc) (busy : fd.current ≠ .idle) (fits : next.fits fd.current = true) :
    Safe { fd.goto 0 next with log := .write :: fd.log } := by
  have moved : Consistent (fd.goto 0 next) := safe.consistent.congr rfl rfl rfl
  refine ⟨moved.write busy, ?_⟩
  change OneThread (fd.threads.set 0 next) fd.current
  rw [only]
  exact .single fits

theorem threadStep_safe {index : Nat} {outcome : Outcome}
    (safe : Safe fd) (live : fd.threads[index]? = some pc) :
    Safe (threadStep fd index outcome pc) := by
  obtain ⟨only, rfl, fits⟩ := safe.thread.of_getElem? live
  cases pc with
  | created =>
    unfold threadStep
    dsimp only
    split
    · have left := safe.statusReset (by simp [only, ThreadPc.cancellable])
      exact (left.end only)
    · exact safe.goto only _ fits
  | preUpdate =>
    unfold threadStep
    dsimp only
    split
    · exact safe.goto only _ rfl
    · exact (safe.goto only .loopHead fits).congr rfl rfl rfl rfl
  | loopHead =>
    unfold threadStep
    dsimp only
    split
    · rename_i keep
      have busy : fd.current ≠ .idle := by simpa [safe.consistent.keep] using keep
      refine safe.goto only _ ?_
      simpa [ThreadPc.fits, busy] using fits
    · exact safe.giveUp only
  | requesting =>
    cases outcome with
    | failed => exact safe.giveUp only
    | again =>
      refine safe.goto only _ ?_
      simp only [ThreadPc.fits, beq_iff_eq] at fits
      simp [ThreadPc.fits, fits]
    | done => exact safe.goto only _ fits
  | writing =>
    have state : fd.current = .download := by simpa [ThreadPc.fits] using fits
    cases outcome with
    | failed => exact safe.write only _ (by simp [state]) rfl
    | again => exact safe.write only _ (by simp [state]) (by simp [ThreadPc.fits, state])
    | done =>
      exact (safe.write only .reportTransfer (by simp [state]) fits).congr rfl rfl rfl rfl
  | rearm => exact (safe.goto only .loopHead fits).congr rfl rfl rfl rfl
  | reportFailure => exact safe.giveUp only
  | reportTransfer =>
    unfold threadStep
    dsimp only
    split
    · exact safe.giveUp only
    · exact safe.goto only _ fits
  | setVerify =>
    have state : fd.current = .download := by simpa [ThreadPc.fits] using fits
    exact safe.advance only _ _ (by rw [state]; rfl) (by simp [state]) (by decide) rfl
  | reportVerify =>
    unfold threadStep
    dsimp only
    split
    · exact safe.giveUp only
    · exact safe.goto only _ fits
  | setApply =>
    have state : fd.current = .verify := by simpa [ThreadPc.fits] using fits
    exact safe.advance only _ _ (by rw [state]; rfl) (by simp [state]) (by decide) rfl
  | reportApply =>
    unfold threadStep
    dsimp only
    split
    · exact safe.giveUp only
    · exact safe.goto only _ fits
  | setRdyXfer =>
    have state : fd.current = .apply := by simpa [ThreadPc.fits] using fits
    exact (safe.advance only .exiting .rdyXfer (by rw [state]; rfl)
      (by simp [state]) (by decide) rfl).congr rfl rfl rfl rfl
  | exiting => exact safe.end only

theorem step_safe {fd next : Fd} {event : Event} (safe : Safe fd) (guard : Guard fd event)
    (moved : step fd event = some next) : Safe next := by
  cases event with
  | command command =>
    cases moved
    exact handle_safe safe guard
  | timeout =>
    simp only [step] at moved
    split at moved
    · cases moved
      exact safe.statusReset guard
    · cases moved
  | thread index outcome =>
    obtain ⟨pc, live, rfl⟩ := Option.map_eq_some_iff.mp moved
    exact threadStep_safe safe live

theorem start_safe : Safe .start := ⟨⟨rfl, rfl, rfl, trivial⟩, .none _⟩

/-- What the state machine is to do in a state it has reached. -/
structure WellBehaved (fd : Fd) : Prop where
  /-- The states observed follow the legal order, and after the update was left neither a write
  nor a state other than `STATE_IDLE` was observed before a new one was accepted. -/
  orderly : Orderly fd.log
  latest : fd.current = latestState fd.log
  few : fd.threads.length ≤ 1
  refused : ∀ command : Command, command.allowedIn fd.current = false →
    (handle fd command).1 = fd

/-- In every guarded run of commands, timeouts and thread steps the state machine behaves. -/
theorem run_wellBehaved {events : List Event} {final : Fd}
    (guarded : Meets step Guard .start events) (ran : run step .start events = some final) :
    WellBehaved final := by
  have safe := invariant step_safe start_safe guarded ran
  exact
    { orderly := safe.consistent.orderly
      latest := safe.consistent.latest
      few := safe.thread.few
      refused := fun _ refused => handle_refused refused }

def someComponent : ComponentReq := ⟨true, compDownstreamDevice, 1, 0⟩

def toDownload : List Event :=
  [.command (.requestUpdate true 1), .command (.passComponentTable someComponent startAndEnd 0),
    .command (.updateComponent someComponent true true)]

/-- A whole transfer of one piece, an activation, and the device is idle again. -/
def wholeUpdate : List Event :=
  toDownload ++ List.replicate 12 (.thread 0 .done) ++
    [.command (.activateFirmware true false true)]

instance Guard.decidable (fd : Fd) : ∀ event, Decidable (Guard fd event)
  | .command (.requestUpdate ..) => inferInstanceAs (Decidable (_ → _ → ∀ pc ∈ _, _))
  | .command (.updateComponent ..) => inferInstanceAs (Decidable (_ → _ → _))
  | .command (.cancelUpdate _) => inferInstanceAs (Decidable (_ → ∀ pc ∈ _, _))
  | .timeout => inferInstanceAs (Decidable (∀ pc ∈ _, _))
  | .command (.passComponentTable ..) | .command (.activateFirmware ..)
  | .command .cancelUpdateComponent | .command (.getStatus ..) | .thread .. => .isTrue trivial

/-- A whole update, from the request to the activation. -/
theorem run_wellBehaved_wholeUpdate :
    ∃ final, run step .start wholeUpdate = some final ∧ WellBehaved final :=
  ⟨_, rfl, run_wellBehaved (by decide : Meets step Guard .start wholeUpdate) rfl⟩

/-- The update is cancelled after the data of a request came, and the thread still writes it. -/
theorem run_cancelled_writes :
    ¬ ∀ (events : List Event) (final : Fd), run step .start events = some final →
      WellBehaved final := by
  intro always
  have behaved := always (toDownload ++ List.replicate 4 (.thread 0 .done) ++
    [.command (.cancelUpdate true), .thread 0 .done]) _ rfl
  exact absurd behaved.orderly (by decide)

end OpenBic.Pldm
