import OpenBic.Library.Machine
import OpenBic.Library.Tiling
import OpenBic.Library.Splice

/-!
# Requests from the host by KCS

The tasks `kcs_read_task` of `kcs.c`, one for each channel, and the queue of the works that they
schedule, as they are with PLDM to the BMC. A task reads a request, answers it, and can leave a work
to the queue; the tasks and the queue share the number of works. A step of a task ends where it
looks at this number or changes it, or hands its work over.
-/

namespace OpenBic.Kcs

open List Library Library.Machine Library.Splice Library.Parts

/-! ## The code -/

def kcsBuffSize : Nat := 256

def maxKcsWorkCount : Nat := 5

def addSelEventDataMaxLen : Nat := 18

def netfnAppReq : UInt8 := 0x06

def netfnStorageReq : UInt8 := 0x0A

def netfnOemReq : UInt8 := 0x30

def netfnOemQReq : UInt8 := 0x36

def cmdAppSetSysInfoParams : UInt8 := 0x58

def cmdStorageAddSel : UInt8 := 0x44

def cmdOemCrashDump : UInt8 := 0x70

def cmdOemPostStart : UInt8 := 0x73

def cmdOemPostEnd : UInt8 := 0x74

def cmdOemQSetDimmInfo : UInt8 := 0x12

def cmdSysInfoFwVersion : UInt8 := 0x01

def cmdDimmLocation : UInt8 := 0x01

def ccSuccess : UInt8 := 0x00

def ccTimeout : UInt8 := 0xC3

def ccLengthExceeded : UInt8 := 0xC8

def ccUnspecifiedError : UInt8 := 0xFF

def lengthIndex : Nat := 5

def verionsStartIndex : Nat := 6

/-- What a platform says of requests, by their network function and their command. -/
structure Platform where
  /-- `pal_request_msg_to_BIC_from_HOST`: they are for the BIC. -/
  requestMsgToBic : UInt8 → UInt8 → Bool
  /-- `pal_immediate_respond_from_HOST`: they are answered at once. -/
  immediateRespond : UInt8 → UInt8 → Bool

/-- The handlers of works. -/
inductive WorkHandler where
  | addSel
  | crashDump
  | oemPostStartEnd
  | biosFwVersion
deriving DecidableEq

/-- `kcs_work_info`, with the request that it is for. -/
structure KcsWorkInfo where
  handler : WorkHandler
  buffer : Nat
  /-- `ibuf`, and what lies behind it in memory. -/
  ibuf : Nat → UInt8
  dataLength : Nat
  request : List UInt8

/-- A request that is being answered. -/
structure Answering where
  request : List UInt8
  driver : Nat → Bool
  writes : Nat
  answers : List (List UInt8)
  kcsBuff : Nat
  netfn : UInt8
  cmd : UInt8

def Answering.write (answering : Answering) (bytes : List UInt8) : Answering := { answering with
  writes := answering.writes + 1
  answers := if answering.driver answering.writes then answering.answers ++ [bytes]
    else answering.answers }

/-- The first three bytes of `kcs_buff`. -/
def Answering.header (answering : Answering) (completionCode : UInt8) : List UInt8 :=
  [(answering.netfn ||| 1) <<< 2, answering.cmd, completionCode]

/-- Where a task is. -/
inductive Phase where
  | polling
  /-- It has made a work and is before its look at `work_count`. -/
  | checks (answering : Answering) (work : KcsWorkInfo)
  | schedules (answering : Answering) (work : KcsWorkInfo)
  /-- It has put a work into the queue and is before it raises `work_count`. -/
  | counts (answering : Answering) (handler : WorkHandler)

/-- `kcs_read_task` of a channel. -/
structure ReadTask where
  ibuf : Nat → UInt8
  phase : Phase

/-- A request that the task is done with. -/
structure Ended where
  channel : Nat
  request : List UInt8
  handed : Bool
  answers : List (List UInt8)

/-- What is sent to the BMC. -/
inductive BmcMessage where
  /-- `pldm_platform_event_message_req`, with the event data. -/
  | platformEvent (eventData : List UInt8)
  /-- `send_event_log_to_bmc`: the POST started, or it ended. -/
  | eventLog (postStarted : Bool)
  /-- `PLDM_OEM_WRITE_FILE_IO` of a `CRASH_DUMP`. -/
  | crashDump (messages : List UInt8)
  /-- `PLDM_OEM_WRITE_FILE_IO` of a `BIOS_VERSION`. -/
  | biosVersion (messages : List UInt8)
deriving DecidableEq

/-- The tasks, the queue, and what was done. Buffers are numbered as they are allocated. -/
structure KcsState where
  workCount : UInt8
  tasks : List ReadTask
  queue : List KcsWorkInfo
  allocated : Nat
  freed : List Nat
  ended : List Ended
  forwarded : List (KcsWorkInfo × BmcMessage)
  strayed : Bool

/-- What comes of a request while it is read. -/
structure ReadAnswers where
  /-- There is memory for `kcs_buff`. -/
  kcsBuff : Bool
  /-- There is memory for `kcs_work`. -/
  kcsWork : Bool
  /-- What the memory of `kcs_work` holds, from its `ibuf` on. -/
  memory : Nat → UInt8
  driver : Nat → Bool
  /-- `pal_record_bios_fw_version` does not return -1. -/
  recordBiosFwVersion : Bool
  setDimmPresenceStatus : Bool

/-- Whether there is memory while a work is executed. -/
structure ExecuteAnswers where
  /-- For `bios_info`. -/
  biosInfo : Bool
  /-- For `bios_version_str`. -/
  biosVersionStr : Bool
  /-- For `text_strings`. -/
  textStrings : Bool
  message : Bool

/-- What can happen. -/
inductive KcsEvent where
  | read (channel : Nat) (request : List UInt8) (answers : ReadAnswers)
  /-- A task looks at `work_count`. -/
  | check (channel : Nat)
  | schedule (channel : Nat) (scheduled : Bool)
  /-- A task raises `work_count`. -/
  | count (channel : Nat)
  | execute (answers : ExecuteAnswers)

def KcsState.goes (state : KcsState) (channel : Nat) (task : ReadTask) (phase : Phase) : KcsState :=
  { state with tasks := state.tasks.set channel { task with phase } }

def KcsState.finish (state : KcsState) (channel : Nat) (task : ReadTask) (answering : Answering)
    (buffers : List Nat) : KcsState :=
  { state.goes channel task .polling with
    freed := state.freed ++ buffers
    ended := state.ended ++ [⟨channel, answering.request, false, answering.answers⟩] }

/-- `schedule_kcs_work_handle`, up to its look at `work_count`. -/
def KcsState.scheduleKcsWorkHandle (state : KcsState) (channel : Nat) (task : ReadTask)
    (answering : Answering) (answers : ReadAnswers) (handler : WorkHandler) : KcsState :=
  if !answers.kcsWork then state.finish channel task answering [answering.kcsBuff]
  else
    let work : KcsWorkInfo := {
      handler
      buffer := state.allocated
      ibuf := overwrite answers.memory 0 answering.request.length task.ibuf
      dataLength := answering.request.length
      request := answering.request }
    { state with allocated := state.allocated + 1 }.goes channel task (.checks answering work)

/-- The rest of a request, when it is not answered as `ADD_SEL`. -/
def KcsState.serve (state : KcsState) (channel : Nat) (task : ReadTask) (answering : Answering)
    (answers : ReadAnswers) : KcsState :=
  let netfn := answering.netfn
  let cmd := answering.cmd
  if netfn = netfnOemReq ∧ cmd = cmdOemCrashDump then
    state.scheduleKcsWorkHandle channel task answering answers .crashDump
  else if netfn = netfnOemReq ∧ (cmd = cmdOemPostStart ∨ cmd = cmdOemPostEnd) then
    state.scheduleKcsWorkHandle channel task answering answers .oemPostStartEnd
  else if netfn = netfnAppReq ∧ cmd = cmdAppSetSysInfoParams ∧
      task.ibuf 2 = cmdSysInfoFwVersion then
    if !answers.recordBiosFwVersion then
      state.finish channel task (answering.write (answering.header ccUnspecifiedError))
        [answering.kcsBuff]
    else state.scheduleKcsWorkHandle channel task answering answers .biosFwVersion
  else if netfn = netfnOemQReq ∧ cmd = cmdOemQSetDimmInfo ∧ task.ibuf 6 = cmdDimmLocation ∧
      !answers.setDimmPresenceStatus then
    state.finish channel task (answering.write (answering.header ccUnspecifiedError))
      [answering.kcsBuff]
  else state.finish channel task answering [answering.kcsBuff]

/-- A request goes to the IPMI client. `data_len` is a `uint16_t`; as many bytes are copied from
`ibuf`, which strays when there are fewer behind the network function and the command. -/
def KcsState.hand (state : KcsState) (channel : Nat) (task : ReadTask) (request : List UInt8) :
    KcsState :=
  let dataLen := UInt16.ofNat request.length - 2
  { state.goes channel task .polling with
    ended := state.ended ++ [⟨channel, request, true, []⟩]
    strayed := state.strayed || decide (kcsBuffSize < 2 + dataLen.toNat) }

/-- A task reads a request. Where the request is shorter than `ibuf`, an earlier one is still
there. -/
def KcsState.read (platform : Platform) (state : KcsState) (channel : Nat) (before : ReadTask)
    (request : List UInt8) (answers : ReadAnswers) : KcsState :=
  let ibuf := overwrite before.ibuf 0 request.length (request.getD · 0)
  let task : ReadTask := ⟨ibuf, .polling⟩
  let netfn := ibuf 0 >>> 2
  let cmd := ibuf 1
  if platform.requestMsgToBic netfn cmd then state.hand channel task request
  else if !answers.kcsBuff then
    { state.goes channel task .polling with
      ended := state.ended ++ [⟨channel, request, false, []⟩] }
  else
    let answering : Answering :=
      ⟨request, answers.driver, 0, [], state.allocated, netfn, cmd⟩
    let state := { state with allocated := state.allocated + 1 }
    if platform.immediateRespond netfn cmd then
      if netfn = netfnStorageReq ∧ cmd = cmdStorageAddSel then
        if request.length ≠ addSelEventDataMaxLen then
          state.finish channel task (answering.write (answering.header ccLengthExceeded))
            [answering.kcsBuff]
        else state.scheduleKcsWorkHandle channel task answering answers .addSel
      else state.serve channel task (answering.write (answering.header ccSuccess)) answers
    else state.serve channel task answering answers

/-- What `schedule_kcs_work_handle` takes for the start or the end of the POST. -/
def KcsWorkInfo.isPost (work : KcsWorkInfo) : Bool :=
  (work.ibuf 0 == netfnOemReq <<< 2 && work.ibuf 1 == cmdOemPostStart) ||
    (work.ibuf 0 == netfnOemReq <<< 2 && work.ibuf 1 == cmdOemPostEnd)

/-- A task looks at `work_count`, and answers the start or the end of the POST. -/
def KcsState.check (state : KcsState) (channel : Nat) (task : ReadTask) (answering : Answering)
    (work : KcsWorkInfo) : KcsState :=
  if maxKcsWorkCount ≤ state.workCount.toNat then
    state.finish channel task (answering.write (answering.header ccTimeout))
      [work.buffer, answering.kcsBuff]
  else if work.isPost then
    let written := answering.write (answering.header ccSuccess)
    if answering.driver answering.writes then
      state.goes channel task (.schedules written work)
    else state.finish channel task written [work.buffer, answering.kcsBuff]
  else state.goes channel task (.schedules answering work)

def KcsState.schedule (state : KcsState) (channel : Nat) (task : ReadTask) (answering : Answering)
    (work : KcsWorkInfo) (scheduled : Bool) : KcsState :=
  if !scheduled then
    state.finish channel task (answering.write (answering.header ccTimeout))
      [work.buffer, answering.kcsBuff]
  else
    { state with queue := state.queue ++ [work] }.goes channel task
      (.counts answering work.handler)

def Answering.scheduled (answering : Answering) (task : ReadTask) : WorkHandler → Answering
  | .addSel => answering.write (answering.header ccSuccess ++ [0, 0])
  | .crashDump =>
    if task.ibuf 6 = 0x80 ∧ task.ibuf 10 = 0x01 then
      answering.write (answering.header ccSuccess ++ [0x02])
    else answering.write (answering.header ccSuccess)
  | .oemPostStartEnd => answering
  | .biosFwVersion => answering.write (answering.header ccSuccess)

/-- A task raises `work_count`, and answers. -/
def KcsState.count (state : KcsState) (channel : Nat) (task : ReadTask) (answering : Answering)
    (handler : WorkHandler) : KcsState :=
  { state with workCount := state.workCount + 1 }.finish channel task
    (answering.scheduled task handler) [answering.kcsBuff]

/-- `data_length` without some bytes, as it is passed on in a byte. -/
def KcsWorkInfo.lengthBehind (work : KcsWorkInfo) (count : UInt32) : Nat :=
  (UInt32.ofNat work.dataLength - count).toUInt8.toNat

def KcsWorkInfo.sends (work : KcsWorkInfo) (answers : ExecuteAnswers) : Option BmcMessage :=
  match work.handler with
  | .addSel => some (.platformEvent (cells (view work.ibuf 4) (work.lengthBehind 4)))
  | .crashDump =>
    if answers.message then
      some (.crashDump (cells (view work.ibuf 2) (work.lengthBehind 2)))
    else none
  | .oemPostStartEnd => some (.eventLog (work.ibuf 1 == cmdOemPostStart))
  | .biosFwVersion =>
    if answers.message then
      some (.biosVersion (cells (view work.ibuf verionsStartIndex)
        (work.ibuf lengthIndex).toNat))
    else none

/-- How many buffers a work allocates and frees while it is executed. -/
def KcsWorkInfo.locals (work : KcsWorkInfo) (answers : ExecuteAnswers) : Nat :=
  match work.handler with
  | .addSel => 0
  | .crashDump => answers.message.toNat
  | .oemPostStartEnd => 0
  | .biosFwVersion => answers.biosInfo.toNat + answers.biosVersionStr.toNat +
      (answers.biosInfo && answers.biosVersionStr && answers.textStrings).toNat +
      answers.message.toNat

/-- The queue executes its first work. `update_bios_information` frees the `text_strings` of a
`bios_info` that it did not allocate or did not initialise. -/
def KcsState.execute (state : KcsState) (work : KcsWorkInfo) (rest : List KcsWorkInfo)
    (answers : ExecuteAnswers) : KcsState := { state with
  queue := rest
  workCount := state.workCount - 1
  allocated := state.allocated + work.locals answers
  freed := state.freed ++ List.range' state.allocated (work.locals answers) ++ [work.buffer]
  forwarded := state.forwarded ++ ((work.sends answers).map fun message => (work, message)).toList
  strayed := state.strayed ||
    (work.handler == .biosFwVersion && !(answers.biosInfo && answers.biosVersionStr)) }

def step (platform : Platform) (state : KcsState) : KcsEvent → Option KcsState
  | .read channel request answers => do
    let task ← state.tasks[channel]?
    match task.phase with
    | .polling =>
      if request.length ≤ kcsBuffSize then
        some (state.read platform channel task request answers)
      else none
    | _ => none
  | .check channel => do
    let task ← state.tasks[channel]?
    match task.phase with
    | .checks answering work => some (state.check channel task answering work)
    | _ => none
  | .schedule channel scheduled => do
    let task ← state.tasks[channel]?
    match task.phase with
    | .schedules answering work => some (state.schedule channel task answering work scheduled)
    | _ => none
  | .count channel => do
    let task ← state.tasks[channel]?
    match task.phase with
    | .counts answering handler => some (state.count channel task answering handler)
    | _ => none
  | .execute answers =>
    match state.queue with
    | [] => none
    | work :: rest => some (state.execute work rest answers)

def start (channels : Nat) (memory : Nat → UInt8) : KcsState :=
  ⟨0, List.replicate channels ⟨memory, .polling⟩, [], 0, [], [], [], false⟩

/-! ## What is claimed -/

/-- What a work is to send: the bytes of its request behind the network function and the command,
and for an event behind the record id too; of the version of the BIOS, as many as its length
says. -/
def KcsWorkInfo.corresponding (work : KcsWorkInfo) : BmcMessage :=
  match work.handler with
  | .addSel => .platformEvent (work.request.drop 4)
  | .crashDump => .crashDump (work.request.drop 2)
  | .oemPostStartEnd => .eventLog (work.request.getD 1 0 == cmdOemPostStart)
  | .biosFwVersion => .biosVersion
      ((work.request.drop verionsStartIndex).take (work.request.getD lengthIndex 0).toNat)

def ReadTask.uncounted (task : ReadTask) : Nat :=
  match task.phase with
  | .counts _ _ => 1
  | _ => 0

def ReadTask.buffers (task : ReadTask) : List Nat :=
  match task.phase with
  | .polling => []
  | .checks answering work => [answering.kcsBuff, work.buffer]
  | .schedules answering work => [answering.kcsBuff, work.buffer]
  | .counts answering _ => [answering.kcsBuff]

/-- How often a buffer is one that a task or a work of the queue has. -/
def KcsState.holds (state : KcsState) (buffer : Nat) : Nat :=
  total (fun task => task.buffers.count buffer) state.tasks +
    (state.queue.map (·.buffer)).count buffer

/-- `work_count` is the number of works that are scheduled and not finished, but for those that are
not counted yet, and not over its maximum; each request has had one answer, or was handed on; each
buffer is freed once, or it is had by one; and what was sent are the bytes of the requests. -/
structure KcsRight (state : KcsState) : Prop where
  counted : state.workCount.toNat + total ReadTask.uncounted state.tasks = state.queue.length
  bounded : state.workCount.toNat ≤ maxKcsWorkCount
  answered : ∀ request ∈ state.ended,
    request.answers.length = if request.handed then 0 else 1
  freed : ∀ buffer, state.freed.count buffer + state.holds buffer =
    if buffer < state.allocated then 1 else 0
  sent : ∀ work message, (work, message) ∈ state.forwarded → message = work.corresponding
  inside : state.strayed = false

/-! ## Where it is so -/

/-- A crash dump. -/
def IsCrashDump (ibuf : Nat → UInt8) : Prop :=
  ibuf 0 >>> 2 = netfnOemReq ∧ ibuf 1 = cmdOemCrashDump

/-- The start or the end of the POST. -/
def IsPostStartEnd (ibuf : Nat → UInt8) : Prop :=
  ibuf 0 >>> 2 = netfnOemReq ∧ (ibuf 1 = cmdOemPostStart ∨ ibuf 1 = cmdOemPostEnd)

/-- A BIOS version. -/
def IsBiosFwVersion (ibuf : Nat → UInt8) : Prop :=
  ibuf 0 >>> 2 = netfnAppReq ∧ ibuf 1 = cmdAppSetSysInfoParams ∧ ibuf 2 = cmdSysInfoFwVersion

/-- The location of a DIMM. -/
def IsDimmLocation (ibuf : Nat → UInt8) : Prop :=
  ibuf 0 >>> 2 = netfnOemQReq ∧ ibuf 1 = cmdOemQSetDimmInfo ∧ ibuf 6 = cmdDimmLocation

/-- A request that is not handed on has memory, and the driver takes its answers; the platform has
it answered at once exactly when it is not answered later; and a crash dump and the start and the
end of the POST have their command, the latter without a LUN, and the version of the BIOS is in its
request. -/
structure Answerable (platform : Platform) (ibuf : Nat → UInt8) (request : List UInt8)
    (answers : ReadAnswers) : Prop where
  kcsBuff : answers.kcsBuff = true
  kcsWork : answers.kcsWork = true
  driver : ∀ write, answers.driver write = true
  immediate : platform.immediateRespond (ibuf 0 >>> 2) (ibuf 1) = true ↔
    ¬ (IsCrashDump ibuf ∨ IsPostStartEnd ibuf ∨ IsBiosFwVersion ibuf ∨
      (IsDimmLocation ibuf ∧ answers.setDimmPresenceStatus = false))
  crashDump : IsCrashDump ibuf → 2 ≤ request.length
  postStartEnd : IsPostStartEnd ibuf → 2 ≤ request.length ∧ ibuf 0 = netfnOemReq <<< 2
  biosFwVersion : IsBiosFwVersion ibuf → answers.recordBiosFwVersion = true →
    verionsStartIndex + (ibuf lengthIndex).toNat ≤ request.length ∧ lengthIndex < request.length

/-- A step does not go wrong: a request that is read has a network function and a command when it is
handed on, and else can be answered; what is put into the queue for
the start or the end of the POST, which is answered before, is put there; no work is counted over
the maximum; and none is finished before there is one that is counted, nor without the memory for
the version of the BIOS. -/
def Orderly (platform : Platform) (state : KcsState) : KcsEvent → Prop
  | .read channel request answers => ∀ task, state.tasks[channel]? = some task →
    let ibuf := overwrite task.ibuf 0 request.length (request.getD · 0)
    if platform.requestMsgToBic (ibuf 0 >>> 2) (ibuf 1) then 2 ≤ request.length
    else Answerable platform ibuf request answers
  | .check _ => True
  | .schedule channel scheduled => ∀ task answering work, state.tasks[channel]? = some task →
    task.phase = .schedules answering work → work.handler = .oemPostStartEnd → scheduled = true
  | .count _ => state.workCount.toNat < maxKcsWorkCount
  | .execute answers => 0 < state.workCount.toNat ∧ ∀ work rest, state.queue = work :: rest →
    work.handler = .biosFwVersion → answers.biosInfo = true ∧ answers.biosVersionStr = true

/-! ## The works -/

section Works

variable {request : List UInt8} {memory : Nat → UInt8} {start count : Nat}

/-- A work is for its handler, and sends the bytes of its request. -/
structure KcsWorkInfo.Fine (work : KcsWorkInfo) : Prop where
  post : work.isPost = true ↔ work.handler = .oemPostStartEnd
  sends : ∀ answers message, work.sends answers = some message → message = work.corresponding

theorem copied_apply {index : Nat} (inside : index < request.length) :
    overwrite memory 0 request.length (request.getD · 0) index = request.getD index 0 := by
  have here := @overwrite_inside _ memory 0 request.length index (request.getD · 0) inside
  rw [Nat.zero_add] at here
  exact here

theorem copied_cells (inside : start + count ≤ request.length) :
    cells (view (overwrite memory 0 request.length (request.getD · 0)) start) count =
      (request.drop start).take count := by
  apply ext_getElem
  · rw [length_cells, length_take, length_drop]
    omega
  · intro index first second
    rw [length_cells] at first
    rw [getElem_cells, view_apply, copied_apply (by omega), getElem_take, getElem_drop]
    exact getD_eq_getElem _ _ (by omega)

theorem lengthBehind_eq (work : KcsWorkInfo) (behind : UInt32)
    (some : behind.toNat ≤ work.dataLength) (few : work.dataLength < behind.toNat + 2 ^ 8) :
    work.lengthBehind behind = work.dataLength - behind.toNat := by
  have small := behind.toNat_lt
  have length : (UInt32.ofNat work.dataLength - behind).toNat =
      (work.dataLength + (2 ^ 32 - behind.toNat)) % 2 ^ 32 := by
    rw [UInt32.toNat_sub, UInt32.toNat_ofNat']
    omega
  unfold KcsWorkInfo.lengthBehind
  rw [UInt32.toNat_toUInt8, length]
  omega

def made (handler : WorkHandler) (buffer : Nat) (memory : Nat → UInt8) (request : List UInt8) :
    KcsWorkInfo :=
  ⟨handler, buffer, overwrite memory 0 request.length (request.getD · 0), request.length, request⟩

theorem made_eq (handler : WorkHandler) (buffer : Nat) (memory before : Nat → UInt8)
    (request : List UInt8) :
    { handler
      buffer
      ibuf := overwrite memory 0 request.length
        (overwrite before 0 request.length (request.getD · 0))
      dataLength := request.length
      request : KcsWorkInfo } = made handler buffer memory request := by
  unfold made
  rw [overwrite_congr memory 0 fun index inside => copied_apply inside]

theorem isPost_made (handler : WorkHandler) (buffer : Nat) (memory : Nat → UInt8)
    (two : 2 ≤ request.length) :
    (made handler buffer memory request).isPost = true ↔
      request.getD 0 0 = netfnOemReq <<< 2 ∧
        (request.getD 1 0 = cmdOemPostStart ∨ request.getD 1 0 = cmdOemPostEnd) := by
  unfold KcsWorkInfo.isPost made
  dsimp only
  rw [copied_apply (Nat.lt_of_lt_of_le Nat.zero_lt_two two), copied_apply two]
  simp only [Bool.or_eq_true, Bool.and_eq_true, beq_iff_eq]
  exact and_or_left.symm

theorem addSel_fine (buffer : Nat) (memory : Nat → UInt8)
    (netfn : request.getD 0 0 >>> 2 = netfnStorageReq)
    (length : request.length = addSelEventDataMaxLen) :
    (made .addSel buffer memory request).Fine := by
  have long : 4 ≤ request.length := by
    rw [length]
    decide
  constructor
  · rw [isPost_made _ _ _ (by omega)]
    refine ⟨fun post => ?_, nofun⟩
    rw [post.1] at netfn
    cases netfn
  · intro answers message sends
    cases sends
    have behind : (made .addSel buffer memory request).lengthBehind 4 = request.length - 4 :=
      lengthBehind_eq _ 4 long (by
        change request.length < 4 + 2 ^ 8
        rw [length]
        decide)
    change BmcMessage.platformEvent (cells (view (overwrite memory 0 request.length
      (request.getD · 0)) 4) _) = BmcMessage.platformEvent _
    rw [behind, copied_cells (by omega), ← length_drop, take_length]
    rfl

theorem crashDump_fine (buffer : Nat) (memory : Nat → UInt8) (two : 2 ≤ request.length)
    (short : request.length ≤ kcsBuffSize) (cmd : request.getD 1 0 = cmdOemCrashDump) :
    (made .crashDump buffer memory request).Fine := by
  unfold kcsBuffSize at short
  constructor
  · rw [isPost_made _ _ _ two, cmd]
    exact ⟨fun post => absurd post.2 (by decide), nofun⟩
  · intro answers message sends
    change (if answers.message then some (BmcMessage.crashDump _) else none) = _ at sends
    split at sends
    · cases sends
      have behind : (made .crashDump buffer memory request).lengthBehind 2 = request.length - 2 :=
        lengthBehind_eq _ 2 two (by
          change request.length < 2 + 2 ^ 8
          omega)
      change BmcMessage.crashDump (cells (view (overwrite memory 0 request.length
        (request.getD · 0)) 2) _) = BmcMessage.crashDump _
      rw [behind, copied_cells (by omega), ← length_drop, take_length]
      rfl
    · cases sends

theorem oemPostStartEnd_fine (buffer : Nat) (memory : Nat → UInt8) (two : 2 ≤ request.length)
    (netfn : request.getD 0 0 = netfnOemReq <<< 2)
    (cmd : request.getD 1 0 = cmdOemPostStart ∨ request.getD 1 0 = cmdOemPostEnd) :
    (made .oemPostStartEnd buffer memory request).Fine := by
  constructor
  · rw [isPost_made _ _ _ two]
    exact ⟨fun _ => rfl, fun _ => ⟨netfn, cmd⟩⟩
  · intro answers message sends
    cases sends
    change BmcMessage.eventLog (overwrite memory 0 request.length (request.getD · 0) 1 == _) =
      BmcMessage.eventLog _
    rw [copied_apply two]
    rfl

theorem biosFwVersion_fine (buffer : Nat) (memory : Nat → UInt8)
    (netfn : request.getD 0 0 >>> 2 = netfnAppReq) (long : lengthIndex < request.length)
    (inside : verionsStartIndex + (request.getD lengthIndex 0).toNat ≤ request.length) :
    (made .biosFwVersion buffer memory request).Fine := by
  constructor
  · rw [isPost_made _ _ _ (Nat.lt_of_le_of_lt (by decide) long)]
    refine ⟨fun post => ?_, nofun⟩
    rw [post.1] at netfn
    cases netfn
  · intro answers message sends
    change (if answers.message then some (BmcMessage.biosVersion (cells (view (overwrite memory 0
      request.length (request.getD · 0)) verionsStartIndex) (overwrite memory 0 request.length
        (request.getD · 0) lengthIndex).toNat)) else none) = _ at sends
    rw [copied_apply long, copied_cells inside] at sends
    split at sends
    · cases sends
      rfl
    · cases sends

end Works

/-! ## The steps -/

section Steps

variable {platform : Platform} {state next : KcsState} {channel : Nat} {old task : ReadTask}
variable {answering : Answering} {work : KcsWorkInfo} {handler : WorkHandler}

/-- The answers of a request whose work is scheduled: one for the start or the end of the POST. -/
def answersOf (handler : WorkHandler) : Nat := if handler = .oemPostStartEnd then 1 else 0

/-- A task has a work that sends the bytes of its request, and has not answered twice. -/
def ReadTask.Fine (task : ReadTask) : Prop :=
  match task.phase with
  | .polling => True
  | .checks answering work =>
    (∀ write, answering.driver write = true) ∧ answering.answers.length = 0 ∧ work.Fine
  | .schedules answering work =>
    (∀ write, answering.driver write = true) ∧
      answering.answers.length = answersOf work.handler ∧ work.Fine
  | .counts answering handler =>
    (∀ write, answering.driver write = true) ∧ answering.answers.length = answersOf handler

/-- What holds in each state that is reached. -/
structure Sound (state : KcsState) : Prop where
  right : KcsRight state
  tasks : ∀ task ∈ state.tasks, task.Fine
  queue : ∀ work ∈ state.queue, work.Fine

def below (allocated buffer : Nat) : Nat := if buffer < allocated then 1 else 0

theorem below_add (allocated count buffer : Nat) :
    below (allocated + count) buffer =
      below allocated buffer + (List.range' allocated count).count buffer := by
  rw [count_range_1']
  unfold below
  by_cases first : buffer < allocated
  · rw [if_pos (by omega), if_pos first, if_neg (by omega)]
  · rw [if_neg first, Nat.zero_add]
    congr 1
    exact propext ⟨fun small => ⟨by omega, small⟩, fun inside => inside.2⟩

theorem Sound.of_task (sound : Sound state) (here : state.tasks[channel]? = some old)
    (set : next.tasks = state.tasks.set channel task) (fine : task.Fine)
    (counted : next.workCount.toNat + task.uncounted + state.queue.length =
      next.queue.length + (state.workCount.toNat + old.uncounted))
    (bounded : next.workCount.toNat ≤ maxKcsWorkCount)
    (answered : ∀ request ∈ next.ended, request ∈ state.ended ∨
      request.answers.length = if request.handed then 0 else 1)
    (freed : ∀ buffer, next.freed.count buffer + task.buffers.count buffer +
        (next.queue.map (·.buffer)).count buffer + below state.allocated buffer =
      state.freed.count buffer + old.buffers.count buffer +
        (state.queue.map (·.buffer)).count buffer + below next.allocated buffer)
    (sent : next.forwarded = state.forwarded) (inside : next.strayed = state.strayed)
    (queue : ∀ work ∈ next.queue, work.Fine) : Sound next := by
  refine ⟨⟨?_, bounded, ?_, ?_, sent ▸ sound.right.sent, inside ▸ sound.right.inside⟩, ?_, queue⟩
  · have changed := @total_set _ ReadTask.uncounted _ _ _ here task
    have before := sound.right.counted
    rw [set]
    omega
  · intro request listed
    rcases answered request listed with earlier | one
    · exact sound.right.answered request earlier
    · exact one
  · intro buffer
    have changed := @total_set _ (fun task => task.buffers.count buffer) _ _ _ here task
    have before := sound.right.freed buffer
    have step := freed buffer
    change _ = below state.allocated buffer at before
    change _ = below next.allocated buffer
    unfold KcsState.holds at before ⊢
    rw [set]
    omega
  · intro other listed
    rw [set] at listed
    rcases mem_or_eq_of_mem_set listed with earlier | rfl
    · exact sound.tasks other earlier
    · exact fine

theorem length_write (driver : ∀ write, answering.driver write = true) (bytes : List UInt8) :
    (answering.write bytes).answers.length = answering.answers.length + 1 := by
  unfold Answering.write
  rw [if_pos (driver _), length_append, length_singleton]

theorem length_scheduled (driver : ∀ write, answering.driver write = true)
    (answered : answering.answers.length = answersOf handler) :
    (answering.scheduled task handler).answers.length = 1 := by
  cases handler with
  | addSel => exact (length_write driver _).trans (congrArg Nat.succ answered)
  | crashDump =>
    change (if _ then _ else _ : Answering).answers.length = 1
    split
    · exact (length_write driver _).trans (congrArg Nat.succ answered)
    · exact (length_write driver _).trans (congrArg Nat.succ answered)
  | oemPostStartEnd => exact answered
  | biosFwVersion => exact (length_write driver _).trans (congrArg Nat.succ answered)

theorem ended_append {request : Ended} (handed : request.handed = false)
    (one : request.answers.length = 1) :
    ∀ other ∈ state.ended ++ [request], other ∈ state.ended ∨
      other.answers.length = if other.handed then 0 else 1 := by
  intro other listed
  rcases List.mem_append.mp listed with earlier | last
  · exact .inl earlier
  · obtain rfl := List.mem_singleton.mp last
    rw [handed]
    exact .inr one

theorem Sound.finish_checks (sound : Sound state) (here : state.tasks[channel]? = some task)
    (phase : task.phase = .checks answering work ∨ task.phase = .schedules answering work)
    (done : Answering) (one : done.answers.length = 1) :
    Sound (state.finish channel task done [work.buffer, answering.kcsBuff]) := by
  apply sound.of_task here rfl
  · trivial
  · rcases phase with phase | phase
    · simp only [ReadTask.uncounted, phase, KcsState.finish, KcsState.goes]
      omega
    · simp only [ReadTask.uncounted, phase, KcsState.finish, KcsState.goes]
      omega
  · exact sound.right.bounded
  · exact ended_append rfl one
  · intro buffer
    have held : task.buffers = [answering.kcsBuff, work.buffer] := by
      rcases phase with phase | phase
      · simp only [ReadTask.buffers, phase]
      · simp only [ReadTask.buffers, phase]
    rw [held]
    simp only [KcsState.finish, KcsState.goes, ReadTask.buffers, count_append,
      count_cons, count_nil]
    omega
  · rfl
  · rfl
  · exact sound.queue

theorem below_succ (allocated buffer : Nat) :
    below (allocated + 1) buffer = below allocated buffer + [allocated].count buffer :=
  below_add allocated 1 buffer

theorem Sound.finish_read (sound : Sound state) (here : state.tasks[channel]? = some old)
    (idle : old.phase = .polling) (ibuf : Nat → UInt8)
    (buff : answering.kcsBuff = state.allocated) (one : answering.answers.length = 1) :
    Sound (({ state with allocated := state.allocated + 1 } : KcsState).finish channel
      ⟨ibuf, .polling⟩ answering [answering.kcsBuff]) := by
  apply sound.of_task here rfl
  · trivial
  · simp only [ReadTask.uncounted, idle, KcsState.finish, KcsState.goes]
    omega
  · exact sound.right.bounded
  · exact ended_append rfl one
  · intro buffer
    have held : old.buffers = [] := by simp only [ReadTask.buffers, idle]
    have more := below_succ state.allocated buffer
    rw [held, buff]
    simp only [KcsState.finish, KcsState.goes, ReadTask.buffers, count_append,
      count_nil]
    omega
  · rfl
  · rfl
  · exact sound.queue

theorem Sound.schedule_read (sound : Sound state) (here : state.tasks[channel]? = some old)
    (idle : old.phase = .polling) {answers : ReadAnswers} (memory : answers.kcsWork = true)
    (buff : answering.kcsBuff = state.allocated) (driver : ∀ write, answering.driver write = true)
    (none : answering.answers.length = 0)
    (fine : (made handler (state.allocated + 1) answers.memory answering.request).Fine) :
    Sound (({ state with allocated := state.allocated + 1 } : KcsState).scheduleKcsWorkHandle
      channel ⟨overwrite old.ibuf 0 answering.request.length (answering.request.getD · 0),
        .polling⟩ answering answers handler) := by
  unfold KcsState.scheduleKcsWorkHandle
  rw [memory, Bool.not_true, if_neg Bool.false_ne_true]
  rw [made_eq]
  apply sound.of_task here rfl
  · exact ⟨driver, none, fine⟩
  · simp only [ReadTask.uncounted, idle, KcsState.goes]
    omega
  · exact sound.right.bounded
  · exact fun request listed => .inl listed
  · intro buffer
    have held : old.buffers = [] := by simp only [ReadTask.buffers, idle]
    have more := below_succ state.allocated buffer
    have again := below_succ (state.allocated + 1) buffer
    rw [held]
    simp only [KcsState.goes, ReadTask.buffers, made, buff, count_cons, count_nil]
      at more again ⊢
    omega
  · rfl
  · rfl
  · exact sound.queue

/-- The host is answered by the work, not at once. -/
def Later (ibuf : Nat → UInt8) (answers : ReadAnswers) : Prop :=
  IsCrashDump ibuf ∨ IsPostStartEnd ibuf ∨ IsBiosFwVersion ibuf ∨
    (IsDimmLocation ibuf ∧ answers.setDimmPresenceStatus = false)

/-- The rest of a request that can be answered. -/
theorem Sound.serve_read (sound : Sound state) (here : state.tasks[channel]? = some old)
    (idle : old.phase = .polling) {answers : ReadAnswers} {request : List UInt8}
    {ibuf : Nat → UInt8} (copied : ibuf = overwrite old.ibuf 0 request.length (request.getD · 0))
    (answerable : Answerable platform ibuf request answers)
    (short : request.length ≤ kcsBuffSize) (asked : answering.request = request)
    (netfn : answering.netfn = ibuf 0 >>> 2) (cmd : answering.cmd = ibuf 1)
    (buff : answering.kcsBuff = state.allocated) (driver : ∀ write, answering.driver write = true)
    (later : Later ibuf answers → answering.answers.length = 0)
    (done : ¬ Later ibuf answers → answering.answers.length = 1) :
    Sound (({ state with allocated := state.allocated + 1 } : KcsState).serve channel
      ⟨ibuf, .polling⟩ answering answers) := by
  have byte : ∀ index, index < request.length → ibuf index = request.getD index 0 := by
    intro index inside
    rw [copied]
    exact copied_apply inside
  have schedules : ∀ handler, answering.answers.length = 0 →
      (made handler (state.allocated + 1) answers.memory request).Fine →
      Sound (({ state with allocated := state.allocated + 1 } : KcsState).scheduleKcsWorkHandle
        channel ⟨ibuf, .polling⟩ answering answers handler) := by
    intro handler none fine
    rw [copied, ← asked]
    exact sound.schedule_read here idle answerable.kcsWork buff driver none (asked ▸ fine)
  unfold KcsState.serve
  rw [netfn, cmd]
  dsimp only
  split
  next crash =>
    have two := answerable.crashDump crash
    exact schedules _ (later (.inl crash))
      (crashDump_fine _ _ two short ((byte 1 two).symm.trans crash.2))
  next =>
    split
    next post =>
      obtain ⟨two, lun⟩ := answerable.postStartEnd post
      have cmd := post.2
      rw [byte 1 two] at cmd
      exact schedules _ (later (.inr (.inl post))) (oemPostStartEnd_fine _ _ two
        ((byte 0 (Nat.lt_of_lt_of_le Nat.zero_lt_two two)).symm.trans lun) cmd)
    next =>
      split
      next version =>
        have none := later (.inr (.inr (.inl version)))
        cases recorded : answers.recordBiosFwVersion with
        | false =>
          exact @Sound.finish_read state channel old (answering.write _) sound here idle ibuf buff
            ((length_write driver _).trans (congrArg Nat.succ none))
        | true =>
          obtain ⟨inside, long⟩ := answerable.biosFwVersion version recorded
          have netfn := version.1
          rw [byte 0 (Nat.zero_lt_of_lt long)] at netfn
          rw [byte lengthIndex long] at inside
          exact schedules _ none (biosFwVersion_fine _ _ netfn long inside)
      next =>
        split
        next dimm =>
          have refused : answers.setDimmPresenceStatus = false :=
            (Bool.not_eq_true' _).mp dimm.2.2.2
          have none := later (.inr (.inr (.inr ⟨⟨dimm.1, dimm.2.1, dimm.2.2.1⟩, refused⟩)))
          exact @Sound.finish_read state channel old (answering.write _) sound here idle ibuf buff
            ((length_write driver _).trans (congrArg Nat.succ none))
        next crash post version dimm =>
          have one := done (by
            rintro (found | found | found | ⟨found, refused⟩)
            · exact crash found
            · exact post found
            · exact version found
            · exact dimm ⟨found.1, found.2.1, found.2.2, by rw [refused]; rfl⟩)
          exact sound.finish_read here idle ibuf buff one

/-- A task reads a request that can be answered. -/
theorem Sound.read (sound : Sound state) (here : state.tasks[channel]? = some old)
    (idle : old.phase = .polling) {request : List UInt8} {answers : ReadAnswers}
    (short : request.length ≤ kcsBuffSize)
    (orderly : let ibuf := overwrite old.ibuf 0 request.length (request.getD · 0)
      if platform.requestMsgToBic (ibuf 0 >>> 2) (ibuf 1) then 2 ≤ request.length
      else Answerable platform ibuf request answers) :
    Sound (state.read platform channel old request answers) := by
  unfold KcsState.read
  dsimp only at orderly ⊢
  generalize copied : overwrite old.ibuf 0 request.length (request.getD · 0) = ibuf at orderly ⊢
  split
  next client =>
    rw [if_pos client] at orderly
    unfold kcsBuffSize at short
    have behind : (UInt16.ofNat request.length - 2).toNat = request.length - 2 := by
      change (2 ^ 16 - 2 + request.length % 2 ^ 16) % 2 ^ 16 = _
      omega
    apply sound.of_task here rfl
    · trivial
    · simp only [ReadTask.uncounted, idle, KcsState.hand, KcsState.goes]
      omega
    · exact sound.right.bounded
    · intro other listed
      rcases List.mem_append.mp listed with earlier | last
      · exact .inl earlier
      · obtain rfl := List.mem_singleton.mp last
        exact .inr rfl
    · intro buffer
      simp only [KcsState.hand, KcsState.goes, ReadTask.buffers, idle]
    · rfl
    · simp only [KcsState.hand, behind]
      rw [decide_eq_false (by unfold kcsBuffSize; omega), Bool.or_false]
    · exact sound.queue
  next mine =>
    have answerable : Answerable platform ibuf request answers := by
      rw [if_neg mine] at orderly
      exact orderly
    let answering : Answering :=
      ⟨request, answers.driver, 0, [], state.allocated, ibuf 0 >>> 2, ibuf 1⟩
    rw [answerable.kcsBuff, Bool.not_true, if_neg Bool.false_ne_true]
    split
    next immediate =>
      have now := answerable.immediate.mp immediate
      split
      next addSel =>
        split
        next =>
          exact @Sound.finish_read state channel old (answering.write _) sound here idle ibuf rfl
            (length_write answerable.driver _)
        next length =>
          have sized := not_not.mp length
          have netfn := addSel.1
          subst copied
          rw [copied_apply (by rw [sized]; decide)] at netfn
          exact @Sound.schedule_read state channel old answering _ sound here idle _
            answerable.kcsWork rfl answerable.driver rfl (addSel_fine _ _ netfn sized)
      next =>
        exact @Sound.serve_read platform state channel old (answering.write _) sound here idle _ _
          _ copied.symm answerable short rfl rfl rfl rfl answerable.driver
          (fun later => absurd later now) (fun _ => length_write answerable.driver _)
    next delayed =>
      have later := not_not.mp (fun wrong => delayed (answerable.immediate.mpr wrong))
      exact @Sound.serve_read platform state channel old answering sound here idle _ _ _
        copied.symm answerable short rfl rfl rfl rfl answerable.driver (fun _ => rfl)
        (fun wrong => absurd later wrong)

theorem Sound.check (sound : Sound state) (here : state.tasks[channel]? = some task)
    (phase : task.phase = .checks answering work) :
    Sound (state.check channel task answering work) := by
  have fine := sound.tasks task (mem_of_getElem? here)
  unfold ReadTask.Fine at fine
  rw [phase] at fine
  obtain ⟨driver, none, works⟩ := fine
  have goes : ∀ done : Answering, (∀ write, done.driver write = true) →
      done.kcsBuff = answering.kcsBuff → done.answers.length = answersOf work.handler →
      Sound (state.goes channel task (.schedules done work)) := by
    intro done taken same answered
    apply sound.of_task here rfl
    · exact ⟨taken, answered, works⟩
    · simp only [ReadTask.uncounted, phase, KcsState.goes]
      omega
    · exact sound.right.bounded
    · exact fun request listed => .inl listed
    · intro buffer
      simp only [KcsState.goes, ReadTask.buffers, phase, same]
    · rfl
    · rfl
    · exact sound.queue
  unfold KcsState.check
  split
  · exact sound.finish_checks here (.inl phase) _
      ((length_write driver _).trans (congrArg Nat.succ none))
  · split
    next post =>
      rw [if_pos (driver _)]
      apply goes (answering.write _) driver rfl
      rw [length_write driver, none, answersOf, if_pos (works.post.mp post)]
    next other =>
      apply goes answering driver rfl
      rw [none, answersOf, if_neg fun post => other (works.post.mpr post)]

/-- A task puts its work into the queue, or this fails. -/
theorem Sound.schedule (sound : Sound state) (here : state.tasks[channel]? = some task)
    (phase : task.phase = .schedules answering work) {scheduled : Bool}
    (orderly : work.handler = .oemPostStartEnd → scheduled = true) :
    Sound (state.schedule channel task answering work scheduled) := by
  have fine := sound.tasks task (mem_of_getElem? here)
  unfold ReadTask.Fine at fine
  rw [phase] at fine
  obtain ⟨driver, answered, works⟩ := fine
  unfold KcsState.schedule
  cases scheduled with
  | false =>
    have none : answering.answers.length = 0 :=
      answered.trans (if_neg fun post => Bool.false_ne_true (orderly post))
    exact sound.finish_checks here (.inr phase) _
      ((length_write driver _).trans (congrArg Nat.succ none))
  | true =>
    rw [Bool.not_true, if_neg Bool.false_ne_true]
    apply sound.of_task here rfl
    · exact ⟨driver, answered⟩
    · simp only [ReadTask.uncounted, phase, KcsState.goes, length_append,
        length_singleton]
      omega
    · exact sound.right.bounded
    · exact fun request listed => .inl listed
    · intro buffer
      simp only [KcsState.goes, ReadTask.buffers, phase, map_append, count_append,
        map_cons, map_nil, count_cons, count_nil]
      omega
    · rfl
    · rfl
    · intro other listed
      rcases List.mem_append.mp listed with earlier | last
      · exact sound.queue other earlier
      · exact List.mem_singleton.mp last ▸ works

theorem Sound.count (sound : Sound state) (here : state.tasks[channel]? = some task)
    (phase : task.phase = .counts answering handler)
    (orderly : state.workCount.toNat < maxKcsWorkCount) :
    Sound (state.count channel task answering handler) := by
  have fine := sound.tasks task (mem_of_getElem? here)
  unfold ReadTask.Fine at fine
  rw [phase] at fine
  have raised : (state.workCount + 1).toNat = state.workCount.toNat + 1 := by
    unfold maxKcsWorkCount at orderly
    change (state.workCount.toNat + 1) % 2 ^ 8 = _
    omega
  apply sound.of_task here rfl
  · trivial
  · simp only [ReadTask.uncounted, phase, KcsState.count, KcsState.finish, KcsState.goes, raised]
    omega
  · change (state.workCount + 1).toNat ≤ maxKcsWorkCount
    rw [raised]
    exact orderly
  · exact ended_append rfl (length_scheduled fine.1 fine.2)
  · intro buffer
    simp only [KcsState.count, KcsState.finish, KcsState.goes, ReadTask.buffers, phase,
      count_append, count_cons, count_nil]
    omega
  · rfl
  · rfl
  · exact sound.queue

theorem Sound.execute (sound : Sound state) {rest : List KcsWorkInfo}
    (queued : state.queue = work :: rest) (answers : ExecuteAnswers)
    (counted : 0 < state.workCount.toNat)
    (memory : work.handler = .biosFwVersion →
      answers.biosInfo = true ∧ answers.biosVersionStr = true) :
    Sound (state.execute work rest answers) := by
  have works := sound.queue
  rw [queued] at works
  have lowered : (state.workCount - 1).toNat = state.workCount.toNat - 1 := by
    have small := state.workCount.toNat_lt
    change (2 ^ 8 - 1 + state.workCount.toNat) % 2 ^ 8 = _
    omega
  refine ⟨⟨?_, ?_, sound.right.answered, ?_, ?_, ?_⟩, sound.tasks,
    fun other listed => works other (mem_cons_of_mem _ listed)⟩
  · have before := sound.right.counted
    rw [queued, length_cons] at before
    simp only [KcsState.execute, lowered]
    omega
  · have before := sound.right.bounded
    change (state.workCount - 1).toNat ≤ maxKcsWorkCount
    omega
  · intro buffer
    have before := sound.right.freed buffer
    have more := below_add state.allocated (work.locals answers) buffer
    change _ = below state.allocated buffer at before
    change _ = below (state.allocated + work.locals answers) buffer
    unfold KcsState.holds at before ⊢
    rw [queued] at before
    simp only [KcsState.execute, map_cons, count_append, count_cons,
      count_nil] at before ⊢
    omega
  · intro other message listed
    rcases List.mem_append.mp listed with earlier | last
    · exact sound.right.sent other message earlier
    · have here := Option.mem_toList.mp last
      obtain ⟨sent, sends, same⟩ := Option.map_eq_some_iff.mp here
      obtain ⟨rfl, rfl⟩ := Prod.mk.inj same
      exact (works work mem_cons_self).sends answers sent sends
  · simp only [KcsState.execute, sound.right.inside, Bool.false_or, Bool.and_eq_false_iff,
      beq_eq_false_iff_ne]
    by_cases version : work.handler = .biosFwVersion
    · obtain ⟨info, str⟩ := memory version
      rw [info, str]
      exact .inr rfl
    · exact .inl version

/-- A step that does not go wrong keeps what holds. -/
theorem Sound.step {event : KcsEvent} (sound : Sound state)
    (orderly : Orderly platform state event) (moved : step platform state event = some next) :
    Sound next := by
  cases event with
  | read channel request answers =>
    obtain ⟨task, here, moved⟩ := Option.bind_eq_some_iff.mp moved
    split at moved
    next phase =>
      split at moved
      next short =>
        cases moved
        exact sound.read here phase short (orderly task here)
      · cases moved
    · cases moved
  | check channel =>
    obtain ⟨task, here, moved⟩ := Option.bind_eq_some_iff.mp moved
    split at moved
    next answering work phase =>
      cases moved
      exact sound.check here phase
    · cases moved
  | schedule channel scheduled =>
    obtain ⟨task, here, moved⟩ := Option.bind_eq_some_iff.mp moved
    split at moved
    next answering work phase =>
      cases moved
      exact sound.schedule here phase (orderly task answering work here phase)
    · cases moved
  | count channel =>
    obtain ⟨task, here, moved⟩ := Option.bind_eq_some_iff.mp moved
    split at moved
    next answering handler phase =>
      cases moved
      exact sound.count here phase orderly
    · cases moved
  | execute answers =>
    dsimp only [Kcs.step] at moved
    split at moved
    · cases moved
    next work rest queued =>
      cases moved
      exact sound.execute queued answers orderly.1 (orderly.2 work rest queued)

theorem sound_start (channels : Nat) (memory : Nat → UInt8) : Sound (start channels memory) := by
  have polling : ∀ (measure : ReadTask → Nat), measure ⟨memory, .polling⟩ = 0 →
      total measure (List.replicate channels ⟨memory, .polling⟩) = 0 := by
    intro measure none
    induction channels with
    | zero => rfl
    | succ channels ih => rw [replicate_succ, total_cons, none, ih]
  refine ⟨⟨?_, Nat.zero_le _, nofun, ?_, nofun, rfl⟩, ?_, nofun⟩
  · exact (Nat.zero_add _).trans (polling _ rfl)
  · intro buffer
    have none := polling (fun task => task.buffers.count buffer) rfl
    exact (Nat.zero_add _).trans (none.trans (if_neg (Nat.not_lt_zero _)).symm)
  · intro task listed
    rw [eq_of_mem_replicate listed]
    trivial

end Steps

/-! ## The runs -/

/-- The platform of the tests below: nothing is for the BIC, and events are answered at once. -/
def selPlatform : Platform :=
  ⟨fun _ _ => false, fun netfn cmd => netfn == netfnStorageReq && cmd == cmdStorageAddSel⟩

def allRead : ReadAnswers := ⟨true, true, fun _ => 0, fun _ => true, true, true⟩

def allExecute : ExecuteAnswers := ⟨true, true, true, true⟩

def oneEvent : List KcsEvent :=
  [.read 0 (netfnStorageReq <<< 2 :: cmdStorageAddSel :: List.replicate 16 0) allRead, .check 0,
    .schedule 0 true, .count 0, .execute allExecute]

-- A work that is finished before it is counted.
example : (run (step selPlatform) (start 1 fun _ => 0) [.read 0
    (netfnStorageReq <<< 2 :: cmdStorageAddSel :: List.replicate 16 0) allRead, .check 0,
    .schedule 0 true, .execute allExecute]).map (·.workCount) = some 255 := rfl

end OpenBic.Kcs
