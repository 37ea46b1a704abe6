import OpenBic.Ssif.Device

/-!
# An SSIF channel and its host

The read task, the read callback, the IPMI handlers and the lock monitor around one SSIF
device. A step is what one of them does between two points where another may come in. The
host's messages wait in the queue of the bus driver; the blocks for the host are left in the
driver's read buffer, which keeps the last one. A request has the number of the message that
completed it, and the buffers carry the number of the request whose response they hold.
-/

namespace OpenBic.Ssif

/-- Where the task of a channel is with a request. -/
inductive Task where
  | idle
  | bridging (request : Nat)
  /-- It waits for `rsp_buff_sem`. -/
  | waiting (request : Nat)
deriving DecidableEq

/-- A channel with its tasks. -/
structure Channel where
  dev : SsifDev
  queue : List Frame
  taken : List Frame
  task : Task
  handed : List Request
  /-- The requests answered at once whose `send_cmd_work_handler` has yet to run. The worker has
  no copy of them. -/
  works : List Request
  unanswered : List Nat
  /-- The request whose response is in `rsp_buff`. -/
  rspOf : Option Nat
  rdMsg : List UInt8
  /-- The request whose response the block in `target_rd_msg` is of. -/
  rdMsgOf : Option Nat

def Channel.init : Channel := ⟨.init, [], [], .idle, [], [], [], none, [], none⟩

/-- What can happen. Where an event says so, `i2c_addr_set` succeeds in it or not. -/
inductive Event where
  | write (frame : Frame) (addrSet : Bool)
  | read (cmd : SsifCmd)
  | receive (addrSet : Bool)
  /-- `i2c_target_read` fails. -/
  | receiveFailed (addrSet : Bool)
  | bridged (response : Option Response)
  /-- The worker comes to the job added for this request. -/
  | work (request : Request)
  | respond (request : Nat) (response : Response)
  | take (addrSet : Bool)
  | timeOut
  | expire (addrSet : Bool)

def completes (frame : Frame) : Bool :=
  smbCmd frame = some .wrSingle ∨ smbCmd frame = some .wrMultiEnd

/-- The number of messages and the number of the last one that completes a request. -/
def tally (frames : List Frame) : Nat × Option Nat :=
  frames.foldl (fun (count, last) frame =>
    (count + 1, if completes frame then some count else last)) (0, none)

def Channel.lastWritten (c : Channel) : Option Nat := (tally (c.taken ++ c.queue)).2

/-- `ssif_set_data` for a request. -/
def Channel.setData (c : Channel) (request : Nat) (r : Response) : Channel :=
  { c with dev := c.dev.setData r, rspOf := some request }

/-- The response that a request gets at once where the platform wants so. -/
def Request.immediateResponse (r : Request) : Response where
  netfn := (r.netfn + 1) <<< 2
  cmd := r.cmd
  completionCode := ccSuccess
  data := if r.netfn = netfnStorageReq ∧ r.cmd = cmdStorageAddSel then [0x00, 0x00] else []
  fits := by split <;> decide

/-- `ssif_data_handle` with `SSIF_SEND_IPMI`, up to its wait. -/
def Channel.sendIpmi (p : Platform) (c : Channel) (number : Nat) : Channel :=
  let request := c.dev.currentIpmiMsg.request
  let sent := { c with handed := c.handed ++ [request] }
  if p.requestMsgToBicFromHost request.netfn request.cmd then
    match p.smbrCmdHandler with
    | some handler =>
      if request.netfn = netfnDcmiReq then
        match handler request with
        | some response =>
          let answered :=
            { c.dev with currentIpmiMsg := c.dev.currentIpmiMsg.answer response }
          { ({ sent with dev := answered }.setData number response) with task := .waiting number }
        | none => { sent with task := .waiting number }
      else
        { sent with task := .waiting number, unanswered := c.unanswered ++ [number] }
    | none =>
      { sent with task := .waiting number, unanswered := c.unanswered ++ [number] }
  else if p.immediateRespondFromHost request.netfn request.cmd then
    { (c.setData number request.immediateResponse) with
      task := .waiting number
      works := c.works ++ [request] }
  else { sent with task := .bridging number }

/-- The length is that of the buffer at most. -/
def SsifDev.Inside (d : SsifDev) : Prop := d.currentIpmiMsg.dataLen ≤ ipmiMsgMaxLength

instance (d : SsifDev) : Decidable d.Inside := by
  unfold SsifDev.Inside
  infer_instance

/-- The turn of `ssif_read_task` on one message, up to its wait. A request that has run over its
buffer is followed no further. -/
def Channel.handle (p : Platform) (c : Channel) (frame : Frame) (addrSet : Bool) : Channel :=
  match c.dev.assemble p (frame.take ssifBuffSize) with
  | .error error => { c with dev := (c.dev.errorRecord error).coldReset addrSet }
  | .ok (dev, complete) =>
    if dev.Inside ∧ complete then { c with dev := dev }.sendIpmi p (c.taken.length - 1)
    else { c with dev := dev }

def Channel.move (p : Platform) (c : Channel) : Event → Option Channel
  | .write frame addrSet =>
    if c.dev.addressed ∧ frame ≠ [] then
      some { c with
        queue := c.queue ++ [frame]
        -- `ssif_bus_drop`, at the message's first byte.
        dev := if completes frame then c.dev.lockOrRecord true addrSet else c.dev }
    else none
  | .read cmd =>
    if c.dev.addressed ∧ (cmd = .rdStart ∨ cmd = .rdNext ∨ cmd = .rdRetry) then
      match c.dev.collectData p cmd with
      | (dev, some message) => some { c with dev := dev, rdMsg := message, rdMsgOf := c.rspOf }
      | (dev, none) => some { c with dev := dev }
    else none
  | .receive addrSet =>
    match c.task, c.queue with
    | .idle, frame :: rest =>
      some ({ c with queue := rest, taken := c.taken ++ [frame] }.handle p frame addrSet)
    | _, _ => none
  | .receiveFailed addrSet =>
    if c.task = .idle then
      some { c with dev := (c.dev.errorRecord .targetWrRdError).coldReset addrSet }
    else none
  | .bridged response =>
    match c.task, response with
    | .bridging number, some r => some { (c.setData number r) with task := .waiting number }
    | .bridging number, none => some { c with task := .waiting number }
    | _, _ => none
  | .work request =>
    -- `send_cmd_work_handler` reads the message that is in `current_ipmi_msg` now.
    if request ∈ c.works then
      some { c with
        handed := c.handed ++ [c.dev.currentIpmiMsg.request]
        works := c.works.erase request }
    else none
  | .respond number response =>
    if number ∈ c.unanswered then
      some { (c.setData number response) with unanswered := c.unanswered.erase number }
    else none
  | .take addrSet =>
    match c.task, c.dev.rspBuffSem with
    | .waiting _, true =>
      let unlocked := { c.dev with rspBuffSem := false }.lockOrRecord false addrSet
      some { c with
        task := .idle
        dev :=
          if addrSet then { unlocked.errorRecord .noErr with curStatus := .waitForRdStart }
          else unlocked.reset }
    | _, _ => none
  | .timeOut =>
    match c.task, c.dev.rspBuffSem with
    | .waiting _, false =>
      some { c with task := .idle, dev := (c.dev.errorRecord .rspMsgTimeout).reset }
    | _, _ => none
  | .expire addrSet =>
    if c.dev.addrLock then
      some { c with
        dev := ((c.dev.errorRecord .addrLckTimeout).lockOrRecord false addrSet).reset }
    else none

def Channel.step (p : Platform) (c : Channel) (event : Event) : Option Channel :=
  if c.dev.Inside then c.move p event else none

end OpenBic.Ssif
