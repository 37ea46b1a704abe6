import OpenBic.Library.Checked
import OpenBic.Obmf.Message

/-!
# I3C execute sequence

`handle_execute_sequence`: the operations array is taken apart into transfers, each an operation
of its own or a private write merged with the private read behind it, and the transfers are run
on the bus until one fails or the response is full. A transfer comes to nothing when the data it
writes lies past the end of the message.
-/

namespace OpenBic.Obmf

open Library.Checked

def i3cMaxDataSize : Nat := 256

def i3cOpResultSize : Nat := 3

def i3cMaxRspPayload : Nat := 250

def i3cBroadcastAddr : UInt8 := 0x7E

def i3cOpCcc : UInt8 := 0

def i3cOpCccWDb : UInt8 := 1

def i3cOpPrivateSdr : UInt8 := 2

def i3cOpSuccess : UInt8 := 0

def i3cOpNack : UInt8 := 1

def i3cOpArbLost : UInt8 := 2

def i3cOpTimeout : UInt8 := 3

def i3cOpBusErr : UInt8 := 4

/-! ## The operations array -/

/-- What an operation does on the bus. -/
inductive OpKind where
  | ccc (id : UInt8)
  | cccWDb (id definingByte : UInt8)
  | privateSdr
deriving DecidableEq

/-- An operation as its descriptor gives it. -/
structure Op where
  kind : OpKind
  addr : UInt8
  isWrite : Bool
  dataLen : Nat
  owned : Nat
  tail : List UInt8
deriving DecidableEq

def Op.size (op : Op) : Nat := min op.dataLen i3cMaxDataSize

def Op.own (op : Op) : List UInt8 := op.tail.take op.owned

/-- The operation returns data: `has_read_data`. -/
def Op.reads (op : Op) : Bool :=
  match op.kind with
  | .cccWDb _ _ => false
  | _ => !op.isWrite

def length16 (low high : UInt8) : Nat := low.toNat + 256 * high.toNat

/-- The operation of a descriptor of `descriptorLen` bytes; nothing when it is too short or its
type unknown. -/
def readOp (opType : UInt8) (descriptorLen : Nat) (desc : List UInt8) : Option Op :=
  if opType = i3cOpCcc then
    match desc with
    | id :: addr :: write :: low :: high :: tail =>
      if descriptorLen < 5 then none
      else some
        { kind := .ccc id, addr, isWrite := write != 0, dataLen := length16 low high
          owned := descriptorLen - 5, tail }
    | _ => none
  else if opType = i3cOpCccWDb then
    match desc with
    | id :: definingByte :: addr :: write :: low :: high :: tail =>
      if descriptorLen < 6 then none
      else some
        { kind := .cccWDb id definingByte, addr, isWrite := write != 0
          dataLen := length16 low high, owned := descriptorLen - 6, tail }
    | _ => none
  else if opType = i3cOpPrivateSdr then
    match desc with
    | addr :: write :: low :: high :: tail =>
      if descriptorLen < 4 then none
      else some
        { kind := .privateSdr, addr, isWrite := write != 0, dataLen := length16 low high
          owned := descriptorLen - 4, tail }
    | _ => none
  else none

/-- An entry of the operations array. -/
structure Entry where
  sendStop : Bool
  op : Option Op
  /-- `next_ptr`: the bytes behind the entry. -/
  next : List UInt8

/-- The entry at the start of the remaining bytes; nothing when it is truncated. -/
def readEntry : List UInt8 → Option Entry
  | opType :: stop :: _ :: _ :: _ :: _ :: low :: high :: desc =>
    let descriptorLen := length16 low high
    if desc.length < descriptorLen then none
    else some
      { sendStop := stop != 0, op := readOp opType descriptorLen desc
        next := desc.drop descriptorLen }
  | _ => none

/-- The two operations that are merged into one transfer, and the bytes behind them. -/
def Entry.merged (entry : Entry) : Option (Op × Op × List UInt8) :=
  match entry.op, readEntry entry.next with
  | some write, some follower =>
    match follower.op with
    | some read =>
      if entry.sendStop = false ∧ write.kind = .privateSdr ∧ write.isWrite = true ∧
          read.kind = .privateSdr ∧ read.isWrite = false ∧ read.addr = write.addr then
        some (write, read, follower.next)
      else none
    | none => none
  | _, _ => none

/-- One turn of the loop over the operations array. -/
inductive BusTransfer where
  | single (op : Option Op)
  | pair (write read : Op)

/-- The transfers that `numOps` operations come to. -/
def transfers : Nat → List UInt8 → List BusTransfer
  | 0, _ => []
  | 1, ptr =>
    match readEntry ptr with
    | none => []
    | some entry => [.single entry.op]
  | left + 2, ptr =>
    match readEntry ptr with
    | none => []
    | some entry =>
      match entry.merged with
      | some (write, read, next) => .pair write read :: transfers left next
      | none => .single entry.op :: transfers (left + 1) entry.next

def operations : Nat → List UInt8 → List (Option Op)
  | 0, _ => []
  | left + 1, ptr =>
    match readEntry ptr with
    | none => []
    | some entry => entry.op :: operations left entry.next

def BusTransfer.ops : BusTransfer → List (Option Op)
  | .single op => [op]
  | .pair write read => [some write, some read]

/-! ## The bus -/

/-- The errors of the bus driver. -/
inductive Errno where
  | io
  | nxio
  | nodev
  | timedOut
  | again
  | busy
  | other

/-- `i3c_errno_to_op_status` of an error. -/
def Errno.opStatus : Errno → UInt8
  | .io | .nxio | .nodev => i3cOpNack
  | .timedOut => i3cOpTimeout
  | .again => i3cOpArbLost
  | .busy | .other => i3cOpBusErr

/-- The bytes that a read of `asked` bytes returned. -/
structure Received (asked : Nat) where
  bytes : List UInt8
  within : bytes.length ≤ asked

/-- The driver of an I3C bus; `δ` is the state of the driver and of the bus. -/
structure I3cBus (δ : Type) where
  /-- `k_mutex_lock` within two seconds. -/
  lock : δ → Bool × δ
  /-- `i3c_master_get_desc` finds the address. -/
  known : δ → UInt8 → Bool
  /-- `i3c_master_send_ccc` of a write: the bytes sent. -/
  cccWrite : δ → UInt8 → UInt8 → (data : List UInt8) → Except Errno (Fin (data.length + 1)) × δ
  /-- `i3c_master_send_ccc` of a read. -/
  cccRead : δ → UInt8 → UInt8 → (asked : Nat) → Except Errno (Received asked) × δ
  /-- `i3c_master_priv_xfer` of a write. -/
  privWrite : δ → UInt8 → (data : List UInt8) → Except Errno (Fin (data.length + 1)) × δ
  /-- `i3c_master_priv_xfer` of a read. -/
  privRead : δ → UInt8 → (asked : Nat) → Except Errno (Received asked) × δ
  /-- `i3c_master_priv_xfer` of a write and a read with a repeated start between them. -/
  privWriteRead : δ → UInt8 → (data : List UInt8) → (asked : Nat) →
    Except Errno (Fin (data.length + 1) × Received asked) × δ

/-- An operation that was run. -/
structure Done where
  op : Option Op
  status : UInt8
  actual : Nat
  written : Option (List UInt8)
  delivered : List UInt8
  data : List UInt8
deriving DecidableEq

def Done.refused (op : Option Op) (status : UInt8) : Done where
  op := op
  status := status
  actual := 0
  written := none
  delivered := []
  data := []

def Done.wrote (op : Op) (data : List UInt8) : Except Errno (Fin (data.length + 1)) → Done
  | .ok sent =>
    { op := some op, status := i3cOpSuccess, actual := sent, written := some data
      delivered := [], data := [] }
  | .error errno =>
    { op := some op, status := errno.opStatus, actual := 0, written := some data
      delivered := [], data := [] }

/-- A read that reached the bus, with `space` bytes left for its data. -/
def Done.read (op : Op) (space : Nat) : Except Errno (Received op.size) → Done
  | .ok received =>
    { op := some op, status := i3cOpSuccess, actual := received.bytes.length, written := none
      delivered := received.bytes, data := received.bytes.take space }
  | .error errno => .refused (some op) errno.opStatus

def Done.bytes (done : Done) : List UInt8 :=
  done.status :: bytes16 (UInt16.ofNat done.actual) ++ done.data

section Exec

variable {δ : Type} (bus : I3cBus δ)

/-- The write data of an operation, read behind the fixed part of its descriptor. -/
def Op.writeData (op : Op) : Option (List UInt8) := rangeAt op.tail 0 op.size

def execCcc (driver : δ) (id : UInt8) (op : Op) (space : Nat) : Option (Done × δ) := do
  let id := if op.addr ≠ i3cBroadcastAddr then id ||| 0x80 else id
  if op.isWrite then
    let data ← op.writeData
    let (locked, driver) := bus.lock driver
    if locked then
      let (result, driver) := bus.cccWrite driver id op.addr data
      some (.wrote op data result, driver)
    else some (.refused op i3cOpTimeout, driver)
  else
    let (locked, driver) := bus.lock driver
    if locked then
      let (result, driver) := bus.cccRead driver id op.addr op.size
      some (.read op space result, driver)
    else some (.refused op i3cOpTimeout, driver)

/-- `exec_ccc_w_db`: the defining byte goes ahead of the data, and the transfer is a write
whatever the operation says. -/
def execCccWDb (driver : δ) (id definingByte : UInt8) (op : Op) : Option (Done × δ) := do
  let data ← (if op.isWrite then op.writeData else some [])
  let (locked, driver) := bus.lock driver
  if locked then
    let (result, driver) := bus.cccWrite driver id op.addr (definingByte :: data)
    some (.wrote op (definingByte :: data) result, driver)
  else some (.refused op i3cOpTimeout, driver)

def execPrivateSdr (driver : δ) (op : Op) (space : Nat) : Option (Done × δ) := do
  let (locked, driver) := bus.lock driver
  if locked = false then some (.refused op i3cOpTimeout, driver)
  else if bus.known driver op.addr = false then some (.refused op i3cOpNack, driver)
  else if op.isWrite then
    let data ← op.writeData
    let (result, driver) := bus.privWrite driver op.addr data
    some (.wrote op data result, driver)
  else
    let (result, driver) := bus.privRead driver op.addr op.size
    some (.read op space result, driver)

/-- `exec_private_sdr_wr`: a write and a read as one transfer. -/
def execPrivateSdrWr (driver : δ) (write read : Op) (space : Nat) :
    Option (Done × Done × δ) := do
  let (locked, driver) := bus.lock driver
  if locked = false then
    some (.refused write i3cOpTimeout, .refused read i3cOpTimeout, driver)
  else if bus.known driver write.addr = false then
    some (.refused write i3cOpNack, .refused read i3cOpNack, driver)
  else
    let data ← write.writeData
    let (result, driver) := bus.privWriteRead driver write.addr data read.size
    match result with
    | .ok (sent, received) =>
      some (.wrote write data (.ok sent), .read read space (.ok received), driver)
    | .error errno =>
      some (.wrote write data (.error errno), .read read space (.error errno), driver)

/-- The single path: an operation of its own, with `space` bytes left for its data. -/
def execOp (driver : δ) (op : Option Op) (space : Nat) : Option (Done × δ) :=
  match op with
  | none => some (.refused none i3cOpBusErr, driver)
  | some op =>
    match op.kind with
    | .ccc id => execCcc bus driver id op space
    | .cccWDb id definingByte => execCccWDb bus driver id definingByte op
    | .privateSdr => execPrivateSdr bus driver op space

/-- The loop over the transfers from `results_offset` on: the operations run, transfer by
transfer. -/
def runTransfers (driver : δ) (offset : Nat) : List BusTransfer → Option (List (List Done) × δ)
  | [] => some ([], driver)
  | .pair write read :: rest =>
    if i3cMaxRspPayload < offset + 2 * i3cOpResultSize then some ([], driver)
    else do
      let offset := offset + 2 * i3cOpResultSize
      let (wrote, got, driver) ←
        execPrivateSdrWr bus driver write read (i3cMaxRspPayload - offset)
      if got.status = i3cOpSuccess then
        let (more, driver) ← runTransfers driver (offset + got.data.length) rest
        some ([wrote, got] :: more, driver)
      else some ([[wrote, got]], driver)
  | .single op :: rest =>
    if i3cMaxRspPayload < offset + i3cOpResultSize then some ([], driver)
    else do
      let offset := offset + i3cOpResultSize
      let (done, driver) ← execOp bus driver op (i3cMaxRspPayload - offset)
      if done.status = i3cOpSuccess then
        let (more, driver) ← runTransfers driver (offset + done.data.length) rest
        some ([done] :: more, driver)
      else some ([[done]], driver)

/-- `handle_execute_sequence`: the operations run, and the bytes behind the header of the
response. -/
def handleExecuteSequence (driver : δ) (numOps : UInt8) (opsData : List UInt8) :
    Option (List (List Done) × List UInt8 × δ) := do
  let (ran, driver) ← runTransfers bus driver 0 (transfers numOps.toNat opsData)
  let dones := ran.flatten
  some (ran, 0 :: UInt8.ofNat dones.length :: dones.flatMap Done.bytes, driver)

end Exec

end OpenBic.Obmf
